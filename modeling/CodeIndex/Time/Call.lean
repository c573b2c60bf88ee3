/-!
# Calls that take time

Requests to providers and stores take time and can be given up before they are answered. A call
says how long it takes, what comes of it, and what state it leaves behind, also when it is given up:
a request that was dropped while it waited has not happened.

Time is counted in milliseconds on a clock that only calls and pauses move.

## Main definitions

* `Call`, `Call.andThen`
* `Request`: what a call looks like when it is started at some time in some state.
* `Request.andThen`, `Request.pause`
* `Clocked`, `Request.run`, `Request.runWithin`
-/

namespace CodeIndex

universe u v

/-- A call under way, as seen when it starts. -/
structure Call (σ : Type u) (α : Type v) where
  /-- How long it takes when nobody gives it up. -/
  duration : Nat
  result : α
  /-- The state when it is over. -/
  finished : σ
  /-- The state when it is given up after some time. -/
  abandoned : Nat → σ

namespace Call

variable {σ τ : Type u} {α β : Type v}

/-- A call that is over at once. -/
def immediate (result : α) (state : σ) : Call σ α := ⟨0, result, state, fun _ => state⟩

/-- A call that waits, changes nothing while it waits, and then happens at once. -/
def after (duration : Nat) (waiting : σ) (result : α) (finished : σ) : Call σ α :=
  ⟨duration, result, finished, fun _ => waiting⟩

/-- A call followed by another one that depends on what came of it. -/
def andThen (call : Call σ α) (next : Nat → α → σ → Call σ β) : Call σ β :=
  let second := next call.duration call.result call.finished
  { duration := call.duration + second.duration
    result := second.result
    finished := second.finished
    abandoned := fun time =>
      if time < call.duration then call.abandoned time
      else second.abandoned (time - call.duration) }

/-- A call on a part of a larger state. -/
def lift (place : σ → τ) (call : Call σ α) : Call τ α :=
  ⟨call.duration, call.result, place call.finished, fun time => place (call.abandoned time)⟩

/-- A call with its result seen differently. -/
def map (f : α → β) (call : Call σ α) : Call σ β :=
  ⟨call.duration, f call.result, call.finished, call.abandoned⟩

end Call

/-- The call that a request becomes when it is made at some time in some state. -/
abbrev Request (σ : Type u) (α : Type v) := Nat → σ → Call σ α

/-- A state and the time on the clock. -/
structure Clocked (σ : Type u) where
  now : Nat
  state : σ

namespace Clocked

variable {σ : Type u}

/-- The clock after a pause. -/
def sleep (clocked : Clocked σ) (duration : Nat) : Clocked σ :=
  { clocked with now := clocked.now + duration }

end Clocked

namespace Request

variable {σ : Type u} {α β : Type v}

/-- A request that is answered at once and changes nothing. -/
def answer (result : α) : Request σ α := fun _ state => .immediate result state

/-- A request that only waits. -/
def pause (duration : Nat) : Request σ PUnit.{v + 1} := fun _ state =>
  .after duration state ⟨⟩ state

/-- A request followed by another one that depends on its answer and starts when it is over. -/
def andThen (request : Request σ α) (next : α → Request σ β) : Request σ β := fun now state =>
  (request now state).andThen fun elapsed result state => next result (now + elapsed) state

/-- A request with its answer seen differently. -/
def map (f : α → β) (request : Request σ α) : Request σ β := fun now state =>
  (request now state).map f

/-- Makes a request and waits for its answer. -/
def run (request : Request σ α) (clocked : Clocked σ) : α × Clocked σ :=
  let call := request clocked.now clocked.state
  (call.result, ⟨clocked.now + call.duration, call.finished⟩)

/-- Makes a request and waits for its answer, though not longer than the limit. An answer that
arrives with the limit is still an answer. -/
def runWithin (limit : Nat) (request : Request σ α) (clocked : Clocked σ) :
    Option α × Clocked σ :=
  let call := request clocked.now clocked.state
  if call.duration ≤ limit then
    (some call.result, ⟨clocked.now + call.duration, call.finished⟩)
  else (none, ⟨clocked.now + limit, call.abandoned limit⟩)

@[simp] theorem run_answer (result : α) (clocked : Clocked σ) :
    (answer result).run clocked = (result, clocked) := rfl

@[simp] theorem run_pause (duration : Nat) (clocked : Clocked σ) :
    (pause duration).run clocked = (⟨⟩, clocked.sleep duration) := rfl

/-- One request after the other is made on the clock that the first one leaves. -/
theorem run_andThen (request : Request σ α) (next : α → Request σ β) (clocked : Clocked σ) :
    (request.andThen next).run clocked =
      (next (request.run clocked).1).run (request.run clocked).2 := by
  simp [andThen, run, Call.andThen, Nat.add_assoc]

@[simp] theorem run_map (f : α → β) (request : Request σ α) (clocked : Clocked σ) :
    (request.map f).run clocked = (f (request.run clocked).1, (request.run clocked).2) := rfl

end Request

end CodeIndex
