import CodeIndex.Run.Indexer

/-!
# What computations come to

A run is a computation in `RunM`: it changes a world, takes time and may fail.  Everything that is
proved about runs is proved about `RunM.outcome`, the pair of what a computation comes to and the
clock and world that it leaves.  A computation is taken apart from the front: `of_outcome_bind` says
that either its first step failed, and then nothing else happened, or the rest ran on what the first
step left.

Steps are requests that are made several times.  `RetryPolicy.retry_cases` is the one induction over
attempts: whatever failed attempts keep, holds when the last attempt starts, and the last attempt
decides.  For a store operation an attempt is instantaneous, and for an embedding request it changes
the embedder alone; those are the two cases at the end of this module.

## Main statements

* `RunM.of_outcome_bind`: of a sequence of two steps, the first one failed or both were made.
* `RetryPolicy.retry_cases`: a series of attempts ends with the outcome of the last one.
* `Indexer.retried_storeRequest_cases`, `Indexer.retried_embedRequest_cases`
-/

namespace CodeIndex

variable {σ γ α β : Type}

namespace RunM

/-- What a computation comes to, and what it leaves behind. -/
def outcome (computation : RunM σ γ α) (clocked : Clocked (World σ γ)) :
    Except RunError α × Clocked (World σ γ) :=
  computation.run.run clocked

/-! ## Taking computations apart -/

variable {computation : RunM σ γ α} {next : α → RunM σ γ β}
variable {before middle after : Clocked (World σ γ)}

theorem outcome_bind_of_ok {a : α} (first : computation.outcome before = (.ok a, middle)) :
    (computation >>= next).outcome before = (next a).outcome middle := by
  unfold outcome at *
  simp only [ExceptT.run_bind, StateT.run_bind]
  rw [first]
  rfl

theorem outcome_bind_of_error {e : RunError}
    (first : computation.outcome before = (.error e, middle)) :
    (computation >>= next).outcome before = (.error e, middle) := by
  unfold outcome at *
  simp only [ExceptT.run_bind, StateT.run_bind]
  rw [first]
  rfl

/-- **Of a sequence of two steps, the first one failed or both were made.** -/
theorem of_outcome_bind {result : Except RunError β}
    (whole : (computation >>= next).outcome before = (result, after)) :
    (∃ e, computation.outcome before = (.error e, after) ∧ result = .error e) ∨
      ∃ a middle, computation.outcome before = (.ok a, middle) ∧
        (next a).outcome middle = (result, after) := by
  rcases first : computation.outcome before with ⟨answer, middle⟩
  cases answer with
  | error e =>
      rw [outcome_bind_of_error first] at whole
      obtain ⟨rfl, rfl⟩ := Prod.mk.inj whole
      exact .inl ⟨e, rfl, rfl⟩
  | ok a =>
      rw [outcome_bind_of_ok first] at whole
      exact .inr ⟨a, middle, rfl, whole⟩

/-- A sequence that succeeds made both steps. -/
theorem of_outcome_bind_ok {b : β}
    (whole : (computation >>= next).outcome before = (.ok b, after)) :
    ∃ a middle, computation.outcome before = (.ok a, middle) ∧
      (next a).outcome middle = (.ok b, after) := by
  rcases of_outcome_bind whole with ⟨e, -, impossible⟩ | both
  · cases impossible
  · exact both

@[simp] theorem outcome_pure (a : α) (clocked : Clocked (World σ γ)) :
    (pure a : RunM σ γ α).outcome clocked = (.ok a, clocked) := rfl

@[simp] theorem outcome_throw (e : RunError) (clocked : Clocked (World σ γ)) :
    (throw e : RunM σ γ α).outcome clocked = (.error e, clocked) := rfl

@[simp] theorem outcome_caught (clocked : Clocked (World σ γ)) :
    computation.caught.outcome clocked =
      (.ok (computation.outcome clocked).1, (computation.outcome clocked).2) := rfl

/-- An answer from outside is the result, and leaves everything as it is. -/
@[simp] theorem outcome_liftM (answer : Except RunError α) (clocked : Clocked (World σ γ)) :
    (liftM answer : RunM σ γ α).outcome clocked = (answer, clocked) := by
  cases answer <;> rfl

/-- The clock and world after a look at the surroundings. -/
def looked (clocked : Clocked (World σ γ)) : Clocked (World σ γ) :=
  { clocked with state := { clocked.state with step := clocked.state.step + 1 } }

@[simp] theorem outcome_see (view : Nat → α) (clocked : Clocked (World σ γ)) :
    (see view : RunM σ γ α).outcome clocked = (.ok (view clocked.state.step), looked clocked) := rfl

/-- A look never fails, and the rest goes on with what was seen. -/
theorem outcome_see_bind (view : Nat → α) (next : α → RunM σ γ β)
    (before : Clocked (World σ γ)) :
    (see view >>= next).outcome before = (next (view before.state.step)).outcome (looked before) :=
  outcome_bind_of_ok (outcome_see view before)

/-- Nor does a computation whose failure is its result. -/
theorem outcome_caught_bind (next : Except RunError α → RunM σ γ β)
    (before : Clocked (World σ γ)) :
    (computation.caught >>= next).outcome before =
      (next (computation.outcome before).1).outcome (computation.outcome before).2 :=
  outcome_bind_of_ok (outcome_caught before)

end RunM

/-! ## Repeated attempts -/

/-- Whether a request keeps a property of the state, answered or given up. -/
def Request.Keeps {S : Type} (request : Request S α) (Kept : S → Prop) : Prop :=
  ∀ now state, Kept state →
    Kept (request now state).finished ∧ ∀ time, Kept ((request now state).abandoned time)

theorem Request.Keeps.runWithin {S : Type} {request : Request S α} {Kept : S → Prop}
    (keeps : request.Keeps Kept) (limit : Nat) (clocked : Clocked S) (kept : Kept clocked.state) :
    Kept (request.runWithin limit clocked).2.state := by
  obtain ⟨finished, abandoned⟩ := keeps clocked.now clocked.state kept
  unfold Request.runWithin
  dsimp only
  split
  · exact finished
  · exact abandoned limit

namespace RetryPolicy

variable {S : Type} {policy : RetryPolicy} {operation : String}
variable {request : Request S (Except RunError α)} (Kept : S → Prop)

/-- What failed attempts keep is there when the last attempt starts. -/
theorem retryFrom_cases
    (failed : ∀ before e after, Kept before.state →
      policy.attempt operation request before = (.error e, after) → Kept after.state)
    (further number : Nat) (before after : Clocked S) (result : Except RunError α)
    (kept : Kept before.state)
    (run : policy.retryFrom operation request further number before = (result, after)) :
    ∃ last, Kept last.state ∧
      ((∃ e cause, result = .error e ∧
          policy.attempt operation request last = (.error cause, after)) ∨
        ∃ a, result = .ok a ∧ policy.attempt operation request last = (.ok a, after)) := by
  induction further generalizing number before with
  | zero =>
      rcases first : policy.attempt operation request before with ⟨answer, middle⟩
      rw [retryFrom, first] at run
      cases answer with
      | ok a =>
          obtain ⟨rfl, rfl⟩ := Prod.mk.inj run
          exact ⟨before, kept, .inr ⟨a, rfl, first⟩⟩
      | error cause =>
          obtain ⟨rfl, rfl⟩ := Prod.mk.inj run
          exact ⟨before, kept, .inl ⟨_, cause, rfl, first⟩⟩
  | succ further ih =>
      rcases first : policy.attempt operation request before with ⟨answer, middle⟩
      rw [retryFrom, first] at run
      cases answer with
      | ok a =>
          obtain ⟨rfl, rfl⟩ := Prod.mk.inj run
          exact ⟨before, kept, .inr ⟨a, rfl, first⟩⟩
      | error cause =>
          -- `Kept` does not look at the clock, so it survives the pause before the next attempt
          exact ih (number + 1) (middle.sleep (policy.delayAfter number))
            (failed before cause middle kept first) run

/-- **A series of attempts ends with the outcome of its last attempt,** which starts from what
failed attempts keep. -/
theorem retry_cases
    (failed : ∀ before e after, Kept before.state →
      policy.attempt operation request before = (.error e, after) → Kept after.state)
    {before after : Clocked S} {result : Except RunError α} (kept : Kept before.state)
    (run : policy.retry operation request before = (result, after)) :
    ∃ last, Kept last.state ∧
      ((∃ e cause, result = .error e ∧
          policy.attempt operation request last = (.error cause, after)) ∨
        ∃ a, result = .ok a ∧ policy.attempt operation request last = (.ok a, after)) :=
  retryFrom_cases Kept failed _ _ before after result kept run

variable {Kept}

/-- What a request keeps, attempts at it keep. -/
theorem keeps_retry (keeps : request.Keeps Kept) {before : Clocked S} (kept : Kept before.state) :
    Kept (policy.retry operation request before).2.state := by
  have attempt : ∀ {clocked : Clocked S}, Kept clocked.state →
      Kept (policy.attempt operation request clocked).2.state := by
    intro clocked kept
    have further := keeps.runWithin policy.timeout clocked kept
    unfold RetryPolicy.attempt
    rcases made : request.runWithin policy.timeout clocked with ⟨_ | _, after⟩ <;>
      rwa [made] at further
  rcases run : policy.retry operation request before with ⟨result, after⟩
  obtain ⟨last, kept, outcome⟩ := retry_cases Kept
    (fun clocked e after kept made => by
      have further := attempt kept
      rwa [made] at further) kept run
  have further := attempt kept
  rcases outcome with ⟨_, _, _, made⟩ | ⟨_, _, made⟩ <;> rwa [made] at further

end RetryPolicy

namespace Indexer

variable (around : Surroundings σ)

/-- A store operation is over at once, so its attempts are never given up. -/
theorem attempt_storeRequest (policy : RetryPolicy) (operation : String)
    (request : MemoryStore → MemoryStore.Answer α) (clocked : Clocked (World σ γ)) :
    policy.attempt operation (storeRequest around request) clocked =
      match around.storeFailure clocked.state.step with
      | some e => (.error (.store e), RunM.looked clocked)
      | none =>
        ((request clocked.state.store).1.mapError .store,
          { clocked with state :=
            { clocked.state with
              step := clocked.state.step + 1
              store := (request clocked.state.store).2 } }) := by
  unfold RetryPolicy.attempt Request.runWithin storeRequest
  cases around.storeFailure clocked.state.step with
  | some e => simp [Call.immediate, RunM.looked]
  | none => simp [Call.immediate]

/-- What an attempt at a store operation does: the surroundings let it fail, or it is made. -/
theorem attempt_storeRequest_cases {policy : RetryPolicy} {operation : String}
    {request : MemoryStore → MemoryStore.Answer α} {before after : Clocked (World σ γ)}
    {result : Except RunError α}
    (made : policy.attempt operation (storeRequest around request) before = (result, after)) :
    (∃ step e, around.storeFailure step = some e ∧ result = .error (.store e) ∧
        after.state.store = before.state.store) ∨
      ∃ answer, request before.state.store = (answer, after.state.store) ∧
        result = answer.mapError .store := by
  rw [attempt_storeRequest] at made
  cases failure : around.storeFailure before.state.step with
  | some e =>
      simp only [failure] at made
      obtain ⟨rfl, rfl⟩ := Prod.mk.inj made
      exact .inl ⟨_, e, failure, rfl, rfl⟩
  | none =>
      simp only [failure] at made
      obtain ⟨rfl, rfl⟩ := Prod.mk.inj made
      exact .inr ⟨_, rfl, rfl⟩

/-- **A store operation that is tried several times** succeeds once, after attempts that failed; or
its last attempt fails too.  `Kept` is anything that failed attempts keep. -/
theorem retried_storeRequest_cases (Kept : MemoryStore → Prop) {policy : RetryPolicy}
    {operation : String} {request : MemoryStore → MemoryStore.Answer α}
    (failed : ∀ store e after, Kept store → request store = (.error e, after) → Kept after)
    {before after : Clocked (World σ γ)} {result : Except RunError α}
    (kept : Kept before.state.store)
    (run : (retried policy operation (storeRequest around request)).outcome before =
      (result, after)) :
    (∃ e, result = .error e ∧ Kept after.state.store ∧
        ((∃ step e, around.storeFailure step = some e) ∨
          ∃ store e after, Kept store ∧ request store = (.error e, after))) ∨
      ∃ a store, result = .ok a ∧ Kept store ∧ request store = (.ok a, after.state.store) := by
  have keeps : ∀ (before : Clocked (World σ γ)) e after, Kept before.state.store →
      policy.attempt operation (storeRequest around request) before = (.error e, after) →
        Kept after.state.store := by
    intro before e after kept made
    rcases attempt_storeRequest_cases around made with ⟨_, _, -, -, same⟩ | ⟨answer, made, error⟩
    · exact same ▸ kept
    · cases answer with
      | ok a => cases error
      | error e => exact failed _ _ _ kept made
  obtain ⟨last, kept, outcome⟩ :=
    RetryPolicy.retry_cases (fun world : World σ γ => Kept world.store) keeps kept run
  rcases outcome with ⟨e, cause, rfl, made⟩ | ⟨a, rfl, made⟩
  · refine .inl ⟨e, rfl, keeps last cause after kept made, ?_⟩
    rcases attempt_storeRequest_cases around made with ⟨step, e, failure, -⟩ | ⟨answer, made, error⟩
    · exact .inl ⟨step, e, failure⟩
    · cases answer with
      | ok a => cases error
      | error e => exact .inr ⟨_, e, _, kept, made⟩
  · rcases attempt_storeRequest_cases around made with ⟨_, _, -, error, -⟩ | ⟨answer, made, success⟩
    · cases error
    · cases answer with
      | error e => cases success
      | ok b =>
          cases success
          exact .inr ⟨a, _, rfl, kept, made⟩

/-- A store operation that is made once. -/
theorem storeOnce_cases {request : MemoryStore → MemoryStore.Answer α}
    {before after : Clocked (World σ γ)} {result : Except RunError α}
    (run : (storeOnce around request).outcome before = (result, after)) :
    (∃ step e, around.storeFailure step = some e ∧ result = .error (.store e) ∧
        after.state.store = before.state.store) ∨
      ∃ answer, request before.state.store = (answer, after.state.store) ∧
        result = answer.mapError .store := by
  have outcome : (storeOnce around request).outcome before =
      (storeRequest around request).run before := rfl
  rw [outcome] at run
  unfold Request.run storeRequest at run
  cases failure : around.storeFailure before.state.step with
  | some e =>
      simp only [failure] at run
      obtain ⟨rfl, rfl⟩ := Prod.mk.inj run
      exact .inl ⟨_, e, failure, rfl, rfl⟩
  | none =>
      simp only [failure] at run
      obtain ⟨rfl, rfl⟩ := Prod.mk.inj run
      exact .inr ⟨_, rfl, rfl⟩

/-- What an attempt at an embedding request does: it changes the embedder alone, and has the
embedder's answer unless it was given up. -/
theorem attempt_embedRequest_cases {policy : RetryPolicy} {operation : String}
    {request : Request σ (Except ProviderError α)} {before after : Clocked (World σ γ)}
    {result : Except RunError α}
    (made : policy.attempt operation (embedRequest request) before = (result, after)) :
    after.state = { before.state with embedder := after.state.embedder } ∧
      ((∃ e, result = .error e ∧
          policy.timeout < (request before.now before.state.embedder).duration) ∨
        result = (request before.now before.state.embedder).result.mapError .provider) := by
  unfold RetryPolicy.attempt Request.runWithin embedRequest Call.map Call.lift at made
  dsimp only at made
  by_cases inTime : (request before.now before.state.embedder).duration ≤ policy.timeout
  · simp only [inTime, if_true] at made
    obtain ⟨rfl, rfl⟩ := Prod.mk.inj made
    exact ⟨rfl, .inr rfl⟩
  · simp only [inTime, if_false] at made
    obtain ⟨rfl, rfl⟩ := Prod.mk.inj made
    exact ⟨rfl, .inl ⟨_, rfl, Nat.lt_of_not_le inTime⟩⟩

/-- **An embedding request that is tried several times** changes the embedder alone.  Its answer is
one that the embedder gave; if it has none, the embedder failed or took too long. -/
theorem retried_embedRequest_cases {policy : RetryPolicy} {operation : String}
    {request : Request σ (Except ProviderError α)} {before after : Clocked (World σ γ)}
    {result : Except RunError α}
    (run : (retried policy operation (embedRequest request)).outcome before = (result, after)) :
    after.state = { before.state with embedder := after.state.embedder } ∧
      ∃ now embedder,
        (∃ e, result = .error e ∧ (policy.timeout < (request now embedder).duration ∨
            ∃ cause, (request now embedder).result = .error cause)) ∨
          ∃ a, result = .ok a ∧ (request now embedder).result = .ok a := by
  -- what attempts keep is everything but the embedder, compared to the start of the first attempt
  have keeps : ∀ (before' : Clocked (World σ γ)) e after,
      before'.state = { before.state with embedder := before'.state.embedder } →
      policy.attempt operation (embedRequest request) before' = (.error e, after) →
        after.state = { before.state with embedder := after.state.embedder } := by
    intro before' e after kept made
    rw [(attempt_embedRequest_cases made).1, kept]
  obtain ⟨last, kept, outcome⟩ := RetryPolicy.retry_cases
    (fun world : World σ γ => world = { before.state with embedder := world.embedder })
    keeps rfl run
  rcases outcome with ⟨e, cause, rfl, made⟩ | ⟨a, rfl, made⟩
  · refine ⟨keeps last cause after kept made, last.now, last.state.embedder, .inl ⟨e, rfl, ?_⟩⟩
    rcases (attempt_embedRequest_cases made).2 with ⟨-, -, late⟩ | answered
    · exact .inl late
    · cases answer : (request last.now last.state.embedder).result with
      | ok a =>
          rw [answer] at answered
          cases answered
      | error cause => exact .inr ⟨cause, rfl⟩
  · obtain ⟨alone, answered⟩ := attempt_embedRequest_cases made
    refine ⟨by rw [alone, kept], last.now, last.state.embedder, .inr ⟨a, rfl, ?_⟩⟩
    rcases answered with ⟨_, impossible, -⟩ | answered
    · cases impossible
    · cases answer : (request last.now last.state.embedder).result with
      | ok b =>
          rw [answer] at answered
          cases answered
          rfl
      | error cause =>
          rw [answer] at answered
          cases answered

end Indexer

end CodeIndex
