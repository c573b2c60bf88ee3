import CodeIndex.Run.Error
import CodeIndex.Time.Backoff
import CodeIndex.Time.Call

/-!
# Repeated attempts

The embedding and storing steps of a run are tried several times, each attempt with a time limit and
with growing pauses between them. The first success ends the series; when the last attempt fails,
its words are handed on.

## Main definitions

* `RetryPolicy`
* `RetryPolicy.attempt`: one attempt.
* `RetryPolicy.retry`: the series.
-/

namespace CodeIndex

universe u v

/-- How often, how long and with what pauses something is tried. Times are in milliseconds. -/
structure RetryPolicy where
  maxAttempts : Nat
  /-- The pause after the first attempt. -/
  baseDelay : Nat
  /-- The limit of each attempt. -/
  timeout : Nat
deriving DecidableEq

namespace RetryPolicy

variable {σ : Type u} {α : Type v}

/-- The number of attempts; there is always one. -/
def attempts (policy : RetryPolicy) : Nat := max policy.maxAttempts 1

/-- The pause after an attempt; attempts count from one. -/
def delayAfter (policy : RetryPolicy) (attempt : Nat) : Nat :=
  Backoff.delay policy.baseDelay attempt

/-- One attempt. An attempt that exceeds the limit is given up and has failed. -/
def attempt (policy : RetryPolicy) (operation : String) (request : Request σ (Except RunError α))
    (clocked : Clocked σ) : Except RunError α × Clocked σ :=
  match request.runWithin policy.timeout clocked with
  | (some result, clocked) => (result, clocked)
  | (none, clocked) => (.error (.timeout operation (policy.timeout / 1000)), clocked)

/-- The attempts from attempt `number` on, `further` more of them if it fails. -/
def retryFrom (policy : RetryPolicy) (operation : String)
    (request : Request σ (Except RunError α)) (further number : Nat) (clocked : Clocked σ) :
    Except RunError α × Clocked σ :=
  match policy.attempt operation request clocked with
  | (.ok a, clocked) => (.ok a, clocked)
  | (.error e, clocked) =>
    match further with
    | 0 => (.error (.retriesExhausted operation number e.message), clocked)
    | further + 1 =>
      policy.retryFrom operation request further (number + 1)
        (clocked.sleep (policy.delayAfter number))

/-- Tries something until it succeeds or the attempts are used up. -/
def retry (policy : RetryPolicy) (operation : String) (request : Request σ (Except RunError α))
    (clocked : Clocked σ) : Except RunError α × Clocked σ :=
  policy.retryFrom operation request (policy.attempts - 1) 1 clocked

end RetryPolicy

end CodeIndex
