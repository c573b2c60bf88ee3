import CodeIndex.Number.Count
import CodeIndex.Provider.Error
import CodeIndex.Text.Line
import CodeIndex.Time.Backoff
import CodeIndex.Time.Call

/-!
# Providers that ask to slow down

A provider that is asked too often answers with status 429 or 503, perhaps with a number of seconds
to wait. Such an answer is not an answer yet: the request is made again after a pause. Everything
else is handed on as it is, refusals and failures to send included; what to do about those is
decided elsewhere.

## Main definitions

* `Throttle.Verdict`, `Throttle.classify`
* `ThrottlePolicy`, `ThrottlePolicy.persist`
-/

namespace CodeIndex

universe u v

namespace Throttle

/-- Whether an answer is to be used, or the provider wants a pause, perhaps of so many seconds. -/
inductive Verdict where
  | proceed
  | wait (seconds : Option Nat)
deriving DecidableEq

/-- Characters that may stand in a readable header: visible ASCII, spaces and tabs. -/
def isHeaderChar (c : Char) : Bool :=
  c == '\t' || (32 ≤ c.toNat && c.toNat < 127)

/-- The seconds that a header asks to wait. A date is not understood. -/
def parseWait? (header : String) : Option Nat :=
  if header.toList.all isHeaderChar then
    Number.countBelow? UInt64.size (Text.trim header.toList)
  else none

/-- The statuses that ask to slow down. -/
def isThrottled (status : Nat) : Bool := status == 429 || status == 503

/-- What an answer with a status, and perhaps a header about waiting, asks for. -/
def classify (status : Nat) (header : Option String) : Verdict :=
  if isThrottled status then .wait (header.bind parseWait?) else .proceed

end Throttle

/-- How often a throttled request is made, and how long the pauses are. Times are in
milliseconds. -/
structure ThrottlePolicy where
  maxAttempts : Nat
  baseDelay : Nat
  /-- No pause is longer, whoever asks for it. -/
  maxDelay : Nat
deriving DecidableEq

namespace ThrottlePolicy

variable {σ : Type u} {ρ : Type v}

/-- The policy for providers. -/
def standard : ThrottlePolicy := ⟨3, 1000, 30000⟩

/-- The number of times a request is made; at least once. -/
def attempts (policy : ThrottlePolicy) : Nat := max policy.maxAttempts 1

/-- The pause after an attempt: what the provider asks for, else the growing pause. -/
def delayAfter (policy : ThrottlePolicy) (attempt : Nat) (seconds : Option Nat) : Nat :=
  min ((seconds.map (· * 1000)).getD (Backoff.delay policy.baseDelay attempt)) policy.maxDelay

/-- The attempts from attempt `number` on, `further` more of them if it is throttled. -/
def attemptFrom (policy : ThrottlePolicy) (classify : ρ → Throttle.Verdict)
    (request : Request σ (Except ProviderError ρ)) (further number : Nat) :
    Request σ (Except ProviderError ρ) :=
  request.andThen fun result =>
    match result with
    | .error e => .answer (.error e)
    | .ok response =>
      match classify response with
      | .proceed => .answer (.ok response)
      | .wait seconds =>
        match further with
        | 0 => .answer (.error .rateLimited)
        | further + 1 =>
          (Request.pause (policy.delayAfter number seconds)).andThen fun _ =>
            policy.attemptFrom classify request further (number + 1)

/-- A request that is made until it is let through or the attempts are used up. -/
def persist (policy : ThrottlePolicy) (classify : ρ → Throttle.Verdict)
    (request : Request σ (Except ProviderError ρ)) : Request σ (Except ProviderError ρ) :=
  policy.attemptFrom classify request (policy.attempts - 1) 1

end ThrottlePolicy

end CodeIndex
