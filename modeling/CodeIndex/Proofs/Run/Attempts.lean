import CodeIndex.Proofs.Time.Backoff
import CodeIndex.Proofs.Time.Series
import CodeIndex.Run.Retry

/-!
# Series of attempts

How often and when something is attempted, for every policy and whatever becomes of the attempts.
`CallScript.verdict` says what an attempt comes to when it may take so long and no longer: its
value, or the words for its failure.  `RetryPolicy.IsSeries` puts together what a series of attempts
is: as many calls as it takes, at their times, and the value or the words of the last one.

The induction is on the number of further attempts.  What carries it is the state in which an
attempt is made: `n` attempts are noted, and the clock shows the time at which attempt `n + 1`
begins.

## Main definitions

* `CallScript.verdict`
* `RetryPolicy.IsSeries`

## Main statements

* `RetryPolicy.retryFrom_cases_script`: the attempts from some attempt on.
* `RetryPolicy.retry_isSeries`
-/

namespace CodeIndex

variable {α : Type}

namespace CallScript

variable (script : CallScript (Except RunError α)) (operation : String) (timeout : Nat)

/-- What an attempt comes to within a limit: its value, or the words for what went wrong. -/
def verdict (attempt : Nat) : Except String α :=
  if (script attempt).duration ≤ timeout then (script attempt).result.mapError RunError.message
  else .error (operation ++ " timed out after " ++ toString (timeout / 1000) ++ "s")

/-- Whether an attempt succeeds within a limit. -/
def Succeeds (attempt : Nat) : Prop :=
  (script attempt).duration ≤ timeout ∧ ∃ a, (script attempt).result = .ok a

/-- How long an attempt lasts that is given up at a limit. -/
def lasting (attempt : Nat) : Nat := min (script attempt).duration timeout

end CallScript

namespace RetryPolicy

/-- **What a series of attempts is:** when they are made, until when it lasts, and what it comes
to. -/
structure IsSeries (policy : RetryPolicy) (operation : String)
    (script : CallScript (Except RunError α)) (now : Nat) (result : Except RunError α)
    (starts : List Nat) (finish : Nat) : Prop where
  /-- The first attempt that succeeds in time is the last one, if so many are allowed. -/
  length_of_earliest : ∀ attempt, IsEarliest (script.Succeeds policy.timeout) attempt →
    starts.length = min attempt (max 1 policy.maxAttempts)
  /-- If none succeeds, all that are allowed are made. -/
  length_of_none : (∀ attempt, 1 ≤ attempt → ¬script.Succeeds policy.timeout attempt) →
    starts.length = max 1 policy.maxAttempts
  /-- Attempts are given up at the limit, and the pauses between them double sixteen times. -/
  paced : IsPaced now (script.lasting policy.timeout)
    (fun attempt => min (policy.baseDelay * 2 ^ min (attempt - 1) 16) Backoff.longest) starts finish
  value : ∀ a, script.verdict operation policy.timeout starts.length = .ok a → result = .ok a
  exhausted : ∀ words, script.verdict operation policy.timeout starts.length = .error words →
    result = .error (.retriesExhausted operation (max 1 policy.maxAttempts) words)

variable (policy : RetryPolicy) (operation : String) (script : CallScript (Except RunError α))
variable (now : Nat)

/-- The pause after an attempt. -/
theorem delayAfter_eq (attempt : Nat) : policy.delayAfter attempt =
    min (policy.baseDelay * 2 ^ min (attempt - 1) 16) Backoff.longest :=
  Backoff.delay_eq _ _

/-- When the first attempts begin. -/
abbrev begun : Nat → List Nat :=
  beginnings now (script.lasting policy.timeout) policy.delayAfter

/-- **What one attempt does:** it lasts as long as it takes or as it may take, and its value or the
words for its failure are the verdict on it. -/
theorem attempt_script (made : Nat) :
    ∃ answer, policy.attempt operation script.request
        ⟨beginning now (script.lasting policy.timeout) policy.delayAfter made,
          policy.begun script now made⟩ =
        (answer, ⟨beginning now (script.lasting policy.timeout) policy.delayAfter made +
          script.lasting policy.timeout (made + 1), policy.begun script now (made + 1)⟩) ∧
      answer.mapError RunError.message = script.verdict operation policy.timeout (made + 1) := by
  unfold attempt Request.runWithin CallScript.request CallScript.verdict CallScript.lasting
  simp only [length_beginnings, beginnings_succ]
  by_cases inTime : (script (made + 1)).duration ≤ policy.timeout
  · rw [if_pos inTime, if_pos inTime, Nat.min_eq_left inTime]
    exact ⟨_, rfl, rfl⟩
  · rw [if_neg inTime, if_neg inTime, Nat.min_eq_right (Nat.le_of_not_le inTime)]
    exact ⟨_, rfl, rfl⟩

theorem succeeds_iff (attempt : Nat) : script.Succeeds policy.timeout attempt ↔
    ∃ a, script.verdict operation policy.timeout attempt = .ok a := by
  unfold CallScript.Succeeds CallScript.verdict
  by_cases inTime : (script attempt).duration ≤ policy.timeout
  · rw [if_pos inTime, and_iff_right inTime]
    cases (script attempt).result <;> simp [Except.mapError]
  · simp [inTime]

/-- **The attempts from some attempt on.**  They end with the first one that succeeds or with the
last one that is allowed, and nothing is waited for after it. -/
theorem retryFrom_cases_script (further made : Nat) :
    ∃ before result, IsLast (script.Succeeds policy.timeout) (made + 1) further (before + 1) ∧
      policy.retryFrom operation script.request further (made + 1)
        ⟨beginning now (script.lasting policy.timeout) policy.delayAfter made,
          policy.begun script now made⟩ =
        (result, ⟨beginning now (script.lasting policy.timeout) policy.delayAfter before +
          script.lasting policy.timeout (before + 1), policy.begun script now (before + 1)⟩) ∧
      ((∃ a, script.verdict operation policy.timeout (before + 1) = .ok a ∧ result = .ok a) ∨
        ∃ words, script.verdict operation policy.timeout (before + 1) = .error words ∧
          before = made + further ∧
            result = .error (.retriesExhausted operation (before + 1) words)) := by
  induction further generalizing made with
  | zero =>
      obtain ⟨answer, attempted, verdict⟩ := attempt_script policy operation script now made
      rw [retryFrom, attempted]
      cases answer with
      | ok a => exact ⟨made, _, .single, rfl, .inl ⟨a, verdict.symm, rfl⟩⟩
      | error e => exact ⟨made, _, .single, rfl, .inr ⟨_, verdict.symm, rfl, rfl⟩⟩
  | succ further ih =>
      obtain ⟨answer, attempted, verdict⟩ := attempt_script policy operation script now made
      rw [retryFrom, attempted]
      cases answer with
      | ok a =>
          exact ⟨made, _, .here ((succeeds_iff policy operation script _).2 ⟨a, verdict.symm⟩), rfl,
            .inl ⟨a, verdict.symm, rfl⟩⟩
      | error e =>
          have failed : ¬script.Succeeds policy.timeout (made + 1) := fun succeeds => by
            obtain ⟨a, success⟩ := (succeeds_iff policy operation script _).1 succeeds
            rw [← verdict] at success
            cases success
          obtain ⟨before, result, last, run, outcome⟩ := ih (made + 1)
          refine ⟨before, result, last.later failed, run, ?_⟩
          rwa [Nat.add_right_comm] at outcome

/-- **Series of attempts.**  For every policy and whatever becomes of the attempts, a series is made
as it should be; and pauses are computed in machine words without any overflow, whatever the first
pause is and however many attempts were made. -/
theorem retry_isSeries :
    policy.IsSeries operation script now
      (policy.retry operation script.request ⟨now, []⟩).1
      (policy.retry operation script.request ⟨now, []⟩).2.state
      (policy.retry operation script.request ⟨now, []⟩).2.now ∧
    ∀ (base : TimeSpan) (attempt : UInt32), ∃ pause, base.pause? attempt = some pause ∧
      pause.total = min (base.total * 2 ^ min (attempt.toNat - 1) 16) TimeSpan.longest.total ∧
      (base.total % 1000000 = 0 →
        pause.total / 1000000 = Backoff.delay (base.total / 1000000) attempt.toNat) := by
  refine ⟨?_, fun base attempt => base.exists_pause attempt⟩
  obtain ⟨before, result, last, run, outcome⟩ :=
    retryFrom_cases_script policy operation script now (policy.attempts - 1) 0
  have allowed : policy.attempts = max 1 policy.maxAttempts := Nat.max_comm _ _
  have some : 1 ≤ policy.attempts := allowed ▸ Nat.le_max_left _ _
  have series : policy.retry operation script.request ⟨now, []⟩ = _ := run
  rw [series]
  refine ⟨fun attempt earliest => ?_, fun none => ?_, ?_, fun a success => ?_,
    fun words failure => ?_⟩
  · rw [length_beginnings, last.eq_min some earliest, allowed]
  · rw [length_beginnings, last.eq_budget some fun attempt one _ => none attempt one, allowed]
  · rw [← funext policy.delayAfter_eq]
    exact isPaced_beginnings _ _ _ _
  · dsimp only at success
    rw [length_beginnings] at success
    rcases outcome with ⟨b, verdict, made⟩ | ⟨words, verdict, -⟩ <;> rw [verdict] at success
    · cases success
      exact made
    · cases success
  · dsimp only at failure
    rw [length_beginnings] at failure
    rcases outcome with ⟨b, verdict, -⟩ | ⟨words, verdict, whole, made⟩ <;> rw [verdict] at failure
    · cases failure
    · cases failure
      have number : before + 1 = policy.attempts := by omega
      rw [made, number, allowed]

end RetryPolicy

end CodeIndex
