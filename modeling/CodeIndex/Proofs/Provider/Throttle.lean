import CodeIndex.Proofs.Text.Trim
import CodeIndex.Proofs.Time.Backoff
import CodeIndex.Proofs.Time.Series
import CodeIndex.Provider.Exchange
import CodeIndex.Provider.Throttle
import Mathlib.Algebra.Order.BigOperators.Group.Finset

/-!
# Series of requests to a provider that asks to slow down

A request goes to a provider until an answer is let through, it fails to be sent, or the attempts
are used up.  `ThrottlePolicy.IsSeries` says what such a series is, for every policy and whatever
comes back: how many requests are made and when, and what is handed on.  Between them the provider
may say how long to wait; `Throttle.Asks` says which headers are understood, without the reader of
headers.

As for other series of attempts, the induction is on the number of further requests, and what
carries it is the state in which a request is made.

## Main definitions

* `Throttle.Asks`: whether a header asks to wait so many seconds.
* `CallScript.Decides`: whether what comes back is handed on.
* `ThrottlePolicy.IsSeries`

## Main statements

* `Throttle.parseWait?_eq_some_iff`
* `ThrottlePolicy.run_scripted`: the requests from some request on.
* `ThrottlePolicy.persist_isSeries`
-/

namespace CodeIndex

open CodeIndex.Text

/-! ## Headers that ask to wait -/

/-- **Which texts denote a count:** decimal digits, perhaps behind a plus sign. -/
theorem Number.countBelow?_eq_some_iff {bound count : Nat} {text : List Char} :
    Number.countBelow? bound text = some count ↔
      ∃ sign digits : List Char, text = sign ++ digits ∧ (sign = [] ∨ sign = ['+']) ∧
        digits ≠ [] ∧ (∀ c ∈ digits, c.isDigit = true) ∧
        Nat.ofDigitChars 10 digits 0 = count ∧ count < bound := by
  have read : ∀ digits : List Char,
      (if digits.isEmpty || !digits.all Char.isDigit then none
        else if Number.digitsValue digits < bound then some (Number.digitsValue digits)
        else none) = some count ↔
      digits ≠ [] ∧ (∀ c ∈ digits, c.isDigit = true) ∧
        Nat.ofDigitChars 10 digits 0 = count ∧ count < bound := by
    intro digits
    have value : Number.digitsValue digits = Nat.ofDigitChars 10 digits 0 := rfl
    rw [value]
    grind
  unfold Number.countBelow?
  split
  · rename_i digits
    rw [read]
    constructor
    · exact fun denotes => ⟨['+'], digits, rfl, .inr rfl, denotes⟩
    · rintro ⟨sign, digits', same, rfl | rfl, filled, allDigits, rest⟩
      · rw [List.nil_append] at same
        have plus := allDigits '+' (same ▸ List.mem_cons_self)
        exact absurd plus (by decide)
      · obtain rfl := (List.cons.inj same).2
        exact ⟨filled, allDigits, rest⟩
  · rename_i unsigned
    rw [read]
    constructor
    · exact fun denotes => ⟨[], text, rfl, .inl rfl, denotes⟩
    · rintro ⟨sign, digits, same, rfl | rfl, rest⟩
      · exact same ▸ rest
      · exact absurd same (unsigned digits)

namespace Throttle

/-- Whether a header asks to wait so many seconds: decimal digits, perhaps behind a plus sign, with
spaces and tabs around them, of a number that fits 64 bits. -/
def Asks (header : String) (seconds : Nat) : Prop :=
  ∃ before sign digits after : List Char,
    header.toList = before ++ (sign ++ digits) ++ after ∧
    (∀ c ∈ before ++ after, c = ' ' ∨ c = '\t') ∧ (sign = [] ∨ sign = ['+']) ∧
    digits ≠ [] ∧ (∀ c ∈ digits, c.isDigit = true) ∧
    Nat.ofDigitChars 10 digits 0 = seconds ∧ seconds < 2 ^ 64

/-- Of the characters of a readable header, spaces and tabs alone are white space. -/
theorem eq_of_isBlank {c : Char} (readable : isHeaderChar c = true) (blank : isBlank c = true) :
    c = ' ' ∨ c = '\t' := by
  rw [← Char.toNat_inj, ← Char.toNat_inj]
  simp only [isHeaderChar, isBlank, Bool.or_eq_true, Bool.and_eq_true, decide_eq_true_eq,
    beq_iff_eq, ← Char.toNat_inj] at readable blank
  change c.toNat = 32 ∨ c.toNat = 9
  change c.toNat = 9 ∨ _ at readable
  omega

/-- Digits and plus signs may stand in a header, and are no white space. -/
theorem plain_of_number {c : Char} (plain : c.isDigit = true ∨ c = '+') :
    isHeaderChar c = true ∧ isBlank c = false := by
  rcases plain with digit | rfl
  · rw [Char.isDigit_iff_toNat] at digit
    change 48 ≤ c.toNat ∧ c.toNat ≤ 57 at digit
    constructor
    · rw [isHeaderChar, Bool.or_eq_true, Bool.and_eq_true, decide_eq_true_eq, decide_eq_true_eq]
      omega
    · rw [Bool.eq_false_iff]
      intro blank
      simp only [isBlank, Bool.or_eq_true, Bool.and_eq_true, decide_eq_true_eq, beq_iff_eq] at blank
      omega
  · decide

/-- What stands in a header between spaces and tabs is found, if it has none itself. -/
theorem trim_of_plain {before number after : List Char}
    (around : ∀ c ∈ before ++ after, c = ' ' ∨ c = '\t')
    (plain : ∀ c ∈ number, isHeaderChar c = true ∧ isBlank c = false) :
    (before ++ number ++ after).all isHeaderChar = true ∧
      trim (before ++ number ++ after) = number := by
  have blank : ∀ c ∈ before ++ after, isHeaderChar c = true ∧ isBlank c = true := by
    intro c member
    rcases around c member with rfl | rfl <;> decide
  rw [List.forall_mem_append] at blank
  constructor
  · rw [List.all_append, List.all_append, Bool.and_eq_true, Bool.and_eq_true, List.all_eq_true,
      List.all_eq_true, List.all_eq_true]
    exact ⟨⟨fun c member => (blank.1 c member).1, fun c member => (plain c member).1⟩,
      fun c member => (blank.2 c member).1⟩
  · exact trim_surrounded (fun c member => (blank.1 c member).2)
      (fun c member => (blank.2 c member).2)
      (fun c member => (plain c (List.mem_of_mem_head? member)).2)
      (fun c member => (plain c (List.mem_of_mem_getLast? member)).2)

/-- **Which headers are understood.** -/
theorem parseWait?_eq_some_iff {header : String} {seconds : Nat} :
    parseWait? header = some seconds ↔ Asks header seconds := by
  unfold parseWait?
  constructor
  · intro understood
    split at understood
    · rename_i readable
      rw [List.all_eq_true] at readable
      obtain ⟨before, after, whole, blank, blank'⟩ := exists_trim header.toList
      obtain ⟨sign, digits, number, rest⟩ := Number.countBelow?_eq_some_iff.1 understood
      refine ⟨before, sign, digits, after, number ▸ whole, fun c member => ?_, rest⟩
      rcases List.mem_append.1 member with member | member
      · exact eq_of_isBlank (readable c (whole ▸ by simp [member])) (blank c member)
      · exact eq_of_isBlank (readable c (whole ▸ by simp [member])) (blank' c member)
    · cases understood
  · rintro ⟨before, sign, digits, after, whole, around, signed, filled, allDigits, rest⟩
    have plain : ∀ c ∈ sign ++ digits, isHeaderChar c = true ∧ isBlank c = false := by
      intro c member
      rcases List.mem_append.1 member with member | member
      · rcases signed with rfl | rfl
        · cases member
        · exact plain_of_number (.inr (List.mem_singleton.1 member))
      · exact plain_of_number (.inl (allDigits c member))
    obtain ⟨readable, number⟩ := trim_of_plain around plain
    rw [whole, if_pos readable, number]
    exact Number.countBelow?_eq_some_iff.2 ⟨sign, digits, rfl, signed, filled, allDigits, rest⟩

end Throttle

/-! ## Requests one after the other -/

namespace CallScript

variable (script : CallScript (Except ProviderError Reply))

/-- Whether what comes back is handed on: a failure to send, or an answer whose status is another
one than those that ask to slow down. -/
def Decides (call : Nat) : Prop :=
  match (script call).result with
  | .error _ => True
  | .ok reply => reply.status ≠ 429 ∧ reply.status ≠ 503

/-- **What can come back:** a failure to send, an answer that is handed on, or one that asks to slow
down. -/
theorem result_cases (call : Nat) :
    (∃ e, (script call).result = .error e ∧ script.Decides call) ∨
      (∃ reply, (script call).result = .ok reply ∧ script.Decides call ∧
        Throttle.classify reply.status reply.retryAfter = .proceed) ∨
      ∃ reply, (script call).result = .ok reply ∧ ¬script.Decides call ∧
        Throttle.classify reply.status reply.retryAfter =
          .wait (reply.retryAfter.bind Throttle.parseWait?) := by
  unfold Decides
  cases result : (script call).result with
  | error e => exact .inl ⟨e, rfl, trivial⟩
  | ok reply =>
      by_cases throttled : Throttle.isThrottled reply.status = true
      · refine .inr (.inr ⟨reply, rfl, ?_, if_pos throttled⟩)
        unfold Throttle.isThrottled at throttled
        grind
      · refine .inr (.inl ⟨reply, rfl, ?_, if_neg throttled⟩)
        unfold Throttle.isThrottled at throttled
        grind

/-- The header about waiting that comes back, if there is one. -/
def header? (call : Nat) : Option String :=
  match (script call).result with
  | .error _ => none
  | .ok reply => reply.retryAfter

end CallScript

namespace ThrottlePolicy

/-- Whether a pause after a request is made as it should be: for the time that the provider asks
for, if that is understood, else for the growing time, and never longer than allowed. -/
structure IsPause (policy : ThrottlePolicy) (call : Nat) (header : Option String) (pause : Nat) :
    Prop where
  asked : ∀ text seconds, header = some text → Throttle.Asks text seconds →
    pause = min policy.maxDelay (seconds * 1000)
  growing : (∀ text seconds, header = some text → ¬Throttle.Asks text seconds) →
    pause = min policy.maxDelay (policy.baseDelay * 2 ^ min (call - 1) 16)

/-- **What a series of requests is:** when they are made, until when it lasts, and what it comes
to. -/
structure IsSeries (policy : ThrottlePolicy) (script : CallScript (Except ProviderError Reply))
    (now : Nat) (result : Except ProviderError Reply) (starts : List Nat) (finish : Nat) :
    Prop where
  /-- The first request that decides is the last one, if so many are allowed. -/
  length_of_earliest : ∀ call, IsEarliest script.Decides call →
    starts.length = min call (max 1 policy.maxAttempts)
  /-- If none decides, all that are allowed are made. -/
  length_of_none : (∀ call, 1 ≤ call → ¬script.Decides call) →
    starts.length = max 1 policy.maxAttempts
  paced : ∃ pause, IsPaced now (fun call => (script call).duration) pause starts finish ∧
    ∀ call, policy.IsPause call (script.header? call) (pause call)
  /-- Requests apart, the series takes no longer than the longest pauses between them. -/
  finish_le : finish ≤ now + ∑ call ∈ Finset.range starts.length, (script (call + 1)).duration +
    (max 1 policy.maxAttempts - 1) * policy.maxDelay
  /-- What decides is handed on as it is. -/
  decided : ∀ call, IsEarliest script.Decides call → call ≤ max 1 policy.maxAttempts →
    result = (script call).result
  exhausted : (∀ call, 1 ≤ call → call ≤ max 1 policy.maxAttempts → ¬script.Decides call) →
    result = .error .rateLimited

variable {policy : ThrottlePolicy} {script : CallScript (Except ProviderError Reply)} {now : Nat}

/-- The pause that is made after a request. -/
def pauseAfter (policy : ThrottlePolicy) (script : CallScript (Except ProviderError Reply))
    (call : Nat) : Nat :=
  policy.delayAfter call ((script.header? call).bind Throttle.parseWait?)

/-- When a request is made, by the number of requests before it. -/
abbrev startAfter (policy : ThrottlePolicy) (script : CallScript (Except ProviderError Reply))
    (now : Nat) : Nat → Nat :=
  beginning now (fun call => (script call).duration) (policy.pauseAfter script)

/-- When the first requests are made. -/
abbrev begun (policy : ThrottlePolicy) (script : CallScript (Except ProviderError Reply))
    (now : Nat) : Nat → List Nat :=
  beginnings now (fun call => (script call).duration) (policy.pauseAfter script)

theorem isPause_pauseAfter (held : policy.maxDelay ≤ Backoff.longest) (call : Nat) :
    policy.IsPause call (script.header? call) (policy.pauseAfter script call) where
  asked text seconds sent asks := by
    rw [pauseAfter, delayAfter, sent, Option.bind_some, Throttle.parseWait?_eq_some_iff.2 asks]
    exact Nat.min_comm _ _
  growing silent := by
    have none : (script.header? call).bind Throttle.parseWait? = none := by
      rw [Option.bind_eq_none_iff]
      intro text sent
      rw [Option.eq_none_iff_forall_ne_some]
      intro seconds understood
      exact silent text seconds sent (Throttle.parseWait?_eq_some_iff.1 understood)
    rw [pauseAfter, delayAfter, none, Option.map_none, Option.getD_none, Backoff.delay_eq]
    omega

theorem pauseAfter_le (call : Nat) : policy.pauseAfter script call ≤ policy.maxDelay :=
  Nat.min_le_right _ _

/-- **What the requests from some request on do:** the first one is made; and if the provider wants
a pause and another request is allowed, the others follow after it. -/
theorem run_attemptFrom {σ ρ : Type} (policy : ThrottlePolicy) (classify : ρ → Throttle.Verdict)
    (request : Request σ (Except ProviderError ρ)) (further number : Nat) (before : Clocked σ) :
    (policy.attemptFrom classify request further number).run before =
      match request.run before with
      | (.error e, after) => (.error e, after)
      | (.ok response, after) =>
        match classify response with
        | .proceed => (.ok response, after)
        | .wait seconds =>
          match further with
          | 0 => (.error .rateLimited, after)
          | further + 1 =>
            (policy.attemptFrom classify request further (number + 1)).run
              (after.sleep (policy.delayAfter number seconds)) := by
  rw [attemptFrom, Request.run_andThen]
  rcases request.run before with ⟨e | response, after⟩
  · rfl
  · dsimp only
    rcases classify response with _ | seconds
    · rfl
    · cases further with
      | zero => rfl
      | succ further => exact Request.run_andThen _ _ _

/-- A request that follows a script takes its time, and is noted. -/
theorem run_request (made : Nat) :
    script.request.run ⟨policy.startAfter script now made, policy.begun script now made⟩ =
      ((script (made + 1)).result,
        ⟨policy.startAfter script now made + (script (made + 1)).duration,
          policy.begun script now (made + 1)⟩) := by
  simp only [Request.run, CallScript.request, length_beginnings, beginnings_succ]

/-- The requests that a policy allows from some request on, when they follow a script. -/
abbrev scripted (policy : ThrottlePolicy) (script : CallScript (Except ProviderError Reply))
    (further number : Nat) : Request (List Nat) (Except ProviderError Reply) :=
  policy.attemptFrom (fun reply => Throttle.classify reply.status reply.retryAfter) script.request
    further number

/-- What decides is handed on as it is, and nothing is waited for after it. -/
theorem run_scripted_of_decides {made : Nat} (decides : script.Decides (made + 1)) (further : Nat) :
    (policy.scripted script further (made + 1)).run
        ⟨policy.startAfter script now made, policy.begun script now made⟩ =
      ((script (made + 1)).result,
        ⟨policy.startAfter script now made + (script (made + 1)).duration,
          policy.begun script now (made + 1)⟩) := by
  rw [scripted, run_attemptFrom, run_request]
  rcases script.result_cases (made + 1) with
    ⟨e, sent, -⟩ | ⟨reply, sent, -, verdict⟩ | ⟨_, _, undecided, _⟩
  · rw [sent]
  · rw [sent]
    simp only [verdict]
  · exact absurd decides undecided

/-- After an answer that asks to slow down the next request is made, if there is to be one. -/
theorem run_scripted_of_not_decides {made : Nat} (undecided : ¬script.Decides (made + 1))
    (further : Nat) :
    (policy.scripted script further (made + 1)).run
        ⟨policy.startAfter script now made, policy.begun script now made⟩ =
      match further with
      | 0 => (.error .rateLimited,
          ⟨policy.startAfter script now made + (script (made + 1)).duration,
            policy.begun script now (made + 1)⟩)
      | further + 1 => (policy.scripted script further (made + 1 + 1)).run
          ⟨policy.startAfter script now (made + 1), policy.begun script now (made + 1)⟩ := by
  rw [scripted, run_attemptFrom, run_request]
  rcases script.result_cases (made + 1) with ⟨_, _, decides⟩ | ⟨_, _, decides, _⟩ |
    ⟨reply, sent, -, verdict⟩
  · exact absurd decides undecided
  · exact absurd decides undecided
  · have pause : policy.pauseAfter script (made + 1) =
        policy.delayAfter (made + 1) (reply.retryAfter.bind Throttle.parseWait?) := by
      rw [pauseAfter, CallScript.header?, sent]
    rw [sent]
    simp only [verdict, ← pause]
    rfl

/-- **The requests from some request on.**  They end with the first one that decides or with the
last one that is allowed, and nothing is waited for after it. -/
theorem run_scripted (policy : ThrottlePolicy)
    (script : CallScript (Except ProviderError Reply)) (now further made : Nat) :
    ∃ before result, IsLast script.Decides (made + 1) further (before + 1) ∧
      (policy.scripted script further (made + 1)).run
          ⟨policy.startAfter script now made, policy.begun script now made⟩ =
        (result, ⟨policy.startAfter script now before + (script (before + 1)).duration,
          policy.begun script now (before + 1)⟩) ∧
      ((script.Decides (before + 1) ∧ result = (script (before + 1)).result) ∨
        ¬script.Decides (before + 1) ∧ result = .error .rateLimited) := by
  induction further generalizing made with
  | zero =>
      by_cases decides : script.Decides (made + 1)
      · exact ⟨made, _, .single, run_scripted_of_decides decides 0, .inl ⟨decides, rfl⟩⟩
      · exact ⟨made, _, .single, run_scripted_of_not_decides decides 0, .inr ⟨decides, rfl⟩⟩
  | succ further ih =>
      by_cases decides : script.Decides (made + 1)
      · exact ⟨made, _, .here decides, run_scripted_of_decides decides _, .inl ⟨decides, rfl⟩⟩
      · obtain ⟨before, result, last, run, outcome⟩ := ih (made + 1)
        exact ⟨before, result, last.later decides,
          (run_scripted_of_not_decides decides _).trans run, outcome⟩

/-- **Series of requests.**  For every policy whose longest pause is a time that a clock can hold,
and whatever comes back, a series is made as it should be. -/
theorem persist_isSeries (policy : ThrottlePolicy) (held : policy.maxDelay ≤ Backoff.longest)
    (script : CallScript (Except ProviderError Reply)) (now : Nat) :
    let series := (policy.persist (fun reply => Throttle.classify reply.status reply.retryAfter)
      script.request).run ⟨now, []⟩
    policy.IsSeries script now series.1 series.2.state series.2.now := by
  obtain ⟨before, result, last, run, outcome⟩ :=
    run_scripted policy script now (policy.attempts - 1) 0
  have bound := last.le_add
  have allowed : policy.attempts = max 1 policy.maxAttempts := Nat.max_comm _ _
  have some : 1 ≤ policy.attempts := allowed ▸ Nat.le_max_left _ _
  have series : (policy.persist (fun reply => Throttle.classify reply.status reply.retryAfter)
      script.request).run ⟨now, []⟩ = _ := run
  dsimp only
  rw [series]
  refine ⟨fun call earliest => ?_, fun none => ?_, ?_, ?_, fun call earliest few => ?_,
    fun none => ?_⟩
  · rw [length_beginnings, last.eq_min some earliest, allowed]
  · rw [length_beginnings, last.eq_budget some fun call one _ => none call one, allowed]
  · exact ⟨policy.pauseAfter script, isPaced_beginnings _ _ _ _, isPause_pauseAfter held⟩
  · have waited : ∑ call ∈ Finset.range before, policy.pauseAfter script (call + 1) ≤
        (max 1 policy.maxAttempts - 1) * policy.maxDelay :=
      calc ∑ call ∈ Finset.range before, policy.pauseAfter script (call + 1)
        _ ≤ (Finset.range before).card * policy.maxDelay :=
          Finset.sum_le_card_nsmul _ _ _ fun call _ => pauseAfter_le (call + 1)
        _ ≤ (max 1 policy.maxAttempts - 1) * policy.maxDelay := by
          rw [Finset.card_range, ← allowed]
          exact Nat.mul_le_mul_right _ (by omega)
    rw [length_beginnings, Finset.sum_range_succ]
    change beginning _ _ _ before + _ ≤ _
    rw [beginning_eq]
    omega
  · have number : before + 1 = call := by
      rw [last.eq_min some earliest, allowed, Nat.min_eq_left few]
    rw [number] at outcome
    exact (outcome.resolve_right fun ⟨undecided, _⟩ => undecided earliest.decides).2
  · have undecided := none (before + 1) last.first_le (by omega)
    exact (outcome.resolve_left fun ⟨decides, _⟩ => undecided decides).2

/-- What comes back from a provider that recovers: twice a wish to slow down, the second time for a
minute, and then answers. -/
def recovering : CallScript (Except ProviderError Reply) := fun call =>
  ⟨0, .ok <| match call with
    | 1 => ⟨429, none, ""⟩
    | 2 => ⟨503, some " 60", ""⟩
    | _ => ⟨200, none, "done"⟩⟩

/-- The first pause is the growing one, and the minute is cut short. -/
theorem persist_isSeries_recovering :
    (⟨3, 100, 250⟩ : ThrottlePolicy).maxDelay ≤ Backoff.longest ∧
      (⟨3, 100, 250⟩ : ThrottlePolicy).IsSeries recovering 0 (.ok ⟨200, none, "done"⟩)
        [0, 100, 350] 350 := by
  have held : (⟨3, 100, 250⟩ : ThrottlePolicy).maxDelay ≤ Backoff.longest := by decide
  let requests := (⟨3, 100, 250⟩ : ThrottlePolicy).attemptFrom
    (fun reply => Throttle.classify reply.status reply.retryAfter) recovering.request
  have run : (requests 2 1).run ⟨0, []⟩ = (.ok ⟨200, none, "done"⟩, ⟨350, [0, 100, 350]⟩) :=
    calc (requests 2 1).run ⟨0, []⟩
      _ = (requests 1 2).run ⟨100, [0]⟩ := run_attemptFrom ..
      _ = (requests 0 3).run ⟨350, [0, 100]⟩ := run_attemptFrom ..
      _ = (.ok ⟨200, none, "done"⟩, ⟨350, [0, 100, 350]⟩) := run_attemptFrom ..
  have series := persist_isSeries ⟨3, 100, 250⟩ held recovering 0
  dsimp only at series
  rw [persist, show attempts _ - 1 = 2 from rfl, run] at series
  exact ⟨held, series⟩

end ThrottlePolicy

end CodeIndex
