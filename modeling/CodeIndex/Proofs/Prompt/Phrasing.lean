import CodeIndex.Prompt.Phrasing
import CodeIndex.Proofs.Json.RoundTrip
import CodeIndex.Proofs.Text.Case

/-!
# Phrasings of a query

What a generator suggests is used as far as it is new.  `Rephraser.newTexts` says what that means,
for suggestions of any number: a text counts if it differs, ASCII case aside, from the query and
from all texts before it, whether these count or not.  This is not how phrasings are collected;
there, a suggestion is compared with those that were taken, and nothing is looked at when there is
no more room.  The invariant that shows both to be the same is that every text is, case aside, the
query or a new one (`Rephraser.exists_sameText`).

A list is looked for between the first opening and the last closing bracket of an answer.  So texts
in it may hold brackets, and the text around it may not.

## Main definitions

* `Rephraser.newTexts`
* `Rephraser.Lists`: whether an answer holds a list.

## Main statements

* `Rephraser.foldl_addSuggestion`
* `Rephraser.bracketed?_eq_some_iff`
* `Rephraser.phrasings_wellFormed`
-/

namespace CodeIndex

open CodeIndex.Text

namespace Rephraser

variable {query text : String} {texts : List String}

/-! ## What is new -/

/-- Whether a text is new after others: none of them is the same, case aside. -/
def IsNew (known : List String) (text : String) : Prop := ∀ other ∈ known, ¬SameText text other

instance (known : List String) (text : String) : Decidable (IsNew known text) :=
  inferInstanceAs (Decidable (∀ other ∈ known, ¬SameText text other))

/-- The texts that are new after a query and all texts before them, in their order. -/
def newTexts (query : String) (texts : List String) : List String :=
  (texts.zipIdx.filter fun entry => IsNew (query :: texts.take entry.2) entry.1).map (·.1)

/-- One text more is a new one or not. -/
theorem newTexts_concat (query text : String) (texts : List String) :
    newTexts query (texts ++ [text]) =
      newTexts query texts ++ if IsNew (query :: texts) text then [text] else [] := by
  have others : ∀ entry ∈ texts.zipIdx, (texts ++ [text]).take entry.2 = texts.take entry.2 :=
    fun entry member => List.take_append_of_le_length (List.mem_zipIdx' member).1.le
  have same : (texts.zipIdx.filter fun entry =>
        IsNew (query :: (texts ++ [text]).take entry.2) entry.1) =
      texts.zipIdx.filter fun entry => IsNew (query :: texts.take entry.2) entry.1 :=
    List.filter_congr fun entry member => by rw [others entry member]
  rw [newTexts, List.zipIdx_append, List.filter_append, List.map_append, same, newTexts]
  congr 1
  by_cases isNew : IsNew (query :: texts) text <;> simp [isNew]

theorem newTexts_subset (query : String) (texts : List String) : newTexts query texts ⊆ texts := by
  intro text member
  obtain ⟨entry, listed, rfl⟩ := List.mem_map.1 member
  exact List.fst_mem_of_mem_zipIdx (List.mem_of_mem_filter listed)

/-- Every text is one of those that are new, case aside, or the query. -/
theorem exists_sameText (query : String) (texts : List String) :
    ∀ text ∈ query :: texts, ∃ other ∈ query :: newTexts query texts, SameText text other := by
  induction texts using List.reverseRecOn with
  | nil => exact fun text member => ⟨text, member, .refl text⟩
  | append_singleton texts last ih =>
      have earlier : ∀ text ∈ query :: texts,
          ∃ other ∈ query :: newTexts query (texts ++ [last]), SameText text other := by
        intro text member
        obtain ⟨other, listed, same⟩ := ih text member
        rw [newTexts_concat, ← List.cons_append]
        exact ⟨other, List.mem_append_left _ listed, same⟩
      intro text member
      rw [← List.cons_append, List.mem_append, List.mem_singleton] at member
      rcases member with member | rfl
      · exact earlier text member
      by_cases isNew : IsNew (query :: texts) text
      · refine ⟨text, ?_, .refl text⟩
        rw [newTexts_concat, if_pos isNew]
        simp
      · unfold IsNew at isNew
        push Not at isNew
        obtain ⟨other, known, same⟩ := isNew
        obtain ⟨other', listed, same'⟩ := earlier other known
        exact ⟨other', listed, same.trans same'⟩

/-- What is new after the new texts is new after all texts. -/
theorem isNew_newTexts :
    IsNew (query :: newTexts query texts) text ↔ IsNew (query :: texts) text := by
  constructor
  · intro isNew other known same
    obtain ⟨other', listed, same'⟩ := exists_sameText query texts other known
    exact isNew other' listed (same.trans same')
  · intro isNew other listed
    exact isNew other (List.cons_subset_cons _ (newTexts_subset query texts) listed)

/-- The query and the new texts differ, case aside. -/
theorem pairwise_newTexts (query : String) (texts : List String) :
    (query :: newTexts query texts).Pairwise fun a b => ¬SameText a b := by
  induction texts using List.reverseRecOn with
  | nil => exact List.pairwise_singleton _ _
  | append_singleton texts last ih =>
      rw [newTexts_concat]
      split
      · rename_i isNew
        rw [← List.cons_append, List.pairwise_append]
        refine ⟨ih, List.pairwise_singleton _ _, fun other listed text member same => ?_⟩
        rw [List.mem_singleton.1 member] at same
        exact isNew_newTexts.2 isNew other listed same.symm
      · rwa [List.append_nil]

theorem addSuggestion_eq (phrasings : List String) (suggestion : String) :
    addSuggestion phrasings suggestion =
      if phrasings.length < 3 ∧ IsNew phrasings suggestion then phrasings ++ [suggestion]
      else phrasings := by
  have known : phrasings.any (equalIgnoringCase suggestion) = true ↔
      ¬IsNew phrasings suggestion := by
    simp only [List.any_eq_true, IsNew, ← sameText_iff]
    push Not
    rfl
  unfold addSuggestion maxPhrasings
  by_cases room : phrasings.length < 3
  · by_cases isNew : IsNew phrasings suggestion
    · rw [if_neg (by omega), if_neg (fun old => known.1 old isNew), if_pos ⟨room, isNew⟩]
    · rw [if_neg (by omega), if_pos (known.2 isNew), if_neg fun both => isNew both.2]
  · rw [if_pos (by omega), if_neg fun both => room both.1]

/-- **Suggestions are added while there is room for new ones.** -/
theorem foldl_addSuggestion (query : String) (texts : List String) :
    texts.foldl addSuggestion [query] = query :: (newTexts query texts).take 2 := by
  induction texts using List.reverseRecOn with
  | nil => rfl
  | append_singleton texts last ih =>
      rw [List.foldl_append, ih, List.foldl_cons, List.foldl_nil, addSuggestion_eq,
        newTexts_concat]
      rcases Nat.lt_or_ge (newTexts query texts).length 2 with few | full
      · -- all new texts are there, and the last one is if it is new
        have all : (newTexts query texts).take 2 = newTexts query texts :=
          List.take_of_length_le few.le
        rw [all]
        by_cases isNew : IsNew (query :: texts) last
        · rw [if_pos ⟨Nat.succ_lt_succ few, isNew_newTexts.2 isNew⟩, if_pos isNew,
            List.take_of_length_le (by simp; omega)]
          rfl
        · rw [if_neg fun both => isNew (isNew_newTexts.1 both.2), if_neg isNew, List.append_nil,
            all]
      · have noRoom : ¬(query :: (newTexts query texts).take 2).length < 3 := by
          simp only [List.length_cons, List.length_take]
          omega
        rw [if_neg fun both => noRoom both.1, List.take_append_of_le_length full]

/-! ## The list in an answer -/

variable {answer before after written : List Char} {items : List Json}

theorem dropWhile_ne_of_not_mem {c : Char} {text : List Char} (free : c ∉ text) :
    text.dropWhile (· != c) = [] := by
  rw [List.dropWhile_eq_nil_iff]
  intro d member
  rw [bne_iff_ne]
  rintro rfl
  exact free member

theorem dropWhile_ne {c : Char} (free : c ∉ before) (rest : List Char) :
    (before ++ c :: rest).dropWhile (· != c) = c :: rest := by
  rw [List.dropWhile_append, dropWhile_ne_of_not_mem free, List.dropWhile_cons_of_neg (by simp)]
  rfl

theorem bracketed?_append (inner : List Char) (free : '[' ∉ before) (free' : ']' ∉ after) :
    bracketed? (before ++ '[' :: (inner ++ [']']) ++ after) = some ('[' :: (inner ++ [']'])) := by
  have closing : ('[' :: (inner ++ [']']) ++ after).reverse =
      after.reverse ++ ']' :: ('[' :: inner).reverse := by
    simp
  rw [List.append_assoc]
  unfold bracketed?
  dsimp only
  rw [List.cons_append, dropWhile_ne free, ← List.cons_append, closing,
    dropWhile_ne (by simpa using free')]
  simp

/-- **What stands from the first opening to the last closing bracket.** -/
theorem bracketed?_eq_some_iff : bracketed? answer = some written ↔
    ∃ before inner after, written = '[' :: (inner ++ [']']) ∧
      answer = before ++ '[' :: (inner ++ [']']) ++ after ∧ '[' ∉ before ∧ ']' ∉ after := by
  constructor
  · intro found
    by_cases opens : '[' ∈ answer
    · obtain ⟨before, rest, rfl, free⟩ := List.eq_append_cons_of_mem opens
      by_cases closes : ']' ∈ rest.reverse
      · obtain ⟨after, inner, same, free'⟩ := List.eq_append_cons_of_mem closes
        obtain rfl : rest = inner.reverse ++ [']'] ++ after.reverse := by
          rw [← List.reverse_inj, same]
          simp
        refine ⟨before, inner.reverse, after.reverse, ?_, by simp, free, by simpa using free'⟩
        have whole := bracketed?_append inner.reverse free
          (show ']' ∉ after.reverse by simpa using free')
        rw [List.append_assoc, List.cons_append, found] at whole
        exact Option.some.inj whole
      · have free' : ']' ∉ ('[' :: rest).reverse := by simpa using closes
        unfold bracketed? at found
        dsimp only at found
        rw [dropWhile_ne free, dropWhile_ne_of_not_mem free'] at found
        cases found
    · unfold bracketed? at found
      rw [dropWhile_ne_of_not_mem opens] at found
      cases found
  · rintro ⟨before, inner, after, rfl, rfl, free, free'⟩
    exact bracketed?_append inner free free'

/-- Whether an answer holds a list of these items, between its first opening and its last closing
bracket. -/
def Lists (answer : List Char) (items : List Json) : Prop :=
  ∃ before inner after, answer = before ++ '[' :: (inner ++ [']']) ++ after ∧ '[' ∉ before ∧
    ']' ∉ after ∧ Json.parse? ('[' :: (inner ++ [']'])) = some (.array items)

/-- The texts among the items of a list, trimmed, without blank ones. -/
def textsOf (items : List Json) : List String :=
  ((items.filterMap Json.string?).map trimmed).filter (· ≠ "")

theorem suggestions_of_lists (lists : Lists answer items) : suggestions answer = textsOf items := by
  obtain ⟨before, inner, after, whole, free, free', read⟩ := lists
  have found : bracketed? answer = some ('[' :: (inner ++ [']'])) :=
    whole ▸ bracketed?_append inner free free'
  rw [suggestions, found, Option.bind_some, read, textsOf]
  simp only [bne, ne_eq, decide_not]
  rfl

theorem suggestions_of_not_lists (none : ∀ items, ¬Lists answer items) :
    suggestions answer = [] := by
  unfold suggestions
  split
  · rename_i items read
    obtain ⟨written, found, read⟩ := Option.bind_eq_some_iff.1 read
    obtain ⟨before, inner, after, rfl, whole, free, free'⟩ := bracketed?_eq_some_iff.1 found
    exact absurd ⟨before, inner, after, whole, free, free', read⟩ (none items)
  · rfl

/-- A list that was written, in an answer with other text around it. -/
theorem lists_render (free : '[' ∉ before) (free' : ']' ∉ after)
    (read : Json.parse? (Json.render (.array items)) = some (.array items)) :
    Lists (before ++ Json.render (.array items) ++ after) items :=
  ⟨before, Json.renderItems items, after, rfl, free, free', read⟩

/-! ## Phrasings -/

/-- **What the phrasings of a query are like,** whatever is suggested. -/
structure ArePhrasings (query : String) (phrasings : List String) : Prop where
  first : phrasings.head? = some (trimmed query)
  one_le_length : 1 ≤ phrasings.length
  length_le_three : phrasings.length ≤ 3
  different : phrasings.Pairwise fun a b => ¬SameText a b

variable {γ : Type}

theorem arePhrasings_newTexts (query : String) (texts : List String) :
    ArePhrasings query (trimmed query :: (newTexts (trimmed query) texts).take 2) where
  first := rfl
  one_le_length := Nat.succ_le_succ (Nat.zero_le _)
  length_le_three := Nat.succ_le_succ (List.length_take_le 2 _)
  different := (pairwise_newTexts (trimmed query) texts).sublist
    ((List.take_sublist 2 _).cons_cons _)

theorem merge_eq (query answer : String) :
    merge query answer = query :: (newTexts query (suggestions answer.toList)).take 2 :=
  foldl_addSuggestion query _

/-- The call that asks for phrasings of a query. -/
def call (rephraser : Rephraser γ) (query : String) (clocked : Clocked γ) :
    Call γ (Except ProviderError String) :=
  rephraser.generator.generate (prompt (trimmed query)) params clocked.now clocked.state

/-- **What asking for phrasings comes to:** an answer in time, or the query alone. -/
theorem phrasings_cases (rephraser : Rephraser γ) (query : String) (clocked : Clocked γ) :
    (∃ answer, (rephraser.call query clocked).duration ≤ rephraser.timeout ∧
      (rephraser.call query clocked).result = .ok answer ∧
      (rephraser.phrasings query clocked).1 = merge (trimmed query) answer) ∨
    (rephraser.timeout < (rephraser.call query clocked).duration ∨
        ∃ e, (rephraser.call query clocked).result = .error e) ∧
      (rephraser.phrasings query clocked).1 = [trimmed query] := by
  have asked : rephraser.generator.generate (prompt (trimmed query)) params clocked.now
    clocked.state = rephraser.call query clocked := rfl
  unfold phrasings Request.runWithin
  dsimp only
  rw [asked]
  by_cases inTime : (rephraser.call query clocked).duration ≤ rephraser.timeout
  · cases result : (rephraser.call query clocked).result with
    | ok answer => exact .inl ⟨answer, inTime, rfl, by rw [if_pos inTime]⟩
    | error e => exact .inr ⟨.inr ⟨e, rfl⟩, by rw [if_pos inTime]⟩
  · exact .inr ⟨.inl (Nat.lt_of_not_le inTime), by rw [if_neg inTime]⟩

variable {rephraser : Rephraser γ} {clocked : Clocked γ}

/-- Whatever becomes of the call, a query has phrasings. -/
theorem arePhrasings_phrasings (rephraser : Rephraser γ) (query : String) (clocked : Clocked γ) :
    ArePhrasings query (rephraser.phrasings query clocked).1 := by
  rcases phrasings_cases rephraser query clocked with ⟨answer, -, -, made⟩ | ⟨-, made⟩
  · rw [made, merge_eq]
    exact arePhrasings_newTexts query _
  · rw [made]
    exact arePhrasings_newTexts query []

/-- An answer in time that holds a list is used. -/
theorem phrasings_of_lists {answer : String}
    (inTime : (rephraser.call query clocked).duration ≤ rephraser.timeout)
    (answered : (rephraser.call query clocked).result = .ok answer)
    (lists : Lists answer.toList items) : (rephraser.phrasings query clocked).1 =
      trimmed query :: (newTexts (trimmed query) (textsOf items)).take 2 := by
  rcases phrasings_cases rephraser query clocked with
    ⟨answer', -, answered', made⟩ | ⟨late | ⟨e, failed⟩, -⟩
  · rw [answered] at answered'
    cases answered'
    rw [made, merge_eq, suggestions_of_lists lists]
  · exact absurd inTime (Nat.not_le.2 late)
  · rw [answered] at failed
    cases failed

/-- Without an answer in time, or with one that is of no use, the query has no other phrasing. -/
theorem phrasings_of_unusable
    (unusable : rephraser.timeout < (rephraser.call query clocked).duration ∨
      (∃ e, (rephraser.call query clocked).result = .error e) ∨
      ∃ answer, (rephraser.call query clocked).result = .ok answer ∧
        ∀ items, ¬Lists answer.toList items) :
    (rephraser.phrasings query clocked).1 = [trimmed query] := by
  rcases phrasings_cases rephraser query clocked with ⟨answer, inTime, answered, made⟩ | ⟨-, made⟩
  · rcases unusable with late | ⟨e, failed⟩ | ⟨answer', answered', none⟩
    · exact absurd inTime (Nat.not_le.2 late)
    · rw [answered] at failed
      cases failed
    · rw [answered] at answered'
      cases answered'
      rw [made, merge_eq, suggestions_of_not_lists none]
      rfl
  · exact made

/-- **Phrasings of a query.**  For every generator, whatever it answers, if it does: the trimmed
query comes first, and up to two texts follow, the first new ones of the list in the answer.  And a
list in an answer is found, whatever is around it, as long as brackets are not. -/
theorem phrasings_wellFormed (rephraser : Rephraser γ) (query : String) (clocked : Clocked γ) :
    ArePhrasings query (rephraser.phrasings query clocked).1 ∧
    (∀ answer items, (rephraser.call query clocked).duration ≤ rephraser.timeout →
      (rephraser.call query clocked).result = .ok answer → Lists answer.toList items →
      (rephraser.phrasings query clocked).1 =
        trimmed query :: (newTexts (trimmed query) (textsOf items)).take 2) ∧
    ((rephraser.timeout < (rephraser.call query clocked).duration ∨
      (∃ e, (rephraser.call query clocked).result = .error e) ∨
      (∃ answer, (rephraser.call query clocked).result = .ok answer ∧
        ∀ items, ¬Lists answer.toList items)) →
      (rephraser.phrasings query clocked).1 = [trimmed query]) ∧
    (∀ before after items, '[' ∉ before → ']' ∉ after →
      Json.parse? (Json.render (.array items)) = some (.array items) →
      suggestions (before ++ Json.render (.array items) ++ after) = textsOf items) ∧
    ∀ items, Json.Readable Json.maxDepth (.array items) →
      Json.parse? (Json.render (.array items)) = some (.array items) := by
  refine ⟨arePhrasings_phrasings rephraser query clocked, ?_, phrasings_of_unusable, ?_, ?_⟩
  · intro answer items inTime answered lists
    exact phrasings_of_lists inTime answered lists
  · intro before after items free free' read
    exact suggestions_of_lists (lists_render free free' read)
  · intro items readable
    exact Json.parse?_render readable

/-- Suggestions as they come: one is the query, one has brackets in it, and one is no text. -/
def mixedItems : List Json :=
  [.string "Cancel Order", .string " abort [an] order", .number (.whole 3), .string "stop"]

/-- A generator that talks around its list. -/
def talkative : Rephraser Unit :=
  ⟨⟨fun _ _ => .answer (.ok ("Sure: " ++ Json.text (.array mixedItems) ++ " Bye!"))⟩, 5000⟩

/-- A generator that refuses. -/
def refusing : Rephraser Unit := ⟨⟨fun _ _ => .answer (.error .rateLimited)⟩, 5000⟩

theorem readable_mixedItems : Json.Readable Json.maxDepth (.array mixedItems) := by
  refine .array fun item member => ?_
  simp only [mixedItems, List.mem_cons, List.not_mem_nil, or_false] at member
  rcases member with rfl | rfl | rfl | rfl
  · exact .string _
  · exact .string _
  · exact .whole (by decide) (by decide)
  · exact .string _

/-- Two suggestions are new to the query, and none come from a refusal. -/
theorem phrasings_wellFormed_talkative :
    '[' ∉ "Sure: ".toList ∧ ']' ∉ " Bye!".toList ∧
    Json.Readable Json.maxDepth (.array mixedItems) ∧
    suggestions ("Sure: ".toList ++ Json.render (.array mixedItems) ++ " Bye!".toList) =
      ["Cancel Order", "abort [an] order", "stop"] ∧
    (talkative.phrasings " cancel order " ⟨0, ()⟩).1 =
      ["cancel order", "abort [an] order", "stop"] ∧
    (∃ e, (refusing.call " cancel order " ⟨0, ()⟩).result = .error e) ∧
    (refusing.phrasings " cancel order " ⟨0, ()⟩).1 = ["cancel order"] := by
  obtain ⟨-, answered, -, found, back⟩ :=
    phrasings_wellFormed talkative " cancel order " ⟨0, ()⟩
  have read := back mixedItems readable_mixedItems
  have lists : Lists ("Sure: ".toList ++ Json.render (.array mixedItems) ++ " Bye!".toList)
      mixedItems :=
    lists_render (by decide) (by decide) read
  refine ⟨by decide, by decide, readable_mixedItems, ?_, ?_, ⟨_, rfl⟩, ?_⟩
  · rw [found _ _ mixedItems (by decide) (by decide) read]
    decide
  · rw [answered _ mixedItems (Nat.zero_le _) rfl ?_]
    · decide
    · simpa [Json.text] using lists
  · exact (phrasings_wellFormed refusing " cancel order " ⟨0, ()⟩).2.2.1 (.inr (.inl ⟨_, rfl⟩))

end Rephraser

end CodeIndex
