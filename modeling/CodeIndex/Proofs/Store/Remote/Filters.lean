import CodeIndex.Proofs.Store.Tenancy
import CodeIndex.Store.Remote.Client

/-!
# Filters on a server

A store server is told filters in a form of its own, in which there are two kinds of conditions: a
field is a text, or it has the words of a text.  The client sends conditions of the first kind for
texts without blanks and of the second kind for texts with blanks, although a condition of this
library always means the first.

What it is to have the words of a text is for the server to say; it depends on how the server splits
texts and on the indexes that it keeps.  So it is a parameter here, `WordMatch`, of which no more is
ever assumed than that a text has its own words.

A deletion on a server is compared with one in memory by what both leave: a store in memory is shown
to the server as the payloads that it holds, and the two deletions agree on it if they come to the
same result and leave the same.

## Main definitions

* `RemoteFilter.selects`: the payloads that a filter selects on a server.
* `RemoteFilter.IsExactly`: whether a filter on a server says what one of this library says.
* `RemoteRequest.filters`: the filters that a request carries.
* `RemoteStore.DeletesAlike`: whether a deletion on a server does what one in memory does.

## Main statements

* `RemoteStore.filters_exact_iff`: which filters a server is told, when they are exact, and when
  deletions by them agree.
-/

namespace CodeIndex

/-! ## What filters select on a server -/

/-- Whether a text, which comes second, has the words of another one. -/
abbrev WordMatch := String → String → Bool

/-- What a server without an index of words makes of them: it looks for a text as a part of another
one. -/
def WordMatch.part : WordMatch := fun wanted text => Text.occursIn wanted.toList text.toList

theorem WordMatch.part_self (text : String) : part text text = true := by
  unfold part
  cases text.toList with
  | nil => rfl
  | cons c rest => simp [Text.occursIn, Text.startsWith]

/-- Whether a text fits what is asked of a field. -/
def FieldMatch.fits (hasWords : WordMatch) (value : String) : FieldMatch → Bool
  | keyword wanted => value == wanted
  | words wanted => hasWords wanted value

/-- Whether a payload meets a condition on a server.  A field that is no text meets none. -/
def RemoteCondition.meets (hasWords : WordMatch) (payload : RemotePayload)
    (condition : RemoteCondition) : Bool :=
  match payload.get? condition.field with
  | some (.text value) => condition.is.fits hasWords value
  | _ => false

namespace RemoteFilter

/-- Whether a filter on a server selects a payload: it meets all that must hold, some of what may
hold if anything is listed there, and nothing of what must not. -/
def selects (hasWords : WordMatch) (filter : RemoteFilter) (payload : RemotePayload) : Bool :=
  let meets := RemoteCondition.meets hasWords payload
  filter.must.all meets && (filter.should.isEmpty || filter.should.any meets) &&
    !filter.mustNot.any meets

/-- **Whether a filter on a server says what a filter of this library says:** the same fields, in
the same order, must be the same texts, and nothing else is asked. -/
def IsExactly (remote : RemoteFilter) (filter : Filter) : Prop :=
  remote = ⟨filter.map fun condition => ⟨condition.field, .keyword condition.value⟩, [], []⟩

end RemoteFilter

/-! ## How conditions arrive -/

namespace Condition

/-- Whether the text of a condition has a blank. -/
def HasBlank (condition : Condition) : Prop :=
  condition.value.toList.any Text.isBlank = true

instance (condition : Condition) : Decidable condition.HasBlank :=
  inferInstanceAs (Decidable (_ = true))

variable {condition : Condition}

theorem remote_of_hasBlank (blank : condition.HasBlank) :
    condition.remote = ⟨condition.field, .words condition.value⟩ := by
  unfold HasBlank at blank
  simp [remote, blank]

theorem remote_of_not_hasBlank (none : ¬condition.HasBlank) :
    condition.remote = ⟨condition.field, .keyword condition.value⟩ := by
  unfold HasBlank at none
  simp [remote, none]

theorem remote_eq_keyword_iff :
    condition.remote = ⟨condition.field, .keyword condition.value⟩ ↔ ¬condition.HasBlank := by
  refine ⟨fun same blank => ?_, remote_of_not_hasBlank⟩
  rw [remote_of_hasBlank blank] at same
  cases (RemoteCondition.mk.inj same).2

/-- What a text has to be like to fit a condition that has arrived on a server. -/
theorem fits_remote_iff {hasWords : WordMatch} {value : String} :
    condition.remote.is.fits hasWords value = true ↔
      if condition.HasBlank then hasWords condition.value value = true
      else value = condition.value := by
  by_cases blank : condition.HasBlank
  · simp [remote_of_hasBlank blank, blank, FieldMatch.fits]
  · simp [remote_of_not_hasBlank blank, blank, FieldMatch.fits]

end Condition

/-! ## How filters arrive -/

/-- A text is a text on a server, too, and nothing else is. -/
theorem RemoteValue.ofJson_eq_text_iff {json : Json} {text : String} :
    RemoteValue.ofJson json = .text text ↔ json = .string text := by
  cases json with
  | number n =>
      cases n with
      | whole n =>
          simp only [RemoteValue.ofJson, RemoteValue.ofNumber]
          split <;> simp
      | real x => simp [RemoteValue.ofJson, RemoteValue.ofNumber]
  | _ => simp [RemoteValue.ofJson]

theorem RemotePayload.get?_ofMap_eq_text_iff {payload : Dictionary Json} {field text : String} :
    (RemotePayload.ofMap payload).get? field = some (.text text) ↔
      payload.get? field = some (.string text) := by
  simp [RemotePayload.ofMap, RemoteValue.ofJson_eq_text_iff]

theorem RemoteCondition.meets_iff {hasWords : WordMatch} {payload : RemotePayload}
    {condition : RemoteCondition} :
    condition.meets hasWords payload = true ↔
      ∃ value, payload.get? condition.field = some (.text value) ∧
        condition.is.fits hasWords value = true := by
  unfold meets
  split
  · rename_i value there
    simp [there]
  · rename_i other
    simp only [Bool.false_eq_true, false_iff, not_exists, not_and]
    exact fun value there => absurd there (other value)

namespace Filter

variable {filter : Filter} {hasWords : WordMatch} {payload : Dictionary Json}

/-- **A filter arrives as it is meant** if and only if none of its texts has a blank. -/
theorem remote_isExactly_iff :
    filter.remote.IsExactly filter ↔ ∀ condition ∈ filter, ¬condition.HasBlank := by
  simp only [RemoteFilter.IsExactly, remote, RemoteFilter.mk.injEq, and_true,
    List.map_inj_left, Condition.remote_eq_keyword_iff]

/-- What a filter selects after it has arrived on a server. -/
theorem selects_remote_iff :
    filter.remote.selects hasWords (.ofMap payload) = true ↔
      ∀ condition ∈ filter, ∃ value, payload.get? condition.field = some (.string value) ∧
        if condition.HasBlank then hasWords condition.value value = true
        else value = condition.value := by
  simp only [RemoteFilter.selects, remote, List.all_map, List.isEmpty_nil, Bool.true_or,
    Bool.and_true, List.any_nil, Bool.not_false, List.all_eq_true, Function.comp_apply,
    RemoteCondition.meets_iff, Condition.fits_remote_iff]
  refine forall₂_congr fun condition _ => exists_congr fun value => and_congr_left fun _ => ?_
  exact RemotePayload.get?_ofMap_eq_text_iff

/-- **A server never selects less** than is meant, if texts have their own words. -/
theorem selects_of_accepts (own : ∀ text, hasWords text text = true)
    (accepts : filter.accepts payload = true) :
    filter.remote.selects hasWords (.ofMap payload) = true := by
  rw [accepts_iff_get?] at accepts
  refine selects_remote_iff.2 fun condition member => ⟨_, accepts condition member, ?_⟩
  split
  · exact own condition.value
  · rfl

/-- It selects just what is meant if no other text has the words of a text with blanks. -/
theorem accepts_of_selects
    (alone : ∀ condition ∈ filter, condition.HasBlank → ∀ text,
      hasWords condition.value text = true → text = condition.value)
    (selects : filter.remote.selects hasWords (.ofMap payload) = true) :
    filter.accepts payload = true := by
  rw [selects_remote_iff] at selects
  refine accepts_iff_get?.2 fun condition member => ?_
  obtain ⟨value, there, fits⟩ := selects condition member
  split at fits
  · rename_i blank
    rw [there, alone condition member blank value fits]
  · rw [there, fits]

/-- **Where another text has the words of a text with blanks,** the server selects a payload with
that other text, which is not meant. -/
theorem exists_selects_not_accepts (own : ∀ text, hasWords text text = true)
    (apart : (filter.map (·.field)).Nodup) {condition : Condition} (member : condition ∈ filter)
    (blank : condition.HasBlank) {text : String} (has : hasWords condition.value text = true)
    (other : text ≠ condition.value) :
    ∃ payload, filter.remote.selects hasWords (.ofMap payload) = true ∧
      filter.accepts payload = false := by
  -- the payload that is as the filter wants it, but for the one text
  let entry (listed : Condition) : String × Json :=
    (listed.field, .string (if listed = condition then text else listed.value))
  let payload : Dictionary Json := .ofList (filter.map entry)
  have keys : ((filter.map entry).map (·.1)).Nodup := by
    simpa [entry, Function.comp_def] using apart
  have holds : ∀ listed ∈ filter, payload.get? listed.field =
      some (.string (if listed = condition then text else listed.value)) := fun listed there =>
    Dictionary.get?_ofList_of_mem keys (List.mem_map_of_mem (f := entry) there)
  refine ⟨payload, selects_remote_iff.2 fun listed there => ⟨_, holds listed there, ?_⟩, ?_⟩
  · by_cases same : listed = condition
    · subst same
      simpa [blank] using has
    · rw [if_neg same]
      split
      · exact own listed.value
      · rfl
  · refine Bool.eq_false_iff.2 fun accepts => other ?_
    have wanted := accepts_iff_get?.1 accepts condition member
    simpa [holds condition member] using wanted

end Filter

/-! ## What a server is told -/

/-- The filters that a request carries. -/
def RemoteRequest.filters : RemoteRequest → List RemoteFilter
  | delete _ filter _ => [filter]
  | rank _ prefetch _ => prefetch.filterMap (·.filter)
  | _ => []

/-- The filters that a server is told in a dialogue, with what it answers. -/
def Dialogue.filters {α : Type} (answer : RemoteRequest → Except Refusal RemoteReply)
    (dialogue : Dialogue α) : List RemoteFilter :=
  (dialogue.hold (fun request told => (answer request, told ++ request.filters)) []).2

/-- The filters of a query that have conditions, one candidate list after the other. -/
def HybridQuery.filters (query : HybridQuery) : List Filter :=
  (query.prefetch.filterMap (·.filter)).filter (· ≠ [])

namespace RemoteStore

variable (collection : String)

theorem filters_delete (filter : Filter) (waits : Bool)
    (answer : RemoteRequest → Except Refusal RemoteReply) :
    (delete collection filter waits).filters answer =
      if filter = [] then [] else [filter.remote] := by
  cases filter with
  | nil => rfl
  | cons condition rest => rfl

theorem filters_query (asked : HybridQuery) (answer : RemoteRequest → Except Refusal RemoteReply) :
    (query collection asked).filters answer = asked.filters.map Filter.remote := by
  show (asked.prefetch.map Prefetch.remote).filterMap (·.filter) = _
  rw [HybridQuery.filters, List.filterMap_map]
  induction asked.prefetch with
  | nil => rfl
  | cons prefetch rest ih =>
      obtain ⟨probe, limit, filter⟩ := prefetch
      rw [List.filterMap_cons, List.filterMap_cons, Function.comp_apply]
      match filter with
      | none => exact ih
      | some [] => exact ih
      | some (condition :: more) => exact congrArg (Filter.remote (condition :: more) :: ·) ih

end RemoteStore

/-! ## Deletions -/

/-- The payloads of a collection as a server keeps them. -/
def MemoryStore.payloadsOf (store : MemoryStore) (name : String) : Dictionary RemotePayload :=
  (store.pointsOf name).map fun _ data => .ofMap data.payload

@[simp] theorem MemoryStore.get?_payloadsOf (store : MemoryStore) (name id : String) :
    (store.payloadsOf name).get? id =
      ((store.pointsOf name).get? id).map fun data => .ofMap data.payload :=
  Dictionary.get?_map ..

/-- What is left of the payloads after a deletion. -/
theorem MemoryStore.get?_payloadsOf_delete (store : MemoryStore) (name : String) {filter : Filter}
    (asked : filter ≠ []) (id : String) :
    ((store.delete name filter).2.payloadsOf name).get? id =
      (((store.pointsOf name).get? id).filter fun data => !filter.accepts data.payload).map
        fun data => .ofMap data.payload := by
  rcases made : store.delete name filter with ⟨result, after⟩
  rcases delete_cases made with ⟨_, _, _, none⟩ | ⟨_, changes⟩
  · exact absurd none asked
  · rw [get?_payloadsOf, changes.here, purged, Dictionary.get?_filter]
    simp

theorem MemoryStore.fst_delete (store : MemoryStore) (name : String) {filter : Filter}
    (asked : filter ≠ []) : (store.delete name filter).1 = .ok () := by
  rcases made : store.delete name filter with ⟨result, after⟩
  rcases delete_cases made with ⟨_, _, _, none⟩ | ⟨done, _⟩
  · exact absurd none asked
  · exact done

namespace RemoteStore

/-- A server that keeps payloads by identifier and deletes those that a filter selects. -/
def deleting (hasWords : WordMatch) (request : RemoteRequest) (points : Dictionary RemotePayload) :
    Except Refusal RemoteReply × Dictionary RemotePayload :=
  match request with
  | .delete _ filter _ =>
    (.ok .done, points.filter fun _ payload => !filter.selects hasWords payload)
  | _ => (.ok .done, points)

/-- **Whether a deletion on a server does what one in memory does,** for all contents of the
collection. -/
def DeletesAlike (hasWords : WordMatch) (collection : String) (filter : Filter) (waits : Bool) :
    Prop :=
  ∀ store : MemoryStore,
    (delete collection filter waits).hold (deleting hasWords) (store.payloadsOf collection) =
      ((store.delete collection filter).1, (store.delete collection filter).2.payloadsOf collection)

variable {hasWords : WordMatch} {collection : String} {filter : Filter} {waits : Bool}

theorem hold_delete (asked : filter ≠ []) (points : Dictionary RemotePayload) :
    (delete collection filter waits).hold (deleting hasWords) points =
      (.ok (), points.filter fun _ payload => !filter.remote.selects hasWords payload) := by
  cases filter with
  | nil => exact absurd rfl asked
  | cons condition rest => rfl

/-- A deletion without conditions is refused everywhere. -/
theorem deletesAlike_nil : DeletesAlike hasWords collection [] waits := fun _ => rfl

/-- **Deletions agree if and only if their filters select the same payloads.** -/
theorem deletesAlike_iff (asked : filter ≠ []) :
    DeletesAlike hasWords collection filter waits ↔
      ∀ payload, filter.remote.selects hasWords (.ofMap payload) = filter.accepts payload := by
  constructor
  · intro alike payload
    -- a collection with one point shows what becomes of its payload
    let store := MemoryStore.empty.put collection
      ⟨true, Dictionary.empty.insert "" ⟨[], none, payload⟩, []⟩
    have there : (store.pointsOf collection).get? "" = some ⟨[], none, payload⟩ := by
      simp [store, MemoryStore.pointsOf, MemoryStore.put]
    have left := congrArg (fun result => result.2.get? "") (alike store)
    simp only [hold_delete asked, Dictionary.get?_filter, store.get?_payloadsOf_delete _ asked,
      MemoryStore.get?_payloadsOf, there] at left
    cases remote : filter.remote.selects hasWords (.ofMap payload) <;>
      cases here : filter.accepts payload <;> simp [Option.filter, remote, here] at left ⊢
  · intro same store
    rw [hold_delete asked, store.fst_delete _ asked]
    refine congrArg (Prod.mk _) (Dictionary.ext_get? fun id => ?_)
    rw [store.get?_payloadsOf_delete _ asked, Dictionary.get?_filter, MemoryStore.get?_payloadsOf]
    cases (store.pointsOf collection).get? id with
    | none => rfl
    | some data => cases kept : filter.accepts data.payload <;> simp [Option.filter, same, kept]

/-- **Deletions by texts without blanks agree,** whatever a server makes of words. -/
theorem deletesAlike_of_not_hasBlank (none : ∀ condition ∈ filter, ¬condition.HasBlank) :
    DeletesAlike hasWords collection filter waits := by
  rcases eq_or_ne filter [] with rfl | asked
  · exact deletesAlike_nil
  · refine (deletesAlike_iff asked).2 fun payload => Bool.eq_iff_iff.2 ?_
    rw [Filter.selects_remote_iff, Filter.accepts_iff_get?]
    refine forall₂_congr fun condition member => ?_
    simp [none condition member]

/-- **Deletions by several fields agree** if and only if no other text has the words of a text with
blanks. -/
theorem deletesAlike_iff_alone (own : ∀ text, hasWords text text = true)
    (apart : (filter.map (·.field)).Nodup) :
    DeletesAlike hasWords collection filter waits ↔
      ∀ condition ∈ filter, condition.HasBlank → ∀ text,
        hasWords condition.value text = true → text = condition.value := by
  rcases eq_or_ne filter [] with rfl | asked
  · exact iff_of_true deletesAlike_nil fun _ member => by cases member
  rw [deletesAlike_iff asked]
  constructor
  · intro same condition member blank text has
    by_contra other
    obtain ⟨payload, selected, not⟩ :=
      Filter.exists_selects_not_accepts own apart member blank has other
    rw [same, not] at selected
    cases selected
  · intro alone payload
    exact Bool.eq_iff_iff.2 ⟨Filter.accepts_of_selects alone, Filter.selects_of_accepts own⟩

/-- **Which filters a server is told, and when they are exact.**  A deletion tells the server its
filter, unless it has no conditions, and a query tells it those of its candidate lists, each with
one condition for each of its own on the same field, in order, and with nothing else.  A filter that
is told says what is meant if and only if none of its texts has a blank, and then a deletion does
what it does in memory.  Otherwise a server where texts have their own words never selects less than
is meant, and deletions by different fields do what they do in memory if and only if no other text
has the words of one with blanks. -/
theorem filters_exact_iff (collection : String) (filter : Filter) (waits : Bool)
    (asked : HybridQuery) :
    (∀ answer,
      (delete collection filter waits).filters answer =
          (if filter = [] then [] else [filter.remote]) ∧
        (query collection asked).filters answer = asked.filters.map Filter.remote) ∧
    filter.remote.must.map (·.field) = filter.map (·.field) ∧
    filter.remote.should = [] ∧ filter.remote.mustNot = [] ∧
    (filter.remote.IsExactly filter ↔ ∀ condition ∈ filter, ¬condition.HasBlank) ∧
    ((∀ condition ∈ filter, ¬condition.HasBlank) →
      ∀ hasWords, DeletesAlike hasWords collection filter waits) ∧
    ∀ hasWords : WordMatch, (∀ text, hasWords text text = true) →
      (∀ payload, filter.accepts payload = true →
        filter.remote.selects hasWords (.ofMap payload) = true) ∧
      ((filter.map (·.field)).Nodup →
        (DeletesAlike hasWords collection filter waits ↔
          ∀ condition ∈ filter, condition.HasBlank → ∀ text,
            hasWords condition.value text = true → text = condition.value)) := by
  refine ⟨fun answer => ⟨filters_delete collection filter waits answer,
    filters_query collection asked answer⟩, ?_, rfl, rfl, Filter.remote_isExactly_iff,
    fun none hasWords => deletesAlike_of_not_hasBlank none, fun hasWords own =>
    ⟨fun payload => Filter.selects_of_accepts own, deletesAlike_iff_alone own⟩⟩
  simp [Filter.remote, Condition.remote]

/-- A repository with a blank in its name is purged together with one whose name contains it. -/
theorem filters_exact_iff_blank :
    let purge := Filter.text "repo" "my repo"
    ¬purge.remote.IsExactly purge ∧ ¬DeletesAlike .part "code_chunks" purge true := by
  intro purge
  have blank : (⟨"repo", "my repo"⟩ : Condition).HasBlank := by decide
  obtain ⟨-, -, -, -, exact_iff, -, words⟩ :=
    filters_exact_iff "code_chunks" purge true ⟨[], 10⟩
  have alike_iff := (words .part WordMatch.part_self).2 (by decide)
  refine ⟨fun same => exact_iff.1 same _ List.mem_cons_self blank, fun alike => ?_⟩
  have other := alike_iff.1 alike _ List.mem_cons_self blank "not my repo" (by decide)
  exact absurd other (by decide)

end RemoteStore

end CodeIndex
