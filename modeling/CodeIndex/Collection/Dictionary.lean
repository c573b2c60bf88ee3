/-!
# Dictionaries

A dictionary is a list of entries with strictly ascending keys. The order is part of the type, so
two dictionaries that answer every question alike are equal (`Dictionary.ext_get?`): whatever
sequence of insertions and removals built a store, only its contents can show.

## Main definitions

* `Dictionary.get?`, `insert`, `filter`, `toList`, `ofList`

## Main statements

* `Dictionary.get?_insert`: what an insertion changes.
* `Dictionary.ext_get?`: extensionality.
-/

namespace CodeIndex

universe u v

/-- Entries with strictly ascending keys. -/
structure Dictionary (α : Type u) where
  entries : List (String × α)
  ascending : entries.Pairwise fun x y => x.1 < y.1

namespace Dictionary

variable {α : Type u} {β : Type v}

/-- The dictionary without entries. -/
def empty : Dictionary α := ⟨[], .nil⟩

instance : EmptyCollection (Dictionary α) := ⟨empty⟩
instance : Inhabited (Dictionary α) := ⟨empty⟩

/-- The entries in ascending order of their keys. -/
def toList (d : Dictionary α) : List (String × α) := d.entries

/-- The keys in ascending order. -/
def keys (d : Dictionary α) : List String := d.entries.map (·.1)

/-- The values in ascending order of their keys. -/
def values (d : Dictionary α) : List α := d.entries.map (·.2)

/-- The number of entries. -/
def size (d : Dictionary α) : Nat := d.entries.length

/-- The value that an entry list holds under a key. -/
def lookup? (key : String) : List (String × α) → Option α
  | [] => none
  | (k, a) :: rest => if k = key then some a else lookup? key rest

/-- The value under a key. -/
def get? (d : Dictionary α) (key : String) : Option α := lookup? key d.entries

/-- Whether there is a value under a key. -/
def contains (d : Dictionary α) (key : String) : Bool := (d.get? key).isSome

/-- Writes a value under a key into ascending entries, over the value that is there. -/
def put (key : String) (a : α) : List (String × α) → List (String × α)
  | [] => [(key, a)]
  | (k, b) :: rest =>
    if key < k then (key, a) :: (k, b) :: rest
    else if key = k then (key, a) :: rest
    else (k, b) :: put key a rest

theorem mem_put {key : String} {a : α} {x : String × α} {entries : List (String × α)}
    (h : x ∈ put key a entries) : x = (key, a) ∨ x ∈ entries := by
  induction entries with
  | nil => simpa [put] using h
  | cons head rest ih =>
    obtain ⟨k, b⟩ := head
    simp only [put] at h
    split at h
    · simpa using h
    · split at h
      · rcases List.mem_cons.1 h with h | h
        · exact .inl h
        · exact .inr (List.mem_cons_of_mem _ h)
      · rcases List.mem_cons.1 h with h | h
        · exact .inr (h ▸ List.mem_cons_self)
        · exact (ih h).imp_right (List.mem_cons_of_mem _)

theorem lt_of_not_lt_of_ne {a b : String} (h : ¬a < b) (hne : a ≠ b) : b < a := by
  rcases Decidable.em (b < a) with hba | hba
  · exact hba
  · exact absurd (String.le_antisymm (String.not_lt.1 hba) (String.not_lt.1 h)) hne

theorem ascending_put (key : String) (a : α) {entries : List (String × α)}
    (h : entries.Pairwise fun x y => x.1 < y.1) :
    (put key a entries).Pairwise fun x y => x.1 < y.1 := by
  induction entries with
  | nil => simp [put]
  | cons head rest ih =>
    obtain ⟨k, b⟩ := head
    rw [List.pairwise_cons] at h
    simp only [put]
    split
    · rename_i hlt
      refine List.pairwise_cons.2 ⟨fun x hx => ?_, List.pairwise_cons.2 h⟩
      rcases List.mem_cons.1 hx with rfl | hx
      · exact hlt
      · exact String.lt_trans hlt (h.1 x hx)
    · split
      · rename_i heq
        subst heq
        exact List.pairwise_cons.2 h
      · rename_i hnot hne
        refine List.pairwise_cons.2 ⟨fun x hx => ?_, ih h.2⟩
        rcases mem_put hx with rfl | hx
        · exact lt_of_not_lt_of_ne hnot hne
        · exact h.1 x hx

/-- The dictionary with a value written under a key. -/
def insert (d : Dictionary α) (key : String) (a : α) : Dictionary α :=
  ⟨put key a d.entries, ascending_put key a d.ascending⟩

/-- The dictionary of a list of entries; of several entries with one key the last counts. -/
def ofList (entries : List (String × α)) : Dictionary α :=
  entries.foldl (fun d entry => d.insert entry.1 entry.2) empty

/-- The entries that pass a test. -/
def filter (d : Dictionary α) (keep : String → α → Bool) : Dictionary α :=
  ⟨d.entries.filter fun entry => keep entry.1 entry.2, d.ascending.sublist List.filter_sublist⟩

/-- The dictionary without a key. -/
def erase (d : Dictionary α) (key : String) : Dictionary α :=
  d.filter fun k _ => k != key

/-- Applies a function to every value and keeps the entries for which it has a result. -/
def filterMap (d : Dictionary α) (f : String → α → Option β) : Dictionary β :=
  ⟨d.entries.filterMap fun entry => (f entry.1 entry.2).map fun b => (entry.1, b), by
    refine List.Pairwise.filterMap _ (fun a b hlt a' ha b' hb => ?_) d.ascending
    obtain ⟨_, _, rfl⟩ := Option.map_eq_some_iff.1 ha
    obtain ⟨_, _, rfl⟩ := Option.map_eq_some_iff.1 hb
    exact hlt⟩

/-- Applies a function to every value. -/
def map (d : Dictionary α) (f : String → α → β) : Dictionary β :=
  ⟨d.entries.map fun entry => (entry.1, f entry.1 entry.2), by
    rw [List.pairwise_map]
    exact d.ascending⟩

@[simp] theorem get?_empty (key : String) : (empty : Dictionary α).get? key = none := rfl

theorem lookup?_put (key other : String) (a : α) (entries : List (String × α)) :
    lookup? other (put key a entries) =
      if key = other then some a else lookup? other entries := by
  induction entries with
  | nil => simp [put, lookup?]
  | cons head rest ih =>
    obtain ⟨k, b⟩ := head
    simp only [put]
    split
    · simp [lookup?]
    · split
      · rename_i heq
        subst heq
        by_cases h : key = other <;> simp [lookup?, h]
      · rename_i _ hne
        by_cases hk : k = other
        · subst hk
          simp [lookup?, hne]
        · simp [lookup?, hk, ih]

/-- An insertion changes the answer for its own key only. -/
@[simp] theorem get?_insert (d : Dictionary α) (key other : String) (a : α) :
    (d.insert key a).get? other = if key = other then some a else d.get? other :=
  lookup?_put key other a d.entries

theorem lookup?_eq_none_of_forall_lt {key : String} {entries : List (String × α)}
    (h : ∀ x ∈ entries, key < x.1) : lookup? key entries = none := by
  induction entries with
  | nil => rfl
  | cons head rest ih =>
    have hne : head.1 ≠ key := fun heq =>
      String.lt_irrefl key (heq ▸ h head List.mem_cons_self)
    simp [lookup?, hne, ih fun x hx => h x (List.mem_cons_of_mem _ hx)]

theorem eq_of_lookup?_eq {left right : List (String × α)}
    (hl : left.Pairwise fun x y => x.1 < y.1) (hr : right.Pairwise fun x y => x.1 < y.1)
    (h : ∀ key, lookup? key left = lookup? key right) : left = right := by
  induction left generalizing right with
  | nil =>
    cases right with
    | nil => rfl
    | cons head rest => simpa [lookup?] using h head.1
  | cons head rest ih =>
    obtain ⟨k, a⟩ := head
    rw [List.pairwise_cons] at hl
    cases right with
    | nil => simpa [lookup?] using h k
    | cons head' rest' =>
      obtain ⟨k', a'⟩ := head'
      rw [List.pairwise_cons] at hr
      have hk : k = k' := by
        rcases Decidable.em (k = k') with heq | hne
        · exact heq
        · exfalso
          rcases Decidable.em (k < k') with hlt | hlt
          · have hnone : lookup? k ((k', a') :: rest') = none := by
              refine lookup?_eq_none_of_forall_lt fun x hx => ?_
              rcases List.mem_cons.1 hx with rfl | hx
              · exact hlt
              · exact String.lt_trans hlt (hr.1 x hx)
            simpa [lookup?, hnone] using (h k).trans hnone
          · have hgt := lt_of_not_lt_of_ne hlt hne
            have hnone : lookup? k' ((k, a) :: rest) = none := by
              refine lookup?_eq_none_of_forall_lt fun x hx => ?_
              rcases List.mem_cons.1 hx with rfl | hx
              · exact hgt
              · exact String.lt_trans hgt (hl.1 x hx)
            simpa [lookup?, hnone] using (h k').symm.trans hnone
      subst hk
      have ha : a = a' := by simpa [lookup?] using h k
      subst ha
      congr 1
      refine ih hl.2 hr.2 fun key => ?_
      rcases Decidable.em (k = key) with heq | hne
      · subst heq
        rw [lookup?_eq_none_of_forall_lt hl.1, lookup?_eq_none_of_forall_lt hr.1]
      · simpa [lookup?, hne] using h key

/-- Dictionaries that hold the same value under every key are equal. -/
theorem ext_get? {d e : Dictionary α} (h : ∀ key, d.get? key = e.get? key) : d = e := by
  obtain ⟨left, hl⟩ := d
  obtain ⟨right, hr⟩ := e
  congr
  exact eq_of_lookup?_eq hl hr h

end Dictionary

end CodeIndex
