import CodeIndex.Proofs.Store.Tenancy
import CodeIndex.Store.Remote.Client
import Mathlib.Data.List.Forall2

/-!
# Payloads on their way to a server and back

A payload is converted before it is sent and again after it has come back.  The two conversions are
not the inverses of each other: a server may hold what no JSON value is, and whole numbers that it
cannot hold arrive as floating-point numbers.  So there are two statements.  What was sent comes
back as it was, just if every number in it, at whatever depth, is one that a server keeps.  And
whatever a server holds, what comes back shows all of it but the values that can be no JSON values;
each of these goes missing by itself, and the list or record around it stays.

What a value shows is said by a relation, `RemoteValue.Shows`, in which lists and records are first
rid of what is lost and then shown member by member.  The conversion runs the two together.

## Main definitions

* `Json.Holds`, `JsonNumber.IsKept`: the numbers in a value, and those that a server keeps.
* `RemoteValue.isLost`, `RemoteValue.Shows`: what goes missing, and what is shown of the rest.

## Main statements

* `RemoteValue.toJson?_ofJson_iff`: which values come back as they were.
* `RemoteValue.toJson?_eq_some_iff`: what comes back of any value.
* `RemotePayload.carried`: both of them for payloads.
-/

namespace CodeIndex

/-! ## Numbers in values -/

/-- Whether a server keeps a number as it is: a whole one of sixty-four bits, or a finite
floating-point one. -/
def JsonNumber.IsKept : JsonNumber → Prop
  | whole n => Int64.minValue.toInt ≤ n ∧ n ≤ Int64.maxValue.toInt
  | real x => x.isFinite = true

namespace Json

/-- Whether a number is in a value, at whatever depth. -/
inductive Holds (number : JsonNumber) : Json → Prop where
  | here : Holds number (.number number)
  | item {items : List Json} {item : Json} :
      item ∈ items → Holds number item → Holds number (.array items)
  | field {fields : List (String × Json)} {field : String × Json} :
      field ∈ fields → Holds number field.2 → Holds number (.object fields)

variable {number other : JsonNumber} {items : List Json} {fields : List (String × Json)}

theorem holds_number_iff : Holds number (.number other) ↔ other = number := by
  constructor
  · rintro ⟨⟩
    rfl
  · rintro rfl
    exact .here

theorem holds_array_iff : Holds number (.array items) ↔ ∃ item ∈ items, Holds number item := by
  constructor
  · rintro (_ | ⟨member, inside⟩)
    exact ⟨_, member, inside⟩
  · rintro ⟨item, member, inside⟩
    exact .item member inside

theorem holds_object_iff :
    Holds number (.object fields) ↔ ∃ field ∈ fields, Holds number field.2 := by
  constructor
  · rintro (_ | _ | ⟨member, inside⟩)
    exact ⟨_, member, inside⟩
  · rintro ⟨field, member, inside⟩
    exact .field member inside

/-- What holds of every value whose members it holds of, holds of all values. -/
@[elab_as_elim]
theorem memberInduction {motive : Json → Prop} (null : motive .null)
    (bool : ∀ b, motive (.bool b)) (number : ∀ n, motive (.number n))
    (string : ∀ s, motive (.string s))
    (array : ∀ items, (∀ item ∈ items, motive item) → motive (.array items))
    (object : ∀ fields, (∀ field ∈ fields, motive field.2) → motive (.object fields))
    (json : Json) : motive json :=
  @Json.rec motive (fun items => ∀ item ∈ items, motive item)
    (fun fields => ∀ field ∈ fields, motive field.2) (fun field => motive field.2)
    null bool number string array object
    (fun _ member => absurd member List.not_mem_nil)
    (fun _ _ head tail => List.forall_mem_cons.2 ⟨head, tail⟩)
    (fun _ member => absurd member List.not_mem_nil)
    (fun _ _ head tail => List.forall_mem_cons.2 ⟨head, tail⟩) (fun _ _ value => value) json

end Json

namespace RemoteValue

/-- What holds of every value whose members it holds of, holds of all values. -/
@[elab_as_elim]
theorem memberInduction {motive : RemoteValue → Prop} (unset : motive .unset)
    (null : motive .null) (bool : ∀ b, motive (.bool b)) (integer : ∀ n, motive (.integer n))
    (real : ∀ x, motive (.real x)) (text : ∀ s, motive (.text s))
    (list : ∀ items, (∀ item ∈ items, motive item) → motive (.list items))
    (record : ∀ fields, (∀ field ∈ fields, motive field.2) → motive (.record fields))
    (value : RemoteValue) : motive value :=
  @RemoteValue.rec motive (fun items => ∀ item ∈ items, motive item)
    (fun fields => ∀ field ∈ fields, motive field.2) (fun field => motive field.2)
    unset null bool integer real text list record
    (fun _ member => absurd member List.not_mem_nil)
    (fun _ _ head tail => List.forall_mem_cons.2 ⟨head, tail⟩)
    (fun _ member => absurd member List.not_mem_nil)
    (fun _ _ head tail => List.forall_mem_cons.2 ⟨head, tail⟩) (fun _ _ value => value) value

/-! ## Members are converted one by one -/

theorem ofItems_eq (items : List Json) : ofItems items = items.map ofJson := by
  induction items with
  | nil => rfl
  | cons item items ih => rw [ofItems, ih, List.map_cons]

theorem ofFields_eq (fields : List (String × Json)) :
    ofFields fields = fields.map fun field => (field.1, ofJson field.2) := by
  induction fields with
  | nil => rfl
  | cons field fields ih => rw [ofFields, ih, List.map_cons]

theorem toItems_eq (items : List RemoteValue) : toItems items = items.filterMap toJson? := by
  induction items with
  | nil => rfl
  | cons item items ih => cases shown : toJson? item <;> simp [toItems, ih, shown]

theorem toFields_eq (fields : List (String × RemoteValue)) :
    toFields fields = fields.filterMap fun field => (toJson? field.2).map (field.1, ·) := by
  induction fields with
  | nil => rfl
  | cons field fields ih => cases shown : toJson? field.2 <;> simp [toFields, ih, shown]

/-! ## There and back -/

/-- A number comes back as it was if and only if a server keeps it. -/
theorem toJson?_ofNumber_iff (number : JsonNumber) :
    toJson? (ofNumber number) = some (.number number) ↔ number.IsKept := by
  cases number with
  | real x => simp [ofNumber, toJson?, JsonNumber.IsKept]
  | whole n =>
      by_cases within : Int64.minValue.toInt ≤ n ∧ n ≤ Int64.maxValue.toInt
      · have same : (Int64.ofInt n).toInt = n := Int64.toInt_ofInt_of_le within.1 (by
          have : Int64.maxValue.toInt = 2 ^ 63 - 1 := by decide
          omega)
        rw [ofNumber, if_pos within, toJson?, same]
        exact iff_of_true rfl within
      · -- such a number arrives as a floating-point number, and stays one
        rw [ofNumber, if_neg within, toJson?]
        refine iff_of_false (fun same => ?_) within
        split at same <;> cases same

/-- Members come back as they were if and only if each of them does. -/
theorem filterMap_eq_self_iff {α : Type} {convert : α → Option α} {members : List α} :
    members.filterMap convert = members ↔ ∀ member ∈ members, convert member = some member := by
  have each := List.filterMap_eq_map_iff_forall_eq_some (f := convert) (g := id) (l := members)
  rwa [List.map_id] at each

/-- **A value comes back as it was** if and only if a server keeps all numbers in it. -/
theorem toJson?_ofJson_iff (json : Json) :
    toJson? (ofJson json) = some json ↔ ∀ number, json.Holds number → number.IsKept := by
  induction json using Json.memberInduction with
  | null => exact iff_of_true rfl (by rintro _ ⟨⟩)
  | bool b => exact iff_of_true rfl (by rintro _ ⟨⟩)
  | string s => exact iff_of_true rfl (by rintro _ ⟨⟩)
  | number n => simp [ofJson, toJson?_ofNumber_iff, Json.holds_number_iff]
  | array items ih =>
      rw [ofJson, toJson?, ofItems_eq, toItems_eq, List.filterMap_map, Option.some.injEq,
        Json.array.injEq, filterMap_eq_self_iff]
      simp only [Json.holds_array_iff]
      constructor
      · rintro same number ⟨item, member, inside⟩
        exact (ih item member).1 (same item member) number inside
      · intro kept item member
        exact (ih item member).2 fun number inside => kept number ⟨item, member, inside⟩
  | object fields ih =>
      rw [ofJson, toJson?, ofFields_eq, toFields_eq, List.filterMap_map, Option.some.injEq,
        Json.object.injEq, filterMap_eq_self_iff]
      simp only [Json.holds_object_iff]
      constructor
      · rintro same number ⟨⟨name, value⟩, member, inside⟩
        obtain ⟨_, back, named⟩ := Option.map_eq_some_iff.1 (same _ member)
        cases named
        exact (ih _ member).1 back number inside
      · intro kept field member
        have back := (ih field member).2 fun number inside => kept number ⟨field, member, inside⟩
        simp [back]

/-! ## What comes back -/

/-- Whether a value can be no JSON value: it does not say what it is, or is a number that is not
finite. -/
def isLost : RemoteValue → Bool
  | unset => true
  | real x => !x.isFinite
  | _ => false

/-- **What a value shows as a JSON value.**  Lists and records show their members in order, all of
them but those that are lost. -/
inductive Shows : RemoteValue → Json → Prop where
  | null : Shows .null .null
  | bool (b : Bool) : Shows (.bool b) (.bool b)
  | integer (n : Int64) : Shows (.integer n) (.int n.toInt)
  | real {x : Float} : x.isFinite = true → Shows (.real x) (.number (.real x))
  | text (s : String) : Shows (.text s) (.string s)
  | list {items : List RemoteValue} {shown : List Json} :
      List.Forall₂ Shows (items.filter fun item => !item.isLost) shown →
      Shows (.list items) (.array shown)
  | record {fields : List (String × RemoteValue)} {shown : List (String × Json)} :
      (fields.filter fun field => !field.2.isLost).map (·.1) = shown.map (·.1) →
      List.Forall₂ Shows ((fields.filter fun field => !field.2.isLost).map (·.2))
        (shown.map (·.2)) →
      Shows (.record fields) (.object shown)

theorem toJson?_eq_none_iff {value : RemoteValue} : toJson? value = none ↔ value.isLost = true := by
  cases value <;> simp [toJson?, isLost]

section Members

variable {α β : Type} {lost : α → Bool} {show? : α → Option β} {Shows : α → β → Prop}

/-- Members that are shown one by one show what is shown of all that are not lost. -/
theorem filterMap_eq_iff_forall₂ {members : List α} {shown : List β}
    (none_iff : ∀ member ∈ members, show? member = none ↔ lost member = true)
    (some_iff : ∀ member ∈ members, ∀ b, show? member = some b ↔ Shows member b) :
    members.filterMap show? = shown ↔
      List.Forall₂ Shows (members.filter fun member => !lost member) shown := by
  induction members generalizing shown with
  | nil => simp [List.forall₂_nil_left_iff, eq_comm]
  | cons member members ih =>
      obtain ⟨noneHere, noneBehind⟩ := List.forall_mem_cons.1 none_iff
      obtain ⟨someHere, someBehind⟩ := List.forall_mem_cons.1 some_iff
      cases shows : show? member with
      | none => simp [shows, noneHere.1 shows, ih noneBehind someBehind]
      | some b =>
          have kept : lost member = false := by
            rw [← Bool.not_eq_true, ← noneHere, shows]
            exact Option.some_ne_none b
          have only : ∀ b', Shows member b' ↔ b = b' := fun b' => by
            rw [← someHere, shows, Option.some.injEq]
          rw [List.filterMap_cons_some shows, List.filter_cons_of_pos (by simp [kept]),
            List.forall₂_cons_left_iff]
          simp only [only, ← ih noneBehind someBehind]
          constructor
          · rintro rfl
            exact ⟨b, _, rfl, rfl, rfl⟩
          · rintro ⟨_, _, rfl, rfl, rfl⟩
            rfl

/-- Fields correspond if and only if their names are the same and their values correspond. -/
theorem forall₂_field_iff {fields : List (String × α)} {shown : List (String × β)} :
    List.Forall₂ (fun field field' => field.1 = field'.1 ∧ Shows field.2 field'.2) fields shown ↔
      fields.map (·.1) = shown.map (·.1) ∧
        List.Forall₂ Shows (fields.map (·.2)) (shown.map (·.2)) := by
  induction fields generalizing shown with
  | nil => cases shown <;> simp
  | cons field fields ih =>
      cases shown with
      | nil => simp
      | cons field' shown => simp [ih, and_and_and_comm]

end Members

/-- **What comes back of a value** is what it shows. -/
theorem toJson?_eq_some_iff {value : RemoteValue} {json : Json} :
    toJson? value = some json ↔ value.Shows json := by
  induction value using memberInduction generalizing json with
  | unset => exact ⟨by rintro ⟨⟩, by rintro ⟨⟩⟩
  | null | bool | integer | text => exact ⟨by rintro ⟨⟩; constructor, by rintro ⟨⟩; rfl⟩
  | real x =>
      by_cases finite : x.isFinite = true
      · rw [toJson?, if_pos finite]
        exact ⟨by rintro ⟨⟩; exact .real finite, by rintro ⟨⟩; rfl⟩
      · rw [toJson?, if_neg finite]
        exact ⟨by rintro ⟨⟩, by rintro ⟨⟩; contradiction⟩
  | list items ih =>
      have each (shown : List Json) : items.filterMap toJson? = shown ↔
          List.Forall₂ Shows (items.filter fun item => !item.isLost) shown :=
        filterMap_eq_iff_forall₂ (fun _ _ => toJson?_eq_none_iff) fun item member _ =>
          ih item member
      rw [toJson?, toItems_eq]
      constructor
      · rintro ⟨⟩
        exact .list ((each _).1 rfl)
      · rintro (_ | _ | _ | _ | _ | shows)
        rw [(each _).2 shows]
  | record fields ih =>
      have each (shown : List (String × Json)) :
          (fields.filterMap fun field => (toJson? field.2).map (field.1, ·)) = shown ↔
          List.Forall₂ (fun field field' => field.1 = field'.1 ∧ Shows field.2 field'.2)
            (fields.filter fun field => !field.2.isLost) shown := by
        refine filterMap_eq_iff_forall₂ (fun _ _ => ?_) fun field member field' => ?_
        · rw [Option.map_eq_none_iff, toJson?_eq_none_iff]
        · rw [Option.map_eq_some_iff]
          simp only [ih field member]
          constructor
          · rintro ⟨json, shows, rfl⟩
            exact ⟨rfl, shows⟩
          · rintro ⟨named, shows⟩
            exact ⟨field'.2, shows, by rw [named]⟩
      simp only [forall₂_field_iff] at each
      rw [toJson?, toFields_eq]
      constructor
      · rintro ⟨⟩
        obtain ⟨names, values⟩ := (each _).1 rfl
        exact .record names values
      · rintro (_ | _ | _ | _ | _ | _ | ⟨names, values⟩)
        rw [(each _).2 ⟨names, values⟩]

end RemoteValue

/-! ## Payloads -/

/-- What is under a key after a function has been applied to every value. -/
theorem Dictionary.get?_filterMap {α β : Type} (d : Dictionary α) (f : String → α → Option β)
    (key : String) : (d.filterMap f).get? key = (d.get? key).bind (f key) := by
  refine Option.ext fun b => ?_
  rw [← Dictionary.mem_toList_iff, Option.bind_eq_some_iff]
  simp only [← Dictionary.mem_toList_iff, Dictionary.toList, Dictionary.filterMap,
    List.mem_filterMap, Option.map_eq_some_iff]
  constructor
  · rintro ⟨⟨key, a⟩, member, b, found, same⟩
    cases same
    exact ⟨a, member, found⟩
  · rintro ⟨a, member, found⟩
    exact ⟨(key, a), member, b, found, rfl⟩

namespace RemotePayload

theorem get?_toMap (payload : RemotePayload) (key : String) :
    payload.toMap.get? key = (payload.get? key).bind RemoteValue.toJson? :=
  Dictionary.get?_filterMap payload _ key

theorem get?_ofMap (payload : Dictionary Json) (key : String) :
    (ofMap payload).get? key = (payload.get? key).map RemoteValue.ofJson :=
  Dictionary.get?_map payload _ key

/-- **What becomes of payloads on their way to a server and back.**  The payload of a point comes
back as it was if and only if a server keeps all numbers in it.  Of whatever payload a server holds,
the entries that are lost are left out, and all others come back as what they show. -/
theorem carried (point : Point) (payload : RemotePayload) :
    (point.remote.payload.toMap = point.payload ↔
        ∀ key json, point.payload.get? key = some json →
          ∀ number, json.Holds number → number.IsKept) ∧
      (∀ key json, payload.toMap.get? key = some json ↔
        ∃ value, payload.get? key = some value ∧ value.Shows json) ∧
      ∀ key, payload.toMap.get? key = none ↔
        ∀ value, payload.get? key = some value → value.isLost = true := by
  refine ⟨?_, fun key json => ?_, fun key => ?_⟩
  · have back (key : String) : point.remote.payload.toMap.get? key =
        (point.payload.get? key).bind fun json => RemoteValue.toJson? (.ofJson json) := by
      rw [get?_toMap, Point.remote, get?_ofMap, Option.bind_map]
      rfl
    simp only [← RemoteValue.toJson?_ofJson_iff]
    constructor
    · intro same key json there
      have here := back key
      rwa [same, there, Option.bind_some, eq_comm] at here
    · intro kept
      refine Dictionary.ext_get? fun key => ?_
      rw [back]
      cases there : point.payload.get? key with
      | none => rfl
      | some json => exact kept key json there
  · rw [get?_toMap, Option.bind_eq_some_iff]
    simp only [RemoteValue.toJson?_eq_some_iff]
  · rw [get?_toMap, Option.bind_eq_none_iff]
    simp only [RemoteValue.toJson?_eq_none_iff]

/-- A point with numbers at two depths of its payload. -/
def measured : Point where
  id := "p"
  dense := []
  sparse := none
  payload := Dictionary.empty.insert "sizes" (.array [.int 3, .array [.number (.real 2.5)]])

/-- A payload with values that are lost, in a list, in a list in this list, and on their own. -/
def patchy : RemotePayload :=
  (Dictionary.empty.insert "tags"
    (.list [.unset, .text "kept", .real (0 / 0), .list [.real (1 / 0)]])).insert "gone" .unset

theorem carried_patchy :
    measured.remote.payload.toMap = measured.payload ∧
      patchy.toMap.get? "tags" = some (.array [.string "kept", .array []]) ∧
      patchy.toMap.get? "gone" = none := by
  obtain ⟨back, shown, lost⟩ := carried measured patchy
  refine ⟨back.2 fun key json there number inside => ?_, (shown _ _).2 ⟨_, rfl, .list ?_⟩,
    (lost _).2 fun value there => ?_⟩
  · have sizes : json = .array [.int 3, .array [.number (.real 2.5)]] := by
      simp only [measured, Dictionary.get?_insert, Dictionary.get?_empty] at there
      split at there <;> simp_all
    subst sizes
    simp only [Json.holds_array_iff, Json.int, List.mem_cons, List.not_mem_nil, or_false,
      exists_eq_or_imp, exists_eq_left, Json.holds_number_iff] at inside
    rcases inside with rfl | rfl
    · exact ⟨by decide, by decide⟩
    · show (2.5 : Float).isFinite = true
      decide
  · have noNumber : (0 / 0 : Float).isFinite = false := by decide
    have noNumber' : (1 / 0 : Float).isFinite = false := by decide
    simp only [List.filter, RemoteValue.isLost, noNumber]
    refine .cons (.text _) (.cons (.list ?_) .nil)
    simp [RemoteValue.isLost, noNumber']
  · cases there
    rfl

end RemotePayload

end CodeIndex
