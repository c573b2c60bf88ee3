import CodeIndex.PointId
import Mathlib.Data.List.Basic
import Mathlib.Data.Set.Function

/-!
# Keys of points

The text that is hashed into an identifier joins a repository, a path and a line with colons, and
colons may stand in names and in paths.  The line is safe, since digits are no colons.  What stands
before it can be read in as many ways as it has colons: `pointKey_eq_iff` lists the pairs of
readings of one key, and two repositories are `KeysApart` if no such pair falls to them.  That is
the case if and only if neither name `Continues` the other one behind a colon (`keysApart_iff`); a
path of the repository with the shorter name can then never spell out the rest of the longer one.

Keys are what this module is about.  Identifiers are hashes of them, and whether different keys have
different hashes is a matter of the hash: `PointKey.injOn_id` takes it as a hypothesis about the
keys that are in use.

## Main statements

* `pointKey_eq_iff`: when two keys are equal.
* `keysApart_iff`: which repositories have no key in common.
-/

namespace CodeIndex

/-! ## Cutting a key -/

/-- Two texts with a colon in each are the same text if and only if they are cut at the same colon,
or one of them is cut at a later one. -/
theorem append_colon_inj {before after before' after' : List Char} :
    before ++ ':' :: after = before' ++ ':' :: after' ↔
      (before = before' ∧ after = after') ∨
        (∃ between, before' = before ++ ':' :: between ∧ after = between ++ ':' :: after') ∨
          ∃ between, before = before' ++ ':' :: between ∧ after' = between ++ ':' :: after := by
  constructor
  · intro same
    rcases List.append_eq_append_iff.1 same with ⟨rest, rfl, cut⟩ | ⟨rest, rfl, cut⟩
    · cases rest with
      | nil => exact .inl ⟨by simp, by simpa using cut⟩
      | cons colon between =>
          obtain ⟨rfl, rfl⟩ := List.cons.inj cut
          exact .inr (.inl ⟨between, rfl, rfl⟩)
    · cases rest with
      | nil => exact .inl ⟨by simp, by simpa using cut.symm⟩
      | cons colon between =>
          obtain ⟨rfl, rfl⟩ := List.cons.inj cut
          exact .inr (.inr ⟨between, rfl, rfl⟩)
  · rintro (⟨rfl, rfl⟩ | ⟨between, rfl, rfl⟩ | ⟨between, rfl, rfl⟩)
    · rfl
    · simp
    · simp

theorem colon_notMem_toString (line : Nat) : ':' ∉ (toString line).toList := by
  intro member
  rw [Nat.toString_eq_repr, Nat.toList_repr] at member
  exact absurd (Nat.isDigit_of_mem_toDigits (by decide) (by decide) member) (by decide)

theorem toString_toList_inj {line line' : Nat}
    (same : (toString line).toList = (toString line').toList) : line = line' := by
  rw [Nat.toString_eq_repr, Nat.toString_eq_repr, Nat.toList_repr, Nat.toList_repr] at same
  rw [← Nat.ofDigitChars_ten_toDigits (n := line), same, Nat.ofDigitChars_ten_toDigits]

theorem eq_append_colon_iff {name longer : String} {rest : List Char} :
    longer.toList = name.toList ++ ':' :: rest ↔ longer = name ++ ":" ++ String.ofList rest := by
  simp [← String.toList_inj]

/-- A repository and a path joined by a colon are cut at the same colon, or one of the two at a
later one. -/
theorem repository_colon_path_inj {repository repository' path path' : String} :
    repository.toList ++ ':' :: path.toList = repository'.toList ++ ':' :: path'.toList ↔
      (repository = repository' ∧ path = path') ∨
        (∃ between, repository' = repository ++ ":" ++ between ∧ path = between ++ ":" ++ path') ∨
          ∃ between, repository = repository' ++ ":" ++ between ∧
            path' = between ++ ":" ++ path := by
  have asStrings : ∀ test : String → Prop, (∃ between, test between) ↔
      ∃ between : List Char, test (String.ofList between) := fun test =>
    ⟨fun ⟨between, holds⟩ => ⟨between.toList, by simpa using holds⟩, fun ⟨_, holds⟩ => ⟨_, holds⟩⟩
  rw [append_colon_inj, String.toList_inj, String.toList_inj, asStrings, asStrings]
  simp only [eq_append_colon_iff, ← String.toList_inj, String.toList_append, String.toList_ofList,
    List.append_assoc]
  rfl

/-- **When two keys are equal:** they have the same line, and what stands before it is cut at one of
its colons, in one key at a later colon than in the other if not at the same. -/
theorem pointKey_eq_iff {repository repository' path path' : String} {line line' : Nat} :
    pointKey repository path line = pointKey repository' path' line' ↔
      line = line' ∧ ((repository = repository' ∧ path = path') ∨
        (∃ between, repository' = repository ++ ":" ++ between ∧ path = between ++ ":" ++ path') ∨
          ∃ between, repository = repository' ++ ":" ++ between ∧
            path' = between ++ ":" ++ path) := by
  have grouped : ∀ repository path : String, ∀ line, pointKey repository path line =
      (repository.toList ++ ':' :: path.toList) ++ ':' :: (toString line).toList := by
    simp [pointKey]
  rw [grouped, grouped, append_colon_inj, repository_colon_path_inj]
  constructor
  · rintro (⟨same, digits⟩ | ⟨between, -, digits⟩ | ⟨between, -, digits⟩)
    · exact ⟨toString_toList_inj digits, same⟩
    · exact absurd (digits ▸ by simp) (colon_notMem_toString line)
    · exact absurd (digits ▸ by simp) (colon_notMem_toString line')
  · rintro ⟨rfl, same⟩
    exact .inl ⟨same, rfl⟩

example : pointKey "a" "b:c.md" 1 = pointKey "a:b" "c.md" 1 := by decide

/-! ## Repositories without common keys -/

/-- Whether a name goes on behind a colon where another one ends. -/
def Continues (name longer : String) : Prop := ∃ rest, longer = name ++ ":" ++ rest

/-- Whether the keys of two repositories tell repositories, paths and lines apart. -/
def KeysApart (repository repository' : String) : Prop :=
  ∀ path path' line line', pointKey repository path line = pointKey repository' path' line' →
    repository = repository' ∧ path = path' ∧ line = line'

theorem Continues.ne {name longer : String} (continues : Continues name longer) :
    name ≠ longer := by
  obtain ⟨rest, rfl⟩ := continues
  intro same
  have length := congrArg String.length same
  simp only [String.length_append] at length
  have : ":".length = 1 := rfl
  omega

/-- **Two repositories have no key in common that stands for different places** if and only if
neither name continues the other one. -/
theorem keysApart_iff {repository repository' : String} :
    KeysApart repository repository' ↔
      ¬Continues repository repository' ∧ ¬Continues repository' repository := by
  constructor
  · intro apart
    constructor
    · intro continues
      have different := continues.ne
      obtain ⟨rest, same⟩ := continues
      -- a file of the shorter name whose path begins with the rest of the longer one
      have collide : pointKey repository (rest ++ ":" ++ "x") 1 = pointKey repository' "x" 1 :=
        pointKey_eq_iff.2 ⟨rfl, .inr (.inl ⟨rest, same, rfl⟩)⟩
      exact different (apart _ _ _ _ collide).1
    · intro continues
      have different := continues.ne
      obtain ⟨rest, same⟩ := continues
      have collide : pointKey repository "x" 1 = pointKey repository' (rest ++ ":" ++ "x") 1 :=
        pointKey_eq_iff.2 ⟨rfl, .inr (.inr ⟨rest, same, rfl⟩)⟩
      exact different (apart _ _ _ _ collide).1.symm
  · rintro ⟨forth, back⟩ path path' line line' same
    obtain ⟨rfl, ⟨rfl, rfl⟩ | ⟨between, longer, -⟩ | ⟨between, longer, -⟩⟩ := pointKey_eq_iff.1 same
    · exact ⟨rfl, rfl, rfl⟩
    · exact absurd ⟨between, longer⟩ forth
    · exact absurd ⟨between, longer⟩ back

/-- The keys of one repository always tell its files and lines apart. -/
theorem keysApart_self (repository : String) : KeysApart repository repository :=
  keysApart_iff.2 ⟨fun continues => continues.ne rfl, fun continues => continues.ne rfl⟩

/-! ## Identifiers of the keys in use -/

/-- What an identifier is computed from. -/
@[ext]
structure PointKey where
  repository : String
  path : String
  line : Nat
deriving DecidableEq

namespace PointKey

/-- The text that is hashed. -/
def text (key : PointKey) : List Char := pointKey key.repository key.path key.line

/-- The identifier. -/
def id (key : PointKey) : String := pointId key.repository key.path key.line

/-- Keys of repositories that are apart have different identifiers, as far as different texts among
them have different hashes. -/
theorem injOn_id {keys : Set PointKey}
    (apart : ∀ key ∈ keys, ∀ other ∈ keys, KeysApart key.repository other.repository)
    (hash : Set.InjOn Hash.nameId (text '' keys)) : Set.InjOn id keys := by
  intro key member other member' same
  have texts : key.text = other.text :=
    hash (Set.mem_image_of_mem text member) (Set.mem_image_of_mem text member') same
  obtain ⟨repository, path, line⟩ := apart key member other member' _ _ _ _ texts
  exact PointKey.ext repository path line

end PointKey

end CodeIndex
