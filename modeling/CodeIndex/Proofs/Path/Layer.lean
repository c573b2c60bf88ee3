import CodeIndex.Path.Layer
import CodeIndex.Proofs.Repository.Spelling
import CodeIndex.Proofs.Text.Case
import CodeIndex.Proofs.Text.Split
import Mathlib.Data.List.DropRight
import Mathlib.Data.List.Find

/-!
# What decides the layer of a path

The layer of a path is found by searching for names between slashes in a text, the path in lower
case with a slash in front.  It is a matter of the directories alone: the segments that a slash
follows (`Layer.directories`).  The first entry of the table whose name is one of them decides, and
so it does not matter in what order they stand, how often, and what the file is called.

The directories are those of the path in lower case, and lower case looks at neighbouring letters.
It does not look past a slash (`Text.lowerText_append_cons`), and no slash comes in by it, so that
the name of the file has no say in how a directory is spelled either.

## Main definitions

* `Layer.directories`, `Layer.folder`: the directories of a path, and the text of it that names
  them.
* `Layer.Decides`: the layer that directories decide.

## Main statements

* `Layer.ofPath_eq_iff`: directories decide.
* `Layer.directories_folder`: the name of the file has no say.
* `Layer.directories_eq_of_sameText`: nor has the spelling.
* `Layer.ofPath_decided`
-/

namespace CodeIndex.Layer

open CodeIndex.Text

/-- A slash in place of a backslash. -/
def slash (c : Char) : Char := if c = '\\' then '/' else c

/-- **The directories of a path,** in lower case: the segments that a slash follows.  A backslash
separates like a slash. -/
def directories (path : String) : List (List Char) :=
  (splitOn (· == '/') (lowerText (Path.slashed path).toList)).dropLast

/-- Characters that separate the segments of a path. -/
def isSeparator (c : Char) : Bool := c == '/' || c == '\\'

/-- A path without the name of the file: all up to the last separator. -/
def folder (path : String) : List Char :=
  path.toList.rdropWhile fun c => !isSeparator c

/-- **The layer that directories decide:** that of the first entry of the table which names one of
them, or the default if there is no such entry. -/
inductive Decides (names : List (List Char)) : String → Prop
  | entry {before behind : List (String × String)} {name layer : String}
      (split : table = before ++ (name, layer) :: behind) (listed : name.toList ∈ names)
      (first : ∀ other ∈ before, other.1.toList ∉ names) : Decides names layer
  | default (absent : ∀ entry ∈ table, entry.1.toList ∉ names) : Decides names defaultLayer

/-! ## Searching for a directory -/

/-- **The search for a directory** finds those of the path. -/
theorem hasDirectory_iff {path name : String} (clean : '/' ∉ name.toList) :
    hasDirectory (normalized path.toList) name = true ↔ name.toList ∈ directories path := by
  rw [hasDirectory, occursIn_iff_infix, normalized, List.cons_append,
    infix_iff_mem_splitOn clean, directories, Path.toList_slashed]

/-- The table is searched for the name of a directory. -/
theorem ofPath_eq (path : String) :
    ofPath path = ((table.find? fun entry => entry.1.toList ∈ directories path).map (·.2)).getD
      defaultLayer := by
  have clean : ∀ entry ∈ table, '/' ∉ entry.1.toList := by decide
  have same : (table.find? fun entry => hasDirectory (normalized path.toList) entry.1) =
      table.find? fun entry => entry.1.toList ∈ directories path := by
    refine List.find?_congr fun entry listed => ?_
    rw [Bool.eq_iff_iff, decide_eq_true_iff, hasDirectory_iff (clean entry listed)]
  rw [ofPath, same]

variable {names : List (List Char)} {path other layer : String}

/-- The first entry of the table with one of some names decides. -/
theorem find?_table_eq_iff :
    ((table.find? fun entry => entry.1.toList ∈ names).map (·.2)).getD defaultLayer = layer ↔
      Decides names layer := by
  constructor
  · rintro rfl
    cases found : table.find? fun entry => entry.1.toList ∈ names with
    | none =>
        refine .default fun entry listed => ?_
        simpa using List.find?_eq_none.1 found entry listed
    | some entry =>
        obtain ⟨isDirectory, before, behind, split, first⟩ := List.find?_eq_some_iff_append.1 found
        exact .entry split (of_decide_eq_true isDirectory) fun other earlier => by
          simpa using first other earlier
  · intro decides
    cases decides with
    | @entry before behind name _ split listed first =>
        have found : (table.find? fun entry => entry.1.toList ∈ names) = some (name, layer) :=
          List.find?_eq_some_iff_append.2 ⟨decide_eq_true listed, before, behind, split,
            fun other earlier => by simpa using first other earlier⟩
        rw [found]
        rfl
    | default absent =>
        have none : (table.find? fun entry => entry.1.toList ∈ names) = none :=
          List.find?_eq_none.2 fun entry listed => by simpa using absent entry listed
        rw [none]
        rfl

/-- **Directories decide the layer of a path.** -/
theorem ofPath_eq_iff : ofPath path = layer ↔ Decides (directories path) layer := by
  rw [ofPath_eq, find?_table_eq_iff]

/-- Only whether a name is among the directories matters. -/
theorem ofPath_congr (same : ∀ name, name ∈ directories other ↔ name ∈ directories path) :
    ofPath other = ofPath path := by
  rw [ofPath_eq, ofPath_eq]
  simp only [same]

/-! ## The name of the file -/

theorem toList_slashed (path : String) : (Path.slashed path).toList = path.toList.map slash :=
  Path.toList_slashed path

theorem slash_eq_slash_iff {c : Char} : slash c = '/' ↔ isSeparator c = true := by
  unfold slash isSeparator
  by_cases back : c = '\\' <;> simp [back]

theorem endsWord_slash : EndsWord '/' := ⟨by decide, by decide⟩

/-- A name without separators is one segment, in lower case too. -/
theorem splitOn_lowerText_of_clean {file : List Char} (clean : ∀ c ∈ file, isSeparator c = false) :
    splitOn (· == '/') (lowerText (file.map slash)) = [lowerText (file.map slash)] := by
  refine splitOn_of_clean fun c listed => beq_false_of_ne ?_
  rintro rfl
  obtain ⟨c, inFile, separates⟩ := List.mem_map.1 <|
    mem_of_mem_lowerText (by decide) (by decide) listed
  rw [slash_eq_slash_iff, clean c inFile] at separates
  cases separates

/-- A path without separators leads through no directory. -/
theorem directories_of_clean (clean : ∀ c ∈ path.toList, isSeparator c = false) :
    directories path = [] := by
  rw [directories, toList_slashed, splitOn_lowerText_of_clean clean]
  rfl

/-- The name behind the last separator adds nothing to the directories. -/
theorem directories_of_append {front file : List Char} {s : Char}
    (split : path.toList = front ++ s :: file) (separates : isSeparator s = true)
    (clean : ∀ c ∈ file, isSeparator c = false) :
    directories path = splitOn (· == '/') (lowerText (front.map slash)) := by
  have small : lower '/' = ['/'] := by decide
  have cut : splitOn (· == '/') (lowerText (path.toList.map slash)) =
      splitOn (· == '/') (lowerText (front.map slash)) ++
        splitOn (· == '/') (lowerText (file.map slash)) := by
    rw [split, List.map_append, List.map_cons, slash_eq_slash_iff.2 separates,
      lowerText_append_cons endsWord_slash, small, List.append_assoc, List.singleton_append]
    exact splitOn_append_cons (by decide) _ _
  rw [directories, toList_slashed, cut, splitOn_lowerText_of_clean clean, List.dropLast_concat]

/-- Behind its folder, a path is a name without separators. -/
theorem exists_file (path : String) :
    ∃ file, path.toList = folder path ++ file ∧ ∀ c ∈ file, isSeparator c = false :=
  ⟨path.toList.rtakeWhile fun c => !isSeparator c, List.rdropWhile_append_rtakeWhile.symm,
    fun c taken => by simpa using List.mem_rtakeWhile_imp taken⟩

theorem isSeparator_of_folder_eq {front : List Char} {s : Char}
    (last : folder path = front ++ [s]) : isSeparator s = true := by
  have nonempty : folder path ≠ [] := by simp [last]
  have kept : ¬(!isSeparator ((folder path).getLast nonempty)) = true :=
    List.rdropWhile_last_not _ _ nonempty
  have ends : (folder path).getLast nonempty = s := by simp [last]
  rw [← ends]
  simpa using kept

/-- **The directories of a path** are those of its folder: the name of the file has no say. -/
theorem directories_folder (path : String) :
    directories (String.ofList (folder path)) = directories path := by
  obtain ⟨file, cut, clean⟩ := exists_file path
  rcases List.eq_nil_or_concat (folder path) with none | ⟨front, s, last⟩
  · have whole : path.toList = file := by rw [cut, none, List.nil_append]
    rw [← whole] at clean
    rw [none, directories_of_clean clean]
    rfl
  · rw [List.concat_eq_append] at last
    have separates := isSeparator_of_folder_eq last
    have alone : (String.ofList (folder path)).toList = front ++ s :: [] := by
      rw [String.toList_ofList, last]
    have whole : path.toList = front ++ s :: file := by
      rw [cut, last, List.append_assoc, List.singleton_append]
    rw [directories_of_append alone separates (by simp),
      directories_of_append whole separates clean]

/-! ## Spellings -/

/-- **The directories of a path** do not depend on how it is spelled: with which separators, and in
which case of ASCII letters. -/
theorem directories_eq_of_sameText (same : SameText (Path.slashed other) (Path.slashed path)) :
    directories other = directories path := by
  have small := eq_of_beq (sameText_iff.1 same)
  rw [directories, directories, ← lowerText_map_toLower, small, lowerText_map_toLower]

/-- **What decides the layer of a path:** the first entry of the table that names one of its
directories.  Neither the order of the directories nor the name of the file has a say, nor has the
spelling of the path. -/
theorem ofPath_decided (path : String) :
    (∀ layer, ofPath path = layer ↔ Decides (directories path) layer) ∧
      ∀ other,
        ((∀ name, name ∈ directories other ↔ name ∈ directories path) →
          ofPath other = ofPath path) ∧
        (folder other = folder path → ofPath other = ofPath path) ∧
        (SameText (Path.slashed other) (Path.slashed path) → ofPath other = ofPath path) := by
  refine ⟨fun layer => ofPath_eq_iff, fun other => ⟨ofPath_congr, fun same => ?_, fun same => ?_⟩⟩
  · rw [ofPath_eq, ofPath_eq, ← directories_folder other, same, directories_folder]
  · rw [ofPath_eq, ofPath_eq, directories_eq_of_sameText same]

/-- A file below three directories, of which the second and the third are in the table. -/
def deepPath : String := "Lib/Stores\\TESTS/Model.rs"

theorem ofPath_decided_deepPath :
    Decides (directories deepPath) "test" ∧ ofPath deepPath = "test" ∧
      (∀ name, name ∈ directories "tests/lib/stores/tests/a.rs" ↔ name ∈ directories deepPath) ∧
      ofPath "tests/lib/stores/tests/a.rs" = ofPath deepPath ∧
      folder "Lib/Stores\\TESTS/dao" = folder deepPath ∧
      ofPath "Lib/Stores\\TESTS/dao" = ofPath deepPath ∧
      SameText (Path.slashed "lib\\stores/Tests\\MODEL.RS") (Path.slashed deepPath) ∧
      ofPath "lib\\stores/Tests\\MODEL.RS" = ofPath deepPath := by
  obtain ⟨decided, alike⟩ := ofPath_decided deepPath
  have isTest : Decides (directories deepPath) "test" :=
    @Decides.entry _ [("test", "test")] _ "tests" "test" rfl (by decide +kernel)
      (by decide +kernel)
  have reordered : directories "tests/lib/stores/tests/a.rs" =
      ["tests", "lib", "stores", "tests"].map String.toList := by decide +kernel
  have inOrder : directories deepPath = ["lib", "stores", "tests"].map String.toList := by
    decide +kernel
  have names : ∀ name, name ∈ directories "tests/lib/stores/tests/a.rs" ↔
      name ∈ directories deepPath := by
    intro name
    rw [reordered, inOrder]
    simp only [List.map_cons, List.map_nil, List.mem_cons, List.not_mem_nil, or_false]
    tauto
  have renamed : folder "Lib/Stores\\TESTS/dao" = folder deepPath := by decide +kernel
  have respelled : SameText (Path.slashed "lib\\stores/Tests\\MODEL.RS")
      (Path.slashed deepPath) := by decide +kernel
  exact ⟨isTest, (decided "test").2 isTest, names, (alike _).1 names, renamed,
    (alike _).2.1 renamed, respelled, (alike _).2.2 respelled⟩

end CodeIndex.Layer
