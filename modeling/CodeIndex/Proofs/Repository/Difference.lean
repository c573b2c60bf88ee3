import CodeIndex.Proofs.Repository.Spelling
import CodeIndex.Proofs.Store.Keyed
import CodeIndex.Repository.Changes

/-!
# What a report of moves leaves of a difference

Two snapshots differ in a way that is a matter of fact.  How the differences are reported is not: a
tool may take a removed and an added path for one that was moved, by whatever likeness it sees in
them.  `Delta.Reports` is every report that such a tool may give, with any pairs of paths and in any
order, and the lists that come out are the same for all of them.

The lists name paths as they are respelled, with slashes in place of backslashes.  So they are the
difference of the snapshots exactly where no path that differs has a backslash, and two paths may
become one.

## Main definitions

* `Delta.Reports`: the reports of some differences.
* `Snapshot.changedPaths`, `Snapshot.deletedPaths`: the difference of two snapshots.

## Main statements

* `Delta.pairUp_reports`: pairing up paths is a way to report.
* `ChangeSet.ofDeltas_reported`: the lists are the difference, respelled, whatever is reported.
-/

namespace CodeIndex

/-! ## Reports -/

namespace Delta

/-- **The reports of some differences:** in any order, with any removals and additions reported as
moves. -/
inductive Reports (deltas : List Delta) : List Delta → Prop
  | exact : Reports deltas deltas
  | reorder {reported other : List Delta} :
      Reports deltas reported → reported.Perm other → Reports deltas other
  | move {old new : String} {rest : List Delta} :
      Reports deltas (deleted old :: added new :: rest) → Reports deltas (renamed old new :: rest)

variable {deltas reported : List Delta}

/-- The paths that are there with something new do not depend on the report. -/
theorem Reports.new_perm (reports : Reports deltas reported) :
    (reported.filterMap new?).Perm (deltas.filterMap new?) := by
  induction reports with
  | exact => exact .refl _
  | reorder reports perm ih => exact (perm.filterMap new?).symm.trans ih
  | move reports ih => exact ih

/-- Nor do the paths that are gone. -/
theorem Reports.old_perm (reports : Reports deltas reported) :
    (reported.filterMap old?).Perm (deltas.filterMap old?) := by
  induction reports with
  | exact => exact .refl _
  | reorder reports perm ih => exact (perm.filterMap old?).symm.trans ih
  | move reports ih => exact ih

theorem Reports.pairOne (reports : Reports deltas reported) (pair : String × String) :
    Reports deltas (pairOne reported pair) := by
  unfold Delta.pairOne
  split
  · rename_i both
    obtain ⟨gone, there⟩ := Bool.and_eq_true_iff.1 both
    have other : added pair.2 ≠ deleted pair.1 := nofun
    have there : added pair.2 ∈ reported.erase (deleted pair.1) :=
      (List.mem_erase_of_ne other).2 (List.contains_iff_mem.1 there)
    have apart : reported.Perm (deleted pair.1 :: added pair.2 ::
        (reported.erase (deleted pair.1)).erase (added pair.2)) :=
      (List.perm_cons_erase (List.contains_iff_mem.1 gone)).trans
        ((List.perm_cons_erase there).cons _)
    exact .move (.reorder reports apart)
  · exact reports

/-- **Pairing up paths is a way to report,** whatever the pairs are. -/
theorem pairUp_reports (pairs : List (String × String)) (deltas : List Delta) :
    Reports deltas (pairUp pairs deltas) := by
  have general : ∀ reported, Reports deltas reported → Reports deltas (pairUp pairs reported) := by
    induction pairs with
    | nil => exact fun _ reports => reports
    | cons pair pairs ih => exact fun _ reports => ih _ (reports.pairOne pair)
  exact general deltas .exact

end Delta

/-! ## The difference of two snapshots -/

namespace Snapshot

/-- Whether a snapshot holds only files. -/
def IsRegular (snapshot : Snapshot) : Prop :=
  ∀ path entry, snapshot.get? path = some entry →
    ∃ content isExecutable, entry = .file content isExecutable

/-- **The paths of a snapshot that are new** or hold something other than before, in order. -/
def changedPaths (base head : Snapshot) : List String :=
  (head.toList.filter fun held => base.get? held.1 ≠ some held.2).map (·.1)

/-- **The paths that are gone,** in order. -/
def deletedPaths (base head : Snapshot) : List String :=
  base.keys.filter fun path => !head.contains path

variable {base head : Snapshot}

theorem mem_changedPaths {path : String} : path ∈ changedPaths base head ↔
    ∃ entry, head.get? path = some entry ∧ base.get? path ≠ some entry := by
  simp [changedPaths, Dictionary.mem_toList_iff]

theorem mem_deletedPaths {path : String} : path ∈ deletedPaths base head ↔
    base.get? path ≠ none ∧ head.get? path = none := by
  simp [deletedPaths, Dictionary.mem_keys_iff, Dictionary.contains]

/-- Keys stand in ascending order. -/
theorem pairwise_keys (snapshot : Snapshot) : snapshot.keys.Pairwise (· < ·) :=
  List.pairwise_map.2 snapshot.ascending

theorem pairwise_changedPaths : (changedPaths base head).Pairwise (· < ·) :=
  (pairwise_keys head).sublist (List.filter_sublist.map _)

theorem pairwise_deletedPaths : (deletedPaths base head).Pairwise (· < ·) :=
  (pairwise_keys base).sublist List.filter_sublist

/-- No path has changed and is gone, and none is listed twice. -/
theorem nodup_touched : (changedPaths base head ++ deletedPaths base head).Nodup := by
  refine List.nodup_append'.2 ⟨head.nodup_keys.sublist (List.filter_sublist.map _),
    base.nodup_keys.sublist List.filter_sublist, fun path changed deleted => ?_⟩
  obtain ⟨entry, there, -⟩ := mem_changedPaths.1 changed
  rw [(mem_deletedPaths.1 deleted).2] at there
  cases there

/-- What differs at a path is of one kind if both snapshots hold only files. -/
theorem atHeadPath_eq (regularBase : base.IsRegular) (regularHead : head.IsRegular)
    {path : String} {entry : Entry} (there : head.get? path = some entry) :
    (Delta.atHeadPath base path entry).filterMap Delta.new? =
        (if base.get? path ≠ some entry then [path] else []) ∧
      (Delta.atHeadPath base path entry).filterMap Delta.old? = [] := by
  unfold Delta.atHeadPath
  obtain ⟨content, isExecutable, rfl⟩ := regularHead path entry there
  cases before : base.get? path with
  | none => exact ⟨rfl, rfl⟩
  | some earlier =>
      obtain ⟨content', isExecutable', rfl⟩ := regularBase path earlier before
      by_cases same : Entry.file content' isExecutable' = .file content isExecutable
      · simp [same]
      · simp [same, Delta.isLink, Delta.new?, Delta.old?]

/-- The differences name the changed paths and those that are gone. -/
theorem between_eq (regularBase : base.IsRegular) (regularHead : head.IsRegular) :
    (Delta.between base head).filterMap Delta.new? = changedPaths base head ∧
      (Delta.between base head).filterMap Delta.old? = deletedPaths base head := by
  have spread : Delta.between base head =
      ((base.toList.filter fun held => !head.contains held.1).map fun held =>
          Delta.deleted held.1) ++
        head.toList.flatMap fun held => Delta.atHeadPath base held.1 held.2 := rfl
  have atHead : ∀ entries ⊆ head.toList,
      (entries.flatMap fun held => Delta.atHeadPath base held.1 held.2).filterMap Delta.new? =
        (entries.filter fun held => base.get? held.1 ≠ some held.2).map (·.1) ∧
      (entries.flatMap fun held => Delta.atHeadPath base held.1 held.2).filterMap Delta.old? =
        [] := by
    intro entries inside
    induction entries with
    | nil => exact ⟨rfl, rfl⟩
    | cons first entries ih =>
        obtain ⟨new, old⟩ := ih fun _ member => inside (List.mem_cons_of_mem _ member)
        have there := Dictionary.mem_toList_iff.1 (inside List.mem_cons_self)
        obtain ⟨newHere, oldHere⟩ := atHeadPath_eq regularBase regularHead there
        simp only [List.flatMap_cons, List.filterMap_append, new, old, newHere, oldHere]
        by_cases differs : base.get? first.1 = some first.2 <;> simp [differs]
  obtain ⟨new, old⟩ := atHead head.toList (List.Subset.refl _)
  rw [spread, List.filterMap_append, List.filterMap_append, new, old, List.filterMap_map,
    List.filterMap_map]
  constructor
  · simp [Function.comp_def, Delta.new?, changedPaths]
  · simp [Function.comp_def, Delta.old?, deletedPaths, Dictionary.keys, Dictionary.toList,
      List.filter_map]

end Snapshot

/-! ## Listings -/

namespace ChangeSet

variable {paths others : List String}

theorem pairwise_listing (paths : List String) : (listing paths).Pairwise (· ≤ ·) :=
  (List.pairwise_mergeSort (fun _ _ _ => by simpa using String.le_trans)
    (fun a b => by simpa using String.le_total a b) (paths.map Path.slashed)).imp of_decide_eq_true

theorem listing_perm (paths : List String) : (listing paths).Perm (paths.map Path.slashed) :=
  List.mergeSort_perm _ _

/-- What is in order is what it is sorted to. -/
theorem listing_eq_of_perm {ordered : List String} (inOrder : ordered.Pairwise (· ≤ ·))
    (perm : (paths.map Path.slashed).Perm ordered) : listing paths = ordered :=
  ((listing_perm paths).trans perm).eq_of_pairwise
    (fun _ _ _ _ => String.le_antisymm) (pairwise_listing paths) inOrder

/-- A listing does not depend on the order of the paths. -/
theorem listing_congr (perm : paths.Perm others) : listing paths = listing others :=
  listing_eq_of_perm (pairwise_listing others) ((perm.map _).trans (listing_perm others).symm)

/-- **A listing of ascending paths is these paths** if and only if none of them has a backslash. -/
theorem listing_eq_self_iff (ascending : paths.Pairwise (· < ·)) :
    listing paths = paths ↔ ∀ path ∈ paths, '\\' ∉ path.toList := by
  constructor
  · intro same path member
    rw [← same] at member
    obtain ⟨original, -, rfl⟩ := List.mem_map.1 ((listing_perm paths).mem_iff.1 member)
    exact Path.backslash_notMem_slashed original
  · intro kept
    have ordered : paths.Pairwise (· ≤ ·) := ascending.imp fun before =>
      String.not_lt.1 fun behind => String.lt_irrefl _ (String.lt_trans before behind)
    refine listing_eq_of_perm ordered (.of_eq ?_)
    exact (List.map_congr_left fun path member =>
      Path.slashed_eq_self_iff.2 (kept path member)).trans (List.map_id _)

/-! ## What a run is told -/

variable {base head : Snapshot} {reported : List Delta}

/-- **What is told does not depend on the report.**  However the differences of two snapshots of
files are reported, the lists are the paths that have changed and those that are gone, respelled and
in order.  They are exactly the difference where no such path has a backslash; and a path is listed
twice, or as changed and gone, where two of them become one. -/
theorem ofDeltas_reported (regularBase : base.IsRegular) (regularHead : head.IsRegular)
    (reports : Delta.Reports (Delta.between base head) reported) :
    ofDeltas reported = between base head ∧
    ofDeltas reported =
      ⟨listing (base.changedPaths head), listing (base.deletedPaths head)⟩ ∧
    (ofDeltas reported).changed.Pairwise (· ≤ ·) ∧ (ofDeltas reported).deleted.Pairwise (· ≤ ·) ∧
    (ofDeltas reported = ⟨base.changedPaths head, base.deletedPaths head⟩ ↔
      ∀ path ∈ base.changedPaths head ++ base.deletedPaths head, '\\' ∉ path.toList) ∧
    (((ofDeltas reported).changed ++ (ofDeltas reported).deleted).Nodup ↔
      ∀ path ∈ base.changedPaths head ++ base.deletedPaths head,
        ∀ other ∈ base.changedPaths head ++ base.deletedPaths head,
          Path.slashed path = Path.slashed other → path = other) := by
  obtain ⟨new, old⟩ := Snapshot.between_eq regularBase regularHead
  have told : ∀ reported, Delta.Reports (Delta.between base head) reported → ofDeltas reported =
      ⟨listing (base.changedPaths head), listing (base.deletedPaths head)⟩ := by
    intro reported reports
    rw [ofDeltas, listing_congr reports.new_perm, listing_congr reports.old_perm, new, old]
  rw [told reported reports]
  refine ⟨(told _ (Delta.pairUp_reports _ _)).symm, rfl, pairwise_listing _, pairwise_listing _,
    ?_, ?_⟩
  · rw [mk.injEq, listing_eq_self_iff Snapshot.pairwise_changedPaths,
      listing_eq_self_iff Snapshot.pairwise_deletedPaths, ← List.forall_mem_append]
  · have respelled := ((listing_perm (base.changedPaths head)).append
      (listing_perm (base.deletedPaths head))).nodup_iff
    rw [← List.map_append] at respelled
    exact respelled.trans (List.nodup_map_iff_inj_on Snapshot.nodup_touched)

/-- A snapshot of one file. -/
def onlyFile (path : String) : Snapshot :=
  Dictionary.empty.insert path (.file (.text "one") false)

theorem isRegular_onlyFile (path : String) : (onlyFile path).IsRegular := by
  intro other entry there
  rw [onlyFile, Dictionary.get?_insert] at there
  split at there
  · exact ⟨.text "one", false, (Option.some.inj there).symm⟩
  · cases there

/-- A file that leaves a path with a backslash for the one that is spelled like it is told as
changed and gone at one path, which is there. -/
theorem ofDeltas_backslash :
    let base := onlyFile "a\\b.md"
    let head := onlyFile "a/b.md"
    base.changedPaths head = ["a/b.md"] ∧ base.deletedPaths head = ["a\\b.md"] ∧
      ofDeltas [.renamed "a\\b.md" "a/b.md"] = ⟨["a/b.md"], ["a/b.md"]⟩ := by
  intro base head
  have reports : Delta.Reports (Delta.between base head) [.renamed "a\\b.md" "a/b.md"] :=
    .move .exact
  have told := (ofDeltas_reported (isRegular_onlyFile _) (isRegular_onlyFile _) reports).2.1
  exact ⟨by decide, by decide, told.trans (by decide +kernel)⟩

end ChangeSet

end CodeIndex
