import CodeIndex.Proofs.Run.Uses

/-!
# Runs and the points of others

A collection holds the points of several repositories, and a run works for one of them.  Two things
keep the repositories apart.  Whatever a run comes to, and wherever it stops, it can overwrite a
point of another repository only by uploading a point under the same identifier.  And what a run
does is determined by the store without the points of others: its result, what it does to the rest
of the world, and the points that its repository has afterwards.

Both follow from the operations that a run uses, one by one, and hold for runs that fail or are
cancelled as they do for those that end well.

## Main statements

* `Indexer.isolated`: a run leaves the points of others, and does not see them.
-/

namespace CodeIndex

variable {σ γ : Type}

/-- Worlds that are alike once their stores are changed differ in the store alone. -/
theorem Clocked.eq_onStore_of_onStore_eq {change : MemoryStore → MemoryStore}
    {a b : Clocked (World σ γ)} (same : a.onStore change = b.onStore change) :
    b = a.onStore fun _ => b.state.store := by
  obtain ⟨now, ⟨⟨store, embedder, generator⟩, checkpoints, step, asked⟩⟩ := a
  obtain ⟨now', ⟨⟨store', embedder', generator'⟩, checkpoints', step', asked'⟩⟩ := b
  simp only [onStore, mk.injEq, World.mk.injEq, Services.mk.injEq] at same ⊢
  obtain ⟨rfl, ⟨-, rfl, rfl⟩, rfl, rfl, rfl⟩ := same
  simp

namespace Indexer

open MemoryStore

variable {indexer : Indexer σ γ} {around : Surroundings σ} {repository : Repository}
variable {run : RunM σ γ Report} {before after : Clocked (World σ γ)}
variable {result : Except RunError Report}

/-- **A run leaves the points of others,** up to the identifiers under which it uploads. -/
theorem UsesOwn.leavesOthers (uses : indexer.UsesOwn around repository run)
    (ended : run.outcome before = (result, after)) :
    ∃ ops, LeavesOthers repository.name indexer.settings.collection before.state.store ops
      after.state.store := by
  have related := uses.related
    (fun a b => ∃ ops, LeavesOthers repository.name indexer.settings.collection a ops b)
    (fun store => ⟨[], .refl store⟩)
    (fun ⟨ops, first⟩ ⟨further, second⟩ => ⟨ops ++ further, first.trans second⟩)
    (fun own store => own.leavesOthers store) before
  rwa [ended] at related

/-- **A run does not see the points of others:** on a store that differs in nothing else it comes to
the same, and leaves a store that differs in nothing else. -/
theorem UsesOwn.outcome_congr (uses : indexer.UsesOwn around repository run)
    (ended : run.outcome before = (result, after)) {store : MemoryStore}
    (alike : store.only repository.name indexer.settings.collection =
      before.state.store.only repository.name indexer.settings.collection) :
    ∃ left, run.outcome (before.onStore fun _ => store) = (result, after.onStore fun _ => left) ∧
      left.only repository.name indexer.settings.collection =
        after.state.store.only repository.name indexer.settings.collection := by
  have commutes : run.CommutesWith (·.only repository.name indexer.settings.collection) :=
    uses.commutesWith fun own => own.only_comm
  rcases ended' : run.outcome (before.onStore fun _ => store) with ⟨result', after'⟩
  -- both runs, seen on the store without others, are the same run
  have here := commutes before
  have there := commutes (before.onStore fun _ => store)
  have start : (before.onStore fun _ => store).onStore
      (·.only repository.name indexer.settings.collection) =
        before.onStore (·.only repository.name indexer.settings.collection) := by
    simp only [Clocked.onStore, alike]
  rw [start, here, ended, ended', Prod.mk.injEq] at there
  obtain ⟨rfl, same⟩ := there
  refine ⟨after'.state.store, ?_, ?_⟩
  · rw [← Clocked.eq_onStore_of_onStore_eq same]
  · exact (congrArg (fun clocked => clocked.state.store) same).symm

/-- **Repositories do not interfere.**  Let a full or an incremental run for a repository end, with
whatever result.  What the store has logged meanwhile names the identifiers of its uploads, all of
them identifiers of the repository.  If no point of another repository was stored under one of them,
the points of others in the collection are what they were; other collections are in any case.  And
on a store with other points of others, or none, the run comes to the same result, leaves the rest
of the world the same, and leaves the same points of its own repository. -/
theorem isolated [Walk] (indexer : Indexer σ γ) (around : Surroundings σ) (repository : Repository)
    {run : RunM σ γ Report}
    (either : run = indexer.index around repository ∨ run = indexer.reindex around repository)
    {before after : Clocked (World σ γ)} {result : Except RunError Report}
    (ended : run.outcome before = (result, after)) :
    (∃ ops, after.state.store.ops = before.state.store.ops ++ ops ∧
      (∀ id ∈ uploadedIds ops, ∃ path line, id = pointId repository.name path line) ∧
      ((∀ id ∈ uploadedIds ops, (othersThan repository.name
          (before.state.store.pointsOf indexer.settings.collection)).get? id = none) →
        othersThan repository.name (after.state.store.pointsOf indexer.settings.collection) =
          othersThan repository.name (before.state.store.pointsOf indexer.settings.collection))) ∧
    (∀ other, other ≠ indexer.settings.collection →
      after.state.store.pointsOf other = before.state.store.pointsOf other) ∧
    ∀ store, store.only repository.name indexer.settings.collection =
        before.state.store.only repository.name indexer.settings.collection →
      ∃ left, run.outcome (before.onStore fun _ => store) =
          (result, after.onStore fun _ => left) ∧
        ownedBy repository.name (left.pointsOf indexer.settings.collection) =
          ownedBy repository.name (after.state.store.pointsOf indexer.settings.collection) := by
  have uses : indexer.UsesOwn around repository run := by
    rcases either with rfl | rfl
    · exact usesOwn_index
    · exact usesOwn_reindex
  obtain ⟨ops, leaves⟩ := uses.leavesOthers ended
  refine ⟨⟨ops, leaves.ops_eq, leaves.own_ids, leaves.othersThan_eq⟩, leaves.elsewhere, ?_⟩
  intro store alike
  obtain ⟨left, outcome, same⟩ := uses.outcome_congr ended alike
  refine ⟨left, outcome, ?_⟩
  rw [← pointsOf_only, same, pointsOf_only]

/-- A point of repository `b`. -/
def foreignPoint : PointData :=
  ⟨[], none, Dictionary.empty.insert "repo" (.string "b")⟩

theorem repository?_foreignPoint : foreignPoint.repository? = some "b" := by
  simp [PointData.repository?, PointData.text?, foreignPoint, Json.string?]

/-- A collection with this point and no other. -/
def foreignPoints : Dictionary PointData := Dictionary.empty.insert "b" foreignPoint

theorem ownedBy_foreignPoints : ownedBy "a" foreignPoints = Dictionary.empty := by
  refine Dictionary.ext_get? fun id => ?_
  rw [ownedBy, Dictionary.get?_filter, foreignPoints, Dictionary.get?_insert]
  split
  · simp [repository?_foreignPoint]
  · rfl

theorem get?_othersThan_foreignPoints :
    (othersThan "a" foreignPoints).get? "b" = some foreignPoint := by
  rw [get?_othersThan, repository?_foreignPoint]
  simp [foreignPoints]

/-- A fresh world whose store has a collection with some points. -/
def worldWith (points : Dictionary PointData) : Clocked (World Unit Unit) :=
  freshWorld.onStore fun store =>
    { store with collections := Dictionary.empty.insert "code_chunks" ⟨true, points, []⟩ }

theorem pointsOf_worldWith (points : Dictionary PointData) :
    (worldWith points).state.store.pointsOf "code_chunks" = points := by
  simp [worldWith, Clocked.onStore, pointsOf]

theorem only_worldWith (points : Dictionary PointData) :
    (worldWith points).state.store.only "a" "code_chunks" =
      (worldWith (ownedBy "a" points)).state.store := by
  have same : (Dictionary.empty.insert "code_chunks" (Collection.mk true points [])).map
      (fun key place => if key = "code_chunks" then restrict "a" place else place) =
        Dictionary.empty.insert "code_chunks" ⟨true, ownedBy "a" points, []⟩ := by
    refine Dictionary.ext_get? fun key => ?_
    by_cases here : "code_chunks" = key
    · subst here
      simp [restrict]
    · simp [here]
  simp only [worldWith, Clocked.onStore, only, same]

/-- Identifiers have hyphens in them. -/
theorem pointId_ne_b (repository path : String) (line : Nat) :
    pointId repository path line ≠ "b" := by
  intro same
  have hyphen : '-' ∈ (pointId repository path line).toList := by
    simp [pointId, Hash.nameId, Hash.hyphenated]
  rw [same] at hyphen
  exact absurd hyphen (by decide)

theorem othersThan_foreignPoints_pointId (repository path : String) (line : Nat) :
    (othersThan "a" foreignPoints).get? (pointId repository path line) = none := by
  rw [othersThan, Dictionary.get?_filter, foreignPoints, Dictionary.get?_insert,
    if_neg (pointId_ne_b _ _ _).symm]
  rfl

/-- A full run for repository `a` succeeds beside a point of repository `b`, leaves it, and comes to
the same without it. -/
theorem isolated_oneFile :
    ∃ report after,
      (bare.index (oneFile "one") ⟨"a", "/a"⟩).outcome (worldWith foreignPoints) =
        (.ok report, after) ∧
      (after.state.store.pointsOf "code_chunks").get? "b" = some foreignPoint ∧
      ∃ left, (bare.index (oneFile "one") ⟨"a", "/a"⟩).outcome (worldWith Dictionary.empty) =
        (.ok report, after.onStore fun _ => left) := by
  have accepts : (worldWith foreignPoints).state.store.AcceptsSparse
      bare.settings.collection := by
    intro collection there
    cases there
    rfl
  have unhindered : bare.Unhindered (oneFile "one") (worldWith foreignPoints).state.store :=
    unhindered_ofAnswers _ _ (fun _ => rfl) rfl
  have succeeds : ∃ report after, (bare.index (oneFile "one") ⟨"a", "/a"⟩).outcome
      (worldWith foreignPoints) = (.ok report, after) :=
    exists_report_of_unhindered accepts (Option.some_ne_none _) unhindered
  obtain ⟨report, after, ended⟩ := succeeds
  obtain ⟨⟨ops, -, own_ids, kept⟩, -, unseen⟩ :=
    isolated bare (oneFile "one") ⟨"a", "/a"⟩ (.inl rfl) ended
  have collection : bare.settings.collection = "code_chunks" := rfl
  rw [collection, pointsOf_worldWith] at kept
  refine ⟨report, after, ended, ?_, ?_⟩
  · have same := kept fun id uploaded => by
      obtain ⟨path, line, rfl⟩ := own_ids id uploaded
      exact othersThan_foreignPoints_pointId _ _ _
    have foreign := get?_othersThan_foreignPoints
    rw [← same] at foreign
    exact (get?_othersThan.1 foreign).1
  · have alike : (worldWith Dictionary.empty).state.store.only "a" "code_chunks" =
        (worldWith foreignPoints).state.store.only "a" "code_chunks" := by
      rw [only_worldWith, only_worldWith, ownedBy_foreignPoints]
      rfl
    obtain ⟨left, outcome, -⟩ := unseen _ alike
    exact ⟨left, outcome⟩

end Indexer

end CodeIndex
