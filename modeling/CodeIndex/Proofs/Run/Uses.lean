import CodeIndex.Proofs.Run.IncrementalRun
import CodeIndex.Proofs.Store.Tenancy

/-!
# Which store operations a run makes

`RunM.Uses` lists the ways in which a computation can come at its store: it makes operations of a
given kind, once or with further attempts, and whatever else it does ignores the store.  For each
part of a run this is read off its text, in the order in which the text puts it together.

What all operations of a kind do, every computation does that uses no others.  There are two forms
of this.  A relation between stores that every operation respects holds between the stores before
and after (`Uses.related`).  And if every operation goes on alike on a changed store, so does the
computation, with the same result and the same effect on everything else (`Uses.commutesWith`).

Runs for a repository use the operations that are its own, with whatever result they end.

## Main statements

* `RunM.Uses.related`, `RunM.Uses.commutesWith`: from operations to computations.
* `Indexer.usesOwn_index`, `Indexer.usesOwn_reindex`: what the two kinds of runs use.
-/

namespace CodeIndex

variable {σ γ α β : Type}

/-- The clock and world with a changed store. -/
def Clocked.onStore (change : MemoryStore → MemoryStore) (clocked : Clocked (World σ γ)) :
    Clocked (World σ γ) :=
  { clocked with state := { clocked.state with store := change clocked.state.store } }

namespace RunM

variable {computation : RunM σ γ α} {next : α → RunM σ γ β}
variable {change : MemoryStore → MemoryStore}

/-! ## Computations on a changed store -/

/-- Whether a computation goes on alike on a changed store: it has the same result, and leaves the
store that it would have left, changed. -/
def CommutesWith (change : MemoryStore → MemoryStore) (computation : RunM σ γ α) : Prop :=
  ∀ before, computation.outcome (before.onStore change) =
    ((computation.outcome before).1, (computation.outcome before).2.onStore change)

/-- Whether a computation has nothing to do with the store. -/
def IgnoresStore (computation : RunM σ γ α) : Prop := ∀ change, computation.CommutesWith change

theorem CommutesWith.bind (first : computation.CommutesWith change)
    (rest : ∀ a, (next a).CommutesWith change) : (computation >>= next).CommutesWith change := by
  intro before
  have changed := first before
  rcases made : computation.outcome before with ⟨answer, middle⟩
  rw [made] at changed
  cases answer with
  | error e => rw [outcome_bind_of_error changed, outcome_bind_of_error made]
  | ok a =>
      rw [outcome_bind_of_ok changed, outcome_bind_of_ok made]
      exact rest a middle

theorem CommutesWith.caught (commutes : computation.CommutesWith change) :
    computation.caught.CommutesWith change := by
  intro before
  rw [outcome_caught, outcome_caught, commutes before]

/-- What ignores the store leaves it as it is. -/
theorem IgnoresStore.store_eq (ignores : computation.IgnoresStore)
    (before : Clocked (World σ γ)) :
    (computation.outcome before).2.state.store = before.state.store := by
  -- writing the store that is there over itself changes nothing before, so it changes nothing after
  have same := congrArg (fun outcome => outcome.2.state.store)
    (ignores (fun _ => before.state.store) before)
  exact same

theorem ignoresStore_pure (a : α) : (pure a : RunM σ γ α).IgnoresStore := fun _ _ => rfl

theorem ignoresStore_throw (e : RunError) : (throw e : RunM σ γ α).IgnoresStore := fun _ _ => rfl

theorem ignoresStore_see (view : Nat → α) : (see view : RunM σ γ α).IgnoresStore :=
  fun _ _ => rfl

theorem ignoresStore_liftM (answer : Except RunError α) :
    (liftM answer : RunM σ γ α).IgnoresStore := by
  intro change before
  rw [outcome_liftM, outcome_liftM]

end RunM

/-! ## Attempts on a changed store -/

namespace RetryPolicy

variable {S : Type} {policy : RetryPolicy} {operation : String}
variable {request : Request S (Except RunError α)} {change : Clocked S → Clocked S}

/-- Attempts that go on alike make a series that does, from any attempt on. -/
theorem retryFrom_comm
    (sleep : ∀ clocked time, (change clocked).sleep time = change (clocked.sleep time))
    (attempt : ∀ clocked, policy.attempt operation request (change clocked) =
      ((policy.attempt operation request clocked).1,
        change (policy.attempt operation request clocked).2))
    (further number : Nat) (clocked : Clocked S) :
    policy.retryFrom operation request further number (change clocked) =
      ((policy.retryFrom operation request further number clocked).1,
        change (policy.retryFrom operation request further number clocked).2) := by
  induction further generalizing number clocked with
  | zero =>
      unfold retryFrom
      rw [attempt clocked]
      rcases policy.attempt operation request clocked with ⟨answer, middle⟩
      cases answer <;> rfl
  | succ further ih =>
      unfold retryFrom
      rw [attempt clocked]
      rcases policy.attempt operation request clocked with ⟨answer, middle⟩
      cases answer with
      | ok a => rfl
      | error e =>
          dsimp only
          rw [sleep]
          exact ih (number + 1) _

theorem retry_comm
    (sleep : ∀ clocked time, (change clocked).sleep time = change (clocked.sleep time))
    (attempt : ∀ clocked, policy.attempt operation request (change clocked) =
      ((policy.attempt operation request clocked).1,
        change (policy.attempt operation request clocked).2)) (clocked : Clocked S) :
    policy.retry operation request (change clocked) =
      ((policy.retry operation request clocked).1,
        change (policy.retry operation request clocked).2) :=
  retryFrom_comm sleep attempt _ _ clocked

end RetryPolicy

namespace Indexer

open RunM

variable {policy : RetryPolicy} {name : String}

/-- Embedding has nothing to do with the store. -/
theorem ignoresStore_retried_embedRequest (request : Request σ (Except ProviderError α)) :
    (retried policy name (embedRequest request) : RunM σ γ α).IgnoresStore := by
  intro change before
  refine RetryPolicy.retry_comm (fun _ _ => rfl) (fun clocked => ?_) before
  unfold RetryPolicy.attempt Request.runWithin embedRequest Call.map Call.lift Clocked.onStore
  dsimp only
  by_cases inTime : (request clocked.now clocked.state.embedder).duration ≤ policy.timeout
  · simp only [inTime, if_true]
  · simp only [inTime, if_false]

variable (around : Surroundings σ) {operation : MemoryStore → MemoryStore.Answer α}
variable {change : MemoryStore → MemoryStore}

theorem commutesWith_retried_storeRequest (alike : ∀ store,
      operation (change store) = ((operation store).1, change (operation store).2)) :
    (retried policy name (storeRequest around operation) : RunM σ γ α).CommutesWith change := by
  intro before
  refine RetryPolicy.retry_comm (fun _ _ => rfl) (fun clocked => ?_) before
  have answer : operation (clocked.onStore change).state.store =
      ((operation clocked.state.store).1, change (operation clocked.state.store).2) :=
    alike clocked.state.store
  have step : (clocked.onStore change).state.step = clocked.state.step := rfl
  rw [attempt_storeRequest, attempt_storeRequest, answer, step]
  cases around.storeFailure clocked.state.step <;> rfl

theorem commutesWith_storeOnce (alike : ∀ store,
      operation (change store) = ((operation store).1, change (operation store).2)) :
    (storeOnce around operation : RunM σ γ α).CommutesWith change := by
  intro before
  have answer : operation (before.onStore change).state.store =
      ((operation before.state.store).1, change (operation before.state.store).2) :=
    alike before.state.store
  have step : (before.onStore change).state.step = before.state.step := rfl
  show (storeRequest around operation).run (before.onStore change) =
    (((storeRequest around operation).run before).1,
      ((storeRequest around operation).run before).2.onStore change)
  unfold Request.run storeRequest
  rw [answer, step]
  cases around.storeFailure before.state.step <;> rfl

end Indexer

/-! ## Computations that use some operations -/

open Indexer

namespace RunM

/-- **Whether a computation comes at its store by allowed operations only.** -/
inductive Uses (around : Surroundings σ)
    (Allowed : (α : Type) → (MemoryStore → MemoryStore.Answer α) → Prop) :
    {α : Type} → RunM σ γ α → Prop
  | aside {α : Type} {computation : RunM σ γ α} (ignores : computation.IgnoresStore) :
      Uses around Allowed computation
  | once {α : Type} {operation : MemoryStore → MemoryStore.Answer α}
      (allowed : Allowed α operation) : Uses around Allowed (storeOnce around operation)
  | retried {α : Type} {operation : MemoryStore → MemoryStore.Answer α} (policy : RetryPolicy)
      (name : String) (allowed : Allowed α operation) :
      Uses around Allowed (retried policy name (storeRequest around operation))
  | bind {α β : Type} {computation : RunM σ γ α} {next : α → RunM σ γ β}
      (first : Uses around Allowed computation) (rest : ∀ a, Uses around Allowed (next a)) :
      Uses around Allowed (computation >>= next)
  | caught {α : Type} {computation : RunM σ γ α} (inside : Uses around Allowed computation) :
      Uses around Allowed computation.caught

namespace Uses

variable {around : Surroundings σ}
variable {Allowed : (α : Type) → (MemoryStore → MemoryStore.Answer α) → Prop}
variable {computation : RunM σ γ α}

theorem pure (a : α) : Uses around Allowed (Pure.pure a : RunM σ γ α) :=
  .aside (ignoresStore_pure a)

theorem mapM {f : α → RunM σ γ β} (each : ∀ a, Uses around Allowed (f a)) (list : List α) :
    Uses around Allowed (list.mapM f) := by
  induction list with
  | nil => exact .pure []
  | cons a list ih =>
      rw [List.mapM_cons]
      exact (each a).bind fun b => ih.bind fun bs => .pure _

theorem forM {f : α → RunM σ γ PUnit} {list : List α}
    (each : ∀ a ∈ list, Uses around Allowed (f a)) : Uses around Allowed (list.forM f) := by
  induction list with
  | nil => exact .pure PUnit.unit
  | cons a list ih =>
      exact (each a List.mem_cons_self).bind fun _ =>
        ih fun other member => each other (List.mem_cons_of_mem _ member)

/-- **What all allowed operations respect, the computation respects,** be it a relation that can be
put together from steps. -/
theorem related (Related : MemoryStore → MemoryStore → Prop) (refl : ∀ store, Related store store)
    (trans : ∀ {a b c}, Related a b → Related b c → Related a c)
    (each : ∀ {α : Type} {operation : MemoryStore → MemoryStore.Answer α}, Allowed α operation →
      ∀ store, Related store (operation store).2)
    (uses : Uses around Allowed computation) (before : Clocked (World σ γ)) :
    Related before.state.store (computation.outcome before).2.state.store := by
  induction uses generalizing before with
  | aside ignores =>
      rw [ignores.store_eq]
      exact refl _
  | @once _ operation allowed =>
      rcases made : (storeOnce around operation).outcome before with ⟨result, after⟩
      rcases storeOnce_cases around made with ⟨_, _, -, -, same⟩ | ⟨answer, made, -⟩
      · rw [same]
        exact refl _
      · have step := each allowed before.state.store
        rwa [made] at step
  | @retried _ operation policy name allowed =>
      rcases made : (Indexer.retried policy name (storeRequest around operation)).outcome before
        with ⟨result, after⟩
      -- failed attempts have led to a related store when the last one starts
      rcases retried_storeRequest_cases around (Related before.state.store)
        (fun store e after kept made => by
          have step := each allowed store
          rw [made] at step
          exact trans kept step) (refl _) made with ⟨_, -, kept, -⟩ | ⟨a, store, -, kept, made⟩
      · exact kept
      · have step := each allowed store
        rw [made] at step
        exact trans kept step
  | @bind _ _ computation next _ _ ihFirst ihRest =>
      have step := ihFirst before
      rcases whole : (computation >>= next).outcome before with ⟨result, after⟩
      rcases of_outcome_bind whole with ⟨e, failed, -⟩ | ⟨a, middle, made, rest⟩
      · rwa [failed] at step
      · have further := ihRest a middle
        rw [made] at step
        rw [rest] at further
        exact trans step further
  | caught _ ih => exact ih before

/-- **If all allowed operations go on alike on a changed store, so does the computation.** -/
theorem commutesWith {change : MemoryStore → MemoryStore}
    (each : ∀ {α : Type} {operation : MemoryStore → MemoryStore.Answer α}, Allowed α operation →
      ∀ store, operation (change store) = ((operation store).1, change (operation store).2))
    (uses : Uses around Allowed computation) : computation.CommutesWith change := by
  induction uses with
  | aside ignores => exact ignores change
  | once allowed => exact commutesWith_storeOnce around (each allowed)
  | retried policy name allowed => exact commutesWith_retried_storeRequest around (each allowed)
  | bind _ _ ihFirst ihRest => exact ihFirst.bind ihRest
  | caught _ ih => exact ih.caught

end Uses

end RunM

/-! ## The parts of a run -/

/-- All filters of a purge are confined to its repository, those for single files too. -/
theorem isConfined_of_mem_filters {name : String} {scope : PurgeScope} {filter : Filter}
    (member : filter ∈ scope.filters name) : filter.IsConfined name := by
  intro data accepted
  cases scope with
  | repository =>
      obtain rfl := List.mem_singleton.1 member
      exact Filter.accepts_text.1 accepted
  | files paths =>
      obtain ⟨path, -, rfl⟩ := List.mem_map.1 member
      exact (Filter.accepts_text_andText.1 accepted).1

/-- The points of a file are made for its repository. -/
theorem FilePoints.isMadeFor_of_mem_points {repository path : String}
    {described : List DescribedChunk} {vectors : List (List Float32)} {point : Point}
    (member : point ∈ FilePoints.points repository path described vectors) :
    point.IsMadeFor repository := by
  obtain ⟨position, found⟩ := List.mem_iff_getElem?.1 member
  rw [FilePoints.points, List.getElem?_zipWith_eq_some] at found
  obtain ⟨described, dense, -, -, rfl⟩ := found
  exact ⟨FilePoints.point_repository? .., path, described.chunk.startLine, rfl⟩

namespace Indexer

open RunM MemoryStore

variable (indexer : Indexer σ γ) (around : Surroundings σ) (repository : Repository)

/-- Whether a computation makes only operations of its repository. -/
abbrev UsesOwn (indexer : Indexer σ γ) (around : Surroundings σ) (repository : Repository)
    (computation : RunM σ γ α) : Prop :=
  Uses around (IsOwn repository.name indexer.settings.collection) computation

variable {indexer around repository}

theorem usesOwn_prepare : indexer.UsesOwn around repository (indexer.prepare around) := by
  refine .bind (.aside (ignoresStore_retried_embedRequest _)) fun _ => ?_
  refine .bind (.once .ensure) fun _ => ?_
  exact .forM fun field _ => .once (.keywordIndex field)

theorem usesOwn_isReady (files : List String) :
    indexer.UsesOwn around repository (indexer.isReady around files) := by
  unfold isReady
  split
  · exact .once .lookUp
  · exact usesOwn_prepare.bind fun _ => .pure true

theorem usesOwn_purge (scope : PurgeScope) :
    indexer.UsesOwn around repository (indexer.purge around repository scope) :=
  .forM fun filter member =>
    .retried _ _ (.delete filter (isConfined_of_mem_filters member))

theorem usesOwn_readFile (path : String) :
    indexer.UsesOwn around repository (readFile around path) := by
  refine .bind (.aside (ignoresStore_see _)) fun tree => ?_
  split
  · exact .pure _
  · exact .aside (ignoresStore_throw _)

theorem usesOwn_describeChunks (file : String) (chunks : List Chunk) :
    indexer.UsesOwn around repository (indexer.describeChunks file chunks) := by
  unfold describeChunks
  split
  · split
    · exact .pure _
    · exact .mapM (fun chunk => .aside fun _ _ => rfl) chunks
  · exact .pure _

theorem usesOwn_storeChunks (path : String) (described : List DescribedChunk) :
    indexer.UsesOwn around repository
      (indexer.storeChunks around repository path described) := by
  refine .bind (.aside (ignoresStore_retried_embedRequest _)) fun vectors => ?_
  have upsert : indexer.UsesOwn around repository
      (retried indexer.settings.storePolicy "upsert" <| storeRequest around fun store =>
        store.upsert indexer.settings.collection
          (FilePoints.points repository.name path described vectors)) :=
    .retried _ _ (.upsert _ fun point => FilePoints.isMadeFor_of_mem_points)
  dsimp only
  split
  · exact .bind (.aside (ignoresStore_throw _)) fun _ => upsert
  · exact upsert

theorem usesOwn_indexFile (path : String) :
    indexer.UsesOwn around repository (indexer.indexFile around repository path) := by
  refine (usesOwn_readFile path).bind fun content => ?_
  dsimp only
  split
  · exact .pure _
  · exact (usesOwn_describeChunks content _).bind fun described =>
      (usesOwn_storeChunks path described).bind fun _ => .pure _

theorem usesOwn_isCancelled : indexer.UsesOwn around repository (isCancelled around) :=
  .aside fun _ _ => rfl

theorem usesOwn_processFile (path : String) :
    indexer.UsesOwn around repository (indexer.processFile around repository path) := by
  refine usesOwn_isCancelled.bind fun cancelled => ?_
  split
  · exact .pure _
  · refine (usesOwn_indexFile path).caught.bind fun answer => ?_
    split
    · exact .pure _
    · exact .pure _

theorem usesOwn_run (files : List String) (scope : PurgeScope) :
    indexer.UsesOwn around repository (indexer.run around repository files scope) := by
  rw [run_eq]
  refine usesOwn_isCancelled.bind fun cancelled => ?_
  split
  · exact .pure _
  · refine .bind ?_ fun _ => (Uses.mapM usesOwn_processFile _).bind fun outcomes => .pure _
    refine (usesOwn_isReady files).bind fun ready => ?_
    split
    · exact usesOwn_purge scope
    · exact .pure _

theorem usesOwn_requireDirectory :
    indexer.UsesOwn around repository (requireDirectory around repository) := by
  refine .bind (.aside (ignoresStore_see _)) fun tree => ?_
  split
  · exact .aside (ignoresStore_throw _)
  · exact .pure _

theorem usesOwn_requireCheckpoints :
    indexer.UsesOwn around repository (requireCheckpoints around) := by
  refine .bind (.aside (ignoresStore_see _)) fun failure => ?_
  split
  · exact .aside (ignoresStore_throw _)
  · exact .pure _

theorem usesOwn_setCheckpoint (commit : String) :
    indexer.UsesOwn around repository (setCheckpoint around repository commit) :=
  usesOwn_requireCheckpoints.bind fun _ => .aside fun _ _ => rfl

theorem usesOwn_finish (head : Except RunError String) (report : Report) :
    indexer.UsesOwn around repository (finish around repository head report) := by
  unfold finish
  split
  · exact .pure _
  · split
    · exact .pure _
    · refine (usesOwn_setCheckpoint _).caught.bind fun answer => ?_
      split <;> exact .pure _

/-- **A full run makes only operations of its repository.** -/
theorem usesOwn_index [Walk] :
    indexer.UsesOwn around repository (indexer.index around repository) := by
  rw [index_eq]
  refine usesOwn_requireDirectory.bind fun _ => ?_
  refine .bind (.aside fun _ _ => rfl) fun files => ?_
  split
  · exact .pure _
  · exact .bind (.aside (ignoresStore_see _)) fun head =>
      (usesOwn_run files .repository).bind (usesOwn_finish head)

theorem usesOwn_findChanges :
    indexer.UsesOwn around repository (findChanges around repository) := by
  refine usesOwn_requireDirectory.bind fun _ => ?_
  refine .bind (usesOwn_requireCheckpoints.bind fun _ => .aside fun _ _ => rfl) fun since => ?_
  refine .bind (.aside (ignoresStore_see _)) fun head => ?_
  refine .bind (.aside (ignoresStore_liftM head)) fun head => ?_
  refine .bind (.aside fun _ _ => rfl) fun _ => ?_
  refine .bind (.aside (ignoresStore_see _)) fun changes => ?_
  exact .bind (.aside (ignoresStore_liftM changes)) fun changes => .pure _

/-- **So does an incremental run.** -/
theorem usesOwn_reindex :
    indexer.UsesOwn around repository (indexer.reindex around repository) := by
  rw [reindex_eq]
  refine usesOwn_findChanges.bind fun found => ?_
  refine .bind (.aside fun _ _ => rfl) fun files => ?_
  refine (usesOwn_run files _).bind fun report => ?_
  unfold close
  dsimp only
  split
  · exact .pure _
  · exact (usesOwn_setCheckpoint _).bind fun _ => .pure _

end Indexer

end CodeIndex
