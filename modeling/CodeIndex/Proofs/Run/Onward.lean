import CodeIndex.Proofs.Run.Outcome

/-!
# What computations of a run leave alone

Looks at the surroundings are numbered, and a statement about what a run saw has to say that it saw
it during the run.  For this the number of looks has to grow, through every request and every file.
The same goes for what files have no business with: checkpoints, and the questions that were asked
about changes.

`RunM.IsOnward` says both of a computation.  It is kept by all ways of putting computations
together, so that for each part of a run it is read off its text.  A computation that begins with a
look also `Advances`: what it saw first, it saw before it ended.
-/

namespace CodeIndex

variable {σ γ α β : Type}

/-- Whether a world can come after another one while files are worked on. -/
structure World.Onward (before after : World σ γ) : Prop where
  step_le : before.step ≤ after.step
  checkpoints_eq : after.checkpoints = before.checkpoints
  asked_eq : after.asked = before.asked

namespace World.Onward

variable {a b c : World σ γ}

theorem refl (world : World σ γ) : Onward world world := ⟨Nat.le_refl _, rfl, rfl⟩

theorem trans (ab : Onward a b) (bc : Onward b c) : Onward a c :=
  ⟨Nat.le_trans ab.step_le bc.step_le, bc.checkpoints_eq.trans ab.checkpoints_eq,
    bc.asked_eq.trans ab.asked_eq⟩

end World.Onward

open World (Onward)

/-- Whether a request leads onward, answered or given up. -/
def Request.IsOnward (request : Request (World σ γ) α) : Prop :=
  ∀ now world, Onward world (request now world).finished ∧
    ∀ time, Onward world ((request now world).abandoned time)

/-- Whether a computation leads onward, with whatever result. -/
def RunM.IsOnward (computation : RunM σ γ α) : Prop :=
  ∀ before, Onward before.state (computation.outcome before).2.state

namespace RunM

variable {computation : RunM σ γ α} {next : α → RunM σ γ β}

theorem IsOnward.of_outcome (onward : computation.IsOnward) {before after : Clocked (World σ γ)}
    {result : Except RunError α} (run : computation.outcome before = (result, after)) :
    Onward before.state after.state := by
  have := onward before
  rwa [run] at this

theorem isOnward_pure (a : α) : (pure a : RunM σ γ α).IsOnward := fun _ => .refl _

theorem isOnward_throw (e : RunError) : (throw e : RunM σ γ α).IsOnward := fun _ => .refl _

theorem isOnward_get : (get : RunM σ γ (Clocked (World σ γ))).IsOnward := fun _ => .refl _

theorem isOnward_see (view : Nat → α) : (see view : RunM σ γ α).IsOnward :=
  fun _ => ⟨Nat.le_succ _, rfl, rfl⟩

/-- Whether a computation leads onward and looks at the surroundings on its way. -/
def Advances (computation : RunM σ γ α) : Prop :=
  computation.IsOnward ∧
    ∀ before, before.state.step < (computation.outcome before).2.state.step

theorem advances_see (view : Nat → α) : (see view : RunM σ γ α).Advances :=
  ⟨isOnward_see view, fun _ => Nat.lt_succ_self _⟩

theorem IsOnward.bind (first : computation.IsOnward) (then_ : ∀ a, (next a).IsOnward) :
    (computation >>= next).IsOnward := by
  intro before
  rcases whole : (computation >>= next).outcome before with ⟨result, after⟩
  rcases of_outcome_bind whole with ⟨e, failed, -⟩ | ⟨a, middle, made, rest⟩
  · exact first.of_outcome failed
  · exact (first.of_outcome made).trans ((then_ a).of_outcome rest)

theorem Advances.bind (first : computation.Advances) (then_ : ∀ a, (next a).IsOnward) :
    (computation >>= next).Advances := by
  refine ⟨first.1.bind then_, fun before => ?_⟩
  rcases whole : (computation >>= next).outcome before with ⟨result, after⟩
  have looked := first.2 before
  rcases of_outcome_bind whole with ⟨e, failed, -⟩ | ⟨a, middle, made, rest⟩
  · rwa [failed] at looked
  · rw [made] at looked
    exact Nat.lt_of_lt_of_le looked ((then_ a).of_outcome rest).step_le

theorem Advances.step_lt (advances : computation.Advances) {before after : Clocked (World σ γ)}
    {result : Except RunError α} (run : computation.outcome before = (result, after)) :
    before.state.step < after.state.step := by
  have := advances.2 before
  rwa [run] at this

theorem IsOnward.caught (onward : computation.IsOnward) : computation.caught.IsOnward :=
  fun before => onward before

theorem isOnward_mapM {f : α → RunM σ γ β} (each : ∀ a, (f a).IsOnward) (list : List α) :
    (list.mapM f).IsOnward := by
  induction list with
  | nil => exact isOnward_pure []
  | cons a list ih =>
      rw [List.mapM_cons]
      exact (each a).bind fun b => ih.bind fun bs => isOnward_pure _

theorem isOnward_forM {f : α → RunM σ γ PUnit} (each : ∀ a, (f a).IsOnward) (list : List α) :
    (list.forM f).IsOnward := by
  induction list with
  | nil => exact isOnward_pure PUnit.unit
  | cons a list ih => exact (each a).bind fun _ => ih

end RunM

namespace Indexer

open RunM

variable {policy : RetryPolicy} {operation : String}
variable {request : Request (World σ γ) (Except RunError α)}

/-- Attempts at what leads onward lead onward. -/
theorem isOnward_retried (onward : request.IsOnward) :
    (retried policy operation request).IsOnward := by
  have keeps : ∀ start, request.Keeps (Onward start) := fun start now world kept =>
    ⟨kept.trans (onward now world).1, fun time => kept.trans ((onward now world).2 time)⟩
  exact fun before => RetryPolicy.keeps_retry (keeps before.state) (.refl _)

variable (indexer : Indexer σ γ) (around : Surroundings σ)

theorem isOnward_storeRequest (operation : MemoryStore → MemoryStore.Answer α) :
    (storeRequest around operation : Request (World σ γ) (Except RunError α)).IsOnward := by
  intro now world
  unfold storeRequest
  cases around.storeFailure world.step with
  | some e => exact ⟨⟨Nat.le_succ _, rfl, rfl⟩, fun _ => ⟨Nat.le_succ _, rfl, rfl⟩⟩
  | none => exact ⟨⟨Nat.le_succ _, rfl, rfl⟩, fun _ => ⟨Nat.le_succ _, rfl, rfl⟩⟩

theorem isOnward_embedRequest (request : Request σ (Except ProviderError α)) :
    (embedRequest request : Request (World σ γ) (Except RunError α)).IsOnward :=
  fun _ _ => ⟨⟨Nat.le_refl _, rfl, rfl⟩, fun _ => ⟨Nat.le_refl _, rfl, rfl⟩⟩

theorem isOnward_storeOnce (operation : MemoryStore → MemoryStore.Answer α) :
    (storeOnce around operation : RunM σ γ α).IsOnward :=
  fun before => (isOnward_storeRequest around operation before.now before.state).1

theorem isOnward_describeChunks (file : String) (chunks : List Chunk) :
    (indexer.describeChunks file chunks).IsOnward := by
  unfold describeChunks
  split
  · split
    · exact isOnward_pure _
    · exact isOnward_mapM (fun chunk before => ⟨Nat.le_refl _, rfl, rfl⟩) chunks
  · exact isOnward_pure _

theorem advances_readFile (path : String) :
    (readFile around path : RunM σ γ String).Advances := by
  refine (advances_see _).bind fun tree => ?_
  split
  · exact isOnward_pure _
  · exact isOnward_throw _

theorem isOnward_storeChunks (repository : Repository) (path : String)
    (described : List DescribedChunk) :
    (indexer.storeChunks around repository path described).IsOnward := by
  refine (isOnward_retried (isOnward_embedRequest _)).bind fun vectors => ?_
  have upsert : (retried indexer.settings.storePolicy "upsert" <| storeRequest around fun store =>
      store.upsert indexer.settings.collection
        (FilePoints.points repository.name path described vectors) : RunM σ γ Unit).IsOnward :=
    isOnward_retried (isOnward_storeRequest around _)
  dsimp only
  split
  · exact (isOnward_throw _).bind fun _ => upsert
  · exact upsert

theorem advances_indexFile (repository : Repository) (path : String) :
    (indexer.indexFile around repository path).Advances := by
  refine (advances_readFile around path).bind fun content => ?_
  dsimp only
  split
  · exact isOnward_pure _
  · exact (isOnward_describeChunks indexer content _).bind fun described =>
      (isOnward_storeChunks indexer around repository path described).bind fun _ =>
        isOnward_pure _

theorem isOnward_isCancelled : (isCancelled around : RunM σ γ Bool).IsOnward :=
  isOnward_get.bind fun _ => isOnward_see _

/-- **A file leads onward,** whatever becomes of it. -/
theorem isOnward_processFile (repository : Repository) (path : String) :
    (indexer.processFile around repository path).IsOnward := by
  refine (isOnward_isCancelled around).bind fun cancelled => ?_
  split
  · exact isOnward_pure _
  · refine (advances_indexFile indexer around repository path).1.caught.bind fun answer => ?_
    split
    · exact isOnward_pure _
    · exact isOnward_pure _

theorem isOnward_purge (repository : Repository) (scope : PurgeScope) :
    (indexer.purge around repository scope).IsOnward :=
  isOnward_forM (fun _ => isOnward_retried (isOnward_storeRequest around _)) _

theorem isOnward_prepare : (indexer.prepare around).IsOnward :=
  (isOnward_retried (isOnward_embedRequest _)).bind fun _ =>
    (isOnward_storeOnce around _).bind fun _ =>
      isOnward_forM (fun _ => isOnward_storeOnce around _) _

end Indexer

end CodeIndex
