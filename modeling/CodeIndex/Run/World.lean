import CodeIndex.Repository.Changes
import CodeIndex.Run.Error
import CodeIndex.Store.Checkpoint
import CodeIndex.Store.Memory
import CodeIndex.Time.Call

/-!
# What runs change and what surrounds them

A run changes a store, the checkpoints, and the states of the two providers; together they are its
world. Everything else that it meets is given by its surroundings: the repository, whose files and
commits may change while the run is under way, the wish to cancel it, the failures of stores, and
the order in which files happen to be finished. A run looks at its surroundings in numbered steps,
and what it sees may be different at every step, so that a statement about all surroundings is a
statement about everything that may happen meanwhile.

## Main definitions

* `Services`, `World`
* `Surroundings`
* `RunM`: computations that change a world and may fail.
-/

namespace CodeIndex

/-- The store and the states of the providers. -/
structure Services (σ γ : Type) where
  store : MemoryStore
  embedder : σ
  generator : γ

/-- What runs change. -/
structure World (σ γ : Type) extends Services σ γ where
  checkpoints : Checkpoints
  /-- The number of looks at the surroundings so far. -/
  step : Nat
  /-- The commits since which changes were asked for; nothing stands for the look back. -/
  asked : List (Option String)

/-- What surrounds a run, by the number of the step at which it looks. -/
structure Surroundings (σ : Type) where
  /-- The files of the repository, if its directory is there. -/
  tree : Nat → Option WorkTree
  /-- The commit at the head. -/
  head : Nat → Except RunError String
  /-- The changes since a commit, or those of the recent past. -/
  changes : Nat → Option String → Except RunError ChangeSet
  /-- Whether the run is to stop. The embedder may have a say. -/
  isCancelled : Nat → σ → Bool
  /-- The failure of a store operation, if it fails for reasons of its own. -/
  storeFailure : Nat → Option StoreError
  /-- The failure of an operation on checkpoints. -/
  checkpointFailure : Nat → Option String
  /-- The order in which files are finished. -/
  order : List String → List String
  order_perm : ∀ files, (order files).Perm files

/-- Surroundings in which nothing changes and nothing fails. -/
def Surroundings.still {σ : Type} (tree : Option WorkTree) (head : Except RunError String)
    (changes : Option String → Except RunError ChangeSet) : Surroundings σ where
  tree := fun _ => tree
  head := fun _ => head
  changes := fun _ => changes
  isCancelled := fun _ _ => false
  storeFailure := fun _ => none
  checkpointFailure := fun _ => none
  order := id
  order_perm := fun _ => .refl _

/-- Computations that change a world, take time and may fail. What was changed before a failure
stays changed. -/
abbrev RunM (σ γ α : Type) := ExceptT RunError (StateM (Clocked (World σ γ))) α

namespace RunM

variable {σ γ α : Type}

/-- The number of this look at the surroundings. -/
def look : RunM σ γ Nat := do
  let clocked ← get
  set { clocked with state := { clocked.state with step := clocked.state.step + 1 } }
  return clocked.state.step

/-- What a look at the surroundings shows. -/
def see (view : Nat → α) : RunM σ γ α := do
  return view (← look)

/-- Changes the checkpoints. -/
def modifyCheckpoints (f : Checkpoints → Checkpoints) : RunM σ γ Unit :=
  modify fun clocked =>
    { clocked with state := { clocked.state with checkpoints := f clocked.state.checkpoints } }

/-- Writes down that changes were asked for. -/
def noteQuestion (since : Option String) : RunM σ γ Unit :=
  modify fun clocked =>
    { clocked with state := { clocked.state with asked := clocked.state.asked ++ [since] } }

/-- A computation whose failure is its result. -/
def caught (computation : RunM σ γ α) : RunM σ γ (Except RunError α) :=
  ExceptT.mk do
    let result ← computation.run
    return .ok result

end RunM

end CodeIndex
