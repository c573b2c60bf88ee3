import CodeIndex.Repository.History

/-!
# Looking back

An incremental run without a usable checkpoint compares with the recent past: with the newest commit
that is older than the look-back window, or with nothing if there is none. Commits are met from the
newest to the oldest, whatever their order in the history. Commits of the same second come in the
order in which a binary heap yields them that was filled along the history.

## Main definitions

* `Recency.newestFirst`: the order in which commits are met.
* `History.changes`: the changes up to the head.
-/

namespace CodeIndex

namespace Recency

/-- Moves the element at a place up while it is newer than its parent. -/
def siftUp : Nat → Array Commit → Nat → Array Commit
  | 0, heap, _ => heap
  | fuel + 1, heap, place =>
    if place = 0 then heap
    else
      let parent := (place - 1) / 2
      match heap[parent]?, heap[place]? with
      | some above, some element =>
        if above.time < element.time then
          siftUp fuel (heap.swapIfInBounds parent place) parent
        else heap
      | _, _ => heap

/-- The place of the newer child of a place; of equal ones the left. -/
def newerChild (heap : Array Commit) (place : Nat) : Nat :=
  let left := 2 * place + 1
  match heap[left]?, heap[left + 1]? with
  | some a, some b => if a.time < b.time then left + 1 else left
  | _, _ => left

/-- Moves the element at a place down while a child is newer. -/
def siftDown : Nat → Array Commit → Nat → Array Commit
  | 0, heap, _ => heap
  | fuel + 1, heap, place =>
    let child := newerChild heap place
    match heap[place]?, heap[child]? with
    | some element, some below =>
      if element.time < below.time then siftDown fuel (heap.swapIfInBounds place child) child
      else heap
    | _, _ => heap

/-- Adds a commit to a heap. -/
def insert (heap : Array Commit) (commit : Commit) : Array Commit :=
  let heap := heap.push commit
  siftUp heap.size heap (heap.size - 1)

/-- The heap without its first commit: the last one takes its place and moves down. -/
def removeFirst (heap : Array Commit) : Array Commit :=
  let heap := (heap.swapIfInBounds 0 (heap.size - 1)).pop
  siftDown heap.size heap 0

/-- The commits of a heap as it yields them. -/
def drain : Nat → Array Commit → List Commit
  | 0, _ => []
  | fuel + 1, heap =>
    match heap[0]? with
    | none => []
    | some commit => commit :: drain fuel (removeFirst heap)

/-- Commits from the newest to the oldest. -/
def newestFirst (commits : List Commit) : List Commit :=
  drain commits.length (commits.foldl insert #[])

end Recency

namespace History

/-- A list from newer to older commits with a further one, behind those of the same second. -/
def enqueue (commit : Commit) : List Commit → List Commit
  | [] => [commit]
  | first :: rest =>
    if first.time < commit.time then commit :: first :: rest else first :: enqueue commit rest

/-- The parents of a commit that were not seen before, queued; and all that were seen. -/
def enqueueParents (history : History) (commit : Commit) (queue : List Commit)
    (seen : List String) : List Commit × List String :=
  commit.parents.foldl
    (fun (queue, seen) id =>
      if seen.contains id then (queue, seen)
      else ((history.commits.get? id).elim queue (enqueue · queue), id :: seen))
    (queue, seen)

/-- The commits that a queue leads to; the fuel is the number of commits. -/
def visit (history : History) : Nat → List Commit → List String → List Commit
  | 0, _, _ => []
  | _, [], _ => []
  | fuel + 1, commit :: queue, seen =>
    let (queue, seen) := history.enqueueParents commit queue seen
    commit :: history.visit fuel queue seen

/-- A commit and its ancestors. -/
def ancestry (history : History) (commit : Commit) : List Commit :=
  history.visit history.commits.size [commit] [commit.id]

/-- The snapshot to compare with: that of the revision if it denotes a commit, else that of the
newest commit before the cutoff, else nothing. -/
def baseSnapshot (history : History) (head : Commit) (since : Option String) (cutoff : Int) :
    Snapshot :=
  match since.bind history.revision? with
  | some commit => commit.snapshot
  | none =>
    (((Recency.newestFirst (history.ancestry head)).find? fun commit =>
      (commit.time : Int) < cutoff).map (·.snapshot)).getD Dictionary.empty

/-- The changes up to the head, if there is one. -/
def changes? (history : History) (wanted : Option String) (since : Option String) (cutoff : Int) :
    Option ChangeSet :=
  (history.headCommit? wanted).map fun head =>
    ChangeSet.between (history.baseSnapshot head since cutoff) head.snapshot

end History

end CodeIndex
