import CodeIndex.Store.Point

/-!
# Ranking

Candidates are ranked by score, the best first, and equal scores by identifier. Rankings are fused
by the ranks alone: an identifier collects from each list the reciprocal of its rank plus a
constant, so that no list's scale of scores weighs more than another's.

## Main definitions

* `Ranking.cosine`: similarity of dense vectors.
* `Ranking.candidates`: one candidate list.
* `Ranking.fuse`: the fused ranking of several lists.
-/

namespace CodeIndex.Ranking

/-- The constant that softens the lead of the first ranks. -/
def smoothing : Float32 := 60

/-- The sum of products of two vectors, as far as both reach. -/
def dotProduct (a b : List Float32) : Float32 :=
  (List.zipWith (· * ·) a b).foldl (· + ·) 0

/-- The length of a vector. -/
def norm (a : List Float32) : Float32 :=
  ((a.map fun x => x * x).foldl (· + ·) 0).sqrt

/-- The cosine of the angle between two vectors; zero if one of them has no length. -/
def cosine (a b : List Float32) : Float32 :=
  let lengthA := norm a
  let lengthB := norm b
  if lengthA == 0 || lengthB == 0 then 0 else dotProduct a b / (lengthA * lengthB)

/-- An identifier with its score. -/
abbrev Scored := String × Float32

/-- The order of a ranking: higher scores first, equal scores by identifier. -/
def ranksBefore (a b : Scored) : Bool :=
  if b.2 < a.2 then true else if a.2 < b.2 then false else a.1 ≤ b.1

/-- Scored identifiers in the order of their ranks. -/
def rank (scored : List Scored) : List Scored :=
  scored.mergeSort ranksBefore

/-- The score of a point; a sparse probe passes over points without overlap. -/
def score? (probe : Probe) (point : PointData) : Option Float32 :=
  match probe with
  | .dense vector => some (cosine vector point.dense)
  | .sparse vector =>
    (point.sparse.map (·.dot vector)).filter fun score => !(score ≤ 0)

/-- The points that pass the filter of a candidate list, with their scores. -/
def scores (points : Dictionary PointData) (prefetch : Prefetch) : List Scored :=
  points.toList.filterMap fun (id, point) =>
    if (prefetch.filter.getD []).accepts point.payload then
      (score? prefetch.probe point).map fun score => (id, score)
    else none

/-- One candidate list, best first. -/
def candidates (points : Dictionary PointData) (prefetch : Prefetch) : List String :=
  ((rank (scores points prefetch)).take prefetch.limit).map (·.1)

/-- What the place in a list, counted from zero, contributes. -/
def contribution (place : Nat) : Float32 :=
  1 / (smoothing + Float32.ofNat (place + 1))

/-- Adds the contributions of one list to what was collected before. -/
def collect (sums : Dictionary Float32) (list : List String) : Dictionary Float32 :=
  list.zipIdx.foldl
    (fun sums (id, place) => sums.insert id ((sums.get? id).getD 0 + contribution place)) sums

/-- The fused ranking of several lists. -/
def fuse (lists : List (List String)) : List Scored :=
  rank (lists.foldl collect Dictionary.empty).toList

end CodeIndex.Ranking
