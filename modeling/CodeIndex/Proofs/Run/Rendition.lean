import CodeIndex.Proofs.Chunk.Coverage
import CodeIndex.Proofs.Store.Points
import CodeIndex.Run.FilePoints
import Mathlib.Data.List.Perm.Subperm
import Mathlib.Data.Set.Function

/-!
# What a file is made into

Between the text of a file and its stored points stand its chunks, their descriptions and their
vectors.  A `Rendition` holds all of it, and can only be built if the parts belong together: the
chunks are those of the text, and there is a vector for each.  What runs store of a file is always
`Rendition.points` of one rendition, so that statements about stores speak of renditions and no
longer of runs.

The points of a rendition need not all fit into a store.  Points are stored under identifiers made
from the line where a chunk begins, and two blocks of a component may begin on one line.

## Main statements

* `Rendition.exists_of_mem_points`: what a point of a file says.
* `Rendition.exists_isWhole_iff`: a file can be stored as a whole if and only if its chunks begin on
  different lines.
-/

namespace CodeIndex

/-! ## What a point says -/

namespace Payload

theorem nodup_fields (p : Payload) : (p.fields.map (·.1)).Nodup := by
  show ["repo", "filePath", "language", "layer", "startLine", "endLine", "symbolName",
    "parentSymbol", "chunkType", "annotations", "chunkIndex", "totalChunks", "headerChunkId",
    "content", "context"].Nodup
  decide

/-- A stored payload holds each of its fields. -/
theorem get?_toMap {p : Payload} {name : String} {value : Json}
    (member : (name, value) ∈ p.fields) :
    p.toMap.get? name = some value :=
  Dictionary.get?_ofList_of_mem p.nodup_fields member

end Payload

namespace FilePoints

/-- The payload of a point. -/
def payloadOf (repository : String) (headerId : Option String) (described : DescribedChunk) :
    Payload :=
  Payload.ofChunk repository described.chunk (if described.chunk.isHeader then none else headerId)
    (content described.chunk) described.description

variable (repository path : String) (headerId : Option String) (described : DescribedChunk)
variable (dense : List Float32)

@[simp] theorem point_id : (point repository path headerId described dense).id =
    pointId repository path described.chunk.startLine := rfl

/-- A point holds the fields of its payload. -/
theorem get?_point {name : String} {value : Json}
    (member : (name, value) ∈ (payloadOf repository headerId described).fields) :
    (point repository path headerId described dense).payload.get? name = some value :=
  Payload.get?_toMap member

@[simp] theorem point_repository? :
    (point repository path headerId described dense).repository? = some repository := by
  have member : ("repo", Json.string repository) ∈
      (payloadOf repository headerId described).fields := by
    simp [Payload.fields, payloadOf, Payload.ofChunk]
  rw [PointData.repository?, PointData.text?, get?_point _ _ _ _ _ member]
  rfl

@[simp] theorem point_path? :
    (point repository path headerId described dense).path? = some described.chunk.path := by
  have member : ("filePath", Json.string described.chunk.path) ∈
      (payloadOf repository headerId described).fields := by
    simp [Payload.fields, payloadOf, Payload.ofChunk]
  rw [PointData.path?, PointData.text?, get?_point _ _ _ _ _ member]
  rfl

@[simp] theorem point_kind? :
    (point repository path headerId described dense).kind? = some described.chunk.kind.name := by
  have member : ("chunkType", Json.string described.chunk.kind.name) ∈
      (payloadOf repository headerId described).fields := by
    simp [Payload.fields, payloadOf, Payload.ofChunk]
  rw [PointData.kind?, PointData.text?, get?_point _ _ _ _ _ member]
  rfl

/-- A point refers to the header unless it is the header. -/
@[simp] theorem point_headerId? : (point repository path headerId described dense).headerId? =
    if described.chunk.isHeader then none else headerId := by
  have member :
      ("headerChunkId", Json.optional (if described.chunk.isHeader then none else headerId))
      ∈ (payloadOf repository headerId described).fields := by
    simp [Payload.fields, payloadOf, Payload.ofChunk]
  rw [PointData.headerId?, PointData.text?, get?_point _ _ _ _ _ member]
  cases (if described.chunk.isHeader then none else headerId) <;> rfl

theorem point_index : (point repository path headerId described dense).payload.get? "chunkIndex" =
    some (.nat described.chunk.index) :=
  get?_point _ _ _ _ _ (by simp [Payload.fields, payloadOf, Payload.ofChunk])

theorem point_total : (point repository path headerId described dense).payload.get? "totalChunks" =
    some (.nat described.chunk.total) :=
  get?_point _ _ _ _ _ (by simp [Payload.fields, payloadOf, Payload.ofChunk])

end FilePoints

/-! ## Renditions -/

/-- **Whether a file is stored as a whole:** some points and no others are held of it, and every
reference to a header leads to a header among them. -/
structure IsWhole (file : Dictionary PointData) (points : List Point) : Prop where
  complete : ∀ point ∈ points, file.get? point.id = some point.toPointData
  genuine : ∀ id data, file.get? id = some data →
    ∃ point ∈ points, point.id = id ∧ point.toPointData = data
  headers : ∀ id data header, file.get? id = some data → data.headerId? = some header →
    ∃ point, file.get? header = some point ∧ point.kind? = some "header"

/-- What a file was made into: its text, the chunks of that text with their descriptions, and a
vector for each chunk. -/
structure Rendition (read : SyntaxReader) (path : String) where
  text : String
  described : List DescribedChunk
  vectors : List (List Float32)
  chunks_eq : described.map (·.chunk) = chunkFile read text path
  complete : vectors.length = described.length

namespace Rendition

variable {read : SyntaxReader} {path : String} (rendition : Rendition read path)
variable (repository : String)

/-- The chunks of the text. -/
def chunks : List Chunk := chunkFile read rendition.text path

/-- The number of chunks without a description. -/
def undescribed : Nat := rendition.described.countP (·.description.isEmpty)

/-- The lines on which chunks begin. -/
def startLines : List Nat := rendition.chunks.map (·.startLine)

/-- The identifier of the header chunk. -/
def headerId? : Option String := FilePoints.headerId? repository path rendition.chunks

/-- **The complete set of points of a file,** one for each chunk. -/
def points : List Point :=
  FilePoints.points repository path rendition.described rendition.vectors

theorem points_eq : rendition.points repository =
    List.zipWith (FilePoints.point repository path (rendition.headerId? repository))
      rendition.described rendition.vectors := by
  rw [points, FilePoints.points, rendition.chunks_eq]
  rfl

@[simp] theorem length_described : rendition.described.length = rendition.chunks.length := by
  rw [chunks, ← rendition.chunks_eq, List.length_map]

@[simp] theorem length_points : (rendition.points repository).length = rendition.chunks.length := by
  simp [points_eq, rendition.complete]

/-- The point at a position is made of the chunk at that position. -/
theorem getElem?_points (position : Nat) {point : Point}
    (found : (rendition.points repository)[position]? = some point) :
    ∃ described dense, rendition.chunks[position]? = some described.chunk ∧
      described ∈ rendition.described ∧
        point =
          FilePoints.point repository path (rendition.headerId? repository) described dense := by
  rw [points_eq, List.getElem?_zipWith_eq_some] at found
  obtain ⟨described, dense, there, -, rfl⟩ := found
  refine ⟨described, dense, ?_, List.mem_of_getElem? there, rfl⟩
  rw [chunks, ← rendition.chunks_eq, List.getElem?_map, there]
  rfl

/-- **What a point of a file says:** it is made of one of the chunks, and refers to the header. -/
theorem exists_of_mem_points {point : Point} (member : point ∈ rendition.points repository) :
    ∃ described dense, described.chunk ∈ rendition.chunks ∧
      point =
        FilePoints.point repository path (rendition.headerId? repository) described dense := by
  obtain ⟨position, found⟩ := List.mem_iff_getElem?.1 member
  obtain ⟨described, dense, there, -, same⟩ := rendition.getElem?_points repository position found
  exact ⟨described, dense, List.mem_of_getElem? there, same⟩

theorem exists_mem_points {chunk : Chunk} (member : chunk ∈ rendition.chunks) :
    ∃ described dense, described.chunk = chunk ∧
      FilePoints.point repository path (rendition.headerId? repository) described dense ∈
        rendition.points repository := by
  obtain ⟨position, found⟩ := List.mem_iff_getElem?.1 member
  have below : position < (rendition.points repository).length := by
    rw [length_points]
    exact (List.getElem?_eq_some_iff.1 found).1
  have point := List.getElem?_eq_getElem below
  obtain ⟨described, dense, there, -, same⟩ := rendition.getElem?_points repository position point
  refine ⟨described, dense, Option.some.inj (there.symm.trans found), ?_⟩
  exact same ▸ List.getElem_mem below

theorem map_id_points : (rendition.points repository).map (·.id) =
    rendition.startLines.map (pointId repository path) := by
  refine List.ext_getElem (by simp [startLines]) fun position below _ => ?_
  have below : position < (rendition.points repository).length := by simpa using below
  obtain ⟨described, dense, there, -, same⟩ :=
    rendition.getElem?_points repository position (List.getElem?_eq_getElem below)
  obtain ⟨_, chunk⟩ := List.getElem?_eq_some_iff.1 there
  simp [startLines, same, chunk]

/-- Every point of a file names its repository and its path. -/
theorem repository?_of_mem_points {point : Point} (member : point ∈ rendition.points repository) :
    point.repository? = some repository ∧ point.path? = some path := by
  obtain ⟨described, dense, listed, rfl⟩ := rendition.exists_of_mem_points repository member
  have same : described.chunk.path = path := path_of_mem_chunkFile listed
  simp [same]

/-- Points are numbered, so no two of them are alike. -/
theorem eq_of_toPointData_eq {i j : Nat} {a b : Point}
    (first : (rendition.points repository)[i]? = some a)
    (second : (rendition.points repository)[j]? = some b)
    (same : a.toPointData = b.toPointData) : i = j := by
  have index : ∀ {k : Nat} {point : Point}, (rendition.points repository)[k]? = some point →
      point.payload.get? "chunkIndex" = some (.nat k) := by
    intro k point found
    obtain ⟨described, dense, there, -, rfl⟩ := rendition.getElem?_points repository k found
    obtain ⟨below, chunk⟩ := List.getElem?_eq_some_iff.1 there
    rw [FilePoints.point_index, ← chunk]
    exact congrArg (fun n => some (Json.nat n))
      (chunkFile_numbered read rendition.text path k below).1
  have indexes : some (Json.nat i) = some (Json.nat j) := by
    rw [← index first, ← index second, same]
  simp only [Json.nat, Option.some.injEq, Json.number.injEq, JsonNumber.whole.injEq] at indexes
  exact Int.ofNat.inj indexes

/-- Every point knows how many points the file has. -/
theorem total_of_mem_points {point : Point} (member : point ∈ rendition.points repository) :
    point.payload.get? "totalChunks" = some (.nat (rendition.points repository).length) := by
  obtain ⟨position, found⟩ := List.mem_iff_getElem?.1 member
  obtain ⟨described, dense, there, -, rfl⟩ := rendition.getElem?_points repository position found
  obtain ⟨below, chunk⟩ := List.getElem?_eq_some_iff.1 there
  rw [FilePoints.point_total, ← chunk, length_points]
  exact congrArg (fun n => some (Json.nat n))
    (chunkFile_numbered read rendition.text path position below).2

/-- A reference to the header leads to a point of the same file that is a header. -/
theorem exists_header {id : String} (refers : rendition.headerId? repository = some id) :
    ∃ header ∈ rendition.points repository, header.id = id ∧ header.kind? = some "header" := by
  obtain ⟨chunk, found, rfl⟩ := Option.map_eq_some_iff.1 refers
  obtain ⟨described, dense, same, member⟩ :=
    rendition.exists_mem_points repository (List.mem_of_find?_eq_some found)
  have header : described.chunk.kind = .header := by
    have := List.find?_some found
    rw [same]
    simpa [Chunk.isHeader] using this
  exact ⟨_, member, by simp [same], by simp [header, ChunkKind.name]⟩

/-! ## What can be stored of a file -/

section Stored

variable (distinct : Set.InjOn (pointId repository path) {line | line ∈ rendition.startLines})

include distinct

theorem nodup_id_iff :
    ((rendition.points repository).map (·.id)).Nodup ↔ rendition.startLines.Nodup := by
  rw [map_id_points]
  exact ⟨List.Nodup.of_map _,
    fun nodup => nodup.map_on fun a first b second => distinct first second⟩

/-- A file whose chunks begin on different lines is stored as a whole. -/
theorem isWhole_stored (nodup : rendition.startLines.Nodup) :
    IsWhole (stored (rendition.points repository)) (rendition.points repository) := by
  have complete : ∀ point ∈ rendition.points repository,
      (stored (rendition.points repository)).get? point.id = some point.toPointData :=
    fun point => get?_stored_of_nodup ((rendition.nodup_id_iff repository distinct).2 nodup)
  refine ⟨complete, fun id data holds => exists_of_get?_stored holds, ?_⟩
  intro id data header holds refers
  obtain ⟨point, member, -, rfl⟩ := exists_of_get?_stored holds
  obtain ⟨described, dense, -, rfl⟩ := rendition.exists_of_mem_points repository member
  have refers : rendition.headerId? repository = some header := by
    by_cases self : described.chunk.isHeader
    · simp [self] at refers
    · simpa [self] using refers
  obtain ⟨point, listed, rfl, kind⟩ := rendition.exists_header repository refers
  exact ⟨point.toPointData, complete point listed, kind⟩

/-- If all points of some rendition are there and no others, then the chunks begin on different
lines.  Points count themselves, so both renditions have as many, and different identifiers. -/
theorem nodup_of_isWhole {other : Rendition read path}
    (whole : IsWhole (stored (rendition.points repository)) (other.points repository)) :
    rendition.startLines.Nodup := by
  rw [← rendition.nodup_id_iff repository distinct]
  have nodup : ((other.points repository).map (·.id)).Nodup := by
    rw [List.Nodup, List.pairwise_map, List.pairwise_iff_getElem]
    intro i j below below' before same
    -- both points are held under one identifier, so they are the same point
    have first := whole.complete _ (List.getElem_mem below)
    rw [same, whole.complete _ (List.getElem_mem below'), Option.some.injEq] at first
    have := other.eq_of_toPointData_eq repository (List.getElem?_eq_getElem below')
      (List.getElem?_eq_getElem below) first
    omega
  have included :
      (other.points repository).map (·.id) ⊆ (rendition.points repository).map (·.id) := by
    intro id member
    obtain ⟨point, listed, rfl⟩ := List.mem_map.1 member
    obtain ⟨same, member, id, -⟩ := exists_of_get?_stored (whole.complete point listed)
    exact id ▸ List.mem_map_of_mem member
  have length : (rendition.points repository).length = (other.points repository).length := by
    cases points : rendition.points repository with
    | nil =>
        rw [points] at included
        have none := List.subset_nil.1 included
        rw [List.map_eq_nil_iff] at none
        rw [none]
    | cons point points' =>
        have listed : point ∈ rendition.points repository := points ▸ List.mem_cons_self
        obtain ⟨data, holds⟩ := exists_get?_stored listed
        obtain ⟨mine, member, -, same⟩ := exists_of_get?_stored holds
        obtain ⟨its, member', -, same'⟩ := whole.genuine _ _ holds
        have total := rendition.total_of_mem_points repository member
        have total' := other.total_of_mem_points repository member'
        rw [same'] at total'
        rw [same, total', points] at total
        simp only [Json.nat, Option.some.injEq, Json.number.injEq, JsonNumber.whole.injEq] at total
        exact (Int.ofNat.inj total).symm
  refine (nodup.subperm included).perm_of_length_le ?_ |>.nodup_iff.1 nodup
  simp [length]

/-- **A file is stored as a whole, be it from whatever text, if and only if its chunks begin on
different lines.** -/
theorem exists_isWhole_iff :
    (∃ other : Rendition read path,
      IsWhole (stored (rendition.points repository)) (other.points repository)) ↔
        rendition.startLines.Nodup :=
  ⟨fun ⟨_, whole⟩ => rendition.nodup_of_isWhole repository distinct whole,
    fun nodup => ⟨rendition, rendition.isWhole_stored repository distinct nodup⟩⟩

end Stored

end Rendition

end CodeIndex
