import CodeIndex.Proofs.Chunk.StartLine
import CodeIndex.Proofs.Run.Version
import CodeIndex.Proofs.Store.Keyed

/-!
# Uploading a file

The points of a file go into a collection with the points of other files.  In a keyed collection
they cannot get in each other's way, as far as keys have different identifiers: an upload changes
what the collection holds of its own file and nothing else (`IsKeyed.upsert`).

Within the file the points can get in each other's way.  A file without points gains one point for
each line on which chunks begin, so that it gains as many points as it has chunks if and only if the
chunks begin on different lines.  `Rendition.upsert_adds_all_iff` says when that is.

## Main statements

* `IsKeyed.upsert`: an upload for a file leaves all other files alone.
* `Rendition.upsert_adds_all_iff`: when no point of a file is lost.
-/

namespace CodeIndex

open MemoryStore

/-! ## Other files -/

namespace Rendition

variable {read : SyntaxReader} {path : String} (rendition : Rendition read path)
variable (repository : String)

/-- The points of a file have keys of the file. -/
theorem exists_key_of_mem_points {keys : Set PointKey}
    (known : ∀ line ∈ rendition.startLines, (⟨repository, path, line⟩ : PointKey) ∈ keys)
    {point : Point} (member : point ∈ rendition.points repository) :
    ∃ key ∈ keys, key.Locates point.id point.toPointData ∧ key.repository = repository ∧
      key.path = path := by
  have file := rendition.repository?_of_mem_points repository member
  have id : point.id ∈ (rendition.points repository).map (·.id) := List.mem_map_of_mem member
  rw [map_id_points] at id
  obtain ⟨line, begins, same⟩ := List.mem_map.1 id
  exact ⟨⟨repository, path, line⟩, known line begins, ⟨same, file⟩, rfl, rfl⟩

end Rendition

variable {read : SyntaxReader} {path : String} (rendition : Rendition read path)
variable {repository name : String} {keys : Set PointKey} {store after : MemoryStore}

/-- **An upload for a file leaves all other files alone,** and a keyed collection keyed, be the
upload complete or not. -/
theorem IsKeyed.upsert (keyed : IsKeyed keys (store.pointsOf name))
    (distinct : Set.InjOn PointKey.id keys)
    (known : ∀ line ∈ rendition.startLines, (⟨repository, path, line⟩ : PointKey) ∈ keys)
    {result : Except StoreError Unit}
    (made : store.upsert name (rendition.points repository) = (result, after)) :
    IsKeyed keys (after.pointsOf name) ∧
      ∀ id data, ¬(data.repository? = some repository ∧ data.path? = some path) →
        ((after.pointsOf name).get? id = some data ↔
          (store.pointsOf name).get? id = some data) := by
  obtain ⟨done, part, -, changes⟩ := upsert_prefix made
  have located := fun point (member : point ∈ done) =>
    rendition.exists_key_of_mem_points repository known (part.subset member)
  rw [changes.here]
  refine ⟨keyed.written fun point member => ?_, fun id data other => ?_⟩
  · obtain ⟨key, listed, locates, -⟩ := located point member
    exact ⟨key, listed, locates⟩
  · rw [get?_written_eq_or, Option.or_eq_some_iff]
    constructor
    · rintro (new | ⟨-, old⟩)
      · obtain ⟨point, member, -, rfl⟩ := exists_of_get?_stored new
        exact absurd (rendition.repository?_of_mem_points repository (part.subset member)) other
      · exact old
    · intro old
      refine .inr ⟨?_, old⟩
      cases new : (stored done).get? id with
      | none => rfl
      | some _ =>
          -- a point of this file cannot have been written where another file has one
          obtain ⟨point, member, rfl, -⟩ := exists_of_get?_stored new
          obtain ⟨key, listed, ⟨same, -⟩, rfl, rfl⟩ := located point member
          exact absurd (keyed.file_eq distinct listed (same ▸ old)) other

/-! ## The points of one file -/

/-- **Whether a collection is ready for a file:** it is there with room for sparse vectors, no
failure is due, and its points are located by known keys and are of other files. -/
structure MemoryStore.IsReadyFor (store : MemoryStore) (name : String) (keys : Set PointKey)
    (repository path : String) : Prop where
  accepts : store.AcceptsSparse name
  there : store.exists? name = true
  noneDue : store.failingUpserts = 0
  keyed : IsKeyed keys (store.pointsOf name)
  absent : fileOf repository path (store.pointsOf name) = Dictionary.empty

namespace Rendition

/-- A file has as many identifiers as its chunks have first lines. -/
theorem length_dedup_ids
    (distinct : Set.InjOn (pointId repository path) {line | line ∈ rendition.startLines}) :
    ((rendition.points repository).map (·.id)).dedup.length =
      rendition.startLines.dedup.length := by
  have image : ((rendition.points repository).map (·.id)).toFinset =
      rendition.startLines.toFinset.image (pointId repository path) := by
    rw [map_id_points]
    ext id
    simp
  have injective : Set.InjOn (pointId repository path)
      (rendition.startLines.toFinset : Set Nat) := by
    intro line member other member'
    exact distinct (List.mem_toFinset.1 member) (List.mem_toFinset.1 member')
  rw [← List.card_toFinset, ← List.card_toFinset, image, Finset.card_image_of_injOn injective]

/-- Chunks come in the order of their first lines. -/
theorem startLines_le : rendition.startLines.Pairwise (· ≤ ·) :=
  List.pairwise_map.2 (chunkFile_startLine_le read rendition.text path)

/-- **When the chunks of a file begin on different lines.** -/
theorem startLines_lt_iff :
    rendition.startLines.Pairwise (· < ·) ↔ StartLinesAscend read rendition.text path := by
  rw [← chunkFile_startLine_lt_iff, startLines, List.pairwise_map]
  exact Iff.rfl

theorem nodup_startLines_iff :
    rendition.startLines.Nodup ↔ StartLinesAscend read rendition.text path := by
  rw [← startLines_lt_iff]
  constructor
  · intro nodup
    exact (rendition.startLines_le.and nodup).imp fun ⟨le, ne⟩ => Nat.lt_of_le_of_ne le ne
  · exact List.Pairwise.imp Nat.ne_of_lt

/-- An upload into a collection with room for sparse vectors, with no failure due. -/
theorem exists_upsert (accepts : store.AcceptsSparse name) (there : store.exists? name = true)
    (noneDue : store.failingUpserts = 0) (points : List Point) :
    ∃ after, store.upsert name points = (.ok (), after) ∧
      after.pointsOf name = written (store.pointsOf name) points := by
  rcases made : store.upsert name points with ⟨result, after⟩
  rcases upsert_cases accepts made with ⟨_, -, -, due | missing⟩ | ⟨rfl, changes⟩
  · exact absurd noneDue due
  · rw [there] at missing
    cases missing
  · exact ⟨after, rfl, changes.here⟩

/-- What stands under an identifier of a file is a point of the file, so nothing does if it has
none. -/
theorem get?_eq_none_of_absent (keyed : IsKeyed keys (store.pointsOf name))
    (distinct : Set.InjOn PointKey.id keys)
    (known : ∀ line ∈ rendition.startLines, (⟨repository, path, line⟩ : PointKey) ∈ keys)
    (absent : fileOf repository path (store.pointsOf name) = Dictionary.empty) {point : Point}
    (member : point ∈ rendition.points repository) :
    (store.pointsOf name).get? point.id = none := by
  obtain ⟨key, listed, ⟨same, -⟩, rfl, rfl⟩ :=
    rendition.exists_key_of_mem_points repository known member
  cases held : (store.pointsOf name).get? point.id with
  | none => rfl
  | some data =>
      have file := keyed.file_eq distinct listed (same ▸ held)
      have inFile := get?_fileOf.2 ⟨held, file⟩
      rw [absent] at inFile
      cases inFile

/-- **When no point of a file is lost.**  Its chunks come in order, and begin on different lines
exactly if the file is no component, a small one, or one whose pieces ascend.  If the keys in use
have different identifiers, the points of the file have different ones in these cases and in no
others.  Uploading them where the file has none adds a point for each line on which a chunk begins,
and so it adds all of them in these cases and in no others. -/
theorem upsert_adds_all_iff (repository : String) :
    rendition.startLines.Pairwise (· ≤ ·) ∧
      (rendition.startLines.Pairwise (· < ·) ↔ StartLinesAscend read rendition.text path) ∧
      ∀ keys : Set PointKey, Set.InjOn PointKey.id keys →
        (∀ line ∈ rendition.startLines, (⟨repository, path, line⟩ : PointKey) ∈ keys) →
        (((rendition.points repository).map (·.id)).Nodup ↔
          StartLinesAscend read rendition.text path) ∧
        ∀ (store : MemoryStore) (name : String), store.IsReadyFor name keys repository path →
          ∃ after, store.upsert name (rendition.points repository) = (.ok (), after) ∧
            (after.pointsOf name).size =
              (store.pointsOf name).size + rendition.startLines.dedup.length ∧
            ((after.pointsOf name).size = (store.pointsOf name).size + rendition.chunks.length ↔
              StartLinesAscend read rendition.text path) := by
  refine ⟨rendition.startLines_le, rendition.startLines_lt_iff, fun keys distinct known => ?_⟩
  have ofFile : Set.InjOn (pointId repository path) {line | line ∈ rendition.startLines} := by
    intro line member other member' same
    exact congrArg PointKey.line (distinct (known line member) (known other member') same)
  refine ⟨?_, fun store name ready => ?_⟩
  · rw [rendition.nodup_id_iff repository ofFile, nodup_startLines_iff]
  · obtain ⟨after, made, points⟩ :=
      exists_upsert ready.accepts ready.there ready.noneDue (rendition.points repository)
    have size : (after.pointsOf name).size =
        (store.pointsOf name).size + rendition.startLines.dedup.length := by
      rw [points, size_written_of_fresh, rendition.length_dedup_ids ofFile]
      exact fun point => rendition.get?_eq_none_of_absent ready.keyed distinct known ready.absent
    have lines : rendition.startLines.length = rendition.chunks.length := List.length_map _
    refine ⟨after, made, size, ?_⟩
    rw [size, ← nodup_startLines_iff, Nat.add_left_cancel_iff, ← lines, ← List.dedup_eq_self]
    exact ⟨fun long => (List.dedup_sublist _).eq_of_length long, fun same => by rw [same]⟩

/-- A rendition with empty descriptions and vectors. -/
def plain (read : SyntaxReader) (path text : String) : Rendition read path where
  text
  described := (chunkFile read text path).map (⟨·, ""⟩)
  vectors := (chunkFile read text path).map fun _ => []
  chunks_eq := by
    rw [List.map_map]
    exact List.map_id _
  complete := by simp

end Rendition

/-- A large component on one line: a template, and a script right behind it. -/
def crowded : List Char :=
  "<template>".toList ++
    (List.replicate 3000 'x' ++ "</template><script>a</script>".toList)

theorem startLines_crowded :
    (Rendition.plain Indexer.bare.read "A.vue" (String.ofList crowded)).startLines = [1, 1] := by
  have known : Language.ofPath? "A.vue" = some .vue := by decide
  have notBlank : ¬Text.isBlankString (String.ofList crowded) := by
    rw [Text.isBlankString, String.toList_ofList]
    decide +kernel
  have said := map_chunkFile Indexer.bare.read known notBlank
  have spans : ((spansOf Indexer.bare.read .vue crowded (Text.lines crowded)).filter
      (isFilled (Text.lines crowded))).map (fun span => (span.start + 1, span.kind)) =
        [(1, .template), (1, .script)] := by decide +kernel
  rw [String.toList_ofList, spans] at said
  have lines := congrArg (List.map Prod.fst) said
  rwa [List.map_map] at lines

/-- A store with an empty collection. -/
def vacant : MemoryStore :=
  { MemoryStore.empty with
    collections := Dictionary.empty.insert "code_chunks" ⟨true, Dictionary.empty, []⟩ }

theorem isReadyFor_vacant (keys : Set PointKey) (repository path : String) :
    vacant.IsReadyFor "code_chunks" keys repository path := by
  have points : vacant.pointsOf "code_chunks" = Dictionary.empty := rfl
  refine ⟨fun collection there => ?_, rfl, rfl, ?_, ?_⟩
  · cases there
    rfl
  · rw [points]
    exact .empty keys
  · rw [points]
    rfl

/-- Of the two points of the crowded component one is lost. -/
theorem upsert_crowded :
    ¬StartLinesAscend Indexer.bare.read (String.ofList crowded) "A.vue" ∧
      ∃ after, vacant.upsert "code_chunks"
          ((Rendition.plain Indexer.bare.read "A.vue" (String.ofList crowded)).points "a") =
        (.ok (), after) ∧ (after.pointsOf "code_chunks").size = 1 := by
  have lines := startLines_crowded
  have known : ∀ line ∈
      (Rendition.plain Indexer.bare.read "A.vue" (String.ofList crowded)).startLines,
        (⟨"a", "A.vue", line⟩ : PointKey) ∈ ({⟨"a", "A.vue", 1⟩} : Set PointKey) := by
    rw [lines]
    simp
  obtain ⟨-, ascend, upload⟩ := Rendition.upsert_adds_all_iff
    (Rendition.plain Indexer.bare.read "A.vue" (String.ofList crowded)) "a"
  obtain ⟨-, upload⟩ := upload {⟨"a", "A.vue", 1⟩} (Set.injOn_singleton _ _) known
  obtain ⟨after, made, size, -⟩ := upload vacant "code_chunks" (isReadyFor_vacant _ _ _)
  have text : (Rendition.plain Indexer.bare.read "A.vue" (String.ofList crowded)).text =
      String.ofList crowded := rfl
  rw [text, lines] at ascend
  rw [lines] at size
  refine ⟨?_, after, made, ?_⟩
  · rw [← ascend]
    decide
  · rw [size]
    rfl

end CodeIndex
