import CodeIndex.Proofs.Chunk.StartLine
import CodeIndex.Proofs.Provider.Hosted
import CodeIndex.Proofs.Run.FullRun

/-!
# Which vector a point has

A file is embedded with one request for all its chunks, and what comes back is zipped with the
chunks by position alone.  So everything depends on the order in which a service hands its vectors
over, and on their number.  This module takes the steps of a file in two halves, at the point where
the vectors are there and nothing is stored yet, and says what the second half does with them.

## Main definitions

* `Indexer.embedFile`, `Indexer.storeFile`: the two halves.
* `Indexer.StoresInOrder`: what becomes of the vectors of a file.

## Main statements

* `Indexer.indexFile_eq`: the two halves are the steps of a file.
* `Indexer.exists_embedFile`: when the first half succeeds.
* `Indexer.vectors_inOrder`: from the answer of a service to the points of a file.
-/

namespace CodeIndex

open HostedService

namespace Indexer

variable {σ γ : Type} (indexer : Indexer σ γ) (around : Surroundings σ)

/-! ## Two halves of the steps of a file -/

/-- The steps of a file up to the vectors of its chunks, if it has chunks. -/
def embedFile (path : String) :
    RunM σ γ (Option (List DescribedChunk × List (List Float32))) := do
  let content ← readFile around path
  let chunks := chunkFile indexer.read content path
  if chunks.isEmpty then return none
  let described ← indexer.describeChunks content chunks
  let vectors ← retried indexer.settings.embedPolicy "embed"
    (embedRequest (indexer.embedder.embedBatch (described.map FilePoints.embeddingText)))
  return some (described, vectors)

/-- The step that stores the points of a file. -/
def storePoints (described : List DescribedChunk) (points : List Point) : RunM σ γ (Nat × Nat) := do
  retried indexer.settings.storePolicy "upsert" <| storeRequest around fun store =>
    store.upsert indexer.settings.collection points
  return (described.length, described.countP (·.description.isEmpty))

/-- What follows when there are vectors. -/
def storeFile (repository : Repository) (path : String) :
    Option (List DescribedChunk × List (List Float32)) → RunM σ γ (Nat × Nat)
  | none => return (0, 0)
  | some (described, vectors) =>
    if vectors.length = described.length then
      indexer.storePoints around described
        (FilePoints.points repository.name path described vectors)
    else throw (.provider (.batchMismatch described.length vectors.length))

/-- **The steps of a file fall into two halves.** -/
theorem indexFile_eq (repository : Repository) (path : String) :
    indexer.indexFile around repository path =
      indexer.embedFile around path >>= indexer.storeFile around repository path := by
  unfold indexFile embedFile
  rw [bind_assoc]
  congr 1
  funext content
  dsimp only
  split
  · rw [pure_bind]
    rfl
  · simp only [bind_assoc, pure_bind]
    congr 1
    funext described
    unfold storeChunks
    simp only [bind_assoc]
    congr 1
    funext vectors
    unfold storeFile storePoints
    by_cases complete : vectors.length = described.length <;> simp [complete]

variable {indexer around} {path : String} {before after middle : Clocked (World σ γ)}
variable {described : List DescribedChunk} {vectors : List (List Float32)}

/-- **What it means that a file was embedded** at a look at the surroundings: its chunks in their
order, and what the embedder answered to their texts in this order. -/
structure Embedded (indexer : Indexer σ γ) (around : Surroundings σ) (path : String) (step : Nat)
    (described : List DescribedChunk) (vectors : List (List Float32)) : Prop where
  chunks : ∃ text, around.contentAt step path = .ok text ∧
    described.map (·.chunk) = chunkFile indexer.read text path
  filled : described ≠ []
  answered : ∃ now embedder, (indexer.embedder.embedBatch
    (described.map FilePoints.embeddingText) now embedder).result = .ok vectors

/-- **What the first half comes to:** it stores nothing, and vectors come from the embedder. -/
theorem embedFile_cases
    {result : Except RunError (Option (List DescribedChunk × List (List Float32)))}
    (run : (indexer.embedFile around path).outcome before = (result, after)) :
    after.state.store = before.state.store ∧
      ∀ described vectors, result = .ok (some (described, vectors)) →
        indexer.Embedded around path before.state.step described vectors := by
  rcases RunM.of_outcome_bind run with ⟨e, reading, rfl⟩ | ⟨text, reader, reading, rest⟩
  · exact ⟨(readFile_cases reading).1, fun _ _ impossible => nomatch impossible⟩
  obtain ⟨readOnly, ⟨_, _, impossible, -⟩ | ⟨_, same, content⟩⟩ := readFile_cases reading
  · cases impossible
  cases same
  by_cases none : chunkFile indexer.read text path = []
  · simp only [none, List.isEmpty_nil, if_true, RunM.outcome_pure] at rest
    obtain ⟨rfl, rfl⟩ := Prod.mk.inj rest
    exact ⟨readOnly, fun _ _ impossible => nomatch impossible⟩
  simp only [List.isEmpty_iff, none, if_false] at rest
  rcases RunM.of_outcome_bind rest with ⟨e, describing, rfl⟩ | ⟨list, describer, describing, rest⟩
  · obtain ⟨_, impossible, -⟩ := describeChunks_cases describing
    cases impossible
  obtain ⟨_, success, same, chunks, -⟩ := describeChunks_cases describing
  cases success
  have filled : list ≠ [] := by
    rintro rfl
    exact none chunks.symm
  rcases RunM.of_outcome_bind rest with ⟨e, embedding, rfl⟩ | ⟨answer, embedded, embedding, rest⟩
  · obtain ⟨alone, -⟩ := retried_embedRequest_cases embedding
    exact ⟨by rw [alone, same, readOnly], fun _ _ impossible => nomatch impossible⟩
  obtain ⟨alone, now, embedder, outcome⟩ := retried_embedRequest_cases embedding
  obtain ⟨rfl, rfl⟩ := Prod.mk.inj rest
  refine ⟨by rw [alone, same, readOnly], fun described vectors success => ?_⟩
  cases success
  rcases outcome with ⟨_, impossible, -⟩ | ⟨_, success, answered⟩
  · cases impossible
  · cases success
    exact ⟨⟨text, content, chunks⟩, filled, now, embedder, answered⟩

/-- **The first half succeeds** if the file can be read, has chunks, and its texts are embedded in
time. -/
theorem exists_embedFile {text : String}
    (content : around.contentAt before.state.step path = .ok text)
    (filled : chunkFile indexer.read text path ≠ [])
    (inTime : ∀ described : List DescribedChunk,
      described.map (·.chunk) = chunkFile indexer.read text path → ∀ now embedder, ∃ vectors,
        (indexer.embedder.embedBatch (described.map FilePoints.embeddingText) now embedder).result =
          .ok vectors ∧
        (indexer.embedder.embedBatch (described.map FilePoints.embeddingText) now
          embedder).duration ≤ indexer.settings.embedTimeout) :
    ∃ described vectors middle, (indexer.embedFile around path).outcome before =
        (.ok (some (described, vectors)), middle) ∧
      described.map (·.chunk) = chunkFile indexer.read text path ∧
      ∀ entry ∈ described, indexer.CanDescribe text (chunkFile indexer.read text path) entry := by
  rcases reading : (readFile around path).outcome before with ⟨result, reader⟩
  obtain ⟨-, ⟨_, _, -, failed⟩ | ⟨_, rfl, same⟩⟩ := readFile_cases reading
  · rw [content] at failed
    cases failed
  rw [content] at same
  cases same
  rcases describing : (indexer.describeChunks text (chunkFile indexer.read text path)).outcome
    reader with ⟨result, describer⟩
  obtain ⟨described, rfl, -, chunks, canDescribe⟩ := describeChunks_cases describing
  rcases embedding : (retried indexer.settings.embedPolicy "embed" (embedRequest
    (indexer.embedder.embedBatch (described.map FilePoints.embeddingText)))).outcome
      describer with ⟨result, middle⟩
  obtain ⟨-, now, embedder, answer⟩ := retried_embedRequest_cases embedding
  obtain ⟨vectors, answered, quick⟩ := inTime described chunks now embedder
  rcases answer with ⟨-, -, late | ⟨_, failed⟩⟩ | ⟨vectors, rfl, -⟩
  · exact absurd quick (Nat.not_le_of_lt late)
  · rw [answered] at failed
    cases failed
  · refine ⟨described, vectors, middle, ?_, chunks, canDescribe⟩
    unfold embedFile
    rw [RunM.outcome_bind_of_ok reading]
    simp only [List.isEmpty_iff, filled, if_false]
    rw [RunM.outcome_bind_of_ok describing, RunM.outcome_bind_of_ok embedding, RunM.outcome_pure]

/-- Points that are uploaded are all written, or none is. -/
theorem storePoints_cases {points : List Point} {result : Except RunError (Nat × Nat)}
    (accepts : before.state.store.AcceptsSparse indexer.settings.collection)
    (run : (indexer.storePoints around described points).outcome before = (result, after)) :
    (∃ e, result = .error e ∧ before.state.store.SamePoints after.state.store) ∨
      (∃ counts, result = .ok counts ∧ before.state.store.Changes indexer.settings.collection
        (written · points) after.state.store) := by
  rcases RunM.of_outcome_bind run with ⟨e, storing, rfl⟩ | ⟨_, stored, storing, rest⟩
  · rcases @retried_upsert_cases _ _ indexer _ _ _ _ _ _ _ accepts _ storing with
      ⟨_, -, kept, -⟩ | ⟨impossible, -⟩
    · exact .inl ⟨e, rfl, kept⟩
    · cases impossible
  · obtain ⟨rfl, rfl⟩ := Prod.mk.inj rest
    rcases @retried_upsert_cases _ _ indexer _ _ _ _ _ _ _ accepts _ storing with
      ⟨_, impossible, -⟩ | ⟨-, changes⟩
    · cases impossible
    · exact .inr ⟨_, rfl, changes⟩

/-- Points have the vectors that were zipped with their chunks. -/
theorem forall₂_points {Embeds : String → List Float32 → Prop} (repository path : String)
    (embedded : List.Forall₂ Embeds (described.map FilePoints.embeddingText) vectors) :
    List.Forall₂ (fun entry point => point.id = pointId repository path entry.chunk.startLine ∧
        Embeds (FilePoints.embeddingText entry) point.dense)
      described (FilePoints.points repository path described vectors) := by
  rw [List.forall₂_map_left_iff] at embedded
  unfold FilePoints.points
  generalize FilePoints.headerId? repository path (described.map (·.chunk)) = header
  induction embedded with
  | nil => exact .nil
  | cons embeds _ ih => exact .cons ⟨rfl, embeds⟩ ih

/-- **What becomes of the vectors of a file.** -/
structure StoresInOrder (indexer : Indexer σ γ) (around : Surroundings σ) (repository : Repository)
    (path : String) (before : Clocked (World σ γ)) : Prop where
  /-- Vectors are there when the chunks of the file were embedded. -/
  embedded : ∀ described vectors middle, (indexer.embedFile around path).outcome before =
      (.ok (some (described, vectors)), middle) →
    indexer.Embedded around path before.state.step described vectors
  /-- Without vectors nothing is uploaded. -/
  unembedded : ∀ result middle, (indexer.embedFile around path).outcome before = (result, middle) →
    (∀ described vectors, result ≠ .ok (some (described, vectors))) →
    ((indexer.indexFile around repository path).outcome before).2 = middle ∧
      middle.state.store = before.state.store
  /-- Nor is it if there are too many vectors or too few. -/
  mismatched : ∀ described vectors middle, (indexer.embedFile around path).outcome before =
      (.ok (some (described, vectors)), middle) → vectors.length ≠ described.length →
    (indexer.indexFile around repository path).outcome before =
      (.error (.provider (.batchMismatch described.length vectors.length)), middle) ∧
        middle.state.store = before.state.store
  /-- With a vector for each chunk, the points of the file are uploaded, all or none. -/
  uploaded : ∀ described vectors middle, (indexer.embedFile around path).outcome before =
      (.ok (some (described, vectors)), middle) → vectors.length = described.length →
    let points := FilePoints.points repository.name path described vectors
    (indexer.indexFile around repository path).outcome before =
      (indexer.storePoints around described points).outcome middle ∧
    ∀ result after, (indexer.indexFile around repository path).outcome before = (result, after) →
      before.state.store.AcceptsSparse indexer.settings.collection →
      (∃ e, result = .error e ∧ before.state.store.SamePoints after.state.store) ∨
        (∃ counts, result = .ok counts ∧ before.state.store.Changes indexer.settings.collection
          (written · points) after.state.store)
  /-- If the embedder is a service that answers as agreed, the point of each chunk has the vector of
  its text. -/
  aligned : ∀ (service : HostedService) (carry : Carrier σ) (Embeds : String → List Float32 → Prop),
    indexer.embedder = service.embedder carry → service.IsHonest carry Embeds →
    ∀ described vectors middle, (indexer.embedFile around path).outcome before =
        (.ok (some (described, vectors)), middle) →
      vectors.length = described.length ∧
      List.Forall₂ (fun entry point =>
          point.id = pointId repository.name path entry.chunk.startLine ∧
          Embeds (FilePoints.embeddingText entry) point.dense)
        described (FilePoints.points repository.name path described vectors)

theorem indexFile_storesInOrder (indexer : Indexer σ γ) (around : Surroundings σ)
    (repository : Repository) (path : String) (before : Clocked (World σ γ)) :
    indexer.StoresInOrder around repository path before where
  embedded described vectors middle run := (embedFile_cases run).2 described vectors rfl
  unembedded result middle run without := by
    refine ⟨?_, (embedFile_cases run).1⟩
    rw [indexFile_eq]
    match result with
    | .error e => rw [RunM.outcome_bind_of_error run]
    | .ok none =>
      rw [RunM.outcome_bind_of_ok run]
      rfl
    | .ok (some (described, vectors)) => exact absurd rfl (without described vectors)
  mismatched described vectors middle run incomplete := by
    refine ⟨?_, (embedFile_cases run).1⟩
    rw [indexFile_eq, RunM.outcome_bind_of_ok run, storeFile, if_neg incomplete,
      RunM.outcome_throw]
  uploaded described vectors middle run complete := by
    have upload : (indexer.indexFile around repository path).outcome before =
        (indexer.storePoints around described
          (FilePoints.points repository.name path described vectors)).outcome middle := by
      rw [indexFile_eq, RunM.outcome_bind_of_ok run, storeFile, if_pos complete]
    have same := (embedFile_cases run).1
    refine ⟨upload, fun result after whole accepts => ?_⟩
    rw [upload] at whole
    rw [← same] at accepts ⊢
    exact storePoints_cases accepts whole
  aligned service carry Embeds hosted honest described vectors middle run := by
    obtain ⟨-, filled, now, embedder, answered⟩ := (embedFile_cases run).2 described vectors rfl
    rw [hosted] at answered
    have embedded := forall₂_of_embedBatch honest (by simpa using filled) answered
    refine ⟨?_, forall₂_points repository.name path embedded⟩
    rw [← embedded.length_eq, List.length_map]

/-- **Vectors come in the order of the texts.**  An answer is refused if it has too many or too few
vectors, and for no other reason; otherwise each vector comes to the place that it names, and if
none names a place, they stay as they came.  So the points of a file have the vectors of their
texts. -/
theorem vectors_inOrder (indexer : Indexer σ γ) (around : Surroundings σ)
    (repository : Repository) (path : String) (before : Clocked (World σ γ)) :
    (∀ sent items, IsOrdering sent items (inOrder sent items)) ∧
    (∀ body values items, Holds body values items →
      (∀ sent, vectorsOf sent body = inOrder sent items) ∧
      List.Forall₂ (fun value item => decodeVector value = .ok item ∧
          (value.field? "index" = none → item.place = 0) ∧
          ∀ place : Nat, value.field? "index" = some (.nat place) → item.place = place)
        values items) ∧
    indexer.StoresInOrder around repository path before :=
  ⟨inOrder_isOrdering,
    fun _ _ _ holds => ⟨vectorsOf_of_holds holds,
      (forall₂_of_mapM_eq_ok holds.decoded).imp fun _ _ decoded =>
        ⟨decoded, place_of_decodeVector decoded⟩⟩,
    indexFile_storesInOrder indexer around repository path before⟩

/-! ## A file with two chunks -/

/-- Without a describer chunks have no descriptions. -/
theorem map_chunk_of_canDescribe {file : String} {chunks : List Chunk}
    {described : List DescribedChunk} (silent : indexer.describer = none)
    (canDescribe : ∀ entry ∈ described, indexer.CanDescribe file chunks entry) :
    (described.map (·.chunk)).map (⟨·, ""⟩) = described := by
  have asked : indexer.asked? chunks = none := by rw [asked?, silent, ite_self]
  rw [List.map_map]
  refine (List.map_congr_left fun entry listed => ?_).trans (List.map_id described)
  have made := canDescribe entry listed
  rw [CanDescribe, asked] at made
  obtain ⟨chunk, description⟩ := entry
  exact congrArg (DescribedChunk.mk chunk) made.symm

/-- A note of two sections, which is too long for one chunk. -/
def longNote : List Char :=
  "# One\n".toList ++ (List.replicate 3000 'x' ++ "\n# Two\n".toList)

/-- A service that hands vectors over in the wrong order. -/
def unordered : HostedService := .ofAddress "" "" "" (some "")

/-- An indexer with such a service. -/
def misled : Indexer Unit Unit where
  settings := {}
  read := bare.read
  embedder := unordered.embedder swapped
  describer := none

/-- A section of it, named by its heading. -/
def noteChunk (content : List Char) (title : String) (startLine endLine index : Nat) : Chunk :=
  { content := String.ofList content, path := "a.md", language := .markdown, layer := "other",
    startLine, endLine, symbol := some title, parent := none, kind := .other, annotations := [],
    index, total := 2 }

/-- The first section, all in two lines. -/
def longSection : List Char := "# One\n".toList ++ List.replicate 3000 'x'

/-- Both sections. -/
def noteChunks : List Chunk :=
  [noteChunk longSection "One" 1 2 0, noteChunk "# Two".toList "Two" 3 3 1]

theorem chunkFile_longNote :
    chunkFile misled.read (String.ofList longNote) "a.md" = noteChunks := by
  have known : Language.ofPath? "a.md" = some .markdown := by decide
  have notBlank : Text.isBlankText longNote = false := by decide +kernel
  have filled : filledSpans (Text.lines longNote)
      (spansOf misled.read .markdown longNote (Text.lines longNote)) =
        [(⟨0, 1, .other, some "One", none, []⟩, longSection),
          (⟨2, 2, .other, some "Two", none, []⟩, "# Two".toList)] := by decide +kernel
  have lines : (Text.lines longNote).length = 3 := by decide +kernel
  have layer : Layer.ofPath "a.md" = "other" := by decide +kernel
  rw [chunkFile, known]
  simp only [String.toList_ofList, notBlank, assemble, filled, lines, layer]
  rfl

theorem exists_embedFile_longNote : ∃ vectors middle,
    (misled.embedFile (oneFile (String.ofList longNote)) "a.md").outcome freshWorld =
      (.ok (some (noteChunks.map (⟨·, ""⟩), vectors)), middle) := by
  have chunks := chunkFile_longNote
  have filled : chunkFile misled.read (String.ofList longNote) "a.md" ≠ [] := by
    rw [chunks]
    exact List.cons_ne_nil _ _
  have inTime : ∀ described : List DescribedChunk,
      described.map (·.chunk) = chunkFile misled.read (String.ofList longNote) "a.md" →
      ∀ now embedder, ∃ vectors,
        (misled.embedder.embedBatch (described.map FilePoints.embeddingText) now embedder).result =
          .ok vectors ∧
        (misled.embedder.embedBatch (described.map FilePoints.embeddingText) now
          embedder).duration ≤ misled.settings.embedTimeout := by
    intro described same now embedder
    rw [chunks] at same
    obtain ⟨a, b, rfl⟩ : ∃ a b, described = [a, b] :=
      List.length_eq_two.1 ((List.length_map ..).symm.trans (congrArg List.length same))
    have known : unordered.embeddingModel = some "" := rfl
    obtain ⟨vectors, run⟩ := exists_embedBatch_swapped known (FilePoints.embeddingText a)
      (FilePoints.embeddingText b) now
    have atOnce : now + (misled.embedder.embedBatch
        ([a, b].map FilePoints.embeddingText) now embedder).duration = now :=
      congrArg (fun finished => finished.2.now) run
    exact ⟨vectors, congrArg Prod.fst run, by omega⟩
  obtain ⟨described, vectors, middle, run, same, plain⟩ :=
    @exists_embedFile _ _ misled _ "a.md" freshWorld _ (contentAt_oneFile _ 0) filled inTime
  -- while the chunks are not spelled out, a look at what was described would evaluate all splitting
  rw [chunks] at same plain
  have undescribed := map_chunk_of_canDescribe rfl plain
  rw [same] at undescribed
  subst undescribed
  exact ⟨vectors, middle, run⟩

/-- The service answers about the second text first; the second point has the vector of its text
all the same, and so has the first. -/
theorem vectors_inOrder_misled : ∃ described vectors middle,
    (misled.embedFile (oneFile (String.ofList longNote)) "a.md").outcome freshWorld =
      (.ok (some (described, vectors)), middle) ∧
    described.map (·.chunk.startLine) = [1, 3] ∧
    (described.map FilePoints.embeddingText)[1]? = some "markdown other a.md\n\n# Two" ∧
    ((FilePoints.points "a" "a.md" described vectors).map (·.dense))[1]? = some [26] ∧
    List.Forall₂ (fun entry point => point.id = pointId "a" "a.md" entry.chunk.startLine ∧
        point.dense = lengthVector (FilePoints.embeddingText entry))
      described (FilePoints.points "a" "a.md" described vectors) := by
  obtain ⟨vectors, middle, run⟩ := exists_embedFile_longNote
  obtain ⟨-, -, stores⟩ :=
    vectors_inOrder misled (oneFile (String.ofList longNote)) ⟨"a", "/a"⟩ "a.md" freshWorld
  have aligned := (stores.aligned _ swapped _ rfl (isHonest_swapped _) _ vectors middle run).2
  have text : FilePoints.embeddingText ⟨noteChunk "# Two".toList "Two" 3 3 1, ""⟩ =
      "markdown other a.md\n\n# Two" := by decide +kernel
  have length : "markdown other a.md\n\n# Two".length % 256 = 26 := by decide +kernel
  refine ⟨_, vectors, middle, run, rfl, congrArg some text, ?_, aligned⟩
  obtain ⟨first, second, points⟩ := List.length_eq_two.1 aligned.length_eq.symm
  rw [points] at aligned ⊢
  obtain ⟨-, dense⟩ := (List.forall₂_cons.1 (List.forall₂_cons.1 aligned).2).1
  rw [text, lengthVector, length] at dense
  exact congrArg some dense

end Indexer

end CodeIndex
