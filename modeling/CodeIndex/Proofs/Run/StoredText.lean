import CodeIndex.Proofs.Run.Requests
import CodeIndex.Proofs.Secret.Joining
import CodeIndex.Proofs.Secret.Redaction
import CodeIndex.Proofs.Store.Tenancy

/-!
# The texts that are stored

A store writes down the identifiers of all points that it is asked to keep, so that a list of points
with these identifiers, in this order, accounts for every upload; `MemoryStore.Receives` says so of
a list of points, and that the store has no other new points than these.

All points that a run uploads are those of renditions.  Each shows a text of its chunk, the
description, and the annotations of the chunk, but only the first one was redacted.  So the text
of a chunk is always free of credentials, and the point is, if and only if the description and the
annotations are.

## Main definitions

* `MemoryStore.Receives`: a list of points accounts for all uploads.
* `PointData.Shows`: the texts that a point shows.

## Main statements

* `Indexer.uploads_free_iff`
-/

namespace CodeIndex

variable {σ γ : Type}

/-! ## What a store receives -/

/-- **Whether a list of points accounts for all that a store was asked to keep** in a collection:
the log names these points, and what is in the collection was there before or is one of them. -/
structure MemoryStore.Receives (name : String) (before : MemoryStore) (uploads : List Point)
    (after : MemoryStore) : Prop where
  logged : ∃ ops, after.ops = before.ops ++ ops ∧ uploadedIds ops = uploads.map (·.id)
  held : ∀ id data, (after.pointsOf name).get? id = some data →
    (before.pointsOf name).get? id = some data ∨
      ∃ point ∈ uploads, point.id = id ∧ point.toPointData = data

namespace MemoryStore.Receives

variable {name : String} {before middle after : MemoryStore} {first second : List Point}

theorem refl (store : MemoryStore) : Receives name store [] store :=
  ⟨⟨[], (List.append_nil _).symm, rfl⟩, fun _ _ => .inl⟩

theorem trans (earlier : Receives name before first middle)
    (later : Receives name middle second after) : Receives name before (first ++ second) after where
  logged := by
    obtain ⟨ops, log, ids⟩ := earlier.logged
    obtain ⟨further, log', ids'⟩ := later.logged
    refine ⟨ops ++ further, by rw [log', log, List.append_assoc], ?_⟩
    rw [uploadedIds_append, ids, ids', List.map_append]
  held id data there := by
    rcases later.held id data there with there | ⟨point, member, same⟩
    · rcases earlier.held id data there with there | ⟨point, member, same⟩
      · exact .inl there
      · exact .inr ⟨point, List.mem_append_left _ member, same⟩
    · exact .inr ⟨point, List.mem_append_right _ member, same⟩

theorem of_samePoints {ops : List StoreOp} (same : SamePoints before after)
    (log : after.ops = before.ops ++ ops) (none : uploadedIds ops = []) :
    Receives name before [] after :=
  ⟨⟨ops, log, none⟩, fun _ _ there => .inl (same.pointsOf_eq name ▸ there)⟩

theorem delete (store : MemoryStore) (filter : Filter) :
    Receives name store [] (store.delete name filter).2 := by
  have log := ops_delete store name filter
  have none : uploadedIds (if filter.isEmpty then [] else [.delete filter.describe]) = [] := by
    split <;> rfl
  rcases made : store.delete name filter with ⟨result, after⟩
  rw [made] at log
  rcases delete_cases made with ⟨e, -, same, -⟩ | ⟨-, changes⟩
  · exact .of_samePoints same log none
  · refine ⟨⟨_, log, none⟩, fun id data there => ?_⟩
    rw [changes.here] at there
    exact .inl (get?_purged.1 there).1

/-- An upload that is made to fail receives nothing, and every other one its points. -/
theorem upsert (store : MemoryStore) (points : List Point) :
    ∃ uploads, uploads ⊆ points ∧ Receives name store uploads (store.upsert name points).2 := by
  have log := ops_upsert store name points
  rcases made : store.upsert name points with ⟨result, after⟩
  rw [made] at log
  obtain ⟨done, part, failed, changes⟩ := upsert_prefix made
  by_cases due : store.failingUpserts = 0
  · refine ⟨points, List.Subset.refl _, ⟨_, log, ?_⟩, fun id data there => ?_⟩
    · simp [due, uploadedIds]
    · rw [changes.here, get?_written_eq_or, Option.or_eq_some_iff] at there
      rcases there with new | ⟨-, old⟩
      · obtain ⟨point, member, same⟩ := exists_of_get?_stored new
        exact .inr ⟨point, part.subset member, same⟩
      · exact .inl old
  · refine ⟨[], List.nil_subset _, ⟨_, log, ?_⟩, fun id data there => ?_⟩
    · simp [due, uploadedIds]
    · rw [changes.here, failed due, written_nil] at there
      exact .inl there

end MemoryStore.Receives

/-! ## What a point shows -/

/-- **The texts that a point shows:** the text of its chunk, the description, and annotations. -/
def PointData.Shows (data : PointData) (text : String) : Prop :=
  data.text? "content" = some text ∨ data.text? "context" = some text ∨
    ∃ items, data.payload.get? "annotations" = some (.array items) ∧ .string text ∈ items

namespace FilePoints

variable {repository path : String} {headerId : Option String} {described : DescribedChunk}
variable {dense : List Float32}

theorem point_content? : (point repository path headerId described dense).text? "content" =
    some (content described.chunk) := by
  have member : ("content", Json.string (content described.chunk)) ∈
      (payloadOf repository headerId described).fields := by
    simp [Payload.fields, payloadOf, Payload.ofChunk]
  rw [PointData.text?, get?_point _ _ _ _ _ member]
  rfl

theorem point_context? : (point repository path headerId described dense).text? "context" =
    some described.description := by
  have member : ("context", Json.string described.description) ∈
      (payloadOf repository headerId described).fields := by
    simp [Payload.fields, payloadOf, Payload.ofChunk]
  rw [PointData.text?, get?_point _ _ _ _ _ member]
  rfl

theorem point_annotations :
    (point repository path headerId described dense).payload.get? "annotations" =
      some (.array (described.chunk.annotations.map .string)) :=
  get?_point _ _ _ _ _ (by simp [Payload.fields, payloadOf, Payload.ofChunk, Json.strings])

/-- **What a point of a chunk shows:** its redacted text, its description, and its annotations. -/
theorem shows_point_iff {text : String} :
    (point repository path headerId described dense).Shows text ↔
      text = content described.chunk ∨ text = described.description ∨
        text ∈ described.chunk.annotations := by
  unfold PointData.Shows
  rw [point_content?, point_context?, point_annotations]
  simp [eq_comm]

theorem isFree_content (chunk : Chunk) : Secret.IsFree (content chunk).toList := by
  rw [content, Secret.redacted, String.toList_ofList]
  exact Secret.isFree_redact _

end FilePoints

/-! ## The descriptions that are stored -/

/-- Whether a describer never says anything with a credential in it. -/
def Describer.IsDiscreet (describer : Describer γ) : Prop :=
  ∀ prompt now generator text,
    (describer.generator.generate prompt (.deterministic describer.maxTokens) now
      generator).result = .ok text → Secret.IsFree text.toList

theorem isFree_empty : Secret.IsFree "".toList := Secret.isFree_iff_freeBehind.2 .nil

/-- A description is what the generator said, or empty. -/
theorem Describer.IsDiscreet.isFree_describe {describer : Describer γ}
    (discreet : describer.IsDiscreet) (file chunk : List Char) (path : String)
    (language : Language) (clocked : Clocked γ) :
    Secret.IsFree (describer.describe file chunk path language clocked).1.toList := by
  unfold describe
  split
  · exact isFree_empty
  · dsimp only
    split
    · next text after answered =>
      rw [Secret.isFree_trimmed_iff]
      refine discreet (Describer.prompt file chunk path language) clocked.now clocked.state text ?_
      unfold Request.runWithin at answered
      dsimp only at answered
      split at answered
      · exact Option.some.inj (Prod.mk.inj answered).1
      · cases (Prod.mk.inj answered).1
    · exact isFree_empty

namespace Indexer

variable {indexer : Indexer σ γ}

theorem CanDescribe.isFree {file : String} {chunks : List Chunk} {described : DescribedChunk}
    (can : indexer.CanDescribe file chunks described)
    (discreet : ∀ describer, indexer.describer = some describer → describer.IsDiscreet) :
    Secret.IsFree described.description.toList := by
  unfold CanDescribe asked? at can
  split at can
  · rw [can]
    exact isFree_empty
  · next describer asked =>
    obtain ⟨clocked, same⟩ := can
    split at asked
    · cases asked
    · rw [same]
      exact (discreet describer asked).isFree_describe _ _ _ _ _

/-! ## What runs upload -/

/-- **Whether a point is that of a described chunk** of a file as it was read, in a rendition that
an indexer can make. -/
def IsPointOf (indexer : Indexer σ γ) (around : Surroundings σ) (repository : Repository)
    (point : Point) (described : DescribedChunk) : Prop :=
  ∃ path, ∃ rendition : Rendition indexer.read path,
    (∃ step, around.contentAt step path = .ok rendition.text) ∧ indexer.CanMake rendition ∧
      described ∈ rendition.described ∧ ∃ dense, point =
        FilePoints.point repository.name path (rendition.headerId? repository.name) described dense

variable {around : Surroundings σ} {repository : Repository}

theorem exists_isPointOf {path : String} {rendition : Rendition indexer.read path}
    (read : ∃ step, around.contentAt step path = .ok rendition.text)
    (made : indexer.CanMake rendition) {point : Point}
    (member : point ∈ rendition.points repository.name) :
    ∃ described, indexer.IsPointOf around repository point described := by
  obtain ⟨position, found⟩ := List.mem_iff_getElem?.1 member
  obtain ⟨described, dense, -, listed, same⟩ :=
    rendition.getElem?_points repository.name position found
  exact ⟨described, path, rendition, read, made, listed, dense, same⟩

/-- What a point shows is free of credentials as far as it was redacted or comes without any. -/
theorem IsPointOf.shows_free_iff {point : Point} {described : DescribedChunk}
    (isPoint : indexer.IsPointOf around repository point described) :
    (∀ text, point.text? "content" = some text → Secret.IsFree text.toList) ∧
      ((∀ text, point.Shows text → Secret.IsFree text.toList) ↔
        Secret.IsFree described.description.toList ∧
          ∀ annotation ∈ described.chunk.annotations, Secret.IsFree annotation.toList) := by
  obtain ⟨path, rendition, -, -, -, dense, rfl⟩ := isPoint
  have redacted := FilePoints.isFree_content described.chunk
  constructor
  · intro text same
    rw [FilePoints.point_content?] at same
    rwa [← Option.some.inj same]
  · simp only [FilePoints.shows_point_iff, or_imp, forall_and, forall_eq]
    exact ⟨fun ⟨_, rest⟩ => rest, fun rest => ⟨redacted, rest⟩⟩

/-- The description is free of credentials if the generator is discreet. -/
theorem IsPointOf.isFree_description {point : Point} {described : DescribedChunk}
    (isPoint : indexer.IsPointOf around repository point described)
    (discreet : ∀ describer, indexer.describer = some describer → describer.IsDiscreet) :
    Secret.IsFree described.description.toList := by
  obtain ⟨path, rendition, -, made, listed, -⟩ := isPoint
  exact (made.described described listed).isFree discreet

/-- Only uploads give points to the store, and these are points of chunks. -/
theorem requestsKeep_receives (indexer : Indexer σ γ) (around : Surroundings σ)
    (repository : Repository) (start : MemoryStore) :
    indexer.RequestsKeep around repository (fun _ => True) fun services =>
      ∃ uploads, start.Receives indexer.settings.collection uploads services.store ∧
        ∀ point ∈ uploads, ∃ described, indexer.IsPointOf around repository point described where
  probe _ _ _ kept := ⟨kept, fun _ => kept⟩
  describe _ _ _ _ _ _ _ _ _ _ kept := ⟨kept, fun _ => kept⟩
  embed _ _ _ _ _ _ _ _ _ kept := ⟨kept, fun _ => kept⟩
  upload path _ rendition made read := by
    rintro services ⟨uploads, received, known⟩
    obtain ⟨further, part, more⟩ := MemoryStore.Receives.upsert services.store
      (rendition.points repository.name)
    refine ⟨uploads ++ further, received.trans more, fun point member => ?_⟩
    rcases List.mem_append.1 member with old | new
    · exact known point old
    · exact exists_isPointOf read made (part new)
  ensure := by
    rintro services ⟨uploads, received, known⟩
    have more := received.trans (.of_samePoints (MemoryStore.ensure_cases rfl).2.2
      (MemoryStore.ops_ensure services.store indexer.settings.collection true) rfl)
    exact ⟨uploads, List.append_nil uploads ▸ more, known⟩
  keywordIndex field := by
    rintro services ⟨uploads, received, known⟩
    have more := received.trans (.of_samePoints (MemoryStore.ensureKeywordIndex_cases rfl).2
      (MemoryStore.ops_ensureKeywordIndex services.store indexer.settings.collection field) rfl)
    exact ⟨uploads, List.append_nil uploads ▸ more, known⟩
  delete filter := by
    rintro services ⟨uploads, received, known⟩
    have more := received.trans (.delete services.store filter)
    exact ⟨uploads, List.append_nil uploads ▸ more, known⟩

/-- **What a run stores of credentials.**  Whatever a full or an incremental run comes to, there is
a list of points that accounts for all that it uploaded, and each of them is that of a described
chunk of a file as it was read.  Its content is free of credentials.  Everything that it shows is,
if and only if the description and the annotations of the chunk are; and the description is, if the
generator never says anything that is not. -/
theorem uploads_free_iff [Walk] (indexer : Indexer σ γ) (around : Surroundings σ)
    (repository : Repository) {run : RunM σ γ Report}
    (either : run = indexer.index around repository ∨ run = indexer.reindex around repository)
    (before : Clocked (World σ γ)) :
    ∃ uploads, before.state.store.Receives indexer.settings.collection uploads
        (run.outcome before).2.state.store ∧
      ∀ point ∈ uploads, ∃ described, indexer.IsPointOf around repository point described ∧
        (∀ text, point.text? "content" = some text → Secret.IsFree text.toList) ∧
        ((∀ text, point.Shows text → Secret.IsFree text.toList) ↔
          Secret.IsFree described.description.toList ∧
            ∀ annotation ∈ described.chunk.annotations, Secret.IsFree annotation.toList) ∧
        ((∀ describer, indexer.describer = some describer → describer.IsDiscreet) →
          Secret.IsFree described.description.toList) := by
  have lists : around.Lists fun _ => True :=
    ⟨fun _ _ _ => trivial, fun _ _ _ _ _ _ _ => trivial⟩
  have keeps := indexer.requestsKeep_receives around repository before.state.store
  have kept : ∃ uploads, before.state.store.Receives indexer.settings.collection uploads
        (run.outcome before).2.state.store ∧
      ∀ point ∈ uploads, ∃ described, indexer.IsPointOf around repository point described := by
    have start : ∃ uploads, before.state.store.Receives indexer.settings.collection uploads
          before.state.store ∧
        ∀ point ∈ uploads, ∃ described, indexer.IsPointOf around repository point described :=
      ⟨[], .refl _, fun _ member => absurd member List.not_mem_nil⟩
    rcases either with rfl | rfl
    · exact keeps.index lists before start
    · exact keeps.reindex lists before start
  obtain ⟨uploads, received, known⟩ := kept
  refine ⟨uploads, received, fun point member => ?_⟩
  obtain ⟨described, isPoint⟩ := known point member
  obtain ⟨content, shown⟩ := isPoint.shows_free_iff
  exact ⟨described, isPoint, content, shown, isPoint.isFree_description⟩

theorem isDiscreet_bare {describer : Describer Unit} (same : bare.describer = some describer) :
    describer.IsDiscreet := by
  obtain rfl := Option.some.inj same
  intro prompt now generator text answered
  obtain rfl : "" = text := Except.ok.inj answered
  exact isFree_empty

/-- A run over one file makes renditions of it, and of nothing else. -/
theorem Completed.exists_rendition_oneFile {text : String}
    {after : World Unit Unit} {handled : List (Handled bare.read)}
    (completed : bare.Completed (oneFile text) ⟨"a", "/a"⟩ ((oneFile text).discoveredAt 1)
      .repository freshWorld.state after handled)
    {entry : Handled bare.read} (member : entry ∈ handled) :
    ∃ rendition : Rendition bare.read "a.md", rendition.text = text ∧
      entry.points "a" = rendition.points "a" := by
  have listed : entry.path ∈ (oneFile text).discoveredAt 1 :=
    completed.mem_files_iff.2 ⟨entry, member, rfl⟩
  obtain ⟨rendition, same, -, rfl⟩ := (completed.cameAbout entry member).exists_stored_oneFile
    (mem_discoveredAt_oneFile.1 listed)
  exact ⟨rendition, same, rfl⟩

/-- The first run over one file that has chunks stores points of it. -/
theorem exists_held_oneFile {text : String} (chunks : chunkFile bare.read text "a.md" ≠ []) :
    ∃ rendition : Rendition bare.read "a.md", rendition.text = text ∧
      ∃ point ∈ rendition.points "a",
        (((bare.index (oneFile text) ⟨"a", "/a"⟩).outcome freshWorld).2.state.store.pointsOf
          bare.settings.collection).get? point.id = some point.toPointData := by
  have accepts := acceptsSparse_freshWorld bare.settings.collection
  rcases run : (bare.index (oneFile text) ⟨"a", "/a"⟩).outcome freshWorld with ⟨result, after⟩
  rcases index_cases accepts run with ⟨-, ⟨_, -, missing⟩ | ⟨-, nothing⟩ | ⟨-, cancelled⟩⟩ |
    ⟨_, _, -, hindered, -⟩ | ⟨handled, _, _, completed, -⟩
  · cases missing
  · exact absurd nothing (discoveredAt_oneFile_ne_nil text _)
  · cases cancelled
  · exact absurd (unhindered_oneFile text) hindered
  have filled : handled ≠ [] := by
    rintro rfl
    exact discoveredAt_oneFile_ne_nil text _ completed.paths_eq.symm
  obtain ⟨entry, member⟩ := List.exists_mem_of_ne_nil handled filled
  obtain ⟨rendition, same, points⟩ := completed.exists_rendition_oneFile member
  have some : rendition.points "a" ≠ [] := by
    rw [← same] at chunks
    rw [← List.length_pos_iff, rendition.length_points]
    exact List.length_pos_iff.2 chunks
  obtain ⟨point, made⟩ := List.exists_mem_of_ne_nil _ some
  have made : point ∈ handled.flatMap (·.points "a") :=
    List.mem_flatMap.2 ⟨entry, member, points ▸ made⟩
  -- of several points with one identifier the last one is held, which is one of them
  obtain ⟨data, found⟩ := exists_get?_stored made
  obtain ⟨last, made, id, rfl⟩ := exists_of_get?_stored found
  obtain ⟨entry, member, made⟩ := List.mem_flatMap.1 made
  obtain ⟨rendition, same, points⟩ := completed.exists_rendition_oneFile member
  refine ⟨rendition, same, last, points ▸ made, ?_⟩
  have held := completed.changes.here
  simp only [held, get?_written_eq_or, id, found, Option.some_or]

/-- A token in a file is redacted where it is uploaded. -/
theorem uploads_free_iff_oneFile :
    ∃ uploads, freshWorld.state.store.Receives bare.settings.collection uploads
        ((bare.index (oneFile "token = 'sk-12345abcdef'") ⟨"a", "/a"⟩).outcome
          freshWorld).2.state.store ∧
      (∃ point ∈ uploads, point.text? "content" = some "token = '[REDACTED]'") ∧
      ∀ point ∈ uploads, ∀ text, point.text? "content" = some text ∨
        point.text? "context" = some text → Secret.IsFree text.toList := by
  obtain ⟨uploads, received, points⟩ := uploads_free_iff bare
    (oneFile "token = 'sk-12345abcdef'") ⟨"a", "/a"⟩ (.inl rfl) freshWorld
  refine ⟨uploads, received, ?_, fun point member text shown => ?_⟩
  · have chunks : (chunkFile bare.read "token = 'sk-12345abcdef'" "a.md").map FilePoints.content =
        ["token = '[REDACTED]'"] := by decide +kernel
    have some : chunkFile bare.read "token = 'sk-12345abcdef'" "a.md" ≠ [] := by
      intro none
      rw [none] at chunks
      cases chunks
    obtain ⟨rendition, same, point, made, held⟩ := exists_held_oneFile some
    rcases received.held _ _ held with old | ⟨upload, member, -, data⟩
    · cases old
    refine ⟨upload, member, ?_⟩
    obtain ⟨position, found⟩ := List.mem_iff_getElem?.1 made
    obtain ⟨described, dense, -, listed, rfl⟩ := rendition.getElem?_points "a" position found
    rw [data, FilePoints.point_content?]
    have chunk : described.chunk ∈ chunkFile bare.read "token = 'sk-12345abcdef'" "a.md" := by
      rw [← same, ← rendition.chunks_eq]
      exact List.mem_map_of_mem listed
    have content := List.mem_map_of_mem (f := FilePoints.content) chunk
    rw [chunks] at content
    rw [List.mem_singleton.1 content]
  obtain ⟨described, isPoint, content, -, description⟩ := points point member
  rcases shown with shown | shown
  · exact content text shown
  · obtain ⟨path, rendition, -, -, -, dense, rfl⟩ := isPoint
    rw [FilePoints.point_context?] at shown
    rw [← Option.some.inj shown]
    exact description fun _ => isDiscreet_bare

end Indexer

end CodeIndex
