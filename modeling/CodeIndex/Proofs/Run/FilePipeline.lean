import CodeIndex.Proofs.Run.Onward
import CodeIndex.Proofs.Run.Rendition

/-!
# What becomes of files

A run takes each file through the same steps, and every step may fail.  This module says what comes
of it: a file is stored as one rendition, or it failed, or its turn never came; and the store is
changed by the points of that rendition, or not at all.  There is nothing in between, because the
one step that writes is the last one, and writes everything or nothing.

The files of a run are taken one after the other, in an arbitrary order and in surroundings that are
arbitrary at every look.  Since each file writes once, this speaks of files that are worked on at
the same time, too: their writes happen in some order, and what they saw before is arbitrary anyway.

## Main definitions

* `Indexer.CanMake`: the renditions that an indexer can make.
* `Fate`, `Handled`: what became of a file.
* `Indexer.Unhindered`: what it takes that only unreadable files fail.

## Main statements

* `Indexer.indexFile_cases`: a file is stored completely or the store keeps its points.
* `Indexer.mapM_processFile_cases`: the same for all files of a run.
-/

namespace CodeIndex

variable {σ γ : Type}

/-! ## Which renditions can be made -/

/-- What a path holds at a look at the surroundings. -/
def Surroundings.contentAt (around : Surroundings σ) (step : Nat) (path : String) :
    Except WorkTree.ReadError String :=
  ((around.tree step).getD WorkTree.empty).read path

/-- What providers answer that go by the text and by nothing else. -/
structure Answers where
  vector : String → List Float32
  text : String → Except ProviderError String

namespace Indexer

/-- An indexer whose providers have their answers at hand. -/
def ofAnswers (read : SyntaxReader) (answers : Answers) : Indexer Unit Unit where
  settings := {}
  read
  embedder :=
    ⟨fun text => .answer (.ok (answers.vector text)),
      fun texts => .answer (.ok (texts.map answers.vector))⟩
  describer := some ⟨⟨fun prompt _ => .answer (answers.text prompt)⟩, 5000, 200⟩

variable (indexer : Indexer σ γ)

/-- The describer that is asked about the chunks of a file, if one is asked. -/
def asked? (chunks : List Chunk) : Option (Describer γ) :=
  if isSmall chunks then none else indexer.describer

/-- What a describer says about a chunk of a file at some time. -/
def descriptionOf (describer : Describer γ) (file : String) (chunk : Chunk) (clocked : Clocked γ) :
    String :=
  (describer.describe file.toList (if chunk.isHeader then [] else chunk.content.toList) chunk.path
    chunk.language clocked).1

/-- Whether an indexer can have described a chunk of a file like this. -/
def CanDescribe (file : String) (chunks : List Chunk) (described : DescribedChunk) : Prop :=
  match indexer.asked? chunks with
  | none => described.description = ""
  | some describer =>
    ∃ clocked, described.description = descriptionOf describer file described.chunk clocked

/-- **Whether an indexer can make a rendition:** its describer gave the descriptions, and its
embedder the vectors. -/
structure CanMake {path : String} (rendition : Rendition indexer.read path) : Prop where
  described : ∀ described ∈ rendition.described,
    indexer.CanDescribe rendition.text rendition.chunks described
  embedded : rendition.chunks ≠ [] → ∃ now embedder,
    (indexer.embedder.embedBatch (rendition.described.map FilePoints.embeddingText) now
      embedder).result = .ok rendition.vectors

/-- **What it takes that no step fails but the reading of files.** -/
structure Unhindered (around : Surroundings σ) (store : MemoryStore) : Prop where
  storeFailure : ∀ step, around.storeFailure step = none
  failingUpserts : store.failingUpserts = 0
  embed : ∀ text now embedder, ∃ vector,
    (indexer.embedder.embed text now embedder).result = .ok vector ∧
      (indexer.embedder.embed text now embedder).duration ≤ indexer.settings.embedTimeout
  embedBatch : ∀ texts now embedder, ∃ vectors,
    (indexer.embedder.embedBatch texts now embedder).result = .ok vectors ∧
      vectors.length = texts.length ∧
      (indexer.embedder.embedBatch texts now embedder).duration ≤ indexer.settings.embedTimeout

variable {indexer} {around : Surroundings σ}

/-- Providers that have their answers at hand hinder nothing. -/
theorem unhindered_ofAnswers (read : SyntaxReader) (answers : Answers) {around : Surroundings Unit}
    (storeFailure : ∀ step, around.storeFailure step = none) {store : MemoryStore}
    (failingUpserts : store.failingUpserts = 0) :
    (ofAnswers read answers).Unhindered around store where
  storeFailure
  failingUpserts
  embed _ _ _ := ⟨_, rfl, Nat.zero_le _⟩
  embedBatch _ _ _ := ⟨_, rfl, List.length_map _, Nat.zero_le _⟩

theorem Unhindered.of_preserves {before after : MemoryStore}
    (unhindered : indexer.Unhindered around before) (preserves : before.Preserves after) :
    indexer.Unhindered around after :=
  { unhindered with
    failingUpserts := Nat.le_zero.1 (unhindered.failingUpserts ▸ preserves.failingUpserts_le) }

/-- Whether nothing stands in the way of storing files: the collection is there, and no step is
hindered. -/
def IsClear (indexer : Indexer σ γ) (around : Surroundings σ) (store : MemoryStore) : Prop :=
  store.exists? indexer.settings.collection = true ∧ indexer.Unhindered around store

theorem IsClear.of_preserves {store later : MemoryStore} (clear : indexer.IsClear around store)
    (preserves : store.Preserves later) : indexer.IsClear around later :=
  ⟨preserves.stays _ clear.1, clear.2.of_preserves preserves⟩

/-! ## The steps of one file -/

variable {before after : Clocked (World σ γ)}

/-- Describing a chunk never fails, and changes the generator alone. -/
theorem describeChunk_outcome (describer : Describer γ) (file : String) (chunk : Chunk)
    (before : Clocked (World σ γ)) :
    ∃ now generator, (describeChunk describer file chunk).outcome before =
      (.ok ⟨chunk, descriptionOf describer file chunk ⟨before.now, before.state.generator⟩⟩,
        ⟨now, { before.state with generator }⟩) :=
  ⟨_, _, rfl⟩

theorem mapM_describeChunk_outcome (describer : Describer γ) (file : String) (chunks : List Chunk)
    (before : Clocked (World σ γ)) :
    ∃ described after, (chunks.mapM (describeChunk describer file)).outcome before =
        (.ok described, after) ∧
      after.state.store = before.state.store ∧ described.map (·.chunk) = chunks ∧
      ∀ entry ∈ described, ∃ clocked,
        entry.description = descriptionOf describer file entry.chunk clocked := by
  induction chunks generalizing before with
  | nil => exact ⟨[], before, rfl, rfl, rfl, fun _ member => by cases member⟩
  | cons chunk chunks ih =>
      obtain ⟨now, generator, first⟩ := describeChunk_outcome describer file chunk before
      obtain ⟨described, after, rest, store, map_eq, origin⟩ :=
        ih ⟨now, { before.state with generator }⟩
      refine ⟨⟨chunk, descriptionOf describer file chunk ⟨before.now, before.state.generator⟩⟩ ::
        described, after, ?_, store, ?_, ?_⟩
      · rw [List.mapM_cons, RunM.outcome_bind_of_ok first, RunM.outcome_bind_of_ok rest,
          RunM.outcome_pure]
      · rw [List.map_cons, map_eq]
      · intro entry member
        rcases List.mem_cons.1 member with rfl | member
        · exact ⟨_, rfl⟩
        · exact origin entry member

theorem describeChunks_cases {file : String} {chunks : List Chunk}
    {result : Except RunError (List DescribedChunk)}
    (run : (indexer.describeChunks file chunks).outcome before = (result, after)) :
    ∃ described, result = .ok described ∧ after.state.store = before.state.store ∧
      described.map (·.chunk) = chunks ∧
      ∀ entry ∈ described, indexer.CanDescribe file chunks entry := by
  have plain : (chunks.map fun chunk => (⟨chunk, ""⟩ : DescribedChunk)).map (·.chunk) = chunks := by
    rw [List.map_map]
    exact List.map_id chunks
  unfold describeChunks at run
  unfold CanDescribe asked?
  cases asked : indexer.describer with
  | none =>
      simp only [asked, RunM.outcome_pure] at run
      obtain ⟨rfl, rfl⟩ := Prod.mk.inj run
      refine ⟨_, rfl, rfl, plain, fun entry member => ?_⟩
      obtain ⟨chunk, -, rfl⟩ := List.mem_map.1 member
      simp
  | some describer =>
      by_cases small : isSmall chunks
      · simp only [asked, small, if_true, RunM.outcome_pure] at run
        obtain ⟨rfl, rfl⟩ := Prod.mk.inj run
        refine ⟨_, rfl, rfl, plain, fun entry member => ?_⟩
        obtain ⟨chunk, -, rfl⟩ := List.mem_map.1 member
        simp [small]
      · obtain ⟨described, after', outcome, store, map_eq, origin⟩ :=
          mapM_describeChunk_outcome describer file chunks before
        simp only [asked, small, Bool.false_eq_true, if_false] at run
        obtain ⟨rfl, rfl⟩ := Prod.mk.inj (outcome.symm.trans run)
        refine ⟨described, rfl, store, map_eq, ?_⟩
        simpa [small] using origin

theorem readFile_cases {path : String} {result : Except RunError String}
    (run : (readFile around path).outcome before = (result, after)) :
    after.state.store = before.state.store ∧
      ((∃ e detail, result = .error e ∧
          around.contentAt before.state.step path = .error detail) ∨
        ∃ text, result = .ok text ∧ around.contentAt before.state.step path = .ok text) := by
  rw [readFile, RunM.outcome_see_bind] at run
  unfold Surroundings.contentAt
  split at run
  · rename_i text read
    obtain ⟨rfl, rfl⟩ := Prod.mk.inj run
    exact ⟨rfl, .inr ⟨text, rfl, read⟩⟩
  · rename_i detail read
    obtain ⟨rfl, rfl⟩ := Prod.mk.inj run
    exact ⟨rfl, .inl ⟨_, detail, rfl, read⟩⟩

/-- An upload that is tried several times writes all points or none. -/
theorem retried_upsert_cases {name : String} {points : List Point} {policy : RetryPolicy}
    {operation : String} (accepts : before.state.store.AcceptsSparse name)
    {result : Except RunError Unit}
    (run : (retried policy operation
      (storeRequest around fun store => store.upsert name points)).outcome before =
        (result, after)) :
    (∃ e, result = .error e ∧ before.state.store.SamePoints after.state.store ∧
        (before.state.store.exists? name = true →
          ¬indexer.Unhindered around before.state.store)) ∨
      result = .ok () ∧
        before.state.store.Changes name (written · points) after.state.store := by
  rcases retried_storeRequest_cases around (fun store => before.state.store.SamePoints store)
      (fun store e after kept made => by
        rcases MemoryStore.upsert_cases (kept.acceptsSparse _ accepts) made with
          ⟨-, -, same, -⟩ | ⟨impossible, -⟩
        · exact kept.trans same
        · cases impossible)
      (.refl _) run with
    ⟨e, rfl, kept, blame⟩ | ⟨_, store, rfl, kept, made⟩
  · refine .inl ⟨e, rfl, kept, fun there unhindered => ?_⟩
    rcases blame with ⟨step, e, failure⟩ | ⟨store, e, _, kept, made⟩
    · rw [unhindered.storeFailure step] at failure
      cases failure
    · rcases MemoryStore.upsert_cases (kept.acceptsSparse _ accepts) made with
        ⟨-, -, -, due | missing⟩ | ⟨impossible, -⟩
      · exact due (unhindered.of_preserves kept.toPreserves).failingUpserts
      · rw [kept.stays _ there] at missing
        cases missing
      · cases impossible
  · rcases MemoryStore.upsert_cases (kept.acceptsSparse _ accepts) made with
      ⟨_, impossible, -⟩ | ⟨-, changes⟩
    · cases impossible
    · exact .inr ⟨rfl, kept.trans_changes changes⟩

/-- The steps that embed and store: the points are written, or the store keeps those it has. -/
theorem storeChunks_cases {repository : Repository} {path : String}
    {described : List DescribedChunk}
    (accepts : before.state.store.AcceptsSparse indexer.settings.collection)
    {result : Except RunError Unit}
    (run : (indexer.storeChunks around repository path described).outcome before =
      (result, after)) :
    (∃ e, result = .error e ∧ before.state.store.SamePoints after.state.store ∧
        ¬indexer.IsClear around before.state.store) ∨
      ∃ vectors, result = .ok () ∧ vectors.length = described.length ∧
        (∃ now embedder, (indexer.embedder.embedBatch
          (described.map FilePoints.embeddingText) now embedder).result = .ok vectors) ∧
        before.state.store.Changes indexer.settings.collection
          (written · (FilePoints.points repository.name path described vectors))
          after.state.store := by
  rcases RunM.of_outcome_bind run with ⟨e, embedding, rfl⟩ | ⟨vectors, middle, embedding, rest⟩
  · obtain ⟨alone, now, embedder, answer⟩ := retried_embedRequest_cases embedding
    have same : after.state.store = before.state.store := by rw [alone]
    refine .inl ⟨e, rfl, same ▸ .refl _, fun ⟨_, unhindered⟩ => ?_⟩
    -- an unhindered provider answers any request in time, so also the one that was given up
    obtain ⟨vectors, answered, -, inTime⟩ :=
      unhindered.embedBatch (described.map FilePoints.embeddingText) now embedder
    rcases answer with ⟨-, -, late | ⟨cause, failed⟩⟩ | ⟨_, impossible, -⟩
    · exact absurd inTime (Nat.not_le_of_lt late)
    · rw [answered] at failed
      cases failed
    · cases impossible
  · obtain ⟨alone, now, embedder, answer⟩ := retried_embedRequest_cases embedding
    have same : middle.state.store = before.state.store := by rw [alone]
    have answered : (indexer.embedder.embedBatch (described.map FilePoints.embeddingText) now
        embedder).result = .ok vectors := by
      rcases answer with ⟨_, impossible, -⟩ | ⟨_, same, answered⟩
      · cases impossible
      · cases same
        exact answered
    by_cases mismatch : vectors.length = described.length
    · simp only [mismatch, bne_self_eq_false, Bool.false_eq_true, if_false] at rest
      rcases retried_upsert_cases (same ▸ accepts) rest with
        ⟨e, rfl, kept, blame⟩ | ⟨rfl, changes⟩
      · exact .inl ⟨e, rfl, same ▸ kept, fun clear => blame (same ▸ clear.1) (same ▸ clear.2)⟩
      · exact .inr ⟨vectors, rfl, mismatch, ⟨now, embedder, answered⟩, same ▸ changes⟩
    · -- a batch of another length is refused before anything is uploaded
      have failed : (throw (RunError.provider (.batchMismatch described.length vectors.length)) :
          RunM σ γ Unit).outcome middle = (result, after) := by
        simpa [mismatch, RunM.outcome_bind_of_error (RunM.outcome_throw _ _)] using rest
      obtain ⟨rfl, rfl⟩ := Prod.mk.inj failed
      refine .inl ⟨_, rfl, same ▸ .refl _, fun ⟨_, unhindered⟩ => ?_⟩
      obtain ⟨others, answered', length, -⟩ :=
        unhindered.embedBatch (described.map FilePoints.embeddingText) now embedder
      rw [answered] at answered'
      cases answered'
      simp [length] at mismatch

/-- **A file is stored completely, or the store keeps its points.** -/
theorem indexFile_cases {repository : Repository} {path : String}
    (accepts : before.state.store.AcceptsSparse indexer.settings.collection)
    {result : Except RunError (Nat × Nat)}
    (run : (indexer.indexFile around repository path).outcome before = (result, after)) :
    (∃ e, result = .error e ∧ before.state.store.SamePoints after.state.store ∧
        (indexer.IsClear around before.state.store →
          ∃ detail, around.contentAt before.state.step path = .error detail)) ∨
      ∃ rendition : Rendition indexer.read path,
        result = .ok (rendition.chunks.length, rendition.undescribed) ∧
        around.contentAt before.state.step path = .ok rendition.text ∧
        indexer.CanMake rendition ∧
        before.state.store.Changes indexer.settings.collection
          (written · (rendition.points repository.name)) after.state.store := by
  rcases RunM.of_outcome_bind run with ⟨e, reading, rfl⟩ | ⟨text, middle, reading, rest⟩
  · obtain ⟨same, ⟨_, detail, -, unreadable⟩ | ⟨_, impossible, -⟩⟩ := readFile_cases reading
    · exact .inl ⟨e, rfl, same ▸ .refl _, fun _ => ⟨detail, unreadable⟩⟩
    · cases impossible
  obtain ⟨same, ⟨_, _, impossible, -⟩ | ⟨_, success, content⟩⟩ := readFile_cases reading
  · cases impossible
  cases success
  by_cases none : chunkFile indexer.read text path = []
  · -- a file without chunks is done, with a rendition that has none
    simp only [none, List.isEmpty_nil, if_true, RunM.outcome_pure] at rest
    obtain ⟨rfl, rfl⟩ := Prod.mk.inj rest
    let rendition : Rendition indexer.read path := ⟨text, [], [], none.symm, rfl⟩
    have chunks : rendition.chunks = [] := none
    refine .inr ⟨rendition, by rw [chunks]; rfl, content,
      ⟨fun _ member => absurd member List.not_mem_nil, fun some => absurd chunks some⟩, ?_⟩
    rw [same]
    exact (MemoryStore.SamePoints.refl _).changes _
  · simp only [List.isEmpty_iff, none, if_false] at rest
    obtain ⟨described, described', describing, rest⟩ :=
      (RunM.of_outcome_bind rest).resolve_left fun ⟨_, failed, _⟩ => by
        obtain ⟨_, impossible, -⟩ := describeChunks_cases failed
        cases impossible
    obtain ⟨_, success, same', map_eq, origin⟩ := describeChunks_cases describing
    cases success
    have store : described'.state.store = before.state.store := same'.trans same
    rcases RunM.of_outcome_bind rest with ⟨e, storing, rfl⟩ | ⟨_, stored', storing, rest⟩
    · rcases storeChunks_cases (store ▸ accepts) storing with
        ⟨_, -, kept, blame⟩ | ⟨_, impossible, -⟩
      · exact .inl ⟨e, rfl, store ▸ kept, fun clear => absurd (store ▸ clear) blame⟩
      · cases impossible
    · rcases storeChunks_cases (store ▸ accepts) storing with
        ⟨_, impossible, -⟩ | ⟨vectors, -, complete, embedded, changes⟩
      · cases impossible
      let rendition : Rendition indexer.read path := ⟨text, described, vectors, map_eq, complete⟩
      obtain ⟨rfl, rfl⟩ := Prod.mk.inj rest
      refine .inr ⟨rendition, ?_, content, ⟨origin, fun _ => embedded⟩, store ▸ changes⟩
      rw [← rendition.length_described]
      rfl

end Indexer

/-! ## The fate of a file -/

/-- What becomes of a file in a run. -/
inductive Fate (read : SyntaxReader) (path : String) where
  | stored (rendition : Rendition read path)
  | failed (error : RunError)
  /-- The run was cancelled before its turn came. -/
  | notStarted

namespace Fate

variable {read : SyntaxReader} {path : String}

/-- Whether a file was stored. -/
def isStored : Fate read path → Bool
  | .stored _ => true
  | .failed _ => false
  | .notStarted => false

theorem exists_of_isStored {fate : Fate read path} (stored : fate.isStored = true) :
    ∃ rendition, fate = .stored rendition := by
  cases fate with
  | stored rendition => exact ⟨rendition, rfl⟩
  | failed error => cases stored
  | notStarted => cases stored

/-- Whether a file failed. -/
def isFailed : Fate read path → Bool
  | .stored _ => false
  | .failed _ => true
  | .notStarted => false

/-- Whether the turn of a file never came. -/
def isNotStarted : Fate read path → Bool
  | .stored _ => false
  | .failed _ => false
  | .notStarted => true

/-- The chunks that were stored without a description. -/
def undescribed : Fate read path → List DescribedChunk
  | .stored rendition => rendition.described.filter (·.description.isEmpty)
  | .failed _ => []
  | .notStarted => []

/-- What a report says about a file that failed. -/
def complaint? : Fate read path → Option String
  | .stored _ => none
  | .failed error => some (path ++ ": " ++ error.message)
  | .notStarted => none

end Fate

/-- A file of a run with what became of it. -/
structure Handled (read : SyntaxReader) where
  path : String
  fate : Fate read path

namespace Handled

variable {read : SyntaxReader}

/-- What a report says about a file. -/
def outcome (handled : Handled read) : FileOutcome :=
  match handled.fate with
  | .stored rendition => .indexed rendition.chunks.length rendition.undescribed
  | .failed error => .skipped handled.path error.message
  | .notStarted => .notStarted

/-- The chunks of a file that was stored. -/
def chunks (handled : Handled read) : List Chunk :=
  match handled.fate with
  | .stored rendition => rendition.chunks
  | _ => []

/-- The points of a file that was stored. -/
def points (repository : String) (handled : Handled read) : List Point :=
  match handled.fate with
  | .stored rendition => rendition.points repository
  | _ => []

theorem points_of_stored {handled : Handled read} {rendition : Rendition read handled.path}
    (stored : handled.fate = .stored rendition) (repository : String) :
    handled.points repository = rendition.points repository := by
  rw [points, stored]

/-- A point belongs to a file that was stored, and names its repository and its path. -/
theorem of_mem_points {entry : Handled read} {name : String}
    {point : Point} (member : point ∈ entry.points name) :
    entry.fate.isStored = true ∧ point.repository? = some name ∧ point.path? = some entry.path := by
  obtain ⟨path, fate⟩ := entry
  cases fate with
  | stored rendition => exact ⟨rfl, rendition.repository?_of_mem_points name member⟩
  | failed error => cases member
  | notStarted => cases member

/-- Only files that were stored have points. -/
theorem flatMap_points_filter (handled : List (Handled read)) (name : String) :
    (handled.filter (·.fate.isStored)).flatMap (·.points name) =
      handled.flatMap (·.points name) := by
  induction handled with
  | nil => rfl
  | cons entry handled ih =>
      obtain ⟨path, fate⟩ := entry
      cases fate with
      | stored rendition =>
          rw [List.filter_cons_of_pos rfl, List.flatMap_cons, List.flatMap_cons, ih]
      | failed error =>
          rw [List.filter_cons_of_neg (by simp [Fate.isStored]), ih]
          rfl
      | notStarted =>
          rw [List.filter_cons_of_neg (by simp [Fate.isStored]), ih]
          rfl

end Handled

namespace Indexer

variable {indexer : Indexer σ γ} {around : Surroundings σ} {before after : Clocked (World σ γ)}

/-- **Whether the fate of a file can have come about** between two looks at the surroundings.  What
was stored is made of what the file held at one look; only an unreadable file fails in a `calm` run,
whatever calm means there. -/
def CameAbout (indexer : Indexer σ γ) (around : Surroundings σ) (calm : Prop) (first last : Nat)
    (handled : Handled indexer.read) : Prop :=
  match handled.fate with
  | .stored rendition => indexer.CanMake rendition ∧
      ∃ step, first ≤ step ∧ step < last ∧
        around.contentAt step handled.path = .ok rendition.text
  | .failed _ => calm → ∃ step, first ≤ step ∧ step < last ∧
      ∃ detail, around.contentAt step handled.path = .error detail
  | .notStarted => ∃ step embedder, first ≤ step ∧ step < last ∧
      around.isCancelled step embedder = true

theorem CameAbout.mono {calm calm' : Prop} {first last first' last' : Nat}
    {handled : Handled indexer.read}
    (cameAbout : indexer.CameAbout around calm' first' last' handled)
    (calmer : calm → calm') (le : first ≤ first') (le' : last' ≤ last) :
    indexer.CameAbout around calm first last handled := by
  obtain ⟨path, fate⟩ := handled
  cases fate with
  | stored rendition =>
      obtain ⟨canMake, step, lower, upper, content⟩ := cameAbout
      exact ⟨canMake, step, le.trans lower, upper.trans_le le', content⟩
  | failed error =>
      intro calm
      obtain ⟨step, lower, upper, unreadable⟩ := cameAbout (calmer calm)
      exact ⟨step, le.trans lower, upper.trans_le le', unreadable⟩
  | notStarted =>
      obtain ⟨step, embedder, lower, upper, cancelled⟩ := cameAbout
      exact ⟨step, embedder, le.trans lower, upper.trans_le le', cancelled⟩

/-- Asking whether to stop is a look like any other. -/
theorem outcome_isCancelled_bind {α : Type} (around : Surroundings σ) (next : Bool → RunM σ γ α)
    (before : Clocked (World σ γ)) :
    (isCancelled around >>= next).outcome before =
      (next (around.isCancelled before.state.step before.state.embedder)).outcome
        (RunM.looked before) :=
  RunM.outcome_bind_of_ok rfl

/-- A file takes its turn and is stored, fails, or is not started; it never makes the run fail. -/
theorem processFile_cases {repository : Repository} {path : String}
    (accepts : before.state.store.AcceptsSparse indexer.settings.collection)
    {result : Except RunError FileOutcome}
    (run : (indexer.processFile around repository path).outcome before = (result, after)) :
    ∃ fate, result = .ok (⟨path, fate⟩ : Handled indexer.read).outcome ∧
      indexer.CameAbout around (indexer.IsClear around before.state.store) before.state.step
        after.state.step ⟨path, fate⟩ ∧
      before.state.store.Changes indexer.settings.collection
        (written · (Handled.points repository.name ⟨path, fate⟩)) after.state.store := by
  rw [processFile, outcome_isCancelled_bind] at run
  cases cancelled : around.isCancelled before.state.step before.state.embedder with
  | true =>
      simp only [cancelled, if_true, RunM.outcome_pure] at run
      obtain ⟨rfl, rfl⟩ := Prod.mk.inj run
      exact ⟨.notStarted, rfl, ⟨_, _, Nat.le_refl _, Nat.lt_succ_self _, cancelled⟩,
        (MemoryStore.SamePoints.refl _).changes _⟩
  | false =>
      simp only [cancelled, Bool.false_eq_true, if_false, RunM.outcome_caught_bind] at run
      rcases file : (indexer.indexFile around repository path).outcome (RunM.looked before) with
        ⟨answer, stored'⟩
      have later : before.state.step + 1 < stored'.state.step :=
        (advances_indexFile indexer around repository path).step_lt file
      rw [file] at run
      have accepts : (RunM.looked before).state.store.AcceptsSparse indexer.settings.collection :=
        accepts
      rcases indexFile_cases accepts file with
        ⟨e, rfl, kept, blame⟩ | ⟨rendition, rfl, content, canMake, changes⟩
      · obtain ⟨rfl, rfl⟩ := Prod.mk.inj run
        refine ⟨.failed e, rfl, fun clear => ?_, kept.changes _⟩
        exact ⟨_, Nat.le_succ _, later, blame clear⟩
      · obtain ⟨rfl, rfl⟩ := Prod.mk.inj run
        exact ⟨.stored rendition, rfl, ⟨canMake, _, Nat.le_succ _, later, content⟩, changes⟩

/-- **What becomes of the files of a run:** each has a fate, and the store changes by the points of
those that were stored, and by nothing else. -/
theorem mapM_processFile_cases {repository : Repository} {files : List String}
    (accepts : before.state.store.AcceptsSparse indexer.settings.collection)
    {result : Except RunError (List FileOutcome)}
    (run : (files.mapM (indexer.processFile around repository)).outcome before =
      (result, after)) :
    ∃ handled : List (Handled indexer.read), handled.map (·.path) = files ∧
      result = .ok (handled.map (·.outcome)) ∧
      (∀ entry ∈ handled, indexer.CameAbout around (indexer.IsClear around before.state.store)
        before.state.step after.state.step entry) ∧
      before.state.store.Changes indexer.settings.collection
        (written · (handled.flatMap (·.points repository.name))) after.state.store := by
  induction files generalizing before after result with
  | nil =>
      obtain ⟨rfl, rfl⟩ := Prod.mk.inj run
      exact ⟨[], rfl, rfl, fun _ member => absurd member List.not_mem_nil,
        (MemoryStore.SamePoints.refl _).changes _⟩
  | cons path files ih =>
      rw [List.mapM_cons] at run
      obtain ⟨outcome, middle, first, rest⟩ :=
        (RunM.of_outcome_bind run).resolve_left fun ⟨_, failed, _⟩ => by
          obtain ⟨_, impossible, -⟩ := processFile_cases accepts failed
          cases impossible
      obtain ⟨fate, success, cameAbout, changes⟩ := processFile_cases accepts first
      cases success
      -- what the first file has written takes nothing away that the others need
      have accepts' := changes.acceptsSparse _ accepts
      obtain ⟨outcomes, last, others, rest⟩ :=
        (RunM.of_outcome_bind rest).resolve_left fun ⟨_, failed, _⟩ => by
          obtain ⟨_, -, impossible, -⟩ := ih accepts' failed
          cases impossible
      obtain ⟨handled, paths, success, cameAbout', changes'⟩ := ih accepts' others
      cases success
      obtain ⟨rfl, rfl⟩ := Prod.mk.inj rest
      have step := ((isOnward_processFile indexer around repository path).of_outcome first).step_le
      have step' := ((RunM.isOnward_mapM
        (isOnward_processFile indexer around repository) files).of_outcome others).step_le
      refine ⟨⟨path, fate⟩ :: handled, by rw [List.map_cons, paths], rfl,
        fun entry member => ?_, ?_⟩
      · rcases List.mem_cons.1 member with rfl | member
        · exact cameAbout.mono id (Nat.le_refl _) step'
        · exact (cameAbout' entry member).mono (·.of_preserves changes.toPreserves) step
            (Nat.le_refl _)
      · refine (changes.trans changes').congr ?_
        rw [List.flatMap_cons, written_append]
        rfl

end Indexer

end CodeIndex
