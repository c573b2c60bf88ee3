import CodeIndex.Proofs.Run.IncrementalRun

/-!
# The requests of a run

Whatever a run does to the store and to the providers, it does by requests, and there are few kinds
of them: it embeds one fixed text to see whether the embedder works, it asks for descriptions of
chunks, it embeds the texts of described chunks, it uploads the points of a file, and it prepares
the collection and removes points.  `Indexer.RequestsKeep` says of a property of the store and the
providers that each of these requests keeps it, with what is known about the request when it is
made: the path is one that the surroundings listed, the chunks are those of the file that was read
there, and the points are those of a rendition of it.

What each request keeps, the run keeps, wherever it stops.  A request that is given up counts as
well; it keeps the property in the state that it leaves behind.

## Main statements

* `Indexer.RequestsKeep.index`, `Indexer.RequestsKeep.reindex`
-/

namespace CodeIndex

variable {σ γ α β : Type}

/-- Whether a computation keeps a property of the services, with whatever result. -/
def RunM.Keeps (Kept : Services σ γ → Prop) (computation : RunM σ γ α) : Prop :=
  ∀ before, Kept before.state.toServices → Kept (computation.outcome before).2.state.toServices

namespace RunM

variable {Kept : Services σ γ → Prop} {computation : RunM σ γ α} {next : α → RunM σ γ β}

theorem Keeps.of_outcome (keeps : computation.Keeps Kept) {before after : Clocked (World σ γ)}
    {result : Except RunError α} (kept : Kept before.state.toServices)
    (run : computation.outcome before = (result, after)) : Kept after.state.toServices := by
  have := keeps before kept
  rwa [run] at this

theorem keeps_pure (a : α) : (pure a : RunM σ γ α).Keeps Kept := fun _ kept => kept

theorem keeps_throw (e : RunError) : (throw e : RunM σ γ α).Keeps Kept := fun _ kept => kept

theorem keeps_see (view : Nat → α) : (see view : RunM σ γ α).Keeps Kept := fun _ kept => kept

theorem keeps_liftM (answer : Except RunError α) : (liftM answer : RunM σ γ α).Keeps Kept := by
  intro before kept
  rwa [outcome_liftM]

/-- The second of two steps may rely on what the first one came to. -/
theorem Keeps.bind (first : computation.Keeps Kept)
    (rest : ∀ {before a after}, computation.outcome before = (.ok a, after) →
      (next a).Keeps Kept) : (computation >>= next).Keeps Kept := by
  intro before kept
  rcases whole : (computation >>= next).outcome before with ⟨result, after⟩
  rcases of_outcome_bind whole with ⟨e, failed, -⟩ | ⟨a, middle, made, further⟩
  · exact first.of_outcome kept failed
  · exact (rest made).of_outcome (first.of_outcome kept made) further

theorem Keeps.caught (keeps : computation.Keeps Kept) : computation.caught.Keeps Kept :=
  fun before kept => keeps before kept

theorem keeps_mapM {f : α → RunM σ γ β} {list : List α} (each : ∀ a ∈ list, (f a).Keeps Kept) :
    (list.mapM f).Keeps Kept := by
  induction list with
  | nil => exact keeps_pure []
  | cons a list ih =>
      rw [List.mapM_cons]
      exact (each a List.mem_cons_self).bind fun _ =>
        (ih fun b member => each b (List.mem_cons_of_mem _ member)).bind fun _ => keeps_pure _

theorem keeps_forM {f : α → RunM σ γ PUnit} (each : ∀ a, (f a).Keeps Kept) (list : List α) :
    (list.forM f).Keeps Kept := by
  induction list with
  | nil => exact keeps_pure PUnit.unit
  | cons a list ih => exact (each a).bind fun _ => ih

end RunM

/-! ## What requests keep -/

namespace Services

/-- Whether a request to the embedder keeps a property of the services. -/
def KeptByEmbedding (Kept : Services σ γ → Prop) (request : Request σ α) : Prop :=
  ∀ services : Services σ γ, request.Keeps fun embedder => Kept { services with embedder }

/-- Whether a request to the generator keeps a property of the services. -/
def KeptByGenerating (Kept : Services σ γ → Prop) (request : Request γ α) : Prop :=
  ∀ services : Services σ γ, request.Keeps fun generator => Kept { services with generator }

/-- Whether a store operation keeps a property of the services. -/
def KeptByStoring (Kept : Services σ γ → Prop) (operation : MemoryStore → MemoryStore.Answer α) :
    Prop :=
  ∀ services, Kept services → Kept { services with store := (operation services.store).2 }

end Services

open Services

/-- Whether all paths that a run can be about have a property: those that discovery finds, and those
that have changed and are eligible. -/
structure Surroundings.Lists [Walk] (around : Surroundings σ) (Listed : String → Prop) : Prop where
  discovered : ∀ step, ∀ path ∈ around.discoveredAt step, Listed path
  eligible : ∀ step step' since changes, around.changes step since = .ok changes →
    ∀ path ∈ around.eligibleAt step' changes.changed, Listed path

namespace Indexer

/-- **Whether every request that a run can make keeps a property of the services.** -/
structure RequestsKeep (indexer : Indexer σ γ) (around : Surroundings σ) (repository : Repository)
    (Listed : String → Prop) (Kept : Services σ γ → Prop) : Prop where
  probe : KeptByEmbedding Kept (indexer.embedder.embed "probe")
  describe : ∀ describer, indexer.describer = some describer → ∀ path, Listed path →
    ∀ file chunk language, KeptByGenerating Kept
      (describer.generator.generate (Describer.prompt file chunk path language)
        (.deterministic describer.maxTokens))
  embed : ∀ path, Listed path → Path.asksForDirectory path.toList = false →
    ∀ (text : String) (described : List DescribedChunk),
      described.map (·.chunk) = chunkFile indexer.read text path →
      KeptByEmbedding Kept
        (indexer.embedder.embedBatch (described.map FilePoints.embeddingText))
  upload : ∀ path, Listed path → ∀ rendition : Rendition indexer.read path,
    indexer.CanMake rendition → (∃ step, around.contentAt step path = .ok rendition.text) →
      KeptByStoring Kept fun store =>
        store.upsert indexer.settings.collection (rendition.points repository.name)
  ensure : KeptByStoring Kept (·.ensure indexer.settings.collection true)
  keywordIndex : ∀ field,
    KeptByStoring Kept (·.ensureKeywordIndex indexer.settings.collection field)
  delete : ∀ filter, KeptByStoring Kept (·.delete indexer.settings.collection filter)

open RunM

variable {Kept : Services σ γ → Prop} {around : Surroundings σ}

theorem keeps_embed {policy : RetryPolicy} {name : String}
    {request : Request σ (Except ProviderError α)} (keeps : KeptByEmbedding Kept request) :
    (retried policy name (embedRequest request) : RunM σ γ α).Keeps Kept := by
  have kept : (embedRequest request : Request (World σ γ) _).Keeps fun world =>
      Kept world.toServices :=
    fun now world kept => keeps world.toServices now world.embedder kept
  exact fun before start => RetryPolicy.keeps_retry kept start

theorem keeps_storeRequest {operation : MemoryStore → MemoryStore.Answer α}
    (keeps : KeptByStoring Kept operation) :
    (storeRequest around operation : Request (World σ γ) (Except RunError α)).Keeps fun world =>
      Kept world.toServices := by
  intro now world kept
  unfold storeRequest
  cases around.storeFailure world.step with
  | some e => exact ⟨kept, fun _ => kept⟩
  | none => exact ⟨keeps world.toServices kept, fun _ => keeps world.toServices kept⟩

theorem keeps_retried_store {policy : RetryPolicy} {name : String}
    {operation : MemoryStore → MemoryStore.Answer α} (keeps : KeptByStoring Kept operation) :
    (retried policy name (storeRequest around operation) : RunM σ γ α).Keeps Kept :=
  fun _ start => RetryPolicy.keeps_retry (keeps_storeRequest keeps) start

theorem keeps_storeOnce {operation : MemoryStore → MemoryStore.Answer α}
    (keeps : KeptByStoring Kept operation) :
    (storeOnce around operation : RunM σ γ α).Keeps Kept :=
  fun before start => (keeps_storeRequest keeps before.now before.state start).1

/-- A description is asked for once, or not at all. -/
theorem keeps_describeChunk {describer : Describer γ} {file : String} {chunk : Chunk}
    (keeps : ∀ file text language, KeptByGenerating Kept
      (describer.generator.generate (Describer.prompt file text chunk.path language)
        (.deterministic describer.maxTokens))) :
    (describeChunk describer file chunk : RunM σ γ DescribedChunk).Keeps Kept := by
  intro before start
  have asked : ∀ text : List Char,
      Kept { before.state.toServices with generator :=
        (describer.describe file.toList text chunk.path chunk.language
          ⟨before.now, before.state.generator⟩).2.state } := by
    intro text
    have further := Request.Keeps.runWithin
      (keeps file.toList text chunk.language before.state.toServices) describer.timeout
      ⟨before.now, before.state.generator⟩ start
    unfold Describer.describe
    split
    · exact start
    · dsimp only
      split <;> rwa [‹Request.runWithin _ _ _ = _›] at further
  exact asked _

/-! ## What the parts of a run keep -/

/-- A file that was read is not a directory. -/
theorem asksForDirectory_of_read {tree : WorkTree} {path text : String}
    (read : tree.read path = .ok text) : Path.asksForDirectory path.toList = false := by
  unfold WorkTree.read at read
  split at read
  · cases read
  · next place resolved =>
    unfold WorkTree.resolve at resolved
    split at resolved
    · cases resolved
    · split at resolved
      · cases resolved
      · split at resolved
        · cases resolved
        · next found _ there =>
          obtain rfl := Except.ok.inj resolved
          rw [Bool.and_eq_true, not_and, Bool.not_eq_true] at there
          by_contra asks
          have directory := there ((Bool.not_eq_false _).mp asks)
          rw [bne_eq_false_iff_eq] at directory
          rw [directory] at read
          cases read

namespace RequestsKeep

variable {indexer : Indexer σ γ} {repository : Repository} {Listed : String → Prop}
variable (keeps : indexer.RequestsKeep around repository Listed Kept)

include keeps

theorem prepare : (indexer.prepare around).Keeps Kept :=
  (keeps_embed keeps.probe).bind fun _ => (keeps_storeOnce keeps.ensure).bind fun _ =>
    keeps_forM (fun field => keeps_storeOnce (keeps.keywordIndex field)) _

theorem purge (scope : PurgeScope) : (indexer.purge around repository scope).Keeps Kept :=
  keeps_forM (fun filter => keeps_retried_store (keeps.delete filter)) _

theorem makeRoom (files : List String) (scope : PurgeScope) :
    (indexer.makeRoom around repository files scope).Keeps Kept := by
  refine RunM.Keeps.bind ?_ fun _ => ?_
  · unfold isReady
    split
    · exact keeps_storeOnce fun _ start => start
    · exact keeps.prepare.bind fun _ => keeps_pure true
  · split
    · exact keeps.purge scope
    · exact keeps_pure _

variable {path : String} (listed : Listed path)

include listed

theorem describeChunks (text : String) {chunks : List Chunk}
    (same : ∀ chunk ∈ chunks, chunk.path = path) :
    (indexer.describeChunks text chunks).Keeps Kept := by
  unfold Indexer.describeChunks
  split
  · next describer known =>
    split
    · exact keeps_pure _
    · refine keeps_mapM fun chunk member => keeps_describeChunk ?_
      rw [same chunk member]
      exact keeps.describe describer known path listed
  · exact keeps_pure _

theorem storeChunks {step : Nat} {text : String} (content : around.contentAt step path = .ok text)
    {described : List DescribedChunk}
    (chunks : described.map (·.chunk) = chunkFile indexer.read text path)
    (origin : ∀ entry ∈ described,
      indexer.CanDescribe text (chunkFile indexer.read text path) entry) :
    (indexer.storeChunks around repository path described).Keeps Kept := by
  have file := asksForDirectory_of_read content
  refine (keeps_embed (keeps.embed path listed file text described chunks)).bind
    fun {_ vectors _} embedded => ?_
  dsimp only
  split
  · exact (keeps_throw _).bind fun impossible => by cases impossible
  · next complete =>
    -- what is uploaded is a rendition of the file
    rw [bne_iff_ne, ne_eq, not_not] at complete
    obtain ⟨-, now, embedder, ⟨_, impossible, -⟩ | ⟨_, success, answered⟩⟩ :=
      retried_embedRequest_cases embedded
    · cases impossible
    cases success
    let rendition : Rendition indexer.read path := ⟨text, described, vectors, chunks, complete⟩
    have made : indexer.CanMake rendition := ⟨origin, fun _ => ⟨now, embedder, answered⟩⟩
    exact keeps_retried_store (keeps.upload path listed rendition made ⟨step, content⟩)

theorem indexFile : (indexer.indexFile around repository path).Keeps Kept := by
  have reading : (readFile around path : RunM σ γ String).Keeps Kept := by
    refine (keeps_see _).bind fun {_ tree _} _ => ?_
    split
    · exact keeps_pure _
    · exact keeps_throw _
  refine reading.bind fun {_ text _} read => ?_
  obtain ⟨-, ⟨_, _, impossible, -⟩ | ⟨_, success, content⟩⟩ := readFile_cases read
  · cases impossible
  cases success
  dsimp only
  split
  · exact keeps_pure _
  · refine (keeps.describeChunks listed text fun _ => path_of_mem_chunkFile).bind
      fun {_ described _} describing => ?_
    obtain ⟨_, success, -, chunks, origin⟩ := describeChunks_cases describing
    cases success
    exact (keeps.storeChunks listed content chunks origin).bind fun _ => keeps_pure _

/-- **A file keeps what its requests keep,** whatever becomes of it. -/
theorem processFile : (indexer.processFile around repository path).Keeps Kept := by
  have cancelling : (isCancelled around : RunM σ γ Bool).Keeps Kept := fun _ start => start
  refine cancelling.bind fun {_ cancelled _} _ => ?_
  split
  · exact keeps_pure _
  · refine (keeps.indexFile listed).caught.bind fun {_ answer _} _ => ?_
    split <;> exact keeps_pure _

omit listed

theorem run {files : List String} (listed : ∀ path ∈ files, Listed path) (scope : PurgeScope) :
    (indexer.run around repository files scope).Keeps Kept := by
  have cancelling : (isCancelled around : RunM σ γ Bool).Keeps Kept := fun _ start => start
  rw [run_eq]
  refine cancelling.bind fun {_ cancelled _} _ => ?_
  split
  · exact keeps_pure _
  · refine (keeps.makeRoom files scope).bind fun _ => ?_
    refine (keeps_mapM fun path member => ?_).bind fun _ => keeps_pure _
    exact keeps.processFile (listed path ((around.order_perm files).mem_iff.1 member))

omit keeps

theorem requireDirectory : (requireDirectory around repository : RunM σ γ Unit).Keeps Kept := by
  refine (keeps_see _).bind fun {_ tree _} _ => ?_
  split
  · exact keeps_throw _
  · exact keeps_pure _

theorem requireCheckpoints : (requireCheckpoints around : RunM σ γ Unit).Keeps Kept := by
  refine (keeps_see _).bind fun {_ failure _} _ => ?_
  split
  · exact keeps_throw _
  · exact keeps_pure _

theorem setCheckpoint (commit : String) :
    (setCheckpoint around repository commit : RunM σ γ Unit).Keeps Kept :=
  requireCheckpoints.bind fun _ => fun _ start => start

theorem finish (head : Except RunError String) (report : Report) :
    (finish around repository head report : RunM σ γ Report).Keeps Kept := by
  unfold Indexer.finish
  split
  · exact keeps_pure _
  · split
    · exact keeps_pure _
    · refine (setCheckpoint _).caught.bind fun {_ answer _} _ => ?_
      split <;> exact keeps_pure _

theorem findChanges :
    (findChanges around repository : RunM σ γ (String × ChangeSet)).Keeps Kept := by
  refine requireDirectory.bind fun _ => ?_
  refine RunM.Keeps.bind (requireCheckpoints.bind fun _ => fun _ start => start) fun _ => ?_
  refine (keeps_see _).bind fun {_ head _} _ => (keeps_liftM head).bind fun _ => ?_
  refine RunM.Keeps.bind (fun _ start => start) fun _ => ?_
  exact (keeps_see _).bind fun {_ changes _} _ => (keeps_liftM changes).bind fun _ => keeps_pure _

include keeps

/-- **What every request keeps, a full run keeps,** with whatever result it ends. -/
theorem index [Walk] (lists : around.Lists Listed) :
    (indexer.index around repository).Keeps Kept := by
  rw [index_eq]
  refine requireDirectory.bind fun _ => ?_
  have finding : (discovered around : RunM σ γ (List String)).Keeps Kept := fun _ start => start
  refine finding.bind fun {before files _} found => ?_
  obtain ⟨same, -⟩ := Prod.mk.inj found
  obtain rfl : around.discoveredAt before.state.step = files := Except.ok.inj same
  split
  · exact keeps_pure _
  · exact (keeps_see _).bind fun {_ head _} _ =>
      (keeps.run (lists.discovered before.state.step) .repository).bind fun _ => finish head _

/-- **So does an incremental run.** -/
theorem reindex [Walk] (lists : around.Lists Listed) :
    (indexer.reindex around repository).Keeps Kept := by
  rw [reindex_eq]
  refine findChanges.bind fun {_ told _} asking => ?_
  obtain ⟨-, ⟨_, impossible, -⟩ | ⟨head, changes, success, told, -⟩⟩ := findChanges_cases asking
  · cases impossible
  cases success
  have choosing : (eligibleChanges around changes.changed : RunM σ γ (List String)).Keeps Kept :=
    fun _ start => start
  refine choosing.bind fun {before files _} chosen => ?_
  obtain ⟨same, -⟩ := Prod.mk.inj chosen
  obtain rfl : around.eligibleAt before.state.step changes.changed = files := Except.ok.inj same
  refine (keeps.run (lists.eligible _ before.state.step _ changes told) _).bind fun _ => ?_
  unfold close
  dsimp only
  split
  · exact keeps_pure _
  · exact (setCheckpoint _).bind fun _ => keeps_pure _

end RequestsKeep

end Indexer

end CodeIndex
