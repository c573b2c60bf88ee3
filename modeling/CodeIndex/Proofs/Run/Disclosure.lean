import CodeIndex.Proofs.Run.Requests
import CodeIndex.Proofs.Secret.Sent
import CodeIndex.Search.Retriever

/-!
# What providers are told

To speak of all texts that a provider is given, the provider is replaced by one that also notes what
it is asked.  The notes are part of its state, and they are there whether it answered, failed, or
was given up.  Nothing else changes (`Request.runWithin_noting`): a run with providers that note
gets the answers that it would get, and asks what it would ask.  So what holds of the notes of all
of them holds of the texts that are passed to any providers.

What embedders are told is free of credentials: in runs, if the paths are, and in searches always.
What generators are told in runs is free of credentials if the paths are free where they are quoted.
What they are told in searches is the query as it stands, so that it is free of credentials if and
only if the query is; phrasings are the one thing that is asked for without redaction.

## Main definitions

* `Embedder.noting`, `Generator.noting`: the providers that note what they are asked.

## Main statements

* `told_free`
-/

namespace CodeIndex

open CodeIndex.Text

variable {σ γ α : Type}

/-! ## Providers that note what they are asked -/

/-- A request that notes some texts when it is made. -/
def Request.noting (texts : List String) (request : Request σ α) : Request (σ × List String) α :=
  fun now (state, noted) => (request now state).lift fun state => (state, noted ++ texts)

/-- The embedder that notes all texts that it is to embed. -/
def Embedder.noting (embedder : Embedder σ) : Embedder (σ × List String) where
  embed text := (embedder.embed text).noting [text]
  embedBatch texts := (embedder.embedBatch texts).noting texts

/-- The generator that notes all prompts. -/
def Generator.noting (generator : Generator γ) : Generator (γ × List String) where
  generate prompt params := (generator.generate prompt params).noting [prompt]

/-- The describer that notes its prompts. -/
def Describer.noting (describer : Describer γ) : Describer (γ × List String) :=
  ⟨describer.generator.noting, describer.timeout, describer.maxTokens⟩

/-- The rephraser that notes its prompts. -/
def Rephraser.noting (rephraser : Rephraser γ) : Rephraser (γ × List String) :=
  ⟨rephraser.generator.noting, rephraser.timeout⟩

/-- The indexer whose providers note what they are asked. -/
def Indexer.noting (indexer : Indexer σ γ) : Indexer (σ × List String) (γ × List String) :=
  ⟨indexer.settings, indexer.read, indexer.embedder.noting, indexer.describer.map (·.noting)⟩

/-- The retriever whose providers note what they are asked. -/
def Retriever.noting (retriever : Retriever σ γ) : Retriever (σ × List String) (γ × List String) :=
  ⟨retriever.settings, retriever.embedder.noting, retriever.rephraser.map (·.noting)⟩

/-- A request that is noted has the same answer, at the same time, and leaves the same state. -/
theorem Request.runWithin_noting (texts noted : List String) (request : Request σ α) (limit : Nat)
    (before : Clocked σ) :
    let plain := request.runWithin limit before
    let told := (request.noting texts).runWithin limit ⟨before.now, (before.state, noted)⟩
    told.1 = plain.1 ∧ told.2.now = plain.2.now ∧ told.2.state.1 = plain.2.state := by
  unfold Request.runWithin Request.noting Call.lift
  dsimp only
  split <;> exact ⟨rfl, rfl, rfl⟩

/-- What is noted stays noted, and is what was asked. -/
theorem Request.keeps_noting {texts : List String} {request : Request σ α} {Told : String → Prop}
    (told : ∀ text ∈ texts, Told text) :
    (request.noting texts).Keeps fun state => ∀ text ∈ state.2, Told text := by
  rintro now ⟨state, noted⟩ kept
  have further : ∀ text ∈ noted ++ texts, Told text := fun text member =>
    (List.mem_append.1 member).elim (kept text) (told text)
  exact ⟨further, fun _ => further⟩

/-- What was asked is noted, answered or not. -/
theorem Request.noted_runWithin {texts : List String} {request : Request σ α} {limit : Nat}
    {before after : Clocked (σ × List String)} {answer : Option α}
    (made : (request.noting texts).runWithin limit before = (answer, after)) :
    after.state.2 = before.state.2 ++ texts := by
  unfold Request.runWithin Request.noting Call.lift at made
  dsimp only at made
  split at made <;> obtain ⟨rfl, rfl⟩ := Prod.mk.inj made <;> rfl

/-! ## Runs -/

/-- Whether all that the providers have noted has some property. -/
structure Services.Told (Embedded Asked : String → Prop)
    (services : Services (σ × List String) (γ × List String)) : Prop where
  embedded : ∀ text ∈ services.embedder.2, Embedded text
  asked : ∀ text ∈ services.generator.2, Asked text

namespace Indexer

variable {Embedded Asked : String → Prop}

theorem keptByEmbedding_noting {texts : List String} {request : Request σ α}
    (told : ∀ text ∈ texts, Embedded text) :
    Services.KeptByEmbedding (Services.Told (γ := γ) Embedded Asked) (request.noting texts) := by
  intro services now state kept
  obtain ⟨finished, abandoned⟩ := Request.keeps_noting told now state kept.embedded
  exact ⟨⟨finished, kept.asked⟩, fun time => ⟨abandoned time, kept.asked⟩⟩

theorem keptByGenerating_noting {texts : List String} {request : Request γ α}
    (told : ∀ text ∈ texts, Asked text) :
    Services.KeptByGenerating (Services.Told (σ := σ) Embedded Asked) (request.noting texts) := by
  intro services now state kept
  obtain ⟨finished, abandoned⟩ := Request.keeps_noting told now state kept.asked
  exact ⟨⟨kept.embedded, finished⟩, fun time => ⟨kept.embedded, abandoned time⟩⟩

/-- The requests of a run, told to providers that note. -/
theorem requestsKeep_noting (indexer : Indexer σ γ) {around : Surroundings (σ × List String)}
    (repository : Repository) {Listed : String → Prop} (probe : Embedded "probe")
    (embed : ∀ described : DescribedChunk, Secret.IsPlaced described.chunk →
      Listed described.chunk.path → Embedded (FilePoints.embeddingText described))
    (describe : ∀ path, Listed path → ∀ file chunk language,
      Asked (Describer.prompt file chunk path language)) :
    indexer.noting.RequestsKeep around repository Listed (Services.Told Embedded Asked) where
  probe := keptByEmbedding_noting fun text member => by
    rwa [List.mem_singleton.1 member]
  describe describer known path listed file chunk language := by
    obtain ⟨describer, -, rfl⟩ := Option.map_eq_some_iff.1 known
    refine keptByGenerating_noting fun text member => ?_
    rw [List.mem_singleton.1 member]
    exact describe path listed file chunk language
  embed path listed file text described chunks := by
    refine keptByEmbedding_noting fun embedded member => ?_
    obtain ⟨entry, entered, rfl⟩ := List.mem_map.1 member
    have ofFile : entry.chunk ∈ chunkFile indexer.noting.read text path :=
      chunks ▸ List.mem_map_of_mem entered
    refine embed entry (Secret.isPlaced_of_mem_chunkFile file ofFile) ?_
    rwa [path_of_mem_chunkFile ofFile]
  upload _ _ _ _ _ _ kept := ⟨kept.embedded, kept.asked⟩
  ensure _ kept := ⟨kept.embedded, kept.asked⟩
  keywordIndex _ _ kept := ⟨kept.embedded, kept.asked⟩
  delete _ _ kept := ⟨kept.embedded, kept.asked⟩

/-- What is kept by all requests can be said of all that the providers were told in a run. -/
theorem RequestsKeep.told [Walk] {indexer : Indexer σ γ} {around : Surroundings (σ × List String)}
    {repository : Repository} {Listed : String → Prop}
    (keeps : indexer.noting.RequestsKeep around repository Listed (Services.Told Embedded Asked))
    (lists : around.Lists Listed) {run : RunM (σ × List String) (γ × List String) Report}
    (either : run = indexer.noting.index around repository ∨
      run = indexer.noting.reindex around repository)
    {before : Clocked (World (σ × List String) (γ × List String))}
    (freshEmbedder : before.state.embedder.2 = [])
    (freshGenerator : before.state.generator.2 = []) :
    Services.Told Embedded Asked (run.outcome before).2.state.toServices := by
  have start : Services.Told Embedded Asked before.state.toServices :=
    ⟨by rw [freshEmbedder]; simp, by rw [freshGenerator]; simp⟩
  rcases either with rfl | rfl
  · exact keeps.index lists before start
  · exact keeps.reindex lists before start

end Indexer

/-! ## Searches -/

namespace Retriever

/-- What a generator is asked about a query that is to be said in other words. -/
def prompts (retriever : Retriever σ γ) (request : SearchRequest) : List String :=
  match retriever.rephraser, request.expand with
  | some _, true => [Rephraser.prompt (trimmed (trimmed request.query))]
  | _, _ => []

theorem noted_phrasings (retriever : Retriever σ γ) (request : SearchRequest)
    (before : Clocked (Services (σ × List String) (γ × List String))) :
    (retriever.noting.phrasings request before).2.state.embedder = before.state.embedder ∧
      (retriever.noting.phrasings request before).2.state.generator.2 =
        before.state.generator.2 ++ retriever.prompts request := by
  obtain ⟨settings, embedder, rephraser⟩ := retriever
  unfold phrasings prompts noting
  cases rephraser with
  | none => simp
  | some rephraser =>
      cases request.expand with
      | false => simp
      | true =>
          refine ⟨rfl, ?_⟩
          dsimp only [Option.map_some]
          unfold Rephraser.phrasings
          dsimp only
          split <;> exact Request.noted_runWithin ‹_›

theorem noted_embed (retriever : Retriever σ γ) (composites : List String)
    (before : Clocked (Services (σ × List String) (γ × List String))) :
    (retriever.noting.embed composites before).2.state.embedder.2 =
        before.state.embedder.2 ++ composites ∧
      (retriever.noting.embed composites before).2.state.generator = before.state.generator := by
  have noted : ∀ {limit : Nat} {answer : Option (Except ProviderError (List (List Float32)))}
      {after : Clocked (Services (σ × List String) (γ × List String))},
      Request.runWithin limit (fun now services => (retriever.noting.embedder.embedBatch composites
        now services.embedder).lift fun embedder => { services with embedder }) before =
          (answer, after) →
      after.state.embedder.2 = before.state.embedder.2 ++ composites ∧
        after.state.generator = before.state.generator := by
    intro limit answer after made
    unfold Request.runWithin Call.lift at made
    dsimp only at made
    split at made <;> obtain ⟨rfl, rfl⟩ := Prod.mk.inj made <;> exact ⟨rfl, rfl⟩
  unfold embed
  dsimp only
  split
  · split <;> exact noted ‹_›
  · exact noted ‹_›
  · exact noted ‹_›

/-- **What providers are told in a search:** the embedder some composites, the generator the
query. -/
theorem noted_search (retriever : Retriever σ γ) (request : SearchRequest)
    (before : Clocked (Services (σ × List String) (γ × List String)))
    (filled : trimmed request.query ≠ "") :
    ∃ phrasings : List String, (retriever.noting.search request before).2.state.embedder.2 =
        before.state.embedder.2 ++ phrasings.map request.composite ∧
      (retriever.noting.search request before).2.state.generator.2 =
        before.state.generator.2 ++ retriever.prompts request := by
  obtain ⟨sameEmbedder, asked⟩ := retriever.noted_phrasings request before
  unfold search
  rw [beq_eq_false_iff_ne.2 filled, if_neg Bool.false_ne_true]
  rcases said : retriever.noting.phrasings request before with ⟨phrasings, middle⟩
  rw [said] at sameEmbedder asked
  obtain ⟨embedded, sameGenerator⟩ := retriever.noted_embed (phrasings.map request.composite) middle
  dsimp only at *
  refine ⟨phrasings, ?_⟩
  rw [← sameEmbedder, ← asked, ← embedded, ← sameGenerator]
  rcases retriever.noting.embed (phrasings.map request.composite) middle with ⟨_ | _, after⟩ <;>
    exact ⟨rfl, rfl⟩

/-- Nobody is told anything about a blank query. -/
theorem noted_search_blank (retriever : Retriever σ γ) (request : SearchRequest)
    (before : Clocked (Services (σ × List String) (γ × List String)))
    (blank : trimmed request.query = "") :
    (retriever.noting.search request before).2 = before := by
  unfold search
  rw [blank]
  rfl

/-- What a generator is asked about a query is as free of credentials as the query. -/
theorem isFree_prompts_iff (retriever : Retriever σ γ) (request : SearchRequest) :
    (∀ prompt ∈ retriever.prompts request, Secret.IsFree prompt.toList) ↔
      (retriever.rephraser.isSome = true → request.expand = true →
        Secret.IsFree request.query.toList) := by
  unfold prompts
  cases retriever.rephraser with
  | none => simp
  | some rephraser =>
      cases request.expand with
      | false => simp
      | true =>
          simp only [List.mem_singleton, forall_eq, Option.isSome_some, true_imp_iff]
          rw [Secret.isFree_rephraserPrompt_iff, Secret.isFree_trimmed_iff,
            Secret.isFree_trimmed_iff]

end Retriever

/-! ## No credential reaches a provider, with one exception -/

/-- **What providers are told.**  Let the providers of a full or an incremental run note what they
are asked.  If the paths in play are free of credentials, so is all that the embedder was told, and
if they are free between quotes, so are all prompts; files, descriptions, and the end of the run do
not matter.  In a search, all that the embedder was told is free of credentials.  The generator was
told nothing that is not, if and only if it was not asked at all or the query is free itself. -/
theorem told_free [Walk] (indexer : Indexer σ γ) (retriever : Retriever σ γ) :
    (∀ (around : Surroundings (σ × List String)) (repository : Repository)
        (run : RunM (σ × List String) (γ × List String) Report),
      run = indexer.noting.index around repository ∨
        run = indexer.noting.reindex around repository →
      ∀ before, before.state.embedder.2 = [] → before.state.generator.2 = [] →
        ((around.Lists fun path => Secret.IsFree path.toList) →
          ∀ text ∈ (run.outcome before).2.state.embedder.2, Secret.IsFree text.toList) ∧
        ((around.Lists fun path => Secret.IsFree ('"' :: path.toList ++ ['"'])) →
          ∀ prompt ∈ (run.outcome before).2.state.generator.2, Secret.IsFree prompt.toList)) ∧
    ∀ (request : SearchRequest) (before : Clocked (Services (σ × List String) (γ × List String))),
      before.state.embedder.2 = [] → before.state.generator.2 = [] →
        (∀ text ∈ (retriever.noting.search request before).2.state.embedder.2,
          Secret.IsFree text.toList) ∧
        ((∀ prompt ∈ (retriever.noting.search request before).2.state.generator.2,
            Secret.IsFree prompt.toList) ↔
          (retriever.rephraser.isSome = true → request.expand = true →
            Secret.IsFree request.query.toList)) := by
  constructor
  · intro around repository run either before freshEmbedder freshGenerator
    -- each half is about one provider, so nothing is said about the other one
    constructor
    · intro free
      have keeps : indexer.noting.RequestsKeep around repository
          (fun path => Secret.IsFree path.toList)
          (Services.Told (fun text => Secret.IsFree text.toList) fun _ => True) :=
        indexer.requestsKeep_noting repository
          (Secret.isFree_iff_freeBehind.2 (Secret.freeBehind_of_occursIn (by decide +kernel)))
          (fun described placed listed => Secret.isFree_embeddingText placed listed)
          fun _ _ _ _ _ => trivial
      exact (keeps.told free either freshEmbedder freshGenerator).embedded
    · intro free
      have keeps : indexer.noting.RequestsKeep around repository
          (fun path => Secret.IsFree ('"' :: path.toList ++ ['"']))
          (Services.Told (fun _ => True) fun prompt => Secret.IsFree prompt.toList) :=
        indexer.requestsKeep_noting repository trivial (fun _ _ _ => trivial)
          fun path listed file chunk language =>
            (Secret.isFree_describerPrompt_iff file chunk path language).2 listed
      exact (keeps.told free either freshEmbedder freshGenerator).asked
  · intro request before freshEmbedder freshGenerator
    by_cases blank : trimmed request.query = ""
    · have free : Secret.IsFree request.query.toList := by
        rw [← Secret.isFree_trimmed_iff, blank]
        exact Secret.isFree_iff_freeBehind.2 .nil
      rw [retriever.noted_search_blank request before blank, freshEmbedder, freshGenerator]
      exact ⟨fun _ member => absurd member List.not_mem_nil, fun _ _ _ => free,
        fun _ _ member => absurd member List.not_mem_nil⟩
    · obtain ⟨phrasings, embedded, asked⟩ := retriever.noted_search request before blank
      rw [embedded, asked, freshEmbedder, freshGenerator, List.nil_append, List.nil_append]
      refine ⟨fun text member => ?_, retriever.isFree_prompts_iff request⟩
      obtain ⟨phrasing, -, rfl⟩ := List.mem_map.1 member
      exact Secret.isFree_composite request phrasing

/-- Surroundings with one file, for an embedder that notes what it is asked. -/
def notedFile : Surroundings (Unit × List String) :=
  .still (some (.single "a.md" (.text "token = 'sk-12345abcdef'"))) (.ok "head") fun _ =>
    .ok ⟨["a.md"], []⟩

/-- Services that have not been asked anything. -/
def unasked : Services (Unit × List String) (Unit × List String) := ⟨.empty, ((), []), ((), [])⟩

/-- A retriever that asks for phrasings. -/
def curious : Retriever Unit Unit :=
  ⟨{}, Indexer.bare.embedder, Indexer.bare.describer.map fun describer => ⟨describer.generator, 0⟩⟩

theorem lists_notedFile {Listed : String → Prop} (listed : Listed "a.md") :
    notedFile.Lists Listed where
  discovered step path found := by
    have same : notedFile.discoveredAt step = (Indexer.oneFile _).discoveredAt step := rfl
    rw [same] at found
    rwa [Indexer.mem_discoveredAt_oneFile.1 found]
  eligible step step' since changes told path found := by
    obtain rfl : (⟨["a.md"], []⟩ : ChangeSet) = changes := Except.ok.inj told
    unfold Surroundings.eligibleAt at found
    obtain ⟨member, -⟩ := List.mem_filter.1 found
    rwa [List.mem_singleton.1 member]

/-- A token in a file is not told to anyone, and a token in a query is. -/
theorem told_free_token :
    (∀ text ∈ ((Indexer.bare.noting.index notedFile ⟨"a", "/a"⟩).outcome
        ⟨0, ⟨unasked, .empty, 0, []⟩⟩).2.state.embedder.2, Secret.IsFree text.toList) ∧
      (∀ prompt ∈ ((Indexer.bare.noting.index notedFile ⟨"a", "/a"⟩).outcome
        ⟨0, ⟨unasked, .empty, 0, []⟩⟩).2.state.generator.2, Secret.IsFree prompt.toList) ∧
      ¬∀ prompt ∈ (curious.noting.search { query := "find sk-12345abcdef", expand := true }
        ⟨0, unasked⟩).2.state.generator.2, Secret.IsFree prompt.toList := by
  obtain ⟨runs, searches⟩ := told_free Indexer.bare curious
  obtain ⟨embedded, asked⟩ := runs notedFile ⟨"a", "/a"⟩ _ (.inl rfl)
    ⟨0, ⟨unasked, .empty, 0, []⟩⟩ rfl rfl
  have quoted : Secret.IsFree ('"' :: "a.md".toList ++ ['"']) :=
    Secret.isFree_iff_freeBehind.2 (Secret.freeBehind_of_occursIn (by decide +kernel))
  have plain : Secret.IsFree "a.md".toList := quoted.of_quoted
  refine ⟨embedded (lists_notedFile plain), asked (lists_notedFile quoted), fun free => ?_⟩
  obtain ⟨-, prompts⟩ := searches { query := "find sk-12345abcdef", expand := true } ⟨0, unasked⟩
    rfl rfl
  have query : Secret.IsFree "find sk-12345abcdef".toList := prompts.1 free rfl rfl
  have found : Secret.token.occursIn "find sk-12345abcdef".toList = true := by decide +kernel
  rw [query.token] at found
  cases found

end CodeIndex
