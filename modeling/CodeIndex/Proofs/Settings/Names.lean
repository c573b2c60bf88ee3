import CodeIndex.Proofs.Run.Upload
import CodeIndex.Settings.Basic

/-!
# Names of configured repositories

Settings that can be used give every repository a name of its own, and nothing else is asked of
names: they may hold colons.  Different names are not enough to keep the keys of repositories apart.
What is needed is that the settings separate names (`Settings.SeparatesNames`), and where they do
not, files of two repositories share a key.

## Main statements

* `Settings.repositoryProblem?_eq_none_iff`: which lists of repositories can be used.
* `Settings.separatesNames_iff_keys_injective`: which settings keep repositories apart.
-/

namespace CodeIndex

namespace Settings

/-- **Which lists of repositories can be used:** those whose names are not blank, and different from
each other and from the names before. -/
theorem repositoryProblem?_eq_none_iff {seen : List String} {entries : List RepositoryEntry} :
    repositoryProblem? seen entries = none ↔
      (∀ entry ∈ entries, ¬Text.isBlankString entry.name) ∧
        (∀ entry ∈ entries, entry.name ∉ seen) ∧ (entries.map (·.name)).Nodup := by
  induction entries generalizing seen with
  | nil => simp [repositoryProblem?]
  | cons entry entries ih =>
      unfold repositoryProblem?
      by_cases blank : Text.isBlankString entry.name
      · simp [blank]
      · by_cases known : entry.name ∈ seen
        · simp [blank, known]
        · have unseen : ¬seen.contains entry.name = true := by simpa using known
          rw [if_neg blank, if_neg unseen, ih]
          simp only [List.mem_cons, not_or, List.map_cons, List.nodup_cons, List.mem_map,
            not_exists, not_and]
          constructor
          · rintro ⟨named, fresh, nodup⟩
            refine ⟨?_, ?_, fun other member same => (fresh other member).1 same, nodup⟩
            · rintro other (rfl | member)
              · exact blank
              · exact named other member
            · rintro other (rfl | member)
              · exact known
              · exact (fresh other member).2
          · rintro ⟨named, fresh, different, nodup⟩
            exact ⟨fun other member => named other (.inr member),
              fun other member => ⟨different other member, fresh other (.inr member)⟩, nodup⟩

variable {settings : Settings}

/-- Settings that can be used have no problem with their repositories. -/
theorem repositoryProblem?_of_problem? (valid : settings.problem? = none) :
    repositoryProblem? [] settings.repositories = none := by
  unfold problem? at valid
  split at valid
  · cases valid
  · split at valid
    · cases valid
    · split at valid
      · cases valid
      · split at valid
        · cases valid
        · exact valid

/-- Settings that can be used name their repositories differently. -/
theorem nodup_names (valid : settings.problem? = none) :
    (settings.repositories.map (·.name)).Nodup :=
  (repositoryProblem?_eq_none_iff.1 (repositoryProblem?_of_problem? valid)).2.2

/-- **Whether settings separate names:** no name goes on behind a colon where another one ends. -/
def SeparatesNames (settings : Settings) : Prop :=
  ∀ a ∈ settings.repositories, ∀ b ∈ settings.repositories, ¬Continues a.name b.name

theorem separatesNames_iff : settings.SeparatesNames ↔
    ∀ a ∈ settings.repositories, ∀ b ∈ settings.repositories, KeysApart a.name b.name := by
  constructor
  · intro separate a inA b inB
    exact keysApart_iff.2 ⟨separate a inA b inB, separate b inB a inA⟩
  · intro apart a inA b inB
    exact (keysApart_iff.1 (apart a inA b inB)).1

/-- Whether some keys are keys of configured repositories, with different hashes. -/
structure IsKeySpace (settings : Settings) (keys : Set PointKey) : Prop where
  configured : ∀ key ∈ keys, ∃ entry ∈ settings.repositories, entry.name = key.repository
  hashes : Set.InjOn Hash.nameId (PointKey.text '' keys)

/-- Separate names carry over to identifiers. -/
theorem IsKeySpace.injOn_id {keys : Set PointKey} (space : settings.IsKeySpace keys)
    (separate : settings.SeparatesNames) : Set.InjOn PointKey.id keys := by
  refine PointKey.injOn_id (fun key member other member' => ?_) space.hashes
  obtain ⟨a, inA, nameA⟩ := space.configured key member
  obtain ⟨b, inB, nameB⟩ := space.configured other member'
  rw [← nameA, ← nameB]
  exact separatesNames_iff.1 separate a inA b inB

/-- **Which settings keep repositories apart.**  Of settings that can be used, those that separate
names, and no others, have keys that determine repository, path and line.  Then points of different
repositories, files or lines have different identifiers, as far as the keys in use have different
hashes, and an upload for a file leaves everything as it is that a shared collection holds of other
files, be they of the same or of another repository. -/
theorem separatesNames_iff_keys_injective (valid : settings.problem? = none) :
    (settings.SeparatesNames ↔
      ∀ a ∈ settings.repositories, ∀ b ∈ settings.repositories, ∀ path path' line line',
        pointKey a.name path line = pointKey b.name path' line' →
          a = b ∧ path = path' ∧ line = line') ∧
    (settings.SeparatesNames → ∀ keys : Set PointKey, settings.IsKeySpace keys →
      Set.InjOn PointKey.id keys ∧
      ∀ (read : SyntaxReader) (repository path : String) (rendition : Rendition read path),
        (∀ line ∈ rendition.startLines, (⟨repository, path, line⟩ : PointKey) ∈ keys) →
        ∀ (name : String) (store after : MemoryStore) (result : Except StoreError Unit),
          IsKeyed keys (store.pointsOf name) →
          store.upsert name (rendition.points repository) = (result, after) →
            IsKeyed keys (after.pointsOf name) ∧
            ∀ id data, ¬(data.repository? = some repository ∧ data.path? = some path) →
              ((after.pointsOf name).get? id = some data ↔
                (store.pointsOf name).get? id = some data)) := by
  constructor
  · rw [separatesNames_iff]
    constructor
    · intro apart a inA b inB path path' line line' same
      obtain ⟨names, rest⟩ := apart a inA b inB path path' line line' same
      exact ⟨List.inj_on_of_nodup_map (nodup_names valid) inA inB names, rest⟩
    · intro apart a inA b inB path path' line line' same
      obtain ⟨rfl, rest⟩ := apart a inA b inB path path' line line' same
      exact ⟨rfl, rest⟩
  · intro separate keys space
    have distinct := space.injOn_id separate
    refine ⟨distinct, fun read repository path rendition known name store after result keyed => ?_⟩
    exact keyed.upsert rendition distinct known

/-- Settings that can be used need not separate names. -/
example :
    ({ repositories := [⟨"a", "/a", none⟩, ⟨"a:b", "/b", none⟩] } : Settings).problem? = none ∧
      Continues "a" "a:b" :=
  ⟨by decide, "b", by decide⟩

/-- Settings with repositories `a` and `b`. -/
def twoRepositories : Settings :=
  { repositories := [⟨"a", "/a", none⟩, ⟨"b", "/b", none⟩] }

theorem separatesNames_twoRepositories : twoRepositories.SeparatesNames := by
  have short : ∀ name longer : String, 0 < name.length → longer.length = 1 →
      ¬Continues name longer := by
    rintro name _ named length ⟨rest, rfl⟩
    have colon : ":".length = 1 := rfl
    rw [String.length_append, String.length_append] at length
    omega
  intro a inA b inB
  simp only [twoRepositories, List.mem_cons, List.not_mem_nil, or_false] at inA inB
  rcases inA with rfl | rfl <;> rcases inB with rfl | rfl <;> exact short _ _ (by decide) rfl

/-- The keys of one file in each of the two repositories. -/
def twoKeys : Set PointKey := {⟨"a", "a.md", 1⟩, ⟨"b", "a.md", 1⟩}

theorem isKeySpace_twoKeys : twoRepositories.IsKeySpace twoKeys := by
  have different : pointId "a" "a.md" 1 ≠ pointId "b" "a.md" 1 := by decide +kernel
  constructor
  · rintro key (rfl | rfl)
    · exact ⟨⟨"a", "/a", none⟩, List.mem_cons_self, rfl⟩
    · exact ⟨⟨"b", "/b", none⟩, List.mem_cons_of_mem _ List.mem_cons_self, rfl⟩
  · rintro _ ⟨key, rfl | rfl, rfl⟩ _ ⟨other, rfl | rfl, rfl⟩ same
    · rfl
    · exact absurd same different
    · exact absurd same.symm different
    · rfl

/-- A point of the file of repository `b`. -/
def neighbour : PointData :=
  ⟨[], none, (Dictionary.empty.insert "repo" (.string "b")).insert "filePath" (.string "a.md")⟩

/-- A collection that holds it. -/
def besideNeighbour : MemoryStore :=
  { MemoryStore.empty with
    collections := Dictionary.empty.insert "code_chunks"
      ⟨true, Dictionary.empty.insert (pointId "b" "a.md" 1) neighbour, []⟩ }

theorem repository?_neighbour : neighbour.repository? = some "b" := by
  simp [PointData.repository?, PointData.text?, neighbour, Json.string?]

theorem isKeyed_besideNeighbour : IsKeyed twoKeys (besideNeighbour.pointsOf "code_chunks") := by
  have points : besideNeighbour.pointsOf "code_chunks" =
      Dictionary.empty.insert (pointId "b" "a.md" 1) neighbour := rfl
  have path? : neighbour.path? = some "a.md" := by
    simp [PointData.path?, PointData.text?, neighbour, Json.string?]
  rw [points]
  intro id data holds
  rw [Dictionary.get?_insert] at holds
  split at holds
  · obtain rfl := Option.some.inj holds
    exact ⟨⟨"b", "a.md", 1⟩, .inr rfl, ‹_›, repository?_neighbour, path?⟩
  · cases holds

theorem mem_twoKeys_of_startLine :
    ∀ line ∈ (Rendition.plain Indexer.bare.read "a.md" "one").startLines,
      (⟨"a", "a.md", line⟩ : PointKey) ∈ twoKeys := by
  have lines : (Rendition.plain Indexer.bare.read "a.md" "one").startLines = [1] := by
    show (chunkFile Indexer.bare.read "one" "a.md").map (·.startLine) = [1]
    decide
  rw [lines]
  intro line member
  rw [List.mem_singleton.1 member]
  exact .inl rfl

/-- An upload for the file of repository `a` leaves the file of repository `b`. -/
theorem separatesNames_iff_keys_injective_twoRepositories :
    twoRepositories.problem? = none ∧ twoRepositories.SeparatesNames ∧
      ∃ result after, besideNeighbour.upsert "code_chunks"
          ((Rendition.plain Indexer.bare.read "a.md" "one").points "a") = (result, after) ∧
        (after.pointsOf "code_chunks").get? (pointId "b" "a.md" 1) = some neighbour := by
  have valid : twoRepositories.problem? = none := by decide
  rcases made : besideNeighbour.upsert "code_chunks"
    ((Rendition.plain Indexer.bare.read "a.md" "one").points "a") with ⟨result, after⟩
  obtain ⟨-, apart⟩ := (separatesNames_iff_keys_injective valid).2 separatesNames_twoRepositories
    twoKeys isKeySpace_twoKeys
  obtain ⟨-, others⟩ := apart _ "a" "a.md" _ mem_twoKeys_of_startLine _ _ _ _
    isKeyed_besideNeighbour made
  have other : ¬(neighbour.repository? = some "a" ∧ neighbour.path? = some "a.md") := by
    rw [repository?_neighbour]
    rintro ⟨own, -⟩
    exact absurd own (by decide)
  have there : (besideNeighbour.pointsOf "code_chunks").get? (pointId "b" "a.md" 1) =
      some neighbour := by
    show (Dictionary.empty.insert (pointId "b" "a.md" 1) neighbour).get? _ = _
    rw [Dictionary.get?_insert, if_pos rfl]
  exact ⟨valid, separatesNames_twoRepositories, result, after, rfl, (others _ _ other).2 there⟩

end Settings

end CodeIndex
