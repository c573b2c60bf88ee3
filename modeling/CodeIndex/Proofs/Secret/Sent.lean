import CodeIndex.Proofs.Chunk.Coverage
import CodeIndex.Proofs.Secret.Joining
import CodeIndex.Proofs.Secret.Redaction
import CodeIndex.Proofs.Text.Split
import CodeIndex.Prompt.Description
import CodeIndex.Prompt.Phrasing
import CodeIndex.Run.FilePoints
import CodeIndex.Search.Composite

/-!
# The texts that are sent

Four kinds of texts go to providers: what is embedded of a chunk, the prompt for its description,
the prompt for phrasings of a query, and the composites of a search.  Each is put together from
texts of which some are redacted and some are not, and each is free of credentials under a condition
on the latter.

Composites are redacted as a whole.  In the text for a chunk only its path is not redacted, and
there it is enough that the path is free: it ends with an extension, so that no assignment can begin
in it and go on behind the line break.  In a prompt for a description the path stands between
quotes, and has to be free there; `token='a.md` is not.  The prompt for phrasings is as free as the
query.

## Main statements

* `Secret.isFree_embeddingText`, `Secret.isFree_composite`
* `Secret.isFree_describerPrompt_iff`, `Secret.isFree_rephraserPrompt_iff`
-/

namespace CodeIndex.Secret

open CodeIndex.Text
open Pattern (Reads lastOr)

/-- A text is free where none of the patterns has a match. -/
theorem freeBehind_of_occursIn {text : List Char}
    (lacking : token.occursIn text = false ∧ keyOpening.occursIn text = false ∧
      assignment.occursIn text = false) : FreeBehind none text where
  token := (Pattern.occursIn_eq_false_iff rfl).1 lacking.1
  keyOpening := (Pattern.occursIn_eq_false_iff rfl).1 lacking.2.1
  exposed passed read rest split found :=
    (Pattern.occursIn_eq_false_iff rfl).1 lacking.2.2 passed read rest split
      ⟨found.choose, found.choose_spec.1⟩

/-- A redacted text is free wherever nothing of a word stands before it. -/
theorem freeBehind_redact {before : Option Char} (outside : before.any isWord = false)
    (text : List Char) : FreeBehind before (redact text) :=
  (isFree_iff_freeBehind.1 (isFree_redact text)).behind outside.symm

/-- A line break before a text does not matter. -/
theorem freeBehind_newline {before : Option Char} {text : List Char} (free : FreeBehind none text) :
    FreeBehind before ('\n' :: text) :=
  (freeBehind_cons_blank (by decide)).2 free

/-! ## How the path of an indexed file ends -/

/-- A file name ends with a point and the extension, if there is one. -/
theorem suffix_of_extensionOf? {name extension : List Char}
    (known : Path.extensionOf? name = some extension) : '.' :: extension <:+ name := by
  unfold Path.extensionOf? at known
  have parts := List.takeWhile_append_dropWhile (p := (· != '.')) (l := name.reverse)
  dsimp only at known
  split at known
  · next c d rest front =>
    obtain rfl := Option.some.inj known
    obtain rfl : c = '.' := by
      have head := List.head?_dropWhile_not (· != '.') name.reverse
      rw [front] at head
      simpa using head
    rw [front] at parts
    have whole := congrArg List.reverse parts
    rw [List.reverse_reverse, List.reverse_append, List.reverse_cons, List.append_assoc] at whole
    exact ⟨_, whole⟩
  · cases known

/-- The path of a file in a known language ends with a point and an extension of the language. -/
theorem exists_extension {path : String} {language : Language}
    (known : Language.ofPath? path = some language)
    (file : Path.asksForDirectory path.toList = false) :
    ∃ extension ∈ language.extensions, '.' :: extension.toList <:+ path.toList := by
  obtain ⟨extension, ends, found⟩ := Option.bind_eq_some_iff.1 known
  obtain ⟨name, last, ends⟩ := Option.bind_eq_some_iff.1 ends
  have listed := List.find?_some found
  obtain ⟨extension', member, same⟩ := List.any_eq_true.1 listed
  obtain rfl := eq_of_beq same
  refine ⟨extension', member, (suffix_of_extensionOf? ends).trans ?_⟩
  -- the last segment is the last piece, since that one names something
  obtain ⟨last, -⟩ := Option.filter_eq_some_iff.1 last
  obtain ⟨piece, final⟩ : ∃ piece, (splitOn (· == '/') path.toList).getLast? = some piece :=
    ⟨_, List.getLast?_eq_some_getLast (splitFrom_ne_nil _ _ _)⟩
  rw [Path.asksForDirectory, final] at file
  obtain ⟨pieces, split⟩ := List.getLast?_eq_some_iff.1 final
  have names : (!piece.isEmpty && piece != ['.']) = true := by
    simpa [bne] using file
  rw [Path.segments, split, List.filter_append, List.filter_singleton, names, cond_true,
    List.getLast?_concat] at last
  obtain rfl := Option.some.inj last
  exact suffix_of_getLast?_splitFrom final

/-- No assignment begins in the path of a file in a known language and goes on behind it. -/
theorem not_endsOpen_path {path : String} {language : Language}
    (known : Language.ofPath? path = some language)
    (file : Path.asksForDirectory path.toList = false) : ¬EndsOpen path.toList := by
  rintro ⟨passed, name, sign, before, behind, groups, split, named, signs⟩
  obtain ⟨extension, member, front, whole⟩ := exists_extension known file
  obtain ⟨unnamed, letters⟩ : secretName.occursIn extension.toList = false ∧
      ∀ c ∈ '.' :: extension.toList, ¬(isBlank c = true ∨ c = ':' ∨ c = '=') := by
    have every : ∀ language : Language, ∀ extension ∈ language.extensions,
        secretName.occursIn extension.toList = false ∧
          ('.' :: extension.toList).Forall fun c => ¬(isBlank c = true ∨ c = ':' ∨ c = '=') := by
      intro language
      cases language <;> decide
    exact (every language extension member).imp_right List.forall_iff_forall_mem.1
  have point : '.' ∉ name := fun member => absurd (named.takes '.' member) (by decide)
  have lacks := (Pattern.occursIn_eq_false_iff rfl).1 unnamed
  rw [split] at whole
  rcases List.eq_nil_or_concat sign with rfl | ⟨sign, last, rfl⟩
  · rw [List.append_nil] at whole
    rcases List.append_eq_append_iff.1 whole with ⟨further, -, same⟩ | ⟨further, -, same⟩
    · cases further with
      | nil =>
          rw [List.nil_append] at same
          exact point (same ▸ List.mem_cons_self)
      | cons c further =>
          -- the name would stand in the extension
          obtain ⟨-, same⟩ := List.cons.inj same
          refine lacks further name [] (by rw [List.append_nil]; exact same) ⟨groups, ?_⟩
          exact (named.of_looksBack rfl nofun).anywhere rfl
    · exact point (same ▸ by simp)
  · rw [List.concat_eq_append] at whole signs
    have final := congrArg List.getLast? whole
    rw [← List.append_assoc, List.getLast?_concat,
      List.getLast?_append_of_ne_nil _ (List.cons_ne_nil _ _)] at final
    exact letters last (List.mem_of_getLast? final) (signs last (by simp))

/-! ## Texts for chunks -/

theorem mem_all (language : Language) : language ∈ Language.all := by
  cases language <;> decide

/-- No credential begins in the name of a language. -/
theorem isQuiet_language (language : Language) : IsQuiet language.id.toList := by
  have every : ∀ language ∈ Language.all, IsQuiet language.id.toList := by decide +kernel
  exact every language (mem_all language)

/-- No credential begins in the name of a layer. -/
theorem isQuiet_layer (path : String) : IsQuiet (Layer.ofPath path).toList := by
  have every : ∀ layer ∈ (Layer.defaultLayer :: Layer.table.map (·.2)).eraseDups,
      IsQuiet layer.toList := by decide +kernel
  have listed : Layer.ofPath path ∈ Layer.defaultLayer :: Layer.table.map (·.2) := by
    unfold Layer.ofPath
    dsimp only
    cases found : Layer.table.find? fun entry =>
        Layer.hasDirectory (Layer.normalized path.toList) entry.1 with
    | none => exact List.mem_cons_self
    | some entry =>
        exact List.mem_cons_of_mem _ (List.mem_map_of_mem (List.mem_of_find?_eq_some found))
  exact every _ (List.mem_eraseDups.2 listed)

/-- Whether the path of a chunk can stand in front of a line break, and its layer follows from it.
This holds of the chunks of every file that can be read. -/
structure IsPlaced (chunk : Chunk) : Prop where
  closed : ¬EndsOpen chunk.path.toList
  layer_eq : chunk.layer = Layer.ofPath chunk.path

theorem isPlaced_of_mem_chunkFile {read : SyntaxReader} {content path : String} {chunk : Chunk}
    (file : Path.asksForDirectory path.toList = false)
    (member : chunk ∈ chunkFile read content path) : IsPlaced chunk := by
  have same := path_of_mem_chunkFile member
  rcases chunkFile_cases read content path with none | ⟨language, spans, known, assembled⟩
  · rw [none] at member
    cases member
  · refine ⟨?_, ?_⟩
    · rw [same]
      exact not_endsOpen_path known file
    · rw [assembled] at member
      obtain ⟨entry, -, rfl⟩ := List.mem_map.1 member
      rfl

/-- The place of a chunk, and a free text behind it. -/
theorem freeBehind_placeLine {chunk : Chunk} {text : List Char} (placed : IsPlaced chunk)
    (free : IsFree chunk.path.toList) (free' : FreeBehind none text) :
    FreeBehind none ((FilePoints.placeLine chunk).toList ++ '\n' :: '\n' :: text) := by
  have path : FreeBehind (some ' ') (chunk.path.toList ++ '\n' :: '\n' :: text) :=
    freeBehind_append_line ((isFree_iff_freeBehind.1 free).behind rfl) (freeBehind_newline free')
      (.inr placed.closed)
  have layer : FreeBehind (some ' ')
      (chunk.layer.toList ++ ' ' :: (chunk.path.toList ++ '\n' :: '\n' :: text)) := by
    rw [placed.layer_eq]
    refine freeBehind_append_quiet (isQuiet_layer _) rfl (by decide) (by decide) ?_
    exact (freeBehind_cons (by decide) (by decide) (by decide)).2 path
  have language : FreeBehind none (chunk.language.id.toList ++ ' ' ::
      (chunk.layer.toList ++ ' ' :: (chunk.path.toList ++ '\n' :: '\n' :: text))) := by
    refine freeBehind_append_quiet (isQuiet_language _) rfl (by decide) (by decide) ?_
    exact (freeBehind_cons (by decide) (by decide) (by decide)).2 layer
  have same : (FilePoints.placeLine chunk).toList ++ '\n' :: '\n' :: text =
      chunk.language.id.toList ++ ' ' ::
        (chunk.layer.toList ++ ' ' :: (chunk.path.toList ++ '\n' :: '\n' :: text)) := by
    simp [FilePoints.placeLine]
  rwa [same]

/-- The place of a chunk begins with a letter. -/
theorem exists_cons_placeLine (chunk : Chunk) :
    ∃ c rest, (FilePoints.placeLine chunk).toList = c :: rest ∧ ¬FollowsBlank c := by
  have every : ∀ language : Language,
      ∃ c rest, language.id.toList = c :: rest ∧ ¬FollowsBlank c := by
    intro language
    cases language <;> exact ⟨_, _, rfl, by decide⟩
  obtain ⟨c, rest, id, apart⟩ := every chunk.language
  exact ⟨c, rest ++ (" " ++ chunk.layer ++ " " ++ chunk.path).toList,
    by simp [FilePoints.placeLine, id], apart⟩

/-- **What is embedded of a chunk is free of credentials,** whatever its text and its description
are, if its path is. -/
theorem isFree_embeddingText {described : DescribedChunk} (placed : IsPlaced described.chunk)
    (free : IsFree described.chunk.path.toList) :
    IsFree (FilePoints.embeddingText described).toList := by
  rw [isFree_iff_freeBehind]
  have body := freeBehind_placeLine placed free
    (freeBehind_redact rfl described.chunk.content.toList)
  unfold FilePoints.embeddingText FilePoints.content Secret.redacted
  dsimp only
  split
  · simpa using body
  · obtain ⟨c, rest, begins, apart⟩ := exists_cons_placeLine described.chunk
    have description : FreeBehind none (redact described.description.toList ++ ['\n']) :=
      freeBehind_concat_blank (by decide) (freeBehind_redact (by rfl) _)
    rw [begins] at body
    have whole := freeBehind_append_line description body (.inl apart)
    have same : c :: (rest ++ '\n' :: '\n' :: redact described.chunk.content.toList) =
        (FilePoints.placeLine described.chunk).toList ++
          '\n' :: '\n' :: redact described.chunk.content.toList := by
      rw [begins, List.cons_append]
    rw [List.append_eq, same] at whole
    simpa using whole

/-! ## Prompts -/

/-- What a prompt for a description says behind the path. -/
def behindPath (file chunk : List Char) (language : Language) : List Char :=
  ' ' :: ("language=\"".toList ++ (language.id.toList ++ "\">".toList)) ++
    '\n' :: (redact (file.take Describer.maxDocumentChars) ++
      '\n' :: ('<' :: "/document>\nHere is a chunk from the document above:\n<chunk>".toList ++
        '\n' :: (redact chunk ++
          '\n' :: '<' ::
            ("/chunk>\nIn 2-3 sentences, situate this chunk within the file: what it does, ".toList ++
              "what it depends on and what uses it. Answer with the description only.".toList))))

theorem toList_describerPrompt (file chunk : List Char) (path : String) (language : Language) :
    (Describer.prompt file chunk path language).toList =
      "<document path=".toList ++
        ('"' :: path.toList ++ '"' :: behindPath file chunk language) := by
  have first : "<document path=\"".toList = "<document path=".toList ++ ['"'] := by decide
  have second : "\" language=\"".toList = '"' :: ' ' :: "language=\"".toList := by decide
  have third : "\">\n".toList = "\">".toList ++ ['\n'] := by decide
  have fourth : "\n</document>\nHere is a chunk from the document above:\n<chunk>\n".toList =
      '\n' :: '<' :: ("/document>\nHere is a chunk from the document above:\n<chunk>".toList ++
        ['\n']) := by
    rw [String.toList_ofList, String.toList_ofList]
    rfl
  have fifth :
      "\n</chunk>\nIn 2-3 sentences, situate this chunk within the file: what it does, ".toList =
        '\n' :: '<' ::
          "/chunk>\nIn 2-3 sentences, situate this chunk within the file: what it does, ".toList := by
    rw [String.toList_ofList, String.toList_ofList]
  unfold Describer.prompt behindPath
  simp only [String.toList_append, String.toList_ofList, first, second, third, fourth, fifth,
    List.append_assoc, List.cons_append, List.nil_append]

/-- Whatever the file and the chunk hold, the prompt is free behind the path. -/
theorem freeBehind_behindPath (file chunk : List Char) (language : Language) :
    FreeBehind none (behindPath file chunk language) := by
  have parted : ∀ text, FreeBehind none (redact text) := freeBehind_redact rfl
  -- the text is put together from its end
  have closing : FreeBehind none ('<' ::
      ("/chunk>\nIn 2-3 sentences, situate this chunk within the file: what it does, ".toList ++
        "what it depends on and what uses it. Answer with the description only.".toList)) := by
    rw [String.toList_ofList, String.toList_ofList]
    exact freeBehind_of_occursIn (by decide +kernel)
  have fromChunk := freeBehind_append_line (parted chunk) closing (.inl (by decide))
  have between : IsQuiet
      ('<' :: "/document>\nHere is a chunk from the document above:\n<chunk>".toList) := by
    rw [String.toList_ofList]
    decide +kernel
  have fromBetween : FreeBehind none _ := freeBehind_append_quiet between rfl (by decide)
    (by decide) (freeBehind_newline fromChunk)
  have fromFile := freeBehind_append_line (parted (file.take Describer.maxDocumentChars))
    fromBetween (.inl (by decide))
  have named : ∀ language ∈ Language.all,
      IsQuiet (' ' :: ("language=\"".toList ++ (language.id.toList ++ "\">".toList))) := by
    decide +kernel
  exact freeBehind_append_quiet (named language (mem_all language)) rfl (by decide) (by decide)
    (freeBehind_newline fromFile)

/-- **A prompt for a description is free of credentials,** whatever the file and the chunk hold, if
and only if the path is free between quotes. -/
theorem isFree_describerPrompt_iff (file chunk : List Char) (path : String) (language : Language) :
    IsFree (Describer.prompt file chunk path language).toList ↔
      IsFree ('"' :: path.toList ++ ['"']) := by
  rw [isFree_iff_freeBehind, isFree_iff_freeBehind, toList_describerPrompt]
  constructor
  · intro free
    have fromPath := free.of_append_right
    rw [← List.singleton_append (l := behindPath file chunk language),
      ← List.append_assoc] at fromPath
    exact fromPath.of_append_left.behind rfl
  · intro quoted
    have opening : IsQuiet "<document path=".toList := by decide +kernel
    have fromPath := freeBehind_append_quoted quoted (freeBehind_behindPath file chunk language)
    exact freeBehind_append_quiet opening rfl (by decide) (by decide) (fromPath.behind rfl)

/-- **The prompt for phrasings is free of credentials if and only if the query is.** -/
theorem isFree_rephraserPrompt_iff (query : String) :
    IsFree (Rephraser.prompt query).toList ↔ IsFree query.toList := by
  rw [isFree_iff_freeBehind, isFree_iff_freeBehind]
  unfold Rephraser.prompt
  constructor
  · intro free
    rw [String.toList_append] at free
    refine free.of_append_right.behind ?_
    rw [String.toList_append, Pattern.lastOr_append, String.toList_ofList]
    rfl
  · intro free
    have opening : FreeBehind none
        ("Rewrite the following code search query into 2-3 semantically different phrasings ".toList ++
          ("that a developer might use to find the same code. ".toList ++
            "Respond with a JSON array of strings only.\n".toList)) := by
      rw [String.toList_ofList, String.toList_ofList, String.toList_ofList]
      exact freeBehind_of_occursIn (by decide +kernel)
    have named : IsQuiet ('Q' :: "uery:".toList) := by decide +kernel
    have fromQuery : FreeBehind (some ':') (' ' :: query.toList) :=
      (freeBehind_cons (by decide) (by decide) (by decide)).2 (free.behind rfl)
    have fromName : FreeBehind none _ :=
      freeBehind_append_quiet named rfl (by decide) (by decide) fromQuery
    have whole := freeBehind_append_line opening fromName (.inl (by decide))
    have final : "Respond with a JSON array of strings only.\n\nQuery: ".toList =
        "Respond with a JSON array of strings only.\n".toList ++
          '\n' :: 'Q' :: ("uery:".toList ++ [' ']) := by
      rw [String.toList_ofList, String.toList_ofList]
      rfl
    simpa only [String.toList_append, final, List.append_assoc, List.cons_append, List.nil_append,
      List.append_eq] using whole

/-- **A composite is free of credentials,** whatever the query is. -/
theorem isFree_composite (request : SearchRequest) (phrasing : String) :
    IsFree (request.composite phrasing).toList := by
  rw [SearchRequest.composite, redacted, String.toList_ofList]
  exact isFree_redact _

end CodeIndex.Secret
