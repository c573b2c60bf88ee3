import CodeIndex.Proofs.Run.Rendition
import CodeIndex.Proofs.Search.Facets
import CodeIndex.Proofs.Search.Outcome
import CodeIndex.Proofs.Store.Keyed

/-!
# Payloads written and read

Indexing writes payloads and searching reads them, and a field that the two understand differently
would make hits vanish without a word.  Here the stored form is laid down once more, as a table:
`Payload.schema` lists under which keys a payload is stored, what the values look like, and what
counts where there is none.  Writing and reading are compared with the table and not with each
other.

The reader is strict in one place and lenient in two.  A value that is there has to have its form; a
field with a default may be missing; and a name may also come as an object that has the name as its
only key.  The last is why reading is not one to one, and why what is stored of a field
(`Payload.Field.stored?`) is said up to the form of names.

For each form there is a pair of a writer and a reader (`Payload.Form.IsCodec`).  What is to be said
of a field follows from that pair, whether it is required or not, and a payload is read field by
field.

## Main definitions

* `Payload.schema`, `Payload.Field.Accepts`: the table, and which stored payloads are right about a
  field of it.

## Main statements

* `Payload.ofMap_eq_ok_iff`: what reading comes to.
* `Payload.exists_ofMap_iff`: what can be read.
* `Payload.encoding_faithful`
-/

namespace CodeIndex

theorem Language.ofId?_eq_some_iff {name : String} {language : Language} :
    ofId? name = some language ↔ name = language.id := by
  constructor
  · intro found
    exact (id_of_ofId? found).symm
  · rintro rfl
    cases language <;> rfl

theorem ChunkKind.ofName?_eq_some_iff {name : String} {kind : ChunkKind} :
    ofName? name = some kind ↔ name = kind.name := by
  constructor
  · intro found
    have same := List.find?_some (p := fun kind : ChunkKind => kind.name == name) found
    exact (eq_of_beq same).symm
  · rintro rfl
    cases kind <;> rfl

namespace Payload

/-! ## The form of stored payloads -/

/-- What the value of a field looks like.  Optional texts may be null. -/
inductive Form where
  | text
  | count
  | optionalText
  | texts
  /-- One of several names. -/
  | oneOf (known : List String)

namespace Form

/-- A value in the form in which payloads are written.  Of names there is a second form, an object
with the name as its only field and nothing in it. -/
def plain : Form → Json → Json
  | oneOf _, .object [(name, .null)] => .string name
  | _, json => json

/-- **Whether a value has a form.** -/
def Fits : Form → Json → Prop
  | text, json => ∃ s, json = .string s
  | count, json => ∃ n : Nat, json = .nat n
  | optionalText, json => ∃ text?, json = .optional text?
  | texts, json => ∃ list, json = .strings list
  | oneOf known, json => ∃ name ∈ known, json = .string name ∨ json = .object [(name, .null)]

end Form

/-- A field of stored payloads: its key, the form of its value, and what counts where it is
missing, if it may be missing. -/
structure Field where
  key : String
  form : Form
  default? : Option Json

/-- **The fields of stored payloads.** -/
def schema : List Field :=
  [⟨"repo", .text, none⟩, ⟨"filePath", .text, none⟩,
    ⟨"language", .oneOf (Language.all.map Language.id), none⟩, ⟨"layer", .text, none⟩,
    ⟨"startLine", .count, none⟩, ⟨"endLine", .count, none⟩,
    ⟨"symbolName", .optionalText, some .null⟩, ⟨"parentSymbol", .optionalText, some .null⟩,
    ⟨"chunkType", .oneOf (ChunkKind.all.map ChunkKind.name), none⟩,
    ⟨"annotations", .texts, some (.array [])⟩, ⟨"chunkIndex", .count, none⟩,
    ⟨"totalChunks", .count, none⟩, ⟨"headerChunkId", .optionalText, some .null⟩,
    ⟨"content", .text, none⟩, ⟨"context", .text, some (.string "")⟩]

namespace Field

/-- Whether a stored payload is right about a field: what is there has its form, and if nothing is
there nothing has to be. -/
structure Accepts (field : Field) (map : Dictionary Json) : Prop where
  fits : ∀ json, map.get? field.key = some json → field.form.Fits json
  missing : map.get? field.key = none → field.default?.isSome = true

/-- What a stored payload says of a field. -/
def stored? (field : Field) (map : Dictionary Json) : Option Json :=
  ((map.get? field.key).map field.form.plain).or field.default?

end Field

/-! ## Reading one value -/

/-- Whether values of a form are read as what they were written from. -/
structure Form.IsCodec {α : Type} (form : Form) (decode : Json → Except DecodeError α)
    (encode : α → Json) : Prop where
  decode_eq_ok_iff : ∀ {json a}, decode json = .ok a ↔ form.plain json = encode a
  fits_iff : ∀ {json}, form.Fits json ↔ ∃ a, form.plain json = encode a
  injective : Function.Injective encode

theorem isCodec_text : Form.text.IsCodec Json.decodeString .string where
  decode_eq_ok_iff := by
    intro json s
    cases json <;> simp [Json.decodeString, Form.plain]
  fits_iff := Iff.rfl
  injective := fun _ _ => Json.string.inj

theorem isCodec_count : Form.count.IsCodec Json.decodeCount .nat where
  decode_eq_ok_iff := by
    intro json n
    cases json with
    | number number =>
        cases number with
        | whole m =>
            by_cases nonneg : 0 ≤ m
            · simp only [Json.decodeCount, Form.plain, Json.nat, if_pos nonneg, Except.ok.injEq,
                Json.number.injEq, JsonNumber.whole.injEq]
              omega
            · simp only [Json.decodeCount, Form.plain, Json.nat, if_neg nonneg, reduceCtorEq,
                Json.number.injEq, JsonNumber.whole.injEq, false_iff]
              omega
        | real x => simp [Json.decodeCount, Form.plain, Json.nat]
    | _ => simp [Json.decodeCount, Form.plain, Json.nat]
  fits_iff := Iff.rfl
  injective := fun _ _ same => Int.ofNat.inj (JsonNumber.whole.inj (Json.number.inj same))

theorem isCodec_optionalText :
    Form.optionalText.IsCodec (Json.decodeOptional Json.decodeString) .optional where
  decode_eq_ok_iff := by
    intro json text?
    cases json <;> cases text? <;>
      simp [Json.decodeOptional, Json.decodeString, Form.plain, Json.optional, Except.map]
  fits_iff := Iff.rfl
  injective := fun a b same => by
    cases a <;> cases b <;> simp_all [Json.optional]

theorem mapM_decodeString_eq_ok_iff {items : List Json} {texts : List String} :
    items.mapM Json.decodeString = .ok texts ↔ items = texts.map .string := by
  induction items generalizing texts with
  | nil => cases texts <;> simp [pure, Except.pure]
  | cons item items ih =>
      simp only [List.mapM_cons, bind_eq_ok_iff, ih, isCodec_text.decode_eq_ok_iff]
      cases texts with
      | nil => simp [pure, Except.pure]
      | cons text texts => simp [pure, Except.pure, Form.plain]

theorem isCodec_texts : Form.texts.IsCodec (Json.decodeList Json.decodeString) .strings where
  decode_eq_ok_iff := by
    intro json texts
    cases json <;> simp [Json.decodeList, Form.plain, Json.strings, mapM_decodeString_eq_ok_iff]
  fits_iff := Iff.rfl
  injective := fun _ _ same =>
    List.map_injective_iff.2 isCodec_text.injective (Json.array.inj same)

/-- The two forms of a name. -/
theorem plain_oneOf_eq_string_iff {known : List String} {json : Json} {name : String} :
    (Form.oneOf known).plain json = .string name ↔
      json = .string name ∨ json = .object [(name, .null)] := by
  unfold Form.plain
  split
  · rename_i same
    cases same
    simp
  · rename_i other
    refine ⟨.inl, ?_⟩
    rintro (same | rfl)
    · exact same
    · exact absurd rfl (other known name rfl)

/-- Names are read as what they are the names of, in both of their forms. -/
theorem isCodec_oneOf {α : Type} {ofName? : String → Option α} {nameOf : α → String}
    {all : List α} {known : List String} (complete : ∀ a, a ∈ all)
    (ofName?_eq_some_iff : ∀ {name a}, ofName? name = some a ↔ name = nameOf a) :
    (Form.oneOf (all.map nameOf)).IsCodec (Json.decodeName ofName? known)
      fun a => .string (nameOf a) where
  decode_eq_ok_iff := by
    intro json a
    rw [plain_oneOf_eq_string_iff]
    unfold Json.decodeName
    split
    · rename_i name
      simp only [Json.string.injEq, reduceCtorEq, or_false, ← ofName?_eq_some_iff]
      cases ofName? name <;> simp
    · rename_i name value
      simp only [reduceCtorEq, Json.object.injEq, List.cons.injEq, Prod.mk.injEq, and_true,
        false_or, ← ofName?_eq_some_iff]
      cases ofName? name <;> cases value <;> simp
    · rename_i many
      refine iff_of_false nofun ?_
      rintro (same | same)
      · cases same
      · exact many _ _ (Json.object.inj same)
    · rename_i noText _ noObject
      refine iff_of_false nofun ?_
      rintro (same | same)
      · exact noText _ same
      · exact noObject _ same
  fits_iff := by
    intro json
    simp only [plain_oneOf_eq_string_iff, Form.Fits, List.mem_map]
    constructor
    · rintro ⟨_, ⟨a, -, rfl⟩, fits⟩
      exact ⟨a, fits⟩
    · rintro ⟨a, fits⟩
      exact ⟨nameOf a, ⟨a, complete a, rfl⟩, fits⟩
  injective := fun a b same => by
    have same : nameOf a = nameOf b := Json.string.inj same
    exact Option.some.inj ((ofName?_eq_some_iff.2 rfl).symm.trans (ofName?_eq_some_iff.2 same))

theorem isCodec_language :
    (Form.oneOf (Language.all.map Language.id)).IsCodec decodeLanguage
      fun language => .string language.id :=
  isCodec_oneOf (by intro language; cases language <;> decide) Language.ofId?_eq_some_iff

theorem isCodec_kind :
    (Form.oneOf (ChunkKind.all.map ChunkKind.name)).IsCodec decodeKind
      fun kind => .string kind.name :=
  isCodec_oneOf (by intro kind; cases kind <;> decide) ChunkKind.ofName?_eq_some_iff

/-! ## Reading one field -/

section Field

variable {α : Type} {form : Form} {decode : Json → Except DecodeError α} {encode : α → Json}
variable {map : Dictionary Json} {key : String} {a : α}

theorem field?_eq_ok_iff {value : Option α} :
    field? map key decode = .ok value ↔
      (map.get? key = none ∧ value = none) ∨
        ∃ json a, map.get? key = some json ∧ decode json = .ok a ∧ value = some a := by
  unfold field?
  cases there : map.get? key with
  | none => simp [eq_comm]
  | some json => cases decoded : decode json <;> simp [Except.map, decoded, eq_comm]

/-- A field that has to be there is read as what is stored of it. -/
theorem required_iff (codec : form.IsCodec decode encode) :
    (∃ value, field? map key decode = .ok value ∧ require key value = .ok a) ↔
      Field.stored? ⟨key, form, none⟩ map = some (encode a) := by
  simp only [field?_eq_ok_iff, Field.stored?]
  cases there : map.get? key with
  | none => simp [require]
  | some json =>
      simp [require, ← codec.decode_eq_ok_iff]

/-- A field that may be missing is read as what is stored of it, too. -/
theorem optional_iff (codec : form.IsCodec decode encode) {absent : α} :
    (∃ value, field? map key decode = .ok value ∧ value.getD absent = a) ↔
      Field.stored? ⟨key, form, some (encode absent)⟩ map = some (encode a) := by
  simp only [field?_eq_ok_iff, Field.stored?]
  cases there : map.get? key with
  | none => simp [codec.injective.eq_iff]
  | some json =>
      simp [← codec.decode_eq_ok_iff]

/-- A field is right if and only if something is stored of it. -/
theorem accepts_iff (codec : form.IsCodec decode encode) {default? : Option Json}
    (written : ∀ json ∈ default?, ∃ a, json = encode a) :
    Field.Accepts ⟨key, form, default?⟩ map ↔
      ∃ a, Field.stored? ⟨key, form, default?⟩ map = some (encode a) := by
  unfold Field.stored?
  cases there : map.get? key with
  | none =>
      rw [Option.map_none, Option.none_or]
      constructor
      · intro accepts
        obtain ⟨json, given⟩ := Option.isSome_iff_exists.1 (accepts.missing there)
        obtain ⟨a, rfl⟩ := written json given
        exact ⟨a, given⟩
      · rintro ⟨a, given⟩
        exact ⟨by simp [there], fun _ => Option.isSome_iff_exists.2 ⟨_, given⟩⟩
  | some json =>
      simp only [Option.map_some, Option.some_or, Option.some.injEq, ← codec.fits_iff]
      constructor
      · exact fun accepts => accepts.fits json there
      · exact fun fits => ⟨by simp [there, fits], by simp [there]⟩

theorem accepts_required_iff (codec : form.IsCodec decode encode) :
    Field.Accepts ⟨key, form, none⟩ map ↔
      ∃ a, Field.stored? ⟨key, form, none⟩ map = some (encode a) :=
  accepts_iff codec nofun

theorem accepts_optional_iff (codec : form.IsCodec decode encode) (absent : α) :
    Field.Accepts ⟨key, form, some (encode absent)⟩ map ↔
      ∃ a, Field.stored? ⟨key, form, some (encode absent)⟩ map = some (encode a) :=
  accepts_iff codec fun _ given => ⟨absent, (Option.some.inj given).symm⟩

end Field

/-! ## Reading a payload -/

/-- **Fields are read on their own:** all that are there are judged, then those that have to be
there are asked for, and this comes to each of them being read by itself. -/
theorem ofMap_eq_ok_iff_fields {map : Dictionary Json} {p : Payload} :
    ofMap map = .ok p ↔
      (∃ v, field? map "repo" Json.decodeString = .ok v ∧ require "repo" v = .ok p.repository) ∧
      (∃ v, field? map "filePath" Json.decodeString = .ok v ∧ require "filePath" v = .ok p.path) ∧
      (∃ v, field? map "language" decodeLanguage = .ok v ∧ require "language" v = .ok p.language) ∧
      (∃ v, field? map "layer" Json.decodeString = .ok v ∧ require "layer" v = .ok p.layer) ∧
      (∃ v, field? map "startLine" Json.decodeCount = .ok v ∧
        require "startLine" v = .ok p.startLine) ∧
      (∃ v, field? map "endLine" Json.decodeCount = .ok v ∧ require "endLine" v = .ok p.endLine) ∧
      (∃ v, field? map "symbolName" (Json.decodeOptional Json.decodeString) = .ok v ∧
        v.getD none = p.symbol) ∧
      (∃ v, field? map "parentSymbol" (Json.decodeOptional Json.decodeString) = .ok v ∧
        v.getD none = p.parent) ∧
      (∃ v, field? map "chunkType" decodeKind = .ok v ∧ require "chunkType" v = .ok p.kind) ∧
      (∃ v, field? map "annotations" (Json.decodeList Json.decodeString) = .ok v ∧
        v.getD [] = p.annotations) ∧
      (∃ v, field? map "chunkIndex" Json.decodeCount = .ok v ∧
        require "chunkIndex" v = .ok p.index) ∧
      (∃ v, field? map "totalChunks" Json.decodeCount = .ok v ∧
        require "totalChunks" v = .ok p.total) ∧
      (∃ v, field? map "headerChunkId" (Json.decodeOptional Json.decodeString) = .ok v ∧
        v.getD none = p.headerId) ∧
      (∃ v, field? map "content" Json.decodeString = .ok v ∧ require "content" v = .ok p.content) ∧
      (∃ v, field? map "context" Json.decodeString = .ok v ∧ v.getD "" = p.context) := by
  have join_eq (v : Option (Option String)) : v.join = v.getD none := by cases v <;> rfl
  obtain ⟨repository, path, language, layer, startLine, endLine, symbol, parent, kind, annotations,
    index, total, headerId, content, context⟩ := p
  simp only [ofMap, bind_eq_ok_iff, join_eq]
  constructor
  · rintro ⟨_, annotations, _, index, _, kind, _, content, _, context, _, endLine, _, path, _,
      headerId, _, language, _, layer, _, parent, _, repository, _, startLine, _, symbol, _, total,
      _, repository', _, path', _, language', _, layer', _, startLine', _, endLine', _, kind', _,
      index', _, total', _, content', ⟨⟩⟩
    exact ⟨⟨_, repository, repository'⟩, ⟨_, path, path'⟩, ⟨_, language, language'⟩,
      ⟨_, layer, layer'⟩, ⟨_, startLine, startLine'⟩, ⟨_, endLine, endLine'⟩, ⟨_, symbol, rfl⟩,
      ⟨_, parent, rfl⟩, ⟨_, kind, kind'⟩, ⟨_, annotations, rfl⟩, ⟨_, index, index'⟩,
      ⟨_, total, total'⟩, ⟨_, headerId, rfl⟩, ⟨_, content, content'⟩, ⟨_, context, rfl⟩⟩
  · rintro ⟨⟨_, repository, repository'⟩, ⟨_, path, path'⟩, ⟨_, language, language'⟩,
      ⟨_, layer, layer'⟩, ⟨_, startLine, startLine'⟩, ⟨_, endLine, endLine'⟩, ⟨_, symbol, rfl⟩,
      ⟨_, parent, rfl⟩, ⟨_, kind, kind'⟩, ⟨_, annotations, rfl⟩, ⟨_, index, index'⟩,
      ⟨_, total, total'⟩, ⟨_, headerId, rfl⟩, ⟨_, content, content'⟩, ⟨_, context, rfl⟩⟩
    exact ⟨_, annotations, _, index, _, kind, _, content, _, context, _, endLine, _, path, _,
      headerId, _, language, _, layer, _, parent, _, repository, _, startLine, _, symbol, _, total,
      _, repository', _, path', _, language', _, layer', _, startLine', _, endLine', _, kind', _,
      index', _, total', _, content', rfl⟩

/-- A written payload has under each key what it has in the field of that name. -/
theorem get?_toMap_eq_lookup (p : Payload) (key : String) :
    p.toMap.get? key = p.fields.lookup key := by
  have listed : p.fields = (p.fields.map (·.1)).filterMap fun k =>
      (p.fields.lookup k).map fun value => (k, value) := by
    simp [fields, List.lookup_cons]
  rw [toMap, listed, Dictionary.get?_ofList_filterMap, ← listed]
  split
  · rfl
  · rename_i absent
    rw [eq_comm, List.lookup_eq_none_iff]
    intro field member
    rw [bne_iff_ne]
    rintro rfl
    exact absent (List.mem_map_of_mem member)

/-- **What reading comes to:** a stored payload is read as the one that would be written with what
is stored of each field. -/
theorem ofMap_eq_ok_iff {map : Dictionary Json} {p : Payload} :
    ofMap map = .ok p ↔ ∀ field ∈ schema, field.stored? map = p.toMap.get? field.key := by
  rw [ofMap_eq_ok_iff_fields]
  simp only [required_iff isCodec_text, required_iff isCodec_count, required_iff isCodec_language,
    required_iff isCodec_kind, optional_iff isCodec_text, optional_iff isCodec_texts,
    optional_iff isCodec_optionalText, get?_toMap_eq_lookup, schema, List.forall_mem_cons,
    List.not_mem_nil, false_implies, implies_true, and_true]
  exact Iff.rfl

/-- **What can be read:** stored payloads that are right about each field. -/
theorem exists_ofMap_iff {map : Dictionary Json} :
    (∃ p, ofMap map = .ok p) ↔ ∀ field ∈ schema, field.Accepts map := by
  have optionalText (key : String) : Field.Accepts ⟨key, .optionalText, some .null⟩ map ↔
      ∃ a, Field.stored? ⟨key, .optionalText, some .null⟩ map = some (Json.optional a) :=
    accepts_optional_iff isCodec_optionalText none
  have texts (key : String) : Field.Accepts ⟨key, .texts, some (.array [])⟩ map ↔
      ∃ a, Field.stored? ⟨key, .texts, some (.array [])⟩ map = some (Json.strings a) :=
    accepts_optional_iff isCodec_texts []
  simp only [ofMap_eq_ok_iff, get?_toMap_eq_lookup, schema, List.forall_mem_cons,
    List.not_mem_nil, false_implies, implies_true, and_true, accepts_required_iff isCodec_text,
    accepts_required_iff isCodec_count, accepts_required_iff isCodec_language,
    accepts_required_iff isCodec_kind, accepts_optional_iff isCodec_text "", optionalText, texts]
  constructor
  · rintro ⟨p, repository, path, language, layer, startLine, endLine, symbol, parent, kind,
      annotations, index, total, headerId, content, context⟩
    exact ⟨⟨_, repository⟩, ⟨_, path⟩, ⟨_, language⟩, ⟨_, layer⟩, ⟨_, startLine⟩, ⟨_, endLine⟩,
      ⟨_, symbol⟩, ⟨_, parent⟩, ⟨_, kind⟩, ⟨_, annotations⟩, ⟨_, index⟩, ⟨_, total⟩, ⟨_, headerId⟩,
      ⟨_, content⟩, ⟨_, context⟩⟩
  · rintro ⟨⟨_, repository⟩, ⟨_, path⟩, ⟨_, language⟩, ⟨_, layer⟩, ⟨_, startLine⟩, ⟨_, endLine⟩,
      ⟨_, symbol⟩, ⟨_, parent⟩, ⟨_, kind⟩, ⟨_, annotations⟩, ⟨_, index⟩, ⟨_, total⟩, ⟨_, headerId⟩,
      ⟨_, content⟩, ⟨_, context⟩⟩
    exact ⟨⟨_, _, _, _, _, _, _, _, _, _, _, _, _, _, _⟩, repository, path, language, layer,
      startLine, endLine, symbol, parent, kind, annotations, index, total, headerId, content,
      context⟩

/-! ## What was written is read, and what is read was stored -/

/-- The keys of written payloads. -/
theorem keys_toMap (p : Payload) : p.toMap.keys.Perm (schema.map Field.key) := by
  have distinct : (schema.map Field.key).Nodup := p.nodup_fields
  refine (List.perm_ext_iff_of_nodup p.toMap.nodup_keys distinct).2 fun key => ?_
  rw [Dictionary.mem_keys_iff, get?_toMap_eq_lookup, Ne, List.lookup_eq_none_iff]
  show ¬_ ↔ key ∈ p.fields.map (·.1)
  constructor
  · intro listed
    by_contra absent
    exact listed fun field member =>
      bne_iff_ne.2 fun same => absent (same ▸ List.mem_map_of_mem member)
  · intro listed none
    obtain ⟨field, member, rfl⟩ := List.mem_map.1 listed
    exact absurd (none field member) (by simp)

/-- Whether the names in a stored payload are in their plain form, wherever there are any. -/
def NamesAreTexts (map : Dictionary Json) : Prop :=
  ∀ key ∈ ["language", "chunkType"], ∀ json, map.get? key = some json → ∃ name, json = .string name

/-- Of plain values it is they themselves that are stored. -/
theorem stored?_eq {map : Dictionary Json} (named : NamesAreTexts map) {field : Field}
    (member : field ∈ schema) :
    field.stored? map = (map.get? field.key).or field.default? := by
  have names : ∀ field ∈ schema, ∀ known, field.form = .oneOf known →
      field.key ∈ ["language", "chunkType"] := by
    simp [schema]
  unfold Field.stored?
  cases there : map.get? field.key with
  | none => rfl
  | some json =>
      rw [Option.map_some]
      congr 2
      cases form : field.form with
      | oneOf known =>
          obtain ⟨name, rfl⟩ := named _ (names field member known form) json there
          rfl
      | _ => rfl

/-- **Payloads are stored faithfully.**  What was written is read as what it was.  What is read of
payloads from elsewhere, and written again, has the keys of the schema and no others, is under each
of them as it was, and is the default where there was nothing.  And what can be read are the
payloads that are right about every field of the schema. -/
theorem encoding_faithful :
    (∀ p : Payload, ofMap p.toMap = .ok p) ∧
      (∀ (map : Dictionary Json) (p : Payload), NamesAreTexts map → ofMap map = .ok p →
        p.toMap.keys.Perm (schema.map Field.key) ∧
          ∀ field ∈ schema, p.toMap.get? field.key = (map.get? field.key).or field.default?) ∧
      ∀ map : Dictionary Json, (∃ p, ofMap map = .ok p) ↔ ∀ field ∈ schema, field.Accepts map := by
  refine ⟨fun p => ?_, fun map p named read => ⟨p.keys_toMap, fun field member => ?_⟩,
    fun map => exists_ofMap_iff⟩
  · have named : NamesAreTexts p.toMap := by
      simp [NamesAreTexts, get?_toMap_eq_lookup, fields, List.lookup_cons]
    refine ofMap_eq_ok_iff.2 fun field member => ?_
    have there : field.key ∈ p.toMap.keys :=
      p.keys_toMap.mem_iff.2 (List.mem_map_of_mem member)
    obtain ⟨value, there⟩ := Option.ne_none_iff_exists'.1 (Dictionary.mem_keys_iff.1 there)
    rw [stored?_eq named member, there, Option.some_or]
  · rw [← ofMap_eq_ok_iff.1 read field member, stored?_eq named member]

/-- A payload without the fields that may be missing, and with one that nobody asks for. -/
def minimal : Dictionary Json :=
  .ofList [("repo", .string "shop"), ("filePath", .string "A.java"), ("language", .string "java"),
    ("layer", .string "service"), ("startLine", .nat 1), ("endLine", .nat 9),
    ("chunkType", .string "file"), ("chunkIndex", .nat 0), ("totalChunks", .nat 1),
    ("content", .string "class A"), ("branch", .string "main")]

theorem encoding_faithful_minimal :
    ∃ p, NamesAreTexts minimal ∧ ofMap minimal = .ok p ∧
      p.toMap.get? "content" = some (.string "class A") ∧
      p.toMap.get? "annotations" = some (.array []) ∧ "branch" ∉ p.toMap.keys := by
  have named : NamesAreTexts minimal := by
    intro key member json there
    rcases List.mem_pair.1 member with rfl | rfl
    · exact ⟨"java", (Option.some.inj there).symm⟩
    · exact ⟨"file", (Option.some.inj there).symm⟩
  have read : ofMap minimal = .ok ⟨"shop", "A.java", .java, "service", 1, 9, none, none, .file, [],
      0, 1, none, "class A", ""⟩ := rfl
  obtain ⟨keys, same⟩ := encoding_faithful.2.1 minimal _ named read
  refine ⟨_, named, read, ?_, ?_, ?_⟩
  · exact same ⟨"content", .text, none⟩ (by simp [schema])
  · exact same ⟨"annotations", .texts, some (.array [])⟩ (by simp [schema])
  · rw [keys.mem_iff]
    decide

end Payload

end CodeIndex
