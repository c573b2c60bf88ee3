import CodeIndex.Proofs.Chunk.Scan
import Mathlib.Data.List.Infix

/-!
# Components that are written out

A component can be put together from its parts: stretches of text and blocks by turns, and in the
body of a template stretches of text and further templates.  When such a `Document` is written out,
the blocks are found again, each one with its kind and where it stands (`blocks_render`).

What is put together is well formed by its type.  No text between blocks holds an opening tag, no
text of a template holds a tag of one, and no raw body holds the closing tag that ends it; for the
rest, texts are arbitrary, and raw bodies may hold all the other tags.  So nothing is found too
early.  That no tag is made up of the end of one part and the beginning of the next is the lemma
`isPrefix_of_border`: the bracket that opens a tag does not occur a second time in it, and behind a
text nothing but a tag can follow.

How deep templates are nested is unknown to the scan but for its count.  The count enters the
induction over a body as a variable: from every count on, the scan passes over the body
(`templateEnd?_render`).

## Main definitions

* `Component.Document`, `Component.Document.render`
* `Component.Document.places`: where the blocks of a document stand.

## Main statements

* `Component.templateEnd?_render`, `Component.block?_render`
* `Component.Document.blocks_render`
-/

namespace CodeIndex.Component

open CodeIndex.Text

/-! ## Documents -/

/-- Whether an opening tag of a kind occurs in a text: the name, and behind it a character that ends
a name.  Such a tag opens a block whether or not it is ever closed by a bracket, and also if it
closes itself. -/
def HasOpening (kind : BlockKind) (text : List Char) : Prop :=
  ∃ before c after, text = before ++ (kind.opening ++ c :: after) ∧ endsName c

/-- Whether the closing tag of a kind occurs in a text. -/
def HasClosing (kind : BlockKind) (text : List Char) : Prop := kind.closing <:+: text

/-- What stands in an opening tag behind its name. -/
structure Attributes where
  text : List Char
  separate : ∀ c ∈ text.head?, isBlank c
  no_open : '<' ∉ text
  no_close : '>' ∉ text

/-- An opening tag. -/
def BlockKind.tagWith (kind : BlockKind) (attributes : Attributes) : List Char :=
  kind.opening ++ (attributes.text ++ ['>'])

/-- A text without tags of templates. -/
structure TemplateText where
  text : List Char
  no_opening : ¬HasOpening .template text
  no_closing : ¬HasClosing .template text

/-- The body of a template: texts and templates by turns. -/
inductive TemplateBody where
  | plain (text : TemplateText)
  | nested (text : TemplateText) (attributes : Attributes) (inner rest : TemplateBody)

/-- The body of a block. -/
inductive Body : BlockKind → Type where
  | template (body : TemplateBody) : Body .template
  | raw {kind : BlockKind} (isRaw : kind ≠ .template) (text : List Char)
      (no_closing : ¬HasClosing kind text) : Body kind

/-- A block as it is written. -/
structure Element where
  kind : BlockKind
  attributes : Attributes
  body : Body kind

/-- A text without opening tags. -/
structure Gap where
  text : List Char
  no_opening : ∀ kind, ¬HasOpening kind text

/-- A component: texts and blocks by turns. -/
inductive Document where
  | last (gap : Gap)
  | block (gap : Gap) (element : Element) (rest : Document)

/-! ## Writing out -/

/-- The text of the body of a template. -/
def TemplateBody.render : TemplateBody → List Char
  | plain text => text.text
  | nested text attributes inner rest =>
    text.text ++ (BlockKind.template.tagWith attributes ++
      (inner.render ++ (BlockKind.template.closing ++ rest.render)))

/-- The text of a body. -/
def Body.render {kind : BlockKind} : Body kind → List Char
  | template body => body.render
  | raw _ text _ => text

namespace Element

/-- The opening tag of a block. -/
def tag (element : Element) : List Char := element.kind.tagWith element.attributes

/-- The text of a block. -/
def render (element : Element) : List Char :=
  element.tag ++ (element.body.render ++ element.kind.closing)

/-- Where a block stands that opens at a position, in whatever unit sizes are told. -/
def place (size : List Char → Nat) (opened : Nat) (element : Element) : Block :=
  let bodyStart := opened + size element.tag
  let bodyEnd := bodyStart + size element.body.render
  ⟨element.kind, opened, bodyStart, bodyEnd, bodyEnd + size element.kind.closing⟩

end Element

namespace Document

/-- The text of a component. -/
def render : Document → List Char
  | last gap => gap.text
  | block gap element rest => gap.text ++ (element.render ++ rest.render)

/-- Where the blocks of a component stand that begins at a position. -/
def places (size : List Char → Nat) (offset : Nat) : Document → List Block
  | last _ => []
  | block gap element rest =>
    let block := element.place size (offset + size gap.text)
    block :: rest.places size block.closed

end Document

/-! ## Tags and borders -/

variable {kind : BlockKind} {text here rest : List Char}

/-- Whether a tag may begin here or nothing follows. -/
def AtBracket (rest : List Char) : Prop := rest = [] ∨ ∃ tail, rest = '<' :: tail

theorem atBracket_cons (rest : List Char) : AtBracket ('<' :: rest) := .inr ⟨rest, rfl⟩

theorem atBracket_closing (kind : BlockKind) (rest : List Char) :
    AtBracket (kind.closing ++ rest) :=
  atBracket_cons _

theorem atBracket_tagWith (kind : BlockKind) (attributes : Attributes) (rest : List Char) :
    AtBracket (kind.tagWith attributes ++ rest) :=
  atBracket_cons _

/-- **No tag is made up of a text and what follows it,** if that begins with a tag itself. -/
theorem isPrefix_of_border {name : List Char} (once : '<' ∉ name) (some : here ≠ [])
    (border : AtBracket rest) (starts : '<' :: name <+: here ++ rest) : '<' :: name <+: here := by
  obtain ⟨c, here, rfl⟩ := List.exists_cons_of_ne_nil some
  rcases List.prefix_or_prefix_of_prefix starts (List.prefix_append _ rest) with inside | across
  · exact inside
  · obtain ⟨beyond, same⟩ := across
    rw [← same] at starts ⊢
    cases beyond with
    | nil => simp
    | cons d beyond =>
        -- the tag would go on with the bracket of the next one
        obtain ⟨ending, behind⟩ := (List.prefix_append_right_inj _).1 starts
        rcases border with rfl | ⟨tail, rfl⟩
        · cases behind
        · obtain ⟨rfl, -⟩ := List.cons.inj behind
          obtain ⟨-, rfl⟩ := List.cons.inj same
          exact absurd (by simp) once

theorem opensHere_iff :
    opensHere kind text = true ↔
      ∃ c after, text = kind.opening ++ c :: after ∧ endsName c = true := by
  constructor
  · intro opens
    have starts : startsWith kind.opening text = true := by
      by_contra other
      rw [opensHere_eq_false (by simpa using other)] at opens
      cases opens
    obtain ⟨behind, rfl⟩ := exists_of_startsWith starts
    rw [opensHere_append] at opens
    cases behind with
    | nil => cases opens
    | cons c after => exact ⟨c, after, rfl, by simpa using opens⟩
  · rintro ⟨c, after, rfl, ends⟩
    rw [opensHere_append]
    exact ends

/-- A text without opening tags has none before the next bracket either. -/
theorem opensHere_eq_false_of_border (lacks : ¬HasOpening kind text) (border : AtBracket rest)
    (suffix : here <:+ text) (some : here ≠ []) : opensHere kind (here ++ rest) = false := by
  rw [Bool.eq_false_iff]
  intro opens
  obtain ⟨c, after, same, ends⟩ := opensHere_iff.1 opens
  have once : '<' ∉ kind.tag.toList ++ [c] := by
    have name : '<' ∉ kind.tag.toList := by cases kind <;> decide
    have other : '<' ≠ c := by
      rintro rfl
      exact absurd ends (by decide)
    simp [name, other]
  obtain ⟨behind, inside⟩ := isPrefix_of_border once some border
    ⟨after, by rw [same]; simp [BlockKind.opening]⟩
  obtain ⟨before, rfl⟩ := suffix
  exact lacks ⟨before, c, behind, by rw [← inside]; simp [BlockKind.opening], ends⟩

theorem hasOpening_iff :
    HasOpening kind text ↔ ∃ here ∈ text.tails, opensHere kind here = true := by
  simp only [List.mem_tails, opensHere_iff]
  constructor
  · rintro ⟨before, c, after, rfl, ends⟩
    exact ⟨_, List.suffix_append .., c, after, rfl, ends⟩
  · rintro ⟨_, ⟨before, rfl⟩, c, after, rfl, ends⟩
    exact ⟨before, c, after, rfl, ends⟩

instance : Decidable (HasOpening kind text) := decidable_of_iff _ hasOpening_iff.symm

instance : Decidable (HasClosing kind text) := inferInstanceAs (Decidable (_ <:+: _))

theorem closes_eq_false_of_border (lacks : ¬HasClosing kind text) (border : AtBracket rest)
    (suffix : here <:+ text) (some : here ≠ []) :
    startsWith kind.closing (here ++ rest) = false := by
  rw [Bool.eq_false_iff]
  intro closes
  have once : '<' ∉ '/' :: kind.tag.toList ++ ['>'] := by cases kind <;> decide
  have inside := isPrefix_of_border once some border (List.isPrefixOf_iff_prefix.1 closes)
  exact lacks (inside.isInfix.trans suffix.isInfix)

theorem closes_closing (kind : BlockKind) (rest : List Char) :
    startsWith kind.closing (kind.closing ++ rest) = true :=
  List.isPrefixOf_iff_prefix.2 (List.prefix_append _ _)

/-- What stands behind the name in an opening tag begins with a character that ends the name. -/
theorem Attributes.exists_endsName (attributes : Attributes) :
    ∃ c after, attributes.text ++ ['>'] = c :: after ∧ endsName c = true := by
  have separate := attributes.separate
  cases text : attributes.text with
  | nil => exact ⟨'>', [], rfl, rfl⟩
  | cons c after =>
      rw [text] at separate
      exact ⟨c, after ++ ['>'], rfl, by simp [endsName, separate c rfl]⟩

theorem opensHere_tagWith (kind : BlockKind) (attributes : Attributes) (rest : List Char) :
    opensHere kind (kind.tagWith attributes ++ rest) = true := by
  obtain ⟨c, after, behind, ends⟩ := attributes.exists_endsName
  exact opensHere_iff.2 ⟨c, after ++ rest, by rw [BlockKind.tagWith, behind]; simp, ends⟩

/-- A tag has one name. -/
theorem kindHere?_tagWith (kind : BlockKind) (attributes : Attributes) (rest : List Char) :
    kindHere? (kind.tagWith attributes ++ rest) = some kind := by
  have opens := opensHere_tagWith kind attributes rest
  have other : ∀ name, name ≠ kind →
      opensHere name (kind.tagWith attributes ++ rest) = false := by
    intro name different
    cases name <;> cases kind <;> first | exact absurd rfl different | rfl
  unfold kindHere?
  cases kind with
  | template => simp [opens]
  | script => simp [opens, other]
  | style => simp [opens, other]

/-! ## Passing over texts -/

theorem distance?_append {holds : List Char → Bool}
    (before : ∀ here, here <:+ text → here ≠ [] → holds (here ++ rest) = false)
    (behind : holds rest = true) : distance? holds (text ++ rest) = some text.length := by
  induction text with
  | nil => cases rest <;> simp [distance?, behind]
  | cons c text ih =>
      have skip := before (c :: text) List.suffix_rfl (List.cons_ne_nil _ _)
      have further := ih fun here suffix =>
        before here (suffix.trans (List.suffix_cons c text))
      rw [List.cons_append] at skip ⊢
      rw [distance?, if_neg (by simp [skip]), further]
      rfl

/-- A character that does not occur is not found. -/
theorem startsWith_eq_false_of_notMem {c : Char} (absent : c ∉ text) (suffix : here <:+ text)
    (some : here ≠ []) (name rest : List Char) :
    startsWith (c :: name) (here ++ rest) = false := by
  obtain ⟨d, here, rfl⟩ := List.exists_cons_of_ne_nil some
  have different : c ≠ d := by
    rintro rfl
    exact absent (suffix.subset List.mem_cons_self)
  rw [startsWith, List.cons_append, List.isPrefixOf_cons_cons, beq_false_of_ne different,
    Bool.false_and]

/-- An opening tag ends with its first closing bracket. -/
theorem distance?_tagWith (kind : BlockKind) (attributes : Attributes) (rest : List Char) :
    distance? (startsWith ['>']) (kind.tagWith attributes ++ rest) =
      some (kind.tagWith attributes).length.pred := by
  have absent : '>' ∉ kind.opening ++ attributes.text := by
    have name : '>' ∉ kind.opening := by cases kind <;> decide
    simp [name, attributes.no_close]
  have front : kind.tagWith attributes ++ rest =
      (kind.opening ++ attributes.text) ++ '>' :: rest := by
    simp [BlockKind.tagWith]
  have size : (kind.tagWith attributes).length.pred = (kind.opening ++ attributes.text).length := by
    simp [BlockKind.tagWith, ← Nat.add_assoc]
  rw [front, size]
  exact distance?_append
    (fun here suffix some => startsWith_eq_false_of_notMem absent suffix some [] _) rfl

/-! ## Bodies of templates -/

theorem templateEnd?_opening {depth : Nat} {c : Char}
    (opens : opensHere .template (c :: text) = true) :
    templateEnd? depth (c :: text) = (templateEnd? (depth + 1) text).map (· + 1) := by
  rw [templateEnd?.eq_def]
  simp [opens]

theorem templateEnd?_closing {depth : Nat} {c : Char}
    (opens : opensHere .template (c :: text) = false)
    (closes : startsWith BlockKind.template.closing (c :: text) = true) :
    templateEnd? (depth + 1) (c :: text) = (templateEnd? depth text).map (· + 1) := by
  rw [templateEnd?.eq_def]
  simp [opens, closes]

theorem templateEnd?_other {depth : Nat} {c : Char}
    (opens : opensHere .template (c :: text) = false)
    (closes : startsWith BlockKind.template.closing (c :: text) = false) :
    templateEnd? depth (c :: text) = (templateEnd? depth text).map (· + 1) := by
  rw [templateEnd?.eq_def]
  simp [opens, closes]

/-- Characters at which no tag of a template begins are passed over. -/
theorem templateEnd?_append (depth : Nat)
    (opens : ∀ here, here <:+ text → here ≠ [] → opensHere .template (here ++ rest) = false)
    (closes : ∀ here, here <:+ text → here ≠ [] →
      startsWith BlockKind.template.closing (here ++ rest) = false) :
    templateEnd? depth (text ++ rest) = (templateEnd? depth rest).map (· + text.length) := by
  induction text with
  | nil => simp
  | cons c text ih =>
      have further := ih
        (fun here suffix => opens here (suffix.trans (List.suffix_cons c text)))
        (fun here suffix => closes here (suffix.trans (List.suffix_cons c text)))
      have here : templateEnd? depth (c :: (text ++ rest)) =
          (templateEnd? depth (text ++ rest)).map (· + 1) :=
        templateEnd?_other (opens (c :: text) List.suffix_rfl (List.cons_ne_nil _ _))
          (closes (c :: text) List.suffix_rfl (List.cons_ne_nil _ _))
      rw [List.cons_append, here, further, Option.map_map]
      rfl

/-- Characters that are no brackets are passed over, whatever follows. -/
theorem templateEnd?_plain (depth : Nat) (absent : '<' ∉ text) (rest : List Char) :
    templateEnd? depth (text ++ rest) = (templateEnd? depth rest).map (· + text.length) :=
  templateEnd?_append depth
    (fun _ suffix some =>
      opensHere_eq_false (startsWith_eq_false_of_notMem absent suffix some _ rest))
    fun _ suffix some => startsWith_eq_false_of_notMem absent suffix some _ rest

theorem templateEnd?_text (depth : Nat) (text : TemplateText) (border : AtBracket rest) :
    templateEnd? depth (text.text ++ rest) =
      (templateEnd? depth rest).map (· + text.text.length) :=
  templateEnd?_append depth
    (fun _ => opensHere_eq_false_of_border text.no_opening border)
    fun _ => closes_eq_false_of_border text.no_closing border

/-- An opening tag counts one up. -/
theorem templateEnd?_tagWith (depth : Nat) (attributes : Attributes) (rest : List Char) :
    templateEnd? depth (BlockKind.template.tagWith attributes ++ rest) =
      (templateEnd? (depth + 1) rest).map
        (· + (BlockKind.template.tagWith attributes).length) := by
  let inside := BlockKind.template.tag.toList ++ (attributes.text ++ ['>'])
  have absent : '<' ∉ inside := by
    have name : '<' ∉ BlockKind.template.tag.toList := by decide
    simp [inside, name, attributes.no_open]
  calc
    templateEnd? depth ('<' :: (inside ++ rest)) =
        (templateEnd? (depth + 1) (inside ++ rest)).map (· + 1) :=
      templateEnd?_opening (opensHere_tagWith .template attributes rest)
    _ = (templateEnd? (depth + 1) rest).map (· + ('<' :: inside).length) := by
      rw [templateEnd?_plain _ absent, Option.map_map]
      rfl

/-- A closing tag counts one down. -/
theorem templateEnd?_succ_closing (depth : Nat) (rest : List Char) :
    templateEnd? (depth + 1) (BlockKind.template.closing ++ rest) =
      (templateEnd? depth rest).map (· + BlockKind.template.closing.length) := by
  let inside := '/' :: BlockKind.template.tag.toList ++ ['>']
  have absent : '<' ∉ inside := by decide
  calc
    templateEnd? (depth + 1) ('<' :: (inside ++ rest)) =
        (templateEnd? depth (inside ++ rest)).map (· + 1) :=
      templateEnd?_closing rfl (closes_closing .template rest)
    _ = (templateEnd? depth rest).map (· + ('<' :: inside).length) := by
      rw [templateEnd?_plain _ absent, Option.map_map]
      rfl

/-- Without further open templates a closing tag is the end. -/
theorem templateEnd?_zero_closing (rest : List Char) :
    templateEnd? 0 (BlockKind.template.closing ++ rest) = some 0 := by
  have opens : opensHere .template (BlockKind.template.closing ++ rest) = false := rfl
  have closes := closes_closing .template rest
  rw [templateEnd?.eq_def]
  exact (if_neg (Bool.eq_false_iff.1 opens)).trans (if_pos closes)

/-- **The body of a template is passed over,** however many templates are open. -/
theorem templateEnd?_render (depth : Nat) (body : TemplateBody) (border : AtBracket rest) :
    templateEnd? depth (body.render ++ rest) =
      (templateEnd? depth rest).map (· + body.render.length) := by
  induction body generalizing depth rest with
  | plain text => exact templateEnd?_text depth text border
  | nested text attributes inner more ihInner ihMore =>
      simp only [TemplateBody.render, List.append_assoc]
      rw [templateEnd?_text depth text (atBracket_tagWith ..), templateEnd?_tagWith,
        ihInner (depth + 1) (atBracket_closing ..), templateEnd?_succ_closing,
        ihMore depth border]
      simp [Function.comp_def, Nat.add_comm, Nat.add_left_comm]

/-! ## Blocks -/

theorem bodyEnd?_render (body : Body kind) (rest : List Char) :
    bodyEnd? kind (body.render ++ (kind.closing ++ rest)) = some body.render.length := by
  cases body with
  | template body =>
      rw [Body.render, bodyEnd?, templateEnd?_render 0 body (atBracket_closing ..),
        templateEnd?_zero_closing, Option.map_some, Nat.zero_add]
  | raw isRaw text no_closing =>
      have found : distance? (startsWith kind.closing) (text ++ (kind.closing ++ rest)) =
          some text.length :=
        distance?_append (fun _ => closes_eq_false_of_border no_closing (atBracket_closing ..))
          (closes_closing kind rest)
      cases kind with
      | template => exact absurd rfl isRaw
      | script | style => exact found

/-- **A block that is written out is found,** whatever follows it. -/
theorem block?_render (element : Element) (offset : Nat) (rest : List Char) :
    block? element.kind offset (element.render ++ rest) =
      some (element.place List.length offset) := by
  have front : element.render ++ rest =
      element.tag ++ (element.body.render ++ (element.kind.closing ++ rest)) := by
    simp [Element.render]
  have tagEnd : distance? (startsWith ['>']) (element.render ++ rest) =
      some element.tag.length.pred := by
    rw [front]
    exact distance?_tagWith element.kind element.attributes _
  have size : element.tag.length.pred + 1 = element.tag.length := rfl
  have behind : (element.render ++ rest).drop element.tag.length =
      element.body.render ++ (element.kind.closing ++ rest) := by
    rw [front, List.drop_left]
  rw [block?, tagEnd]
  simp only [Option.bind_eq_bind, Option.bind_some, Nat.add_assoc offset, size, behind,
    bodyEnd?_render]
  simp only [Element.place, Nat.add_assoc]
  rfl

/-- Texts without opening tags are passed over. -/
theorem blocksFrom_gap (offset : Nat) (gap : Gap) (border : AtBracket rest) :
    blocksFrom offset 0 (gap.text ++ rest) = blocksFrom (offset + gap.text.length) 0 rest := by
  have none : ∀ here, here <:+ gap.text → here ≠ [] → kindHere? (here ++ rest) = none := by
    intro here suffix some
    refine List.find?_eq_none.2 fun kind _ => ?_
    simp [opensHere_eq_false_of_border (gap.no_opening kind) border suffix some]
  generalize gap.text = text at none
  induction text generalizing offset with
  | nil => rfl
  | cons c text ih =>
      have here := none (c :: text) List.suffix_rfl (List.cons_ne_nil _ _)
      have further := ih (offset + 1) fun here suffix =>
        none here (suffix.trans (List.suffix_cons c text))
      rw [List.cons_append] at here ⊢
      rw [blocksFrom]
      simp only [here]
      rw [further, List.length_cons, Nat.add_assoc, Nat.add_comm 1]

namespace Element

variable (element : Element) (offset : Nat) (rest : List Char)

/-- A block ends behind its text. -/
theorem closed_place {size : List Char → Nat} (add : ∀ a b, size (a ++ b) = size a + size b) :
    (element.place size offset).closed = offset + size element.render := by
  simp only [place, render, add, Nat.add_assoc]

theorem render_append : element.render ++ rest =
    element.tag ++ (element.body.render ++ element.kind.closing ++ rest) :=
  List.append_assoc ..

theorem render_length_pos : 0 < element.render.length :=
  Nat.zero_lt_succ _

end Element

namespace Document

/-- **The blocks of a component stand where they were written.** -/
theorem blocksFrom_render (document : Document) (offset : Nat) :
    blocksFrom offset 0 document.render = document.places List.length offset := by
  induction document generalizing offset with
  | last gap =>
      have passed := blocksFrom_gap offset gap (.inl rfl)
      rwa [List.append_nil] at passed
  | block gap element rest ih =>
      let opened := offset + gap.text.length
      have opens : kindHere? (element.render ++ rest.render) = some element.kind := by
        rw [element.render_append]
        exact kindHere?_tagWith ..
      have border : AtBracket (element.render ++ rest.render) := by
        rw [element.render_append]
        exact atBracket_tagWith ..
      have found := block?_render element opened rest.render
      have closed := element.closed_place opened fun _ _ => List.length_append
      have later : opened < (element.place List.length opened).closed := by
        have := element.render_length_pos
        omega
      have behind : (element.render ++ rest.render).drop
          ((element.place List.length opened).closed - opened) = rest.render := by
        rw [closed, Nat.add_sub_cancel_left, List.drop_left]
      rw [render, blocksFrom_gap offset gap border, blocksFrom_of_block opens found later, behind,
        ih]
      rfl

end Document

/-! ## Places in bytes -/

theorem inBytes_place (before after : List Char) (element : Element) :
    Scan.inBytes (before ++ (element.render ++ after)) (element.place List.length before.length) =
      element.place byteSize (byteSize before) := by
  rw [Element.render, List.append_assoc, List.append_assoc]
  exact Scan.inBytes_parts ..

namespace Document

/-- The places in bytes, of a component behind another text. -/
theorem map_inBytes_places (document : Document) (before : List Char) :
    (document.places List.length before.length).map (Scan.inBytes (before ++ document.render)) =
      document.places byteSize (byteSize before) := by
  induction document generalizing before with
  | last gap => rfl
  | block gap element rest ih =>
      have place := inBytes_place (before ++ gap.text) rest.render element
      have further := ih (before ++ gap.text ++ element.render)
      simp only [List.length_append, byteSize_append, List.append_assoc] at place further
      simp only [places, render, List.map_cons, element.closed_place _ byteSize_append,
        element.closed_place _ fun _ _ => List.length_append, Nat.add_assoc]
      rw [place, further]

/-- **The blocks of a document that is written out** are those it was put together from, in order,
each one of its kind and where it was written, by characters and by bytes. -/
theorem blocks_render (document : Document) :
    blocks document.render = document.places List.length 0 ∧
      Scan.blocks? document.render = some (document.places byteSize 0) := by
  have found : blocks document.render = document.places List.length 0 :=
    document.blocksFrom_render 0
  refine ⟨found, ?_⟩
  rw [Scan.blocks?_eq, found]
  exact congrArg some (document.map_inBytes_places [])

/-- Nothing behind the name of a tag. -/
def bare : Attributes := ⟨[], by simp, by simp, by simp⟩

/-- A template in a template, and a script that speaks of a style. -/
def quoting : Document :=
  .block ⟨['é'], by intro kind; cases kind <;> decide⟩
    ⟨.template, bare,
      .template (.nested ⟨['a'], by decide, by decide⟩
        ⟨[' ', 'b'], by rintro c ⟨⟩; rfl, by decide, by decide⟩
        (.plain ⟨['ü'], by decide, by decide⟩) (.plain ⟨[], by decide, by decide⟩))⟩
    (.block ⟨['\n'], by intro kind; cases kind <;> decide⟩
      ⟨.script, bare, .raw (by decide) "'<style>'".toList (by decide)⟩
      (.last ⟨[], by intro kind; cases kind <;> decide⟩))

example : quoting.render =
    "é<template>a<template b>ü</template></template>\n<script>'<style>'</script>".toList := by
  decide

example : quoting.places byteSize 0 = [⟨.template, 2, 12, 38, 49⟩, ⟨.script, 50, 58, 67, 76⟩] := by
  decide

end Document

end CodeIndex.Component
