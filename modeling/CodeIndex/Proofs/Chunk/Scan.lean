import CodeIndex.Chunk.Scan
import CodeIndex.Proofs.Chunk.BlockRows
import CodeIndex.Proofs.Text.Slice

/-!
# The scan by bytes

A scan over the bytes of a document finds what the walk over its characters finds, with positions in
bytes (`Scan.blocks?_eq`).  Each function of the scan is compared with its counterpart at a place
whose position is the size of what stands before it: there the text can be cut, and what is cut off
is what the walk has before it.  Between two such places the scan only goes up
(`templateEnd?_skip`, `blocksFrom?_skip`), so a step of the walk, over one character, is as many
steps of the scan as the character has bytes.

A scan that cuts a text inside a character, counts below zero or does not go forward has no result.
That it has one is thus all that safety asks for besides what the blocks are; the walk never failed
in the first place.

## Main definitions

* `Scan.inBytes`: a block with its positions in bytes.
* `Scan.LieIn`: where blocks lie, by bytes.

## Main statements

* `Scan.blocks?_eq`, `Scan.split?_eq`: what the scan finds.
* `Scan.scan_safe`
-/

namespace CodeIndex

open CodeIndex.Text

namespace Component

/-! ## Tags -/

theorem stripStart?_append (start rest : List Char) :
    stripStart? start (start ++ rest) = some rest := by
  induction start with
  | nil => rfl
  | cons c start ih => simpa [stripStart?] using ih

theorem stripStart?_eq_none {start text : List Char} (other : startsWith start text = false) :
    stripStart? start text = none := by
  fun_induction stripStart? start text with
  | case1 text => simp [startsWith] at other
  | case2 => rfl
  | case3 start c text ih => exact ih (by simpa [startsWith] using other)
  | case4 => rfl

/-- Whether the name of a tag ends before a character. -/
def endsName (c : Char) : Bool := c == '>' || c == '/' || isBlank c

/-- What stands behind the name of a tag decides whether it is one. -/
theorem opensHere_append (kind : BlockKind) (behind : List Char) :
    opensHere kind (kind.opening ++ behind) = behind.head?.any endsName := by
  rw [opensHere, stripStart?_append]
  cases behind <;> rfl

theorem opensHere_eq_false {kind : BlockKind} {text : List Char}
    (other : startsWith kind.opening text = false) : opensHere kind text = false := by
  rw [opensHere, stripStart?_eq_none other]

/-! ## The walk over characters -/

/-- What belongs to the block before is passed over. -/
theorem blocksFrom_skip (offset skip : Nat) (text : List Char) :
    blocksFrom offset skip text = blocksFrom (offset + skip) 0 (text.drop skip) := by
  induction text generalizing offset skip with
  | nil => simp [blocksFrom]
  | cons c text ih =>
      cases skip with
      | zero => rfl
      | succ skip =>
          rw [blocksFrom, ih, List.drop_succ_cons, Nat.add_assoc, Nat.add_comm 1 skip]

theorem blocksFrom_of_none {c : Char} {text : List Char} {offset : Nat}
    (opens : kindHere? (c :: text) = none) :
    blocksFrom offset 0 (c :: text) = blocksFrom (offset + 1) 0 text := by
  rw [blocksFrom]
  simp only [opens]

theorem blocksFrom_of_unclosed {c : Char} {text : List Char} {offset : Nat} {kind : BlockKind}
    (opens : kindHere? (c :: text) = some kind)
    (unclosed : block? kind offset (c :: text) = none) :
    blocksFrom offset 0 (c :: text) = [] := by
  rw [blocksFrom]
  simp only [opens, unclosed]

/-- A block comes first if it opens right here, and the others are looked for behind it. -/
theorem blocksFrom_of_block {text : List Char} {offset : Nat} {kind : BlockKind} {block : Block}
    (opens : kindHere? text = some kind) (found : block? kind offset text = some block)
    (later : offset < block.closed) :
    blocksFrom offset 0 text =
      block :: blocksFrom block.closed 0 (text.drop (block.closed - offset)) := by
  cases text with
  | nil => cases kind <;> cases found
  | cons c text =>
      have onward : offset + 1 + (block.closed - offset - 1) = block.closed := by omega
      have behind : block.closed - offset = block.closed - offset - 1 + 1 := by omega
      rw [blocksFrom]
      simp only [opens, found]
      rw [blocksFrom_skip, onward, behind, List.drop_succ_cons, Nat.add_sub_cancel]

/-- A block does not reach out of its text. -/
theorem Block.LiesIn.closed_le {block : Block} {text : List Char} (lies : block.LiesIn text) :
    block.closed ≤ text.length := by
  obtain ⟨below, -⟩ := List.getElem?_eq_some_iff.1 lies.closes
  omega

end Component

namespace Component.Scan

variable {text before rest : List Char} {kind : BlockKind}

theorem byteSize_lt_append_cons (before rest : List Char) (c : Char) :
    byteSize before < byteSize (before ++ c :: rest) := by
  have := c.utf8Size_pos
  rw [byteSize_append, byteSize_cons]
  omega

@[simp] theorem opensAt?_append (before rest : List Char) (kind : BlockKind) :
    opensAt? (before ++ rest) (byteSize before) kind = some (opensHere kind rest) := by
  unfold opensAt?
  rw [fromByte?_append]
  by_cases starts : startsWith kind.opening rest = true
  · obtain ⟨behind, rfl⟩ := exists_of_startsWith starts
    have cut : fromByte? (before ++ (kind.opening ++ behind))
        (byteSize before + byteSize kind.opening) = some behind := by
      rw [← byteSize_append, ← List.append_assoc, fromByte?_append]
    simp [starts, cut, opensHere_append]
    rfl
  · simp [starts, opensHere_eq_false]

/-- A template is looked for at places only. -/
theorem templateEnd?_skip {depth position : Nat} (below : position < byteSize text)
    (inside : isBoundary text position = false) :
    templateEnd? text depth position = templateEnd? text depth (position + 1) := by
  rw [templateEnd?]
  simp [below, inside]

theorem templateEnd?_append (before rest : List Char) (depth : Nat) :
    templateEnd? (before ++ rest) (depth + 1) (byteSize before) =
      some ((Component.templateEnd? depth rest).map fun size =>
        byteSize (before ++ rest.take size)) := by
  induction rest generalizing before depth with
  | nil =>
    rw [templateEnd?]
    simp [Component.templateEnd?]
  | cons c rest ih =>
    have further : ∀ depth, templateEnd? (before ++ c :: rest) (depth + 1) (byteSize before + 1) =
        some (((Component.templateEnd? depth rest).map (· + 1)).map fun size =>
          byteSize (before ++ (c :: rest).take size)) := by
      intro depth
      rw [eq_behind_of_skips (f := templateEnd? (before ++ c :: rest) (depth + 1))
        fun position => templateEnd?_skip]
      rw [← List.singleton_append, ← List.append_assoc, ih]
      simp [Function.comp_def]
    have below := byteSize_lt_append_cons before rest c
    rw [templateEnd?]
    unfold Component.templateEnd?
    simp only [below, if_true, isBoundary_append, opensAt?_append, fromByte?_append,
      Option.bind_eq_bind, Option.bind_some]
    cases opensHere .template (c :: rest) with
    | true => exact further (depth + 1)
    | false =>
        cases startsWith BlockKind.template.closing (c :: rest) with
        | false => exact further depth
        | true =>
            cases depth with
            | zero => simp [lessOne?]
            | succ depth => exact further depth

theorem bodyEnd?_append (before rest : List Char) (kind : BlockKind) :
    bodyEnd? (before ++ rest) kind (byteSize before) =
      some ((Component.bodyEnd? kind rest).map fun size =>
        byteSize (before ++ rest.take size)) := by
  cases kind with
  | template => exact templateEnd?_append before rest 0
  | script | style => simp [bodyEnd?, Component.bodyEnd?, distance?, Function.comp_def]

/-- A block with its positions in bytes. -/
def inBytes (text : List Char) (block : Block) : Block where
  kind := block.kind
  opened := byteSize (text.take block.opened)
  bodyStart := byteSize (text.take block.bodyStart)
  bodyEnd := byteSize (text.take block.bodyEnd)
  closed := byteSize (text.take block.closed)

/-- The positions of a block in bytes are sizes of what stands before them. -/
theorem inBytes_parts (kind : BlockKind) (before tag body closing after : List Char) :
    inBytes (before ++ (tag ++ (body ++ (closing ++ after))))
        ⟨kind, before.length, before.length + tag.length, before.length + tag.length + body.length,
          before.length + tag.length + body.length + closing.length⟩ =
      ⟨kind, byteSize before, byteSize before + byteSize tag,
        byteSize before + byteSize tag + byteSize body,
        byteSize before + byteSize tag + byteSize body + byteSize closing⟩ := by
  simp only [inBytes, Nat.add_assoc, List.take_left, List.take_length_add_append,
    byteSize_append]

/-- A text that goes on with something behind so many characters has as many before it. -/
theorem exists_before_of_startsWith {start : List Char} {size : Nat} (some : start ≠ [])
    (starts : startsWith start (text.drop size) = true) :
    ∃ before after, text = before ++ (start ++ after) ∧ before.length = size := by
  obtain ⟨after, behind⟩ := exists_of_startsWith starts
  have inside : size ≤ text.length := by
    by_contra beyond
    rw [List.drop_eq_nil_of_le (by omega)] at behind
    exact some (List.append_eq_nil_iff.1 behind.symm).1
  exact ⟨text.take size, after, by rw [← behind, List.take_append_drop],
    List.length_take_of_le inside⟩

/-- A block whose opening tag ends behind `tag`. -/
theorem block?_behind_tag (before : List Char) {tag body : List Char} (kind : BlockKind)
    (tagEnd : Component.distance? (startsWith ['>']) (tag ++ '>' :: body) = some tag.length) :
    block? (before ++ (tag ++ '>' :: body)) kind (byteSize before) =
      some ((Component.block? kind before.length (tag ++ '>' :: body)).map
        (inBytes (before ++ (tag ++ '>' :: body)))) := by
  have front : before ++ (tag ++ '>' :: body) = (before ++ tag ++ ['>']) ++ body := by simp
  have bodyStart : byteSize before + byteSize tag + 1 = byteSize (before ++ tag ++ ['>']) := by
    rw [byteSize_append, byteSize_append, byteSize_singleton]
    rfl
  have behind : (tag ++ '>' :: body).drop (tag.length + 1) = body := by simp
  unfold block? Component.block?
  simp only [fromByte?_append, distance?, tagEnd, behind, bodyStart, Option.bind_eq_bind,
    Option.bind_some, Option.map_some, List.take_left]
  rw [front, bodyEnd?_append]
  cases ends : Component.bodyEnd? kind body with
  | none => rfl
  | some size =>
      -- the closing tag stands right behind the body
      have filled : kind.closing ≠ [] := List.cons_ne_nil _ _
      obtain ⟨inner, after, rfl, rfl⟩ :=
        exists_before_of_startsWith filled (closing_of_bodyEnd ends)
      have place := inBytes_parts kind before (tag ++ ['>']) inner kind.closing after
      simp only [List.length_append, List.length_singleton, byteSize_append, List.append_assoc,
        Nat.add_assoc] at place
      simp only [Option.map_some, Option.bind_some, Option.pure_def, List.take_left,
        byteSize_append, List.append_assoc, Nat.add_assoc, place]

theorem block?_append (before rest : List Char) (kind : BlockKind) :
    block? (before ++ rest) kind (byteSize before) =
      some ((Component.block? kind before.length rest).map (inBytes (before ++ rest))) := by
  cases tagEnd : Component.distance? (startsWith ['>']) rest with
  | none => simp [block?, Component.block?, distance?, tagEnd]
  | some size =>
      obtain ⟨tag, body, rfl, rfl⟩ :=
        exists_before_of_startsWith (List.cons_ne_nil _ _) (here_of_distance tagEnd)
      exact block?_behind_tag before kind tagEnd

@[simp] theorem kindAt?_append (before rest : List Char) :
    kindAt? (before ++ rest) (byteSize before) = some (kindHere? rest) := by
  have general : ∀ kinds : List BlockKind,
      kinds.findM? (opensAt? (before ++ rest) (byteSize before)) =
        some (kinds.find? (opensHere · rest)) := by
    intro kinds
    induction kinds with
    | nil => rfl
    | cons kind kinds ih =>
        rw [List.findM?, opensAt?_append, List.find?_cons]
        cases opensHere kind rest
        · exact ih
        · rfl
  exact general _

/-- Blocks are looked for at places only. -/
theorem blocksFrom?_skip {position : Nat} (below : position < byteSize text)
    (inside : isBoundary text position = false) :
    blocksFrom? text position = blocksFrom? text (position + 1) := by
  rw [blocksFrom?]
  simp [below, inside]

/-- Where nothing opens, the scan goes on to the next character. -/
theorem blocksFrom?_of_none {c : Char} (opens : kindHere? (c :: rest) = none) :
    blocksFrom? (before ++ c :: rest) (byteSize before) =
      blocksFrom? (before ++ c :: rest) (byteSize (before ++ [c])) := by
  rw [← eq_behind_of_skips (f := blocksFrom? (before ++ c :: rest))
    fun position => blocksFrom?_skip]
  conv_lhs => rw [blocksFrom?]
  simp only [byteSize_lt_append_cons, if_true, isBoundary_append, kindAt?_append, opens,
    Option.bind_eq_bind, Option.bind_some]

/-- A block without an end ends the scan. -/
theorem blocksFrom?_of_unclosed {c : Char} (opens : kindHere? (c :: rest) = some kind)
    (unclosed : Component.block? kind before.length (c :: rest) = none) :
    blocksFrom? (before ++ c :: rest) (byteSize before) = some [] := by
  rw [blocksFrom?]
  simp only [byteSize_lt_append_cons, if_true, isBoundary_append, kindAt?_append, opens,
    block?_append, unclosed, Option.bind_eq_bind, Option.bind_some, Option.map_none,
    Option.pure_def]

/-- A block ends behind the place where it opens, and inside the text. -/
theorem bounds_of_block? {block : Block} (opens : kindHere? rest = some kind)
    (found : Component.block? kind before.length rest = some block) :
    before.length < block.closed ∧ block.closed ≤ (before ++ rest).length := by
  have behind : (before ++ rest).drop before.length = rest := List.drop_left
  rw [← behind] at opens found
  obtain ⟨opened, lies⟩ := liesIn_of_block (by simpa using List.find?_some opens) found
  have lt := lies.opened_lt
  have body := lies.body_le
  have closed := lies.end_lt
  exact ⟨by omega, lies.closed_le⟩

/-- Behind a block the scan goes on. -/
theorem blocksFrom?_of_block {c : Char} {block : Block} (opens : kindHere? (c :: rest) = some kind)
    (found : Component.block? kind before.length (c :: rest) = some block) :
    blocksFrom? (before ++ c :: rest) (byteSize before) =
      (blocksFrom? (before ++ c :: rest)
        (byteSize ((before ++ c :: rest).take block.closed))).map
          (inBytes (before ++ c :: rest) block :: ·) := by
  obtain ⟨later, inside⟩ := bounds_of_block? opens found
  have forward : byteSize before < (inBytes (before ++ c :: rest) block).closed := by
    have lt := byteSize_take_lt (before ++ c :: rest) later inside
    rwa [List.take_left] at lt
  conv_lhs => rw [blocksFrom?]
  simp only [byteSize_lt_append_cons, if_true, isBoundary_append, kindAt?_append, opens,
    block?_append, found, Option.bind_eq_bind, Option.bind_some, Option.map_some, if_pos forward]
  exact Option.map_eq_bind.symm

/-- **From every place on, the scan finds the blocks that begin there or later.** -/
theorem blocksFrom?_append (before rest : List Char) :
    blocksFrom? (before ++ rest) (byteSize before) =
      some ((blocksFrom before.length 0 rest).map (inBytes (before ++ rest))) := by
  -- behind a block the scan goes on in the middle of `rest`, so the induction is on its length
  induction length : rest.length using Nat.strong_induction_on generalizing before rest with
  | _ size ih =>
    cases rest with
    | nil =>
        rw [blocksFrom?]
        simp [blocksFrom]
    | cons c rest =>
        cases opens : kindHere? (c :: rest) with
        | none =>
            have further := ih rest.length (by simp [← length]) (before ++ [c]) rest rfl
            rw [blocksFrom?_of_none opens, blocksFrom_of_none opens]
            simpa using further
        | some kind =>
            cases found : Component.block? kind before.length (c :: rest) with
            | none =>
                rw [blocksFrom?_of_unclosed opens found, blocksFrom_of_unclosed opens found]
                rfl
            | some block =>
                obtain ⟨later, inside⟩ := bounds_of_block? opens found
                have others : (before ++ c :: rest).drop block.closed =
                    (c :: rest).drop (block.closed - before.length) := by
                  rw [List.drop_append, List.drop_eq_nil_of_le (Nat.le_of_lt later),
                    List.nil_append]
                have shorter : ((c :: rest).drop (block.closed - before.length)).length < size := by
                  rw [List.length_drop, ← length, List.length_cons]
                  omega
                have further := ih _ shorter ((before ++ c :: rest).take block.closed) _ rfl
                rw [← others, List.take_append_drop, List.length_take_of_le inside, others]
                  at further
                rw [blocksFrom?_of_block opens found, blocksFrom_of_block opens found later,
                  further]
                rfl

/-- **The scan by bytes finds the blocks,** in bytes. -/
theorem blocks?_eq (text : List Char) : blocks? text = some ((blocks text).map (inBytes text)) :=
  blocksFrom?_append [] text

/-! ## Rows -/

variable {block : Block}

theorem upToByte?_take (text : List Char) (count : Nat) :
    upToByte? text (byteSize (text.take count)) = some (text.take count) := by
  have cut := upToByte?_append (text.take count) (text.drop count)
  rwa [List.take_append_drop] at cut

@[simp] theorem rowOf?_take (text : List Char) (position : Nat) :
    rowOf? text (byteSize (text.take position)) = some (rowOf text position) := by
  rw [rowOf?, Nat.min_eq_left (byteSize_take_le text position), upToByte?_take]
  rfl

/-- The last character of a closing tag takes one byte. -/
theorem byteSize_take_closed (lies : block.LiesIn text) :
    byteSize (text.take block.closed) - 1 = byteSize (text.take (block.closed - 1)) := by
  obtain ⟨below, bracket⟩ := List.getElem?_eq_some_iff.1 lies.closes
  have closed : block.closed = block.closed - 1 + 1 := by
    have := lies.end_lt
    omega
  conv_lhs => rw [closed, List.take_succ_eq_append_getElem below, bracket, byteSize_append,
    byteSize_singleton]
  exact Nat.add_sub_cancel _ 1

theorem slice?_body (lies : block.LiesIn text) :
    slice? text (byteSize (text.take block.bodyStart)) (byteSize (text.take block.bodyEnd)) =
      some ((text.take block.bodyEnd).drop block.bodyStart) := by
  have front : text.take block.bodyStart ++ (text.take block.bodyEnd).drop block.bodyStart =
      text.take block.bodyEnd := by
    have start : text.take block.bodyStart = (text.take block.bodyEnd).take block.bodyStart := by
      rw [List.take_take, Nat.min_eq_left lies.body_le]
    rw [start, List.take_append_drop]
  have cut := slice?_append (text.take block.bodyStart)
    ((text.take block.bodyEnd).drop block.bodyStart) (text.drop block.bodyEnd)
  rwa [front, List.take_append_drop] at cut

/-- The spans of a script block, with its body cut out of the document. -/
theorem scriptSpans?_eq (readScript : List Char → SyntaxTree) (lies : block.LiesIn text) :
    scriptSpans? readScript text (inBytes text block) (rowOf text block.opened)
      (rowOf text (block.closed - 1)) = some (scriptSpans readScript text block) := by
  have row := rowOf?_take text block.bodyStart
  unfold scriptSpans? scriptSpans inBytes
  simp only [slice?_body lies, row, Option.bind_eq_bind, Option.bind_some, Option.pure_def]
  exact (apply_ite some _ _ _).symm

theorem spansOf?_eq (readScript : List Char → SyntaxTree) (lies : block.LiesIn text) :
    spansOf? readScript text (inBytes text block) =
      some (Component.spansOf readScript text block) := by
  have opened : rowOf? text (inBytes text block).opened = some (rowOf text block.opened) :=
    rowOf?_take text block.opened
  have closed : rowOf? text ((inBytes text block).closed - 1) =
      some (rowOf text (block.closed - 1)) := by
    rw [inBytes, byteSize_take_closed lies, rowOf?_take]
  have kind : (inBytes text block).kind = block.kind := rfl
  unfold spansOf? Component.spansOf
  simp only [opened, closed, kind, Option.bind_eq_bind, Option.bind_some]
  cases block.kind with
  | template => rfl
  | script => exact scriptSpans?_eq readScript lies
  | style => rfl

/-- **Splitting by bytes comes to the same spans,** and never fails. -/
theorem split?_eq (readScript : List Char → SyntaxTree) (text : List Char) :
    split? readScript text = some (split readScript text) := by
  have spans : ∀ found : List Block, (∀ block ∈ found, block.LiesIn text) →
      (found.map (inBytes text)).mapM (spansOf? readScript text) =
        some (found.map (Component.spansOf readScript text)) := by
    intro found lie
    induction found with
    | nil => rfl
    | cons block found ih =>
        have rest := ih fun other member => lie other (List.mem_cons_of_mem _ member)
        rw [List.map_cons, List.mapM_cons,
          spansOf?_eq readScript (lie block List.mem_cons_self), rest]
        rfl
  unfold split? split
  rw [blocks?_eq]
  simp only [Option.bind_eq_bind, Option.bind_some,
    spans (blocks text) fun block => liesIn_of_mem_blocks]
  rw [List.flatMap_def]
  rfl

/-! ## Safety -/

/-- **Whether blocks lie in a text,** with their positions in bytes. -/
structure LieIn (text : List Char) (found : List Block) : Prop where
  bounds : ∀ block ∈ found, block.opened < block.bodyStart ∧
    block.bodyStart ≤ block.bodyEnd ∧ block.bodyEnd < block.closed ∧
    block.closed ≤ byteSize text
  /-- The text can be cut at all positions of a block. -/
  places : ∀ block ∈ found,
    ∀ position ∈ [block.opened, block.bodyStart, block.bodyEnd, block.closed],
      (⟨position⟩ : String.Pos.Raw).IsValid (String.ofList text)
  /-- Each block ends before the next one opens. -/
  ordered : found.Pairwise fun a b => a.closed ≤ b.opened

theorem isValid_take (text : List Char) (count : Nat) :
    (⟨byteSize (text.take count)⟩ : String.Pos.Raw).IsValid (String.ofList text) :=
  isBoundary_iff_isValid.1
    (isBoundary_iff.2 ⟨text.take count, text.drop count, (List.take_append_drop ..).symm, rfl⟩)

/-- Blocks that lie in a text by characters do by bytes. -/
theorem lieIn_inBytes {found : List Block} (lie : ∀ block ∈ found, block.LiesIn text)
    (ordered : found.Pairwise fun a b => a.closed ≤ b.opened) :
    LieIn text (found.map (inBytes text)) := by
  refine ⟨?_, ?_, ?_⟩
  · rw [List.forall_mem_map]
    intro block member
    have lies := lie block member
    have inside := lies.closed_le
    have opened := lies.opened_lt
    have body := lies.body_le
    have closed := lies.end_lt
    exact ⟨byteSize_take_lt text opened (by omega), byteSize_take_mono text body,
      byteSize_take_lt text closed inside, byteSize_take_le text block.closed⟩
  · rw [List.forall_mem_map]
    intro block _ position member
    simp only [List.mem_cons, List.not_mem_nil, or_false] at member
    rcases member with rfl | rfl | rfl | rfl <;> exact isValid_take text _
  · exact List.pairwise_map.2 (ordered.imp fun le => byteSize_take_mono text le)

/-- **The scan by bytes is safe,** whatever the document looks like and whatever is read from its
scripts: it comes to an end, cuts the text only where it can be cut, and never counts below zero.
What it finds lies in the text, in order, and each of the spans is one of rows of the document. -/
theorem scan_safe (readScript : List Char → SyntaxTree) (text : List Char) :
    ∃ found, blocks? text = some found ∧ found = (blocks text).map (inBytes text) ∧
      LieIn text found ∧
      ∃ spans, split? readScript text = some spans ∧ spans = split readScript text ∧
        ∀ span ∈ spans, span.start ≤ span.stop ∧ span.stop ≤ (lines text).length - 1 := by
  refine ⟨_, blocks?_eq text, rfl,
    lieIn_inBytes (fun _ => liesIn_of_mem_blocks) (blocks_ordered text), _,
    split?_eq readScript text, rfl, fun span member => ?_⟩
  obtain ⟨_, _, _, _, start, _⟩ := inBlock_of_mem_split member
  exact ⟨start, Nat.le_sub_one_of_lt (stop_lt_of_mem_split member)⟩

end Component.Scan

end CodeIndex
