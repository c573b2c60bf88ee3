import CodeIndex.Proofs.Chunk.Headers
import CodeIndex.Proofs.Run.Rendition

/-!
# References to headers

Every point but those of headers refers to a header of its file, and it is always the first one.
That is the header of the file as long as there is only one.  A component whose scripts have headers
of their own breaks the rule: the pieces of its second script refer to the header of the first.

`chunkFile_headers` says when a file has at most one header chunk, and what references are worth
then. -/

namespace CodeIndex

variable {read : SyntaxReader} {path : String}

/-- Where at most one element passes a test, it is the one that is found. -/
theorem find?_eq_some_of_countP_le_one {α : Type} {test : α → Bool} {list : List α}
    (one : list.countP test ≤ 1) {a : α} (member : a ∈ list) (passes : test a = true) :
    list.find? test = some a := by
  induction list with
  | nil => cases member
  | cons b list ih =>
      by_cases first : test b = true
      · rw [List.find?_cons_of_pos first]
        rcases List.mem_cons.1 member with rfl | later
        · rfl
        · -- `b` is the one, so `a` cannot pass as well
          rw [List.countP_cons_of_pos first] at one
          have none : list.countP test = 0 := by omega
          exact absurd passes (List.countP_eq_zero.1 none a later)
      · rw [List.find?_cons_of_neg first]
        rw [List.countP_cons_of_neg first] at one
        rcases List.mem_cons.1 member with rfl | later
        · exact absurd passes first
        · exact ih one later

namespace Rendition

variable (rendition : Rendition read path) (repository : String)

/-- **A point that is no header refers to the first header of its file.** -/
theorem headerId?_of_getElem? {position : Nat} {point : Point} {chunk : Chunk}
    (found : (rendition.points repository)[position]? = some point)
    (there : rendition.chunks[position]? = some chunk) (other : chunk.isHeader = false) :
    point.headerId? = rendition.headerId? repository := by
  obtain ⟨described, dense, there', -, rfl⟩ := rendition.getElem?_points repository position found
  obtain rfl : chunk = described.chunk := Option.some.inj (there.symm.trans there')
  rw [FilePoints.point_headerId?, other]
  rfl

/-- The only header of a file is the one that is referred to. -/
theorem headerId?_eq_of_countP_le_one (one : rendition.chunks.countP Chunk.isHeader ≤ 1)
    {header : Chunk} (member : header ∈ rendition.chunks) (isHeader : header.isHeader = true) :
    rendition.headerId? repository = some (pointId repository path header.startLine) := by
  rw [headerId?, FilePoints.headerId?, find?_eq_some_of_countP_le_one one member isHeader]
  rfl

end Rendition

/-- **Headers of a file.**  A file that is no component has at most one header chunk, the first
chunk.  A large component has one for each of its blocks that has a header, so that a file has at
most one if and only if it is no component, a small one, or one with at most one such block.  Points
that are no headers refer to the first header of their file.  If there is only one, they refer to
it, wherever it stands: a template may come before the script whose header it refers to. -/
theorem chunkFile_headers (read : SyntaxReader) (content path : String) :
    (Language.ofPath? path ≠ some .vue →
      ∀ chunk ∈ (chunkFile read content path).tail, chunk.isHeader = false) ∧
    (Language.ofPath? path = some .vue →
      (chunkFile read content path).countP Chunk.isHeader = headersOf read content) ∧
    ((chunkFile read content path).countP Chunk.isHeader ≤ 1 ↔
      (Language.ofPath? path = some .vue → headersOf read content ≤ 1)) ∧
    ∀ (repository : String) (rendition : Rendition read path), rendition.text = content →
      ∀ (position : Nat) (point : Point) (chunk : Chunk),
        (rendition.points repository)[position]? = some point →
        (chunkFile read content path)[position]? = some chunk → chunk.isHeader = false →
          point.headerId? = ((chunkFile read content path).find? Chunk.isHeader).map
            (fun header => pointId repository path header.startLine) ∧
          ((chunkFile read content path).countP Chunk.isHeader ≤ 1 →
            ∀ header ∈ chunkFile read content path, header.isHeader = true →
              point.headerId? = some (pointId repository path header.startLine)) := by
  refine ⟨noHeader_tail_chunkFile read content path,
    fun isBlocks => countP_isHeader_component read isBlocks,
    countP_isHeader_le_one_iff read content path, ?_⟩
  rintro repository rendition rfl position point chunk found there other
  have refers := rendition.headerId?_of_getElem? repository found there other
  refine ⟨refers, fun one header member isHeader => ?_⟩
  rw [refers]
  exact rendition.headerId?_eq_of_countP_le_one repository one member isHeader

end CodeIndex
