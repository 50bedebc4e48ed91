import Mathlib.Data.List.Infix
import SkyRegion.Proofs.TextParts

/-! Texts that are divided on a line of their own. A text with line breaks or delimiters in it is read in parts: the first
goes on with what stands before the text, and the others are cut off from it and read by themselves. -/

namespace SkyRegion.Text

theorem holds_iff_isInfix {part text : Text} : holds part text = true ↔ part <:+: text := by
  induction text with
  | nil => simp [holds]
  | cons c rest ih => rw [holds, Bool.or_eq_true, List.isPrefixOf_iff_prefix, ih, List.infix_cons_iff]

theorem holds_of_isInfix {part inner outer : Text} (inside : inner <:+: outer) (held : holds part inner = true) :
    holds part outer = true :=
  holds_iff_isInfix.mpr ((holds_iff_isInfix.mp held).trans inside)

variable {mark c : Char} {text front : Text}

theorem pieces_ne_nil (text : Text) : pieces [mark] text ≠ [] := by
  rw [pieces_eq_fields]
  exact fields_ne_nil text

theorem physicalLines_cons_break (breaks : isLineBreak c = true) (text : Text) :
    ∃ lines, physicalLines (c :: text) = [] :: lines := by
  rw [physicalLines.eq_def]
  split
  · rename_i same
    cases same
  · exact ⟨_, rfl⟩
  · rename_i same
    cases same
    exact ⟨_, if_pos breaks⟩

/-- The pieces between line breaks and delimiters of a text that is ended as a line. -/
def parts (mark : Char) (text : Text) : List Text := (physicalLines (text ++ ['\n'])).flatMap (pieces [mark])

/-- The pieces that are read by themselves when the text goes on a line that was begun. -/
def cutOff (mark : Char) (text : Text) : List Text := (parts mark text).tail.map trim

theorem texts_logicalLinesFrom (start : Nat) (text : Text) :
    (logicalLinesFrom mark start text).map (·.text) = ((physicalLines text).flatMap (pieces [mark])).map trim := by
  rw [logicalLinesFrom]
  generalize physicalLines text = lines
  induction lines generalizing start with
  | nil => rfl
  | cons line rest ih =>
    have numbers : (numberedPieces [mark] start line).map (·.text) = (pieces [mark] line).map trim := by
      rw [numberedPieces, List.map_map]
      rfl
    rw [List.zipIdx_cons, List.flatMap_cons, List.flatMap_cons, List.map_append, List.map_append, ih, numbers]

theorem logicalLinesFrom_text (start : Nat) (text : Text) :
    (logicalLinesFrom mark start (text ++ ['\n'])).map (·.text) = (parts mark text).map trim :=
  texts_logicalLinesFrom start _

theorem logicalLinesFrom_append_text (start : Nat) (first rest : Text) :
    (logicalLinesFrom mark start (first ++ '\n' :: rest)).map (·.text) = (parts mark first).map trim ++
      (logicalLinesFrom mark (start + (physicalLines (first ++ ['\n'])).length) rest).map (·.text) := by
  rw [logicalLinesFrom_append_break, List.map_append, logicalLinesFrom_text]

theorem logicalLinesFrom_trimmed (mark : Char) (start : Nat) (text : Text) :
    ∀ line ∈ logicalLinesFrom mark start text, line.text.trim = line.text := by
  intro line listed
  obtain ⟨_, _, numbered⟩ := List.mem_flatMap.mp listed
  obtain ⟨piece, _, rfl⟩ := List.mem_map.mp numbered
  exact trim_trim piece

/-- A character that does not divide goes to the first part. -/
theorem parts_cons (plain : isLineBreak c = false) (other : c ≠ mark) (text : Text) :
    parts mark (c :: text) = consFirst c (parts mark text) := by
  have present : physicalLines (text ++ ['\n']) ≠ [] := physicalLines_ne_nil (by simp)
  obtain ⟨line, lines, ended⟩ := List.exists_cons_of_ne_nil present
  rw [parts, parts, List.cons_append, physicalLines_cons plain, ended, consFirst, List.flatMap_cons, List.flatMap_cons,
    pieces_cons other, consFirst_append c (pieces_ne_nil line)]

/-- A text has a first part, and begins with it. -/
theorem exists_parts (mark : Char) (text : Text) : ∃ first rest, parts mark text = first :: rest ∧ first <+: text := by
  induction text with
  | nil => exact ⟨[], [], rfl, List.nil_prefix⟩
  | cons c text ih =>
    cases breaks : isLineBreak c with
    | true =>
      obtain ⟨lines, ended⟩ := physicalLines_cons_break breaks (text ++ ['\n'])
      exact ⟨[], lines.flatMap (pieces [mark]), by rw [parts, List.cons_append, ended]; rfl, List.nil_prefix⟩
    | false =>
      by_cases divides : c = mark
      · obtain ⟨line, lines, ended⟩ := List.exists_cons_of_ne_nil (physicalLines_ne_nil (show text ++ ['\n'] ≠ [] by simp))
        refine ⟨[], pieces [mark] line ++ lines.flatMap (pieces [mark]), ?_, List.nil_prefix⟩
        rw [parts, List.cons_append, physicalLines_cons breaks, ended, consFirst, List.flatMap_cons, divides,
          pieces_cons_mark, List.cons_append]
      · obtain ⟨first, rest, divided, leads⟩ := ih
        refine ⟨c :: first, rest, ?_, (List.prefix_cons_inj c).mpr leads⟩
        rw [parts_cons breaks divides, divided, consFirst]

theorem parts_append (single : ∀ c ∈ front, isLineBreak c = false) (undivided : mark ∉ front) {first : Text}
    {rest : List Text} (divided : parts mark text = first :: rest) : parts mark (front ++ text) = (front ++ first) :: rest := by
  induction front with
  | nil => exact divided
  | cons c front ih =>
    rw [List.forall_mem_cons] at single
    obtain ⟨differs, undivided⟩ := List.ne_and_not_mem_of_not_mem_cons undivided
    rw [List.cons_append, parts_cons single.1 differs.symm, ih single.2 undivided]
    rfl

end SkyRegion.Text
