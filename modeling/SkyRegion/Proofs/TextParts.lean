import SkyRegion.Definition.Basic
import SkyRegion.Proofs.Trimming
import SkyRegion.Text.LowerCase

/-! Texts taken apart. What is found in a text, or read from it, is told from the pieces on either side of a
character that belongs to neither. -/

namespace SkyRegion

namespace Text

theorem isPrefixOf_append_of_notMem {part : Text} {mark : Char} (other : mark ∉ part) (before after : Text) :
    part.isPrefixOf (before ++ mark :: after) = part.isPrefixOf before := by
  induction part generalizing before with
  | nil => simp
  | cons c rest ih =>
    obtain ⟨differs, other⟩ := List.ne_and_not_mem_of_not_mem_cons other
    cases before with
    | nil => simp [List.isPrefixOf, differs.symm]
    | cons d before => simp [List.isPrefixOf, ih other]

theorem holds_append_of_notMem {part : Text} {mark : Char} (other : mark ∉ part) (present : part ≠ [])
    (before after : Text) : holds part (before ++ mark :: after) = (holds part before || holds part after) := by
  induction before with
  | nil =>
    obtain ⟨c, rest, rfl⟩ := List.exists_cons_of_ne_nil present
    have differs : c ≠ mark := fun same => other (same ▸ List.mem_cons_self)
    simp [holds, differs]
  | cons d before ih =>
    have front := isPrefixOf_append_of_notMem other (d :: before) after
    rw [List.cons_append] at front
    rw [List.cons_append, holds, holds, front, ih, Bool.or_assoc]

theorem holds_eq_false_of_notMem {part text : Text} {c : Char} (member : c ∈ part) (missing : c ∉ text) :
    holds part text = false := by
  induction text with
  | nil => exact List.isEmpty_eq_false_iff.mpr (List.ne_nil_of_mem member)
  | cons d rest ih =>
    rw [holds, ih (List.not_mem_of_not_mem_cons missing), Bool.or_false, Bool.eq_false_iff]
    exact fun front => missing ((List.isPrefixOf_iff_prefix.mp front).subset member)

theorem cutAt_of_notMem {mark : Char} {text : Text} (missing : mark ∉ text) : cutAt mark text = (text, []) := by
  induction text with
  | nil => rfl
  | cons c rest ih =>
    obtain ⟨differs, missing⟩ := List.ne_and_not_mem_of_not_mem_cons missing
    simp [cutAt, differs.symm, ih missing]

theorem cutAt_append {mark : Char} {before : Text} (missing : mark ∉ before) (after : Text) :
    cutAt mark (before ++ mark :: after) = (before, after) := by
  induction before with
  | nil => simp [cutAt]
  | cons c rest ih =>
    obtain ⟨differs, missing⟩ := List.ne_and_not_mem_of_not_mem_cons missing
    simp [cutAt, differs.symm, ih missing]

theorem consFirst_append (c : Char) {first : List Text} (present : first ≠ []) (second : List Text) :
    consFirst c (first ++ second) = consFirst c first ++ second := by
  obtain ⟨piece, pieces, rfl⟩ := List.exists_cons_of_ne_nil present
  rfl

theorem consFirst_ne_nil (c : Char) (pieces : List Text) : consFirst c pieces ≠ [] := by
  cases pieces <;> exact List.cons_ne_nil _ _

section fields

variable {isMark : Char → Bool}

theorem fields_ne_nil (text : Text) : fields isMark text ≠ [] := by
  cases text with
  | nil => exact List.cons_ne_nil _ _
  | cons c rest =>
    rw [fields]
    split
    · exact List.cons_ne_nil _ _
    · exact consFirst_ne_nil _ _

/-- Everything about fields follows from what a mark does and from where there is none. -/
theorem fields_append {mark : Char} (marks : isMark mark = true) (before after : Text) :
    fields isMark (before ++ mark :: after) = fields isMark before ++ fields isMark after := by
  induction before with
  | nil => simp [fields, marks]
  | cons c rest ih =>
    rw [List.cons_append, fields, fields, ih]
    split
    · rfl
    · exact consFirst_append c (fields_ne_nil rest) _

theorem fields_of_forall {text : Text} (plain : ∀ c ∈ text, isMark c = false) : fields isMark text = [text] := by
  induction text with
  | nil => rfl
  | cons c rest ih =>
    rw [List.forall_mem_cons] at plain
    simp [fields, plain.1, ih plain.2, consFirst]

end fields

theorem physicalLines_cons_of_apart {c : Char} {rest : Text} (apart : ∀ rest', c = '\r' → rest = '\n' :: rest' → False) :
    physicalLines (c :: rest) =
      if isLineBreak c then [] :: physicalLines rest else consFirst c (physicalLines rest) := by
  rw [physicalLines]
  exact apart

theorem physicalLines_lineFeed (rest : Text) : physicalLines ('\n' :: rest) = [] :: physicalLines rest :=
  physicalLines_cons_of_apart nofun

theorem physicalLines_cons {c : Char} (plain : isLineBreak c = false) (text : Text) :
    physicalLines (c :: text) = consFirst c (physicalLines text) := by
  rw [physicalLines_cons_of_apart, plain, if_neg Bool.false_ne_true]
  rintro _ rfl
  exact absurd plain (by decide)

/-- What breaks no line stands at the front of the first one. -/
theorem physicalLines_append_of_cons {line : Text} (single : ∀ c ∈ line, isLineBreak c = false) {text first : Text}
    {lines : List Text} (parted : physicalLines text = first :: lines) :
    physicalLines (line ++ text) = (line ++ first) :: lines := by
  induction line with
  | nil => exact parted
  | cons c line ih =>
    rw [List.forall_mem_cons] at single
    rw [List.cons_append, physicalLines_cons single.1, ih single.2]
    rfl

theorem physicalLines_append {line : Text} (single : ∀ c ∈ line, isLineBreak c = false) (rest : Text) :
    physicalLines (line ++ '\n' :: rest) = line :: physicalLines rest := by
  rw [physicalLines_append_of_cons single (physicalLines_lineFeed rest), List.append_nil]

theorem physicalLines_ne_nil {text : Text} (present : text ≠ []) : physicalLines text ≠ [] := by
  rw [physicalLines.eq_def]
  split
  · exact absurd rfl present
  · exact List.cons_ne_nil _ _
  · split
    · exact List.cons_ne_nil _ _
    · exact consFirst_ne_nil _ _

/-- A line feed ends a line whatever stands before it, since a carriage return goes with it. -/
theorem physicalLines_append_break (first rest : Text) :
    physicalLines (first ++ '\n' :: rest) = physicalLines (first ++ ['\n']) ++ physicalLines rest := by
  induction first using physicalLines.induct with
  | case1 => rfl
  | case2 first ih => exact congrArg ([] :: ·) ih
  | case3 c first apart _ ih | case4 c first apart _ ih =>
    by_cases joined : c = '\r' ∧ first = []
    · obtain ⟨rfl, rfl⟩ := joined
      rfl
    · have split (further : Text) : physicalLines (c :: (first ++ '\n' :: further)) =
          if isLineBreak c then [] :: physicalLines (first ++ '\n' :: further)
          else consFirst c (physicalLines (first ++ '\n' :: further)) := by
        rw [physicalLines]
        rintro after rfl same
        cases first with
        | nil => exact joined ⟨rfl, rfl⟩
        | cons d first =>
          rw [List.cons_append, List.cons.injEq] at same
          exact apart first rfl (by rw [same.1])
      rw [List.cons_append, List.cons_append, split, split, ih]
      cases isLineBreak c with
      | true => rfl
      | false =>
        have present : first ++ ['\n'] ≠ [] := by simp
        exact consFirst_append c (physicalLines_ne_nil present) _

theorem physicalLines_of_forall {line : Text} (present : line ≠ []) (single : ∀ c ∈ line, isLineBreak c = false) :
    physicalLines line = [line] := by
  induction line with
  | nil => exact absurd rfl present
  | cons c rest ih =>
    rw [List.forall_mem_cons] at single
    rw [physicalLines_cons single.1]
    cases rest with
    | nil => rfl
    | cons d rest => rw [ih (List.cons_ne_nil d rest) single.2, consFirst]

theorem pieces_cons_mark (mark : Char) (text : Text) : pieces [mark] (mark :: text) = [] :: pieces [mark] text := by
  simp [pieces, piecesAfter]

theorem pieces_cons {mark c : Char} (other : c ≠ mark) (text : Text) :
    pieces [mark] (c :: text) = consFirst c (pieces [mark] text) := by
  simp [pieces, piecesAfter, other.symm]

theorem pieces_eq_fields (mark : Char) (text : Text) : pieces [mark] text = fields (· = mark) text := by
  induction text with
  | nil => rfl
  | cons c rest ih =>
    by_cases divides : c = mark
    · rw [divides, pieces_cons_mark, ih, fields, decide_eq_true rfl, if_pos rfl]
    · rw [pieces_cons divides, ih, fields, decide_eq_false divides, if_neg Bool.false_ne_true]

theorem pieces_of_notMem {mark : Char} {text : Text} (missing : mark ∉ text) : pieces [mark] text = [text] := by
  rw [pieces_eq_fields]
  apply fields_of_forall
  intro c member
  exact decide_eq_false fun same => missing (same ▸ member)

theorem pieces_append_mark {mark : Char} {front : Text} (missing : mark ∉ front) (rest : Text) :
    pieces [mark] (front ++ mark :: rest) = front :: pieces [mark] rest := by
  rw [pieces_eq_fields, fields_append (decide_eq_true rfl), ← pieces_eq_fields, ← pieces_eq_fields,
    pieces_of_notMem missing, List.singleton_append]

def numbered (start : Nat) (lines : List Text) : List LogicalLine :=
  (lines.zipIdx start).map fun (line, number) => ⟨number, line.trim⟩

theorem numbered_cons (start : Nat) (line : Text) (rest : List Text) :
    numbered start (line :: rest) = ⟨start, line.trim⟩ :: numbered (start + 1) rest := by
  rw [numbered, List.zipIdx_cons, List.map_cons]
  rfl

theorem numbered_append (start : Nat) (first second : List Text) :
    numbered start (first ++ second) = numbered start first ++ numbered (start + first.length) second := by
  rw [numbered, List.zipIdx_append, List.map_append]
  rfl

/-- Logical lines of a text whose first physical line has a number. -/
def logicalLinesFrom (mark : Char) (start : Nat) (text : Text) : List LogicalLine :=
  ((physicalLines text).zipIdx start).flatMap fun (line, number) => numberedPieces [mark] number line

theorem logicalLines?_eq (mark : Char) (text : Text) : logicalLines? [mark] text = some (logicalLinesFrom mark 1 text) := by
  rw [logicalLines?, logicalLinesFrom]
  cases physicalLines text <;> rfl

theorem logicalLinesFrom_append_break (mark : Char) (start : Nat) (first rest : Text) :
    logicalLinesFrom mark start (first ++ '\n' :: rest) = logicalLinesFrom mark start (first ++ ['\n']) ++
      logicalLinesFrom mark (start + (physicalLines (first ++ ['\n'])).length) rest := by
  rw [logicalLinesFrom, physicalLines_append_break, List.zipIdx_append, List.flatMap_append]
  rfl

theorem logicalLinesFrom_append {mark : Char} {line : Text} (start : Nat) (single : ∀ c ∈ line, isLineBreak c = false)
    (undivided : mark ∉ line) (rest : Text) : logicalLinesFrom mark start (line ++ '\n' :: rest) =
      ⟨start, line.trim⟩ :: logicalLinesFrom mark (start + 1) rest := by
  rw [logicalLinesFrom, physicalLines_append single, List.zipIdx_cons, List.flatMap_cons]
  simp only [numberedPieces, pieces_of_notMem undivided]
  rfl

/-- Lines that are ended one by one are the first lines of the whole, as long as nothing divides them. -/
theorem logicalLinesFrom_flatMap_append {mark : Char} {lines : List Text} (start : Nat)
    (single : ∀ line ∈ lines, ∀ c ∈ line, isLineBreak c = false) (undivided : ∀ line ∈ lines, mark ∉ line) (rest : Text) :
    logicalLinesFrom mark start (lines.flatMap (· ++ ['\n']) ++ rest) =
      numbered start lines ++ logicalLinesFrom mark (start + lines.length) rest := by
  induction lines generalizing start with
  | nil => rfl
  | cons line lines ih =>
    rw [List.forall_mem_cons] at single undivided
    rw [List.flatMap_cons, List.append_assoc, List.append_assoc, List.singleton_append,
      logicalLinesFrom_append start single.1 undivided.1, ih _ single.2 undivided.2, numbered_cons, List.length_cons,
      Nat.add_assoc, Nat.add_comm 1]
    rfl

theorem logicalLinesFrom_flatMap {mark : Char} {lines : List Text} (start : Nat)
    (single : ∀ line ∈ lines, ∀ c ∈ line, isLineBreak c = false) (undivided : ∀ line ∈ lines, mark ∉ line) :
    logicalLinesFrom mark start (lines.flatMap (· ++ ['\n'])) = numbered start lines := by
  have whole := logicalLinesFrom_flatMap_append start single undivided []
  rwa [List.append_nil, show logicalLinesFrom mark (start + lines.length) [] = [] from rfl, List.append_nil] at whole

theorem logicalLines?_of_forall {mark : Char} {line : Text} (present : line ≠ [])
    (single : ∀ c ∈ line, isLineBreak c = false) (undivided : mark ∉ line) :
    logicalLines? [mark] line = some [⟨1, line.trim⟩] := by
  simp [logicalLines?, physicalLines_of_forall present single, numberedPieces, pieces_of_notMem undivided]

section intercalate

variable {mark : Char} {tokens : List Text}

theorem intercalate_cons_cons (mark : Char) (token next : Text) (rest : List Text) :
    [mark].intercalate (token :: next :: rest) = token ++ mark :: [mark].intercalate (next :: rest) := by
  simp

theorem mem_intercalate {c : Char} (member : c ∈ [mark].intercalate tokens) : c = mark ∨ ∃ token ∈ tokens, c ∈ token := by
  induction tokens with
  | nil => exact absurd member List.not_mem_nil
  | cons token rest ih =>
    rw [List.exists_mem_cons_iff]
    cases rest with
    | nil => exact .inr (.inl (by simpa using member))
    | cons next rest =>
      rw [intercalate_cons_cons, List.mem_append, List.mem_cons] at member
      rcases member with member | rfl | member
      · exact .inr (.inl member)
      · exact .inl rfl
      · exact (ih member).imp_right .inr

/-- What holds no mark stands within one of the tokens. -/
theorem holds_intercalate {part : Text} (other : mark ∉ part) (present : part ≠ [])
    (each : ∀ token ∈ tokens, holds part token = false) : holds part ([mark].intercalate tokens) = false := by
  induction tokens with
  | nil => exact List.isEmpty_eq_false_iff.mpr present
  | cons token rest ih =>
    rw [List.forall_mem_cons] at each
    cases rest with
    | nil => simpa using each.1
    | cons next rest =>
      rw [intercalate_cons_cons, holds_append_of_notMem other present, each.1, ih each.2]
      rfl

end intercalate

/-- Lower case leaves a character in its place that has none of its own. -/
theorem mem_lower {c : Char} {text : Text} (fixed : simpleLower c = c) (sigma : c ≠ 'Σ') (dotted : c ≠ 'İ')
    (member : c ∈ text) : c ∈ text.lower := by
  rw [lower]
  generalize [] = before
  induction text generalizing before with
  | nil => exact absurd member List.not_mem_nil
  | cons d rest ih =>
    rw [lowerAfter]
    rcases List.mem_cons.mp member with rfl | member
    · simp [sigma, dotted, fixed]
    · exact List.mem_append_right _ (ih member _)

end Text

namespace Definition

open Text

@[simp] theorem tokensOf_nil : tokensOf [] = [] := rfl

theorem tokensOf_append {mark : Char} (separates : isSeparator mark = true) (before after : Text) :
    tokensOf (before ++ mark :: after) = tokensOf before ++ tokensOf after := by
  rw [tokensOf, fields_append separates, List.filter_append]
  rfl

theorem tokensOf_cons {mark : Char} (separates : isSeparator mark = true) (text : Text) :
    tokensOf (mark :: text) = tokensOf text :=
  tokensOf_append separates [] text

theorem tokensOf_token {token : Text} (present : token ≠ []) (plain : ∀ c ∈ token, isSeparator c = false) :
    tokensOf token = [token] := by
  simp [tokensOf, fields_of_forall plain, present]

theorem tokensOf_intercalate {mark : Char} (separates : isSeparator mark = true) {tokens : List Text}
    (each : ∀ token ∈ tokens, tokensOf token = [token]) : tokensOf ([mark].intercalate tokens) = tokens := by
  induction tokens with
  | nil => rfl
  | cons token rest ih =>
    rw [List.forall_mem_cons] at each
    cases rest with
    | nil => simpa using each.1
    | cons next rest =>
      rw [intercalate_cons_cons, tokensOf_append separates, each.1, ih each.2]
      rfl

end Definition
end SkyRegion
