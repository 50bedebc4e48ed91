import SkyRegion.Proofs.DelimiterBreaks
import SkyRegion.Proofs.PropertyText
import SkyRegion.Proofs.Separators

/-! The numbers of lines. A text breaks into physical lines in one way, and each of them has a number. The logical lines
carry these numbers in their order, one more of each than there are delimiters on the line; and between them they hold all
of the text but blanks and delimiters. -/

namespace SkyRegion.Text

/-- What ends a line before what follows it: a line break, and a carriage return together with the line feed after it. -/
inductive EndsLine : Text → Text → Prop where
  | pair (rest : Text) : EndsLine ['\r', '\n'] rest
  | single {c : Char} {rest : Text} (breaks : isLineBreak c = true) (apart : c = '\r' → rest.head? ≠ some '\n') :
      EndsLine [c] rest

/-- How a text breaks into physical lines. The last of them need not be ended, but then it is not empty. -/
inductive BreaksInto : Text → List Text → Prop where
  | nothing : BreaksInto [] []
  | last {line : Text} (present : line ≠ []) (unbroken : ∀ c ∈ line, isLineBreak c = false) : BreaksInto line [line]
  | ended {line ending rest : Text} {lines : List Text} (unbroken : ∀ c ∈ line, isLineBreak c = false)
      (ends : EndsLine ending rest) (further : BreaksInto rest lines) : BreaksInto (line ++ ending ++ rest) (line :: lines)

variable {text rest ending : Text} {lines : List Text}

theorem EndsLine.physicalLines_append (ends : EndsLine ending rest) :
    physicalLines (ending ++ rest) = [] :: physicalLines rest := by
  cases ends with
  | pair => rfl
  | single breaks apart =>
    rw [List.singleton_append, physicalLines_cons_of_apart, if_pos breaks]
    rintro after carriage rfl
    exact apart carriage rfl

theorem BreaksInto.physicalLines_eq (broken : BreaksInto text lines) : physicalLines text = lines := by
  induction broken with
  | nothing => rfl
  | last present unbroken => exact physicalLines_of_forall present unbroken
  | ended unbroken ends _ ih =>
    rw [List.append_assoc, physicalLines_append_of_cons unbroken ends.physicalLines_append, ih, List.append_nil]

theorem BreaksInto.cons {c : Char} (plain : isLineBreak c = false) (broken : BreaksInto text lines) :
    BreaksInto (c :: text) (consFirst c lines) := by
  cases broken with
  | nothing => exact .last (List.cons_ne_nil c []) (List.forall_mem_singleton.mpr plain)
  | last _ unbroken => exact .last (List.cons_ne_nil c _) (List.forall_mem_cons.mpr ⟨plain, unbroken⟩)
  | ended unbroken ends further => exact .ended (List.forall_mem_cons.mpr ⟨plain, unbroken⟩) ends further

theorem breaksInto_physicalLines (text : Text) : BreaksInto text (physicalLines text) := by
  induction text using physicalLines.induct with
  | case1 => exact .nothing
  | case2 rest ih => exact .ended (List.forall_mem_nil _) (.pair rest) ih
  | case3 c rest apart breaks ih =>
    rw [physicalLines_cons_of_apart apart, if_pos breaks]
    refine .ended (List.forall_mem_nil _) (.single breaks fun carriage first => ?_) ih
    obtain ⟨after, rfl⟩ := List.head?_eq_some_iff.mp first
    exact apart after carriage rfl
  | case4 c rest apart plain ih =>
    rw [Bool.not_eq_true] at plain
    rw [physicalLines_cons plain]
    exact ih.cons plain

theorem breaksInto_iff : BreaksInto text lines ↔ lines = physicalLines text := by
  constructor
  · exact fun broken => broken.physicalLines_eq.symm
  · rintro rfl
    exact breaksInto_physicalLines text

theorem isBlank_of_isLineBreak {c : Char} (breaks : isLineBreak c = true) : isBlank c = true := by
  simp only [isLineBreak, isBlank, inRanges, lineBreakRanges, blankRanges] at breaks ⊢
  grind

theorem number_of_mem_numberedPieces {delimiter text : Text} {number : Nat} {line : LogicalLine}
    (listed : line ∈ numberedPieces delimiter number text) : line.number = number := by
  obtain ⟨piece, _, rfl⟩ := List.mem_map.mp listed
  rfl

/-- The pieces of physical lines keep the numbers of those lines, in their order. -/
theorem numbers_of_pieces (delimiter : Text) (physical : List Text) (start : Nat) :
    let lines := (physical.zipIdx start).flatMap fun (line, number) => numberedPieces delimiter number line
    lines.Pairwise (·.number ≤ ·.number) ∧
      ∀ line ∈ lines, start ≤ line.number ∧ line.number < start + physical.length := by
  induction physical generalizing start with
  | nil => exact ⟨.nil, List.forall_mem_nil _⟩
  | cons first rest ih =>
    obtain ⟨ordered, bounded⟩ := ih (start + 1)
    rw [List.zipIdx_cons, List.flatMap_cons, List.length_cons]
    have same : ∀ line ∈ numberedPieces delimiter start first, line.number = start :=
      fun _ => number_of_mem_numberedPieces
    constructor
    · refine List.pairwise_append.mpr ⟨?_, ordered, ?_⟩
      · apply List.pairwise_of_forall_mem_list
        intro line listed other listed'
        rw [same line listed, same other listed']
      · intro line listed other later
        rw [same line listed]
        exact Nat.le_of_succ_le (bounded other later).1
    · intro line listed
      cases List.mem_append.mp listed with
      | inl listed =>
        rw [same line listed]
        omega
      | inr later =>
        have within := bounded line later
        omega

theorem numbers_of_logicalLines? {delimiter text : Text} {lines : List LogicalLine}
    (split : logicalLines? delimiter text = some lines) :
    lines.Pairwise (·.number ≤ ·.number) ∧
      ∀ line ∈ lines, 1 ≤ line.number ∧ line.number ≤ (physicalLines text).length := by
  rw [logicalLines?] at split
  cases physical : physicalLines text with
  | nil =>
    simp only [physical, Option.some.injEq] at split
    subst split
    exact ⟨.nil, List.forall_mem_nil _⟩
  | cons first rest =>
    simp only [physical] at split
    split at split
    · cases split
    · cases split
      obtain ⟨ordered, bounded⟩ := numbers_of_pieces delimiter (first :: rest) 1
      refine ⟨ordered, fun line listed => ?_⟩
      have within := bounded line listed
      omega

/-- A physical line has as many logical lines as it has pieces. -/
theorem countP_number (delimiter : Text) (physical : List Text) (start : Nat) {index : Nat} (inside : index < physical.length) :
    ((physical.zipIdx start).flatMap fun (line, number) => numberedPieces delimiter number line).countP
      (·.number = start + index) = (pieces delimiter physical[index]).length := by
  induction physical generalizing start index with
  | nil => exact absurd inside (Nat.not_lt_zero index)
  | cons first rest ih =>
    have same : ∀ line ∈ numberedPieces delimiter start first, line.number = start :=
      fun _ => number_of_mem_numberedPieces
    rw [List.zipIdx_cons, List.flatMap_cons, List.countP_append]
    cases index with
    | zero =>
      have front : (numberedPieces delimiter start first).countP (·.number = start + 0) = (pieces delimiter first).length := by
        rw [Nat.add_zero, List.countP_eq_length.mpr fun line listed => decide_eq_true (same line listed), numberedPieces,
          List.length_map]
      have later := (numbers_of_pieces delimiter rest (start + 1)).2
      rw [front, List.countP_eq_zero.mpr]
      · rfl
      · intro line listed named
        have beyond := (later line listed).1
        have within := of_decide_eq_true named
        omega
    | succ index =>
      rw [List.countP_eq_zero.mpr, Nat.zero_add, show start + (index + 1) = start + 1 + index by omega, ih]
      · rfl
      · intro line listed named
        have before := same line listed
        have within := of_decide_eq_true named
        omega

theorem length_pieces (mark : Char) (text : Text) : (pieces [mark] text).length = text.count mark + 1 := by
  rw [pieces_eq_fields, length_fields]
  rfl

theorem countP_logicalLinesFrom (mark : Char) {text : Text} {index : Nat} (inside : index < (physicalLines text).length) :
    (logicalLinesFrom mark 1 text).countP (·.number = index + 1) = (physicalLines text)[index].count mark + 1 := by
  rw [← length_pieces, Nat.add_comm index]
  exact countP_number [mark] (physicalLines text) 1 inside

/-- No physical line is left out: one without a delimiter still has a piece, though it may be blank. -/
theorem exists_number_iff (mark : Char) (text : Text) (number : Nat) :
    (∃ line ∈ logicalLinesFrom mark 1 text, line.number = number) ↔ 1 ≤ number ∧ number ≤ (physicalLines text).length := by
  constructor
  · rintro ⟨line, listed, rfl⟩
    exact (numbers_of_logicalLines? (logicalLines?_eq mark text)).2 line listed
  · rintro ⟨positive, within⟩
    have inside : number - 1 < (physicalLines text).length := by omega
    have counted := countP_logicalLinesFrom mark inside
    have present : 0 < (logicalLinesFrom mark 1 text).countP (·.number = number - 1 + 1) := by omega
    obtain ⟨line, listed, same⟩ := List.countP_pos_iff.mp present
    rw [Nat.sub_add_cancel positive] at same
    exact ⟨line, listed, of_decide_eq_true same⟩

theorem flatten_physicalLines (text : Text) : (physicalLines text).flatten = text.filter (!isLineBreak ·) := by
  rw [← List.flatMap_id, flatMap_physicalLines rfl, List.flatMap_id, flatten_fields]

theorem flatten_pieces (mark : Char) (lines : List Text) :
    (lines.flatMap (pieces [mark])).flatten = lines.flatten.filter (· ≠ mark) := by
  induction lines with
  | nil => rfl
  | cons line lines ih =>
    rw [List.flatMap_cons, List.flatten_append, ih, pieces_eq_fields, flatten_fields, List.flatten_cons, List.filter_append]
    simp

/-- Trimming takes nothing but blanks away. -/
theorem filter_flatten_trim (texts : List Text) :
    (texts.map trim).flatten.filter (!isBlank ·) = texts.flatten.filter (!isBlank ·) := by
  rw [List.filter_flatten, List.filter_flatten, List.map_map]
  exact congrArg List.flatten (List.map_congr_left fun text _ => filter_trimWhere text)

section divided

variable {mark : Char} {text : Text} {line : LogicalLine}

theorem mem_logicalLinesFrom {start : Nat} (listed : line ∈ logicalLinesFrom mark start text) :
    ∀ c ∈ line.text, c ≠ mark ∧ isLineBreak c = false := by
  intro c member
  have trimmed := List.mem_map_of_mem (f := (·.text)) listed
  rw [texts_logicalLinesFrom] at trimmed
  obtain ⟨piece, divided, same⟩ := List.mem_map.mp trimmed
  obtain ⟨physical, broken, divided⟩ := List.mem_flatMap.mp divided
  rw [pieces_eq_fields] at divided
  rw [← same] at member
  have inside := mem_of_mem_fields divided (mem_of_mem_trimWhere member)
  have kept := List.mem_flatten_of_mem broken inside.1
  rw [flatten_physicalLines, List.mem_filter] at kept
  exact ⟨of_decide_eq_false inside.2, by simpa using kept.2⟩

/-- Line breaks are blank, so that nothing else is lost where lines end. -/
theorem solid_logicalLinesFrom (mark : Char) (start : Nat) (text : Text) :
    ((logicalLinesFrom mark start text).flatMap (·.text)).filter (!isBlank ·) =
      text.filter fun c => !isBlank c && c ≠ mark := by
  calc ((logicalLinesFrom mark start text).flatMap (·.text)).filter (!isBlank ·)
    _ = (((physicalLines text).flatMap (pieces [mark])).map trim).flatten.filter (!isBlank ·) := by
      rw [List.flatMap, texts_logicalLinesFrom]
    _ = ((text.filter (!isLineBreak ·)).filter (· ≠ mark)).filter (!isBlank ·) := by
      rw [filter_flatten_trim, flatten_pieces, flatten_physicalLines]
    _ = text.filter fun c => !isBlank c && c ≠ mark := by
      rw [List.filter_filter, List.filter_filter]
      refine List.filter_congr fun c _ => ?_
      cases breaks : isLineBreak c with
      | true => simp [isBlank_of_isLineBreak breaks]
      | false => simp

end divided

/-- What logical lines keep of a text and of the physical lines that it breaks into. -/
structure IsNumbering (mark : Char) (text : Text) (physical : List Text) (lines : List LogicalLine) : Prop where
  ordered : lines.Pairwise (·.number ≤ ·.number)
  numbers : ∀ number, (∃ line ∈ lines, line.number = number) ↔ 1 ≤ number ∧ number ≤ physical.length
  counted : ∀ (index : Nat) (inside : index < physical.length),
    lines.countP (·.number = index + 1) = physical[index].count mark + 1
  trimmed : ∀ line ∈ lines, (∀ c ∈ line.text.head?, isBlank c = false) ∧ ∀ c ∈ line.text.getLast?, isBlank c = false
  undivided : ∀ line ∈ lines, ∀ c ∈ line.text, c ≠ mark ∧ isLineBreak c = false
  solid : (lines.flatMap (·.text)).filter (!isBlank ·) = text.filter fun c => !isBlank c && c ≠ mark

/-- A text breaks into physical lines in one way. Whatever the delimiter is, the logical lines number these, leave none of
them out, and lose nothing but blanks and delimiters. -/
theorem logicalLines_numbered (mark : Char) (text : Text) : ∃ physical lines,
    (∀ division, BreaksInto text division ↔ division = physical) ∧ logicalLines? [mark] text = some lines ∧
      IsNumbering mark text physical lines := by
  refine ⟨physicalLines text, logicalLinesFrom mark 1 text, fun _ => breaksInto_iff, logicalLines?_eq mark text, ?_⟩
  have ordered := (numbers_of_logicalLines? (logicalLines?_eq mark text)).1
  have trimmed : ∀ line ∈ logicalLinesFrom mark 1 text,
      (∀ c ∈ line.text.head?, isBlank c = false) ∧ ∀ c ∈ line.text.getLast?, isBlank c = false := by
    intro line listed
    rw [← logicalLinesFrom_trimmed mark 1 text line listed]
    exact ends_trimWhere line.text
  exact ⟨ordered, exists_number_iff mark text, fun _ => countP_logicalLinesFrom mark, trimmed, fun _ => mem_logicalLinesFrom,
    solid_logicalLinesFrom mark 1 text⟩

/-- Two line ends stand together, as do two delimiters, and the text ends with one of each. -/
example : logicalLines? [';'] "a;;\u3000b\r\n\u0085 c ;\n".toList = some [⟨1, ['a']⟩, ⟨1, []⟩, ⟨1, ['b']⟩, ⟨2, []⟩,
    ⟨3, ['c']⟩, ⟨3, []⟩] := by decide

end SkyRegion.Text
