import SkyRegion.Line
import SkyRegion.Proofs.NumberText
import SkyRegion.Proofs.PropertyText
import SkyRegion.Proofs.TextParts
import SkyRegion.Shape.Keyword
import SkyRegion.Writer.Basic

/-! The line that a region is written on. A definition is a keyword and numbers in parentheses, and a name follows
as a property; taken apart again, the line gives the keyword, the numbers and the name. -/

namespace SkyRegion

open Text

/-- The keywords that regions are written with. -/
def writtenKeywords : List ShapeKeyword := [.point, .circle, .ellipse, .box, .polygon]

/-- The characters of written numbers, of the mark after a length and of words for what is no number. -/
def isTokenMark (c : Char) : Bool := Numeral.isMark c || "\"nafi".toList.contains c

def isInnerMark (c : Char) : Bool := isTokenMark c || c = ',' || c = ' '

/-- The characters of written definitions. -/
def isDefinitionMark (c : Char) : Bool :=
  isInnerMark c || ("()".toList ++ writtenKeywords.flatMap (·.name)).contains c

theorem isInnerMark_of_isTokenMark {c : Char} (mark : isTokenMark c = true) : isInnerMark c = true := by
  simp [isInnerMark, mark]

theorem isSeparator_of_isTokenMark {c : Char} (mark : isTokenMark c = true) : Definition.isSeparator c = false := by
  rw [isTokenMark, Bool.or_eq_true, List.contains_iff_mem] at mark
  cases mark with
  | inr listed =>
    have plain : ∀ c ∈ "\"nafi".toList, Definition.isSeparator c = false := forall_mem_of_all (by decide)
    exact plain c listed
  | inl mark =>
    have solid := Numeral.isBlank_of_isMark mark
    have other : c ≠ ',' ∧ c ≠ '(' ∧ c ≠ ')' := by
      refine ⟨?_, ?_, ?_⟩ <;>
      · rintro rfl
        exact absurd mark (by decide)
    simp [Definition.isSeparator, solid, other]

theorem isLineBreak_of_isDefinitionMark {c : Char} (mark : isDefinitionMark c = true) : isLineBreak c = false := by
  simp only [isDefinitionMark, isInnerMark, isTokenMark, Numeral.isMark, Bool.or_eq_true, decide_eq_true_eq,
    List.contains_iff_mem] at mark
  rcases mark with ((((digit | other) | other) | rfl) | rfl) | other
  · exact inRanges_of_isDigit (by decide +kernel) digit
  · exact (forall_mem_of_all (by decide) : ∀ c ∈ "+-.eE".toList, isLineBreak c = false) c other
  · exact (forall_mem_of_all (by decide) : ∀ c ∈ "\"nafi".toList, isLineBreak c = false) c other
  · decide
  · decide
  · exact (forall_mem_of_all (by decide) :
      ∀ c ∈ "()".toList ++ writtenKeywords.flatMap (·.name), isLineBreak c = false) c other

/-- A text that stays in one piece between separators. -/
structure IsToken (text : Text) : Prop where
  present : text ≠ []
  marks : ∀ c ∈ text, isTokenMark c = true

namespace IsToken

variable {text : Text} (token : IsToken text)
include token

theorem tokensOf : Definition.tokensOf text = [text] :=
  Definition.tokensOf_token token.present fun c member => isSeparator_of_isTokenMark (token.marks c member)

theorem mem_inner {c : Char} (member : c ∈ text) : isInnerMark c = true :=
  isInnerMark_of_isTokenMark (token.marks c member)

theorem ne_point : text ≠ ShapeKeyword.point.name := by
  rintro rfl
  exact absurd (token.marks _ (List.mem_cons_self ..)) (show ¬isTokenMark 'p' = true by decide)

end IsToken

namespace Numeral.IsWellFormed

variable {numeral : Numeral} (wellFormed : numeral.IsWellFormed)
include wellFormed

theorem isToken : IsToken numeral.text :=
  ⟨wellFormed.text_ne_nil, fun c member => by simp [isTokenMark, wellFormed.isMark_of_mem_text c member]⟩

end Numeral.IsWellFormed

/-- A definition with a keyword and arguments. -/
structure IsWritten (definition : Text) (keyword : ShapeKeyword) (arguments : List Text) : Prop where
  known : keyword ∈ writtenKeywords
  tokens : ∀ argument ∈ arguments, IsToken argument
  form : ∃ inner, definition = keyword.name ++ '(' :: (inner ++ [')']) ∧ Definition.tokensOf inner = arguments ∧
    ∀ c ∈ inner, isInnerMark c = true

namespace IsNumberText

variable {text : Text} (plain : IsNumberText text)
include plain

theorem isToken : IsToken text := by
  obtain ⟨numeral, wellFormed, rfl⟩ := plain
  exact wellFormed.isToken

end IsNumberText

namespace Region

theorem separated_cons_cons (part next : Text) (rest : List Text) :
    separated (part :: next :: rest) = part ++ ',' :: ' ' :: separated (next :: rest) := by
  simp [separated]

theorem tokensOf_separated (parts : List Text) :
    Definition.tokensOf (separated parts) = parts.flatMap Definition.tokensOf := by
  induction parts with
  | nil => rfl
  | cons part rest ih =>
    cases rest with
    | nil => simp [separated]
    | cons next rest =>
      rw [separated_cons_cons, Definition.tokensOf_append (by decide), Definition.tokensOf_cons (by decide), ih]
      rfl

theorem mem_separated {parts : List Text} {c : Char} (member : c ∈ separated parts) :
    c = ',' ∨ c = ' ' ∨ ∃ part ∈ parts, c ∈ part := by
  induction parts with
  | nil => exact absurd member List.not_mem_nil
  | cons part rest ih =>
    cases rest with
    | nil => exact .inr (.inr ⟨part, List.mem_cons_self, by simpa [separated] using member⟩)
    | cons next rest =>
      simp only [separated_cons_cons, List.mem_append, List.mem_cons] at member
      rcases member with member | rfl | rfl | member
      · exact .inr (.inr ⟨part, List.mem_cons_self, member⟩)
      · exact .inl rfl
      · exact .inr (.inl rfl)
      · rcases ih member with comma | space | ⟨part', listed, member⟩
        · exact .inl comma
        · exact .inr (.inl space)
        · exact .inr (.inr ⟨part', List.mem_cons_of_mem _ listed, member⟩)

/-- A call whose parts are made of tokens, with separators between them, is a written definition. -/
theorem isWritten_call {keyword : ShapeKeyword} (known : keyword ∈ writtenKeywords) {parts : List Text}
    (tokens : ∀ argument ∈ parts.flatMap Definition.tokensOf, IsToken argument)
    (marks : ∀ part ∈ parts, ∀ c ∈ part, isInnerMark c = true) {name : String} (named : name.toList = keyword.name) :
    IsWritten (call name parts) keyword (parts.flatMap Definition.tokensOf) := by
  refine ⟨known, tokens, separated parts, ?_, tokensOf_separated parts, fun c member => ?_⟩
  · rw [call, named]
    simp
  · rcases mem_separated member with rfl | rfl | ⟨part, listed, member⟩
    · decide
    · decide
    · exact marks part listed c member

theorem isWritten_call_of_tokens {keyword : ShapeKeyword} (known : keyword ∈ writtenKeywords) {arguments : List Text}
    (tokens : ∀ argument ∈ arguments, IsToken argument) {name : String} (named : name.toList = keyword.name) :
    IsWritten (call name arguments) keyword arguments := by
  have whole : arguments.flatMap Definition.tokensOf = arguments :=
    (List.flatMap_congr fun argument listed => (tokens argument listed).tokensOf).trans (List.flatMap_singleton' _)
  have written := @isWritten_call keyword known arguments (by rwa [whole])
    (fun part listed _ member => (tokens part listed).mem_inner member) name named
  rwa [whole] at written

def pointTexts (point : Point) : List Text := [point.x.fixed 2, point.y.fixed 2]

/-- The angle of an ellipse, which is not always written. -/
def angleTexts (region : Region) : List Text :=
  if Floating.below 0 (toHorizontal region.rotation) then [(toHorizontal region.rotation).angleText] else []

/-- The points of a region can be written, whatever its angle is. -/
structure IsDrawable (region : Region) : Prop where
  fits : region.kind.fits region.points.length = true
  x : ∀ point ∈ region.points, point.x.isFinite = true
  y : ∀ point ∈ region.points, point.y.isFinite = true

instance (region : Region) : Decidable region.IsDrawable :=
  decidable_of_iff (region.kind.fits region.points.length = true ∧ (∀ point ∈ region.points, point.x.isFinite = true) ∧
      ∀ point ∈ region.points, point.y.isFinite = true)
    ⟨fun ⟨fits, x, y⟩ => ⟨fits, x, y⟩, fun drawable => ⟨drawable.fits, drawable.x, drawable.y⟩⟩

/-- The numbers of a region can be written, and so can its angle. -/
structure IsWritable (region : Region) : Prop where
  fits : region.kind.fits region.points.length = true
  x : ∀ point ∈ region.points, point.x.isFinite = true
  y : ∀ point ∈ region.points, point.y.isFinite = true
  rotation : (region.rotation.convert : Floating .single).isFinite = true

instance (region : Region) : Decidable region.IsWritable :=
  decidable_of_iff (region.kind.fits region.points.length = true ∧ (∀ point ∈ region.points, point.x.isFinite = true) ∧
      (∀ point ∈ region.points, point.y.isFinite = true) ∧ (region.rotation.convert : Floating .single).isFinite = true)
    ⟨fun ⟨fits, x, y, rotation⟩ => ⟨fits, x, y, rotation⟩,
      fun writable => ⟨writable.fits, writable.x, writable.y, writable.rotation⟩⟩

theorem IsWritable.isDrawable {region : Region} (writable : region.IsWritable) : region.IsDrawable :=
  ⟨writable.fits, writable.x, writable.y⟩

/-- How the region is written, kind by kind. -/
inductive WrittenAs (region : Region) : ShapeKeyword → List Text → Prop
  | point {center : Point} (kind : region.kind = .point) (points : region.points = [center]) :
      WrittenAs region .point (pointTexts center)
  | box {center size : Point} (kind : region.kind = .rectangle) (points : region.points = [center, size]) :
      WrittenAs region .box (pointTexts center ++ pointTexts size ++ [region.rotation.angleText])
  | circle {center size : Point} (kind : region.kind = .ellipse) (points : region.points = [center, size])
      (equal : size.x.same size.y = true) : WrittenAs region .circle (pointTexts center ++ [size.x.fixed 2])
  | ellipse {center size : Point} (kind : region.kind = .ellipse) (points : region.points = [center, size])
      (unequal : size.x.same size.y = false) :
      WrittenAs region .ellipse (pointTexts center ++ pointTexts size ++ region.angleTexts)
  | polygon (kind : region.kind = .polygon) (enough : 3 ≤ region.points.length) :
      WrittenAs region .polygon (region.points.flatMap pointTexts)

theorem writtenAs_of_fits {region : Region} (fits : region.kind.fits region.points.length = true) :
    ∃ keyword arguments, region.WrittenAs keyword arguments := by
  cases kind : region.kind with
  | point =>
    rw [kind, RegionKind.fits, decide_eq_true_eq, List.length_eq_one_iff] at fits
    obtain ⟨center, points⟩ := fits
    exact ⟨_, _, .point kind points⟩
  | rectangle =>
    rw [kind, RegionKind.fits, decide_eq_true_eq, List.length_eq_two] at fits
    obtain ⟨center, size, points⟩ := fits
    exact ⟨_, _, .box kind points⟩
  | ellipse =>
    rw [kind, RegionKind.fits, decide_eq_true_eq, List.length_eq_two] at fits
    obtain ⟨center, size, points⟩ := fits
    cases equal : size.x.same size.y with
    | true => exact ⟨_, _, .circle kind points equal⟩
    | false => exact ⟨_, _, .ellipse kind points equal⟩
  | polygon =>
    rw [kind, RegionKind.fits, decide_eq_true_eq] at fits
    exact ⟨_, _, .polygon kind fits⟩

def furtherTexts (points : List Point) : Text :=
  points.flatMap fun point => ',' :: point.x.fixed 2 ++ ',' :: point.y.fixed 2

theorem tokensOf_furtherTexts {points : List Point} (tokens : ∀ argument ∈ points.flatMap pointTexts, IsToken argument)
    (text : Text) :
    Definition.tokensOf (text ++ furtherTexts points) = Definition.tokensOf text ++ points.flatMap pointTexts := by
  induction points generalizing text with
  | nil => simp [furtherTexts]
  | cons point rest ih =>
    rw [List.flatMap_cons, pointTexts, List.cons_append, List.cons_append, List.nil_append, List.forall_mem_cons,
      List.forall_mem_cons] at tokens
    have set : text ++ furtherTexts (point :: rest) =
        text ++ ',' :: (point.x.fixed 2 ++ ',' :: (point.y.fixed 2 ++ furtherTexts rest)) := by
      simp [furtherTexts]
    rw [set, Definition.tokensOf_append (by decide), Definition.tokensOf_append (by decide), ih tokens.2.2, tokens.1.tokensOf,
      tokens.2.1.tokensOf]
    simp [pointTexts]

theorem mem_furtherTexts {points : List Point} (tokens : ∀ argument ∈ points.flatMap pointTexts, IsToken argument)
    {c : Char} (member : c ∈ furtherTexts points) : isInnerMark c = true := by
  obtain ⟨point, listed, member⟩ := List.mem_flatMap.mp member
  have texts : ∀ text ∈ pointTexts point, IsToken text := fun text set =>
    tokens text (List.mem_flatMap_of_mem listed set)
  rw [pointTexts, List.forall_mem_cons, List.forall_mem_cons] at texts
  simp only [List.cons_append, List.mem_cons, List.mem_append] at member
  rcases member with rfl | member | rfl | member
  · decide
  · exact texts.1.mem_inner member
  · decide
  · exact texts.2.1.mem_inner member

theorem definition_ellipse {region : Region} {center size : Point} (kind : region.kind = .ellipse)
    (points : region.points = [center, size]) (unequal : size.x.same size.y = false) :
    region.definition = call "ellipse" (pointTexts center ++ pointTexts size ++ region.angleTexts) := by
  rw [definition.eq_def, kind, points, angleTexts]
  simp only [unequal, pointTexts]
  cases Floating.below 0 (toHorizontal region.rotation) <;> rfl

theorem WrittenAs.isWritten {region : Region} {keyword : ShapeKeyword} {arguments : List Text}
    (written : region.WrittenAs keyword arguments) (tokens : ∀ argument ∈ arguments, IsToken argument) :
    IsWritten region.definition keyword arguments := by
  cases written with
  | point kind points =>
    rw [definition.eq_def, kind, points]
    exact isWritten_call_of_tokens (by decide) tokens rfl
  | box kind points =>
    rw [definition.eq_def, kind, points]
    exact isWritten_call_of_tokens (by decide) tokens rfl
  | circle kind points equal =>
    rw [definition.eq_def, kind, points]
    simp only [equal, if_true]
    exact isWritten_call_of_tokens (by decide) tokens rfl
  | @ellipse center size kind points unequal =>
    rw [definition_ellipse kind points unequal]
    exact isWritten_call_of_tokens (by decide) tokens rfl
  | polygon kind enough =>
    obtain ⟨first, rest, points⟩ := List.exists_cons_of_length_pos (Nat.lt_of_lt_of_le (by decide) enough)
    have written : region.definition = call "polygon" [first.x.fixed 2, first.y.fixed 2 ++ furtherTexts rest] := by
      rw [definition.eq_def, kind, points]
      rfl
    rw [points, List.flatMap_cons] at tokens ⊢
    obtain ⟨head, further⟩ := List.forall_mem_append.mp tokens
    have x : IsToken (first.x.fixed 2) := head _ List.mem_cons_self
    have y : IsToken (first.y.fixed 2) := head _ (List.mem_cons_of_mem _ List.mem_cons_self)
    have whole : [first.x.fixed 2, first.y.fixed 2 ++ furtherTexts rest].flatMap Definition.tokensOf =
        pointTexts first ++ rest.flatMap pointTexts := by
      simp [tokensOf_furtherTexts further, x.tokensOf, y.tokensOf, pointTexts]
    rw [written, ← whole]
    refine isWritten_call (by decide) (by rwa [whole]) (fun part listed c member => ?_) rfl
    rcases List.mem_cons.mp listed with rfl | listed
    · exact x.mem_inner member
    · rw [List.mem_singleton.mp listed] at member
      rcases List.mem_append.mp member with member | member
      · exact y.mem_inner member
      · exact mem_furtherTexts further member

end Region

/-- A name that stays in one piece, on one line, between its braces. -/
structure IsWritableName (name : Text) : Prop where
  closed : '}' ∉ name
  undivided : ';' ∉ name
  single : ∀ c ∈ name, isLineBreak c = false

instance (name : Text) : Decidable (IsWritableName name) :=
  decidable_of_iff ('}' ∉ name ∧ ';' ∉ name ∧ name.all (!isLineBreak ·) = true)
    ⟨fun ⟨closed, undivided, single⟩ => ⟨closed, undivided, by simpa using single⟩,
      fun writable => ⟨writable.closed, writable.undivided, by simpa using writable.single⟩⟩

theorem ShapeKeyword.ofLine?_name (keyword : ShapeKeyword) {arguments : List Text}
    (head : arguments.head? ≠ some point.name) : ofLine? keyword.name arguments = some keyword := by
  have accepts (other : ShapeKeyword) : other.accepts keyword.name arguments = holds other.name keyword.name := by
    rw [ShapeKeyword.accepts, Bool.or_eq_left_iff_imp]
    intro marked
    simp only [Bool.and_eq_true, decide_eq_true_eq] at marked
    exact absurd (marked.1 ▸ marked.2) head
  simp only [ofLine?, accepts]
  cases keyword <;> decide

/-- Nothing is a declaration that has a character which no keyword has. -/
theorem Frame.isDeclaration_eq_false {c : Char} (known : ∀ entry ∈ keywords, c ∉ entry.1)
    (other : ∀ keyword ∈ otherKeywords, c ∉ keyword) {line : Text} (member : c ∈ keywordOf line) :
    isDeclaration line = false := by
  rw [isDeclaration, Bool.or_eq_false_iff, Option.isSome_eq_false_iff, Option.isNone_iff_eq_none, List.lookup_eq_none_iff]
  refine ⟨fun entry listed => ?_, ?_⟩
  · rw [bne_iff_ne]
    exact fun same => known entry listed (same ▸ member)
  · rw [Bool.eq_false_iff, Ne, List.contains_iff_mem]
    exact fun listed => other _ listed member

theorem LineKind.ofLine_cons {c : Char} {rest : Text} (comment : c ≠ '#') (excluded : c ≠ '-') :
    LineKind.ofLine (c :: rest) =
      if holds "global".toList (c :: rest) then .style else if Frame.isDeclaration (c :: rest) then .frame else .shape := by
  rw [LineKind.ofLine]
  · exact List.cons_ne_nil _ _
  · rintro _ ⟨⟩
    exact comment rfl
  · rintro _ ⟨⟩
    exact excluded rfl

theorem Properties.ofText_braced {name : Text} (closed : '}' ∉ name) :
    Properties.ofText (" text=\x7b".toList ++ name ++ ['}']) = [⟨"text".toList, name⟩] := by
  let rendering : Property.Rendering := ⟨⟨"text".toList, name⟩, .braces⟩
  have word : ∀ c ∈ "text".toList, isWord c = true := forall_mem_of_all (by decide)
  have proper : rendering.IsProper := ⟨List.cons_ne_nil _ _, word, closed⟩
  have split : " text=\x7b".toList ++ name ++ ['}'] = [' '] ++ (rendering.text ++ []) := by
    simp [rendering, Property.Rendering.text, Property.Enclosure.opening, Property.Enclosure.closing]
  rw [ofText, split, Property.listAfter_blanks (forall_mem_of_all (by decide)), Property.listAfter_rendering proper]
  rfl

namespace IsWritten

variable {definition : Text} {keyword : ShapeKeyword} {arguments : List Text}
  (written : IsWritten definition keyword arguments)
include written

theorem mem_marks {c : Char} (member : c ∈ definition) : isDefinitionMark c = true := by
  obtain ⟨inner, rfl, _, marks⟩ := written.form
  simp only [List.mem_append, List.mem_cons, List.not_mem_nil, or_false] at member
  rw [isDefinitionMark, Bool.or_eq_true, List.contains_iff_mem]
  rcases member with member | rfl | member | rfl
  · exact .inr (List.mem_append_right _ (List.mem_flatMap_of_mem written.known member))
  · decide
  · exact .inl (marks c member)
  · decide

theorem notMem {c : Char} (other : isDefinitionMark c = false) : c ∉ definition :=
  fun member => by simp [written.mem_marks member] at other

theorem parenthesis_mem : '(' ∈ definition := by
  obtain ⟨inner, rfl, _⟩ := written.form
  simp

theorem tokensOf {blank : Text} (empty : Definition.tokensOf blank = []) :
    Definition.tokensOf (definition ++ blank) = keyword.name :: arguments := by
  obtain ⟨inner, rfl, tokens, _⟩ := written.form
  have word : ∀ keyword ∈ writtenKeywords, Definition.tokensOf keyword.name = [keyword.name] := by decide
  rw [List.append_assoc, List.cons_append, List.append_assoc, List.singleton_append,
    Definition.tokensOf_append (by decide), Definition.tokensOf_append (by decide), word keyword written.known, tokens,
    empty]
  simp

end IsWritten

/-- What stands after a definition on its line: nothing, or properties after their mark, and no blank at the end. -/
structure IsTail (tail : Text) : Prop where
  form : tail = [] ∨ ∃ properties, tail = ' ' :: '#' :: properties
  ends : tail.rdropWhile isBlank = tail

/-- A name as it stands after a definition. -/
def nameTail (name : Text) : Text := if name = [] then [] else ' ' :: '#' :: (" text=\x7b".toList ++ name ++ ['}'])

theorem labelled_eq_append (definition name : Text) : Writer.labelled definition name = definition ++ nameTail name := by
  rw [Writer.labelled, nameTail]
  cases name with
  | nil => simp
  | cons c rest => simp

theorem labelled_eq {definition name : Text} (present : name ≠ []) :
    Writer.labelled definition name = definition ++ ' ' :: '#' :: (" text=\x7b".toList ++ name ++ ['}']) := by
  rw [labelled_eq_append, nameTail, if_neg present]

theorem labelled_nil (definition : Text) : Writer.labelled definition [] = definition := if_pos rfl

theorem isTail_nameTail (name : Text) : IsTail (nameTail name) := by
  rw [nameTail]
  split
  · exact ⟨.inl rfl, rfl⟩
  · have brace : ¬isBlank '}' = true := by decide
    exact ⟨.inr ⟨_, rfl⟩, List.rdropWhile_concat_neg isBlank (' ' :: '#' :: (" text=\x7b".toList ++ name)) '}' brace⟩

theorem holds_nameTail (name : Text) : holds "global".toList (nameTail name) = holds "global".toList name := by
  by_cases unnamed : name = []
  · rw [unnamed]
    rfl
  · have split : nameTail name = " # text=".toList ++ '{' :: (name ++ '}' :: []) := by simp [nameTail, unnamed]
    rw [split, holds_append_of_notMem (by decide) (by decide), holds_append_of_notMem (by decide) (by decide)]
    simp [holds]

namespace IsWritten

variable {definition name tail : Text} {keyword : ShapeKeyword} {arguments : List Text}
  (written : IsWritten definition keyword arguments)
include written

theorem ends : ∃ c middle, definition = c :: (middle ++ [')']) ∧ isBlank c = false ∧ c ≠ '#' ∧ c ≠ '-' := by
  obtain ⟨inner, rfl, _, _⟩ := written.form
  have each : ∀ keyword ∈ writtenKeywords, keyword.name ≠ [] ∧
      (keyword.name.all fun c => decide (isBlank c = false ∧ c ≠ '#' ∧ c ≠ '-')) = true := by decide
  obtain ⟨present, plain⟩ := each keyword written.known
  obtain ⟨c, rest, name⟩ := List.exists_cons_of_ne_nil present
  exact ⟨c, rest ++ '(' :: inner, by simp [name], forall_mem_of_all plain c (name ▸ List.mem_cons_self)⟩

theorem isLineBreak_labelled (single : ∀ c ∈ name, isLineBreak c = false) :
    ∀ c ∈ Writer.labelled definition name, isLineBreak c = false := by
  have defined c (member : c ∈ definition) := isLineBreak_of_isDefinitionMark (written.mem_marks member)
  by_cases unnamed : name = []
  · rwa [unnamed, labelled_nil]
  · rw [labelled_eq unnamed]
    simp only [List.forall_mem_append, List.forall_mem_cons]
    exact ⟨defined, by decide, by decide, ⟨forall_mem_of_all (by decide), single⟩, by decide, nofun⟩

theorem undivided_labelled (undivided : ';' ∉ name) : ';' ∉ Writer.labelled definition name := by
  have defined := written.notMem (show isDefinitionMark ';' = false by decide)
  by_cases unnamed : name = []
  · rwa [unnamed, labelled_nil]
  · simp [labelled_eq unnamed, defined, undivided]

/-- The word that announces style defaults has a letter that is in keywords only, and in none of them stands the word. -/
theorem holds_definition : holds "global".toList definition = false := by
  obtain ⟨inner, rfl, _, marks⟩ := written.form
  have names : ∀ keyword ∈ writtenKeywords, holds "global".toList keyword.name = false := by decide
  have missing : 'g' ∉ inner ++ [')'] := by
    intro member
    rcases List.mem_append.mp member with member | member
    · exact absurd (marks _ member) (by decide)
    · exact absurd member (by decide)
  rw [holds_append_of_notMem (by decide) (by decide), names keyword written.known,
    @holds_eq_false_of_notMem _ _ 'g' (by decide) missing]
  rfl

theorem trim_append_rdropWhile (text : Text) : (definition ++ text).trim = definition ++ text.rdropWhile isBlank := by
  obtain ⟨c, middle, rfl, front, _, _⟩ := written.ends
  have split (rest : Text) : c :: (middle ++ [')']) ++ rest = c :: (middle ++ ')' :: rest) := by simp
  rw [split, split]
  exact trimWhere_append front (by decide) middle text

theorem trim_append (isTail : IsTail tail) : (definition ++ tail).trim = definition ++ tail := by
  rw [written.trim_append_rdropWhile, isTail.ends]

theorem holds_append (isTail : IsTail tail) :
    holds "global".toList (definition ++ tail) = holds "global".toList tail := by
  obtain rfl | ⟨properties, rfl⟩ := isTail.form
  · rw [List.append_nil, written.holds_definition]
    rfl
  · have blank : holds "global".toList (' ' :: '#' :: properties) = holds "global".toList ('#' :: properties) :=
      holds_append_of_notMem (by decide) (by decide) [] _
    rw [holds_append_of_notMem (by decide) (by decide), written.holds_definition, Bool.false_or, blank]

theorem parenthesis_mem_keywordOf (isTail : IsTail tail) : '(' ∈ Frame.keywordOf (definition ++ tail) := by
  rw [Frame.keywordOf, written.trim_append isTail]
  exact mem_lower (by decide) (by decide) (by decide) (List.mem_append_left _ written.parenthesis_mem)

/-- Only what follows a definition can make its line one of style defaults. -/
theorem ofLine_append (isTail : IsTail tail) : LineKind.ofLine (definition ++ tail) =
    if holds "global".toList tail then .style else .shape := by
  have undeclared := Frame.isDeclaration_eq_false (by decide) (by decide) (written.parenthesis_mem_keywordOf isTail)
  have global := written.holds_append isTail
  obtain ⟨c, middle, rfl, _, comment, excluded⟩ := written.ends
  rw [List.cons_append] at undeclared global ⊢
  rw [LineKind.ofLine_cons comment excluded, undeclared, global]
  rfl

theorem cutAt_append (properties : Text) :
    cutAt '#' (definition ++ ' ' :: '#' :: properties) = (definition ++ [' '], properties) := by
  have unmarked := written.notMem (show isDefinitionMark '#' = false by decide)
  rw [← Text.cutAt_append (show '#' ∉ definition ++ [' '] by simpa using unmarked)]
  simp

/-- The tokens of a line do not depend on what follows its definition. -/
theorem tokens_append (isTail : IsTail tail) : (Definition.ofText (definition ++ tail)).tokens = keyword.name :: arguments := by
  obtain rfl | ⟨properties, rfl⟩ := isTail.form
  · have unmarked := written.notMem (show isDefinitionMark '#' = false by decide)
    have tokens := written.tokensOf Definition.tokensOf_nil
    rw [List.append_nil] at tokens
    rwa [List.append_nil, Definition.ofText, cutAt_of_notMem unmarked]
  · simp only [Definition.ofText, written.cutAt_append]
    exact written.tokensOf (by decide)

/-- The name of a line, as it is read. -/
theorem label_labelled (closed : '}' ∉ name) :
    ((Definition.ofText (Writer.labelled definition name)).properties.get? "text".toList).getD [] = name := by
  by_cases unnamed : name = []
  · have unmarked := written.notMem (show isDefinitionMark '#' = false by decide)
    rw [unnamed, labelled_nil, Definition.ofText, cutAt_of_notMem unmarked]
    rfl
  · rw [labelled_eq unnamed]
    simp only [Definition.ofText, written.cutAt_append, Properties.ofText_braced closed]
    simp [Properties.get?]

end IsWritten
end SkyRegion
