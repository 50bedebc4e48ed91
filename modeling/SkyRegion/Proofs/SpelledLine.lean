import SkyRegion.Proofs.LineStages
import SkyRegion.Proofs.Separators
import SkyRegion.Proofs.WrittenRegion

/-! Lines that are spelled out of tokens, with a blank between them. Such a line has the form of a shape; it is taken for
what its tokens say, and gives no label. -/

namespace SkyRegion

open Image Text

/-- A text that stands in a line as one token, and is not in the way of the line being that of a shape. -/
structure IsArgument (text : Text) : Prop where
  present : text ≠ []
  whole : ∀ c ∈ text, Definition.isSeparator c = false
  visible : '#' ∉ text
  unstyled : holds "global".toList text = false

instance (text : Text) : Decidable (IsArgument text) :=
  decidable_of_iff (text ≠ [] ∧ text.all (!Definition.isSeparator ·) = true ∧ '#' ∉ text ∧
      holds "global".toList text = false)
    ⟨fun ⟨present, whole, visible, unstyled⟩ => ⟨present, by simpa using whole, visible, unstyled⟩,
      fun plain => ⟨plain.present, by simpa using plain.whole, plain.visible, plain.unstyled⟩⟩

theorem ShapeKeyword.name_isArgument (keyword : ShapeKeyword) : IsArgument keyword.name := by
  cases keyword <;> decide

namespace IsArgument

variable {text : Text} (plain : IsArgument text)
include plain

theorem isBlank_eq_false {c : Char} (member : c ∈ text) : isBlank c = false := by
  have whole := plain.whole c member
  simp only [Definition.isSeparator, Bool.or_eq_false_iff] at whole
  exact whole.1.1.1

end IsArgument

def lineOf (tokens : List Text) : Text := [' '].intercalate tokens

theorem lineOf_cons_cons (token next : Text) (rest : List Text) :
    lineOf (token :: next :: rest) = token ++ ' ' :: lineOf (next :: rest) := intercalate_cons_cons ..

namespace Import

theorem withoutSign_name (keyword : ShapeKeyword) : withoutSign keyword.name = keyword.name := by
  cases keyword <;> rfl

section tokens

variable {tokens : List Text} (plain : ∀ token ∈ tokens, IsArgument token)
include plain

theorem ofText_lineOf : Definition.ofText (lineOf tokens) = ⟨tokens, []⟩ :=
  Definition.ofText_intercalate (by decide) fun token listed =>
    ⟨(plain token listed).present, (plain token listed).whole, (plain token listed).visible⟩

theorem labelOf_lineOf : labelOf (lineOf tokens) = [] := by
  rw [labelOf, ofText_lineOf plain]
  rfl

theorem holds_lineOf : holds "global".toList (lineOf tokens) = false :=
  holds_intercalate (by decide) (by decide) fun token listed => (plain token listed).unstyled

end tokens

section arguments

variable {first : Text} {arguments : List Text} (plain : ∀ token ∈ first :: arguments, IsArgument token)
include plain

theorem exists_lineOf_cons : ∃ c rest, lineOf (first :: arguments) = c :: rest ∧ first.head? = some c ∧ c ∈ first := by
  obtain ⟨c, rest, rfl⟩ := List.exists_cons_of_ne_nil (plain first List.mem_cons_self).present
  cases arguments with
  | nil => exact ⟨c, rest, by simp [lineOf], rfl, List.mem_cons_self⟩
  | cons next further => exact ⟨c, _, lineOf_cons_cons _ next further, rfl, List.mem_cons_self⟩

/-- A line of several tokens has a blank inside, and no keyword of a frame has one. -/
theorem isDeclaration_lineOf (several : arguments ≠ []) : Frame.isDeclaration (lineOf (first :: arguments)) = false := by
  refine @Frame.isDeclaration_eq_false ' ' (by decide) (by decide) _ ?_
  rw [List.forall_mem_cons] at plain
  obtain ⟨c, middle, rfl⟩ := List.exists_cons_of_ne_nil plain.1.present
  obtain ⟨next, further, rfl⟩ := List.exists_cons_of_ne_nil several
  obtain ⟨d, after, starts, _, inside⟩ := exists_lineOf_cons plain.2
  have front := plain.1.isBlank_eq_false List.mem_cons_self
  have back := (plain.2 next List.mem_cons_self).isBlank_eq_false inside
  have split : (c :: middle) ++ ' ' :: d :: after = c :: ((middle ++ [' ']) ++ d :: after) := by simp
  rw [Frame.keywordOf, lineOf_cons_cons, starts, split, trim, trimWhere_append front back]
  exact mem_lower (by decide) (by decide) (by decide) (by simp)

variable (included : first.head? ≠ some '-')
include included

theorem ofLine_lineOf (several : arguments ≠ []) : LineKind.ofLine (lineOf (first :: arguments)) = .shape := by
  have undeclared := isDeclaration_lineOf plain several
  have unstyled := holds_lineOf plain
  obtain ⟨c, rest, same, head, inside⟩ := exists_lineOf_cons plain
  have comment : c ≠ '#' := fun mark => (plain first List.mem_cons_self).visible (mark ▸ inside)
  have excluded : c ≠ '-' := fun mark => included (head.trans (congrArg some mark))
  rw [same] at undeclared unstyled ⊢
  rw [LineKind.ofLine_cons comment excluded, unstyled, undeclared]
  rfl

theorem isTaken_lineOf (several : arguments ≠ []) {keyword : ShapeKeyword}
    (takes : ShapeKeyword.ofLine? (withoutSign first) arguments = some keyword) :
    IsTaken (lineOf (first :: arguments)) keyword (withoutSign first) arguments where
  kind := ofLine_lineOf plain included several
  tokens := ⟨first, congrArg Definition.tokens (ofText_lineOf plain), rfl⟩
  takes := takes

end arguments

section keyword

variable (keyword : ShapeKeyword) {arguments : List Text} (plain : ∀ token ∈ arguments, IsArgument token)
include plain

theorem isArgument_keyword : ∀ token ∈ keyword.name :: arguments, IsArgument token :=
  List.forall_mem_cons.mpr ⟨keyword.name_isArgument, plain⟩

theorem labelOf_keyword : labelOf (lineOf (keyword.name :: arguments)) = [] :=
  labelOf_lineOf (isArgument_keyword keyword plain)

/-- The line of a keyword is taken by it, unless it says that it is a point. -/
theorem isTaken_keyword (several : arguments ≠ []) (head : arguments.head? ≠ some ShapeKeyword.point.name) :
    IsTaken (lineOf (keyword.name :: arguments)) keyword keyword.name arguments := by
  have included : keyword.name.head? ≠ some '-' := by cases keyword <;> decide
  have taken := @isTaken_lineOf _ _ (isArgument_keyword keyword plain) included several keyword
  rw [withoutSign_name] at taken
  exact taken (keyword.ofLine?_name head)

end keyword

end Import
end SkyRegion
