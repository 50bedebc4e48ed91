import SkyRegion.Proofs.TextParts

/-! Tokens and what separates them. Whatever separators stand around the tokens of a definition, the same tokens are read
from it, and nothing that is written before the property mark is lost but the separators. -/

namespace SkyRegion

namespace Text

section fields

variable {isMark : Char → Bool}

theorem flatten_consFirst (c : Char) (pieces : List Text) : (consFirst c pieces).flatten = c :: pieces.flatten := by
  cases pieces <;> rfl

theorem flatten_fields (text : Text) : (fields isMark text).flatten = text.filter (!isMark ·) := by
  induction text with
  | nil => rfl
  | cons c rest ih =>
    rw [fields]
    cases divides : isMark c with
    | true => simp [divides, ih]
    | false => simp [divides, flatten_consFirst, ih]

theorem length_consFirst (c : Char) {pieces : List Text} (present : pieces ≠ []) :
    (consFirst c pieces).length = pieces.length := by
  obtain ⟨piece, pieces, rfl⟩ := List.exists_cons_of_ne_nil present
  rfl

theorem length_fields (text : Text) : (fields isMark text).length = text.countP isMark + 1 := by
  induction text with
  | nil => rfl
  | cons c rest ih =>
    rw [fields]
    cases divides : isMark c with
    | true => rw [if_pos rfl, List.length_cons, ih, List.countP_cons_of_pos divides]
    | false =>
      rw [if_neg Bool.false_ne_true, length_consFirst c (fields_ne_nil rest), ih,
        List.countP_cons_of_neg (Bool.eq_false_iff.mp divides)]

theorem mem_of_mem_fields {text piece : Text} {c : Char} (listed : piece ∈ fields isMark text) (member : c ∈ piece) :
    c ∈ text ∧ isMark c = false := by
  have kept := List.mem_flatten_of_mem listed member
  rw [flatten_fields, List.mem_filter] at kept
  exact ⟨kept.1, by simpa using kept.2⟩

end fields

theorem notMem_cutAt (mark : Char) (text : Text) : mark ∉ (cutAt mark text).1 := by
  induction text with
  | nil => exact List.not_mem_nil
  | cons c rest ih =>
    by_cases marks : c = mark
    · simp [cutAt, marks]
    · simp [cutAt, marks, ih, Ne.symm marks]

end Text

namespace Definition

open Text

/-- What may stand as one token before the property mark. -/
structure IsWhole (token : Text) : Prop where
  present : token ≠ []
  plain : ∀ c ∈ token, isSeparator c = false
  visible : '#' ∉ token

instance (token : Text) : Decidable (IsWhole token) :=
  decidable_of_iff (token ≠ [] ∧ token.all (!isSeparator ·) = true ∧ '#' ∉ token)
    ⟨fun ⟨present, plain, visible⟩ => ⟨present, by simpa using plain, visible⟩,
      fun whole => ⟨whole.present, by simpa using whole.plain, whole.visible⟩⟩

theorem IsWhole.tokensOf {token : Text} (whole : IsWhole token) : tokensOf token = [token] :=
  tokensOf_token whole.present whole.plain

theorem ne_of_isSeparator {c : Char} (separates : isSeparator c = true) : c ≠ '#' := by
  rintro rfl
  exact absurd separates (by decide)

theorem flatten_tokensOf (text : Text) : (tokensOf text).flatten = text.filter (!isSeparator ·) := by
  rw [tokensOf, List.flatten_filter_not_isEmpty, flatten_fields]

theorem isWhole_of_mem_tokens {text token : Text} (listed : token ∈ (ofText text).tokens) : IsWhole token := by
  obtain ⟨piece, present⟩ := List.mem_filter.mp (show token ∈ tokensOf (cutAt '#' text).1 from listed)
  exact ⟨by simpa using present, fun c member => (mem_of_mem_fields piece member).2,
    fun mark => notMem_cutAt '#' text (mem_of_mem_fields piece mark).1⟩

/-- Tokens are read back from where they stand with one separator between each two. -/
theorem ofText_intercalate {mark : Char} (separates : isSeparator mark = true) {tokens : List Text}
    (whole : ∀ token ∈ tokens, IsWhole token) : ofText ([mark].intercalate tokens) = ⟨tokens, []⟩ := by
  have visible : '#' ∉ [mark].intercalate tokens := by
    intro member
    obtain same | ⟨token, listed, member⟩ := mem_intercalate member
    · exact ne_of_isSeparator separates same.symm
    · exact (whole token listed).visible member
  have each : tokensOf ([mark].intercalate tokens) = tokens :=
    tokensOf_intercalate separates fun token listed => (whole token listed).tokensOf
  rw [ofText, cutAt_of_notMem visible]
  exact congrArg (Definition.mk · []) each

/-- A way to write out a definition: separators, then each token with the separators after it, and then perhaps
properties. -/
structure Layout where
  before : Text
  parts : List (Text × Text)
  properties : Option Text

namespace Layout

def tokens (layout : Layout) : List Text := layout.parts.map Prod.fst

def shape (layout : Layout) : Text := layout.before ++ layout.parts.flatMap fun (token, gap) => token ++ gap

def text (layout : Layout) : Text := layout.shape ++ layout.properties.elim [] ('#' :: ·)

/-- Tokens are whole, and there is a separator between each two of them. -/
structure IsProper (layout : Layout) : Prop where
  before : ∀ c ∈ layout.before, isSeparator c = true
  whole : ∀ part ∈ layout.parts, IsWhole part.1
  gaps : ∀ part ∈ layout.parts, ∀ c ∈ part.2, isSeparator c = true
  apart : ∀ part ∈ layout.parts.dropLast, part.2 ≠ []

instance (layout : Layout) : Decidable layout.IsProper :=
  decidable_of_iff (layout.before.all isSeparator = true ∧ (∀ part ∈ layout.parts, IsWhole part.1) ∧
      (∀ part ∈ layout.parts, part.2.all isSeparator = true) ∧ ∀ part ∈ layout.parts.dropLast, part.2 ≠ [])
    ⟨fun ⟨before, whole, gaps, apart⟩ =>
        ⟨List.all_eq_true.mp before, whole, fun part listed => List.all_eq_true.mp (gaps part listed), apart⟩,
      fun proper => ⟨List.all_eq_true.mpr proper.before, proper.whole,
        fun part listed => List.all_eq_true.mpr (proper.gaps part listed), proper.apart⟩⟩

end Layout

theorem tokensOf_gap_append {gap : Text} (separators : ∀ c ∈ gap, isSeparator c = true) (text : Text) :
    tokensOf (gap ++ text) = tokensOf text := by
  induction gap with
  | nil => rfl
  | cons c gap ih =>
    rw [List.forall_mem_cons] at separators
    rw [List.cons_append, tokensOf_cons separators.1, ih separators.2]

theorem tokensOf_parts {parts : List (Text × Text)} (whole : ∀ part ∈ parts, IsWhole part.1)
    (gaps : ∀ part ∈ parts, ∀ c ∈ part.2, isSeparator c = true) (apart : ∀ part ∈ parts.dropLast, part.2 ≠ []) :
    tokensOf (parts.flatMap fun (token, gap) => token ++ gap) = parts.map Prod.fst := by
  induction parts with
  | nil => rfl
  | cons part parts ih =>
    obtain ⟨token, gap⟩ := part
    rw [List.forall_mem_cons] at whole gaps
    have one := whole.1.tokensOf
    rw [List.flatMap_cons, List.map_cons, List.append_assoc]
    cases gap with
    | cons mark gap =>
      have separators := List.forall_mem_cons.mp gaps.1
      have later : ∀ part ∈ parts.dropLast, part.2 ≠ [] := by
        intro part listed
        cases parts with
        | nil => cases listed
        | cons next parts => exact apart part (List.mem_cons_of_mem _ listed)
      rw [List.cons_append, tokensOf_append separators.1, tokensOf_gap_append separators.2, ih whole.2 gaps.2 later, one]
      rfl
    | nil =>
      -- only the last token may have nothing after it
      cases parts with
      | nil => simpa using one
      | cons next parts => exact absurd rfl (apart _ List.mem_cons_self)

theorem Layout.IsProper.notMem_shape {layout : Layout} (proper : layout.IsProper) : '#' ∉ layout.shape := by
  intro mark
  rcases List.mem_append.mp mark with mark | mark
  · exact ne_of_isSeparator (proper.before _ mark) rfl
  · obtain ⟨part, listed, mark⟩ := List.mem_flatMap.mp mark
    rcases List.mem_append.mp mark with mark | mark
    · exact (proper.whole part listed).visible mark
    · exact ne_of_isSeparator (proper.gaps part listed _ mark) rfl

theorem ofText_layout {layout : Layout} (proper : layout.IsProper) :
    ofText layout.text = ⟨layout.tokens, .ofText (layout.properties.getD [])⟩ := by
  have tokens : tokensOf layout.shape = layout.tokens :=
    (tokensOf_gap_append proper.before _).trans (tokensOf_parts proper.whole proper.gaps proper.apart)
  have cut : cutAt '#' layout.text = (layout.shape, layout.properties.getD []) := by
    rw [Layout.text]
    cases layout.properties with
    | none => rw [Option.elim_none, List.append_nil, cutAt_of_notMem proper.notMem_shape, Option.getD_none]
    | some properties => exact cutAt_append proper.notMem_shape properties
  rw [ofText, cut]
  exact congrArg (Definition.mk · _) tokens

/-- The tokens do not depend on how they are separated, and nothing but separators is lost: what is read is whole, holds all
other characters in their order, and is read again when it is written with commas. -/
theorem ofText_separated :
    (∀ layout : Layout, layout.IsProper →
      ofText layout.text = ⟨layout.tokens, .ofText (layout.properties.getD [])⟩) ∧
    ∀ text : Text, (∀ token ∈ (ofText text).tokens, IsWhole token) ∧
      (ofText text).tokens.flatten = (cutAt '#' text).1.filter (!isSeparator ·) ∧
      ofText ([','].intercalate (ofText text).tokens) = ⟨(ofText text).tokens, []⟩ := by
  refine ⟨fun layout proper => ofText_layout proper, fun text => ?_⟩
  have whole : ∀ token ∈ (ofText text).tokens, IsWhole token := fun token listed => isWhole_of_mem_tokens listed
  exact ⟨whole, flatten_tokensOf _, ofText_intercalate (by decide) whole⟩

theorem ofText_separated_mixed :
    let layout : Layout := ⟨"\t (".toList,
      [("circle".toList, "((".toList), ("1:2:3".toList, " ,\u3000".toList), ("-4".toList, ",,".toList),
        ("5'".toList, ") ".toList)],
      some " text={a # b}".toList⟩
    layout.IsProper ∧ ofText layout.text =
      ⟨["circle".toList, "1:2:3".toList, "-4".toList, "5'".toList], [⟨"text".toList, "a # b".toList⟩]⟩ := by
  intro layout
  have proper : layout.IsProper := by decide
  exact ⟨proper, (ofText_separated.1 layout proper).trans (by decide)⟩

end Definition
end SkyRegion
