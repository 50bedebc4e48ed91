import SkyRegion.Definition.Property

/-! Properties written out and read again. A value may be enclosed in several ways; as long as it does not hold the mark that
closes it, it is read whole, and the search for the next property goes on behind it. Of several values of one key the last
counts. -/

namespace SkyRegion

namespace Text

theorem exists_range_of_inRanges {ranges : List (Nat × Nat)} {code : Nat} (inside : inRanges ranges code = true) :
    ∃ range ∈ ranges, range.1 ≤ code ∧ code ≤ range.2 := by
  induction ranges with
  | nil => cases inside
  | cons range rest ih =>
    rw [inRanges] at inside
    by_cases reached : code ≤ range.2
    · rw [if_pos reached, decide_eq_true_eq] at inside
      exact ⟨range, List.mem_cons_self, inside, reached⟩
    · rw [if_neg reached] at inside
      obtain ⟨later, listed, within⟩ := ih inside
      exact ⟨later, List.mem_cons_of_mem _ listed, within⟩

theorem isWord_of_isBlank {c : Char} (blank : isBlank c = true) : isWord c = false := by
  have apart : ∀ blanks ∈ blankRanges, ∀ words ∈ wordRanges, blanks.2 < words.1 ∨ words.2 < blanks.1 := by decide +kernel
  rw [Bool.eq_false_iff]
  intro word
  obtain ⟨blanks, listed, within⟩ := exists_range_of_inRanges blank
  obtain ⟨words, listed', within'⟩ := exists_range_of_inRanges word
  have := apart blanks listed words listed'
  omega

end Text

open Text

namespace Property

theorem enclosed?_append {closing : Char} {inside : Text} (closed : closing ∉ inside) (after : Text) :
    enclosed? closing (inside ++ closing :: after) = some (inside, after) := by
  induction inside with
  | nil => simp [enclosed?]
  | cons c rest ih =>
    obtain ⟨differs, closed⟩ := List.ne_and_not_mem_of_not_mem_cons closed
    simp [enclosed?, differs.symm, ih closed]

/-- The marks that a value may be enclosed in. -/
inductive Enclosure where
  | braces
  | doubleQuotes
  | singleQuotes
  deriving DecidableEq

namespace Enclosure

def opening : Enclosure → Char
  | .braces => '{'
  | .doubleQuotes => '"'
  | .singleQuotes => '\''

def closing : Enclosure → Char
  | .braces => '}'
  | .doubleQuotes => '"'
  | .singleQuotes => '\''

variable {enclosure : Enclosure}

theorem value?_append {value : Text} (closed : enclosure.closing ∉ value) (after : Text) :
    value? (enclosure.opening :: (value ++ enclosure.closing :: after)) = some (value, after) := by
  have inside := enclosed?_append closed after
  cases enclosure <;> exact congrArg (· <|> _) inside

theorem isBlank_opening : isBlank enclosure.opening = false := by
  cases enclosure <;> rfl

end Enclosure

/-- A property as it is written out. -/
structure Rendering where
  property : Property
  enclosure : Enclosure
  deriving DecidableEq

namespace Rendering

def text (rendering : Rendering) : Text :=
  rendering.property.key ++ '=' :: rendering.enclosure.opening ::
    (rendering.property.value ++ [rendering.enclosure.closing])

/-- The key is a run of word characters, and the value does not hold the mark that closes it. -/
structure IsProper (rendering : Rendering) : Prop where
  present : rendering.property.key ≠ []
  word : ∀ c ∈ rendering.property.key, isWord c = true
  closed : rendering.enclosure.closing ∉ rendering.property.value

instance (rendering : Rendering) : Decidable rendering.IsProper :=
  decidable_of_iff (rendering.property.key ≠ [] ∧ rendering.property.key.all isWord = true ∧
      rendering.enclosure.closing ∉ rendering.property.value)
    ⟨fun ⟨present, word, closed⟩ => ⟨present, List.all_eq_true.mp word, closed⟩,
      fun proper => ⟨proper.present, List.all_eq_true.mpr proper.word, proper.closed⟩⟩

end Rendering

/-- What belongs to a property that was found is passed over. -/
theorem listAfter_append (passed after : Text) : listAfter passed.length (passed ++ after) = listAfter 0 after := by
  induction passed with
  | nil => rfl
  | cons c passed ih => exact ih

section rendering

variable {rendering : Rendering} (proper : rendering.IsProper)
include proper

theorem first?_rendering (after : Text) : first? (rendering.text ++ after) = some (rendering.property, after) := by
  have marks : isWord '=' = false ∧ isBlank '=' = false := by decide
  have split : rendering.text ++ after = rendering.property.key ++ '=' :: rendering.enclosure.opening ::
      (rendering.property.value ++ rendering.enclosure.closing :: after) := by
    simp [Rendering.text]
  rw [first?, split, List.takeWhile_append_of_pos proper.word, List.dropWhile_append_of_pos proper.word]
  simp [marks, proper.present, rendering.enclosure.isBlank_opening, Enclosure.value?_append proper.closed]

/-- The search goes on behind the rendering, so that nothing inside its value is found. -/
theorem listAfter_rendering (after : Text) :
    listAfter 0 (rendering.text ++ after) = rendering.property :: listAfter 0 after := by
  have found := first?_rendering proper after
  obtain ⟨c, rest, starts⟩ := List.exists_cons_of_ne_nil (show rendering.text ≠ [] by simp [Rendering.text])
  rw [starts, List.cons_append] at found ⊢
  rw [listAfter, found]
  have passed : (rest ++ after).length - after.length = rest.length := by simp
  simp only [passed, listAfter_append]

end rendering

theorem listAfter_blanks {gap : Text} (blank : ∀ c ∈ gap, isBlank c = true) (text : Text) :
    listAfter 0 (gap ++ text) = listAfter 0 text := by
  induction gap with
  | nil => rfl
  | cons c gap ih =>
    rw [List.forall_mem_cons] at blank
    have unkeyed : first? (c :: (gap ++ text)) = none := by simp [first?, isWord_of_isBlank blank.1]
    rw [List.cons_append, listAfter, unkeyed]
    exact ih blank.2

theorem listAfter_renderings {parts : List (Rendering × Text)} (proper : ∀ part ∈ parts, part.1.IsProper)
    (blank : ∀ part ∈ parts, ∀ c ∈ part.2, isBlank c = true) :
    listAfter 0 (parts.flatMap fun (rendering, gap) => rendering.text ++ gap) = parts.map (·.1.property) := by
  induction parts with
  | nil => rfl
  | cons part parts ih =>
    rw [List.forall_mem_cons] at proper blank
    rw [List.flatMap_cons, List.append_assoc, listAfter_rendering proper.1, listAfter_blanks blank.1, ih proper.2 blank.2,
      List.map_cons]

end Property

namespace Properties

variable {properties : Properties} {property : Property}

theorem replaced_key (earlier property : Property) :
    (if earlier.key = property.key then property else earlier).key = earlier.key := by
  split
  · exact Eq.symm ‹_›
  · rfl

theorem find?_eq_none_iff_any {key : Text} :
    properties.find? (·.key = key) = none ↔ properties.any (·.key = key) = false := by
  simp

theorem get?_put (properties : Properties) (property : Property) (key : Text) :
    (properties.put property).get? key = if property.key = key then some property.value else properties.get? key := by
  rw [put]
  split
  next known =>
    rw [get?, get?, List.find?_map]
    simp only [Function.comp_def, replaced_key]
    cases found : properties.find? (·.key = key) with
    | none =>
      have other : property.key ≠ key := by
        rintro rfl
        exact Bool.noConfusion (known.symm.trans (find?_eq_none_iff_any.mp found))
      rw [if_neg other]
      rfl
    | some earlier =>
      have named : earlier.key = key := by simpa using List.find?_some found
      by_cases same : property.key = key
      · simp [named, same]
      · simp [named, same, Ne.symm same]
  next unknown =>
    rw [get?, get?, List.find?_append]
    by_cases same : property.key = key
    · rw [same, Bool.not_eq_true, ← find?_eq_none_iff_any] at unknown
      simp [unknown, same]
    · simp [same]

/-- The last of the values that are given for a key. -/
def lastValue? (given : List Property) (key : Text) : Option Text := (given.reverse.find? (·.key = key)).map (·.value)

theorem get?_foldl_put (properties : Properties) (given : List Property) (key : Text) :
    get? (given.foldl put properties) key = (lastValue? given key).or (properties.get? key) := by
  induction given generalizing properties with
  | nil => rfl
  | cons property given ih =>
    rw [List.foldl_cons, ih, get?_put, lastValue?, lastValue?, List.reverse_cons, List.find?_append]
    cases given.reverse.find? (·.key = key) with
    | some later => rfl
    | none => by_cases same : property.key = key <;> simp [same]

theorem get?_ofText (text : Text) (key : Text) : (ofText text).get? key = lastValue? (Property.listAfter 0 text) key := by
  rw [ofText, get?_foldl_put]
  exact Option.or_none

theorem nodup_put (distinct : (properties.map (·.key)).Nodup) : ((properties.put property).map (·.key)).Nodup := by
  rw [put]
  split
  next known =>
    rw [List.map_map]
    simpa only [Function.comp_def, replaced_key] using distinct
  next unknown =>
    rw [List.map_append, List.map_singleton, List.nodup_append]
    refine ⟨distinct, by simp, ?_⟩
    intro key member other singleton same
    obtain ⟨earlier, listed, rfl⟩ := List.mem_map.mp member
    exact unknown (List.any_eq_true.mpr ⟨earlier, listed, by simpa using same.trans (List.mem_singleton.mp singleton)⟩)

theorem nodup_foldl_put (given : List Property) (distinct : (properties.map (·.key)).Nodup) :
    ((given.foldl put properties).map (·.key)).Nodup := by
  induction given generalizing properties with
  | nil => exact distinct
  | cons property given ih => exact ih (nodup_put distinct)

/-- What is written out, with blanks around it, is all that is found: text inside a value is no property of its own, and each
key has the last value that is written for it. -/
theorem ofText_renderings {before : Text} {parts : List (Property.Rendering × Text)}
    (blank : ∀ c ∈ before, isBlank c = true) (proper : ∀ part ∈ parts, part.1.IsProper)
    (gaps : ∀ part ∈ parts, ∀ c ∈ part.2, isBlank c = true) :
    let text := before ++ parts.flatMap fun (rendering, gap) => rendering.text ++ gap
    let given := parts.map (·.1.property)
    Property.listAfter 0 text = given ∧ (∀ key, (ofText text).get? key = lastValue? given key) ∧
      ((ofText text).map (·.key)).Nodup := by
  intro text given
  have found : Property.listAfter 0 text = given :=
    (Property.listAfter_blanks blank _).trans (Property.listAfter_renderings proper gaps)
  refine ⟨found, fun key => ?_, nodup_foldl_put _ List.nodup_nil⟩
  rw [get?_ofText, found]

theorem ofText_renderings_misleading :
    let parts : List (Property.Rendering × Text) :=
      [(⟨⟨"text".toList, "a=\x7bb c=\"d".toList⟩, .braces⟩, "\u2003".toList),
        (⟨⟨"tag".toList, "text=x \x7b".toList⟩, .doubleQuotes⟩, "\t ".toList),
        (⟨⟨"größe_2".toList, []⟩, .singleQuotes⟩, ['\n']),
        (⟨⟨"text".toList, "\x7d\"".toList⟩, .singleQuotes⟩, [])]
    let text := [' '] ++ parts.flatMap fun (rendering, gap) => rendering.text ++ gap
    (∀ part ∈ parts, part.1.IsProper) ∧ (∀ part ∈ parts, ∀ c ∈ part.2, isBlank c = true) ∧
      (ofText text).get? "text".toList = some "\x7d\"".toList ∧ (ofText text).get? "tag".toList = some "text=x \x7b".toList ∧
      (ofText text).get? "a".toList = none ∧ (ofText text).get? "c".toList = none := by
  intro parts text
  have proper : ∀ part ∈ parts, part.1.IsProper := by decide +kernel
  have blank : ∀ part ∈ parts, part.2.all isBlank = true := by decide
  have gaps : ∀ part ∈ parts, ∀ c ∈ part.2, isBlank c = true :=
    fun part listed => List.all_eq_true.mp (blank part listed)
  have values := (@ofText_renderings [' '] parts (List.all_eq_true.mp rfl) proper gaps).2.1
  exact ⟨proper, gaps, (values _).trans rfl, (values _).trans rfl, (values _).trans rfl, (values _).trans rfl⟩

end Properties
end SkyRegion
