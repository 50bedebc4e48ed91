import Mathlib.Data.List.DropRight
import SkyRegion.Text.Blank

/-! What trimming leaves: a text that nothing more can be trimmed from, with everything in it that is not of the class. -/

namespace SkyRegion.Text

variable {drop : Char → Bool}

theorem eq_false_of_mem_head?_dropWhile (text : Text) : ∀ c ∈ (text.dropWhile drop).head?, drop c = false := by
  intro c first
  have stopped := List.head?_dropWhile_not drop text
  rw [Option.mem_def.mp first] at stopped
  exact stopped

theorem trimWhere_eq (text : Text) : trimWhere drop text = (text.dropWhile drop).rdropWhile drop := rfl

/-- A text is left alone when neither end is of the class. -/
theorem trimWhere_eq_self {text : Text} (front : text.dropWhile drop = text) (back : text.rdropWhile drop = text) :
    trimWhere drop text = text := by
  rw [trimWhere_eq, front, back]

theorem trimWhere_of_forall {text : Text} (kept : ∀ c ∈ text, drop c = false) : trimWhere drop text = text := by
  refine trimWhere_eq_self (List.dropWhile_eq_self_iff.mpr fun nonempty => ?_)
    (List.rdropWhile_eq_self_iff.mpr fun nonempty => ?_)
  · simp [kept _ (List.getElem_mem nonempty)]
  · simp [kept _ (List.getLast_mem nonempty)]

theorem rdropWhile_append_cons {last : Char} (kept : drop last = false) (before after : Text) :
    (before ++ last :: after).rdropWhile drop = before ++ last :: after.rdropWhile drop := by
  induction after using List.reverseRecOn with
  | nil => exact List.rdropWhile_concat_neg _ _ _ (by simp [kept])
  | append_singleton after c ih =>
    rw [← List.cons_append, ← List.append_assoc, List.rdropWhile_concat, List.rdropWhile_concat]
    split
    · exact ih
    · simp

theorem trimWhere_cons {first : Char} (front : drop first = false) (text : Text) :
    trimWhere drop (first :: text) = first :: text.rdropWhile drop := by
  rw [trimWhere_eq, List.dropWhile_cons_of_neg (by simp [front])]
  exact rdropWhile_append_cons front [] text

/-- Only what stands behind the last kept character is trimmed. -/
theorem trimWhere_append {first last : Char} (front : drop first = false) (back : drop last = false)
    (middle after : Text) : trimWhere drop (first :: (middle ++ last :: after)) =
      first :: (middle ++ last :: after.rdropWhile drop) := by
  rw [trimWhere_cons front, rdropWhile_append_cons back]

theorem dropWhile_trimWhere (text : Text) : (trimWhere drop text).dropWhile drop = trimWhere drop text := by
  rw [trimWhere_eq, List.dropWhile_eq_self_iff]
  intro nonempty
  have front := List.dropWhile_eq_self_iff.mp (List.dropWhile_idempotent drop text)
  have leads := List.rdropWhile_prefix drop (text.dropWhile drop)
  rw [leads.getElem nonempty]
  exact front (Nat.lt_of_lt_of_le nonempty leads.length_le)

theorem trimWhere_idempotent (text : Text) : trimWhere drop (trimWhere drop text) = trimWhere drop text :=
  trimWhere_eq_self (dropWhile_trimWhere text) (List.rdropWhile_idempotent _ _)

@[simp] theorem trim_trim (text : Text) : text.trim.trim = text.trim := trimWhere_idempotent text

theorem ends_trimWhere (text : Text) : (∀ c ∈ (trimWhere drop text).head?, drop c = false) ∧
    ∀ c ∈ (trimWhere drop text).getLast?, drop c = false := by
  constructor
  · rw [← dropWhile_trimWhere]
    exact eq_false_of_mem_head?_dropWhile _
  · rw [trimWhere, List.getLast?_reverse]
    exact eq_false_of_mem_head?_dropWhile _

theorem mem_of_mem_trimWhere {c : Char} {text : Text} (member : c ∈ trimWhere drop text) : c ∈ text :=
  (List.dropWhile_sublist drop).subset ((List.rdropWhile_prefix drop _).subset member)

theorem filter_dropWhile (text : Text) : (text.dropWhile drop).filter (!drop ·) = text.filter (!drop ·) := by
  induction text with
  | nil => rfl
  | cons c rest ih =>
    cases dropped : drop c with
    | true => rw [List.dropWhile_cons_of_pos dropped, ih, List.filter_cons_of_neg (by simp [dropped])]
    | false => rw [List.dropWhile_cons_of_neg (by simp [dropped])]

theorem filter_trimWhere (text : Text) : (trimWhere drop text).filter (!drop ·) = text.filter (!drop ·) := by
  rw [trimWhere, List.filter_reverse, filter_dropWhile, List.filter_reverse, List.reverse_reverse, filter_dropWhile]

end SkyRegion.Text
