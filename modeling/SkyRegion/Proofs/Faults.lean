import Mathlib.Data.List.Forall2

/-! Results that may be faults. A computation in steps, or along the items of a list, fails in the first step that does; when
nothing fails, each step has its value. -/

namespace SkyRegion

/-- A result that is a fault of a kind. -/
def FailsWith (bad : ε → Prop) : Except ε α → Prop
  | .ok _ => False
  | .error fault => bad fault

abbrev Fails (result : Except ε α) : Prop := FailsWith (fun _ => True) result

instance {bad : ε → Prop} [DecidablePred bad] : (result : Except ε α) → Decidable (FailsWith bad result)
  | .ok _ => inferInstanceAs (Decidable False)
  | .error fault => inferInstanceAs (Decidable (bad fault))

section FailsWith

variable {bad : ε → Prop}

@[simp] theorem failsWith_ok (value : α) : FailsWith bad (.ok value) ↔ False := Iff.rfl

@[simp] theorem failsWith_error (fault : ε) : FailsWith bad (.error fault : Except ε α) ↔ bad fault := Iff.rfl

theorem failsWith_eq_iff {result : Except ε α} {fault : ε} : FailsWith (· = fault) result ↔ result = .error fault := by
  cases result <;> simp

@[simp] theorem failsWith_pure (value : α) : FailsWith bad (pure value) ↔ False := Iff.rfl

@[simp] theorem failsWith_throw (fault : ε) : FailsWith bad (throw fault : Except ε α) ↔ bad fault := Iff.rfl

@[simp] theorem failsWith_map (f : α → β) (result : Except ε α) : FailsWith bad (f <$> result) ↔ FailsWith bad result := by
  cases result <;> rfl

theorem failsWith_mapError (f : ε' → ε) (result : Except ε' α) :
    FailsWith bad (result.mapError f) ↔ FailsWith (bad ∘ f) result := by
  cases result <;> rfl

theorem mapError_eq_ok_iff {f : ε' → ε} {result : Except ε' α} {value : α} :
    result.mapError f = .ok value ↔ result = .ok value := by
  cases result <;> simp [Except.mapError]

@[simp] theorem throw_eq_ok (fault : ε) (value : α) : (throw fault : Except ε α) = .ok value ↔ False :=
  iff_of_false nofun id

theorem bind_eq_ok_iff (result : Except ε α) (next : α → Except ε β) (value : β) :
    result >>= next = .ok value ↔ ∃ middle, result = .ok middle ∧ next middle = .ok value := by
  cases result with
  | error fault => exact iff_of_false nofun nofun
  | ok middle => exact ⟨fun accepted => ⟨middle, rfl, accepted⟩, by rintro ⟨_, ⟨⟩, accepted⟩; exact accepted⟩

theorem failsWith_bind (result : Except ε α) (next : α → Except ε β) :
    FailsWith bad (result >>= next) ↔ FailsWith bad result ∨ ∃ value, result = .ok value ∧ FailsWith bad (next value) := by
  cases result with
  | error fault => exact ⟨.inl, fun failed => failed.resolve_right (by simp)⟩
  | ok value =>
    refine ⟨fun failed => .inr ⟨value, rfl, failed⟩, ?_⟩
    rintro (impossible | ⟨_, same, failed⟩)
    · exact impossible.elim
    · cases same
      exact failed

theorem not_failsWith_bind {result : Except ε α} {next : α → Except ε β} (first : ¬FailsWith bad result)
    (rest : ∀ value, ¬FailsWith bad (next value)) : ¬FailsWith bad (result >>= next) := by
  cases result with
  | error fault => exact first
  | ok value => exact rest value

theorem elim_eq_ok_iff {value? : Option α} {fault : ε} {next : α → Except ε β} {result : β} :
    value?.elim (.error fault) next = .ok result ↔ ∃ value, value? = some value ∧ next value = .ok result := by
  cases value? <;> simp

theorem failsWith_elim_iff {value? : Option α} {fault : ε} {next : α → Except ε β}
    (settled : ∀ value, ¬FailsWith bad (next value)) :
    FailsWith bad (value?.elim (.error fault) next) ↔ value? = none ∧ bad fault := by
  cases value? with
  | none => simp
  | some value => simp [settled value]

theorem failsWith_elim (value? : Option α) (fault : ε) (permitted : bad fault) :
    FailsWith bad (value?.elim (.error fault) .ok) ↔ value? = none :=
  (failsWith_elim_iff fun _ => id).trans (and_iff_left permitted)

theorem failsWith_mapM {f : α → Except ε β} {items : List α} : FailsWith bad (items.mapM f) ↔
    ∃ before item after, items = before ++ item :: after ∧ (∀ earlier ∈ before, ∃ value, f earlier = .ok value) ∧
      FailsWith bad (f item) := by
  induction items with
  | nil => simp
  | cons first rest ih =>
    simp only [List.mapM_cons, failsWith_bind, failsWith_pure, and_false, exists_false, or_false, ih]
    constructor
    · rintro (failed | ⟨value, read, before, item, after, rfl, earlier, failed⟩)
      · exact ⟨[], first, rest, rfl, List.forall_mem_nil _, failed⟩
      · exact ⟨first :: before, item, after, rfl, List.forall_mem_cons.mpr ⟨⟨value, read⟩, earlier⟩, failed⟩
    · rintro ⟨before, item, after, same, earlier, failed⟩
      cases before with
      | nil =>
        cases same
        exact .inl failed
      | cons head before =>
        cases same
        obtain ⟨⟨value, read⟩, earlier⟩ := List.forall_mem_cons.mp earlier
        exact .inr ⟨value, read, before, item, after, rfl, earlier, failed⟩

end FailsWith

section mapM

variable {α β γ : Type} {ε : Type}

theorem mapM_congr {f g : α → Except ε β} {items : List α} (same : ∀ item ∈ items, f item = g item) :
    items.mapM f = items.mapM g := by
  induction items with
  | nil => rfl
  | cons item rest ih =>
    rw [List.forall_mem_cons] at same
    rw [List.mapM_cons, List.mapM_cons, same.1, ih same.2]

theorem forall₂_of_mapM_eq_ok {f : α → Except ε β} {items : List α} {values : List β}
    (accepted : items.mapM f = .ok values) :
    List.Forall₂ (fun item value => f item = .ok value) items values := by
  induction items generalizing values with
  | nil =>
    cases accepted
    exact .nil
  | cons item rest ih =>
    simp only [List.mapM_cons, bind_eq_ok_iff] at accepted
    obtain ⟨value, first, values, further, ⟨⟩⟩ := accepted
    exact .cons first (ih further)

theorem exists_of_mapM_eq_error {f : α → Except ε β} {items : List α} {fault : ε} (failed : items.mapM f = .error fault) :
    ∃ item ∈ items, f item = .error fault := by
  rw [← failsWith_eq_iff, failsWith_mapM] at failed
  obtain ⟨before, item, after, rfl, _, failed⟩ := failed
  exact ⟨item, List.mem_append_right _ List.mem_cons_self, failsWith_eq_iff.mp failed⟩

theorem mapM_eq_ok_iff {f : α → Except ε β} {items : List α} {values : List β} :
    items.mapM f = .ok values ↔ List.Forall₂ (fun item value => f item = .ok value) items values := by
  refine ⟨forall₂_of_mapM_eq_ok, fun each => ?_⟩
  induction each with
  | nil => rfl
  | cons first _ ih =>
    rw [List.mapM_cons, first, ih]
    rfl

/-- All items succeed together if each of them does. -/
theorem exists_mapM_eq_ok_iff {f : α → Except ε β} {items : List α} :
    (∃ values, items.mapM f = .ok values) ↔ ∀ item ∈ items, ∃ value, f item = .ok value := by
  constructor
  · rintro ⟨values, all⟩
    rw [mapM_eq_ok_iff] at all
    induction all with
    | nil => exact List.forall_mem_nil _
    | cons first _ ih => exact List.forall_mem_cons.mpr ⟨⟨_, first⟩, ih⟩
  · intro each
    cases all : items.mapM f with
    | ok values => exact ⟨values, rfl⟩
    | error fault =>
      obtain ⟨item, listed, failed⟩ := exists_of_mapM_eq_error all
      obtain ⟨value, worked⟩ := each item listed
      cases worked.symm.trans failed

theorem forall₂_comp {first : α → β → Prop} {second : β → γ → Prop} {items : List α} {values : List γ} :
    (∃ middle, List.Forall₂ first items middle ∧ List.Forall₂ second middle values) ↔
      List.Forall₂ (fun item value => ∃ middle, first item middle ∧ second middle value) items values := by
  constructor
  · rintro ⟨middle, before, after⟩
    induction before generalizing values with
    | nil =>
      cases after
      exact .nil
    | cons holds _ ih =>
      obtain _ | ⟨holds', after⟩ := after
      exact .cons ⟨_, holds, holds'⟩ (ih after)
  · intro both
    induction both with
    | nil => exact ⟨[], .nil, .nil⟩
    | cons holds _ ih =>
      obtain ⟨middle, holds, holds'⟩ := holds
      obtain ⟨further, before, after⟩ := ih
      exact ⟨middle :: further, .cons holds before, .cons holds' after⟩

end mapM
end SkyRegion
