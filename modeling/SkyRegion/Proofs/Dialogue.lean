import SkyRegion.Image.Dialogue

/-! Dialogues run step by step. An image may answer in the light of everything it has been asked, so a run
is followed together with its history. Questions about the frame are told apart from conversions: an image
that ignores the former answers a conversion alike wherever its frame was asked for. -/

namespace SkyRegion.Image

namespace Dialogue

theorem bind_done (dialogue : Dialogue α) : dialogue.bind .done = dialogue := by
  induction dialogue with
  | done value => rfl
  | ask query next ih => simp only [bind, ih]

theorem bind_assoc (dialogue : Dialogue α) (first : α → Dialogue β) (second : β → Dialogue γ) :
    (dialogue.bind first).bind second = dialogue.bind fun value => (first value).bind second := by
  induction dialogue with
  | done value => rfl
  | ask query next ih => simp only [bind, ih]

instance : LawfulMonad Dialogue :=
  LawfulMonad.mk' Dialogue bind_done (fun _ _ => rfl) bind_assoc

theorem run_bind (image : Image) (asked : List Query) (dialogue : Dialogue α) (next : α → Dialogue β) :
    (dialogue >>= next).run image asked =
      (next (dialogue.run image asked).1).run image (dialogue.run image asked).2 := by
  change (dialogue.bind next).run image asked = _
  induction dialogue generalizing asked with
  | done value => rfl
  | ask query rest ih => exact ih _ _

@[simp] theorem run_map (image : Image) (asked : List Query) (dialogue : Dialogue α) (f : α → β) :
    (f <$> dialogue).run image asked = (f (dialogue.run image asked).1, (dialogue.run image asked).2) := by
  rw [map_eq_pure_bind]
  exact run_bind image asked dialogue _

@[simp] theorem run_pure (image : Image) (asked : List Query) (value : α) :
    (pure value : Dialogue α).run image asked = (value, asked) := rfl

theorem run_request {image : Image} {query : Query} {asked : List Query} {reply : Except Fault query.Reply}
    (answered : image.answer asked query = reply) : (request query).run.run image asked = (reply, asked ++ [query]) := by
  rw [← answered]
  rfl

/-- Failures that are named differently leave the questions as they were. -/
theorem run_adapt (image : Image) (asked : List Query) (work : ExceptT ε Dialogue α) (f : ε → δ) :
    (work.adapt f).run.run image asked = ((work.run.run image asked).1.mapError f, (work.run.run image asked).2) := by
  rw [← run_map]
  rfl

end Dialogue

namespace Query

def isConversion : Query → Bool
  | .hasSkyFrame => false
  | .skyFrameName => false
  | .hasLinearFrame => false
  | _ => true

end Query

/-- What has been asked, without the questions about the frame. -/
def conversions (asked : List Query) : List Query := asked.filter (·.isConversion)

@[simp] theorem conversions_append (first second : List Query) :
    conversions (first ++ second) = conversions first ++ conversions second := List.filter_append ..

/-- The name of its frame can be had from an image at any time. -/
def NamesFrame (image : Image) : Prop :=
  ∀ asked, ∃ name, (frameName.run.run image asked).1 = .ok name

/-- Having been asked for its frame changes nothing about what an image answers. -/
def IgnoresFrameQueries (image : Image) : Prop :=
  ∀ first second, conversions first = conversions second → image.answer first = image.answer second

/-- An image that never changes is the usual case. -/
theorem ignoresFrameQueries_of_steady (answer : (query : Query) → Except Fault query.Reply) :
    IgnoresFrameQueries ⟨fun _ => answer⟩ :=
  fun _ _ _ => rfl

/-- An image without a sky frame, on which positions and lengths are their own pixels. -/
def plane : Image where
  answer _
    | .hasSkyFrame => .ok false
    | .skyFrameName => .ok []
    | .hasLinearFrame => .ok false
    | .toPixel _ x y => .ok (some (x.value, y.value))
    | .toPixelLength length _ => .ok length.value
    | .toWorld x y => .ok (⟨x, .pixel⟩, ⟨y, .pixel⟩)
    | .toWorldLength length _ => .ok ⟨length, .pixel⟩

theorem NamesFrame.ne_error {image : Image} (names : image.NamesFrame) (asked : List Query) (fault : Fault) :
    (frameName.run.run image asked).1 ≠ .error fault := by
  obtain ⟨name, named⟩ := names asked
  rw [named]
  exact nofun

theorem plane_namesFrame : NamesFrame plane := fun _ => ⟨"physical".toList, rfl⟩

theorem plane_ignoresFrameQueries : IgnoresFrameQueries plane := ignoresFrameQueries_of_steady _

namespace Dialogue

/-- Two histories with the same conversions lead to the same result, and to such histories again. -/
theorem run_congr {image : Image} (ignores : image.IgnoresFrameQueries) (dialogue : Dialogue α)
    {first second : List Query} (same : conversions first = conversions second) :
    (dialogue.run image first).1 = (dialogue.run image second).1 ∧
      conversions (dialogue.run image first).2 = conversions (dialogue.run image second).2 := by
  induction dialogue generalizing first second with
  | done value => exact ⟨rfl, same⟩
  | ask query next ih =>
    simp only [run, ignores first second same]
    exact ih _ (by simp [same])

/-- Whatever has been asked before, an image leads the dialogue to a result of a kind. -/
def Ensures (dialogue : Dialogue α) (image : Image) (post : α → Prop) : Prop :=
  ∀ asked, post (dialogue.run image asked).1

theorem Ensures.pure {image : Image} {post : α → Prop} {value : α} (holds : post value) :
    (Pure.pure value : Dialogue α).Ensures image post :=
  fun _ => holds

theorem Ensures.mono {image : Image} {stronger post : α → Prop} {dialogue : Dialogue α}
    (first : dialogue.Ensures image stronger) (implies : ∀ value, stronger value → post value) :
    dialogue.Ensures image post :=
  fun asked => implies _ (first asked)

theorem Ensures.bind {image : Image} {middle : α → Prop} {post : β → Prop} {dialogue : Dialogue α}
    {next : α → Dialogue β} (first : dialogue.Ensures image middle)
    (rest : ∀ value, middle value → (next value).Ensures image post) :
    (dialogue >>= next).Ensures image post := by
  intro asked
  rw [run_bind]
  exact rest _ (first asked) _

theorem Ensures.map {image : Image} {post : β → Prop} {dialogue : Dialogue α} {f : α → β}
    (first : dialogue.Ensures image fun value => post (f value)) : (f <$> dialogue).Ensures image post := by
  intro asked
  rw [run_map]
  exact first asked

/-- From histories with the same conversions two dialogues come to related results, and again to such
histories. -/
def Matches (first : Dialogue α) (image : Image) (related : α → β → Prop) (second : Dialogue β) : Prop :=
  ∀ before before', conversions before = conversions before' →
    related (first.run image before).1 (second.run image before').1 ∧
      conversions (first.run image before).2 = conversions (second.run image before').2

theorem Matches.map {image : Image} (ignores : image.IgnoresFrameQueries) {related : β → α → Prop}
    {dialogue : Dialogue α} {f : α → β} (holds : ∀ value, related (f value) value) :
    (f <$> dialogue).Matches image related dialogue := by
  intro before before' same
  obtain ⟨equal, same⟩ := run_congr ignores dialogue same
  rw [run_map, equal]
  exact ⟨holds _, same⟩

theorem Matches.map_left {image : Image} {related : γ → β → Prop} {first : Dialogue α} {second : Dialogue β}
    {f : α → γ} (matched : first.Matches image (fun value value' => related (f value) value') second) :
    (f <$> first).Matches image related second := by
  intro before before' same
  rw [run_map]
  exact matched before before' same

theorem Matches.map_right {image : Image} {related : α → γ → Prop} {first : Dialogue α} {second : Dialogue β}
    {f : β → γ} (matched : first.Matches image (fun value value' => related value (f value')) second) :
    first.Matches image related (f <$> second) := by
  intro before before' same
  rw [run_map]
  exact matched before before' same

theorem Matches.mono {image : Image} {related weaker : α → β → Prop} {first : Dialogue α} {second : Dialogue β}
    (matched : first.Matches image related second) (implies : ∀ value value', related value value' → weaker value value') :
    first.Matches image weaker second :=
  fun before before' same => ⟨implies _ _ (matched before before' same).1, (matched before before' same).2⟩

theorem Matches.mapped {image : Image} {first second : ExceptT ε Dialogue α} (f : α → β)
    (matched : first.run.Matches image (· = ·) second.run) :
    (f <$> first).run.Matches image (· = ·) (f <$> second).run := by
  rw [ExceptT.run_map, ExceptT.run_map]
  exact .map_left (.map_right (matched.mono fun _ _ => congrArg _))

theorem Matches.pure {image : Image} {related : α → β → Prop} {value : α} {value' : β} (holds : related value value') :
    (Pure.pure value : Dialogue α).Matches image related (Pure.pure value') :=
  fun _ _ same => ⟨holds, same⟩

theorem Matches.bind {image : Image} {related : α → β → Prop} {related' : γ → δ → Prop}
    {first : Dialogue α} {second : Dialogue β} {next : α → Dialogue γ} {next' : β → Dialogue δ}
    (matched : first.Matches image related second)
    (rest : ∀ value value', related value value' → (next value).Matches image related' (next' value')) :
    (first >>= next).Matches image related' (second >>= next') := by
  intro before before' same
  obtain ⟨holds, same⟩ := matched before before' same
  rw [run_bind, run_bind]
  exact rest _ _ holds _ _ same

theorem Matches.skip {image : Image} {holds : α → ε → Prop} {related : β → γ → Prop} {first : Dialogue α}
    {known : ε} {next : α → Dialogue β} {second : Dialogue γ}
    (matched : first.Matches image holds (Pure.pure known))
    (rest : ∀ value, holds value known → (next value).Matches image related second) :
    (first >>= next).Matches image related second := by
  intro before before' same
  obtain ⟨found, same⟩ := matched before before' same
  rw [run_bind]
  exact rest _ found _ _ same

theorem Matches.ensures {image : Image} {related : α → β → Prop} {dialogue : Dialogue α} {known : β}
    (matched : dialogue.Matches image related (Pure.pure known)) : dialogue.Ensures image (related · known) :=
  fun asked => (matched asked asked rfl).1

/-- Whatever has been asked before, a dialogue asks for some conversions and comes to a result that goes with them. -/
def Converts (dialogue : Dialogue α) (image : Image) (post : α → List Query → Prop) : Prop :=
  ∀ asked, ∃ queries, conversions (dialogue.run image asked).2 = conversions asked ++ queries ∧
    post (dialogue.run image asked).1 queries

theorem Converts.pure {image : Image} {post : α → List Query → Prop} {value : α} (holds : post value []) :
    (Pure.pure value : Dialogue α).Converts image post :=
  fun _ => ⟨[], (List.append_nil _).symm, holds⟩

theorem Converts.mono {image : Image} {stronger post : α → List Query → Prop} {dialogue : Dialogue α}
    (first : dialogue.Converts image stronger) (implies : ∀ value queries, stronger value queries → post value queries) :
    dialogue.Converts image post := by
  intro asked
  obtain ⟨queries, log, holds⟩ := first asked
  exact ⟨queries, log, implies _ _ holds⟩

theorem Converts.map {image : Image} {post : β → List Query → Prop} {dialogue : Dialogue α} {f : α → β}
    (first : dialogue.Converts image fun value => post (f value)) : (f <$> dialogue).Converts image post := by
  intro asked
  rw [run_map]
  exact first asked

theorem Converts.bind {image : Image} {middle : α → List Query → Prop} {post : β → List Query → Prop}
    {dialogue : Dialogue α} {next : α → Dialogue β} (first : dialogue.Converts image middle)
    (rest : ∀ value queries, middle value queries →
      (next value).Converts image fun result further => post result (queries ++ further)) :
    (dialogue >>= next).Converts image post := by
  intro asked
  obtain ⟨queries, log, holds⟩ := first asked
  obtain ⟨further, log', holds'⟩ := rest _ _ holds (dialogue.run image asked).2
  rw [run_bind]
  exact ⟨queries ++ further, by rw [log', log, List.append_assoc], holds'⟩

/-- A dialogue that matches a known value asks for no conversion. -/
theorem Matches.converts {image : Image} {related : α → β → Prop} {dialogue : Dialogue α} {known : β}
    (matched : dialogue.Matches image related (Pure.pure known)) :
    dialogue.Converts image fun value queries => related value known ∧ queries = [] := by
  intro asked
  obtain ⟨holds, log⟩ := matched asked asked rfl
  exact ⟨[], log.trans (List.append_nil _).symm, holds, rfl⟩

/-- Every question put along the way is of a kind, whatever the replies are. -/
def Asks (allowed : Query → Prop) : Dialogue α → Prop
  | .done _ => True
  | .ask query next => allowed query ∧ ∀ reply, (next reply).Asks allowed

theorem Asks.bind {allowed : Query → Prop} {dialogue : Dialogue α} {next : α → Dialogue β}
    (first : dialogue.Asks allowed) (rest : ∀ value, (next value).Asks allowed) :
    (dialogue >>= next).Asks allowed := by
  change (dialogue.bind next).Asks allowed
  induction dialogue with
  | done value => exact rest value
  | ask query further ih => exact ⟨first.1, fun reply => ih reply (first.2 reply)⟩

theorem Asks.map {allowed : Query → Prop} {dialogue : Dialogue α} (asks : dialogue.Asks allowed) (f : α → β) :
    (f <$> dialogue).Asks allowed := by
  rw [map_eq_pure_bind]
  exact asks.bind fun _ => trivial

theorem Asks.mono {allowed permitted : Query → Prop} {dialogue : Dialogue α} (asks : dialogue.Asks allowed)
    (implies : ∀ query, allowed query → permitted query) : dialogue.Asks permitted := by
  induction dialogue with
  | done value => trivial
  | ask query next ih => exact ⟨implies query asks.1, fun reply => ih reply (asks.2 reply)⟩

theorem Asks.exists_queries {allowed : Query → Prop} {dialogue : Dialogue α} (asks : dialogue.Asks allowed) (image : Image)
    (asked : List Query) :
    ∃ queries, (dialogue.run image asked).2 = asked ++ queries ∧ ∀ query ∈ queries, allowed query := by
  induction dialogue generalizing asked with
  | done value => exact ⟨[], (List.append_nil _).symm, List.forall_mem_nil _⟩
  | ask query next ih =>
    obtain ⟨queries, log, each⟩ := ih _ (asks.2 _) (asked ++ [query])
    refine ⟨query :: queries, ?_, List.forall_mem_cons.mpr ⟨asks.1, each⟩⟩
    rw [run, log, List.append_assoc, List.singleton_append]

/-- A dialogue without a question is its result. -/
theorem Asks.exists_eq_pure {dialogue : Dialogue α} (asks : dialogue.Asks fun _ => False) :
    ∃ value, dialogue = Pure.pure value := by
  cases dialogue with
  | done value => exact ⟨value, rfl⟩
  | ask query next => exact asks.1.elim

theorem Asks.request {allowed : Query → Prop} (query : Query) (permitted : allowed query) :
    (request query).run.Asks allowed :=
  ⟨permitted, fun _ => trivial⟩

theorem Asks.conversions_run {dialogue : Dialogue α}
    (asks : dialogue.Asks fun query => query.isConversion = false) (image : Image) (asked : List Query) :
    conversions (dialogue.run image asked).2 = conversions asked := by
  induction dialogue generalizing asked with
  | done value => rfl
  | ask query next ih =>
    rw [run, ih _ (asks.2 _), conversions_append]
    simp [conversions, asks.1]

end Dialogue

theorem frameName_asks : Dialogue.Asks (fun query => query.isConversion = false) frameName.run := by
  refine .bind (Dialogue.Asks.request .hasSkyFrame rfl) fun sky => ?_
  rcases sky with fault | sky
  · trivial
  cases sky with
  | true => exact Dialogue.Asks.request .skyFrameName rfl
  | false =>
    refine .bind (Dialogue.Asks.request .hasLinearFrame rfl) fun linear => ?_
    rcases linear with fault | linear
    · trivial
    cases linear <;> trivial

/-- Finding out the name of the frame is as good as knowing it. -/
theorem frameName_matches {image : Image} (names : image.NamesFrame) :
    frameName.run.Matches image (fun named _ => ∃ name, named = .ok name) (pure PUnit.unit) :=
  fun before _ same => ⟨names before, (frameName_asks.conversions_run image before).trans same⟩

end SkyRegion.Image
