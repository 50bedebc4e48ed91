import SkyRegion.CommonUnits.Library
import SkyRegion.Proofs.SkyDeclarations

/-! The states an import can be in. What is known about the mode agrees with the frame in force, a name for the frame of
the image is one that the image has given, and every position that was asked about is on the sky. A call for a line
keeps all this also when the call is interrupted. -/

namespace SkyRegion

open Image Text

/-- The image gave a name to its frame, at a time after `earlier` and before the end of `asked`. An image that has only
one name for its frame has given that one. -/
def Image.HasNamed (image : Image) (earlier asked : List Query) (name : Text) : Prop :=
  ∃ past, earlier <+: past ∧ past <+: asked ∧ (frameName.run.run image past).1 = .ok name

theorem Image.HasNamed.mono {image : Image} {earlier asked asked' : List Query} {name : Text}
    (named : image.HasNamed earlier asked name) (later : asked <+: asked') : image.HasNamed earlier asked' name := by
  obtain ⟨past, since, before, same⟩ := named
  exact ⟨past, since, before.trans later, same⟩

/-- A position that is asked about is in a frame of the sky. -/
def Image.Query.IsOnSky : Query → Prop
  | .toPixel frame _ _ => frame.isSky = true
  | _ => True

theorem Image.Query.isOnSky_of_isConversion {query : Query} (other : query.isConversion = false) : query.IsOnSky := by
  cases query with
  | toPixel => cases other
  | _ => trivial

theorem Frame.isSky_iff (frame : Frame) :
    frame.isSky = true ↔ frame ∈ [Frame.j2000, .b1950, .galactic, .ecliptic, .icrs] := by
  cases frame <;> decide

namespace ImportState

/-- What is known about the mode agrees with the frame in force. -/
structure IsCoherent (state : ImportState) : Prop where
  pixelMode : state.pixelMode = true ↔ state.frame = .pixel
  accepting : state.accepting = false ↔ state.frame = .unsupported

theorem isCoherent_fresh (fileId : Int) : IsCoherent { fileId } := ⟨by simp, by simp⟩

theorem isCoherent_declared (state : ImportState) (frame : Frame) : (state.declared frame).IsCoherent :=
  ⟨by simp [declared], by simp [declared]⟩

theorem IsCoherent.isSky {state : ImportState} (coherent : state.IsCoherent) {frame : Frame}
    (mode : state.currentMode? = some (.sky frame)) : frame.isSky = true := by
  obtain ⟨accepting, mode⟩ := Import.currentMode?_eq_some mode
  rw [ImportState.mode] at mode
  cases pixels : state.pixelMode with
  | true => simp [pixels] at mode
  | false =>
    have inForce : state.frame = frame := by simpa [pixels] using mode
    have offPixels : frame ≠ .pixel := fun same => by simp [coherent.pixelMode.mpr (inForce.trans same)] at pixels
    have supported : frame ≠ .unsupported := fun same => by simp [coherent.accepting.mpr (inForce.trans same)] at accepting
    cases frame with
    | pixel => exact absurd rfl offPixels
    | unsupported => exact absurd rfl supported
    | _ => rfl

end ImportState

namespace Import

/-- The state of an import, and all that its image has been asked by then. -/
structure Moment where
  state : ImportState
  asked : List Query

namespace Moment

/-- The moment after some work, whatever came of it. -/
def next (image : Image) (work : Importing PUnit) (moment : Moment) : Moment :=
  let run := (work.run.run moment.state).run image moment.asked
  ⟨run.1.2, run.2⟩

/-- Moments of an import on an image. A frame may be declared at first; then lines follow, each with any number. -/
inductive Reached [UnitLibrary] (image : Image) (fileId : Int) (earlier : List Query) : Moment → Prop where
  | fresh : Reached image fileId earlier ⟨{ fileId }, earlier⟩
  | declared (number : Int) (keyword : Text) :
      Reached image fileId earlier (next image (declare number keyword) ⟨{ fileId }, earlier⟩)
  | line {moment : Moment} (reached : Reached image fileId earlier moment) (number : Int) (line : Text) :
      Reached image fileId earlier (moment.next image (importLine number line))

structure IsSound (image : Image) (earlier : List Query) (moment : Moment) : Prop where
  coherent : moment.state.IsCoherent
  learnt : moment.state.imageFrame = [] ∨ image.HasNamed earlier moment.asked moment.state.imageFrame
  placed : ∃ since, moment.asked = earlier ++ since ∧ ∀ query ∈ since, query.IsOnSky

variable {image : Image} {earlier : List Query} {moment : Moment} {line : Text}

theorem isSound_fresh (fileId : Int) : IsSound image earlier ⟨{ fileId }, earlier⟩ :=
  ⟨ImportState.isCoherent_fresh fileId, .inl rfl, [], (List.append_nil _).symm, List.forall_mem_nil _⟩

/-- Questions about positions on the sky, or about none, leave a moment sound. -/
theorem IsSound.extend (sound : moment.IsSound image earlier) {state : ImportState} {queries : List Query}
    (coherent : state.IsCoherent) (kept : state.imageFrame = moment.state.imageFrame)
    (sky : ∀ query ∈ queries, query.IsOnSky) : IsSound image earlier ⟨state, moment.asked ++ queries⟩ := by
  obtain ⟨since, log, placed⟩ := sound.placed
  refine ⟨coherent, ?_, since ++ queries, ?_, List.forall_mem_append.mpr ⟨placed, sky⟩⟩
  · rw [kept]
    exact sound.learnt.imp_right fun named => named.mono (List.prefix_append ..)
  · rw [log, List.append_assoc]

/-- The image is asked for its frame only while no name is known. -/
theorem IsSound.next_learn (sound : moment.IsSound image earlier) : (moment.next image learnFrame).IsSound image earlier := by
  obtain ⟨state, asked⟩ := moment
  rw [next, learnFrame_run]
  cases known : state.imageFrame.isEmpty with
  | false => exact sound
  | true =>
    obtain ⟨queries, log, kinds⟩ := frameName_asks.exists_queries image asked
    have extended := sound.extend sound.coherent rfl fun query listed => Query.isOnSky_of_isConversion (kinds query listed)
    simp only [if_true, Dialogue.run_map, log]
    cases named : (frameName.run.run image asked).1 with
    | error fault => exact extended
    | ok name =>
      obtain ⟨since, before, _⟩ := sound.placed
      have given : image.HasNamed earlier (asked ++ queries) name := ⟨asked, ⟨since, before.symm⟩, ⟨queries, rfl⟩, named⟩
      exact ⟨⟨sound.coherent.pixelMode, sound.coherent.accepting⟩, .inr given, extended.placed⟩

theorem IsSound.next_declare (sound : moment.IsSound image earlier) (number : Int) (keyword : Text) :
    (moment.next image (declare number keyword)).IsSound image earlier := by
  have coherent := moment.state.isCoherent_declared (Frame.ofKeyword (Frame.keywordOf keyword))
  have declared : IsSound image earlier ⟨moment.state.declared (Frame.ofKeyword (Frame.keywordOf keyword)), moment.asked⟩ := by
    simpa using sound.extend coherent rfl (List.forall_mem_nil _)
  cases sky : (Frame.ofKeyword (Frame.keywordOf keyword)).isSky with
  | true =>
    have learnt := declared.next_learn
    rwa [next, ← declare_run_sky sky number] at learnt
  | false =>
    rw [next, declare_run sky number]
    exact ⟨⟨coherent.pixelMode, coherent.accepting⟩, declared.learnt, declared.placed⟩

theorem next_learn_result (image : Image) (moment : Moment) :
    (moment.next image learnFrame).state.result = moment.state.result := by
  rw [next, learnFrame_run]
  split
  · rw [Dialogue.run_map]
    cases (frameName.run.run image moment.asked).1 <;> rfl
  · rfl

theorem prefix_next_declare (image : Image) (moment : Moment) (number : Int) (keyword : Text) :
    moment.state.regions <+: (moment.next image (declare number keyword)).state.regions ∧
      moment.state.issues <+: (moment.next image (declare number keyword)).state.issues := by
  cases sky : (Frame.ofKeyword (Frame.keywordOf keyword)).isSky with
  | true =>
    have kept := next_learn_result image
      ⟨moment.state.declared (Frame.ofKeyword (Frame.keywordOf keyword)), moment.asked⟩
    rw [next, ← declare_run_sky sky number, ImportState.result, ImportState.result, ImportResult.mk.injEq] at kept
    rw [next, kept.1, kept.2]
    exact ⟨List.prefix_rfl, List.prefix_rfl⟩
  | false =>
    rw [next, declare_run sky number]
    exact ⟨List.prefix_append .., List.prefix_append ..⟩

section

variable [UnitLibrary]

theorem importLine_of_frame (kind : LineKind.ofLine line = .frame) (number : Int) :
    importLine number line = Import.declare number line := by
  rw [importLine, kind]

/-- A line that declares no frame adds to the result, and changes nothing else. -/
theorem exists_next_eq (image : Image) (other : LineKind.ofLine line ≠ .frame) (number : Int) (moment : Moment) :
    ∃ part, (moment.next image (importLine number line)).state = moment.state.add part := by
  have plain : declaresSky line = false := by simp [declaresSky, other]
  have same : moment.state.before line = moment.state := if_neg other
  simp only [next, importLine_run plain, Dialogue.run_map, same]
  cases ((lineResult moment.state.currentMode? moment.state.fileId number line).run.run image moment.asked).1 with
  | error interruption => exact ⟨.empty, moment.state.add_empty.symm⟩
  | ok part => exact ⟨part, rfl⟩

theorem IsSound.next_line (sound : moment.IsSound image earlier) (number : Int) (line : Text) :
    (moment.next image (importLine number line)).IsSound image earlier := by
  by_cases kind : LineKind.ofLine line = .frame
  · rw [importLine_of_frame kind]
    exact sound.next_declare number line
  have plain : declaresSky line = false := by simp [declaresSky, kind]
  obtain ⟨part, after⟩ := exists_next_eq image kind number moment
  obtain ⟨queries, log, permitted⟩ :=
    (lineResult_asks moment.state.currentMode? moment.state.fileId number line).exists_queries image moment.asked
  have asked : (moment.next image (importLine number line)).asked = moment.asked ++ queries := by
    rw [next, importLine_run plain, Dialogue.run_map]
    exact log
  have sky : ∀ query ∈ queries, query.IsOnSky := by
    intro query listed
    obtain ⟨mode, known, permits⟩ := permitted query listed
    cases query with
    | toPixel frame x y =>
      rw [show mode = .sky frame from permits] at known
      exact sound.coherent.isSky known
    | _ => trivial
  have coherent : (moment.state.add part).IsCoherent := ⟨sound.coherent.pixelMode, sound.coherent.accepting⟩
  have extended := sound.extend coherent rfl sky
  rwa [← after, ← asked] at extended

theorem Reached.isSound {fileId : Int} (reached : Reached image fileId earlier moment) : moment.IsSound image earlier := by
  induction reached with
  | fresh => exact isSound_fresh fileId
  | declared number keyword => exact (isSound_fresh fileId).next_declare number keyword
  | line reached number line ih => exact ih.next_line number line

/-- Every line leaves what was found before it in its place. -/
theorem prefix_next (image : Image) (moment : Moment) (number : Int) (line : Text) :
    moment.state.regions <+: (moment.next image (importLine number line)).state.regions ∧
      moment.state.issues <+: (moment.next image (importLine number line)).state.issues := by
  by_cases kind : LineKind.ofLine line = .frame
  · rw [importLine_of_frame kind]
    exact prefix_next_declare image moment number line
  · obtain ⟨part, after⟩ := exists_next_eq image kind number moment
    rw [after]
    exact ⟨List.prefix_append .., List.prefix_append ..⟩

/-- At every moment of an import the mode goes with the frame in force, a known name of the frame of the image was given
by the image, and all positions that were asked about are in one of five frames; the next line adds to the result only,
and changes nothing else unless it is a declaration. -/
theorem reached_invariant {fileId : Int} (reached : Reached image fileId earlier moment) :
    moment.state.IsCoherent ∧
      (moment.state.imageFrame = [] ∨ image.HasNamed earlier moment.asked moment.state.imageFrame) ∧
      (∃ since, moment.asked = earlier ++ since ∧ ∀ frame x y, .toPixel frame x y ∈ since →
        frame ∈ [Frame.j2000, .b1950, .galactic, .ecliptic, .icrs]) ∧
      ∀ number line, let after := (moment.next image (importLine number line)).state
        moment.state.regions <+: after.regions ∧ moment.state.issues <+: after.issues ∧
          (LineKind.ofLine line ≠ .frame →
            after = { moment.state with regions := after.regions, issues := after.issues }) := by
  have sound := reached.isSound
  refine ⟨sound.coherent, sound.learnt, ?_, ?_⟩
  · obtain ⟨since, log, placed⟩ := sound.placed
    refine ⟨since, log, fun frame x y listed => ?_⟩
    exact (Frame.isSky_iff frame).mp (placed _ listed)
  · intro number line after
    obtain ⟨regions, issues⟩ := prefix_next image moment number line
    refine ⟨regions, issues, fun other => ?_⟩
    obtain ⟨part, same⟩ := exists_next_eq image other number moment
    simp only [after, same]
    rfl

end

section

open CommonUnits

/-- A keyword that nothing is known about comes first, and a position on the sky after it. -/
theorem reached_after_unknown_keyword :
    let opened := Moment.next plane (declare 0 "moon".toList) ⟨{ fileId := 7 }, []⟩
    let moment := (opened.next plane (importLine 1 " FK5".toList)).next plane (importLine 2 "point(1,2d)".toList)
    Reached plane 7 [] moment ∧ moment.state.IsCoherent ∧ plane.HasNamed [] moment.asked "physical".toList ∧
      moment.asked.contains (.toPixel .j2000 ⟨1, .degree⟩ ⟨2, .degree⟩) = true := by
  intro opened moment
  have reached : Reached plane 7 [] moment := ((Reached.declared 0 "moon".toList).line 1 " FK5".toList).line 2 _
  obtain ⟨coherent, learnt, _⟩ := reached_invariant reached
  have known : moment.state.imageFrame = "physical".toList := by decide +kernel
  rw [known] at learnt
  exact ⟨reached, coherent, learnt.resolve_left (by decide), by decide +kernel⟩

end

end Moment
end Import
end SkyRegion
