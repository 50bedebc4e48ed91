import Mathlib.Data.List.Forall2
import SkyRegion.Proofs.QuietHeader
import SkyRegion.Writer.Session

/-! The states a writer can be in. It has the lines of its header and one more for each region it took in, in the
order of the calls. A call that fails, at whatever question to the image, leaves writer and count as they were. -/

namespace SkyRegion.Writer

open Image Text

variable {Files : Type} {write : Text → List UInt8 → StateM Files (Option Text)} {image : Image}

theorem Fault.code?_eq_empty_iff (fault : Fault) : fault.code? = some "REGION_EXPORT_EMPTY".toList ↔ fault = .empty := by
  cases fault with
  | empty => exact ⟨fun _ => rfl, fun _ => rfl⟩
  | noImage | image | style | format => exact ⟨nofun, nofun⟩
  | conversion | wrongCount | unwritable =>
    refine ⟨fun coded => ?_, nofun⟩
    exact absurd (Option.some.inj coded) (by decide)

/-- A region more, with its line. -/
def withLine (writer : Writer) (line : Text) : Writer :=
  { writer with lines := writer.lines ++ [line], count := writer.count + 1 }

/-- The line that a call stands for, where the image has been asked `asked` before. No other call has a line. -/
inductive Adds (writer : Writer) (image : Image) (asked : List Query) : Call → Text → Prop where
  | drawn {region : Region} (space : writer.space = .pixel) :
      Adds writer image asked (.region region) (labelled region.definition region.name ++ ['\n'])
  | converted {region : Region} {quantities : List Quantity} {definition : Text} (space : writer.space = .world)
      (found : ((toWorld region).run.run image asked).1 = .ok quantities)
      (defined : writer.style.definition region.kind quantities (worldAngle region) = .ok definition) :
      Adds writer image asked (.region region) (labelled definition region.name ++ ['\n'])
  | given {kind : RegionKind} {quantities : List Quantity} {angle : Number} {name definition : Text}
      (fits : fitsQuantities kind quantities.length = true)
      (defined : writer.style.definition kind quantities angle = .ok definition) :
      Adds writer image asked (.quantities kind quantities angle name) (labelled definition name ++ ['\n'])

/-- Which line a call stands for is a matter of the space and the style. -/
theorem Adds.congr {writer other : Writer} {asked : List Query} {call : Call} {line : Text}
    (adds : writer.Adds image asked call line) (space : other.space = writer.space) (style : other.style = writer.style) :
    other.Adds image asked call line := by
  cases adds with
  | drawn pixel => exact .drawn (space.trans pixel)
  | converted world found defined => exact .converted (space.trans world) found (style ▸ defined)
  | given fits defined => exact .given fits (style ▸ defined)

/-- A call has one line at most. -/
theorem Adds.eq {writer : Writer} {asked : List Query} {call : Call} {line line' : Text}
    (adds : writer.Adds image asked call line) (adds' : writer.Adds image asked call line') : line = line' := by
  cases adds with
  | drawn pixel =>
    rcases adds' with _ | ⟨world, _, _⟩
    · rfl
    · cases pixel.symm.trans world
  | converted world found defined =>
    rcases adds' with pixel | ⟨_, found', defined'⟩
    · cases world.symm.trans pixel
    · cases found.symm.trans found'
      cases defined.symm.trans defined'
      rfl
  | given fits defined =>
    rcases adds' with _ | _ | ⟨_, defined'⟩
    cases defined.symm.trans defined'
    rfl

theorem addRegion_run_pixel {writer : Writer} (space : writer.space = .pixel) (region : Region) :
    (writer.addRegion region).run = pure (.ok (writer.append region.definition region.name)) := by
  rw [addRegion, space]
  rfl

theorem addRegion_run_world {writer : Writer} (space : writer.space = .world) (image : Image) (asked : List Query)
    (region : Region) : ((writer.addRegion region).run.run image asked).1 =
      match ((toWorld region).run.run image asked).1 with
      | .error fault => .error (conversionFault region.kind fault)
      | .ok quantities =>
        match writer.style.definition region.kind quantities (worldAngle region) with
        | .ok definition => .ok (writer.append definition region.name)
        | .error fault => .error (.format fault) := by
  rw [addRegion, space]
  simp only [ExceptT.run_bind, Dialogue.run_bind, Dialogue.run_adapt]
  cases ((toWorld region).run.run image asked).1 with
  | error fault => rfl
  | ok quantities =>
    simp only [Except.mapError]
    cases writer.style.definition region.kind quantities (worldAngle region) <;> rfl

/-- A region has a line, or the writer says why it has none. -/
theorem addRegion_run (writer : Writer) (image : Image) (asked : List Query) (region : Region) :
    (∃ line, writer.Adds image asked (.region region) line ∧
        ((writer.addRegion region).run.run image asked).1 = .ok (writer.withLine line)) ∨
      (∀ line, ¬writer.Adds image asked (.region region) line) ∧
        ∃ fault, ((writer.addRegion region).run.run image asked).1 = .error fault := by
  cases space : writer.space with
  | pixel =>
    rw [addRegion_run_pixel space]
    exact .inl ⟨_, .drawn space, rfl⟩
  | world =>
    rw [addRegion_run_world space]
    cases found : ((toWorld region).run.run image asked).1 with
    | error fault =>
      refine .inr ⟨?_, _, rfl⟩
      rintro line (space' | ⟨_, found', _⟩)
      · cases space.symm.trans space'
      · cases found.symm.trans found'
    | ok quantities =>
      dsimp only
      cases defined : writer.style.definition region.kind quantities (worldAngle region) with
      | ok definition => exact .inl ⟨_, .converted space found defined, rfl⟩
      | error fault =>
        refine .inr ⟨?_, _, rfl⟩
        rintro line (space' | ⟨_, found', defined'⟩)
        · cases space.symm.trans space'
        · cases found.symm.trans found'
          cases defined.symm.trans defined'

theorem addQuantities_eq (writer : Writer) (image : Image) (asked : List Query) (kind : RegionKind)
    (quantities : List Quantity) (angle : Number) (name : Text) :
    (∃ line, writer.Adds image asked (.quantities kind quantities angle name) line ∧
        writer.addQuantities kind quantities angle name = .ok (writer.withLine line)) ∨
      (∀ line, ¬writer.Adds image asked (.quantities kind quantities angle name) line) ∧
        ∃ fault, writer.addQuantities kind quantities angle name = .error fault := by
  rw [addQuantities]
  cases fits : fitsQuantities kind quantities.length with
  | false =>
    refine .inr ⟨?_, _, rfl⟩
    rintro line (_ | _ | ⟨fits', _⟩)
    cases fits.symm.trans fits'
  | true =>
    cases defined : writer.style.definition kind quantities angle with
    | ok definition => exact .inl ⟨_, .given fits defined, rfl⟩
    | error fault =>
      refine .inr ⟨?_, _, rfl⟩
      rintro line (_ | _ | ⟨_, defined'⟩)
      cases defined.symm.trans defined'

/-- What has become of a writer: its files, all that its image has been asked, and its calls with what they gave. -/
structure Moment (Files : Type) where
  writer : Writer
  files : Files
  asked : List Query
  past : List (Call × Except Fault Answer)

namespace Moment

/-- The outcome of a call, with the writer, the files and the questions after it. -/
def run (write : Text → List UInt8 → StateM Files (Option Text)) (image : Image) (moment : Moment Files) (call : Call) :
    (Except Fault Answer × Writer × Files) × List Query :=
  ((perform write call).run.run (moment.writer, moment.files)).run image moment.asked

def outcome (write : Text → List UInt8 → StateM Files (Option Text)) (image : Image) (moment : Moment Files)
    (call : Call) : Except Fault Answer :=
  (moment.run write image call).1.1

def next (write : Text → List UInt8 → StateM Files (Option Text)) (image : Image) (moment : Moment Files) (call : Call) :
    Moment Files :=
  let ((outcome, writer, files), asked) := moment.run write image call
  ⟨writer, files, asked, moment.past ++ [(call, outcome)]⟩

/-- Moments in the use of a writer. Any call may follow, whatever came of those before it. -/
inductive Reached (write : Text → List UInt8 → StateM Files (Option Text)) (image : Image) (opened : Moment Files) :
    Moment Files → Prop where
  | opened : Reached write image opened opened
  | call {moment : Moment Files} (reached : Reached write image opened moment) (call : Call) :
      Reached write image opened (moment.next write image call)

/-- The calls that added a region. -/
def additions (moment : Moment Files) : List Call :=
  moment.past.filterMap fun
    | (call, .ok .added) => some call
    | _ => none

variable {moment : Moment Files}

theorem replace_run (work : Writer → Writing Writer) (writer : Writer) (files : Files) (image : Image)
    (asked : List Query) :
    (((replace work).run.run (writer, files)).run image asked).1 =
      match ((work writer).run.run image asked).1 with
      | .ok next => (.ok .added, next, files)
      | .error fault => (.error fault, writer, files) := by
  have run : (replace work).run.run (writer, files) = (fun
      | .ok next => (.ok .added, next, files)
      | .error fault => (.error fault, writer, files)) <$> (work writer).run := by
    rw [map_eq_pure_bind]
    change (((work writer).run >>= fun result => pure (result, writer, files)) >>= _) = _
    rw [bind_assoc]
    congr 1
    funext result
    cases result <;> rfl
  rw [run, Dialogue.run_map]

theorem lines_run (write : Text → List UInt8 → StateM Files (Option Text)) (image : Image) (moment : Moment Files) :
    moment.run write image .lines = ((moment.writer.finished.map .lines, moment.writer, moment.files), moment.asked) := by
  change ((do return .lines (← liftM moment.writer.finished) : Calling Files Answer).run.run
    (moment.writer, moment.files)).run image moment.asked = _
  cases moment.writer.finished <;> rfl

theorem save_run (write : Text → List UInt8 → StateM Files (Option Text)) (image : Image) (moment : Moment Files)
    (path : Text) : moment.run write image (.save path) =
      let saved := (moment.writer.save (FileName.last path) (write path)).run moment.files
      ((saved.1.map fun _ => .saved, moment.writer, saved.2), moment.asked) := by
  change ((do
    let saved := (moment.writer.save (FileName.last path) (write path)).run moment.files
    set (moment.writer, saved.2)
    let _ ← liftM saved.1
    return .saved : Calling Files Answer).run.run (moment.writer, moment.files)).run image moment.asked = _
  dsimp only
  cases ((moment.writer.save (FileName.last path) (write path)).run moment.files).1 <;> rfl

/-- A call adds its line; one that has no line leaves the writer alone, and only saving may touch the files. -/
theorem run_cases (write : Text → List UInt8 → StateM Files (Option Text)) (image : Image) (moment : Moment Files)
    (call : Call) :
    (∃ line, moment.writer.Adds image moment.asked call line ∧
        (moment.run write image call).1 = (.ok .added, moment.writer.withLine line, moment.files)) ∨
      (∀ line, ¬moment.writer.Adds image moment.asked call line) ∧
        ∃ outcome files, (moment.run write image call).1 = (outcome, moment.writer, files) ∧ outcome ≠ .ok .added ∧
          ((∀ path, call ≠ .save path) ∨ moment.writer.count = 0 → files = moment.files) := by
  cases call with
  | region region =>
    have run := replace_run (·.addRegion region) moment.writer moment.files image moment.asked
    rcases moment.writer.addRegion_run image moment.asked region with ⟨line, adds, same⟩ | ⟨none, fault, same⟩
    · exact .inl ⟨line, adds, run.trans (by rw [same])⟩
    · exact .inr ⟨none, .error fault, _, run.trans (by rw [same]), nofun, fun _ => rfl⟩
  | quantities kind quantities angle name =>
    have run := replace_run (fun writer => liftM (writer.addQuantities kind quantities angle name)) moment.writer
      moment.files image moment.asked
    rcases moment.writer.addQuantities_eq image moment.asked kind quantities angle name with
      ⟨line, adds, same⟩ | ⟨none, fault, same⟩
    · exact .inl ⟨line, adds, run.trans (by rw [same]; rfl)⟩
    · exact .inr ⟨none, .error fault, _, run.trans (by rw [same]; rfl), nofun, fun _ => rfl⟩
  | lines =>
    refine .inr ⟨nofun, _, _, congrArg Prod.fst (lines_run write image moment), ?_, fun _ => rfl⟩
    cases moment.writer.finished <;> nofun
  | save path =>
    refine .inr ⟨nofun, _, _, congrArg Prod.fst (save_run write image moment path), ?_, fun untouched => ?_⟩
    · cases ((moment.writer.save (FileName.last path) (write path)).run moment.files).1 <;> nofun
    · have empty : moment.writer.count = 0 := untouched.resolve_left fun other => other path rfl
      rw [save, finished, if_pos empty]
      rfl

variable (write) in
/-- A call that has a line adds it. -/
theorem next_of_adds {call : Call} {line : Text} (adds : moment.writer.Adds image moment.asked call line) :
    moment.outcome write image call = .ok .added ∧
      (moment.next write image call).writer = moment.writer.withLine line := by
  rcases moment.run_cases write image call with ⟨line', adds', run⟩ | ⟨lineless, _⟩
  · rw [adds.eq adds']
    exact ⟨congrArg Prod.fst run, congrArg (·.2.1) run⟩
  · exact absurd adds (lineless line)

/-- A writer as it was opened, with a line for each call that added a region. -/
def IsGrown (image : Image) (opened : Writer) (moment : Moment Files) : Prop :=
  ∃ written, moment.writer = { opened with lines := opened.lines ++ written, count := written.length } ∧
    List.Forall₂ (fun call line => ∃ asked, opened.Adds image asked call line) moment.additions written

theorem additions_next_added {call : Call} (added : moment.outcome write image call = .ok .added) :
    (moment.next write image call).additions = moment.additions ++ [call] := by
  rw [outcome] at added
  rw [additions, next, List.filterMap_append, added]
  rfl

theorem additions_next_other {call : Call} (other : moment.outcome write image call ≠ .ok .added) :
    (moment.next write image call).additions = moment.additions := by
  rw [outcome] at other
  rw [additions, next, List.filterMap_append]
  cases result : (moment.run write image call).1.1 with
  | error fault => exact List.append_nil _
  | ok answer =>
    cases answer with
    | added => exact absurd result other
    | _ => exact List.append_nil _

theorem IsGrown.next {opened : Writer} (grown : moment.IsGrown image opened) (call : Call) :
    (moment.next write image call).IsGrown image opened := by
  obtain ⟨written, same, each⟩ := grown
  rcases moment.run_cases write image call with ⟨line, adds, run⟩ | ⟨_, outcome, files, run, other, _⟩
  · have added : moment.outcome write image call = .ok .added := congrArg Prod.fst run
    have adds' : opened.Adds image moment.asked call line := adds.congr (by rw [same]) (by rw [same])
    refine ⟨written ++ [line], ?_, ?_⟩
    · simp [Moment.next, run, withLine, same]
    · rw [additions_next_added added]
      exact List.rel_append each (.cons ⟨moment.asked, adds'⟩ .nil)
  · have same' : moment.outcome write image call = outcome := congrArg Prod.fst run
    refine ⟨written, ?_, ?_⟩
    · simpa [Moment.next, run] using same
    · rwa [additions_next_other (same' ▸ other)]

theorem Reached.isGrown {opened moment : Moment Files} (fresh : opened.past = []) (none : opened.writer.count = 0)
    (reached : Reached write image opened moment) : moment.IsGrown image opened.writer := by
  induction reached with
  | opened =>
    refine ⟨[], ?_, ?_⟩
    · simp [← none]
    · simp [additions, fresh]
  | call reached call ih => exact ih.next call

end Moment

theorem exists_create_world {settings : Settings} {earlier : List Query} {writer : Writer}
    (created : ((create settings .world true).run.run image earlier).1 = .ok writer) : ∃ frame lines,
      header settings frame = .ok lines ∧
        writer = ⟨.world, frame, if frame.isEmpty then .linear else .sky, lines, 0⟩ := by
  cases named : (frameName.run.run image earlier).1 with
  | error fault =>
    simp only [create, if_true, ExceptT.run_bind, Dialogue.run_bind, Dialogue.run_adapt, named] at created
    cases created
  | ok name => exact ⟨_, create_world named rfl created⟩

/-- A writer that was created has three lines and no region. -/
theorem create_opened {settings : Settings} {space : Space} {hasImage : Bool} {earlier : List Query} {writer : Writer}
    (created : ((create settings space hasImage).run.run image earlier).1 = .ok writer) :
    writer.count = 0 ∧ header settings writer.frame = .ok writer.lines := by
  cases space with
  | pixel =>
    rw [create] at created
    cases found : header settings "physical".toList with
    | error fault =>
      rw [found] at created
      cases created
    | ok lines =>
      rw [found] at created
      cases created
      exact ⟨rfl, found⟩
  | world =>
    cases hasImage with
    | false => cases created
    | true =>
      obtain ⟨frame, lines, found, rfl⟩ := exists_create_world created
      exact ⟨rfl, found⟩

namespace Moment

/-- Whatever is asked of a writer, its lines are the three of its header and one for each call that added a region, in
order, and it counts these calls. A call adds a region exactly if it has a line; any other leaves the writer as it was,
and the files too unless there are regions to save. The lines are given as soon as there is a region. -/
theorem reached_lines {settings : Settings} {space : Space} {hasImage : Bool} {earlier asked : List Query}
    {opened : Writer} {files : Files} {moment : Moment Files}
    (created : (create settings space hasImage).run.run image earlier = (.ok opened, asked))
    (reached : Reached write image ⟨opened, files, asked, []⟩ moment) :
    (∃ style written, settings.style = .ok style ∧
      moment.writer.lines =
        [banner settings.formatVersion, style.line, frameLine opened.frame].map (· ++ ['\n']) ++ written ∧
      List.Forall₂ (fun call line => ∃ asked, opened.Adds image asked call line) moment.additions written) ∧
    moment.writer.count = moment.additions.length ∧
    (∀ call, let after := moment.next write image call
      (∀ line, moment.writer.Adds image moment.asked call line →
        moment.outcome write image call = .ok .added ∧ after.writer = moment.writer.withLine line) ∧
      ((∀ line, ¬moment.writer.Adds image moment.asked call line) →
        moment.outcome write image call ≠ .ok .added ∧ after.writer = moment.writer) ∧
      (∀ fault, moment.outcome write image call = .error fault → after.writer = moment.writer) ∧
      ((∀ path, call ≠ .save path) ∨ moment.additions = [] → after.files = moment.files)) ∧
    moment.outcome write image .lines =
      (if moment.additions = [] then .error .empty else .ok (.lines moment.writer.lines)) ∧
    (∀ path, moment.additions = [] → moment.outcome write image (.save path) = .error .empty) ∧
    ∀ fault : Fault, fault.code? = some "REGION_EXPORT_EMPTY".toList ↔ fault = .empty := by
  have made : ((create settings space hasImage).run.run image earlier).1 = .ok opened := congrArg Prod.fst created
  obtain ⟨none, headed⟩ := create_opened made
  obtain ⟨style, styled, header⟩ := header_eq_ok headed
  obtain ⟨written, same, each⟩ := reached.isGrown rfl none
  have count : moment.writer.count = moment.additions.length := by rw [same, each.length_eq]
  have empty : moment.additions = [] ↔ moment.writer.count = 0 := by rw [count, List.length_eq_zero_iff]
  refine ⟨⟨style, written, styled, by rw [same, ← header], each⟩, count, ?_, ?_, ?_, ?_⟩
  · intro call after
    rcases moment.run_cases write image call with ⟨line, adds, run⟩ | ⟨lineless, outcome, files, run, other, untouched⟩
    · have added : moment.outcome write image call = .ok .added := congrArg Prod.fst run
      have grown : after.writer = moment.writer.withLine line := congrArg (·.2.1) run
      refine ⟨fun line' adds' => ⟨added, ?_⟩, fun lineless => absurd adds (lineless line), ?_, ?_⟩
      · rw [grown, adds'.eq adds]
      · intro fault failed
        cases added.symm.trans failed
      · intro _
        exact congrArg (·.2.2) run
    · have given : moment.outcome write image call = outcome := congrArg Prod.fst run
      have kept : after.writer = moment.writer := congrArg (·.2.1) run
      refine ⟨fun line adds => absurd adds (lineless line), fun _ => ⟨given ▸ other, kept⟩, fun _ _ => kept, ?_⟩
      intro unsaved
      rw [empty] at unsaved
      exact (congrArg (·.2.2) run).trans (untouched unsaved)
  · rw [outcome, lines_run, finished]
    simp only [empty]
    split <;> rfl
  · intro path lineless
    rw [outcome, save_run, save, finished, if_pos (empty.mp lineless)]
    rfl
  · exact Fault.code?_eq_empty_iff

/-- The image fails in the middle of a triangle; a point is added before the next failure, and another after it. -/
theorem reached_lines_between_failures :
    let image : Image := ⟨fun asked query =>
      if asked.length = 3 then .error (.refused "lost".toList) else plane.answer asked query⟩
    let write : Text → List UInt8 → StateM (List UInt8) (Option Text) := fun _ content => do
      set content
      return some "full".toList
    let opened := Writer.opened []
    let first : Moment (List UInt8) := ⟨opened, [], [.hasSkyFrame, .hasLinearFrame], []⟩
    let triangle := first.next write image (.region ⟨.polygon, [⟨0, 0⟩, ⟨1, 0⟩, ⟨0, 1⟩], 0, [], 0⟩)
    let point := triangle.next write image (.region ⟨.point, [⟨1, 2⟩], 0, "a".toList, 0⟩)
    let short := point.next write image (.quantities .point [⟨1, .pixel⟩] 0 [])
    let saved := short.next write image (.save "a.reg".toList)
    let moment := saved.next write image (.quantities .point [⟨3, .pixel⟩, ⟨4, .pixel⟩] 0 [])
    (create {} .world true).run.run image [] = (.ok opened, [.hasSkyFrame, .hasLinearFrame]) ∧
      Reached write image first moment ∧
      moment.past.map (·.2) = [.error (.conversion .polygon "lost".toList), .ok .added, .error (.wrongCount .point 1),
        .error (.unwritable "a.reg".toList "full".toList), .ok .added] ∧
      moment.writer.count = 2 ∧
      moment.outcome write image .lines = .ok (.lines moment.writer.lines) := by
  intro image write opened first triangle point short saved moment
  have created : (create {} .world true).run.run image [] = (.ok opened, [.hasSkyFrame, .hasLinearFrame]) := by
    decide +kernel
  have reached : Reached write image first moment := .call (.call (.call (.call (.call .opened _) _) _) _) _
  obtain ⟨_, count, _, lines, _⟩ := reached_lines created reached
  have additions : moment.additions.length = 2 := by decide +kernel
  have present : moment.additions ≠ [] := by
    intro none
    simp [none] at additions
  rw [if_neg present] at lines
  exact ⟨created, reached, by decide +kernel, count.trans additions, lines⟩

end Moment
end SkyRegion.Writer
