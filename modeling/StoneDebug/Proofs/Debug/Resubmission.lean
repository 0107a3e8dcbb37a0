import StoneDebug.Proofs.Debug.Views
import StoneDebug.Proofs.Source.Mapping

/-! # Breakpoints that are asked for again

An editor shows a breakpoint on the line answered and asks for it there from then on. As long as the
method keeps its source and its step points, that line is mapped to the step point that it has.
-/

namespace StoneDebug

open Source

/-- The breakpoints of the method can be cleared, and its source is then this one. -/
def Session.Serves (s : Session) (method : Oop) (source : MethodSource) (w : World) : Prop :=
  ∃ value, (s.perform method "clearAllBreaks" [] w).1 = .ok value ∧
    (s.fetchSource method (s.perform method "clearAllBreaks" [] w).2).1 = .ok source

namespace Debug

variable {path : String} {source : MethodSource} {d : DebugSession} {w : World}

/-- How a line of a method with this source can be shown. -/
inductive Shown (source : MethodSource) (line : Int) : BreakpointView → Prop
  | unmapped (none : mapLine line source.starts source.stepOffsets = none) :
    Shown source line (.unverified line noStepPoint)
  | refused : Shown source line (.unverified line rejected)
  | set {m : LineMapping} (mapped : mapLine line source.starts source.stepOffsets = some m) :
    Shown source line ⟨true, m.actualLine, some m.stepPoint, none⟩

theorem shown_of_mapped {line : Int} {p : Placing}
    (mapped : p.mapping = mapLine line source.starts source.stepOffsets) :
    Shown source line (p.view line) :=
  match p, mapped with
  | none, mapped => .unmapped mapped.symm
  | some (_, .error _), _ => .refused
  | some (_, .ok _), mapped => .set mapped.symm

theorem shown_setMethodBreakpoints {s : Session} {method : Oop} (serves : s.Serves method source w)
    (lines : List Int) (d : DebugSession) :
    List.Forall₂ (Shown source) lines (setMethodBreakpoints s path method lines d w).1.1 := by
  obtain ⟨value, clears, fetches⟩ := serves
  obtain ⟨views, documents, w', ran, course⟩ := setMethodBreakpoints_apply s path method lines d w
  rw [ran]
  cases course with
  | uncleared cleared _ =>
      rw [cleared] at clears
      cases clears
  | emptied empty _ =>
      rw [empty]
      exact .nil
  | unfetched _ cleared fetched _ =>
      rw [cleared, fetched] at fetches
      cases fetches
  | set _ cleared fetched mapped _ _ =>
      rw [cleared, fetched] at fetches
      cases fetches
      exact forall₂_viewsOf mapped fun _ _ => shown_of_mapped

/-- A request for this path finds a method with this source. -/
def Finds (path : String) (source : MethodSource) (d : DebugSession) (w : World) : Prop :=
  ∃ s method, d.session = some s ∧ (methodAt s path d w).1.1 = .ok method ∧
    s.Serves method source (methodAt s path d w).2

theorem shown_setBreakpoints (finds : Finds path source d w) (lines : List Int) :
    ∃ views, (setBreakpoints path lines d w).1.1 = .ok views ∧
      List.Forall₂ (Shown source) lines views := by
  obtain ⟨s, method, bound, found, serves⟩ := finds
  rcases ran : methodAt s path d w with ⟨⟨result, d₁⟩, w₁⟩
  obtain rfl : result = .ok method := by rwa [ran] at found
  rw [ran] at serves
  rw [setBreakpoints, Staged.attempt_bind_ok (session_of bound w), Staged.attempt_bind_ok ran]
  exact ⟨_, rfl, shown_setMethodBreakpoints serves lines d₁⟩

theorem lined_of_finds (finds : Finds path source d w) : source.Lined := by
  obtain ⟨s, method, -, -, value, -, fetched⟩ := finds
  exact s.lined_fetchSource method _ source fetched

def setViews (views : List BreakpointView) : List BreakpointView :=
  views.filter BreakpointView.verified

/-- The line shown is mapped to itself and to the step point shown. So the breakpoint is shown as before,
unless the VM rejects it this time. -/
def Repeats (source : MethodSource) (shown again : BreakpointView) : Prop :=
  ∃ m, mapLine shown.line source.starts source.stepOffsets = some m ∧
    shown.line = m.actualLine ∧ shown.stepPoint = some m.stepPoint ∧
    (again = shown ∨ again = .unverified shown.line rejected)

/-- The line shown stands for the step point shown. -/
def Stands (source : MethodSource) (view : BreakpointView) : Prop :=
  ∃ m, mapLine m.actualLine source.starts source.stepOffsets = some m ∧
    view = ⟨true, m.actualLine, some m.stepPoint, none⟩

theorem Shown.stands {line : Int} {view : BreakpointView} (shown : Shown source line view)
    (lined : source.Lined) (verified : view.verified = true) : Stands source view := by
  cases shown with
  | unmapped | refused => cases verified
  | @set m mapped =>
      rw [lined] at mapped
      exact ⟨m, lined ▸ mapLine_actualLine mapped, rfl⟩

theorem stands_of_mem_setViews (lined : source.Lined) {lines : List Int}
    {views : List BreakpointView} (shown : List.Forall₂ (Shown source) lines views) :
    ∀ view ∈ setViews views, Stands source view := by
  induction shown with
  | nil => nofun
  | @cons line view lines views first others ih =>
      intro v member
      obtain ⟨member, verified⟩ := List.mem_filter.mp member
      rcases List.mem_cons.mp member with rfl | later
      · exact first.stands lined verified
      · exact ih v (List.mem_filter.mpr ⟨later, verified⟩)

theorem repeats_of_stands {view again : BreakpointView} (stands : Stands source view)
    (shown : Shown source view.line again) : Repeats source view again := by
  obtain ⟨m, mapped, rfl⟩ := stands
  refine ⟨m, mapped, rfl, rfl, ?_⟩
  cases shown with
  | unmapped none =>
      rw [mapped] at none
      cases none
  | refused => exact .inr rfl
  | @set m' mapped' =>
      obtain rfl : m = m' := Option.some.inj (mapped.symm.trans mapped')
      exact .inl rfl

/-- The line that is answered for a line is mapped to itself and to the same step point, and a later
line is not mapped further back. So the breakpoints that a request has set stay where they are when
their lines are asked for again, whatever was done meanwhile, as long as the method has the same source
and step points. -/
theorem lines_stay_mapped :
    (∀ (text : List Char) (offsets : List Nat) (line later : Int) (m m' : LineMapping),
      line ≤ later → mapLine line (lineStarts text) offsets = some m →
      mapLine later (lineStarts text) offsets = some m' →
      mapLine m.actualLine (lineStarts text) offsets = some m ∧ m.actualLine ≤ m'.actualLine ∧
        ∃ offset offset', offsets[m.stepPoint - 1]? = some offset ∧
          offsets[m'.stepPoint - 1]? = some offset' ∧ offset ≤ offset') ∧
    ∀ (source : MethodSource) (path path' : String) (d d' : DebugSession) (w w' : World)
      (lines : List Int), Finds path source d w → Finds path' source d' w' →
      ∃ views again, (setBreakpoints path lines d w).1.1 = .ok views ∧
        (setBreakpoints path' ((setViews views).map BreakpointView.line) d' w').1.1 = .ok again ∧
        List.Forall₂ (Repeats source) (setViews views) again := by
  refine ⟨fun text offsets line later m m' le mapped mapped' =>
    ⟨mapLine_actualLine mapped, mapLine_mono le mapped mapped'⟩, ?_⟩
  intro source path path' d d' w w' lines finds finds'
  obtain ⟨views, answered, shown⟩ := shown_setBreakpoints finds lines
  obtain ⟨again, answered', shown'⟩ :=
    shown_setBreakpoints finds' ((setViews views).map BreakpointView.line)
  refine ⟨views, again, answered, answered', ?_⟩
  have stand := stands_of_mem_setViews (lined_of_finds finds) shown
  have both := (List.forall₂_and_left _ _).mpr ⟨stand, List.forall₂_map_left_iff.mp shown'⟩
  exact both.imp fun view again ⟨stands, shown⟩ => repeats_of_stands stands shown

/-- Nothing is on the second line: it is shown on the third, and then asked for there under another
path. -/
theorem lines_stay_mapped_moved :
    let path := "/Globals/Calculator/instance/running/run"
    let source := MethodSource.make "a\n\nb c" [3]
    let vm : VM := fun _ _ c => match c with
      | .resolveSymbol .. => .ok (.ofNat 134145)
      | .newSymbol _ => .ok (.ofNat 264705)
      | .perform _ => .ok (.ofNat 130817)
      | .fetchUtf8Bytes .. => .ok { bytes := [97, 10, 10, 98, 32, 99], required := 6 }
      | .fetchSize _ => .ok 1
      | .fetchOops .. => .ok [.ofSmallInt 4]
      | c => Foreign.refuse (.other "") c
    let d : DebugSession := { session := some ⟨1, ⟨1⟩, ""⟩ }
    let w : World := { vm, horizon := 0 }
    (2 : Int) ≤ 3 ∧ mapLine 2 source.starts source.stepOffsets = some ⟨1, 3⟩ ∧
      mapLine 3 source.starts source.stepOffsets = some ⟨1, 3⟩ ∧
      Finds path source d w ∧ Finds (path ++ "?env=0") source d w ∧
      ∃ views again, (setBreakpoints path [2, 9] d w).1.1 = .ok views ∧
        setViews views = [⟨true, 3, some 1, none⟩] ∧
        (setBreakpoints (path ++ "?env=0") [3] d w).1.1 = .ok again ∧
        List.Forall₂ (Repeats source) (setViews views) again := by
  intro path source vm d w
  have mapped : mapLine 2 source.starts source.stepOffsets = some ⟨1, 3⟩ := by decide +kernel
  have mapped' : mapLine 3 source.starts source.stepOffsets = some ⟨1, 3⟩ := by decide +kernel
  obtain ⟨stays, -, -⟩ :=
    lines_stay_mapped.1 "a\n\nb c".toList [3] 2 3 _ _ (by decide) mapped mapped'
  have finds : Finds path source d w :=
    ⟨_, .ofNat 130817, rfl, by decide +kernel, .ofNat 130817, by decide +kernel, by decide +kernel⟩
  have finds' : Finds (path ++ "?env=0") source d w :=
    ⟨_, .ofNat 130817, rfl, by decide +kernel, .ofNat 130817, by decide +kernel, by decide +kernel⟩
  obtain ⟨views, again, answered, answered', repeats⟩ :=
    lines_stay_mapped.2 source path (path ++ "?env=0") d d w w [2, 9] finds finds'
  have shown : (setBreakpoints path [2, 9] d w).1.1 =
      .ok [⟨true, 3, some 1, none⟩, .unverified 9 noStepPoint] := by decide +kernel
  obtain rfl := Except.ok.inj (answered.symm.trans shown)
  exact ⟨by decide, mapped, stays, finds, finds', _, again, shown, rfl, answered', repeats⟩

end Debug

end StoneDebug
