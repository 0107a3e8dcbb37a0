import StoneDebug.Proofs.Debug.Looking

/-! # Setting breakpoints

A line for which a breakpoint is requested maps to no step point, or the VM is told one and replies. A
request for all breakpoints of a document goes one of four ways, each of which says what is shown, what
is tracked from then on and which calls were made. All that is proved of such requests starts from here.
-/

namespace StoneDebug

open Source

/-- What has come of a line: nothing if it maps to no step point, and else the VM's reply for the step
point that it maps to. -/
abbrev Placing := Option (LineMapping × Except CallError Oop)

namespace Debug

def noStepPoint : String := "no step point at or after this line"

def rejected : String := "breakpoint rejected by the VM"

end Debug

namespace Placing

def mapping (p : Placing) : Option LineMapping := p.map Prod.fst

/-- The breakpoint as it is shown. It is set if the VM has agreed. -/
def view (line : Int) : Placing → BreakpointView
  | none => .unverified line Debug.noStepPoint
  | some (_, .error _) => .unverified line Debug.rejected
  | some (m, .ok _) => ⟨true, m.actualLine, some m.stepPoint, none⟩

def tracking : Placing → Option TrackedBreakpoint
  | some (m, .ok _) => some ⟨m.stepPoint, m.actualLine⟩
  | _ => none

/-- The call that was made for the line. -/
def Asked (s : Session) (method : Oop) : Placing → World → World → Prop
  | none, w, w' => w' = w
  | some (m, reply), w, w' =>
    ∃ w₁, s.perform method "setBreakAtStepPoint:" [.ofSmallInt m.stepPoint] w = (reply, w₁) ∧
      Quiet w₁ w'

inductive AllAsked (s : Session) (method : Oop) : List Placing → World → World → Prop
  | nil {w : World} : AllAsked s method [] w w
  | cons {p : Placing} {ps : List Placing} {w w₁ w' : World} (first : p.Asked s method w w₁)
    (others : AllAsked s method ps w₁ w') : AllAsked s method (p :: ps) w w'

end Placing

namespace Debug

variable {w w' : World} {α : Type}

def viewsOf (lines : List Int) (placings : List Placing) : List BreakpointView :=
  lines.zipWith (fun line p => p.view line) placings

theorem quiet_logRecord_debugger (severity : Severity) (text : String) (w : World) :
    Quiet w (logRecord severity "debugger" text w).2 :=
  ⟨rfl, rfl, rfl, rfl, rfl, rfl⟩

/-! ## Lines -/

theorem setBreakpoint_apply (s : Session) (method : Oop) (source : MethodSource) (line : Int)
    (d : DebugSession) (w : World) :
    ∃ (p : Placing) (w' : World),
      setBreakpoint s method source line d w = (((p.view line, p.tracking), d), w') ∧
      p.mapping = mapLine line source.starts source.stepOffsets ∧ p.Asked s method w w' := by
  unfold setBreakpoint
  cases mapLine line source.starts source.stepOffsets with
  | none => exact ⟨none, w, rfl, rfl, rfl⟩
  | some m =>
      let step := Oop.ofSmallInt m.stepPoint
      rcases ran : s.perform method "setBreakAtStepPoint:" [step] w with ⟨reply, w₁⟩
      have noted := noted_apply (remote_of ran d) .warn "set breakpoint: "
      dsimp only
      cases reply with
      | ok value =>
          rw [Staged.bind_of noted]
          exact ⟨some (m, .ok value), w₁, rfl, rfl, w₁, ran, lasts_quiet.refl w₁⟩
      | error e =>
          rw [Staged.bind_of noted]
          exact ⟨some (m, .error e), _, rfl, rfl, w₁, ran, quiet_logRecord_debugger _ _ w₁⟩

theorem setLines_apply (s : Session) (method : Oop) (source : MethodSource) (lines : List Int)
    (d : DebugSession) (w : World) :
    ∃ (placings : List Placing) (w' : World), setLines s method source lines d w =
        (((viewsOf lines placings, placings.filterMap Placing.tracking), d), w') ∧
      placings.map Placing.mapping =
        lines.map (fun line => mapLine line source.starts source.stepOffsets) ∧
      Placing.AllAsked s method placings w w' := by
  induction lines generalizing w with
  | nil => exact ⟨[], w, rfl, rfl, .nil⟩
  | cons line lines ih =>
      obtain ⟨p, w₁, first, mapped, asked⟩ := setBreakpoint_apply s method source line d w
      obtain ⟨placings, w₂, others, mappings, rest⟩ := ih w₁
      refine ⟨p :: placings, w₂, ?_, ?_, .cons asked rest⟩
      · rw [setLines, Staged.bind_of first]
        dsimp only
        rw [Staged.bind_of others]
        cases tracked : p.tracking <;> simp [viewsOf, tracked] <;> rfl
      · rw [List.map_cons, List.map_cons, mapped, mappings]

/-! ## Documents -/

def without (path : String) (documents : List Document) : List Document :=
  documents.filter fun doc => doc.path != path

/-- The ways in which a request for the breakpoints of a document goes, with what is shown, the table
of documents and the world afterwards. -/
inductive Course (s : Session) (path : String) (method : Oop) (lines : List Int)
    (documents : List Document) (w : World) : List BreakpointView → List Document → World → Prop
  | uncleared {e : CallError} {w₁ w' : World}
    (cleared : s.perform method "clearAllBreaks" [] w = (.error e, w₁)) (quiet : Quiet w₁ w') :
    Course s path method lines documents w
      (unverifiedAll lines ("breakpoints could not be cleared: " ++ e.message)) documents w'
  | emptied {value : Oop} {w' : World} (empty : lines = [])
    (cleared : s.perform method "clearAllBreaks" [] w = (.ok value, w')) :
    Course s path method lines documents w [] (without path documents) w'
  | unfetched {value : Oop} {e : CallError} {w₁ w₂ w' : World} (nonempty : lines ≠ [])
    (cleared : s.perform method "clearAllBreaks" [] w = (.ok value, w₁))
    (fetched : s.fetchSource method w₁ = (.error e, w₂)) (quiet : Quiet w₂ w') :
    Course s path method lines documents w
      (unverifiedAll lines ("method source unavailable: " ++ e.message)) (without path documents) w'
  | set {value : Oop} {source : MethodSource} {placings : List Placing} {w₁ w₂ w₃ w' : World}
    (nonempty : lines ≠ []) (cleared : s.perform method "clearAllBreaks" [] w = (.ok value, w₁))
    (fetched : s.fetchSource method w₁ = (.ok source, w₂))
    (mapped : placings.map Placing.mapping =
      lines.map fun line => mapLine line source.starts source.stepOffsets)
    (asked : Placing.AllAsked s method placings w₂ w₃) (quiet : Quiet w₃ w') :
    Course s path method lines documents w (viewsOf lines placings)
      (without path documents ++ [⟨path, method, placings.filterMap Placing.tracking⟩]) w'

theorem setMethodBreakpoints_apply (s : Session) (path : String) (method : Oop) (lines : List Int)
    (d : DebugSession) (w : World) :
    ∃ views documents w',
      setMethodBreakpoints s path method lines d w = ((views, { d with documents }), w') ∧
      Course s path method lines d.documents w views documents w' := by
  rcases cleared : s.perform method "clearAllBreaks" [] w with ⟨e | value, w₁⟩
  · rw [setMethodBreakpoints, Staged.bind_of (attempt_of cleared d)]
    exact ⟨_, _, _, rfl, .uncleared cleared (quiet_logRecord_debugger _ _ w₁)⟩
  · let d₁ := { d with documents := without path d.documents }
    have dropped : dropDocument path d w₁ = (((), d₁), w₁) := rfl
    rw [setMethodBreakpoints, Staged.bind_of (attempt_of cleared d)]
    dsimp only
    rw [Staged.bind_of dropped]
    by_cases empty : lines = []
    · subst empty
      exact ⟨_, _, _, rfl, .emptied rfl cleared⟩
    rw [if_neg (by simpa using empty)]
    rcases fetched : s.fetchSource method w₁ with ⟨e | source, w₂⟩
    · rw [Staged.bind_of (attempt_of fetched d₁)]
      exact ⟨_, _, _, rfl, .unfetched empty cleared fetched (quiet_logRecord_debugger _ _ w₂)⟩
    · obtain ⟨placings, w₃, set, mapped, asked⟩ := setLines_apply s method source lines d₁ w₂
      rw [Staged.bind_of (attempt_of fetched d₁)]
      dsimp only
      rw [Staged.bind_of set]
      exact ⟨_, _, _, rfl,
        .set empty cleared fetched mapped asked (quiet_logRecord_debugger _ _ w₃)⟩

end Debug

end StoneDebug
