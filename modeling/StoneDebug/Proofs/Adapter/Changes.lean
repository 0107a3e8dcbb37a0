import StoneDebug.Proofs.Adapter.Numbering

/-! # Changes of breakpoints

When pending breakpoints are applied, the documents are gone through in turn. Each breakpoint of a
document whose method is found is told of as changed, once; those of other documents are given up in
silence. Nothing else tells of a changed breakpoint, neither a login nor an attachment.
-/

namespace StoneDebug

/-- An event that tells of a changed breakpoint. -/
def Event.change? : Event → Option (Nat × BreakpointView)
  | .breakpointChanged id view => some (id, view)
  | _ => none

namespace Adapter.Client

open Debug

/-- The changes of breakpoints that wait to be told. -/
def changes (w : World) : List (Nat × BreakpointView) := w.queue.waiting.filterMap Event.change?

theorem deaf_change (category : OutputCategory) (text : String) :
    Event.change? (.output category text) = none := rfl

/-- No change of a breakpoint has come to wait. -/
def Still : World → World → Prop := Spares Event.change?

theorem Still.changes {w w' : World} (h : Still w w') : changes w' = changes w := h

theorem lasts_still : Lasts Still := lasts_spares Event.change?

theorem still_logRecord (severity : Severity) (target text : String) :
    Along Still (logRecord severity target text) := spares_logRecord deaf_change severity target text

theorem consults_still : Consults (Holds Still) :=
  consults_holds lasts_still still_logRecord fun s => (Session.hosts_spares deaf_change s).toCarries

/-! ## The turn of a document -/

def applyTurn (document : String × List PendingBreakpoint) : Debugging Unit := do
  let lines := document.2.map PendingBreakpoint.line
  match ← Debug.noted .warn "pending breakpoints: " (Debug.setBreakpoints document.1 lines) with
  | none => pure ()
  | some views => tellChanged document.2 views

theorem applyEach_cons (document : String × List PendingBreakpoint)
    (documents : List (String × List PendingBreakpoint)) (c : Client) (w : World) :
    let y := Staged.ends (applyTurn document) c.debug w
    applyEach (document :: documents) c w = applyEach documents { c with debug := y.1 } y.2 := by
  obtain ⟨path, breakpoints⟩ := document
  let lines := breakpoints.map PendingBreakpoint.line
  let set := Debug.noted .warn "pending breakpoints: " (Debug.setBreakpoints path lines)
  rcases ran : set c.debug w with ⟨⟨views, d'⟩, w'⟩
  have sets : debugging set c w = ((views, { c with debug := d' }), w') := by
    show (((set c.debug w).1.1, { c with debug := (set c.debug w).1.2 }), (set c.debug w).2) = _
    rw [ran]
  rw [applyEach, Staged.bind_of sets, Staged.ends, applyTurn, Staged.bind_of ran]
  cases views <;> rfl

structure TellsOf (b : PendingBreakpoint) (change : Nat × BreakpointView) : Prop where
  id : change.1 = b.id
  view : BreakpointView.Of b.line change.2

theorem changes_push (e : Event) (w : World) :
    changes { w with queue := w.queue.push e } = changes w ++ (Event.change? e).toList := by
  show (w.queue.waiting ++ [e]).filterMap Event.change? = _
  rw [List.filterMap_append, changes]
  cases change : Event.change? e <;> simp [change]

theorem changes_tellChanged {breakpoints : List PendingBreakpoint} {views : List BreakpointView}
    (shown : List.Forall₂ BreakpointView.Of (breakpoints.map PendingBreakpoint.line) views)
    (w : World) : ∃ told, changes (tellChanged breakpoints views w).2 = changes w ++ told ∧
      List.Forall₂ TellsOf breakpoints told := by
  induction breakpoints generalizing views w with
  | nil =>
      cases shown
      exact ⟨[], (List.append_nil _).symm, .nil⟩
  | cons b breakpoints ih =>
      cases shown with
      | @cons _ view _ views of others =>
          let w₁ : World := { w with queue := w.queue.push (.breakpointChanged b.id view) }
          obtain ⟨told, waits, tells⟩ := ih others w₁
          have pushed : changes w₁ = changes w ++ [(b.id, view)] := changes_push _ w
          refine ⟨(b.id, view) :: told, ?_, .cons ⟨rfl, of⟩ tells⟩
          show changes (tellChanged breakpoints views w₁).2 = _
          rw [waits, pushed, List.append_assoc, List.singleton_append]

def finds (path : String) (x : DebugSession × World) : Bool := (findMethod path x.1 x.2).1.1.isOk

theorem changes_applyTurn (document : String × List PendingBreakpoint) (d : DebugSession)
    (w : World) : ∃ told,
      changes (Staged.ends (applyTurn document) d w).2 = changes w ++ told ∧
        List.Forall₂ TellsOf (if finds document.1 (d, w) then document.2 else []) told := by
  obtain ⟨path, breakpoints⟩ := document
  let lines := breakpoints.map PendingBreakpoint.line
  have still : Still w _ := (consults_still.setBreakpoints path lines d w).world
  have shown := setBreakpoints_apply path lines d w
  rcases set : Debug.setBreakpoints path lines d w with ⟨⟨result, d'⟩, w'⟩
  have noted := noted_apply set .warn "pending breakpoints: "
  rw [ExceptT.run, Staged.ends_of set] at still
  rw [set] at shown
  rcases shown with ⟨e, missed, failed⟩ | ⟨method, views, found, answered, shown⟩
  · cases failed
    rw [Staged.ends, applyTurn, Staged.bind_of noted]
    refine ⟨[], ?_, ?_⟩
    · rw [List.append_nil]
      exact (still_logRecord _ _ _ w').changes.trans still.changes
    · rw [finds, missed]
      exact .nil
  · cases answered
    obtain ⟨told, waits, tells⟩ := changes_tellChanged shown w'
    rw [Staged.ends, applyTurn, Staged.bind_of noted]
    refine ⟨told, ?_, ?_⟩
    · rw [← still.changes]
      exact waits
    · rw [finds, found]
      exact tells

/-- The breakpoints that are told of: those of the documents whose methods are found, each in its
turn. -/
def toldOf : List (String × List PendingBreakpoint) → DebugSession × World → List PendingBreakpoint
  | [], _ => []
  | document :: documents, x =>
    (if finds document.1 x then document.2 else []) ++
      toldOf documents (Staged.ends (applyTurn document) x.1 x.2)

theorem changes_applyEach (documents : List (String × List PendingBreakpoint)) (c : Client)
    (w : World) : ∃ told,
      changes (Staged.ends (applyEach documents) c w).2 = changes w ++ told ∧
        List.Forall₂ TellsOf (toldOf documents (c.debug, w)) told := by
  induction documents generalizing c w with
  | nil => exact ⟨[], (List.append_nil _).symm, .nil⟩
  | cons document documents ih =>
      obtain ⟨first, waits, tells⟩ := changes_applyTurn document c.debug w
      rw [Staged.ends, applyEach_cons]
      rcases turn : Staged.ends (applyTurn document) c.debug w with ⟨d', w'⟩
      rw [turn] at waits
      obtain ⟨others, waits', tells'⟩ := ih { c with debug := d' } w'
      refine ⟨first ++ others, ?_, ?_⟩
      · rw [← List.append_assoc, ← waits]
        exact waits'
      · rw [toldOf, turn]
        exact List.rel_append tells tells'

/-! ## Logins and attachments -/

theorem still_login (params : LoginParams) : Along Still (Registry.login params).run :=
  Registry.login_along lasts_still still_logRecord
    (fun _ queue _ => congrArg (fun q : EventQueue => q.waiting.filterMap Event.change?) queue)
    (fun _ _ => rfl) (fun _ => rfl) params

theorem still_logIn (a : LaunchArguments) : Staged.Along (OnWorld Still) (logIn a).run :=
  onWorld_logIn lasts_still (fun _ _ => rfl) still_login a

theorem still_tellStopped (message : String) :
    Staged.Along (OnWorld Still) (tellStopped .exception message).run := by
  intro d w
  obtain ⟨result, _, told⟩ := tellStopped_apply .exception message d w
  rw [ExceptT.run, Staged.ends_of told]
  exact (changes_push _ w).trans (List.append_nil _)

theorem still_attach (id : Nat) (process : Oop) (message : String) :
    Staged.Along (OnWorld Still) (attach id process message).run :=
  onWorld_attach lasts_still still_logRecord still_tellStopped id process message

end Adapter.Client

end StoneDebug
