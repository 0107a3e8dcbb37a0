import Mathlib.Data.List.Forall2
import StoneDebug.Proofs.Debug.Breakpoints
import StoneDebug.Proofs.Source.Lines

/-! # The breakpoints that a client is shown

A request for breakpoints is answered with one view for each line, in the order of the lines, whatever
the VM refuses: a breakpoint that was not set is shown on the line that was asked for, and one that
was set is not shown on an earlier line.
-/

namespace StoneDebug

open Source

/-- What is shown of a breakpoint that was asked for on this line. -/
structure BreakpointView.Of (line : Int) (view : BreakpointView) : Prop where
  unset : view.verified = false → view.line = line
  set : view.verified = true → line ≤ view.line

theorem BreakpointView.Of.unverified (line : Int) (message : String) :
    BreakpointView.Of line (.unverified line message) :=
  ⟨fun _ => rfl, nofun⟩

/-- The line table is that of the text. -/
def Source.MethodSource.Lined (m : MethodSource) : Prop := m.starts = lineStarts m.text.toList

/-- If there is a value, it has the property. -/
def Returns {α ε : Type} (P : α → Prop) (result : Except ε α) : Prop := ∀ a, result = .ok a → P a

theorem Yields.attemptBind {α β ε : Type} {P : β → Prop} {act : ExceptT ε Act α}
    {next : α → ExceptT ε Act β} (second : ∀ a, Yields (Returns P) (next a).run) :
    Yields (Returns P) (act >>= next).run := by
  intro w
  show Returns P ((act >>= next) w).1
  rw [attempt_bind_apply]
  rcases act w with ⟨e | a, w'⟩
  · exact nofun
  · exact second a w'

theorem Session.lined_fetchSource (s : Session) (method : Oop) :
    Yields (Returns MethodSource.Lined) (s.fetchSource method).run := by
  refine .attemptBind fun string => .attemptBind fun text => ?_
  refine .attemptBind fun array => .attemptBind fun oops => .attemptBind fun offsets => ?_
  intro w m made
  obtain rfl := Except.ok.inj made
  rfl

namespace Debug

variable {source : MethodSource}

theorem forall₂_unverifiedAll (lines : List Int) (message : String) :
    List.Forall₂ BreakpointView.Of lines (unverifiedAll lines message) := by
  induction lines with
  | nil => exact .nil
  | cons line lines ih => exact .cons (.unverified line message) ih

/-- What holds of each line's view holds of all. -/
theorem forall₂_viewsOf {P : Int → BreakpointView → Prop} {f : Int → Option LineMapping}
    {lines : List Int} {placings : List Placing}
    (mapped : placings.map Placing.mapping = lines.map f)
    (each : ∀ (line : Int) (p : Placing), p.mapping = f line → P line (p.view line)) :
    List.Forall₂ P lines (viewsOf lines placings) := by
  induction lines generalizing placings with
  | nil => exact .nil
  | cons line lines ih =>
      cases placings with
      | nil => cases mapped
      | cons p placings =>
          obtain ⟨first, others⟩ := List.cons.inj mapped
          exact .cons (each line p first) (ih others)

theorem view_of_mapped (lined : source.Lined) {line : Int} {p : Placing}
    (mapped : p.mapping = mapLine line source.starts source.stepOffsets) :
    BreakpointView.Of line (p.view line) := by
  rw [lined] at mapped
  match p, mapped with
  | none, _ => exact .unverified line _
  | some (_, .error _), _ => exact .unverified line _
  | some (_, .ok _), mapped => exact ⟨nofun, fun _ => le_of_mapLine mapped.symm⟩

theorem views_setMethodBreakpoints (s : Session) (path : String) (method : Oop) (lines : List Int) :
    Staged.Yields (fun views _ => List.Forall₂ BreakpointView.Of lines views)
      (setMethodBreakpoints s path method lines) := by
  intro d w
  obtain ⟨views, documents, w', ran, course⟩ := setMethodBreakpoints_apply s path method lines d w
  rw [ran]
  cases course with
  | uncleared | unfetched => exact forall₂_unverifiedAll lines _
  | emptied empty _ =>
      rw [empty]
      exact .nil
  | @set _ source _ w₁ _ _ _ _ _ fetched mapped _ _ =>
      have lined := s.lined_fetchSource method w₁
      rw [ExceptT.run, fetched] at lined
      exact forall₂_viewsOf mapped fun _ _ => view_of_mapped (lined source rfl)

/-- Finds the method that a path names, in the session in use. -/
def findMethod (path : String) : Debug Oop := do methodAt (← session) path

/-- Once the method is found there is a view for each line; otherwise there is none. -/
theorem setBreakpoints_apply (path : String) (lines : List Int) (d : DebugSession) (w : World) :
    (∃ e, (findMethod path d w).1.1 = .error e ∧ (setBreakpoints path lines d w).1.1 = .error e) ∨
      ∃ method views, (findMethod path d w).1.1 = .ok method ∧
        (setBreakpoints path lines d w).1.1 = .ok views ∧
        List.Forall₂ BreakpointView.Of lines views := by
  cases bound : d.session with
  | none =>
      have refused := session_of_none bound w
      rw [findMethod, setBreakpoints, Staged.attempt_bind_error refused,
        Staged.attempt_bind_error refused]
      exact .inl ⟨_, rfl, rfl⟩
  | some s =>
      have ready := session_of bound w
      rw [findMethod, setBreakpoints, Staged.attempt_bind_ok ready, Staged.attempt_bind_ok ready]
      rcases found : methodAt s path d w with ⟨⟨e | method, d'⟩, w'⟩
      · rw [Staged.attempt_bind_error found]
        exact .inl ⟨e, rfl, rfl⟩
      · rw [Staged.attempt_bind_ok found]
        exact .inr ⟨method, _, rfl, rfl, views_setMethodBreakpoints s path method lines d' w'⟩

end Debug

end StoneDebug
