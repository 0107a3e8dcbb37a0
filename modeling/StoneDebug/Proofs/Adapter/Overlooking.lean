import StoneDebug.Proofs.Adapter.Order

/-! # What writing does not touch

A relation that says nothing of what was written, besides ignoring the world and the debug session,
holds from the answer to a request to the end of its handling: by then all that is left is to write,
and to evaluate the expression of a launch.
-/

namespace StoneDebug.Adapter.Client

/-- Moreover `R` says nothing of what was written. -/
structure Overlooks (R : Client × World → Client × World → Prop) : Prop extends Ignores R where
  written : ∀ (c : Client) (w : World) (wire : List (Nat × Message)) (nextSeq seconds : Nat)
    (terminated : Bool), R (c, w) ({ c with wire, nextSeq, seconds, terminated }, w)

namespace Overlooks

variable {R : Client × World → Client × World → Prop} (h : Overlooks R)
include h

theorem send (message : Message) : Staged.Along R (send message) :=
  fun c w => h.written c w _ _ c.seconds c.terminated

theorem sendAside (a : Aside) : Staged.Along R (sendAside a) := by
  rcases a with ⟨title | elapsed | _⟩ | ⟨request, pause, accepted⟩
  · exact .bind h.toLasts (.get h.toLasts) fun c => h.send _
  · refine .bind h.toLasts (.get h.toLasts) fun c => ?_
    split
    · refine .bind h.toLasts (fun c w => ?_) fun _ => h.send _
      exact h.written c w c.wire c.nextSeq _ c.terminated
    · exact .pure h.toLasts _
  · exact .bind h.toLasts (.get h.toLasts) fun c => h.send _
  · exact h.send _

theorem sendAsides (asides : List Aside) : Staged.Along R (sendAsides asides) := by
  induction asides with
  | nil => exact .pure h.toLasts _
  | cons a asides ih => exact .bind h.toLasts (h.sendAside a) fun _ => ih

theorem flush : Staged.Along R flush :=
  .bind h.toLasts (fun c w => h.refl (c, w)) fun _ =>
    .bind h.toLasts (h.act _) fun _ => h.sendAsides _

theorem write (message : Message) : Staged.Along R (write message) :=
  .bind h.toLasts h.flush fun _ => h.send message

theorem writeEvent (e : Event) : Staged.Along R (writeEvent e) := by
  cases e with
  | terminated =>
      refine .bind h.toLasts (.get h.toLasts) fun c => ?_
      split
      · refine .bind h.toLasts (fun c w => ?_) fun _ => h.write _
        exact h.written c w c.wire c.nextSeq c.seconds true
      · exact .pure h.toLasts _
  | stopped | output | breakpointChanged => exact h.write _

theorem writeEvents (events : List Event) : Staged.Along R (writeEvents events) := by
  induction events with
  | nil => exact .pure h.toLasts _
  | cons e events ih => exact .bind h.toLasts (h.writeEvent e) fun _ => ih

theorem drainEvents : Staged.Along R drainEvents :=
  .bind h.toLasts (fun c w => h.refl (c, w)) fun _ =>
    .bind h.toLasts (h.act _) fun _ => h.writeEvents _

/-- What follows every request. -/
theorem closes (next : Next) : Staged.Along R (do
    if next ≠ .wait then Client.drainEvents
    Client.flush
    return next : Serving Next) := by
  have rest : Staged.Along R (do Client.flush; return next : Serving Next) :=
    .bind h.toLasts h.flush fun _ => .pure h.toLasts _
  dsimp only
  split
  · exact .bind h.toLasts h.drainEvents fun _ => rest
  · exact rest

/-- A request that was carried out is only written about. -/
theorem after_closing (e : Envelope) (x : Client × World) :
    R (closing e x) (Staged.ends (handle e) x.1 x.2) := by
  refine Staged.Along.after (perform e).run (fun result => ?_) x.1 x.2
  cases result with
  | ok next => exact h.closes next
  | error cause => exact .bind h.toLasts (h.write _) fun _ => h.closes .proceed

/-- Between its answer and its evaluation a launch only writes. -/
theorem after_logIn (e : Envelope) (a : LaunchArguments) (s : Session) (c : Client) (w : World) :
    R (Staged.ends applyPending c w) (Staged.ends (do
      openUp e
      Client.runExpression s a.expression a.stopOnError : Handling Next).run c w) := by
  have answers : Staged.Along R (do respond e none; Client.drainEvents : Serving Unit) :=
    .bind h.toLasts (h.write _) fun _ => h.drainEvents
  have opens : R (Staged.ends applyPending c w) (Staged.ends (openUp e) c w) :=
    Staged.Along.after applyPending (fun _ => answers) c w
  rcases opened : openUp e c w with ⟨⟨_, c₁⟩, w₁⟩
  have up : (liftM (openUp e) : Handling Unit) c w = ((.ok (), c₁), w₁) :=
    Staged.attempt_lift_of opened
  have ran : (do
      openUp e
      Client.runExpression s a.expression a.stopOnError : Handling Next) c w =
      Client.runExpression s a.expression a.stopOnError c₁ w₁ := Staged.attempt_bind_ok up
  have rest := h.runExpression s a.expression a.stopOnError c₁ w₁
  rw [Staged.ends_of opened] at opens
  rw [Staged.ends, ExceptT.run, ← ran] at rest
  exact h.trans opens rest

theorem after_opening (e : Envelope) (x : Client × World) :
    R (opening e x) (Staged.ends (handle e) x.1 x.2) := by
  refine h.trans ?_ (h.after_closing e x)
  obtain ⟨c, w⟩ := x
  cases read : Command.ofEnvelope e with
  | error cause =>
      rw [opening_of_error read, closing, ExceptT.run, Staged.ends_of (perform_of_error read c w)]
      exact h.refl (c, w)
  | ok command =>
      have replies (next : Next) : R (Staged.ends (Client.answer command).run c w)
          (Staged.ends (do
            let body ← Client.answer command
            respond e body
            return next : Handling Next).run c w) :=
        Staged.Along.attemptAfter h.toLasts (Client.answer command)
          (fun _ => .attemptBind h.toLasts (.lift (h.write _)) fun _ =>
            .attemptPure h.toLasts next) c w
      rw [closing, ExceptT.run, Staged.ends, perform_of_ok read]
      cases command with
      | launch a =>
          rw [opening_of_launch read, show dispatch e (.launch a) = launch e a from rfl, launch_eq,
            ExceptT.run, Staged.ends]
          rcases logged : Client.logIn a c w with ⟨⟨cause | s, c₁⟩, w₁⟩
          · rw [Staged.attempt_bind_error logged, Staged.attempt_bind_error logged]
            exact h.refl (c₁, w₁)
          · rw [Staged.attempt_bind_ok logged, Staged.attempt_bind_ok logged]
            exact h.after_logIn e a s c₁ w₁
      | introduce =>
          rw [opening_of_answer read (by simp)]
          have tells : Staged.Along R (dispatch e .introduce).run :=
            .attemptBind h.toLasts (.lift (h.write _)) fun _ =>
              .attemptBind h.toLasts (.lift (h.write _)) fun _ => .attemptPure h.toLasts _
          exact tells c w
      | disconnect =>
          rw [opening_of_answer read (by simp)]
          exact replies .leave
      | _ =>
          rw [opening_of_answer read (by simp)]
          exact replies .proceed

theorem receive_of_none {message : Json} (other : request? message = none) (c : Client)
    (w : World) : R (c.noted message, w) (Staged.ends (receive message) c w) :=
  (along_receive_of_none h.toLasts (fun _ _ _ => h.act _)
    (fun _ => .bind h.toLasts (h.act _) fun _ => h.flush) other c w).2

end Overlooks

end StoneDebug.Adapter.Client
