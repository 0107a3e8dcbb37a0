import StoneDebug.Proofs.Adapter.Serving
import StoneDebug.Proofs.Debug.Pervading

/-! # What commands do to the world

What pervades debugging holds along every command that a client gives, but for leaving: then the
launched session is logged out. The client goes on holding the session that it holds.
-/

namespace StoneDebug.Adapter.Client

open Debug

/-- The client holds the session that it held, and `P` holds. -/
structure Keeps (P : World → World → Prop) (x y : Client × World) : Prop where
  launched : y.1.launched = x.1.launched
  world : P x.2 y.2

variable {P : World → World → Prop} {α : Type} {s : Session}

theorem lasts_keeps (lasts : Lasts P) : Lasts (Keeps P) where
  refl x := ⟨rfl, lasts.refl x.2⟩
  trans h h' := ⟨h'.launched.trans h.launched, lasts.trans h.world h'.world⟩

theorem keeps_debugging {operation : Debugging α} (h : Staged.Along (OnWorld P) operation) :
    Staged.Along (Keeps P) (debugging operation) :=
  fun c w => ⟨rfl, h c.debug w⟩

theorem keeps_onDebug (lasts : Lasts P) {operation : Debug α}
    (h : Staged.Along (OnWorld P) operation.run) : Staged.Along (Keeps P) (onDebug operation).run :=
  .bind (lasts_keeps lasts) (keeps_debugging h) fun _ => .pure (lasts_keeps lasts) _


end StoneDebug.Adapter.Client

namespace StoneDebug.Debug.Pervades

open Adapter Adapter.Client

variable {P : World → World → Prop} {s : Session} (h : Pervades P)
include h

theorem serves : Serves (Keeps P) where
  toLasts := lasts_keeps h.toLasts
  notes notes := ⟨notes.launched, h.gathers notes.gathers⟩
  set path lines := keeps_debugging ((h.explores.setBreakpoints path lines).mono Holds.onWorld)
  setPending path lines := keeps_debugging
    ((h.explores.noted (h.explores.setBreakpoints path lines) _ _).mono Holds.onWorld)

theorem evaluates (hosts : s.Hosts P) : Evaluates s (Keeps P) where
  toServes := h.serves
  host along _ w := ⟨rfl, along hosts w⟩
  attach process message := keeps_debugging (h.attachSession s process message)

theorem terminates : Staged.Along (Keeps P) Client.terminate := by
  have lasts := lasts_keeps h.toLasts
  refine .bind lasts (.get lasts) fun c => .bind lasts (keeps_debugging h.terminate) fun _ => ?_
  split
  · exact fun _ w => ⟨rfl, h.pushes _ w⟩
  · exact .pure lasts _

theorem answer {command : Command} (stays : command ≠ .disconnect) :
    Staged.Along (Keeps P) (Client.answer command).run := by
  have lasts := lasts_keeps h.toLasts
  have pure {α : Type} (a : α) : Staged.Along (Keeps P) (Pure.pure a : Handling α).run :=
    .attemptPure lasts a
  have operates {α : Type} {act : Debug α} (along : Staged.Along (OnWorld P) act.run) :
      Staged.Along (Keeps P) (onDebug act).run := keeps_onDebug h.toLasts along
  have holds {α : Type} {act : Debug α} (along : Staged.Along (Holds P) act.run) :
      Staged.Along (Keeps P) (onDebug act).run := operates (along.mono Holds.onWorld)
  cases command with
  | attach a =>
      refine .attemptBind lasts (operates (h.attach _ _ _)) fun _ => ?_
      exact .attemptBind lasts (.lift h.serves.applyPending) fun _ => pure _
  | threads => exact .attemptBind lasts (.attemptGet lasts) fun _ => pure _
  | stackTrace start levels =>
      exact .attemptBind lasts (holds (h.explores.stackTrace _ _)) fun _ => pure _
  | scopes level => exact .attemptBind lasts (holds (h.explores.scopes _)) fun _ => pure _
  | expand reference window =>
      exact .attemptBind lasts (holds (h.explores.expand _ _)) fun _ => pure _
  | source reference => exact .attemptBind lasts (holds (h.explores.source _)) fun _ => pure _
  | step kind => exact .attemptBind lasts (holds (h.steers.step _ _)) fun _ => pure _
  | resume => exact .attemptBind lasts (holds h.steers.continueExecution) fun _ => pure _
  | restartFrame level => exact .attemptBind lasts (holds (h.steers.restartFrame _)) fun _ => pure _
  | evaluate expression level =>
      have evaluated := (h.explores.evaluate level expression).mono Holds.onWorld
      exact .attemptBind lasts (.lift (keeps_debugging evaluated)) fun _ => pure _
  | setBreakpoints path lines =>
      exact .attemptBind lasts (.lift (h.serves.setBreakpoints _ _)) fun _ => pure _
  | breakpointLocations path first last =>
      exact .attemptBind lasts (holds (h.explores.breakpointLocations _ _ _)) fun _ => pure _
  | terminate => exact .attemptBind lasts (.lift h.terminates) fun _ => pure _
  | disconnect => exact absurd rfl stays
  | introduce | launch | configurationDone => exact pure _

end StoneDebug.Debug.Pervades
