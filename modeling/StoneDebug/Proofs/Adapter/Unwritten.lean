import StoneDebug.Proofs.Adapter.History
import StoneDebug.Proofs.Adapter.Launching

/-! # What is done without writing

Commands are carried out in silence: all that a client is told about one is written before or after,
except that a launch writes its answer between logging in and evaluating.
-/

namespace StoneDebug.Adapter.Client

variable {α : Type}

/-! ## What the debug session and the launch do not touch -/

/-- `R` says nothing of the world, of the debug session and of what a launch has set. -/
structure Ignores (R : Client × World → Client × World → Prop) : Prop extends Lasts R where
  moved : ∀ (c : Client) (w w' : World) (debug : DebugSession) (launched : Option Nat)
    (logToClient : Bool), R (c, w) ({ c with debug, launched, logToClient }, w')

namespace Ignores

variable {R : Client × World → Client × World → Prop} (h : Ignores R)
include h

theorem act (act : Act α) : Staged.Along R (liftM act : Serving α) :=
  fun c w => h.moved c w _ c.debug c.launched c.logToClient

theorem debugging (operation : Debugging α) : Staged.Along R (debugging operation) :=
  fun c w => h.moved c w _ _ c.launched c.logToClient

theorem onDebug (operation : Debug α) : Staged.Along R (onDebug operation).run :=
  .bind h.toLasts (h.debugging _) fun _ => .pure h.toLasts _

theorem close : Staged.Along R close := by
  have unlog : Staged.Along R (do
      if (← get).logToClient then
        modify fun c => { c with logToClient := false }
        modifyThe World fun w => { w with queue := { w.queue with listening := none } }) := by
    refine .bind h.toLasts (.get h.toLasts) fun c => ?_
    split
    · exact .bind h.toLasts (fun c w => h.moved c w w c.debug c.launched false) fun _ => h.act _
    · exact .pure h.toLasts _
  refine .bind h.toLasts (h.debugging _) fun _ => .bind h.toLasts (.get h.toLasts) fun c => ?_
  split
  · exact unlog
  · refine .bind h.toLasts (fun c w => h.moved c w w c.debug none c.logToClient) fun _ => ?_
    refine .bind h.toLasts (h.act _) fun result => ?_
    exact .bind h.toLasts (.discarded h.toLasts (h.act _)) fun _ => unlog

theorem terminate : Staged.Along R terminate := by
  refine .bind h.toLasts (.get h.toLasts) fun c => .bind h.toLasts (h.debugging _) fun _ => ?_
  split
  · exact h.act _
  · exact .pure h.toLasts _

/-- Setting what was pending, once it has been taken from the client. -/
theorem applyEach (pending : List (String × List PendingBreakpoint)) :
    Staged.Along R (applyEach pending) :=
  along_applyEach h.toLasts (fun _ => h.act _) (fun _ _ => h.debugging _) pending

/-- Attaching sets what is pending, and breakpoints are numbered. -/
theorem answer {command : Command}
    (applies : ∀ a, command = .attach a → Staged.Along R applyPending)
    (sets : ∀ path lines, command = .setBreakpoints path lines →
      Staged.Along R (setBreakpoints path lines)) : Staged.Along R (answer command).run := by
  have lasts := h.toLasts
  have pure {α : Type} (a : α) : Staged.Along R (Pure.pure a : Handling α).run :=
    .attemptPure lasts a
  cases command with
  | attach a =>
      refine .attemptBind lasts (h.onDebug _) fun _ => ?_
      exact .attemptBind lasts (.lift (applies a rfl)) fun _ => pure _
  | threads => exact .attemptBind lasts (.attemptGet lasts) fun _ => pure _
  | stackTrace | scopes | expand | source | step | resume | restartFrame | breakpointLocations =>
      exact .attemptBind lasts (h.onDebug _) fun _ => pure _
  | evaluate => exact .attemptBind lasts (.lift (h.debugging _)) fun _ => pure _
  | setBreakpoints path lines =>
      exact .attemptBind lasts (.lift (sets path lines rfl)) fun _ => pure _
  | terminate => exact .attemptBind lasts (.lift h.terminate) fun _ => pure _
  | disconnect => exact .attemptBind lasts (.lift h.close) fun _ => pure _
  | introduce | launch | configurationDone => exact pure _

theorem logIn (a : LaunchArguments) : Staged.Along R (logIn a).run := by
  intro c w
  rcases logIn_cases a c w with ⟨_, same⟩ | ⟨_, logToClient, listening, same⟩
  · rw [ExceptT.run, Staged.ends_of same]
    exact h.refl (c, w)
  · rw [ExceptT.run, Staged.ends, same, logInWith_apply]
    split
    · exact h.moved c w _ c.debug c.launched logToClient
    · exact h.moved c w _ _ _ logToClient

theorem runExpression (s : Session) (expression : String) (stopOnError : Bool) :
    Staged.Along R (runExpression s expression stopOnError).run :=
  along_runExpression h.toLasts (fun _ => h.act _) (fun _ => h.act _) (fun _ _ => h.debugging _)
    expression stopOnError

end Ignores

/-! ## Silence -/

structure Unwritten (x y : Client × World) : Prop where
  wire : y.1.wire = x.1.wire
  nextSeq : y.1.nextSeq = x.1.nextSeq
  terminated : y.1.terminated = x.1.terminated

theorem lasts_unwritten : Lasts Unwritten where
  refl _ := ⟨rfl, rfl, rfl⟩
  trans h h' := ⟨h'.wire.trans h.wire, h'.nextSeq.trans h.nextSeq,
    h'.terminated.trans h.terminated⟩

theorem Notes.unwritten {x y : Client × World} (h : Notes x y) : Unwritten x y :=
  ⟨h.wire, h.nextSeq, h.terminated⟩

theorem Unwritten.answered {x y : Client × World} (h : Unwritten x y) :
    y.1.answered = x.1.answered := by
  rw [Client.answered, h.wire, Client.answered]

theorem ignores_unwritten : Ignores Unwritten where
  toLasts := lasts_unwritten
  moved _ _ _ _ _ _ := ⟨rfl, rfl, rfl⟩

theorem serves_unwritten : Serves Unwritten where
  toLasts := lasts_unwritten
  notes := Notes.unwritten
  set _ _ := ignores_unwritten.debugging _
  setPending _ _ := ignores_unwritten.debugging _

theorem evaluates_unwritten (s : Session) : Evaluates s Unwritten where
  toServes := serves_unwritten
  host _ _ _ := ⟨rfl, rfl, rfl⟩
  attach _ _ := ignores_unwritten.debugging _

theorem unwritten_close : Staged.Along Unwritten close := ignores_unwritten.close

theorem unwritten_answer (command : Command) : Staged.Along Unwritten (answer command).run :=
  ignores_unwritten.answer (fun _ _ => serves_unwritten.applyPending)
    fun _ _ _ => serves_unwritten.setBreakpoints _ _

theorem unwritten_logIn (a : LaunchArguments) : Staged.Along Unwritten (logIn a).run :=
  ignores_unwritten.logIn a

end StoneDebug.Adapter.Client
