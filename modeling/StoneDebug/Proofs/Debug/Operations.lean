import StoneDebug.Proofs.Debug.Control

/-! # Sequences of operations

Whatever is done with a debug session, it stays sound, and without a process the operations that
need one are refused on the spot. Between two operations anything may happen to the world, so every
operation is given the world that it finds.
-/

namespace StoneDebug

inductive DebugOperation where
  | bind (s : Session)
  | attach (id : Nat) (process : Oop) (message : String)
  | attachSession (s : Session) (process : Oop) (message : String)
  | disconnect
  | terminate
  | stackTrace (start : Level) (count : Option UInt32)
  | frame (level : Level)
  | scopes (level : Level)
  | expand (reference : Int) (window : Window)
  | source (reference : Int)
  | step (kind : StepKind) (level : Level)
  | continueExecution
  | evaluate (level : Level) (text : String)
  | restartFrame (level : Level)
  | setBreakpoints (path : String) (lines : List Int)
  | breakpointLocations (path : String) (first last : Nat)
  | invalidateMethod (method : Oop)

namespace DebugOperation

open Debug

/-- Carries the operation out. Of its answer only the error matters here. -/
def run : DebugOperation → Debug Unit
  | bind s => Debug.bind s
  | attach id process message => Debug.attach id process message
  | attachSession s process message => Debug.attachSession s process message
  | disconnect => Debug.disconnect
  | terminate => Debug.terminate
  | stackTrace start count => discard (Debug.stackTrace start count)
  | frame level => discard (Debug.frame level)
  | scopes level => discard (Debug.scopes level)
  | expand reference window => discard (Debug.expand reference window)
  | source reference => discard (Debug.source reference)
  | step kind level => Debug.step kind level
  | continueExecution => Debug.continueExecution
  | evaluate level text => liftM (discard (Debug.evaluate level text))
  | restartFrame level => Debug.restartFrame level
  | setBreakpoints path lines => discard (Debug.setBreakpoints path lines)
  | breakpointLocations path first last => discard (Debug.breakpointLocations path first last)
  | invalidateMethod method => Debug.invalidateMethod method

/-- How the operation is refused without a process; `none` when it does not need one. -/
def refusal? : DebugOperation → Option DebugError
  | frame _ | scopes _ | step .. | continueExecution | restartFrame _ => some .notAttached
  | expand reference _ => some (.unknownVariables reference)
  | _ => none

/-! ## Kinds of operations -/

/-- The operations that only ask about the process or about methods. -/
def asks : DebugOperation → Bool
  | stackTrace .. | frame _ | scopes _ | expand .. | source _ | evaluate .. => true
  | setBreakpoints .. | breakpointLocations .. | invalidateMethod _ => true
  | _ => false

/-- The operations that let the process run or trim its stack. -/
def steers : DebugOperation → Bool
  | step .. | continueExecution | restartFrame _ => true
  | _ => false

variable {R : DebugSession × World → DebugSession × World → Prop} {op : DebugOperation}

theorem along_of_asks (h : Explores R) (asks : op.asks = true) : Staged.Along R op.run.run := by
  have discarded {α : Type} {act : Debug α} (along : Staged.Along R act.run) :
      Staged.Along R (discard act : Debug Unit).run :=
    .attemptDiscarded h.toLasts along
  cases op with
  | stackTrace start count => exact discarded (h.stackTrace start count)
  | frame level => exact discarded (h.frame level)
  | scopes level => exact discarded (h.scopes level)
  | expand reference window => exact discarded (h.expand reference window)
  | source reference => exact discarded (h.source reference)
  | evaluate level text => exact .lift (.discarded h.toLasts (h.evaluate level text))
  | setBreakpoints path lines => exact discarded (h.setBreakpoints path lines)
  | breakpointLocations path first last => exact discarded (h.breakpointLocations path first last)
  | invalidateMethod method => exact .lift (h.invalidateMethod method)
  | _ => cases asks

theorem along_of_steers (h : Steers R) (steers : op.steers = true) :
    Staged.Along R op.run.run := by
  cases op with
  | step kind level => exact h.step kind level
  | continueExecution => exact h.continueExecution
  | restartFrame level => exact h.restartFrame level
  | _ => cases steers

/-- `R` holds along what the operations are made of that give up the session or the process in use. -/
structure Governs (R : DebugSession × World → DebugSession × World → Prop) : Prop
    extends Lasts R where
  asks : ∀ op : DebugOperation, op.asks = true → Staged.Along R op.run.run
  steers : ∀ op : DebugOperation, op.steers = true → Staged.Along R op.run.run
  log : ∀ severity target text,
    Staged.Along R (liftM (logRecord severity target text) : Debugging Unit)
  bind : ∀ s, Staged.Along R (Debug.bind s)
  start : ∀ process message, Staged.Along R (modify fun d => { d with
    process := some process, message, handles := {}, frames := [], methods := {}, sources := [],
    state := .stopped } : Debugging PUnit)
  clearProcess : Staged.Along R Debug.clearProcess
  release : Staged.Along R (modify fun d => { d with
    state := if d.state = .unattached then .unattached else .detached
    process := none, session := none, handles := {}, frames := [], methods := {},
    sources := [], documents := [], classNames := [], labels := [] } : Debugging PUnit)
  tell : ∀ e, Staged.Along R (Debug.tell e)
  tellStopped : ∀ reason text, Staged.Along R (Debug.tellStopped reason text).run

namespace Governs

variable (h : Governs R)
include h

theorem attachSession (s : Session) (process : Oop) (message : String) :
    Staged.Along R (Debug.attachSession s process message).run :=
  attachSession_along h.toLasts h.log (h.bind s) process message (h.start process message)
    (h.tellStopped _ _)

theorem disconnect : Staged.Along R Debug.disconnect :=
  .bind h.toLasts h.clearProcess fun _ => h.release

theorem run (op : DebugOperation) : Staged.Along R op.run.run := by
  cases op with
  | bind s => exact .lift (h.bind s)
  | attach id process message =>
      refine .attemptBind h.toLasts (.lift fun d w => h.refl (d, w)) fun found => ?_
      split
      · exact .throw h.toLasts _
      · exact h.attachSession _ process message
  | attachSession s process message => exact h.attachSession s process message
  | disconnect => exact .lift h.disconnect
  | terminate =>
      refine .lift (.bind h.toLasts (.get h.toLasts) fun d => .bind h.toLasts h.disconnect fun _ => ?_)
      split
      · exact h.tell _
      · exact .pure h.toLasts _
  | step | continueExecution | restartFrame => exact h.steers _ rfl
  | _ => exact h.asks _ rfl

end Governs

/-! ## Soundness -/

/-- A sound debug session stays sound. -/
def KeepsSound (x y : DebugSession × World) : Prop := x.1.Sound → y.1.Sound

theorem keepsSound_of_works {act : Debugging (Except DebugError Unit)}
    (works : Staged.Along Works act) : Staged.Along KeepsSound act :=
  works.mono fun h => h.sound

theorem keepsSound_of_inspects {α : Type} {act : Debug α}
    (inspects : Staged.Along Inspects act.run) : Staged.Along KeepsSound (discard act).run :=
  keepsSound_of_works (.attemptDiscarded lasts_works (inspects.mono Inspects.toWorks))

theorem keepsSound_of_reads {α : Type} {act : Debug α} (reads : Staged.Along Reads act.run) :
    Staged.Along KeepsSound (discard act).run :=
  keepsSound_of_inspects (reads.mono Reads.toInspects)

theorem keepsSound_run (op : DebugOperation) : Staged.Along KeepsSound op.run.run := by
  cases op with
  | bind s =>
      intro d w sound
      have bound : (Debug.bind s : Debug Unit) d w = ((.ok (), d.boundTo s), w) :=
        Staged.attempt_lift_of (bind_apply s d w)
      rw [run, ExceptT.run, Staged.ends_of bound]
      exact sound.boundTo s
  | attach id process message =>
      intro d w sound
      rcases attach_apply id process message d w with ⟨e, same⟩ | ⟨_, s, _, d', w', _, ran, anew, _⟩
      · rw [run, ExceptT.run, Staged.ends_of same]
        exact sound
      · rw [run, ExceptT.run, Staged.ends_of ran]
        exact anew.sound
  | attachSession s process message =>
      intro d w sound
      rcases attachSession_apply s process message d w with ⟨e, same⟩ | ⟨_, _, d', w', ran, anew, _⟩
      · rw [run, ExceptT.run, Staged.ends_of same]
        exact sound
      · rw [run, ExceptT.run, Staged.ends_of ran]
        exact anew.sound
  | disconnect => exact .lift (letGo_disconnect.mono fun letGo _ => letGo.sound)
  | terminate => exact .lift (letGo_terminate.mono fun letGo _ => letGo.sound)
  | stackTrace start count => exact keepsSound_of_inspects (observes_inspects.stackTrace start count)
  | frame level => exact keepsSound_of_inspects (inspects_frame level)
  | scopes level => exact keepsSound_of_inspects (inspects_scopes level)
  | expand reference window => exact keepsSound_of_inspects (inspects_expand reference window)
  | source reference => exact keepsSound_of_reads (consults_reads.source reference)
  | step kind level => exact keepsSound_of_works (works_step kind level)
  | continueExecution => exact keepsSound_of_works works_continueExecution
  | evaluate level text =>
      have evaluates := Staged.Along.discarded lasts_inspects (observes_inspects.evaluate level text)
      exact keepsSound_of_works (.lift (evaluates.mono Inspects.toWorks))
  | restartFrame level => exact keepsSound_of_works (works_restartFrame level)
  | setBreakpoints path lines => exact keepsSound_of_reads (consults_reads.setBreakpoints path lines)
  | breakpointLocations path first last =>
      exact keepsSound_of_reads (consults_reads.breakpointLocations path first last)
  | invalidateMethod method =>
      exact keepsSound_of_works (.lift ((consults_reads.invalidateMethod method).mono Reads.toWorks))

end DebugOperation

/-! ## Without a process -/

namespace DebugSession

open Debug DebugOperation

/-- The operations that need a process fail. They ask nothing of the VM and change nothing. -/
def Refuses (d : DebugSession) : Prop :=
  ∀ (op : DebugOperation) (e : DebugError) (w : World), op.refusal? = some e →
    op.run d w = ((.error e, d), w)

variable {d : DebugSession}

theorem Sound.suspended (sound : d.Sound) (free : d.process = none) (w : World) :
    suspended d w = ((.error .notAttached, d), w) := by
  have rests := sound.rests
  rw [suspended_apply, free]
  cases state : d.state with
  | running => exact absurd state rests
  | _ => rfl

theorem Sound.refuses (sound : d.Sound) (free : d.process = none) : d.Refuses := by
  intro op e w refusal
  have bare := sound.bare free
  have suspended := sound.suspended free w
  -- `frame` and `expand` look into their tables first, which are empty without a process.
  cases op with
  | frame level =>
      cases refusal
      exact Staged.attempt_bind_error (frame_of_bare bare level suspended)
  | scopes level =>
      cases refusal
      have scopes : scopes level d w = ((.error .notAttached, d), w) :=
        Staged.attempt_bind_error (frame_of_bare bare level suspended)
      exact Staged.attempt_bind_error scopes
  | expand reference window =>
      cases refusal
      exact Staged.attempt_bind_error (expand_of_bare bare reference window w)
  | step | continueExecution | restartFrame =>
      cases refusal
      exact Staged.attempt_bind_error suspended
  | _ => cases refusal

/-! ## Sequences -/

def after (d : DebugSession) : List (DebugOperation × World) → DebugSession
  | [] => d
  | (op, w) :: ops => after (op.run d w).1.2 ops

theorem Sound.after (sound : d.Sound) (ops : List (DebugOperation × World)) :
    (d.after ops).Sound := by
  induction ops generalizing d with
  | nil => exact sound
  | cons step ops ih =>
      obtain ⟨op, w⟩ := step
      exact ih (keepsSound_run op d w sound)

/-- A debug session is sound after any operations, whatever the VM and the client answer. Without a
process it refuses what needs one. -/
theorem sound_after (listener : Listener) (ops : List (DebugOperation × World)) :
    let d := after { listener } ops
    d.Sound ∧ (d.process = none → d.Refuses) :=
  have sound := (sound_fresh listener).after ops
  ⟨sound, sound.refuses⟩

end DebugSession

end StoneDebug
