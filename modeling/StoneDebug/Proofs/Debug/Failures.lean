import StoneDebug.Proofs.Debug.Lifetimes

/-! # What a failure leaves behind

An attachment that is refused and a frame that is not restarted leave a debug session as it was. When
the client complains of a notice, all has been done. A step that the VM refuses has already cost the
frames and the variable handles, although the process has not run.
-/

namespace StoneDebug

namespace Debug

variable {s : Session} {d : DebugSession} {w w' : World} {process : Oop} {e : DebugError}

/-! ## Attaching -/

theorem client_of_tellStopped {reason : StopReason} {text : String}
    (failed : (tellStopped reason text d w).1.1 = .error e) :
    ∃ complaint, e = .client complaint := by
  obtain ⟨_, rfl | ⟨complaint, rfl⟩, told⟩ := tellStopped_apply reason text d w <;>
    rw [told] at failed <;> cases failed
  exact ⟨complaint, rfl⟩

theorem attachSession_refused {message : String} (other : ∀ text, e ≠ .client text)
    (failed : (attachSession s process message d w).1.1 = .error e) :
    attachSession s process message d w = ((.error e, d), w) := by
  have refuses {e' : DebugError}
      (refused : attachSession s process message d w = ((.error e', d), w)) :
      attachSession s process message d w = ((.error e, d), w) := by
    rw [refused] at failed ⊢
    cases failed
    rfl
  by_cases free : d.state = .unattached ∨ d.state = .detached
  · by_cases special : process.isSpecial = true
    · exact refuses (attachSession_of_special free s special message w)
    · rw [attachSession_anew free s special] at failed
      obtain ⟨text, complaint⟩ := client_of_tellStopped failed
      exact absurd complaint (other text)
  · exact refuses (attachSession_of_taken free s process message w)

theorem attach_refused {id : Nat} {message : String} (other : ∀ text, e ≠ .client text)
    (failed : (attach id process message d w).1.1 = .error e) :
    attach id process message d w = ((.error e, d), w) := by
  cases known : w.live.find? fun s => s.id == id with
  | none =>
      have unknown := attach_of_unknown known process message d
      rw [unknown] at failed ⊢
      cases failed
      rfl
  | some s =>
      rw [attach_of_known known] at failed ⊢
      exact attachSession_refused other failed

/-! ## Restarting a frame -/

theorem restartFrame_refused {level : Level} (other : ∀ text, e ≠ .client text)
    (failed : (restartFrame level d w).1.1 = .error e) :
    (restartFrame level d w).1.2 = d ∧ Spares Event.notice? w (restartFrame level d w).2 := by
  obtain ⟨w', _, quiet, ⟨_, _, refused⟩ | ⟨_, _, trimmed⟩⟩ := restartFrame_apply level d w
  · rw [refused]
    exact ⟨rfl, quiet⟩
  · rw [trimmed] at failed
    obtain ⟨text, complaint⟩ := client_of_tellStopped failed
    exact absurd complaint (other text)

/-- All that is lost are the frames and the variable handles. -/
theorem restartFrame_restarted {level : Level} (done : (restartFrame level d w).1.1 = .ok ()) :
    d.state ≠ .running ∧ d.process.isSome ∧ (restartFrame level d w).1.2 = { withoutFrames d with
      told := d.told ++ [.stopped .restart s!"restarted at level {level}"] } := by
  obtain ⟨w', _, _, ⟨e, _, refused⟩ | ⟨rests, attached, trimmed⟩⟩ := restartFrame_apply level d w
  · rw [refused] at done
    cases done
  · obtain ⟨result, _, told⟩ :=
      tellStopped_apply .restart s!"restarted at level {level}" (withoutFrames d) w'
    rw [trimmed, told]
    exact ⟨rests, attached, rfl⟩

/-! ## Stepping -/

/-- When a step cannot be armed the process stays as it is and the client is told of nothing. The debug
session is the same only if it had neither frames nor handles to lose. -/
theorem step_unarmed (kind : StepKind) (level : Level) {error : CallError}
    (rests : d.state ≠ .running) (attached : d.process = some process) (bound : d.session = some s)
    (refused : s.perform process kind.selector [levelOop level]
      (logRecord .debug "debugger" s!"step {kind.name} from level {level}" w).2 =
        (.error error, w')) :
    step kind level d w = ((.error (.call error), withoutFrames d), w') ∧
      Spares Event.notice? w w' ∧ (withoutFrames d = d ↔ d.handles = {} ∧ d.frames = []) := by
  let w₁ := (logRecord .debug "debugger" s!"step {kind.name} from level {level}" w).2
  let arm := s.perform process kind.selector [levelOop level]
  refine ⟨?_, ?_, ?_⟩
  · rw [step, Staged.attempt_bind_ok (suspended_of rests attached w),
      Staged.attempt_bind_ok (session_of bound w)]
    show (do discard (remote arm); resume s process : Debug Unit) (withoutFrames d) w₁ = _
    rw [discarded_remote_bind, show arm w₁ = _ from refused]
  · have logs := spares_logRecord (f := Event.notice?) (fun _ _ => rfl) .debug "debugger"
      s!"step {kind.name} from level {level}" w
    have arms : Spares Event.notice? w₁ (arm w₁).2 := spares_perform s process _ _ w₁
    rw [show arm w₁ = _ from refused] at arms
    exact (lasts_spares _).trans logs arms
  · constructor
    · intro same
      rw [← same]
      exact ⟨rfl, rfl⟩
    · rintro ⟨handles, frames⟩
      rw [withoutFrames, ← handles, ← frames]

theorem step_unarmed_rejected :
    let rejected : CallError := .vm { number := 2101, message := "no such level" }
    let w : World := {
      vm := fun _ _ c => match c with
        | .perform _ => .error rejected
        | c => Foreign.refuse (.other "") c
      horizon := 0 }
    let d : DebugSession :=
      { session := some ⟨1, ⟨9⟩, ""⟩, state := .stopped, process := some (.ofNat 257),
        handles := ⟨[.frameLocals 1]⟩ }
    (step .overSends 1 d w).1 = (.error (.call rejected), withoutFrames d) ∧ withoutFrames d ≠ d := by
  intro rejected w d
  obtain ⟨left, _, same⟩ := step_unarmed .overSends 1 (d := d) (w := w) (by decide) rfl rfl rfl
  rw [left]
  exact ⟨rfl, fun kept => nomatch (same.mp kept).1⟩

end Debug

namespace DebugSession

open Debug

/-- The VM does not let the process step, and yet the handle that was given before stands for nothing
any more. -/
theorem handle_lost_though_not_stepped :
    let rejected : CallError := .vm { number := 2101, message := "no such level" }
    let w : World := {
      vm := fun _ _ c => match c with
        | .perform send =>
          if send.selector = "_frameContentsAt:" then .ok (.ofNat 513) else .error rejected
        | .fetchSize _ => .ok 10
        | .fetchOops .. => .ok (List.replicate 10 .nil)
        | c => Foreign.refuse (.other "") c
      horizon := 0 }
    let d := after {} [(.attachSession ⟨1, ⟨9⟩, ""⟩ (.ofNat 257) "halted", w), (.scopes 1, w)]
    let ran := Debug.step .overSends 1 d w
    d.state = .stopped ∧ d.handles.get? 1 = some (.frameLocals 1) ∧
      ran.1.1 = .error (.call rejected) ∧ ran.1.2.told = d.told ∧ ran.1.2.handles.get? 1 = none := by
  intro rejected w d ran
  exact ⟨by decide +kernel, by decide +kernel, rfl, by decide +kernel, by decide +kernel⟩

/-! ## All or nothing -/

/-- Attaching and restarting a frame do all that they do or nothing, unless the client complains of the
notice at the end. -/
structure Atomic (d : DebugSession) : Prop where
  /-- A refused attachment does not ask the VM. -/
  attach : ∀ id process message w e, (∀ text, e ≠ .client text) →
    (Debug.attach id process message d w).1.1 = .error e →
      Debug.attach id process message d w = ((.error e, d), w)
  attachSession : ∀ s process message w e, (∀ text, e ≠ .client text) →
    (Debug.attachSession s process message d w).1.1 = .error e →
      Debug.attachSession s process message d w = ((.error e, d), w)
  refused : ∀ level w e, (∀ text, e ≠ .client text) →
    (Debug.restartFrame level d w).1.1 = .error e →
      (Debug.restartFrame level d w).1.2 = d ∧
        Spares Event.notice? w (Debug.restartFrame level d w).2
  restarted : ∀ level w, (Debug.restartFrame level d w).1.1 = .ok () →
    let d' := (Debug.restartFrame level d w).1.2
    d'.process = d.process ∧ d'.process.isSome ∧ d'.state = d.state ∧
      (d.Sound → d'.state = .stopped) ∧ d'.frames = [] ∧ d'.handles = {}

/-- Whatever the VM answers. -/
theorem atomic (d : DebugSession) : d.Atomic where
  attach id process message w e other failed := attach_refused other failed
  attachSession s process message w e other failed := attachSession_refused other failed
  refused level w e other failed := restartFrame_refused other failed
  restarted level w done := by
    obtain ⟨_, attached, left⟩ := restartFrame_restarted done
    rw [left]
    exact ⟨rfl, attached, rfl, fun sound => sound.stopped.mpr attached, rfl, rfl⟩

end DebugSession

end StoneDebug
