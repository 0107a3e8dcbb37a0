import StoneDebug.Foreign.Reply
import StoneDebug.Proofs.Debug.Operations
import StoneDebug.Proofs.Oop.Codec
import StoneDebug.Proofs.Session.Busy

/-! # What is attached to

The attached process comes from three places: from the client that attaches to it, from the VM where
a resumed process stops again, and from what was attached before. It is an object of the VM, unless
the client attaches to the illegal reference, which attaching does not refuse, or the VM says that a
process has stopped and names a reference for it that is itself the object.
-/

namespace StoneDebug

namespace Oop

/-- The reference is that of an object on the heap of the VM. -/
def IsObject (o : Oop) : Prop := o.kind = .heapRef o.raw

theorem isObject_iff {o : Oop} : o.IsObject ↔ o.isSpecial = false ∧ o.isIllegal = false := by
  have special : o.isSpecial = false ↔ o.toNat % 8 = 1 := by simp [isSpecial, tag]
  have illegal : o.isIllegal = false ↔ o.toNat ≠ 1 := by
    rw [← Bool.not_eq_true, isIllegal_iff]
  rw [special, illegal, IsObject, kind_apply]
  split
  · simp_all
  · split
    · simp_all
    · next untagged =>
        -- No other kind is that of a heap reference.
        simp only [untagged, false_and, iff_false]
        repeat' split
        all_goals simp

end Oop

/-! ## Where the VM says that a process has stopped -/

/-- The process in which a resumed process has stopped, as the VM names it. -/
def Exchange.stoppedIn? : Exchange → Option Oop
  | ⟨_, .continueWith .., .error e⟩ => e.process?
  | _ => none

theorem ErrorRecord.isIllegal_of_process? {record : ErrorRecord} {p : Oop}
    (named : record.process? = some p) : p.isIllegal = false := by
  unfold ErrorRecord.process? at named
  split at named
  · cases named
  · next passed =>
      cases named
      simp only [Bool.or_eq_true, not_or, Bool.not_eq_true] at passed
      exact passed.1.2

theorem CallError.isIllegal_of_process? {e : CallError} {p : Oop}
    (named : e.process? = some p) : p.isIllegal = false :=
  let ⟨_, _, named⟩ := Option.bind_eq_some_iff.mp named
  ErrorRecord.isIllegal_of_process? named

theorem Exchange.isIllegal_of_stoppedIn? {x : Exchange} {p : Oop}
    (named : x.stoppedIn? = some p) : p.isIllegal = false := by
  unfold Exchange.stoppedIn? at named
  split at named
  · exact CallError.isIllegal_of_process? named
  · cases named

/-- The exchange does not say so. -/
def Exchange.Mute (x : Exchange) : Prop := x.stoppedIn? = none

namespace Session

variable {s : Session} {w w' : World}

theorem mute_of_drains (s : Session) (c : Call) (reply : c.Reply) (drains : c.drains = true) :
    Exchange.Mute ⟨some s.handle, c, reply⟩ := by
  cases c <;> first | rfl | cases drains

theorem perform_mute (s : Session) (receiver : Oop) (selector : String) (args : List Oop) :
    Along (Adds Exchange.Mute) (s.perform receiver selector args).run :=
  .attemptBind (lasts_adds _) (s.ensureIdle_adds s.mute_of_drains) fun _ => Adds.ask fun _ => rfl

/-- Resuming a process is refused, or it is the last call, and its reply is the result. -/
theorem continueProcess_apply {process : Oop} {result : Except CallError Oop}
    (ran : s.continueProcess process w = (result, w')) :
    ∃ earlier, (∀ x ∈ earlier, x.Mute) ∧
      (result = .error .sessionBusy ∧ w'.transcript = w.transcript ++ earlier ∨
        w'.transcript =
          w.transcript ++ (earlier ++ [⟨some s.handle, .continueWith process .illegal 0, result⟩])) :=
  request_apply s.mute_of_drains
    (fun reply => ⟨some s.handle, .continueWith process .illegal 0, reply⟩) (fun _ => rfl) ran

end Session

/-! ## What a resumption makes of the process -/

namespace Debug

/-- Where the VM says that a resumed process has stopped, that is the process; otherwise it is the
same as before, or none. -/
def Follows (x y : DebugSession × World) : Prop :=
  ∃ added, y.2.transcript = x.2.transcript ++ added ∧
    match (added.filterMap Exchange.stoppedIn?).getLast? with
    | some process => y.1.process = some process
    | none => y.1.process = x.1.process ∨ y.1.process = none

theorem filterMap_of_mute {added : List Exchange} (mute : ∀ x ∈ added, x.Mute) :
    added.filterMap Exchange.stoppedIn? = [] :=
  List.filterMap_eq_nil_iff.mpr mute

/-- What was asked before says nothing of the process. -/
theorem Follows.after_mute {x y z : DebugSession × World} (same : y.1.process = x.1.process)
    (mute : Adds Exchange.Mute x.2 y.2) (follows : Follows y z) : Follows x z := by
  obtain ⟨first, asked, mute⟩ := mute
  obtain ⟨added, later, process⟩ := follows
  refine ⟨first ++ added, by rw [later, asked, List.append_assoc], ?_⟩
  rw [List.filterMap_append, filterMap_of_mute mute, List.nil_append, ← same]
  exact process

theorem follows_of_mute {x y : DebugSession × World} (mute : Adds Exchange.Mute x.2 y.2)
    (same : y.1.process = x.1.process ∨ y.1.process = none) : Follows x y := by
  obtain ⟨added, asked, mute⟩ := mute
  refine ⟨added, asked, ?_⟩
  rw [filterMap_of_mute mute]
  exact same

variable {s : Session} {process : Oop} {d : DebugSession} {w : World}

/-- A failed run leaves the process that the error names, or the one that was attached. -/
theorem settle_error_apply (e : CallError) (d : DebugSession) (w : World) :
    (settle (.error e) d w).1.2.process = e.process?.or d.process ∧
      (settle (.error e) d w).2.transcript = w.transcript := by
  cases e with
  | vm record =>
      obtain ⟨answer, told⟩ := settle_stopped record d w
      rw [told]
      exact ⟨rfl, rfl⟩
  | _ => exact ⟨rfl, rfl⟩

theorem follows_resume (s : Session) (process : Oop) :
    Staged.Along Follows (resume s process).run := by
  intro d w
  rcases continued : s.continueProcess process w with ⟨result, w'⟩
  have same : resume s process d w = settle result { d with state := .running } w' := by
    show settle (s.continueProcess process w).1 { d with state := .running }
      (s.continueProcess process w).2 = _
    rw [continued]
  rw [ExceptT.run, Staged.ends, same]
  obtain ⟨earlier, mute, ⟨rfl, asked⟩ | asked⟩ := Session.continueProcess_apply continued
  · exact follows_of_mute ⟨earlier, asked, mute⟩ (.inl rfl)
  · refine .after_mute (y := (d, { w with transcript := w.transcript ++ earlier })) rfl
      ⟨earlier, rfl, mute⟩ ?_
    rw [← List.append_assoc] at asked
    cases result with
    | ok value => exact ⟨_, asked, .inr rfl⟩
    | error e =>
        obtain ⟨left, quiet⟩ := settle_error_apply e { d with state := .running } w'
        refine ⟨_, quiet.trans asked, ?_⟩
        cases named : e.process? with
        | none =>
            rw [named] at left
            simpa [Exchange.stoppedIn?, named] using .inl left
        | some stopped =>
            rw [named] at left
            simpa [Exchange.stoppedIn?, named] using left

/-- What needs a suspended process leaves it where it is when it is refused. -/
theorem follows_of_suspended {next : Oop → Session → Debug Unit}
    (follows : ∀ process s, Staged.Along Follows (next process s).run) :
    Staged.Along Follows (do
      let process ← suspended
      let s ← session
      next process s).run := by
  intro d w
  rcases ready_cases d w with ⟨e, _, refused⟩ | ⟨process, s, _, _, _, goes⟩
  · rw [ExceptT.run, Staged.ends_of (refused next)]
    exact follows_of_mute ((lasts_adds _).refl w) (.inl rfl)
  · rw [ExceptT.run, Staged.ends, goes next]
    exact follows process s d w

theorem follows_continueExecution : Staged.Along Follows continueExecution.run :=
  follows_of_suspended fun process s d w => follows_resume s process (withoutFrames d) w

theorem follows_step (kind : StepKind) (level : Level) :
    Staged.Along Follows (step kind level).run := by
  refine follows_of_suspended fun process s d w => ?_
  let w₁ := (logRecord .debug "debugger" s!"step {kind.name} from level {level}" w).2
  let arm := s.perform process kind.selector [levelOop level]
  have mute : Adds Exchange.Mute w₁ (arm w₁).2 := s.perform_mute _ _ _ w₁
  show Follows (d, w) (Staged.ends (do discard (remote arm); resume s process : Debug Unit).run
    (withoutFrames d) w₁)
  rw [ExceptT.run, Staged.ends, discarded_remote_bind]
  rcases armed : arm w₁ with ⟨e | value, w₂⟩
  · rw [armed] at mute
    exact follows_of_mute mute (.inl rfl)
  · rw [armed] at mute
    exact .after_mute (y := (withoutFrames d, w₂)) rfl mute
      (follows_resume s process (withoutFrames d) w₂)

end Debug

/-! ## Operations -/

namespace DebugSession

/-- What is attached to is an object. -/
def Real (d : DebugSession) : Prop := ∀ process, d.process = some process → process.IsObject

variable {d d' : DebugSession}

theorem Real.of_process (real : d.Real) (same : d'.process = d.process ∨ d'.process = none) :
    d'.Real := by
  intro process attached
  rcases same with same | free
  · exact real process (same ▸ attached)
  · cases free.symm.trans attached

theorem real_of_process {process : Oop} (attached : d.process = some process) :
    d.Real ↔ process.IsObject :=
  ⟨fun real => real process attached, fun object _ attached' =>
    Option.some.inj (attached.symm.trans attached') ▸ object⟩

end DebugSession

namespace DebugOperation

open Debug DebugSession

def resumes : DebugOperation → Bool
  | step .. | continueExecution => true
  | _ => false

def exchanges (op : DebugOperation) (d : DebugSession) (w : World) : List Exchange :=
  (op.run d w).2.transcript.drop w.transcript.length

/-- What is attached to is no reference to an object: the client asks for the illegal one and is not
refused for another reason, or a process is resumed and the VM names an immediate value as the process
in which it has stopped. -/
inductive Misleads (d : DebugSession) (w : World) : DebugOperation → Prop
  | attach {id : Nat} {s : Session} {message : String}
      (free : d.state = .unattached ∨ d.state = .detached)
      (known : w.live.find? (fun s => s.id == id) = some s) : Misleads d w (.attach id .illegal message)
  | attachSession {s : Session} {message : String}
      (free : d.state = .unattached ∨ d.state = .detached) :
      Misleads d w (.attachSession s .illegal message)
  | stops {op : DebugOperation} {p : Oop} (resumes : op.resumes = true)
      (named : ((op.exchanges d w).filterMap Exchange.stoppedIn?).getLast? = some p)
      (special : p.isSpecial = true) : Misleads d w op

variable {d : DebugSession} {w : World}

/-- The operations that neither attach nor let the process run keep it or give it up. -/
theorem process_run {op : DebugOperation} (rests : op.resumes = false)
    (attach : ∀ id process message, op ≠ .attach id process message)
    (attachSession : ∀ s process message, op ≠ .attachSession s process message) :
    (op.run d w).1.2.process = d.process ∨ (op.run d w).1.2.process = none := by
  cases asks : op.asks with
  | true => exact .inl (along_of_asks explores_looks asks d w).process
  | false =>
      cases op with
      | bind s =>
          have bound : (Debug.bind s : Debug Unit) d w = ((.ok (), d.boundTo s), w) :=
            Staged.attempt_lift_of (bind_apply s d w)
          rw [run, bound]
          exact .inl (d.process_boundTo s)
      | attach => exact absurd rfl (attach _ _ _)
      | attachSession => exact absurd rfl (attachSession _ _ _)
      | disconnect => exact .inr (letGo_disconnect d w).bare.process
      | terminate => exact .inr (letGo_terminate d w).bare.process
      | step | continueExecution => cases rests
      | restartFrame level => exact .inl (looks_restartFrame level d w).process
      | _ => cases asks

theorem follows_run {op : DebugOperation} (resumes : op.resumes = true) :
    Follows (d, w) (Staged.ends op.run.run d w) := by
  cases op with
  | step kind level => exact follows_step kind level d w
  | continueExecution => exact follows_continueExecution d w
  | _ => cases resumes

/-! ## What an operation makes of the process -/

theorem real_of_rests {op : DebugOperation} (real : d.Real) (rests : op.resumes = false)
    (attach : ∀ id process message, op ≠ .attach id process message)
    (attachSession : ∀ s process message, op ≠ .attachSession s process message) :
    (op.run d w).1.2.Real ↔ ¬Misleads d w op := by
  refine iff_of_true (real.of_process (process_run rests attach attachSession)) ?_
  intro misleads
  cases misleads with
  | attach => exact attach _ _ _ rfl
  | attachSession => exact attachSession _ _ _ rfl
  | stops resumes => cases rests.symm.trans resumes

theorem real_of_resumes {op : DebugOperation} (real : d.Real) (resumes : op.resumes = true) :
    (op.run d w).1.2.Real ↔ ¬Misleads d w op := by
  obtain ⟨added, asked, process⟩ := follows_run (d := d) (w := w) resumes
  have exchanges : op.exchanges d w = added := by
    rw [DebugOperation.exchanges, show (op.run d w).2.transcript = w.transcript ++ added from asked,
      List.drop_left]
  have misleads : Misleads d w op ↔
      ∃ p, (added.filterMap Exchange.stoppedIn?).getLast? = some p ∧ p.isSpecial = true := by
    rw [← exchanges]
    constructor
    · intro misleads
      cases misleads with
      | attach | attachSession => cases resumes
      | stops _ named special => exact ⟨_, named, special⟩
    · exact fun ⟨_, named, special⟩ => .stops resumes named special
  rw [misleads]
  cases named : (added.filterMap Exchange.stoppedIn?).getLast? with
  | none =>
      rw [named] at process
      exact iff_of_true (real.of_process process) (by simp)
  | some p =>
      rw [named] at process
      obtain ⟨x, _, spoken⟩ := List.mem_filterMap.mp (List.mem_of_getLast? named)
      have legal := x.isIllegal_of_stoppedIn? spoken
      have stopped : (op.run d w).1.2.process = some p := process
      rw [real_of_process stopped, Oop.isObject_iff]
      simp [legal]

theorem real_of_attachSession (real : d.Real) (s : Session) (process : Oop) (message : String) :
    (Debug.attachSession s process message d w).1.2.Real ↔
      ¬((d.state = .unattached ∨ d.state = .detached) ∧ process = .illegal) := by
  by_cases free : d.state = .unattached ∨ d.state = .detached
  · cases special : process.isSpecial with
    | true =>
        rw [attachSession_of_special free s special message w]
        refine iff_of_true real ?_
        rintro ⟨_, rfl⟩
        cases special
    | false =>
        have heap : ¬process.isSpecial = true := by rw [special]; decide
        obtain ⟨result, d', w', ran, attached, _⟩ := attachSession_of_heap free s heap message w
        have illegal : process.isIllegal = false ↔ process ≠ .illegal := by simp [Oop.isIllegal]
        rw [ran, real_of_process attached.process, Oop.isObject_iff, illegal]
        simp [special, free]
  · rw [attachSession_of_taken free]
    exact iff_of_true real fun misled => free misled.1

theorem real_run (real : d.Real) (op : DebugOperation) :
    (op.run d w).1.2.Real ↔ ¬Misleads d w op := by
  cases op with
  | attach id process message =>
      cases known : w.live.find? fun s => s.id == id with
      | none =>
          rw [run, attach_of_unknown known]
          refine iff_of_true real ?_
          intro misleads
          cases misleads with
          | attach _ found => cases known.symm.trans found
          | stops resumes => cases resumes
      | some s =>
          rw [run, attach_of_known known, real_of_attachSession real]
          apply not_congr
          constructor
          · rintro ⟨free, rfl⟩
            exact .attach free known
          · intro misleads
            cases misleads with
            | attach free => exact ⟨free, rfl⟩
            | stops resumes => cases resumes
  | attachSession s process message =>
      rw [run, real_of_attachSession real]
      apply not_congr
      constructor
      · rintro ⟨free, rfl⟩
        exact .attachSession free
      · intro misleads
        cases misleads with
        | attachSession free => exact ⟨free, rfl⟩
        | stops resumes => cases resumes
  | step | continueExecution => exact real_of_resumes real rfl
  | _ => exact real_of_rests real rfl (by simp) (by simp)

end DebugOperation

namespace DebugSession

open DebugOperation

theorem after_append (d : DebugSession) (earlier later : List (DebugOperation × World)) :
    d.after (earlier ++ later) = (d.after earlier).after later := by
  induction earlier generalizing d with
  | nil => rfl
  | cons step earlier ih => exact ih _

theorem Real.after {d : DebugSession} (real : d.Real) (ops : List (DebugOperation × World))
    (steady : ∀ earlier op w later, ops = earlier ++ (op, w) :: later →
      ¬Misleads (d.after earlier) w op) : (d.after ops).Real := by
  induction ops generalizing d with
  | nil => exact real
  | cons step ops ih =>
      obtain ⟨op, w⟩ := step
      have next := (real_run real op).mpr (steady [] op w ops rfl)
      exact ih next fun earlier op' w' later same =>
        steady ((op, w) :: earlier) op' w' later (by rw [same]; rfl)

/-- For every VM and all operations: what is attached to is an object in every state, exactly if no
operation misleads. -/
theorem real_unless_misled (listener : Listener) (ops : List (DebugOperation × World)) :
    (∀ earlier later, ops = earlier ++ later → (after { listener } earlier).Real) ↔
      ∀ earlier op w later, ops = earlier ++ (op, w) :: later →
        ¬Misleads (after { listener } earlier) w op := by
  have start : Real { listener } := nofun
  constructor
  · intro real earlier op w later same
    have before := real earlier ((op, w) :: later) same
    have after := real (earlier ++ [(op, w)]) later (by rw [same, List.append_assoc]; rfl)
    rw [after_append] at after
    exact (real_run before op).mp after
  · intro steady earlier later same
    refine start.after earlier fun before op w between within => ?_
    exact steady before op w (between ++ later) (by rw [same, within, List.append_assoc]; rfl)

/-- The illegal reference is attached to, and so is a SmallInteger that the VM names when the process
stops. -/
theorem attached_to_no_object :
    let w : World := {
      vm := fun _ _ c => match c with
        | .continueWith .. => .error (.vm { number := 2010, context := .ofSmallInt 1 })
        | c => Foreign.refuse (.other "") c
      horizon := 0 }
    let s : Session := ⟨1, ⟨9⟩, ""⟩
    let listener : Listener := fun _ => none
    let claimed := after { listener } [(.attachSession s .illegal "", w)]
    let stopped := after { listener }
      [(.attachSession s (.ofNat 257) "", w), (.continueExecution, w)]
    claimed.process = some .illegal ∧ ¬claimed.Real ∧
      stopped.process = some (.ofSmallInt 1) ∧ ¬stopped.Real := by
  intro w s listener claimed stopped
  have illegal : claimed.process = some .illegal := by decide +kernel
  have small : stopped.process = some (.ofSmallInt 1) := by decide +kernel
  refine ⟨illegal, ?_, small, ?_⟩
  · rw [real_of_process illegal]
    exact nofun
  · rw [real_of_process small]
    exact nofun

end DebugSession

end StoneDebug
