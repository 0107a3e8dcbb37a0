import StoneDebug.Proofs.Debug.FrameCache
import StoneDebug.Proofs.Debug.Process
import StoneDebug.Proofs.Debug.Traces

/-! # Levels and depths on their way

Looking at a frame, stepping and restarting each name a stack level to the VM, in one message to the
attached process and with nothing else in it. Levels have 32 bits without a sign and go out with one;
the depth comes in as an integer of any size and is kept in 32 bits. Either way the number is right up to
a bound and another one beyond it.
-/

namespace StoneDebug

open Debug

/-! ## Messages among the exchanges -/

/-- The message that the VM was asked to send. -/
def Exchange.message? : Exchange → Option Send
  | ⟨_, .perform send, _⟩ => some send
  | _ => none

def Exchange.Silent (x : Exchange) : Prop := x.message? = none

def Sends (sent : List Send) (w w' : World) : Prop :=
  ∃ added, w'.transcript = w.transcript ++ added ∧ added.filterMap Exchange.message? = sent

variable {s : Session} {process : Oop} {selector : String} {level : Level} {d : DebugSession}
  {w w₁ w₂ : World} {sent : List Send}

theorem sends_of_silent (silent : Adds Exchange.Silent w w₁) : Sends [] w w₁ :=
  let ⟨added, asked, quiet⟩ := silent
  ⟨added, asked, List.filterMap_eq_nil_iff.mpr quiet⟩

theorem Sends.trans {sent' : List Send} (first : Sends sent w w₁) (second : Sends sent' w₁ w₂) :
    Sends (sent ++ sent') w w₂ := by
  obtain ⟨added, asked, rfl⟩ := first
  obtain ⟨later, asked', rfl⟩ := second
  exact ⟨added ++ later, by rw [asked', asked, List.append_assoc], List.filterMap_append⟩

theorem Sends.silently (sends : Sends sent w w₁) (silent : Adds Exchange.Silent w₁ w₂) :
    Sends sent w w₂ := by
  have both := sends.trans (sends_of_silent silent)
  rwa [List.append_nil] at both

theorem Sends.after_same (sends : Sends sent w₁ w₂) (same : w₁.transcript = w.transcript) :
    Sends sent w w₂ := by
  rwa [Sends, same] at sends

namespace Session

theorem silent_of_drains (s : Session) (c : Call) (reply : c.Reply) (drains : c.drains = true) :
    Exchange.Silent ⟨some s.handle, c, reply⟩ := by
  cases c <;> first | rfl | cases drains

theorem request_silent {α : Type} {act : Act (Except CallError α)}
    (silent : Along (Adds Exchange.Silent) act) :
    Along (Adds Exchange.Silent) (s.request act).run :=
  .attemptBind (lasts_adds _) (s.ensureIdle_adds s.silent_of_drains) fun _ => silent

theorem fetchAllOops_silent (oop : Oop) : Along (Adds Exchange.Silent) (s.fetchAllOops oop).run := by
  refine .attemptBind (lasts_adds _) (request_silent (Adds.ask fun _ => rfl)) fun size => ?_
  split
  · exact .attemptPure (lasts_adds _) _
  · exact Adds.ask fun _ => rfl

/-- A message is sent once, or the guard keeps it back. -/
theorem perform_sends (s : Session) (receiver : Oop) (selector : String) (args : List Oop)
    (w : World) :
    Sends [] w (s.perform receiver selector args w).2 ∨
      Sends [{ receiver, selector, args }] w (s.perform receiver selector args w).2 := by
  rcases ran : s.perform receiver selector args w with ⟨reply, w'⟩
  obtain ⟨earlier, silent, ⟨-, refused⟩ | asked⟩ := request_apply s.silent_of_drains
    (fun reply => ⟨some s.handle, .perform { receiver, selector, args }, reply⟩) (fun _ => rfl) ran
  · exact .inl (sends_of_silent ⟨earlier, refused, silent⟩)
  · refine .inr ⟨_, asked, ?_⟩
    rw [List.filterMap_append, List.filterMap_eq_nil_iff.mpr silent]
    rfl

theorem perform_sends_of_idle (receiver : Oop) (selector : String) (args : List Oop)
    (idle : w.callState s.id = .idle) :
    Sends [{ receiver, selector, args }] w (s.perform receiver selector args w).2 := by
  rcases ran : s.perform receiver selector args w with ⟨reply, w'⟩
  obtain rfl := perform_of_idle idle ran
  exact ⟨[_], rfl, rfl⟩

end Session

namespace Debug

/-! ## What follows a message -/

theorem settle_silent (result : Except CallError Oop) (d : DebugSession) (w : World) :
    Adds Exchange.Silent w (settle result d w).2 := by
  cases result with
  | ok value => exact .of_transcript_eq rfl
  | error e => exact .of_transcript_eq (settle_error_apply e d w).2

theorem resume_silent (s : Session) (process : Oop) (d : DebugSession) (w : World) :
    Adds Exchange.Silent w (resume s process d w).2 := by
  have continued : Adds Exchange.Silent w (s.continueProcess process w).2 :=
    Session.request_silent (Adds.ask fun _ => rfl) w
  exact (lasts_adds _).trans continued (settle_silent _ _ _)

/-- When a message is only sent for its effect, what comes then adds no other. -/
theorem silent_after_discarded (act : Attempt Oop) {next : Debug Unit}
    (silent : ∀ d w, Adds Exchange.Silent w (next d w).2) (d : DebugSession) (w : World) :
    Adds Exchange.Silent (act w).2 ((do discard (remote act); next : Debug Unit) d w).2 := by
  rw [discarded_remote_bind]
  rcases act w with ⟨e | value, w₁⟩
  · exact (lasts_adds _).refl w₁
  · exact silent d w₁

theorem fetchContents_silent (s : Session) (process : Oop) (level : Level) (w : World) :
    Adds Exchange.Silent (s.perform process "_frameContentsAt:" [levelOop level] w).2
      (fetchContents s process level w).2 := by
  rw [fetchContents, attempt_bind_apply]
  rcases s.perform process "_frameContentsAt:" [levelOop level] w with ⟨e | array, w₁⟩
  · exact (lasts_adds _).refl w₁
  · dsimp only
    split
    · exact (lasts_adds _).refl w₁
    · exact Along.attemptBind (lasts_adds _) (Session.fetchAllOops_silent array)
        (fun _ => .attemptPure (lasts_adds _) _) w₁

theorem discard_apply {α : Type} (act : Debug α) (d : DebugSession) (w : World) :
    ((discard act : Debug Unit) d w).2 = (act d w).2 := by
  rcases ran : act d w with ⟨⟨e | a, d'⟩, w'⟩
  · exact congrArg Prod.snd (Staged.attempt_bind_error ran)
  · exact congrArg Prod.snd (Staged.attempt_bind_ok ran)

end Debug

namespace DebugOperation

/-! ## Operations that name a level -/

/-- The operations that name a stack level to the VM, with the selector of the message that does. -/
inductive Names (level : Level) : DebugOperation → String → Prop
  | frame : Names level (.frame level) "_frameContentsAt:"
  | step (kind : StepKind) : Names level (.step kind level) kind.selector
  | restartFrame : Names level (.restartFrame level) "_trimStackToLevel:"

/-- The VM has to be asked, and there is a process to ask about. -/
structure Ready (op : DebugOperation) (s : Session) (process : Oop) (d : DebugSession) : Prop where
  rests : d.state ≠ .running
  attached : d.process = some process
  bound : d.session = some s
  unkept : ∀ level, op = .frame level → d.frames.lookup level = none ∧ level ≠ 0

variable {op : DebugOperation}

/-- A level is named first of all, and no message is sent after that. -/
theorem run_of_ready (names : op.Names level selector) (ready : op.Ready s process d) (w : World) :
    ∃ w₁, w₁.callState = w.callState ∧ w₁.transcript = w.transcript ∧
      Adds Exchange.Silent (s.perform process selector [levelOop level] w₁).2 (op.run d w).2 := by
  obtain ⟨rests, attached, bound, unkept⟩ := ready
  have goes (next : Oop → Session → Debug Unit) :
      (do next (← suspended) (← session) : Debug Unit) d w = next process s d w := by
    rw [Staged.attempt_bind_ok (suspended_of rests attached w),
      Staged.attempt_bind_ok (session_of bound w)]
  cases names with
  | frame =>
      obtain ⟨kept, zero⟩ := unkept level rfl
      refine ⟨w, rfl, rfl, ?_⟩
      rw [run, discard_apply, frame_of_unkept kept rests attached bound zero]
      exact fetchContents_silent s process level w
  | step kind =>
      let w₁ := (logRecord .debug "debugger" s!"step {kind.name} from level {level}" w).2
      refine ⟨w₁, rfl, rfl, ?_⟩
      rw [run, Debug.step, goes]
      exact silent_after_discarded _ (resume_silent s process) (withoutFrames d) w₁
  | restartFrame =>
      refine ⟨w, rfl, rfl, ?_⟩
      rw [run, Debug.restartFrame, goes]
      refine silent_after_discarded _ (fun d w => ?_) d w
      obtain ⟨result, _, told⟩ :=
        tellStopped_apply .restart s!"restarted at level {level}" (withoutFrames d) w
      exact .of_transcript_eq (congrArg (fun ran => ran.2.transcript) told)

/-- What needs a suspended process and no frame is refused without a call. -/
theorem refused_of_unready (other : ∀ level, op ≠ .frame level)
    (unready : ∀ s process, ¬op.Ready s process d) (next : Oop → Session → Debug Unit) (w : World) :
    ((do next (← suspended) (← session) : Debug Unit) d w).2 = w := by
  rcases ready_cases d w with ⟨e, _, refused⟩ | ⟨process, s, rests, attached, bound, _⟩
  · exact congrArg Prod.snd (refused next)
  · have ready : op.Ready s process d :=
      ⟨rests, attached, bound, fun level same => absurd same (other level)⟩
    exact absurd ready (unready s process)

theorem run_of_unready (names : op.Names level selector)
    (unready : ∀ s process, ¬op.Ready s process d) (w : World) : (op.run d w).2 = w := by
  cases names with
  | frame =>
      rw [run, discard_apply]
      rcases frame_cases level d w with ⟨f, _, ran⟩ | ⟨e, _, ran⟩ |
        ⟨process, s, kept, zero, rests, attached, bound, _⟩
      · rw [ran]
      · rw [ran]
      · refine absurd ⟨rests, attached, bound, fun other same => ?_⟩ (unready s process)
        cases same
        exact ⟨kept, zero⟩
  | step kind => exact refused_of_unready (by simp) unready _ w
  | restartFrame => exact refused_of_unready (by simp) unready _ w

def messages (op : DebugOperation) (d : DebugSession) (w : World) : List Send :=
  (asked op.run d w).filterMap Exchange.message?

theorem messages_of_sends (sends : Sends sent w (op.run d w).2) : op.messages d w = sent := by
  obtain ⟨added, asked, rfl⟩ := sends
  rw [messages, asked_of asked]

/-- What a word of 32 bits with a sign makes of a level. -/
def signed (level : Level) : Int :=
  if level.toNat < 2147483648 then level.toNat else level.toNat - 4294967296

theorem signed_eq_iff (level : Level) : signed level = level.toNat ↔ level.toNat < 2147483648 := by
  unfold signed
  split <;> omega

/-- How levels reach the VM and depths come from it. -/
structure Passing (d : DebugSession) (w : World) : Prop where
  /-- Only the attached process is told of a level, once, and of nothing else. -/
  only : ∀ op level selector, Names level op selector → op.messages d w = [] ∨
    ∃ process, d.process = some process ∧
      op.messages d w = [{ receiver := process, selector, args := [levelOop level] }]
  /-- It is told whenever it is there and the session is idle. -/
  told : ∀ op level selector s process, Names level op selector → op.Ready s process d →
    w.callState s.id = .idle →
    op.messages d w = [{ receiver := process, selector, args := [levelOop level] }]
  /-- What is told is the level exactly if the level is less than 2³¹. -/
  meant : ∀ level, (levelOop level).kind = .smallInt (signed level) ∧
    (signed level = level.toNat ↔ level.toNat < 2147483648)
  /-- A depth that is answered is reported as it is exactly if it is less than 2³². -/
  depth : ∀ s process answer w₁ (i : Nat), d.state ≠ .running → d.process = some process →
    d.session = some s → s.perform process "stackDepth" [] w = (.ok answer, w₁) →
    answer.kind = .smallInt i → ∃ depth, stackDepth d w = ((.ok depth, d), w₁) ∧
      depth.toNat = i % UInt32.size ∧ (depth.toNat = i ↔ i < UInt32.size)

/-- In every state, and whatever the VM answers. -/
theorem levels_passed (d : DebugSession) (w : World) : Passing d w := by
  refine ⟨fun op level selector names => ?_, fun op level selector s process names ready idle => ?_,
    fun level => ⟨?_, signed_eq_iff level⟩,
    fun s process answer w₁ i rests attached bound answered number => ?_⟩
  · by_cases found : ∃ s process, op.Ready s process d
    · obtain ⟨s, process, ready⟩ := found
      obtain ⟨w₁, _, same, silent⟩ := run_of_ready names ready w
      rcases s.perform_sends process selector [levelOop level] w₁ with kept | sends
      · exact .inl (messages_of_sends ((kept.silently silent).after_same same))
      · exact .inr ⟨process, ready.attached,
          messages_of_sends ((sends.silently silent).after_same same)⟩
    · have unready : ∀ s process, ¬op.Ready s process d :=
        fun s process ready => found ⟨s, process, ready⟩
      have kept : Sends [] w (op.run d w).2 := by
        rw [run_of_unready names unready w]
        exact sends_of_silent ((lasts_adds _).refl w)
      exact .inl (messages_of_sends kept)
  · obtain ⟨w₁, states, same, silent⟩ := run_of_ready names ready w
    have sends := Session.perform_sends_of_idle process selector [levelOop level] (states ▸ idle)
    exact messages_of_sends ((sends.silently silent).after_same same)
  · rw [kind_levelOop, toInt_toInt32, signed]
  · refine ⟨UInt32.ofNat i, stackDepth_of_smallInt rests attached bound answered number, ?_, ?_⟩
    · exact UInt32.toNat_ofNat'
    · rw [UInt32.toNat_ofNat']
      exact Nat.mod_eq_iff_lt (by decide)

/-- Level 2³¹ reaches the VM as another one, and a depth of 2³² is reported as none. -/
theorem levels_wrapped :
    let w : World := {
      vm := fun _ _ c => match c with
        | .perform _ => .ok (.ofSmallInt 4294967296)
        | c => Foreign.refuse (.other "") c
      horizon := 0 }
    let d : DebugSession :=
      { session := some ⟨1, ⟨9⟩, ""⟩, state := .stopped, process := some (.ofNat 257) }
    let level : Level := 2147483648
    (∀ op selector, Names level op selector → (op.messages d w).map (fun message =>
      (message.receiver, message.selector, message.args.map Oop.kind)) =
        [(.ofNat 257, selector, [.smallInt (-2147483648)])]) ∧
      (Oop.ofSmallInt level.toNat).kind = .smallInt 2147483648 ∧
      (Oop.ofSmallInt 4294967296).kind = .smallInt 4294967296 ∧
      (stackDepth d w).1.1.toOption = some 0 := by
  intro w d level
  refine ⟨fun op selector names => ?_, by decide +kernel, by decide +kernel, by decide +kernel⟩
  cases names with
  | step kind => cases kind <;> decide +kernel
  | _ => decide +kernel

end DebugOperation

end StoneDebug
