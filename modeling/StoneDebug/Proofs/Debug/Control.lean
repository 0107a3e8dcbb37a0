import StoneDebug.Proofs.Debug.Looking

/-! # Attaching, running and letting go

Between requests a debug session is `Sound`: it is stopped exactly when a process is attached, it
then has a session, and without a process nothing of one is kept. Running the process keeps to the
session that is in use; only binding and disconnecting change it.
-/

namespace StoneDebug

namespace DebugSession

/-- What holds of a debug session between requests. -/
structure Sound (d : DebugSession) : Prop where
  rests : d.state ≠ .running
  stopped : d.state = .stopped ↔ d.process.isSome
  bound : d.process.isSome → d.session.isSome
  bare : d.process = none → d.Bare

theorem sound_fresh (listener : Listener) : Sound { listener } where
  rests := by simp
  stopped := by simp
  bound := by simp
  bare _ := ⟨rfl, rfl, rfl⟩

/-- Bound to a session; what is kept about another one is dropped. -/
def boundTo (d : DebugSession) (s : Session) : DebugSession :=
  if d.session.map Session.id = some s.id then { d with session := some s }
  else
    { d with
      session := some s, methods := {}, sources := [], documents := [], classNames := [],
      labels := [] }

variable (d : DebugSession) (s : Session)

@[simp] theorem session_boundTo : (d.boundTo s).session = some s := by unfold boundTo; split <;> rfl

@[simp] theorem state_boundTo : (d.boundTo s).state = d.state := by unfold boundTo; split <;> rfl

@[simp] theorem process_boundTo : (d.boundTo s).process = d.process := by
  unfold boundTo; split <;> rfl

@[simp] theorem frames_boundTo : (d.boundTo s).frames = d.frames := by unfold boundTo; split <;> rfl

@[simp] theorem handles_boundTo : (d.boundTo s).handles = d.handles := by
  unfold boundTo; split <;> rfl

variable {d}

theorem Sound.boundTo (sound : d.Sound) : (d.boundTo s).Sound where
  rests := by simpa using sound.rests
  stopped := by simpa using sound.stopped
  bound _ := by simp
  bare free := by
    have bare := sound.bare (by simpa using free)
    exact ⟨by simpa using free, by simpa using bare.frames, by simpa using bare.handles⟩

end DebugSession

/-- All events are notices but output. -/
def Event.notice? : Event → Option Event
  | .output _ _ => none
  | e => some e

namespace Debug

variable {s : Session} {d : DebugSession} {w : World}

theorem bind_apply (s : Session) (d : DebugSession) (w : World) :
    bind s d w = (((), d.boundTo s), w) := by
  show ((if d.session.map Session.id = some s.id then _ else _) : Debugging Unit) d w = _
  unfold DebugSession.boundTo
  split <;> rfl

/-! ## Running -/

/-- The session stays and every call goes to it; a sound debug session stays sound. -/
structure Stays (x y : DebugSession × World) : Prop where
  session : y.1.session = x.1.session
  sound : x.1.Sound → y.1.Sound
  calls : Adds (Exchange.Within x.1.session) x.2 y.2

/-- Moreover no process is attached. -/
structure Works (x y : DebugSession × World) : Prop extends Stays x y where
  free : x.1.process = none → y.1.process = none

theorem lasts_stays : Lasts Stays where
  refl x := ⟨rfl, id, (lasts_adds _).refl x.2⟩
  trans {x y z} h h' := by
    have calls := h'.calls
    rw [h.session] at calls
    exact ⟨h'.session.trans h.session, h'.sound ∘ h.sound, (lasts_adds _).trans h.calls calls⟩

theorem lasts_works : Lasts Works where
  refl x := ⟨lasts_stays.refl x, id⟩
  trans h h' := ⟨lasts_stays.trans h.toStays h'.toStays, h'.free ∘ h.free⟩

theorem Inspects.toWorks {x y : DebugSession × World} (h : Inspects x y) : Works x y where
  session := h.session
  calls := h.calls
  free free := h.process.trans free
  sound sound :=
    { rests := h.state ▸ sound.rests
      stopped := by rw [h.state, h.process]; exact sound.stopped
      bound := by rw [h.process, h.session]; exact sound.bound
      bare free := h.bare (sound.bare (h.process ▸ free)) }

theorem Reads.toWorks {x y : DebugSession × World} (h : Reads x y) : Works x y :=
  h.toInspects.toWorks

/-- An operation for which the process must be suspended does nothing without one or without a
session. -/
theorem works_of_suspended {α : Type} {next : Oop → Session → Debug α}
    (h : ∀ d w process s, d.state ≠ .running → d.process = some process → d.session = some s →
      Stays (d, w) (Staged.ends (next process s) d w)) :
    Staged.Along Works (do
      let process ← suspended
      let s ← session
      next process s).run := by
  intro d w
  rcases ready_cases d w with ⟨e, _, refused⟩ | ⟨process, s, running, attached, bound, goes⟩
  · rw [ExceptT.run, Staged.ends_of (refused next)]
    exact lasts_works.refl (d, w)
  · rw [ExceptT.run, Staged.ends, goes next]
    exact ⟨h d w process s running attached bound, fun free => by simp [attached] at free⟩

/-- The process has been let go: it is attached, and nothing is kept of it. -/
structure Forgotten (d : DebugSession) : Prop where
  process : d.process.isSome
  session : d.session.isSome
  frames : d.frames = []
  handles : d.handles = {}

/-- Whether the client takes the notice or not, it is given. -/
theorem tellStopped_apply (reason : StopReason) (text : String) (d : DebugSession) (w : World) :
    ∃ result, (result = .ok () ∨ ∃ complaint, result = .error (.client complaint)) ∧
      tellStopped reason text d w =
        ((result, { d with told := d.told ++ [.stopped reason text] }),
          { w with queue := w.queue.push (.stopped reason text) }) := by
  let d₁ : DebugSession := { d with told := d.told ++ [.stopped reason text] }
  let w₁ : World := { w with queue := w.queue.push (.stopped reason text) }
  have told : (liftM (tell (.stopped reason text)) : Debug Unit) d w = ((.ok (), d₁), w₁) := rfl
  rw [tellStopped, Staged.attempt_bind_ok told, Staged.attempt_get_bind]
  cases d₁.listener d₁.told with
  | none => exact ⟨_, .inl rfl, rfl⟩
  | some complaint => exact ⟨_, .inr ⟨complaint, rfl⟩, rfl⟩

/-- A process that has stopped is kept as the error names it, and the client is told why. -/
theorem settle_stopped (record : ErrorRecord) (d : DebugSession) (w : World) :
    let reason := stopReason record.number
    let text := if reason = StopReason.exception then record.text else reason.name
    let w₁ := (logRecord .debug "debugger" s!"process stopped: {reason.name} ({record.text})" w).2
    ∃ answer, settle (.error (.vm record)) d w = ((answer, { d with
      process := record.process?.or d.process
      message := if reason = StopReason.exception then record.text else d.message
      state := .stopped
      told := d.told ++ [.stopped reason text] }),
      { w₁ with queue := w₁.queue.push (.stopped reason text) }) := by
  intro reason text w₁
  let d₁ : DebugSession := { d with
    process := record.process?.or d.process
    message := if reason = StopReason.exception then record.text else d.message
    state := .stopped }
  have same : settle (.error (.vm record)) d w = tellStopped reason text d₁ w₁ := rfl
  obtain ⟨answer, _, told⟩ := tellStopped_apply reason text d₁ w₁
  exact ⟨answer, same.trans told⟩

/-- What an attached process leaves when it runs no more. -/
theorem Forgotten.sound {d' : DebugSession} (forgotten : Forgotten d)
    (session : d'.session = d.session) (frames : d'.frames = d.frames)
    (handles : d'.handles = d.handles) (rests : d'.state ≠ .running)
    (stopped : d'.state = .stopped ↔ d'.process.isSome) : d'.Sound where
  rests := rests
  stopped := stopped
  bound _ := session ▸ forgotten.session
  bare free := ⟨free, frames.trans forgotten.frames, handles.trans forgotten.handles⟩

theorem settle_apply (forgotten : Forgotten d) (result : Except CallError Oop) (w : World) :
    (settle result d w).1.2.session = d.session ∧ (settle result d w).1.2.Sound ∧
      (settle result d w).2.transcript = w.transcript := by
  cases result with
  | ok value =>
      exact ⟨rfl, forgotten.sound rfl rfl rfl nofun ⟨nofun, nofun⟩, rfl⟩
  | error e =>
      cases e with
      | vm record =>
          obtain ⟨answer, told⟩ := settle_stopped record d w
          have attached : (record.process?.or d.process).isSome := by simp [forgotten.process]
          rw [told]
          exact ⟨rfl, forgotten.sound rfl rfl rfl nofun
            ⟨fun _ => attached, fun _ => rfl⟩, rfl⟩
      | _ =>
          exact ⟨rfl, forgotten.sound rfl rfl rfl nofun
            ⟨fun _ => forgotten.process, fun _ => rfl⟩, rfl⟩

theorem adds_within {s : Session} (bound : d.session = some s) {w w' : World}
    (calls : Adds s.Own w w') : Adds (Exchange.Within d.session) w w' :=
  calls.mono fun _ own => ⟨s, bound, own⟩

theorem resume_apply (process : Oop) (forgotten : Forgotten d) (bound : d.session = some s)
    (w : World) :
    (resume s process d w).1.2.session = d.session ∧ (resume s process d w).1.2.Sound ∧
      Adds (Exchange.Within d.session) w (resume s process d w).2 := by
  rcases run : s.continueProcess process w with ⟨result, w'⟩
  have same : resume s process d w = settle result { d with state := .running } w' := by
    show settle (s.continueProcess process w).1 { d with state := .running }
      (s.continueProcess process w).2 = _
    rw [run]
  obtain ⟨session, sound, quiet⟩ := settle_apply (d := { d with state := .running })
    ⟨forgotten.process, forgotten.session, forgotten.frames, forgotten.handles⟩ result w'
  have calls : Adds s.Own w w' := by
    simpa [ExceptT.run, run] using s.carries_own.continueProcess process w
  rw [same]
  exact ⟨session, sound, (lasts_adds _).trans (adds_within bound calls) (.of_transcript_eq quiet)⟩

def withoutFrames (d : DebugSession) : DebugSession := { d with handles := {}, frames := [] }

theorem forgotten_withoutFrames {process : Oop} (attached : d.process = some process)
    (bound : d.session = some s) : Forgotten (withoutFrames d) :=
  ⟨Option.isSome_of_eq_some attached, Option.isSome_of_eq_some bound, rfl, rfl⟩

theorem sound_withoutFrames (sound : d.Sound) : (withoutFrames d).Sound :=
  ⟨sound.rests, sound.stopped, sound.bound, fun free => ⟨free, rfl, rfl⟩⟩

theorem works_continueExecution : Staged.Along Works continueExecution.run :=
  works_of_suspended fun _ w process _ _ attached bound =>
    let ⟨session, sound, calls⟩ :=
      resume_apply process (forgotten_withoutFrames attached bound) bound w
    ⟨session, fun _ => sound, calls⟩

theorem works_step (kind : StepKind) (level : Level) :
    Staged.Along Works (step kind level).run := by
  refine works_of_suspended fun d w process s running attached bound => ?_
  let w₁ := (logRecord .debug "debugger" s!"step {kind.name} from level {level}" w).2
  let arm := s.perform process kind.selector [levelOop level]
  have arms : Adds (Exchange.Within d.session) w (arm w₁).2 :=
    adds_within bound (s.carries_own.perform process kind.selector [levelOop level] w₁)
  show Stays (d, w) (Staged.ends (do discard (remote arm); resume s process : Debug Unit).run
    (withoutFrames d) w₁)
  rw [ExceptT.run, Staged.ends, discarded_remote_bind]
  rcases armed : arm w₁ with ⟨e | value, w₂⟩
  · rw [armed] at arms
    exact ⟨rfl, sound_withoutFrames, arms⟩
  · rw [armed] at arms
    obtain ⟨session, sound, calls⟩ :=
      resume_apply process (forgotten_withoutFrames attached bound) bound w₂
    exact ⟨session, fun _ => sound, (lasts_adds _).trans arms calls⟩

/-- A message to an object tells the client of nothing. -/
theorem spares_perform (s : Session) (receiver : Oop) (selector : String) (args : List Oop)
    (w : World) : Spares Event.notice? w (s.perform receiver selector args w).2 :=
  (Session.hosts_spares (fun _ _ => rfl) s).toCarries.perform receiver selector args w

/-- A frame is not restarted, and then nothing has changed, or the stack has been trimmed and the
client is told. -/
theorem restartFrame_apply (level : Level) (d : DebugSession) (w : World) :
    ∃ w', Adds (Exchange.Within d.session) w w' ∧ Spares Event.notice? w w' ∧
      ((∃ e, (∀ text, e ≠ .client text) ∧ restartFrame level d w = ((.error e, d), w')) ∨
        (d.state ≠ .running ∧ d.process.isSome ∧ restartFrame level d w =
          tellStopped .restart s!"restarted at level {level}" (withoutFrames d) w')) := by
  rcases ready_cases d w with ⟨e, why, refused⟩ | ⟨process, s, rests, attached, bound, goes⟩
  · have other : ∀ text, e ≠ .client text := by rcases why with rfl | rfl <;> nofun
    exact ⟨w, (lasts_adds _).refl w, (lasts_spares _).refl w, .inl ⟨e, other, refused _⟩⟩
  · let trim := s.perform process "_trimStackToLevel:" [levelOop level]
    have calls : Adds (Exchange.Within d.session) w (trim w).2 :=
      adds_within bound (s.carries_own.perform process _ _ w)
    have quiet : Spares Event.notice? w (trim w).2 := spares_perform s process _ _ w
    have opened : restartFrame level d w = (do
        discard (remote trim)
        forgetFrames
        tellStopped .restart s!"restarted at level {level}" : Debug Unit) d w := goes _
    refine ⟨(trim w).2, calls, quiet, ?_⟩
    rw [opened, discarded_remote_bind]
    rcases trim w with ⟨e | value, w'⟩
    · exact .inl ⟨.call e, nofun, rfl⟩
    · exact .inr ⟨rests, Option.isSome_of_eq_some attached, rfl⟩

theorem works_restartFrame (level : Level) : Staged.Along Works (restartFrame level).run := by
  intro d w
  obtain ⟨w', calls, _, ⟨e, _, refused⟩ | ⟨_, _, trimmed⟩⟩ := restartFrame_apply level d w
  · rw [ExceptT.run, Staged.ends_of refused]
    exact ⟨⟨rfl, id, calls⟩, id⟩
  · obtain ⟨result, _, told⟩ :=
      tellStopped_apply .restart s!"restarted at level {level}" (withoutFrames d) w'
    rw [ExceptT.run, Staged.ends_of (trimmed.trans told)]
    refine ⟨⟨rfl, fun sound => ?_, calls⟩, id⟩
    obtain ⟨rests, stopped, bound, bare⟩ := sound_withoutFrames sound
    exact ⟨rests, stopped, bound, fun free => ⟨free, rfl, rfl⟩⟩

theorem looks_tellStopped (reason : StopReason) (text : String) :
    Staged.Along Looks (tellStopped reason text).run := by
  intro d w
  obtain ⟨result, _, told⟩ := tellStopped_apply reason text d w
  rw [ExceptT.run, Staged.ends_of told]
  exact ⟨rfl, rfl, rfl, rfl, .of_transcript_eq rfl⟩

theorem looks_restartFrame (level : Level) : Staged.Along Looks (restartFrame level).run := by
  refine .attemptBind lasts_looks explores_looks.suspended fun process => ?_
  refine session_along lasts_looks fun s => ?_
  have under := explores_looks.under (s := s)
  refine .attemptBind under (.attemptDiscarded under (explores_looks.remote (·.perform _ _ _)))
    fun _ => ?_
  refine .attemptBind under (.lift fun _ _ _ => ?_) fun _ => under_of (looks_tellStopped _ _)
  exact ⟨rfl, rfl, rfl, rfl, .of_transcript_eq rfl⟩

/-! ## Attaching -/

structure AttachedTo (s : Session) (process : Oop) (d : DebugSession) : Prop where
  session : d.session = some s
  process : d.process = some process
  state : d.state = .stopped
  frames : d.frames = []
  handles : d.handles = {}

theorem AttachedTo.sound {process : Oop} (attached : AttachedTo s process d) : d.Sound where
  rests := by simp [attached.state]
  stopped := by simp [attached.state, attached.process]
  bound := by simp [attached.session]
  bare free := by simp [attached.process] at free

theorem attachSession_of_taken (taken : ¬(d.state = .unattached ∨ d.state = .detached)) (s : Session)
    (process : Oop) (message : String) (w : World) :
    attachSession s process message d w = ((.error .alreadyAttached, d), w) := by
  rw [attachSession, Staged.attempt_get_bind]
  cases state : d.state with
  | stopped | running => rfl
  | unattached => exact absurd (.inl state) taken
  | detached => exact absurd (.inr state) taken

theorem attachSession_of_special (free : d.state = .unattached ∨ d.state = .detached) (s : Session)
    {process : Oop} (special : process.isSpecial = true) (message : String) (w : World) :
    attachSession s process message d w =
      ((.error (.unexpectedValue process "suspended process"), d), w) := by
  rw [attachSession, Staged.attempt_get_bind]
  rcases free with free | free <;> rw [free] <;> dsimp only <;> rw [if_pos special] <;> rfl

/-- The client is told at the end, when all has been done. -/
theorem attachSession_anew (free : d.state = .unattached ∨ d.state = .detached) (s : Session)
    {process : Oop} (heap : ¬process.isSpecial = true) (message : String) (w : World) :
    attachSession s process message d w = tellStopped .exception message
      { d.boundTo s with
        process := some process, message, handles := {}, frames := [], methods := {},
        sources := [], state := .stopped }
      (logRecord .info "debugger"
        s!"attach to process {process.describe} of session {s.id}" w).2 := by
  have opened : attachSession s process message d w = (do
      logRecord .info "debugger" s!"attach to process {process.describe} of session {s.id}"
      bind s
      modify fun d => { d with
        process := some process, message, handles := {}, frames := [], methods := {},
        sources := [], state := .stopped }
      tellStopped .exception message : Debug Unit) d w := by
    rw [attachSession, Staged.attempt_get_bind]
    rcases free with free | free <;> rw [free] <;> dsimp only <;> rw [if_neg heap]
  let entry := s!"attach to process {process.describe} of session {s.id}"
  have logged : (liftM (logRecord .info "debugger" entry) : Debug Unit) d w =
    ((.ok (), d), (logRecord .info "debugger" entry w).2) := rfl
  have bound (w₁ : World) : (liftM (bind s) : Debug Unit) d w₁ = ((.ok (), d.boundTo s), w₁) :=
    Staged.attempt_lift_of (bind_apply s d w₁)
  rw [opened, Staged.attempt_bind_ok logged, Staged.attempt_bind_ok (bound _)]
  rfl

theorem attachSession_of_heap (free : d.state = .unattached ∨ d.state = .detached) (s : Session)
    {process : Oop} (heap : ¬process.isSpecial = true) (message : String) (w : World) :
    ∃ result d' w', attachSession s process message d w = ((result, d'), w') ∧
      AttachedTo s process d' ∧ w'.transcript = w.transcript := by
  rw [attachSession_anew free s heap message w]
  obtain ⟨result, _, told⟩ := tellStopped_apply .exception message
    { d.boundTo s with
      process := some process, message, handles := {}, frames := [], methods := {}, sources := [],
      state := .stopped }
    (logRecord .info "debugger" s!"attach to process {process.describe} of session {s.id}" w).2
  exact ⟨result, _, _, told, ⟨d.session_boundTo s, rfl, rfl, rfl, rfl⟩, rfl⟩

theorem attachSession_of_free (free : d.state = .unattached ∨ d.state = .detached) (s : Session)
    (process : Oop) (message : String) (w : World) :
    (∃ e, attachSession s process message d w = ((.error e, d), w)) ∨
      ∃ result d' w', attachSession s process message d w = ((result, d'), w') ∧
        AttachedTo s process d' ∧ w'.transcript = w.transcript := by
  by_cases special : process.isSpecial = true
  · exact .inl ⟨_, attachSession_of_special free s special message w⟩
  · exact .inr (attachSession_of_heap free s special message w)

/-- Attaching is refused, and then nothing has changed, or it starts anew. -/
theorem attachSession_apply (s : Session) (process : Oop) (message : String) (d : DebugSession)
    (w : World) :
    (∃ e, attachSession s process message d w = ((.error e, d), w)) ∨
      (d.state ≠ .stopped ∧ ∃ result d' w',
        attachSession s process message d w = ((result, d'), w') ∧ AttachedTo s process d' ∧
        w'.transcript = w.transcript) := by
  by_cases free : d.state = .unattached ∨ d.state = .detached
  · have rests : d.state ≠ .stopped := by rcases free with free | free <;> simp [free]
    exact (attachSession_of_free free s process message w).imp_right fun h => ⟨rests, h⟩
  · exact .inl ⟨_, attachSession_of_taken free s process message w⟩

theorem attach_of_unknown {id : Nat} (unknown : w.live.find? (fun s => s.id == id) = none)
    (process : Oop) (message : String) (d : DebugSession) :
    attach id process message d w = ((.error (.invalidSession id), d), w) := by
  have found : (liftM (Registry.get? id) : Debug (Option Session)) d w = ((.ok none, d), w) := by
    rw [← unknown]
    rfl
  rw [attach, Staged.attempt_bind_ok found]
  rfl

theorem attach_of_known {id : Nat} (known : w.live.find? (fun s => s.id == id) = some s)
    (process : Oop) (message : String) (d : DebugSession) :
    attach id process message d w = attachSession s process message d w := by
  have found : (liftM (Registry.get? id) : Debug (Option Session)) d w = ((.ok (some s), d), w) := by
    rw [← known]
    rfl
  rw [attach, Staged.attempt_bind_ok found]

/-- A process can be attached to in a session that is logged in under this id. -/
theorem attach_apply (id : Nat) (process : Oop) (message : String) (d : DebugSession) (w : World) :
    (∃ e, attach id process message d w = ((.error e, d), w)) ∨
      (d.state ≠ .stopped ∧ ∃ s result d' w', w.live.find? (fun s => s.id == id) = some s ∧
        attach id process message d w = ((result, d'), w') ∧ AttachedTo s process d' ∧
        w'.transcript = w.transcript) := by
  cases known : w.live.find? fun s => s.id == id with
  | none => exact .inl ⟨_, attach_of_unknown known process message d⟩
  | some s =>
      rw [attach_of_known known]
      refine (attachSession_apply s process message d w).imp_right fun ⟨free, anew⟩ => ⟨free, s, ?_⟩
      obtain ⟨result, d', w', ran, attached, quiet⟩ := anew
      exact ⟨result, d', w', rfl, ran, attached, quiet⟩

/-- After disconnecting nothing is kept and nothing is attached. -/
structure LetGo (x y : DebugSession × World) : Prop where
  session : y.1.session = none
  bare : y.1.Bare
  sound : y.1.Sound
  calls : Adds (Exchange.Within x.1.session) x.2 y.2

theorem letGo_disconnect : Staged.Along LetGo disconnect := by
  intro d w
  have cleared := consults_reads.clearProcess d w
  rcases ran : clearProcess d w with ⟨⟨_, d'⟩, w'⟩
  rw [Staged.ends_of ran] at cleared
  rw [disconnect, Staged.ends, Staged.bind_of ran]
  have detached : (if d'.state = .unattached then DebugState.unattached else .detached) ≠ .stopped ∧
      (if d'.state = .unattached then DebugState.unattached else .detached) ≠ .running := by
    split <;> simp
  refine ⟨rfl, ⟨rfl, rfl, rfl⟩, ⟨detached.2, ?_, ?_, fun _ => ⟨rfl, rfl, rfl⟩⟩, cleared.calls⟩
  · exact ⟨fun h => absurd h detached.1, fun attached => by cases attached⟩
  · exact fun attached => by cases attached

theorem letGo_terminate : Staged.Along LetGo terminate := by
  intro d w
  have letGo := letGo_disconnect d w
  rcases ran : disconnect d w with ⟨⟨_, d'⟩, w'⟩
  rw [Staged.ends_of ran] at letGo
  rw [terminate, Staged.ends, Staged.get_bind, Staged.bind_of ran]
  split
  · obtain ⟨session, bare, sound, calls⟩ := letGo
    have told : DebugSession.Bare { d' with told := d'.told ++ [.terminated] } :=
      ⟨bare.process, bare.frames, bare.handles⟩
    exact ⟨session, told, ⟨sound.rests, sound.stopped, sound.bound, fun _ => told⟩, calls⟩
  · exact letGo

end Debug

end StoneDebug
