import StoneDebug.Proofs.Debug.Calls
import StoneDebug.Proofs.Session.Polling

/-! # Looking at a process

What is asked about a suspended process leaves it where it is: session, state and process stay, and
every call goes to the session. `Reads` operations leave the frames and the variable handles alone
as well. `Inspects` operations may add some, but never while there is no process they belong to.
-/

namespace StoneDebug

/-- The exchange is on the handle of this session. -/
def Exchange.Within (session : Option Session) (x : Exchange) : Prop :=
  ∃ s, session = some s ∧ s.Own x

namespace DebugSession

structure Bare (d : DebugSession) : Prop where
  process : d.process = none
  frames : d.frames = []
  handles : d.handles = {}

end DebugSession

namespace Debug

open Source

/-- Session, state and process stay, and every call goes to the session. -/
structure Looks (x y : DebugSession × World) : Prop where
  session : y.1.session = x.1.session
  state : y.1.state = x.1.state
  process : y.1.process = x.1.process
  listener : y.1.listener = x.1.listener
  calls : Adds (Exchange.Within x.1.session) x.2 y.2

structure Inspects (x y : DebugSession × World) : Prop extends Looks x y where
  bare : x.1.Bare → y.1.Bare

structure Reads (x y : DebugSession × World) : Prop extends Looks x y where
  frames : y.1.frames = x.1.frames
  handles : y.1.handles = x.1.handles

theorem lasts_looks : Lasts Looks where
  refl x := ⟨rfl, rfl, rfl, rfl, (lasts_adds _).refl x.2⟩
  trans {x y z} h h' := by
    have calls := h'.calls
    rw [h.session] at calls
    exact ⟨h'.session.trans h.session, h'.state.trans h.state, h'.process.trans h.process,
      h'.listener.trans h.listener, (lasts_adds _).trans h.calls calls⟩

theorem lasts_inspects : Lasts Inspects where
  refl x := ⟨lasts_looks.refl x, id⟩
  trans h h' := ⟨lasts_looks.trans h.toLooks h'.toLooks, h'.bare ∘ h.bare⟩

theorem lasts_reads : Lasts Reads where
  refl x := ⟨lasts_looks.refl x, rfl, rfl⟩
  trans h h' := ⟨lasts_looks.trans h.toLooks h'.toLooks, h'.frames.trans h.frames,
    h'.handles.trans h.handles⟩

theorem Reads.toInspects {x y : DebugSession × World} (h : Reads x y) : Inspects x y :=
  ⟨h.toLooks, fun bare => ⟨h.process.trans bare.process, h.frames.trans bare.frames,
    h.handles.trans bare.handles⟩⟩

variable {s : Session} {α : Type}

/-! ## Steps -/

theorem remote_of {act : Attempt α} {result : Except CallError α} {w w' : World}
    (ran : act w = (result, w')) (d : DebugSession) :
    remote act d w = ((result.mapError .call, d), w') := by
  show (((act w).1.mapError DebugError.call, d), (act w).2) = _
  rw [ran]

theorem attempt_of {act : Attempt α} {result : Except CallError α} {w w' : World}
    (ran : act w = (result, w')) (d : DebugSession) : attempt act d w = ((result, d), w') :=
  Staged.act_of ran d

theorem remote_bind_apply {β : Type} (act : Attempt α) (next : α → Debug β) (d : DebugSession)
    (w : World) : (remote act >>= next) d w = match act w with
      | (.error e, w') => ((.error (.call e), d), w')
      | (.ok a, w') => next a d w' := by
  rcases ran : act w with ⟨e | a, w'⟩
  · exact Staged.attempt_bind_error (remote_of ran d)
  · exact Staged.attempt_bind_ok (remote_of ran d)

/-- A remote operation of which only the failure matters. -/
theorem discarded_remote_bind {β : Type} (act : Attempt α) (next : Debug β) (d : DebugSession)
    (w : World) : (do discard (remote act); next : Debug β) d w = match act w with
      | (.error e, w') => ((.error (.call e), d), w')
      | (.ok _, w') => next d w' := by
  rcases ran : act w with ⟨e | a, w'⟩
  · have failed : (discard (remote act) : Debug Unit) d w = ((.error (.call e), d), w') :=
      Staged.attempt_bind_error (remote_of ran d)
    exact Staged.attempt_bind_error failed
  · have done : (discard (remote act) : Debug Unit) d w = ((.ok (), d), w') :=
      Staged.attempt_bind_ok (remote_of ran d)
    exact Staged.attempt_bind_ok done

theorem noted_apply {act : Debug α} {result : Except DebugError α} {d d' : DebugSession}
    {w w' : World} (ran : act d w = ((result, d'), w')) (severity : Severity) (what : String) :
    noted severity what act d w = match result with
      | .ok a => ((some a, d'), w')
      | .error e => ((none, d'), (logRecord severity "debugger" (what ++ e.message) w').2) := by
  have runs : act.run d w = ((result, d'), w') := ran
  rw [noted, Staged.bind_of runs]
  cases result <;> rfl

theorem reads_of_calls {d : DebugSession} (bound : d.session = some s) {w w' : World}
    (calls : Adds s.Own w w') : Reads (d, w) (d, w') :=
  ⟨⟨rfl, rfl, rfl, rfl, calls.mono fun _ own => ⟨s, bound, own⟩⟩, rfl, rfl⟩

/-- Calls of the session in use. -/
theorem reads_act {act : Act α} (calls : Along (Adds s.Own) act) :
    Staged.Along (Under s Reads) (liftM act : Debugging α) :=
  fun _ w bound => reads_of_calls bound (calls w)

theorem reads_of_same {d d' : DebugSession} {w w' : World} (session : d'.session = d.session)
    (state : d'.state = d.state) (process : d'.process = d.process)
    (listener : d'.listener = d.listener) (frames : d'.frames = d.frames)
    (handles : d'.handles = d.handles) (transcript : w'.transcript = w.transcript) :
    Reads (d, w) (d', w') :=
  ⟨⟨session, state, process, listener, .of_transcript_eq transcript⟩, frames, handles⟩

theorem asks_reads : Asks Reads where
  toLasts := lasts_reads
  session h := h.session
  calls {s d} bound := carries_at lasts_reads d s.carries_own (reads_of_calls bound)
  log _ _ _ _ _ := reads_of_same rfl rfl rfl rfl rfl rfl rfl

/-- What holds for whatever is read holds for these. -/
theorem asks_of_reads {R : DebugSession × World → DebugSession × World → Prop} (lasts : Lasts R)
    (session : ∀ {x y}, R x y → y.1.session = x.1.session) (weaken : ∀ {x y}, Reads x y → R x y) :
    Asks R where
  toLasts := lasts
  session := session
  calls bound := (asks_reads.calls bound).mono ⟨fun _ => lasts.refl _, lasts.trans⟩ weaken
  log severity target text d w := weaken (asks_reads.log severity target text d w)

theorem reads_of_kept (d : DebugSession) (w : World) (sources : List (Oop × MethodSource))
    (documents : List Document) (classNames labels : List (Oop × String)) :
    Reads (d, w) ({ d with sources, documents, classNames, labels }, w) :=
  reads_of_same rfl rfl rfl rfl rfl rfl rfl

theorem reads_of_numbered (d : DebugSession) (w : World) (method : Oop) :
    Reads (d, w) ({ d with methods := (d.methods.number method).2 }, w) :=
  reads_of_same rfl rfl rfl rfl rfl rfl rfl

theorem consults_reads : Consults Reads := consults_of_keep asks_reads reads_of_kept reads_of_numbered

theorem explores_looks : Explores Looks where
  toConsults := consults_of_keep (asks_of_reads lasts_looks Looks.session Reads.toLooks)
    (fun d w _ _ _ _ => (reads_of_kept d w _ _ _ _).toLooks)
    fun d w method => (reads_of_numbered d w method).toLooks
  frame := frame_of_fetched (asks_of_reads lasts_looks Looks.session Reads.toLooks)
    fun _ _ _ => ⟨rfl, rfl, rfl, rfl, .of_transcript_eq rfl⟩
  handed _ _ _ := ⟨rfl, rfl, rfl, rfl, .of_transcript_eq rfl⟩

/-! ## Frames

A frame is only fetched of a suspended process, so nothing is added to a bare debug session.
-/

theorem suspended_apply (d : DebugSession) (w : World) :
    suspended d w = match d.state, d.process with
      | .running, _ => ((.error .processRunning, d), w)
      | _, some process => ((.ok process, d), w)
      | _, none => ((.error .notAttached, d), w) := by
  show (match d.state, d.process with
    | .running, _ => throw .processRunning
    | _, some process => return process
    | _, none => throw .notAttached : Debug Oop) d w = _
  cases d.state <;> cases d.process <;> rfl

theorem suspended_of {d : DebugSession} {process : Oop} (stopped : d.state ≠ .running)
    (attached : d.process = some process) (w : World) : suspended d w = ((.ok process, d), w) := by
  rw [suspended_apply, attached]
  cases state : d.state with
  | running => exact absurd state stopped
  | _ => rfl

theorem suspended_of_none {d : DebugSession} (free : d.process = none) (w : World) :
    ∃ e, suspended d w = ((.error e, d), w) := by
  rw [suspended_apply, free]
  cases d.state <;> exact ⟨_, rfl⟩

/-- What needs a suspended process is refused on the spot, or works on that of the session in use. -/
theorem ready_cases (d : DebugSession) (w : World) :
    (∃ e : DebugError, (e = .processRunning ∨ e = .notAttached) ∧
      ∀ {α : Type} (next : Oop → Session → Debug α),
      (do next (← suspended) (← session) : Debug α) d w = ((.error e, d), w)) ∨
      ∃ process s, d.state ≠ .running ∧ d.process = some process ∧ d.session = some s ∧
        ∀ {α : Type} (next : Oop → Session → Debug α),
          (do next (← suspended) (← session) : Debug α) d w = next process s d w := by
  by_cases running : d.state = .running
  · have refused : suspended d w = ((.error .processRunning, d), w) := by
      rw [suspended_apply, running]
    exact .inl ⟨.processRunning, .inl rfl, fun _ => Staged.attempt_bind_error refused⟩
  · cases attached : d.process with
    | none =>
        have refused : suspended d w = ((.error .notAttached, d), w) := by
          rw [suspended_apply, attached]
          cases state : d.state with
          | running => exact absurd state running
          | _ => rfl
        exact .inl ⟨.notAttached, .inr rfl, fun _ => Staged.attempt_bind_error refused⟩
    | some process =>
        have ready := suspended_of running attached w
        cases bound : d.session with
        | none =>
            have refused := session_of_none bound w
            refine .inl ⟨.notAttached, .inr rfl, fun _ => ?_⟩
            rw [Staged.attempt_bind_ok ready, Staged.attempt_bind_error refused]
        | some s =>
            refine .inr ⟨process, s, running, rfl, rfl, fun _ => ?_⟩
            rw [Staged.attempt_bind_ok ready, Staged.attempt_bind_ok (session_of bound w)]

/-- What the VM says about a stack level; `none` when there is no such level. -/
def fetchContents (s : Session) (process : Oop) (level : Level) : Attempt (Option (List Oop)) := do
  let array ← s.perform process "_frameContentsAt:" [levelOop level]
  if array.isNil then return none
  let oops ← s.fetchAllOops array
  return some oops

/-- A frame that is not kept yet is made of what the VM says. -/
def readFrame (level : Level) (d : DebugSession) :
    Except CallError (Option (List Oop)) → Except DebugError Frame × DebugSession
  | .error e => (.error (.call e), d)
  | .ok none => (.error (.frameNotFound level), d)
  | .ok (some oops) => match Frame.ofOops oops with
    | .error e => (.error e, d)
    | .ok f => (.ok f, { d with frames := (level, f) :: d.frames })

/-- A frame that is read is kept; otherwise nothing is. -/
theorem readFrame_cases (level : Level) (d : DebugSession)
    (contents : Except CallError (Option (List Oop))) :
    (∃ e, readFrame level d contents = (.error e, d)) ∨
      ∃ oops f, contents = .ok (some oops) ∧ Frame.ofOops oops = .ok f ∧
        readFrame level d contents = (.ok f, { d with frames := (level, f) :: d.frames }) := by
  rcases contents with e | _ | oops
  · exact .inl ⟨_, rfl⟩
  · exact .inl ⟨_, rfl⟩
  · cases read : Frame.ofOops oops with
    | error e => exact .inl ⟨e, by simp only [readFrame, read]⟩
    | ok f => exact .inr ⟨oops, f, rfl, read, by simp only [readFrame, read]⟩

/-- A frame that is not kept is asked for. -/
theorem frame_of_unkept {level : Level} {d : DebugSession} {process : Oop}
    (kept : d.frames.lookup level = none) (rests : d.state ≠ .running)
    (attached : d.process = some process) (bound : d.session = some s) (zero : level ≠ 0)
    (w : World) : frame level d w =
      let (contents, w') := fetchContents s process level w
      (readFrame level d contents, w') := by
  rw [frame, Staged.attempt_get_bind, kept]
  dsimp only
  rw [Staged.attempt_bind_ok (suspended_of rests attached w),
    Staged.attempt_bind_ok (session_of bound w), if_neg zero, remote_bind_apply, fetchContents,
    attempt_bind_apply]
  rcases s.perform process "_frameContentsAt:" [levelOop level] w with ⟨e | array, w₁⟩
  · rfl
  · dsimp only
    by_cases nil : array.isNil = true
    · rw [if_pos nil, if_pos nil]
      rfl
    · rw [if_neg nil, if_neg nil, remote_bind_apply, attempt_bind_apply]
      rcases s.fetchAllOops array w₁ with ⟨e | oops, w₂⟩
      · rfl
      · have read : (value (Frame.ofOops oops) : Debug Frame) d w₂ =
          ((Frame.ofOops oops, d), w₂) := rfl
        have given : (pure (some oops) : Attempt (Option (List Oop))) w₂ =
          (.ok (some oops), w₂) := rfl
        dsimp only
        rw [Staged.attempt_bind_apply, read, given]
        cases made : Frame.ofOops oops with
        | error e => simp only [readFrame, made]
        | ok f =>
            simp only [readFrame, made]
            rfl

/-- The ways in which a frame is looked at. -/
theorem frame_cases (level : Level) (d : DebugSession) (w : World) :
    (∃ f, d.frames.lookup level = some f ∧ frame level d w = ((.ok f, d), w)) ∨
      (∃ e, (e = .processRunning ∨ e = .notAttached ∨ e = .frameNotFound level) ∧
        frame level d w = ((.error e, d), w)) ∨
      ∃ process s, d.frames.lookup level = none ∧ level ≠ 0 ∧ d.state ≠ .running ∧
        d.process = some process ∧ d.session = some s ∧ frame level d w =
          let (contents, w') := fetchContents s process level w
          (readFrame level d contents, w') := by
  cases kept : d.frames.lookup level with
  | some f =>
      rw [frame, Staged.attempt_get_bind, kept]
      exact .inl ⟨f, rfl, rfl⟩
  | none =>
      right
      rcases ready_cases d w with ⟨e, why, refused⟩ | ⟨process, s, rests, attached, bound, goes⟩
      · rw [frame, Staged.attempt_get_bind, kept]
        exact .inl ⟨e, why.imp_right .inl, refused _⟩
      · by_cases zero : level = 0
        · rw [frame, Staged.attempt_get_bind, kept]
          refine .inl ⟨.frameNotFound level, .inr (.inr rfl), (goes _).trans ?_⟩
          rw [if_pos zero]
          rfl
        · exact .inr ⟨process, s, rfl, zero, rests, attached, bound,
            frame_of_unkept kept rests attached bound zero w⟩

/-- An operation that does nothing on a bare debug session need only look at any other. -/
theorem inspects_of_looks {act : Debugging α} (looks : Staged.Along Looks act)
    (idle : ∀ d w, d.Bare → ∃ result, act d w = ((result, d), w)) : Staged.Along Inspects act := by
  intro d w
  by_cases bare : d.Bare
  · obtain ⟨result, same⟩ := idle d w bare
    rw [Staged.ends_of same]
    exact lasts_inspects.refl (d, w)
  · exact ⟨looks d w, fun bare' => absurd bare' bare⟩

theorem frame_of_bare {d : DebugSession} (bare : d.Bare) (level : Level) {w : World}
    {e : DebugError} (refused : suspended d w = ((.error e, d), w)) :
    frame level d w = ((.error e, d), w) := by
  rw [frame, Staged.attempt_get_bind, bare.frames]
  exact Staged.attempt_bind_error refused

theorem inspects_frame (level : Level) : Staged.Along Inspects (frame level).run :=
  inspects_of_looks (explores_looks.frame level) fun _ w bare =>
    let ⟨e, refused⟩ := suspended_of_none bare.process w
    ⟨.error e, frame_of_bare bare level refused⟩

theorem observes_inspects : Observes Inspects where
  toConsults := consults_of_keep
    (asks_of_reads lasts_inspects (fun h => h.session) Reads.toInspects)
    (fun d w _ _ _ _ => (reads_of_kept d w _ _ _ _).toInspects)
    fun d w method => (reads_of_numbered d w method).toInspects
  frame := inspects_frame

/-! ## Variables

A variable handle belongs to a frame or to another handle.
-/

theorem inspects_scopes (level : Level) : Staged.Along Inspects (scopes level).run := by
  refine inspects_of_looks (explores_looks.scopes level) fun d w bare => ?_
  obtain ⟨e, refused⟩ := suspended_of_none bare.process w
  exact ⟨.error e, Staged.attempt_bind_error (frame_of_bare bare level refused)⟩

theorem expand_of_unknown {d : DebugSession} {reference : Int}
    (unknown : d.handles.get? reference = none) (window : Window) (w : World) :
    expand reference window d w = ((.error (.unknownVariables reference), d), w) := by
  rw [expand, Staged.attempt_get_bind, unknown]
  rfl

theorem expand_of_bare {d : DebugSession} (bare : d.Bare) (reference : Int) (window : Window)
    (w : World) :
    expand reference window d w = ((.error (.unknownVariables reference), d), w) := by
  apply expand_of_unknown
  rw [bare.handles, Numbering.get?]
  split <;> rfl

/-- A handle is expanded into the entries of what it stands for. -/
theorem expand_of {reference : Int} {window : Window} {r : VarRef} {list : List (String × Oop)}
    {d d₁ : DebugSession} {w w₁ : World} (found : d.handles.get? reference = some r)
    (bound : d.session = some s) (listed : entries s window r d w = ((.ok list, d₁), w₁)) :
    expand reference window d w =
      let ran := describeVariables s list d₁ w₁
      ((.ok ran.1.1, ran.1.2), ran.2) := by
  rw [expand, Staged.attempt_get_bind, found]
  dsimp only
  rw [Staged.attempt_bind_ok (session_of bound w), Staged.attempt_bind_ok listed]
  exact Staged.attempt_lift_of rfl

theorem of_expand_ok {reference : Int} {window : Window} {views : List VariableView}
    {d d' : DebugSession} {w w' : World}
    (ran : expand reference window d w = ((.ok views, d'), w')) :
    ∃ s r list d₁ w₁, d.session = some s ∧ d.handles.get? reference = some r ∧
      entries s window r d w = ((.ok list, d₁), w₁) ∧
        describeVariables s list d₁ w₁ = ((views, d'), w') := by
  rw [expand, Staged.attempt_get_bind] at ran
  cases found : d.handles.get? reference with
  | none =>
      rw [found] at ran
      cases ran
  | some r =>
      rw [found] at ran
      obtain ⟨s, bound, rest⟩ := of_session_bind_ok ran
      obtain ⟨list, d₁, w₁, listed, described⟩ := Staged.of_attempt_bind_ok rest
      rcases ended : describeVariables s list d₁ w₁ with ⟨⟨views', d₂⟩, w₂⟩
      cases (Staged.attempt_lift_of ended).symm.trans described
      exact ⟨s, r, list, d₁, w₁, bound, rfl, listed, ended⟩

theorem inspects_expand (reference : Int) (window : Window) :
    Staged.Along Inspects (expand reference window).run :=
  inspects_of_looks (explores_looks.expand reference window) fun _ w bare =>
    ⟨_, expand_of_bare bare reference window w⟩

end Debug

end StoneDebug
