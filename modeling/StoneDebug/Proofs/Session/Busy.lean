import StoneDebug.Foreign.Reply
import StoneDebug.Proofs.Session.Polling

/-! # Busy sessions

While a non-blocking call of a session is outstanding, its other operations keep away from the VM.
They meet the call in the guard `ensureIdle` only: `Heeds` says that an operation passes the guard
before anything else, so the three states of the guard decide about every operation alike.
-/

namespace StoneDebug

namespace Session

variable {s : Session} {w w' : World} {α β : Type}

/-! ## The guard -/

def drainPoll (s : Session) (w : World) : Exchange :=
  ⟨some s.handle, .nbPoll 0, w.vm w.transcript (some s.handle) (.nbPoll 0)⟩

/-- The VM says that the abandoned call still runs. -/
def stillRuns (s : Session) (w : World) : Prop :=
  (w.vm w.transcript (some s.handle) (.nbPoll 0)).status = .ok .notReady

/-- The exchanges that fetch the result of an abandoned call and clear what it has left. -/
def Clears (s : Session) (x : Exchange) : Prop :=
  x.handle = some s.handle ∧ (x.call = .nbResult ∨ ∃ process, x.call = .clearStack process)

theorem poll_apply (s : Session) (w : World) :
    ∃ w', s.poll 0 w = ((w.vm w.transcript (some s.handle) (.nbPoll 0)).status, w') ∧
      w'.transcript = w.transcript ++ [s.drainPoll w] ∧ w'.callState = w.callState := by
  have quiet := Along.interjectAll lasts_quiet interject_quiet
    (w.vm w.transcript (some s.handle) (.nbPoll 0)).meanwhile
    { w with
      transcript := w.transcript ++ [s.drainPoll w]
      clock := w.clock + 1 + (w.vm w.transcript (some s.handle) (.nbPoll 0)).took }
  exact ⟨_, rfl, quiet.transcript, quiet.callState⟩

/-- Calls of a kind, and nothing else that a session's state depends on. -/
def Makes (P : Exchange → Prop) (w w' : World) : Prop := Adds P w w' ∧ w'.callState = w.callState

theorem lasts_makes (P : Exchange → Prop) : Lasts (Makes P) where
  refl w := ⟨(lasts_adds P).refl w, rfl⟩
  trans h h' := ⟨(lasts_adds P).trans h.1 h'.1, h'.2.trans h.2⟩

theorem discardResult_makes (s : Session) : Along (Makes s.Clears) s.discardResult := by
  have lasts := lasts_makes s.Clears
  have quiet {w w' : World} (h : Quiet w w') : Makes s.Clears w w' :=
    ⟨.of_transcript_eq h.transcript, h.callState⟩
  have call (c : Call) (clears : c = .nbResult ∨ ∃ process, c = .clearStack process) :
      Along (Makes s.Clears) (s.call c) := fun w => ⟨Adds.ask (fun _ => ⟨rfl, clears⟩) w, rfl⟩
  refine .bind lasts (call _ (.inl rfl)) fun result => ?_
  split
  · exact .pure lasts _
  · split
    · exact .pure lasts _
    · refine .bind lasts (call _ (.inr ⟨_, rfl⟩)) fun cleared => ?_
      refine .bind lasts (.warnOn lasts (fun _ _ _ w => ?_) _ _ cleared) fun _ => .pure lasts _
      exact quiet ⟨rfl, rfl, rfl, rfl, rfl, rfl⟩

theorem drainOnce_of_stillRuns (runs : s.stillRuns w) :
    ∃ w', s.drainOnce w = (false, w') ∧ w'.transcript = w.transcript ++ [s.drainPoll w] ∧
      w'.callState = w.callState := by
  obtain ⟨w', polled, asked, states⟩ := s.poll_apply w
  rw [runs] at polled
  exact ⟨w', (act_bind_of polled).trans rfl, asked, states⟩

/-- An abandoned call that runs no more is lost, or its result is thrown away. -/
theorem drainOnce_of_over (ended : ¬s.stillRuns w) :
    ∃ w', (match (w.vm w.transcript (some s.handle) (.nbPoll 0)).status with
        | .error _ => s.drainOnce w = (true, w')
        | .ok _ => s.drainOnce w = (true, (s.discardResult w').2)) ∧
      w'.transcript = w.transcript ++ [s.drainPoll w] ∧ w'.callState = w.callState := by
  obtain ⟨w', polled, asked, states⟩ := s.poll_apply w
  cases status : (w.vm w.transcript (some s.handle) (.nbPoll 0)).status with
  | error e =>
      rw [status] at polled
      exact ⟨_, (act_bind_of polled).trans rfl, asked, states⟩
  | ok status' =>
      rw [status] at polled
      cases status' with
      | notReady => exact absurd status ended
      | ready => exact ⟨w', (act_bind_of polled).trans rfl, asked, states⟩

theorem drainOnce_clears (ended : ¬s.stillRuns w) :
    ∃ w' cleared, s.drainOnce w = (true, w') ∧
      w'.transcript = w.transcript ++ s.drainPoll w :: cleared ∧ (∀ x ∈ cleared, s.Clears x) ∧
      w'.callState = w.callState := by
  obtain ⟨w', drained, asked, states⟩ := drainOnce_of_over ended
  split at drained
  · exact ⟨w', [], drained, asked, by simp, states⟩
  · obtain ⟨⟨cleared, eq, clears⟩, kept⟩ := s.discardResult_makes w'
    refine ⟨_, cleared, drained, ?_, clears, kept.trans states⟩
    rw [eq, asked, List.append_assoc, List.singleton_append]

theorem callState_setCallState (id : Nat) (state : CallState) (w : World) :
    (setCallState id state w).2.callState id = state :=
  if_pos rfl

theorem ensureIdle_apply (s : Session) (w : World) :
    s.ensureIdle w = match w.callState s.id with
      | .idle => (.ok (), w)
      | .outstanding => (.error .sessionBusy, w)
      | .draining => match s.drainOnce w with
        | (true, w') => (.ok (), (setCallState s.id .idle w').2)
        | (false, w') => (.error .sessionBusy, w') := by
  have known : s.state w = (w.callState s.id, w) := rfl
  rw [ensureIdle, attempt_bind_ok (attempt_lift_of known)]
  cases w.callState s.id with
  | idle => rfl
  | outstanding => rfl
  | draining =>
      rcases drained : s.drainOnce w with ⟨_ | _, w'⟩ <;>
        exact (attempt_bind_ok (attempt_lift_of drained)).trans rfl

theorem ensureIdle_of_idle (idle : w.callState s.id = .idle) : s.ensureIdle w = (.ok (), w) := by
  rw [ensureIdle_apply, idle]

theorem ensureIdle_of_outstanding (outstanding : w.callState s.id = .outstanding) :
    s.ensureIdle w = (.error .sessionBusy, w) := by
  rw [ensureIdle_apply, outstanding]

theorem idle_of_ensureIdle (passed : s.ensureIdle w = (.ok (), w')) :
    w'.callState s.id = .idle := by
  rw [ensureIdle_apply] at passed
  split at passed
  · next idle => cases passed; exact idle
  · cases passed
  · split at passed
    · cases passed
      exact callState_setCallState _ _ _
    · cases passed

/-! ## The state along calls -/

def SameStates (w w' : World) : Prop := w'.callState = w.callState

theorem lasts_sameStates : Lasts SameStates where
  refl _ := rfl
  trans h h' := h'.trans h

theorem drives_sameStates (s : Session) : s.Drives SameStates where
  toLasts := lasts_sameStates
  call _ _ _ := rfl
  log _ _ _ _ := rfl
  tick _ _ := rfl
  interject i w := (interject_quiet i w).callState
  aside _ _ := rfl

/-- Once idle, the session is idle afterwards. -/
def StaysIdle (s : Session) (w w' : World) : Prop :=
  w.callState s.id = .idle → w'.callState s.id = .idle

theorem carries_staysIdle (s : Session) : s.Carries s.StaysIdle where
  refl _ idle := idle
  trans first second idle := second (first idle)
  call _ _ _ idle := idle
  log _ _ _ _ idle := idle
  ensureIdle w idle := by
    show (s.ensureIdle w).2.callState s.id = .idle
    rw [ensureIdle_of_idle idle]
    exact idle
  setHelperClass _ _ idle := idle

/-! ## On an idle session -/

theorem call_noted {c : Call} {reply : c.Reply} (ran : s.call c w = (reply, w')) :
    w' = w.noting [⟨some s.handle, c, reply⟩] := by
  cases ran
  rfl

def sent (s : Session) (send : Send) (reply : Except CallError Oop) : Exchange :=
  ⟨some s.handle, .perform send, reply⟩

theorem perform_of_idle {receiver : Oop} {selector : String} {args : List Oop}
    {reply : Except CallError Oop} (idle : w.callState s.id = .idle)
    (ran : s.perform receiver selector args w = (reply, w')) :
    w' = w.noting [s.sent { receiver, selector, args } reply] := by
  have sends : s.perform receiver selector args w =
    s.call (.perform { receiver, selector, args }) w := attempt_bind_ok (ensureIdle_of_idle idle)
  exact call_noted (sends.symm.trans ran)

/-- A request that has succeeded has passed the guard, which may have drained a call. -/
theorem request_ok {act : Act (Except CallError α)} {a : α}
    (ran : s.request act w = (.ok a, w')) :
    ∃ w₁ drained, w₁.transcript = w.transcript ++ drained ∧ w₁.callState s.id = .idle ∧
      act w₁ = (.ok a, w') := by
  obtain ⟨_, w₁, passed, acted⟩ := of_attempt_bind_ok ran
  obtain ⟨drained, added, _⟩ := s.carries_own.ensureIdle w
  rw [ExceptT.run, passed] at added
  exact ⟨w₁, drained, added, idle_of_ensureIdle passed, acted⟩

/-- A message that is answered is the last call, and its session is idle then. -/
theorem perform_ok {receiver : Oop} {selector : String} {args : List Oop} {value : Oop}
    (ran : s.perform receiver selector args w = (.ok value, w')) :
    ∃ drained, w'.callState s.id = .idle ∧ w'.transcript =
      w.transcript ++ (drained ++ [s.sent { receiver, selector, args } (.ok value)]) := by
  obtain ⟨w₁, drained, asked, idle, sends⟩ := request_ok ran
  obtain rfl := call_noted sends
  refine ⟨drained, idle, ?_⟩
  rw [World.noting, asked, List.append_assoc]
  rfl

/-- An object that has slots tells first how many. -/
theorem fetchAllOops_of_idle {oop : Oop} {oops : List Oop} (idle : w.callState s.id = .idle)
    (ran : s.fetchAllOops oop w = (.ok oops, w')) (slots : oops ≠ []) :
    ∃ size : Int, w' = w.noting
      [⟨some s.handle, .fetchSize oop, .ok size⟩,
        ⟨some s.handle, .fetchOops oop 1 size.toNat, .ok oops⟩] := by
  obtain ⟨size, w₁, sized, rest⟩ := of_attempt_bind_ok ran
  have measures : s.request (s.call (.fetchSize oop)) w = s.call (.fetchSize oop) w :=
    attempt_bind_ok (ensureIdle_of_idle idle)
  obtain rfl := call_noted (measures.symm.trans sized)
  by_cases empty : size ≤ 0
  · rw [if_pos empty] at rest
    cases rest
    exact absurd rfl slots
  · rw [if_neg empty] at rest
    obtain rfl := call_noted rest
    exact ⟨size, w.noting_noting _ _⟩

/-! ## Non-blocking calls -/

/-- The state in which a non-blocking call leaves its session. -/
def stateAfter : Option Outcome → CallState
  | none => .outstanding
  | some outcome => if outcome = .cancelled false then .draining else .idle

theorem run_of_ensureIdle (config : PollConfig) (submission : Submission)
    (passed : s.ensureIdle w = (.ok (), w')) :
    ∃ outcome w'', s.run config submission w = (.ok outcome, w'') ∧
      w''.callState s.id = stateAfter outcome := by
  have claimed : s.beginCall w = (.ok (), (setCallState s.id .outstanding w').2) :=
    (attempt_bind_ok passed).trans rfl
  rw [Session.run, attempt_bind_ok claimed]
  rcases ends : Poller.run { session := s, config } submission
    (setCallState s.id .outstanding w').2 with ⟨outcome, w₁⟩
  have polled : SameStates (setCallState s.id .outstanding w').2 w₁ := by
    simpa [ends] using s.drives_sameStates.runPoller (p := { session := s, config }) rfl submission
      (setCallState s.id .outstanding w').2
  rw [attempt_bind_ok (attempt_lift_of ends)]
  match outcome with
  | none => exact ⟨_, _, rfl, (congrFun polled s.id).trans (callState_setCallState _ _ _)⟩
  | some (.ready _) => exact ⟨_, _, rfl, callState_setCallState _ _ _⟩
  | some (.failed _) => exact ⟨_, _, rfl, callState_setCallState _ _ _⟩
  | some (.cancelled true) => exact ⟨_, _, rfl, callState_setCallState _ _ _⟩
  | some (.cancelled false) => exact ⟨_, _, rfl, callState_setCallState _ _ _⟩

theorem callState_run {config : PollConfig} {submission : Submission} {outcome : Option Outcome}
    (ran : s.run config submission w = (.ok outcome, w')) :
    w'.callState s.id = stateAfter outcome := by
  rcases guard : s.ensureIdle w with ⟨e | _, w₁⟩
  · have refused : s.beginCall w = (.error e, w₁) := attempt_bind_error guard
    rw [Session.run, attempt_bind_error refused] at ran
    cases ran
  · obtain ⟨outcome, w₂, ran', left⟩ := run_of_ensureIdle config submission guard
    cases ran.symm.trans ran'
    exact left

theorem callState_runSource {config : PollConfig} {source : String} {outcome : Option Outcome}
    (ran : s.runSource config source w = (.ok outcome, w')) :
    w'.callState s.id = stateAfter outcome := by
  rcases prepared : s.execution source (fun e => { e with flags := CallFlags.enableDebug }) w with
    ⟨e | request, w₁⟩
  · rw [Session.runSource, attempt_bind_error prepared] at ran
    cases ran
  · rw [Session.runSource, attempt_bind_ok prepared] at ran
    exact callState_run ran

/-- From an idle session a non-blocking call fails only before it has begun. -/
theorem idle_of_runSource_error {config : PollConfig} {source : String} {e : CallError}
    (idle : w.callState s.id = .idle) (ran : s.runSource config source w = (.error e, w')) :
    w'.callState s.id = .idle := by
  have stays := s.carries_staysIdle.execution source
    (fun e => { e with flags := CallFlags.enableDebug }) w idle
  rcases prepared : s.execution source (fun e => { e with flags := CallFlags.enableDebug }) w with
    ⟨e | request, w₁⟩
  · rw [Session.runSource, attempt_bind_error prepared] at ran
    cases ran
    simpa [ExceptT.run, prepared] using stays
  · have idle₁ : w₁.callState s.id = .idle := by simpa [ExceptT.run, prepared] using stays
    obtain ⟨outcome, w₂, ran', _⟩ := run_of_ensureIdle config (.execute request)
      (ensureIdle_of_idle idle₁)
    rw [Session.runSource, attempt_bind_ok prepared, ran'] at ran
    cases ran

/-! ## Operations behind the guard -/

/-- Before anything else `act` passes the guard, and when the guard refuses it `act` ends with
`refusal`, without a call and with the state as the guard has left it. -/
structure Heeds (s : Session) (refusal : Except CallError α) (act : Attempt α) : Prop where
  passed : ∀ {w w'}, s.ensureIdle w = (.ok (), w') → act w = act w'
  refused : ∀ {w w' e}, s.ensureIdle w = (.error e, w') →
    (act w).1 = refusal ∧ Quiet w' (act w).2

theorem busy_of_ensureIdle {e : CallError} (refused : s.ensureIdle w = (.error e, w')) :
    e = .sessionBusy := by
  rw [ensureIdle_apply] at refused
  split at refused
  · cases refused
  · cases refused; rfl
  · split at refused
    · cases refused
    · cases refused; rfl

/-- A call behind the guard is refused, or it is the last exchange; only draining comes before. -/
theorem request_apply {P : Exchange → Prop}
    (drained : ∀ (c : Call) (reply : c.Reply), c.drains = true → P ⟨some s.handle, c, reply⟩)
    {act : Act (Except CallError α)} (exchange : Except CallError α → Exchange)
    (asks : ∀ w, (act w).2.transcript = w.transcript ++ [exchange (act w).1])
    {result : Except CallError α} (ran : s.request act w = (result, w')) :
    ∃ earlier, (∀ x ∈ earlier, P x) ∧
      (result = .error .sessionBusy ∧ w'.transcript = w.transcript ++ earlier ∨
        w'.transcript = w.transcript ++ (earlier ++ [exchange result])) := by
  have before := s.ensureIdle_adds drained w
  rcases guard : s.ensureIdle w with ⟨e | _, w₁⟩
  · rw [ExceptT.run, guard] at before
    obtain ⟨earlier, added, such⟩ := before
    rw [request, attempt_bind_error guard] at ran
    cases ran
    exact ⟨earlier, such, .inl ⟨congrArg Except.error (busy_of_ensureIdle guard), added⟩⟩
  · rw [ExceptT.run, guard] at before
    obtain ⟨earlier, added, such⟩ := before
    rw [request, attempt_bind_ok guard] at ran
    have asked := asks w₁
    rw [show act w₁ = (result, w') from ran] at asked
    exact ⟨earlier, such, .inr (by rw [asked, added, List.append_assoc])⟩

/-- A second look at the guard finds it open. -/
theorem heeds_guard (s : Session) (act : Attempt α) :
    s.Heeds (.error .sessionBusy) (do s.ensureIdle; act) where
  passed {w w'} guard := by
    rw [attempt_bind_ok guard, attempt_bind_ok (ensureIdle_of_idle (idle_of_ensureIdle guard))]
  refused {w w' e} guard := by
    rw [attempt_bind_error guard, busy_of_ensureIdle guard]
    exact ⟨rfl, lasts_quiet.refl w'⟩

theorem Heeds.bind {act : Attempt α} {next : α → Attempt β}
    (first : s.Heeds (.error .sessionBusy) act) :
    s.Heeds (.error .sessionBusy) (act >>= next) where
  passed {w w'} guard := by
    rw [attempt_bind_apply, attempt_bind_apply, first.passed guard]
  refused {w w' e} guard := by
    obtain ⟨result, quiet⟩ := first.refused guard
    rw [attempt_bind_error (Prod.ext result rfl)]
    exact ⟨rfl, quiet⟩

theorem discardError_apply {error : CallError} {process : Oop}
    (left : error.process? = some process) (w : World) :
    s.discardError error w = ((), (warnOn "discard suspended process: " CallError.message
      (s.clearStack process w).1 (s.clearStack process w).2).2) := by
  rw [discardError, left]
  rfl

theorem discardError_of_none {error : CallError} (left : error.process? = none) (w : World) :
    s.discardError error w = ((), w) := by
  rw [discardError, left]
  rfl

/-- An idle session is told to clear the process. -/
theorem discardError_clears {error : CallError} {process : Oop} (idle : w.callState s.id = .idle)
    (left : error.process? = some process) :
    ∃ reply, (s.discardError error w).2.transcript =
      w.transcript ++ [⟨some s.handle, .clearStack process, reply⟩] := by
  have asked : s.clearStack process w = ask (some s.handle) (.clearStack process) w := by
    rw [clearStack, request, attempt_bind_ok (ensureIdle_of_idle idle)]
    rfl
  have logged := Along.warnOn lasts_quiet
    (fun severity target text w => (gathers_logRecord severity target text w).toQuiet)
    "discard suspended process: " CallError.message (s.clearStack process w).1
  have same := (logged (s.clearStack process w).2).transcript
  rw [asked] at same
  rw [discardError_apply left, asked]
  exact ⟨_, same⟩

/-- The guard's refusal is only logged here. -/
theorem heeds_discardError {error : CallError} (left : error.process?.isSome) :
    s.Heeds (.ok ()) (liftM (s.discardError error)) := by
  obtain ⟨process, left⟩ := Option.isSome_iff_exists.mp left
  have clear : s.Heeds (.error .sessionBusy) (s.clearStack process) := s.heeds_guard _
  constructor
  · intro w w' guard
    show (Except.ok (s.discardError error w).1, (s.discardError error w).2) =
      (Except.ok (s.discardError error w').1, (s.discardError error w').2)
    rw [discardError_apply left, discardError_apply left, clear.passed guard]
  · intro w w' e guard
    obtain ⟨result, quiet⟩ := clear.refused guard
    refine ⟨rfl, ?_⟩
    show Quiet w' (s.discardError error w).2
    rw [discardError_apply left, result]
    exact lasts_quiet.trans quiet ⟨rfl, rfl, rfl, rfl, rfl, rfl⟩

end Session

/-! ## The operations -/

inductive Operation where
  | execute (source : String)
  | executeDebuggable (source : String)
  | executeIn (source : String) (context : Oop)
  | executeString (source : String)
  | perform (receiver : Oop) (selector : String) (args : List Oop)
  | performString (receiver : Oop) (selector : String) (args : List Oop)
  | printString (oop : Oop)
  | run (config : PollConfig) (submission : Submission)
  | runSource (config : PollConfig) (source : String)
  | resolveClass (name : String)
  | classOf (oop : Oop)
  | className (cls : Oop)
  | newSymbol (name : String)
  | newSourceString (source : String)
  | fetchString (oop : Oop)
  | fetchAllOops (oop : Oop)
  | fetchOops (oop : Oop) (start : Int) (count : Nat)
  | fetchStringArray (array : Oop)
  | fetchObjectInfo (oop : Oop)
  | clearStack (process : Oop)
  | continueProcess (process : Oop)
  | discardError (error : CallError)
  | compileMethod (cls : Oop) (source category : String) (env : Nat)
  | removeAllMethods (cls : Oop)
  | compiledMethodAt (cls : Oop) (selector : String) (env : Nat)
  | fetchTraversal (oops : List Oop) (args : TraversalArgs)
  | storeTraversal (reports : List ObjectReport) (flags : Int)
  | abort
  | beginTransaction
  | commit

namespace Operation

/-- What an operation yields when it does not fail. -/
@[reducible] def Value : Operation → Type
  | executeString _ | performString .. | printString _ | className _ | fetchString _ => String
  | run .. | runSource .. => Option Outcome
  | fetchAllOops _ | fetchOops .. => List Oop
  | fetchStringArray _ => List String
  | fetchObjectInfo _ => ObjectInfo
  | clearStack _ | discardError _ | removeAllMethods _ | storeTraversal .. | abort => Unit
  | beginTransaction => Unit
  | commit => Bool
  | fetchTraversal .. => Option (List ObjectReport)
  | _ => Oop

def on (s : Session) : (op : Operation) → Attempt op.Value
  | execute source => s.execute source
  | executeDebuggable source => s.executeDebuggable source
  | executeIn source context => s.executeIn source context
  | executeString source => s.executeString source
  | perform receiver selector args => s.perform receiver selector args
  | performString receiver selector args => s.performString receiver selector args
  | printString oop => s.printString oop
  | run config submission => s.run config submission
  | runSource config source => s.runSource config source
  | resolveClass name => s.resolveClass name
  | classOf oop => s.classOf oop
  | className cls => s.className cls
  | newSymbol name => s.newSymbol name
  | newSourceString source => s.newSourceString source
  | fetchString oop => s.fetchString oop
  | fetchAllOops oop => s.fetchAllOops oop
  | fetchOops oop start count => s.fetchOops oop start count
  | fetchStringArray array => s.fetchStringArray array
  | fetchObjectInfo oop => s.fetchObjectInfo oop
  | clearStack process => s.clearStack process
  | continueProcess process => s.continueProcess process
  | discardError error => liftM (s.discardError error)
  | compileMethod cls source category env => s.compileMethod cls source category env
  | removeAllMethods cls => s.removeAllMethods cls
  | compiledMethodAt cls selector env => s.compiledMethodAt cls selector env
  | fetchTraversal oops args => s.fetchTraversal oops args
  | storeTraversal reports flags => s.storeTraversal reports flags
  | abort => s.abort
  | beginTransaction => s.beginTransaction
  | commit => s.commit

/-- The answer of an operation that needs no VM. -/
def local? : (op : Operation) → Option op.Value
  | printString oop => oop.kind.print?
  | classOf oop => if oop.isSpecial then some oop.specialClass else none
  | fetchOops _ _ count => if count = 0 then some [] else none
  | fetchStringArray array => if array.isNil then some [] else none
  | discardError error => if error.process?.isSome then none else some ()
  | _ => none

/-- The answer of an operation that the guard refuses. Discarding answers nothing in any case. -/
def refusal : (op : Operation) → Except CallError op.Value
  | discardError _ => .ok ()
  | _ => .error .sessionBusy

/-- The answer while a call is outstanding. -/
def busyAnswer (op : Operation) : Except CallError op.Value :=
  match op.local? with
  | some value => .ok value
  | none => op.refusal

def outcome? : (op : Operation) → Except CallError op.Value → Option Outcome
  | run .., .ok outcome => outcome
  | runSource .., .ok outcome => outcome
  | _, _ => none

def Endless : (op : Operation) → Except CallError op.Value → Prop
  | run .., .ok none => True
  | runSource .., .ok none => True
  | _, _ => False

variable {s : Session} {R : World → World → Prop}

theorem on_of_local {op : Operation} {value : op.Value} (known : op.local? = some value)
    (w : World) : op.on s w = (.ok value, w) := by
  cases op with
  | printString oop =>
      rw [local?] at known
      simp only [on, Session.printString, known]
      rfl
  | classOf oop =>
      simp only [local?] at known
      split at known <;> cases known
      simp only [on, Session.classOf, *]
      rfl
  | fetchOops oop start count =>
      simp only [local?] at known
      split at known <;> cases known
      simp only [on, Session.fetchOops, *]
      rfl
  | fetchStringArray array =>
      simp only [local?] at known
      split at known <;> cases known
      simp only [on, Session.fetchStringArray, *]
      rfl
  | discardError error =>
      simp only [local?] at known
      split at known <;> cases known
      have none : error.process? = none := by simpa using ‹¬error.process?.isSome = true›
      show (Except.ok (s.discardError error w).1, (s.discardError error w).2) = _
      rw [Session.discardError_of_none none]
  | _ => cases known

/-- Every operation that needs the VM passes the guard first. -/
theorem heeds {op : Operation} (remote : op.local? = none) : s.Heeds op.refusal (op.on s) := by
  have guarded {α : Type} (act : Attempt α) := s.heeds_guard act
  cases op with
  | execute | executeDebuggable | executeIn | executeString => exact (guarded _).bind
  | perform | resolveClass | newSymbol | fetchObjectInfo | clearStack | continueProcess =>
      exact guarded _
  | performString | className | fetchString | fetchAllOops | removeAllMethods =>
      exact (guarded _).bind
  | run | runSource => exact (guarded _).bind
  | newSourceString | storeTraversal | fetchTraversal => exact guarded _
  | compileMethod | compiledMethodAt => exact (guarded _).bind
  | abort | beginTransaction | commit => exact guarded _
  | printString oop =>
      rw [local?] at remote
      simp only [on, Session.printString, remote]
      exact (guarded _).bind
  | classOf oop =>
      have heap : ¬oop.isSpecial = true := by simpa [local?] using remote
      simp only [on, Session.classOf, if_neg heap]
      exact guarded _
  | fetchOops oop start count =>
      have some : ¬count = 0 := by simpa [local?] using remote
      simp only [on, Session.fetchOops, if_neg some]
      exact guarded _
  | fetchStringArray array =>
      have array : ¬array.isNil = true := by simpa [local?] using remote
      simp only [on, Session.fetchStringArray, if_neg array]
      exact (guarded _).bind.bind
  | discardError error =>
      have left : error.process?.isSome = true := by
        simpa [local?, Option.isSome_iff_ne_none] using remote
      exact Session.heeds_discardError left

/-- Operations that return with their result. -/
def blocks : Operation → Bool
  | run .. | runSource .. => false
  | _ => true

theorem along_of_blocks (h : s.Carries R) {op : Operation} (blocks : op.blocks = true) :
    Along R (op.on s).run := by
  cases op with
  | execute source => exact h.execute source
  | executeDebuggable source => exact h.executeDebuggable source
  | executeIn source context => exact h.executeIn source context
  | executeString source => exact h.executeString source
  | perform receiver selector args => exact h.perform receiver selector args
  | performString receiver selector args => exact h.performString receiver selector args
  | printString oop => exact h.printString oop
  | resolveClass name => exact h.resolveClass name
  | classOf oop => exact h.classOf oop
  | className cls => exact h.className cls
  | newSymbol name => exact h.newSymbol name
  | newSourceString source => exact h.newSourceString source
  | fetchString oop => exact h.fetchString oop
  | fetchAllOops oop => exact h.fetchAllOops oop
  | fetchOops oop start count => exact h.fetchOops oop start count
  | fetchStringArray array => exact h.fetchStringArray array
  | fetchObjectInfo oop => exact h.fetchObjectInfo oop
  | clearStack process => exact h.clearStack process
  | continueProcess process => exact h.continueProcess process
  | discardError error => exact .lift (h.discardError error)
  | compileMethod cls source category env => exact h.compileMethod cls source category env
  | removeAllMethods cls => exact h.removeAllMethods cls
  | compiledMethodAt cls selector env => exact h.compiledMethodAt cls selector env
  | fetchTraversal oops args => exact h.fetchTraversal oops args
  | storeTraversal reports flags => exact h.storeTraversal reports flags
  | abort => exact h.abort
  | beginTransaction => exact h.beginTransaction
  | commit => exact h.commit
  | run | runSource => cases blocks

theorem along (h : s.Hosts R) (op : Operation) : Along R (op.on s).run := by
  cases op with
  | run config submission => exact h.run config submission
  | runSource config source => exact h.runSource config source
  | _ => exact along_of_blocks h.toCarries rfl

/-! ## The states of the session -/

theorem callState_of_outcome {op : Operation} {outcome : Outcome} {w : World}
    (ended : op.outcome? (op.on s w).1 = some outcome) :
    (op.on s w).2.callState s.id = Session.stateAfter (some outcome) := by
  cases op with
  | run config submission =>
      rcases ran : s.run config submission w with ⟨e | found, w'⟩
      · simp [on, ran, outcome?] at ended
      · obtain rfl : found = some outcome := by simpa [on, ran, outcome?] using ended
        simpa [on, ran] using Session.callState_run ran
  | runSource config source =>
      rcases ran : s.runSource config source w with ⟨e | found, w'⟩
      · simp [on, ran, outcome?] at ended
      · obtain rfl : found = some outcome := by simpa [on, ran, outcome?] using ended
        simpa [on, ran] using Session.callState_runSource ran
  | _ => cases ended

/-- An operation on an idle session leaves it idle, unless a non-blocking call does not end or has
been given up. -/
theorem idle_of_idle {op : Operation} {w : World} (idle : w.callState s.id = .idle)
    (ended : ¬op.Endless (op.on s w).1)
    (finished : op.outcome? (op.on s w).1 ≠ some (.cancelled false)) :
    (op.on s w).2.callState s.id = .idle := by
  cases op with
  | run config submission =>
      obtain ⟨found, w', ran, left⟩ := Session.run_of_ensureIdle config submission
        (Session.ensureIdle_of_idle idle)
      cases found with
      | none => simp [on, ran, Endless] at ended
      | some outcome =>
          have finished : outcome ≠ .cancelled false := by simpa [on, ran, outcome?] using finished
          simpa [on, ran, Session.stateAfter, finished] using left
  | runSource config source =>
      rcases ran : s.runSource config source w with ⟨e | found, w'⟩
      · simpa [on, ran] using Session.idle_of_runSource_error idle ran
      · have left := Session.callState_runSource ran
        cases found with
        | none => simp [on, ran, Endless] at ended
        | some outcome =>
            have finished : outcome ≠ .cancelled false := by
              simpa [on, ran, outcome?] using finished
            simpa [on, ran, Session.stateAfter, finished] using left
  | _ => exact along_of_blocks s.carries_staysIdle rfl w idle

/-- What an operation does, by the state in which it finds the session. -/
structure Disciplined (s : Session) (op : Operation) (w : World) : Prop where
  /-- Without the VM it is the same in every state. -/
  locally : ∀ value, op.local? = some value → op.on s w = (.ok value, w)
  outstanding : w.callState s.id = .outstanding →
    (op.on s w).1 = op.busyAnswer ∧ (op.on s w).2.transcript = w.transcript ∧
      (op.on s w).2.callState = w.callState
  /-- The abandoned call still runs: one poll, and the operation is refused. -/
  refused : w.callState s.id = .draining → op.local? = none → s.stillRuns w →
    (op.on s w).1 = op.refusal ∧ (op.on s w).2.transcript = w.transcript ++ [s.drainPoll w] ∧
      (op.on s w).2.callState = w.callState
  /-- The abandoned call is over: one poll, what clears its result, and then the operation runs as
  on an idle session. -/
  drained : w.callState s.id = .draining → op.local? = none → ¬s.stillRuns w →
    ∃ w' cleared own, w'.callState s.id = .idle ∧
      w'.transcript = w.transcript ++ s.drainPoll w :: cleared ∧ (∀ x ∈ cleared, s.Clears x) ∧
      op.on s w = op.on s w' ∧ (op.on s w).2.transcript = w'.transcript ++ own
  outcome : ∀ outcome, op.outcome? (op.on s w).1 = some outcome →
    (op.on s w).2.callState s.id = if outcome = .cancelled false then .draining else .idle

theorem disciplined (s : Session) (op : Operation) (w : World) : Disciplined s op w where
  locally value known := on_of_local known w
  outstanding outstanding := by
    have guard := Session.ensureIdle_of_outstanding outstanding
    cases known : op.local? with
    | some value =>
        rw [on_of_local known w, busyAnswer, known]
        exact ⟨rfl, rfl, rfl⟩
    | none =>
        obtain ⟨result, quiet⟩ := (heeds known).refused guard
        rw [busyAnswer, known]
        exact ⟨result, quiet.transcript, quiet.callState⟩
  refused draining remote runs := by
    obtain ⟨w', drain, asked, states⟩ := Session.drainOnce_of_stillRuns runs
    have guard : s.ensureIdle w = (.error .sessionBusy, w') := by
      rw [Session.ensureIdle_apply, draining, drain]
    obtain ⟨result, quiet⟩ := (heeds remote).refused guard
    exact ⟨result, quiet.transcript.trans asked, quiet.callState.trans states⟩
  drained draining remote ended := by
    obtain ⟨w', cleared, drain, asked, clears, states⟩ := Session.drainOnce_clears ended
    have guard : s.ensureIdle w = (.ok (), (setCallState s.id .idle w').2) := by
      rw [Session.ensureIdle_apply, draining, drain]
    have same := (heeds remote).passed guard
    obtain ⟨own, added, _⟩ := along s.hosts_own op
      (setCallState s.id .idle w').2
    refine ⟨_, cleared, own, Session.idle_of_ensureIdle guard, asked, clears, same, ?_⟩
    rw [same]
    exact added
  outcome _ ended := callState_of_outcome ended

/-! ## Runs -/

def steps (s : Session) : List Operation → World → List (Operation × World)
  | [], _ => []
  | op :: ops, w => (op, w) :: steps s ops (op.on s w).2

/-- Whatever the VM answers, and whatever has gone before: while a call is outstanding the other
operations make no call, an abandoned call is polled once before anything else, and a non-blocking
call leaves the session draining exactly when it was given up. -/
theorem busy_discipline (s : Session) (ops : List Operation) (w : World) :
    ∀ x ∈ steps s ops w, Disciplined s x.1 x.2 := by
  induction ops generalizing w with
  | nil => simp [steps]
  | cons op ops ih => exact List.forall_mem_cons.mpr ⟨disciplined s op w, ih _⟩

/-- Between a hard break that could not be drained and the end of the broken call. -/
theorem busy_discipline_draining :
    let s : Session := ⟨1, ⟨9⟩, ""⟩
    let w : World := {
      vm := fun _ _ c => match c with
        | .nbPoll _ => { status := .ok .notReady }
        | c => Foreign.refuse (.other "") c
      callState := fun _ => .draining
      horizon := 0 }
    (Operation.commit.on s w).1 = .error .sessionBusy ∧
      (Operation.commit.on s w).2.transcript = [s.drainPoll w] := by
  intro s w
  have commit := busy_discipline s [.commit] w (.commit, w) List.mem_cons_self
  obtain ⟨result, asked, _⟩ := commit.refused rfl rfl rfl
  exact ⟨result, asked⟩

/-- A step that ends leaves no call outstanding. -/
theorem not_outstanding_of_not_outstanding {op : Operation} {w : World}
    (free : w.callState s.id ≠ .outstanding) (ended : ¬op.Endless (op.on s w).1) :
    (op.on s w).2.callState s.id ≠ .outstanding := by
  have of_idle {w : World} (idle : w.callState s.id = .idle)
      (ended : ¬op.Endless (op.on s w).1) : (op.on s w).2.callState s.id ≠ .outstanding := by
    by_cases given : op.outcome? (op.on s w).1 = some (.cancelled false)
    · rw [callState_of_outcome given]
      simp [Session.stateAfter]
    · rw [idle_of_idle idle ended given]
      simp
  have step := disciplined s op w
  cases known : op.local? with
  | some value =>
      rw [step.locally value known]
      exact free
  | none =>
      cases found : w.callState s.id with
      | idle => exact of_idle found ended
      | outstanding => exact absurd found free
      | draining =>
          by_cases runs : s.stillRuns w
          · rw [(step.refused found known runs).2.2]
            exact free
          · obtain ⟨w', _, _, idle, _, _, same, _⟩ := step.drained found known runs
            rw [same] at ended ⊢
            exact of_idle idle ended

/-- In a run without an endless call every operation finds the session idle or draining. -/
theorem not_outstanding_of_mem_steps (ops : List Operation) {w : World}
    (free : w.callState s.id ≠ .outstanding)
    (ended : ∀ x ∈ steps s ops w, ¬x.1.Endless (x.1.on s x.2).1) :
    ∀ x ∈ steps s ops w, x.2.callState s.id ≠ .outstanding := by
  induction ops generalizing w with
  | nil => simp [steps]
  | cons op ops ih =>
      obtain ⟨first, others⟩ := List.forall_mem_cons.mp ended
      exact List.forall_mem_cons.mpr
        ⟨free, ih (not_outstanding_of_not_outstanding free first) others⟩

end Operation

end StoneDebug
