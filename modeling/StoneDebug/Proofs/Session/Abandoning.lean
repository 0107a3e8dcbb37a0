import StoneDebug.Proofs.Session.Fetching

/-! # Abandoned calls

A call that was given up after a hard break is still due. The operations tried after it only look
whether it is over, until one of them finds that it is: that one fetches the result, clears what a
failure has left, and goes on as on an idle session.
-/

namespace StoneDebug

namespace Exchange

/-- The suspended process of a result that is an error. -/
def left? : Exchange → Option Oop
  | ⟨_, .nbResult, .error e⟩ => e.process?
  | _ => none

/-- A result is fetched right after a poll that has found the call ready, and the next exchange
clears the process that it has left. `ready` says whether the exchange before was such a poll. -/
def Tidy : (ready : Bool) → List Exchange → Prop
  | _, [] => True
  | ready, x :: xs =>
    (x.Fetches → ready = true) ∧
      (∀ process, x.left? = some process →
        ∃ reply, xs.head? = some ⟨x.handle, .clearStack process, reply⟩) ∧
      Tidy x.foundReady xs

section

variable {x : Exchange} {xs ys : List Exchange} {ready due left : Bool}

theorem left?_of_not_fetches (other : ¬x.Fetches) : x.left? = none := by
  obtain ⟨handle, call, reply⟩ := x
  cases call with
  | nbResult => exact absurd rfl other
  | _ => rfl

theorem tidy_of_not_fetches (others : ∀ x ∈ xs, ¬x.Fetches) : Tidy ready xs := by
  induction xs generalizing ready with
  | nil => trivial
  | cons x xs ih =>
      obtain ⟨first, others⟩ := List.forall_mem_cons.mp others
      exact ⟨fun fetches => absurd fetches first, by simp [left?_of_not_fetches first], ih others⟩

/-- It does no harm to follow a poll that has found the call ready. -/
theorem Tidy.of_false (tidy : Tidy false xs) : Tidy ready xs := by
  cases xs with
  | nil => trivial
  | cons x xs =>
      obtain ⟨fetched, others⟩ := tidy
      exact ⟨fun fetches => absurd (fetched fetches) Bool.false_ne_true, others⟩

theorem Tidy.append (tidy : Tidy ready xs) (tidy' : Tidy false ys) : Tidy ready (xs ++ ys) := by
  induction xs generalizing ready with
  | nil => exact tidy'.of_false
  | cons x xs ih =>
      obtain ⟨fetched, cleared, tidy⟩ := tidy
      refine ⟨fetched, fun process left => ?_, ih tidy⟩
      obtain ⟨reply, next⟩ := cleared process left
      exact ⟨reply, by simp [List.head?_append, next]⟩

theorem countP_fetches (others : ∀ x ∈ xs, ¬x.Fetches) : xs.countP Fetches = 0 :=
  List.countP_eq_zero.mpr (by simpa using others)

theorem untilNext_append (others : ∀ x ∈ xs, x.submits = false) :
    untilNext (xs ++ ys) = xs ++ untilNext ys :=
  List.takeWhile_append_of_pos (by simpa using others)

theorem InTurn.not_fetches (turn : InTurn false xs left) : ∀ x ∈ untilNext xs, ¬x.Fetches := by
  intro x member
  have rests := turn.rests x member
  simp only [Exchange.ends, Bool.or_eq_false_iff, decide_eq_false_iff_not] at rests
  exact rests.1

/-- When a call is due after all and none was before, the last one submitted is due. -/
theorem InTurn.last_submits (turn : InTurn due xs true) :
    (due = true ∧ ∀ x ∈ xs, x.submits = false ∧ ¬x.Fetches) ∨
      ∃ before x after, xs = before ++ x :: after ∧ x.submits = true ∧
        ∀ y ∈ after, y.submits = false ∧ ¬y.Fetches := by
  induction xs generalizing due with
  | nil =>
      left
      exact ⟨turn, by simp⟩
  | cons x xs ih =>
      by_cases submits : x.submits = true
      · rw [InTurn, if_pos submits] at turn
        right
        rcases ih turn.2 with ⟨_, others⟩ | ⟨before, y, after, rfl, found⟩
        · exact ⟨[], x, xs, rfl, submits, others⟩
        · exact ⟨x :: before, y, after, rfl, found⟩
      · rw [InTurn, if_neg submits] at turn
        by_cases ends : x.ends = true
        · rw [if_pos ends] at turn
          right
          rcases ih turn.2 with ⟨none, _⟩ | ⟨before, y, after, rfl, found⟩
          · cases none
          · exact ⟨x :: before, y, after, rfl, found⟩
        · rw [if_neg ends] at turn
          rcases ih turn with ⟨due, others⟩ | ⟨before, y, after, rfl, found⟩
          · have neither : ¬x.Fetches ∧ x.pollFails = false := by simpa [Exchange.ends] using ends
            left
            exact ⟨due, List.forall_mem_cons.mpr ⟨⟨by simpa using submits, neither.1⟩, others⟩⟩
          · right
            exact ⟨x :: before, y, after, rfl, found⟩

end

end Exchange

namespace Session

variable {s : Session} {w w' : World}

/-- The exchanges by which an abandoned call comes to its end: the poll for it fails, or its result
is fetched and the process that a failure has left is cleared. -/
inductive Ending (s : Session) : List Exchange → Prop where
  | lost {reply : PollReply} {e : CallError} (failed : reply.status = .error e) :
      Ending s [⟨some s.handle, .nbPoll 0, reply⟩]
  | fetched {reply : PollReply} {result : Except CallError Oop} (ready : reply.status = .ok .ready)
      (clean : ∀ e, result = .error e → e.process? = none) :
      Ending s [⟨some s.handle, .nbPoll 0, reply⟩, ⟨some s.handle, .nbResult, result⟩]
  | cleared {reply : PollReply} {e : CallError} {process : Oop} (cleared : Except CallError Unit)
      (ready : reply.status = .ok .ready) (left : e.process? = some process) :
      Ending s [⟨some s.handle, .nbPoll 0, reply⟩, ⟨some s.handle, .nbResult, .error e⟩,
        ⟨some s.handle, .clearStack process, cleared⟩]

namespace Ending

variable {drained : List Exchange}

theorem not_submits (ends : s.Ending drained) : ∀ x ∈ drained, x.submits = false := by
  cases ends <;> simp [Exchange.submits]

theorem fetches_le (ends : s.Ending drained) : drained.countP Exchange.Fetches ≤ 1 := by
  cases ends <;> simp [Exchange.Fetches]

theorem tidy (ends : s.Ending drained) : Exchange.Tidy false drained := by
  cases ends with
  | lost failed => exact Exchange.tidy_of_not_fetches (by simp [Exchange.Fetches])
  | @fetched reply result ready clean =>
      cases result with
      | ok value => simp [Exchange.Tidy, Exchange.Fetches, Exchange.left?, Exchange.foundReady, ready]
      | error e =>
          simp [Exchange.Tidy, Exchange.Fetches, Exchange.left?, Exchange.foundReady, ready,
            clean e rfl]
  | cleared cleared ready left =>
      simp [Exchange.Tidy, Exchange.Fetches, Exchange.left?, Exchange.foundReady, ready, left]

end Ending

theorem discardResult_ends {reply : PollReply} (ready : reply.status = .ok .ready) (w : World) :
    ∃ made, (s.discardResult w).2.transcript = w.transcript ++ made ∧
      s.Ending (⟨some s.handle, .nbPoll 0, reply⟩ :: made) := by
  have asked : s.call .nbResult w = (w.vm w.transcript (some s.handle) .nbResult,
      w.noting [⟨some s.handle, .nbResult, w.vm w.transcript (some s.handle) .nbResult⟩]) := rfl
  rw [discardResult, act_bind_of asked]
  cases w.vm w.transcript (some s.handle) .nbResult with
  | ok value => exact ⟨_, rfl, .fetched ready nofun⟩
  | error e =>
      let w₁ := w.noting [⟨some s.handle, .nbResult, .error e⟩]
      cases left : e.process? with
      | none =>
          simp only [left]
          exact ⟨_, rfl, .fetched ready (by simp [left])⟩
      | some process =>
          simp only [left]
          let reply := w₁.vm w₁.transcript (some s.handle) (.clearStack process)
          have logged := Along.warnOn lasts_quiet
            (fun severity target text w => (gathers_logRecord severity target text w).toQuiet)
            "clear stack of drained call: " CallError.message reply
            (w₁.noting [⟨some s.handle, .clearStack process, reply⟩])
          refine ⟨_, logged.transcript.trans ?_, .cleared reply ready left⟩
          simp [w₁, World.noting]

theorem drainOnce_ends (ended : ¬s.stillRuns w) :
    ∃ w' drained, s.drainOnce w = (true, w') ∧ w'.transcript = w.transcript ++ drained ∧
      s.Ending drained := by
  obtain ⟨w', drained, asked, _⟩ := drainOnce_of_over ended
  cases status : (w.vm w.transcript (some s.handle) (.nbPoll 0)).status with
  | error e =>
      rw [status] at drained
      exact ⟨w', _, drained, asked, .lost status⟩
  | ok status' =>
      rw [status] at drained
      cases status' with
      | notReady => exact absurd status ended
      | ready =>
          obtain ⟨made, discarded, ends⟩ := discardResult_ends status w'
          refine ⟨_, _, drained, ?_, ends⟩
          rw [discarded, asked, List.append_assoc, List.singleton_append]
          rfl

end Session

namespace Operation

variable {s : Session} {op : Operation} {w w' : World} {later : List (Operation × World)}
  {state : CallState}

def exchanges (s : Session) (op : Operation) (w : World) : List Exchange :=
  (op.on s w).2.transcript.drop w.transcript.length

theorem exchanges_of {made : List Exchange}
    (asked : (op.on s w).2.transcript = w.transcript ++ made) : exchanges s op w = made := by
  rw [exchanges, asked, List.drop_left]

theorem transcript_on (s : Session) (op : Operation) (w : World) :
    (op.on s w).2.transcript = w.transcript ++ exchanges s op w := by
  obtain ⟨made, asked, _⟩ := along s.hosts_own op w
  have asked : (op.on s w).2.transcript = w.transcript ++ made := asked
  rw [exchanges_of asked, asked]

/-- Operations that are tried one after the other, each with the world that it finds. In between
anything may happen that leaves the session in its state. -/
def Follows (s : Session) : CallState → List (Operation × World) → Prop
  | _, [] => True
  | state, (op, w) :: later =>
    w.callState s.id = state ∧ Follows s ((op.on s w).2.callState s.id) later

def trace (s : Session) (xs : List (Operation × World)) : List Exchange :=
  xs.flatMap fun x => exchanges s x.1 x.2

theorem trace_cons (s : Session) (op : Operation) (w : World) (later : List (Operation × World)) :
    trace s ((op, w) :: later) = exchanges s op w ++ trace s later := rfl

/-- What an operation does that finds an abandoned call. -/
inductive Tries (s : Session) (op : Operation) (w : World) : Prop where
  /-- It needs no VM. -/
  | locally {value : op.Value} (known : op.local? = some value) (same : op.on s w = (.ok value, w))
  /-- The call still runs, and the operation is refused. -/
  | waits (runs : s.stillRuns w) (answer : (op.on s w).1 = op.refusal)
      (polled : exchanges s op w = [s.drainPoll w])
      (states : (op.on s w).2.callState = w.callState)
  /-- The call is over. It is brought to its end before anything else, and then the session is idle,
  whatever the VM has answered. -/
  | ends {w' : World} {drained : List Exchange} (ends : s.Ending drained)
      (asked : w'.transcript = w.transcript ++ drained) (idle : w'.callState s.id = .idle)
      (same : op.on s w = op.on s w')

theorem tries (op : Operation) (draining : w.callState s.id = .draining) : Tries s op w := by
  have step := disciplined s op w
  cases known : op.local? with
  | some value => exact .locally known (step.locally value known)
  | none =>
      by_cases runs : s.stillRuns w
      · obtain ⟨answer, polled, states⟩ := step.refused draining known runs
        exact .waits runs answer (exchanges_of polled) states
      · obtain ⟨w', drained, drain, asked, ends⟩ := Session.drainOnce_ends runs
        have guard : s.ensureIdle w = (.ok (), (setCallState s.id .idle w').2) := by
          rw [Session.ensureIdle_apply, draining, drain]
        have asked : (setCallState s.id .idle w').2.transcript = w.transcript ++ drained := asked
        exact .ends ends asked (Session.idle_of_ensureIdle guard) ((heeds known).passed guard)

theorem Follows.inTurn {due : Bool} (follows : Follows s state later) (allows : state.Allows due) :
    ∃ left, Exchange.InTurn due (trace s later) left := by
  induction later generalizing state due with
  | nil => exact ⟨due, rfl⟩
  | cons x later ih =>
      obtain ⟨op, w⟩ := x
      obtain ⟨rfl, follows⟩ := follows
      obtain ⟨made, asked, turn⟩ := accounts_on s op w
      obtain ⟨mid, allows, first⟩ := turn due allows
      obtain ⟨left, second⟩ := ih follows allows
      rw [trace_cons, exchanges_of asked]
      exact ⟨left, Exchange.inTurn_append.mpr ⟨mid, first, second⟩⟩

/-- While a call is abandoned its result is fetched at most once, and tidily. -/
theorem Follows.tidy (follows : Follows s .draining later) :
    (Exchange.untilNext (trace s later)).countP Exchange.Fetches ≤ 1 ∧
      Exchange.Tidy false (Exchange.untilNext (trace s later)) := by
  induction later with
  | nil => exact ⟨Nat.zero_le _, trivial⟩
  | cons x later ih =>
      obtain ⟨op, w⟩ := x
      obtain ⟨draining, follows⟩ := follows
      rw [trace_cons]
      cases tries op draining with
      | locally known same =>
          rw [same, draining] at follows
          rw [exchanges_of (by rw [same, List.append_nil]), List.nil_append]
          exact ih follows
      | waits runs answer polled states =>
          rw [states, draining] at follows
          obtain ⟨once, tidy⟩ := ih follows
          have other : ¬(s.drainPoll w).Fetches := Exchange.not_fetches_of_polls rfl
          have unready : (s.drainPoll w).foundReady = false := by
            simp [Exchange.foundReady, Session.drainPoll, show _ = _ from runs]
          rw [polled, Exchange.untilNext_append (by simp [Session.drainPoll, Exchange.submits])]
          constructor
          · simpa [other] using once
          · refine ⟨fun fetches => absurd fetches other, ?_, ?_⟩
            · simp [Exchange.left?_of_not_fetches other]
            · rwa [unready]
      | @ends w' drained ends asked idle same =>
          have own : exchanges s op w = drained ++ exchanges s op w' := by
            refine exchanges_of ?_
            rw [same, transcript_on, asked, List.append_assoc]
          rw [same] at follows
          -- From here on the session is idle, so nothing is fetched before another call is submitted.
          have follows : Follows s .idle ((op, w') :: later) := ⟨idle, follows⟩
          have rested : CallState.idle.Allows false := rfl
          obtain ⟨left, turn⟩ := follows.inTurn rested
          have rests := turn.not_fetches
          rw [trace_cons] at rests
          rw [own, List.append_assoc, Exchange.untilNext_append ends.not_submits]
          constructor
          · rw [List.countP_append, Exchange.countP_fetches rests]
            exact ends.fetches_le
          · exact ends.tidy.append (Exchange.tidy_of_not_fetches rests)

theorem outcome?_of_local {value : op.Value} (known : op.local? = some value) :
    op.outcome? (.ok value) = none := by
  cases op with
  | run | runSource => cases known
  | _ => rfl

theorem outcome?_refusal (op : Operation) : op.outcome? op.refusal = none := by
  cases op <;> rfl

theorem outcome?_busyAnswer (op : Operation) : op.outcome? op.busyAnswer = none := by
  cases known : op.local? with
  | some value =>
      rw [busyAnswer, known]
      exact outcome?_of_local known
  | none =>
      rw [busyAnswer, known]
      exact outcome?_refusal op

/-- A call that is given up was submitted, and nothing has been fetched since. -/
theorem submitted_of_given_up (given : op.outcome? (op.on s w).1 = some (.cancelled false)) :
    ∃ before x after, exchanges s op w = before ++ x :: after ∧ x.submits = true ∧
      ∀ y ∈ after, y.submits = false ∧ ¬y.Fetches := by
  have of_idle {w : World} (idle : w.callState s.id = .idle)
      (given : op.outcome? (op.on s w).1 = some (.cancelled false)) :
      ∃ before x after, exchanges s op w = before ++ x :: after ∧ x.submits = true ∧
        ∀ y ∈ after, y.submits = false ∧ ¬y.Fetches := by
    have draining : (op.on s w).2.callState s.id = .draining := callState_of_outcome given
    obtain ⟨made, asked, turn⟩ : s.Accounts w (op.on s w).2 := accounts_on s op w
    rw [idle, draining] at turn
    obtain ⟨left, rfl, turn⟩ := turn false rfl
    rw [exchanges_of asked]
    rcases turn.last_submits with ⟨none, _⟩ | submitted
    · cases none
    · exact submitted
  cases found : w.callState s.id with
  | idle => exact of_idle found given
  | outstanding =>
      rw [((disciplined s op w).outstanding found).1, outcome?_busyAnswer] at given
      cases given
  | draining =>
      cases tries op found with
      | locally known same =>
          rw [same, outcome?_of_local known] at given
          cases given
      | waits runs answer polled states =>
          rw [answer, outcome?_refusal] at given
          cases given
      | @ends w' drained ends asked idle same =>
          rw [same] at given
          obtain ⟨before, x, after, eq, submits, others⟩ := of_idle idle given
          refine ⟨drained ++ before, x, after, ?_, submits, others⟩
          rw [List.append_assoc, ← eq]
          apply exchanges_of
          rw [same, transcript_on, asked, List.append_assoc]

/-- Whatever the VM answers, and whatever happens in between: when a call is given up and other
operations are tried on the session, its result is fetched at most once, right after a poll that has
found it ready, and the process that a failure has left is cleared by the very next call. Every
operation that finds the call abandoned only polls for it, or else ends it first and then runs as on
an idle session. -/
theorem cleaned_up_when_abandoned
    (given : op.outcome? (op.on s w).1 = some (.cancelled false))
    (follows : Follows s (w.callState s.id) ((op, w) :: later)) :
    ∃ before x after, exchanges s op w = before ++ x :: after ∧ x.submits = true ∧
      (∀ y ∈ after, y.submits = false) ∧
      let own := Exchange.untilNext (after ++ trace s later)
      own.countP Exchange.Fetches ≤ 1 ∧ Exchange.Tidy false own ∧
        ∀ y ∈ later, y.2.callState s.id = .draining → Tries s y.1 y.2 := by
  obtain ⟨before, x, after, eq, submits, others⟩ := submitted_of_given_up given
  have follows : Follows s .draining later := by
    have later := follows.2
    rwa [callState_of_outcome given] at later
  obtain ⟨once, tidy⟩ := follows.tidy
  have quiet : ∀ y ∈ after, y.submits = false := fun y member => (others y member).1
  refine ⟨before, x, after, eq, submits, quiet, ?_⟩
  dsimp only
  rw [Exchange.untilNext_append quiet]
  have unfetched : ∀ y ∈ after, ¬y.Fetches := fun y member => (others y member).2
  refine ⟨?_, (Exchange.tidy_of_not_fetches unfetched).append tidy, fun y _ => tries y.1⟩
  rw [List.countP_append, Exchange.countP_fetches unfetched, Nat.zero_add]
  exact once

/-- A send survives a soft break and a hard one, and fails with a process before the next operation:
that process is cleared, and though the VM refuses to clear it the operation is carried out. -/
theorem cleaned_up_before_commit :
    let s : Session := ⟨1, ⟨9⟩, ""⟩
    let vm : VM := fun history _ c => match c with
      | .nbPerform _ | .interrupt _ => .ok ()
      | .nbPoll _ => { status := .ok (if history.length < 5 then .notReady else .ready) }
      | .nbResult => .error (.vm { number := 2010, context := ⟨769⟩ })
      | .commit => .ok true
      | c => Foreign.refuse (.other "") c
    let w : World := { vm, token := ⟨2⟩, horizon := 2 }
    let op : Operation := .run ⟨[1], 1000, 0⟩ (.perform { receiver := .nil, selector := "yourself" })
    let w' := (op.on s w).2
    (op.outcome? (op.on s w).1 = some (.cancelled false) ∧
      (exchanges s .commit w').map Exchange.call =
        [.nbPoll 0, .nbResult, .clearStack ⟨769⟩, .commit] ∧
      (s.commit w').1.toOption = some true) ∧
      ∃ before x after, exchanges s op w = before ++ x :: after ∧ x.submits = true ∧
        (∀ y ∈ after, y.submits = false) ∧
        let own := Exchange.untilNext (after ++ trace s [(.commit, w')])
        own.countP Exchange.Fetches ≤ 1 ∧ Exchange.Tidy false own ∧
          ∀ y ∈ [(.commit, w')], y.2.callState s.id = .draining → Tries s y.1 y.2 := by
  intro s vm w op w'
  have given : op.outcome? (op.on s w).1 = some (.cancelled false) := by decide +kernel
  have follows (op : Operation) (w : World) :
      Follows s (w.callState s.id) [(op, w), (.commit, (op.on s w).2)] := ⟨rfl, rfl, trivial⟩
  have asked : (exchanges s .commit w').map Exchange.call =
      [.nbPoll 0, .nbResult, .clearStack ⟨769⟩, .commit] := by decide +kernel
  have committed : (s.commit w').1.toOption = some true := by decide +kernel
  constructor
  · exact ⟨given, asked, committed⟩
  · exact cleaned_up_when_abandoned given (follows op w)

end Operation

end StoneDebug
