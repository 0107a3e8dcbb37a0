import StoneDebug.Foreign.Reply
import StoneDebug.Proofs.Session.Busy
import StoneDebug.Proofs.Session.Turn

/-! # Whether results are fetched

For its session a non-blocking call is over when its result has been fetched or a poll for it has
failed. `Exchange.InTurn` reads a list of exchanges with one bit of memory, whether a call is due;
every operation is read by it, and an idle session has none due. So a result is left at the VM exactly
when a poll has failed.
-/

namespace StoneDebug

namespace Exchange

def submits : Exchange → Bool
  | ⟨_, .nbExecute _, .ok _⟩ => true
  | ⟨_, .nbPerform _, .ok _⟩ => true
  | _ => false

def pollFails : Exchange → Bool
  | ⟨_, .nbPoll _, reply⟩ => match reply.status with
    | .error _ => true
    | .ok _ => false
  | _ => false

def ends (x : Exchange) : Bool := decide x.Fetches || x.pollFails

/-- Non-blocking calls come one after the other: a call is submitted when none is due, and the one
that is due ends once. -/
def InTurn : (due : Bool) → List Exchange → (left : Bool) → Prop
  | due, [], left => due = left
  | due, x :: xs, left =>
    if x.submits then due = false ∧ InTurn true xs left
    else if x.ends then due = true ∧ InTurn false xs left
    else InTurn due xs left

/-- What is done before the next call is submitted. -/
def untilNext (xs : List Exchange) : List Exchange := xs.takeWhile fun x => !x.submits

section

variable {x : Exchange} {xs ys : List Exchange} {due mid left : Bool}

theorem not_submits_of_ends (ends : x.ends = true) : x.submits = false := by
  obtain ⟨handle, call, reply⟩ := x
  cases call with
  | nbExecute | nbPerform => simp [Exchange.ends, Fetches, pollFails] at ends
  | _ => rfl

theorem pollFails_of_fetches (fetches : x.Fetches) : x.pollFails = false := by
  obtain ⟨handle, call, reply⟩ := x
  obtain rfl : call = .nbResult := fetches
  rfl

theorem inTurn_of_ends (ends : x.ends = true) : InTurn true [x] false := by
  rw [InTurn, if_neg (by simp [not_submits_of_ends ends]), if_pos ends]
  exact ⟨rfl, rfl⟩

theorem inTurn_of_submits (submits : x.submits = true) : InTurn false [x] true := by
  rw [InTurn, if_pos submits]
  exact ⟨rfl, rfl⟩

theorem inTurn_of_neither (submits : x.submits = false) (ends : x.ends = false) (due : Bool) :
    InTurn due [x] due := by
  rw [InTurn, if_neg (by simp [submits]), if_neg (by simp [ends])]
  rfl

/-- Reading goes on with what the first part leaves. -/
theorem inTurn_append :
    InTurn due (xs ++ ys) left ↔ ∃ mid, InTurn due xs mid ∧ InTurn mid ys left := by
  induction xs generalizing due with
  | nil => simp [InTurn]
  | cons x xs ih =>
      rw [List.cons_append, InTurn]
      simp only [InTurn, ih]
      split
      · simp only [and_assoc, exists_and_left]
      · split
        · simp only [and_assoc, exists_and_left]
        · rfl

/-- With no call due there is nothing to end. -/
theorem InTurn.rests (turn : InTurn false xs left) : ∀ x ∈ untilNext xs, x.ends = false := by
  induction xs with
  | nil => simp [untilNext]
  | cons x xs ih =>
      by_cases submits : x.submits = true
      · simp [untilNext, submits]
      · by_cases ends : x.ends = true
        · rw [InTurn, if_neg submits, if_pos ends] at turn
          cases turn.1
        · rw [InTurn, if_neg submits, if_neg ends] at turn
          have next : untilNext (x :: xs) = x :: untilNext xs := by simp [untilNext, submits]
          rw [next]
          exact List.forall_mem_cons.mpr ⟨by simpa using ends, ih turn⟩

/-- A call that is over was fetched once, or a poll for it has failed and it was not fetched. -/
theorem InTurn.fetches_eq (turn : InTurn true xs left)
    (ended : left = false ∨ ∃ y ∈ xs, y.submits = true) :
    (untilNext xs).countP Fetches = if (untilNext xs).any pollFails then 0 else 1 := by
  induction xs with
  | nil =>
      obtain rfl : true = left := turn
      simp at ended
  | cons x xs ih =>
      by_cases submits : x.submits = true
      · rw [InTurn, if_pos submits] at turn
        cases turn.1
      · have next : untilNext (x :: xs) = x :: untilNext xs := by simp [untilNext, submits]
        rw [InTurn, if_neg submits] at turn
        rw [next]
        by_cases ends : x.ends = true
        · rw [if_pos ends] at turn
          have rests := turn.2.rests
          have fetched : (untilNext xs).countP Fetches = 0 := by
            refine List.countP_eq_zero.mpr fun y member => ?_
            have rest := rests y member
            simp_all [Exchange.ends]
          have failed : (untilNext xs).any pollFails = false := by
            refine List.any_eq_false.mpr fun y member => ?_
            have rest := rests y member
            simp_all [Exchange.ends]
          by_cases fetches : x.Fetches
          · simp [fetched, failed, fetches, pollFails_of_fetches fetches]
          · have fails : x.pollFails = true := by simpa [Exchange.ends, fetches] using ends
            simp [fetched, fetches, fails]
        · rw [if_neg ends] at turn
          have neither : ¬x.Fetches ∧ x.pollFails = false := by simpa [Exchange.ends] using ends
          have later : left = false ∨ ∃ y ∈ xs, y.submits = true := by simpa [submits] using ended
          simpa [neither] using ih turn later

end

end Exchange

/-! ## Worlds -/

/-- From one world to the other the exchanges are in turn, and the states of the sessions are as
before. -/
def Takes (due left : Bool) (w w' : World) : Prop :=
  (∃ made, w'.transcript = w.transcript ++ made ∧ Exchange.InTurn due made left) ∧
    w'.callState = w.callState

namespace Takes

variable {due mid left : Bool} {w w₁ w' : World}

theorem trans (first : Takes due mid w w₁) (second : Takes mid left w₁ w') :
    Takes due left w w' := by
  obtain ⟨⟨made, eq, turn⟩, states⟩ := first
  obtain ⟨⟨made', eq', turn'⟩, states'⟩ := second
  refine ⟨⟨made ++ made', ?_, Exchange.inTurn_append.mpr ⟨mid, turn, turn'⟩⟩, states'.trans states⟩
  rw [eq', eq, List.append_assoc]

theorem of_same (transcript : w'.transcript = w.transcript) (states : w'.callState = w.callState)
    (due : Bool) : Takes due due w w' :=
  ⟨⟨[], by simpa using transcript, rfl⟩, states⟩

end Takes

theorem lasts_takes (due : Bool) : Lasts (Takes due due) where
  refl _ := .of_same rfl rfl due
  trans := .trans

/-- What `act` leaves due is told by its result. -/
def Settles {α : Type} (due : Bool) (left : α → Bool) (act : Act α) : Prop :=
  ∀ w, Takes due (left (act w).1) w (act w).2

namespace Settles

variable {α β : Type} {due : Bool}

theorem bind {mid : α → Bool} {left : β → Bool} {act : Act α} {next : α → Act β}
    (first : Settles due mid act) (second : ∀ a, Settles (mid a) left (next a)) :
    Settles due left (act >>= next) :=
  fun w => (first w).trans (second _ _)

theorem pure {left : α → Bool} {a : α} (same : left a = due) :
    Settles due left (Pure.pure a : Act α) := by
  subst same
  exact fun w => (lasts_takes _).refl w

theorem of_along {act : Act α} (along : Along (Takes due due) act) :
    Settles due (fun _ => due) act :=
  along

theorem read : Settles due (fun _ => due) (get : Act World) := fun w => (lasts_takes due).refl w

end Settles

theorem takes_log (severity : Severity) (target text : String) (due : Bool) :
    Along (Takes due due) (logRecord severity target text) :=
  fun _ => .of_same rfl rfl due

theorem takes_aside (a : Aside) (due : Bool) : Along (Takes due due) (addAside a) :=
  fun _ => .of_same rfl rfl due

namespace Session

variable {s : Session}

theorem settles_call {c : Call} {due : Bool} {left : c.Reply → Bool}
    (turn : ∀ reply, Exchange.InTurn due [⟨some s.handle, c, reply⟩] (left reply)) :
    Settles due left (s.call c) :=
  fun w => ⟨⟨_, rfl, turn (w.vm w.transcript (some s.handle) c)⟩, rfl⟩

/-- Other calls make no difference. -/
theorem takes_call (s : Session) {c : Call} (other : c.blocks = true ∨ ∃ hard, c = .interrupt hard)
    (due : Bool) : Along (Takes due due) (s.call c) := by
  refine settles_call fun reply => Exchange.inTurn_of_neither ?_ ?_ due
  · rcases other with blocks | ⟨hard, rfl⟩
    · cases c <;> first | rfl | cases blocks
    · rfl
  · rcases other with blocks | ⟨hard, rfl⟩
    · cases c <;> first | rfl | cases blocks
    · rfl

theorem settles_nbResult (s : Session) : Settles true (fun _ => false) (s.call .nbResult) :=
  settles_call fun _ => Exchange.inTurn_of_ends (by simp [Exchange.ends, Exchange.Fetches])

theorem settles_issue (s : Session) (request : Submission) :
    Settles false Except.isOk (request.issue s) := by
  have turn (c : Call) (reply : c.Reply) (accepted : Bool)
      (submits : (⟨some s.handle, c, reply⟩ : Exchange).submits = accepted)
      (ends : (⟨some s.handle, c, reply⟩ : Exchange).ends = false) :
      Exchange.InTurn false [⟨some s.handle, c, reply⟩] accepted := by
    cases accepted with
    | false => exact Exchange.inTurn_of_neither submits ends false
    | true => exact Exchange.inTurn_of_submits submits
  cases request with
  | execute request =>
      refine settles_call (c := .nbExecute request) fun reply => turn _ reply _ ?_ rfl
      cases reply <;> rfl
  | perform send =>
      refine settles_call (c := .nbPerform send) fun reply => turn _ reply _ ?_ rfl
      cases reply <;> rfl

/-- A poll that fails ends the call. -/
theorem settles_poll (s : Session) : Settles true Except.isOk (s.poll 0) := by
  intro w
  obtain ⟨w', polled, asked, states⟩ := s.poll_apply w
  rw [polled]
  refine ⟨⟨[s.drainPoll w], asked, ?_⟩, states⟩
  cases status : (w.vm w.transcript (some s.handle) (.nbPoll 0)).status with
  | ok seen =>
      refine Exchange.inTurn_of_neither rfl ?_ true
      simp [Exchange.ends, Exchange.Fetches, drainPoll, Exchange.pollFails, status]
  | error e =>
      refine Exchange.inTurn_of_ends ?_
      simp [Exchange.ends, drainPoll, Exchange.pollFails, status]

theorem settles_discardResult (s : Session) : Settles true (fun _ => false) s.discardResult := by
  have lasts := lasts_takes false
  refine .bind s.settles_nbResult fun result => .of_along ?_
  split
  · exact .pure lasts _
  · split
    · exact .pure lasts _
    · have log (severity : Severity) (target text : String) := takes_log severity target text false
      refine .bind lasts (s.takes_call (.inl rfl) false) fun cleared => ?_
      exact .bind lasts (.warnOn lasts log _ _ cleared) fun _ => .pure lasts _

/-- What is not drained is still due. -/
theorem settles_drainOnce (s : Session) : Settles true not s.drainOnce := by
  refine .bind s.settles_poll fun status => ?_
  match status with
  | .ok .ready => exact .bind s.settles_discardResult fun _ => .pure rfl
  | .ok .notReady => exact .pure rfl
  | .error e => exact .bind (.of_along (takes_log _ _ _ _)) fun _ => .pure rfl

end Session

/-! ## Pollers -/

namespace Poller

variable {p : Poller}

/-- A call that still runs is due, and so is one that was given up before it ended. -/
def owes (p : Poller) : Bool :=
  match p.state with
  | .polling _ => true
  | .finished outcome => outcome == .cancelled false
  | .idle => false

theorem settles_drainUntil (s : Session) (config : PollConfig) (deadline attempt : Nat) :
    Settles true not (drainUntil s config deadline attempt) := by
  intro w
  fun_induction drainUntil s config deadline attempt w with
  | case1 attempt w w' drained => simpa [drained] using s.settles_drainOnce w
  | case2 attempt w w' running late =>
      have drained : Takes true true w w' := by simpa [running] using s.settles_drainOnce w
      exact drained.trans (.of_same rfl rfl true)
  | case3 attempt w w' running early ih =>
      have drained : Takes true true w w' := by simpa [running] using s.settles_drainOnce w
      have slept : Takes true true w' (sleep (config.backoff attempt) w').2 := .of_same rfl rfl true
      exact (drained.trans slept).trans ih

theorem settles_finish (p : Poller) (outcome : Outcome) :
    Settles (outcome == .cancelled false) owes (p.finish outcome) := by
  intro w
  rw [finish_apply]
  show Takes _ (outcome == .cancelled false) w _
  split
  · exact takes_aside _ _ w
  · exact (lasts_takes _).refl w

theorem takes_showProgress (p : Poller) (elapsed : Nat) (due : Bool) :
    Along (Takes due due) (p.showProgress elapsed) := by
  have lasts := lasts_takes due
  dsimp only [showProgress]
  split
  · refine .bind lasts (takes_aside _ due) fun _ => ?_
    split
    · exact .bind lasts (takes_aside _ due) fun _ => .pure lasts _
    · exact .pure lasts _
  · split
    · exact .bind lasts (takes_aside _ due) fun _ => .pure lasts _
    · exact .pure lasts _

theorem takes_interrupt (p : Poller) (hard : Bool) (due : Bool) :
    Along (Takes due due) (p.interrupt hard) := by
  have lasts := lasts_takes due
  have call := p.session.takes_call (.inr ⟨hard, rfl⟩) due
  refine .bind lasts (takes_log _ _ _ due) fun _ => .bind lasts call fun reply => ?_
  split
  · exact .pure lasts _
  · exact .bind lasts (takes_log _ _ _ due) fun _ => .pure lasts _

theorem settles_look (p : Poller) (attempt elapsed : Nat) :
    Settles true owes (p.look attempt elapsed) := by
  refine .bind (.of_along (p.takes_showProgress elapsed true)) fun p => ?_
  refine .bind p.session.settles_poll fun status => ?_
  match status with
  | .ok .notReady => exact .pure rfl
  | .ok .ready =>
      refine .bind p.session.settles_nbResult fun result => ?_
      cases result with
      | ok result => exact p.settles_finish (.ready result)
      | error e => exact p.settles_finish (.failed e)
  | .error e => exact p.settles_finish (.failed e)

theorem settles_poll (p : Poller) : Settles p.owes owes p.poll := by
  intro w
  cases state : p.state with
  | idle | finished =>
      rw [poll_of_resting (by simp [state])]
      exact (lasts_takes _).refl w
  | polling attempt =>
      have owes : p.owes = true := by simp [Poller.owes, state]
      rw [poll_of_polling state, owes]
      split
      · split
        · have soft := Settles.of_along (p.takes_interrupt false true)
          exact Settles.bind soft (fun softened => softened.settles_look _ _) w
        · have hard := Settles.of_along (p.takes_interrupt true true)
          refine Settles.bind hard (fun broken => ?_) w
          have drains : Settles true not broken.drain := fun w => settles_drainUntil _ _ _ _ w
          refine .bind drains fun drained => ?_
          cases drained with
          | false => exact broken.settles_finish (.cancelled false)
          | true => exact broken.settles_finish (.cancelled true)
      · exact p.settles_look _ _ w

theorem settles_submit (fresh : p.state = .idle) (request : Submission) :
    Settles false owes (p.submit request) := by
  unfold submit
  rw [fresh]
  refine .bind (p.session.settles_issue request) fun submitted => .bind .read fun w => ?_
  cases submitted with
  | ok _ => exact .pure rfl
  | error e => exact settles_finish _ (.failed e)

end Poller

/-! ## Sessions -/

/-- Whether a call may be due in this state. -/
def CallState.Allows : CallState → (due : Bool) → Prop
  | idle, due => due = false
  | outstanding, _ => True
  | draining, due => due = true

theorem CallState.exists_allows (state : CallState) : ∃ due, state.Allows due := by
  cases state with
  | idle => exact ⟨false, rfl⟩
  | outstanding => exact ⟨true, trivial⟩
  | draining => exact ⟨true, rfl⟩

namespace Session

variable {s : Session}

theorem settles_await (polls : Nat) (p : Poller) (w : World) :
    ∃ left, Takes p.owes left w (Poller.await polls p w).2 ∧
      (stateAfter (Poller.await polls p w).1).Allows left := by
  induction polls generalizing p w with
  | zero => exact ⟨p.owes, (lasts_takes _).refl w, trivial⟩
  | succ polls ih =>
      have polled := p.settles_poll w
      rcases ran : p.poll w with ⟨p', w'⟩
      rw [ran] at polled
      have again : ∃ left, Takes p.owes left w (Poller.await polls p' (sleep p'.nextDelay w').2).2 ∧
          (stateAfter (Poller.await polls p' (sleep p'.nextDelay w').2).1).Allows left := by
        obtain ⟨left, later, allows⟩ := ih p' (sleep p'.nextDelay w').2
        have slept : Takes p'.owes p'.owes w' (sleep p'.nextDelay w').2 := .of_same rfl rfl _
        exact ⟨left, (polled.trans slept).trans later, allows⟩
      rw [Poller.await, act_bind_of ran]
      cases state : p'.state with
      | idle => exact again
      | polling attempt => exact again
      | finished outcome =>
          refine ⟨p'.owes, polled, ?_⟩
          show (stateAfter (some outcome)).Allows p'.owes
          rw [stateAfter, Poller.owes, state]
          split
          · next given => simp [CallState.Allows, given]
          · next ended => simpa [CallState.Allows] using ended

/-- Whatever may be due before, the exchanges are in turn, and what they leave may be due after. -/
def Accounts (s : Session) (w w' : World) : Prop :=
  ∃ made, w'.transcript = w.transcript ++ made ∧
    ∀ due, (w.callState s.id).Allows due →
      ∃ left, (w'.callState s.id).Allows left ∧ Exchange.InTurn due made left

theorem lasts_accounts (s : Session) : Lasts s.Accounts where
  refl w := ⟨[], by simp, fun due allows => ⟨due, allows, rfl⟩⟩
  trans := by
    rintro w w₁ w₂ ⟨made, eq, turn⟩ ⟨made', eq', turn'⟩
    refine ⟨made ++ made', by rw [eq', eq, List.append_assoc], fun due allows => ?_⟩
    obtain ⟨mid, allows, first⟩ := turn due allows
    obtain ⟨left, allows, second⟩ := turn' mid allows
    exact ⟨left, allows, Exchange.inTurn_append.mpr ⟨mid, first, second⟩⟩

theorem accounts_of_same {w w' : World} (transcript : w'.transcript = w.transcript)
    (states : w'.callState = w.callState) : s.Accounts w w' :=
  ⟨[], by simpa using transcript, fun due allows => ⟨due, by rwa [states], rfl⟩⟩

/-- A step that knows what is due before it. -/
theorem accounts_of_takes {due left : Bool} {w w' : World}
    (takes : Takes due left w w') (before : ∀ due', (w.callState s.id).Allows due' → due' = due)
    (after : (w.callState s.id).Allows due → (w'.callState s.id).Allows left) :
    s.Accounts w w' := by
  obtain ⟨⟨made, eq, turn⟩, _⟩ := takes
  refine ⟨made, eq, fun due' allows => ?_⟩
  obtain rfl := before due' allows
  exact ⟨left, after allows, turn⟩

theorem accounts_ensureIdle (s : Session) : Along s.Accounts s.ensureIdle.run := by
  intro w
  show s.Accounts w (s.ensureIdle w).2
  rw [ensureIdle_apply]
  cases state : w.callState s.id with
  | idle => exact s.lasts_accounts.refl w
  | outstanding => exact s.lasts_accounts.refl w
  | draining =>
      have takes := s.settles_drainOnce w
      have due (due : Bool) (allows : (w.callState s.id).Allows due) : due = true := by
        rwa [state] at allows
      rcases drained : s.drainOnce w with ⟨_ | _, w'⟩
      · rw [drained] at takes
        refine accounts_of_takes takes due fun _ => ?_
        rw [takes.2, state]
        rfl
      · rw [drained] at takes
        have idle := callState_setCallState s.id .idle w'
        obtain ⟨⟨made, eq, turn⟩, _⟩ := takes
        refine ⟨made, eq, fun due' allows => ⟨false, ?_, ?_⟩⟩
        · rw [idle]
          rfl
        · rw [due due' allows]
          exact turn

theorem carries_accounts (s : Session) : s.Carries s.Accounts where
  toLasts := s.lasts_accounts
  call c blocks w := by
    refine ⟨_, rfl, fun due allows => ⟨due, allows, ?_⟩⟩
    obtain ⟨⟨made, eq, turn⟩, _⟩ := s.takes_call (.inl blocks) due w
    rwa [List.append_cancel_left eq]
  log _ _ _ _ := accounts_of_same rfl rfl
  ensureIdle := s.accounts_ensureIdle
  setHelperClass _ _ := accounts_of_same rfl rfl

/-- From the moment at which the session was claimed to the end of the call. -/
theorem accounts_claimed (config : PollConfig) (submission : Submission) {w w₁ : World}
    (passed : s.ensureIdle w = (.ok (), w₁)) :
    s.Accounts w₁ (s.run config submission w).2 := by
  let claimed := (setCallState s.id .outstanding w₁).2
  have begun : s.beginCall w = (.ok (), claimed) := (attempt_bind_ok passed).trans rfl
  have submitted := Poller.settles_submit (p := { session := s, config }) rfl submission claimed
  rcases sent : Poller.submit { session := s, config } submission claimed with ⟨p, w₂⟩
  rw [sent] at submitted
  obtain ⟨left, awaited, allows⟩ := settles_await w₂.horizon p w₂
  rcases ended : Poller.await w₂.horizon p w₂ with ⟨outcome, w₃⟩
  rw [ended] at awaited allows
  have ran : Poller.run { session := s, config } submission claimed = (outcome, w₃) :=
    (act_bind_of sent).trans ended
  obtain ⟨found, w', closed, state⟩ := run_of_ensureIdle config submission passed
  -- What follows the poller only changes the state of the session.
  have opened : s.run config submission w = (.ok outcome, w') ∧ w'.transcript = w₃.transcript := by
    rw [Session.run, attempt_bind_ok begun, attempt_bind_ok (attempt_lift_of ran)] at closed ⊢
    rcases outcome with _ | ⟨_ | _ | ⟨_ | _⟩⟩ <;> cases closed <;> exact ⟨rfl, rfl⟩
  obtain rfl : found = outcome := by
    have same := closed.symm.trans opened.1
    cases same
    rfl
  obtain ⟨⟨made, eq, turn⟩, _⟩ := submitted.trans awaited
  rw [closed]
  refine ⟨made, opened.2.trans eq, fun due idle => ⟨left, by rwa [state], ?_⟩⟩
  rw [idle_of_ensureIdle passed] at idle
  obtain rfl : due = false := idle
  exact turn

theorem accounts_run (config : PollConfig) (submission : Submission) :
    Along s.Accounts (s.run config submission).run := by
  intro w
  have guarded := s.accounts_ensureIdle w
  show s.Accounts w (s.run config submission w).2
  rcases guard : s.ensureIdle w with ⟨e | _, w₁⟩
  · have refused : s.beginCall w = (.error e, w₁) := attempt_bind_error guard
    rw [Session.run, attempt_bind_error refused]
    simpa [ExceptT.run, guard] using guarded
  · have before : s.Accounts w w₁ := by simpa [ExceptT.run, guard] using guarded
    exact s.lasts_accounts.trans before (accounts_claimed config submission guard)

theorem accounts_runSource (config : PollConfig) (source : String) :
    Along s.Accounts (s.runSource config source).run :=
  .attemptBind s.lasts_accounts (s.carries_accounts.execution _ _) fun _ => accounts_run _ _

end Session

namespace Operation

variable {s : Session}

theorem accounts_on (s : Session) (op : Operation) : Along s.Accounts (op.on s).run := by
  cases op with
  | run config submission => exact Session.accounts_run config submission
  | runSource config source => exact Session.accounts_runSource config source
  | _ => exact along_of_blocks s.carries_accounts rfl

def after (s : Session) : List Operation → World → World
  | [], w => w
  | op :: ops, w => after s ops (op.on s w).2

theorem after_along {R : World → World → Prop} (lasts : Lasts R)
    (each : ∀ op : Operation, Along R (op.on s).run) (ops : List Operation) (w : World) :
    R w (after s ops w) := by
  induction ops generalizing w with
  | nil => exact lasts.refl w
  | cons op ops ih => exact lasts.trans (each op w) (ih _)

/-- Whatever the VM answers: when the session is idle, and whenever another call is submitted, the
result of each call submitted before has been fetched, once, unless a poll for that call has failed;
then it has not been fetched and never is. -/
theorem fetched_unless_poll_failed (s : Session) (ops : List Operation) (w : World) :
    let w' := after s ops w
    ∃ made, w'.transcript = w.transcript ++ made ∧ (∀ x ∈ made, s.Own x) ∧
      ∀ before x later, made = before ++ x :: later → x.submits = true →
        (w'.callState s.id = .idle ∨ ∃ y ∈ later, y.submits = true) →
        let own := Exchange.untilNext later
        own.countP Exchange.Fetches = if own.any Exchange.pollFails then 0 else 1 := by
  intro w'
  obtain ⟨made, eq, turn⟩ := after_along s.lasts_accounts (accounts_on s) ops w
  obtain ⟨made', eq', own⟩ := after_along (lasts_adds s.Own) (along s.hosts_own) ops w
  obtain rfl : made = made' := List.append_cancel_left (eq.symm.trans eq')
  refine ⟨made, eq, own, ?_⟩
  rintro before x later rfl submits ended
  obtain ⟨due, allows⟩ := (w.callState s.id).exists_allows
  obtain ⟨left, allows, turn⟩ := turn due allows
  obtain ⟨mid, _, turn⟩ := Exchange.inTurn_append.mp turn
  rw [Exchange.InTurn, if_pos submits] at turn
  refine turn.2.fetches_eq (ended.imp_left fun idle => ?_)
  rwa [idle] at allows

/-- The first poll fails, and each send answers its receiver, the oldest one first: the session is
idle with nothing fetched, and the second send is given the result of the first. -/
theorem earlier_result_given_to_later :
    let s : Session := ⟨1, ⟨9⟩, ""⟩
    let yourself (i : Int) : Submission := .perform ⟨.ofSmallInt i, "yourself", [], 0, 0⟩
    let vm : VM := fun history _ c => match c with
      | .nbPerform _ => .ok ()
      | .nbPoll _ => { status := if history.length = 1 then .error (.vm { number := 1 }) else .ok .ready }
      | .nbResult =>
        let results := history.filterMap fun x => match x.call with
          | .nbPerform send => some send.receiver
          | _ => none
        .ok (results.getD (history.countP Exchange.Fetches) .nil)
      | c => Foreign.refuse (.other "") c
    let w := after s [.run {} (yourself 1)] { vm, horizon := 2 }
    (w.transcript.any Exchange.submits = true ∧ w.callState 1 = .idle ∧
      w.transcript.countP Exchange.Fetches = 0) ∧
      (s.run {} (yourself 2) w).1.toOption = some (some (.ready (.ofSmallInt 1))) := by
  decide +kernel

end Operation

end StoneDebug
