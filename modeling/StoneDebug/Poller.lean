import StoneDebug.Session.Basic

/-! # Pollers

A poller drives one non-blocking call: it submits the call, polls with growing delays, shows progress
when the call takes long, and turns requests to end it into a soft break and then a hard one.

    idle → polling → finished (ready, failed or cancelled)
-/

namespace StoneDebug

structure PollConfig where
  /-- Milliseconds between polls; the last delay repeats. -/
  backoffMs : List Nat := [1, 2, 5, 10, 20, 50, 100, 200, 500]
  /-- Milliseconds after which progress is shown. -/
  progressAfterMs : Nat := 1000
  /-- Milliseconds that a call is polled for its result after a hard break. -/
  drainTimeoutMs : Nat := 2000
deriving Repr, DecidableEq

/-- The delay after a number of polls; half a second when no delays are given. -/
def PollConfig.backoff (c : PollConfig) (attempt : Nat) : Nat :=
  match c.backoffMs with
  | [] => 500
  | first :: rest => (first :: rest).getD (min attempt rest.length) 500

inductive Submission where
  | execute (request : Execution)
  | perform (send : Send)
deriving Repr, DecidableEq

def firstLine (cs : List Char) : List Char :=
  let line := cs.takeWhile (· != '\n')
  if line.length < cs.length && line.getLast? == some '\r' then line.dropLast else line

/-- The first forty characters of a source's first line, marked when that is not all of it. -/
def Submission.title : Submission → String
  | .execute request =>
    let title := String.ofList ((firstLine request.source.toList).take 40)
    let more := title.utf8ByteSize < request.source.utf8ByteSize
    "Executing " ++ title ++ (if more then "..." else "")
  | .perform send => "Performing #" ++ send.selector

def Submission.issue (s : Session) : Submission → Attempt Unit
  | .execute request => ExceptT.mk (s.call (.nbExecute request))
  | .perform send => ExceptT.mk (s.call (.nbPerform send))

inductive Outcome where
  | ready (result : Oop)
  | failed (error : CallError)
  /-- Ended by a hard break. When not drained, the call was still running when the poller gave up. -/
  | cancelled (drained : Bool)
deriving Repr, DecidableEq

def Outcome.process? : Outcome → Option Oop
  | .failed e => e.process?
  | _ => none

inductive PollState where
  | idle
  | polling (attempt : Nat)
  | finished (outcome : Outcome)
deriving Repr, DecidableEq

structure Poller where
  session : Session
  config : PollConfig
  state : PollState := .idle
  title : String := ""
  /-- The time of the submission. -/
  started : Nat := 0
  interrupts : Nat := 0
  /-- Whether progress has been shown. -/
  shown : Bool := false
deriving Repr, DecidableEq

namespace Poller

/-! ## Draining

A poll takes time, so a deadline is reached.
-/

/-- Time does not go back while `act` is carried out. -/
def Timely {α : Type} (act : Act α) : Prop := ∀ w, w.clock ≤ (act w).2.clock

theorem timely_pure {α : Type} (a : α) : Timely (pure a) := fun _ => Nat.le_refl _

theorem clock_le_bind {α β : Type} {act : Act α} {next : α → Act β}
    (second : ∀ a, Timely (next a)) (w : World) : (act w).2.clock ≤ ((act >>= next) w).2.clock :=
  second _ _

theorem timely_bind {α β : Type} {act : Act α} {next : α → Act β} (first : Timely act)
    (second : ∀ a, Timely (next a)) : Timely (act >>= next) :=
  fun w => Nat.le_trans (first w) (clock_le_bind second w)

theorem timely_ask (handle : Option Handle) (call : Call) : Timely (ask handle call) :=
  fun _ => Nat.le_refl _

theorem timely_logRecord (severity : Severity) (target text : String) :
    Timely (logRecord severity target text) :=
  fun _ => Nat.le_refl _

theorem timely_warnOn {ε α : Type} (what : String) (text : ε → String) (result : Except ε α) :
    Timely (warnOn what text result) := by
  cases result with
  | ok a => exact timely_pure _
  | error e => exact timely_bind (timely_logRecord _ _ _) fun _ => timely_pure _

theorem timely_interject (i : Interjection) : Timely (interject i) := by
  cases i with
  | cancel => exact fun _ => Nat.le_refl _
  | request seq pause =>
    refine timely_bind (fun _ => Nat.le_refl _) fun w => ?_
    split <;> exact fun _ => Nat.le_refl _

theorem timely_interjectAll (is : List Interjection) : Timely (interjectAll is) := by
  induction is with
  | nil => exact timely_pure _
  | cons i rest ih => exact timely_bind (timely_interject i) fun _ => ih

theorem clock_lt_poll (s : Session) (timeout : Int) (w : World) :
    w.clock < (s.poll timeout w).2.clock := by
  refine Nat.lt_of_lt_of_le ?_ (timely_interjectAll _ _)
  show w.clock < w.clock + 1 + _
  omega

theorem timely_discardResult (s : Session) : Timely s.discardResult := by
  refine timely_bind (timely_ask _ _) fun result => ?_
  split
  · exact timely_pure _
  · split
    · exact timely_pure _
    · exact timely_bind (timely_ask _ _) fun r =>
        timely_bind (timely_warnOn _ _ r) fun _ => timely_pure _

theorem clock_lt_drainOnce (s : Session) (w : World) : w.clock < (s.drainOnce w).2.clock := by
  refine Nat.lt_of_lt_of_le (clock_lt_poll s 0 w) ?_
  unfold Session.drainOnce
  refine clock_le_bind (fun result => ?_) w
  split
  · exact timely_bind (timely_discardResult s) fun _ => timely_pure _
  · exact timely_pure _
  · exact timely_bind (timely_logRecord _ _ _) fun _ => timely_pure _

/-- Tries to drain until it succeeds or the deadline has passed, with the delays of the schedule. -/
def drainUntil (s : Session) (config : PollConfig) (deadline attempt : Nat) (w : World) :
    Bool × World :=
  match drained : s.drainOnce w with
  | (true, w') => (true, w')
  | (false, w') =>
    if deadline ≤ w'.clock then
      (do
        logRecord .warn "gci" s!"session {s.id}: cancelled call still running, left draining"
        return false : Act Bool) w'
    else drainUntil s config deadline (attempt + 1) (sleep (config.backoff attempt) w').2
termination_by deadline - w.clock
decreasing_by
  have later : w.clock < w'.clock := by simpa [drained] using clock_lt_drainOnce s w
  have sleeps : (sleep (config.backoff attempt) w').2.clock =
    w'.clock + config.backoff attempt * 1000 := rfl
  rw [sleeps]
  omega

def drain (p : Poller) : Act Bool := fun w =>
  drainUntil p.session p.config (w.clock + p.config.drainTimeoutMs * 1000) 0 w

/-! ## Polling -/

/-- The end of a call; progress that was shown is taken away. -/
def finish (p : Poller) (outcome : Outcome) : Act Poller := do
  if p.shown then addAside (.progress .finish)
  return { p with state := .finished outcome }

def interrupt (p : Poller) (hard : Bool) : Act Poller := do
  let kind := if hard then "hard" else "soft"
  let id := p.session.id
  logRecord .info "gci" s!"session {id}: {kind} break requested"
  match ← p.session.call (.interrupt hard) with
  | .ok _ => pure ()
  | .error e => logRecord .warn "gci" (s!"session {id}: {kind} break: " ++ e.message)
  return { p with interrupts := p.interrupts + 1 }

/-- Issues the call. A failure on the spot finishes the poller, and a poller serves one call only. -/
def submit (p : Poller) (request : Submission) : Act Poller := do
  match p.state with
  | .idle =>
    let submitted ← request.issue p.session
    let p := { p with title := request.title, started := (← get).clock }
    match submitted with
    | .ok _ => return { p with state := .polling 0 }
    | .error e => p.finish (.failed e)
  | _ =>
    logRecord .warn "gci" "poller already used, submit ignored"
    return p

def showProgress (p : Poller) (elapsed : Nat) : Act Poller := do
  let late := p.config.progressAfterMs * 1000 ≤ elapsed
  if !p.shown && late then addAside (.progress (.start p.title))
  let p := { p with shown := p.shown || late }
  if p.shown then addAside (.progress (.update elapsed))
  return p

def look (p : Poller) (attempt elapsed : Nat) : Act Poller := do
  let p ← p.showProgress elapsed
  match ← p.session.poll 0 with
  | .ok .notReady => return { p with state := .polling (attempt + 1) }
  | .ok .ready =>
    match ← p.session.call .nbResult with
    | .ok result => p.finish (.ready result)
    | .error e => p.finish (.failed e)
  | .error e => p.finish (.failed e)

/-- One poll without waiting. The first request to end the call is passed on as a soft break; a later
poll that sees another one breaks hard and gives the call up. -/
def poll (p : Poller) : Act Poller := do
  match p.state with
  | .polling attempt =>
    let w ← get
    let elapsed := w.clock - p.started
    if p.interrupts < w.token.requests then
      if p.interrupts = 0 then
        let p ← p.interrupt false
        p.look attempt elapsed
      else
        let p ← p.interrupt true
        let drained ← p.drain
        p.finish (.cancelled drained)
    else p.look attempt elapsed
  | _ => return p

def nextDelay (p : Poller) : Nat :=
  match p.state with
  | .polling attempt => p.config.backoff (attempt - 1)
  | _ => 0

/-- Polls until the call is finished; `none` when it is not after so many polls. -/
def await : (polls : Nat) → Poller → Act (Option Outcome)
  | 0, _ => return none
  | n + 1, p => do
    let p ← p.poll
    match p.state with
    | .finished outcome => return some outcome
    | _ =>
      sleep p.nextDelay
      await n p

/-- Submits a call and waits for its end; `none` for a call that is never finished. -/
def run (p : Poller) (request : Submission) : Act (Option Outcome) := do
  let p ← p.submit request
  await (← get).horizon p

end Poller

end StoneDebug
