import StoneDebug.Adapter.Client
import StoneDebug.Proofs.Session.Polling

/-! # What serving a client does

Most of what a client's requests do is writing and keeping notes: `Writes` and `Notes` list what that
leaves alone. `Serves R` says what else a relation has to hold along for it to hold along the settings
of breakpoints, and `Evaluates s R` along the evaluation of a launch request in the session `s`.
-/

namespace StoneDebug.Adapter

/-- The request and the command that a message answers, unless it answers a request to end an
evaluation. -/
def Message.answer? : Message → Option (Int × String)
  | .response request command _ _ _ =>
    if command = "cancel" ∨ command = "pause" then none else some (request, command)
  | .event _ _ => none

/-- What a client is told: how its request went, or what has become of the process. -/
inductive Mark where
  | answer (request : Int) (command : String) (success : Bool)
  | stopped
  | terminated
deriving Repr, DecidableEq

def Mark.isAnswer : Mark → Bool
  | .answer _ _ _ => true
  | .stopped | .terminated => false

def Mark.ofEvent? : Event → Option Mark
  | .stopped _ _ => some .stopped
  | .terminated => some .terminated
  | .output _ _ | .breakpointChanged _ _ => none

/-- Answers to requests to end an evaluation do not count. -/
def Message.mark? : Message → Option Mark
  | .response request command success _ _ =>
    if command = "cancel" ∨ command = "pause" then none
    else some (.answer request command success)
  | .event name _ =>
    if name = "stopped" then some .stopped
    else if name = "terminated" then some .terminated
    else none

theorem mark?_ofEvent (e : Event) : (Message.ofEvent e).mark? = Mark.ofEvent? e := by
  cases e <;> simp [Message.ofEvent, Message.mark?, Mark.ofEvent?]

theorem answer?_of_mark? {message : Message} (plain : message.mark? = none) :
    message.answer? = none := by
  cases message with
  | response request command success text body =>
      simp only [Message.mark?] at plain
      split at plain
      · next ending => exact if_pos ending
      · cases plain
  | event name body => rfl

theorem response_of_mark? {m : Message} {request : Int} {command : String} {success : Bool}
    (tells : m.mark? = some (.answer request command success)) :
    ∃ text body, m = .response request command success text body := by
  cases m with
  | response request command success text body =>
      rw [Message.mark?] at tells
      split at tells <;> cases tells
      exact ⟨text, body, rfl⟩
  | event name body =>
      rw [Message.mark?] at tells
      split at tells
      · cases tells
      · split at tells <;> cases tells

namespace Client

def answered (c : Client) : List (Int × String) := c.wire.filterMap fun m => m.2.answer?

/-- All that the client was told by what was written, in order. -/
def ledger (c : Client) : List Mark := c.wire.filterMap fun m => m.2.mark?

def waiting (w : World) : List Mark := w.queue.waiting.filterMap Mark.ofEvent?

/-- Between the two states nothing was done but writing and keeping notes. -/
structure Speaks (x y : Client × World) : Prop where
  debug : y.1.debug = x.1.debug
  login : y.1.login = x.1.login
  launched : y.1.launched = x.1.launched
  quiet : Quiet x.2 y.2

/-- Moreover no request was answered. -/
structure Writes (x y : Client × World) : Prop extends Speaks x y where
  answered : y.1.answered = x.1.answered

/-- Moreover nothing was written, and what waits to be told goes on waiting. -/
structure Notes (x y : Client × World) : Prop extends Speaks x y where
  wire : y.1.wire = x.1.wire
  nextSeq : y.1.nextSeq = x.1.nextSeq
  terminated : y.1.terminated = x.1.terminated
  gathers : Gathers x.2 y.2

/-- Between the two states the client was told nothing, and nothing more waits to be told. -/
structure Murmurs (x y : Client × World) : Prop extends Writes x y where
  ledger : y.1.ledger = x.1.ledger
  terminated : y.1.terminated = x.1.terminated
  waiting : waiting y.2 = waiting x.2

theorem lasts_speaks : Lasts Speaks where
  refl x := ⟨rfl, rfl, rfl, lasts_quiet.refl x.2⟩
  trans h h' := ⟨h'.debug.trans h.debug, h'.login.trans h.login, h'.launched.trans h.launched,
    lasts_quiet.trans h.quiet h'.quiet⟩

theorem lasts_writes : Lasts Writes where
  refl x := ⟨lasts_speaks.refl x, rfl⟩
  trans h h' := ⟨lasts_speaks.trans h.toSpeaks h'.toSpeaks, h'.answered.trans h.answered⟩

theorem lasts_notes : Lasts Notes where
  refl x := ⟨lasts_speaks.refl x, rfl, rfl, rfl, lasts_gathers.refl x.2⟩
  trans h h' := ⟨lasts_speaks.trans h.toSpeaks h'.toSpeaks, h'.wire.trans h.wire,
    h'.nextSeq.trans h.nextSeq, h'.terminated.trans h.terminated,
    lasts_gathers.trans h.gathers h'.gathers⟩

theorem lasts_murmurs : Lasts Murmurs where
  refl x := ⟨lasts_writes.refl x, rfl, rfl, rfl⟩
  trans h h' := ⟨lasts_writes.trans h.toWrites h'.toWrites, h'.ledger.trans h.ledger,
    h'.terminated.trans h.terminated, h'.waiting.trans h.waiting⟩

variable {α : Type}

/-! ## Writing -/

/-- What is read off the messages that were written is extended by what the last one says. -/
theorem filterMap_send (f : Message → Option α) (message : Message) (c : Client) (w : World) :
    (send message c w).1.2.wire.filterMap (fun m => f m.2) =
      c.wire.filterMap (fun m => f m.2) ++ (f message).toList := by
  show (c.wire ++ [(c.nextSeq, message)]).filterMap _ = _
  rw [List.filterMap_append]
  cases found : f message <;> simp [found]

theorem answered_send (message : Message) (c : Client) (w : World) :
    (send message c w).1.2.answered = c.answered ++ message.answer?.toList :=
  filterMap_send Message.answer? message c w

theorem writes_send {message : Message} (plain : message.answer? = none) :
    Staged.Along Writes (send message) := by
  intro c w
  refine ⟨⟨rfl, rfl, rfl, lasts_quiet.refl w⟩, ?_⟩
  rw [answered_send, plain]
  exact List.append_nil _

theorem ledger_send (message : Message) (c : Client) (w : World) :
    (send message c w).1.2.ledger = c.ledger ++ message.mark?.toList :=
  filterMap_send Message.mark? message c w

theorem murmurs_send {message : Message} (plain : message.mark? = none) :
    Staged.Along Murmurs (send message) := by
  intro c w
  refine ⟨writes_send (answer?_of_mark? plain) c w, ?_, rfl, rfl⟩
  rw [ledger_send, plain]
  exact List.append_nil _

theorem notes_act {act : Act α} (gathers : Along Gathers act) :
    Staged.Along Notes (liftM act : Serving α) :=
  fun _ w => ⟨⟨rfl, rfl, rfl, (gathers w).toQuiet⟩, rfl, rfl, rfl, gathers w⟩

theorem writes_act {act : Act α} (quiet : Along Quiet act) :
    Staged.Along Writes (liftM act : Serving α) :=
  fun _ w => ⟨⟨rfl, rfl, rfl, quiet w⟩, rfl⟩

theorem murmurs_sendAside (a : Aside) : Staged.Along Murmurs (sendAside a) := by
  have lasts := lasts_murmurs
  cases a with
  | progress p =>
      cases p with
      | start title => exact .bind lasts (.get lasts) fun c => murmurs_send rfl
      | update elapsed =>
          refine .bind lasts (.get lasts) fun c => ?_
          split
          · refine .bind lasts (fun c w => ?_) fun _ => murmurs_send rfl
            exact ⟨⟨⟨rfl, rfl, rfl, lasts_quiet.refl w⟩, rfl⟩, rfl, rfl, rfl⟩
          · exact .pure lasts _
      | finish => exact .bind lasts (.get lasts) fun c => murmurs_send rfl
  | answered request pause accepted => exact murmurs_send (by cases pause <;> rfl)

theorem murmurs_sendAsides (asides : List Aside) : Staged.Along Murmurs (sendAsides asides) := by
  induction asides with
  | nil => exact .pure lasts_murmurs _
  | cons a asides ih => exact .bind lasts_murmurs (murmurs_sendAside a) fun _ => ih

theorem murmurs_flush : Staged.Along Murmurs flush := by
  refine .bind lasts_murmurs (fun c w => lasts_murmurs.refl (c, w)) fun w => ?_
  refine .bind lasts_murmurs (fun c w => ?_) fun _ => murmurs_sendAsides _
  exact ⟨⟨⟨rfl, rfl, rfl, rfl, rfl, rfl, rfl, rfl, rfl⟩, rfl⟩, rfl, rfl, rfl⟩

theorem writes_flush : Staged.Along Writes flush := murmurs_flush.mono Murmurs.toWrites

theorem writes_write {message : Message} (plain : message.answer? = none) :
    Staged.Along Writes (write message) :=
  .bind lasts_writes writes_flush fun _ => writes_send plain

theorem speaks_write (message : Message) : Staged.Along Speaks (write message) :=
  .bind lasts_speaks (writes_flush.mono fun h => h.toSpeaks) fun _ _ w =>
    ⟨rfl, rfl, rfl, lasts_quiet.refl w⟩

theorem writes_writeEvent (e : Event) : Staged.Along Writes (writeEvent e) := by
  cases e with
  | terminated =>
      refine .bind lasts_writes (.get lasts_writes) fun c => ?_
      split
      · refine .bind lasts_writes (fun c w => ?_) fun _ => writes_write rfl
        exact ⟨⟨rfl, rfl, rfl, lasts_quiet.refl w⟩, rfl⟩
      · exact .pure lasts_writes _
  | stopped => exact writes_write rfl
  | output => exact writes_write rfl
  | breakpointChanged => exact writes_write rfl

theorem writes_writeEvents (events : List Event) : Staged.Along Writes (writeEvents events) := by
  induction events with
  | nil => exact .pure lasts_writes _
  | cons e events ih => exact .bind lasts_writes (writes_writeEvent e) fun _ => ih

theorem writes_drainEvents : Staged.Along Writes drainEvents := by
  refine .bind lasts_writes (fun c w => lasts_writes.refl (c, w)) fun w => ?_
  refine .bind lasts_writes (fun c w => ?_) fun _ => writes_writeEvents _
  exact ⟨⟨rfl, rfl, rfl, rfl, rfl, rfl, rfl, rfl, rfl⟩, rfl⟩

/-- What follows every request. -/
theorem writes_closing (next : Next) : Staged.Along Writes (do
    if next ≠ .wait then drainEvents
    flush
    return next : Serving Next) := by
  dsimp only
  split
  · exact .bind lasts_writes writes_drainEvents fun _ =>
      .bind lasts_writes writes_flush fun _ => .pure lasts_writes _
  · exact .bind lasts_writes writes_flush fun _ => .pure lasts_writes _

section

variable {e : Envelope} {c c' : Client} {w w' : World}

theorem ends_closing {next : Next} (ended : next ≠ .wait) (c : Client) (w : World) :
    Staged.ends (do
      if next ≠ .wait then drainEvents
      flush
      return next : Serving Next) c w = Staged.ends (do drainEvents; flush) c w := by
  rcases drained : drainEvents c w with ⟨⟨_, c'⟩, w'⟩
  simp only [if_pos ended, Staged.ends, Staged.bind_of drained]
  rfl

/-- After a request that has come to its end, what waits is written and what is under way. -/
theorem ends_handle_of_ok {next : Next} (ended : next ≠ .wait)
    (performed : perform e c w = ((.ok next, c'), w')) :
    Staged.ends (handle e) c w = Staged.ends (do drainEvents; flush) c' w' := by
  have ran : (perform e).run c w = ((.ok next, c'), w') := performed
  rw [handle, Staged.ends, Staged.bind_of ran]
  exact ends_closing ended c' w'

theorem handle_of_wait (performed : perform e c w = ((.ok .wait, c'), w')) :
    (handle e c w).1.1 = .wait ∧ Staged.ends (handle e) c w = Staged.ends flush c' w' := by
  have ran : (perform e).run c w = ((.ok .wait, c'), w') := performed
  rw [handle, Staged.ends, Staged.bind_of ran]
  exact ⟨rfl, rfl⟩

/-- A failure is answered before what waits is written. -/
theorem ends_handle_of_error {cause : RequestError}
    (performed : perform e c w = ((.error cause, c'), w')) :
    Staged.ends (handle e) c w =
      Staged.ends (do refuse e cause.message; drainEvents; flush) c' w' := by
  have ran : (perform e).run c w = ((.error cause, c'), w') := performed
  rcases refused : refuse e cause.message c' w' with ⟨⟨_, c₁⟩, w₁⟩
  have ended : Next.proceed ≠ .wait := nofun
  rw [handle, Staged.ends, Staged.bind_of ran, Staged.ends, Staged.bind_of refused]
  dsimp only
  rw [Staged.bind_of refused]
  exact ends_closing ended c₁ w₁

end

theorem notes_number (as : List α) : Staged.Along Notes (number as) := by
  induction as with
  | nil => exact .pure lasts_notes _
  | cons a as ih =>
      refine .bind lasts_notes (fun c w => ?_) fun id => ?_
      · exact ⟨⟨rfl, rfl, rfl, lasts_quiet.refl w⟩, rfl, rfl, rfl, lasts_gathers.refl w⟩
      · exact .bind lasts_notes ih fun _ => .pure lasts_notes _

theorem quiet_logRecord (severity : Severity) (target text : String) :
    Along Quiet (logRecord severity target text) :=
  fun w => (gathers_logRecord severity target text w).toQuiet

theorem gathers_tellChanged (breakpoints : List PendingBreakpoint) (views : List BreakpointView) :
    Along Gathers (tellChanged breakpoints views) := by
  induction breakpoints generalizing views with
  | nil => exact .pure lasts_gathers _
  | cons b breakpoints ih =>
      cases views with
      | nil => exact .pure lasts_gathers _
      | cons view views => exact .bind lasts_gathers (gathers_pushEvent _) fun _ => ih views

/-! ## Closing -/

/-- Once the debug session has let go, the launched session is logged out; the rest is only noted. -/
theorem close_cases (c : Client) (w : World) :
    let x := Staged.ends (debugging Debug.disconnect) c w
    match c.launched with
    | none => Notes x (Staged.ends close c w)
    | some id => Notes ({ x.1 with launched := none }, (Registry.logout id x.2).2)
        (Staged.ends close c w) := by
  intro x
  have lasts := lasts_notes
  have unlog : Staged.Along Notes (do
      if (← get).logToClient then
        modify fun c => { c with logToClient := false }
        modifyThe World fun w => { w with queue := { w.queue with listening := none } }) := by
    refine .bind lasts (.get lasts) fun c => ?_
    split
    · have unheard : Along Gathers (modify fun w =>
          { w with queue := { w.queue with listening := none } } : Act PUnit) :=
        fun _ => ⟨⟨rfl, rfl, rfl, rfl, rfl, rfl⟩, List.prefix_rfl, rfl⟩
      refine .bind lasts (fun c w => ?_) fun _ => notes_act unheard
      exact ⟨⟨rfl, rfl, rfl, lasts_quiet.refl w⟩, rfl, rfl, rfl, lasts_gathers.refl w⟩
    · exact .pure lasts _
  have warn (result : Except CallError Unit) :
      Along Gathers (warnOn "logout: " CallError.message result) :=
    .warnOn lasts_gathers gathers_logRecord _ _ _
  rcases ran : debugging Debug.disconnect c w with ⟨⟨_, c₁⟩, w₁⟩
  have kept : c₁.launched = c.launched := congrArg (fun y => y.1.2.launched) ran.symm
  have same : x = (c₁, w₁) := Staged.ends_of ran
  rw [same, Staged.ends, close, Staged.bind_of ran, Staged.get_bind, kept]
  cases c.launched with
  | none => exact unlog c₁ w₁
  | some id =>
      have rest (result : Except CallError Unit) :=
        Staged.Along.bind lasts (.discarded lasts (notes_act (warn result))) fun _ => unlog
      exact rest (Registry.logout id w₁).1 { c₁ with launched := none } (Registry.logout id w₁).2

/-! ## Steps taken in turn -/

section

variable {R : Client × World → Client × World → Prop} (lasts : Lasts R)
  (note : ∀ {α : Type} {act : Act α}, Along Gathers act → Staged.Along R (liftM act : Serving α))
include lasts note

/-- Pending breakpoints are set document by document, and what becomes of them is noted. -/
theorem along_applyEach
    (set : ∀ path lines, Staged.Along R
      (debugging (Debug.noted .warn "pending breakpoints: " (Debug.setBreakpoints path lines))))
    (pending : List (String × List PendingBreakpoint)) : Staged.Along R (applyEach pending) := by
  induction pending with
  | nil => exact .pure lasts _
  | cons entry pending ih =>
      refine .bind lasts (set _ _) fun views => ?_
      split
      · exact ih
      · exact .bind lasts (note (gathers_tellChanged _ _)) fun _ => ih

variable {s : Session}
  (host : ∀ {α : Type} {act : Act α}, (∀ {P}, s.Hosts P → Along P act) →
    Staged.Along R (liftM act : Serving α))
  (attach : ∀ process message, Staged.Along R (debugging (Debug.attachSession s process message).run))
include host attach

theorem along_tellOutcome (stopOnError : Bool) (outcome : Outcome) :
    Staged.Along R (tellOutcome s stopOnError outcome).run := by
  have push (e : Event) : Staged.Along R (liftM (pushEvent e) : Handling Unit).run :=
    .lift (note (gathers_pushEvent e))
  cases outcome with
  | ready result =>
      have prints := host fun hosts => hosts.toCarries.printString result
      refine .attemptBind lasts (.lift prints) fun printed => ?_
      exact .attemptBind lasts (push _) fun _ => push _
  | failed e =>
      dsimp only [tellOutcome]
      split
      · exact .bind lasts (attach _ _) fun _ => .pure lasts _
      · refine .attemptBind lasts (.lift (host (·.toCarries.discardError e))) fun _ => ?_
        exact .attemptBind lasts (push _) fun _ => push _
  | cancelled drained => exact .attemptBind lasts (push _) fun _ => push _

theorem along_runExpression (expression : String) (stopOnError : Bool) :
    Staged.Along R (runExpression s expression stopOnError).run := by
  have set (token : World → CancelToken) (running : Bool) :
      Staged.Along R (liftM (modifyThe World (fun w => { w with token := token w, running }) :
        Serving Unit) : Handling Unit).run := by
    have gathers : Along Gathers
        (modify (fun w => { w with token := token w, running }) : Act PUnit) :=
      fun _ => ⟨⟨rfl, rfl, rfl, rfl, rfl, rfl⟩, List.prefix_rfl, rfl⟩
    exact fun c w => note gathers c w
  refine .attemptBind lasts (set (·.token.reset) true) fun _ => ?_
  refine .attemptBind lasts (.attemptGet lasts) fun c => ?_
  refine .attemptBind lasts (.lift (host (·.runSource _ _))) fun result => ?_
  split
  · exact .attemptPure lasts _
  · refine .attemptBind lasts (set (·.token) false) fun _ => ?_
    exact .attemptBind lasts (along_tellOutcome lasts note host attach _ _) fun _ =>
      .attemptPure lasts _
  · exact .attemptBind lasts (set (·.token) false) fun _ => .throw lasts _

end

/-! ## Breakpoints -/

/-- `R` holds along keeping notes and along the settings of breakpoints in the debug session. -/
structure Serves (R : Client × World → Client × World → Prop) : Prop extends Lasts R where
  notes : ∀ {x y}, Notes x y → R x y
  set : ∀ path lines, Staged.Along R (debugging (Debug.setBreakpoints path lines).run)
  setPending : ∀ path lines, Staged.Along R
    (debugging (Debug.noted .warn "pending breakpoints: " (Debug.setBreakpoints path lines)))

namespace Serves

variable {R : Client × World → Client × World → Prop} (h : Serves R)
include h

theorem noted {act : Serving α} (notes : Staged.Along Notes act) : Staged.Along R act :=
  fun c w => h.notes (notes c w)

theorem setBreakpoints (path : String) (lines : List Int) :
    Staged.Along R (setBreakpoints path lines) := by
  refine .bind h.toLasts (.get h.toLasts) fun c => ?_
  split
  · refine .bind h.toLasts (h.noted (notes_number _)) fun _ => ?_
    refine .bind h.toLasts (fun c w => h.notes ?_) fun _ => .pure h.toLasts _
    exact ⟨⟨rfl, rfl, rfl, lasts_quiet.refl w⟩, rfl, rfl, rfl, lasts_gathers.refl w⟩
  · refine .bind h.toLasts (h.set path lines) fun views => ?_
    split
    · exact h.noted (notes_number _)
    · exact .bind h.toLasts (h.noted (notes_act (gathers_logRecord _ _ _))) fun _ =>
        h.noted (notes_number _)

theorem applyEach (pending : List (String × List PendingBreakpoint)) :
    Staged.Along R (applyEach pending) :=
  along_applyEach h.toLasts (h.noted <| notes_act ·) h.setPending pending

theorem applyPending : Staged.Along R applyPending := by
  refine .bind h.toLasts (.get h.toLasts) fun _ => ?_
  refine .bind h.toLasts (fun c w => h.notes ?_) fun _ => h.applyEach _
  exact ⟨⟨rfl, rfl, rfl, lasts_quiet.refl w⟩, rfl, rfl, rfl, lasts_gathers.refl w⟩

end Serves

/-! ## Evaluations -/

/-- `R` holds also along calls of the session `s` and along attaching to a process of it. -/
structure Evaluates (s : Session) (R : Client × World → Client × World → Prop) : Prop
    extends Serves R where
  host : ∀ {α : Type} {act : Act α}, (∀ {P}, s.Hosts P → Along P act) →
    Staged.Along R (liftM act : Serving α)
  attach : ∀ process message,
    Staged.Along R (debugging (Debug.attachSession s process message).run)

namespace Evaluates

variable {s : Session} {R : Client × World → Client × World → Prop} (h : Evaluates s R)
include h

theorem runExpression (expression : String) (stopOnError : Bool) :
    Staged.Along R (runExpression s expression stopOnError).run :=
  along_runExpression h.toLasts (h.noted <| notes_act ·) h.host h.attach expression stopOnError

end Evaluates

end Client

end StoneDebug.Adapter
