import StoneDebug.Proofs.Adapter.Unwritten

/-! # What a client is told, and when

Handling a request opens with its answer, and what waits by then to be told follows. Of several ends
of the process only the first is ever told.
-/

namespace StoneDebug.Adapter.Client

/-- Those of the marks that are told, when the end of the process was told before or not. -/
def tellings : Bool → List Mark → List Mark
  | _, [] => []
  | true, .terminated :: rest => tellings true rest
  | false, .terminated :: rest => .terminated :: tellings true rest
  | told, m :: rest => m :: tellings told rest

theorem tellings_sublist (told : Bool) (marks : List Mark) :
    (tellings told marks).Sublist marks := by
  fun_induction tellings told marks with
  | case1 => exact .slnil
  | case2 rest ih => exact .cons _ ih
  | case3 rest ih => exact .cons_cons _ ih
  | case4 told m rest _ _ ih => exact .cons_cons _ ih

theorem tellings_singleton (told : Bool) (m : Mark) :
    tellings told [m] = if m = .terminated ∧ told = true then [] else [m] := by
  cases m <;> cases told <;> rfl

theorem tellings_append (told : Bool) (first second : List Mark) :
    tellings told (first ++ second) = tellings told first ++
      tellings (told || (tellings told first).contains .terminated) second := by
  fun_induction tellings told first with
  | case1 told => simp
  | case2 rest ih => simpa [tellings] using ih
  | case3 rest ih => simpa [tellings] using ih
  | case4 told m rest _ _ ih => cases m <;> cases told <;> simp_all [tellings]

/-- Nothing that waits is an answer. -/
theorem isAnswer_of_mem_waiting {w : World} {m : Mark} (member : m ∈ waiting w) :
    m.isAnswer = false := by
  obtain ⟨e, _, mark⟩ := List.mem_filterMap.mp member
  cases e <;> cases mark <;> rfl

/-! ## Writing -/

structure Told (marks : List Mark) (x y : Client × World) : Prop where
  ledger : y.1.ledger = x.1.ledger ++ marks
  terminated : y.1.terminated = (x.1.terminated || marks.contains .terminated)

theorem Told.trans {first second : List Mark} {x y z : Client × World} (h : Told first x y)
    (h' : Told second y z) : Told (first ++ second) x z where
  ledger := by rw [h'.ledger, h.ledger, List.append_assoc]
  terminated := by rw [h'.terminated, h.terminated, Bool.or_assoc, List.contains_append]

theorem told_nil {x y : Client × World} (ledger : y.1.ledger = x.1.ledger)
    (terminated : y.1.terminated = x.1.terminated) : Told [] x y :=
  ⟨by rw [ledger, List.append_nil], by rw [terminated]; simp⟩

theorem Murmurs.told {x y : Client × World} (h : Murmurs x y) : Told [] x y :=
  told_nil h.ledger h.terminated

theorem Unwritten.told {x y : Client × World} (h : Unwritten x y) : Told [] x y :=
  told_nil (by rw [Client.ledger, h.wire, Client.ledger]) h.terminated

theorem write_apply (message : Message) (c : Client) (w : World) :
    (Staged.ends (write message) c w).1.ledger = c.ledger ++ message.mark?.toList ∧
      (Staged.ends (write message) c w).1.terminated = c.terminated ∧
        waiting (Staged.ends (write message) c w).2 = waiting w := by
  have flushed := murmurs_flush c w
  rcases ran : flush c w with ⟨⟨_, c'⟩, w'⟩
  rw [Staged.ends_of ran] at flushed
  rw [write, Staged.ends, Staged.bind_of ran]
  refine ⟨?_, flushed.terminated, flushed.waiting⟩
  rw [ledger_send, flushed.ledger]

theorem told_write {message : Message} {m : Mark} (mark : message.mark? = some m)
    (other : m ≠ .terminated) (c : Client) (w : World) :
    Told [m] (c, w) (Staged.ends (write message) c w) := by
  obtain ⟨ledger, terminated, _⟩ := write_apply message c w
  rw [mark] at ledger
  exact ⟨ledger, by rw [terminated]; cases m <;> simp_all⟩

/-- The end of the process is told unless it was before. -/
theorem told_writeEvent (e : Event) (c : Client) (w : World) :
    Told (tellings c.terminated (Mark.ofEvent? e).toList) (c, w)
        (Staged.ends (writeEvent e) c w) ∧
      waiting (Staged.ends (writeEvent e) c w).2 = waiting w := by
  obtain ⟨ledger, terminated, same⟩ := write_apply (.ofEvent e) c w
  rw [mark?_ofEvent] at ledger
  cases e with
  | stopped | output | breakpointChanged =>
      refine ⟨⟨?_, terminated.trans ?_⟩, same⟩
      · cases c.terminated <;> exact ledger
      · cases c.terminated <;> simp [tellings, Mark.ofEvent?]
  | terminated =>
      cases told : c.terminated with
      | true =>
          have kept : writeEvent .terminated c w = (((), c), w) := by
            rw [writeEvent, Staged.get_bind, told]
            rfl
          rw [Staged.ends_of kept]
          exact ⟨told_nil rfl rfl, rfl⟩
      | false =>
          let c₁ : Client := { c with terminated := true }
          have first : writeEvent .terminated c w = write (.ofEvent .terminated) c₁ w := by
            rw [writeEvent, Staged.get_bind, told]
            rfl
          obtain ⟨ledger, terminated, same⟩ := write_apply (.ofEvent .terminated) c₁ w
          rw [Staged.ends, first]
          exact ⟨⟨ledger, terminated.trans (by simp [c₁, tellings, Mark.ofEvent?])⟩, same⟩

theorem told_writeEvents (events : List Event) (c : Client) (w : World) :
    Told (tellings c.terminated (events.filterMap Mark.ofEvent?)) (c, w)
        (Staged.ends (writeEvents events) c w) ∧
      waiting (Staged.ends (writeEvents events) c w).2 = waiting w := by
  induction events generalizing c w with
  | nil => exact ⟨by cases c.terminated <;> exact told_nil rfl rfl, rfl⟩
  | cons e events ih =>
      obtain ⟨first, kept⟩ := told_writeEvent e c w
      rcases ran : writeEvent e c w with ⟨⟨_, c'⟩, w'⟩
      rw [Staged.ends_of ran] at first kept
      obtain ⟨others, kept'⟩ := ih c' w'
      have marks : (e :: events).filterMap Mark.ofEvent? =
          (Mark.ofEvent? e).toList ++ events.filterMap Mark.ofEvent? := by
        cases mark : Mark.ofEvent? e <;> simp [mark]
      have flag : c'.terminated = (c.terminated ||
        (tellings c.terminated (Mark.ofEvent? e).toList).contains .terminated) := first.terminated
      rw [writeEvents, Staged.ends, Staged.bind_of ran, marks, tellings_append, ← flag]
      exact ⟨first.trans others, kept'.trans kept⟩

/-- What waits is told, and nothing waits then. -/
theorem told_drainEvents (c : Client) (w : World) :
    Told (tellings c.terminated (waiting w)) (c, w) (Staged.ends drainEvents c w) ∧
      waiting (Staged.ends drainEvents c w).2 = [] := by
  obtain ⟨told, kept⟩ := told_writeEvents w.queue.waiting c { w with queue := w.queue.take.2 }
  exact ⟨⟨told.ledger, told.terminated⟩, kept⟩

/-- What follows every request but one that is waited for. -/
theorem told_closing (c : Client) (w : World) :
    let y := Staged.ends (do drainEvents; flush) c w
    Told (tellings c.terminated (waiting w)) (c, w) y ∧ waiting y.2 = [] := by
  intro y
  obtain ⟨told, empty⟩ := told_drainEvents c w
  rcases drained : drainEvents c w with ⟨⟨_, c'⟩, w'⟩
  rw [Staged.ends_of drained] at told empty
  have flushed := murmurs_flush c' w'
  have same : y = Staged.ends flush c' w' := by
    show Staged.ends _ c w = _
    rw [Staged.ends, Staged.bind_of drained]
  rw [same]
  exact ⟨by simpa using told.trans flushed.told, flushed.waiting.trans empty⟩

/-! ## Requests -/

variable {e : Envelope}

theorem told_answer (plain : ¬(e.command = "cancel" ∨ e.command = "pause")) (success : Bool)
    (message : Option String) (body : Option Json) (c : Client) (w : World) :
    let act := write (.response e.seq e.command success message body)
    Told [.answer e.seq e.command success] (c, w) (Staged.ends act c w) ∧
      waiting (Staged.ends act c w).2 = waiting w := by
  intro act
  have mark : (Message.response e.seq e.command success message body).mark? =
    some (.answer e.seq e.command success) := if_neg plain
  exact ⟨told_write mark nofun c w, (write_apply _ c w).2.2⟩

section

variable {c c' : Client} {w w' : World}

theorem told_handle_of_ok {next : Next} (ended : next ≠ .wait)
    (performed : perform e c w = ((.ok next, c'), w')) :
    Told (tellings c'.terminated (waiting w')) (c', w') (Staged.ends (handle e) c w) ∧
      waiting (Staged.ends (handle e) c w).2 = [] := by
  rw [ends_handle_of_ok ended performed]
  exact told_closing c' w'

theorem murmurs_handle_of_wait (performed : perform e c w = ((.ok .wait, c'), w')) :
    (handle e c w).1.1 = .wait ∧ Murmurs (c', w') (Staged.ends (handle e) c w) := by
  obtain ⟨left, same⟩ := handle_of_wait performed
  rw [same]
  exact ⟨left, murmurs_flush c' w'⟩

/-- A failure is answered before anything else is told. -/
theorem told_handle_of_error (plain : ¬(e.command = "cancel" ∨ e.command = "pause"))
    {cause : RequestError} (performed : perform e c w = ((.error cause, c'), w')) :
    Told (.answer e.seq e.command false :: tellings c'.terminated (waiting w')) (c', w')
        (Staged.ends (handle e) c w) ∧
      waiting (Staged.ends (handle e) c w).2 = [] := by
  obtain ⟨told, kept⟩ := told_answer plain false (some cause.message) none c' w'
  rcases wrote : refuse e cause.message c' w' with ⟨⟨_, c₁⟩, w₁⟩
  rw [show write _ = refuse e cause.message from rfl, Staged.ends_of wrote] at told kept
  obtain ⟨others, empty⟩ := told_closing c₁ w₁
  have flag : c₁.terminated = c'.terminated := by simpa using told.terminated
  rw [flag, kept] at others
  rw [ends_handle_of_error performed, Staged.ends, Staged.bind_of wrote]
  exact ⟨told.trans others, empty⟩

/-- A command that is answered when it has been carried out: the answer is told, and then what waits
to be told by then. -/
theorem told_handle (plain : ¬(e.command = "cancel" ∨ e.command = "pause")) {command : Command}
    (read : Command.ofEnvelope e = .ok command) {next : Next} (ended : next ≠ .wait)
    (answers : dispatch e command = do
      let body ← answer command
      respond e body
      return next) {result : Except RequestError (Option Json)}
    (answered : answer command c w = ((result, c'), w')) :
    Told (.answer e.seq e.command result.isOk :: tellings c.terminated (waiting w')) (c, w)
      (Staged.ends (handle e) c w) := by
  have unwritten := unwritten_answer command c w
  rw [ExceptT.run, Staged.ends_of answered] at unwritten
  -- Nothing is told while the command is carried out, so its answer comes first.
  have silent := unwritten.told
  have flag : c'.terminated = c.terminated := unwritten.terminated
  have performs := perform_of_ok read c w
  rw [answers] at performs
  cases result with
  | error cause =>
      rw [Staged.attempt_bind_error answered] at performs
      obtain ⟨told, _⟩ := told_handle_of_error plain performs
      rw [flag] at told
      exact silent.trans told
  | ok body =>
      obtain ⟨told, kept⟩ := told_answer plain true none body c' w'
      rcases wrote : respond e body c' w' with ⟨⟨_, c₁⟩, w₁⟩
      rw [show write _ = respond e body from rfl, Staged.ends_of wrote] at told kept
      have responds : (liftM (respond e body) : Handling Unit) c' w' = ((.ok (), c₁), w₁) :=
        Staged.attempt_lift_of wrote
      rw [Staged.attempt_bind_ok answered, Staged.attempt_bind_ok responds] at performs
      obtain ⟨others, _⟩ := told_handle_of_ok ended (performs.trans rfl)
      have flag' : c₁.terminated = c.terminated := by simpa [flag] using told.terminated
      rw [flag', kept] at others
      exact (silent.trans told).trans others

end

/-! ## Order -/

def Tells (x y : Client × World) : Prop := ∃ marks, Told marks x y

/-- The answer to a request was told first. -/
def Opens (x y : Client × World) : Prop := ∃ m marks, m.isAnswer = true ∧ Told (m :: marks) x y

theorem lasts_tells : Lasts Tells where
  refl _ := ⟨[], told_nil rfl rfl⟩
  trans := by
    rintro x y z ⟨first, told⟩ ⟨second, told'⟩
    exact ⟨first ++ second, told.trans told'⟩

theorem Opens.tells {x y z : Client × World} (h : Opens x y) (tells : Tells y z) : Opens x z := by
  obtain ⟨m, marks, answer, told⟩ := h
  obtain ⟨others, told'⟩ := tells
  exact ⟨m, marks ++ others, answer, told.trans told'⟩

theorem Opens.after {x y z : Client × World} (silent : Unwritten x y) (h : Opens y z) :
    Opens x z := by
  obtain ⟨m, marks, answer, told⟩ := h
  exact ⟨m, marks, answer, silent.told.trans told⟩

theorem opens_respond (plain : ¬(e.command = "cancel" ∨ e.command = "pause"))
    (body : Option Json) (c : Client) (w : World) :
    Opens (c, w) (Staged.ends (respond e body) c w) :=
  ⟨_, [], rfl, (told_answer plain true none body c w).1⟩

/-- Carrying out a request opens with its answer, or fails in silence. -/
def OpensOrFails (act : Handling Next) : Prop :=
  ∀ c w, Opens (c, w) (Staged.ends act.run c w) ∨
    (∃ cause, (act c w).1.1 = .error cause) ∧ Unwritten (c, w) (Staged.ends act.run c w)

theorem OpensOrFails.bind {α : Type} {act : Handling α} {next : α → Handling Next}
    (silent : Staged.Along Unwritten act.run) (opens : ∀ a, OpensOrFails (next a)) :
    OpensOrFails (act >>= next) := by
  intro c w
  have silent := silent c w
  rcases ran : act c w with ⟨⟨cause | a, c'⟩, w'⟩
  · rw [ExceptT.run, Staged.ends_of ran] at silent
    rw [ExceptT.run, Staged.ends, Staged.attempt_bind_error ran]
    exact .inr ⟨⟨cause, rfl⟩, silent⟩
  · rw [ExceptT.run, Staged.ends_of ran] at silent
    rw [ExceptT.run, Staged.ends, Staged.attempt_bind_ok ran]
    exact (opens a c' w').imp (.after silent) fun fails =>
      ⟨fails.1, lasts_unwritten.trans silent fails.2⟩

theorem OpensOrFails.of_opens {act : Serving Unit} {next : Handling Next}
    (opens : ∀ c w, Opens (c, w) (Staged.ends act c w)) (tells : Staged.Along Tells next.run) :
    OpensOrFails (do act; next) := by
  intro c w
  have first := opens c w
  rcases ran : act c w with ⟨⟨_, c'⟩, w'⟩
  rw [Staged.ends_of ran] at first
  have lifted : (liftM act : Handling Unit) c w = ((.ok (), c'), w') := Staged.attempt_lift_of ran
  rw [ExceptT.run, Staged.ends, Staged.attempt_bind_ok lifted]
  exact .inl (first.tells (tells c' w'))

theorem tells_of_murmurs {α : Type} {act : Serving α} (h : Staged.Along Murmurs act) :
    Staged.Along Tells act :=
  fun c w => ⟨[], (h c w).told⟩

theorem opens_openUp (plain : ¬(e.command = "cancel" ∨ e.command = "pause")) (c : Client)
    (w : World) : Opens (c, w) (Staged.ends (openUp e) c w) := by
  have silent := serves_unwritten.applyPending c w
  rcases applied : applyPending c w with ⟨⟨_, c₁⟩, w₁⟩
  rw [Staged.ends_of applied] at silent
  have opens := opens_respond plain none c₁ w₁
  rcases responded : respond e none c₁ w₁ with ⟨⟨_, c₂⟩, w₂⟩
  rw [Staged.ends_of responded] at opens
  rw [openUp, Staged.ends, Staged.bind_of applied, Staged.bind_of responded]
  exact .after silent (opens.tells ⟨_, (told_drainEvents c₂ w₂).1⟩)

theorem opensOrFails_dispatch (plain : ¬(e.command = "cancel" ∨ e.command = "pause"))
    (command : Command) : OpensOrFails (dispatch e command) := by
  have answers (command : Command) (next : Next) : OpensOrFails (do
      let body ← answer command
      respond e body
      return next) :=
    .bind (unwritten_answer command) fun body =>
      .of_opens (opens_respond plain body) (.attemptPure lasts_tells next)
  cases command with
  | launch a =>
      show OpensOrFails (launch e a)
      rw [launch_eq]
      refine .bind (unwritten_logIn a) fun s => .of_opens (opens_openUp plain) ?_
      have evaluates := (evaluates_unwritten s).runExpression a.expression a.stopOnError
      exact fun c w => ⟨[], (evaluates c w).told⟩
  | introduce =>
      refine .of_opens (opens_respond plain (some capabilities)) ?_
      refine .attemptBind lasts_tells (.lift ?_) fun _ => .attemptPure lasts_tells _
      exact tells_of_murmurs (.bind lasts_murmurs murmurs_flush fun _ => murmurs_send rfl)
  | disconnect => exact answers .disconnect .leave
  | _ => exact answers _ .proceed

theorem opensOrFails_perform (plain : ¬(e.command = "cancel" ∨ e.command = "pause")) :
    OpensOrFails (perform e) :=
  .bind (fun _ _ => lasts_unwritten.refl _) fun command => opensOrFails_dispatch plain command

/-- A request is answered before the client is told anything else. -/
theorem opens_handle (plain : ¬(e.command = "cancel" ∨ e.command = "pause")) (c : Client)
    (w : World) : Opens (c, w) (Staged.ends (handle e) c w) := by
  have performs := opensOrFails_perform plain
  rcases performed : perform e c w with ⟨⟨cause | next, c'⟩, w'⟩
  · have told := (told_handle_of_error plain performed).1
    have before := performs c w
    rw [ExceptT.run, Staged.ends_of performed] at before
    rcases before with opens | ⟨_, silent⟩
    · exact opens.tells ⟨_, told⟩
    · exact .after silent ⟨_, _, rfl, told⟩
  · have opens := (performs c w).resolve_right fun fails => by simp [performed] at fails
    rw [ExceptT.run, Staged.ends_of performed] at opens
    by_cases ended : next = .wait
    · subst ended
      exact opens.tells ⟨[], (murmurs_handle_of_wait performed).2.told⟩
    · exact opens.tells ⟨_, (told_handle_of_ok ended performed).1⟩

/-! ## Runs -/

/-- What a client is told next is the answer to a request. -/
def Continues (c c' : Client) : Prop :=
  ∃ marks, c'.ledger = c.ledger ++ marks ∧ ∀ m ∈ marks.head?, m.isAnswer = true

theorem continues_of_unwritten {x y : Client × World} (h : Unwritten x y) : Continues x.1 y.1 :=
  ⟨[], h.told.ledger, nofun⟩

def Mute (w w' : World) : Prop := waiting w' = waiting w

theorem deaf_mark (category : OutputCategory) (text : String) :
    Mark.ofEvent? (.output category text) = none := rfl

theorem mute_logRecord (severity : Severity) (target text : String) :
    Along Mute (logRecord severity target text) := spares_logRecord deaf_mark severity target text

theorem mute_interject (i : Interjection) : Along Mute (interject i) := spares_interject deaf_mark i

theorem murmurs_act {act : Act Unit} (quiet : Along Quiet act) (mute : Along Mute act) :
    Staged.Along Murmurs (liftM act : Serving Unit) :=
  fun c w => ⟨writes_act quiet c w, rfl, rfl, mute w⟩

theorem murmurs_receive_of_none {message : Json} (other : request? message = none) (c : Client)
    (w : World) : (receive message c w).1.1 = .proceed ∧
      Murmurs (c.noted message, w) (Staged.ends (receive message) c w) := by
  refine along_receive_of_none lasts_murmurs (fun severity target text => ?_) (fun e => ?_) other c w
  · exact murmurs_act (quiet_logRecord severity target text) (mute_logRecord severity target text)
  · refine .bind lasts_murmurs ?_ fun _ => murmurs_flush
    exact murmurs_act (interject_quiet _) (mute_interject _)

theorem continues_receive (message : Json) (c : Client) (w : World) :
    Continues c (receive message c w).1.2 := by
  cases read : request? message with
  | none => exact ⟨[], (murmurs_receive_of_none read c w).2.told.ledger, nofun⟩
  | some e =>
      obtain ⟨m, marks, answer, told⟩ := opens_handle (plain_of_request? read) (c.noted message) w
      rw [receive_of_request read]
      exact ⟨m :: marks, told.ledger, by simpa using answer⟩

theorem Continues.trans {c c' c'' : Client} (h : Continues c c') (h' : Continues c' c'') :
    Continues c c'' := by
  obtain ⟨first, ledger, opens⟩ := h
  obtain ⟨second, ledger', opens'⟩ := h'
  refine ⟨first ++ second, by rw [ledger', ledger, List.append_assoc], ?_⟩
  cases first with
  | nil => exact opens'
  | cons m marks => exact opens

theorem continues_serve (messages : List Json) (c : Client) (w : World) :
    Continues c (serve messages c w).1.2 := by
  induction messages generalizing c w with
  | nil => exact continues_of_unwritten (unwritten_close c w)
  | cons message messages ih =>
      have first := continues_receive message c w
      rcases received : receive message c w with ⟨⟨next, c'⟩, w'⟩
      rw [received] at first
      rw [serve, Staged.bind_of received]
      cases next with
      | proceed => exact first.trans (ih c' w')
      | leave => exact first.trans (continues_of_unwritten (unwritten_close c' w'))
      | wait => exact first

/-- After a message was handled the client is told nothing up to the answer to another request. -/
theorem continues_of_mem_history {messages : List Json} {c : Client} {w : World} {x : Receipt}
    (member : x ∈ history messages c w) : Continues x.after.1 (serve messages c w).1.2 := by
  induction messages generalizing c w with
  | nil => cases member
  | cons message messages ih =>
      rcases received : receive message c w with ⟨⟨next, c'⟩, w'⟩
      have after : (receipt message c w).after = (c', w') := Staged.ends_of received
      rw [history, received, after] at member
      rw [serve, Staged.bind_of received]
      rcases List.mem_cons.mp member with rfl | later
      · rw [after]
        cases next with
        | proceed => exact continues_serve messages c' w'
        | leave => exact continues_of_unwritten (unwritten_close c' w')
        | wait => exact continues_of_unwritten (lasts_unwritten.refl (c', w'))
      · cases next with
        | proceed => exact ih later
        | leave => cases later
        | wait => cases later

end StoneDebug.Adapter.Client
