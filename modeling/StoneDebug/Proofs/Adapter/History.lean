import StoneDebug.Proofs.Adapter.Serving

/-! # What a client was served

The messages of a client with the states between which each was handled, up to the one after which
no more is handled. Requests to end an evaluation are answered apart from all others.
-/

namespace StoneDebug.Adapter

def requestMessage (seq : Int) (command : String) (arguments : List (String × Json)) : Json :=
  .object [("seq", .int seq), ("type", .string "request"), ("command", .string command),
    ("arguments", .object arguments)]

/-- The request that a message makes, unless it asks for the end of an evaluation. -/
def request? (message : Json) : Option Envelope :=
  (Envelope.ofJson? message).filter fun e =>
    e.kind == "request" && !(e.command == "cancel" || e.command == "pause")

theorem plain_of_request? {message : Json} {e : Envelope} (h : request? message = some e) :
    ¬(e.command = "cancel" ∨ e.command = "pause") := by
  have kept := (Option.filter_eq_some_iff.mp h).2
  simp only [Bool.and_eq_true, Bool.not_eq_true', Bool.or_eq_false_iff, beq_eq_false_iff_ne] at kept
  exact fun command => command.elim kept.2.1 kept.2.2

def Command.name : Command → String
  | .introduce => "initialize"
  | .launch _ => "launch"
  | .attach _ => "attach"
  | .configurationDone => "configurationDone"
  | .threads => "threads"
  | .stackTrace _ _ => "stackTrace"
  | .scopes _ => "scopes"
  | .expand _ _ => "variables"
  | .source _ => "source"
  | .step .overSends => "next"
  | .step .intoSends => "stepIn"
  | .step .intoBlocks => "stepOut"
  | .resume => "continue"
  | .evaluate _ _ => "evaluate"
  | .restartFrame _ => "restartFrame"
  | .setBreakpoints _ _ => "setBreakpoints"
  | .breakpointLocations _ _ _ => "breakpointLocations"
  | .terminate => "terminate"
  | .disconnect => "disconnect"

theorem of_map_eq_ok {ε α β : Type} {f : α → β} {result : Except ε α} {b : β}
    (mapped : result.map f = .ok b) : ∃ a, result = .ok a ∧ f a = b := by
  cases result with
  | error e => cases mapped
  | ok a => exact ⟨a, rfl, Except.ok.inj mapped⟩

theorem command_of_ofEnvelope {e : Envelope} {command : Command}
    (read : Command.ofEnvelope e = .ok command) : e.command = command.name := by
  unfold Command.ofEnvelope at read
  extract_lets arguments reads withPath at read
  split at read
  case h_20 => cases read
  all_goals rename_i named; rw [named]
  case h_1 | h_4 | h_5 | h_10 | h_11 | h_12 | h_13 | h_18 | h_19 =>
    cases read
    rfl
  case h_2 | h_3 | h_6 | h_7 | h_8 | h_14 | h_15 =>
    obtain ⟨a, -, rfl⟩ := of_map_eq_ok read
    rfl
  all_goals
    -- The source of a reference and the documents of a path may be missing in the arguments.
    simp only [bind, Except.bind] at read
    repeat' split at read
    all_goals cases read
    rfl

namespace Client

def noted (c : Client) (message : Json) : Client := { c with received := c.received ++ [message] }

theorem noting (message : Json) (c : Client) (w : World) :
    (modify fun c => { c with received := c.received ++ [message] } : Serving PUnit) c w =
      (((), c.noted message), w) := rfl

theorem receive_of_request {message : Json} {e : Envelope} (h : request? message = some e)
    (c : Client) (w : World) : receive message c w = handle e (c.noted message) w := by
  obtain ⟨read, kept⟩ := Option.filter_eq_some_iff.mp h
  simp only [Bool.and_eq_true, Bool.not_eq_true', beq_iff_eq] at kept
  have other : (e.kind != "request") = false := by simp [kept.1]
  rw [receive, Staged.bind_of (noting message c w), read]
  dsimp only
  rw [other, kept.2]
  rfl

/-- What makes no request is logged, unless it is answered apart. -/
theorem along_receive_of_none {R : Client × World → Client × World → Prop} (lasts : Lasts R)
    (log : ∀ severity target text,
      Staged.Along R (liftM (logRecord severity target text) : Serving Unit))
    (interjection : ∀ e, Staged.Along R (handleInterjection e)) {message : Json}
    (h : request? message = none) (c : Client) (w : World) :
    (receive message c w).1.1 = .proceed ∧
      R (c.noted message, w) (Staged.ends (receive message) c w) := by
  have proceed {act : Serving Unit} (along : Staged.Along R act) :
      Staged.Along R (do act; return Next.proceed) :=
    .bind lasts along fun _ => .pure lasts _
  rw [Staged.ends, receive, Staged.bind_of (noting message c w)]
  cases read : Envelope.ofJson? message with
  | none => exact ⟨rfl, proceed (log _ _ _) _ _⟩
  | some e =>
      dsimp only
      split
      · exact ⟨rfl, proceed (log _ _ _) _ _⟩
      · next request =>
          split
          · exact ⟨rfl, proceed (interjection e) _ _⟩
          · next command =>
              have kept : (e.kind == "request" &&
                  !(e.command == "cancel" || e.command == "pause")) = true := by
                simp only [bne_iff_ne, ne_eq, Decidable.not_not] at request
                simp only [Bool.and_eq_true, beq_iff_eq, Bool.not_eq_true', request, true_and]
                simpa only [Bool.not_eq_true] using command
              rw [request?, read, Option.filter_some, if_pos kept] at h
              cases h

theorem receive_of_none {message : Json} (h : request? message = none) (c : Client) (w : World) :
    (receive message c w).1.1 = .proceed ∧
      Writes (c.noted message, w) (Staged.ends (receive message) c w) :=
  along_receive_of_none lasts_writes (fun _ _ _ => writes_act (quiet_logRecord _ _ _))
    (fun _ => .bind lasts_writes (writes_act (interject_quiet _)) fun _ => writes_flush) h c w

theorem perform_of_error {e : Envelope} {cause : BadRequest}
    (read : Command.ofEnvelope e = .error cause) (c : Client) (w : World) :
    perform e c w = ((.error (.bad cause), c), w) := by
  refine Staged.attempt_bind_error ?_
  rw [read]
  rfl

theorem perform_of_ok {e : Envelope} {command : Command}
    (read : Command.ofEnvelope e = .ok command) (c : Client) (w : World) :
    perform e c w = dispatch e command c w := by
  refine Staged.attempt_bind_ok ?_
  rw [read]
  rfl

section

variable {R : Client × World → Client × World → Prop} (lasts : Lasts R) {e : Envelope}
  (writes : ∀ message, Staged.Along R (write message))
include lasts writes

/-- Commands are carried out and answered, except that a launch answers by itself. -/
theorem along_dispatch (answers : ∀ command, Staged.Along R (answer command).run)
    (launches : ∀ a, Staged.Along R (launch e a).run) (command : Command) :
    Staged.Along R (dispatch e command).run := by
  have replies (command : Command) (next : Next) : Staged.Along R (do
      let body ← answer command
      respond e body
      return next : Handling Next).run :=
    .attemptBind lasts (answers command) fun _ =>
      .attemptBind lasts (.lift (writes _)) fun _ => .attemptPure lasts _
  cases command with
  | launch a => exact launches a
  | introduce =>
      exact .attemptBind lasts (.lift (writes _)) fun _ =>
        .attemptBind lasts (.lift (writes _)) fun _ => .attemptPure lasts _
  | disconnect => exact replies .disconnect .leave
  | _ => exact replies _ .proceed

theorem along_perform (answers : ∀ command, Staged.Along R (answer command).run)
    (launches : ∀ a, Staged.Along R (launch e a).run) : Staged.Along R (perform e).run :=
  .attemptBind lasts (fun _ _ => lasts.refl _) fun command =>
    along_dispatch lasts writes answers launches command

end

/-- A message that was handled. It was noted before. -/
structure Receipt where
  message : Json
  before : Client × World
  after : Client × World

def receipt (message : Json) (c : Client) (w : World) : Receipt :=
  ⟨message, (c.noted message, w), Staged.ends (receive message) c w⟩

theorem after_receipt {message : Json} {e : Envelope} (h : request? message = some e) (c : Client)
    (w : World) : (receipt message c w).after = Staged.ends (handle e) (c.noted message) w := by
  rw [receipt, Staged.ends, receive_of_request h]

def history : List Json → Client → World → List Receipt
  | [], _, _ => []
  | message :: rest, c, w =>
    let x := receipt message c w
    x :: if (receive message c w).1.1 = .proceed then history rest x.after.1 x.after.2 else []

/-- What every message after which more are handled keeps, holds before each. -/
theorem receipt_of_mem_history {P : Client × World → Prop}
    (keeps : ∀ message c w, (receive message c w).1.1 = .proceed → P (c, w) →
      P (Staged.ends (receive message) c w))
    {messages : List Json} {c : Client} {w : World} (start : P (c, w)) {x : Receipt}
    (member : x ∈ history messages c w) : ∃ c' w', x = receipt x.message c' w' ∧ P (c', w') := by
  induction messages generalizing c w with
  | nil => cases member
  | cons message messages ih =>
      rw [history] at member
      rcases List.mem_cons.mp member with rfl | later
      · exact ⟨c, w, rfl, start⟩
      · split at later
        · next proceeds => exact ih (keeps message c w proceeds start) later
        · cases later

end Client

end StoneDebug.Adapter
