import StoneDebug.Foreign.Reply
import StoneDebug.Proofs.Adapter.Unwritten

/-! # Responses to requests

A client's requests are answered in the order in which they are handled, each once: handling is
silent up to the answer and after it. The exception is a launch. It is answered once it has logged
in, and when its evaluation fails after that, it is answered again.
-/

namespace StoneDebug.Adapter.Client

def Silent (x y : Client × World) : Prop := y.1.answered = x.1.answered

variable {α : Type} {c : Client} {w : World}

theorem Unwritten.silent {x y : Client × World} (h : Unwritten x y) : Silent x y := h.answered

theorem silent_of_writes {act : Serving α} (h : Staged.Along Writes act) :
    Staged.Along Silent act :=
  fun c w => (h c w).answered

theorem silent_answer (command : Command) : Staged.Along Silent (answer command).run :=
  (unwritten_answer command).mono Unwritten.silent

theorem silent_close : Staged.Along Silent close := unwritten_close.mono Unwritten.silent

/-! ## Answers -/

/-- The request was answered so many times, and no other was. -/
def AnswersTimes (n : Nat) (e : Envelope) (x y : Client × World) : Prop :=
  y.1.answered = x.1.answered ++ List.replicate n (e.seq, e.command)

theorem AnswersTimes.of_silent {n : Nat} {e : Envelope} {x y z : Client × World}
    (first : AnswersTimes n e x y) (silent : Silent y z) : AnswersTimes n e x z :=
  silent.trans first

theorem AnswersTimes.after_silent {n : Nat} {e : Envelope} {x y z : Client × World}
    (silent : Silent x y) (second : AnswersTimes n e y z) : AnswersTimes n e x z := by
  rw [AnswersTimes, second, silent]

theorem AnswersTimes.trans {m n : Nat} {e : Envelope} {x y z : Client × World}
    (first : AnswersTimes m e x y) (second : AnswersTimes n e y z) :
    AnswersTimes (m + n) e x z := by
  rw [AnswersTimes, second, first, List.append_assoc, List.replicate_append_replicate]

theorem answersTimes_write {e : Envelope} (plain : ¬(e.command = "cancel" ∨ e.command = "pause"))
    (success : Bool) (message : Option String) (body : Option Json) (c : Client) (w : World) :
    AnswersTimes 1 e (c, w)
      (Staged.ends (write (.response e.seq e.command success message body)) c w) := by
  rcases flushed : flush c w with ⟨⟨_, c'⟩, w'⟩
  have quiet := (writes_flush c w).answered
  rw [Staged.ends_of flushed] at quiet
  rw [write, Staged.ends, Staged.bind_of flushed]
  show (send _ c' w').1.2.answered = _
  rw [answered_send, quiet, Message.answer?, if_neg plain]
  rfl

theorem answersTimes_respond {e : Envelope}
    (plain : ¬(e.command = "cancel" ∨ e.command = "pause")) (body : Option Json) (c : Client)
    (w : World) : AnswersTimes 1 e (c, w) (Staged.ends (respond e body) c w) :=
  answersTimes_write plain true none body c w

theorem answersTimes_openUp {e : Envelope} (plain : ¬(e.command = "cancel" ∨ e.command = "pause"))
    (c : Client) (w : World) :
    AnswersTimes 1 e (c, w) (Staged.ends (openUp e) c w) := by
  have applied : Silent _ _ := (serves_unwritten.applyPending c w).silent
  rcases ran : applyPending c w with ⟨⟨_, c₁⟩, w₁⟩
  rw [Staged.ends_of ran] at applied
  have responded := answersTimes_respond plain none c₁ w₁
  rcases wrote : respond e none c₁ w₁ with ⟨⟨_, c₂⟩, w₂⟩
  rw [Staged.ends_of wrote] at responded
  rw [openUp, Staged.ends, Staged.bind_of ran, Staged.bind_of wrote]
  exact (AnswersTimes.after_silent applied responded).of_silent
    (silent_of_writes writes_drainEvents c₂ w₂)

/-- A launch that is answered when it has logged in, and then fails. -/
def FailsLate (e : Envelope) (c : Client) (w : World) : Prop :=
  ∃ a s c₁ w₁, Command.ofEnvelope e = .ok (.launch a) ∧ logIn a c w = ((.ok s, c₁), w₁) ∧
    EvaluationFails s a (openUp e c₁ w₁).1.2 (openUp e c₁ w₁).2

/-- How often a request was answered while it was carried out. A failure is answered afterwards. -/
def answers : Except RequestError Next → Nat
  | .ok _ => 1
  | .error _ => 0

/-- What carrying out a request answers, when it may fail late. -/
def Answers (e : Envelope) (late : Prop) (x : Client × World)
    (result : Except RequestError Next) (y : Client × World) : Prop :=
  (¬late → AnswersTimes (answers result) e x y) ∧
    (late → (∃ cause, result = .error cause) ∧ AnswersTimes 1 e x y)

theorem answers_launch {e : Envelope} (plain : ¬(e.command = "cancel" ∨ e.command = "pause"))
    {a : LaunchArguments} (read : Command.ofEnvelope e = .ok (.launch a)) (c : Client) (w : World) :
    Answers e (FailsLate e c w) (c, w) (launch e a c w).1.1 (Staged.ends (launch e a) c w) := by
  have same := (logIn_apply a c w).answered
  rcases logged : logIn a c w with ⟨⟨cause | s, c₁⟩, w₁⟩
  · rw [Staged.ends_of logged] at same
    have prompt : ¬FailsLate e c w := by
      rintro ⟨a', s, c₁, w₁, read', logged', -⟩
      cases read.symm.trans read'
      cases logged.symm.trans logged'
    rw [launch_eq, Staged.ends, Staged.attempt_bind_error logged]
    exact ⟨fun _ => same.trans (List.append_nil _).symm, fun late => absurd late prompt⟩
  · rw [Staged.ends_of logged] at same
    have once := answersTimes_openUp plain c₁ w₁
    have late_iff : FailsLate e c w ↔
        EvaluationFails s a (openUp e c₁ w₁).1.2 (openUp e c₁ w₁).2 := by
      constructor
      · rintro ⟨a', s', c₁', w₁', read', logged', fails⟩
        cases read.symm.trans read'
        cases logged.symm.trans logged'
        exact fails
      · exact fun fails => ⟨a, s, c₁, w₁, read, logged, fails⟩
    rcases opened : openUp e c₁ w₁ with ⟨⟨_, c₂⟩, w₂⟩
    rw [Staged.ends, opened] at once
    rw [opened] at late_iff
    have unwritten := (evaluates_unwritten s).runExpression a.expression a.stopOnError c₂ w₂
    have silent : Silent _ _ := unwritten.silent
    have fails := runExpression_fails_iff s a c₂ w₂
    have all := (AnswersTimes.after_silent same once).of_silent silent
    rw [launch_eq, Staged.ends, Staged.attempt_bind_ok logged,
      Staged.attempt_bind_ok (Staged.attempt_lift_of opened)]
    refine ⟨fun prompt => ?_, fun late => ⟨fails.mpr (late_iff.mp late), all⟩⟩
    cases ended : (runExpression s a.expression a.stopOnError c₂ w₂).1.1 with
    | ok next => exact all
    | error cause => exact absurd (late_iff.mpr (fails.mp ⟨cause, ended⟩)) prompt

theorem answersTimes_answer {e : Envelope}
    (plain : ¬(e.command = "cancel" ∨ e.command = "pause")) (command : Command) (next : Next)
    (c : Client) (w : World) :
    let act : Handling Next := do
      let body ← answer command
      respond e body
      return next
    AnswersTimes (answers (act c w).1.1) e (c, w) (Staged.ends act c w) := by
  intro act
  have silent := silent_answer command c w
  rcases answered : answer command c w with ⟨⟨cause | body, c'⟩, w'⟩
  · rw [ExceptT.run, Staged.ends_of answered] at silent
    have ends : act c w = ((.error cause, c'), w') := Staged.attempt_bind_error answered
    rw [Staged.ends, ends]
    exact silent.trans (List.append_nil _).symm
  · rw [ExceptT.run, Staged.ends_of answered] at silent
    have ends : act c w = ((.ok next, (respond e body c' w').1.2), (respond e body c' w').2) :=
      (Staged.attempt_bind_ok answered).trans rfl
    rw [Staged.ends, ends]
    exact .after_silent silent (answersTimes_respond plain body c' w')

theorem answersTimes_introduce {e : Envelope}
    (plain : ¬(e.command = "cancel" ∨ e.command = "pause")) (c : Client) (w : World) :
    AnswersTimes (answers (dispatch e .introduce c w).1.1) e (c, w)
      (Staged.ends (dispatch e .introduce) c w) := by
  have responded := answersTimes_respond plain (some capabilities) c w
  rcases wrote : respond e (some capabilities) c w with ⟨⟨_, c'⟩, w'⟩
  rw [Staged.ends_of wrote] at responded
  have ends : dispatch e .introduce c w =
      ((.ok .proceed, (write (.event "initialized" none) c' w').1.2),
        (write (.event "initialized" none) c' w').2) :=
    (Staged.attempt_bind_ok (Staged.attempt_lift_of wrote)).trans rfl
  rw [Staged.ends, ends]
  exact responded.of_silent (silent_of_writes (writes_write rfl) c' w')

theorem answers_dispatch {e : Envelope} (plain : ¬(e.command = "cancel" ∨ e.command = "pause"))
    {command : Command} (read : Command.ofEnvelope e = .ok command) (c : Client) (w : World) :
    Answers e (FailsLate e c w) (c, w) (dispatch e command c w).1.1
      (Staged.ends (dispatch e command) c w) := by
  have promptly (other : ∀ a, command ≠ .launch a)
      (answered : AnswersTimes (answers (dispatch e command c w).1.1) e (c, w)
        (Staged.ends (dispatch e command) c w)) :
      Answers e (FailsLate e c w) (c, w) (dispatch e command c w).1.1
        (Staged.ends (dispatch e command) c w) := by
    refine ⟨fun _ => answered, ?_⟩
    rintro ⟨a, s, c₁, w₁, read', -⟩
    exact absurd (Except.ok.inj (read.symm.trans read')) (other a)
  cases command with
  | launch a => exact answers_launch plain read c w
  | introduce => exact promptly nofun (answersTimes_introduce plain c w)
  | disconnect => exact promptly nofun (answersTimes_answer plain .disconnect .leave c w)
  | _ => exact promptly nofun (answersTimes_answer plain _ .proceed c w)

theorem answers_perform {e : Envelope} (plain : ¬(e.command = "cancel" ∨ e.command = "pause"))
    (c : Client) (w : World) :
    Answers e (FailsLate e c w) (c, w) (perform e c w).1.1 (Staged.ends (perform e) c w) := by
  cases read : Command.ofEnvelope e with
  | error cause =>
      have prompt : ¬FailsLate e c w := by
        rintro ⟨a, s, c₁, w₁, read', -⟩
        cases read.symm.trans read'
      rw [Staged.ends, perform_of_error read]
      exact ⟨fun _ => (List.append_nil _).symm, fun late => absurd late prompt⟩
  | ok command =>
      rw [Staged.ends, perform_of_ok read]
      exact answers_dispatch plain read c w

/-- Every failure is answered, also one that comes after the answer. -/
theorem answersTimes_handle {e : Envelope} (plain : ¬(e.command = "cancel" ∨ e.command = "pause"))
    (c : Client) (w : World) :
    (¬FailsLate e c w → AnswersTimes 1 e (c, w) (Staged.ends (handle e) c w)) ∧
      (FailsLate e c w → AnswersTimes 2 e (c, w) (Staged.ends (handle e) c w)) := by
  have closing (next : Next) := silent_of_writes (writes_closing next)
  obtain ⟨promptly, late⟩ := answers_perform plain c w
  rcases performed : perform e c w with ⟨⟨result, c'⟩, w'⟩
  rw [Staged.ends, performed] at promptly late
  have ran : (perform e).run c w = ((result, c'), w') := performed
  rw [handle, Staged.ends, Staged.bind_of ran]
  cases result with
  | ok next =>
      refine ⟨fun prompt => (promptly prompt).of_silent (closing next c' w'), fun fails => ?_⟩
      obtain ⟨⟨_, failed⟩, _⟩ := late fails
      cases failed
  | error cause =>
      have refused := answersTimes_write plain false (some cause.message) none c' w'
      rcases wrote : refuse e cause.message c' w' with ⟨⟨_, c₁⟩, w₁⟩
      rw [Staged.ends, show write (.response e.seq e.command false (some cause.message) none)
        c' w' = _ from wrote] at refused
      have again := refused.of_silent (closing .proceed c₁ w₁)
      dsimp only
      rw [Staged.bind_of wrote]
      exact ⟨fun prompt => (promptly prompt).trans again, fun fails => (late fails).2.trans again⟩

/-! ## All that a client is served -/

namespace Receipt

/-- The requests answered while a message was handled. -/
def answers (x : Receipt) : List (Int × String) :=
  x.after.1.answered.drop x.before.1.answered.length

theorem answers_of_append {x : Receipt} {added : List (Int × String)}
    (h : x.after.1.answered = x.before.1.answered ++ added) : x.answers = added := by
  rw [answers, h, List.drop_left]

end Receipt

theorem answered_receive (message : Json) (c : Client) (w : World) :
    ∃ added, (receive message c w).1.2.answered = c.answered ++ added ∧
      match request? message with
      | none => added = []
      | some e =>
        (¬FailsLate e (c.noted message) w → added = [(e.seq, e.command)]) ∧
          (FailsLate e (c.noted message) w → added = [(e.seq, e.command), (e.seq, e.command)]) := by
  cases read : request? message with
  | none =>
      exact ⟨[], ((receive_of_none read c w).2.answered).trans (List.append_nil _).symm, rfl⟩
  | some e =>
      have plain := plain_of_request? read
      obtain ⟨once, twice⟩ := answersTimes_handle plain (c.noted message) w
      rw [receive_of_request read]
      by_cases late : FailsLate e (c.noted message) w
      · exact ⟨_, twice late, fun prompt => absurd late prompt, fun _ => rfl⟩
      · exact ⟨_, once late, fun _ => rfl, fun fails => absurd fails late⟩

/-- A request is answered once, and twice when it fails late. Anything else is not answered. -/
def Receipt.Answered (x : Receipt) : Prop :=
  match request? x.message with
  | none => x.answers = []
  | some e =>
    (¬FailsLate e x.before.1 x.before.2 → x.answers = [(e.seq, e.command)]) ∧
      (FailsLate e x.before.1 x.before.2 → x.answers = [(e.seq, e.command), (e.seq, e.command)])

theorem answered_receipt (message : Json) (c : Client) (w : World) :
    (receipt message c w).after.1.answered = c.answered ++ (receipt message c w).answers ∧
      (receipt message c w).Answered := by
  obtain ⟨added, answered, due⟩ := answered_receive message c w
  have answers : (receipt message c w).answers = added := Receipt.answers_of_append answered
  refine ⟨answers.symm ▸ answered, ?_⟩
  unfold Receipt.Answered
  rw [answers]
  exact due

/-- For every VM and every sequence of messages: the answers are those to the requests handled, in
order, and each request is answered once, unless it is a launch that fails late. -/
theorem answered_once_or_late (messages : List Json) (c : Client) (w : World) :
    (serve messages c w).1.2.answered =
      c.answered ++ (history messages c w).flatMap Receipt.answers ∧
    ∀ x ∈ history messages c w, x.Answered := by
  induction messages generalizing c w with
  | nil => exact ⟨(silent_close c w).trans (List.append_nil _).symm, by simp [history]⟩
  | cons message messages ih =>
      obtain ⟨answered, due⟩ := answered_receipt message c w
      rcases received : receive message c w with ⟨⟨next, c'⟩, w'⟩
      have after : (receipt message c w).after = (c', w') := Staged.ends_of received
      rw [after] at answered
      rw [serve, Staged.bind_of received, history, received, after]
      cases next with
      | proceed =>
          obtain ⟨total, dues⟩ := ih c' w'
          rw [if_pos rfl, List.flatMap_cons, ← List.append_assoc, ← answered]
          exact ⟨total, List.forall_mem_cons.mpr ⟨due, dues⟩⟩
      | leave =>
          have ended : Next.leave ≠ .proceed := by decide
          rw [if_neg ended, List.flatMap_singleton, ← answered]
          exact ⟨silent_close c' w', by simpa using due⟩
      | wait =>
          have ended : Next.wait ≠ .proceed := by decide
          rw [if_neg ended, List.flatMap_singleton, ← answered]
          exact ⟨rfl, by simpa using due⟩

/-- A launch whose evaluation cannot begin, because the VM does not tell the class of strings. -/
theorem launch_answered_twice :
    let message := requestMessage 1 "launch" [("expression", .string "1")]
    let w : World := {
      vm := fun _ _ c => match c with
        | .version => ""
        | .login _ => .ok ⟨1⟩
        | c => Foreign.refuse (.other "") c
      horizon := 0 }
    (serve [message] {} w).1.2.answered = [(1, "launch"), (1, "launch")] := by
  decide +kernel

end StoneDebug.Adapter.Client
