import StoneDebug.Foreign.Reply
import StoneDebug.Proofs.Adapter.Commands
import StoneDebug.Proofs.Adapter.Ledger
import StoneDebug.Proofs.Session.Busy

/-! # Announcing how the process went

A client that lets the process run is told after the answer that it has stopped again or has come to
its end. The end is told once to each client, also when another process is attached later and comes
to its end as well.
-/

namespace StoneDebug

open Adapter Adapter.Client

/-- What the VM's answer to a resumption says of the process. -/
def Adapter.Mark.ofReply? : Except CallError Oop → Option Mark
  | .ok _ => some .terminated
  | .error (.vm _) => some .stopped
  | .error _ => none

/-! ## Resuming -/

namespace Session

variable {s : Session} {process : Oop} {w w' : World}

theorem hosts_mute (s : Session) : s.Hosts Mute := hosts_spares deaf_mark s

/-- A process that has run was resumed by the last call. -/
theorem continueProcess_asks {reply : Except CallError Oop} {m : Mark}
    (ran : s.continueProcess process w = (reply, w')) (went : Mark.ofReply? reply = some m) :
    ∃ earlier, w'.transcript =
      w.transcript ++ earlier ++ [⟨some s.handle, .continueWith process .illegal 0, reply⟩] := by
  obtain ⟨earlier, -, ⟨rfl, -⟩ | asked⟩ := request_apply (P := fun _ => True)
    (fun _ _ _ => trivial)
    (fun reply => ⟨some s.handle, .continueWith process .illegal 0, reply⟩) (fun _ => rfl) ran
  · -- The refusal of the guard says nothing of the process.
    cases went
  · exact ⟨earlier, by rw [asked, List.append_assoc]⟩

end Session

namespace Debug

variable {s : Session} {process : Oop} {d d' : DebugSession} {w w' : World}

theorem waiting_push (e : Event) (w : World) :
    waiting { w with queue := w.queue.push e } = waiting w ++ (Mark.ofEvent? e).toList := by
  show (w.queue.waiting ++ [e]).filterMap Mark.ofEvent? = _
  rw [List.filterMap_append, waiting]
  cases mark : Mark.ofEvent? e <;> simp [mark]

/-- How a process went that has run waits to be told. -/
theorem settle_tells {reply : Except CallError Oop}
    (settled : settle reply d w = ((.ok (), d'), w')) :
    ∃ m, Mark.ofReply? reply = some m ∧ waiting w' = waiting w ++ [m] ∧
      w'.transcript = w.transcript := by
  cases reply with
  | ok value =>
      let w₁ := (logRecord .info "debugger" s!"process completed with {value.describe}" w).2
      have told : (settle (.ok value) d w).2 = { w₁ with queue := w₁.queue.push .terminated } := rfl
      have quiet : waiting w₁ = waiting w := mute_logRecord _ _ _ w
      rw [settled] at told
      subst told
      exact ⟨.terminated, rfl, by rw [waiting_push, quiet]; rfl, rfl⟩
  | error e =>
      cases e with
      | vm record =>
          obtain ⟨answer, told⟩ := settle_stopped record d w
          rw [told] at settled
          cases settled
          refine ⟨.stopped, rfl, ?_, rfl⟩
          rw [waiting_push, mute_logRecord]
          rfl
      | _ => cases settled

/-- The process was resumed in its session by the last call, and how it went waits to be told. -/
def Resumed (x : DebugSession × World) (w' : World) : Prop :=
  ∃ s process earlier reply m, x.1.session = some s ∧ x.1.process = some process ∧
    w'.transcript = x.2.transcript ++ earlier ++
      [⟨some s.handle, .continueWith process .illegal 0, reply⟩] ∧
    Mark.ofReply? reply = some m ∧ waiting w' = waiting x.2 ++ [m]

theorem resume_tells (ran : resume s process d w = ((.ok (), d'), w')) :
    ∃ earlier reply m, w'.transcript = w.transcript ++ earlier ++
        [⟨some s.handle, .continueWith process .illegal 0, reply⟩] ∧
      Mark.ofReply? reply = some m ∧ waiting w' = waiting w ++ [m] := by
  rcases continued : s.continueProcess process w with ⟨reply, w₁⟩
  have same : resume s process d w = settle reply { d with state := .running } w₁ := by
    show settle (s.continueProcess process w).1 { d with state := .running }
      (s.continueProcess process w).2 = _
    rw [continued]
  rw [same] at ran
  obtain ⟨m, went, waits, quiet⟩ := settle_tells ran
  obtain ⟨earlier, asked⟩ := Session.continueProcess_asks continued went
  have mute : waiting (s.continueProcess process w).2 = waiting w :=
    s.hosts_mute.toCarries.continueProcess process w
  rw [continued] at mute
  exact ⟨earlier, reply, m, quiet.trans asked, went, waits.trans (by rw [mute])⟩

/-- What needs a suspended process works on that of the session in use. -/
theorem of_suspended {α : Type} {next : Oop → Session → Debug α} {a : α}
    (ran : (do
      let process ← suspended
      let s ← session
      next process s) d w = ((.ok a, d'), w')) :
    ∃ process s, d.process = some process ∧ d.session = some s ∧
      next process s d w = ((.ok a, d'), w') := by
  rcases ready_cases d w with ⟨e, _, refused⟩ | ⟨process, s, _, attached, bound, goes⟩
  · cases (refused next).symm.trans ran
  · exact ⟨process, s, attached, bound, (goes next).symm.trans ran⟩

theorem continueExecution_resumes (ran : continueExecution d w = ((.ok (), d'), w')) :
    Resumed (d, w) w' := by
  obtain ⟨process, s, attached, bound, ran⟩ := of_suspended ran
  have resumed : resume s process (withoutFrames d) w = ((.ok (), d'), w') := ran
  obtain ⟨earlier, reply, m, asked, went, waits⟩ := resume_tells resumed
  exact ⟨s, process, earlier, reply, m, bound, attached, asked, went, waits⟩

theorem step_resumes {kind : StepKind} {level : Level}
    (ran : step kind level d w = ((.ok (), d'), w')) : Resumed (d, w) w' := by
  obtain ⟨process, s, attached, bound, ran⟩ := of_suspended ran
  let w₁ := (logRecord .debug "debugger" s!"step {kind.name} from level {level}" w).2
  let arm := s.perform process kind.selector [levelOop level]
  have quiet : waiting w₁ = waiting w := mute_logRecord _ _ _ w
  have mute : waiting (arm w₁).2 = waiting w₁ := s.hosts_mute.toCarries.perform process _ _ w₁
  obtain ⟨before, added, _⟩ : Adds s.Own w₁ (arm w₁).2 := s.carries_own.perform process _ _ w₁
  have armed : (do discard (remote arm); resume s process : Debug Unit) (withoutFrames d) w₁ =
      ((.ok (), d'), w') := ran
  rw [discarded_remote_bind] at armed
  rcases arms : arm w₁ with ⟨e | value, w₂⟩
  · rw [arms] at armed
    cases armed
  · rw [arms] at armed mute added
    have added : w₂.transcript = w.transcript ++ before := added
    obtain ⟨earlier, reply, m, asked, went, waits⟩ := resume_tells armed
    refine ⟨s, process, before ++ earlier, reply, m, bound, attached, ?_, went, ?_⟩
    · rw [asked, added, List.append_assoc w.transcript]
    · rw [waits, mute, quiet]

end Debug

namespace Adapter.Client

open Debug

/-! ## Requests that let the process run -/

def resuming : List String := ["next", "stepIn", "stepOut", "continue"]

/-- The VM was asked last to resume the attached process, and this was its reply. -/
def Receipt.CameTo (x : Receipt) (reply : Except CallError Oop) : Prop :=
  ∃ s process earlier, x.before.1.debug.session = some s ∧
    x.before.1.debug.process = some process ∧
    x.after.2.transcript = x.before.2.transcript ++ earlier ++
      [⟨some s.handle, .continueWith process .illegal 0, reply⟩]

def Receipt.Succeeds (x : Receipt) (e : Envelope) : Prop :=
  .answer e.seq e.command true ∈ x.after.1.ledger.drop x.before.1.ledger.length

/-- All that the client is told between the answer to the request and the next answer is how the
process went, but not that it has come to an end when that was told before. -/
def Receipt.Announces (x : Receipt) (e : Envelope) (ledger : List Mark) : Prop :=
  ∃ reply m rest, x.CameTo reply ∧ Mark.ofReply? reply = some m ∧
    ledger = x.before.1.ledger ++ .answer e.seq e.command true ::
      (if m = .terminated ∧ .terminated ∈ x.before.1.ledger then [] else [m]) ++ rest ∧
    ∀ next ∈ rest.head?, next.isAnswer = true

/-- What holds between messages: the end of the process was told when it is noted as told, and
nothing waits. -/
structure Settled (x : Client × World) : Prop where
  flagged : x.1.terminated = true ↔ .terminated ∈ x.1.ledger
  waiting : waiting x.2 = []

theorem flagged_of_told {marks : List Mark} {x y : Client × World} (told : Told marks x y)
    (flagged : x.1.terminated = true ↔ Mark.terminated ∈ x.1.ledger) :
    y.1.terminated = true ↔ Mark.terminated ∈ y.1.ledger := by
  rw [told.terminated, told.ledger]
  simp [flagged]

theorem settled_receive {message : Json} {c : Client} {w : World}
    (proceeds : (receive message c w).1.1 = .proceed) (settled : Settled (c, w)) :
    Settled (Staged.ends (receive message) c w) := by
  cases read : request? message with
  | none =>
      have murmurs := (murmurs_receive_of_none read c w).2
      exact ⟨flagged_of_told murmurs.told settled.flagged, murmurs.waiting.trans settled.waiting⟩
  | some e =>
      have plain := plain_of_request? read
      obtain ⟨_, _, _, told⟩ := opens_handle plain (c.noted message) w
      rw [receive_of_request read] at proceeds
      rw [Staged.ends, receive_of_request read]
      refine ⟨flagged_of_told told settled.flagged, ?_⟩
      rcases performed : perform e (c.noted message) w with ⟨⟨cause | next, c'⟩, w'⟩
      · exact (told_handle_of_error plain performed).2
      · have ended : next ≠ .wait := by
          rintro rfl
          cases proceeds.symm.trans (murmurs_handle_of_wait performed).1
        exact (told_handle_of_ok ended performed).2

theorem ofEnvelope_of_resuming {e : Envelope} (resumes : e.command ∈ resuming) :
    ∃ command, Command.ofEnvelope e = .ok command ∧
      ((∃ kind, command = .step kind) ∨ command = .resume) := by
  simp only [resuming, List.mem_cons, List.not_mem_nil, or_false] at resumes
  rcases resumes with next | into | out | go
  · exact ⟨.step .overSends, by simp [Command.ofEnvelope, next], .inl ⟨_, rfl⟩⟩
  · exact ⟨.step .intoSends, by simp [Command.ofEnvelope, into], .inl ⟨_, rfl⟩⟩
  · exact ⟨.step .intoBlocks, by simp [Command.ofEnvelope, out], .inl ⟨_, rfl⟩⟩
  · exact ⟨.resume, by simp [Command.ofEnvelope, go], .inr rfl⟩

theorem of_onDebug_ok {α : Type} {operation : Debug α} {a : α} {c c' : Client} {w w' : World}
    (ran : onDebug operation c w = ((.ok a, c'), w')) :
    operation c.debug w = ((.ok a, c'.debug), w') := by
  have same : onDebug operation c w = (((operation c.debug w).1.1.mapError .debug,
    { c with debug := (operation c.debug w).1.2 }), (operation c.debug w).2) := rfl
  rw [same] at ran
  rcases ended : operation c.debug w with ⟨⟨_ | _, _⟩, _⟩ <;> rw [ended] at ran <;> cases ran
  rfl

theorem answer_resumes {command : Command}
    (resumes : (∃ kind, command = .step kind) ∨ command = .resume) {body : Option Json}
    {c c' : Client} {w w' : World} (answered : answer command c w = ((.ok body, c'), w')) :
    Resumed (c.debug, w) w' := by
  rcases resumes with ⟨kind, rfl⟩ | rfl
  · obtain ⟨_, c₁, w₁, ran, returned⟩ := Staged.of_attempt_bind_ok answered
    cases returned
    exact step_resumes (of_onDebug_ok ran)
  · obtain ⟨_, c₁, w₁, ran, returned⟩ := Staged.of_attempt_bind_ok answered
    cases returned
    exact continueExecution_resumes (of_onDebug_ok ran)

theorem dispatch_of_resuming {e : Envelope} {command : Command}
    (resumes : (∃ kind, command = .step kind) ∨ command = .resume) :
    dispatch e command = (do
      let body ← answer command
      respond e body
      return .proceed) := by
  rcases resumes with ⟨kind, rfl⟩ | rfl <;> rfl

/-- What the client is told when a request to let the process run has succeeded. -/
theorem told_of_succeeds {message : Json} {c : Client} {w : World} (settled : Settled (c, w))
    {e : Envelope} (request : request? message = some e) (resumes : e.command ∈ resuming)
    (succeeds : (receipt message c w).Succeeds e) :
    ∃ reply m, (receipt message c w).CameTo reply ∧ Mark.ofReply? reply = some m ∧
      Told (.answer e.seq e.command true :: tellings c.terminated [m])
        (receipt message c w).before (receipt message c w).after := by
  have plain := plain_of_request? request
  obtain ⟨command, read, kinds⟩ := ofEnvelope_of_resuming resumes
  have ended : Next.proceed ≠ .wait := nofun
  have answers := dispatch_of_resuming (e := e) kinds
  have performs : Staged.ends (perform e).run (c.noted message) w =
      Staged.ends (dispatch e command).run (c.noted message) w := by
    rw [ExceptT.run, Staged.ends, perform_of_ok read]
    rfl
  rcases answered : answer command (c.noted message) w with ⟨⟨result, c'⟩, w'⟩
  have told := told_handle plain read ended answers answered
  rcases result with cause | body
  · -- A failure is told as one, so the request would not have succeeded.
    have tells : .answer e.seq e.command true ∈ (receipt message c w).after.1.ledger.drop
      c.ledger.length := succeeds
    rw [after_receipt request, told.ledger, show (c.noted message).ledger = c.ledger from rfl,
      List.drop_left] at tells
    rcases List.mem_cons.mp tells with failed | later
    · cases failed
    · cases isAnswer_of_mem_waiting ((tellings_sublist _ _).subset later)
  · obtain ⟨s, process, earlier, reply, m, bound, attached, asked, went, waits⟩ :=
      answer_resumes kinds answered
    rw [waits, settled.waiting] at told
    have spoken := speaks_after_answer e command .proceed (c.noted message) w
    rw [← answers, ← performs, ExceptT.run, Staged.ends_of answered] at spoken
    have quiet := lasts_speaks.trans spoken (speaks_after_perform e (c.noted message) w)
    rw [← after_receipt request] at told quiet
    refine ⟨reply, m, ⟨s, process, earlier, bound, attached, ?_⟩, went, told⟩
    rw [quiet.quiet.transcript]
    exact asked

/-- For every VM and every sequence of messages of a new client: a request to let the process run
that succeeds is followed, before the next answer, by one announcement of how the process went, unless
the process has come to its end and the client was told of such an end before; then by none. -/
theorem resume_announced_unless_told (messages : List Json) (c : Client) (w : World)
    (new : c.wire = [] ∧ c.terminated = false ∧ w.queue.waiting = []) :
    ∀ x ∈ history messages c w, ∀ e, request? x.message = some e → e.command ∈ resuming →
      x.Succeeds e → x.Announces e (serve messages c w).1.2.ledger := by
  obtain ⟨unwritten, untold, empty⟩ := new
  have start : Settled (c, w) := by
    refine ⟨?_, ?_⟩
    · simp [ledger, unwritten, untold]
    · simp [waiting, empty]
  intro x member e request resumes succeeds
  obtain ⟨rest, ledger, opens⟩ := continues_of_mem_history member
  obtain ⟨c', w', same, settled⟩ := receipt_of_mem_history (P := Settled)
    (fun _ _ _ => settled_receive) start member
  rw [same] at succeeds
  obtain ⟨reply, m, cameTo, went, told⟩ := told_of_succeeds settled request resumes succeeds
  rw [← same] at cameTo told
  have before : x.before.1.ledger = c'.ledger := by rw [same]; rfl
  have flag : c'.terminated = true ↔ .terminated ∈ x.before.1.ledger := before ▸ settled.flagged
  refine ⟨reply, m, rest, cameTo, went, ?_, opens⟩
  rw [ledger, told.ledger, tellings_singleton]
  simp only [flag]

def completing : World where
  vm := fun _ _ c => match c with
    | .continueWith .. => .ok (.ofNat 26)
    | c => Foreign.refuse (.other "") c
  live := [⟨1, ⟨1⟩, ""⟩]
  horizon := 0

def attachMessage (seq : Int) : Json :=
  requestMessage seq "attach" [("sessionId", .int 1), ("process", .int 257)]

/-- A process that runs to its end. -/
theorem resume_announced_completing :
    let go := requestMessage 2 "continue" []
    let x := receipt go (receive (attachMessage 1) {} completing).1.2
      (receive (attachMessage 1) {} completing).2
    let final := (serve [attachMessage 1, go] {} completing).1.2
    final.ledger = [.answer 1 "attach" true, .stopped, .answer 2 "continue" true, .terminated] ∧
      ∃ e, request? go = some e ∧ x.Succeeds e ∧ x.Announces e final.ledger := by
  intro go x final
  have member : x ∈ history [attachMessage 1, go] {} completing := by
    rw [history, if_pos (by decide +kernel)]
    exact .tail _ (.head _)
  have read : (request? go).map (fun e => (e.seq, e.command)) = some (2, "continue") := by
    decide +kernel
  obtain ⟨e, request, fields⟩ := Option.map_eq_some_iff.mp read
  obtain ⟨seq, command⟩ := Prod.mk.inj fields
  have resumes : e.command ∈ resuming := by
    rw [command]
    decide
  have succeeds : x.Succeeds e := by
    rw [Receipt.Succeeds, seq, command]
    decide +kernel
  exact ⟨by decide +kernel, e, request, succeeds,
    resume_announced_unless_told _ {} completing ⟨rfl, rfl, rfl⟩ x member e request resumes succeeds⟩

/-- A second process that runs to its end. Both requests to continue succeed, and only the first is
followed by an announcement. -/
theorem resume_unannounced_when_told :
    (serve [attachMessage 1, requestMessage 2 "continue" [], attachMessage 3,
      requestMessage 4 "continue" []] {} completing).1.2.ledger =
      [.answer 1 "attach" true, .stopped, .answer 2 "continue" true, .terminated,
        .answer 3 "attach" true, .stopped, .answer 4 "continue" true] := by
  decide +kernel

end Adapter.Client

end StoneDebug
