import StoneDebug.Proofs.Adapter.Announcements
import StoneDebug.Proofs.Adapter.Order

/-! # What a client reads

The messages to a client are numbered from one on, and come in the order of the requests: what a
request has caused stands between its answer and the next one. Only of several ends of the process the
later ones are left out.
-/

namespace StoneDebug.Adapter.Client

/-! ## Answers -/

theorem isAside_of_mem_spoken {asides : List Aside}
    (answers : ∀ a ∈ asides, ∃ request pause accepted, a = .answered request pause accepted)
    (id : String) (seconds : Nat) : ∀ m ∈ spoken id seconds asides, m.isAside = true := by
  induction asides with
  | nil => nofun
  | cons a asides ih =>
      obtain ⟨⟨request, pause, accepted, rfl⟩, others⟩ := List.forall_mem_cons.mp answers
      refine List.forall_mem_cons.mpr ⟨?_, ih others⟩
      cases pause <;> rfl

/-- Where nothing was under way before, it can be answers only. -/
theorem Mutters.isAside {x y : Client × World} (h : Mutters x.2 y.2) (silent : x.2.asides = []) :
    ∀ m ∈ underway y, m.isAside = true := by
  obtain ⟨added, eq, answers⟩ := h.asides
  rw [silent, List.nil_append] at eq
  rw [underway, eq]
  exact isAside_of_mem_spoken answers y.1.progressId y.1.seconds

theorem answer?_of_mem_spoken (id : String) (seconds : Nat) (asides : List Aside) :
    ∀ m ∈ spoken id seconds asides, m.answer? = none := by
  fun_induction spoken id seconds asides with
  | case1 => nofun
  | case2 seconds title rest ih => exact List.forall_mem_cons.mpr ⟨rfl, ih⟩
  | case3 elapsed rest now ih => exact ih
  | case4 seconds elapsed rest now other ih => exact List.forall_mem_cons.mpr ⟨rfl, ih⟩
  | case5 seconds rest ih => exact List.forall_mem_cons.mpr ⟨rfl, ih⟩
  | case6 seconds request pause accepted rest ih =>
      refine List.forall_mem_cons.mpr ⟨?_, ih⟩
      cases pause <;> rfl

theorem answer?_of_mem_announcements (x : Client × World) :
    ∀ m ∈ announcements x, m.answer? = none := by
  intro m member
  obtain ⟨e, _, rfl⟩ := List.mem_map.mp member
  cases e <;> rfl

/-- After its first answer a request is at most refused. -/
theorem refused_of_mem_sequel {e : Envelope} {x : Client × World} {m : Message}
    (member : m ∈ sequel e x) :
    m.answer? = none ∨ ∃ text, m = .response e.seq e.command false (some text) none := by
  have announced (y : Client × World) (later : m ∈ announcements y) : m.answer? = none :=
    answer?_of_mem_announcements y m later
  rw [sequel] at member
  split at member
  · rcases List.mem_append.mp member with before | concluded
    · rcases List.mem_append.mp before with early | running
      · exact .inl (announced _ early)
      · exact .inl (answer?_of_mem_spoken _ _ _ m running)
    · rw [conclusion] at concluded
      split at concluded
      · cases concluded
      · exact .inl (announced _ concluded)
      · rcases List.mem_cons.mp concluded with refusal | late
        · exact .inr ⟨_, refusal⟩
        · exact .inl (announced _ late)
  · rcases List.mem_append.mp member with introduced | early
    · rw [introduction] at introduced
      split at introduced
      · cases List.mem_singleton.mp introduced
        exact .inl rfl
      · cases introduced
    · exact .inl (announced _ early)

/-- After its first answer a request is at most answered again itself. -/
theorem own_of_mem_sequel {e : Envelope} {x : Client × World} {m : Message}
    (member : m ∈ sequel e x) {r : Int × String} (answers : m.answer? = some r) :
    r = (e.seq, e.command) := by
  rcases refused_of_mem_sequel member with silent | ⟨text, rfl⟩
  · cases silent.symm.trans answers
  · rw [Message.answer?] at answers
    split at answers <;> cases answers
    rfl

/-! ## Messages -/

structure Interjects (x y : Client × World) : Prop where
  wrote : ∃ messages, Wrote messages x y ∧ ∀ m ∈ messages, m.isAside = true
  silent : y.2.asides = []
  waiting : x.2.queue.waiting <+: y.2.queue.waiting

theorem lasts_interjects :
    Lasts fun x y : Client × World => x.2.asides = [] → Interjects x y where
  refl x silent := ⟨⟨[], (lasts_unwritten.refl x).wrote, nofun⟩, silent, List.prefix_rfl⟩
  trans := by
    intro x y z first second silent
    obtain ⟨⟨ms, wrote, asides⟩, silent, waiting⟩ := first silent
    obtain ⟨⟨ms', wrote', asides'⟩, silent', waiting'⟩ := second silent
    exact ⟨⟨ms ++ ms', wrote.trans wrote', List.forall_mem_append.mpr ⟨asides, asides'⟩⟩, silent',
      waiting.trans waiting'⟩

theorem interjects_logRecord (severity : Severity) (target text : String) (c : Client) (w : World)
    (silent : w.asides = []) :
    Interjects (c, w)
      (Staged.ends (liftM (logRecord severity target text) : Serving Unit) c w) := by
  have notes := notes_act (gathers_logRecord severity target text) c w
  exact ⟨⟨[], notes.unwritten.wrote, nofun⟩, notes.gathers.asides.trans silent,
    notes.gathers.waiting⟩

theorem interjects_handleInterjection (e : Envelope) (c : Client) (w : World)
    (silent : w.asides = []) : Interjects (c, w) (Staged.ends (handleInterjection e) c w) := by
  let w₁ := (interject (.request e.seq (e.command == "pause")) w).2
  have mutters : Mutters w w₁ := mutters_interject (.request e.seq (e.command == "pause")) w
  obtain ⟨wrote, _, world⟩ := wrote_flush c w₁
  have same : Staged.ends (handleInterjection e) c w = Staged.ends flush c w₁ := rfl
  rw [same]
  refine ⟨⟨underway (c, w₁), ⟨wrote.wire, wrote.nextSeq⟩, mutters.isAside (x := (c, w)) silent⟩,
    ?_, ?_⟩
  · rw [world]
  · rw [world]
    exact mutters.waiting

theorem interjects_receive {message : Json} (other : request? message = none) {c : Client}
    {w : World} (silent : w.asides = []) :
    Interjects (c.noted message, w) (Staged.ends (receive message) c w) :=
  (along_receive_of_none lasts_interjects interjects_logRecord interjects_handleInterjection other
    c w).2 silent

def Receipt.written (x : Receipt) : List Message :=
  (x.after.1.wire.drop x.before.1.wire.length).map Prod.snd

theorem written_of_wrote {x : Receipt} {messages : List Message}
    (wrote : Wrote messages x.before x.after) : x.written = messages := by
  rw [Receipt.written, wrote.wire, List.drop_left, map_snd_sequenced]

theorem written_receipt {message : Json} {e : Envelope} (read : request? message = some e)
    (c : Client) (w : World) :
    (receipt message c w).written = underway (opening e (c.noted message, w)) ++
      reply e (c.noted message, w) :: sequel e (c.noted message, w) := by
  refine written_of_wrote ?_
  rw [after_receipt read]
  exact (replied e (c.noted message) w).wrote

theorem handled_receipt {message : Json} {e : Envelope} (read : request? message = some e)
    (c : Client) (w : World) :
    Handled e (receipt message c w).before (receipt message c w).after := by
  rw [after_receipt read]
  exact handled (plain_of_request? read)

theorem wrote_receipt (message : Json) (c : Client) {w : World} (silent : w.asides = []) :
    Wrote (receipt message c w).written (c, w) (receipt message c w).after := by
  have wrote : ∃ messages,
      Wrote messages (receipt message c w).before (receipt message c w).after := by
    cases read : request? message with
    | none =>
        obtain ⟨messages, wrote, _⟩ := (interjects_receive (c := c) read silent).wrote
        exact ⟨messages, wrote⟩
    | some e =>
        obtain ⟨first, _, wrote⟩ := (handled_receipt read c w).wrote
        exact ⟨_, wrote⟩
  obtain ⟨messages, wrote⟩ := wrote
  rw [written_of_wrote wrote]
  exact ⟨wrote.wire, wrote.nextSeq⟩

theorem silent_receive {message : Json} {c : Client} {w : World}
    (proceeds : (receive message c w).1.1 = .proceed) (silent : w.asides = []) :
    (receive message c w).2.asides = [] := by
  cases read : request? message with
  | none => exact (interjects_receive read silent).silent
  | some e =>
      have settles := (handled_receipt read c w).settles
      rw [receive_of_request read] at proceeds
      have ended : (handle e (c.noted message) w).1.1 ≠ .wait := by
        rw [proceeds]
        nofun
      exact (settles ended).2

/-! ## Runs -/

/-- All that is written is written for one message after the other. -/
theorem wrote_serve (messages : List Json) (c : Client) {w : World} (silent : w.asides = []) :
    Wrote ((history messages c w).flatMap Receipt.written) (c, w)
      (Staged.ends (serve messages) c w) := by
  induction messages generalizing c w with
  | nil => exact (unwritten_close c w).wrote
  | cons message messages ih =>
      have first := wrote_receipt message c silent
      have quiet (proceeds : (receive message c w).1.1 = .proceed) :
          (receive message c w).2.asides = [] := silent_receive proceeds silent
      rcases received : receive message c w with ⟨⟨next, c'⟩, w'⟩
      have after : (receipt message c w).after = (c', w') := Staged.ends_of received
      rw [received] at quiet
      rw [after] at first
      rw [history, List.flatMap_cons, received, after, Staged.ends, serve, Staged.bind_of received]
      cases next with
      | proceed => exact first.trans (ih c' (quiet rfl))
      | leave => exact first.trans (unwritten_close c' w').wrote
      | wait => exact first.trans (lasts_unwritten.refl (c', w')).wrote

/-- The end of the process counts as told when it was. -/
def Flagged (x : Client × World) : Prop := x.1.terminated = true ↔ .terminated ∈ x.1.ledger

/-- What the request has caused was written after it was answered, in the order in which it had come
to wait, and the request is the only one that was answered. -/
structure Receipt.Orderly (x : Receipt) (e : Envelope) : Prop where
  written : ∃ first : Message, first.answer? = some (e.seq, e.command) ∧
    x.written = underway (opening e x.before) ++ first :: sequel e x.before
  asides : ∀ m ∈ underway (opening e x.before), m.isAside = true
  own : ∀ m ∈ sequel e x.before, ∀ r, m.answer? = some r → r = (e.seq, e.command)
  waiting : x.before.2.queue.waiting <+: (opening e x.before).2.queue.waiting
  opened : Flagged (opening e x.before)
  closed : Flagged (closing e x.before)
  settles : (handle e x.before.1 x.before.2).1.1 ≠ .wait → Settles x.after

theorem flagged_closing {e : Envelope} (plain : ¬(e.command = "cancel" ∨ e.command = "pause"))
    {c : Client} {w : World} (flagged : Flagged (c, w)) : Flagged (closing e (c, w)) := by
  rcases opensOrFails_perform plain c w with ⟨_, _, _, told⟩ | ⟨_, silent⟩
  · exact flagged_of_told told flagged
  · exact flagged_of_told silent.told flagged

theorem orderly_receipt {message : Json} {e : Envelope} (read : request? message = some e)
    {c : Client} {w : World} (flagged : Flagged (c, w)) (silent : w.asides = []) :
    (receipt message c w).Orderly e := by
  obtain ⟨⟨first, answers, wrote⟩, settles⟩ := handled_receipt read c w
  have mutters := mutters_opening e (c.noted message, w)
  have noted : Flagged (c.noted message, w) := flagged
  exact
    { written := ⟨first, answers, written_of_wrote wrote⟩
      asides := mutters.isAside silent
      own := fun _ member _ => own_of_mem_sequel member
      waiting := mutters.waiting
      opened := flagged_of_told (unwritten_opening e (c.noted message, w)).told noted
      closed := flagged_closing (plain_of_request? read) noted
      settles }

/-- Between two messages nothing is under way and nothing waits to be told. -/
theorem steady_of_mem_history {messages : List Json} {c : Client} {w : World}
    (start : Settled (c, w)) (silent : w.asides = []) {x : Receipt}
    (member : x ∈ history messages c w) :
    ∃ c' w', x = receipt x.message c' w' ∧ Settled (c', w') ∧ w'.asides = [] :=
  receipt_of_mem_history (P := fun y => Settled y ∧ y.2.asides = [])
    (fun _ _ _ proceeds before =>
      ⟨settled_receive proceeds before.1, silent_receive proceeds before.2⟩)
    ⟨start, silent⟩ member

/-- For every VM and every sequence of messages of a new client: what is written carries the numbers
from one on, and comes for one message after the other. For a request it is answered first, and then
come the events. Other messages have at most requests to end an evaluation answered. -/
theorem written_in_order (messages : List Json) (c : Client) (w : World)
    (new : c.wire = [] ∧ c.nextSeq = 1 ∧ c.terminated = false ∧ w.queue.waiting = [] ∧
      w.asides = []) :
    let final := (serve messages c w).1.2
    let run := history messages c w
    final.wire = sequenced 1 (run.flatMap Receipt.written) ∧
      final.wire.map Prod.fst = List.range' 1 final.wire.length ∧
      (∀ x ∈ run, ∀ e, request? x.message = some e → x.Orderly e) ∧
      ∀ x ∈ run, request? x.message = none →
        (∀ m ∈ x.written, m.isAside = true) ∧
          x.before.2.queue.waiting <+: x.after.2.queue.waiting := by
  intro final run
  obtain ⟨unwritten, one, untold, empty, silent⟩ := new
  have wire : final.wire = sequenced 1 (run.flatMap Receipt.written) := by
    have wrote := (wrote_serve messages c silent).wire
    rw [unwritten, one] at wrote
    exact wrote
  have start : Settled (c, w) := by
    refine ⟨?_, ?_⟩
    · simp [ledger, unwritten, untold]
    · simp [waiting, empty]
  refine ⟨wire, ?_, ?_, ?_⟩
  · have numbers := map_fst_sequenced 1 (run.flatMap Receipt.written)
    rw [← wire] at numbers
    rw [numbers, ← List.length_map (f := Prod.fst), numbers, List.length_range']
  · intro x member e read
    obtain ⟨c', w', same, settled, silent⟩ := steady_of_mem_history start silent member
    rw [same]
    exact orderly_receipt read settled.flagged silent
  · intro x member other
    obtain ⟨c', w', same, _, silent⟩ := steady_of_mem_history start silent member
    obtain ⟨⟨written, wrote, asides⟩, _, waiting⟩ := interjects_receive (c := c') other silent
    rw [same, written_of_wrote (x := receipt x.message c' w') wrote]
    exact ⟨asides, waiting⟩

/-- A process that runs to its end. -/
theorem written_in_order_completing :
    let go := requestMessage 2 "continue" []
    let final := (serve [attachMessage 1, go] {} completing).1.2
    let x := receipt go (receive (attachMessage 1) {} completing).1.2
      (receive (attachMessage 1) {} completing).2
    final.wire.map Prod.fst = [1, 2, 3, 4] ∧
      ∃ e, request? go = some e ∧ x.Orderly e ∧
        announcements (opening e x.before) = [.event "terminated" none] := by
  intro go final x
  obtain ⟨_, numbers, requests, _⟩ :=
    written_in_order [attachMessage 1, go] {} completing ⟨rfl, rfl, rfl, rfl, rfl⟩
  have member : x ∈ history [attachMessage 1, go] {} completing := by
    rw [history, if_pos (by decide +kernel)]
    exact .tail _ (.head _)
  have four : final.wire.length = 4 := by decide +kernel
  rw [four] at numbers
  have waits : ((request? go).map fun e =>
      shown (opening e x.before).1.terminated (opening e x.before).2.queue.waiting) =
        some [.terminated] := by
    decide +kernel
  obtain ⟨e, read, waits⟩ := Option.map_eq_some_iff.mp waits
  refine ⟨numbers, e, read, requests x member e read, ?_⟩
  rw [announcements, waits]
  rfl

/-- A second process that runs to its end. That it does comes to wait while the request to continue is
handled, and is not written. -/
theorem unwritten_when_told :
    let x? := (history [attachMessage 1, requestMessage 2 "continue" [], attachMessage 3,
      requestMessage 4 "continue" []] {} completing)[3]?
    (x?.bind fun x => (request? x.message).map fun e =>
      (x.before.2.queue.waiting, (opening e x.before).2.queue.waiting,
        x.written.filterMap Message.mark?)) =
      some ([], [.terminated], [.answer 4 "continue" true]) := by
  decide +kernel

end StoneDebug.Adapter.Client
