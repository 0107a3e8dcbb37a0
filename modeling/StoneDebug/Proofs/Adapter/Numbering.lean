import StoneDebug.Proofs.Adapter.Overlooking
import StoneDebug.Proofs.Adapter.Sequence
import StoneDebug.Proofs.Debug.Views

/-! # The numbers of breakpoints

A request for breakpoints is answered with an entry for each line, in whatever state the client is.
Only such requests give out numbers, and each number that is given out is shown in the answer: so the
numbers that a client is shown are consecutive.
-/

namespace StoneDebug.Adapter

open Json

/-! ## What is shown -/

/-- Shows what has become of a breakpoint that was asked for on this line. -/
structure EntryFor (line : Int) (entry : Json) : Prop where
  id : ∃ id, entry.get "id" = nat id
  place : ∃ verified shown, entry.get "verified" = .bool verified ∧ entry.get "line" = .int shown ∧
    if verified then line ≤ shown else shown = line

theorem entryFor_breakpointJson {line : Int} {view : BreakpointView} (of : view.Of line) (id : Nat) :
    EntryFor line (breakpointJson id view) where
  id := ⟨id, rfl⟩
  place := by
    refine ⟨view.verified, view.line, rfl, rfl, ?_⟩
    split
    · next verified => exact of.set verified
    · next rejected => exact of.unset (Bool.eq_false_iff.mpr rejected)

/-- A successful answer to a request for breakpoints. -/
def Message.setsBreakpoints : Message → Bool
  | .response _ command success _ _ => command == "setBreakpoints" && success
  | .event _ _ => false

def entryId? (entry : Json) : Option Int :=
  match entry.get "id" with
  | .int id => some id
  | _ => none

/-- The ids in the entries of such an answer. -/
def Message.breakpointIds : Message → List Int
  | .response _ _ _ _ (some body) =>
    match body.get "breakpoints" with
    | .array entries => entries.filterMap entryId?
    | _ => []
  | _ => []

def issued (messages : List Message) : List Int :=
  (messages.filter Message.setsBreakpoints).flatMap Message.breakpointIds

theorem issued_append (first second : List Message) :
    issued (first ++ second) = issued first ++ issued second := by
  simp [issued]

theorem setsBreakpoints_of_unanswering {m : Message} (unanswering : m.answer? = none) :
    m.setsBreakpoints = false := by
  cases m with
  | event name body => rfl
  | response request command success text body =>
      rw [Message.answer?] at unanswering
      split at unanswering
      · next ending => rcases ending with rfl | rfl <;> rfl
      · cases unanswering

theorem setsBreakpoints_of_isAside {m : Message} (aside : m.isAside = true) :
    m.setsBreakpoints = false := by
  refine setsBreakpoints_of_unanswering ?_
  cases m with
  | event name body => rfl
  | response request command success text body =>
      refine if_pos ?_
      simpa [Message.isAside] using aside

theorem filter_setsBreakpoints_eq_nil {messages : List Message}
    (none : ∀ m ∈ messages, m.setsBreakpoints = false) :
    messages.filter Message.setsBreakpoints = [] :=
  List.filter_eq_nil_iff.mpr fun m member => by simp [none m member]

namespace Client

variable {α : Type} {c : Client} {w : World}

/-! ## Giving out numbers -/

theorem number_apply (as : List α) (c : Client) (w : World) :
    number as c w = (((List.range' c.nextBreakpoint as.length).zip as,
      { c with nextBreakpoint := c.nextBreakpoint + as.length }), w) := by
  induction as generalizing c with
  | nil => rfl
  | cons a as ih =>
      have given : breakpointId c w =
        ((c.nextBreakpoint, { c with nextBreakpoint := c.nextBreakpoint + 1 }), w) := rfl
      rw [number, Staged.bind_of given, Staged.bind_of (ih _), List.length_cons, List.range'_succ,
        List.zip_cons_cons]
      show (_, _) = (_, _)
      rw [Nat.add_assoc, Nat.add_comm 1]

/-- Without a session the breakpoints are kept, and shown as pending. -/
theorem setBreakpoints_of_unbound (unbound : c.debug.session = none) (path : String)
    (lines : List Int) (w : World) :
    let ids := List.range' c.nextBreakpoint lines.length
    setBreakpoints path lines c w =
      ((ids.zip (Debug.unverifiedAll lines "pending until login"), { c with
        pending := keepPending path ((ids.zip lines).map fun (id, line) => ⟨id, line⟩) c.pending
        nextBreakpoint := c.nextBreakpoint + lines.length }), w) := by
  intro ids
  have none : c.debug.session.isNone = true := by rw [unbound]; rfl
  rw [setBreakpoints, Staged.get_bind, if_pos none, Staged.bind_of (number_apply lines c w)]
  rw [Debug.unverifiedAll, List.zip_map_right]
  rfl

/-- In a session there is a view for each line, whatever fails. -/
theorem setBreakpoints_of_bound (bound : c.debug.session ≠ none) (path : String)
    (lines : List Int) (w : World) :
    ∃ views debug w', List.Forall₂ BreakpointView.Of lines views ∧
      setBreakpoints path lines c w =
        (((List.range' c.nextBreakpoint lines.length).zip views, { c with
          debug, nextBreakpoint := c.nextBreakpoint + lines.length }), w') := by
  have numbers {views : List BreakpointView} (shown : List.Forall₂ BreakpointView.Of lines views)
      (debug : DebugSession) (w' : World) : number views { c with debug } w' =
        (((List.range' c.nextBreakpoint lines.length).zip views, { c with
          debug, nextBreakpoint := c.nextBreakpoint + lines.length }), w') := by
    rw [number_apply, shown.length_eq]
  have taken : ¬c.debug.session.isNone = true := by simpa using bound
  rcases set : Debug.setBreakpoints path lines c.debug w with ⟨⟨result, debug⟩, w'⟩
  have ran : debugging (Debug.setBreakpoints path lines).run c w =
      ((result, { c with debug }), w') := by
    show (((Debug.setBreakpoints path lines c.debug w).1.1, { c with
      debug := (Debug.setBreakpoints path lines c.debug w).1.2 }),
      (Debug.setBreakpoints path lines c.debug w).2) = _
    rw [set]
  have shown := Debug.setBreakpoints_apply path lines c.debug w
  rw [set] at shown
  rw [setBreakpoints, Staged.get_bind, if_neg taken, Staged.bind_of ran]
  rcases shown with ⟨e, _, failed⟩ | ⟨method, views, _, answered, shown⟩
  · cases failed
    have views := Debug.forall₂_unverifiedAll lines e.message
    exact ⟨_, debug, _, views, numbers views debug _⟩
  · cases answered
    exact ⟨views, debug, w', shown, numbers shown debug w'⟩

/-- The lines are numbered from the next number on, and each has a view. -/
structure Numbers (lines : List Int) (breakpoints : List (Nat × BreakpointView))
    (x y : Client × World) : Prop where
  ids : breakpoints.map Prod.fst = List.range' x.1.nextBreakpoint lines.length
  views : List.Forall₂ BreakpointView.Of lines (breakpoints.map Prod.snd)
  next : y.1.nextBreakpoint = x.1.nextBreakpoint + lines.length

theorem numbers_of_zip {lines : List Int} {views : List BreakpointView} {y : Client × World}
    (shown : List.Forall₂ BreakpointView.Of lines views)
    (next : y.1.nextBreakpoint = c.nextBreakpoint + lines.length) :
    Numbers lines ((List.range' c.nextBreakpoint lines.length).zip views) (c, w) y where
  ids := List.map_fst_zip (by simp [shown.length_eq])
  views := by
    rw [List.map_snd_zip (by simp [shown.length_eq])]
    exact shown
  next := next

theorem numbers_setBreakpoints (path : String) (lines : List Int) (c : Client) (w : World) :
    Numbers lines (setBreakpoints path lines c w).1.1 (c, w)
      (Staged.ends (setBreakpoints path lines) c w) := by
  by_cases unbound : c.debug.session = none
  · rw [Staged.ends, setBreakpoints_of_unbound unbound]
    exact numbers_of_zip (Debug.forall₂_unverifiedAll lines _) rfl
  · obtain ⟨views, debug, w', shown, ran⟩ := setBreakpoints_of_bound unbound path lines w
    rw [Staged.ends, ran]
    exact numbers_of_zip shown rfl

/-- Besides requests for breakpoints nothing is numbered. -/
def Counted (x y : Client × World) : Prop := y.1.nextBreakpoint = x.1.nextBreakpoint

theorem overlooks_counted : Overlooks Counted where
  refl _ := rfl
  trans h h' := h'.trans h
  moved _ _ _ _ _ _ := rfl
  written _ _ _ _ _ _ := rfl

theorem counted_applyPending : Staged.Along Counted applyPending :=
  .bind overlooks_counted.toLasts (.get overlooks_counted.toLasts) fun _ =>
    .bind overlooks_counted.toLasts (fun _ _ => rfl) fun _ => overlooks_counted.applyEach _

/-! ## Requests -/

def asked? (message : Json) : Option (Envelope × String × List Int) :=
  (request? message).bind fun e =>
    match Command.ofEnvelope e with
    | .ok (.setBreakpoints path lines) => some (e, path, lines)
    | _ => none

theorem asked?_eq_some_iff {message : Json} {e : Envelope} {path : String} {lines : List Int} :
    asked? message = some (e, path, lines) ↔
      request? message = some e ∧ Command.ofEnvelope e = .ok (.setBreakpoints path lines) := by
  rw [asked?, Option.bind_eq_some_iff]
  constructor
  · rintro ⟨e', request, read⟩
    split at read
    · next read' =>
        cases read
        exact ⟨request, read'⟩
    · cases read
  · rintro ⟨request, read⟩
    exact ⟨e, request, by rw [read]⟩

theorem not_setBreakpoints_of_asked? {message : Json} (other : asked? message = none) {e : Envelope}
    (request : request? message = some e) (path : String) (lines : List Int) :
    Command.ofEnvelope e ≠ .ok (.setBreakpoints path lines) := by
  intro read
  cases other.symm.trans (asked?_eq_some_iff.mpr ⟨request, read⟩)

theorem setBreakpoints_of_name {command : Command} (named : command.name = "setBreakpoints") :
    ∃ path lines, command = .setBreakpoints path lines := by
  cases command with
  | setBreakpoints path lines => exact ⟨path, lines, rfl⟩
  | step kind => cases kind <;> simp [Command.name] at named
  | _ => simp [Command.name] at named

def Receipt.lines (x : Receipt) : List Int := ((asked? x.message).map fun asked => asked.2.2).getD []

/-- What a message has to do with breakpoints: a request for them succeeds, and is answered once, with
an entry for each line. No other message has such an answer. -/
def Receipt.ShowsBreakpoints (x : Receipt) : Prop :=
  match asked? x.message with
  | none => x.written.filter Message.setsBreakpoints = []
  | some (e, _, lines) => ∃ entries, List.Forall₂ EntryFor lines entries ∧
      x.written.filter Message.setsBreakpoints =
        [.response e.seq e.command true none (some (.object [("breakpoints", .array entries)]))]

/-- The numbers from the next one on are given to the lines, and shown. -/
structure Receipt.Numbered (x : Receipt) : Prop where
  shows : x.ShowsBreakpoints
  issued : issued x.written =
    (List.range' x.before.1.nextBreakpoint x.lines.length).map Int.ofNat
  next : x.after.1.nextBreakpoint = x.before.1.nextBreakpoint + x.lines.length

theorem forall₂_entries {lines : List Int} {breakpoints : List (Nat × BreakpointView)}
    (views : List.Forall₂ BreakpointView.Of lines (breakpoints.map Prod.snd)) :
    List.Forall₂ EntryFor lines (breakpoints.map fun (id, v) => breakpointJson id v) := by
  rw [List.forall₂_map_right_iff] at views ⊢
  exact views.imp fun line breakpoint of => entryFor_breakpointJson of breakpoint.1

theorem filterMap_entryId? (breakpoints : List (Nat × BreakpointView)) :
    (breakpoints.map fun (id, v) => breakpointJson id v).filterMap entryId? =
      (breakpoints.map Prod.fst).map Int.ofNat := by
  rw [List.filterMap_map, List.map_map, ← List.filterMap_eq_map]
  rfl

/-- Around the first answer there is no other successful one to a request for breakpoints. -/
theorem filter_written {message : Json} {e : Envelope} (request : request? message = some e)
    (c : Client) (w : World) :
    (receipt message c w).written.filter Message.setsBreakpoints =
      [reply e (c.noted message, w)].filter Message.setsBreakpoints := by
  have before : (underway (opening e (c.noted message, w))).filter Message.setsBreakpoints = [] :=
    filter_setsBreakpoints_eq_nil fun m member =>
      setsBreakpoints_of_unanswering (answer?_of_mem_spoken _ _ _ m member)
  have after : (sequel e (c.noted message, w)).filter Message.setsBreakpoints = [] := by
    refine filter_setsBreakpoints_eq_nil fun m member => ?_
    rcases refused_of_mem_sequel member with silent | ⟨text, rfl⟩
    · exact setsBreakpoints_of_unanswering silent
    · exact Bool.and_false _
  rw [written_receipt request, List.filter_append, before, List.nil_append, ← List.singleton_append,
    List.filter_append, after, List.append_nil]

theorem numbered_of_asked {message : Json} {e : Envelope} {path : String} {lines : List Int}
    (asked : asked? message = some (e, path, lines)) (c : Client) (w : World) :
    (receipt message c w).Numbered := by
  obtain ⟨request, read⟩ := asked?_eq_some_iff.mp asked
  let x := (c.noted message, w)
  let breakpoints := (setBreakpoints path lines x.1 x.2).1.1
  let entries := breakpoints.map fun (id, v) => breakpointJson id v
  have numbers : Numbers lines breakpoints x (opening e x) := by
    rw [opening_of_answer read nofun]
    exact numbers_setBreakpoints path lines x.1 x.2
  have comes : outcome e x = .ok (some (.object [("breakpoints", .array entries)])) :=
    outcome_of_answer read nofun nofun x
  have replies : [reply e x].filter Message.setsBreakpoints =
      [.response e.seq e.command true none (some (.object [("breakpoints", .array entries)]))] := by
    rw [reply_of_ok comes, command_of_ofEnvelope read]
    rfl
  have written := (filter_written request c w).trans replies
  have lines_eq : (receipt message c w).lines = lines := by
    rw [Receipt.lines, receipt, asked]
    rfl
  have next : Counted (opening e x) (receipt message c w).after := by
    rw [after_receipt request]
    exact overlooks_counted.after_opening e x
  refine ⟨?_, ?_, ?_⟩
  · rw [Receipt.ShowsBreakpoints, show (receipt message c w).message = message from rfl, asked]
    exact ⟨entries, forall₂_entries numbers.views, written⟩
  · rw [issued, written, lines_eq]
    show entries.filterMap entryId? ++ [] = _
    rw [List.append_nil, filterMap_entryId?, numbers.ids]
    rfl
  · rw [lines_eq, next, numbers.next]
    rfl

theorem setsBreakpoints_reply {message : Json} {e : Envelope} (request : request? message = some e)
    (other : asked? message = none) (x : Client × World) :
    (reply e x).setsBreakpoints = false := by
  rw [reply]
  cases comes : outcome e x with
  | error cause => exact Bool.and_false _
  | ok body =>
      refine Bool.eq_false_iff.mpr fun sets => ?_
      have named : e.command = "setBreakpoints" := by simpa [Message.setsBreakpoints] using sets
      cases read : Command.ofEnvelope e with
      | error cause =>
          rw [outcome, read] at comes
          cases comes
      | ok command =>
          obtain ⟨path, lines, rfl⟩ :=
            setBreakpoints_of_name ((command_of_ofEnvelope read).symm.trans named)
          exact absurd read (not_setBreakpoints_of_asked? other request path lines)

theorem numbered_of_none {message : Json} (other : asked? message = none) (c : Client)
    {w : World} (silent : w.asides = []) : (receipt message c w).Numbered := by
  have lines_eq : (receipt message c w).lines = [] := by
    rw [Receipt.lines, receipt, other]
    rfl
  have quiet : (receipt message c w).written.filter Message.setsBreakpoints = [] ∧
      Counted (receipt message c w).before (receipt message c w).after := by
    cases request : request? message with
    | none =>
        obtain ⟨⟨messages, wrote, asides⟩, _, _⟩ := interjects_receive (c := c) request silent
        rw [written_of_wrote (x := receipt message c w) wrote]
        exact ⟨filter_setsBreakpoints_eq_nil fun m member =>
          setsBreakpoints_of_isAside (asides m member),
          overlooks_counted.receive_of_none request c w⟩
    | some e =>
        have unset := not_setBreakpoints_of_asked? other request
        have opens : Counted (c.noted message, w) (opening e (c.noted message, w)) :=
          overlooks_counted.opening counted_applyPending
            (fun path lines read => absurd read (unset path lines)) _
        rw [filter_written request, after_receipt request]
        refine ⟨filter_setsBreakpoints_eq_nil ?_,
          overlooks_counted.trans opens (overlooks_counted.after_opening e _)⟩
        simpa using setsBreakpoints_reply request other _
  refine ⟨?_, ?_, ?_⟩
  · rw [Receipt.ShowsBreakpoints, show (receipt message c w).message = message from rfl, other]
    exact quiet.1
  · rw [issued, quiet.1, lines_eq]
    rfl
  · rw [lines_eq]
    exact quiet.2

theorem numbered_receipt (message : Json) (c : Client) {w : World} (silent : w.asides = []) :
    (receipt message c w).Numbered := by
  cases asked : asked? message with
  | none => exact numbered_of_none asked c silent
  | some request => exact numbered_of_asked asked c w

/-! ## Runs -/

/-- The numbers shown go on from request to request. -/
theorem issued_history (messages : List Json) (c : Client) {w : World} (silent : w.asides = []) :
    issued ((history messages c w).flatMap Receipt.written) =
      (List.range' c.nextBreakpoint ((history messages c w).flatMap Receipt.lines).length).map
        Int.ofNat := by
  induction messages generalizing c w with
  | nil => rfl
  | cons message messages ih =>
      obtain ⟨_, first, next⟩ := numbered_receipt message c silent
      rw [history, List.flatMap_cons, List.flatMap_cons, issued_append, List.length_append,
        ← List.range'_append_1, List.map_append, first]
      congr 1
      split
      · next proceeds =>
          have quiet : (receipt message c w).after.2.asides = [] := silent_receive proceeds silent
          rw [ih _ quiet, next]
          rfl
      · rfl

/-- For every VM and every sequence of messages on a connection: a request for breakpoints that can be
read succeeds, and is answered once, with an entry for each line in the order of the lines. An entry
that is not verified shows the line that was asked for, and one that is verified no earlier line. The
ids in all these answers are consecutive numbers. -/
theorem breakpoints_shown (messages : List Json) (c : Client) (w : World)
    (new : c.wire = [] ∧ w.asides = []) :
    let run := history messages c w
    let written := (serve messages c w).1.2.wire.map Prod.snd
    written = run.flatMap Receipt.written ∧ (∀ x ∈ run, x.ShowsBreakpoints) ∧
      issued written =
        (List.range' c.nextBreakpoint (run.flatMap Receipt.lines).length).map Int.ofNat ∧
      (issued written).Pairwise (· < ·) := by
  intro run written
  obtain ⟨unwritten, silent⟩ := new
  have all : written = run.flatMap Receipt.written := by
    have wrote := (wrote_serve messages c silent).wire
    rw [unwritten] at wrote
    show ((serve messages c w).1.2.wire).map Prod.snd = _
    rw [wrote]
    exact map_snd_sequenced _ _
  have ids : issued written =
      (List.range' c.nextBreakpoint (run.flatMap Receipt.lines).length).map Int.ofNat := by
    rw [all]
    exact issued_history messages c silent
  refine ⟨all, fun x member => ?_, ids, ?_⟩
  · obtain ⟨c', w', same, silent⟩ := receipt_of_mem_history (P := fun y => y.2.asides = [])
      (fun _ _ _ proceeds silent => silent_receive proceeds silent) silent member
    rw [same]
    exact (numbered_receipt x.message c' silent).shows
  · rw [ids]
    exact List.pairwise_map.mpr
      ((List.pairwise_lt_range' 1).imp fun less => Int.ofNat_lt.mpr less)

def breakpointsMessage (seq : Int) (path : String) (lines : List Int) : Json :=
  requestMessage seq "setBreakpoints" [("source", .object [("path", .string path)]),
    ("breakpoints", list lines fun line => .object [("line", .int line)])]

/-- Breakpoints of a document that names no method, before and after a process is attached. -/
theorem breakpoints_shown_around_attach :
    let messages := [breakpointsMessage 1 "nowhere" [7, 3], attachMessage 2,
      breakpointsMessage 3 "nowhere" [5]]
    issued ((serve messages {} completing).1.2.wire.map Prod.snd) = [1, 2, 3] ∧
      ∀ x ∈ history messages {} completing, x.ShowsBreakpoints := by
  intro messages
  obtain ⟨_, shows, ids, _⟩ := breakpoints_shown messages {} completing ⟨rfl, rfl⟩
  have three : ((history messages {} completing).flatMap Receipt.lines).length = 3 := by
    decide +kernel
  rw [ids, three]
  exact ⟨rfl, shows⟩

end Client

end StoneDebug.Adapter
