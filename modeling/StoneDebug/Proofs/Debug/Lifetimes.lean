import Mathlib.Data.List.Nodup
import StoneDebug.Foreign.Reply
import StoneDebug.Proofs.Debug.Operations

/-! # How long handles live

A client names variables and sources by numbers. Asking only adds to the two tables; the table of
variables is emptied when the process is about to run, or when its stack has been trimmed, and the
table of sources stays until another process is attached.
-/

namespace StoneDebug

/-! ## Numberings -/

namespace Numbering

variable {α : Type} {n n' : Numbering α} {i j : Int} {a b : α}

def Distinct (n : Numbering α) : Prop := n.values.Nodup

theorem distinct_empty : Distinct ({} : Numbering α) := List.nodup_nil

theorem get?_empty (i : Int) : ({} : Numbering α).get? i = none := by
  unfold get?
  split <;> rfl

/-- Numbers that were given out keep their values, and no value is given another one. -/
structure Extends (n n' : Numbering α) : Prop where
  values : n.values <+: n'.values
  distinct : n.Distinct → n'.Distinct

theorem lasts_extends : Lasts (Extends (α := α)) where
  refl _ := ⟨List.prefix_rfl, id⟩
  trans h h' := ⟨h.values.trans h'.values, h'.distinct ∘ h.distinct⟩

theorem values_of_get? (found : n.get? i = some a) :
    0 < i ∧ n.values[i.toNat - 1]? = some a := by
  unfold get? at found
  split at found
  · cases found
  · exact ⟨by omega, found⟩

theorem Extends.get? (grown : Extends n n') (found : n.get? i = some a) : n'.get? i = some a := by
  obtain ⟨positive, value⟩ := values_of_get? found
  obtain ⟨rest, eq⟩ := grown.values
  have bound := (List.getElem?_eq_some_iff.mp value).1
  rw [Numbering.get?, if_neg (by omega), ← eq, List.getElem?_append_left bound, value]

/-- Two numbers are the same exactly when their values are. -/
theorem Distinct.eq_iff (distinct : n.Distinct) (first : n.get? i = some a)
    (second : n.get? j = some b) : i = j ↔ a = b := by
  obtain ⟨positive, value⟩ := values_of_get? first
  obtain ⟨positive', value'⟩ := values_of_get? second
  constructor
  · rintro rfl
    exact Option.some.inj (first.symm.trans second)
  · rintro rfl
    have bound := (List.getElem?_eq_some_iff.mp value).1
    have same := (List.getElem?_inj bound distinct).mp (value.trans value'.symm)
    omega

variable [DecidableEq α]

theorem extends_number (n : Numbering α) (a : α) : Extends n (n.number a).2 := by
  unfold number
  split
  · exact lasts_extends.refl n
  · next new =>
      refine ⟨List.prefix_append _ _, fun distinct => ?_⟩
      exact List.nodup_append'.mpr ⟨distinct, List.nodup_singleton a, by simpa using new⟩

structure Numbers (n : Numbering α) (number : Nat) (a : α) : Prop where
  known : a ∈ n.values
  first : number = n.values.idxOf a + 1

variable {k l : Nat}

theorem numbers_number (n : Numbering α) (a : α) : (n.number a).2.Numbers (n.number a).1 a := by
  unfold number
  split
  · next old => exact ⟨old, rfl⟩
  · next new => exact ⟨by simp, by simp [List.idxOf_append_of_notMem new]⟩

theorem Numbers.get? (numbers : n.Numbers k a) : n.get? k = some a := by
  obtain ⟨known, rfl⟩ := numbers
  simpa [Numbering.get?] using List.getElem?_idxOf known

theorem Numbers.mono (numbers : n.Numbers k a) (grown : Extends n n') : n'.Numbers k a := by
  obtain ⟨rest, eq⟩ := grown.values
  refine ⟨eq ▸ List.mem_append_left rest numbers.known, ?_⟩
  rw [← eq, List.idxOf_append_of_mem numbers.known, numbers.first]

/-- No value is known by two numbers, and no number stands for two values. -/
theorem Numbers.eq_iff (first : n.Numbers k a) (second : n.Numbers l b) : k = l ↔ a = b := by
  constructor
  · rintro rfl
    exact Option.some.inj (first.get?.symm.trans second.get?)
  · rintro rfl
    rw [first.first, second.first]

theorem get?_number (n : Numbering α) (a : α) : (n.number a).2.get? (n.number a).1 = some a :=
  (numbers_number n a).get?

end Numbering

namespace Debug

/-! ## What keeps the tables -/

/-- Both tables are only added to. -/
structure Grows (d d' : DebugSession) : Prop where
  session : d'.session = d.session
  handles : d.handles.Extends d'.handles
  methods : d.methods.Extends d'.methods

/-- The table of sources is only added to; in the other one no handle comes to stand for two. -/
structure Renews (d d' : DebugSession) : Prop where
  session : d'.session = d.session
  handles : d.handles.Distinct → d'.handles.Distinct
  methods : d.methods.Extends d'.methods

structure Blank (d : DebugSession) : Prop where
  frames : d.frames = []
  handles : d.handles = {}

/-- Once all is forgotten, nothing new is kept. -/
structure Clears (d d' : DebugSession) : Prop where
  session : d'.session = d.session
  blank : Blank d → Blank d'

theorem Grows.renews {d d' : DebugSession} (grows : Grows d d') : Renews d d' :=
  ⟨grows.session, grows.handles.distinct, grows.methods⟩

section

open StoneDebug.Numbering

theorem lasts_grows : Lasts Grows where
  refl _ := ⟨rfl, lasts_extends.refl _, lasts_extends.refl _⟩
  trans h h' := ⟨h'.session.trans h.session, lasts_extends.trans h.handles h'.handles,
    lasts_extends.trans h.methods h'.methods⟩

theorem lasts_renews : Lasts Renews where
  refl _ := ⟨rfl, id, lasts_extends.refl _⟩
  trans h h' := ⟨h'.session.trans h.session, h'.handles ∘ h.handles,
    lasts_extends.trans h.methods h'.methods⟩

theorem lasts_clears : Lasts Clears where
  refl _ := ⟨rfl, id⟩
  trans h h' := ⟨h'.session.trans h.session, h'.blank ∘ h.blank⟩

theorem asks_grows : Asks fun x y => Grows x.1 y.1 := asks_of lasts_grows Grows.session

theorem explores_grows : Explores fun x y => Grows x.1 y.1 where
  toConsults := consults_of_keep asks_grows
    (fun _ _ _ _ _ _ => ⟨rfl, lasts_extends.refl _, lasts_extends.refl _⟩)
    fun d _ method => ⟨rfl, lasts_extends.refl _, d.methods.extends_number method⟩
  frame := frame_of_fetched asks_grows
    fun _ _ _ => ⟨rfl, lasts_extends.refl _, lasts_extends.refl _⟩
  handed d _ r := ⟨rfl, d.handles.extends_number r, lasts_extends.refl _⟩

theorem steers_renews : Steers fun x y => Renews x.1 y.1 where
  toAsks := asks_of lasts_renews Renews.session
  forget _ _ := ⟨rfl, fun _ => distinct_empty, lasts_extends.refl _⟩
  move _ _ _ _ _ := ⟨rfl, id, lasts_extends.refl _⟩
  tell _ _ _ := ⟨rfl, id, lasts_extends.refl _⟩

theorem steers_clears : Steers fun x y => Clears x.1 y.1 where
  toAsks := asks_of lasts_clears Clears.session
  forget _ _ := ⟨rfl, fun _ => ⟨rfl, rfl⟩⟩
  move _ _ _ _ _ := ⟨rfl, fun blank => ⟨blank.frames, blank.handles⟩⟩
  tell _ _ _ := ⟨rfl, fun blank => ⟨blank.frames, blank.handles⟩⟩

end

variable {s : Session} {d d' : DebugSession} {w w' : World} {α : Type}

/-! ## What a client is given

A number in an answer can be asked for.
-/

/-- The reference of something that does not unfold is 0. -/
def Unfolds (d : DebugSession) (reference : Nat) : Prop :=
  reference = 0 ∨ ∃ r, d.handles.get? reference = some r

theorem Grows.unfolds (grows : Grows d d') {reference : Nat} (unfolds : Unfolds d reference) :
    Unfolds d' reference :=
  unfolds.imp_right fun ⟨r, found⟩ => ⟨r, grows.handles.get? found⟩

theorem handleOf_apply (r : VarRef) (d : DebugSession) (w : World) :
    ∃ reference d', handleOf r d w = ((reference, d'), w) ∧
      d'.handles.get? reference = some r ∧ Grows d d' :=
  ⟨_, _, rfl, d.handles.get?_number r, explores_grows.handleOf r d w⟩

theorem sourceReference_apply (method : Oop) (d : DebugSession) (w : World) :
    ∃ reference d', sourceReference method d w = ((reference, d'), w) ∧
      d'.methods.Numbers reference method ∧ Grows d d' :=
  ⟨_, _, rfl, d.methods.numbers_number method, explores_grows.sourceReference method d w⟩

/-- Once the frame is known nothing can fail. -/
theorem scopes_of {level : Level} {frame : Frame} {d₁ : DebugSession} {w₁ : World}
    (fetched : Debug.frame level d w = ((.ok frame, d₁), w₁)) :
    scopes level d w =
      let (locals, handles) := d₁.handles.number (.frameLocals level)
      let (receiver, handles) := handles.number (.receiver frame.receiver)
      ((.ok [⟨"Locals", locals, frame.locals.length⟩, ⟨"Receiver", receiver, 1⟩],
        { d₁ with handles }), w₁) :=
  Staged.attempt_bind_ok fetched

/-- Scopes that are given name the locals and the receiver of the frame that was fetched. -/
theorem of_scopes_ok {level : Level} {views : List ScopeView}
    (ran : scopes level d w = ((.ok views, d'), w')) :
    ∃ frame locals receiver, (Debug.frame level d w).1.1 = .ok frame ∧
      d'.frames = (Debug.frame level d w).1.2.frames ∧
      views = [⟨"Locals", locals, frame.locals.length⟩, ⟨"Receiver", receiver, 1⟩] ∧
      d'.handles.get? locals = some (.frameLocals level) ∧
      d'.handles.get? receiver = some (.receiver frame.receiver) := by
  obtain ⟨frame, d₁, w₁, fetched, _⟩ := Staged.of_attempt_bind_ok ran
  cases (scopes_of fetched).symm.trans ran
  let opened := d₁.handles.number (.frameLocals level)
  have grown := opened.2.extends_number (.receiver frame.receiver)
  rw [fetched]
  exact ⟨frame, _, _, rfl, rfl, rfl, grown.get? (d₁.handles.get?_number _), opened.2.get?_number _⟩

/-- The locals and the receiver of the level. -/
theorem scopes_given {level : Level} {views : List ScopeView}
    (ran : scopes level d w = ((.ok views, d'), w')) :
    ∃ (frame : Frame) (locals receiver : Nat), views = [⟨"Locals", locals, frame.locals.length⟩,
        ⟨"Receiver", receiver, 1⟩] ∧
      d'.handles.get? locals = some (.frameLocals level) ∧
      d'.handles.get? receiver = some (.receiver frame.receiver) :=
  let ⟨frame, locals, receiver, _, _, given⟩ := of_scopes_ok ran
  ⟨frame, locals, receiver, given⟩

theorem yields_handleOf {view : Nat → VariableView}
    (reference : ∀ n, (view n).reference = n) (r : VarRef) :
    Staged.Yields (fun v d => Unfolds d v.reference)
      (do let n ← handleOf r; return view n : Debugging VariableView) := by
  intro d w
  obtain ⟨n, d', gave, found, _⟩ := handleOf_apply r d w
  rw [Staged.bind_of gave]
  refine .inr ⟨r, ?_⟩
  show d'.handles.get? (view n).reference = some r
  rw [reference n]
  exact found

theorem yields_describeVariable (s : Session) (name : String) (oop : Oop) :
    Staged.Yields (fun view d => Unfolds d view.reference) (describeVariable s name oop) := by
  refine .bind fun printed => .bind fun type => ?_
  dsimp only
  split
  · refine .bind fun info => ?_
    split
    · exact .pure fun _ => .inl rfl
    · exact yields_handleOf (fun _ => rfl) _
  · refine .bind fun info => ?_
    split
    · exact .pure fun _ => .inl rfl
    · exact yields_handleOf (fun _ => rfl) _

/-- Each entry is described where the entries before it have left off, and what it has opened stays
open. -/
theorem describeVariables_each (entries : List (String × Oop)) {d : DebugSession}
    (bound : d.session = some s) (w : World) :
    let ran := describeVariables s entries d w
    ran.1.1.length = entries.length ∧ ∀ i view, ran.1.1[i]? = some view →
      ∃ name oop, entries[i]? = some (name, oop) ∧
        let start := Staged.ends (describeVariables s (entries.take i)) d w
        let described := describeVariable s name oop start.1 start.2
        described.1.1 = view ∧ Grows described.1.2 ran.1.2 := by
  induction entries generalizing d w with
  | nil => exact ⟨rfl, nofun⟩
  | cons entry entries ih =>
      obtain ⟨name, oop⟩ := entry
      have grows := explores_grows.describeVariable name oop d w bound
      rcases ran : describeVariable s name oop d w with ⟨⟨view, d₁⟩, w₁⟩
      rw [Staged.ends_of ran] at grows
      have bound₁ : d₁.session = some s := grows.session.trans bound
      obtain ⟨length, others⟩ := ih bound₁ w₁
      have grows₁ := explores_grows.describeVariables entries d₁ w₁ bound₁
      rcases rest : describeVariables s entries d₁ w₁ with ⟨⟨views, d₂⟩, w₂⟩
      rw [rest] at length others
      rw [Staged.ends_of rest] at grows₁
      have opened (part : List (String × Oop)) :
          Staged.ends (describeVariables s ((name, oop) :: part)) d w =
            Staged.ends (describeVariables s part) d₁ w₁ := by
        rw [describeVariables, Staged.ends, Staged.bind_of ran]
        rfl
      rw [describeVariables, Staged.bind_of ran, Staged.bind_of rest]
      refine ⟨congrArg (· + 1) length, fun i shown found => ?_⟩
      cases i with
      | zero =>
          cases found
          refine ⟨name, oop, rfl, ?_⟩
          show (describeVariable s name oop d w).1.1 = view ∧
            Grows (describeVariable s name oop d w).1.2 d₂
          rw [ran]
          exact ⟨rfl, grows₁⟩
      | succ i =>
          rw [List.take_succ_cons, opened]
          exact others i shown found

theorem yields_describeVariables (entries : List (String × Oop)) {d : DebugSession}
    (bound : d.session = some s) (w : World) :
    let ran := describeVariables s entries d w
    ∀ view ∈ ran.1.1, Unfolds ran.1.2 view.reference := by
  intro ran view member
  obtain ⟨i, found⟩ := List.getElem?_of_mem member
  obtain ⟨name, oop, _, rfl, grows⟩ := (describeVariables_each entries bound w).2 i view found
  exact grows.unfolds (yields_describeVariable s name oop _ _)

theorem expand_given {reference : Int} {window : Window} {views : List VariableView}
    (ran : expand reference window d w = ((.ok views, d'), w')) :
    ∀ view ∈ views, Unfolds d' view.reference := by
  obtain ⟨s, r, list, d₂, w₂, bound, _, listed, described⟩ := of_expand_ok ran
  have grows := explores_grows.entries window r d w bound
  rw [ExceptT.run, Staged.ends_of listed] at grows
  have given := yields_describeVariables list (grows.session.trans bound) w₂
  rwa [described] at given

theorem frameView_given (level : Level) (frame : Frame) (d : DebugSession) (w : World) :
    let ran := frameView level frame d w
    ran.1.2.methods.Numbers ran.1.1.sourceRef ran.1.1.method := by
  obtain ⟨reference, d₁, gave, numbers, _⟩ := sourceReference_apply frame.method d w
  let rest : Debugging FrameView := do
    let label ← noted .debug "method label: " (methodLabel frame.method)
    let line ← noted .debug "frame line: " (frameLine level frame)
    return { level, name := label.getD executedCode, sourceRef := reference, line := line.getD 1,
             column := 1, method := frame.method }
  have view : Staged.Yields (fun v _ => v.sourceRef = reference ∧ v.method = frame.method) rest :=
    .bind fun label => .bind fun line => .pure fun _ => ⟨rfl, rfl⟩
  have lasts := explores_grows.toLasts
  have label := explores_grows.noted (explores_grows.methodLabel frame.method) .debug "method label: "
  have line := explores_grows.noted (explores_grows.frameLine level frame) .debug "frame line: "
  have grows : Staged.Along (fun x y => Grows x.1 y.1) rest :=
    .bind lasts label fun _ => .bind lasts line fun _ => .pure lasts _
  have opened : frameView level frame d w = rest d₁ w := Staged.bind_of gave
  intro ran
  obtain ⟨sourceRef, method⟩ := view d₁ w
  rw [show ran = rest d₁ w from opened, sourceRef, method]
  exact numbers.mono (grows d₁ w).methods

theorem describeLevel_given (level : Level) (d : DebugSession) (w : World) :
    let ran := describeLevel level d w
    ran.1.2.methods.Numbers ran.1.1.sourceRef ran.1.1.method := by
  intro ran
  rcases fetched : noted .warn s!"frame {level}: " (frame level) d w with ⟨⟨found, d₁⟩, w₁⟩
  have opened : ran = _ := Staged.bind_of fetched
  rw [opened]
  cases found with
  | some frame => exact frameView_given level frame d₁ w₁
  | none =>
      obtain ⟨reference, d₂, gave, numbers, _⟩ := sourceReference_apply .nil d₁ w₁
      dsimp only
      rw [Staged.bind_of gave]
      exact numbers

theorem describeLevels_given (levels : List Level) (d : DebugSession) (w : World) :
    let ran := describeLevels levels d w
    ∀ view ∈ ran.1.1, ran.1.2.methods.Numbers view.sourceRef view.method := by
  induction levels generalizing d w with
  | nil => exact fun _ member => absurd member List.not_mem_nil
  | cons level levels ih =>
      have first := describeLevel_given level d w
      rcases ran : describeLevel level d w with ⟨⟨view, d₁⟩, w₁⟩
      rw [ran] at first
      have others := ih d₁ w₁
      have grows := explores_grows.describeLevels levels d₁ w₁
      rcases rest : describeLevels levels d₁ w₁ with ⟨⟨views, d₂⟩, w₂⟩
      rw [rest] at others
      rw [Staged.ends_of rest] at grows
      rw [describeLevels, Staged.bind_of ran, Staged.bind_of rest]
      exact List.forall_mem_cons.mpr ⟨first.mono grows.methods, others⟩

theorem stackTrace_given {start : Level} {count : Option UInt32} {views : List FrameView}
    {depth : UInt32} (ran : stackTrace start count d w = ((.ok (views, depth), d'), w')) :
    ∀ view ∈ views, d'.methods.get? view.sourceRef = some view.method := by
  obtain ⟨found, d₁, w₁, _, rest⟩ := Staged.of_attempt_bind_ok ran
  have given := describeLevels_given (levelRange start count found) d₁ w₁
  rcases described : describeLevels (levelRange start count found) d₁ w₁ with ⟨⟨views', d₂⟩, w₂⟩
  rw [Staged.attempt_bind_ok (Staged.attempt_lift_of described)] at rest
  cases rest
  rw [described] at given
  intro view member
  exact (given view member).get?

/-! ## What is forgotten -/

theorem blank_after_forgetting {next : Debug α}
    (clears : Clears (withoutFrames d) (next (withoutFrames d) w).1.2) :
    Blank ((do forgetFrames; next : Debug α) d w).1.2 := by
  have forgot : (liftM forgetFrames : Debug Unit) d w = ((.ok (), withoutFrames d), w) := rfl
  rw [Staged.attempt_bind_ok forgot]
  exact clears.blank ⟨rfl, rfl⟩

/-- Without a process nothing of one is kept. -/
theorem blank_of_sound (sound : d.Sound) (act : Debug Unit)
    (refused : d.process = none → act d w = ((.error .notAttached, d), w))
    (runs : ∀ process s, suspended d w = ((.ok process, d), w) → session d w = ((.ok s, d), w) →
      d.session = some s → Blank (act d w).1.2) : Blank (act d w).1.2 := by
  cases attached : d.process with
  | none =>
      have bare := sound.bare attached
      rw [refused attached]
      exact ⟨bare.frames, bare.handles⟩
  | some process =>
      have bound : d.session.isSome = true := sound.bound (by simp [attached])
      obtain ⟨s, bound⟩ := Option.isSome_iff_exists.mp bound
      exact runs process s (suspended_of sound.rests attached w) (session_of bound w) bound

theorem blank_step (sound : d.Sound) (kind : StepKind) (level : Level) (w : World) :
    Blank (step kind level d w).1.2 := by
  have refuses (free : d.process = none) := sound.refuses free (.step kind level) .notAttached w rfl
  refine blank_of_sound sound _ refuses fun process s suspended session bound => ?_
  rw [step, Staged.attempt_bind_ok suspended, Staged.attempt_bind_ok session]
  exact blank_after_forgetting (steers_clears.arm process kind level (withoutFrames d) w bound)

theorem blank_continueExecution (sound : d.Sound) (w : World) :
    Blank (continueExecution d w).1.2 := by
  have refuses (free : d.process = none) := sound.refuses free .continueExecution .notAttached w rfl
  refine blank_of_sound sound _ refuses fun process s suspended session bound => ?_
  rw [continueExecution, Staged.attempt_bind_ok suspended, Staged.attempt_bind_ok session]
  exact blank_after_forgetting (steers_clears.resume process (withoutFrames d) w bound)

/-- The stack was trimmed, whether or not the client could be told. -/
def Trimmed (result : Except DebugError Unit) : Prop :=
  result = .ok () ∨ ∃ text, result = .error (.client text)

/-- Restarting a frame changes nothing, or it trims the stack, and all is forgotten. -/
theorem restartFrame_cases (level : Level) (d : DebugSession) (w : World) :
    let ran := restartFrame level d w
    (¬Trimmed ran.1.1 ∧ ran.1.2 = d) ∨ (Trimmed ran.1.1 ∧ Blank ran.1.2) := by
  intro ran
  obtain ⟨w', _, _, ⟨e, other, refused⟩ | ⟨_, _, trimmed⟩⟩ := restartFrame_apply level d w
  · left
    rw [show ran = _ from refused]
    refine ⟨?_, rfl⟩
    rintro (done | ⟨text, complained⟩)
    · cases done
    · exact other text (Except.error.inj complained)
  · right
    obtain ⟨result, given, same⟩ :=
      tellStopped_apply .restart s!"restarted at level {level}" (withoutFrames d) w'
    rw [show ran = _ from trimmed.trans same]
    exact ⟨given, rfl, rfl⟩

end Debug

/-! ## Operations -/

namespace DebugOperation

open Debug

/-- The operation gives up the process, attaches to one or changes the session. -/
def Rebinds : DebugOperation → Prop
  | bind _ | attach .. | attachSession .. | disconnect | terminate => True
  | _ => False

/-- The process is about to run, or its stack was trimmed. -/
def Drops (op : DebugOperation) (d : DebugSession) (w : World) : Prop :=
  match op with
  | step .. | continueExecution => True
  | restartFrame level => Trimmed (Debug.restartFrame level d w).1.1
  | _ => False

variable {op : DebugOperation} {d : DebugSession} {w : World}

theorem grows_run (stays : ¬op.Rebinds) (keeps : ¬op.Drops d w) :
    Grows d (op.run d w).1.2 := by
  cases asks : op.asks with
  | true => exact along_of_asks explores_grows asks d w
  | false =>
      cases op with
      | bind | attach | attachSession | disconnect | terminate => exact absurd trivial stays
      | step | continueExecution => exact absurd trivial keeps
      | restartFrame level =>
          rcases restartFrame_cases level d w with ⟨_, same⟩ | ⟨trimmed, _⟩
          · rw [run, same]
            exact lasts_grows.refl d
          · exact absurd trimmed keeps
      | _ => cases asks

theorem renews_run (stays : ¬op.Rebinds) (d : DebugSession) (w : World) :
    Renews d (op.run d w).1.2 := by
  by_cases drops : op.Drops d w
  · cases op with
    | step | continueExecution | restartFrame => exact along_of_steers steers_renews (by rfl) d w
    | _ => exact absurd drops id
  · exact (grows_run stays drops).renews

theorem blank_of_drops (sound : d.Sound) (drops : op.Drops d w) : Blank (op.run d w).1.2 := by
  cases op with
  | step kind level => exact blank_step sound kind level w
  | continueExecution => exact blank_continueExecution sound w
  | restartFrame level =>
      rcases restartFrame_cases level d w with ⟨kept, _⟩ | ⟨_, blank⟩
      · exact absurd drops kept
      · exact blank
  | _ => exact absurd drops id

end DebugOperation

namespace DebugSession

open Debug DebugOperation

structure Distinct (d : DebugSession) : Prop where
  handles : d.handles.Distinct
  methods : d.methods.Distinct

theorem Distinct.of_renews {d d' : DebugSession} (distinct : d.Distinct) (renews : Renews d d') :
    d'.Distinct :=
  ⟨renews.handles distinct.handles, renews.methods.distinct distinct.methods⟩

def KeepsDistinct (x y : DebugSession × World) : Prop := x.1.Distinct → y.1.Distinct

theorem lasts_keepsDistinct : Lasts KeepsDistinct where
  refl _ := id
  trans h h' := h' ∘ h

theorem keepsDistinct_modify {f : DebugSession → DebugSession}
    (handles : ∀ d, (f d).handles = d.handles ∨ (f d).handles = {})
    (methods : ∀ d, (f d).methods = d.methods ∨ (f d).methods = {}) :
    Staged.Along KeepsDistinct (modify f : Debugging PUnit) := by
  intro d w distinct
  constructor
  · show (f d).handles.Distinct
    rcases handles d with same | empty
    · rw [same]
      exact distinct.handles
    · rw [empty]
      exact Numbering.distinct_empty
  · show (f d).methods.Distinct
    rcases methods d with same | empty
    · rw [same]
      exact distinct.methods
    · rw [empty]
      exact Numbering.distinct_empty

theorem keepsDistinct_of_renews {α : Type} {act : Debugging α}
    (renews : Staged.Along (fun x y => Renews x.1 y.1) act) : Staged.Along KeepsDistinct act :=
  fun d w distinct => distinct.of_renews (renews d w)

theorem keepsDistinct_bind (s : Session) : Staged.Along KeepsDistinct (Debug.bind s) := by
  have lasts := lasts_keepsDistinct
  refine .bind lasts (.get lasts) fun d => ?_
  split
  · exact keepsDistinct_modify (fun _ => .inl rfl) fun _ => .inl rfl
  · exact keepsDistinct_modify (fun _ => .inl rfl) fun _ => .inr rfl

theorem governs_keepsDistinct : Governs KeepsDistinct where
  toLasts := lasts_keepsDistinct
  asks _ asks := keepsDistinct_of_renews ((along_of_asks explores_grows asks).mono Grows.renews)
  steers _ steers := keepsDistinct_of_renews (along_of_steers steers_renews steers)
  log _ _ _ _ _ := id
  bind := keepsDistinct_bind
  start _ _ := keepsDistinct_modify (fun _ => .inr rfl) fun _ => .inr rfl
  clearProcess := keepsDistinct_of_renews (asks_grows.clearProcess.mono Grows.renews)
  release := keepsDistinct_modify (fun _ => .inr rfl) fun _ => .inr rfl
  tell e := keepsDistinct_of_renews fun d w => steers_renews.tell d w e
  tellStopped reason text := keepsDistinct_of_renews (steers_renews.tellStopped reason text)

/-! ## Runs of operations -/

/-- Nothing in the run empties the table of variables. -/
def Undisturbed : DebugSession → List (DebugOperation × World) → Prop
  | _, [] => True
  | d, (op, w) :: ops => ¬op.Rebinds ∧ ¬op.Drops d w ∧ Undisturbed (op.run d w).1.2 ops

/-- How long a client can go on naming things by the numbers that it was given. -/
structure Lifetimes (d : DebugSession) : Prop where
  /-- The handles of a frame stand for its locals and its receiver. -/
  scopes : ∀ level w views, (Debug.scopes level d w).1.1 = .ok views →
    let d' := d.after [(.scopes level, w)]
    ∃ (frame : Frame) (locals receiver : Nat), views = [⟨"Locals", locals, frame.locals.length⟩,
        ⟨"Receiver", receiver, 1⟩] ∧
      d'.handles.get? locals = some (.frameLocals level) ∧
      d'.handles.get? receiver = some (.receiver frame.receiver)
  /-- The handles within an object stand for what they show. -/
  entries : ∀ reference window w views, (Debug.expand reference window d w).1.1 = .ok views →
    ∀ view ∈ views, Unfolds (d.after [(.expand reference window, w)]) view.reference
  /-- Source references stand for the methods that are shown. -/
  sources : ∀ start count w views depth,
    (Debug.stackTrace start count d w).1.1 = .ok (views, depth) →
      ∀ view ∈ views, (d.after [(.stackTrace start count, w)]).methods.get? view.sourceRef =
        some view.method
  /-- Handles hold until the process runs or its stack is cut. -/
  kept : ∀ run, d.Undisturbed run → ∀ i r, d.handles.get? i = some r →
    (d.after run).handles.get? i = some r
  /-- Then none of them holds. -/
  dropped : ∀ op w, op.Drops d w → ∀ i, (d.after [(op, w)]).handles.get? i = none
  /-- Source references hold as long as the session is attached. -/
  numbered : ∀ run, (∀ x ∈ run, ¬x.1.Rebinds) → ∀ i m, d.methods.get? i = some m →
    (d.after run).methods.get? i = some m
  /-- Handles are the same when they stand for the same. -/
  handles : ∀ i j r r', d.handles.get? i = some r → d.handles.get? j = some r' →
    (i = j ↔ r = r')
  /-- So are source references. -/
  methods : ∀ i j m m', d.methods.get? i = some m → d.methods.get? j = some m' →
    (i = j ↔ m = m')

variable {d : DebugSession} {ops run : List (DebugOperation × World)}

theorem grows_after (undisturbed : d.Undisturbed run) : Grows d (d.after run) := by
  induction run generalizing d with
  | nil => exact lasts_grows.refl d
  | cons step run ih =>
      obtain ⟨op, w⟩ := step
      obtain ⟨stays, keeps, later⟩ := undisturbed
      exact lasts_grows.trans (grows_run stays keeps) (ih later)

theorem renews_after (stays : ∀ x ∈ run, ¬x.1.Rebinds) : Renews d (d.after run) := by
  induction run generalizing d with
  | nil => exact lasts_renews.refl d
  | cons step run ih =>
      obtain ⟨first, later⟩ := List.forall_mem_cons.mp stays
      exact lasts_renews.trans (renews_run first d step.2) (ih later)

theorem Distinct.after (distinct : d.Distinct) (ops : List (DebugOperation × World)) :
    (d.after ops).Distinct := by
  induction ops generalizing d with
  | nil => exact distinct
  | cons step ops ih => exact ih (governs_keepsDistinct.run step.1 d step.2 distinct)

theorem after_discarded {α : Type} {op : DebugOperation} {act : Debug α} {result : α} {w : World}
    (same : op.run = discard act) (ran : (act d w).1.1 = .ok result) :
    act d w = ((.ok result, d.after [(op, w)]), (act d w).2) := by
  rcases opened : act d w with ⟨⟨found, d'⟩, w'⟩
  obtain rfl : found = .ok result := by rwa [opened] at ran
  have discarded : (discard act : Debug Unit) d w = ((.ok (), d'), w') :=
    Staged.attempt_bind_ok opened
  rw [after, after, same, discarded]

/-- Whatever was done before and whatever the VM and the client answer. -/
theorem lifetimes (listener : Listener) (ops : List (DebugOperation × World)) :
    (after { listener } ops).Lifetimes := by
  have fresh : Distinct { listener } := ⟨Numbering.distinct_empty, Numbering.distinct_empty⟩
  have distinct := fresh.after ops
  have sound := (sound_fresh listener).after ops
  generalize after { listener } ops = d at distinct sound
  exact {
    scopes := fun level w views ran => scopes_given (after_discarded rfl ran)
    entries := fun reference window w views ran => expand_given (after_discarded rfl ran)
    sources := fun start count w views depth ran => stackTrace_given (after_discarded rfl ran)
    kept := fun run undisturbed i r found => (grows_after undisturbed).handles.get? found
    dropped := fun op w drops i => by
      have empty : (d.after [(op, w)]).handles = {} := (blank_of_drops sound drops).handles
      rw [empty, Numbering.get?_empty]
    numbered := fun run stays i m found => (renews_after stays).methods.get? found
    handles := fun i j r r' => distinct.handles.eq_iff
    methods := fun i j m m' => distinct.methods.eq_iff }

/-- The stack is trimmed, but the client refuses the notice: the frame is not restarted successfully,
and yet the handle that was given before stands for nothing any more. -/
theorem handle_lost_though_not_restarted :
    let w : World := {
      vm := fun _ _ c => match c with
        | .perform send =>
          .ok (if send.selector = "_frameContentsAt:" then .ofNat 513 else .nil)
        | .fetchSize _ => .ok 10
        | .fetchOops .. => .ok (List.replicate 10 .nil)
        | c => Foreign.refuse (.other "") c
      horizon := 0 }
    let d := after { listener := fun _ => some "gone" }
      [(.attachSession ⟨1, ⟨9⟩, ""⟩ (.ofNat 257) "", w), (.scopes 1, w)]
    d.handles.get? 1 = some (.frameLocals 1) ∧
      (Debug.restartFrame 1 d w).1.1 = .error (.client "gone") ∧
      (d.after [(.restartFrame 1, w)]).handles.get? 1 = none := by
  intro w d
  exact ⟨by decide +kernel, rfl, by decide +kernel⟩

end DebugSession

end StoneDebug
