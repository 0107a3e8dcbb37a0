import StoneDebug.Proofs.Adapter.Attachment

/-! # Processes that a launch leaves suspended

An evaluation that fails leaves its process suspended in the VM. The launch then attaches the process
or clears it, so that it is not lost; but it does neither when the evaluation has not begun, or when
attaching is refused.
-/

namespace StoneDebug.Adapter.Client

open Debug

/-! ## Evaluations -/

/-- How an evaluation has ended, and in which world. -/
structure Evaluation where
  session : Session
  stopOnError : Bool
  result : Except CallError (Option Outcome)
  world : World

namespace Evaluation

def error? (v : Evaluation) : Option CallError :=
  match v.result with
  | .error e | .ok (some (.failed e)) => some e
  | _ => none

def process? (v : Evaluation) : Option Oop := v.error?.bind CallError.process?

/-- Since then the VM was told to clear the process, in its session. -/
def Clears (v : Evaluation) (process : Oop) (w : World) : Prop :=
  ∃ later, w.transcript = v.world.transcript ++ later ∧
    ∃ x ∈ later, x.handle = some v.session.handle ∧ x.call = .clearStack process

/-- The evaluation has not begun, or its process should be attached and cannot be: there is one
attached, or it is no object of the heap. -/
def Ignores (v : Evaluation) (process : Oop) (attached : Option Oop) : Prop :=
  v.result.isOk = false ∨
    v.stopOnError = true ∧ (attached.isSome = true ∨ process.isSpecial = true)

end Evaluation

def prepare (e : Envelope) (a : LaunchArguments) : Handling Session := do
  let s ← logIn a
  openUp e
  return s

theorem launch_eq_prepare (e : Envelope) (a : LaunchArguments) :
    launch e a = (do runExpression (← prepare e a) a.expression a.stopOnError) := by
  simp only [launch_eq, prepare, bind_assoc, pure_bind]

def launch? (message : Json) : Option (Envelope × LaunchArguments) :=
  match request? message with
  | none => none
  | some e =>
    match Command.ofEnvelope e with
    | .ok (.launch a) => some (e, a)
    | _ => none

/-- The evaluation of a launch that has logged in. -/
def Receipt.evaluation? (x : Receipt) : Option Evaluation :=
  match launch? x.message with
  | none => none
  | some (e, a) =>
    match prepare e a x.before.1 x.before.2 with
    | ((.error _, _), _) => none
    | ((.ok s, c), w) =>
      let (result, world) := s.runSource c.poll a.expression (evaluating w)
      some ⟨s, a.stopOnError, result, world⟩

section

variable {s : Session} {e : Envelope} {a : LaunchArguments} {c c' : Client} {w w' : World}

theorem covers_reads : Covers Reads := ⟨lasts_reads, fun h => h.session, id⟩

/-- Nothing happens to an attached process before the evaluation. -/
theorem prepare_debug (prepared : prepare e a c w = ((.ok s, c'), w')) :
    c'.debug.process = c.debug.process ∧ (c.debug.Sound → c'.debug.Sound) := by
  have login := logIn_apply a c w
  rcases logged : logIn a c w with ⟨⟨cause | s', c₁⟩, w₁⟩
  · rw [prepare, Staged.attempt_bind_error logged] at prepared
    cases prepared
  · have opens := covers_reads.openUp e c₁ w₁
    rcases opened : openUp e c₁ w₁ with ⟨⟨_, c₂⟩, w₂⟩
    rw [Staged.ends_of opened] at opens
    rw [prepare, Staged.attempt_bind_ok logged,
      Staged.attempt_bind_ok (Staged.attempt_lift_of opened)] at prepared
    cases prepared
    rw [Staged.ends, logged] at login
    cases login with
    | granted _ _ _ _ debug _ =>
        constructor
        · exact (opens.process.trans (congrArg _ debug)).trans (c.debug.process_boundTo _)
        · intro sound
          have bound : c₁.debug.Sound := debug ▸ sound.boundTo s
          exact opens.toWorks.sound bound

/-! ## After a failure -/

theorem tellOutcome_of_wanted {error : CallError} {process : Oop}
    (left : error.process? = some process) :
    Staged.ends (tellOutcome s true (.failed error)).run c w =
      ({ c with debug := (attachSession s process error.message c.debug w).1.2 },
        (attachSession s process error.message c.debug w).2) := by
  simp only [tellOutcome, left]
  rfl

theorem tellOutcome_of_unwanted {error : CallError} {process : Oop}
    (left : error.process? = some process) :
    (Staged.ends (tellOutcome s false (.failed error)).run c w).1 = c ∧
      (Staged.ends (tellOutcome s false (.failed error)).run c w).2.transcript =
        (s.discardError error w).2.transcript := by
  simp only [tellOutcome, left]
  exact ⟨rfl, rfl⟩

/-- Attaching is refused while another process is attached, and for what is no object of the heap. -/
theorem attachSession_of_sound {d : DebugSession} (sound : d.Sound) (s : Session) (process : Oop)
    (message : String) (w : World) :
    if d.process.isSome = true ∨ process.isSpecial = true then
      ∃ cause, attachSession s process message d w = ((.error cause, d), w)
    else ∃ result d' w', attachSession s process message d w = ((result, d'), w') ∧
      d'.process = some process := by
  by_cases attached : d.process.isSome = true
  · have taken : ¬(d.state = .unattached ∨ d.state = .detached) := by
      simp [sound.stopped.mpr attached]
    rw [if_pos (.inl attached)]
    exact ⟨_, attachSession_of_taken taken s process message w⟩
  · have free : d.state = .unattached ∨ d.state = .detached := by
      have rests := sound.rests
      have bare := mt sound.stopped.mp attached
      cases state : d.state <;> simp_all
    by_cases special : process.isSpecial = true
    · rw [if_pos (.inr special)]
      exact ⟨_, attachSession_of_special free s special message w⟩
    · rw [if_neg (not_or.mpr ⟨attached, special⟩)]
      obtain ⟨result, d', w', ran, taken, _⟩ := attachSession_of_heap free s special message w
      exact ⟨result, d', w', ran, taken.process⟩

/-- What becomes of a process that an evaluation has left suspended. -/
inductive Aftermath (v : Evaluation) (process : Oop) (attached : Option Oop) (y : Client × World) :
    Prop
  | attaches (handled : ¬v.Ignores process attached) (kept : y.1.debug.process = some process)
  | clears (handled : ¬v.Ignores process attached) (cleared : v.Clears process y.2)
  | ignores (ignored : v.Ignores process attached) (same : y.1.debug.process = attached)
      (quiet : y.2.transcript = v.world.transcript)

theorem Aftermath.speaks {v : Evaluation} {process : Oop} {attached : Option Oop}
    {y z : Client × World} (h : Aftermath v process attached y) (speaks : Speaks y z) :
    Aftermath v process attached z := by
  have same := speaks.debug
  have quiet := speaks.quiet.transcript
  cases h with
  | attaches handled kept => exact .attaches handled (same ▸ kept)
  | clears handled cleared =>
      apply Aftermath.clears handled
      rw [Evaluation.Clears, quiet]
      exact cleared
  | ignores ignored kept unasked => exact .ignores ignored (same ▸ kept) (quiet.trans unasked)

theorem Aftermath.kept_iff {v : Evaluation} {process : Oop} {attached : Option Oop}
    {y : Client × World} (h : Aftermath v process attached y) :
    (y.1.debug.process = some process ∨ v.Clears process y.2) ↔
      ¬(v.Ignores process attached ∧ attached ≠ some process) := by
  cases h with
  | attaches handled kept => simp [handled, kept]
  | clears handled cleared => simp [handled, cleared]
  | ignores ignored same quiet =>
      have unclear : ¬v.Clears process y.2 := by
        rintro ⟨later, added, x, member, _⟩
        rw [quiet, List.self_eq_append_right] at added
        simp [added] at member
      simp [ignored, same, unclear]

theorem aftermath_runExpression {v : Evaluation} {expression : String} (sound : c.debug.Sound)
    (ran : v.session.runSource c.poll expression (evaluating w) = (v.result, v.world))
    {process : Oop} (left : v.process? = some process) :
    Aftermath v process c.debug.process
      (Staged.ends (runExpression v.session expression v.stopOnError).run c w) := by
  obtain ⟨s, stopOnError, result, w'⟩ := v
  match result with
  | .error error =>
      rw [ExceptT.run, Staged.ends_of (runExpression_of_error stopOnError ran)]
      exact .ignores (.inl rfl) rfl rfl
  | .ok none => cases left
  | .ok (some (.ready _)) => cases left
  | .ok (some (.cancelled _)) => cases left
  | .ok (some (.failed error)) =>
      have left : error.process? = some process := left
      -- The call is over, so nothing keeps the session from clearing the process.
      have idle : w'.callState s.id = .idle := Session.callState_runSource ran
      let w₁ := { w' with running := false }
      have told : Staged.ends (runExpression s expression stopOnError).run c w =
          Staged.ends (tellOutcome s stopOnError (.failed error)).run c w₁ := by
        rw [ExceptT.run, Staged.ends, runExpression_of_outcome stopOnError ran]
        exact Staged.ends_return (tellOutcome s stopOnError (.failed error)) Next.proceed c w₁
      rw [told]
      cases stopOnError with
      | false =>
          obtain ⟨same, asked⟩ := tellOutcome_of_unwanted (s := s) (c := c) (w := w₁) left
          obtain ⟨reply, added⟩ := Session.discardError_clears (w := w₁) idle left
          apply Aftermath.clears
          · simp [Evaluation.Ignores, Except.isOk, Except.toBool]
          · exact ⟨_, asked.trans added, _, List.mem_singleton_self _, rfl, rfl⟩
      | true =>
          have tries := attachSession_of_sound sound s process error.message w₁
          rw [tellOutcome_of_wanted left]
          split at tries
          · next refused =>
              obtain ⟨cause, tried⟩ := tries
              rw [tried]
              exact .ignores (.inr ⟨rfl, refused⟩) rfl rfl
          · next free =>
              obtain ⟨outcome, d', w'', tried, attached⟩ := tries
              rw [tried]
              apply Aftermath.attaches _ attached
              simpa [Evaluation.Ignores, Except.isOk, Except.toBool] using free

end

/-! ## Launches -/

theorem launch?_eq_some {message : Json} {e : Envelope} {a : LaunchArguments}
    (asked : launch? message = some (e, a)) :
    request? message = some e ∧ Command.ofEnvelope e = .ok (.launch a) := by
  unfold launch? at asked
  split at asked
  · cases asked
  · next request =>
      split at asked
      · next read =>
          cases asked
          exact ⟨request, read⟩
      · cases asked

theorem Receipt.evaluation?_eq_some {x : Receipt} {v : Evaluation}
    (evaluated : x.evaluation? = some v) :
    ∃ e a c w, launch? x.message = some (e, a) ∧
      prepare e a x.before.1 x.before.2 = ((.ok v.session, c), w) ∧
      v.session.runSource c.poll a.expression (evaluating w) = (v.result, v.world) ∧
      v.stopOnError = a.stopOnError := by
  unfold Receipt.evaluation? at evaluated
  split at evaluated
  · cases evaluated
  · next e a asked =>
      split at evaluated
      · cases evaluated
      · next s c w prepared =>
          cases evaluated
          exact ⟨e, a, c, w, asked, prepared, rfl, rfl⟩

/-- What is done with the process of a failed evaluation, when the launch has been handled. -/
theorem aftermath_receipt {message : Json} {c : Client} {w : World} (sound : c.debug.Sound)
    {v : Evaluation} (evaluated : (receipt message c w).evaluation? = some v) {process : Oop}
    (left : v.process? = some process) :
    Aftermath v process c.debug.process (receipt message c w).after := by
  obtain ⟨e, a, c₁, w₁, asked, prepared, ran, wanted⟩ := Receipt.evaluation?_eq_some evaluated
  obtain ⟨request, read⟩ : request? message = some e ∧ _ := launch?_eq_some asked
  obtain ⟨same, sound₁⟩ := prepare_debug prepared
  have performed : perform e (c.noted message) w =
      runExpression v.session a.expression v.stopOnError c₁ w₁ := by
    rw [perform_of_ok read, wanted]
    show launch e a (c.noted message) w = _
    rw [launch_eq_prepare]
    exact Staged.attempt_bind_ok prepared
  have spoken := speaks_after_perform e (c.noted message) w
  rw [ExceptT.run, Staged.ends, performed] at spoken
  have after := (aftermath_runExpression (sound₁ sound) ran left).speaks spoken
  rw [same] at after
  rw [after_receipt request]
  exact after

/-- For every VM and every sequence of messages of a new client: the process that the evaluation of a
launch has left is the attached one after the launch, or was cleared in its session, unless the launch
ignores it and it was not attached before. -/
theorem attached_or_cleared_unless_ignored (messages : List Json) (c : Client) (w : World)
    (listener : Listener) (fresh : c.debug = { listener }) :
    ∀ x ∈ history messages c w, ∀ v p, x.evaluation? = some v → v.process? = some p →
      ((x.after.1.debug.process = some p ∨ v.Clears p x.after.2) ↔
        ¬(v.Ignores p x.before.1.debug.process ∧ x.before.1.debug.process ≠ some p)) := by
  intro x member v p evaluated left
  have sound : c.debug.Sound := fresh ▸ DebugSession.sound_fresh listener
  obtain ⟨c', w', same, sound'⟩ := receipt_of_mem_history
    (P := fun y => y.1.debug.Sound)
    (fun message c w _ sound => (moves_receive message c w).sound sound) sound member
  rw [same] at evaluated ⊢
  exact (aftermath_receipt sound' evaluated left).kept_iff

def failing (handle : Handle) : VM := fun _ _ c =>
  match c with
  | .version => ""
  | .login _ => .ok handle
  | .resolveSymbol .. => .ok (.ofNat 1025)
  | .nbExecute _ => .ok ()
  | .nbPoll _ => { status := .ok .ready }
  | .nbResult => .error (.vm { number := 2010, context := .ofNat 769 })
  | c => Foreign.refuse (.other "") c

/-- Nothing is attached before: the process of the evaluation is then. -/
theorem attached_or_cleared_wanted :
    let launch := requestMessage 1 "launch" [("expression", .string "1")]
    let w : World := { vm := failing ⟨1⟩, horizon := 1 }
    let x := receipt launch {} w
    x.after.1.debug.process = some (.ofNat 769) ∧
      ∃ v, x.evaluation? = some v ∧ v.process? = some (.ofNat 769) ∧
        ((x.after.1.debug.process = some (.ofNat 769) ∨ v.Clears (.ofNat 769) x.after.2) ↔
          ¬(v.Ignores (.ofNat 769) none ∧ none ≠ some (Oop.ofNat 769))) := by
  intro launch w x
  have evaluated : (x.evaluation?.bind Evaluation.process?) = some (.ofNat 769) := by
    decide +kernel
  obtain ⟨v, evaluated, left⟩ := Option.bind_eq_some_iff.mp evaluated
  have attached : x.after.1.debug.process = some (.ofNat 769) := by decide +kernel
  exact ⟨attached, v, evaluated, left, attached_or_cleared_unless_ignored [launch] {} w _ rfl x
    (.head _) v _ evaluated left⟩

/-- Another process is attached before: that of the evaluation is neither attached nor cleared, not
even when the client has left. -/
theorem suspended_beside_attached :
    let attach := requestMessage 1 "attach" [("sessionId", .int 1), ("process", .int 257)]
    let launch := requestMessage 2 "launch" [("expression", .string "1")]
    let w : World := { vm := failing ⟨2⟩, live := [⟨1, ⟨1⟩, ""⟩], nextId := 2, horizon := 1 }
    let x := receipt launch (receive attach {} w).1.2 (receive attach {} w).2
    (x.evaluation?.bind Evaluation.process?) = some (.ofNat 769) ∧
      x.after.1.debug.process = some (.ofNat 257) ∧
        ∀ y ∈ (serve [attach, launch] {} w).2.transcript, y.call ≠ .clearStack (.ofNat 769) := by
  decide +kernel

end StoneDebug.Adapter.Client
