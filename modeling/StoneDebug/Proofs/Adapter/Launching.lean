import StoneDebug.Proofs.Adapter.Serving
import StoneDebug.Proofs.Debug.Control
import StoneDebug.Proofs.Session.Logins

/-! # Launching

A launch request is handled in three parts: logging in, which may fail; what is written then, with
the answer among it; and the evaluation, which may fail again.
-/

namespace StoneDebug

/-! ## Logging in -/

/-- Logging in and out, which names no object of a session. -/
def Exchange.Administrative (x : Exchange) : Prop :=
  match x.call with
  | .login _ | .version | .logout => True
  | _ => False

namespace Registry

theorem adds_login (params : LoginParams) :
    Along (Adds Exchange.Administrative) (login params).run :=
  login_along (lasts_adds _) (fun _ _ _ _ => .of_transcript_eq rfl)
    (fun asked _ _ => .of_transcript_eq asked) (fun _ => Adds.ask fun _ => trivial)
    (Adds.ask fun _ => trivial) params

theorem adds_logout (id : Nat) : Along (Adds Exchange.Administrative) (logout id).run :=
  logout_along (lasts_adds _) (fun _ _ _ _ => .of_transcript_eq rfl)
    (fun asked _ _ => .of_transcript_eq asked) (fun _ => Adds.ask fun _ => trivial) id

end Registry

namespace Adapter.Client

def logInWith (settings : LoginSettings) : Handling Session := do
  let result ← ((Registry.login settings.params).run : Act _)
  match result with
  | .error cause => throw (.login cause)
  | .ok s =>
    modify fun c => { c with launched := some s.id }
    ExceptT.lift (debugging (Debug.bind s))
    return s

/-- The first part of a launch. -/
def logIn (a : LaunchArguments) : Handling Session := do
  if (← get).launched.isSome then throw .alreadyLaunched
  if a.logToClient && !(← get).logToClient then
    modify fun c => { c with logToClient := true }
    modifyThe World fun w => { w with queue := { w.queue with listening := some .info } }
  logInWith ((← get).login.merge a.login)

/-- The second part, in which the launch is answered. -/
def openUp (e : Envelope) : Serving Unit := do
  applyPending
  respond e none
  drainEvents

theorem launch_eq (e : Envelope) (a : LaunchArguments) :
    launch e a = (do
      let s ← logIn a
      openUp e
      runExpression s a.expression a.stopOnError) := by
  unfold launch logIn logInWith
  simp only [bind_assoc]
  refine bind_congr fun c => ?_
  split
  · rfl
  · simp only [bind_assoc]
    refine bind_congr fun c => ?_
    split
    · simp only [bind_assoc]
      refine bind_congr fun _ => bind_congr fun _ => bind_congr fun c => bind_congr fun result => ?_
      cases result <;> simp only [bind_assoc, pure_bind] <;> rfl
    · simp only [bind_assoc]
      refine bind_congr fun c => bind_congr fun result => ?_
      cases result <;> simp only [bind_assoc, pure_bind] <;> rfl

def loginReply (a : LaunchArguments) (x : Client × World) : Except CallError Handle :=
  x.2.vm x.2.transcript none (.login (x.1.login.merge a.login).params)

/-- How logging in ends: refused, because there was a launch before or by the VM, or with a session
on the handle that the VM has answered, to which the debug session is bound. -/
inductive LogsIn (a : LaunchArguments) (x : Client × World) :
    Except RequestError Session → Client × World → Prop where
  | again (launched : x.1.launched.isSome) : LogsIn a x (.error .alreadyLaunched) x
  | refused {y : Client × World} (cause : CallError) (launched : x.1.launched = none)
      (reply : loginReply a x = .error cause)
      (answered : y.1.answered = x.1.answered) (debug : y.1.debug = x.1.debug)
      (calls : Adds Exchange.Administrative x.2 y.2) : LogsIn a x (.error (.login cause)) y
  | granted {y : Client × World} (s : Session) (launched : x.1.launched = none)
      (reply : loginReply a x = .ok s.handle)
      (answered : y.1.answered = x.1.answered)
      (debug : y.1.debug = x.1.debug.boundTo s)
      (calls : Adds Exchange.Administrative x.2 y.2) : LogsIn a x (.ok s) y

theorem LogsIn.answered {a : LaunchArguments} {x y : Client × World}
    {result : Except RequestError Session} (h : LogsIn a x result y) :
    y.1.answered = x.1.answered := by
  cases h with
  | again => rfl
  | refused _ _ _ answered => exact answered
  | granted _ _ _ answered => exact answered

theorem logInWith_apply (settings : LoginSettings) (c : Client) (w : World) :
    logInWith settings c w = match Registry.login settings.params w with
      | (.error cause, w') => ((.error (.login cause), c), w')
      | (.ok s, w') =>
        ((.ok s, { c with launched := some s.id, debug := c.debug.boundTo s }), w') := by
  rcases ends : Registry.login settings.params w with ⟨cause | s, w'⟩
  · have asked : (liftM (Registry.login settings.params).run : Handling _) c w =
      ((.ok (.error cause), c), w') := Staged.attempt_lift_of (Staged.act_of ends c)
    exact Staged.attempt_bind_ok asked
  · have asked : (liftM (Registry.login settings.params).run : Handling _) c w =
      ((.ok (.ok s), c), w') := Staged.attempt_lift_of (Staged.act_of ends c)
    have noted : (modify fun c => { c with launched := some s.id } : Handling PUnit) c w' =
      ((.ok (), { c with launched := some s.id }), w') := rfl
    have bound : (ExceptT.lift (debugging (Debug.bind s)) : Handling Unit)
        { c with launched := some s.id } w' =
        ((.ok (), { c with launched := some s.id, debug := c.debug.boundTo s }), w') := by
      refine Staged.attempt_lift_of ?_
      show (((Debug.bind s c.debug w').1.1, { c with
        launched := some s.id, debug := (Debug.bind s c.debug w').1.2 }),
        (Debug.bind s c.debug w').2) = _
      rw [Debug.bind_apply]
    have rest : (do
        modify fun c => { c with launched := some s.id }
        ExceptT.lift (debugging (Debug.bind s))
        return s : Handling Session) c w' =
        ((.ok s, { c with launched := some s.id, debug := c.debug.boundTo s }), w') :=
      (Staged.attempt_bind_ok noted).trans (Staged.attempt_bind_ok bound)
    exact (Staged.attempt_bind_ok asked).trans rest

/-- After a launch there is no other. Before the first one logs in it may begin to listen to the log,
which changes nothing that matters here. -/
theorem logIn_cases (a : LaunchArguments) (c : Client) (w : World) :
    (c.launched.isSome ∧ logIn a c w = ((.error .alreadyLaunched, c), w)) ∨
    (c.launched = none ∧ ∃ logToClient listening, logIn a c w =
      logInWith (c.login.merge a.login) { c with logToClient }
        { w with queue := { w.queue with listening } }) := by
  rw [logIn, Staged.attempt_get_bind]
  by_cases launched : c.launched.isSome = true
  · rw [if_pos launched]
    exact .inl ⟨launched, rfl⟩
  · have fresh : c.launched = none := by simpa using launched
    rw [if_neg launched]
    dsimp only
    rw [Staged.attempt_get_bind]
    by_cases listens : (a.logToClient && !c.logToClient) = true
    · have marked : (modify fun c => { c with logToClient := true } : Handling PUnit) c w =
        ((.ok (), { c with logToClient := true }), w) := rfl
      have hears : (modifyThe World fun w =>
          { w with queue := { w.queue with listening := some .info } } : Handling PUnit)
          { c with logToClient := true } w = ((.ok (), { c with logToClient := true }),
            { w with queue := { w.queue with listening := some .info } }) := rfl
      rw [if_pos listens, Staged.attempt_bind_ok marked, Staged.attempt_bind_ok hears,
        Staged.attempt_get_bind]
      exact .inr ⟨fresh, true, some .info, rfl⟩
    · rw [if_neg listens, Staged.attempt_get_bind]
      exact .inr ⟨fresh, c.logToClient, w.queue.listening, rfl⟩

theorem logIn_apply (a : LaunchArguments) (c : Client) (w : World) :
    LogsIn a (c, w) (logIn a c w).1.1 (Staged.ends (logIn a) c w) := by
  rcases logIn_cases a c w with ⟨launched, same⟩ | ⟨fresh, logToClient, listening, same⟩
  · rw [Staged.ends, same]
    exact .again launched
  · let w₀ : World := { w with queue := { w.queue with listening } }
    have before : Adds Exchange.Administrative w w₀ := .of_transcript_eq rfl
    have calls := Registry.adds_login (c.login.merge a.login).params w₀
    have applied := Registry.login_apply (c.login.merge a.login).params w₀
    rw [ExceptT.run] at calls
    rw [Staged.ends, same, logInWith_apply]
    rcases ran : Registry.login (c.login.merge a.login).params w₀ with ⟨cause | s, w'⟩
    · rw [ran] at calls applied
      exact .refused cause fresh applied.1 rfl rfl ((lasts_adds _).trans before calls)
    · rw [ran] at calls applied
      exact .granted s fresh applied.1 rfl rfl ((lasts_adds _).trans before calls)

/-! ## Evaluating -/

def evaluating (w : World) : World := { w with token := w.token.reset, running := true }

/-- The evaluation cannot be carried out, or it fails with a process that cannot be attached. -/
def EvaluationFails (s : Session) (a : LaunchArguments) (c : Client) (w : World) : Prop :=
  (∃ e, (s.runSource c.poll a.expression (evaluating w)).1 = .error e) ∨
    ∃ e process cause, (s.runSource c.poll a.expression (evaluating w)).1 = .ok (some (.failed e)) ∧
      e.process? = some process ∧ a.stopOnError = true ∧
      (Debug.attachSession s process e.message c.debug
        { (s.runSource c.poll a.expression (evaluating w)).2 with running := false }).1.1 =
        .error cause

theorem mapError_eq_error_iff {α ε ε' : Type} {f : ε → ε'} {result : Except ε α} :
    (∃ cause, result.mapError f = .error cause) ↔ ∃ e, result = .error e := by
  cases result with
  | ok a =>
      show (∃ cause, Except.ok a = .error cause) ↔ _
      simp
  | error e =>
      show (∃ cause, Except.error (f e) = .error cause) ↔ _
      simp

theorem tellOutcome_fails_iff (s : Session) (stopOnError : Bool) (outcome : Outcome) (c : Client)
    (w : World) :
    (∃ cause, (tellOutcome s stopOnError outcome c w).1.1 = .error cause) ↔
      ∃ e process cause, outcome = .failed e ∧ e.process? = some process ∧ stopOnError = true ∧
        (Debug.attachSession s process e.message c.debug w).1.1 = .error cause := by
  cases outcome with
  | ready result =>
      have told : (tellOutcome s stopOnError (.ready result) c w).1.1 = .ok () := rfl
      simp [told]
  | cancelled drained =>
      have told : (tellOutcome s stopOnError (.cancelled drained) c w).1.1 = .ok () := rfl
      simp [told]
  | failed e =>
      cases found : e.process? with
      | none =>
          have told : (tellOutcome s stopOnError (.failed e) c w).1.1 = .ok () := by
            simp only [tellOutcome, found]
            rfl
          simp [told, found]
      | some process =>
          cases stopOnError with
          | false =>
              have told : (tellOutcome s false (.failed e) c w).1.1 = .ok () := by
                simp only [tellOutcome, found]
                rfl
              simp [told]
          | true =>
              have told : (tellOutcome s true (.failed e) c w).1.1 =
                  (Debug.attachSession s process e.message c.debug w).1.1.mapError .debug := by
                simp only [tellOutcome, found]
                rfl
              rw [told, mapError_eq_error_iff]
              simp [found]

section

variable {s : Session} {expression : String} {c : Client} {w w' : World}

/-- Source is run first; what follows depends on how that ends. -/
theorem runExpression_apply {result : Except CallError (Option Outcome)} (stopOnError : Bool)
    (ran : s.runSource c.poll expression (evaluating w) = (result, w')) :
    runExpression s expression stopOnError c w = (match result with
      | .ok none => return .wait
      | .ok (some outcome) => do
        modifyThe World fun w => { w with running := false }
        tellOutcome s stopOnError outcome
        return .proceed
      | .error e => do
        modifyThe World fun w => { w with running := false }
        throw (.debug (.call e)) : Handling Next) c w' := by
  have started : (modifyThe World fun w => { w with token := w.token.reset, running := true } :
    Handling PUnit) c w = ((.ok (), c), evaluating w) := rfl
  have asked : (liftM (s.runSource c.poll expression).run : Handling _) c (evaluating w) =
    ((.ok result, c), w') := Staged.attempt_lift_of (Staged.act_of ran c)
  rw [runExpression, Staged.attempt_bind_ok started, Staged.attempt_get_bind,
    Staged.attempt_bind_ok asked]
  rcases result with _ | _ | _ <;> rfl

theorem runExpression_of_error {e : CallError} (stopOnError : Bool)
    (ran : s.runSource c.poll expression (evaluating w) = (.error e, w')) :
    runExpression s expression stopOnError c w =
      ((.error (.debug (.call e)), c), { w' with running := false }) :=
  (runExpression_apply stopOnError ran).trans rfl

theorem runExpression_of_endless (stopOnError : Bool)
    (ran : s.runSource c.poll expression (evaluating w) = (.ok none, w')) :
    runExpression s expression stopOnError c w = ((.ok .wait, c), w') :=
  (runExpression_apply stopOnError ran).trans rfl

theorem runExpression_of_outcome {outcome : Outcome} (stopOnError : Bool)
    (ran : s.runSource c.poll expression (evaluating w) = (.ok (some outcome), w')) :
    runExpression s expression stopOnError c w =
      (do tellOutcome s stopOnError outcome; return .proceed : Handling Next) c
        { w' with running := false } := by
  have ended : (modifyThe World fun w => { w with running := false } : Handling PUnit) c w' =
    ((.ok (), c), { w' with running := false }) := rfl
  exact (runExpression_apply stopOnError ran).trans (Staged.attempt_bind_ok ended)

end

/-- An evaluation fails after the launch was answered for these reasons only. -/
theorem runExpression_fails_iff (s : Session) (a : LaunchArguments) (c : Client) (w : World) :
    (∃ cause, (runExpression s a.expression a.stopOnError c w).1.1 = .error cause) ↔
      EvaluationFails s a c w := by
  unfold EvaluationFails
  rcases ran : s.runSource c.poll a.expression (evaluating w) with ⟨e | _ | outcome, w'⟩
  · rw [runExpression_of_error a.stopOnError ran]
    simp
  · rw [runExpression_of_endless a.stopOnError ran]
    simp
  · have told := tellOutcome_fails_iff s a.stopOnError outcome c { w' with running := false }
    rw [runExpression_of_outcome a.stopOnError ran, Staged.attempt_bind_apply]
    simp only [reduceCtorEq, exists_false, false_or, Except.ok.injEq, Option.some.injEq]
    rw [← told]
    rcases tellOutcome s a.stopOnError outcome c { w' with running := false } with
      ⟨⟨e | _, _⟩, _⟩
    · exact ⟨fun _ => ⟨e, rfl⟩, fun _ => ⟨e, rfl⟩⟩
    · exact ⟨nofun, nofun⟩

end Adapter.Client

end StoneDebug
