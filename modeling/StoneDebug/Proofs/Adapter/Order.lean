import StoneDebug.Foreign.Reply
import StoneDebug.Proofs.Adapter.Keeping
import StoneDebug.Proofs.Adapter.Ledger
import StoneDebug.Proofs.Adapter.Wire

/-! # The order of what is written

Events wait until the request that has caused them is answered, and are written before the next one
is. A launch is answered in the middle: what its evaluation causes comes in a second round, after the
progress that was written while it ran.
-/

namespace StoneDebug.Adapter

/-- Answers a request to end an evaluation. -/
def Message.isAside : Message → Bool
  | .response _ command _ _ _ => command == "cancel" || command == "pause"
  | .event _ _ => false

namespace Client

open Debug

/-! ## Events that wait -/

/-- What waits to be told goes on waiting, and only answers are under way besides. -/
structure Mutters (w w' : World) : Prop where
  waiting : w.queue.waiting <+: w'.queue.waiting
  asides : ∃ added, w'.asides = w.asides ++ added ∧
    ∀ a ∈ added, ∃ request pause accepted, a = .answered request pause accepted

theorem mutters_of_gathers {w w' : World} (h : Gathers w w') : Mutters w w' :=
  ⟨h.waiting, [], by simp [h.asides], by simp⟩

theorem lasts_mutters : Lasts Mutters where
  refl w := mutters_of_gathers (lasts_gathers.refl w)
  trans := by
    rintro w w₁ w₂ ⟨waiting, added, eq, answers⟩ ⟨waiting', added', eq', answers'⟩
    exact ⟨waiting.trans waiting', added ++ added', by rw [eq', eq, List.append_assoc],
      List.forall_mem_append.mpr ⟨answers, answers'⟩⟩

theorem mutters_of_same {w w' : World} (queue : w'.queue.waiting = w.queue.waiting)
    (asides : w'.asides = w.asides) : Mutters w w' :=
  ⟨queue ▸ List.prefix_rfl, [], by simp [asides], by simp⟩

theorem mutters_interject (i : Interjection) : Along Mutters (interject i) := by
  have aside (request : Int) (pause accepted : Bool) :
      Along Mutters (addAside (.answered request pause accepted)) := by
    intro w
    refine ⟨List.prefix_rfl, [.answered request pause accepted], rfl, ?_⟩
    intro a member
    exact ⟨request, pause, accepted, List.mem_singleton.mp member⟩
  cases i with
  | cancel => exact fun _ => mutters_of_same rfl rfl
  | request seq pause =>
      have lasts := lasts_mutters
      refine .bind lasts (fun w => lasts.refl w) fun w => ?_
      split
      · refine .bind lasts (fun _ => mutters_of_same rfl rfl) fun _ => ?_
        refine .bind lasts (fun w => lasts.refl w) fun w => ?_
        refine .bind lasts (fun w => mutters_of_gathers (gathers_logRecord _ _ _ w)) fun _ => ?_
        exact aside seq pause true
      · exact aside seq pause (!pause)

theorem drains_mutters (s : Session) : s.Drains Mutters where
  toLasts := lasts_mutters
  call _ _ _ := mutters_of_same rfl rfl
  log severity target text w := mutters_of_gathers (gathers_logRecord severity target text w)
  tick _ _ := mutters_of_same rfl rfl
  interject := mutters_interject

theorem pervades_mutters : Pervades Mutters where
  toLasts := lasts_mutters
  gathers := mutters_of_gathers
  carries s :=
    { toLasts := lasts_mutters
      call := fun _ _ _ => mutters_of_same rfl rfl
      log := (drains_mutters s).log
      ensureIdle := (drains_mutters s).ensureIdle fun _ => mutters_of_same rfl rfl
      setHelperClass := fun _ _ => mutters_of_same rfl rfl }

theorem mutters_login (params : LoginParams) : Along Mutters (Registry.login params).run :=
  Registry.login_along lasts_mutters
    (fun severity target text w => mutters_of_gathers (gathers_logRecord severity target text w))
    (fun _ queue asides => mutters_of_same (congrArg EventQueue.waiting queue) asides)
    (fun _ _ => mutters_of_same rfl rfl) (fun _ => mutters_of_same rfl rfl) params

theorem mutters_logout (id : Nat) : Along Mutters (Registry.logout id).run :=
  Registry.logout_along lasts_mutters
    (fun severity target text w => mutters_of_gathers (gathers_logRecord severity target text w))
    (fun _ queue asides => mutters_of_same (congrArg EventQueue.waiting queue) asides)
    (fun _ _ => mutters_of_same rfl rfl) id

theorem mutters_close (c : Client) (w : World) : Mutters w (Staged.ends close c w).2 := by
  have gone : Mutters w (Staged.ends (debugging disconnect) c w).2 :=
    pervades_mutters.disconnect c.debug w
  have closed := close_cases c w
  cases launched : c.launched with
  | none =>
      rw [launched] at closed
      exact lasts_mutters.trans gone (mutters_of_gathers closed.gathers)
  | some id =>
      rw [launched] at closed
      have out := mutters_logout id (Staged.ends (debugging disconnect) c w).2
      exact lasts_mutters.trans gone (lasts_mutters.trans out (mutters_of_gathers closed.gathers))

/-! ## The parts of a request -/

/-- The state in which the request is answered, and what waits by then. -/
def opening (e : Envelope) (x : Client × World) : Client × World :=
  match Command.ofEnvelope e with
  | .error _ => x
  | .ok (.launch a) =>
    Staged.ends (do let _ ← logIn a; applyPending : Handling Unit).run x.1 x.2
  | .ok command => Staged.ends (answer command).run x.1 x.2

def closing (e : Envelope) (x : Client × World) : Client × World :=
  Staged.ends (perform e).run x.1 x.2

/-- Whether the request has logged in, and evaluates something after its answer. -/
def launches (e : Envelope) (x : Client × World) : Bool :=
  match Command.ofEnvelope e with
  | .ok (.launch a) => (logIn a x.1 x.2).1.1.isOk
  | _ => false

/-- What a request is answered with first; a launch is answered as soon as it has logged in. -/
def outcome (e : Envelope) (x : Client × World) : Except RequestError (Option Json) :=
  match Command.ofEnvelope e with
  | .error cause => .error (.bad cause)
  | .ok (.launch a) => (logIn a x.1 x.2).1.1.map fun _ => none
  | .ok .introduce => .ok (some capabilities)
  | .ok command => (answer command x.1 x.2).1.1

def reply (e : Envelope) (x : Client × World) : Message :=
  match outcome e x with
  | .ok body => .response e.seq e.command true none body
  | .error cause => .response e.seq e.command false (some cause.message) none

/-- The first answer to a request to initialize is followed at once by an event. -/
def introduction (e : Envelope) : List Message :=
  match Command.ofEnvelope e with
  | .ok .introduce => [.event "initialized" none]
  | _ => []

/-- What is written once an evaluation was left: that it has failed, and what waits by then. -/
def conclusion (e : Envelope) (x : Client × World) : List Message :=
  match (perform e x.1 x.2).1.1 with
  | .ok .wait => []
  | .ok _ => announcements (closing e x)
  | .error cause =>
    .response e.seq e.command false (some cause.message) none :: announcements (closing e x)

/-- What is written from the first answer to a request to the end of its handling. -/
def sequel (e : Envelope) (x : Client × World) : List Message :=
  if launches e x then announcements (opening e x) ++ underway (closing e x) ++ conclusion e x
  else introduction e ++ announcements (opening e x)

section

variable {e : Envelope} {c c' : Client} {w w' : World}

theorem wrote_handle_of_ok {next : Next} (ended : next ≠ .wait)
    (performed : perform e c w = ((.ok next, c'), w')) :
    let y := Staged.ends (handle e) c w
    Wrote (underway (c', w') ++ announcements (c', w')) (c', w') y ∧ Settles y := by
  rw [ends_handle_of_ok ended performed]
  exact wrote_closing c' w'

theorem wrote_handle_of_wait (performed : perform e c w = ((.ok .wait, c'), w')) :
    (handle e c w).1.1 = .wait ∧
      Wrote (underway (c', w')) (c', w') (Staged.ends (handle e) c w) := by
  obtain ⟨left, same⟩ := handle_of_wait performed
  rw [same]
  exact ⟨left, (wrote_flush c' w').1⟩

theorem wrote_handle_of_error {cause : RequestError}
    (performed : perform e c w = ((.error cause, c'), w')) :
    let y := Staged.ends (handle e) c w
    Wrote (underway (c', w') ++ .response e.seq e.command false (some cause.message) none ::
      announcements (c', w')) (c', w') y ∧ Settles y := by
  rcases refused : refuse e cause.message c' w' with ⟨⟨_, c₁⟩, w₁⟩
  obtain ⟨wrote, silent, same⟩ := wrote_of_write refused
  obtain ⟨rest, settles⟩ := wrote_closing c₁ w₁
  rw [underway_of_silent silent, same] at rest
  rw [ends_handle_of_error performed, Staged.ends, Staged.bind_of refused]
  exact ⟨by simpa using wrote.trans rest, settles⟩

/-- Whatever carrying out the request has come to, its conclusion is written. -/
theorem wrote_conclusion (e : Envelope) (c : Client) (w : World) :
    let x := closing e (c, w)
    let y := Staged.ends (handle e) c w
    Wrote (underway x ++ conclusion e (c, w)) x y ∧ ((handle e c w).1.1 ≠ .wait → Settles y) := by
  rcases performed : perform e c w with ⟨⟨cause | next, c'⟩, w'⟩
  · obtain ⟨wrote, settles⟩ := wrote_handle_of_error performed
    rw [conclusion, performed, closing, ExceptT.run, Staged.ends_of performed]
    exact ⟨wrote, fun _ => settles⟩
  · rw [conclusion, performed, closing, ExceptT.run, Staged.ends_of performed]
    by_cases waits : next = .wait
    · subst waits
      obtain ⟨left, wrote⟩ := wrote_handle_of_wait performed
      exact ⟨by simpa using wrote, fun ended => absurd left ended⟩
    · obtain ⟨wrote, settles⟩ := wrote_handle_of_ok waits performed
      cases next with
      | wait => exact absurd rfl waits
      | proceed | leave => exact ⟨wrote, fun _ => settles⟩

/-- The answer to a launch and the events before its evaluation. -/
theorem wrote_openUp (e : Envelope) (c : Client) (w : World) :
    let x := Staged.ends applyPending c w
    Wrote (underway x ++ .response e.seq e.command true none none :: announcements x) x
      (Staged.ends (openUp e) c w) := by
  rcases applied : applyPending c w with ⟨⟨_, c₁⟩, w₁⟩
  rcases responded : respond e none c₁ w₁ with ⟨⟨_, c₂⟩, w₂⟩
  obtain ⟨wrote, silent, same⟩ := wrote_of_write responded
  obtain ⟨drained, _⟩ := wrote_drainEvents (c := c₂) silent
  rw [same] at drained
  rw [Staged.ends_of applied, Staged.ends, openUp, Staged.bind_of applied,
    Staged.bind_of responded]
  simpa using wrote.trans drained

theorem opening_of_error {cause : BadRequest} (read : Command.ofEnvelope e = .error cause)
    (x : Client × World) : opening e x = x := by
  rw [opening, read]

theorem opening_of_launch {a : LaunchArguments} (read : Command.ofEnvelope e = .ok (.launch a))
    (x : Client × World) : opening e x =
      Staged.ends (do let _ ← logIn a; applyPending : Handling Unit).run x.1 x.2 := by
  rw [opening, read]

theorem opening_of_answer {command : Command} (read : Command.ofEnvelope e = .ok command)
    (other : ∀ a, command ≠ .launch a) (x : Client × World) :
    opening e x = Staged.ends (answer command).run x.1 x.2 := by
  rw [opening, read]
  cases command with
  | launch a => exact absurd rfl (other a)
  | _ => rfl

theorem launches_of_launch {a : LaunchArguments} (read : Command.ofEnvelope e = .ok (.launch a))
    (x : Client × World) : launches e x = (logIn a x.1 x.2).1.1.isOk := by
  rw [launches, read]

theorem launches_of_other (other : ∀ a, Command.ofEnvelope e ≠ .ok (.launch a))
    (x : Client × World) : launches e x = false := by
  rw [launches]
  split
  · next a read => exact absurd read (other a)
  · rfl

theorem sequel_of_other {x : Client × World} (unlaunched : launches e x = false)
    (other : Command.ofEnvelope e ≠ .ok .introduce) : sequel e x = announcements (opening e x) := by
  have silent : introduction e = [] := by
    rw [introduction]
    split
    · next read => exact absurd read other
    · rfl
  rw [sequel, unlaunched, silent]
  rfl

theorem Ignores.opening {R : Client × World → Client × World → Prop} (h : Ignores R)
    (applies : Staged.Along R applyPending)
    (sets : ∀ path lines, Command.ofEnvelope e = .ok (.setBreakpoints path lines) →
      Staged.Along R (setBreakpoints path lines)) (x : Client × World) : R x (opening e x) := by
  obtain ⟨c, w⟩ := x
  cases read : Command.ofEnvelope e with
  | error cause =>
      rw [opening_of_error read]
      exact h.refl (c, w)
  | ok command =>
      by_cases launch : ∃ a, command = .launch a
      · obtain ⟨a, rfl⟩ := launch
        rw [opening_of_launch read]
        exact Staged.Along.attemptBind h.toLasts (h.logIn a) (fun _ => .lift applies) c w
      · rw [opening_of_answer read fun a same => launch ⟨a, same⟩]
        refine h.answer (fun _ _ => applies) (fun path lines same => ?_) c w
        exact sets path lines (read.trans (congrArg _ same))

theorem unwritten_opening (e : Envelope) (x : Client × World) : Unwritten x (opening e x) :=
  ignores_unwritten.opening serves_unwritten.applyPending
    (fun _ _ _ => serves_unwritten.setBreakpoints _ _) x

/-- What a launch does to the world before it is answered: it may begin to listen, and logs in. -/
theorem onWorld_logIn {P : World → World → Prop} (lasts : Lasts P)
    (listens : ∀ w listening, P w { w with queue := { w.queue with listening } })
    (logs : ∀ params, Along P (Registry.login params).run) (a : LaunchArguments) :
    Staged.Along (OnWorld P) (logIn a).run := by
  intro c w
  rcases logIn_cases a c w with ⟨_, same⟩ | ⟨_, logToClient, listening, same⟩
  · rw [ExceptT.run, Staged.ends_of same]
    exact lasts.refl w
  · let w₀ : World := { w with queue := { w.queue with listening } }
    have logs := logs (c.login.merge a.login).params w₀
    rw [ExceptT.run] at logs
    rw [ExceptT.run, Staged.ends, same, logInWith_apply]
    rcases ran : Registry.login (c.login.merge a.login).params w₀ with ⟨cause | s, w'⟩ <;>
      rw [ran] at logs <;> exact lasts.trans (listens w listening) logs

theorem mutters_logIn (a : LaunchArguments) : Staged.Along (OnWorld Mutters) (logIn a).run :=
  onWorld_logIn lasts_mutters (fun _ _ => mutters_of_same rfl rfl) mutters_login a

/-- Up to the answer nothing that waits is lost, and only answers may be under way. -/
theorem mutters_opening (e : Envelope) (x : Client × World) : Mutters x.2 (opening e x).2 := by
  obtain ⟨c, w⟩ := x
  have lasts := lasts_onWorld (σ := Client) lasts_mutters
  cases read : Command.ofEnvelope e with
  | error cause =>
      rw [opening_of_error read]
      exact lasts_mutters.refl w
  | ok command =>
      by_cases launch : ∃ a, command = .launch a
      · obtain ⟨a, rfl⟩ := launch
        rw [opening_of_launch read]
        have applies : Staged.Along (OnWorld Mutters) applyPending :=
          pervades_mutters.serves.applyPending.mono Keeps.world
        exact Staged.Along.attemptBind lasts (mutters_logIn a) (fun _ => .lift applies) c w
      · rw [opening_of_answer read fun a same => launch ⟨a, same⟩]
        by_cases leaves : command = .disconnect
        · subst leaves
          exact Staged.Along.attemptBind lasts (.lift mutters_close)
            (fun _ => .attemptPure lasts _) c w
        · exact (pervades_mutters.answer leaves c w).world

/-! ## Handling a request -/

/-- What handling a request has written. Nothing is left then, unless it goes on. -/
structure Replied (e : Envelope) (x y : Client × World) : Prop where
  wrote : Wrote (underway (opening e x) ++ reply e x :: sequel e x) x y
  settles : (handle e x.1 x.2).1.1 ≠ .wait → Settles y

theorem reply_of_ok {x : Client × World} {body : Option Json} (answered : outcome e x = .ok body) :
    reply e x = .response e.seq e.command true none body := by
  rw [reply, answered]

theorem reply_of_error {x : Client × World} {cause : RequestError}
    (failed : outcome e x = .error cause) :
    reply e x = .response e.seq e.command false (some cause.message) none := by
  rw [reply, failed]

theorem outcome_of_answer {command : Command} (read : Command.ofEnvelope e = .ok command)
    (silent : command ≠ .introduce) (other : ∀ a, command ≠ .launch a) (x : Client × World) :
    outcome e x = (answer command x.1 x.2).1.1 := by
  rw [outcome, read]
  cases command with
  | introduce => exact absurd rfl silent
  | launch a => exact absurd rfl (other a)
  | _ => rfl

/-- What fails before it is answered is refused. -/
theorem replied_of_error {cause : RequestError} (performed : perform e c w = ((.error cause, c'), w'))
    (failed : outcome e (c, w) = .error cause) (opens : opening e (c, w) = (c', w'))
    (unlaunched : launches e (c, w) = false) (other : Command.ofEnvelope e ≠ .ok .introduce) :
    Replied e (c, w) (Staged.ends (handle e) c w) := by
  obtain ⟨wrote, settles⟩ := wrote_handle_of_error performed
  have silent := (unwritten_opening e (c, w)).wrote
  rw [opens] at silent
  refine ⟨?_, fun _ => settles⟩
  rw [sequel_of_other unlaunched other, reply_of_error failed, opens]
  exact silent.trans wrote

/-- A command that is answered when it has been carried out. -/
theorem replied_of_answer {command : Command} (read : Command.ofEnvelope e = .ok command)
    (silent : command ≠ .introduce) (other : ∀ a, command ≠ .launch a) {next : Next}
    (ended : next ≠ .wait) (answers : dispatch e command = do
      let body ← answer command
      respond e body
      return next) : Replied e (c, w) (Staged.ends (handle e) c w) := by
  have unlaunched : launches e (c, w) = false := by
    refine launches_of_other (fun a launch => other a ?_) (c, w)
    exact Except.ok.inj (read.symm.trans launch)
  have unintroduced : Command.ofEnvelope e ≠ .ok .introduce := by
    intro introduces
    exact silent (Except.ok.inj (read.symm.trans introduces))
  have performs := perform_of_ok read c w
  have comes := outcome_of_answer read silent other (c, w)
  rw [answers] at performs
  rcases answered : answer command c w with ⟨⟨cause | body, c'⟩, w'⟩
  · have opens : opening e (c, w) = (c', w') := by
      rw [opening_of_answer read other, ExceptT.run, Staged.ends_of answered]
    rw [Staged.attempt_bind_error answered] at performs
    rw [answered] at comes
    exact replied_of_error performs comes opens unlaunched unintroduced
  · have opens : opening e (c, w) = (c', w') := by
      rw [opening_of_answer read other, ExceptT.run, Staged.ends_of answered]
    rw [answered] at comes
    rcases responded : respond e body c' w' with ⟨⟨_, c₁⟩, w₁⟩
    obtain ⟨wrote, clear, same⟩ := wrote_of_write responded
    have responds : (liftM (respond e body) : Handling Unit) c' w' = ((.ok (), c₁), w₁) :=
      Staged.attempt_lift_of responded
    rw [Staged.attempt_bind_ok answered, Staged.attempt_bind_ok responds] at performs
    obtain ⟨rest, settles⟩ := wrote_handle_of_ok ended (performs.trans rfl)
    rw [underway_of_silent clear, same] at rest
    have before := (unwritten_opening e (c, w)).wrote
    rw [opens] at before
    refine ⟨?_, fun _ => settles⟩
    rw [sequel_of_other unlaunched unintroduced, reply_of_ok comes, opens]
    simpa using before.trans (wrote.trans rest)

theorem replied_introduce (read : Command.ofEnvelope e = .ok .introduce) :
    Replied e (c, w) (Staged.ends (handle e) c w) := by
  have opens : opening e (c, w) = (c, w) := opening_of_answer read nofun (c, w)
  have unlaunched : launches e (c, w) = false :=
    launches_of_other (fun a launch => nomatch read.symm.trans launch) (c, w)
  have introduced : introduction e = [.event "initialized" none] := by rw [introduction, read]
  have comes : outcome e (c, w) = .ok (some capabilities) := by rw [outcome, read]
  rcases responded : respond e (some capabilities) c w with ⟨⟨_, c₁⟩, w₁⟩
  obtain ⟨wrote, clear, same⟩ := wrote_of_write responded
  rcases initialized : write (.event "initialized" none) c₁ w₁ with ⟨⟨_, c₂⟩, w₂⟩
  obtain ⟨wrote', clear', same'⟩ := wrote_of_write initialized
  have performs : perform e c w = ((.ok .proceed, c₂), w₂) := by
    have responds : (liftM (respond e (some capabilities)) : Handling Unit) c w =
      ((.ok (), c₁), w₁) := Staged.attempt_lift_of responded
    have initializes : (liftM (write (.event "initialized" none)) : Handling Unit) c₁ w₁ =
      ((.ok (), c₂), w₂) := Staged.attempt_lift_of initialized
    rw [perform_of_ok read, dispatch, Staged.attempt_bind_ok responds,
      Staged.attempt_bind_ok initializes]
    rfl
  have ended : Next.proceed ≠ .wait := nofun
  obtain ⟨rest, settles⟩ := wrote_handle_of_ok ended performs
  rw [underway_of_silent clear] at wrote'
  rw [underway_of_silent clear', same', same] at rest
  refine ⟨?_, fun _ => settles⟩
  rw [sequel, unlaunched, opens, introduced, reply_of_ok comes]
  simpa using wrote.trans (wrote'.trans rest)

/-- A launch is answered once it has logged in; what waits by then is written before anything is
evaluated. -/
theorem replied_launch {a : LaunchArguments} (read : Command.ofEnvelope e = .ok (.launch a)) :
    Replied e (c, w) (Staged.ends (handle e) c w) := by
  have performs := perform_of_ok read c w
  rw [show dispatch e (.launch a) = launch e a from rfl, launch_eq] at performs
  have unintroduced : Command.ofEnvelope e ≠ .ok .introduce := by
    rw [read]
    nofun
  have launched := launches_of_launch read (c, w)
  have opens := opening_of_launch read (c, w)
  have comes : outcome e (c, w) = (logIn a c w).1.1.map fun _ => none := by rw [outcome, read]
  rcases logged : logIn a c w with ⟨⟨cause | s, c₁⟩, w₁⟩
  · have unlaunched : launches e (c, w) = false := launched.trans (by rw [logged]; rfl)
    rw [ExceptT.run, Staged.ends, Staged.attempt_bind_error logged] at opens
    rw [Staged.attempt_bind_error logged] at performs
    rw [logged] at comes
    exact replied_of_error performs comes opens unlaunched unintroduced
  · have launched : launches e (c, w) = true := launched.trans (by rw [logged]; rfl)
    have applies : opening e (c, w) = Staged.ends applyPending c₁ w₁ := by
      rw [opens, ExceptT.run, Staged.ends, Staged.attempt_bind_ok logged]
      rfl
    rw [logged] at comes
    have wrote := wrote_openUp e c₁ w₁
    rw [← applies] at wrote
    rcases opened : openUp e c₁ w₁ with ⟨⟨_, c₂⟩, w₂⟩
    rw [Staged.ends_of opened] at wrote
    have up : (liftM (openUp e) : Handling Unit) c₁ w₁ = ((.ok (), c₂), w₂) :=
      Staged.attempt_lift_of opened
    rw [Staged.attempt_bind_ok logged, Staged.attempt_bind_ok up] at performs
    have evaluated : Wrote [] (c₂, w₂) (closing e (c, w)) := by
      rw [closing, ExceptT.run, Staged.ends, performs]
      exact ((evaluates_unwritten s).runExpression a.expression a.stopOnError c₂ w₂).wrote
    obtain ⟨concluded, settles⟩ := wrote_conclusion e c w
    refine ⟨?_, settles⟩
    rw [sequel, launched, if_pos rfl, reply_of_ok comes]
    have before := (unwritten_opening e (c, w)).wrote
    simpa using before.trans (wrote.trans (evaluated.trans concluded))

theorem replied (e : Envelope) (c : Client) (w : World) :
    Replied e (c, w) (Staged.ends (handle e) c w) := by
  have proceeds : Next.proceed ≠ .wait := nofun
  have leaves : Next.leave ≠ .wait := nofun
  cases read : Command.ofEnvelope e with
  | error cause =>
      exact replied_of_error (perform_of_error read c w) (by rw [outcome, read])
        (opening_of_error read (c, w))
        (launches_of_other (fun a launch => nomatch read.symm.trans launch) (c, w))
        fun introduces => nomatch read.symm.trans introduces
  | ok command =>
      cases command with
      | launch a => exact replied_launch read
      | introduce => exact replied_introduce read
      | disconnect => exact replied_of_answer read nofun nofun leaves rfl
      | _ => exact replied_of_answer read nofun nofun proceeds rfl

/-- What handling a request has written, by what it answers. -/
structure Handled (e : Envelope) (x y : Client × World) : Prop where
  wrote : ∃ first : Message, first.answer? = some (e.seq, e.command) ∧
    Wrote (underway (opening e x) ++ first :: sequel e x) x y
  settles : (handle e x.1 x.2).1.1 ≠ .wait → Settles y

theorem answer?_reply (plain : ¬(e.command = "cancel" ∨ e.command = "pause"))
    (x : Client × World) : (reply e x).answer? = some (e.seq, e.command) := by
  rw [reply]
  cases outcome e x <;> exact if_neg plain

theorem handled (plain : ¬(e.command = "cancel" ∨ e.command = "pause")) :
    Handled e (c, w) (Staged.ends (handle e) c w) :=
  have done := replied e c w
  ⟨⟨_, answer?_reply plain (c, w), done.wrote⟩, done.settles⟩

end

end Client

end StoneDebug.Adapter
