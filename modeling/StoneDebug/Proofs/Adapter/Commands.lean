import StoneDebug.Proofs.Adapter.History
import StoneDebug.Proofs.Adapter.Launching

/-! # What a message does to the debug session

`Moves` lists the ways: the debug session works on in the session that it has, it lets go of
everything, it is attached, or a launch logs in and binds it to another session.
-/

namespace StoneDebug.Adapter.Client

open Debug

/-- A relation on debug sessions, seen from their clients. -/
def Lifted (R : DebugSession × World → DebugSession × World → Prop) (x y : Client × World) : Prop :=
  R (x.1.debug, x.2) (y.1.debug, y.2)

variable {R : DebugSession × World → DebugSession × World → Prop} {α : Type} {s : Session}

theorem lasts_lifted (lasts : Lasts R) : Lasts (Lifted R) where
  refl x := lasts.refl (x.1.debug, x.2)
  trans h h' := lasts.trans h h'

theorem lifted_debugging {operation : Debugging α} (h : Staged.Along R operation) :
    Staged.Along (Lifted R) (debugging operation) :=
  fun c w => h c.debug w

theorem lifted_onDebug (lasts : Lasts R) {operation : Debug α} (h : Staged.Along R operation.run) :
    Staged.Along (Lifted R) (onDebug operation).run :=
  .bind (lasts_lifted lasts) (lifted_debugging h) fun _ => .pure (lasts_lifted lasts) _

theorem reads_of_speaks {x y : Client × World} (h : Speaks x y) : Lifted Reads x y := by
  unfold Lifted
  rw [h.debug]
  exact ⟨⟨rfl, rfl, rfl, rfl, .of_transcript_eq h.quiet.transcript⟩, rfl, rfl⟩

/-- Whatever contains reading. -/
structure Covers (R : DebugSession × World → DebugSession × World → Prop) : Prop
    extends Lasts R where
  session : ∀ {x y}, R x y → y.1.session = x.1.session
  reads : ∀ {x y}, Reads x y → R x y

theorem covers_works : Covers Works := ⟨lasts_works, fun h => h.session, Reads.toWorks⟩

namespace Covers

variable (h : Covers R)
include h

theorem speaks {act : Serving α} (speaks : Staged.Along Speaks act) : Staged.Along (Lifted R) act :=
  fun c w => h.reads (reads_of_speaks (speaks c w))

theorem serves : Serves (Lifted R) where
  toLasts := lasts_lifted h.toLasts
  notes notes := h.reads (reads_of_speaks notes.toSpeaks)
  set path lines := lifted_debugging ((consults_reads.setBreakpoints path lines).mono h.reads)
  setPending path lines := lifted_debugging
    ((consults_reads.noted (consults_reads.setBreakpoints path lines) _ _).mono h.reads)

theorem openUp (e : Envelope) : Staged.Along (Lifted R) (openUp e) :=
  .bind (lasts_lifted h.toLasts) h.serves.applyPending fun _ =>
    .bind (lasts_lifted h.toLasts) (h.speaks (speaks_write _)) fun _ =>
      h.speaks (writes_drainEvents.mono fun h => h.toSpeaks)

theorem evaluates (attach : ∀ process message,
    Staged.Along (Under s R) (attachSession s process message).run) :
    Evaluates s (Lifted (Under s R)) where
  toLasts := lasts_lifted (lasts_under h.toLasts h.session)
  notes notes _ := h.serves.notes notes
  set path lines c w _ := h.serves.set path lines c w
  setPending path lines c w _ := h.serves.setPending path lines c w
  host calls c w bound := h.reads (reads_act (calls s.hosts_own) c.debug w bound)
  attach process message := lifted_debugging (attach process message)

end Covers

/-! ## Commands that keep the session -/

theorem works_answer {command : Command}
    (keeps : match command with
      | .attach _ | .terminate | .disconnect => False
      | _ => True) : Staged.Along (Lifted Works) (answer command).run := by
  have lasts := lasts_lifted lasts_works
  have pure {α : Type} (a : α) : Staged.Along (Lifted Works) (Pure.pure a : Handling α).run :=
    .attemptPure lasts a
  have inspects {α : Type} {act : Debugging α} (h : Staged.Along Inspects act) :
      Staged.Along Works act := h.mono Inspects.toWorks
  have reads {α : Type} {act : Debugging α} (h : Staged.Along Reads act) :
      Staged.Along Works act := h.mono Reads.toWorks
  have onDebug {α : Type} {act : Debug α} (h : Staged.Along Works act.run) :
      Staged.Along (Lifted Works) (onDebug act).run := lifted_onDebug lasts_works h
  cases command with
  | attach | terminate | disconnect => exact keeps.elim
  | threads => exact .attemptBind lasts (.attemptGet lasts) fun _ => pure _
  | stackTrace start levels =>
      exact .attemptBind lasts (onDebug (inspects (observes_inspects.stackTrace _ _))) fun _ => pure _
  | scopes level =>
      exact .attemptBind lasts (onDebug (inspects (inspects_scopes _))) fun _ => pure _
  | expand reference window =>
      exact .attemptBind lasts (onDebug (inspects (inspects_expand _ _))) fun _ => pure _
  | source reference =>
      exact .attemptBind lasts (onDebug (reads (consults_reads.source _))) fun _ => pure _
  | step kind => exact .attemptBind lasts (onDebug (works_step _ _)) fun _ => pure _
  | resume => exact .attemptBind lasts (onDebug works_continueExecution) fun _ => pure _
  | restartFrame level => exact .attemptBind lasts (onDebug (works_restartFrame _)) fun _ => pure _
  | evaluate expression level =>
      refine .attemptBind lasts (.lift (lifted_debugging ?_)) fun _ => pure _
      exact inspects (observes_inspects.evaluate _ _)
  | setBreakpoints path lines =>
      exact .attemptBind lasts (.lift (covers_works.serves.setBreakpoints _ _)) fun _ => pure _
  | breakpointLocations path first last =>
      exact .attemptBind lasts (onDebug (reads (consults_reads.breakpointLocations _ _ _))) fun _ => pure _
  | introduce | launch | configurationDone => exact pure _

/-! ## Letting go -/

/-- The debug session is left alone, and nothing is asked but to log in or out. -/
structure Administers (x y : Client × World) : Prop where
  debug : y.1.debug = x.1.debug
  calls : Adds Exchange.Administrative x.2 y.2

theorem lasts_administers : Lasts Administers where
  refl x := ⟨rfl, (lasts_adds _).refl x.2⟩
  trans h h' := ⟨h'.debug.trans h.debug, (lasts_adds _).trans h.calls h'.calls⟩

theorem Speaks.administers {x y : Client × World} (h : Speaks x y) : Administers x y :=
  ⟨h.debug, .of_transcript_eq h.quiet.transcript⟩

/-- Closing and terminating let go of the process first. -/
def Releases (x y : Client × World) : Prop := ∃ z, Lifted LetGo x z ∧ Administers z y

theorem releases_close : Staged.Along Releases close := by
  intro c w
  let z := Staged.ends (debugging disconnect) c w
  refine ⟨z, letGo_disconnect c.debug w, ?_⟩
  have closed := close_cases c w
  cases launched : c.launched with
  | none =>
      rw [launched] at closed
      exact closed.toSpeaks.administers
  | some id =>
      rw [launched] at closed
      have out : Administers z ({ z.1 with launched := none }, (Registry.logout id z.2).2) :=
        ⟨rfl, Registry.adds_logout id z.2⟩
      exact lasts_administers.trans out closed.toSpeaks.administers

theorem releases_terminate : Staged.Along Releases terminate := by
  have tell (attached : Bool) : Staged.Along Administers
      (do if !attached then pushEvent .terminated : Serving Unit) := by
    split
    · exact fun _ _ => ⟨rfl, .of_transcript_eq rfl⟩
    · exact .pure lasts_administers _
  refine fun c w => ⟨Staged.ends (debugging Debug.terminate) c w, letGo_terminate c.debug w, ?_⟩
  exact Staged.Along.after (debugging Debug.terminate) (fun _ => tell c.debug.process.isSome) c w

/-! ## Launching

A launch keeps to the session that it has logged in, and leaves an attached process as it is.
-/

structure Begins (x y : DebugSession × World) : Prop extends Stays x y where
  held : x.1.state = .stopped → Reads x y

theorem begins_of_reads {x y : DebugSession × World} (h : Reads x y) : Begins x y :=
  ⟨h.toWorks.toStays, fun _ => h⟩

theorem covers_begins : Covers Begins where
  refl x := begins_of_reads (lasts_reads.refl x)
  trans h h' :=
    { toStays := lasts_stays.trans h.toStays h'.toStays
      held := fun stopped =>
        let reads := h.held stopped
        lasts_reads.trans reads (h'.held (reads.state.trans stopped)) }
  session h := h.session
  reads := begins_of_reads

theorem begins_attachSession (process : Oop) (message : String) :
    Staged.Along (Under s Begins) (attachSession s process message).run := by
  intro d w bound
  show Begins (d, w) (Staged.ends (attachSession s process message) d w)
  rcases attachSession_apply s process message d w with
    ⟨e, refused⟩ | ⟨free, result, d', w', ran, attached, quiet⟩
  · rw [Staged.ends_of refused]
    exact covers_begins.refl (d, w)
  · rw [Staged.ends_of ran]
    exact ⟨⟨attached.session.trans bound.symm, fun _ => attached.sound, .of_transcript_eq quiet⟩,
      fun stopped => absurd stopped free⟩

/-- From logging in to the end of a launch. -/
theorem begins_launch (e : Envelope) {a : LaunchArguments} {c c₁ : Client} {w w₁ : World}
    (logged : logIn a c w = ((.ok s, c₁), w₁)) (bound : c₁.debug.session = some s) :
    Lifted Begins (c₁, w₁) (Staged.ends (launch e a) c w) := by
  have under := covers_begins.evaluates (begins_attachSession (s := s))
  have all := Staged.Along.attemptBind under.toLasts (.lift fun c w _ => covers_begins.openUp e c w)
    (fun _ => under.runExpression a.expression a.stopOnError) c₁ w₁ bound
  rw [launch_eq, Staged.ends, Staged.attempt_bind_ok logged]
  exact all

/-! ## Commands -/

/-- The command is the first launch, and the VM lets it log in. -/
def Granted (command : Option Command) (x : Client × World) : Prop :=
  ∃ a h, command = some (.launch a) ∧ x.1.launched = none ∧ loginReply a x = .ok h

theorem not_granted {command : Option Command} (other : ∀ a, command ≠ some (.launch a))
    (x : Client × World) : ¬Granted command x :=
  fun ⟨a, _, launch, _⟩ => other a launch

/-- The ways in which a command changes the debug session. -/
inductive Moves (command : Option Command) (x y : Client × World) : Prop
  | works (other : ¬Granted command x) (works : Lifted Works x y)
  | administers (other : ¬Granted command x) (administers : Administers x y)
  | releases (other : ¬Granted command x) (releases : Releases x y)
  /-- Attached to a process, and working on from there. -/
  | attaches {z : Client × World} (a : AttachArguments) (s : Session)
      (attach : command = some (.attach a)) (free : x.1.debug.state ≠ .stopped)
      (found : x.2.live.find? (fun s => s.id == a.sessionId) = some s)
      (attached : AttachedTo s a.process z.1.debug) (quiet : z.2.transcript = x.2.transcript)
      (works : Lifted Works z y)
  /-- Bound to the session that was logged in. -/
  | launches {z : Client × World} (a : LaunchArguments) (s : Session)
      (launch : command = some (.launch a)) (first : x.1.launched = none)
      (reply : loginReply a x = .ok s.handle) (bound : z.1.debug = x.1.debug.boundTo s)
      (calls : Adds Exchange.Administrative x.2 z.2) (begins : Lifted Begins z y)

theorem Moves.of_speaks {command : Option Command} {x y : Client × World}
    (other : ∀ a, command ≠ some (.launch a)) (h : Speaks x y) : Moves command x y :=
  .administers (not_granted other x) h.administers

/-- Writing afterwards makes no difference. -/
theorem Moves.speaks {command : Option Command} {x y z : Client × World} (h : Moves command x y)
    (speaks : Speaks y z) : Moves command x z := by
  cases h with
  | works other works =>
      exact .works other (lasts_works.trans works (reads_of_speaks speaks).toWorks)
  | administers other administers =>
      exact .administers other (lasts_administers.trans administers speaks.administers)
  | releases other releases =>
      obtain ⟨z', letGo, administers⟩ := releases
      exact .releases other ⟨z', letGo, lasts_administers.trans administers speaks.administers⟩
  | attaches a s attach free found attached quiet works =>
      exact .attaches a s attach free found attached quiet
        (lasts_works.trans works (reads_of_speaks speaks).toWorks)
  | launches a s launch first reply bound calls begins =>
      exact .launches a s launch first reply bound calls
        (covers_begins.trans begins (begins_of_reads (reads_of_speaks speaks)))

theorem moves_attach (a : AttachArguments) (c : Client) (w : World) :
    Moves (some (.attach a)) (c, w) (Staged.ends (answer (.attach a)).run c w) := by
  have lasts := lasts_lifted lasts_works
  let attach := Debug.attach a.sessionId a.process a.message
  have rest := Staged.Along.attemptAfter lasts (onDebug attach)
    (fun _ => .attemptBind lasts (.lift covers_works.serves.applyPending) fun _ =>
      .attemptPure lasts (none : Option Json)) c w
  have same : Staged.ends (onDebug attach).run c w =
    ({ c with debug := (Staged.ends attach.run c.debug w).1 },
      (Staged.ends attach.run c.debug w).2) := rfl
  rcases attach_apply a.sessionId a.process a.message c.debug w with
    ⟨e, refused⟩ | ⟨free, s, result, d', w', found, ran, attached, quiet⟩
  · rw [same, ExceptT.run, Staged.ends_of refused] at rest
    exact .works (not_granted (by simp) _) rest
  · rw [same, ExceptT.run, Staged.ends_of ran] at rest
    exact .attaches a s rfl free found attached quiet rest

theorem moves_launch (e : Envelope) (a : LaunchArguments) (c : Client) (w : World) :
    Moves (some (.launch a)) (c, w) (Staged.ends (launch e a).run c w) := by
  have login := logIn_apply a c w
  rcases logged : logIn a c w with ⟨⟨cause | s, c₁⟩, w₁⟩
  · rw [Staged.ends, logged] at login
    have ended : launch e a c w = ((.error cause, c₁), w₁) := by
      rw [launch_eq, Staged.attempt_bind_error logged]
    rw [ExceptT.run, Staged.ends_of ended]
    cases login with
    | again launched =>
        refine .administers ?_ (lasts_administers.refl _)
        rintro ⟨a, h, -, first, -⟩
        rw [first] at launched
        cases launched
    | refused _ _ reply _ debug calls =>
        refine .administers ?_ ⟨debug, calls⟩
        rintro ⟨a, h, launch, -, granted⟩
        cases launch
        cases reply.symm.trans granted
  · rw [Staged.ends, logged] at login
    cases login with
    | granted s first reply answered debug calls =>
        exact .launches a s rfl first reply debug calls
          (begins_launch e logged (debug ▸ c.debug.session_boundTo s))

theorem moves_answer {command : Command} (other : ∀ a, command ≠ .launch a) (c : Client)
    (w : World) : Moves (some command) (c, w) (Staged.ends (answer command).run c w) := by
  have other : ¬Granted (some command) (c, w) :=
    not_granted (fun a launch => other a (Option.some.inj launch)) _
  have release {act : Serving Unit} (h : Staged.Along Releases act) :
      Moves (some command) (c, w)
        (Staged.ends (do ExceptT.lift act; return none : Handling (Option Json)).run c w) :=
    .releases other (h c w)
  cases command with
  | attach a => exact moves_attach a c w
  | terminate => exact release releases_terminate
  | disconnect => exact release releases_close
  | _ => exact .works other (works_answer trivial c w)

/-- What was carried out for an answer is only written about. -/
theorem speaks_after_answer (e : Envelope) (command : Command) (next : Next) (c : Client)
    (w : World) :
    Speaks (Staged.ends (answer command).run c w) (Staged.ends (do
      let body ← answer command
      respond e body
      return next : Handling Next).run c w) :=
  Staged.Along.attemptAfter lasts_speaks (answer command)
    (fun _ => .attemptBind lasts_speaks (.lift (speaks_write _)) fun _ =>
      .attemptPure lasts_speaks next) c w

theorem moves_dispatch (e : Envelope) (command : Command) (c : Client) (w : World) :
    Moves (some command) (c, w) (Staged.ends (dispatch e command).run c w) := by
  have answers (other : ∀ a, command ≠ .launch a) (next : Next) :
      Moves (some command) (c, w) (Staged.ends (do
      let body ← answer command
      respond e body
      return next : Handling Next).run c w) :=
    (moves_answer other c w).speaks (speaks_after_answer e command next c w)
  cases command with
  | launch a => exact moves_launch e a c w
  | introduce =>
      have told : Staged.Along Speaks (dispatch e .introduce).run :=
        .attemptBind lasts_speaks (.lift (speaks_write _)) fun _ =>
          .attemptBind lasts_speaks (.lift (speaks_write _)) fun _ => .attemptPure lasts_speaks _
      exact .of_speaks nofun (told c w)
  | disconnect => exact answers nofun .leave
  | _ => exact answers nofun .proceed

theorem moves_perform (e : Envelope) (c : Client) (w : World) :
    Moves (Command.ofEnvelope e).toOption (c, w) (Staged.ends (perform e).run c w) := by
  cases read : Command.ofEnvelope e with
  | error cause =>
      rw [ExceptT.run, Staged.ends_of (perform_of_error read c w)]
      exact .of_speaks nofun (lasts_speaks.refl (c, w))
  | ok command =>
      rw [ExceptT.run, Staged.ends, perform_of_ok read]
      exact moves_dispatch e command c w

/-- A request that was carried out is only written about. -/
theorem speaks_after_perform (e : Envelope) (c : Client) (w : World) :
    Speaks (Staged.ends (perform e).run c w) (Staged.ends (handle e) c w) := by
  have closing (next : Next) := (writes_closing next).mono Writes.toSpeaks
  refine Staged.Along.after (perform e).run (fun result => ?_) c w
  cases result with
  | ok next => exact closing next
  | error cause => exact .bind lasts_speaks (speaks_write _) fun _ => closing .proceed

theorem moves_handle (e : Envelope) (c : Client) (w : World) :
    Moves (Command.ofEnvelope e).toOption (c, w) (Staged.ends (handle e) c w) :=
  (moves_perform e c w).speaks (speaks_after_perform e c w)

def command? (message : Json) : Option Command :=
  (request? message).bind fun e => (Command.ofEnvelope e).toOption

theorem moves_receive (message : Json) (c : Client) (w : World) :
    Moves (command? message) (c.noted message, w) (Staged.ends (receive message) c w) := by
  cases read : request? message with
  | none =>
      rw [command?, read, Option.bind_none]
      exact .of_speaks nofun (receive_of_none read c w).2.toSpeaks
  | some e =>
      rw [command?, read, Option.bind_some, Staged.ends, receive_of_request read]
      exact moves_handle e (c.noted message) w

end StoneDebug.Adapter.Client
