import StoneDebug.Foreign.Reply
import StoneDebug.Proofs.Adapter.Commands
import StoneDebug.Proofs.Adapter.Keeping

/-! # The sessions of a client

A launch logs in a session for its client, and closing logs it out. In between the client holds that
session and no other; those that were there before it are left alone. However a connection ends, it is
closed then, and nothing is left of what was logged in.
-/

namespace StoneDebug.Adapter.Client

open Debug

/-- A session was opened and closed again. -/
def visit (handle : Handle) : List Access := [.opened handle, .closed handle]

/-- Since the world was `start`, the client has held sessions on the handles `past`, each of which it
has given back, and it holds `current`. -/
structure Owns (start : World) (past : List Handle) (current : Option Session)
    (x : Client × World) : Prop where
  launched : x.1.launched = current.map Session.id
  live : x.2.live = start.live ++ current.toList
  unused : ∀ s ∈ current, ∀ t ∈ start.live, t.id ≠ s.id
  numbered : x.2.Numbered
  accesses : Accesses (past.flatMap visit ++ current.toList.map fun s => .opened s.handle) start x.2

/-- The client holds one session that it has logged in, or none. -/
def Owned (start : World) (x : Client × World) : Prop := ∃ past current, Owns start past current x

/-- Each session that the client has logged in was logged out once, and none is left. -/
def Released (start : World) (x : Client × World) : Prop := ∃ past, Owns start past none x

def concludes : List Json → Client → World → Bool
  | [], _, _ => true
  | message :: rest, c, w =>
    match receive message c w with
    | ((.proceed, c'), w') => concludes rest c' w'
    | ((.leave, _), _) => true
    | ((.wait, _), _) => false

/-- The states in which something is written while a request is handled, and with which the handling
may break off when that fails. -/
inductive Writing (e : Envelope) (x : Client × World) : Client × World → Prop
  /-- The answer to a command. -/
  | answers {command : Command} (read : Command.ofEnvelope e = .ok command) :
      Writing e x (Staged.ends (answer command).run x.1 x.2)
  /-- The answer to a launch, which stands in the middle. -/
  | opens {a : LaunchArguments} {s : Session} {c : Client} {w : World}
      (read : Command.ofEnvelope e = .ok (.launch a)) (logged : logIn a x.1 x.2 = ((.ok s, c), w)) :
      Writing e x (Staged.ends applyPending c w)
  /-- What follows, a refusal first. -/
  | follows : Writing e x (Staged.ends (perform e).run x.1 x.2)
  /-- A part of that was written. -/
  | more {y z : Client × World} (before : Writing e x y) (speaks : Speaks y z) : Writing e x z

/-! ## Keeping a session -/

theorem pervades_routine : Pervades Routine where
  toLasts := lasts_routine
  gathers h := h.toQuiet.routine
  carries s := s.hosts_routine.toCarries

section

variable {start : World} {past : List Handle} {current : Option Session} {x y : Client × World}

theorem Owns.keeps (h : Owns start past current x) (keeps : Keeps Routine x y) :
    Owns start past current y where
  launched := keeps.launched.trans h.launched
  live := keeps.world.live.trans h.live
  unused := h.unused
  numbered := by
    intro s member
    rw [keeps.world.live] at member
    rw [keeps.world.nextId]
    exact h.numbered s member
  accesses := by simpa using h.accesses.trans keeps.world.accesses

theorem Speaks.keeps (h : Speaks x y) : Keeps Routine x y := ⟨h.launched, h.quiet.routine⟩

theorem Released.owned (h : Released start x) : Owned start x :=
  let ⟨past, owns⟩ := h
  ⟨past, none, owns⟩

theorem Released.speaks (h : Released start x) (speaks : Speaks x y) : Released start y :=
  let ⟨past, owns⟩ := h
  ⟨past, owns.keeps speaks.keeps⟩

theorem owned_new {c : Client} {w : World} (new : c.launched = none) (numbered : w.Numbered) :
    Owned w (c, w) :=
  ⟨[], none, new, by simp, nofun, numbered, .of_transcript_eq rfl⟩

end

def KeepsOwned (x y : Client × World) : Prop := ∀ start, Owned start x → Owned start y

theorem lasts_keepsOwned : Lasts KeepsOwned where
  refl _ _ := id
  trans h h' start := h' start ∘ h start

theorem Keeps.keepsOwned {x y : Client × World} (h : Keeps Routine x y) : KeepsOwned x y :=
  fun _ ⟨past, current, owns⟩ => ⟨past, current, owns.keeps h⟩

theorem keepsOwned_of_speaks {α : Type} {act : Serving α} (h : Staged.Along Speaks act) :
    Staged.Along KeepsOwned act :=
  h.mono fun speaks => speaks.keeps.keepsOwned

/-! ## Logging in -/

/-- A session that is logged in has a number that no other has had. -/
theorem owned_logInWith {start : World} {past : List Handle} {c : Client} {w : World}
    (settings : LoginSettings) (owns : Owns start past none (c, w)) :
    Owned start (Staged.ends (logInWith settings) c w) := by
  have applied := Registry.login_apply settings.params w
  have live : w.live = start.live := by simpa using owns.live
  rw [Staged.ends, logInWith_apply]
  rcases ran : Registry.login settings.params w with ⟨cause | s, w'⟩
  · rw [ran] at applied
    obtain ⟨_, live', nextId, accesses⟩ := applied
    refine ⟨past, none, owns.launched, live'.trans owns.live, by simp, ?_, ?_⟩
    · intro t member
      have old := owns.numbered t (by rwa [live'] at member)
      show t.id < w'.nextId
      rw [nextId]
      exact Nat.lt_succ_of_lt old
    · simpa using owns.accesses.trans accesses
  · rw [ran] at applied
    obtain ⟨_, id, live', nextId, accesses⟩ := applied
    have below : ∀ t ∈ start.live, t.id < s.id := by
      intro t member
      rw [id]
      exact owns.numbered t (live ▸ member)
    refine ⟨past, some s, rfl, by simp [live', live], ?_, ?_, ?_⟩
    · intro t held u member
      obtain rfl : s = t := Option.some.inj held
      exact Nat.ne_of_lt (below u member)
    · intro t member
      show t.id < w'.nextId
      rw [nextId, ← id]
      rw [show w'.live = _ from live', live] at member
      rcases List.mem_append.mp member with old | new
      · exact Nat.lt_succ_of_lt (below t old)
      · rw [List.mem_singleton.mp new]
        exact Nat.lt_succ_self _
    · simpa using owns.accesses.trans accesses

theorem keepsOwned_logIn (a : LaunchArguments) : Staged.Along KeepsOwned (logIn a).run := by
  rintro c w start ⟨past, current, owns⟩
  rcases logIn_cases a c w with ⟨_, same⟩ | ⟨free, logToClient, listening, same⟩
  · rw [ExceptT.run, Staged.ends_of same]
    exact ⟨past, current, owns⟩
  · have nothing : current = none := by simpa [free] using owns.launched.symm
    subst nothing
    have listens : Keeps Routine (c, w)
        ({ c with logToClient }, { w with queue := { w.queue with listening } }) :=
      ⟨rfl, rfl, rfl, .of_transcript_eq rfl⟩
    rw [ExceptT.run, Staged.ends, same]
    exact owned_logInWith (c.login.merge a.login) (owns.keeps listens)

/-! ## Closing -/

section

variable {start : World}

/-- The session that the client holds is the last one of the registry, and the only one that goes. -/
theorem Owns.logout {past : List Handle} {s : Session} {x : Client × World}
    (owns : Owns start past (some s) x) :
    Released start ({ x.1 with launched := none }, (Registry.logout s.id x.2).2) := by
  have live : x.2.live = start.live ++ [s] := owns.live
  have others : ∀ t ∈ start.live, t.id ≠ s.id := owns.unused s rfl
  have found : x.2.live.find? (fun t => t.id == s.id) = some s := by
    rw [live, List.find?_append, List.find?_eq_none.mpr (by simpa using others)]
    simp
  have left : x.2.live.filter (fun t => t.id != s.id) = start.live := by
    rw [live, List.filter_append, List.filter_eq_self.mpr (by simpa using others)]
    simp
  obtain ⟨result, w', ran, live', nextId, accesses⟩ := Registry.logout_apply found
  rw [ran]
  refine ⟨past ++ [s.handle], rfl, by simpa [left] using live', nofun, ?_, ?_⟩
  · intro t member
    show t.id < w'.nextId
    rw [nextId]
    refine owns.numbered t ?_
    rw [show w'.live = _ from live'] at member
    exact (List.mem_filter.mp member).1
  · simpa [visit] using owns.accesses.trans accesses

theorem released_close {c : Client} {w : World} (owned : Owned start (c, w)) :
    Released start (Staged.ends close c w) := by
  obtain ⟨past, current, owns⟩ := owned
  have gone := keeps_debugging pervades_routine.disconnect c w
  replace owns := owns.keeps gone
  have closed := close_cases c w
  have held : c.launched = current.map Session.id := gone.launched.symm.trans owns.launched
  rw [held] at closed
  cases current with
  | none => exact Released.speaks ⟨past, owns⟩ closed.toSpeaks
  | some s => exact owns.logout.speaks closed.toSpeaks

theorem keepsOwned_close : Staged.Along KeepsOwned close :=
  fun _ _ _ owned => (released_close owned).owned

end

theorem Owned.close {start : World} {x : Client × World} (owned : Owned start x) :
    Released start (Staged.ends close x.1 x.2) :=
  released_close owned

theorem disconnect_idle {d : DebugSession} (free : d.process = none) (w : World) :
    (Staged.ends disconnect d w).2 = w := by
  have nothing : clearProcess d w = (((), d), w) := by
    rw [clearProcess, Staged.get_bind, free]
    cases d.session <;> rfl
  rw [Staged.ends, disconnect, Staged.bind_of nothing]
  rfl

/-- A client that was closed asks nothing more when it is closed again. -/
theorem close_closed (c : Client) (w : World) :
    let x := Staged.ends close c w
    (Staged.ends close x.1 x.2).2.transcript = x.2.transcript := by
  intro x
  have free : x.1.launched = none ∧ x.1.debug.process = none := by
    have closed := close_cases c w
    cases launched : c.launched with
    | none =>
        rw [launched] at closed
        exact ⟨closed.launched.trans launched, congrArg DebugSession.process closed.debug⟩
    | some id =>
        rw [launched] at closed
        exact ⟨closed.launched, congrArg DebugSession.process closed.debug⟩
  have again := close_cases x.1 x.2
  rw [free.1] at again
  refine again.quiet.transcript.trans ?_
  exact congrArg World.transcript (disconnect_idle free.2 x.2)

/-! ## Requests -/

theorem keepsOwned_answer (command : Command) : Staged.Along KeepsOwned (answer command).run := by
  by_cases leaves : command = .disconnect
  · subst leaves
    have lasts := lasts_keepsOwned
    exact .attemptBind lasts (.lift keepsOwned_close) fun _ => .attemptPure lasts _
  · exact (pervades_routine.answer leaves).mono Keeps.keepsOwned

theorem keepsOwned_applyPending : Staged.Along KeepsOwned applyPending :=
  pervades_routine.serves.applyPending.mono Keeps.keepsOwned

theorem keepsOwned_launch (e : Envelope) (a : LaunchArguments) :
    Staged.Along KeepsOwned (launch e a).run := by
  have lasts := lasts_keepsOwned
  have drains := keepsOwned_of_speaks (writes_drainEvents.mono Writes.toSpeaks)
  have opens : Staged.Along KeepsOwned (openUp e) :=
    .bind lasts keepsOwned_applyPending fun _ =>
      .bind lasts (keepsOwned_of_speaks (speaks_write _)) fun _ => drains
  rw [launch_eq]
  refine .attemptBind lasts (keepsOwned_logIn a) fun s => ?_
  refine .attemptBind lasts (.lift opens) fun _ => ?_
  have evaluates := pervades_routine.evaluates s.hosts_routine
  exact (evaluates.runExpression a.expression a.stopOnError).mono Keeps.keepsOwned

theorem keepsOwned_perform (e : Envelope) : Staged.Along KeepsOwned (perform e).run :=
  along_perform lasts_keepsOwned (fun _ => keepsOwned_of_speaks (speaks_write _))
    keepsOwned_answer (keepsOwned_launch e)

theorem keepsOwned_handle (e : Envelope) : Staged.Along KeepsOwned (handle e) := by
  intro c w start owned
  have performed := keepsOwned_perform e c w start owned
  exact (speaks_after_perform e c w).keeps.keepsOwned start performed

theorem keepsOwned_receive (message : Json) : Staged.Along KeepsOwned (receive message) := by
  intro c w start owned
  have noted : Owned start (c.noted message, w) :=
    have unchanged : Keeps Routine (c, w) (c.noted message, w) := ⟨rfl, lasts_routine.refl w⟩
    unchanged.keepsOwned start owned
  cases read : request? message with
  | none => exact (receive_of_none read c w).2.toSpeaks.keeps.keepsOwned start noted
  | some e =>
      rw [Staged.ends, receive_of_request read]
      exact keepsOwned_handle e (c.noted message) w start noted

/-- Wherever the handling of a request breaks off, the client owns what it did. -/
theorem Writing.owned {e : Envelope} {x y : Client × World} (writing : Writing e x y) {start : World}
    (owned : Owned start x) : Owned start y := by
  induction writing with
  | answers read => exact keepsOwned_answer _ _ _ start owned
  | @opens a s c w read logged =>
      have held := keepsOwned_logIn a _ _ start owned
      rw [ExceptT.run, Staged.ends_of logged] at held
      exact keepsOwned_applyPending _ _ start held
  | follows => exact keepsOwned_perform e _ _ start owned
  | more before speaks ih => exact speaks.keeps.keepsOwned start ih

/-! ## Runs -/

section

variable {start : World} {c : Client} {w : World} {messages : List Json}

theorem released_serve (owned : Owned start (c, w)) (ended : concludes messages c w = true) :
    Released start (Staged.ends (serve messages) c w) := by
  induction messages generalizing c w with
  | nil => exact released_close owned
  | cons message messages ih =>
      have kept := keepsOwned_receive message c w start owned
      rcases received : receive message c w with ⟨⟨next, c'⟩, w'⟩
      rw [Staged.ends_of received] at kept
      rw [concludes, received] at ended
      rw [Staged.ends, serve, Staged.bind_of received]
      cases next with
      | proceed => exact ih kept ended
      | leave => exact released_close kept
      | wait => cases ended

theorem owned_of_mem_history (owned : Owned start (c, w)) {x : Receipt}
    (member : x ∈ history messages c w) : Owned start x.before ∧ Owned start x.after := by
  obtain ⟨c', w', same, owned'⟩ := receipt_of_mem_history
    (fun message c w _ owned => keepsOwned_receive message c w start owned) owned member
  rw [same]
  have unchanged : Keeps Routine (c', w') (c'.noted x.message, w') := ⟨rfl, lasts_routine.refl w'⟩
  exact ⟨unchanged.keepsOwned start owned', keepsOwned_receive x.message c' w' start owned'⟩

end

/-- Whatever the VM answers and whatever a new client asks for: before and after each message it holds
one session at most; when its handling has ended, or breaks off because something cannot be written,
each session that it has logged in was logged out once, and the others are as they were. -/
theorem released_when_served (messages : List Json) (c : Client) (w : World)
    (new : c.launched = none) (numbered : w.Numbered) :
    (concludes messages c w = true → Released w (Staged.ends (serve messages) c w)) ∧
      (∀ x ∈ history messages c w, Owned w x.before ∧ Owned w x.after ∧
        ∀ e, request? x.message = some e → ∀ y, Writing e x.before y →
          Released w (Staged.ends close y.1 y.2)) ∧
      ∀ c' w', let x := Staged.ends close c' w'
        (Staged.ends close x.1 x.2).2.transcript = x.2.transcript := by
  have owned := owned_new new numbered
  refine ⟨released_serve owned, fun x member => ?_, close_closed⟩
  obtain ⟨before, after⟩ := owned_of_mem_history owned member
  exact ⟨before, after, fun e _ y writing => (writing.owned before).close⟩

/-- A launch whose evaluation fails, beside a session that was there before. -/
theorem released_after_failure :
    let launch := requestMessage 1 "launch" [("expression", .string "1")]
    let w : World := {
      vm := fun _ _ c => match c with
        | .version => ""
        | .login _ => .ok ⟨2⟩
        | c => Foreign.refuse (.other "") c
      live := [⟨1, ⟨1⟩, ""⟩]
      nextId := 2
      horizon := 1 }
    let y := Staged.ends (serve [launch]) {} w
    concludes [launch] {} w = true ∧
      y.2.transcript.filterMap Exchange.access? = [.opened ⟨2⟩, .closed ⟨2⟩] ∧ Released w y := by
  intro launch w y
  have numbered : w.Numbered := by
    intro s member
    rw [List.mem_singleton.mp member]
    exact Nat.lt_succ_self 1
  have ended : concludes [launch] {} w = true := by decide +kernel
  exact ⟨ended, by decide +kernel, (released_when_served [launch] {} w rfl numbered).1 ended⟩

end StoneDebug.Adapter.Client
