import StoneDebug.Foreign.Reply
import StoneDebug.Proofs.Adapter.Commands
import StoneDebug.Proofs.Session.Busy

/-! # The session of the attached process

References of the VM mean nothing outside their session, so the attached process may only be named
on the handle of the session in which it was attached, its home. The home is followed through a
client's messages from what attaching asks for; that the calls keep to it has to be shown. They do
unless a launch logs in over an attached process: it binds the session that it has logged in and
leaves the process, its frames and its variable handles as they are.
-/

namespace StoneDebug

open Debug

/-- The exchange is on this handle, or logs in or out. -/
def Exchange.At (home : Option Handle) (x : Exchange) : Prop := x.handle = home ∨ x.Administrative

namespace Adapter.Client

namespace Receipt

def asked (x : Receipt) : Option Handle :=
  match command? x.message with
  | some (.attach a) => (x.before.2.live.find? fun s => s.id == a.sessionId).map Session.handle
  | some (.launch a) => (loginReply a x.before).toOption
  | _ => none

/-- The home of the attached process. One that was attached before keeps its own. -/
def home (x : Receipt) (home : Option Handle) : Option Handle :=
  if x.before.1.debug.process.isSome then home else x.asked

/-- The first launch, which logs in elsewhere while a process is attached. -/
structure LaunchesOver (home : Option Handle) (x : Receipt) : Prop where
  attached : x.before.1.debug.process.isSome
  granted : Granted (command? x.message) x.before
  elsewhere : x.asked ≠ home

end Receipt

/-- As long as a process is attached every call is on this handle, and nothing is kept after it. -/
structure KeepsTo (home : Option Handle) (x y : Client × World) : Prop where
  calls : x.1.debug.process.isSome ∨ y.1.debug.process.isSome → Adds (Exchange.At home) x.2 y.2
  bare : y.1.debug.process = none → y.1.debug.Bare

abbrev stackDepthCall (process : Oop) : Call :=
  .perform { receiver := process, selector := "stackDepth", args := [] }

/-- The process, its frames and its variable handles stay, but in another session, in which the
process is named from now on. -/
structure Strays (home : Option Handle) (x y : Client × World) : Prop where
  process : y.1.debug.process = x.1.debug.process
  frames : y.1.debug.frames = x.1.debug.frames
  handles : y.1.debug.handles = x.1.debug.handles
  named : ∃ s, y.1.debug.session = some s ∧ some s.handle ≠ home ∧
    ∀ process, y.1.debug.process = some process → y.2.callState s.id = .idle →
      ∀ start levels, ∃ reply later,
        (Staged.ends (answer (.stackTrace start levels)).run y.1 y.2).2.transcript =
          y.2.transcript ++ ⟨some s.handle, stackDepthCall process, reply⟩ :: later

/-- Each message keeps to the home of the attached process, up to a launch over the process and
again after the process is gone; that launch lets it stray. What is done last is to close. -/
def KeepsHome (strayed : Prop) (home : Option Handle) : List Json → Client → World → Prop
  | [], c, w => ¬strayed → KeepsTo home (c, w) (Staged.ends close c w)
  | message :: rest, c, w =>
    let x := receipt message c w
    let strayed' := (strayed ∨ x.LaunchesOver home) ∧ x.after.1.debug.process.isSome
    (¬strayed → ¬x.LaunchesOver home → KeepsTo (x.home home) x.before x.after) ∧
    (¬strayed → x.LaunchesOver home → Strays home x.before x.after) ∧
    match (receive message c w).1.1 with
    | .proceed => KeepsHome strayed' (x.home home) rest x.after.1 x.after.2
    | .leave => ¬strayed' → KeepsTo (x.home home) x.after (Staged.ends close x.after.1 x.after.2)
    | .wait => True

/-! ## Naming the process -/

theorem perform_apply {s : Session} {w : World} (idle : w.callState s.id = .idle) (receiver : Oop)
    (selector : String) (args : List Oop) :
    s.perform receiver selector args w =
      ask (some s.handle) (.perform { receiver, selector, args }) w := by
  rw [Session.perform, Session.request, attempt_bind_ok (Session.ensureIdle_of_idle idle)]
  rfl

section

variable {d : DebugSession} {w : World} {s : Session} {process : Oop}

theorem stackDepth_asks (rests : d.state ≠ .running) (attached : d.process = some process)
    (bound : d.session = some s) (idle : w.callState s.id = .idle) :
    ∃ reply, (Staged.ends stackDepth d w).2.transcript =
      w.transcript ++ [⟨some s.handle, stackDepthCall process, reply⟩] := by
  rcases asked : ask (some s.handle) (stackDepthCall process) w with ⟨reply, w'⟩
  have told : w'.transcript = w.transcript ++
      [⟨some s.handle, stackDepthCall process, reply⟩] := by
    cases asked
    rfl
  have performed : remote (s.perform process "stackDepth" []) d w =
      ((reply.mapError DebugError.call, d), w') :=
    remote_of (by rw [perform_apply idle, asked]) d
  refine ⟨_, Eq.trans ?_ told⟩
  rw [stackDepth, Staged.ends, Staged.attempt_bind_ok (suspended_of rests attached w),
    Staged.attempt_bind_ok (session_of bound w)]
  cases reply with
  | error e => rw [Staged.attempt_bind_error performed]
  | ok depth =>
      rw [Staged.attempt_bind_ok performed]
      have read : value (depth.expectInt.mapError .call) d w' =
        ((depth.expectInt.mapError .call, d), w') := rfl
      cases number : depth.expectInt with
      | error e =>
          rw [number] at read
          rw [Staged.attempt_bind_error read]
      | ok n =>
          rw [number] at read
          rw [Staged.attempt_bind_ok read]
          rfl

/-- A client that asks for the stack trace names the process first of all. -/
theorem stackTrace_asks {c : Client} (rests : c.debug.state ≠ .running)
    (attached : c.debug.process = some process) (bound : c.debug.session = some s)
    (idle : w.callState s.id = .idle) (start : Level) (levels : Option UInt32) :
    ∃ reply later, (Staged.ends (answer (.stackTrace start levels)).run c w).2.transcript =
      w.transcript ++ ⟨some s.handle, stackDepthCall process, reply⟩ :: later := by
  have traced := Staged.Along.attemptAfter lasts_inspects stackDepth (fun depth =>
    .attemptBind lasts_inspects (.lift (observes_inspects.describeLevels (levelRange start levels depth)))
      fun views => .attemptPure lasts_inspects (views, depth)) c.debug w
  have answered := Staged.Along.attemptAfter lasts_speaks (onDebug (stackTrace start levels))
    (fun trace => .attemptPure lasts_speaks (some (stackTraceBody trace.1 trace.2))) c w
  obtain ⟨reply, asked⟩ := stackDepth_asks rests attached bound idle
  obtain ⟨later, added, -⟩ := traced.calls
  refine ⟨reply, later, answered.quiet.transcript.trans (added.trans ?_)⟩
  rw [ExceptT.run, asked, List.append_assoc, List.singleton_append]

end

/-! ## One message -/

/-- The session in use is the home of the process. -/
def AtHome (home : Option Handle) (d : DebugSession) : Prop :=
  d.process.isSome → d.session.map Session.handle = home

theorem at_of_within {home : Option Handle} {session : Option Session}
    (same : session.map Session.handle = home) {x : Exchange} (within : x.Within session) :
    x.At home := by
  obtain ⟨s, bound, own⟩ := within
  rw [bound] at same
  exact .inl (Eq.trans own same)

namespace Receipt

variable {x : Receipt} {home : Option Handle}

theorem home_of_attached (attached : x.before.1.debug.process.isSome) : x.home home = home :=
  if_pos attached

theorem home_of_free (free : x.before.1.debug.process = none) : x.home home = x.asked :=
  if_neg (by simp [free])

theorem atHome_home (atHome : AtHome home x.before.1.debug) :
    AtHome (x.home home) x.before.1.debug := by
  intro attached
  rw [home_of_attached attached]
  exact atHome attached

theorem asked_attach {a : AttachArguments} {s : Session}
    (attach : command? x.message = some (.attach a))
    (found : x.before.2.live.find? (fun s => s.id == a.sessionId) = some s) :
    x.asked = some s.handle := by
  rw [asked, attach]
  exact congrArg (Option.map Session.handle) found

theorem asked_launch {a : LaunchArguments} {s : Session}
    (launch : command? x.message = some (.launch a))
    (reply : loginReply a x.before = .ok s.handle) : x.asked = some s.handle := by
  rw [asked, launch]
  exact congrArg Except.toOption reply

end Receipt

section

variable {command : Option Command} {x y : Client × World} {home : Option Handle}

/-- Whatever a message does, the debug session stays sound. -/
theorem Moves.sound (moves : Moves command x y) (sound : x.1.debug.Sound) : y.1.debug.Sound := by
  cases moves with
  | works _ works => exact works.sound sound
  | administers _ administers => exact administers.debug ▸ sound
  | releases _ releases =>
      obtain ⟨z, letGo, administers⟩ := releases
      exact administers.debug ▸ letGo.sound
  | attaches a s attach free found attached quiet works => exact works.sound attached.sound
  | launches a s launch first reply bound calls begins =>
      exact begins.sound (bound ▸ sound.boundTo s)

theorem keepsTo_of_bound (session : y.1.debug.session.map Session.handle = home)
    (calls : Adds (fun e => e.Administrative ∨ e.Within y.1.debug.session) x.2 y.2)
    (sound : y.1.debug.Sound) : KeepsTo home x y ∧ AtHome home y.1.debug :=
  ⟨⟨fun _ => calls.mono fun _ made => made.elim .inr (at_of_within session), sound.bare⟩,
    fun _ => session⟩

/-- What a message does in the session that is in use, keeps to the home of the process. -/
theorem keepsTo_of_session (atHome : AtHome home x.1.debug)
    (session : y.1.debug.session = x.1.debug.session)
    (free : x.1.debug.process = none → y.1.debug.process = none)
    (calls : Adds (fun e => e.Administrative ∨ e.Within y.1.debug.session) x.2 y.2)
    (sound : y.1.debug.Sound) : KeepsTo home x y ∧ AtHome home y.1.debug := by
  cases before : x.1.debug.process with
  | none =>
      have after := free before
      exact ⟨⟨fun attached => by simp [before, after] at attached, sound.bare⟩,
        fun attached => by simp [after] at attached⟩
  | some process =>
      have same := atHome (by simp [before])
      exact keepsTo_of_bound (session ▸ same) calls sound

theorem keepsTo_of_releases (releases : Releases x y) (atHome : AtHome home x.1.debug) :
    KeepsTo home x y ∧ AtHome home y.1.debug := by
  obtain ⟨z, letGo, administers⟩ := releases
  have bare : y.1.debug.Bare := administers.debug ▸ letGo.bare
  refine ⟨⟨fun attached => ?_, fun _ => bare⟩, fun attached => by simp [bare.process] at attached⟩
  have attached : x.1.debug.process.isSome := attached.resolve_right (by simp [bare.process])
  exact (lasts_adds _).trans (letGo.calls.mono fun _ => at_of_within (atHome attached))
    (administers.calls.mono fun _ => .inr)

/-- What a launch leaves of a process that was attached before. -/
theorem strays_of_begins {z : Client × World} {s : Session} (sound : x.1.debug.Sound)
    (attached : x.1.debug.process.isSome) (bound : z.1.debug = x.1.debug.boundTo s)
    (begins : Lifted Begins z y) (elsewhere : some s.handle ≠ home) : Strays home x y := by
  have stopped : z.1.debug.state = .stopped := by
    rw [bound, DebugSession.state_boundTo]
    exact sound.stopped.mpr attached
  have reads := begins.held stopped
  have session : y.1.debug.session = some s := by
    rw [reads.session, bound, DebugSession.session_boundTo]
  have rests : y.1.debug.state ≠ .running := by
    rw [show y.1.debug.state = .stopped from reads.state.trans stopped]
    nofun
  refine ⟨?_, ?_, ?_, s, session, elsewhere, fun process kept idle =>
    stackTrace_asks rests kept session idle⟩
  · rw [reads.process, bound, DebugSession.process_boundTo]
  · rw [reads.frames, bound, DebugSession.frames_boundTo]
  · rw [reads.handles, bound, DebugSession.handles_boundTo]

end

/-- Without a launch over the attached process a message keeps to its home. -/
theorem Receipt.keepsTo {x : Receipt} (moves : Moves (command? x.message) x.before x.after)
    (sound : x.before.1.debug.Sound) {home : Option Handle} (atHome : AtHome home x.before.1.debug)
    (apart : ¬x.LaunchesOver home) :
    KeepsTo (x.home home) x.before x.after ∧ AtHome (x.home home) x.after.1.debug := by
  have sound' := moves.sound sound
  have atHome' := x.atHome_home atHome
  cases moves with
  | works _ works =>
      exact keepsTo_of_session atHome' works.session works.free
        (works.calls.mono fun _ within => .inr (works.session ▸ within)) sound'
  | administers _ administers =>
      exact keepsTo_of_session atHome' (congrArg _ administers.debug)
        (fun free => administers.debug ▸ free) (administers.calls.mono fun _ => .inl) sound'
  | releases _ releases => exact keepsTo_of_releases releases atHome'
  | @attaches z a s attach free found attached quiet works =>
      have before : x.before.1.debug.process = none := by
        simpa using mt sound.stopped.mpr free
      have session : x.after.1.debug.session = some s := works.session.trans attached.session
      refine keepsTo_of_bound ?_ ?_ sound'
      · rw [home_of_free before, asked_attach attach found, session]
        rfl
      · exact (lasts_adds _).trans (.of_transcript_eq quiet)
          (works.calls.mono fun _ within => .inr (works.session ▸ within))
  | @launches z a s launch first reply bound calls begins =>
      have session : x.after.1.debug.session = some s := by
        rw [begins.session, bound, DebugSession.session_boundTo]
      have same : x.home home = some s.handle := by
        by_cases before : x.before.1.debug.process.isSome
        · -- The VM has answered the handle of the home once more.
          rw [home_of_attached before]
          refine Decidable.byContradiction fun other => ?_
          refine apart ⟨before, ⟨a, s.handle, launch, first, reply⟩, ?_⟩
          rw [asked_launch launch reply]
          exact Ne.symm other
        · rw [home_of_free (by simpa using before), asked_launch launch reply]
      refine keepsTo_of_bound ?_ ?_ sound'
      · rw [same, session]
        rfl
      · exact (lasts_adds _).trans (calls.mono fun _ => .inl)
          (begins.calls.mono fun _ within => .inr (begins.session ▸ within))

theorem Receipt.strays {x : Receipt} (moves : Moves (command? x.message) x.before x.after)
    (sound : x.before.1.debug.Sound) {home : Option Handle} (strays : x.LaunchesOver home) :
    Strays home x.before x.after := by
  cases moves with
  | works other => exact absurd strays.granted other
  | administers other => exact absurd strays.granted other
  | releases other => exact absurd strays.granted other
  | attaches a s attach =>
      obtain ⟨a', h, launch, -⟩ := strays.granted
      cases attach.symm.trans launch
  | launches a s launch first reply bound calls begins =>
      exact strays_of_begins sound strays.attached bound begins
        (asked_launch launch reply ▸ strays.elsewhere)

/-! ## Runs -/

/-- A process that has not strayed is at home before each message. -/
theorem keepsHome_of_atHome (messages : List Json) {c : Client} {w : World} {strayed : Prop}
    {home : Option Handle} (sound : c.debug.Sound) (atHome : ¬strayed → AtHome home c.debug) :
    KeepsHome strayed home messages c w := by
  induction messages generalizing c w strayed home with
  | nil => exact fun kept => (keepsTo_of_releases (releases_close c w) (atHome kept)).1
  | cons message messages ih =>
      let x := receipt message c w
      have moves : Moves (command? message) x.before x.after := moves_receive message c w
      have sound' := moves.sound sound
      have atHome' (kept : ¬((strayed ∨ x.LaunchesOver home) ∧ x.after.1.debug.process.isSome)) :
          AtHome (x.home home) x.after.1.debug := by
        intro attached
        have near : ¬(strayed ∨ x.LaunchesOver home) := fun away => kept ⟨away, attached⟩
        exact (Receipt.keepsTo moves sound (atHome fun away => near (.inl away))
          fun strays => near (.inr strays)).2 attached
      refine ⟨fun kept apart => (Receipt.keepsTo moves sound (atHome kept) apart).1,
        fun _ strays => Receipt.strays moves sound strays, ?_⟩
      split
      · exact ih sound' atHome'
      · exact fun kept => (keepsTo_of_releases (releases_close _ _) (atHome' kept)).1
      · trivial

/-- For every VM and every sequence of messages of a new client: a call is on the home of the
attached process, unless a launch has logged in over it. -/
theorem keepsHome_unless_launched_over (messages : List Json) (c : Client) (w : World)
    (listener : Listener) (fresh : c.debug = { listener }) : KeepsHome False none messages c w := by
  have sound : c.debug.Sound := fresh ▸ DebugSession.sound_fresh listener
  refine keepsHome_of_atHome messages sound fun _ attached => ?_
  rw [fresh] at attached
  cases attached

/-- A client that attaches, steps and asks for the stack. -/
theorem keepsHome_attached :
    let attach := requestMessage 1 "attach" [("sessionId", .int 1), ("process", .int 257)]
    let step := requestMessage 2 "next" [("threadId", .int 1)]
    let w : World := {
      vm := fun _ _ => Foreign.refuse (.other "")
      live := [⟨1, ⟨1⟩, ""⟩]
      horizon := 0 }
    (receive attach {} w).1.2.debug.process = some (.ofNat 257) ∧
      KeepsHome False none [attach, step, requestMessage 3 "stackTrace" []] {} w := by
  intro attach step w
  exact ⟨by decide +kernel, keepsHome_unless_launched_over _ {} w _ rfl⟩

/-- A launch while a process is attached. It is then named in the session that the launch has logged
in. -/
theorem stackDepth_launched_over :
    let attach := requestMessage 1 "attach" [("sessionId", .int 1), ("process", .int 257)]
    let launch := requestMessage 2 "launch" [("expression", .string "1")]
    let home : Session := ⟨1, ⟨1⟩, ""⟩
    let w : World := {
      vm := fun _ _ c => match c with
        | .version => ""
        | .login _ => .ok ⟨2⟩
        | .resolveSymbol .. => .ok (.ofNat 1025)
        | c => Foreign.refuse (.other "") c
      live := [home]
      nextId := 2
      horizon := 1 }
    (receive attach {} w).1.2.debug.process = some (.ofNat 257) ∧
      (receive attach {} w).1.2.debug.session = some home ∧
      ∃ e ∈ (serve [attach, launch, requestMessage 3 "stackTrace" []] {} w).2.transcript,
        e.call = stackDepthCall (.ofNat 257) ∧ e.handle = some ⟨2⟩ := by
  decide +kernel

end Adapter.Client

end StoneDebug
