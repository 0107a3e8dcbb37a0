import StoneDebug.Proofs.Debug.FrameCache
import StoneDebug.Proofs.Debug.Variables

/-! # Scopes keep their word

What the scopes of a stack level announce is what a client gets when it unfolds them in a later request:
all locals in their order and the receiver, however many calls fail meanwhile. This holds until the
process is told to run, its stack is trimmed, it is given up or another session is bound. A process that
was told to run has lost its scopes even when the VM has refused to let it run.
-/

namespace StoneDebug

namespace Debug

variable {s : Session} {d d' : DebugSession} {w w' : World} {level : Level} {frame : Frame}

/-! ## What lasts -/

/-- Session and process stay, and handles and kept frames go on standing for the same. -/
structure Upholds (d d' : DebugSession) : Prop where
  session : d'.session = d.session
  process : d'.process = d.process
  handles : d.handles.Extends d'.handles
  frames : ∀ level f, d.frames.lookup level = some f → d'.frames.lookup level = some f

theorem lasts_upholds : Lasts Upholds where
  refl _ := ⟨rfl, rfl, Numbering.lasts_extends.refl _, fun _ _ => id⟩
  trans h h' := ⟨h'.session.trans h.session, h'.process.trans h.process,
    Numbering.lasts_extends.trans h.handles h'.handles,
    fun level f kept => h'.frames level f (h.frames level f kept)⟩

theorem frame_of_kept (kept : d.frames.lookup level = some frame) (w : World) :
    Debug.frame level d w = ((.ok frame, d), w) := by
  rw [Debug.frame, Staged.attempt_get_bind, kept]
  rfl

/-- A frame is fetched only where none is kept, so none is replaced. -/
theorem upholds_frame (level : Level) :
    Staged.Along (fun x y => Upholds x.1 y.1) (Debug.frame level).run := by
  intro d w
  cases kept : d.frames.lookup level with
  | some f =>
      rw [ExceptT.run, Staged.ends_of (frame_of_kept kept w)]
      exact lasts_upholds.refl d
  | none =>
      rcases kept_or_fetched level d w with ⟨f, kept', _⟩ | ⟨e, w', ran⟩ | ⟨_, _, f, w', _, _, _, ran⟩
      · cases kept.symm.trans kept'
      · rw [ExceptT.run, Staged.ends_of ran]
        exact lasts_upholds.refl d
      · rw [ExceptT.run, Staged.ends_of ran]
        refine ⟨rfl, rfl, Numbering.lasts_extends.refl _, fun level' f' kept' => ?_⟩
        have other : (level' == level) = false := by
          rw [beq_eq_false_iff_ne]
          rintro rfl
          cases kept.symm.trans kept'
        show ((level, f) :: d.frames).lookup level' = some f'
        rw [List.lookup_cons, other]
        exact kept'

theorem explores_upholds : Explores fun x y => Upholds x.1 y.1 where
  toConsults := consults_of_keep (asks_of lasts_upholds Upholds.session)
    (fun _ _ _ _ _ _ => ⟨rfl, rfl, Numbering.lasts_extends.refl _, fun _ _ => id⟩)
    fun _ _ _ => ⟨rfl, rfl, Numbering.lasts_extends.refl _, fun _ _ => id⟩
  frame := upholds_frame
  handed d _ r := ⟨rfl, rfl, d.handles.extends_number r, fun _ _ => id⟩

/-! ## What a scope unfolds to -/

def localNames (s : Session) (frame : Frame) (w : World) : List String :=
  (s.fetchStringArray frame.names w).1.toOption.getD []

/-- The world once the names of the locals have been asked for. -/
def afterNames (s : Session) (frame : Frame) (d : DebugSession) (w : World) : World :=
  (noted .warn "local names: " (remote (s.fetchStringArray frame.names)) d w).2

theorem getElem?_nameLocals (names : List String) (values : List Oop) (i : Nat) :
    (nameLocals names values)[i]? =
      values[i]?.map fun value => (names[i]?.getD s!".t{i + 1}", value) := by
  rw [nameLocals, List.getElem?_map, List.getElem?_zipIdx, Option.map_map, Nat.add_comm]
  rfl

theorem length_nameLocals (names : List String) (values : List Oop) :
    (nameLocals names values).length = values.length := by
  rw [nameLocals, List.length_map, List.length_zipIdx]

/-- Without their names the locals are listed all the same. -/
theorem entries_frameLocals (kept : d.frames.lookup level = some frame) (s : Session)
    (window : Window) (w : World) : entries s window (.frameLocals level) d w =
      ((.ok (nameLocals (localNames s frame w) frame.locals), d), afterNames s frame d w) := by
  rw [entries, Staged.attempt_bind_ok (frame_of_kept kept w), localNames, afterNames]
  rcases asked : s.fetchStringArray frame.names w with ⟨e | names, w'⟩
  · have unnamed := noted_apply (remote_of asked d) .warn "local names: "
    rw [Staged.attempt_bind_ok (Staged.attempt_lift_of unnamed), unnamed]
    rfl
  · have named := noted_apply (remote_of asked d) .warn "local names: "
    rw [Staged.attempt_bind_ok (Staged.attempt_lift_of named), named]
    rfl

/-- The scopes of a frame unfold to what they announce, as the VM answers at that moment. -/
structure Announced (frame : Frame) (locals receiver : Nat) (d : DebugSession) : Prop where
  locals : ∀ window w, ∃ s views d' w', d.session = some s ∧
    expand locals window d w = ((.ok views, d'), w') ∧ views.length = frame.locals.length ∧
      (∀ i view, views[i]? = some view →
        view.name = (localNames s frame w)[i]?.getD s!".t{i + 1}") ∧
      Lists s (nameLocals (localNames s frame w) frame.locals) d (afterNames s frame d w) views
        d'.handles
  receiver : ∀ window w, ∃ s view d' w', d.session = some s ∧
    expand receiver window d w = ((.ok [view], d'), w') ∧ view.name = "self" ∧
      Lists s [("self", frame.receiver)] d w [view] d'.handles

/-- The references stand for the scopes of the frame. -/
structure Opened (level : Level) (frame : Frame) (locals receiver : Nat) (d : DebugSession) : Prop where
  bound : ∃ s, d.session = some s
  kept : d.frames.lookup level = some frame
  locals : d.handles.get? locals = some (.frameLocals level)
  receiver : d.handles.get? receiver = some (.receiver frame.receiver)

variable {locals receiver : Nat}

theorem Opened.mono (opened : Opened level frame locals receiver d) (upholds : Upholds d d') :
    Opened level frame locals receiver d' where
  bound := upholds.session.symm ▸ opened.bound
  kept := upholds.frames level frame opened.kept
  locals := upholds.handles.get? opened.locals
  receiver := upholds.handles.get? opened.receiver

theorem Opened.announced (opened : Opened level frame locals receiver d) :
    Announced frame locals receiver d := by
  obtain ⟨s, bound⟩ := opened.bound
  constructor
  · intro window w
    obtain ⟨views, d', w', ran, lists⟩ :=
      expand_lists opened.locals bound (entries_frameLocals opened.kept s window w)
    refine ⟨s, views, d', w', bound, ran, ?_, fun i view found => ?_, lists⟩
    · rw [lists.length_eq, length_nameLocals]
    · obtain ⟨name, oop, listed, named, _⟩ := lists.entry i view found
      rw [getElem?_nameLocals] at listed
      obtain ⟨_, _, entry⟩ := Option.map_eq_some_iff.mp listed
      exact named.trans (congrArg Prod.fst entry).symm
  · intro window w
    have listed : entries s window (.receiver frame.receiver) d w =
      ((.ok [("self", frame.receiver)], d), w) := rfl
    obtain ⟨views, d', w', ran, lists⟩ := expand_lists opened.receiver bound listed
    obtain ⟨view, rfl⟩ := List.length_eq_one_iff.mp lists.length_eq
    obtain ⟨name, oop, entry, named, _⟩ := lists.entry 0 view rfl
    cases entry
    exact ⟨s, view, d', w', bound, ran, named, lists⟩

theorem attached_of_frame (sound : d.Sound) (answered : (Debug.frame level d w).1.1 = .ok frame) :
    d.process.isSome = true := by
  rcases attached : d.process with _ | process
  · obtain ⟨e, refused⟩ := suspended_of_none attached w
    rw [frame_of_bare (sound.bare attached) level refused] at answered
    cases answered
  · rfl

/-- Scopes that are given are open. -/
theorem scopes_opened (sound : d.Sound) {views : List ScopeView}
    (ran : scopes level d w = ((.ok views, d'), w')) :
    ∃ frame locals receiver, (Debug.frame level d w).1.1 = .ok frame ∧
      views = [⟨"Locals", locals, frame.locals.length⟩, ⟨"Receiver", receiver, 1⟩] ∧
      d'.process.isSome = true ∧ Opened level frame locals receiver d' := by
  have upholds := explores_upholds.scopes level d w
  rw [ExceptT.run, Staged.ends_of ran] at upholds
  obtain ⟨frame, locals, receiver, answered, frames, given, found, found'⟩ := of_scopes_ok ran
  have kept := DebugSession.kept_of_frame answered
  rw [← frames] at kept
  have attached := attached_of_frame sound answered
  have bound := Option.isSome_iff_exists.mp (sound.bound attached)
  rw [← upholds.session] at bound
  rw [← upholds.process] at attached
  exact ⟨frame, locals, receiver, answered, given, attached, bound, kept, found, found'⟩

end Debug

namespace DebugRequest

open Debug

variable {request : DebugRequest} {d : DebugSession} {w : World}

/-- The process is told to run, its stack is trimmed, it is given up, or another session is bound. -/
def Unsettles (request : DebugRequest) (d : DebugSession) (w : World) : Prop :=
  match request with
  | operation (.bind s) => d.session ≠ some s
  | operation .disconnect | operation .terminate => True
  | request => request.Drops d w

theorem upholds_of_refused {e : DebugError} (refused : request.run d w = ((.error e, d), w)) :
    Upholds d (request.run d w).1.2 := by
  rw [refused]
  exact lasts_upholds.refl d

/-- While a process is attached, attaching is refused. -/
theorem upholds_run (sound : d.Sound) (attached : d.process.isSome = true)
    (settled : ¬request.Unsettles d w) : Upholds d (request.run d w).1.2 := by
  have stopped : d.state = .stopped := sound.stopped.mpr attached
  cases asks : request.asks with
  | true => exact along_of_asks explores_upholds asks d w
  | false =>
      cases request with
      | operation op =>
          cases op with
          | bind s =>
              have bound : d.session = some s := Classical.not_not.mp settled
              have ran : (DebugRequest.operation (.bind s)).run d w = ((.ok (), d.boundTo s), w) :=
                Staged.attempt_lift_of (bind_apply s d w)
              rw [ran]
              exact ⟨(d.session_boundTo s).trans bound.symm, d.process_boundTo s,
                d.handles_boundTo s ▸ Numbering.lasts_extends.refl _,
                fun level f kept => (d.frames_boundTo s).symm ▸ kept⟩
          | attach id process message =>
              rcases attach_apply id process message d w with ⟨e, refused⟩ | ⟨free, _⟩
              · exact upholds_of_refused refused
              · exact absurd stopped free
          | attachSession s process message =>
              have taken : ¬(d.state = .unattached ∨ d.state = .detached) := by simp [stopped]
              exact upholds_of_refused (attachSession_of_taken taken s process message w)
          | restartFrame level =>
              rcases restartFrame_cases level d w with ⟨_, same⟩ | ⟨trimmed, _⟩
              · show Upholds d (Debug.restartFrame level d w).1.2
                rw [same]
                exact lasts_upholds.refl d
              · exact absurd trimmed settled
          | disconnect | terminate | step | continueExecution => exact absurd trivial settled
          | _ => cases asks
      | _ => cases asks

end DebugRequest

namespace DebugSession

open Debug DebugRequest

variable {d : DebugSession}

theorem upholds_served (sound : d.Sound) (attached : d.process.isSome = true)
    {run : List (DebugRequest × World)} (settled : d.Throughout (¬·.Unsettles · ·) run) :
    Upholds d (d.served run) := by
  induction run generalizing d with
  | nil => exact lasts_upholds.refl d
  | cons step run ih =>
      obtain ⟨request, w⟩ := step
      obtain ⟨first, others⟩ := settled
      have upholds := upholds_run sound attached first
      have attached' : (request.run d w).1.2.process.isSome = true := upholds.process.symm ▸ attached
      exact lasts_upholds.trans upholds (ih (request.keepsSound_run d w sound) attached' others)

/-- Neither reference stands for anything. -/
def Lost (locals receiver : Nat) (d : DebugSession) : Prop :=
  ∀ reference, reference = locals ∨ reference = receiver → ∀ window w,
    expand reference window d w = ((.error (.unknownVariables reference), d), w)

theorem lost_of_drops (sound : d.Sound) {request : DebugRequest} {w : World}
    (drops : request.Drops d w) (locals receiver : Nat) : Lost locals receiver (request.run d w).1.2 := by
  intro reference _ window w'
  cases request with
  | operation op =>
      have blank : (op.run d w).1.2.handles = {} := (DebugOperation.blank_of_drops sound drops).handles
      apply expand_of_unknown
      show (op.run d w).1.2.handles.get? reference = none
      rw [blank, Numbering.get?_empty]
  | _ => exact absurd drops id

theorem not_trimmed_of_call {result : Except DebugError Unit} {e : CallError}
    (failed : result = .error (.call e)) : ¬Trimmed result := by
  subst failed
  rintro (done | ⟨text, complained⟩)
  · cases done
  · cases complained

/-- Scopes agree with the variables that are asked for afterwards, whatever was done before and whatever
the VM and the client answer, until a request lets the process run, trims its stack, gives it up or
binds another session. -/
theorem scopes_agree (listener : Listener) (run later : List (DebugRequest × World)) (level : Level)
    (w : World) (views : List ScopeView)
    (answered : (scopes level (served { listener } run) w).1.1 = .ok views)
    (settled : Throughout (¬·.Unsettles · ·)
      (served { listener } (run ++ [(.operation (.scopes level), w)])) later) :
    let d := served { listener } (run ++ (.operation (.scopes level), w) :: later)
    ∃ frame locals receiver, (Debug.frame level (served { listener } run) w).1.1 = .ok frame ∧
      views = [⟨"Locals", locals, frame.locals.length⟩, ⟨"Receiver", receiver, 1⟩] ∧
      Announced frame locals receiver d ∧
      ∀ (request : DebugRequest) w', request.Drops d w' → Lost locals receiver (request.run d w').1.2 := by
  have sound := (sound_fresh listener).served run
  have opens : (DebugOperation.scopes level).run = discard (scopes level) := rfl
  obtain ⟨frame, locals, receiver, fetched, given, attached, opened⟩ :=
    scopes_opened sound (after_discarded opens answered)
  let d₁ := served { listener } (run ++ [(.operation (.scopes level), w)])
  have sound₁ : d₁.Sound := (sound_fresh listener).served _
  have after : d₁ = (served { listener } run).after [(.scopes level, w)] := served_append _ _ _
  rw [← after] at attached opened
  have later : served { listener } (run ++ (.operation (.scopes level), w) :: later) =
      d₁.served later := by
    rw [← List.singleton_append, ← List.append_assoc, served_append]
  have held := opened.mono (upholds_served sound₁ attached settled)
  rw [later]
  exact ⟨frame, locals, receiver, fetched, given, held.announced,
    fun request w' drops => lost_of_drops (sound₁.served _) drops locals receiver⟩

/-- The names of two locals cannot be fetched, nothing can be printed and the frame cannot be restarted. -/
theorem scopes_agree_nameless :
    let rejected : CallError := .vm { number := 2101, message := "no such level" }
    let w : World := {
      vm := fun _ _ c => match c with
        | .perform send =>
          if send.selector = "_frameContentsAt:" then .ok (.ofNat 513) else .error rejected
        | .fetchSize oop => if oop = .ofNat 513 then .ok 12 else .error rejected
        | .fetchOops .. =>
          .ok (List.replicate 8 .nil ++ [.ofNat 521, .ofNat 529, .ofNat 537, .ofNat 545])
        | c => Foreign.refuse (.other "") c
      horizon := 0 }
    let listener : Listener := fun _ => none
    let run : List (DebugRequest × World) :=
      [(.operation (.attachSession ⟨1, ⟨9⟩, ""⟩ (.ofNat 257) "halted"), w)]
    let views : List ScopeView := [⟨"Locals", 1, 2⟩, ⟨"Receiver", 2, 1⟩]
    let later : List (DebugRequest × World) :=
      [(.operation (.expand 1 {}), w), (.operation (.restartFrame 1), w),
        (.operation (.bind ⟨1, ⟨9⟩, ""⟩), w)]
    let d := served { listener } (run ++ (.operation (.scopes 1), w) :: later)
    (scopes 1 (served { listener } run) w).1.1 = .ok views ∧
      Throughout (¬·.Unsettles · ·) (served { listener } (run ++ [(.operation (.scopes 1), w)]))
        later ∧
      (expand 1 {} d w).1.1.toOption.map (·.map VariableView.name) = some [".t1", ".t2"] ∧
      ∃ frame locals receiver, (Debug.frame 1 (served { listener } run) w).1.1 = .ok frame ∧
        views = [⟨"Locals", locals, frame.locals.length⟩, ⟨"Receiver", receiver, 1⟩] ∧
        Announced frame locals receiver d ∧
        ∀ (request : DebugRequest) w', request.Drops d w' →
          Lost locals receiver (request.run d w').1.2 := by
  intro rejected w listener run views later d
  have answered : (scopes 1 (served { listener } run) w).1.1 = .ok views := by decide +kernel
  have settled : Throughout (¬·.Unsettles · ·)
      (served { listener } (run ++ [(.operation (.scopes 1), w)])) later := by
    refine ⟨id, ?_, ?_, trivial⟩
    · apply not_trimmed_of_call (e := rejected)
      decide +kernel
    · apply not_not_intro
      decide +kernel
  exact ⟨answered, settled, by decide +kernel,
    scopes_agree listener run later 1 w views answered settled⟩

/-- The VM does not let the process step. It is where it was, and nothing but the step was asked, and yet
the reference of the locals, which stood for one entry, stands for nothing any more. -/
theorem scopes_lost_though_not_resumed :
    let rejected : CallError := .vm { number := 2101, message := "no such level" }
    let w : World := {
      vm := fun _ _ c => match c with
        | .perform send =>
          if send.selector = "_frameContentsAt:" then .ok (.ofNat 513) else .error rejected
        | .fetchSize _ => .ok 11
        | .fetchOops .. => .ok (List.replicate 10 .nil ++ [.ofSmallInt 4])
        | c => Foreign.refuse (.other "") c
      horizon := 0 }
    let attach : DebugRequest := .operation (.attachSession ⟨1, ⟨9⟩, ""⟩ (.ofNat 257) "halted")
    let d := served {} [(attach, w), (.operation (.scopes 1), w)]
    let d' := (Debug.step .overSends 1 d w).1.2
    (scopes 1 (served {} [(attach, w)]) w).1.1 =
        .ok [⟨"Locals", 1, 1⟩, ⟨"Receiver", 2, 1⟩] ∧
      (expand 1 {} d w).1.1.toOption.map List.length = some 1 ∧
      (Debug.step .overSends 1 d w).1.1 = .error (.call rejected) ∧
      (asked (Debug.step .overSends 1) d w).map Exchange.call =
        [.perform ⟨.ofNat 257, "gciStepOverFromLevel:", [.ofSmallInt 1], 0, 0⟩] ∧
      d'.state = d.state ∧ d'.process = d.process ∧ d'.told = d.told ∧
      (expand 1 {} d' w).1.1 = .error (.unknownVariables 1) := by
  intro rejected w attach d d'
  exact ⟨by decide +kernel, by decide +kernel, by decide +kernel, by decide +kernel,
    by decide +kernel, by decide +kernel, by decide +kernel, by decide +kernel⟩

end DebugSession

end StoneDebug
