import StoneDebug.Foreign.Reply
import StoneDebug.Proofs.Debug.Requests
import StoneDebug.Proofs.Oop.Codec
import StoneDebug.Proofs.Session.Busy

/-! # Frames are those of the attached process

A frame that was fetched is kept and shown again without a look at the process. What is shown is
nevertheless never out of date: a frame that is kept was fetched of the process that is attached, and
since then the process has not run and its stack was not trimmed. A stack level goes to the VM as a word
of 32 bits with a sign, so that a level from 2³¹ on names another one.
-/

namespace StoneDebug

open Debug

/-! ## Levels -/

theorem Debug.toInt_toInt32 (level : Level) :
    level.toInt32.toInt =
      if level.toNat < 2147483648 then (level.toNat : Int) else level.toNat - 4294967296 := by
  have read : level.toInt32.toInt = level.toBitVec.toInt := rfl
  rw [read, BitVec.toInt_eq_toNat_cond]
  show (if 2 * level.toNat < 4294967296 then (level.toNat : Int) else level.toNat - 4294967296) = _
  split <;> split <;> omega

theorem Debug.kind_levelOop (level : Level) :
    (levelOop level).kind = .smallInt level.toInt32.toInt := by
  have bound : level.toNat < 4294967296 := level.toNat_lt
  have low : Oop.minSmallInt ≤ level.toInt32.toInt ∧ level.toInt32.toInt ≤ Oop.maxSmallInt := by
    rw [toInt_toInt32 level]
    unfold Oop.minSmallInt Oop.maxSmallInt
    split <;> omega
  exact Oop.kind_of_holds (Oop.holds_ofSmallInt low.1 low.2)

/-- The VM is told the level itself only if it fits. -/
theorem Debug.levelOop_eq_iff (level : Level) :
    levelOop level = .ofSmallInt level.toNat ↔ level.toNat < 2147483648 := by
  have bound : level.toNat < 4294967296 := level.toNat_lt
  have read := toInt_toInt32 level
  have told := kind_levelOop level
  have meant : (Oop.ofSmallInt level.toNat).kind = .smallInt level.toNat :=
    Oop.kind_of_holds (Oop.holds_ofSmallInt (by unfold Oop.minSmallInt; omega)
      (by unfold Oop.maxSmallInt; omega))
  constructor
  · intro same
    rw [same, meant] at told
    have equal : (level.toNat : Int) = level.toInt32.toInt := Oop.Kind.smallInt.inj told
    rw [read] at equal
    split at equal <;> omega
  · intro fits
    rw [if_pos fits] at read
    rw [levelOop, Oop.ofInt32, read]

/-! ## Fetching -/

/-- Among these exchanges the VM has described the level of the process that goes by this name, and the
frame is made of what it has said. -/
def Session.Fetched (s : Session) (process level : Oop) (f : Frame) (xs : List Exchange) : Prop :=
  ∃ (array : Oop) (size : Int) (oops : List Oop), ¬array.isNil = true ∧
    [s.sent { receiver := process, selector := "_frameContentsAt:", args := [level] } (.ok array),
      ⟨some s.handle, .fetchSize array, .ok size⟩,
      ⟨some s.handle, .fetchOops array 1 size.toNat, .ok oops⟩] <:+: xs ∧
    Frame.ofOops oops = .ok f

theorem Session.Fetched.mono {s : Session} {process level : Oop} {f : Frame} {xs ys : List Exchange}
    (within : xs <:+: ys) (fetched : s.Fetched process level f xs) :
    s.Fetched process level f ys := by
  obtain ⟨array, size, oops, described, asked, made⟩ := fetched
  exact ⟨array, size, oops, described, asked.trans within, made⟩

theorem Frame.ne_nil_of_ofOops {oops : List Oop} {f : Frame} (made : Frame.ofOops oops = .ok f) :
    oops ≠ [] := by
  rintro rfl
  cases made

theorem Debug.fetched_of_contents {s : Session} {process : Oop} {level : Level} {oops : List Oop}
    {f : Frame} {w w' : World} (ran : fetchContents s process level w = (.ok (some oops), w'))
    (made : Frame.ofOops oops = .ok f) :
    ∃ xs, w'.transcript = w.transcript ++ xs ∧ s.Fetched process (levelOop level) f xs := by
  obtain ⟨array, w₁, sent, rest⟩ := of_attempt_bind_ok ran
  by_cases none : array.isNil = true
  · rw [if_pos none] at rest
    cases rest
  · rw [if_neg none] at rest
    obtain ⟨slots, w₂, fetched, gave⟩ := of_attempt_bind_ok rest
    cases gave
    obtain ⟨drained, idle, asked⟩ := Session.perform_ok sent
    obtain ⟨size, rfl⟩ :=
      Session.fetchAllOops_of_idle idle fetched (Frame.ne_nil_of_ofOops made)
    let answers : List Exchange :=
      [⟨some s.handle, .fetchSize array, .ok size⟩,
        ⟨some s.handle, .fetchOops array 1 size.toNat, .ok oops⟩]
    let message : Send :=
      { receiver := process, selector := "_frameContentsAt:", args := [levelOop level] }
    refine ⟨drained ++ s.sent message (.ok array) :: answers, ?_, array, size, oops, none, ?_, made⟩
    · show w₁.transcript ++ answers = _
      rw [asked, List.append_assoc, List.append_assoc]
      rfl
    · exact (List.suffix_append drained _).isInfix

/-- A frame is answered from what is kept, or it is refused, or it has been fetched and is kept from
then on. -/
theorem Debug.kept_or_fetched (level : Level) (d : DebugSession) (w : World) :
    (∃ f, d.frames.lookup level = some f ∧ frame level d w = ((.ok f, d), w)) ∨
      (∃ e w', frame level d w = ((.error e, d), w')) ∨
      ∃ s process f w', d.session = some s ∧ d.process = some process ∧
        (∃ xs, w'.transcript = w.transcript ++ xs ∧ s.Fetched process (levelOop level) f xs) ∧
        frame level d w = ((.ok f, { d with frames := (level, f) :: d.frames }), w') := by
  rcases frame_cases level d w with ⟨f, kept, ran⟩ | ⟨e, _, ran⟩ |
    ⟨process, s, _, _, _, attached, bound, ran⟩
  · exact .inl ⟨f, kept, ran⟩
  · exact .inr (.inl ⟨e, w, ran⟩)
  · right
    rcases contents : fetchContents s process level w with ⟨found, w'⟩
    have ran : frame level d w = (readFrame level d found, w') := by rw [ran, contents]
    rcases readFrame_cases level d found with ⟨e, left⟩ | ⟨oops, f, rfl, made, left⟩
    · exact .inl ⟨e, w', by rw [ran, left]⟩
    · have fetched := fetched_of_contents contents made
      exact .inr ⟨s, process, f, w', bound, attached, fetched, by rw [ran, left]⟩

/-! ## What a request does to the frames -/

/-- The process stays, and a frame that is kept afterwards was kept before or has been fetched of it. -/
structure Retains (x y : DebugSession × World) : Prop where
  session : y.1.session = x.1.session
  process : y.1.process = x.1.process
  frames : ∃ made, y.2.transcript = x.2.transcript ++ made ∧
    ∀ level f, y.1.frames.lookup level = some f →
      x.1.frames.lookup level = some f ∨
        ∃ s process, x.1.session = some s ∧ x.1.process = some process ∧
          s.Fetched process (levelOop level) f made

theorem lasts_retains : Lasts Retains where
  refl x := ⟨rfl, rfl, [], by simp, fun _ _ kept => .inl kept⟩
  trans {x y z} h h' := by
    obtain ⟨session, process, made, asked, frames⟩ := h
    obtain ⟨session', process', made', asked', frames'⟩ := h'
    refine ⟨session'.trans session, process'.trans process, made ++ made', ?_, fun level f kept => ?_⟩
    · rw [asked', asked, List.append_assoc]
    rcases frames' level f kept with old | ⟨s, p, bound, attached, fetched⟩
    · rcases frames level f old with older | ⟨s, p, bound, attached, fetched⟩
      · exact .inl older
      · exact .inr ⟨s, p, bound, attached, fetched.mono (List.prefix_append _ _).isInfix⟩
    · have last := (List.suffix_append made made').isInfix
      exact .inr ⟨s, p, session ▸ bound, process ▸ attached, fetched.mono last⟩

theorem retains_of_same {x y : DebugSession × World} (session : y.1.session = x.1.session)
    (process : y.1.process = x.1.process) (frames : y.1.frames = x.1.frames)
    (calls : Adds (Exchange.Within x.1.session) x.2 y.2) : Retains x y := by
  obtain ⟨made, asked, _⟩ := calls
  exact ⟨session, process, made, asked, fun _ _ kept => .inl (frames ▸ kept)⟩

theorem Debug.Reads.retains {x y : DebugSession × World} (h : Reads x y) : Retains x y :=
  retains_of_same h.session h.process h.frames h.calls

theorem retains_frame (level : Level) : Staged.Along Retains (frame level).run := by
  intro d w
  obtain ⟨made, asked, _⟩ := (explores_looks.frame level d w).calls
  rcases kept_or_fetched level d w with ⟨f, _, ran⟩ | ⟨e, w', ran⟩ |
    ⟨s, process, f, w', bound, attached, ⟨xs, added, fetched⟩, ran⟩
  · rw [ExceptT.run, Staged.ends_of ran]
    exact lasts_retains.refl (d, w)
  · rw [ExceptT.run, Staged.ends_of ran] at asked ⊢
    exact ⟨rfl, rfl, made, asked, fun _ _ kept => .inl kept⟩
  · rw [ExceptT.run, Staged.ends_of ran]
    refine ⟨rfl, rfl, xs, added, fun level' f' kept => ?_⟩
    rcases lookup_cons_cases kept with ⟨rfl, rfl⟩ | old
    · exact .inr ⟨s, process, bound, attached, fetched⟩
    · exact .inl old

theorem explores_retains : Explores Retains where
  toConsults := consults_of_keep
    (asks_of_reads lasts_retains (fun h => h.session) Reads.retains)
    (fun d w _ _ _ _ => (reads_of_kept d w _ _ _ _).retains)
    fun d w method => (reads_of_numbered d w method).retains
  frame := retains_frame
  handed _ _ _ := ⟨rfl, rfl, [], by simp, fun _ _ kept => .inl kept⟩

namespace DebugRequest

/-- The process is about to run, or its stack was trimmed. -/
def Drops (request : DebugRequest) (d : DebugSession) (w : World) : Prop :=
  match request with
  | operation op => op.Drops d w
  | _ => False

/-- A process is attached to. -/
def Attaches (request : DebugRequest) (d : DebugSession) (w : World) : Prop :=
  d.process = none ∧ (request.run d w).1.2.process.isSome = true

/-- The frames that are kept lose their meaning. -/
def Outdates (request : DebugRequest) (d : DebugSession) (w : World) : Prop :=
  request.Drops d w ∨ request.Attaches d w

/-- While a process is attached, no other session is bound than the one in use. -/
def Loyal (request : DebugRequest) (d : DebugSession) (_ : World) : Prop :=
  ∀ s, request = .operation (.bind s) → d.process.isSome = true → d.session = some s

/-- The frames that are kept remain those of the attached process. -/
structure Stays (request : DebugRequest) (d : DebugSession) (w : World) : Prop where
  current : ¬request.Outdates d w
  retains : Retains (d, w) (Staged.ends request.run.run d w)

variable {request : DebugRequest} {d : DebugSession} {w : World}

theorem stays_of_retains (keeps : ¬request.Drops d w)
    (retains : Retains (d, w) (Staged.ends request.run.run d w)) : request.Stays d w := by
  refine ⟨?_, retains⟩
  rintro (drops | ⟨free, attached⟩)
  · exact keeps drops
  · have same : (request.run d w).1.2.process = d.process := retains.process
    rw [same, free] at attached
    cases attached

theorem stays_of_asks (asks : request.asks = true) : request.Stays d w := by
  refine stays_of_retains (fun drops => ?_) (along_of_asks explores_retains asks d w)
  cases request with
  | operation op => cases op <;> first | exact drops | cases asks
  | _ => exact drops

theorem stays_of_refused {e : DebugError} (keeps : ¬request.Drops d w)
    (refused : request.run d w = ((.error e, d), w)) : request.Stays d w := by
  apply stays_of_retains keeps
  rw [ExceptT.run, Staged.ends_of refused]
  exact lasts_retains.refl (d, w)

/-- A session is bound before a process is attached, or it is the one in use already. -/
theorem frames_bind (sound : d.Sound) (s : Session) (loyal : Loyal (.operation (.bind s)) d w) :
    (d.boundTo s).frames = [] ∨ Stays (.operation (.bind s)) d w := by
  have bound : (DebugRequest.operation (.bind s)).run d w = ((.ok (), d.boundTo s), w) :=
    Staged.attempt_lift_of (bind_apply s d w)
  cases attached : d.process with
  | none => exact .inl ((d.frames_boundTo s).trans (sound.bare attached).frames)
  | some process =>
      have same := loyal s rfl (Option.isSome_of_eq_some attached)
      refine .inr (stays_of_retains id ?_)
      rw [ExceptT.run, Staged.ends_of bound]
      exact retains_of_same ((d.session_boundTo s).trans same.symm) (d.process_boundTo s)
        (d.frames_boundTo s) ((lasts_adds _).refl w)

/-- A frame is not restarted, and then nothing is forgotten, or everything is. -/
theorem frames_restartFrame (level : Level) (d : DebugSession) (w : World) :
    (Debug.restartFrame level d w).1.2.frames = [] ∨
      Stays (.operation (.restartFrame level)) d w := by
  rcases restartFrame_cases level d w with ⟨kept, same⟩ | ⟨_, blank⟩
  · have looks := looks_restartFrame level d w
    refine .inr (stays_of_retains kept ?_)
    exact retains_of_same looks.session looks.process (congrArg DebugSession.frames same) looks.calls
  · exact .inl blank.frames

/-- After a request no frame is kept, or the frames are still those of the same process. -/
theorem frames_run (sound : d.Sound) (request : DebugRequest) (loyal : request.Loyal d w) :
    (request.run d w).1.2.frames = [] ∨ request.Stays d w := by
  cases asks : request.asks with
  | true => exact .inr (stays_of_asks asks)
  | false =>
      cases request with
      | operation op =>
          cases op with
          | bind s =>
              have bound : (DebugRequest.operation (.bind s)).run d w = ((.ok (), d.boundTo s), w) :=
                Staged.attempt_lift_of (bind_apply s d w)
              rw [bound]
              exact frames_bind sound s loyal
          | attach id process message =>
              rcases attach_apply id process message d w with
                ⟨e, same⟩ | ⟨_, s, _, d', w', _, ran, anew, _⟩
              · exact .inr (stays_of_refused not_false same)
              · rw [run, DebugOperation.run, ran]
                exact .inl anew.frames
          | attachSession s process message =>
              rcases attachSession_apply s process message d w with
                ⟨e, same⟩ | ⟨_, _, d', w', ran, anew, _⟩
              · exact .inr (stays_of_refused not_false same)
              · rw [run, DebugOperation.run, ran]
                exact .inl anew.frames
          | disconnect => exact .inl (letGo_disconnect d w).bare.frames
          | terminate => exact .inl (letGo_terminate d w).bare.frames
          | step kind level => exact .inl (blank_step sound kind level w).frames
          | continueExecution => exact .inl (blank_continueExecution sound w).frames
          | restartFrame level => exact frames_restartFrame level d w
          | _ => cases asks
      | _ => cases asks

end DebugRequest

/-! ## Runs -/

namespace DebugSession

open DebugRequest

variable {d : DebugSession}

/-- None of these requests puts frames out of date. -/
def Unbroken (d : DebugSession) (run : List (DebugRequest × World)) : Prop :=
  d.Throughout (¬·.Outdates · ·) run

/-- The frame was fetched, in the session and of the process that are still in use after the run, and
nothing has put it out of date since. -/
def Dated (d : DebugSession) (run : List (DebugRequest × World)) (level : Level) (f : Frame) : Prop :=
  ∃ s process earlier recent, (d.served run).session = some s ∧
    (d.served run).process = some process ∧ run = earlier ++ recent ∧
    (d.served earlier).Unbroken recent ∧
    s.Fetched process (levelOop level) f ((d.served earlier).record recent)

/-- All frames that are kept after the run are such. -/
def Current (d : DebugSession) (run : List (DebugRequest × World)) : Prop :=
  ∀ level f, (d.served run).frames.lookup level = some f → d.Dated run level f

theorem Current.step {run : List (DebugRequest × World)} (current : d.Current run)
    (sound : (d.served run).Sound) (request : DebugRequest) (w : World)
    (loyal : request.Loyal (d.served run) w) : d.Current (run ++ [(request, w)]) := by
  intro level f kept
  have served : d.served (run ++ [(request, w)]) = (request.run (d.served run) w).1.2 :=
    d.served_append run _
  rw [served] at kept
  rcases request.frames_run sound loyal with empty | ⟨lasting, retains⟩
  · rw [empty] at kept
    cases kept
  obtain ⟨session, process, made, asked, frames⟩ := retains
  have exchanges : Debug.asked request.run (d.served run) w = made := asked_of asked
  rw [Dated, served]
  rcases frames level f kept with old | ⟨s, p, bound, attached, fetched⟩
  · obtain ⟨s, p, earlier, recent, bound, attached, rfl, unbroken, fetched⟩ := current level f old
    have last : ((d.served earlier).served recent).Unbroken [(request, w)] := by
      rw [d.served_append] at lasting
      exact ⟨lasting, trivial⟩
    refine ⟨s, p, earlier, recent ++ [(request, w)], session.trans bound, process.trans attached,
      List.append_assoc _ _ _, throughout_append.mpr ⟨unbroken, last⟩, ?_⟩
    rw [record_append]
    exact fetched.mono (List.prefix_append _ _).isInfix
  · refine ⟨s, p, run, [(request, w)], session.trans bound, process.trans attached, rfl,
      ⟨lasting, trivial⟩, ?_⟩
    rw [record, record, exchanges, List.append_nil]
    exact fetched

theorem Current.append {earlier : List (DebugRequest × World)} (current : d.Current earlier)
    (sound : d.Sound) {later : List (DebugRequest × World)}
    (loyal : (d.served earlier).Throughout Loyal later) : d.Current (earlier ++ later) := by
  induction later generalizing earlier with
  | nil =>
      rw [List.append_nil]
      exact current
  | cons step later ih =>
      obtain ⟨request, w⟩ := step
      obtain ⟨first, others⟩ := loyal
      have next := current.step (sound.served earlier) request w first
      rw [← List.singleton_append, ← List.append_assoc]
      apply ih next
      rw [d.served_append]
      exact others

theorem kept_of_frame {level : Level} {f : Frame} {w : World}
    (answered : (frame level d w).1.1 = .ok f) :
    (frame level d w).1.2.frames.lookup level = some f := by
  rcases kept_or_fetched level d w with ⟨f', kept, ran⟩ | ⟨e, w', ran⟩ |
    ⟨s, process, f', w', _, _, _, ran⟩
  · rw [ran] at answered ⊢
    cases answered
    exact kept
  · rw [ran] at answered
    cases answered
  · rw [ran] at answered ⊢
    cases answered
    exact List.lookup_cons_self

/-- A frame that is shown is made of what the VM has said about the process that is attached, and said
since the process last ran, its stack was trimmed or it was attached to. The VM was asked for this very
level exactly if the level is less than 2³¹. -/
theorem frame_current (listener : Listener) (run : List (DebugRequest × World)) (level : Level)
    (w : World) (f : Frame) (loyal : Throughout Loyal { listener } run)
    (answered : (frame level (served { listener } run) w).1.1 = .ok f) :
    Dated { listener } (run ++ [(.operation (.frame level), w)]) level f ∧
      (levelOop level = .ofSmallInt level.toNat ↔ level.toNat < 2147483648) := by
  refine ⟨?_, levelOop_eq_iff level⟩
  have sound := sound_fresh listener
  have start : Current { listener } [] := nofun
  have before : Current { listener } run := start.append sound loyal
  have after : Current { listener } (run ++ [(.operation (.frame level), w)]) :=
    before.step (sound.served run) _ w nofun
  have same : served { listener } (run ++ [(.operation (.frame level), w)]) =
      (frame level (served { listener } run) w).1.2 := by
    rw [served_append]
    have runs : (DebugOperation.frame level).run = discard (frame level) := rfl
    have opened := after_discarded runs answered
    exact (congrArg (fun ran => ran.1.2) opened).symm
  apply after level f
  rw [same]
  exact kept_of_frame answered

def describing (method : Oop) : VM := fun _ _ c => match c with
  | .perform _ => .ok (.ofNat 513)
  | .fetchSize _ => .ok 10
  | .fetchOops .. => .ok (method :: List.replicate 9 .nil)
  | c => Foreign.refuse (.other "") c

/-- The session that is in use is bound again, and the frame is shown from what is kept. -/
theorem frame_current_of_bound :
    let w : World := { vm := describing (.ofNat 769), horizon := 0 }
    let s : Session := ⟨1, ⟨9⟩, ""⟩
    let listener : Listener := fun _ => none
    let run : List (DebugRequest × World) :=
      [(.operation (.attachSession s (.ofNat 257) ""), w), (.operation (.frame 1), w),
        (.operation (.bind s), w)]
    let f : Frame := ⟨.ofNat 769, 0, .nil, .nil, []⟩
    Throughout Loyal { listener } run ∧ (frame 1 (served { listener } run) w).1.1 = .ok f ∧
      Dated { listener } (run ++ [(.operation (.frame 1), w)]) 1 f := by
  intro w s listener run f
  have loyal : Throughout Loyal { listener } run := by
    refine ⟨nofun, nofun, fun s' same _ => ?_, trivial⟩
    cases same
    decide +kernel
  have answered : (frame 1 (served { listener } run) w).1.1 = .ok f := by decide +kernel
  exact ⟨loyal, answered, (frame_current listener run 1 w f loyal answered).1⟩

/-- A frame is shown for level 2³¹, and the VM was never asked for that level. -/
theorem frame_of_another_level :
    let w : World := { vm := describing (.ofNat 769), horizon := 0 }
    let level : Level := 2147483648
    let start : DebugSession := { listener := fun _ => none }
    let run : List (DebugRequest × World) :=
      [(.operation (.attachSession ⟨1, ⟨9⟩, ""⟩ (.ofNat 257) ""), w)]
    (frame level (start.served run) w).1.1.isOk = true ∧
      ∀ s process f, ¬Session.Fetched s process (.ofSmallInt level.toNat) f
        (start.record (run ++ [(.operation (.frame level), w)])) := by
  intro w level start run
  refine ⟨by decide +kernel, fun s process f fetched => ?_⟩
  have calls : (start.record (run ++ [(.operation (.frame level), w)])).map Exchange.call =
      [.perform ⟨.ofNat 257, "_frameContentsAt:", [.ofSmallInt (-2147483648)], 0, 0⟩,
        .fetchSize (.ofNat 513), .fetchOops (.ofNat 513) 1 10] := by
    decide +kernel
  obtain ⟨array, size, oops, _, asked, _⟩ := fetched
  have sent := List.mem_map_of_mem (f := Exchange.call) (asked.subset List.mem_cons_self)
  rw [calls] at sent
  have other : Oop.ofSmallInt level.toNat ≠ .ofSmallInt (-2147483648) := by decide +kernel
  simp [Session.sent, other] at sent

end DebugSession

end StoneDebug
