import StoneDebug.Foreign.Reply
import StoneDebug.Proofs.Session.Turn

/-! # The trace of a poller

Between two polls anything may happen to the world, so a run is given by the worlds that its polls
find. What a run has reached is carried from poll to poll: the breaks sent so far are counted by the
poller itself, and a call that still runs has had neither a hard break nor its result fetched.
-/

namespace StoneDebug

namespace Poller

variable {p : Poller} {w : World}

/-- The polls of a run, by the worlds that they find. -/
def turns (p : Poller) : List World → List Turn
  | [] => []
  | w :: ws => ⟨p, w⟩ :: turns (p.poll w).1 ws

def polled (p : Poller) : List World → Poller
  | [] => p
  | w :: ws => polled (p.poll w).1 ws

def breaks (hard : Bool) (ts : List Turn) : Nat :=
  (ts.flatMap Turn.exchanges).countP fun x => x.Breaks hard

/-- How many results are fetched outside of draining. -/
def fetches (ts : List Turn) : Nat := (ts.flatMap Turn.undrained).countP Exchange.Fetches

/-- What holds of the polls of a run that leave the poller `p`. -/
structure Lawful (ts : List Turn) (p : Poller) : Prop where
  soft_once : breaks false ts ≤ 1
  hard_once : breaks true ts ≤ 1
  hard_after_soft : ∀ before t after, ts = before ++ t :: after → t.Breaks true →
    2 ≤ t.found.token.requests ∧ ∃ t' ∈ before, t'.Breaks false
  /-- What follows a hard break is the draining loop. -/
  drains : ∀ t ∈ ts, t.Breaks true → ∃ x drained w, t.exchanges = x :: drained ∧ x.Breaks true ∧
    w.transcript = t.found.transcript ++ [x] ∧
    (t.poller.drain w).2.transcript = w.transcript ++ drained
  cancelled : (∃ drained, p.outcome? = some (.cancelled drained)) ↔ ∃ t ∈ ts, t.Breaks true
  fetched : ∀ t ∈ ts, Exchange.FetchedWhenReady false t.undrained
  fetched_once : fetches ts ≤ 1
  /-- Once finished, the poller asks nothing and changes no more. -/
  final : p.outcome?.isSome → ∀ w, p.poll w = (p, w) ∧
    ∀ request, (p.submit request w).1 = p ∧ (p.submit request w).2.transcript = w.transcript
  displays : p.Displays (ts.flatMap Turn.shown)

/-- While the call is polled for, the breaks sent are counted and no result has been fetched. -/
structure Running (ts : List Turn) (p : Poller) : Prop where
  soft : breaks false ts = p.interrupts
  interrupts : p.interrupts ≤ 1
  hard : breaks true ts = 0
  fetched : fetches ts = 0

structure Reached (ts : List Turn) (p : Poller) : Prop extends Lawful ts p where
  begun : p.state ≠ .idle
  running : ∀ attempt, p.state = .polling attempt → Running ts p

section

variable {ts : List Turn} {t : Turn} {hard : Bool}

@[simp] theorem breaks_append : breaks hard (ts ++ [t]) = breaks hard ts + t.breaks hard := by
  simp [breaks, Turn.breaks]

@[simp] theorem fetches_append : fetches (ts ++ [t]) = fetches ts + t.fetches := by
  simp [fetches, Turn.fetches]

theorem breaks_pos_iff : 0 < breaks hard ts ↔ ∃ t ∈ ts, t.Breaks hard := by
  simp only [breaks, Turn.Breaks, List.countP_pos_iff, List.mem_flatMap, decide_eq_true_eq]
  constructor
  · rintro ⟨x, ⟨t, turn, made⟩, sent⟩
    exact ⟨t, turn, x, made, sent⟩
  · rintro ⟨t, turn, x, made, sent⟩
    exact ⟨x, ⟨t, turn, made⟩, sent⟩

theorem final_of_finished (ended : p.outcome?.isSome) (w : World) :
    p.poll w = (p, w) ∧
      ∀ request, (p.submit request w).1 = p ∧
        (p.submit request w).2.transcript = w.transcript := by
  obtain ⟨outcome, ended⟩ := Option.isSome_iff_exists.mp ended
  have finished : p.state = .finished outcome := by
    unfold outcome? at ended
    split at ended
    · simp_all
    · cases ended
  refine ⟨poll_of_resting (by simp [finished]) w, fun request => ?_⟩
  unfold submit
  rw [finished]
  exact ⟨rfl, rfl⟩

/-- The last of a run of polls, or one before. -/
theorem split_concat {before after : List Turn} {t' : Turn}
    (eq : ts ++ [t] = before ++ t' :: after) :
    (before = ts ∧ t' = t) ∨ ∃ after', ts = before ++ t' :: after' := by
  rcases after.eq_nil_or_concat with rfl | ⟨after', last, rfl⟩
  · have := List.append_inj' eq rfl
    exact .inl ⟨this.1.symm, by simpa using this.2.symm⟩
  · rw [List.concat_eq_append, ← List.cons_append, ← List.append_assoc] at eq
    exact .inr ⟨after', (List.append_inj' eq rfl).1⟩

theorem Reached.poll_polling {attempt : Nat} (reached : Reached ts t.poller)
    (polling : t.poller.state = .polling attempt) : Reached (ts ++ [t]) t.next := by
  have tame := Turn.tame_of_polling polling
  have running := reached.running attempt polling
  have softSent := running.soft
  have hardSent := running.hard
  have fetched := running.fetched
  have softNow := tame.soft running.interrupts
  have before : ¬∃ t ∈ ts, t.Breaks true := by rw [← breaks_pos_iff]; omega
  exact {
    soft_once := by rw [breaks_append]; omega
    hard_once := by have := tame.hard; rw [breaks_append]; omega
    hard_after_soft := fun former t' after eq hard => by
      rcases split_concat eq with ⟨rfl, rfl⟩ | ⟨after', rfl⟩
      -- A break was counted before this poll, so an earlier poll has sent it softly.
      · obtain ⟨again, requested⟩ := tame.due hard
        exact ⟨by omega, breaks_pos_iff.mp (by omega)⟩
      · exact reached.hard_after_soft _ _ _ rfl hard
    drains := List.forall_mem_append.mpr ⟨reached.drains, by simpa using tame.drains⟩
    cancelled := by simp [tame.cancelled, before, or_and_right, exists_or]
    fetched := List.forall_mem_append.mpr ⟨reached.fetched, by simpa using tame.fetched⟩
    fetched_once := by have := tame.fetches; rw [fetches_append]; omega
    final := final_of_finished
    displays := by simpa using tame.displays reached.displays
    begun := tame.begun
    running := fun attempt again => by
      obtain ⟨hardNone, fetchNone, interrupts⟩ := tame.goesOn attempt again
      constructor
      · rw [breaks_append, interrupts]; omega
      · omega
      · rw [breaks_append]; omega
      · rw [fetches_append]; omega }

theorem Reached.poll_resting (reached : Reached ts t.poller)
    (resting : ∀ attempt, t.poller.state ≠ .polling attempt) : Reached (ts ++ [t]) t.next := by
  have same := poll_of_resting resting t.found
  have left : Leaves [] [] t.found t.left :=
    .of_eq (by rw [Turn.left, same]) (by rw [Turn.left, same])
  have exchanges := Turn.exchanges_of_leaves left
  have none (hard : Bool) : t.breaks hard = 0 := by rw [Turn.breaks, exchanges]; rfl
  have calm : ¬t.Breaks true := by rw [← Turn.breaks_pos_iff, none]; omega
  have undrained : t.undrained = [] := by rw [Turn.undrained, exchanges]; rfl
  rw [show t.next = t.poller from congrArg Prod.fst same]
  exact {
    soft_once := by rw [breaks_append, none]; exact reached.soft_once
    hard_once := by rw [breaks_append, none]; exact reached.hard_once
    hard_after_soft := fun former t' after eq hard => by
      rcases split_concat eq with ⟨rfl, rfl⟩ | ⟨after', rfl⟩
      · exact absurd hard calm
      · exact reached.hard_after_soft _ _ _ rfl hard
    drains := List.forall_mem_append.mpr ⟨reached.drains, by simp [calm]⟩
    cancelled := by simp [reached.cancelled, calm, or_and_right, exists_or]
    fetched := List.forall_mem_append.mpr ⟨reached.fetched, by simp [undrained]; rfl⟩
    fetched_once := by
      rw [fetches_append, Turn.fetches, undrained]
      exact reached.fetched_once
    final := final_of_finished
    displays := by simpa [Turn.shown_of_leaves left] using reached.displays
    begun := reached.begun
    running := fun attempt polling => absurd polling (resting attempt) }

theorem Reached.poll (reached : Reached ts t.poller) : Reached (ts ++ [t]) t.next := by
  cases state : t.poller.state with
  | idle => exact absurd state reached.begun
  | polling attempt => exact reached.poll_polling state
  | finished outcome => exact reached.poll_resting (by simp [state])

theorem Reached.polls (reached : Reached ts p) (ws : List World) :
    Reached (ts ++ turns p ws) (polled p ws) := by
  induction ws generalizing p ts with
  | nil => simpa [turns, polled] using reached
  | cons w ws ih =>
      have next := ih (Reached.poll (t := ⟨p, w⟩) reached)
      rwa [List.append_assoc] at next

end

theorem reached_submit (s : Session) (config : PollConfig) (request : Submission) (w : World) :
    Reached [] (submit { session := s, config } request w).1 := by
  have started (p : Poller) (fresh : p.shown = false) (sent : p.interrupts = 0)
      (begun : p.state ≠ .idle) (running : ∀ d, p.outcome? ≠ some (.cancelled d)) :
      Reached [] p :=
    { soft_once := Nat.zero_le _
      hard_once := Nat.zero_le _
      hard_after_soft := fun before t after eq => by simp at eq
      drains := by simp
      cancelled := by simpa using running
      fetched := by simp
      fetched_once := Nat.zero_le _
      final := final_of_finished
      displays := (displays_of_hidden (by simp [fresh])).mpr rfl
      begun
      running := fun _ _ => ⟨sent.symm, by omega, rfl, rfl⟩ }
  rcases issued : request.issue s w with ⟨submitted, w₁⟩
  have read : (get : Act World) w₁ = (w₁, w₁) := rfl
  dsimp only [submit]
  rw [act_bind_of issued, act_bind_of read]
  -- The VM takes the call, or it has failed on the spot.
  cases submitted with
  | ok _ => exact started _ rfl rfl nofun nofun
  | error e =>
      dsimp only
      rw [finish_apply]
      exact started _ rfl rfl nofun nofun

/-- Whatever the VM answers, whenever requests to end the call come and however often the call is
polled for, the polls that follow a submission obey the law. -/
theorem lawful_turns (s : Session) (config : PollConfig) (request : Submission) (w : World)
    (ws : List World) :
    let p := (submit { session := s, config } request w).1
    Lawful (turns p ws) (polled p ws) :=
  ((reached_submit s config request w).polls ws).toLawful

/-- Two requests to end a call that never ends: a soft break, then a hard one. -/
example :
    let vm : VM := fun _ _ c => match c with
      | .nbPoll _ => { status := .ok .notReady }
      | .nbPerform _ | .interrupt _ => .ok ()
      | c => Foreign.refuse (.other "") c
    let w : World := { vm, token := ⟨2⟩, horizon := 0 }
    let idle : Poller := ⟨⟨1, ⟨9⟩, ""⟩, ⟨[1], 1000, 0⟩, .idle, "", 0, 0, false⟩
    let p := (submit idle (.perform ⟨.nil, "yourself", [], 0, 0⟩) w).1
    (turns p [w, w]).map (Turn.breaks false) = [1, 0] ∧
      (turns p [w, w]).map (Turn.breaks true) = [0, 1] ∧
      (polled p [w, w]).outcome? = some (.cancelled false) := by
  decide +kernel

/-- A call that is awaited is polled for, each time in the world that the sleep has left. -/
theorem turns_of_await {polls : Nat} {w' : World} {outcome : Outcome}
    (ended : await polls p w = (some outcome, w')) :
    ∃ ws, (polled p ws).outcome? = some outcome ∧
      w'.transcript = w.transcript ++ (turns p ws).flatMap Turn.exchanges := by
  induction polls generalizing p w with
  | zero => cases ended
  | succ polls ih =>
      let t : Turn := ⟨p, w⟩
      have asked : t.left.transcript = w.transcript ++ t.exchanges := t.transcript_left
      have goesOn (again : await polls t.next (sleep t.next.nextDelay t.left).2 =
          (some outcome, w')) : ∃ ws, (polled p ws).outcome? = some outcome ∧
            w'.transcript = w.transcript ++ (turns p ws).flatMap Turn.exchanges := by
        obtain ⟨ws, finished, later⟩ := ih again
        refine ⟨w :: ws, finished, ?_⟩
        have slept : (sleep t.next.nextDelay t.left).2.transcript = t.left.transcript := rfl
        rw [later, slept, asked, List.append_assoc]
        rfl
      have ran : p.poll w = (t.next, t.left) := rfl
      rw [await, act_bind_of ran] at ended
      cases state : t.next.state with
      | idle => exact goesOn (by rwa [state] at ended)
      | polling attempt => exact goesOn (by rwa [state] at ended)
      | finished outcome' =>
          rw [state] at ended
          obtain ⟨eq, rfl⟩ := Prod.mk.inj ended
          refine ⟨[w], ?_, by simpa [turns] using asked⟩
          rw [← eq, polled, polled, outcome?, show (p.poll w).1 = t.next from rfl, state]

theorem turns_of_run {request : Submission} {w' : World} {outcome : Outcome}
    (ended : p.run request w = (some outcome, w')) :
    let (begun, issued) := p.submit request w
    ∃ ws, (polled begun ws).outcome? = some outcome ∧
      w'.transcript = issued.transcript ++ (turns begun ws).flatMap Turn.exchanges :=
  turns_of_await ended

end Poller

end StoneDebug
