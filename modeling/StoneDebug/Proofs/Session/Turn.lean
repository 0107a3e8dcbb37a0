import StoneDebug.Proofs.Session.Polling

/-! # One poll

What one poll asks of the VM and shows of the call. `Turn.way` opens it into the four things that it
can do, from which `Turn.tame_of_polling` reads off how breaks, fetched results and progress change.
-/

namespace StoneDebug

/-! ## Traces -/

def Aside.progress? : Aside → Option Progress
  | .progress p => some p
  | .answered .. => none

/-- From one world to the other these exchanges were made and this progress was shown. -/
structure Leaves (xs : List Exchange) (shown : List Progress) (w w' : World) : Prop where
  transcript : w'.transcript = w.transcript ++ xs
  asides : ∃ added, w'.asides = w.asides ++ added ∧ added.filterMap Aside.progress? = shown

namespace Leaves

variable {xs ys : List Exchange} {shown more : List Progress} {w w₁ w' : World}

theorem of_eq (transcript : w'.transcript = w.transcript) (asides : w'.asides = w.asides) :
    Leaves [] [] w w' :=
  ⟨by simpa using transcript, [], by simpa using asides, rfl⟩

theorem refl (w : World) : Leaves [] [] w w := of_eq rfl rfl

theorem trans (first : Leaves xs shown w w₁) (second : Leaves ys more w₁ w') :
    Leaves (xs ++ ys) (shown ++ more) w w' := by
  obtain ⟨asked, added, eq, rfl⟩ := first
  obtain ⟨asked', added', eq', rfl⟩ := second
  refine ⟨?_, added ++ added', ?_, List.filterMap_append⟩
  · rw [asked', asked, List.append_assoc]
  · rw [eq', eq, List.append_assoc]

end Leaves

theorem leaves_ask {handle : Option Handle} {call : Call} {reply : call.Reply} {w w' : World}
    (asked : ask handle call w = (reply, w')) : Leaves [⟨handle, call, reply⟩] [] w w' := by
  cases asked
  exact ⟨rfl, [], (List.append_nil _).symm, rfl⟩

theorem leaves_addAside (p : Progress) (w : World) :
    Leaves [] [p] w (addAside (.progress p) w).2 :=
  ⟨(List.append_nil _).symm, [.progress p], rfl, rfl⟩

theorem leaves_interject (i : Interjection) (w : World) : Leaves [] [] w (interject i w).2 := by
  cases i with
  | cancel => exact .of_eq rfl rfl
  | request seq pause =>
      have answered (accepted : Bool) (w w' : World) (asked : w'.transcript = w.transcript)
          (asides : w'.asides = w.asides ++ [.answered seq pause accepted]) : Leaves [] [] w w' :=
        ⟨by simpa using asked, _, asides, rfl⟩
      show Leaves [] [] w ((if w.running then _ else _ : Act Unit) w).2
      split
      · exact answered true _ _ rfl rfl
      · exact answered (!pause) _ _ rfl rfl

theorem leaves_interjectAll (is : List Interjection) (w : World) :
    Leaves [] [] w (interjectAll is w).2 := by
  induction is generalizing w with
  | nil => exact .refl w
  | cons i is ih => exact (leaves_interject i w).trans (ih _)

namespace Exchange

/-- A poll that has found the call ready. -/
def foundReady : Exchange → Bool
  | ⟨_, .nbPoll _, reply⟩ => match reply.status with
    | .ok .ready => true
    | _ => false
  | _ => false

def Breaks (hard : Bool) (x : Exchange) : Prop := x.call = .interrupt hard

def Fetches (x : Exchange) : Prop := x.call = .nbResult

instance (hard : Bool) (x : Exchange) : Decidable (x.Breaks hard) :=
  inferInstanceAs (Decidable (x.call = .interrupt hard))

instance (x : Exchange) : Decidable x.Fetches := inferInstanceAs (Decidable (x.call = .nbResult))

/-- The result is fetched right after a poll that has found the call ready, and at no other time.
`ready` says whether the exchange before was such a poll. -/
def FetchedWhenReady : (ready : Bool) → List Exchange → Prop
  | ready, [] => ready = false
  | ready, x :: xs => (x.Fetches ↔ ready = true) ∧ FetchedWhenReady x.foundReady xs

/-- The exchanges up to the first hard break. -/
def upToHard : List Exchange → List Exchange
  | [] => []
  | x :: xs => if x.Breaks true then [x] else x :: upToHard xs

theorem upToHard_eq_self {xs : List Exchange} (none : ∀ x ∈ xs, ¬x.Breaks true) :
    upToHard xs = xs := by
  induction xs with
  | nil => rfl
  | cons x xs ih =>
      obtain ⟨first, others⟩ := List.forall_mem_cons.mp none
      rw [upToHard, if_neg first, ih others]

section

variable {x : Exchange}

theorem not_fetches_of_breaks {hard : Bool} (breaks : x.Breaks hard) : ¬x.Fetches := by
  rw [Fetches, show x.call = .interrupt hard from breaks]
  nofun

theorem not_fetches_of_polls {timeout : Int} (polls : x.call = .nbPoll timeout) : ¬x.Fetches := by
  rw [Fetches, polls]
  nofun

theorem not_breaks_of_polls {timeout : Int} (polls : x.call = .nbPoll timeout) (hard : Bool) :
    ¬x.Breaks hard := by
  rw [Breaks, polls]
  nofun

theorem not_breaks_of_fetches (fetches : x.Fetches) (hard : Bool) : ¬x.Breaks hard := by
  rw [Breaks, show x.call = .nbResult from fetches]
  nofun

theorem foundReady_of_breaks {hard : Bool} (breaks : x.Breaks hard) : x.foundReady = false := by
  obtain ⟨handle, call, reply⟩ := x
  obtain rfl : call = .interrupt hard := breaks
  rfl

theorem fetchedWhenReady_append (sent : List Exchange) {xs : List Exchange} {hard : Bool}
    (breaks : ∀ x ∈ sent, x.Breaks hard) (fetched : FetchedWhenReady false xs) :
    FetchedWhenReady false (sent ++ xs) := by
  induction sent with
  | nil => exact fetched
  | cons x sent ih =>
      obtain ⟨first, others⟩ := List.forall_mem_cons.mp breaks
      refine ⟨by simpa using not_fetches_of_breaks first, ?_⟩
      rw [foundReady_of_breaks first]
      exact ih others

theorem foundReady_of_fetches (fetches : x.Fetches) : x.foundReady = false := by
  obtain ⟨handle, call, reply⟩ := x
  obtain rfl : call = .nbResult := fetches
  rfl

end

end Exchange

namespace Poller

/-! ## Progress

Progress is shown from some moment on until the call is over.
-/

def outcome? (p : Poller) : Option Outcome :=
  match p.state with
  | .finished outcome => some outcome
  | _ => none

/-- What has been shown of the call: nothing, or its start, updates, and its end when it is over. -/
def Displays (p : Poller) (shown : List Progress) : Prop :=
  if p.shown then
    ∃ updates, (∀ u ∈ updates, ∃ elapsed, u = .update elapsed) ∧
      shown = .start p.title :: updates ++ (if p.outcome?.isSome then [.finish] else [])
  else shown = []

theorem displays_of_hidden {p : Poller} {shown : List Progress} (hidden : ¬p.shown = true) :
    p.Displays shown ↔ shown = [] := by
  simp [Displays, hidden]

theorem displays_of_shown {p : Poller} {shown : List Progress} (visible : p.shown = true) :
    p.Displays shown ↔ ∃ updates, (∀ u ∈ updates, ∃ elapsed, u = .update elapsed) ∧
      shown = .start p.title :: updates ++ (if p.outcome?.isSome then [.finish] else []) := by
  simp [Displays, visible]

/-- The exchanges were made on the way from one poller to the other, and what is shown of the call
has kept up with it. -/
def Goes (xs : List Exchange) (x y : Poller × World) : Prop :=
  ∃ shown, Leaves xs shown x.2 y.2 ∧
    ∀ before, x.1.Displays before → y.1.Displays (before ++ shown)

namespace Goes

variable {xs ys : List Exchange} {x y z : Poller × World}

theorem trans (first : Goes xs x y) (second : Goes ys y z) : Goes (xs ++ ys) x z := by
  obtain ⟨shown, left, keeps⟩ := first
  obtain ⟨shown', left', keeps'⟩ := second
  refine ⟨shown ++ shown', left.trans left', fun before displays => ?_⟩
  rw [← List.append_assoc]
  exact keeps' _ (keeps before displays)

theorem congr (goes : Goes xs x y) (eq : xs = ys) : Goes ys x y := eq ▸ goes

/-- Nothing is shown, and nothing has to be. -/
theorem of_leaves {p p' : Poller} {w w' : World} (left : Leaves xs [] w w')
    (title : p'.title = p.title) (shown : p'.shown = p.shown)
    (ended : p'.outcome?.isSome = p.outcome?.isSome) : Goes xs (p, w) (p', w') := by
  refine ⟨[], left, fun before displays => ?_⟩
  rw [List.append_nil]
  simpa only [Displays, title, shown, ended] using displays

end Goes

variable {p : Poller} {w : World}

theorem finish_apply (p : Poller) (outcome : Outcome) (w : World) :
    p.finish outcome w = ({ p with state := .finished outcome },
      if p.shown then (addAside (.progress .finish) w).2 else w) := by
  unfold finish
  split <;> rfl

theorem goes_finish {attempt : Nat} (polling : p.state = .polling attempt) (outcome : Outcome)
    (w : World) : Goes [] (p, w) (p.finish outcome w) := by
  let p' := { p with state := .finished outcome }
  rw [finish_apply]
  by_cases visible : p.shown = true
  · rw [if_pos visible]
    refine ⟨[.finish], leaves_addAside .finish w, fun before displays => ?_⟩
    obtain ⟨updates, each, rfl⟩ := (displays_of_shown visible).mp displays
    refine (displays_of_shown (p := p') visible).mpr ⟨updates, each, ?_⟩
    simp [outcome?, polling, p']
  · rw [if_neg visible]
    refine ⟨[], .refl w, fun before displays => ?_⟩
    obtain rfl := (displays_of_hidden visible).mp displays
    exact (displays_of_hidden (p := p') visible).mpr rfl

theorem showProgress_of_shown (visible : p.shown = true) (elapsed : Nat) (w : World) :
    p.showProgress elapsed w = (p, (addAside (.progress (.update elapsed)) w).2) := by
  obtain ⟨session, config, state, title, started, interrupts, shown⟩ := p
  obtain rfl : shown = true := visible
  rfl

theorem showProgress_of_late (hidden : ¬p.shown = true) {elapsed : Nat}
    (late : p.config.progressAfterMs * 1000 ≤ elapsed) (w : World) :
    p.showProgress elapsed w = ({ p with shown := true },
      (addAside (.progress (.update elapsed)) (addAside (.progress (.start p.title)) w).2).2) := by
  dsimp only [showProgress]
  rw [decide_eq_true late, eq_false_of_ne_true hidden]
  rfl

theorem showProgress_of_early (hidden : ¬p.shown = true) {elapsed : Nat}
    (early : ¬p.config.progressAfterMs * 1000 ≤ elapsed) (w : World) :
    p.showProgress elapsed w = (p, w) := by
  obtain ⟨session, config, state, title, started, interrupts, shown⟩ := p
  obtain rfl : shown = false := eq_false_of_ne_true hidden
  dsimp only [showProgress]
  rw [decide_eq_false early]
  rfl

theorem showProgress_apply {attempt : Nat} (polling : p.state = .polling attempt) (elapsed : Nat)
    (w : World) : ∃ shown w', p.showProgress elapsed w = ({ p with shown }, w') ∧
      Goes [] (p, w) ({ p with shown }, w') := by
  by_cases visible : p.shown = true
  · refine ⟨p.shown, _, showProgress_of_shown visible elapsed w, _,
      leaves_addAside (.update elapsed) w, fun before displays => ?_⟩
    obtain ⟨updates, each, rfl⟩ := (displays_of_shown visible).mp displays
    refine (displays_of_shown visible).mpr ⟨updates ++ [.update elapsed], ?_, ?_⟩
    · exact List.forall_mem_append.mpr ⟨each, by simp⟩
    · simp [outcome?, polling]
  · by_cases late : p.config.progressAfterMs * 1000 ≤ elapsed
    · have left := (leaves_addAside (.start p.title) w).trans (leaves_addAside (.update elapsed) _)
      refine ⟨true, _, showProgress_of_late visible late w, _, left, fun before displays => ?_⟩
      obtain rfl := (displays_of_hidden visible).mp displays
      refine (displays_of_shown (p := { p with shown := true }) rfl).mpr
        ⟨[.update elapsed], by simp, by simp [outcome?, polling]⟩
    · refine ⟨p.shown, w, showProgress_of_early visible late w, [], .refl w, ?_⟩
      exact fun before displays => by simpa using displays

theorem interrupt_apply (p : Poller) (hard : Bool) (w : World) :
    ∃ x w', p.interrupt hard w = ({ p with interrupts := p.interrupts + 1 }, w') ∧
      x.Breaks hard ∧ Leaves [x] [] w w' := by
  let kind := if hard then "hard" else "soft"
  rcases told : logRecord .info "gci" s!"session {p.session.id}: {kind} break requested" w with
    ⟨_, w₁⟩
  have quiet : Leaves [] [] w w₁ := by cases told; exact .of_eq rfl rfl
  rcases asked : p.session.call (.interrupt hard) w₁ with ⟨reply, w₂⟩
  have left := quiet.trans (leaves_ask asked)
  dsimp only [interrupt]
  rw [act_bind_of told, act_bind_of asked]
  cases reply with
  | ok _ => exact ⟨⟨_, _, _⟩, _, rfl, rfl, left⟩
  | error e => exact ⟨⟨_, _, _⟩, _, rfl, rfl, left.trans (.of_eq rfl rfl)⟩

/-! ## Looking for the result -/

theorem poll_leaves (s : Session) (w : World) :
    ∃ x status w', s.poll 0 w = (status, w') ∧ Leaves [x] [] w w' ∧ x.call = .nbPoll 0 ∧
      (x.foundReady = true ↔ status = .ok .ready) := by
  rcases asked : s.call (.nbPoll 0) w with ⟨reply, w₁⟩
  let w₂ := { w₁ with clock := w₁.clock + 1 + reply.took }
  have later : Leaves [] [] w₁ w₂ := .of_eq rfl rfl
  have ticked := (leaves_ask asked).trans later
  have opened : s.poll 0 w = (reply.status, (interjectAll reply.meanwhile w₂).2) := by
    cases asked
    rfl
  refine ⟨_, _, _, opened, ticked.trans (leaves_interjectAll _ _), rfl, ?_⟩
  simp only [Exchange.foundReady]
  split <;> simp_all

/-- What a look makes of the call: it goes on, or it ends with what was fetched or went wrong. -/
inductive Seen : List Exchange → PollState → Prop where
  | unready {x : Exchange} {attempt : Nat} (polled : x.call = .nbPoll 0)
    (unready : x.foundReady = false) : Seen [x] (.polling attempt)
  | refused {x : Exchange} {e : CallError} (polled : x.call = .nbPoll 0)
    (unready : x.foundReady = false) : Seen [x] (.finished (.failed e))
  | fetched {x y : Exchange} {outcome : Outcome} (polled : x.call = .nbPoll 0)
    (ready : x.foundReady = true) (fetches : y.Fetches)
    (ended : ∀ drained, outcome ≠ .cancelled drained) : Seen [x, y] (.finished outcome)

theorem look_apply {attempt : Nat} (polling : p.state = .polling attempt) (elapsed : Nat)
    (w : World) :
    ∃ xs p' w', p.look attempt elapsed w = (p', w') ∧ Goes xs (p, w) (p', w') ∧
      Seen xs p'.state ∧ p'.interrupts = p.interrupts := by
  obtain ⟨shown, w₁, showed, goes⟩ := showProgress_apply polling elapsed w
  obtain ⟨x, status, w₂, polled, left, call, ready⟩ := poll_leaves p.session w₁
  have looked : Goes [x] (p, w) ({ p with shown }, w₂) :=
    goes.trans (.of_leaves left rfl rfl rfl)
  -- The way on from the poll, which ends the call.
  have ends {ys : List Exchange} {w₃ : World} (outcome : Outcome) (left : Leaves ys [] w₂ w₃)
      (seen : Seen (x :: ys) (.finished outcome)) :
      ∃ xs p' w', finish { p with shown } outcome w₃ = (p', w') ∧ Goes xs (p, w) (p', w') ∧
        Seen xs p'.state ∧ p'.interrupts = p.interrupts := by
    have goes := (looked.trans (.of_leaves left rfl rfl rfl)).trans
      (goes_finish (p := { p with shown }) polling outcome w₃)
    rw [finish_apply] at goes ⊢
    exact ⟨_, _, _, rfl, goes, by simpa using seen, rfl⟩
  rw [look, act_bind_of showed, act_bind_of polled]
  match status with
  | .error e =>
      exact ends (.failed e) (.refl _) (.refused call (by simpa using ready))
  | .ok .notReady =>
      exact ⟨_, _, _, rfl, looked.trans (.of_leaves (.refl _) rfl rfl (by simp [outcome?, polling])),
        .unready call (by simpa using ready), rfl⟩
  | .ok .ready =>
      rcases asked : p.session.call .nbResult w₂ with ⟨result, w₃⟩
      have fetched := leaves_ask asked
      dsimp only
      rw [act_bind_of asked]
      cases result with
      | ok result => exact ends (.ready result) fetched (.fetched call (ready.mpr rfl) rfl nofun)
      | error e => exact ends (.failed e) fetched (.fetched call (ready.mpr rfl) rfl nofun)

/-! ## Draining -/

/-- Between the two worlds no break was sent and no progress was shown. -/
def Unbroken (w w' : World) : Prop :=
  ∃ xs, Leaves xs [] w w' ∧ ∀ x ∈ xs, ∀ hard, ¬x.Breaks hard

theorem drains_unbroken (s : Session) : s.Drains Unbroken where
  refl w := ⟨[], .refl w, by simp⟩
  trans := by
    rintro w w₁ w₂ ⟨xs, left, none⟩ ⟨ys, left', none'⟩
    exact ⟨xs ++ ys, left.trans left', List.forall_mem_append.mpr ⟨none, none'⟩⟩
  call c drains w := by
    refine ⟨_, leaves_ask rfl, ?_⟩
    rintro x member hard breaks
    obtain rfl := List.mem_singleton.mp member
    obtain rfl : c = .interrupt hard := breaks
    cases drains
  log _ _ _ _ := ⟨[], .of_eq rfl rfl, by simp⟩
  tick _ _ := ⟨[], .of_eq rfl rfl, by simp⟩
  interject i w := ⟨[], leaves_interject i w, by simp⟩

theorem drain_unbroken (p : Poller) : Along Unbroken p.drain :=
  fun w => (drains_unbroken p.session).drainUntil _ _ _ w

/-! ## Turns -/

structure Turn where
  poller : Poller
  found : World

namespace Turn

def next (t : Turn) : Poller := (t.poller.poll t.found).1

def left (t : Turn) : World := (t.poller.poll t.found).2

def exchanges (t : Turn) : List Exchange := t.left.transcript.drop t.found.transcript.length

def shown (t : Turn) : List Progress :=
  (t.left.asides.drop t.found.asides.length).filterMap Aside.progress?

/-- The exchanges outside of draining, which is what follows a hard break. -/
def undrained (t : Turn) : List Exchange := Exchange.upToHard t.exchanges

def Breaks (hard : Bool) (t : Turn) : Prop := ∃ x ∈ t.exchanges, x.Breaks hard

variable {t : Turn} {xs : List Exchange}

theorem exchanges_of_leaves {shown : List Progress} (left : Leaves xs shown t.found t.left) :
    t.exchanges = xs := by
  rw [exchanges, left.transcript, List.drop_left]

theorem shown_of_leaves {shown : List Progress} (left : Leaves xs shown t.found t.left) :
    t.shown = shown := by
  obtain ⟨added, eq, rfl⟩ := left.asides
  rw [Turn.shown, eq, List.drop_left]

theorem goes_of_poll {y : Poller × World} (ran : t.poller.poll t.found = y)
    (goes : Goes xs (t.poller, t.found) y) :
    t.exchanges = xs ∧ Goes t.exchanges (t.poller, t.found) (t.next, t.left) := by
  subst ran
  obtain ⟨shown, left, keeps⟩ := goes
  have eq := exchanges_of_leaves left
  exact ⟨eq, shown, eq ▸ left, keeps⟩

theorem displays_next (goes : Goes xs (t.poller, t.found) (t.next, t.left))
    {before : List Progress} (displays : t.poller.Displays before) :
    t.next.Displays (before ++ t.shown) := by
  obtain ⟨shown, left, keeps⟩ := goes
  rw [shown_of_leaves left]
  exact keeps before displays

inductive Way (t : Turn) : Prop where
  /-- There is no call to poll for. -/
  | rests (resting : ∀ attempt, t.poller.state ≠ .polling attempt)
    (same : t.poller.poll t.found = (t.poller, t.found))
  /-- No request to end the call is left to be passed on. -/
  | looks {attempt : Nat} (polling : t.poller.state = .polling attempt)
    (goes : Goes t.exchanges (t.poller, t.found) (t.next, t.left))
    (seen : Seen t.exchanges t.next.state) (interrupts : t.next.interrupts = t.poller.interrupts)
  /-- The first request is passed on, before looking. -/
  | softens {attempt : Nat} {x : Exchange} {seen : List Exchange}
    (polling : t.poller.state = .polling attempt) (first : t.poller.interrupts = 0)
    (eq : t.exchanges = x :: seen) (soft : x.Breaks false)
    (goes : Goes t.exchanges (t.poller, t.found) (t.next, t.left))
    (seen : Seen seen t.next.state) (interrupts : t.next.interrupts = 1)
  /-- Another request has come, and the call is given up. -/
  | givesUp {attempt : Nat} {x : Exchange} {drained : List Exchange} {w : World}
    (polling : t.poller.state = .polling attempt) (again : 0 < t.poller.interrupts)
    (requested : t.poller.interrupts < t.found.token.requests)
    (eq : t.exchanges = x :: drained) (hard : x.Breaks true)
    (goes : Goes t.exchanges (t.poller, t.found) (t.next, t.left))
    (broken : w.transcript = t.found.transcript ++ [x])
    (drains : (t.poller.drain w).2.transcript = w.transcript ++ drained)
    (unbroken : ∀ y ∈ drained, ∀ hard, ¬y.Breaks hard)
    (cancelled : ∃ emptied, t.next.state = .finished (.cancelled emptied))

end Turn

theorem poll_of_polling {attempt : Nat} (polling : p.state = .polling attempt) (w : World) :
    p.poll w = (
      if p.interrupts < w.token.requests then
        if p.interrupts = 0 then do
          let softened ← p.interrupt false
          softened.look attempt (w.clock - p.started)
        else do
          let broken ← p.interrupt true
          let drained ← broken.drain
          broken.finish (.cancelled drained)
      else p.look attempt (w.clock - p.started) : Act Poller) w := by
  have read : (get : Act World) w = (w, w) := rfl
  unfold poll
  rw [polling]
  exact act_bind_of read

theorem poll_of_resting (resting : ∀ attempt, p.state ≠ .polling attempt) (w : World) :
    p.poll w = (p, w) := by
  unfold poll
  cases state : p.state with
  | polling attempt => exact absurd state (resting attempt)
  | idle => rfl
  | finished outcome => rfl

theorem Turn.way (t : Turn) : t.Way := by
  obtain ⟨p, w⟩ := t
  cases polling : p.state with
  | idle => exact .rests (by simp [polling]) (poll_of_resting (by simp [polling]) w)
  | finished outcome => exact .rests (by simp [polling]) (poll_of_resting (by simp [polling]) w)
  | polling attempt =>
      let t : Turn := ⟨p, w⟩
      have opened := poll_of_polling polling w
      have next {p' : Poller} {w' : World} (ran : p.poll w = (p', w')) : t.next = p' :=
        congrArg Prod.fst ran
      -- A request that was not passed on yet goes first, softly if it is the first one.
      by_cases requested : p.interrupts < w.token.requests
      · rw [if_pos requested] at opened
        by_cases first : p.interrupts = 0
        · rw [if_pos first] at opened
          obtain ⟨x, w₁, broke, soft, left⟩ := interrupt_apply p false w
          obtain ⟨seen, p', w', looked, goes, saw, interrupts⟩ := look_apply
            (p := { p with interrupts := p.interrupts + 1 }) polling (w.clock - p.started) w₁
          have ran : p.poll w = (p', w') := opened.trans ((act_bind_of broke).trans looked)
          obtain ⟨eq, goes⟩ := goes_of_poll (t := t) ran
            ((Goes.of_leaves left rfl rfl rfl).trans goes)
          rw [← next ran] at saw interrupts
          exact .softens polling first eq soft goes saw (interrupts.trans (by simp [first]))
        · rw [if_neg first] at opened
          obtain ⟨x, w₁, broke, hard, left⟩ := interrupt_apply p true w
          obtain ⟨drained, left', unbroken⟩ := drain_unbroken p w₁
          let broken := { p with interrupts := p.interrupts + 1 }
          have drains : broken.drain w₁ = ((p.drain w₁).1, (p.drain w₁).2) := rfl
          have ran : p.poll w = broken.finish (.cancelled (p.drain w₁).1) (p.drain w₁).2 :=
            opened.trans ((act_bind_of broke).trans (act_bind_of drains))
          have goes : Goes (x :: drained) (p, w) (broken, (p.drain w₁).2) :=
            .of_leaves (left.trans left') rfl rfl rfl
          obtain ⟨eq, goes⟩ := goes_of_poll (t := t) ran
            ((goes.trans (goes_finish (p := broken) polling _ _)).congr (List.append_nil _))
          rw [finish_apply] at ran
          refine .givesUp polling (Nat.pos_of_ne_zero first) requested eq hard goes left.transcript
            left'.transcript unbroken ⟨(p.drain w₁).1, ?_⟩
          rw [next ran]
      · rw [if_neg requested] at opened
        obtain ⟨seen, p', w', looked, goes, saw, interrupts⟩ :=
          look_apply polling (w.clock - p.started) w
        have ran : p.poll w = (p', w') := opened.trans looked
        obtain ⟨eq, goes⟩ := goes_of_poll (t := t) ran goes
        rw [← next ran] at interrupts saw
        exact .looks polling goes (eq ▸ saw) interrupts

theorem Turn.transcript_left (t : Turn) :
    t.left.transcript = t.found.transcript ++ t.exchanges := by
  have of_goes (goes : Goes t.exchanges (t.poller, t.found) (t.next, t.left)) :
      t.left.transcript = t.found.transcript ++ t.exchanges :=
    let ⟨_, left, _⟩ := goes
    left.transcript
  cases t.way with
  | rests resting same =>
      have left : t.left = t.found := congrArg Prod.snd same
      rw [Turn.exchanges, left, List.drop_length, List.append_nil]
  | looks _ goes => exact of_goes goes
  | softens _ _ _ _ goes => exact of_goes goes
  | givesUp _ _ _ _ _ goes => exact of_goes goes

/-! ## What a poll adds to a run -/

namespace Seen

variable {xs : List Exchange} {state : PollState}

theorem unbroken (seen : Seen xs state) : ∀ x ∈ xs, ∀ hard, ¬x.Breaks hard := by
  cases seen with
  | unready polled | refused polled =>
      exact List.forall_mem_singleton.mpr (Exchange.not_breaks_of_polls polled)
  | fetched polled ready fetches =>
      refine List.forall_mem_cons.mpr ⟨Exchange.not_breaks_of_polls polled, ?_⟩
      exact List.forall_mem_singleton.mpr (Exchange.not_breaks_of_fetches fetches)

theorem fetchedWhenReady (seen : Seen xs state) : Exchange.FetchedWhenReady false xs := by
  cases seen with
  | unready polled unready | refused polled unready =>
      exact ⟨by simpa using Exchange.not_fetches_of_polls polled, unready⟩
  | fetched polled ready fetches =>
      exact ⟨by simpa using Exchange.not_fetches_of_polls polled, by simp [fetches, ready],
        Exchange.foundReady_of_fetches fetches⟩

theorem fetches_le (seen : Seen xs state) : xs.countP Exchange.Fetches ≤ 1 := by
  cases seen with
  | unready polled | refused polled => simp [Exchange.not_fetches_of_polls polled]
  | fetched polled ready fetches => simp [Exchange.not_fetches_of_polls polled, fetches]

theorem not_fetches {attempt : Nat} (seen : Seen xs (.polling attempt)) :
    xs.countP Exchange.Fetches = 0 := by
  cases seen with
  | unready polled => simp [Exchange.not_fetches_of_polls polled]

theorem not_cancelled {p : Poller} (seen : Seen xs p.state) (drained : Bool) :
    p.outcome? ≠ some (.cancelled drained) := by
  unfold outcome?
  cases h : p.state with
  | idle => simp
  | polling attempt => simp
  | finished outcome =>
      rw [h] at seen
      cases seen with
      | refused => simp
      | fetched polled ready fetches ended => simpa using ended drained

theorem begun {p : Poller} (seen : Seen xs p.state) : p.state ≠ .idle := by
  intro idle
  rw [idle] at seen
  cases seen

end Seen

namespace Turn

def breaks (hard : Bool) (t : Turn) : Nat := t.exchanges.countP fun x => x.Breaks hard

/-- How many results the poll fetches outside of draining. -/
def fetches (t : Turn) : Nat := t.undrained.countP Exchange.Fetches

theorem breaks_pos_iff {hard : Bool} {t : Turn} : 0 < t.breaks hard ↔ t.Breaks hard := by
  simp [breaks, Breaks, List.countP_pos_iff]

/-- What holds of the poll of a call that runs. -/
structure Tame (t : Turn) : Prop where
  soft : t.poller.interrupts ≤ 1 → t.poller.interrupts + t.breaks false ≤ 1
  hard : t.breaks true ≤ 1
  fetches : t.fetches ≤ 1
  /-- While the call runs on, only a soft break can have been sent. -/
  goesOn : ∀ attempt, t.next.state = .polling attempt →
    t.breaks true = 0 ∧ t.fetches = 0 ∧ t.next.interrupts = t.poller.interrupts + t.breaks false
  due : t.Breaks true →
    0 < t.poller.interrupts ∧ t.poller.interrupts < t.found.token.requests
  drains : t.Breaks true → ∃ x drained w, t.exchanges = x :: drained ∧ x.Breaks true ∧
    w.transcript = t.found.transcript ++ [x] ∧
    (t.poller.drain w).2.transcript = w.transcript ++ drained
  cancelled : (∃ drained, t.next.outcome? = some (.cancelled drained)) ↔ t.Breaks true
  fetched : Exchange.FetchedWhenReady false t.undrained
  begun : t.next.state ≠ .idle
  displays : ∀ {before}, t.poller.Displays before → t.next.Displays (before ++ t.shown)

theorem tame_of_seen {t : Turn} (sent : List Exchange) {seen : List Exchange}
    (eq : t.exchanges = sent ++ seen) (soft : ∀ x ∈ sent, x.Breaks false)
    (once : t.poller.interrupts ≤ 1 → t.poller.interrupts + sent.length ≤ 1)
    (saw : Seen seen t.next.state)
    (interrupts : t.next.interrupts = t.poller.interrupts + sent.length)
    (goes : Goes t.exchanges (t.poller, t.found) (t.next, t.left)) : t.Tame := by
  have notHard : ∀ x ∈ t.exchanges, ¬x.Breaks true := by
    rw [eq]
    refine List.forall_mem_append.mpr ⟨fun x member hard => ?_, fun x member => ?_⟩
    · have soft : x.call = .interrupt false := soft x member
      exact Bool.false_ne_true (Call.interrupt.inj (soft.symm.trans hard))
    · exact saw.unbroken x member true
  have calm : ¬t.Breaks true := fun ⟨x, member, hard⟩ => notHard x member hard
  have hardCount : t.breaks true = 0 := by simpa [← breaks_pos_iff] using calm
  have softCount : t.breaks false = sent.length := by
    have all : sent.countP (fun x => x.Breaks false) = sent.length :=
      List.countP_eq_length.mpr fun x member => by simpa using soft x member
    have none : seen.countP (fun x => x.Breaks false) = 0 :=
      List.countP_eq_zero.mpr fun x member => by simpa using saw.unbroken x member false
    rw [breaks, eq, List.countP_append, all, none, Nat.add_zero]
  have same : t.undrained = sent ++ seen := (Exchange.upToHard_eq_self notHard).trans eq
  have fetchCount : t.fetches = seen.countP Exchange.Fetches := by
    have none : sent.countP Exchange.Fetches = 0 := List.countP_eq_zero.mpr fun x member => by
      simpa using Exchange.not_fetches_of_breaks (soft x member)
    rw [fetches, same, List.countP_append, none, Nat.zero_add]
  exact {
    soft := softCount ▸ once
    hard := by omega
    fetches := fetchCount ▸ saw.fetches_le
    goesOn := fun attempt again => by
      refine ⟨hardCount, ?_, softCount ▸ interrupts⟩
      rw [again] at saw
      rw [fetchCount, saw.not_fetches]
    due := fun hard => absurd hard calm
    drains := fun hard => absurd hard calm
    cancelled := ⟨fun ⟨d, h⟩ => absurd h (saw.not_cancelled d), fun hard => absurd hard calm⟩
    fetched := same ▸ Exchange.fetchedWhenReady_append sent soft saw.fetchedWhenReady
    begun := saw.begun
    displays := t.displays_next goes }

theorem tame_of_polling {t : Turn} {attempt : Nat} (polling : t.poller.state = .polling attempt) :
    t.Tame := by
  cases t.way with
  | rests resting => exact absurd polling (resting attempt)
  | looks _ goes seen interrupts =>
      exact tame_of_seen [] rfl (by simp) (by simp) seen interrupts goes
  | @softens _ x _ _ first eq soft goes seen interrupts =>
      exact tame_of_seen [x] eq (by simpa using soft) (by simp [first]) seen
        (by simp [first, interrupts]) goes
  | @givesUp _ x drained w _ again requested eq hard goes broken drains unbroken cancelled =>
      obtain ⟨emptied, cancelled⟩ := cancelled
      have breaksHard : t.Breaks true := ⟨x, by simp [eq], hard⟩
      have none (kind : Bool) : drained.countP (fun x => x.Breaks kind) = 0 :=
        List.countP_eq_zero.mpr fun y member => by simpa using unbroken y member kind
      have notSoft : ¬x.Breaks false := by
        rw [Exchange.Breaks, show x.call = .interrupt true from hard]
        nofun
      have undrained : t.undrained = [x] := by
        rw [Turn.undrained, eq, Exchange.upToHard, if_pos hard]
      exact {
        soft := by simp [breaks, eq, none, notSoft]
        hard := by simp [breaks, eq, none, hard]
        fetches := by simp [fetches, undrained, Exchange.not_fetches_of_breaks hard]
        goesOn := fun attempt again => by simp [cancelled] at again
        due := fun _ => ⟨again, requested⟩
        drains := fun _ => ⟨x, drained, w, eq, hard, broken, drains⟩
        cancelled := ⟨fun _ => breaksHard, fun _ => ⟨emptied, by rw [outcome?, cancelled]⟩⟩
        fetched := undrained ▸ Exchange.fetchedWhenReady_append [x]
          (by simpa using hard) rfl
        begun := by simp [cancelled]
        displays := t.displays_next goes }

end Turn

end Poller

end StoneDebug
