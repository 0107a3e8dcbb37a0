import StoneDebug.Proofs.Adapter.Unwritten

/-! # The messages that are written

What is written at each point is read off the state: first all that happened while calls were running,
then the message itself; and where events are written, those that wait. The numbers go on from message
to message.
-/

namespace StoneDebug.Adapter.Client

def sequenced : Nat → List Message → List (Nat × Message)
  | _, [] => []
  | n, m :: rest => (n, m) :: sequenced (n + 1) rest

theorem sequenced_append (n : Nat) (first second : List Message) :
    sequenced n (first ++ second) = sequenced n first ++ sequenced (n + first.length) second := by
  induction first generalizing n with
  | nil => simp [sequenced]
  | cons m first ih => simp [sequenced, ih, Nat.add_assoc, Nat.add_comm 1]

theorem map_fst_sequenced (n : Nat) (messages : List Message) :
    (sequenced n messages).map Prod.fst = List.range' n messages.length := by
  induction messages generalizing n with
  | nil => rfl
  | cons m messages ih => simp [sequenced, ih, List.range'_succ]

theorem map_snd_sequenced (n : Nat) (messages : List Message) :
    (sequenced n messages).map Prod.snd = messages := by
  induction messages generalizing n with
  | nil => rfl
  | cons m messages ih => simp [sequenced, ih]

/-- What is written of what happened while calls were running, `seconds` after the last progress. -/
def spoken (id : String) : Nat → List Aside → List Message
  | _, [] => []
  | seconds, .progress (.start title) :: rest =>
    .progressStart id title :: spoken id seconds rest
  | seconds, .progress (.update elapsed) :: rest =>
    let now := elapsed / 1000000
    if now = seconds then spoken id seconds rest
    else .progressUpdate id now :: spoken id now rest
  | seconds, .progress .finish :: rest => .progressEnd id :: spoken id seconds rest
  | seconds, .answered request pause accepted :: rest =>
    .response request (if pause then "pause" else "cancel") accepted
      (if accepted then none else some "nothing is running") none :: spoken id seconds rest

/-- The events that are written. Of several ends of the process only the first is, and none when one
was told before. -/
def shown : Bool → List Event → List Event
  | _, [] => []
  | true, .terminated :: rest => shown true rest
  | false, .terminated :: rest => .terminated :: shown true rest
  | told, e :: rest => e :: shown told rest

/-- What is under way in this state. -/
def underway (x : Client × World) : List Message := spoken x.1.progressId x.1.seconds x.2.asides

/-- What the events that wait in this state will be written as. -/
def announcements (x : Client × World) : List Message :=
  (shown x.1.terminated x.2.queue.waiting).map .ofEvent

/-- These messages were written, with the numbers that follow. -/
structure Wrote (messages : List Message) (x y : Client × World) : Prop where
  wire : y.1.wire = x.1.wire ++ sequenced x.1.nextSeq messages
  nextSeq : y.1.nextSeq = x.1.nextSeq + messages.length

theorem Wrote.trans {first second : List Message} {x y z : Client × World} (h : Wrote first x y)
    (h' : Wrote second y z) : Wrote (first ++ second) x z where
  wire := by rw [h'.wire, h.wire, h.nextSeq, sequenced_append, List.append_assoc]
  nextSeq := by rw [h'.nextSeq, h.nextSeq, List.length_append, Nat.add_assoc]

theorem Wrote.ledger {messages : List Message} {x y : Client × World} (h : Wrote messages x y) :
    y.1.ledger = x.1.ledger ++ messages.filterMap Message.mark? := by
  have marks (m : Nat × Message) : m.2.mark? = (Message.mark? ∘ Prod.snd) m := rfl
  rw [Client.ledger, h.wire, List.filterMap_append, Client.ledger]
  simp only [marks]
  rw [← List.filterMap_map, ← List.filterMap_map, map_snd_sequenced]

theorem Unwritten.wrote {x y : Client × World} (h : Unwritten x y) : Wrote [] x y :=
  ⟨by simp [h.wire, sequenced], h.nextSeq⟩

/-! ## Writing messages -/

def sent (c : Client) (message : Message) : Client :=
  { c with wire := c.wire ++ [(c.nextSeq, message)], nextSeq := c.nextSeq + 1 }

theorem wrote_sent (message : Message) (c : Client) (w w' : World) :
    Wrote [message] (c, w) (c.sent message, w') :=
  ⟨rfl, rfl⟩

theorem wrote_sendAsides (asides : List Aside) (c : Client) (w : World) :
    let y := Staged.ends (sendAsides asides) c w
    Wrote (spoken c.progressId c.seconds asides) (c, w) y ∧ y.1.terminated = c.terminated ∧
      y.2 = w := by
  induction asides generalizing c with
  | nil => exact ⟨(lasts_unwritten.refl (c, w)).wrote, rfl, rfl⟩
  | cons a asides ih =>
      have writes (message : Message) (first : sendAside a c w = (((), c.sent message), w)) :
          let y := Staged.ends (sendAsides (a :: asides)) c w
          Wrote (message :: spoken c.progressId c.seconds asides) (c, w) y ∧
            y.1.terminated = c.terminated ∧ y.2 = w := by
        obtain ⟨wrote, told, same⟩ := ih (c.sent message)
        rw [Staged.ends, sendAsides, Staged.bind_of first]
        exact ⟨(wrote_sent message c w w).trans wrote, told, same⟩
      rcases a with ⟨title | elapsed | _⟩ | ⟨request, pause, accepted⟩
      · exact writes _ rfl
      · let now := elapsed / 1000000
        rw [spoken]
        by_cases same : now = c.seconds
        · rw [if_pos same]
          have kept : sendAside (.progress (.update elapsed)) c w = (((), c), w) := by
            rw [sendAside, Staged.get_bind, if_neg (not_not_intro same)]
            rfl
          rw [Staged.ends, sendAsides, Staged.bind_of kept]
          exact ih c
        · rw [if_neg same]
          let c₁ : Client := { c with seconds := now }
          let update : Message := .progressUpdate c.progressId now
          have first : sendAside (.progress (.update elapsed)) c w =
              (((), c₁.sent update), w) := by
            rw [sendAside, Staged.get_bind, if_pos same]
            rfl
          have told : Wrote [update] (c, w) (c₁.sent update, w) := ⟨rfl, rfl⟩
          obtain ⟨wrote, kept⟩ := ih (c₁.sent update)
          rw [Staged.ends, sendAsides, Staged.bind_of first]
          exact ⟨told.trans wrote, kept⟩
      · exact writes _ rfl
      · exact writes _ rfl

theorem wrote_flush (c : Client) (w : World) :
    let y := Staged.ends flush c w
    Wrote (underway (c, w)) (c, w) y ∧ y.1.terminated = c.terminated ∧
      y.2 = { w with asides := [] } := by
  obtain ⟨wrote, told, same⟩ := wrote_sendAsides w.asides c { w with asides := [] }
  exact ⟨⟨wrote.wire, wrote.nextSeq⟩, told, same⟩

theorem wrote_write (message : Message) (c : Client) (w : World) :
    let y := Staged.ends (write message) c w
    Wrote (underway (c, w) ++ [message]) (c, w) y ∧ y.1.terminated = c.terminated ∧
      y.2 = { w with asides := [] } := by
  obtain ⟨wrote, told, same⟩ := wrote_flush c w
  rcases ran : flush c w with ⟨⟨_, c'⟩, w'⟩
  rw [Staged.ends_of ran] at wrote told same
  rw [Staged.ends, write, Staged.bind_of ran]
  exact ⟨wrote.trans (wrote_sent message c' w' w'), told, same⟩

/-! ## Writing events -/

/-- The messages were written, as far as they do not wait for what is under way. -/
structure Delivers (messages : List Message) (x y : Client × World) : Prop where
  world : y.2 = { x.2 with asides := y.2.asides }
  silent : x.2.asides = [] → y.2.asides = []
  out : ∃ out, Wrote out x y ∧ out ++ underway y = underway x ++ messages

theorem Delivers.trans {first second : List Message} {x y z : Client × World}
    (h : Delivers first x y) (h' : Delivers second y z) : Delivers (first ++ second) x z where
  world := by
    have world := h'.world
    rw [h.world] at world
    exact world
  silent := h'.silent ∘ h.silent
  out := by
    obtain ⟨out, wrote, law⟩ := h.out
    obtain ⟨out', wrote', law'⟩ := h'.out
    exact ⟨out ++ out', wrote.trans wrote', by rw [List.append_assoc, law', ← List.append_assoc, law,
      List.append_assoc]⟩

theorem delivers_nil (x : Client × World) : Delivers [] x x where
  world := rfl
  silent := id
  out := ⟨[], (lasts_unwritten.refl x).wrote, by simp⟩

theorem underway_of_silent {x : Client × World} (silent : x.2.asides = []) : underway x = [] := by
  rw [underway, silent]
  rfl

/-- The message goes out after what was under way, and the events still wait. -/
theorem wrote_of_write {message : Message} {c c' : Client} {w w' : World} {u : Unit}
    (ran : write message c w = ((u, c'), w')) :
    Wrote (underway (c, w) ++ [message]) (c, w) (c', w') ∧ w'.asides = [] ∧
      announcements (c', w') = announcements (c, w) := by
  obtain ⟨wrote, told, world⟩ := wrote_write message c w
  rw [Staged.ends_of ran] at wrote told world
  refine ⟨wrote, (congrArg World.asides world :), ?_⟩
  rw [announcements, announcements, told, world]

theorem delivers_of_wrote {messages : List Message} {x y : Client × World}
    (wrote : Wrote (underway x ++ messages) x y) (world : y.2 = { x.2 with asides := [] }) :
    Delivers messages x y where
  world := by rw [world]
  silent _ := by rw [world]
  out := ⟨_, wrote, by simp [underway_of_silent (x := y) (by rw [world])]⟩

theorem Delivers.wrote {messages : List Message} {x y : Client × World}
    (h : Delivers messages x y) (silent : y.2.asides = []) : Wrote (underway x ++ messages) x y := by
  obtain ⟨out, wrote, law⟩ := h.out
  rw [underway_of_silent silent, List.append_nil] at law
  rwa [← law]

/-- An end of the process that was told before is passed over. -/
theorem delivers_writeEvent (e : Event) (c : Client) (w : World) :
    let y := Staged.ends (writeEvent e) c w
    Delivers ((shown c.terminated [e]).map .ofEvent) (c, w) y ∧
      y.1.terminated = (c.terminated || e = .terminated) := by
  have writes (c₁ : Client) (wire : c₁.wire = c.wire) (nextSeq : c₁.nextSeq = c.nextSeq)
      (same : underway (c₁, w) = underway (c, w)) :
      Delivers [.ofEvent e] (c, w) (Staged.ends (write (.ofEvent e)) c₁ w) := by
    obtain ⟨wrote, _, world⟩ := wrote_write (.ofEvent e) c₁ w
    rw [same] at wrote
    refine delivers_of_wrote ⟨?_, ?_⟩ world
    · rw [wrote.wire, wire, nextSeq]
    · rw [wrote.nextSeq, nextSeq]
  obtain ⟨_, told, _⟩ := wrote_write (.ofEvent e) c w
  cases e with
  | stopped | output | breakpointChanged =>
      refine ⟨?_, told.trans (by simp)⟩
      cases c.terminated <;> exact writes c rfl rfl rfl
  | terminated =>
      cases before : c.terminated with
      | true =>
          have kept : writeEvent .terminated c w = (((), c), w) := by
            rw [writeEvent, Staged.get_bind, before]
            rfl
          rw [Staged.ends_of kept]
          exact ⟨delivers_nil (c, w), before⟩
      | false =>
          let c₁ : Client := { c with terminated := true }
          have first : writeEvent .terminated c w = write (.ofEvent .terminated) c₁ w := by
            rw [writeEvent, Staged.get_bind, before]
            rfl
          obtain ⟨_, told, _⟩ := wrote_write (.ofEvent .terminated) c₁ w
          rw [Staged.ends, first]
          exact ⟨writes c₁ rfl rfl rfl, told⟩

theorem shown_cons (told : Bool) (e : Event) (events : List Event) :
    shown told (e :: events) = shown told [e] ++ shown (told || e = .terminated) events := by
  cases told <;> cases e <;> simp [shown]

theorem delivers_writeEvents (events : List Event) (c : Client) (w : World) :
    Delivers ((shown c.terminated events).map .ofEvent) (c, w)
      (Staged.ends (writeEvents events) c w) := by
  induction events generalizing c w with
  | nil => cases c.terminated <;> exact delivers_nil (c, w)
  | cons e events ih =>
      obtain ⟨first, told⟩ := delivers_writeEvent e c w
      rcases ran : writeEvent e c w with ⟨⟨_, c'⟩, w'⟩
      rw [Staged.ends_of ran] at first told
      rw [Staged.ends, writeEvents, Staged.bind_of ran, shown_cons, List.map_append, ← told]
      exact first.trans (ih c' w')

def taken (x : Client × World) : Client × World :=
  (x.1, { x.2 with queue := x.2.queue.take.2 })

theorem delivers_drainEvents (c : Client) (w : World) :
    Delivers (announcements (c, w)) (taken (c, w)) (Staged.ends drainEvents c w) :=
  delivers_writeEvents w.queue.waiting c { w with queue := w.queue.take.2 }

def Settles (x : Client × World) : Prop := x.2.queue.waiting = [] ∧ x.2.asides = []

theorem Wrote.of_taken {messages : List Message} {x y : Client × World}
    (h : Wrote messages (taken x) y) : Wrote messages x y :=
  ⟨h.wire, h.nextSeq⟩

/-- Where nothing is under way the events are written and nothing else. -/
theorem wrote_drainEvents {c : Client} {w : World} (silent : w.asides = []) :
    let y := Staged.ends drainEvents c w
    Wrote (announcements (c, w)) (c, w) y ∧ Settles y := by
  have delivers := delivers_drainEvents c w
  have quiet := delivers.silent silent
  have wrote := delivers.wrote quiet
  rw [underway_of_silent (x := taken (c, w)) silent] at wrote
  exact ⟨wrote.of_taken, by rw [delivers.world]; rfl, quiet⟩

/-- What follows a request that has come to its end. -/
theorem wrote_closing (c : Client) (w : World) :
    let y := Staged.ends (do drainEvents; flush) c w
    Wrote (underway (c, w) ++ announcements (c, w)) (c, w) y ∧ Settles y := by
  intro y
  have delivers := delivers_drainEvents c w
  rcases drained : drainEvents c w with ⟨⟨_, c'⟩, w'⟩
  rw [Staged.ends_of drained] at delivers
  obtain ⟨wrote, _, world⟩ := wrote_flush c' w'
  have flushes : Delivers [] (c', w') (Staged.ends flush c' w') :=
    delivers_of_wrote (by simpa using wrote) world
  have same : y = Staged.ends flush c' w' := by
    show Staged.ends _ c w = _
    rw [Staged.ends, Staged.bind_of drained]
  have silent : y.2.asides = [] := by rw [same, world]
  have all := (delivers.trans flushes).wrote (by rw [← same]; exact silent)
  rw [← same, List.append_nil] at all
  refine ⟨all.of_taken, ?_, silent⟩
  rw [same, world]
  show w'.queue.waiting = []
  rw [show w' = _ from delivers.world]
  rfl

end StoneDebug.Adapter.Client
