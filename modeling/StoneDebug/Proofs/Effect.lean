import StoneDebug.World

/-! # What an operation does to its state

`Along R act` says that every run of `act` relates the world before it to the world after it by `R`;
`Staged.Along` says the same of an operation that threads a state of its own beside the world. For a
reflexive and transitive relation both are built up along sequencing, whether or not the parts fail,
so a relation has to be checked for the primitive effects only.
-/

namespace StoneDebug

variable {α β ε σ : Type}

/-- Such a relation holds from end to end of a chain of steps. -/
structure Lasts {σ : Type} (R : σ → σ → Prop) : Prop where
  refl : ∀ x, R x x
  trans : ∀ {x y z}, R x y → R y z → R x z

/-! ## Operations on worlds -/

theorem act_bind_apply (act : Act α) (next : α → Act β) (w : World) :
    (act >>= next) w = next (act w).1 (act w).2 := rfl

theorem act_bind_of {act : Act α} {next : α → Act β} {w w' : World} {a : α}
    (h : act w = (a, w')) : (act >>= next) w = next a w' := by
  rw [act_bind_apply, h]

/-- After a failure nothing more is done. -/
theorem attempt_bind_apply (act : ExceptT ε Act α) (next : α → ExceptT ε Act β) (w : World) :
    (act >>= next) w = match act w with
      | (.ok a, w') => next a w'
      | (.error e, w') => (.error e, w') := by
  show (ExceptT.bindCont next (act w).1) (act w).2 = _
  rcases act w with ⟨_ | _, _⟩ <;> rfl

theorem attempt_bind_ok {act : ExceptT ε Act α} {next : α → ExceptT ε Act β} {w w' : World} {a : α}
    (h : act w = (.ok a, w')) : (act >>= next) w = next a w' := by
  rw [attempt_bind_apply, h]

theorem attempt_bind_error {act : ExceptT ε Act α} {next : α → ExceptT ε Act β} {w w' : World}
    {e : ε} (h : act w = (.error e, w')) : (act >>= next) w = (.error e, w') := by
  rw [attempt_bind_apply, h]

/-- What has succeeded as a whole has succeeded step by step. -/
theorem of_attempt_bind_ok {act : ExceptT ε Act α} {next : α → ExceptT ε Act β} {w w' : World}
    {b : β} (ran : (act >>= next) w = (.ok b, w')) :
    ∃ a w₁, act w = (.ok a, w₁) ∧ next a w₁ = (.ok b, w') := by
  rw [attempt_bind_apply] at ran
  rcases first : act w with ⟨e | a, w₁⟩
  · rw [first] at ran
    cases ran
  · rw [first] at ran
    exact ⟨a, w₁, rfl, ran⟩

theorem attempt_lift_of {act : Act α} {w w' : World} {a : α} (h : act w = (a, w')) :
    (liftM act : ExceptT ε Act α) w = (.ok a, w') := by
  show (Except.ok (act w).1, (act w).2) = _
  rw [h]

/-- Every run of `act` ends with a result of this kind. -/
def Yields (P : α → Prop) (act : Act α) : Prop := ∀ w, P (act w).1

namespace Yields

variable {P : α → Prop}

theorem pure {a : α} (h : P a) : Yields P (Pure.pure a) := fun _ => h

theorem bind {act : Act β} {next : β → Act α} (second : ∀ b, Yields P (next b)) :
    Yields P (act >>= next) :=
  fun _ => second _ _

theorem bindOf {Q : β → Prop} {act : Act β} {next : β → Act α} (first : Yields Q act)
    (second : ∀ b, Q b → Yields P (next b)) : Yields P (act >>= next) :=
  fun w => second _ (first w) _

end Yields

/-- Every run of `act` relates the world before to the world after. -/
def Along (R : World → World → Prop) (act : Act α) : Prop := ∀ w, R w (act w).2

namespace Along

variable {R : World → World → Prop}

theorem pure (lasts : Lasts R) (a : α) : Along R (Pure.pure a) := fun w => lasts.refl w

theorem bind (lasts : Lasts R) {act : Act α} {next : α → Act β} (first : Along R act)
    (second : ∀ a, Along R (next a)) : Along R (act >>= next) :=
  fun w => lasts.trans (first w) (second _ _)

/-- The second part is needed for results of the first part only. -/
theorem bindOf (lasts : Lasts R) {P : α → Prop} {act : Act α} {next : α → Act β}
    (results : Yields P act) (first : Along R act) (second : ∀ a, P a → Along R (next a)) :
    Along R (act >>= next) :=
  fun w => lasts.trans (first w) (second _ (results w) _)

theorem attemptPure (lasts : Lasts R) (a : α) : Along R (Pure.pure a : ExceptT ε Act α).run :=
  fun w => lasts.refl w

theorem throw (lasts : Lasts R) (e : ε) : Along R (MonadExcept.throw e : ExceptT ε Act α).run :=
  fun w => lasts.refl w

theorem attemptBind (lasts : Lasts R) {act : ExceptT ε Act α} {next : α → ExceptT ε Act β}
    (first : Along R act.run) (second : ∀ a, Along R (next a).run) :
    Along R (act >>= next).run := by
  intro w
  have step := first w
  show R w ((act >>= next) w).2
  rw [attempt_bind_apply]
  rcases run : act w with ⟨_ | a, w'⟩
  · simpa [ExceptT.run, run] using step
  · exact lasts.trans (by simpa [ExceptT.run, run] using step) (second a w')

/-- An operation that cannot fail, within one that may. -/
theorem lift {act : Act α} (h : Along R act) : Along R (liftM act : ExceptT ε Act α).run :=
  fun w => h w

theorem mk {act : Act (Except ε α)} (h : Along R act) : Along R (ExceptT.mk act).run := h

end Along

/-- Between the two worlds only such exchanges were made. -/
def Adds (P : Exchange → Prop) (w w' : World) : Prop :=
  ∃ added, w'.transcript = w.transcript ++ added ∧ ∀ x ∈ added, P x

theorem lasts_adds (P : Exchange → Prop) : Lasts (Adds P) where
  refl w := ⟨[], by simp⟩
  trans := by
    rintro w w₁ w₂ ⟨first, eq, made⟩ ⟨second, eq', made'⟩
    exact ⟨first ++ second, by rw [eq', eq, List.append_assoc],
      List.forall_mem_append.mpr ⟨made, made'⟩⟩

theorem Adds.mono {P Q : Exchange → Prop} {w w' : World} (weaken : ∀ x, P x → Q x)
    (h : Adds P w w') : Adds Q w w' :=
  let ⟨added, eq, made⟩ := h
  ⟨added, eq, fun x member => weaken x (made x member)⟩

theorem Adds.of_transcript_eq {P : Exchange → Prop} {w w' : World}
    (same : w'.transcript = w.transcript) : Adds P w w' :=
  ⟨[], by simpa using same⟩

theorem Adds.ask {P : Exchange → Prop} {handle : Option Handle} {call : Call}
    (made : ∀ reply, P ⟨handle, call, reply⟩) : Along (Adds P) (ask handle call) :=
  fun w => ⟨[⟨handle, call, w.vm w.transcript handle call⟩], rfl, by simpa using made _⟩

/-- The world after these exchanges, if nothing else has changed. -/
def World.noting (w : World) (xs : List Exchange) : World :=
  { w with transcript := w.transcript ++ xs }

theorem World.noting_nil (w : World) : w.noting [] = w := by
  rw [noting, List.append_nil]

theorem World.noting_noting (w : World) (xs ys : List Exchange) :
    (w.noting xs).noting ys = w.noting (xs ++ ys) := by
  simp only [noting, List.append_assoc]

theorem Along.warnOn {R : World → World → Prop} (lasts : Lasts R)
    (log : ∀ severity target text, Along R (logRecord severity target text)) (what : String)
    (text : ε → String) (result : Except ε α) : Along R (warnOn what text result) := by
  cases result with
  | ok a => exact .pure lasts _
  | error e => exact .bind lasts (log _ _ _) fun _ => .pure lasts _

theorem Along.interjectAll {R : World → World → Prop} (lasts : Lasts R)
    (each : ∀ i, Along R (interject i)) (is : List Interjection) : Along R (interjectAll is) := by
  induction is with
  | nil => exact .pure lasts _
  | cons i is ih => exact .bind lasts (each i) fun _ => ih

/-- Between the two worlds nothing was asked of the VM and no session changed. -/
structure Quiet (w w' : World) : Prop where
  vm : w'.vm = w.vm
  transcript : w'.transcript = w.transcript
  live : w'.live = w.live
  nextId : w'.nextId = w.nextId
  helperClass : w'.helperClass = w.helperClass
  callState : w'.callState = w.callState

theorem lasts_quiet : Lasts Quiet where
  refl _ := ⟨rfl, rfl, rfl, rfl, rfl, rfl⟩
  trans h h' := ⟨h'.vm.trans h.vm, h'.transcript.trans h.transcript, h'.live.trans h.live,
    h'.nextId.trans h.nextId, h'.helperClass.trans h.helperClass, h'.callState.trans h.callState⟩

theorem interject_quiet (i : Interjection) : Along Quiet (interject i) := by
  cases i with
  | cancel => exact fun _ => ⟨rfl, rfl, rfl, rfl, rfl, rfl⟩
  | request seq pause =>
      refine .bind lasts_quiet (fun w => lasts_quiet.refl w) fun w => ?_
      split <;> exact fun _ => ⟨rfl, rfl, rfl, rfl, rfl, rfl⟩

/-- Moreover what waits to be told goes on waiting. -/
structure Gathers (w w' : World) : Prop extends Quiet w w' where
  waiting : w.queue.waiting <+: w'.queue.waiting
  asides : w'.asides = w.asides

theorem lasts_gathers : Lasts Gathers where
  refl w := ⟨lasts_quiet.refl w, List.prefix_rfl, rfl⟩
  trans h h' := ⟨lasts_quiet.trans h.toQuiet h'.toQuiet, h.waiting.trans h'.waiting,
    h'.asides.trans h.asides⟩

theorem gathers_pushEvent (e : Event) : Along Gathers (pushEvent e) :=
  fun _ => ⟨⟨rfl, rfl, rfl, rfl, rfl, rfl⟩, List.prefix_append _ _, rfl⟩

theorem gathers_logRecord (severity : Severity) (target text : String) :
    Along Gathers (logRecord severity target text) := by
  intro w
  refine ⟨⟨rfl, rfl, rfl, rfl, rfl, rfl⟩, ?_, rfl⟩
  show w.queue.waiting <+: (w.queue.log ⟨severity, target, text⟩).waiting
  unfold EventQueue.log
  split
  · exact List.prefix_append _ _
  · exact List.prefix_rfl

/-- Of the events that wait, those that `f` picks out are the same. -/
def Spares {α : Type} (f : Event → Option α) (w w' : World) : Prop :=
  w'.queue.waiting.filterMap f = w.queue.waiting.filterMap f

theorem lasts_spares {α : Type} (f : Event → Option α) : Lasts (Spares f) where
  refl _ := rfl
  trans h h' := h'.trans h

section

variable {α : Type} {f : Event → Option α}
  (deaf : ∀ category text, f (.output category text) = none)
include deaf

theorem spares_logRecord (severity : Severity) (target text : String) :
    Along (Spares f) (logRecord severity target text) := by
  intro w
  show (w.queue.log ⟨severity, target, text⟩).waiting.filterMap f = _
  unfold EventQueue.log
  split
  · simp [EventQueue.push, deaf]
  · rfl

theorem spares_interject (i : Interjection) : Along (Spares f) (interject i) := by
  have lasts := lasts_spares f
  cases i with
  | cancel => exact fun _ => rfl
  | request seq pause =>
      refine .bind lasts (fun w => lasts.refl w) fun w => ?_
      split
      · refine .bind lasts (fun _ => rfl) fun _ => .bind lasts (fun _ => rfl) fun w => ?_
        exact .bind lasts (spares_logRecord deaf _ _ _) fun _ _ => rfl
      · exact fun _ => rfl

end

/-! ## Operations with a state of their own -/

abbrev Staged.ends (act : StateT σ Act α) (x : σ) (w : World) : σ × World :=
  ((act x w).1.2, (act x w).2)

theorem Staged.ends_of {act : StateT σ Act α} {x x' : σ} {w w' : World} {a : α}
    (h : act x w = ((a, x'), w')) : ends act x w = (x', w') := by
  rw [ends, h]

/-- Every run of `act` relates state and world before to state and world after. -/
def Staged.Along (R : σ × World → σ × World → Prop) (act : StateT σ Act α) : Prop :=
  ∀ x w, R (x, w) (ends act x w)

/-- Every run of `act` ends with such a result in such a state. -/
def Staged.Yields (P : α → σ → Prop) (act : StateT σ Act α) : Prop :=
  ∀ x w, P (act x w).1.1 (act x w).1.2

namespace Staged

theorem Yields.pure {P : α → σ → Prop} {a : α} (h : ∀ x, P a x) :
    Yields P (Pure.pure a : StateT σ Act α) :=
  fun x _ => h x

theorem Yields.bind {P : β → σ → Prop} {act : StateT σ Act α} {next : α → StateT σ Act β}
    (second : ∀ a, Yields P (next a)) : Yields P (act >>= next) :=
  fun _ _ => second _ _ _

variable {R : σ × World → σ × World → Prop}

theorem attempt_bind_apply (act : ExceptT ε (StateT σ Act) α)
    (next : α → ExceptT ε (StateT σ Act) β) (x : σ) (w : World) :
    (act >>= next) x w = match act x w with
      | ((.ok a, x'), w') => next a x' w'
      | ((.error e, x'), w') => ((.error e, x'), w') := by
  show (ExceptT.bindCont next (act x w).1.1) (act x w).1.2 (act x w).2 = _
  rcases act x w with ⟨⟨_ | _, _⟩, _⟩ <;> rfl

theorem attempt_bind_ok {act : ExceptT ε (StateT σ Act) α}
    {next : α → ExceptT ε (StateT σ Act) β} {x x' : σ} {w w' : World} {a : α}
    (h : act x w = ((.ok a, x'), w')) : (act >>= next) x w = next a x' w' := by
  rw [attempt_bind_apply, h]

theorem attempt_bind_error {act : ExceptT ε (StateT σ Act) α}
    {next : α → ExceptT ε (StateT σ Act) β} {x x' : σ} {w w' : World} {e : ε}
    (h : act x w = ((.error e, x'), w')) : (act >>= next) x w = ((.error e, x'), w') := by
  rw [attempt_bind_apply, h]

/-- What has succeeded as a whole has succeeded step by step. -/
theorem of_attempt_bind_ok {act : ExceptT ε (StateT σ Act) α}
    {next : α → ExceptT ε (StateT σ Act) β} {x x' : σ} {w w' : World} {b : β}
    (ran : (act >>= next) x w = ((.ok b, x'), w')) :
    ∃ a x₁ w₁, act x w = ((.ok a, x₁), w₁) ∧ next a x₁ w₁ = ((.ok b, x'), w') := by
  rw [attempt_bind_apply] at ran
  rcases first : act x w with ⟨⟨e | a, x₁⟩, w₁⟩
  · rw [first] at ran
    cases ran
  · rw [first] at ran
    exact ⟨a, x₁, w₁, rfl, ran⟩

theorem bind_of {act : StateT σ Act α} {next : α → StateT σ Act β} {x x' : σ} {w w' : World} {a : α}
    (h : act x w = ((a, x'), w')) : (act >>= next) x w = next a x' w' := by
  show next (act x w).1.1 (act x w).1.2 (act x w).2 = _
  rw [h]

theorem attempt_get_bind (next : σ → ExceptT ε (StateT σ Act) β) (x : σ) (w : World) :
    (get >>= next) x w = next x x w :=
  attempt_bind_ok rfl

theorem get_bind (next : σ → StateT σ Act β) (x : σ) (w : World) :
    (get >>= next) x w = next x x w :=
  bind_of rfl

theorem attempt_lift_of {act : StateT σ Act α} {x x' : σ} {w w' : World} {a : α}
    (h : act x w = ((a, x'), w')) :
    (liftM act : ExceptT ε (StateT σ Act) α) x w = ((.ok a, x'), w') := by
  show ((Except.ok (act x w).1.1, (act x w).1.2), (act x w).2) = _
  rw [h]

theorem discard_of {act : StateT σ Act α} {x x' : σ} {w w' : World} {a : α}
    (h : act x w = ((a, x'), w')) : (discard act : StateT σ Act PUnit) x w = ((⟨⟩, x'), w') := by
  show ((PUnit.unit, (act x w).1.2), (act x w).2) = _
  rw [h]

/-- Returning something else makes no difference to where a run ends. -/
theorem ends_return (act : ExceptT ε (StateT σ Act) α) (b : β) (x : σ) (w : World) :
    ends (do let _ ← act; return b : ExceptT ε (StateT σ Act) β).run x w = ends act.run x w := by
  show (((act >>= fun _ => pure b) x w).1.2, ((act >>= fun _ => pure b) x w).2) =
    ((act x w).1.2, (act x w).2)
  rw [attempt_bind_apply]
  rcases act x w with ⟨⟨_ | _, _⟩, _⟩ <;> rfl

theorem act_of {act : Act α} {w w' : World} {a : α} (h : act w = (a, w')) (x : σ) :
    (liftM act : StateT σ Act α) x w = ((a, x), w') := by
  show (((act w).1, x), (act w).2) = _
  rw [h]

namespace Along

theorem mono {R' : σ × World → σ × World → Prop} (weaken : ∀ {x y}, R x y → R' x y)
    {act : StateT σ Act α} (h : Along R act) : Along R' act :=
  fun x w => weaken (h x w)

theorem pure (lasts : Lasts R) (a : α) : Along R (Pure.pure a : StateT σ Act α) :=
  fun x w => lasts.refl (x, w)

theorem get (lasts : Lasts R) : Along R (MonadState.get : StateT σ Act σ) :=
  fun x w => lasts.refl (x, w)

theorem bind (lasts : Lasts R) {act : StateT σ Act α} {next : α → StateT σ Act β}
    (first : Along R act) (second : ∀ a, Along R (next a)) : Along R (act >>= next) :=
  fun x w => lasts.trans (first x w) (second _ _ _)

/-- What holds from the end of the first part to the end of both. -/
theorem after (act : StateT σ Act α) {next : α → StateT σ Act β}
    (second : ∀ a, Along R (next a)) (x : σ) (w : World) :
    R (ends act x w) (ends (act >>= next) x w) :=
  second _ _ _

theorem attemptAfter (lasts : Lasts R) (act : ExceptT ε (StateT σ Act) α)
    {next : α → ExceptT ε (StateT σ Act) β} (second : ∀ a, Along R (next a).run) (x : σ)
    (w : World) : R (ends act.run x w) (ends (act >>= next).run x w) := by
  show R ((act x w).1.2, (act x w).2) (((act >>= next) x w).1.2, ((act >>= next) x w).2)
  rw [attempt_bind_apply]
  rcases act x w with ⟨⟨_ | a, x'⟩, w'⟩
  · exact lasts.refl (x', w')
  · exact second a x' w'

theorem attemptPure (lasts : Lasts R) (a : α) :
    Along R (Pure.pure a : ExceptT ε (StateT σ Act) α).run :=
  fun x w => lasts.refl (x, w)

theorem attemptGet (lasts : Lasts R) :
    Along R (MonadState.get : ExceptT ε (StateT σ Act) σ).run :=
  fun x w => lasts.refl (x, w)

theorem throw (lasts : Lasts R) (e : ε) :
    Along R (MonadExcept.throw e : ExceptT ε (StateT σ Act) α).run :=
  fun x w => lasts.refl (x, w)

theorem attemptBind (lasts : Lasts R) {act : ExceptT ε (StateT σ Act) α}
    {next : α → ExceptT ε (StateT σ Act) β} (first : Along R act.run)
    (second : ∀ a, Along R (next a).run) : Along R (act >>= next).run :=
  fun x w => lasts.trans (first x w) (attemptAfter lasts act second x w)

theorem discarded (lasts : Lasts R) {act : StateT σ Act α} (h : Along R act) :
    Along R (discard act) :=
  bind lasts h fun _ => pure lasts ()

theorem attemptDiscarded (lasts : Lasts R) {act : ExceptT ε (StateT σ Act) α}
    (h : Along R act.run) : Along R (discard act).run :=
  attemptBind lasts h fun _ => attemptPure lasts ()

theorem lift {act : StateT σ Act α} (h : Along R act) :
    Along R (liftM act : ExceptT ε (StateT σ Act) α).run :=
  fun x w => h x w

end Along

end Staged

end StoneDebug
