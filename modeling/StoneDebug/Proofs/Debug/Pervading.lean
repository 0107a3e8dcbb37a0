import StoneDebug.Proofs.Debug.Calls

/-! # What a debug session does to the world

A relation between worlds pervades debugging when it holds along the blocking operations of every
session and whenever another event waits to be told. It holds then along all that is done with a debug
session, also where that changes to another session.
-/

namespace StoneDebug.Debug

/-- `P` holds along whatever a debug session does to the world. -/
structure Pervades (P : World → World → Prop) : Prop extends Lasts P where
  gathers : ∀ {w w'}, Gathers w w' → P w w'
  carries : ∀ s : Session, s.Carries P

/-- The session in use stays, and `P` holds. -/
structure Holds (P : World → World → Prop) (x y : DebugSession × World) : Prop where
  session : y.1.session = x.1.session
  world : P x.2 y.2

/-- Of the state beside the world nothing is said. -/
def OnWorld {σ : Type} (P : World → World → Prop) (x y : σ × World) : Prop := P x.2 y.2

variable {P : World → World → Prop} {α σ : Type}

theorem lasts_onWorld (lasts : Lasts P) : Lasts (OnWorld (σ := σ) P) where
  refl x := lasts.refl x.2
  trans h h' := lasts.trans h h'

theorem Holds.onWorld {x y : DebugSession × World} (h : Holds P x y) : OnWorld P x y := h.world

section

variable (lasts : Lasts P)
include lasts

theorem onWorld_modify (f : DebugSession → DebugSession) :
    Staged.Along (OnWorld P) (modify f : Debugging PUnit) :=
  fun _ w => lasts.refl w

theorem onWorld_bind (s : Session) : Staged.Along (OnWorld P) (Debug.bind s) := by
  have lasts' := lasts_onWorld (σ := DebugSession) lasts
  refine .bind lasts' (.get lasts') fun d => ?_
  split
  · exact onWorld_modify lasts _
  · exact onWorld_modify lasts _

variable (log : ∀ severity target text, Along P (logRecord severity target text))
include log

theorem asks_holds (carries : ∀ s : Session, s.Carries P) : Asks (Holds P) where
  refl x := ⟨rfl, lasts.refl x.2⟩
  trans first second := ⟨second.session.trans first.session, lasts.trans first.world second.world⟩
  session holds := holds.session
  calls {s _} _ := (carries s).mono ⟨fun w => ⟨rfl, lasts.refl w⟩,
    fun first second => ⟨rfl, lasts.trans first.world second.world⟩⟩ fun made => ⟨rfl, made⟩
  log severity target text _ w := ⟨rfl, log severity target text w⟩

theorem consults_holds (carries : ∀ s : Session, s.Carries P) : Consults (Holds P) :=
  consults_of_keep (asks_holds lasts log carries) (fun _ w _ _ _ _ => ⟨rfl, lasts.refl w⟩)
    fun _ w _ => ⟨rfl, lasts.refl w⟩

variable (tell : ∀ message, Staged.Along (OnWorld P) (tellStopped .exception message).run)
include tell

theorem onWorld_attachSession (s : Session) (process : Oop) (message : String) :
    Staged.Along (OnWorld P) (attachSession s process message).run :=
  attachSession_along (lasts_onWorld lasts) (fun _ _ _ _ w => log _ _ _ w) (onWorld_bind lasts s)
    process message (onWorld_modify lasts _) (tell message)

theorem onWorld_attach (id : Nat) (process : Oop) (message : String) :
    Staged.Along (OnWorld P) (attach id process message).run := by
  have lasts' := lasts_onWorld (σ := DebugSession) lasts
  refine .attemptBind lasts' (.lift fun _ w => lasts.refl w) fun found => ?_
  split
  · exact .throw lasts' _
  · exact onWorld_attachSession lasts log tell _ _ _

end

namespace Pervades

variable (h : Pervades P)
include h

theorem logs (severity : Severity) (target text : String) :
    Along P (logRecord severity target text) :=
  fun w => h.gathers (gathers_logRecord severity target text w)

theorem pushes (e : Event) : Along P (pushEvent e) := fun w => h.gathers (gathers_pushEvent e w)

theorem asks : Asks (Holds P) := asks_holds h.toLasts h.logs h.carries

theorem explores : Explores (Holds P) where
  toConsults := consults_holds h.toLasts h.logs h.carries
  frame := frame_of_fetched h.asks fun _ w _ => ⟨rfl, h.refl w⟩
  handed _ w _ := ⟨rfl, h.refl w⟩

theorem steers : Steers (Holds P) where
  toAsks := h.asks
  forget _ w := ⟨rfl, h.refl w⟩
  move _ w _ _ _ := ⟨rfl, h.refl w⟩
  tell _ w e := ⟨rfl, h.pushes e w⟩

/-! ## Attaching and letting go -/

theorem attachSession (s : Session) (process : Oop) (message : String) :
    Staged.Along (OnWorld P) (Debug.attachSession s process message).run :=
  onWorld_attachSession h.toLasts h.logs (fun _ => (h.steers.tellStopped _ _).mono Holds.onWorld) s
    process message

theorem attach (id : Nat) (process : Oop) (message : String) :
    Staged.Along (OnWorld P) (Debug.attach id process message).run :=
  onWorld_attach h.toLasts h.logs (fun _ => (h.steers.tellStopped _ _).mono Holds.onWorld) id process
    message

theorem disconnect : Staged.Along (OnWorld P) Debug.disconnect := by
  refine .bind (lasts_onWorld h.toLasts) ?_ fun _ => onWorld_modify h.toLasts _
  exact h.asks.clearProcess.mono Holds.onWorld

theorem terminate : Staged.Along (OnWorld P) Debug.terminate := by
  have lasts := lasts_onWorld (σ := DebugSession) h.toLasts
  refine .bind lasts (.get lasts) fun d => .bind lasts h.disconnect fun _ => ?_
  split
  · exact fun _ w => h.pushes _ w
  · exact .pure lasts _

end Pervades

end StoneDebug.Debug
