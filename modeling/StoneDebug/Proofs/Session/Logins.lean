import StoneDebug.Proofs.Session.Calls

/-! # Logins and logouts

Sessions are opened and closed by two calls, which no operation of a session makes. The registry
makes one of them for each session that it takes in or gives up.
-/

namespace StoneDebug

/-- What a call has done to the sessions of the VM. -/
inductive Access where
  | opened (handle : Handle)
  | closed (handle : Handle)
deriving Repr, DecidableEq

/-- A login opens a session when the VM grants it. A logout gives the session up in any case. -/
def Exchange.access? : Exchange → Option Access
  | ⟨_, .login _, .ok handle⟩ => some (.opened handle)
  | ⟨some handle, .logout, _⟩ => some (.closed handle)
  | _ => none

theorem Exchange.access?_eq_none {handle : Option Handle} {c : Call} (other : c.administers = false)
    (reply : c.Reply) : access? ⟨handle, c, reply⟩ = none := by
  cases c <;> first | rfl | cases other

/-- Between the two worlds sessions were opened and closed like this, in this order. -/
def Accesses (accesses : List Access) (w w' : World) : Prop :=
  ∃ added, w'.transcript = w.transcript ++ added ∧ added.filterMap Exchange.access? = accesses

theorem Accesses.trans {first second : List Access} {w w₁ w₂ : World} (h : Accesses first w w₁)
    (h' : Accesses second w₁ w₂) : Accesses (first ++ second) w w₂ := by
  obtain ⟨added, eq, rfl⟩ := h
  obtain ⟨added', eq', rfl⟩ := h'
  exact ⟨added ++ added', by rw [eq', eq, List.append_assoc], by simp⟩

theorem Accesses.of_transcript_eq {w w' : World} (same : w'.transcript = w.transcript) :
    Accesses [] w w' :=
  ⟨[], by simpa using same, rfl⟩

theorem accesses_ask (handle : Option Handle) (call : Call) (w : World) :
    Accesses (Exchange.access? ⟨handle, call, w.vm w.transcript handle call⟩).toList w
      (ask handle call w).2 := by
  refine ⟨[⟨handle, call, w.vm w.transcript handle call⟩], rfl, ?_⟩
  cases found : Exchange.access? ⟨handle, call, w.vm w.transcript handle call⟩ <;> simp [found]

/-- No session was opened or closed. -/
structure Routine (w w' : World) : Prop where
  live : w'.live = w.live
  nextId : w'.nextId = w.nextId
  accesses : Accesses [] w w'

theorem lasts_routine : Lasts Routine where
  refl _ := ⟨rfl, rfl, .of_transcript_eq rfl⟩
  trans h h' := ⟨h'.live.trans h.live, h'.nextId.trans h.nextId, h.accesses.trans h'.accesses⟩

theorem Quiet.routine {w w' : World} (h : Quiet w w') : Routine w w' :=
  ⟨h.live, h.nextId, .of_transcript_eq h.transcript⟩

theorem Session.hosts_routine (s : Session) : s.Hosts Routine where
  toLasts := lasts_routine
  call c other w := by
    have asked := accesses_ask (some s.handle) c w
    rw [Exchange.access?_eq_none other] at asked
    exact ⟨rfl, rfl, asked⟩
  log severity target text w := (gathers_logRecord severity target text w).routine
  tick _ _ := ⟨rfl, rfl, .of_transcript_eq rfl⟩
  interject i w := (interject_quiet i w).routine
  aside _ _ := ⟨rfl, rfl, .of_transcript_eq rfl⟩
  setCallState _ _ := ⟨rfl, rfl, .of_transcript_eq rfl⟩
  setHelperClass _ _ := ⟨rfl, rfl, .of_transcript_eq rfl⟩

/-! ## The registry -/

/-- No id that is still to be given out is in use. -/
def World.Numbered (w : World) : Prop := ∀ s ∈ w.live, s.id < w.nextId

namespace Registry

section

variable {R : World → World → Prop} (lasts : Lasts R)
  (log : ∀ severity target text, Along R (logRecord severity target text))
include lasts log

theorem announce_along (id : Nat) (username version : String) :
    Along R (announce id username version) := by
  refine .bind lasts (log _ _ _) fun _ => ?_
  split
  · exact .pure lasts _
  · exact log _ _ _
  · split
    · exact .pure lasts _
    · exact log _ _ _

variable (same : ∀ {w w' : World}, w'.transcript = w.transcript → w'.queue = w.queue →
  w'.asides = w.asides → R w w')
include same

/-- Apart from its calls and the log, a login leaves alone what was asked and what is to be told. -/
theorem login_along (grant : ∀ params, Along R (ask none (.login params)))
    (version : Along R (ask none .version)) (params : LoginParams) :
    Along R (login params).run := by
  refine .attemptBind lasts (.lift fun w => lasts.refl w) fun w => ?_
  refine .attemptBind lasts (.lift fun _ => same rfl rfl rfl) fun _ => ?_
  refine .attemptBind lasts (.mk (grant _)) fun handle => ?_
  refine .attemptBind lasts (.lift version) fun version => ?_
  refine .attemptBind lasts (.lift (announce_along lasts log _ _ _)) fun _ => ?_
  exact .attemptBind lasts (.lift fun _ => same rfl rfl rfl) fun _ => .attemptPure lasts _

theorem logout_along (dismiss : ∀ s : Session, Along R (s.call .logout)) (id : Nat) :
    Along R (logout id).run := by
  refine .attemptBind lasts (.lift fun w => lasts.refl w) fun found => ?_
  cases found with
  | none => exact .throw lasts _
  | some s =>
      refine .attemptBind lasts (.lift fun _ => same rfl rfl rfl) fun _ => ?_
      exact .attemptBind lasts (.lift (log _ _ _)) fun _ => .mk (dismiss s)

end

theorem gathers_announce (id : Nat) (username version : String) :
    Along Gathers (announce id username version) :=
  announce_along lasts_gathers gathers_logRecord id username version

/-- The VM decides about a login, and its answer is the handle of the session. The attempt uses up an
id; the session stands behind all others. -/
theorem login_apply (params : LoginParams) (w : World) :
    match login params w with
    | (.error cause, w') => w.vm w.transcript none (.login params) = .error cause ∧
      w'.live = w.live ∧ w'.nextId = w.nextId + 1 ∧ Accesses [] w w'
    | (.ok s, w') => w.vm w.transcript none (.login params) = .ok s.handle ∧ s.id = w.nextId ∧
      w'.live = w.live ++ [s] ∧ w'.nextId = w.nextId + 1 ∧ Accesses [.opened s.handle] w w' := by
  let w₀ : World := { w with nextId := w.nextId + 1 }
  have numbered : login params w = (do
      let handle ← ExceptT.mk (ask none (.login params))
      let version ← ask none .version
      announce w.nextId params.username version
      let session : Session := ⟨w.nextId, handle, version⟩
      modify fun w => { w with live := w.live ++ [session] }
      return session : Attempt Session) w₀ := rfl
  have asked := accesses_ask none (.login params) w₀
  rw [numbered]
  cases reply : w.vm w.transcript none (.login params) with
  | error cause =>
      have refused : (ExceptT.mk (ask none (.login params)) : Attempt Handle) w₀ =
        (.error cause, (ask none (.login params) w₀).2) := Prod.ext reply rfl
      rw [attempt_bind_error refused]
      rw [show w₀.vm w₀.transcript none (.login params) = _ from reply] at asked
      exact ⟨rfl, rfl, rfl, asked⟩
  | ok handle =>
      have granted : (ExceptT.mk (ask none (.login params)) : Attempt Handle) w₀ =
        (.ok handle, (ask none (.login params) w₀).2) := Prod.ext reply rfl
      let w₁ := (ask none (.login params) w₀).2
      let version := w₁.vm w₁.transcript none .version
      let w₂ := (ask none .version w₁).2
      let w₃ := (announce w.nextId params.username version w₂).2
      have told : Routine w₂ w₃ := (gathers_announce _ _ _ w₂).routine
      have versioned : Accesses [] w₁ w₂ := accesses_ask none .version w₁
      rw [attempt_bind_ok granted]
      rw [show w₀.vm w₀.transcript none (.login params) = _ from reply] at asked
      refine ⟨rfl, rfl, congrArg (· ++ _) told.live, told.nextId, ?_⟩
      obtain ⟨added, eq, opened⟩ := (asked.trans versioned).trans told.accesses
      exact ⟨added, eq, opened⟩

/-- An unknown id is refused without a call. -/
theorem logout_of_unknown {id : Nat} {w : World}
    (unknown : w.live.find? (fun s => s.id == id) = none) :
    logout id w = (.error .notLoggedIn, w) := by
  have got : (liftM (get? id) : Attempt (Option Session)) w = (.ok none, w) := by
    refine attempt_lift_of ?_
    show (w.live.find? _, w) = _
    rw [unknown]
  exact attempt_bind_ok got

/-- The VM is asked once to log out a session, and its answer is the result. -/
theorem logout_of_found {id : Nat} {s : Session} {w : World}
    (found : w.live.find? (fun s => s.id == id) = some s) :
    ∃ w', logout id w = (w.vm w.transcript (some s.handle) .logout, w') ∧
      w'.live = w.live.filter (fun s => s.id != id) ∧ w'.nextId = w.nextId ∧
        w'.transcript = w.transcript ++
          [⟨some s.handle, .logout, w.vm w.transcript (some s.handle) .logout⟩] := by
  let w₁ : World := { w with live := w.live.filter fun s => s.id != id }
  let w₂ := (logRecord .info "gci" s!"session {id} logout" w₁).2
  have got : (liftM (get? id) : Attempt (Option Session)) w = (.ok (some s), w) := by
    refine attempt_lift_of ?_
    show (w.live.find? _, w) = _
    rw [found]
  have told : Gathers w₁ w₂ := gathers_logRecord _ _ _ w₁
  have ran : logout id w = s.call .logout w₂ := attempt_bind_ok got
  have same : w₂.vm w₂.transcript = w.vm w.transcript := by rw [told.vm, told.transcript]
  refine ⟨(s.call .logout w₂).2, ?_, told.live, told.nextId, ?_⟩
  · rw [ran, ← same]
    rfl
  · rw [← same]
    exact congrArg (· ++ _) told.transcript

/-- A session that is logged out is given up whatever the VM answers. -/
theorem logout_apply {id : Nat} {s : Session} {w : World}
    (found : w.live.find? (fun s => s.id == id) = some s) :
    ∃ result w', logout id w = (result, w') ∧ w'.live = w.live.filter (fun s => s.id != id) ∧
      w'.nextId = w.nextId ∧ Accesses [.closed s.handle] w w' := by
  obtain ⟨w', ran, live, nextId, asked⟩ := logout_of_found found
  exact ⟨_, w', ran, live, nextId, _, asked, rfl⟩

end Registry

end StoneDebug
