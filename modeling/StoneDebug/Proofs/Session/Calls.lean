import StoneDebug.Proofs.Effect
import StoneDebug.Session.Query

/-! # The calls of a session's operations

`Drives s R` lists the effects that a non-blocking call of the session `s` is made of, from its
submission to its end, and says that `R` holds along each; `Hosts s R` adds the few others that
operations of the session have. `R` then holds along every operation, by one lemma for each.
`Drains s R` and `Carries s R` ask less: the one lists the effects of draining an abandoned call, the
other leaves out those of non-blocking calls, which most operations meet only through the guard
`ensureIdle`.
-/

namespace StoneDebug

/-- Logging in and out, which no operation of a session does. -/
def Call.administers : Call → Bool
  | .version | .login _ | .logout => true
  | _ => false

/-- Calls of operations that return with their result. The others belong to a call that does not
block, or to logging in and out. -/
def Call.blocks : Call → Bool
  | .nbExecute _ | .nbPerform _ | .nbPoll _ | .nbResult | .interrupt _ => false
  | c => !c.administers

/-- Calls that an abandoned call is drained with. -/
def Call.drains : Call → Bool
  | .nbPoll _ | .nbResult | .clearStack _ => true
  | _ => false

theorem Call.administers_of_blocks {c : Call} (blocks : c.blocks = true) :
    c.administers = false := by
  cases c <;> first | rfl | cases blocks

theorem Call.administers_of_drains {c : Call} (drains : c.drains = true) :
    c.administers = false := by
  cases c <;> first | rfl | cases drains

namespace Session

/-- `R` holds along the effects of draining an abandoned call of `s`. -/
structure Drains (s : Session) (R : World → World → Prop) : Prop extends Lasts R where
  call : ∀ c : Call, c.drains = true → Along R (s.call c)
  log : ∀ severity target text, Along R (logRecord severity target text)
  tick : ∀ microseconds w, R w { w with clock := w.clock + microseconds }
  interject : ∀ i, Along R (interject i)

/-- `R` holds along the effects of the blocking operations of `s`. -/
structure Carries (s : Session) (R : World → World → Prop) : Prop extends Lasts R where
  call : ∀ c : Call, c.blocks = true → Along R (s.call c)
  log : ∀ severity target text, Along R (logRecord severity target text)
  ensureIdle : Along R s.ensureIdle.run
  setHelperClass : ∀ cls, Along R (setHelperClass s.id cls)

/-- `R` holds along the effects of carrying a non-blocking call of `s` to its end. -/
structure Drives (s : Session) (R : World → World → Prop) : Prop extends Lasts R where
  call : ∀ c : Call, c.administers = false → Along R (s.call c)
  log : ∀ severity target text, Along R (logRecord severity target text)
  tick : ∀ microseconds w, R w { w with clock := w.clock + microseconds }
  interject : ∀ i, Along R (interject i)
  aside : ∀ a, Along R (addAside a)

/-- `R` holds along all effects of operations of `s`. -/
structure Hosts (s : Session) (R : World → World → Prop) : Prop extends Drives s R where
  setCallState : ∀ state, Along R (setCallState s.id state)
  setHelperClass : ∀ cls, Along R (setHelperClass s.id cls)

variable {s : Session} {R : World → World → Prop}

/-! ## Draining -/

theorem Drives.toDrains (h : s.Drives R) : s.Drains R where
  toLasts := h.toLasts
  call c drains := h.call c (Call.administers_of_drains drains)
  log := h.log
  tick := h.tick
  interject := h.interject

namespace Drains

variable (h : s.Drains R)
include h

theorem poll (timeout : Int) : Along R (s.poll timeout).run := by
  refine .attemptBind h.toLasts (.lift (h.call _ rfl)) fun reply => ?_
  refine .attemptBind h.toLasts (fun w => ?_) fun _ => ?_
  · have tick := h.tick (1 + reply.took) w
    rwa [← Nat.add_assoc] at tick
  · refine .attemptBind h.toLasts (.lift (.interjectAll h.toLasts h.interject _)) fun _ => ?_
    exact .mk (.pure h.toLasts _)

theorem discardResult : Along R s.discardResult := by
  refine .bind h.toLasts (h.call _ rfl) fun result => ?_
  split
  · exact .pure h.toLasts _
  · split
    · exact .pure h.toLasts _
    · refine .bind h.toLasts (h.call _ rfl) fun cleared => ?_
      exact .bind h.toLasts (.warnOn h.toLasts h.log _ _ cleared) fun _ => .pure h.toLasts _

theorem drainOnce : Along R s.drainOnce := by
  refine .bind h.toLasts (h.poll 0) fun result => ?_
  split
  · exact .bind h.toLasts h.discardResult fun _ => .pure h.toLasts _
  · exact .pure h.toLasts _
  · exact .bind h.toLasts (h.log _ _ _) fun _ => .pure h.toLasts _

theorem ensureIdle (idle : Along R (setCallState s.id .idle)) : Along R s.ensureIdle.run := by
  refine .attemptBind h.toLasts (.lift fun w => h.refl w) fun state => ?_
  split
  · exact .attemptPure h.toLasts _
  · exact .throw h.toLasts _
  · refine .attemptBind h.toLasts (.lift h.drainOnce) fun drained => ?_
    split
    · exact .lift idle
    · exact .throw h.toLasts _

end Drains

namespace Hosts

theorem ensureIdle (h : s.Hosts R) : Along R s.ensureIdle.run :=
  h.toDrains.ensureIdle (h.setCallState _)

theorem toCarries (h : s.Hosts R) : s.Carries R where
  toLasts := h.toLasts
  call c blocks := h.call c (Call.administers_of_blocks blocks)
  log := h.log
  ensureIdle := h.ensureIdle
  setHelperClass := h.setHelperClass

end Hosts

/-! ## Blocking operations -/

theorem Carries.mono {R' : World → World → Prop} (h : s.Carries R) (lasts : Lasts R')
    (weaken : ∀ {w w'}, R w w' → R' w w') : s.Carries R' where
  toLasts := lasts
  call c blocks w := weaken (h.call c blocks w)
  log severity target text w := weaken (h.log severity target text w)
  ensureIdle w := weaken (h.ensureIdle w)
  setHelperClass cls w := weaken (h.setHelperClass cls w)

namespace Carries

variable (h : s.Carries R)
include h

theorem request {α : Type} {act : Act (Except CallError α)} (along : Along R act) :
    Along R (s.request act).run :=
  .attemptBind h.toLasts h.ensureIdle fun _ => along

theorem helperClass : Along R s.helperClass.run := by
  refine .attemptBind h.toLasts (.lift fun w => h.refl w) fun w => ?_
  split
  · exact .attemptPure h.toLasts _
  · refine .attemptBind h.toLasts (h.call _ rfl) fun cls => ?_
    exact .attemptBind h.toLasts (.lift (h.setHelperClass cls)) fun _ => .attemptPure h.toLasts _

theorem execution (source : String) (adjust : Execution → Execution) :
    Along R (s.execution source adjust).run :=
  .attemptBind h.toLasts h.ensureIdle fun _ =>
    .attemptBind h.toLasts h.helperClass fun _ => .attemptPure h.toLasts _

theorem execute (source : String) : Along R (s.execute source).run :=
  .attemptBind h.toLasts (h.execution _ _) fun _ => h.call _ rfl

theorem executeDebuggable (source : String) : Along R (s.executeDebuggable source).run :=
  .attemptBind h.toLasts (h.execution _ _) fun _ => h.call _ rfl

theorem executeIn (source : String) (context : Oop) : Along R (s.executeIn source context).run :=
  .attemptBind h.toLasts (h.execution _ _) fun _ => h.call _ rfl

theorem executeString (source : String) : Along R (s.executeString source).run :=
  .attemptBind h.toLasts (h.execution _ _) fun _ =>
    .attemptBind h.toLasts (h.call _ rfl) fun _ => .attemptPure h.toLasts _

theorem perform (receiver : Oop) (selector : String) (args : List Oop) :
    Along R (s.perform receiver selector args).run :=
  h.request (h.call _ rfl)

theorem performString (receiver : Oop) (selector : String) (args : List Oop) :
    Along R (s.performString receiver selector args).run :=
  .attemptBind h.toLasts (h.request (h.call _ rfl)) fun _ => .attemptPure h.toLasts _

theorem printString (oop : Oop) : Along R (s.printString oop).run := by
  unfold Session.printString
  split
  · exact .attemptPure h.toLasts _
  · exact h.performString _ _ _

theorem resolveClass (name : String) : Along R (s.resolveClass name).run :=
  h.request (h.call _ rfl)

theorem classOf (oop : Oop) : Along R (s.classOf oop).run := by
  unfold Session.classOf
  split
  · exact .attemptPure h.toLasts _
  · exact h.request (h.call _ rfl)

theorem className (cls : Oop) : Along R (s.className cls).run := h.performString _ _ _

theorem newSymbol (name : String) : Along R (s.newSymbol name).run := h.request (h.call _ rfl)

theorem newSourceString (source : String) : Along R (s.newSourceString source).run := by
  refine .attemptBind h.toLasts h.ensureIdle fun _ => ?_
  refine .attemptBind h.toLasts h.helperClass fun cls => ?_
  refine .attemptBind h.toLasts (h.call _ rfl) fun string => ?_
  split
  · exact .attemptBind h.toLasts (h.call _ rfl) fun _ => .attemptPure h.toLasts _
  · exact .attemptPure h.toLasts _

theorem fetchString (oop : Oop) : Along R (s.fetchString oop).run := by
  refine .attemptBind h.toLasts (h.request (h.call _ rfl)) fun first => ?_
  split
  · exact .attemptBind h.toLasts (h.call _ rfl) fun _ => .attemptPure h.toLasts _
  · exact .attemptPure h.toLasts _

theorem fetchAllOops (oop : Oop) : Along R (s.fetchAllOops oop).run := by
  refine .attemptBind h.toLasts (h.request (h.call _ rfl)) fun size => ?_
  split
  · exact .attemptPure h.toLasts _
  · exact h.call _ rfl

theorem fetchOops (oop : Oop) (start : Int) (count : Nat) :
    Along R (s.fetchOops oop start count).run := by
  unfold Session.fetchOops
  split
  · exact .attemptPure h.toLasts _
  · exact h.request (h.call _ rfl)

theorem fetchStrings (oops : List Oop) : Along R (s.fetchStrings oops).run := by
  induction oops with
  | nil => exact .attemptPure h.toLasts _
  | cons oop oops ih =>
      exact .attemptBind h.toLasts (h.fetchString oop) fun _ =>
        .attemptBind h.toLasts ih fun _ => .attemptPure h.toLasts _

theorem fetchStringArray (array : Oop) : Along R (s.fetchStringArray array).run := by
  unfold Session.fetchStringArray
  split
  · exact .attemptPure h.toLasts _
  · exact .attemptBind h.toLasts (h.fetchAllOops array) fun oops => h.fetchStrings oops

theorem fetchObjectInfo (oop : Oop) : Along R (s.fetchObjectInfo oop).run :=
  h.request (h.call _ rfl)

theorem clearStack (process : Oop) : Along R (s.clearStack process).run :=
  h.request (h.call _ rfl)

theorem continueProcess (process : Oop) : Along R (s.continueProcess process).run :=
  h.request (h.call _ rfl)

theorem discardError (error : CallError) : Along R (s.discardError error) := by
  unfold Session.discardError
  split
  · exact .pure h.toLasts _
  · refine .bind h.toLasts (h.clearStack _) fun cleared => ?_
    exact .bind h.toLasts (.warnOn h.toLasts h.log _ _ cleared) fun _ => .pure h.toLasts _

theorem compileMethod (cls : Oop) (source category : String) (env : Nat) :
    Along R (s.compileMethod cls source category env).run := by
  refine .attemptBind h.toLasts (h.newSourceString source) fun sourceOop => ?_
  refine .attemptBind h.toLasts (h.newSymbol category) fun category => ?_
  refine .attemptBind h.toLasts (.lift (h.request (h.call _ rfl))) fun compiled => ?_
  split
  · exact .attemptPure h.toLasts _
  · exact .attemptBind h.toLasts (.lift (h.discardError _)) fun _ => .throw h.toLasts _

theorem removeAllMethods (cls : Oop) : Along R (s.removeAllMethods cls).run :=
  .attemptBind h.toLasts (h.perform _ _ _) fun _ => .attemptPure h.toLasts _

theorem compiledMethodAt (cls : Oop) (selector : String) (env : Nat) :
    Along R (s.compiledMethodAt cls selector env).run :=
  .attemptBind h.toLasts (h.newSymbol selector) fun _ => h.perform _ _ _

theorem followPages (capacity pages : Nat) (seen : List ObjectReport) (status : TraversalStatus)
    (reports : List ObjectReport) :
    Along R (s.followPages capacity pages seen status reports).run := by
  induction pages generalizing seen status reports with
  | zero =>
      cases status with
      | complete => exact .attemptPure h.toLasts _
      | more =>
          unfold Session.followPages
          split
          · exact .throw h.toLasts _
          · exact .attemptPure h.toLasts _
  | succ pages ih =>
      cases status with
      | complete => exact .attemptPure h.toLasts _
      | more =>
          unfold Session.followPages
          split
          · exact .throw h.toLasts _
          · refine .attemptBind h.toLasts (h.call _ rfl) fun page => ?_
            exact .attemptBind h.toLasts (.mk (.pure h.toLasts _)) fun next => ih _ _ _

theorem fetchTraversal (oops : List Oop) (args : TraversalArgs) :
    Along R (s.fetchTraversal oops args).run := by
  refine .attemptBind h.toLasts h.ensureIdle fun _ => ?_
  refine .attemptBind h.toLasts (h.call _ rfl) fun page => ?_
  refine .attemptBind h.toLasts (.mk (.pure h.toLasts _)) fun reports => ?_
  exact .attemptBind h.toLasts (.lift fun w => h.refl w) fun w => h.followPages _ _ _ _ _

theorem storeTraversal (reports : List ObjectReport) (flags : Int) :
    Along R (s.storeTraversal reports flags).run :=
  .attemptBind h.toLasts h.ensureIdle fun _ =>
    .attemptBind h.toLasts (.mk (.pure h.toLasts _)) fun _ => h.call _ rfl

theorem abort : Along R s.abort.run := h.request (h.call .abort rfl)

theorem beginTransaction : Along R s.beginTransaction.run :=
  h.request (h.call .beginTransaction rfl)

theorem commit : Along R s.commit.run := h.request (h.call .commit rfl)

end Carries

/-! ## Exchanges -/

def Own (s : Session) (x : Exchange) : Prop := x.handle = some s.handle

/-- Every exchange of a session's operations is its own. -/
theorem hosts_own (s : Session) : s.Hosts (Adds s.Own) where
  toLasts := lasts_adds s.Own
  call _ _ := Adds.ask fun _ => rfl
  log _ _ _ _ := .of_transcript_eq rfl
  tick _ _ := .of_transcript_eq rfl
  interject i w := .of_transcript_eq (interject_quiet i w).transcript
  aside _ _ := .of_transcript_eq rfl
  setCallState _ _ := .of_transcript_eq rfl
  setHelperClass _ _ := .of_transcript_eq rfl

theorem carries_own (s : Session) : s.Carries (Adds s.Own) := s.hosts_own.toCarries

/-- The guard makes no other exchanges than draining does. -/
theorem ensureIdle_adds {P : Exchange → Prop} (s : Session)
    (such : ∀ (c : Call) (reply : c.Reply), c.drains = true → P ⟨some s.handle, c, reply⟩) :
    Along (Adds P) s.ensureIdle.run := by
  have drains : s.Drains (Adds P) := {
    toLasts := lasts_adds P
    call := fun c drains => Adds.ask fun reply => such c reply drains
    log := fun _ _ _ _ => .of_transcript_eq rfl
    tick := fun _ _ => .of_transcript_eq rfl
    interject := fun i w => .of_transcript_eq (interject_quiet i w).transcript }
  exact drains.ensureIdle fun _ => .of_transcript_eq rfl

def SameVM (w w' : World) : Prop := w'.vm = w.vm

theorem carries_sameVM (s : Session) : s.Carries SameVM :=
  Hosts.toCarries {
    refl := fun _ => rfl
    trans := fun h h' => h'.trans h
    call := fun _ _ _ => rfl
    log := fun _ _ _ _ => rfl
    tick := fun _ _ => rfl
    interject := fun i w => (interject_quiet i w).vm
    aside := fun _ _ => rfl
    setCallState := fun _ _ => rfl
    setHelperClass := fun _ _ => rfl }

/-- Operations of a session tell of nothing; they only log. -/
theorem hosts_spares {α : Type} {f : Event → Option α}
    (deaf : ∀ category text, f (.output category text) = none) (s : Session) :
    s.Hosts (Spares f) where
  toLasts := lasts_spares f
  call _ _ _ := rfl
  log := spares_logRecord deaf
  tick _ _ := rfl
  interject := spares_interject deaf
  aside _ _ := rfl
  setCallState _ _ := rfl
  setHelperClass _ _ := rfl

end Session

end StoneDebug
