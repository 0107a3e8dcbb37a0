import StoneDebug.Debug.Process
import StoneDebug.Proofs.Session.Calls

/-! # What a debug session's operations are made of

`Asks R` lists the effects of asking the session in use; `Visits R` adds frames, `Consults R` what is
kept about methods and classes, `Explores R` variable handles, and `Steers R` what running the process
takes. `R` then holds along every operation, by one lemma for each.
-/

namespace StoneDebug.Debug

open Source

/-- `R` holds when the session in use is `s`. -/
def Under (s : Session) (R : DebugSession × World → DebugSession × World → Prop)
    (x y : DebugSession × World) : Prop :=
  x.1.session = some s → R x y

/-- `R` holds along calls of the session in use and along log records. -/
structure Asks (R : DebugSession × World → DebugSession × World → Prop) : Prop extends Lasts R where
  session : ∀ {x y}, R x y → y.1.session = x.1.session
  calls : ∀ {s : Session} {d : DebugSession}, d.session = some s →
    s.Carries fun w w' => R (d, w) (d, w')
  log : ∀ severity target text d, Along (fun w w' => R (d, w) (d, w'))
    (logRecord severity target text)

/-- Moreover it holds when a frame is looked at. -/
structure Visits (R : DebugSession × World → DebugSession × World → Prop) : Prop
    extends Asks R where
  frame : ∀ level, Staged.Along R (Debug.frame level).run

/-- Moreover it holds when something is kept or dropped about methods and classes. -/
structure Consults (R : DebugSession × World → DebugSession × World → Prop) : Prop
    extends Asks R where
  sourceOf : ∀ {s : Session} (method : Oop), Staged.Along (Under s R) (Debug.sourceOf s method).run
  className : ∀ {s : Session} (cls : Oop), Staged.Along (Under s R) (Debug.className s cls).run
  methodLabel : ∀ method, Staged.Along R (Debug.methodLabel method).run
  setMethodBreakpoints : ∀ {s : Session} path (method : Oop) lines,
    Staged.Along (Under s R) (Debug.setMethodBreakpoints s path method lines)
  invalidateMethod : ∀ method, Staged.Along R (Debug.invalidateMethod method)
  number : ∀ (d : DebugSession) (w : World) method,
    R (d, w) ({ d with methods := (d.methods.number method).2 }, w)

structure Observes (R : DebugSession × World → DebugSession × World → Prop) : Prop
    extends Consults R, Visits R

/-- Moreover it holds when a variable handle is given out. -/
structure Explores (R : DebugSession × World → DebugSession × World → Prop) : Prop
    extends Observes R where
  handed : ∀ (d : DebugSession) (w : World) r,
    R (d, w) ({ d with handles := (d.handles.number r).2 }, w)

/-- Moreover it holds when the process runs and when the client is told. -/
structure Steers (R : DebugSession × World → DebugSession × World → Prop) : Prop
    extends Asks R where
  forget : ∀ (d : DebugSession) (w : World), R (d, w) ({ d with handles := {}, frames := [] }, w)
  move : ∀ (d : DebugSession) (w : World) state process message,
    R (d, w) ({ d with state, process, message }, w)
  tell : ∀ (d : DebugSession) (w : World) e, R (d, w)
    ({ d with told := d.told ++ [e] }, { w with queue := w.queue.push e })

variable {s : Session} {α β : Type} {R : DebugSession × World → DebugSession × World → Prop}

theorem lasts_under (lasts : Lasts R) (session : ∀ {x y}, R x y → y.1.session = x.1.session) :
    Lasts (Under s R) where
  refl x _ := lasts.refl x
  trans h h' bound := lasts.trans (h bound) (h' ((session (h bound)).trans bound))

/-- Along calls the debug session stays as it is. -/
theorem carries_at {P : World → World → Prop} (lasts : Lasts R) (d : DebugSession)
    (carries : s.Carries P) (weaken : ∀ {w w'}, P w w' → R (d, w) (d, w')) :
    s.Carries fun w w' => R (d, w) (d, w') :=
  carries.mono ⟨fun w => lasts.refl (d, w), lasts.trans⟩ weaken

/-- A relation between debug sessions that does not look at the world. -/
theorem asks_of {Q : DebugSession → DebugSession → Prop} (lasts : Lasts Q)
    (session : ∀ {d d'}, Q d d' → d'.session = d.session) : Asks fun x y => Q x.1 y.1 where
  refl x := lasts.refl x.1
  trans := lasts.trans
  session := session
  calls {_ d} _ :=
    { refl := fun _ => lasts.refl d
      trans := fun _ _ => lasts.refl d
      call := fun _ _ _ => lasts.refl d
      log := fun _ _ _ _ => lasts.refl d
      ensureIdle := fun _ => lasts.refl d
      setHelperClass := fun _ _ => lasts.refl d }
  log _ _ _ d _ := lasts.refl d

theorem under_of {act : Debugging α} (h : Staged.Along R act) : Staged.Along (Under s R) act :=
  fun d w _ => h d w

theorem noted_along (lasts : Lasts R)
    (log : ∀ severity target text,
      Staged.Along R (liftM (logRecord severity target text) : Debugging Unit))
    {act : Debug α} (h : Staged.Along R act.run) (severity : Severity) (what : String) :
    Staged.Along R (noted severity what act) := by
  refine .bind lasts h fun result => ?_
  split
  · exact .pure lasts _
  · exact .bind lasts (log _ _ _) fun _ => .pure lasts _

theorem session_of {d : DebugSession} (bound : d.session = some s) (w : World) :
    session d w = ((.ok s, d), w) := by
  rw [session, Staged.attempt_get_bind, bound]
  rfl

theorem session_of_none {d : DebugSession} (free : d.session = none) (w : World) :
    session d w = ((.error .notAttached, d), w) := by
  rw [session, Staged.attempt_get_bind, free]
  rfl

theorem of_session_bind_ok {d d' : DebugSession} {w w' : World} {next : Session → Debug α} {a : α}
    (ran : (session >>= next) d w = ((.ok a, d'), w')) :
    ∃ s, d.session = some s ∧ next s d w = ((.ok a, d'), w') := by
  cases bound : d.session with
  | none => cases (Staged.attempt_bind_error (session_of_none bound w)).symm.trans ran
  | some s => exact ⟨s, rfl, (Staged.attempt_bind_ok (session_of bound w)).symm.trans ran⟩

/-- Without a session an operation that needs one does nothing. -/
theorem session_along (lasts : Lasts R) {next : Session → Debug α}
    (h : ∀ s, Staged.Along (Under s R) (next s).run) :
    Staged.Along R (session >>= next).run := by
  intro d w
  show R (d, w) (((session >>= next) d w).1.2, ((session >>= next) d w).2)
  cases bound : d.session with
  | none =>
      rw [Staged.attempt_bind_error (session_of_none bound w)]
      exact lasts.refl (d, w)
  | some s =>
      rw [Staged.attempt_bind_ok (session_of bound w)]
      exact h s d w bound

/-- Attaching is refused, or it binds the session and starts over with the process. -/
theorem attachSession_along (lasts : Lasts R)
    (log : ∀ severity target text,
      Staged.Along R (liftM (logRecord severity target text) : Debugging Unit))
    (bind : Staged.Along R (bind s)) (process : Oop) (message : String)
    (anew : Staged.Along R (modify fun d => { d with
      process := some process, message, handles := {}, frames := [], methods := {},
      sources := [], state := .stopped } : Debugging PUnit))
    (tell : Staged.Along R (tellStopped .exception message).run) :
    Staged.Along R (attachSession s process message).run := by
  have attaches : Staged.Along R (do
      logRecord .info "debugger" s!"attach to process {process.describe} of session {s.id}"
      Debug.bind s
      modify fun d => { d with
        process := some process, message, handles := {}, frames := [], methods := {},
        sources := [], state := .stopped }
      tellStopped .exception message : Debug Unit).run := by
    refine .attemptBind lasts (.lift (log _ _ _)) fun _ => ?_
    refine .attemptBind lasts (.lift bind) fun _ => ?_
    exact .attemptBind lasts (.lift anew) fun _ => tell
  refine .attemptBind lasts (.attemptGet lasts) fun d => ?_
  split
  · exact .throw lasts _
  · exact .throw lasts _
  · split
    · exact .attemptBind lasts (.throw lasts _) fun _ => attaches
    · exact attaches
  · split
    · exact .attemptBind lasts (.throw lasts _) fun _ => attaches
    · exact attaches

theorem along_fetchSource {P : World → World → Prop} (h : s.Carries P) (method : Oop) :
    Along P (s.fetchSource method).run := by
  refine .attemptBind h.toLasts (h.perform _ _ _) fun string => ?_
  refine .attemptBind h.toLasts (h.fetchString _) fun text => ?_
  refine .attemptBind h.toLasts (h.perform _ _ _) fun array => ?_
  refine .attemptBind h.toLasts (h.fetchAllOops _) fun oops => ?_
  exact .attemptBind h.toLasts (.mk (.pure h.toLasts _)) fun offsets => .attemptPure h.toLasts _

namespace Asks

variable (h : Asks R)
include h

theorem under : Lasts (Under s R) := lasts_under h.toLasts h.session

/-! ## Calls -/

/-- What blocking operations of the session are made of. -/
theorem act {act : Act α} (calls : ∀ {P}, s.Carries P → Along P act) :
    Staged.Along (Under s R) (liftM act : Debugging α) :=
  fun _ w bound => calls (h.calls bound) w

theorem attempt {act : Attempt α} (calls : ∀ {P}, s.Carries P → Along P act.run) :
    Staged.Along (Under s R) (Debug.attempt act) :=
  h.act calls

theorem remote {act : Attempt α} (calls : ∀ {P}, s.Carries P → Along P act.run) :
    Staged.Along (Under s R) (Debug.remote act).run :=
  .bind h.under (h.act calls) fun _ => .pure h.under _

theorem logs (severity : Severity) (target text : String) :
    Staged.Along R (liftM (logRecord severity target text) : Debugging Unit) :=
  fun d w => h.log severity target text d w

theorem value (result : Except DebugError α) : Staged.Along (Under s R) (Debug.value result).run :=
  .pure h.under _

theorem noted {act : Debug α} (along : Staged.Along R act.run) (severity : Severity)
    (what : String) : Staged.Along R (Debug.noted severity what act) :=
  noted_along h.toLasts h.logs along severity what

theorem notedUnder {act : Debug α} (along : Staged.Along (Under s R) act.run)
    (severity : Severity) (what : String) :
    Staged.Along (Under s R) (Debug.noted severity what act) :=
  noted_along h.under (fun _ _ _ => under_of (h.logs _ _ _)) along severity what

/-! ## Methods -/

theorem resolveClass (l : MethodLocation) :
    Staged.Along (Under s R) (Debug.resolveClass s l).run := by
  refine .attemptBind h.under (h.remote (·.resolveClass _)) fun dictionary => ?_
  refine .attemptBind h.under (h.remote (·.newSymbol _)) fun name => ?_
  refine .attemptBind h.under (h.remote (·.perform _ _ _)) fun cls => ?_
  dsimp only
  split
  · exact .throw h.under _
  · split
    · exact .attemptPure h.under _
    · exact h.remote (·.perform _ _ _)

theorem resolveMethod (l : MethodLocation) :
    Staged.Along (Under s R) (Debug.resolveMethod s l).run := by
  refine .attemptBind h.under (h.resolveClass l) fun cls => ?_
  refine .attemptBind h.under (h.remote (·.compiledMethodAt _ _ _)) fun method => ?_
  dsimp only
  split
  · exact .throw h.under _
  · exact .attemptPure h.under _

theorem methodAt (path : String) : Staged.Along (Under s R) (Debug.methodAt s path).run :=
  .attemptBind h.under (h.value _) fun l => h.resolveMethod l

theorem setLines (method : Oop) (source : MethodSource) (lines : List Int) :
    Staged.Along (Under s R) (Debug.setLines s method source lines) := by
  induction lines with
  | nil => exact .pure h.under _
  | cons line lines ih =>
      refine .bind h.under ?_ fun first => .bind h.under ih fun more => .pure h.under _
      unfold setBreakpoint
      split
      · exact .pure h.under _
      · refine .bind h.under (h.notedUnder (h.remote (·.perform _ _ _)) _ _) fun result => ?_
        split
        · exact .pure h.under _
        · exact .pure h.under _

/-! ## The process -/

theorem suspended : Staged.Along R Debug.suspended.run := by
  refine .attemptBind h.toLasts (.attemptGet h.toLasts) fun d => ?_
  split
  · exact .throw h.toLasts _
  · exact .attemptPure h.toLasts _
  · exact .throw h.toLasts _

theorem stackDepth : Staged.Along R Debug.stackDepth.run := by
  refine .attemptBind h.toLasts h.suspended fun process => ?_
  refine session_along h.toLasts fun s => ?_
  refine .attemptBind h.under (h.remote (·.perform _ _ _)) fun depth => ?_
  exact .attemptBind h.under (h.value _) fun depth => .attemptPure h.under _

theorem clearProcess : Staged.Along R Debug.clearProcess := by
  intro d w
  rw [Debug.clearProcess, Staged.ends, Staged.get_bind]
  cases bound : d.session with
  | none => exact h.refl (d, w)
  | some s =>
      cases d.process with
      | none => exact h.refl (d, w)
      | some process =>
          have clear : Staged.Along (Under s R) (do
              logRecord .info "debugger" s!"clear stack of process {process.describe}"
              discard <| Debug.noted .warn "disconnect: " (Debug.remote (s.clearStack process))) := by
            refine .bind h.under (under_of (h.logs _ _ _)) fun _ => .discarded h.under ?_
            exact h.notedUnder (h.remote (·.clearStack _)) _ _
          exact clear d w bound

end Asks

/-! ## What is fetched once -/

/-- What is known already, or else is fetched, and kept from then on. -/
def once {β : Type} (known : DebugSession → Option β) (fetch : Attempt β)
    (keep : DebugSession → β → DebugSession) : Debug β := do
  match known (← get) with
  | some b => return b
  | none =>
    let b ← remote fetch
    modify fun d => keep d b
    return b

theorem sourceOf_eq_once (s : Session) (method : Oop) :
    sourceOf s method = once (·.sources.lookup method) (s.fetchSource method)
      fun d source => { d with sources := (method, source) :: d.sources } :=
  bind_congr fun d => by dsimp only; cases d.sources.lookup method <;> rfl

theorem className_eq_once (s : Session) (cls : Oop) :
    className s cls = once (·.classNames.lookup cls) (s.className cls)
      fun d name => { d with classNames := (cls, name) :: d.classNames } :=
  bind_congr fun d => by dsimp only; cases d.classNames.lookup cls <;> rfl

theorem Asks.once {β : Type} (asks : Asks R) {known : DebugSession → Option β} {fetch : Attempt β}
    {keep : DebugSession → β → DebugSession} (calls : ∀ {P}, s.Carries P → Along P fetch.run)
    (keeps : ∀ d w b, R (d, w) (keep d b, w)) :
    Staged.Along (Under s R) (once known fetch keep).run := by
  refine .attemptBind asks.under (.attemptGet asks.under) fun d => ?_
  split
  · exact .attemptPure asks.under _
  · refine .attemptBind asks.under (asks.remote calls) fun b => ?_
    refine .attemptBind asks.under (.lift (under_of ?_)) fun _ => .attemptPure asks.under _
    exact fun d w => keeps d w b

/-! ## What is kept

Where nothing is said about what is kept, every operation that keeps something is covered.
-/

section

variable (asks : Asks R)
  (keep : ∀ (d : DebugSession) (w : World) sources documents classNames labels,
    R (d, w) ({ d with sources, documents, classNames, labels }, w))
include asks keep

theorem sourceOf_of_keep (method : Oop) :
    Staged.Along (Under s R) (Debug.sourceOf s method).run := by
  rw [sourceOf_eq_once]
  exact asks.once (fun calls => along_fetchSource calls method) fun d w _ => keep d w _ _ _ _

theorem className_of_keep (cls : Oop) : Staged.Along (Under s R) (Debug.className s cls).run := by
  rw [className_eq_once]
  exact asks.once (·.className cls) fun d w _ => keep d w _ _ _ _

theorem methodLabel_of_keep (method : Oop) : Staged.Along R (Debug.methodLabel method).run := by
  refine .attemptBind asks.toLasts (.attemptGet asks.toLasts) fun d => ?_
  split
  · exact .attemptPure asks.toLasts _
  · refine session_along asks.toLasts fun s => ?_
    refine .attemptBind asks.under (asks.remote (·.perform _ _ _)) fun cls => ?_
    dsimp only
    split
    · exact .throw asks.under _
    · refine .attemptBind asks.under (className_of_keep asks keep _) fun name => ?_
      refine .attemptBind asks.under (asks.remote (·.perform _ _ _)) fun selector => ?_
      refine .attemptBind asks.under (asks.remote (·.fetchString _)) fun text => ?_
      refine .attemptBind asks.under (.lift (under_of ?_)) fun _ => .attemptPure asks.under _
      exact fun d w => keep d w _ _ _ _

theorem setMethodBreakpoints_of_keep (path : String) (method : Oop) (lines : List Int) :
    Staged.Along (Under s R) (Debug.setMethodBreakpoints s path method lines) := by
  have log (severity : Severity) (target text : String) :
      Staged.Along (Under s R) (liftM (logRecord severity target text) : Debugging Unit) :=
    under_of (asks.logs severity target text)
  have tracked (f : DebugSession → List Document) :
      Staged.Along (Under s R) (modify fun d => { d with documents := f d } : Debugging PUnit) :=
    under_of fun d w => keep d w _ _ _ _
  refine .bind asks.under (asks.attempt (·.perform _ _ _)) fun cleared => ?_
  split
  · exact .bind asks.under (log _ _ _) fun _ => .pure asks.under _
  · refine .bind asks.under (tracked _) fun _ => ?_
    split
    · exact .pure asks.under _
    · refine .bind asks.under (asks.attempt fun calls => along_fetchSource calls _) fun source => ?_
      split
      · exact .bind asks.under (log _ _ _) fun _ => .pure asks.under _
      · refine .bind asks.under (asks.setLines _ _ _) fun set => ?_
        refine .bind asks.under (log _ _ _) fun _ => ?_
        exact .bind asks.under (tracked _) fun _ => .pure asks.under _

theorem consults_of_keep
    (number : ∀ (d : DebugSession) (w : World) method,
      R (d, w) ({ d with methods := (d.methods.number method).2 }, w)) : Consults R where
  toAsks := asks
  sourceOf := sourceOf_of_keep asks keep
  className := className_of_keep asks keep
  methodLabel := methodLabel_of_keep asks keep
  setMethodBreakpoints := setMethodBreakpoints_of_keep asks keep
  invalidateMethod _ d w := keep d w _ _ _ _
  number := number

end

namespace Consults

variable (h : Consults R)
include h

theorem sourceReference (method : Oop) : Staged.Along R (Debug.sourceReference method) :=
  fun d w => h.number d w method

theorem source (reference : Int) : Staged.Along R (Debug.source reference).run := by
  refine .attemptBind h.toLasts (.attemptGet h.toLasts) fun d => ?_
  split
  · exact .throw h.toLasts _
  · split
    · exact .attemptPure h.toLasts _
    · refine session_along h.toLasts fun s => ?_
      exact .attemptBind h.under (h.sourceOf _) fun _ => .attemptPure h.under _

theorem frameLine (level : Level) (frame : Frame) :
    Staged.Along R (Debug.frameLine level frame).run := by
  refine session_along h.toLasts fun s => ?_
  refine .attemptBind h.under (h.remote (·.perform _ _ _)) fun step => ?_
  refine .attemptBind h.under (h.value _) fun step => ?_
  exact .attemptBind h.under (h.sourceOf _) fun source => .attemptPure h.under _

theorem setBreakpoints (path : String) (lines : List Int) :
    Staged.Along R (Debug.setBreakpoints path lines).run := by
  refine session_along h.toLasts fun s => ?_
  refine .attemptBind h.under (h.methodAt _) fun method => ?_
  exact .lift (h.setMethodBreakpoints _ _ _)

theorem breakpointLocations (path : String) (first last : Nat) :
    Staged.Along R (Debug.breakpointLocations path first last).run := by
  refine session_along h.toLasts fun s => ?_
  refine .attemptBind h.under (h.methodAt _) fun method => ?_
  exact .attemptBind h.under (h.sourceOf _) fun source => .attemptPure h.under _

end Consults

/-! ## Frames -/

theorem frame_of_fetched (h : Asks R)
    (fetched : ∀ (d : DebugSession) (w : World) frames, R (d, w) ({ d with frames }, w))
    (level : Level) : Staged.Along R (Debug.frame level).run := by
  refine .attemptBind h.toLasts (.attemptGet h.toLasts) fun d => ?_
  split
  · exact .attemptPure h.toLasts _
  · refine .attemptBind h.toLasts h.suspended fun process => ?_
    refine session_along h.toLasts fun s => ?_
    dsimp only
    split
    · exact .throw h.under _
    · refine .attemptBind h.under (h.remote (·.perform _ _ _)) fun array => ?_
      split
      · exact .throw h.under _
      · refine .attemptBind h.under (h.remote (·.fetchAllOops _)) fun oops => ?_
        refine .attemptBind h.under (h.value _) fun frame => ?_
        refine .attemptBind h.under (.lift (under_of ?_)) fun _ => .attemptPure h.under _
        exact fun d w => fetched d w _

namespace Visits

variable (h : Visits R)
include h

theorem receiverAt (level : Level) : Staged.Along R (Debug.receiverAt level).run := by
  refine .attemptBind h.toLasts (.attemptGet h.toLasts) fun d => ?_
  split
  · exact .attemptBind h.toLasts (h.frame _) fun _ => .attemptPure h.toLasts _
  · exact .attemptPure h.toLasts _

theorem evaluate (level : Level) (source : String) :
    Staged.Along R (Debug.evaluate level source) := by
  refine .bind h.toLasts (session_along h.toLasts fun s => ?_) fun result => ?_
  · refine .attemptBind h.under (under_of (h.receiverAt level)) fun context => ?_
    refine .attemptBind h.under (.lift (h.attempt (·.executeIn _ _))) fun result => ?_
    split
    · exact h.remote (·.printString _)
    · exact .attemptBind h.under (.lift (h.act (·.discardError _))) fun _ => .throw h.under _
  · split
    · exact .pure h.toLasts _
    · exact .pure h.toLasts _

end Visits

namespace Observes

variable (h : Observes R)
include h

theorem describeLevel (level : Level) : Staged.Along R (Debug.describeLevel level) := by
  refine .bind h.toLasts (h.noted (h.frame level) _ _) fun frame => ?_
  split
  · refine .bind h.toLasts (h.sourceReference _) fun reference => ?_
    refine .bind h.toLasts (h.noted (h.methodLabel _) _ _) fun label => ?_
    exact .bind h.toLasts (h.noted (h.frameLine _ _) _ _) fun line => .pure h.toLasts _
  · exact .bind h.toLasts (h.sourceReference _) fun reference => .pure h.toLasts _

theorem describeLevels (levels : List Level) : Staged.Along R (Debug.describeLevels levels) := by
  induction levels with
  | nil => exact .pure h.toLasts _
  | cons level levels ih =>
      exact .bind h.toLasts (h.describeLevel level) fun _ =>
        .bind h.toLasts ih fun _ => .pure h.toLasts _

theorem stackTrace (start : Level) (count : Option UInt32) :
    Staged.Along R (Debug.stackTrace start count).run := by
  refine .attemptBind h.toLasts h.stackDepth fun depth => ?_
  exact .attemptBind h.toLasts (.lift (h.describeLevels _)) fun _ => .attemptPure h.toLasts _

end Observes

namespace Explores

variable (h : Explores R)
include h

/-! ## Variables -/

theorem handleOf (r : VarRef) : Staged.Along R (Debug.handleOf r) := fun d w => h.handed d w r

theorem scopes (level : Level) : Staged.Along R (Debug.scopes level).run := by
  refine .attemptBind h.toLasts (h.frame level) fun frame => ?_
  refine .attemptBind h.toLasts (.lift (h.handleOf _)) fun locals => ?_
  exact .attemptBind h.toLasts (.lift (h.handleOf _)) fun receiver => .attemptPure h.toLasts _

theorem entries (window : Window) (r : VarRef) :
    Staged.Along (Under s R) (Debug.entries s window r).run := by
  cases r with
  | frameLocals level =>
      refine .attemptBind h.under (under_of (h.frame level)) fun frame => ?_
      refine .attemptBind h.under (.lift ?_) fun names => .attemptPure h.under _
      exact h.notedUnder (h.remote (·.fetchStringArray _)) _ _
  | receiver oop => exact .attemptPure h.under _
  | named oop =>
      refine .attemptBind h.under (h.remote (·.classOf _)) fun cls => ?_
      refine .attemptBind h.under (h.remote (·.perform _ _ _)) fun array => ?_
      refine .attemptBind h.under (h.remote (·.fetchStringArray _)) fun names => ?_
      refine .attemptBind h.under (h.remote (·.fetchObjectInfo _)) fun info => ?_
      exact .attemptBind h.under (h.remote (·.fetchOops _ _ _)) fun values =>
        .attemptPure h.under _
  | indexed oop size =>
      refine .attemptBind h.under (h.remote (·.fetchObjectInfo _)) fun info => ?_
      exact .attemptBind h.under (h.remote (·.fetchOops _ _ _)) fun values =>
        .attemptPure h.under _

theorem describeVariable (name : String) (oop : Oop) :
    Staged.Along (Under s R) (Debug.describeVariable s name oop) := by
  refine .bind h.under (h.attempt (·.printString _)) fun printed => ?_
  refine .bind h.under (h.notedUnder ?_ _ _) fun type => ?_
  · exact .attemptBind h.under (h.remote (·.classOf _)) fun cls => h.className _
  · dsimp only
    split
    · refine .bind h.under (.pure h.under _) fun info => ?_
      split
      · exact .pure h.under _
      · exact .bind h.under (under_of (h.handleOf _)) fun _ => .pure h.under _
    · refine .bind h.under (h.notedUnder (h.remote (·.fetchObjectInfo _)) _ _) fun info => ?_
      split
      · exact .pure h.under _
      · exact .bind h.under (under_of (h.handleOf _)) fun _ => .pure h.under _

theorem describeVariables (entries : List (String × Oop)) :
    Staged.Along (Under s R) (Debug.describeVariables s entries) := by
  induction entries with
  | nil => exact .pure h.under _
  | cons entry entries ih =>
      exact .bind h.under (h.describeVariable _ _) fun _ =>
        .bind h.under ih fun _ => .pure h.under _

theorem expand (reference : Int) (window : Window) :
    Staged.Along R (Debug.expand reference window).run := by
  refine .attemptBind h.toLasts (.attemptGet h.toLasts) fun d => ?_
  split
  · exact .throw h.toLasts _
  · refine session_along h.toLasts fun s => ?_
    exact .attemptBind h.under (h.entries _ _) fun _ => .lift (h.describeVariables _)

end Explores

namespace Steers

variable (h : Steers R)
include h

/-! ## Running -/

theorem tellStopped (reason : StopReason) (description : String) :
    Staged.Along R (Debug.tellStopped reason description).run := by
  refine .attemptBind h.toLasts (.lift fun d w => h.tell d w _) fun _ => ?_
  refine .attemptBind h.toLasts (.attemptGet h.toLasts) fun d => ?_
  split
  · exact .attemptPure h.toLasts _
  · exact .throw h.toLasts _

theorem settle (result : Except CallError Oop) : Staged.Along R (Debug.settle result).run := by
  unfold Debug.settle
  split
  · refine .attemptBind h.toLasts (.lift (h.logs _ _ _)) fun _ => ?_
    refine .attemptBind h.toLasts (fun d w => h.move d w _ _ _) fun _ => ?_
    exact .lift fun d w => h.tell d w _
  · refine .attemptBind h.toLasts (fun d w => h.move d w _ _ _) fun _ => ?_
    exact .attemptBind h.toLasts (.lift (h.logs _ _ _)) fun _ => h.tellStopped _ _
  · exact .attemptBind h.toLasts (fun d w => h.move d w _ _ _) fun _ => .throw h.toLasts _

theorem resume (process : Oop) : Staged.Along (Under s R) (Debug.resume s process).run := by
  refine .attemptBind h.under (under_of fun d w => h.move d w _ _ _) fun _ => ?_
  refine .attemptBind h.under (.lift (h.attempt (·.continueProcess _))) fun result => ?_
  exact under_of (h.settle result)

/-- A step, once the frames are forgotten. -/
theorem arm (process : Oop) (kind : StepKind) (level : Level) :
    Staged.Along (Under s R) (do
      logRecord .debug "debugger" s!"step {kind.name} from level {level}"
      discard <| Debug.remote (s.perform process kind.selector [levelOop level])
      Debug.resume s process : Debug Unit).run := by
  refine .attemptBind h.under (.lift (under_of (h.logs _ _ _))) fun _ => ?_
  refine .attemptBind h.under (.attemptDiscarded h.under (h.remote (·.perform _ _ _))) fun _ => ?_
  exact h.resume process

theorem step (kind : StepKind) (level : Level) : Staged.Along R (Debug.step kind level).run := by
  refine .attemptBind h.toLasts h.suspended fun process => ?_
  refine session_along h.toLasts fun s => ?_
  exact .attemptBind h.under (.lift (under_of h.forget)) fun _ => h.arm process kind level

theorem continueExecution : Staged.Along R Debug.continueExecution.run := by
  refine .attemptBind h.toLasts h.suspended fun process => ?_
  refine session_along h.toLasts fun s => ?_
  exact .attemptBind h.under (.lift (under_of h.forget)) fun _ => h.resume process

theorem restartFrame (level : Level) : Staged.Along R (Debug.restartFrame level).run := by
  refine .attemptBind h.toLasts h.suspended fun process => ?_
  refine session_along h.toLasts fun s => ?_
  refine .attemptBind h.under (.attemptDiscarded h.under (h.remote (·.perform _ _ _))) fun _ => ?_
  exact .attemptBind h.under (.lift (under_of h.forget)) fun _ => under_of (h.tellStopped _ _)

end Steers

end StoneDebug.Debug
