import StoneDebug.Foreign.Reply
import StoneDebug.Proofs.Debug.Placing
import StoneDebug.Proofs.Session.Busy

/-! # Breakpoints that are tracked and breakpoints that are set

The VM keeps step points to stop at for each method: `clearAllBreaks` empties them when it succeeds,
`setBreakAtStepPoint:` then adds one. A debug session tracks them for each document, and several paths
may name one method. So the tracked step points of a document are those set in its method as long as
the method was last cleared for this document.
-/

namespace StoneDebug

namespace Exchange

/-- The exchange has cleared the breakpoints of the method. -/
def clears (method : Oop) : Exchange → Bool
  | ⟨_, .perform send, .ok _⟩ => send.receiver == method && send.selector == "clearAllBreaks"
  | _ => false

/-- The step points of the method that the exchange has set. -/
def sets (method : Oop) : Exchange → List Oop
  | ⟨_, .perform send, .ok _⟩ =>
    if send.receiver == method && send.selector == "setBreakAtStepPoint:" then send.args else []
  | _ => []

/-- What is set in the method after the exchange. -/
def arm (method : Oop) (armed : List Oop) (x : Exchange) : List Oop :=
  if x.clears method then [] else armed ++ x.sets method

/-- The exchange leaves all breakpoints alone. -/
def Inert (x : Exchange) : Prop := ∀ method, x.clears method = false ∧ x.sets method = []

/-- The exchange has nothing to do with breakpoints: no message was sent, or another one. -/
def Unrelated (x : Exchange) : Prop :=
  ∀ send, x.call = .perform send →
    send.selector ≠ "clearAllBreaks" ∧ send.selector ≠ "setBreakAtStepPoint:"

theorem unrelated_of_call {x : Exchange} (other : ∀ send, x.call ≠ .perform send) : x.Unrelated :=
  fun send same => absurd same (other send)

theorem unrelated_of_selector {handle : Option Handle} {send : Send}
    (clears : send.selector ≠ "clearAllBreaks") (sets : send.selector ≠ "setBreakAtStepPoint:")
    (reply : Except CallError Oop) : Unrelated ⟨handle, .perform send, reply⟩ := by
  rintro _ ⟨⟩
  exact ⟨clears, sets⟩

theorem Unrelated.inert {x : Exchange} (unrelated : x.Unrelated) : x.Inert := by
  obtain ⟨handle, call, reply⟩ := x
  cases call with
  | perform send =>
      obtain ⟨clears, sets⟩ := unrelated send rfl
      cases reply with
      | error e => exact fun _ => ⟨rfl, rfl⟩
      | ok _ =>
          exact fun method => ⟨by simp [Exchange.clears, clears], by simp [Exchange.sets, sets]⟩
  | _ => exact fun _ => ⟨rfl, rfl⟩

end Exchange

open Exchange

/-- What is set in the method after the exchanges. -/
def armedBy (xs : List Exchange) (method : Oop) (armed : List Oop) : List Oop :=
  xs.foldl (arm method) armed

def clearedBy (xs : List Exchange) (method : Oop) : Bool := xs.any (clears method)

theorem armedBy_append (xs ys : List Exchange) (method : Oop) (armed : List Oop) :
    armedBy (xs ++ ys) method armed = armedBy ys method (armedBy xs method armed) :=
  List.foldl_append

theorem clearedBy_append (xs ys : List Exchange) (method : Oop) :
    clearedBy (xs ++ ys) method = (clearedBy xs method || clearedBy ys method) :=
  List.any_append

theorem clearedBy_of_inert {xs : List Exchange} (inert : ∀ x ∈ xs, x.Inert) (method : Oop) :
    clearedBy xs method = false := by
  rw [clearedBy, List.any_eq_false]
  exact fun x member => by simp [(inert x member method).1]

theorem armedBy_of_inert {xs : List Exchange} (inert : ∀ x ∈ xs, x.Inert) (method : Oop)
    (armed : List Oop) : armedBy xs method armed = armed := by
  induction xs with
  | nil => rfl
  | cons x xs ih =>
      obtain ⟨first, others⟩ := List.forall_mem_cons.mp inert
      have same : arm method armed x = armed := by
        rw [arm, (first method).1, (first method).2]
        simp
      rw [armedBy, List.foldl_cons, same]
      exact ih others

/-- Between the two worlds these step points were set in the method, which was cleared before if
`anew`. The breakpoints of other methods were left alone. -/
def Rearms (anew : Bool) (method : Oop) (steps : List Oop) (w w' : World) : Prop :=
  ∃ xs, w'.transcript = w.transcript ++ xs ∧ ∀ m, clearedBy xs m = (anew && method == m) ∧
    ∀ armed, armedBy xs m armed =
      if method = m then (if anew then [] else armed) ++ steps else armed

section

variable {anew : Bool} {method : Oop} {steps more : List Oop} {w w₁ w' : World}

theorem rearms_of_inert (method : Oop) (inert : Adds Inert w w') : Rearms false method [] w w' := by
  obtain ⟨xs, eq, inert⟩ := inert
  refine ⟨xs, eq, fun m => ⟨clearedBy_of_inert inert m, fun armed => ?_⟩⟩
  rw [armedBy_of_inert inert]
  simp

theorem Rearms.trans (first : Rearms anew method steps w w₁)
    (second : Rearms false method more w₁ w') : Rearms anew method (steps ++ more) w w' := by
  obtain ⟨xs, eq, first⟩ := first
  obtain ⟨ys, eq', second⟩ := second
  refine ⟨xs ++ ys, by rw [eq', eq, List.append_assoc], fun m => ⟨?_, fun armed => ?_⟩⟩
  · rw [clearedBy_append, (first m).1, (second m).1]
    simp
  · rw [armedBy_append, (first m).2, (second m).2]
    by_cases same : method = m <;> simp [same]

theorem Rearms.after (inert : Adds Inert w w₁) (second : Rearms anew method steps w₁ w') :
    Rearms anew method steps w w' := by
  obtain ⟨xs, eq, inert⟩ := inert
  obtain ⟨ys, eq', second⟩ := second
  refine ⟨xs ++ ys, by rw [eq', eq, List.append_assoc], fun m => ⟨?_, fun armed => ?_⟩⟩
  · rw [clearedBy_append, clearedBy_of_inert inert, (second m).1, Bool.false_or]
  · rw [armedBy_append, armedBy_of_inert inert, (second m).2]

end

/-! ## Calls -/

namespace Session

theorem unrelated_call (s : Session) {c : Call} (other : ∀ send, c ≠ .perform send) :
    Along (Adds Unrelated) (s.call c) :=
  Adds.ask fun _ => unrelated_of_call other

theorem unrelated_of_drains (s : Session) (c : Call) (reply : c.Reply) (drains : c.drains = true) :
    Unrelated ⟨some s.handle, c, reply⟩ :=
  unrelated_of_call fun send (same : c = .perform send) => by
    rw [same] at drains
    cases drains

variable {s : Session} {α : Type}

theorem unrelated_request {act : Act (Except CallError α)} (unrelated : Along (Adds Unrelated) act) :
    Along (Adds Unrelated) (s.request act).run :=
  .attemptBind (lasts_adds Unrelated) (s.ensureIdle_adds s.unrelated_of_drains) fun _ => unrelated

theorem unrelated_perform {selector : String} (clears : selector ≠ "clearAllBreaks")
    (sets : selector ≠ "setBreakAtStepPoint:") (receiver : Oop) (args : List Oop) :
    Along (Adds Unrelated) (s.perform receiver selector args).run :=
  unrelated_request (Adds.ask fun reply => unrelated_of_selector clears sets reply)

theorem unrelated_newSymbol (name : String) : Along (Adds Unrelated) (s.newSymbol name).run :=
  unrelated_request (s.unrelated_call nofun)

theorem unrelated_fetchString (oop : Oop) : Along (Adds Unrelated) (s.fetchString oop).run := by
  refine .attemptBind (lasts_adds _) (unrelated_request (s.unrelated_call nofun)) fun first => ?_
  split
  · exact .attemptBind (lasts_adds _) (s.unrelated_call nofun) fun _ => .attemptPure (lasts_adds _) _
  · exact .attemptPure (lasts_adds _) _

theorem unrelated_fetchAllOops (oop : Oop) : Along (Adds Unrelated) (s.fetchAllOops oop).run := by
  refine .attemptBind (lasts_adds _) (unrelated_request (s.unrelated_call nofun)) fun size => ?_
  split
  · exact .attemptPure (lasts_adds _) _
  · exact s.unrelated_call nofun

theorem unrelated_fetchSource (method : Oop) : Along (Adds Unrelated) (s.fetchSource method).run := by
  have lasts := lasts_adds Unrelated
  refine .attemptBind lasts (unrelated_perform (by decide) (by decide) _ _) fun string => ?_
  refine .attemptBind lasts (unrelated_fetchString _) fun text => ?_
  refine .attemptBind lasts (unrelated_perform (by decide) (by decide) _ _) fun array => ?_
  refine .attemptBind lasts (unrelated_fetchAllOops _) fun oops => ?_
  exact .attemptBind lasts (.mk (.pure lasts _)) fun offsets => .attemptPure lasts _

theorem unrelated_compiledMethodAt (cls : Oop) (selector : String) (env : Nat) :
    Along (Adds Unrelated) (s.compiledMethodAt cls selector env).run :=
  .attemptBind (lasts_adds Unrelated) (unrelated_newSymbol selector) fun _ =>
    unrelated_perform (by decide) (by decide) _ _

variable {receiver : Oop} {selector : String} {args : List Oop} {w w' : World}

theorem perform_apply {result : Except CallError Oop}
    (ran : s.perform receiver selector args w = (result, w')) :
    ∃ earlier, (∀ x ∈ earlier, x.Inert) ∧
      (result = .error .sessionBusy ∧ w'.transcript = w.transcript ++ earlier ∨
        w'.transcript = w.transcript ++
          (earlier ++ [⟨some s.handle, .perform { receiver, selector, args }, result⟩])) :=
  request_apply (fun c reply drains => (s.unrelated_of_drains c reply drains).inert)
    (fun reply => ⟨some s.handle, .perform { receiver, selector, args }, reply⟩) (fun _ => rfl) ran

theorem inert_of_perform_error {e : CallError}
    (ran : s.perform receiver selector args w = (.error e, w')) : Adds Inert w w' := by
  obtain ⟨earlier, inert, ⟨-, refused⟩ | sent⟩ := perform_apply ran
  · exact ⟨earlier, refused, inert⟩
  · refine ⟨_, sent, fun x member => ?_⟩
    rcases List.mem_append.mp member with old | new
    · exact inert x old
    · cases List.mem_singleton.mp new
      exact fun _ => ⟨rfl, rfl⟩

theorem rearms_perform {v : Oop} (ran : s.perform receiver selector args w = (.ok v, w')) :
    Rearms (selector == "clearAllBreaks") receiver
      (if selector == "setBreakAtStepPoint:" then args else []) w w' := by
  obtain ⟨earlier, inert, ⟨failed, -⟩ | sent⟩ := perform_apply ran
  · cases failed
  have before : Adds Inert w { w with transcript := w.transcript ++ earlier } := ⟨earlier, rfl, inert⟩
  rw [← List.append_assoc] at sent
  refine .after before ⟨_, sent, fun m => ⟨?_, fun armed => ?_⟩⟩
  · simp [clearedBy, clears, Bool.and_comm]
  · by_cases same : receiver = m
    · by_cases cleared : selector = "clearAllBreaks" <;>
        simp [armedBy, arm, clears, sets, same, cleared]
    · simp [armedBy, arm, clears, sets, same]

end Session

/-! ## Requests -/

def TrackedBreakpoint.step (b : TrackedBreakpoint) : Oop := .ofSmallInt b.stepPoint

namespace Debug

open Source Session

variable {s : Session} {d d' : DebugSession} {w w' : World} {path : String} {α : Type}

/-- No breakpoint is touched, neither here nor in the VM. -/
def Idles (x y : DebugSession × World) : Prop := y.1 = x.1 ∧ Adds Inert x.2 y.2

theorem lasts_idles : Lasts Idles where
  refl x := ⟨rfl, (lasts_adds _).refl x.2⟩
  trans h h' := ⟨h'.1.trans h.1, (lasts_adds _).trans h.2 h'.2⟩

theorem idles_remote {act : Attempt α} (unrelated : Along (Adds Unrelated) act.run) :
    Staged.Along Idles (remote act).run :=
  .bind lasts_idles (fun _ w => ⟨rfl, (unrelated w).mono fun _ => Unrelated.inert⟩)
    fun _ => .pure lasts_idles _

theorem idles_methodAt (s : Session) (path : String) : Staged.Along Idles (methodAt s path).run := by
  refine .attemptBind lasts_idles (.pure lasts_idles _) fun l => ?_
  refine .attemptBind lasts_idles ?_ fun cls => ?_
  · refine .attemptBind lasts_idles (idles_remote (unrelated_request (s.unrelated_call nofun))) ?_
    intro dictionary
    refine .attemptBind lasts_idles (idles_remote (unrelated_newSymbol _)) fun name => ?_
    refine .attemptBind lasts_idles (idles_remote (unrelated_perform (by decide) (by decide) _ _)) ?_
    intro cls
    dsimp only
    split
    · exact .throw lasts_idles _
    · split
      · exact .attemptPure lasts_idles _
      · exact idles_remote (unrelated_perform (by decide) (by decide) _ _)
  · refine .attemptBind lasts_idles (idles_remote (unrelated_compiledMethodAt _ _ _)) fun method => ?_
    dsimp only
    split
    · exact .throw lasts_idles _
    · exact .attemptPure lasts_idles _

/-! ### Lines -/

/-- A step point is set exactly if it is tracked. -/
theorem rearms_of_asked {p : Placing} {method : Oop} (asked : p.Asked s method w w') :
    Rearms false method (p.tracking.toList.map TrackedBreakpoint.step) w w' := by
  cases p with
  | none =>
      obtain rfl : w' = w := asked
      exact rearms_of_inert method ((lasts_adds _).refl w')
  | some placed =>
      obtain ⟨m, reply⟩ := placed
      obtain ⟨w₁, ran, quiet⟩ := asked
      have inert : Adds Inert w₁ w' := .of_transcript_eq quiet.transcript
      cases reply with
      | error e =>
          exact rearms_of_inert method ((lasts_adds _).trans (inert_of_perform_error ran) inert)
      | ok value => exact (rearms_perform ran).trans (rearms_of_inert method inert)

theorem rearms_of_allAsked {placings : List Placing} {method : Oop}
    (asked : Placing.AllAsked s method placings w w') :
    Rearms false method ((placings.filterMap Placing.tracking).map TrackedBreakpoint.step) w w' := by
  induction asked with
  | nil => exact rearms_of_inert method ((lasts_adds _).refl _)
  | @cons p placings _ _ _ first _ ih =>
      have sets := (rearms_of_asked first).trans ih
      rw [← List.map_append] at sets
      cases tracked : p.tracking with
      | none => simpa [tracked] using sets
      | some b => simpa [tracked] using sets

/-! ### Documents -/

/-- What a request for the breakpoints of a document does. -/
inductive Replaces (path : String) (x y : DebugSession × World) : Prop where
  /-- The method is not found or not cleared. -/
  | refused (documents : y.1.documents = x.1.documents) (inert : Adds Inert x.2 y.2)
  /-- Nothing is set in the method after it was cleared. -/
  | cleared (method : Oop)
    (documents : y.1.documents = x.1.documents.filter fun doc => doc.path != path)
    (rearms : Rearms true method [] x.2 y.2)
  | replaced (method : Oop) (breakpoints : List TrackedBreakpoint)
    (documents : y.1.documents =
      (x.1.documents.filter fun doc => doc.path != path) ++ [⟨path, method, breakpoints⟩])
    (rearms : Rearms true method (breakpoints.map TrackedBreakpoint.step) x.2 y.2)

theorem Replaces.after {x y z : DebugSession × World} (idles : Idles x y)
    (replaces : Replaces path y z) : Replaces path x z := by
  obtain ⟨same, inert⟩ := idles
  cases replaces with
  | refused documents inert' =>
      exact .refused (same ▸ documents) ((lasts_adds _).trans inert inert')
  | cleared method documents rearms => exact .cleared method (same ▸ documents) (rearms.after inert)
  | replaced method breakpoints documents rearms =>
      exact .replaced method breakpoints (same ▸ documents) (rearms.after inert)

theorem Replaces.mem_documents {x y : DebugSession × World} (replaces : Replaces path x y)
    {doc : Document} (member : doc ∈ x.1.documents) (other : doc.path ≠ path) :
    doc ∈ y.1.documents := by
  have stays : doc ∈ x.1.documents.filter fun doc => doc.path != path :=
    List.mem_filter.mpr ⟨member, by simpa using other⟩
  cases replaces with
  | refused documents => exact documents ▸ member
  | cleared _ documents => exact documents ▸ stays
  | replaced _ _ documents => exact documents ▸ List.mem_append_left _ stays

theorem replaces_setMethodBreakpoints (s : Session) (path : String) (method : Oop)
    (lines : List Int) : Staged.Along (Replaces path) (setMethodBreakpoints s path method lines) := by
  intro d w
  obtain ⟨views, documents, w', ran, course⟩ := setMethodBreakpoints_apply s path method lines d w
  rw [Staged.ends_of ran]
  have inert_of_quiet {w w' : World} (quiet : Quiet w w') : Adds Inert w w' :=
    .of_transcript_eq quiet.transcript
  have inert_of_fetched {w w' : World} {result : Except CallError MethodSource}
      (fetched : s.fetchSource method w = (result, w')) : Adds Inert w w' := by
    have unrelated := unrelated_fetchSource (s := s) method w
    rw [ExceptT.run, fetched] at unrelated
    exact unrelated.mono fun _ => Unrelated.inert
  cases course with
  | uncleared cleared quiet =>
      exact .refused rfl ((lasts_adds _).trans (inert_of_perform_error cleared)
        (inert_of_quiet quiet))
  | emptied _ cleared => exact .cleared method rfl (rearms_perform cleared)
  | unfetched _ cleared fetched quiet =>
      have inert := (lasts_adds _).trans (inert_of_fetched fetched) (inert_of_quiet quiet)
      exact .cleared method rfl
        ((rearms_perform cleared).trans (rearms_of_inert method inert))
  | set _ cleared fetched _ asked quiet =>
      have sets := ((rearms_of_allAsked asked).after (inert_of_fetched fetched)).trans
        (rearms_of_inert method (inert_of_quiet quiet))
      rw [List.append_nil] at sets
      exact .replaced method _ rfl ((rearms_perform cleared).trans sets)

theorem replaces_setBreakpoints (path : String) (lines : List Int) :
    Staged.Along (Replaces path) (setBreakpoints path lines).run := by
  intro d w
  have nothing (x : DebugSession × World) : Replaces path x x :=
    .refused rfl ((lasts_adds _).refl x.2)
  show Replaces path (d, w)
    (((setBreakpoints path lines) d w).1.2, ((setBreakpoints path lines) d w).2)
  rw [setBreakpoints]
  cases bound : d.session with
  | none =>
      rw [Staged.attempt_bind_error (session_of_none bound w)]
      exact nothing _
  | some s =>
      rw [Staged.attempt_bind_ok (session_of bound w)]
      have resolves : Idles (d, w) (Staged.ends (methodAt s path) d w) := idles_methodAt s path d w
      rcases resolved : methodAt s path d w with ⟨⟨e | method, d'⟩, w'⟩
      · rw [Staged.ends_of resolved] at resolves
        rw [Staged.attempt_bind_error resolved]
        exact (nothing _).after resolves
      · rw [Staged.ends_of resolved] at resolves
        rw [Staged.attempt_bind_ok resolved]
        exact (replaces_setMethodBreakpoints s path method lines d' w').after resolves

/-! ## Sequences of requests -/

/-- Paths with the lines requested for them, one request after the other. -/
def setAll : List (String × List Int) → Debugging Unit
  | [] => return ()
  | (path, lines) :: rest => do
    discard (setBreakpoints path lines).run
    setAll rest

def made (w w' : World) : List Exchange := w'.transcript.drop w.transcript.length

/-- The path whose request was the last to clear the method; `owner` when none does. -/
def lastCleared (method : Oop) (owner : Option String) :
    List (String × List Int) → DebugSession → World → Option String
  | [], _, _ => owner
  | (path, lines) :: rest, d, w =>
    let (d', w') := Staged.ends (setBreakpoints path lines).run d w
    lastCleared method (if clearedBy (made w w') method then some path else owner) rest d' w'

end Debug

def Document.Mirrors (doc : Document) (armed : List Oop) : Prop :=
  ∀ step, step ∈ armed ↔ step ∈ doc.breakpoints.map TrackedBreakpoint.step

namespace Debug

/-- Every document's method was cleared for some path; if that is its own, it mirrors the VM. -/
def Kept (owner : Oop → Option String) (armed : Oop → List Oop) (documents : List Document) : Prop :=
  ∀ doc ∈ documents, ∃ path, owner doc.method = some path ∧
    (path = doc.path → doc.Mirrors (armed doc.method))

theorem made_of_append {xs : List Exchange} (eq : w'.transcript = w.transcript ++ xs) :
    made w w' = xs := by
  rw [made, eq, List.drop_left]

theorem kept_of_rearms {owner : Oop → Option String} {armed : Oop → List Oop}
    {documents : List Document} {method : Oop} {steps : List Oop} (kept : Kept owner armed documents)
    (rearms : Rearms true method steps w w') :
    Kept (fun m => if clearedBy (made w w') m then some path else owner m)
      (fun m => armedBy (made w w') m (armed m)) (documents.filter fun doc => doc.path != path) := by
  obtain ⟨xs, eq, effect⟩ := rearms
  rw [made_of_append eq]
  intro doc member
  obtain ⟨member, other⟩ := List.mem_filter.mp member
  obtain ⟨owned, own, mirrors⟩ := kept doc member
  obtain ⟨cleared, armed⟩ := effect doc.method
  dsimp only
  rw [cleared, armed]
  by_cases same : method = doc.method
  -- The document has lost its method to this path, which is another: its own document is dropped.
  · refine ⟨path, by simp [same], fun eq => ?_⟩
    simp [eq] at other
  · exact ⟨owned, by simpa [same] using own, by simpa [same] using mirrors⟩

theorem kept_of_replaces {owner : Oop → Option String} {armed : Oop → List Oop}
    (kept : Kept owner armed d.documents) (replaces : Replaces path (d, w) (d', w')) :
    Kept (fun m => if clearedBy (made w w') m then some path else owner m)
      (fun m => armedBy (made w w') m (armed m)) d'.documents := by
  cases replaces with
  | refused documents inert =>
      obtain ⟨xs, eq, inert⟩ := inert
      rw [show d'.documents = d.documents from documents, made_of_append eq]
      intro doc member
      simpa [clearedBy_of_inert inert, armedBy_of_inert inert] using kept doc member
  | cleared method documents rearms =>
      rw [show d'.documents = _ from documents]
      exact kept_of_rearms kept rearms
  | replaced method breakpoints documents rearms =>
      rw [show d'.documents = _ from documents]
      refine List.forall_mem_append.mpr ⟨kept_of_rearms kept rearms, ?_⟩
      obtain ⟨xs, eq, effect⟩ := rearms
      obtain ⟨cleared, armed⟩ := effect method
      rw [made_of_append eq]
      refine List.forall_mem_singleton.mpr ⟨path, ?_, fun _ step => ?_⟩
      · simp [cleared]
      · simp [armed]

theorem transcript_of_replaces (replaces : Replaces path (d, w) (d', w')) :
    w'.transcript = w.transcript ++ made w w' := by
  have append {xs : List Exchange} (eq : w'.transcript = w.transcript ++ xs) :
      w'.transcript = w.transcript ++ made w w' := by
    rw [made_of_append eq, eq]
  cases replaces with
  | refused _ inert => exact let ⟨_, eq, _⟩ := inert; append eq
  | cleared _ _ rearms => exact let ⟨_, eq, _⟩ := rearms; append eq
  | replaced _ _ _ rearms => exact let ⟨_, eq, _⟩ := rearms; append eq

theorem kept_setAll (asked : List (String × List Int)) (d : DebugSession) (w : World)
    (owner : Oop → Option String) (armed : Oop → List Oop) (kept : Kept owner armed d.documents) :
    ∃ xs, (Staged.ends (setAll asked) d w).2.transcript = w.transcript ++ xs ∧
      Kept (fun m => lastCleared m (owner m) asked d w) (fun m => armedBy xs m (armed m))
        (Staged.ends (setAll asked) d w).1.documents := by
  -- What one request makes of the owners and of what is set is where the others start from.
  induction asked generalizing d w owner armed with
  | nil => exact ⟨[], (List.append_nil _).symm, kept⟩
  | cons request asked ih =>
      obtain ⟨path, lines⟩ := request
      have replaces := replaces_setBreakpoints path lines d w
      rcases ran : (setBreakpoints path lines).run d w with ⟨⟨result, d'⟩, w'⟩
      rw [Staged.ends_of ran] at replaces
      obtain ⟨xs, eq, kept⟩ := ih d' w' _ _ (kept_of_replaces kept replaces)
      have ends : Staged.ends (setAll ((path, lines) :: asked)) d w =
          Staged.ends (setAll asked) d' w' := by
        rw [setAll, Staged.ends, Staged.bind_of (Staged.discard_of ran)]
      refine ⟨made w w' ++ xs, ?_, ?_⟩
      · rw [ends, eq, transcript_of_replaces replaces, List.append_assoc]
      · rw [ends]
        simpa only [lastCleared, ran, armedBy_append] using kept

/-- What is set in a method is what is tracked for a document, as long as the last request that cleared
the method was one for this document. A request for another document that leads to the same method
leaves the document as it is. `armed` is what was set in the beginning. -/
theorem mirrors_unless_cleared_elsewhere (d : DebugSession) (w : World)
    (asked : List (String × List Int)) (armed : Oop → List Oop) :
    let start := { d with documents := [] }
    let (d', w') := Staged.ends (setAll asked) start w
    (∀ doc ∈ d'.documents, ∃ path, lastCleared doc.method none asked start w = some path ∧
      (path = doc.path → doc.Mirrors (armedBy (made w w') doc.method (armed doc.method)))) ∧
    ∀ path lines, ∀ doc ∈ d'.documents, doc.path ≠ path →
      doc ∈ (Staged.ends (setBreakpoints path lines).run d' w').1.documents := by
  intro start
  obtain ⟨xs, eq, kept⟩ := kept_setAll asked start w (fun _ => none) armed (by simp [Kept, start])
  refine ⟨by simpa only [made_of_append eq, Kept] using kept, fun path lines doc member other => ?_⟩
  exact (replaces_setBreakpoints path lines _ _).mem_documents member other

/-- Two paths to one method: clearing it for the second leaves the document of the first, though
nothing is set any more. -/
theorem tracked_though_cleared :
    let path := "/Globals/Calculator/instance/running/run"
    let method : Oop := .ofNat 130817
    let vm : VM := fun _ _ c => match c with
      | .resolveSymbol .. => .ok (.ofNat 134145)
      | .newSymbol _ => .ok (.ofNat 264705)
      | .perform _ => .ok method
      | .fetchUtf8Bytes .. => .ok { bytes := [97, 32, 98], required := 3 }
      | .fetchSize _ => .ok 1
      | .fetchOops .. => .ok [.ofSmallInt 3]
      | c => Foreign.refuse (.other "") c
    let d : DebugSession := { session := some ⟨1, ⟨1⟩, ""⟩ }
    let w : World := { vm, horizon := 0 }
    let (d', w') := Staged.ends (setAll [(path, [1]), (path ++ "?env=0", [])]) d w
    let doc : Document := ⟨path, method, [⟨1, 1⟩]⟩
    d'.documents = [doc] ∧ armedBy (made w w') method [] = [] ∧ ¬doc.Mirrors [] := by
  refine ⟨by decide +kernel, by decide +kernel, fun mirrors => ?_⟩
  cases (mirrors (.ofSmallInt 1)).mpr (by simp [TrackedBreakpoint.step])

end Debug

end StoneDebug
