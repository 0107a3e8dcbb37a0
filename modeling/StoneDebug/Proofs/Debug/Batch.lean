import StoneDebug.Proofs.Debug.Breakpoints
import StoneDebug.Proofs.Session.Busy

/-! # All breakpoints of a document at once

A request for the breakpoints of a document clears the method first. What is answered, what is tracked
and what the VM is asked belong together, wherever the VM refuses: nothing happens when the method
cannot be cleared, nothing is set when its source cannot be fetched, and one line that is refused makes
no difference to the others.
-/

namespace StoneDebug

open Source

/-! ## Sources -/

namespace Session

variable {s : Session} {w : World}

/-- What fetching a source comes to, with exchanges that have nothing to do with breakpoints. -/
structure Fetches (s : Session) (method : Oop) (w : World) (fetch : List Exchange)
    (result : Except CallError MethodSource) : Prop where
  result : (s.fetchSource method w).1 = result
  made : (s.fetchSource method w).2.transcript = w.transcript ++ fetch
  unrelated : ∀ x ∈ fetch, s.Own x ∧ x.Unrelated

theorem fetchSource_of_idle {method : Oop} {result : Except CallError MethodSource} {w' : World}
    (idle : w.callState s.id = .idle) (fetched : s.fetchSource method w = (result, w')) :
    ∃ fetch, s.Fetches method w fetch result ∧ w'.transcript = w.transcript ++ fetch ∧
      w'.callState s.id = .idle := by
  obtain ⟨fetch, added, own⟩ := Debug.along_fetchSource s.carries_own method w
  obtain ⟨fetch', added', unrelated⟩ := unrelated_fetchSource (s := s) method w
  obtain rfl := List.append_cancel_left (added.symm.trans added')
  have stays := Debug.along_fetchSource s.carries_staysIdle method w idle
  have fetches : s.Fetches method w fetch (s.fetchSource method w).1 :=
    ⟨rfl, added, fun x member => ⟨own x member, unrelated x member⟩⟩
  rw [ExceptT.run, fetched] at added stays
  rw [fetched] at fetches
  exact ⟨fetch, fetches, added, stays⟩

end Session

/-! ## One line -/

/-- The breakpoint as it is tracked, if it is shown as set. -/
def BreakpointView.tracking (view : BreakpointView) : Option TrackedBreakpoint :=
  if view.verified then view.stepPoint.map fun step => ⟨step, view.line.toNat⟩ else none

namespace Placing

def exchange (s : Session) (method : Oop) (p : Placing) : Option Exchange :=
  p.map fun (m, reply) =>
    s.sent ⟨method, "setBreakAtStepPoint:", [.ofSmallInt m.stepPoint], 0, 0⟩ reply

theorem tracking_view (line : Int) : (p : Placing) → (p.view line).tracking = p.tracking
  | none | some (_, .error _) | some (_, .ok _) => rfl

theorem asked_of_idle {s : Session} {method : Oop} {p : Placing} {w w' : World}
    (idle : w.callState s.id = .idle) (asked : p.Asked s method w w') :
    w'.transcript = w.transcript ++ (p.exchange s method).toList ∧ w'.callState s.id = .idle := by
  cases p with
  | none =>
      obtain rfl : w' = w := asked
      exact ⟨(List.append_nil _).symm, idle⟩
  | some placed =>
      obtain ⟨w₁, ran, quiet⟩ := asked
      obtain rfl := Session.perform_of_idle idle ran
      exact ⟨quiet.transcript, (congrFun quiet.callState s.id).trans idle⟩

theorem allAsked_of_idle {s : Session} {method : Oop} {placings : List Placing} {w w' : World}
    (idle : w.callState s.id = .idle) (asked : AllAsked s method placings w w') :
    w'.transcript = w.transcript ++ placings.filterMap (exchange s method) := by
  induction asked with
  | nil => exact (List.append_nil _).symm
  | @cons p placings _ _ _ first _ ih =>
      obtain ⟨made, idle⟩ := asked_of_idle idle first
      rw [ih idle, made, List.append_assoc]
      cases exchange : p.exchange s method <;> simp [exchange]

end Placing

namespace Debug

variable {s : Session} {w : World} {path : String} {method : Oop} {lines : List Int}

theorem filterMap_viewsOf {placings : List Placing} (counted : placings.length = lines.length) :
    (viewsOf lines placings).filterMap BreakpointView.tracking =
      placings.filterMap Placing.tracking := by
  induction placings generalizing lines with
  | nil => simp [viewsOf]
  | cons p placings ih =>
      cases lines with
      | nil => cases counted
      | cons line lines =>
          rw [viewsOf, List.zipWith_cons_cons, List.filterMap_cons, List.filterMap_cons,
            p.tracking_view line, ← viewsOf, ih (Nat.succ.inj counted)]

/-! ## All lines -/

/-- The entry of a document in the table. -/
def entry (documents : List Document) (path : String) : Option Document :=
  documents.find? fun doc => doc.path == path

/-- Only the entry of this document is replaced. -/
structure Updates (path : String) (new : Option Document) (before after : List Document) :
    Prop where
  own : entry after path = new
  others : ∀ other, other ≠ path → entry after other = entry before other

theorem updates_without (path : String) (documents : List Document) :
    Updates path none documents (without path documents) where
  own := by
    rw [entry, List.find?_eq_none]
    intro doc member
    simpa using (List.mem_filter.mp member).2
  others other differs := by
    rw [entry, entry, without, List.find?_filter]
    congr 1
    funext doc
    by_cases same : doc.path = other <;> simp [same, differs]

theorem Updates.insert {before after : List Document} (updates : Updates path none before after)
    (doc : Document) (named : doc.path = path) :
    Updates path (some doc) before (after ++ [doc]) where
  own := by
    have absent := updates.own
    rw [entry] at absent ⊢
    rw [List.find?_append, absent]
    simp [named]
  others other differs := by
    rw [← updates.others other differs, entry, entry, List.find?_append]
    have apart : ¬doc.path = other := fun same => differs (same.symm.trans named)
    simp [apart]

def clearing (s : Session) (method : Oop) (reply : Except CallError Oop) : Exchange :=
  s.sent ⟨method, "clearAllBreaks", [], 0, 0⟩ reply

/-- The ways in which the breakpoints of a document are replaced: what is shown, what is tracked, and
what the VM is asked. -/
inductive Batch (s : Session) (path : String) (method : Oop) (lines : List Int)
    (documents : List Document) (w : World) :
    List BreakpointView → List Document → List Exchange → Prop
  /-- The method is not cleared: everything stays as it is. -/
  | uncleared (e : CallError) :
    Batch s path method lines documents w
      (unverifiedAll lines ("breakpoints could not be cleared: " ++ e.message)) documents
      [clearing s method (.error e)]
  | emptied (value : Oop) (empty : lines = []) {documents' : List Document}
    (updates : Updates path none documents documents') :
    Batch s path method lines documents w [] documents' [clearing s method (.ok value)]
  | unfetched (value : Oop) (nonempty : lines ≠ []) {fetch : List Exchange} {e : CallError}
    (fetches : s.Fetches method (w.noting [clearing s method (.ok value)]) fetch (.error e))
    {documents' : List Document} (updates : Updates path none documents documents') :
    Batch s path method lines documents w
      (unverifiedAll lines ("method source unavailable: " ++ e.message)) documents'
      (clearing s method (.ok value) :: fetch)
  | set (value : Oop) (nonempty : lines ≠ []) {fetch : List Exchange} {source : MethodSource}
    (fetches : s.Fetches method (w.noting [clearing s method (.ok value)]) fetch (.ok source))
    (placings : List Placing)
    (mapped : placings.map Placing.mapping =
      lines.map fun line => mapLine line source.starts source.stepOffsets)
    {documents' : List Document}
    (updates : Updates path (some ⟨path, method,
      (viewsOf lines placings).filterMap BreakpointView.tracking⟩) documents documents') :
    Batch s path method lines documents w (viewsOf lines placings) documents'
      (clearing s method (.ok value) :: fetch ++
        placings.filterMap (Placing.exchange s method))

/-- A request for a document's breakpoints on an idle session is answered with one view for each line,
however much of it the VM refuses, and what is shown, what is tracked and what the VM is asked are those
of one of the ways in which it can go. -/
theorem batch_setMethodBreakpoints (s : Session) (path : String) (method : Oop) (lines : List Int)
    (d : DebugSession) (w : World) (idle : w.callState s.id = .idle) :
    ∃ views documents w' made, setMethodBreakpoints s path method lines d w =
        ((views, { d with documents }), w') ∧
      views.length = lines.length ∧ w'.transcript = w.transcript ++ made ∧
      Batch s path method lines d.documents w views documents made := by
  obtain ⟨views, documents, w', ran, course⟩ := setMethodBreakpoints_apply s path method lines d w
  have drops := updates_without path d.documents
  -- What is fetched comes after the message that has cleared the method.
  have after {value : Oop} {w₂ : World} {fetch : List Exchange}
      (made : w₂.transcript = (w.noting [clearing s method (.ok value)]).transcript ++ fetch) :
      w₂.transcript = w.transcript ++ (clearing s method (.ok value) :: fetch) := by
    rw [made, World.noting, List.append_assoc, List.singleton_append]
  refine ⟨views, documents, w', ?_⟩
  cases course with
  | uncleared cleared quiet =>
      obtain rfl := Session.perform_of_idle idle cleared
      exact ⟨_, ran, List.length_map _, quiet.transcript, .uncleared _⟩
  | emptied empty cleared =>
      obtain rfl := Session.perform_of_idle idle cleared
      exact ⟨_, ran, by rw [empty]; rfl, rfl, .emptied _ empty drops⟩
  | unfetched nonempty cleared fetched quiet =>
      obtain rfl := Session.perform_of_idle idle cleared
      obtain ⟨fetch, fetches, made, -⟩ := Session.fetchSource_of_idle (w := w.noting _) idle fetched
      exact ⟨_, ran, List.length_map _, quiet.transcript.trans (after made),
        .unfetched _ nonempty fetches drops⟩
  | @set _ _ placings _ _ _ _ nonempty cleared fetched mapped asked quiet =>
      obtain rfl := Session.perform_of_idle idle cleared
      obtain ⟨fetch, fetches, made, idle⟩ := Session.fetchSource_of_idle (w := w.noting _) idle fetched
      have counted : placings.length = lines.length := by
        simpa using congrArg List.length mapped
      have sets := Placing.allAsked_of_idle idle asked
      rw [after made, List.append_assoc] at sets
      refine ⟨_, ran, ?_, quiet.transcript.trans sets, ?_⟩
      · rw [viewsOf, List.length_zipWith, counted, Nat.min_self]
      · rw [← filterMap_viewsOf counted]
        exact .set _ nonempty fetches placings mapped (drops.insert _ rfl)

/-- The VM rejects the second step point, nothing is on the ninth line, and the first line is set. -/
theorem batch_setMethodBreakpoints_mixed :
    let path := "/Globals/Calculator/instance/running/run"
    let vm : VM := fun _ _ c => match c with
      | .perform send =>
        if send.args = [.ofSmallInt 2] then .error (.library "not a step point")
        else .ok (.ofNat 130817)
      | .fetchUtf8Bytes .. => .ok { bytes := [97, 10, 98], required := 3 }
      | .fetchSize _ => .ok 2
      | .fetchOops .. => .ok [.ofSmallInt 1, .ofSmallInt 3]
      | c => Foreign.refuse (.other "") c
    let s : Session := ⟨1, ⟨1⟩, ""⟩
    let w : World := { vm, horizon := 0 }
    let method : Oop := .ofNat 130817
    w.callState s.id = .idle ∧
      ∃ views documents w' made, setMethodBreakpoints s path method [2, 9, 1] {} w =
          ((views, { documents }), w') ∧
        views = [.unverified 2 rejected, .unverified 9 noStepPoint, ⟨true, 1, some 1, none⟩] ∧
        documents = [⟨path, method, [⟨1, 1⟩]⟩] ∧
        views.length = 3 ∧ w'.transcript = w.transcript ++ made ∧
        Batch s path method [2, 9, 1] [] w views documents made := by
  intro path vm s w method
  obtain ⟨views, documents, w', made, ran, counted, asked, batch⟩ :=
    batch_setMethodBreakpoints s path method [2, 9, 1] {} w rfl
  have shown : (setMethodBreakpoints s path method [2, 9, 1] {} w).1.1 =
      [.unverified 2 rejected, .unverified 9 noStepPoint, ⟨true, 1, some 1, none⟩] := by
    decide +kernel
  have tracked : (setMethodBreakpoints s path method [2, 9, 1] {} w).1.2.documents =
      [⟨path, method, [⟨1, 1⟩]⟩] := by
    decide +kernel
  rw [ran] at shown tracked
  exact ⟨rfl, views, documents, w', made, ran, shown, tracked, counted, asked, batch⟩

end Debug

end StoneDebug
