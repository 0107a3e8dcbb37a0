import Mathlib.Data.List.Forall2
import StoneDebug.Proofs.Session.Busy
import StoneDebug.Proofs.Traversal.Boundary

/-! # Traversals in several pages

The VM answers a traversal page by page. It is asked for another page after each one that holds
reports and is not the last, and for none after any other reply; the reports of all pages are put
together in their order. The status of a page and its reports have nothing to do with each other: the
last page may be empty, and an empty page that is not the last means that the next object does not fit.
-/

namespace StoneDebug

open Traversal

abbrev PageReply := Except CallError Page

namespace PageReply

variable {capacity : Nat}

/-- The VM has written a buffer for this page that decodes to these reports. -/
def Decodes (capacity : Nat) (page : Page) (reports : List ObjectReport) : Prop :=
  decode ((TraversalBuffer.withCapacity capacity).overlay page.written).bytes = .ok reports

/-- No page is asked for after this reply. -/
def Stops (capacity : Nat) : PageReply → Prop
  | .error _ => True
  | .ok page => page.status = .complete ∨ Decodes capacity page []

/-- A page with these reports, and not the last. -/
def Continues (capacity : Nat) (reply : PageReply) (reports : List ObjectReport) : Prop :=
  ∃ page, reply = .ok page ∧ page.status = .more ∧ Decodes capacity page reports ∧ reports ≠ []

/-- What a traversal comes to with a reply that is its last, after pages with the reports `seen`. -/
inductive Concludes (capacity : Nat) (seen : List ObjectReport) :
    PageReply → Except CallError (List ObjectReport) → Prop
  | complete {page : Page} {reports : List ObjectReport} (last : page.status = .complete)
    (decodes : Decodes capacity page reports) :
    Concludes capacity seen (.ok page) (.ok (seen ++ reports))
  | empty {page : Page} (more : page.status = .more) (decodes : Decodes capacity page []) :
    Concludes capacity seen (.ok page) (.error (.traversal (.emptyPage capacity)))
  | failed (e : CallError) : Concludes capacity seen (.error e) (.error e)

/-- Of the replies that the VM has, `asked` are those up to the first one that stops the traversal, and
`result` is what it comes to. -/
def Follows (capacity : Nat) (seen : List ObjectReport) (replies asked : List PageReply)
    (result : Except CallError (List ObjectReport)) : Prop :=
  ∃ turned parts last, asked = turned ++ [last] ∧ asked <+: replies ∧
    List.Forall₂ (Continues capacity) turned parts ∧
    Concludes capacity (seen ++ parts.flatten) last result

/-- A fresh buffer has a header, and keeps one whatever is written into it. -/
theorem exists_decodes (capacity : Nat) (page : Page) : ∃ reports, Decodes capacity page reports := by
  refine ⟨_, decode_of_headed ?_⟩
  rw [TraversalBuffer.bytes_overlay]
  simp only [List.length_append, List.length_take, List.length_drop, TraversalBuffer.length_bytes,
    TraversalBuffer.withCapacity, TraversalBuffer.length, length_header]
  omega

theorem pageReports_of_decodes {page : Page} {reports : List ObjectReport}
    (decodes : Decodes capacity page reports) :
    Session.pageReports (TraversalBuffer.withCapacity capacity) page = .ok reports := by
  rw [Session.pageReports, TraversalBuffer.reports_eq_decode, show decode _ = _ from decodes]
  rfl

theorem Decodes.unique {page : Page} {reports others : List ObjectReport}
    (first : Decodes capacity page reports) (second : Decodes capacity page others) :
    reports = others :=
  Except.ok.inj (first.symm.trans second)

variable {seen reports : List ObjectReport} {reply : PageReply} {replies asked : List PageReply}
  {result : Except CallError (List ObjectReport)}

theorem continues_of_not_stops {page : Page} (decodes : Decodes capacity page reports)
    (turns : ¬Stops capacity (.ok page)) :
    page.status = .more ∧ Continues capacity (.ok page) reports := by
  have more : page.status = .more := by
    cases status : page.status with
    | complete => exact absurd (.inl status) turns
    | more => rfl
  refine ⟨more, page, rfl, more, decodes, ?_⟩
  rintro rfl
  exact turns (.inr decodes)

theorem Concludes.follows (concludes : Concludes capacity seen reply result)
    (replies : List PageReply) : Follows capacity seen (reply :: replies) [reply] result :=
  ⟨[], [], reply, rfl, List.prefix_append [reply] replies, .nil,
    by simpa only [List.flatten_nil, List.append_nil] using concludes⟩

theorem Follows.cons (continues : Continues capacity reply reports)
    (follows : Follows capacity (seen ++ reports) replies asked result) :
    Follows capacity seen (reply :: replies) (reply :: asked) result := by
  obtain ⟨turned, parts, last, rfl, front, turns, concludes⟩ := follows
  refine ⟨reply :: turned, reports :: parts, last, rfl, ?_, .cons continues turns, ?_⟩
  · exact (List.prefix_cons_inj reply).mpr front
  · rwa [List.flatten_cons, ← List.append_assoc]

end PageReply

namespace Session

open PageReply

variable {s : Session} {capacity : Nat} {oops : List Oop} {args : TraversalArgs}

def furtherPage (s : Session) (capacity : Nat) (reply : PageReply) : Exchange :=
  ⟨some s.handle, .moreTraversal (.withCapacity capacity), reply⟩

/-- The exchanges of a traversal that was answered by these replies. -/
def pageExchanges (s : Session) (oops : List Oop) (args : TraversalArgs) :
    List PageReply → List Exchange
  | [] => []
  | first :: further =>
    let capacity := args.bufferSize.toNat
    ⟨some s.handle, .fetchTraversal oops args (.withCapacity capacity), first⟩ ::
      further.map (s.furtherPage capacity)

/-- The VM answers calls for further pages by these replies, one after the other. -/
def Supplies (vm : VM) (s : Session) (capacity : Nat) : List Exchange → List PageReply → Prop
  | _, [] => True
  | history, reply :: further =>
    vm history (some s.handle) (.moreTraversal (.withCapacity capacity)) = reply ∧
      Supplies vm s capacity (history ++ [s.furtherPage capacity reply]) further

/-- The VM answers a traversal by these replies, one after the other. -/
def Answers (w : World) (s : Session) (oops : List Oop) (args : TraversalArgs) :
    List PageReply → Prop
  | [] => True
  | first :: further =>
    w.vm w.transcript (some s.handle)
      (.fetchTraversal oops args (.withCapacity args.bufferSize.toNat)) = first ∧
      Supplies w.vm s args.bufferSize.toNat
        (w.transcript ++ s.pageExchanges oops args [first]) further

theorem followPages_complete (pages : Nat) (seen reports : List ObjectReport) (w : World) :
    s.followPages capacity pages seen .complete reports w = (.ok (some (seen ++ reports)), w) := by
  cases pages <;> rfl

theorem followPages_empty (pages : Nat) (seen : List ObjectReport) (w : World) :
    s.followPages capacity pages seen .more [] w =
      (.error (.traversal (.emptyPage capacity)), w) := by
  cases pages <;> rfl

section

variable {page : Page} {seen reports : List ObjectReport} {pages : Nat} {w w' : World}

/-- What is made of a page and the replies after it, of which some are asked for. -/
def Collects (s : Session) (capacity pages : Nat) (seen : List ObjectReport) (page : Page)
    (reports : List ObjectReport) (replies : List PageReply) (w : World) : Prop :=
  ∃ asked result, Follows capacity seen (.ok page :: replies) (.ok page :: asked) result ∧
    s.followPages capacity pages seen page.status reports w =
      (result.map some, w.noting (asked.map (s.furtherPage capacity)))

/-- Past a page that stops the traversal the VM is not asked. -/
theorem collects_of_stops (decodes : Decodes capacity page reports)
    (stops : Stops capacity (.ok page)) (replies : List PageReply) :
    s.Collects capacity pages seen page reports replies w := by
  suffices ends : ∃ result, Concludes capacity seen (.ok page) result ∧
      s.followPages capacity pages seen page.status reports w = (result.map some, w) by
    obtain ⟨result, concludes, ran⟩ := ends
    exact ⟨[], result, concludes.follows replies, by rw [ran, List.map_nil, w.noting_nil]⟩
  cases status : page.status with
  | complete => exact ⟨_, .complete status decodes, followPages_complete pages seen reports w⟩
  | more =>
      have empty : Decodes capacity page [] := stops.resolve_left (by simp [status])
      obtain rfl := decodes.unique empty
      exact ⟨_, .empty status decodes, followPages_empty pages seen w⟩

/-- Otherwise the call for a further page comes next. -/
theorem followPages_of_error {e : CallError} (some : reports ≠ [])
    (asked : s.call (.moreTraversal (.withCapacity capacity)) w = (.error e, w')) :
    s.followPages capacity (pages + 1) seen .more reports w = (.error e, w') := by
  rw [followPages, if_neg (by simpa using some)]
  exact attempt_bind_error asked

theorem followPages_of_page {next : List ObjectReport} (some : reports ≠ [])
    (asked : s.call (.moreTraversal (.withCapacity capacity)) w = (.ok page, w'))
    (decodes : Decodes capacity page next) :
    s.followPages capacity (pages + 1) seen .more reports w =
      s.followPages capacity pages (seen ++ reports) page.status next w' := by
  rw [followPages, if_neg (by simpa using some)]
  refine (attempt_bind_ok asked).trans (attempt_bind_ok ?_)
  rw [pageReports_of_decodes decodes]
  rfl

/-- The VM is asked for one page after the other, up to the reply that stops the traversal. -/
theorem collects_of_supplies (s : Session) (pages : Nat) (seen : List ObjectReport) (w : World)
    {replies : List PageReply} (decodes : Decodes capacity page reports)
    (supplies : Supplies w.vm s capacity w.transcript replies)
    (stops : ∃ reply ∈ .ok page :: replies, Stops capacity reply)
    (reach : replies.length ≤ pages) : s.Collects capacity pages seen page reports replies w := by
  induction replies generalizing page reports w pages seen with
  | nil => exact collects_of_stops decodes (by simpa using stops) []
  | cons reply replies ih =>
      by_cases stopped : Stops capacity (.ok page)
      · exact collects_of_stops decodes stopped _
      obtain ⟨more, continues⟩ := continues_of_not_stops decodes stopped
      have some : reports ≠ [] := fun empty => stopped (.inr (empty ▸ decodes))
      have later : ∃ other ∈ reply :: replies, Stops capacity other := by
        obtain ⟨other, member, stop⟩ := stops
        rcases List.mem_cons.mp member with rfl | member
        · exact absurd stop stopped
        · exact ⟨other, member, stop⟩
      obtain ⟨answered, supplies⟩ := supplies
      have asked : s.call (.moreTraversal (.withCapacity capacity)) w =
          (reply, w.noting [s.furtherPage capacity reply]) := by
        rw [← answered]
        rfl
      obtain ⟨pages, rfl⟩ := Nat.exists_eq_add_of_le' (Nat.le_trans (Nat.le_add_left 1 _) reach)
      unfold Collects
      rw [more]
      cases reply with
      | error e =>
          exact ⟨[.error e], .error e, .cons continues ((Concludes.failed e).follows replies),
            followPages_of_error some asked⟩
      | ok page' =>
          obtain ⟨next, decodes'⟩ := exists_decodes capacity page'
          obtain ⟨asked', result, follows, ran⟩ := ih pages (seen ++ reports)
            (w.noting [s.furtherPage capacity (.ok page')]) decodes' supplies later
            (Nat.le_of_succ_le_succ reach)
          refine ⟨.ok page' :: asked', result, .cons continues follows, ?_⟩
          rw [followPages_of_page some asked decodes', ran, World.noting_noting]
          rfl

end

/-- Of an idle session's traversal nothing is lost and nothing comes twice, whatever the VM answers: it
is asked for the first page and then for one more after each page that holds reports and is not the
last. The world has to follow the traversal as far as the replies go. -/
theorem fetchTraversal_paged (s : Session) (oops : List Oop) (args : TraversalArgs)
    (replies : List PageReply) (w : World) (idle : w.callState s.id = .idle)
    (answers : Answers w s oops args replies)
    (stops : ∃ reply ∈ replies, Stops args.bufferSize.toNat reply)
    (reach : replies.length ≤ w.horizon + 1) :
    ∃ asked result, Follows args.bufferSize.toNat [] replies asked result ∧
      s.fetchTraversal oops args w =
        (result.map some, w.noting (s.pageExchanges oops args asked)) := by
  cases replies with
  | nil => simp at stops
  | cons first further =>
      obtain ⟨answered, supplies⟩ := answers
      have asked : (ExceptT.mk (s.call (.fetchTraversal oops args
          (.withCapacity args.bufferSize.toNat))) : Attempt Page) w =
          (first, w.noting (s.pageExchanges oops args [first])) := by
        rw [← answered]
        rfl
      rw [Session.fetchTraversal, attempt_bind_ok (ensureIdle_of_idle idle)]
      cases first with
      | error e =>
          exact ⟨[.error e], .error e, (Concludes.failed e).follows further,
            attempt_bind_error asked⟩
      | ok page =>
          obtain ⟨reports, decodes⟩ := exists_decodes args.bufferSize.toNat page
          obtain ⟨asked', result, follows, ran⟩ := collects_of_supplies s w.horizon []
            (w.noting (s.pageExchanges oops args [.ok page])) decodes supplies stops
            (Nat.le_of_succ_le_succ reach)
          refine ⟨.ok page :: asked', result, follows, ?_⟩
          have read (w' : World) : (ExceptT.mk (pure (pageReports
              (.withCapacity args.bufferSize.toNat) page)) : Attempt _) w' = (.ok reports, w') := by
            rw [pageReports_of_decodes decodes]
            rfl
          rw [attempt_bind_ok asked, attempt_bind_ok (read _)]
          refine ran.trans ?_
          rw [World.noting_noting]
          rfl

/-- Two pages of one report each, and an empty last one. -/
theorem fetchTraversal_paged_to_empty :
    let greeting : List ObjectReport :=
      [⟨Oop.ofNat 1025, Oop.ofNat 2049, 1, 0, 7, ⟨5⟩, [104, 101, 108, 108, 111]⟩]
    let written := header 0 48 ++ (greeting.map ObjectReport.encode).flatten
    let vm : VM := fun history _ c => match c with
      | .fetchTraversal .. => .ok ⟨.more, written⟩
      | .moreTraversal _ => if history.length = 1 then .ok ⟨.more, written⟩ else .ok ⟨.complete, []⟩
      | c => Foreign.refuse (.other "") c
    let s : Session := ⟨1, ⟨1⟩, ""⟩
    let args : TraversalArgs := { bufferSize := 64 }
    let w : World := { vm, horizon := 2 }
    let replies : List PageReply :=
      [.ok ⟨.more, written⟩, .ok ⟨.more, written⟩, .ok ⟨.complete, []⟩]
    w.callState s.id = .idle ∧ Answers w s [.nil] args replies ∧
      (∃ reply ∈ replies, Stops 64 reply) ∧ replies.length ≤ w.horizon + 1 ∧
      ∃ asked result, Follows 64 [] replies asked result ∧
        s.fetchTraversal [.nil] args w =
          (result.map some, w.noting (s.pageExchanges [.nil] args asked)) := by
  intro greeting written vm s args w replies
  have answers : Answers w s [.nil] args replies := ⟨rfl, rfl, rfl, trivial⟩
  have stops : ∃ reply ∈ replies, Stops 64 reply :=
    ⟨.ok ⟨.complete, []⟩, by simp [replies], .inl rfl⟩
  exact ⟨rfl, answers, stops, by decide,
    fetchTraversal_paged s [.nil] args replies w rfl answers stops (by decide)⟩

end Session

end StoneDebug
