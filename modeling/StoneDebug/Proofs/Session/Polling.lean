import StoneDebug.Proofs.Session.Calls

/-! # What a poller does

A poller stays with its session, and whatever holds along the calls of that session holds along a
call that it carries to its end.
-/

namespace StoneDebug

namespace Poller

/-- The poller drives a call of this session. -/
def Of (s : Session) (p : Poller) : Prop := p.session = s

variable {s : Session} {p : Poller}

theorem of_finish (of : p.Of s) (outcome : Outcome) : Yields (Of s) (p.finish outcome) := by
  unfold finish
  split
  · exact .bind fun _ => .pure of
  · exact .pure of

theorem of_interrupt (of : p.Of s) (hard : Bool) : Yields (Of s) (p.interrupt hard) := by
  refine .bind fun _ => .bind fun reply => ?_
  split
  · exact .pure of
  · exact .bind fun _ => .pure of

theorem of_showProgress (of : p.Of s) (elapsed : Nat) : Yields (Of s) (p.showProgress elapsed) := by
  dsimp only [showProgress]
  split
  · refine .bind fun _ => ?_
    split
    · exact .bind fun _ => .pure of
    · exact .pure of
  · split
    · exact .bind fun _ => .pure of
    · exact .pure of

theorem of_look (of : p.Of s) (attempt elapsed : Nat) : Yields (Of s) (p.look attempt elapsed) := by
  refine .bindOf (of_showProgress of elapsed) fun p of => .bind fun status => ?_
  split
  · exact .pure of
  · refine .bind fun result => ?_
    split <;> exact of_finish of _
  · exact of_finish of _

theorem of_poll (of : p.Of s) : Yields (Of s) p.poll := by
  unfold poll
  split
  · refine .bind fun w => ?_
    dsimp only
    split
    · split
      · exact .bindOf (of_interrupt of _) fun p of => of_look of _ _
      · exact .bindOf (of_interrupt of _) fun p of => .bind fun drained => of_finish of _
    · exact of_look of _ _
  · exact .pure of

theorem of_submit (of : p.Of s) (request : Submission) : Yields (Of s) (p.submit request) := by
  unfold submit
  split
  · refine .bind fun submitted => .bind fun w => ?_
    split
    · exact .pure of
    · exact of_finish (p := { p with title := request.title, started := w.clock }) of _
  · exact .bind fun _ => .pure of

end Poller

namespace Session.Drains

variable {s : Session} {R : World → World → Prop} (h : s.Drains R)
include h

theorem sleep (milliseconds : Nat) : Along R (sleep milliseconds) := fun w => h.tick _ w

theorem drainUntil (config : PollConfig) (deadline attempt : Nat) :
    Along R (Poller.drainUntil s config deadline attempt) := by
  intro w
  fun_induction Poller.drainUntil s config deadline attempt w with
  | case1 attempt w w' drained => simpa [drained] using h.drainOnce w
  | case2 attempt w w' running late =>
      have drained : R w w' := by simpa [running] using h.drainOnce w
      exact h.trans drained (Along.bind h.toLasts (h.log _ _ _) (fun _ => .pure h.toLasts _) w')
  | case3 attempt w w' running early ih =>
      have drained : R w w' := by simpa [running] using h.drainOnce w
      exact h.trans (h.trans drained (h.sleep _ w')) ih

end Session.Drains

namespace Session.Drives

open Poller

variable {s : Session} {R : World → World → Prop} {p : Poller} (h : s.Drives R) (of : p.Of s)
include h

theorem finish (p : Poller) (outcome : Outcome) : Along R (p.finish outcome) := by
  unfold Poller.finish
  split
  · exact .bind h.toLasts (h.aside _) fun _ => .pure h.toLasts _
  · exact .pure h.toLasts _

theorem showProgress (p : Poller) (elapsed : Nat) : Along R (p.showProgress elapsed) := by
  dsimp only [Poller.showProgress]
  split
  · refine .bind h.toLasts (h.aside _) fun _ => ?_
    split
    · exact .bind h.toLasts (h.aside _) fun _ => .pure h.toLasts _
    · exact .pure h.toLasts _
  · split
    · exact .bind h.toLasts (h.aside _) fun _ => .pure h.toLasts _
    · exact .pure h.toLasts _

include of

theorem drain : Along R p.drain := by
  obtain rfl := of
  exact fun w => h.toDrains.drainUntil _ _ _ w

theorem interrupt (hard : Bool) : Along R (p.interrupt hard) := by
  obtain rfl := of
  refine .bind h.toLasts (h.log _ _ _) fun _ => .bind h.toLasts (h.call _ rfl) fun reply => ?_
  split
  · exact .pure h.toLasts _
  · exact .bind h.toLasts (h.log _ _ _) fun _ => .pure h.toLasts _

theorem look (attempt elapsed : Nat) : Along R (p.look attempt elapsed) := by
  refine .bindOf h.toLasts (of_showProgress of elapsed) (h.showProgress p elapsed) ?_
  rintro p rfl
  refine .bind h.toLasts (h.toDrains.poll 0) fun status => ?_
  split
  · exact .pure h.toLasts _
  · refine .bind h.toLasts (h.call _ rfl) fun result => ?_
    split <;> exact h.finish _ _
  · exact h.finish _ _

theorem pollOnce : Along R p.poll := by
  unfold Poller.poll
  split
  · refine .bind h.toLasts (fun w => h.refl w) fun w => ?_
    dsimp only
    split
    · split
      · exact .bindOf h.toLasts (of_interrupt of _) (h.interrupt of _) fun p of => h.look of _ _
      · refine .bindOf h.toLasts (of_interrupt of _) (h.interrupt of _) fun p of => ?_
        exact .bind h.toLasts (h.drain of) fun drained => h.finish _ _
    · exact h.look of _ _
  · exact .pure h.toLasts _

theorem await (polls : Nat) : Along R (await polls p) := by
  induction polls generalizing p with
  | zero => exact .pure h.toLasts _
  | succ polls ih =>
      refine .bindOf h.toLasts (of_poll of) (h.pollOnce of) fun p of => ?_
      split
      · exact .pure h.toLasts _
      · exact .bind h.toLasts (h.toDrains.sleep _) fun _ => ih of

theorem submit (request : Submission) : Along R (p.submit request) := by
  unfold Poller.submit
  split
  · obtain rfl := of
    refine .bind h.toLasts ?_ fun submitted => .bind h.toLasts (fun w => h.refl w) fun w => ?_
    · cases request <;> exact h.call _ rfl
    · split
      · exact .pure h.toLasts _
      · exact h.finish _ _
  · exact .bind h.toLasts (h.log _ _ _) fun _ => .pure h.toLasts _

theorem runPoller (request : Submission) : Along R (p.run request) := by
  refine .bindOf h.toLasts (of_submit of request) (h.submit of request) fun p of => ?_
  exact .bind h.toLasts (fun w => h.refl w) fun w => h.await of _

end Session.Drives

namespace Session.Hosts

variable {s : Session} {R : World → World → Prop} (h : s.Hosts R)
include h

theorem beginCall : Along R s.beginCall.run :=
  .attemptBind h.toLasts h.ensureIdle fun _ => .lift (h.setCallState _)

theorem run (config : PollConfig) (submission : Submission) :
    Along R (s.run config submission).run := by
  refine .attemptBind h.toLasts h.beginCall fun _ => ?_
  have runs := h.toDrives.runPoller (p := { session := s, config }) rfl submission
  refine .attemptBind h.toLasts (.lift runs) fun outcome => ?_
  split
  · exact .attemptPure h.toLasts _
  · exact .attemptBind h.toLasts (.lift (h.setCallState _)) fun _ => .attemptPure h.toLasts _
  · exact .attemptBind h.toLasts (.lift (h.setCallState _)) fun _ => .attemptPure h.toLasts _

theorem runSource (config : PollConfig) (source : String) :
    Along R (s.runSource config source).run :=
  .attemptBind h.toLasts (h.toCarries.execution _ _) fun e => h.run config (.execute e)

end Session.Hosts

end StoneDebug
