import StoneDebug.Foreign.Reply
import StoneDebug.Proofs.Debug.Control
import StoneDebug.Proofs.Session.Busy

/-! # What an evaluation leaves behind

An evaluation looks at a frame, executes the source and prints the result, and each of these can fail
with a suspended process. `Session.Blames` says that an error which names a process is the reply to
the last call made. So what comes after that call shows whether the process is cleared: it is when the
source was being executed, and at no other stage.
-/

namespace StoneDebug

inductive EvaluationStage where
  | context
  | execution
  | printing
deriving DecidableEq

/-- Of the debug session at most the frames have changed. -/
def DebugSession.SameButFrames (d d' : DebugSession) : Prop := ∃ frames, d' = { d with frames }

namespace Session

/-- The VM has answered a call of this stage with the error. -/
inductive Fails (s : Session) (e : CallError) : EvaluationStage → Exchange → Prop where
  | contents (send : Send) : Fails s e .context ⟨some s.handle, .perform send, .error e⟩
  | size (array : Oop) : Fails s e .context ⟨some s.handle, .fetchSize array, .error e⟩
  | slots (array : Oop) (start : Int) (count : Nat) :
      Fails s e .context ⟨some s.handle, .fetchOops array start count, .error e⟩
  | helper (name : String) (symbols : Oop) :
      Fails s e .execution ⟨some s.handle, .resolveSymbol name symbols, .error e⟩
  | source (request : Execution) : Fails s e .execution ⟨some s.handle, .execute request, .error e⟩
  | printed (send : Send) (max : Nat) :
      Fails s e .printing ⟨some s.handle, .performFetchBytes send max, .error e⟩

/-- The last of the exchanges made is the one that has failed. -/
def EndsWith (s : Session) (e : CallError) (stage : EvaluationStage) (w w' : World) : Prop :=
  ∃ earlier x, w'.transcript = w.transcript ++ (earlier ++ [x]) ∧ s.Fails e stage x

/-- From an idle session: when `act` fails with an error that names a process, that is the reply to
its last call. -/
def Blames (s : Session) (stage : EvaluationStage) {α : Type} (act : Attempt α) : Prop :=
  ∀ w w' e, w.callState s.id = .idle → act w = (.error e, w') → e.process?.isSome →
    s.EndsWith e stage w w'

variable {s : Session} {stage : EvaluationStage} {e : CallError} {w w₁ w' : World} {α β : Type}

theorem EndsWith.after {P : Exchange → Prop} (before : Adds P w w₁)
    (ends : s.EndsWith e stage w₁ w') : s.EndsWith e stage w w' := by
  obtain ⟨made, asked, _⟩ := before
  obtain ⟨earlier, x, later, fails⟩ := ends
  refine ⟨made ++ earlier, x, ?_, fails⟩
  rw [later, asked]
  simp

namespace Blames

theorem pure (a : α) : s.Blames stage (Pure.pure a : Attempt α) := by
  intro w w' e idle failed
  cases failed

theorem lift (act : Act α) : s.Blames stage (liftM act : Attempt α) := by
  intro w w' e idle failed
  cases failed

/-- One call, whose reply is the result. -/
theorem call {act : Act (Except CallError α)} (x : Except CallError α → Exchange)
    (asks : ∀ w, (act w).2.transcript = w.transcript ++ [x (act w).1])
    (fails : ∀ e, s.Fails e stage (x (.error e))) : s.Blames stage (ExceptT.mk act) := by
  intro w w' e idle failed _
  have failed : act w = (.error e, w') := failed
  have asked := asks w
  rw [failed] at asked
  exact ⟨[], _, asked, fails e⟩

theorem bind {act : Attempt α} {next : α → Attempt β} (first : s.Blames stage act)
    (along : ∀ {P}, s.Carries P → Along P act.run) (second : ∀ a, s.Blames stage (next a)) :
    s.Blames stage (act >>= next) := by
  intro w w' e idle failed left
  have calls := along s.carries_own w
  have stays := along s.carries_staysIdle w idle
  rw [attempt_bind_apply] at failed
  rcases ran : act w with ⟨e' | a, w₁⟩
  · rw [ran] at failed
    cases failed
    exact first _ _ _ idle ran left
  · rw [ran] at failed
    rw [ExceptT.run, ran] at calls stays
    exact (second a _ _ _ stays failed left).after calls

/-- The guard is open. -/
theorem guarded {act : Attempt α} (blames : s.Blames stage act) :
    s.Blames stage (do s.ensureIdle; act) := by
  intro w w' e idle failed
  rw [attempt_bind_ok (ensureIdle_of_idle idle)] at failed
  exact blames _ _ _ idle failed

/-- The guard's refusal names no process, and behind the guard the session is idle. -/
theorem anywhere {act : Attempt α} (blames : s.Blames stage act)
    (heeds : s.Heeds (.error .sessionBusy) act) (along : ∀ {P}, s.Carries P → Along P act.run)
    (failed : act w = (.error e, w')) (left : e.process?.isSome) :
    w'.callState s.id = .idle ∧ s.EndsWith e stage w w' := by
  have drained := s.hosts_own.ensureIdle w
  rcases guard : s.ensureIdle w with ⟨e' | _, w₁⟩
  · have refused := (heeds.refused guard).1
    rw [failed] at refused
    cases refused
    cases left
  · have idle := idle_of_ensureIdle guard
    have stays := along s.carries_staysIdle w₁ idle
    rw [heeds.passed guard] at failed
    rw [ExceptT.run, failed] at stays
    rw [ExceptT.run, guard] at drained
    exact ⟨stays, (blames _ _ _ idle failed left).after drained⟩

end Blames

/-! ## The stages -/

theorem blames_perform (receiver : Oop) (selector : String) (args : List Oop) :
    s.Blames .context (s.perform receiver selector args) := by
  apply Blames.guarded
  exact .call (fun reply => ⟨some s.handle, .perform _, reply⟩) (fun _ => rfl) fun _ => .contents _

theorem blames_fetchAllOops (array : Oop) : s.Blames .context (s.fetchAllOops array) := by
  have size : s.Blames .context (s.request (s.call (.fetchSize array))) := by
    apply Blames.guarded
    exact .call (fun reply => ⟨some s.handle, .fetchSize array, reply⟩) (fun _ => rfl) fun _ => .size _
  refine size.bind (fun carries => carries.request (carries.call _ rfl)) fun size => ?_
  split
  · exact .pure _
  · exact .call (fun reply => ⟨some s.handle, .fetchOops array 1 size.toNat, reply⟩) (fun _ => rfl)
      fun _ => .slots _ _ _

theorem blames_helperClass (s : Session) : s.Blames .execution s.helperClass := by
  refine .bind (.lift (get : Act World)) (fun carries => .lift fun w => carries.refl w) fun w => ?_
  split
  · exact .pure _
  · have resolve : s.Blames .execution (ExceptT.mk (s.call (.resolveSymbol "String" .nil))) :=
      .call (fun reply => ⟨some s.handle, .resolveSymbol "String" .nil, reply⟩) (fun _ => rfl)
        fun _ => .helper _ _
    refine resolve.bind (·.call _ rfl) fun cls => ?_
    exact .bind (.lift (setHelperClass s.id cls)) (fun carries => .lift (carries.setHelperClass cls))
      fun _ => .pure _

theorem blames_executeIn (source : String) (context : Oop) :
    s.Blames .execution (s.executeIn source context) := by
  have prepare : s.Blames .execution (s.execution source fun e => { e with context }) := by
    apply Blames.guarded
    exact s.blames_helperClass.bind (·.helperClass) fun _ => .pure _
  refine prepare.bind (·.execution _ _) fun request => ?_
  exact .call (fun reply => ⟨some s.handle, .execute request, reply⟩) (fun _ => rfl)
    fun _ => .source _

theorem blames_performString (receiver : Oop) (selector : String) (args : List Oop) :
    s.Blames .printing (s.performString receiver selector args) := by
  let send : Send := { receiver, selector, args }
  have fetch : s.Blames .printing (s.request (s.call (.performFetchBytes send maxResultSize))) := by
    apply Blames.guarded
    exact .call (fun reply => ⟨some s.handle, .performFetchBytes send maxResultSize, reply⟩)
      (fun _ => rfl) fun _ => .printed _ _
  exact fetch.bind (fun carries => carries.request (carries.call _ rfl)) fun bytes => .pure _

end Session

namespace Debug

variable {s : Session} {d d' : DebugSession} {w w' : World} {level : Level} {source : String}
  {e : CallError} {process : Oop}

theorem ofOops_ne_call (oops : List Oop) : Frame.ofOops oops ≠ .error (.call e) := by
  intro failed
  unfold Frame.ofOops at failed
  split at failed
  · unfold Frame.readIp at failed
    split at failed <;> cases failed
  · cases failed

theorem blames_fetchContents (s : Session) (process : Oop) (level : Level) :
    s.Blames .context (fetchContents s process level) := by
  refine (Session.blames_perform _ _ _).bind (·.perform _ _ _) fun array => ?_
  split
  · exact .pure _
  · exact (Session.blames_fetchAllOops _).bind (·.fetchAllOops _) fun oops => .pure _

theorem along_fetchContents {P : World → World → Prop} (carries : s.Carries P) :
    Along P (fetchContents s process level).run := by
  refine .attemptBind carries.toLasts (carries.perform _ _ _) fun array => ?_
  split
  · exact .attemptPure carries.toLasts _
  · exact .attemptBind carries.toLasts (carries.fetchAllOops _) fun oops =>
      .attemptPure carries.toLasts _

/-- Only what the VM is asked for a frame can name a process. -/
theorem frame_failed (bound : d.session = some s)
    (failed : frame level d w = ((.error (.call e), d'), w')) (left : e.process?.isSome) :
    s.EndsWith e .context w w' := by
  rcases frame_cases level d w with ⟨f, _, kept⟩ | ⟨e', why, refused⟩ |
    ⟨process, s', _, _, _, _, bound', asks⟩
  · cases kept.symm.trans failed
  · have refused := refused.symm.trans failed
    rcases why with rfl | rfl | rfl <;> cases refused
  · obtain rfl : s' = s := Option.some.inj (bound'.symm.trans bound)
    rw [failed] at asks
    rcases fetched : fetchContents s' process level w with ⟨e' | contents, w₁⟩
    · rw [fetched] at asks
      cases asks
      have heeds := @Operation.heeds s' (.perform process "_frameContentsAt:" [levelOop level]) rfl
      exact ((blames_fetchContents s' process level).anywhere heeds.bind along_fetchContents fetched
        left).2
    · rw [fetched] at asks
      cases contents with
      | none => cases asks
      | some oops =>
          cases made : Frame.ofOops oops with
          | ok f =>
              simp only [readFrame, made] at asks
              cases asks
          | error e' =>
              simp only [readFrame, made] at asks
              cases asks
              exact absurd made (ofOops_ne_call oops)

theorem receiverAt_failed (bound : d.session = some s)
    (failed : receiverAt level d w = ((.error (.call e), d'), w')) (left : e.process?.isSome) :
    s.EndsWith e .context w w' := by
  rw [receiverAt, Staged.attempt_get_bind] at failed
  cases attached : d.process with
  | none =>
      rw [attached] at failed
      cases failed
  | some process =>
      rw [attached] at failed
      rcases looked : frame level d w with ⟨⟨e' | f, d₁⟩, w₁⟩
      · have failed := (Staged.attempt_bind_error looked).symm.trans failed
        cases failed
        exact frame_failed bound looked left
      · have failed := (Staged.attempt_bind_ok looked).symm.trans failed
        cases failed

theorem printString_failed {oop : Oop} (failed : s.printString oop w = (.error e, w'))
    (left : e.process?.isSome) : s.EndsWith e .printing w w' := by
  rw [Session.printString] at failed
  cases known : oop.kind.print? with
  | some text =>
      rw [known] at failed
      cases failed
  | none =>
      rw [known] at failed
      have heeds := @Operation.heeds s (.performString oop "printString" []) rfl
      exact ((Session.blames_performString _ _ _).anywhere heeds (·.performString _ _ _) failed left).2

/-- A process in which the source has failed is cleared when the error is discarded. -/
theorem executeIn_failed {context : Oop}
    (failed : s.executeIn source context w = (.error e, w')) (left : e.process? = some process) :
    s.EndsWith e .execution w w' ∧ ∃ reply, (s.discardError e w').2.transcript =
      w'.transcript ++ [⟨some s.handle, .clearStack process, reply⟩] := by
  have heeds := @Operation.heeds s (.executeIn source context) rfl
  obtain ⟨idle, ends⟩ := (Session.blames_executeIn source context).anywhere heeds
    (·.executeIn _ _) failed (Option.isSome_of_eq_some left)
  exact ⟨ends, Session.discardError_clears idle left⟩

/-- When an evaluation fails with an error that names a process, the call that has failed is the last
one, unless the source was being executed: then the process is cleared. -/
theorem evaluate?_failed (failed : evaluate? level source d w = ((.error (.call e), d'), w'))
    (left : e.process? = some process) :
    ∃ s earlier stage x after, d.session = some s ∧
      w'.transcript = w.transcript ++ (earlier ++ x :: after) ∧ s.Fails e stage x ∧
      if stage = .execution then ∃ reply, after = [⟨some s.handle, .clearStack process, reply⟩]
      else after = [] := by
  have named : e.process?.isSome := Option.isSome_of_eq_some left
  rw [evaluate?] at failed
  cases bound : d.session with
  | none =>
      rw [Staged.attempt_bind_error (session_of_none bound w)] at failed
      cases failed
  | some s =>
      rw [Staged.attempt_bind_ok (session_of bound w)] at failed
      rcases looked : receiverAt level d w with ⟨⟨e' | context, d₁⟩, w₁⟩
      · rw [Staged.attempt_bind_error looked] at failed
        cases failed
        obtain ⟨earlier, x, asked, fails⟩ := receiverAt_failed bound looked named
        exact ⟨s, earlier, .context, x, [], rfl, asked, fails, rfl⟩
      · rw [Staged.attempt_bind_ok looked] at failed
        have calls := (explores_looks.receiverAt level d w).calls
        rw [ExceptT.run, Staged.ends_of looked] at calls
        rcases ran : s.executeIn source context w₁ with ⟨result, w₂⟩
        rw [Staged.attempt_bind_ok (Staged.attempt_lift_of (attempt_of ran d₁))] at failed
        cases result with
        | error e' =>
            have discarded : (liftM (s.discardError e') : Debug Unit) d₁ w₂ =
              ((.ok (), d₁), (s.discardError e' w₂).2) := rfl
            dsimp only at failed
            rw [Staged.attempt_bind_ok discarded] at failed
            cases failed
            obtain ⟨ends, reply, cleared⟩ := executeIn_failed ran left
            obtain ⟨earlier, x, asked, fails⟩ := ends.after calls
            refine ⟨s, earlier, .execution, x, _, rfl, ?_, fails, reply, rfl⟩
            rw [cleared, asked]
            simp
        | ok value =>
            rcases printed : s.printString value w₂ with ⟨result, w₃⟩
            have executed : Adds s.Own w₁ w₂ := by
              simpa [ExceptT.run, ran] using s.carries_own.executeIn source context w₁
            have failed := (remote_of printed d₁).symm.trans failed
            cases result with
            | ok text => cases failed
            | error e' =>
                cases failed
                obtain ⟨earlier, x, asked, fails⟩ :=
                  ((printString_failed printed named).after executed).after calls
                exact ⟨s, earlier, .printing, x, [], rfl, asked, fails, rfl⟩

theorem asks_sameButFrames : Asks fun x y => x.1.SameButFrames y.1 :=
  asks_of
    { refl := fun d => ⟨d.frames, rfl⟩
      trans := by
        rintro d _ _ ⟨_, rfl⟩ ⟨frames, rfl⟩
        exact ⟨frames, rfl⟩ }
    (by rintro d _ ⟨_, rfl⟩; rfl)

theorem visits_sameButFrames : Visits fun x y => x.1.SameButFrames y.1 where
  toAsks := asks_sameButFrames
  frame := frame_of_fetched asks_sameButFrames fun _ _ frames => ⟨frames, rfl⟩

/-- Whatever the VM answers, an evaluation returns a text and leaves the debug session as it was, but
for the frames. When the text is that of an error with a suspended process, the process is cleared by
the next call and no other call follows, if the VM has failed to execute the source; if it has failed
at the frame or at printing the result, nothing follows and the process is left. -/
theorem evaluate_clears_executed (level : Level) (source : String) (d : DebugSession) (w : World) :
    ∃ text frames w', evaluate level source d w = ((text, { d with frames }), w') ∧
      ∀ e process, (evaluate? level source d w).1.1 = .error (.call e) →
        e.process? = some process → text = "error: " ++ e.message ∧
          ∃ s earlier stage x after, d.session = some s ∧
            w'.transcript = w.transcript ++ (earlier ++ x :: after) ∧ s.Fails e stage x ∧
            if stage = .execution then
              ∃ reply, after = [⟨some s.handle, .clearStack process, reply⟩]
            else after = [] := by
  obtain ⟨frames, same⟩ := visits_sameButFrames.evaluate level source d w
  rcases ran : evaluate? level source d w with ⟨⟨result, d'⟩, w'⟩
  have runs : (evaluate? level source).run d w = ((result, d'), w') := ran
  rw [Staged.ends, evaluate, Staged.bind_of runs] at same
  rw [evaluate, Staged.bind_of runs]
  cases result with
  | ok printed =>
      obtain rfl : d' = { d with frames } := same
      refine ⟨printed, frames, w', rfl, fun e process failed => ?_⟩
      cases failed
  | error e =>
      obtain rfl : d' = { d with frames } := same
      refine ⟨_, frames, w', rfl, fun e' process failed left => ?_⟩
      cases failed
      exact ⟨rfl, evaluate?_failed ran left⟩

/-- The source is executed but the result cannot be printed: the text names the error, and the process
it has left is not cleared. -/
theorem printing_left_suspended :
    let s : Session := ⟨1, ⟨9⟩, ""⟩
    let vm : VM := fun _ _ c => match c with
      | .resolveSymbol .. => .ok (.ofSmallInt 1)
      | .execute _ => .ok ⟨1025⟩
      | .performFetchBytes .. =>
        .error (.vm { number := 2010, context := ⟨769⟩, message := "boom" })
      | c => Foreign.refuse (.other "") c
    let d : DebugSession := { session := some s }
    let ended := evaluate 1 "x" d { vm, horizon := 0 }
    ended.1.1 = "error: error 2010: boom" ∧ ended.2.transcript.map Exchange.call =
      [.resolveSymbol "String" .nil, .execute { source := "x", sourceClass := .ofSmallInt 1 },
        .performFetchBytes ⟨⟨1025⟩, "printString", [], 0, 0⟩ maxResultSize] := by
  decide +kernel

end Debug

end StoneDebug
