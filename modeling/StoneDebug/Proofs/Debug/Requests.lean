import StoneDebug.Proofs.Debug.Lifetimes

/-! # Runs of requests

All that can be asked of a debug session: the operations, and the depth of the stack, the label of a
method and the reference of its source by themselves. In a run each request finds a world of its own,
and what the VM is asked meanwhile is the run's record.
-/

namespace StoneDebug

/-- What a table answers with a new entry in front. -/
theorem lookup_cons_cases {α β : Type} [BEq α] [LawfulBEq α] {key k : α} {b b' : β}
    {kept : List (α × β)} (found : ((k, b) :: kept).lookup key = some b') :
    (key = k ∧ b' = b) ∨ kept.lookup key = some b' := by
  rw [List.lookup_cons] at found
  cases same : key == k with
  | true =>
      rw [same] at found
      exact .inl ⟨eq_of_beq same, (Option.some.inj found).symm⟩
  | false =>
      rw [same] at found
      exact .inr found

/-- What the VM is asked and answers while this is done. -/
def Debug.asked {α : Type} (act : Debug α) (d : DebugSession) (w : World) : List Exchange :=
  (act d w).2.transcript.drop w.transcript.length

theorem Debug.asked_of {α : Type} {act : Debug α} {d : DebugSession} {w : World}
    {made : List Exchange} (added : (act d w).2.transcript = w.transcript ++ made) :
    asked act d w = made := by
  rw [asked, added, List.drop_left]

inductive DebugRequest where
  | operation (op : DebugOperation)
  | stackDepth
  | methodLabel (method : Oop)
  | sourceReference (method : Oop)

namespace DebugRequest

open Debug DebugOperation

/-- Carries the request out. Of its answer only the error matters here. -/
def run : DebugRequest → Debug Unit
  | operation op => op.run
  | stackDepth => discard Debug.stackDepth
  | methodLabel method => discard (Debug.methodLabel method)
  | sourceReference method => liftM (discard (Debug.sourceReference method))

/-- The requests that only ask. -/
def asks : DebugRequest → Bool
  | operation op => op.asks
  | _ => true

theorem along_of_asks {R : DebugSession × World → DebugSession × World → Prop} (h : Explores R)
    {request : DebugRequest} (asks : request.asks = true) : Staged.Along R request.run.run := by
  cases request with
  | operation op => exact DebugOperation.along_of_asks h asks
  | stackDepth => exact .attemptDiscarded h.toLasts h.stackDepth
  | methodLabel method => exact .attemptDiscarded h.toLasts (h.methodLabel method)
  | sourceReference method => exact .lift (.discarded h.toLasts (h.sourceReference method))

theorem along_of_governs {R : DebugSession × World → DebugSession × World → Prop} (h : Governs R)
    (asked : ∀ request : DebugRequest, request.asks = true → Staged.Along R request.run.run)
    (request : DebugRequest) : Staged.Along R request.run.run := by
  cases request with
  | operation op => exact h.run op
  | _ => exact asked _ rfl

theorem keepsSound_run (request : DebugRequest) : Staged.Along KeepsSound request.run.run := by
  cases request with
  | operation op => exact DebugOperation.keepsSound_run op
  | stackDepth => exact keepsSound_of_reads consults_reads.stackDepth
  | methodLabel method => exact keepsSound_of_reads (consults_reads.methodLabel method)
  | sourceReference method =>
      have refers := Staged.Along.discarded lasts_reads (consults_reads.sourceReference method)
      exact keepsSound_of_works (.lift (refers.mono Reads.toWorks))

end DebugRequest

namespace DebugSession

open Debug

variable {d : DebugSession}

def served (d : DebugSession) : List (DebugRequest × World) → DebugSession
  | [] => d
  | (request, w) :: rest => served (request.run d w).1.2 rest

def record (d : DebugSession) : List (DebugRequest × World) → List Exchange
  | [] => []
  | (request, w) :: rest => Debug.asked request.run d w ++ record (request.run d w).1.2 rest

/-- `P` holds of every request at the point where it is served. -/
def Throughout (P : DebugRequest → DebugSession → World → Prop) :
    DebugSession → List (DebugRequest × World) → Prop
  | _, [] => True
  | d, (request, w) :: rest => P request d w ∧ Throughout P (request.run d w).1.2 rest

theorem served_append (d : DebugSession) (earlier later : List (DebugRequest × World)) :
    d.served (earlier ++ later) = (d.served earlier).served later := by
  induction earlier generalizing d with
  | nil => rfl
  | cons step earlier ih => exact ih _

theorem record_append (d : DebugSession) (earlier later : List (DebugRequest × World)) :
    d.record (earlier ++ later) = d.record earlier ++ (d.served earlier).record later := by
  induction earlier generalizing d with
  | nil => rfl
  | cons step earlier ih =>
      rw [List.cons_append, record, record, ih, List.append_assoc]
      rfl

theorem throughout_append {P : DebugRequest → DebugSession → World → Prop}
    {earlier later : List (DebugRequest × World)} :
    d.Throughout P (earlier ++ later) ↔
      d.Throughout P earlier ∧ (d.served earlier).Throughout P later := by
  induction earlier generalizing d with
  | nil => exact (true_and _).symm ▸ Iff.rfl
  | cons step earlier ih =>
      rw [List.cons_append, Throughout, Throughout, ih, and_assoc]
      rfl

theorem Sound.served (sound : d.Sound) (run : List (DebugRequest × World)) :
    (d.served run).Sound := by
  induction run generalizing d with
  | nil => exact sound
  | cons step run ih =>
      obtain ⟨request, w⟩ := step
      exact ih (request.keepsSound_run d w sound)

end DebugSession

end StoneDebug
