import StoneDebug.Proofs.Oop.Codec
import StoneDebug.Proofs.Session.Busy

/-! # Conversions

A value that fits into a reference is converted without the VM. For any other the VM is asked at once:
conversions do not pass the guard `ensureIdle`, so a call of theirs can fall between the submission of a
non-blocking call and its result.
-/

namespace StoneDebug

namespace Session

variable {s : Session} {w : World}

/-- A non-blocking call is outstanding, or it was given up and still runs. -/
def Busy (s : Session) (w : World) : Prop :=
  w.callState s.id = .outstanding ∨ w.callState s.id = .draining ∧ s.stillRuns w

theorem busy_iff : (s.ensureIdle w).1 = .error .sessionBusy ↔ s.Busy w := by
  rw [ensureIdle_apply, Busy]
  cases w.callState s.id with
  | idle => exact ⟨nofun, nofun⟩
  | outstanding => exact ⟨fun _ => .inl rfl, fun _ => rfl⟩
  | draining =>
      by_cases runs : s.stillRuns w
      · obtain ⟨w', drained, _⟩ := drainOnce_of_stillRuns runs
        simp [drained, runs]
      · obtain ⟨w', _, drained, _⟩ := drainOnce_clears runs
        simp [drained, runs]

end Session

inductive Conversion where
  | intToOop (i : Int)
  | oopToInt (oop : Oop)
  | doubleToOop (d : Binary64)
  | oopToDouble (oop : Oop)

namespace Conversion

/-- What a conversion yields when it does not fail. -/
@[reducible] def Value : Conversion → Type
  | intToOop _ | doubleToOop _ => Oop
  | oopToInt _ => Int
  | oopToDouble _ => Binary64

def on (s : Session) : (c : Conversion) → Attempt c.Value
  | intToOop i => s.intToOop i
  | oopToInt oop => s.oopToInt oop
  | doubleToOop d => s.doubleToOop d
  | oopToDouble oop => s.oopToDouble oop

def call : Conversion → Call
  | intToOop i => .intToOop i
  | oopToInt oop => .oopToInt oop
  | doubleToOop d => .doubleToOop d
  | oopToDouble oop => .oopToDouble oop

def reply (s : Session) (w : World) : (c : Conversion) → Except CallError c.Value
  | intToOop i => w.vm w.transcript (some s.handle) (.intToOop i)
  | oopToInt oop => w.vm w.transcript (some s.handle) (.oopToInt oop)
  | doubleToOop d => w.vm w.transcript (some s.handle) (.doubleToOop d)
  | oopToDouble oop => w.vm w.transcript (some s.handle) (.oopToDouble oop)

def exchange (s : Session) (w : World) (c : Conversion) : Exchange :=
  ⟨some s.handle, c.call, w.vm w.transcript (some s.handle) c.call⟩

/-- The reference itself holds the value. For a double the reference is up to the VM. -/
def Means : (c : Conversion) → c.Value → Prop
  | intToOop i, oop => oop.kind = .smallInt i
  | oopToInt oop, i => oop.kind = .smallInt i
  | doubleToOop _, _ => False
  | oopToDouble oop, d => oop.kind = .smallDouble d

/-- The answer that is found without the VM. -/
def local? : (c : Conversion) → Option c.Value
  | intToOop i => Oop.ofInt? i
  | oopToInt oop => oop.asInt?
  | doubleToOop _ => none
  | oopToDouble oop => oop.asDouble?

variable {c : Conversion} {s : Session} {w : World}

theorem on_of_known {value : c.Value} (known : c.local? = some value) (s : Session) (w : World) :
    c.on s w = (.ok value, w) := by
  cases c with
  | intToOop i =>
      rw [local?] at known
      simp only [on, Session.intToOop, known]
      rfl
  | oopToInt oop =>
      rw [local?] at known
      simp only [on, Session.oopToInt, known]
      rfl
  | doubleToOop d => cases known
  | oopToDouble oop =>
      rw [local?] at known
      simp only [on, Session.oopToDouble, known]
      rfl

theorem on_of_unknown (unknown : c.local? = none) (s : Session) (w : World) :
    c.on s w = (c.reply s w, w.noting [c.exchange s w]) := by
  cases c with
  | intToOop i =>
      rw [local?] at unknown
      simp only [on, Session.intToOop, unknown]
      rfl
  | oopToInt oop =>
      rw [local?] at unknown
      simp only [on, Session.oopToInt, unknown]
      rfl
  | doubleToOop d => rfl
  | oopToDouble oop =>
      rw [local?] at unknown
      simp only [on, Session.oopToDouble, unknown]
      rfl

theorem local?_eq_some_iff {value : c.Value} : c.local? = some value ↔ c.Means value := by
  cases c with
  | intToOop i => exact Oop.ofInt?_eq_some_iff
  | oopToInt oop => exact Oop.asInt?_eq_some_iff
  | doubleToOop d => exact ⟨nofun, nofun⟩
  | oopToDouble oop => exact Oop.asDouble?_eq_some_iff

theorem local?_eq_none_iff : c.local? = none ↔ ∀ value, ¬c.Means value := by
  rw [Option.eq_none_iff_forall_ne_some]
  exact forall_congr' fun value => not_congr local?_eq_some_iff

/-- What a conversion does, in whatever state it finds the session. -/
structure Converts (s : Session) (c : Conversion) (w : World) : Prop where
  /-- A value that a reference holds is found without the VM. -/
  known : ∀ value, c.Means value → c.on s w = (.ok value, w)
  /-- Any other is left to the VM by one call, and the reply is the result. -/
  asked : (∀ value, ¬c.Means value) → c.on s w = (c.reply s w, w.noting [c.exchange s w])
  /-- Where the guard refuses, the VM is left alone for the sake of the value only. -/
  busy : s.Busy w → (s.ensureIdle w).1 = .error .sessionBusy ∧
    ((c.on s w).2.transcript = w.transcript ↔ ∃ value, c.Means value)

/-- A conversion that needs the VM calls it, also while another call of the session is running. -/
theorem converts_unguarded (s : Session) (c : Conversion) (w : World) : Converts s c w := by
  have known (value : c.Value) (means : c.Means value) : c.on s w = (.ok value, w) :=
    on_of_known (local?_eq_some_iff.mpr means) s w
  have asked (unknown : ∀ value, ¬c.Means value) :
      c.on s w = (c.reply s w, w.noting [c.exchange s w]) :=
    on_of_unknown (local?_eq_none_iff.mpr unknown) s w
  refine ⟨known, asked, fun busy => ⟨Session.busy_iff.mpr busy, ?_, ?_⟩⟩
  · intro same
    refine Classical.byContradiction fun unknown => ?_
    rw [asked (not_exists.mp unknown), World.noting] at same
    exact List.cons_ne_nil _ _ (List.append_right_eq_self.mp same)
  · rintro ⟨value, means⟩
    rw [known value means]

/-- An integer beyond the SmallIntegers is converted by the VM while a call is outstanding, when a commit
is refused. -/
theorem converted_while_outstanding :
    let s : Session := ⟨1, ⟨9⟩, ""⟩
    let w : World := {
      vm := fun _ _ c => match c with
        | .intToOop _ => .ok ⟨1025⟩
        | c => Foreign.refuse (.other "") c
      callState := fun _ => .outstanding
      horizon := 0 }
    let ran := (intToOop 0x1000000000000000).on s w
    s.Busy w ∧ ran.1 = .ok ⟨1025⟩ ∧ ran.2.transcript.map Exchange.call =
      [.intToOop 0x1000000000000000] ∧ (s.commit w).1 = .error .sessionBusy ∧
      (s.commit w).2.transcript = [] := by
  intro s w ran
  exact ⟨.inl rfl, rfl, rfl, rfl, rfl⟩

end Conversion

end StoneDebug
