import Mathlib.Algebra.Ring.Nat
import StoneDebug.Proofs.Debug.Lifetimes

/-! # Stack traces

Once the VM has answered the depth, nothing makes a stack trace fail and no level is left out. A level
is shown with its own method, or with nil when it cannot be read, and the reference of a frame stands
for its method.
-/

namespace StoneDebug.Debug

variable {start level : Level} {count : Option UInt32} {depth : UInt32} {s : Session}
  {d : DebugSession} {w w₁ : World} {process : Oop}

/-! ## The levels asked for -/

/-- The level that a trace ends at: so many from `start` on, or all for none or zero. -/
def lastLevel (start : Level) (count : Option UInt32) (depth : UInt32) : Nat :=
  match count with
  | none => depth.toNat
  | some n => if n = 0 then depth.toNat else min (max start.toNat 1 + n.toNat - 1) depth.toNat

theorem lastLevel_le (start : Level) (count : Option UInt32) (depth : UInt32) :
    lastLevel start count depth ≤ depth.toNat := by
  unfold lastLevel
  split
  · exact Nat.le_refl _
  · split
    · exact Nat.le_refl _
    · exact Nat.min_le_right _ _

/-- A level that 32 bits can hold is counted to without losing any. -/
theorem toNat_add_sub_one {first n : UInt32} (any : 0 < n) (fits : first.toNat + n.toNat ≤ 2 ^ 32) :
    (first + n - 1).toNat = first.toNat + n.toNat - 1 := by
  have positive : 0 < n.toNat := UInt32.lt_iff_toNat_lt.mp any
  have one : (1 : UInt32).toNat = 1 := rfl
  rw [UInt32.toNat_sub, UInt32.toNat_add, one]
  omega

section

variable (fits : ∀ n ∈ count, max start.toNat 1 + n.toNat ≤ 2 ^ 32)

include fits

theorem levelRange_eq : levelRange start count depth =
    (List.range' (max start.toNat 1)
      (lastLevel start count depth + 1 - max start.toNat 1)).map UInt32.ofNat := by
  have first : (max start 1).toNat = max start.toNat 1 := UInt32.toNat_max ..
  unfold levelRange lastLevel
  cases count with
  | none => simp only [first]
  | some n =>
      by_cases all : n = 0
      · simp only [all, UInt32.lt_irrefl, if_false, if_true, first]
      · have wanted : 0 < n := UInt32.pos_iff_ne_zero.mpr all
        have last := toNat_add_sub_one wanted (first ▸ fits n rfl)
        simp only [if_pos wanted, if_neg all, UInt32.toNat_min, last, first]

/-- No level is beyond the depth, so none of them loses its upper bits. -/
theorem map_toNat_levelRange : (levelRange start count depth).map UInt32.toNat =
    List.range' (max start.toNat 1) (lastLevel start count depth + 1 - max start.toNat 1) := by
  have whole : ∀ level ∈ List.range' (max start.toNat 1)
      (lastLevel start count depth + 1 - max start.toNat 1),
      (UInt32.toNat ∘ UInt32.ofNat) level = level := by
    intro level member
    have last := lastLevel_le start count depth
    have small : depth.toNat < UInt32.size := depth.toNat_lt
    simp only [List.mem_range'_1] at member
    exact UInt32.toNat_ofNat_of_lt' (by omega)
  rw [levelRange_eq fits, List.map_map, List.map_congr_left whole, List.map_id']

theorem levelRange_increasing : (levelRange start count depth).Pairwise (· < ·) := by
  have increasing := List.pairwise_lt_range' (s := max start.toNat 1)
    (n := lastLevel start count depth + 1 - max start.toNat 1)
  rw [← map_toNat_levelRange fits, List.pairwise_map] at increasing
  exact increasing.imp UInt32.lt_iff_toNat_lt.mpr

theorem mem_levelRange : level ∈ levelRange start count depth ↔
    max start.toNat 1 ≤ level.toNat ∧ level.toNat ≤ lastLevel start count depth := by
  have member := List.mem_map_of_injective (l := levelRange start count depth) (a := level)
    fun _ _ => UInt32.toNat_inj.mp
  rw [← member, map_toNat_levelRange fits, List.mem_range'_1]
  omega

end

/-! ## How levels are shown -/

/-- The method that a level is shown with, as the VM answers at this moment. -/
def shownMethod (level : Level) (x : DebugSession × World) : Oop :=
  match (frame level x.1 x.2).1.1 with
  | .ok frame => frame.method
  | .error _ => .nil

theorem yields_frameView (level : Level) (frame : Frame) :
    Staged.Yields (fun view _ => view.level = level ∧ view.method = frame.method)
      (frameView level frame) :=
  .bind fun _ => .bind fun _ => .bind fun _ => .pure fun _ => ⟨rfl, rfl⟩

theorem describeLevel_shown (level : Level) (d : DebugSession) (w : World) :
    let view := (describeLevel level d w).1.1
    view.level = level ∧ view.method = shownMethod level (d, w) := by
  rcases fetched : frame level d w with ⟨⟨result, d₁⟩, w₁⟩
  have noted := noted_apply fetched .warn s!"frame {level}: "
  rw [describeLevel, shownMethod, fetched]
  cases result with
  | ok frame =>
      rw [Staged.bind_of noted]
      exact yields_frameView level frame d₁ w₁
  | error e =>
      rw [Staged.bind_of noted]
      exact ⟨rfl, rfl⟩

/-- Each level is described where those before it have left off. -/
theorem describeLevels_shown (levels : List Level) (d : DebugSession) (w : World) :
    let views := (describeLevels levels d w).1.1
    views.map FrameView.level = levels ∧ ∀ i view, views[i]? = some view →
      view.method = shownMethod view.level (Staged.ends (describeLevels (levels.take i)) d w) := by
  induction levels generalizing d w with
  | nil => exact ⟨rfl, nofun⟩
  | cons level levels ih =>
      obtain ⟨same, method⟩ := describeLevel_shown level d w
      rcases ran : describeLevel level d w with ⟨⟨view, d₁⟩, w₁⟩
      rw [ran] at same method
      obtain ⟨others, methods⟩ := ih d₁ w₁
      rcases rest : describeLevels levels d₁ w₁ with ⟨⟨views, d₂⟩, w₂⟩
      rw [rest] at others methods
      have opened (part : List Level) : Staged.ends (describeLevels (level :: part)) d w =
          Staged.ends (describeLevels part) d₁ w₁ := by
        rw [describeLevels, Staged.ends, Staged.bind_of ran]
        rfl
      rw [describeLevels, Staged.bind_of ran, Staged.bind_of rest]
      refine ⟨congrArg₂ List.cons same others, fun i shown found => ?_⟩
      cases i with
      | zero =>
          cases found
          exact method.trans (by rw [same]; rfl)
      | succ i =>
          rw [List.take_succ_cons, opened]
          exact methods i shown found

/-! ## Whole traces -/

/-- The VM answers the depth as an integer, of which a word of 32 bits is kept. -/
theorem stackDepth_of_smallInt {answer : Oop} {i : Int} (rests : d.state ≠ .running)
    (attached : d.process = some process) (bound : d.session = some s)
    (answered : s.perform process "stackDepth" [] w = (.ok answer, w₁))
    (number : answer.kind = .smallInt i) :
    stackDepth d w = ((.ok (UInt32.ofNat i.toNat), d), w₁) := by
  have read : answer.expectInt = .ok i := by rw [Oop.expectInt, number]
  rw [stackDepth, Staged.attempt_bind_ok (suspended_of rests attached w),
    Staged.attempt_bind_ok (session_of bound w), Staged.attempt_bind_ok (remote_of answered d), read]
  rfl

theorem stackDepth_of {answer : Oop} (rests : d.state ≠ .running)
    (attached : d.process = some process) (bound : d.session = some s)
    (answered : s.perform process "stackDepth" [] w = (.ok answer, w₁))
    (number : answer.kind = .smallInt depth.toNat) : stackDepth d w = ((.ok depth, d), w₁) := by
  rw [stackDepth_of_smallInt rests attached bound answered number, Int.toNat_natCast,
    UInt32.ofNat_toNat]

/-- The frames of a trace that is described from `d` and `w` on and leaves such references behind. -/
structure Traces (start : Level) (count : Option UInt32) (depth : UInt32) (d : DebugSession)
    (w : World) (views : List FrameView) (references : Numbering Oop) : Prop where
  increasing : (views.map FrameView.level).Pairwise (· < ·)
  /-- All levels asked for that the stack has, and no others. -/
  levels : ∀ level, level ∈ views.map FrameView.level ↔
    max start.toNat 1 ≤ level.toNat ∧ level.toNat ≤ lastLevel start count depth
  /-- Each level is shown with its own method, whatever has failed at the levels before it. -/
  methods : ∀ i view, views[i]? = some view → view.method = shownMethod view.level
    (Staged.ends (describeLevels ((views.map FrameView.level).take i)) d w)
  resolved : ∀ view ∈ views, 0 < view.sourceRef ∧ references.get? view.sourceRef = some view.method
  shared : ∀ view ∈ views, ∀ other ∈ views,
    view.sourceRef = other.sourceRef ↔ view.method = other.method

/-- Nothing is dropped from a stack trace once the depth is known, as long as 32 bits can hold the last
level asked for. -/
theorem stackTrace_complete {answer : Oop} (rests : d.state ≠ .running)
    (attached : d.process = some process) (bound : d.session = some s)
    (answered : s.perform process "stackDepth" [] w = (.ok answer, w₁))
    (number : answer.kind = .smallInt depth.toNat)
    (fits : ∀ n ∈ count, max start.toNat 1 + n.toNat ≤ 2 ^ 32) :
    ∃ views d' w', stackTrace start count d w = ((.ok (views, depth), d'), w') ∧
      Traces start count depth d w₁ views d'.methods := by
  have found := stackDepth_of rests attached bound answered number
  obtain ⟨levels, methods⟩ := describeLevels_shown (levelRange start count depth) d w₁
  have given := describeLevels_given (levelRange start count depth) d w₁
  rcases described : describeLevels (levelRange start count depth) d w₁ with ⟨⟨views, d'⟩, w'⟩
  rw [described] at levels methods given
  refine ⟨views, d', w', ?_, ?_⟩
  · rw [stackTrace, Staged.attempt_bind_ok found,
      Staged.attempt_bind_ok (Staged.attempt_lift_of described)]
    rfl
  · dsimp only at levels methods given
    exact {
      increasing := levels ▸ levelRange_increasing fits
      levels := fun level => by rw [levels, mem_levelRange fits]
      methods := levels ▸ methods
      resolved := fun view member => by
        have numbers := given view member
        exact ⟨by simp [numbers.first], numbers.get?⟩
      shared := fun view member other member' => (given view member).eq_iff (given other member') }

/-- A method that calls itself by way of another one, with a level in between that cannot be read.
No method has a label and no step point is known. -/
theorem stackTrace_complete_recursive :
    let w : World := {
      vm := fun _ _ c => match c with
        | .perform send =>
          if send.selector = "stackDepth" then .ok (.ofSmallInt 5)
          else if send.selector = "_frameContentsAt:" then
            .ok (if send.args = [levelOop 2] then .ofNat 521
              else if send.args = [levelOop 3] then .nil else .ofNat 513)
          else .error (.vm { number := 2010, message := "not understood" })
        | .fetchSize _ => .ok 10
        | .fetchOops oop .. =>
          .ok ((if oop = .ofNat 521 then .ofNat 1025 else .ofNat 769) :: List.replicate 9 .nil)
        | c => Foreign.refuse (.other "") c
      horizon := 0 }
    let d : DebugSession :=
      { session := some ⟨1, ⟨9⟩, ""⟩, state := .stopped, process := some (.ofNat 257) }
    let ran := stackTrace 0 (some 4) d w
    (ran.1.1.toOption.map fun trace =>
        trace.1.map fun view => (view.level, view.method, view.sourceRef)) =
      some [(1, .ofNat 769, 1), (2, .ofNat 1025, 2), (3, .nil, 3), (4, .ofNat 769, 1)] ∧
      ∃ views d' w', ran = ((.ok (views, 5), d'), w') ∧
        Traces 0 (some 4) 5 d ((⟨1, ⟨9⟩, ""⟩ : Session).perform (.ofNat 257) "stackDepth" [] w).2
          views d'.methods := by
  intro w d ran
  have fits : ∀ n ∈ some (4 : UInt32), max (0 : Level).toNat 1 + n.toNat ≤ 2 ^ 32 := by
    rintro n ⟨⟩
    decide
  refine ⟨by decide +kernel, ?_⟩
  exact stackTrace_complete (by decide) rfl rfl rfl (by decide +kernel) fits

end StoneDebug.Debug
