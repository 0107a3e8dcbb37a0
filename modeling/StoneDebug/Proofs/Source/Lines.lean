import StoneDebug.Source.Method

/-! # Lines and offsets

A line table is strictly increasing, so an offset is at or after the start of exactly the lines up to
its own. A line is mapped to a step point on it or after it.
-/

namespace StoneDebug.Source

variable {text : List Char} {offset start n : Nat}

/-! ## Line tables -/

theorem lt_of_mem_lineStartsFrom (member : start ∈ lineStartsFrom offset text) :
    offset < start := by
  fun_induction lineStartsFrom offset text with
  | case1 => cases member
  | case2 offset rest ih =>
      rcases List.mem_cons.mp member with rfl | later
      · omega
      · have := ih later
        omega
  | case3 offset c rest other ih =>
      have := ih member
      omega

theorem pairwise_lineStartsFrom (offset : Nat) (text : List Char) :
    (lineStartsFrom offset text).Pairwise (· < ·) := by
  fun_induction lineStartsFrom offset text with
  | case1 => exact .nil
  | case2 offset rest ih =>
      exact List.pairwise_cons.mpr ⟨fun _ member => lt_of_mem_lineStartsFrom member, ih⟩
  | case3 offset c rest other ih => exact ih

theorem pairwise_lineStarts (text : List Char) : (lineStarts text).Pairwise (· < ·) :=
  List.pairwise_cons.mpr
    ⟨fun _ member => lt_of_mem_lineStartsFrom member, pairwise_lineStartsFrom 0 text⟩

theorem lt_length_takeWhile_iff {starts : List Nat} (sorted : starts.Pairwise (· < ·))
    (entry : starts[n]? = some start) :
    n < (starts.takeWhile (· ≤ offset)).length ↔ start ≤ offset := by
  induction starts generalizing n with
  | nil => cases entry
  | cons first starts ih =>
      obtain ⟨least, sorted⟩ := List.pairwise_cons.mp sorted
      cases n with
      | zero =>
          obtain rfl : first = start := by simpa using entry
          by_cases before : first ≤ offset <;> simp [before]
      | succ n =>
          have entry : starts[n]? = some start := by simpa using entry
          have later := least start (List.mem_of_getElem? entry)
          by_cases before : first ≤ offset
          · simp [before, ih sorted entry]
          · simp [before]
            omega

/-- An offset is at or after the start of a line exactly when that line is not after its own. -/
theorem lt_lineOf_iff (entry : (lineStarts text)[n]? = some start) :
    n < lineOf (lineStarts text) offset ↔ start ≤ offset := by
  have sorted := pairwise_lineStarts text
  have zero : (lineStarts text)[0]? = some 0 := rfl
  have first : 0 < ((lineStarts text).takeWhile (· ≤ offset)).length :=
    (lt_length_takeWhile_iff sorted zero).mpr (Nat.zero_le offset)
  rw [lineOf, Nat.max_eq_right first]
  exact lt_length_takeWhile_iff sorted entry

theorem lineOf_pos (starts : List Nat) (offset : Nat) : 0 < lineOf starts offset :=
  Nat.le_max_left 1 _

theorem lineOf_le_length (text : List Char) (offset : Nat) :
    lineOf (lineStarts text) offset ≤ (lineStarts text).length := by
  have := (List.takeWhile_prefix (l := lineStarts text) (· ≤ offset)).length_le
  have : 0 < (lineStarts text).length := Nat.succ_pos _
  simp only [lineOf]
  omega

theorem lineOf_mono {later : Nat} (le : offset ≤ later) :
    lineOf (lineStarts text) offset ≤ lineOf (lineStarts text) later := by
  obtain ⟨n, eq⟩ := Nat.exists_eq_add_one.mpr (lineOf_pos (lineStarts text) offset)
  have inside := lineOf_le_length text offset
  have entry := List.getElem?_eq_getElem (show n < (lineStarts text).length by omega)
  have before := (lt_lineOf_iff entry).mp (show n < lineOf (lineStarts text) offset by omega)
  have after := (lt_lineOf_iff entry).mpr (Nat.le_trans before le)
  omega

/-! ## Step points -/

variable {offsets : List Nat} {p : StepPoint}

theorem mem_stepPoints :
    p ∈ stepPoints offsets ↔ 1 ≤ p.number ∧ offsets[p.number - 1]? = some p.offset := by
  obtain ⟨number, offset⟩ := p
  rw [← List.mem_zipIdx_iff_le_and_getElem?_sub (x := (offset, number)), stepPoints, List.mem_map]
  constructor
  · rintro ⟨⟨o, n⟩, member, eq⟩
    cases eq
    exact member
  · exact fun member => ⟨_, member, rfl⟩

theorem offset_mem_of_stepPoint (point : p ∈ stepPoints offsets) : p.offset ∈ offsets :=
  List.mem_of_getElem? (mem_stepPoints.mp point).2

theorem earliest_eq_none {ps : List StepPoint} : earliest ps = none ↔ ps = [] := by
  cases ps with
  | nil => simp [earliest]
  | cons p ps =>
      simp only [earliest, reduceCtorEq, iff_false]
      split
      · nofun
      · split <;> nofun

theorem mem_of_earliest {ps : List StepPoint} (found : earliest ps = some p) : p ∈ ps := by
  induction ps generalizing p with
  | nil => cases found
  | cons q ps ih =>
      rw [earliest] at found
      split at found
      · obtain rfl := Option.some.inj found
        exact List.mem_cons_self
      · rename_i r rest
        split at found
        · obtain rfl := Option.some.inj found
          exact List.mem_cons_of_mem _ (ih rest)
        · obtain rfl := Option.some.inj found
          exact List.mem_cons_self

section

variable {low high : Nat}

theorem of_earliestWithin (found : earliestWithin low high offsets = some p) :
    p ∈ stepPoints offsets ∧ low ≤ p.offset ∧ p.offset < high := by
  simpa using List.mem_filter.mp (mem_of_earliest found)

theorem earliestWithin_isSome (point : p ∈ stepPoints offsets) (low_le : low ≤ p.offset)
    (lt_high : p.offset < high) : ∃ q, earliestWithin low high offsets = some q := by
  refine Option.ne_none_iff_exists'.mp fun none => ?_
  have empty := earliest_eq_none.mp none
  have member : p ∈ (stepPoints offsets).filter fun p => low ≤ p.offset && p.offset < high :=
    List.mem_filter.mpr ⟨point, by simp [low_le, lt_high]⟩
  rw [empty] at member
  cases member

end

/-! ## From a line to a step point -/

section

variable {line : Nat} {answer : LineMapping}

theorem mapLine_of_entry (entry : (lineStarts text)[n]? = some start) :
    mapLine ((n + 1 : Nat) : Int) (lineStarts text) offsets =
      match earliestWithin start ((lineStarts text).getD (n + 1) endOfOffsets) offsets with
      | some p => some ⟨p.number, n + 1⟩
      | none => (earliestWithin start endOfOffsets offsets).map
          fun p => ⟨p.number, lineOf (lineStarts text) p.offset⟩ := by
  have positive : ¬((n + 1 : Nat) : Int) ≤ 0 := by omega
  cases found : earliestWithin start ((lineStarts text).getD (n + 1) endOfOffsets) offsets <;>
    simp only [mapLine, if_neg positive, Int.toNat_natCast, Nat.add_sub_cancel, entry, found]

theorem lineOf_of_range (entry : (lineStarts text)[n]? = some start) (low_le : start ≤ offset)
    (lt_high : offset < (lineStarts text).getD (n + 1) endOfOffsets) :
    lineOf (lineStarts text) offset = n + 1 := by
  have after : n < lineOf (lineStarts text) offset := (lt_lineOf_iff entry).mpr low_le
  -- The range ends where the next line starts; the last line has no end.
  cases next : (lineStarts text)[n + 1]? with
  | some bound =>
      have before : n + 1 < lineOf (lineStarts text) offset ↔ bound ≤ offset := lt_lineOf_iff next
      rw [List.getD_eq_getElem?_getD, next, Option.getD_some] at lt_high
      omega
  | none =>
      have last := lineOf_le_length text offset
      have := List.getElem?_eq_none_iff.mp next
      omega

/-- The range of a line holds the offsets that are on it. -/
theorem lineOf_eq_iff (entry : (lineStarts text)[n]? = some start)
    (below : offset < endOfOffsets) :
    lineOf (lineStarts text) offset = n + 1 ↔
      start ≤ offset ∧ offset < (lineStarts text).getD (n + 1) endOfOffsets := by
  refine ⟨fun on => ⟨(lt_lineOf_iff entry).mp (by omega), ?_⟩,
    fun range => lineOf_of_range entry range.1 range.2⟩
  cases next : (lineStarts text)[n + 1]? with
  | some bound =>
      have before : n + 1 < lineOf (lineStarts text) offset ↔ bound ≤ offset := lt_lineOf_iff next
      rw [List.getD_eq_getElem?_getD, next, Option.getD_some]
      omega
  | none =>
      rw [List.getD_eq_getElem?_getD, next, Option.getD_none]
      exact below

/-- A line that is no line of the text is mapped to nothing. -/
theorem entry_of_mapLine {line : Int}
    (mapped : mapLine line (lineStarts text) offsets = some answer) :
    ∃ n start, line = (n + 1 : Nat) ∧ (lineStarts text)[n]? = some start := by
  have positive : ¬line ≤ 0 := by
    intro none
    rw [mapLine, if_pos none] at mapped
    cases mapped
  obtain ⟨m, rfl⟩ := Int.eq_ofNat_of_zero_le (Int.le_of_lt (Int.not_le.mp positive))
  obtain ⟨n, rfl⟩ : ∃ n, m = n + 1 := Nat.exists_eq_add_one.mpr (by omega)
  cases entry : (lineStarts text)[n]? with
  | some start => exact ⟨n, start, rfl, entry⟩
  | none =>
      simp only [mapLine, if_neg positive, Int.toNat_natCast, Nat.add_sub_cancel, entry] at mapped
      cases mapped

/-- A line is not mapped to an earlier one. -/
theorem le_of_mapLine {line : Int} (mapped : mapLine line (lineStarts text) offsets = some answer) :
    line ≤ answer.actualLine := by
  obtain ⟨n, start, rfl, entry⟩ := entry_of_mapLine mapped
  rw [mapLine_of_entry entry] at mapped
  split at mapped
  · obtain rfl := Option.some.inj mapped
    exact Int.le_refl _
  · obtain ⟨p, found, rfl⟩ := Option.map_eq_some_iff.mp mapped
    exact Int.ofNat_le.mpr ((lt_lineOf_iff entry).mpr (of_earliestWithin found).2.1)

variable (below : ∀ o ∈ offsets, o < endOfOffsets)

include below

/-- What a line is mapped to is a step point with its line, which is not an earlier one. -/
theorem of_mapLine (mapped : mapLine line (lineStarts text) offsets = some answer) :
    ∃ p ∈ stepPoints offsets, answer = ⟨p.number, lineOf (lineStarts text) p.offset⟩ ∧
      line ≤ lineOf (lineStarts text) p.offset := by
  obtain ⟨n, start, eq, entry⟩ := entry_of_mapLine mapped
  obtain rfl := Int.ofNat.inj eq
  rw [mapLine_of_entry entry] at mapped
  split at mapped
  · rename_i p found
    obtain ⟨point, range⟩ := of_earliestWithin found
    have on := (lineOf_eq_iff entry (below _ (offset_mem_of_stepPoint point))).mpr range
    exact ⟨p, point, by rw [on]; exact (Option.some.inj mapped).symm, Nat.le_of_eq on.symm⟩
  · obtain ⟨p, found, rfl⟩ := Option.map_eq_some_iff.mp mapped
    obtain ⟨point, start_le, -⟩ := of_earliestWithin found
    exact ⟨p, point, rfl, (lt_lineOf_iff entry).mpr start_le⟩

/-- A line with a step point is mapped to one on it. -/
theorem mapLine_of_on (point : p ∈ stepPoints offsets)
    (on : lineOf (lineStarts text) p.offset = line) :
    ∃ number, mapLine line (lineStarts text) offsets = some ⟨number, line⟩ := by
  have inside := lineOf_le_length text p.offset
  obtain ⟨n, rfl⟩ : ∃ n, line = n + 1 := Nat.exists_eq_add_one.mpr (on ▸ lineOf_pos _ p.offset)
  have entry := List.getElem?_eq_getElem (show n < (lineStarts text).length by omega)
  obtain ⟨low_le, lt_high⟩ :=
    (lineOf_eq_iff entry (below _ (offset_mem_of_stepPoint point))).mp on
  obtain ⟨q, found⟩ := earliestWithin_isSome point low_le lt_high
  exact ⟨q.number, by rw [mapLine_of_entry entry, found]⟩

end

end StoneDebug.Source
