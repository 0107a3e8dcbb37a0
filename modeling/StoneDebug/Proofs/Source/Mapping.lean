import Mathlib.Data.List.TakeWhile
import StoneDebug.Proofs.Source.Lines

/-! # Where a line leads

An offset is on the line after as many newlines as stand before it. A line leads to the nearest step
point: of those at or after its start the one of least offset, and among equal offsets the first. So
the line answered leads to the same step point again, and a later line does not lead further back.
-/

namespace StoneDebug.Source

variable {text : List Char} {offset start n : Nat}

/-! ## The line of an offset -/

/-- Lines are counted from 1; what is beyond the end counts to the last one. -/
def lineAt (text : List Char) (offset : Nat) : Nat := (text.take offset).count '\n' + 1

theorem length_takeWhile_lineStartsFrom (start offset : Nat) (text : List Char) :
    ((lineStartsFrom start text).takeWhile (· ≤ start + offset)).length =
      (text.take offset).count '\n' := by
  induction text generalizing start offset with
  | nil => simp [lineStartsFrom]
  | cons c text ih =>
      cases offset with
      | zero =>
          have none : (lineStartsFrom start (c :: text)).takeWhile (· ≤ start + 0) = [] := by
            refine List.takeWhile_eq_nil_iff.mpr fun positive => ?_
            have := lt_of_mem_lineStartsFrom (List.getElem_mem positive)
            simpa using this
          rw [none]
          rfl
      | succ offset =>
          have rest := ih (start + 1) offset
          rw [Nat.add_right_comm] at rest
          by_cases newline : c = '\n'
          · subst newline
            rw [lineStartsFrom, List.takeWhile_cons_of_pos (by simp)]
            simp [← rest, Nat.add_assoc]
          · rw [lineStartsFrom.eq_3 _ _ _ newline, List.take_succ_cons,
              List.count_cons_of_ne newline]
            simpa [Nat.add_assoc] using rest

theorem lineOf_lineStarts (text : List Char) (offset : Nat) :
    lineOf (lineStarts text) offset = lineAt text offset := by
  have counted := length_takeWhile_lineStartsFrom 0 offset text
  rw [Nat.zero_add] at counted
  rw [lineOf, lineStarts, List.takeWhile_cons_of_pos (by simp), List.length_cons, counted, lineAt]
  omega

/-! ## The nearest step point -/

/-- The step point with this number and offset is the nearest one at or after `start`. -/
structure Nearest (start : Nat) (offsets : List Nat) (stepPoint offset : Nat) : Prop where
  positive : 1 ≤ stepPoint
  entry : offsets[stepPoint - 1]? = some offset
  start_le : start ≤ offset
  least : ∀ o ∈ offsets, start ≤ o → offset ≤ o
  first : ∀ i, offsets[i]? = some offset → stepPoint ≤ i + 1

variable {offsets : List Nat} {p : StepPoint}

theorem pairwise_stepPoints (offsets : List Nat) :
    (stepPoints offsets).Pairwise fun p q => p.number < q.number := by
  have numbers : (stepPoints offsets).map StepPoint.number = List.range' 1 offsets.length := by
    rw [stepPoints, List.map_map]
    exact List.zipIdx_map_snd 1 offsets
  exact List.pairwise_map.mp (numbers ▸ List.pairwise_lt_range' 1)

/-- In the order of the numbers, what is found is before all others by offset, then by number. -/
theorem earliest_le {ps : List StepPoint} (ordered : ps.Pairwise fun p q => p.number < q.number)
    (found : earliest ps = some p) {q : StepPoint} (member : q ∈ ps) :
    p.offset < q.offset ∨ p.offset = q.offset ∧ p.number ≤ q.number := by
  induction ps generalizing p q with
  | nil => cases member
  | cons a ps ih =>
      obtain ⟨before, ordered⟩ := List.pairwise_cons.mp ordered
      rw [earliest] at found
      split at found
      · next empty =>
          obtain rfl := Option.some.inj found
          obtain rfl : q = a := by simpa [earliest_eq_none.mp empty] using member
          exact .inr ⟨rfl, Nat.le_refl _⟩
      · next r rest =>
          split at found <;> obtain rfl := Option.some.inj found <;>
            rcases List.mem_cons.mp member with rfl | later
          · exact .inl ‹_›
          · exact ih ordered rest later
          · exact .inr ⟨rfl, Nat.le_refl _⟩
          · have smaller := before q later
            have := ih ordered rest later
            omega

theorem nearest_of_earliestWithin {high : Nat}
    (found : earliestWithin start high offsets = some p) :
    Nearest start offsets p.number p.offset := by
  obtain ⟨point, start_le, lt_high⟩ := of_earliestWithin found
  obtain ⟨positive, entry⟩ := mem_stepPoints.mp point
  -- What is beyond the range is beyond the step point that was found in it.
  have before {i o : Nat} (at_i : offsets[i]? = some o) (after : start ≤ o) :
      p.offset < o ∨ p.offset = o ∧ p.number ≤ i + 1 := by
    by_cases inside : o < high
    · have ordered := (pairwise_stepPoints offsets).filter
        fun p => start ≤ p.offset && p.offset < high
      have member : (⟨i + 1, o⟩ : StepPoint) ∈ stepPoints offsets :=
        mem_stepPoints.mpr ⟨Nat.succ_pos i, at_i⟩
      exact earliest_le ordered found (List.mem_filter.mpr ⟨member, by simp [after, inside]⟩)
    · omega
  refine ⟨positive, entry, start_le, fun o member after => ?_, fun i at_i => ?_⟩
  · obtain ⟨i, at_i⟩ := List.mem_iff_getElem?.mp member
    have := before at_i after
    omega
  · have := before at_i start_le
    omega

theorem Nearest.unique {m o o' : Nat} (first : Nearest start offsets n o)
    (second : Nearest start offsets m o') : n = m ∧ o = o' := by
  have le := first.least o' (List.mem_of_getElem? second.entry) second.start_le
  have ge := second.least o (List.mem_of_getElem? first.entry) first.start_le
  obtain rfl := Nat.le_antisymm le ge
  have := first.first _ second.entry
  have := second.first _ first.entry
  have := first.positive
  have := second.positive
  omega

/-! ## Mapped lines -/

section

variable {line : Int} {answer : LineMapping}

theorem start_le_of_le {m later : Nat} (le : n ≤ m) (entry : (lineStarts text)[n]? = some start)
    (entry' : (lineStarts text)[m]? = some later) : start ≤ later := by
  have reached := (lt_lineOf_iff entry').mpr (Nat.le_refl later)
  exact (lt_lineOf_iff entry).mp (Nat.lt_of_le_of_lt le reached)

/-- A line is mapped to the nearest step point from its start on, with the line of that step point. -/
theorem nearest_of_mapLine (mapped : mapLine line (lineStarts text) offsets = some answer) :
    ∃ n start offset, line = (n + 1 : Nat) ∧ (lineStarts text)[n]? = some start ∧
      Nearest start offsets answer.stepPoint offset ∧
      answer.actualLine = lineOf (lineStarts text) offset := by
  obtain ⟨n, start, rfl, entry⟩ := entry_of_mapLine mapped
  rw [mapLine_of_entry entry] at mapped
  split at mapped
  · next p found =>
      obtain rfl := Option.some.inj mapped
      obtain ⟨-, low_le, lt_high⟩ := of_earliestWithin found
      exact ⟨n, start, p.offset, rfl, entry, nearest_of_earliestWithin found,
        (lineOf_of_range entry low_le lt_high).symm⟩
  · obtain ⟨p, found, rfl⟩ := Option.map_eq_some_iff.mp mapped
    exact ⟨n, start, p.offset, rfl, entry, nearest_of_earliestWithin found, rfl⟩

/-- A line is mapped when it is a line of the text with a step point at or after its start. -/
theorem exists_mapLine {o : Nat} (entry : (lineStarts text)[n]? = some start) (member : o ∈ offsets)
    (start_le : start ≤ o) (below : o < endOfOffsets) :
    ∃ answer, mapLine (n + 1 : Nat) (lineStarts text) offsets = some answer := by
  obtain ⟨i, at_i⟩ := List.mem_iff_getElem?.mp member
  have point : (⟨i + 1, o⟩ : StepPoint) ∈ stepPoints offsets := mem_stepPoints.mpr ⟨Nat.succ_pos i, at_i⟩
  obtain ⟨p, found⟩ := earliestWithin_isSome point start_le below
  rw [mapLine_of_entry entry, found]
  split <;> exact ⟨_, rfl⟩

/-- The line answered is mapped to the same step point. -/
theorem mapLine_actualLine (mapped : mapLine line (lineStarts text) offsets = some answer) :
    mapLine answer.actualLine (lineStarts text) offsets = some answer := by
  obtain ⟨n, start, rfl, entry⟩ := entry_of_mapLine mapped
  have cases := mapped
  rw [mapLine_of_entry entry] at cases
  split at cases
  -- A line with a step point of its own is answered as it is.
  · obtain rfl := Option.some.inj cases
    exact mapped
  · obtain ⟨p, found, rfl⟩ := Option.map_eq_some_iff.mp cases
    have nearest := nearest_of_earliestWithin found
    obtain ⟨point, start_le, below⟩ := of_earliestWithin found
    have after : n < lineOf (lineStarts text) p.offset := (lt_lineOf_iff entry).mpr start_le
    have inside := lineOf_le_length text p.offset
    obtain ⟨m, on⟩ := Nat.exists_eq_add_one.mpr (lineOf_pos (lineStarts text) p.offset)
    have entry' := List.getElem?_eq_getElem (show m < (lineStarts text).length by omega)
    obtain ⟨later_le, lt_next⟩ := (lineOf_eq_iff entry' below).mp on
    obtain ⟨q, again⟩ := earliestWithin_isSome point later_le lt_next
    -- Nothing lies between the start of the line asked for and that of the line answered.
    have moved : Nearest (lineStarts text)[m] offsets p.number p.offset :=
      { nearest with
        start_le := later_le
        least := fun o member later =>
          nearest.least o member (Nat.le_trans (start_le_of_le (by omega) entry entry') later) }
    obtain ⟨same, -⟩ := moved.unique (nearest_of_earliestWithin again)
    rw [on, mapLine_of_entry entry', again, same]

/-- A later line is not mapped further back. -/
theorem mapLine_mono {later : Int} {answer' : LineMapping} (le : line ≤ later)
    (mapped : mapLine line (lineStarts text) offsets = some answer)
    (mapped' : mapLine later (lineStarts text) offsets = some answer') :
    answer.actualLine ≤ answer'.actualLine ∧
      ∃ offset offset', offsets[answer.stepPoint - 1]? = some offset ∧
        offsets[answer'.stepPoint - 1]? = some offset' ∧ offset ≤ offset' := by
  obtain ⟨n, start, o, rfl, entry, nearest, on⟩ := nearest_of_mapLine mapped
  obtain ⟨m, start', o', rfl, entry', nearest', on'⟩ := nearest_of_mapLine mapped'
  have start_le : start ≤ o' :=
    Nat.le_trans (start_le_of_le (by omega) entry entry') nearest'.start_le
  have o_le := nearest.least o' (List.mem_of_getElem? nearest'.entry) start_le
  rw [on, on']
  exact ⟨lineOf_mono o_le, o, o', nearest.entry, nearest'.entry, o_le⟩

end

/-- A line is mapped to nothing exactly when it is no line of the text or no step point is at or after
its start. Otherwise it is mapped to the step point of least offset from there on, among equal offsets
the first, and to the line on which that offset is. -/
theorem mapLine_nearest (text : List Char) (offsets : List Nat) (line : Int)
    (below : ∀ o ∈ offsets, o < endOfOffsets) :
    let starts := lineStarts text
    (mapLine line starts offsets = none ↔
      ¬(1 ≤ line ∧ line ≤ starts.length) ∨
        ∀ start, starts[line.toNat - 1]? = some start → ∀ o ∈ offsets, o < start) ∧
    ∀ answer, mapLine line starts offsets = some answer →
      ∃ start offset, starts[line.toNat - 1]? = some start ∧
        Nearest start offsets answer.stepPoint offset ∧
        answer.actualLine = lineAt text offset ∧ line ≤ answer.actualLine := by
  intro starts
  have found (answer : LineMapping) (mapped : mapLine line starts offsets = some answer) :
      ∃ start offset, starts[line.toNat - 1]? = some start ∧
        Nearest start offsets answer.stepPoint offset ∧
        answer.actualLine = lineAt text offset ∧ line ≤ answer.actualLine := by
    have le := le_of_mapLine mapped
    obtain ⟨n, start, offset, rfl, entry, nearest, on⟩ := nearest_of_mapLine mapped
    exact ⟨start, offset, entry, nearest, on.trans (lineOf_lineStarts text offset), le⟩
  refine ⟨⟨fun none => ?_, fun missing => ?_⟩, found⟩
  · by_cases inside : 1 ≤ line ∧ line ≤ starts.length
    · refine .inr fun start entry o member => Nat.lt_of_not_le fun start_le => ?_
      obtain ⟨answer, mapped⟩ := exists_mapLine entry member start_le (below o member)
      rw [show ((line.toNat - 1 + 1 : Nat) : Int) = line by omega, none] at mapped
      cases mapped
    · exact .inl inside
  · refine Option.eq_none_iff_forall_ne_some.mpr fun answer mapped => ?_
    obtain ⟨start, offset, entry, nearest, -, -⟩ := found answer mapped
    obtain ⟨n, start', eq, entry'⟩ := entry_of_mapLine mapped
    have inside : n < starts.length := (List.getElem?_eq_some_iff.mp entry').1
    rcases missing with outside | before
    · exact outside ⟨by omega, by omega⟩
    · have := before start entry offset (List.mem_of_getElem? nearest.entry)
      have := nearest.start_le
      omega

/-- Two step points at one offset, listed after a later one: the middle line leads to the first of the
two, on the last line. -/
theorem mapLine_nearest_unsorted :
    let offsets := [6, 4, 4]
    (∀ o ∈ offsets, o < endOfOffsets) ∧
      ∃ answer, mapLine 2 (lineStarts "a\n\n bc d".toList) offsets = some answer ∧
        Nearest 2 offsets answer.stepPoint 4 ∧ answer = ⟨2, 3⟩ := by
  intro offsets
  have inside : ∀ o ∈ offsets, o < endOfOffsets := by decide
  obtain ⟨-, found⟩ := mapLine_nearest "a\n\n bc d".toList offsets 2 inside
  have mapped : mapLine 2 (lineStarts "a\n\n bc d".toList) offsets = some ⟨2, 3⟩ := by
    decide +kernel
  obtain ⟨start, offset, entry, nearest, -, -⟩ := found _ mapped
  obtain rfl : offset = 4 := (Option.some.inj nearest.entry).symm
  obtain rfl : start = 2 := by simpa [lineStarts, lineStartsFrom] using entry.symm
  exact ⟨inside, ⟨2, 3⟩, mapped, nearest, rfl⟩

end StoneDebug.Source
