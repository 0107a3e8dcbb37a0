import Mathlib.Data.List.Find
import Mathlib.Data.List.Permutation
import StoneDebug.Proofs.Source.Locations
import StoneDebug.Proofs.Source.Mapping

/-! # The positions that are offered

The positions offered on a range of lines stand in text order, each one once: every step point of the
range has its own, and the others are the later keywords of a step point's message. Where several come
to one place, the step point of least number there is told.
-/

namespace StoneDebug.Source

/-! ## Later keywords -/

section

variable {source : List Char} {offset start : Nat} {token : List Char}

/-- A later keyword is within the text. -/
theorem lt_length_of_mem_siblingKeywords
    (member : (offset, token) ∈ siblingKeywords source start) : offset < source.length := by
  obtain ⟨after, before⟩ := bounds_of_mem_lexemes (mem_of_mem_siblings member)
  rw [List.length_drop] at before
  omega

end

/-! ## Sorted positions -/

namespace BreakpointLocation

variable {a b c : BreakpointLocation} {xs : List BreakpointLocation}

def Before (a b : BreakpointLocation) : Prop :=
  a.line < b.line ∨ (a.line = b.line ∧ a.column < b.column)

theorem before_of_le (le : a.le b = true) (apart : ¬a.samePlace b = true) : a.Before b := by
  rw [le_iff] at le
  rw [samePlace_iff] at apart
  unfold Before
  omega

theorem Before.trans_le (before : a.Before b) (le : b.le c = true) : a.Before c := by
  rw [le_iff] at le
  unfold Before at *
  omega

theorem Before.not_samePlace (before : a.Before b) : ¬a.samePlace b = true := by
  rw [samePlace_iff]
  unfold Before at before
  omega

theorem samePlace_comm : a.samePlace b = true ↔ b.samePlace a = true := by
  rw [samePlace_iff, samePlace_iff]
  omega

theorem pairwise_before_distinct (sorted : xs.Pairwise fun a b => a.le b = true) :
    (distinct xs).Pairwise Before := by
  fun_induction distinct xs with
  | case1 => exact .nil
  | case2 a => exact List.pairwise_singleton _ a
  | case3 a b rest same ih =>
      exact ih (sorted.sublist ((List.sublist_cons_self b rest).cons_cons a))
  | case4 a b rest apart ih =>
      obtain ⟨least, sorted⟩ := List.pairwise_cons.mp sorted
      refine List.pairwise_cons.mpr ⟨fun c member => ?_, ih sorted⟩
      have next := before_of_le (least b List.mem_cons_self) apart
      rcases List.mem_cons.mp ((distinct_sublist (b :: rest)).subset member) with rfl | later
      · exact next
      · exact next.trans_le ((List.pairwise_cons.mp sorted).1 c later)

theorem pairwise_before_distinct_mergeSort (xs : List BreakpointLocation) :
    (distinct (xs.mergeSort le)).Pairwise Before :=
  pairwise_before_distinct (List.pairwise_mergeSort le_trans le_total xs)

/-- No place is told twice. -/
theorem eq_of_samePlace (sorted : xs.Pairwise Before) (first : a ∈ xs) (second : b ∈ xs)
    (same : a.samePlace b = true) : a = b := by
  induction xs with
  | nil => cases first
  | cons c xs ih =>
      obtain ⟨before, sorted⟩ := List.pairwise_cons.mp sorted
      rcases List.mem_cons.mp first with rfl | later <;>
        rcases List.mem_cons.mp second with rfl | later'
      · rfl
      · exact absurd same (before b later').not_samePlace
      · exact absurd (samePlace_comm.mp same) (before a later).not_samePlace
      · exact ih sorted later later'

theorem mem_of_mem_distinct_mergeSort (member : a ∈ distinct (xs.mergeSort le)) : a ∈ xs :=
  List.mem_mergeSort.mp ((distinct_sublist _).subset member)

/-- What is kept at a place is what comes first there. -/
theorem find?_of_mem_distinct_mergeSort (member : a ∈ distinct (xs.mergeSort le)) :
    xs.find? a.samePlace = some a := by
  have itself : a.samePlace a = true := samePlace_iff.mpr ⟨rfl, rfl⟩
  have there : (xs.find? a.samePlace).isSome :=
    List.find?_isSome.mpr ⟨a, mem_of_mem_distinct_mergeSort member, itself⟩
  obtain ⟨b, found⟩ := Option.isSome_iff_exists.mp there
  have sorted := pairwise_before_distinct_mergeSort xs
  have once : a = b :=
    eq_of_samePlace sorted member (mem_distinct_mergeSort found) (List.find?_some found)
  rw [found, once]

/-- The location is that of the offset: on its line, at a column that is counted from 1 at the start
of the line. -/
structure At (m : MethodSource) (offset : Nat) (l : BreakpointLocation) : Prop where
  line : l.line = lineOf m.starts offset
  positive : 1 ≤ l.column
  column : ∃ start, m.starts[l.line - 1]? = some start ∧ start + l.column = offset + 1

variable {m : MethodSource} {offset other : Nat}

theorem At.samePlace (here : a.At m offset) (there : b.At m offset) : a.samePlace b = true := by
  obtain ⟨start, entry, column⟩ := here.column
  obtain ⟨start', entry', column'⟩ := there.column
  have line := here.line.trans there.line.symm
  rw [line] at entry
  obtain rfl := Option.some.inj (entry.symm.trans entry')
  exact samePlace_iff.mpr ⟨line, by omega⟩

theorem At.unique (here : a.At m offset) (there : b.At m other) (same : a.samePlace b = true) :
    offset = other := by
  obtain ⟨line, column⟩ := samePlace_iff.mp same
  obtain ⟨start, entry, counted⟩ := here.column
  obtain ⟨start', entry', counted'⟩ := there.column
  rw [line] at entry
  obtain rfl := Option.some.inj (entry.symm.trans entry')
  omega

end BreakpointLocation

namespace MethodSource

open BreakpointLocation

/-- The line of the offset is in the line table, the offset is not before its start, and line and
column are words of 32 bits. -/
structure Placeable (m : MethodSource) (offset : Nat) : Prop where
  line : 1 ≤ lineOf m.starts offset ∧ lineOf m.starts offset < UInt32.size
  column : ∃ start, m.starts[lineOf m.starts offset - 1]? = some start ∧ start ≤ offset ∧
    offset - start + 1 < UInt32.size

/-- A later keyword of the message that begins with the keyword of the step point. -/
def IsPart (m : MethodSource) (p : StepPoint) (offset : Nat) : Prop :=
  let own : StepToken := .at m.text.toList p.number p.offset
  own.isKeyword = true ∧
    ∃ token, (offset, token) ∈ siblingKeywords m.text.toList (p.offset + own.selector.length)

/-- Where a breakpoint of the step point can be set. -/
def IsPosition (m : MethodSource) (p : StepPoint) (offset : Nat) : Prop :=
  offset = p.offset ∨ m.IsPart p offset

/-- What is offered on the lines `first` to `last`. -/
structure Offers (m : MethodSource) (first last : Nat) (ls : List BreakpointLocation) : Prop where
  increasing : ls.Pairwise Before
  within : ∀ l ∈ ls, first ≤ l.line ∧ l.line ≤ last
  placed : ∀ l ∈ ls, ∃ p ∈ stepPoints m.stepOffsets, l.stepPoint = p.number ∧
    ∃ offset, m.IsPosition p offset ∧ l.At m offset
  /-- No position on the lines is left out. -/
  complete : ∀ p ∈ stepPoints m.stepOffsets, ∀ offset, m.IsPosition p offset →
    first ≤ lineOf m.starts offset → lineOf m.starts offset ≤ last → ∃ l ∈ ls, l.At m offset
  /-- At the place of a step point the first one there is told. -/
  own : ∀ l ∈ ls, ∀ o ∈ m.stepOffsets, l.At m o → l.stepPoint = m.stepOffsets.idxOf o + 1

section

variable {text : String} {offsets : List Nat} {offset first last : Nat} {m : MethodSource}
  {t : StepToken} {l : BreakpointLocation}

theorem placeable_make (short : text.length < UInt32.size - 1) (small : offset < UInt32.size - 1) :
    (make text offsets).Placeable offset := by
  have positive := lineOf_pos (lineStarts text.toList) offset
  have inside := lineOf_le_length text.toList offset
  have lines : lineOf (lineStarts text.toList) offset ≤ text.length + 1 := by
    rw [lineOf_lineStarts, lineAt, ← String.length_toList]
    have counted := List.count_le_length (a := '\n') (l := text.toList.take offset)
    have := List.length_take_le' offset text.toList
    omega
  have entry := List.getElem?_eq_getElem
    (show lineOf (lineStarts text.toList) offset - 1 < (lineStarts text.toList).length by omega)
  have after : _ ≤ offset := (lt_lineOf_iff entry).mp (by omega)
  exact ⟨⟨positive, by simp only [make]; omega⟩, _, entry, after, by omega⟩

theorem at_ofToken (placeable : m.Placeable t.offset) : (ofToken m t).At m t.offset := by
  obtain ⟨start, entry, after, small⟩ := placeable.column
  have column : (ofToken m t).column = t.offset - start + 1 := by
    rw [ofToken, List.getD_eq_getElem?_getD, entry, Option.getD_some]
    exact congrArg (· + 1) (Nat.mod_eq_of_lt (by omega))
  exact ⟨rfl, by omega, start, entry, by omega⟩

theorem at_locationOf {p : StepPoint} (placeable : m.Placeable p.offset) :
    (m.locationOf p).At m p.offset :=
  at_ofToken (t := .at m.text.toList p.number p.offset) placeable

theorem position_of_mem_expandKeywords (member : t ∈ expandKeywords m.text.toList m.tokens) :
    ∃ p ∈ stepPoints m.stepOffsets, t.stepPoint = p.number ∧ m.IsPosition p t.offset := by
  rcases List.mem_append.mp member with own | added
  · obtain ⟨p, point, rfl⟩ := List.mem_map.mp own
    exact ⟨p, point, rfl, .inl rfl⟩
  · obtain ⟨own, given, keyword, stepPoint, found⟩ := sibling_of_mem_added added
    obtain ⟨p, point, rfl⟩ := List.mem_map.mp given
    exact ⟨p, point, stepPoint, .inr ⟨keyword, t.selector, found⟩⟩

theorem mem_expandKeywords_of_position {p : StepPoint} (point : p ∈ stepPoints m.stepOffsets)
    (position : m.IsPosition p offset) :
    ∃ t ∈ expandKeywords m.text.toList m.tokens, t.offset = offset := by
  have own : StepToken.at m.text.toList p.number p.offset ∈ m.tokens := List.mem_map_of_mem point
  rcases position with rfl | ⟨keyword, token, sibling⟩
  · exact ⟨_, List.mem_append_left _ own, rfl⟩
  · refine ⟨⟨p.number, offset, token⟩, List.mem_append_right _ ?_, rfl⟩
    exact List.mem_flatMap.mpr
      ⟨_, List.mem_filter.mpr ⟨own, keyword⟩, List.mem_map.mpr ⟨_, sibling, rfl⟩⟩

/-- The first step point of an offset. -/
theorem find?_stepPoints {o : Nat} (member : o ∈ offsets) :
    (stepPoints offsets).find? (fun p => p.offset == o) = some ⟨offsets.idxOf o + 1, o⟩ := by
  have first (start : Nat) : (offsets.zipIdx start).find? (fun x => x.1 == o) =
      some (o, offsets.idxOf o + start) := by
    induction offsets generalizing start with
    | nil => cases member
    | cons head offsets ih =>
        by_cases here : head = o
        · subst here
          simp [List.zipIdx_cons]
        · have later : o ∈ offsets := by simpa [Ne.symm here] using member
          have other : (head == o) = false := beq_false_of_ne here
          rw [List.zipIdx_cons, List.find?_cons_of_neg (by simpa using here), ih later]
          simp [List.idxOf_cons, other, Nat.add_comm, Nat.add_left_comm]
  rw [stepPoints, List.find?_map]
  show Option.map _ ((offsets.zipIdx 1).find? fun x => x.1 == o) = _
  rw [first]
  rfl

variable (short : text.length < UInt32.size - 1) (small : ∀ o ∈ offsets, o < UInt32.size - 1)

include short small

theorem placeable_of_mem_expandKeywords
    (member : t ∈ expandKeywords text.toList (make text offsets).tokens) :
    (make text offsets).Placeable t.offset := by
  obtain ⟨p, point, -, own | ⟨-, token, sibling⟩⟩ :=
    position_of_mem_expandKeywords (m := make text offsets) member
  · exact placeable_make short (own ▸ small _ (offset_mem_of_stepPoint point))
  · have inside := lt_length_of_mem_siblingKeywords sibling
    exact placeable_make short (Nat.lt_trans inside short)

theorem at_of_mem_breakpointLocations (offered : l ∈ (make text offsets).breakpointLocations first last) :
    ∃ t ∈ expandKeywords text.toList (make text offsets).tokens,
      l.stepPoint = t.stepPoint ∧ l.At (make text offsets) t.offset := by
  have among := (List.mem_filter.mp (mem_of_mem_distinct_mergeSort offered)).1
  obtain ⟨t, member, rfl⟩ := List.mem_map.mp among
  exact ⟨t, member, rfl, at_ofToken (placeable_of_mem_expandKeywords short small member)⟩

theorem offered_of_mem_expandKeywords
    (member : t ∈ expandKeywords text.toList (make text offsets).tokens)
    (after : first ≤ lineOf (make text offsets).starts t.offset)
    (before : lineOf (make text offsets).starts t.offset ≤ last) :
    ∃ l ∈ (make text offsets).breakpointLocations first last,
      l.At (make text offsets) t.offset := by
  have place := at_ofToken (placeable_of_mem_expandKeywords short small member)
  have inRange : ofToken (make text offsets) t ∈
      ((expandKeywords text.toList (make text offsets).tokens).map (ofToken (make text offsets))).filter
        fun l => first ≤ l.line && l.line ≤ last :=
    List.mem_filter.mpr ⟨List.mem_map_of_mem member, by simpa [place.line] using ⟨after, before⟩⟩
  -- What is kept at its place may be another token's position.
  obtain ⟨l, found⟩ := Option.isSome_iff_exists.mp
    (List.find?_isSome.mpr ⟨_, inRange, samePlace_iff.mpr ⟨rfl, rfl⟩⟩)
  have offered := mem_distinct_mergeSort found
  obtain ⟨t', -, -, place'⟩ := at_of_mem_breakpointLocations short small offered
  have same := place.unique place' (List.find?_some found)
  exact ⟨l, offered, same ▸ place'⟩

/-- A place of a step point is found at the first step point there. -/
theorem find?_locationOf {o : Nat} (member : o ∈ offsets) (here : l.At (make text offsets) o)
    (after : first ≤ l.line) (before : l.line ≤ last) :
    (((stepPoints offsets).map (make text offsets).locationOf).filter
        fun l => first ≤ l.line && l.line ≤ last).find? l.samePlace =
      some ((make text offsets).locationOf ⟨offsets.idxOf o + 1, o⟩) := by
  rw [List.find?_filter, List.find?_map]
  have found := find?_stepPoints member
  refine Option.map_eq_some_iff.mpr ⟨_, (List.find?_congr fun p point => ?_).trans found, rfl⟩
  have there : ((make text offsets).locationOf p).At (make text offsets) p.offset :=
    at_locationOf (placeable_make short (small _ (offset_mem_of_stepPoint point)))
  rw [Bool.eq_iff_iff]
  simp only [Function.comp_apply, Bool.and_eq_true, decide_eq_true_eq, beq_iff_eq]
  constructor
  · rintro ⟨_, place⟩
    exact (here.unique there place).symm
  · intro same
    have place := here.samePlace (same ▸ there)
    have line := (samePlace_iff.mp place).1
    exact ⟨⟨line ▸ after, line ▸ before⟩, place⟩

/-- At the place of a step point the first one there is offered. -/
theorem find?_inRange {o : Nat} (member : o ∈ offsets) (here : l.At (make text offsets) o)
    (after : first ≤ l.line) (before : l.line ≤ last) :
    (((expandKeywords text.toList (make text offsets).tokens).map (ofToken (make text offsets))).filter
        fun l => first ≤ l.line && l.line ≤ last).find? l.samePlace =
      some ((make text offsets).locationOf ⟨offsets.idxOf o + 1, o⟩) := by
  -- The positions of the step points come before those of later keywords.
  rw [expandKeywords, List.map_append, List.filter_append, List.find?_append, tokens, List.map_map]
  show (List.find? _ (((stepPoints offsets).map (make text offsets).locationOf).filter _)).or _ = _
  rw [find?_locationOf short small member here after before]
  rfl

end

/-- For every text and every table of offsets, in any order, repeated or beyond the end of the text: no
position leads out of the tables, and what is offered on a range of lines is what is to be offered. -/
theorem breakpointLocations_offers (text : String) (offsets : List Nat) (first last : Nat)
    (short : text.length < UInt32.size - 1) (small : ∀ o ∈ offsets, o < UInt32.size - 1) :
    let m := make text offsets
    (∀ t ∈ expandKeywords text.toList m.tokens, m.Placeable t.offset) ∧
      m.Offers first last (m.breakpointLocations first last) := by
  intro m
  have within (l) (offered : l ∈ m.breakpointLocations first last) :
      first ≤ l.line ∧ l.line ≤ last := by
    simpa using (List.mem_filter.mp (mem_of_mem_distinct_mergeSort offered)).2
  refine ⟨fun t => placeable_of_mem_expandKeywords short small,
    pairwise_before_distinct_mergeSort _, within, ?_, ?_, ?_⟩
  · intro l offered
    obtain ⟨t, member, stepPoint, place⟩ := at_of_mem_breakpointLocations short small offered
    obtain ⟨p, point, number, position⟩ := position_of_mem_expandKeywords (m := m) member
    exact ⟨p, point, stepPoint.trans number, t.offset, position, place⟩
  · intro p point offset position after before
    obtain ⟨t, member, rfl⟩ := mem_expandKeywords_of_position point position
    exact offered_of_mem_expandKeywords short small member after before
  · intro l offered o member place
    obtain ⟨after, before⟩ := within l offered
    have found := find?_inRange short small member place after before
    obtain rfl := Option.some.inj ((find?_of_mem_distinct_mergeSort offered).symm.trans found)
    rfl

/-- The keyword `put:` of the second line has a step point of its own besides that of `at:`, which is
listed twice; one offset is beyond the end. -/
theorem breakpointLocations_offers_mixed :
    let m := make "d at: 1\nput: 2.\nd size" [18, 2, 8, 2, 40]
    m.text.length < UInt32.size - 1 ∧ (∀ o ∈ m.stepOffsets, o < UInt32.size - 1) ∧
      (∀ t ∈ expandKeywords m.text.toList m.tokens, m.Placeable t.offset) ∧
      m.Offers 1 3 [⟨2, 1, 3⟩, ⟨3, 2, 1⟩, ⟨1, 3, 3⟩, ⟨5, 3, 25⟩] := by
  intro m
  have short : m.text.length < UInt32.size - 1 := by decide
  have small : ∀ o ∈ [18, 2, 8, 2, 40], o < UInt32.size - 1 := by decide
  have listed : m.breakpointLocations 1 3 = [⟨2, 1, 3⟩, ⟨3, 2, 1⟩, ⟨1, 3, 3⟩, ⟨5, 3, 25⟩] := by cbv
  obtain ⟨placeable, offers⟩ := breakpointLocations_offers m.text [18, 2, 8, 2, 40] 1 3 short small
  exact ⟨short, small, placeable, listed ▸ offers⟩

end MethodSource

end StoneDebug.Source
