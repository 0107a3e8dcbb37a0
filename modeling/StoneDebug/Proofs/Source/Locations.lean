import StoneDebug.Proofs.Source.Lines

/-! # Lines that are offered and lines that can be set

A location is offered for every step point and for the later keywords of its message, but a line is
mapped by the step points alone. So a breakpoint stays on a line exactly when one of the locations
that are offered there is on the line of its own step point.
-/

namespace StoneDebug.Source

/-! ## Keywords -/

section

variable {source : List Char} {offset start depth : Nat} {token : List Char}

theorem bounds_of_mem_lexemes {cs : List Char} {lex : Lexeme}
    (member : (offset, lex) ∈ lexemes start cs) : start ≤ offset ∧ offset < start + cs.length := by
  fun_induction lexemes start cs with
  | case1 => cases member
  | case2 start c rest after ih =>
      have shorter : after.length ≤ rest.length := length_lexeme_le c rest
      rw [List.length_cons]
      rcases List.mem_cons.mp member with eq | later
      · cases eq
        omega
      · obtain ⟨low, high⟩ := ih later
        omega

/-- Siblings are among the lexemes, in their order. -/
theorem siblings_sublist (depth : Nat) (ls : List (Nat × Lexeme)) :
    ((siblings depth ls).map fun s => (s.1, Lexeme.keyword s.2)).Sublist ls := by
  fun_induction siblings depth ls with
  | case1 => exact .slnil
  | case3 | case5 => exact List.nil_sublist _
  | case7 offset token rest ih => exact ih.cons_cons _
  | case8 _ _ _ rest ih => exact ih.cons _
  | case2 _ _ rest ih | case4 _ _ rest ih | case6 _ _ rest ih | case9 _ _ rest ih => exact ih.cons _

theorem mem_of_mem_siblings {ls : List (Nat × Lexeme)} (member : (offset, token) ∈ siblings depth ls) :
    (offset, .keyword token) ∈ ls :=
  (siblings_sublist depth ls).subset (List.mem_map_of_mem member)

theorem le_of_mem_siblingKeywords (member : (offset, token) ∈ siblingKeywords source start) :
    start ≤ offset :=
  (bounds_of_mem_lexemes (mem_of_mem_siblings member)).1

/-- What an expansion adds is a sibling of a given keyword, with its step point. -/
theorem sibling_of_mem_added {tokens : List StepToken} {t : StepToken}
    (member : t ∈ (tokens.filter StepToken.isKeyword).flatMap (StepToken.siblings source)) :
    ∃ own ∈ tokens, own.isKeyword = true ∧ t.stepPoint = own.stepPoint ∧
      (t.offset, t.selector) ∈ siblingKeywords source (own.offset + own.selector.length) := by
  obtain ⟨own, filtered, sibling⟩ := List.mem_flatMap.mp member
  obtain ⟨given, keyword⟩ := List.mem_filter.mp filtered
  obtain ⟨⟨offset, token⟩, found, rfl⟩ := List.mem_map.mp sibling
  exact ⟨own, given, keyword, rfl, found⟩

/-- A token of an expansion belongs to the message of a given token that it does not precede. -/
theorem of_mem_expandKeywords {tokens : List StepToken} {t : StepToken}
    (member : t ∈ expandKeywords source tokens) :
    ∃ own ∈ tokens, t.stepPoint = own.stepPoint ∧ own.offset ≤ t.offset := by
  rcases List.mem_append.mp member with given | added
  · exact ⟨t, given, rfl, Nat.le_refl _⟩
  · obtain ⟨own, given, -, stepPoint, found⟩ := sibling_of_mem_added added
    have after := le_of_mem_siblingKeywords found
    exact ⟨own, given, stepPoint, Nat.le_trans (Nat.le_add_right _ _) after⟩

end

/-! ## Order and places -/

namespace BreakpointLocation

variable {a b c : BreakpointLocation} {xs ys : List BreakpointLocation}

theorem le_iff : a.le b = true ↔ a.line < b.line ∨ (a.line = b.line ∧ a.column ≤ b.column) := by
  simp [le]

theorem le_trans (a b c : BreakpointLocation) (first : a.le b = true) (second : b.le c = true) :
    a.le c = true := by
  rw [le_iff] at *
  omega

theorem le_total (a b : BreakpointLocation) : (a.le b || b.le a) = true := by
  rw [Bool.or_eq_true, le_iff, le_iff]
  omega

theorem samePlace_iff : a.samePlace b = true ↔ a.line = b.line ∧ a.column = b.column := by
  simp [samePlace]

theorem le_of_samePlace (first : a.samePlace b = true) (second : a.samePlace c = true) :
    b.le c = true := by
  rw [samePlace_iff] at first second
  rw [le_iff]
  omega

theorem filter_mergeSort (a : BreakpointLocation) (xs : List BreakpointLocation) :
    (xs.mergeSort le).filter a.samePlace = xs.filter a.samePlace := by
  -- What is at one place is in order already, so a stable sort keeps it as a sublist.
  have ordered : (xs.filter a.samePlace).Pairwise fun b c => b.le c = true :=
    List.pairwise_iff_forall_sublist.mpr fun {b c} both => by
      have same : ∀ l ∈ [b, c], a.samePlace l = true := fun l member =>
        (List.mem_filter.mp (both.subset member)).2
      exact le_of_samePlace (same b (by simp)) (same c (by simp))
  have kept := List.sublist_mergeSort le_trans le_total ordered List.filter_sublist
  have sublist := kept.filter a.samePlace
  simp only [List.filter_filter, Bool.and_self] at sublist
  exact (sublist.eq_of_length ((List.mergeSort_perm xs le).filter _).length_eq.symm).symm

theorem head_mem_distinct (a : BreakpointLocation) (xs : List BreakpointLocation) :
    a ∈ distinct (a :: xs) := by
  induction xs with
  | nil => simp [distinct]
  | cons b xs ih =>
      rw [distinct]
      split
      · exact ih
      · exact List.mem_cons_self

/-- The first location at its place is kept. -/
theorem mem_distinct (new : ∀ b ∈ xs, ¬b.samePlace a = true) : a ∈ distinct (xs ++ a :: ys) := by
  cases xs with
  | nil => exact head_mem_distinct a ys
  | cons b xs =>
      induction xs generalizing b with
      | nil =>
          rw [List.cons_append, List.nil_append, distinct, if_neg (new b List.mem_cons_self)]
          exact List.mem_cons_of_mem _ (head_mem_distinct a ys)
      | cons c xs ih =>
          obtain ⟨other, rest⟩ := List.forall_mem_cons.mp new
          obtain ⟨-, later⟩ := List.forall_mem_cons.mp rest
          rw [List.cons_append, List.cons_append, distinct]
          split
          · exact ih b (List.forall_mem_cons.mpr ⟨other, later⟩)
          · exact List.mem_cons_of_mem _ (ih c rest)

theorem distinct_sublist (xs : List BreakpointLocation) : (distinct xs).Sublist xs := by
  fun_induction distinct xs with
  | case1 => exact .slnil
  | case2 a => exact .refl _
  | case3 a b rest same ih => exact ih.trans ((List.sublist_cons_self b rest).cons_cons a)
  | case4 a b rest other ih => exact ih.cons_cons a

/-- What is kept at a place after sorting is the first one there. -/
theorem mem_distinct_mergeSort (found : xs.find? a.samePlace = some b) :
    b ∈ distinct (xs.mergeSort le) := by
  have sorted : (xs.mergeSort le).find? a.samePlace = some b := by
    rw [← List.head?_filter, filter_mergeSort, List.head?_filter, found]
  obtain ⟨here, before, after, eq, others⟩ := List.find?_eq_some_iff_append.mp sorted
  rw [eq]
  refine mem_distinct fun c member same => ?_
  have away : ¬a.samePlace c = true := by simpa using others c member
  rw [samePlace_iff] at *
  exact away ⟨here.1.trans same.1.symm, here.2.trans same.2.symm⟩

end BreakpointLocation

/-! ## Lines -/

namespace MethodSource

open BreakpointLocation

/-- A breakpoint on the line stays there. -/
def Settable (m : MethodSource) (line : Nat) : Prop :=
  ∃ stepPoint, mapLine line m.starts m.stepOffsets = some ⟨stepPoint, line⟩

section

variable {m : MethodSource} {line : Nat} {p : StepPoint} {l : BreakpointLocation}

theorem lineOfStepPoint_of_mem (point : p ∈ stepPoints m.stepOffsets) :
    m.lineOfStepPoint p.number = lineOf m.starts p.offset := by
  obtain ⟨positive, entry⟩ := mem_stepPoints.mp point
  have : ¬(p.number : Int) ≤ 0 := by omega
  rw [lineOfStepPoint, if_neg this, Int.toNat_natCast, entry]

def locationOf (m : MethodSource) (p : StepPoint) : BreakpointLocation :=
  ofToken m (.at m.text.toList p.number p.offset)

/-- What is offered on a line belongs to a step point, at or before it. -/
theorem of_mem_breakpointLocations (offered : l ∈ m.breakpointLocations line line) :
    l.line = line ∧ ∃ p ∈ stepPoints m.stepOffsets, ∃ offset, l.stepPoint = p.number ∧
      p.offset ≤ offset ∧ lineOf m.starts offset = line := by
  have sorted := (distinct_sublist _).subset offered
  obtain ⟨among, range⟩ := List.mem_filter.mp (List.mem_mergeSort.mp sorted)
  have on : l.line = line := by
    simp only [Bool.and_eq_true, decide_eq_true_eq] at range
    omega
  obtain ⟨t, token, rfl⟩ := List.mem_map.mp among
  obtain ⟨own, owned, stepPoint, before⟩ := of_mem_expandKeywords token
  obtain ⟨p, point, rfl⟩ := List.mem_map.mp owned
  exact ⟨on, p, point, t.offset, stepPoint, before, on⟩

/-- On the line of a step point a step point's own position is offered. -/
theorem offered_of_on (point : p ∈ stepPoints m.stepOffsets)
    (on : lineOf m.starts p.offset = line) :
    ∃ q ∈ stepPoints m.stepOffsets, lineOf m.starts q.offset = line ∧
      m.locationOf q ∈ m.breakpointLocations line line := by
  let a := m.locationOf p
  let inRange (l : BreakpointLocation) : Bool := line ≤ l.line && l.line ≤ line
  let own := ((stepPoints m.stepOffsets).map m.locationOf).filter inRange
  have mem_own {b : BreakpointLocation} : b ∈ own ↔
      ∃ q ∈ stepPoints m.stepOffsets, lineOf m.starts q.offset = line ∧ m.locationOf q = b := by
    simp only [own, inRange, List.mem_filter, List.mem_map, Bool.and_eq_true, decide_eq_true_eq]
    constructor
    · rintro ⟨⟨q, point, rfl⟩, range⟩
      exact ⟨q, point, Nat.le_antisymm range.2 range.1, rfl⟩
    · rintro ⟨q, point, on, rfl⟩
      exact ⟨⟨q, point, rfl⟩, Nat.le_of_eq on.symm, Nat.le_of_eq on⟩
  have there : (own.find? a.samePlace).isSome :=
    List.find?_isSome.mpr ⟨a, mem_own.mpr ⟨p, point, on, rfl⟩, samePlace_iff.mpr ⟨rfl, rfl⟩⟩
  obtain ⟨b, first⟩ := Option.isSome_iff_exists.mp there
  obtain ⟨q, point', on', rfl⟩ := mem_own.mp (List.mem_of_find?_eq_some first)
  -- The positions of the step points come before those of later keywords.
  refine ⟨q, point', on', mem_distinct_mergeSort (a := a) ?_⟩
  have split : ((expandKeywords m.text.toList m.tokens).map (ofToken m)).filter inRange =
      own ++ (((m.tokens.filter StepToken.isKeyword).flatMap
        (StepToken.siblings m.text.toList)).map (ofToken m)).filter inRange := by
    rw [expandKeywords, List.map_append, List.filter_append, tokens, List.map_map]
    rfl
  rw [split, List.find?_append, first]
  rfl

end

/-- A breakpoint stays on a line exactly when a location offered there is on the line of its own step
point. The others that are offered continue a message from an earlier line, and whatever a line is
mapped to is a step point on the line answered, which is not an earlier one. -/
theorem settable_iff (text : String) (offsets : List Nat) (line : Nat)
    (below : ∀ o ∈ offsets, o < endOfOffsets) :
    let m := make text offsets
    (m.Settable line ↔
      ∃ l ∈ m.breakpointLocations line line, m.lineOfStepPoint l.stepPoint = line) ∧
    (∀ l ∈ m.breakpointLocations line line, m.lineOfStepPoint l.stepPoint ≤ line) ∧
    ∀ answer, mapLine line m.starts m.stepOffsets = some answer →
      m.lineOfStepPoint answer.stepPoint = answer.actualLine ∧ line ≤ answer.actualLine := by
  intro m
  refine ⟨⟨fun settable => ?_, fun offered => ?_⟩, fun l offered => ?_, fun answer mapped => ?_⟩
  · obtain ⟨stepPoint, mapped⟩ := settable
    obtain ⟨p, point, eq, -⟩ := of_mapLine below mapped
    have on : lineOf m.starts p.offset = line := (congrArg LineMapping.actualLine eq).symm
    obtain ⟨q, point, on, offered⟩ := offered_of_on (m := m) point on
    exact ⟨_, offered, (lineOfStepPoint_of_mem point).trans on⟩
  · obtain ⟨l, offered, on⟩ := offered
    obtain ⟨-, p, point, offset, stepPoint, -⟩ := of_mem_breakpointLocations offered
    rw [stepPoint, lineOfStepPoint_of_mem point] at on
    exact mapLine_of_on below point on
  · obtain ⟨-, p, point, offset, stepPoint, before, on⟩ := of_mem_breakpointLocations offered
    rw [stepPoint, lineOfStepPoint_of_mem point, ← on]
    exact lineOf_mono before
  · obtain ⟨p, point, rfl, later⟩ := of_mapLine below mapped
    exact ⟨lineOfStepPoint_of_mem (m := m) point, later⟩

theorem breakpointLocations_of_single {m : MethodSource} {first last : Nat} {l : BreakpointLocation}
    (single : ((expandKeywords m.text.toList m.tokens).map (ofToken m)).filter
      (fun l => first ≤ l.line && l.line ≤ last) = [l]) : m.breakpointLocations first last = [l] := by
  rw [breakpointLocations]
  simp only [single, List.mergeSort_singleton, distinct]

/-- A message over two lines can be stopped at on the first one. -/
theorem settable_first_line :
    let m := make "d at: 1\nput: 2.\nd size" [2, 18]
    (∀ o ∈ m.stepOffsets, o < endOfOffsets) ∧ m.Settable 1 := by
  intro m
  have inside : ∀ o ∈ [2, 18], o < endOfOffsets := by decide
  have offered : m.breakpointLocations 1 1 = [⟨1, 1, 3⟩] :=
    breakpointLocations_of_single (by decide +kernel)
  refine ⟨inside, (settable_iff _ [2, 18] 1 inside).1.mpr ⟨⟨1, 1, 3⟩, ?_, by decide +kernel⟩⟩
  exact offered ▸ List.mem_cons_self

/-- Its second line is offered as well, but a breakpoint there is moved to the next statement. -/
theorem offered_second_line :
    let m := make "d at: 1\nput: 2.\nd size" [2, 18]
    m.breakpointLocations 2 2 = [⟨1, 2, 1⟩] ∧
      mapLine 2 m.starts m.stepOffsets = some ⟨2, 3⟩ ∧ ¬m.Settable 2 := by
  intro m
  have moved : mapLine (2 : Nat) m.starts m.stepOffsets = some ⟨2, 3⟩ := by decide +kernel
  refine ⟨breakpointLocations_of_single (by decide +kernel), moved, fun settable => ?_⟩
  obtain ⟨stepPoint, stays⟩ := settable
  cases moved.symm.trans stays

end MethodSource

end StoneDebug.Source
