import StoneDebug.Proofs.Source.Locations
import StoneDebug.Proofs.Source.Mapping

/-! # The line table of a text

The table holds 0 and what is behind each newline, in the order of the text, so it divides at every
offset: the entries of the lines up to the offset come first. A search that finds where it divides
answers the line, which is one more than the newlines before the offset.
-/

namespace StoneDebug.Source

variable {text : List Char} {starts : List Nat} {offset start n : Nat}

structure LineTable (text : List Char) (starts : List Nat) : Prop where
  first : starts[0]? = some 0
  /-- A later line starts behind the newline before it. -/
  later : ∀ n start, starts[n + 1]? = some start ↔
    ∃ i, text[i]? = some '\n' ∧ (text.take i).count '\n' = n ∧ start = i + 1
  increasing : starts.Pairwise (· < ·)
  length : starts.length = 1 + text.count '\n'

/-- The first `n` entries are those at or before the offset. -/
structure Divides (starts : List Nat) (offset n : Nat) : Prop where
  within : n ≤ starts.length
  before : ∀ i start, starts[i]? = some start → (i < n ↔ start ≤ offset)

theorem length_lineStartsFrom (offset : Nat) (text : List Char) :
    (lineStartsFrom offset text).length = text.count '\n' := by
  fun_induction lineStartsFrom offset text with
  | case1 => rfl
  | case2 offset rest ih => rw [List.length_cons, ih, List.count_cons_self]
  | case3 offset c rest other ih => rw [ih, List.count_cons_of_ne other]

/-- The entry for a newline is the one after as many as there are newlines before it. -/
theorem getElem?_lineStartsFrom :
    (lineStartsFrom offset text)[n]? = some start ↔
      ∃ i, text[i]? = some '\n' ∧ (text.take i).count '\n' = n ∧ start = offset + i + 1 := by
  fun_induction lineStartsFrom offset text generalizing n with
  | case1 => simp
  | case2 offset rest ih =>
      rw [← Nat.or_exists_add_one]
      cases n with
      | zero => simp [eq_comm]
      | succ n => simp [ih, Nat.add_assoc, Nat.add_comm 1]
  | case3 offset c rest other ih =>
      rw [← Nat.or_exists_add_one, ih]
      have other : c ≠ '\n' := other
      simp [Nat.add_assoc, Nat.add_comm 1, other]

theorem lineTable_lineStarts (text : List Char) : LineTable text (lineStarts text) where
  first := rfl
  later n start := by
    rw [lineStarts, List.getElem?_cons_succ, getElem?_lineStartsFrom]
    simp only [Nat.zero_add]
  increasing := pairwise_lineStarts text
  length := by rw [lineStarts, List.length_cons, length_lineStartsFrom, Nat.add_comm]

/-- A table divides at one place only. -/
theorem Divides.unique {m : Nat} (first : Divides starts offset n) (second : Divides starts offset m) :
    n = m := by
  have le {n m : Nat} (first : Divides starts offset n) (second : Divides starts offset m) : n ≤ m := by
    refine Nat.le_of_not_lt fun less => ?_
    have inside : m < starts.length := Nat.lt_of_lt_of_le less first.within
    have entry := List.getElem?_eq_getElem inside
    have := (first.before m _ entry).mp less
    exact Nat.lt_irrefl m ((second.before m _ entry).mpr this)
  exact Nat.le_antisymm (le first second) (le second first)

theorem divides_lineOf (text : List Char) (offset : Nat) :
    Divides (lineStarts text) offset (lineOf (lineStarts text) offset) where
  within := lineOf_le_length text offset
  before _ _ entry := lt_lineOf_iff entry

/-- The line of an offset is one more than the newlines before it, whatever the offset is. The table has
an entry for each line, increasing, the entry of the line is not after the offset, and the line is
where the table divides at the offset. -/
theorem lineOf_counts (text : List Char) (offset : Nat) :
    let starts := lineStarts text
    let line := lineOf starts offset
    line = 1 + (text.take offset).count '\n' ∧ LineTable text starts ∧
      (∃ start, starts[line - 1]? = some start ∧ start ≤ offset) ∧
      ∀ n, Divides starts offset n ↔ n = line := by
  intro starts line
  have divides : Divides starts offset line := divides_lineOf text offset
  have counted : line = lineAt text offset := lineOf_lineStarts text offset
  have positive : 0 < line := lineOf_pos starts offset
  have entry := List.getElem?_eq_getElem
    (show line - 1 < starts.length by have := divides.within; omega)
  refine ⟨by rw [counted, lineAt, Nat.add_comm], lineTable_lineStarts text,
    ⟨_, entry, (divides.before _ _ entry).mp (by omega)⟩, fun n => ⟨fun other => other.unique divides, ?_⟩⟩
  rintro rfl
  exact divides

example : lineStarts "é\n\nü".toList = [0, 2, 3] ∧ lineOf [0, 2, 3] 2 = 2 ∧ lineOf [0, 2, 3] 9 = 3 := by
  decide

/-- The line of a step point that is known is that of its offset. -/
theorem MethodSource.lineOfStepPoint_make {text : String} {offsets : List Nat} {p : StepPoint}
    (point : p ∈ stepPoints offsets) :
    (make text offsets).lineOfStepPoint p.number = lineAt text.toList p.offset :=
  (lineOfStepPoint_of_mem (m := make text offsets) point).trans (lineOf_lineStarts text.toList p.offset)

end StoneDebug.Source
