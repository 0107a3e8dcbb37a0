import StoneDebug.Proofs.Oop.Codec

/-! # Tests of references

Whether a reference is of some kind is tested on a few of its bits, without reading the whole word. On
every word the tests agree with its kind, but for two things: words that hold nothing count as special
objects although they have no class, and the test for Characters looks at the low byte only.
-/

namespace StoneDebug.Oop

variable {o : Oop} {k : Kind}

theorem isSmallInt_iff : o.isSmallInt = true ↔ ∃ i, o.kind = .smallInt i := by
  simp only [← asInt?_eq_some_iff, asInt?, Option.ite_none_right_eq_some, exists_and_left,
    Option.some.injEq, exists_eq', and_true]

theorem isSmallDouble_iff : o.isSmallDouble = true ↔ ∃ d, o.kind = .smallDouble d := by
  simp only [← asDouble?_eq_some_iff, asDouble?, Option.ite_none_right_eq_some, exists_and_left,
    Option.some.injEq, exists_eq', and_true]

theorem isHeapRef_iff : o.isHeapRef = true ↔ ∃ raw, o.kind = .heapRef raw := by
  have fields : o.isHeapRef = true ↔ o.toNat % 8 = 1 ∧ o.toNat ≠ 1 := by
    simp [isHeapRef, isSpecial, tag, ← Bool.not_eq_true]
  rw [fields]
  constructor
  · rintro ⟨tag, legal⟩
    exact ⟨_, kind_of_holds (.heapRef tag legal)⟩
  · rintro ⟨raw, read⟩
    have holds := holds_of_kind read (by simp)
    cases holds with
    | heapRef tag legal => exact ⟨tag, legal⟩

theorem isNil_iff_kind : o.isNil = true ↔ o.kind = .nil := by
  rw [isNil_iff]
  constructor
  · exact fun word => kind_of_holds (.nil word)
  · intro read
    have holds := holds_of_kind read nofun
    cases holds with
    | nil word => exact word

/-- The low byte is that of a Character, but no code point is that large. -/
def BeyondUnicode (o : Oop) : Prop := o.toNat % 0x100 = 0x1c ∧ maxCodePoint < o.toNat / 0x100

theorem charCode_of_kind {n : Nat} (read : o.kind = .char n) :
    o.isChar = true ∧ o.charCode = n := by
  have holds := holds_of_kind read nofun
  cases holds with
  | char bound word =>
      have low : o.isChar = true := by
        rw [isChar, beq_iff_eq]
        omega
      refine ⟨low, ?_⟩
      rw [charCode, if_pos low]
      omega

theorem kind_of_isChar (low : o.isChar = true) (within : ¬o.BeyondUnicode) :
    ∃ n, o.kind = .char n := by
  rw [isChar, beq_iff_eq] at low
  have bound : o.toNat / 0x100 ≤ maxCodePoint := Nat.not_lt.mp fun beyond => within ⟨low, beyond⟩
  exact ⟨_, kind_of_holds (.char bound (by omega))⟩

/-- Of the words that hold something, the heap references are not special. -/
theorem isSpecial_of_holds (h : Holds o k) : o.isSpecial = true ↔ ∀ raw, k ≠ .heapRef raw := by
  have tag : o.isSpecial = true ↔ o.toNat % 8 ≠ 1 := by simp [isSpecial, Oop.tag]
  rw [tag]
  cases h with
  | heapRef tag legal => simp [tag]
  | @bool b word => cases b <;> simp [word]
  | smallInt low high word | char bound word | nil word | smallDouble reduced exponent word =>
      exact iff_of_true (by omega) (by simp)

theorem specialClass_ne_illegal_iff :
    o.specialClass ≠ Oop.illegal ↔ o.isSpecial = true ∧ o.kind ≠ .illegal := by
  unfold specialClass
  cases read : o.kind with
  | illegal => simp
  | heapRef raw =>
      have special := isSpecial_of_holds (holds_of_kind read nofun)
      simp [special]
  | _ =>
      have special := isSpecial_of_holds (holds_of_kind read nofun)
      refine iff_of_true ?_ ⟨special.mpr nofun, nofun⟩
      dsimp only
      decide

/-- What the tests of a word tell about its kind. -/
structure Told (o : Oop) : Prop where
  smallInt : o.isSmallInt = true ↔ ∃ i, o.kind = .smallInt i
  value : ∀ i, o.asInt? = some i ↔ o.kind = .smallInt i
  smallDouble : o.isSmallDouble = true ↔ ∃ d, o.kind = .smallDouble d
  heapRef : o.isHeapRef = true ↔ ∃ raw, o.kind = .heapRef raw
  nil : o.isNil = true ↔ o.kind = .nil
  char : ¬o.BeyondUnicode → (o.isChar = true ↔ ∃ n, o.kind = .char n)
  code : ∀ n, o.kind = .char n → o.charCode = n
  noCode : ¬o.BeyondUnicode → (∀ n, o.kind ≠ .char n) → o.charCode = -1
  special : o.specialClass ≠ Oop.illegal ↔ o.isSpecial = true ∧ o.kind ≠ .illegal

/-- The tests tell the kind of every word, but for Characters beyond Unicode. A word has a class of its
own exactly when it is special and not illegal. -/
theorem told_by_bits (o : Oop) : o.Told where
  smallInt := isSmallInt_iff
  value _ := asInt?_eq_some_iff
  smallDouble := isSmallDouble_iff
  heapRef := isHeapRef_iff
  nil := isNil_iff_kind
  char within := ⟨fun low => kind_of_isChar low within, fun ⟨_, read⟩ => (charCode_of_kind read).1⟩
  code _ read := (charCode_of_kind read).2
  noCode within other := by
    have low : ¬o.isChar = true := fun low =>
      let ⟨n, read⟩ := kind_of_isChar low within
      other n read
    rw [charCode, if_neg low]
  special := specialClass_ne_illegal_iff

/-- Behind the low byte of a Character stands the first number that is no code point: the word holds
nothing, passes for a Character with that code and is special without a class. -/
theorem told_beyond_unicode :
    let o := Oop.mk 0x1100001c
    o.kind = .illegal ∧ o.charCode = 0x110000 ∧ ¬(o.isChar = true ↔ ∃ n, o.kind = .char n) ∧
      o.isSpecial = true ∧ o.specialClass = Oop.illegal := by
  intro o
  have illegal : o.kind = .illegal := by decide
  refine ⟨illegal, by decide, ?_, by decide, by decide⟩
  intro same
  obtain ⟨n, read⟩ := same.mp (by decide)
  exact absurd (illegal.symm.trans read) nofun

end StoneDebug.Oop
