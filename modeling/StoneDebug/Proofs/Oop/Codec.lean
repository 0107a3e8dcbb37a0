import StoneDebug.Foreign.Reply
import StoneDebug.Session.Basic
import StoneDebug.Proofs.Effect

/-! # Reading and building references

`Oop.Holds` says by the fields of a word which value it holds, and no two words hold the same one.
Reading a word yields what it holds, and building one for a value that fits yields a word that holds
it, so the two undo each other. They part over SmallDoubles below the normal range: a word can hold
such a double, but none is built for it.
-/

namespace StoneDebug

/-! ## Fields of doubles -/

namespace Binary64

variable {d d' : Binary64}

theorem toNat_ofFields (sign exponent fraction : Nat) :
    (ofFields sign exponent fraction).bits.toNat =
      sign % 2 * 0x8000000000000000 + exponent % 0x800 * 0x10000000000000 +
        fraction % 0x10000000000000 := by
  unfold ofFields
  apply UInt64.toNat_ofNat_of_lt'
  show _ < 0x10000000000000000
  omega

@[simp] theorem exponent_ofFields (sign exponent fraction : Nat) :
    (ofFields sign exponent fraction).exponent = exponent % 0x800 := by
  have word := toNat_ofFields sign exponent fraction
  unfold Binary64.exponent
  omega

@[simp] theorem fraction_ofFields (sign exponent fraction : Nat) :
    (ofFields sign exponent fraction).fraction = fraction % 0x10000000000000 := by
  have word := toNat_ofFields sign exponent fraction
  unfold Binary64.fraction
  omega

def signBit (d : Binary64) : Nat := if d.isNegative then 1 else 0

theorem signBit_eq (d : Binary64) : d.signBit = d.bits.toNat / 0x8000000000000000 := by
  have bound : d.bits.toNat < 0x10000000000000000 := d.bits.toNat_lt
  unfold signBit isNegative
  by_cases set : d.bits.toNat / 0x8000000000000000 = 1
  · simp [set]
  · simp only [beq_iff_eq, set, if_false]
    omega

@[simp] theorem signBit_ofFields (sign exponent fraction : Nat) :
    (ofFields sign exponent fraction).signBit = sign % 2 := by
  have word := toNat_ofFields sign exponent fraction
  rw [signBit_eq]
  omega

theorem signBit_lt (d : Binary64) : d.signBit < 2 := by
  unfold signBit
  split <;> omega

/-- A double is known by its three fields. -/
theorem eq_of_fields (sign : d.signBit = d'.signBit) (exponent : d.exponent = d'.exponent)
    (fraction : d.fraction = d'.fraction) : d = d' := by
  have same : d.bits.toNat = d'.bits.toNat := by
    rw [signBit_eq, signBit_eq] at sign
    unfold Binary64.exponent at exponent
    unfold Binary64.fraction at fraction
    omega
  cases d
  cases d'
  exact congrArg Binary64.mk (UInt64.toNat_inj.mp same)

end Binary64

/-! ## Words -/

namespace Oop

variable {o o' : Oop} {k : Kind}

theorem toNat_lt (o : Oop) : o.toNat < 0x10000000000000000 := o.raw.toNat_lt

theorem toNat_ofNat {n : Nat} (h : n < 0x10000000000000000) : (ofNat n).toNat = n :=
  UInt64.toNat_ofNat_of_lt' h

theorem eq_of_toNat (same : o.toNat = o'.toNat) : o = o' := by
  cases o
  cases o'
  exact congrArg Oop.mk (UInt64.toNat_inj.mp same)

theorem eq_iff_toNat : o = o' ↔ o.toNat = o'.toNat := ⟨congrArg toNat, eq_of_toNat⟩

@[simp] theorem isIllegal_iff : o.isIllegal = true ↔ o.toNat = 1 := by
  rw [isIllegal, beq_iff_eq, eq_iff_toNat]
  rfl

@[simp] theorem isNil_iff : o.isNil = true ↔ o.toNat = 0x14 := by
  rw [isNil, beq_iff_eq, eq_iff_toNat]
  rfl

/-! ## What a word holds -/

/-- The word holds the value. -/
inductive Holds : Oop → Kind → Prop
  | heapRef {o : Oop} (tag : o.toNat % 8 = 1) (legal : o.toNat ≠ 1) : Holds o (.heapRef o.raw)
  | smallInt {o : Oop} {i : Int} (low : minSmallInt ≤ i) (high : i ≤ maxSmallInt)
      (word : (o.toNat : Int) = i % 0x2000000000000000 * 8 + 2) : Holds o (.smallInt i)
  | char {o : Oop} {n : Nat} (bound : n ≤ maxCodePoint) (word : o.toNat = n * 0x100 + 0x1c) :
      Holds o (.char n)
  | bool {o : Oop} {b : Bool} (word : o.toNat = if b then 0x10c else 0xc) : Holds o (.bool b)
  | nil {o : Oop} (word : o.toNat = 0x14) : Holds o .nil
  /-- The exponent is kept in eight bits, where zero stays zero. -/
  | smallDouble {o : Oop} {d : Binary64} {e : Nat} (reduced : e < 0x100)
      (exponent : d.exponent = if e = 0 then 0 else e + smallDoubleBias)
      (word : o.toNat = d.fraction * 0x1000 + e * 0x10 + d.signBit * 8 + 6) :
      Holds o (.smallDouble d)

theorem Holds.unique (h : Holds o k) (h' : Holds o' k) : o = o' := by
  apply eq_of_toNat
  cases h with
  | heapRef =>
      -- The kind keeps the whole word.
      generalize same : Kind.heapRef o.raw = k at h'
      cases h' with
      | heapRef => exact congrArg UInt64.toNat (Kind.heapRef.inj same)
      | _ => cases same
  | smallInt low high word =>
      cases h' with
      | smallInt low' high' word' => omega
  | char bound word =>
      cases h' with
      | char bound' word' => omega
  | bool word =>
      cases h' with
      | bool word' => rw [word, word']
  | nil word =>
      cases h' with
      | nil word' => rw [word, word']
  | smallDouble reduced exponent word =>
      cases h' with
      | smallDouble reduced' exponent' word' =>
          rw [exponent, smallDoubleBias] at exponent'
          split at exponent' <;> split at exponent' <;> omega

/-! ## Reading -/

theorem holds_double (tag : o.toNat % 8 = 6) : Holds o (.smallDouble o.double) := by
  have bound := o.toNat_lt
  apply Holds.smallDouble (e := o.toNat / 0x10 % 0x100)
  · omega
  · simp only [double, Binary64.exponent_ofFields, beq_iff_eq, smallDoubleBias]
    split <;> omega
  · simp only [double, Binary64.fraction_ofFields, Binary64.signBit_ofFields]
    omega

theorem isFinite_double (o : Oop) : o.double.isFinite = true := by
  simp only [double, Binary64.isFinite, Binary64.exponent_ofFields, beq_iff_eq, bne_iff_ne,
    smallDoubleBias]
  split <;> omega

theorem kind_apply (o : Oop) :
    o.kind =
      if o.toNat = 1 then .illegal
      else if o.toNat % 8 = 1 then .heapRef o.raw
      else if o.toNat % 8 = 2 then .smallInt o.signedPayload
      else if o.toNat % 8 = 6 then .smallDouble o.double
      else if o.toNat = 0x14 then .nil
      else if o.toNat = 0x10c then .bool true
      else if o.toNat = 0xc then .bool false
      else if o.toNat % 0x100 = 0x1c ∧ o.toNat / 0x100 ≤ maxCodePoint then
        .char (o.toNat / 0x100)
      else .illegal := by
  have isTrue : o = Oop.true ↔ o.toNat = 0x10c := eq_iff_toNat
  have isFalse : o = Oop.false ↔ o.toNat = 0xc := eq_iff_toNat
  simp only [kind, isIllegal_iff, tag, beq_iff_eq, isNil_iff, isTrue, isFalse, isChar,
    Bool.and_eq_true, decide_eq_true_eq]

theorem holds_smallInt (tag : o.toNat % 8 = 2) : Holds o (.smallInt o.signedPayload) := by
  have bound := o.toNat_lt
  have fields : minSmallInt ≤ o.signedPayload ∧ o.signedPayload ≤ maxSmallInt ∧
      (o.toNat : Int) = o.signedPayload % 0x2000000000000000 * 8 + 2 := by
    unfold signedPayload payload minSmallInt maxSmallInt
    split <;> omega
  exact .smallInt fields.1 fields.2.1 fields.2.2

theorem holds_kind (valid : o.kind ≠ .illegal) : Holds o o.kind := by
  suffices h : o.kind = .illegal ∨ Holds o o.kind from h.resolve_left valid
  rw [kind_apply]
  by_cases illegal : o.toNat = 1
  · exact .inl (if_pos illegal)
  rw [if_neg illegal]
  by_cases heap : o.toNat % 8 = 1
  · rw [if_pos heap]
    exact .inr (.heapRef heap illegal)
  rw [if_neg heap]
  by_cases integer : o.toNat % 8 = 2
  · rw [if_pos integer]
    exact .inr (holds_smallInt integer)
  rw [if_neg integer]
  by_cases double : o.toNat % 8 = 6
  · rw [if_pos double]
    exact .inr (holds_double double)
  rw [if_neg double]
  by_cases isNil : o.toNat = 0x14
  · rw [if_pos isNil]
    exact .inr (.nil isNil)
  rw [if_neg isNil]
  by_cases isTrue : o.toNat = 0x10c
  · rw [if_pos isTrue]
    exact .inr (.bool isTrue)
  rw [if_neg isTrue]
  by_cases isFalse : o.toNat = 0xc
  · rw [if_pos isFalse]
    exact .inr (.bool isFalse)
  rw [if_neg isFalse]
  by_cases character : o.toNat % 0x100 = 0x1c ∧ o.toNat / 0x100 ≤ maxCodePoint
  · rw [if_pos character]
    exact .inr (.char character.2 (by omega))
  · exact .inl (if_neg character)

theorem signedPayload_of_word {i : Int} (low : minSmallInt ≤ i) (high : i ≤ maxSmallInt)
    (word : (o.toNat : Int) = i % 0x2000000000000000 * 8 + 2) : o.signedPayload = i := by
  unfold minSmallInt at low
  unfold maxSmallInt at high
  unfold signedPayload payload
  split <;> omega

theorem double_of_word {d : Binary64} {e : Nat} (reduced : e < 0x100)
    (exponent : d.exponent = if e = 0 then 0 else e + smallDoubleBias)
    (word : o.toNat = d.fraction * 0x1000 + e * 0x10 + d.signBit * 8 + 6) : o.double = d := by
  have sign := d.signBit_lt
  have field : o.toNat / 0x10 % 0x100 = e := by omega
  apply Binary64.eq_of_fields
  · simp only [double, Binary64.signBit_ofFields]
    omega
  · simp only [double, Binary64.exponent_ofFields, beq_iff_eq, field, exponent, smallDoubleBias]
    split <;> omega
  · simp only [double, Binary64.fraction_ofFields]
    unfold Binary64.fraction at word ⊢
    omega

/-- A word is read as what it holds. -/
theorem kind_of_holds (h : Holds o k) : o.kind = k := by
  rw [kind_apply]
  cases h with
  | heapRef tag legal => rw [if_neg legal, if_pos tag]
  | smallInt low high word =>
      rw [if_neg (by omega), if_neg (by omega), if_pos (by omega),
        signedPayload_of_word low high word]
  | @char n bound word =>
      have code : o.toNat / 0x100 = n := by omega
      have fits : o.toNat % 0x100 = 0x1c ∧ o.toNat / 0x100 ≤ maxCodePoint := ⟨by omega, by omega⟩
      rw [if_neg (by omega), if_neg (by omega), if_neg (by omega), if_neg (by omega),
        if_neg (by omega), if_neg (by omega), if_neg (by omega), if_pos fits, code]
  | @bool b word => cases b <;> simp [word]
  | nil word => simp [word]
  | @smallDouble d e reduced exponent word =>
      have sign := d.signBit_lt
      rw [if_neg (by omega), if_neg (by omega), if_neg (by omega), if_pos (by omega),
        double_of_word reduced exponent word]

/-! ## Building -/

/-- The values that a word can be built for. -/
def Kind.Fits : Kind → Prop
  | .heapRef raw => raw.toNat % 8 = 1 ∧ raw.toNat ≠ 1
  | .smallInt i => minSmallInt ≤ i ∧ i ≤ maxSmallInt
  | .char n => n ≤ maxCodePoint
  | .bool _ | .nil => True
  | .smallDouble d => d.isZero = true ∨ 897 ≤ d.exponent ∧ d.exponent ≤ 1151
  | .illegal => False

instance : (k : Kind) → Decidable k.Fits
  | .heapRef _ | .smallInt _ => inferInstanceAs (Decidable (_ ∧ _))
  | .char _ => inferInstanceAs (Decidable (_ ≤ _))
  | .bool _ | .nil => inferInstanceAs (Decidable True)
  | .smallDouble _ => inferInstanceAs (Decidable (_ ∨ _))
  | .illegal => inferInstanceAs (Decidable False)

theorem holds_ofSmallInt {i : Int} (low : minSmallInt ≤ i) (high : i ≤ maxSmallInt) :
    Holds (ofSmallInt i) (.smallInt i) := by
  apply Holds.smallInt low high
  unfold ofSmallInt
  rw [toNat_ofNat (by omega)]
  omega

theorem ofInt?_of_fits {i : Int} (fits : (Kind.smallInt i).Fits) : ofInt? i = some (ofSmallInt i) :=
  if_pos fits

theorem toNat_ofFields (d : Binary64) {e : Nat} (reduced : e < 0x100) :
    (ofNat (d.fraction * 0x1000 + e * 0x10 + (if d.isNegative then 8 else 0) + 6)).toNat =
      d.fraction * 0x1000 + e * 0x10 + d.signBit * 8 + 6 := by
  have fraction : d.fraction < 0x10000000000000 := Nat.mod_lt _ (by decide)
  unfold Binary64.signBit
  rw [toNat_ofNat]
  · split <;> rfl
  · split <;> omega

theorem holds_ofDouble {d : Binary64} (fits : (Kind.smallDouble d).Fits) :
    ∃ o, ofDouble? d = some o ∧ Holds o (.smallDouble d) := by
  unfold ofDouble?
  by_cases zero : d.isZero = true
  · refine ⟨_, if_pos zero, .smallDouble (e := 0) (by decide) ?_ (toNat_ofFields d (by decide))⟩
    simp only [Binary64.isZero, Bool.and_eq_true, beq_iff_eq] at zero
    exact zero.1
  · have range : smallDoubleBias + 1 ≤ d.exponent ∧ d.exponent ≤ smallDoubleBias + 255 :=
      fits.resolve_left zero
    have reduced : d.exponent - smallDoubleBias < 0x100 := by omega
    rw [if_neg zero, if_pos range]
    refine ⟨_, rfl, .smallDouble reduced ?_ (toNat_ofFields d reduced)⟩
    split <;> omega

theorem holds_encode (fits : k.Fits) : Holds k.encode k := by
  cases k with
  | heapRef raw =>
      have built : (Kind.heapRef raw).encode = ⟨raw⟩ := by simp [Kind.encode, fits.1]
      rw [built]
      exact Holds.heapRef (o := ⟨raw⟩) fits.1 fits.2
  | smallInt i =>
      have built : (Kind.smallInt i).encode = ofSmallInt i := by
        rw [Kind.encode, ofInt?_of_fits fits]
        rfl
      rw [built]
      exact holds_ofSmallInt fits.1 fits.2
  | char n =>
      have bound : n ≤ 0x10ffff := fits
      apply Holds.char fits
      rw [Kind.encode, ofCodePoint, if_neg (Nat.not_lt.mpr fits), toNat_ofNat (by omega)]
  | bool b => cases b <;> exact .bool rfl
  | nil => exact .nil rfl
  | smallDouble d =>
      obtain ⟨o, built, holds⟩ := holds_ofDouble fits
      rw [Kind.encode, built]
      exact holds
  | illegal => exact fits.elim

theorem encode_of_not_fits (unfit : ¬k.Fits) : k.encode = Oop.illegal := by
  cases k with
  | heapRef raw =>
      by_cases tag : raw.toNat % 8 = 1
      · -- The illegal word itself has the tag of the heap.
        have word : raw.toNat = 1 := Decidable.byContradiction fun other => unfit ⟨tag, other⟩
        have built : (Kind.heapRef raw).encode = ⟨raw⟩ := by simp [Kind.encode, tag]
        rw [built]
        exact eq_of_toNat word
      · simp [Kind.encode, tag]
  | smallInt i =>
      have outside : ofInt? i = none := if_neg unfit
      rw [Kind.encode, outside]
      rfl
  | char n =>
      have beyond : n > maxCodePoint := Nat.not_le.mp unfit
      rw [Kind.encode, ofCodePoint, if_pos beyond]
  | bool b => exact absurd trivial unfit
  | nil => exact absurd trivial unfit
  | smallDouble d =>
      obtain ⟨nonzero, outside⟩ := not_or.mp unfit
      have none : ofDouble? d = none := by
        unfold ofDouble?
        rw [if_neg nonzero]
        exact if_neg outside
      rw [Kind.encode, none]
      rfl
  | illegal => rfl

/-! ## Values of references -/

theorem holds_of_kind (read : o.kind = k) (valid : k ≠ .illegal) : Holds o k :=
  read ▸ holds_kind (read ▸ valid)

theorem ofInt?_eq_some_iff {i : Int} : ofInt? i = some o ↔ o.kind = .smallInt i := by
  constructor
  · intro built
    obtain ⟨fits, same⟩ := Option.ite_none_right_eq_some.mp built
    cases same
    exact kind_of_holds (holds_ofSmallInt fits.1 fits.2)
  · intro read
    have holds := holds_of_kind read nofun
    cases holds with
    | smallInt low high word =>
        have same := (Holds.smallInt low high word).unique (holds_ofSmallInt low high)
        rw [same, ofInt?_of_fits ⟨low, high⟩]

theorem asInt?_eq_some_iff {i : Int} : o.asInt? = some i ↔ o.kind = .smallInt i := by
  constructor
  · intro read
    obtain ⟨tagged, same⟩ := Option.ite_none_right_eq_some.mp read
    cases same
    exact kind_of_holds (holds_smallInt (by simpa [isSmallInt, tag] using tagged))
  · intro read
    have holds := holds_of_kind read nofun
    cases holds with
    | smallInt low high word =>
        have tagged : o.isSmallInt = true := by
          rw [isSmallInt, tag, beq_iff_eq]
          omega
        rw [asInt?, if_pos tagged, signedPayload_of_word low high word]

theorem asDouble?_eq_some_iff {d : Binary64} : o.asDouble? = some d ↔ o.kind = .smallDouble d := by
  constructor
  · intro read
    obtain ⟨tagged, same⟩ := Option.ite_none_right_eq_some.mp read
    cases same
    exact kind_of_holds (holds_double (by simpa [isSmallDouble, tag] using tagged))
  · intro read
    have holds := holds_of_kind read nofun
    cases holds with
    | smallDouble reduced exponent word =>
        have sign := d.signBit_lt
        have tagged : o.isSmallDouble = true := by
          rw [isSmallDouble, tag, beq_iff_eq]
          omega
        rw [asDouble?, if_pos tagged, double_of_word reduced exponent word]

/-! ## There and back -/

/-- A SmallDouble with the exponent of zero and another fraction. -/
def IsSubnormal (o : Oop) : Prop := o.tag = 6 ∧ o.toNat / 0x10 % 0x100 = 0 ∧ o.toNat / 0x1000 ≠ 0

instance : Decidable o.IsSubnormal := inferInstanceAs (Decidable (_ ∧ _ ∧ _))

theorem fits_of_holds (h : Holds o k) : k.Fits ↔ ¬o.IsSubnormal := by
  unfold IsSubnormal tag
  cases h with
  | heapRef tag legal => exact ⟨fun _ subnormal => by omega, fun _ => ⟨tag, legal⟩⟩
  | smallInt low high word => exact ⟨fun _ subnormal => by omega, fun _ => ⟨low, high⟩⟩
  | char bound word => exact ⟨fun _ subnormal => by omega, fun _ => bound⟩
  | @bool b word => cases b <;> simp_all [Kind.Fits]
  | nil word => exact ⟨fun _ subnormal => by omega, fun _ => trivial⟩
  | @smallDouble d e reduced exponent word =>
      have sign := d.signBit_lt
      simp only [Kind.Fits, Binary64.isZero, Bool.and_eq_true, beq_iff_eq]
      by_cases zero : e = 0
      · rw [if_pos zero] at exponent
        omega
      · rw [if_neg zero, smallDoubleBias] at exponent
        omega

theorem intToOop_of_fits {i : Int} (fits : (Kind.smallInt i).Fits) (s : Session) (w : World) :
    s.intToOop i w = (.ok (ofSmallInt i), w) := by
  rw [Session.intToOop, ofInt?_of_fits fits]
  rfl

theorem oopToInt_of_holds {i : Int} (h : Holds o (.smallInt i)) (s : Session) (w : World) :
    s.oopToInt o w = (.ok i, w) := by
  cases h with
  | smallInt low high word =>
      have tag : o.tag = 2 := by
        unfold Oop.tag
        omega
      have read : o.asInt? = some i := by
        rw [asInt?, isSmallInt, tag, signedPayload_of_word low high word]
        rfl
      rw [Session.oopToInt, read]
      rfl

/-- What fits is read back as it was, anything else is built as the illegal word, and an integer that
fits makes the round trip without the VM. -/
theorem kind_encode :
    (∀ k : Kind, k.Fits → k.encode.kind = k) ∧
      (∀ k : Kind, ¬k.Fits → k.encode = Oop.illegal) ∧
        ∀ (i : Int) (s : Session) (w : World), (Kind.smallInt i).Fits →
          (s.intToOop i >>= s.oopToInt) w = (.ok i, w) := by
  refine ⟨fun k fits => kind_of_holds (holds_encode fits), fun k => encode_of_not_fits, ?_⟩
  intro i s w fits
  rw [attempt_bind_ok (intToOop_of_fits fits s w)]
  exact oopToInt_of_holds (holds_ofSmallInt fits.1 fits.2) s w

/-- The least integer that fits, the exponents at both ends and the ones just outside. -/
theorem kind_encode_boundaries :
    let least := Kind.smallInt (-0x1000000000000000)
    let double exponent := Kind.smallDouble (.ofFields 1 exponent 5)
    let s : Session := ⟨1, ⟨1⟩, ""⟩
    let w : World := { vm := fun _ _ => Foreign.refuse (.other ""), horizon := 0 }
    least.encode.kind = least ∧ (double 897).encode.kind = double 897 ∧
      (double 1151).encode.kind = double 1151 ∧ (double 896).encode = Oop.illegal ∧
        (double 1152).encode = Oop.illegal ∧
          (s.intToOop (-0x1000000000000000) >>= s.oopToInt) w =
            (.ok (-0x1000000000000000), w) := by
  intro least double s w
  obtain ⟨within, outside, alone⟩ := kind_encode
  exact ⟨within _ (by decide), within _ (by decide), within _ (by decide), outside _ (by decide),
    outside _ (by decide), alone _ s w (by decide)⟩

/-- No two valid words are read alike, and a SmallDouble is read as a finite double. A valid word is
built again from what it is read as, unless it is a subnormal SmallDouble. -/
theorem encode_kind (valid : o.kind ≠ .illegal) :
    (¬o.IsSubnormal → o.kind.encode = o) ∧ (o.IsSubnormal → o.kind.encode = Oop.illegal) ∧
      (∀ o' : Oop, o'.kind = o.kind → o' = o) ∧
        ∀ d, o.asDouble? = some d → d.isFinite = true := by
  have holds := holds_kind valid
  have fits := fits_of_holds holds
  refine ⟨fun normal => ?_, fun subnormal => ?_, fun o' same => ?_, fun d read => ?_⟩
  · exact (holds_encode (fits.mpr normal)).unique holds
  · exact encode_of_not_fits fun fit => fits.mp fit subnormal
  · have holds' := holds_kind (same ▸ valid)
    rw [same] at holds'
    exact holds'.unique holds
  · have value := (Option.ite_none_right_eq_some.mp read).2
    cases value
    exact isFinite_double o

/-- A negative integer, and a SmallDouble with the least exponent. -/
theorem encode_kind_lowest :
    (Oop.mk 0xfffffffffffffffa).kind.encode = ⟨0xfffffffffffffffa⟩ ∧
      (Oop.mk 0x1016).kind.encode = ⟨0x1016⟩ :=
  ⟨(encode_kind (by decide)).1 (by decide), (encode_kind (by decide)).1 (by decide)⟩

/-- The least of the subnormal SmallDoubles is read as a double that no word is built for. -/
theorem encode_kind_subnormal :
    (Oop.mk 0x1006).kind = .smallDouble ⟨1⟩ ∧ (Oop.mk 0x1006).kind.encode = Oop.illegal := by
  decide

end Oop

end StoneDebug
