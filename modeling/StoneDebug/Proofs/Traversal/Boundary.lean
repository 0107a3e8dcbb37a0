import StoneDebug.Proofs.Traversal.RoundTrip

/-! # The boundary of the bytes in use

Reading bytes that are cut off at some point gives the reports of the whole that end before it:
`readAll_take` says that cutting the bytes and cutting the list of reports come to the same. The
padding of the last report may be cut off too, so a report ends with its body. Everything about the
used count of a buffer follows: a smaller count gives a prefix, and of a list that was encoded it
gives the longest one that ends in time.
-/

namespace StoneDebug

open Text

namespace ObjectReport

def bareSize (r : ObjectReport) : Nat := headerSize + r.body.length

theorem bareSize_pos (r : ObjectReport) : 0 < r.bareSize :=
  Nat.lt_of_lt_of_le (by decide : 0 < headerSize) (Nat.le_add_right headerSize r.body.length)

theorem bareSize_le_packedSize (r : ObjectReport) : r.bareSize ≤ r.packedSize :=
  Nat.add_le_add_left (le_align8 r.body.length) headerSize

/-! ## The first report -/

theorem next?_of_short {bytes : List UInt8} (short : bytes.length < headerSize + field bytes 0 4) :
    next? bytes = none := by
  have beyond : ¬headerSize + field bytes 0 4 ≤ bytes.length := by omega
  simp only [next?, beyond, and_false, if_false]

/-- As long as the first body is left whole, cutting the bytes only shortens what follows. -/
theorem next?_take_of_le {bytes : List UInt8} {n : Nat} (whole : headerSize + field bytes 0 4 ≤ n) :
    next? (bytes.take n) = (next? bytes).map fun (r, rest) =>
      (r, rest.take (n - (headerSize + align8 (field bytes 0 4)))) := by
  have same {start width : Nat} (inside : start + width ≤ headerSize) :
      field (bytes.take n) start width = field bytes start width :=
    field_take (by omega) bytes
  have size := same (show 0 + 4 ≤ headerSize by decide)
  have body : ((bytes.take n).drop headerSize).take (field bytes 0 4) =
      (bytes.drop headerSize).take (field bytes 0 4) := by
    have stays : min (field bytes 0 4) (n - headerSize) = field bytes 0 4 := by omega
    rw [List.drop_take, List.take_take, stays]
  have room {m : Nat} (least : m ≤ n) : m ≤ (bytes.take n).length ↔ m ≤ bytes.length := by
    rw [List.length_take]
    omega
  have rest := List.drop_take (i := headerSize + align8 (field bytes 0 4)) (j := n) (l := bytes)
  simp only [next?, size, body, rest, room whole, room (Nat.le_of_add_right_le whole),
    same (show 4 + 2 ≤ headerSize by decide), same (show 6 + 2 ≤ headerSize by decide),
    same (show 8 + 8 ≤ headerSize by decide), same (show 16 + 8 ≤ headerSize by decide),
    same (show 24 + 8 ≤ headerSize by decide), same (show 32 + 8 ≤ headerSize by decide)]
  split <;> rfl

theorem next?_take_of_lt {bytes : List UInt8} {n : Nat} (cut : n < headerSize + field bytes 0 4) :
    next? (bytes.take n) = none := by
  by_cases header : headerSize ≤ n
  · apply next?_of_short
    rw [field_take (Nat.le_trans (by decide) header), List.length_take]
    omega
  · have short : ¬headerSize ≤ (bytes.take n).length := by
      rw [List.length_take]
      omega
    simp only [next?, short, false_and, if_false]

theorem of_next? {bytes rest : List UInt8} {r : ObjectReport}
    (found : next? bytes = some (r, rest)) :
    field bytes 0 4 = r.body.length ∧ r.bareSize ≤ bytes.length ∧
      rest = bytes.drop r.packedSize := by
  simp only [next?] at found
  split at found
  · next fits =>
    cases found
    have size : ((bytes.drop headerSize).take (field bytes 0 4)).length = field bytes 0 4 := by
      rw [List.length_take, List.length_drop]
      omega
    simp only [bareSize, packedSize, size, fits, and_self]
  · cases found

theorem next?_take_of_some {bytes rest : List UInt8} {r : ObjectReport}
    (found : next? bytes = some (r, rest)) (n : Nat) :
    next? (bytes.take n) =
      if r.bareSize ≤ n then some (r, rest.take (n - r.packedSize)) else none := by
  obtain ⟨size, -, -⟩ := of_next? found
  split
  · next whole =>
    rw [next?_take_of_le (size ▸ whole), found, size]
    rfl
  · next cut => exact next?_take_of_lt (size ▸ Nat.lt_of_not_le cut)

theorem next?_take_of_none {bytes : List UInt8} (ended : next? bytes = none) (n : Nat) :
    next? (bytes.take n) = none := by
  rcases Nat.lt_or_ge n (headerSize + field bytes 0 4) with cut | whole
  · exact next?_take_of_lt cut
  · rw [next?_take_of_le whole, ended]
    rfl

/-! ## All reports -/

/-- The reports from the front on that end within `n` bytes. -/
def within (n : Nat) : List ObjectReport → List ObjectReport
  | [] => []
  | r :: rest => if r.bareSize ≤ n then r :: within (n - r.packedSize) rest else []

theorem readAll_take (bytes : List UInt8) (n : Nat) :
    readAll (bytes.take n) = within n (readAll bytes) := by
  induction bytes using readAll.induct generalizing n with
  | case1 bytes ended =>
      rw [readAll_of_none ended, readAll_of_none (next?_take_of_none ended n)]
      rfl
  | case2 bytes r rest found ih =>
      have cut := next?_take_of_some found n
      rw [readAll_of_some found, within]
      split at cut
      · next whole => rw [readAll_of_some cut, ih, if_pos whole]
      · next beyond => rw [readAll_of_none cut, if_neg beyond]

theorem within_prefix (n : Nat) (reports : List ObjectReport) : within n reports <+: reports := by
  induction reports generalizing n with
  | nil => exact List.prefix_rfl
  | cons r rest ih =>
      rw [within]
      split
      · exact (List.prefix_cons_inj r).mpr (ih _)
      · exact List.nil_prefix

/-- A report is kept exactly if it ends in time; those before it do so too. -/
theorem concat_prefix_within_iff {reports before : List ObjectReport} {r : ObjectReport}
    (among : before ++ [r] <+: reports) (n : Nat) :
    before ++ [r] <+: within n reports ↔ Traversal.packedSize before + r.bareSize ≤ n := by
  induction reports generalizing before n with
  | nil =>
      have empty := List.prefix_nil.mp among
      simp at empty
  | cons q rest ih =>
      cases before with
      | nil =>
          obtain rfl : r = q := (List.cons_prefix_cons.mp among).1
          have start : Traversal.packedSize [] + r.bareSize = r.bareSize := Nat.zero_add _
          rw [List.nil_append, within, start]
          split
          · next ends => exact iff_of_true (List.prefix_append [r] _) ends
          · next beyond => exact iff_of_false (by simp) beyond
      | cons p before =>
          obtain ⟨rfl, later⟩ := List.cons_prefix_cons.mp among
          have size : Traversal.packedSize (p :: before) =
              p.packedSize + Traversal.packedSize before := rfl
          have bare := bareSize_le_packedSize p
          have positive := r.bareSize_pos
          rw [within, size]
          split
          · next ends =>
            rw [List.cons_append, List.prefix_cons_inj, ih later]
            omega
          · next beyond => exact iff_of_false (by simp) (by omega)

/-- The header of each report is in front of the next one. -/
theorem length_readAll_le (bytes : List UInt8) :
    headerSize * (readAll bytes).length ≤ bytes.length := by
  induction bytes using readAll.induct with
  | case1 bytes ended => simp [readAll_of_none ended]
  | case2 bytes r rest found ih =>
      obtain ⟨-, long, rfl⟩ := of_next? found
      have bare := bareSize_le_packedSize r
      rw [List.length_drop] at ih
      rw [readAll_of_some found, List.length_cons, Nat.mul_succ]
      simp only [bareSize] at long bare
      omega

end ObjectReport

namespace Traversal

/-! ## Buffers -/

/-- The bytes with this used count in their header, as far as they reach. -/
def withUsed (used : UInt32) (bytes : List UInt8) : List UInt8 :=
  (bytes.take 4 ++ le 4 used.toNat ++ bytes.drop headerSize).take bytes.length

theorem decode_of_short {bytes : List UInt8} (short : bytes.length < headerSize) :
    decode bytes = .error (.noHeader bytes.length) := by
  rw [decode, if_pos short]

theorem decode_of_headed {bytes : List UInt8} (headed : headerSize ≤ bytes.length) :
    decode bytes = .ok (ObjectReport.readAll
      ((bytes.drop headerSize).take (ObjectReport.field bytes 4 4))) := by
  rw [decode, if_neg (Nat.not_lt.mpr headed)]

theorem decode_eq_error_iff {bytes : List UInt8} {e : TraversalError} :
    decode bytes = .error e ↔ bytes.length < headerSize ∧ e = .noHeader bytes.length := by
  rcases Nat.lt_or_ge bytes.length headerSize with short | headed
  · rw [decode_of_short short, Except.error.injEq]
    exact ⟨fun eq => ⟨short, eq.symm⟩, fun ⟨_, eq⟩ => eq.symm⟩
  · rw [decode_of_headed headed]
    exact ⟨nofun, fun ⟨short, _⟩ => absurd headed (Nat.not_le.mpr short)⟩

@[simp] theorem length_withUsed (used : UInt32) (bytes : List UInt8) :
    (withUsed used bytes).length = bytes.length := by
  simp only [withUsed, List.length_take, List.length_append, List.length_drop, length_le,
    headerSize]
  omega

theorem decode_withUsed {bytes : List UInt8} (headed : headerSize ≤ bytes.length) (used : UInt32) :
    decode (withUsed used bytes) =
      .ok (ObjectReport.within used.toNat (ObjectReport.readAll (bytes.drop headerSize))) := by
  have front : (bytes.take 4).length = 4 := by
    rw [List.length_take]
    simp only [headerSize] at headed
    omega
  have split : withUsed used bytes =
      bytes.take 4 ++ (le 4 used.toNat ++ bytes.drop headerSize) := by
    rw [withUsed, List.append_assoc, List.take_of_length_le]
    simp only [List.length_append, List.length_drop, length_le, front, headerSize] at *
    omega
  have count : ObjectReport.field (withUsed used bytes) 4 4 = used.toNat := by
    rw [split, ObjectReport.field, List.drop_left' front]
    exact (ObjectReport.field_zero_append 4 used.toNat _).trans (Nat.mod_eq_of_lt used.toNat_lt)
  have body : (withUsed used bytes).drop headerSize = bytes.drop headerSize := by
    rw [split, ← List.append_assoc, List.drop_left' (by simp [front, headerSize])]
  rw [decode_of_headed (by rwa [length_withUsed]), count, body, ObjectReport.readAll_take]

/-- The longest list of reports from the front on whose last one, without its padding, ends within
`n` bytes. -/
structure Longest (n : Nat) (reports kept : List ObjectReport) : Prop where
  front : kept <+: reports
  ends : ∀ before r, kept = before ++ [r] → packedSize before + r.bareSize ≤ n
  most : ∀ before r, before ++ [r] <+: reports → packedSize before + r.bareSize ≤ n →
    before ++ [r] <+: kept

theorem longest_within (n : Nat) (reports : List ObjectReport) :
    Longest n reports (ObjectReport.within n reports) where
  front := ObjectReport.within_prefix n reports
  ends before r eq := by
    have kept : before ++ [r] <+: ObjectReport.within n reports := eq ▸ List.prefix_rfl
    exact (ObjectReport.concat_prefix_within_iff
      (kept.trans (ObjectReport.within_prefix n reports)) n).mp kept
  most before r among ends := (ObjectReport.concat_prefix_within_iff among n).mpr ends

/-- More room keeps more. -/
theorem Longest.mono {m n : Nat} {reports fewer more : List ObjectReport} (le : m ≤ n)
    (first : Longest m reports fewer) (second : Longest n reports more) : fewer <+: more := by
  rcases List.eq_nil_or_concat fewer with rfl | ⟨before, r, eq⟩
  · exact List.nil_prefix
  · obtain rfl := eq.trans List.concat_eq_append
    exact second.most before r first.front (Nat.le_trans (first.ends before r rfl) le)

def inUse (bytes : List UInt8) : List UInt8 :=
  (bytes.drop 4).take (4 + ObjectReport.field bytes 4 4)

theorem length_inUse (bytes : List UInt8) :
    (inUse bytes).length = min (4 + ObjectReport.field bytes 4 4) (bytes.length - 4) := by
  rw [inUse, List.length_take, List.length_drop]

theorem readLE_inUse (bytes : List UInt8) :
    readLE ((inUse bytes).take 4) = ObjectReport.field bytes 4 4 := by
  rw [inUse, List.take_take, Nat.min_eq_left (Nat.le_add_right 4 _)]
  rfl

theorem drop_inUse (bytes : List UInt8) :
    (inUse bytes).drop 4 = (bytes.drop headerSize).take (ObjectReport.field bytes 4 4) := by
  rw [inUse, List.drop_take, List.drop_drop, Nat.add_sub_cancel_left]
  rfl

/-- Neither the allocated count nor what follows the bytes in use makes a difference. -/
theorem decode_eq_of_inUse {bytes bytes' : List UInt8} (headed : headerSize ≤ bytes.length)
    (same : inUse bytes' = inUse bytes) : decode bytes' = decode bytes := by
  have count : ObjectReport.field bytes' 4 4 = ObjectReport.field bytes 4 4 := by
    rw [← readLE_inUse, ← readLE_inUse, same]
  have headed' : headerSize ≤ bytes'.length := by
    have length := congrArg List.length same
    simp only [length_inUse, headerSize] at length headed ⊢
    omega
  rw [decode_of_headed headed, decode_of_headed headed', ← drop_inUse, ← drop_inUse, same]

end Traversal

namespace TraversalBuffer

open Traversal

/-- Reading only the bytes in use makes no difference. -/
theorem reports_eq_decode (b : TraversalBuffer) : b.reports = decode b.bytes := by
  rw [TraversalBuffer.reports, front_eq_take]
  rcases Nat.lt_or_ge b.bytes.length headerSize with short | headed
  · rw [List.take_of_length_le (by omega)]
  · refine decode_eq_of_inUse headed ?_
    have count : ObjectReport.field (b.bytes.take (headerSize + b.used)) 4 4 = b.used := by
      rw [ObjectReport.field_take (Nat.le_add_right 8 b.used), used_eq_field]
    have both : min (4 + b.used) (headerSize + b.used - 4) = 4 + b.used := by
      simp only [headerSize]
      omega
    rw [inUse, inUse, count, ← used_eq_field, List.drop_take, List.take_take, both]

end TraversalBuffer

namespace Traversal

theorem length_of_decode {bytes : List UInt8} {reports : List ObjectReport}
    (decoded : decode bytes = .ok reports) : ObjectReport.headerSize * reports.length ≤
      min (ObjectReport.field bytes 4 4) (bytes.length - headerSize) := by
  rcases Nat.lt_or_ge bytes.length headerSize with short | headed
  · rw [decode_of_short short] at decoded
    cases decoded
  · rw [decode_of_headed headed] at decoded
    cases decoded
    simpa only [List.length_take, List.length_drop] using ObjectReport.length_readAll_le
      ((bytes.drop headerSize).take (ObjectReport.field bytes 4 4))

/-- Decoding respects the used count. It fails for want of a header only, and ends after a turn for each
forty bytes in use at the latest. A smaller count gives a prefix of the reports; nothing but the count and
the bytes in use matters; and when the count of an encoded list is changed, the reports are those of the
list that end in time, the last one without its padding. -/
theorem decode_in_use :
    (∀ bytes e, decode bytes = .error e ↔
      bytes.length < headerSize ∧ e = .noHeader bytes.length) ∧
    (∀ bytes reports, decode bytes = .ok reports → ObjectReport.headerSize * reports.length ≤
      min (ObjectReport.field bytes 4 4) (bytes.length - headerSize)) ∧
    (∀ (bytes : List UInt8) (u₁ u₂ : UInt32) (more : List ObjectReport), u₁ ≤ u₂ →
      decode (withUsed u₂ bytes) = .ok more →
      ∃ fewer, decode (withUsed u₁ bytes) = .ok fewer ∧ fewer <+: more) ∧
    (∀ bytes bytes' : List UInt8, headerSize ≤ bytes.length → inUse bytes' = inUse bytes →
      decode bytes' = decode bytes) ∧
    ∀ (reports : List ObjectReport) (bytes : List UInt8) (used : UInt32),
      encode reports = .ok bytes →
      ∃ kept, decode (withUsed used bytes) = .ok kept ∧ Longest used.toNat reports kept := by
  refine ⟨fun _ _ => decode_eq_error_iff, fun _ _ => length_of_decode, ?_,
    fun _ _ => decode_eq_of_inUse, ?_⟩
  · intro bytes u₁ u₂ more le decoded
    rcases Nat.lt_or_ge bytes.length headerSize with short | headed
    · rw [decode_of_short (by rwa [length_withUsed])] at decoded
      cases decoded
    · rw [decode_withUsed headed] at decoded
      cases decoded
      exact ⟨_, decode_withUsed headed u₁, (longest_within _ _).mono le (longest_within _ _)⟩
  · intro reports bytes used encoded
    obtain ⟨encodable, rfl⟩ := encode_eq_ok_iff.mp encoded
    have headed : headerSize ≤ (header (packedSize reports) (packedSize reports) ++
        (reports.map ObjectReport.encode).flatten).length := by
      simp
    refine ⟨_, decode_withUsed headed used, ?_⟩
    rw [List.drop_left' (length_header _ _),
      ObjectReport.readAll_flatten_encode encodable.bodies]
    exact longest_within used.toNat reports

/-- The count ends before the last byte of a body, and then after it but before its padding. -/
theorem decode_in_use_without_padding :
    let greeting : List ObjectReport :=
      [⟨Oop.ofNat 1025, Oop.ofNat 2049, 1, 0, 7, ⟨5⟩, [104, 101, 108, 108, 111]⟩,
        ⟨Oop.nil, Oop.nil, -1, -2, 0, ⟨0⟩, []⟩]
    let bytes := header 88 88 ++ (greeting.map ObjectReport.encode).flatten
    let other := [1, 2, 3, 4] ++ bytes.drop 4 ++ [9]
    encode greeting = .ok bytes ∧ (44 : UInt32) ≤ 45 ∧
      (∃ fewer more, decode (withUsed 44 bytes) = .ok fewer ∧
        decode (withUsed 45 bytes) = .ok more ∧ fewer <+: more ∧
        Longest 44 greeting fewer ∧ Longest 45 greeting more ∧
        ObjectReport.headerSize * more.length ≤
          min (ObjectReport.field (withUsed 45 bytes) 4 4) ((withUsed 45 bytes).length - 8)) ∧
      headerSize ≤ bytes.length ∧ inUse other = inUse bytes ∧ decode other = decode bytes := by
  intro greeting bytes other
  have encodable : Encodable greeting := ⟨by decide, by decide⟩
  have encoded : encode greeting = .ok bytes := encode_eq_ok_iff.mpr ⟨encodable, rfl⟩
  have headed : headerSize ≤ bytes.length := by decide
  have same : inUse other = inUse bytes := by decide
  obtain ⟨-, ends, smaller, apart, cut⟩ := decode_in_use
  obtain ⟨kept, decoded, longest⟩ := cut greeting bytes 44 encoded
  obtain ⟨more, decoded', longest'⟩ := cut greeting bytes 45 encoded
  obtain ⟨fewer, again, before⟩ := smaller bytes 44 45 more (by decide) decoded'
  obtain rfl := Except.ok.inj (decoded.symm.trans again)
  exact ⟨encoded, by decide, ⟨kept, more, decoded, decoded', before, longest, longest',
    ends _ _ decoded'⟩, headed, same, apart bytes other headed same⟩

end Traversal

end StoneDebug
