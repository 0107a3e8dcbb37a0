import StoneDebug.Foreign.Reply
import StoneDebug.Proofs.Effect
import StoneDebug.Session.Query

/-! # Packed reports read back

`next?` takes exactly the report off the front of what `encode` has packed, so a report list comes
back from its buffer whatever follows it. The padding of a body is never looked at: only its length
counts, which `next?` computes from the size field.
-/

namespace StoneDebug

open Text

namespace ObjectReport

/-! ## Fields of a header -/

theorem field_zero_append (width n : Nat) (rest : List UInt8) :
    field (le width n ++ rest) 0 width = n % Nat.pow 256 width := by
  have front : (le width n ++ rest).take width = le width n := by
    rw [List.take_append_of_le_length (by simp), List.take_of_length_le (by simp)]
  rw [field, List.drop_zero, front, readLE_le]

theorem field_skip {k n start width : Nat} {rest : List UInt8} (past : k ≤ start) :
    field (le k n ++ rest) start width = field rest (start - k) width := by
  rw [field, field, List.drop_append, List.drop_of_length_le (by simpa using past)]
  simp

theorem field_take {start width n : Nat} (inside : start + width ≤ n) (bytes : List UInt8) :
    field (bytes.take n) start width = field bytes start width := by
  have stays : min width (n - start) = width := by omega
  rw [field, field, List.drop_take, List.take_take, stays]

/-- The fields of a packed report, each at its place. -/
structure Fields (r : ObjectReport) (bytes : List UInt8) : Prop where
  size : field bytes 0 4 = r.body.length % 0x100000000
  namedSize : field bytes 4 2 = r.namedSize.toUInt16.toNat
  policy : field bytes 6 2 = r.policy.toNat
  id : field bytes 8 8 = r.id.toNat
  cls : field bytes 16 8 = r.cls.toNat
  firstOffset : field bytes 24 8 = r.firstOffset.toUInt64.toNat
  bits : field bytes 32 8 = r.bits.raw.toNat

theorem fields_header_append (r : ObjectReport) (rest : List UInt8) :
    Fields r (r.header ++ rest) := by
  have word (n : UInt64) : n.toNat % 0x10000000000000000 = n.toNat := Nat.mod_eq_of_lt n.toNat_lt
  have half (n : UInt16) : n.toNat % 0x10000 = n.toNat := Nat.mod_eq_of_lt n.toNat_lt
  simp only [header, List.append_assoc]
  constructor <;>
    simp [field_skip, field_zero_append, word, half, Oop.toNat]

/-! ## One report -/

/-- The size of a body is a signed field, so only a body of 2 GiB or more is not read back. -/
theorem next?_encode_append {r : ObjectReport} (fits : r.body.length < 0x80000000)
    (rest : List UInt8) : next? (r.encode ++ rest) = some (r, rest) := by
  have fields := fields_header_append r (r.body ++ r.padding ++ rest)
  have split : r.encode ++ rest = r.header ++ (r.body ++ r.padding ++ rest) := by
    simp [encode, List.append_assoc]
  have size : field (r.encode ++ rest) 0 4 = r.body.length := by
    rw [split, fields.size]
    omega
  have body : ((r.encode ++ rest).drop headerSize).take r.body.length = r.body := by
    rw [split, List.drop_left' r.length_header, List.append_assoc, List.take_left]
  have after : (r.encode ++ rest).drop (headerSize + align8 r.body.length) = rest :=
    List.drop_left' r.length_encode
  have long : headerSize + r.body.length ≤ (r.encode ++ rest).length := by
    have := le_align8 r.body.length
    rw [List.length_append, length_encode, packedSize]
    omega
  have room : headerSize ≤ (r.encode ++ rest).length ∧ r.body.length < 0x80000000 ∧
      headerSize + r.body.length ≤ (r.encode ++ rest).length := ⟨by omega, fits, long⟩
  simp only [next?, size, if_pos room, body, after]
  rw [split, fields.namedSize, fields.policy, fields.id, fields.cls, fields.firstOffset,
    fields.bits]
  simp [Oop.ofNat, Oop.toNat]

theorem next?_nil : next? [] = none := by
  simp [next?, headerSize]

theorem readAll_encode_append {r : ObjectReport} (fits : r.body.length < 0x80000000)
    (rest : List UInt8) : readAll (r.encode ++ rest) = r :: readAll rest :=
  readAll_of_some (next?_encode_append fits rest)

theorem readAll_flatten_encode {reports : List ObjectReport}
    (fit : ∀ r ∈ reports, r.body.length < 0x80000000) :
    readAll (reports.map encode).flatten = reports := by
  induction reports with
  | nil => exact readAll_of_none next?_nil
  | cons r reports ih =>
      rw [List.map_cons, List.flatten_cons, readAll_encode_append (fit r List.mem_cons_self),
        ih fun q member => fit q (List.mem_cons_of_mem r member)]

end ObjectReport

namespace Traversal

/-! ## Buffers -/

/-- Report lists that a buffer can hold: both its count and the size of each body have a field. -/
structure Encodable (reports : List ObjectReport) : Prop where
  total : packedSize reports < 0x100000000
  bodies : ∀ r ∈ reports, r.body.length < 0x80000000

@[simp] theorem length_header (allocated used : Nat) :
    (header allocated used).length = headerSize := by
  simp [header, headerSize]

theorem length_flatten_encode (reports : List ObjectReport) :
    (reports.map ObjectReport.encode).flatten.length = packedSize reports := by
  induction reports with
  | nil => rfl
  | cons r reports ih =>
      rw [List.map_cons, List.flatten_cons, List.length_append, r.length_encode, ih]
      rfl

theorem countField_eq_ok_iff {n m : Nat} : countField n = .ok m ↔ n < 0x100000000 ∧ n = m := by
  unfold countField
  split
  · next fits => simp only [Except.ok.injEq, fits, true_and]
  · next large => simp only [reduceCtorEq, large, false_and]

theorem encodeReport_eq_ok_iff {r : ObjectReport} {packed : List UInt8} :
    encodeReport r = .ok packed ↔ r.body.length < 0x80000000 ∧ r.encode = packed := by
  unfold encodeReport
  split
  · next fits => simp only [Except.ok.injEq, fits, true_and]
  · next large => simp only [reduceCtorEq, large, false_and]

theorem mapM_encodeReport {reports : List ObjectReport}
    (fit : ∀ r ∈ reports, r.body.length < 0x80000000) :
    reports.mapM encodeReport = .ok (reports.map ObjectReport.encode) := by
  induction reports with
  | nil => rfl
  | cons r reports ih =>
      have first := encodeReport_eq_ok_iff.mpr ⟨fit r List.mem_cons_self, rfl⟩
      have others := ih fun q member => fit q (List.mem_cons_of_mem r member)
      rw [List.mapM_cons, first, others]
      rfl

theorem fit_of_mapM_encodeReport {reports : List ObjectReport} {packed : List (List UInt8)}
    (h : reports.mapM encodeReport = .ok packed) : ∀ r ∈ reports, r.body.length < 0x80000000 := by
  induction reports generalizing packed with
  | nil => simp
  | cons r reports ih =>
      rw [List.mapM_cons] at h
      cases first : encodeReport r with
      | error e => simp [first, bind, Except.bind] at h
      | ok bytes =>
          cases others : reports.mapM encodeReport with
          | error e => simp [first, others, bind, Except.bind] at h
          | ok rest =>
              exact List.forall_mem_cons.mpr ⟨(encodeReport_eq_ok_iff.mp first).1, ih others⟩

/-- Encoding succeeds exactly for the encodable lists, and then puts the packed reports behind a
header that tells their size twice. -/
theorem encode_eq_ok_iff {reports : List ObjectReport} {bytes : List UInt8} :
    encode reports = .ok bytes ↔ Encodable reports ∧
      bytes = header (packedSize reports) (packedSize reports) ++
        (reports.map ObjectReport.encode).flatten := by
  constructor
  · intro h
    simp only [encode, bind, Except.bind, pure, Except.pure] at h
    split at h
    · cases h
    · next used counted =>
        obtain ⟨total, rfl⟩ := countField_eq_ok_iff.mp counted
        split at h
        · cases h
        · next packed mapped =>
            have bodies := fit_of_mapM_encodeReport mapped
            obtain rfl := Except.ok.inj ((mapM_encodeReport bodies).symm.trans mapped)
            exact ⟨⟨total, bodies⟩, (Except.ok.inj h).symm⟩
  · rintro ⟨⟨total, bodies⟩, rfl⟩
    have counted := countField_eq_ok_iff.mpr ⟨total, rfl⟩
    simp only [encode, counted, mapM_encodeReport bodies, bind, Except.bind, pure, Except.pure]

theorem field_header_allocated (allocated used : Nat) (rest : List UInt8) :
    ObjectReport.field (header allocated used ++ rest) 0 4 = allocated % 0x100000000 := by
  rw [header, List.append_assoc]
  exact ObjectReport.field_zero_append 4 allocated _

theorem field_header_used (allocated used : Nat) (rest : List UInt8) :
    ObjectReport.field (header allocated used ++ rest) 4 4 = used % 0x100000000 := by
  rw [header, List.append_assoc, ObjectReport.field_skip (by omega)]
  exact ObjectReport.field_zero_append 4 used rest

/-- The bytes read back as the reports, and their used count is the size of these. -/
structure Holds (bytes : List UInt8) (reports : List ObjectReport) : Prop where
  reads : decode bytes = .ok reports
  used : ObjectReport.field bytes 4 4 = packedSize reports

/-- Whatever the header says about the room, and whatever follows the bytes in use. -/
theorem holds_header_append {reports : List ObjectReport} (encodable : Encodable reports)
    (allocated : Nat) (rest : List UInt8) :
    Holds (header allocated (packedSize reports) ++
      (reports.map ObjectReport.encode).flatten ++ rest) reports := by
  have used : ObjectReport.field (header allocated (packedSize reports) ++
      (reports.map ObjectReport.encode).flatten ++ rest) 4 4 = packedSize reports := by
    have total := encodable.total
    rw [List.append_assoc, field_header_used]
    omega
  have inUse : ((header allocated (packedSize reports) ++
      (reports.map ObjectReport.encode).flatten ++ rest).drop headerSize).take
        (packedSize reports) = (reports.map ObjectReport.encode).flatten := by
    rw [List.append_assoc, List.drop_left' (length_header _ _), List.take_left'
      (length_flatten_encode reports)]
  refine ⟨?_, used⟩
  rw [decode, if_neg (by simp), used, inUse,
    ObjectReport.readAll_flatten_encode encodable.bodies]

end Traversal

namespace TraversalBuffer

open Traversal

theorem allocated_eq_field (b : TraversalBuffer) :
    b.allocated = ObjectReport.field b.bytes 0 4 := by
  rw [allocated, front_eq_take, ObjectReport.field_take (by decide)]

theorem used_eq_field (b : TraversalBuffer) : b.used = ObjectReport.field b.bytes 4 4 := by
  rw [used, front_eq_take, ObjectReport.field_take (by decide)]

theorem allocated_withCapacity (capacity : Nat) :
    (withCapacity capacity).allocated = align8 capacity % 0x100000000 := by
  rw [allocated_eq_field, withCapacity, bytes, field_header_allocated]

/-- What stands in a buffer made for reports: its header, the packed reports, and zeros up to the
end of the room. -/
theorem ofReports_of_encodable {reports : List ObjectReport} {capacity : Nat}
    (encodable : Encodable reports) (fits : packedSize reports ≤ capacity) :
    ofReports reports capacity = .ok ⟨
      header (withCapacity capacity).allocated (packedSize reports) ++
        (reports.map ObjectReport.encode).flatten, align8 capacity - packedSize reports⟩ := by
  have encoded := encode_eq_ok_iff.mpr ⟨encodable, rfl⟩
  have wrapped : (withCapacity capacity).allocated < 0x100000000 := by
    rw [allocated_withCapacity]
    exact Nat.mod_lt _ (by decide)
  have room := countField_eq_ok_iff.mpr ⟨wrapped, rfl⟩
  have used := countField_eq_ok_iff.mpr ⟨encodable.total, rfl⟩
  have most : packedSize reports ≤ align8 capacity := Nat.le_trans fits (le_align8 capacity)
  have packed := length_flatten_encode reports
  simp only [ofReports, gt_iff_lt, if_neg (Nat.not_lt.mpr fits), encoded, room, used, bind,
    Except.bind, pure, Except.pure]
  rw [List.drop_left' (length_header _ _), overlay, List.take_of_length_le, withCapacity,
    List.drop_of_length_le]
  · simp [packed]
  · simp
  · simp [withCapacity, length, packed, most]

theorem holds_ofReports {reports : List ObjectReport} (encodable : Encodable reports)
    {capacity : Nat} (fits : packedSize reports ≤ capacity) :
    ∃ b, ofReports reports capacity = .ok b ∧ Holds b.bytes reports :=
  ⟨_, ofReports_of_encodable encodable fits, holds_header_append encodable _ _⟩

end TraversalBuffer

/-! ## Storing -/

namespace Session

open Traversal

/-- Past the guard nothing but the packed buffer reaches the VM. -/
theorem storeTraversal_of_idle {s : Session} {reports : List ObjectReport}
    (encodable : Encodable reports) (flags : Int) {w w' : World}
    (idle : s.ensureIdle w = (.ok (), w')) :
    ∃ b : TraversalBuffer, Holds b.bytes reports ∧
      s.storeTraversal reports flags w = s.call (.storeTraversal b flags) w' := by
  obtain ⟨b, packed, holds⟩ := TraversalBuffer.holds_ofReports encodable (Nat.le_refl _)
  refine ⟨b, holds, ?_⟩
  rw [Session.storeTraversal, attempt_bind_ok idle, packed]
  rfl

end Session

/-- A list that `encode` accepts, which is one whose counts fit their fields, reads back from the
encoded bytes and from the buffer that a store hands to the VM. -/
theorem Traversal.round_trip (reports : List ObjectReport) :
    ((∃ bytes, encode reports = .ok bytes) ↔ Encodable reports) ∧
    ∀ bytes, encode reports = .ok bytes →
      (∀ rest, Holds (bytes ++ rest) reports) ∧
      ∀ (s : Session) (flags : Int) (w w' : World), s.ensureIdle w = (.ok (), w') →
        ∃ b : TraversalBuffer, Holds b.bytes reports ∧
          s.storeTraversal reports flags w = s.call (.storeTraversal b flags) w' := by
  refine ⟨⟨fun ⟨_, encoded⟩ => (encode_eq_ok_iff.mp encoded).1, fun encodable =>
    ⟨_, encode_eq_ok_iff.mpr ⟨encodable, rfl⟩⟩⟩, fun bytes encoded => ?_⟩
  obtain ⟨encodable, rfl⟩ := encode_eq_ok_iff.mp encoded
  exact ⟨holds_header_append encodable _, fun s flags w w' idle =>
    Session.storeTraversal_of_idle encodable flags idle⟩

/-- A body of five bytes, which is padded, before an empty one. -/
theorem Traversal.round_trip_greeting :
    let greeting : List ObjectReport :=
      [⟨Oop.ofNat 1025, Oop.ofNat 2049, 1, 0, 7, ⟨5⟩, [104, 101, 108, 108, 111]⟩,
        ⟨Oop.nil, Oop.nil, -1, -2, 0, ⟨0⟩, []⟩]
    let s : Session := ⟨1, ⟨9⟩, ""⟩
    let w : World := { vm := fun _ _ => Foreign.refuse (.other ""), horizon := 0 }
    ∃ bytes, encode greeting = .ok bytes ∧ (∀ rest, Holds (bytes ++ rest) greeting) ∧
      ∃ b : TraversalBuffer, Holds b.bytes greeting ∧
        s.storeTraversal greeting 0 w = s.call (.storeTraversal b 0) w := by
  intro greeting s w
  have encodable : Encodable greeting := ⟨by decide, by decide⟩
  obtain ⟨bytes, encoded⟩ := (Traversal.round_trip greeting).1.mpr encodable
  obtain ⟨read, stored⟩ := (Traversal.round_trip greeting).2 bytes encoded
  exact ⟨bytes, encoded, read, stored s 0 w w rfl⟩

end StoneDebug
