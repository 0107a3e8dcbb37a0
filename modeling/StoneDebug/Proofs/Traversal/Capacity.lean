import StoneDebug.Proofs.Traversal.Boundary

/-! # The header of a buffer

A buffer made for reports holds them at its start and zeros after them, and its header tells their
size. It tells the room too, but in four bytes: the room of a buffer with 4 GiB and more is told
without its multiples of 4 GiB, and nothing fails for that.
-/

namespace StoneDebug

open Text

namespace Traversal

theorem mapM_encodeReport_eq_error {reports : List ObjectReport} {e : TraversalError}
    (failed : reports.mapM encodeReport = .error e) :
    ∃ r ∈ reports, 0x80000000 ≤ r.body.length ∧ e = .bodyTooLarge r.body.length := by
  induction reports with
  | nil => cases failed
  | cons r reports ih =>
      rw [List.mapM_cons] at failed
      rcases Nat.lt_or_ge r.body.length 0x80000000 with fits | large
      · rw [encodeReport_eq_ok_iff.mpr ⟨fits, rfl⟩] at failed
        cases others : reports.mapM encodeReport with
        | ok packed => simp [others, bind, Except.bind, pure, Except.pure] at failed
        | error cause =>
            obtain rfl : cause = e := by simpa [others, bind, Except.bind] using failed
            obtain ⟨q, member, cause⟩ := ih others
            exact ⟨q, List.mem_cons_of_mem r member, cause⟩
      · rw [encodeReport, if_neg (Nat.not_lt.mpr large)] at failed
        exact ⟨r, List.mem_cons_self, large, (Except.error.inj failed).symm⟩

theorem encode_of_large {reports : List ObjectReport} (large : 0x100000000 ≤ packedSize reports) :
    encode reports = .error (.tooLarge (packedSize reports)) := by
  rw [encode, countField, if_neg (Nat.not_lt.mpr large)]
  rfl

/-- Encoding fails for the size of the whole before it fails for that of a body. -/
theorem encode_eq_error {reports : List ObjectReport} {e : TraversalError}
    (failed : encode reports = .error e) :
    (0x100000000 ≤ packedSize reports ∧ e = .tooLarge (packedSize reports)) ∨
      ∃ r ∈ reports, 0x80000000 ≤ r.body.length ∧ e = .bodyTooLarge r.body.length := by
  rcases Nat.lt_or_ge (packedSize reports) 0x100000000 with fits | large
  · refine .inr (mapM_encodeReport_eq_error ?_)
    rw [encode, countField_eq_ok_iff.mpr ⟨fits, rfl⟩] at failed
    cases mapped : reports.mapM encodeReport with
    | ok packed => simp [mapped, bind, Except.bind, pure, Except.pure] at failed
    | error cause => simpa [mapped, bind, Except.bind] using failed
  · exact .inl ⟨large, (Except.error.inj ((encode_of_large large).symm.trans failed)).symm⟩

end Traversal

namespace TraversalBuffer

open Traversal

variable {reports : List ObjectReport} {capacity : Nat}

/-! ## Buffers made for reports -/

structure Filled (reports : List ObjectReport) (capacity : Nat) (b : TraversalBuffer) : Prop where
  length : b.length = headerSize + align8 capacity
  used : b.used = packedSize reports
  used_le : b.used ≤ align8 capacity
  unused : ∀ byte ∈ b.bytes.drop (headerSize + b.used), byte = 0
  reads : b.reports = .ok reports
  /-- Four bytes tell the room. -/
  allocated : b.allocated = align8 capacity % 0x100000000

theorem ofReports_of_lt (exceeds : capacity < packedSize reports) :
    ofReports reports capacity = .error (.capacityExceeded (packedSize reports) capacity) := by
  rw [ofReports]
  simp only [gt_iff_lt, if_pos exceeds]
  rfl

theorem ofReports_of_error {e : TraversalError} (fits : packedSize reports ≤ capacity)
    (failed : encode reports = .error e) : ofReports reports capacity = .error e := by
  simp only [ofReports, gt_iff_lt, if_neg (Nat.not_lt.mpr fits), failed]
  rfl

theorem filled_ofReports (encodable : Encodable reports) (fits : packedSize reports ≤ capacity) :
    ∃ b, ofReports reports capacity = .ok b ∧ Filled reports capacity b := by
  have room : packedSize reports ≤ align8 capacity := Nat.le_trans fits (le_align8 capacity)
  have size := length_flatten_encode reports
  refine ⟨_, ofReports_of_encodable encodable fits, ?_⟩
  generalize made : TraversalBuffer.mk _ _ = b
  have bytes : b.bytes = header (withCapacity capacity).allocated (packedSize reports) ++
      (reports.map ObjectReport.encode).flatten ++
      List.replicate (align8 capacity - packedSize reports) 0 := by
    rw [← made]
    rfl
  have holds : Holds b.bytes reports := bytes ▸ holds_header_append encodable _ _
  have used : b.used = packedSize reports := b.used_eq_field.trans holds.used
  refine ⟨?_, used, used ▸ room, ?_, b.reports_eq_decode.trans holds.reads, ?_⟩
  · rw [← length_bytes, bytes]
    simp only [List.length_append, List.length_replicate, length_header, size]
    omega
  · intro byte unused
    rw [used, bytes, List.drop_left' (by rw [List.length_append, length_header, size])] at unused
    exact List.eq_of_mem_replicate unused
  · rw [allocated_eq_field, bytes, List.append_assoc, field_header_allocated,
      allocated_withCapacity, Nat.mod_mod]

theorem ofReports_cases (reports : List ObjectReport) (capacity : Nat) :
    (capacity < packedSize reports ∧
        ofReports reports capacity = .error (.capacityExceeded (packedSize reports) capacity)) ∨
      (packedSize reports ≤ capacity ∧
        ∃ e, encode reports = .error e ∧ ofReports reports capacity = .error e) ∨
      (packedSize reports ≤ capacity ∧ Encodable reports ∧
        ∃ b, ofReports reports capacity = .ok b ∧ Filled reports capacity b) := by
  rcases Nat.lt_or_ge capacity (packedSize reports) with exceeds | fits
  · exact .inl ⟨exceeds, ofReports_of_lt exceeds⟩
  · cases encoded : encode reports with
    | error e => exact .inr (.inl ⟨fits, e, rfl, ofReports_of_error fits encoded⟩)
    | ok bytes =>
        have encodable := (encode_eq_ok_iff.mp encoded).1
        exact .inr (.inr ⟨fits, encodable, filled_ofReports encodable fits⟩)

/-- Only the size of the reports makes a buffer fail, never the room that is asked for. The header of the
buffer tells the room as it is exactly if that is less than 4 GiB; all else is as it should be. -/
theorem truthful_unless_wrapped (reports : List ObjectReport) (capacity : Nat) :
    (∀ required room, ofReports reports capacity = .error (.capacityExceeded required room) ↔
      capacity < packedSize reports ∧ required = packedSize reports ∧ room = capacity) ∧
    (∀ size, ofReports reports capacity = .error (.tooLarge size) ↔
      packedSize reports ≤ capacity ∧ 0x100000000 ≤ packedSize reports ∧
        size = packedSize reports) ∧
    ((∃ b, ofReports reports capacity = .ok b) ↔
      packedSize reports ≤ capacity ∧ Encodable reports) ∧
    ∀ b, ofReports reports capacity = .ok b → Filled reports capacity b ∧
      (b.allocated = align8 capacity ∧ b.used ≤ b.allocated ↔ align8 capacity < 0x100000000) := by
  rcases ofReports_cases reports capacity with
    ⟨exceeds, made⟩ | ⟨fits, e, failed, made⟩ | ⟨fits, encodable, b, made, filled⟩
  · simp only [made]
    refine ⟨fun required room => ?_, fun size => ?_, ?_, nofun⟩
    · simp only [Except.error.injEq, TraversalError.capacityExceeded.injEq, exceeds, true_and,
        eq_comm]
    · exact iff_of_false nofun fun ⟨fits, _⟩ => absurd exceeds (Nat.not_lt.mpr fits)
    · exact iff_of_false nofun fun ⟨fits, _⟩ => absurd exceeds (Nat.not_lt.mpr fits)
  · have unencodable : ¬Encodable reports := fun encodable => by
      rw [encode_eq_ok_iff.mpr ⟨encodable, rfl⟩] at failed
      cases failed
    simp only [made]
    refine ⟨fun required room => ?_, fun size => ?_, ?_, nofun⟩
    · refine iff_of_false (fun same => ?_) fun ⟨exceeds, _⟩ => absurd exceeds (Nat.not_lt.mpr fits)
      cases same
      rcases encode_eq_error failed with ⟨-, same⟩ | ⟨r, -, -, same⟩ <;> cases same
    · constructor
      · intro same
        cases same
        rcases encode_eq_error failed with ⟨large, same⟩ | ⟨r, -, -, same⟩
        · cases same
          exact ⟨fits, large, rfl⟩
        · cases same
      · rintro ⟨-, large, rfl⟩
        cases failed.symm.trans (encode_of_large large)
        rfl
    · exact iff_of_false nofun fun ⟨_, encodable⟩ => unencodable encodable
  · simp only [made]
    refine ⟨fun required room => ?_, fun size => ?_, ?_, ?_⟩
    · exact iff_of_false nofun fun ⟨exceeds, _⟩ => absurd exceeds (Nat.not_lt.mpr fits)
    · exact iff_of_false nofun fun ⟨_, large, _⟩ => absurd encodable.total (Nat.not_lt.mpr large)
    · exact iff_of_true ⟨b, rfl⟩ ⟨fits, encodable⟩
    · rintro _ ⟨⟩
      refine ⟨filled, ?_⟩
      have used := filled.used_le
      rw [filled.allocated]
      omega

/-- A report in a buffer that is filled up, and in one with 4 GiB of room. -/
theorem truthful_unless_wrapped_greeting :
    let greeting : List ObjectReport :=
      [⟨Oop.ofNat 1025, Oop.ofNat 2049, 1, 0, 7, ⟨5⟩, [104, 101, 108, 108, 111]⟩]
    (∃ b, ofReports greeting 48 = .ok b ∧ Filled greeting 48 b ∧ b.allocated = align8 48 ∧
      b.used ≤ b.allocated) ∧
    ∃ b, ofReports greeting 0x100000000 = .ok b ∧ Filled greeting 0x100000000 b ∧
      ¬(b.allocated = align8 0x100000000 ∧ b.used ≤ b.allocated) := by
  intro greeting
  have encodable : Encodable greeting := ⟨by decide, by decide⟩
  obtain ⟨-, -, made, told⟩ := truthful_unless_wrapped greeting 48
  obtain ⟨b, eq⟩ := made.mpr ⟨by decide, encodable⟩
  obtain ⟨filled, truthful⟩ := told b eq
  obtain ⟨-, -, made', told'⟩ := truthful_unless_wrapped greeting 0x100000000
  obtain ⟨b', eq'⟩ := made'.mpr ⟨by decide, encodable⟩
  obtain ⟨filled', wrapped⟩ := told' b' eq'
  exact ⟨⟨b, eq, filled, truthful.mpr (by decide)⟩,
    b', eq', filled', fun truthful => absurd (wrapped.mp truthful) (by decide)⟩

/-- A buffer with 4 GiB of room is made, and its header tells that it has none. -/
theorem room_wrapped :
    let b : TraversalBuffer := ⟨header 0 0, 0x100000000⟩
    align8 0x100000000 = 0x100000000 ∧ ofReports [] 0x100000000 = .ok b ∧
      b.length = headerSize + 0x100000000 ∧ b.allocated = 0 := by
  refine ⟨by decide, ?_, by decide, by decide⟩
  rfl

end TraversalBuffer

end StoneDebug
