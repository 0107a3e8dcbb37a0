import StoneDebug.Oop

/-! # Traversals

What a traversal tells about one object is a report: a header of forty bytes, then the body, filled up
with zeros to a multiple of eight bytes.

    bytes  0..4   body size, signed        bytes 16..24  class
    bytes  4..6   named size, signed       bytes 24..32  first offset, signed
    bytes  6..8   security policy          bytes 32..40  size bits
    bytes  8..16  object

A buffer starts with two counts of four bytes, the bytes allocated for reports and the bytes of them
in use, and goes on with packed reports. `encode` and `decode` translate report lists; a
`TraversalBuffer` is the storage handed to the VM.
-/

namespace StoneDebug

open Text

inductive Implementation where
  | pointer
  | byte
  | nsc
  | special
deriving Repr, DecidableEq

namespace Implementation

def ofCode : Nat → Implementation
  | 0 => .pointer
  | 1 => .byte
  | 2 => .nsc
  | _ => .special

def code : Implementation → Nat
  | .pointer => 0
  | .byte => 1
  | .nsc => 2
  | .special => 3

def name : Implementation → String
  | .pointer => "pointer"
  | .byte => "byte"
  | .nsc => "nsc"
  | .special => "special"

theorem ofCode_code (i : Implementation) : ofCode i.code = i := by cases i <;> rfl

end Implementation

/-- A word on the indexed part of an object: its size in bits 0 to 39, the implementation in bits
40 and 41, whether it can be indexed in bit 42, whether it never changes in bit 43. -/
structure SizeBits where
  raw : UInt64
deriving Repr, DecidableEq, Inhabited

namespace SizeBits

def size (b : SizeBits) : Nat := b.raw.toNat % 0x10000000000

def implementation (b : SizeBits) : Implementation := .ofCode (b.raw.toNat / 0x10000000000 % 4)

def isIndexable (b : SizeBits) : Bool := b.raw.toNat / 0x40000000000 % 2 == 1

def isInvariant (b : SizeBits) : Bool := b.raw.toNat / 0x80000000000 % 2 == 1

/-- The word with these parts; the size is cut to forty bits. -/
def make (size : Nat) (implementation : Implementation) (indexable invariant : Bool) : SizeBits :=
  ⟨UInt64.ofNat (size % 0x10000000000 + implementation.code * 0x10000000000 +
    (if indexable then 0x40000000000 else 0) + (if invariant then 0x80000000000 else 0))⟩

def describe (b : SizeBits) : String :=
  "IdxSizeBits \x7b idx_size: " ++ toString b.size ++ ", impl: " ++
    b.implementation.name.capitalize ++ ", indexable: " ++ toString b.isIndexable ++
    ", invariant: " ++ toString b.isInvariant ++ " \x7d"

end SizeBits

structure ObjectReport where
  id : Oop
  cls : Oop
  firstOffset : Int64
  namedSize : Int16
  policy : UInt16
  bits : SizeBits
  body : List UInt8
deriving Repr, DecidableEq

def align8 (n : Nat) : Nat := (n + 7) / 8 * 8

theorem le_align8 (n : Nat) : n ≤ align8 n := by unfold align8; omega

namespace ObjectReport

def headerSize : Nat := 40

def packedSize (r : ObjectReport) : Nat := headerSize + align8 r.body.length

/-- The words of the body, as many as fit. -/
def bodyOops (r : ObjectReport) : List Oop := go r.body
where
  go : List UInt8 → List Oop
    | b₀ :: b₁ :: b₂ :: b₃ :: b₄ :: b₅ :: b₆ :: b₇ :: rest =>
      .ofNat (readLE [b₀, b₁, b₂, b₃, b₄, b₅, b₆, b₇]) :: go rest
    | _ => []

def header (r : ObjectReport) : List UInt8 :=
  le 4 r.body.length ++ le 2 r.namedSize.toUInt16.toNat ++ le 2 r.policy.toNat ++
    le 8 r.id.toNat ++ le 8 r.cls.toNat ++ le 8 r.firstOffset.toUInt64.toNat ++
    le 8 r.bits.raw.toNat

def padding (r : ObjectReport) : List UInt8 :=
  List.replicate (align8 r.body.length - r.body.length) 0

def encode (r : ObjectReport) : List UInt8 := r.header ++ r.body ++ r.padding

@[simp] theorem length_header (r : ObjectReport) : r.header.length = headerSize := by
  simp [header, headerSize]

theorem length_encode (r : ObjectReport) : r.encode.length = r.packedSize := by
  have := le_align8 r.body.length
  simp only [encode, padding, packedSize, List.length_append, List.length_replicate, length_header]
  omega

def field (bytes : List UInt8) (start width : Nat) : Nat :=
  readLE ((bytes.drop start).take width)

/-- The first report and the bytes after it; `none` when its header or body is cut short or its
size is negative. The padding of the last report may be missing. -/
def next? (bytes : List UInt8) : Option (ObjectReport × List UInt8) :=
  let size := field bytes 0 4
  if headerSize ≤ bytes.length ∧ size < 0x80000000 ∧ headerSize + size ≤ bytes.length then
    some ({ id := .ofNat (field bytes 8 8)
            cls := .ofNat (field bytes 16 8)
            firstOffset := (UInt64.ofNat (field bytes 24 8)).toInt64
            namedSize := (UInt16.ofNat (field bytes 4 2)).toInt16
            policy := UInt16.ofNat (field bytes 6 2)
            bits := ⟨UInt64.ofNat (field bytes 32 8)⟩
            body := (bytes.drop headerSize).take size },
          bytes.drop (headerSize + align8 size))
  else none

theorem length_lt_of_next? {bytes rest : List UInt8} {r : ObjectReport}
    (h : next? bytes = some (r, rest)) : rest.length < bytes.length := by
  simp only [next?] at h
  split at h
  · next fits =>
    simp only [Option.some.injEq, Prod.mk.injEq] at h
    have := fits.1
    rw [← h.2, List.length_drop]
    simp only [headerSize] at *
    omega
  · cases h

/-- The reports at the start of `bytes`, up to the first one that is cut short. -/
def readAll (bytes : List UInt8) : List ObjectReport :=
  match _h : next? bytes with
  | none => []
  | some (r, rest) => r :: readAll rest
termination_by bytes.length
decreasing_by exact length_lt_of_next? _h

theorem readAll_of_none {bytes : List UInt8} (none : next? bytes = none) : readAll bytes = [] := by
  rw [readAll]
  split
  · rfl
  · next some => simp [none] at some

theorem readAll_of_some {bytes rest : List UInt8} {r : ObjectReport}
    (some : next? bytes = some (r, rest)) : readAll bytes = r :: readAll rest := by
  rw [readAll]
  split
  · next none => simp [some] at none
  · next other =>
      rw [some] at other
      cases other
      rfl

end ObjectReport

/-! ## Buffers -/

inductive TraversalError where
  | noHeader (length : Nat)
  | capacityExceeded (required capacity : Nat)
  | bodyTooLarge (length : Nat)
  | tooLarge (length : Nat)
  | emptyPage (capacity : Nat)
deriving Repr, DecidableEq

def TraversalError.message : TraversalError → String
  | .noHeader n => s!"traversal buffer too short for a header ({n} bytes)"
  | .capacityExceeded required capacity =>
    s!"traversal needs {required} bytes, buffer capacity is {capacity}"
  | .bodyTooLarge n => s!"object report body of {n} bytes does not fit a report header"
  | .tooLarge n => s!"{n} bytes of reports do not fit the traversal header"
  | .emptyPage n => s!"more reports pending but none fits a buffer of {n} bytes"

namespace Traversal

def headerSize : Nat := 8

def packedSize (reports : List ObjectReport) : Nat :=
  reports.foldr (fun r size => r.packedSize + size) 0

/-- The two counts of a buffer header; each is cut to four bytes. -/
def header (allocated used : Nat) : List UInt8 := le 4 allocated ++ le 4 used

def countField (n : Nat) : Except TraversalError Nat :=
  if n < 0x100000000 then .ok n else .error (.tooLarge n)

/-- The size of a report's body is a signed field. -/
def encodeReport (r : ObjectReport) : Except TraversalError (List UInt8) :=
  if r.body.length < 0x80000000 then .ok r.encode else .error (.bodyTooLarge r.body.length)

def encode (reports : List ObjectReport) : Except TraversalError (List UInt8) := do
  let used ← countField (packedSize reports)
  let packed ← reports.mapM encodeReport
  return header used used ++ packed.flatten

/-- The reports within the used part of a buffer. A used count beyond the end means all there is. -/
def decode (bytes : List UInt8) : Except TraversalError (List ObjectReport) :=
  if bytes.length < headerSize then .error (.noHeader bytes.length)
  else .ok (ObjectReport.readAll ((bytes.drop headerSize).take (ObjectReport.field bytes 4 4)))

end Traversal

/-- Storage for reports, with its header: the bytes written at its start, and how many zeros stand
after them. Most of a large buffer is never written. -/
structure TraversalBuffer where
  written : List UInt8
  zeros : Nat
deriving Repr, DecidableEq

namespace TraversalBuffer

open Traversal

def bytes (b : TraversalBuffer) : List UInt8 := b.written ++ List.replicate b.zeros 0

def length (b : TraversalBuffer) : Nat := b.written.length + b.zeros

def front (b : TraversalBuffer) (n : Nat) : List UInt8 :=
  b.written.take n ++ List.replicate (min (n - b.written.length) b.zeros) 0

@[simp] theorem length_bytes (b : TraversalBuffer) : b.bytes.length = b.length := by
  simp [bytes, length]

theorem front_eq_take (b : TraversalBuffer) (n : Nat) : b.front n = b.bytes.take n := by
  rw [front, bytes, List.take_append, List.take_replicate]

/-- An empty buffer; room is given out in multiples of eight bytes. -/
def withCapacity (capacity : Nat) : TraversalBuffer :=
  ⟨header (align8 capacity) 0, align8 capacity⟩

def allocated (b : TraversalBuffer) : Nat := ObjectReport.field (b.front headerSize) 0 4

def used (b : TraversalBuffer) : Nat := ObjectReport.field (b.front headerSize) 4 4

/-- Replaces the bytes from the start on, as far as the buffer reaches. -/
def overlay (b : TraversalBuffer) (written : List UInt8) : TraversalBuffer :=
  ⟨written.take b.length ++ b.written.drop written.length,
    b.zeros - (written.length - b.written.length)⟩

theorem bytes_overlay (b : TraversalBuffer) (written : List UInt8) :
    (b.overlay written).bytes = written.take b.length ++ b.bytes.drop written.length := by
  rw [overlay, bytes, bytes, List.drop_append, List.drop_replicate, List.append_assoc]

def ofReports (reports : List ObjectReport) (capacity : Nat) :
    Except TraversalError TraversalBuffer := do
  let required := packedSize reports
  if required > capacity then throw (.capacityExceeded required capacity)
  let encoded ← encode reports
  let empty := withCapacity capacity
  let allocated ← countField empty.allocated
  let used ← countField required
  return empty.overlay (header allocated used ++ encoded.drop headerSize)

/-- The reports are read from the header and the bytes in use only. -/
def reports (b : TraversalBuffer) : Except TraversalError (List ObjectReport) :=
  decode (b.front (headerSize + b.used))

end TraversalBuffer

end StoneDebug
