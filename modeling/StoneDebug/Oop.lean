import StoneDebug.Decimal
import StoneDebug.Text.Encoding

/-! # Object references

A reference to an object of the VM is a 64-bit word whose low three bits say what it holds: a heap
reference (`001`), a SmallInteger (`010`), one of the special objects nil, true, false and the
Characters (`100`), or a SmallDouble (`110`). The word 1 alone is the illegal reference.
`Oop.kind` reads a word and `Kind.encode` builds one, `Oop.describe` names a reference in diagnostics,
and `Kind.print?` is what its object prints, as far as that is known without the VM.
-/

namespace StoneDebug

structure Oop where
  raw : UInt64
deriving Repr, DecidableEq, Inhabited

namespace Oop

/-- The word `n`; higher bits are cut off. -/
def ofNat (n : Nat) : Oop := ⟨UInt64.ofNat n⟩

def toNat (o : Oop) : Nat := o.raw.toNat

protected def illegal : Oop := ⟨0x01⟩

protected def nil : Oop := ⟨0x14⟩

protected def false : Oop := ⟨0x0c⟩

protected def true : Oop := ⟨0x10c⟩

def smallIntegerClass : Oop := ⟨74241⟩

def characterClass : Oop := ⟨68353⟩

def booleanClass : Oop := ⟨66817⟩

def undefinedObjectClass : Oop := ⟨76801⟩

def smallDoubleClass : Oop := ⟨121345⟩

def tag (o : Oop) : Nat := o.toNat % 8

def payload (o : Oop) : Nat := o.toNat / 8

def isIllegal (o : Oop) : Bool := o == Oop.illegal

def isNil (o : Oop) : Bool := o == Oop.nil

/-- Whether the reference itself is the object: every tag but that of the heap. -/
def isSpecial (o : Oop) : Bool := o.tag != 1

def isHeapRef (o : Oop) : Bool := !o.isSpecial && !o.isIllegal

/-! ## SmallIntegers -/

def minSmallInt : Int := -0x1000000000000000

def maxSmallInt : Int := 0x0fffffffffffffff

/-- The SmallInteger `i`: 61 bits of two's complement above the tag. -/
def ofSmallInt (i : Int) : Oop := ofNat ((i % 0x2000000000000000).toNat * 8 + 2)

def ofInt32 (i : Int32) : Oop := ofSmallInt i.toInt

/-- Larger integers are heap objects, which only the VM creates. -/
def ofInt? (i : Int) : Option Oop :=
  if minSmallInt ≤ i ∧ i ≤ maxSmallInt then some (ofSmallInt i) else none

def isSmallInt (o : Oop) : Bool := o.tag == 2

def signedPayload (o : Oop) : Int :=
  if o.payload < 0x1000000000000000 then o.payload else (o.payload : Int) - 0x2000000000000000

def asInt? (o : Oop) : Option Int := if o.isSmallInt then some o.signedPayload else none

/-! ## Characters -/

def maxCodePoint : Nat := 0x10ffff

/-- The Character of a code point, the illegal reference above U+10FFFF. -/
def ofCodePoint (n : Nat) : Oop := if n > maxCodePoint then Oop.illegal else ofNat (n * 256 + 0x1c)

def isChar (o : Oop) : Bool := o.toNat % 256 == 0x1c

/-- The code point of a Character, -1 for anything else. -/
def charCode (o : Oop) : Int := if o.isChar then (o.toNat / 256 : Nat) else -1

/-! ## Booleans -/

def ofBool (b : Bool) : Oop := if b then Oop.true else Oop.false

/-! ## SmallDoubles

A double whose exponent fits eight bits: fraction, exponent, sign, tag from the high bits down.
-/

/-- What a biased exponent of a double exceeds that of a SmallDouble by. -/
def smallDoubleBias : Nat := 896

/-- The SmallDouble of a signed zero or of a double whose biased exponent lies in 897 to 1151. -/
def ofDouble? (d : Binary64) : Option Oop :=
  let build (exponent : Nat) : Oop :=
    ofNat (d.fraction * 0x1000 + exponent * 0x10 + (if d.isNegative then 8 else 0) + 6)
  if d.isZero then some (build 0)
  else if smallDoubleBias + 1 ≤ d.exponent ∧ d.exponent ≤ smallDoubleBias + 255 then
    some (build (d.exponent - smallDoubleBias))
  else none

def isSmallDouble (o : Oop) : Bool := o.tag == 6

/-- The double in the fields of a SmallDouble word. An exponent field of zero stays zero. -/
def double (o : Oop) : Binary64 :=
  let n := o.toNat
  let exponent := n / 0x10 % 0x100
  .ofFields (n / 8 % 2) (if exponent == 0 then 0 else exponent + smallDoubleBias) (n / 0x1000)

def asDouble? (o : Oop) : Option Binary64 := if o.isSmallDouble then some o.double else none

/-! ## Kinds -/

inductive Kind where
  | heapRef (raw : UInt64)
  | smallInt (value : Int)
  | char (codePoint : Nat)
  | bool (value : Bool)
  | nil
  | smallDouble (value : Binary64)
  | illegal
deriving Repr, DecidableEq

def kind (o : Oop) : Kind :=
  if o.isIllegal then .illegal
  else if o.tag == 1 then .heapRef o.raw
  else if o.tag == 2 then .smallInt o.signedPayload
  else if o.tag == 6 then .smallDouble o.double
  else if o.isNil then .nil
  else if o == Oop.true then .bool true
  else if o == Oop.false then .bool false
  else if o.isChar && o.toNat / 256 ≤ maxCodePoint then .char (o.toNat / 256)
  else .illegal

/-- The reference of a value; the illegal one for a value that no word can hold. -/
def Kind.encode : Kind → Oop
  | .heapRef raw => if raw.toNat % 8 == 1 then ⟨raw⟩ else Oop.illegal
  | .smallInt i => (ofInt? i).getD Oop.illegal
  | .char n => ofCodePoint n
  | .bool b => ofBool b
  | .nil => Oop.nil
  | .smallDouble d => (ofDouble? d).getD Oop.illegal
  | .illegal => Oop.illegal

/-- The class of a special object; the illegal reference for objects on the heap. -/
def specialClass (o : Oop) : Oop :=
  match o.kind with
  | .smallInt _ => smallIntegerClass
  | .char _ => characterClass
  | .bool _ => booleanClass
  | .nil => undefinedObjectClass
  | .smallDouble _ => smallDoubleClass
  | .heapRef _ | .illegal => Oop.illegal

/-! ## Texts -/

open Text Decimal

def codePointText (n : Nat) : String :=
  let digits := (Nat.toDigits 16 n).map Char.toUpper
  String.ofList (List.replicate (4 - digits.length) '0' ++ digits)

def describe (o : Oop) : String :=
  match o.kind with
  | .heapRef raw => s!"Ref({raw.toNat})"
  | .smallInt i => s!"SmallInt({i})"
  | .char n => "Char(U+" ++ codePointText n ++ ")"
  | .bool b => s!"Bool({b})"
  | .nil => "nil"
  | .smallDouble d => "SmallDouble(" ++ Layout.plain.write d ++ ")"
  | .illegal => "Illegal(0x" ++ hexDigits o.toNat ++ ")"

instance : ToString Oop := ⟨fun o => toString o.toNat⟩

def characterText (n : Nat) : String :=
  if n.isValidChar && !isControl (Char.ofNat n) then "$" ++ (Char.ofNat n).toString
  else s!"Character codePoint: {n}"

/-- `none` for objects on the heap, which only the VM can print. -/
def Kind.print? : Kind → Option String
  | .smallInt i => some (toString i)
  | .char n => some (characterText n)
  | .bool b => some (toString b)
  | .nil => some "nil"
  | .smallDouble d => some (Layout.readable.write d)
  | .heapRef _ | .illegal => none

end Oop

end StoneDebug
