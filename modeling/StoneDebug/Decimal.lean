/-! # Doubles and their decimals

A double is kept as its 64 bits: sign, eleven bits of biased exponent, 52 bits of fraction. Copying
it through object references and messages then loses nothing, not even the sign of a zero. It is written
as the decimal of fewest digits among those that round to it, and of these the one nearest to it.
-/

namespace StoneDebug

structure Binary64 where
  bits : UInt64
deriving Repr, DecidableEq, Inhabited

namespace Binary64

def isNegative (d : Binary64) : Bool := d.bits.toNat / 0x8000000000000000 == 1

def exponent (d : Binary64) : Nat := d.bits.toNat / 0x10000000000000 % 0x800

def fraction (d : Binary64) : Nat := d.bits.toNat % 0x10000000000000

/-- The double with the given fields; each is cut to its width. -/
def ofFields (sign exponent fraction : Nat) : Binary64 :=
  ⟨UInt64.ofNat (sign % 2 * 0x8000000000000000 + exponent % 0x800 * 0x10000000000000 +
    fraction % 0x10000000000000)⟩

def isFinite (d : Binary64) : Bool := d.exponent != 0x7ff

def isZero (d : Binary64) : Bool := d.exponent == 0 && d.fraction == 0

/-- The magnitude of a finite double is `significand * 2 ^ (scale - 1075)`. -/
def significand (d : Binary64) : Nat :=
  if d.exponent == 0 then d.fraction else 0x10000000000000 + d.fraction

def scale (d : Binary64) : Nat := if d.exponent == 0 then 1 else d.exponent

end Binary64

namespace Decimal

/-! ## Shortest decimals

All arithmetic is exact, on fractions of natural numbers.
-/

/-- A positive decimal: the number `0.d₁d₂…dₙ * 10 ^ point`, where the first digit is not zero. -/
structure Digits where
  digits : List Nat
  point : Int
deriving Repr, DecidableEq

structure Fraction where
  num : Nat
  den : Nat

namespace Fraction

def le (a b : Fraction) : Bool := a.num * b.den ≤ b.num * a.den

def lt (a b : Fraction) : Bool := a.num * b.den < b.num * a.den

def ofDecimal (n : Nat) (e : Int) : Fraction := ⟨n * Nat.pow 10 e.toNat, Nat.pow 10 (-e).toNat⟩

def ofBinary (n : Nat) (e : Int) : Fraction := ⟨n * Nat.pow 2 e.toNat, Nat.pow 2 (-e).toNat⟩

/-- The greatest number of steps of size `10 ^ e` that fit into `x`. -/
def steps (x : Fraction) (e : Int) : Nat :=
  x.num * Nat.pow 10 (-e).toNat / (x.den * Nat.pow 10 e.toNat)

def magnitude (x : Fraction) : Int :=
  let digits (n : Nat) : Int := (Nat.toDigits 10 n).length
  let guess := digits x.num - digits x.den
  if (ofDecimal 1 guess).le x then guess else guess - 1

end Fraction

/-- The reals that round to one double: an interval around it, with its ends when the significand
is even. -/
structure Rounding where
  low : Fraction
  value : Fraction
  high : Fraction
  closed : Bool

def Rounding.holds (r : Rounding) (x : Fraction) : Bool :=
  if r.closed then r.low.le x && x.le r.high else r.low.lt x && x.lt r.high

/-- The interval of a finite double that is not zero. Below a power of two the doubles lie twice as
close. -/
def Rounding.of (d : Binary64) : Rounding :=
  let m := d.significand
  let q : Int := d.scale - 1075
  let narrow := d.fraction == 0 && d.exponent > 1
  { low := if narrow then .ofBinary (4 * m - 1) (q - 2) else .ofBinary (2 * m - 1) (q - 1)
    value := .ofBinary m q
    high := .ofBinary (2 * m + 1) (q - 1)
    closed := m % 2 == 0 }

/-- Whether `x` lies nearer to the upper one of two neighbours on a grid; the middle goes up. -/
def upperNearer (x : Fraction) (lower : Nat) (e : Int) : Bool :=
  let middle := Fraction.ofDecimal (2 * lower + 1) e
  middle.le ⟨2 * x.num, x.den⟩

/-- The neighbour of the value on the grid of step `10 ^ e` that rounds to the double; the nearer
one when both do. -/
def Rounding.onGrid (r : Rounding) (e : Int) : Option Nat :=
  let lower := r.value.steps e
  let lowerHolds := r.holds (.ofDecimal lower e)
  let upperHolds := r.holds (.ofDecimal (lower + 1) e)
  if upperHolds && (!lowerHolds || upperNearer r.value lower e) then some (lower + 1)
  else if lowerHolds then some lower
  else none

def Digits.ofScaled (n : Nat) (e : Int) : Digits :=
  let digits := (Nat.toDigits 10 n).map fun c => c.toNat - '0'.toNat
  ⟨(digits.reverse.dropWhile (· == 0)).reverse, e + digits.length⟩

/-- Seventeen digits tell any two doubles apart, so a grid of at most that many is found. -/
def shortest (d : Binary64) : Digits :=
  let r := Rounding.of d
  let top := r.value.magnitude
  let grids := (List.range 17).map fun (n : Nat) => top - (n : Int)
  match grids.findSome? fun e => (r.onGrid e).map fun n => Digits.ofScaled n e with
  | some digits => digits
  | none => Digits.ofScaled (r.value.steps (top - 17)) (top - 17)

/-! ## Layouts

A layout says which magnitudes are written with an exponent and whether a whole number keeps a `.0`.
-/

structure Layout where
  /-- Exponents of ten of the leading digit that are written without an exponent. -/
  positional : Int → Bool
  /-- Whether a whole number ends in `.0`. -/
  keepsFraction : Bool

/-- Never an exponent, and whole numbers without a fraction. -/
def Layout.plain : Layout := ⟨fun _ => true, false⟩

/-- From a ten thousandth up to ten to the sixteenth positional, with `.0`; else an exponent. -/
def Layout.readable : Layout := ⟨fun e => -4 ≤ e && e < 16, true⟩

def digitText (ds : List Nat) : String := String.ofList (ds.map Nat.digitChar)

def zeros (n : Nat) : String := String.ofList (List.replicate n '0')

def Digits.positional (d : Digits) (keepsFraction : Bool) : String :=
  let n := d.digits.length
  if d.point ≤ 0 then "0." ++ zeros (-d.point).toNat ++ digitText d.digits
  else if (n : Int) ≤ d.point then
    digitText d.digits ++ zeros (d.point.toNat - n) ++ (if keepsFraction then ".0" else "")
  else digitText (d.digits.take d.point.toNat) ++ "." ++ digitText (d.digits.drop d.point.toNat)

def Digits.scientific (d : Digits) : String :=
  let fraction := match d.digits.drop 1 with
    | [] => ""
    | ds => "." ++ digitText ds
  digitText (d.digits.take 1) ++ fraction ++ "e" ++ toString (d.point - 1)

def Layout.write (layout : Layout) (d : Binary64) : String :=
  let sign := if d.isNegative then "-" else ""
  if !d.isFinite then if d.fraction == 0 then sign ++ "inf" else "NaN"
  else if d.isZero then sign ++ (if layout.keepsFraction then "0.0" else "0")
  else
    let digits := shortest d
    if layout.positional (digits.point - 1) then
      sign ++ digits.positional layout.keepsFraction
    else sign ++ digits.scientific

end Decimal

end StoneDebug
