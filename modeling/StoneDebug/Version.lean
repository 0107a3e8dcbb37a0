import StoneDebug.Text.Encoding

/-! # VM versions

A version is three numbers. `Version.read` finds it in the text with which a VM describes itself: the
first run of digits that is followed by a period and more digits, and a third number after another
period if there is one.
-/

namespace StoneDebug

open Text

structure Version where
  major : Nat
  minor : Nat
  patch : Nat
deriving Repr, DecidableEq

namespace Version

instance : ToString Version := ⟨fun v => s!"{v.major}.{v.minor}.{v.patch}"⟩

def compare (a b : Version) : Ordering :=
  (Ord.compare a.major b.major).then ((Ord.compare a.minor b.minor).then (Ord.compare a.patch b.patch))

def first : Version := ⟨3, 5, 0⟩

/-- Releases of which every patch is supported. -/
def supportedReleases : List (Nat × Nat) := [(3, 5), (3, 6), (3, 7)]

def isSupported (v : Version) : Bool := supportedReleases.contains (v.major, v.minor)

def supportedText : String :=
  "[" ++ ", ".intercalate (supportedReleases.map fun (major, minor) => s!"{major}.{minor}.x") ++ "]"

def numberAfterPeriod : List Char → Option (List Char × List Char)
  | '.' :: rest =>
    let digits := rest.takeWhile isDecimalDigit
    if digits.isEmpty then none else some (digits, rest.dropWhile isDecimalDigit)
  | _ => none

/-- The digits of major, minor and patch number at their first occurrence. -/
def find : List Char → Option (List Char × List Char × Option (List Char))
  | [] => none
  | c :: rest =>
    if isDecimalDigit c then
      let major := c :: rest.takeWhile isDecimalDigit
      let after := rest.dropWhile isDecimalDigit
      match numberAfterPeriod after with
      | some (minor, after) => some (major, minor, (numberAfterPeriod after).map Prod.fst)
      | none => find after
    else find rest
termination_by cs => cs.length
decreasing_by
  · have := (List.dropWhile_suffix isDecimalDigit (l := rest)).length_le
    simp only [List.length_cons]
    omega
  · simp

inductive ReadError where
  | noVersion
  | badNumber (cause : NumberError)
deriving Repr, DecidableEq

def number (digits : List Char) : Except ReadError Nat :=
  (readDigits UInt32.size 0 digits).mapError .badNumber

/-- The numbers are read from the left, and the first bad one decides. -/
def read (text : String) : Except ReadError Version :=
  match find text.toList with
  | none => .error .noVersion
  | some (major, minor, patch) => do
    let major ← number major
    let minor ← number minor
    let patch ← match patch with
      | none => pure 0
      | some digits => number digits
    return ⟨major, minor, patch⟩

def parse? (text : String) : Option Version := (read text).toOption

end Version

end StoneDebug
