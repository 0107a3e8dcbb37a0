import StoneDebug.Source.Keyword

/-! # Lines, step points and method sources

A method is executed in step points, each at a character offset of its source; editors think in lines.
A line table holds the offset at which each line starts. Lines and step points are counted from 1,
offsets from 0. The source of a compiled method comes with both, and gives the positions in it at which
a breakpoint can be set.
-/

namespace StoneDebug.Source

/-- The offsets at which lines start: 0, and the one after each newline. `offset` is that of the
first character. -/
def lineStartsFrom (offset : Nat) : List Char → List Nat
  | [] => []
  | '\n' :: rest => (offset + 1) :: lineStartsFrom (offset + 1) rest
  | _ :: rest => lineStartsFrom (offset + 1) rest

def lineStarts (source : List Char) : List Nat := 0 :: lineStartsFrom 0 source

/-- The line of an offset; beyond the end it is the last one. -/
def lineOf (starts : List Nat) (offset : Nat) : Nat :=
  max 1 (starts.takeWhile (· ≤ offset)).length

/-- Offsets are 64-bit words, and the greatest word stands for the end of everything. -/
def endOfOffsets : Nat := UInt64.size - 1

structure StepPoint where
  number : Nat
  offset : Nat
deriving Repr, DecidableEq

def stepPoints (offsets : List Nat) : List StepPoint :=
  (offsets.zipIdx 1).map fun (offset, number) => ⟨number, offset⟩

/-- The step point of least offset, and of those with that offset the first one. -/
def earliest : List StepPoint → Option StepPoint
  | [] => none
  | p :: rest =>
    match earliest rest with
    | none => some p
    | some q => if q.offset < p.offset then some q else some p

def earliestWithin (low high : Nat) (offsets : List Nat) : Option StepPoint :=
  earliest ((stepPoints offsets).filter fun p => low ≤ p.offset && p.offset < high)

structure LineMapping where
  stepPoint : Nat
  actualLine : Nat
deriving Repr, DecidableEq

/-- The step point for a line: the earliest one in the line, or else the earliest one after it. -/
def mapLine (line : Int) (starts offsets : List Nat) : Option LineMapping :=
  if line ≤ 0 then none
  else
    let n := line.toNat
    match starts[n - 1]? with
    | none => none
    | some start =>
      match earliestWithin start (starts.getD n endOfOffsets) offsets with
      | some p => some ⟨p.number, n⟩
      | none =>
        (earliestWithin start endOfOffsets offsets).map fun p => ⟨p.number, lineOf starts p.offset⟩

/-! ## Methods -/

structure MethodSource where
  text : String
  starts : List Nat
  /-- The offset of each step point, the first one's first. -/
  stepOffsets : List Nat
deriving Repr, DecidableEq

namespace MethodSource

def make (text : String) (stepOffsets : List Nat) : MethodSource :=
  ⟨text, lineStarts text.toList, stepOffsets⟩

def lineCount (m : MethodSource) : Nat := m.starts.length

/-- The line of a step point; the first line when the step point is not known. -/
def lineOfStepPoint (m : MethodSource) (stepPoint : Int) : Nat :=
  if stepPoint ≤ 0 then 1
  else
    match m.stepOffsets[stepPoint.toNat - 1]? with
    | some offset => lineOf m.starts offset
    | none => 1

def tokens (m : MethodSource) : List StepToken :=
  (stepPoints m.stepOffsets).map fun p => .at m.text.toList p.number p.offset

end MethodSource

structure BreakpointLocation where
  stepPoint : Nat
  line : Nat
  column : Nat
deriving Repr, DecidableEq

namespace BreakpointLocation

def le (a b : BreakpointLocation) : Bool :=
  a.line < b.line || (a.line == b.line && a.column ≤ b.column)

def samePlace (a b : BreakpointLocation) : Bool := a.line == b.line && a.column == b.column

def distinct : List BreakpointLocation → List BreakpointLocation
  | [] => []
  | [a] => [a]
  | a :: b :: rest => if a.samePlace b then distinct (a :: rest) else a :: distinct (b :: rest)

/-- The position of a token. Columns are words of 32 bits. -/
def ofToken (m : MethodSource) (t : StepToken) : BreakpointLocation :=
  let line := lineOf m.starts t.offset
  ⟨t.stepPoint, line, (t.offset - m.starts.getD (line - 1) 0) % UInt32.size + 1⟩

end BreakpointLocation

/-- The positions on the lines `first` to `last` in text order: step points and the later keywords of
their messages. Of several at one place a step point's own comes first. -/
def MethodSource.breakpointLocations (m : MethodSource) (first last : Nat) :
    List BreakpointLocation :=
  let all := (expandKeywords m.text.toList m.tokens).map (BreakpointLocation.ofToken m)
  let inRange := all.filter fun l => first ≤ l.line && l.line ≤ last
  BreakpointLocation.distinct (inRange.mergeSort BreakpointLocation.le)

end StoneDebug.Source
