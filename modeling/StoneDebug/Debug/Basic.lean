import StoneDebug.Remote

/-! # What a debug session deals in

Why requests to it fail, how it reads and shows stack levels and variables, and the kinds of steps.
-/

namespace StoneDebug

/-! ## Errors

Only a failed call can be a reason to give up the session.
-/

/-- A stack level, counted from 1 at the innermost frame. -/
abbrev Level := UInt32

inductive DebugError where
  | notAttached
  | alreadyAttached
  | invalidSession (id : Nat)
  | processRunning
  | frameNotFound (level : Level)
  | unknownVariables (reference : Int)
  | unknownSource (reference : Int)
  | methodNotFound (path : String)
  | frameShape (expected actual : Nat)
  | badLocation (path reason : String)
  | unexpectedValue (value : Oop) (what : String)
  | call (cause : CallError)
  /-- The client could not be told. -/
  | client (text : String)
deriving Repr, DecidableEq

namespace DebugError

def message : DebugError → String
  | notAttached => "debug session is not attached to a process"
  | alreadyAttached => "debug session already attached"
  | invalidSession id => s!"no session with id {id}"
  | processRunning => "process is running"
  | frameNotFound level => s!"frame number {level} not found"
  | unknownVariables reference => s!"unknown variable reference {reference}"
  | unknownSource reference => s!"unknown source reference {reference}"
  | methodNotFound path => "method not found at " ++ path
  | frameShape expected actual =>
    s!"frame contents of {actual} slots, at least {expected} expected"
  | badLocation path reason => "invalid source location \x60" ++ path ++ "\x60: " ++ reason
  | unexpectedValue value what => "unexpected value " ++ value.describe ++ " for " ++ what
  | call cause => cause.message
  | client text => "hook: " ++ text

def isFatal : DebugError → Bool
  | call cause => cause.isFatal
  | _ => false

end DebugError

/-! ## Frames

The VM describes a stack level by an array with a fixed part of ten slots, of which four matter here,
followed by the arguments and temporaries.
-/

structure Frame where
  method : Oop
  /-- The instruction pointer within the method. -/
  ip : Int
  receiver : Oop
  /-- An array with the names of arguments and temporaries, or nil. -/
  names : Oop
  locals : List Oop
deriving Repr, DecidableEq

namespace Frame

def fixedSlots : Nat := 10

/-- An instruction pointer is a SmallInteger; nil stands for 0. -/
def readIp (oop : Oop) : Except DebugError Int :=
  match oop.kind with
  | .smallInt ip => .ok ip
  | .nil => .ok 0
  | _ => .error (.unexpectedValue oop "ip offset")

def ofOops : List Oop → Except DebugError Frame
  | method :: ip :: _ :: _ :: _ :: _ :: _ :: _ :: names :: receiver :: locals => do
    let ip ← readIp ip
    return { method, ip, receiver, names, locals }
  | oops => .error (.frameShape fixedSlots oops.length)

end Frame

/-- Pairs values with names; a value without a name is named by its position. -/
def nameLocals (names : List String) (values : List Oop) : List (String × Oop) :=
  (values.zipIdx 1).map fun (value, i) => ((names[i - 1]?).getD s!".t{i}", value)

structure FrameView where
  level : Level
  name : String
  sourceRef : Nat
  line : Nat
  column : Nat
  method : Oop
deriving Repr, DecidableEq

/-! ## Variables

What can be unfolded in a view of variables, the handles by which a client names it, and the windows
in which long lists of slots are shown.
-/

inductive VarRef where
  /-- The arguments and temporaries of a stack level. -/
  | frameLocals (level : Level)
  /-- The receiver of a frame, shown as the single entry `self`. -/
  | receiver (oop : Oop)
  | named (oop : Oop)
  /-- The indexed slots of an object, so many in all. -/
  | indexed (oop : Oop) (size : Int64)
deriving Repr, DecidableEq

/-- What an object unfolds to: its indexed slots if there are any, or else its named ones. Special
objects never unfold, and neither do objects that the VM tells nothing about. -/
def VarRef.childOf (oop : Oop) (info : Option ObjectInfo) : Option VarRef :=
  if oop.isSpecial then none
  else
    match info with
    | none => none
    | some info =>
      if info.indexedOops > 0 then some (.indexed oop info.indexedOops)
      else if info.namedSize > 0 then some (.named oop)
      else none

/-- A value known by a number from 1 on. The same value keeps the same number. -/
structure Numbering (α : Type) where
  values : List α := []
deriving Repr, DecidableEq

namespace Numbering

variable {α : Type} [DecidableEq α]

def number (n : Numbering α) (a : α) : Nat × Numbering α :=
  if a ∈ n.values then (n.values.idxOf a + 1, n) else (n.values.length + 1, ⟨n.values ++ [a]⟩)

def get? (n : Numbering α) (number : Int) : Option α :=
  if number ≤ 0 then none else n.values[number.toNat - 1]?

def size (n : Numbering α) : Nat := n.values.length

end Numbering

structure Window where
  start : Nat := 0
  count : Option Nat := none
deriving Repr, DecidableEq

/-- The part of the window within `size` slots: its start and length. -/
def Window.clamp (w : Window) (size : Nat) : Nat × Nat :=
  let start := min w.start size
  (start, min (w.count.getD size) (size - start))

structure ScopeView where
  name : String
  reference : Nat
  named : Nat
deriving Repr, DecidableEq

structure VariableView where
  name : String
  value : String
  typeName : Option String
  /-- 0 when the value does not unfold. -/
  reference : Nat
  named : Option Int64
  indexed : Option Int64
deriving Repr, DecidableEq

/-! ## Steps

A step is armed by a message to the process, which is then resumed.
-/

inductive StepKind where
  /-- Over the sends of the frame. -/
  | overSends
  /-- Into the next send. -/
  | intoSends
  /-- Into blocks but not into sends. -/
  | intoBlocks
deriving Repr, DecidableEq

namespace StepKind

def name : StepKind → String
  | overSends => "over"
  | intoSends => "into"
  | intoBlocks => "through"

def ofName? : String → Option StepKind
  | "over" => some overSends
  | "into" => some intoSends
  | "through" => some intoBlocks
  | _ => none

def selector : StepKind → String
  | overSends => "gciStepOverFromLevel:"
  | intoSends => "gciStepIntoFromLevel:"
  | intoBlocks => "gciStepThruFromLevel:"

def ofCommand? : String → Option StepKind
  | "next" => some overSends
  | "stepIn" => some intoSends
  | "stepOut" => some intoBlocks
  | _ => none

end StepKind

end StoneDebug
