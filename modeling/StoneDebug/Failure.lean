import StoneDebug.Traversal

/-! # Failed calls

The VM answers a failed call with an error record; a record whose number is zero means success.
`CallError` has the other causes too: faults found before or after a call, without the VM.
-/

namespace StoneDebug

structure ErrorRecord where
  category : Oop := .nil
  /-- The suspended process of an error that can be debugged. -/
  context : Oop := .nil
  exception : Oop := .nil
  args : List Oop := []
  number : Int := 0
  argCount : Int := 0
  fatal : Bool := false
  message : String := ""
  reason : String := ""
deriving Repr, DecidableEq

namespace ErrorRecord

def maxArgs : Nat := 10

def doesNotUnderstand : Int := 2010

def compileError : Int := 1001

def hardBreak : Int := 6004

def softBreak : Int := 6003

def breakpoint : Int := 6005

def step : Int := 6006

/-- A record of the client itself, for a call that broke its contract. -/
def ofMessage (number : Int) (message : String) : ErrorRecord := { number, message }

def isSuccess (r : ErrorRecord) : Bool := r.number == 0

/-- The suspended process. The words of nil and of the illegal reference, and zero, stand for none. -/
def process? (r : ErrorRecord) : Option Oop :=
  if r.context.isNil || r.context.isIllegal || r.context.raw == 0 then none else some r.context

/-- The reason stands in for an empty message. -/
def text (r : ErrorRecord) : String :=
  let detail := if r.message.isEmpty then r.reason else r.message
  s!"error {r.number}: " ++ detail ++ (if r.fatal then " (fatal)" else "")

end ErrorRecord

inductive BadArgument where
  | interiorNul (text : String)
  | tooManyArguments (count : Nat)
  | countTooLarge (count : Nat)
  | other (text : String)
deriving Repr, DecidableEq

def BadArgument.message : BadArgument → String
  | .interiorNul text => "interior NUL in " ++ Text.quoted text
  | .tooManyArguments n => s!"too many arguments: {n}"
  | .countTooLarge n => s!"oop count {n} too large"
  | .other text => text

inductive CallError where
  | vm (record : ErrorRecord)
  /-- A non-blocking call is outstanding. -/
  | sessionBusy
  | notLoggedIn
  | invalidArgument (cause : BadArgument)
  | traversal (cause : TraversalError)
  /-- The library of the VM's client interface cannot be used. -/
  | library (text : String)
  | unexpectedResult (value : Oop) (expected : String)
deriving Repr, DecidableEq

namespace CallError

def message : CallError → String
  | .vm r => r.text
  | .sessionBusy => "session busy: a non-blocking call is already outstanding"
  | .notLoggedIn => "not logged in"
  | .invalidArgument cause => "invalid argument: " ++ cause.message
  | .traversal cause => cause.message
  | .library text => "gci library: " ++ text
  | .unexpectedResult value expected =>
    "unexpected result " ++ value.describe ++ ", expected " ++ expected

def record? : CallError → Option ErrorRecord
  | .vm r => some r
  | _ => none

def process? (e : CallError) : Option Oop := e.record?.bind ErrorRecord.process?

/-- Whether the session should be given up. -/
def isFatal : CallError → Bool
  | .vm r => r.fatal
  | .library _ => true
  | _ => false

end CallError

/-- The value of a call, unless its record tells of an error: then the value means nothing. -/
def ErrorRecord.check {α : Type} (r : ErrorRecord) (value : α) : Except CallError α :=
  if r.isSuccess then .ok value else .error (.vm r)

end StoneDebug
