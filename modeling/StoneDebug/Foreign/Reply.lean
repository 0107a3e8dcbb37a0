import StoneDebug.Foreign.Call

/-! # Replies of the C interface

Every function but that for the version fills an error structure. When its number is not zero the
call has failed and nothing else of the reply is looked at. Otherwise the value is taken from what
the function returned or wrote; some returned values are failures in themselves.
-/

namespace StoneDebug.Foreign

open Text

/-- The error structure as the function leaves it. Unfilled slots hold nil. -/
structure ErrorStruct where
  category : Oop := .nil
  context : Oop := .nil
  exception : Oop := .nil
  args : List Oop := []
  number : Int32 := 0
  argCount : Int32 := 0
  fatal : UInt8 := 0
  message : List UInt8 := []
  reason : List UInt8 := []
deriving Repr, DecidableEq

/-- The text in a buffer, which ends before the first NUL. -/
def bufferText (capacity : Nat) (written : List UInt8) : String :=
  Utf8.decodeLossy ((written.take capacity).takeWhile (· != 0))

def messageCapacity : Nat := 1025

def argumentSlots (args : List Oop) (n : Nat) : List Oop :=
  (args.take ErrorRecord.maxArgs ++
    List.replicate (ErrorRecord.maxArgs - args.length) Oop.nil).take n

def ErrorStruct.record (e : ErrorStruct) : ErrorRecord where
  category := e.category
  context := e.context
  exception := e.exception
  args := argumentSlots e.args (min e.argCount.toInt.toNat ErrorRecord.maxArgs)
  number := e.number.toInt
  argCount := e.argCount.toInt
  fatal := e.fatal != 0
  message := bufferText messageCapacity e.message
  reason := bufferText messageCapacity e.reason

structure ForeignReply where
  /-- What the function returned, as a word. -/
  returned : UInt64 := 0
  error : ErrorStruct := {}
  /-- What it wrote from the start of the buffer on. -/
  written : List UInt8 := []
  oops : List Oop := []
  /-- What it wrote where the value of a conversion is expected. -/
  out : UInt64 := 0
  /-- The object info structure, whose words are zero until the function fills them. -/
  info : ObjectInfo := { id := Oop.ofNat 0, cls := Oop.ofNat 0 }

namespace ForeignReply

def long (r : ForeignReply) : Int := r.returned.toInt64.toInt

def int (r : ForeignReply) : Int := r.returned.toUInt32.toInt32.toInt

def oop (r : ForeignReply) : Oop := ⟨r.returned⟩

/-- A failure that no error structure tells of. -/
def failure (message : String) : CallError := .vm (.ofMessage (-1) message)

/-- A value, unless the error structure tells of a failure. -/
def check {α : Type} (r : ForeignReply) (value : α) : Except CallError α := r.error.record.check value

/-- A function that answers whether it succeeded. When it says that it failed and its error structure
does not, the failure keeps what else the structure holds. -/
def done (r : ForeignReply) : Except CallError Unit :=
  let record := r.error.record
  let silent := r.int = 0 ∧ record.isSuccess
  if silent then
    .error (.vm { record with number := -1, message := "call failed without an error record" })
  else record.check ()

def buffer (r : ForeignReply) (max : Nat) (n : Int) : List UInt8 :=
  ((r.written.take max) ++ List.replicate (max - r.written.length) 0).take (min n.toNat max)

/-- The bytes that a function wrote, as many as it returned. -/
def bytes (r : ForeignReply) (max : Nat) : Except CallError (List UInt8) :=
  r.check (r.buffer max r.long)

def oopList (r : ForeignReply) (count : Nat) : Except CallError (List Oop) :=
  r.check (((r.oops.take count) ++ List.replicate (count - r.oops.length) (Oop.ofNat 0)).take
    (min r.int.toNat count))

def pollStatus (r : ForeignReply) : Except CallError PollStatus := do
  match ← r.check r.int with
  | 1 => return .ready
  | 0 => return .notReady
  | status => throw (failure s!"poll failed with status {status}")

def page (r : ForeignReply) : Except CallError Page := do
  match ← r.check r.int with
  | 1 => return ⟨.complete, r.written⟩
  | 0 => return ⟨.more, r.written⟩
  | status => throw (failure s!"traversal failed with status {status}")

def handle (r : ForeignReply) : Except CallError Handle := do
  let session ← r.check r.returned
  if session = 0 then throw (failure "login returned no session")
  return ⟨session.toNat⟩

end ForeignReply

def interpret (r : ForeignReply) : (call : Call) → call.Reply
  | .version => bufferText versionCapacity r.written
  | .login _ => r.handle
  | .logout | .abort | .beginTransaction => r.done
  | .commit => r.check (r.int != 0)
  | .resolveSymbol .. | .execute _ | .perform _ | .compileMethod _ | .nbResult => r.check r.oop
  | .executeFetchBytes _ max | .performFetchBytes _ max | .fetchBytes _ _ max => r.bytes max
  | .nbExecute _ | .nbPerform _ | .interrupt _ | .clearStack _ => r.done
  | .nbPoll _ => { status := r.pollStatus }
  | .continueWith .. | .fetchClass _ => r.check r.oop
  | .fetchSize _ | .fetchVaryingSize _ => r.check r.long
  | .fetchObjectInfo _ => r.check r.info
  | .fetchUtf8Bytes _ _ max => r.check ⟨r.buffer max r.long, r.long.toNat⟩
  | .storeBytes .. | .storeOops .. | .storeTraversal .. => r.done
  | .fetchOops _ _ count => r.oopList count
  | .newObject _ | .newString _ | .newSymbol _ | .intToOop _ | .doubleToOop _ => r.check r.oop
  | .oopToInt _ => (r.done).map fun _ => r.out.toInt64.toInt
  | .oopToDouble _ => (r.done).map fun _ => ⟨r.out⟩
  | .fetchTraversal .. | .moreTraversal _ => r.page

def refuse (cause : BadArgument) : (call : Call) → call.Reply
  | .version => ""
  | .nbPoll _ => { status := .error (.invalidArgument cause) }
  | .login _ | .logout | .abort | .beginTransaction | .commit | .resolveSymbol .. | .execute _
  | .executeFetchBytes .. | .perform _ | .performFetchBytes .. | .compileMethod _ | .nbExecute _
  | .nbPerform _ | .nbResult | .interrupt _ | .clearStack _ | .continueWith .. | .fetchClass _
  | .fetchSize _ | .fetchVaryingSize _ | .fetchObjectInfo _ | .fetchBytes .. | .fetchUtf8Bytes ..
  | .storeBytes .. | .fetchOops .. | .storeOops .. | .newObject _ | .newString _ | .newSymbol _
  | .intToOop _ | .oopToInt _ | .doubleToOop _ | .oopToDouble _ | .fetchTraversal ..
  | .moreTraversal _ | .storeTraversal .. => .error (.invalidArgument cause)

abbrev Library := Option Handle → ForeignCall → ForeignReply

def request (library : Library) (handle : Option Handle) (call : Call) : call.Reply :=
  match prepare call with
  | .ok foreign => interpret (library handle foreign) call
  | .error cause => refuse cause call

def defaultFile : String := "libgcits.so"

def locate (file : Option String) : String := file.getD defaultFile

def loadFailure (file reason : String) : CallError := .library (s!"load {file}: " ++ reason)

end StoneDebug.Foreign
