import StoneDebug.Failure

/-! # Remote calls

The calls that a VM answers, each with the type of its reply. Apart from `version` and `login` every
call belongs to a session and is made on its handle.
-/

namespace StoneDebug

structure Handle where
  value : Nat
deriving Repr, DecidableEq, Inhabited

structure LoginParams where
  stone : String := ""
  gem : String := ""
  username : String := ""
  password : String := ""
  hostUsername : Option String := none
  hostPassword : Option String := none
  flags : Nat := 0
deriving Repr, DecidableEq, Inhabited

namespace CallFlags

/-- Keeps the process of an unhandled error suspended, so that it can be debugged. -/
def enableDebug : Int := 1

def disableAsyncEvents : Int := 2

def singleThreaded : Int := 4

end CallFlags

/-- Source to evaluate. A nil symbol list means that of the user. -/
structure Execution where
  source : String
  /-- The class that wraps the source into a string of the VM. -/
  sourceClass : Oop
  /-- What `self` is bound to. -/
  context : Oop := .nil
  symbolList : Oop := .nil
  flags : Int := 0
  env : Nat := 0
deriving Repr, DecidableEq

structure Send where
  receiver : Oop
  selector : String
  args : List Oop := []
  flags : Int := 0
  env : Nat := 0
deriving Repr, DecidableEq

structure Compilation where
  source : Oop
  cls : Oop
  category : Oop
  symbolList : Oop := .nil
  /-- Nil to take the selector from the source. -/
  overrideSelector : Oop := .nil
  flags : Int := 0
  env : Nat := 0
deriving Repr, DecidableEq

structure ObjectInfo where
  id : Oop := .nil
  cls : Oop := .nil
  /-- Named and indexed slots together. -/
  size : Int64 := 0
  namedSize : Int32 := 0
  access : Nat := 0
  policy : Nat := 0
  bits : Nat := 0
deriving Repr, DecidableEq

namespace ObjectInfo

/-- A VM may tell of fewer slots than named ones. The difference is cut to 64 bits, so that of sizes
too far apart the wrong one seems the larger. -/
def indexedSize (i : ObjectInfo) : Int64 := max (i.size - i.namedSize.toInt64) 0

def implementation (i : ObjectInfo) : Implementation := .ofCode (i.bits % 4)

def isIndexable (i : ObjectInfo) : Bool := i.bits / 4 % 2 == 1

/-- Indexed slots that hold references; the bytes of a byte object are none. -/
def indexedOops (i : ObjectInfo) : Int64 :=
  match i.implementation with
  | .pointer | .nsc => i.indexedSize
  | .byte | .special => 0

end ObjectInfo

structure Utf8Fetch where
  bytes : List UInt8
  required : Nat
deriving Repr, DecidableEq

inductive PollStatus where
  | ready
  | notReady
deriving Repr, DecidableEq

structure TraversalArgs where
  clampSpec : Oop := .nil
  resultOop : Oop := .illegal
  bufferSize : Int := 64 * 1024
  level : Int := 1
  retrievalFlags : Int := 0
  isRpc : Bool := false
deriving Repr, DecidableEq

/-- Only the status tells whether more reports follow, never the size of a page. -/
inductive TraversalStatus where
  | complete
  | more
deriving Repr, DecidableEq

/-- What the VM has written into a traversal buffer, from the start of its header on. -/
structure Page where
  status : TraversalStatus
  written : List UInt8
deriving Repr, DecidableEq

/-- A request to end the running call that arrives while the VM is being polled. -/
inductive Interjection where
  /-- The call is cancelled from within the program. -/
  | cancel
  /-- A client asks, by `pause` or else by `cancel`. -/
  | request (seq : Int) (pause : Bool)
deriving Repr, DecidableEq

structure PollReply where
  status : Except CallError PollStatus
  /-- What arrived before the poll returned. -/
  meanwhile : List Interjection := []
  /-- Microseconds that the poll took beyond the first one. -/
  took : Nat := 0

inductive Call where
  | version
  | login (params : LoginParams)
  | logout
  | abort
  | beginTransaction
  | commit
  | resolveSymbol (name : String) (symbolList : Oop)
  | execute (request : Execution)
  | executeFetchBytes (request : Execution) (max : Nat)
  | perform (send : Send)
  | performFetchBytes (send : Send) (max : Nat)
  | compileMethod (request : Compilation)
  | nbExecute (request : Execution)
  | nbPerform (send : Send)
  | nbPoll (timeout : Int)
  | nbResult
  | interrupt (hard : Bool)
  | clearStack (process : Oop)
  | continueWith (process replaceTop : Oop) (flags : Int)
  | fetchClass (oop : Oop)
  | fetchSize (oop : Oop)
  | fetchVaryingSize (oop : Oop)
  | fetchObjectInfo (oop : Oop)
  | fetchBytes (oop : Oop) (start : Int) (max : Nat)
  | fetchUtf8Bytes (oop : Oop) (start : Int) (max : Nat)
  | storeBytes (oop : Oop) (start : Int) (bytes : List UInt8) (ofClass : Oop)
  | fetchOops (oop : Oop) (start : Int) (count : Nat)
  | storeOops (oop : Oop) (start : Int) (values : List Oop) (overlay : Bool)
  | newObject (cls : Oop)
  | newString (text : String)
  | newSymbol (text : String)
  | intToOop (value : Int)
  | oopToInt (oop : Oop)
  | doubleToOop (value : Binary64)
  | oopToDouble (oop : Oop)
  | fetchTraversal (oops : List Oop) (args : TraversalArgs) (buffer : TraversalBuffer)
  | moreTraversal (buffer : TraversalBuffer)
  | storeTraversal (buffer : TraversalBuffer) (flags : Int)
deriving Repr, DecidableEq

namespace Call

/-- What a call yields when it does not fail. -/
@[reducible] def Value : Call → Type
  | version => String
  | login _ => Handle
  | logout | abort | beginTransaction => Unit
  | commit => Bool
  | resolveSymbol .. | execute _ | perform _ | compileMethod _ | nbResult => Oop
  | executeFetchBytes .. | performFetchBytes .. | fetchBytes .. => List UInt8
  | nbExecute _ | nbPerform _ | interrupt _ | clearStack _ => Unit
  | nbPoll _ => PollStatus
  | continueWith .. | fetchClass _ => Oop
  | fetchSize _ | fetchVaryingSize _ | oopToInt _ => Int
  | fetchObjectInfo _ => ObjectInfo
  | fetchUtf8Bytes .. => Utf8Fetch
  | storeBytes .. | storeOops .. | storeTraversal .. => Unit
  | fetchOops .. => List Oop
  | newObject _ | newString _ | newSymbol _ | intToOop _ | doubleToOop _ => Oop
  | oopToDouble _ => Binary64
  | fetchTraversal .. | moreTraversal _ => Page

/-- The version is always told, and a poll tells what arrived meanwhile; other calls may fail. -/
@[reducible] def Reply : Call → Type
  | version => String
  | nbPoll _ => PollReply
  | c => Except CallError (Value c)

end Call

structure Exchange where
  handle : Option Handle
  call : Call
  reply : call.Reply

/-- A VM answers each call in the light of everything that it was asked and answered before. Any such
function is a possible VM: nothing is assumed about its replies. -/
abbrev VM := (history : List Exchange) → Option Handle → (call : Call) → call.Reply

end StoneDebug
