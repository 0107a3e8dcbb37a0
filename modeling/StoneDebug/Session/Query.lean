import StoneDebug.Poller

/-! # Asking a session

Evaluations, sends, bulk fetches and traversals. Every operation first makes sure that no
non-blocking call is outstanding; what can be answered without the VM is answered before that.
-/

namespace StoneDebug

/-- The most bytes of a printable result that are fetched. -/
def maxResultSize : Nat := 64 * 1024

def maxNameSize : Nat := 1024

def Oop.expectInt (o : Oop) : Except CallError Int :=
  match o.kind with
  | .smallInt i => .ok i
  | _ => .error (.unexpectedResult o "SmallInteger")

namespace Session

open Text

/-- A call on a session that is idle or can be made so. -/
def request (s : Session) {α : Type} (act : Act (Except CallError α)) : Attempt α := do
  s.ensureIdle
  ExceptT.mk act

/-! ## Evaluation -/

/-- An execution request wrapped by the helper class; `adjust` sets its flags and context. -/
def execution (s : Session) (source : String) (adjust : Execution → Execution) :
    Attempt Execution := do
  s.ensureIdle
  let cls ← s.helperClass
  return adjust { source, sourceClass := cls }

def execute (s : Session) (source : String) : Attempt Oop := do
  let e ← s.execution source fun e => e
  ExceptT.mk (s.call (.execute e))

/-- Leaves the process of an unhandled error suspended. -/
def executeDebuggable (s : Session) (source : String) : Attempt Oop := do
  let e ← s.execution source fun e => { e with flags := CallFlags.enableDebug }
  ExceptT.mk (s.call (.execute e))

def executeIn (s : Session) (source : String) (context : Oop) : Attempt Oop := do
  let e ← s.execution source fun e => { e with context }
  ExceptT.mk (s.call (.execute e))

/-- The bytes of the result as text, cut at `maxResultSize`. -/
def executeString (s : Session) (source : String) : Attempt String := do
  let e ← s.execution source fun e => e
  let bytes ← ExceptT.mk (s.call (.executeFetchBytes e maxResultSize))
  return Utf8.decodeLossy bytes

def perform (s : Session) (receiver : Oop) (selector : String) (args : List Oop) : Attempt Oop :=
  s.request (s.call (.perform { receiver, selector, args }))

def performString (s : Session) (receiver : Oop) (selector : String) (args : List Oop) :
    Attempt String := do
  let bytes ← s.request (s.call (.performFetchBytes { receiver, selector, args } maxResultSize))
  return Utf8.decodeLossy bytes

/-- What an object prints; the VM is not asked about special objects. -/
def printString (s : Session) (oop : Oop) : Attempt String :=
  match oop.kind.print? with
  | some text => pure text
  | none => s.performString oop "printString" []

/-- Runs a call without blocking, up to its end; `none` for a call that is never finished. The
session is idle afterwards unless the call is still running. -/
def run (s : Session) (config : PollConfig) (submission : Submission) :
    Attempt (Option Outcome) := do
  s.beginCall
  let outcome ← Poller.run { session := s, config } submission
  match outcome with
  | none => pure ()
  | some (.cancelled false) => s.abandonCall
  | some _ => s.finishCall
  return outcome

def runSource (s : Session) (config : PollConfig) (source : String) : Attempt (Option Outcome) := do
  let e ← s.execution source fun e => { e with flags := CallFlags.enableDebug }
  s.run config (.execute e)

/-! ## Objects -/

def resolveClass (s : Session) (name : String) : Attempt Oop :=
  s.request (s.call (.resolveSymbol name .nil))

/-- The class of a special object is known without the VM. -/
def classOf (s : Session) (oop : Oop) : Attempt Oop :=
  if oop.isSpecial then pure oop.specialClass else s.request (s.call (.fetchClass oop))

def className (s : Session) (cls : Oop) : Attempt String := s.performString cls "name" []

def newSymbol (s : Session) (name : String) : Attempt Oop := s.request (s.call (.newSymbol name))

def newSourceString (s : Session) (source : String) : Attempt Oop := do
  s.ensureIdle
  let cls ← s.helperClass
  let string ← ExceptT.mk (s.call (.newObject cls))
  if !source.isEmpty then
    ExceptT.mk (s.call (.storeBytes string 1 (Utf8.encode source) cls))
  return string

/-- The whole content of a String or Symbol. When the first fetch falls short, a second one asks for
everything. -/
def fetchString (s : Session) (oop : Oop) : Attempt String := do
  let first ← s.request (s.call (.fetchUtf8Bytes oop 1 maxNameSize))
  if first.required > first.bytes.length then
    let all ← ExceptT.mk (s.call (.fetchUtf8Bytes oop 1 first.required))
    return Utf8.decodeLossy all.bytes
  else return Utf8.decodeLossy first.bytes

def fetchAllOops (s : Session) (oop : Oop) : Attempt (List Oop) := do
  let size ← s.request (s.call (.fetchSize oop))
  if size ≤ 0 then return []
  else ExceptT.mk (s.call (.fetchOops oop 1 size.toNat))

/-- `count` slots from the 1-based index `start` on. -/
def fetchOops (s : Session) (oop : Oop) (start : Int) (count : Nat) : Attempt (List Oop) :=
  if count = 0 then pure [] else s.request (s.call (.fetchOops oop start count))

def fetchStrings (s : Session) : List Oop → Attempt (List String)
  | [] => return []
  | oop :: rest => do
    let text ← s.fetchString oop
    let texts ← s.fetchStrings rest
    return text :: texts

def fetchStringArray (s : Session) (array : Oop) : Attempt (List String) := do
  if array.isNil then return []
  else
    let oops ← s.fetchAllOops array
    s.fetchStrings oops

def fetchObjectInfo (s : Session) (oop : Oop) : Attempt ObjectInfo :=
  s.request (s.call (.fetchObjectInfo oop))

/-! ## Processes -/

def clearStack (s : Session) (process : Oop) : Attempt Unit :=
  s.request (s.call (.clearStack process))

def continueProcess (s : Session) (process : Oop) : Attempt Oop :=
  s.request (s.call (.continueWith process .illegal 0))

/-- Clears the suspended process that a failed evaluation has left, if there is one. -/
def discardError (s : Session) (error : CallError) : Act Unit := do
  match error.process? with
  | none => pure ()
  | some process =>
    let cleared ← s.clearStack process
    discard <| warnOn "discard suspended process: " CallError.message cleared

/-! ## Methods -/

/-- Compiles a method. The suspended process of a compile error is cleared. -/
def compileMethod (s : Session) (cls : Oop) (source category : String) (env : Nat) :
    Attempt Oop := do
  let sourceOop ← s.newSourceString source
  let category ← s.newSymbol category
  let compiled : Except CallError Oop ←
    (s.request (s.call (.compileMethod { source := sourceOop, cls, category, env }))).run
  match compiled with
  | .ok method => return method
  | .error e =>
    s.discardError e
    throw e

def removeAllMethods (s : Session) (cls : Oop) : Attempt Unit := do
  discard (s.perform cls "removeAllMethods" [])

def compiledMethodAt (s : Session) (cls : Oop) (selector : String) (env : Nat) : Attempt Oop := do
  let selector ← s.newSymbol selector
  s.perform cls "compiledMethodAt:environmentId:otherwise:" [selector, .ofSmallInt env, .nil]

/-! ## Traversals -/

def pageReports (buffer : TraversalBuffer) (page : Page) : Except CallError (List ObjectReport) :=
  (buffer.overlay page.written).reports.mapError .traversal

/-- Follows the pages of a traversal until one is the last. A page that is not the last and holds no
report means that the next object does not fit; `none` when this many pages do not reach the end. -/
def followPages (s : Session) (capacity : Nat) :
    (pages : Nat) → (seen : List ObjectReport) → TraversalStatus → List ObjectReport →
      Attempt (Option (List ObjectReport))
  | _, seen, .complete, reports => return some (seen ++ reports)
  | pages, seen, .more, reports =>
    if reports.isEmpty then throw (.traversal (.emptyPage capacity))
    else
      match pages with
      | 0 => return none
      | pages + 1 => do
        let buffer := TraversalBuffer.withCapacity capacity
        let page ← ExceptT.mk (s.call (.moreTraversal buffer))
        let next ← ExceptT.mk (pure (pageReports buffer page))
        s.followPages capacity pages (seen ++ reports) page.status next

/-- All reports of a traversal that starts from `oops`; `none` for one that never completes. -/
def fetchTraversal (s : Session) (oops : List Oop) (args : TraversalArgs) :
    Attempt (Option (List ObjectReport)) := do
  s.ensureIdle
  let capacity := args.bufferSize.toNat
  let buffer := TraversalBuffer.withCapacity capacity
  let page ← ExceptT.mk (s.call (.fetchTraversal oops args buffer))
  let reports ← ExceptT.mk (pure (pageReports buffer page))
  s.followPages capacity (← get).horizon [] page.status reports

def storeTraversal (s : Session) (reports : List ObjectReport) (flags : Int) : Attempt Unit := do
  s.ensureIdle
  let packed := TraversalBuffer.ofReports reports (Traversal.packedSize reports)
  let buffer ← ExceptT.mk (pure (packed.mapError .traversal))
  ExceptT.mk (s.call (.storeTraversal buffer flags))

end Session

end StoneDebug
