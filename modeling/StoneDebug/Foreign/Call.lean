import StoneDebug.Remote

/-! # Calls of the C interface

How a remote call is put to the VM's C library: the function that is called and its arguments by the
names of its parameters. A text with a NUL in it and a list that a C `int` cannot count are refused
before anything is called.
-/

namespace StoneDebug.Foreign

open Text

inductive Argument where
  | word (oop : Oop)
  | words (oops : List Oop)
  | int (value : Int)
  | double (value : Binary64)
  /-- A text, which C ends with a NUL. -/
  | text (value : String)
  | null
  | bytes (value : List UInt8)
  | flag (value : Bool)
deriving Repr, DecidableEq

structure ForeignCall where
  function : String
  arguments : List (String × Argument)
deriving Repr, DecidableEq

def text (s : String) : Except BadArgument Argument :=
  if s.toList.contains '\x00' then .error (.interiorNul s) else .ok (.text s)

/-- A text, or a null pointer in place of one. -/
def optionalText : Option String → Except BadArgument Argument
  | none => .ok .null
  | some s => text s

/-- Numbers up to this one fit a C `int`. -/
def maxInt : Nat := 0x7fffffff

def count {α : Type} (args : List α) : Except BadArgument Argument :=
  if args.length ≤ maxInt then .ok (.int args.length) else .error (.tooManyArguments args.length)

def capacity (n : Nat) : Except BadArgument Argument :=
  if n ≤ maxInt then .ok (.int n) else .error (.countTooLarge n)

def boolean (b : Bool) : Argument := .int (if b then 1 else 0)

/-- The bytes that a version text may take with the NUL at its end. -/
def versionCapacity : Nat := 256

def executionArguments (r : Execution) : List (String × Argument) :=
  [("class", .word r.sourceClass), ("context", .word r.context), ("symbols", .word r.symbolList)]

def flagArguments (flags : Int) (env : Nat) : List (String × Argument) :=
  [("flags", .int flags), ("env", .int env)]

/-- The illegal reference in place of the selector says that the selector is a text. -/
def sendArguments (s : Send) : Except BadArgument (List (String × Argument)) := do
  let selector ← text s.selector
  let n ← count s.args
  return [("receiver", .word s.receiver), ("symbol", .word .illegal), ("selector", selector),
    ("args", .words s.args), ("count", n)] ++ flagArguments s.flags s.env

def prepare : Call → Except BadArgument ForeignCall
  | .version => .ok ⟨"GciTsVersion", [("size", .int versionCapacity)]⟩
  | .login p => do
    let stone ← text p.stone
    let gem ← text p.gem
    let user ← text p.username
    let password ← text p.password
    let hostUser ← optionalText p.hostUsername
    let hostPassword ← optionalText p.hostPassword
    return ⟨"GciTsLogin",
      [("stone", stone), ("host_user", hostUser), ("host_password", hostPassword),
       ("encrypted", .int 0), ("gem", gem), ("user", user), ("password", password),
       ("flags", .int p.flags), ("halt", .int 0)]⟩
  | .logout => .ok ⟨"GciTsLogout", []⟩
  | .abort => .ok ⟨"GciTsAbort", []⟩
  | .beginTransaction => .ok ⟨"GciTsBegin", []⟩
  | .commit => .ok ⟨"GciTsCommit", []⟩
  | .resolveSymbol name symbols => do
    let name ← text name
    return ⟨"GciTsResolveSymbol", [("name", name), ("symbols", .word symbols)]⟩
  | .execute r => do
    let source ← text r.source
    return ⟨"GciTsExecute",
      ("source", source) :: executionArguments r ++ flagArguments r.flags r.env⟩
  | .nbExecute r => do
    let source ← text r.source
    return ⟨"GciTsNbExecute",
      ("source", source) :: executionArguments r ++ flagArguments r.flags r.env⟩
  | .executeFetchBytes r max => do
    let source ← text r.source
    return ⟨"GciTsExecuteFetchBytes",
      ("source", source) :: ("len", .int r.source.utf8ByteSize) :: executionArguments r ++
        [("cap", .int max)]⟩
  | .perform s => do return ⟨"GciTsPerform", ← sendArguments s⟩
  | .nbPerform s => do return ⟨"GciTsNbPerform", ← sendArguments s⟩
  | .performFetchBytes s max => do
    let selector ← text s.selector
    let n ← count s.args
    return ⟨"GciTsPerformFetchBytes",
      [("receiver", .word s.receiver), ("selector", selector), ("args", .words s.args),
       ("count", n), ("cap", .int max)]⟩
  | .compileMethod r => .ok ⟨"GciTsCompileMethod",
      [("source", .word r.source), ("class", .word r.cls), ("category", .word r.category),
       ("symbols", .word r.symbolList), ("selector", .word r.overrideSelector)] ++
        flagArguments r.flags r.env⟩
  | .nbPoll timeout => .ok ⟨"GciTsNbPoll", [("timeout", .int timeout)]⟩
  | .nbResult => .ok ⟨"GciTsNbResult", []⟩
  | .interrupt hard => .ok ⟨"GciTsBreak", [("hard", boolean hard)]⟩
  | .clearStack process => .ok ⟨"GciTsClearStack", [("process", .word process)]⟩
  | .continueWith process replace flags => .ok ⟨"GciTsContinueWith",
      [("process", .word process), ("replace", .word replace), ("error", .flag true),
       ("flags", .int flags)]⟩
  | .fetchClass oop => .ok ⟨"GciTsFetchClass", [("oop", .word oop)]⟩
  | .fetchSize oop => .ok ⟨"GciTsFetchSize", [("oop", .word oop)]⟩
  | .fetchVaryingSize oop => .ok ⟨"GciTsFetchVaryingSize", [("oop", .word oop)]⟩
  | .fetchObjectInfo oop => .ok ⟨"GciTsFetchObjInfo",
      [("oop", .word oop), ("read_only", .int 0), ("buffer", .flag false), ("cap", .int 0)]⟩
  | .fetchBytes oop start max => .ok ⟨"GciTsFetchBytes",
      [("oop", .word oop), ("start", .int start), ("cap", .int max)]⟩
  | .fetchUtf8Bytes oop start max => .ok ⟨"GciTsFetchUtf8Bytes",
      [("oop", .word oop), ("start", .int start), ("cap", .int max), ("string", .word .nil),
       ("flags", .int 0)]⟩
  | .storeBytes oop start bytes cls => .ok ⟨"GciTsStoreBytes",
      [("oop", .word oop), ("start", .int start), ("bytes", .bytes bytes),
       ("count", .int bytes.length), ("class", .word cls)]⟩
  | .fetchOops oop start n => do
    let n ← capacity n
    return ⟨"GciTsFetchOops", [("oop", .word oop), ("start", .int start), ("count", n)]⟩
  | .storeOops oop start values overlay => do
    let n ← count values
    return ⟨"GciTsStoreOops",
      [("oop", .word oop), ("start", .int start), ("values", .words values), ("count", n),
       ("overlay", boolean overlay)]⟩
  | .newObject cls => .ok ⟨"GciTsNewObj", [("class", .word cls)]⟩
  | .newString s => do
    let string ← text s
    return ⟨"GciTsNewString_", [("string", string), ("len", .int s.utf8ByteSize)]⟩
  | .newSymbol s => do
    let string ← text s
    return ⟨"GciTsNewSymbol", [("string", string)]⟩
  | .intToOop i => .ok ⟨"GciTsI64ToOop", [("v", .int i)]⟩
  | .oopToInt oop => .ok ⟨"GciTsOopToI64", [("oop", .word oop)]⟩
  | .doubleToOop d => .ok ⟨"GciTsDoubleToOop", [("v", .double d)]⟩
  | .oopToDouble oop => .ok ⟨"GciTsOopToDouble", [("oop", .word oop)]⟩
  | .fetchTraversal oops a buffer => do
    discard (count oops)
    return ⟨"GciTsFetchTraversal",
      [("oops", .words oops), ("clamp", .word a.clampSpec), ("result", .word a.resultOop),
       ("size", .int a.bufferSize), ("level", .int a.level), ("flags", .int a.retrievalFlags),
       ("rpc", boolean a.isRpc), ("cap", .int buffer.allocated)]⟩
  | .moreTraversal buffer => .ok ⟨"GciTsMoreTraversal", [("cap", .int buffer.allocated)]⟩
  | .storeTraversal buffer flags =>
    -- Only the address is passed: the library learns the size of the buffer from its header.
    let told := buffer.front (Traversal.headerSize + buffer.allocated)
    .ok ⟨"GciTsStoreTrav", [("hex", .bytes told), ("flags", .int flags)]⟩

end StoneDebug.Foreign
