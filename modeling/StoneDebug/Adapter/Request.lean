import StoneDebug.Config
import StoneDebug.Debug.Basic

/-! # Requests

What a client of the debug adapter asks for. A request is read in two steps: its envelope, without
which it cannot be answered, and then its arguments, which depend on the command.
-/

namespace StoneDebug.Adapter

open Json

structure Envelope where
  seq : Int
  kind : String
  command : String
  arguments : Json

def Envelope.ofJson? (j : Json) : Option Envelope := do
  match ← slots ["seq", "type", "command", "arguments"] j with
  | [seq, kind, command, arguments] =>
    return {
      seq := ← seq.required int?
      kind := ← kind.required string?
      command := ← command.required string?
      arguments := ← arguments.defaulted some .null }
  | _ => none

/-! ## Arguments -/

def word32? : Json → Option Nat := nat? UInt32.size

def word64? : Json → Option Nat := nat? UInt64.size

/-- Settings that are not given are empty. -/
def loginSettings? (j : Json) : Option LoginSettings := do
  match ← slots ["stone", "gem", "username", "password", "host_username", "host_password"] j with
  | [stone, gem, username, password, hostUsername, hostPassword] =>
    let text? (j : Json) : Option (Option String) :=
      match j with
      | .null => some none
      | j => (string? j).map some
    return {
      stone := ← stone.defaulted string? ""
      gem := ← gem.defaulted string? ""
      username := ← username.defaulted string? ""
      password := ← password.defaulted string? ""
      hostUsername := ← hostUsername.defaulted text? none
      hostPassword := ← hostPassword.defaulted text? none }
  | _ => none

structure LaunchArguments where
  expression : String
  login : LoginSettings := {}
  /-- Whether a process that fails stays suspended for the client. -/
  stopOnError : Bool := true
  /-- Whether log records are shown to the client. -/
  logToClient : Bool := false

def launchArguments? (j : Json) : Option LaunchArguments := do
  match ← slots ["expression", "login", "stopOnError", "logToClient"] j with
  | [expression, login, stopOnError, logToClient] =>
    return {
      expression := ← expression.required string?
      login := ← login.defaulted loginSettings? {}
      stopOnError := ← stopOnError.defaulted bool? true
      logToClient := ← logToClient.defaulted bool? false }
  | _ => none

structure AttachArguments where
  sessionId : Nat
  process : Oop
  message : String

def attachArguments? (j : Json) : Option AttachArguments := do
  match ← slots ["sessionId", "process", "message"] j with
  | [sessionId, process, message] =>
    return {
      sessionId := ← sessionId.required word32?
      process := .ofNat (← process.required word64?)
      message := ← message.defaulted string? "" }
  | _ => none

/-- The first level asked for, and how many. Levels are counted from 0 in the request. -/
def stackTraceArguments? (j : Json) : Option (Level × Option UInt32) := do
  match ← slots ["startFrame", "levels"] j with
  | [start, levels] =>
    let start ← start.defaulted word32? 0
    let levels ← levels.optional word32?
    return (.ofNat (start + 1), levels.map .ofNat)
  | _ => none

def frameArguments? (j : Json) : Option Level := do
  match ← slots ["frameId"] j with
  | [frame] => return .ofNat (← frame.required word32?)
  | _ => none

/-- A handle and a window, which is not bounded by a count of 0. -/
def variablesArguments? (j : Json) : Option (Int × Window) := do
  match ← slots ["variablesReference", "start", "count"] j with
  | [reference, start, count] =>
    let reference ← reference.required int?
    let start ← start.defaulted word64? 0
    let count ← count.optional word64?
    return (reference, { start, count := count.filter fun n => 0 < n })
  | _ => none

structure DocumentName where
  path : Option String := none
  reference : Option Int := none

def documentName? (j : Json) : Option DocumentName := do
  match ← slots ["path", "sourceReference"] j with
  | [path, reference] =>
    return { path := ← path.optional string?, reference := ← reference.optional int? }
  | _ => none

/-- The source reference asked for, which may stand in two places. -/
def sourceArguments? (j : Json) : Option (Option Int) := do
  match ← slots ["sourceReference", "source"] j with
  | [reference, source] =>
    let reference ← reference.optional int?
    let source ← source.defaulted documentName? {}
    return reference.or source.reference
  | _ => none

def evaluateArguments? (j : Json) : Option (String × Level) := do
  match ← slots ["expression", "frameId"] j with
  | [expression, frame] =>
    let expression ← expression.required string?
    let frame ← frame.optional word32?
    return (expression, .ofNat (frame.getD 1))
  | _ => none

def breakpointLine? (j : Json) : Option Int := do
  match ← slots ["line"] j with
  | [line] => line.required int?
  | _ => none

def setBreakpointsArguments? (j : Json) : Option (Option String × List Int) := do
  match ← slots ["source", "breakpoints"] j with
  | [source, breakpoints] =>
    let source ← source.required documentName?
    let lines ← breakpoints.defaulted (list? breakpointLine?) []
    return (source.path, lines)
  | _ => none

/-- A document with the first and last line asked for; a single line without a last one. -/
def breakpointLocationsArguments? (j : Json) : Option (Option String × Nat × Nat) := do
  match ← slots ["source", "line", "endLine"] j with
  | [source, line, endLine] =>
    let source ← source.required documentName?
    let line ← line.required word32?
    let endLine ← endLine.optional word32?
    return (source.path, line, endLine.getD line)
  | _ => none

/-! ## Commands -/

inductive Command where
  | introduce
  | launch (arguments : LaunchArguments)
  | attach (arguments : AttachArguments)
  | configurationDone
  | threads
  | stackTrace (start : Level) (levels : Option UInt32)
  | scopes (level : Level)
  | expand (reference : Int) (window : Window)
  | source (reference : Int)
  | step (kind : StepKind)
  | resume
  | evaluate (expression : String) (level : Level)
  | restartFrame (level : Level)
  | setBreakpoints (path : String) (lines : List Int)
  | breakpointLocations (path : String) (first last : Nat)
  | terminate
  | disconnect

inductive BadRequest where
  | unsupported (command : String)
  | badArguments (command : String)
  | noSourceReference
  | noPath (command : String)
deriving Repr, DecidableEq

/-- A client also reads, after `invalid arguments`, what is wrong with them in the words of the JSON
library. These words are left out here. -/
def BadRequest.message : BadRequest → String
  | .unsupported command => "Unsupported DAP command: " ++ command
  | .badArguments command => command ++ ": invalid arguments"
  | .noSourceReference => "source: sourceReference is required"
  | .noPath command => command ++ ": source path is required"

/-- The command of an envelope. Arguments that are null stand for none at all, and commands without
arguments ignore what is there. -/
def Command.ofEnvelope (e : Envelope) : Except BadRequest Command :=
  let arguments := match e.arguments with
    | .null => .object []
    | j => j
  let read {α : Type} (read? : Json → Option α) : Except BadRequest α :=
    match read? arguments with
    | some a => .ok a
    | none => .error (.badArguments e.command)
  let withPath (path : Option String) : Except BadRequest String :=
    match path with
    | some path => .ok path
    | none => .error (.noPath e.command)
  match e.command with
  | "initialize" => .ok .introduce
  | "launch" => (read launchArguments?).map .launch
  | "attach" => (read attachArguments?).map .attach
  | "configurationDone" => .ok .configurationDone
  | "threads" => .ok .threads
  | "stackTrace" => (read stackTraceArguments?).map fun (start, levels) => .stackTrace start levels
  | "scopes" => (read frameArguments?).map .scopes
  | "variables" => (read variablesArguments?).map fun (reference, window) => .expand reference window
  | "source" => do
    match ← read sourceArguments? with
    | some reference => .ok (.source reference)
    | none => .error .noSourceReference
  | "next" => .ok (.step .overSends)
  | "stepIn" => .ok (.step .intoSends)
  | "stepOut" => .ok (.step .intoBlocks)
  | "continue" => .ok .resume
  | "evaluate" => (read evaluateArguments?).map fun (expression, level) => .evaluate expression level
  | "restartFrame" => (read frameArguments?).map .restartFrame
  | "setBreakpoints" => do
    let (path, lines) ← read setBreakpointsArguments?
    return .setBreakpoints (← withPath path) lines
  | "breakpointLocations" => do
    let (path, first, last) ← read breakpointLocationsArguments?
    return .breakpointLocations (← withPath path) first last
  | "terminate" => .ok .terminate
  | "disconnect" => .ok .disconnect
  | command => .error (.unsupported command)

end StoneDebug.Adapter
