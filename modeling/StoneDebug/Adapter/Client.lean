import StoneDebug.Adapter.Message
import StoneDebug.Adapter.Request
import StoneDebug.Adapter.Wire
import StoneDebug.Debug.Process

/-! # Clients

A client of the debug adapter owns one debug session and the VM session that its launch request logs
in. Requests are handled one after the other: each is answered, then the events that it has caused are
written. Only requests to end a running evaluation are answered while it runs.
-/

namespace StoneDebug.Adapter

/-- A breakpoint requested before there was a session to set it in. -/
structure PendingBreakpoint where
  id : Nat
  line : Int
deriving Repr, DecidableEq

structure Client where
  debug : DebugSession := {}
  /-- What launch requests lay their own settings over. -/
  login : LoginSettings := {}
  poll : PollConfig := {}
  /-- By document, in the order of their first request. -/
  pending : List (String × List PendingBreakpoint) := []
  nextBreakpoint : Nat := 1
  /-- The session logged in by a launch request. -/
  launched : Option Nat := none
  logToClient : Bool := false
  /-- Whether the end of the process has been told, which is done once. -/
  terminated : Bool := false
  /-- Names the evaluation of the launch request in progress events. -/
  progressId : String := ""
  /-- The seconds told by the last progress event. -/
  seconds : Nat := 0
  nextSeq : Nat := 1
  /-- The messages written, with their numbers. -/
  wire : List (Nat × Message) := []
  /-- The messages read, whether they are requests or not. -/
  received : List Json := []

abbrev Serving := StateT Client Act

inductive RequestError where
  | bad (cause : BadRequest)
  | alreadyLaunched
  | login (cause : CallError)
  | debug (cause : DebugError)
deriving Repr, DecidableEq

def RequestError.message : RequestError → String
  | .bad cause => cause.message
  | .alreadyLaunched => "launch: already launched"
  | .login cause => "login: " ++ cause.message
  | .debug cause => cause.message

abbrev Handling := ExceptT RequestError Serving

inductive Next where
  | proceed
  /-- The client has left. -/
  | leave
  /-- The client waits for an evaluation that does not end. -/
  | wait
deriving Repr, DecidableEq

namespace Client

/-! ## Writing -/

def send (message : Message) : Serving Unit :=
  modify fun c => { c with wire := c.wire ++ [(c.nextSeq, message)], nextSeq := c.nextSeq + 1 }

/-- Writes what happened while a call was running. Progress is told once a second. -/
def sendAside : Aside → Serving Unit
  | .progress (.start title) => do send (.progressStart (← get).progressId title)
  | .progress (.update elapsed) => do
    let seconds := elapsed / 1000000
    let c ← get
    if seconds ≠ c.seconds then
      modify fun c => { c with seconds }
      send (.progressUpdate c.progressId seconds)
  | .progress .finish => do send (.progressEnd (← get).progressId)
  | .answered request pause accepted =>
    send (.response request (if pause then "pause" else "cancel") accepted
      (if accepted then none else some "nothing is running") none)

def sendAsides : List Aside → Serving Unit
  | [] => pure ()
  | a :: rest => do
    sendAside a
    sendAsides rest

def flush : Serving Unit := do
  let asides := (← getThe World).asides
  modifyThe World fun w => { w with asides := [] }
  sendAsides asides

/-- Writes a message after all that happened before it. -/
def write (message : Message) : Serving Unit := do
  flush
  send message

/-- Writes an event. The end of the process is told once to each client. -/
def writeEvent (e : Event) : Serving Unit := do
  match e with
  | .terminated =>
    if !(← get).terminated then
      modify fun c => { c with terminated := true }
      write (.ofEvent e)
  | _ => write (.ofEvent e)

def writeEvents : List Event → Serving Unit
  | [] => pure ()
  | e :: rest => do
    writeEvent e
    writeEvents rest

def drainEvents : Serving Unit := do
  let (waiting, queue) := (← getThe World).queue.take
  modifyThe World fun w => { w with queue }
  writeEvents waiting

def respond (e : Envelope) (body : Option Json) : Serving Unit :=
  write (.response e.seq e.command true none body)

def refuse (e : Envelope) (message : String) : Serving Unit :=
  write (.response e.seq e.command false (some message) none)

/-! ## The debug session -/

def debugging {α : Type} (operation : Debugging α) : Serving α := do
  let (a, debug) ← (operation.run (← get).debug : Act _)
  modify fun c => { c with debug }
  return a

def onDebug {α : Type} (operation : Debug α) : Handling α := ExceptT.mk do
  let result ← debugging operation.run
  return result.mapError .debug

/-- Releases the debug session, the launched session and the log. -/
def close : Serving Unit := do
  debugging Debug.disconnect
  match (← get).launched with
  | none => pure ()
  | some id =>
    modify fun c => { c with launched := none }
    let result ← ((Registry.logout id).run : Act _)
    discard <| warnOn "logout: " CallError.message result
  if (← get).logToClient then
    modify fun c => { c with logToClient := false }
    modifyThe World fun w => { w with queue := { w.queue with listening := none } }

/-! ## Breakpoints -/

def breakpointId : Serving Nat := do
  let id := (← get).nextBreakpoint
  modify fun c => { c with nextBreakpoint := id + 1 }
  return id

def number {α : Type} : List α → Serving (List (Nat × α))
  | [] => return []
  | a :: rest => do
    let id ← breakpointId
    let numbered ← number rest
    return (id, a) :: numbered

/-- Keeps requested breakpoints in place of those kept for the document before. -/
def keepPending (path : String) (breakpoints : List PendingBreakpoint) :
    List (String × List PendingBreakpoint) → List (String × List PendingBreakpoint)
  | [] => [(path, breakpoints)]
  | (p, bs) :: rest =>
    if p = path then (path, breakpoints) :: rest else (p, bs) :: keepPending path breakpoints rest

/-- Breakpoints for a document, kept until there is a session to set them in. -/
def setBreakpoints (path : String) (lines : List Int) : Serving (List (Nat × BreakpointView)) := do
  if (← get).debug.session.isNone then
    let numbered ← number lines
    modify fun c => { c with
      pending := keepPending path (numbered.map fun (id, line) => ⟨id, line⟩) c.pending }
    return numbered.map fun (id, line) => (id, .unverified line "pending until login")
  else
    match ← debugging (Debug.setBreakpoints path lines).run with
    | .ok views => number views
    | .error e =>
      logRecord .warn "dap" (s!"breakpoints of {path}: " ++ e.message)
      number (Debug.unverifiedAll lines e.message)

def tellChanged : List PendingBreakpoint → List BreakpointView → Act Unit
  | b :: breakpoints, view :: views => do
    pushEvent (.breakpointChanged b.id view)
    tellChanged breakpoints views
  | _, _ => pure ()

def applyEach : List (String × List PendingBreakpoint) → Serving Unit
  | [] => pure ()
  | (path, breakpoints) :: rest => do
    let lines := breakpoints.map PendingBreakpoint.line
    match ← debugging (Debug.noted .warn "pending breakpoints: " (Debug.setBreakpoints path lines)) with
    | none => pure ()
    | some views => tellChanged breakpoints views
    applyEach rest

/-- Sets the breakpoints that were requested before there was a session. -/
def applyPending : Serving Unit := do
  let pending := (← get).pending
  modify fun c => { c with pending := [] }
  applyEach pending

/-! ## Launching -/

def cancelledText (drained : Bool) : String :=
  if drained then "execution cancelled\n"
  else "execution cancelled, the session is busy until the call finishes\n"

/-- Tells the end of an evaluation. A process that has failed stays suspended if it is wanted. -/
def tellOutcome (s : Session) (stopOnError : Bool) : Outcome → Handling Unit
  | .ready result => do
    let printed := match ← ((s.printString result).run : Act _) with
      | .ok text => text
      | .error e => "<error: " ++ e.message ++ ">"
    pushEvent (.output .stdout (printed ++ "\n"))
    pushEvent .terminated
  | .failed e => do
    match e.process?, stopOnError with
    | some process, true => onDebug (Debug.attachSession s process e.message)
    | _, _ =>
      s.discardError e
      pushEvent (.output .stderr (e.message ++ "\n"))
      pushEvent .terminated
  | .cancelled drained => do
    pushEvent (.output .console (cancelledText drained))
    pushEvent .terminated

def runExpression (s : Session) (expression : String) (stopOnError : Bool) : Handling Next := do
  modifyThe World fun w => { w with token := w.token.reset, running := true }
  let poll := (← get).poll
  let result ← ((s.runSource poll expression).run : Act _)
  match result with
  | .ok none => return .wait
  | .ok (some outcome) =>
    modifyThe World fun w => { w with running := false }
    tellOutcome s stopOnError outcome
    return .proceed
  | .error e =>
    modifyThe World fun w => { w with running := false }
    throw (.debug (.call e))

/-- Logs in, answers, and evaluates the expression. The first launch decides about the log. -/
def launch (e : Envelope) (a : LaunchArguments) : Handling Next := do
  if (← get).launched.isSome then throw .alreadyLaunched
  if a.logToClient && !(← get).logToClient then
    modify fun c => { c with logToClient := true }
    modifyThe World fun w => { w with queue := { w.queue with listening := some .info } }
  let settings := (← get).login.merge a.login
  let result ← ((Registry.login settings.params).run : Act _)
  match result with
  | .error cause => throw (.login cause)
  | .ok s =>
    modify fun c => { c with launched := some s.id }
    ExceptT.lift (debugging (Debug.bind s))
    applyPending
    respond e none
    drainEvents
    runExpression s a.expression a.stopOnError

/-! ## Requests -/

/-- Ends the debug session. A client without a process is told as well. -/
def terminate : Serving Unit := do
  let attached := (← get).debug.process.isSome
  debugging Debug.terminate
  if !attached then pushEvent .terminated

/-- The body of the answer to a request that is answered once it has been carried out. -/
def answer : Command → Handling (Option Json)
  | .attach a => do
    onDebug (Debug.attach a.sessionId a.process a.message)
    applyPending
    return none
  | .threads => return some (threadsBody (← get).debug.process)
  | .stackTrace start levels => do
    let (frames, depth) ← onDebug (Debug.stackTrace start levels)
    return some (stackTraceBody frames depth)
  | .scopes level => do
    let scopes ← onDebug (Debug.scopes level)
    return some (.object [("scopes", .list scopes scopeJson)])
  | .expand reference window => do
    let views ← onDebug (Debug.expand reference window)
    return some (.object [("variables", .list views variableJson)])
  | .source reference => do
    let text ← onDebug (Debug.source reference)
    return some (.object [("content", .string text)])
  | .step kind => do
    onDebug (Debug.step kind 1)
    return none
  | .resume => do
    onDebug Debug.continueExecution
    return some (.object [("allThreadsContinued", .bool true)])
  | .evaluate expression level => do
    let result ← ExceptT.lift (debugging (Debug.evaluate level expression))
    return some (.object [("result", .string result), ("variablesReference", .nat 0)])
  | .restartFrame level => do
    onDebug (Debug.restartFrame level)
    return none
  | .setBreakpoints path lines => do
    let breakpoints ← setBreakpoints path lines
    return some (.object [("breakpoints", .list breakpoints fun (id, v) => breakpointJson id v)])
  | .breakpointLocations path first last => do
    let locations ← onDebug (Debug.breakpointLocations path first last)
    return some (.object [("breakpoints", .list locations locationJson)])
  | .terminate => do
    terminate
    return none
  | .disconnect => do
    close
    return none
  | .introduce | .launch _ | .configurationDone => return none

def dispatch (e : Envelope) (command : Command) : Handling Next := do
  match command with
  | .launch a => launch e a
  | .introduce =>
    respond e (some capabilities)
    write (.event "initialized" none)
    return .proceed
  | .disconnect =>
    let body ← answer command
    respond e body
    return .leave
  | _ =>
    let body ← answer command
    respond e body
    return .proceed

def perform (e : Envelope) : Handling Next := do
  let command ← ExceptT.mk (pure ((Command.ofEnvelope e).mapError .bad))
  dispatch e command

/-- Handles a request: a failure is answered too, and then the events follow. -/
def handle (e : Envelope) : Serving Next := do
  let next ← match ← (perform e).run with
    | .ok next => pure next
    | .error cause =>
      refuse e cause.message
      pure .proceed
  if next ≠ .wait then drainEvents
  flush
  return next

def handleInterjection (e : Envelope) : Serving Unit := do
  interject (.request e.seq (e.command == "pause"))
  flush

/-- Handles a message of the client; what is no request is skipped. -/
def receive (message : Json) : Serving Next := do
  modify fun c => { c with received := c.received ++ [message] }
  match Envelope.ofJson? message with
  | none =>
    -- The log also has the fault in the words of the JSON library, which are left out here.
    logRecord .warn "dap" "malformed message"
    return .proceed
  | some e =>
    if e.kind != "request" then
      logRecord .debug "dap" ("skip message of type " ++ e.kind)
      return .proceed
    else if e.command == "cancel" || e.command == "pause" then
      handleInterjection e
      return .proceed
    else handle e

/-- Handles messages until the client leaves or sends no more; then everything is released. -/
def serve : List Json → Serving Unit
  | [] => close
  | message :: rest => do
    match ← receive message with
    | .proceed => serve rest
    | .leave => close
    | .wait => pure ()

def serveBytes (bytes : Text.Utf8.Bytes) : Serving Unit := serve (readMessages bytes).1

end Client

end StoneDebug.Adapter
