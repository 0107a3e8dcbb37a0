import StoneDebug.Debug.Method

/-! # The suspended process

Its stack, what can be unfolded in it, and letting it run up to its end or to the next error. What
cannot be described, a level or an entry, is still listed.
-/

namespace StoneDebug.Debug

open Source

/-! ## Stacks -/

def levelOop (level : Level) : Oop := .ofInt32 level.toInt32

/-- How many levels the stack has; a negative answer counts as none. -/
def stackDepth : Debug UInt32 := do
  let process ← suspended
  let s ← session
  let depth ← remote (s.perform process "stackDepth" [])
  let depth ← value (depth.expectInt.mapError .call)
  return UInt32.ofNat depth.toNat

/-- The contents of a stack level, fetched once while the process is stopped. -/
def frame (level : Level) : Debug Frame := do
  match (← get).frames.lookup level with
  | some frame => return frame
  | none =>
    let process ← suspended
    let s ← session
    if level = 0 then throw (.frameNotFound level)
    let array ← remote (s.perform process "_frameContentsAt:" [levelOop level])
    if array.isNil then throw (.frameNotFound level)
    let oops ← remote (s.fetchAllOops array)
    let frame ← value (Frame.ofOops oops)
    modify fun d => { d with frames := (level, frame) :: d.frames }
    return frame

/-- Stands for a method that has no class, such as evaluated source. -/
def executedCode : String := "Executed Code"

def frameLine (level : Level) (frame : Frame) : Debug Nat := do
  let s ← session
  let ip := (Oop.ofInt? frame.ip).getD .nil
  let step ← remote
    (s.perform frame.method "_stepPointForIp:level:useNext:" [ip, levelOop level, .false])
  let step ← value (step.expectInt.mapError .call)
  let source ← sourceOf s frame.method
  return source.lineOfStepPoint step

def frameView (level : Level) (frame : Frame) : Debugging FrameView := do
  let sourceRef ← sourceReference frame.method
  let label ← noted .debug "method label: " (methodLabel frame.method)
  let line ← noted .debug "frame line: " (frameLine level frame)
  return { level, name := label.getD executedCode, sourceRef, line := line.getD 1, column := 1,
           method := frame.method }

/-- A stack level as it is shown; nil stands for the method of a level that cannot be read. -/
def describeLevel (level : Level) : Debugging FrameView := do
  match ← noted .warn s!"frame {level}: " (frame level) with
  | some frame => frameView level frame
  | none =>
    let sourceRef ← sourceReference .nil
    return { level, name := executedCode, sourceRef, line := 1, column := 1, method := .nil }

def describeLevels : List Level → Debugging (List FrameView)
  | [] => return []
  | level :: rest => do
    let view ← describeLevel level
    let views ← describeLevels rest
    return view :: views

/-- The levels from `start` on, counted from 1: so many of them, or all for none or zero. Where the
last one is a number of more than 32 bits, its upper bits are lost. -/
def levelRange (start : Level) (count : Option UInt32) (depth : UInt32) : List Level :=
  let first := max start 1
  let last := match count with
    | some n => if 0 < n then min (first + n - 1) depth else depth
    | none => depth
  (List.range' first.toNat (last.toNat + 1 - first.toNat)).map UInt32.ofNat

def stackTrace (start : Level) (count : Option UInt32) : Debug (List FrameView × UInt32) := do
  let depth ← stackDepth
  let views ← describeLevels (levelRange start count depth)
  return (views, depth)

/-! ## Scopes and variables

A stack level has two scopes, its locals and its receiver. What a scope or a value unfolds to is asked
for by handle.
-/

def handleOf (r : VarRef) : Debugging Nat := do
  let (handle, handles) := (← get).handles.number r
  modify fun d => { d with handles }
  return handle

def scopes (level : Level) : Debug (List ScopeView) := do
  let frame ← frame level
  let locals ← handleOf (.frameLocals level)
  let receiver ← handleOf (.receiver frame.receiver)
  return [⟨"Locals", locals, frame.locals.length⟩, ⟨"Receiver", receiver, 1⟩]

/-- Slots of the indexed part are numbered from 1. -/
def nameIndexed (start : Nat) (values : List Oop) : List (String × Oop) :=
  (values.zipIdx (start + 1)).map fun (value, i) => (s!"[{i}]", value)

/-- The names and values that a variable reference unfolds to. -/
def entries (s : Session) (window : Window) : VarRef → Debug (List (String × Oop))
  | .frameLocals level => do
    let frame ← frame level
    let names ← noted .warn "local names: " (remote (s.fetchStringArray frame.names))
    return nameLocals (names.getD []) frame.locals
  | .receiver oop => return [("self", oop)]
  | .named oop => do
    let cls ← remote (s.classOf oop)
    let array ← remote (s.perform cls "allInstVarNames" [])
    let names ← remote (s.fetchStringArray array)
    let info ← remote (s.fetchObjectInfo oop)
    let values ← remote (s.fetchOops oop 1 info.namedSize.toNatClampNeg)
    return nameLocals names values
  | .indexed oop size => do
    let info ← remote (s.fetchObjectInfo oop)
    let (start, count) := window.clamp size.toNatClampNeg
    let first := info.namedSize.toInt64 + 1 + .ofNat start
    let values ← remote (s.fetchOops oop first.toInt count)
    return nameIndexed start values

def typeName (s : Session) (oop : Oop) : Debug String := do
  let cls ← remote (s.classOf oop)
  className s cls

def slotCounts (child : Option VarRef) (info : Option ObjectInfo) : Option Int64 × Option Int64 :=
  match child with
  | some (.indexed _ size) => (none, some size)
  | some (.named _) => (info.map (·.namedSize.toInt64), none)
  | _ => (none, none)

/-- An entry as it is shown. What fails is left out or shown in place of the value. -/
def describeVariable (s : Session) (name : String) (oop : Oop) : Debugging VariableView := do
  let value := match ← attempt (s.printString oop) with
    | .ok text => text
    | .error e => "<error: " ++ e.message ++ ">"
  let typeName ← noted .debug "" (typeName s oop)
  let info ← if oop.isSpecial then pure none
    else noted .debug "" (remote (s.fetchObjectInfo oop))
  let child := VarRef.childOf oop info
  let (named, indexed) := slotCounts child info
  let reference ← match child with
    | none => pure 0
    | some child => handleOf child
  return { name, value, typeName, reference, named, indexed }

def describeVariables (s : Session) : List (String × Oop) → Debugging (List VariableView)
  | [] => return []
  | (name, oop) :: rest => do
    let view ← describeVariable s name oop
    let views ← describeVariables s rest
    return view :: views

/-- What the handle `reference` unfolds to. A window cuts indexed slots only. -/
def expand (reference : Int) (window : Window) : Debug (List VariableView) := do
  match (← get).handles.get? reference with
  | none => throw (.unknownVariables reference)
  | some r =>
    let s ← session
    let list ← entries s window r
    describeVariables s list

/-! ## Execution -/

def stopReason (number : Int) : StopReason :=
  if number = ErrorRecord.step then .step
  else if number = ErrorRecord.breakpoint then .breakpoint
  else .exception

/-- The process is about to run: frames and handles lose their meaning. -/
def forgetFrames : Debugging Unit := modify fun d => { d with handles := {}, frames := [] }

/-- The process has run to its end or stopped again. -/
def settle (result : Except CallError Oop) : Debug Unit := do
  match result with
  | .ok value =>
    logRecord .info "debugger" s!"process completed with {value.describe}"
    modify fun d => { d with process := none, state := .detached }
    tell .terminated
  | .error (.vm record) =>
    let reason := stopReason record.number
    let message := record.text
    modify fun d => { d with
      process := record.process?.or d.process
      message := if reason = .exception then message else d.message
      state := .stopped }
    logRecord .debug "debugger" s!"process stopped: {reason.name} ({message})"
    tellStopped reason (if reason = .exception then message else reason.name)
  | .error e =>
    modify fun d => { d with state := .stopped }
    throw (.call e)

def resume (s : Session) (process : Oop) : Debug Unit := do
  modify fun d => { d with state := .running }
  let result ← attempt (s.continueProcess process)
  settle result

def step (kind : StepKind) (level : Level) : Debug Unit := do
  let process ← suspended
  let s ← session
  forgetFrames
  logRecord .debug "debugger" s!"step {kind.name} from level {level}"
  discard <| remote (s.perform process kind.selector [levelOop level])
  resume s process

def continueExecution : Debug Unit := do
  let process ← suspended
  let s ← session
  forgetFrames
  resume s process

/-- What `self` is bound to at a stack level; nil while no process is attached. -/
def receiverAt (level : Level) : Debug Oop := do
  match (← get).process with
  | some _ => return (← frame level).receiver
  | none => return .nil

def evaluate? (level : Level) (source : String) : Debug String := do
  let s ← session
  let context ← receiverAt level
  match ← attempt (s.executeIn source context) with
  | .ok result => remote (s.printString result)
  | .error e =>
    s.discardError e
    throw (.call e)

def evaluate (level : Level) (source : String) : Debugging String := do
  match ← (evaluate? level source).run with
  | .ok printed => return printed
  | .error e => return "error: " ++ e.message

def restartFrame (level : Level) : Debug Unit := do
  let process ← suspended
  let s ← session
  discard <| remote (s.perform process "_trimStackToLevel:" [levelOop level])
  forgetFrames
  tellStopped .restart s!"restarted at level {level}"

end StoneDebug.Debug
