import StoneDebug.Session.Query
import StoneDebug.Source.Location
import StoneDebug.Source.Method
import StoneDebug.Debug.Basic

/-! # Debug sessions

A debug session looks at one suspended process and lets it run.

    unattached → stopped ⇄ running → detached

What was fetched about the process is kept: frames and variable handles until it runs again, sources
until another process is attached, names of classes and methods as long as the VM session stays.
-/

namespace StoneDebug

open Source

inductive DebugState where
  | unattached
  | stopped
  /-- While a step or a resumption is being carried out. -/
  | running
  | detached
deriving Repr, DecidableEq

/-- Says what is wrong with the last of the notices given to a client; `none` when it takes it. -/
abbrev Listener := (notices : List Event) → Option String

structure TrackedBreakpoint where
  stepPoint : Nat
  line : Nat
deriving Repr, DecidableEq

structure Document where
  path : String
  method : Oop
  breakpoints : List TrackedBreakpoint
deriving Repr, DecidableEq

structure DebugSession where
  /-- The VM session in use. -/
  session : Option Session := none
  state : DebugState := .unattached
  /-- The suspended process. -/
  process : Option Oop := none
  /-- What the process stopped on. -/
  message : String := ""
  handles : Numbering VarRef := {}
  methods : Numbering Oop := {}
  sources : List (Oop × MethodSource) := []
  documents : List Document := []
  frames : List (Level × Frame) := []
  classNames : List (Oop × String) := []
  labels : List (Oop × String) := []
  listener : Listener := fun _ => none
  /-- The notices given so far. -/
  told : List Event := []

abbrev Debugging := StateT DebugSession Act

/-- Such an operation that may fail. What it did before stays done. -/
abbrev Debug := ExceptT DebugError Debugging

namespace Debug

/-- A remote operation; its failure is that of the whole. -/
def remote {α : Type} (act : Attempt α) : Debug α := ExceptT.mk do
  let result ← (act.run : Act (Except CallError α))
  return result.mapError .call

/-- A remote operation whose failure is handled here. -/
def attempt {α : Type} (act : Attempt α) : Debugging (Except CallError α) :=
  (act.run : Act (Except CallError α))

def value {α : Type} (result : Except DebugError α) : Debug α := ExceptT.mk (pure result)

/-- The value of an operation; its failure is only logged. -/
def noted {α : Type} (severity : Severity) (what : String) (act : Debug α) :
    Debugging (Option α) := do
  match ← act.run with
  | .ok a => return some a
  | .error e =>
    logRecord severity "debugger" (what ++ e.message)
    return none

def session : Debug Session := do
  match (← get).session with
  | some s => return s
  | none => throw .notAttached

/-- The attached process, unless it is running. -/
def suspended : Debug Oop := do
  let d ← get
  match d.state, d.process with
  | .running, _ => throw .processRunning
  | _, some process => return process
  | _, none => throw .notAttached

/-! ## Notices -/

def tell (e : Event) : Debugging Unit := do
  modify fun d => { d with told := d.told ++ [e] }
  pushEvent e

def tellStopped (reason : StopReason) (description : String) : Debug Unit := do
  tell (.stopped reason description)
  let d ← get
  match d.listener d.told with
  | none => pure ()
  | some text => throw (.client text)

/-! ## Attaching -/

/-- What is kept about a VM session is dropped for another one. -/
def bind (s : Session) : Debugging Unit := do
  if (← get).session.map Session.id = some s.id then
    modify fun d => { d with session := some s }
  else
    modify fun d => { d with
      session := some s, methods := {}, sources := [], documents := [], classNames := [],
      labels := [] }

def attachSession (s : Session) (process : Oop) (message : String) : Debug Unit := do
  match (← get).state with
  | .stopped | .running => throw .alreadyAttached
  | .unattached | .detached =>
    if process.isSpecial then throw (.unexpectedValue process "suspended process")
    logRecord .info "debugger" s!"attach to process {process.describe} of session {s.id}"
    bind s
    modify fun d => { d with
      process := some process, message, handles := {}, frames := [], methods := {},
      sources := [], state := .stopped }
    tellStopped .exception message

def attach (id : Nat) (process : Oop) (message : String) : Debug Unit := do
  match ← Registry.get? id with
  | none => throw (.invalidSession id)
  | some s => attachSession s process message

/-- Clears the stack of the attached process, as far as the VM lets it be cleared. -/
def clearProcess : Debugging Unit := do
  let d ← get
  match d.session, d.process with
  | some s, some process =>
    logRecord .info "debugger" s!"clear stack of process {process.describe}"
    discard <| noted .warn "disconnect: " (remote (s.clearStack process))
  | _, _ => pure ()

def disconnect : Debugging Unit := do
  clearProcess
  modify fun d => { d with
    state := if d.state = .unattached then .unattached else .detached
    process := none, session := none, handles := {}, frames := [], methods := {},
    sources := [], documents := [], classNames := [], labels := [] }

/-- Disconnects, and tells so if a process was attached. -/
def terminate : Debugging Unit := do
  let attached := (← get).process.isSome
  disconnect
  if attached then tell .terminated

end Debug

end StoneDebug
