import StoneDebug.Debug.Session

/-! # Methods and their breakpoints

Methods as the VM knows them: found by their location, with their source texts and labels. Breakpoints
are set for a whole document, which shows one method: the old ones are cleared, then each requested line
gets the step point that it maps to. A refusal of the VM only leaves lines unverified.
-/

namespace StoneDebug

open Source

/-! ## Resolution -/

namespace Debug

def resolveClass (s : Session) (l : MethodLocation) : Debug Oop := do
  let dictionary ← remote (s.resolveClass l.dictionary)
  let name ← remote (s.newSymbol l.cls)
  let cls ← remote (s.perform dictionary "at:otherwise:" [name, .nil])
  if cls.isNil then throw (.methodNotFound l.path)
  match l.side with
  | .instance => return cls
  | .class => remote (s.perform cls "class" [])

def resolveMethod (s : Session) (l : MethodLocation) : Debug Oop := do
  let cls ← resolveClass s l
  let method ← remote (s.compiledMethodAt cls l.selector l.env)
  if method.isNil then throw (.methodNotFound l.path)
  return method

def readLocation (path : String) : Debug MethodLocation :=
  value ((MethodLocation.read path).mapError fun fault => .badLocation path fault.message)

def methodAt (s : Session) (path : String) : Debug Oop := do
  let location ← readLocation path
  resolveMethod s location

end Debug

/-! ## Sources -/

/-- The VM counts offsets from 1. -/
def readOffset (oop : Oop) : Except CallError Nat := do
  let offset ← oop.expectInt
  return (offset - 1).toNat

def Session.fetchSource (s : Session) (method : Oop) : Attempt MethodSource := do
  let string ← s.perform method "sourceString" []
  let text ← s.fetchString string
  let array ← s.perform method "_sourceOffsets" []
  let oops ← s.fetchAllOops array
  let offsets ← ExceptT.mk (pure (oops.mapM readOffset))
  return .make text offsets

namespace Debug

/-- The source of a method, fetched once. -/
def sourceOf (s : Session) (method : Oop) : Debug MethodSource := do
  match (← get).sources.lookup method with
  | some source => return source
  | none =>
    let source ← remote (s.fetchSource method)
    modify fun d => { d with sources := (method, source) :: d.sources }
    return source

def sourceReference (method : Oop) : Debugging Nat := do
  let (reference, methods) := (← get).methods.number method
  modify fun d => { d with methods }
  return reference

/-- Shown for a stack level whose contents could not be fetched. -/
def unavailableSource : String := "\"source not available\""

def source (reference : Int) : Debug String := do
  match (← get).methods.get? reference with
  | none => throw (.unknownSource reference)
  | some method =>
    if method.isNil then return unavailableSource
    let s ← session
    return (← sourceOf s method).text

/-! ## Names -/

def className (s : Session) (cls : Oop) : Debug String := do
  match (← get).classNames.lookup cls with
  | some name => return name
  | none =>
    let name ← remote (s.className cls)
    modify fun d => { d with classNames := (cls, name) :: d.classNames }
    return name

/-- Class and selector of a method, fetched once. -/
def methodLabel (method : Oop) : Debug String := do
  match (← get).labels.lookup method with
  | some label => return label
  | none =>
    let s ← session
    let cls ← remote (s.perform method "inClass" [])
    if cls.isNil then throw (.unexpectedValue cls "method class")
    let name ← className s cls
    let selector ← remote (s.perform method "selector" [])
    let label := name ++ ">>" ++ (← remote (s.fetchString selector))
    modify fun d => { d with labels := (method, label) :: d.labels }
    return label

/-! ## Breakpoints -/

def unverifiedAll (lines : List Int) (message : String) : List BreakpointView :=
  lines.map fun line => .unverified line message

def setBreakpoint (s : Session) (method : Oop) (source : MethodSource) (line : Int) :
    Debugging (BreakpointView × Option TrackedBreakpoint) := do
  match mapLine line source.starts source.stepOffsets with
  | none => return (.unverified line "no step point at or after this line", none)
  | some mapping =>
    let step := Oop.ofSmallInt mapping.stepPoint
    match ← noted .warn "set breakpoint: "
        (remote (s.perform method "setBreakAtStepPoint:" [step])) with
    | some _ =>
      return (⟨true, mapping.actualLine, some mapping.stepPoint, none⟩,
        some ⟨mapping.stepPoint, mapping.actualLine⟩)
    | none => return (.unverified line "breakpoint rejected by the VM", none)

/-- Sets the breakpoints of all lines: a view of each, and those that were set. -/
def setLines (s : Session) (method : Oop) (source : MethodSource) :
    List Int → Debugging (List BreakpointView × List TrackedBreakpoint)
  | [] => return ([], [])
  | line :: rest => do
    let (view, tracked) ← setBreakpoint s method source line
    let (views, more) ← setLines s method source rest
    return (view :: views, tracked.toList ++ more)

def dropDocument (path : String) : Debugging Unit :=
  modify fun d => { d with documents := d.documents.filter fun doc => doc.path != path }

/-- Replaces the breakpoints of a method, shown under the name `path`. When the old ones cannot be
cleared they are still tracked. -/
def setMethodBreakpoints (s : Session) (path : String) (method : Oop) (lines : List Int) :
    Debugging (List BreakpointView) := do
  match ← attempt (s.perform method "clearAllBreaks" []) with
  | .error e =>
    logRecord .warn "debugger" s!"clear breakpoints of {method.describe}: {e.message}"
    return unverifiedAll lines ("breakpoints could not be cleared: " ++ e.message)
  | .ok _ =>
    dropDocument path
    if lines.isEmpty then return []
    match ← attempt (s.fetchSource method) with
    | .error e =>
      logRecord .warn "debugger" s!"source of {method.describe}: {e.message}"
      return unverifiedAll lines ("method source unavailable: " ++ e.message)
    | .ok source =>
      let (views, breakpoints) ← setLines s method source lines
      logRecord .debug "debugger"
        s!"{path}: {breakpoints.length} of {lines.length} breakpoints set"
      modify fun d => { d with documents := d.documents ++ [⟨path, method, breakpoints⟩] }
      return views

def setBreakpoints (path : String) (lines : List Int) : Debug (List BreakpointView) := do
  let s ← session
  let method ← methodAt s path
  setMethodBreakpoints s path method lines

def breakpointLocations (path : String) (first last : Nat) : Debug (List BreakpointLocation) := do
  let s ← session
  let method ← methodAt s path
  let source ← sourceOf s method
  return source.breakpointLocations first last

def tracked (d : DebugSession) (path : String) : List TrackedBreakpoint :=
  match d.documents.find? fun doc => doc.path == path with
  | some doc => doc.breakpoints
  | none => []

/-- Forgets the breakpoints and the label of a method that was compiled anew. -/
def invalidateMethod (method : Oop) : Debugging Unit :=
  modify fun d => { d with
    documents := d.documents.filter fun doc => doc.method != method
    labels := d.labels.filter fun entry => entry.1 != method }

end Debug

end StoneDebug
