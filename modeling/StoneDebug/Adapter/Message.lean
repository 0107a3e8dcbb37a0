import StoneDebug.World
import StoneDebug.Debug.Basic
import StoneDebug.Source.Method
import StoneDebug.Json.Value

/-! # Messages to a client

Responses to requests and events, and the JSON bodies in which they carry what they tell. Messages
are numbered in the order in which they are written.
-/

namespace StoneDebug.Adapter

open Json

inductive Message where
  /-- Answers the request with this number. -/
  | response (request : Int) (command : String) (success : Bool) (message : Option String)
      (body : Option Json)
  | event (name : String) (body : Option Json)

def optionalMember (name : String) (value : Option Json) : List (String × Json) :=
  match value with
  | none => []
  | some j => [(name, j)]

/-- The message as it is written with its number. -/
def Message.toJson (seq : Nat) : Message → Json
  | .response request command success message body =>
    .object ([("seq", nat seq), ("type", .string "response"), ("request_seq", .int request),
      ("success", .bool success), ("command", .string command)] ++
      optionalMember "message" (message.map .string) ++ optionalMember "body" body)
  | .event name body =>
    .object ([("seq", nat seq), ("type", .string "event"), ("event", .string name)] ++
      optionalMember "body" body)

/-! ## Bodies -/

/-- The suspended process is the only thread that is ever shown. -/
def processThread : Nat := 1

def capabilities : Json := .object
  [("supportsConfigurationDoneRequest", .bool true), ("supportsTerminateRequest", .bool true),
   ("supportsRestartFrame", .bool true), ("supportsBreakpointLocationsRequest", .bool true),
   ("supportsCancelRequest", .bool true), ("supportsEvaluateForHovers", .bool true),
   ("supportsSetVariable", .bool false), ("supportsStepBack", .bool false)]

def threadsBody (process : Option Oop) : Json :=
  .object [("threads", list process.toList fun process =>
    .object [("id", nat processThread), ("name", .string s!"GemStone process {process}")])]

def frameJson (f : FrameView) : Json :=
  .object ([("id", nat f.level.toNat), ("name", .string f.name), ("line", nat f.line),
    ("column", nat f.column)] ++
    (if f.sourceRef = 0 then []
     else [("source", .object [("name", .string f.name), ("sourceReference", nat f.sourceRef)])]))

def stackTraceBody (frames : List FrameView) (depth : UInt32) : Json :=
  .object [("stackFrames", list frames frameJson), ("totalFrames", nat depth.toNat)]

def scopeJson (s : ScopeView) : Json :=
  .object [("name", .string s.name), ("variablesReference", nat s.reference),
    ("namedVariables", nat s.named), ("expensive", .bool false)]

def variableJson (v : VariableView) : Json :=
  .object ([("name", .string v.name), ("value", .string v.value),
    ("variablesReference", nat v.reference)] ++
    optionalMember "type" (v.typeName.map .string) ++
    optionalMember "namedVariables" (v.named.map fun count => .int count.toInt) ++
    optionalMember "indexedVariables" (v.indexed.map fun count => .int count.toInt))

def locationJson (l : Source.BreakpointLocation) : Json :=
  .object [("line", nat l.line), ("column", nat l.column)]

def breakpointJson (id : Nat) (view : BreakpointView) : Json :=
  .object ([("id", nat id), ("verified", .bool view.verified), ("line", .int view.line)] ++
    optionalMember "message" (view.message.map .string))

/-! ## Events -/

def Message.ofEvent : Event → Message
  | .stopped reason description => .event "stopped" (some (.object
      [("reason", .string reason.name), ("threadId", nat processThread),
       ("allThreadsStopped", .bool true), ("description", .string description)]))
  | .terminated => .event "terminated" none
  | .output category text => .event "output" (some (.object
      [("category", .string category.name), ("output", .string text)]))
  | .breakpointChanged id view => .event "breakpoint" (some (.object
      [("reason", .string "changed"), ("breakpoint", breakpointJson id view)]))

/-- The beginning of a run that takes long. All events of one run carry the same id. -/
def Message.progressStart (id title : String) : Message :=
  .event "progressStart" (some (.object
    [("progressId", .string id), ("title", .string title), ("cancellable", .bool true)]))

def Message.progressUpdate (id : String) (seconds : Nat) : Message :=
  .event "progressUpdate" (some (.object
    [("progressId", .string id), ("message", .string s!"running for {seconds}s")]))

def Message.progressEnd (id : String) : Message :=
  .event "progressEnd" (some (.object [("progressId", .string id)]))

end StoneDebug.Adapter
