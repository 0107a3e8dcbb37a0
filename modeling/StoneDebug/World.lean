import StoneDebug.Remote

/-! # The world of a client

Everything that outlives a single operation: the VM, the record of all exchanges with it, the
sessions, the clock, and what waits to be told. An operation is a function on worlds, `Act`; one that
may fail is an `Attempt`, and what it did before it failed stays done.

What a debugging client is told besides the answers to its requests are events. They wait in a queue
until the request that caused them has been answered; log records can be made to wait there too.
-/

namespace StoneDebug

/-! ## Events -/

inductive StopReason where
  | entry
  | exception
  | step
  | breakpoint
  | restart
deriving Repr, DecidableEq

def StopReason.name : StopReason → String
  | .entry => "entry"
  | .exception => "exception"
  | .step => "step"
  | .breakpoint => "breakpoint"
  | .restart => "restart"

/-- What has become of one requested breakpoint line. -/
structure BreakpointView where
  verified : Bool
  /-- The line of the breakpoint when verified, otherwise the requested one. -/
  line : Int
  stepPoint : Option Nat
  message : Option String
deriving Repr, DecidableEq

def BreakpointView.unverified (line : Int) (message : String) : BreakpointView :=
  ⟨false, line, none, some message⟩

inductive OutputCategory where
  | stdout
  | stderr
  | console
deriving Repr, DecidableEq

def OutputCategory.name : OutputCategory → String
  | .stdout => "stdout"
  | .stderr => "stderr"
  | .console => "console"

inductive Event where
  | stopped (reason : StopReason) (description : String)
  | terminated
  | output (category : OutputCategory) (text : String)
  | breakpointChanged (id : Nat) (view : BreakpointView)
deriving Repr, DecidableEq

/-! ## Log records -/

/-- Severities, the gravest first. -/
inductive Severity where
  | error
  | warn
  | info
  | debug
  | trace
deriving Repr, DecidableEq

namespace Severity

def rank : Severity → Nat
  | .error => 0
  | .warn => 1
  | .info => 2
  | .debug => 3
  | .trace => 4

def name : Severity → String
  | .error => "ERROR"
  | .warn => "WARN"
  | .info => "INFO"
  | .debug => "DEBUG"
  | .trace => "TRACE"

end Severity

structure LogRecord where
  severity : Severity
  target : String
  text : String
deriving Repr, DecidableEq

def LogRecord.line (r : LogRecord) : String :=
  "[" ++ r.severity.name ++ " " ++ r.target ++ "] " ++ r.text ++ "\n"

/-! ## The queue -/

structure EventQueue where
  waiting : List Event := []
  /-- The least grave severity of which records become console output; `none` takes no record. -/
  listening : Option Severity := none
deriving Repr, DecidableEq

namespace EventQueue

def push (q : EventQueue) (e : Event) : EventQueue := { q with waiting := q.waiting ++ [e] }

def take (q : EventQueue) : List Event × EventQueue := (q.waiting, { q with waiting := [] })

def hears (q : EventQueue) (s : Severity) : Bool :=
  q.listening.any fun least => s.rank ≤ least.rank

def log (q : EventQueue) (r : LogRecord) : EventQueue :=
  if q.hears r.severity then q.push (.output .console r.line) else q

end EventQueue

/-! ## Worlds -/

/-- A login, named by a small number that is never given out twice. -/
structure Session where
  id : Nat
  handle : Handle
  version : String
deriving Repr, DecidableEq

/-- At most one non-blocking call of a session may be outstanding. -/
inductive CallState where
  | idle
  /-- A call was submitted and its result is not fetched yet. -/
  | outstanding
  /-- The caller has given up; the result must be fetched before the session is of use again. -/
  | draining
deriving Repr, DecidableEq

/-- Counts requests to end the running call: one asks for a soft break, two for a hard one. -/
structure CancelToken where
  requests : Nat := 0
deriving Repr, DecidableEq, Inhabited

def CancelToken.cancel (t : CancelToken) : CancelToken := ⟨t.requests + 1⟩

def CancelToken.reset (_ : CancelToken) : CancelToken := {}

inductive Progress where
  | start (title : String)
  /-- How many microseconds the call has been running. -/
  | update (elapsed : Nat)
  | finish
deriving Repr, DecidableEq

/-- What happens beside the exchanges while a call runs. -/
inductive Aside where
  | progress (p : Progress)
  /-- A client's request to end the call was answered on the spot. -/
  | answered (seq : Int) (pause accepted : Bool)
deriving Repr, DecidableEq

structure World where
  vm : VM
  transcript : List Exchange := []
  /-- Sessions logged in, in the order of their logins. -/
  live : List Session := []
  nextId : Nat := 1
  /-- By session id, the class that wraps source texts, once it is known. -/
  helperClass : Nat → Option Oop := fun _ => none
  callState : Nat → CallState := fun _ => .idle
  token : CancelToken := {}
  /-- Whether a call is running that requests of a client can end. -/
  running : Bool := false
  asides : List Aside := []
  queue : EventQueue := {}
  /-- Microseconds. -/
  clock : Nat := 0
  /-- How often this world's record follows a call that stays unready. -/
  horizon : Nat

abbrev Act := StateM World

abbrev Attempt := ExceptT CallError Act

def ask (handle : Option Handle) (call : Call) : Act call.Reply := fun w =>
  let reply := w.vm w.transcript handle call
  (reply, { w with transcript := w.transcript ++ [⟨handle, call, reply⟩] })

def logRecord (severity : Severity) (target text : String) : Act Unit :=
  modify fun w => { w with queue := w.queue.log ⟨severity, target, text⟩ }

def pushEvent (e : Event) : Act Unit := modify fun w => { w with queue := w.queue.push e }

def addAside (a : Aside) : Act Unit := modify fun w => { w with asides := w.asides ++ [a] }

def sleep (milliseconds : Nat) : Act Unit :=
  modify fun w => { w with clock := w.clock + milliseconds * 1000 }

/-- The value of an attempt; its failure is only logged. -/
def warnOn {ε α : Type} (what : String) (text : ε → String) : Except ε α → Act (Option α)
  | .ok a => pure (some a)
  | .error e => do
    logRecord .warn "debugger" (what ++ text e)
    return none

def setCallState (id : Nat) (state : CallState) : Act Unit :=
  modify fun w => { w with callState := fun i => if i = id then state else w.callState i }

def setHelperClass (id : Nat) (cls : Oop) : Act Unit :=
  modify fun w => { w with helperClass := fun i => if i = id then some cls else w.helperClass i }

/-- While a call runs every request to end it counts; otherwise there is nothing to pause, and a
cancellation is granted without effect. -/
def interject : Interjection → Act Unit
  | .cancel => modify fun w => { w with token := w.token.cancel }
  | .request seq pause => do
    if (← get).running then
      modify fun w => { w with token := w.token.cancel }
      let n := (← get).token.requests
      let command := if pause then "pause" else "cancel"
      logRecord .info "dap" s!"{command}: cancellation request #{n}"
      addAside (.answered seq pause true)
    else addAside (.answered seq pause !pause)

def interjectAll : List Interjection → Act Unit
  | [] => pure ()
  | i :: rest => do
    interject i
    interjectAll rest

end StoneDebug
