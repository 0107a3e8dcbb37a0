import StoneDebug.World
import StoneDebug.Version

/-! # Sessions

The calls of one session, and the guard that keeps them from a session with a non-blocking call
outstanding. A call that its caller has given up is drained: polled until its result can be fetched.
The registry logs in and out. The sessions that are logged in stand in the order of their logins; an id
is used up by every attempt to log in and is never given out again.
-/

namespace StoneDebug

namespace Session

def call (s : Session) (c : Call) : Act c.Reply := ask (some s.handle) c

/-- One poll. It takes a moment, and requests to end the running call are met before it returns. -/
def poll (s : Session) (timeout : Int) : Attempt PollStatus := do
  let reply ← s.call (.nbPoll timeout)
  modify fun w => { w with clock := w.clock + 1 + reply.took }
  interjectAll reply.meanwhile
  ExceptT.mk (pure reply.status)

/-- Fetches the result of a finished call that nobody waits for. -/
def discardResult (s : Session) : Act Unit := do
  match ← s.call .nbResult with
  | .ok _ => pure ()
  | .error e =>
    match e.process? with
    | none => pure ()
    | some process =>
      let cleared ← s.call (.clearStack process)
      discard <| warnOn "clear stack of drained call: " CallError.message cleared

/-- One attempt to drain an abandoned call; true when nothing is outstanding any more. -/
def drainOnce (s : Session) : Act Bool := do
  match ← s.poll 0 with
  | .ok .ready =>
    s.discardResult
    return true
  | .ok .notReady => return false
  | .error e =>
    logRecord .warn "gci" (s!"session {s.id}: poll of abandoned call: " ++ e.message)
    return true

def state (s : Session) : Act CallState := return (← get).callState s.id

/-- Fails while a call is outstanding. An abandoned call is drained if its result is there. -/
def ensureIdle (s : Session) : Attempt Unit := do
  match ← s.state with
  | .idle => pure ()
  | .outstanding => throw .sessionBusy
  | .draining =>
    if ← s.drainOnce then setCallState s.id .idle
    else throw .sessionBusy

def beginCall (s : Session) : Attempt Unit := do
  s.ensureIdle
  setCallState s.id .outstanding

def finishCall (s : Session) : Act Unit := setCallState s.id .idle

def abandonCall (s : Session) : Act Unit := setCallState s.id .draining

/-- The class that wraps source texts, asked for once. -/
def helperClass (s : Session) : Attempt Oop := do
  match (← get).helperClass s.id with
  | some cls => pure cls
  | none =>
    let cls ← ExceptT.mk (s.call (.resolveSymbol "String" .nil))
    setHelperClass s.id cls
    return cls

/-! ## Transactions -/

def abort (s : Session) : Attempt Unit := do
  s.ensureIdle
  ExceptT.mk (s.call .abort)

def beginTransaction (s : Session) : Attempt Unit := do
  s.ensureIdle
  ExceptT.mk (s.call .beginTransaction)

def commit (s : Session) : Attempt Bool := do
  s.ensureIdle
  ExceptT.mk (s.call .commit)

/-! ## Conversions

Values that fit into a reference are converted without the VM.
-/

def intToOop (s : Session) (i : Int) : Attempt Oop :=
  match Oop.ofInt? i with
  | some oop => pure oop
  | none => ExceptT.mk (s.call (.intToOop i))

def oopToInt (s : Session) (oop : Oop) : Attempt Int :=
  match oop.asInt? with
  | some i => pure i
  | none => ExceptT.mk (s.call (.oopToInt oop))

/-- The VM chooses between a SmallDouble and an object of its heap. -/
def doubleToOop (s : Session) (d : Binary64) : Attempt Oop :=
  ExceptT.mk (s.call (.doubleToOop d))

def oopToDouble (s : Session) (oop : Oop) : Attempt Binary64 :=
  match oop.asDouble? with
  | some d => pure d
  | none => ExceptT.mk (s.call (.oopToDouble oop))

end Session

/-! ## Registry -/

namespace Registry

def announce (id : Nat) (username version : String) : Act Unit := do
  logRecord .info "gci" (s!"session {id} logged in as " ++ username ++ " (" ++ version ++ ")")
  match Version.read version with
  | .error .noVersion => pure ()
  | .error (.badNumber cause) => logRecord .warn "debugger" cause.message
  | .ok v =>
    if v.isSupported then pure ()
    else
      logRecord .warn "gci"
        (s!"VM version {v} is not supported, supported: " ++ Version.supportedText)

def login (params : LoginParams) : Attempt Session := do
  let id := (← get).nextId
  modify fun w => { w with nextId := id + 1 }
  let handle ← ExceptT.mk (ask none (.login params))
  let version ← ask none .version
  announce id params.username version
  let session : Session := ⟨id, handle, version⟩
  modify fun w => { w with live := w.live ++ [session] }
  return session

def get? (id : Nat) : Act (Option Session) :=
  return (← get).live.find? fun s => s.id == id

def ids : Act (List Nat) := return (← get).live.map Session.id

/-- The session is gone even if the VM refuses the logout. -/
def logout (id : Nat) : Attempt Unit := do
  match ← get? id with
  | none => throw .notLoggedIn
  | some session =>
    modify fun w => { w with live := w.live.filter fun s => s.id != id }
    logRecord .info "gci" s!"session {id} logout"
    ExceptT.mk (session.call .logout)

/-- Logs out every session, in order, whatever the VM answers. -/
def logoutAll : Act Unit := do
  (← ids).forM fun id => do
    discard <| warnOn "logout: " CallError.message (← logout id)

end Registry

end StoneDebug
