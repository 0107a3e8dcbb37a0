import StoneDebug.Poller
import StoneDebug.Toml

/-! # Configuration

The settings of a configuration file. Every setting has a default, and unknown ones are ignored. Login
settings say who logs in and where; they can be laid over others, where what is set replaces and what is
empty does not.
-/

namespace StoneDebug

/-! ## Login settings -/

structure LoginSettings where
  stone : String := ""
  gem : String := ""
  username : String := ""
  password : String := ""
  hostUsername : Option String := none
  hostPassword : Option String := none
deriving Repr, DecidableEq, Inhabited

namespace LoginSettings

/-- `above` unless it is empty. -/
def pick (below above : String) : String := if above.isEmpty then below else above

def merge (below above : LoginSettings) : LoginSettings where
  stone := pick below.stone above.stone
  gem := pick below.gem above.gem
  username := pick below.username above.username
  password := pick below.password above.password
  hostUsername := above.hostUsername.or below.hostUsername
  hostPassword := above.hostPassword.or below.hostPassword

def params (s : LoginSettings) : LoginParams where
  stone := s.stone
  gem := s.gem
  username := s.username
  password := s.password
  hostUsername := s.hostUsername
  hostPassword := s.hostPassword

end LoginSettings

/-! ## Files -/

structure Config where
  login : LoginSettings := {}
  /-- Where the library of the VM's client interface is. -/
  library : Option String := none
  poll : PollConfig := {}
deriving Repr, DecidableEq

namespace Config

/-- What a value holds for each of the settings: by name in a table, by order in an array. A date has
no settings. -/
def settings (names : List String) : Toml → Option (List (Option Toml))
  | .table _ members => some (names.map fun name => members.lookup name)
  | .array items => some (names.zipIdx.map fun (_, i) => items[i]?)
  | .tables items => some (names.zipIdx.map fun (_, i) => items[i]?.map (.table .header))
  | .datetime => some (names.map fun _ => none)
  | _ => none

def setting {α : Type} (read : Toml → Option α) (default : α) : Option Toml → Option α
  | none => some default
  | some value => read value

def text? : Toml → Option String
  | .string s => some s
  | _ => none

def natural? : Toml → Option Nat
  | .integer i => if 0 ≤ i then some i.toNat else none
  | _ => none

def naturals? : Toml → Option (List Nat)
  | .array items => items.mapM natural?
  | _ => none

def optionalText? (value : Toml) : Option (Option String) := (text? value).map some

def login? (value : Toml) : Option LoginSettings := do
  match ← settings ["stone", "gem", "username", "password", "host_username", "host_password"] value with
  | [stone, gem, username, password, hostUsername, hostPassword] =>
    return {
      stone := ← setting text? "" stone
      gem := ← setting text? "" gem
      username := ← setting text? "" username
      password := ← setting text? "" password
      hostUsername := ← setting optionalText? none hostUsername
      hostPassword := ← setting optionalText? none hostPassword }
  | _ => none

def poll? (value : Toml) : Option PollConfig := do
  let default : PollConfig := {}
  match ← settings ["backoff_ms", "progress_after_ms", "drain_timeout_ms"] value with
  | [backoff, progress, drain] =>
    return {
      backoffMs := ← setting naturals? default.backoffMs backoff
      progressAfterMs := ← setting natural? default.progressAfterMs progress
      drainTimeoutMs := ← setting natural? default.drainTimeoutMs drain }
  | _ => none

def ofToml? (root : Toml.Members) : Option Config := do
  return {
    login := ← setting login? {} (root.lookup "login")
    library := ← setting optionalText? none (root.lookup "library")
    poll := ← setting poll? {} (root.lookup "poll") }

def read? (text : String) : Option Config := (Toml.read? text).bind ofToml?

end Config

end StoneDebug
