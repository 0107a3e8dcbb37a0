import StoneDebug.World

/-! # Transcripts and scripted VMs

A transcript has one line for each exchange with the VM: the handle, a colon and the call with its
arguments, or a dash where a call needs no handle. Replies are left out. A script is a VM whose replies
are laid down beforehand, in whatever form: a call is looked up by its whole line, then by the first two
words of the line, then by the first. Replies to be given in turn are used up.
-/

namespace StoneDebug

open Text

def Binary64.hex (d : Binary64) : String := Hex.encode (le 8 d.bits.toNat).reverse

def spaced (words : List String) : String := " ".intercalate words

/-- The source stands last, since it may hold anything. -/
def Execution.line (r : Execution) : String :=
  s!"class={r.sourceClass} context={r.context} symbols={r.symbolList} flags={r.flags} env={r.env} : "
    ++ r.source

/-- Flags and environment are shown when one of them is not zero. -/
def Send.line (s : Send) : String :=
  let words := toString s.receiver :: s.selector :: s.args.map toString
  spaced words ++ (if s.flags = 0 && s.env = 0 then "" else s!" flags={s.flags} env={s.env}")

def LoginParams.line (p : LoginParams) : String :=
  let host (text : Option String) := text.getD "-"
  s!"stone={p.stone} gem={p.gem} user={p.username} password={p.password} host_user="
    ++ host p.hostUsername ++ " host_password=" ++ host p.hostPassword ++ s!" flags={p.flags}"

def Compilation.line (r : Compilation) : String :=
  s!"source={r.source} class={r.cls} category={r.category} symbols={r.symbolList} "
    ++ s!"override={r.overrideSelector} flags={r.flags} env={r.env}"

def TraversalArgs.line (a : TraversalArgs) : String :=
  s!"clamp={a.clampSpec} result={a.resultOop} size={a.bufferSize} level={a.level} "
    ++ s!"flags={a.retrievalFlags} rpc={a.isRpc}"

def Call.line : Call → String
  | .version => "version"
  | .login p => "login " ++ p.line
  | .logout => "logout"
  | .abort => "abort"
  | .beginTransaction => "begin"
  | .commit => "commit"
  | .resolveSymbol name symbols => s!"resolve {name} {symbols}"
  | .execute r => "execute " ++ r.line
  | .executeFetchBytes r max => s!"execute_fetch_bytes max={max} " ++ r.line
  | .perform s => "perform " ++ s.line
  | .performFetchBytes s max => "perform_fetch_bytes " ++ s.line ++ s!" max={max}"
  | .compileMethod r => "compile " ++ r.line
  | .nbExecute r => "nb_execute " ++ r.line
  | .nbPerform s => "nb_perform " ++ s.line
  | .nbPoll timeout => s!"nb_poll {timeout}"
  | .nbResult => "nb_result"
  | .interrupt hard => if hard then "interrupt hard" else "interrupt soft"
  | .clearStack process => s!"clear_stack {process}"
  | .continueWith process replaceTop flags => s!"continue {process} {replaceTop} {flags}"
  | .fetchClass oop => s!"fetch_class {oop}"
  | .fetchSize oop => s!"fetch_size {oop}"
  | .fetchVaryingSize oop => s!"fetch_varying_size {oop}"
  | .fetchObjectInfo oop => s!"fetch_obj_info {oop}"
  | .fetchBytes oop start max => s!"fetch_bytes {oop} {start} {max}"
  | .fetchUtf8Bytes oop start max => s!"fetch_utf8 {oop} {start} {max}"
  | .storeBytes oop start bytes cls => s!"store_bytes {oop} {start} {cls} " ++ Hex.encode bytes
  | .fetchOops oop start count => s!"fetch_oops {oop} {start} {count}"
  | .storeOops oop start values overlay =>
    spaced (s!"store_oops {oop} {start} {overlay}" :: values.map toString)
  | .newObject cls => s!"new_obj {cls}"
  | .newString text => "new_string " ++ text
  | .newSymbol text => "new_symbol " ++ text
  | .intToOop value => s!"i64_to_oop {value}"
  | .oopToInt oop => s!"oop_to_i64 {oop}"
  | .doubleToOop value => "double_to_oop " ++ value.hex
  | .oopToDouble oop => s!"oop_to_double {oop}"
  | .fetchTraversal oops args buffer =>
    "fetch_traversal " ++ args.line ++ s!" buffer={buffer.allocated} : "
      ++ spaced (oops.map toString)
  | .moreTraversal buffer => s!"more_traversal {buffer.allocated}"
  | .storeTraversal buffer flags => s!"store_traversal {flags} " ++ Hex.encode buffer.bytes

def Handle.line (h : Handle) : String := toString h.value

def Exchange.line (e : Exchange) : String :=
  (e.handle.map Handle.line).getD "-" ++ ":" ++ e.call.line

/-! ## Scripts -/

inductive Cue (ρ : Type) where
  | always (reply : ρ)
  /-- One after the other, and then no more. -/
  | inTurn (replies : List ρ)

structure Script (ρ : Type) where
  cues : List (String × Cue ρ) := []
  /-- The key of each reply that was given in turn. -/
  used : List String := []
  /-- The first word of each call that found no reply. -/
  unanswered : List String := []

namespace Script

variable {ρ : Type}

def firstWord (line : String) : String := (line.splitOn " ").headD ""

/-- The keys for a line, the most telling one first. -/
def keys (line : String) : List String :=
  [line, spaced ((line.splitOn " ").take 2), firstWord line]

def find (s : Script ρ) : List String → Option ρ × Script ρ
  | [] => (none, s)
  | key :: rest =>
    match s.cues.lookup key with
    | some (.always reply) => (some reply, s)
    | some (.inTurn replies) =>
      match replies[s.used.count key]? with
      | some reply => (some reply, { s with used := key :: s.used })
      | none => s.find rest
    | none => s.find rest

def answer (s : Script ρ) (call : Call) : Option ρ × Script ρ :=
  match s.find (keys call.line) with
  | (some reply, s) => (some reply, s)
  | (none, s) => (none, { s with unanswered := firstWord call.line :: s.unanswered })

def after (s : Script ρ) (history : List Exchange) : Script ρ :=
  history.foldl (fun s e => (s.answer e.call).2) s

/-- The VM that follows a script. How a reply is read, or made up where there is none, is said by
`read`; it is told how many calls of the same kind have found no reply before. -/
def vm (s : Script ρ) (read : Nat → Option ρ → (call : Call) → call.Reply) : VM :=
  fun history _ call =>
    let s := s.after history
    read (s.unanswered.count (firstWord call.line)) (s.answer call).1 call

/-- Lays cues over those of the script. Under their keys, turns begin anew. -/
def lay (s : Script ρ) (cues : List (String × Cue ρ)) : Script ρ :=
  { s with
    cues := cues ++ s.cues
    used := s.used.filter fun key => (cues.lookup key).isNone }

end Script

end StoneDebug
