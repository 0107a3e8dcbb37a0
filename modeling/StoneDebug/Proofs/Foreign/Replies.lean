import StoneDebug.Foreign.Reply

/-! # What a reply of the C interface says

A call that C cannot take is refused before anything is called. Otherwise one function is called, and
its error structure decides: a number other than zero is a failure whatever else the function did, and
zero is a success unless the function answers, in the way it has of answering, that it failed.
-/

namespace StoneDebug.Foreign

/-! ## Calls that can be made -/

def texts : Call → List String
  | .login p => [p.stone, p.gem, p.username, p.password] ++ p.hostUsername.toList ++
      p.hostPassword.toList
  | .resolveSymbol name _ => [name]
  | .execute r | .nbExecute r | .executeFetchBytes r _ => [r.source]
  | .perform s | .nbPerform s | .performFetchBytes s _ => [s.selector]
  | .newString s | .newSymbol s => [s]
  | _ => []

def counts : Call → List Nat
  | .perform s | .nbPerform s | .performFetchBytes s _ => [s.args.length]
  | .fetchOops _ _ n => [n]
  | .storeOops _ _ values _ => [values.length]
  | .fetchTraversal oops _ _ => [oops.length]
  | _ => []

/-- C can take the call: no text has a NUL in it, and an `int` holds each number. -/
def Passable (call : Call) : Prop :=
  (∀ s ∈ texts call, '\x00' ∉ s.toList) ∧ ∀ n ∈ counts call, n ≤ maxInt

instance (call : Call) : Decidable (Passable call) := inferInstanceAs (Decidable (_ ∧ _))

def foreignCalls (call : Call) : List ForeignCall := (prepare call).toOption.toList

section

variable {ε α β : Type} {P Q : Prop}

theorem isOk_bind_iff {x : Except ε α} {next : α → Except ε β} (first : x.isOk = true ↔ P)
    (second : ∀ a, (next a).isOk = true ↔ Q) : (x >>= next).isOk = true ↔ P ∧ Q := by
  cases x with
  | error e =>
      have refused : ¬P := fun p => nomatch first.mpr p
      exact ⟨nofun, fun both => absurd both.1 refused⟩
  | ok a => exact (second a).trans ⟨fun q => ⟨first.mp rfl, q⟩, And.right⟩

theorem isOk_pure_iff (a : α) : (pure a : Except ε α).isOk = true ↔ True := iff_of_true rfl trivial

theorem isOk_discard_iff {x : Except ε α} (first : x.isOk = true ↔ P) :
    (discard x).isOk = true ↔ P := by
  cases x <;> exact first

end

theorem isOk_text_iff (s : String) : (text s).isOk = true ↔ '\x00' ∉ s.toList := by
  simp only [text, List.contains_iff_mem]
  split <;> simp_all [Except.isOk, Except.toBool]

theorem isOk_optionalText_iff (s : Option String) :
    (optionalText s).isOk = true ↔ ∀ t ∈ s.toList, '\x00' ∉ t.toList := by
  cases s with
  | none => simp [optionalText, Except.isOk, Except.toBool]
  | some s => simpa [optionalText] using isOk_text_iff s

theorem isOk_count_iff {α : Type} (args : List α) :
    (count args).isOk = true ↔ args.length ≤ maxInt := by
  rw [count]
  split <;> simp_all [Except.isOk, Except.toBool]

theorem isOk_capacity_iff (n : Nat) : (capacity n).isOk = true ↔ n ≤ maxInt := by
  rw [capacity]
  split <;> simp_all [Except.isOk, Except.toBool]

theorem isOk_sendArguments_iff (s : Send) : (sendArguments s).isOk = true ↔
    '\x00' ∉ s.selector.toList ∧ s.args.length ≤ maxInt ∧ True :=
  isOk_bind_iff (isOk_text_iff _) fun _ => isOk_bind_iff (isOk_count_iff _) fun _ => isOk_pure_iff _

/-- A function is called exactly for what C can take. -/
theorem isOk_prepare_iff (call : Call) : (prepare call).isOk = true ↔ Passable call := by
  have one {s : String} {next : Argument → Except BadArgument ForeignCall}
      (always : ∀ a, (next a).isOk = true ↔ True) :
      (text s >>= next).isOk = true ↔ '\x00' ∉ s.toList ∧ True :=
    isOk_bind_iff (isOk_text_iff s) always
  cases call with
  | login p =>
      refine (isOk_bind_iff (isOk_text_iff _) fun _ => isOk_bind_iff (isOk_text_iff _) fun _ =>
        isOk_bind_iff (isOk_text_iff _) fun _ => isOk_bind_iff (isOk_text_iff _) fun _ =>
        isOk_bind_iff (isOk_optionalText_iff _) fun _ =>
        isOk_bind_iff (isOk_optionalText_iff _) fun _ => isOk_pure_iff _).trans ?_
      simp only [Passable, texts, counts, List.forall_mem_append, List.forall_mem_cons,
        List.not_mem_nil, false_imp_iff, implies_true, and_true, and_assoc]
  | resolveSymbol | execute | nbExecute | executeFetchBytes | newString | newSymbol =>
      refine (one fun _ => isOk_pure_iff _).trans ?_
      simp [Passable, texts, counts]
  | perform s | nbPerform s =>
      refine (isOk_bind_iff (isOk_sendArguments_iff s) fun _ => isOk_pure_iff _).trans ?_
      simp [Passable, texts, counts]
  | performFetchBytes s =>
      refine (isOk_bind_iff (isOk_text_iff _) fun _ => isOk_bind_iff (isOk_count_iff _) fun _ =>
        isOk_pure_iff _).trans ?_
      simp [Passable, texts, counts]
  | fetchOops =>
      refine (isOk_bind_iff (isOk_capacity_iff _) fun _ => isOk_pure_iff _).trans ?_
      simp [Passable, texts, counts]
  | storeOops =>
      refine (isOk_bind_iff (isOk_count_iff _) fun _ => isOk_pure_iff _).trans ?_
      simp [Passable, texts, counts]
  | fetchTraversal =>
      refine (isOk_bind_iff (isOk_discard_iff (isOk_count_iff _)) fun _ => isOk_pure_iff _).trans ?_
      simp [Passable, texts, counts]
  | version | logout | abort | beginTransaction | commit | compileMethod | nbPoll | nbResult
  | interrupt | clearStack | continueWith | fetchClass | fetchSize | fetchVaryingSize
  | fetchObjectInfo | fetchBytes | fetchUtf8Bytes | storeBytes | newObject | intToOop | oopToInt
  | doubleToOop | oopToDouble | moreTraversal | storeTraversal =>
      simp [prepare, Passable, texts, counts, Except.isOk, Except.toBool]

/-! ## Error structures -/

def ErrorStruct.slot (e : ErrorStruct) (i : Nat) : Oop := e.args.getD i .nil

/-- What a record takes from an error structure: of the ten slots as many arguments as the structure
counts, and the texts up to a NUL. -/
structure Decodes (e : ErrorStruct) (r : ErrorRecord) : Prop where
  number : r.number = e.number.toInt
  argCount : r.argCount = e.argCount.toInt
  args : r.args = (List.range (min (max e.argCount.toInt 0) 10).toNat).map e.slot
  objects : r.category = e.category ∧ r.context = e.context ∧ r.exception = e.exception
  fatal : r.fatal = true ↔ e.fatal ≠ 0
  texts : r.message = bufferText messageCapacity e.message ∧
    r.reason = bufferText messageCapacity e.reason

theorem getElem?_slots (args : List Oop) {i : Nat} (lt : i < ErrorRecord.maxArgs) :
    (args.take ErrorRecord.maxArgs ++
      List.replicate (ErrorRecord.maxArgs - args.length) Oop.nil)[i]? = some (args.getD i .nil) := by
  rw [List.getElem?_append, List.length_take, List.getD_eq_getElem?_getD]
  by_cases filled : i < args.length
  · rw [if_pos (by omega), List.getElem?_take_of_lt lt, List.getElem?_eq_getElem filled]
    rfl
  · rw [if_neg (by omega), List.getElem?_replicate, if_pos (by omega),
      List.getElem?_eq_none (Nat.le_of_not_lt filled)]
    rfl

theorem argumentSlots_eq (args : List Oop) {n : Nat} (le : n ≤ ErrorRecord.maxArgs) :
    argumentSlots args n = (List.range n).map fun i => args.getD i .nil := by
  refine List.ext_getElem? fun i => ?_
  rw [argumentSlots, List.getElem?_take, List.getElem?_map]
  split
  · next inside =>
      rw [getElem?_slots args (Nat.lt_of_lt_of_le inside le), List.getElem?_range inside]
      rfl
  · next outside =>
      rw [List.getElem?_eq_none (by simpa using outside)]
      rfl

theorem decodes_record (e : ErrorStruct) : Decodes e e.record where
  number := rfl
  argCount := rfl
  args := by
    rw [show (min (max e.argCount.toInt 0) 10).toNat =
      min e.argCount.toInt.toNat ErrorRecord.maxArgs by unfold ErrorRecord.maxArgs; omega]
    exact argumentSlots_eq e.args (Nat.min_le_right _ _)
  objects := ⟨rfl, rfl, rfl⟩
  fatal := by simp [ErrorStruct.record]
  texts := ⟨rfl, rfl⟩

/-! ## Answers -/

/-- How a function answers beside its error structure. -/
inductive Convention where
  /-- What it returns is a value. -/
  | value
  /-- It returns zero when it fails. -/
  | success
  /-- It returns one of the states 0 and 1. -/
  | state
  /-- It returns a session, which is not null. -/
  | session

def Convention.Refuses (r : ForeignReply) : Convention → Prop
  | value => False
  | success => r.int = 0
  | state => r.int ≠ 0 ∧ r.int ≠ 1
  | session => r.returned = 0

/-- A commit that is not possible is no failure. -/
def convention : Call → Convention
  | .login _ => .session
  | .logout | .abort | .beginTransaction | .nbExecute _ | .nbPerform _ | .interrupt _
  | .clearStack _ | .storeBytes .. | .storeOops .. | .storeTraversal .. | .oopToInt _
  | .oopToDouble _ => .success
  | .nbPoll _ | .fetchTraversal .. | .moreTraversal _ => .state
  | _ => .value

/-- What was fetched is no longer than what was asked for. -/
def Within : (call : Call) → call.Value → Prop
  | .executeFetchBytes _ max, bytes => bytes.length ≤ max
  | .performFetchBytes _ max, bytes => bytes.length ≤ max
  | .fetchBytes _ _ max, bytes => bytes.length ≤ max
  | .fetchUtf8Bytes _ _ max, fetched => fetched.bytes.length ≤ max
  | .fetchOops _ _ count, oops => oops.length ≤ count
  | _, _ => True

/-- The result goes by the error structure first. -/
structure Settles {α : Type} (r : ForeignReply) (way : Convention) (within : α → Prop)
    (result : Except CallError α) : Prop where
  failed : r.error.number ≠ 0 → ∃ record, result = .error (.vm record) ∧ Decodes r.error record
  refused : r.error.number = 0 → way.Refuses r →
    ∃ record, result = .error (.vm record) ∧ record.number = -1
  answered : r.error.number = 0 → ¬way.Refuses r → ∃ value, result = .ok value ∧ within value

section

variable {α : Type} {r : ForeignReply} {within : α → Prop} {value : α}

theorem isSuccess_record_iff (e : ErrorStruct) : e.record.isSuccess = true ↔ e.number = 0 := by
  simp only [ErrorRecord.isSuccess, ErrorStruct.record, beq_iff_eq]
  exact ⟨fun zero => Int32.toInt_inj.mp zero, fun zero => zero ▸ rfl⟩

theorem check_of_zero (zero : r.error.number = 0) (value : α) : r.check value = .ok value :=
  if_pos ((isSuccess_record_iff _).mpr zero)

theorem check_of_ne_zero (ne : r.error.number ≠ 0) (value : α) :
    r.check value = .error (.vm r.error.record) :=
  if_neg fun success => ne ((isSuccess_record_iff _).mp success)

theorem settles_check (holds : within value) : Settles r .value within (r.check value) where
  failed ne := ⟨_, check_of_ne_zero ne value, decodes_record _⟩
  refused _ := nofun
  answered zero _ := ⟨value, check_of_zero zero value, holds⟩

/-- What is done with a value that was checked. -/
theorem settles_bind {β : Type} {way : Convention} {next : β → Except CallError α} {b : β}
    (refused : way.Refuses r → ∃ text, next b = .error (ForeignReply.failure text))
    (answered : ¬way.Refuses r → ∃ value, next b = .ok value ∧ within value) :
    Settles r way within (r.check b >>= next) where
  failed ne := ⟨_, by rw [check_of_ne_zero ne]; rfl, decodes_record _⟩
  refused zero refuses := by
    obtain ⟨text, eq⟩ := refused refuses
    exact ⟨.ofMessage (-1) text, by rw [check_of_zero zero]; exact eq, rfl⟩
  answered zero accepts := by
    rw [check_of_zero zero]
    exact answered accepts

theorem Settles.map {β : Type} {way : Convention} {within' : β → Prop}
    {result : Except CallError α} (settles : Settles r way within result) {f : α → β}
    (keeps : ∀ a, within a → within' (f a)) : Settles r way within' (result.map f) where
  failed ne := by
    obtain ⟨record, rfl, decodes⟩ := settles.failed ne
    exact ⟨record, rfl, decodes⟩
  refused zero refuses := by
    obtain ⟨record, rfl, number⟩ := settles.refused zero refuses
    exact ⟨record, rfl, number⟩
  answered zero accepts := by
    obtain ⟨a, rfl, holds⟩ := settles.answered zero accepts
    exact ⟨f a, rfl, keeps a holds⟩

theorem settles_done (r : ForeignReply) : Settles r .success (fun _ => True) r.done where
  failed ne := by
    have spoken : ¬(r.int = 0 ∧ r.error.record.isSuccess = true) :=
      fun silent => ne ((isSuccess_record_iff _).mp silent.2)
    refine ⟨_, ?_, decodes_record _⟩
    rw [ForeignReply.done, if_neg spoken]
    exact check_of_ne_zero ne ()
  refused zero refuses := by
    refine ⟨{ r.error.record with
      number := -1, message := "call failed without an error record" }, ?_, rfl⟩
    rw [ForeignReply.done, if_pos ⟨refuses, (isSuccess_record_iff _).mpr zero⟩]
  answered zero accepts := by
    refine ⟨(), ?_, trivial⟩
    rw [ForeignReply.done, if_neg fun silent => accepts silent.1]
    exact check_of_zero zero ()

theorem length_buffer_le (r : ForeignReply) (max : Nat) (n : Int) :
    (r.buffer max n).length ≤ max :=
  Nat.le_trans (List.length_take_le _ _) (Nat.min_le_right _ _)

theorem settles_state (r : ForeignReply) {finished more : α} (text : Int → String) :
    Settles r .state (fun _ => True) (do
      match ← r.check r.int with
      | 1 => return finished
      | 0 => return more
      | status => throw (ForeignReply.failure (text status))) := by
  refine settles_bind (fun unknown => ?_) fun known => ?_
  · split
    · next one => exact absurd one unknown.2
    · next zero => exact absurd zero unknown.1
    · exact ⟨_, rfl⟩
  · split
    · exact ⟨_, rfl, trivial⟩
    · exact ⟨_, rfl, trivial⟩
    · next other_one other_zero => exact absurd ⟨other_zero, other_one⟩ known

theorem settles_pollStatus (r : ForeignReply) : Settles r .state (fun _ => True) r.pollStatus :=
  settles_state r fun status => s!"poll failed with status {status}"

theorem settles_page (r : ForeignReply) : Settles r .state (fun _ => True) r.page :=
  settles_state r fun status => s!"traversal failed with status {status}"

theorem settles_handle (r : ForeignReply) : Settles r .session (fun _ => True) r.handle := by
  refine settles_bind (fun null => ?_) fun given => ?_
  · exact ⟨_, by rw [if_pos (show r.returned = 0 from null)]; rfl⟩
  · exact ⟨_, by rw [if_neg (show ¬r.returned = 0 from given)]; rfl, trivial⟩

end

def outcome : (call : Call) → call.Reply → Except CallError call.Value
  | .version => .ok
  | .nbPoll _ => PollReply.status
  | .login _ | .logout | .abort | .beginTransaction | .commit | .resolveSymbol .. | .execute _
  | .executeFetchBytes .. | .perform _ | .performFetchBytes .. | .compileMethod _ | .nbExecute _
  | .nbPerform _ | .nbResult | .interrupt _ | .clearStack _ | .continueWith .. | .fetchClass _
  | .fetchSize _ | .fetchVaryingSize _ | .fetchObjectInfo _ | .fetchBytes .. | .fetchUtf8Bytes ..
  | .storeBytes .. | .fetchOops .. | .storeOops .. | .newObject _ | .newString _ | .newSymbol _
  | .intToOop _ | .oopToInt _ | .doubleToOop _ | .oopToDouble _ | .fetchTraversal ..
  | .moreTraversal _ | .storeTraversal .. => id

theorem settles_interpret {call : Call} (other : call ≠ .version) (r : ForeignReply) :
    Settles r (convention call) (Within call) (outcome call (interpret r call)) := by
  cases call with
  | version => exact absurd rfl other
  | login => exact settles_handle r
  | logout | abort | beginTransaction | nbExecute | nbPerform | interrupt | clearStack | storeBytes
  | storeOops | storeTraversal => exact settles_done r
  | oopToInt | oopToDouble => exact (settles_done r).map fun _ _ => trivial
  | nbPoll => exact settles_pollStatus r
  | fetchTraversal | moreTraversal => exact settles_page r
  | executeFetchBytes _ max | performFetchBytes _ max | fetchBytes _ _ max
  | fetchUtf8Bytes _ _ max => exact settles_check (length_buffer_le r max r.long)
  | fetchOops _ _ count =>
      exact settles_check (Nat.le_trans (List.length_take_le _ _) (Nat.min_le_right _ _))
  | commit | resolveSymbol | execute | perform | compileMethod | nbResult | continueWith
  | fetchClass | fetchSize | fetchVaryingSize | fetchObjectInfo | newObject | newString | newSymbol
  | intToOop | doubleToOop => exact settles_check trivial

/-! ## Requests -/

theorem outcome_refuse {call : Call} (other : call ≠ .version) (cause : BadArgument) :
    outcome call (refuse cause call) = .error (.invalidArgument cause) := by
  cases call with
  | version => exact absurd rfl other
  | _ => rfl

/-- What C can take is put to it in one call, and the result goes by the error structure of the reply,
then by what was returned; it is no longer than was asked for. All else is refused and nothing is called.
Whatever the library does on other calls makes no difference. -/
theorem request_settled (library : Library) (handle : Option Handle) (call : Call)
    (other : call ≠ .version) :
    (Passable call → ∃ f, foreignCalls call = [f] ∧
      Settles (library handle f) (convention call) (Within call)
        (outcome call (request library handle call))) ∧
    (¬Passable call → foreignCalls call = [] ∧
      ∃ cause, outcome call (request library handle call) = .error (.invalidArgument cause)) ∧
    ∀ library' : Library, (∀ f ∈ foreignCalls call, library' handle f = library handle f) →
      request library' handle call = request library handle call := by
  have allowed := isOk_prepare_iff call
  cases prepared : prepare call with
  | ok f =>
      rw [prepared] at allowed
      have called : foreignCalls call = [f] := by rw [foreignCalls, prepared]; rfl
      have requested (library : Library) :
          request library handle call = interpret (library handle f) call := by
        rw [request, prepared]
      refine ⟨fun _ => ⟨f, called, ?_⟩, fun barred => absurd (allowed.mp rfl) barred,
        fun library' same => ?_⟩
      · rw [requested]
        exact settles_interpret other _
      · rw [requested, requested, same f (called ▸ List.mem_cons_self)]
  | error cause =>
      rw [prepared] at allowed
      have called : foreignCalls call = [] := by rw [foreignCalls, prepared]; rfl
      have requested (library : Library) : request library handle call = refuse cause call := by
        rw [request, prepared]
      refine ⟨fun passable => (nomatch allowed.mpr passable),
        fun _ => ⟨called, cause, ?_⟩, fun library' _ => ?_⟩
      · rw [requested]
        exact outcome_refuse other cause
      · rw [requested, requested]

/-- Five references where two were asked for, a failure that counts twelve arguments, and a text that is
not passed on. -/
theorem request_settled_awkward :
    let lavish : Library := fun _ _ => { returned := 5, oops := List.replicate 5 .nil }
    let failing : Library := fun _ _ => { returned := 1, error := { number := 2010, argCount := 12 } }
    (Passable (.fetchOops .nil 1 2) ∧
      ∃ oops, outcome _ (request lavish none (.fetchOops .nil 1 2)) = .ok oops ∧ oops.length ≤ 2) ∧
    (Passable .logout ∧ ∃ record, outcome _ (request failing none .logout) = .error (.vm record) ∧
      record.number = 2010 ∧ record.args.length = 10) ∧
    ¬Passable (.newString "a\x00b") ∧ foreignCalls (.newString "a\x00b") = [] ∧
      ∃ cause, outcome _ (request failing none (.newString "a\x00b")) =
        .error (.invalidArgument cause) := by
  intro lavish failing
  have bounded : Passable (.fetchOops .nil 1 2) := by decide
  have plain : Passable .logout := by decide
  have broken : ¬Passable (.newString "a\x00b") := by decide
  obtain ⟨f, -, settles⟩ := (request_settled lavish none (.fetchOops .nil 1 2) nofun).1 bounded
  obtain ⟨g, -, settles'⟩ := (request_settled failing none .logout nofun).1 plain
  obtain ⟨record, failed, decodes⟩ := settles'.failed (by decide)
  exact ⟨⟨bounded, settles.answered rfl id⟩,
    ⟨plain, record, failed, decodes.number, by rw [decodes.args]; rfl⟩,
    broken, (request_settled failing none (.newString "a\x00b") nofun).2.1 broken⟩

end StoneDebug.Foreign
