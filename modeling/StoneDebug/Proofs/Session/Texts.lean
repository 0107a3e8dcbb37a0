import Mathlib.Data.List.Forall2
import StoneDebug.Proofs.Foreign.Replies
import StoneDebug.Proofs.Oop.Predicates
import StoneDebug.Proofs.Session.Busy
import StoneDebug.Proofs.Text.Encoding

/-! # Texts of the VM

The text of a String or Symbol is fetched whole: where the first fetch falls short, a second one asks
for all bytes and takes the place of the first. The result of an evaluation is fetched once, and what
does not fit is cut off. The cut is made between bytes and not between characters.
-/

namespace StoneDebug

open Text

/-! ## A VM that gives known replies -/

namespace VM

/-- The VM gives this reply whenever the session makes the call. -/
def Replies (vm : VM) (s : Session) (c : Call) (reply : c.Reply) : Prop :=
  ∀ history, vm history (some s.handle) c = reply

/-- The VM gives as many of these bytes as it is asked for, and says how many there are. -/
def Tells (vm : VM) (s : Session) (oop : Oop) (bytes : Utf8.Bytes) : Prop :=
  ∀ max, vm.Replies s (.fetchUtf8Bytes oop 1 max) (.ok ⟨bytes.take max, bytes.length⟩)

/-- What there is to be read of a text. -/
inductive Reads (vm : VM) (s : Session) (oop : Oop) : Except CallError Utf8.Bytes → Prop
  | whole {bytes : Utf8.Bytes} (tells : vm.Tells s oop bytes) : Reads vm s oop (.ok bytes)
  /-- The first fetch fails. -/
  | refused {e : CallError}
    (fails : vm.Replies s (.fetchUtf8Bytes oop 1 maxNameSize) (.error e)) : Reads vm s oop (.error e)
  /-- The first fetch falls short, and the second one fails. -/
  | broken {bytes : Utf8.Bytes} {e : CallError} (long : maxNameSize < bytes.length)
    (first : vm.Replies s (.fetchUtf8Bytes oop 1 maxNameSize)
      (.ok ⟨bytes.take maxNameSize, bytes.length⟩))
    (fails : vm.Replies s (.fetchUtf8Bytes oop 1 bytes.length) (.error e)) :
    Reads vm s oop (.error e)

/-- What there is to be read of an Array. -/
inductive Lists (vm : VM) (s : Session) (array : Oop) : Except CallError (List Oop) → Prop
  | slots {slots : List Oop} (size : vm.Replies s (.fetchSize array) (.ok slots.length))
    (given : slots ≠ [] → vm.Replies s (.fetchOops array 1 slots.length) (.ok slots)) :
    Lists vm s array (.ok slots)
  | unsized {e : CallError} (fails : vm.Replies s (.fetchSize array) (.error e)) :
    Lists vm s array (.error e)
  | unlisted {count : Nat} {e : CallError} (any : 0 < count)
    (size : vm.Replies s (.fetchSize array) (.ok count))
    (fails : vm.Replies s (.fetchOops array 1 count) (.error e)) : Lists vm s array (.error e)

/-- A C library tells the bytes when it writes them as far as there is room and returns how many there
are. -/
theorem tells_of_library {library : Foreign.Library} {s : Session} {oop : Oop} {bytes : Utf8.Bytes}
    (fills : ∀ max f, Foreign.prepare (.fetchUtf8Bytes oop 1 max) = .ok f →
      let reply := library (some s.handle) f
      reply.error.number = 0 ∧ reply.long = bytes.length ∧
        reply.written.take max = bytes.take max) :
    Tells (fun _ => Foreign.request library) s oop bytes := by
  intro max history
  obtain ⟨success, count, written⟩ := fills max _ rfl
  show Foreign.ForeignReply.check _ _ = _
  have fits : min bytes.length max ≤ (bytes.take max).length := by
    rw [List.length_take]
    omega
  rw [Foreign.check_of_zero success, Foreign.ForeignReply.buffer, written, count, Int.toNat_natCast,
    List.take_append_of_le_length fits, List.take_take, Nat.min_eq_left (Nat.min_le_right _ _),
    Nat.min_comm, ← List.take_eq_take_min]

end VM

namespace Session

variable {s : Session} {w w₁ : World} {oop array : Oop} {slots : List Oop}
  {content : Except CallError Utf8.Bytes} {contents : List (Except CallError Utf8.Bytes)}

theorem call_of_replies {c : Call} {reply : c.Reply} (replies : w.vm.Replies s c reply)
    (earlier : List Exchange) : s.call c (w.noting earlier) =
      (reply, w.noting (earlier ++ [⟨some s.handle, c, reply⟩])) := by
  rw [← World.noting_noting, ← replies (w.noting earlier).transcript]
  rfl

theorem call_of_replies_first {c : Call} {reply : c.Reply} (replies : w.vm.Replies s c reply) :
    s.call c w = (reply, w.noting [⟨some s.handle, c, reply⟩]) := by
  have called := call_of_replies replies []
  rwa [World.noting_nil] at called

/-- On an idle session a request is just its call. -/
theorem request_of_idle {α : Type} {act : Act (Except CallError α)} {reply : Except CallError α}
    {w' : World} (idle : w.callState s.id = .idle) (called : act w = (reply, w')) :
    s.request act w = (reply, w') := (attempt_bind_ok (ensureIdle_of_idle idle)).trans called

/-- Draining goes on with the same VM. -/
theorem vm_of_ensureIdle (passed : s.ensureIdle w = (.ok (), w₁)) : w₁.vm = w.vm := by
  have same := s.carries_sameVM.ensureIdle w
  rwa [ExceptT.run, passed] at same

/-! ## Whole texts -/

/-- A text is read as it is from an idle session, by two calls at most. -/
theorem fetchString_of_idle (idle : w.callState s.id = .idle) (reads : w.vm.Reads s oop content) :
    ∃ asked, asked.length ≤ 2 ∧
      s.fetchString oop w = (content.map Utf8.decodeLossy, w.noting asked) := by
  have first {reply : Except CallError Utf8Fetch}
      (replies : w.vm.Replies s (.fetchUtf8Bytes oop 1 maxNameSize) reply) :
      s.request (s.call (.fetchUtf8Bytes oop 1 maxNameSize)) w =
        (reply, w.noting [⟨some s.handle, .fetchUtf8Bytes oop 1 maxNameSize, reply⟩]) :=
    request_of_idle idle (call_of_replies_first replies)
  have second {max : Nat} {reply : Except CallError Utf8Fetch}
      (replies : w.vm.Replies s (.fetchUtf8Bytes oop 1 max) reply) (earlier : List Exchange) :
      (ExceptT.mk (s.call (.fetchUtf8Bytes oop 1 max)) : Attempt Utf8Fetch) (w.noting earlier) =
        (reply, w.noting (earlier ++ [⟨some s.handle, .fetchUtf8Bytes oop 1 max, reply⟩])) :=
    call_of_replies replies earlier
  have short {bytes : Utf8.Bytes} (long : maxNameSize < bytes.length) :
      bytes.length > (bytes.take maxNameSize).length := by
    rw [List.length_take]
    omega
  cases reads with
  | @whole bytes tells =>
      rw [fetchString, attempt_bind_ok (first (tells maxNameSize))]
      dsimp only
      by_cases long : maxNameSize < bytes.length
      · rw [if_pos (short long), attempt_bind_ok (second (tells bytes.length) _), List.take_length]
        exact ⟨[_, _], Nat.le_refl 2, rfl⟩
      · have all : bytes.take maxNameSize = bytes := List.take_of_length_le (Nat.le_of_not_lt long)
        rw [all, if_neg (Nat.lt_irrefl _)]
        exact ⟨[_], Nat.le_succ 1, rfl⟩
  | refused fails =>
      rw [fetchString, attempt_bind_error (first fails)]
      exact ⟨[_], Nat.le_succ 1, rfl⟩
  | broken long partly fails =>
      rw [fetchString, attempt_bind_ok (first partly)]
      dsimp only
      rw [if_pos (short long), attempt_bind_error (second fails _)]
      exact ⟨[_, _], Nat.le_refl 2, rfl⟩

/-- Texts are read one after the other, up to the first that cannot be read. -/
theorem fetchStrings_of_idle (idle : w.callState s.id = .idle)
    (reads : List.Forall₂ (w.vm.Reads s) slots contents) :
    ∃ asked, asked.length ≤ 2 * slots.length ∧
      s.fetchStrings slots w = (contents.mapM (·.map Utf8.decodeLossy), w.noting asked) := by
  induction slots generalizing w contents with
  | nil =>
      cases reads
      exact ⟨[], Nat.le_refl _, by rw [World.noting_nil]; rfl⟩
  | cons slot slots ih =>
      cases reads with
      | @cons _ content _ contents first others =>
          obtain ⟨asked, few, ran⟩ := fetchString_of_idle idle first
          have few' : asked.length ≤ 2 * (slots.length + 1) := by omega
          cases content with
          | error e =>
              rw [fetchStrings, attempt_bind_error ran]
              exact ⟨asked, few', by rw [List.mapM_cons]; rfl⟩
          | ok bytes =>
              have idle' : (w.noting asked).callState s.id = .idle := idle
              obtain ⟨later, few'', ran'⟩ := ih idle' others
              rw [fetchStrings, attempt_bind_ok ran, attempt_bind_apply, ran', World.noting_noting]
              refine ⟨asked ++ later, by rw [List.length_append, List.length_cons]; omega, ?_⟩
              rw [List.mapM_cons]
              cases contents.mapM (·.map Utf8.decodeLossy) <;> rfl

theorem fetchAllOops_of_lists {listing : Except CallError (List Oop)}
    (idle : w.callState s.id = .idle) (lists : w.vm.Lists s array listing) :
    ∃ asked, asked.length ≤ 2 ∧ s.fetchAllOops array w = (listing, w.noting asked) := by
  have first {reply : Except CallError Int} (replies : w.vm.Replies s (.fetchSize array) reply) :
      s.request (s.call (.fetchSize array)) w =
        (reply, w.noting [⟨some s.handle, .fetchSize array, reply⟩]) :=
    request_of_idle idle (call_of_replies_first replies)
  cases lists with
  | @slots slots size given =>
      rw [fetchAllOops, attempt_bind_ok (first size)]
      by_cases empty : slots = []
      · subst empty
        exact ⟨[_], Nat.le_succ 1, rfl⟩
      · have some : ¬(slots.length : Int) ≤ 0 := by
          have any := List.length_pos_iff.mpr empty
          omega
        rw [if_neg some, Int.toNat_natCast]
        exact ⟨[_, _], Nat.le_refl 2, call_of_replies (given empty) _⟩
  | unsized fails =>
      rw [fetchAllOops, attempt_bind_error (first fails)]
      exact ⟨[_], Nat.le_succ 1, rfl⟩
  | @unlisted count e any size fails =>
      have some : ¬(count : Int) ≤ 0 := by omega
      rw [fetchAllOops, attempt_bind_ok (first size), if_neg some, Int.toNat_natCast]
      exact ⟨[_, _], Nat.le_refl 2, call_of_replies fails _⟩

/-- What comes of texts when the guard lets the session be asked, from `w₁` on. -/
structure FetchesTexts (s : Session) (w w₁ : World) : Prop where
  /-- An idle session is asked from where it is. -/
  start : w.callState s.id = .idle → w₁ = w
  /-- All bytes are read, however many there are, by two calls at most. -/
  bytes : ∀ oop bytes, w.vm.Tells s oop bytes → ∃ asked, asked.length ≤ 2 ∧
    s.fetchString oop w = (.ok (Utf8.decodeLossy bytes), w₁.noting asked)
  /-- No character suffers from where the first fetch ends. -/
  text : ∀ oop text, w.vm.Tells s oop (Utf8.encode text) → (s.fetchString oop w).1 = .ok text
  /-- The texts of an Array are all read in order, or the first failure is the result. -/
  array : ∀ array slots contents, array.isNil = false → w.vm.Lists s array (.ok slots) →
    List.Forall₂ (w.vm.Reads s) slots contents → ∃ asked, asked.length ≤ 2 + 2 * slots.length ∧
      s.fetchStringArray array w = (contents.mapM (·.map Utf8.decodeLossy), w₁.noting asked)
  unlisted : ∀ array e, array.isNil = false → w.vm.Lists s array (.error e) →
    ∃ asked, asked.length ≤ 2 ∧ s.fetchStringArray array w = (.error e, w₁.noting asked)

/-- Texts are fetched whole, by themselves and in Arrays. -/
theorem fetchString_whole (passed : s.ensureIdle w = (.ok (), w₁)) : FetchesTexts s w w₁ := by
  have idle : w₁.callState s.id = .idle := idle_of_ensureIdle passed
  have same : w₁.vm = w.vm := vm_of_ensureIdle passed
  have bytes (oop : Oop) (bytes : Utf8.Bytes) (tells : w.vm.Tells s oop bytes) :
      ∃ asked, asked.length ≤ 2 ∧
        s.fetchString oop w = (.ok (Utf8.decodeLossy bytes), w₁.noting asked) := by
    have moved : s.fetchString oop w = s.fetchString oop w₁ :=
      (@Operation.heeds s (.fetchString oop) rfl).passed passed
    rw [moved]
    exact fetchString_of_idle idle (.whole (same ▸ tells))
  have opened {array : Oop} (any : array.isNil = false) : s.fetchStringArray array w =
      (s.fetchAllOops array >>= s.fetchStrings) w₁ := by
    have remote : (Operation.fetchStringArray array).local? = none := if_neg (by simp [any])
    have moved : s.fetchStringArray array w = s.fetchStringArray array w₁ :=
      (Operation.heeds remote).passed passed
    rw [moved, fetchStringArray, if_neg (by simp [any])]
  refine ⟨fun rests => ?_, bytes, fun oop text tells => ?_,
    fun array slots contents any lists reads => ?_, fun array e any lists => ?_⟩
  · rw [ensureIdle_of_idle rests] at passed
    cases passed
    rfl
  · obtain ⟨asked, _, ran⟩ := bytes oop _ tells
    rw [ran, Utf8.decodeLossy_encode]
  · obtain ⟨asked, few, ran⟩ := fetchAllOops_of_lists idle (same ▸ lists)
    have idle' : (w₁.noting asked).callState s.id = .idle := idle
    have reads' : List.Forall₂ ((w₁.noting asked).vm.Reads s) slots contents := by
      show List.Forall₂ (w₁.vm.Reads s) slots contents
      rwa [same]
    obtain ⟨later, few', ran'⟩ := fetchStrings_of_idle idle' reads'
    refine ⟨asked ++ later, by rw [List.length_append]; omega, ?_⟩
    rw [opened any, attempt_bind_ok ran, ran', World.noting_noting]
  · obtain ⟨asked, few, ran⟩ := fetchAllOops_of_lists idle (same ▸ lists)
    exact ⟨asked, few, by rw [opened any, attempt_bind_error ran]⟩

/-- The last character of the text lies across the end of the first fetch, and both slots of an Array
hold the text. -/
theorem fetchString_whole_straddling :
    let kept := List.replicate 1023 'a'
    let text := String.ofList (kept ++ ['é'])
    let library : Foreign.Library := fun _ call =>
      if call.function = "GciTsFetchSize" then { returned := 2 }
      else if call.function = "GciTsFetchOops" then
        { returned := 2, oops := [.ofNat 513, .ofNat 513] }
      else { returned := 1025, written := Utf8.encode text }
    let s : Session := ⟨1, ⟨9⟩, ""⟩
    let w : World := { vm := fun _ => Foreign.request library, horizon := 0 }
    (Utf8.encodeChars kept).length < maxNameSize ∧ maxNameSize < (Utf8.encode text).length ∧
      s.ensureIdle w = (.ok (), w) ∧ (s.fetchString (.ofNat 513) w).1 = .ok text ∧
      (s.fetchStringArray (.ofNat 521) w).1 = .ok [text, text] := by
  intro kept text library s w
  have before : (Utf8.encodeChars kept).length = 1023 := Utf8.length_encodeChars_replicate 1023 'a'
  have length : (Utf8.encode text).length = 1025 := by
    rw [Utf8.encode, String.toList_ofList, Utf8.encodeChars_append, List.length_append, before]
    rfl
  -- From here on the text counts by its length only.
  clear_value text
  have passed : s.ensureIdle w = (.ok (), w) := rfl
  have tells : w.vm.Tells s (.ofNat 513) (Utf8.encode text) := by
    refine VM.tells_of_library fun max f prepared => ?_
    cases prepared
    exact ⟨rfl, by rw [length]; rfl, rfl⟩
  have lists : w.vm.Lists s (.ofNat 521) (.ok [.ofNat 513, .ofNat 513]) :=
    .slots (fun _ => rfl) fun _ _ => rfl
  have reads := VM.Reads.whole tells
  have fetches := fetchString_whole passed
  obtain ⟨_, _, array⟩ := fetches.array (.ofNat 521) _ _ rfl lists (.cons reads (.cons reads .nil))
  refine ⟨by rw [before]; decide, by rw [length]; decide, passed, fetches.text _ text tells, ?_⟩
  have same : (Except.ok (Utf8.encode text) : Except CallError _).map Utf8.decodeLossy = .ok text :=
    congrArg Except.ok (Utf8.decodeLossy_encode text)
  rw [array, List.mapM_cons, List.mapM_cons, List.mapM_nil, same]
  rfl

/-! ## Cut texts -/

theorem executeString_of_idle {source : String} {bytes : Utf8.Bytes}
    (idle : w.callState s.id = .idle) (wraps : (s.helperClass w).1.isOk = true)
    (holds : ∀ sourceClass,
      w.vm.Replies s (.executeFetchBytes { source, sourceClass } maxResultSize) (.ok bytes)) :
    (s.executeString source w).1 = .ok (Utf8.decodeLossy bytes) := by
  cases wrapped : s.helperClass w with
  | mk outcome w' =>
      cases outcome with
      | error e => rw [wrapped] at wraps; cases wraps
      | ok sourceClass =>
          have same : w'.vm = w.vm := by
            have kept := s.carries_sameVM.helperClass w
            rwa [ExceptT.run, wrapped] at kept
          have prepared : s.execution source (fun e => e) w = (.ok { source, sourceClass }, w') := by
            rw [execution, attempt_bind_ok (ensureIdle_of_idle idle), attempt_bind_ok wrapped]
            rfl
          have replies : w'.vm.Replies s (.executeFetchBytes { source, sourceClass } maxResultSize)
              (.ok bytes) := same ▸ holds sourceClass
          rw [executeString, attempt_bind_ok prepared]
          exact congrArg Prod.fst (attempt_bind_ok (call_of_replies_first replies))

theorem performString_of_idle {receiver : Oop} {selector : String} {args : List Oop}
    {bytes : Utf8.Bytes} (idle : w.callState s.id = .idle)
    (holds : w.vm.Replies s (.performFetchBytes { receiver, selector, args } maxResultSize)
      (.ok bytes)) :
    (s.performString receiver selector args w).1 = .ok (Utf8.decodeLossy bytes) :=
  congrArg Prod.fst (attempt_bind_ok (request_of_idle idle (call_of_replies_first holds)))

/-- The VM is asked to print an object of the heap. -/
theorem printString_of_isHeapRef (heap : oop.isHeapRef = true) :
    s.printString oop = s.performString oop "printString" [] := by
  obtain ⟨raw, read⟩ := Oop.isHeapRef_iff.mp heap
  rw [printString, read]
  rfl

structure Shown (text shown : String) : Prop where
  cut : Utf8.Cut maxResultSize text.toList shown.toList
  whole : (Utf8.encode text).length ≤ maxResultSize → shown = text

theorem shown_decodeLossy_take (text : String) :
    Shown text (Utf8.decodeLossy ((Utf8.encode text).take maxResultSize)) := by
  have cut := Utf8.cut_decodeLossyChars_take maxResultSize text.toList
  refine ⟨by rwa [Utf8.decodeLossy, String.toList_ofList], fun fits => ?_⟩
  rw [Utf8.decodeLossy, Utf8.encode, cut.eq_of_fits fits, String.ofList_toList]

/-- What comes of the results of evaluations when the guard lets the session be asked, from `w₁` on.
The VM gives as many bytes of a text as it is asked for. -/
structure ShowsResults (s : Session) (w w₁ : World) : Prop where
  executed : ∀ source text, (s.helperClass w₁).1.isOk = true →
    (∀ sourceClass max, w.vm.Replies s (.executeFetchBytes { source, sourceClass } max)
      (.ok ((Utf8.encode text).take max))) →
    ∃ shown, (s.executeString source w).1 = .ok shown ∧ Shown text shown
  performed : ∀ receiver selector args text,
    (∀ max, w.vm.Replies s (.performFetchBytes { receiver, selector, args } max)
      (.ok ((Utf8.encode text).take max))) →
    ∃ shown, (s.performString receiver selector args w).1 = .ok shown ∧ Shown text shown
  printed : ∀ oop text, oop.isHeapRef = true →
    (∀ max, w.vm.Replies s
      (.performFetchBytes { receiver := oop, selector := "printString", args := [] } max)
      (.ok ((Utf8.encode text).take max))) →
    ∃ shown, (s.printString oop w).1 = .ok shown ∧ Shown text shown

/-- Evaluating, sending a message and printing all show a result as far as there is room for it. -/
theorem results_cut (passed : s.ensureIdle w = (.ok (), w₁)) : ShowsResults s w w₁ := by
  have idle : w₁.callState s.id = .idle := idle_of_ensureIdle passed
  have same : w₁.vm = w.vm := vm_of_ensureIdle passed
  have performed (receiver : Oop) (selector : String) (args : List Oop) (text : String)
      (holds : ∀ max, w.vm.Replies s (.performFetchBytes { receiver, selector, args } max)
        (.ok ((Utf8.encode text).take max))) :
      ∃ shown, (s.performString receiver selector args w).1 = .ok shown ∧ Shown text shown := by
    have moved : s.performString receiver selector args w =
        s.performString receiver selector args w₁ :=
      (@Operation.heeds s (.performString receiver selector args) rfl).passed passed
    rw [moved]
    exact ⟨_, performString_of_idle idle (same ▸ holds maxResultSize), shown_decodeLossy_take text⟩
  refine ⟨fun source text wraps holds => ?_, performed, fun oop text heap holds => ?_⟩
  · have moved : s.executeString source w = s.executeString source w₁ :=
      (@Operation.heeds s (.executeString source) rfl).passed passed
    rw [moved]
    exact ⟨_, executeString_of_idle idle wraps (same ▸ (holds · maxResultSize)),
      shown_decodeLossy_take text⟩
  · rw [printString_of_isHeapRef heap]
    exact performed oop "printString" [] text holds

/-- The VM has one text as the result of every evaluation. -/
def answering (text : String) : VM := fun _ _ c =>
  match c with
  | .executeFetchBytes _ max | .performFetchBytes _ max => .ok ((Utf8.encode text).take max)
  | .resolveSymbol .. => .ok (.ofNat 1025)
  | c => Foreign.refuse (.other "") c

/-- A text that ends with a wide character and takes all the room there is. -/
theorem results_cut_filling :
    let text := String.ofList (List.replicate 65534 'a' ++ ['é'])
    let s : Session := ⟨1, ⟨9⟩, ""⟩
    let w : World := { vm := answering text, horizon := 0 }
    (Utf8.encode text).length = maxResultSize ∧ s.ensureIdle w = (.ok (), w) ∧
      (s.executeString "text" w).1 = .ok text ∧
      (s.performString (.ofNat 257) "text" [] w).1 = .ok text ∧
      (Oop.ofNat 257).isHeapRef = true ∧ (s.printString (.ofNat 257) w).1 = .ok text := by
  intro text s w
  have length : (Utf8.encode text).length = 65536 := by
    rw [Utf8.encode, String.toList_ofList, Utf8.encodeChars_append, List.length_append,
      Utf8.length_encodeChars_replicate]
    rfl
  clear_value text
  have passed : s.ensureIdle w = (.ok (), w) := rfl
  have shows := results_cut passed
  have fits : (Utf8.encode text).length ≤ maxResultSize := Nat.le_of_eq length
  obtain ⟨executed, ran, isText⟩ := shows.executed "text" text rfl fun _ _ _ => rfl
  obtain ⟨performed, ran', isText'⟩ := shows.performed (.ofNat 257) "text" [] text fun _ _ => rfl
  obtain ⟨printed, ran'', isText''⟩ := shows.printed (.ofNat 257) text rfl fun _ _ => rfl
  rw [isText.whole fits] at ran
  rw [isText'.whole fits] at ran'
  rw [isText''.whole fits] at ran''
  exact ⟨length, passed, ran, ran', rfl, ran''⟩

/-- A character of two bytes lies across the end of the room. In its place stands U+FFFD, so that what
is shown is no part of the text. -/
theorem results_no_prefix :
    let kept := List.replicate 65535 'a'
    let text := String.ofList (kept ++ ['é'])
    let shown := String.ofList (kept ++ ['\uFFFD'])
    let s : Session := ⟨1, ⟨9⟩, ""⟩
    let w : World := { vm := answering text, horizon := 0 }
    (s.executeString "text" w).1 = .ok shown ∧
      (s.performString (.ofNat 257) "text" [] w).1 = .ok shown ∧
      (Oop.ofNat 257).isHeapRef = true ∧ (s.printString (.ofNat 257) w).1 = .ok shown ∧
      ¬shown.toList <+: text.toList := by
  intro kept text shown s w
  have before : (Utf8.encodeChars kept).length = 65535 :=
    Utf8.length_encodeChars_replicate 65535 'a'
  have read : Utf8.decodeLossy ((Utf8.encode text).take maxResultSize) = shown := by
    have within : (Utf8.encodeChars kept).length < maxResultSize := by
      rw [before]
      decide
    have behind : maxResultSize < (Utf8.encodeChars (kept ++ ['é'])).length := by
      rw [Utf8.encodeChars_append, List.length_append, before]
      decide
    rw [Utf8.decodeLossy, Utf8.encode, String.toList_ofList,
      Utf8.decodeLossyChars_take_of_within within behind []]
  have differs : ¬shown.toList <+: text.toList := by
    rw [String.toList_ofList, String.toList_ofList, List.prefix_append_right_inj]
    decide
  clear_value text shown kept
  have idle : w.callState s.id = .idle := rfl
  rw [← read] at differs ⊢
  exact ⟨executeString_of_idle idle rfl fun _ _ => rfl, performString_of_idle idle fun _ => rfl, rfl,
    performString_of_idle idle fun _ => rfl, differs⟩

end Session

end StoneDebug
