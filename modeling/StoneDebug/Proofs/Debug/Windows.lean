import Mathlib.Data.List.Forall2
import StoneDebug.Proofs.Debug.Variables
import StoneDebug.Proofs.Session.Busy

/-! # Windows on indexed slots

Long lists of slots are shown a window at a time. Consecutive windows show every slot once and in order,
under the name and with the value that it has in the whole list, and a window that reaches beyond the
last slot shows those that exist. Window starts count from 0, names and the slots of the VM from 1, and
to the VM the named slots come before the indexed ones.
-/

namespace StoneDebug

/-! ## Parts of lists -/

namespace Window

variable {α β : Type}

def slice (window : Window) (list : List α) : List α :=
  (list.drop window.start).take (window.count.getD list.length)

/-- Windows of these lengths, each starting where the one before it ends. -/
def cut (start : Nat) : List Nat → List Window
  | [] => []
  | length :: lengths => ⟨start, some length⟩ :: cut (start + length) lengths

/-- The clamped window lies within the list, so that its end is never before its start. -/
theorem clamp_within (window : Window) (size : Nat) :
    (window.clamp size).1 ≤ size ∧ (window.clamp size).1 + (window.clamp size).2 ≤ size := by
  show min window.start size ≤ size ∧
    min window.start size + min (window.count.getD size) (size - min window.start size) ≤ size
  omega

/-- Clamping takes nothing away from what the window shows. -/
theorem slice_eq_clamp (window : Window) (list : List α) : window.slice list =
    (list.drop (window.clamp list.length).1).take (window.clamp list.length).2 := by
  show (list.drop window.start).take (window.count.getD list.length) =
    (list.drop (min window.start list.length)).take
      (min (window.count.getD list.length) (list.length - min window.start list.length))
  by_cases within : window.start ≤ list.length
  · rw [Nat.min_eq_left within, ← List.length_drop, List.take_eq_take_min]
  · have start : min window.start list.length = list.length := Nat.min_eq_right (by omega)
    rw [start, List.drop_length, List.drop_of_length_le (by omega), List.take_nil, List.take_nil]

theorem length_slice (window : Window) (list : List α) : (window.slice list).length =
    min (window.count.getD list.length) (list.length - window.start) := by
  rw [slice, List.length_take, List.length_drop]

theorem getElem?_slice {window : Window} {list : List α} {i : Nat} {a : α}
    (found : (window.slice list)[i]? = some a) : list[window.start + i]? = some a := by
  rw [slice, List.getElem?_take] at found
  split at found
  · rwa [List.getElem?_drop] at found
  · cases found

theorem slice_full (list : List α) : ({} : Window).slice list = list := List.take_length

theorem flatMap_slice_cut (list : List α) (start : Nat) (lengths : List Nat) :
    (cut start lengths).flatMap (·.slice list) = (list.drop start).take lengths.sum := by
  induction lengths generalizing start with
  | nil => exact List.take_zero.symm
  | cons length lengths ih =>
      rw [cut, List.flatMap_cons, ih, slice, List.sum_cons, List.take_add, List.drop_drop]
      rfl

end Window

/-! ## A VM that knows an object -/

/-- The VM says the same about the slots of an object whenever the session asks, of which there are no
more than 64 bits can count. -/
structure VM.Knows (vm : VM) (s : Session) (oop : Oop) (named indexed : List Oop) : Prop where
  countable : named.length + indexed.length < 2 ^ 63
  info : ∀ history, ∃ i, vm history (some s.handle) (.fetchObjectInfo oop) = .ok i ∧
    i.namedSize.toInt = named.length
  slots : ∀ history start count, start + count ≤ named.length + indexed.length →
    vm history (some s.handle) (.fetchOops oop (start + 1 : Nat) count) =
      .ok (((named ++ indexed).drop start).take count)

/-- The VM prints the object in the same way whenever the session asks. -/
def VM.Prints (vm : VM) (s : Session) (oop : Oop) : Prop :=
  let print : Call := .performFetchBytes { receiver := oop, selector := "printString" } maxResultSize
  ∀ history history', vm history (some s.handle) print = vm history' (some s.handle) print

namespace Session

variable {s : Session} {w w' : World} {vm : VM} {oop : Oop} {named indexed : List Oop}

/-- The session can be asked, and this VM answers. -/
structure Reaches (s : Session) (vm : VM) (w : World) : Prop where
  vm : w.vm = vm
  idle : w.callState s.id = .idle

theorem carries_reaches (s : Session) : s.Carries fun w w' => ∀ vm, s.Reaches vm w → s.Reaches vm w' where
  refl _ _ reaches := reaches
  trans first second vm := second vm ∘ first vm
  call _ _ _ _ reaches := ⟨reaches.vm, reaches.idle⟩
  log _ _ _ _ _ reaches := ⟨reaches.vm, reaches.idle⟩
  ensureIdle w vm reaches := by
    show s.Reaches vm (s.ensureIdle w).2
    rw [ensureIdle_of_idle reaches.idle]
    exact reaches
  setHelperClass _ _ _ reaches := ⟨reaches.vm, reaches.idle⟩

/-- Where the guard is open a request is the call alone, made on an idle session. -/
theorem request_of_free {α : Type} (act : Act (Except CallError α)) (same : w.vm = vm)
    (free : (s.ensureIdle w).1 = .ok ()) :
    ∃ w₁, s.Reaches vm w₁ ∧ s.request act w = act w₁ := by
  rcases passed : s.ensureIdle w with ⟨result, w₁⟩
  obtain rfl : result = .ok () := by rwa [passed] at free
  have kept := s.carries_sameVM.ensureIdle w
  rw [ExceptT.run, passed] at kept
  exact ⟨w₁, ⟨kept.trans same, idle_of_ensureIdle passed⟩, attempt_bind_ok passed⟩

theorem Reaches.call (reaches : s.Reaches vm w) (c : Call) :
    ∃ history w', s.call c w = (vm history (some s.handle) c, w') ∧ s.Reaches vm w' :=
  ⟨w.transcript, (s.call c w).2, by rw [← reaches.vm]; rfl, reaches.vm, reaches.idle⟩

theorem fetchObjectInfo_known (knows : vm.Knows s oop named indexed) (same : w.vm = vm)
    (free : (s.ensureIdle w).1 = .ok ()) :
    ∃ i w', s.fetchObjectInfo oop w = (.ok i, w') ∧ i.namedSize.toInt = named.length ∧
      s.Reaches vm w' := by
  obtain ⟨w₁, reaches, asks⟩ := request_of_free (s.call (.fetchObjectInfo oop)) same free
  obtain ⟨history, w', called, reaches'⟩ := reaches.call (.fetchObjectInfo oop)
  obtain ⟨i, told, size⟩ := knows.info history
  exact ⟨i, w', asks.trans (called.trans (by rw [told])), size, reaches'⟩

theorem fetchOops_known (knows : vm.Knows s oop named indexed) (reaches : s.Reaches vm w)
    (start count : Nat) (within : start + count ≤ named.length + indexed.length) :
    ∃ w', s.fetchOops oop (start + 1 : Nat) count w =
      (.ok (((named ++ indexed).drop start).take count), w') ∧ s.Reaches vm w' := by
  unfold fetchOops
  split
  · next none =>
      exact ⟨w, by rw [none, List.take_zero]; rfl, reaches⟩
  · have asks : s.request (s.call (.fetchOops oop (start + 1 : Nat) count)) w =
        s.call (.fetchOops oop (start + 1 : Nat) count) w :=
      attempt_bind_ok (ensureIdle_of_idle reaches.idle)
    obtain ⟨history, w', called, reaches'⟩ := reaches.call (.fetchOops oop (start + 1 : Nat) count)
    exact ⟨w', asks.trans (called.trans (by rw [knows.slots history start count within])), reaches'⟩

theorem printString_of_prints (prints : vm.Prints s oop) (reaches : s.Reaches vm w)
    (reaches' : s.Reaches vm w') : (s.printString oop w).1 = (s.printString oop w').1 := by
  have printed {w : World} (reaches : s.Reaches vm w) : (s.performString oop "printString" [] w).1 =
      (vm [] (some s.handle)
        (.performFetchBytes { receiver := oop, selector := "printString" } maxResultSize)).map
          Text.Utf8.decodeLossy := by
    let print : Call := .performFetchBytes { receiver := oop, selector := "printString" } maxResultSize
    have asks : s.request (s.call print) w = s.call print w :=
      attempt_bind_ok (ensureIdle_of_idle reaches.idle)
    obtain ⟨history, w', called, _⟩ := reaches.call print
    rw [performString, attempt_bind_apply, asks, called, prints history []]
    show _ = (vm [] (some s.handle) print).map Text.Utf8.decodeLossy
    cases vm [] (some s.handle) print <;> rfl
  unfold printString
  cases oop.kind.print? with
  | some text => rfl
  | none => exact (printed reaches).trans (printed reaches').symm

end Session

def VariableView.text (view : VariableView) : String × String := (view.name, view.value)

namespace Debug

variable {s : Session} {vm : VM} {oop : Oop} {named indexed : List Oop} {d d' : DebugSession}
  {w w' : World}

theorem getElem?_nameIndexed (start : Nat) (values : List Oop) (i : Nat) :
    (nameIndexed start values)[i]? =
      values[i]?.map fun value => (s!"[{start + i + 1}]", value) := by
  rw [nameIndexed, List.getElem?_map, List.getElem?_zipIdx, Option.map_map]
  have shifted : start + 1 + i = start + i + 1 := by omega
  rw [shifted]
  rfl

theorem length_nameIndexed (start : Nat) (values : List Oop) :
    (nameIndexed start values).length = values.length := by
  rw [nameIndexed, List.length_map, List.length_zipIdx]

theorem map_snd_nameIndexed (start : Nat) (values : List Oop) :
    (nameIndexed start values).map Prod.snd = values := by
  rw [nameIndexed, List.map_map]
  exact List.zipIdx_map_fst _ _

/-- In a part of the list every slot has its own name. -/
theorem nameIndexed_part (values : List Oop) (start count : Nat) :
    nameIndexed start ((values.drop start).take count) =
      ((nameIndexed 0 values).drop start).take count := by
  apply List.ext_getElem?
  intro i
  simp only [getElem?_nameIndexed, List.getElem?_take, List.getElem?_drop]
  split
  · rw [Nat.zero_add]
  · rfl

/-- The VM counts from 1 and takes the named slots first. -/
theorem toInt_firstSlot {namedSize : Int32} {fields start : Nat} (size : namedSize.toInt = fields)
    (countable : fields + start + 1 < 2 ^ 63) :
    (namedSize.toInt64 + 1 + .ofNat start : Int64).toInt = (fields + start + 1 : Nat) := by
  have one : (1 : Int64).toInt = 1 := rfl
  have offset : (Int64.ofNat start).toInt = start := Int64.toInt_ofNat_of_lt (by omega)
  rw [Int64.toInt_add, Int64.toInt_add, Int32.toInt_toInt64, one, offset, size, Int.bmod_def,
    Int.bmod_def]
  omega

/-- The slots that exist within the window are listed, and each has been asked for by its own number. -/
theorem entries_indexed (knows : vm.Knows s oop named indexed) (same : w.vm = vm)
    (free : (s.ensureIdle w).1 = .ok ()) (window : Window) (d : DebugSession) :
    ∃ w', entries s window (.indexed oop (.ofNat indexed.length)) d w =
      ((.ok (window.slice (nameIndexed 0 indexed)), d), w') ∧ s.Reaches vm w' := by
  obtain ⟨i, w₁, told, size, reaches⟩ := Session.fetchObjectInfo_known knows same free
  obtain ⟨startWithin, endWithin⟩ := window.clamp_within indexed.length
  have countable := knows.countable
  have all : (Int64.ofNat indexed.length).toNatClampNeg = indexed.length :=
    Int64.toNatClampNeg_ofNat_of_lt (by omega)
  let start := (window.clamp indexed.length).1
  let count := (window.clamp indexed.length).2
  have fetched : ∃ w₂, s.fetchOops oop (i.namedSize.toInt64 + 1 + .ofNat start : Int64).toInt count w₁ =
      (.ok ((indexed.drop start).take count), w₂) ∧ s.Reaches vm w₂ := by
    by_cases none : count = 0
    · exact ⟨w₁, by rw [none, List.take_zero]; rfl, reaches⟩
    · rw [toInt_firstSlot size (by omega)]
      have known := Session.fetchOops_known knows reaches (named.length + start) count (by omega)
      rwa [List.drop_length_add_append] at known
  obtain ⟨w₂, fetched, reaches'⟩ := fetched
  refine ⟨w₂, ?_, reaches'⟩
  rw [entries, remote_bind_apply, told]
  dsimp only
  rw [all, remote_bind_apply, fetched, Window.slice_eq_clamp, length_nameIndexed, ← nameIndexed_part]
  rfl

/-! ## Pages -/

/-- The session goes on reaching its VM. -/
structure Attends (x y : DebugSession × World) : Prop where
  session : y.1.session = x.1.session
  reaches : ∀ s vm, x.1.session = some s → s.Reaches vm x.2 → s.Reaches vm y.2

theorem lasts_attends : Lasts Attends where
  refl _ := ⟨rfl, fun _ _ _ => id⟩
  trans h h' := ⟨h'.session.trans h.session, fun s vm bound reaches =>
    h'.reaches s vm (h.session.trans bound) (h.reaches s vm bound reaches)⟩

theorem asks_attends : Asks Attends where
  toLasts := lasts_attends
  session := Attends.session
  calls {s d} bound := carries_at lasts_attends d s.carries_reaches fun {w w'} reaches =>
    ⟨rfl, fun s' vm bound' => by
      cases bound.symm.trans bound'
      exact reaches vm⟩
  log _ _ _ _ _ := ⟨rfl, fun _ _ _ reaches => ⟨reaches.vm, reaches.idle⟩⟩

theorem explores_attends : Explores Attends where
  toConsults := consults_of_keep asks_attends (fun _ _ _ _ _ _ => ⟨rfl, fun _ _ _ => id⟩)
    fun _ _ _ => ⟨rfl, fun _ _ _ => id⟩
  frame := frame_of_fetched asks_attends fun _ _ _ => ⟨rfl, fun _ _ _ => id⟩
  handed _ _ _ := ⟨rfl, fun _ _ _ => id⟩

/-- The entry is shown under its name, with what the VM prints for its object. -/
structure Shows (vm : VM) (s : Session) (entry : String × Oop) (view : VariableView) : Prop where
  name : view.name = entry.1
  value : ∃ w, s.Reaches vm w ∧ view.value = valueText (s.printString entry.2 w).1

theorem Lists.shows {list : List (String × Oop)} {views : List VariableView}
    {handles : Numbering VarRef} (lists : Lists s list d w views handles)
    (bound : d.session = some s) (reaches : s.Reaches vm w) : List.Forall₂ (Shows vm s) list views := by
  refine List.forall₂_iff_get.mpr ⟨lists.length_eq.symm, fun i listed shown => ?_⟩
  obtain ⟨name, oop, entry, named, value, _⟩ :=
    lists.entry i (views.get ⟨i, shown⟩) (List.getElem?_eq_getElem shown)
  have same : list.get ⟨i, listed⟩ = (name, oop) :=
    Option.some.inj ((List.getElem?_eq_getElem listed).symm.trans entry)
  have attends := explores_attends.describeVariables (list.take i) d w bound
  rw [same]
  exact ⟨named, _, attends.reaches s vm bound reaches, value⟩

/-- A handle of the object's indexed slots, all of which the VM knows, in a session that can be asked. -/
structure Pageable (vm : VM) (s : Session) (oop : Oop) (named indexed : List Oop) (reference : Int)
    (d : DebugSession) (w : World) : Prop where
  bound : d.session = some s
  found : d.handles.get? reference = some (.indexed oop (.ofNat indexed.length))
  same : w.vm = vm
  free : (s.ensureIdle w).1 = .ok ()
  knows : vm.Knows s oop named indexed

variable {reference : Int}

/-- The slots within a window are shown, and the handle can be asked for others. -/
theorem expand_window (pageable : Pageable vm s oop named indexed reference d w) (window : Window) :
    ∃ page d' w', expand reference window d w = ((.ok page, d'), w') ∧
      List.Forall₂ (Shows vm s) (window.slice (nameIndexed 0 indexed)) page ∧
      Pageable vm s oop named indexed reference d' w' := by
  obtain ⟨w₁, listed, reaches⟩ := entries_indexed pageable.knows pageable.same pageable.free window d
  have ran := expand_of pageable.found pageable.bound listed
  let list := window.slice (nameIndexed 0 indexed)
  have lists := lists_of_entries pageable.bound listed
  -- To list the entries the guard was passed, so that the session is idle from there on.
  have attends := explores_attends.describeVariables list d w₁ pageable.bound
  have grows := explores_grows.describeVariables list d w₁ pageable.bound
  rcases described : describeVariables s list d w₁ with ⟨⟨page, d'⟩, w'⟩
  rw [described] at ran lists
  rw [Staged.ends_of described] at attends grows
  have reaches' := attends.reaches s vm pageable.bound reaches
  refine ⟨page, d', w', ran, lists.shows pageable.bound reaches, ?_⟩
  exact {
    bound := attends.session.trans pageable.bound
    found := grows.handles.get? pageable.found
    same := reaches'.vm
    free := by rw [Session.ensureIdle_of_idle reaches'.idle]
    knows := pageable.knows }

def expandAll (reference : Int) : List Window → Debug (List (List VariableView))
  | [] => return []
  | window :: windows => do
    let page ← expand reference window
    let pages ← expandAll reference windows
    return page :: pages

theorem expandAll_windows (pageable : Pageable vm s oop named indexed reference d w)
    (windows : List Window) :
    ∃ pages d' w', expandAll reference windows d w = ((.ok pages, d'), w') ∧
      List.Forall₂ (Shows vm s) (windows.flatMap (·.slice (nameIndexed 0 indexed))) pages.flatten := by
  induction windows generalizing d w with
  | nil => exact ⟨[], d, w, rfl, .nil⟩
  | cons window windows ih =>
      obtain ⟨page, d₁, w₁, first, shown, pageable₁⟩ := expand_window pageable window
      obtain ⟨pages, d', w', others, all⟩ := ih pageable₁
      refine ⟨page :: pages, d', w', ?_, List.rel_append shown all⟩
      rw [expandAll, Staged.attempt_bind_ok first, Staged.attempt_bind_ok others]
      rfl

theorem text_eq_of_shows {list : List (String × Oop)} {views views' : List VariableView}
    (prints : ∀ entry ∈ list, vm.Prints s entry.2) (shown : List.Forall₂ (Shows vm s) list views)
    (shown' : List.Forall₂ (Shows vm s) list views') :
    views.map VariableView.text = views'.map VariableView.text := by
  induction shown generalizing views' with
  | nil =>
      cases shown'
      rfl
  | cons first _ ih =>
      obtain _ | ⟨first', others'⟩ := shown'
      obtain ⟨entry, others⟩ := List.forall_mem_cons.mp prints
      obtain ⟨w, reaches, value⟩ := first.value
      obtain ⟨w', reaches', value'⟩ := first'.value
      have printed := Session.printString_of_prints entry reaches reaches'
      rw [List.map_cons, List.map_cons, ih others others', VariableView.text, VariableView.text,
        first.name, first'.name, value, value', printed]

/-- The slot that an entry of a page shows. -/
theorem slot_of_shows {window : Window} {page : List VariableView} {i : Nat} {view : VariableView}
    (shown : List.Forall₂ (Shows vm s) (window.slice (nameIndexed 0 indexed)) page)
    (found : page[i]? = some view) : ∃ slot, indexed[window.start + i]? = some slot ∧
      Shows vm s (s!"[{window.start + i + 1}]", slot) view := by
  obtain ⟨within, same⟩ := List.getElem?_eq_some_iff.mp found
  have listed : i < (window.slice (nameIndexed 0 indexed)).length := shown.length_eq ▸ within
  have entry := Window.getElem?_slice (List.getElem?_eq_getElem listed)
  rw [getElem?_nameIndexed, Nat.zero_add] at entry
  obtain ⟨slot, known, named⟩ := Option.map_eq_some_iff.mp entry
  have shows := shown.get listed within
  rw [List.get_eq_getElem, List.get_eq_getElem, ← named, same] at shows
  exact ⟨slot, known, shows⟩

/-- What is shown of the indexed slots through windows on them. -/
structure Paged (vm : VM) (s : Session) (named indexed : List Oop) (reference : Int)
    (d : DebugSession) (w : World) : Prop where
  /-- No window ends before it starts, nor beyond the last slot. -/
  clamped : ∀ window : Window, (window.clamp indexed.length).1 ≤ indexed.length ∧
    (window.clamp indexed.length).1 + (window.clamp indexed.length).2 ≤ indexed.length
  /-- A window shows the slots within it that exist, each under its own number. -/
  window : ∀ window : Window, ∃ page, (expand reference window d w).1.1 = .ok page ∧
    page.length = min (window.count.getD indexed.length) (indexed.length - window.start) ∧
    ∀ i view, page[i]? = some view → ∃ slot,
      (named ++ indexed)[named.length + (window.start + i)]? = some slot ∧
        Shows vm s (s!"[{window.start + i + 1}]", slot) view
  /-- Windows without a gap show every slot once, as the window on all of them does. -/
  cut : ∀ lengths : List Nat, indexed.length ≤ lengths.sum → ∃ full pages,
    (expand reference {} d w).1.1 = .ok full ∧
      (expandAll reference (Window.cut 0 lengths) d w).1.1 = .ok pages ∧
      List.Forall₂ (Shows vm s) (nameIndexed 0 indexed) full ∧
      List.Forall₂ (Shows vm s) (nameIndexed 0 indexed) pages.flatten ∧
      ((∀ slot ∈ indexed, vm.Prints s slot) →
        pages.flatten.map VariableView.text = full.map VariableView.text)

/-- Paging through indexed slots loses and repeats nothing. -/
theorem windows_complete (pageable : Pageable vm s oop named indexed reference d w) :
    Paged vm s named indexed reference d w where
  clamped window := window.clamp_within indexed.length
  window window := by
    obtain ⟨page, d', w', ran, shown, _⟩ := expand_window pageable window
    refine ⟨page, by rw [ran], ?_, fun i view found => ?_⟩
    · rw [← shown.length_eq, Window.length_slice, length_nameIndexed]
    · obtain ⟨slot, known, shows⟩ := slot_of_shows shown found
      refine ⟨slot, ?_, shows⟩
      rw [List.getElem?_append_right (Nat.le_add_right _ _), Nat.add_sub_cancel_left, known]
  cut lengths whole := by
    obtain ⟨full, d₁, w₁, ran, shown, _⟩ := expand_window pageable {}
    obtain ⟨pages, d₂, w₂, ran', shown'⟩ := expandAll_windows pageable (Window.cut 0 lengths)
    rw [Window.slice_full] at shown
    rw [Window.flatMap_slice_cut, List.drop_zero,
      List.take_of_length_le (by rwa [length_nameIndexed])] at shown'
    refine ⟨full, pages, by rw [ran], by rw [ran'], shown, shown', fun prints => ?_⟩
    refine text_eq_of_shows (fun entry member => prints entry.2 ?_) shown' shown
    rw [← map_snd_nameIndexed 0 indexed]
    exact List.mem_map_of_mem member

/-- Five slots after two named ones, in windows of which one is empty and the last reaches too far. -/
theorem windows_complete_collection :
    let named : List Oop := [.nil, .ofNat 521]
    let indexed : List Oop := [.ofSmallInt 4, .ofNat 529, .nil, .ofSmallInt 4, .ofNat 537]
    let vm : VM := fun _ _ c => match c with
      | .fetchObjectInfo _ => .ok { size := 7, namedSize := 2, bits := 4 }
      | .fetchOops _ start count => .ok (((named ++ indexed).drop (start.toNat - 1)).take count)
      | c => Foreign.refuse (.other "") c
    let w : World := { vm, horizon := 0 }
    let s : Session := ⟨1, ⟨9⟩, ""⟩
    let d : DebugSession := {
      session := some s, state := .stopped, process := some (.ofNat 257)
      handles := ⟨[.indexed (.ofNat 513) 5]⟩ }
    ((expandAll 1 (Window.cut 0 [2, 0, 1, 4]) d w).1.1.toOption.map fun pages =>
        pages.map fun page => page.map VariableView.name) =
        some [["[1]", "[2]"], [], ["[3]"], ["[4]", "[5]"]] ∧
      Pageable vm s (.ofNat 513) named indexed 1 d w ∧ Paged vm s named indexed 1 d w := by
  intro named indexed vm w s d
  have pageable : Pageable vm s (.ofNat 513) named indexed 1 d w := {
    bound := rfl
    found := rfl
    same := rfl
    free := rfl
    knows := {
      countable := by decide
      info := fun _ => ⟨_, rfl, rfl⟩
      slots := fun _ _ _ _ => rfl } }
  exact ⟨by decide +kernel, pageable, windows_complete pageable⟩

end Debug

end StoneDebug
