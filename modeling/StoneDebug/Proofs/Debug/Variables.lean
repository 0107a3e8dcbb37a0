import Mathlib.Algebra.Ring.Int.Defs
import Mathlib.Algebra.Ring.Nat
import StoneDebug.Proofs.Debug.Lifetimes
import StoneDebug.Proofs.Oop.Codec

/-! # How variables are shown

An entry in a view of variables unfolds exactly when there is something to unfold, its handle stands for
the part of the object that it announces, and it announces what the VM tells about the object at that
moment, whatever could not be found out about it and about the entries before it.
-/

namespace StoneDebug

/-! ## What an object unfolds to -/

namespace ObjectInfo

/-- Its slots are references. What a byte object holds are bytes, however many. -/
def HoldsReferences (i : ObjectInfo) : Prop := i.implementation = .pointer ∨ i.implementation = .nsc

/-- It has numbered slots that hold references. -/
def HasIndexed (i : ObjectInfo) : Prop := i.HoldsReferences ∧ i.namedSize.toInt < i.size.toInt

/-- Its sizes are further apart than a word of 64 bits can tell. -/
def Overflows (i : ObjectInfo) : Prop :=
  i.HoldsReferences ∧
    ¬(-2 ^ 63 ≤ i.size.toInt - i.namedSize.toInt ∧ i.size.toInt - i.namedSize.toInt < 2 ^ 63)

variable {i : ObjectInfo}

theorem toInt_indexedSize (i : ObjectInfo) : i.indexedSize.toInt =
    max ((i.size.toInt - i.namedSize.toInt).bmod (2 ^ 64)) 0 := by
  have difference : (i.size - i.namedSize.toInt64).toInt =
      (i.size.toInt - i.namedSize.toInt).bmod (2 ^ 64) := by
    rw [Int64.toInt_sub, Int32.toInt_toInt64]
  rw [← difference]
  show (if i.size - i.namedSize.toInt64 ≤ 0 then 0 else i.size - i.namedSize.toInt64 : Int64).toInt = _
  split
  · next below =>
      rw [Int64.le_iff_toInt_le, Int64.toInt_zero] at below
      rw [Int64.toInt_zero]
      omega
  · next above =>
      rw [Int64.le_iff_toInt_le, Int64.toInt_zero] at above
      omega

theorem indexedOops_of_holdsReferences (holds : i.HoldsReferences) : i.indexedOops = i.indexedSize := by
  rw [indexedOops]
  rcases holds with same | same <;> rw [same]

theorem indexedOops_of_bytes (bytes : ¬i.HoldsReferences) : i.indexedOops = 0 := by
  rw [indexedOops]
  split
  · next same => exact absurd (.inl same) bytes
  · next same => exact absurd (.inr same) bytes
  · rfl
  · rfl

theorem toInt_indexedOops (exact : ¬i.Overflows) (indexed : i.HasIndexed) :
    i.indexedOops.toInt = i.size.toInt - i.namedSize.toInt := by
  have within := not_not.mp (not_and.mp exact indexed.1)
  have larger := indexed.2
  rw [indexedOops_of_holdsReferences indexed.1, toInt_indexedSize, Int.bmod_def]
  omega

theorem indexedOops_pos_iff (exact : ¬i.Overflows) : 0 < i.indexedOops ↔ i.HasIndexed := by
  rw [Int64.lt_iff_toInt_lt, Int64.toInt_zero]
  constructor
  · intro pos
    by_cases holds : i.HoldsReferences
    · have within := not_not.mp (not_and.mp exact holds)
      rw [indexedOops_of_holdsReferences holds, toInt_indexedSize, Int.bmod_def] at pos
      exact ⟨holds, by omega⟩
    · rw [indexedOops_of_bytes holds] at pos
      cases pos
  · intro indexed
    rw [toInt_indexedOops exact indexed]
    have := indexed.2
    omega

theorem hasIndexed_iff (holds : i.HoldsReferences) :
    i.HasIndexed ↔ i.namedSize.toInt < i.size.toInt := and_iff_right holds

/-- When the difference is cut, the smaller one of the two sizes seems to be the larger. -/
theorem indexedOops_pos_iff_of_overflows (overflows : i.Overflows) :
    0 < i.indexedOops ↔ ¬i.HasIndexed := by
  obtain ⟨holds, outside⟩ := overflows
  have low := i.size.le_toInt
  have high := i.size.toInt_lt
  have namedLow := i.namedSize.le_toInt
  have namedHigh := i.namedSize.toInt_lt
  rw [Int64.lt_iff_toInt_lt, Int64.toInt_zero, hasIndexed_iff holds,
    indexedOops_of_holdsReferences holds, toInt_indexedSize, Int.bmod_def]
  omega

theorem namedSize_pos_iff_of_overflows (overflows : i.Overflows) :
    0 < i.namedSize ↔ ¬i.HasIndexed := by
  obtain ⟨holds, outside⟩ := overflows
  have low := i.size.le_toInt
  have high := i.size.toInt_lt
  rw [Int32.lt_iff_toInt_lt, Int32.toInt_zero, hasIndexed_iff holds]
  omega

end ObjectInfo

namespace VarRef

/-- There is nothing to unfold in the object. -/
def Leaf (oop : Oop) (info : Option ObjectInfo) : Prop :=
  oop.isNil = true ∨ oop.tag ≠ 1 ∨ info = none ∨
    ∃ i, info = some i ∧ ¬i.HasIndexed ∧ ¬0 < i.namedSize

/-- What the VM tells about the slots of the object is counted wrong. -/
def Miscounted (oop : Oop) (info : Option ObjectInfo) : Prop :=
  oop.tag = 1 ∧ ∃ i, info = some i ∧ i.Overflows

variable {oop : Oop} {info : Option ObjectInfo} {i : ObjectInfo}

theorem not_overflows (heap : oop.tag = 1) (exact : ¬Miscounted oop (some i)) : ¬i.Overflows :=
  fun overflows => exact ⟨heap, i, rfl, overflows⟩

theorem childOf_of_special (special : oop.tag ≠ 1) : childOf oop info = none := by
  unfold childOf
  exact if_pos (by simpa [Oop.isSpecial] using special)

theorem childOf_of_ordinary (heap : oop.tag = 1) : childOf oop (some i) =
    if i.indexedOops > 0 then some (.indexed oop i.indexedOops)
    else if i.namedSize > 0 then some (.named oop)
    else none := by
  rw [childOf, if_neg]
  simpa [Oop.isSpecial] using heap

theorem childOf_of_indexed (heap : oop.tag = 1) (exact : ¬i.Overflows) (indexed : i.HasIndexed) :
    childOf oop (some i) = some (.indexed oop i.indexedOops) := by
  rw [childOf_of_ordinary heap, if_pos ((ObjectInfo.indexedOops_pos_iff exact).mpr indexed)]

theorem childOf_of_named (heap : oop.tag = 1) (exact : ¬i.Overflows) (plain : ¬i.HasIndexed)
    (named : 0 < i.namedSize) : childOf oop (some i) = some (.named oop) := by
  rw [childOf_of_ordinary heap, if_neg (mt (ObjectInfo.indexedOops_pos_iff exact).mp plain),
    if_pos named]

theorem childOf_of_overflows_plain (heap : oop.tag = 1) (overflows : i.Overflows)
    (plain : ¬i.HasIndexed) : childOf oop (some i) = some (.indexed oop i.indexedOops) := by
  have seeming := (ObjectInfo.indexedOops_pos_iff_of_overflows overflows).mpr plain
  rw [childOf_of_ordinary heap, if_pos seeming]

theorem childOf_of_overflows_indexed (heap : oop.tag = 1) (overflows : i.Overflows)
    (indexed : i.HasIndexed) : childOf oop (some i) = none := by
  have missed : ¬0 < i.indexedOops := fun seeming =>
    (ObjectInfo.indexedOops_pos_iff_of_overflows overflows).mp seeming indexed
  have bare : ¬0 < i.namedSize := fun named =>
    (ObjectInfo.namedSize_pos_iff_of_overflows overflows).mp named indexed
  rw [childOf_of_ordinary heap, if_neg missed, if_neg bare]

theorem isNil_of_heap (heap : oop.tag = 1) : ¬oop.isNil = true := fun nil => by
  have value : oop.toNat = 0x14 := Oop.isNil_iff.mp nil
  rw [Oop.tag, value] at heap
  cases heap

theorem leaf_iff_of_heap (heap : oop.tag = 1) :
    Leaf oop (some i) ↔ ¬i.HasIndexed ∧ ¬0 < i.namedSize := by
  simp [Leaf, heap, isNil_of_heap heap]

theorem childOf_eq_none_iff (exact : ¬Miscounted oop info) : childOf oop info = none ↔ Leaf oop info := by
  by_cases heap : oop.tag = 1
  · cases info with
    | none => exact ⟨fun _ => .inr (.inr (.inl rfl)), fun _ => by rw [childOf, ite_self]⟩
    | some i =>
        have fits := not_overflows heap exact
        rw [leaf_iff_of_heap heap]
        constructor
        · intro closed
          have plain : ¬i.HasIndexed := fun indexed => by
            cases (childOf_of_indexed heap fits indexed).symm.trans closed
          exact ⟨plain, fun named => by
            cases (childOf_of_named heap fits plain named).symm.trans closed⟩
        · rintro ⟨plain, bare⟩
          rw [childOf_of_ordinary heap, if_neg (mt (ObjectInfo.indexedOops_pos_iff fits).mp plain),
            if_neg bare]
  · exact ⟨fun _ => .inr (.inl heap), fun _ => childOf_of_special heap⟩

end VarRef

namespace VariableView

/-- An entry for the object announces what there is to unfold in it, and nothing else. -/
structure Honest (view : VariableView) (oop : Oop) (info : Option ObjectInfo)
    (handles : Numbering VarRef) : Prop where
  leaf : view.reference = 0 ∧ view.named = none ∧ view.indexed = none ↔ VarRef.Leaf oop info
  /-- The numbered slots come before the named ones. -/
  indexed : ∀ i, info = some i → oop.tag = 1 → i.HasIndexed → ∃ k : Int64, 0 < k ∧
    k.toInt = i.size.toInt - i.namedSize.toInt ∧
      handles.get? view.reference = some (.indexed oop k) ∧ view.indexed = some k ∧
        view.named = none
  named : ∀ i, info = some i → oop.tag = 1 → ¬i.HasIndexed → 0 < i.namedSize →
    handles.get? view.reference = some (.named oop) ∧ view.named = some i.namedSize.toInt64 ∧
      view.indexed = none

/-- The entry has a handle for the child that was found, and its counts. -/
structure OfChild (view : VariableView) (child : Option VarRef) (info : Option ObjectInfo)
    (handles : Numbering VarRef) : Prop where
  counts : (view.named, view.indexed) = Debug.slotCounts child info
  leaf : child = none → view.reference = 0
  handle : ∀ r, child = some r → handles.get? view.reference = some r

variable {view : VariableView} {oop : Oop} {info : Option ObjectInfo} {child : Option VarRef}
  {handles handles' : Numbering VarRef}

theorem OfChild.mono (shown : view.OfChild child info handles) (grown : handles.Extends handles') :
    view.OfChild child info handles' where
  counts := shown.counts
  leaf := shown.leaf
  handle r found := grown.get? (shown.handle r found)

/-- The slots of a special object are not asked for, and they do not matter. -/
theorem OfChild.of_special {info' : Option ObjectInfo} (special : oop.tag ≠ 1)
    (shown : view.OfChild (VarRef.childOf oop info) info handles) :
    view.OfChild (VarRef.childOf oop info') info' handles := by
  rw [VarRef.childOf_of_special special] at shown ⊢
  exact ⟨shown.counts, shown.leaf, shown.handle⟩

theorem OfChild.closed (shown : view.OfChild none info handles) :
    view.reference = 0 ∧ view.named = none ∧ view.indexed = none :=
  ⟨shown.leaf rfl, congrArg Prod.fst shown.counts, congrArg Prod.snd shown.counts⟩

theorem OfChild.unfolds {r : VarRef} (shown : view.OfChild (some r) info handles) :
    view.reference ≠ 0 := by
  have := (Numbering.values_of_get? (shown.handle r rfl)).1
  omega

theorem OfChild.honest (shown : view.OfChild (VarRef.childOf oop info) info handles)
    (exact : ¬VarRef.Miscounted oop info) : view.Honest oop info handles where
  leaf := by
    rw [← VarRef.childOf_eq_none_iff exact]
    constructor
    · intro nothing
      cases child : VarRef.childOf oop info with
      | none => rfl
      | some r => exact absurd nothing.1 (child ▸ shown).unfolds
    · exact fun closed => (closed ▸ shown).closed
  indexed := by
    rintro i rfl heap indexed
    have fits := VarRef.not_overflows heap exact
    rw [VarRef.childOf_of_indexed heap fits indexed] at shown
    exact ⟨i.indexedOops, (ObjectInfo.indexedOops_pos_iff fits).mpr indexed,
      ObjectInfo.toInt_indexedOops fits indexed, shown.handle _ rfl,
      congrArg Prod.snd shown.counts, congrArg Prod.fst shown.counts⟩
  named := by
    rintro i rfl heap plain named
    have fits := VarRef.not_overflows heap exact
    rw [VarRef.childOf_of_named heap fits plain named] at shown
    exact ⟨shown.handle _ rfl, congrArg Prod.fst shown.counts, congrArg Prod.snd shown.counts⟩

/-- What is counted wrong is shown wrong: indexed slots where there are but named ones, and nothing
where there are indexed slots. -/
theorem OfChild.dishonest (shown : view.OfChild (VarRef.childOf oop info) info handles)
    (miscounted : VarRef.Miscounted oop info) : ¬view.Honest oop info handles := by
  intro honest
  obtain ⟨heap, i, rfl, overflows⟩ := miscounted
  by_cases indexed : i.HasIndexed
  · rw [VarRef.childOf_of_overflows_indexed heap overflows indexed] at shown
    have leaf := honest.leaf.mp shown.closed
    exact ((VarRef.leaf_iff_of_heap heap).mp leaf).1 indexed
  · rw [VarRef.childOf_of_overflows_plain heap overflows indexed] at shown
    have named := (ObjectInfo.namedSize_pos_iff_of_overflows overflows).mpr indexed
    have counted := (honest.named i rfl heap indexed named).2.1
    cases counted.symm.trans (congrArg Prod.fst shown.counts)

theorem OfChild.honest_iff (shown : view.OfChild (VarRef.childOf oop info) info handles) :
    view.Honest oop info handles ↔ ¬VarRef.Miscounted oop info :=
  ⟨fun honest miscounted => shown.dishonest miscounted honest, shown.honest⟩

end VariableView

namespace Debug

variable {s : Session} {d d' : DebugSession} {w w' : World}

/-! ## One entry -/

def valueText : Except CallError String → String
  | .ok text => text
  | .error e => "<error: " ++ e.message ++ ">"

def identify (s : Session) (oop : Oop) : Debugging (String × Option String) := do
  let printed ← attempt (s.printString oop)
  let type ← noted .debug "" (typeName s oop)
  return (valueText printed, type)

/-- What the VM is asked about the slots of an object; nothing about a special one. -/
def inform (s : Session) (oop : Oop) : Debugging (Option ObjectInfo) :=
  if oop.isSpecial then pure none else noted .debug "" (remote (s.fetchObjectInfo oop))

def present (name : String) (oop : Oop) (value : String) (typeName : Option String)
    (info : Option ObjectInfo) : Debugging VariableView := do
  let child := VarRef.childOf oop info
  let (named, indexed) := slotCounts child info
  match child with
  | none => return { name, value, typeName, reference := 0, named, indexed }
  | some r => return { name, value, typeName, reference := ← handleOf r, named, indexed }

theorem describeVariable_eq (s : Session) (name : String) (oop : Oop) :
    describeVariable s name oop = (do
      let (value, type) ← identify s oop
      let info ← inform s oop
      present name oop value type info) := by
  have same (value : String) (type : Option String) (info : Option ObjectInfo) :
      present name oop value type info = (do
        let child := VarRef.childOf oop info
        let (named, indexed) := slotCounts child info
        let reference ← match child with
          | none => pure 0
          | some child => handleOf child
        return { name, value, typeName := type, reference, named, indexed }) := by
    unfold present
    dsimp only
    cases VarRef.childOf oop info <;> rfl
  rw [identify, bind_assoc]
  refine bind_congr fun printed => ?_
  rw [bind_assoc]
  refine bind_congr fun type => ?_
  rw [pure_bind]
  simp only [same]
  unfold inform
  cases printed <;> split <;> rfl

theorem present_apply (name : String) (oop : Oop) (value : String) (type : Option String)
    (info : Option ObjectInfo) (d : DebugSession) (w : World) :
    let ran := present name oop value type info d w
    ran.1.1.name = name ∧ ran.1.1.value = value ∧
      ran.1.1.OfChild (VarRef.childOf oop info) info ran.1.2.handles := by
  intro ran
  cases child : VarRef.childOf oop info with
  | none =>
      have shown : ran = ((⟨name, value, type, 0, none, none⟩, d), w) := by
        show present name oop value type info d w = _
        unfold present
        rw [child]
        rfl
      rw [shown]
      exact ⟨rfl, rfl, rfl, fun _ => rfl, nofun⟩
  | some r =>
      obtain ⟨reference, d', gave, found, _⟩ := handleOf_apply r d w
      have shown : ran = ((⟨name, value, type, reference, (slotCounts (some r) info).1,
          (slotCounts (some r) info).2⟩, d'), w) := by
        show present name oop value type info d w = _
        unfold present
        rw [child]
        exact Staged.bind_of gave
      rw [shown]
      refine ⟨rfl, rfl, rfl, nofun, ?_⟩
      rintro _ ⟨⟩
      exact found

/-- What the VM tells about an object once it has been asked for the value and the class to show. -/
def knownInfo (s : Session) (oop : Oop) (d : DebugSession) (w : World) : Option ObjectInfo :=
  (s.fetchObjectInfo oop (identify s oop d w).2).1.toOption

theorem inform_of_heap {oop : Oop} (heap : oop.tag = 1) (d : DebugSession) (w : World) :
    (inform s oop d w).1.1 = (s.fetchObjectInfo oop w).1.toOption := by
  have ordinary : ¬oop.isSpecial = true := by simp [Oop.isSpecial, heap]
  rw [inform, if_neg ordinary]
  rcases asked : s.fetchObjectInfo oop w with ⟨e | info, w'⟩
  · rw [noted_apply (remote_of asked d)]
    rfl
  · rw [noted_apply (remote_of asked d)]
    rfl

theorem describeVariable_shown (s : Session) (name : String) (oop : Oop) (d : DebugSession)
    (w : World) :
    let ran := describeVariable s name oop d w
    ran.1.1.name = name ∧ ran.1.1.value = valueText (s.printString oop w).1 ∧
      ran.1.1.OfChild (VarRef.childOf oop (knownInfo s oop d w)) (knownInfo s oop d w)
        ran.1.2.handles := by
  have value : (identify s oop d w).1.1.1 = valueText (s.printString oop w).1 := rfl
  have learned : knownInfo s oop d w = (s.fetchObjectInfo oop (identify s oop d w).2).1.toOption := rfl
  rcases identified : identify s oop d w with ⟨⟨⟨text, type⟩, d₁⟩, w₁⟩
  rw [identified] at value learned
  intro ran
  have opened : ran = (do present name oop text type (← inform s oop)) d₁ w₁ := by
    show describeVariable s name oop d w = _
    rw [describeVariable_eq, Staged.bind_of identified]
  rcases informed : inform s oop d₁ w₁ with ⟨⟨info, d₂⟩, w₂⟩
  rw [Staged.bind_of informed] at opened
  obtain ⟨named, same, shown⟩ := present_apply name oop text type info d₂ w₂
  rw [opened, ← value]
  refine ⟨named, same, ?_⟩
  -- Only a heap reference is asked about; for any other it makes no difference what the VM would tell.
  by_cases heap : oop.tag = 1
  · have asked := inform_of_heap (s := s) heap d₁ w₁
    rw [informed] at asked
    rw [learned, ← asked]
    exact shown
  · exact shown.of_special heap

/-! ## Lists of entries

Describing an entry may give out handles and changes what the VM has been asked, so each entry is judged
where the entries before it have left off.
-/

/-- The state and the world in which entry `i` comes to be described. -/
def reached (s : Session) (list : List (String × Oop)) (i : Nat) (d : DebugSession) (w : World) :
    DebugSession × World :=
  Staged.ends (describeVariables s (list.take i)) d w

/-- The entries of a list are shown, each as the VM answers when its turn comes. An entry is honest
unless what the VM tells about its slots is counted wrong. -/
structure Lists (s : Session) (list : List (String × Oop)) (d : DebugSession) (w : World)
    (views : List VariableView) (handles : Numbering VarRef) : Prop where
  length_eq : views.length = list.length
  entry : ∀ i view, views[i]? = some view → ∃ name oop, list[i]? = some (name, oop) ∧
    view.name = name ∧
    let (d', w') := reached s list i d w
    view.value = valueText (s.printString oop w').1 ∧
      (view.Honest oop (knownInfo s oop d' w') handles ↔
        ¬VarRef.Miscounted oop (knownInfo s oop d' w'))

theorem describeVariables_shown (list : List (String × Oop)) (bound : d.session = some s)
    (w : World) :
    let ran := describeVariables s list d w
    Lists s list d w ran.1.1 ran.1.2.handles := by
  obtain ⟨length, each⟩ := describeVariables_each list bound w
  refine ⟨length, fun i view found => ?_⟩
  obtain ⟨name, oop, entry, rfl, grows⟩ := each i view found
  obtain ⟨same, value, shown⟩ := describeVariable_shown s name oop _ _
  exact ⟨name, oop, entry, same, value, (shown.mono grows.handles).honest_iff⟩

theorem lists_of_entries {window : Window} {r : VarRef} {list : List (String × Oop)}
    {d₁ : DebugSession} {w₁ : World} (bound : d.session = some s)
    (listed : entries s window r d w = ((.ok list, d₁), w₁)) :
    let ran := describeVariables s list d₁ w₁
    Lists s list d₁ w₁ ran.1.1 ran.1.2.handles := by
  have grows := explores_grows.entries window r d w bound
  rw [ExceptT.run, Staged.ends_of listed] at grows
  exact describeVariables_shown list (grows.session.trans bound) w₁

/-- Entries that were listed can all be shown. -/
theorem expand_lists {reference : Int} {window : Window} {r : VarRef}
    {list : List (String × Oop)} {d₁ : DebugSession} {w₁ : World}
    (found : d.handles.get? reference = some r) (bound : d.session = some s)
    (listed : entries s window r d w = ((.ok list, d₁), w₁)) :
    ∃ views d' w', expand reference window d w = ((.ok views, d'), w') ∧
      Lists s list d₁ w₁ views d'.handles :=
  ⟨_, _, _, expand_of found bound listed, lists_of_entries bound listed⟩

end Debug

end StoneDebug
