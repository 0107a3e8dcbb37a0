import StoneDebug.Proofs.Text.Encoding
import StoneDebug.Version

/-! # Where a version is found

Wherever digits, a period and digits follow each other, a version could be read. It is read at the
first such place, from there as far as digits go, and that place decides alone: a number that is too
large there, or that is not written in ASCII, is not made up for by a version further on.
-/

namespace StoneDebug

open Text

namespace Version

/-! ## Runs of digits -/

theorem isDecimalDigit_of_isDigit {c : Char} (digit : c.isDigit = true) :
    isDecimalDigit c = true := by
  have ascii : c.toNat < 0x80 := by
    simp only [Char.isDigit, Bool.and_eq_true, decide_eq_true_eq, UInt32.le_iff_toNat_le] at digit
    exact Nat.lt_of_le_of_lt digit.2 (by decide)
  rw [isDecimalDigit, if_pos ascii, isAsciiDigit_eq_isDigit, digit]

structure Run (digits : List Char) : Prop where
  any : digits ≠ []
  all : ∀ c ∈ digits, isDecimalDigit c = true

def Ends (rest : List Char) : Prop := ∀ c ∈ rest.head?, isDecimalDigit c = false

variable {text before before' rest after digits major minor major' minor' after' : List Char}
  {patch : Option (List Char)}

theorem ends_period (cs : List Char) : Ends ('.' :: cs) := by
  intro c first
  cases first
  decide

theorem all_takeWhile (cs : List Char) : ∀ c ∈ cs.takeWhile isDecimalDigit, isDecimalDigit c = true :=
  List.all_eq_true.mp List.all_takeWhile

theorem ends_dropWhile (cs : List Char) : Ends (cs.dropWhile isDecimalDigit) := by
  intro c first
  have not := List.head?_dropWhile_not isDecimalDigit cs
  rwa [Option.mem_def.mp first] at not

/-- Digits that go as far as they can are a run in only one way. -/
theorem run_unique (all : ∀ c ∈ digits, isDecimalDigit c = true) (ends : Ends rest)
    (all' : ∀ c ∈ major, isDecimalDigit c = true) (ends' : Ends after)
    (same : digits ++ rest = major ++ after) : digits = major ∧ rest = after := by
  have run := congrArg (List.takeWhile isDecimalDigit) same
  rw [takeWhile_append_of_stop all ends, takeWhile_append_of_stop all' ends'] at run
  exact ⟨run, List.append_cancel_left (run ▸ same)⟩

theorem numberAfterPeriod_eq_some_iff : numberAfterPeriod text = some (digits, rest) ↔
    text = '.' :: (digits ++ rest) ∧ Run digits ∧ Ends rest := by
  constructor
  · intro found
    unfold numberAfterPeriod at found
    split at found
    · next cs =>
        dsimp only at found
        split at found
        · cases found
        · next some =>
            cases found
            exact ⟨by rw [List.takeWhile_append_dropWhile], ⟨by simpa using some, all_takeWhile cs⟩,
              ends_dropWhile cs⟩
    · cases found
  · rintro ⟨rfl, run, ends⟩
    have some : digits.isEmpty = false := List.isEmpty_eq_false_iff.mpr run.any
    rw [numberAfterPeriod, takeWhile_append_of_stop run.all ends, dropWhile_append_of_stop run.all ends,
      some]
    rfl

theorem numberAfterPeriod_eq_none_iff : numberAfterPeriod text = none ↔
    ∀ digits rest, Run digits → text ≠ '.' :: (digits ++ rest) := by
  constructor
  · rintro missing digits rest run rfl
    obtain ⟨d, ds, rfl⟩ := List.exists_cons_of_ne_nil run.any
    have first : isDecimalDigit d = true := run.all d List.mem_cons_self
    simp [numberAfterPeriod, List.takeWhile_cons_of_pos first] at missing
  · intro absent
    cases found : numberAfterPeriod text with
    | none => rfl
    | some pair =>
        obtain ⟨split, run, _⟩ := numberAfterPeriod_eq_some_iff.mp found
        exact absurd split (absent _ _ run)

/-! ## Occurrences -/

/-- The text holds two numbers with a period between them. -/
structure Occurs (text before major minor after : List Char) : Prop where
  split : text = before ++ (major ++ '.' :: (minor ++ after))
  major : Run major
  minor : Run minor

/-- No occurrence begins earlier, and the second number goes as far as it can. -/
structure Leftmost (text before major minor after : List Char) : Prop
    extends Occurs text before major minor after where
  first : ∀ before' major' minor' after', Occurs text before' major' minor' after' →
    before.length ≤ before'.length
  ends : Ends after

/-- A third number, if the text goes on with a period and digits. -/
inductive Third (after : List Char) : Option (List Char) → Prop
  | given {digits rest : List Char} (split : after = '.' :: (digits ++ rest)) (run : Run digits)
    (ends : Ends rest) : Third after (some digits)
  | missing (absent : ∀ digits rest, Run digits → after ≠ '.' :: (digits ++ rest)) :
    Third after none

theorem third_numberAfterPeriod (after : List Char) :
    Third after ((numberAfterPeriod after).map Prod.fst) := by
  cases found : numberAfterPeriod after with
  | none => exact .missing (numberAfterPeriod_eq_none_iff.mp found)
  | some pair =>
      obtain ⟨split, run, ends⟩ := numberAfterPeriod_eq_some_iff.mp found
      exact .given split run ends

theorem Third.eq (third : Third after patch) : patch = (numberAfterPeriod after).map Prod.fst := by
  cases third with
  | given split run ends => rw [numberAfterPeriod_eq_some_iff.mpr ⟨split, run, ends⟩]; rfl
  | missing absent => rw [numberAfterPeriod_eq_none_iff.mpr absent]; rfl

/-- There is only one leftmost occurrence. -/
theorem Leftmost.unique (found : Leftmost text before major minor after)
    (found' : Leftmost text before' major' minor' after') :
    major = major' ∧ minor = minor' ∧ after = after' := by
  have length : before.length = before'.length :=
    Nat.le_antisymm (found.first _ _ _ _ found'.toOccurs) (found'.first _ _ _ _ found.toOccurs)
  obtain ⟨_, same⟩ := List.append_inj (found.split.symm.trans found'.split) length
  obtain ⟨major, rest⟩ :=
    run_unique found.major.all (ends_period _) found'.major.all (ends_period _) same
  exact ⟨major, run_unique found.minor.all found.ends found'.minor.all found'.ends
    (List.cons.inj rest).2⟩

/-- Nothing begins among characters that are no digits. -/
theorem Occurs.behind {front : List Char} (plain : ∀ c ∈ front, isDecimalDigit c = false)
    (occurs : Occurs (front ++ rest) before major minor after) :
    ∃ before', before = front ++ before' ∧ Occurs rest before' major minor after := by
  induction front generalizing before with
  | nil => exact ⟨before, rfl, occurs⟩
  | cons c front ih =>
      cases before with
      | nil =>
          obtain ⟨d, ds, rfl⟩ := List.exists_cons_of_ne_nil occurs.major.any
          have digit := occurs.major.all d List.mem_cons_self
          have same : c = d := (List.cons.inj occurs.split).1
          rw [← same, plain c List.mem_cons_self] at digit
          cases digit
      | cons b before =>
          obtain ⟨rfl, split⟩ := List.cons.inj occurs.split
          obtain ⟨before', rfl, later⟩ := ih
            (fun c member => plain c (List.mem_cons_of_mem _ member))
            ⟨split, occurs.major, occurs.minor⟩
          exact ⟨before', rfl, later⟩

/-- What begins within a run of digits takes the rest of the run as its first number. -/
theorem Occurs.within_or_behind (all : ∀ c ∈ digits, isDecimalDigit c = true) (ends : Ends rest)
    (occurs : Occurs (digits ++ rest) before major minor after) :
    rest = '.' :: (minor ++ after) ∨
      ∃ before', before = digits ++ before' ∧ Occurs rest before' major minor after := by
  induction digits generalizing before with
  | nil => exact .inr ⟨before, rfl, occurs⟩
  | cons d digits ih =>
      cases before with
      | nil => exact .inl (run_unique all ends occurs.major.all (ends_period _) occurs.split).2
      | cons b before =>
          obtain ⟨rfl, split⟩ := List.cons.inj occurs.split
          have others : ∀ c ∈ digits, isDecimalDigit c = true :=
            fun c member => all c (List.mem_cons_of_mem _ member)
          rcases ih others ⟨split, occurs.major, occurs.minor⟩ with here | ⟨before', rfl, later⟩
          · exact .inl here
          · exact .inr ⟨before', rfl, later⟩

/-! ## The search -/

/-- The first occurrence is found, or there is none. -/
inductive Found (text : List Char) : Option (List Char × List Char × Option (List Char)) → Prop
  | first {before major minor after : List Char} {patch : Option (List Char)}
    (leftmost : Leftmost text before major minor after) (third : Third after patch) :
    Found text (some (major, minor, patch))
  | absent (nowhere : ∀ before major minor after, ¬Occurs text before major minor after) :
    Found text none

/-- What is found in the rest of a text is found in the text, when nothing begins before the rest. -/
theorem Found.behind {front : List Char}
    {result : Option (List Char × List Char × Option (List Char))}
    (skips : ∀ before major minor after, Occurs (front ++ rest) before major minor after →
      ∃ before', before = front ++ before' ∧ Occurs rest before' major minor after)
    (found : Found rest result) : Found (front ++ rest) result := by
  cases found with
  | @first before major minor after patch leftmost third =>
      have split : front ++ rest = (front ++ before) ++ (major ++ '.' :: (minor ++ after)) := by
        rw [List.append_assoc, ← leftmost.split]
      refine .first ⟨⟨split, leftmost.major, leftmost.minor⟩, ?_, leftmost.ends⟩ third
      intro before' _ _ _ occurs
      obtain ⟨before', rfl, later⟩ := skips _ _ _ _ occurs
      have earliest := leftmost.first _ _ _ _ later
      simp only [List.length_append]
      omega
  | absent nowhere =>
      refine .absent fun before major minor after occurs => ?_
      obtain ⟨before', _, later⟩ := skips _ _ _ _ occurs
      exact nowhere _ _ _ _ later

theorem found_find (text : List Char) : Found text (find text) := by
  fun_induction find text with
  | case1 =>
      refine .absent fun before major minor after occurs => ?_
      have split := occurs.split
      simp at split
  | case2 c rest digit major after minor after' number =>
      have all : ∀ d ∈ major, isDecimalDigit d = true :=
        List.forall_mem_cons.mpr ⟨digit, all_takeWhile rest⟩
      obtain ⟨split, run, ends⟩ := numberAfterPeriod_eq_some_iff.mp number
      have whole : c :: rest = [] ++ (major ++ '.' :: (minor ++ after')) := by
        rw [← split]
        exact congrArg (c :: ·) List.takeWhile_append_dropWhile.symm
      exact .first ⟨⟨whole, ⟨List.cons_ne_nil _ _, all⟩, run⟩, fun _ _ _ _ _ => Nat.zero_le _, ends⟩
        (third_numberAfterPeriod after')
  | case3 c rest digit after number ih =>
      have all : ∀ d ∈ c :: rest.takeWhile isDecimalDigit, isDecimalDigit d = true :=
        List.forall_mem_cons.mpr ⟨digit, all_takeWhile rest⟩
      have whole : c :: rest = (c :: rest.takeWhile isDecimalDigit) ++ after :=
        congrArg (c :: ·) List.takeWhile_append_dropWhile.symm
      rw [whole]
      refine ih.behind fun before major minor after' occurs => ?_
      rcases occurs.within_or_behind all (ends_dropWhile rest) with here | later
      · exact absurd here (numberAfterPeriod_eq_none_iff.mp number _ _ occurs.minor)
      · exact later
  | case4 c rest plain ih =>
      have none : ∀ d ∈ [c], isDecimalDigit d = false := by simpa using plain
      exact @Found.behind rest [c] _ (fun _ _ _ _ occurs => occurs.behind none) ih

theorem find_of_leftmost (leftmost : Leftmost text before major minor after)
    (third : Third after patch) : find text = some (major, minor, patch) := by
  have found := found_find text
  generalize find text = result at found
  cases found with
  | first leftmost' third' =>
      obtain ⟨rfl, rfl, rfl⟩ := leftmost.unique leftmost'
      rw [third.eq, third'.eq]
  | absent nowhere => exact absurd leftmost.toOccurs (nowhere _ _ _ _)

theorem find_of_absent
    (nowhere : ∀ before major minor after, ¬Occurs text before major minor after) :
    find text = none := by
  have found := found_find text
  generalize find text = result at found
  cases found with
  | first leftmost _ => exact absurd leftmost.toOccurs (nowhere _ _ _ _)
  | absent _ => rfl

/-! ## Numbers -/

def value? (digits : List Char) : Option Nat :=
  let value := Nat.ofDigitChars 10 digits 0
  if digits.all Char.isDigit = true ∧ value < UInt32.size then some value else none

theorem toOption_number (digits : List Char) : (number digits).toOption = value? digits := by
  have below : 0 < UInt32.size := by decide
  cases read : readDigits UInt32.size 0 digits with
  | ok n =>
      obtain ⟨ascii, rfl, fits⟩ := (readDigits_eq_ok_iff below).mp read
      rw [number, read, value?, if_pos ⟨List.all_eq_true.mpr ascii, fits⟩]
      rfl
  | error e =>
      rw [number, read, value?, if_neg]
      · rfl
      · rintro ⟨ascii, fits⟩
        rw [(readDigits_eq_ok_iff below).mpr ⟨List.all_eq_true.mp ascii, rfl, fits⟩] at read
        cases read

theorem run_toDigits (n : Nat) : Run (Nat.toDigits 10 n) where
  any := Nat.toDigits_ne_nil
  all c member := isDecimalDigit_of_isDigit (isDigit_of_mem_toDigits c member)

/-- The text of two numbers with a period between them. -/
theorem toList_pair (a b : Nat) :
    s!"{a}.{b}".toList = Nat.toDigits 10 a ++ '.' :: Nat.toDigits 10 b := by
  have spelled : s!"{a}.{b}" = toString a ++ "." ++ toString b := rfl
  rw [spelled, String.toList_append, String.toList_append, Nat.toString_eq_repr,
    Nat.toString_eq_repr, Nat.toList_repr, Nat.toList_repr, List.append_assoc]
  rfl

theorem toList_toString (v : Version) : (toString v).toList =
    Nat.toDigits 10 v.major ++ '.' :: (Nat.toDigits 10 v.minor ++ '.' :: Nat.toDigits 10 v.patch) := by
  have spelled : toString v = s!"{v.major}.{v.minor}" ++ "." ++ toString v.patch := rfl
  rw [spelled, String.toList_append, String.toList_append, toList_pair, Nat.toString_eq_repr,
    Nat.toList_repr]
  simp only [List.append_assoc, List.cons_append]
  rfl

theorem value?_toDigits (n : UInt32) : value? (Nat.toDigits 10 n.toNat) = some n.toNat := by
  have value : Nat.ofDigitChars 10 (Nat.toDigits 10 n.toNat) 0 = n.toNat :=
    Nat.ofDigitChars_ten_toDigits
  rw [value?, value]
  exact if_pos ⟨List.all_eq_true.mpr isDigit_of_mem_toDigits, n.toNat_lt⟩

/-! ## Versions read -/

/-- The occurrence that is found gives the version, or there is none if a number of it is bad. -/
theorem parse?_eq_some_iff {text : String} {v : Version}
    (found : find text.toList = some (major, minor, patch)) :
    parse? text = some v ↔ value? major = some v.major ∧ value? minor = some v.minor ∧
      patch.elim (some 0) value? = some v.patch := by
  obtain ⟨a, b, c⟩ := v
  rw [parse?, read, found, ← toOption_number, ← toOption_number]
  dsimp only
  cases number major with
  | error e => simp [Except.toOption, bind, Except.bind]
  | ok a' =>
      cases number minor with
      | error e => simp [Except.toOption, bind, Except.bind]
      | ok b' =>
          cases patch with
          | none => simp [Except.toOption, bind, Except.bind, pure, Except.pure]
          | some digits =>
              rw [Option.elim, ← toOption_number]
              dsimp only
              cases number digits <;> simp [Except.toOption, bind, Except.bind, pure, Except.pure]

/-- An occurrence behind characters that are no digits is the first one. -/
theorem leftmost_of_plain (plain : ∀ c ∈ before, isDecimalDigit c = false) (run : Run major)
    (run' : Run minor) (ends : Ends after) :
    Leftmost (before ++ (major ++ '.' :: (minor ++ after))) before major minor after where
  split := rfl
  major := run
  minor := run'
  first _ _ _ _ occurs := by
    obtain ⟨before', rfl, _⟩ := occurs.behind plain
    rw [List.length_append]
    exact Nat.le_add_right _ _
  ends := ends

/-- Where versions are read, and what is read there. -/
structure Reading : Prop where
  /-- Where a version could be read there is a first place to read one. -/
  somewhere : ∀ text before major minor after, Occurs text before major minor after →
    ∃ before' major' minor' after' patch, Leftmost text before' major' minor' after' ∧
      Third after' patch
  /-- The first place decides. -/
  decided : ∀ (text : String) before major minor after patch,
    Leftmost text.toList before major minor after → Third after patch →
    ∀ v, parse? text = some v ↔ value? major = some v.major ∧ value? minor = some v.minor ∧
      patch.elim (some 0) value? = some v.patch
  nowhere : ∀ text : String,
    (∀ before major minor after, ¬Occurs text.toList before major minor after) → parse? text = none
  /-- A version is read back from its text, whatever stands around it. -/
  written : ∀ (a b c : UInt32) (before after : String),
    (∀ d ∈ before.toList, isDecimalDigit d = false) → Ends after.toList →
    parse? (before ++ toString (Version.mk a.toNat b.toNat c.toNat) ++ after) =
      some ⟨a.toNat, b.toNat, c.toNat⟩
  /-- The third number may be missing. -/
  short : ∀ (a b : UInt32) (before after : String),
    (∀ d ∈ before.toList, isDecimalDigit d = false) → Ends after.toList →
    after.toList.head? ≠ some '.' →
    parse? (before ++ s!"{a.toNat}.{b.toNat}" ++ after) = some ⟨a.toNat, b.toNat, 0⟩

/-- Every text is read at its first occurrence or not at all. -/
theorem parse?_reading : Reading := by
  refine ⟨fun text before major minor after occurs => ?_,
    fun text before major minor after patch leftmost third v => ?_, fun text nowhere => ?_,
    fun a b c before after plain ends => ?_, fun a b before after plain ends other => ?_⟩
  · have found := found_find text
    generalize find text = result at found
    cases found with
    | first leftmost third => exact ⟨_, _, _, _, _, leftmost, third⟩
    | absent nowhere => exact absurd occurs (nowhere _ _ _ _)
  · exact parse?_eq_some_iff (find_of_leftmost leftmost third)
  · rw [parse?, read, find_of_absent nowhere]
    rfl
  · have spelled : (before ++ toString (Version.mk a.toNat b.toNat c.toNat) ++ after).toList =
        before.toList ++ (Nat.toDigits 10 a.toNat ++ '.' :: (Nat.toDigits 10 b.toNat ++
          '.' :: (Nat.toDigits 10 c.toNat ++ after.toList))) := by
      simp only [String.toList_append, toList_toString, List.append_assoc, List.cons_append]
    have third : Third ('.' :: (Nat.toDigits 10 c.toNat ++ after.toList)) _ :=
      .given rfl (run_toDigits c.toNat) ends
    have leftmost := leftmost_of_plain plain (run_toDigits a.toNat) (run_toDigits b.toNat)
      (ends_period (Nat.toDigits 10 c.toNat ++ after.toList))
    rw [← spelled] at leftmost
    rw [parse?_eq_some_iff (find_of_leftmost leftmost third), Option.elim_some]
    exact ⟨value?_toDigits a, value?_toDigits b, value?_toDigits c⟩
  · have spelled : (before ++ s!"{a.toNat}.{b.toNat}" ++ after).toList = before.toList ++
        (Nat.toDigits 10 a.toNat ++ '.' :: (Nat.toDigits 10 b.toNat ++ after.toList)) := by
      rw [String.toList_append, String.toList_append, toList_pair, List.append_assoc,
        List.append_assoc, List.cons_append]
    have third : Third after.toList none := by
      refine .missing fun digits rest _ split => other ?_
      rw [split]
      rfl
    have leftmost := leftmost_of_plain plain (run_toDigits a.toNat) (run_toDigits b.toNat) ends
    rw [← spelled] at leftmost
    rw [parse?_eq_some_iff (find_of_leftmost leftmost third), Option.elim_none]
    exact ⟨value?_toDigits a, value?_toDigits b, rfl⟩

end Version

end StoneDebug
