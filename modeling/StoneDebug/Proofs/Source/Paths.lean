import Mathlib.Data.List.Infix
import Mathlib.Data.List.TakeWhile
import StoneDebug.Proofs.Text.Encoding
import StoneDebug.Source.Location

/-! # Paths written and read back

A path is read from its two ends: the environment stands behind its last mark, and what is before it
is cut at the first four slashes. Both cuts fall where they were written, so the location of a path is
read back from the path of the location. They part over the default environment, which is not written:
without it a mark in the selector comes to be the last one of the path.
-/

namespace StoneDebug.Source

open Text

/-! ## The last mark -/

section

variable {mark before after cs : List Char}

theorem splitLast?_eq_none_iff (any : mark ≠ []) : splitLast? mark cs = none ↔ ¬mark <:+: cs := by
  induction cs with
  | nil => simpa [splitLast?] using any
  | cons c cs ih =>
      rw [List.infix_cons_iff, not_or, ← ih, splitLast?]
      cases rest : splitLast? mark cs with
      | some cut => simp
      | none =>
          rw [← List.isPrefixOf_iff_prefix]
          by_cases here : mark.isPrefixOf (c :: cs) = true <;> simp [here]

theorem eq_of_splitLast? (cut : splitLast? mark cs = some (before, after)) :
    cs = before ++ (mark ++ after) := by
  induction cs generalizing before with
  | nil => cases cut
  | cons c cs ih =>
      rw [splitLast?] at cut
      cases rest : splitLast? mark cs with
      | some cut' =>
          obtain ⟨before', after'⟩ := cut'
          rw [rest] at cut
          cases cut
          exact congrArg (c :: ·) (ih rest)
      | none =>
          rw [rest] at cut
          obtain ⟨here, same⟩ := Option.ite_none_right_eq_some.mp cut
          cases same
          exact (List.prefix_iff_eq_append.mp (List.isPrefixOf_iff_prefix.mp here)).symm

/-- What stands before a text does not move its last mark. -/
theorem splitLast?_behind (cut : splitLast? mark cs = some (before, after)) (front : List Char) :
    splitLast? mark (front ++ cs) = some (front ++ before, after) := by
  induction front with
  | nil => exact cut
  | cons c front ih => rw [List.cons_append, splitLast?, ih, List.cons_append]

/-- A text is cut at a mark that is not followed by another one. -/
theorem splitLast?_append {c : Char} (last : ¬c :: mark <:+: mark ++ after) :
    splitLast? (c :: mark) (before ++ (c :: mark ++ after)) = some (before, after) := by
  have here : (c :: mark).isPrefixOf (c :: (mark ++ after)) = true :=
    List.isPrefixOf_iff_prefix.mpr (List.prefix_append (c :: mark) after)
  have cut : splitLast? (c :: mark) (c :: mark ++ after) = some ([], after) := by
    rw [List.cons_append, splitLast?, (splitLast?_eq_none_iff (List.cons_ne_nil _ _)).mpr last]
    simp only [here, if_true, List.length_cons, List.drop_succ_cons, List.drop_left]
  simpa using splitLast?_behind cut before

end

/-! ## The first slashes -/

/-- A text is cut at its first slash, which is the one behind a part without slashes. -/
theorem segments_eq_cons_iff {n : Nat} {cs part : List Char} {parts : List (List Char)}
    (more : parts ≠ []) :
    segments (n + 1) cs = part :: parts ↔
      ∃ rest, '/' ∉ part ∧ cs = part ++ '/' :: rest ∧ segments n rest = parts := by
  rw [segments]
  constructor
  · intro cut
    have whole := List.takeWhile_append_dropWhile (p := (· != '/')) (l := cs)
    have stops := List.head?_dropWhile_not (· != '/') cs
    cases later : cs.dropWhile (· != '/') with
    | nil =>
        rw [later] at cut
        exact absurd (List.cons.inj cut).2.symm more
    | cons c rest =>
        rw [later] at cut whole stops
        obtain ⟨first, others⟩ := List.cons.inj cut
        obtain rfl : c = '/' := by simpa using stops
        refine ⟨rest, fun member => ?_, by rw [← first, whole], others⟩
        have unlike := List.mem_takeWhile_imp (first ▸ member)
        simp at unlike
  · rintro ⟨rest, plain, rfl, rfl⟩
    have unlike : ∀ c ∈ part, (c != '/') = true := by
      intro c member
      rw [bne_iff_ne]
      rintro rfl
      exact plain member
    have front : (part ++ '/' :: rest).takeWhile (· != '/') = part := by
      rw [List.takeWhile_append_of_pos unlike, List.takeWhile_cons_of_neg (by decide),
        List.append_nil]
    have back : (part ++ '/' :: rest).dropWhile (· != '/') = '/' :: rest := by
      rw [List.dropWhile_append_of_pos unlike, List.dropWhile_cons_of_neg (by decide)]
    rw [front, back]

namespace MethodLocation

/-- The parts of a path between the slashes. -/
def parts (l : MethodLocation) : List (List Char) :=
  [l.dictionary.toList, l.cls.toList, l.side.name.toList, l.category.toList, l.selector.toList]

/-- The path without its leading slash and its environment. -/
def text (l : MethodLocation) : List Char :=
  l.dictionary.toList ++ '/' :: (l.cls.toList ++ '/' :: (l.side.name.toList ++ '/' ::
    (l.category.toList ++ '/' :: l.selector.toList)))

def suffix (l : MethodLocation) : List Char :=
  if l.env = 0 then [] else envMark ++ Nat.toDigits 10 l.env

/-- The locations that some path names: only the category may be empty, and only the selector may
contain slashes. -/
structure Nameable (l : MethodLocation) : Prop where
  dictionary : l.dictionary ≠ "" ∧ '/' ∉ l.dictionary.toList
  cls : l.cls ≠ "" ∧ '/' ∉ l.cls.toList
  category : '/' ∉ l.category.toList
  selector : l.selector ≠ ""
  env : l.env < envLimit

variable {l l' : MethodLocation}

theorem toList_path (l : MethodLocation) : l.path.toList = '/' :: (l.text ++ l.suffix) := by
  have slash : "/".toList = ['/'] := by decide
  have written : (if l.env = 0 then "" else "?env=" ++ toString l.env).toList = l.suffix := by
    unfold suffix envMark
    split
    · rfl
    · rw [String.toList_append, Nat.toString_eq_repr, Nat.toList_repr]
  -- The equation lemma of `path` takes seconds to derive.
  delta path
  simp only [text, String.toList_append, slash, written, List.append_assoc, List.cons_append,
    List.nil_append]

theorem ofName?_eq_some_iff {name : List Char} {side : Side} :
    Side.ofName? name = some side ↔ name = side.name.toList := by
  have unlike : Side.instance.name.toList ≠ Side.class.name.toList := by decide
  unfold Side.ofName?
  split
  · next same => cases side <;> simp [same, unlike]
  · cases side <;> simp_all

theorem slash_not_mem_name (side : Side) : '/' ∉ side.name.toList := by
  cases side <;> decide

/-- Cutting a text gives the parts of a location exactly when the text is written like this. -/
theorem segments_eq_parts_iff {cs : List Char} :
    segments 4 cs = l.parts ↔
      cs = l.text ∧ '/' ∉ l.dictionary.toList ∧ '/' ∉ l.cls.toList ∧ '/' ∉ l.category.toList := by
  have name := slash_not_mem_name l.side
  simp only [parts, segments_eq_cons_iff, ne_eq, reduceCtorEq, not_false_eq_true]
  constructor
  · rintro ⟨_, dictionary, rfl, _, cls, rfl, _, -, rfl, rest, category, rfl, selector⟩
    cases selector
    exact ⟨rfl, dictionary, cls, category⟩
  · rintro ⟨rfl, dictionary, cls, category⟩
    exact ⟨_, dictionary, rfl, _, cls, rfl, _, name, rfl, _, category, rfl, rfl⟩

theorem ofSegments_parts (dictionary : l.dictionary ≠ "") (cls : l.cls ≠ "")
    (selector : l.selector ≠ "") : ofSegments l.env l.parts = .ok l := by
  have full : (l.dictionary.toList.isEmpty || l.cls.toList.isEmpty || l.selector.toList.isEmpty) =
      false := by
    simp [dictionary, cls, selector]
  have found : Side.ofName? l.side.name.toList = some l.side := ofName?_eq_some_iff.mpr rfl
  simp only [ofSegments, parts, full, found, Bool.false_eq_true, if_false, String.ofList_toList]

theorem of_ofSegments {env : Nat} {segments : List (List Char)}
    (made : ofSegments env segments = .ok l) :
    segments = l.parts ∧ l.env = env ∧ l.dictionary ≠ "" ∧ l.cls ≠ "" ∧ l.selector ≠ "" := by
  unfold ofSegments at made
  split at made
  · split at made
    · cases made
    · next full =>
        split at made
        · cases made
        · next found =>
            cases made
            simp only [Bool.or_eq_true, List.isEmpty_iff, not_or] at full
            simp [parts, ofName?_eq_some_iff.mp found, full]
  · cases made

/-! ## The environment -/

theorem splitEnv_lt {cs text : List Char} {env : Nat} (cut : splitEnv cs = .ok (text, env)) :
    env < envLimit := by
  unfold splitEnv at cut
  split at cut
  · cases cut
    decide
  · split at cut
    · next read =>
        cases cut
        exact readUnsigned_lt (by decide) read
    · cases cut

/-- The number of an environment holds no mark. -/
theorem splitEnv_written (text : List Char) {env : Nat} (below : env < envLimit) :
    splitEnv (text ++ (envMark ++ Nat.toDigits 10 env)) = .ok (text, env) := by
  have undigit : '?' ∉ Nat.toDigits 10 env :=
    fun member => absurd (isDigit_of_mem_toDigits _ member) (by decide)
  have unmarked : '?' ∉ "env=".toList ++ Nat.toDigits 10 env :=
    List.not_mem_append (by decide) undigit
  have cut : splitLast? envMark (text ++ (envMark ++ Nat.toDigits 10 env)) =
      some (text, Nat.toDigits 10 env) :=
    splitLast?_append fun inside => unmarked (inside.subset (List.mem_cons_self ..))
  simp only [splitEnv, cut, readUnsigned_toDigits below]

theorem splitEnv_eq_self_iff {cs : List Char} : splitEnv cs = .ok (cs, 0) ↔ ¬envMark <:+: cs := by
  rw [← splitLast?_eq_none_iff (by decide)]
  unfold splitEnv
  cases cut : splitLast? envMark cs with
  | none => simp
  | some parts =>
      obtain ⟨before, number⟩ := parts
      have shorter : before ≠ cs := by
        rintro rfl
        have length := congrArg List.length (eq_of_splitLast? cut)
        have mark : envMark.length = 5 := by decide
        simp only [List.length_append, mark] at length
        omega
      dsimp only
      split <;> simp [shorter]

/-! ## Paths -/

theorem read_eq_ok_iff {p : String} :
    read p = .ok l ↔
      l.Nameable ∧ ∃ rest, p.toList = '/' :: rest ∧ splitEnv rest = .ok (l.text, l.env) := by
  unfold read
  constructor
  · intro made
    split at made
    · next rest whole =>
        cases cut : splitEnv rest with
        | error fault =>
            rw [cut] at made
            cases made
        | ok found =>
            obtain ⟨text, env⟩ := found
            rw [cut] at made
            obtain ⟨parts, same, dictionary, cls, selector⟩ := of_ofSegments made
            obtain ⟨written, plain, plain', plain''⟩ := segments_eq_parts_iff.mp parts
            have nameable : l.Nameable :=
              ⟨⟨dictionary, plain⟩, ⟨cls, plain'⟩, plain'', selector, same ▸ splitEnv_lt cut⟩
            exact ⟨nameable, rest, whole, by rw [cut, written, same]⟩
    · cases made
  · rintro ⟨nameable, rest, whole, cut⟩
    have parts : segments 4 l.text = l.parts := segments_eq_parts_iff.mpr
      ⟨rfl, nameable.dictionary.2, nameable.cls.2, nameable.category⟩
    have made := ofSegments_parts nameable.dictionary.1 nameable.cls.1 nameable.selector
    rw [whole]
    show (splitEnv rest >>= fun cut => ofSegments cut.2 (segments 4 cut.1)) = _
    rw [cut]
    show ofSegments l.env (segments 4 l.text) = _
    rw [parts, made]

/-- A path is read as the location that wrote it, unless it leaves out the default environment and
holds a mark all the same. -/
theorem read_path_iff (nameable : l.Nameable) :
    read l.path = .ok l ↔ (l.env = 0 → ¬envMark <:+: l.path.toList) := by
  have written := toList_path l
  have opened : read l.path = .ok l ↔ splitEnv (l.text ++ l.suffix) = .ok (l.text, l.env) := by
    rw [read_eq_ok_iff, written]
    constructor
    · exact fun ⟨_, _, whole, cut⟩ => (List.cons.inj whole).2 ▸ cut
    · exact fun cut => ⟨nameable, _, rfl, cut⟩
  rw [opened, written, suffix]
  by_cases default : l.env = 0
  · have first : ¬envMark <+: '/' :: l.text := by
      intro ⟨_, same⟩
      exact absurd (List.head_eq_of_cons_eq same) (by decide)
    rw [if_pos default, List.append_nil, default, splitEnv_eq_self_iff, List.infix_cons_iff]
    simp [first]
  · simp [default, splitEnv_written _ nameable.env]

/-- Nothing in the path looks like an environment but the one that is written at its end. -/
def Plain (l : MethodLocation) : Prop :=
  ∀ rest ∈ l.path.toList.tails, envMark <+: rest → rest = l.suffix

instance : Decidable l.Plain :=
  inferInstanceAs (Decidable (∀ rest ∈ l.path.toList.tails, envMark <+: rest → rest = l.suffix))

instance : Decidable l.Nameable :=
  decidable_of_iff ((l.dictionary ≠ "" ∧ '/' ∉ l.dictionary.toList) ∧
    (l.cls ≠ "" ∧ '/' ∉ l.cls.toList) ∧ '/' ∉ l.category.toList ∧ l.selector ≠ "" ∧
      l.env < envLimit)
    ⟨fun ⟨dictionary, cls, category, selector, env⟩ => ⟨dictionary, cls, category, selector, env⟩,
      fun h => ⟨h.dictionary, h.cls, h.category, h.selector, h.env⟩⟩

theorem Plain.unmarked (plain : l.Plain) (default : l.env = 0) : ¬envMark <:+: l.path.toList := by
  intro marked
  obtain ⟨rest, start, tail⟩ := List.infix_iff_prefix_suffix.mp marked
  have same := plain rest ((List.mem_tails ..).mpr tail) start
  rw [suffix, if_pos default] at same
  rw [same] at start
  exact absurd start (by decide)

/-- A location is read from its path as it was, so no two locations have the same path. -/
theorem read_path (nameable : l.Nameable) (plain : l.Plain) :
    read l.path = .ok l ∧
      ∀ l' : MethodLocation, l'.Nameable → l'.Plain → l'.path = l.path → l' = l := by
  have back : ∀ {l : MethodLocation}, l.Nameable → l.Plain → read l.path = .ok l :=
    fun nameable plain => (read_path_iff nameable).mpr plain.unmarked
  refine ⟨back nameable plain, fun l' nameable' plain' same => ?_⟩
  have read' := back nameable' plain'
  rw [same, back nameable plain] at read'
  exact (Except.ok.inj read').symm

/-- A selector of slashes behind an empty category, in the last environment. -/
theorem read_path_slashes :
    let l : MethodLocation := ⟨"Globals", "Number", .class, "", "//", 65535⟩
    let l' : MethodLocation := ⟨"Globals", "Number", .class, "a", "/", 65535⟩
    l.path = "/Globals/Number/class////?env=65535" ∧
      read "/Globals/Number/class////?env=65535" = .ok l ∧ l'.path ≠ l.path := by
  intro l l'
  have written : l.path = "/Globals/Number/class////?env=65535" := by decide
  obtain ⟨back, alone⟩ := read_path (l := l) (by decide) (by decide)
  refine ⟨written, written ▸ back, fun same => ?_⟩
  exact absurd (alone l' (by decide) (by decide) same) (by decide)

/-- What was read from some path is read again from its own path, unless its environment is the
default one and its path holds a mark. It is read again in any case when that environment is written
too. -/
theorem reread_iff {p : String} (made : read p = .ok l) :
    (read l.path = .ok l ↔ ¬(l.env = 0 ∧ envMark <:+: l.path.toList)) ∧
      (l.env = 0 → read (l.path ++ "?env=0") = .ok l) := by
  have nameable := (read_eq_ok_iff.mp made).1
  refine ⟨by rw [read_path_iff nameable, not_and], fun default => ?_⟩
  have written : (l.path ++ "?env=0").toList =
      '/' :: (l.text ++ (envMark ++ Nat.toDigits 10 0)) := by
    rw [String.toList_append, toList_path, suffix, if_pos default, List.append_nil]
    rfl
  have cut := splitEnv_written l.text (show 0 < envLimit by decide)
  exact read_eq_ok_iff.mpr ⟨nameable, _, written, default ▸ cut⟩

/-- Of several environments the last one counts, whatever its number looks like. -/
theorem reread_spelled :
    let l : MethodLocation := ⟨"Globals", "Array", .class, "", "new:?env=1", 7⟩
    read "/Globals/Array/class//new:?env=1?env=+007" = .ok l ∧
      l.path = "/Globals/Array/class//new:?env=1?env=7" ∧ read l.path = .ok l := by
  intro l
  have made : read "/Globals/Array/class//new:?env=1?env=+007" = .ok l := by decide
  exact ⟨made, by decide, (reread_iff made).1.mpr (by decide)⟩

/-- Leaving out the default environment turns a part of the selector into the environment. -/
theorem reread_exposed :
    let l : MethodLocation := ⟨"Globals", "Array", .instance, "accessing", "at:?env=1", 0⟩
    read "/Globals/Array/instance/accessing/at:?env=1?env=0" = .ok l ∧
      l.path = "/Globals/Array/instance/accessing/at:?env=1" ∧
        read l.path = .ok { l with selector := "at:", env := 1 } ∧ read l.path ≠ .ok l := by
  decide

end MethodLocation

end StoneDebug.Source
