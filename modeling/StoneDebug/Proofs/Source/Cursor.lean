import StoneDebug.Proofs.Source.Scanning

/-! # Scanning by position

The keywords of a message can be looked for by position. Then a reading may miss the text: that of a
character at a position, or that of a slice. None does, whatever the text is, and each lexeme ends
behind its beginning. So the scan takes at most as many turns as there are characters, and what it finds
are the sibling keywords.
-/

namespace StoneDebug.Source.Cursor

open Text

/-! ## Readings -/

/-- The text from a position on. It may be the end of the text, but not beyond it. -/
def textFrom (source : List Char) (pos : Nat) : Option (List Char) :=
  if pos ≤ source.length then some (source.drop pos) else none

def textBetween (source : List Char) (first last : Nat) : Option (List Char) :=
  if first ≤ last ∧ last ≤ source.length then some ((source.drop first).take (last - first)) else none

def runEnd (p : Char → Bool) (source : List Char) (pos : Nat) : Option Nat := do
  let rest ← textFrom source pos
  return pos + (rest.takeWhile p).length

/-- The position behind a string literal whose opening quote has been read. -/
def stringEnd (source : List Char) (pos : Nat) : Option Nat :=
  if pos < source.length then do
    let c ← source[pos]?
    if c == '\'' then
      if source[pos + 1]? == some '\'' then stringEnd source (pos + 2) else return pos + 1
    else stringEnd source (pos + 1)
  else return pos
termination_by source.length - pos

/-- The position behind a comment whose opening quote has been read. -/
def commentEnd (source : List Char) (pos : Nat) : Option Nat := do
  let rest ← textFrom source pos
  return (rest.findIdx? (· == '"')).elim source.length (pos + · + 1)

/-- The position behind a number whose first digit has been read. -/
def numberEnd (source : List Char) (pos : Nat) : Option Nat :=
  if pos < source.length then do
    let c ← source[pos]?
    let fraction := c == '.' && source[pos + 1]?.any isAsciiDigit
    if isAlphanumeric c || fraction then numberEnd source (pos + 1) else return pos
  else return pos
termination_by source.length - pos

/-- What a number sign before the position introduces, and the position behind it. -/
def hashAt (source : List Char) (pos : Nat) : Option (Lexeme × Nat) :=
  match source[pos]? with
  | none => return (.other, ← runEnd (fun d => isIdentPart d || d == ':') source pos)
  | some c =>
    if c == '\'' then return (.other, ← stringEnd source (pos + 1))
    else if isOpening c then return (.opening, pos + 1)
    else if isBinary c then return (.other, ← runEnd isBinary source pos)
    else return (.other, ← runEnd (fun d => isIdentPart d || d == ':') source pos)

def lexemeAt (source : List Char) (pos : Nat) : Option (Lexeme × Nat) := do
  let c ← source[pos]?
  if c == '\'' then return (.other, ← stringEnd source (pos + 1))
  else if c == '"' then return (.other, ← commentEnd source (pos + 1))
  else if c == '$' then return (.other, pos + 2)
  else if c == '#' then hashAt source (pos + 1)
  else if isOpening c then return (.opening, pos + 1)
  else if isClosing c then return (.closing, pos + 1)
  else if isStop c then return (.stop, pos + 1)
  else if isAsciiDigit c then return (.other, ← numberEnd source (pos + 1))
  else if isIdentStart c then
    let last ← runEnd isIdentPart source pos
    if source[last]? == some ':' && source[last + 1]? != some '=' then
      return (.keyword (← textBetween source pos (last + 1)), last + 1)
    else return (.other, last)
  else return (.other, pos + 1)

/-- The keywords from a position on, inside of so many brackets. It fails when a reading misses the text
and when the turns do not suffice. -/
def scan (source : List Char) : (turns depth pos : Nat) → Option (List (Nat × List Char))
  | 0, _, pos => if pos < source.length then none else some []
  | turns + 1, depth, pos =>
    if pos < source.length then do
      let (lex, next) ← lexemeAt source pos
      match lex, depth with
      | .opening, depth => scan source turns (depth + 1) next
      | .closing, 0 => return []
      | .closing, depth + 1 => scan source turns depth next
      | .stop, 0 => return []
      | .stop, depth + 1 => scan source turns (depth + 1) next
      | .keyword token, 0 => return (pos, token) :: (← scan source turns 0 next)
      | .keyword _, depth + 1 => scan source turns (depth + 1) next
      | .other, depth => scan source turns depth next
    else return []

/-! ## Where readings end -/

section

variable {source cs rest after : List Char} {pos next : Nat} {c : Char}

/-- The reading does not miss the text. It ends at the position or behind it, before the text `after`. -/
def Ends (source : List Char) (pos : Nat) (found : Option Nat) (after : List Char) : Prop :=
  ∃ next, found = some next ∧ pos ≤ next ∧ source.drop next = after

theorem of_drop_eq_cons (eq : source.drop pos = c :: rest) :
    pos < source.length ∧ source[pos]? = some c ∧ source.drop (pos + 1) = rest := by
  refine ⟨Nat.lt_of_not_le fun beyond => ?_, ?_, ?_⟩
  · cases eq.symm.trans (List.drop_eq_nil_iff.mpr beyond)
  · rw [← List.head?_drop, eq, List.head?_cons]
  · rw [← List.tail_drop, eq, List.tail_cons]

theorem not_lt_of_drop_eq_nil (eq : source.drop pos = []) : ¬pos < source.length :=
  Nat.not_lt.mpr (List.drop_eq_nil_iff.mp eq)

theorem textFrom_of_le (inside : pos ≤ source.length) :
    textFrom source pos = some (source.drop pos) :=
  if_pos inside

theorem drop_length_takeWhile (p : Char → Bool) (cs : List Char) :
    cs.drop (cs.takeWhile p).length = cs.dropWhile p := by
  calc cs.drop (cs.takeWhile p).length
      = (cs.takeWhile p ++ cs.dropWhile p).drop (cs.takeWhile p).length := by
        rw [List.takeWhile_append_dropWhile]
    _ = cs.dropWhile p := List.drop_left

theorem take_length_takeWhile_succ {p : Char → Bool} (head : (cs.dropWhile p).head? = some c) :
    cs.take ((cs.takeWhile p).length + 1) = cs.takeWhile p ++ [c] := by
  obtain ⟨tail, eq⟩ := List.head?_eq_some_iff.mp head
  calc cs.take ((cs.takeWhile p).length + 1)
      = (cs.takeWhile p ++ cs.dropWhile p).take ((cs.takeWhile p).length + 1) := by
        rw [List.takeWhile_append_dropWhile]
    _ = cs.takeWhile p ++ (cs.dropWhile p).take 1 := List.take_length_add_append 1
    _ = cs.takeWhile p ++ [c] := by rw [eq, List.take_succ_cons, List.take_zero]

theorem runEnd_of_le (p : Char → Bool) (inside : pos ≤ source.length) :
    runEnd p source pos = some (pos + ((source.drop pos).takeWhile p).length) := by
  rw [runEnd, textFrom_of_le inside]
  rfl

theorem ends_runEnd (p : Char → Bool) (inside : pos ≤ source.length) :
    Ends source pos (runEnd p source pos) ((source.drop pos).dropWhile p) := by
  refine ⟨_, runEnd_of_le p inside, Nat.le_add_right _ _, ?_⟩
  rw [← List.drop_drop, drop_length_takeWhile]

theorem stringEnd_of_cons (eq : source.drop pos = c :: rest) :
    stringEnd source pos =
      if c == '\'' then
        if rest.head? == some '\'' then stringEnd source (pos + 2) else some (pos + 1)
      else stringEnd source (pos + 1) := by
  obtain ⟨inside, here, behind⟩ := of_drop_eq_cons eq
  rw [stringEnd, if_pos inside, here, ← behind, List.head?_drop]
  rfl

theorem numberEnd_of_cons (eq : source.drop pos = c :: rest) :
    numberEnd source pos =
      if isAlphanumeric c || (c == '.' && rest.head?.any isAsciiDigit) then numberEnd source (pos + 1)
      else some pos := by
  obtain ⟨inside, here, behind⟩ := of_drop_eq_cons eq
  rw [numberEnd, if_pos inside, here, ← behind, List.head?_drop]
  rfl

theorem ends_stringEnd (source : List Char) (pos : Nat) :
    Ends source pos (stringEnd source pos) (afterString (source.drop pos)) := by
  generalize eq : source.drop pos = cs
  fun_induction afterString cs generalizing pos with
  | case1 =>
      rw [stringEnd, if_neg (not_lt_of_drop_eq_nil eq)]
      exact ⟨pos, rfl, Nat.le_refl pos, eq⟩
  | case2 rest ih =>
      obtain ⟨-, -, behind⟩ := of_drop_eq_cons eq
      obtain ⟨-, -, behind⟩ := of_drop_eq_cons behind
      obtain ⟨next, found, later, there⟩ := ih (pos + 2) behind
      exact ⟨next, (stringEnd_of_cons eq).trans found, by omega, there⟩
  | case3 c rest single quote =>
      obtain ⟨-, -, behind⟩ := of_drop_eq_cons eq
      have closed : (rest.head? == some '\'') = false := by
        refine beq_false_of_ne fun second => ?_
        obtain ⟨rest, rfl⟩ := List.head?_eq_some_iff.mp second
        exact single rest (eq_of_beq quote) rfl
      refine ⟨pos + 1, ?_, Nat.le_succ pos, behind⟩
      rw [stringEnd_of_cons eq, if_pos quote, closed]
      rfl
  | case4 c rest single other ih =>
      obtain ⟨-, -, behind⟩ := of_drop_eq_cons eq
      obtain ⟨next, found, later, there⟩ := ih (pos + 1) behind
      exact ⟨next, by rw [stringEnd_of_cons eq, if_neg other, found], by omega, there⟩

theorem ends_commentEnd (inside : pos ≤ source.length) :
    Ends source pos (commentEnd source pos) (afterComment (source.drop pos)) := by
  have test : (fun c : Char => !(c != '"')) = (· == '"') := by simp [bne]
  rw [commentEnd, textFrom_of_le inside, afterComment, List.dropWhile_eq_drop_findIdx_not, test,
    List.drop_drop, List.drop_drop]
  cases quote : (source.drop pos).findIdx? (· == '"') with
  | none =>
      have all := List.findIdx_eq_length_of_false (List.findIdx?_eq_none_iff.mp quote)
      refine ⟨source.length, by simp [quote], inside, ?_⟩
      rw [all, List.length_drop, List.drop_length, List.drop_eq_nil_of_le (by omega)]
  | some i =>
      obtain ⟨-, first⟩ := List.findIdx?_eq_some_iff_findIdx_eq.mp quote
      refine ⟨pos + i + 1, by simp [quote], by omega, ?_⟩
      rw [first, Nat.add_assoc]

theorem ends_numberEnd (source : List Char) (pos : Nat) :
    Ends source pos (numberEnd source pos) (afterNumber (source.drop pos)) := by
  generalize eq : source.drop pos = cs
  fun_induction afterNumber cs generalizing pos with
  | case1 =>
      rw [numberEnd, if_neg (not_lt_of_drop_eq_nil eq)]
      exact ⟨pos, rfl, Nat.le_refl pos, eq⟩
  | case2 d rest digit ih =>
      obtain ⟨-, -, behind⟩ := of_drop_eq_cons eq
      obtain ⟨next, found, later, there⟩ := ih (pos + 1) behind
      have fraction : numberEnd source pos = numberEnd source (pos + 1) := by
        rw [numberEnd_of_cons eq, if_pos (by simp [digit])]
      exact ⟨next, fraction.trans found, by omega, there⟩
  | case3 d rest digit =>
      have outside : isAlphanumeric '.' = false := by decide
      refine ⟨pos, ?_, Nat.le_refl pos, eq⟩
      rw [numberEnd_of_cons eq, if_neg (by simp [outside, digit])]
  | case4 c rest single part ih =>
      obtain ⟨-, -, behind⟩ := of_drop_eq_cons eq
      obtain ⟨next, found, later, there⟩ := ih (pos + 1) behind
      have goesOn : numberEnd source pos = numberEnd source (pos + 1) := by
        rw [numberEnd_of_cons eq, if_pos (by simp [part])]
      exact ⟨next, goesOn.trans found, by omega, there⟩
  | case5 c rest single part =>
      have whole : (c == '.' && rest.head?.any isAsciiDigit) = false := by
        cases rest with
        | nil => simp
        | cons d rest =>
            have point : (c == '.') = false := beq_false_of_ne fun point => single d rest point rfl
            rw [point, Bool.false_and]
      refine ⟨pos, ?_, Nat.le_refl pos, eq⟩
      rw [numberEnd_of_cons eq, whole, Bool.or_false, if_neg part]

/-! ## Lexemes -/

/-- The reading does not miss the text. It answers the lexeme and ends at the position or behind it,
before the text after the lexeme. -/
def Lexes (source : List Char) (pos : Nat) (found : Option (Lexeme × Nat))
    (lexed : Lexeme × List Char) : Prop :=
  ∃ next, found = some (lexed.1, next) ∧ pos ≤ next ∧ source.drop next = lexed.2

theorem Ends.lexes {found : Option Nat} (ends : Ends source pos found after) (lex : Lexeme) :
    Lexes source pos (do return (lex, ← found)) (lex, after) := by
  obtain ⟨next, rfl, later, there⟩ := ends
  exact ⟨next, rfl, later, there⟩

theorem Lexes.of_le {found : Option (Lexeme × Nat)} {lexed : Lexeme × List Char} {first : Nat}
    (lexes : Lexes source pos found lexed) (le : first ≤ pos) : Lexes source first found lexed := by
  obtain ⟨next, read, later, there⟩ := lexes
  exact ⟨next, read, Nat.le_trans le later, there⟩

theorem Lexes.ite {p : Prop} [Decidable p] {yes no : Option (Lexeme × Nat)}
    {lexedYes lexedNo : Lexeme × List Char} (whenYes : p → Lexes source pos yes lexedYes)
    (whenNo : ¬p → Lexes source pos no lexedNo) :
    Lexes source pos (if p then yes else no) (if p then lexedYes else lexedNo) := by
  by_cases holds : p
  · rw [if_pos holds, if_pos holds]
    exact whenYes holds
  · rw [if_neg holds, if_neg holds]
    exact whenNo holds

theorem lexes_hashAt (inside : pos ≤ source.length) :
    Lexes source pos (hashAt source pos) (afterHash (source.drop pos)) := by
  have part := (ends_runEnd (fun d => isIdentPart d || d == ':') inside).lexes .other
  cases eq : source.drop pos with
  | nil =>
      have beyond : source[pos]? = none := by rw [← List.head?_drop, eq, List.head?_nil]
      rw [hashAt, beyond]
      rw [eq] at part
      exact part
  | cons c rest =>
      obtain ⟨-, here, behind⟩ := of_drop_eq_cons eq
      have quoted := ((ends_stringEnd source (pos + 1)).lexes .other).of_le (Nat.le_succ pos)
      have operator := (ends_runEnd isBinary inside).lexes .other
      rw [eq] at part operator
      rw [behind] at quoted
      have bracket : Lexes source pos (some (.opening, pos + 1)) (.opening, rest) :=
        ⟨pos + 1, rfl, Nat.le_succ pos, behind⟩
      rw [hashAt, here, afterHash]
      exact .ite (fun _ => quoted) fun _ => .ite (fun _ => bracket) fun _ =>
        .ite (fun _ => operator) fun _ => part

theorem atKeywordColon_eq (cs : List Char) :
    atKeywordColon cs = (cs.head? == some ':' && cs.tail.head? != some '=') := by
  fun_cases atKeywordColon cs with
  | case1 rest => simp
  | case2 rest other => cases rest <;> simp_all
  | case3 cs other more => cases cs <;> simp_all

theorem lexes_word (eq : source.drop pos = c :: rest) (start : isIdentStart c = true) :
    Lexes source (pos + 1)
      (do
        let last ← runEnd isIdentPart source pos
        if source[last]? == some ':' && source[last + 1]? != some '=' then
          return (.keyword (← textBetween source pos (last + 1)), last + 1)
        else return (.other, last))
      (if atKeywordColon (rest.dropWhile isIdentPart) then
        (.keyword (identToken (c :: rest)), (rest.dropWhile isIdentPart).drop 1)
      else (.other, rest.dropWhile isIdentPart)) := by
  have part := Grammar.identPart_of_identStart start
  obtain ⟨inside, -, -⟩ := of_drop_eq_cons eq
  obtain ⟨last, found, -, there⟩ := ends_runEnd isIdentPart (Nat.le_of_lt inside)
  have length : pos + ((c :: rest).takeWhile isIdentPart).length = last := by
    rw [runEnd_of_le isIdentPart (Nat.le_of_lt inside), eq] at found
    exact Option.some.inj found
  have later : pos + 1 ≤ last := by
    rw [List.takeWhile_cons_of_pos part, List.length_cons] at length
    omega
  rw [eq] at there
  have after : (c :: rest).dropWhile isIdentPart = rest.dropWhile isIdentPart :=
    List.dropWhile_cons_of_pos part
  have colon : atKeywordColon ((c :: rest).dropWhile isIdentPart) =
      (source[last]? == some ':' && source[last + 1]? != some '=') := by
    rw [atKeywordColon_eq, ← there, List.tail_drop, List.head?_drop, List.head?_drop]
  rw [found, Option.bind_eq_bind, Option.bind_some, ← after, colon]
  refine .ite (fun keyword => ?_) fun _ => ⟨last, rfl, later, there⟩
  have token : textBetween source pos (last + 1) = some (identToken (c :: rest)) := by
    have present : source[last]? = some ':' := eq_of_beq (Bool.and_eq_true_iff.mp keyword).1
    have reaches := (List.getElem?_eq_some_iff.mp present).1
    rw [← List.head?_drop, there] at present
    rw [textBetween, if_pos ⟨by omega, reaches⟩, identToken, colon, if_pos keyword, eq,
      ← take_length_takeWhile_succ present]
    exact congrArg (fun n => some ((c :: rest).take n)) (by omega)
  rw [token]
  exact ⟨last + 1, rfl, by omega, by rw [← there, List.drop_drop]⟩

/-- A lexeme is read at every position of the text, and ends behind its beginning. -/
theorem lexes_lexemeAt (eq : source.drop pos = c :: rest) :
    Lexes source (pos + 1) (lexemeAt source pos) (lexeme c rest) := by
  obtain ⟨inside, here, behind⟩ := of_drop_eq_cons eq
  have quoted := (ends_stringEnd source (pos + 1)).lexes .other
  have upTo : pos + 1 ≤ source.length := inside
  have comment := (ends_commentEnd upTo).lexes .other
  have hash := lexes_hashAt upTo
  have number := (ends_numberEnd source (pos + 1)).lexes .other
  rw [behind] at quoted comment hash number
  have character : Lexes source (pos + 1) (some (.other, pos + 2)) (.other, rest.drop 1) :=
    ⟨pos + 2, rfl, Nat.le_succ _, by rw [← behind, List.drop_drop]⟩
  have single (lex : Lexeme) : Lexes source (pos + 1) (some (lex, pos + 1)) (lex, rest) :=
    ⟨pos + 1, rfl, Nat.le_refl _, behind⟩
  rw [lexemeAt, here, Option.bind_eq_bind, Option.bind_some, lexeme]
  exact .ite (fun _ => quoted) fun _ => .ite (fun _ => comment) fun _ =>
    .ite (fun _ => character) fun _ => .ite (fun _ => hash) fun _ =>
    .ite (fun _ => single .opening) fun _ => .ite (fun _ => single .closing) fun _ =>
    .ite (fun _ => single .stop) fun _ => .ite (fun _ => number) fun _ =>
    .ite (lexes_word eq) fun _ => single .other

/-- The lexemes from a position on are the one there and those from the position behind it on. -/
theorem lexemes_of_lexes (eq : source.drop pos = c :: rest) (later : pos + 1 ≤ next)
    (there : source.drop next = (lexeme c rest).2) :
    lexemes pos (source.drop pos) = (pos, (lexeme c rest).1) :: lexemes next (source.drop next) := by
  have length := congrArg List.length eq
  have left := congrArg List.length there
  rw [List.length_drop, List.length_cons] at length
  rw [List.length_drop] at left
  rw [eq, lexemes, there]
  by_cases inside : next ≤ source.length
  · rw [show pos + (rest.length + 1 - (lexeme c rest).2.length) = next by omega]
  · rw [List.eq_nil_of_length_eq_zero (show (lexeme c rest).2.length = 0 by omega), lexemes, lexemes]

/-! ## The scan -/

theorem scan_of_end {turns depth : Nat} (beyond : ¬pos < source.length) :
    scan source turns depth pos = some [] := by
  cases turns <;> rw [scan, if_neg beyond]
  rfl

/-- As many turns suffice as there are characters left. -/
theorem scan_eq (source : List Char) (turns depth pos : Nat) (enough : source.length ≤ pos + turns) :
    scan source turns depth pos = some (siblings depth (lexemes pos (source.drop pos))) := by
  induction turns generalizing depth pos with
  | zero =>
      rw [scan_of_end (by omega), List.drop_eq_nil_of_le (by omega), lexemes, siblings]
  | succ turns ih =>
      cases eq : source.drop pos with
      | nil =>
          rw [scan_of_end (not_lt_of_drop_eq_nil eq), lexemes, siblings]
      | cons c rest =>
          obtain ⟨inside, -, -⟩ := of_drop_eq_cons eq
          obtain ⟨next, read, later, there⟩ := lexes_lexemeAt eq
          have goesOn (depth : Nat) := ih depth next (by omega)
          rw [← eq, lexemes_of_lexes eq later there, scan, if_pos inside, read, Option.bind_eq_bind,
            Option.bind_some]
          dsimp only
          cases (lexeme c rest).1 with
          | opening | other => rw [siblings, ← goesOn]
          | closing | stop =>
              cases depth with
              | zero => rw [siblings]; rfl
              | succ depth => rw [siblings, ← goesOn]
          | keyword token =>
              cases depth with
              | zero => rw [siblings, goesOn]; rfl
              | succ depth => rw [siblings, ← goesOn]

end

end StoneDebug.Source.Cursor
