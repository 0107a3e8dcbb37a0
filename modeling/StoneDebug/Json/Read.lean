import StoneDebug.Json.Value

/-! # Reading JSON

A text is cut into its words: brackets, commas, colons, and the values that are not built of others.
These tokens are taken one by one. What has been read so far is a stack of arrays and objects that are
still open, from the inside out, and what may come next.
-/

namespace StoneDebug.Json

open Text

inductive Token where
  | openArray
  | closeArray
  | openObject
  | closeObject
  | comma
  | colon
  /-- A value without parts. -/
  | atom (value : Json)

def isBlank (c : Char) : Bool := c == ' ' || c == '\t' || c == '\n' || c == '\r'

/-! ## Strings -/

def hexUnit? (a b c d : Char) : Option Nat := do
  let a ← Hex.value? a
  let b ← Hex.value? b
  let c ← Hex.value? c
  let d ← Hex.value? d
  return ((a * 16 + b) * 16 + c) * 16 + d

def escaped? : Char → Option Char
  | '"' => some '"'
  | '\\' => some '\\'
  | '/' => some '/'
  | 'b' => some '\x08'
  | 'f' => some '\x0c'
  | 'n' => some '\n'
  | 'r' => some '\r'
  | 't' => some '\t'
  | _ => none

def isHighSurrogate (n : Nat) : Bool := 0xd800 ≤ n && n < 0xdc00

def isLowSurrogate (n : Nat) : Bool := 0xdc00 ≤ n && n < 0xe000

/-- The first character of the rest of a string. Surrogates stand for a character in pairs only. -/
def stringChar? : List Char → Option (Char × List Char)
  | '\\' :: 'u' :: a :: b :: c :: d :: rest => do
    let n ← hexUnit? a b c d
    if isHighSurrogate n then
      match rest with
      | '\\' :: 'u' :: a :: b :: c :: d :: rest => do
        let low ← hexUnit? a b c d
        if isLowSurrogate low then
          some (Char.ofNat (0x10000 + (n - 0xd800) * 0x400 + (low - 0xdc00)), rest)
        else none
      | _ => none
    else if isLowSurrogate n then none
    else some (Char.ofNat n, rest)
  | '\\' :: c :: rest => (escaped? c).map fun e => (e, rest)
  | c :: rest => if c.toNat < 0x20 || c == '\\' then none else some (c, rest)
  | [] => none

theorem length_lt_of_stringChar? {cs rest : List Char} {c : Char}
    (h : stringChar? cs = some (c, rest)) : rest.length < cs.length := by
  unfold stringChar? at h
  split at h
  · simp only [Option.bind_eq_bind, Option.bind_eq_some_iff] at h
    obtain ⟨n, _, h⟩ := h
    split at h
    · split at h
      · simp only [Option.bind_eq_some_iff] at h
        obtain ⟨low, _, h⟩ := h
        split at h
        · obtain ⟨_, rfl⟩ := Prod.mk.inj (Option.some.inj h)
          simp only [List.length_cons]
          omega
        · cases h
      · cases h
    · split at h
      · cases h
      · obtain ⟨_, rfl⟩ := Prod.mk.inj (Option.some.inj h)
        simp only [List.length_cons]
        omega
  · obtain ⟨_, _, h⟩ := Option.map_eq_some_iff.1 h
    cases h
    simp only [List.length_cons]
    omega
  · split at h
    · cases h
    · cases h
      simp
  · cases h

/-- The string whose opening quote has been read, and the text after it. -/
def stringBody? (cs : List Char) : Option (List Char × List Char) :=
  match cs with
  | '"' :: rest => some ([], rest)
  | cs =>
    match _h : stringChar? cs with
    | none => none
    | some (c, rest) => (stringBody? rest).map fun (body, after) => (c :: body, after)
termination_by cs.length
decreasing_by exact length_lt_of_stringChar? _h

theorem length_lt_of_stringBody? {cs body rest : List Char}
    (h : stringBody? cs = some (body, rest)) : rest.length < cs.length := by
  fun_induction stringBody? cs generalizing body rest with
  | case1 rest' => simp_all
  | case2 => cases h
  | case3 cs _ c after hc ih =>
    obtain ⟨⟨b, r⟩, hb, h⟩ := Option.map_eq_some_iff.1 h
    cases h
    exact Nat.lt_trans (ih hb) (length_lt_of_stringChar? hc)

/-! ## Numbers -/

/-- Digits at the start of a text and what follows them; none of them is a failure. -/
def digits? (cs : List Char) : Option (List Char × List Char) :=
  match cs.takeWhile isAsciiDigit with
  | [] => none
  | ds => some (ds, cs.dropWhile isAsciiDigit)

/-- A whole part starts with 0 only when it is 0. -/
def wholePart? : List Char → Option (List Char × List Char)
  | '0' :: rest => some (['0'], rest)
  | cs => digits? cs

def fractionPart? : List Char → Option (List Char × List Char)
  | '.' :: rest => digits? rest
  | cs => some ([], cs)

def exponentPart? : List Char → Option (Option (Bool × List Char) × List Char)
  | c :: rest =>
    if c == 'e' || c == 'E' then
      match rest with
      | '+' :: rest => (digits? rest).map fun (ds, r) => (some (false, ds), r)
      | '-' :: rest => (digits? rest).map fun (ds, r) => (some (true, ds), r)
      | rest => (digits? rest).map fun (ds, r) => (some (false, ds), r)
    else some (none, c :: rest)
  | [] => some (none, [])

def natOfDigits (ds : List Char) : Nat := ds.foldl (fun n d => n * 10 + digitValue d) 0

/-- The least magnitude that no double stands for. -/
def doubleLimit : Nat := 0x3fffffffffffff * Nat.pow 2 970

def fitsDouble (digits : List Char) (exponent : Int) : Bool :=
  let digits := digits.dropWhile (· == '0')
  let lead := exponent + digits.length
  if digits.isEmpty || lead < 300 then true
  else if lead > 320 then false
  else if exponent ≥ 0 then decide (natOfDigits digits * Nat.pow 10 exponent.toNat < doubleLimit)
  else decide (natOfDigits digits < doubleLimit * Nat.pow 10 (-exponent).toNat)

structure Numeral where
  negative : Bool
  whole : List Char
  fraction : List Char
  exponent : Option (Bool × List Char)

/-- The parts of the number at the start of a text, and what follows it. -/
def numeral? (cs : List Char) : Option (Numeral × List Char) :=
  let negative := cs.head? == some '-'
  (wholePart? (if negative then cs.drop 1 else cs)).bind fun (whole, r) =>
    (fractionPart? r).bind fun (fraction, r) =>
      (exponentPart? r).map fun (exponent, r) => (⟨negative, whole, fraction, exponent⟩, r)

/-- The value of a number; `none` when it is neither an integer of 64 bits nor near a double. -/
def Numeral.value? (n : Numeral) (spelling : List Char) : Option Json :=
  let magnitude : Int := natOfDigits n.whole
  let value := if n.negative then -magnitude else magnitude
  let negativeZero := n.negative && value == 0
  if n.fraction.isEmpty && n.exponent.isNone && fitsWord value && !negativeZero then
    some (.int value)
  else
    let power : Int := match n.exponent with
      | none => 0
      | some (true, ds) => -(natOfDigits ds : Int)
      | some (false, ds) => natOfDigits ds
    if fitsDouble (n.whole ++ n.fraction) (power - n.fraction.length) then
      some (.number (.ofList spelling))
    else none

def number? (cs : List Char) : Option (Json × List Char) :=
  (numeral? cs).bind fun (n, r) =>
    (n.value? (cs.take (cs.length - r.length))).map fun j => (j, r)

/-! ## The text -/

def word? (word cs : List Char) : Option (List Char) :=
  if word.isPrefixOf cs then some (cs.drop word.length) else none

def token? (c : Char) (rest : List Char) : Option (Token × List Char) :=
  match c with
  | '[' => some (.openArray, rest)
  | ']' => some (.closeArray, rest)
  | '\x7b' => some (.openObject, rest)
  | '\x7d' => some (.closeObject, rest)
  | ',' => some (.comma, rest)
  | ':' => some (.colon, rest)
  | '"' => (stringBody? rest).map fun (body, r) => (.atom (.string (.ofList body)), r)
  | 'n' => (word? "ull".toList rest).map fun r => (.atom .null, r)
  | 't' => (word? "rue".toList rest).map fun r => (.atom (.bool true), r)
  | 'f' => (word? "alse".toList rest).map fun r => (.atom (.bool false), r)
  | c => (number? (c :: rest)).map fun (j, r) => (.atom j, r)

theorem length_lt_of_digits? {cs ds rest : List Char} (h : digits? cs = some (ds, rest)) :
    rest.length < cs.length := by
  unfold digits? at h
  split at h
  · cases h
  · next nonempty =>
    cases h
    have split := congrArg List.length (List.takeWhile_append_dropWhile (p := isAsciiDigit) (l := cs))
    have : 0 < (cs.takeWhile isAsciiDigit).length := List.length_pos_iff.2 nonempty
    rw [List.length_append] at split
    omega

theorem length_lt_of_wholePart? {cs ds rest : List Char} (h : wholePart? cs = some (ds, rest)) :
    rest.length < cs.length := by
  unfold wholePart? at h
  split at h
  · cases h
    simp
  · exact length_lt_of_digits? h

theorem length_le_of_fractionPart? {cs ds rest : List Char}
    (h : fractionPart? cs = some (ds, rest)) : rest.length ≤ cs.length := by
  unfold fractionPart? at h
  split at h
  · exact Nat.le_of_lt (Nat.lt_trans (length_lt_of_digits? h) (by simp))
  · cases h
    exact Nat.le_refl _

theorem length_le_of_exponentPart? {cs rest : List Char} {e : Option (Bool × List Char)}
    (h : exponentPart? cs = some (e, rest)) : rest.length ≤ cs.length := by
  unfold exponentPart? at h
  split at h
  · split at h
    · split at h <;>
      · obtain ⟨⟨ds, r⟩, hd, h⟩ := Option.map_eq_some_iff.1 h
        cases h
        have := length_lt_of_digits? hd
        simp only [List.length_cons] at *
        omega
    · cases h
      exact Nat.le_refl _
  · cases h
    exact Nat.le_refl _

theorem length_lt_of_number? {cs rest : List Char} {j : Json} (h : number? cs = some (j, rest)) :
    rest.length < cs.length := by
  obtain ⟨⟨n, r⟩, hn, h⟩ := Option.bind_eq_some_iff.1 h
  obtain ⟨_, _, h⟩ := Option.map_eq_some_iff.1 h
  obtain ⟨_, rfl⟩ := Prod.mk.inj h
  obtain ⟨⟨_, r₁⟩, h₁, hn⟩ := Option.bind_eq_some_iff.1 hn
  obtain ⟨⟨_, r₂⟩, h₂, hn⟩ := Option.bind_eq_some_iff.1 hn
  obtain ⟨⟨_, r₃⟩, h₃, hn⟩ := Option.map_eq_some_iff.1 hn
  obtain ⟨_, rfl⟩ := Prod.mk.inj hn
  have unsigned : (if (cs.head? == some '-') = true then cs.drop 1 else cs).length ≤ cs.length := by
    split <;> simp
  have := length_lt_of_wholePart? h₁
  have := length_le_of_fractionPart? h₂
  have := length_le_of_exponentPart? h₃
  dsimp only at *
  omega

theorem length_le_of_word? {w cs rest : List Char} (h : word? w cs = some rest) :
    rest.length ≤ cs.length := by
  unfold word? at h
  split at h
  · cases h
    simp
  · cases h

theorem length_le_of_token? {c : Char} {cs rest : List Char} {t : Token}
    (h : token? c cs = some (t, rest)) : rest.length ≤ cs.length := by
  unfold token? at h
  split at h
  all_goals first
    | (cases h; exact Nat.le_refl _)
    | (obtain ⟨x, hx, h⟩ := Option.map_eq_some_iff.1 h
       cases h
       first
         | exact Nat.le_of_lt (length_lt_of_stringBody? hx)
         | exact length_le_of_word? hx
         | exact Nat.le_of_lt_succ (length_lt_of_number? hx))

/-- All tokens of a text; `none` when it cannot be cut into tokens. -/
def tokens? : List Char → Option (List Token)
  | [] => some []
  | c :: rest =>
    if isBlank c then tokens? rest
    else
      match _h : token? c rest with
      | none => none
      | some (t, after) => (tokens? after).map (t :: ·)
termination_by cs => cs.length
decreasing_by
  · simp
  · exact Nat.lt_succ_of_le (length_le_of_token? _h)

/-! ## Values -/

/-- An open array or object around a value that is being read. -/
inductive Enclosing where
  | item (before : List Json)
  | member (before : List (String × Json)) (key : String)

inductive Reading where
  /-- A value comes next. -/
  | value (around : List Enclosing)
  /-- An item or the end of an array without items so far comes next. -/
  | firstItem (around : List Enclosing)
  /-- A key or the end of an object without members so far comes next. -/
  | firstKey (around : List Enclosing)
  | key (before : List (String × Json)) (around : List Enclosing)
  | colon (before : List (String × Json)) (key : String) (around : List Enclosing)
  /-- A value has been read to its end. -/
  | done (value : Json) (around : List Enclosing)

/-- As many arrays and objects may be open at once. -/
def maxDepth : Nat := 127

namespace Reading

def start (around : List Enclosing) : Token → Option Reading
  | .atom j => some (.done j around)
  | .openArray => if around.length < maxDepth then some (.firstItem around) else none
  | .openObject => if around.length < maxDepth then some (.firstKey around) else none
  | _ => none

/-- Takes the token after a value, which the innermost open array or object decides on. -/
def continue? (j : Json) : List Enclosing → Token → Option Reading
  | .item before :: around, .comma => some (.value (.item (before ++ [j]) :: around))
  | .item before :: around, .closeArray => some (.done (.array (before ++ [j])) around)
  | .member before name :: around, .comma => some (.key (put name j before) around)
  | .member before name :: around, .closeObject => some (.done (.object (put name j before)) around)
  | _, _ => none

def step : Reading → Token → Option Reading
  | .value around, t => start around t
  | .firstItem around, .closeArray => some (.done (.array []) around)
  | .firstItem around, t => start (.item [] :: around) t
  | .firstKey around, .closeObject => some (.done (.object []) around)
  | .firstKey around, .atom (.string name) => some (.colon [] name around)
  | .key before around, .atom (.string name) => some (.colon before name around)
  | .colon before name around, .colon => some (.value (.member before name :: around))
  | .done j around, t => continue? j around t
  | _, _ => none

def run : Reading → List Token → Option Reading
  | r, [] => some r
  | r, t :: rest => (r.step t).bind fun r => run r rest

/-- The value, once nothing is open any more. -/
def value? : Reading → Option Json
  | .done j [] => some j
  | _ => none

end Reading

def ofTokens? (tokens : List Token) : Option Json := (Reading.run (.value []) tokens).bind Reading.value?

def readChars? (cs : List Char) : Option Json := (tokens? cs).bind ofTokens?

def read? (text : String) : Option Json := readChars? text.toList

end StoneDebug.Json
