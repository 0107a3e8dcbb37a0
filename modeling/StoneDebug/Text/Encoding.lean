import StoneDebug.Text.Property

/-! # Texts and bytes

How numbers, quotations and bytes are spelled in texts, and numbers and texts in bytes.
-/

namespace StoneDebug.Text

/-! ## Decimal numbers

Unsigned numbers of bounded size, in ASCII digits after an optional plus sign.
-/

inductive NumberError where
  | empty
  | invalidDigit
  | tooLarge
deriving Repr, DecidableEq

def NumberError.message : NumberError → String
  | .empty => "cannot parse integer from empty string"
  | .invalidDigit => "invalid digit found in string"
  | .tooLarge => "number too large to fit in target type"

def digitValue (c : Char) : Nat := c.toNat - '0'.toNat

/-- Reads digits after the number `acc`; the first fault from the left decides. -/
def readDigits (limit : Nat) : (acc : Nat) → List Char → Except NumberError Nat
  | acc, [] => .ok acc
  | acc, c :: rest =>
    if !isAsciiDigit c then .error .invalidDigit
    else if acc * 10 + digitValue c < limit then readDigits limit (acc * 10 + digitValue c) rest
    else .error .tooLarge

/-- The number below `limit` that the text writes. -/
def readUnsigned (limit : Nat) : List Char → Except NumberError Nat
  | [] => .error .empty
  | ['+'] => .error .invalidDigit
  | '+' :: rest => readDigits limit 0 rest
  | cs => readDigits limit 0 cs

/-! ## Quotations

A text between double quotes in which quotes, backslashes and characters without a shape of their
own are spelled out, so that it can be read in an error message.
-/

def hexDigits (n : Nat) : String := String.ofList (Nat.toDigits 16 n)

def quotedChar (c : Char) : String :=
  match c with
  | '\x00' => "\\0"
  | '\t' => "\\t"
  | '\r' => "\\r"
  | '\n' => "\\n"
  | '"' => "\\\""
  | '\\' => "\\\\"
  | c => if isHidden c then "\\u\x7b" ++ hexDigits c.toNat ++ "\x7d" else c.toString

def quoted (s : String) : String :=
  "\"" ++ String.join (s.toList.map quotedChar) ++ "\""

/-! ## Little-endian numbers

Least significant byte first. Writing cuts a number to its width, so reading back gives it modulo
`256 ^ width`.
-/

def le : (width : Nat) → Nat → List UInt8
  | 0, _ => []
  | width + 1, n => UInt8.ofNat n :: le width (n / 256)

def readLE : List UInt8 → Nat
  | [] => 0
  | b :: rest => b.toNat + 256 * readLE rest

@[simp] theorem length_le (width n : Nat) : (le width n).length = width := by
  induction width generalizing n with
  | zero => rfl
  | succ width ih => simp [le, ih]

theorem readLE_le (width n : Nat) : readLE (le width n) = n % Nat.pow 256 width := by
  induction width generalizing n with
  | zero => simp [le, readLE, Nat.mod_one]
  | succ width ih =>
    have head : (UInt8.ofNat n).toNat = n % 256 := by simp [UInt8.toNat_ofNat']
    rw [le, readLE, ih, head, ← Nat.mod_mul, Nat.mul_comm]
    rfl

theorem readLE_le_of_lt {width n : Nat} (h : n < Nat.pow 256 width) :
    readLE (le width n) = n := by
  rw [readLE_le, Nat.mod_eq_of_lt h]

/-! ## Hexadecimal

Bytes as pairs of digits to base 16, the high half first. Digits are written in lower case and read in
either; reading back what was written gives the same bytes.
-/

namespace Hex

def value? (c : Char) : Option Nat :=
  if isAsciiDigit c then some (digitValue c)
  else if 'a' ≤ c && c ≤ 'f' then some (c.toNat - 'a'.toNat + 10)
  else if 'A' ≤ c && c ≤ 'F' then some (c.toNat - 'A'.toNat + 10)
  else none

def encodeChars : List UInt8 → List Char
  | [] => []
  | b :: rest => Nat.digitChar (b.toNat / 16) :: Nat.digitChar (b.toNat % 16) :: encodeChars rest

def decodeChars? : List Char → Option (List UInt8)
  | [] => some []
  | [_] => none
  | high :: low :: rest => do
    let high ← value? high
    let low ← value? low
    let bytes ← decodeChars? rest
    return UInt8.ofNat (high * 16 + low) :: bytes

def encode (bytes : List UInt8) : String := .ofList (encodeChars bytes)

def decode? (text : String) : Option (List UInt8) := decodeChars? text.toList

theorem value?_digitChar : ∀ n < 16, value? (Nat.digitChar n) = some n := by decide

theorem decodeChars?_encodeChars (bytes : List UInt8) :
    decodeChars? (encodeChars bytes) = some bytes := by
  induction bytes with
  | nil => rfl
  | cons b rest ih =>
    have bound := b.toNat_lt
    have high := value?_digitChar (b.toNat / 16) (by omega)
    have low := value?_digitChar (b.toNat % 16) (by omega)
    have halves : b.toNat / 16 * 16 + b.toNat % 16 = b.toNat := by omega
    have byte : UInt8.ofNat (b.toNat / 16 * 16 + b.toNat % 16) = b := by rw [halves]; simp
    rw [encodeChars, decodeChars?, high, low, ih]
    exact congrArg (fun c => some (c :: rest)) byte

theorem decode?_encode (bytes : List UInt8) : decode? (encode bytes) = some bytes := by
  simp [decode?, encode, decodeChars?_encodeChars]

end Hex

/-! ## UTF-8

`decodeLossy` never fails: each longest piece that could begin a character but does not become one is
read as U+FFFD. `decode?` accepts well-formed bytes only.
-/

namespace Utf8

abbrev Bytes := List UInt8

def encodeChars (cs : List Char) : Bytes := cs.flatMap String.utf8EncodeChar

def encode (s : String) : Bytes := encodeChars s.toList

/-- What the first byte of a character says: how many bytes follow, the bounds of the first of
them, and the bits that it contributes. -/
structure Lead where
  count : Nat
  low : UInt8
  high : UInt8
  bits : Nat
deriving Repr, DecidableEq

/-- The table of well-formed first bytes. The bounds exclude long spellings, surrogates and values
beyond U+10FFFF. -/
def Lead.of? (b : UInt8) : Option Lead :=
  if b < 0x80 then some ⟨0, 0x80, 0xbf, b.toNat⟩
  else if b < 0xc2 then none
  else if b < 0xe0 then some ⟨1, 0x80, 0xbf, b.toNat - 0xc0⟩
  else if b == 0xe0 then some ⟨2, 0xa0, 0xbf, 0⟩
  else if b == 0xed then some ⟨2, 0x80, 0x9f, 13⟩
  else if b < 0xf0 then some ⟨2, 0x80, 0xbf, b.toNat - 0xe0⟩
  else if b == 0xf0 then some ⟨3, 0x90, 0xbf, 0⟩
  else if b < 0xf4 then some ⟨3, 0x80, 0xbf, b.toNat - 0xf0⟩
  else if b == 0xf4 then some ⟨3, 0x80, 0x8f, 4⟩
  else none

/-- Reads the bytes that still belong to a character, the first of them between `low` and `high`.
Stops before the first byte that cannot belong to it. -/
def continued : (count : Nat) → (low high : UInt8) → (bits : Nat) → Bytes → Option Char × Bytes
  | 0, _, _, bits, rest => (some (Char.ofNat bits), rest)
  | _ + 1, _, _, _, [] => (none, [])
  | n + 1, low, high, bits, b :: rest =>
    if low ≤ b ∧ b ≤ high then continued n 0x80 0xbf (bits * 64 + (b.toNat - 0x80)) rest
    else (none, b :: rest)

def next (b : UInt8) (rest : Bytes) : Option Char × Bytes :=
  match Lead.of? b with
  | none => (none, rest)
  | some lead => continued lead.count lead.low lead.high lead.bits rest

theorem continued_length_le (n : Nat) (low high : UInt8) (bits : Nat) (rest : Bytes) :
    (continued n low high bits rest).2.length ≤ rest.length := by
  induction rest generalizing n low high bits with
  | nil => cases n <;> simp [continued]
  | cons b rest ih =>
    cases n with
    | zero => simp [continued]
    | succ n =>
      unfold continued
      split
      · exact Nat.le_succ_of_le (ih ..)
      · exact Nat.le_refl _

theorem next_length_le (b : UInt8) (rest : Bytes) : (next b rest).2.length ≤ rest.length := by
  unfold next
  split
  · exact Nat.le_refl _
  · exact continued_length_le ..

/-- Every byte string is read; U+FFFD stands for each ill-formed piece. -/
def decodeLossyChars : Bytes → List Char
  | [] => []
  | b :: rest => (next b rest).1.getD '\uFFFD' :: decodeLossyChars (next b rest).2
termination_by bytes => bytes.length
decreasing_by exact Nat.lt_succ_of_le (next_length_le b rest)

def decodeLossy (bytes : Bytes) : String := String.ofList (decodeLossyChars bytes)

def decodeChars? : Bytes → Option (List Char)
  | [] => some []
  | b :: rest =>
    match (next b rest).1 with
    | none => none
    | some c => (decodeChars? (next b rest).2).map (c :: ·)
termination_by bytes => bytes.length
decreasing_by exact Nat.lt_succ_of_le (next_length_le b rest)

def decode? (bytes : Bytes) : Option String := (decodeChars? bytes).map String.ofList

end Utf8

end StoneDebug.Text
