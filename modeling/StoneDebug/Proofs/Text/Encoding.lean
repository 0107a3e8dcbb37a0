import StoneDebug.Text.Encoding

/-! # Texts read back

A number below the limit is read from its decimal text, also where the text stands after a space, and a
text from its bytes, strictly or with losses allowed: each character is read from the bytes that it is
written as, whatever follows them. Only a line break is written with the byte of a line break.

The first bytes of a text need not end where a character does. When they are read with losses allowed,
what stands before the cut is unharmed, and one U+FFFD stands for a character that lost bytes, however
many of them are left.
-/

namespace StoneDebug.Text

/-! ## Runs -/

section

variable {α : Type} {p : α → Bool} {run rest : List α}

theorem dropWhile_append_of_stop (keeps : ∀ a ∈ run, p a = true)
    (stops : ∀ a ∈ rest.head?, p a = false) : (run ++ rest).dropWhile p = rest := by
  rw [List.dropWhile_append_of_pos keeps]
  cases rest with
  | nil => rfl
  | cons a rest => exact List.dropWhile_cons_of_neg (by simp [stops a rfl])

theorem takeWhile_append_of_stop (keeps : ∀ a ∈ run, p a = true)
    (stops : ∀ a ∈ rest.head?, p a = false) : (run ++ rest).takeWhile p = run := by
  have whole := List.takeWhile_append_dropWhile (p := p) (l := run ++ rest)
  rw [dropWhile_append_of_stop keeps stops] at whole
  exact List.append_cancel_right whole

end

/-! ## Decimal numbers -/

theorem isAsciiDigit_eq_isDigit (c : Char) : isAsciiDigit c = c.isDigit := rfl

theorem not_isBlank_of_isDigit {c : Char} (digit : c.isDigit = true) : isBlank c = false := by
  have bounds : 48 ≤ c.toNat ∧ c.toNat ≤ 57 := by
    simpa [Char.isDigit, UInt32.le_iff_toNat_le] using digit
  simp only [isBlank, Bool.or_eq_false_iff, Bool.and_eq_false_iff, decide_eq_false_iff_not,
    beq_eq_false_iff_ne]
  omega

theorem le_ofDigitChars (cs : List Char) (acc : Nat) : acc ≤ Nat.ofDigitChars 10 cs acc := by
  rw [Nat.ofDigitChars_eq_ofDigitChars_zero]
  have := Nat.le_mul_of_pos_left acc (Nat.pow_pos (n := cs.length) (show 0 < 10 by decide))
  omega

/-- Digits are read as the number that they write after `acc`, if that is below the limit. -/
theorem readDigits_of_isDigit {limit : Nat} {cs : List Char} (digits : ∀ c ∈ cs, c.isDigit = true)
    (acc : Nat) (below : Nat.ofDigitChars 10 cs acc < limit) :
    readDigits limit acc cs = .ok (Nat.ofDigitChars 10 cs acc) := by
  induction cs generalizing acc with
  | nil => rfl
  | cons c cs ih =>
      rw [Nat.ofDigitChars_cons, Nat.mul_comm 10 acc] at below ⊢
      have fits : acc * 10 + digitValue c < limit :=
        Nat.lt_of_le_of_lt (le_ofDigitChars cs _) below
      rw [readDigits, isAsciiDigit_eq_isDigit, digits c (List.mem_cons_self ..), if_pos fits]
      exact ih (fun c member => digits c (List.mem_cons_of_mem _ member)) _ below

theorem readUnsigned_of_isDigit (limit : Nat) {cs : List Char} (any : cs ≠ [])
    (digits : ∀ c ∈ cs, c.isDigit = true) : readUnsigned limit cs = readDigits limit 0 cs := by
  obtain ⟨c, rest, rfl⟩ := List.exists_cons_of_ne_nil any
  have unsigned : c ≠ '+' := by
    rintro rfl
    exact absurd (digits '+' (List.mem_cons_self ..)) (by decide)
  unfold readUnsigned
  split
  · contradiction
  · next same => exact absurd (List.head_eq_of_cons_eq same) unsigned
  · next same => exact absurd (List.head_eq_of_cons_eq same) unsigned
  · rfl

theorem isDigit_of_mem_toDigits {n : Nat} : ∀ c ∈ Nat.toDigits 10 n, c.isDigit = true :=
  fun _ => Nat.isDigit_of_mem_toDigits (by decide) (by decide)

/-- A number below the limit is read from its decimal text. -/
theorem readUnsigned_toDigits {limit n : Nat} (below : n < limit) :
    readUnsigned limit (Nat.toDigits 10 n) = .ok n := by
  have digits : ∀ c ∈ Nat.toDigits 10 n, c.isDigit = true := isDigit_of_mem_toDigits
  have value : Nat.ofDigitChars 10 (Nat.toDigits 10 n) 0 = n := Nat.ofDigitChars_ten_toDigits
  rw [readUnsigned_of_isDigit limit Nat.toDigits_ne_nil digits,
    readDigits_of_isDigit digits 0 (by rw [value]; exact below), value]

theorem readDigits_lt {limit acc n : Nat} {cs : List Char} (below : acc < limit)
    (read : readDigits limit acc cs = .ok n) : n < limit := by
  induction cs generalizing acc with
  | nil =>
      cases read
      exact below
  | cons c cs ih =>
      rw [readDigits] at read
      split at read
      · cases read
      · split at read
        · next fits => exact ih fits read
        · cases read

theorem of_readDigits {limit acc n : Nat} {cs : List Char}
    (read : readDigits limit acc cs = .ok n) :
    (∀ c ∈ cs, c.isDigit = true) ∧ Nat.ofDigitChars 10 cs acc = n := by
  induction cs generalizing acc with
  | nil =>
      cases read
      exact ⟨by simp, rfl⟩
  | cons c cs ih =>
      rw [readDigits] at read
      split at read
      · cases read
      · next digit =>
          split at read
          · obtain ⟨digits, value⟩ := ih read
            refine ⟨List.forall_mem_cons.mpr ⟨by simpa [isAsciiDigit_eq_isDigit] using digit, digits⟩, ?_⟩
            rw [Nat.ofDigitChars_cons, Nat.mul_comm 10 acc]
            exact value
          · cases read

/-- What is read is the number that the digits write, and nothing but ASCII digits is read. -/
theorem readDigits_eq_ok_iff {limit acc n : Nat} {cs : List Char} (below : acc < limit) :
    readDigits limit acc cs = .ok n ↔
      (∀ c ∈ cs, c.isDigit = true) ∧ Nat.ofDigitChars 10 cs acc = n ∧ n < limit := by
  constructor
  · intro read
    obtain ⟨digits, value⟩ := of_readDigits read
    exact ⟨digits, value, readDigits_lt below read⟩
  · rintro ⟨digits, rfl, fits⟩
    exact readDigits_of_isDigit digits acc fits

theorem readUnsigned_lt {limit n : Nat} {cs : List Char} (any : 0 < limit)
    (read : readUnsigned limit cs = .ok n) : n < limit := by
  unfold readUnsigned at read
  split at read
  · cases read
  · cases read
  · exact readDigits_lt any read
  · exact readDigits_lt any read

theorem dropWhile_isBlank_of_isDigit {cs : List Char} (digits : ∀ c ∈ cs, c.isDigit = true) :
    cs.dropWhile isBlank = cs := by
  cases cs with
  | nil => rfl
  | cons c cs =>
      have solid := not_isBlank_of_isDigit (digits c (List.mem_cons_self ..))
      rw [List.dropWhile_cons_of_neg (by rw [solid]; decide)]

/-- Digits are left when the space before them is trimmed. -/
theorem trimmed_space_cons {cs : List Char} (digits : ∀ c ∈ cs, c.isDigit = true) :
    trimmed (' ' :: cs) = cs := by
  have back : ∀ c ∈ cs.reverse, c.isDigit = true :=
    fun c member => digits c (List.mem_reverse.mp member)
  rw [trimmed, List.dropWhile_cons_of_pos (by decide), dropWhile_isBlank_of_isDigit digits,
    dropWhile_isBlank_of_isDigit back, List.reverse_reverse]

namespace Utf8

/-! ## The table of first bytes -/

theorem lead_one : ∀ n < 128, Lead.of? (.ofNat n) = some ⟨0, 0x80, 0xbf, n⟩ := by decide

theorem lead_two : ∀ n < 32, 2 ≤ n → Lead.of? (.ofNat (n + 192)) = some ⟨1, 0x80, 0xbf, n⟩ := by
  decide

theorem lead_three : ∀ n < 16, Lead.of? (.ofNat (n + 224)) =
    some ⟨2, if n = 0 then 0xa0 else 0x80, if n = 13 then 0x9f else 0xbf, n⟩ := by
  decide

theorem lead_four : ∀ n < 8, n ≤ 4 → Lead.of? (.ofNat (n + 240)) =
    some ⟨3, if n = 0 then 0x90 else 0x80, if n = 4 then 0x8f else 0xbf, n⟩ := by
  decide

/-! ## Characters -/

/-- A byte within the bounds contributes its six low bits. -/
theorem continued_cons {count n bits : Nat} {low high : UInt8} (rest : Bytes) (six : n < 64)
    (low_le : low.toNat ≤ n + 128) (le_high : n + 128 ≤ high.toNat) :
    continued (count + 1) low high bits (.ofNat (n + 128) :: rest) =
      continued count 0x80 0xbf (bits * 64 + n) rest := by
  have byte : (UInt8.ofNat (n + 128)).toNat = n + 128 := by
    rw [UInt8.toNat_ofNat']
    omega
  have within : low ≤ .ofNat (n + 128) ∧ .ofNat (n + 128) ≤ high := by
    simpa only [UInt8.le_iff_toNat_le, byte] using ⟨low_le, le_high⟩
  rw [continued, if_pos within, byte, Nat.add_sub_cancel]

/-- The last byte of a character. -/
theorem continued_last {c : Char} {n bits : Nat} (rest : Bytes) (six : n < 64)
    (value : c.toNat = bits * 64 + n) :
    continued 1 0x80 0xbf bits (.ofNat (n + 128) :: rest) = (some c, rest) := by
  have low_le : (0x80 : UInt8).toNat ≤ n + 128 := Nat.le_add_left 128 n
  have le_high : n + 128 ≤ (0xbf : UInt8).toNat := by
    show n + 128 ≤ 191
    omega
  rw [continued_cons rest six low_le le_high, ← value, continued, Char.ofNat_toNat]

theorem utf8EncodeChar_eq (c : Char) : String.utf8EncodeChar c =
    if c.toNat ≤ 127 then [.ofNat c.toNat]
    else if c.toNat ≤ 2047 then [.ofNat (c.toNat / 64 % 32 + 192), .ofNat (c.toNat % 64 + 128)]
    else if c.toNat ≤ 65535 then
      [.ofNat (c.toNat / 4096 % 16 + 224), .ofNat (c.toNat / 64 % 64 + 128),
        .ofNat (c.toNat % 64 + 128)]
    else
      [.ofNat (c.toNat / 262144 % 8 + 240), .ofNat (c.toNat / 4096 % 64 + 128),
        .ofNat (c.toNat / 64 % 64 + 128), .ofNat (c.toNat % 64 + 128)] := rfl

/-- A character is read from its own bytes, whatever follows. -/
theorem next_utf8EncodeChar (c : Char) : ∃ b bytes, String.utf8EncodeChar c = b :: bytes ∧
    ∀ rest, next b (bytes ++ rest) = (some c, rest) := by
  have valid : c.toNat < 0xd800 ∨ 0xdfff < c.toNat ∧ c.toNat < 0x110000 := c.valid
  have six (n : Nat) : n % 64 < 64 := Nat.mod_lt n (by decide)
  rw [utf8EncodeChar_eq]
  -- One case for each number of bytes; the bounds of the second byte depend on the first.
  split
  · refine ⟨_, _, rfl, fun rest => ?_⟩
    rw [next, lead_one _ (by omega)]
    exact Prod.ext (congrArg some (Char.ofNat_toNat c)) rfl
  · split
    · refine ⟨_, _, rfl, fun rest => ?_⟩
      rw [next, lead_two _ (by omega) (by omega)]
      dsimp only [List.cons_append, List.nil_append]
      exact continued_last rest (six _) (by omega)
    · split
      · refine ⟨_, _, rfl, fun rest => ?_⟩
        rw [next, lead_three _ (by omega)]
        dsimp only [List.cons_append, List.nil_append]
        rw [continued_cons _ (six _) (by split <;> simp; omega) (by split <;> simp <;> omega)]
        exact continued_last rest (six _) (by omega)
      · refine ⟨_, _, rfl, fun rest => ?_⟩
        rw [next, lead_four _ (by omega) (by omega)]
        dsimp only [List.cons_append, List.nil_append]
        rw [continued_cons _ (six _) (by split <;> simp; omega) (by split <;> simp <;> omega),
          continued_cons _ (six _) (by simp) (by simp; omega)]
        exact continued_last rest (six _) (by omega)

/-! ## Texts -/

theorem encodeChars_append (cs ds : List Char) :
    encodeChars (cs ++ ds) = encodeChars cs ++ encodeChars ds := List.flatMap_append

theorem decodeChars?_encodeChars (cs : List Char) : decodeChars? (encodeChars cs) = some cs := by
  induction cs with
  | nil =>
      rw [encodeChars, List.flatMap_nil, decodeChars?]
  | cons c cs ih =>
      obtain ⟨b, bytes, written, read⟩ := next_utf8EncodeChar c
      have same : encodeChars (c :: cs) = b :: (bytes ++ encodeChars cs) := by
        rw [encodeChars, List.flatMap_cons, written]
        rfl
      rw [same, decodeChars?, read, ih]
      rfl

theorem le_toNat_of_mem_utf8EncodeChar {c : Char} {b : UInt8} (long : 127 < c.toNat)
    (member : b ∈ String.utf8EncodeChar c) : 128 ≤ b.toNat := by
  rw [utf8EncodeChar_eq, if_neg (by omega)] at member
  split at member
  · simp only [List.mem_cons, List.not_mem_nil, or_false] at member
    rcases member with rfl | rfl <;> rw [UInt8.toNat_ofNat'] <;> omega
  · split at member
    · simp only [List.mem_cons, List.not_mem_nil, or_false] at member
      rcases member with rfl | rfl | rfl <;> rw [UInt8.toNat_ofNat'] <;> omega
    · simp only [List.mem_cons, List.not_mem_nil, or_false] at member
      rcases member with rfl | rfl | rfl | rfl <;> rw [UInt8.toNat_ofNat'] <;> omega

/-- The byte of a line break is written for a line break only. -/
theorem eq_newline_of_mem_utf8EncodeChar {c : Char} (member : 10 ∈ String.utf8EncodeChar c) :
    c = '\n' := by
  have low : ¬128 ≤ (10 : UInt8).toNat := by decide
  have short : c.toNat ≤ 127 :=
    Nat.le_of_not_lt fun long => low (le_toNat_of_mem_utf8EncodeChar long member)
  rw [utf8EncodeChar_eq, if_pos short, List.mem_singleton] at member
  have code : 10 = c.toNat % 256 := by simpa using congrArg UInt8.toNat member
  have ten : c.toNat = 10 := by omega
  exact Char.ext (UInt32.toNat_inj.mp ten)

/-! ## Lossy reading -/

theorem encodeChars_cons (c : Char) (cs : List Char) :
    encodeChars (c :: cs) = String.utf8EncodeChar c ++ encodeChars cs := List.flatMap_cons

theorem length_encodeChars_replicate (n : Nat) (c : Char) :
    (encodeChars (List.replicate n c)).length = n * c.utf8Size := by
  induction n with
  | zero => exact (Nat.zero_mul _).symm
  | succ n ih =>
      rw [List.replicate_succ, encodeChars_cons, List.length_append, String.length_utf8EncodeChar, ih,
        Nat.succ_mul, Nat.add_comm]

/-- Characters are read from their own bytes, and the reading goes on behind them. -/
theorem decodeLossyChars_append (cs : List Char) (rest : Bytes) :
    decodeLossyChars (encodeChars cs ++ rest) = cs ++ decodeLossyChars rest := by
  induction cs with
  | nil => rfl
  | cons c cs ih =>
      obtain ⟨b, bytes, written, read⟩ := next_utf8EncodeChar c
      rw [encodeChars_cons, List.append_assoc, written, List.cons_append, decodeLossyChars, read, ih]
      rfl

theorem decodeLossyChars_encodeChars (cs : List Char) : decodeLossyChars (encodeChars cs) = cs := by
  have read := decodeLossyChars_append cs []
  rwa [List.append_nil, decodeLossyChars, List.append_nil] at read

theorem decodeLossy_encode (text : String) : decodeLossy (encode text) = text := by
  rw [decodeLossy, encode, decodeLossyChars_encodeChars, String.ofList_toList]

/-! ## Characters that lose bytes -/

/-- When bytes of a character are missing at the end, all that are left belong to it still. -/
theorem continued_take {count k bits : Nat} {low high : UInt8} {bytes : Bytes} {c : Char}
    (whole : continued count low high bits bytes = (some c, [])) (short : k < bytes.length) :
    continued count low high bits (bytes.take k) = (none, []) := by
  induction bytes generalizing count k bits low high with
  | nil => exact absurd short (Nat.not_lt_zero k)
  | cons b bytes ih =>
      cases count with
      | zero => simp [continued] at whole
      | succ count =>
          cases k with
          | zero => rfl
          | succ k =>
              rw [continued] at whole
              split at whole
              · next within =>
                  rw [List.take_succ_cons, continued, if_pos within]
                  exact ih whole (Nat.lt_of_succ_lt_succ short)
              · simp at whole

/-- A character of which some bytes are left, but not all. -/
theorem decodeLossyChars_take_utf8EncodeChar {c : Char} {k : Nat} (left : 0 < k)
    (short : k < (String.utf8EncodeChar c).length) :
    decodeLossyChars ((String.utf8EncodeChar c).take k) = ['\uFFFD'] := by
  obtain ⟨b, bytes, written, read⟩ := next_utf8EncodeChar c
  obtain ⟨k, rfl⟩ := Nat.exists_eq_add_of_le' left
  rw [written] at short ⊢
  have whole : next b bytes = (some c, []) := by simpa using read []
  have lost : next b (bytes.take k) = (none, []) := by
    unfold next at whole ⊢
    split at whole
    · simp at whole
    · exact continued_take whole (by simpa using short)
  rw [List.take_succ_cons, decodeLossyChars, lost]
  simp [decodeLossyChars]

/-- Where bytes are missing from the character behind `kept`. -/
theorem decodeLossyChars_take_of_within {room : Nat} {kept : List Char} {c : Char}
    (before : (encodeChars kept).length < room)
    (behind : room < (encodeChars (kept ++ [c])).length) (rest : List Char) :
    decodeLossyChars ((encodeChars (kept ++ c :: rest)).take room) = kept ++ ['\uFFFD'] := by
  rw [encodeChars_append, List.length_append, encodeChars_cons, List.length_append] at behind
  have none : (encodeChars []).length = 0 := rfl
  rw [encodeChars_append, List.take_append, List.take_of_length_le (by omega),
    decodeLossyChars_append, encodeChars_cons, List.take_append_of_le_length (by omega),
    decodeLossyChars_take_utf8EncodeChar (by omega) (by omega)]

/-! ## Cuts -/

/-- How a text is read from its first `room` bytes. -/
inductive Cut (room : Nat) (text : List Char) : List Char → Prop
  /-- All of it fits, or the cut falls between two characters. -/
  | between {kept rest : List Char} (split : text = kept ++ rest)
    (fills : (encodeChars kept).length = min room (encodeChars text).length) : Cut room text kept
  /-- The cut falls within a character. -/
  | within {kept rest : List Char} {c : Char} (split : text = kept ++ c :: rest)
    (before : (encodeChars kept).length < room)
    (behind : room < (encodeChars (kept ++ [c])).length) : Cut room text (kept ++ ['\uFFFD'])

variable {room : Nat} {text shown : List Char}

theorem Cut.cons {c : Char} (fits : (String.utf8EncodeChar c).length ≤ room)
    (cut : Cut (room - (String.utf8EncodeChar c).length) text shown) :
    Cut room (c :: text) (c :: shown) := by
  cases cut with
  | between split fills =>
      refine .between (congrArg (c :: ·) split) ?_
      simp only [encodeChars_cons, List.length_append, fills]
      omega
  | @within kept rest lost split before behind =>
      have later : c :: text = (c :: kept) ++ lost :: rest := congrArg (c :: ·) split
      refine .within later ?_ ?_
      · rw [encodeChars_cons, List.length_append]
        omega
      · rw [List.cons_append, encodeChars_cons, List.length_append]
        omega

/-- The bytes may be cut anywhere. -/
theorem cut_decodeLossyChars_take (room : Nat) (text : List Char) :
    Cut room text (decodeLossyChars ((encodeChars text).take room)) := by
  induction text generalizing room with
  | nil =>
      rw [encodeChars, List.flatMap_nil, List.take_nil, decodeLossyChars]
      exact .between rfl (Nat.min_zero room).symm
  | cons c cs ih =>
      by_cases fits : (String.utf8EncodeChar c).length ≤ room
      · have whole : encodeChars [c] = String.utf8EncodeChar c := List.append_nil _
        rw [encodeChars_cons, List.take_append, List.take_of_length_le fits, ← whole,
          decodeLossyChars_append, whole]
        exact .cons fits (ih _)
      · rcases Nat.eq_zero_or_pos room with rfl | left
        · rw [List.take_zero, decodeLossyChars]
          exact .between rfl (Nat.zero_min _).symm
        · have first : c :: cs = [] ++ c :: cs := rfl
          have behind : room < (encodeChars ([] ++ [c])).length := by
            simpa [encodeChars] using fits
          rw [first, decodeLossyChars_take_of_within left behind]
          exact .within rfl left behind

theorem eq_nil_of_length_encodeChars (empty : (encodeChars text).length = 0) : text = [] := by
  cases text with
  | nil => rfl
  | cons c cs =>
      have some := c.utf8Size_pos
      rw [encodeChars_cons, List.length_append, String.length_utf8EncodeChar] at empty
      omega

/-- A text that fits is not cut. -/
theorem Cut.eq_of_fits (cut : Cut room text shown) (fits : (encodeChars text).length ≤ room) :
    shown = text := by
  cases cut with
  | @between _ rest split fills =>
      rw [Nat.min_eq_right fits, split, encodeChars_append, List.length_append] at fills
      obtain rfl : rest = [] := eq_nil_of_length_encodeChars (by omega)
      rw [split, List.append_nil]
  | @within kept rest c split _ behind =>
      have same : text = (kept ++ [c]) ++ rest := by rw [split, List.append_assoc]; rfl
      rw [same, encodeChars_append, List.length_append] at fits
      omega

end Utf8

end StoneDebug.Text
