import StoneDebug.Proofs.Source.Grammar
import StoneDebug.Proofs.Text.Encoding

/-! # The keywords of a message

A text is passed when the scan goes on after it at the same depth and has found nothing in it. Tokens
and brackets are passed at any depth. What else stands inside of brackets is passed there, so of a
message the keywords alone remain.
-/

namespace StoneDebug.Source.Grammar

open Text

/-! ## Characters -/

/-- The characters that begin a lexeme of their own kind. -/
def specials : List Char := ['\'', '"', '$', '#', '(', '[', '{', ')', ']', '}', '.', ';', '!']

/-- Whether the character is a lexeme for itself that does not matter. -/
def isPlain (c : Char) : Bool := !(specials.contains c || isAsciiDigit c || isIdentStart c)

/-- Whether no token goes on with the character. -/
def isBoundary (c : Char) : Bool :=
  !(isIdentPart c || isBinary c || isOpening c || [':', '.', '\''].contains c)

def operators : List Char :=
  ['+', '-', '*', '/', '\\', '<', '>', '=', '~', ',', '@', '%', '|', '&', '?']

def blanks : List Nat :=
  List.range' 9 5 ++ List.range' 0x2000 11 ++
    [0x20, 0x85, 0xa0, 0x1680, 0x2028, 0x2029, 0x202f, 0x205f, 0x3000]

section

variable {c : Char}

theorem mem_map_ofNat {ns : List Nat} (member : c.toNat ∈ ns) : c ∈ ns.map Char.ofNat :=
  List.mem_map.mpr ⟨c.toNat, member, Char.ofNat_toNat c⟩

theorem mem_blanks (blank : isBlank c = true) : c.toNat ∈ blanks := by
  simp only [isBlank, Bool.or_eq_true, Bool.and_eq_true, decide_eq_true_eq, beq_iff_eq] at blank
  simp only [blanks, List.mem_append, List.mem_range'_1, List.mem_cons, List.not_mem_nil, or_false]
  omega

theorem plain_boundary_of_blank (blank : isBlank c = true) :
    isPlain c = true ∧ isBoundary c = true := by
  have all : (blanks.map Char.ofNat).all (fun c => isPlain c && isBoundary c) = true := by
    decide +kernel
  exact Bool.and_eq_true_iff.mp (List.all_eq_true.mp all c (mem_map_ofNat (mem_blanks blank)))

theorem isBinary_iff : isBinary c = true ↔ c ∈ operators := List.contains_iff_mem

theorem plain_of_binary (binary : isBinary c = true) : isPlain c = true :=
  List.all_eq_true.mp (show operators.all isPlain = true by decide) c (isBinary_iff.mp binary)

theorem not_special_of_identStart (start : isIdentStart c = true) : c ∉ specials := fun member => by
  have all : specials.all (fun c => !isIdentStart c) = true := by decide
  have := List.all_eq_true.mp all c member
  simp [start] at this

theorem identPart_of_identStart (start : isIdentStart c = true) : isIdentPart c = true := by
  simp only [isIdentStart, isIdentPart, isAlphanumeric, Bool.or_eq_true] at *
  exact start.imp_left .inl

theorem boundary_of_closing (closes : isClosing c = true) : isBoundary c = true := by
  simp only [isClosing, Bool.or_eq_true, beq_iff_eq] at closes
  rcases closes with (rfl | rfl) | rfl <;> decide

theorem mem_digits (digit : isAsciiDigit c = true) : c.toNat ∈ List.range' 48 10 := by
  simp only [isAsciiDigit, Bool.and_eq_true, decide_eq_true_eq, Char.le_def] at digit
  have low : 48 ≤ c.toNat := digit.1
  have high : c.toNat ≤ 57 := digit.2
  rw [List.mem_range'_1]
  omega

theorem of_digit (digit : isAsciiDigit c = true) :
    c ∉ specials ∧ isIdentStart c = false ∧ isAlphanumeric c = true := by
  have all : ((List.range' 48 10).map Char.ofNat).all
      (fun c => !specials.contains c && !isIdentStart c && isAlphanumeric c) = true := by decide
  simpa [and_assoc] using List.all_eq_true.mp all c (mem_map_ofNat (mem_digits digit))

theorem not_digit_of_identStart (start : isIdentStart c = true) : isAsciiDigit c = false :=
  Bool.eq_false_iff.mpr fun digit =>
    Bool.false_ne_true ((of_digit digit).2.1.symm.trans start)

theorem alphabetic_of_asciiLetter (letter : isAsciiLetter c = true) : isAlphabetic c = true := by
  have low : c.toNat < 0x80 := by
    simp only [isAsciiLetter, Bool.or_eq_true, Bool.and_eq_true, decide_eq_true_eq, Char.le_def] at letter
    rcases letter with ⟨-, high⟩ | ⟨-, high⟩
    · exact Nat.lt_of_le_of_lt (show c.toNat ≤ 122 from high) (by decide)
    · exact Nat.lt_of_le_of_lt (show c.toNat ≤ 90 from high) (by decide)
  rw [isAlphabetic, if_pos low, letter]

theorem isIdentStart_of_asciiLetter (letter : isAsciiLetter c = true) : isIdentStart c = true := by
  rw [isIdentStart, alphabetic_of_asciiLetter letter, Bool.true_or]

theorem isAlphanumeric_of_asciiLetter (letter : isAsciiLetter c = true) : isAlphanumeric c = true := by
  rw [isAlphanumeric, alphabetic_of_asciiLetter letter, Bool.true_or]

theorem isIdentPart_of_alphanumeric (alphanumeric : isAlphanumeric c = true) :
    isIdentPart c = true := by
  rw [isIdentPart, alphanumeric, Bool.true_or]

theorem isSymbolPart_of_alphanumeric (alphanumeric : isAlphanumeric c = true) :
    isSymbolPart c = true := by
  rw [isSymbolPart, isIdentPart_of_alphanumeric alphanumeric, Bool.true_or]

theorem isAlphanumeric_of_word {cs : List Char}
    (word : ∀ c ∈ cs, (isAsciiLetter c || isAsciiDigit c) = true) :
    ∀ c ∈ cs, isAlphanumeric c = true := fun c member =>
  (Bool.or_eq_true_iff.mp (word c member)).elim isAlphanumeric_of_asciiLetter fun digit =>
    (of_digit digit).2.2

theorem of_symbolPart (part : isSymbolPart c = true) :
    c ≠ '\'' ∧ isOpening c = false ∧ isBinary c = false := by
  have outside : c ∉ '\'' :: '(' :: '[' :: '{' :: operators := fun member => by
    have all : ('\'' :: '(' :: '[' :: '{' :: operators).all (fun c => !isSymbolPart c) = true := by
      decide
    have := List.all_eq_true.mp all c member
    simp [part] at this
  simp only [List.mem_cons, not_or, ← isBinary_iff, Bool.not_eq_true] at outside
  simp [isOpening, outside]

theorem of_plain (plain : isPlain c = true) :
    c ∉ specials ∧ isAsciiDigit c = false ∧ isIdentStart c = false := by
  simpa [isPlain, and_assoc] using plain

theorem not_alphanumeric_of_identPart (outside : isIdentPart c = false) : isAlphanumeric c = false :=
  (Bool.or_eq_false_iff.mp outside).1

end

/-! ## Lexemes -/

/-- No token goes on into the text. -/
def Apart (text : List Char) : Prop := ∀ c ∈ text.head?, isBoundary c = true

section

variable {c : Char} {cs rest : List Char}

theorem Apart.stops (apart : Apart rest) {c : Char} (member : c ∈ rest.head?) :
    isIdentPart c = false ∧ isBinary c = false ∧ isOpening c = false ∧ c ≠ ':' ∧ c ≠ '.' ∧ c ≠ '\'' := by
  simpa [isBoundary, and_assoc] using apart c member

theorem Apart.stops_number (apart : Apart rest) :
    ∀ c ∈ rest.head?, isAlphanumeric c = false ∧ c ≠ '.' := fun c member => by
  simp [apart.stops member, not_alphanumeric_of_identPart]

theorem Apart.not_equals (apart : Apart rest) : ∀ c ∈ rest.head?, c ≠ '=' := fun c member eq =>
  absurd (apart.stops member).2.1 (eq ▸ by decide)

theorem afterString_quoted (content : List Char) (stops : ∀ c ∈ rest.head?, c ≠ '\'') :
    afterString (content.flatMap escape ++ '\'' :: rest) = rest := by
  induction content with
  | nil =>
      cases rest with
      | nil => simp [afterString]
      | cons c rest => simp [afterString, stops c rfl]
  | cons c content ih => by_cases quote : c = '\'' <;> simp [escape, quote, afterString, ih]

theorem afterComment_closed {content : List Char} (closed : '"' ∉ content) :
    afterComment (content ++ '"' :: rest) = rest := by
  have inside : ∀ c ∈ content, (c != '"') = true := fun c member => by
    simpa using fun eq : c = '"' => closed (eq ▸ member)
  rw [afterComment, dropWhile_append_of_stop inside (by simp), List.drop_one, List.tail_cons]

theorem afterNumber_append (word : ∀ c ∈ cs, isAlphanumeric c = true) :
    afterNumber (cs ++ rest) = afterNumber rest := by
  induction cs with
  | nil => rfl
  | cons c cs ih =>
      obtain ⟨first, others⟩ := List.forall_mem_cons.mp word
      have point : c ≠ '.' := by
        rintro rfl
        exact absurd first (by decide)
      rw [List.cons_append, afterNumber, if_pos first, ih others]
      rintro d rest eq -
      exact point eq

theorem afterNumber_fraction (fraction : Option Digits) :
    afterNumber (fractionText fraction ++ rest) = afterNumber rest := by
  cases fraction with
  | none => rfl
  | some d =>
      have word : ∀ c ∈ d.text, isAlphanumeric c = true :=
        List.forall_mem_cons.mpr
          ⟨(of_digit d.starts).2.2, fun c member => (of_digit (d.goesOn c member)).2.2⟩
      simp only [fractionText, Digits.text, List.cons_append, afterNumber, d.starts, if_true]
      exact afterNumber_append word

theorem afterNumber_of_stop (stops : ∀ c ∈ rest.head?, isAlphanumeric c = false ∧ c ≠ '.') :
    afterNumber rest = rest := by
  cases rest with
  | nil => rfl
  | cons c rest =>
      obtain ⟨outside, point⟩ := stops c rfl
      rw [afterNumber, if_neg (by simp [outside])]
      rintro d rest eq -
      exact point eq

theorem lexeme_of_not_special (ordinary : c ∉ specials) :
    lexeme c rest =
      if isAsciiDigit c then (.other, afterNumber rest)
      else if isIdentStart c then
        if atKeywordColon (rest.dropWhile isIdentPart) then
          (.keyword (identToken (c :: rest)), (rest.dropWhile isIdentPart).drop 1)
        else (.other, rest.dropWhile isIdentPart)
      else (.other, rest) := by
  simp only [specials, List.mem_cons, List.not_mem_nil, or_false, not_or] at ordinary
  simp [lexeme, isOpening, isClosing, isStop, ordinary]

theorem lexeme_plain (plain : isPlain c = true) : lexeme c rest = (.other, rest) := by
  obtain ⟨ordinary, digit, start⟩ := of_plain plain
  simp [lexeme_of_not_special ordinary, digit, start]

theorem lexeme_stop (stops : isStop c = true) : lexeme c rest = (.stop, rest) := by
  simp only [isStop, Bool.or_eq_true, beq_iff_eq] at stops
  rcases stops with (rfl | rfl) | rfl <;> rfl

theorem lexeme_closing (closes : isClosing c = true) : lexeme c rest = (.closing, rest) := by
  simp only [isClosing, Bool.or_eq_true, beq_iff_eq] at closes
  rcases closes with (rfl | rfl) | rfl <;> rfl

theorem lexeme_digit (digit : isAsciiDigit c = true) : lexeme c rest = (.other, afterNumber rest) := by
  rw [lexeme_of_not_special (of_digit digit).1, if_pos digit]

theorem lexeme_hash : lexeme '#' rest = afterHash rest := rfl

theorem afterHash_symbol (part : ∀ c ∈ cs, isSymbolPart c = true) (apart : Apart rest) :
    afterHash (cs ++ rest) = (.other, rest) := by
  have stops : ∀ c ∈ rest.head?, isSymbolPart c = false := fun c member => by
    simp [isSymbolPart, apart.stops member]
  have ends : (cs ++ rest).dropWhile isSymbolPart = rest := dropWhile_append_of_stop part stops
  have head : ∀ c ∈ (cs ++ rest).head?, c ≠ '\'' ∧ isOpening c = false ∧ isBinary c = false := by
    cases cs with
    | nil => exact fun c member => by simp [apart.stops member]
    | cons c cs =>
        rintro d ⟨⟩
        exact of_symbolPart (part c List.mem_cons_self)
  revert head ends
  cases cs ++ rest with
  | nil => exact fun ends _ => congrArg (Prod.mk _) ends
  | cons c text =>
      intro ends head
      simp only [afterHash, beq_iff_eq, head c rfl, if_false, Bool.false_eq_true]
      exact congrArg (Prod.mk _) ends

theorem afterHash_operator (o : Operator) (stops : ∀ c ∈ rest.head?, isBinary c = false) :
    afterHash (o.text ++ rest) = (.other, rest) := by
  have ends : (o.text ++ rest).dropWhile isBinary = rest := dropWhile_append_of_stop o.binary stops
  obtain ⟨c, cs, eq⟩ := List.exists_cons_of_ne_nil o.present
  have binary : isBinary c = true := o.binary c (eq ▸ List.mem_cons_self)
  have ordinary := (of_plain (plain_of_binary binary)).1
  simp only [specials, List.mem_cons, List.not_mem_nil, or_false, not_or] at ordinary
  rw [eq] at ends ⊢
  rw [List.cons_append, afterHash, if_neg (by simp [ordinary]), if_neg (by simp [isOpening, ordinary]),
    if_pos binary]
  exact congrArg (Prod.mk _) ends

theorem lexeme_identStart (start : isIdentStart c = true) :
    lexeme c rest =
      if atKeywordColon (rest.dropWhile isIdentPart) then
        (.keyword (identToken (c :: rest)), (rest.dropWhile isIdentPart).drop 1)
      else (.other, rest.dropWhile isIdentPart) := by
  rw [lexeme_of_not_special (not_special_of_identStart start),
    if_neg (by simp [not_digit_of_identStart start]), if_pos start]

theorem lexeme_name (n : Name) (stops : ∀ c ∈ rest.head?, isIdentPart c = false ∧ c ≠ ':') :
    lexeme n.first (n.others ++ rest) = (.other, rest) := by
  have colon : atKeywordColon rest = false := by
    cases rest with
    | nil => rfl
    | cons c rest => simp [atKeywordColon, (stops c rfl).2]
  rw [lexeme_identStart n.starts,
    dropWhile_append_of_stop n.goesOn fun c member => (stops c member).1, if_neg (by simp [colon])]

theorem Name.isIdentPart_of_mem (n : Name) : ∀ c ∈ n.text, isIdentPart c = true :=
  List.forall_mem_cons.mpr ⟨identPart_of_identStart n.starts, n.goesOn⟩

theorem atKeywordColon_of_stop (stops : ∀ c ∈ rest.head?, c ≠ '=') :
    atKeywordColon (':' :: rest) = true := by
  cases rest with
  | nil => rfl
  | cons c rest => simp [atKeywordColon, stops c rfl]

theorem identToken_keywordText (n : Name) (stops : ∀ c ∈ rest.head?, c ≠ '=') :
    identToken (keywordText n ++ rest) = keywordText n := by
  have outside : isIdentPart ':' = false := by decide
  rw [keywordText, List.append_assoc, List.singleton_append, identToken,
    List.dropWhile_append_of_pos n.isIdentPart_of_mem, List.takeWhile_append_of_pos n.isIdentPart_of_mem]
  simp [outside, atKeywordColon_of_stop stops]

theorem lexeme_keyword (n : Name) (stops : ∀ c ∈ rest.head?, c ≠ '=') :
    lexeme n.first (n.others ++ [':'] ++ rest) = (.keyword (keywordText n), rest) := by
  have outside : isIdentPart ':' = false := by decide
  have token : identToken (n.first :: (n.others ++ ':' :: rest)) = keywordText n := by
    simpa [keywordText, Name.text] using identToken_keywordText n stops
  rw [List.append_assoc, List.singleton_append, lexeme_identStart n.starts,
    dropWhile_append_of_stop n.goesOn (by simp [outside]), if_pos (atKeywordColon_of_stop stops)]
  exact congrArg (fun t => (Lexeme.keyword t, rest)) token

end

/-! ## Texts that are passed -/

/-- The keywords found in a text that starts at `offset`, inside of so many brackets. -/
def scan (depth offset : Nat) (text : List Char) : List (Nat × List Char) :=
  siblings depth (lexemes offset text)

/-- Inside of at least so many brackets, the scan finds nothing in the text before `after` and is as
deep at its end. -/
def Passes (least : Nat) (text after : List Char) : Prop :=
  ∀ depth offset, least ≤ depth →
    scan depth offset (text ++ after) = scan depth (offset + text.length) after

section

variable {least depth offset : Nat} {c : Char} {cs text more after : List Char} {lex : Lexeme}

theorem scan_lexeme (eq : lexeme c (cs ++ after) = (lex, after)) :
    scan depth offset (c :: cs ++ after) =
      siblings depth ((offset, lex) :: lexemes (offset + (c :: cs).length) after) := by
  have length : (cs ++ after).length + 1 - after.length = (c :: cs).length := by
    rw [List.length_append, List.length_cons]
    omega
  rw [scan, List.cons_append, lexemes, eq, length]

theorem Passes.nil : Passes least [] after := fun _ _ _ => rfl

theorem Passes.append (first : Passes least text (more ++ after)) (second : Passes least more after) :
    Passes least (text ++ more) after := fun depth offset deep => by
  rw [List.append_assoc, first depth offset deep, second depth _ deep, List.length_append, Nat.add_assoc]

theorem Passes.cons (first : Passes least [c] (cs ++ after)) (others : Passes least cs after) :
    Passes least (c :: cs) after :=
  first.append others

theorem Passes.scan_eq (passes : Passes 0 text after) :
    scan depth offset (text ++ after) = scan depth (offset + text.length) after :=
  passes depth offset (Nat.zero_le depth)

theorem passes_other (eq : lexeme c (cs ++ after) = (.other, after)) :
    Passes least (c :: cs) after := fun depth offset _ => by
  rw [scan_lexeme eq, siblings, scan]

/-- Inside of brackets neither the end of an expression nor a keyword matters. -/
theorem passes_inside (eq : lexeme c (cs ++ after) = (lex, after))
    (kind : lex = .stop ∨ ∃ token, lex = .keyword token) : Passes 1 (c :: cs) after := by
  intro depth offset deep
  obtain ⟨depth, rfl⟩ := Nat.exists_eq_add_of_le' deep
  rw [scan_lexeme eq]
  rcases kind with rfl | ⟨token, rfl⟩ <;> rw [siblings, scan]

theorem passes_plain (plain : text.all isPlain = true) : Passes least text after := by
  induction text with
  | nil => exact .nil
  | cons c text ih =>
      rw [List.all_cons, Bool.and_eq_true] at plain
      obtain ⟨first, others⟩ := plain
      exact .cons (passes_other (lexeme_plain first)) (ih others)

/-! ### Tokens -/

theorem passes_name (n : Name) (apart : Apart after) : Passes least n.text after :=
  passes_other (lexeme_name n fun _ member => by simp [apart.stops member])

theorem passes_digits {d : Digits} {fraction : Option Digits}
    (word : ∀ c ∈ cs, isAlphanumeric c = true)
    (stops : ∀ c ∈ after.head?, isAlphanumeric c = false ∧ c ≠ '.') :
    Passes least (d.text ++ fractionText fraction ++ cs) after := by
  have others : ∀ c ∈ d.others, isAlphanumeric c = true := fun c member =>
    (of_digit (d.goesOn c member)).2.2
  have eq : lexeme d.first (d.others ++ fractionText fraction ++ cs ++ after) = (.other, after) := by
    rw [lexeme_digit d.starts, List.append_assoc, List.append_assoc, afterNumber_append others,
      afterNumber_fraction, afterNumber_append word, afterNumber_of_stop stops]
  exact passes_other eq

/-- Letters and digits are a number or an identifier. -/
theorem passes_word (word : ∀ c ∈ cs, (isAsciiLetter c || isAsciiDigit c) = true)
    (apart : Apart after) : Passes least cs after := by
  cases cs with
  | nil => exact .nil
  | cons c cs =>
      obtain ⟨first, others⟩ := List.forall_mem_cons.mp word
      have others := isAlphanumeric_of_word others
      rcases Bool.or_eq_true_iff.mp first with letter | digit
      · have goesOn : ∀ d ∈ cs, isIdentPart d = true := fun d member =>
          isIdentPart_of_alphanumeric (others d member)
        exact passes_name ⟨c, cs, isIdentStart_of_asciiLetter letter, goesOn⟩ apart
      · refine passes_other ?_
        rw [lexeme_digit digit, afterNumber_append others, afterNumber_of_stop apart.stops_number]

theorem of_sign (sign : c = '+' ∨ c = '-') :
    isBinary c = true ∧ isAlphanumeric c = false ∧ c ≠ '.' := by
  rcases sign with rfl | rfl <;> decide

/-- A radix written with a number sign is passed as a symbol. -/
theorem passes_radix {sign : Option Char} (isSign : ∀ c ∈ sign, c = '+' ∨ c = '-')
    (word : ∀ c ∈ cs, (isAsciiLetter c || isAsciiDigit c) = true) (apart : Apart after) :
    Passes least ('#' :: (sign.toList ++ cs)) after := by
  have alphanumeric := isAlphanumeric_of_word word
  cases sign with
  | none =>
      have part : ∀ c ∈ cs, isSymbolPart c = true := fun c member =>
        isSymbolPart_of_alphanumeric (alphanumeric c member)
      exact passes_other (lexeme_hash.trans (afterHash_symbol part apart))
  | some c =>
      let sign : Operator := ⟨[c], by simpa using (of_sign (isSign c rfl)).1, List.cons_ne_nil c []⟩
      have stops : ∀ d ∈ (cs ++ after).head?, isBinary d = false := by
        cases cs with
        | nil => exact fun d member => (apart.stops member).2.1
        | cons d cs =>
            rintro _ ⟨⟩
            exact (of_symbolPart (isSymbolPart_of_alphanumeric (alphanumeric d List.mem_cons_self))).2.2
      have signed : Passes least ['#', c] (cs ++ after) :=
        passes_other (lexeme_hash.trans (afterHash_operator sign stops))
      exact signed.append (passes_word word apart)

theorem passes_suffix {s : Suffix} {d : Digits} {fraction : Option Digits} (apart : Apart after) :
    Passes least (d.text ++ fractionText fraction ++ s.text) after := by
  obtain ⟨marker, sign, digits, isMarker, isSign, areDigits⟩ := s
  have alphanumeric := isAlphanumeric_of_word areDigits
  rcases isMarker with letter | rfl
  · have first := isAlphanumeric_of_asciiLetter letter
    cases sign with
    | none =>
        exact passes_digits (List.forall_mem_cons.mpr ⟨first, alphanumeric⟩) apart.stops_number
    | some c =>
        -- The sign ends the number; what follows it is a number or an identifier.
        obtain ⟨binary, stops⟩ := of_sign (isSign c rfl)
        have before : Passes least (d.text ++ fractionText fraction ++ [marker]) (c :: digits ++ after) :=
          passes_digits (by simpa using first) (by rintro _ ⟨⟩; exact stops)
        have signed : Passes least (c :: digits) after :=
          .cons (passes_plain (by simpa using plain_of_binary binary)) (passes_word areDigits apart)
        simpa [Suffix.text] using before.append signed
  · have before : Passes least (d.text ++ fractionText fraction ++ [])
        ('#' :: (sign.toList ++ digits) ++ after) :=
      passes_digits (by simp) (by rintro _ ⟨⟩; decide)
    simpa [Suffix.text] using before.append (passes_radix isSign areDigits apart)

theorem passes_number (n : Number) (apart : Apart after) : Passes least n.text after := by
  obtain ⟨negative, whole, fraction, suffix⟩ := n
  have unsigned : Passes least (whole.text ++ fractionText fraction ++ suffix.elim [] Suffix.text) after := by
    cases suffix with
    | none => exact passes_digits (by simp) apart.stops_number
    | some s => exact passes_suffix apart
  have minus : ∀ more, Passes least (if negative then ['-'] else []) more := fun more =>
    passes_plain (by cases negative <;> decide)
  simpa [Number.text] using (minus _).append unsigned

theorem passes_token (t : Token) (apart : Apart after) : Passes least t.text after := by
  have closed (content : List Char) :
      afterString (content.flatMap escape ++ ['\''] ++ after) = after := by
    rw [List.append_assoc]
    exact afterString_quoted content fun c member => by simp [apart.stops member]
  cases t with
  | name n => exact passes_name n apart
  | number n => exact passes_number n apart
  | string content => exact passes_other (congrArg (Prod.mk _) (closed content))
  | comment content fits =>
      refine passes_other (congrArg (Prod.mk _) ?_)
      rw [List.append_assoc]
      exact afterComment_closed fits
  | character c =>
      have eq : lexeme '$' ([c] ++ after) = (.other, after) := rfl
      exact passes_other eq
  | symbol first others goesOn =>
      have part : ∀ c ∈ first.text ++ others, isSymbolPart c = true :=
        List.forall_mem_append.mpr
          ⟨fun c member => by simp [isSymbolPart, first.isIdentPart_of_mem c member], goesOn⟩
      exact passes_other (lexeme_hash.trans (afterHash_symbol part apart))
  | quotedSymbol content => exact passes_other (congrArg (Prod.mk _) (closed content))
  | operatorSymbol o =>
      have stops : ∀ c ∈ after.head?, isBinary c = false := fun c member => (apart.stops member).2.1
      exact passes_other (lexeme_hash.trans (afterHash_operator o stops))
  | operator o => exact passes_plain (List.all_eq_true.mpr fun c member => plain_of_binary (o.binary c member))

end

/-! ### White space and brackets -/

section

variable {least depth offset : Nat} {required : Bool} {inner text after : List Char}

theorem Space.passes (gap : Space required) : Passes least gap.text after :=
  passes_plain (List.all_eq_true.mpr fun c member => (plain_boundary_of_blank (gap.blank c member)).1)

theorem Space.apart (gap : Space required) (others : required = false → Apart after) :
    Apart (gap.text ++ after) := by
  obtain ⟨text, blank, present⟩ := gap
  cases text with
  | nil => exact others (Bool.eq_false_iff.mpr fun eq => present eq rfl)
  | cons c text =>
      rintro _ ⟨⟩
      exact (plain_boundary_of_blank (blank c List.mem_cons_self)).2

theorem apart_closing (b : Bracket) : Apart (b.closing :: after) := by
  rintro _ ⟨⟩
  exact boundary_of_closing (by cases b <;> rfl)

theorem scan_start (b : Bracket) (literal : Bool) :
    scan depth offset (b.start literal ++ text) =
      scan (depth + 1) (offset + (b.start literal).length) text := by
  cases literal with
  | false =>
      have eq : lexeme b.opening ([] ++ text) = (.opening, text) := by cases b <;> rfl
      exact (scan_lexeme eq).trans (by rw [siblings]; rfl)
  | true =>
      have eq : lexeme '#' ([b.opening] ++ text) = (.opening, text) := by cases b <;> rfl
      exact (scan_lexeme eq).trans (by rw [siblings]; rfl)

theorem scan_closing (b : Bracket) :
    scan (depth + 1) offset (b.closing :: after) = scan depth (offset + 1) after := by
  have eq : lexeme b.closing ([] ++ after) = (.closing, after) :=
    lexeme_closing (by cases b <;> rfl)
  exact (scan_lexeme eq).trans (by rw [siblings]; rfl)

theorem passes_enclose (b : Bracket) (literal : Bool) (passes : Passes 1 inner (b.closing :: after)) :
    Passes least (b.enclose literal inner) after := fun depth offset _ => by
  have inside := passes (depth + 1) (offset + (b.start literal).length) (Nat.le_add_left 1 depth)
  simp only [Bracket.enclose, List.append_assoc, List.singleton_append, List.length_append,
    List.length_singleton]
  rw [scan_start, inside, scan_closing]
  simp only [Nat.add_assoc]

theorem passes_keyword (n : Name) (stops : ∀ c ∈ after.head?, c ≠ '=') :
    Passes 1 (keywordText n) after :=
  passes_inside (lexeme_keyword n stops) (.inr ⟨_, rfl⟩)

theorem passes_keywords (names : List Name) (apart : Apart after) :
    Passes 1 (names.flatMap keywordText) after := by
  induction names with
  | nil => exact .nil
  | cons n names ih =>
      refine .append (passes_keyword n ?_) ih
      cases names with
      | nil => exact apart.not_equals
      | cons m names =>
          rintro _ ⟨⟩ eq
          exact absurd m.starts (eq ▸ by decide)

theorem passes_stop (stops : isStop c = true) : Passes 1 [c] after := by
  have eq : lexeme c ([] ++ after) = (.stop, after) := lexeme_stop stops
  exact passes_inside eq (.inl rfl)

theorem passes_mark (m : Mark) (apart : Apart after) : Passes 1 m.text after := by
  cases m with
  | keywords first others => exact passes_keywords (first :: others) apart
  | stop c stops => exact passes_stop stops
  | parameter n => exact .cons (passes_plain (by decide)) (passes_name n apart)
  | assignment => exact passes_plain (by decide)
  | answer => exact passes_plain (by decide)

theorem Contents.apart (contents : Contents true) (others : Apart after) :
    Apart (contents.text ++ after) := by
  cases contents with
  | nil trailing => exact trailing.apart fun _ => others
  | token gap t rest | mark gap t rest | brackets gap literal b inner rest =>
      rw [Contents.text, List.append_assoc]
      exact gap.apart Bool.noConfusion

theorem Contents.passes (contents : Contents required) (apart : Apart after) :
    Passes 1 contents.text after := by
  induction contents generalizing after with
  | nil trailing => exact trailing.passes
  | token gap t rest ih =>
      exact gap.passes.append ((passes_token t (rest.apart apart)).append (ih apart))
  | mark gap m rest ih =>
      exact gap.passes.append ((passes_mark m (rest.apart apart)).append (ih apart))
  | brackets gap literal b inner rest ihInner ihRest =>
      exact gap.passes.append ((passes_enclose b literal (ihInner (apart_closing b))).append (ihRest apart))

end

/-! ## Messages -/

section

variable {least offset : Nat} {after : List Char}

theorem passes_piece (p : Piece) (apart : Apart after) : Passes least p.text after := by
  cases p with
  | token t => exact passes_token t apart
  | brackets literal b inner => exact passes_enclose b literal (inner.passes (apart_closing b))

theorem Argument.apart (a : Argument) (others : Apart after) : Apart (Argument.text a ++ after) := by
  cases a with
  | nil => exact others
  | cons item a =>
      simp only [Argument.text, List.flatMap_cons, List.append_assoc]
      exact item.1.apart Bool.noConfusion

theorem Argument.passes (a : Argument) (apart : Apart after) :
    Passes least (Argument.text a) after := by
  induction a with
  | nil => exact .nil
  | cons item a ih =>
      exact .append (item.1.passes.append (passes_piece item.2 (Argument.apart a apart))) ih

theorem Ending.apart (e : Ending) : Apart e.text := by
  cases e with
  | endOfText trailing =>
      have apart : Apart (trailing.text ++ []) := trailing.apart fun _ => nofun
      rwa [List.append_nil] at apart
  | mark c ends gap rest =>
      refine gap.apart fun notStop => ?_
      rintro _ ⟨⟩
      rw [notStop, Bool.false_or] at ends
      exact boundary_of_closing ends

theorem apart_parts (parts : List Part) (e : Ending) :
    Apart (parts.flatMap Part.text ++ e.text) := by
  cases parts with
  | nil => exact e.apart
  | cons p parts =>
      simp only [List.flatMap_cons, Part.text, List.append_assoc]
      exact p.gap.apart Bool.noConfusion

theorem scan_keyword (n : Name) (apart : Apart after) :
    scan 0 offset (keywordText n ++ after) =
      (offset, keywordText n) :: scan 0 (offset + (keywordText n).length) after :=
  (scan_lexeme (lexeme_keyword n apart.not_equals)).trans (by rw [siblings]; rfl)

theorem scan_ending (e : Ending) : scan 0 offset e.text = [] := by
  cases e with
  | endOfText trailing =>
      have passes : Passes 0 trailing.text [] := trailing.passes
      rw [Ending.text, ← List.append_nil trailing.text, passes.scan_eq, scan, lexemes, siblings]
  | mark c ends gap rest =>
      rw [Ending.text, gap.passes.scan_eq]
      rcases Bool.or_eq_true_iff.mp ends with stops | closes
      · have eq : lexeme c ([] ++ rest) = (.stop, rest) := lexeme_stop stops
        exact (scan_lexeme eq).trans (by rw [siblings])
      · have eq : lexeme c ([] ++ rest) = (.closing, rest) := lexeme_closing closes
        exact (scan_lexeme eq).trans (by rw [siblings])

/-- Of the parts and what follows them, the keywords of the parts are found. -/
theorem scan_parts (parts : List Part) (e : Ending) :
    scan 0 offset (parts.flatMap Part.text ++ e.text) = keywords offset parts := by
  induction parts generalizing offset with
  | nil => exact scan_ending e
  | cons p parts ih =>
      have rest := apart_parts parts e
      rw [List.flatMap_cons, List.append_assoc, Part.text, List.append_assoc, List.append_assoc,
        p.gap.passes.scan_eq, scan_keyword p.keyword (Argument.apart p.argument rest),
        (Argument.passes p.argument rest).scan_eq, ih, keywords]
      simp only [Part.text, List.length_append, Nat.add_assoc]

end

/-- The keywords found after the first one of a message are the later ones, with their offsets and in
their order. -/
theorem siblingKeywords_message (before : List Char) (m : Message) :
    siblingKeywords (before ++ m.text) (before.length + (keywordText m.keyword).length) =
        m.laterKeywords before.length ∧
      ∀ stepPoint, expandKeywords (before ++ m.text) [⟨stepPoint, before.length, keywordText m.keyword⟩] =
        ⟨stepPoint, before.length, keywordText m.keyword⟩ ::
          (m.laterKeywords before.length).map fun (offset, keyword) => ⟨stepPoint, offset, keyword⟩ := by
  have found : siblingKeywords (before ++ m.text) (before.length + (keywordText m.keyword).length) =
      m.laterKeywords before.length := by
    have rest := apart_parts m.parts m.ending
    have dropped : (before ++ m.text).drop (before.length + (keywordText m.keyword).length) =
        m.argument.text ++ (m.parts.flatMap Part.text ++ m.ending.text) := by
      rw [Message.text, ← List.append_assoc]
      exact List.drop_left' List.length_append
    rw [siblingKeywords, dropped]
    exact (Argument.passes m.argument rest).scan_eq.trans
      (by rw [scan_parts, Message.laterKeywords, List.length_append, Nat.add_assoc])
  refine ⟨found, fun stepPoint => ?_⟩
  have keyword : StepToken.isKeyword ⟨stepPoint, before.length, keywordText m.keyword⟩ = true := by
    simp [StepToken.isKeyword, keywordText]
  rw [expandKeywords, List.filter_cons_of_pos keyword]
  simp [StepToken.siblings, found]

example : siblingKeywords "d at: #(at: $' . k) put: 16r-1F ; x: 3".toList 5 = [(20, "put:".toList)] := by
  cbv

end StoneDebug.Source.Grammar
