import StoneDebug.Text.Property

/-! # Selector tokens and keyword messages

The selector at the offset of a step point is an identifier with the colon of a keyword, a run of
operator characters, or else a single character. A step point of `dict at: k put: v` lies on `at:`, and
`put:` belongs to the same step point. The text after the first keyword is split into lexemes; the
sibling keywords are those outside of brackets, up to the end of the expression.
-/

namespace StoneDebug.Source

open Text

def isIdentStart (c : Char) : Bool := isAlphabetic c || c == '_'

def isIdentPart (c : Char) : Bool := isAlphanumeric c || c == '_'

def isBinary (c : Char) : Bool :=
  ['+', '-', '*', '/', '\\', '<', '>', '=', '~', ',', '@', '%', '|', '&', '?'].contains c

/-- Whether a keyword ends here: a colon that does not begin an assignment. -/
def atKeywordColon : List Char → Bool
  | ':' :: '=' :: _ => false
  | ':' :: _ => true
  | _ => false

def identToken (cs : List Char) : List Char :=
  let name := cs.takeWhile isIdentPart
  if atKeywordColon (cs.dropWhile isIdentPart) then name ++ [':'] else name

def tokenAt : List Char → List Char
  | [] => []
  | c :: rest =>
    if isIdentStart c then identToken (c :: rest)
    else if isBinary c then (c :: rest).takeWhile isBinary
    else [c]

/-- Tokens are looked for in so many characters only. -/
def tokenWindow : Nat := 256

structure StepToken where
  stepPoint : Nat
  offset : Nat
  selector : List Char
deriving Repr, DecidableEq

def StepToken.at (source : List Char) (stepPoint offset : Nat) : StepToken :=
  ⟨stepPoint, offset, tokenAt ((source.drop offset).take tokenWindow)⟩

def StepToken.isKeyword (t : StepToken) : Bool := t.selector.getLast? == some ':'

/-! ## Lexemes -/

inductive Lexeme where
  | opening
  | closing
  /-- A period, semicolon or exclamation mark. -/
  | stop
  | keyword (token : List Char)
  | other
deriving Repr, DecidableEq

/-- The text after a string literal whose opening quote has been read. A doubled quote does not
close it. -/
def afterString : List Char → List Char
  | [] => []
  | '\'' :: '\'' :: rest => afterString rest
  | c :: rest => if c == '\'' then rest else afterString rest

def afterComment (cs : List Char) : List Char := (cs.dropWhile (· != '"')).drop 1

/-- The text after a number whose first digit has been read. A period belongs to it when a digit
follows. -/
def afterNumber : List Char → List Char
  | [] => []
  | '.' :: d :: rest => if isAsciiDigit d then afterNumber (d :: rest) else '.' :: d :: rest
  | c :: rest => if isAlphanumeric c then afterNumber rest else c :: rest

def isOpening (c : Char) : Bool := c == '(' || c == '[' || c == '{'

def isClosing (c : Char) : Bool := c == ')' || c == ']' || c == '}'

def isStop (c : Char) : Bool := c == '.' || c == ';' || c == '!'

/-- What a number sign introduces: a quoted symbol, a literal collection, an operator, or a symbol of
identifiers and colons. -/
def afterHash : List Char → Lexeme × List Char
  | [] => (.other, [])
  | c :: rest =>
    if c == '\'' then (.other, afterString rest)
    else if isOpening c then (.opening, rest)
    else if isBinary c then (.other, (c :: rest).dropWhile isBinary)
    else (.other, (c :: rest).dropWhile fun d => isIdentPart d || d == ':')

def lexeme (c : Char) (rest : List Char) : Lexeme × List Char :=
  if c == '\'' then (.other, afterString rest)
  else if c == '"' then (.other, afterComment rest)
  else if c == '$' then (.other, rest.drop 1)
  else if c == '#' then afterHash rest
  else if isOpening c then (.opening, rest)
  else if isClosing c then (.closing, rest)
  else if isStop c then (.stop, rest)
  else if isAsciiDigit c then (.other, afterNumber rest)
  else if isIdentStart c then
    let after := rest.dropWhile isIdentPart
    if atKeywordColon after then (.keyword (identToken (c :: rest)), after.drop 1)
    else (.other, after)
  else (.other, rest)

theorem length_afterString_le (cs : List Char) : (afterString cs).length ≤ cs.length := by
  fun_induction afterString cs with
  | case1 => simp
  | case2 rest ih => simp only [List.length_cons]; omega
  | case3 => simp
  | case4 c rest _ _ ih => simp only [List.length_cons]; omega

theorem length_afterNumber_le (cs : List Char) : (afterNumber cs).length ≤ cs.length := by
  fun_induction afterNumber cs with
  | case1 => simp
  | case2 d rest _ ih => simp only [List.length_cons] at *; omega
  | case3 => simp
  | case4 c rest _ _ ih => simp only [List.length_cons]; omega
  | case5 => simp

theorem length_dropWhile_le {α : Type} (p : α → Bool) (xs : List α) :
    (xs.dropWhile p).length ≤ xs.length :=
  (List.dropWhile_suffix p).length_le

theorem length_afterComment_le (cs : List Char) : (afterComment cs).length ≤ cs.length := by
  have := length_dropWhile_le (· != '"') cs
  simp only [afterComment, List.length_drop]
  omega

theorem length_afterHash_le (cs : List Char) : (afterHash cs).2.length ≤ cs.length := by
  cases cs with
  | nil => simp [afterHash]
  | cons c rest =>
    simp only [afterHash]
    split
    · exact Nat.le_succ_of_le (length_afterString_le rest)
    · split
      · simp
      · split <;> exact length_dropWhile_le _ _

theorem length_lexeme_le (c : Char) (rest : List Char) :
    (lexeme c rest).2.length ≤ rest.length := by
  let Shrinks (x : Lexeme × List Char) : Prop := x.2.length ≤ rest.length
  have stays (lex : Lexeme) : Shrinks (lex, rest) := Nat.le_refl _
  have name := length_dropWhile_le isIdentPart rest
  show Shrinks (lexeme c rest)
  unfold lexeme
  -- A split would simplify all the branches that are left each time.
  refine iteInduction (fun _ => length_afterString_le rest) fun _ => ?_
  refine iteInduction (fun _ => length_afterComment_le rest) fun _ => ?_
  refine iteInduction (fun _ => (List.drop_suffix 1 rest).length_le) fun _ => ?_
  refine iteInduction (fun _ => length_afterHash_le rest) fun _ => ?_
  refine iteInduction (fun _ => stays _) fun _ => ?_
  refine iteInduction (fun _ => stays _) fun _ => ?_
  refine iteInduction (fun _ => stays _) fun _ => ?_
  refine iteInduction (fun _ => length_afterNumber_le rest) fun _ => ?_
  refine iteInduction (fun _ => ?_) fun _ => stays _
  exact iteInduction (fun _ => Nat.le_trans (List.drop_suffix 1 _).length_le name) fun _ => name

/-- The lexemes of a text with their offsets; the text starts at `offset`. -/
def lexemes (offset : Nat) : List Char → List (Nat × Lexeme)
  | [] => []
  | c :: rest =>
    let after := (lexeme c rest).2
    (offset, (lexeme c rest).1) :: lexemes (offset + (rest.length + 1 - after.length)) after
termination_by cs => cs.length
decreasing_by exact Nat.lt_succ_of_le (length_lexeme_le c rest)

/-- The keywords outside of brackets, up to the end of the expression. -/
def siblings : (depth : Nat) → List (Nat × Lexeme) → List (Nat × List Char)
  | _, [] => []
  | depth, (_, .opening) :: rest => siblings (depth + 1) rest
  | 0, (_, .closing) :: _ => []
  | depth + 1, (_, .closing) :: rest => siblings depth rest
  | 0, (_, .stop) :: _ => []
  | depth + 1, (_, .stop) :: rest => siblings (depth + 1) rest
  | 0, (offset, .keyword token) :: rest => (offset, token) :: siblings 0 rest
  | depth + 1, (_, .keyword _) :: rest => siblings (depth + 1) rest
  | depth, (_, .other) :: rest => siblings depth rest

/-- The keywords that follow in the same message when the first one ends at `start`. -/
def siblingKeywords (source : List Char) (start : Nat) : List (Nat × List Char) :=
  siblings 0 (lexemes start (source.drop start))

def StepToken.siblings (source : List Char) (t : StepToken) : List StepToken :=
  (siblingKeywords source (t.offset + t.selector.length)).map fun (offset, selector) =>
    ⟨t.stepPoint, offset, selector⟩

/-- The given tokens, then the sibling keywords of each that is a keyword. -/
def expandKeywords (source : List Char) (tokens : List StepToken) : List StepToken :=
  tokens ++ (tokens.filter StepToken.isKeyword).flatMap (StepToken.siblings source)

end StoneDebug.Source
