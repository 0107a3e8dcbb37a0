import StoneDebug.Source.Keyword

/-! # How keyword messages are written

A message is a row of keywords, each with its argument, and an argument is a row of tokens and brackets
with white space between them. Inside of brackets there may be more: keywords of other messages, the
marks that end an expression, parameters and assignments. Whatever can be built here is well formed.
-/

namespace StoneDebug.Source.Grammar

open Text

/-- White space. Where it keeps two tokens apart there has to be some. -/
structure Space (required : Bool) where
  text : List Char
  blank : ∀ c ∈ text, isBlank c = true
  present : required = true → text ≠ []

/-! ## Tokens -/

structure Name where
  first : Char
  others : List Char
  starts : isIdentStart first = true
  goesOn : ∀ c ∈ others, isIdentPart c = true

def Name.text (n : Name) : List Char := n.first :: n.others

structure Operator where
  text : List Char
  binary : ∀ c ∈ text, isBinary c = true
  present : text ≠ []

structure Digits where
  first : Char
  others : List Char
  starts : isAsciiDigit first = true
  goesOn : ∀ c ∈ others, isAsciiDigit c = true

def Digits.text (d : Digits) : List Char := d.first :: d.others

/-- What may follow the digits of a number: the digits for a radix as in `16r-1F` or `16#FF`, an
exponent as in `1e-3`, or a scale as in `1.50s2`. -/
structure Suffix where
  marker : Char
  sign : Option Char
  digits : List Char
  isMarker : isAsciiLetter marker = true ∨ marker = '#'
  isSign : ∀ c ∈ sign, c = '+' ∨ c = '-'
  areDigits : ∀ c ∈ digits, (isAsciiLetter c || isAsciiDigit c) = true

def Suffix.text (s : Suffix) : List Char := s.marker :: (s.sign.toList ++ s.digits)

structure Number where
  negative : Bool
  whole : Digits
  fraction : Option Digits
  suffix : Option Suffix

def fractionText : Option Digits → List Char
  | none => []
  | some d => '.' :: d.text

def Number.text (n : Number) : List Char :=
  (if n.negative then ['-'] else []) ++ n.whole.text ++ fractionText n.fraction ++
    n.suffix.elim [] Suffix.text

/-- A quote inside of a literal is written twice. -/
def escape (c : Char) : List Char := if c = '\'' then ['\'', '\''] else [c]

def quoted (content : List Char) : List Char := '\'' :: (content.flatMap escape ++ ['\''])

def isSymbolPart (c : Char) : Bool := isIdentPart c || c == ':'

inductive Token where
  | name (n : Name)
  | number (n : Number)
  | string (content : List Char)
  | comment (content : List Char) (closed : '"' ∉ content)
  | character (c : Char)
  /-- A symbol of one identifier or of keywords. -/
  | symbol (first : Name) (others : List Char) (goesOn : ∀ c ∈ others, isSymbolPart c = true)
  | quotedSymbol (content : List Char)
  | operatorSymbol (o : Operator)
  | operator (o : Operator)

def Token.text : Token → List Char
  | name n => n.text
  | number n => n.text
  | string content => quoted content
  | comment content _ => '"' :: (content ++ ['"'])
  | character c => ['$', c]
  | symbol first others _ => '#' :: (first.text ++ others)
  | quotedSymbol content => '#' :: quoted content
  | operatorSymbol o => '#' :: o.text
  | operator o => o.text

/-- What stands only inside of brackets. -/
inductive Mark where
  /-- Keywords, which a literal array may hold in one word. -/
  | keywords (first : Name) (others : List Name)
  /-- A period, semicolon or exclamation mark. -/
  | stop (c : Char) (stops : isStop c = true)
  | parameter (n : Name)
  | assignment
  | answer

def keywordText (n : Name) : List Char := n.text ++ [':']

def Mark.text : Mark → List Char
  | keywords first others => (first :: others).flatMap keywordText
  | stop c _ => [c]
  | parameter n => ':' :: n.text
  | assignment => [':', '=']
  | answer => ['^']

/-! ## Brackets -/

inductive Bracket where
  | round
  | square
  | curly

def Bracket.opening : Bracket → Char
  | round => '('
  | square => '['
  | curly => '{'

def Bracket.closing : Bracket → Char
  | round => ')'
  | square => ']'
  | curly => '}'

/-- A number sign makes a literal of the brackets. -/
def Bracket.start (b : Bracket) (literal : Bool) : List Char :=
  if literal then ['#', b.opening] else [b.opening]

def Bracket.enclose (b : Bracket) (literal : Bool) (inner : List Char) : List Char :=
  b.start literal ++ (inner ++ [b.closing])

/-- What stands between brackets, or the rest of it. A token needs white space before it unless it
follows the opening bracket. -/
inductive Contents : (apart : Bool) → Type where
  | nil {apart : Bool} (trailing : Space false) : Contents apart
  | token {apart : Bool} (gap : Space apart) (t : Token) (rest : Contents true) : Contents apart
  | mark {apart : Bool} (gap : Space apart) (m : Mark) (rest : Contents true) : Contents apart
  | brackets {apart : Bool} (gap : Space apart) (literal : Bool) (b : Bracket)
    (inner : Contents false) (rest : Contents true) : Contents apart

def Contents.text {apart : Bool} : Contents apart → List Char
  | nil trailing => trailing.text
  | token gap t rest => gap.text ++ (t.text ++ rest.text)
  | mark gap m rest => gap.text ++ (m.text ++ rest.text)
  | brackets gap literal b inner rest => gap.text ++ (b.enclose literal inner.text ++ rest.text)

/-! ## Messages -/

inductive Piece where
  | token (t : Token)
  | brackets (literal : Bool) (b : Bracket) (inner : Contents false)

def Piece.text : Piece → List Char
  | token t => t.text
  | brackets literal b inner => b.enclose literal inner.text

abbrev Argument := List (Space true × Piece)

def Argument.text (a : Argument) : List Char := a.flatMap fun (gap, piece) => gap.text ++ piece.text

structure Part where
  gap : Space true
  keyword : Name
  argument : Argument

def Part.text (p : Part) : List Char :=
  p.gap.text ++ (keywordText p.keyword ++ p.argument.text)

inductive Ending where
  | endOfText (trailing : Space false)
  /-- The end of the expression, or the closing bracket around it, and then any text. -/
  | mark (c : Char) (ends : (isStop c || isClosing c) = true) (gap : Space (isStop c))
    (rest : List Char)

def Ending.text : Ending → List Char
  | endOfText trailing => trailing.text
  | mark c _ gap rest => gap.text ++ c :: rest

structure Message where
  keyword : Name
  argument : Argument
  parts : List Part
  ending : Ending

/-- The message from its first keyword on, and the text that follows it. -/
def Message.text (m : Message) : List Char :=
  keywordText m.keyword ++ (m.argument.text ++ (m.parts.flatMap Part.text ++ m.ending.text))

/-- The keywords of parts with their offsets, when the text of the parts starts at `offset`. -/
def keywords (offset : Nat) : List Part → List (Nat × List Char)
  | [] => []
  | p :: parts =>
    (offset + p.gap.text.length, keywordText p.keyword) :: keywords (offset + p.text.length) parts

/-- The keywords after the first one, which starts at `offset`. -/
def Message.laterKeywords (m : Message) (offset : Nat) : List (Nat × List Char) :=
  keywords (offset + (keywordText m.keyword ++ m.argument.text).length) m.parts

end StoneDebug.Source.Grammar
