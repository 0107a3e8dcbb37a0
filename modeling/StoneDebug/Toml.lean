import StoneDebug.Json.Read

/-! # TOML

Values of TOML documents and the rules by which headers and dotted keys build tables: a table is
defined once, and what a header or a dotted key passes on its way is created or entered. A document has
lines of keys with values, and headers that say which table the lines after them belong to.
-/

namespace StoneDebug

/-- How a table came about, which decides what may be added to it. -/
inductive TableOrigin where
  /-- Written in braces and complete. -/
  | inline
  /-- Opened by a header of its own. -/
  | header
  /-- Passed by a header on the way to another table. -/
  | passed
  /-- Passed by a dotted key. -/
  | dotted
deriving Repr, DecidableEq

inductive Toml where
  | string (value : String)
  | integer (value : Int)
  | float
  | boolean (value : Bool)
  | datetime
  | array (items : List Toml)
  /-- The tables opened by headers in double brackets. -/
  | tables (items : List (List (String × Toml)))
  | table (origin : TableOrigin) (members : List (String × Toml))
deriving Inhabited

namespace Toml

abbrev Members := List (String × Toml)

def Members.replace (key : String) (value : Toml) (members : Members) : Members :=
  members.map fun (k, v) => if k = key then (k, value) else (k, v)

/-- Adds the value of a dotted key. `open` says whether keys may be added to this very table. -/
def Members.insert (isOpen : Bool) (members : Members) (key : String) (value : Toml) :
    (path : List String) → Option Members
  | [] =>
    if isOpen && (members.lookup key).isNone then some (members ++ [(key, value)]) else none
  | first :: path =>
    match members.lookup first with
    | none => do
      let inner ← insert true [] key value path
      return members ++ [(first, .table .dotted inner)]
    | some (.table .dotted inner) => do
      let inner ← insert true inner key value path
      return members.replace first (.table .dotted inner)
    | some (.table .passed inner) => do
      let inner ← insert false inner key value path
      return members.replace first (.table .passed inner)
    | some (.tables items) => do
      let last ← items.getLast?
      let last ← insert false last key value path
      return members.replace first (.tables (items.dropLast ++ [last]))
    | some _ => none

/-- Changes the table at a path of headers; of an array of tables the last one is meant. -/
def Members.change (change : Members → Option Members) (members : Members) :
    (path : List String) → Option Members
  | [] => change members
  | first :: path =>
    match members.lookup first with
    | none => do
      let inner ← Members.change change [] path
      return members ++ [(first, .table .passed inner)]
    | some (.table .inline _) => none
    | some (.table origin inner) => do
      let inner ← Members.change change inner path
      return members.replace first (.table origin inner)
    | some (.tables items) => do
      let last ← items.getLast?
      let last ← Members.change change last path
      return members.replace first (.tables (items.dropLast ++ [last]))
    | some _ => none

def Members.openTable (key : String) (members : Members) : Option Members :=
  match members.lookup key with
  | none => some (members ++ [(key, .table .header [])])
  | some (.table .passed inner) => some (members.replace key (.table .header inner))
  | some _ => none

def Members.addTable (key : String) (members : Members) : Option Members :=
  match members.lookup key with
  | none => some (members ++ [(key, .tables [[]])])
  | some (.tables items) => some (members.replace key (.tables (items ++ [[]])))
  | some _ => none

/-! ## Words

Blanks, comments, keys, strings, numbers and dates. Each reader takes its word from the start of a
text and gives the rest.
-/

open Text

inductive Round (α : Type) where
  | fault
  | stop (rest : List Char)
  | more (found : α) (rest : List Char)

/-- Collects what `round` finds until it stops, in at most `rounds` rounds. -/
def collect {α : Type} (round : List Char → Round α) :
    (rounds : Nat) → List Char → Option (List α × List Char)
  | 0, _ => none
  | rounds + 1, cs =>
    match round cs with
    | .fault => none
    | .stop rest => some ([], rest)
    | .more a rest => (collect round rounds rest).map fun (found, after) => (a :: found, after)

/-- Each round takes a character at least. -/
def collectAll {α : Type} (round : List Char → Round α) (cs : List Char) :
    Option (List α × List Char) :=
  collect round (cs.length + 1) cs

/-! ## Blanks and comments -/

def isBlank (c : Char) : Bool := c == ' ' || c == '\t'

def skipBlanks (cs : List Char) : List Char := cs.dropWhile isBlank

/-- Characters of comments and literal strings: no controls but the tabulator. -/
def isPlain (c : Char) : Bool := c == '\t' || (0x20 ≤ c.toNat && c.toNat != 0x7f)

def newline? : List Char → Option (List Char)
  | '\n' :: rest => some rest
  | '\r' :: '\n' :: rest => some rest
  | _ => none

def skipComment : List Char → List Char
  | '#' :: rest => rest.dropWhile isPlain
  | cs => cs

def endLine? (cs : List Char) : Option (List Char) :=
  match skipComment (skipBlanks cs) with
  | [] => some []
  | cs => newline? cs

def skipAll (skip : List Char → List Char) (cs : List Char) : List Char :=
  let round (cs : List Char) : Round Unit :=
    if (skip cs).length < cs.length then .more () (skip cs) else .stop cs
  ((collectAll round cs).map Prod.snd).getD cs

def skipBlankLines (cs : List Char) : List Char :=
  skipAll (fun cs => (newline? cs).getD (skipBlanks cs)) cs

def skipLines (cs : List Char) : List Char :=
  skipAll (fun cs => skipComment ((newline? cs).getD (skipBlanks cs))) cs

/-! ## Strings -/

def codePoint? (count : Nat) (cs : List Char) : Option (Char × List Char) := do
  let digits := cs.take count
  let values ← digits.mapM Text.Hex.value?
  let n := values.foldl (fun n d => n * 16 + d) 0
  if digits.length = count ∧ n.isValidChar then some (Char.ofNat n, cs.drop count) else none

def escape? : List Char → Option (Char × List Char)
  | 'b' :: rest => some ('\x08', rest)
  | 'f' :: rest => some ('\x0c', rest)
  | 'n' :: rest => some ('\n', rest)
  | 'r' :: rest => some ('\r', rest)
  | 't' :: rest => some ('\t', rest)
  | '"' :: rest => some ('"', rest)
  | '\\' :: rest => some ('\\', rest)
  | 'u' :: rest => codePoint? 4 rest
  | 'U' :: rest => codePoint? 8 rest
  | _ => none

def Round.ofOption (found : Option (Char × List Char)) : Round (List Char) :=
  match found with
  | some (c, rest) => .more [c] rest
  | none => .fault

def basic? (cs : List Char) : Option (List Char × List Char) :=
  let round (cs : List Char) : Round (List Char) :=
    match cs with
    | '"' :: rest => .stop rest
    | '\\' :: rest => .ofOption (escape? rest)
    | c :: rest => if isPlain c then .more [c] rest else .fault
    | [] => .fault
  (collectAll round cs).map fun (parts, rest) => (parts.flatten, rest)

def literal? (cs : List Char) : Option (List Char × List Char) :=
  let body := cs.takeWhile fun c => c != '\'' && isPlain c
  match cs.drop body.length with
  | '\'' :: rest => some (body, rest)
  | _ => none

/-- In a string of several lines one or two quotes are text. Of three to five the last three end it;
what comes before them is text. -/
def quotes (quote : Char) (cs : List Char) : Round (List Char) ⊕ (List Char × List Char) :=
  let run := cs.takeWhile (· == quote)
  let rest := cs.drop run.length
  if run.length < 3 then .inl (.more run rest)
  else if run.length < 6 then .inr (run.drop 3, rest)
  else .inl .fault

/-- A string of several lines, after its opening quotes. A newline right after them is no part of it. -/
def multiline? (quote : Char) (other : List Char → Round (List Char)) (cs : List Char) :
    Option (List Char × List Char) :=
  let round (cs : List Char) : Round (List Char) :=
    match newline? cs with
    | some rest => .more ['\n'] rest
    | none =>
      if cs.head? == some quote then
        match quotes quote cs with
        | .inl round => round
        | .inr _ => .stop cs
      else other cs
  do
    let (parts, rest) ← collectAll round ((newline? cs).getD cs)
    match quotes quote rest with
    | .inr (last, rest) => return (parts.flatten ++ last, rest)
    | .inl _ => none

/-- A backslash at the end of a line takes the line end and all blanks after it away. -/
def multilineBasic? : List Char → Option (List Char × List Char) :=
  multiline? '"' fun
    | '\\' :: rest =>
      match newline? (skipBlanks rest) with
      | some rest => .more [] (skipBlankLines rest)
      | none => .ofOption (escape? rest)
    | c :: rest => if isPlain c then .more [c] rest else .fault
    | [] => .fault

def multilineLiteral? : List Char → Option (List Char × List Char) :=
  multiline? '\'' fun
    | c :: rest => if isPlain c then .more [c] rest else .fault
    | [] => .fault

def string? : List Char → Option (List Char × List Char)
  | '"' :: '"' :: '"' :: rest => multilineBasic? rest
  | '"' :: rest => basic? rest
  | '\'' :: '\'' :: '\'' :: rest => multilineLiteral? rest
  | '\'' :: rest => literal? rest
  | _ => none

/-! ## Keys -/

def isBareKey (c : Char) : Bool := isAsciiLetter c || isAsciiDigit c || c == '_' || c == '-'

def simpleKey? : List Char → Option (String × List Char)
  | '"' :: rest => (basic? rest).map fun (k, r) => (.ofList k, r)
  | '\'' :: rest => (literal? rest).map fun (k, r) => (.ofList k, r)
  | cs =>
    match cs.takeWhile isBareKey with
    | [] => none
    | k => some (.ofList k, cs.dropWhile isBareKey)

/-- As many parts a dotted key may have, and as deep values may be nested. -/
def maxDepth : Nat := 79

/-- The parts of a dotted key with blanks around them: the last one apart. -/
def key? (cs : List Char) : Option (List String × String × List Char) := do
  let (first, rest) ← simpleKey? (skipBlanks cs)
  let round (cs : List Char) : Round String :=
    match cs with
    | '.' :: rest =>
      match simpleKey? (skipBlanks rest) with
      | some (k, rest) => .more k (skipBlanks rest)
      | none => .fault
    | cs => .stop cs
  let (more, rest) ← collectAll round (skipBlanks rest)
  let parts := first :: more
  if parts.length ≤ maxDepth then return (parts.dropLast, parts.getLastD first, rest) else none

/-! ## Numbers -/

/-- Further digits; a single underscore may stand before each. -/
def moreDigits? (isDigit : Char → Bool) : List Char → Option (List Char × List Char)
  | [] => some ([], [])
  | ['_'] => none
  | '_' :: d :: rest =>
    if isDigit d then (moreDigits? isDigit rest).map fun (ds, r) => (d :: ds, r) else none
  | d :: rest =>
    if isDigit d then (moreDigits? isDigit rest).map fun (ds, r) => (d :: ds, r)
    else some ([], d :: rest)

def digits? (isDigit : Char → Bool) : List Char → Option (List Char × List Char)
  | d :: rest =>
    if isDigit d then (moreDigits? isDigit rest).map fun (ds, r) => (d :: ds, r) else none
  | [] => none

/-- Digits of which the first is 0 only if it is the only one. -/
def wholeDigits? : List Char → Option (List Char × List Char)
  | '0' :: rest => some (['0'], rest)
  | cs => digits? isAsciiDigit cs

def sign : List Char → Bool × List Char
  | '-' :: rest => (true, rest)
  | '+' :: rest => (false, rest)
  | cs => (false, cs)

def integer? (negative : Bool) (n : Nat) : Option Toml :=
  let i : Int := if negative then -(n : Int) else n
  if -0x8000000000000000 ≤ i ∧ i < 0x8000000000000000 then some (.integer i) else none

def exponent? (cs : List Char) : Option (Int × List Char) := do
  let (negative, cs) := sign cs
  let (ds, rest) ← digits? isAsciiDigit cs
  let n : Int := Json.natOfDigits ds
  return (if negative then -n else n, rest)

/-- A float; a positive one beyond the range of doubles is refused. -/
def float? (negative : Bool) (digits : List Char) (exponent : Int) (rest : List Char) :
    Option (Toml × List Char) :=
  if negative || Json.fitsDouble digits exponent then some (.float, rest) else none

def decimal? (cs : List Char) : Option (Toml × List Char) := do
  let (negative, cs) := sign cs
  let (whole, rest) ← wholeDigits? cs
  match rest with
  | '.' :: rest => do
    let (fraction, rest) ← digits? isAsciiDigit rest
    let isExponent := rest.head? == some 'e' || rest.head? == some 'E'
    let (power, rest) ← if isExponent then exponent? (rest.drop 1) else some (0, rest)
    float? negative (whole ++ fraction) (power - fraction.length) rest
  | c :: after =>
    if c == 'e' || c == 'E' then do
      let (power, rest) ← exponent? after
      float? negative whole power rest
    else return (← integer? negative (Json.natOfDigits whole), c :: after)
  | [] => return (← integer? negative (Json.natOfDigits whole), [])

def radix? (base : Nat) (cs : List Char) : Option (Toml × List Char) := do
  let isDigit (c : Char) : Bool := (Text.Hex.value? c).any fun d => d < base
  let (ds, rest) ← digits? isDigit cs
  let values ← ds.mapM Text.Hex.value?
  return (← integer? false (values.foldl (fun n d => n * base + d) 0), rest)

/-! ## Dates and times -/

/-- A number of so many digits, not below `low` and not above `high`. -/
def field? (count low high : Nat) (cs : List Char) : Option (Nat × List Char) :=
  let ds := cs.take count
  let n := Json.natOfDigits ds
  if ds.length = count ∧ ds.all isAsciiDigit ∧ low ≤ n ∧ n ≤ high then some (n, cs.drop count)
  else none

def after? (mark : Char) : List Char → Option (List Char)
  | c :: rest => if c = mark then some rest else none
  | [] => none

def daysIn (year month : Nat) : Nat :=
  if month = 2 then
    if year % 4 = 0 ∧ (year % 100 ≠ 0 ∨ year % 400 = 0) then 29 else 28
  else if month = 4 ∨ month = 6 ∨ month = 9 ∨ month = 11 then 30
  else 31

def date? (cs : List Char) : Option (List Char) := do
  let (year, cs) ← field? 4 0 9999 cs
  let (month, cs) ← field? 2 1 12 (← after? '-' cs)
  let (_, cs) ← field? 2 1 (daysIn year month) (← after? '-' cs)
  return cs

def time? (cs : List Char) : Option (List Char) := do
  let (_, cs) ← field? 2 0 23 cs
  let (_, cs) ← field? 2 0 59 (← after? ':' cs)
  let (_, cs) ← field? 2 0 60 (← after? ':' cs)
  match cs with
  | '.' :: d :: rest => if isAsciiDigit d then some (rest.dropWhile isAsciiDigit) else none
  | cs => some cs

def offset? : List Char → Option (List Char)
  | c :: cs =>
    if c == 'Z' || c == 'z' then some cs
    else if c == '+' || c == '-' then do
      let (_, cs) ← field? 2 0 23 cs
      let (_, cs) ← field? 2 0 59 (← after? ':' cs)
      return cs
    else some (c :: cs)
  | [] => some []

def datetime? (cs : List Char) : Option (List Char) :=
  match date? cs with
  | none => time? cs
  | some [] => some []
  | some (c :: rest) =>
    if c == 'T' || c == 't' || c == ' ' then
      match time? rest with
      | some rest => offset? rest
      | none => some (c :: rest)
    else some (c :: rest)

def number? (cs : List Char) : Option (Toml × List Char) :=
  match datetime? cs with
  | some rest => some (.datetime, rest)
  | none =>
    match cs with
    | '0' :: 'x' :: rest => radix? 16 rest
    | '0' :: 'o' :: rest => radix? 8 rest
    | '0' :: 'b' :: rest => radix? 2 rest
    | cs =>
      match (sign cs).2 with
      | 'i' :: 'n' :: 'f' :: rest => some (.float, rest)
      | 'n' :: 'a' :: 'n' :: rest => some (.float, rest)
      | _ => decimal? cs

/-! ## Documents -/

mutual

def value? : (fuel depth : Nat) → List Char → Option (Toml × List Char)
  | 0, _, _ => none
  | _ + 1, _, [] => none
  | fuel + 1, depth, c :: rest =>
    if c == '"' || c == '\'' then
      (string? (c :: rest)).map fun (s, r) => (.string (.ofList s), r)
    else if c == '[' then
      if depth < maxDepth then
        (items? fuel (depth + 1) (skipLines rest)).map fun (items, r) => (.array items, r)
      else none
    else if c == '\x7b' then
      if depth < maxDepth then
        match skipBlanks rest with
        | '\x7d' :: r => some (.table .inline [], r)
        | cs => (members? fuel (depth + 1) [] cs).map fun (ms, r) => (.table .inline ms, r)
      else none
    else if c == 't' then
      (Json.word? "rue".toList rest).map fun r => (.boolean true, r)
    else if c == 'f' then
      (Json.word? "alse".toList rest).map fun r => (.boolean false, r)
    else number? (c :: rest)

def items? : (fuel depth : Nat) → List Char → Option (List Toml × List Char)
  | 0, _, _ => none
  | _ + 1, _, ']' :: rest => some ([], rest)
  | fuel + 1, depth, cs => do
    let (item, rest) ← value? fuel depth cs
    match skipLines rest with
    | ',' :: rest => do
      let (items, rest) ← items? fuel depth (skipLines rest)
      return (item :: items, rest)
    | ']' :: rest => return ([item], rest)
    | _ => none

def members? : (fuel depth : Nat) → Members → List Char → Option (Members × List Char)
  | 0, _, _, _ => none
  | fuel + 1, depth, members, cs => do
    let (path, key, rest) ← key? cs
    let rest ← after? '=' rest
    let (value, rest) ← value? fuel depth (skipBlanks rest)
    let members ← members.insert true key value path
    match skipBlanks rest with
    | ',' :: rest => members? fuel depth members rest
    | '\x7d' :: rest => return (members, rest)
    | _ => none

end

structure Builder where
  root : Members := []
  path : List String := []

def Builder.header? (b : Builder) (cs : List Char) : Option (Builder × List Char) :=
  match cs with
  | '[' :: '[' :: rest => do
    let (path, key, rest) ← key? rest
    let rest ← endLine? (← after? ']' (← after? ']' rest))
    let root ← b.root.change (Members.addTable key) path
    return (⟨root, path ++ [key]⟩, rest)
  | _ => do
    let (path, key, rest) ← key? (cs.drop 1)
    let rest ← endLine? (← after? ']' rest)
    let root ← b.root.change (Members.openTable key) path
    return (⟨root, path ++ [key]⟩, rest)

def Builder.keyValue? (b : Builder) (cs : List Char) : Option (Builder × List Char) := do
  let (path, key, rest) ← key? cs
  let rest ← after? '=' rest
  let (value, rest) ← value? (2 * rest.length + 1) 0 (skipBlanks rest)
  let rest ← endLine? rest
  let root ← b.root.change (fun members => members.insert true key value path) b.path
  return ({ b with root }, rest)

/-- Takes a line; on an empty one nothing but a comment may stand. -/
def Builder.line? (b : Builder) (cs : List Char) : Option (Builder × List Char) :=
  match skipBlanks cs with
  | [] => some (b, [])
  | '#' :: rest => (endLine? ('#' :: rest)).map fun r => (b, r)
  | '[' :: rest => b.header? ('[' :: rest)
  | c :: rest =>
    if c == '\n' || c == '\r' then (newline? (c :: rest)).map fun r => (b, r)
    else b.keyValue? (c :: rest)

def Builder.lines? : (rounds : Nat) → Builder → List Char → Option Builder
  | _, b, [] => some b
  | 0, _, _ => none
  | rounds + 1, b, cs => do
    let (b, rest) ← b.line? cs
    lines? rounds b rest

/-- The tables of a document, which may begin with a byte order mark. -/
def read? (text : String) : Option Members :=
  let cs := match text.toList with
    | '\uFEFF' :: rest => rest
    | cs => cs
  (Builder.lines? (cs.length + 1) {} cs).map Builder.root

end Toml

end StoneDebug
