import StoneDebug.Text.Encoding

/-! # JSON values

The values of JSON texts, how they are written, and what typed records hold in them. A number that fits
64 bits, signed or unsigned, is an integer; any other number keeps its spelling.
-/

namespace StoneDebug

inductive Json where
  | null
  | bool (value : Bool)
  | int (value : Int)
  | number (spelling : String)
  | string (value : String)
  | array (items : List Json)
  | object (members : List (String × Json))
deriving Inhabited, Repr

namespace Json

def fitsWord (i : Int) : Bool := -0x8000000000000000 ≤ i && i < 0x10000000000000000

/-- Sets a member. A key that is there keeps its place and gets the new value. -/
def put (key : String) (value : Json) : List (String × Json) → List (String × Json)
  | [] => [(key, value)]
  | (k, v) :: rest => if k = key then (key, value) :: rest else (k, v) :: put key value rest

/-- The member with a key; null stands for a missing one and for the members of what is no object. -/
def get (j : Json) (key : String) : Json :=
  match j with
  | .object members => (members.lookup key).getD .null
  | _ => .null

def list {α : Type} (items : List α) (toJson : α → Json) : Json := .array (items.map toJson)

def option {α : Type} (value : Option α) (toJson : α → Json) : Json :=
  match value with
  | none => .null
  | some a => toJson a

def nat (n : Nat) : Json := .int n

/-! ## Writing

The shortest spelling of a value: no white space, and only those characters escaped that have to be.
-/

def writeChar (c : Char) : List Char :=
  match c with
  | '"' => ['\\', '"']
  | '\\' => ['\\', '\\']
  | '\n' => ['\\', 'n']
  | '\r' => ['\\', 'r']
  | '\t' => ['\\', 't']
  | '\x08' => ['\\', 'b']
  | '\x0c' => ['\\', 'f']
  | c =>
    if c.toNat < 0x20 then
      ['\\', 'u', '0', '0', Nat.digitChar (c.toNat / 16), Nat.digitChar (c.toNat % 16)]
    else [c]

def writeString (s : String) : List Char := '"' :: s.toList.flatMap writeChar ++ ['"']

mutual

def writeChars : Json → List Char
  | .null => "null".toList
  | .bool b => (toString b).toList
  | .int i => (toString i).toList
  | .number spelling => spelling.toList
  | .string s => writeString s
  | .array items => '[' :: writeItems items
  | .object members => '\x7b' :: writeMembers members

def writeItems : List Json → List Char
  | [] => [']']
  | [j] => writeChars j ++ [']']
  | j :: rest => writeChars j ++ ',' :: writeItems rest

def writeMembers : List (String × Json) → List Char
  | [] => ['\x7d']
  | [(key, j)] => writeString key ++ ':' :: writeChars j ++ ['\x7d']
  | (key, j) :: rest => writeString key ++ ':' :: writeChars j ++ ',' :: writeMembers rest

end

def write (j : Json) : String := .ofList j.writeChars

/-! ## Records

Values with fixed fields, read from an object by the names of the fields or from an array by their
order. Members of other names are ignored; items beyond the last field are not.
-/

inductive Slot where
  | given (value : Json)
  /-- The object has no such member. -/
  | absent
  /-- The array ends before the field. -/
  | cut

def slots (names : List String) : Json → Option (List Slot)
  | .object members => some (names.map fun name =>
      match members.lookup name with
      | some value => .given value
      | none => .absent)
  | .array items =>
    if items.length ≤ names.length then
      some (items.map .given ++ List.replicate (names.length - items.length) .cut)
    else none
  | _ => none

namespace Slot

variable {α : Type}

/-- A field that has to be there. -/
def required (read : Json → Option α) : Slot → Option α
  | .given value => read value
  | _ => none

/-- A field that may be null or missing in an object. -/
def optional (read : Json → Option α) : Slot → Option (Option α)
  | .given .null => some none
  | .given value => (read value).map some
  | .absent => some none
  | .cut => none

/-- A field for which `default` stands in when it is missing. -/
def defaulted (read : Json → Option α) (default : α) : Slot → Option α
  | .given value => read value
  | _ => some default

end Slot

def string? : Json → Option String
  | .string s => some s
  | _ => none

def bool? : Json → Option Bool
  | .bool b => some b
  | _ => none

def nat? (limit : Nat) : Json → Option Nat
  | .int i => if 0 ≤ i ∧ i < limit then some i.toNat else none
  | _ => none

def int? : Json → Option Int
  | .int i => if -0x8000000000000000 ≤ i ∧ i < 0x8000000000000000 then some i else none
  | _ => none

def list? {α : Type} (read : Json → Option α) : Json → Option (List α)
  | .array items => items.mapM read
  | _ => none

end Json

end StoneDebug
