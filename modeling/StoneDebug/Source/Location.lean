import StoneDebug.Text.Encoding

/-! # Method locations

A path that names a method and serves as the name of its document:

    /<dictionary>/<class>/<side>/<category>/<selector>[?env=<n>]

`MethodLocation.read` reads such a path and `MethodLocation.path` writes it.
-/

namespace StoneDebug.Source

open Text

inductive Side where
  | «instance»
  | «class»
deriving Repr, DecidableEq

def Side.name : Side → String
  | .instance => "instance"
  | .class => "class"

def Side.ofName? (name : List Char) : Option Side :=
  if name = Side.instance.name.toList then some .instance
  else if name = Side.class.name.toList then some .class
  else none

structure MethodLocation where
  dictionary : String
  cls : String
  side : Side
  category : String
  selector : String
  env : Nat
deriving Repr, DecidableEq

inductive LocationFault where
  | noLeadingSlash
  | badEnvironment
  | missingSegments
  | emptySegment
  | badSide
deriving Repr, DecidableEq

def LocationFault.message : LocationFault → String
  | .noLeadingSlash => "must start with \x60/\x60"
  | .badEnvironment => "bad environment id"
  | .missingSegments => "expected five path segments"
  | .emptySegment => "empty path segment"
  | .badSide => "side must be \x60instance\x60 or \x60class\x60"

/-- The texts before and after the last occurrence of `mark`. -/
def splitLast? (mark : List Char) : List Char → Option (List Char × List Char)
  | [] => none
  | c :: rest =>
    match splitLast? mark rest with
    | some (before, after) => some (c :: before, after)
    | none =>
      if mark.isPrefixOf (c :: rest) then some ([], (c :: rest).drop mark.length) else none

/-- Cuts a text at its first slashes; the last piece keeps the slashes beyond `cuts`. -/
def segments : (cuts : Nat) → List Char → List (List Char)
  | 0, cs => [cs]
  | cuts + 1, cs =>
    match cs.dropWhile (· != '/') with
    | [] => [cs]
    | _ :: rest => cs.takeWhile (· != '/') :: segments cuts rest

namespace MethodLocation

def envMark : List Char := "?env=".toList

/-- An environment is a word of sixteen bits, and the default is 0. -/
def envLimit : Nat := UInt16.size

def splitEnv (cs : List Char) : Except LocationFault (List Char × Nat) :=
  match splitLast? envMark cs with
  | none => .ok (cs, 0)
  | some (before, number) =>
    match readUnsigned envLimit number with
    | .ok env => .ok (before, env)
    | .error _ => .error .badEnvironment

/-- The location of five segments. A category may be empty. -/
def ofSegments (env : Nat) : List (List Char) → Except LocationFault MethodLocation
  | [dictionary, cls, side, category, selector] =>
    if dictionary.isEmpty || cls.isEmpty || selector.isEmpty then .error .emptySegment
    else
      match Side.ofName? side with
      | none => .error .badSide
      | some side => .ok
        { dictionary := .ofList dictionary, cls := .ofList cls, side,
          category := .ofList category, selector := .ofList selector, env }
  | _ => .error .missingSegments

/-- The selector is last and may contain slashes. -/
def read (path : String) : Except LocationFault MethodLocation :=
  match path.toList with
  | '/' :: rest => do
    let (text, env) ← splitEnv rest
    ofSegments env (segments 4 text)
  | _ => .error .noLeadingSlash

/-- The default environment is not written. -/
def path (l : MethodLocation) : String :=
  "/" ++ l.dictionary ++ "/" ++ l.cls ++ "/" ++ l.side.name ++ "/" ++ l.category ++ "/" ++
    l.selector ++ (if l.env = 0 then "" else "?env=" ++ toString l.env)

end MethodLocation

end StoneDebug.Source
