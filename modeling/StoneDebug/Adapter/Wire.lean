import StoneDebug.Json.Read

/-! # Frames on the wire

A message is sent as lines of header, an empty line, and a JSON text of so many bytes as the header
tells:

    Content-Length: <bytes>

    <payload>

Other header lines are ignored, and of several lengths the last one counts.
-/

namespace StoneDebug.Adapter

open Text Utf8

inductive WireError where
  /-- The connection ends where a message or another header line would begin. -/
  | closed
  /-- A header line is not UTF-8. -/
  | badHeader
  | badLength (cause : NumberError)
  | noLength
  /-- The connection ends within a payload. -/
  | cutShort
  | notJson
deriving Repr, DecidableEq

def newline : UInt8 := 10

def lengthMark : List Char := "Content-Length:".toList

def frame (payload : Bytes) : Bytes :=
  encode s!"Content-Length: {payload.length}\r\n\r\n" ++ payload

def encodeMessage (message : Json) : Bytes := frame (encodeChars message.writeChars)

def lineText (bytes : Bytes) : Except WireError (List Char) :=
  match decodeChars? bytes with
  | none => .error .badHeader
  | some cs => .ok (cs.reverse.dropWhile (· == '\r')).reverse

def readLength (length : Option Nat) (line : List Char) : Except WireError (Option Nat) :=
  if lengthMark.isPrefixOf line then
    match readUnsigned UInt64.size (trimmed (line.drop lengthMark.length)) with
    | .ok n => .ok (some n)
    | .error cause => .error (.badLength cause)
  else .ok length

def splitLine (bytes : Bytes) : Bytes × Bytes :=
  (bytes.takeWhile (· != newline), (bytes.dropWhile (· != newline)).drop 1)

theorem length_splitLine_lt (b : UInt8) (rest : Bytes) :
    (splitLine (b :: rest)).2.length < (b :: rest).length := by
  have := (List.dropWhile_suffix (· != newline) (l := b :: rest)).length_le
  simp only [splitLine, List.length_drop, List.length_cons] at *
  omega

/-- Reads header lines up to the empty one: the payload length, and the bytes from the payload on. -/
def readHeader (length : Option Nat) : Bytes → Except WireError (Option Nat × Bytes)
  | [] => .error .closed
  | b :: rest =>
    match lineText (splitLine (b :: rest)).1 with
    | .error e => .error e
    | .ok [] => .ok (length, (splitLine (b :: rest)).2)
    | .ok line =>
      match readLength length line with
      | .error e => .error e
      | .ok length => readHeader length (splitLine (b :: rest)).2
termination_by bytes => bytes.length
decreasing_by exact length_splitLine_lt b rest

def readPayload (payload : Bytes) : Except WireError Json :=
  match (decodeChars? payload).bind Json.readChars? with
  | some message => .ok message
  | none => .error .notJson

def readMessage (bytes : Bytes) : Except WireError (Json × Bytes) :=
  match readHeader none bytes with
  | .error e => .error e
  | .ok (none, _) => .error .noLength
  | .ok (some n, after) =>
    if after.length < n then .error .cutShort
    else (readPayload (after.take n)).map fun message => (message, after.drop n)

theorem length_lt_of_readHeader {bytes after : Bytes} {start length : Option Nat}
    (h : readHeader start bytes = .ok (length, after)) : after.length < bytes.length := by
  fun_induction readHeader start bytes with
  | case1 => cases h
  | case2 => cases h
  | case3 start b rest _ =>
    obtain ⟨_, rfl⟩ := Prod.mk.inj (Except.ok.inj h)
    exact length_splitLine_lt b rest
  | case4 => cases h
  | case5 start b rest line _ _ length' _ ih => exact Nat.lt_trans (ih h) (length_splitLine_lt b rest)

theorem length_lt_of_readMessage {bytes rest : Bytes} {message : Json}
    (h : readMessage bytes = .ok (message, rest)) : rest.length < bytes.length := by
  unfold readMessage at h
  split at h
  · cases h
  · cases h
  · next n after header =>
    have := length_lt_of_readHeader header
    split at h
    · cases h
    · cases payload : readPayload (after.take n) with
      | error e => simp [payload, Except.map] at h
      | ok m =>
        simp only [payload, Except.map, Except.ok.injEq, Prod.mk.injEq] at h
        rw [← h.2, List.length_drop]
        omega

/-- All messages up to the first fault, which is the end of the connection at the latest. -/
def readMessages (bytes : Bytes) : List Json × WireError :=
  match _h : readMessage bytes with
  | .error e => ([], e)
  | .ok (message, rest) =>
    let later := readMessages rest
    (message :: later.1, later.2)
termination_by bytes.length
decreasing_by exact length_lt_of_readMessage _h

end StoneDebug.Adapter
