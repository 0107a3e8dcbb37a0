import StoneDebug.Adapter.Wire
import StoneDebug.Proofs.Json.Strings
import StoneDebug.Proofs.Text.Encoding

/-! # Frames read back

Messages sent one after another are read back in order, and then the connection is found closed.
The bytes of a payload are taken by their number, so that nothing in them is read as a line of
header, and each header is read up to its empty line, so that other lines in it do no harm.
-/

namespace StoneDebug.Adapter

open Text Utf8

/-! ## Lines -/

def lineBytes (text : List Char) : Bytes := encodeChars text ++ [newline]

theorem newline_not_mem_encodeChars {text : List Char} (oneLine : '\n' ∉ text) :
    newline ∉ encodeChars text := by
  intro member
  obtain ⟨c, present, written⟩ := List.mem_flatMap.mp member
  exact oneLine (eq_newline_of_mem_utf8EncodeChar written ▸ present)

theorem splitLine_lineBytes {text : List Char} (oneLine : '\n' ∉ text) (rest : Bytes) :
    splitLine (lineBytes text ++ rest) = (encodeChars text, rest) := by
  have inLine : ∀ b ∈ encodeChars text, (b != newline) = true := fun b member =>
    bne_iff_ne.mpr fun same => newline_not_mem_encodeChars oneLine (same ▸ member)
  rw [splitLine, lineBytes, List.append_assoc, List.takeWhile_append_of_pos inLine,
    List.dropWhile_append_of_pos inLine]
  simp [newline]

theorem lineText_encodeChars (text : List Char) :
    lineText (encodeChars text) = .ok (text.reverse.dropWhile (· == '\r')).reverse := by
  rw [lineText, decodeChars?_encodeChars]

/-- One carriage return before the end of the line is part of the end. -/
theorem lineText_append_return (cs : List Char) {c : Char} (solid : c ≠ '\r') :
    lineText (encodeChars (cs ++ [c] ++ ['\r'])) = .ok (cs ++ [c]) := by
  rw [lineText_encodeChars]
  simp [solid]

theorem readHeader_lineBytes {text : List Char} (oneLine : '\n' ∉ text) (length : Option Nat)
    (rest : Bytes) :
    readHeader length (lineBytes text ++ rest) =
      match lineText (encodeChars text) with
      | .error e => .error e
      | .ok [] => .ok (length, rest)
      | .ok line =>
        match readLength length line with
        | .error e => .error e
        | .ok length => readHeader length rest := by
  have split := splitLine_lineBytes oneLine rest
  obtain ⟨b, bytes, same⟩ : ∃ b bytes, lineBytes text ++ rest = b :: bytes :=
    List.exists_cons_of_ne_nil (by simp [lineBytes])
  rw [same] at split ⊢
  rewrite [readHeader, split]
  rfl

/-- After a line that is not empty, reading goes on with the length that it tells. -/
theorem readHeader_of_readLength {text line : List Char} {length told : Option Nat}
    (oneLine : '\n' ∉ text) (shown : lineText (encodeChars text) = .ok line) (notEmpty : line ≠ [])
    (tells : readLength length line = .ok told) (rest : Bytes) :
    readHeader length (lineBytes text ++ rest) = readHeader told rest := by
  obtain ⟨c, cs, rfl⟩ := List.exists_cons_of_ne_nil notEmpty
  rw [readHeader_lineBytes oneLine, shown]
  dsimp only
  rw [tells]

/-- The empty line ends the header. -/
theorem readHeader_empty (length : Option Nat) (rest : Bytes) :
    readHeader length (lineBytes ['\r'] ++ rest) = .ok (length, rest) := by
  rw [readHeader_lineBytes (by decide), lineText_encodeChars]
  rfl

/-! ## Lines without meaning -/

/-- A header line that does not tell the length: it is not empty without the carriage returns at its
end. -/
structure HeaderLine where
  text : List Char
  oneLine : '\n' ∉ text
  notEmpty : ∃ c ∈ text, c ≠ '\r'
  other : ¬lengthMark <+: text

def HeaderLine.bytes (line : HeaderLine) : Bytes := lineBytes line.text

theorem dropWhile_reverse_ne_nil {p : Char → Bool} {cs : List Char}
    (kept : ∃ c ∈ cs, p c = false) : (cs.reverse.dropWhile p).reverse ≠ [] := by
  obtain ⟨c, member, fails⟩ := kept
  intro empty
  have taken : cs.reverse.takeWhile p = cs.reverse := by
    have parts := List.takeWhile_append_dropWhile (p := p) (l := cs.reverse)
    rwa [List.reverse_eq_nil_iff.mp empty, List.append_nil] at parts
  have all : cs.reverse.all p = true := taken ▸ List.all_takeWhile
  have holds := List.all_eq_true.mp all c (List.mem_reverse.mpr member)
  exact absurd holds (by rw [fails]; decide)

theorem take_of_dropWhile_reverse (p : Char → Bool) (cs : List Char) :
    (cs.reverse.dropWhile p).reverse <+: cs := by
  have suffix := List.reverse_prefix.mpr (List.dropWhile_suffix p (l := cs.reverse))
  rwa [List.reverse_reverse] at suffix

theorem readHeader_other (line : HeaderLine) (length : Option Nat) (rest : Bytes) :
    readHeader length (line.bytes ++ rest) = readHeader length rest := by
  obtain ⟨c, member, solid⟩ := line.notEmpty
  have notEmpty := dropWhile_reverse_ne_nil (p := (· == '\r'))
    ⟨c, member, beq_eq_false_iff_ne.mpr solid⟩
  have mute : ¬lengthMark <+: (line.text.reverse.dropWhile (· == '\r')).reverse :=
    fun marked => line.other (marked.trans (take_of_dropWhile_reverse _ _))
  have tells : readLength length (line.text.reverse.dropWhile (· == '\r')).reverse = .ok length := by
    rw [readLength, if_neg (by rwa [ List.isPrefixOf_iff_prefix])]
  exact readHeader_of_readLength line.oneLine (lineText_encodeChars _) notEmpty tells rest

theorem readHeader_others (lines : List HeaderLine) (length : Option Nat) (rest : Bytes) :
    readHeader length (lines.flatMap HeaderLine.bytes ++ rest) = readHeader length rest := by
  induction lines with
  | nil => rfl
  | cons line lines ih =>
      rw [List.flatMap_cons, List.append_assoc, readHeader_other, ih]

/-! ## The length -/

def lengthText (n : Nat) : List Char := lengthMark ++ ' ' :: Nat.toDigits 10 n ++ ['\r']

theorem newline_not_mem_lengthText (n : Nat) : '\n' ∉ lengthText n := by
  have undigit : '\n' ∉ Nat.toDigits 10 n :=
    fun member => absurd (isDigit_of_mem_toDigits _ member) (by decide)
  have unmarked : '\n' ∉ lengthMark := by decide
  simp [lengthText, undigit, unmarked]

theorem lineText_lengthText (n : Nat) :
    lineText (encodeChars (lengthText n)) = .ok (lengthMark ++ ' ' :: Nat.toDigits 10 n) := by
  have digit := isDigit_of_mem_toDigits _ (List.getLast_mem (Nat.toDigits_ne_nil (b := 10) (n := n)))
  have solid : (Nat.toDigits 10 n).getLast Nat.toDigits_ne_nil ≠ '\r' := by
    intro same
    rw [same] at digit
    exact absurd digit (by decide)
  have parts := List.dropLast_concat_getLast (Nat.toDigits_ne_nil (b := 10) (n := n))
  rw [lengthText, ← parts]
  exact lineText_append_return (lengthMark ++ ' ' :: _) solid

theorem readLength_lengthText {n : Nat} (fits : n < UInt64.size) (length : Option Nat) :
    readLength length (lengthMark ++ ' ' :: Nat.toDigits 10 n) = .ok (some n) := by
  have marked : lengthMark.isPrefixOf (lengthMark ++ ' ' :: Nat.toDigits 10 n) = true :=
    List.isPrefixOf_iff_prefix.mpr (List.prefix_append _ _)
  rw [readLength, if_pos marked, List.drop_left, trimmed_space_cons isDigit_of_mem_toDigits,
    readUnsigned_toDigits fits]

theorem readHeader_length {n : Nat} (fits : n < UInt64.size) (length : Option Nat) (rest : Bytes) :
    readHeader length (lineBytes (lengthText n) ++ rest) = readHeader (some n) rest :=
  readHeader_of_readLength (newline_not_mem_lengthText n) (lineText_lengthText n)
    (List.append_ne_nil_of_left_ne_nil (by decide) _) (readLength_lengthText fits length) rest

/-- The header as it is sent is the length and the empty line. -/
theorem encode_header (n : Nat) : encode s!"Content-Length: {n}\r\n\r\n" =
    lineBytes (lengthText n) ++ lineBytes ['\r'] := by
  have mark : "Content-Length: ".toList = lengthMark ++ [' '] := by decide
  have ends : "\r\n\r\n".toList = ['\r', '\n', '\r', '\n'] := by decide
  have text : ("Content-Length: " ++ toString n ++ "\r\n\r\n").toList =
      lengthText n ++ ['\n'] ++ ['\r', '\n'] := by
    rw [String.toList_append, String.toList_append, Nat.toString_eq_repr, Nat.toList_repr, mark, ends]
    simp only [lengthText, List.append_assoc, List.cons_append, List.nil_append]
  calc encode ("Content-Length: " ++ toString n ++ "\r\n\r\n")
      = encodeChars (lengthText n ++ ['\n'] ++ ['\r', '\n']) := congrArg encodeChars text
    _ = encodeChars (lengthText n ++ ['\n']) ++ encodeChars ['\r', '\n'] := encodeChars_append ..
    _ = encodeChars (lengthText n) ++ encodeChars ['\n'] ++ encodeChars ['\r', '\n'] := by
      rw [encodeChars_append]

/-! ## Messages -/

/-- A message with other header lines before and after the one that tells the length. -/
structure Framed where
  message : Json
  before : List HeaderLine
  after : List HeaderLine

namespace Framed

def payload (f : Framed) : Bytes := encodeChars f.message.writeChars

def bytes (f : Framed) : Bytes :=
  f.before.flatMap HeaderLine.bytes ++ lineBytes (lengthText f.payload.length) ++
    f.after.flatMap HeaderLine.bytes ++ lineBytes ['\r'] ++ f.payload

def plain (message : Json) : Framed := ⟨message, [], []⟩

theorem bytes_plain (message : Json) : (plain message).bytes = encodeMessage message := by
  rw [encodeMessage, frame, encode_header]
  simp only [bytes, plain, payload, List.flatMap_nil, List.nil_append, List.append_nil]

variable {f : Framed}

theorem readHeader_bytes (fits : f.payload.length < UInt64.size) (rest : Bytes) :
    readHeader none (f.bytes ++ rest) = .ok (some f.payload.length, f.payload ++ rest) := by
  simp only [bytes, List.append_assoc]
  rw [readHeader_others, readHeader_length fits, readHeader_others, readHeader_empty]

/-- A frame is read as its message, and exactly what follows it is left. -/
theorem readMessage_bytes (parses : Json.readChars? f.message.writeChars = some f.message)
    (fits : f.payload.length < UInt64.size) (rest : Bytes) :
    readMessage (f.bytes ++ rest) = .ok (f.message, rest) := by
  have value : readPayload f.payload = .ok f.message := by
    rw [readPayload, payload, decodeChars?_encodeChars, Option.bind_some, parses]
  have long : ¬(f.payload ++ rest).length < f.payload.length := by
    rw [List.length_append]
    omega
  rw [readMessage, readHeader_bytes fits]
  dsimp only
  rw [if_neg long, List.take_left, List.drop_left, value]
  rfl

end Framed

theorem readMessages_nil : readMessages [] = ([], .closed) := by
  have ended : readMessage [] = .error .closed := by
    rw [readMessage, readHeader]
  rw [readMessages, ended]

theorem readMessages_of_ok {bytes rest : Bytes} {message : Json}
    (read : readMessage bytes = .ok (message, rest)) :
    readMessages bytes = (message :: (readMessages rest).1, (readMessages rest).2) := by
  rw [readMessages]
  split
  · next failed =>
      rw [read] at failed
      cases failed
  · next same =>
      rw [read] at same
      obtain ⟨rfl, rfl⟩ := Prod.mk.inj (Except.ok.inj same)
      rfl

/-- Frames one after another, with any other lines in their headers, are read as their messages in
order, and then the connection is found closed. -/
theorem readMessages_flatMap_bytes (frames : List Framed)
    (parses : ∀ f ∈ frames, Json.readChars? f.message.writeChars = some f.message)
    (fits : ∀ f ∈ frames, f.payload.length < UInt64.size) :
    readMessages (frames.flatMap Framed.bytes) = (frames.map Framed.message, .closed) := by
  induction frames with
  | nil => exact readMessages_nil
  | cons f frames ih =>
      have first := Framed.readMessage_bytes (parses f (List.mem_cons_self ..))
        (fits f (List.mem_cons_self ..)) (frames.flatMap Framed.bytes)
      have later := ih (fun f member => parses f (List.mem_cons_of_mem _ member))
        (fun f member => fits f (List.mem_cons_of_mem _ member))
      rw [List.flatMap_cons, readMessages_of_ok first, later, List.map_cons]

/-- What is sent is read back: as the messages were sent, and with any other lines in the headers.
That a message is what its own text is parsed as is taken for granted, and that the text is not
longer than memory is. -/
theorem readMessages_sent (frames : List Framed)
    (parses : ∀ f ∈ frames, Json.readChars? f.message.writeChars = some f.message)
    (fits : ∀ f ∈ frames, f.payload.length < UInt64.size) :
    readMessages ((frames.map Framed.message).flatMap encodeMessage) =
        (frames.map Framed.message, .closed) ∧
      readMessages (frames.flatMap Framed.bytes) = (frames.map Framed.message, .closed) := by
  refine ⟨?_, readMessages_flatMap_bytes frames parses fits⟩
  let plains := frames.map fun f => Framed.plain f.message
  have sent : (frames.map Framed.message).flatMap encodeMessage = plains.flatMap Framed.bytes := by
    simp only [plains, List.flatMap_map, Framed.bytes_plain]
  have messages : plains.map Framed.message = frames.map Framed.message := List.map_map
  rw [sent, ← messages]
  apply readMessages_flatMap_bytes
  · intro p member
    obtain ⟨f, framed, rfl⟩ := List.mem_map.mp member
    exact parses f framed
  · intro p member
    obtain ⟨f, framed, rfl⟩ := List.mem_map.mp member
    exact fits f framed

/-- A payload with line breaks, with the mark of a header and with characters of several bytes. -/
def awkwardMessage : Json :=
  .object [("output", .string "größe ≤ 1 🙂\r\n\r\nContent-Length: 1\r\n\r\n{}")]

theorem readMessages_awkward :
    let charset : HeaderLine :=
      ⟨"Content-Type: utf-8\r".toList, by decide, ⟨'C', by decide, by decide⟩, by decide⟩
    let frames : List Framed :=
      [⟨awkwardMessage, [charset], [charset, charset]⟩, ⟨awkwardMessage, [], []⟩]
    readMessages ((frames.map Framed.message).flatMap encodeMessage) =
        ([awkwardMessage, awkwardMessage], .closed) ∧
      readMessages (frames.flatMap Framed.bytes) = ([awkwardMessage, awkwardMessage], .closed) := by
  intro charset frames
  have each {p : Framed → Prop} (first : p ⟨awkwardMessage, [charset], [charset, charset]⟩)
      (second : p ⟨awkwardMessage, [], []⟩) : ∀ f ∈ frames, p f :=
    List.forall_mem_cons.mpr ⟨first, List.forall_mem_singleton.mpr second⟩
  exact readMessages_sent frames (each (Json.readChars?_one _ _) (Json.readChars?_one _ _))
    (each (by cbv) (by cbv))

end StoneDebug.Adapter
