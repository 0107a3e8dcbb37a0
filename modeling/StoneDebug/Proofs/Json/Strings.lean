import StoneDebug.Json.Read

/-! # JSON strings read back

Every string is read as it was written, whatever characters it has and whatever follows it.
-/

namespace StoneDebug.Json

open Text

theorem hexUnit?_digitChar : ∀ n < 32,
    hexUnit? '0' '0' (Nat.digitChar (n / 16)) (Nat.digitChar (n % 16)) = some n := by
  decide

theorem stringChar?_writeChar (c : Char) (rest : List Char) :
    stringChar? (writeChar c ++ rest) = some (c, rest) := by
  unfold writeChar
  split
  iterate 7 rfl
  next quote slash _ _ _ _ _ =>
    have escape : c ≠ '\\' := slash
    split
    · next control =>
        have code := hexUnit?_digitChar c.toNat control
        have high : isHighSurrogate c.toNat = false := by
          simp only [isHighSurrogate, Bool.and_eq_false_iff, decide_eq_false_iff_not]
          omega
        have low : isLowSurrogate c.toNat = false := by
          simp only [isLowSurrogate, Bool.and_eq_false_iff, decide_eq_false_iff_not]
          omega
        simp [stringChar?, code, high, low]
    · next visible =>
        rw [List.singleton_append]
        unfold stringChar?
        split
        · next same => exact absurd (List.head_eq_of_cons_eq same) escape
        · next same => exact absurd (List.head_eq_of_cons_eq same) escape
        · next same =>
            obtain ⟨rfl, rfl⟩ := List.cons.inj same
            have plain : ¬(decide (c.toNat < 0x20) || c == '\\') = true := by
              simpa [escape] using visible
            rw [if_neg plain]
        · next same => cases same

/-- Only the end of a string is written as a quote. -/
theorem head?_writeChar_ne (c : Char) (rest : List Char) :
    (writeChar c ++ rest).head? ≠ some '"' := by
  unfold writeChar
  split
  iterate 7 simp
  next quote _ _ _ _ _ _ =>
    split
    · simp
    · simpa using quote

theorem stringBody?_of_stringChar? {cs rest : List Char} {c : Char} (more : cs.head? ≠ some '"')
    (first : stringChar? cs = some (c, rest)) :
    stringBody? cs = (stringBody? rest).map fun (body, after) => (c :: body, after) := by
  rw [stringBody?.eq_def]
  split
  · contradiction
  · split
    · next fails =>
        rw [first] at fails
        cases fails
    · next same =>
        rw [first] at same
        obtain ⟨rfl, rfl⟩ := Prod.mk.inj (Option.some.inj same)
        rfl

theorem stringBody?_flatMap_writeChar (body rest : List Char) :
    stringBody? (body.flatMap writeChar ++ '"' :: rest) = some (body, rest) := by
  induction body with
  | nil => rw [List.flatMap_nil, List.nil_append, stringBody?]
  | cons c body ih =>
      rw [List.flatMap_cons, List.append_assoc,
        stringBody?_of_stringChar? (head?_writeChar_ne c _) (stringChar?_writeChar c _), ih]
      rfl

theorem token?_writeString (s : String) (rest : List Char) :
    token? '"' (s.toList.flatMap writeChar ++ '"' :: rest) = some (.atom (.string s), rest) := by
  rw [token?, stringBody?_flatMap_writeChar, Option.map_some]
  dsimp only
  rw [String.ofList_toList]

theorem tokens?_of_token? {c : Char} {rest after : List Char} {t : Token}
    (solid : isBlank c = false) (first : token? c rest = some (t, after)) :
    tokens? (c :: rest) = (tokens? after).map (t :: ·) := by
  rw [tokens?, if_neg (by rw [solid]; decide)]
  split
  · next fails =>
      rw [first] at fails
      cases fails
  · next same =>
      rw [first] at same
      obtain ⟨rfl, rfl⟩ := Prod.mk.inj (Option.some.inj same)
      rfl

/-- A written string is one token. -/
theorem tokens?_writeString (s : String) (rest : List Char) :
    tokens? (writeString s ++ rest) = (tokens? rest).map (.atom (.string s) :: ·) := by
  rw [writeString, List.append_assoc, List.cons_append]
  exact tokens?_of_token? rfl (token?_writeString s rest)

/-- An object with one string in it is read back. -/
theorem readChars?_one (key value : String) :
    readChars? (writeChars (.object [(key, .string value)])) =
      some (.object [(key, .string value)]) := by
  have text : writeChars (.object [(key, .string value)]) =
      '\x7b' :: (writeString key ++ ':' :: (writeString value ++ ['\x7d'])) := by
    simp [writeChars, writeMembers]
  rw [readChars?, text, tokens?_of_token? rfl rfl, tokens?_writeString, tokens?_of_token? rfl rfl,
    tokens?_writeString, tokens?_of_token? rfl rfl, tokens?]
  rfl

end StoneDebug.Json
