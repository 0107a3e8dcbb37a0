import Mathlib.Data.List.TakeDrop
import Mathlib.Data.List.TakeWhile
import StoneDebug.Proofs.Source.Cursor
import StoneDebug.Proofs.Source.Locations

/-! # Keywords in their text

A sibling keyword stands in the text at its offset: a name with its colon that begins no assignment.
The token of a step point there is read from a window of the text, so it is the same keyword as long as
the keyword fits the window. A longer one loses its end, and with the colon its being a keyword.
-/

namespace StoneDebug.Source

open Grammar

section

variable {source rest tail token : List Char} {start offset window : Nat} {c : Char} {lex : Lexeme}

/-! ## Lexemes at their offsets -/

/-- The lexeme at an offset begins there in the text. -/
theorem begins_of_mem_lexemes (start : Nat)
    (member : (offset, lex) ∈ lexemes start (source.drop start)) :
    ∃ c rest, source.drop offset = c :: rest ∧ (lexeme c rest).1 = lex := by
  cases eq : source.drop start with
  | nil =>
      rw [eq, lexemes] at member
      cases member
  | cons c rest =>
      obtain ⟨next, -, later, there⟩ := Cursor.lexes_lexemeAt eq
      have inside := (Cursor.of_drop_eq_cons eq).1
      rw [Cursor.lexemes_of_lexes eq later there] at member
      rcases List.mem_cons.mp member with here | behind
      · cases here
        exact ⟨c, rest, eq, rfl⟩
      · exact begins_of_mem_lexemes next behind
termination_by source.length - start

theorem pairwise_lexemes (start : Nat) (cs : List Char) :
    (lexemes start cs).Pairwise fun a b => a.1 < b.1 := by
  fun_induction lexemes start cs with
  | case1 => exact .nil
  | case2 start c rest after ih =>
      have shorter : after.length ≤ rest.length := length_lexeme_le c rest
      refine List.pairwise_cons.mpr ⟨fun later member => ?_, ih⟩
      have := (bounds_of_mem_lexemes member).1
      dsimp only
      omega

theorem afterHash_ne_keyword (cs : List Char) : (afterHash cs).1 ≠ .keyword token := by
  fun_cases afterHash cs <;> simp

theorem not_special_of_keyword (eq : (lexeme c rest).1 = .keyword token) : c ∉ specials := by
  intro member
  simp only [specials, List.mem_cons, List.not_mem_nil, or_false] at member
  rcases member with rfl | rfl | rfl | rfl | rfl | rfl | rfl | rfl | rfl | rfl | rfl | rfl | rfl
  case inr.inr.inr.inl => exact afterHash_ne_keyword rest eq
  all_goals cases eq

theorem exists_of_atKeywordColon {cs : List Char} (colon : atKeywordColon cs = true) :
    ∃ tail, cs = ':' :: tail ∧ ∀ d ∈ tail.head?, d ≠ '=' := by
  rw [Cursor.atKeywordColon_eq, Bool.and_eq_true, beq_iff_eq, bne_iff_ne] at colon
  obtain ⟨tail, rfl⟩ := List.head?_eq_some_iff.mp colon.1
  refine ⟨tail, rfl, fun d first same => colon.2 ?_⟩
  rw [List.tail_cons, Option.mem_def.mp first, same]

/-- Only a name with its colon is a keyword, and only where no equals sign follows. -/
theorem exists_name_of_keyword (eq : (lexeme c rest).1 = .keyword token) :
    ∃ (n : Name) (tail : List Char), token = keywordText n ∧ c :: rest = keywordText n ++ tail ∧
      ∀ d ∈ tail.head?, d ≠ '=' := by
  rw [lexeme_of_not_special (not_special_of_keyword eq)] at eq
  split at eq
  · cases eq
  split at eq
  · next starts =>
      split at eq
      · next colon =>
          obtain ⟨tail, behind, stops⟩ := exists_of_atKeywordColon colon
          let n : Name :=
            ⟨c, rest.takeWhile isIdentPart, starts, fun d member => List.mem_takeWhile_imp member⟩
          have whole : c :: rest = keywordText n ++ tail := by
            rw [keywordText, Name.text, List.append_assoc, List.singleton_append, ← behind,
              List.cons_append, List.takeWhile_append_dropWhile]
          refine ⟨n, tail, ?_, whole, stops⟩
          rw [← identToken_keywordText n stops, ← whole]
          exact (Lexeme.keyword.inj eq).symm
      · cases eq
  · cases eq

/-! ## Keywords at their offsets -/

/-- The token stands in the text at the offset, and is an identifier with a colon that does not begin an
assignment. -/
structure KeywordAt (source : List Char) (offset : Nat) (token : List Char) : Prop where
  present : (source.drop offset).take token.length = token
  starts : ∃ c ∈ token.head?, isIdentStart c = true
  goesOn : ∀ c ∈ token.dropLast, isIdentPart c = true
  ends : token.getLast? = some ':'
  assignsNothing : source[offset + token.length]? ≠ some '='

theorem keywordAt_of_name (n : Name) (there : source.drop offset = keywordText n ++ tail)
    (stops : ∀ d ∈ tail.head?, d ≠ '=') : KeywordAt source offset (keywordText n) where
  present := by rw [there, List.take_left]
  starts := ⟨n.first, rfl, n.starts⟩
  goesOn := by
    rw [keywordText, List.dropLast_concat]
    exact n.isIdentPart_of_mem
  ends := List.getLast?_concat
  assignsNothing := fun assigns => by
    rw [← List.head?_drop, ← List.drop_drop, there, List.drop_left] at assigns
    exact stops '=' assigns rfl

theorem name_of_sibling (member : (offset, token) ∈ siblingKeywords source start) :
    ∃ (n : Name) (tail : List Char), token = keywordText n ∧ source.drop offset = keywordText n ++ tail ∧
      ∀ d ∈ tail.head?, d ≠ '=' := by
  obtain ⟨c, rest, here, keyword⟩ := begins_of_mem_lexemes start (mem_of_mem_siblings member)
  obtain ⟨n, tail, eq, whole, stops⟩ := exists_name_of_keyword keyword
  exact ⟨n, tail, eq, here.trans whole, stops⟩

theorem keywordAt_of_sibling (member : (offset, token) ∈ siblingKeywords source start) :
    KeywordAt source offset token := by
  obtain ⟨n, tail, rfl, there, stops⟩ := name_of_sibling member
  exact keywordAt_of_name n there stops

theorem pairwise_siblingKeywords (source : List Char) (start : Nat) :
    (siblingKeywords source start).Pairwise fun a b => a.1 < b.1 := by
  have lexed : ((siblingKeywords source start).map fun s => (s.1, Lexeme.keyword s.2)).Pairwise
      fun a b => a.1 < b.1 :=
    (pairwise_lexemes start (source.drop start)).sublist (siblings_sublist 0 _)
  rwa [List.pairwise_map] at lexed

/-! ## Read through a window -/

theorem tokenAt_name (n : Name) (window : Nat) : tokenAt (n.text.take window) = n.text.take window := by
  cases window with
  | zero => rfl
  | succ window =>
      have part : ∀ c ∈ n.text.take (window + 1), isIdentPart c = true := fun c member =>
        n.isIdentPart_of_mem c (List.mem_of_mem_take member)
      rw [Name.text, List.take_succ_cons] at part ⊢
      rw [tokenAt, if_pos n.starts, identToken, List.dropWhile_eq_nil_iff.mpr part,
        List.takeWhile_eq_self_iff.mpr part]
      rfl

theorem take_keywordText (n : Name) (short : window < (keywordText n).length) :
    (keywordText n).take window = n.text.take window := by
  rw [keywordText, List.length_append, List.length_singleton] at short
  rw [keywordText, List.take_append_of_le_length (by omega)]

/-- Of a keyword as much is read as the window shows. -/
theorem tokenAt_keyword (n : Name) (stops : ∀ d ∈ tail.head?, d ≠ '=') (window : Nat) :
    tokenAt ((keywordText n ++ tail).take window) = (keywordText n).take window := by
  rcases Nat.lt_or_ge window (keywordText n).length with short | whole
  · -- The window ends in the name, and all that it shows goes on with the identifier.
    rw [List.take_append_of_le_length (Nat.le_of_lt short), take_keywordText n short, tokenAt_name]
  · have stops : ∀ d ∈ (tail.take (window - (keywordText n).length)).head?, d ≠ '=' := by
      rw [List.head?_take]
      split
      · nofun
      · exact stops
    rw [List.take_append, List.take_of_length_le whole]
    calc tokenAt (keywordText n ++ tail.take (window - (keywordText n).length))
        = identToken (keywordText n ++ tail.take (window - (keywordText n).length)) := if_pos n.starts
      _ = keywordText n := identToken_keywordText n stops

theorem isKeyword_of_take (n : Name) (stepPoint : Nat) :
    StepToken.isKeyword ⟨stepPoint, offset, (keywordText n).take window⟩ = true ↔
      (keywordText n).length ≤ window := by
  rw [StepToken.isKeyword, beq_iff_eq]
  constructor
  · intro keyword
    refine Nat.le_of_not_lt fun short => ?_
    rw [take_keywordText n short] at keyword
    have member := List.mem_of_mem_take (List.mem_of_getLast? keyword)
    exact absurd (n.isIdentPart_of_mem ':' member) (by decide)
  · intro whole
    rw [List.take_of_length_le whole]
    exact List.getLast?_concat

end

/-- The token of a step point at the offset of a sibling keyword is the keyword as far as the window
reaches. So it is the same token, and a keyword at all, exactly if the keyword fits the window. -/
theorem token_of_sibling {source token : List Char} {start offset : Nat} (stepPoint : Nat)
    (member : (offset, token) ∈ siblingKeywords source start) :
    let read := StepToken.at source stepPoint offset
    read = ⟨stepPoint, offset, token.take tokenWindow⟩ ∧
      (read.selector = token ↔ token.length ≤ tokenWindow) ∧
      (read.isKeyword = true ↔ token.length ≤ tokenWindow) := by
  intro read
  obtain ⟨n, tail, rfl, there, stops⟩ := name_of_sibling member
  have eq : read = ⟨stepPoint, offset, (keywordText n).take tokenWindow⟩ := by
    simp only [read, StepToken.at, there, tokenAt_keyword n stops]
  rw [eq]
  exact ⟨rfl, List.take_eq_self_iff _, isKeyword_of_take n stepPoint⟩

/-- The keyword after an argument in brackets, which hold a keyword of their own. -/
theorem token_of_sibling_put :
    let source := "d at: (e at: 1) put: 2".toList
    (16, "put:".toList) ∈ siblingKeywords source 5 ∧
      (StepToken.at source 1 16).selector = "put:".toList := by
  intro source
  have member : (16, "put:".toList) ∈ siblingKeywords source 5 := by decide +kernel
  exact ⟨member, (token_of_sibling 1 member).2.1.mpr (by decide)⟩

/-- A name of as many characters as the window has: its colon is outside. -/
theorem sibling_cut :
    let name := List.replicate tokenWindow 'a'
    let source := "x: 1 ".toList ++ (name ++ ": 2".toList)
    (5, name ++ [':']) ∈ siblingKeywords source 2 ∧
      (StepToken.at source 1 5).selector = name ∧ (StepToken.at source 1 5).selector ≠ name ++ [':'] := by
  decide +kernel

/-! ## Any text -/

/-- Whatever the text and the start are, the scan by position does not leave the text and is over after
at most one turn for each character; the keywords it finds are in the text, in their order and not
before the start. An expansion keeps the tokens it was given and adds siblings of their keywords. -/
theorem siblingKeywords_safe (source : List Char) (start : Nat) (tokens : List StepToken) :
    Cursor.scan source (source.length - start) 0 start = some (siblingKeywords source start) ∧
      (siblingKeywords source start).Pairwise (fun a b => a.1 < b.1) ∧
      (∀ offset token, (offset, token) ∈ siblingKeywords source start →
        start ≤ offset ∧ KeywordAt source offset token) ∧
      ∃ added, expandKeywords source tokens = tokens ++ added ∧
        ∀ t ∈ added, ∃ own ∈ tokens, own.isKeyword = true ∧ t.stepPoint = own.stepPoint ∧
          (t.offset, t.selector) ∈ siblingKeywords source (own.offset + own.selector.length) :=
  ⟨Cursor.scan_eq source _ 0 start (by omega), pairwise_siblingKeywords source start,
    fun _ _ member => ⟨le_of_mem_siblingKeywords member, keywordAt_of_sibling member⟩,
    _, rfl, fun _ => sibling_of_mem_added⟩

/-- A string and a bracket that are not closed. -/
theorem siblingKeywords_safe_unclosed :
    let source := "d at: $' put: #[1 from: 'x".toList
    let own : StepToken := ⟨3, 2, "at:".toList⟩
    let sibling : StepToken := ⟨3, 9, "put:".toList⟩
    Cursor.scan source (source.length - 5) 0 5 = some [(9, "put:".toList)] ∧
      (9, "put:".toList) ∈ siblingKeywords source 5 ∧ KeywordAt source 9 "put:".toList ∧
      ∃ added, expandKeywords source [own] = [own] ++ added ∧ sibling ∈ added ∧
        sibling.stepPoint = own.stepPoint := by
  intro source own sibling
  have found : siblingKeywords source 5 = [(9, "put:".toList)] := by decide +kernel
  have expanded : expandKeywords source [own] = [own, sibling] := by decide +kernel
  have member : (9, "put:".toList) ∈ siblingKeywords source 5 := found ▸ List.mem_cons_self
  obtain ⟨scanned, -, stands, added, eq, siblings⟩ := siblingKeywords_safe source 5 [own]
  obtain rfl : added = [sibling] := List.append_cancel_left (eq.symm.trans expanded)
  obtain ⟨own', given, -, stepPoint, -⟩ := siblings sibling List.mem_cons_self
  obtain rfl : own' = own := List.mem_singleton.mp given
  exact ⟨found ▸ scanned, member, (stands 9 _ member).2, _, eq, List.mem_cons_self, stepPoint⟩

end StoneDebug.Source
