/-
  The tokens of settings documents, and how characters spell them.

  `Reads toks cs rest` says that the characters `cs` spell the tokens, with blanks in front
  of each where the writer likes, and go on with `rest`.  The readers of single tokens are
  related to it here (`expect_mark_eq_ok_iff`, `string_eq_ok_iff`, `flagValue_eq_ok_iff`,
  `key?_eq_ok_none_iff`, `key?_eq_ok_some_iff`); those of larger parts are composed of them,
  as sequences of tokens are by `reads_append_iff`.
-/
import Mathlib
import Spirv.Proofs.Except
import Spirv.Proofs.Json.Literal
import Spirv.Settings.Reader

namespace Spirv.Settings

/-! ## Tokens -/

/-- The punctuation marks of a document. -/
inductive Mark where
  | leftBrace
  | rightBrace
  | leftBracket
  | rightBracket
  | colon
  | comma
  deriving DecidableEq

/-- The character of a mark. -/
def Mark.char : Mark → Char
  | leftBrace => '{'
  | rightBrace => '}'
  | leftBracket => '['
  | rightBracket => ']'
  | colon => ':'
  | comma => ','

/-- The tokens of a document. -/
inductive Token where
  | mark (mark : Mark)
  | string (text : String)
  | null
  | flag (value : Bool)

/-- The ways to spell a token. -/
inductive Token.Spelled : Token → List Char → Prop where
  | mark (mark : Mark) : Spelled (.mark mark) [mark.char]
  | string {text : String} {body : List Char} (h : Json.Body text.toList body) :
      Spelled (.string text) ('"' :: (body ++ ['"']))
  | null : Spelled .null ['n', 'u', 'l', 'l']
  | true : Spelled (.flag true) ['t', 'r', 'u', 'e']
  | false : Spelled (.flag false) ['f', 'a', 'l', 's', 'e']

/-- Spaces, tabs and line ends only. -/
def Blank (cs : List Char) : Prop :=
  ∀ c ∈ cs, c ∈ [' ', '\t', '\n', '\r']

/-- The characters spell the tokens and go on with the rest. -/
inductive Reads : List Token → List Char → List Char → Prop where
  | nil (rest : List Char) : Reads [] rest rest
  | cons {t : Token} {toks : List Token} {blanks lexeme cs rest : List Char}
      (hblanks : Blank blanks) (ht : t.Spelled lexeme) (h : Reads toks cs rest) :
      Reads (t :: toks) (blanks ++ (lexeme ++ cs)) rest

/-! ## Blanks -/

theorem isBlank_iff {c : Char} : isBlank c = true ↔ c ∈ [' ', '\t', '\n', '\r'] := by
  simp [isBlank, or_assoc]

theorem skipBlank_blank_append {blanks : List Char} (h : Blank blanks) (cs : List Char) :
    skipBlank (blanks ++ cs) = skipBlank cs := by
  induction blanks with
  | nil => rfl
  | cons c blanks ih =>
    have hc : isBlank c = true := isBlank_iff.2 (h c List.mem_cons_self)
    have htail : Blank blanks := fun d hd => h d (List.mem_cons_of_mem c hd)
    rw [List.cons_append, skipBlank, List.dropWhile_cons_of_pos hc]
    exact ih htail

theorem exists_blank_append_skipBlank (cs : List Char) :
    ∃ blanks, Blank blanks ∧ cs = blanks ++ skipBlank cs := by
  refine ⟨cs.takeWhile isBlank, ?_, List.takeWhile_append_dropWhile.symm⟩
  intro c hc
  exact isBlank_iff.1 (List.mem_takeWhile_imp hc)

@[simp] theorem skipBlank_skipBlank (cs : List Char) : skipBlank (skipBlank cs) = skipBlank cs :=
  List.dropWhile_idempotent isBlank cs

theorem isEmpty_skipBlank_iff {cs : List Char} : (skipBlank cs).isEmpty = true ↔ Blank cs := by
  simp only [skipBlank, List.isEmpty_iff, List.dropWhile_eq_nil_iff, isBlank_iff, Blank]

/-! ## Reading tokens -/

/-- No token begins with a blank. -/
theorem Token.Spelled.skipBlank_append {t : Token} {lexeme : List Char} (h : t.Spelled lexeme)
    (cs : List Char) : skipBlank (lexeme ++ cs) = lexeme ++ cs := by
  cases h with
  | mark mark => cases mark <;> rfl
  | string hbody => rfl
  | null => rfl
  | true => rfl
  | false => rfl

@[simp] theorem reads_nil_iff {cs rest : List Char} : Reads [] cs rest ↔ cs = rest := by
  constructor
  · intro h
    cases h
    rfl
  · rintro rfl
    exact .nil cs

/-- The next token is what comes after the blanks. -/
theorem reads_cons_iff_spelled {t : Token} {toks : List Token} {cs rest : List Char} :
    Reads (t :: toks) cs rest ↔
      ∃ lexeme mid, t.Spelled lexeme ∧ skipBlank cs = lexeme ++ mid ∧ Reads toks mid rest := by
  constructor
  · intro h
    cases h with
    | cons hblanks ht h =>
      refine ⟨_, _, ht, ?_, h⟩
      rw [skipBlank_blank_append hblanks, ht.skipBlank_append]
  · rintro ⟨lexeme, mid, ht, hcs, h⟩
    obtain ⟨blanks, hblanks, hsplit⟩ := exists_blank_append_skipBlank cs
    rw [hsplit, hcs]
    exact .cons hblanks ht h

theorem reads_singleton_iff {t : Token} {cs rest : List Char} :
    Reads [t] cs rest ↔ ∃ lexeme, t.Spelled lexeme ∧ skipBlank cs = lexeme ++ rest := by
  rw [reads_cons_iff_spelled]
  simp only [reads_nil_iff]
  constructor
  · rintro ⟨lexeme, _, ht, hcs, rfl⟩
    exact ⟨lexeme, ht, hcs⟩
  · rintro ⟨lexeme, ht, hcs⟩
    exact ⟨lexeme, rest, ht, hcs, rfl⟩

/-- Tokens are read one after the other. -/
theorem reads_append_iff {toks toks' : List Token} {cs rest : List Char} :
    Reads (toks ++ toks') cs rest ↔ ∃ mid, Reads toks cs mid ∧ Reads toks' mid rest := by
  induction toks generalizing cs with
  | nil => simp
  | cons t toks ih =>
    simp only [List.cons_append, reads_cons_iff_spelled, ih]
    constructor
    · rintro ⟨lexeme, mid, ht, hcs, mid', h, h'⟩
      exact ⟨mid', ⟨lexeme, mid, ht, hcs, h⟩, h'⟩
    · rintro ⟨mid', ⟨lexeme, mid, ht, hcs, h⟩, h'⟩
      exact ⟨lexeme, mid, ht, hcs, mid', h, h'⟩

theorem reads_cons_cons_iff {t t' : Token} {toks : List Token} {cs rest : List Char} :
    Reads (t :: t' :: toks) cs rest ↔ ∃ mid, Reads [t] cs mid ∧ Reads (t' :: toks) mid rest :=
  @reads_append_iff [t] (t' :: toks) cs rest

/-- Blanks in front of the first token do not matter. -/
theorem reads_skipBlank_iff {t : Token} {toks : List Token} {cs rest : List Char} :
    Reads (t :: toks) (skipBlank cs) rest ↔ Reads (t :: toks) cs rest := by
  rw [reads_cons_iff_spelled, reads_cons_iff_spelled, skipBlank_skipBlank]

theorem reads_mark_iff {mark : Mark} {toks : List Token} {cs rest : List Char} :
    Reads (.mark mark :: toks) cs rest ↔
      ∃ mid, skipBlank cs = mark.char :: mid ∧ Reads toks mid rest := by
  rw [reads_cons_iff_spelled]
  constructor
  · rintro ⟨_, mid, ht, hcs, h⟩
    cases ht
    exact ⟨mid, hcs, h⟩
  · rintro ⟨mid, hcs, h⟩
    exact ⟨_, mid, .mark mark, hcs, h⟩

/-- A bracket that closes an array is no other token. -/
theorem Reads.skipBlank_ne_rightBracket {t : Token} {toks : List Token} {cs rest : List Char}
    (h : Reads (t :: toks) cs rest) (ht : t ≠ .mark .rightBracket) (behind : List Char) :
    skipBlank cs ≠ ']' :: behind := by
  intro hcs
  obtain ⟨lexeme, mid, hspelled, hcs', -⟩ := reads_cons_iff_spelled.1 h
  rw [hcs] at hcs'
  cases hspelled with
  | mark mark =>
    have hchar : ']' = mark.char := (List.cons.inj hcs').1
    cases mark with
    | rightBracket => exact ht rfl
    | leftBrace | rightBrace | leftBracket | colon | comma => cases hchar
  | string => cases hcs'
  | null => cases hcs'
  | true => cases hcs'
  | false => cases hcs'

/-! ## Readers of tokens -/

theorem expect_eq_ok_iff {c : Char} {cs rest : List Char} :
    expect c cs = .ok rest ↔ skipBlank cs = c :: rest := by
  unfold expect
  split
  · rename_i d tail hcs
    rw [hcs, List.cons.injEq]
    split_ifs with hd
    · simp [hd]
    · simp [hd]
  · rename_i hcs
    simp [hcs]

theorem expect_mark_eq_ok_iff {mark : Mark} {cs rest : List Char} :
    expect mark.char cs = .ok rest ↔ Reads [.mark mark] cs rest := by
  rw [expect_eq_ok_iff, reads_mark_iff]
  simp

theorem expectWord_eq_ok_iff {word cs rest : List Char} :
    expectWord word cs = .ok rest ↔ cs = word ++ rest := by
  unfold expectWord
  split_ifs with hword
  · obtain ⟨tail, rfl⟩ := List.isPrefixOf_iff_prefix.1 hword
    simp
  · simp only [false_iff]
    rintro rfl
    exact hword (List.isPrefixOf_iff_prefix.2 (List.prefix_append word rest))

theorem reads_string_iff {text : String} {toks : List Token} {cs rest : List Char} :
    Reads (.string text :: toks) cs rest ↔ ∃ mid mid', skipBlank cs = '"' :: mid ∧
      Json.readString mid = some (text.toList, mid') ∧ Reads toks mid' rest := by
  rw [reads_cons_iff_spelled]
  constructor
  · rintro ⟨_, mid', ht, hcs, h⟩
    cases ht with
    | string hbody =>
      rename_i body
      refine ⟨body ++ '"' :: mid', mid', by simpa using hcs, ?_, h⟩
      exact Json.readString_eq_some_iff.2 ⟨body, hbody, rfl⟩
  · rintro ⟨_, mid', hcs, hread, h⟩
    obtain ⟨body, hbody, rfl⟩ := Json.readString_eq_some_iff.1 hread
    exact ⟨_, mid', .string hbody, by simpa using hcs, h⟩

theorem string_eq_ok_iff {text : String} {cs rest : List Char} :
    string cs = .ok (text, rest) ↔ Reads [.string text] cs rest := by
  unfold string
  rw [bind_eq_ok_iff, reads_string_iff]
  simp only [expect_eq_ok_iff, reads_nil_iff]
  refine exists_congr fun mid => ?_
  cases hread : Json.readString mid with
  | none => simp
  | some result =>
    obtain ⟨text', rest'⟩ := result
    have htext : String.ofList text' = text ↔ text' = text.toList := by
      constructor
      · rintro rfl
        exact String.toList_ofList.symm
      · rintro rfl
        exact String.ofList_toList
    simp [htext]

theorem expectWord_null_eq_ok_iff {cs rest : List Char} :
    expectWord ['n', 'u', 'l', 'l'] (skipBlank cs) = .ok rest ↔ Reads [.null] cs rest := by
  rw [expectWord_eq_ok_iff, reads_singleton_iff]
  constructor
  · intro hcs
    exact ⟨_, .null, hcs⟩
  · rintro ⟨_, ht, hcs⟩
    cases ht
    exact hcs

theorem flagValue_eq_ok_iff {flag : Bool} {cs rest : List Char} :
    flagValue cs = .ok (flag, rest) ↔ Reads [.flag flag] cs rest := by
  rw [reads_singleton_iff]
  unfold flagValue
  constructor
  · intro h
    split at h
    · rename_i tail hcs
      obtain ⟨rest', hword, hok⟩ := bind_eq_ok_iff.1 h
      cases hok
      rw [expectWord_eq_ok_iff.1 hword] at hcs
      exact ⟨_, .true, hcs⟩
    · rename_i tail hcs
      obtain ⟨rest', hword, hok⟩ := bind_eq_ok_iff.1 h
      cases hok
      rw [expectWord_eq_ok_iff.1 hword] at hcs
      exact ⟨_, .false, hcs⟩
    · cases h
  · rintro ⟨_, ht, hcs⟩
    cases ht with
    | true =>
      rw [hcs]
      exact bind_eq_ok_iff.2 ⟨rest, expectWord_eq_ok_iff.2 rfl, rfl⟩
    | false =>
      rw [hcs]
      exact bind_eq_ok_iff.2 ⟨rest, expectWord_eq_ok_iff.2 rfl, rfl⟩

/-- What stands before a key: a comma, unless the key is the first. -/
def lead (first : Bool) : List Token :=
  if first then [] else [.mark .comma]

theorem bind_string_eq_ok_iff {found : Option String} {cs rest : List Char} :
    (do
      let (key, rest) ← string cs
      .ok (some key, rest) : Reading (Option String × List Char)) = .ok (found, rest) ↔
      ∃ key, found = some key ∧ Reads [.string key] cs rest := by
  rw [bind_eq_ok_iff]
  simp only [← string_eq_ok_iff]
  constructor
  · rintro ⟨⟨key, _⟩, hstring, hok⟩
    cases hok
    exact ⟨key, rfl, hstring⟩
  · rintro ⟨key, rfl, hstring⟩
    exact ⟨(key, rest), hstring, rfl⟩

/-- An object ends at its closing brace; else its next key comes, after a comma unless it is
    the first. -/
theorem key?_eq_ok_iff {first : Bool} {found : Option String} {cs rest : List Char} :
    key? first cs = .ok (found, rest) ↔
      (found = none ∧ Reads [.mark .rightBrace] cs rest) ∨
        ∃ key, found = some key ∧ Reads (lead first ++ [.string key]) cs rest := by
  have hbrace : Reads [.mark .rightBrace] cs rest ↔ skipBlank cs = '}' :: rest := by
    rw [reads_mark_iff]
    simp [Mark.char]
  have hcomma : ∀ key, Reads [.mark .comma, .string key] cs rest ↔
      ∃ mid, skipBlank cs = ',' :: mid ∧ Reads [.string key] mid rest := by
    intro key
    rw [reads_mark_iff, Mark.char]
  have hquote : ∀ {c tail}, skipBlank cs = c :: tail → c ≠ '"' →
      ∀ key, ¬ Reads [.string key] cs rest := by
    intro c tail hcs hc key h
    obtain ⟨mid, _, hcs', -⟩ := reads_string_iff.1 h
    rw [hcs, List.cons.injEq] at hcs'
    exact hc hcs'.1
  unfold key?
  split
  · rename_i tail hcs
    have hstring := hquote hcs (by decide)
    cases first
    · simp [lead, hbrace, hcomma, hcs, eq_comm]
    · simp [lead, hbrace, hstring, hcs, eq_comm]
  · rename_i tail hcs
    have hstring := hquote hcs (by decide)
    cases first
    · simp [lead, hbrace, hcomma, hcs, bind_string_eq_ok_iff]
    · simp [lead, hbrace, hstring, hcs]
  · rename_i hnoBrace hnoComma
    have hnoBrace : ∀ tail, skipBlank cs ≠ '}' :: tail := hnoBrace
    have hnoComma : ∀ tail, skipBlank cs ≠ ',' :: tail := hnoComma
    cases first
    · simp [lead, hbrace, hcomma, hnoBrace, hnoComma]
    · simp [lead, hbrace, hnoBrace, bind_string_eq_ok_iff, reads_skipBlank_iff]

theorem key?_eq_ok_none_iff {first : Bool} {cs rest : List Char} :
    key? first cs = .ok (none, rest) ↔ Reads [.mark .rightBrace] cs rest := by
  simp [key?_eq_ok_iff]

theorem key?_eq_ok_some_iff {first : Bool} {key : String} {cs rest : List Char} :
    key? first cs = .ok (some key, rest) ↔ Reads (lead first ++ [.string key]) cs rest := by
  simp [key?_eq_ok_iff]

end Spirv.Settings
