/-
  String literals against their grammar.

  A character may be written in a literal for itself, after a backslash by a letter that
  stands for it, or by its UTF-16 units in hexadecimal (`Spells`); a text is written by
  writing its characters one after the other (`Body`).  Main statement: reading gives the text
  that is written up to the closing mark, and refuses the characters exactly when they
  begin with no text so closed (`readString_eq_some_iff`).
-/
import Mathlib
import Spirv.Json.Literal
import Spirv.Proofs.Numeral

namespace Spirv.Json

/-! ## Grammar -/

/-- The letters that stand for a character after a backslash, with their characters. -/
def shortEscapes : List (Char × Char) :=
  [('"', '"'), ('\\', '\\'), ('/', '/'), ('b', '\x08'), ('f', '\x0c'), ('n', '\n'), ('r', '\r'),
    ('t', '\t')]

/-- The UTF-16 units of a character. -/
def units (c : Char) : List Nat :=
  if c.toNat < 0x10000 then [c.toNat]
  else [0xd800 + (c.toNat - 0x10000) / 0x400, 0xdc00 + (c.toNat - 0x10000) % 0x400]

/-- A unit as it is escaped: `\u` and four hexadecimal digits. -/
def IsUnit (n : Nat) (cs : List Char) : Prop :=
  ∃ digits, digits.length = 4 ∧ Numeral.Denotes 16 digits n ∧ cs = '\\' :: 'u' :: digits

/-- The ways to escape a character. -/
inductive Escapes : Char → List Char → Prop where
  | short {letter c : Char} (h : (letter, c) ∈ shortEscapes) : Escapes c ['\\', letter]
  | units {c : Char} {pieces : List (List Char)} (h : List.Forall₂ IsUnit (units c) pieces) :
      Escapes c pieces.flatten

/-- The ways to write a character in a literal. -/
inductive Spells : Char → List Char → Prop where
  | plain {c : Char} (hq : c ≠ '"') (hb : c ≠ '\\') (hc : 0x20 ≤ c.toNat) : Spells c [c]
  | escape {c : Char} {piece : List Char} (h : Escapes c piece) : Spells c piece

/-- The ways to write a text between quotation marks. -/
inductive Body : List Char → List Char → Prop where
  | nil : Body [] []
  | cons {c : Char} {piece text body : List Char} (hc : Spells c piece) (h : Body text body) :
      Body (c :: text) (piece ++ body)

/-! ## Surrogates -/

@[simp] theorem isHighSurrogate_iff {n : Nat} :
    isHighSurrogate n = true ↔ 0xd800 ≤ n ∧ n < 0xdc00 := by
  simp [isHighSurrogate]

@[simp] theorem isLowSurrogate_iff {n : Nat} :
    isLowSurrogate n = true ↔ 0xdc00 ≤ n ∧ n < 0xe000 := by
  simp [isLowSurrogate]

/-- A number that is no surrogate is the only unit of its character. -/
theorem units_ofNat {n : Nat} (hn : n < 0x10000) (hhigh : ¬ isHighSurrogate n)
    (hlow : ¬ isLowSurrogate n) : units (Char.ofNat n) = [n] := by
  rw [isHighSurrogate_iff] at hhigh
  rw [isLowSurrogate_iff] at hlow
  have hvalid : n.isValidChar := by
    unfold Nat.isValidChar
    omega
  rw [units, Char.toNat_ofNat, if_pos hvalid, if_pos hn]

/-- A surrogate pair is the pair of units of its character. -/
theorem units_ofSurrogates {high low : Nat} (hhigh : isHighSurrogate high)
    (hlow : isLowSurrogate low) : units (ofSurrogates high low) = [high, low] := by
  rw [isHighSurrogate_iff] at hhigh
  rw [isLowSurrogate_iff] at hlow
  have hvalid : (0x10000 + (high - 0xd800) * 0x400 + (low - 0xdc00)).isValidChar := by
    unfold Nat.isValidChar
    omega
  have hfirst : 0xd800 + (0x10000 + (high - 0xd800) * 0x400 + (low - 0xdc00) - 0x10000) / 0x400 =
      high := by omega
  have hsecond : 0xdc00 + (0x10000 + (high - 0xd800) * 0x400 + (low - 0xdc00) - 0x10000) % 0x400 =
      low := by omega
  rw [units, ofSurrogates, Char.toNat_ofNat, if_pos hvalid, if_neg (by omega), hfirst, hsecond]

theorem isValidChar_toNat (c : Char) :
    c.toNat < 0xd800 ∨ 0xe000 ≤ c.toNat ∧ c.toNat < 0x110000 := by
  have hvalid : c.toNat.isValidChar := c.valid
  unfold Nat.isValidChar at hvalid
  omega

/-- The units of a character are a number that is no surrogate, or a surrogate pair. -/
theorem units_cases (c : Char) :
    (∃ n, units c = [n] ∧ ¬ isHighSurrogate n ∧ ¬ isLowSurrogate n ∧ Char.ofNat n = c) ∨
      ∃ high low, units c = [high, low] ∧ isHighSurrogate high ∧ isLowSurrogate low ∧
        ofSurrogates high low = c := by
  have hvalid := isValidChar_toNat c
  simp only [isHighSurrogate_iff, isLowSurrogate_iff]
  by_cases hc : c.toNat < 0x10000
  · refine .inl ⟨c.toNat, by rw [units, if_pos hc], ?_, ?_, Char.ofNat_toNat c⟩
    · omega
    · omega
  · refine .inr ⟨_, _, by rw [units, if_neg hc], ?_, ?_, ?_⟩
    · omega
    · omega
    · have hvalue : 0x10000 + (0xd800 + (c.toNat - 0x10000) / 0x400 - 0xd800) * 0x400 +
          (0xdc00 + (c.toNat - 0x10000) % 0x400 - 0xdc00) = c.toNat := by omega
      rw [ofSurrogates, hvalue, Char.ofNat_toNat]

/-! ## Escapes -/

theorem unescaped?_eq_some_iff {letter c : Char} :
    unescaped? letter = some c ↔ (letter, c) ∈ shortEscapes := by
  constructor
  · intro h
    unfold unescaped? at h
    split_ifs at h with hself
    · cases h
      rcases hself with rfl | rfl | rfl <;> decide
    all_goals
      subst letter
      cases h
      decide
  · intro h
    have htable : ∀ entry ∈ shortEscapes, unescaped? entry.1 = some entry.2 := by decide
    exact htable _ h

theorem readUnit?_eq_some_iff {cs rest : List Char} {n : Nat} :
    readUnit? cs = some (n, rest) ↔
      ∃ digits, digits.length = 4 ∧ Numeral.Denotes 16 digits n ∧ cs = digits ++ rest := by
  constructor
  · intro h
    unfold readUnit? at h
    split at h
    · rename_i a b c d tail
      split at h
      · rename_i n' hvalue
        obtain ⟨rfl, rfl⟩ := Prod.mk.inj (Option.some.inj h)
        exact ⟨[a, b, c, d], rfl, ((Numeral.value?_eq_some_iff le_rfl).1 hvalue).2, rfl⟩
      · cases h
    · cases h
  · rintro ⟨digits, hlength, hdenotes, rfl⟩
    refine readUnit?_append hlength ((Numeral.value?_eq_some_iff le_rfl).2 ⟨?_, hdenotes⟩)
    rintro rfl
    cases hlength

/-- An escaped unit is below `0x10000`. -/
theorem lt_of_denotes {digits : List Char} {n : Nat} (hlength : digits.length = 4)
    (h : Numeral.Denotes 16 digits n) : n < 0x10000 := by
  have hlt := h.lt_pow (by omega)
  rw [hlength] at hlt
  omega

theorem readLowSurrogate?_eq_some_iff {cs rest : List Char} {low : Nat} :
    readLowSurrogate? cs = some (low, rest) ↔
      ∃ piece, IsUnit low piece ∧ isLowSurrogate low ∧ cs = piece ++ rest := by
  constructor
  · intro h
    unfold readLowSurrogate? at h
    split at h
    · rename_i b u tail
      split at h
      · rename_i hbu
        obtain ⟨rfl, rfl⟩ := hbu
        split at h
        · rename_i low' rest' hunit
          split at h
          · rename_i hlow
            obtain ⟨rfl, rfl⟩ := Prod.mk.inj (Option.some.inj h)
            obtain ⟨digits, hlength, hdenotes, rfl⟩ := readUnit?_eq_some_iff.1 hunit
            exact ⟨_, ⟨digits, hlength, hdenotes, rfl⟩, hlow, rfl⟩
          · cases h
        · cases h
      · cases h
    · cases h
  · rintro ⟨_, ⟨digits, hlength, hdenotes, rfl⟩, hlow, rfl⟩
    have hunit : readUnit? (digits ++ rest) = some (low, rest) :=
      readUnit?_eq_some_iff.2 ⟨digits, hlength, hdenotes, rfl⟩
    rw [List.cons_append, List.cons_append, readLowSurrogate?, if_pos ⟨rfl, rfl⟩, hunit]
    exact if_pos hlow

theorem Escapes.exists_eq_cons {c : Char} {piece : List Char} (h : Escapes c piece) :
    ∃ tail, piece = '\\' :: tail := by
  cases h with
  | short hmem => exact ⟨_, rfl⟩
  | units hunits =>
    obtain ⟨n, hc, -⟩ | ⟨high, low, hc, -⟩ := units_cases c
    all_goals
      rw [hc] at hunits
      obtain ⟨_, _, ⟨digits, -, -, rfl⟩, -, rfl⟩ := List.forall₂_cons_left_iff.1 hunits
      exact ⟨_, rfl⟩

/-- What is read as an escape is one. -/
theorem exists_escapes_of_readEscape? {cs rest : List Char} {c : Char}
    (h : readEscape? cs = some (c, rest)) :
    ∃ piece, Escapes c piece ∧ '\\' :: cs = piece ++ rest := by
  unfold readEscape? at h
  split at h
  · cases h
  · rename_i letter tail
    split at h
    · rename_i hletter
      subst hletter
      split at h
      · cases h
      · rename_i unit tail' hunit
        obtain ⟨digits, hlength, hdenotes, rfl⟩ := readUnit?_eq_some_iff.1 hunit
        have hpiece : IsUnit unit ('\\' :: 'u' :: digits) := ⟨digits, hlength, hdenotes, rfl⟩
        split at h
        · rename_i hhigh
          split at h
          · rename_i low rest' hread
            obtain ⟨rfl, rfl⟩ := Prod.mk.inj (Option.some.inj h)
            obtain ⟨piece, hsecond, hlow, rfl⟩ := readLowSurrogate?_eq_some_iff.1 hread
            have hunits : List.Forall₂ IsUnit (units (ofSurrogates unit low))
                ['\\' :: 'u' :: digits, piece] := by
              rw [units_ofSurrogates hhigh hlow]
              exact .cons hpiece (.cons hsecond .nil)
            exact ⟨_, .units hunits, by simp⟩
          · cases h
        · rename_i hhigh
          split at h
          · cases h
          · rename_i hlow
            obtain ⟨rfl, rfl⟩ := Prod.mk.inj (Option.some.inj h)
            have hunits : List.Forall₂ IsUnit (units (Char.ofNat unit))
                ['\\' :: 'u' :: digits] := by
              rw [units_ofNat (lt_of_denotes hlength hdenotes) hhigh hlow]
              exact .cons hpiece .nil
            exact ⟨_, .units hunits, by simp⟩
    · split at h
      · rename_i d hshort
        obtain ⟨rfl, rfl⟩ := Prod.mk.inj (Option.some.inj h)
        exact ⟨_, .short (unescaped?_eq_some_iff.1 hshort), rfl⟩
      · cases h

/-- An escape is read as the character that it stands for. -/
theorem readEscape?_of_escapes {cs rest piece : List Char} {c : Char} (h : Escapes c piece)
    (hcs : '\\' :: cs = piece ++ rest) : readEscape? cs = some (c, rest) := by
  cases h with
  | short hmem =>
    rename_i letter
    obtain rfl : cs = letter :: rest := by simpa using hcs
    have hu : letter ≠ 'u' := by
      rintro rfl
      simp [shortEscapes] at hmem
    rw [readEscape?, if_neg hu, unescaped?_eq_some_iff.2 hmem]
  | units hunits =>
    obtain ⟨n, hc, hhigh, hlow, rfl⟩ | ⟨high, low, hc, hhigh, hlow, rfl⟩ := units_cases c
    · rw [hc] at hunits
      obtain ⟨_, _, ⟨digits, hlength, hdenotes, rfl⟩, hnil, rfl⟩ :=
        List.forall₂_cons_left_iff.1 hunits
      obtain rfl := List.forall₂_nil_left_iff.1 hnil
      obtain rfl : cs = 'u' :: (digits ++ rest) := by simpa using hcs
      have hunit : readUnit? (digits ++ rest) = some (n, rest) :=
        readUnit?_eq_some_iff.2 ⟨digits, hlength, hdenotes, rfl⟩
      rw [readEscape?, if_pos rfl, hunit]
      simp only [hhigh, hlow, if_false, Bool.false_eq_true]
    · rw [hc] at hunits
      obtain ⟨_, _, ⟨digits, hlength, hdenotes, rfl⟩, htail, rfl⟩ :=
        List.forall₂_cons_left_iff.1 hunits
      obtain ⟨second, _, hsecond, hnil, rfl⟩ := List.forall₂_cons_left_iff.1 htail
      obtain rfl := List.forall₂_nil_left_iff.1 hnil
      obtain rfl : cs = 'u' :: (digits ++ (second ++ rest)) := by simpa using hcs
      have hunit : readUnit? (digits ++ (second ++ rest)) = some (high, second ++ rest) :=
        readUnit?_eq_some_iff.2 ⟨digits, hlength, hdenotes, rfl⟩
      have hpair : readLowSurrogate? (second ++ rest) = some (low, rest) :=
        readLowSurrogate?_eq_some_iff.2 ⟨second, hsecond, hlow, rfl⟩
      rw [readEscape?, if_pos rfl, hunit]
      simp only [hhigh, if_true, hpair]

/-! ## Texts -/

/-- A character is read as it is spelled, and reading goes on after it. -/
theorem readString_spells {c : Char} {piece : List Char} (h : Spells c piece) (cs : List Char) :
    readString (piece ++ cs) =
      match readString cs with
      | some (text, rest) => some (c :: text, rest)
      | none => none := by
  cases h with
  | plain hq hb hc => exact readString_plain hq hb (by omega)
  | escape hpiece =>
    obtain ⟨tail, rfl⟩ := hpiece.exists_eq_cons
    rw [List.cons_append]
    exact readString_escape (readEscape?_of_escapes hpiece rfl)

/-- Reading begins with the closing mark or with a spelled character. -/
theorem readString_cases {cs text rest : List Char} (h : readString cs = some (text, rest)) :
    (text = [] ∧ cs = '"' :: rest) ∨ ∃ c piece text' cs', Spells c piece ∧ cs = piece ++ cs' ∧
      text = c :: text' ∧ readString cs' = some (text', rest) ∧ cs'.length < cs.length := by
  unfold readString at h
  split at h
  · cases h
  · rename_i c tail
    split at h
    · rename_i hquote
      obtain ⟨rfl, rfl⟩ := Prod.mk.inj (Option.some.inj h)
      exact .inl ⟨rfl, by rw [hquote]⟩
    · rename_i hquote
      right
      split at h
      · rename_i hback
        subst hback
        split at h
        · cases h
        · rename_i d cs' hescape
          have hlt := length_of_readEscape? hescape
          obtain ⟨piece, hpiece, hcs⟩ := exists_escapes_of_readEscape? hescape
          split at h
          · rename_i text' rest' htail
            obtain ⟨rfl, rfl⟩ := Prod.mk.inj (Option.some.inj h)
            exact ⟨d, piece, text', cs', .escape hpiece, hcs, rfl, htail, by
              rw [List.length_cons]
              omega⟩
          · cases h
      · rename_i hback
        split at h
        · cases h
        · rename_i hcontrol
          split at h
          · rename_i text' rest' htail
            obtain ⟨rfl, rfl⟩ := Prod.mk.inj (Option.some.inj h)
            exact ⟨c, [c], text', tail, .plain hquote hback (by omega), rfl, rfl, htail, by
              rw [List.length_cons]
              omega⟩
          · cases h

/-- **Reading literals.** The text that is read is the one that is written up to the closing
    mark; what begins with no text so closed is not read. -/
theorem readString_eq_some_iff {cs text rest : List Char} :
    readString cs = some (text, rest) ↔ ∃ body, Body text body ∧ cs = body ++ '"' :: rest := by
  constructor
  · intro h
    -- By length and not by structure: an escape takes up to twelve characters at once.
    induction hlength : cs.length using Nat.strong_induction_on generalizing cs text with
    | _ n ih =>
      obtain ⟨rfl, rfl⟩ | ⟨c, piece, text', cs', hc, rfl, rfl, htail, hlt⟩ := readString_cases h
      · exact ⟨[], .nil, rfl⟩
      · obtain ⟨body, hbody, rfl⟩ := ih cs'.length (by omega) htail rfl
        exact ⟨piece ++ body, .cons hc hbody, (List.append_assoc _ _ _).symm⟩
  · rintro ⟨body, hbody, rfl⟩
    induction hbody with
    | nil => rw [List.nil_append, readString, if_pos rfl]
    | cons hc _ ih => rw [List.append_assoc, readString_spells hc, ih]

end Spirv.Json
