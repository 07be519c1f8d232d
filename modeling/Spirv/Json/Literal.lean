/-
  JSON string literals.

  `quote` writes a string between quotation marks and escapes what may not stand there
  for itself; `readString` reads the characters after an opening mark up to the closing
  one.  Reading accepts every escape of JSON, and an escaped surrogate only as the first
  half of a pair that is followed by its second half.  What is quoted is read back,
  whatever follows (`readString_quoted`).
-/
import Spirv.Numeral

namespace Spirv.Json

/-! ## Writing -/

/-- A character as it stands in a string literal. -/
def escaped (c : Char) : List Char :=
  if c = '"' then ['\\', '"']
  else if c = '\\' then ['\\', '\\']
  else if c = '\n' then ['\\', 'n']
  else if c = '\r' then ['\\', 'r']
  else if c = '\t' then ['\\', 't']
  else if c = '\x08' then ['\\', 'b']
  else if c = '\x0c' then ['\\', 'f']
  else if c.toNat < 0x20 then '\\' :: 'u' :: (Numeral.hexDigits c.toNat).leftpad 4 '0'
  else [c]

/-- The characters of a string literal and its closing mark. -/
def quoted (cs : List Char) : List Char :=
  cs.flatMap escaped ++ ['"']

/-- The string as a literal. -/
def quote (s : String) : String :=
  String.ofList ('"' :: quoted s.toList)

/-! ## Reading -/

/-- The character for which a letter after a backslash stands. -/
def unescaped? (c : Char) : Option Char :=
  if c = '"' ∨ c = '\\' ∨ c = '/' then some c
  else if c = 'b' then some '\x08'
  else if c = 'f' then some '\x0c'
  else if c = 'n' then some '\n'
  else if c = 'r' then some '\r'
  else if c = 't' then some '\t'
  else none

/-- A number of four hexadecimal digits, and what follows them. -/
def readUnit? : List Char → Option (Nat × List Char)
  | a :: b :: c :: d :: rest =>
    match Numeral.value? 16 [a, b, c, d] with
    | some n => some (n, rest)
    | none => none
  | _ => none

/-- Whether the number is the first half of a surrogate pair. -/
def isHighSurrogate (n : Nat) : Bool :=
  decide (0xd800 ≤ n) && decide (n < 0xdc00)

/-- Whether the number is the second half of a surrogate pair. -/
def isLowSurrogate (n : Nat) : Bool :=
  decide (0xdc00 ≤ n) && decide (n < 0xe000)

/-- The character that a surrogate pair encodes. -/
def ofSurrogates (high low : Nat) : Char :=
  Char.ofNat (0x10000 + (high - 0xd800) * 0x400 + (low - 0xdc00))

/-- The second half of a surrogate pair, written as an escape, and what follows. -/
def readLowSurrogate? : List Char → Option (Nat × List Char)
  | b :: u :: rest =>
    if b = '\\' ∧ u = 'u' then
      match readUnit? rest with
      | some (low, rest) => if isLowSurrogate low then some (low, rest) else none
      | none => none
    else none
  | _ => none

/-- The character of an escape, read after its backslash, and what follows. -/
def readEscape? : List Char → Option (Char × List Char)
  | [] => none
  | c :: rest =>
    if c = 'u' then
      match readUnit? rest with
      | none => none
      | some (unit, rest) =>
        if isHighSurrogate unit then
          match readLowSurrogate? rest with
          | some (low, rest) => some (ofSurrogates unit low, rest)
          | none => none
        else if isLowSurrogate unit then none
        else some (Char.ofNat unit, rest)
    else
      match unescaped? c with
      | some d => some (d, rest)
      | none => none

theorem length_of_readUnit? {cs rest : List Char} {n : Nat} (h : readUnit? cs = some (n, rest)) :
    rest.length < cs.length := by
  unfold readUnit? at h
  split at h
  · split at h
    · cases h
      simp only [List.length_cons]
      omega
    · cases h
  · cases h

theorem length_of_readLowSurrogate? {cs rest : List Char} {n : Nat}
    (h : readLowSurrogate? cs = some (n, rest)) : rest.length < cs.length := by
  unfold readLowSurrogate? at h
  split at h
  · split at h
    · split at h
      · rename_i hunit
        have hlt := length_of_readUnit? hunit
        split at h
        · cases h
          simp only [List.length_cons]
          omega
        · cases h
      · cases h
    · cases h
  · cases h

theorem length_of_readEscape? {cs rest : List Char} {c : Char}
    (h : readEscape? cs = some (c, rest)) : rest.length < cs.length := by
  unfold readEscape? at h
  split at h
  · cases h
  · split at h
    · split at h
      · cases h
      · rename_i hunit
        have hlt := length_of_readUnit? hunit
        split at h
        · split at h
          · rename_i hlow
            have hlt' := length_of_readLowSurrogate? hlow
            obtain ⟨-, rfl⟩ := Prod.mk.inj (Option.some.inj h)
            simp only [List.length_cons]
            omega
          · cases h
        · split at h
          · cases h
          · obtain ⟨-, rfl⟩ := Prod.mk.inj (Option.some.inj h)
            simp only [List.length_cons]
            omega
    · split at h
      · cases h
        simp
      · cases h

/-- The string that the characters after an opening quotation mark denote, and what follows
    the closing mark. -/
def readString (cs : List Char) : Option (List Char × List Char) :=
  match cs with
  | [] => none
  | c :: rest =>
    if c = '"' then some ([], rest)
    else if c = '\\' then
      match h : readEscape? rest with
      | none => none
      | some (d, rest') =>
        have := length_of_readEscape? h
        match readString rest' with
        | some (ds, rest'') => some (d :: ds, rest'')
        | none => none
    else if c.toNat < 0x20 then none
    else
      match readString rest with
      | some (ds, rest') => some (c :: ds, rest')
      | none => none
termination_by cs.length
decreasing_by all_goals (simp only [List.length_cons]; omega)

/-! ## What is quoted is read back -/

theorem readString_plain {c : Char} {cs : List Char} (hq : c ≠ '"') (hb : c ≠ '\\')
    (hc : ¬ c.toNat < 0x20) : readString (c :: cs) =
      match readString cs with
      | some (ds, rest) => some (c :: ds, rest)
      | none => none := by
  rw [readString, if_neg hq, if_neg hb, if_neg hc]

theorem readString_escape {c : Char} {cs cs' : List Char}
    (h : readEscape? cs = some (c, cs')) : readString ('\\' :: cs) =
      match readString cs' with
      | some (ds, rest) => some (c :: ds, rest)
      | none => none := by
  rw [readString, if_neg (by decide), if_pos rfl]
  split
  · rename_i h'
    rw [h] at h'
    cases h'
  · rename_i h'
    rw [h] at h'
    obtain ⟨rfl, rfl⟩ := Prod.mk.inj (Option.some.inj h')
    rfl

theorem readUnit?_append {l cs : List Char} {n : Nat} (hl : l.length = 4)
    (hv : Numeral.value? 16 l = some n) : readUnit? (l ++ cs) = some (n, cs) := by
  obtain ⟨a, b, c, d, rfl⟩ : ∃ a b c d, l = [a, b, c, d] := by
    match l, hl with
    | [a, b, c, d], _ => exact ⟨a, b, c, d, rfl⟩
  simp only [List.cons_append, List.nil_append, readUnit?, hv]

theorem value?_unit : ∀ n : Fin 0x20, ((Numeral.hexDigits n).leftpad 4 '0').length = 4 ∧
    Numeral.value? 16 ((Numeral.hexDigits n).leftpad 4 '0') = some n.val := by
  decide +kernel

theorem readEscape?_control {c : Char} (hc : c.toNat < 0x20) (cs : List Char) :
    readEscape? ('u' :: (Numeral.hexDigits c.toNat).leftpad 4 '0' ++ cs) = some (c, cs) := by
  obtain ⟨hl, hv⟩ := value?_unit ⟨c.toNat, hc⟩
  have hhigh : isHighSurrogate c.toNat = false := by
    simp only [isHighSurrogate, Bool.and_eq_false_iff, decide_eq_false_iff_not]
    omega
  have hlow : isLowSurrogate c.toNat = false := by
    simp only [isLowSurrogate, Bool.and_eq_false_iff, decide_eq_false_iff_not]
    omega
  rw [List.cons_append, readEscape?, if_pos rfl, readUnit?_append hl hv]
  simp [hhigh, hlow]

theorem readString_escaped (c : Char) (cs : List Char) :
    readString (escaped c ++ cs) =
      match readString cs with
      | some (ds, rest) => some (c :: ds, rest)
      | none => none := by
  unfold escaped
  split
  · subst c
    exact readString_escape rfl
  split
  · subst c
    exact readString_escape rfl
  split
  · subst c
    exact readString_escape rfl
  split
  · subst c
    exact readString_escape rfl
  split
  · subst c
    exact readString_escape rfl
  split
  · subst c
    exact readString_escape rfl
  split
  · subst c
    exact readString_escape rfl
  split
  · rename_i hc
    exact readString_escape (readEscape?_control hc cs)
  · rename_i hq hb _ _ _ _ _ hc
    exact readString_plain hq hb hc

/-- **Literals.** A quoted string is read back, whatever follows it. -/
theorem readString_quoted (cs rest : List Char) :
    readString (quoted cs ++ rest) = some (cs, rest) := by
  induction cs with
  | nil => rw [quoted, List.flatMap_nil, List.nil_append, List.singleton_append, readString, if_pos rfl]
  | cons c cs ih =>
    rw [quoted, List.flatMap_cons, List.append_assoc, List.append_assoc, readString_escaped]
    rw [quoted, List.append_assoc] at ih
    rw [ih]

end Spirv.Json
