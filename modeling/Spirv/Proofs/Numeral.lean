/-
  Numerals against their digits.

  `IsDigit base c v` says that the character `c` is the digit of the value `v`, by its place
  in the alphabet of digits; `Denotes base cs n` says that `n` is the number with the digits
  `cs`, the first of which weighs most.  Reading digits gives the number that is denoted, and
  refuses the characters exactly when none is (`value?_eq_some_iff`).

  `IsNumeral cs n` says that `cs` is a numeral of `n`: digits with what may stand in front of
  them.  Main statement: a text is read as a 32-bit number exactly if it is a numeral of it
  (`read?_eq_some_iff`).
-/
import Mathlib
import Spirv.Numeral

namespace Spirv.Numeral

/-- The digits of the bases up to sixteen, with small letters. -/
def smallDigits : List Char :=
  ['0', '1', '2', '3', '4', '5', '6', '7', '8', '9', 'a', 'b', 'c', 'd', 'e', 'f']

/-- The same digits with capital letters. -/
def capitalDigits : List Char :=
  ['0', '1', '2', '3', '4', '5', '6', '7', '8', '9', 'A', 'B', 'C', 'D', 'E', 'F']

/-- The character is the digit of the value. -/
def IsDigit (base : Nat) (c : Char) (v : Nat) : Prop :=
  v < base ∧ (smallDigits[v]? = some c ∨ capitalDigits[v]? = some c)

/-- The number has the digits, the first of which weighs most. -/
def Denotes (base : Nat) (cs : List Char) (n : Nat) : Prop :=
  ∃ vs, List.Forall₂ (IsDigit base) cs vs ∧ n = Nat.ofDigits base vs.reverse

/-! ## Single digits -/

theorem isDigit_ascii : ∀ n : Fin 128, ∀ v : Fin 16,
    digitValue? 16 (Char.ofNat n) = some v.val ↔
      smallDigits[v.val]? = some (Char.ofNat n) ∨ capitalDigits[v.val]? = some (Char.ofNat n) := by
  decide +kernel

theorem toNat_lt_of_digitValue? {c : Char} {v : Nat} (h : digitValue? 16 c = some v) :
    c.toNat < 128 := by
  by_contra hc
  have hlast : ∀ d : Char, d.toNat < 128 → ¬ c ≤ d := by
    intro d hd (hle : c.toNat ≤ d.toNat)
    omega
  have hnine := hlast '9' (by decide)
  have hsmall := hlast 'z' (by decide)
  have hcapital := hlast 'Z' (by decide)
  simp [digitValue?, hnine, hsmall, hcapital] at h

theorem toNat_lt_of_mem_digits : ∀ c ∈ smallDigits ++ capitalDigits, c.toNat < 128 := by
  simp [smallDigits, capitalDigits]

/-- A smaller base has the first of the digits. -/
theorem digitValue?_eq_some_iff_of_le {base : Nat} (hbase : base ≤ 16) {c : Char} {v : Nat} :
    digitValue? base c = some v ↔ v < base ∧ digitValue? 16 c = some v := by
  unfold digitValue?
  split_ifs <;> simp <;> omega

/-- A digit is read as its place in the alphabet. -/
theorem digitValue?_eq_some_iff {base : Nat} (hbase : base ≤ 16) {c : Char} {v : Nat} :
    digitValue? base c = some v ↔ IsDigit base c v := by
  rw [digitValue?_eq_some_iff_of_le hbase, IsDigit]
  refine and_congr_right fun hv => ?_
  have hv : v < 16 := by omega
  -- The alphabets end before 128, so below it both sides can be tabulated.
  have hascii : c.toNat < 128 → (digitValue? 16 c = some v ↔
      smallDigits[v]? = some c ∨ capitalDigits[v]? = some c) := by
    intro hc
    have hall := isDigit_ascii ⟨c.toNat, hc⟩ ⟨v, hv⟩
    rwa [Char.ofNat_toNat] at hall
  constructor
  · intro h
    exact (hascii (toNat_lt_of_digitValue? h)).1 h
  · intro h
    have hmem : c ∈ smallDigits ++ capitalDigits := by
      rcases h with h | h
      · exact List.mem_append_left _ (List.mem_of_getElem? h)
      · exact List.mem_append_right _ (List.mem_of_getElem? h)
    exact (hascii (toNat_lt_of_mem_digits c hmem)).2 h

/-- Decimal digits are digits. -/
theorem isDigit_of_ten {c : Char} {v : Nat} (h : IsDigit 10 c v) : c.isDigit = true := by
  have htable : (smallDigits.take 10 ++ capitalDigits.take 10).all Char.isDigit = true := by decide
  obtain ⟨hv, hc⟩ := h
  apply List.all_eq_true.1 htable
  rw [List.mem_append]
  rcases hc with hc | hc
  · exact .inl (List.mem_of_getElem? ((List.getElem?_take_of_lt hv).trans hc))
  · exact .inr (List.mem_of_getElem? ((List.getElem?_take_of_lt hv).trans hc))

/-! ## Runs of digits -/

/-- Digits that continue a number move it up by as many places. -/
theorem continueValue?_eq_some_iff {base : Nat} (hbase : base ≤ 16) {cs : List Char} {n m : Nat} :
    continueValue? base n cs = some m ↔ ∃ vs, List.Forall₂ (IsDigit base) cs vs ∧
      m = n * base ^ vs.length + Nat.ofDigits base vs.reverse := by
  induction cs generalizing n with
  | nil =>
    simp [continueValue?, eq_comm]
  | cons c cs ih =>
    have hstep : continueValue? base n (c :: cs) = some m ↔
        ∃ v, IsDigit base c v ∧ continueValue? base (n * base + v) cs = some m := by
      simp only [← digitValue?_eq_some_iff hbase]
      cases hc : digitValue? base c <;> simp [continueValue?, hc]
    have hvalue : ∀ (v : Nat) (vs : List Nat),
        (n * base + v) * base ^ vs.length + Nat.ofDigits base vs.reverse =
          n * base ^ (v :: vs).length + Nat.ofDigits base (v :: vs).reverse := by
      intro v vs
      rw [List.reverse_cons, Nat.ofDigits_append, Nat.ofDigits_singleton, List.length_reverse,
        List.length_cons, pow_succ]
      ring
    rw [hstep]
    constructor
    · rintro ⟨v, hv, h⟩
      obtain ⟨vs, hvs, rfl⟩ := ih.1 h
      exact ⟨v :: vs, .cons hv hvs, hvalue v vs⟩
    · rintro ⟨_, hvs, rfl⟩
      obtain ⟨v, vs, hv, htail, rfl⟩ := List.forall₂_cons_left_iff.1 hvs
      exact ⟨v, hv, ih.2 ⟨vs, htail, (hvalue v vs).symm⟩⟩

/-- **Reading digits.** The value of a run of digits is the number that they denote; nothing
    else has a value. -/
theorem value?_eq_some_iff {base : Nat} (hbase : base ≤ 16) {cs : List Char} {n : Nat} :
    value? base cs = some n ↔ cs ≠ [] ∧ Denotes base cs n := by
  cases cs with
  | nil => simp [value?]
  | cons c cs =>
    rw [value?, continueValue?_eq_some_iff hbase, Denotes]
    simp

/-- A number is below the power of the base that its digits fill. -/
theorem Denotes.lt_pow {base : Nat} {cs : List Char} {n : Nat} (h : Denotes base cs n)
    (hbase : 1 < base) : n < base ^ cs.length := by
  obtain ⟨vs, hvs, rfl⟩ := h
  rw [hvs.length_eq, ← List.length_reverse]
  refine Nat.ofDigits_lt_base_pow_length hbase fun v hv => ?_
  obtain ⟨i, hi, rfl⟩ := List.getElem_of_mem (List.mem_reverse.1 hv)
  have hget := List.Forall₂.get hvs (hvs.length_eq ▸ hi) hi
  exact hget.1

/-! ## Numerals -/

/-- What may stand in front of the digits: nothing, or one `+`. -/
def IsSign (cs : List Char) : Prop :=
  cs = [] ∨ cs = ['+']

/-- The characters are a numeral of the number: an announcement of the base if it is sixteen,
    a sign, and digits, of which there is at least one. -/
inductive IsNumeral : List Char → Nat → Prop where
  | decimal {sign digits : List Char} {n : Nat} (hsign : IsSign sign) (hne : digits ≠ [])
      (h : Denotes 10 digits n) : IsNumeral (sign ++ digits) n
  | hexadecimal {x : Char} {sign digits : List Char} {n : Nat} (hx : x = 'x' ∨ x = 'X')
      (hsign : IsSign sign) (hne : digits ≠ []) (h : Denotes 16 digits n) :
      IsNumeral ('0' :: x :: (sign ++ digits)) n

/-- The first of the characters that denote a number is a digit. -/
theorem Denotes.exists_isDigit {base : Nat} {c : Char} {cs : List Char} {n : Nat}
    (h : Denotes base (c :: cs) n) : ∃ v, IsDigit base c v := by
  obtain ⟨vs, hvs, -⟩ := h
  obtain ⟨v, _, hv, -, -⟩ := List.forall₂_cons_left_iff.1 hvs
  exact ⟨v, hv⟩

theorem not_isDigit_plus (base : Nat) (v : Nat) : ¬ IsDigit base '+' v := by
  rintro ⟨-, hsmall | hcapital⟩
  · exact absurd (List.mem_of_getElem? hsmall) (by decide)
  · exact absurd (List.mem_of_getElem? hcapital) (by decide)

theorem dropPlus_cases (cs : List Char) :
    (∃ tail, cs = '+' :: tail ∧ dropPlus cs = tail) ∨
      ((∀ tail, cs ≠ '+' :: tail) ∧ dropPlus cs = cs) := by
  unfold dropPlus
  split
  · exact .inl ⟨_, rfl, rfl⟩
  · rename_i hplus
    exact .inr ⟨hplus, rfl⟩

theorem value?_dropPlus_eq_some_iff {base : Nat} (hbase : base ≤ 16) {cs : List Char} {n : Nat} :
    value? base (dropPlus cs) = some n ↔
      ∃ sign digits, cs = sign ++ digits ∧ IsSign sign ∧ digits ≠ [] ∧ Denotes base digits n := by
  rw [value?_eq_some_iff hbase]
  rcases dropPlus_cases cs with ⟨tail, rfl, hdrop⟩ | ⟨hplus, hdrop⟩
  · rw [hdrop]
    constructor
    · rintro ⟨hne, h⟩
      exact ⟨['+'], tail, rfl, .inr rfl, hne, h⟩
    · rintro ⟨sign, digits, hcs, rfl | rfl, hne, h⟩
      · -- The `+` would be the first of the digits.
        rw [List.nil_append] at hcs
        rw [← hcs] at h
        obtain ⟨v, hv⟩ := h.exists_isDigit
        exact absurd hv (not_isDigit_plus base v)
      · obtain rfl : tail = digits := (List.cons.inj hcs).2
        exact ⟨hne, h⟩
  · rw [hdrop]
    constructor
    · rintro ⟨hne, h⟩
      exact ⟨[], cs, rfl, .inl rfl, hne, h⟩
    · rintro ⟨sign, digits, hcs, rfl | rfl, hne, h⟩
      · rw [List.nil_append] at hcs
        rw [hcs]
        exact ⟨hne, h⟩
      · exact absurd hcs (hplus digits)

/-- Characters announce base sixteen, or they are all left for base ten. -/
theorem splitBase_cases (cs : List Char) :
    (∃ x tail, (x = 'x' ∨ x = 'X') ∧ cs = '0' :: x :: tail ∧ splitBase cs = (16, tail)) ∨
      ((∀ x tail, x = 'x' ∨ x = 'X' → cs ≠ '0' :: x :: tail) ∧ splitBase cs = (10, cs)) := by
  unfold splitBase
  split
  · exact .inl ⟨_, _, .inl rfl, rfl, rfl⟩
  · exact .inl ⟨_, _, .inr rfl, rfl, rfl⟩
  · rename_i hsmall hcapital
    refine .inr ⟨?_, rfl⟩
    rintro x tail (rfl | rfl) rfl
    · exact hsmall tail rfl
    · exact hcapital tail rfl

/-- What announces base sixteen is no run of decimal digits. -/
theorem not_denotes_announcement {x : Char} (hx : x = 'x' ∨ x = 'X') {tail : List Char} {n : Nat} :
    ¬ Denotes 10 ('0' :: x :: tail) n := by
  rintro ⟨vs, hvs, -⟩
  obtain ⟨-, _, -, htail, -⟩ := List.forall₂_cons_left_iff.1 hvs
  obtain ⟨v, _, hv, -, -⟩ := List.forall₂_cons_left_iff.1 htail
  rw [← digitValue?_eq_some_iff (by decide)] at hv
  rcases hx with rfl | rfl
  · exact absurd hv (by simp [digitValue?])
  · exact absurd hv (by simp [digitValue?])

/-- A numeral that announces base sixteen has no other reading. -/
theorem isNumeral_announced_iff {x : Char} (hx : x = 'x' ∨ x = 'X') {tail : List Char} {n : Nat} :
    IsNumeral ('0' :: x :: tail) n ↔
      ∃ sign digits, tail = sign ++ digits ∧ IsSign sign ∧ digits ≠ [] ∧ Denotes 16 digits n := by
  constructor
  · intro h
    generalize hcs : '0' :: x :: tail = cs at h
    cases h with
    | decimal hsign hne h =>
      rcases hsign with rfl | rfl
      · rw [List.nil_append] at hcs
        rw [← hcs] at h
        exact absurd h (not_denotes_announcement hx)
      · cases hcs
    | hexadecimal hx' hsign hne h =>
      cases hcs
      exact ⟨_, _, rfl, hsign, hne, h⟩
  · rintro ⟨sign, digits, rfl, hsign, hne, h⟩
    exact .hexadecimal hx hsign hne h

/-- A numeral that announces nothing is decimal. -/
theorem isNumeral_unannounced_iff {cs : List Char}
    (hcs : ∀ x tail, x = 'x' ∨ x = 'X' → cs ≠ '0' :: x :: tail) {n : Nat} :
    IsNumeral cs n ↔
      ∃ sign digits, cs = sign ++ digits ∧ IsSign sign ∧ digits ≠ [] ∧ Denotes 10 digits n := by
  constructor
  · intro h
    cases h with
    | decimal hsign hne h => exact ⟨_, _, rfl, hsign, hne, h⟩
    | hexadecimal hx _ _ _ => exact absurd rfl (hcs _ _ hx)
  · rintro ⟨sign, digits, rfl, hsign, hne, h⟩
    exact .decimal hsign hne h

/-- A numeral is read in the base that it announces, behind its sign. -/
theorem isNumeral_iff {cs : List Char} {n : Nat} :
    IsNumeral cs n ↔ value? (splitBase cs).1 (dropPlus (splitBase cs).2) = some n := by
  rcases splitBase_cases cs with ⟨x, tail, hx, rfl, hsplit⟩ | ⟨hcs, hsplit⟩
  · rw [hsplit, isNumeral_announced_iff hx]
    exact (value?_dropPlus_eq_some_iff (by decide)).symm
  · rw [hsplit, isNumeral_unannounced_iff hcs]
    exact (value?_dropPlus_eq_some_iff (by decide)).symm

/-- Characters are a numeral of one number. -/
theorem IsNumeral.unique {cs : List Char} {m n : Nat} (hm : IsNumeral cs m)
    (hn : IsNumeral cs n) : m = n :=
  Option.some.inj ((isNumeral_iff.1 hm).symm.trans (isNumeral_iff.1 hn))

/-- **Reading numerals.** A text is read as a number of 32 bits exactly if it is a numeral of
    this number. -/
theorem read?_eq_some_iff {text : String} {n : UInt32} :
    read? text = some n ↔ IsNumeral text.toList n.toNat := by
  have hn := n.toNat_lt_size
  rw [isNumeral_iff]
  unfold read?
  dsimp only
  cases value? (splitBase text.toList).1 (dropPlus (splitBase text.toList).2) with
  | none => simp
  | some m =>
    by_cases hm : m < UInt32.size
    · have hnat : (UInt32.ofNat m).toNat = m := UInt32.toNat_ofNat_of_lt hm
      simp only [if_pos hm, Option.some.injEq]
      rw [← UInt32.toNat_inj, hnat]
    · simp only [if_neg hm, Option.some.injEq]
      constructor
      · intro h
        cases h
      · intro h
        omega

end Spirv.Numeral
