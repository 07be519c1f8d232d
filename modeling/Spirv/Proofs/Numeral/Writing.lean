/-
  Numerals that are written.

  The digits that are written for a number denote it (`denotes_toDigits`), and zeros in front
  of them change nothing (`Denotes.replicate_zero_append`).  Characters denote one number
  (`Denotes.unique`), so a written numeral is that of one number: a word in hexadecimal
  (`word_inj`) and a number in decimal, whose characters are decimal digits
  (`isDigit_of_mem_toString`).
-/
import Spirv.Proofs.Numeral

namespace Spirv.Numeral

variable {base : Nat} {cs : List Char} {m n : Nat}

/-! ## What characters denote -/

theorem denotes_iff_continueValue? (hbase : base ≤ 16) :
    Denotes base cs n ↔ continueValue? base 0 cs = some n := by
  rw [continueValue?_eq_some_iff hbase, Denotes]
  simp

/-- Characters denote one number. -/
theorem Denotes.unique (hbase : base ≤ 16) (hm : Denotes base cs m) (hn : Denotes base cs n) :
    m = n := by
  rw [denotes_iff_continueValue? hbase] at hm hn
  exact Option.some.inj (hm.symm.trans hn)

theorem Denotes.isDigit_of_mem (h : Denotes base cs n) {c : Char} (hc : c ∈ cs) :
    ∃ v, IsDigit base c v := by
  obtain ⟨vs, hvs, -⟩ := h
  obtain ⟨i, hi, rfl⟩ := List.getElem_of_mem hc
  exact ⟨_, List.Forall₂.get hvs hi (hvs.length_eq ▸ hi)⟩

theorem isDigit_of_denotes (h : Denotes 10 cs n) : ∀ c ∈ cs, c.isDigit = true := by
  intro c hc
  obtain ⟨v, hv⟩ := h.isDigit_of_mem hc
  exact isDigit_of_ten hv

/-- One more digit moves the number up by one place. -/
theorem Denotes.append_digit (h : Denotes base cs n) {c : Char} {v : Nat} (hc : IsDigit base c v) :
    Denotes base (cs ++ [c]) (base * n + v) := by
  obtain ⟨vs, hvs, rfl⟩ := h
  refine ⟨vs ++ [v], List.rel_append hvs (.cons hc .nil), ?_⟩
  rw [List.reverse_append, List.reverse_singleton, List.singleton_append, Nat.ofDigits_cons]
  exact Nat.add_comm _ _

theorem Denotes.replicate_zero_append (hbase : 0 < base) (h : Denotes base cs n) (k : Nat) :
    Denotes base (List.replicate k '0' ++ cs) n := by
  obtain ⟨vs, hvs, rfl⟩ := h
  have hzero : IsDigit base '0' 0 := ⟨hbase, .inl rfl⟩
  have hzeros : List.Forall₂ (IsDigit base) (List.replicate k '0') (List.replicate k 0) :=
    List.forall₂_iff_get.2 ⟨by simp, fun i _ _ => by simpa using hzero⟩
  refine ⟨List.replicate k 0 ++ vs, List.rel_append hzeros hvs, ?_⟩
  rw [List.reverse_append, List.reverse_replicate, Nat.ofDigits_append_replicate_zero]

/-- A digit may be written as a capital letter. -/
theorem isDigit_toUpper {c : Char} {v : Nat} (h : IsDigit base c v) :
    IsDigit base c.toUpper v := by
  have hsmall : smallDigits.map Char.toUpper = capitalDigits := by decide
  have hcapital : capitalDigits.map Char.toUpper = capitalDigits := by decide
  obtain ⟨hv, hc⟩ := h
  refine ⟨hv, .inr ?_⟩
  rcases hc with hc | hc
  · rw [← hsmall, List.getElem?_map, hc, Option.map_some]
  · rw [← hcapital, List.getElem?_map, hc, Option.map_some]

theorem Denotes.map_toUpper (h : Denotes base cs n) : Denotes base (cs.map Char.toUpper) n := by
  obtain ⟨vs, hvs, hn⟩ := h
  refine ⟨vs, ?_, hn⟩
  rw [List.forall₂_map_left_iff]
  exact hvs.imp fun _ _ => isDigit_toUpper

/-! ## What is written -/

theorem isDigit_digitChar (hbase : base ≤ 16) {v : Nat} (hv : v < base) :
    IsDigit base v.digitChar v := by
  have htable : ∀ v : Fin 16, smallDigits[v.val]? = some v.val.digitChar := by decide
  exact ⟨hv, .inl (htable ⟨v, by omega⟩)⟩

/-- The digits of a number denote it. -/
theorem denotes_toDigits (hone : 1 < base) (hbase : base ≤ 16) (n : Nat) :
    Denotes base (Nat.toDigits base n) n := by
  induction n using Nat.strong_induction_on with
  | _ n ih =>
    have hempty : Denotes base [] 0 := ⟨[], .nil, rfl⟩
    rw [Nat.toDigits_eq_if hone]
    split_ifs with hlt
    · simpa using hempty.append_digit (isDigit_digitChar hbase hlt)
    · have hdiv : n / base < n := Nat.div_lt_self (by omega) hone
      have hlast : IsDigit base (n % base).digitChar (n % base) :=
        isDigit_digitChar hbase (Nat.mod_lt n (by omega))
      have hall := (ih (n / base) hdiv).append_digit hlast
      rwa [Nat.div_add_mod] at hall

/-- A word in hexadecimal denotes its value. -/
theorem denotes_word (w : Word) :
    Denotes 16 ((hexDigits w.toNat).leftpad 8 '0') w.toNat :=
  (denotes_toDigits (by decide) (by decide) w.toNat).replicate_zero_append (by decide) _

theorem hexDigits_ne_nil (n : Nat) : hexDigits n ≠ [] :=
  Nat.toDigits_ne_nil

theorem toList_word (w : Word) :
    (word w).toList = ['0', 'x'] ++ (hexDigits w.toNat).leftpad 8 '0' := by
  rw [word, String.toList_append, String.toList_ofList, String.toList_ofList]

/-- A word fits its eight digits. -/
theorem length_toList_word (w : Word) : (word w).toList.length = 10 := by
  have hlen : (hexDigits w.toNat).length ≤ 8 :=
    (Nat.length_toDigits_le_iff (by decide) (by decide)).2 w.toNat_lt
  rw [toList_word, List.length_append, List.length_leftpad, Nat.max_eq_left hlen]
  rfl

/-- **A written word is that of one value.** -/
theorem word_inj {v w : Word} (h : word v = word w) : v = w := by
  have hdigits := congrArg String.toList h
  rw [toList_word, toList_word, List.append_cancel_left_eq] at hdigits
  have hv := denotes_word v
  rw [hdigits] at hv
  exact UInt32.toNat_inj.1 (hv.unique (by decide) (denotes_word w))

/-! ## Numerals without a sign -/

theorem IsNumeral.of_denotes (hne : cs ≠ []) (h : Denotes 10 cs n) : IsNumeral cs n :=
  .decimal (.inl rfl) hne h

theorem IsNumeral.of_denotes_announced {x : Char} (hx : x = 'x' ∨ x = 'X') (hne : cs ≠ [])
    (h : Denotes 16 cs n) : IsNumeral ('0' :: x :: cs) n :=
  .hexadecimal hx (.inl rfl) hne h

/-! ## Decimal numbers -/

theorem toList_toString (n : Nat) : (toString n).toList = Nat.toDigits 10 n := by
  rw [Nat.toString_eq_ofList_toDigits, String.toList_ofList]

theorem isDigit_of_mem_toString {c : Char} (h : c ∈ (toString n).toList) : c.isDigit = true := by
  rw [toList_toString] at h
  exact Nat.isDigit_of_mem_toDigits (by decide) (by decide) h

theorem toString_inj (h : toString m = toString n) : m = n := by
  rwa [Nat.toString_eq_repr, Nat.toString_eq_repr, Nat.repr_inj] at h

end Spirv.Numeral
