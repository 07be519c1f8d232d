/-
  Numbers of JSON.

  A number is an integer without needless zeros, perhaps with a fraction and an exponent, and
  perhaps with a minus sign in front (`NumberText`).  A text is that of one number
  (`NumberText.unique`), and ends where its characters are no longer those of numbers
  (`NumberText.isNumeric`).  A natural number in decimal is a text of itself
  (`numberText_toString`).
-/
import Spirv.Proofs.Boundary
import Spirv.Proofs.Numeral.Writing

namespace Spirv.Json

open Numeral (Denotes isDigit_of_denotes)

/-! ## Grammar -/

/-- The ways to write the integer of a number: no zero stands in front of other digits. -/
inductive IntegerText : Nat → List Char → Prop where
  | zero : IntegerText 0 ['0']
  | digits {n : Nat} {c : Char} {cs : List Char} (hlead : c ≠ '0')
      (h : Denotes 10 (c :: cs) n) : IntegerText n (c :: cs)

/-- The ways to write the fraction of a number. -/
inductive FractionText : ℚ → List Char → Prop where
  | absent : FractionText 0 []
  | digits {n : Nat} {cs : List Char} (hcs : cs ≠ []) (h : Denotes 10 cs n) :
      FractionText (n / 10 ^ cs.length) ('.' :: cs)

/-- The ways to write a whole number with a sign. -/
inductive SignedText : ℤ → List Char → Prop where
  | plain {n : Nat} {cs : List Char} (hcs : cs ≠ []) (h : Denotes 10 cs n) : SignedText n cs
  | plus {n : Nat} {cs : List Char} (hcs : cs ≠ []) (h : Denotes 10 cs n) :
      SignedText n ('+' :: cs)
  | minus {n : Nat} {cs : List Char} (hcs : cs ≠ []) (h : Denotes 10 cs n) :
      SignedText (-n) ('-' :: cs)

/-- The ways to write the exponent of a number. -/
inductive ExponentText : ℤ → List Char → Prop where
  | absent : ExponentText 0 []
  | marked {e : ℤ} {mark : Char} {cs : List Char} (hmark : mark = 'e' ∨ mark = 'E')
      (h : SignedText e cs) : ExponentText e (mark :: cs)

/-- The ways to write a number without a sign. -/
inductive MagnitudeText : ℚ → List Char → Prop where
  | intro {n : Nat} {f : ℚ} {e : ℤ} {int frac exp : List Char} (hint : IntegerText n int)
      (hfrac : FractionText f frac) (hexp : ExponentText e exp) :
      MagnitudeText ((n + f) * 10 ^ e) (int ++ (frac ++ exp))

/-- The ways to write a number. -/
inductive NumberText : ℚ → List Char → Prop where
  | positive {q : ℚ} {cs : List Char} (h : MagnitudeText q cs) : NumberText q cs
  | negative {q : ℚ} {cs : List Char} (h : MagnitudeText q cs) : NumberText (-q) ('-' :: cs)

/-- The characters of numbers. -/
def isNumeric (c : Char) : Bool :=
  c.isDigit || ['-', '+', '.', 'e', 'E'].contains c

/-! ## Characters -/

theorem isNumeric_of_isDigit {c : Char} (h : c.isDigit = true) : isNumeric c = true := by
  rw [isNumeric, h, Bool.true_or]

theorem IntegerText.denotes {n : Nat} {cs : List Char} (h : IntegerText n cs) :
    Denotes 10 cs n := by
  cases h with
  | zero => exact Numeral.denotes_toDigits (by decide) (by decide) 0
  | digits _ h => exact h

theorem IntegerText.ne_nil {n : Nat} {cs : List Char} (h : IntegerText n cs) : cs ≠ [] := by
  cases h <;> simp

theorem FractionText.head_eq {f : ℚ} {cs : List Char} (h : FractionText f cs) :
    ∀ c ∈ cs.head?, c = '.' := by
  cases h <;> simp

theorem ExponentText.head_eq {e : ℤ} {cs : List Char} (h : ExponentText e cs) :
    ∀ c ∈ cs.head?, c = 'e' ∨ c = 'E' := by
  cases h with
  | absent => simp
  | marked hmark => simpa using hmark

theorem ExponentText.not_isDigit_head {e : ℤ} {cs : List Char} (h : ExponentText e cs) :
    ∀ c ∈ cs.head?, c.isDigit = false := by
  intro c hc
  rcases h.head_eq c hc with rfl | rfl
  · rfl
  · rfl

theorem SignedText.isNumeric {e : ℤ} {cs : List Char} (h : SignedText e cs) :
    ∀ c ∈ cs, isNumeric c = true := by
  cases h with
  | plain hcs h => exact fun c hc => isNumeric_of_isDigit (isDigit_of_denotes h c hc)
  | plus hcs h | minus hcs h =>
    rw [List.forall_mem_cons]
    exact ⟨rfl, fun c hc => isNumeric_of_isDigit (isDigit_of_denotes h c hc)⟩

theorem MagnitudeText.isNumeric {q : ℚ} {cs : List Char} (h : MagnitudeText q cs) :
    ∀ c ∈ cs, isNumeric c = true := by
  obtain ⟨hint, hfrac, hexp⟩ := h
  simp only [List.forall_mem_append]
  refine ⟨fun c hc => isNumeric_of_isDigit (isDigit_of_denotes hint.denotes c hc), ?_, ?_⟩
  · cases hfrac with
    | absent => simp
    | digits _ hdigits =>
      rw [List.forall_mem_cons]
      exact ⟨rfl, fun c hc => isNumeric_of_isDigit (isDigit_of_denotes hdigits c hc)⟩
  · cases hexp with
    | absent => simp
    | marked hmark hsigned =>
      rw [List.forall_mem_cons]
      refine ⟨?_, hsigned.isNumeric⟩
      rcases hmark with rfl | rfl
      · rfl
      · rfl

/-- A number has characters of numbers only. -/
theorem NumberText.isNumeric {q : ℚ} {cs : List Char} (h : NumberText q cs) :
    ∀ c ∈ cs, isNumeric c = true := by
  cases h with
  | positive h => exact h.isNumeric
  | negative h =>
    rw [List.forall_mem_cons]
    exact ⟨rfl, h.isNumeric⟩

theorem MagnitudeText.exists_eq_cons {q : ℚ} {cs : List Char} (h : MagnitudeText q cs) :
    ∃ c tail, cs = c :: tail ∧ c.isDigit = true := by
  obtain ⟨hint, -, -⟩ := h
  obtain ⟨c, tail, rfl⟩ := List.exists_cons_of_ne_nil hint.ne_nil
  exact ⟨c, _, rfl, isDigit_of_denotes hint.denotes c List.mem_cons_self⟩

/-! ## Values -/

theorem SignedText.unique {e e' : ℤ} {cs : List Char} (h : SignedText e cs)
    (h' : SignedText e' cs) : e = e' := by
  have hsign : ∀ {c : Char} {cs : List Char} {n : Nat}, Denotes 10 (c :: cs) n →
      c.isDigit = true := fun h => isDigit_of_denotes h _ List.mem_cons_self
  cases h with
  | plain _ h =>
    cases h' with
    | plain _ h' => rw [h.unique (by decide) h']
    | plus _ _ => exact absurd (hsign h) (by decide)
    | minus _ _ => exact absurd (hsign h) (by decide)
  | plus _ h =>
    cases h' with
    | plain _ h' => exact absurd (hsign h') (by decide)
    | plus _ h' => rw [h.unique (by decide) h']
  | minus _ h =>
    cases h' with
    | plain _ h' => exact absurd (hsign h') (by decide)
    | minus _ h' => rw [h.unique (by decide) h']

theorem ExponentText.unique {e e' : ℤ} {cs : List Char} (h : ExponentText e cs)
    (h' : ExponentText e' cs) : e = e' := by
  cases h with
  | absent =>
    cases h'
    rfl
  | marked _ h =>
    cases h' with
    | marked _ h' => exact h.unique h'

/-- The fraction ends where an exponent begins, or nothing more follows. -/
theorem FractionText.unique {f f' : ℚ} {e e' : ℤ} {frac frac' exp exp' : List Char}
    (h : FractionText f frac) (h' : FractionText f' frac') (hexp : ExponentText e exp)
    (hexp' : ExponentText e' exp') (heq : frac ++ exp = frac' ++ exp') :
    f = f' ∧ exp = exp' := by
  -- An exponent does not begin like a fraction.
  have hpoint : ∀ {e : ℤ} {cs rest : List Char}, ExponentText e cs → cs ≠ '.' :: rest := by
    rintro e cs rest h rfl
    exact absurd (h.head_eq '.' rfl) (by decide)
  cases h with
  | absent =>
    cases h' with
    | absent => exact ⟨rfl, heq⟩
    | digits _ _ => exact absurd heq (hpoint hexp)
  | digits _ h =>
    cases h' with
    | absent => exact absurd heq.symm (hpoint hexp')
    | digits _ h' =>
      obtain ⟨rfl, hrest⟩ := append_inj_of_boundary (isDigit_of_denotes h)
        (isDigit_of_denotes h') hexp.not_isDigit_head hexp'.not_isDigit_head
        (List.cons.inj heq).2
      rw [h.unique (by decide) h']
      exact ⟨rfl, hrest⟩

theorem MagnitudeText.unique {q q' : ℚ} {cs : List Char} (h : MagnitudeText q cs)
    (h' : MagnitudeText q' cs) : q = q' := by
  have hnext : ∀ {f : ℚ} {e : ℤ} {frac exp : List Char}, FractionText f frac →
      ExponentText e exp → ∀ c ∈ (frac ++ exp).head?, c.isDigit = false := by
    intro f e frac exp hfrac hexp c hc
    rw [List.head?_append, Option.mem_def, Option.or_eq_some_iff] at hc
    rcases hc with hc | ⟨-, hc⟩
    · rw [hfrac.head_eq c hc]
      rfl
    · exact hexp.not_isDigit_head c hc
  generalize htext : cs = text at h'
  obtain ⟨hint, hfrac, hexp⟩ := h
  obtain ⟨hint', hfrac', hexp'⟩ := h'
  obtain ⟨rfl, heq⟩ := append_inj_of_boundary (isDigit_of_denotes hint.denotes)
    (isDigit_of_denotes hint'.denotes) (hnext hfrac hexp) (hnext hfrac' hexp') htext
  obtain ⟨rfl, rfl⟩ := hfrac.unique hfrac' hexp hexp' heq
  rw [hint.denotes.unique (by decide) hint'.denotes, hexp.unique hexp']

/-- **Numbers.** A text is that of one number. -/
theorem NumberText.unique {q q' : ℚ} {cs : List Char} (h : NumberText q cs)
    (h' : NumberText q' cs) : q = q' := by
  have hsign : ∀ {q : ℚ} {cs : List Char}, ¬ MagnitudeText q ('-' :: cs) := by
    intro q cs h
    obtain ⟨c, tail, heq, hc⟩ := h.exists_eq_cons
    rw [← (List.cons.inj heq).1] at hc
    cases hc
  cases h with
  | positive h =>
    cases h' with
    | positive h' => exact h.unique h'
    | negative _ => exact (hsign h).elim
  | negative h =>
    cases h' with
    | positive h' => exact (hsign h').elim
    | negative h' => rw [h.unique h']

/-! ## Natural numbers -/

/-- No needless zero is written. -/
theorem head?_toDigits_ne {n : Nat} (h : n ≠ 0) : (Nat.toDigits 10 n).head? ≠ some '0' := by
  induction n using Nat.strong_induction_on with
  | _ n ih =>
    rw [Nat.toDigits_eq_if (by decide)]
    split_ifs with hlt
    · have htable : ∀ d : Fin 10, d.val ≠ 0 → [d.val.digitChar].head? ≠ some '0' := by decide
      exact htable ⟨n, hlt⟩ h
    · have hfirst := ih (n / 10) (by omega) (by omega)
      obtain ⟨c, cs, heq⟩ := List.exists_cons_of_ne_nil (Nat.toDigits_ne_nil (b := 10) (n := n / 10))
      rw [heq] at hfirst ⊢
      exact hfirst

theorem integerText_toDigits (n : Nat) : IntegerText n (Nat.toDigits 10 n) := by
  have hdenotes : Denotes 10 (Nat.toDigits 10 n) n :=
    Numeral.denotes_toDigits (by decide) (by decide) n
  by_cases hn : n = 0
  · subst hn
    exact .zero
  · have hlead := head?_toDigits_ne hn
    obtain ⟨c, cs, heq⟩ := List.exists_cons_of_ne_nil (Nat.toDigits_ne_nil (b := 10) (n := n))
    rw [heq] at hdenotes hlead ⊢
    exact .digits (fun hc => hlead (congrArg some hc)) hdenotes

/-- A natural number in decimal is a number of JSON. -/
theorem numberText_toString (n : Nat) : NumberText n (toString n).toList := by
  have h : NumberText ((n + 0) * 10 ^ (0 : ℤ)) (Nat.toDigits 10 n ++ ([] ++ [])) :=
    .positive (.intro (integerText_toDigits n) .absent .absent)
  rw [Numeral.toList_toString]
  simpa using h

end Spirv.Json
