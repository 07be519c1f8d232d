/-
  Numbers in queries, and what is printed for the id of a tool.

  A text is read as a number exactly if it is a numeral of it, and is refused with the whole
  text in every other case (`number_eq_ok_iff`, `number_eq_error_iff`).  `Unfit cs` lists ways
  in which characters are no numeral of 32 bits; a number that is written, in decimal or in
  hexadecimal, is read back with any number of zeros in front (`number_decimal`,
  `number_hexadecimal`).

  The answer to a query for a tool is the number in decimal and the label of its tool
  (`generatorText_eq_ok_iff`), so it is the same for all numerals of one number.

  Main statement: which queries are numbers, and what is answered (`generatorText_queries`).
-/
import Spirv.Command.Run
import Spirv.Proofs.Generator
import Spirv.Proofs.Numeral.Writing

namespace Spirv.Command

open Spirv.Numeral (IsNumeral IsSign IsDigit Denotes hexDigits)

/-- Characters that are no numeral of a number of 32 bits. -/
inductive Unfit : List Char → Prop where
  | empty : Unfit []
  | bareSign : Unfit ['+']
  | barePrefix {x : Char} {sign : List Char} (hx : x = 'x' ∨ x = 'X') (hsign : IsSign sign) :
      Unfit ('0' :: x :: sign)
  | repeatedPrefix {x x' : Char} {cs : List Char} (hx : x = 'x' ∨ x = 'X')
      (hx' : x' = 'x' ∨ x' = 'X') : Unfit ('0' :: x :: '0' :: x' :: cs)
  | strangeCharacter {c : Char} {cs : List Char} (hc : c ∈ cs) (hsign : c ≠ '+')
      (hx : c ≠ 'x' ∧ c ≠ 'X') (hdigit : ∀ v, ¬ IsDigit 16 c v) : Unfit cs
  | large {cs : List Char} {n : Nat} (h : IsNumeral cs n) (hn : UInt32.size ≤ n) : Unfit cs

/-! ## What a number is read from -/

theorem number_eq_ok_iff {text : String} {n : UInt32} :
    number text = .ok n ↔ IsNumeral text.toList n.toNat := by
  rw [← Numeral.read?_eq_some_iff, number]
  cases Numeral.read? text <;> simp

theorem number_eq_error_iff {text : String} {e : CommandError} :
    number text = .error e ↔
      e = .badNumber text ∧ ∀ n : UInt32, ¬ IsNumeral text.toList n.toNat := by
  simp only [← Numeral.read?_eq_some_iff, ← ne_eq, ← Option.eq_none_iff_forall_ne_some]
  unfold number
  cases Numeral.read? text with
  | none => simp [eq_comm]
  | some n => simp

/-- The characters of a numeral are digits, a sign and the letter of a prefix. -/
theorem mem_of_isNumeral {cs : List Char} {n : Nat} (h : IsNumeral cs n) {c : Char} (hc : c ∈ cs) :
    c = '+' ∨ c = 'x' ∨ c = 'X' ∨ ∃ v, IsDigit 16 c v := by
  have hsigned : ∀ {base : Nat} {sign digits : List Char} {m : Nat}, base ≤ 16 → IsSign sign →
      Denotes base digits m → c ∈ sign ++ digits → c = '+' ∨ ∃ v, IsDigit 16 c v := by
    intro base sign digits m hbase hsign hdigits hmem
    rcases List.mem_append.1 hmem with hmem | hmem
    · rcases hsign with rfl | rfl
      · cases hmem
      · exact .inl (List.mem_singleton.1 hmem)
    · obtain ⟨v, hv, hchar⟩ := hdigits.isDigit_of_mem hmem
      exact .inr ⟨v, by omega, hchar⟩
  cases h with
  | decimal hsign _ h =>
    rcases hsigned (by decide) hsign h hc with hplus | hdigit
    · exact .inl hplus
    · exact .inr (.inr (.inr hdigit))
  | hexadecimal hx hsign _ h =>
    rcases List.mem_cons.1 hc with rfl | hc
    · exact .inr (.inr (.inr ⟨0, by decide, .inl rfl⟩))
    rcases List.mem_cons.1 hc with rfl | hc
    · rcases hx with rfl | rfl
      · exact .inr (.inl rfl)
      · exact .inr (.inr (.inl rfl))
    rcases hsigned (by decide) hsign h hc with hplus | hdigit
    · exact .inl hplus
    · exact .inr (.inr (.inr hdigit))

theorem Unfit.not_isNumeral {cs : List Char} (h : Unfit cs) (n : UInt32) :
    ¬ IsNumeral cs n.toNat := by
  intro hnumeral
  have hvalue := Numeral.isNumeral_iff.1 hnumeral
  cases h with
  | empty => cases hvalue
  | bareSign => cases hvalue
  | barePrefix hx hsign =>
    rcases hx with rfl | rfl <;> rcases hsign with rfl | rfl <;> cases hvalue
  | repeatedPrefix hx hx' =>
    rcases hx with rfl | rfl <;> rcases hx' with rfl | rfl <;> cases hvalue
  | strangeCharacter hc hsign hx hdigit =>
    rcases mem_of_isNumeral hnumeral hc with hplus | hsmall | hcapital | ⟨v, hv⟩
    · exact hsign hplus
    · exact hx.1 hsmall
    · exact hx.2 hcapital
    · exact hdigit v hv
  | large h hn =>
    have hlt := n.toNat_lt_size
    have heq := hnumeral.unique h
    omega

theorem number_of_unfit {text : String} (h : Unfit text.toList) :
    number text = .error (.badNumber text) :=
  number_eq_error_iff.2 ⟨rfl, h.not_isNumeral⟩

/-! ## Written numbers -/

/-- A number in decimal is read back. -/
theorem number_decimal (n : UInt32) (zeros : Nat) :
    number (String.ofList (List.replicate zeros '0' ++ Nat.toDigits 10 n.toNat)) = .ok n := by
  have h := (Numeral.denotes_toDigits (by decide) (by decide) n.toNat).replicate_zero_append
    (by decide : 0 < 10) zeros
  rw [number_eq_ok_iff, String.toList_ofList]
  exact .of_denotes (List.append_ne_nil_of_right_ne_nil _ Nat.toDigits_ne_nil) h

/-- A number in hexadecimal is read back, whichever way its letters are written. -/
theorem number_hexadecimal (n : UInt32) (zeros : Nat) {x : Char} (hx : x = 'x' ∨ x = 'X') :
    number (String.ofList ('0' :: x :: (List.replicate zeros '0' ++ hexDigits n.toNat))) = .ok n ∧
    number (String.ofList ('0' :: x ::
      (List.replicate zeros '0' ++ (hexDigits n.toNat).map Char.toUpper))) = .ok n := by
  have h : Denotes 16 (hexDigits n.toNat) n.toNat :=
    Numeral.denotes_toDigits (by decide) (by decide) n.toNat
  have hne := Numeral.hexDigits_ne_nil n.toNat
  rw [number_eq_ok_iff, number_eq_ok_iff, String.toList_ofList, String.toList_ofList]
  refine ⟨.of_denotes_announced hx ?_ ?_, .of_denotes_announced hx ?_ ?_⟩
  · exact List.append_ne_nil_of_right_ne_nil _ hne
  · exact h.replicate_zero_append (by decide) zeros
  · exact List.append_ne_nil_of_right_ne_nil _ (mt List.map_eq_nil_iff.1 hne)
  · exact h.map_toUpper.replicate_zero_append (by decide) zeros

/-! ## Tools -/

/-- The answer to a query for a tool. -/
theorem generatorText_eq_ok_iff {query text : String} :
    generatorText query = .ok text ↔ ∃ (n : UInt32) (label : String),
      IsNumeral query.toList n.toNat ∧ Generator.Labelled n.toNat label ∧
        text = toString n.toNat ++ ": " ++ label ++ "\n" := by
  have hanswer : generatorText query = .ok text ↔
      ∃ n, number query = .ok n ∧ text = Generator.summary n := by
    unfold generatorText
    cases number query <;> simp [eq_comm]
  rw [hanswer]
  constructor
  · rintro ⟨n, hn, rfl⟩
    exact ⟨n, Generator.label n, number_eq_ok_iff.1 hn, Generator.labelled_label n, rfl⟩
  · rintro ⟨n, label, hn, hlabel, rfl⟩
    obtain rfl := Generator.label_eq_iff.2 hlabel
    exact ⟨n, number_eq_ok_iff.2 hn, rfl⟩

theorem generatorText_eq_error_iff {query : String} {e : CommandError} :
    generatorText query = .error e ↔
      e = .badNumber query ∧ ∀ n : UInt32, ¬ IsNumeral query.toList n.toNat := by
  rw [← number_eq_error_iff]
  unfold generatorText
  cases number query <;> simp

/-- Numerals of one number have the same answer. -/
theorem generatorText_congr {p q : String} {n : UInt32} (hp : IsNumeral p.toList n.toNat)
    (hq : IsNumeral q.toList n.toNat) : generatorText p = generatorText q := by
  rw [generatorText, generatorText, number_eq_ok_iff.2 hp, number_eq_ok_iff.2 hq]

/-- **Numbers and tools.**  A text is a number exactly if it is a numeral of 32 bits, and every
    other text is refused with all of it; among these are the texts that are unfit.  A number
    that is written is read back.  A query for a tool is answered exactly if it is a number, and
    the answer is this number in decimal and the label of the one tool with this id. -/
theorem generatorText_queries :
    (∀ text (n : UInt32), number text = .ok n ↔ IsNumeral text.toList n.toNat) ∧
    (∀ text e, number text = .error e ↔
      e = .badNumber text ∧ ∀ n : UInt32, ¬ IsNumeral text.toList n.toNat) ∧
    (∀ text, Unfit text.toList → number text = .error (.badNumber text)) ∧
    (∀ n : UInt32, number (toString n) = .ok n ∧ number (Numeral.word n) = .ok n ∧
      (∀ zeros, number (String.ofList
        (List.replicate zeros '0' ++ Nat.toDigits 10 n.toNat)) = .ok n) ∧
      ∀ zeros x, x = 'x' ∨ x = 'X' →
        number (String.ofList ('0' :: x ::
          (List.replicate zeros '0' ++ hexDigits n.toNat))) = .ok n ∧
        number (String.ofList ('0' :: x ::
          (List.replicate zeros '0' ++ (hexDigits n.toNat).map Char.toUpper))) = .ok n) ∧
    (∀ query text, generatorText query = .ok text ↔ ∃ (n : UInt32) (label : String),
      IsNumeral query.toList n.toNat ∧ Generator.Labelled n.toNat label ∧
        text = toString n.toNat ++ ": " ++ label ++ "\n") ∧
    (∀ query e, generatorText query = .error e ↔
      e = .badNumber query ∧ ∀ n : UInt32, ¬ IsNumeral query.toList n.toNat) ∧
    ∀ p q (n : UInt32), IsNumeral p.toList n.toNat → IsNumeral q.toList n.toNat →
      generatorText p = generatorText q := by
  refine ⟨fun _ _ => number_eq_ok_iff, fun _ _ => number_eq_error_iff, fun _ => number_of_unfit,
    ?_, fun _ _ => generatorText_eq_ok_iff, fun _ _ => generatorText_eq_error_iff,
    fun _ _ _ => generatorText_congr⟩
  intro n
  refine ⟨?_, ?_, number_decimal n, fun zeros x hx => number_hexadecimal n zeros hx⟩
  · have h := number_decimal n 0
    rwa [List.replicate_zero, List.nil_append, ← Nat.toString_eq_ofList_toDigits] at h
  · have hne : (hexDigits n.toNat).leftpad 8 '0' ≠ [] :=
      List.append_ne_nil_of_right_ne_nil _ (Numeral.hexDigits_ne_nil n.toNat)
    rw [number_eq_ok_iff, Numeral.toList_word]
    exact .of_denotes_announced (.inl rfl) hne (Numeral.denotes_word n)

example : generatorText "0X+001B" = .ok "27: Embark Studios Rust GPU Compiler Backend\n" := by
  decide +kernel

end Spirv.Command
