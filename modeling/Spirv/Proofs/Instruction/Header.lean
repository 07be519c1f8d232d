/-
  Headers against words.

  A header word has 32 bits, of which the low half is the operation code and the high half the
  word count.  `testBit_toWord` says of each bit of a word from which field it comes;
  `testBit_codeOf` and `testBit_countOf` say of each bit of a field where it stands in the word.
  No bit of a word is in both fields, so these can be chosen freely and tell the word
  (`toWord_bijective`), and an operation is found again by its code in each of its headers
  (`ofCode_codeOf_toWord`).

  Main statement: `fields_of_words`.
-/
import Spirv.Instruction.Header
import Spirv.Proofs.Opcode.Resolver

namespace Spirv.Instruction.Header

/-! ## Bits -/

/-- The bits of a header word are those of the code and, above them, those of the count. -/
theorem testBit_toWord (header : Header) (i : Nat) :
    header.toWord.toNat.testBit i =
      if i < 16 then header.code.toNat.testBit i else header.wordCount.toNat.testBit (i - 16) := by
  rw [toNat_toWord]
  exact Nat.testBit_two_pow_mul_add header.wordCount.toNat header.code.toNat_lt i

/-- The bits of the code are the low ones of the word. -/
theorem testBit_codeOf (w : Word) (i : Nat) :
    (codeOf w).toNat.testBit i = (decide (i < 16) && w.toNat.testBit i) := by
  rw [toNat_codeOf, show 65536 = 2 ^ 16 by rfl, Nat.testBit_mod_two_pow]

/-- The bits of the count are the high ones of the word. -/
theorem testBit_countOf (w : Word) (i : Nat) :
    (countOf w).toNat.testBit i = w.toNat.testBit (i + 16) := by
  rw [toNat_countOf, show 65536 = 2 ^ 16 by rfl, Nat.testBit_div_two_pow]

/-! ## Fields -/

theorem countOf_toWord (count code : UInt16) : countOf (toWord ⟨count, code⟩) = count :=
  congrArg wordCount (ofWord_toWord ⟨count, code⟩)

theorem codeOf_toWord (count code : UInt16) : codeOf (toWord ⟨count, code⟩) = code :=
  congrArg Header.code (ofWord_toWord ⟨count, code⟩)

theorem toWord_bijective : Function.Bijective toWord :=
  Function.bijective_iff_has_inverse.2 ⟨ofWord, ofWord_toWord, toWord_ofWord⟩

/-! ## Operations -/

/-- The code in a header of an operation is resolved to the operation, whatever the count. -/
theorem ofCode_codeOf_toWord (op : Opcode) (count : UInt16) :
    Opcode.ofCode (codeOf (toWord ⟨count, op.code⟩)) = .ok op := by
  rw [codeOf_toWord, Opcode.ofCode_eq_ok_iff]

theorem ofNumber_codeOf_toWord (op : Opcode) (count : UInt16) :
    Opcode.ofNumber (codeOf (toWord ⟨count, op.code⟩)).toUInt32 = .ok op := by
  rw [codeOf_toWord]
  apply Opcode.ofNumber_of_code
  rw [UInt16.toNat_toUInt32]

/-- **Headers are words.**  The fields of a header are read back from its word, and the word is
    made again of its fields, so headers and words correspond.  The fields that are read one by
    one are those that are read together, and each is told by 16 bits of the word that have no
    part in the other.  The operation of a header is found again by its code, whatever the
    count. -/
theorem fields_of_words :
    (∀ count code, ofWord (toWord ⟨count, code⟩) = ⟨count, code⟩) ∧
    (∀ w, (ofWord w).toWord = w) ∧
    Function.Bijective toWord ∧
    (∀ w, countOf w = (ofWord w).wordCount ∧ codeOf w = (ofWord w).code) ∧
    (∀ count code,
      countOf (toWord ⟨count, code⟩) = count ∧ codeOf (toWord ⟨count, code⟩) = code) ∧
    (∀ (op : Opcode) count,
      Opcode.ofCode (codeOf (toWord ⟨count, op.code⟩)) = .ok op ∧
      Opcode.ofNumber (codeOf (toWord ⟨count, op.code⟩)).toUInt32 = .ok op) ∧
    (∀ count code i, (toWord ⟨count, code⟩).toNat.testBit i =
      if i < 16 then code.toNat.testBit i else count.toNat.testBit (i - 16)) ∧
    ∀ w i, (codeOf w).toNat.testBit i = (decide (i < 16) && w.toNat.testBit i) ∧
      (countOf w).toNat.testBit i = w.toNat.testBit (i + 16) := by
  refine ⟨fun _ _ => ofWord_toWord _, toWord_ofWord, toWord_bijective, fun _ => ⟨rfl, rfl⟩, ?_,
    ?_, fun _ _ => testBit_toWord _, ?_⟩
  · intro count code
    exact ⟨countOf_toWord count code, codeOf_toWord count code⟩
  · intro op count
    exact ⟨ofCode_codeOf_toWord op count, ofNumber_codeOf_toWord op count⟩
  · intro w i
    exact ⟨testBit_codeOf w i, testBit_countOf w i⟩

example : toWord ⟨0xffff, 0⟩ = 0xffff0000 ∧ toWord ⟨0, 0xffff⟩ = 0x0000ffff := by
  decide

end Spirv.Instruction.Header
