/-
  Instruction headers.

  The first word of an instruction holds its length in words, itself included, in the
  high half and its operation code in the low half.  `toWord` joins the two fields and
  `ofWord` splits them; each is the inverse of the other (`ofWord_toWord`,
  `toWord_ofWord`).  Neither field is checked here.
-/
import Spirv.Word

namespace Spirv.Instruction

/-- The two fields of an instruction's first word. -/
structure Header where
  /-- Length of the instruction in words, the header included. -/
  wordCount : UInt16
  /-- Operation code. -/
  code : UInt16
  deriving DecidableEq

namespace Header

/-- Mask of the operation code. -/
def codeMask : Word := 0xffff

/-- Mask of the word count, after it has been shifted down. -/
def countMask : Word := 0xffff

/-- Distance of the word count from bit 0. -/
def countShift : Word := 16

/-- The header as a word. -/
def toWord (h : Header) : Word :=
  h.code.toUInt32 ||| h.wordCount.toUInt32 <<< countShift

/-- The word count in a header word. -/
def countOf (w : Word) : UInt16 :=
  ((w >>> countShift) &&& countMask).toUInt16

/-- The operation code in a header word. -/
def codeOf (w : Word) : UInt16 :=
  (w &&& codeMask).toUInt16

/-- The fields of a header word. -/
def ofWord (w : Word) : Header :=
  ⟨countOf w, codeOf w⟩

/-! ## The fields as numbers -/

theorem toNat_toWord (h : Header) :
    h.toWord.toNat = 65536 * h.wordCount.toNat + h.code.toNat := by
  have hc := h.code.toNat_lt
  have hn := h.wordCount.toNat_lt
  simp only [toWord, countShift, UInt32.toNat_or, UInt32.toNat_shiftLeft, UInt16.toNat_toUInt32,
    UInt32.reduceToNat, Nat.reduceMod]
  rw [Nat.mod_eq_of_lt (by rw [Nat.shiftLeft_eq]; omega), Nat.or_comm,
    ← Nat.shiftLeft_add_eq_or_of_lt (by omega), Nat.shiftLeft_eq]
  omega

theorem toNat_countOf (w : Word) : (countOf w).toNat = w.toNat / 65536 := by
  have hw := w.toNat_lt
  simp only [countOf, countShift, countMask, UInt32.toNat_toUInt16, UInt32.toNat_and,
    UInt32.toNat_shiftRight, UInt32.reduceToNat, Nat.reduceMod]
  rw [show (65535 : Nat) = 2 ^ 16 - 1 by rfl, Nat.and_two_pow_sub_one_eq_mod,
    Nat.shiftRight_eq_div_pow]
  omega

theorem toNat_codeOf (w : Word) : (codeOf w).toNat = w.toNat % 65536 := by
  simp only [codeOf, codeMask, UInt32.toNat_toUInt16, UInt32.toNat_and, UInt32.reduceToNat]
  rw [show (65535 : Nat) = 2 ^ 16 - 1 by rfl, Nat.and_two_pow_sub_one_eq_mod]
  omega

/-! ## The two directions are inverse -/

@[simp] theorem ofWord_toWord (h : Header) : ofWord h.toWord = h := by
  have hc := h.code.toNat_lt
  have hn := h.wordCount.toNat_lt
  have hcount : countOf h.toWord = h.wordCount := by
    apply UInt16.toNat_inj.1
    rw [toNat_countOf, toNat_toWord]
    omega
  have hcode : codeOf h.toWord = h.code := by
    apply UInt16.toNat_inj.1
    rw [toNat_codeOf, toNat_toWord]
    omega
  rw [ofWord, hcount, hcode]

@[simp] theorem toWord_ofWord (w : Word) : (ofWord w).toWord = w := by
  apply UInt32.toNat_inj.1
  rw [toNat_toWord]
  simp only [ofWord, toNat_countOf, toNat_codeOf]
  omega

end Header

end Spirv.Instruction
