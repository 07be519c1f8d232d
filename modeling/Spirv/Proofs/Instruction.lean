/-
  Instructions against their format.

  An instruction is well formed when its first word states its operation and the number of
  its words (`wellFormed_mk_iff`).

  In a list of instructions that are written one after the other, `startOf insts i` is the
  place of the i-th.  Each place below the total length lies in exactly one of them
  (`existsUnique_covers`).
-/
import Mathlib
import Spirv.Instruction

namespace Spirv.Instruction

/-! ## Well-formed instructions -/

theorem Header.wordCount_ne_zero {header : Header} (hpos : 0 < header.wordCount.toNat) :
    header.wordCount ≠ 0 := by
  intro hzero
  rw [hzero] at hpos
  exact absurd hpos (Nat.lt_irrefl 0)

theorem toNat_wordCount_headerFor {op : Opcode} {n : Nat} (h : n ≤ maxOperands) :
    (headerFor op n).wordCount.toNat = 1 + n := by
  unfold maxOperands at h
  rw [headerFor, UInt16.toNat_ofNat']
  omega

/-- An instruction is well formed exactly when its header states its operation and the
    number of its words. -/
theorem wellFormed_mk_iff {op : Opcode} {head : Word} {operands : List Word} :
    (⟨op, head :: operands⟩ : Instruction).WellFormed ↔
      (Header.ofWord head).code = op.code ∧
        (Header.ofWord head).wordCount.toNat = 1 + operands.length := by
  constructor
  · rintro ⟨hwords, hlen⟩
    have hhead : head = (headerFor op operands.length).toWord := (List.cons.inj hwords).1
    rw [hhead, Header.ofWord_toWord]
    exact ⟨rfl, toNat_wordCount_headerFor hlen⟩
  · rintro ⟨hcode, hcount⟩
    have hlt := (Header.ofWord head).wordCount.toNat_lt
    have hlen : operands.length ≤ maxOperands := by
      unfold maxOperands
      omega
    have hheader : Header.ofWord head = headerFor op operands.length := by
      have hwc : (Header.ofWord head).wordCount = (headerFor op operands.length).wordCount := by
        apply UInt16.toNat_inj.1
        rw [hcount, toNat_wordCount_headerFor hlen]
      calc Header.ofWord head
          = ⟨(Header.ofWord head).wordCount, (Header.ofWord head).code⟩ := rfl
        _ = headerFor op operands.length := by rw [hwc, hcode]; rfl
    refine ⟨?_, hlen⟩
    show head :: operands = (headerFor op operands.length).toWord :: operands
    rw [← hheader, Header.toWord_ofWord]

/-- A well-formed instruction has a first word, and it states what follows. -/
theorem WellFormed.exists_head {inst : Instruction} (h : inst.WellFormed) :
    ∃ head, inst.words = head :: inst.operands ∧
      (Header.ofWord head).code = inst.opcode.code ∧
      (Header.ofWord head).wordCount.toNat = inst.wordCount := by
  refine ⟨_, h.words_eq, ?_, ?_⟩
  · rw [Header.ofWord_toWord]
    rfl
  · rw [Header.ofWord_toWord, toNat_wordCount_headerFor h.length_le, wordCount, h.words_eq,
      List.length_cons]
    exact Nat.add_comm _ _

theorem WellFormed.one_le_wordCount {inst : Instruction} (h : inst.WellFormed) :
    1 ≤ inst.wordCount := by
  obtain ⟨head, hwords, -, -⟩ := h.exists_head
  rw [wordCount, hwords, List.length_cons]
  omega

/-! ## In front of other words -/

theorem take_encode_append (order : ByteOrder) (inst : Instruction) (rest : List Word) :
    (encode order inst ++ rest).take inst.wordCount = encode order inst := by
  rw [← length_encode order inst, List.take_left]

theorem drop_encode_append (order : ByteOrder) (inst : Instruction) (rest : List Word) :
    (encode order inst ++ rest).drop inst.wordCount = rest := by
  rw [← length_encode order inst, List.drop_left]

/-! ## Instructions in a row -/

theorem length_encodeAll (order : ByteOrder) (insts : List Instruction) :
    (encodeAll order insts).length = (insts.map wordCount).sum := by
  induction insts with
  | nil => rfl
  | cons inst insts ih =>
    rw [encodeAll_cons, List.length_append, length_encode, ih, List.map_cons, List.sum_cons]

/-- The words of a row are corrected one by one. -/
theorem encodeAll_eq_map (order : ByteOrder) (insts : List Instruction) :
    encodeAll order insts = (insts.flatMap words).map order.toHost := by
  rw [List.map_flatMap]
  rfl

/-- The place of the i-th instruction of a row, in words from the start of the first. -/
def startOf (insts : List Instruction) (i : Nat) : Nat :=
  ((insts.take i).map wordCount).sum

@[simp] theorem startOf_zero (insts : List Instruction) : startOf insts 0 = 0 := rfl

@[simp] theorem startOf_cons_succ (inst : Instruction) (insts : List Instruction) (i : Nat) :
    startOf (inst :: insts) (i + 1) = inst.wordCount + startOf insts i := by
  rw [startOf, List.take_succ_cons, List.map_cons, List.sum_cons, startOf]

/-- The instruction at position `i` of a row covers the place `p`. -/
def Covers (insts : List Instruction) (p i : Nat) : Prop :=
  ∃ inst, insts[i]? = some inst ∧ startOf insts i ≤ p ∧ p < startOf insts i + inst.wordCount

theorem covers_cons_zero {inst : Instruction} {insts : List Instruction} {p : Nat} :
    Covers (inst :: insts) p 0 ↔ p < inst.wordCount := by
  simp [Covers]

theorem covers_cons_succ {inst : Instruction} {insts : List Instruction} {p i : Nat} :
    Covers (inst :: insts) p (i + 1) ↔
      inst.wordCount ≤ p ∧ Covers insts (p - inst.wordCount) i := by
  simp only [Covers, List.getElem?_cons_succ, startOf_cons_succ]
  constructor
  · rintro ⟨covering, hget, hle, hlt⟩
    exact ⟨by omega, covering, hget, by omega, by omega⟩
  · rintro ⟨hp, covering, hget, hle, hlt⟩
    exact ⟨covering, hget, by omega, by omega⟩

/-- **Each place belongs to one instruction.**  A place below the length of a row is
    covered by exactly one of its instructions. -/
theorem existsUnique_covers {insts : List Instruction} {p : Nat}
    (hp : p < (insts.map wordCount).sum) : ∃! i, Covers insts p i := by
  induction insts generalizing p with
  | nil => simp at hp
  | cons inst insts ih =>
    rw [List.map_cons, List.sum_cons] at hp
    by_cases hfirst : p < inst.wordCount
    · refine ⟨0, covers_cons_zero.2 hfirst, ?_⟩
      intro i hi
      cases i with
      | zero => rfl
      | succ i =>
        have := (covers_cons_succ.1 hi).1
        omega
    · have hrest : p - inst.wordCount < (insts.map wordCount).sum := by omega
      obtain ⟨i, hi, huniq⟩ := ih hrest
      refine ⟨i + 1, covers_cons_succ.2 ⟨by omega, hi⟩, ?_⟩
      intro j hj
      cases j with
      | zero => exact absurd (covers_cons_zero.1 hj) hfirst
      | succ j => rw [huniq j (covers_cons_succ.1 hj).2]

end Spirv.Instruction
