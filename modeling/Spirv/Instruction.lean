/-
  Instructions.

  An `Instruction` is an operation together with its corrected words, the header first.
  `copy` takes one from the front of a run of raw words, given the operation and the
  length that a caller has read from the header; it splits the corrected header once more
  and refuses a caller who declares something else.  `encode` writes the words back
  (`encode_of_copy`).
-/
import Spirv.ByteOrder
import Spirv.Opcode

namespace Spirv

/-- An operation and its words. -/
structure Instruction where
  opcode : Opcode
  /-- The words of the instruction, corrected, the header first. -/
  words : List Word
  deriving DecidableEq

namespace Instruction

/-- The number of words, the header included. -/
def wordCount (inst : Instruction) : Nat :=
  inst.words.length

/-- The words after the header. -/
def operands (inst : Instruction) : List Word :=
  inst.words.drop 1

/-- The operand at the given position, counted from the first word after the header. -/
def operand? (inst : Instruction) (i : Nat) : Option Word :=
  inst.operands[i]?

/-! ## Copying from raw words -/

/-- The instruction in the first `count` of the raw words.  An instruction of no words has
    no header to compare.  An inconsistency is returned, as in a released program; with debug
    assertions the program stops instead. -/
def copy (raw : List Word) (op : Opcode) (count : UInt16) (order : ByteOrder) :
    Except Error Instruction :=
  let run := raw.take count.toNat
  if run.length < count.toNat then
    .error (.inconsistent (.shortInput count raw.length))
  else
    let fixed := run.map order.toHost
    match fixed with
    | [] => .ok ⟨op, fixed⟩
    | head :: _ =>
      let declared : Header := ⟨count, op.code⟩
      let found := Header.ofWord head
      if found = declared then .ok ⟨op, fixed⟩
      else .error (.inconsistent (.headerMismatch declared found))

/-! ## Writing -/

/-- The most operands that an instruction can have: the word count has 16 bits and counts
    the header. -/
def maxOperands : Nat := 65534

/-- The header of an instruction with the given number of operands. -/
def headerFor (op : Opcode) (operandCount : Nat) : Header :=
  ⟨UInt16.ofNat (1 + operandCount), op.code⟩

/-- The instruction with the given operation and operands. -/
def ofOperands (op : Opcode) (operands : List Word) : Instruction :=
  ⟨op, (headerFor op operands.length).toWord :: operands⟩

/-- The words of the instruction as a stream in the given order holds them. -/
def encode (order : ByteOrder) (inst : Instruction) : List Word :=
  inst.words.map order.toHost

/-- The words of the instructions, one after the other. -/
def encodeAll (order : ByteOrder) (insts : List Instruction) : List Word :=
  insts.flatMap (encode order)

/-- The words begin with a header that states the operation and their number. -/
structure WellFormed (inst : Instruction) : Prop where
  words_eq : inst.words = (headerFor inst.opcode inst.operands.length).toWord :: inst.operands
  length_le : inst.operands.length ≤ maxOperands

/-! ## Small facts -/

@[simp] theorem wordCount_ofOperands (op : Opcode) (operands : List Word) :
    (ofOperands op operands).wordCount = 1 + operands.length := by
  simp [ofOperands, wordCount, Nat.add_comm]

theorem wellFormed_ofOperands {op : Opcode} {operands : List Word}
    (h : operands.length ≤ maxOperands) : (ofOperands op operands).WellFormed :=
  ⟨rfl, h⟩

@[simp] theorem length_encode (order : ByteOrder) (inst : Instruction) :
    (encode order inst).length = inst.wordCount := by
  simp [encode, wordCount]

theorem encodeAll_cons (order : ByteOrder) (inst : Instruction) (insts : List Instruction) :
    encodeAll order (inst :: insts) = encode order inst ++ encodeAll order insts := rfl

/-- What a successful copy holds. -/
theorem copy_eq_ok {raw : List Word} {op : Opcode} {count : UInt16} {order : ByteOrder}
    {inst : Instruction} (h : copy raw op count order = .ok inst) :
    count.toNat ≤ raw.length ∧ inst = ⟨op, (raw.take count.toNat).map order.toHost⟩ := by
  unfold copy at h
  simp only at h
  split at h
  · cases h
  · rename_i hlen
    refine ⟨by rw [List.length_take] at hlen; omega, ?_⟩
    split at h
    · cases h
      rfl
    · split at h
      · cases h
        rfl
      · cases h

theorem encode_of_copy {raw : List Word} {op : Opcode} {count : UInt16} {order : ByteOrder}
    {inst : Instruction} (h : copy raw op count order = .ok inst) :
    inst.encode order = raw.take count.toNat := by
  rw [(copy_eq_ok h).2, encode]
  exact ByteOrder.map_toHost_map_toHost order _

theorem wordCount_of_copy {raw : List Word} {op : Opcode} {count : UInt16} {order : ByteOrder}
    {inst : Instruction} (h : copy raw op count order = .ok inst) :
    inst.wordCount = count.toNat := by
  obtain ⟨hlen, rfl⟩ := copy_eq_ok h
  simp [wordCount, List.length_take, Nat.min_eq_left hlen]

end Instruction

end Spirv
