/-
  Assembly: operations with their operands, before they are written as words.

  `Line.words` puts the header in front of the operands and `assemble` joins the words of
  several lines.  The words that a stream in some order holds for them are those of the
  well-formed instructions that the lines stand for (`encodeAll_map_instruction`).
-/
import Spirv.Proofs.Instruction

namespace Spirv

/-- An operation and its operands, no more than a header can count. -/
structure Line where
  opcode : Opcode
  operands : List Word
  length_le : operands.length ≤ Instruction.maxOperands

namespace Line

/-- The number of words of the line, its header included. -/
def wordCount (line : Line) : Nat :=
  1 + line.operands.length

/-- The words of the line: a header that states their number and the operation, and then
    the operands. -/
def words (line : Line) : List Word :=
  (⟨UInt16.ofNat line.wordCount, line.opcode.code⟩ : Instruction.Header).toWord :: line.operands

/-- The words of the lines, one after the other. -/
def assemble (lines : List Line) : List Word :=
  lines.flatMap words

/-- The instruction that the line stands for. -/
def instruction (line : Line) : Instruction :=
  ⟨line.opcode, line.words⟩

theorem instruction_eq_ofOperands (line : Line) :
    line.instruction = .ofOperands line.opcode line.operands := rfl

@[simp] theorem opcode_instruction (line : Line) : line.instruction.opcode = line.opcode := rfl

@[simp] theorem operands_instruction (line : Line) :
    line.instruction.operands = line.operands := rfl

@[simp] theorem wordCount_instruction (line : Line) :
    line.instruction.wordCount = line.wordCount := by
  rw [instruction_eq_ofOperands, Instruction.wordCount_ofOperands, wordCount]

theorem wellFormed_instruction (line : Line) : line.instruction.WellFormed :=
  Instruction.wellFormed_ofOperands line.length_le

theorem wellFormed_of_mem_map {lines : List Line} {inst : Instruction}
    (h : inst ∈ lines.map instruction) : inst.WellFormed := by
  obtain ⟨line, -, rfl⟩ := List.mem_map.1 h
  exact line.wellFormed_instruction

/-- The lines as a stream in the given order holds them. -/
theorem encodeAll_map_instruction (order : ByteOrder) (lines : List Line) :
    Instruction.encodeAll order (lines.map instruction) = (assemble lines).map order.toHost := by
  rw [Instruction.encodeAll_eq_map, List.flatMap_map]
  rfl

example : Instruction.encodeAll .big [instruction ⟨.opTypeInt, [1, 32, 0], by decide⟩] =
    [0x15000400, 0x01000000, 0x20000000, 0] := by decide

theorem startOf_map_instruction (lines : List Line) (i : Nat) :
    Instruction.startOf (lines.map instruction) i = ((lines.take i).map wordCount).sum := by
  rw [Instruction.startOf, ← List.map_take, List.map_map]
  exact congrArg List.sum (List.map_congr_left fun line _ => line.wordCount_instruction)

end Line

end Spirv
