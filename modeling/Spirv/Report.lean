/-
  Reports: what a dump tells about a file.

  A `Report` has the module header, if one was read, and a record for each instruction.
  `ofBytes` is all or nothing: the bytes must make words, the header must be right where
  the settings ask for one, and every instruction must decode.
-/
import Spirv.Binary
import Spirv.CategoryTable
import Spirv.ModuleHeader
import Spirv.Registry
import Spirv.Settings
import Spirv.Stream

namespace Spirv

namespace Report

/-- What is told about one instruction. -/
structure Record where
  /-- The place of the instruction, in words from the start of the file. -/
  offset : Nat
  /-- The name of the operation. -/
  mnemonic : String
  wordCount : Nat
  categories : CategorySet
  deriving DecidableEq

end Report

/-- What is told about a file. -/
structure Report where
  header : Option ModuleHeader
  records : List Report.Record
  deriving DecidableEq

namespace Report

/-- The records of consecutive instructions, the first of which is at `offset`. -/
def recordsFrom (offset : Nat) : List Instruction → List Record
  | [] => []
  | inst :: insts =>
    ⟨offset, inst.opcode.name, inst.wordCount, inst.opcode.categories⟩ ::
      recordsFrom (offset + inst.wordCount) insts

/-- The report on the words of a file. -/
def ofWords (words : List Word) (settings : Settings) : Except Error Report :=
  if settings.moduleHeader then do
    let header ← ModuleHeader.parse words settings.byteOrder
    let insts ← (Stream.startingAt words settings.byteOrder ModuleHeader.length).collect
    .ok ⟨some header, recordsFrom ModuleHeader.length insts⟩
  else do
    let insts ← (Stream.ofWords words settings.byteOrder).collect
    .ok ⟨none, recordsFrom 0 insts⟩

/-- The report on the bytes of a file. -/
def ofBytes (bytes : List UInt8) (settings : Settings) : Except Error Report := do
  let words ← Binary.words bytes
  ofWords words settings

theorem length_recordsFrom (offset : Nat) (insts : List Instruction) :
    (recordsFrom offset insts).length = insts.length := by
  induction insts generalizing offset with
  | nil => rfl
  | cons inst insts ih => simp [recordsFrom, ih]

end Report

end Spirv
