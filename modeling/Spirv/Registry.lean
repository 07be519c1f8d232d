/-
  The registry of operations, looked up by number and by name.

  `descriptors` holds one row for each operation, in ascending order of the codes
  (`mem_descriptors`, `ascending_descriptors`), so that the row of a number is found by
  search (`lookup?_eq_some_iff`).  Reports and summaries name an operation through this
  search; it finds the operation's own mnemonic (`name_eq_mnemonic`).
-/
import Spirv.Opcode.Mnemonic
import Spirv.SortedTable

namespace Spirv

/-- What the registry holds about an operation. -/
structure Descriptor where
  opcode : Opcode
  mnemonic : String
  deriving DecidableEq

namespace Registry

/-- One row for each operation, in ascending order of the codes. -/
def descriptors : Array Descriptor :=
  (Opcode.all.map fun op => ⟨op, op.mnemonic⟩).toArray

/-- The name that stands for a code without a descriptor. -/
def placeholder : String := "unknown"

/-- The row of a code. -/
def lookup? (code : UInt32) : Option Descriptor :=
  SortedTable.search? descriptors (fun row => row.opcode.code.toNat) code.toNat

/-- The row of a code; a code without one is an error of the input. -/
def lookup (code : UInt32) : Except Error Descriptor :=
  match lookup? code with
  | some row => .ok row
  | none => .error (.unknownOpcode code)

/-- The name of a code that is taken to be registered. -/
def mnemonic (code : UInt32) : Except Error String :=
  match lookup? code with
  | some row => .ok row.mnemonic
  | none => .error (.inconsistent (.missingDescriptor code))

/-- The name of a code, or the placeholder.  This is what a released program gives for a code
    that is missing; with debug assertions it stops there, and gives no name. -/
def mnemonicOrPlaceholder (code : UInt32) : String :=
  match mnemonic code with
  | .ok name => name
  | .error _ => placeholder

/-- The row with the given canonical name. -/
def lookupByMnemonic? (name : String) : Option Descriptor :=
  descriptors.find? fun row => row.mnemonic == name

theorem mem_descriptors {row : Descriptor} :
    row ∈ descriptors ↔ row.mnemonic = row.opcode.mnemonic := by
  simp only [descriptors, List.mem_toArray, List.mem_map]
  constructor
  · rintro ⟨op, -, rfl⟩
    rfl
  · intro h
    exact ⟨row.opcode, row.opcode.mem_all, by rw [← h]⟩

theorem ascending_descriptors :
    SortedTable.Ascending descriptors fun row => row.opcode.code.toNat := by
  intro i j hi hj hij
  have h := List.pairwise_iff_getElem.1 Opcode.pairwise_code i j
    (by simpa [descriptors] using hi) (by simpa [descriptors] using hj) hij
  simpa [descriptors] using h

theorem lookup?_eq_some_iff {code : UInt32} {row : Descriptor} :
    lookup? code = some row ↔
      row.mnemonic = row.opcode.mnemonic ∧ row.opcode.code.toNat = code.toNat := by
  rw [lookup?, SortedTable.search?_eq_some_iff ascending_descriptors, mem_descriptors]

theorem lookup?_code (op : Opcode) : lookup? op.code.toUInt32 = some ⟨op, op.mnemonic⟩ :=
  lookup?_eq_some_iff.2 ⟨rfl, (UInt16.toNat_toUInt32 op.code).symm⟩

/-- The row of a code is missed only if no operation has the code. -/
theorem lookup?_eq_none_iff {code : UInt32} :
    lookup? code = none ↔ ∀ op : Opcode, op.code.toNat ≠ code.toNat := by
  unfold lookup?
  rw [SortedTable.search?_eq_none_iff ascending_descriptors]
  constructor
  · intro h op
    exact h ⟨op, op.mnemonic⟩ (mem_descriptors.2 rfl)
  · intro h row _
    exact h row.opcode

theorem lookup_code (op : Opcode) : lookup op.code.toUInt32 = .ok ⟨op, op.mnemonic⟩ := by
  rw [lookup, lookup?_code]

theorem mnemonic_code (op : Opcode) : mnemonic op.code.toUInt32 = .ok op.mnemonic := by
  rw [mnemonic, lookup?_code]

theorem mnemonicOrPlaceholder_code (op : Opcode) :
    mnemonicOrPlaceholder op.code.toUInt32 = op.mnemonic := by
  rw [mnemonicOrPlaceholder, mnemonic_code]

end Registry

/-- The name of the operation, as the registry has it. -/
def Opcode.name (op : Opcode) : String :=
  Registry.mnemonicOrPlaceholder op.code.toUInt32

theorem Opcode.name_eq_mnemonic (op : Opcode) : op.name = op.mnemonic := by
  rw [name, Registry.mnemonicOrPlaceholder_code]

end Spirv
