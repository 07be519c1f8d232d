/-
  The categories of every operation, worked out once.

  `rows` lists the operations in ascending order of their codes, each with its set.
  Reports read a set from this table; it is the set of the categories that hold
  (`categories_eq_ofOpcode`).
-/
import Spirv.CategorySet
import Spirv.SortedTable

namespace Spirv

namespace CategoryTable

/-- Each operation with its set, in ascending order of the codes. -/
def rows : Array (Opcode × CategorySet) :=
  (Opcode.all.map fun op => (op, CategorySet.ofOpcode op)).toArray

/-- The row of the operation. -/
def find? (op : Opcode) : Option (Opcode × CategorySet) :=
  SortedTable.search? rows (fun row => row.1.code.toNat) op.code.toNat

end CategoryTable

/-- The set of the operation, read from the table. -/
def Opcode.categories (op : Opcode) : CategorySet :=
  match CategoryTable.find? op with
  | some row => row.2
  | none => .ofOpcode op

namespace CategoryTable

theorem mem_rows {row : Opcode × CategorySet} : row ∈ rows ↔ row.2 = .ofOpcode row.1 := by
  simp only [rows, List.mem_toArray, List.mem_map]
  constructor
  · rintro ⟨op, -, rfl⟩
    rfl
  · intro h
    exact ⟨row.1, row.1.mem_all, by rw [← h]⟩

theorem ascending_rows : SortedTable.Ascending rows fun row => row.1.code.toNat := by
  intro i j hi hj hij
  have h := List.pairwise_iff_getElem.1 Opcode.pairwise_code i j
    (by simpa [rows] using hi) (by simpa [rows] using hj) hij
  simpa [rows] using h

theorem find?_eq (op : Opcode) : find? op = some (op, .ofOpcode op) :=
  (SortedTable.search?_eq_some_iff ascending_rows).2 ⟨mem_rows.2 rfl, rfl⟩

end CategoryTable

theorem Opcode.categories_eq_ofOpcode (op : Opcode) : op.categories = .ofOpcode op := by
  rw [categories, CategoryTable.find?_eq]

end Spirv
