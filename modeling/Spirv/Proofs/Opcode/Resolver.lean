/-
  The resolvers of operations against each other.

  A number is resolved by a search among the codes, by a search in the table of descriptors
  and, for the set of categories, by a search in the table of sets; a name by going through
  the descriptors.  `Resolved number op` says that all of them give the operation, and
  `Unresolved number` that all of them refuse the number.

  - a descriptor is found by its name (`Registry.lookupByMnemonic?_eq_some_iff`) and missed
    only if there is no operation with the code (`Registry.lookup?_eq_none_iff`);
  - a number with an operation is resolved, one without is refused (`resolved_of_code`,
    `unresolved_of_code`).

  Main statement: each number is one or the other, and none above 16 bits is resolved
  (`resolvers_agree`).
-/
import Spirv.CategoryTable
import Spirv.Proofs.Opcode.Name

namespace Spirv

/-! ## Descriptors -/

namespace Registry

/-- Rows of the registry with one operation are one. -/
theorem eq_of_mem_descriptors {row row' : Descriptor} (h : row ∈ descriptors)
    (h' : row' ∈ descriptors) (hop : row.opcode = row'.opcode) : row = row' := by
  have hname := mem_descriptors.1 h
  have hname' := mem_descriptors.1 h'
  cases row
  cases row'
  simp only at hop hname hname'
  rw [hop, hname, hname', hop]

/-- Going through the rows for a name is going through the operations for a mnemonic. -/
theorem lookupByMnemonic?_eq_map (name : String) :
    lookupByMnemonic? name = (Opcode.ofMnemonic? name).map fun op => ⟨op, op.mnemonic⟩ := by
  unfold lookupByMnemonic? descriptors Opcode.ofMnemonic?
  rw [List.find?_toArray, List.find?_map]
  rfl

/-- **A row is found by its name.** -/
theorem lookupByMnemonic?_eq_some_iff {name : String} {row : Descriptor} :
    lookupByMnemonic? name = some row ↔ row ∈ descriptors ∧ row.mnemonic = name := by
  rw [lookupByMnemonic?_eq_map, Option.map_eq_some_iff, mem_descriptors]
  constructor
  · rintro ⟨op, hop, rfl⟩
    exact ⟨rfl, (Opcode.ofMnemonic?_eq_some_iff.1 hop).symm⟩
  · rintro ⟨hrow, rfl⟩
    exact ⟨row.opcode, Opcode.ofMnemonic?_eq_some_iff.2 hrow, by rw [← hrow]⟩

end Registry

/-! ## Numbers -/

namespace Opcode

theorem ofCode_eq_ok_iff {code : UInt16} {op : Opcode} : ofCode code = .ok op ↔ op.code = code := by
  rw [← ofCode?_eq_some_iff, ofCode]
  cases ofCode? code <;> simp

/-- A number with an operation has 16 bits. -/
theorem lt_of_code {number : UInt32} {op : Opcode} (h : op.code.toNat = number.toNat) :
    number.toNat < 65536 := by
  have hlt := op.code.toNat_lt
  omega

theorem toUInt16_of_code {number : UInt32} {op : Opcode} (h : op.code.toNat = number.toNat) :
    number.toUInt16 = op.code := by
  have hlt := lt_of_code h
  apply UInt16.toNat_inj.1
  rw [UInt32.toNat_toUInt16, h]
  omega

theorem toUInt32_code {number : UInt32} {op : Opcode} (h : op.code.toNat = number.toNat) :
    op.code.toUInt32 = number := by
  apply UInt32.toNat_inj.1
  rw [UInt16.toNat_toUInt32, h]

theorem toNat_code_ne_of_toUInt16 {number : UInt32} (hlt : number.toNat < 65536)
    (h : ∀ op : Opcode, op.code.toNat ≠ number.toNat) (op : Opcode) :
    op.code ≠ number.toUInt16 := by
  intro hcode
  apply h op
  rw [hcode, UInt32.toNat_toUInt16]
  omega

theorem ofNumber_of_code {number : UInt32} {op : Opcode} (h : op.code.toNat = number.toNat) :
    ofNumber number = .ok op := by
  have hlt : number < 0x10000 := lt_of_code h
  rw [ofNumber, if_pos hlt, ofCode_eq_ok_iff, toUInt16_of_code h]

theorem ofCode_of_ne {number : UInt32} (hlt : number.toNat < 65536)
    (h : ∀ op : Opcode, op.code.toNat ≠ number.toNat) :
    ofCode number.toUInt16 = .error (.unknownOpcode number) := by
  have hnone := ofCode?_eq_none_iff.2 (toNat_code_ne_of_toUInt16 hlt h)
  have hsame : number.toUInt16.toUInt32 = number := by
    apply UInt32.toNat_inj.1
    rw [UInt16.toNat_toUInt32, UInt32.toNat_toUInt16]
    omega
  rw [ofCode, hnone, hsame]

/-- A number without an operation is refused with all of its bits. -/
theorem ofNumber_of_ne {number : UInt32} (h : ∀ op : Opcode, op.code.toNat ≠ number.toNat) :
    ofNumber number = .error (.unknownOpcode number) := by
  unfold ofNumber
  split
  · rename_i hlt
    exact ofCode_of_ne hlt h
  · rfl

theorem ofNumber_eq_ok_iff {number : UInt32} {op : Opcode} :
    ofNumber number = .ok op ↔ op.code.toNat = number.toNat := by
  constructor
  · intro h
    by_cases hcode : ∃ a : Opcode, a.code.toNat = number.toNat
    · obtain ⟨a, ha⟩ := hcode
      rw [ofNumber_of_code ha] at h
      rwa [← Except.ok.inj h]
    · rw [ofNumber_of_ne fun a ha => hcode ⟨a, ha⟩] at h
      cases h
  · exact ofNumber_of_code

end Opcode

/-! ## Agreement -/

/-- Every resolver finds the operation for the number. -/
structure Resolved (number : UInt32) (op : Opcode) : Prop where
  ofNumber_eq : Opcode.ofNumber number = .ok op
  ofCode_eq : Opcode.ofCode number.toUInt16 = .ok op
  ofCode?_eq : Opcode.ofCode? number.toUInt16 = some op
  /-- The search in the table of descriptors gives the one of the operation, and it is found
      by its name too. -/
  exists_descriptor : ∃ row,
    Registry.lookup number = .ok row ∧ row ∈ Registry.descriptors ∧ row.opcode = op ∧
      (∀ row' ∈ Registry.descriptors, row'.opcode = op → row' = row) ∧
      Registry.mnemonic number = .ok row.mnemonic ∧
      Registry.mnemonicOrPlaceholder number = row.mnemonic ∧
      Registry.lookupByMnemonic? row.mnemonic = some row
  /-- The search in the table of sets gives the set of the categories that hold. -/
  find?_eq : CategoryTable.find? op = some (op, .ofOpcode op)
  categories_eq : op.categories = .ofOpcode op
  mem_categories : ∀ c : Category, c ∈ op.categories ↔ c.holds op = true

/-- Every resolver refuses the number. -/
structure Unresolved (number : UInt32) : Prop where
  ofNumber_eq : Opcode.ofNumber number = .error (.unknownOpcode number)
  ofCode_eq : number.toNat < 65536 →
    Opcode.ofCode number.toUInt16 = .error (.unknownOpcode number)
  ofCode?_eq : number.toNat < 65536 → Opcode.ofCode? number.toUInt16 = none
  lookup_eq : Registry.lookup number = .error (.unknownOpcode number)
  mnemonic_eq : Registry.mnemonic number = .error (.inconsistent (.missingDescriptor number))
  mnemonicOrPlaceholder_eq : Registry.mnemonicOrPlaceholder number = "unknown"

theorem resolved_of_code {number : UInt32} {op : Opcode} (h : op.code.toNat = number.toNat) :
    Resolved number op := by
  have hcode : number.toUInt16 = op.code := Opcode.toUInt16_of_code h
  have hnumber := Opcode.ofNumber_of_code h
  obtain rfl := Opcode.toUInt32_code h
  have hmem : (⟨op, op.mnemonic⟩ : Descriptor) ∈ Registry.descriptors :=
    Registry.mem_descriptors.2 rfl
  refine ⟨hnumber, ?_, ?_, ?_, CategoryTable.find?_eq op, op.categories_eq_ofOpcode, ?_⟩
  · rw [hcode, Opcode.ofCode_eq_ok_iff]
  · rw [hcode, Opcode.ofCode?_code]
  · refine ⟨⟨op, op.mnemonic⟩, Registry.lookup_code op, hmem, rfl, ?_, Registry.mnemonic_code op,
      Registry.mnemonicOrPlaceholder_code op, ?_⟩
    · intro row hrow hop
      exact Registry.eq_of_mem_descriptors hrow hmem hop
    · exact Registry.lookupByMnemonic?_eq_some_iff.2 ⟨hmem, rfl⟩
  · intro c
    rw [op.categories_eq_ofOpcode]
    exact CategorySet.mem_ofOpcode

theorem unresolved_of_code {number : UInt32} (h : ∀ op : Opcode, op.code.toNat ≠ number.toNat) :
    Unresolved number := by
  have hnone : Registry.lookup? number = none := Registry.lookup?_eq_none_iff.2 h
  have hmnemonic : Registry.mnemonic number = .error (.inconsistent (.missingDescriptor number)) := by
    rw [Registry.mnemonic, hnone]
  refine ⟨Opcode.ofNumber_of_ne h, ?_, ?_, ?_, hmnemonic, ?_⟩
  · intro hlt
    exact Opcode.ofCode_of_ne hlt h
  · intro hlt
    exact Opcode.ofCode?_eq_none_iff.2 (Opcode.toNat_code_ne_of_toUInt16 hlt h)
  · rw [Registry.lookup, hnone]
  · rw [Registry.mnemonicOrPlaceholder, hmnemonic]
    rfl

/-- **The resolvers agree.**  Each number of 32 bits is the code of exactly one operation, and
    then every resolver finds this one; or it is the code of none, and then every resolver
    refuses it, with an error that carries the whole number.  A number above 16 bits is never
    resolved by its low half. -/
theorem resolvers_agree (number : UInt32) :
    (((∃! op, op ∈ Opcode.all ∧ op.code.toNat = number.toNat) ∧
        ∀ op ∈ Opcode.all, op.code.toNat = number.toNat → Resolved number op) ∨
      ((∀ op ∈ Opcode.all, op.code.toNat ≠ number.toNat) ∧ Unresolved number)) ∧
    (65535 < number.toNat → Unresolved number) := by
  refine ⟨?_, ?_⟩
  · by_cases hcode : ∃ op : Opcode, op.code.toNat = number.toNat
    · obtain ⟨op, hop⟩ := hcode
      refine .inl ⟨⟨op, ⟨op.mem_all, hop⟩, ?_⟩, ?_⟩
      · rintro a ⟨-, ha⟩
        apply Opcode.code_inj
        apply UInt16.toNat_inj.1
        rw [ha, hop]
      · intro a _ ha
        exact resolved_of_code ha
    · have hne : ∀ op : Opcode, op.code.toNat ≠ number.toNat := by
        intro op hop
        exact hcode ⟨op, hop⟩
      exact .inr ⟨fun op _ => hne op, unresolved_of_code hne⟩
  · intro hlarge
    apply unresolved_of_code
    intro op
    have hlt := op.code.toNat_lt
    omega

end Spirv
