/-
  Spellings of operations.

  `op.Spells name text` says that the text is the registered name of the operation, or this
  name without its leading `Op`.  Every spelling is found and nothing else is
  (`ofName?_eq_some_iff_spells`); a text spells one name of one operation (`Spells.unique`), and
  none if it begins with `Op` twice (`ofName?_doubled`).  Descriptors are found by mnemonics
  alone (`map_opcode_lookup_eq_some_iff`).

  Main statement: what a name resolves to (`ofName?_spellings`).
-/
import Spirv.Proofs.Opcode.Resolver

namespace Spirv.Opcode

/-- The text is the name, which is one of the operation, with or without its leading `Op`. -/
structure Spells (op : Opcode) (name text : String) : Prop where
  registered : op.Registered name
  eq_or_bare : text = name ∨ "Op" ++ text = name

theorem ofName?_eq_some_iff_spells {text : String} {op : Opcode} :
    ofName? text = some op ↔ ∃ name, op.Spells name text := by
  rw [ofName?_eq_some_iff]
  constructor
  · rintro (h | h)
    · exact ⟨text, h, .inl rfl⟩
    · exact ⟨"Op" ++ text, h, .inr rfl⟩
  · rintro ⟨name, h, rfl | rfl⟩
    · exact .inl h
    · exact .inr h

/-- A name is not another one without its leading `Op`. -/
theorem Registered.not_bare {a b : Opcode} {name : String} (ha : a.Registered name) :
    ¬ b.Registered ("Op" ++ name) := by
  intro hb
  exact hb.shape_of_op_append.not_prefix ha.prefix_toList

/-- **Spellings are distinct.** -/
theorem Spells.unique {a b : Opcode} {m n text : String} (ha : a.Spells m text)
    (hb : b.Spells n text) : a = b ∧ m = n := by
  have hname : m = n := by
    obtain ⟨hm, rfl | rfl⟩ := ha
    · obtain ⟨hn, rfl | rfl⟩ := hb
      · rfl
      · exact absurd hn hm.not_bare
    · obtain ⟨hn, rfl | rfl⟩ := hb
      · exact absurd hm hn.not_bare
      · rfl
  have hop : a.Registered n := hname ▸ ha.registered
  exact ⟨hop.unique hb.registered, hname⟩

/-- No name begins with `Op` twice, nor does one without its leading `Op`. -/
theorem ofName?_doubled (text : String) : ofName? ("OpOp" ++ text) = none := by
  have hdouble : ("OpOp" ++ text).toList = ['O', 'p'] ++ (['O', 'p'] ++ text.toList) := by
    rw [String.toList_append]
    rfl
  rw [Option.eq_none_iff_forall_ne_some]
  intro op hop
  rcases ofName?_eq_some_iff.1 hop with h | h
  · obtain ⟨rest, hshape⟩ := h.shape
    have hrest : ['O', 'p'] ++ text.toList = rest := by
      rw [hdouble] at hshape
      exact List.append_cancel_left hshape.eq_append
    exact hshape.not_prefix ⟨text.toList, hrest⟩
  · exact h.shape_of_op_append.not_prefix ⟨_, hdouble.symm⟩

/-- A mnemonic has a part behind its leading `Op`. -/
theorem exists_mnemonic_eq_append (op : Opcode) : ∃ bare, op.mnemonic = "Op" ++ bare := by
  obtain ⟨rest, hshape⟩ := op.registered_mnemonic.shape
  refine ⟨String.ofList rest, ?_⟩
  rw [← String.toList_inj, toList_op_append, String.toList_ofList]
  exact hshape.eq_append

theorem map_opcode_lookup_eq_some_iff {text : String} {op : Opcode} :
    (Registry.lookupByMnemonic? text).map Descriptor.opcode = some op ↔ text = op.mnemonic := by
  rw [Registry.lookupByMnemonic?_eq_map, Option.map_map, ← ofMnemonic?_eq_some_iff]
  show (ofMnemonic? text).map (fun op => op) = some op ↔ _
  rw [Option.map_id']

/-- **Names.**  A text resolves to an operation exactly if it spells one of its names, with or
    without the leading `Op`.  So what an operation is shown as resolves to it, and so does the
    rest behind the leading `Op`.  A text spells one name of one operation, no name is
    registered twice, and none begins with `Op` twice.  A descriptor is found exactly by the
    mnemonic of its operation, to which the mnemonic resolves as well. -/
theorem ofName?_spellings :
    (∀ text op, ofName? text = some op ↔ ∃ name, op.Spells name text) ∧
    (∀ op : Opcode, ofName? op.name = some op ∧
      ∃ bare, op.name = "Op" ++ bare ∧ ofName? bare = some op) ∧
    (∀ text (a b : Opcode) m n, a.Spells m text → b.Spells n text → a = b ∧ m = n) ∧
    (entries.map Prod.fst).Nodup ∧
    (∀ text, ofName? ("OpOp" ++ text) = none) ∧
    (∀ text op, (Registry.lookupByMnemonic? text).map Descriptor.opcode = some op ↔
      text = op.mnemonic) ∧
    ∀ text row, Registry.lookupByMnemonic? text = some row → ofName? text = some row.opcode := by
  refine ⟨fun _ _ => ofName?_eq_some_iff_spells, ?_, ?_, nodup_entries, ofName?_doubled,
    fun _ _ => map_opcode_lookup_eq_some_iff, ?_⟩
  · intro op
    obtain ⟨bare, hbare⟩ := op.exists_mnemonic_eq_append
    rw [op.name_eq_mnemonic]
    refine ⟨ofName?_eq_some_iff.2 (.inl op.registered_mnemonic), bare, hbare, ?_⟩
    exact ofName?_eq_some_iff.2 (.inr (hbare ▸ op.registered_mnemonic))
  · intro text a b m n ha hb
    exact ha.unique hb
  · intro text row hrow
    have hop : (Registry.lookupByMnemonic? text).map Descriptor.opcode = some row.opcode := by
      rw [hrow, Option.map_some]
    rw [map_opcode_lookup_eq_some_iff.1 hop]
    exact ofName?_eq_some_iff.2 (.inl row.opcode.registered_mnemonic)

end Spirv.Opcode
