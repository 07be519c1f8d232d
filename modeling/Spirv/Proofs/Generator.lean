/-
  The registry of tools against its ids.

  No two tools share an id (`nodup_ids`), so the tool that is found is the only one with the id
  (`find?_eq_some_iff`).  `Labelled id text` says that the text is the label of this tool, or
  the label for an id without one; the label that is looked up is this text and no other
  (`label_eq_iff`).  The id in a generator word is the upper half of the word (`toNat_idOf`).
-/
import Mathlib
import Spirv.Generator
import Spirv.Proofs.Keyed

namespace Spirv.Generator

/-- The text is the label of the one tool with the id, or stands for the lack of a tool. -/
inductive Labelled (id : Nat) : String → Prop where
  | tool {t : Tool} (ht : t ∈ tools) (hid : t.id.toNat = id)
      (hone : ∀ other ∈ tools, other.id.toNat = id → other = t) : Labelled id t.label
  | unregistered (hnone : ∀ t ∈ tools, t.id.toNat ≠ id) : Labelled id "Unknown"

theorem nodup_ids : (tools.map Tool.id).Nodup := by
  decide +kernel

/-- An id is that of one tool. -/
theorem eq_of_id_eq {t other : Tool} (ht : t ∈ tools) (hother : other ∈ tools)
    (h : other.id = t.id) : other = t :=
  List.inj_on_of_nodup_map nodup_ids hother ht h

theorem find?_eq_some_iff {id : UInt32} {t : Tool} : find? id = some t ↔ t ∈ tools ∧ t.id = id :=
  find?_key_eq_some_iff fun _ ht _ hother => eq_of_id_eq hother ht

theorem find?_eq_none_iff {id : UInt32} : find? id = none ↔ ∀ t ∈ tools, t.id ≠ id := by
  simp [find?]

theorem labelled_label (id : UInt32) : Labelled id.toNat (label id) := by
  unfold label
  cases hfound : find? id with
  | none =>
    refine .unregistered fun t ht hid => ?_
    exact find?_eq_none_iff.1 hfound t ht (UInt32.toNat_inj.1 hid)
  | some t =>
    obtain ⟨ht, rfl⟩ := find?_eq_some_iff.1 hfound
    refine .tool ht rfl fun other hother hid => ?_
    exact eq_of_id_eq ht hother (UInt32.toNat_inj.1 hid)

theorem Labelled.unique {id : Nat} {text text' : String} (h : Labelled id text)
    (h' : Labelled id text') : text = text' := by
  cases h with
  | tool ht hid hone =>
    cases h' with
    | tool ht' hid' => rw [hone _ ht' hid']
    | unregistered hnone => exact absurd hid (hnone _ ht)
  | unregistered hnone =>
    cases h' with
    | tool ht hid => exact absurd hid (hnone _ ht)
    | unregistered => rfl

/-- **Labels.** The label of an id is the one text that labels it. -/
theorem label_eq_iff {id : UInt32} {text : String} : label id = text ↔ Labelled id.toNat text := by
  constructor
  · rintro rfl
    exact labelled_label id
  · exact (labelled_label id).unique

/-! ## The generator word -/

theorem toNat_idOf (w : Word) : (idOf w).toNat = w.toNat / 65536 := by
  have hw := w.toNat_lt
  rw [idOf, UInt32.toNat_toUInt16, UInt32.toNat_shiftRight, Nat.shiftRight_eq_div_pow]
  simp only [idShift, UInt32.reduceToNat, Nat.reduceMod, Nat.reducePow]
  omega

end Spirv.Generator
