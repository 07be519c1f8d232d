/-
  Drafts: the fields of a stream that have been read.

  A draft takes fields one after the other.  Fields that it lacks and that have distinct
  keys (`Fresh`) are all in it in the end, and nothing else is that was not in it before
  (`has_foldl_insert_iff`).  So the settings of a draft that began empty are those that the
  fields give (`gives_settingsOf`).
-/
import Spirv.Proofs.Keyed
import Spirv.Proofs.Settings.Grammar

namespace Spirv.Settings

namespace Draft

/-- The draft with one more field. -/
def insert (d : Draft) : Field → Draft
  | .byteOrder order => { d with byteOrder := some order }
  | .moduleHeader flag => { d with moduleHeader := some flag }

/-- The draft has the field, with the same value. -/
def Has (d : Draft) : Field → Prop
  | .byteOrder order => d.byteOrder = some order
  | .moduleHeader flag => d.moduleHeader = some flag

/-- The draft has no value for the field. -/
def Lacks (d : Draft) : Field → Prop
  | .byteOrder _ => d.byteOrder = none
  | .moduleHeader _ => d.moduleHeader = none

/-- The draft lacks all of the fields, and no two of them have the same key. -/
def Fresh (d : Draft) (fields : List Field) : Prop :=
  (fields.map Field.key).Nodup ∧ ∀ field ∈ fields, d.Lacks field

theorem absent_insert_lt {d : Draft} {field : Field} (h : d.Lacks field) :
    (d.insert field).absent < d.absent := by
  cases field with
  | byteOrder order => exact absent_byteOrder_lt h order
  | moduleHeader flag => exact absent_moduleHeader_lt h flag

theorem lacks_insert_iff {d : Draft} {field other : Field} :
    (d.insert field).Lacks other ↔ d.Lacks other ∧ field.key ≠ other.key := by
  cases field <;> cases other <;> simp [insert, Lacks, Field.key]

theorem fresh_nil (d : Draft) : d.Fresh [] := by
  simp [Fresh]

theorem fresh_empty {fields : List Field} (h : (fields.map Field.key).Nodup) :
    Fresh {} fields := by
  refine ⟨h, ?_⟩
  rintro (order | flag) -
  · rfl
  · rfl

theorem has_insert_iff {d : Draft} {field other : Field} (h : d.Lacks field) :
    (d.insert field).Has other ↔ d.Has other ∨ other = field := by
  cases field with
  | byteOrder order =>
    have hnone : d.byteOrder = none := h
    cases other <;> simp [insert, Has, hnone, eq_comm]
  | moduleHeader flag =>
    have hnone : d.moduleHeader = none := h
    cases other <;> simp [insert, Has, hnone, eq_comm]

/-- A draft has one value for each key. -/
theorem keyed : Keyed insert Field.key Has Lacks :=
  ⟨lacks_insert_iff, has_insert_iff⟩

theorem fresh_cons_iff {d : Draft} {field : Field} {fields : List Field} :
    d.Fresh (field :: fields) ↔ d.Lacks field ∧ (d.insert field).Fresh fields :=
  keyed.fresh_cons_iff

/-- A draft that fresh fields are added to holds these fields, and those that it held. -/
theorem has_foldl_insert_iff {d : Draft} {fields : List Field} (h : d.Fresh fields)
    {field : Field} : (fields.foldl insert d).Has field ↔ d.Has field ∨ field ∈ fields :=
  keyed.has_foldl_iff h

end Draft

/-! ## Settings -/

/-- The settings that distinct fields give. -/
def settingsOf (fields : List Field) : Settings :=
  (fields.foldl Draft.insert {}).settings

theorem gives_settingsOf {fields : List Field} (h : (fields.map Field.key).Nodup) :
    Gives fields (settingsOf fields) := by
  have hfresh := Draft.fresh_empty h
  have hhas : ∀ field, (fields.foldl Draft.insert {}).Has field ↔ field ∈ fields := by
    intro field
    rw [Draft.has_foldl_insert_iff hfresh]
    cases field <;> simp [Draft.Has]
  constructor
  · intro order hmem
    have hsome : (fields.foldl Draft.insert {}).byteOrder = some order := (hhas _).2 hmem
    rw [settingsOf, Draft.settings, hsome]
    rfl
  · intro flag hmem
    have hsome : (fields.foldl Draft.insert {}).moduleHeader = some flag := (hhas _).2 hmem
    rw [settingsOf, Draft.settings, hsome]
    rfl
  · intro habsent
    have hnone : (fields.foldl Draft.insert {}).byteOrder = none := by
      rw [Option.eq_none_iff_forall_ne_some]
      exact fun order hsome => habsent order ((hhas (.byteOrder order)).1 hsome)
    rw [settingsOf, Draft.settings, hnone]
    rfl
  · intro habsent
    have hnone : (fields.foldl Draft.insert {}).moduleHeader = none := by
      rw [Option.eq_none_iff_forall_ne_some]
      exact fun flag hsome => habsent flag ((hhas (.moduleHeader flag)).1 hsome)
    rw [settingsOf, Draft.settings, hnone]
    rfl

/-- A document gives one value of the settings. -/
theorem Document.gives_iff {fields : List Field} {cs : List Char} (h : Document fields cs)
    {settings : Settings} : Gives fields settings ↔ settings = settingsOf fields := by
  obtain ⟨toks, rest, hform, -⟩ := h
  have hgives := gives_settingsOf hform.distinct
  constructor
  · intro h
    exact h.unique hgives
  · rintro rfl
    exact hgives

end Spirv.Settings
