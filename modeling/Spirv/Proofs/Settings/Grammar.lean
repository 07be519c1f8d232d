/-
  The language of settings documents, and what a document means.

  A document gives fields of the stream, each with a value (`Field`).  `Document fields cs`
  says that the characters are a document that gives these fields, in one of the forms that a
  document may have; `Gives fields settings` says that the settings hold the values that are
  given and the defaults elsewhere.
-/
import Spirv.Proofs.Settings.Token

namespace Spirv.Settings

/-! ## Fields -/

/-- A field of the stream, with its value. -/
inductive Field where
  | byteOrder (order : ByteOrder)
  | moduleHeader (flag : Bool)
  deriving DecidableEq

namespace Field

/-- The key under which an object has the field. -/
def key : Field → String
  | byteOrder _ => "endianness"
  | moduleHeader _ => "module_header"

/-- The ways to write a value: a byte order as its name, or as an object with the name as its
    only key and the value `null`; a truth value as itself. -/
inductive Value : Field → List Token → Prop where
  | name (order : ByteOrder) : Value (.byteOrder order) [.string order.name]
  | object (order : ByteOrder) : Value (.byteOrder order)
      [.mark .leftBrace, .string order.name, .mark .colon, .null, .mark .rightBrace]
  | flag (flag : Bool) : Value (.moduleHeader flag) [.flag flag]

/-- A field as a member of an object. -/
def Member (field : Field) (toks : List Token) : Prop :=
  ∃ value, field.Value value ∧ toks = .string field.key :: .mark .colon :: value

end Field

/-! ## Documents -/

/-- The pieces with commas between them. -/
def separated (pieces : List (List Token)) : List Token :=
  [Token.mark .comma].intercalate pieces

/-- The ways to write the stream: as an object that has the fields in any order, or as an array
    of the values of the first fields. -/
inductive StreamForm : List Field → List Token → Prop where
  | object {fields : List Field} {pieces : List (List Token)}
      (hdistinct : (fields.map Field.key).Nodup) (h : List.Forall₂ Field.Member fields pieces) :
      StreamForm fields (.mark .leftBrace :: (separated pieces ++ [.mark .rightBrace]))
  | array {fields : List Field} {pieces : List (List Token)}
      (hplaces : fields.map Field.key <+: ["endianness", "module_header"])
      (h : List.Forall₂ Field.Value fields pieces) :
      StreamForm fields (.mark .leftBracket :: (separated pieces ++ [.mark .rightBracket]))

/-- The ways to write the root: an object or an array, with the stream or empty. -/
inductive RootForm : List Field → List Token → Prop where
  | emptyObject : RootForm [] [.mark .leftBrace, .mark .rightBrace]
  | object {fields : List Field} {toks : List Token} (h : StreamForm fields toks) :
      RootForm fields
        (.mark .leftBrace :: .string "stream" :: .mark .colon :: (toks ++ [.mark .rightBrace]))
  | emptyArray : RootForm [] [.mark .leftBracket, .mark .rightBracket]
  | array {fields : List Field} {toks : List Token} (h : StreamForm fields toks) :
      RootForm fields (.mark .leftBracket :: (toks ++ [.mark .rightBracket]))

/-- The characters are a document that gives the fields: a root, and nothing else. -/
def Document (fields : List Field) (cs : List Char) : Prop :=
  ∃ toks rest, RootForm fields toks ∧ Reads toks cs rest ∧ Blank rest

/-- An array has no fields, the first, or both. -/
theorem map_key_prefix_iff {fields : List Field} :
    fields.map Field.key <+: ["endianness", "module_header"] ↔
      fields = [] ∨ (∃ order, fields = [.byteOrder order]) ∨
        ∃ order flag, fields = [.byteOrder order, .moduleHeader flag] := by
  constructor
  · intro h
    match fields with
    | [] => exact .inl rfl
    | [.byteOrder order] => exact .inr (.inl ⟨order, rfl⟩)
    | [.byteOrder order, .moduleHeader flag] => exact .inr (.inr ⟨order, flag, rfl⟩)
    | .moduleHeader _ :: _ => simp [Field.key] at h
    | .byteOrder _ :: .byteOrder _ :: _ => simp [Field.key] at h
    | .byteOrder _ :: .moduleHeader _ :: _ :: _ => simp [Field.key] at h
  · rintro (rfl | ⟨order, rfl⟩ | ⟨order, flag, rfl⟩) <;> simp [Field.key]

theorem StreamForm.exists_mark {fields : List Field} {toks : List Token}
    (h : StreamForm fields toks) :
    ∃ mark tail, toks = .mark mark :: tail ∧ mark ≠ .rightBracket := by
  cases h with
  | object => exact ⟨_, _, rfl, by decide⟩
  | array => exact ⟨_, _, rfl, by decide⟩

theorem StreamForm.distinct {fields : List Field} {toks : List Token} (h : StreamForm fields toks) :
    (fields.map Field.key).Nodup := by
  cases h with
  | object hdistinct => exact hdistinct
  | array hplaces => exact hplaces.sublist.nodup (by decide)

/-- No document gives a field twice. -/
theorem RootForm.distinct {fields : List Field} {toks : List Token} (h : RootForm fields toks) :
    (fields.map Field.key).Nodup := by
  cases h with
  | emptyObject => exact List.nodup_nil
  | object hform => exact hform.distinct
  | emptyArray => exact List.nodup_nil
  | array hform => exact hform.distinct

/-! ## Meaning -/

/-- The settings hold the values of the fields that are given, and the defaults elsewhere. -/
structure Gives (fields : List Field) (settings : Settings) : Prop where
  byteOrder : ∀ order, .byteOrder order ∈ fields → settings.byteOrder = order
  moduleHeader : ∀ flag, .moduleHeader flag ∈ fields → settings.moduleHeader = flag
  byteOrder_absent : (∀ order, .byteOrder order ∉ fields) → settings.byteOrder = .little
  moduleHeader_absent : (∀ flag, .moduleHeader flag ∉ fields) → settings.moduleHeader = true

/-- Only the set of fields matters. -/
theorem Gives.of_mem_iff {fields fields' : List Field} {settings : Settings}
    (h : Gives fields settings) (hmem : ∀ field, field ∈ fields ↔ field ∈ fields') :
    Gives fields' settings := by
  constructor
  · intro order horder
    exact h.byteOrder order ((hmem _).2 horder)
  · intro flag hflag
    exact h.moduleHeader flag ((hmem _).2 hflag)
  · intro habsent
    exact h.byteOrder_absent fun order horder => habsent order ((hmem _).1 horder)
  · intro habsent
    exact h.moduleHeader_absent fun flag hflag => habsent flag ((hmem _).1 hflag)

theorem Gives.unique {fields : List Field} {settings settings' : Settings}
    (h : Gives fields settings) (h' : Gives fields settings') : settings = settings' := by
  have horder : settings.byteOrder = settings'.byteOrder := by
    by_cases hgiven : ∃ order, Field.byteOrder order ∈ fields
    · obtain ⟨order, horder⟩ := hgiven
      rw [h.byteOrder order horder, h'.byteOrder order horder]
    · rw [not_exists] at hgiven
      rw [h.byteOrder_absent hgiven, h'.byteOrder_absent hgiven]
  have hflag : settings.moduleHeader = settings'.moduleHeader := by
    by_cases hgiven : ∃ flag, Field.moduleHeader flag ∈ fields
    · obtain ⟨flag, hflag⟩ := hgiven
      rw [h.moduleHeader flag hflag, h'.moduleHeader flag hflag]
    · rw [not_exists] at hgiven
      rw [h.moduleHeader_absent hgiven, h'.moduleHeader_absent hgiven]
  cases settings
  cases settings'
  simp_all

end Spirv.Settings
