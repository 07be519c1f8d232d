/-
  Names as a code for sets of categories.

  A set is shown in two ways, as a text and as a JSON array, and both list the names of its
  members in the order of reports.  Each category has a name of its own, so the text is read
  back by its pieces (`namesIn_text`), and the array is that of the same pieces
  (`toJson_eq_namesIn`).  An array is written as the text of no other value
  (`isText_toJson_iff`).

  All this is said of the words that steps build, which are those without a stray bit.

  Main statement: `names_tell_sets`.
-/
import Spirv.Proofs.CategorySet.Text
import Spirv.Proofs.Report.Document

namespace Spirv.CategorySet

open Json (IsText)

/-! ## Arrays -/

theorem toJson_eq (s : CategorySet) :
    s.toJson = .array s.size (s.toList.map fun c => .string c.name) := by
  rw [toJson, names, List.map_map]
  rfl

/-- The two ways to show a set agree. -/
theorem toJson_eq_namesIn {s : CategorySet} (hs : s.Tidy) (h : s.isEmpty = false) :
    s.toJson = .array s.size ((namesIn s.text).map .string) := by
  rw [toJson, namesIn_text hs h]

theorem isText_toJson_iff {s : CategorySet} (hs : s.Tidy) {v : Json.Value} :
    IsText v s.toJson.document.toList ↔
      v = .array (s.toList.map fun c => .string c.name) := by
  rw [Json.isText_document_iff hs.announced_toJson, value_toJson, value_eq_names, names,
    List.map_map]
  rfl

theorem document_toJson_inj {s t : CategorySet} (hs : s.Tidy) (ht : t.Tidy)
    (h : s.toJson.document = t.toJson.document) : s = t := by
  have htext : IsText s.value s.toJson.document.toList := by
    rw [Json.isText_document_iff hs.announced_toJson, value_toJson]
  rw [h, Json.isText_document_iff ht.announced_toJson, value_toJson] at htext
  exact value_inj hs ht htext

/-! ## Sets and names -/

/-- **Names tell sets.**  A text names a category exactly if it is the name of the category.
    Let a set be built by some steps.  If it has members, its text divides at each `, ` into
    pieces that name them in the order of reports, so that collecting these gives the set
    back, and the JSON array of the set has the same pieces.  As JSON the set is read as the
    list of these names and as nothing else, and it announces how many they are.  The text is
    empty exactly if the set is.  So sets with the same text are equal, and so are sets with
    the same array or with the same JSON.  The words that are built by some steps are all
    those in which no bit is set but those of categories. -/
theorem names_tell_sets :
    (∀ text c, Category.ofName? text = some c ↔ text = c.name) ∧
    (∀ s : CategorySet, s.Reachable → s.isEmpty = false →
      (namesIn s.text).map Category.ofName? = s.toList.map some ∧
      ofList ((namesIn s.text).filterMap Category.ofName?) = s ∧
      s.toJson = .array s.size ((namesIn s.text).map .string)) ∧
    (∀ s : CategorySet, s.Reachable →
      s.toJson = .array s.toList.length (s.toList.map fun c => .string c.name) ∧
      ∀ v, IsText v s.toJson.document.toList ↔
        v = .array (s.toList.map fun c => .string c.name)) ∧
    (∀ s : CategorySet, s.Reachable → (s.text = "" ↔ s.isEmpty = true)) ∧
    (∀ s t : CategorySet, s.Reachable → t.Reachable →
      (s.text = t.text → s = t) ∧ (s.toJson = t.toJson → s = t) ∧
      (s.toJson.document = t.toJson.document → s = t)) ∧
    ∀ s : CategorySet, s.Reachable ↔ ∀ i, Category.count ≤ i → s.bits.getLsbD i = false := by
  refine ⟨?_, ?_, ?_, ?_, ?_, fun _ => reachable_iff_tidy⟩
  · intro text c
    rw [Category.ofName?_eq_some_iff, eq_comm]
  · intro s hs h
    refine ⟨?_, ofList_namesIn_text hs.tidy, toJson_eq_namesIn hs.tidy h⟩
    rw [namesIn_text hs.tidy h, map_ofName?_names]
  · intro s hs
    refine ⟨?_, fun _ => isText_toJson_iff hs.tidy⟩
    rw [toJson_eq, hs.tidy.size_eq_length_toList]
  · intro s hs
    exact text_eq_empty_iff hs.tidy
  · intro s t hs ht
    refine ⟨text_inj hs.tidy ht.tidy, ?_, document_toJson_inj hs.tidy ht.tidy⟩
    intro h
    exact document_toJson_inj hs.tidy ht.tidy (congrArg Json.document h)

end Spirv.CategorySet
