/-
  Documents and what they tell.

  The value of a report has everything that the report has, under the names of its fields
  (`Report.value`), so that different reports have different values (`Report.value_inj`), stray
  bits of their words aside, which no name tells.  The arrays of a report have as many items
  as they announce (`Report.announced_toJson`), those of names because a set is as large as its
  list is long, and so the document is a text of this value and of no other.

  Main statement: `document_lossless`.
-/
import Spirv.Proofs.CategorySet
import Spirv.Proofs.Json.Layout
import Spirv.Report.Document

namespace Spirv

open Json (Value IsText Written)

/-! ## Values of reports -/

/-- The four words of the header after the magic number. -/
def ModuleHeader.value (h : ModuleHeader) : Value :=
  .object
    [("version", .number h.version.toNat),
     ("generator", .number h.generator.toNat),
     ("bound", .number h.bound.toNat),
     ("schema", .number h.schema.toNat)]

/-- The names of the members, in the order of all categories. -/
def CategorySet.value (s : CategorySet) : Value :=
  .array ((Category.all.filter fun c => c ∈ s).map fun c => .string c.name)

namespace Report

/-- The fields of the record. -/
def Record.value (r : Record) : Value :=
  .object
    [("offset", .number r.offset),
     ("opcode", .string r.mnemonic),
     ("word_count", .number r.wordCount),
     ("categories", r.categories.value)]

/-- The header, if there is one, and the records in their order. -/
def value (report : Report) : Value :=
  .object
    [("header", match report.header with
      | none => .null
      | some h => h.value),
     ("instructions", .array (report.records.map Record.value))]

end Report

/-! ## Different reports have different values -/

theorem Json.Value.natCast_inj {m n : Nat} (h : Value.number m = Value.number n) : m = n := by
  rwa [Value.number.injEq, Nat.cast_inj] at h

theorem ModuleHeader.value_inj {h h' : ModuleHeader} (heq : h.value = h'.value) : h = h' := by
  simp only [value, Value.object.injEq, List.cons.injEq, Prod.mk.injEq, true_and, and_true]
    at heq
  obtain ⟨hversion, hgenerator, hbound, hschema⟩ := heq
  cases h
  cases h'
  rw [ModuleHeader.mk.injEq]
  exact ⟨UInt32.toNat_inj.1 (Value.natCast_inj hversion),
    UInt32.toNat_inj.1 (Value.natCast_inj hgenerator),
    UInt32.toNat_inj.1 (Value.natCast_inj hbound), UInt32.toNat_inj.1 (Value.natCast_inj hschema)⟩

theorem CategorySet.value_eq_names (s : CategorySet) :
    s.value = .array (s.names.map .string) := by
  rw [value, ← toList_eq_filter, names, List.map_map]
  rfl

theorem CategorySet.value_inj {s t : CategorySet} (hs : s.Tidy) (ht : t.Tidy)
    (h : s.value = t.value) : s = t := by
  rw [value_eq_names, value_eq_names, Value.array.injEq] at h
  exact hs.names_inj ht ((List.map_inj_right fun _ _ heq => Value.string.inj heq).1 h)

namespace Report

theorem Record.value_inj {r s : Record} (hr : r.categories.Tidy) (hs : s.categories.Tidy)
    (h : r.value = s.value) : r = s := by
  simp only [value, Value.object.injEq, List.cons.injEq, Prod.mk.injEq, true_and, and_true,
    Value.string.injEq] at h
  obtain ⟨hoffset, hname, hcount, hcategories⟩ := h
  cases r
  cases s
  rw [Record.mk.injEq]
  exact ⟨Value.natCast_inj hoffset, hname, Value.natCast_inj hcount,
    CategorySet.value_inj hr hs hcategories⟩

theorem map_value_inj {records others : List Record} (hrecords : ∀ r ∈ records, r.categories.Tidy)
    (hothers : ∀ r ∈ others, r.categories.Tidy)
    (h : records.map Record.value = others.map Record.value) : records = others := by
  induction records generalizing others with
  | nil => exact (List.map_eq_nil_iff.1 h.symm).symm
  | cons r records ih =>
    obtain ⟨s, others, rfl, hvalue, hrest⟩ := List.map_eq_cons_iff.1 h.symm
    obtain ⟨hr, hrecords⟩ := List.forall_mem_cons.1 hrecords
    obtain ⟨hs, hothers⟩ := List.forall_mem_cons.1 hothers
    rw [Record.value_inj hr hs hvalue.symm, ih hrecords hothers hrest.symm]

theorem value_inj {report other : Report} (hreport : ∀ r ∈ report.records, r.categories.Tidy)
    (hother : ∀ r ∈ other.records, r.categories.Tidy) (h : report.value = other.value) :
    report = other := by
  obtain ⟨header, records⟩ := report
  obtain ⟨header', records'⟩ := other
  simp only [value, Value.object.injEq, List.cons.injEq, Prod.mk.injEq, true_and, and_true,
    Value.array.injEq] at h
  obtain ⟨hheader, hrecords⟩ := h
  have hrecords := map_value_inj hreport hother hrecords
  rw [Report.mk.injEq]
  refine ⟨?_, hrecords⟩
  cases header with
  | none =>
    cases header' with
    | none => rfl
    | some h' => cases hheader
  | some h =>
    cases header' with
    | none => cases hheader
    | some h' => rw [ModuleHeader.value_inj hheader]

end Report

/-! ## What is laid out -/

theorem ModuleHeader.value_toJson (h : ModuleHeader) : h.toJson.value = h.value := by
  simp [toJson, value, Json.value, Json.valueMembers]

theorem ModuleHeader.announced_toJson (h : ModuleHeader) : h.toJson.Announced := by
  simp [toJson, Json.Announced, Json.AnnouncedMembers]

theorem CategorySet.value_toJson (s : CategorySet) : s.toJson.value = s.value := by
  rw [toJson, Json.value, Json.valueItems_eq_map, value_eq_names, List.map_map]
  rfl

/-- The size that a tidy word announces is the number of the names. -/
theorem CategorySet.Tidy.announced_toJson {s : CategorySet} (h : s.Tidy) :
    s.toJson.Announced := by
  rw [toJson, Json.Announced, Json.announcedItems_iff]
  refine ⟨?_, ?_⟩
  · rw [List.length_map, names, List.length_map]
    exact h.size_eq_length_toList
  · intro item hitem
    obtain ⟨name, -, rfl⟩ := List.mem_map.1 hitem
    simp [Json.Announced]

namespace Report

theorem Record.value_toJson (r : Record) : r.toJson.value = r.value := by
  simp [toJson, value, Json.value, Json.valueMembers, CategorySet.value_toJson]

theorem Record.announced_toJson {r : Record} (h : r.categories.Tidy) : r.toJson.Announced := by
  simp [toJson, Json.Announced, Json.AnnouncedMembers, h.announced_toJson]

theorem announced_toJson {report : Report} (h : ∀ r ∈ report.records, r.categories.Tidy) :
    report.toJson.Announced := by
  have hheader : ((report.header.map ModuleHeader.toJson).getD .null).Announced := by
    cases report.header with
    | none => simp [Json.Announced]
    | some header => exact header.announced_toJson
  have hrecords : Json.AnnouncedItems (report.records.map Record.toJson) := by
    rw [Json.announcedItems_iff]
    intro item hitem
    obtain ⟨r, hr, rfl⟩ := List.mem_map.1 hitem
    exact Record.announced_toJson (h r hr)
  simp [toJson, Json.Announced, Json.AnnouncedMembers, hheader, hrecords]

theorem value_toJson (report : Report) : report.toJson.value = report.value := by
  have hheader : ((report.header.map ModuleHeader.toJson).getD .null).value =
      match report.header with
      | none => .null
      | some h => h.value := by
    cases report.header with
    | none => rfl
    | some h => exact h.value_toJson
  have hrecords : (report.records.map Record.toJson).map Json.value =
      report.records.map Record.value := by
    rw [List.map_map]
    exact List.map_congr_left fun r _ => r.value_toJson
  simp only [toJson, Json.value, Json.valueMembers, Json.valueItems_eq_map, hheader, hrecords,
    value]

/-- **Documents are lossless.**  Let the sets of a report be built in steps.  Its document is one
    text of JSON and a line break.  It is the text of the value of the report, which is that of
    no other report, and of no other value.  The names of the categories in it are as many as
    the set announces. -/
theorem document_lossless {report : Report}
    (hreport : ∀ record ∈ report.records, record.categories.Reachable) :
    (∃ text, report.document = text ++ "\n" ∧ Written report.value text.toList) ∧
    (∀ v, IsText v report.document.toList ↔ v = report.value) ∧
    (∀ record ∈ report.records, record.categories.size =
      (Category.all.filter fun c => c ∈ record.categories).length) ∧
    ∀ other : Report, (∀ record ∈ other.records, record.categories.Reachable) →
      report.document = other.document → report = other := by
  have htidy : ∀ {report : Report}, (∀ record ∈ report.records, record.categories.Reachable) →
      ∀ record ∈ report.records, record.categories.Tidy :=
    fun h record hrecord => (h record hrecord).tidy
  have htext : ∀ {report : Report}, (∀ record ∈ report.records, record.categories.Reachable) →
      ∀ v, IsText v report.document.toList ↔ v = report.value := by
    intro report h v
    rw [document, Json.isText_document_iff (announced_toJson (htidy h)), value_toJson]
  refine ⟨⟨_, rfl, ?_⟩, htext hreport, ?_, ?_⟩
  · rw [← value_toJson]
    exact Json.written_layout 0 report.toJson (announced_toJson (htidy hreport))
  · intro record hrecord
    rw [(htidy hreport record hrecord).size_eq_length_toList, CategorySet.toList_eq_filter]
  · intro other hother h
    have hvalue := (htext hreport report.value).2 rfl
    rw [h] at hvalue
    exact value_inj (htidy hreport) (htidy hother) ((htext hother report.value).1 hvalue)

/-- A report with a header, a record whose set is that of its operation, and one whose set is
    empty: its document is told from that of the same report without the last record. -/
theorem document_lossless_shorter :
    let record : Record := ⟨5, "OpTypeInt", 4, Opcode.opTypeInt.categories⟩
    let last : Record := ⟨9, "OpNop", 1, CategorySet.empty⟩
    let report : Report := ⟨some ⟨0x00010600, 0x0008000b, 100, 0⟩, [record, last]⟩
    let other : Report := ⟨some ⟨0x00010600, 0x0008000b, 100, 0⟩, [record]⟩
    (∀ r ∈ report.records, r.categories.Reachable) ∧
      (∀ r ∈ other.records, r.categories.Reachable) ∧
      IsText report.value report.document.toList ∧ report.document ≠ other.document := by
  intro record last report other
  have hrecord : record.categories.Reachable := CategorySet.reachable_categories .opTypeInt
  have hlast : last.categories.Reachable := CategorySet.reachable_run []
  have hreport : ∀ r ∈ report.records, r.categories.Reachable :=
    List.forall_mem_cons.2 ⟨hrecord, List.forall_mem_singleton.2 hlast⟩
  have hother : ∀ r ∈ other.records, r.categories.Reachable :=
    List.forall_mem_singleton.2 hrecord
  obtain ⟨-, htext, -, hinj⟩ := document_lossless hreport
  refine ⟨hreport, hother, (htext _).2 rfl, ?_⟩
  intro heq
  have hlength := congrArg (fun r => r.records.length) (hinj other hother heq)
  exact absurd hlength (by decide)

end Report

end Spirv
