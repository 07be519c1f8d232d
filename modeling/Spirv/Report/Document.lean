/-
  Documents: reports as JSON.

  `toJson` turns a report into a value and `document` lays it out.  Members stand in a
  fixed order, and a category set is the list of its names, announced by the size of the set.
-/
import Spirv.Json
import Spirv.Report

namespace Spirv

/-- The words of the header under their names. -/
def ModuleHeader.toJson (h : ModuleHeader) : Json :=
  .object
    [("version", .number h.version.toNat),
     ("generator", .number h.generator.toNat),
     ("bound", .number h.bound.toNat),
     ("schema", .number h.schema.toNat)]

/-- The names of the members, in the order of reports. -/
def CategorySet.toJson (s : CategorySet) : Json :=
  .array s.size (s.names.map .string)

namespace Report

/-- The record under the names of its fields. -/
def Record.toJson (r : Record) : Json :=
  .object
    [("offset", .number r.offset),
     ("opcode", .string r.mnemonic),
     ("word_count", .number r.wordCount),
     ("categories", r.categories.toJson)]

/-- The report as a JSON value, with `null` for a header that was not read. -/
def toJson (report : Report) : Json :=
  .object
    [("header", (report.header.map ModuleHeader.toJson).getD .null),
     ("instructions", .array report.records.length (report.records.map Record.toJson))]

/-- The report as a JSON document. -/
def document (report : Report) : String :=
  report.toJson.document

end Report

end Spirv
