/-
  Listings: reports as text.

  A line for the module header, if there is one, and a line for each record: offset,
  mnemonic and word count in columns, then the categories.  No line ends in blanks, and a
  listing without lines is one line break.
-/
import Spirv.Column
import Spirv.Report

namespace Spirv.Report

/-- The line for a module header. -/
def headerLine (h : ModuleHeader) : String :=
  s!"; SPIR-V {h.major}.{h.minor}, generator {h.toolLabel} " ++
    s!"({Numeral.word h.generator}), bound {h.bound}"

/-- The line for a record. -/
def Record.line (r : Record) : String :=
  let fields :=
    Column.alignRight 6 (toString r.offset) ++ [' ', ' '] ++
    Column.alignLeft 40 r.mnemonic ++ [' '] ++
    Column.alignRight 3 (toString r.wordCount) ++ [' ', ' '] ++
    r.categories.text.toList
  String.ofList (Column.dropTrailingBlanks fields)

/-- The lines of the listing. -/
def lines (report : Report) : List String :=
  (report.header.map headerLine).toList ++ report.records.map Record.line

/-- The report as text. -/
def listing (report : Report) : String :=
  "\n".intercalate report.lines ++ "\n"

end Spirv.Report
