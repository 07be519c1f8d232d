/-
  Reports on modules that were assembled.

  A module is the words of a header and then those of some lines; `moduleBytes` writes them
  in a given order.  Main statement: a dump of these bytes, read in the order in which they
  were written, tells of each line what it is, and does not tell the order
  (`dumpText_moduleBytes`).

  The stages are the grouping of the bytes, the correction of the words, the header, the
  stream behind it and the records; each has its lemma.
-/
import Spirv.Proofs.Report.Body
import Spirv.Proofs.Stream.RoundTrip

namespace Spirv

open Instruction (startOf)

/-- The bytes of a module in the given order: the header and then the lines. -/
def moduleBytes (order : ByteOrder) (header : ModuleHeader) (lines : List Line) : List UInt8 :=
  Binary.ofWords order
    ([ModuleHeader.magic, header.version, header.generator, header.bound, header.schema] ++
      Line.assemble lines)

/-! ## Words -/

theorem words_moduleBytes (order : ByteOrder) (header : ModuleHeader) (lines : List Line) :
    Binary.words (moduleBytes order header lines) =
      .ok (header.encode order ++ (Line.assemble lines).map order.toHost) := by
  rw [moduleBytes, Binary.words_ofWords, List.map_append]
  rfl

namespace Report

/-! ## The report on a module -/

/-- The report on a module of the given header and lines. -/
def ofLines (header : ModuleHeader) (lines : List Line) : Report :=
  ⟨some header, recordsFrom ModuleHeader.length (lines.map Line.instruction)⟩

theorem ofBytes_moduleBytes (order : ByteOrder) (header : ModuleHeader) (lines : List Line) :
    ofBytes (moduleBytes order header lines) ⟨order, true⟩ = .ok (ofLines header lines) := by
  have hdecode := decodeAll_eq_ok_iff.2 (Line.division_assemble order 0 lines)
  rw [ofBytes_of_words _ (words_moduleBytes order header lines), ofWords_encode_append, hdecode]
  rfl

theorem getElem?_records_ofLines {header : ModuleHeader} {lines : List Line} {i : Nat}
    {line : Line} (h : lines[i]? = some line) :
    (ofLines header lines).records[i]? =
      some (recordAt (ModuleHeader.length + ((lines.take i).map Line.wordCount).sum)
        line.instruction) := by
  show (recordsFrom _ _)[i]? = _
  rw [getElem?_recordsFrom, List.getElem?_map, h, Line.startOf_map_instruction]
  rfl

end Report

/-- **A dump tells what was assembled.**  For any header and lines there is a report with
    that header and one record for each line: its offset, which counts the five words of
    the header and the words of the lines before it, its mnemonic, the number of its words,
    and the categories that hold of its operation.  A dump of the module prints this report,
    as text and as a document, in whichever order the module was written. -/
theorem dumpText_moduleBytes (header : ModuleHeader) (lines : List Line) :
    ∃ report : Report,
      report.header = some header ∧
      report.records.length = lines.length ∧
      (∀ i line, lines[i]? = some line →
        ∃ record, report.records[i]? = some record ∧
          record.offset = 5 + ((lines.take i).map fun l => 1 + l.operands.length).sum ∧
          record.mnemonic = line.opcode.mnemonic ∧
          record.wordCount = 1 + line.operands.length ∧
          ∀ c : Category, c ∈ record.categories ↔ c.holds line.opcode = true) ∧
      (∀ order json,
        Command.dumpText (moduleBytes order header lines) ⟨order, true⟩ json =
          .ok (if json then report.document else report.listing)) ∧
      ∀ order order' json,
        Command.dumpText (moduleBytes order header lines) ⟨order, true⟩ json =
          Command.dumpText (moduleBytes order' header lines) ⟨order', true⟩ json := by
  have hdump : ∀ order json,
      Command.dumpText (moduleBytes order header lines) ⟨order, true⟩ json =
        .ok (if json then (Report.ofLines header lines).document
          else (Report.ofLines header lines).listing) := by
    intro order json
    rw [Command.dumpText, Report.ofBytes_moduleBytes]
  refine ⟨Report.ofLines header lines, rfl, ?_, ?_, hdump, ?_⟩
  · show (Report.recordsFrom _ _).length = _
    rw [Report.length_recordsFrom, List.length_map]
  · intro i line hline
    refine ⟨_, Report.getElem?_records_ofLines hline, rfl, ?_, ?_, ?_⟩
    · exact line.opcode.name_eq_mnemonic
    · exact line.wordCount_instruction
    · intro c
      exact Report.mem_categories_recordAt
  · intro order order' json
    rw [hdump, hdump]

end Spirv
