/-
  Inconsistencies are never met.

  An `Inconsistency` says that a caller declared something else than the words hold, or that
  two tables disagree.  Streams declare what they have read, and every operation has its
  row, so no input leads to one: what goes wrong with a file is wrong with its contents
  (`Error.OfFile`), and each record has the name of its operation.

  Main statement: `inconsistent_unreachable`.
-/
import Spirv.Proofs.Query
import Spirv.Proofs.Report.Walk
import Spirv.Proofs.Stream.Place

namespace Spirv

/-! ## What can be wrong with a file -/

/-- The errors that speak of the contents of a file. -/
inductive Error.OfFile : Error → Prop where
  | unalignedLength (bytes : Nat) : OfFile (.unalignedLength bytes)
  | shortHeader (found : Nat) : OfFile (.shortHeader found)
  | badMagic (word : Word) : OfFile (.badMagic word)
  | wordCountZero (offset : Nat) : OfFile (.wordCountZero offset)
  | truncated (offset needed available : Nat) : OfFile (.truncated offset needed available)
  | unknownOpcode (code : UInt32) : OfFile (.unknownOpcode code)

theorem Stream.Defect.ofFile {order : ByteOrder} {offset : Nat} {words : List Word} {e : Error}
    (h : Stream.Defect order offset words e) : e.OfFile := by
  cases h with
  | wordCountZero => exact .wordCountZero _
  | truncated => exact .truncated _ _ _
  | unknownOpcode => exact .unknownOpcode _

theorem ModuleHeader.Fault.ofFile {order : ByteOrder} {words : List Word} {e : Error}
    (h : ModuleHeader.Fault order words e) : e.OfFile := by
  cases h with
  | short => exact .shortHeader _
  | magic => exact .badMagic _

theorem Report.Obstacle.ofFile {bytes : List UInt8} {settings : Settings} {e : Error}
    (h : Report.Obstacle bytes settings e) : e.OfFile := by
  cases h with
  | unaligned => exact .unalignedLength _
  | header _ _ hfault => exact hfault.ofFile
  | stream _ _ hitem =>
    obtain ⟨offset, rest, hdef⟩ := Stream.exists_defect_of_mem_items hitem
    exact hdef.ofFile

/-! ## Names -/

theorem all_mnemonic_ne_placeholder :
    (Opcode.all.all fun op => op.mnemonic != Registry.placeholder) = true := by
  decide +kernel

theorem Opcode.mnemonic_ne_placeholder (op : Opcode) : op.mnemonic ≠ Registry.placeholder := by
  have h := List.all_eq_true.1 all_mnemonic_ne_placeholder op op.mem_all
  exact bne_iff_ne.1 h

/-- Each record of a walk has the mnemonic of an operation. -/
theorem Report.Tells.exists_mnemonic {s : Stream} {records : List Report.Record}
    (h : Report.Tells s records) {record : Report.Record} (hmem : record ∈ records) :
    ∃ op : Opcode, record.mnemonic = op.mnemonic := by
  induction h with
  | done => cases hmem
  | @record s t inst records _ _ ih =>
    rcases List.mem_cons.1 hmem with rfl | hmem
    · exact ⟨inst.opcode, inst.opcode.name_eq_mnemonic⟩
    · exact ih hmem

/-! ## Queries -/

/-- What can be wrong with a query. -/
theorem resolve_eq_error {query : String} {e : CommandError}
    (h : Command.resolve query = .error e) :
    e = .badNumber query ∨ e = .unknownMnemonic query ∨
      ∃ code, e = .decoding (.unknownOpcode code) := by
  cases resolve_eq_error_iff.1 h with
  | badNumber => exact .inl rfl
  | unknownOpcode => exact .inr (.inr ⟨_, rfl⟩)
  | unknownMnemonic => exact .inr (.inl rfl)

theorem resolve_of_classifyText_eq_error {query : String} {e : CommandError}
    (h : Command.classifyText query = .error e) : Command.resolve query = .error e :=
  resolve_eq_error_iff.2 (classifyText_eq_error_iff.1 h)

/-! ## No input leads to an inconsistency -/

/-- **Inconsistencies are unreachable.**  However often a stream is asked, from any start in
    any words, it yields none, it reads only where words are, and its offset does not pass
    their end.  A dump fails only for what is wrong with the file, and what it prints never
    names an operation by the placeholder.  No query leads to an inconsistency either. -/
theorem inconsistent_unreachable :
    (∀ words order start n,
      let s := (Stream.startingAt words order start).after n
      s.offset ≤ max start words.length ∧
      ∀ r t, s.next = some (r, t) →
        (∀ cause, r ≠ .error (.inconsistent cause)) ∧
        ∃ hlt : s.offset < words.length,
          s.rest = words[s.offset] :: words.drop (s.offset + 1)) ∧
    (∀ bytes settings json,
      (∀ e, Command.dumpText bytes settings json = .error e →
        e.OfFile ∧ ∀ cause, e ≠ .inconsistent cause) ∧
      ∀ text, Command.dumpText bytes settings json = .ok text →
        ∃ report : Report, text = (if json then report.document else report.listing) ∧
          ∀ record ∈ report.records,
            record.mnemonic ≠ Registry.placeholder ∧
            ∃ op : Opcode, record.mnemonic = op.mnemonic) ∧
    ∀ query cause, Command.classifyText query ≠ .error (.decoding (.inconsistent cause)) := by
  have hdata : ∀ e : Error, e.OfFile → ∀ cause, e ≠ .inconsistent cause := by
    rintro e he cause rfl
    cases he
  refine ⟨?_, ?_, ?_⟩
  · intro words order start n s
    have w : Stream.Within words order start s :=
      (Stream.within_startingAt words order start).after n
    refine ⟨w.offset_le, ?_⟩
    intro r t h
    refine ⟨?_, w.exists_word h⟩
    rintro cause rfl
    exact hdata _ (Stream.defect_of_next h).ofFile cause rfl
  · intro bytes settings json
    refine ⟨?_, ?_⟩
    · intro e h
      have he := (dumpText_eq_error_iff.1 h).ofFile
      exact ⟨he, hdata e he⟩
    · intro text h
      obtain ⟨report, hreport, htext⟩ := dumpText_eq_ok_iff.1 h
      refine ⟨report, htext, ?_⟩
      intro record hmem
      obtain ⟨op, hop⟩ := (Report.tells_of_ofBytes hreport).exists_mnemonic hmem
      rw [hop]
      exact ⟨op.mnemonic_ne_placeholder, op, rfl⟩
  · intro query cause h
    rcases resolve_eq_error (resolve_of_classifyText_eq_error h) with he | he | ⟨code, he⟩
    · cases he
    · cases he
    · cases he

end Spirv
