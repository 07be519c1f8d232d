/-
  Reports and the walk they are made from.

  The report on a file reads the header, where the settings ask for one, and then walks the
  instructions behind it (`ofWords_eq`).  `Tells s records` says that the records are those
  of what the stream `s` yields up to its end: one for each instruction, placed where the
  stream stood before it was asked.  `Obstacle bytes settings e` says that `e` is the first
  of what stands in the way of a report.

  Main statement: a dump is made or refused for these reasons, in either form, and what it
  prints tells the walk (`dumpText_walk`).
-/
import Spirv.Command.Run
import Spirv.Proofs.Except
import Spirv.Proofs.ModuleHeader
import Spirv.Proofs.Stream.Division

namespace Spirv

open Instruction (startOf)

namespace Report

/-! ## Records -/

/-- The record of an instruction at the given offset. -/
def recordAt (offset : Nat) (inst : Instruction) : Record :=
  ⟨offset, inst.opcode.name, inst.wordCount, inst.opcode.categories⟩

theorem getElem?_recordsFrom (offset : Nat) (insts : List Instruction) (i : Nat) :
    (recordsFrom offset insts)[i]? =
      insts[i]?.map fun inst => recordAt (offset + startOf insts i) inst := by
  induction insts generalizing offset i with
  | nil => rfl
  | cons inst insts ih =>
    cases i with
    | zero => rfl
    | succ i =>
      rw [recordsFrom, List.getElem?_cons_succ, List.getElem?_cons_succ, ih,
        Instruction.startOf_cons_succ, Nat.add_assoc]

theorem mem_categories_recordAt {offset : Nat} {inst : Instruction} {c : Category} :
    c ∈ (recordAt offset inst).categories ↔ c.holds inst.opcode = true := by
  rw [recordAt, Opcode.categories_eq_ofOpcode, CategorySet.mem_ofOpcode]

/-- The records are those of what the stream yields to its end, and it yields no error. -/
inductive Tells : Stream → List Record → Prop where
  /-- The stream is at its end. -/
  | done {s : Stream} (h : s.next = none) : Tells s []
  /-- The stream yields an instruction, and its record has the offset of the stream. -/
  | record {s t : Stream} {inst : Instruction} {records : List Record}
      (h : s.next = some (.ok inst, t)) (ht : Tells t records) :
      Tells s (recordAt s.offset inst :: records)

/-- The offset that the records count is that of the stream. -/
theorem tells_recordsFrom {order : ByteOrder} {offset : Nat} {words rest : List Word}
    {insts : List Instruction} (d : Stream.Division order offset words insts rest none) :
    Tells ⟨words, order, offset, false⟩ (recordsFrom offset insts) := by
  obtain ⟨hwf, rfl, hend⟩ := d
  induction insts generalizing offset with
  | nil =>
    cases hend with
    | finished => exact .done (Stream.next_nil order offset false)
  | cons inst insts ih =>
    obtain ⟨hinst, hinsts⟩ := List.forall_mem_cons.1 hwf
    rw [Instruction.encodeAll_cons, List.length_append, Instruction.length_encode,
      ← Nat.add_assoc] at hend
    rw [Instruction.encodeAll_cons, List.append_assoc]
    exact .record (Stream.next_encode_append hinst order offset _) (ih hinsts hend)

/-! ## The stages of a report -/

/-- The place of the first instruction of a file. -/
def firstOffset (settings : Settings) : Nat :=
  if settings.moduleHeader then ModuleHeader.length else 0

/-- The walk over the instructions of a file. -/
def walk (words : List Word) (settings : Settings) : Stream :=
  .startingAt words settings.byteOrder (firstOffset settings)

/-- The header of a file, if the settings ask for one. -/
def header? (words : List Word) (settings : Settings) : Except Error (Option ModuleHeader) :=
  if settings.moduleHeader then (ModuleHeader.parse words settings.byteOrder).map some
  else .ok none

/-- The header comes first, then the walk behind it. -/
theorem ofWords_eq (words : List Word) (settings : Settings) :
    ofWords words settings =
      (header? words settings >>= fun header =>
        (walk words settings).collect >>= fun insts =>
          .ok ⟨header, recordsFrom (firstOffset settings) insts⟩) := by
  unfold ofWords header? walk firstOffset
  cases hheader : settings.moduleHeader with
  | true => cases ModuleHeader.parse words settings.byteOrder <;> rfl
  | false => rfl

theorem ofBytes_of_words {bytes : List UInt8} {words : List Word} (settings : Settings)
    (h : Binary.words bytes = .ok words) : ofBytes bytes settings = ofWords words settings := by
  rw [ofBytes, h]
  rfl

/-- Bytes that make whole words are reported on by these words. -/
theorem ofBytes_of_length {bytes : List UInt8} (settings : Settings)
    (hlen : bytes.length % 4 = 0) :
    ofBytes bytes settings = ofWords (Binary.group bytes) settings :=
  ofBytes_of_words settings (Binary.words_eq_ok_iff.2 ⟨hlen, rfl⟩)

theorem header?_eq_error_iff {words : List Word} {settings : Settings} {e : Error} :
    header? words settings = .error e ↔
      settings.moduleHeader = true ∧ ModuleHeader.Fault settings.byteOrder words e := by
  unfold header?
  rw [← ModuleHeader.parse_eq_error_iff]
  cases settings.moduleHeader with
  | true => cases ModuleHeader.parse words settings.byteOrder <;> simp [Except.map]
  | false => simp

/-- The header is what was read, and only if it was asked for. -/
theorem header?_eq_ok_iff {words : List Word} {settings : Settings}
    {header : Option ModuleHeader} :
    header? words settings = .ok header ↔
      (settings.moduleHeader = true →
        ∃ h, ModuleHeader.parse words settings.byteOrder = .ok h ∧ header = some h) ∧
      (settings.moduleHeader = false → header = none) := by
  unfold header?
  cases settings.moduleHeader with
  | true => cases ModuleHeader.parse words settings.byteOrder <;> simp [Except.map, eq_comm]
  | false => simp [eq_comm]

theorem exists_header?_iff {words : List Word} {settings : Settings} :
    (∃ header, header? words settings = .ok header) ↔
      (settings.moduleHeader = true →
        ∃ h, ModuleHeader.parse words settings.byteOrder = .ok h) := by
  unfold header?
  cases settings.moduleHeader with
  | true => cases ModuleHeader.parse words settings.byteOrder <;> simp [Except.map]
  | false => simp

theorem walk_collect_eq_error_iff {words : List Word} {settings : Settings} {e : Error} :
    (walk words settings).collect = .error e ↔ .error e ∈ (walk words settings).items := by
  obtain ⟨insts, rest, defect, d⟩ := Stream.exists_division settings.byteOrder
    (firstOffset settings) (words.drop (firstOffset settings))
  have hcollect : (walk words settings).collect = Stream.verdict insts defect := d.collect_eq
  have hitems : (walk words settings).items = Stream.outcomes insts defect := d.items_eq
  rw [hcollect, hitems, Stream.error_mem_outcomes]
  cases defect <;> simp [Stream.verdict]

/-! ## When a report is made -/

/-- The first of what stands in the way of a report. -/
inductive Obstacle (bytes : List UInt8) (settings : Settings) : Error → Prop where
  /-- The bytes do not make whole words. -/
  | unaligned (hlen : bytes.length % 4 ≠ 0) :
      Obstacle bytes settings (.unalignedLength bytes.length)
  /-- They do, but they do not begin with the header that is asked for. -/
  | header {e : Error} (hlen : bytes.length % 4 = 0) (hasked : settings.moduleHeader = true)
      (h : ModuleHeader.Fault settings.byteOrder (Binary.group bytes) e) :
      Obstacle bytes settings e
  /-- The header is there or not asked for, but the walk meets an error. -/
  | stream {e : Error} (hlen : bytes.length % 4 = 0)
      (hheader : settings.moduleHeader = true →
        ∃ header, ModuleHeader.parse (Binary.group bytes) settings.byteOrder = .ok header)
      (h : .error e ∈ (walk (Binary.group bytes) settings).items) :
      Obstacle bytes settings e

theorem ofBytes_eq_error_iff {bytes : List UInt8} {settings : Settings} {e : Error} :
    ofBytes bytes settings = .error e ↔ Obstacle bytes settings e := by
  constructor
  · intro h
    rw [ofBytes, bind_eq_error_iff] at h
    rcases h with h | ⟨words, hwords, h⟩
    · obtain ⟨hlen, rfl⟩ := Binary.words_eq_error_iff.1 h
      exact .unaligned hlen
    obtain ⟨hlen, rfl⟩ := Binary.words_eq_ok_iff.1 hwords
    rw [ofWords_eq, bind_eq_error_iff] at h
    rcases h with h | ⟨header, hheader, h⟩
    · obtain ⟨hasked, hfault⟩ := header?_eq_error_iff.1 h
      exact .header hlen hasked hfault
    rw [bind_eq_error_iff] at h
    rcases h with h | ⟨insts, -, h⟩
    · refine .stream hlen ?_ (walk_collect_eq_error_iff.1 h)
      intro hasked
      obtain ⟨read, hread, -⟩ := (header?_eq_ok_iff.1 hheader).1 hasked
      exact ⟨read, hread⟩
    · cases h
  · intro h
    cases h with
    | unaligned hlen =>
      rw [ofBytes, bind_eq_error_iff]
      exact .inl (Binary.words_eq_error_iff.2 ⟨hlen, rfl⟩)
    | header hlen hasked hfault =>
      rw [ofBytes_of_length settings hlen, ofWords_eq, bind_eq_error_iff]
      exact .inl (header?_eq_error_iff.2 ⟨hasked, hfault⟩)
    | stream hlen hheader hitem =>
      obtain ⟨header, hread⟩ := exists_header?_iff.2 hheader
      have hcollect := walk_collect_eq_error_iff.2 hitem
      rw [ofBytes_of_length settings hlen, ofWords_eq, hread, hcollect]
      rfl

theorem ofBytes_eq_ok_iff {bytes : List UInt8} {settings : Settings} {report : Report} :
    ofBytes bytes settings = .ok report ↔
      bytes.length % 4 = 0 ∧
      header? (Binary.group bytes) settings = .ok report.header ∧
      ∃ insts, (walk (Binary.group bytes) settings).collect = .ok insts ∧
        report.records = recordsFrom (firstOffset settings) insts := by
  constructor
  · intro h
    rw [ofBytes, bind_eq_ok_iff] at h
    obtain ⟨words, hwords, h⟩ := h
    obtain ⟨hlen, rfl⟩ := Binary.words_eq_ok_iff.1 hwords
    rw [ofWords_eq, bind_eq_ok_iff] at h
    obtain ⟨header, hheader, h⟩ := h
    obtain ⟨insts, hinsts, h⟩ := bind_eq_ok_iff.1 h
    rw [← Except.ok.inj h]
    exact ⟨hlen, hheader, insts, hinsts, rfl⟩
  · rintro ⟨hlen, hheader, insts, hinsts, hrecords⟩
    rw [ofBytes_of_length settings hlen, ofWords_eq, hheader, hinsts]
    show Except.ok _ = Except.ok report
    rw [← hrecords]

/-- The records of a report tell the walk behind the header. -/
theorem tells_of_ofBytes {bytes : List UInt8} {settings : Settings} {report : Report}
    (h : ofBytes bytes settings = .ok report) :
    Tells (walk (Binary.group bytes) settings) report.records := by
  obtain ⟨-, -, insts, hinsts, hrecords⟩ := ofBytes_eq_ok_iff.1 h
  rw [hrecords]
  exact tells_recordsFrom (Stream.collect_eq_ok_iff.1 hinsts)

/-- A report is made when nothing stands in its way. -/
theorem exists_ofBytes_iff {bytes : List UInt8} {settings : Settings} :
    (∃ report, ofBytes bytes settings = .ok report) ↔
      bytes.length % 4 = 0 ∧
      (settings.moduleHeader = true →
        ∃ header, ModuleHeader.parse (Binary.group bytes) settings.byteOrder = .ok header) ∧
      ∀ e, .error e ∉ (walk (Binary.group bytes) settings).items := by
  constructor
  · rintro ⟨report, h⟩
    obtain ⟨hlen, hheader, insts, hinsts, -⟩ := ofBytes_eq_ok_iff.1 h
    refine ⟨hlen, exists_header?_iff.1 ⟨_, hheader⟩, ?_⟩
    intro e he
    rw [← walk_collect_eq_error_iff, hinsts] at he
    cases he
  · rintro ⟨hlen, hheader, hitems⟩
    obtain ⟨header, hread⟩ := exists_header?_iff.2 hheader
    cases hcollect : (walk (Binary.group bytes) settings).collect with
    | error e => exact absurd (walk_collect_eq_error_iff.1 hcollect) (hitems e)
    | ok insts =>
      refine ⟨⟨header, recordsFrom (firstOffset settings) insts⟩, ?_⟩
      exact ofBytes_eq_ok_iff.2 ⟨hlen, hread, insts, hcollect, rfl⟩

/-- Without a header the walk is the decoding of all words. -/
theorem walk_collect_of_no_header {settings : Settings} (h : settings.moduleHeader = false)
    (words : List Word) :
    (walk words settings).collect = decodeAll words settings.byteOrder := by
  rw [walk, firstOffset, h]
  rfl

end Report

/-! ## What a dump prints -/

theorem dumpText_eq_ok_iff {bytes : List UInt8} {settings : Settings} {json : Bool}
    {text : String} :
    Command.dumpText bytes settings json = .ok text ↔
      ∃ report, Report.ofBytes bytes settings = .ok report ∧
        text = if json then report.document else report.listing := by
  unfold Command.dumpText
  cases Report.ofBytes bytes settings <;> simp [eq_comm]

theorem dumpText_eq_error_iff {bytes : List UInt8} {settings : Settings} {json : Bool}
    {e : Error} :
    Command.dumpText bytes settings json = .error e ↔ Report.Obstacle bytes settings e := by
  rw [← Report.ofBytes_eq_error_iff]
  unfold Command.dumpText
  cases Report.ofBytes bytes settings <;> simp

/-- **A dump is all or nothing.**  It is made exactly when the bytes make whole words, the
    header is right where one is asked for, and the walk over the words behind it yields no
    error; its records then tell this walk.  Otherwise it is refused for the first obstacle,
    and the form that was asked for has no part in this.  Without a header it is made exactly
    when the words decode, and it has a record for each instruction. -/
theorem dumpText_walk (bytes : List UInt8) (settings : Settings) :
    (∀ json, (∃ text, Command.dumpText bytes settings json = .ok text) ↔
      bytes.length % 4 = 0 ∧
      (settings.moduleHeader = true →
        ∃ header, ModuleHeader.parse (Binary.group bytes) settings.byteOrder = .ok header) ∧
      ∀ e, .error e ∉ (Report.walk (Binary.group bytes) settings).items) ∧
    (∀ json text, Command.dumpText bytes settings json = .ok text →
      ∃ report : Report,
        (∀ json', Command.dumpText bytes settings json' =
          .ok (if json' then report.document else report.listing)) ∧
        (settings.moduleHeader = true →
          ∃ header, ModuleHeader.parse (Binary.group bytes) settings.byteOrder = .ok header ∧
            report.header = some header) ∧
        (settings.moduleHeader = false → report.header = none) ∧
        Report.Tells (Report.walk (Binary.group bytes) settings) report.records) ∧
    (∀ json e, Command.dumpText bytes settings json = .error e ↔
      Report.Obstacle bytes settings e) ∧
    (∀ e, Command.dumpText bytes settings true = .error e ↔
      Command.dumpText bytes settings false = .error e) ∧
    (settings.moduleHeader = false →
      (∀ json, (∃ text, Command.dumpText bytes settings json = .ok text) ↔
        ∃ words insts, Binary.words bytes = .ok words ∧
          decodeAll words settings.byteOrder = .ok insts) ∧
      ∀ words insts, Binary.words bytes = .ok words →
        decodeAll words settings.byteOrder = .ok insts →
        ∃ report : Report,
          (∀ json, Command.dumpText bytes settings json =
            .ok (if json then report.document else report.listing)) ∧
          report.records.length = insts.length ∧
          ∀ i inst, insts[i]? = some inst →
            report.records[i]? = some (Report.recordAt (startOf insts i) inst)) := by
  have hmade : ∀ json, (∃ text, Command.dumpText bytes settings json = .ok text) ↔
      ∃ report, Report.ofBytes bytes settings = .ok report := by
    intro json
    simp [dumpText_eq_ok_iff]
  refine ⟨?_, ?_, ?_, ?_, ?_⟩
  · intro json
    rw [hmade, Report.exists_ofBytes_iff]
  · intro json text h
    obtain ⟨report, hreport, -⟩ := dumpText_eq_ok_iff.1 h
    have hheader := Report.header?_eq_ok_iff.1 (Report.ofBytes_eq_ok_iff.1 hreport).2.1
    refine ⟨report, ?_, hheader.1, hheader.2, Report.tells_of_ofBytes hreport⟩
    intro json'
    exact dumpText_eq_ok_iff.2 ⟨report, hreport, rfl⟩
  · intro json e
    exact dumpText_eq_error_iff
  · intro e
    rw [dumpText_eq_error_iff, dumpText_eq_error_iff]
  · intro hbare
    have hfirst : Report.firstOffset settings = 0 := by
      rw [Report.firstOffset, hbare]
      rfl
    have hreport : ∀ words insts, Binary.words bytes = .ok words →
        decodeAll words settings.byteOrder = .ok insts →
        Report.ofBytes bytes settings = .ok ⟨none, Report.recordsFrom 0 insts⟩ := by
      intro words insts hwords hinsts
      obtain ⟨hlen, rfl⟩ := Binary.words_eq_ok_iff.1 hwords
      rw [← Report.walk_collect_of_no_header hbare] at hinsts
      refine Report.ofBytes_eq_ok_iff.2 ⟨hlen, ?_, insts, hinsts, by rw [hfirst]⟩
      exact Report.header?_eq_ok_iff.2 ⟨by simp [hbare], fun _ => rfl⟩
    refine ⟨?_, ?_⟩
    · intro json
      rw [hmade]
      constructor
      · rintro ⟨report, h⟩
        obtain ⟨hlen, -, insts, hinsts, -⟩ := Report.ofBytes_eq_ok_iff.1 h
        rw [Report.walk_collect_of_no_header hbare] at hinsts
        exact ⟨_, insts, Binary.words_eq_ok_iff.2 ⟨hlen, rfl⟩, hinsts⟩
      · rintro ⟨words, insts, hwords, hinsts⟩
        exact ⟨_, hreport words insts hwords hinsts⟩
    · intro words insts hwords hinsts
      refine ⟨⟨none, Report.recordsFrom 0 insts⟩, ?_, Report.length_recordsFrom 0 insts, ?_⟩
      · intro json
        exact dumpText_eq_ok_iff.2 ⟨_, hreport words insts hwords hinsts, rfl⟩
      · intro i inst hinst
        rw [Report.getElem?_recordsFrom, hinst, Nat.zero_add]
        rfl

end Spirv
