/-
  Listings and what they show.

  A record line begins with three words: offset, mnemonic and word count; the text of the
  categories follows (`splitWords_line`).  None of them is cut by its column, so the line tells
  the record (`Record.line_inj`).  A header line has its parts between marks that do not occur
  in them, and tells the version, the generator word and the bound (`headerLine_eq_iff`); the
  schema is not shown.  The lines have no line break and end visibly, so a listing divides
  into its lines (`splitOn_listing`).

  Main statement: `listing_lossless`.
-/
import Spirv.Proofs.Boundary
import Spirv.Proofs.CategorySet.Text
import Spirv.Proofs.Numeral.Writing
import Spirv.Registry
import Spirv.Report.Listing

namespace Spirv

open Column (IsWord isVisible splitWords)

/-! ## Words of a line -/

theorem Numeral.isWord_toString (n : Nat) : IsWord (toString n).toList := by
  have hdigit : ∀ c : Char, c.isDigit = true → isVisible c = true := by
    intro c hc
    rw [Char.isDigit, Bool.and_eq_true, decide_eq_true_eq, decide_eq_true_eq] at hc
    rw [isVisible, Bool.and_eq_true, decide_eq_true_eq, decide_eq_true_eq]
    exact ⟨le_trans (by decide) hc.1, le_trans hc.2 (by decide)⟩
  refine ⟨?_, fun c hc => hdigit c (Numeral.isDigit_of_mem_toString hc)⟩
  rw [Numeral.toList_toString]
  exact Nat.toDigits_ne_nil

theorem Numeral.isWord_word (w : Word) : IsWord (Numeral.word w).toList := by
  have htable : (Numeral.smallDigits ++ Numeral.capitalDigits).all isVisible = true := by decide
  have hdigit : ∀ {c : Char} {v : Nat}, Numeral.IsDigit 16 c v → isVisible c = true := by
    rintro c v ⟨-, hc | hc⟩
    · exact List.all_eq_true.1 htable c (List.mem_append_left _ (List.mem_of_getElem? hc))
    · exact List.all_eq_true.1 htable c (List.mem_append_right _ (List.mem_of_getElem? hc))
  rw [Numeral.toList_word]
  refine ⟨by simp, ?_⟩
  intro c hc
  rcases List.mem_append.1 hc with hc | hc
  · rcases List.mem_pair.1 hc with rfl | rfl
    · rfl
    · rfl
  · obtain ⟨v, hv⟩ := (Numeral.denotes_word w).isDigit_of_mem hc
    exact hdigit hv

-- By unification: the kernel is slow to take a text apart.
theorem Opcode.exists_visible_letters (op : Opcode) :
    ∃ letters, op.mnemonic = String.ofList letters ∧
      (!letters.isEmpty && letters.all isVisible) = true := by
  cases op <;> exact ⟨_, rfl, rfl⟩

theorem Opcode.isWord_mnemonic (op : Opcode) : IsWord op.mnemonic.toList := by
  obtain ⟨letters, hname, hcheck⟩ := op.exists_visible_letters
  rw [hname, String.toList_ofList]
  simp only [Bool.and_eq_true, Bool.not_eq_true', List.isEmpty_eq_false_iff,
    List.all_eq_true] at hcheck
  exact ⟨hcheck.1, hcheck.2⟩

namespace Report

/-- What records may be listed. -/
structure WellFormed (report : Report) : Prop where
  /-- Every record has the mnemonic of an operation. -/
  named : ∀ record ∈ report.records, ∃ op : Opcode, record.mnemonic = op.mnemonic
  /-- Every record has a set that is built by some steps. -/
  sets : ∀ record ∈ report.records, record.categories.Reachable

/-! ## Record lines -/

/-- A record line up to the word count. -/
def Record.front (r : Record) : List Char :=
  List.replicate (6 - (toString r.offset).toList.length) ' ' ++ ((toString r.offset).toList ++
    (List.replicate 2 ' ' ++ (r.mnemonic.toList ++ List.replicate
      (40 - r.mnemonic.toList.length + (1 + (3 - (toString r.wordCount).toList.length))) ' ')))

/-- A record line after the word count: the categories, with blanks in front if there are any. -/
def Record.tail (r : Record) : List Char :=
  if r.categories.text.toList = [] then []
  else List.replicate 2 ' ' ++ r.categories.text.toList

theorem Record.toList_line (r : Record) :
    r.line.toList = r.front ++ (toString r.wordCount).toList ++ r.tail := by
  have hcount := Numeral.isWord_toString r.wordCount
  have hpadded : r.line.toList = Column.dropTrailingBlanks
      (r.front ++ (toString r.wordCount).toList ++
        (List.replicate 2 ' ' ++ r.categories.text.toList)) := by
    simp only [Record.line, Record.front, Column.alignRight, Column.alignLeft, List.leftpad,
      List.rightpad, String.toList_ofList, List.append_assoc, ← List.replicate_append_replicate]
    rfl
  rw [hpadded, Record.tail]
  split_ifs with htext
  · rw [htext, List.append_nil, List.append_nil, Column.dropTrailingBlanks_append_replicate,
      Column.dropTrailingBlanks_append_word hcount]
  · obtain ⟨front, word, hword, heq⟩ := CategorySet.exists_text_eq_append_word htext
    rw [heq, ← List.append_assoc, ← List.append_assoc, Column.dropTrailingBlanks_append_word hword]

theorem Record.tail_cases (r : Record) :
    (r.tail = [] ∧ r.categories.text.toList = []) ∨
      (r.tail = List.replicate 2 ' ' ++ r.categories.text.toList ∧
        ∃ front word, IsWord word ∧ r.categories.text.toList = front ++ word) := by
  unfold tail
  split_ifs with htext
  · exact .inl ⟨rfl, htext⟩
  · exact .inr ⟨rfl, CategorySet.exists_text_eq_append_word htext⟩

/-- What follows the three words is the text of the categories. -/
theorem Record.dropWhile_tail (r : Record) :
    r.tail.dropWhile (· == ' ') = r.categories.text.toList := by
  unfold tail
  split_ifs with htext
  · exact htext.symm
  · obtain ⟨word, rest, hword, heq⟩ := CategorySet.exists_text_eq_word_append htext
    rw [Column.dropWhile_replicate_blank_append, heq, hword.dropWhile_append]

/-- **Record lines.** The first words of a line are the offset, the mnemonic and the word count,
    in full however long they are; what follows is the text of the categories. -/
theorem Record.splitWords_line {r : Record} (hname : IsWord r.mnemonic.toList) :
    splitWords 3 r.line.toList =
      ([(toString r.offset).toList, r.mnemonic.toList, (toString r.wordCount).toList],
        r.categories.text.toList) := by
  have htail : ∀ c ∈ r.tail.head?, c = ' ' := by
    intro c hc
    rcases r.tail_cases with ⟨htail, -⟩ | ⟨htail, -⟩
    · rw [htail] at hc
      cases hc
    · rw [htail] at hc
      exact (Option.some.inj hc).symm
  have hblank : ∀ (k : Nat) (cs : List Char), 0 < k →
      ∀ c ∈ (List.replicate k ' ' ++ cs).head?, c = ' ' := by
    intro k cs hk c hc
    obtain ⟨k, rfl⟩ := Nat.exists_eq_add_one.2 hk
    exact (Option.some.inj hc).symm
  rw [toList_line, front]
  simp only [List.append_assoc]
  rw [Column.splitWords_succ (Numeral.isWord_toString _) 2 _ (hblank _ _ (by omega)),
    Column.splitWords_dropWhile, Column.splitWords_succ hname 1 _ (hblank _ _ (by omega)),
    Column.splitWords_dropWhile, Column.splitWords_succ (Numeral.isWord_toString _) 0 _ htail,
    r.dropWhile_tail]
  rfl

/-- **A record line is that of one record.** -/
theorem Record.line_inj {r s : Record} (hr : IsWord r.mnemonic.toList)
    (hs : IsWord s.mnemonic.toList) (hrt : r.categories.Tidy) (hst : s.categories.Tidy)
    (h : r.line = s.line) : r = s := by
  have hwords := splitWords_line hr
  rw [h, splitWords_line hs, Prod.mk.injEq, List.cons.injEq, List.cons.injEq, List.cons.injEq,
    String.toList_inj, String.toList_inj, String.toList_inj, String.toList_inj] at hwords
  obtain ⟨⟨hoffset, hname, hcount, -⟩, htext⟩ := hwords
  have hoffset := Numeral.toString_inj hoffset
  have hcount := Numeral.toString_inj hcount
  have hcategories := CategorySet.text_inj hst hrt htext
  cases r
  cases s
  simp_all

/-- A record line has visible characters and blanks. -/
theorem Record.visible_or_blank_of_mem_line {r : Record} (hname : IsWord r.mnemonic.toList)
    {c : Char} (h : c ∈ r.line.toList) : isVisible c = true ∨ c = ' ' := by
  have hword : ∀ {word : List Char}, IsWord word → c ∈ word → isVisible c = true ∨ c = ' ' :=
    fun hword hc => .inl (hword.visible c hc)
  have hblank : ∀ {k : Nat}, c ∈ List.replicate k ' ' → isVisible c = true ∨ c = ' ' :=
    fun hc => .inr (List.eq_of_mem_replicate hc)
  simp only [toList_line, front, List.mem_append] at h
  rcases h with ((h | h | h | h | h) | h) | h
  · exact hblank h
  · exact hword (Numeral.isWord_toString _) h
  · exact hblank h
  · exact hword hname h
  · exact hblank h
  · exact hword (Numeral.isWord_toString _) h
  · rcases r.tail_cases with ⟨htail, -⟩ | ⟨htail, -⟩
    · rw [htail] at h
      cases h
    · rw [htail, List.mem_append] at h
      rcases h with h | h
      · exact hblank h
      · exact CategorySet.visible_or_blank_of_mem_text h

theorem Record.visible_getLast?_line (r : Record) :
    ∀ c ∈ r.line.toList.getLast?, isVisible c = true := by
  rw [toList_line]
  rcases r.tail_cases with ⟨htail, -⟩ | ⟨htail, front, word, hword, htext⟩
  · rw [htail, List.append_nil]
    exact (Numeral.isWord_toString _).visible_getLast? _
  · rw [htail, htext, ← List.append_assoc, ← List.append_assoc]
    exact hword.visible_getLast? _

/-- A record line begins with a blank or a digit. -/
theorem Record.exists_line_eq_cons (r : Record) :
    ∃ c cs, r.line.toList = c :: cs ∧ c ≠ ';' := by
  rw [toList_line, front]
  cases hk : 6 - (toString r.offset).toList.length with
  | zero =>
    obtain ⟨c, cs, hword, -⟩ := (Numeral.isWord_toString r.offset).exists_eq_cons
    refine ⟨c, _, by rw [hword]; rfl, ?_⟩
    rintro rfl
    have hdigit := Numeral.isDigit_of_mem_toString (hword ▸ List.mem_cons_self)
    cases hdigit
  | succ k => exact ⟨' ', _, rfl, by decide⟩

end Report

/-! ## Header lines -/

namespace Generator

/-- No label has a line break or a bracket. -/
def isLabelLetter (c : Char) : Bool :=
  c != '\n' && c != '('

theorem exists_letters_tool : ∀ t ∈ tools, ∃ vendor name,
    t.vendor = String.ofList vendor ∧ t.name = String.ofList name ∧
      (vendor ++ name).all isLabelLetter = true := by
  intro t ht
  fin_cases ht <;> exact ⟨_, _, rfl, rfl, rfl⟩

theorem Tool.isLabelLetter_of_mem_label {t : Tool} (ht : t ∈ tools) {c : Char}
    (hc : c ∈ t.label.toList) : isLabelLetter c = true := by
  obtain ⟨vendor, name, hvendor, hname, hall⟩ := exists_letters_tool t ht
  rw [List.all_eq_true] at hall
  have hletters : c ∈ vendor ∨ c = ' ' ∨ c ∈ name := by
    rw [label, hvendor, hname] at hc
    split_ifs at hc
    · rw [String.toList_ofList] at hc
      exact .inl hc
    · simpa [or_assoc] using hc
  rcases hletters with h | rfl | h
  · exact hall c (List.mem_append_left _ h)
  · rfl
  · exact hall c (List.mem_append_right _ h)

theorem isLabelLetter_of_mem_label {id : UInt32} {c : Char} (h : c ∈ (label id).toList) :
    isLabelLetter c = true := by
  unfold label at h
  split at h
  · rename_i t ht
    exact Tool.isLabelLetter_of_mem_label (List.mem_of_find?_eq_some ht) h
  · obtain ⟨letters, hlabel, hall⟩ : ∃ letters, unregistered = String.ofList letters ∧
        letters.all isLabelLetter = true := ⟨_, rfl, rfl⟩
    rw [hlabel, String.toList_ofList] at h
    exact List.all_eq_true.1 hall c h

end Generator

/-- What a listing shows of a header: the two parts of the version, the generator word and the
    bound. -/
def ModuleHeader.shown (h : ModuleHeader) : (UInt8 × UInt8) × Word × Word :=
  ((h.major, h.minor), h.generator, h.bound)

namespace Report

theorem toList_headerLine (h : ModuleHeader) :
    (headerLine h).toList = "; SPIR-V ".toList ++ ((toString h.major.toNat).toList ++ '.' ::
      ((toString h.minor.toNat).toList ++ ',' :: (" generator ".toList ++
        (h.toolLabel.toList ++ ' ' :: '(' :: ((Numeral.word h.generator).toList ++
          ("), bound ".toList ++ (toString h.bound.toNat).toList)))))) := by
  delta headerLine
  simp only [String.toList_append, List.append_assoc]
  rfl

/-- **Header lines.** A header line tells what is shown of the header, and no more. -/
theorem headerLine_eq_iff {h h' : ModuleHeader} :
    headerLine h = headerLine h' ↔ h.shown = h'.shown := by
  constructor
  · intro heq
    have hmark : ∀ {mark : Char} (n : Nat), mark.isDigit = false → mark ∉ (toString n).toList := by
      intro mark n hmark hmem
      rw [Numeral.isDigit_of_mem_toString hmem] at hmark
      cases hmark
    have hbracket : ∀ h : ModuleHeader, '(' ∉ h.toolLabel.toList ++ [' '] := by
      intro h hmem
      rcases List.mem_append.1 hmem with hmem | hmem
      · have := Generator.isLabelLetter_of_mem_label hmem
        cases this
      · simp at hmem
    have hlabel : ∀ (h : ModuleHeader) (cs : List Char),
        h.toolLabel.toList ++ ' ' :: '(' :: cs = (h.toolLabel.toList ++ [' ']) ++ '(' :: cs := by
      simp
    rw [← String.toList_inj, toList_headerLine, toList_headerLine,
      List.append_cancel_left_eq] at heq
    obtain ⟨hmajor, heq⟩ := append_cons_inj (hmark _ rfl) (hmark _ rfl) heq
    obtain ⟨hminor, heq⟩ := append_cons_inj (hmark _ rfl) (hmark _ rfl) heq
    rw [List.append_cancel_left_eq, hlabel, hlabel] at heq
    obtain ⟨-, heq⟩ := append_cons_inj (hbracket h) (hbracket h') heq
    obtain ⟨hword, heq⟩ := List.append_inj heq
      ((Numeral.length_toList_word _).trans (Numeral.length_toList_word _).symm)
    rw [List.append_cancel_left_eq] at heq
    have hmajor := UInt8.toNat_inj.1 (Numeral.toString_inj (String.toList_inj.1 hmajor))
    have hminor := UInt8.toNat_inj.1 (Numeral.toString_inj (String.toList_inj.1 hminor))
    have hgenerator := Numeral.word_inj (String.toList_inj.1 hword)
    have hbound := UInt32.toNat_inj.1 (Numeral.toString_inj (String.toList_inj.1 heq))
    rw [ModuleHeader.shown, ModuleHeader.shown, hmajor, hminor, hgenerator, hbound]
  · intro heq
    simp only [ModuleHeader.shown, Prod.mk.injEq] at heq
    obtain ⟨⟨hmajor, hminor⟩, hgenerator, hbound⟩ := heq
    unfold headerLine ModuleHeader.toolLabel ModuleHeader.tool
    rw [hmajor, hminor, hgenerator, hbound]

theorem newline_not_mem_headerLine (h : ModuleHeader) : '\n' ∉ (headerLine h).toList := by
  have hword : ∀ {word : List Char}, IsWord word → '\n' ∉ word := fun hword =>
    Column.not_mem_of_visible hword.visible rfl
  have hlabel : '\n' ∉ h.toolLabel.toList := by
    intro hmem
    cases Generator.isLabelLetter_of_mem_label hmem
  rw [toList_headerLine]
  simp only [List.mem_append, List.mem_cons, not_or]
  refine ⟨by decide, hword (Numeral.isWord_toString _), by decide,
    hword (Numeral.isWord_toString _), by decide, by decide, hlabel, by decide, by decide,
    hword (Numeral.isWord_word _), by decide, hword (Numeral.isWord_toString _)⟩

theorem visible_getLast?_headerLine (h : ModuleHeader) :
    ∀ c ∈ (headerLine h).toList.getLast?, isVisible c = true := by
  rw [toList_headerLine]
  simp only [← List.append_assoc, ← List.cons_append]
  exact (Numeral.isWord_toString _).visible_getLast? _

/-! ## Listings -/

/-- The lines of a listing, each as its characters. -/
def rows (report : Report) : List (List Char) :=
  report.lines.map String.toList

theorem toList_listing (report : Report) :
    report.listing.toList = ['\n'].intercalate report.rows ++ ['\n'] := by
  rw [listing, String.toList_append, String.toList_intercalate, rows]
  rfl

variable {report other : Report}

theorem WellFormed.isWord (h : report.WellFormed) {r : Record} (hr : r ∈ report.records) :
    IsWord r.mnemonic.toList := by
  obtain ⟨op, hop⟩ := h.named r hr
  rw [hop]
  exact op.isWord_mnemonic

/-- The line of the header comes first, then those of the records. -/
theorem rows_eq (report : Report) :
    report.rows = (report.header.map headerLine).toList.map String.toList ++
      report.records.map fun r => r.line.toList := by
  rw [rows, lines, List.map_append, List.map_map]
  rfl

theorem mem_rows_cases {row : List Char} (h : row ∈ report.rows) :
    (∃ header, row = (headerLine header).toList) ∨ ∃ r ∈ report.records, row = r.line.toList := by
  rw [rows_eq, List.mem_append] at h
  rcases h with h | h
  · simp only [List.mem_map, Option.mem_toList, Option.map_eq_some_iff] at h
    obtain ⟨_, ⟨header, -, rfl⟩, rfl⟩ := h
    exact .inl ⟨header, rfl⟩
  · obtain ⟨r, hr, rfl⟩ := List.mem_map.1 h
    exact .inr ⟨r, hr, rfl⟩

theorem newline_not_mem_rows (h : report.WellFormed) : ∀ row ∈ report.rows, '\n' ∉ row := by
  intro row hrow
  obtain ⟨header, heq⟩ | ⟨r, hr, heq⟩ := mem_rows_cases hrow
  · rw [heq]
    exact newline_not_mem_headerLine header
  · rw [heq]
    intro hmem
    rcases Record.visible_or_blank_of_mem_line (h.isWord hr) hmem with hc | hc
    · cases hc
    · exact absurd hc (by decide)

theorem visible_getLast?_rows :
    ∀ row ∈ report.rows, ∀ c ∈ row.getLast?, isVisible c = true := by
  intro row hrow
  obtain ⟨header, heq⟩ | ⟨r, -, heq⟩ := mem_rows_cases hrow
  · rw [heq]
    exact visible_getLast?_headerLine header
  · rw [heq]
    exact r.visible_getLast?_line

theorem nil_not_mem_rows : [] ∉ report.rows := by
  intro hnil
  obtain ⟨header, hheader⟩ | ⟨r, -, hline⟩ := mem_rows_cases hnil
  · rw [toList_headerLine] at hheader
    cases hheader
  · obtain ⟨c, cs, heq, -⟩ := r.exists_line_eq_cons
    rw [heq] at hline
    cases hline

/-- **A listing divides into its lines.** Behind the last line break nothing follows, and a
    listing without lines is one line break. -/
theorem splitOn_listing (h : report.WellFormed) :
    report.listing.toList.splitOn '\n' =
      (if report.rows = [] then [[]] else report.rows) ++ [[]] := by
  rw [toList_listing, List.splitOn_append_cons_self, List.splitOn_nil]
  split_ifs with hrows
  · rw [hrows]
    rfl
  · rw [List.splitOn_intercalate '\n' (newline_not_mem_rows h) hrows]

theorem count_newline_intercalate {rows : List (List Char)} (h : ∀ row ∈ rows, '\n' ∉ row) :
    (['\n'].intercalate rows ++ ['\n']).count '\n' = max 1 rows.length := by
  induction rows with
  | nil => rfl
  | cons row rows ih =>
    have hrow : row.count '\n' = 0 := List.count_eq_zero.2 (h row List.mem_cons_self)
    have ih := ih fun row' hrow' => h row' (List.mem_cons_of_mem _ hrow')
    cases rows with
    | nil => simp [hrow]
    | cons next rows =>
      rw [List.intercalate_cons_cons, List.append_assoc, List.append_assoc, List.count_append, hrow,
        List.singleton_append, List.count_cons_self, ih]
      simp

theorem map_line_inj {records others : List Record}
    (hrecords : ∀ r ∈ records, IsWord r.mnemonic.toList ∧ r.categories.Tidy)
    (hothers : ∀ r ∈ others, IsWord r.mnemonic.toList ∧ r.categories.Tidy)
    (h : records.map (fun r => r.line.toList) = others.map fun r => r.line.toList) :
    records = others := by
  induction records generalizing others with
  | nil => exact (List.map_eq_nil_iff.1 h.symm).symm
  | cons r records ih =>
    obtain ⟨s, others, rfl, hline, hrest⟩ := List.map_eq_cons_iff.1 h.symm
    obtain ⟨hr, hrecords⟩ := List.forall_mem_cons.1 hrecords
    obtain ⟨hs, hothers⟩ := List.forall_mem_cons.1 hothers
    rw [Record.line_inj hr.1 hs.1 hr.2 hs.2 (String.toList_inj.1 hline.symm),
      ih hrecords hothers hrest.symm]

/-- A header line is no record line. -/
theorem headerLine_cons_ne_map_line (h : ModuleHeader) (rows : List (List Char))
    (records : List Record) :
    (headerLine h).toList :: rows ≠ records.map fun r => r.line.toList := by
  intro heq
  obtain ⟨r, -, -, hline, -⟩ := List.map_eq_cons_iff.1 heq.symm
  obtain ⟨c, cs, hcons, hc⟩ := r.exists_line_eq_cons
  rw [hcons, toList_headerLine] at hline
  exact hc (List.cons.inj hline).1

theorem map_headerLine_congr {header header' : Option ModuleHeader}
    (h : header.map ModuleHeader.shown = header'.map ModuleHeader.shown) :
    header.map headerLine = header'.map headerLine := by
  cases header <;> cases header' <;> simp_all [headerLine_eq_iff]

/-- Reports with the same lines show the same header and have the same records. -/
theorem rows_inj (hreport : report.WellFormed) (hother : other.WellFormed)
    (h : report.rows = other.rows) :
    report.header.map ModuleHeader.shown = other.header.map ModuleHeader.shown ∧
      report.records = other.records := by
  have hrecords := @map_line_inj report.records other.records
    (fun _ hr => ⟨hreport.isWord hr, (hreport.sets _ hr).tidy⟩)
    fun _ hr => ⟨hother.isWord hr, (hother.sets _ hr).tidy⟩
  rw [rows_eq, rows_eq] at h
  cases hheader : report.header with
  | none =>
    cases hheader' : other.header with
    | none =>
      rw [hheader, hheader'] at h
      exact ⟨rfl, hrecords h⟩
    | some header' =>
      rw [hheader, hheader'] at h
      exact absurd h.symm (headerLine_cons_ne_map_line header' _ _)
  | some header =>
    cases hheader' : other.header with
    | none =>
      rw [hheader, hheader'] at h
      exact absurd h (headerLine_cons_ne_map_line header _ _)
    | some header' =>
      rw [hheader, hheader'] at h
      obtain ⟨hline, hrest⟩ := List.cons.inj h
      have hshown := headerLine_eq_iff.1 (String.toList_inj.1 hline)
      exact ⟨congrArg some hshown, hrecords hrest⟩

/-- **Listings differ in what they show.** -/
theorem listing_eq_iff (hreport : report.WellFormed) (hother : other.WellFormed) :
    report.listing = other.listing ↔
      report.header.map ModuleHeader.shown = other.header.map ModuleHeader.shown ∧
        report.records = other.records := by
  constructor
  · intro h
    have hsplit : (if report.rows = [] then [[]] else report.rows) =
        if other.rows = [] then [[]] else other.rows := by
      have heq := splitOn_listing hreport
      rw [h, splitOn_listing hother, List.append_cancel_right_eq] at heq
      exact heq.symm
    apply rows_inj hreport hother
    -- A listing without lines has an empty line in front of its line break; no line is empty.
    split_ifs at hsplit with hrows hrows' hrows'
    · rw [hrows, hrows']
    · exact absurd (hsplit ▸ List.mem_singleton_self []) (@nil_not_mem_rows other)
    · exact absurd (hsplit ▸ List.mem_singleton_self []) (@nil_not_mem_rows report)
    · exact hsplit
  · rintro ⟨hheader, hrecords⟩
    rw [listing, listing, lines, lines, map_headerLine_congr hheader, hrecords]

theorem length_rows (report : Report) :
    report.rows.length = report.header.toList.length + report.records.length := by
  rw [rows_eq]
  cases report.header <;> simp [Nat.add_comm]

/-- The line of a record is found behind that of the header. -/
theorem getElem?_splitOn_listing (hreport : report.WellFormed) {i : Nat} {record : Record}
    (h : report.records[i]? = some record) :
    (report.listing.toList.splitOn '\n')[report.header.toList.length + i]? =
      some record.line.toList := by
  have hi : i < report.records.length := (List.getElem?_eq_some_iff.1 h).1
  have hrow : report.rows[report.header.toList.length + i]? = some record.line.toList := by
    rw [rows_eq, List.getElem?_append_right (by cases report.header <;> simp)]
    cases report.header <;> simp [h]
  have hlt : report.header.toList.length + i < report.rows.length := by
    rw [length_rows]
    omega
  rw [splitOn_listing hreport, if_neg (List.ne_nil_of_length_pos (by omega)),
    List.getElem?_append_left hlt, hrow]

/-- **Listings are lossless.**  Let reports be well formed.  They have the same listing exactly
    if they show the same of their headers and have the same records.  A listing ends with a line break and has one for
    each line, a report without lines having one nonetheless; no line ends in a blank or in
    any character that is not visible.  The line of a record begins with its offset, its mnemonic
    and its word count, however long they are; the text of its categories follows, which is
    empty only if there are none. -/
theorem listing_lossless {report other : Report} (hreport : report.WellFormed)
    (hother : other.WellFormed) :
    (report.listing = other.listing ↔
      report.header.map ModuleHeader.shown = other.header.map ModuleHeader.shown ∧
        report.records = other.records) ∧
    (∃ text, report.listing = text ++ "\n") ∧
    report.listing.toList.count '\n' =
      max 1 (report.header.toList.length + report.records.length) ∧
    (∀ row ∈ report.listing.toList.splitOn '\n', ∀ c ∈ row.getLast?, isVisible c = true) ∧
    ∀ (i : Nat) record, report.records[i]? = some record →
      ∃ row, (report.listing.toList.splitOn '\n')[report.header.toList.length + i]? = some row ∧
        splitWords 3 row =
          ([(toString record.offset).toList, record.mnemonic.toList,
            (toString record.wordCount).toList], record.categories.text.toList) ∧
        (record.categories.text = "" ↔ record.categories.isEmpty = true) := by
  refine ⟨listing_eq_iff hreport hother, ⟨_, rfl⟩, ?_, ?_, ?_⟩
  · rw [toList_listing, count_newline_intercalate (newline_not_mem_rows hreport), length_rows]
  · intro row hrow
    rw [splitOn_listing hreport, List.mem_append] at hrow
    rcases hrow with hrow | hrow
    · split_ifs at hrow
      · rw [List.mem_singleton.1 hrow]
        simp
      · exact visible_getLast?_rows row hrow
    · rw [List.mem_singleton.1 hrow]
      simp
  · intro i record hrecord
    have hname := hreport.isWord (List.mem_of_getElem? hrecord)
    have hset := hreport.sets record (List.mem_of_getElem? hrecord)
    exact ⟨_, getElem?_splitOn_listing hreport hrecord, Record.splitWords_line hname,
      CategorySet.text_eq_empty_iff hset.tidy⟩

/-- Two reports that differ in the schema alone.  Each field of the record is wider than its
    column, and the line tells them all. -/
theorem listing_lossless_wide :
    let op : Opcode := .opCooperativeVectorOuterProductAccumulateNV
    let record : Record := ⟨1234567, op.mnemonic, 1000, CategorySet.ofList [.debug]⟩
    let report : Report := ⟨some ⟨0x00010600, 0x0008000b, 100, 0⟩, [record]⟩
    let other : Report := ⟨some ⟨0x00010600, 0x0008000b, 100, 1⟩, [record]⟩
    report.WellFormed ∧ other.WellFormed ∧ report.listing = other.listing ∧
      ∃ row, (report.listing.toList.splitOn '\n')[1]? = some row ∧
        splitWords 3 row = ([(toString 1234567).toList, record.mnemonic.toList,
          (toString 1000).toList], record.categories.text.toList) := by
  intro op record report other
  have hnamed : ∀ r ∈ [record], ∃ op : Opcode, r.mnemonic = op.mnemonic :=
    List.forall_mem_singleton.2 ⟨op, rfl⟩
  have hsets : ∀ r ∈ [record], r.categories.Reachable :=
    List.forall_mem_singleton.2 (CategorySet.reachable_ofList [.debug])
  have hreport : report.WellFormed := ⟨hnamed, hsets⟩
  have hother : other.WellFormed := ⟨hnamed, hsets⟩
  obtain ⟨hiff, -, -, -, hrecord⟩ := listing_lossless hreport hother
  obtain ⟨row, hrow, hwords, -⟩ := hrecord 0 record rfl
  exact ⟨hreport, hother, hiff.2 ⟨rfl, rfl⟩, row, hrow, hwords⟩

end Report

end Spirv
