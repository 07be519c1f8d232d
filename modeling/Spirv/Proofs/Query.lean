/-
  Queries for operations, and what is printed for them.

  `Spelling op query` says that the query names the operation: as a decimal or hexadecimal
  numeral of its code, by one of its names, or by a name without its leading `Op`.  The first
  character tells numerals from names, and no name can be taken for a numeral: a query
  resolves to an operation exactly if it is one of its spellings (`resolve_eq_ok_iff`).
  `Refused query e` says why a query names no operation (`resolve_eq_error_iff`).

  The summary of an operation lists its categories and the positions of its
  memory-semantics operands, with `none` for an empty list (`Opcode.summary_eq`).  It begins
  with the mnemonic and a blank, and no mnemonic has a blank, so operations with the same
  summary are the same (`Opcode.summary_inj`).

  Main statement: what `classify` answers to every query (`classifyText_queries`).
-/
import Spirv.Command.Run
import Spirv.Proofs.Numeral
import Spirv.Proofs.Opcode.Resolver

namespace Spirv

open Spirv.Numeral (IsNumeral IsSign IsDigit Denotes)

/-- A query that names the operation. -/
inductive Spelling (op : Opcode) (query : String) : Prop where
  /-- Decimal digits of the code, with any number of zeros in front. -/
  | decimal (hne : query.toList ≠ []) (h : Denotes 10 query.toList op.code.toNat)
  /-- Hexadecimal digits of the code after `0x` or `0X`, each letter small or capital, with
      any number of zeros in front and one `+` before them if need be. -/
  | hexadecimal {x : Char} {sign digits : List Char}
      (hquery : query.toList = '0' :: x :: (sign ++ digits)) (hx : x = 'x' ∨ x = 'X')
      (hsign : IsSign sign) (hne : digits ≠ []) (h : Denotes 16 digits op.code.toNat)
  /-- The mnemonic or an alias. -/
  | name (h : op.Registered query)
  /-- The mnemonic or an alias without its leading `Op`. -/
  | bareName (h : op.Registered ("Op" ++ query))

/-- The query begins with a digit. -/
def BeginsWithDigit (query : String) : Prop :=
  ∃ c cs, query.toList = c :: cs ∧ '0' ≤ c ∧ c ≤ '9'

/-- Why a query names no operation. -/
inductive Refused (query : String) : CommandError → Prop where
  | badNumber (hdigit : BeginsWithDigit query) (h : Numeral.read? query = none) :
      Refused query (.badNumber query)
  | unknownOpcode {n : UInt32} (hdigit : BeginsWithDigit query)
      (h : Numeral.read? query = some n) (hcode : ∀ op : Opcode, op.code.toNat ≠ n.toNat) :
      Refused query (.decoding (.unknownOpcode n))
  | unknownMnemonic (hdigit : ¬ BeginsWithDigit query) (h : Opcode.ofName? query = none) :
      Refused query (.unknownMnemonic query)

/-! ## The first character -/

theorem startsWithDigit_iff {query : String} :
    Command.startsWithDigit query = true ↔ BeginsWithDigit query := by
  have hdigit : ∀ c : Char, c.isDigit = true ↔ '0' ≤ c ∧ c ≤ '9' := by
    intro c
    rw [Char.isDigit, Bool.and_eq_true, decide_eq_true_eq, decide_eq_true_eq]
    exact Iff.rfl
  unfold Command.startsWithDigit BeginsWithDigit
  cases query.toList with
  | nil => simp
  | cons c cs => simp [hdigit]

theorem startsWithDigit_of_denotes {query : String} {n : Nat} (hne : query.toList ≠ [])
    (h : Denotes 10 query.toList n) : Command.startsWithDigit query = true := by
  unfold Command.startsWithDigit
  cases hquery : query.toList with
  | nil => exact absurd hquery hne
  | cons c cs =>
    rw [hquery] at h
    obtain ⟨v, hv⟩ := h.exists_isDigit
    exact Numeral.isDigit_of_ten hv

theorem Opcode.Registered.not_startsWithDigit {op : Opcode} {query : String}
    (h : op.Registered query) : Command.startsWithDigit query = false := by
  obtain ⟨rest, hshape⟩ := h.shape
  unfold Command.startsWithDigit
  rw [hshape.eq_append]
  rfl

theorem Opcode.Registered.not_startsWithDigit_bare {op : Opcode} {query : String}
    (h : op.Registered ("Op" ++ query)) : Command.startsWithDigit query = false := by
  have hshape := h.shape_of_op_append
  unfold Command.startsWithDigit
  cases hquery : query.toList with
  | nil => exact absurd hquery hshape.ne_nil
  | cons c cs =>
    apply hshape.not_digit
    rw [hquery, List.head?_cons, Option.mem_some_iff]

/-! ## What a query resolves to -/

/-- A numeral that begins with a digit has no sign in front of decimal digits. -/
theorem isNumeral_iff_of_startsWithDigit {query : String} {op : Opcode}
    (hdigit : Command.startsWithDigit query = true) :
    IsNumeral query.toList op.code.toNat ↔ Spelling op query := by
  constructor
  · intro h
    generalize hquery : query.toList = cs at h
    cases h with
    | decimal hsign hne h =>
      rcases hsign with rfl | rfl
      · rw [List.nil_append] at hquery
        rw [← hquery] at hne h
        exact .decimal hne h
      · rw [Command.startsWithDigit, hquery] at hdigit
        cases hdigit
    | hexadecimal hx hsign hne h => exact .hexadecimal hquery hx hsign hne h
  · intro h
    cases h with
    | decimal hne h => exact .decimal (.inl rfl) hne h
    | hexadecimal hquery hx hsign hne h =>
      rw [hquery]
      exact .hexadecimal hx hsign hne h
    | name h =>
      rw [h.not_startsWithDigit] at hdigit
      cases hdigit
    | bareName h =>
      rw [h.not_startsWithDigit_bare] at hdigit
      cases hdigit

/-- A query that does not begin with a digit can only be a name. -/
theorem ofName?_iff_of_not_startsWithDigit {query : String} {op : Opcode}
    (hdigit : Command.startsWithDigit query = false) :
    Opcode.ofName? query = some op ↔ Spelling op query := by
  rw [Opcode.ofName?_eq_some_iff]
  constructor
  · rintro (h | h)
    · exact .name h
    · exact .bareName h
  · intro h
    cases h with
    | decimal hne h =>
      rw [startsWithDigit_of_denotes hne h] at hdigit
      cases hdigit
    | hexadecimal hquery hx hsign hne h =>
      rw [Command.startsWithDigit, hquery] at hdigit
      cases hdigit
    | name h => exact .inl h
    | bareName h => exact .inr h

theorem resolve_of_read?_none {query : String} (hdigit : Command.startsWithDigit query = true)
    (h : Numeral.read? query = none) : Command.resolve query = .error (.badNumber query) := by
  rw [Command.resolve, if_pos hdigit, Command.number, h]

theorem resolve_of_read?_some {query : String} (hdigit : Command.startsWithDigit query = true)
    {n : UInt32} (h : Numeral.read? query = some n) :
    Command.resolve query = (Opcode.ofNumber n).mapError .decoding := by
  rw [Command.resolve, if_pos hdigit, Command.number, h]
  dsimp only
  cases Opcode.ofNumber n <;> rfl

theorem resolve_of_not_digit {query : String} (hdigit : Command.startsWithDigit query = false) :
    Command.resolve query =
      match Opcode.ofName? query with
      | some op => .ok op
      | none => .error (.unknownMnemonic query) := by
  rw [Command.resolve, hdigit]
  rfl

/-- **Queries resolve to what they spell.** -/
theorem resolve_eq_ok_iff {query : String} {op : Opcode} :
    Command.resolve query = .ok op ↔ Spelling op query := by
  cases hdigit : Command.startsWithDigit query with
  | true =>
    rw [← isNumeral_iff_of_startsWithDigit hdigit, ← UInt16.toNat_toUInt32,
      ← Numeral.read?_eq_some_iff]
    cases hn : Numeral.read? query with
    | none => simp [resolve_of_read?_none hdigit hn]
    | some n =>
      have hcode : Opcode.ofNumber n = .ok op ↔ n = op.code.toUInt32 := by
        rw [Opcode.ofNumber_eq_ok_iff, ← UInt16.toNat_toUInt32, UInt32.toNat_inj, eq_comm]
      rw [resolve_of_read?_some hdigit hn, Option.some.injEq, ← hcode]
      cases Opcode.ofNumber n <;> simp [Except.mapError]
  | false =>
    rw [resolve_of_not_digit hdigit, ← ofName?_iff_of_not_startsWithDigit hdigit]
    cases Opcode.ofName? query <;> simp

theorem resolve_of_refused {query : String} {e : CommandError} (h : Refused query e) :
    Command.resolve query = .error e := by
  cases h with
  | badNumber hdigit h => exact resolve_of_read?_none (startsWithDigit_iff.2 hdigit) h
  | unknownOpcode hdigit h hcode =>
    rw [resolve_of_read?_some (startsWithDigit_iff.2 hdigit) h, Opcode.ofNumber_of_ne hcode]
    rfl
  | unknownMnemonic hdigit h =>
    rw [← startsWithDigit_iff, Bool.not_eq_true] at hdigit
    rw [resolve_of_not_digit hdigit, h]

/-- A query that is not resolved is refused. -/
theorem exists_refused {query : String} (h : ∀ op, Command.resolve query ≠ .ok op) :
    ∃ e, Refused query e := by
  cases hdigit : Command.startsWithDigit query with
  | true =>
    have hbegins := startsWithDigit_iff.1 hdigit
    cases hn : Numeral.read? query with
    | none => exact ⟨_, .badNumber hbegins hn⟩
    | some n =>
      refine ⟨_, .unknownOpcode hbegins hn ?_⟩
      intro op hop
      apply h op
      rw [resolve_of_read?_some hdigit hn, Opcode.ofNumber_of_code hop]
      rfl
  | false =>
    have hbegins : ¬ BeginsWithDigit query := by
      rw [← startsWithDigit_iff, hdigit]
      exact Bool.false_ne_true
    cases hname : Opcode.ofName? query with
    | none => exact ⟨_, .unknownMnemonic hbegins hname⟩
    | some op =>
      refine absurd ?_ (h op)
      rw [resolve_of_not_digit hdigit, hname]

/-- **Queries are refused for one reason.** -/
theorem resolve_eq_error_iff {query : String} {e : CommandError} :
    Command.resolve query = .error e ↔ Refused query e := by
  constructor
  · intro h
    have hne : ∀ op, Command.resolve query ≠ .ok op := by
      intro op hop
      rw [h] at hop
      cases hop
    obtain ⟨e', he'⟩ := exists_refused hne
    rw [resolve_of_refused he'] at h
    rwa [← Except.error.inj h]
  · exact resolve_of_refused

/-! ## Summaries -/

/-- The texts, divided by commas, or `none` where there is no text. -/
def listed : List String → String
  | [] => "none"
  | texts => ", ".intercalate texts

theorem orNone_intercalate (texts : List String) :
    orNone texts.isEmpty (", ".intercalate texts) = listed texts := by
  cases texts <;> rfl

/-- **What a summary says.**  The categories are those that hold for the operation, in the
    order of reports. -/
theorem Opcode.summary_eq (op : Opcode) :
    op.summary =
      op.mnemonic ++ " (" ++ toString op.code ++ ")\n" ++
      "  categories: " ++
        listed ((Category.all.filter fun c => c.holds op).map Category.name) ++ "\n" ++
      "  memory semantics operands: " ++ listed (op.semanticsOperands.map toString) ++ "\n" := by
  have htidy : op.categories.Tidy := by
    rw [op.categories_eq_ofOpcode]
    exact CategorySet.tidy_ofList _
  have hlist : op.categories.toList = Category.all.filter fun c => c.holds op := by
    rw [op.categories_eq_ofOpcode, CategorySet.toList]
    apply List.filter_congr
    intro c _
    exact Bool.eq_iff_iff.2 CategorySet.mem_ofOpcode
  have hcategories : orNone op.categories.isEmpty op.categories.text =
      listed ((Category.all.filter fun c => c.holds op).map Category.name) := by
    rw [htidy.isEmpty_eq, CategorySet.text_eq_intercalate, CategorySet.names, hlist,
      ← orNone_intercalate, List.isEmpty_map]
  have hpositions : orNone op.semanticsOperands.isEmpty
      (", ".intercalate (op.semanticsOperands.map toString)) =
      listed (op.semanticsOperands.map toString) := by
    rw [← orNone_intercalate, List.isEmpty_map]
  rw [summary, op.name_eq_mnemonic, hcategories, hpositions]

/-- **Summaries differ.**  A summary is that of one operation. -/
theorem Opcode.summary_inj {a b : Opcode} (h : a.summary = b.summary) : a = b := by
  -- The mnemonic is what stands in front of the first blank.
  have hword : ∀ op : Opcode, op.summary.toList.takeWhile (· ≠ ' ') = op.mnemonic.toList := by
    intro op
    obtain ⟨rest, hshape⟩ := op.registered_mnemonic.shape
    have hblank : ∀ c ∈ op.mnemonic.toList, decide (c ≠ ' ') = true := by
      intro c hc
      rw [decide_eq_true_eq]
      rintro rfl
      exact hshape.no_blank hc
    have hbehind : ∃ behind, op.summary.toList = op.mnemonic.toList ++ ' ' :: behind := by
      rw [op.summary_eq]
      simp only [String.toList_append, List.append_assoc]
      exact ⟨_, rfl⟩
    obtain ⟨behind, hsummary⟩ := hbehind
    rw [hsummary, List.takeWhile_append_of_pos hblank, List.takeWhile_cons_of_neg (by simp),
      List.append_nil]
  apply Opcode.mnemonic_inj
  rw [← String.toList_inj, ← hword a, ← hword b, h]

/-! ## Answers -/

theorem classifyText_eq_ok_iff {query text : String} :
    Command.classifyText query = .ok text ↔ ∃ op, Spelling op query ∧ text = op.summary := by
  simp only [← resolve_eq_ok_iff]
  unfold Command.classifyText
  cases Command.resolve query <;> simp [eq_comm]

theorem classifyText_eq_error_iff {query : String} {e : CommandError} :
    Command.classifyText query = .error e ↔ Refused query e := by
  rw [← resolve_eq_error_iff]
  unfold Command.classifyText
  cases Command.resolve query <;> simp

/-- **Answers to queries.**  A query is refused for one of three reasons, and answered in
    every other case.  It is answered exactly if it is a spelling of an operation, and all
    spellings have the same answer, the summary of the operation.  Two queries with the same
    answer resolve to one operation.  The summary lists exactly the categories that hold, and
    the positions of the memory-semantics operands. -/
theorem classifyText_queries :
    (∀ query e, Command.classifyText query = .error e ↔ Refused query e) ∧
    (∀ query, (∀ e, ¬ Refused query e) → ∃ text, Command.classifyText query = .ok text) ∧
    (∀ query text, Command.classifyText query = .ok text ↔
      ∃ op, Spelling op query ∧ text = op.summary) ∧
    (∀ p q text, Command.classifyText p = .ok text → Command.classifyText q = .ok text →
      ∃ op, Command.resolve p = .ok op ∧ Command.resolve q = .ok op) ∧
    ∀ op : Opcode, ∃ categories : List Category,
      (∀ c, c ∈ categories ↔ c.holds op = true) ∧ categories.Sublist Category.all ∧
      op.summary =
        op.mnemonic ++ " (" ++ toString op.code ++ ")\n" ++
        "  categories: " ++ listed (categories.map Category.name) ++ "\n" ++
        "  memory semantics operands: " ++ listed (op.semanticsOperands.map toString) ++
          "\n" := by
  refine ⟨fun _ _ => classifyText_eq_error_iff, ?_, fun _ _ => classifyText_eq_ok_iff, ?_, ?_⟩
  · intro query h
    cases hanswer : Command.classifyText query with
    | ok text => exact ⟨text, rfl⟩
    | error e => exact absurd (classifyText_eq_error_iff.1 hanswer) (h e)
  · intro p q text hp hq
    obtain ⟨a, ha, rfl⟩ := classifyText_eq_ok_iff.1 hp
    obtain ⟨b, hb, hsummary⟩ := classifyText_eq_ok_iff.1 hq
    obtain rfl := Opcode.summary_inj hsummary
    exact ⟨a, resolve_eq_ok_iff.2 ha, resolve_eq_ok_iff.2 hb⟩
  · intro op
    refine ⟨Category.all.filter fun c => c.holds op, ?_, List.filter_sublist, op.summary_eq⟩
    intro c
    rw [List.mem_filter]
    exact and_iff_right c.mem_all

end Spirv
