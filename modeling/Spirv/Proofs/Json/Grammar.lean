/-
  The grammar of JSON.

  `Written v cs` says that the characters are a way to write the value, with blanks between the
  parts of arrays and objects as the standard allows them; `IsText v cs` allows blanks around
  it as well.  What is written is told apart from all else that is written and from what
  follows it (`Unambiguous`), for values of bounded length by way of the parts that they have
  (`Listed.unambiguous`), which are shorter.

  Main statement: characters are the text of one value (`IsText.unique`).
-/
import Spirv.Proofs.Json.Literal
import Spirv.Proofs.Json.Number
import Spirv.Proofs.Settings.Token

namespace Spirv.Json

open Settings (Blank isBlank isBlank_iff)

/-- A value of JSON.  The members of an object have an order, and may share a key. -/
inductive Value where
  | null
  | bool (value : Bool)
  | number (value : ℚ)
  | string (text : String)
  | array (items : List Value)
  | object (members : List (String × Value))

/-! ## Grammar -/

section Parts

variable {α : Type}

/-- A string between quotation marks. -/
inductive StringText : String → List Char → Prop where
  | intro {text : String} {body : List Char} (h : Body text.toList body) :
      StringText text ('"' :: (body ++ ['"']))

/-- Something with blanks around it. -/
inductive Padded (P : α → List Char → Prop) : α → List Char → Prop where
  | intro {before : List Char} {a : α} {cs after : List Char} (hbefore : Blank before)
      (h : P a cs) (hafter : Blank after) : Padded P a (before ++ (cs ++ after))

/-- Some things, at least one, with commas between them. -/
inductive Row (P : α → List Char → Prop) : List α → List Char → Prop where
  | last {a : α} {cs : List Char} (h : P a cs) : Row P [a] cs
  | cons {a : α} {as : List α} {cs cs' : List Char} (h : P a cs) (hrow : Row P as cs') :
      Row P (a :: as) (cs ++ ',' :: cs')

/-- What stands between a pair of brackets. -/
inductive Listed (P : α → List Char → Prop) : List α → List Char → Prop where
  | empty {blanks : List Char} (h : Blank blanks) : Listed P [] blanks
  | row {as : List α} {cs : List Char} (h : Row (Padded P) as cs) : Listed P as cs

/-- A key and what it has. -/
inductive Member (P : α → List Char → Prop) : String × α → List Char → Prop where
  | intro {key : String} {a : α} {name before after cs : List Char} (hkey : StringText key name)
      (hbefore : Blank before) (hafter : Blank after) (h : P a cs) :
      Member P (key, a) (name ++ (before ++ ':' :: (after ++ cs)))

end Parts

/-- The ways to write a value. -/
inductive Written : Value → List Char → Prop where
  | null : Written .null ['n', 'u', 'l', 'l']
  | true : Written (.bool true) ['t', 'r', 'u', 'e']
  | false : Written (.bool false) ['f', 'a', 'l', 's', 'e']
  | number {q : ℚ} {cs : List Char} (h : NumberText q cs) : Written (.number q) cs
  | string {text : String} {cs : List Char} (h : StringText text cs) : Written (.string text) cs
  | array {items : List Value} {cs : List Char} (h : Listed Written items cs) :
      Written (.array items) ('[' :: (cs ++ [']']))
  | object {members : List (String × Value)} {cs : List Char}
      (h : Listed (Member Written) members cs) :
      Written (.object members) ('\x7b' :: (cs ++ ['\x7d']))

/-- The characters are a text of the value: the value and nothing else. -/
def IsText (v : Value) (cs : List Char) : Prop :=
  Padded Written v cs

/-! ## What may follow -/

/-- A number would end here. -/
def EndsNumber (rest : List Char) : Prop :=
  ∀ c ∈ rest.head?, isNumeric c = false

/-- There is a mark here, or nothing more. -/
def Marked (rest : List Char) : Prop :=
  ∀ c ∈ rest.head?, c ∈ [',', ':', ']', '\x7d']

/-- A bracket is closed here, or there is nothing more. -/
def Closed (rest : List Char) : Prop :=
  ∀ c ∈ rest.head?, c ∈ [']', '\x7d']

/-- The character can begin a value. -/
def Opening (c : Char) : Prop :=
  c ∉ [' ', '\t', '\n', '\r', ',', ':', ']', '\x7d']

instance (c : Char) : Decidable (Opening c) :=
  inferInstanceAs (Decidable (c ∉ _))

variable {α : Type} {P : α → List Char → Prop} {n : Nat}

/-- Texts shorter than `n` are told apart from each other and from what follows them. -/
def Unambiguous (n : Nat) (P : α → List Char → Prop) (Follow : List Char → Prop) : Prop :=
  ∀ ⦃a a' : α⦄ ⦃cs cs' rest rest' : List Char⦄, P a cs → P a' cs' → cs.length < n →
    cs'.length < n → Follow rest → Follow rest' → cs ++ rest = cs' ++ rest' →
      a = a' ∧ rest = rest'

/-- All texts begin with a character that can begin a value. -/
def Opens (P : α → List Char → Prop) : Prop :=
  ∀ ⦃a : α⦄ ⦃cs : List Char⦄, P a cs → ∃ c tail, cs = c :: tail ∧ Opening c

theorem Closed.marked {rest : List Char} (h : Closed rest) : Marked rest := by
  intro c hc
  have hmem := h c hc
  simp only [List.mem_cons, List.not_mem_nil, or_false] at hmem ⊢
  tauto

theorem marked_cons_comma (rest : List Char) : Marked (',' :: rest) := by
  rintro c ⟨⟩
  decide

theorem isBlank_of_blank {blanks : List Char} (h : Blank blanks) :
    ∀ c ∈ blanks, isBlank c = true :=
  fun c hc => isBlank_iff.2 (h c hc)

theorem Opening.isBlank_eq {c : Char} (h : Opening c) : isBlank c = false := by
  rw [Bool.eq_false_iff, ne_eq, isBlank_iff]
  intro hblank
  exact h (List.mem_append_left [',', ':', ']', '\x7d'] hblank)

theorem Marked.isBlank_eq {rest : List Char} (h : Marked rest) :
    ∀ c ∈ rest.head?, isBlank c = false := by
  have htable : [',', ':', ']', '\x7d'].all (fun c => !isBlank c) = true := by decide
  intro c hc
  simpa using List.all_eq_true.1 htable c (h c hc)

/-- Blanks and marks end a number. -/
theorem EndsNumber.of_blank_append {blanks rest : List Char} (h : Blank blanks)
    (hrest : Marked rest) : EndsNumber (blanks ++ rest) := by
  have htable : [' ', '\t', '\n', '\r', ',', ':', ']', '\x7d'].all (fun c => !isNumeric c) =
      true := by decide
  intro c hc
  have hmem : c ∈ [' ', '\t', '\n', '\r', ',', ':', ']', '\x7d'] := by
    cases blanks with
    | nil => exact List.mem_append_right [' ', '\t', '\n', '\r'] (hrest c hc)
    | cons d blanks =>
      obtain rfl : d = c := Option.some.inj hc
      exact List.mem_append_left [',', ':', ']', '\x7d'] (h d List.mem_cons_self)
  simpa using List.all_eq_true.1 htable c hmem

/-- Blanks end where something opens. -/
theorem blank_append_inj {blanks blanks' cs cs' : List Char} (h : Blank blanks)
    (h' : Blank blanks') (hcs : ∀ c ∈ cs.head?, isBlank c = false)
    (hcs' : ∀ c ∈ cs'.head?, isBlank c = false) (heq : blanks ++ cs = blanks' ++ cs') :
    cs = cs' :=
  (append_inj_of_boundary (isBlank_of_blank h) (isBlank_of_blank h') hcs hcs' heq).2

theorem Opens.isBlank_head (hopens : Opens P) {a : α} {cs : List Char} (h : P a cs)
    (rest : List Char) : ∀ c ∈ (cs ++ rest).head?, isBlank c = false := by
  obtain ⟨c, tail, rfl, hc⟩ := hopens h
  rintro d ⟨⟩
  exact hc.isBlank_eq

/-! ## Parts are told apart -/

theorem StringText.unambiguous {s s' : String} {cs cs' rest rest' : List Char}
    (h : StringText s cs) (h' : StringText s' cs') (heq : cs ++ rest = cs' ++ rest') :
    s = s' ∧ rest = rest' := by
  cases h with
  | @intro body hbody =>
    cases h' with
    | @intro body' hbody' =>
      have hread : readString (body ++ '"' :: rest) = some (s.toList, rest) :=
        readString_eq_some_iff.2 ⟨body, hbody, rfl⟩
      have hread' : readString (body' ++ '"' :: rest') = some (s'.toList, rest') :=
        readString_eq_some_iff.2 ⟨body', hbody', rfl⟩
      have hsame : body ++ '"' :: rest = body' ++ '"' :: rest' := by simpa using heq
      rw [hsame, hread', Option.some.injEq, Prod.mk.injEq, String.toList_inj] at hread
      exact ⟨hread.1.symm, hread.2.symm⟩

theorem Padded.unambiguous (hopens : Opens P) (h : Unambiguous n P EndsNumber) :
    Unambiguous n (Padded P) Marked := by
  rintro a a' _ _ rest rest' ⟨hbefore, ha, hafter⟩ ⟨hbefore', ha', hafter'⟩ hlt hlt' hrest
    hrest' heq
  simp only [List.length_append] at hlt hlt'
  simp only [List.append_assoc] at heq
  have hinner := blank_append_inj hbefore hbefore' (hopens.isBlank_head ha _)
    (hopens.isBlank_head ha' _) heq
  obtain ⟨rfl, houter⟩ := h ha ha' (by omega) (by omega) (.of_blank_append hafter hrest)
    (.of_blank_append hafter' hrest') hinner
  exact ⟨rfl, blank_append_inj hafter hafter' hrest.isBlank_eq hrest'.isBlank_eq houter⟩

theorem Row.unambiguous (h : Unambiguous n P Marked) : Unambiguous n (Row P) Closed := by
  have hcomma : ∀ {rest tail : List Char}, Closed rest → rest ≠ ',' :: tail := by
    rintro rest tail hrest rfl
    exact absurd (hrest ',' rfl) (by decide)
  intro as as' cs cs' rest rest' hrow hrow' hlt hlt' hrest hrest' heq
  induction hrow generalizing as' cs' with
  | last ha =>
    cases hrow' with
    | last ha' =>
      obtain ⟨rfl, houter⟩ := h ha ha' hlt hlt' hrest.marked hrest'.marked heq
      exact ⟨rfl, houter⟩
    | cons ha' _ =>
      rw [List.length_append] at hlt'
      rw [List.append_assoc] at heq
      exact absurd (h ha ha' hlt (by omega) hrest.marked (marked_cons_comma _) heq).2
        (hcomma hrest)
  | cons ha _ ih =>
    rw [List.length_append, List.length_cons] at hlt
    cases hrow' with
    | last ha' =>
      rw [List.append_assoc] at heq
      exact absurd (h ha ha' (by omega) hlt' (marked_cons_comma _) hrest'.marked heq).2.symm
        (hcomma hrest')
    | cons ha' htail' =>
      rw [List.length_append, List.length_cons] at hlt'
      rw [List.append_assoc, List.append_assoc] at heq
      obtain ⟨rfl, houter⟩ := h ha ha' (by omega) (by omega) (marked_cons_comma _)
        (marked_cons_comma _) heq
      obtain ⟨rfl, houter⟩ := ih htail' (by omega) (by omega) (List.cons.inj houter).2
      exact ⟨rfl, houter⟩

/-- A row begins with blanks and then something opens. -/
theorem Row.exists_eq_blank_append (hopens : Opens P) {as : List α} {cs : List Char}
    (h : Row (Padded P) as cs) :
    ∃ blanks c tail, Blank blanks ∧ Opening c ∧ cs = blanks ++ c :: tail := by
  have hpadded : ∀ {a : α} {cs : List Char}, Padded P a cs →
      ∃ blanks c tail, Blank blanks ∧ Opening c ∧ cs = blanks ++ c :: tail := by
    rintro a _ ⟨hbefore, ha, -⟩
    obtain ⟨c, tail, rfl, hc⟩ := hopens ha
    exact ⟨_, c, _, hbefore, hc, rfl⟩
  cases h with
  | last ha => exact hpadded ha
  | cons ha _ =>
    obtain ⟨blanks, c, tail, hblanks, hc, rfl⟩ := hpadded ha
    exact ⟨blanks, c, _, hblanks, hc, List.append_assoc _ _ _⟩

/-- Blanks are not a row. -/
theorem Row.not_blank (hopens : Opens P) {as : List α} {blanks cs rest rest' : List Char}
    (hblanks : Blank blanks) (hrest : Closed rest) (hrow : Row (Padded P) as cs) :
    blanks ++ rest ≠ cs ++ rest' := by
  intro heq
  obtain ⟨blanks', c, tail, hblanks', hc, rfl⟩ := hrow.exists_eq_blank_append hopens
  rw [List.append_assoc] at heq
  have hsame : rest = c :: tail ++ rest' := by
    refine blank_append_inj hblanks hblanks' hrest.marked.isBlank_eq ?_ heq
    rintro d ⟨⟩
    exact hc.isBlank_eq
  have hmark : c ∈ [']', '\x7d'] := hrest c (by rw [hsame]; rfl)
  exact hc (List.mem_append_right [' ', '\t', '\n', '\r', ',', ':'] hmark)

theorem Listed.unambiguous (hopens : Opens P) (h : Unambiguous n P EndsNumber) :
    Unambiguous n (Listed P) Closed := by
  intro as as' cs cs' rest rest' hlisted hlisted' hlt hlt' hrest hrest' heq
  cases hlisted with
  | empty hblanks =>
    cases hlisted' with
    | empty hblanks' =>
      exact ⟨rfl, blank_append_inj hblanks hblanks' hrest.marked.isBlank_eq
        hrest'.marked.isBlank_eq heq⟩
    | row hrow' => exact absurd heq (hrow'.not_blank hopens hblanks hrest)
  | row hrow =>
    cases hlisted' with
    | empty hblanks' => exact absurd heq.symm (hrow.not_blank hopens hblanks' hrest')
    | row hrow' =>
      exact Row.unambiguous (Padded.unambiguous hopens h) hrow hrow' hlt hlt' hrest hrest' heq

/-- Between brackets, which count towards the length. -/
theorem Unambiguous.between (h : Unambiguous n P Closed) {left right : Char}
    (hright : right ∈ [']', '\x7d']) {a a' : α} {cs cs' rest rest' : List Char} (ha : P a cs)
    (ha' : P a' cs') (hlt : (left :: (cs ++ [right])).length ≤ n)
    (hlt' : (left :: (cs' ++ [right])).length ≤ n)
    (heq : left :: (cs ++ [right]) ++ rest = left :: (cs' ++ [right]) ++ rest') :
    a = a' ∧ rest = rest' := by
  have hclosed : ∀ {rest : List Char}, Closed (right :: rest) := by
    rintro rest c ⟨⟩
    exact hright
  rw [List.length_cons, List.length_append] at hlt hlt'
  obtain ⟨rfl, houter⟩ := h ha ha' (by omega) (by omega) hclosed hclosed (by simpa using heq)
  exact ⟨rfl, (List.cons.inj houter).2⟩

theorem Member.unambiguous (hopens : Opens P) (h : Unambiguous n P EndsNumber) :
    Unambiguous n (Member P) EndsNumber := by
  rintro _ _ _ _ rest rest' ⟨hkey, hbefore, hafter, ha⟩ ⟨hkey', hbefore', hafter', ha'⟩ hlt
    hlt' hrest hrest' heq
  have hcolon : ∀ {cs : List Char}, ∀ c ∈ (':' :: cs).head?, isBlank c = false := by
    rintro cs c ⟨⟩
    rfl
  simp only [List.length_append, List.length_cons] at hlt hlt'
  simp only [List.append_assoc, List.cons_append] at heq
  obtain ⟨rfl, heq⟩ := hkey.unambiguous hkey' heq
  have heq := (List.cons.inj (blank_append_inj hbefore hbefore' hcolon hcolon heq)).2
  have heq := blank_append_inj hafter hafter' (hopens.isBlank_head ha _)
    (hopens.isBlank_head ha' _) heq
  obtain ⟨rfl, heq⟩ := h ha ha' (by omega) (by omega) hrest hrest' heq
  exact ⟨rfl, heq⟩

theorem Member.opens : Opens (Member P) := by
  rintro _ _ ⟨⟨-⟩, -, -, -⟩
  exact ⟨'"', _, rfl, by decide⟩

/-! ## Values are told apart -/

/-- The kinds of values that differ in the character with which they begin. -/
inductive Kind where
  | null | true | false | number | string | array | object
  deriving DecidableEq

/-- The kind of a value. -/
def Value.kind : Value → Kind
  | null => .null
  | bool b => if b then .true else .false
  | number _ => .number
  | string _ => .string
  | array _ => .array
  | object _ => .object

/-- The kind of the values that begin with the character, if any do. -/
def kindOf (c : Char) : Kind :=
  if c = 'n' then .null
  else if c = 't' then .true
  else if c = 'f' then .false
  else if c = '"' then .string
  else if c = '[' then .array
  else if c = '\x7b' then .object
  else .number

theorem NumberText.exists_eq_cons {q : ℚ} {cs : List Char} (h : NumberText q cs) :
    ∃ c tail, cs = c :: tail ∧ kindOf c = .number ∧ Opening c := by
  cases h with
  | positive h =>
    obtain ⟨c, tail, rfl, hc⟩ := h.exists_eq_cons
    have hne : ∀ d : Char, d.isDigit = false → c ≠ d := by
      rintro d hd rfl
      rw [hc] at hd
      cases hd
    refine ⟨c, tail, rfl, ?_, ?_⟩
    · simp [kindOf, hne]
    · simp [Opening, hne]
  | negative h => exact ⟨'-', _, rfl, by decide, by decide⟩

theorem Written.exists_eq_cons {v : Value} {cs : List Char} (h : Written v cs) :
    ∃ c tail, cs = c :: tail ∧ kindOf c = v.kind ∧ Opening c := by
  cases h with
  | number h => exact h.exists_eq_cons
  | string h =>
    cases h
    exact ⟨'"', _, rfl, rfl, by decide⟩
  | null | true | false | array | object => exact ⟨_, _, rfl, rfl, by decide⟩

theorem Written.opens : Opens Written := by
  intro v cs h
  obtain ⟨c, tail, heq, -, hc⟩ := h.exists_eq_cons
  exact ⟨c, tail, heq, hc⟩

theorem Written.kind_eq {v v' : Value} {cs cs' rest rest' : List Char} (h : Written v cs)
    (h' : Written v' cs') (heq : cs ++ rest = cs' ++ rest') : v.kind = v'.kind := by
  obtain ⟨c, tail, rfl, hc, -⟩ := h.exists_eq_cons
  obtain ⟨c', tail', rfl, hc', -⟩ := h'.exists_eq_cons
  obtain ⟨rfl, -⟩ := List.cons.inj heq
  rw [← hc, ← hc']

/-- **Values.** What is written of one value is not written of another, whatever follows. -/
theorem Written.unambiguous (n : Nat) : Unambiguous n Written EndsNumber := by
  -- By length: the elements of an array and the members of an object are shorter.
  induction n with
  | zero =>
    intro v v' cs cs' rest rest' h h' hlt
    exact absurd hlt (Nat.not_lt_zero _)
  | succ n ih =>
    intro v v' cs cs' rest rest' h h' hlt hlt' hrest hrest' heq
    have hkind := h.kind_eq h' heq
    cases h with
    | null =>
      cases h' with
      | null => exact ⟨rfl, List.append_cancel_left heq⟩
      | _ => cases hkind
    | true =>
      cases h' with
      | true => exact ⟨rfl, List.append_cancel_left heq⟩
      | _ => cases hkind
    | false =>
      cases h' with
      | false => exact ⟨rfl, List.append_cancel_left heq⟩
      | _ => cases hkind
    | number h =>
      cases h' with
      | number h' =>
        obtain ⟨rfl, houter⟩ :=
          append_inj_of_boundary h.isNumeric h'.isNumeric hrest hrest' heq
        rw [h.unique h']
        exact ⟨rfl, houter⟩
      | _ => cases hkind
    | string h =>
      cases h' with
      | string h' =>
        obtain ⟨rfl, houter⟩ := h.unambiguous h' heq
        exact ⟨rfl, houter⟩
      | _ => cases hkind
    | array h =>
      cases h' with
      | array h' =>
        obtain ⟨rfl, houter⟩ := (Listed.unambiguous opens ih).between (by decide) h h'
          (Nat.le_of_lt_succ hlt) (Nat.le_of_lt_succ hlt') heq
        exact ⟨rfl, houter⟩
      | _ => cases hkind
    | object h =>
      cases h' with
      | object h' =>
        have hmembers := Listed.unambiguous Member.opens (Member.unambiguous opens ih)
        obtain ⟨rfl, houter⟩ := hmembers.between (by decide) h h' (Nat.le_of_lt_succ hlt)
          (Nat.le_of_lt_succ hlt') heq
        exact ⟨rfl, houter⟩
      | _ => cases hkind

/-- **Texts.** Characters are the text of one value. -/
theorem IsText.unique {v v' : Value} {cs : List Char} (h : IsText v cs) (h' : IsText v' cs) :
    v = v' := by
  have hend : Marked [] := by
    rintro c ⟨⟩
  exact (Padded.unambiguous Written.opens (Written.unambiguous (cs.length + 1)) h h'
    (Nat.lt_succ_self _) (Nat.lt_succ_self _) hend hend rfl).1

theorem Written.isText {v : Value} {cs blanks : List Char} (h : Written v cs)
    (hblanks : Blank blanks) : IsText v (cs ++ blanks) :=
  @Padded.intro _ _ [] _ _ _ (fun _ hc => absurd hc List.not_mem_nil) h hblanks

end Spirv.Json
