/-
  The names of operations.

  `Registered op name` says that the name is the mnemonic of the operation or one of its
  aliases.  Three facts about the tables carry all that is proved of names:

  - each name is `Op` and more; the rest begins neither with `Op` nor with a digit, and there
    is no blank in it (`Registered.shape`);
  - no two operations share a name (`Registered.unique`), and no name stands in the tables
    twice (`nodup_entries`);
  - so a name is found as it stands or with `Op` in front of it, and never as both
    (`ofName?_eq_some_iff`).
-/
import Mathlib
import Spirv.Proofs.Keyed
import Spirv.Registry

namespace Spirv.Opcode

/-- The name is the mnemonic of the operation or one of its aliases. -/
def Registered (op : Opcode) (name : String) : Prop :=
  name = op.mnemonic ∨ (name, op) ∈ aliases

theorem registered_mnemonic (op : Opcode) : op.Registered op.mnemonic :=
  .inl rfl

/-! ## The shape of a name -/

/-- Whether the letters are `Op` and more, where the rest begins neither with `Op` nor with a
    digit and has no blank. -/
def isNameShaped : List Char → Bool
  | 'O' :: 'p' :: c :: cs =>
    !c.isDigit && !(['O', 'p'].isPrefixOf (c :: cs)) && !(c :: cs).contains ' '
  | _ => false

-- The kernel reads a literal as a list of letters, but it is slow to take a text apart.  So the
-- letters are found by unification, and the shape is that of the letters.
theorem exists_letters_mnemonic (op : Opcode) :
    ∃ letters, op.mnemonic = String.ofList letters ∧ isNameShaped letters = true := by
  cases op <;> exact ⟨_, rfl, rfl⟩

theorem exists_letters_alias :
    ∀ row ∈ aliases, ∃ letters, row.1 = String.ofList letters ∧ isNameShaped letters = true := by
  unfold aliases
  simp only [List.forall_mem_cons]
  exact ⟨⟨_, rfl, rfl⟩, ⟨_, rfl, rfl⟩, ⟨_, rfl, rfl⟩, ⟨_, rfl, rfl⟩, ⟨_, rfl, rfl⟩, by simp⟩

/-- What the letters of a name are: `Op`, and the rest. -/
structure NameShape (letters rest : List Char) : Prop where
  eq_append : letters = ['O', 'p'] ++ rest
  ne_nil : rest ≠ []
  not_digit : ∀ c ∈ rest.head?, c.isDigit = false
  not_prefix : ¬ ['O', 'p'] <+: rest
  no_blank : ' ' ∉ letters

theorem exists_shape_of_isNameShaped {letters : List Char} (h : isNameShaped letters = true) :
    ∃ rest, NameShape letters rest := by
  unfold isNameShaped at h
  split at h
  · rename_i c cs
    simp only [Bool.and_eq_true, Bool.not_eq_true'] at h
    obtain ⟨⟨hdigit, hprefix⟩, hblank⟩ := h
    refine ⟨c :: cs, rfl, List.cons_ne_nil _ _, ?_, ?_, ?_⟩
    · intro d hd
      rw [List.head?_cons, Option.mem_some_iff] at hd
      rwa [← hd]
    · intro hop
      rw [List.isPrefixOf_iff_prefix.2 hop] at hprefix
      cases hprefix
    · intro hmem
      have hrest : ' ' ∈ c :: cs := by simpa using hmem
      rw [List.contains_iff_mem.2 hrest] at hblank
      cases hblank
  · cases h

/-- **Names have one shape.** -/
theorem Registered.shape {op : Opcode} {name : String} (h : op.Registered name) :
    ∃ rest, NameShape name.toList rest := by
  have hletters : ∃ letters, name = String.ofList letters ∧ isNameShaped letters = true := by
    rcases h with rfl | h
    · exact exists_letters_mnemonic op
    · exact exists_letters_alias _ h
  obtain ⟨letters, rfl, hshaped⟩ := hletters
  rw [String.toList_ofList]
  exact exists_shape_of_isNameShaped hshaped

/-! ## Names are distinct -/

/-- Each mnemonic and each alias with its operation. -/
def entries : List (String × Opcode) :=
  (all.map fun op => (op.mnemonic, op)) ++ aliases

theorem mem_entries {name : String} {op : Opcode} : (name, op) ∈ entries ↔ op.Registered name := by
  unfold entries Registered
  rw [List.mem_append, List.mem_map]
  have hmap : (∃ a, a ∈ all ∧ (a.mnemonic, a) = (name, op)) ↔ name = op.mnemonic := by
    constructor
    · rintro ⟨a, -, ha⟩
      obtain ⟨rfl, rfl⟩ := Prod.mk.inj ha
      rfl
    · intro h
      exact ⟨op, op.mem_all, by rw [h]⟩
  rw [hmap]

/-- Whether no number occurs twice or is among those seen before, of which each has its bit
    set in `seen`. -/
def unseen (seen : Nat) : List Nat → Bool
  | [] => true
  | k :: ks => !seen.testBit k && unseen (seen ||| 1 <<< k) ks

theorem nodup_of_unseen {ks : List Nat} {seen : Nat} (h : unseen seen ks = true) :
    ks.Nodup ∧ ∀ k ∈ ks, seen.testBit k = false := by
  induction ks generalizing seen with
  | nil => simp
  | cons k ks ih =>
    simp only [unseen, Bool.and_eq_true, Bool.not_eq_true'] at h
    obtain ⟨hnodup, hks⟩ := ih h.2
    have hbit : ∀ l ∈ ks, seen.testBit l = false ∧ k ≠ l := by
      intro l hl
      have hl' := hks l hl
      rw [Nat.testBit_or, Bool.or_eq_false_iff, Nat.one_shiftLeft, Nat.testBit_two_pow] at hl'
      exact ⟨hl'.1, of_decide_eq_false hl'.2⟩
    refine ⟨List.nodup_cons.2 ⟨?_, hnodup⟩, ?_⟩
    · intro hk
      exact (hbit k hk).2 rfl
    · intro l hl
      rcases List.mem_cons.1 hl with rfl | hl
      · exact h.1
      · exact (hbit l hl).1

/-- The bytes of the text as the digits of a number, modulo `15077`. -/
def residue (text : String) : Nat :=
  text.toByteArray.data.toList.foldl (fun n b => 256 * n + b.toNat) 0 % 15077

-- Comparing the names with each other is too much for the kernel.  The modulus is one for
-- which their residues differ, and these are small enough to be the bits of a number.
theorem unseen_residues : unseen 0 (entries.map fun row => residue row.1) = true := by
  decide +kernel

theorem nodup_entries : (entries.map Prod.fst).Nodup := by
  have h := (nodup_of_unseen unseen_residues).1
  rw [← Function.comp_def, ← List.map_map] at h
  exact h.of_map _

/-- **No two operations share a name.** -/
theorem Registered.unique {a b : Opcode} {name : String} (ha : a.Registered name)
    (hb : b.Registered name) : a = b := by
  have h := List.inj_on_of_nodup_map nodup_entries (mem_entries.2 ha) (mem_entries.2 hb) rfl
  exact congrArg Prod.snd h

theorem mnemonic_inj {a b : Opcode} (h : a.mnemonic = b.mnemonic) : a = b :=
  a.registered_mnemonic.unique (h ▸ b.registered_mnemonic)

/-! ## Looking a name up -/

theorem ofMnemonic?_eq_some_iff {name : String} {op : Opcode} :
    ofMnemonic? name = some op ↔ name = op.mnemonic := by
  unfold ofMnemonic?
  rw [find?_key_eq_some_iff fun _ _ _ _ => mnemonic_inj]
  exact ⟨fun h => h.2.symm, fun h => ⟨op.mem_all, h.symm⟩⟩

theorem lookup_aliases_eq_some_iff {name : String} {op : Opcode} :
    aliases.lookup name = some op ↔ (name, op) ∈ aliases := by
  constructor
  · intro h
    obtain ⟨before, behind, hrows, -⟩ := List.lookup_eq_some_iff.1 h
    rw [hrows]
    exact List.mem_append_right _ List.mem_cons_self
  · intro h
    cases hfound : aliases.lookup name with
    | none =>
      have hne := List.lookup_eq_none_iff.1 hfound _ h
      simp at hne
    | some a =>
      obtain ⟨before, behind, hrows, -⟩ := List.lookup_eq_some_iff.1 hfound
      have ha : (name, a) ∈ aliases := by
        rw [hrows]
        exact List.mem_append_right _ List.mem_cons_self
      have hunique : a = op := Registered.unique (.inr ha) (.inr h)
      rw [hunique]

/-- A mnemonic is looked for first, then an alias; neither hides the other. -/
theorem orElse_lookup_eq_some_iff {name : String} {op : Opcode} :
    (ofMnemonic? name <|> aliases.lookup name) = some op ↔ op.Registered name := by
  cases h : ofMnemonic? name with
  | none =>
    have hne : ∀ a : Opcode, name ≠ a.mnemonic := by
      intro a ha
      rw [ofMnemonic?_eq_some_iff.2 ha] at h
      cases h
    show aliases.lookup name = some op ↔ _
    rw [lookup_aliases_eq_some_iff, Registered, or_iff_right (hne op)]
  | some a =>
    have ha : a.Registered name := .inl (ofMnemonic?_eq_some_iff.1 h)
    show some a = some op ↔ _
    constructor
    · intro hop
      rwa [← Option.some.inj hop]
    · intro hop
      rw [ha.unique hop]

/-! ## The leading `Op` -/

theorem fullName_eq_self {name : String} (h : ['O', 'p'] <+: name.toList) :
    fullName name = name := by
  obtain ⟨rest, hrest⟩ := h
  unfold fullName
  rw [← hrest]
  rfl

theorem fullName_eq_append {name : String} (h : ¬ ['O', 'p'] <+: name.toList) :
    fullName name = "Op" ++ name := by
  unfold fullName
  split
  · rename_i rest heq
    exact absurd ⟨rest, heq.symm⟩ h
  · rfl

theorem toList_op_append (name : String) : ("Op" ++ name).toList = ['O', 'p'] ++ name.toList := by
  rw [String.toList_append]
  rfl

/-- A name begins with `Op`. -/
theorem Registered.prefix_toList {op : Opcode} {name : String} (h : op.Registered name) :
    ['O', 'p'] <+: name.toList := by
  obtain ⟨rest, hshape⟩ := h.shape
  exact ⟨rest, hshape.eq_append.symm⟩

/-- What is a name with `Op` in front begins neither with `Op` nor with a digit. -/
theorem Registered.shape_of_op_append {op : Opcode} {name : String}
    (h : op.Registered ("Op" ++ name)) : NameShape ("Op" ++ name).toList name.toList := by
  obtain ⟨rest, hshape⟩ := h.shape
  have hrest : name.toList = rest := by
    have heq := hshape.eq_append
    rw [toList_op_append] at heq
    exact List.append_cancel_left heq
  rwa [hrest]

/-- **Names are found.**  The operation that is found is the one of which the text is a name,
    as it stands or with `Op` in front. -/
theorem ofName?_eq_some_iff {name : String} {op : Opcode} :
    ofName? name = some op ↔ op.Registered name ∨ op.Registered ("Op" ++ name) := by
  unfold ofName?
  rw [orElse_lookup_eq_some_iff]
  by_cases hop : ['O', 'p'] <+: name.toList
  · rw [fullName_eq_self hop]
    constructor
    · intro h
      exact .inl h
    · rintro (h | h)
      · exact h
      · exact absurd hop h.shape_of_op_append.not_prefix
  · rw [fullName_eq_append hop]
    constructor
    · intro h
      exact .inr h
    · rintro (h | h)
      · exact absurd h.prefix_toList hop
      · exact h

end Spirv.Opcode
