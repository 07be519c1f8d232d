/-
  Sets of categories against finite sets.

  A set of categories is built in steps: a category is added, or the set is replaced by the
  collection of a list, by the set of an operation or by the empty set.  `run` carries steps
  out on the empty word, `runFinset` on the empty finite set.  `Represents` says of a word and
  a finite set that the bits that are set in the word are those of the members, one for each
  and no other.  A step keeps this relation (`represents_apply`), and so does a run
  (`represents_run`).  All that can be asked of a word is told by the finite set that it
  represents: its members (`Represents.mem_iff`), its list (`Represents.toList_eq`), its size
  (`Represents.size_eq`), whether it is empty (`Represents.isEmpty_iff`).

  The words that steps build are the tidy ones (`reachable_iff_tidy`).

  Main statement: `run_faithful`.
-/
import Mathlib
import Spirv.CategoryTable

namespace Spirv

namespace Category

/-- Each position is that of one category, in the order of reports. -/
theorem map_index_all : all.map (fun c => c.index.val) = List.range count := by
  decide

theorem nodup_all : all.Nodup := by
  have h : (all.map fun c => c.index.val).Nodup := by
    rw [map_index_all]
    exact List.nodup_range
  exact h.of_map _

end Category

namespace CategorySet

/-! ## Bits and members -/

theorem cpopNatRec_eq_countP {w : Nat} (bits : BitVec w) (k : Nat) :
    bits.cpopNatRec k 0 = (List.range k).countP fun i => bits.getLsbD i := by
  induction k with
  | zero => rfl
  | succ k ih =>
    rw [BitVec.cpopNatRec_succ, BitVec.cpopNatRec_add, ih, List.range_succ, List.countP_append,
      List.countP_singleton]
    cases bits.getLsbD k <;> rfl

/-- In a tidy word as many bits are set as there are members; a stray bit would be counted and
    not listed. -/
theorem Tidy.size_eq_length_toList {s : CategorySet} (h : s.Tidy) :
    s.size = s.toList.length := by
  have hstray : (List.range' Category.count 3).countP (fun i => s.bits.getLsbD i) = 0 := by
    rw [List.countP_eq_zero]
    intro i hi
    rw [h i (List.mem_range'_1.1 hi).1]
    exact Bool.false_ne_true
  have hrange : List.range 32 = List.range Category.count ++ List.range' Category.count 3 := by
    decide
  have hindex : (List.range Category.count).countP (fun i => s.bits.getLsbD i) =
      Category.all.countP s.contains := by
    rw [← Category.map_index_all, List.countP_map]
    refine List.countP_congr fun c _ => ?_
    exact mem_iff_getLsbD.symm
  rw [size, BitVec.toNat_cpop, cpopNatRec_eq_countP, hrange, List.countP_append, hstray, hindex,
    toList, ← List.countP_eq_length_filter, Nat.add_zero]

theorem toList_eq_filter (s : CategorySet) : s.toList = Category.all.filter fun c => c ∈ s := by
  simp [toList, mem_iff_contains]

/-- Sets that list the same names are equal. -/
theorem Tidy.names_inj {s t : CategorySet} (hs : s.Tidy) (ht : t.Tidy)
    (h : s.names = t.names) : s = t := by
  have hmembers : s.toList = t.toList :=
    (List.map_inj_right fun _ _ heq => Category.name_inj heq).1 h
  rw [← hs.ofList_toList, hmembers, ht.ofList_toList]

theorem nodup_toList (s : CategorySet) : s.toList.Nodup :=
  Category.nodup_all.filter _

theorem isEmpty_iff {s : CategorySet} : s.isEmpty = true ↔ s = empty := by
  rw [isEmpty, beq_iff_eq]
  constructor
  · intro h
    cases s
    exact congrArg CategorySet.mk h
  · rintro rfl
    rfl

/-! ## Finite sets -/

/-- The bits that are set are those of the members, and there is no other. -/
def Represents (s : CategorySet) (members : Finset Category) : Prop :=
  ∀ i, s.bits.getLsbD i = true ↔ ∃ c ∈ members, c.index.val = i

namespace Represents

variable {s t : CategorySet} {members : Finset Category}

theorem mem_iff (h : Represents s members) {c : Category} : c ∈ s ↔ c ∈ members := by
  rw [mem_iff_getLsbD, h]
  constructor
  · rintro ⟨d, hd, hindex⟩
    rwa [← Category.index_inj (Fin.ext hindex)]
  · intro hc
    exact ⟨c, hc, rfl⟩

/-- No bit is set but those of categories. -/
theorem tidy (h : Represents s members) : s.Tidy := by
  intro i hi
  rw [Bool.eq_false_iff]
  intro hset
  obtain ⟨c, -, rfl⟩ := (h i).1 hset
  exact absurd c.index.isLt (Nat.not_lt.2 hi)

theorem toList_eq (h : Represents s members) :
    s.toList = Category.all.filter fun c => c ∈ members := by
  apply List.filter_congr
  intro c _
  rw [Bool.eq_iff_iff, decide_eq_true_eq]
  exact h.mem_iff

theorem toFinset_toList (h : Represents s members) : s.toList.toFinset = members := by
  ext c
  rw [List.mem_toFinset, mem_toList]
  exact h.mem_iff

theorem size_eq (h : Represents s members) : s.size = members.card := by
  rw [h.tidy.size_eq_length_toList, ← h.toFinset_toList,
    List.toFinset_card_of_nodup s.nodup_toList]

theorem isEmpty_iff (h : Represents s members) : s.isEmpty = true ↔ members = ∅ := by
  rw [CategorySet.isEmpty_iff, Finset.eq_empty_iff_forall_notMem]
  constructor
  · rintro rfl c hc
    exact not_mem_empty c (h.mem_iff.2 hc)
  · intro hnone
    apply h.tidy.ext tidy_empty
    intro c
    simp [h.mem_iff, hnone c]

/-- Words that represent finite sets are equal when these are. -/
theorem eq_iff {others : Finset Category} (h : Represents s members) (h' : Represents t others) :
    s = t ↔ members = others := by
  constructor
  · rintro rfl
    ext c
    rw [← h.mem_iff, ← h'.mem_iff]
  · rintro rfl
    exact h.tidy.ext h'.tidy fun c => h.mem_iff.trans h'.mem_iff.symm

end Represents

theorem represents_empty : Represents empty ∅ := by
  intro i
  simp [getLsbD_empty]

/-- Adding a category sets its bit and leaves the others as they are. -/
theorem represents_insert {s : CategorySet} {members : Finset Category} (h : Represents s members)
    (c : Category) : Represents (s.insert c) (Insert.insert c members) := by
  intro i
  rw [getLsbD_insert, Bool.or_eq_true, decide_eq_true_eq, h i]
  simp only [Finset.mem_insert, exists_eq_or_imp]
  exact or_comm

theorem represents_foldl_insert {s : CategorySet} {members : Finset Category}
    (h : Represents s members) (cs : List Category) :
    Represents (cs.foldl insert s) (cs.toFinset ∪ members) := by
  induction cs generalizing s members with
  | nil => simpa using h
  | cons c cs ih =>
    have hcs := ih (represents_insert h c)
    rwa [Finset.union_insert, ← Finset.insert_union, ← List.toFinset_cons] at hcs

theorem represents_ofList (cs : List Category) : Represents (ofList cs) cs.toFinset := by
  have h := represents_foldl_insert represents_empty cs
  rwa [Finset.union_empty] at h

/-! ## Steps -/

/-- One of the ways to go on from a set. -/
inductive Step where
  /-- Adds a category. -/
  | insert (c : Category)
  /-- Replaces the set by the collection of a list, in which categories may be repeated. -/
  | collect (cs : List Category)
  /-- Replaces the set by that of an operation. -/
  | ofOpcode (op : Opcode)
  /-- Replaces the set by the empty one. -/
  | reset

namespace Step

/-- The step on words. -/
def apply (s : CategorySet) : Step → CategorySet
  | insert c => s.insert c
  | collect cs => ofList cs
  | ofOpcode op => op.categories
  | reset => empty

/-- The step on finite sets. -/
def applyFinset (members : Finset Category) : Step → Finset Category
  | insert c => Insert.insert c members
  | collect cs => cs.toFinset
  | ofOpcode op => Category.all.toFinset.filter fun c => c.holds op
  | reset => ∅

end Step

/-- The set that the steps build. -/
def run (steps : List Step) : CategorySet :=
  steps.foldl Step.apply empty

/-- The finite set that the same steps build. -/
def runFinset (steps : List Step) : Finset Category :=
  steps.foldl Step.applyFinset ∅

/-- **A step keeps the relation.**  It sets no bit but those of the members. -/
theorem represents_apply {s : CategorySet} {members : Finset Category} (h : Represents s members)
    (step : Step) : Represents (step.apply s) (step.applyFinset members) := by
  cases step with
  | insert c => exact represents_insert h c
  | collect cs => exact represents_ofList cs
  | ofOpcode op =>
    have hop := represents_ofList (Category.all.filter fun c => c.holds op)
    rw [List.toFinset_filter] at hop
    rw [Step.apply, op.categories_eq_ofOpcode]
    exact hop
  | reset => exact represents_empty

theorem represents_foldl {s : CategorySet} {members : Finset Category} (h : Represents s members)
    (steps : List Step) :
    Represents (steps.foldl Step.apply s) (steps.foldl Step.applyFinset members) := by
  induction steps generalizing s members with
  | nil => exact h
  | cons step steps ih => exact ih (represents_apply h step)

theorem represents_run (steps : List Step) : Represents (run steps) (runFinset steps) :=
  represents_foldl represents_empty steps

/-- The word is built by some steps. -/
def Reachable (s : CategorySet) : Prop :=
  ∃ steps, run steps = s

theorem reachable_run (steps : List Step) : Reachable (run steps) :=
  ⟨steps, rfl⟩

theorem reachable_ofList (cs : List Category) : Reachable (ofList cs) :=
  ⟨[.collect cs], rfl⟩

theorem reachable_categories (op : Opcode) : Reachable op.categories :=
  ⟨[.ofOpcode op], rfl⟩

/-- **The words that steps build** are those without a stray bit. -/
theorem reachable_iff_tidy {s : CategorySet} : s.Reachable ↔ s.Tidy := by
  constructor
  · rintro ⟨steps, rfl⟩
    exact (represents_run steps).tidy
  · intro h
    exact ⟨[.collect s.toList], h.ofList_toList⟩

theorem Reachable.tidy {s : CategorySet} (h : s.Reachable) : s.Tidy :=
  reachable_iff_tidy.1 h

/-- Categories that are added one after the other are all there in the end. -/
theorem mem_run_append_insert {steps : List Step} {cs : List Category} {c : Category} :
    c ∈ run (steps ++ cs.map .insert) ↔ c ∈ cs ∨ c ∈ run steps := by
  rw [run, List.foldl_append, List.foldl_map]
  exact mem_foldl_insert cs (run steps)

/-- **Sets of categories are finite sets.**  What any steps build has the members of the finite
    set that the same steps build: the bits that are set are theirs and no other is, so that it
    contains these, lists each of them once in the order of reports, counts them, and is empty
    when there are none.  Steps that build the same members build the same word, so that
    neither the order nor the repetition of additions matters, and collecting the list gives
    the word back. -/
theorem run_faithful (steps : List Step) :
    (∀ i, (run steps).bits.getLsbD i = true ↔ ∃ c ∈ runFinset steps, c.index.val = i) ∧
    (∀ c, (run steps).contains c = true ↔ c ∈ runFinset steps) ∧
    (run steps).toList = Category.all.filter (fun c => c ∈ runFinset steps) ∧
    ((run steps).toList.Nodup ∧ ∀ c, c ∈ (run steps).toList ↔ c ∈ runFinset steps) ∧
    (run steps).size = (runFinset steps).card ∧
    (run steps).size = (run steps).toList.length ∧
    ((run steps).isEmpty = true ↔ runFinset steps = ∅) ∧
    (∀ steps', run steps' = run steps ↔ runFinset steps' = runFinset steps) ∧
    (∀ cs ds : List Category, (∀ c, c ∈ cs ↔ c ∈ ds) →
      run (steps ++ cs.map .insert) = run (steps ++ ds.map .insert)) ∧
    ofList (run steps).toList = run steps := by
  have h := represents_run steps
  refine ⟨h, fun c => h.mem_iff, h.toList_eq, ⟨nodup_toList _, ?_⟩, h.size_eq,
    h.tidy.size_eq_length_toList, h.isEmpty_iff, ?_, ?_, h.tidy.ofList_toList⟩
  · intro c
    rw [mem_toList]
    exact h.mem_iff
  · intro steps'
    exact (represents_run steps').eq_iff h
  · intro cs ds hmem
    apply (represents_run _).tidy.ext (represents_run _).tidy
    intro c
    rw [mem_run_append_insert, mem_run_append_insert, hmem c]

example : (run [.insert .load, .ofOpcode .opTypeInt, .insert .load, .insert .scalarType]).names =
    ["scalar-type", "generates-type", "load"] := by
  decide +kernel

end CategorySet

end Spirv
