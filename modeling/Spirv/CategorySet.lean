/-
  Sets of categories.

  A `CategorySet` is a word of 32 bits in which each category has a bit of its own
  (`Category.bit`).  There are fewer categories than bits, so not every word is a set: a word
  is `Tidy` if the bits that belong to no category are clear.  What the operations do is told
  by the bits (`getLsbD_insert`) and by the members (`mem_insert`, `mem_ofList`,
  `mem_toList`); they make tidy words of tidy words (`tidy_insert`, `tidy_ofList`), and a tidy
  word is determined by its members (`Tidy.ext`).
-/
import Spirv.Category

namespace Spirv

namespace Category

/-- The bit of the category. -/
def bit (c : Category) : BitVec 32 :=
  1#32 <<< c.index.val

theorem getLsbD_bit (c : Category) (i : Nat) : c.bit.getLsbD i = decide (c.index.val = i) := by
  have hlt : c.index.val < 32 := Nat.lt_of_lt_of_le c.index.isLt (by decide)
  rw [bit, ← BitVec.twoPow_eq, BitVec.getLsbD_twoPow, decide_eq_true hlt, Bool.true_and]

/-- A word has the bit of the category in common with it if that bit is set. -/
theorem and_bit_ne_zero (bits : BitVec 32) (c : Category) :
    (bits &&& c.bit != 0) = bits.getLsbD c.index := by
  have hbit : c.bit ≠ 0#32 := by
    intro hzero
    have hset := congrArg (fun bits => bits.getLsbD c.index) hzero
    simp [getLsbD_bit] at hset
  rw [bit, ← BitVec.twoPow_eq] at hbit
  rw [bit, ← BitVec.twoPow_eq, BitVec.and_twoPow]
  cases bits.getLsbD c.index <;> simp [hbit]

end Category

/-- A set of categories. -/
structure CategorySet where
  /-- The union of the bits of the members. -/
  bits : BitVec 32
  deriving DecidableEq

namespace CategorySet

/-- The set without members. -/
def empty : CategorySet := ⟨0⟩

instance : EmptyCollection CategorySet := ⟨empty⟩

/-- Whether the category is a member. -/
def contains (s : CategorySet) (c : Category) : Bool :=
  s.bits &&& c.bit != 0

instance : Membership Category CategorySet where
  mem s c := s.contains c = true

instance (c : Category) (s : CategorySet) : Decidable (c ∈ s) :=
  inferInstanceAs (Decidable (s.contains c = true))

/-- The set with one more member. -/
def insert (s : CategorySet) (c : Category) : CategorySet :=
  ⟨s.bits ||| c.bit⟩

/-- The set of the categories in a list. -/
def ofList (cs : List Category) : CategorySet :=
  cs.foldl insert empty

/-- The members, in the order of reports. -/
def toList (s : CategorySet) : List Category :=
  Category.all.filter s.contains

/-- The number of members. -/
def size (s : CategorySet) : Nat :=
  s.bits.cpop.toNat

/-- Whether there are no members. -/
def isEmpty (s : CategorySet) : Bool :=
  s.bits == 0

/-- The names of the members, in the order of reports. -/
def names (s : CategorySet) : List String :=
  s.toList.map Category.name

/-- What has been written and the names behind it, with a comma in front of each name but
    the first. -/
def writeNames (written : String) (first : Bool) : List Category → String
  | [] => written
  | c :: cs => writeNames ((if first then written else written ++ ", ") ++ c.name) false cs

/-- The names of the members, divided by commas. -/
def text (s : CategorySet) : String :=
  writeNames "" true s.toList

/-- The categories to which the operation belongs, each asked in turn. -/
def ofOpcode (op : Opcode) : CategorySet :=
  ofList (Category.all.filter fun c => c.holds op)

/-! ## Bits -/

theorem getLsbD_empty (i : Nat) : empty.bits.getLsbD i = false :=
  BitVec.getLsbD_zero

theorem getLsbD_insert (s : CategorySet) (c : Category) (i : Nat) :
    (s.insert c).bits.getLsbD i = (s.bits.getLsbD i || decide (c.index.val = i)) := by
  rw [insert, BitVec.getLsbD_or, c.getLsbD_bit]

/-- Only bits of categories are set. -/
def Tidy (s : CategorySet) : Prop :=
  ∀ i, Category.count ≤ i → s.bits.getLsbD i = false

theorem tidy_empty : Tidy empty :=
  fun i _ => getLsbD_empty i

theorem tidy_insert {s : CategorySet} (h : s.Tidy) (c : Category) : (s.insert c).Tidy := by
  intro i hi
  have hne : c.index.val ≠ i := Nat.ne_of_lt (Nat.lt_of_lt_of_le c.index.isLt hi)
  rw [getLsbD_insert, h i hi, decide_eq_false hne, Bool.or_false]

theorem tidy_foldl_insert {s : CategorySet} (h : s.Tidy) (cs : List Category) :
    (cs.foldl insert s).Tidy := by
  induction cs generalizing s with
  | nil => exact h
  | cons c cs ih => exact ih (tidy_insert h c)

theorem tidy_ofList (cs : List Category) : (ofList cs).Tidy :=
  tidy_foldl_insert tidy_empty cs

/-! ## Members -/

theorem mem_iff_contains {c : Category} {s : CategorySet} : c ∈ s ↔ s.contains c = true :=
  Iff.rfl

theorem mem_iff_getLsbD {c : Category} {s : CategorySet} :
    c ∈ s ↔ s.bits.getLsbD c.index = true := by
  rw [mem_iff_contains, contains, Category.and_bit_ne_zero]

@[simp] theorem not_mem_empty (c : Category) : ¬ c ∈ empty := by
  rw [mem_iff_getLsbD, getLsbD_empty]
  exact Bool.false_ne_true

@[simp] theorem mem_insert {s : CategorySet} {c d : Category} :
    d ∈ s.insert c ↔ d = c ∨ d ∈ s := by
  have hi : (c.index.val = d.index.val) ↔ d = c :=
    ⟨fun h => (Category.index_inj (Fin.ext h)).symm, fun h => by rw [h]⟩
  rw [mem_iff_getLsbD, mem_iff_getLsbD, getLsbD_insert, Bool.or_eq_true, decide_eq_true_eq, hi]
  exact or_comm

theorem mem_foldl_insert {c : Category} (cs : List Category) (s : CategorySet) :
    c ∈ cs.foldl insert s ↔ c ∈ cs ∨ c ∈ s := by
  induction cs generalizing s with
  | nil => simp
  | cons d ds ih =>
    rw [List.foldl_cons, ih, mem_insert, List.mem_cons]
    constructor
    · rintro (h | h | h)
      · exact .inl (.inr h)
      · exact .inl (.inl h)
      · exact .inr h
    · rintro ((h | h) | h)
      · exact .inr (.inl h)
      · exact .inl h
      · exact .inr (.inr h)

@[simp] theorem mem_ofList {c : Category} {cs : List Category} : c ∈ ofList cs ↔ c ∈ cs := by
  rw [ofList, mem_foldl_insert]
  simp

@[simp] theorem mem_toList {c : Category} {s : CategorySet} : c ∈ s.toList ↔ c ∈ s := by
  simp [toList, Category.mem_all, mem_iff_contains]

@[simp] theorem mem_ofOpcode {c : Category} {op : Opcode} : c ∈ ofOpcode op ↔ c.holds op = true := by
  simp [ofOpcode, Category.mem_all]

/-! ## Equality -/

theorem exists_index (i : Nat) (h : i < Category.count) : ∃ c : Category, c.index.val = i := by
  have hall : (List.range Category.count).all
      (fun i => Category.all.any fun c => c.index.val == i) = true := by decide +kernel
  have := List.all_eq_true.1 hall i (List.mem_range.2 h)
  obtain ⟨c, -, hc⟩ := List.any_eq_true.1 this
  exact ⟨c, by simpa using hc⟩

/-- Tidy words with the same members are equal. -/
theorem Tidy.ext {s t : CategorySet} (hs : s.Tidy) (ht : t.Tidy) (h : ∀ c, c ∈ s ↔ c ∈ t) :
    s = t := by
  have hbits : s.bits = t.bits := by
    apply BitVec.eq_of_getLsbD_eq
    intro i _
    by_cases hi : i < Category.count
    · obtain ⟨c, rfl⟩ := exists_index i hi
      exact Bool.eq_iff_iff.2 (mem_iff_getLsbD.symm.trans ((h c).trans mem_iff_getLsbD))
    · rw [hs i (Nat.not_lt.1 hi), ht i (Nat.not_lt.1 hi)]
  cases s
  cases t
  simp only at hbits
  rw [hbits]

theorem Tidy.ofList_toList {s : CategorySet} (h : s.Tidy) : ofList s.toList = s :=
  (tidy_ofList _).ext h fun c => by simp

/-- Only the empty one of the tidy words has no members. -/
theorem Tidy.isEmpty_eq {s : CategorySet} (h : s.Tidy) : s.isEmpty = s.toList.isEmpty := by
  rw [Bool.eq_iff_iff, isEmpty, beq_iff_eq, List.isEmpty_iff]
  constructor
  · intro hzero
    obtain rfl : s = empty := by
      cases s
      exact congrArg CategorySet.mk hzero
    rfl
  · intro hnil
    rw [← h.ofList_toList, hnil]
    rfl

/-! ## Texts -/

/-- What is written for names is their list with commas, behind what was there before. -/
theorem writeNames_eq (written : String) (first : Bool) (cs : List Category) :
    writeNames written first cs =
      written ++ (if first || cs.isEmpty then "" else ", ") ++
        ", ".intercalate (cs.map Category.name) := by
  induction cs generalizing written first with
  | nil => cases first <;> simp [writeNames]
  | cons c cs ih =>
    rw [writeNames, ih]
    cases cs <;> cases first <;> simp [String.append_assoc]

theorem text_eq_intercalate (s : CategorySet) : s.text = ", ".intercalate s.names := by
  rw [text, writeNames_eq]
  simp [names]

end CategorySet

end Spirv
