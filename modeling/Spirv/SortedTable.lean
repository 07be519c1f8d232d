/-
  Search in a table whose keys ascend.

  `search? table key k` halves the range in which the row with key `k` can lie until the
  row is met or the range is empty.  When the keys ascend strictly, the result is the row
  with the key (`search?_eq_some_iff`) and is missing only if there is none
  (`search?_eq_none_iff`).
-/
namespace Spirv.SortedTable

/-- The row with the given key among those from `lo` up to, not including, `hi`, in a table
    whose keys ascend. -/
def searchFrom? {α : Type} (table : Array α) (key : α → Nat) (k lo hi : Nat)
    (hi_le : hi ≤ table.size) : Option α :=
  if h : lo < hi then
    let mid := (lo + hi) / 2
    let row := table[mid]
    if key row = k then some row
    else if key row < k then searchFrom? table key k (mid + 1) hi hi_le
    else searchFrom? table key k lo mid (by omega)
  else none
termination_by hi - lo

/-- The row with the given key, in a table whose keys ascend. -/
def search? {α : Type} (table : Array α) (key : α → Nat) (k : Nat) : Option α :=
  searchFrom? table key k 0 table.size (Nat.le_refl _)

/-- The keys ascend strictly with the position. -/
def Ascending {α : Type} (table : Array α) (key : α → Nat) : Prop :=
  ∀ i j (hi : i < table.size) (hj : j < table.size), i < j → key table[i] < key table[j]

theorem searchFrom?_eq_some {α : Type} {table : Array α} {key : α → Nat} {k lo hi : Nat}
    {hi_le : hi ≤ table.size} {row : α} (h : searchFrom? table key k lo hi hi_le = some row) :
    row ∈ table ∧ key row = k := by
  fun_induction searchFrom? table key k lo hi hi_le with
  | case1 lo hi hi_le hlt mid r hk =>
    obtain rfl := Option.some.inj h
    exact ⟨Array.getElem_mem _, hk⟩
  | case2 lo hi hi_le hlt mid r hk hless ih => exact ih h
  | case3 lo hi hi_le hlt mid r hk hless ih => exact ih h
  | case4 => simp at h

theorem searchFrom?_eq_none {α : Type} {table : Array α} {key : α → Nat} {k lo hi : Nat}
    {hi_le : hi ≤ table.size} (hasc : Ascending table key)
    (h : searchFrom? table key k lo hi hi_le = none) :
    ∀ i (hs : i < table.size), lo ≤ i → i < hi → key table[i] ≠ k := by
  fun_induction searchFrom? table key k lo hi hi_le with
  | case1 => simp at h
  | case2 lo hi hi_le hlt mid r hk hless ih =>
    intro i hs hlo hhi
    by_cases hm : mid < i
    · exact ih h i hs hm hhi
    · rcases Nat.eq_or_lt_of_le (Nat.not_lt.1 hm) with rfl | hlt'
      · exact hk
      · have := hasc i mid hs (by omega) hlt'
        exact Nat.ne_of_lt (Nat.lt_trans this hless)
  | case3 lo hi hi_le hlt mid r hk hless ih =>
    intro i hs hlo hhi
    by_cases hm : i < mid
    · exact ih h i hs hlo hm
    · rcases Nat.eq_or_lt_of_le (Nat.not_lt.1 hm) with rfl | hlt'
      · exact hk
      · have := hasc mid i (by omega) hs hlt'
        exact Nat.ne_of_gt (Nat.lt_of_le_of_lt (Nat.not_lt.1 hless) this)
  | case4 => intro i hs hlo hhi; omega

/-- **Search.** In a table whose keys ascend, the row that is found is the one with the key. -/
theorem search?_eq_some_iff {α : Type} {table : Array α} {key : α → Nat} {k : Nat} {row : α}
    (hasc : Ascending table key) :
    search? table key k = some row ↔ row ∈ table ∧ key row = k := by
  constructor
  · exact searchFrom?_eq_some
  · rintro ⟨hmem, hk⟩
    obtain ⟨i, hi, rfl⟩ := Array.mem_iff_getElem.1 hmem
    cases hs : search? table key k with
    | none => exact absurd hk (searchFrom?_eq_none hasc hs i hi (Nat.zero_le _) hi)
    | some found =>
      obtain ⟨hmem', hk'⟩ := searchFrom?_eq_some hs
      obtain ⟨j, hj, rfl⟩ := Array.mem_iff_getElem.1 hmem'
      rcases Nat.lt_trichotomy i j with hij | rfl | hij
      · have := hasc i j hi hj hij
        omega
      · rfl
      · have := hasc j i hj hi hij
        omega

theorem search?_eq_none_iff {α : Type} {table : Array α} {key : α → Nat} {k : Nat}
    (hasc : Ascending table key) :
    search? table key k = none ↔ ∀ row ∈ table, key row ≠ k := by
  rw [Option.eq_none_iff_forall_ne_some]
  constructor
  · intro h row hmem hk
    exact h row ((search?_eq_some_iff hasc).2 ⟨hmem, hk⟩)
  · intro h row hs
    obtain ⟨hmem, hk⟩ := (search?_eq_some_iff hasc).1 hs
    exact h row hmem hk

end Spirv.SortedTable
