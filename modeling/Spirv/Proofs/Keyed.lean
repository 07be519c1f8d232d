/-
  Items with keys.

  A state takes items one after the other, and has at most one for each key (`Keyed`).  Items
  that it lacks and that have distinct keys (`Fresh`) are all in it in the end, and nothing
  else is that was not in it before (`has_foldl_iff`): the order in which they come is lost.

  Of items with distinct keys in a list, the first with a key is the only one
  (`find?_key_eq_some_iff`).
-/
import Mathlib

namespace Spirv

variable {σ α κ : Type} {insert : σ → α → σ} {key : α → κ} {Has Lacks : σ → α → Prop}

/-- The state has what is inserted into it where it lacked the key, and lacks the key then. -/
structure Keyed (insert : σ → α → σ) (key : α → κ) (Has Lacks : σ → α → Prop) : Prop where
  lacks_insert_iff : ∀ {s a b}, Lacks (insert s a) b ↔ Lacks s b ∧ key a ≠ key b
  has_insert_iff : ∀ {s a b}, Lacks s a → (Has (insert s a) b ↔ Has s b ∨ b = a)

namespace Keyed

/-- The state lacks all of the items, and no two of them have the same key. -/
def Fresh (key : α → κ) (Lacks : σ → α → Prop) (s : σ) (items : List α) : Prop :=
  (items.map key).Nodup ∧ ∀ item ∈ items, Lacks s item

theorem fresh_cons_iff (h : Keyed insert key Has Lacks) {s : σ} {a : α} {as : List α} :
    Fresh key Lacks s (a :: as) ↔ Lacks s a ∧ Fresh key Lacks (insert s a) as := by
  simp only [Fresh, List.map_cons, List.nodup_cons, List.mem_cons, forall_eq_or_imp,
    h.lacks_insert_iff, List.mem_map, not_exists, not_and]
  constructor
  · rintro ⟨⟨hkey, hnodup⟩, hhead, htail⟩
    exact ⟨hhead, hnodup, fun b hb => ⟨htail b hb, Ne.symm (hkey b hb)⟩⟩
  · rintro ⟨hhead, hnodup, htail⟩
    exact ⟨⟨fun b hb => Ne.symm (htail b hb).2, hnodup⟩, hhead, fun b hb => (htail b hb).1⟩

theorem fresh_append_iff (h : Keyed insert key Has Lacks) {s : σ} {as bs : List α} :
    Fresh key Lacks s (as ++ bs) ↔
      Fresh key Lacks s as ∧ Fresh key Lacks (as.foldl insert s) bs := by
  induction as generalizing s with
  | nil => simp [Fresh]
  | cons a as ih =>
    rw [List.cons_append, h.fresh_cons_iff, ih, h.fresh_cons_iff, List.foldl_cons, and_assoc]

/-- A state into which fresh items are inserted has these items, and those that it had. -/
theorem has_foldl_iff (h : Keyed insert key Has Lacks) {s : σ} {as : List α}
    (hfresh : Fresh key Lacks s as) {b : α} :
    Has (as.foldl insert s) b ↔ Has s b ∨ b ∈ as := by
  induction as generalizing s with
  | nil => simp
  | cons a as ih =>
    obtain ⟨hhead, htail⟩ := h.fresh_cons_iff.1 hfresh
    rw [List.foldl_cons, ih htail, h.has_insert_iff hhead, List.mem_cons, or_assoc]

end Keyed

/-! ## Search by a key -/

theorem find?_key_eq_some_iff [BEq κ] [LawfulBEq κ] {items : List α}
    (hkeys : ∀ a ∈ items, ∀ b ∈ items, key a = key b → a = b) {k : κ} {a : α} :
    items.find? (fun item => key item == k) = some a ↔ a ∈ items ∧ key a = k := by
  constructor
  · intro h
    exact ⟨List.mem_of_find?_eq_some h, by simpa using List.find?_some h⟩
  · rintro ⟨ha, rfl⟩
    cases hfound : items.find? fun item => key item == key a with
    | none => simpa using List.find?_eq_none.1 hfound a ha
    | some b =>
      have hkey : key b = key a := by simpa using List.find?_some hfound
      rw [hkeys b (List.mem_of_find?_eq_some hfound) a ha hkey]

end Spirv
