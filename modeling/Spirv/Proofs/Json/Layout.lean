/-
  Layouts are texts.

  The layout of a value whose arrays have as many items as they announce (`Announced`) is one
  of the ways to write it (`written_layout`), at any depth: line breaks and indentation are
  blanks, the parts of arrays and objects are a row (`row_intercalate`), and what is quoted is
  a string (`stringText_quote`).  So a document is the text of one value
  (`isText_document_iff`).
-/
import Spirv.Json
import Spirv.Proofs.Json.Grammar

namespace Spirv.Json

open Settings (Blank)

/-! ## Values -/

mutual

/-- The value among all values of JSON. -/
def value : Json → Value
  | null => .null
  | bool b => .bool b
  | number n => .number n
  | string s => .string s
  | array _ items => .array (valueItems items)
  | object members => .object (valueMembers members)

/-- The items of an array. -/
def valueItems : List Json → List Value
  | [] => []
  | item :: items => value item :: valueItems items

/-- The members of an object. -/
def valueMembers : List (String × Json) → List (String × Value)
  | [] => []
  | (key, member) :: members => (key, value member) :: valueMembers members

end

mutual

/-- Every array has as many items as it announces. -/
def Announced : Json → Prop
  | null | bool _ | number _ | string _ => True
  | array announced items => announced = items.length ∧ AnnouncedItems items
  | object members => AnnouncedMembers members

/-- So it is with the items of an array. -/
def AnnouncedItems : List Json → Prop
  | [] => True
  | item :: items => Announced item ∧ AnnouncedItems items

/-- So it is with the members of an object. -/
def AnnouncedMembers : List (String × Json) → Prop
  | [] => True
  | (_, member) :: members => Announced member ∧ AnnouncedMembers members

end

theorem announcedItems_iff {items : List Json} :
    AnnouncedItems items ↔ ∀ item ∈ items, item.Announced := by
  induction items with
  | nil => simp [AnnouncedItems]
  | cons item items ih => rw [AnnouncedItems, ih, List.forall_mem_cons]

theorem valueItems_eq_map (items : List Json) : valueItems items = items.map value := by
  induction items with
  | nil => rfl
  | cons item items ih => rw [valueItems, ih, List.map_cons]

/-! ## Rows -/

theorem blank_nil : Blank [] :=
  fun _ hc => absurd hc List.not_mem_nil

theorem blank_replicate (n : Nat) : Blank (List.replicate n ' ') := by
  intro c hc
  rw [List.eq_of_mem_replicate hc]
  decide

theorem blank_newline (depth : Nat) : Blank (newline depth).toList := by
  have heq : (newline depth).toList = '\n' :: List.replicate (2 * depth) ' ' := by
    simp [newline]
  rw [heq]
  exact List.forall_mem_cons.2 ⟨by decide, blank_replicate _⟩

theorem stringText_quote (s : String) : StringText s (quote s).toList := by
  have hread := readString_quoted s.toList []
  obtain ⟨body, hbody, heq⟩ := readString_eq_some_iff.1 hread
  rw [List.append_nil] at heq
  rw [quote, String.toList_ofList, heq]
  exact .intro hbody

section Rows

variable {α : Type} {P : α → List Char → Prop}

/-- Texts that are divided by commas, with blanks around them, are a row. -/
theorem row_intercalate {as : List α} {parts : List (List Char)} (h : List.Forall₂ P as parts)
    (hne : parts ≠ []) {lead trail : List Char} (hlead : Blank lead) (htrail : Blank trail) :
    Row (Padded P) as (lead ++ ((',' :: lead).intercalate parts ++ trail)) := by
  induction h with
  | nil => exact absurd rfl hne
  | @cons a part as parts ha hparts ih =>
    cases hparts with
    | nil =>
      rw [List.intercalate_singleton]
      exact .last (.intro hlead ha htrail)
    | @cons b next as parts hb hparts =>
      have hrow := Row.cons (.intro hlead ha blank_nil) (ih (List.cons_ne_nil _ _))
      rw [List.intercalate_cons_cons]
      simpa using hrow

theorem exists_listed_bracketed {as : List α} {parts : List String}
    (h : List.Forall₂ (fun a part => P a part.toList) as parts) (left right : String)
    (depth : Nat) :
    ∃ cs, Listed P as cs ∧
      (bracketed left right depth parts).toList = left.toList ++ (cs ++ right.toList) := by
  by_cases hempty : parts = []
  · subst hempty
    obtain rfl := List.forall₂_nil_right_iff.1 h
    exact ⟨[], .empty blank_nil, by simp [bracketed]⟩
  · have hparts : List.Forall₂ P as (parts.map String.toList) := by
      rwa [List.forall₂_map_right_iff]
    have hrow := row_intercalate hparts (by simpa using hempty) (blank_newline (depth + 1))
      (blank_newline depth)
    refine ⟨_, .row hrow, ?_⟩
    have hcomma : ("," ++ newline (depth + 1)).toList = ',' :: (newline (depth + 1)).toList := by
      simp
    rw [bracketed, if_neg (by simpa using hempty)]
    simp only [String.toList_append, String.toList_intercalate, hcomma, List.append_assoc]

end Rows

/-! ## Layouts -/

/-- An array that announces the number of its items stands between brackets. -/
theorem sequence_length (depth : Nat) (items : List Json) :
    sequence items.length depth (layoutItems (depth + 1) items) =
      bracketed "[" "]" depth (layoutItems (depth + 1) items) := by
  cases items <;> rfl

mutual

/-- **Layouts.** The layout of a value is a way to write it. -/
theorem written_layout (depth : Nat) :
    ∀ j : Json, j.Announced → Written j.value (layout depth j).toList
  | null, _ => by simpa [value, layout] using Written.null
  | bool true, _ => by simpa [value, layout] using Written.true
  | bool false, _ => by simpa [value, layout] using Written.false
  | number n, _ => .number (numberText_toString n)
  | string s, _ => .string (stringText_quote s)
  | array announced items, h => by
    obtain ⟨hlen, hitems⟩ : announced = items.length ∧ AnnouncedItems items := by
      rwa [Announced] at h
    obtain ⟨cs, hlisted, heq⟩ :=
      exists_listed_bracketed (written_layoutItems (depth + 1) items hitems) "[" "]" depth
    rw [value, layout, hlen, sequence_length, heq]
    exact .array hlisted
  | object members, h => by
    have hmembers : AnnouncedMembers members := by rwa [Announced] at h
    obtain ⟨cs, hlisted, heq⟩ :=
      exists_listed_bracketed (member_layoutMembers (depth + 1) members hmembers) "\x7b" "\x7d"
        depth
    rw [value, layout, heq]
    exact .object hlisted

theorem written_layoutItems (depth : Nat) : ∀ items : List Json, AnnouncedItems items →
    List.Forall₂ (fun v part => Written v part.toList) (valueItems items)
      (layoutItems depth items)
  | [], _ => .nil
  | item :: items, h => .cons (written_layout depth item h.1) (written_layoutItems depth items h.2)

theorem member_layoutMembers (depth : Nat) :
    ∀ members : List (String × Json), AnnouncedMembers members →
      List.Forall₂ (fun m part => Member Written m part.toList) (valueMembers members)
        (layoutMembers depth members)
  | [], _ => .nil
  | (key, member) :: members, h => by
    have hmember : Member Written (key, member.value)
        ((quote key).toList ++ ([] ++ ':' :: ([' '] ++ (layout depth member).toList))) :=
      .intro (stringText_quote key) blank_nil (blank_replicate 1)
        (written_layout depth member h.1)
    refine .cons ?_ (member_layoutMembers depth members h.2)
    simpa using hmember

end

/-- **Documents.** A document is the text of its value, and of no other. -/
theorem isText_document_iff {j : Json} (hj : j.Announced) {v : Value} :
    IsText v j.document.toList ↔ v = j.value := by
  have htext : IsText j.value j.document.toList := by
    rw [document, String.toList_append]
    exact (written_layout 0 j hj).isText (blank_newline 0)
  constructor
  · intro h
    exact h.unique htext
  · rintro rfl
    exact htext

end Spirv.Json
