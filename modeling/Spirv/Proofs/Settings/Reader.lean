/-
  Reading settings documents: what is accepted, and with which values.

  Each reader accepts exactly one part of the grammar, and stops behind it: values
  (`byteOrderValue_eq_ok_iff`, `flagValue_eq_ok_iff`), the stream (`streamValue_eq_ok_iff`), the
  root (`rootValue_eq_ok_iff`).  The members of a stream object come in any order; one step of
  their reader takes a field that the draft lacks (`streamMembers_step`), so that a whole
  run takes distinct fields (`streamMembers_eq_ok_iff`); the elements of a stream array have
  their places (`streamElements_eq_ok_iff`).

  Main result: `ofText_document`.
-/
import Spirv.Proofs.Settings.Draft

namespace Spirv.Settings

/-! ## Values -/

theorem variant_eq_ok_iff {order : ByteOrder} {cs rest : List Char} :
    variant cs = .ok (order, rest) ↔ Reads [.string order.name] cs rest := by
  unfold variant
  rw [bind_eq_ok_iff]
  constructor
  · rintro ⟨⟨name, mid⟩, hstring, h⟩
    rw [string_eq_ok_iff] at hstring
    simp only at h
    split_ifs at h with hlittle hbig
    · cases h
      rw [← hlittle]
      exact hstring
    · cases h
      rw [← hbig]
      exact hstring
  · intro h
    refine ⟨(order.name, rest), string_eq_ok_iff.2 h, ?_⟩
    cases order <;> rfl

theorem byteOrderValue_eq_ok_iff {order : ByteOrder} {cs rest : List Char} :
    byteOrderValue cs = .ok (order, rest) ↔
      ∃ toks, (Field.byteOrder order).Value toks ∧ Reads toks cs rest := by
  unfold byteOrderValue
  constructor
  · intro h
    split at h
    · rename_i tail hcs
      simp only [bind_eq_ok_iff] at h
      obtain ⟨⟨found, mid₁⟩, hname, mid₂, hcolon, mid₃, hnull, mid₄, hbrace, hok⟩ := h
      obtain ⟨rfl, rfl⟩ := Prod.mk.inj (Except.ok.inj hok)
      refine ⟨_, .object found, reads_mark_iff.2 ⟨tail, hcs, ?_⟩⟩
      simp only [reads_cons_cons_iff]
      exact ⟨mid₁, variant_eq_ok_iff.1 hname, mid₂, expect_mark_eq_ok_iff.1 hcolon, mid₃,
        expectWord_null_eq_ok_iff.1 hnull, expect_mark_eq_ok_iff.1 hbrace⟩
    · exact ⟨_, .name order, reads_skipBlank_iff.1 (variant_eq_ok_iff.1 h)⟩
  · rintro ⟨toks, hvalue, h⟩
    cases hvalue with
    | name =>
      obtain ⟨mid, mid', hcs, -⟩ := reads_string_iff.1 h
      have hskip := reads_skipBlank_iff.2 h
      rw [hcs] at hskip ⊢
      exact variant_eq_ok_iff.2 hskip
    | object =>
      obtain ⟨tail, hcs, h⟩ := reads_mark_iff.1 h
      simp only [reads_cons_cons_iff] at h
      obtain ⟨mid₁, hname, mid₂, hcolon, mid₃, hnull, hbrace⟩ := h
      rw [hcs]
      simp only [Mark.char, bind_eq_ok_iff]
      exact ⟨(order, mid₁), variant_eq_ok_iff.2 hname, mid₂, expect_mark_eq_ok_iff.2 hcolon,
        mid₃, expectWord_null_eq_ok_iff.2 hnull, rest, expect_mark_eq_ok_iff.2 hbrace, rfl⟩

/-! ## Members -/

/-- The members of an object, with what separates them. -/
def members (first : Bool) : List (List Token) → List Token
  | [] => []
  | piece :: pieces => lead first ++ (piece ++ members false pieces)

theorem members_true (pieces : List (List Token)) : members true pieces = separated pieces := by
  have hfalse : ∀ (piece : List Token) (pieces : List (List Token)),
      piece ++ members false pieces = separated (piece :: pieces) := by
    intro piece pieces
    induction pieces generalizing piece with
    | nil => simp [members, separated]
    | cons next pieces ih =>
      rw [members, ih]
      simp [lead, separated]
  cases pieces with
  | nil => rfl
  | cons piece pieces => exact hfalse piece pieces

theorem reads_members_cons_iff {first : Bool} {piece : List Token} {pieces : List (List Token)}
    {tail : List Token} {cs rest : List Char} :
    Reads (members first (piece :: pieces) ++ tail) cs rest ↔ ∃ mid,
      Reads (lead first ++ piece) cs mid ∧ Reads (members false pieces ++ tail) mid rest := by
  have hsplit : members first (piece :: pieces) ++ tail =
      (lead first ++ piece) ++ (members false pieces ++ tail) := by
    simp [members]
  rw [hsplit, reads_append_iff]

theorem reads_member_iff {first : Bool} {key : String} {value : List Token}
    {cs rest : List Char} :
    Reads (lead first ++ .string key :: .mark .colon :: value) cs rest ↔ ∃ mid mid',
      Reads (lead first ++ [.string key]) cs mid ∧ Reads [.mark .colon] mid mid' ∧
        Reads value mid' rest := by
  have hsplit : lead first ++ .string key :: .mark .colon :: value =
      (lead first ++ [.string key]) ++ ([.mark .colon] ++ value) := by
    simp
  rw [hsplit, reads_append_iff]
  simp only [@reads_append_iff [.mark .colon], exists_and_left]

/-- Behind the key of a byte order that the draft lacks, its value is read. -/
theorem streamMembers_of_byteOrder {d : Draft} {first : Bool} {toks : List Token}
    {cs rest : List Char} (hlacks : d.byteOrder = none)
    (hreads : Reads (lead first ++ .string "endianness" :: .mark .colon :: toks) cs rest) :
    ∃ mid, Reads toks mid rest ∧ streamMembers d first cs = (do
      let (order, cs) ← byteOrderValue mid
      streamMembers { d with byteOrder := some order } false cs) := by
  obtain ⟨mid₁, mid, hkey, hcolon, hvalue⟩ := reads_member_iff.1 hreads
  have hcolon : expect ':' mid₁ = .ok mid := expect_mark_eq_ok_iff.2 hcolon
  refine ⟨mid, hvalue, ?_⟩
  rw [streamMembers, key?_eq_ok_some_iff.2 hkey]
  simp only [if_true]
  split
  · rename_i hpresent
    cases hpresent.symm.trans hlacks
  · rw [hcolon, ok_bind]

/-- Behind the key of a truth value that the draft lacks, its value is read. -/
theorem streamMembers_of_moduleHeader {d : Draft} {first : Bool} {toks : List Token}
    {cs rest : List Char} (hlacks : d.moduleHeader = none)
    (hreads : Reads (lead first ++ .string "module_header" :: .mark .colon :: toks) cs rest) :
    ∃ mid, Reads toks mid rest ∧ streamMembers d first cs = (do
      let (flag, cs) ← flagValue mid
      streamMembers { d with moduleHeader := some flag } false cs) := by
  obtain ⟨mid₁, mid, hkey, hcolon, hvalue⟩ := reads_member_iff.1 hreads
  have hcolon : expect ':' mid₁ = .ok mid := expect_mark_eq_ok_iff.2 hcolon
  refine ⟨mid, hvalue, ?_⟩
  rw [streamMembers, key?_eq_ok_some_iff.2 hkey]
  simp only [String.reduceEq, if_false, if_true]
  split
  · rename_i hpresent
    cases hpresent.symm.trans hlacks
  · rw [hcolon, ok_bind]

/-- A field that the draft lacks is taken, and reading goes on behind it. -/
theorem streamMembers_of_member {d : Draft} {first : Bool} {field : Field} {toks : List Token}
    {cs mid : List Char} (hlacks : d.Lacks field) (hmember : field.Member toks)
    (hreads : Reads (lead first ++ toks) cs mid) :
    streamMembers d first cs = streamMembers (d.insert field) false mid := by
  obtain ⟨value, hvalue, rfl⟩ := hmember
  cases field with
  | byteOrder order =>
    obtain ⟨mid', hreads, hrun⟩ := streamMembers_of_byteOrder hlacks hreads
    rw [hrun, byteOrderValue_eq_ok_iff.2 ⟨value, hvalue, hreads⟩, ok_bind]
    rfl
  | moduleHeader flag =>
    obtain ⟨mid', hreads, hrun⟩ := streamMembers_of_moduleHeader hlacks hreads
    cases hvalue
    rw [hrun, flagValue_eq_ok_iff.2 hreads, ok_bind]
    rfl

/-- Fresh fields are taken one after the other, and reading goes on behind them. -/
theorem streamMembers_of_members {d : Draft} {first : Bool} {fields : List Field}
    {pieces : List (List Token)} {tail : List Token} {cs rest : List Char}
    (hfresh : d.Fresh fields) (hpieces : List.Forall₂ Field.Member fields pieces)
    (hreads : Reads (members first pieces ++ tail) cs rest) :
    ∃ mid, Reads tail mid rest ∧
      streamMembers d first cs =
        streamMembers (fields.foldl Draft.insert d) (first && fields.isEmpty) mid := by
  induction hpieces generalizing d first cs with
  | nil => exact ⟨cs, hreads, by rw [List.isEmpty_nil, Bool.and_true, List.foldl_nil]⟩
  | cons hmember _ ih =>
    rename_i field toks fields pieces _
    obtain ⟨hlacks, hfresh⟩ := Draft.fresh_cons_iff.1 hfresh
    obtain ⟨mid₁, htoks, hrest⟩ := reads_members_cons_iff.1 hreads
    obtain ⟨mid, htail, hrun⟩ := ih hfresh hrest
    refine ⟨mid, htail, ?_⟩
    rw [streamMembers_of_member hlacks hmember htoks, hrun, List.foldl_cons, List.isEmpty_cons,
      Bool.false_and, Bool.and_false]

/-- What comes first in the rest of a stream object is its end or a field that is not there
    yet. -/
theorem streamMembers_step {d d' : Draft} {first : Bool} {cs rest : List Char} :
    streamMembers d first cs = .ok (d', rest) ↔
      (d' = d ∧ Reads [.mark .rightBrace] cs rest) ∨
        ∃ field toks mid, d.Lacks field ∧ field.Member toks ∧ Reads (lead first ++ toks) cs mid ∧
          streamMembers (d.insert field) false mid = .ok (d', rest) := by
  constructor
  · intro h
    rw [streamMembers] at h
    split at h
    · cases h
    · rename_i mid hkey
      obtain ⟨rfl, rfl⟩ := Prod.mk.inj (Except.ok.inj h)
      exact .inl ⟨rfl, key?_eq_ok_none_iff.1 hkey⟩
    · rename_i key mid hkey
      rw [key?_eq_ok_some_iff] at hkey
      right
      split_ifs at h with hname hname'
      · split at h
        · cases h
        · rename_i hlacks
          simp only [bind_eq_ok_iff] at h
          obtain ⟨mid₁, hcolon, ⟨order, mid₂⟩, hvalue, hrest⟩ := h
          obtain ⟨value, hform, hreads⟩ := byteOrderValue_eq_ok_iff.1 hvalue
          subst hname
          refine ⟨.byteOrder order, _, mid₂, hlacks, ⟨value, hform, rfl⟩, ?_, hrest⟩
          exact reads_member_iff.2 ⟨mid, mid₁, hkey, expect_mark_eq_ok_iff.1 hcolon, hreads⟩
      · split at h
        · cases h
        · rename_i hlacks
          simp only [bind_eq_ok_iff] at h
          obtain ⟨mid₁, hcolon, ⟨flag, mid₂⟩, hvalue, hrest⟩ := h
          have hreads := flagValue_eq_ok_iff.1 hvalue
          subst hname'
          refine ⟨.moduleHeader flag, _, mid₂, hlacks, ⟨_, .flag flag, rfl⟩, ?_, hrest⟩
          exact reads_member_iff.2 ⟨mid, mid₁, hkey, expect_mark_eq_ok_iff.1 hcolon, hreads⟩
  · rintro (⟨rfl, hbrace⟩ | ⟨field, toks, mid, hlacks, hmember, hreads, hrest⟩)
    · rw [streamMembers, key?_eq_ok_none_iff.2 hbrace]
    · rwa [streamMembers_of_member hlacks hmember hreads]

/-- **Members.** Reading takes distinct fields, in any order, that the draft lacks, up to the end
    of the object, and adds them to the draft. -/
theorem streamMembers_eq_ok_iff {d d' : Draft} {first : Bool} {cs rest : List Char} :
    streamMembers d first cs = .ok (d', rest) ↔ ∃ fields pieces, d.Fresh fields ∧
      List.Forall₂ Field.Member fields pieces ∧
      Reads (members first pieces ++ [.mark .rightBrace]) cs rest ∧
      d' = fields.foldl Draft.insert d := by
  constructor
  · intro h
    -- Each key that is read is one that the draft lacked, so fewer are absent after it.
    induction habsent : d.absent using Nat.strong_induction_on generalizing d first cs with
    | _ n ih =>
      obtain ⟨rfl, hbrace⟩ | ⟨field, toks, mid, hlacks, hmember, hreads, hrest⟩ :=
        streamMembers_step.1 h
      · exact ⟨[], [], d'.fresh_nil, .nil, hbrace, rfl⟩
      · have hlt := Draft.absent_insert_lt hlacks
        obtain ⟨fields, pieces, hfresh, hpieces, hreads', hd'⟩ := ih _ (by omega) hrest rfl
        exact ⟨field :: fields, toks :: pieces, Draft.fresh_cons_iff.2 ⟨hlacks, hfresh⟩,
          .cons hmember hpieces, reads_members_cons_iff.2 ⟨mid, hreads, hreads'⟩, hd'⟩
  · rintro ⟨fields, pieces, hfresh, hpieces, hreads, rfl⟩
    obtain ⟨mid, hbrace, hrun⟩ := streamMembers_of_members hfresh hpieces hreads
    rw [hrun]
    exact streamMembers_step.2 (.inl ⟨rfl, hbrace⟩)

/-! ## Elements -/

@[simp] theorem expect_skipBlank (c : Char) (cs : List Char) :
    expect c (skipBlank cs) = expect c cs := by
  rw [expect, expect, skipBlank_skipBlank]

@[simp] theorem byteOrderValue_skipBlank (cs : List Char) :
    byteOrderValue (skipBlank cs) = byteOrderValue cs := by
  rw [byteOrderValue, byteOrderValue, skipBlank_skipBlank]

@[simp] theorem streamValue_skipBlank (cs : List Char) :
    streamValue (skipBlank cs) = streamValue cs := by
  rw [streamValue, streamValue, skipBlank_skipBlank]

theorem not_rightBracket_of_byteOrderValue {cs rest : List Char} {order : ByteOrder}
    (h : byteOrderValue cs = .ok (order, rest)) (tail : List Char) :
    skipBlank cs ≠ ']' :: tail := by
  obtain ⟨toks, hvalue, hreads⟩ := byteOrderValue_eq_ok_iff.1 h
  cases hvalue with
  | name => exact hreads.skipBlank_ne_rightBracket (by simp) tail
  | object => exact hreads.skipBlank_ne_rightBracket (by simp) tail

/-- A stream array ends at once, or behind a byte order, or behind a truth value that follows it. -/
theorem streamElements_step {d : Draft} {cs rest : List Char} :
    streamElements cs = .ok (d, rest) ↔
      (d = {} ∧ Reads [.mark .rightBracket] cs rest) ∨
        ∃ order mid, byteOrderValue cs = .ok (order, mid) ∧
          ((d = ⟨some order, none⟩ ∧ Reads [.mark .rightBracket] mid rest) ∨
            ∃ flag, d = ⟨some order, some flag⟩ ∧
              Reads [.mark .comma, .flag flag, .mark .rightBracket] mid rest) := by
  unfold streamElements
  constructor
  · intro h
    split at h
    · rename_i tail hcs
      obtain ⟨rfl, rfl⟩ := Prod.mk.inj (Except.ok.inj h)
      exact .inl ⟨rfl, reads_mark_iff.2 ⟨tail, hcs, .nil tail⟩⟩
    · rw [byteOrderValue_skipBlank] at h
      obtain ⟨⟨order, mid⟩, hvalue, h⟩ := bind_eq_ok_iff.1 h
      refine .inr ⟨order, mid, hvalue, ?_⟩
      simp only at h
      split at h
      · rename_i tail hmid
        simp only [bind_eq_ok_iff] at h
        obtain ⟨⟨flag, mid'⟩, hflag, rest', hbracket, hok⟩ := h
        obtain ⟨rfl, rfl⟩ := Prod.mk.inj (Except.ok.inj hok)
        refine .inr ⟨flag, rfl, reads_mark_iff.2 ⟨tail, hmid, ?_⟩⟩
        exact reads_cons_cons_iff.2
          ⟨mid', flagValue_eq_ok_iff.1 hflag, expect_mark_eq_ok_iff.1 hbracket⟩
      · rw [expect_skipBlank, bind_eq_ok_iff] at h
        obtain ⟨rest', hbracket, hok⟩ := h
        obtain ⟨rfl, rfl⟩ := Prod.mk.inj (Except.ok.inj hok)
        exact .inl ⟨rfl, expect_mark_eq_ok_iff.1 hbracket⟩
  · rintro (⟨rfl, hbracket⟩ | ⟨order, mid, hvalue, h⟩)
    · obtain ⟨tail, hcs, hnil⟩ := reads_mark_iff.1 hbracket
      obtain rfl := reads_nil_iff.1 hnil
      rw [hcs]
      rfl
    · split
      · rename_i hcs
        exact absurd hcs (not_rightBracket_of_byteOrderValue hvalue _)
      rw [byteOrderValue_skipBlank]
      refine bind_eq_ok_iff.2 ⟨(order, mid), hvalue, ?_⟩
      obtain ⟨rfl, hbracket⟩ | ⟨flag, rfl, hcomma⟩ := h
      · obtain ⟨_, hmid, -⟩ := reads_mark_iff.1 hbracket
        simp only
        split
        · rename_i hcomma
          cases hcomma.symm.trans hmid
        · rw [expect_skipBlank]
          exact bind_eq_ok_iff.2 ⟨rest, expect_mark_eq_ok_iff.2 hbracket, rfl⟩
      · obtain ⟨tail, hmid, hflag⟩ := reads_mark_iff.1 hcomma
        obtain ⟨mid', hflag, hbracket⟩ := reads_cons_cons_iff.1 hflag
        simp only [hmid, Mark.char, bind_eq_ok_iff]
        exact ⟨(flag, mid'), flagValue_eq_ok_iff.2 hflag, rest,
          expect_mark_eq_ok_iff.2 hbracket, rfl⟩

/-- **Elements.** Reading takes the values of the first fields, up to the end of the array. -/
theorem streamElements_eq_ok_iff {d : Draft} {cs rest : List Char} :
    streamElements cs = .ok (d, rest) ↔ ∃ fields pieces,
      fields.map Field.key <+: ["endianness", "module_header"] ∧
      List.Forall₂ Field.Value fields pieces ∧
      Reads (separated pieces ++ [.mark .rightBracket]) cs rest ∧
      d = fields.foldl Draft.insert {} := by
  have hone : ∀ value : List Token,
      separated [value] ++ [.mark .rightBracket] = value ++ [.mark .rightBracket] := by
    intro value
    simp [separated]
  have htwo : ∀ (value : List Token) (flag : Bool),
      separated [value, [.flag flag]] ++ [.mark .rightBracket] =
        value ++ [.mark .comma, .flag flag, .mark .rightBracket] := by
    intro value flag
    simp [separated]
  rw [streamElements_step]
  constructor
  · rintro (⟨rfl, hbracket⟩ | ⟨order, mid, hvalue, h⟩)
    · exact ⟨[], [], List.nil_prefix, .nil, hbracket, rfl⟩
    obtain ⟨value, hform, hreads⟩ := byteOrderValue_eq_ok_iff.1 hvalue
    obtain ⟨rfl, hbracket⟩ | ⟨flag, rfl, hcomma⟩ := h
    · refine ⟨[.byteOrder order], [value], map_key_prefix_iff.2 (.inr (.inl ⟨order, rfl⟩)),
        .cons hform .nil, ?_, rfl⟩
      rw [hone, reads_append_iff]
      exact ⟨mid, hreads, hbracket⟩
    · refine ⟨[.byteOrder order, .moduleHeader flag], [value, [.flag flag]],
        map_key_prefix_iff.2 (.inr (.inr ⟨order, flag, rfl⟩)),
        .cons hform (.cons (.flag flag) .nil), ?_, rfl⟩
      rw [htwo, reads_append_iff]
      exact ⟨mid, hreads, hcomma⟩
  · rintro ⟨fields, pieces, hplaces, hpieces, hreads, rfl⟩
    obtain rfl | ⟨order, rfl⟩ | ⟨order, flag, rfl⟩ := map_key_prefix_iff.1 hplaces
    · obtain rfl := List.forall₂_nil_left_iff.1 hpieces
      exact .inl ⟨rfl, hreads⟩
    · obtain ⟨value, _, hform, hnil, rfl⟩ := List.forall₂_cons_left_iff.1 hpieces
      obtain rfl := List.forall₂_nil_left_iff.1 hnil
      rw [hone, reads_append_iff] at hreads
      obtain ⟨mid, hreads, hbracket⟩ := hreads
      exact .inr ⟨order, mid, byteOrderValue_eq_ok_iff.2 ⟨value, hform, hreads⟩,
        .inl ⟨rfl, hbracket⟩⟩
    · obtain ⟨value, _, hform, htail, rfl⟩ := List.forall₂_cons_left_iff.1 hpieces
      obtain ⟨_, _, hflag, hnil, rfl⟩ := List.forall₂_cons_left_iff.1 htail
      obtain rfl := List.forall₂_nil_left_iff.1 hnil
      cases hflag
      rw [htwo, reads_append_iff] at hreads
      obtain ⟨mid, hreads, hcomma⟩ := hreads
      exact .inr ⟨order, mid, byteOrderValue_eq_ok_iff.2 ⟨value, hform, hreads⟩,
        .inr ⟨flag, rfl, hcomma⟩⟩

/-! ## The stream -/

theorem streamValue_eq_ok_iff {settings : Settings} {cs rest : List Char} :
    streamValue cs = .ok (settings, rest) ↔ ∃ fields toks, StreamForm fields toks ∧
      Reads toks cs rest ∧ settings = settingsOf fields := by
  unfold streamValue
  constructor
  · intro h
    split at h
    · rename_i tail hcs
      obtain ⟨⟨d, mid⟩, hmembers, hok⟩ := bind_eq_ok_iff.1 h
      obtain ⟨rfl, rfl⟩ := Prod.mk.inj (Except.ok.inj hok)
      obtain ⟨fields, pieces, hfresh, hpieces, hreads, rfl⟩ := streamMembers_eq_ok_iff.1 hmembers
      rw [members_true] at hreads
      exact ⟨fields, _, .object hfresh.1 hpieces, reads_mark_iff.2 ⟨tail, hcs, hreads⟩, rfl⟩
    · rename_i tail hcs
      obtain ⟨⟨d, mid⟩, helements, hok⟩ := bind_eq_ok_iff.1 h
      obtain ⟨rfl, rfl⟩ := Prod.mk.inj (Except.ok.inj hok)
      obtain ⟨fields, pieces, hplaces, hpieces, hreads, rfl⟩ :=
        streamElements_eq_ok_iff.1 helements
      exact ⟨fields, _, .array hplaces hpieces, reads_mark_iff.2 ⟨tail, hcs, hreads⟩, rfl⟩
    · cases h
  · rintro ⟨fields, _, hform, hreads, rfl⟩
    cases hform with
    | object hdistinct hpieces =>
      obtain ⟨tail, hcs, hreads⟩ := reads_mark_iff.1 hreads
      rw [← members_true] at hreads
      have hfresh := Draft.fresh_empty hdistinct
      rw [hcs]
      exact bind_eq_ok_iff.2
        ⟨_, streamMembers_eq_ok_iff.2 ⟨fields, _, hfresh, hpieces, hreads, rfl⟩, rfl⟩
    | array hplaces hpieces =>
      obtain ⟨tail, hcs, hreads⟩ := reads_mark_iff.1 hreads
      rw [hcs]
      exact bind_eq_ok_iff.2
        ⟨_, streamElements_eq_ok_iff.2 ⟨fields, _, hplaces, hpieces, hreads, rfl⟩, rfl⟩

/-! ## The root -/

theorem reads_stream_iff {value : List Token} {cs rest : List Char} :
    Reads (.string "stream" :: .mark .colon :: value) cs rest ↔ ∃ mid mid',
      Reads [.string "stream"] cs mid ∧ Reads [.mark .colon] mid mid' ∧ Reads value mid' rest :=
  @reads_member_iff true "stream" value cs rest

/-- Behind the key of the stream its value is read, and then the end of the root. -/
theorem rootMembers_of_stream {toks : List Token} {cs rest : List Char}
    (hreads : Reads (.string "stream" :: .mark .colon :: toks) cs rest) :
    ∃ mid, Reads toks mid rest ∧ rootMembers cs = (do
      let (settings, cs) ← streamValue mid
      match ← key? false cs with
      | (none, cs) => .ok (settings, cs)
      | (some key, cs) =>
        if key = "stream" then .error (.misplacedName (.duplicateField key) (leave cs))
        else .error (.misplacedName (.unknownField key .document) (leave cs))) := by
  obtain ⟨mid₁, mid, hkey, hcolon, hvalue⟩ := reads_stream_iff.1 hreads
  have hkey : key? true cs = .ok (some "stream", mid₁) := key?_eq_ok_some_iff.2 hkey
  have hcolon : expect ':' mid₁ = .ok mid := expect_mark_eq_ok_iff.2 hcolon
  refine ⟨mid, hvalue, ?_⟩
  unfold rootMembers
  rw [hkey, ok_bind]
  dsimp only
  rw [if_pos rfl, hcolon]
  rfl

theorem rootMembers_eq_ok_iff {settings : Settings} {cs rest : List Char} :
    rootMembers cs = .ok (settings, rest) ↔
      (settings = {} ∧ Reads [.mark .rightBrace] cs rest) ∨
        ∃ fields toks, StreamForm fields toks ∧ settings = settingsOf fields ∧
          Reads (.string "stream" :: .mark .colon :: (toks ++ [.mark .rightBrace])) cs rest := by
  unfold rootMembers
  constructor
  · intro h
    obtain ⟨⟨found, mid⟩, hkey, h⟩ := bind_eq_ok_iff.1 h
    cases found with
    | none =>
      obtain ⟨rfl, rfl⟩ := Prod.mk.inj (Except.ok.inj h)
      exact .inl ⟨rfl, key?_eq_ok_none_iff.1 hkey⟩
    | some key =>
      simp only at h
      split_ifs at h with hstream
      subst hstream
      simp only [bind_eq_ok_iff] at h
      obtain ⟨mid₁, hcolon, ⟨settings', mid₂⟩, hvalue, ⟨found, mid₃⟩, hnext, h⟩ := h
      cases found with
      | some key =>
        simp only at h
        split_ifs at h
      | none =>
        obtain ⟨rfl, rfl⟩ := Prod.mk.inj (Except.ok.inj h)
        obtain ⟨fields, toks, hform, hreads, rfl⟩ := streamValue_eq_ok_iff.1 hvalue
        refine .inr ⟨fields, toks, hform, rfl, ?_⟩
        refine reads_stream_iff.2 ⟨mid, mid₁, key?_eq_ok_some_iff.1 hkey,
          expect_mark_eq_ok_iff.1 hcolon, reads_append_iff.2 ⟨mid₂, hreads, ?_⟩⟩
        exact key?_eq_ok_none_iff.1 hnext
  · rintro (⟨rfl, hbrace⟩ | ⟨fields, toks, hform, rfl, hreads⟩)
    · exact bind_eq_ok_iff.2 ⟨_, key?_eq_ok_none_iff.2 hbrace, rfl⟩
    · obtain ⟨mid, hreads, hrun⟩ := rootMembers_of_stream hreads
      obtain ⟨mid', hreads, hbrace⟩ := reads_append_iff.1 hreads
      have hvalue : streamValue mid = .ok (settingsOf fields, mid') :=
        streamValue_eq_ok_iff.2 ⟨fields, toks, hform, hreads, rfl⟩
      have hend : key? false mid' = .ok (none, rest) := key?_eq_ok_none_iff.2 hbrace
      refine hrun.trans (bind_eq_ok_iff.2 ⟨_, hvalue, ?_⟩)
      exact bind_eq_ok_iff.2 ⟨_, hend, rfl⟩

theorem rootElements_eq_ok_iff {settings : Settings} {cs rest : List Char} :
    rootElements cs = .ok (settings, rest) ↔
      (settings = {} ∧ Reads [.mark .rightBracket] cs rest) ∨
        ∃ fields toks, StreamForm fields toks ∧ settings = settingsOf fields ∧
          Reads (toks ++ [.mark .rightBracket]) cs rest := by
  unfold rootElements
  constructor
  · intro h
    split at h
    · rename_i tail hcs
      obtain ⟨rfl, rfl⟩ := Prod.mk.inj (Except.ok.inj h)
      exact .inl ⟨rfl, reads_mark_iff.2 ⟨tail, hcs, .nil tail⟩⟩
    · simp only [streamValue_skipBlank, bind_eq_ok_iff] at h
      obtain ⟨⟨settings', mid⟩, hvalue, mid', hbracket, hok⟩ := h
      obtain ⟨rfl, rfl⟩ := Prod.mk.inj (Except.ok.inj hok)
      obtain ⟨fields, toks, hform, hreads, rfl⟩ := streamValue_eq_ok_iff.1 hvalue
      refine .inr ⟨fields, toks, hform, rfl, ?_⟩
      exact reads_append_iff.2 ⟨mid, hreads, expect_mark_eq_ok_iff.1 hbracket⟩
  · rintro (⟨rfl, hbracket⟩ | ⟨fields, toks, hform, rfl, hreads⟩)
    · obtain ⟨tail, hcs, hnil⟩ := reads_mark_iff.1 hbracket
      obtain rfl := reads_nil_iff.1 hnil
      rw [hcs]
      rfl
    · obtain ⟨mid, hreads, hbracket⟩ := reads_append_iff.1 hreads
      split
      · rename_i tail hcs
        obtain ⟨mark, toks', rfl, hmark⟩ := hform.exists_mark
        exact absurd hcs (hreads.skipBlank_ne_rightBracket (by simpa using hmark) tail)
      · simp only [streamValue_skipBlank, bind_eq_ok_iff]
        exact ⟨_, streamValue_eq_ok_iff.2 ⟨fields, toks, hform, hreads, rfl⟩, rest,
          expect_mark_eq_ok_iff.2 hbracket, rfl⟩

theorem rootValue_eq_ok_iff {settings : Settings} {cs rest : List Char} :
    rootValue cs = .ok (settings, rest) ↔ ∃ fields toks, RootForm fields toks ∧
      Reads toks cs rest ∧ settings = settingsOf fields := by
  unfold rootValue
  constructor
  · intro h
    split at h
    · rename_i tail hcs
      obtain ⟨rfl, hbrace⟩ | ⟨fields, toks, hform, rfl, hreads⟩ := rootMembers_eq_ok_iff.1 h
      · exact ⟨[], _, .emptyObject, reads_mark_iff.2 ⟨tail, hcs, hbrace⟩, rfl⟩
      · exact ⟨fields, _, .object hform, reads_mark_iff.2 ⟨tail, hcs, hreads⟩, rfl⟩
    · rename_i tail hcs
      obtain ⟨rfl, hbracket⟩ | ⟨fields, toks, hform, rfl, hreads⟩ := rootElements_eq_ok_iff.1 h
      · exact ⟨[], _, .emptyArray, reads_mark_iff.2 ⟨tail, hcs, hbracket⟩, rfl⟩
      · exact ⟨fields, _, .array hform, reads_mark_iff.2 ⟨tail, hcs, hreads⟩, rfl⟩
    · cases h
  · rintro ⟨fields, _, hform, hreads, rfl⟩
    cases hform with
    | emptyObject =>
      obtain ⟨tail, hcs, hbrace⟩ := reads_mark_iff.1 hreads
      rw [hcs]
      exact rootMembers_eq_ok_iff.2 (.inl ⟨rfl, hbrace⟩)
    | object hform =>
      obtain ⟨tail, hcs, hreads⟩ := reads_mark_iff.1 hreads
      rw [hcs]
      exact rootMembers_eq_ok_iff.2 (.inr ⟨fields, _, hform, rfl, hreads⟩)
    | emptyArray =>
      obtain ⟨tail, hcs, hbracket⟩ := reads_mark_iff.1 hreads
      rw [hcs]
      exact rootElements_eq_ok_iff.2 (.inl ⟨rfl, hbracket⟩)
    | array hform =>
      obtain ⟨tail, hcs, hreads⟩ := reads_mark_iff.1 hreads
      rw [hcs]
      exact rootElements_eq_ok_iff.2 (.inr ⟨fields, _, hform, rfl, hreads⟩)

/-! ## Whole texts -/

theorem parse_eq_ok_iff {text : String} {settings : Settings} :
    parse text = .ok settings ↔
      ∃ fields, Document fields text.toList ∧ settings = settingsOf fields := by
  unfold parse
  constructor
  · intro h
    obtain ⟨⟨settings', rest⟩, hroot, h⟩ := bind_eq_ok_iff.1 h
    simp only at h
    split_ifs at h with hrest
    obtain rfl := Except.ok.inj h
    rw [mapError_eq_ok_iff] at hroot
    obtain ⟨fields, toks, hform, hreads, rfl⟩ := rootValue_eq_ok_iff.1 hroot
    exact ⟨fields, ⟨toks, rest, hform, hreads, isEmpty_skipBlank_iff.1 hrest⟩, rfl⟩
  · rintro ⟨fields, ⟨toks, rest, hform, hreads, hblank⟩, rfl⟩
    have hroot : rootValue text.toList = .ok (settingsOf fields, rest) :=
      rootValue_eq_ok_iff.2 ⟨fields, toks, hform, hreads, rfl⟩
    refine bind_eq_ok_iff.2 ⟨_, mapError_eq_ok_iff.2 hroot, ?_⟩
    exact if_pos (isEmpty_skipBlank_iff.2 hblank)

theorem ofText_eq_ok_iff {text : String} {settings : Settings} :
    ofText text = .ok settings ↔ parse text = .ok settings := by
  unfold ofText
  cases parse text <;> simp

theorem exists_ofText_eq_error_iff {text : String} :
    (∃ cause, ofText text = .error (.settings cause)) ↔ ∀ settings, parse text ≠ .ok settings := by
  unfold ofText
  cases parse text <;> simp

/-- **Documents.** A text is accepted exactly if it is a document, and then the settings hold the
    values that it gives and the defaults elsewhere; every other text is refused with an error
    of the settings.  Two documents that give the same fields mean the same, in whatever order,
    form or spelling they give them. -/
theorem ofText_document (text : String) :
    (∀ settings, ofText text = .ok settings ↔
      ∃ fields, Document fields text.toList ∧ Gives fields settings) ∧
    ((∃ cause, ofText text = .error (.settings cause)) ↔
      ∀ fields, ¬ Document fields text.toList) ∧
    (∀ fields, Document fields text.toList → ∀ (other : String) (fields' : List Field),
      Document fields' other.toList → (∀ field, field ∈ fields ↔ field ∈ fields') →
      ofText other = ofText text) := by
  have haccept : ∀ (text : String) settings, ofText text = .ok settings ↔
      ∃ fields, Document fields text.toList ∧ Gives fields settings := by
    intro text settings
    rw [ofText_eq_ok_iff, parse_eq_ok_iff]
    refine exists_congr fun fields => and_congr_right fun hdocument => ?_
    exact hdocument.gives_iff.symm
  refine ⟨haccept text, ?_, ?_⟩
  · rw [exists_ofText_eq_error_iff]
    constructor
    · intro hrefuse fields hdocument
      exact hrefuse _ (parse_eq_ok_iff.2 ⟨fields, hdocument, rfl⟩)
    · intro hnone settings hparse
      obtain ⟨fields, hdocument, -⟩ := parse_eq_ok_iff.1 hparse
      exact hnone fields hdocument
  · intro fields hdocument other fields' hother hmem
    have hgives : Gives fields (settingsOf fields) := hdocument.gives_iff.2 rfl
    have hgives' : Gives fields' (settingsOf fields) := hgives.of_mem_iff hmem
    rw [(haccept other _).2 ⟨fields', hother, hgives'⟩,
      (haccept text _).2 ⟨fields, hdocument, hgives⟩]

example : ofText "[[\"big\"]]" = .ok ⟨.big, true⟩ := by
  decide +kernel

end Spirv.Settings
