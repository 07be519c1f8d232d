/-
  Names that are out of place in a settings document.

  While a document is read there are places where a name comes next: a key of the document or
  of the stream, of which some keys have been given before, or the name of a byte order.
  `Leads toks place` says that the tokens begin a document and end at the place, and
  `Objection name place cause text` that the name must not stand there, for the cause with the
  wording `text`.

  - fields that are complete are taken and leave no trace but their keys
    (`streamMembers_of_members`, `has_given_iff`);
  - at each place the reader judges the name before it looks at anything behind it
    (`byteOrderValue_of_objection`, `streamMembers_of_objection`, `rootValue_of_objection`);
  - what is appended to a text changes no token before it (`Reads.append`), but behind a key it
    may still be passed before reading stops (`Place.passed`), and so moves the position of the
    error.

  Main statement: the first name that is out of place decides the error but for its position
  (`ofText_misplaced_name`).
-/
import Spirv.Proofs.Settings.Reader

namespace Spirv.Settings

/-! ## Places -/

/-- A place in a document where a name comes next. -/
inductive Place where
  /-- A key of an object that stands for the structure, where some keys have been given. -/
  | key (schema : Schema) (given : List String)
  /-- The name of a byte order. -/
  | byteOrder

/-- What may stand between the beginning of a byte order and its name. -/
inductive OrderLeads : List Token → Prop where
  | name : OrderLeads []
  | object : OrderLeads [.mark .leftBrace]

/-- The fields that have been given, each with the comma behind it. -/
def continued (pieces : List (List Token)) : List Token :=
  pieces.flatMap (· ++ [.mark .comma])

/-- The beginnings of a stream that end at a place. -/
inductive StreamLeads : List Token → Place → Prop where
  /-- The next key of an object, behind fields that have been given once. -/
  | key {fields : List Field} {pieces : List (List Token)}
      (hdistinct : (fields.map Field.key).Nodup) (h : List.Forall₂ Field.Member fields pieces) :
      StreamLeads (.mark .leftBrace :: continued pieces) (.key .stream (fields.map Field.key))
  /-- The byte order in an object that did not give it before. -/
  | member {fields : List Field} {pieces : List (List Token)} {front : List Token}
      (hdistinct : (fields.map Field.key).Nodup) (h : List.Forall₂ Field.Member fields pieces)
      (habsent : "endianness" ∉ fields.map Field.key) (hfront : OrderLeads front) :
      StreamLeads
        (.mark .leftBrace ::
          (continued pieces ++ .string "endianness" :: .mark .colon :: front)) .byteOrder
  /-- The byte order in an array. -/
  | element {front : List Token} (hfront : OrderLeads front) :
      StreamLeads (.mark .leftBracket :: front) .byteOrder

/-- The beginnings of a document that end at a place. -/
inductive Leads : List Token → Place → Prop where
  /-- The first key of the root. -/
  | firstKey : Leads [.mark .leftBrace] (.key .document [])
  /-- The key behind the stream. -/
  | nextKey {fields : List Field} {toks : List Token} (h : StreamForm fields toks) :
      Leads (.mark .leftBrace :: .string "stream" :: .mark .colon :: (toks ++ [.mark .comma]))
        (.key .document ["stream"])
  /-- A place in the stream of an object. -/
  | member {toks : List Token} {place : Place} (h : StreamLeads toks place) :
      Leads (.mark .leftBrace :: .string "stream" :: .mark .colon :: toks) place
  /-- A place in the stream of an array. -/
  | element {toks : List Token} {place : Place} (h : StreamLeads toks place) :
      Leads (.mark .leftBracket :: toks) place

/-- Why the name must not stand at the place: the cause, and its wording. -/
inductive Objection (name : String) : Place → NameError → String → Prop where
  | unknownDocumentField {given : List String} (hstream : name ≠ "stream") :
      Objection name (.key .document given) (.unknownField name .document)
        ("unknown field `" ++ name ++ "`, expected `stream`")
  | unknownStreamField {given : List String} (horder : name ≠ "endianness")
      (hflag : name ≠ "module_header") :
      Objection name (.key .stream given) (.unknownField name .stream)
        ("unknown field `" ++ name ++ "`, expected `endianness` or `module_header`")
  | duplicateField {schema : Schema} {given : List String} (hgiven : name ∈ given) :
      Objection name (.key schema given) (.duplicateField name)
        ("duplicate field `" ++ name ++ "`")
  | unknownVariant (hlittle : name ≠ "little") (hbig : name ≠ "big") :
      Objection name .byteOrder (.unknownVariant name)
        ("unknown variant `" ++ name ++ "`, expected `little` or `big`")

variable {name text : String} {place : Place} {cause : NameError} {cs rest : List Char}

theorem expected_document :
    "`, expected `stream`" = "`, expected " ++ alternatives Schema.document.fields := by
  decide +kernel

theorem expected_stream :
    "`, expected `endianness` or `module_header`" =
      "`, expected " ++ alternatives Schema.stream.fields := by
  decide +kernel

theorem expected_byteOrder :
    "`, expected `little` or `big`" = "`, expected " ++ alternatives ["little", "big"] := by
  decide +kernel

theorem Objection.message_eq (h : Objection name place cause text) : cause.message = text := by
  cases h with
  | unknownDocumentField =>
    rw [expected_document, ← String.append_assoc]
    rfl
  | unknownStreamField =>
    rw [expected_stream, ← String.append_assoc]
    rfl
  | duplicateField => rfl
  | unknownVariant =>
    rw [expected_byteOrder, ← String.append_assoc]
    rfl

/-! ## Where reading stops -/

/-- What is left unread behind a name that is out of place. -/
def Place.left : Place → List Char → List Char
  | key _ _, cs => leave cs
  | byteOrder, cs => cs

/-- What is passed behind a name that is out of place: behind a key, blanks and a brace that
    closes an object; behind the name of a byte order, nothing. -/
def Place.passed : Place → List Char → List Char
  | key _ _, cs => cs.takeWhile isBlank ++ ((skipBlank cs).take 1).filter (· = '}')
  | byteOrder, _ => []

theorem leave_append (cs : List Char) :
    ((skipBlank cs).take 1).filter (· = '}') ++ leave cs = skipBlank cs := by
  unfold leave
  split
  · rename_i rest hcs
    simp [hcs]
  · rename_i hopen
    have hopen : ∀ rest, skipBlank cs ≠ '}' :: rest := hopen
    cases hcs : skipBlank cs with
    | nil => rfl
    | cons c rest =>
      have hc : c ≠ '}' := by
        rintro rfl
        exact hopen rest hcs
      simp [hc]

theorem Place.passed_append_left (place : Place) (cs : List Char) :
    place.passed cs ++ place.left cs = cs := by
  cases place with
  | key schema given =>
    rw [passed, left, List.append_assoc, leave_append]
    exact List.takeWhile_append_dropWhile
  | byteOrder => rfl

/-- The reported position is behind what has been read and what is passed behind it. -/
theorem report_misplacedName (front behind : List Char) :
    (Problem.misplacedName cause (place.left behind)).report (front ++ behind) =
      .misplacedName cause (.behind (front ++ place.passed behind)) := by
  have hsplit : front ++ behind = (front ++ place.passed behind) ++ place.left behind := by
    rw [List.append_assoc, place.passed_append_left]
  have hlength : (front ++ behind).length - (place.left behind).length =
      (front ++ place.passed behind).length := by
    rw [hsplit, List.length_append, Nat.add_sub_cancel]
  rw [Problem.report, hlength, hsplit, List.take_left]

/-! ## Appending to a text -/

/-- What is appended to a text is what tokens at its front leave. -/
theorem Reads.append {toks : List Token} (h : Reads toks cs rest) (behind : List Char) :
    Reads toks (cs ++ behind) (rest ++ behind) := by
  induction h with
  | nil rest => exact .nil _
  | cons hblanks ht _ ih =>
    rw [List.append_assoc, List.append_assoc]
    exact .cons hblanks ht ih

/-! ## Byte orders -/

theorem variant_of_objection (h : Objection name .byteOrder cause text)
    (hname : Reads [.string name] cs rest) : variant cs = .error (.misplacedName cause rest) := by
  cases h with
  | unknownVariant hlittle hbig =>
    unfold variant
    rw [string_eq_ok_iff.2 hname, ok_bind]
    show (if name = "little" then _ else if name = "big" then _ else _) = _
    rw [if_neg hlittle, if_neg hbig]

/-- A byte order is judged by its name, which may stand in an object. -/
theorem byteOrderValue_of_objection {front : List Token} (h : Objection name .byteOrder cause text)
    (hfront : OrderLeads front) (hreads : Reads (front ++ [.string name]) cs rest) :
    byteOrderValue cs = .error (.misplacedName cause rest) := by
  unfold byteOrderValue
  cases hfront with
  | name =>
    obtain ⟨mid, mid', hcs, -⟩ := reads_string_iff.1 hreads
    have hvariant := variant_of_objection h (reads_skipBlank_iff.2 hreads)
    rw [hcs] at hvariant ⊢
    exact hvariant
  | object =>
    obtain ⟨mid, hcs, hname⟩ := reads_mark_iff.1 hreads
    rw [hcs]
    exact bind_eq_error_iff.2 (.inl (variant_of_objection h hname))

/-! ## The stream -/

/-- Between the fields that were given and what comes next there is a comma, unless there are
    no such fields. -/
theorem members_append_lead {fields : List Field} {pieces : List (List Token)}
    (h : List.Forall₂ Field.Member fields pieces) :
    members true pieces ++ lead fields.isEmpty = continued pieces := by
  have hfalse : ∀ pieces : List (List Token),
      members false pieces ++ [.mark .comma] = .mark .comma :: continued pieces := by
    intro pieces
    induction pieces with
    | nil => rfl
    | cons piece pieces ih =>
      rw [members, List.append_assoc, List.append_assoc, ih]
      simp [lead, continued]
  cases h with
  | nil => rfl
  | cons hmember h =>
    rename_i field piece fields pieces
    rw [members, List.append_assoc, List.append_assoc, List.isEmpty_cons]
    show [] ++ (piece ++ (members false pieces ++ [.mark .comma])) = _
    rw [hfalse]
    simp [continued]

/-- Fields that have been given are in the draft, where reading goes on behind them. -/
theorem streamMembers_of_given {fields : List Field} {pieces : List (List Token)}
    {tail : List Token} (hdistinct : (fields.map Field.key).Nodup)
    (hpieces : List.Forall₂ Field.Member fields pieces)
    (hreads : Reads (continued pieces ++ tail) cs rest) :
    ∃ d mid, (∀ field, d.Has field ↔ field ∈ fields) ∧
      Reads (lead fields.isEmpty ++ tail) mid rest ∧
      streamMembers {} true cs = streamMembers d fields.isEmpty mid := by
  have hfresh := Draft.fresh_empty hdistinct
  rw [← members_append_lead hpieces, List.append_assoc] at hreads
  obtain ⟨mid, htail, hrun⟩ := streamMembers_of_members hfresh hpieces hreads
  refine ⟨fields.foldl Draft.insert {}, mid, ?_, htail, hrun⟩
  intro field
  rw [Draft.has_foldl_insert_iff hfresh]
  cases field <;> simp [Draft.Has]

/-- A key is judged before its value. -/
theorem streamMembers_of_objection {d : Draft} {fields : List Field} {first : Bool}
    (hhas : ∀ field, d.Has field ↔ field ∈ fields)
    (h : Objection name (.key .stream (fields.map Field.key)) cause text)
    (hreads : Reads (lead first ++ [.string name]) cs rest) :
    streamMembers d first cs = .error (.misplacedName cause (leave rest)) := by
  rw [streamMembers, key?_eq_ok_some_iff.2 hreads]
  cases h with
  | unknownStreamField horder hflag => simp only [if_neg horder, if_neg hflag]
  | duplicateField hgiven =>
    obtain ⟨field, hfield, rfl⟩ := List.mem_map.1 hgiven
    have hfound := (hhas field).2 hfield
    cases field with
    | byteOrder order =>
      simp only [Field.key, if_true]
      split
      · rfl
      · rename_i hnone
        cases hnone.symm.trans hfound
    | moduleHeader flag =>
      simp only [Field.key, String.reduceEq, if_false, if_true]
      split
      · rfl
      · rename_i hnone
        cases hnone.symm.trans hfound

/-- A byte order that was not given before is judged by its name. -/
theorem streamMembers_of_variant {d : Draft} {first : Bool} {front : List Token}
    (hlacks : d.byteOrder = none) (h : Objection name .byteOrder cause text)
    (hfront : OrderLeads front)
    (hreads : Reads
      (lead first ++ .string "endianness" :: .mark .colon :: (front ++ [.string name])) cs rest) :
    streamMembers d first cs = .error (.misplacedName cause rest) := by
  obtain ⟨mid, hvalue, hrun⟩ := streamMembers_of_byteOrder hlacks hreads
  rw [hrun]
  exact bind_eq_error_iff.2 (.inl (byteOrderValue_of_objection h hfront hvalue))

theorem streamElements_of_objection {front : List Token} (h : Objection name .byteOrder cause text)
    (hfront : OrderLeads front) (hreads : Reads (front ++ [.string name]) cs rest) :
    streamElements cs = .error (.misplacedName cause rest) := by
  have hopen : ∀ tail, skipBlank cs ≠ ']' :: tail := by
    cases hfront with
    | name => exact hreads.skipBlank_ne_rightBracket (by simp)
    | object => exact hreads.skipBlank_ne_rightBracket (by simp)
  unfold streamElements
  split
  · rename_i tail hcs
    exact absurd hcs (hopen tail)
  · rw [byteOrderValue_skipBlank]
    exact bind_eq_error_iff.2 (.inl (byteOrderValue_of_objection h hfront hreads))

theorem streamValue_of_objection {toks : List Token} (hleads : StreamLeads toks place)
    (h : Objection name place cause text) (hreads : Reads (toks ++ [.string name]) cs rest) :
    streamValue cs = .error (.misplacedName cause (place.left rest)) := by
  unfold streamValue
  cases hleads with
  | key hdistinct hpieces =>
    obtain ⟨mid, hcs, hreads⟩ := reads_mark_iff.1 hreads
    obtain ⟨d, mid', hhas, hname, hrun⟩ := streamMembers_of_given hdistinct hpieces hreads
    rw [hcs]
    refine bind_eq_error_iff.2 (.inl ?_)
    rw [hrun]
    exact streamMembers_of_objection hhas h hname
  | member hdistinct hpieces habsent hfront =>
    rw [List.cons_append, List.append_assoc] at hreads
    obtain ⟨mid, hcs, hreads⟩ := reads_mark_iff.1 hreads
    obtain ⟨d, mid', hhas, hname, hrun⟩ := streamMembers_of_given hdistinct hpieces hreads
    have hlacks : d.byteOrder = none := by
      rw [Option.eq_none_iff_forall_ne_some]
      intro order hsome
      exact habsent (List.mem_map.2 ⟨.byteOrder order, (hhas _).1 hsome, rfl⟩)
    rw [hcs]
    refine bind_eq_error_iff.2 (.inl ?_)
    rw [hrun]
    exact streamMembers_of_variant hlacks h hfront hname
  | element hfront =>
    obtain ⟨mid, hcs, hreads⟩ := reads_mark_iff.1 hreads
    rw [hcs]
    exact bind_eq_error_iff.2 (.inl (streamElements_of_objection h hfront hreads))

/-! ## The root -/

/-- A key of the document is judged before its value. -/
theorem rootMembers_of_key (h : Objection name (.key .document []) cause text)
    (hname : Reads [.string name] cs rest) :
    rootMembers cs = .error (.misplacedName cause (leave rest)) := by
  have hkey : key? true cs = .ok (some name, rest) := key?_eq_ok_some_iff.2 hname
  unfold rootMembers
  refine bind_eq_error_iff.2 (.inr ⟨_, hkey, ?_⟩)
  cases h with
  | unknownDocumentField hstream => exact if_neg hstream
  | duplicateField hgiven => cases hgiven

/-- The key behind the stream is judged whatever the stream is. -/
theorem rootMembers_of_next {fields : List Field} {toks : List Token}
    (hform : StreamForm fields toks) (h : Objection name (.key .document ["stream"]) cause text)
    (hreads : Reads
      (.string "stream" :: .mark .colon :: (toks ++ [.mark .comma, .string name])) cs rest) :
    rootMembers cs = .error (.misplacedName cause (leave rest)) := by
  obtain ⟨mid, hreads, hrun⟩ := rootMembers_of_stream hreads
  obtain ⟨mid', hstream, hname⟩ := reads_append_iff.1 hreads
  have hvalue : streamValue mid = .ok (settingsOf fields, mid') :=
    streamValue_eq_ok_iff.2 ⟨fields, toks, hform, hstream, rfl⟩
  have hnext : key? false mid' = .ok (some name, rest) := key?_eq_ok_some_iff.2 hname
  rw [hrun, hvalue, ok_bind]
  refine bind_eq_error_iff.2 (.inr ⟨_, hnext, ?_⟩)
  cases h with
  | unknownDocumentField hne => exact if_neg hne
  | duplicateField hgiven => exact if_pos (List.mem_singleton.1 hgiven)

/-- The stream is read up to the place, and what comes behind it is not. -/
theorem rootMembers_of_objection {toks : List Token} (hleads : StreamLeads toks place)
    (h : Objection name place cause text)
    (hreads : Reads (.string "stream" :: .mark .colon :: (toks ++ [.string name])) cs rest) :
    rootMembers cs = .error (.misplacedName cause (place.left rest)) := by
  obtain ⟨mid, hvalue, hrun⟩ := rootMembers_of_stream hreads
  rw [hrun]
  exact bind_eq_error_iff.2 (.inl (streamValue_of_objection hleads h hvalue))

theorem StreamLeads.skipBlank_ne_rightBracket {toks tail : List Token}
    (h : StreamLeads toks place) (hreads : Reads (toks ++ tail) cs rest) (behind : List Char) :
    skipBlank cs ≠ ']' :: behind := by
  cases h with
  | key => exact hreads.skipBlank_ne_rightBracket (by simp) behind
  | member => exact hreads.skipBlank_ne_rightBracket (by simp) behind
  | element => exact hreads.skipBlank_ne_rightBracket (by simp) behind

theorem rootElements_of_objection {toks : List Token} (hleads : StreamLeads toks place)
    (h : Objection name place cause text) (hreads : Reads (toks ++ [.string name]) cs rest) :
    rootElements cs = .error (.misplacedName cause (place.left rest)) := by
  unfold rootElements
  split
  · rename_i tail hcs
    exact absurd hcs (hleads.skipBlank_ne_rightBracket hreads tail)
  · rw [streamValue_skipBlank]
    exact bind_eq_error_iff.2 (.inl (streamValue_of_objection hleads h hreads))

theorem rootValue_of_objection {toks : List Token} (hleads : Leads toks place)
    (h : Objection name place cause text) (hreads : Reads (toks ++ [.string name]) cs rest) :
    rootValue cs = .error (.misplacedName cause (place.left rest)) := by
  unfold rootValue
  cases hleads with
  | firstKey =>
    obtain ⟨mid, hcs, hname⟩ := reads_mark_iff.1 hreads
    rw [hcs]
    exact rootMembers_of_key h hname
  | nextKey hform =>
    rw [List.cons_append, List.cons_append, List.cons_append, List.append_assoc] at hreads
    obtain ⟨mid, hcs, hreads⟩ := reads_mark_iff.1 hreads
    rw [hcs]
    exact rootMembers_of_next hform h hreads
  | member hleads =>
    obtain ⟨mid, hcs, hreads⟩ := reads_mark_iff.1 hreads
    rw [hcs]
    exact rootMembers_of_objection hleads h hreads
  | element hleads =>
    obtain ⟨mid, hcs, hreads⟩ := reads_mark_iff.1 hreads
    rw [hcs]
    exact rootElements_of_objection hleads h hreads

/-! ## Whole texts -/

/-- **Names out of place.**  A text that is a document up to a place, and has a name there that
    is out of place, is refused as soon as the name is closed: whatever is appended to it, the
    error has the same cause, which depends on the name and on the place, and the place knows
    the keys that have been given but not their values.  The position that the error tells of
    is behind the name of a byte order; behind a key it is moved over the blanks that come next
    and over a brace behind them that closes an object. -/
theorem ofText_misplaced_name (h : Objection name place cause text) :
    (∀ position : Position, (Error.settings (.misplacedName cause position)).display =
      "configuration error: " ++ text ++
        s!" at line {position.line} column {position.column}") ∧
    ∀ (toks : List Token) (p : String), Leads toks place →
      Reads (toks ++ [.string name]) p.toList [] →
      ∀ q : String, ofText (p ++ q) = .error (.settings
        (.misplacedName cause (.behind (p.toList ++ place.passed q.toList)))) := by
  refine ⟨?_, ?_⟩
  · intro position
    exact congrArg ("configuration error: " ++ · ++ position.text) h.message_eq
  · intro toks p hleads hreads q
    have hreads : Reads (toks ++ [.string name]) (p ++ q).toList q.toList := by
      rw [String.toList_append]
      exact hreads.append q.toList
    have hroot : rootValue (p ++ q).toList = .error (.misplacedName cause (place.left q.toList)) :=
      rootValue_of_objection hleads h hreads
    have hreport : (Problem.misplacedName cause (place.left q.toList)).report (p ++ q).toList =
        .misplacedName cause (.behind (p.toList ++ place.passed q.toList)) := by
      rw [String.toList_append]
      exact report_misplacedName p.toList q.toList
    have hparse : parse (p ++ q) =
        .error (.misplacedName cause (.behind (p.toList ++ place.passed q.toList))) := by
      rw [parse, hroot, Except.mapError, hreport]
      rfl
    rw [ofText, hparse]

/-- A key that is given again, with an escape in its second spelling, in the stream of an array
    on the second line; and where reading stops if a line end and the closing brace follow. -/
theorem ofText_misplaced_name_twice :
    Objection "endianness" (.key .stream ["endianness"]) (.duplicateField "endianness")
      ("duplicate field `" ++ "endianness" ++ "`") ∧
    (∀ q : String, ofText ("[\n\x7b\"endianness\":\"big\",\"endian\\u006eess\"" ++ q) =
      .error (.settings (.misplacedName (.duplicateField "endianness")
        (.behind ("[\n\x7b\"endianness\":\"big\",\"endian\\u006eess\"".toList ++
          Place.passed (.key .stream ["endianness"]) q.toList))))) ∧
    ofText ("[\n\x7b\"endianness\":\"big\",\"endian\\u006eess\"" ++ "\n \x7d, 1") =
      .error (.settings (.misplacedName (.duplicateField "endianness") ⟨3, 2⟩)) := by
  have h : Objection "endianness" (.key .stream ["endianness"]) (.duplicateField "endianness")
      ("duplicate field `" ++ "endianness" ++ "`") := .duplicateField List.mem_cons_self
  have hmember : (Field.byteOrder .big).Member [.string "endianness", .mark .colon, .string "big"] :=
    ⟨_, .name .big, rfl⟩
  have hdistinct : ([Field.byteOrder .big].map Field.key).Nodup := List.nodup_singleton _
  have hleads : Leads
      [.mark .leftBracket, .mark .leftBrace, .string "endianness", .mark .colon, .string "big",
        .mark .comma] (.key .stream ["endianness"]) :=
    .element (.key hdistinct (.cons hmember .nil))
  have hkey : string "\"endianness\":\"big\",\"endian\\u006eess\"".toList =
      .ok ("endianness", ":\"big\",\"endian\\u006eess\"".toList) := by decide +kernel
  have hvalue : string "\"big\",\"endian\\u006eess\"".toList =
      .ok ("big", ",\"endian\\u006eess\"".toList) := by decide +kernel
  have hname : string "\"endian\\u006eess\"".toList = .ok ("endianness", []) := by decide +kernel
  have hreads : Reads
      [.mark .leftBracket, .mark .leftBrace, .string "endianness", .mark .colon, .string "big",
        .mark .comma, .string "endianness"]
      "[\n\x7b\"endianness\":\"big\",\"endian\\u006eess\"".toList [] := by
    refine reads_mark_iff.2
      ⟨"\n\x7b\"endianness\":\"big\",\"endian\\u006eess\"".toList, by decide +kernel, ?_⟩
    refine reads_mark_iff.2
      ⟨"\"endianness\":\"big\",\"endian\\u006eess\"".toList, by decide +kernel, ?_⟩
    refine reads_cons_cons_iff.2 ⟨_, string_eq_ok_iff.1 hkey, ?_⟩
    refine reads_mark_iff.2 ⟨"\"big\",\"endian\\u006eess\"".toList, by decide +kernel, ?_⟩
    refine reads_cons_cons_iff.2 ⟨_, string_eq_ok_iff.1 hvalue, ?_⟩
    exact reads_mark_iff.2
      ⟨"\"endian\\u006eess\"".toList, by decide +kernel, string_eq_ok_iff.1 hname⟩
  have hrefused := (ofText_misplaced_name h).2 _ _ hleads hreads
  refine ⟨h, hrefused, ?_⟩
  rw [hrefused]
  decide +kernel

/-- Behind a key the position depends on what is appended: an unknown key at the end of the
    text, and the same text with the brace that closes the object. -/
theorem ofText_misplaced_name_moves :
    Objection "foo" (.key .document []) (.unknownField "foo" .document)
      ("unknown field `" ++ "foo" ++ "`, expected `stream`") ∧
    Leads [.mark .leftBrace] (.key .document []) ∧
    Reads ([.mark .leftBrace] ++ [.string "foo"]) "\x7b\"foo\"".toList [] ∧
    ofText ("\x7b\"foo\"" ++ "") =
      .error (.settings (.misplacedName (.unknownField "foo" .document) ⟨1, 6⟩)) ∧
    ofText ("\x7b\"foo\"" ++ "\x7d") =
      .error (.settings (.misplacedName (.unknownField "foo" .document) ⟨1, 7⟩)) ∧
    ¬ ∃ e, ∀ q : String, ofText ("\x7b\"foo\"" ++ q) = .error e := by
  have hname : string "\"foo\"".toList = .ok ("foo", []) := by decide +kernel
  have hend : ofText ("\x7b\"foo\"" ++ "") =
      .error (.settings (.misplacedName (.unknownField "foo" .document) ⟨1, 6⟩)) := by
    decide +kernel
  have hclosed : ofText ("\x7b\"foo\"" ++ "\x7d") =
      .error (.settings (.misplacedName (.unknownField "foo" .document) ⟨1, 7⟩)) := by
    decide +kernel
  refine ⟨.unknownDocumentField (by decide), .firstKey, ?_, hend, hclosed, ?_⟩
  · exact reads_mark_iff.2 ⟨"\"foo\"".toList, by decide +kernel, string_eq_ok_iff.1 hname⟩
  · rintro ⟨e, hsame⟩
    have heq := (hsame "").symm.trans hend
    rw [hsame "\x7d", heq] at hclosed
    exact absurd hclosed (by decide)

end Spirv.Settings
