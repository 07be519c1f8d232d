/-
  Reading settings documents.

  A document is JSON.  Its root is an object with the field `stream`, or an array with the
  value of that field; the stream is an object with the fields `endianness` and
  `module_header`, or an array with their values in this order.  Absent fields and
  elements keep their defaults.

  The text is read once, from left to right, and the first problem is the one reported:
  a key is judged as soon as its closing quotation mark is read, before its value.  A name
  that is out of place is reported with the position where reading stopped.  For the name of
  a byte order that is behind the name; an object that is given up because of a key is left
  first, which passes blanks and a closing brace behind the key.
-/
import Spirv.Error
import Spirv.Json.Literal
import Spirv.Settings

namespace Spirv.Settings

/-! ## Tokens -/

/-- A problem met while reading. -/
inductive Problem where
  /-- A name is out of place; `unread` are the characters from the reported position on. -/
  | misplacedName (cause : NameError) (unread : List Char)
  | malformed
  deriving DecidableEq

/-- The outcome of reading, or the problem met.  Readers return what they have read and the
    characters after it. -/
abbrev Reading := Except Problem

/-- Whether the character may stand between tokens. -/
def isBlank (c : Char) : Bool :=
  c == ' ' || c == '\t' || c == '\n' || c == '\r'

/-- The characters from the next token on. -/
def skipBlank (cs : List Char) : List Char :=
  cs.dropWhile isBlank

/-- The characters behind an object that is given up: blanks are passed, and a brace that
    comes next and closes the object. -/
def leave (cs : List Char) : List Char :=
  match skipBlank cs with
  | '}' :: rest => rest
  | rest => rest

/-- Steps over a character that must come next, blanks aside. -/
def expect (c : Char) (cs : List Char) : Reading (List Char) :=
  match skipBlank cs with
  | d :: rest => if d = c then .ok rest else .error .malformed
  | [] => .error .malformed

/-- Steps over the given characters. -/
def expectWord (word cs : List Char) : Reading (List Char) :=
  if word.isPrefixOf cs then .ok (cs.drop word.length) else .error .malformed

/-- A string whose opening quotation mark must come next, blanks aside. -/
def string (cs : List Char) : Reading (String × List Char) := do
  let cs ← expect '"' cs
  match Json.readString cs with
  | some (text, rest) => .ok (String.ofList text, rest)
  | none => .error .malformed

/-- The next key of an object, or `none` where the object ends.  A comma stands before
    every key but the first. -/
def key? (first : Bool) (cs : List Char) : Reading (Option String × List Char) :=
  match skipBlank cs with
  | '}' :: rest => .ok (none, rest)
  | ',' :: rest =>
    if first then .error .malformed
    else do
      let (key, rest) ← string rest
      .ok (some key, rest)
  | rest =>
    if first then do
      let (key, rest) ← string rest
      .ok (some key, rest)
    else .error .malformed

/-! ## Values -/

/-- The byte order whose name comes next. -/
def variant (cs : List Char) : Reading (ByteOrder × List Char) := do
  let (name, cs) ← string cs
  if name = ByteOrder.little.name then .ok (.little, cs)
  else if name = ByteOrder.big.name then .ok (.big, cs)
  else .error (.misplacedName (.unknownVariant name) cs)

/-- A byte order: its name, or an object with the name as its only key and the value
    `null`. -/
def byteOrderValue (cs : List Char) : Reading (ByteOrder × List Char) :=
  match skipBlank cs with
  | '{' :: rest => do
    let (order, rest) ← variant rest
    let rest ← expect ':' rest
    let rest ← expectWord ['n', 'u', 'l', 'l'] (skipBlank rest)
    let rest ← expect '}' rest
    .ok (order, rest)
  | rest => variant rest

/-- A truth value. -/
def flagValue (cs : List Char) : Reading (Bool × List Char) :=
  match skipBlank cs with
  | 't' :: rest => do
    let rest ← expectWord ['r', 'u', 'e'] rest
    .ok (true, rest)
  | 'f' :: rest => do
    let rest ← expectWord ['a', 'l', 's', 'e'] rest
    .ok (false, rest)
  | _ => .error .malformed

/-! ## The stream -/

/-- The fields of a stream object that have been read. -/
structure Draft where
  byteOrder : Option ByteOrder := none
  moduleHeader : Option Bool := none
  deriving DecidableEq

namespace Draft

/-- The settings, with the defaults for what is absent. -/
def settings (d : Draft) : Settings :=
  { byteOrder := d.byteOrder.getD .little, moduleHeader := d.moduleHeader.getD true }

/-- The number of fields that have not been read. -/
def absent (d : Draft) : Nat :=
  (if d.byteOrder.isNone then 1 else 0) + (if d.moduleHeader.isNone then 1 else 0)

theorem absent_byteOrder_lt {d : Draft} (h : d.byteOrder = none) (order : ByteOrder) :
    { d with byteOrder := some order }.absent < d.absent := by
  simp [absent, h]

theorem absent_moduleHeader_lt {d : Draft} (h : d.moduleHeader = none) (flag : Bool) :
    { d with moduleHeader := some flag }.absent < d.absent := by
  simp [absent, h]

end Draft

/-- The members of a stream object from its next key on, and its end. -/
def streamMembers (d : Draft) (first : Bool) (cs : List Char) : Reading (Draft × List Char) :=
  match key? first cs with
  | .error e => .error e
  | .ok (none, cs) => .ok (d, cs)
  | .ok (some key, cs) =>
    if key = "endianness" then
      match h : d.byteOrder with
      | some _ => .error (.misplacedName (.duplicateField key) (leave cs))
      | none => do
        let cs ← expect ':' cs
        let (order, cs) ← byteOrderValue cs
        have := Draft.absent_byteOrder_lt h order
        streamMembers { d with byteOrder := some order } false cs
    else if key = "module_header" then
      match h : d.moduleHeader with
      | some _ => .error (.misplacedName (.duplicateField key) (leave cs))
      | none => do
        let cs ← expect ':' cs
        let (flag, cs) ← flagValue cs
        have := Draft.absent_moduleHeader_lt h flag
        streamMembers { d with moduleHeader := some flag } false cs
    else .error (.misplacedName (.unknownField key .stream) (leave cs))
termination_by d.absent

/-- The elements of a stream array and its end. -/
def streamElements (cs : List Char) : Reading (Draft × List Char) :=
  match skipBlank cs with
  | ']' :: rest => .ok ({}, rest)
  | rest => do
    let (order, rest) ← byteOrderValue rest
    match skipBlank rest with
    | ',' :: rest =>
      let (flag, rest) ← flagValue rest
      let rest ← expect ']' rest
      .ok ({ byteOrder := some order, moduleHeader := some flag }, rest)
    | rest =>
      let rest ← expect ']' rest
      .ok ({ byteOrder := some order }, rest)

/-- A stream, as an object or as an array. -/
def streamValue (cs : List Char) : Reading (Settings × List Char) :=
  match skipBlank cs with
  | '{' :: rest => do
    let (d, rest) ← streamMembers {} true rest
    .ok (d.settings, rest)
  | '[' :: rest => do
    let (d, rest) ← streamElements rest
    .ok (d.settings, rest)
  | _ => .error .malformed

/-! ## The document -/

/-- The members of the root object and its end. -/
def rootMembers (cs : List Char) : Reading (Settings × List Char) := do
  match ← key? true cs with
  | (none, cs) => .ok ({}, cs)
  | (some key, cs) =>
    if key = "stream" then
      let cs ← expect ':' cs
      let (settings, cs) ← streamValue cs
      match ← key? false cs with
      | (none, cs) => .ok (settings, cs)
      | (some key, cs) =>
        if key = "stream" then .error (.misplacedName (.duplicateField key) (leave cs))
        else .error (.misplacedName (.unknownField key .document) (leave cs))
    else .error (.misplacedName (.unknownField key .document) (leave cs))

/-- The elements of the root array and its end. -/
def rootElements (cs : List Char) : Reading (Settings × List Char) :=
  match skipBlank cs with
  | ']' :: rest => .ok ({}, rest)
  | rest => do
    let (settings, rest) ← streamValue rest
    let rest ← expect ']' rest
    .ok (settings, rest)

/-- The root of a document. -/
def rootValue (cs : List Char) : Reading (Settings × List Char) :=
  match skipBlank cs with
  | '{' :: rest => rootMembers rest
  | '[' :: rest => rootElements rest
  | _ => .error .malformed

/-- The problem with a text as it is reported, with the position that has been reached. -/
def Problem.report (text : List Char) : Problem → SettingsError
  | misplacedName cause unread =>
    .misplacedName cause (.behind (text.take (text.length - unread.length)))
  | malformed => .malformed

/-- The settings in a document; nothing but blanks may follow the root. -/
def parse (text : String) : Except SettingsError Settings := do
  let (settings, rest) ← (rootValue text.toList).mapError (Problem.report text.toList)
  if (skipBlank rest).isEmpty then .ok settings else .error .malformed

/-- The settings in a document, for callers that report errors. -/
def ofText (text : String) : Except Error Settings :=
  match parse text with
  | .ok settings => .ok settings
  | .error e => .error (.settings e)

end Spirv.Settings
