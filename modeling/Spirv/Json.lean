/-
  JSON values and their layout.

  A `Json` is a value whose numbers are natural.  `layout` writes it over several lines:
  the items of an array and the members of an object stand on lines of their own, two
  blanks deeper than the brackets, and an empty array or object on one line.

  The number of items of an array is announced before the first of them is written, and the
  writer believes it: an array that is announced as empty is closed at once.
-/
import Spirv.Json.Literal

namespace Spirv

/-- A JSON value. -/
inductive Json where
  | null
  | bool (value : Bool)
  | number (value : Nat)
  | string (value : String)
  /-- An array, with the number of items that is announced. -/
  | array (announced : Nat) (items : List Json)
  | object (members : List (String × Json))

namespace Json

/-- A line break and the indentation of the given depth. -/
def newline (depth : Nat) : String :=
  "\n" ++ String.ofList (List.replicate (2 * depth) ' ')

/-- Parts between brackets, each on a line of its own at depth `depth + 1`. -/
def bracketed (left right : String) (depth : Nat) (parts : List String) : String :=
  if parts.isEmpty then left ++ right
  else
    left ++ newline (depth + 1) ++ ("," ++ newline (depth + 1)).intercalate parts ++
      newline depth ++ right

/-- The items of an array between its brackets.  Nothing is added to an array that is announced
    as empty. -/
def sequence (announced depth : Nat) (parts : List String) : String :=
  if announced = 0 then "[]" else bracketed "[" "]" depth parts

mutual

/-- The value as text whose first line starts at the given depth. -/
def layout (depth : Nat) : Json → String
  | null => "null"
  | bool true => "true"
  | bool false => "false"
  | number n => toString n
  | string s => quote s
  | array announced items => sequence announced depth (layoutItems (depth + 1) items)
  | object members => bracketed "\x7b" "\x7d" depth (layoutMembers (depth + 1) members)

/-- The items of an array, each as text. -/
def layoutItems (depth : Nat) : List Json → List String
  | [] => []
  | item :: items => layout depth item :: layoutItems depth items

/-- The members of an object, each as text with its key in front. -/
def layoutMembers (depth : Nat) : List (String × Json) → List String
  | [] => []
  | (key, value) :: members =>
    (quote key ++ ": " ++ layout depth value) :: layoutMembers depth members

end

/-- The value as a document: one value and a line break. -/
def document (j : Json) : String :=
  layout 0 j ++ "\n"

end Json

end Spirv
