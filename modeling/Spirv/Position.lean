/-
  Positions in a text.

  Lines are counted from one.  A column counts bytes and not characters: a character moves
  it by as many as its encoding takes.
-/
namespace Spirv

/-- A position in a text: its line, and the number of bytes in front of it on that line. -/
structure Position where
  line : Nat
  column : Nat
  deriving DecidableEq

namespace Position

/-- The beginning of a text. -/
def start : Position := ⟨1, 0⟩

/-- The position behind one more character. -/
def step (p : Position) (c : Char) : Position :=
  if c = '\n' then ⟨p.line + 1, 0⟩ else ⟨p.line, p.column + c.utf8Size⟩

/-- The position behind the characters that a text begins with. -/
def behind (cs : List Char) : Position :=
  cs.foldl step start

/-- The position as it is told behind the wording of a problem. -/
def text (p : Position) : String :=
  s!" at line {p.line} column {p.column}"

end Position

end Spirv
