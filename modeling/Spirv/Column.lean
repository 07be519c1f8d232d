/-
  Columns of a listing.

  A field is padded with blanks on one side to its width and never cut; the blanks that
  end a line are dropped.
-/
namespace Spirv.Column

/-- The text at the right edge of a column of the given width. -/
def alignRight (width : Nat) (text : String) : List Char :=
  text.toList.leftpad width ' '

/-- The text at the left edge of a column of the given width. -/
def alignLeft (width : Nat) (text : String) : List Char :=
  text.toList.rightpad width ' '

/-- The characters up to the last that is no blank. -/
def dropTrailingBlanks (cs : List Char) : List Char :=
  (cs.reverse.dropWhile (· == ' ')).reverse

end Spirv.Column
