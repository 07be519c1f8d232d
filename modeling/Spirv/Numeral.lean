/-
  Numerals: how 32-bit numbers are written in messages and read from queries.

  `word` writes a word in hexadecimal with all of its eight digits.  `read?` accepts
  decimal digits, or hexadecimal digits after `0x` or `0X`; one `+` may stand before the
  first digit, leading zeros are free, and the value must fit 32 bits.
-/
import Spirv.Word

namespace Spirv.Numeral

/-! ## Writing -/

/-- The digits of a number in small hexadecimal letters. -/
def hexDigits (n : Nat) : List Char :=
  Nat.toDigits 16 n

/-- A word in hexadecimal, `0x` and eight digits. -/
def word (w : Word) : String :=
  "0x" ++ String.ofList ((hexDigits w.toNat).leftpad 8 '0')

/-! ## Reading -/

/-- The value of a digit in the given base, letters of either case. -/
def digitValue? (base : Nat) (c : Char) : Option Nat :=
  let v :=
    if '0' ≤ c ∧ c ≤ '9' then c.toNat - '0'.toNat
    else if 'a' ≤ c ∧ c ≤ 'z' then c.toNat - 'a'.toNat + 10
    else if 'A' ≤ c ∧ c ≤ 'Z' then c.toNat - 'A'.toNat + 10
    else base
  if v < base then some v else none

/-- The value of a run of digits that continues a number whose value so far is `n`. -/
def continueValue? (base n : Nat) : List Char → Option Nat
  | [] => some n
  | c :: cs =>
    match digitValue? base c with
    | some d => continueValue? base (n * base + d) cs
    | none => none

/-- The value of a non-empty run of digits. -/
def value? (base : Nat) : List Char → Option Nat
  | [] => none
  | c :: cs => continueValue? base 0 (c :: cs)

/-- The characters without the `+` that may lead them. -/
def dropPlus : List Char → List Char
  | '+' :: cs => cs
  | cs => cs

/-- The base that the characters announce, and the characters that remain. -/
def splitBase : List Char → Nat × List Char
  | '0' :: 'x' :: cs => (16, cs)
  | '0' :: 'X' :: cs => (16, cs)
  | cs => (10, cs)

/-- The number that the text denotes, if it is the numeral of a 32-bit number. -/
def read? (text : String) : Option UInt32 :=
  let (base, cs) := splitBase text.toList
  match value? base (dropPlus cs) with
  | some n => if n < UInt32.size then some (UInt32.ofNat n) else none
  | none => none

end Spirv.Numeral
