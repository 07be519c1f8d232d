/-
  What can be wrong with a binary, with a settings document, and between the parts of
  this library.

  Errors are causes; `message` gives the wording of each, and `display` adds the position of
  a name that is out of place in a settings document.  An `Inconsistency` never describes
  bad input: it says that a caller declared something else than the words hold, or that two
  tables disagree.
-/
import Spirv.Instruction.Header
import Spirv.Numeral
import Spirv.Position

namespace Spirv

/-! ## Settings -/

/-- The structures of a settings document. -/
inductive Schema where
  /-- The document itself. -/
  | document
  /-- Its `stream` field. -/
  | stream
  deriving DecidableEq

/-- The names of the fields that the structure may have. -/
def Schema.fields : Schema → List String
  | document => ["stream"]
  | stream => ["endianness", "module_header"]

/-- Why a name must not stand where it does in a settings document. -/
inductive NameError where
  /-- An object has a key that is no field of the structure. -/
  | unknownField (key : String) (among : Schema)
  /-- An object has a key twice. -/
  | duplicateField (key : String)
  /-- The document names a byte order that does not exist. -/
  | unknownVariant (name : String)
  deriving DecidableEq

/-- The names in backquotes, as alternatives. -/
def alternatives (names : List String) : String :=
  " or ".intercalate (names.map fun name => "`" ++ name ++ "`")

/-- The wording of the objection.  Names are given as the document means them, after its
    escapes have been resolved. -/
def NameError.message : NameError → String
  | unknownField key among =>
    "unknown field `" ++ key ++ "`, expected " ++ alternatives among.fields
  | duplicateField key => "duplicate field `" ++ key ++ "`"
  | unknownVariant name =>
    "unknown variant `" ++ name ++ "`, expected " ++ alternatives ["little", "big"]

/-- What is wrong with a settings text. -/
inductive SettingsError where
  /-- A byte order was asked for by a name that no order has. -/
  | unknownByteOrder (text : String)
  /-- A name of the document is out of place; the position is where reading stopped. -/
  | misplacedName (cause : NameError) (position : Position)
  /-- The text is no document of the right shape. -/
  | malformed
  deriving DecidableEq

/-- The wording of the problem, without its position.  What is told of a malformed text, and
    where, is up to the reader of JSON: nothing stands for it here. -/
def SettingsError.message : SettingsError → String
  | unknownByteOrder text => "unknown endianness `" ++ text ++ "`"
  | misplacedName cause _ => cause.message
  | malformed => ""

/-- The position of the problem, for a name that is out of place. -/
def SettingsError.position? : SettingsError → Option Position
  | misplacedName _ position => some position
  | _ => none

/-! ## Inconsistencies -/

/-- A contradiction between what was declared and what was found.  Where debug assertions are
    on, a program stops at one; what is described here is the program without them. -/
inductive Inconsistency where
  /-- The header of the copied words is not the declared one. -/
  | headerMismatch (declared found : Instruction.Header)
  /-- Fewer words are there than were declared. -/
  | shortInput (declared : UInt16) (available : Nat)
  /-- No descriptor has the code. -/
  | missingDescriptor (code : UInt32)
  deriving DecidableEq

/-- The wording of the contradiction. -/
def Inconsistency.message : Inconsistency → String
  | headerMismatch declared found =>
    s!"header mismatch: expected opcode {declared.code} with {declared.wordCount} words, " ++
      s!"found opcode {found.code} with {found.wordCount} words"
  | shortInput declared available =>
    s!"short input: {declared} words declared, {available} available"
  | missingDescriptor code => s!"opcode {code} has no instruction descriptor"

/-! ## Errors -/

/-- Why words could not be decoded. -/
inductive Error where
  /-- No operation has the code. -/
  | unknownOpcode (code : UInt32)
  /-- The header at `offset` declares no words. -/
  | wordCountZero (offset : Nat)
  /-- The instruction at `offset` declares more words than remain, its header included. -/
  | truncated (offset needed available : Nat)
  /-- The first word of a module, read in the expected order, is not the magic number. -/
  | badMagic (word : Word)
  /-- Fewer words than a module header has. -/
  | shortHeader (found : Nat)
  /-- The number of bytes does not make whole words. -/
  | unalignedLength (bytes : Nat)
  /-- The settings cannot be read. -/
  | settings (cause : SettingsError)
  /-- A declaration does not agree with what it describes. -/
  | inconsistent (cause : Inconsistency)
  deriving DecidableEq

namespace Error

/-- The wording of the error, without a position in a settings text. -/
def message : Error → String
  | unknownOpcode code => s!"unknown opcode {code}"
  | wordCountZero offset => s!"instruction at word {offset} has a word count of zero"
  | truncated offset needed available =>
    s!"instruction at word {offset} needs {needed} words but only {available} remain"
  | badMagic word => "invalid magic number " ++ Numeral.word word
  | shortHeader found => s!"module header needs 5 words, found {found}"
  | unalignedLength bytes => s!"binary length {bytes} is not a multiple of 4"
  | settings cause => "configuration error: " ++ cause.message
  | inconsistent cause => "internal consistency failure: " ++ cause.message

/-- The position in a settings text that the error tells of. -/
def position? : Error → Option Position
  | settings cause => cause.position?
  | _ => none

/-- The whole text of the error. -/
def display (e : Error) : String :=
  e.message ++ (e.position?.map Position.text).getD ""

/-- Whether the error is an inconsistency rather than a defect of the input. -/
def isInternal : Error → Bool
  | inconsistent _ => true
  | _ => false

end Error

end Spirv
