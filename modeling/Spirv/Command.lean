/-
  Commands: what the program can be asked to do, and what may go wrong with it.
-/
import Spirv.ByteOrder
import Spirv.Error

namespace Spirv

/-- One of the tasks of the program. -/
inductive Command where
  /-- Report on the instructions in a file.  The byte order and the absence of a module
      header override the settings. -/
  | dump (file : String) (order : Option ByteOrder) (noHeader json : Bool)
  /-- Describe the operation that a number or a name denotes. -/
  | classify (query : String)
  /-- Name the tool with an id. -/
  | generator (query : String)
  deriving DecidableEq

/-- A task, and the file with the settings if there is one. -/
structure Invocation where
  settingsFile : Option String
  command : Command
  deriving DecidableEq

/-- Why a task failed.  There is no failure for a report that cannot be written as JSON, since
    every report can. -/
inductive CommandError where
  /-- A file could not be read, for the cause that the system gives. -/
  | unreadable (path cause : String)
  /-- A file was read, and what it holds is wrong. -/
  | decoding (cause : Error)
  /-- No operation has the name. -/
  | unknownMnemonic (query : String)
  /-- The text is not the numeral of a 32-bit number. -/
  | badNumber (text : String)
  deriving DecidableEq

/-- The wording of the failure. -/
def CommandError.message : CommandError → String
  | unreadable path cause => "cannot read " ++ path ++ ": " ++ cause
  | decoding cause => cause.display
  | unknownMnemonic query => "no opcode named `" ++ query ++ "`"
  | badNumber text => "invalid number `" ++ text ++ "`"

end Spirv
