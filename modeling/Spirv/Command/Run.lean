/-
  Running commands.

  A command is run against a view of the file system that gives for each path the bytes of
  the file or the cause why it cannot be read.  The settings come first: when they cannot
  be read, nothing else is looked at.
-/
import Spirv.Command.Arguments
import Spirv.Report.Document
import Spirv.Report.Listing
import Spirv.Settings.Reader
import Spirv.Summary

namespace Spirv

namespace Command

/-- The bytes of each file, or the cause why it cannot be read. -/
abbrev Files := String → Except String ByteArray

/-- The bytes of a file. -/
def readFile (files : Files) (path : String) : Except CommandError ByteArray :=
  match files path with
  | .ok bytes => .ok bytes
  | .error cause => .error (.unreadable path cause)

/-- The text of a file. -/
def readText (files : Files) (path : String) : Except CommandError String := do
  let bytes ← readFile files path
  match String.fromUTF8? bytes with
  | some text => .ok text
  | none => .error (.unreadable path "stream did not contain valid UTF-8")

/-- The settings in a file, or the defaults. -/
def loadSettings (files : Files) : Option String → Except CommandError Settings
  | none => .ok {}
  | some path => do
    let text ← readText files path
    match Settings.ofText text with
    | .ok settings => .ok settings
    | .error e => .error (.decoding e)

/-- The settings after the options of a dump have been taken into account. -/
def override (settings : Settings) (order : Option ByteOrder) (noHeader : Bool) : Settings :=
  { byteOrder := order.getD settings.byteOrder
    moduleHeader := settings.moduleHeader && !noHeader }

/-- The text that a dump prints for the bytes of a file.  A report has text in either form
    whatever it holds: writing it as JSON cannot fail. -/
def dumpText (bytes : List UInt8) (settings : Settings) (json : Bool) : Except Error String :=
  match Report.ofBytes bytes settings with
  | .ok report => .ok (if json then report.document else report.listing)
  | .error e => .error e

/-- The number that the text denotes. -/
def number (text : String) : Except CommandError UInt32 :=
  match Numeral.read? text with
  | some n => .ok n
  | none => .error (.badNumber text)

/-- Whether a query is meant as a number. -/
def startsWithDigit (query : String) : Bool :=
  match query.toList with
  | c :: _ => c.isDigit
  | [] => false

/-- The operation that a query denotes. -/
def resolve (query : String) : Except CommandError Opcode :=
  if startsWithDigit query then
    match number query with
    | .error e => .error e
    | .ok n =>
      match Opcode.ofNumber n with
      | .ok op => .ok op
      | .error e => .error (.decoding e)
  else
    match Opcode.ofName? query with
    | some op => .ok op
    | none => .error (.unknownMnemonic query)

/-- The text that `classify` prints. -/
def classifyText (query : String) : Except CommandError String :=
  match resolve query with
  | .ok op => .ok op.summary
  | .error e => .error e

/-- The text that `generator` prints. -/
def generatorText (query : String) : Except CommandError String :=
  match number query with
  | .ok id => .ok (Generator.summary id)
  | .error e => .error e

/-- The text that an invocation prints. -/
def run (files : Files) (inv : Invocation) : Except CommandError String := do
  let settings ← loadSettings files inv.settingsFile
  match inv.command with
  | .dump file order noHeader json => do
    let bytes ← readFile files file
    match dumpText bytes.data.toList (override settings order noHeader) json with
    | .ok text => .ok text
    | .error e => .error (.decoding e)
  | .classify query => classifyText query
  | .generator query => generatorText query

/-! ## Outcomes -/

/-- What the program leaves behind. -/
structure Outcome where
  exitCode : UInt8
  stdout : String
  stderr : String
  deriving DecidableEq

/-- How to use the program. -/
def usage : String :=
  "usage: spvword [--config FILE] dump [--endian ORDER] [--no-header] [--json] FILE\n" ++
  "       spvword [--config FILE] classify OPCODE\n" ++
  "       spvword [--config FILE] generator ID\n"

/-- The name of the program and its version. -/
def versionText : String :=
  "spvword 0.3.0\n"

/-- The outcome of a command line that asks for no task.  What is asked for goes to the output,
    and the usage goes with the errors where the command line is invalid. -/
def Halt.outcome : Halt → Outcome
  | invalid => ⟨2, "", usage⟩
  | help => ⟨0, usage, ""⟩
  | version => ⟨0, versionText, ""⟩

/-- The outcome of a command line. -/
def execute (files : Files) (arguments : List String) : Outcome :=
  match parseArguments arguments with
  | .error halt => halt.outcome
  | .ok inv =>
    match run files inv with
    | .ok text => ⟨0, text, ""⟩
    | .error e => ⟨1, "", "Error: " ++ e.message ++ "\n"⟩

end Command

/-- The files that an invocation may read. -/
def Invocation.paths (inv : Invocation) : List String :=
  inv.settingsFile.toList ++
    match inv.command with
    | .dump file .. => [file]
    | _ => []

end Spirv
