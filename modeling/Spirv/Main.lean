/-
  The program: reads the files that the command line names and prints the outcome.
-/
import Spirv.Command.Run

namespace Spirv.Main

/-- The system's words for an error, with its number. -/
def causeText : IO.Error → String
  | .alreadyExists _ code details | .otherError code details | .resourceBusy code details
  | .resourceVanished code details | .unsupportedOperation code details
  | .hardwareFault code details | .unsatisfiedConstraints code details
  | .illegalOperation code details | .protocolError code details | .timeExpired code details
  | .interrupted _ code details | .noFileOrDirectory _ code details
  | .invalidArgument _ code details | .permissionDenied _ code details
  | .resourceExhausted _ code details | .inappropriateType _ code details
  | .noSuchThing _ code details =>
    details ++ " (os error " ++ toString code ++ ")"
  | .unexpectedEof => "unexpected end of file"
  | .userError message => message

/-- The bytes of a file, or the cause why it cannot be read. -/
def read (path : String) : IO (Except String ByteArray) := do
  try
    let handle ← IO.FS.Handle.mk path .read
    return .ok (← handle.readBinToEnd)
  catch e =>
    return .error (causeText e)

/-- The view of the file system that holds the given files. -/
def view (contents : List (String × Except String ByteArray)) : Command.Files := fun path =>
  (contents.lookup path).getD (.error "not read")

end Spirv.Main

def main (arguments : List String) : IO UInt32 := do
  let paths :=
    match Spirv.Command.parseArguments arguments with
    | .ok inv => inv.paths
    | .error _ => []
  let contents ← paths.mapM fun path => return (path, ← Spirv.Main.read path)
  let outcome := Spirv.Command.execute (Spirv.Main.view contents) arguments
  IO.print outcome.stdout
  IO.eprint outcome.stderr
  return outcome.exitCode.toUInt32
