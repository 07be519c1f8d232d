import Spirv.Main
import Spirv.Proofs.Report.Module
import Spirv.Proofs.Stream.Grammar
import Spirv.Proofs.Stream.Append
import Spirv.Proofs.Consistency
import Spirv.Proofs.Settings.Reader
import Spirv.Proofs.Stream.Mirror
import Spirv.Proofs.Stream.Framing
import Spirv.Proofs.Stream.Choice
import Spirv.Proofs.Stream.Progress
import Spirv.Proofs.Opcode.Name
import Spirv.Proofs.Opcode.Resolver
import Spirv.Proofs.Query
import Spirv.Proofs.CategorySet
import Spirv.Proofs.Numeral.Writing
import Spirv.Proofs.CategorySet.Text
import Spirv.Proofs.Report.Listing
import Spirv.Proofs.Command.Run
import Spirv.Proofs.Report.Document
import Spirv.Proofs.Position
import Spirv.Proofs.Settings.Refusal
import Spirv.Proofs.Command.Number
import Spirv.Proofs.Opcode.Spelling
import Spirv.Proofs.Binary
import Spirv.Proofs.Instruction.Header
import Spirv.Proofs.CategorySet.Code
import Spirv.Proofs.Stream.Cursor
