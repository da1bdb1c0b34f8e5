import X86Gloss.CommandLine.Arguments
import X86Gloss.Main
import X86Gloss.Proofs.Gloss.Cut
import X86Gloss.Proofs.Gloss.Session
import X86Gloss.Proofs.Run.Capacity
import X86Gloss.Run.Settings
import X86Gloss.Proofs.Operand.Lexis
import X86Gloss.Proofs.Statement.Sentence
import X86Gloss.Proofs.Gloss.Unambiguous
import X86Gloss.Proofs.Listing.Fallback
import X86Gloss.Proofs.Record.Numbers
import X86Gloss.Proofs.Run.Protocol
import X86Gloss.Proofs.Gloss.Ending
import X86Gloss.Proofs.Gloss.Outcome
import X86Gloss.Proofs.Gloss.Deficit
import X86Gloss.Proofs.Gloss.Line
import X86Gloss.Proofs.Sink.Acts
import X86Gloss.Proofs.Sink.Desk
import X86Gloss.Proofs.Gloss.Reading
import X86Gloss.Proofs.Console.Events
import X86Gloss.Proofs.Gloss.Conditions
import X86Gloss.Proofs.Statement.Length
import X86Gloss.Proofs.Run.Room
import X86Gloss.Proofs.Operand.Rendering
import X86Gloss.Proofs.Operand.Legible
import X86Gloss.Proofs.Gloss.Move
import X86Gloss.Proofs.Text.HexTokens
import X86Gloss.Proofs.Record.Decoding
import X86Gloss.Proofs.Gloss.Position
import X86Gloss.Proofs.Text.Canonical
import X86Gloss.Proofs.Diagnostic.Chain
import X86Gloss.Proofs.Disassembly.Mnemonics
import X86Gloss.Proofs.Disassembly.Registers
import X86Gloss.Proofs.Sink.Piecewise
