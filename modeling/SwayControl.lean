import SwayControl.Text.Blank
import SwayControl.Text.Quoted
import SwayControl.Text.ShellWord
import SwayControl.Number.Basic
import SwayControl.Number.Reading
import SwayControl.Grammar.Criterion
import SwayControl.Grammar.TopLevel
import SwayControl.Grammar.ConfigLine
import SwayControl.Value.Reading
import SwayControl.Builder.Described
import SwayControl.Json.Reader
import SwayControl.Service.Version
import SwayControl.Report.Emission
import SwayControl.Main
import SwayControl.Proofs.Builder.Refinement
import SwayControl.Proofs.Builder.LiveClause
import SwayControl.Proofs.Builder.Atomicity
import SwayControl.Proofs.Builder.Interleaving
import SwayControl.Proofs.Builder.Separator
import SwayControl.Proofs.Builder.Gathering
import SwayControl.Proofs.Builder.InOrder
import SwayControl.Proofs.Builder.Coercion
import SwayControl.Proofs.Builder.Soundness
import SwayControl.Proofs.Ipc.Chunking
import SwayControl.Proofs.Ipc.Attribution
import SwayControl.Proofs.Service.Certification
import SwayControl.Proofs.Report.Fidelity
import SwayControl.Proofs.Grammar.CommandAgreement
import SwayControl.Proofs.Number.Exact
import SwayControl.Proofs.Builder.Totality
import SwayControl.Proofs.Builder.Congruence
import SwayControl.Proofs.Builder.Mention
import SwayControl.Proofs.Builder.Immutability
import SwayControl.Proofs.Ipc.Readable
import SwayControl.Proofs.Service.Classification
import SwayControl.Proofs.Ipc.Connection
import SwayControl.Proofs.Ipc.Codec
import SwayControl.Proofs.Ipc.Timing
import SwayControl.Proofs.Service.Preview
import SwayControl.Proofs.Config.SocketPath
import SwayControl.Proofs.Text.Words
import SwayControl.Proofs.Grammar.KeyBinding
import SwayControl.Proofs.Grammar.FontSlots
import SwayControl.Proofs.Grammar.Colors
import SwayControl.Proofs.Text.ShellReading
