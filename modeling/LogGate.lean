import LogGate.Bench.Basic
import LogGate.Main
import LogGate.Proofs.Bench.Omission
import LogGate.Proofs.Bench.Sharing
import LogGate.Proofs.Config.Loading
import LogGate.Proofs.Console.Deadline
import LogGate.Proofs.Console.Integrity
import LogGate.Proofs.Console.Lines
import LogGate.Proofs.Fetch.Classification
import LogGate.Proofs.Gate.Stack
import LogGate.Proofs.Program.Run
import LogGate.Proofs.Record.Adding
import LogGate.Proofs.Record.Moments
import LogGate.Proofs.Sample.Unasked
import LogGate.Proofs.Severity.Grammar
import LogGate.Proofs.Severity.Paths
