import CompletionRing.Completion.Document
import CompletionRing.Completion.Image
import CompletionRing.Config.Document
import CompletionRing.Config.Environment
import CompletionRing.Demo.CommandLine
import CompletionRing.Demo.DrainLoop
import CompletionRing.Demo.Pipeline
import CompletionRing.Error.Document
import CompletionRing.Log.Filter
import CompletionRing.Main
import CompletionRing.Proofs.Demo.Agreement
import CompletionRing.Proofs.Session.Closed
import CompletionRing.Proofs.Session.Resplit
import CompletionRing.Session
import CompletionRing.Session.Script
import CompletionRing.Proofs.Session.Sighting
import CompletionRing.Proofs.Drain.Batches
import CompletionRing.Proofs.Simulated.Region
import CompletionRing.Proofs.Demo.Progress
import CompletionRing.Proofs.Config.Environment
import CompletionRing.Proofs.Demo.Backpressure
import CompletionRing.Proofs.Demo.Tick
import CompletionRing.Proofs.Session.Overflow
import CompletionRing.Proofs.Config.Document
import CompletionRing.Proofs.Completion.Document
import CompletionRing.Proofs.Error.Document
import CompletionRing.Proofs.Memory.Bytes
import CompletionRing.Proofs.Memory.Access
