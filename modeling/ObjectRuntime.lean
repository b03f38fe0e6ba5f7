import ObjectRuntime.Scenario.Bare
import ObjectRuntime.Scenario.Transcript
import ObjectRuntime.Proofs.Application
import ObjectRuntime.Proofs.Atomicity
import ObjectRuntime.Proofs.Caps
import ObjectRuntime.Proofs.Cascade
import ObjectRuntime.Proofs.Destruction.Transitions
import ObjectRuntime.Proofs.History
import ObjectRuntime.Proofs.Interfaces
import ObjectRuntime.Proofs.Ledger.Custody
import ObjectRuntime.Proofs.MethodCall
import ObjectRuntime.Proofs.Resolution
import ObjectRuntime.Proofs.SharedRuntime
import ObjectRuntime.Proofs.Storage.Census
import ObjectRuntime.Proofs.Storage.Supply
import ObjectRuntime.Proofs.Storage
import ObjectRuntime.Proofs.ForeignClient
import ObjectRuntime.Proofs.Ledger.Counts
import ObjectRuntime.Proofs.Underflow
import ObjectRuntime.Proofs.Handles
import ObjectRuntime.Proofs.StartUp.Once
import ObjectRuntime.Proofs.StartUp.Ahead
import ObjectRuntime.Proofs.StartUp
import ObjectRuntime.Proofs.Isolation
import ObjectRuntime.Proofs.KindDispatch
import ObjectRuntime.Proofs.Storage.Payload
import ObjectRuntime.Proofs.Storage.Creation
import ObjectRuntime.Proofs.Diagnostics
import ObjectRuntime.Proofs.Names
import ObjectRuntime.Proofs.Settings.CallDepth
import ObjectRuntime.Proofs.Settings
import ObjectRuntime.Proofs.Journal.Levels
import ObjectRuntime.Proofs.Journal.Process
