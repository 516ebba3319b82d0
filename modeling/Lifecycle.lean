import Lifecycle.CommandLine
import Lifecycle.Main
import Lifecycle.Program.Replay
import Lifecycle.Program.Script
import Lifecycle.Session
import Lifecycle.Proofs.PidMap
import Lifecycle.Proofs.ProcessTable
import Lifecycle.Proofs.WellFormed
import Lifecycle.Proofs.TableRuns
import Lifecycle.Proofs.Activity
import Lifecycle.Proofs.EngineRuns
import Lifecycle.Proofs.Deadlock
import Lifecycle.Proofs.ExitAndHalt
import Lifecycle.Proofs.Frames
import Lifecycle.Proofs.Creation
import Lifecycle.Proofs.JoinOnce
import Lifecycle.Proofs.PidReuse
import Lifecycle.Proofs.PowerOff
import Lifecycle.Proofs.SuspendedJoins
import Lifecycle.Proofs.PageAccounts
import Lifecycle.Proofs.Interleaving
import Lifecycle.Proofs.OrderlyTraffic
import Lifecycle.Proofs.SeparateCreations
import Lifecycle.Proofs.FramesInTransit
import Lifecycle.Proofs.Wakeups
import Lifecycle.Proofs.Reclamation
import Lifecycle.Proofs.Texts
import Lifecycle.Proofs.MachineCalls
import Lifecycle.Proofs.SealedMachines
import Lifecycle.Proofs.StoppedMachines
import Lifecycle.Proofs.Outcomes
import Lifecycle.Proofs.ChildRuns
import Lifecycle.Proofs.IntegerInterface
import Lifecycle.Proofs.FibonacciRecursion
import Lifecycle.Proofs.FibonacciRuns
import Lifecycle.Proofs.FibonacciReport
import Lifecycle.Proofs.SiblingOrder
import Lifecycle.Proofs.Creators
import Lifecycle.Proofs.ConsoleLines
import Lifecycle.Proofs.ConsoleWrites
import Lifecycle.Proofs.ModestPrograms
import Lifecycle.Proofs.Nursery
import Lifecycle.Proofs.FirstProcess
import Lifecycle.Proofs.AssertedRuns
import Lifecycle.Proofs.SelfTest
import Lifecycle.Proofs.Loading
import Lifecycle.Proofs.FibonacciIndices
import Lifecycle.Proofs.Deeds
import Lifecycle.Proofs.ConsoleStreams
import Lifecycle.Proofs.DispatchAccounts
import Lifecycle.Proofs.WaitQueue
import Lifecycle.Proofs.Configurations
import Lifecycle.Proofs.Numerals
import Lifecycle.Proofs.LineReading
