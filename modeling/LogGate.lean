import LogGate.Main
import LogGate.Number.Reading
import LogGate.Proofs.Registry
import LogGate.Answer
import LogGate.Run
import LogGate.Proofs.Action
import LogGate.Proofs.Snapshot
import LogGate.Proofs.CallShapes
import LogGate.Proofs.Precheck
import LogGate.Proofs.LoggerTree
import LogGate.Proofs.SetUp
import LogGate.Proofs.Evolution
import LogGate.Proofs.Consistency
import LogGate.Proofs.NamedContext
import LogGate.Proofs.Admission
import LogGate.Proofs.FilteredOutput
import LogGate.Proofs.Scopes
import LogGate.Proofs.Isolation
import LogGate.Proofs.Decision
import LogGate.Proofs.LineMembers
import LogGate.Proofs.ConfiguredPairs
import LogGate.Proofs.Listings
import LogGate.Proofs.Interning
import LogGate.Proofs.LineReading
import LogGate.Proofs.Immutability
import LogGate.Proofs.FilterCache
import LogGate.Proofs.Ancestry
import LogGate.Proofs.LoggerSettings
import LogGate.Proofs.LineCount
import LogGate.Proofs.StandingRules
import LogGate.Proofs.LoweredLevel
import LogGate.Proofs.HandledLoggers
import LogGate.Proofs.EqualTables
import LogGate.Proofs.EnvironmentConfig
import LogGate.Proofs.DecodedConfig
import LogGate.Proofs.PlainLines
import LogGate.Proofs.UpperCase
import LogGate.Proofs.TableText
import LogGate.Proofs.CallOutcome
import LogGate.Proofs.Severity
import LogGate.Proofs.PrintedLevel
import LogGate.Proofs.UnwritableNames
import LogGate.Proofs.ValidRules
import LogGate.Proofs.PairShapes
import LogGate.Proofs.Ranks
import LogGate.Proofs.Calls
import LogGate.Proofs.LevelNames
import LogGate.Proofs.SnapshotContents
import LogGate.Proofs.Touch
import LogGate.Proofs.SourceCalls
import LogGate.Proofs.DefaultUses
import LogGate.Proofs.DefaultConfig
import LogGate.Proofs.Sequencing
import LogGate.Proofs.Operations
