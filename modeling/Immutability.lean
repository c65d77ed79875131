import Immutability.Cache
import Immutability.CharSet.Basic
import Immutability.CharSet.Encoding
import Immutability.CharSet.Index
import Immutability.CharSet.Table
import Immutability.Config.Compile
import Immutability.Config.Record
import Immutability.Config.Value
import Immutability.Fault
import Immutability.Handle
import Immutability.Hash
import Immutability.Host
import Immutability.Level
import Immutability.Limits
import Immutability.Logging
import Immutability.Machine
import Immutability.Path
import Immutability.Program
import Immutability.Proofs.Acyclic
import Immutability.Proofs.Approximation
import Immutability.Proofs.ArrayBuilding
import Immutability.Proofs.Arrays
import Immutability.Proofs.Blueprints
import Immutability.Proofs.Bounds
import Immutability.Proofs.CacheInvariants
import Immutability.Proofs.CacheMarks
import Immutability.Proofs.Children
import Immutability.Proofs.ComposedTypes
import Immutability.Proofs.ConfigCompilation
import Immutability.Proofs.Consistency
import Immutability.Proofs.Declarations
import Immutability.Proofs.Descent
import Immutability.Proofs.Directories
import Immutability.Proofs.DivergedStores
import Immutability.Proofs.DrivenWalks
import Immutability.Proofs.Entering
import Immutability.Proofs.Evaluation
import Immutability.Proofs.FormatterBudget
import Immutability.Proofs.GuardedDescent
import Immutability.Proofs.Histories
import Immutability.Proofs.HostSnapshots
import Immutability.Proofs.Interning
import Immutability.Proofs.JoinedPaths
import Immutability.Proofs.Locality
import Immutability.Proofs.LogBrackets
import Immutability.Proofs.MachineRuns
import Immutability.Proofs.MergedProperties
import Immutability.Proofs.MirroredStores
import Immutability.Proofs.NestedIntersections
import Immutability.Proofs.Occurrences
import Immutability.Proofs.Phrases
import Immutability.Proofs.PrunedStores
import Immutability.Proofs.QueryLog
import Immutability.Proofs.Reflection
import Immutability.Proofs.RenderingSketches
import Immutability.Proofs.RepeatedRequests
import Immutability.Proofs.SettledListings
import Immutability.Proofs.ShownTypes
import Immutability.Proofs.Simulation
import Immutability.Proofs.StableAnswers
import Immutability.Proofs.SteadyAssignments
import Immutability.Proofs.StoreCompletion
import Immutability.Proofs.StoreQuestions
import Immutability.Proofs.StoreRuns
import Immutability.Proofs.StoreUpkeep
import Immutability.Proofs.StoreWalks
import Immutability.Proofs.Structure
import Immutability.Proofs.Termination
import Immutability.Proofs.Transparency
import Immutability.Proofs.TypeSpelling
import Immutability.Proofs.UnknownVerdicts
import Immutability.Proofs.WriterAgreement
import Immutability.Proofs.WrittenPlaces
import Immutability.Query
import Immutability.Regex.Automaton
import Immutability.Regex.Basic
import Immutability.Regex.Bracket
import Immutability.Regex.Element
import Immutability.Regex.Engine
import Immutability.Regex.Flags
import Immutability.Regex.Group
import Immutability.Regex.Look
import Immutability.Regex.Number
import Immutability.Regex.Opening
import Immutability.Regex.Parser
import Immutability.Regex.Size
import Immutability.Regex.Tally
import Immutability.Regex.TextChoice
import Immutability.Rendering.Guard
import Immutability.Rendering.Layout
import Immutability.Rendering.Names
import Immutability.Rule.Basic
import Immutability.Rule.Pattern
import Immutability.Rule.Provenance
import Immutability.Script.Expr
import Immutability.Script.Reply
import Immutability.Script.Run
import Immutability.Script.Session
import Immutability.Shape
import Immutability.Store.Basic
import Immutability.Store.Build
import Immutability.Store.Data
import Immutability.Store.Host
import Immutability.Store.Properties
import Immutability.Text.Blank
import Immutability.Text.CaseShift
import Immutability.Text.Cased
import Immutability.Text.Digest
import Immutability.Text.Lower
import Immutability.Text.Ranges
import Immutability.Text.Search
import Immutability.Trace
import Immutability.Unicode.Age
import Immutability.Unicode.Binary
import Immutability.Unicode.Break
import Immutability.Unicode.Category
import Immutability.Unicode.Fold
import Immutability.Unicode.Property
import Immutability.Unicode.Script
import Immutability.Verdict
import Immutability.Walk
