import CardinalityAdvisor.Association
import CardinalityAdvisor.Decimal.Binary
import CardinalityAdvisor.Decimal.Reading
import CardinalityAdvisor.Decimal.Scientific
import CardinalityAdvisor.Decimal.Shortest
import CardinalityAdvisor.Digest.Blake2b
import CardinalityAdvisor.Fault
import CardinalityAdvisor.Fingerprint.Canonical
import CardinalityAdvisor.Fingerprint.Casts
import CardinalityAdvisor.Fingerprint.Clause
import CardinalityAdvisor.Fingerprint.Equivalence
import CardinalityAdvisor.Fingerprint.Key
import CardinalityAdvisor.Json.Basic
import CardinalityAdvisor.Json.Reader
import CardinalityAdvisor.Json.Writer
import CardinalityAdvisor.Knowledge.Call
import CardinalityAdvisor.Knowledge.Store
import CardinalityAdvisor.Knowledge.Timeout
import CardinalityAdvisor.Log.Line
import CardinalityAdvisor.Outside
import CardinalityAdvisor.ParseTree.Basic
import CardinalityAdvisor.ParseTree.Expression
import CardinalityAdvisor.ParseTree.Source
import CardinalityAdvisor.ParseTree.Statement
import CardinalityAdvisor.ParseTree.Walk
import CardinalityAdvisor.Planner.ClauseRecord
import CardinalityAdvisor.Planner.JoinType
import CardinalityAdvisor.Planner.Memory
import CardinalityAdvisor.Planner.RangeTable
import CardinalityAdvisor.Policy.Mode
import CardinalityAdvisor.Policy.PlanningPolicy
import CardinalityAdvisor.Policy.QueryClass
import CardinalityAdvisor.Prediction.Basic
import CardinalityAdvisor.Prediction.Estimator
import CardinalityAdvisor.Prediction.Records
import CardinalityAdvisor.Prediction.Samples
import CardinalityAdvisor.Profile
import CardinalityAdvisor.Program
import CardinalityAdvisor.Rehearsal.Run
import CardinalityAdvisor.Rehearsal.Step
import CardinalityAdvisor.Rehearsal.Theatre
import CardinalityAdvisor.Rehearsal.World
import CardinalityAdvisor.Selectivity.Cache
import CardinalityAdvisor.Server.Connect
import CardinalityAdvisor.Server.Knowledge
import CardinalityAdvisor.Server.Link
import CardinalityAdvisor.Session.Action
import CardinalityAdvisor.Session.Basic
import CardinalityAdvisor.Session.Call
import CardinalityAdvisor.Session.Classify
import CardinalityAdvisor.Session.Guards
import CardinalityAdvisor.Settings.Basic
import CardinalityAdvisor.Settings.Reading
import CardinalityAdvisor.Sorting
import CardinalityAdvisor.Text.Blank
import CardinalityAdvisor.Text.Digit
import CardinalityAdvisor.Text.Half
import CardinalityAdvisor.Text.Pieces
import CardinalityAdvisor.Text.Printable
import CardinalityAdvisor.Text.Quoted
import CardinalityAdvisor.Text.Uppercase
import CardinalityAdvisor.Value.Basic
import CardinalityAdvisor.Value.Condition
import CardinalityAdvisor.Value.Export
import CardinalityAdvisor.Value.Layout
import CardinalityAdvisor.Value.Members
import CardinalityAdvisor.Value.Pretty
import CardinalityAdvisor.Value.Text
import CardinalityAdvisor.Proofs.Program.Transcript
import CardinalityAdvisor.Proofs.Session.Runs
import CardinalityAdvisor.Proofs.Session.Classification
import CardinalityAdvisor.Proofs.Planning.Run
import CardinalityAdvisor.Proofs.Planning.Nesting
import CardinalityAdvisor.Proofs.Planning.Records
import CardinalityAdvisor.Proofs.Planning.Hooks
import CardinalityAdvisor.Proofs.Planning.Remembered
import CardinalityAdvisor.Proofs.Planning.Answers
import CardinalityAdvisor.Proofs.ParseTree.Occurrence
import CardinalityAdvisor.Proofs.ParseTree.Relations
import CardinalityAdvisor.Proofs.Session.ReservedRelations
import CardinalityAdvisor.Proofs.Json.KeyOrder
import CardinalityAdvisor.Proofs.Json.Spelling
import CardinalityAdvisor.Proofs.Json.Units
import CardinalityAdvisor.Proofs.Fingerprint.Similar
import CardinalityAdvisor.Proofs.Program.Discipline
import CardinalityAdvisor.Proofs.Registration.LockDiscipline
import CardinalityAdvisor.Proofs.Registration.Interleaving
import CardinalityAdvisor.Proofs.Registration.Consistency
import CardinalityAdvisor.Proofs.Registration.Exclusion
import CardinalityAdvisor.Proofs.Fingerprint.Texts
import CardinalityAdvisor.Proofs.Fingerprint.Classes
import CardinalityAdvisor.Proofs.Fingerprint.Kinds
import CardinalityAdvisor.Proofs.Fingerprint.Meanings
import CardinalityAdvisor.Proofs.Planning.JoinOrders
import CardinalityAdvisor.Proofs.Knowledge.Outages
import CardinalityAdvisor.Proofs.Session.Outages
import CardinalityAdvisor.Proofs.Session.Endurance
import CardinalityAdvisor.Proofs.Session.Failures
import CardinalityAdvisor.Proofs.Registration.Footprint
import CardinalityAdvisor.Proofs.Planning.Outages
import CardinalityAdvisor.Proofs.Planning.Passive
import CardinalityAdvisor.Proofs.Session.Deactivation
import CardinalityAdvisor.Proofs.Session.ForcedCollection
import CardinalityAdvisor.Proofs.Profile.Totals
import CardinalityAdvisor.Proofs.Program.Progress
import CardinalityAdvisor.Proofs.Registration.NewClasses
import CardinalityAdvisor.Proofs.Registration.Histories
import CardinalityAdvisor.Proofs.Registration.Spaces
import CardinalityAdvisor.Proofs.Registration.Agreement
import CardinalityAdvisor.Proofs.Fingerprint.Alike
import CardinalityAdvisor.Proofs.ParseTree.Views
import CardinalityAdvisor.Proofs.Session.Coupling
import CardinalityAdvisor.Proofs.Session.Indifference
import CardinalityAdvisor.Proofs.Planning.Constants
import CardinalityAdvisor.Proofs.Fingerprint.ColumnClasses
import CardinalityAdvisor.Proofs.Fingerprint.Changes
import CardinalityAdvisor.Proofs.Fingerprint.ClauseKeys
import CardinalityAdvisor.Proofs.Planning.Leaving
import CardinalityAdvisor.Proofs.Planning.Reordering
import CardinalityAdvisor.Proofs.Planning.FirstAnswers
import CardinalityAdvisor.Proofs.Planning.HandOver
import CardinalityAdvisor.Proofs.Planning.JoinTrees
import CardinalityAdvisor.Proofs.Planning.Marks
import CardinalityAdvisor.Proofs.Planning.StoredSamples
import CardinalityAdvisor.Proofs.Planning.GroupKeys
import CardinalityAdvisor.Proofs.Fingerprint.SharedKeys
import CardinalityAdvisor.Proofs.Planning.HookParts
import CardinalityAdvisor.Proofs.Planning.SharedSelectivities
import CardinalityAdvisor.Proofs.Session.Fallback
import CardinalityAdvisor.Proofs.Registration.AllOrNothing
import CardinalityAdvisor.Proofs.Planning.LastPlanned
import CardinalityAdvisor.Proofs.Knowledge.Polling
import CardinalityAdvisor.Proofs.ParseTree.TreeOrder
import CardinalityAdvisor.Proofs.ParseTree.Clauses
import CardinalityAdvisor.Proofs.Settings.Reading
import CardinalityAdvisor.Proofs.Session.Proxies
