import MipDispatch.Backend.Contract
import MipDispatch.Backend.Stock
import MipDispatch.Backend.ZeroPoint
import MipDispatch.Config.Basic
import MipDispatch.Config.Text
import MipDispatch.Decimal.Layout
import MipDispatch.Decimal.Shortest
import MipDispatch.Effect
import MipDispatch.Engine.Adapter
import MipDispatch.Engine.Call
import MipDispatch.Engine.Encoding
import MipDispatch.Engine.Matrix
import MipDispatch.Engine.Scheduler
import MipDispatch.Engine.SharedScheduler
import MipDispatch.Error
import MipDispatch.Event.Basic
import MipDispatch.Event.Channel
import MipDispatch.Event.SharedChannel
import MipDispatch.Event.Switchboard
import MipDispatch.Log.Directive
import MipDispatch.Log.Pattern
import MipDispatch.Log.Record
import MipDispatch.Log.Sink
import MipDispatch.Model.Constraint
import MipDispatch.Model.Objective
import MipDispatch.Model.Outcome
import MipDispatch.Model.Relation
import MipDispatch.Model.Solution
import MipDispatch.Model.Terms
import MipDispatch.Model.Variable
import MipDispatch.Module.EngineChoice
import MipDispatch.Module.Path
import MipDispatch.Module.Resolver
import MipDispatch.Module.Source
import MipDispatch.OneShot
import MipDispatch.Problem
import MipDispatch.Proofs.Adapter.Bounds
import MipDispatch.Proofs.Adapter.Calls
import MipDispatch.Proofs.Adapter.Coverage
import MipDispatch.Proofs.Adapter.Declaration
import MipDispatch.Proofs.Adapter.Events
import MipDispatch.Proofs.Adapter.Failures
import MipDispatch.Proofs.Adapter.Feasibility
import MipDispatch.Proofs.Adapter.Handover
import MipDispatch.Proofs.Adapter.Listeners
import MipDispatch.Proofs.Adapter.Objective
import MipDispatch.Proofs.Adapter.Outcome
import MipDispatch.Proofs.Adapter.Parts
import MipDispatch.Proofs.Adapter.Reached
import MipDispatch.Proofs.Adapter.Rows
import MipDispatch.Proofs.Adapter.Settings
import MipDispatch.Proofs.Adapter.Steps
import MipDispatch.Proofs.Adapter.Threads
import MipDispatch.Proofs.Adapter.Undeclared
import MipDispatch.Proofs.Backend.Embedding
import MipDispatch.Proofs.Backend.Refusals
import MipDispatch.Proofs.Backend.Requests
import MipDispatch.Proofs.Decimal.Interval
import MipDispatch.Proofs.Decimal.Layout
import MipDispatch.Proofs.Decimal.Shortest
import MipDispatch.Proofs.Dialogue
import MipDispatch.Proofs.Engine.Alone
import MipDispatch.Proofs.Engine.Encoding
import MipDispatch.Proofs.Engine.Hessian
import MipDispatch.Proofs.Engine.QuadraticForm
import MipDispatch.Proofs.Engine.Restarts
import MipDispatch.Proofs.Engine.Scheduling
import MipDispatch.Proofs.Engine.Slices
import MipDispatch.Proofs.Engine.Transpose
import MipDispatch.Proofs.Event.Fields
import MipDispatch.Proofs.Event.Handles
import MipDispatch.Proofs.Event.Linearization
import MipDispatch.Proofs.Event.Operations
import MipDispatch.Proofs.Event.Sequential
import MipDispatch.Proofs.Event.Serial
import MipDispatch.Proofs.Event.Turns
import MipDispatch.Proofs.LastWrite
import MipDispatch.Proofs.Model.Constraint
import MipDispatch.Proofs.Model.Objective
import MipDispatch.Proofs.Model.Range
import MipDispatch.Proofs.Model.Scoping
import MipDispatch.Proofs.Model.Terms
import MipDispatch.Proofs.Model.Text
import MipDispatch.Proofs.Module.Lifetimes
import MipDispatch.Proofs.Module.Path
import MipDispatch.Proofs.Module.Registration
import MipDispatch.Proofs.Module.Resolution
import MipDispatch.Proofs.Number.Exact
import MipDispatch.Proofs.Number.Order
import MipDispatch.Proofs.Number.Rounding
import MipDispatch.Proofs.Number.SignedZero
import MipDispatch.Proofs.Number.Sum
import MipDispatch.Proofs.Number.Whole
import MipDispatch.Proofs.OneShot.Solve
import MipDispatch.Proofs.OneShot.Transcript
import MipDispatch.Proofs.OneShot.Validation
import MipDispatch.Proofs.Problem.Staged
import MipDispatch.Proofs.Problem.Steps
import MipDispatch.Proofs.Problem.Tuning
import MipDispatch.Proofs.Room.Objective
import MipDispatch.Proofs.Session.Configuration
import MipDispatch.Proofs.Session.Opening
import MipDispatch.Proofs.Session.Refusals
import MipDispatch.Proofs.Session.Requests
import MipDispatch.Proofs.Session.Size
import MipDispatch.Proofs.SortedMap
import MipDispatch.Proofs.Text.Order
import MipDispatch.Proofs.Text.Utf8
import MipDispatch.Room.Model
import MipDispatch.Room.Session
import MipDispatch.Session
import MipDispatch.SortedMap
import MipDispatch.Text.Basic
import MipDispatch.Text.Coded
import MipDispatch.Text.Letter
import MipDispatch.Text.Utf8
import MipDispatch.Toml.Document
import MipDispatch.Toml.Quoted
import MipDispatch.Toml.Scalar
import MipDispatch.Toml.Tree
