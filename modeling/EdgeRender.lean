import EdgeRender.Config.File
import EdgeRender.Config.Override
import EdgeRender.Json.Document
import EdgeRender.Server.Action
import EdgeRender.Proofs.Deferred.Step
import EdgeRender.Proofs.Deferred.Session
import EdgeRender.Proofs.Deferred.Order
import EdgeRender.Proofs.Deferred.Balance
import EdgeRender.Proofs.Deferred.Interleaving
import EdgeRender.Proofs.Server.Interleaving
import EdgeRender.Proofs.Server.Standing
import EdgeRender.Proofs.Deferred.Settling
import EdgeRender.Proofs.Server.Moves
import EdgeRender.Proofs.Server.Pending
import EdgeRender.Proofs.Server.Phases
import EdgeRender.Proofs.Deferred.Pacing
import EdgeRender.Proofs.Server.Hold
import EdgeRender.Proofs.Server.Conservation
import EdgeRender.Proofs.Deferred.Account
import EdgeRender.Proofs.Deferred.Lightening
import EdgeRender.Proofs.Deferred.Progress
import EdgeRender.Proofs.Deferred.WakeUps
import EdgeRender.Proofs.Server.Waiting
import EdgeRender.Proofs.Deferred.Course
import EdgeRender.Proofs.Deferred.Foresight
import EdgeRender.Proofs.Deferred.Agreement
import EdgeRender.Proofs.Deferred.Locality
import EdgeRender.Proofs.Server.Projection
import EdgeRender.Proofs.Server.Twins
import EdgeRender.Proofs.Server.Isolation
import EdgeRender.Proofs.Log.Emitter
import EdgeRender.Proofs.Fetch.Transcript
import EdgeRender.Proofs.Server.Modes
import EdgeRender.Proofs.Stream.Exchanges
import EdgeRender.Proofs.Stream.Delivery
import EdgeRender.Proofs.Stream.Bytes
import EdgeRender.Proofs.Fetch.Kinds
import EdgeRender.Proofs.Fetch.Tables
import EdgeRender.Proofs.Fetch.Keys
import EdgeRender.Proofs.Fetch.Headers
import EdgeRender.Proofs.Fetch.Routes
import EdgeRender.Proofs.WrittenForms
import EdgeRender.Proofs.Json.Steps
import EdgeRender.Proofs.Json.Written
import EdgeRender.Proofs.Json.Passing
import EdgeRender.Proofs.Json.Meaning
import EdgeRender.Proofs.Json.Nested
import EdgeRender.Proofs.Json.Columns
import EdgeRender.Proofs.ByName
import EdgeRender.Proofs.Json.Objects
import EdgeRender.Proofs.Log.Entries
import EdgeRender.Proofs.Log.Clashes
import EdgeRender.Proofs.Log.Growth
import EdgeRender.Proofs.Text.Words
import EdgeRender.Proofs.Config.Overrides
import EdgeRender.Proofs.Server.Limits
import EdgeRender.Proofs.Config.Timeouts
import EdgeRender.Proofs.Fetch.Duplicates
import EdgeRender.Proofs.Stream.Failures
import EdgeRender.Proofs.Request.Ids
import EdgeRender.Proofs.Text.Occurrences
import EdgeRender.Proofs.Log.Queries
import EdgeRender.Proofs.Text.ByteOrder
import EdgeRender.Proofs.Log.FieldOrder
import EdgeRender.Proofs.Fetch.Decoding
