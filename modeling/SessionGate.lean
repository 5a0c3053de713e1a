import SessionGate.Broker.Admin
import SessionGate.Broker.Amqp
import SessionGate.Broker.Channel
import SessionGate.Broker.Error
import SessionGate.Broker.HttpAdmin
import SessionGate.Broker.Names
import SessionGate.Broker.Publisher
import SessionGate.Broker.Settings
import SessionGate.Broker.Topology
import SessionGate.Connection.Call
import SessionGate.Connection.Documents
import SessionGate.Connection.Error
import SessionGate.Connection.Lifecycle
import SessionGate.Connection.Service
import SessionGate.Credential
import SessionGate.Deadline
import SessionGate.Gateway.Basic
import SessionGate.Gateway.Documents
import SessionGate.Gateway.Environment
import SessionGate.Gateway.Error
import SessionGate.Gateway.Origin
import SessionGate.Gateway.Request
import SessionGate.Gateway.Response
import SessionGate.Gateway.Route
import SessionGate.Gateway.Settings
import SessionGate.Hash.Blake3
import SessionGate.Http.MediaType
import SessionGate.Http.Outgoing
import SessionGate.Identifier.SessionId
import SessionGate.Identifier.UserId
import SessionGate.Identity.Call
import SessionGate.Identity.Directory
import SessionGate.Identity.Documents
import SessionGate.Identity.Error
import SessionGate.Identity.HttpClient
import SessionGate.Json.Reader
import SessionGate.Json.Shape
import SessionGate.Json.Value
import SessionGate.Problem
import SessionGate.Program
import SessionGate.Proofs.Program.Course
import SessionGate.Proofs.Program.Crowd
import SessionGate.Rehearsal.Basic
import SessionGate.Rehearsal.Casting
import SessionGate.Rehearsal.Database
import SessionGate.Rehearsal.Direction
import SessionGate.Rehearsal.Domain
import SessionGate.Rehearsal.GuardedStore
import SessionGate.Rehearsal.Holding
import SessionGate.Rehearsal.Log
import SessionGate.Rehearsal.Messaging
import SessionGate.Rehearsal.Publishing
import SessionGate.Rehearsal.Schedule
import SessionGate.Rehearsal.Script
import SessionGate.Rehearsal.Stage
import SessionGate.Rehearsal.Trial
import SessionGate.Rehearsal.World
import SessionGate.Retry
import SessionGate.Session.Basic
import SessionGate.Session.Status
import SessionGate.Store.Call
import SessionGate.Store.Statement
import SessionGate.Store.Table
import SessionGate.Store.UserLocks
import SessionGate.Text.Base64
import SessionGate.Text.Blank
import SessionGate.Text.Hex
import SessionGate.Text.Number
import SessionGate.Text.Utf8
import SessionGate.Time.Duration
import SessionGate.Time.Instant
import SessionGate.Time.Timestamp
import SessionGate.Url.Address
import SessionGate.Url.Basic
import SessionGate.Url.Parser
import SessionGate.Url.Percent
import SessionGate.Url.Punycode
import SessionGate.Url.Segments
import SessionGate.Proofs.Broker.Inventory
import SessionGate.Proofs.Store.Table
import SessionGate.Proofs.Broker.Topology
import SessionGate.Proofs.Connection.Backing
import SessionGate.Proofs.Connection.Locking
import SessionGate.Proofs.Connection.Compliance
import SessionGate.Proofs.Connection.Records
import SessionGate.Proofs.Connection.Resources
import SessionGate.Proofs.Connection.Undoing
import SessionGate.Proofs.Connection.Leftovers
import SessionGate.Proofs.Connection.Endings
import SessionGate.Proofs.Store.Agreement
import SessionGate.Proofs.Store.Linearization
import SessionGate.Proofs.Broker.Orders
import SessionGate.Proofs.Broker.Pattern
import SessionGate.Proofs.Broker.PublisherStage
import SessionGate.Proofs.Broker.PublisherLog
import SessionGate.Proofs.Broker.ChannelHolder
import SessionGate.Proofs.Broker.Publishing
import SessionGate.Proofs.Retry
import SessionGate.Proofs.Broker.Attempts
import SessionGate.Proofs.Store.Upkeep
import SessionGate.Proofs.Connection.Admitting
import SessionGate.Proofs.Connection.Revocation
import SessionGate.Proofs.Connection.Announcing
import SessionGate.Proofs.Connection.Racing
import SessionGate.Proofs.Program.Fixed
import SessionGate.Proofs.Connection.Visit
import SessionGate.Proofs.Connection.Abandonment
import SessionGate.Proofs.Connection.Faults
import SessionGate.Proofs.Connection.Aftercare
import SessionGate.Proofs.Connection.Retrying
import SessionGate.Proofs.Json.Numbers
import SessionGate.Proofs.Json.Shapes
import SessionGate.Proofs.Time.Timestamp
import SessionGate.Proofs.Json.Documents
import SessionGate.Proofs.Program.Outcome
import SessionGate.Proofs.Gateway.Problems
import SessionGate.Proofs.Gateway.Refusals
import SessionGate.Proofs.Program.Paired
import SessionGate.Proofs.Store.Isolation
import SessionGate.Proofs.Broker.Isolation
import SessionGate.Proofs.Connection.Renaming
import SessionGate.Proofs.Connection.Isolation
import SessionGate.Proofs.Rehearsal.Trial
import SessionGate.Proofs.Gateway.Faults
import SessionGate.Proofs.Url.Accounts
import SessionGate.Proofs.Credential
import SessionGate.Proofs.Gateway.Settings
import SessionGate.Proofs.Connection.Returning
import SessionGate.Proofs.Connection.Provisioning
import SessionGate.Proofs.Broker.NameLimits
import SessionGate.Proofs.Connection.Authority
