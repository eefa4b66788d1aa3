import Parley.Contract
import Parley.Decimal
import Parley.Decimal.Layout
import Parley.Double
import Parley.Entries
import Parley.Envelope
import Parley.Error
import Parley.Failure
import Parley.Files
import Parley.Host
import Parley.Host.Blobless
import Parley.Json
import Parley.Json.Fault
import Parley.Json.Number
import Parley.Json.Reader
import Parley.Log.Directive
import Parley.Log.Event
import Parley.Log.Filter
import Parley.Log.Level
import Parley.Log.Line
import Parley.Log.Setup
import Parley.Operation
import Parley.Path
import Parley.Pending
import Parley.Proofs.Dispatch
import Parley.Proofs.Double
import Parley.Proofs.Except
import Parley.Proofs.Number
import Parley.Proofs.Pending
import Parley.Proofs.Schema.RoundTrip
import Parley.Proofs.Schema.Tag
import Parley.Proofs.Session.Disabled
import Parley.Proofs.Session.Routing
import Parley.Proofs.Session.Run
import Parley.Proofs.Session.Settlement
import Parley.Proofs.Session.Step
import Parley.Proofs.Session.Track
import Parley.Proofs.Shape.Codec
import Parley.Proofs.Shape.Culprit
import Parley.Proofs.Shape.Failure
import Parley.Proofs.Shape.Induction
import Parley.Proofs.Shape.Kind
import Parley.Proofs.Shape.Probe
import Parley.Proofs.Shape.RoundTrip
import Parley.Proofs.Slots
import Parley.Proxy
import Parley.Record
import Parley.Reply
import Parley.Schema.Challenge
import Parley.Schema.Channel
import Parley.Schema.Identity
import Parley.Schema.Signing
import Parley.Schema.Status
import Parley.Session
import Parley.Settings.Basic
import Parley.Settings.Error
import Parley.Settings.Layer
import Parley.Settings.Load
import Parley.Settings.Logging
import Parley.Settings.Proxy
import Parley.Settings.Reader
import Parley.Settings.Route
import Parley.Settings.Tree
import Parley.Shape
import Parley.Shape.Codec
import Parley.Text.Alphanumeric
import Parley.Text.Blank
import Parley.Text.Bytes
import Parley.Text.Case
import Parley.Text.Cased
import Parley.Text.CharSet
import Parley.Text.Graphic
import Parley.Text.Hex
import Parley.Text.Lines
import Parley.Text.Pattern
import Parley.Text.Pattern.Reader
import Parley.Text.Quoted
import Parley.Text.Ranges
import Parley.Toml.Document
import Parley.Toml.Moment
import Parley.Toml.Scalar
import Parley.Toml.Table
import Parley.Transport
import Parley.Value
import Parley.Proofs.Session.Accounting
import Parley.Proofs.Failure
import Parley.Proofs.Session.Query
import Parley.Proofs.Session.Abort
import Parley.Proofs.Shape.Union
import Parley.Proofs.Schema.Unambiguous
import Parley.Proofs.Envelope
import Parley.Proofs.Schema.Pairing
import Parley.Proofs.Shape.Total
import Parley.Proofs.Session.Challenge
import Parley.Proofs.Shape.Agree
import Parley.Proofs.Shape.Result
import Parley.Proofs.Shape.Representation
import Parley.Proofs.Shape.Edit
import Parley.Proofs.Shape.WellFormed
import Parley.Proofs.Shape.Normal
import Parley.Proofs.Shape.FirstMatch
import Parley.Proofs.Shape.Drift
import Parley.Proofs.Shape.Part
import Parley.Proofs.Shape.Refusal
import Parley.Proofs.Host.Blobless
import Parley.Proofs.Host.Envelope
import Parley.Proofs.Shape.Integer
import Parley.Proofs.Value.Canonical
import Parley.Proofs.Host.Property
import Parley.Proofs.Shape.Container
import Parley.Proofs.Text.Quoted
import Parley.Proofs.Path
import Parley.Proofs.Json
import Parley.Proofs.Value.Induction
import Parley.Proofs.Value.Rendering
import Parley.Proofs.Shape.Blobs
import Parley.Proofs.Host.Replacing
import Parley.Proofs.Host.BlobBlind
import Parley.Proofs.Session.Blobs
import Parley.Proofs.Report
import Parley.Proofs.Session.Events
import Parley.Proofs.Text.Cut
import Parley.Proofs.Files
import Parley.Proofs.Settings.Merging
import Parley.Proofs.Settings.Leaf
import Parley.Proofs.Settings.Load
import Parley.Proofs.Log.Setup
