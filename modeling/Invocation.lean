import Invocation.Handler.Script
import Invocation.Main
import Invocation.Proofs.Text.Utf8
import Invocation.Proofs.Json.Containers
import Invocation.Proofs.Json.Locality.Values
import Invocation.Proofs.Json.RoundTrip
import Invocation.Proofs.Json.Decoders
import Invocation.Proofs.Response.Wire
import Invocation.Proofs.Handler.Panics
import Invocation.Proofs.Handler.Run
import Invocation.Proofs.Adapter.Run
import Invocation.Proofs.Guard.Deliveries
import Invocation.Proofs.Response.Truncation
import Invocation.Proofs.Adapter.Independence
import Invocation.Proofs.Adapter.Delivery
import Invocation.Proofs.Header.Grouping
import Invocation.Proofs.Request.Normalize
import Invocation.Proofs.Adapter.Turns
import Invocation.Proofs.Adapter.Failures
import Invocation.Proofs.Adapter.Relay
import Invocation.Proofs.Request.Cut
import Invocation.Proofs.Config.Document
import Invocation.Proofs.Request.Decoding
import Invocation.Proofs.Program.Start
import Invocation.Proofs.Store.History
import Invocation.Proofs.Request.Envelope
import Invocation.Proofs.Json.Integers
import Invocation.Proofs.Outcome.Classification
import Invocation.Proofs.Header.Edits
import Invocation.Proofs.Response.Defaults
import Invocation.Proofs.Header.Readers
import Invocation.Proofs.Header.Partition
import Invocation.Proofs.Guard.Sharing
import Invocation.Proofs.Adapter.Echo
import Invocation.Proofs.Channel.Lines
import Invocation.Proofs.Adapter.Story
import Invocation.Proofs.Guest.Echo
