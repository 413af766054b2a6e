import HorizonIpc.Attempt
import HorizonIpc.Binder.Basic
import HorizonIpc.Binder.Lifecycle
import HorizonIpc.Binder.Relay
import HorizonIpc.Binder.Transact
import HorizonIpc.Bits
import HorizonIpc.Bytes
import HorizonIpc.Command.Builder
import HorizonIpc.Command.Payload
import HorizonIpc.Command.Response
import HorizonIpc.Command.Server
import HorizonIpc.Frame.Descriptor
import HorizonIpc.Frame.Header
import HorizonIpc.Frame.Layout
import HorizonIpc.Frame.Message
import HorizonIpc.Frame.View
import HorizonIpc.Loopback.Basic
import HorizonIpc.Loopback.Script
import HorizonIpc.Parcel.Area
import HorizonIpc.Parcel.Basic
import HorizonIpc.Parcel.Operation
import HorizonIpc.Parcel.RemoteStatus
import HorizonIpc.Parcel.Wire
import HorizonIpc.Proofs.Binder.Agreement
import HorizonIpc.Proofs.Binder.Balance
import HorizonIpc.Proofs.Binder.Carriage
import HorizonIpc.Proofs.Binder.Commands
import HorizonIpc.Proofs.Binder.Counting
import HorizonIpc.Proofs.Binder.Effects
import HorizonIpc.Proofs.Binder.FirstFailure
import HorizonIpc.Proofs.Binder.Mode
import HorizonIpc.Proofs.Binder.References
import HorizonIpc.Proofs.Binder.Tally
import HorizonIpc.Proofs.Binder.Violation
import HorizonIpc.Proofs.Bytes.Splice
import HorizonIpc.Proofs.Bytes.Word
import HorizonIpc.Proofs.Command.Acceptance
import HorizonIpc.Proofs.Command.Additions
import HorizonIpc.Proofs.Command.Capacity
import HorizonIpc.Proofs.Command.Failure
import HorizonIpc.Proofs.Command.Format
import HorizonIpc.Proofs.Command.Layout
import HorizonIpc.Proofs.Command.Payload
import HorizonIpc.Proofs.Command.Reply
import HorizonIpc.Proofs.Command.ReplyRoundTrip
import HorizonIpc.Proofs.Command.Request
import HorizonIpc.Proofs.Command.RoundTrip
import HorizonIpc.Proofs.Frame.Codec
import HorizonIpc.Proofs.Frame.Contents
import HorizonIpc.Proofs.Frame.Descriptor
import HorizonIpc.Proofs.Frame.Entry
import HorizonIpc.Proofs.Frame.Framing
import HorizonIpc.Proofs.Frame.Reframing
import HorizonIpc.Proofs.Frame.Sections
import HorizonIpc.Proofs.Frame.Shape
import HorizonIpc.Proofs.Guarded.Basic
import HorizonIpc.Proofs.Guarded.Binder
import HorizonIpc.Proofs.Guarded.Client
import HorizonIpc.Proofs.Guarded.Command
import HorizonIpc.Proofs.Guarded.Frame
import HorizonIpc.Proofs.Guarded.Harmless
import HorizonIpc.Proofs.Guarded.Operation
import HorizonIpc.Proofs.Guarded.Parcel
import HorizonIpc.Proofs.Guarded.Request
import HorizonIpc.Proofs.Parcel.Admission
import HorizonIpc.Proofs.Parcel.Area
import HorizonIpc.Proofs.Parcel.Atomicity
import HorizonIpc.Proofs.Parcel.Boundary
import HorizonIpc.Proofs.Parcel.Fifo
import HorizonIpc.Proofs.Parcel.Name
import HorizonIpc.Proofs.Parcel.Reach
import HorizonIpc.Proofs.Parcel.Related
import HorizonIpc.Proofs.Parcel.Residue
import HorizonIpc.Proofs.Parcel.Restore
import HorizonIpc.Proofs.Parcel.RoundTrip
import HorizonIpc.Proofs.Parcel.TextGrammar
import HorizonIpc.Proofs.Parcel.Transfer
import HorizonIpc.Proofs.Parcel.Widening
import HorizonIpc.Proofs.Parcel.Wire
import HorizonIpc.Proofs.Service.Closing
import HorizonIpc.Proofs.Service.Name
import HorizonIpc.Proofs.Service.Opening
import HorizonIpc.Proofs.Service.Truncation
import HorizonIpc.Proofs.Session.Call
import HorizonIpc.Proofs.Session.Ensures
import HorizonIpc.Proofs.Session.Failure
import HorizonIpc.Proofs.Text.Latin
import HorizonIpc.Proofs.Text.Utf16
import HorizonIpc.Proofs.Version
import HorizonIpc.Service.Basic
import HorizonIpc.Service.NameService
import HorizonIpc.ServiceName
import HorizonIpc.Session.Call
import HorizonIpc.Session.Client
import HorizonIpc.Session.Failure
import HorizonIpc.Session.Transport
import HorizonIpc.Status
import HorizonIpc.Text
import HorizonIpc.Version
