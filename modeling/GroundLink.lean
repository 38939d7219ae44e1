import GroundLink.Binary.Double
import GroundLink.Binary.Rounding
import GroundLink.Bytes
import GroundLink.Checksum
import GroundLink.CommandLine.Arguments
import GroundLink.CommandLine.Plan
import GroundLink.CommandLine.Report
import GroundLink.CommandLine.Session
import GroundLink.Decimal.Reader
import GroundLink.Decimal.Shortest
import GroundLink.Decimal.Text
import GroundLink.Dictionary
import GroundLink.Document.Basic
import GroundLink.Field.Basic
import GroundLink.Field.Decode
import GroundLink.Field.Encode
import GroundLink.Field.Input
import GroundLink.Field.Kind
import GroundLink.Field.List
import GroundLink.Field.Value
import GroundLink.Frame.Deframer
import GroundLink.Frame.Error
import GroundLink.Frame.Framing
import GroundLink.Frame.Relay
import GroundLink.Frame.Serial
import GroundLink.Json.Basic
import GroundLink.Json.Reader
import GroundLink.Link.Client
import GroundLink.Link.Correlator
import GroundLink.Link.Error
import GroundLink.Link.Exchange
import GroundLink.Link.FanOut
import GroundLink.Link.Holder
import GroundLink.Link.Kind
import GroundLink.Link.Listener
import GroundLink.Link.Pipe
import GroundLink.Link.Queue
import GroundLink.Link.Request
import GroundLink.Link.Settings
import GroundLink.Link.Workers
import GroundLink.Main
import GroundLink.Message.Basic
import GroundLink.Message.ResultCode
import GroundLink.Metric
import GroundLink.Numeral
import GroundLink.Path
import GroundLink.Power
import GroundLink.Proofs.Bytes
import GroundLink.Proofs.Calendar
import GroundLink.Proofs.Checksum
import GroundLink.Proofs.Except
import GroundLink.Proofs.Field.ByteOrder
import GroundLink.Proofs.Field.Conformity
import GroundLink.Proofs.Field.Integer
import GroundLink.Proofs.Field.Normal
import GroundLink.Proofs.Field.Notation
import GroundLink.Proofs.Field.Outline
import GroundLink.Proofs.Field.RoundTrip
import GroundLink.Proofs.Field.Scalar
import GroundLink.Proofs.Field.Size
import GroundLink.Proofs.Field.Slices
import GroundLink.Proofs.Field.TypeString
import GroundLink.Proofs.Frame.Accounting
import GroundLink.Proofs.Frame.Burst
import GroundLink.Proofs.Frame.Chunking
import GroundLink.Proofs.Frame.Collected
import GroundLink.Proofs.Frame.Damage
import GroundLink.Proofs.Frame.Flips
import GroundLink.Proofs.Frame.Hunt
import GroundLink.Proofs.Frame.Image
import GroundLink.Proofs.Frame.Reception
import GroundLink.Proofs.Frame.Scan
import GroundLink.Proofs.Frame.Settling
import GroundLink.Proofs.Frame.Silence
import GroundLink.Proofs.Frame.Window
import GroundLink.Proofs.Json
import GroundLink.Proofs.Link.Broadcast
import GroundLink.Proofs.Link.Closing
import GroundLink.Proofs.Link.Correlation
import GroundLink.Proofs.Link.Delivery
import GroundLink.Proofs.Link.Dialogue
import GroundLink.Proofs.Link.EarlyReport
import GroundLink.Proofs.Link.Footprint
import GroundLink.Proofs.Link.Holdings
import GroundLink.Proofs.Link.Intake
import GroundLink.Proofs.Link.Pipe
import GroundLink.Proofs.Link.Queue
import GroundLink.Proofs.Link.Relay
import GroundLink.Proofs.Link.Sending
import GroundLink.Proofs.Link.Shutdown
import GroundLink.Proofs.Link.Traffic
import GroundLink.Proofs.Link.Wire
import GroundLink.Proofs.Message
import GroundLink.Proofs.Numeral
import GroundLink.Proofs.Registry
import GroundLink.Proofs.RunTime
import GroundLink.Proofs.Text
import GroundLink.Proofs.TaskMask
import GroundLink.Proofs.Timestamp
import GroundLink.Proofs.Trace
import GroundLink.Registry.Basic
import GroundLink.Registry.Command
import GroundLink.Registry.Definition
import GroundLink.Registry.Error
import GroundLink.Registry.Load
import GroundLink.Registry.Log
import GroundLink.Registry.Task
import GroundLink.Simulation.Board
import GroundLink.Simulation.Directory
import GroundLink.Simulation.Offline
import GroundLink.Text.Blank
import GroundLink.Text.Hex
import GroundLink.Text.Quoted
import GroundLink.Text.Unprintable
import GroundLink.Time.Calendar
import GroundLink.Time.Duration
import GroundLink.Time.Instant
import GroundLink.Time.Timestamp
import GroundLink.Trace
import GroundLink.Yaml.Cursor
import GroundLink.Yaml.Draft
import GroundLink.Yaml.Meaning
import GroundLink.Yaml.Node
import GroundLink.Yaml.Scalar
import GroundLink.Yaml.Tag
import GroundLink.Yaml.Token
import GroundLink.Proofs.Link.Discarding
import GroundLink.Proofs.Link.Listening
import GroundLink.Proofs.Registry.Merging
import GroundLink.Proofs.Registry.WrittenId
