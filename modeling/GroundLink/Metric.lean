import GroundLink.Frame.Deframer

/-!
# What is counted

The quantities that a link reports about itself: their names, what they count, and the labels that
split them.
-/

namespace GroundLink

/-- How a quantity is reported. -/
inductive MetricKind where
  /-- A count that grows. -/
  | counter
  /-- A value that is set. -/
  | gauge
  /-- Samples. -/
  | histogram
deriving DecidableEq, Repr

/-- The name of a kind. -/
def MetricKind.name : MetricKind → String
  | counter => "counter"
  | gauge => "gauge"
  | histogram => "histogram"

/-- What a quantity is measured in. -/
inductive MetricUnit where
  | bytes
  | count
  | microseconds
deriving DecidableEq, Repr

/-- The name of a unit. -/
def MetricUnit.name : MetricUnit → String
  | bytes => "bytes"
  | count => "count"
  | microseconds => "microseconds"

/-- A quantity that a link reports. -/
structure Metric where
  name : String
  kind : MetricKind
  description : String
  unit : Option MetricUnit
  /-- The names of its labels. -/
  labels : List String
deriving DecidableEq, Repr

namespace Metric

/-- A quantity without further description. -/
def plain (kind : MetricKind) (name : String) : Metric :=
  ⟨name, kind, "", none, []⟩

/-- A number of events. -/
def countOf (name description : String) (labels : List String) : Metric :=
  ⟨name, .counter, description, some .count, labels⟩

/-- Bytes read from the device. -/
def receivedBytes : Metric :=
  ⟨"obc.link.rx_bytes", .counter, "Bytes read from the device", some .bytes,
    ["link", "address"]⟩

/-- Bytes written to the device. -/
def sentBytes : Metric :=
  ⟨"obc.link.tx_bytes", .counter, "Bytes written to the device", some .bytes,
    ["link", "address"]⟩

/-- Failed reads and writes. -/
def deviceErrors : Metric :=
  countOf "obc.link.io_errors" "Device I/O errors" ["link", "address", "direction"]

/-- Frames found. -/
def framesReceived : Metric :=
  countOf "obc.frame.received" "Frames received and validated" ["format"]

/-- Frames dropped. -/
def frameErrors : Metric :=
  countOf "obc.frame.errors" "Frames dropped by the stream parser" ["format", "reason"]

/-- Messages of no known type. -/
def unknownMessages : Metric :=
  countOf "obc.packet.unknown" "Frames whose payload type is unknown" []

/-- Commands sent. -/
def commandsSent : Metric :=
  countOf "obc.command.sent" "Commands sent" ["command", "mode"]

/-- Commands without a response. -/
def commandErrors : Metric :=
  countOf "obc.command.errors" "Commands that failed" ["command", "error"]

/-- Times from a command to its response. -/
def roundTrip : Metric :=
  ⟨"obc.command.round_trip_us", .histogram, "Immediate command round-trip time",
    some .microseconds, ["command"]⟩

/-- Responses that nobody waited for. -/
def responsesDiscarded : Metric :=
  countOf "obc.command.responses_discarded" "Stale or mismatched responses discarded" []

/-- Scheduled commands without an outcome. -/
def scheduledPending : Metric :=
  ⟨"obc.scheduled.pending", .gauge, "Scheduled commands awaiting a response", some .count, []⟩

/-- Outcomes that no scheduled command waited for. -/
def scheduledUnmatched : Metric :=
  countOf "obc.scheduled.unmatched" "Scheduled responses with no pending command" []

/-- Log entries received. -/
def logsReceived : Metric :=
  countOf "obc.log.received" "Log entries received" ["group"]

/-- Log entries that a listener missed. -/
def logsDropped : Metric :=
  countOf "obc.log.dropped" "Log entries dropped at a full listener" []

/-- Every quantity, in the order of their description. -/
def all : List Metric :=
  [receivedBytes, sentBytes, deviceErrors, framesReceived, frameErrors, unknownMessages,
    commandsSent, commandErrors, roundTrip, responsesDiscarded, scheduledPending,
    scheduledUnmatched, logsReceived, logsDropped]

/-- The name of a quantity for given values of its labels. -/
def series (metric : Metric) (values : List String) : String :=
  let labels := (metric.labels.zip values).map fun (label, value) => label ++ "=" ++ value
  metric.name ++ "\x7b" ++ ",".intercalate labels ++ "\x7d"

/-- What a receiver of frames counts, by series. -/
def ofReceived (framing : Framing) (received : Received) : List (String × Nat) :=
  let frames := received.frames.length
  let reasons := received.drops.map fun drop => drop.error.reason
  (if frames = 0 then [] else [(framesReceived.series [framing.name], frames)]) ++
    reasons.eraseDups.map fun reason =>
      (frameErrors.series [framing.name, reason], reasons.count reason)

end Metric

end GroundLink
