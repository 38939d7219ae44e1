import GroundLink.Frame.Relay

/-!
# Finding a frame in a stream

A receiver hunts for the two bytes of the mark, reads the length, then takes that many payload bytes
and, for serial frames, the checksum. `Framing.step` is one move of the receiver on the input at
hand. A move that lacks input takes nothing and stays where it is.
-/

namespace GroundLink

/-- How frames are marked on a line. -/
inductive Framing where
  /-- Serial frames with at most `limit` payload bytes. -/
  | serial (limit : Nat)
  /-- Relay frames. -/
  | relay
deriving DecidableEq, Repr

/-- Where a receiver stands inside a frame. -/
inductive Stage where
  /-- Hunting for the first byte of the mark. -/
  | sync0
  /-- The second byte of the mark is due. -/
  | sync1
  /-- The length byte is due. -/
  | header
  /-- Payload bytes are due. -/
  | data (length : UInt8)
  /-- The checksum of the payload is due. -/
  | trailer (length : UInt8)
deriving DecidableEq, Repr

/-- What a move has settled. -/
inductive Outcome where
  /-- The frame is still in progress. -/
  | pending
  /-- The collected bytes are a whole frame. -/
  | complete
  /-- The frame in progress is dropped. -/
  | rejected (error : WireError)
deriving DecidableEq, Repr

/-- The result of one move. -/
structure Move where
  /-- Where to go on. -/
  next : Stage
  /-- How many input bytes were taken. -/
  consumed : Nat
  outcome : Outcome
  /-- The bytes collected for the frame so far. -/
  frame : Bytes
deriving DecidableEq, Repr

namespace Framing

/-- Frames on a direct line. -/
def direct : Framing := .serial SerialFrame.capacity

/-- Serial frames that arrive inside relay frames. -/
def relayed : Framing := .serial SerialFrame.relayedCapacity

/-- The name used in reports. -/
def name : Framing → String
  | .serial _ => "serial"
  | .relay => "relay"

/-- The two bytes that open a frame. -/
def mark : Framing → UInt8 × UInt8
  | .serial _ => SerialFrame.mark
  | .relay => RelayFrame.mark

/-- The most payload bytes that are accepted. -/
def limit : Framing → Nat
  | .serial limit => limit
  | .relay => RelayFrame.capacity

/-- Whether a checksum follows the payload. -/
def isChecked : Framing → Bool
  | .serial _ => true
  | .relay => false

/-- Hunt for the mark and read the length. -/
def stepHeader (framing : Framing) (stage : Stage) (frame : Bytes) (byte : UInt8) : Move :=
  let (first, second) := framing.mark
  match stage with
  | .sync0 =>
    if byte = first then ⟨.sync1, 1, .pending, frame ++ [byte]⟩
    else ⟨.sync0, 1, .pending, frame⟩
  | .sync1 =>
    if byte = second then ⟨.header, 1, .pending, frame ++ [byte]⟩
    else if byte = first then ⟨.sync1, 1, .pending, [byte]⟩
    else ⟨.sync0, 1, .pending, []⟩
  | .header =>
    if framing.limit < byte.toNat then
      ⟨.sync0, 1, .rejected (.payloadTooLong framing.limit byte.toNat), frame⟩
    else ⟨.data byte, 1, .pending, frame ++ [byte]⟩
  | stage => ⟨stage, 0, .pending, frame⟩

/-- Take the payload once all of it has arrived. -/
def stepData (framing : Framing) (length : UInt8) (frame input : Bytes) : Move :=
  if input.length < length.toNat then ⟨.data length, 0, .pending, frame⟩
  else
    let frame := frame ++ input.take length.toNat
    if framing.isChecked then ⟨.trailer length, length.toNat, .pending, frame⟩
    else ⟨.sync0, length.toNat, .complete, frame⟩

/-- Compare the checksum once both its bytes have arrived. -/
def stepTrailer (length : UInt8) (frame input : Bytes) : Move :=
  match input with
  | high :: low :: _ =>
    let received := Bytes.toUInt16 [high, low]
    let computed := Checksum.ofBytes ((frame.drop 3).take length.toNat)
    if computed ≠ received then ⟨.sync0, 2, .rejected (.checksumMismatch computed received), frame⟩
    else ⟨.sync0, 2, .complete, frame ++ [high, low]⟩
  | _ => ⟨.trailer length, 0, .pending, frame⟩

/-- One move of the receiver. -/
def step (framing : Framing) (stage : Stage) (frame input : Bytes) : Move :=
  match stage with
  | .data length => framing.stepData length frame input
  | .trailer length => stepTrailer length frame input
  | stage =>
    match input with
    | byte :: _ => framing.stepHeader stage frame byte
    | [] => ⟨stage, 0, .pending, frame⟩

/-- The payload of a whole frame. -/
def payload (framing : Framing) (frame : Bytes) : Except WireError Bytes :=
  match framing with
  | .serial limit => do
    let frame ← SerialFrame.parse frame
    let frame ← SerialFrame.ofPayload frame.payload limit
    pure frame.payload
  | .relay => do
    let frame ← RelayFrame.parse frame
    pure frame.payload

end Framing

namespace Stage

/-- How many moves without input a stage still allows. -/
def rank : Stage → Nat
  | .data _ => 1
  | _ => 0

/-- The stage in words. -/
def text : Stage → String
  | .sync0 => "Sync0"
  | .sync1 => "Sync1"
  | .header => "Header"
  | .data length => "Data \x7b len: " ++ toString length.toNat ++ " \x7d"
  | .trailer length => "Crc \x7b len: " ++ toString length.toNat ++ " \x7d"

end Stage

end GroundLink
