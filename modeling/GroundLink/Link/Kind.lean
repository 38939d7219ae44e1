import GroundLink.Frame.Deframer

/-!
# Kinds of links

A link carries serial frames, either directly on a line or inside the relay frames of a radio. The
kind decides how much a frame may carry, how frames are written, and how they are found in what is
received.
-/

namespace GroundLink

/-- How frames are carried. -/
inductive LinkKind where
  /-- Serial frames on a line. -/
  | serial
  /-- Serial frames inside relay frames. -/
  | comms
deriving DecidableEq, Repr

namespace LinkKind

/-- The name of a kind. -/
def name : LinkKind → String
  | serial => "serial"
  | comms => "comms"

/-- The kind of a name. -/
def ofName? : String → Option LinkKind
  | "serial" => some serial
  | "comms" => some comms
  | _ => none

/-- The kind that a person names, in any letter case. -/
def read (text : String) : Except String LinkKind :=
  match ofName? text.toLower with
  | some kind => .ok kind
  | none => .error s!"unknown link kind '{text.toLower}'"

/-- The most payload bytes of a frame. -/
def maxPayload : LinkKind → Nat
  | serial => SerialFrame.capacity
  | comms => SerialFrame.relayedCapacity

/-- A frame for a payload, if the link carries that much. -/
def frame (kind : LinkKind) (payload : Bytes) : Except WireError SerialFrame :=
  SerialFrame.ofPayload payload kind.maxPayload

/-- The bytes of a frame on the link. -/
def wire (kind : LinkKind) (frame : SerialFrame) : Bytes :=
  match kind with
  | serial => frame.bytes
  | comms => (RelayFrame.ofSerial frame).bytes

end LinkKind

/-- The receivers of a link. -/
inductive Inbound where
  | direct (serial : Deframer)
  | relayed (relay serial : Deframer)
deriving DecidableEq, Repr

namespace Inbound

/-- The receivers of a link that has received nothing. -/
def new : LinkKind → Inbound
  | .serial => direct (.new .direct)
  | .comms => relayed (.new .relay) (.new .relayed)

/-- Feed a piece of what is received, and give the payloads of the serial frames it completes. What
a relay frame carries is a piece of the inner stream. -/
def push (inbound : Inbound) (data : Bytes) : Inbound × Received :=
  match inbound with
  | direct serial =>
    let (serial, received) := serial.push data
    (direct serial, received)
  | relayed relay serial =>
    let (relay, outer) := relay.push data
    let (serial, inner) := serial.pushAll outer.frames
    (relayed relay serial, ⟨inner.frames, outer.drops ++ inner.drops⟩)

/-- Feed pieces one after another. -/
def pushAll (inbound : Inbound) : List Bytes → Inbound × Received
  | [] => (inbound, .none)
  | piece :: rest =>
    let first := inbound.push piece
    let last := first.1.pushAll rest
    (last.1, first.2 ++ last.2)

/-- What the receiver of serial frames has counted. -/
def tally : Inbound → Tally
  | direct serial => serial.tally
  | relayed _ serial => serial.tally

end Inbound

end GroundLink
