import GroundLink.Proofs.Frame.Image
import GroundLink.Proofs.Frame.Reception

/-!
# Serial frames through a relay

A radio link carries the stream of serial frames in relay frames, and relay frames need not begin
and end where serial frames do. The relay receiver gives back what each relay frame carries
(`push_carriers`), the serial receiver is fed with these pieces (`push_all_relayed`), and where the
pieces are cut does not show. `relayed_eq_direct` puts this together: nothing that the serial
receiver gives, drops, keeps or counts tells a radio link from a line.
-/

namespace GroundLink

open Scan

namespace RelayFrame

/-- A relay frame on the wire, as what a scan looks for. -/
def stretch (frame : RelayFrame) : Stretch (0x22, 0x69) 255 0 where
  noise := []
  length := UInt8.ofNat frame.payload.length
  body := frame.payload
  trailer := []
  quiet := by decide
  within := by
    have := (UInt8.ofNat frame.payload.length).toNat_lt
    omega
  filled := by
    have := frame.fits
    rw [UInt8.toNat_ofNat']
    omega
  trailed := rfl

/-- A frame as a stretch has the bytes of the frame as its window. -/
theorem stretch_window (frame : RelayFrame) : frame.stretch.window = frame.bytes := by
  simp [Stretch.window, stretch, bytes, mark]

/-- And no others. -/
theorem stretch_bytes (frame : RelayFrame) : frame.stretch.bytes = frame.bytes :=
  frame.stretch_window

/-- A relay frame is read back from its bytes. -/
theorem payload_of_bytes (frame : RelayFrame) : payloadOf frame.bytes = .ok frame.payload :=
  payloadOf_eq_ok_iff.mpr ⟨frame.fits, rfl⟩

/-- A scan of relay frames on the wire finds each of them, whatever bytes they carry. -/
theorem findings_of_carriers (carriers : List RelayFrame) :
    findings mark capacity 0 (carriers.map bytes).flatten =
      carriers.map (fun frame => .window frame.bytes) := by
  have hne : mark.1 ≠ mark.2 := by decide
  have hquiet : ¬ [mark.1, mark.2] <:+: [] := by decide
  have hbytes : (carriers.map stretch).map Stretch.bytes = carriers.map bytes := by
    simp [stretch_bytes]
  have hwindows : (carriers.map stretch).map (fun s => Finding.window s.window) =
      carriers.map (fun frame => .window frame.bytes) := by
    simp [stretch_window]
  calc findings mark capacity 0 (carriers.map bytes).flatten
      = findings mark capacity 0 (((carriers.map stretch).map Stretch.bytes).flatten ++ []) := by
        rw [hbytes, List.append_nil]
    _ = (carriers.map stretch).map (fun s => Finding.window s.window) :=
        Stretch.findings_bytes hne (carriers.map stretch) hquiet
    _ = carriers.map (fun frame => .window frame.bytes) := hwindows

end RelayFrame

/-- A new relay receiver gives what each relay frame carries, piece by piece. -/
theorem Deframer.push_carriers (carriers : List RelayFrame) :
    ((new .relay).push (carriers.map RelayFrame.bytes).flatten).2 =
      ⟨carriers.map RelayFrame.payload, []⟩ := by
  have hframes := (relay_agrees (carriers.map RelayFrame.bytes).flatten).frames
  have hread (frame : RelayFrame) :
      (Finding.window frame.bytes).payload? RelayFrame.payloadOf = some frame.payload := by
    rw [Finding.payload?, frame.payload_of_bytes]
    rfl
  rw [RelayFrame.findings_of_carriers, List.filterMap_map] at hframes
  have hpayloads : carriers.filterMap
      (Finding.payload? RelayFrame.payloadOf ∘ fun frame => .window frame.bytes) =
        carriers.map RelayFrame.payload := by
    rw [← List.filterMap_eq_map]
    exact congrArg (fun f => carriers.filterMap f) (funext hread)
  show Received.mk ((new .relay).push _).2.frames ((new .relay).push _).2.drops = _
  rw [hframes, hpayloads, relay_drops_nothing]

namespace Inbound

/-- Feeding a radio link is feeding its receivers stage by stage: first all pieces to the relay
receiver, and then all that it gives to the serial receiver. -/
theorem push_all_relayed (relay serial : Deframer) (pieces : List Bytes)
    (hdrops : (relay.pushAll pieces).2.drops = []) :
    (relayed relay serial).pushAll pieces =
      let outer := relay.pushAll pieces
      let inner := serial.pushAll outer.2.frames
      (relayed outer.1 inner.1, inner.2) := by
  induction pieces generalizing relay serial with
  | nil => rfl
  | cons piece rest ih =>
      simp only [Deframer.pushAll, Received.drops_append, List.append_eq_nil_iff] at hdrops
      obtain ⟨hfirst, hrest⟩ := hdrops
      simp only [pushAll, push, ih _ _ hrest, hfirst, Deframer.pushAll, Received.frames_append,
        Deframer.push_all_append, List.nil_append]

/-- A radio link gives what a line gives. However a stream is divided among relay frames, and
however their bytes are cut on the way, the serial receiver ends as if it had been fed with the
stream itself, the relay receiver does not tell the cuts, and no relay frame is dropped. -/
theorem relayed_eq_direct (stream : Bytes) (carriers : List RelayFrame) (pieces : List Bytes)
    (hstream : (carriers.map RelayFrame.payload).flatten = stream)
    (hpieces : pieces.flatten = (carriers.map RelayFrame.bytes).flatten) :
    let relay := (Deframer.new .relay).push pieces.flatten
    let direct := (Deframer.new .relayed).push stream
    (new .comms).pushAll pieces = (relayed relay.1 direct.1, direct.2) := by
  intro relay direct
  have houter : (Deframer.new .relay).pushAll pieces = relay :=
    Deframer.push_all_of_settled (Deframer.new_settled .relay) pieces
  have hcarried : relay.2 = ⟨carriers.map RelayFrame.payload, []⟩ := by
    show ((Deframer.new .relay).push pieces.flatten).2 = _
    rw [hpieces, Deframer.push_carriers]
  have hinner : (Deframer.new .relayed).pushAll (carriers.map RelayFrame.payload) = direct := by
    rw [Deframer.push_all_of_settled (Deframer.new_settled .relayed), hstream]
  have hdrops : ((Deframer.new .relay).pushAll pieces).2.drops = [] := by
    rw [houter, hcarried]
  show (relayed (.new .relay) (.new .relayed)).pushAll pieces = _
  rw [push_all_relayed _ _ _ hdrops, houter]
  simp only [hcarried, hinner]

/-- A serial frame that carries the mark of relay frames is spread over four relay frames, one of
them empty, and the last relay frame also carries a second serial frame. -/
theorem relayed_eq_direct_at_cuts :
    let stream : Bytes :=
      [0xAB, 0xCD, 0x02, 0x22, 0x69, 0x3E, 0xD9, 0xAB, 0xCD, 0x00, 0xFF, 0xFF]
    let carriers : List RelayFrame :=
      [⟨[0xAB], by decide⟩, ⟨[], by decide⟩, ⟨[0xCD, 0x02, 0x22], by decide⟩,
        ⟨[0x69, 0x3E, 0xD9, 0xAB, 0xCD, 0x00, 0xFF, 0xFF], by decide⟩]
    let pieces : List Bytes :=
      [[0x22], [0x69, 0x01, 0xAB, 0x22], [], [0x69, 0x00, 0x22, 0x69, 0x03, 0xCD, 0x02],
        [0x22, 0x22, 0x69, 0x08, 0x69, 0x3E, 0xD9, 0xAB], [0xCD, 0x00, 0xFF, 0xFF]]
    (carriers.map RelayFrame.payload).flatten = stream ∧
      pieces.flatten = (carriers.map RelayFrame.bytes).flatten ∧
      ((new .comms).pushAll pieces).2.frames = [[0x22, 0x69], []] := by
  intro stream carriers pieces
  have hstream : (carriers.map RelayFrame.payload).flatten = stream := by decide
  have hpieces : pieces.flatten = (carriers.map RelayFrame.bytes).flatten := by decide
  have hdirect : ((Deframer.new .relayed).push stream).2.frames = [[0x22, 0x69], []] := by
    decide +kernel
  have hnested := relayed_eq_direct stream carriers pieces hstream hpieces
  refine ⟨hstream, hpieces, ?_⟩
  rw [hnested]
  exact hdirect

end Inbound

end GroundLink
