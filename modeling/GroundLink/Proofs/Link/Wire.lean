import GroundLink.Proofs.Frame.Damage
import GroundLink.Proofs.Link.Relay

/-!
# What a link carries

A payload within the limit of a link has one frame and one form on the wire. The receivers at the
other end give back the payloads that were put on the wire and drop nothing, however the bytes are
cut on the way (`Inbound.push_all_wire`), and as long as bytes are missing they give the payloads
that come first (`Inbound.push_all_incomplete`).
-/

namespace GroundLink

open Scan

/-- A link has a frame for the payloads within its limit. -/
theorem LinkKind.frame_ok_iff {kind : LinkKind} {payload : Bytes} {frame : SerialFrame} :
    kind.frame payload = .ok frame ↔
      frame.payload = payload ∧ payload.length ≤ kind.maxPayload := by
  rw [LinkKind.frame, SerialFrame.ofPayload_eq_ok_iff, Nat.min_eq_left kind.max_payload_le]

/-- A payload within the limit of a link has a frame. -/
theorem LinkKind.exists_frame {kind : LinkKind} {payload : Bytes}
    (h : payload.length ≤ kind.maxPayload) :
    ∃ frame, kind.frame payload = .ok frame ∧ frame.payload = payload :=
  ⟨⟨payload, Nat.le_trans h kind.max_payload_le⟩, frame_ok_iff.mpr ⟨rfl, h⟩, rfl⟩

/-- A frame that arrives as it was sent. -/
def SerialFrame.transfer {limit : Nat} (frame : SerialFrame)
    (h : frame.payload.length ≤ limit) : Transfer limit where
  noise := []
  frame := frame
  arrived := frame.bytes
  quiet := by decide
  within := h
  opened := rfl
  sized := rfl

/-- A frame that is sent as it is arrives intact. -/
theorem SerialFrame.transfer_is_intact {limit : Nat} (frame : SerialFrame)
    (h : frame.payload.length ≤ limit) :
    (frame.transfer h).stretch.isIntact = true ∧
      (frame.transfer h).stretch.body = frame.payload := by
  obtain ⟨hbody, hsum⟩ := (frame.transfer h).untouched rfl
  exact ⟨decide_eq_true hsum, hbody⟩

/-- A new deframer gives the payload of each frame, and drops nothing. -/
theorem Deframer.push_frames {limit : Nat} (hlimit : limit ≤ SerialFrame.capacity)
    {frames : List SerialFrame} (hfit : ∀ frame ∈ frames, frame.payload.length ≤ limit) :
    let given := (new (.serial limit)).push (frames.map SerialFrame.bytes).flatten
    given.2 = ⟨frames.map SerialFrame.payload, []⟩ ∧ given.1.tally.errors = 0 := by
  intro given
  let stretches := frames.pmap (fun frame h => (frame.transfer h).stretch) hfit
  have hbytes : stretches.map Stretch.bytes = frames.map SerialFrame.bytes := by
    rw [List.map_pmap, ← List.pmap_eq_map hfit]
    exact List.pmap_congr_left frames fun frame _ h _ => (frame.transfer h).stretch_bytes
  have hbodies : stretches.map Stretch.body = frames.map SerialFrame.payload := by
    rw [List.map_pmap, ← List.pmap_eq_map hfit]
    exact List.pmap_congr_left frames fun frame _ h _ => (frame.transfer_is_intact h).2
  have hintact : ∀ s ∈ stretches, s.isIntact = true := by
    intro s hs
    obtain ⟨frame, hmem, rfl⟩ := List.mem_pmap.mp hs
    exact (frame.transfer_is_intact (hfit frame hmem)).1
  have htail : ¬ [0xAB, 0xCD] <:+: ([] : Bytes) := by decide
  obtain ⟨hframes, hchecksum, hother⟩ := push_stretches hlimit stretches htail
  rw [List.append_nil, hbytes] at hframes hchecksum hother
  rw [List.filter_eq_self.mpr hintact, hbodies] at hframes
  have herrors : given.1.tally.errors = 0 := by
    have hnone : stretches.countP (fun s => !s.isIntact) = 0 :=
      List.countP_eq_zero.mpr fun s hs => by rw [hintact s hs]; decide
    rw [Tally.errors, hother, hchecksum, hnone]
  -- every frame that is dropped is counted
  have hcounted : given.1.tally.errors = Tally.zero.errors + given.2.drops.length :=
    run_counts_drops _
  have hdrops : given.2.drops = [] := by
    apply List.eq_nil_of_length_eq_zero
    rw [herrors] at hcounted
    exact (hcounted.trans (Nat.zero_add _)).symm
  refine ⟨?_, herrors⟩
  show Received.mk given.2.frames given.2.drops = _
  rw [hframes, hdrops]

namespace Inbound

/-- Feeding a line is feeding its receiver. -/
theorem push_all_direct (serial : Deframer) (pieces : List Bytes) :
    (direct serial).pushAll pieces =
      (direct (serial.pushAll pieces).1, (serial.pushAll pieces).2) := by
  induction pieces generalizing serial with
  | nil => rfl
  | cons piece rest ih => simp only [pushAll, push, ih, Deframer.pushAll]

/-- Feeding two lists of pieces in turn is feeding all of them. -/
theorem push_all_append (inbound : Inbound) (first second : List Bytes) :
    inbound.pushAll (first ++ second) =
      (((inbound.pushAll first).1.pushAll second).1,
        (inbound.pushAll first).2 ++ ((inbound.pushAll first).1.pushAll second).2) := by
  induction first generalizing inbound with
  | nil => rfl
  | cons piece first ih =>
      simp only [List.cons_append, pushAll, ih, Received.append_assoc]

variable (kind : LinkKind) {frames : List SerialFrame}
  (hfit : ∀ frame ∈ frames, frame.payload.length ≤ kind.maxPayload)

include hfit

/-- The receivers of a link give what was put on the wire, wherever it is cut. -/
theorem push_all_wire {pieces : List Bytes}
    (hpieces : pieces.flatten = (frames.map kind.wire).flatten) :
    ((new kind).pushAll pieces).2 = ⟨frames.map SerialFrame.payload, []⟩ ∧
      ((new kind).pushAll pieces).1.tally.errors = 0 := by
  have hserial := Deframer.push_frames kind.max_payload_le hfit
  rw [← kind.framing_eq] at hserial
  have hsettled (framing : Framing) := Deframer.push_all_of_settled (Deframer.new_settled framing)
  cases kind with
  | serial =>
      show ((direct (.new .direct)).pushAll pieces).2 = _ ∧
        ((direct (.new .direct)).pushAll pieces).1.tally.errors = 0
      rw [push_all_direct, hsettled, hpieces]
      exact hserial
  | comms =>
      let carriers := frames.map RelayFrame.ofSerial
      have hcarriers : pieces.flatten = (carriers.map RelayFrame.bytes).flatten := by
        rw [hpieces, List.map_map]
        rfl
      have houter : ((Deframer.new .relay).pushAll pieces).2 =
          ⟨frames.map SerialFrame.bytes, []⟩ := by
        rw [hsettled, hcarriers, Deframer.push_carriers, List.map_map]
        rfl
      have hinner : (Deframer.new .relayed).pushAll (frames.map SerialFrame.bytes) =
          (Deframer.new .relayed).push (frames.map SerialFrame.bytes).flatten :=
        hsettled .relayed _
      have hnested := push_all_relayed (.new .relay) (.new .relayed) pieces
        (congrArg Received.drops houter)
      show ((relayed (.new .relay) (.new .relayed)).pushAll pieces).2 = _ ∧
        ((relayed (.new .relay) (.new .relayed)).pushAll pieces).1.tally.errors = 0
      rw [hnested]
      simp only [houter, hinner]
      exact hserial

/-- Of what is missing at the end nothing shows before it: the receivers give the payloads that
come first. -/
theorem push_all_incomplete {pieces : List Bytes}
    (hpieces : pieces.flatten <+: (frames.map kind.wire).flatten) :
    ((new kind).pushAll pieces).2.frames <+: frames.map SerialFrame.payload ∧
      ((new kind).pushAll pieces).2.drops = [] := by
  obtain ⟨missing, hmissing⟩ := hpieces
  have hall : (pieces ++ [missing]).flatten = (frames.map kind.wire).flatten := by
    rw [List.flatten_append, List.flatten_singleton, hmissing]
  obtain ⟨hgiven, -⟩ := push_all_wire kind hfit hall
  rw [push_all_append] at hgiven
  obtain ⟨hframes, hdrops⟩ := Received.mk.inj hgiven
  exact ⟨⟨_, hframes⟩, (List.append_eq_nil_iff.mp hdrops).1⟩

end Inbound

end GroundLink
