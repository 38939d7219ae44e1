import GroundLink.Proofs.Frame.Hunt
import Mathlib.Data.List.Basic

/-!
# Reception is scanning

A deframer hunts byte by byte and keeps a frame in progress, yet what it gives for a stream is what
a scan of the whole stream finds. `hunting_gives` puts the steps from mark to mark together, for
every framing; `push_eq_findings` says what a new deframer gives and counts.
-/

namespace GroundLink.Deframer

open Scan

variable {d : Deframer} {framing : Framing}

/-! ## A whole stream -/

/-- A run gives and counts what `found` lists. -/
def Gives (d : Deframer) (found : List Finding) : Prop :=
  d.run.2.frames = found.filterMap (fun x => (d.framing.judge x).toOption) ∧
    d.run.1.tally = found.foldl (fun t x => t.count (d.framing.judge x)) d.tally

/-- What leads to a deframer gives what that gives. -/
theorem LeadsTo.gives {first second : Deframer} {found : List Finding}
    (h : first.LeadsTo second) (hsecond : second.Gives found) : first.Gives found := by
  simpa only [Gives, h.run, h.framing, h.tally] using hsecond

/-- A deframer that runs dry gives nothing. -/
theorem RunsDry.gives_nil (h : d.RunsDry) : d.Gives [] := by
  obtain ⟨last, hrun, htally⟩ := h
  rw [Gives, hrun]
  exact ⟨rfl, htally⟩

/-- After one frame is judged, the run is that of the deframer which hunts behind it. -/
theorem Judges.gives_cons {x : Finding} {rest : Bytes} {found : List Finding}
    (h : d.Judges (d.framing.judge x) rest)
    (hrest : (hunting d.framing (d.tally.count (d.framing.judge x)) rest).Gives found) :
    d.Gives (x :: found) := by
  obtain ⟨drops, hrun⟩ := h
  obtain ⟨hframes, htally⟩ := hrest
  rw [Gives, hrun]
  refine ⟨?_, htally⟩
  rw [Received.frames_append, hframes]
  cases hjudged : d.framing.judge x with
  | ok payload => simp [hjudged, hunting, Except.toOption]
  | error error => simp [hjudged, hunting, Except.toOption]

/-- A hunting deframer gives what a scan of its input finds. -/
theorem hunting_gives (framing : Framing) (tally : Tally) (stream : Bytes) :
    (hunting framing tally stream).Gives
      (findings framing.mark framing.limit framing.trailerLength stream) := by
  induction stream using stream_induction framing.mark framing.limit framing.trailerLength
    generalizing tally with
  | unmarked stream hmark =>
      rw [findings_of_no_mark hmark]
      exact (hunting_runs_dry hmark).gives_nil
  | bare stream hmark =>
      have hdry : (marked framing tally []).RunsDry := runs_dry_of_settled ⟨rfl, rfl, rfl⟩
      rw [findings_of_bare_mark hmark]
      exact (hunting_leads_to_marked hmark).gives hdry.gives_nil
  | short stream length rest hmark hlimit hshort =>
      have hdry : (loading framing tally length rest).RunsDry := loading_runs_dry hshort
      rw [findings_of_short hmark hlimit hshort]
      refine (hunting_leads_to_marked hmark).gives ?_
      exact (marked_leads_to_loading hlimit rest).gives hdry.gives_nil
  | oversized stream length rest hmark hover ih =>
      rw [findings_of_oversized hmark hover]
      refine (hunting_leads_to_marked hmark).gives ?_
      exact (marked_judges_oversized hover rest).gives_cons (ih _)
  | frame stream length body tail rest hmark hlimit hbody htail ih =>
      rw [findings_of_frame hmark hlimit hbody htail]
      refine (hunting_leads_to_marked hmark).gives ?_
      refine (marked_leads_to_loading hlimit _).gives ?_
      exact (loading_judges hbody htail rest).gives_cons (ih _)

/-! ## What a scan says of a new deframer -/

/-- A deframer gave what a scan found, when windows are read by `read`: the payloads of the windows
that `read` accepts, the number of windows that it refuses, and the number of oversized lengths. -/
structure Agrees (found : List Finding) (read : Bytes → Except WireError Bytes)
    (given : Deframer × Received) : Prop where
  frames : given.2.frames = found.filterMap (Finding.payload? read)
  checksumErrors : given.1.tally.checksumErrors = found.countP (Finding.isRefused read)
  otherErrors : given.1.tally.otherErrors = found.countP Finding.isOversized

/-- Where windows are judged as `read` reads them and refused for their checksum alone, refused
windows and oversized lengths are counted apart. -/
theorem foldl_count (read : Bytes → Except WireError Bytes) (found : List Finding)
    (hread : ∀ bytes, .window bytes ∈ found → framing.payload bytes = read bytes)
    (hrefused : ∀ bytes error, .window bytes ∈ found → read bytes = .error error →
      ∃ computed received, error = .checksumMismatch computed received) (t : Tally) :
    let counted := found.foldl (fun t x => t.count (framing.judge x)) t
    counted.checksumErrors = t.checksumErrors + found.countP (Finding.isRefused read) ∧
      counted.otherErrors = t.otherErrors + found.countP Finding.isOversized := by
  induction found generalizing t with
  | nil => exact ⟨rfl, rfl⟩
  | cons x found ih =>
      have hrest := ih (fun bytes h => hread bytes (List.mem_cons_of_mem x h))
        (fun bytes error h => hrefused bytes error (List.mem_cons_of_mem x h))
        (t.count (framing.judge x))
      simp only [List.foldl_cons, List.countP_cons, hrest]
      cases x with
      | oversized length =>
          simp [Framing.judge, Tally.count, Tally.countDrop, Finding.isRefused,
            Finding.isOversized]
          omega
      | window bytes =>
          have hbytes := hread bytes (List.mem_cons_self ..)
          cases hresult : read bytes with
          | ok payload =>
              simp [Framing.judge, hbytes, hresult, Tally.count, Finding.isRefused,
                Finding.isOversized, Except.toOption]
          | error error =>
              obtain ⟨computed, received, rfl⟩ :=
                hrefused bytes error (List.mem_cons_self ..) hresult
              simp [Framing.judge, hbytes, hresult, Tally.count, Tally.countDrop,
                Finding.isRefused, Finding.isOversized, Except.toOption]
              omega

/-- What a deframer gives is told by any reading of windows that agrees with how it judges them. -/
theorem Gives.agrees {d : Deframer} {found : List Finding} (h : d.Gives found)
    (hchecksum : d.tally.checksumErrors = 0) (hother : d.tally.otherErrors = 0)
    (read : Bytes → Except WireError Bytes)
    (hread : ∀ bytes, .window bytes ∈ found → d.framing.payload bytes = read bytes)
    (hrefused : ∀ bytes error, .window bytes ∈ found → read bytes = .error error →
      ∃ computed received, error = .checksumMismatch computed received) :
    Agrees found read d.run := by
  obtain ⟨hframes, htally⟩ := h
  obtain ⟨hcounted, hcountedOther⟩ := foldl_count read found hread hrefused d.tally
  refine ⟨?_, ?_, ?_⟩
  · rw [hframes]
    apply List.filterMap_congr
    intro x hx
    cases x with
    | oversized length => rfl
    | window bytes => exact congrArg Except.toOption (hread bytes hx)
  · rw [htally, hcounted, hchecksum, Nat.zero_add]
  · rw [htally, hcountedOther, hother, Nat.zero_add]

/-- A new deframer hunts in what it is given. -/
theorem push_new (framing : Framing) (stream : Bytes) :
    (new framing).push stream =
      (hunting framing { Tally.zero with bytes := stream.length } stream).run := by
  rw [push_eq_run_feed]
  simp [new, feed, hunting, Tally.zero]

/-- A new deframer of serial frames gives what a scan finds, read frame by frame. -/
theorem serial_agrees {limit : Nat} (hcapacity : limit ≤ SerialFrame.capacity) (stream : Bytes) :
    Agrees (findings SerialFrame.mark limit 2 stream) SerialFrame.payloadOf
      ((new (.serial limit)).push stream) := by
  rw [push_new]
  refine (hunting_gives (.serial limit) _ stream).agrees rfl rfl _ ?_ ?_
  · intro bytes hmem
    obtain ⟨length, body, tail, hlimit, hbody, htail, rfl⟩ := is_cut_of_mem hmem
    obtain ⟨high, low, rfl⟩ := List.length_eq_two.mp htail
    exact Framing.serial_payload_window hbody hcapacity hlimit high low
  · intro bytes error hmem herror
    obtain ⟨length, body, tail, hlimit, hbody, htail, rfl⟩ := is_cut_of_mem hmem
    obtain ⟨high, low, rfl⟩ := List.length_eq_two.mp htail
    have hwindow := herror.symm.trans
      (SerialFrame.payload_of_window hbody (Nat.le_trans hlimit hcapacity) high low)
    split at hwindow
    · cases hwindow
    · cases hwindow
      exact ⟨_, _, rfl⟩

/-- What a scan for relay frames finds are whole relay frames. -/
theorem relay_finding {stream : Bytes} {x : Finding}
    (hmem : x ∈ findings RelayFrame.mark RelayFrame.capacity 0 stream) :
    ∃ bytes frame, x = .window bytes ∧ RelayFrame.parse bytes = .ok frame := by
  have hcut := is_cut_of_mem hmem
  cases x with
  | oversized length =>
      have hover : 255 < length.toNat := hcut
      have := length.toNat_lt
      omega
  | window bytes =>
      obtain ⟨length, body, tail, hlimit, hbody, htail, rfl⟩ := hcut
      obtain rfl : tail = [] := List.eq_nil_of_length_eq_zero htail
      obtain ⟨frame, _, hparse⟩ := RelayFrame.parse_window hbody
      rw [List.append_nil]
      exact ⟨_, frame, rfl, hparse⟩

/-- On a relay link a deframer agrees with the scan. -/
theorem relay_agrees (stream : Bytes) :
    Agrees (findings RelayFrame.mark RelayFrame.capacity 0 stream) RelayFrame.payloadOf
      ((new .relay).push stream) := by
  rw [push_new]
  refine (hunting_gives .relay _ stream).agrees rfl rfl _ ?_ ?_
  · intro bytes _
    exact Framing.relay_payload bytes
  · intro bytes error hmem herror
    obtain ⟨_, frame, ⟨⟩, hparse⟩ := relay_finding hmem
    rw [RelayFrame.payloadOf, hparse] at herror
    cases herror

/-- A new deframer of relay frames gives every window that a scan finds, and drops nothing. -/
theorem relay_gives_all (stream : Bytes) :
    let given := (new .relay).push stream
    given.2.frames.map some =
        (findings RelayFrame.mark RelayFrame.capacity 0 stream).map
          (Finding.payload? RelayFrame.payloadOf) ∧
      given.1.tally.checksumErrors = 0 ∧ given.1.tally.otherErrors = 0 := by
  obtain ⟨hframes, hchecksum, hother⟩ := relay_agrees stream
  refine ⟨?_, ?_, ?_⟩
  · rw [hframes, List.map_filterMap_some_eq_filter_map_isSome, List.filter_eq_self]
    intro payload hpayload
    obtain ⟨x, hmem, rfl⟩ := List.mem_map.mp hpayload
    obtain ⟨bytes, frame, rfl, hparse⟩ := relay_finding hmem
    simp [Finding.payload?, RelayFrame.payloadOf, hparse, Except.map, Except.toOption]
  · rw [hchecksum, List.countP_eq_zero]
    intro x hmem
    obtain ⟨bytes, frame, rfl, hparse⟩ := relay_finding hmem
    simp [Finding.isRefused, RelayFrame.payloadOf, hparse, Except.map, Except.toOption]
  · rw [hother, List.countP_eq_zero]
    intro x hmem
    obtain ⟨bytes, frame, rfl, hparse⟩ := relay_finding hmem
    simp [Finding.isOversized]

/-! ## Dropped frames -/

/-- A drop counts as one error. -/
theorem errors_count_drop (t : Tally) (error : WireError) :
    (t.countDrop error).errors = t.errors + 1 := by
  cases error with
  | checksumMismatch computed received =>
      show t.checksumErrors + 1 + t.otherErrors = t.errors + 1
      rw [Tally.errors, Nat.add_right_comm]
  | _ => rfl

/-- A move counts an error for each frame that it drops. -/
theorem apply_counts_drops (d : Deframer) (move : Move) :
    (d.apply move).1.tally.errors = d.tally.errors + (d.apply move).2.drops.length := by
  simp only [apply]
  cases move.outcome with
  | pending => rfl
  | rejected error => exact errors_count_drop d.tally error
  | complete =>
      simp only [close]
      split
      case h_1 => rfl
      case h_2 error _ => exact errors_count_drop d.tally error

/-- Every dropped frame is counted once. -/
theorem run_counts_drops (d : Deframer) :
    d.run.1.tally.errors = d.tally.errors + d.run.2.drops.length := by
  induction d using run_induction with
  | settled d h =>
      rw [run_of_settled h]
      rfl
  | move d h ih =>
      rw [run_of_not_settled h, ih, apply_counts_drops, Received.drops_append, List.length_append,
        Nat.add_assoc]

/-- No relay frame is ever dropped. -/
theorem relay_drops_nothing (stream : Bytes) : ((new .relay).push stream).2.drops = [] := by
  obtain ⟨_, hchecksum, hother⟩ := relay_gives_all stream
  have hcounted : ((new .relay).push stream).1.tally.errors =
      Tally.zero.errors + ((new .relay).push stream).2.drops.length := run_counts_drops _
  rw [Tally.errors, hchecksum, hother] at hcounted
  apply List.eq_nil_of_length_eq_zero
  simpa [Tally.zero, Tally.errors] using hcounted.symm

/-! ## The three framings -/

/-- New deframers give for every stream what a scan of the whole stream finds. Serial frames are
marked by `AB CD` and hold at most 237 payload bytes on a direct line and 233 inside relay frames;
each window is read as one serial frame. Relay frames are marked by `22 69` and have no trailer;
each window is given as it reads as one relay frame, and nothing is dropped. -/
theorem push_eq_findings (stream : Bytes) :
    Agrees (findings (0xAB, 0xCD) 237 2 stream) SerialFrame.payloadOf
        ((new .direct).push stream) ∧
      Agrees (findings (0xAB, 0xCD) 233 2 stream) SerialFrame.payloadOf
        ((new .relayed).push stream) ∧
      (let given := (new .relay).push stream
       given.2.frames.map some =
           (findings (0x22, 0x69) 255 0 stream).map (Finding.payload? RelayFrame.payloadOf) ∧
         given.1.tally.checksumErrors = 0 ∧ given.1.tally.otherErrors = 0) := by
  have hdirect : 237 ≤ SerialFrame.capacity := Nat.le_refl _
  have hrelayed : 233 ≤ SerialFrame.capacity := by decide
  exact ⟨serial_agrees hdirect stream, serial_agrees hrelayed stream, relay_gives_all stream⟩

/-- A repeated first byte, a damaged frame, an oversized length, and a whole frame. -/
example :
    let stream :=
      [0xAB, 0xAB, 0xCD, 0x00, 0xFF, 0xFE, 0xAB, 0xCD, 0xEE, 0xAB, 0xCD, 0x00, 0xFF, 0xFF]
    findings (0xAB, 0xCD) 237 2 stream =
        [.window [0xAB, 0xCD, 0x00, 0xFF, 0xFE], .oversized 0xEE,
          .window [0xAB, 0xCD, 0x00, 0xFF, 0xFF]] ∧
      ((new .direct).push stream).2.frames = [[]] := by
  cbv

end GroundLink.Deframer
