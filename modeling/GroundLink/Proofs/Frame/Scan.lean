import GroundLink.Bytes
import Mathlib.Data.List.Infix

/-!
# Scanning a whole stream

The frames of a stream that is known as a whole. `findings` looks for the first mark, reads the
length byte behind it, and either passes over a length above the limit or cuts out the bytes up to
the end of the frame; then it scans what is left. It keeps no state between bytes, so it says where
the frames of a stream are without saying how a receiver finds them. `Stretch.findings_bytes`
reads a stream off that is written as noise, mark, length, body and trailer.
-/

namespace GroundLink.Scan

/-- The bytes behind the first place where the two bytes of a mark stand side by side. -/
def afterMark? (mark : UInt8 × UInt8) : Bytes → Option Bytes
  | first :: second :: rest =>
    if (first, second) = mark then some rest else afterMark? mark (second :: rest)
  | _ => none

/-- What lies behind a mark is shorter than the stream by the mark at least. -/
theorem length_after_mark {mark : UInt8 × UInt8} {stream rest : Bytes}
    (h : afterMark? mark stream = some rest) : rest.length + 2 ≤ stream.length := by
  fun_induction afterMark? mark stream with
  | case1 => simp_all
  | case2 _ _ _ _ ih =>
      have := ih h
      simp only [List.length_cons] at this ⊢
      omega
  | case3 => simp at h

/-- A mark that comes first is found. -/
theorem after_mark_here (mark : UInt8 × UInt8) (rest : Bytes) :
    afterMark? mark (mark.1 :: mark.2 :: rest) = some rest := by
  simp [afterMark?]

/-- A byte that opens no mark may be left out. -/
theorem after_mark_skip {mark : UInt8 × UInt8} {byte : UInt8} (h : byte ≠ mark.1)
    (stream : Bytes) : afterMark? mark (byte :: stream) = afterMark? mark stream := by
  cases stream with
  | nil => rfl
  | cons second rest =>
      have hpair : (byte, second) ≠ mark := fun hmark => h (congrArg Prod.fst hmark)
      simp [afterMark?, hpair]

/-- So may the first byte of a mark before a byte that does not complete the mark. -/
theorem after_mark_half {mark : UInt8 × UInt8} {byte : UInt8} (h : byte ≠ mark.2)
    (stream : Bytes) :
    afterMark? mark (mark.1 :: byte :: stream) = afterMark? mark (byte :: stream) := by
  have hpair : (mark.1, byte) ≠ mark := fun hmark => h (congrArg Prod.snd hmark)
  simp [afterMark?, hpair]

/-- What a scan comes upon. -/
inductive Finding where
  /-- A length byte above the limit. -/
  | oversized (length : UInt8)
  /-- The bytes of a frame, from its mark to the end of its trailer. -/
  | window (bytes : Bytes)
deriving DecidableEq, Repr

/-- What a stream holds, in order. Behind a mark stands a length byte, then as many body bytes and
a trailer. A frame that is not complete ends the scan. -/
def findings (mark : UInt8 × UInt8) (limit trailerLength : Nat) (stream : Bytes) : List Finding :=
  match h : afterMark? mark stream with
  | some (length :: rest) =>
    have hshort : rest.length < stream.length := by
      have := length_after_mark h
      simp only [List.length_cons] at this
      omega
    if limit < length.toNat then .oversized length :: findings mark limit trailerLength rest
    else if rest.length < length.toNat + trailerLength then []
    else
      .window (mark.1 :: mark.2 :: length :: rest.take (length.toNat + trailerLength)) ::
        findings mark limit trailerLength (rest.drop (length.toNat + trailerLength))
  | _ => []
termination_by stream.length

variable {mark : UInt8 × UInt8} {limit trailerLength : Nat} {stream rest : Bytes} {length : UInt8}

/-! ## One step of a scan -/

/-- Without a mark there is nothing to find. -/
theorem findings_of_no_mark (h : afterMark? mark stream = none) :
    findings mark limit trailerLength stream = [] := by
  rw [findings]
  split <;> simp_all

/-- A mark with nothing behind it is nothing yet. -/
theorem findings_of_bare_mark (h : afterMark? mark stream = some []) :
    findings mark limit trailerLength stream = [] := by
  rw [findings]
  split <;> simp_all

/-- A length above the limit is passed over with its mark. -/
theorem findings_of_oversized (h : afterMark? mark stream = some (length :: rest))
    (hover : limit < length.toNat) :
    findings mark limit trailerLength stream =
      .oversized length :: findings mark limit trailerLength rest := by
  rw [findings]
  split <;> simp_all

/-- A frame that is not there as a whole is nothing yet. -/
theorem findings_of_short (h : afterMark? mark stream = some (length :: rest))
    (hlimit : length.toNat ≤ limit) (hshort : rest.length < length.toNat + trailerLength) :
    findings mark limit trailerLength stream = [] := by
  rw [findings]
  split <;> simp_all [Nat.not_lt.mpr hlimit]

/-- A frame that is there is found, and the scan goes on behind it. -/
theorem findings_of_frame {body tail : Bytes}
    (h : afterMark? mark stream = some (length :: (body ++ tail ++ rest)))
    (hlimit : length.toNat ≤ limit) (hbody : body.length = length.toNat)
    (htail : tail.length = trailerLength) :
    findings mark limit trailerLength stream =
      .window (mark.1 :: mark.2 :: length :: (body ++ tail)) ::
        findings mark limit trailerLength rest := by
  have hsize : (body ++ tail).length = length.toNat + trailerLength := by
    rw [List.length_append, hbody, htail]
  have hlong : ¬ (body ++ tail ++ rest).length < length.toNat + trailerLength := by
    rw [List.length_append, hsize]
    omega
  rw [findings]
  split
  · rename_i length' rest' h'
    rw [h] at h'
    cases h'
    rw [if_neg (Nat.not_lt.mpr hlimit), if_neg hlong, ← hsize, List.take_left, List.drop_left]
  · simp_all

/-- Streams by what stands behind the first mark. The stream behind an oversized length or behind a
whole frame is shorter, so the scan may be followed from there. -/
@[elab_as_elim]
theorem stream_induction (mark : UInt8 × UInt8) (limit trailerLength : Nat) {motive : Bytes → Prop}
    (unmarked : ∀ stream, afterMark? mark stream = none → motive stream)
    (bare : ∀ stream, afterMark? mark stream = some [] → motive stream)
    (short : ∀ stream length rest, afterMark? mark stream = some (length :: rest) →
      length.toNat ≤ limit → rest.length < length.toNat + trailerLength → motive stream)
    (oversized : ∀ stream length rest, afterMark? mark stream = some (length :: rest) →
      limit < length.toNat → motive rest → motive stream)
    (frame : ∀ stream length body tail rest,
      afterMark? mark stream = some (length :: (body ++ tail ++ rest)) →
      length.toNat ≤ limit → body.length = length.toNat → tail.length = trailerLength →
      motive rest → motive stream)
    (stream : Bytes) : motive stream := by
  induction hn : stream.length using Nat.strongRecOn generalizing stream with
  | ind n ih =>
      subst hn
      match hmark : afterMark? mark stream with
      | none => exact unmarked stream hmark
      | some [] => exact bare stream hmark
      | some (length :: rest) =>
          have hlen := length_after_mark hmark
          rw [List.length_cons] at hlen
          by_cases hover : limit < length.toNat
          · exact oversized stream length rest hmark hover (ih rest.length (by omega) rest rfl)
          · by_cases hshort : rest.length < length.toNat + trailerLength
            · exact short stream length rest hmark (Nat.not_lt.mp hover) hshort
            · -- what stands behind the length is the body, the trailer, and the stream left
              have hsplit : rest = rest.take length.toNat ++
                  (rest.drop length.toNat).take trailerLength ++
                  rest.drop (length.toNat + trailerLength) := by
                rw [← List.take_add, List.take_append_drop]
              rw [hsplit] at hmark
              refine frame stream length _ _ _ hmark (Nat.not_lt.mp hover) ?_ ?_
                (ih _ ?_ _ rfl)
              · rw [List.length_take]
                omega
              · rw [List.length_take, List.length_drop]
                omega
              · rw [List.length_drop]
                omega

/-- What a scan lists is cut as it should be: an oversized length is above the limit, and a window
is a mark, a length byte within the limit, as many body bytes, and a trailer. -/
def Finding.IsCut (mark : UInt8 × UInt8) (limit trailerLength : Nat) : Finding → Prop
  | .oversized length => limit < length.toNat
  | .window bytes =>
      ∃ (length : UInt8) (body tail : Bytes), length.toNat ≤ limit ∧ body.length = length.toNat ∧
        tail.length = trailerLength ∧ bytes = mark.1 :: mark.2 :: length :: (body ++ tail)

/-- Whatever is found is cut as a frame. -/
theorem is_cut_of_mem {x : Finding} (h : x ∈ findings mark limit trailerLength stream) :
    x.IsCut mark limit trailerLength := by
  induction stream using stream_induction mark limit trailerLength with
  | unmarked stream hmark => simp [findings_of_no_mark hmark] at h
  | bare stream hmark => simp [findings_of_bare_mark hmark] at h
  | short stream length rest hmark hlimit hshort =>
      simp [findings_of_short hmark hlimit hshort] at h
  | oversized stream length rest hmark hover ih =>
      rw [findings_of_oversized hmark hover] at h
      rcases List.mem_cons.mp h with rfl | h
      · exact hover
      · exact ih h
  | frame stream length body tail rest hmark hlimit hbody htail ih =>
      rw [findings_of_frame hmark hlimit hbody htail] at h
      rcases List.mem_cons.mp h with rfl | h
      · exact ⟨length, body, tail, hlimit, hbody, htail, rfl⟩
      · exact ih h

/-! ## Noise and frames -/

/-- A stream has no mark exactly when its two bytes never stand side by side. -/
theorem after_mark_eq_none_iff :
    afterMark? mark stream = none ↔ ¬ [mark.1, mark.2] <:+: stream := by
  fun_induction afterMark? mark stream with
  | case1 first second rest h =>
      subst h
      have hmark : [first, second] <:+: first :: second :: rest := ⟨[], rest, rfl⟩
      simp [hmark]
  | case2 first second rest h ih =>
      have hhead : ¬ [mark.1, mark.2] <+: first :: second :: rest := by
        simp only [List.cons_prefix_cons, List.nil_prefix, and_true]
        rintro ⟨rfl, rfl⟩
        exact h rfl
      rw [ih, not_congr (List.infix_cons_iff : _ <:+: first :: second :: rest ↔ _), not_or]
      exact ⟨fun htail => ⟨hhead, htail⟩, And.right⟩
  | case3 stream h =>
      have hshort : ¬ [mark.1, mark.2] <:+: stream := by
        intro hmark
        match stream, hmark.length_le with
        | first :: second :: rest, _ => exact h first second rest rfl
      simp [hshort]

/-- A mark that ends noise is found, even if the noise ends in the first byte of a mark. -/
theorem after_mark_append (hne : mark.1 ≠ mark.2) {noise : Bytes}
    (hnoise : ¬ [mark.1, mark.2] <:+: noise) (rest : Bytes) :
    afterMark? mark (noise ++ mark.1 :: mark.2 :: rest) = some rest := by
  induction noise with
  | nil => exact after_mark_here mark rest
  | cons byte noise ih =>
      have hrest := ih (fun h => hnoise (List.infix_cons_iff.mpr (.inr h)))
      by_cases hfirst : byte = mark.1
      · subst hfirst
        -- the byte behind is one of the noise, or the first of the mark itself
        cases noise with
        | nil =>
            show afterMark? mark (mark.1 :: mark.1 :: mark.2 :: rest) = some rest
            rw [after_mark_half hne, after_mark_here]
        | cons second noise =>
            have hsecond : second ≠ mark.2 := by
              rintro rfl
              exact hnoise ⟨[], noise, rfl⟩
            rw [List.cons_append, List.cons_append, after_mark_half hsecond]
            exact hrest
      · rw [List.cons_append, after_mark_skip hfirst]
        exact hrest

/-- Noise without a mark, a mark, a length byte within the limit, as many body bytes, and a
trailer. -/
structure Stretch (mark : UInt8 × UInt8) (limit trailerLength : Nat) where
  noise : Bytes
  length : UInt8
  body : Bytes
  trailer : Bytes
  quiet : ¬ [mark.1, mark.2] <:+: noise
  within : length.toNat ≤ limit
  filled : body.length = length.toNat
  trailed : trailer.length = trailerLength

namespace Stretch

/-- The bytes from the mark on. -/
def window (s : Stretch mark limit trailerLength) : Bytes :=
  mark.1 :: mark.2 :: s.length :: (s.body ++ s.trailer)

/-- All bytes of a stretch. -/
def bytes (s : Stretch mark limit trailerLength) : Bytes :=
  s.noise ++ s.window

/-- A scan finds the window of every stretch, and nothing in the noise. -/
theorem findings_bytes (hne : mark.1 ≠ mark.2) (stretches : List (Stretch mark limit trailerLength))
    {tail : Bytes} (htail : ¬ [mark.1, mark.2] <:+: tail) :
    findings mark limit trailerLength ((stretches.map bytes).flatten ++ tail) =
      stretches.map (fun s => .window s.window) := by
  induction stretches with
  | nil => exact findings_of_no_mark (after_mark_eq_none_iff.mpr htail)
  | cons s stretches ih =>
      have hmark : afterMark? mark (((s :: stretches).map bytes).flatten ++ tail) =
          some (s.length :: (s.body ++ s.trailer ++ ((stretches.map bytes).flatten ++ tail))) := by
        rw [← after_mark_append hne s.quiet]
        simp [bytes, window]
      rw [findings_of_frame hmark s.within s.filled s.trailed, ih]
      rfl

end Stretch

end GroundLink.Scan
