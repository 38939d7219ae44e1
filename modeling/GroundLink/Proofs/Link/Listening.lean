import GroundLink.Link.Listener
import GroundLink.Proofs.Link.Closing
import Mathlib.Logic.Relation

/-!
# A listener while entries arrive

A listener takes log entries from its queue and keeps what a call does not return in a buffer.
Writers and a close go on at the same time, also while a call reads the queue. `Listening.Step`
lists what can happen next; read it first. What the queue does is taken from `Closing`.

`Sound` is what every step preserves. `LosesNothing` says what that comes to: entries are returned
in the order in which they were put in, each of them once, a listener that is closed has nothing
left to return, and lost entries are counted as they are reported. `Event` are calls that do not
overlap. `listeners_lose_nothing` says that any number of them come to steps, so the same holds of
these.
-/

namespace GroundLink

/-! ## Writers and a close -/

namespace Closing

variable {α : Type} {s s' : Closing α} {capacity : Nat} {lossy : Bool}

/-- What writers and a close can do next. -/
inductive Others : Closing α → Closing α → Prop
  | looks {s : Closing α} (hopen : s.queue.closed = false) (a : α) :
      Others s { s with admitted := s.admitted ++ [a] }
  | puts {s : Closing α} (writer : Nat) {a : α} (hwriter : s.admitted[writer]? = some a)
      (hroom : (s.queue.enqueue a).2 ≠ .waits) : Others s (s.put writer a)
  | refuses {s : Closing α} (hopen : s.queue.closed = false) :
      Others s { s with queue := s.queue.refuse, marking := true }
  | marks {s : Closing α} (hmarking : s.marking = true) :
      Others s { s with queue := s.queue.putStop, marking := false }

/-- Steps of others lead from what can be reached to what can be reached. -/
theorem Reaches.others (h : Reaches capacity lossy s) (hothers : Others s s') :
    Reaches capacity lossy s' := by
  cases hothers with
  | looks hopen a => exact h.looks hopen a
  | puts writer hwriter hroom => exact h.puts writer hwriter hroom
  | refuses hopen => exact h.refuses hopen
  | marks hmarking => exact h.marks hmarking

/-- What writers and a close leave to the reader. -/
theorem Others.frame (h : Others s s') :
    s'.reading = s.reading ∧ s'.returned = s.returned ∧ s'.queue.ended = s.queue.ended ∧
      s.queue.dropped ≤ s'.queue.dropped := by
  cases h with
  | looks | refuses => exact ⟨rfl, rfl, rfl, Nat.le_refl _⟩
  | puts => exact ⟨rfl, rfl, Queue.enqueue_ended _ _, Queue.dropped_le_enqueue _ _⟩
  | marks => exact ⟨rfl, rfl, Queue.putStop_ended _, Nat.le_of_eq (Queue.putStop_dropped _).symm⟩

end Closing

/-! ## Calls -/

/-- How far a listener has come with a call. -/
inductive Listener.Call where
  /-- No call is going on. -/
  | idle
  /-- The queue is read, for the next entry only or for all that are there. -/
  | fetches (one : Bool)
  /-- The listener has got these entries. It is to report what was lost, and to return. -/
  | finishes (one : Bool) (entries : List LogEntry)

/-- What a call has got and not returned yet. -/
def Listener.Call.entries : Listener.Call → List LogEntry
  | idle | fetches _ => []
  | finishes _ entries => entries

/-- Whether a call is going on. -/
def Listener.Call.busy : Listener.Call → Bool
  | idle => false
  | fetches _ | finishes _ _ => true

/-- Whether a call reads the queue. -/
def Listener.Call.fetching : Listener.Call → Bool
  | fetches _ => true
  | idle | finishes _ _ => false

/-- A listener, and its queue while others write to it and close it. -/
structure Listening where
  traffic : Closing LogEntry
  listener : Listener
  call : Listener.Call
  /-- What calls have returned. -/
  given : List LogEntry
  /-- What was added to the count of lost entries. -/
  counted : Nat

namespace Listening

/-- A listener that was made with a queue of its own, which is lossy. -/
def start (capacity : Nat) (subscription : Subscription) : Listening :=
  ⟨.start capacity true, .new subscription, .idle, [], 0⟩

/-- The next step to read the queue. -/
def fetch (s : Listening) (one : Bool) : Listening :=
  { s with
    traffic := s.traffic.read
    call := match s.traffic.reading.step s.traffic.queue with
      | (_, .idle, entries) => .finishes one entries
      | _ => .fetches one }

/-- The listener reports what was lost, and returns the next entry or all of them. -/
def finish (s : Listening) (one : Bool) (entries : List LogEntry) : Listening :=
  { s with
    listener := Listener.report
      { s.listener with buffered := if one then entries.tail else [] } s.traffic.queue
    call := .idle
    given := s.given ++ if one then entries.take 1 else entries
    counted := s.counted + (s.traffic.queue.dropped - s.listener.reported) }

/-- What can happen next. -/
inductive Step : Listening → Listening → Prop
  | others {s : Listening} {traffic : Closing LogEntry} (h : s.traffic.Others traffic) :
      Step s { s with traffic }
  /-- The next entry was read before, and is returned. -/
  | pops {s : Listening} {entry : LogEntry} {rest : List LogEntry} (hidle : s.call = .idle)
      (hbuffered : s.listener.buffered = entry :: rest) :
      Step s { s with
        listener := { s.listener with buffered := rest }
        given := s.given ++ [entry] }
  /-- All entries that were read before are to be returned. -/
  | empties {s : Listening} (hidle : s.call = .idle) (hbuffered : s.listener.buffered ≠ []) :
      Step s { s with
        listener := { s.listener with buffered := [] }
        call := .finishes false s.listener.buffered }
  /-- Nothing was read before, so the queue is read. -/
  | asks {s : Listening} (hidle : s.call = .idle) (hbuffered : s.listener.buffered = [])
      (one : Bool) : Step s { s with call := .fetches one }
  | fetches {s : Listening} {one : Bool} (hcall : s.call = .fetches one) : Step s (s.fetch one)
  | finishes {s : Listening} {one : Bool} {entries : List LogEntry}
      (hcall : s.call = .finishes one entries) : Step s (s.finish one entries)

/-- Any number of steps. -/
abbrev Run : Listening → Listening → Prop :=
  Relation.ReflTransGen Step

/-! ## What every step preserves -/

/-- What holds of every listener. -/
structure Sound (capacity : Nat) (s : Listening) : Prop where
  traffic : s.traffic.Reaches capacity true
  /-- What was read from the queue was returned, or it is held by a call, or else it is buffered. -/
  returned : s.traffic.returned = s.given ++ (s.call.entries ++ s.listener.buffered)
  /-- The queue is read only by a call. -/
  reading : s.call.fetching = false → s.traffic.reading = .idle
  /-- A call that reads or returns has nothing in the buffer. -/
  buffered : s.call.busy = true → s.listener.buffered = []
  counted : s.counted = s.listener.reported
  reported : s.listener.reported ≤ s.traffic.queue.dropped

variable {s s' : Listening} {capacity : Nat} {one : Bool} {entries : List LogEntry}

/-- At the start the account is empty, and right. -/
theorem start_sound (capacity : Nat) (subscription : Subscription) :
    (start capacity subscription).Sound capacity where
  traffic := .start
  returned := rfl
  reading _ := rfl
  buffered _ := rfl
  counted := rfl
  reported := Nat.le_refl _

/-- What a step to read the queue comes to: the read goes on, or it is over. -/
theorem fetch_cases (s : Listening) (one : Bool) :
    (s.fetch one = { s with traffic := s.traffic.read, call := .fetches one } ∧
      s.traffic.read.returned = s.traffic.returned) ∨
    ∃ entries, s.fetch one = { s with traffic := s.traffic.read, call := .finishes one entries } ∧
      s.traffic.read.returned = s.traffic.returned ++ entries ∧ s.traffic.read.reading = .idle := by
  unfold fetch
  split
  case h_1 _ q entries hstep =>
    refine .inr ⟨entries, rfl, ?_, ?_⟩
    · rw [Closing.read, hstep]
    · rw [Closing.read, hstep]
  case h_2 hbusy =>
    refine .inl ⟨rfl, ?_⟩
    have hnothing := (Reading.step_step s.traffic.queue s.traffic.reading).returns_nothing
      fun hidle => hbusy _ _ (by rw [← hidle])
    exact (congrArg (s.traffic.returned ++ ·) hnothing).trans (List.append_nil _)

/-- What a call has got it returns, or else it goes into the buffer. -/
theorem split_entries (one : Bool) (entries : List LogEntry) :
    (if one then entries.take 1 else entries) ++ (if one then entries.tail else []) = entries := by
  cases one with
  | true => cases entries <;> rfl
  | false => exact List.append_nil entries

/-- A step leaves the account right. -/
theorem Sound.step (h : s.Sound capacity) (hstep : Step s s') : s'.Sound capacity := by
  cases hstep with
  | others hothers =>
      obtain ⟨hreading, hreturned, -, hdropped⟩ := hothers.frame
      exact { h with
        traffic := h.traffic.others hothers
        returned := hreturned.trans h.returned
        reading := fun hcall => hreading.trans (h.reading hcall)
        reported := Nat.le_trans h.reported hdropped }
  | pops hidle hbuffered =>
      refine { h with returned := ?_, buffered := fun hbusy => ?_ }
      · rw [h.returned, hbuffered, hidle]
        simp [Listener.Call.entries]
      · rw [hidle] at hbusy
        exact absurd hbusy (by decide)
  | empties hidle hbuffered =>
      refine { h with returned := ?_, reading := fun _ => ?_, buffered := fun _ => rfl }
      · rw [h.returned, hidle]
        simp [Listener.Call.entries]
      · exact h.reading (by rw [hidle]; rfl)
  | asks hidle hbuffered one =>
      refine { h with
        returned := ?_, reading := fun hcall => ?_, buffered := fun _ => hbuffered }
      · rw [h.returned, hidle]
        rfl
      · exact Bool.noConfusion hcall
  | @fetches one hcall =>
      have hbuffered := h.buffered (by rw [hcall]; rfl)
      have hreported : s.listener.reported ≤ s.traffic.read.queue.dropped := by
        rw [Closing.read, (Reading.step_step _ _).frame.2.2]
        exact h.reported
      rcases s.fetch_cases one with ⟨hnext, hreturned⟩ | ⟨entries, hnext, hreturned, hreading⟩
      · rw [hnext]
        refine { h with
          traffic := h.traffic.reads
          returned := ?_
          reading := fun hcall => Bool.noConfusion hcall
          buffered := fun _ => hbuffered
          reported := hreported }
        rw [hreturned, h.returned, hcall]
      · rw [hnext]
        refine { h with
          traffic := h.traffic.reads
          returned := ?_
          reading := fun _ => hreading
          buffered := fun _ => hbuffered
          reported := hreported }
        rw [hreturned, h.returned, hcall, hbuffered]
        simp [Listener.Call.entries]
  | @finishes one entries hcall =>
      have hbuffered := h.buffered (by rw [hcall]; rfl)
      refine ⟨h.traffic, ?_, fun _ => ?_, fun hbusy => Bool.noConfusion hbusy, ?_, ?_⟩
      · show s.traffic.returned = (s.given ++ _) ++ ([] ++ _)
        rw [h.returned, hcall, hbuffered, Listener.Call.entries, List.append_nil, List.nil_append,
          List.append_assoc]
        exact congrArg (s.given ++ ·) (split_entries one entries).symm
      · exact h.reading (by rw [hcall]; rfl)
      · show s.counted + (s.traffic.queue.dropped - s.listener.reported) =
          max s.listener.reported s.traffic.queue.dropped
        rw [h.counted, Nat.add_sub_of_le h.reported, Nat.max_eq_right h.reported]
      · exact Nat.max_le.mpr ⟨h.reported, Nat.le_refl _⟩

/-- So does a run. -/
theorem Sound.run (h : s.Sound capacity) (hrun : Run s s') : s'.Sound capacity := by
  induction hrun with
  | refl => exact h
  | tail _ hstep ih => exact ih.step hstep

/-- Between calls everything that was read was returned or is buffered. -/
theorem Sound.of_idle (h : s.Sound capacity) (hidle : s.call = .idle) :
    s.traffic.reading = .idle ∧ s.traffic.returned = s.given ++ s.listener.buffered := by
  refine ⟨h.reading (by rw [hidle]; rfl), ?_⟩
  rw [h.returned, hidle, Listener.Call.entries, List.nil_append]

/-! ## The end -/

/-- A listener that found the end of its queue, and whose calls have nothing to return. -/
structure Over (s : Listening) : Prop where
  ended : s.traffic.queue.ended = true
  buffered : s.listener.buffered = []
  entries : s.call.entries = []

/-- Once all is over a step gives nothing more. -/
theorem Over.step (h : s.Over) (hsound : s.Sound capacity) (hstep : Step s s') :
    s'.Over ∧ s'.given = s.given := by
  cases hstep with
  | others hothers =>
      obtain ⟨-, -, hended, -⟩ := hothers.frame
      exact ⟨{ h with ended := hended.trans h.ended }, rfl⟩
  | pops _ hbuffered =>
      rw [h.buffered] at hbuffered
      cases hbuffered
  | empties _ hbuffered => exact absurd h.buffered hbuffered
  | asks => exact ⟨{ h with entries := rfl }, rfl⟩
  | @fetches one =>
      -- the read is over at once and returns nothing
      have hidle : s.traffic.reading = .idle := (hsound.traffic.sound).idle h.ended
      have hfetch :
          s.fetch one = { s with traffic := s.traffic.read, call := .finishes one [] } := by
        rw [fetch, hidle, Reading.step, h.ended]
        rfl
      rw [hfetch]
      refine ⟨⟨?_, h.buffered, rfl⟩, rfl⟩
      show (s.traffic.reading.step s.traffic.queue).1.ended = true
      rw [hidle]
      exact h.ended
  | @finishes one entries hcall =>
      have hnone : entries = [] := by
        have hentries := h.entries
        rwa [hcall] at hentries
      subst hnone
      refine ⟨⟨h.ended, ?_, rfl⟩, ?_⟩
      · cases one <;> rfl
      · cases one <;> exact List.append_nil _

/-- After the end nothing is returned. -/
theorem Over.run (h : s.Over) (hsound : s.Sound capacity) (hrun : Run s s') :
    s'.Over ∧ s'.given = s.given := by
  induction hrun with
  | refl => exact ⟨h, rfl⟩
  | tail hbefore hstep ih =>
      obtain ⟨hover, hgiven⟩ := ih.1.step (hsound.run hbefore) hstep
      exact ⟨hover, hgiven.trans ih.2⟩

/-- What a listener should do with what its queue accepts. -/
structure LosesNothing (s : Listening) : Prop where
  /-- What was put in was returned, is to be returned by a call, is buffered, is held by the reader
  of the queue, or is still there, in this order. -/
  in_order : s.traffic.accepted = s.given ++ (s.call.entries ++ (s.listener.buffered ++
    (s.traffic.reading.held ++ s.traffic.queue.items)))
  /-- Between calls nothing is held elsewhere. -/
  between_calls : s.call = .idle →
    s.traffic.accepted = s.given ++ (s.listener.buffered ++ s.traffic.queue.items)
  /-- Entries are returned as they were put in, each of them once. -/
  once : s.given <+: s.traffic.accepted
  /-- A closed listener has returned all that was put in in front of the end, and returns nothing
  more. If all of it was put in there, nothing is left. -/
  closed : s.call = .idle → s.listener.isClosed s.traffic.queue = true →
    s.given = s.traffic.kept ∧ (∀ later, Run s later → later.given = s.given) ∧
      ((∀ item ∈ s.traffic.told, item.2 ≠ .behind) →
        s.given = s.traffic.accepted ∧ s.listener.buffered = [] ∧ s.traffic.queue.items = [])
  counted_le : s.counted ≤ s.traffic.queue.dropped
  /-- A call that reports has counted all that was lost. -/
  counted : ∀ one entries, s.call = .finishes one entries →
    (s.finish one entries).counted = s.traffic.queue.dropped

/-- A right account shows that nothing was lost without being counted. -/
theorem Sound.loses_nothing (h : s.Sound capacity) : s.LosesNothing := by
  have horder : s.traffic.accepted = s.given ++ (s.call.entries ++ (s.listener.buffered ++
      (s.traffic.reading.held ++ s.traffic.queue.items))) := by
    rw [h.traffic.accepted_eq, h.returned, List.append_assoc, List.append_assoc]
  have hbetween (hidle : s.call = .idle) :
      s.traffic.accepted = s.given ++ (s.listener.buffered ++ s.traffic.queue.items) := by
    rw [horder, (h.of_idle hidle).1, hidle]
    rfl
  refine ⟨horder, hbetween, horder ▸ List.prefix_append _ _, fun hidle hclosed => ?_, ?_, ?_⟩
  · obtain ⟨hempty, hended⟩ := Bool.and_eq_true_iff.mp hclosed
    have hbuffered := List.isEmpty_iff.mp hempty
    have hover : s.Over := ⟨hended, hbuffered, by rw [hidle, Listener.Call.entries]⟩
    have hkept : s.given = s.traffic.kept := by
      rw [h.traffic.sound.kept_eq_returned hended, (h.of_idle hidle).2, hbuffered, List.append_nil]
    refine ⟨hkept, fun later hrun => (hover.run h hrun).2, fun hinTime => ?_⟩
    have haccepted : s.given = s.traffic.accepted := by
      rw [hkept, Closing.accepted_eq_kept hinTime]
    have hleft := hbetween hidle
    rw [← haccepted, List.self_eq_append_right] at hleft
    exact ⟨haccepted, List.append_eq_nil_iff.mp hleft⟩
  · rw [h.counted]
    exact h.reported
  · intro one entries _
    show s.counted + (s.traffic.queue.dropped - s.listener.reported) = _
    rw [h.counted, Nat.add_sub_of_le h.reported]

/-! ## Calls that do not overlap -/

/-- A whole call to a listener or to its queue. -/
inductive Event where
  | arrives (entry : LogEntry)
  | closes
  | recv
  | read

/-- Make one call. -/
def perform (s : Listening) : Event → Listening
  | .arrives entry =>
    if s.traffic.queue.closed then s
    else { s with traffic := { s.traffic with
      queue := (s.traffic.queue.write entry).1
      told := s.traffic.told ++ [(entry, s.traffic.fate (s.traffic.queue.write entry).2)] } }
  | .closes => { s with traffic := { s.traffic with queue := s.traffic.queue.close } }
  | .recv =>
    let (listener, queue, found) := s.listener.recv s.traffic.queue
    { s with
      traffic := { s.traffic with
        queue, returned := s.given ++ (found.toList ++ listener.buffered) }
      listener
      given := s.given ++ found.toList
      counted := s.counted + (listener.reported - s.listener.reported) }
  | .read =>
    let (listener, queue, entries) := s.listener.read s.traffic.queue
    { s with
      traffic := { s.traffic with queue, returned := s.given ++ entries }
      listener
      given := s.given ++ entries
      counted := s.counted + (listener.reported - s.listener.reported) }

/-- No call is going on. -/
structure AtRest (s : Listening) : Prop where
  call : s.call = .idle
  admitted : s.traffic.admitted = []
  marking : s.traffic.marking = false
  in_time : ∀ item ∈ s.traffic.told, item.2 ≠ .behind

/-- At the start no call is under way. -/
theorem start_atRest (capacity : Nat) (subscription : Subscription) :
    (start capacity subscription).AtRest :=
  ⟨rfl, rfl, rfl, List.forall_mem_nil _⟩

/-- Two steps of writers or of a close. -/
theorem run_of_others {first second : Closing LogEntry} (h : s.traffic.Others first)
    (h' : first.Others second) : Run s { s with traffic := second } :=
  .tail (.single (.others h)) (.others h')

/-- Whole arrivals are runs. -/
theorem AtRest.arrives (h : s.AtRest) (hsound : s.Sound capacity) (entry : LogEntry) :
    Run s (s.perform (.arrives entry)) ∧ (s.perform (.arrives entry)).AtRest := by
  rw [Listening.perform]
  split
  case isTrue => exact ⟨.refl, h⟩
  case isFalse hnotClosed =>
    have hopen : s.traffic.queue.closed = false := Bool.eq_false_iff.mpr hnotClosed
    have hwrite : s.traffic.queue.write entry = s.traffic.queue.enqueue entry := if_neg hnotClosed
    have hroom := Queue.enqueue_ne_waits hsound.traffic.lossy_eq entry
    have hnotOver : s.traffic.reading.isOver s.traffic.queue = false :=
      Bool.eq_false_iff.mpr fun hover => hnotClosed (hsound.traffic.sound.isOver hover)
    refine ⟨?_, h.call, h.admitted, h.marking, ?_⟩
    · have hrun := run_of_others (.looks hopen entry) (.puts 0 (by simp [h.admitted]) hroom)
      simpa [Closing.put, Closing.fate, h.admitted, hwrite] using hrun
    · refine List.forall_mem_append.mpr ⟨h.in_time, List.forall_mem_singleton.mpr ?_⟩
      dsimp only
      rw [Closing.fate, hnotOver]
      split <;> decide

/-- Whole closings are runs. -/
theorem AtRest.closes (h : s.AtRest) : Run s (s.perform .closes) ∧ (s.perform .closes).AtRest := by
  refine ⟨?_, h.call, h.admitted, h.marking, h.in_time⟩
  rw [Listening.perform, Queue.close]
  cases hclosed : s.traffic.queue.closed with
  | true => exact .refl
  | false =>
      have hrun := run_of_others (.refuses hclosed) (.marks rfl)
      simpa [h.marking] using hrun

/-- A call reads the queue, without anything in between. -/
theorem run_of_runs {q q' : Queue LogEntry} {r : Reading LogEntry} {items : List LogEntry}
    (hruns : Reading.Runs q r q' items) (hq : s.traffic.queue = q) (hr : s.traffic.reading = r)
    (hcall : s.call = .fetches one) :
    Run s { s with
      traffic := { s.traffic with
        queue := q', reading := .idle, returned := s.traffic.returned ++ items }
      call := .finishes one items } := by
  induction hruns generalizing s with
  | last hstep =>
      have hfetch : Step s (s.fetch one) := .fetches hcall
      rw [fetch, Closing.read, hr, hq, hstep] at hfetch
      exact .single hfetch
  | @next _ q' _ _ r' _ hstep hbusy _ ih =>
      have hfetch : Step s (s.fetch one) := .fetches hcall
      have hgoesOn : s.fetch one = { s with
          traffic := { s.traffic with queue := q', reading := r' }, call := .fetches one } := by
        rw [fetch, Closing.read, hr, hq, hstep]
        cases r' with
        | idle => exact absurd rfl hbusy
        | looks | checks | waits | collects | ends => simp
      rw [hgoesOn] at hfetch
      exact .head hfetch (ih rfl rfl rfl)

/-- A call that has to read the queue, without anything in between. -/
theorem run_of_empty (hsound : s.Sound capacity) (hidle : s.call = .idle)
    (hbuffered : s.listener.buffered = []) (one : Bool) :
    Run s (finish { s with traffic := { s.traffic with
      queue := s.traffic.queue.read.1
      reading := .idle
      returned := s.given ++ s.traffic.queue.read.2 } } one s.traffic.queue.read.2) := by
  obtain ⟨hreading, hreturned⟩ := hsound.of_idle hidle
  have hasks : Step s { s with call := .fetches one } := .asks hidle hbuffered one
  have hreads : Run { s with call := .fetches one } _ :=
    run_of_runs (Reading.read_runs s.traffic.queue) rfl hreading rfl
  have hrun := Relation.ReflTransGen.head hasks (.tail hreads (.finishes rfl))
  rwa [hreturned, hbuffered, List.append_nil] at hrun

/-- A report counts what was lost since the last one. -/
theorem reported_sub (l : Listener) (q : Queue LogEntry) :
    max l.reported q.dropped - l.reported = q.dropped - l.reported := by
  omega

/-- After a read, all that was dropped has been reported. -/
theorem dropped_le_read (l : Listener) (q : Queue LogEntry) :
    (l.read q).2.1.dropped ≤ (l.read q).1.reported := by
  rw [Listener.read]
  cases l.buffered <;> exact Nat.le_max_right _ _

/-- So it has after a single entry was taken, if none had been read ahead. -/
theorem dropped_le_recv {l : Listener} (hbuffered : l.buffered = []) (q : Queue LogEntry) :
    (l.recv q).2.1.dropped ≤ (l.recv q).1.reported := by
  rw [Listener.recv, hbuffered]
  dsimp only
  split <;> exact Nat.le_max_right _ _

/-- Taking a single entry as a whole is a run. -/
theorem AtRest.recv (h : s.AtRest) (hsound : s.Sound capacity) :
    Run s (s.perform .recv) ∧ (s.perform .recv).AtRest := by
  refine ⟨?_, h.call, h.admitted, h.marking, h.in_time⟩
  obtain ⟨hreading, hreturned⟩ := hsound.of_idle h.call
  rw [Listening.perform, Listener.recv]
  cases hbuffered : s.listener.buffered with
  | cons entry rest =>
      have hpops : Step s _ := .pops h.call hbuffered
      rw [hbuffered] at hreturned
      dsimp only [Option.toList_some, List.singleton_append]
      rw [← hreturned, Nat.sub_self]
      exact .single hpops
  | nil =>
      have hrun := run_of_empty hsound h.call hbuffered true
      obtain ⟨q, items, hread⟩ : ∃ q items, s.traffic.queue.read = (q, items) := ⟨_, _, rfl⟩
      rw [hread, finish] at hrun
      rw [hread]
      cases items with
      | nil => simpa [Listener.report, reported_sub, h.call, hreading, hbuffered] using hrun
      | cons entry rest => simpa [Listener.report, reported_sub, h.call, hreading] using hrun

/-- Reading a batch as a whole is a run. -/
theorem AtRest.read (h : s.AtRest) (hsound : s.Sound capacity) :
    Run s (s.perform .read) ∧ (s.perform .read).AtRest := by
  refine ⟨?_, h.call, h.admitted, h.marking, h.in_time⟩
  obtain ⟨hreading, hreturned⟩ := hsound.of_idle h.call
  rw [Listening.perform, Listener.read]
  cases hbuffered : s.listener.buffered with
  | cons entry rest =>
      have hempties : Step s _ := .empties h.call (hbuffered ▸ List.cons_ne_nil entry rest)
      have hrun : Run s _ := .tail (.single hempties) (.finishes rfl)
      rw [finish, hbuffered] at hrun
      rw [hbuffered] at hreturned
      simpa [Listener.report, reported_sub, h.call, ← hreturned] using hrun
  | nil =>
      have hrun := run_of_empty hsound h.call hbuffered false
      rw [finish] at hrun
      simpa [Listener.report, reported_sub, h.call, hreading, hbuffered] using hrun

/-- So every whole call is a run, which ends with no call under way. -/
theorem AtRest.perform (h : s.AtRest) (hsound : s.Sound capacity) (event : Event) :
    Run s (s.perform event) ∧ (s.perform event).AtRest := by
  cases event with
  | arrives entry => exact h.arrives hsound entry
  | closes => exact h.closes
  | recv => exact h.recv hsound
  | read => exact h.read hsound

/-- Whole calls come to steps. -/
theorem AtRest.performs (h : s.AtRest) (hsound : s.Sound capacity) (events : List Event) :
    Run s (events.foldl Listening.perform s) ∧ (events.foldl Listening.perform s).AtRest := by
  induction events generalizing s with
  | nil => exact ⟨.refl, h⟩
  | cons event rest ih =>
      obtain ⟨hrun, hnext⟩ := h.perform hsound event
      obtain ⟨hrest, hlast⟩ := ih hnext (hsound.run hrun)
      exact ⟨hrun.trans hrest, hlast⟩

/-- A call that turned to the queue, or returned all entries, has counted all that was lost. -/
theorem Sound.counted_eq (h : s.Sound capacity)
    (hreports : s.traffic.queue.dropped ≤ s.listener.reported) :
    s.counted = s.traffic.queue.dropped :=
  h.counted.trans (Nat.le_antisymm h.reported hreports)

/-- A log listener loses nothing that its queue accepts, whatever its calls, writers and a close do
in between. The same holds of whole calls one after another: they come to steps, nothing is put in
behind the end, and all that was lost is counted after a read and after a call that had to turn to
the queue. -/
theorem listeners_lose_nothing (capacity : Nat) (subscription : Subscription) :
    (∀ s, Run (start capacity subscription) s → s.LosesNothing) ∧
    ∀ (events : List Event) (s : Listening),
      s = events.foldl perform (start capacity subscription) →
        Run (start capacity subscription) s ∧ s.AtRest ∧
        (s.perform .read).counted = (s.perform .read).traffic.queue.dropped ∧
        (s.listener.buffered = [] →
          (s.perform .recv).counted = (s.perform .recv).traffic.queue.dropped) := by
  have hstart := start_sound capacity subscription
  refine ⟨fun s hrun => (hstart.run hrun).loses_nothing, ?_⟩
  rintro events s rfl
  obtain ⟨hrun, hrest⟩ := (start_atRest capacity subscription).performs hstart events
  have hsound := hstart.run hrun
  refine ⟨hrun, hrest, ?_, fun hbuffered => ?_⟩
  · exact (hsound.run (hrest.read hsound).1).counted_eq (dropped_le_read _ _)
  · exact (hsound.run (hrest.recv hsound).1).counted_eq (dropped_le_recv hbuffered _)

/-- The third entry is lost at the full queue, and counted. -/
example (a b c : LogEntry) (subscription : Subscription) :
    let s := [.arrives a, .arrives b, .arrives c, .recv, .closes, .read, .recv].foldl perform
      (start 2 subscription)
    s.given = [a, b] ∧ s.counted = 1 ∧ s.listener.isClosed s.traffic.queue = true := by
  cbv

end Listening

end GroundLink
