import GroundLink.Link.FanOut
import GroundLink.Message.Basic

/-!
# Listeners

A listener reads log entries from a queue of its own, one by one or all that are there. It reads the
queue only when nothing is left of an earlier read. It also reports how many entries were lost at
the full queue, each of them once.
-/

namespace GroundLink

/-- A reader of log entries. -/
structure Listener where
  subscription : Subscription
  /-- Entries that were read from the queue and not yet given away. -/
  buffered : List LogEntry
  /-- The lost entries that were reported. -/
  reported : Nat
deriving DecidableEq, Repr

namespace Listener

/-- A listener that has read nothing. -/
def new (subscription : Subscription) : Listener :=
  ⟨subscription, [], 0⟩

/-- Report entries that were lost since the last report. -/
def report (l : Listener) (q : Queue LogEntry) : Listener :=
  { l with reported := max l.reported q.dropped }

/-- The next entry. -/
def recv (l : Listener) (q : Queue LogEntry) : Listener × Queue LogEntry × Option LogEntry :=
  match l.buffered with
  | entry :: rest => ({ l with buffered := rest }, q, some entry)
  | [] =>
    match q.read with
    | (q, []) => (l.report q, q, none)
    | (q, entry :: rest) => ({ l with buffered := rest }.report q, q, some entry)

/-- Every entry that is there. -/
def read (l : Listener) (q : Queue LogEntry) : Listener × Queue LogEntry × List LogEntry :=
  match l.buffered with
  | [] =>
    let (q, entries) := q.read
    (l.report q, q, entries)
  | entries => ({ l with buffered := [] }.report q, q, entries)

/-- Whether no entry will ever come. -/
def isClosed (l : Listener) (q : Queue LogEntry) : Bool :=
  l.buffered.isEmpty && q.ended

end Listener

end GroundLink
