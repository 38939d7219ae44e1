import GroundLink.Link.Error
import GroundLink.Link.Settings

/-!
# Answers to scheduled commands

A scheduled command is acknowledged with a uuid; what became of it arrives later, as a log entry
that carries the uuid. An answer may even arrive before the acknowledgement has been seen, so
answers that nobody waits for are kept for a while.

Whoever registers a command gets a ticket. Answers are delivered to tickets and never change.
-/

namespace GroundLink

/-- The response to a command, or why there is none. -/
abbrev Answer := Except ResponseError Response

/-- What is held by whoever waits for an answer. -/
structure Ticket where
  number : Nat
  uuid : UInt32
  /-- The name of the command. -/
  command : String
deriving DecidableEq, Repr

/-- A registered command without an answer. -/
structure Waiting where
  uuid : UInt32
  ticket : Nat
  spec : CommandSpec

/-- An answer as it arrives. -/
structure Report where
  header : ScheduledHeader
  body : Bytes

/-- The scheduled commands of a link. -/
structure Correlator where
  /-- The signal that carries answers. -/
  signal : SignalRef
  waiting : List Waiting
  /-- Reports that no command was waiting for, oldest first. -/
  early : List Report
  /-- What was delivered, by number of ticket. -/
  answers : List (Nat × Answer)
  /-- The number of tickets given out. -/
  issued : Nat

/-- What became of a log entry. -/
inductive Handled where
  /-- The entry is not on the signal that carries answers. -/
  | ignored
  | fulfilled (uuid : UInt32)
  /-- No command is waiting; the report is kept. -/
  | unmatched (uuid : UInt32)
  /-- The entry is too short to be a report. -/
  | malformed
deriving DecidableEq, Repr

namespace Report

/-- The report in a log entry. -/
def ofEntry? (entry : LogEntry) : Option Report :=
  match ScheduledHeader.decode entry.data with
  | .ok (header, body) => some ⟨header, body⟩
  | .error _ => none

/-- What a report says of a command. -/
def answer (report : Report) (spec : CommandSpec) : Answer :=
  if report.header.commandId ≠ spec.id then
    .error (.commandMismatch report.header.uuid spec.id report.header.commandId)
  else if report.header.failed then
    .error (.executionFailed spec.name report.header.uuid report.body.head?)
  else (spec.decodeSuccess report.body).mapError .body

end Report

namespace Correlator

/-- The most reports that are kept for a late registration. -/
def earlyLimit : Nat := 16

/-- No scheduled commands. -/
def new (signal : SignalRef) : Correlator :=
  ⟨signal, [], [], [], 0⟩

/-- The number of commands without an answer. -/
def pendingCount (c : Correlator) : Nat :=
  c.waiting.length

/-- Whether a command is waiting under a uuid. -/
def isPending (c : Correlator) (uuid : UInt32) : Bool :=
  c.waiting.any (·.uuid = uuid)

/-- Deliver an answer to a ticket. -/
def deliver (c : Correlator) (ticket : Nat) (answer : Answer) : Correlator :=
  { c with answers := c.answers ++ [(ticket, answer)] }

/-- The answer that was delivered to a ticket. -/
def answer? (c : Correlator) (ticket : Ticket) : Option Answer :=
  c.answers.lookup ticket.number

/-- Register a command under the uuid of its acknowledgement. A report that is already there is its
answer. -/
def register (c : Correlator) (uuid : UInt32) (spec : CommandSpec) :
    Correlator × Except ResponseError Ticket :=
  if c.isPending uuid then (c, .error (.duplicateUuid uuid))
  else
    let number := c.issued
    let issued := { c with issued := number + 1 }
    let next := match c.early.find? (·.header.uuid = uuid) with
      | some report =>
        let claimed := { issued with early := c.early.eraseP (·.header.uuid = uuid) }
        claimed.deliver number (report.answer spec)
      | none => { issued with waiting := c.waiting ++ [⟨uuid, number, spec⟩] }
    (next, .ok ⟨number, uuid, spec.name⟩)

/-- Keep a report for a late registration. If there are too many the oldest is lost. -/
def keep (c : Correlator) (report : Report) : Correlator :=
  let early := if c.early.length = earlyLimit then c.early.drop 1 else c.early
  { c with early := early ++ [report] }

/-- Take notice of a report. -/
def accept (c : Correlator) (report : Report) : Correlator × Handled :=
  let uuid := report.header.uuid
  match c.waiting.find? (·.uuid = uuid) with
  | some slot =>
    let taken := { c with waiting := c.waiting.eraseP (·.uuid = uuid) }
    (taken.deliver slot.ticket (report.answer slot.spec), .fulfilled uuid)
  | none => (c.keep report, .unmatched uuid)

/-- Take notice of a log entry. -/
def handleLog (c : Correlator) (entry : LogEntry) : Correlator × Handled :=
  if c.signal.isOf entry then
    match Report.ofEntry? entry with
    | some report => c.accept report
    | none => (c, .malformed)
  else (c, .ignored)

/-- End the wait of every command, and forget the reports that were kept. -/
def cancelAll (c : Correlator) : Correlator :=
  { c with
    waiting := []
    early := []
    answers := c.answers ++ c.waiting.map fun slot => (slot.ticket, .error .cancelled) }

end Correlator

end GroundLink
