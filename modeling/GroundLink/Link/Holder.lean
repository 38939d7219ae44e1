import GroundLink.Link.Correlator

/-!
# Waiting for an answer

Whoever holds a ticket may ask for its answer any number of times. The first answer that is seen is
kept, and every later question is answered from there, without another look at the correlator.
-/

namespace GroundLink

/-- Whether somebody is left who could answer a ticket. -/
def Correlator.owes (c : Correlator) (ticket : Ticket) : Bool :=
  c.waiting.any (·.ticket = ticket.number)

/-- A ticket with the answer that was seen first. -/
structure Holder where
  ticket : Ticket
  kept : Option Answer

namespace Holder

/-- A holder that has not asked yet. -/
def new (ticket : Ticket) : Holder :=
  ⟨ticket, none⟩

/-- Ask for the answer. The wait is over, too, when nobody is left who could answer. -/
def ask (holder : Holder) (c : Correlator) : Holder × Option Answer :=
  match holder.kept with
  | some answer => (holder, some answer)
  | none =>
    match c.answer? holder.ticket with
    | some answer => ({ holder with kept := some answer }, some answer)
    | none =>
      if c.owes holder.ticket then (holder, none)
      else ({ holder with kept := some (.error .cancelled) }, some (.error .cancelled))

end Holder

end GroundLink
