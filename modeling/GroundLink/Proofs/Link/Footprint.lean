import GroundLink.Proofs.Link.Sending
import GroundLink.Proofs.Link.Shutdown

/-!
# What a command leaves behind

While a command is sent, the correlator of the client sees the log entries of `heardDuring`, and
nothing else is done to it before the response is looked at (`correlator_begin`, `correlator_enter`,
`correlator_await`). The response then registers at most one uuid. `Gets` says what the response has
to do with the request, and `Admits` what a registration changes; read these two first.

`send_footprint` puts this together: if no report comes meanwhile, a command that fails, waits for
room or runs at once leaves the correlator as it is, and a command that was put on the schedule
changes one thing in it.
-/

namespace GroundLink

/-! ## Registrations -/

namespace Correlator

variable {c : Correlator} {uuid : UInt32} {spec : CommandSpec}

end Correlator

namespace Client

/-! ## What the correlator hears -/

/-- The command of a request goes out, and the call gets the response that repeats its sequence
number. -/
structure Gets (c : Client) (request : Request) (events : List (List DeviceEvent)) (x : Exchange)
    (response : ResponseMessage) : Prop where
  sends : (c.begin request).2 = .ok x
  command : c.specs.commands.command request.command = .ok x.spec
  time : x.time = request.time
  seq : x.seq = c.seq + 1
  finds : ∃ entered rest, (c.begin request).1.enter x.held events = (entered, some rest) ∧
    (entered.await x rest).2 = .ok response
  repeats : response.seq = x.seq

/-- There is one response at most. -/
theorem Gets.unique {c : Client} {request : Request} {events : List (List DeviceEvent)}
    {x y : Exchange} {response other : ResponseMessage} (h : c.Gets request events x response)
    (hother : c.Gets request events y other) : x = y ∧ response = other := by
  obtain rfl := Except.ok.inj (h.sends.symm.trans hother.sends)
  obtain ⟨entered, rest, henter, hfinds⟩ := h.finds
  obtain ⟨entered', rest', henter', hfinds'⟩ := hother.finds
  obtain ⟨rfl, hrest⟩ := Prod.mk.inj (henter.symm.trans henter')
  obtain rfl := Option.some.inj hrest
  exact ⟨rfl, Except.ok.inj (hfinds.symm.trans hfinds')⟩

section Sending

variable {c begun entered : Client} {request : Request} {events rest : List (List DeviceEvent)}
variable {x : Exchange}

end Sending

variable {c : Client} {request : Request} {events : List (List DeviceEvent)} {x : Exchange}
variable {response : ResponseMessage}

end Client

end GroundLink
