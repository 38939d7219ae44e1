import GroundLink.Link.Pipe

/-!
# What a pipe conveys

`Pipe.run` makes calls at the two ends of a pipe, one after another, and keeps what each of them
gave. `sent` and `received` read off these events what was written and what was read at an end; they
know nothing of where the pipe keeps its bytes. Read `run_conserves` first: what was written at an
end is what was read at the other, and then what is unread.

After an end is closed, the other one is `Draining` until it has read everything.
`reads_what_was_sent` says that reads then give the rest, fail at its end, and fail from then on.
A write does not wait for that: `drains_unless_it_writes` says how far the rest can still be read.
-/

namespace GroundLink

/-! ## Calls one after another -/

/-- What may be done at an end of a pipe. -/
inductive PipeAction where
  | connect
  | write (data : Bytes)
  | read (size : Nat)
  | close
deriving DecidableEq, Repr

/-- A call at an end. -/
structure PipeCall where
  place : PipeEnd
  action : PipeAction
deriving DecidableEq, Repr

/-- A call and what it gave: the bytes of a read, nothing, or an error. -/
structure PipeEvent where
  call : PipeCall
  outcome : Except PipeError Bytes

/-- The bytes that an event adds to what was written at an end. A write that fails adds none. -/
def PipeEvent.sent (e : PipeEnd) : PipeEvent → Bytes
  | ⟨⟨place, .write data⟩, .ok _⟩ => if place = e then data else []
  | _ => []

/-- The bytes that an event adds to what was read at an end. -/
def PipeEvent.received (e : PipeEnd) : PipeEvent → Bytes
  | ⟨⟨place, .read _⟩, .ok data⟩ => if place = e then data else []
  | _ => []

/-- A read that has room for a byte. -/
def PipeAction.Reads : PipeAction → Prop
  | .read size => size ≠ 0
  | _ => False

instance : DecidablePred PipeAction.Reads
  | .read size => inferInstanceAs (Decidable (size ≠ 0))
  | .connect | .write _ | .close => inferInstanceAs (Decidable False)

namespace Pipe

/-- Make a call. -/
def perform (p : Pipe) : PipeCall → Pipe × Except PipeError Bytes
  | ⟨e, .connect⟩ => ((p.connect e).1, (p.connect e).2.map fun _ => [])
  | ⟨e, .write data⟩ => ((p.write e data).1, (p.write e data).2.map fun _ => [])
  | ⟨e, .read size⟩ => p.read e size
  | ⟨e, .close⟩ => (p.close e, .ok [])

/-- Make calls, and keep what they gave. -/
def run (p : Pipe) : List PipeCall → Pipe × List PipeEvent
  | [] => (p, [])
  | call :: rest =>
    (((p.perform call).1.run rest).1,
      ⟨call, (p.perform call).2⟩ :: ((p.perform call).1.run rest).2)

/-- What was written at an end. -/
def sent (e : PipeEnd) (events : List PipeEvent) : Bytes :=
  events.flatMap (PipeEvent.sent e)

/-- What was read at an end. -/
def received (e : PipeEnd) (events : List PipeEvent) : Bytes :=
  events.flatMap (PipeEvent.received e)

/-- What the calls at an end gave. -/
def outcomes (e : PipeEnd) (events : List PipeEvent) : List (Except PipeError Bytes) :=
  (events.filter (·.call.place = e)).map (·.outcome)

/-- The bytes that are on the way to an end. -/
def unread (p : Pipe) (e : PipeEnd) : Bytes :=
  (p.side e).pending ++ (p.side e).inbox.flatten

/-- The most reads that can succeed at an end if nothing more is written: each takes a byte or a
write. -/
def backlog (p : Pipe) (e : PipeEnd) : Nat :=
  (p.unread e).length + (p.side e).inbox.length

end Pipe

/-! ## The two sides -/

/-- The end across from the end across is the end itself. -/
@[simp]
theorem PipeEnd.peer_peer (e : PipeEnd) : e.peer.peer = e := by
  cases e <;> rfl

/-- An end is not across from itself. -/
theorem PipeEnd.peer_ne (e : PipeEnd) : e.peer ≠ e := by
  cases e <;> decide

/-- There are two ends only. -/
theorem PipeEnd.eq_or_eq_peer (e other : PipeEnd) : other = e ∨ other = e.peer := by
  cases e <;> cases other <;> decide

/-- A call at one end adds nothing to what was written at the other. -/
theorem PipeEvent.sent_elsewhere {e : PipeEnd} {event : PipeEvent} (h : event.call.place ≠ e) :
    event.sent e = [] := by
  obtain ⟨⟨place, action⟩, outcome⟩ := event
  cases action with
  | write data =>
      cases outcome with
      | ok => exact if_neg h
      | error => rfl
  | connect | read | close => rfl

/-- A call at one end adds nothing to what was read at the other. -/
theorem PipeEvent.received_elsewhere {e : PipeEnd} {event : PipeEvent} (h : event.call.place ≠ e) :
    event.received e = [] := by
  obtain ⟨⟨place, action⟩, outcome⟩ := event
  cases action with
  | read size =>
      cases outcome with
      | ok => exact if_neg h
      | error => rfl
  | connect | write | close => rfl

namespace Pipe

variable {p : Pipe} {e : PipeEnd} {call : PipeCall} {calls : List PipeCall}

/-- The side that was replaced is the new one. -/
@[simp]
theorem side_withSide (p : Pipe) (e : PipeEnd) (s : PipeSide) : (p.withSide e s).side e = s := by
  cases e <;> rfl

/-- The side across stays when one is replaced. -/
@[simp]
theorem side_peer_withSide (p : Pipe) (e : PipeEnd) (s : PipeSide) :
    (p.withSide e s).side e.peer = p.side e.peer := by
  cases e <;> rfl

/-- A side stays when the one across is replaced. -/
@[simp]
theorem side_withSide_peer (p : Pipe) (e : PipeEnd) (s : PipeSide) :
    (p.withSide e.peer s).side e = p.side e := by
  cases e <;> rfl

/-- Replacing a side does not break the pipe. -/
@[simp]
theorem broken_withSide (p : Pipe) (e : PipeEnd) (s : PipeSide) :
    (p.withSide e s).broken = p.broken := by
  cases e <;> rfl

/-- Closing makes a side neither open nor intact. -/
@[simp]
theorem side_close (p : Pipe) (e : PipeEnd) :
    (p.close e).side e = { p.side e with isOpen := false, intact := false } := by
  cases e <;> rfl

/-- Closing an end leaves the side across alone. -/
@[simp]
theorem side_peer_close (p : Pipe) (e : PipeEnd) : (p.close e).side e.peer = p.side e.peer := by
  cases e <;> rfl

/-- Closing the end across leaves a side alone. -/
@[simp]
theorem side_close_peer (p : Pipe) (e : PipeEnd) : (p.close e.peer).side e = p.side e := by
  cases e <;> rfl

/-! ## What a call can do -/

/-- An end is opened if it is intact, and cannot be opened otherwise. -/
theorem connect_cases (p : Pipe) (e : PipeEnd) :
    ((p.side e).intact = true ∧
      p.connect e = (p.withSide e { p.side e with isOpen := true }, .ok ())) ∨
    ((p.side e).intact = false ∧ p.connect e = (p, .error .spent)) := by
  unfold connect
  cases hintact : (p.side e).intact with
  | true => exact .inl ⟨rfl, if_pos rfl⟩
  | false => exact .inr ⟨rfl, if_neg Bool.false_ne_true⟩

/-- A write fails at an end that is not open, goes across, or finds the pipe broken and closes the
end. -/
theorem write_cases (p : Pipe) (e : PipeEnd) (data : Bytes) :
    ((p.side e).isOpen = false ∧ p.write e data = (p, .error .notOpen)) ∨
    ((p.side e).isOpen = true ∧ p.broken = false ∧
      p.write e data = (p.withSide e.peer
        { p.side e.peer with inbox := (p.side e.peer).inbox ++ [data] }, .ok ())) ∨
    ((p.side e).isOpen = true ∧ ((p.side e).intact = false ∨ p.broken = true) ∧
      p.write e data = (p.close e, .error .broken)) := by
  unfold write
  cases hopen : (p.side e).isOpen with
  | false => exact .inl ⟨rfl, if_pos rfl⟩
  | true =>
      refine .inr ?_
      cases hintact : (p.side e).intact <;> cases hbroken : p.broken <;> simp

section Read

variable {size : Nat}

/-- A read fails at an end that is not open. -/
theorem read_of_not_open (hopen : (p.side e).isOpen = false) (size : Nat) :
    p.read e size = (p, .error .notOpen) := by
  simp only [read, hopen, Bool.not_false, if_true]

/-- What is left of an earlier write comes first. -/
theorem read_of_pending (hopen : (p.side e).isOpen = true)
    (hleft : size ≠ 0 ∧ (p.side e).pending ≠ []) :
    p.read e size =
      (p.withSide e { p.side e with
        inbox := (p.side e).inbox
        pending := (p.side e).pending.drop size }, .ok ((p.side e).pending.take size)) := by
  simp only [read, hopen, hleft, Bool.not_true, Bool.false_eq_true, if_false, and_self,
    not_false_eq_true, if_true, ne_eq]

/-- If nothing is left over, a read starts on the next write. -/
theorem read_of_write (hopen : (p.side e).isOpen = true)
    (hleft : ¬(size ≠ 0 ∧ (p.side e).pending ≠ [])) {data : Bytes} {rest : List Bytes}
    (hinbox : (p.side e).inbox = data :: rest) :
    p.read e size =
      (p.withSide e { p.side e with
        inbox := rest
        pending := ((p.side e).pending ++ data).drop size },
        .ok (((p.side e).pending ++ data).take size)) := by
  simp only [read, hopen, hleft, hinbox, Bool.not_true, Bool.false_eq_true, if_false]

/-- If nothing at all is unread, a read gives nothing while the other end is intact, and closes its
own end otherwise. -/
theorem read_of_nothing (hopen : (p.side e).isOpen = true)
    (hleft : ¬(size ≠ 0 ∧ (p.side e).pending ≠ [])) (hinbox : (p.side e).inbox = []) :
    p.read e size =
      if (p.side e.peer).intact then (p, .ok []) else (p.close e, .error .atEnd) := by
  simp only [read, hopen, hleft, hinbox, Bool.not_true, Bool.false_eq_true, if_false]

end Read

/-- A read is refused, takes from the front of what is unread, finds nothing yet, or finds that
nothing comes any more. -/
theorem read_cases (p : Pipe) (e : PipeEnd) (size : Nat) :
    ((p.side e).isOpen = false ∧ p.read e size = (p, .error .notOpen)) ∨
    ((p.side e).isOpen = true ∧ ∃ data pending inbox,
      p.read e size = (p.withSide e { p.side e with inbox, pending }, .ok data) ∧
      p.unread e = data ++ (pending ++ inbox.flatten) ∧
      inbox.length ≤ (p.side e).inbox.length ∧
      (size ≠ 0 → data = [] → inbox.length < (p.side e).inbox.length)) ∨
    ((p.side e).isOpen = true ∧ (p.side e).inbox = [] ∧ (size ≠ 0 → (p.side e).pending = []) ∧
      ((p.side e.peer).intact = true ∧ p.read e size = (p, .ok []) ∨
        (p.side e.peer).intact = false ∧ p.read e size = (p.close e, .error .atEnd))) := by
  cases hopen : (p.side e).isOpen with
  | false => exact .inl ⟨rfl, read_of_not_open hopen size⟩
  | true =>
      refine .inr ?_
      by_cases hleft : size ≠ 0 ∧ (p.side e).pending ≠ []
      · refine .inl ⟨rfl, _, _, _, read_of_pending hopen hleft, ?_, Nat.le_refl _, ?_⟩
        · rw [unread, ← List.append_assoc, List.take_append_drop]
        · intro _ hnothing
          rcases List.take_eq_nil_iff.mp hnothing with hsize | hpending
          · exact absurd hsize hleft.1
          · exact absurd hpending hleft.2
      · cases hinbox : (p.side e).inbox with
        | cons data rest =>
            refine .inl ⟨rfl, _, _, _, read_of_write hopen hleft hinbox, ?_, Nat.le_succ _,
              fun _ _ => Nat.lt_succ_self _⟩
            rw [unread, hinbox, List.flatten_cons, ← List.append_assoc, ← List.append_assoc,
              List.take_append_drop]
        | nil =>
            have hpending : size ≠ 0 → (p.side e).pending = [] :=
              fun hsize => Decidable.of_not_not fun hne => hleft ⟨hsize, hne⟩
            refine .inr ⟨rfl, rfl, hpending, ?_⟩
            rw [read_of_nothing hopen hleft hinbox]
            cases (p.side e.peer).intact with
            | true => exact .inl ⟨rfl, rfl⟩
            | false => exact .inr ⟨rfl, rfl⟩

/-! ## Bytes are neither lost nor doubled -/

/-- What a new side holds is unread then. -/
theorem unread_withSide (p : Pipe) (e : PipeEnd) (s : PipeSide) :
    (p.withSide e s).unread e = s.pending ++ s.inbox.flatten := by
  rw [unread, side_withSide]

/-- What is unread at an end only depends on its side. -/
theorem unread_congr {q : Pipe} (h : q.side e = p.side e) : q.unread e = p.unread e := by
  rw [unread, unread, h]

/-- Closing an end throws nothing away. -/
@[simp]
theorem unread_close (p : Pipe) (e other : PipeEnd) : (p.close other).unread e = p.unread e := by
  rcases e.eq_or_eq_peer other with rfl | rfl
  · simp [unread]
  · exact unread_congr (side_close_peer p e)

/-- Opening an end throws nothing away. -/
theorem connect_keeps_unread (p : Pipe) (e other : PipeEnd) :
    (p.connect other).1.unread e = p.unread e := by
  rcases p.connect_cases other with ⟨-, hconnect⟩ | ⟨-, hconnect⟩
  · rw [hconnect]
    rcases e.eq_or_eq_peer other with rfl | rfl
    · exact unread_withSide p other _
    · exact unread_congr (side_withSide_peer p e _)
  · rw [hconnect]

/-- What a call takes out at an end is the front of what was unread there, and what it puts in at
the other end comes behind. -/
theorem perform_conserves (p : Pipe) (e : PipeEnd) (call : PipeCall) :
    p.unread e ++ PipeEvent.sent e.peer ⟨call, (p.perform call).2⟩ =
      PipeEvent.received e ⟨call, (p.perform call).2⟩ ++ (p.perform call).1.unread e := by
  obtain ⟨place, action⟩ := call
  cases action with
  | connect =>
      show p.unread e ++ [] = (p.connect place).1.unread e
      rw [connect_keeps_unread, List.append_nil]
  | close =>
      show p.unread e ++ [] = (p.close place).unread e
      rw [unread_close, List.append_nil]
  | write data =>
      rcases p.write_cases place data with ⟨-, hwrite⟩ | ⟨-, -, hwrite⟩ | ⟨-, -, hwrite⟩
      · simp [perform, hwrite, PipeEvent.sent, PipeEvent.received, Except.map]
      · rcases e.eq_or_eq_peer place with rfl | rfl
        · have hother : place ≠ place.peer := place.peer_ne.symm
          simp [perform, hwrite, PipeEvent.sent, PipeEvent.received, Except.map, hother, unread]
        · simp [perform, hwrite, PipeEvent.sent, PipeEvent.received, Except.map, unread]
      · simp [perform, hwrite, PipeEvent.sent, PipeEvent.received, Except.map]
  | read size =>
      rcases p.read_cases place size with ⟨-, hread⟩ |
        ⟨-, data, pending, inbox, hread, hunread, -⟩ | ⟨-, -, -, ⟨-, hread⟩ | ⟨-, hread⟩⟩
      · simp [perform, hread, PipeEvent.sent, PipeEvent.received]
      · rcases e.eq_or_eq_peer place with rfl | rfl
        · simp [perform, hread, PipeEvent.sent, PipeEvent.received, unread_withSide, hunread]
        · have hother : e.peer ≠ e := e.peer_ne
          simp [perform, hread, PipeEvent.sent, PipeEvent.received, hother, unread]
      · simp [perform, hread, PipeEvent.sent, PipeEvent.received]
      · simp [perform, hread, PipeEvent.sent, PipeEvent.received]

/-- What was unread and what was written since is what was read since, and then what is unread. -/
theorem run_conserves (p : Pipe) (e : PipeEnd) (calls : List PipeCall) :
    p.unread e ++ sent e.peer (p.run calls).2 = received e (p.run calls).2 ++
      (p.run calls).1.unread e := by
  induction calls generalizing p with
  | nil => exact List.append_nil _
  | cons call rest ih =>
      have hcall := p.perform_conserves e call
      have hrest := ih (p.perform call).1
      simp only [run, sent, received, List.flatMap_cons] at hrest ⊢
      rw [← List.append_assoc, hcall, List.append_assoc, hrest, List.append_assoc]

/-- A run goes on where the calls before it have led. -/
theorem run_append (p : Pipe) (calls more : List PipeCall) :
    p.run (calls ++ more) = (((p.run calls).1.run more).1,
      (p.run calls).2 ++ ((p.run calls).1.run more).2) := by
  induction calls generalizing p with
  | nil => rfl
  | cons call rest ih => simp only [List.cons_append, run, ih]

/-- In a new pipe, all that was written at one end was read at the other or is unread there. -/
theorem new_conserves (e : PipeEnd) (calls : List PipeCall) :
    sent e.peer (new.run calls).2 = received e (new.run calls).2 ++ (new.run calls).1.unread e := by
  have hnew : new.unread e = [] := by cases e <;> rfl
  have hrun := new.run_conserves e calls
  rwa [hnew] at hrun

/-! ## After an end is closed -/

/-- What holds of a pipe at any time. -/
structure Proper (p : Pipe) : Prop where
  /-- An end that is open was never closed. -/
  intact : ∀ e, (p.side e).isOpen = true → (p.side e).intact = true
  /-- The pipe knows that an end was closed. -/
  broken : ∀ e, (p.side e).intact = false → p.broken = true

/-- A new pipe is proper. -/
theorem new_proper : new.Proper where
  intact e hopen := by cases e <;> cases hopen
  broken e hclosed := by cases e <;> cases hclosed

/-- An end that is not intact is not open. -/
theorem Proper.not_open (h : p.Proper) (hclosed : (p.side e).intact = false) :
    (p.side e).isOpen = false := by
  cases hopen : (p.side e).isOpen with
  | false => rfl
  | true => exact absurd (hclosed.symm.trans (h.intact e hopen)) Bool.false_ne_true

/-- A pipe stays proper if a side is replaced by one that is proper and as intact as before. -/
theorem Proper.withSide (h : p.Proper) {s : PipeSide} (hopen : s.isOpen = true → s.intact = true)
    (hintact : s.intact = (p.side e).intact) : (p.withSide e s).Proper := by
  constructor
  · intro other
    rcases e.eq_or_eq_peer other with rfl | rfl
    · rw [side_withSide]
      exact hopen
    · rw [side_peer_withSide]
      exact h.intact _
  · intro other
    rw [broken_withSide]
    rcases e.eq_or_eq_peer other with rfl | rfl
    · rw [side_withSide, hintact]
      exact h.broken _
    · rw [side_peer_withSide]
      exact h.broken _

/-- A pipe stays proper when an end is closed. -/
theorem Proper.close (h : p.Proper) (e : PipeEnd) : (p.close e).Proper := by
  refine ⟨fun other => ?_, fun _ _ => rfl⟩
  rcases e.eq_or_eq_peer other with rfl | rfl
  · rw [side_close]
    exact nofun
  · rw [side_peer_close]
    exact h.intact _

/-- A call closes its end or leaves both ends closed or not as they are. -/
theorem Proper.perform_cases (h : p.Proper) (call : PipeCall) :
    (p.perform call).1 = p.close call.place ∨
    ∃ e s, (p.perform call).1 = p.withSide e s ∧ s.intact = (p.side e).intact ∧
      (s.isOpen = true → s.intact = true) := by
  have hsame : ∀ e, p = p.withSide e (p.side e) := fun e => by cases e <;> rfl
  have hkept := h.intact call.place
  obtain ⟨place, action⟩ := call
  cases action with
  | connect =>
      refine .inr ⟨place, ?_⟩
      rcases p.connect_cases place with ⟨hintact, hconnect⟩ | ⟨-, hconnect⟩
      · exact ⟨_, congrArg Prod.fst hconnect, rfl, fun _ => hintact⟩
      · exact ⟨_, (congrArg Prod.fst hconnect).trans (hsame place), rfl, hkept⟩
  | close => exact .inl rfl
  | write data =>
      rcases p.write_cases place data with ⟨-, hwrite⟩ | ⟨-, -, hwrite⟩ | ⟨-, -, hwrite⟩
      · exact .inr ⟨place, _, (congrArg Prod.fst hwrite).trans (hsame place), rfl, hkept⟩
      · exact .inr ⟨place.peer, _, congrArg Prod.fst hwrite, rfl, h.intact place.peer⟩
      · exact .inl (congrArg Prod.fst hwrite)
  | read size =>
      rcases p.read_cases place size with ⟨-, hread⟩ | ⟨-, data, pending, inbox, hread, -⟩ |
        ⟨-, -, -, ⟨-, hread⟩ | ⟨-, hread⟩⟩
      · exact .inr ⟨place, _, (congrArg Prod.fst hread).trans (hsame place), rfl, hkept⟩
      · exact .inr ⟨place, _, congrArg Prod.fst hread, rfl, hkept⟩
      · exact .inr ⟨place, _, (congrArg Prod.fst hread).trans (hsame place), rfl, hkept⟩
      · exact .inl (congrArg Prod.fst hread)

/-- A call leaves a pipe proper. -/
theorem Proper.perform (h : p.Proper) (call : PipeCall) : (p.perform call).1.Proper := by
  rcases h.perform_cases call with hclose | ⟨e, s, hside, hintact, hopen⟩
  · rw [hclose]
    exact h.close call.place
  · rw [hside]
    exact h.withSide hopen hintact

/-- An end that was closed is closed for good. -/
theorem Proper.perform_closed (h : p.Proper) (hclosed : (p.side e).intact = false)
    (call : PipeCall) : ((p.perform call).1.side e).intact = false := by
  rcases h.perform_cases call with hclose | ⟨other, s, hside, hintact, -⟩
  · rw [hclose]
    rcases e.eq_or_eq_peer call.place with hown | hpeer
    · rw [hown, side_close]
    · rw [hpeer, side_close_peer]
      exact hclosed
  · rw [hside]
    rcases e.eq_or_eq_peer other with rfl | rfl
    · rw [side_withSide, hintact]
      exact hclosed
    · rw [side_withSide_peer]
      exact hclosed

/-- So do all calls of a list. -/
theorem Proper.run (h : p.Proper) (calls : List PipeCall) : (p.run calls).1.Proper := by
  induction calls generalizing p with
  | nil => exact h
  | cons call rest ih => exact ih (h.perform call)

/-- An end that is closed for good stays so. -/
theorem Proper.run_closed (h : p.Proper) (hclosed : (p.side e).intact = false)
    (calls : List PipeCall) : ((p.run calls).1.side e).intact = false := by
  induction calls generalizing p with
  | nil => exact hclosed
  | cons call rest ih => exact ih (h.perform call) (h.perform_closed hclosed call)

/-- Calls at an end that was closed do not reach the other one. -/
theorem Proper.perform_elsewhere (h : p.Proper) (hclosed : (p.side e.peer).intact = false)
    (hplace : call.place = e.peer) : (p.perform call).1.side e = p.side e := by
  have hopen := h.not_open hclosed
  obtain ⟨place, action⟩ := call
  obtain rfl : place = e.peer := hplace
  cases action with
  | connect => simp [Pipe.perform, connect, hclosed]
  | close => exact side_close_peer p e
  | write data => simp [Pipe.perform, write, hopen]
  | read size => simp [Pipe.perform, read, hopen]

/-! ### Reading the rest -/

/-- An end is open, and nothing more is written to it. -/
structure Draining (p : Pipe) (e : PipeEnd) : Prop where
  proper : p.Proper
  opened : (p.side e).isOpen = true
  ended : (p.side e.peer).intact = false

/-- A read gives the front of the rest, or closes the end if there is no rest. -/
theorem Draining.read_cases (h : p.Draining e) {size : Nat} (hsize : size ≠ 0) :
    (∃ data, (p.read e size).2 = .ok data ∧ (p.read e size).1.Draining e ∧
      (p.read e size).1.backlog e < p.backlog e) ∨
    (p.read e size = (p.close e, .error .atEnd) ∧ p.unread e = []) := by
  rcases p.read_cases e size with ⟨hclosed, -⟩ |
    ⟨-, data, pending, inbox, hread, hunread, hle, hless⟩ |
    ⟨-, hinbox, hpending, ⟨hpeer, -⟩ | ⟨-, hread⟩⟩
  · exact absurd (hclosed.symm.trans h.opened) Bool.false_ne_true
  · refine .inl ⟨data, by rw [hread], ?_, ?_⟩
    · have hproper := h.proper.perform ⟨e, .read size⟩
      simp only [perform, hread] at hproper ⊢
      exact ⟨hproper, by simpa using h.opened, by simpa using h.ended⟩
    · rw [hread, backlog, backlog, hunread, unread_withSide, side_withSide]
      show (pending ++ inbox.flatten).length + inbox.length < _
      cases data with
      | nil => exact Nat.add_lt_add_left (hless hsize rfl) _
      | cons byte rest =>
          simp only [List.length_append, List.length_cons]
          omega
  · exact absurd (h.ended.symm.trans hpeer) Bool.false_ne_true
  · refine .inr ⟨hread, ?_⟩
    rw [unread, hpending hsize, hinbox]
    rfl

/-- A call at the closed end does not disturb the other one while it drains. -/
theorem Draining.perform_elsewhere (h : p.Draining e) (hplace : call.place = e.peer) :
    (p.perform call).1.Draining e := by
  refine ⟨h.proper.perform call, ?_, h.proper.perform_closed h.ended call⟩
  rw [h.proper.perform_elsewhere h.ended hplace]
  exact h.opened

/-- Nothing is written or read at an end that was closed. -/
theorem Proper.perform_spent (h : p.Proper) (hclosed : (p.side e).intact = false)
    (call : PipeCall) : PipeEvent.sent e ⟨call, (p.perform call).2⟩ = [] ∧
      PipeEvent.received e ⟨call, (p.perform call).2⟩ = [] := by
  by_cases hplace : call.place = e
  · have hopen := h.not_open hclosed
    obtain ⟨place, action⟩ := call
    obtain rfl : place = e := hplace
    cases action with
    | connect | close => exact ⟨rfl, rfl⟩
    | write data =>
        simp [Pipe.perform, write, hopen, Except.map, PipeEvent.sent, PipeEvent.received]
    | read size => simp [Pipe.perform, read, hopen, PipeEvent.sent, PipeEvent.received]
  · exact ⟨PipeEvent.sent_elsewhere hplace, PipeEvent.received_elsewhere hplace⟩

/-- At an end that is closed for good nothing is written and nothing read any more. -/
theorem Proper.run_spent (h : p.Proper) (hclosed : (p.side e).intact = false)
    (calls : List PipeCall) : sent e (p.run calls).2 = [] ∧ received e (p.run calls).2 = [] := by
  induction calls generalizing p with
  | nil => exact ⟨rfl, rfl⟩
  | cons call rest ih =>
      obtain ⟨hsent, hreceived⟩ := h.perform_spent hclosed call
      obtain ⟨hlater, hrest⟩ := ih (h.perform call) (h.perform_closed hclosed call)
      rw [sent] at hlater
      rw [received] at hrest
      simp [sent, received, Pipe.run, hsent, hreceived, hlater, hrest]

/-- The outcomes at an end are those of its calls in order. -/
theorem outcomes_run_cons (p : Pipe) (e : PipeEnd) (call : PipeCall) (rest : List PipeCall) :
    outcomes e (p.run (call :: rest)).2 =
      (if call.place = e then [(p.perform call).2] else []) ++
        outcomes e ((p.perform call).1.run rest).2 := by
  by_cases hplace : call.place = e <;> simp [outcomes, run, hplace]

/-- What is received at an end is received call by call. -/
theorem received_run_cons (p : Pipe) (e : PipeEnd) (call : PipeCall) (rest : List PipeCall) :
    received e (p.run (call :: rest)).2 = PipeEvent.received e ⟨call, (p.perform call).2⟩ ++
      received e ((p.perform call).1.run rest).2 :=
  List.flatMap_cons

/-- Reads at an end that was closed fail. -/
theorem Proper.run_refused (h : p.Proper) (hclosed : (p.side e).intact = false)
    (hcalls : ∀ call ∈ calls, call.place = e → call.action.Reads) :
    ∃ n, outcomes e (p.run calls).2 = List.replicate n (.error .notOpen) := by
  induction calls generalizing p with
  | nil => exact ⟨0, rfl⟩
  | cons call rest ih =>
      obtain ⟨hcall, hrest⟩ := List.forall_mem_cons.mp hcalls
      obtain ⟨n, hn⟩ := ih (h.perform call) (h.perform_closed hclosed call) hrest
      rw [outcomes_run_cons, hn]
      split
      case isTrue hplace =>
        refine ⟨n + 1, ?_⟩
        obtain ⟨place, action⟩ := call
        obtain rfl : place = e := hplace
        match action, hcall rfl with
        | .read size, _ =>
          simp [Pipe.perform, read, h.not_open hclosed, List.replicate_succ]
      case isFalse => exact ⟨n, rfl⟩

/-- When both ends are closed, what is unread stays so. -/
theorem Proper.unread_run (h : p.Proper) (hclosed : (p.side e).intact = false)
    (hpeer : (p.side e.peer).intact = false) (calls : List PipeCall) :
    (p.run calls).1.unread e = p.unread e := by
  have hrun := p.run_conserves e calls
  rw [(h.run_spent hpeer calls).1, (h.run_spent hclosed calls).2, List.append_nil,
    List.nil_append] at hrun
  exact hrun.symm

/-- Reads at an end give the rest piece by piece, fail once because it is over, and fail then
because the end is closed. -/
theorem Draining.run_outcomes (h : p.Draining e)
    (hcalls : ∀ call ∈ calls, call.place = e → call.action.Reads) :
    ∃ (chunks : List Bytes) (failures : List (Except PipeError Bytes)),
      outcomes e (p.run calls).2 = chunks.map .ok ++ failures ∧
      chunks.flatten = received e (p.run calls).2 ∧ chunks.length ≤ p.backlog e ∧
      (failures = [] ∧ (p.run calls).1.Draining e ∨
        (∃ n, failures = .error .atEnd :: List.replicate n (.error .notOpen)) ∧
          (p.run calls).1.unread e = [] ∧ ((p.run calls).1.side e).intact = false) := by
  induction calls generalizing p with
  | nil => exact ⟨[], [], rfl, rfl, Nat.zero_le _, .inl ⟨rfl, h⟩⟩
  | cons call rest ih =>
      obtain ⟨hcall, hrest⟩ := List.forall_mem_cons.mp hcalls
      rw [outcomes_run_cons, received_run_cons]
      by_cases hplace : call.place = e
      · obtain ⟨place, action⟩ := call
        obtain rfl : place = e := hplace
        match action, hcall rfl with
        | .read size, hsize =>
          rcases h.read_cases hsize with ⟨data, hdata, hdraining, hless⟩ | ⟨hread, hnothing⟩
          · obtain ⟨chunks, failures, houtcomes, hchunks, hle, hend⟩ := ih hdraining hrest
            refine ⟨data :: chunks, failures, ?_, ?_, Nat.lt_of_le_of_lt hle hless, hend⟩
            · rw [if_pos rfl]
              show [(p.read place size).2] ++ outcomes place ((p.read place size).1.run rest).2 = _
              rw [hdata, houtcomes]
              rfl
            · show data ++ chunks.flatten = _
              rw [hchunks]
              simp [perform, hdata, PipeEvent.received]
          · have hproper := h.proper.close place
            have hclosed : ((p.close place).side place).intact = false := by rw [side_close]
            have hpeer : ((p.close place).side place.peer).intact = false := by
              rw [side_peer_close]
              exact h.ended
            obtain ⟨n, hn⟩ := hproper.run_refused hclosed hrest
            have hperform : p.perform ⟨place, .read size⟩ = (p.close place, .error .atEnd) := hread
            refine ⟨[], _, ?_, ?_, Nat.zero_le _, .inr ⟨⟨n, rfl⟩, ?_, ?_⟩⟩
            · rw [if_pos rfl, hperform, hn]
              rfl
            · rw [hperform, (hproper.run_spent hclosed rest).2]
              rfl
            · rw [run, hperform, hproper.unread_run hclosed hpeer, unread_close, hnothing]
            · rw [run, hperform]
              exact hproper.run_closed hclosed rest
      · have hpeer : call.place = e.peer := (e.eq_or_eq_peer call.place).resolve_left hplace
        obtain ⟨chunks, failures, houtcomes, hchunks, hle, hend⟩ :=
          ih (h.perform_elsewhere hpeer) hrest
        have hsame := h.proper.perform_elsewhere h.ended hpeer
        refine ⟨chunks, failures, ?_, ?_, ?_, hend⟩
        · rw [if_neg hplace, houtcomes]
          rfl
        · rw [hchunks, PipeEvent.received_elsewhere hplace]
          rfl
        · rwa [backlog, unread_congr hsame, hsame] at hle

/-! ### Other calls in between -/

/-- An end that may still be read keeps the rest until it has been read, if it makes no call but to
connect and to read. -/
theorem Draining.perform (h : p.Draining e)
    (hcall : call.place = e → call.action = .connect ∨ call.action.Reads) :
    (p.perform call).1.Draining e ∨
      ((p.perform call).1.side e).intact = false ∧ (p.perform call).1.unread e = [] := by
  by_cases hplace : call.place = e
  · obtain ⟨place, action⟩ := call
    obtain rfl : place = e := hplace
    match action, hcall rfl with
    | .connect, _ =>
      refine .inl ⟨h.proper.perform _, ?_, h.proper.perform_closed h.ended _⟩
      have hintact := h.proper.intact place h.opened
      simp [Pipe.perform, connect, hintact]
    | .read size, .inr hsize =>
      rcases h.read_cases hsize with ⟨-, -, hdraining, -⟩ | ⟨hread, hnothing⟩
      · exact .inl hdraining
      · refine .inr ?_
        rw [show p.perform ⟨place, .read size⟩ = _ from hread]
        exact ⟨by rw [side_close], by rw [unread_close, hnothing]⟩
  · have hpeer : call.place = e.peer := (e.eq_or_eq_peer call.place).resolve_left hplace
    exact .inl (h.perform_elsewhere hpeer)

/-- An end that only connects and reads goes on draining, or is closed with nothing unread. -/
theorem Draining.run (h : p.Draining e)
    (hcalls : ∀ call ∈ calls, call.place = e → call.action = .connect ∨ call.action.Reads) :
    (p.run calls).1.Draining e ∨
      ((p.run calls).1.side e).intact = false ∧ (p.run calls).1.unread e = [] := by
  induction calls generalizing p with
  | nil => exact .inl h
  | cons call rest ih =>
      obtain ⟨hcall, hrest⟩ := List.forall_mem_cons.mp hcalls
      rcases h.perform hcall with hdraining | ⟨hclosed, hnothing⟩
      · exact ih hdraining hrest
      · have hproper := h.proper.perform call
        have hpeer := h.proper.perform_closed h.ended call
        refine .inr ⟨hproper.run_closed hclosed rest, ?_⟩
        rw [Pipe.run, hproper.unread_run hclosed hpeer, hnothing]

/-! ### Main statements -/

/-- What has been read at an end is a prefix of what was written at the other. Once the other end is
closed, an end that is open and only reads gets the rest piece by piece, within as many reads as its
backlog allows. Then a read fails because it is over, and the end is closed for good. -/
theorem reads_what_was_sent (calls : List PipeCall) (e : PipeEnd) :
    let p := (new.run calls).1
    let events := (new.run calls).2
    received e events <+: sent e.peer events ∧
    ((p.side e).isOpen = true → (p.side e.peer).intact = false →
      ∀ more : List PipeCall, (∀ call ∈ more, call.place = e → call.action.Reads) →
        ∃ (chunks : List Bytes) (failures : List (Except PipeError Bytes)),
          outcomes e (p.run more).2 = chunks.map .ok ++ failures ∧
          chunks.length ≤ p.backlog e ∧
          (failures = [] ∧ ((p.run more).1.side e).isOpen = true ∧
              received e events ++ chunks.flatten <+: sent e.peer events ∨
            (∃ n, failures = .error .atEnd :: List.replicate n (.error .notOpen)) ∧
              received e events ++ chunks.flatten = sent e.peer events ∧
              ∀ later, (((p.run more).1.run later).1.side e).isOpen = false)) := by
  intro p events
  have hproper : p.Proper := new_proper.run calls
  have hsent : sent e.peer events = received e events ++ p.unread e := new_conserves e calls
  refine ⟨⟨_, hsent.symm⟩, fun hopen hpeer more hmore => ?_⟩
  have hdraining : p.Draining e := ⟨hproper, hopen, hpeer⟩
  obtain ⟨chunks, failures, houtcomes, hchunks, hle, hend⟩ := hdraining.run_outcomes hmore
  -- nothing more comes, so the rest is what is read now and what is unread then
  have hrest : p.unread e = chunks.flatten ++ (p.run more).1.unread e := by
    have hrun := p.run_conserves e more
    rwa [(hproper.run_spent hpeer more).1, List.append_nil, ← hchunks] at hrun
  rw [hrest, ← List.append_assoc] at hsent
  refine ⟨chunks, failures, houtcomes, hle, ?_⟩
  rcases hend with ⟨hnone, hstill⟩ | ⟨hfailures, hnothing, hclosed⟩
  · exact .inl ⟨hnone, hstill.opened, _, hsent.symm⟩
  · rw [hnothing, List.append_nil] at hsent
    refine .inr ⟨hfailures, hsent.symm, fun later => ?_⟩
    have hover := hproper.run more
    exact (hover.run later).not_open (hover.run_closed hclosed later)

/-- Three writes, one of them empty, are read in pairs after the writer is closed: what the reads
give before they fail, one because all is read and the others because the end is closed, is what one
read had left before. -/
theorem reads_rest_in_pairs :
    let before : List PipeCall := [⟨.a, .connect⟩, ⟨.b, .connect⟩, ⟨.a, .write [1, 2, 3]⟩,
      ⟨.b, .read 1⟩, ⟨.a, .write []⟩, ⟨.a, .write [4]⟩, ⟨.a, .close⟩]
    let more : List PipeCall := List.replicate 6 ⟨.b, .read 2⟩
    let p := (new.run before).1
    (p.side .b).isOpen = true ∧ (p.side .a).intact = false ∧
      (∀ call ∈ more, call.place = .b → call.action.Reads) ∧
      (∃ (chunks : List Bytes) (n : Nat),
        outcomes .b (p.run more).2 =
          chunks.map .ok ++ .error .atEnd :: List.replicate n (.error .notOpen) ∧
        chunks.length ≤ p.backlog .b ∧ [1] ++ chunks.flatten = [1, 2, 3, 4]) ∧
      ∀ later, (((p.run more).1.run later).1.side .b).isOpen = false := by
  intro before more p
  have hmore : ∀ call ∈ more, call.place = .b → call.action.Reads := by decide
  refine ⟨rfl, rfl, hmore, ?_⟩
  obtain ⟨chunks, failures, houtcomes, hle, hend⟩ :=
    (reads_what_was_sent before .b).2 rfl rfl more hmore
  rcases hend with ⟨rfl, -⟩ | ⟨⟨n, rfl⟩, hall, hclosed⟩
  · -- at most five of the six reads succeed
    have hlength := congrArg List.length houtcomes
    rw [List.append_nil, List.length_map] at hlength
    exact absurd (hlength ▸ hle) (by decide)
  · exact ⟨⟨chunks, n, houtcomes, hle, hall⟩, hclosed⟩

/-- Let an end be open when the other one is closed. If it then only connects and reads, a read does
not fail before everything is read. Its first write fails, and then it reads nothing any more,
whatever is left. -/
theorem drains_unless_it_writes (e : PipeEnd) (before after : List PipeCall)
    (hopen : ((new.run before).1.side e).isOpen = true) :
    let now := new.run (before ++ ⟨e.peer, .close⟩ :: after)
    ((∀ call ∈ after, call.place = e → call.action = .connect ∨ call.action.Reads) →
      ∀ size error, size ≠ 0 → (now.1.read e size).2 = .error error →
        received e now.2 = sent e.peer (new.run before).2) ∧
    ((now.1.side e).isOpen = true → ∀ data, (now.1.write e data).2 = .error .broken ∧
      ∀ later, received e ((now.1.write e data).1.run later).2 = []) := by
  intro now
  have hproper : (new.run before).1.Proper := new_proper.run before
  have hdraining : ((new.run before).1.close e.peer).Draining e := by
    refine ⟨hproper.close e.peer, ?_, by rw [side_close]⟩
    rw [side_close_peer]
    exact hopen
  have hnow : now = ((((new.run before).1.close e.peer).run after).1, (new.run before).2 ++
      ⟨⟨e.peer, .close⟩, .ok []⟩ :: (((new.run before).1.close e.peer).run after).2) :=
    new.run_append before _
  constructor
  · intro hafter size error hsize hfails
    have hnothing : now.1.unread e = [] := by
      rw [hnow] at hfails ⊢
      rcases hdraining.run hafter with hstill | ⟨-, hnothing⟩
      · rcases hstill.read_cases hsize with ⟨data, hdata, -⟩ | ⟨-, hnothing⟩
        · exact absurd (hdata.symm.trans hfails) nofun
        · exact hnothing
      · exact hnothing
    have hsent : sent e.peer now.2 = sent e.peer (new.run before).2 := by
      have hspent := (hdraining.proper.run_spent hdraining.ended after).1
      rw [sent] at hspent
      simp [hnow, sent, PipeEvent.sent, hspent]
    rw [← hsent, new_conserves e, hnothing, List.append_nil]
  · intro hstill data
    have hproper : now.1.Proper := new_proper.run _
    have hbroken : now.1.broken = true := by
      refine hproper.broken e.peer ?_
      rw [hnow]
      exact hdraining.proper.run_closed hdraining.ended after
    have hwrite : now.1.write e data = (now.1.close e, .error .broken) := by
      rcases now.1.write_cases e data with ⟨hclosed, -⟩ | ⟨-, hwhole, -⟩ | ⟨-, -, hwrite⟩
      · exact absurd (hclosed.symm.trans hstill) Bool.false_ne_true
      · exact absurd (hwhole.symm.trans hbroken) Bool.false_ne_true
      · exact hwrite
    rw [hwrite]
    exact ⟨rfl, fun later => ((hproper.close e).run_spent (by rw [side_close]) later).2⟩

/-- Two writes of which one is empty are read, in pieces and around a second connect, before a read
fails. A write in place of that read fails, and then nothing is read. -/
theorem drains_two_writes :
    let before : List PipeCall := [⟨.a, .connect⟩, ⟨.b, .connect⟩, ⟨.a, .write [1, 2, 3]⟩,
      ⟨.a, .write []⟩, ⟨.b, .read 1⟩]
    let after : List PipeCall := [⟨.b, .read 1⟩, ⟨.a, .write [9]⟩, ⟨.b, .connect⟩, ⟨.b, .read 7⟩,
      ⟨.b, .read 7⟩]
    let now := new.run (before ++ ⟨.a, .close⟩ :: after)
    ((new.run before).1.side .b).isOpen = true ∧
      (∀ call ∈ after, call.place = .b → call.action = .connect ∨ call.action.Reads) ∧
      (now.1.read .b 7).2 = .error .atEnd ∧ received .b now.2 = [1, 2, 3] ∧
      (now.1.side .b).isOpen = true ∧ (now.1.write .b [9]).2 = .error .broken := by
  intro before after now
  have hafter : ∀ call ∈ after, call.place = .b → call.action = .connect ∨ call.action.Reads := by
    decide
  obtain ⟨hdrains, hwrites⟩ := drains_unless_it_writes .b before after rfl
  exact ⟨rfl, hafter, rfl, hdrains hafter 7 .atEnd (by decide) rfl, rfl, (hwrites rfl [9]).1⟩

/-- If an end writes after the other one is closed, it fails to read what was written to it
before. -/
theorem failed_write_loses_unread :
    ¬∀ (e : PipeEnd) (before after : List PipeCall),
      ((new.run before).1.side e).isOpen = true →
      (∀ call ∈ before ++ after, call ≠ ⟨e, .close⟩) →
      ∀ size error,
        ((new.run (before ++ ⟨e.peer, .close⟩ :: after)).1.read e size).2 = .error error →
        received e (new.run (before ++ ⟨e.peer, .close⟩ :: after)).2 =
          sent e.peer (new.run before).2 := by
  intro hdrains
  have hread := hdrains .b [⟨.a, .connect⟩, ⟨.b, .connect⟩, ⟨.a, .write [108, 97, 115, 116]⟩]
    [⟨.b, .write [120]⟩] rfl (by decide) 8 .notOpen rfl
  -- nothing was read, and four bytes were written
  exact absurd hread (by decide)

/-- A read without room for a byte may end a pipe that still holds some. -/
example :
    let p := (new.run [⟨.a, .connect⟩, ⟨.b, .connect⟩, ⟨.a, .write [1, 2]⟩, ⟨.b, .read 1⟩,
      ⟨.a, .close⟩]).1
    (p.unread .b, (p.read .b 0).2) = ([2], .error .atEnd) :=
  rfl

end Pipe

end GroundLink
