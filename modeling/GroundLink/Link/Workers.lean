import GroundLink.Link.Error
import GroundLink.Link.Pipe
import GroundLink.Link.Queue

/-!
# Workers of a device

Two workers serve an open device: one puts what it reads into a queue, the other writes what it
takes out of a queue. A worker ends when its queue is closed or the device is; `stop` ends both.

The device is end `a` of a pipe. A pass is one turn of a worker.
-/

namespace GroundLink

/-- The workers of end `a` of a pipe. -/
structure Workers where
  pipe : Pipe
  /-- The most bytes of one read. -/
  readBuffer : Nat
  /-- What was received. -/
  rx : Queue Bytes
  /-- What is to be sent. -/
  tx : Queue Bytes
  /-- Whether the receiving worker runs. -/
  receives : Bool
  /-- Whether the sending worker runs. -/
  sends : Bool
  /-- What the receiving worker holds while its queue is full. -/
  held : Option Bytes
deriving Repr

namespace Workers

/-- Open the device and start its workers. -/
def start (pipe : Pipe) (readBuffer : Nat) (rx tx : Queue Bytes) : Except LinkError Workers :=
  if pipe.a.isOpen then .error (.alreadyConnected PipeEnd.a.name)
  else
    match pipe.connect .a with
    | (_, .error e) => .error (.connect PipeEnd.a.name e.message)
    | (pipe, .ok ()) => .ok ⟨pipe, max 1 readBuffer, rx, tx, true, true, none⟩

/-- Whether both workers run. -/
def isRunning (w : Workers) : Bool :=
  w.receives && w.sends

/-- Hand a piece to the queue of what was received. -/
def handOver (w : Workers) (data : Bytes) : Workers :=
  match w.rx.write data with
  | (_, .waits) => { w with held := some data }
  | (_, .refused) => { w with held := none, receives := false }
  | (rx, _) => { w with held := none, rx }

/-- One turn of the receiving worker. -/
def receive (w : Workers) : Workers :=
  if !w.receives then w
  else
    match w.held with
    | some data => w.handOver data
    | none =>
      match w.pipe.read .a w.readBuffer with
      | (pipe, .ok []) => { w with pipe }
      | (pipe, .ok data) => { w with pipe }.handOver data
      | (pipe, .error _) => { w with pipe, receives := pipe.a.isOpen }

/-- Write pieces to the device until it is closed, and say whether it still is open. -/
def writeAll (pipe : Pipe) : List Bytes → Pipe × Bool
  | [] => (pipe, true)
  | data :: rest =>
    match pipe.write .a data with
    | (pipe, .error _) => if pipe.a.isOpen then writeAll pipe rest else (pipe, false)
    | (pipe, .ok ()) => writeAll pipe rest

/-- One turn of the sending worker. -/
def send (w : Workers) : Workers :=
  if !w.sends then w
  else
    let (tx, pieces) := w.tx.read
    let (pipe, isOpen) := writeAll w.pipe pieces
    { w with pipe, tx, sends := isOpen && !tx.ended }

/-- Both workers, turn by turn. -/
def turns (w : Workers) : Nat → Workers
  | 0 => w
  | n + 1 => w.send.receive.turns n

/-- Turns enough to move everything that is there: each moves a byte, a piece or an element. -/
def work (w : Workers) : Nat :=
  let arriving := w.pipe.a.inbox.foldl (fun total piece => total + piece.length + 1) 0
  arriving + w.pipe.a.pending.length + w.tx.size + 2

/-- Let the workers run until nothing is left to do. -/
def settle (w : Workers) : Workers :=
  w.turns w.work

/-- End both workers, and say whether both came to an end. A worker that waits for room does not;
the device is then closed. -/
def stop (w : Workers) : Workers × Bool :=
  let stuck := w.receives && w.held.isSome
  let pipe := if stuck then w.pipe.close .a else w.pipe
  ({ w with pipe, receives := false, sends := false, held := none }, !stuck)

end Workers

end GroundLink
