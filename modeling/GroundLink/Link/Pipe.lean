import GroundLink.Bytes

/-!
# A pipe in memory

A pipe has two ends; bytes written to one are read from the other. Closing an end makes writes of
the other fail at once, and its reads fail when it has read everything. A failing write or read
closes the end for good.
-/

namespace GroundLink

/-- An end of a pipe. -/
inductive PipeEnd where
  | a
  | b
deriving DecidableEq, Repr

/-- The other end. -/
def PipeEnd.peer : PipeEnd → PipeEnd
  | a => b
  | b => a

/-- The name of an end. -/
def PipeEnd.name : PipeEnd → String
  | a => "memory:a"
  | b => "memory:b"

/-- Why a pipe refuses. -/
inductive PipeError where
  | notOpen
  /-- The end was closed and cannot be opened again. -/
  | spent
  /-- Everything was read and no more can come. -/
  | atEnd
  /-- A write after one of the ends was closed. -/
  | broken
deriving DecidableEq, Repr

/-- The cause in words. -/
def PipeError.message : PipeError → String
  | notOpen => "device is not open"
  | spent => "memory device was closed"
  | atEnd | broken => "peer closed the pipe"

/-- The state of one end. -/
structure PipeSide where
  isOpen : Bool
  /-- Whether the end was never closed. -/
  intact : Bool
  /-- What the other end wrote, write by write. -/
  inbox : List Bytes
  /-- What is left of a write that was read in part. -/
  pending : Bytes
deriving DecidableEq, Repr

/-- Two ends. -/
structure Pipe where
  a : PipeSide
  b : PipeSide
  /-- Whether an end was ever closed. -/
  broken : Bool
deriving DecidableEq, Repr

namespace Pipe

/-- A pipe that is open at neither end. -/
def new : Pipe :=
  ⟨⟨false, true, [], []⟩, ⟨false, true, [], []⟩, false⟩

/-- The state of an end. -/
def side (p : Pipe) : PipeEnd → PipeSide
  | .a => p.a
  | .b => p.b

/-- Change the state of an end. -/
def withSide (p : Pipe) (e : PipeEnd) (side : PipeSide) : Pipe :=
  match e with
  | .a => { p with a := side }
  | .b => { p with b := side }

/-- Open an end. -/
def connect (p : Pipe) (e : PipeEnd) : Pipe × Except PipeError Unit :=
  if (p.side e).intact then (p.withSide e { p.side e with isOpen := true }, .ok ())
  else (p, .error .spent)

/-- Close an end. -/
def close (p : Pipe) (e : PipeEnd) : Pipe :=
  { p.withSide e { p.side e with isOpen := false, intact := false } with broken := true }

/-- Write at an end. -/
def write (p : Pipe) (e : PipeEnd) (data : Bytes) : Pipe × Except PipeError Unit :=
  if !(p.side e).isOpen then (p, .error .notOpen)
  else if (p.side e).intact && !p.broken then
    let other := p.side e.peer
    (p.withSide e.peer { other with inbox := other.inbox ++ [data] }, .ok ())
  else (p.close e, .error .broken)

/-- Read at most `size` bytes at an end, from one write at a time. Without anything to read the
result is empty, or an error if no more can come. -/
def read (p : Pipe) (e : PipeEnd) (size : Nat) : Pipe × Except PipeError Bytes :=
  let side := p.side e
  let give (rest : List Bytes) (data : Bytes) : Pipe × Except PipeError Bytes :=
    (p.withSide e { side with inbox := rest, pending := data.drop size }, .ok (data.take size))
  if !side.isOpen then (p, .error .notOpen)
  else if size ≠ 0 ∧ side.pending ≠ [] then give side.inbox side.pending
  else
    match side.inbox with
    | data :: rest => give rest (side.pending ++ data)
    | [] => if (p.side e.peer).intact then (p, .ok []) else (p.close e, .error .atEnd)

end Pipe

end GroundLink
