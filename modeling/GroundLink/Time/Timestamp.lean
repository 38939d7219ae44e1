import GroundLink.Time.Instant
import GroundLink.Numeral
import GroundLink.Text.Blank

/-!
# Timestamps

On board, time is a count of whole seconds from the start of the year 2000 in a 32-bit register. The
count zero is no date: in a command it means "execute at once".
-/

namespace GroundLink

/-- A count of seconds from the start of the year 2000. -/
structure Timestamp where
  seconds : UInt32
deriving DecidableEq, Repr

namespace Timestamp

/-- The marker for execution at once. -/
def immediate : Timestamp := ⟨0⟩

/-- Whether a timestamp is the marker. -/
def isImmediate (t : Timestamp) : Bool :=
  t.seconds = 0

/-- The first second of the year 2000, in seconds from the start of 1970. -/
def epochUnix : Nat := 946684800

/-- The days from the start of the year 0 to the start of the year 2000. -/
def epochDay : Nat := Calendar.daysBeforeYear 2000

/-- The timestamp of a number of seconds after the epoch, if it is a date of the register. -/
def ofOffset? (offset : Int) : Option Timestamp :=
  if 0 < offset ∧ offset < 2 ^ 32 then some ⟨UInt32.ofNat offset.toNat⟩ else none

/-- The timestamp of an instant in seconds from the start of 1970. -/
def ofUnix? (unix : Int) : Option Timestamp :=
  ofOffset? (unix - epochUnix)

/-- The timestamp of a moment, if it is a date of the register. -/
def ofMoment? (moment : Calendar.Moment) : Option Timestamp :=
  ofUnix? moment.unix

/-- The moment of a timestamp; the marker has none. -/
def toMoment? (t : Timestamp) : Option Calendar.Moment :=
  if t.isImmediate then none else Calendar.Moment.ofUnix? (epochUnix + t.seconds.toNat)

/-- The moment of a timestamp in seconds from the start of 1970. -/
def toUnix? (t : Timestamp) : Option Int :=
  t.toMoment?.map Calendar.Moment.unix

/-- The moment in the format of RFC 3339, or the name of the marker. A count of which no date is
kept would be shown as it is. -/
def text (t : Timestamp) : String :=
  match t.toMoment? with
  | some moment => moment.text
  | none => if t.isImmediate then "immediate" else s!"+{t.seconds.toNat}s"

/-- Why a text is not a timestamp. -/
inductive ReadError where
  /-- The text is no instant. -/
  | instant (cause : Calendar.InstantError)
  /-- The instant does not fit the register. -/
  | outside (text : String)
deriving DecidableEq, Repr

/-- The cause in words. -/
def ReadError.message : ReadError → String
  | .instant cause => cause.message
  | .outside text => s!"{text} is outside the OBC time range"

/-- Read a timestamp: a name of the marker in any letter case, a count of seconds, or an
instant. -/
def read (text : String) : Except ReadError Timestamp :=
  let text := Text.trimmed text
  if text.toLower = "now" ∨ text.toLower = "immediate" then .ok immediate
  else
    match Numeral.readUnsigned 10 32 text.toList with
    | .ok n => .ok ⟨UInt32.ofNat n⟩
    | .error _ =>
      match Calendar.readInstant (utf8 text) with
      | .error cause => .error (.instant cause)
      | .ok seconds =>
        match ofOffset? (seconds - epochDay * 86400) with
        | some t => .ok t
        | none => .error (.outside text)

/-- The four bytes of the register. -/
def bytes (t : Timestamp) : Bytes :=
  Bytes.ofUInt32 t.seconds

/-- The timestamp that the first four bytes write. -/
def ofBytes (bytes : Bytes) : Timestamp :=
  ⟨bytes.toUInt32⟩

end Timestamp

end GroundLink
