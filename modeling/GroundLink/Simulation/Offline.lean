import GroundLink.Numeral

/-!
# Hosts without a network

What the operating system says of a host when the machine has no network: a number of a host leads
nowhere, a name is looked up in vain, and anything else is no host at all. Numbers of four bytes are
written in up to four parts, the last of which fills the bytes that are left; numbers of sixteen
bytes are written in groups between colons.
-/

namespace GroundLink.Offline

/-- The number of one part: decimal, octal behind a zero, or hexadecimal behind `0x`. -/
def partValue? (part : String) : Option Nat :=
  let (base, digits) := match part.toList with
    | '0' :: 'x' :: digits => (16, digits)
    | '0' :: 'X' :: digits => (16, digits)
    | '0' :: digit :: digits => (8, digit :: digits)
    | digits => (10, digits)
  if digits.head?.any (· = '+') then none else (Numeral.readUnsigned base 32 digits).toOption

/-- Whether a text is a number of four bytes. -/
def isShortNumber (host : String) : Bool :=
  match (host.splitOn ".").mapM partValue? with
  | some parts =>
    parts.length ≤ 4 && parts.dropLast.all (· < 256) &&
      (parts.getLast?.any (· < 256 ^ (5 - parts.length)))
  | none => false

/-- Whether a text is four decimal bytes between points. -/
def isFourBytes (text : String) : Bool :=
  let parts := text.splitOn "."
  parts.length = 4 && parts.all fun part =>
    part.toList.all Char.isDigit && (part.length = 1 || part.toList.head? != some '0') &&
      (Numeral.readUnsigned 10 8 part.toList).toOption.isSome

/-- Whether a text is a group of a long number. -/
def isGroup (text : String) : Bool :=
  text != "" && text.length ≤ 4 && text.toList.all fun c => (Numeral.digitValue? 16 c).isSome

/-- The number of groups that a part of a long number stands for, if it is one. The last part of the
whole number may be four decimal bytes. -/
def groupCount? (last : Bool) (text : String) : Option Nat :=
  if text = "" then some 0
  else
    let groups := text.splitOn ":"
    let tail := groups.getLast?.getD ""
    if groups.all isGroup then some groups.length
    else if last && groups.dropLast.all isGroup && isFourBytes tail then some (groups.length + 1)
    else none

/-- Whether a text is a number of sixteen bytes. Two colons may stand for groups of zeros, once. -/
def isLongNumber (host : String) : Bool :=
  match host.splitOn "::" with
  | [whole] => groupCount? true whole = some 8
  | [front, back] =>
    match groupCount? false front, groupCount? true back with
    | some m, some n => m + n < 8
    | _, _ => false
  | _ => false

/-- Whether a text has the form of a host name: words of letters, digits, hyphens and underscores
between points, of which the last may stand at the end. -/
def isHostName (host : String) : Bool :=
  let words := host.splitOn "."
  let words := if 1 < words.length && words.getLast? = some "" then words.dropLast else words
  let isWord (word : String) : Bool :=
    word != "" && word.length ≤ 63 && word.toList.all fun c => c.isAlphanum || c = '-' || c = '_'
  host = "." || (words.all isWord && host.toList.head? != some '-' && host.length ≤ 254)

/-- A host without the brackets around a long number. -/
def unbracketed (host : String) : String :=
  match host.toList, host.toList.getLast? with
  | '[' :: rest, some ']' => String.ofList rest.dropLast
  | _, _ => host

/-- Why a host is not reached. -/
def reason (host : String) : String :=
  if host.toList.contains '\x00' then "file name contained an unexpected NUL byte"
  else if isShortNumber host || host.toLower = "localhost" then
    "Network is unreachable (os error 101)"
  else if isLongNumber (unbracketed host) then "Cannot assign requested address (os error 99)"
  else if isHostName host then
    "failed to lookup address information: Temporary failure in name resolution"
  else "failed to lookup address information: Name or service not known"

end GroundLink.Offline
