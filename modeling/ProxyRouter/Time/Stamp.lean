import ProxyRouter.Time.Instant
/-!
Timestamps as YAML documents write them, and the three ways a decoded timestamp is shown.
-/
namespace ProxyRouter.Time

/-- The zone a timestamp was read in. -/
inductive Zone where
  | utc
  /-- the local zone of the system, which is UTC -/
  | system
  /-- an unnamed zone this many seconds east of UTC, never zero -/
  | fixed (offset : Int)
deriving DecidableEq, Repr

def Zone.offset : Zone → Int
  | .fixed o => o
  | _ => 0

/-- A decoded timestamp: the instant and the zone it was read in. -/
structure Stamp where
  instant : Instant
  zone : Zone
deriving DecidableEq, Repr

def daysFromCivil (y : Int) (m d : Nat) : Int :=
  let y := if m ≤ 2 then y - 1 else y
  let era := y / 400
  let yoe := y - era * 400
  let mp : Int := if m > 2 then (m : Int) - 3 else (m : Int) + 9
  let doy := (153 * mp + 2) / 5 + (d : Int) - 1
  let doe := yoe * 365 + yoe / 4 - yoe / 100 + doy
  era * 146097 + doe - 719468

def isLeapYear (y : Nat) : Bool := y % 4 == 0 && (y % 100 != 0 || y % 400 == 0)

def daysInMonth (month year : Nat) : Nat :=
  if month == 2 then (if isLeapYear year then 29 else 28)
  else if month == 4 || month == 6 || month == 9 || month == 11 then 30
  else 31

/-- The fields a layout reads. -/
structure Fields where
  year : Nat := 0
  month : Nat := 1
  day : Nat := 1
  hour : Nat := 0
  minute : Nat := 0
  second : Nat := 0
  nanos : Nat := 0
  /-- `none` without zone, `some none` for `Z`, `some (some s)` for an offset of `s` seconds -/
  zone : Option (Option Int) := none
deriving Repr

def digitOf (c : Char) : Nat := c.toNat - '0'.toNat

def oneOrTwo : List Char → Option (Nat × List Char)
  | c :: d :: rest =>
    if !c.isDigit then none
    else if d.isDigit then some (digitOf c * 10 + digitOf d, rest)
    else some (digitOf c, d :: rest)
  | [c] => if c.isDigit then some (digitOf c, []) else none
  | [] => none

def expect (c : Char) : List Char → Option (List Char)
  | d :: rest => if c == d then some rest else none
  | [] => none

def readDate (cs : List Char) : Option (Fields × List Char) := do
  let (year, rest) ← match cs with
    | a :: b :: c :: d :: rest =>
      if a.isDigit && b.isDigit && c.isDigit && d.isDigit then
        some (((digitOf a * 10 + digitOf b) * 10 + digitOf c) * 10 + digitOf d, rest)
      else none
    | _ => none
  let rest ← expect '-' rest
  let (month, rest) ← oneOrTwo rest
  if month == 0 || month > 12 then none
  let rest ← expect '-' rest
  let (day, rest) ← oneOrTwo rest
  return ({ year := year, month := month, day := day }, rest)

/-- The fraction of a second after `.` or `,` and its digits, in nanoseconds (nine digits at
most count), and the rest; nothing read when no digit follows. -/
def readFraction (cs : List Char) : Nat × List Char :=
  match cs with
  | p :: d :: _ =>
    if (p == '.' || p == ',') && d.isDigit then
      let digits := (cs.drop 1).takeWhile Char.isDigit
      let kept := digits.take 9
      let value := kept.foldl (fun acc c => acc * 10 + digitOf c) 0
      (value * Nat.pow 10 (9 - kept.length), (cs.drop 1).dropWhile Char.isDigit)
    else (0, cs)
  | _ => (0, cs)

def readClock (f : Fields) (cs : List Char) : Option (Fields × List Char) := do
  let (hour, rest) ← oneOrTwo cs
  if hour ≥ 24 then none
  let rest ← expect ':' rest
  let (minute, rest) ← oneOrTwo rest
  if minute ≥ 60 then none
  let rest ← expect ':' rest
  let (second, rest) ← oneOrTwo rest
  if second ≥ 60 then none
  let (nanos, rest) := readFraction rest
  return ({ f with hour := hour, minute := minute, second := second, nanos := nanos }, rest)

def twoDigits : List Char → Option Nat
  | [c, d] => if c.isDigit && d.isDigit then some (digitOf c * 10 + digitOf d) else none
  | _ => none

def readZone (cs : List Char) : Option (Option Int × List Char) :=
  match cs with
  | 'Z' :: rest => some (none, rest)
  | sign :: h1 :: h2 :: ':' :: m1 :: m2 :: rest => do
    let h ← twoDigits [h1, h2]
    let m ← twoDigits [m1, m2]
    if h > 24 || m > 60 then none
    let seconds : Int := ((h * 60 + m) * 60 : Nat)
    if sign == '+' then some (some seconds, rest)
    else if sign == '-' then some (some (-seconds), rest)
    else none
  | _ => none

def readFields (cs : List Char) : Option Fields :=
  let withZone (sep : Char) : Option Fields := do
    let (f, rest) ← readDate cs
    let rest ← expect sep rest
    let (f, rest) ← readClock f rest
    let (z, rest) ← readZone rest
    if rest.isEmpty then some { f with zone := some z } else none
  let spaced : Option Fields := do
    let (f, rest) ← readDate cs
    match rest with
    | ' ' :: _ =>
      let (f, rest) ← readClock f (rest.dropWhile (· == ' '))
      if rest.isEmpty then some f else none
    | _ => none
  let dateOnly : Option Fields := do
    let (f, rest) ← readDate cs
    if rest.isEmpty then some f else none
  let valid (f : Fields) : Option Fields :=
    if f.day == 0 || f.day > daysInMonth f.month f.year then none else some f
  match withZone 'T' with
  | some f => valid f
  | none =>
    match withZone 't' with
    | some f => valid f
    | none =>
      match spaced with
      | some f => valid f
      | none => dateOnly.bind valid

def Stamp.ofWall (f : Fields) (zone : Option Int) : Stamp :=
  let days := daysFromCivil f.year f.month f.day
  let wall : Int := days * 86400 + f.hour * 3600 + f.minute * 60 + f.second
  let (offset, z) : Int × Zone := match zone with
    | some 0 => (0, .system)
    | some o => (o, .fixed o)
    | none => (0, .utc)
  ⟨⟨(wall - offset) * 1000000000 + f.nanos⟩, z⟩

/-- Read a timestamp. A text that does not start with four digits and `-`, or fits no layout,
is not one. -/
def Stamp.read (s : String) : Option Stamp := do
  let f ← readFields s.toList
  return Stamp.ofWall f f.zone.join

def twoAtStart : List Char → Option (Nat × List Char)
  | c :: d :: rest => (twoDigits [c, d]).map fun n => (n, rest)
  | _ => none

/-- Read a timestamp in the layout of RFC 3339, `2006-01-02T15:04:05Z07:00`, as the general
layout reader takes it: a four-digit year, two-digit month, day, minute and second, an hour of
one or two digits, a fraction of a second after `.` or `,`, and a zone `Z` or `±hh:mm` whose
offset may reach 24 hours and 60 minutes. Every field must be in range and nothing may follow. -/
def Stamp.readRfc3339 (s : String) : Option Stamp := do
  let (year, rest) ← match s.toList with
    | a :: b :: c :: d :: rest =>
      if a.isDigit && b.isDigit && c.isDigit && d.isDigit then
        some (((digitOf a * 10 + digitOf b) * 10 + digitOf c) * 10 + digitOf d, rest)
      else none
    | _ => none
  let rest ← expect '-' rest
  let (month, rest) ← twoAtStart rest
  if month == 0 || month > 12 then none
  let rest ← expect '-' rest
  let (day, rest) ← twoAtStart rest
  let rest ← expect 'T' rest
  let (hour, rest) ← oneOrTwo rest
  if hour ≥ 24 then none
  let rest ← expect ':' rest
  let (minute, rest) ← twoAtStart rest
  if minute ≥ 60 then none
  let rest ← expect ':' rest
  let (second, rest) ← twoAtStart rest
  if second ≥ 60 then none
  let (nanos, rest) := readFraction rest
  let (zone, rest) ← readZone rest
  if !rest.isEmpty || day == 0 || day > daysInMonth month year then none
  return Stamp.ofWall
    { year := year, month := month, day := day, hour := hour, minute := minute, second := second,
      nanos := nanos } zone

/-- Seconds of the wall clock in the timestamp's zone since 1970-01-01, and the nanoseconds
within the second. -/
def Stamp.wall (t : Stamp) : Int × Nat :=
  let n := t.instant.nanos + t.zone.offset * 1000000000
  (n / 1000000000, (n % 1000000000).toNat)

def signedPadded (width : Nat) (n : Int) : String :=
  if n < 0 then "-" ++ Instant.padded width n.natAbs else Instant.padded width n.toNat

def offsetText (offset : Int) : String :=
  let minutes := offset.tdiv 60
  let m := minutes.natAbs
  (if minutes < 0 then "-" else "+") ++ Instant.padded 2 (m / 60) ++ Instant.padded 2 (m % 60)

/-- The general-purpose text of a timestamp, in its zone:
`2001-12-14 21:59:43.1 +0000 UTC`, the fraction without trailing zeros and left out when zero,
and an unnamed zone named by its offset. -/
def Stamp.text (t : Stamp) : String :=
  let (secs, nanos) := t.wall
  let (y, m, d) := Instant.civil (secs / 86400)
  let sod := (secs % 86400).toNat
  let frac :=
    if nanos == 0 then ""
    else "." ++ String.ofList ((Instant.padded 9 nanos).toList.reverse.dropWhile (· == '0')).reverse
  let name := match t.zone with
    | .fixed o => offsetText o
    | _ => "UTC"
  signedPadded 4 y ++ "-" ++ Instant.padded 2 m ++ "-" ++ Instant.padded 2 d ++ " " ++
    Instant.padded 2 (sod / 3600) ++ ":" ++ Instant.padded 2 (sod / 60 % 60) ++ ":" ++
    Instant.padded 2 (sod % 60) ++ frac ++ " " ++ offsetText t.zone.offset ++ " " ++ name

def monthNames : List String :=
  ["January", "February", "March", "April", "May", "June", "July", "August", "September",
    "October", "November", "December"]

/-- The timestamp as a call that builds it:
`time.Date(2001, time.December, 14, 0, 0, 0, 0, time.UTC)`. -/
def Stamp.literal (t : Stamp) : String :=
  let (secs, nanos) := t.wall
  let (y, m, d) := Instant.civil (secs / 86400)
  let sod := (secs % 86400).toNat
  let zone := match t.zone with
    | .utc => "time.UTC"
    | .system => "time.Local"
    | .fixed _ => "time.Location(\"\")"
  "time.Date(" ++ toString y ++ ", time." ++ monthNames.getD (m - 1) "" ++ ", " ++ toString d ++
    ", " ++ toString (sod / 3600) ++ ", " ++ toString (sod / 60 % 60) ++ ", " ++
    toString (sod % 60) ++ ", " ++ toString nanos ++ ", " ++ zone ++ ")"

def Stamp.rfc3339 (t : Stamp) : String := t.instant.rfc3339

/-- The unnamed zone of an offset is shared by every timestamp read with that offset: only
whole hours from 12 hours west to 14 hours east are. -/
def Zone.shared : Zone → Bool
  | .fixed o => o % 3600 == 0 && -12 * 3600 ≤ o && o ≤ 14 * 3600
  | _ => true

/-- Two timestamps are the same key: the same instant read in the same zone, where the zone is
UTC, the local zone or a shared unnamed zone. -/
def Stamp.sameKey (a b : Stamp) : Bool :=
  a.instant == b.instant && a.zone == b.zone && a.zone.shared

/-- The order in which timestamps are printed as keys: by the nanoseconds within their second,
then by the instant. -/
def Stamp.before (a b : Stamp) : Bool :=
  let na := (a.instant.nanos % 1000000000).toNat
  let nb := (b.instant.nanos % 1000000000).toNat
  na < nb || (na == nb && a.instant.nanos < b.instant.nanos)

end ProxyRouter.Time
