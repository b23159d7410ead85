import ProxyRouter.Time.Duration
/-!
Instants: nanoseconds since 1970-01-01T00:00:00Z on the proleptic Gregorian calendar, without
bound. The zero instant, midnight of 1 January of year 1, stands for "never". Instants are
written in RFC 3339 form in UTC with the fraction of a second to nine places at most and its
trailing zeros dropped (`1970-01-01T00:00:00.15Z`).
-/
namespace ProxyRouter

/-- Nanoseconds since 1970-01-01T00:00:00Z. -/
structure Instant where
  nanos : Int
deriving DecidableEq, Repr

namespace Instant

instance : LT Instant := ⟨fun a b => a.nanos < b.nanos⟩
instance : LE Instant := ⟨fun a b => a.nanos ≤ b.nanos⟩
instance (a b : Instant) : Decidable (a < b) := inferInstanceAs (Decidable (a.nanos < b.nanos))
instance (a b : Instant) : Decidable (a ≤ b) := inferInstanceAs (Decidable (a.nanos ≤ b.nanos))

def epoch : Instant := ⟨0⟩

def zero : Instant := ⟨-62135596800 * 1000000000⟩

instance : Inhabited Instant := ⟨zero⟩

def isZero (t : Instant) : Bool := t == zero

def ofUnixMillis (ms : Int) : Instant := ⟨ms * 1000000⟩

def unixMillis (t : Instant) : Int := t.nanos / 1000000

/-- The instant a duration later. -/
def add (t : Instant) (d : Duration) : Instant := ⟨t.nanos + d.nanos⟩

/-- The duration from `s` to `t`, the least or the greatest duration when it is out of
range. -/
def since (t s : Instant) : Duration :=
  let d := t.nanos - s.nanos
  if d < Duration.minimum.nanos then Duration.minimum
  else if d > Duration.maximum.nanos then Duration.maximum
  else ⟨d⟩

def civil (days : Int) : Int × Nat × Nat :=
  let z := days + 719468
  let era := z / 146097
  let doe := z - era * 146097
  let yoe := (doe - doe / 1460 + doe / 36524 - doe / 146096) / 365
  let doy := doe - (365 * yoe + yoe / 4 - yoe / 100)
  let mp := (5 * doy + 2) / 153
  let d := doy - (153 * mp + 2) / 5 + 1
  let m := if mp < 10 then mp + 3 else mp - 9
  let y := yoe + era * 400 + (if m ≤ 2 then 1 else 0)
  (y, m.toNat, d.toNat)

def padded (width n : Nat) : String :=
  let ds := Nat.toDigits 10 n
  String.ofList (List.replicate (width - ds.length) '0' ++ ds)

def year (t : Instant) : Int := (civil (t.nanos / 1000000000 / 86400)).1

def rfc3339 (t : Instant) : String :=
  let secs := t.nanos / 1000000000
  let frac := (t.nanos % 1000000000).toNat
  let days := secs / 86400
  let sod := (secs % 86400).toNat
  let (y, m, d) := civil days
  let year := if y < 0 then "-" ++ padded 4 y.natAbs else padded 4 y.toNat
  let fracText :=
    if frac == 0 then ""
    else
      let ds := (padded 9 frac).toList
      "." ++ String.ofList (ds.reverse.dropWhile (· == '0')).reverse
  year ++ "-" ++ padded 2 m ++ "-" ++ padded 2 d ++ "T" ++ padded 2 (sod / 3600) ++ ":" ++
    padded 2 (sod / 60 % 60) ++ ":" ++ padded 2 (sod % 60) ++ fracText ++ "Z"

end Instant
end ProxyRouter
