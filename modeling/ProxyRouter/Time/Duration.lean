/-!
Durations: signed counts of nanoseconds in 64 bits. A duration made from a count of larger
units wraps around when the count is too large, as the product of two 64-bit numbers does. A
duration is written with the largest units first
(`1h2m3.5s`), with milli-, micro- or nanoseconds below one second (`1.5ms`, `7ns`), with
trailing zeros of fractions dropped, and `0s` for zero.
-/
namespace ProxyRouter

/-- A signed number of nanoseconds. -/
structure Duration where
  nanos : Int
deriving DecidableEq, Repr, Inhabited

namespace Duration

instance : LT Duration := ⟨fun a b => a.nanos < b.nanos⟩
instance : LE Duration := ⟨fun a b => a.nanos ≤ b.nanos⟩
instance (a b : Duration) : Decidable (a < b) := inferInstanceAs (Decidable (a.nanos < b.nanos))
instance (a b : Duration) : Decidable (a ≤ b) := inferInstanceAs (Decidable (a.nanos ≤ b.nanos))

def millisecond : Duration := ⟨1000000⟩
def second : Duration := ⟨1000000000⟩

def span : Int := 18446744073709551616

/-- A count of nanoseconds brought into range by wrapping around, as a product that overflows
the range of a duration does. -/
def wrap (n : Int) : Duration :=
  let m := n % span
  ⟨if m ≥ span / 2 then m - span else m⟩

def minimum : Duration := ⟨-(span / 2)⟩
def maximum : Duration := ⟨span / 2 - 1⟩

def ofMillis (n : Int) : Duration := wrap (n * 1000000)
def ofSeconds (n : Int) : Duration := wrap (n * 1000000000)

def toMillis (d : Duration) : Int := d.nanos.tdiv 1000000

/-- The fraction `v / 10^prec` as `.ddd` without trailing zeros (nothing when it is zero),
and the integer part. -/
def fraction (v prec : Nat) : String × Nat :=
  let frac := v % Nat.pow 10 prec
  let digits := (List.range prec).reverse.map fun i => Nat.digitChar (frac / Nat.pow 10 i % 10)
  let trimmed := (digits.reverse.dropWhile (· == '0')).reverse
  (if trimmed.isEmpty then "" else "." ++ String.ofList trimmed, v / Nat.pow 10 prec)

def magnitudeText (u : Nat) : String :=
  if u == 0 then "0s"
  else if u < 1000000000 then
    let (prec, unit) :=
      if u < 1000 then (0, "ns") else if u < 1000000 then (3, "µs") else (6, "ms")
    let (frac, whole) := fraction u prec
    toString whole ++ frac ++ unit
  else
    let (frac, secs) := fraction u 9
    let s := toString (secs % 60) ++ frac ++ "s"
    let mins := secs / 60
    if mins == 0 then s
    else
      let m := toString (mins % 60) ++ "m" ++ s
      let hours := mins / 60
      if hours == 0 then m else toString hours ++ "h" ++ m

def text (d : Duration) : String :=
  if d.nanos < 0 then "-" ++ magnitudeText d.nanos.natAbs else magnitudeText d.nanos.natAbs

end Duration
end ProxyRouter
