/-!
Shortest decimal digits of a binary64 value. A finite value stands for the interval of reals that
round to it; the digits chosen are the fewest that land in that interval, and of two candidates
of that length the nearer one (an exact tie goes to the even candidate). All arithmetic is exact,
on natural numbers.
-/
namespace ProxyRouter.Decimal

/-- A finite non-negative binary64 magnitude `m * 2^q`. -/
structure Binary where
  m : Nat
  q : Int
  /-- the gap to the value below is half the gap to the value above -/
  narrowBelow : Bool

def Binary.ofBits (b : UInt64) : Binary :=
  let e := ((b >>> 52) &&& 0x7FF).toNat
  let f := (b &&& 0xFFFFFFFFFFFFF).toNat
  if e == 0 then ⟨f, -1074, false⟩ else ⟨Nat.pow 2 52 + f, (e : Int) - 1075, f == 0 && e > 1⟩

/-- `digits * 10^exp`. -/
structure Dec where
  digits : Nat
  exp : Int
deriving Repr, DecidableEq

def cmpScaled (a : Nat) (i : Int) (n : Nat) (j : Int) : Ordering :=
  compare (a * Nat.pow 10 i.toNat * Nat.pow 2 (-j).toNat) (n * Nat.pow 2 j.toNat * Nat.pow 10 (-i).toNat)

def Binary.readsBack (x : Binary) (d : Dec) : Bool :=
  let lo := if x.narrowBelow then 4 * x.m - 1 else 4 * x.m - 2
  let hi := 4 * x.m + 2
  let incl := x.m % 2 == 0
  let cl := cmpScaled d.digits d.exp lo (x.q - 2)
  let ch := cmpScaled d.digits d.exp hi (x.q - 2)
  (cl == .gt || (incl && cl == .eq)) && (ch == .lt || (incl && ch == .eq))

def Binary.below (x : Binary) (k : Int) : Bool :=
  cmpScaled 1 k x.m x.q == .gt

def Binary.fixScale (x : Binary) : Nat → Int → Int
  | 0, k => k
  | fuel + 1, k =>
    if !x.below k then x.fixScale fuel (k + 1)
    else if x.below (k - 1) then x.fixScale fuel (k - 1)
    else k

def Binary.scale (x : Binary) : Int :=
  let log2 : Int := (Nat.log2 x.m : Int) + x.q
  x.fixScale 8 ((log2 * 30103) / 100000 + 1)

def Binary.floorOnGrid (x : Binary) (g : Int) : Nat :=
  (x.m * Nat.pow 2 x.q.toNat * Nat.pow 10 (-g).toNat) / (Nat.pow 2 (-x.q).toNat * Nat.pow 10 g.toNat)

def Dec.normalize (d : Dec) : Nat → Dec
  | 0 => d
  | fuel + 1 =>
    if d.digits != 0 && d.digits % 10 == 0 then Dec.normalize ⟨d.digits / 10, d.exp + 1⟩ fuel
    else d

def Binary.onGrid? (x : Binary) (g : Int) : Option Dec :=
  let d0 := x.floorOnGrid g
  let lo : Dec := ⟨d0, g⟩
  let hi : Dec := ⟨d0 + 1, g⟩
  match x.readsBack lo, x.readsBack hi with
  | true, true =>
    match cmpScaled (2 * d0 + 1) g (2 * x.m) x.q with
    | .gt => some lo
    | .lt => some hi
    | .eq => some (if d0 % 2 == 0 then lo else hi)
  | true, false => some lo
  | false, true => some hi
  | false, false => none

def Binary.exact (x : Binary) : Dec :=
  if x.q ≥ 0 then ⟨x.m * Nat.pow 2 x.q.toNat, 0⟩
  else ⟨x.m * Nat.pow 5 (-x.q).toNat, x.q⟩

def Binary.shortest (x : Binary) : Dec :=
  if x.m == 0 then ⟨0, 0⟩
  else
    let k := x.scale
    let found := (List.range 17).findSome? fun n => x.onGrid? (k - (n + 1 : Nat))
    (found.getD x.exact).normalize 400

end ProxyRouter.Decimal
