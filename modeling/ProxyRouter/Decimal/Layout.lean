import ProxyRouter.Decimal.Shortest
/-!
Layouts of a binary64 value as text. The digits are always the shortest ones that read back;
a layout decides only where the point goes: positional (`0.001`, `120`), scientific
(`1.5e+06`, `1e-07`), or one of the two by the size of the value. The three layouts used by
this library are the positional one of snapshot files, the general one of messages and metric
values (scientific below `1e-4` and from `1e+06`), and the one of JSON documents (scientific
below `1e-6` and from `1e+21`, with a short negative exponent).
-/
namespace ProxyRouter.Decimal

def digitsOf (n : Nat) : List Char := (Nat.toDigits 10 n)

def zeros (n : Nat) : List Char := List.replicate n '0'

def positional (ds : List Char) (dp : Int) : List Char :=
  if dp ≤ 0 then '0' :: '.' :: (zeros (-dp).toNat ++ ds)
  else if dp.toNat ≥ ds.length then ds ++ zeros (dp.toNat - ds.length)
  else ds.take dp.toNat ++ '.' :: ds.drop dp.toNat

/-- Digits `ds` with a point after the first, then `e`, the sign and at least `width` digits of
the exponent `x`. -/
def scientific (ds : List Char) (x : Int) (width : Nat) : List Char :=
  let mant := match ds with
    | [] => ['0']
    | [d] => [d]
    | d :: rest => d :: '.' :: rest
  let ed := digitsOf x.natAbs
  mant ++ 'e' :: (if x < 0 then '-' else '+') :: (zeros (width - ed.length) ++ ed)

/-- How a finite magnitude is written. -/
inductive Style where
  /-- always positional -/
  | fixed
  /-- scientific when the leading digit's exponent is below `-4` or at least `6` -/
  | general
  /-- scientific for magnitudes below `1e-6` or from `1e21`; negative exponents unpadded -/
  | document

def Binary.render (x : Binary) (bits : UInt64) (style : Style) : List Char :=
  let d := x.shortest
  let ds := digitsOf d.digits
  let dp : Int := ds.length + d.exp
  let lead := dp - 1
  match style with
  | .fixed => positional ds dp
  | .general => if lead < -4 || lead ≥ 6 then scientific ds lead 2 else positional ds dp
  | .document =>
    let mag := bits &&& 0x7FFFFFFFFFFFFFFF
    if d.digits != 0 && (mag < 0x3EB0C6F7A0B5ED8D || mag ≥ 0x444B1AE4D6E2EF50) then
      scientific ds lead (if lead < 0 then 1 else 2)
    else positional ds dp

/-- The text of a value: the sign of a negative value or of negative zero, then the magnitude;
`NaN`, `+Inf` and `-Inf` for the values that are not finite. -/
def formatFloat (style : Style) (v : Float) : String :=
  let bits := v.toBits
  let neg := bits >>> 63 == 1
  let expField := (bits >>> 52) &&& 0x7FF
  if expField == 0x7FF then
    if bits &&& 0xFFFFFFFFFFFFF != 0 then "NaN" else if neg then "-Inf" else "+Inf"
  else
    let body := (Binary.ofBits bits).render bits style
    String.ofList (if neg then '-' :: body else body)

end ProxyRouter.Decimal
