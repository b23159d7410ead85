/-!
Conversion of binary64 values to signed 64-bit counts as the processor's truncating conversion
does it: the fraction is dropped toward zero, and a value that is not a number or whose whole
part lies outside the range of the count becomes the least count, `-2^63`.
-/
namespace ProxyRouter.Decimal

def int64Min : Int := -9223372036854775808

def truncateToInt64 (x : Float) : Int :=
  if x.abs < 9223372036854775808.0 then
    let whole : Int := (x.abs.toUInt64.toNat : Int)
    if x < 0 then -whole else whole
  else int64Min

end ProxyRouter.Decimal
