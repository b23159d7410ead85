/-!
Reading numbers from text. A decimal or hexadecimal literal is read to the nearest binary64
value (ties to even), as exactly as its text allows; a literal may separate digits with single
underscores, a hexadecimal literal needs a binary exponent (`0x1p-3`), and `inf`, `infinity`
and `nan` are read in any case. Integers are read in base ten or, with a base prefix, in base
two, eight or sixteen, and must fit in 64 bits.
-/
namespace ProxyRouter.Decimal

/-- Why a text is not a number. -/
inductive ReadError where
  /-- the text is not a literal of the expected shape -/
  | malformed
  /-- the literal's value is outside the range of the type -/
  | outOfRange
deriving Repr, DecidableEq

def digitValue (c : Char) : Option Nat :=
  if '0' ≤ c && c ≤ '9' then some (c.toNat - '0'.toNat)
  else if 'a' ≤ c && c ≤ 'f' then some (c.toNat - 'a'.toNat + 10)
  else if 'A' ≤ c && c ≤ 'F' then some (c.toNat - 'A'.toNat + 10)
  else none

def asciiLower (c : Char) : Char := c.toLower

/-- What the underscore check has last seen: the start, a digit or prefix, an underscore, or
something else. -/
inductive Seen where
  | start
  | digit
  | underscore
  | other
deriving DecidableEq

def underscoresOkFrom (hex : Bool) : Seen → List Char → Bool
  | seen, [] => seen != .underscore
  | seen, c :: rest =>
    if ('0' ≤ c && c ≤ '9') || (hex && 'a' ≤ asciiLower c && asciiLower c ≤ 'f') then
      underscoresOkFrom hex .digit rest
    else if c == '_' then
      if seen != .digit then false else underscoresOkFrom hex .underscore rest
    else if seen == .underscore then false
    else underscoresOkFrom hex .other rest

def underscoresOk (cs : List Char) : Bool :=
  let body := match cs with
    | '+' :: r => r
    | '-' :: r => r
    | r => r
  match body with
  | '0' :: b :: rest =>
    let lb := asciiLower b
    if lb == 'b' || lb == 'o' || lb == 'x' then underscoresOkFrom (lb == 'x') .digit rest
    else underscoresOkFrom false .start body
  | _ => underscoresOkFrom false .start body

def roundHalfEven (n d : Nat) : Nat :=
  let q := n / d
  let r := n % d
  if 2 * r > d || (2 * r == d && q % 2 == 1) then q + 1 else q

/-- The bits of the non-negative value `m * 2^e`, for a mantissa of at most 53 bits; a mantissa
of `2^53` carries into the exponent. `none` when it overflows. -/
def encodeBinary (m : Nat) (e : Int) : Option UInt64 :=
  let (m, e) := if m == Nat.pow 2 53 then (Nat.pow 2 52, e + 1) else (m, e)
  if m < Nat.pow 2 52 then
    -- subnormal (or zero): the exponent is the least one
    some m.toUInt64
  else if e + 1075 ≥ 2047 then none
  else some (((e + 1075).toNat.toUInt64 <<< 52) ||| (m - Nat.pow 2 52).toUInt64)

/-- The binary64 bits of the real `num / den * 2^shift` rounded to nearest, ties to even;
`none` when it overflows. `num` and `den` are positive. -/
def roundToBinary (num den : Nat) (shift : Int) : Option UInt64 :=
  -- scale `num / den` into `[2^52, 2^53)` by a power of two `2^e2`
  let lg : Int := (Nat.log2 num : Int) - (Nat.log2 den : Int) + shift
  -- `lg` is ⌊log2⌋ or one more; the quotient below absorbs the difference
  let e2 : Int := max (lg - 53) (-1074)
  let sh := shift - e2
  let n := num * Nat.pow 2 sh.toNat
  let d := den * Nat.pow 2 (-sh).toNat
  let q := n / d
  -- keep 53 significant bits at most, folding extra low bits into the rounding
  let extra : Nat := if q ≥ Nat.pow 2 53 && e2 ≥ -1074 then (if q ≥ Nat.pow 2 54 then 2 else 1) else 0
  encodeBinary (roundHalfEven n (d * Nat.pow 2 extra)) (e2 + extra)

def valueOf (neg : Bool) (mant : Nat) (decimal : Bool) (exp : Int) : Option Float :=
  let signBit : UInt64 := if neg then 0x8000000000000000 else 0
  if mant == 0 then some (Float.ofBits signBit)
  else
    let digitsLen : Int := (Nat.toDigits 10 mant).length
    let bits :=
      if decimal then
        if exp + digitsLen > 311 then none
        else if exp + digitsLen < -345 then some 0
        else if exp ≥ 0 then roundToBinary (mant * Nat.pow 10 exp.toNat) 1 0
        else roundToBinary mant (Nat.pow 10 (-exp).toNat) 0
      else
        if exp + (Nat.log2 mant : Int) > 1100 then none
        else if exp + (Nat.log2 mant : Int) < -1200 then some 0
        else roundToBinary mant 1 exp
    bits.map fun b => Float.ofBits (b ||| signBit)

def commonPrefixIgnoringCase : List Char → List Char → Nat
  | c :: cs, w :: ws => if asciiLower c == w then commonPrefixIgnoringCase cs ws + 1 else 0
  | _, _ => 0

def infinityBits : UInt64 := 0x7FF0000000000000

def nanBits : UInt64 := 0x7FF8000000000001

def readSpecial (cs : List Char) : Option Float :=
  let (neg, signed, body) := match cs with
    | '+' :: r => (false, true, r)
    | '-' :: r => (true, true, r)
    | r => (false, false, r)
  let inf := commonPrefixIgnoringCase body "infinity".toList
  if (inf == 3 || inf == 8) && body.length == inf then
    some (Float.ofBits (if neg then infinityBits ||| 0x8000000000000000 else infinityBits))
  else if !signed && body.length == 3 && commonPrefixIgnoringCase body "nan".toList == 3 then
    some (Float.ofBits nanBits)
  else none

/-- The digits of a literal's mantissa: their value, how many, and where the point stood. -/
structure Mantissa where
  value : Nat := 0
  count : Nat := 0
  point : Option Nat := none
  sawDigit : Bool := false

def readMantissa (base : Nat) : Mantissa → List Char → Mantissa × List Char
  | m, [] => (m, [])
  | m, c :: rest =>
    if c == '_' then readMantissa base m rest
    else if c == '.' then
      if m.point.isSome then (m, c :: rest)
      else readMantissa base { m with point := some m.count } rest
    else
      match digitValue c with
      | some d =>
        if d < base then
          readMantissa base { m with value := m.value * base + d, count := m.count + 1,
                                     sawDigit := true } rest
        else (m, c :: rest)
      | none => (m, c :: rest)

/-- Read the decimal digits of an exponent, skipping underscores; the value stops growing at
ten thousand. -/
def readExponentDigits : Nat → List Char → Nat × List Char
  | e, [] => (e, [])
  | e, c :: rest =>
    if c == '_' then readExponentDigits e rest
    else if '0' ≤ c && c ≤ '9' then
      readExponentDigits (if e < 10000 then e * 10 + (c.toNat - '0'.toNat) else e) rest
    else (e, c :: rest)

def splitSign (cs : List Char) : Bool × List Char :=
  match cs with
  | '+' :: r => (false, r)
  | '-' :: r => (true, r)
  | r => (false, r)

def hexPrefix (cs : List Char) : Bool × List Char :=
  match cs with
  | '0' :: x :: r@(_ :: _) => if asciiLower x == 'x' then (true, r) else (false, cs)
  | _ => (false, cs)

def readFloat (s : String) : Except ReadError Float :=
  let cs := s.toList
  match readSpecial cs with
  | some v => .ok v
  | none =>
    let (neg, afterSign) := splitSign cs
    let (hex, body) := hexPrefix afterSign
    let base := if hex then 16 else 10
    let (m, rest) := readMantissa base {} body
    if !m.sawDigit then .error .malformed
    else
      let point : Int := (m.point.getD m.count : Nat)
      let expChar := if hex then 'p' else 'e'
      let expPart : Option (Option Int × List Char) :=
        match rest with
        | c :: r =>
          if asciiLower c == expChar then
            let (sign, r') := match r with
              | '+' :: t => ((1 : Int), t)
              | '-' :: t => (-1, t)
              | t => (1, t)
            match r' with
            | d :: _ =>
              if '0' ≤ d && d ≤ '9' then
                let (e, r'') := readExponentDigits 0 r'
                some (some (sign * e), r'')
              else none
            | [] => none
          else some (none, rest)
        | [] => some (none, rest)
      match expPart with
      | none => .error .malformed
      | some (e?, tail) =>
        if hex && e?.isNone then .error .malformed
        else if !tail.isEmpty then .error .malformed
        else if !underscoresOk cs then .error .malformed
        else
          let e := e?.getD 0
          let exp := if hex then 4 * (point - m.count) + e else point - m.count + e
          match valueOf neg m.value (!hex) exp with
          | some v => .ok v
          | none => .error .outOfRange

def readDigits (base : Nat) (underscores : Bool) : Nat → List Char → Option Nat
  | acc, [] => some acc
  | acc, c :: rest =>
    if underscores && c == '_' then readDigits base underscores acc rest
    else
      match digitValue c with
      | some d => if d < base then readDigits base underscores (acc * base + d) rest else none
      | none => none

/-- The base and the digits of an unsigned literal: base ten when `prefixed` is false;
otherwise a `0x`, `0o`, `0b` or `0` prefix picks the base. -/
def baseAndDigits (prefixed : Bool) (body : List Char) : Nat × List Char :=
  if !prefixed then (10, body)
  else match body with
    | '0' :: x :: r@(_ :: _) =>
      let lx := asciiLower x
      if lx == 'b' then (2, r) else if lx == 'o' then (8, r)
      else if lx == 'x' then (16, r) else (8, x :: r)
    | '0' :: r => (8, r)
    | r => (10, r)

/-- The value of an unsigned literal without sign; with `prefixed`, underscores may separate
digits. -/
def readMagnitude (prefixed : Bool) (body : List Char) : Option Nat :=
  if body.isEmpty then none
  else
    let (base, digits) := baseAndDigits prefixed body
    match readDigits base prefixed 0 digits with
    | none => none
    | some n => if prefixed && !underscoresOk body then none else some n

def signed64 (neg : Bool) (n : Nat) : Except ReadError Int :=
  let v : Int := if neg then -(n : Int) else n
  if v < -(Nat.pow 2 63 : Int) || v ≥ (Nat.pow 2 63 : Int) then .error .outOfRange else .ok v

/-- Read a whole text as a 64-bit integer: base ten when `prefixed` is false; otherwise a
`0x`, `0o`, `0b` or `0` prefix picks the base and underscores may separate digits. -/
def readInt (s : String) (prefixed : Bool := false) : Except ReadError Int :=
  let (neg, body) := splitSign s.toList
  match readMagnitude prefixed body with
  | none => .error .malformed
  | some n => signed64 neg n

/-- Read a whole text without sign as an unsigned 64-bit integer, in base ten or, when
`prefixed`, in the base its prefix picks. -/
def readNat (s : String) (prefixed : Bool := false) : Except ReadError Nat :=
  match readMagnitude prefixed s.toList with
  | none => .error .malformed
  | some n => if n ≥ Nat.pow 2 64 then .error .outOfRange else .ok n

/-- Read a whole text as a signed 64-bit integer in a given base, without prefix or
underscores. -/
def readIntIn (base : Nat) (s : String) : Except ReadError Int :=
  let (neg, body) := splitSign s.toList
  if body.isEmpty then .error .malformed
  else
    match readDigits base false 0 body with
    | none => .error .malformed
    | some n => signed64 neg n

/-- Read a whole text without sign as an unsigned 64-bit integer in a given base, without
prefix or underscores. -/
def readNatIn (base : Nat) (s : String) : Except ReadError Nat :=
  if s.isEmpty then .error .malformed
  else
    match readDigits base false 0 s.toList with
    | none => .error .malformed
    | some n => if n ≥ Nat.pow 2 64 then .error .outOfRange else .ok n

/-- Read a whole text as a truth value: `1`, `t`, `T`, `TRUE`, `true`, `True` and their
opposites `0`, `f`, `F`, `FALSE`, `false`, `False`. -/
def readBool (s : String) : Option Bool :=
  if ["1", "t", "T", "TRUE", "true", "True"].contains s then some true
  else if ["0", "f", "F", "FALSE", "false", "False"].contains s then some false
  else none

end ProxyRouter.Decimal
