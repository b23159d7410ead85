import ProxyRouter.Text.Quote
/-!
IP addresses and networks. An address is an IPv4 address or an IPv6 address with an optional
zone; an IPv6 address of the form `::ffff:a.b.c.d` embeds an IPv4 one and can be unmapped to
it. Addresses are read in dotted decimal (no leading zeros, each field at most 255) or in
colon-separated hexadecimal with at most one `::` and an optional trailing dotted part, and
written back in their canonical form (the longest run of two or more zero groups shortened to
`::`). A network is an address and a prefix length; it contains the addresses of its family,
without zone, that agree with it on the first `length` bits.
-/
namespace ProxyRouter.Net

/-- The two address families. -/
inductive Family where
  | v4
  | v6
deriving DecidableEq, Repr

def Family.bits : Family → Nat
  | .v4 => 32
  | .v6 => 128

/-- An IP address: its family, its value as a number, and a zone (empty for none). -/
structure Addr where
  family : Family
  value : Nat
  zone : String := ""
deriving DecidableEq, Repr

/-- Why a text is not an address; the message names the rule it breaks. -/
structure AddrError where
  input : String
  msg : String
  at? : Option String := none
deriving Repr

/-- The text of an address error, with the input and the place of the error written by
`quote`. -/
def AddrError.messageWith (quote : String → String) (e : AddrError) : String :=
  match e.at? with
  | some a => "ParseAddr(" ++ quote e.input ++ "): " ++ e.msg ++ " (at " ++ quote a ++ ")"
  | none => "ParseAddr(" ++ quote e.input ++ "): " ++ e.msg

def AddrError.message (e : AddrError) : String := e.messageWith Text.quote

/-- Walk dotted-decimal fields: `fields` done so far (most recent first), the current field's
value and digit count, and the characters left. -/
def readDotted (input : String) (fields : List Nat) (val digits : Nat) (prev : Option Char) :
    List Char → Except AddrError (List Nat)
  | [] =>
    if fields.length < 3 then .error ⟨input, "IPv4 address too short", none⟩
    else .ok (val :: fields).reverse
  | c :: rest =>
    if '0' ≤ c && c ≤ '9' then
      if digits == 1 && val == 0 then .error ⟨input, "IPv4 field has octet with leading zero", none⟩
      else
        let v := val * 10 + (c.toNat - 48)
        if v > 255 then .error ⟨input, "IPv4 field has value >255", none⟩
        else readDotted input fields v (digits + 1) (some c) rest
    else if c == '.' then
      if prev.isNone || rest.isEmpty || prev == some '.' then
        .error ⟨input, "IPv4 field must have at least one digit", some (String.ofList (c :: rest))⟩
      else if fields.length == 3 then .error ⟨input, "IPv4 address too long", none⟩
      else readDotted input (val :: fields) 0 0 (some c) rest
    else .error ⟨input, "unexpected character", some (String.ofList (c :: rest))⟩

def dottedValue (fs : List Nat) : Nat := fs.foldl (fun acc f => acc * 256 + f) 0

def readIPv4 (input : String) (cs : List Char) : Except AddrError Nat :=
  (readDotted input [] 0 0 none cs).map dottedValue

def hexValue (c : Char) : Option Nat :=
  if '0' ≤ c && c ≤ '9' then some (c.toNat - 48)
  else if 'a' ≤ c && c ≤ 'f' then some (c.toNat - 87)
  else if 'A' ≤ c && c ≤ 'F' then some (c.toNat - 55)
  else none

def readGroup (input : String) (whole : List Char) :
    Nat → Nat → List Char → Except AddrError (Nat × Nat × List Char)
  | acc, n, [] => .ok (acc, n, [])
  | acc, n, c :: rest =>
    match hexValue c with
    | none => .ok (acc, n, c :: rest)
    | some d =>
      let acc' := acc * 16 + d
      if n ≥ 4 then
        .error ⟨input, "each group must have 4 or less digits", some (String.ofList whole)⟩
      else if acc' > 0xFFFF then
        .error ⟨input, "IPv6 field has value >=2^16", some (String.ofList whole)⟩
      else readGroup input whole acc' (n + 1) rest

/-- Colon-separated groups: `bytes` read so far (as 16-bit groups, in order), the position of
the `::` if any, and the characters left; `fuel` bounds the number of groups. -/
def readGroups (input : String) (zoneLen : Nat) :
    Nat → List Nat → Option Nat → List Char → Except AddrError (List Nat × Option Nat × List Char)
  | 0, groups, ell, s => .ok (groups, ell, s)
  | fuel + 1, groups, ell, s =>
    if groups.length ≥ 8 then .ok (groups, ell, s)
    else
      match readGroup input s 0 0 s with
      | .error e => .error e
      | .ok (acc, n, rest) =>
        if n == 0 then
          .error ⟨input, "each colon-separated field must have at least one digit", some (String.ofList s)⟩
        else
          match rest with
          | '.' :: _ =>
            if ell.isNone && groups.length != 6 then
              .error ⟨input, "embedded IPv4 address must replace the final 2 fields of the address", some (String.ofList s)⟩
            else if groups.length + 2 > 8 then
              .error ⟨input, "too many hex fields to fit an embedded IPv4 at the end of the address", some (String.ofList s)⟩
            else
              match readIPv4 input s with
              | .error e => .error e
              | .ok v => .ok (groups ++ [v / 65536, v % 65536], ell, [])
          | [] => .ok (groups ++ [acc], ell, [])
          | c :: more =>
            let groups := groups ++ [acc]
            if c != ':' then
              .error ⟨input, "unexpected character, want colon", some (String.ofList rest)⟩
            else if more.isEmpty then
              .error ⟨input, "colon must be followed by more characters", some (String.ofList rest)⟩
            else
              match more with
              | ':' :: after =>
                if ell.isSome then .error ⟨input, "multiple :: in address", some (String.ofList more)⟩
                else if after.isEmpty then .ok (groups, some groups.length, [])
                else readGroups input zoneLen fuel groups (some groups.length) after
              | _ => readGroups input zoneLen fuel groups ell more

def readIPv6 (input : String) : Except AddrError Addr :=
  let cs := input.toList
  let (body, zone?) : List Char × Option (List Char) :=
    match cs.findIdx? (· == '%') with
    | some i => (cs.take i, some (cs.drop (i + 1)))
    | none => (cs, none)
  if zone? == some [] then .error ⟨input, "zone must be a non-empty string", none⟩
  else
    let zone := String.ofList (zone?.getD [])
    let start : Except AddrError (List Nat × Option Nat × List Char) :=
      match body with
      | ':' :: ':' :: [] => .ok ([], some 0, [])
      | ':' :: ':' :: rest => readGroups input zone.length 9 [] (some 0) rest
      | _ => readGroups input zone.length 9 [] none body
    match start with
    | .error e => .error e
    | .ok (groups, ell, rest) =>
      if !rest.isEmpty then .error ⟨input, "trailing garbage after address", some (String.ofList rest)⟩
      else
        let full : Except AddrError (List Nat) :=
          if groups.length < 8 then
            match ell with
            | none => .error ⟨input, "address string too short", none⟩
            | some e => .ok (groups.take e ++ List.replicate (8 - groups.length) 0 ++ groups.drop e)
          else if ell.isSome then
            .error ⟨input, "the :: must expand to at least one field of zeros", none⟩
          else .ok groups
        full.map fun gs => ⟨.v6, gs.foldl (fun acc g => acc * 65536 + g) 0, zone⟩

namespace Addr

/-- Read an address: dotted decimal when a `.` comes before any `:` or `%`, colon-separated
hexadecimal when a `:` does. -/
def parse (s : String) : Except AddrError Addr :=
  match s.toList.find? (fun c => c == '.' || c == ':' || c == '%') with
  | some '.' => (readIPv4 s s.toList).map fun v => ⟨.v4, v, ""⟩
  | some ':' => readIPv6 s
  | some _ => .error ⟨s, "missing IPv6 address", none⟩
  | none => .error ⟨s, "unable to parse IP", none⟩

def bitLen (a : Addr) : Nat := a.family.bits

def isMappedV4 (a : Addr) : Bool := a.family == .v6 && a.value / Nat.pow 2 32 == 0xFFFF

def unmap (a : Addr) : Addr :=
  if a.isMappedV4 then ⟨.v4, a.value % Nat.pow 2 32, ""⟩ else a

def dotted (v : Nat) : String :=
  ".".intercalate [toString (v / Nat.pow 2 24 % 256), toString (v / Nat.pow 2 16 % 256),
    toString (v / Nat.pow 2 8 % 256), toString (v % 256)]

def groups (v : Nat) : List Nat := (List.range 8).reverse.map fun i => v / Nat.pow 65536 i % 65536

def zeroRun (gs : List Nat) : Option (Nat × Nat) :=
  (List.range 8).foldl (fun best i =>
    let len := ((gs.drop i).takeWhile (· == 0)).length
    match best with
    | some (s, e) => if len ≥ 2 && len > e - s then some (i, i + len) else best
    | none => if len ≥ 2 then some (i, i + len) else none) none

def hexText (n : Nat) : String := String.ofList (Nat.toDigits 16 n)

def colonText (v : Nat) : String :=
  let gs := groups v
  match zeroRun gs with
  | some (s, e) =>
    ":".intercalate ((gs.take s).map hexText) ++ "::" ++ ":".intercalate ((gs.drop e).map hexText)
  | none => ":".intercalate (gs.map hexText)

def text (a : Addr) : String :=
  let zone := if a.zone.isEmpty then "" else "%" ++ a.zone
  match a.family with
  | .v4 => dotted a.value
  | .v6 => (if a.isMappedV4 then "::ffff:" ++ dotted (a.value % Nat.pow 2 32) else colonText a.value) ++ zone

end Addr

/-- A network: an address without zone and a prefix length of at most its bit count. -/
structure Prefix where
  addr : Addr
  length : Nat
deriving DecidableEq, Repr

namespace Prefix

def ofAddr (a : Addr) (length : Nat) : Prefix := ⟨{ a with zone := "" }, length⟩

def masked (p : Prefix) : Prefix :=
  let low := Nat.pow 2 (p.addr.bitLen - p.length)
  ⟨{ p.addr with value := p.addr.value / low * low, zone := "" }, p.length⟩

def contains (p : Prefix) (a : Addr) : Bool :=
  p.addr.family == a.family && a.zone.isEmpty &&
    let low := Nat.pow 2 (p.addr.bitLen - p.length)
    a.value / low == p.addr.value / low

def text (p : Prefix) : String := p.addr.text ++ "/" ++ toString p.length

/-- Read `address/length`: the address as `Addr.parse` reads it, without zone if IPv6, and a
decimal length without sign or leading zero that fits the family. A length that does not fit
a signed 64-bit integer is not a number at all, and is reported as bad bits. -/
def parse (s : String) : Except String Prefix :=
  let cs := s.toList
  let fail (msg : String) : Except String Prefix :=
    .error ("netip.ParsePrefix(" ++ Text.quote s ++ "): " ++ msg)
  match (List.range cs.length).reverse.find? (fun i => cs[i]? == some '/') with
  | none => fail "no '/'"
  | some i =>
    match Addr.parse (String.ofList (cs.take i)) with
    | .error e => fail e.message
    | .ok a =>
      if a.family == .v6 && !a.zone.isEmpty then fail "IPv6 zones cannot be present in a prefix"
      else
        let bitsText := cs.drop (i + 1)
        let bad := fail ("bad bits after slash: " ++ Text.quote (String.ofList bitsText))
        let leadOk := match bitsText with
          | c :: _ :: _ => '1' ≤ c && c ≤ '9'
          | _ => true
        if !leadOk then bad
        else if bitsText.isEmpty || !bitsText.all (fun c => '0' ≤ c && c ≤ '9') then bad
        else
          let bits := bitsText.foldl (fun acc c => acc * 10 + (c.toNat - 48)) 0
          if bits ≥ Nat.pow 2 63 then bad
          else if bits > a.bitLen then fail "prefix length out of range"
          else .ok (ofAddr a bits)

end Prefix
end ProxyRouter.Net
