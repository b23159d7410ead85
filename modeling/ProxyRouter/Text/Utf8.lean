/-!
Bytes read as UTF-8 text. A byte that does not begin a well-formed sequence (overlong forms,
surrogates and values past U+10FFFF are not well formed) stands for one replacement character
U+FFFD, and reading goes on with the next byte.
-/
namespace ProxyRouter.Text

def isContinuation (b : UInt8) : Bool := 0x80 ≤ b && b ≤ 0xBF

def low6 (b : UInt8) : Nat := (b - 0x80).toNat

/-- The character that a leading byte and the bytes after it begin, and how many of the bytes
after it belong to it; U+FFFD and none when the sequence is ill-formed. -/
def leadingChar (b : UInt8) (rest : List UInt8) : Char × Nat :=
  if b < 0x80 then (Char.ofNat b.toNat, 0)
  else
    match rest with
    | b1 :: b2 :: b3 :: _ =>
      if 0xC2 ≤ b && b ≤ 0xDF && isContinuation b1 then
        (Char.ofNat ((b - 0xC0).toNat * 64 + low6 b1), 1)
      else if three b b1 && isContinuation b2 then
        (Char.ofNat ((b - 0xE0).toNat * 4096 + low6 b1 * 64 + low6 b2), 2)
      else if four b b1 && isContinuation b2 && isContinuation b3 then
        (Char.ofNat ((b - 0xF0).toNat * 262144 + low6 b1 * 4096 + low6 b2 * 64 + low6 b3), 3)
      else ('�', 0)
    | [b1, b2] =>
      if 0xC2 ≤ b && b ≤ 0xDF && isContinuation b1 then
        (Char.ofNat ((b - 0xC0).toNat * 64 + low6 b1), 1)
      else if three b b1 && isContinuation b2 then
        (Char.ofNat ((b - 0xE0).toNat * 4096 + low6 b1 * 64 + low6 b2), 2)
      else ('�', 0)
    | [b1] =>
      if 0xC2 ≤ b && b ≤ 0xDF && isContinuation b1 then
        (Char.ofNat ((b - 0xC0).toNat * 64 + low6 b1), 1)
      else ('�', 0)
    | [] => ('�', 0)
where
  /-- The first two bytes of a well-formed three-byte sequence. -/
  three (b b1 : UInt8) : Bool :=
    if b == 0xE0 then 0xA0 ≤ b1 && b1 ≤ 0xBF
    else if b == 0xED then 0x80 ≤ b1 && b1 ≤ 0x9F
    else 0xE1 ≤ b && b ≤ 0xEF && isContinuation b1
  /-- The first two bytes of a well-formed four-byte sequence. -/
  four (b b1 : UInt8) : Bool :=
    if b == 0xF0 then 0x90 ≤ b1 && b1 ≤ 0xBF
    else if b == 0xF4 then 0x80 ≤ b1 && b1 ≤ 0x8F
    else 0xF1 ≤ b && b ≤ 0xF3 && isContinuation b1

def decodeLossy : List UInt8 → List Char
  | [] => []
  | b :: rest =>
    let (c, used) := leadingChar b rest
    c :: decodeLossy (rest.drop used)
termination_by bytes => bytes.length
decreasing_by simp only [List.length_drop, List.length_cons]; omega

def ofBytesLossy (bytes : List UInt8) : String := String.ofList (decodeLossy bytes)

/-- The first `n` bytes of a text's UTF-8 form, read back; a character cut in two leaves one
U+FFFD per byte kept. -/
def bytePrefix (s : String) (n : Nat) : String := ofBytesLossy (s.toUTF8.toList.take n)

end ProxyRouter.Text
