/-!
Blank characters: the ASCII blanks, next line, no-break space and the Unicode white-space
separators. Names, rules and settings are trimmed of blanks on both ends before use.
-/
namespace ProxyRouter.Text

/-- A blank: tab, line feed, vertical tab, form feed, carriage return, space, next line,
no-break space, or one of the Unicode white-space separators. -/
def isBlank (c : Char) : Bool :=
  let n := c.toNat
  if n ≤ 0xFF then
    n == 0x20 || (0x09 ≤ n && n ≤ 0x0D) || n == 0x85 || n == 0xA0
  else
    n == 0x1680 || (0x2000 ≤ n && n ≤ 0x200A) || n == 0x2028 || n == 0x2029 ||
      n == 0x202F || n == 0x205F || n == 0x3000

def trimBlankChars (cs : List Char) : List Char :=
  ((cs.dropWhile isBlank).reverse.dropWhile isBlank).reverse

def trimBlank (s : String) : String :=
  String.ofList (trimBlankChars s.toList)

def isBlankText (s : String) : Bool :=
  s.toList.all isBlank

end ProxyRouter.Text
