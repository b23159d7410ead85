import ProxyRouter.Net.Url
import ProxyRouter.Text.Blank
/-!
Routing targets and their hosts. A target is a URL (when it contains `://`), a `host:port` pair,
or a bare host possibly followed by a path; its host is taken in lowercase without a trailing
dot. A URL that cannot be read has no host.
-/
namespace ProxyRouter.Routing

/-- A routing target: the bytes of its text. -/
structure Target where
  bytes : List UInt8
deriving DecidableEq, Repr

namespace Target

def ofText (s : String) : Target := ⟨s.toUTF8.toList⟩

instance : Coe String Target := ⟨ofText⟩

def text (t : Target) : String := Text.ofBytesLossy t.bytes

/-- The target between double quotes, each byte outside a well-formed UTF-8 sequence written in
hexadecimal. -/
def quoted (t : Target) : String := Text.quoteBytes t.bytes

end Target

/-- The lowercase host of a target, or the empty text. -/
def hostOf (target : String) : String :=
  let t := Text.trimBlank target
  if t.isEmpty then ""
  else
    let host :=
      if Net.containsSeq t.toList "://".toList then
        match Net.Url.parse t with
        | .ok u => u.hostname
        | .error _ => ""
      else
        match Net.splitHostPort t with
        | some (h, _) => h
        | none =>
          let cs := t.toList.takeWhile (· != '/')
          let cs := if cs.head? == some '[' then cs.drop 1 else cs
          let cs := if cs.getLast? == some ']' then cs.dropLast else cs
          String.ofList cs
    let lowered := (Text.lower host).toList
    String.ofList (if lowered.getLast? == some '.' then lowered.dropLast else lowered)

/-- The host of a target. Bytes outside well-formed UTF-8 only ever stay inside the host, and
lowercasing turns each of them into U+FFFD, so the host is that of the target's text. -/
def Target.host (t : Target) : String := hostOf t.text

end ProxyRouter.Routing
