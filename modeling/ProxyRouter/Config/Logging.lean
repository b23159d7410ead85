import ProxyRouter.Text.CaseMap
import ProxyRouter.Text.Blank
import ProxyRouter.Text.Quote
import ProxyRouter.Decimal.Read
/-!
Logging setup. A level is a small signed number: `trace` is -1, then `debug`, `info`, `warn`,
`error`, `fatal` and `panic` count up from 0, 6 is the empty level and 7 is `disabled`; other
numbers in -128..127 are levels without a name. The configured level is read without
surrounding blanks and up to case, as a name or a decimal number; an empty or unreadable level
means `info`. The format is `console` (also when empty) or `json`, read the same way; any other
format is refused.
-/
namespace ProxyRouter.Config

/-- A logging level. -/
structure LogLevel where
  code : Int
deriving DecidableEq, Repr, Inhabited

namespace LogLevel

def named : List (String × Int) :=
  [("trace", -1), ("debug", 0), ("info", 1), ("warn", 2), ("error", 3), ("fatal", 4), ("panic", 5),
    ("disabled", 7), ("", 6)]

def info : LogLevel := ⟨1⟩

def name (l : LogLevel) : String :=
  match named.find? (·.2 == l.code) with
  | some (n, _) => n
  | none => toString l.code

/-- The level a lowercase text names, by name up to simple case folding (so the long s counts
as an s), or by number. -/
def parse? (s : String) : Option LogLevel :=
  match named.find? (fun (n, _) => n.toList.map Text.foldChar == s.toList.map Text.foldChar) with
  | some (_, code) => some ⟨code⟩
  | none =>
    match Decimal.readInt s with
    | .ok n => if n > 127 || n < -128 then none else some ⟨n⟩
    | .error _ => none

end LogLevel

/-- Where log lines go: readable lines or JSON objects. -/
inductive LogFormat where
  | console
  | json
deriving DecidableEq, Repr, Inhabited

/-- The logger a configuration sets up, and whether its level had to fall back to `info`
because it was not understood. -/
structure LoggerSetup where
  level : LogLevel
  format : LogFormat
  unknownLevel : Bool
deriving Repr

def setupLogger (level format : String) : Except String LoggerSetup :=
  let levelText := Text.lower (Text.trimBlank level)
  let parsed := LogLevel.parse? levelText
  let chosen := if levelText.isEmpty then LogLevel.info else parsed.getD LogLevel.info
  let fmt := match Text.lower (Text.trimBlank format) with
    | "" | "console" => some LogFormat.console
    | "json" => some LogFormat.json
    | _ => none
  match fmt with
  | some f => .ok ⟨chosen, f, parsed.isNone⟩
  | none => .error ("unknown log format " ++ Text.quote format)

end ProxyRouter.Config
