import ProxyRouter.Pool.Proxy
import ProxyRouter.Decimal.Read
import ProxyRouter.Decimal.Layout
/-!
Health snapshots: the latest sample of each proxy as text, one line per proxy sorted by name,
eight fields separated by `|`: name, Unix milliseconds (0 for an unknown time), success, latency,
connectivity, success rate, overall score and error. In the name and the error `%`, `|`, line
feed and carriage return are written `%25`, `%7C`, `%0A` and `%0D`; numbers are written
positionally in their shortest form.
-/
namespace ProxyRouter.Pool

def snapshotLineLimit : Nat := 65536

/-- The escape of one character: the separator, the line ends and the escape character are
written as `%` and two hexadecimal digits. -/
def escapeChar : Char → List Char
  | '%' => "%25".toList
  | '|' => "%7C".toList
  | '\n' => "%0A".toList
  | '\r' => "%0D".toList
  | c => [c]

def escapeField (s : String) : String := String.ofList (s.toList.flatMap escapeChar)

def unescapeChars : List Char → List Char
  | '%' :: '7' :: 'C' :: rest => '|' :: unescapeChars rest
  | '%' :: '0' :: 'A' :: rest => '\n' :: unescapeChars rest
  | '%' :: '0' :: 'D' :: rest => '\r' :: unescapeChars rest
  | '%' :: '2' :: '5' :: rest => '%' :: unescapeChars rest
  | c :: rest => c :: unescapeChars rest
  | [] => []

def sampleFields (name : String) (s : HealthSample) : List String :=
  let ts : Int := if s.timestamp.isZero then 0 else s.timestamp.unixMillis
  [escapeField name, toString ts, if s.success then "true" else "false",
    toString s.latencyMs, Decimal.formatFloat .fixed s.connectivity,
    Decimal.formatFloat .fixed s.successRate, Decimal.formatFloat .fixed s.overallScore,
    escapeField s.error]

def formatSample (name : String) (s : HealthSample) : String := "|".intercalate (sampleFields name s)

def insertByName (e : String × HealthSample) : List (String × HealthSample) → List (String × HealthSample)
  | [] => [e]
  | f :: fs => if e.1 == f.1 then e :: fs else if e.1 < f.1 then e :: f :: fs else f :: insertByName e fs

def sortByName (samples : List (String × HealthSample)) : List (String × HealthSample) :=
  samples.foldl (fun acc e => insertByName e acc) []

def formatSnapshot (samples : List (String × HealthSample)) : String :=
  String.join ((sortByName samples).map fun e => formatSample e.1 e.2 ++ "\n")

def parseFields (fields : List String) : Option (String × HealthSample) :=
  match fields with
  | [name, ts, ok, latency, conn, rate, score, err] =>
    let name := String.ofList (unescapeChars name.toList)
    if name.isEmpty then none
    else
      match Decimal.readInt ts, Decimal.readBool ok, Decimal.readInt latency,
          Decimal.readFloat conn, Decimal.readFloat rate, Decimal.readFloat score with
      | .ok t, some b, .ok l, .ok c, .ok r, .ok o =>
        some (name, {
          timestamp := if t > 0 then Instant.ofUnixMillis t else Instant.zero,
          success := b, latencyMs := l, connectivity := c, successRate := r, overallScore := o,
          error := String.ofList (unescapeChars err.toList) })
      | _, _, _, _, _, _ => none
  | _ => none

def splitText (c : Char) (text : String) : List String :=
  (text.toList.splitOn c).map String.ofList

/-- The lines of a text: split at line feeds, each without a final carriage return, and without
the empty piece after a final line feed. -/
def textLines (text : String) : List String :=
  let pieces := text.toList.splitOn '\n'
  let pieces := if text.toList.getLast? == some '\n' then pieces.dropLast else pieces
  pieces.map fun p => String.ofList (if p.getLast? == some '\r' then p.dropLast else p)

def readSampleLine (acc : List (String × HealthSample)) (line : String) : List (String × HealthSample) :=
  if line.isEmpty then acc
  else match parseFields (splitText '|' line) with
    | some e => insertByName e acc
    | none => acc

def parseSnapshot (text : String) : Except String (List (String × HealthSample)) :=
  let raw := splitText '\n' text
  if raw.any (fun l => l.utf8ByteSize + 1 > snapshotLineLimit) then .error "bufio.Scanner: token too long"
  else .ok ((textLines text).foldl readSampleLine [])

end ProxyRouter.Pool
