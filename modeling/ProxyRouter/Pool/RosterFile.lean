import ProxyRouter.Yaml.Decode
import ProxyRouter.Pool.Source
import ProxyRouter.Decimal.Convert
import ProxyRouter.Text.Blank
/-!
Roster files: the `proxies` list of a proxy-engine configuration in YAML.
-/
namespace ProxyRouter.Pool

open Yaml

def fieldOf (entry : List (String × Value)) (key : String) : Value :=
  ((entry.find? (·.1 == key)).map (·.2)).getD .null

/-- A text field: a text without surrounding blanks, the plain text of another value, or empty
for null. -/
def textField (entry : List (String × Value)) (key : String) : String :=
  match fieldOf entry key with
  | .str s => Text.trimBlank s
  | .null => ""
  | v => v.text

/-- A port field: an integer, a number cut toward zero, a decimal text, 0 for null and -1
otherwise. -/
def portField (entry : List (String × Value)) (key : String) : Int :=
  match fieldOf entry key with
  | .int n => n
  | .float x => Decimal.truncateToInt64 x
  | .str s =>
    match Decimal.readInt (Text.trimBlank s) with
    | .ok n => n
    | .error _ => -1
  | .null => 0
  | _ => -1

def entryIdentity (entry : Value) : ProxyIdentity :=
  let fields := match entry with
    | .strMap es => es
    | _ => []
  { name := textField fields "name"
    server := textField fields "server"
    port := portField fields "port"
    protocol := normalizeProtocol (textField fields "type")
    source := "file"
    descriptor := fields.map fun (k, v) => (k, v.toJson) }

/-- The proxies of a roster file, or why it cannot be read: a file that is not a roster, or a
fault that ends the whole operation. -/
def readRosterFile (text : String) : Except ReadFailure (List ProxyIdentity) :=
  match rosterProxies text with
  | .error (.invalid e) => .error (.invalid ("parse roster yaml: " ++ e))
  | .error (.fault e) => .error (.fault e)
  | .ok entries => .ok ((entries.getD []).map entryIdentity)

def parseRosterFile (text : String) : Except String (List ProxyIdentity) :=
  (readRosterFile text).mapError ReadFailure.message

def fileSourceName : String := "file"

/-- What the roster file source gives for a file's content: no roster when the file is
missing, else the file's proxies. -/
def fetchRosterFile : Option String → Except ReadFailure (Option (List ProxyIdentity))
  | none => .ok none
  | some text => (readRosterFile text).map some

end ProxyRouter.Pool
