import ProxyRouter.Net.UrlText
import ProxyRouter.Json.Print
import ProxyRouter.Text.Utf8
/-!
Requests and responses of the management console. A request has a method, a target
(`/path?query`), the credentials of its basic authorization if it has one, and a body; a
response has a status, a content type, a body and the `Allow` and `WWW-Authenticate` headers
when set.
-/
namespace ProxyRouter.Console

open Net

/-- A request to the console. -/
structure ApiRequest where
  method : String
  /-- the path, unescaped -/
  path : String
  /-- the path as written -/
  rawPath : String
  rawQuery : String
  credentials : Option (String × String)
  body : String
deriving Repr

/-- A response of the console. -/
structure ApiResponse where
  status : Nat
  contentType : String
  body : String
  allow : Option String := none
  wwwAuthenticate : Option String := none
deriving Repr

/-- The credentials a server reads back from basic authorization with a user and password:
the text `user:password` split at its first colon. -/
def basicCredentials (user password : String) : String × String :=
  match (user ++ ":" ++ password).splitOn ":" with
  | u :: rest => (u, ":".intercalate rest)
  | [] => ("", "")

/-- Read a request from its method, target, credentials and body; `none` when the target's
path is not validly escaped. -/
def ApiRequest.make (method target : String) (credentials : Option (String × String)) (body : String) :
    Option ApiRequest :=
  let cs := target.toList
  let (pathPart, query) : List Char × List Char :=
    if cs.getLast? == some '?' && cs.count '?' == 1 then (cs.dropLast, [])
    else match indexOf? cs '?' with
      | some i => (cs.take i, cs.drop (i + 1))
      | none => (cs, [])
  match unescape .path pathPart with
  | .ok p =>
    let r : ApiRequest := {
      method := method, path := p, rawPath := String.ofList pathPart,
      rawQuery := String.ofList query, credentials := credentials, body := body }
    some r
  | .error _ => none

def ApiRequest.escapedPath (r : ApiRequest) : String :=
  ({ path := r.path, rawPath := r.rawPath } : Url).escapedPath

/-- Unescape a query key or value to bytes: `+` is a space; `none` when an escape is
malformed. The bytes an escape gives need not be UTF-8. -/
def queryUnescape (s : String) : Option (List UInt8) :=
  let rec go : List Char → List UInt8 → Option (List UInt8)
    | [], acc => some acc
    | '%' :: a :: b :: rest, acc =>
      if isHex a && isHex b then go rest (acc ++ [(hexVal a * 16 + hexVal b).toUInt8]) else none
    | '%' :: _, _ => none
    | '+' :: rest, acc => go rest (acc ++ [32])
    | c :: rest, acc => go rest (acc ++ (String.singleton c).toUTF8.toList)
  go s.toList []

def maxQueryPieces : Nat := 10000

/-- The pairs of a query string, in order, each key as text and each value as its bytes; a piece
with a semicolon or a malformed escape is skipped, and a query of more than `maxQueryPieces`
pieces (counting the empty ones between two `&`) has no pairs at all. -/
def parseQuery (raw : String) : List (String × List UInt8) :=
  if raw.toList.count '&' + 1 > maxQueryPieces then []
  else
    (raw.splitOn "&").filterMap fun piece =>
      if piece.isEmpty then none
      else
        let (k, v) := match piece.splitOn "=" with
          | k :: rest => (k, "=".intercalate rest)
          | [] => ("", "")
        if piece.contains ';' then none
        else match queryUnescape k, queryUnescape v with
          | some k, some v => some (Text.ofBytesLossy k, v)
          | _, _ => none

def ApiRequest.queryBytes (r : ApiRequest) (key : String) : List UInt8 :=
  (((parseQuery r.rawQuery).find? (·.1 == key)).map (·.2)).getD []

def ApiRequest.query (r : ApiRequest) (key : String) : String :=
  Text.ofBytesLossy (r.queryBytes key)

def cleanSegments (segs : List String) : List String :=
  segs.foldl (fun acc s =>
    if s.isEmpty || s == "." then acc
    else if s == ".." then acc.dropLast
    else acc ++ [s]) []

def cleanPath (p : String) : String :=
  let p := if p.isEmpty then "/" else if p.front != '/' then "/" ++ p else p
  let np := "/" ++ "/".intercalate (cleanSegments (p.splitOn "/"))
  if p.back == '/' && np != "/" then np ++ "/" else np

def htmlEscape (s : String) : String :=
  String.join (s.toList.map fun c =>
    match c with
    | '&' => "&amp;"
    | '<' => "&lt;"
    | '>' => "&gt;"
    | '"' => "&#34;"
    | '\'' => "&#39;"
    | c => String.singleton c)

/-- A JSON response. Its status is sent before the body is encoded, so a body the encoder
refuses leaves the response empty. -/
def jsonResponse (status : Nat) (body : Json) : ApiResponse :=
  { status := status, contentType := "application/json",
    body := match Json.encode body with
      | .ok text => text ++ "\n"
      | .error _ => "" }

def errorResponse (status : Nat) (message : String) : ApiResponse :=
  jsonResponse status (.object [("error", .string message)])

def textError (status : Nat) (message : String) : ApiResponse :=
  { status := status, contentType := "text/plain; charset=utf-8", body := message ++ "\n" }

def methodNotAllowed (allowed : List String) : ApiResponse :=
  { textError 405 "Method not allowed" with allow := some (", ".intercalate allowed) }

def notFound : ApiResponse := textError 404 "404 page not found"

def unauthorized : ApiResponse :=
  { status := 401, contentType := "", body := "Unauthorized.\n",
    wwwAuthenticate := some "Basic realm=\"Restricted\"" }

/-- A temporary redirect to a location; only `GET` gets a body and `GET` and `HEAD` a content
type. -/
def redirect (method location : String) : ApiResponse :=
  { status := 307
    contentType := if method == "GET" || method == "HEAD" then "text/html; charset=utf-8" else ""
    body := if method == "GET" then
      "<a href=\"" ++ htmlEscape location ++ "\">Temporary Redirect</a>.\n\n" else "" }

end ProxyRouter.Console
