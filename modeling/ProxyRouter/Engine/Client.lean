import ProxyRouter.Engine.Types
import ProxyRouter.Config.Service
import ProxyRouter.Net.Http
import ProxyRouter.Json.Parse
import ProxyRouter.Json.Print
import ProxyRouter.Json.Bind
import ProxyRouter.Time.Duration
import ProxyRouter.Text.Blank
/-!
The client of the proxy engine's REST controller. It switches the active proxy of the selector
group, reads the group and all proxies, and asks for the engine's version.
-/
namespace ProxyRouter.Engine

open Net

/-- Why a controller request failed. -/
inductive ClientError where
  /-- the request failed or its answer could not be read -/
  | failed (message : String)
  /-- the controller refused the switch with this status and body -/
  | rejected (status : Nat) (body : String)
  /-- the request was never sent, so there is no response to look at -/
  | noResponse
deriving Repr

def ClientError.message : ClientError → String
  | .failed m => m
  | .rejected status body => "engine rejected proxy switch: status " ++ toString status ++ ": " ++ body
  | .noResponse => "runtime error: invalid memory address or nil pointer dereference"

/-- A controller client. -/
structure EngineClient where
  baseUrl : String
  group : String
  secret : String
  timeout : Duration
  retries : Int
deriving Repr

def trimSlashes (s : String) : String := String.ofList (s.toList.reverse.dropWhile (· == '/')).reverse

/-- A client for the engine options: the group defaults to `PROXY` and the timeout to ten
seconds. -/
def EngineClient.new (o : Config.EngineOptions) : EngineClient :=
  { baseUrl := trimSlashes o.apiBase
    group := if o.group.isEmpty then "PROXY" else o.group
    secret := o.secret
    timeout := if o.requestTimeout ≤ 0 then Duration.ofSeconds 10 else Duration.ofSeconds o.requestTimeout
    retries := o.retryCount }

namespace EngineClient

def target (c : EngineClient) (path : String) : Except String Url := do
  let rel ← Url.parse path
  if rel.scheme != "" then return rel
  let r := rel.render
  let r := if !r.isEmpty && r.front != '/' then "/" ++ r else r
  Url.parse (c.baseUrl ++ r)

def headers (c : EngineClient) : List (String × String) :=
  [("Content-Type", "application/json")] ++
    (if c.secret.isEmpty then [] else [("Authorization", "Bearer " ++ c.secret)])

def execute {σ : Type} (c : EngineClient) (net : Network σ) (s : σ) (method path body : String) :
    Except ClientError HttpResponse × σ :=
  match c.target path with
  | .error e => (.error (.failed e), s)
  | .ok url =>
    let req : HttpRequest := { method := method, url := url, headers := c.headers, body := body }
    if c.retries < 0 then (.error .noResponse, s)
    else
      let attempt (st : σ) : Except ClientError HttpResponse × σ :=
        match send net st .direct req with
        | (.ok r, st) => (.ok r, st)
        | (.error e, st) => (.error (.failed e), st)
      (List.range c.retries.toNat).foldl (fun (acc : Except ClientError HttpResponse × σ) _ =>
        match acc with
        | (.ok r, st) => (.ok r, st)
        | (.error _, st) => attempt st) (attempt s)

def groupPath (c : EngineClient) : String := "/proxies/" ++ pathEscape c.group

def readBody (r : HttpResponse) : Except String (Option Json) :=
  if r.status == 204 || r.status < 200 || r.status ≥ 300 then .ok none
  else match Json.parse r.body with
    | .ok j => .ok (some j)
    | .error e => .error e.message

def switch {σ : Type} (c : EngineClient) (net : Network σ) (s : σ) (name : String) :
    Except ClientError Unit × σ :=
  let body := Json.compact (.object [("name", .string name)])
  match c.execute net s "PUT" c.groupPath body with
  | (.error (.failed e), s) => (.error (.failed ("switch request failed: " ++ e)), s)
  | (.error e, s) => (.error e, s)
  | (.ok r, s) =>
    match readBody r with
    | .error e => (.error (.failed ("switch request failed: " ++ e)), s)
    | .ok _ =>
      if r.status == 204 || r.status == 200 then (.ok (), s)
      else (.error (.rejected r.status (Text.trimBlank r.body)), s)

/-- Switch the group's active proxy, telling only whether it worked; a request that was never
sent still has no response. -/
def switchActive {σ : Type} (c : EngineClient) (net : Network σ) (s : σ) (name : String) :
    Except ClientError Bool × σ :=
  match c.switch net s name with
  | (.ok (), s) => (.ok true, s)
  | (.error .noResponse, s) => (.error .noResponse, s)
  | (.error _, s) => (.ok false, s)

/-- Read a group or proxy entry from JSON onto defaults. The member list keeps the texts past
its end while the object is read, for a later `all` member to bind onto. -/
def bindInfo (record target : String) (ctx : Json.BindContext) (j : Json) (i : ProxyInfo) :
    Except Json.Mismatch ProxyInfo :=
  match j with
  | .null => .ok i
  | .object ms => do
    let (i, _) ← ms.foldlM (fun ((i, spare) : ProxyInfo × List String) (k, v) =>
      match Json.fieldFor ["name", "type", "now", "all"] k with
      | some "name" =>
        return ({ i with name := ← Json.bindText (ctx.enter record "name") v i.name }, spare)
      | some "type" =>
        return ({ i with kind := ← Json.bindText (ctx.enter record "type") v i.kind }, spare)
      | some "now" =>
        return ({ i with now := ← Json.bindText (ctx.enter record "now") v i.now }, spare)
      | some "all" => do
        let l ← Json.bindTextList (ctx.enter record "all") v (some ⟨i.all, spare⟩)
        let l := l.getD {}
        return ({ i with all := l.items }, l.spare)
      | _ => pure (i, spare)) (i, [])
    return i
  | v => .error ⟨Json.kindWord v, target, ctx⟩

def fetchGroup {σ : Type} (c : EngineClient) (net : Network σ) (s : σ) : Except ClientError GroupInfo × σ :=
  let failed (e : String) : ClientError := .failed ("group request failed: " ++ e)
  match c.execute net s "GET" c.groupPath "" with
  | (.error (.failed e), s) => (.error (failed e), s)
  | (.error e, s) => (.error e, s)
  | (.ok r, s) =>
    match readBody r with
    | .error e => (.error (failed e), s)
    | .ok body =>
      let info := match body with
        | some j => bindInfo "GroupInfo" "engine.GroupInfo" {} j {}
        | none => .ok {}
      match info with
      | .error m => (.error (failed m.message), s)
      | .ok i =>
        if r.status != 200 then
          (.error (.failed ("group " ++ Text.quote c.group ++ ": unexpected status " ++ toString r.status)), s)
        else (.ok ⟨i.name, i.kind, i.now, i.all⟩, s)

def fetchProxies {σ : Type} (c : EngineClient) (net : Network σ) (s : σ) :
    Except ClientError (List (String × ProxyInfo)) × σ :=
  let failed (e : String) : ClientError := .failed ("proxies request failed: " ++ e)
  let readMap (j : Json) : Except Json.Mismatch (List (String × ProxyInfo)) :=
    match j with
    | .object ms => ms.foldlM (fun (acc : List (String × ProxyInfo)) (k, v) =>
        match Json.fieldFor ["proxies"] k with
        | some _ =>
          match v with
          | .null => pure []
          | .object entries => entries.foldlM (fun (acc : List (String × ProxyInfo)) (name, e) => do
              let old := ((acc.find? (·.1 == name)).map (·.2)).getD {}
              let i ← bindInfo "ProxyInfo" "engine.ProxyInfo" ((({} : Json.BindContext).enter "proxiesResponse" "proxies").entry name) e old
              return (acc.filter (·.1 != name)) ++ [(name, i)]) acc
          | other => .error ⟨Json.kindWord other, "map[string]engine.ProxyInfo",
              ({} : Json.BindContext).enter "proxiesResponse" "proxies"⟩
        | none => pure acc) []
    | .null => .ok []
    | v => .error ⟨Json.kindWord v, "engine.proxiesResponse", {}⟩
  match c.execute net s "GET" "/proxies" "" with
  | (.error (.failed e), s) => (.error (failed e), s)
  | (.error e, s) => (.error e, s)
  | (.ok r, s) =>
    match readBody r with
    | .error e => (.error (failed e), s)
    | .ok body =>
      match (match body with
        | some j => readMap j
        | none => .ok []) with
      | .error m => (.error (failed m.message), s)
      | .ok ps =>
        if r.status != 200 then (.error (.failed ("proxies: unexpected status " ++ toString r.status)), s)
        else (.ok ps, s)

def fetchVersion {σ : Type} (c : EngineClient) (net : Network σ) (s : σ) : Except ClientError String × σ :=
  let failed (e : String) : ClientError := .failed ("version request failed: " ++ e)
  let readVersion (j : Json) : Except Json.Mismatch String :=
    match j with
    | .object ms => ms.foldlM (fun (v : String) (k, x) =>
        match Json.fieldFor ["version", "meta"] k with
        | some "version" => Json.bindText (({} : Json.BindContext).enter "versionResponse" "version") x v
        | some "meta" => do
          let _ ← Json.bindFlag (({} : Json.BindContext).enter "versionResponse" "meta") x false
          return v
        | _ => pure v) ""
    | .null => .ok ""
    | v => .error ⟨Json.kindWord v, "engine.versionResponse", {}⟩
  match c.execute net s "GET" "/version" "" with
  | (.error (.failed e), s) => (.error (failed e), s)
  | (.error e, s) => (.error e, s)
  | (.ok r, s) =>
    match readBody r with
    | .error e => (.error (failed e), s)
    | .ok body =>
      match (match body with
        | some j => readVersion j
        | none => .ok "") with
      | .error m => (.error (failed m.message), s)
      | .ok v =>
        if r.status != 200 then (.error (.failed ("version: unexpected status " ++ toString r.status)), s)
        else (.ok v, s)

end EngineClient

def GroupInfo.toJson (g : GroupInfo) : Json :=
  .object [("name", .string g.name), ("type", .string g.kind), ("now", .string g.now),
    ("all", Json.strings g.all)]

def ProxyInfo.toJson (p : ProxyInfo) : Json :=
  .object ([("name", .string p.name), ("type", .string p.kind)] ++
    (if p.now.isEmpty then [] else [("now", .string p.now)]) ++
    (if p.all.isEmpty then [] else [("all", Json.strings p.all)]))

end ProxyRouter.Engine
