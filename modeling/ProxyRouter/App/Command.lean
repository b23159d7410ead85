/-!
The command line of the service. It takes one option, `-configdir` (or `--configdir`), naming
the configuration directory, `configs` unless given, written as `-configdir DIR` or
`-configdir=DIR`. Option parsing stops at the first argument that is not an option, at `--`
and at a lone `-`. `-h` and `-help` ask for the usage; any other option is refused.
-/
namespace ProxyRouter.App

/-- What the command line asks for. -/
inductive Command where
  /-- run with this configuration directory -/
  | run (configDir : String)
  /-- print the usage -/
  | help
  /-- refuse the command line with this text -/
  | refuse (message : String)
deriving Repr, DecidableEq

def usage : String :=
  "Usage of crawladapter:\n  -configdir string\n    \tPath to config directory (default \"configs\")\n"

def parseArgsFrom (dir : String) : List String → Command
  | [] => .run dir
  | a :: rest =>
    if a == "--" || a == "-" || !a.startsWith "-" then .run dir
    else
      let body := String.ofList (a.toList.drop (if a.startsWith "--" then 2 else 1))
      let (name, value) : String × Option String := match body.splitOn "=" with
        | [n] => (n, none)
        | n :: vs => (n, some ("=".intercalate vs))
        | [] => ("", none)
      if name == "configdir" then
        match value with
        | some v => parseArgsFrom v rest
        | none =>
          match rest with
          | v :: rest' => parseArgsFrom v rest'
          | [] => .refuse ("flag needs an argument: -configdir\n" ++ usage)
      else if name == "h" || name == "help" then .help
      else if name.isEmpty || name.startsWith "-" || name.startsWith "=" then
        .refuse ("bad flag syntax: " ++ a ++ "\n" ++ usage)
      else .refuse ("flag provided but not defined: -" ++ name ++ "\n" ++ usage)

def parseArgs (args : List String) : Command := parseArgsFrom "configs" args

/-- Clean a file path: empty and `.` segments go, `..` removes the segment before it; a relative
path keeps the `..` segments that lead out of its start, an absolute one drops them. The empty
result is `.`. -/
def cleanFilePath (p : String) : String :=
  let absolute := p.startsWith "/"
  let segs := (p.splitOn "/").foldl (fun (acc : List String) s =>
    if s.isEmpty || s == "." then acc
    else if s == ".." then
      if acc.isEmpty || acc.getLast? == some ".." then (if absolute then acc else acc ++ [".."])
      else acc.dropLast
    else acc ++ [s]) []
  let body := "/".intercalate segs
  if absolute then "/" ++ body else if body.isEmpty then "." else body

def joinPath (dir path : String) : String :=
  cleanFilePath (if path.startsWith "/" || dir.isEmpty then path else dir ++ "/" ++ path)

def parseEnviron (text : String) : List (String × String) :=
  (text.splitOn "\x00").filterMap fun entry =>
    match entry.splitOn "=" with
    | name :: rest => if name.isEmpty then none else some (name, "=".intercalate rest)
    | [] => none

end ProxyRouter.App
