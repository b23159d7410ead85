/-!
The tokens of YAML text, with the positions they start and stop at, and the problems that
stop reading. A problem names the stage that found it; its text shows the line of the context
it arose in, or else of the place it was found, counted from one, and no line at all when
neither is known.
-/
namespace ProxyRouter.Yaml

/-- A place in the text: characters before it, and its line and column, both from zero. -/
structure Mark where
  index : Nat := 0
  line : Nat := 0
  column : Nat := 0
deriving Repr, Inhabited, BEq

/-- How a scalar is written. -/
inductive ScalarStyle where
  | plain
  | singleQuoted
  | doubleQuoted
  | literal
  | folded
deriving Repr, Inhabited, BEq, DecidableEq

/-- What a token is. -/
inductive TokenKind where
  | streamStart
  | streamEnd
  /-- `%YAML major.minor` -/
  | versionDirective (major minor : Nat)
  /-- `%TAG handle prefix` -/
  | tagDirective (handle pfx : String)
  | documentStart
  | documentEnd
  | blockSequenceStart
  | blockMappingStart
  | blockEnd
  | flowSequenceStart
  | flowSequenceEnd
  | flowMappingStart
  | flowMappingEnd
  | blockEntry
  | flowEntry
  | key
  | value
  /-- `*name` -/
  | alias (name : String)
  /-- `&name` -/
  | anchor (name : String)
  /-- `!handle!suffix`, or a verbatim tag with an empty handle -/
  | tag (handle suffix : String)
  | scalar (text : String) (style : ScalarStyle)
deriving Repr, Inhabited, BEq

/-- A token and where it stands. -/
structure Token where
  kind : TokenKind
  start : Mark
  stop : Mark
deriving Repr, Inhabited

/-- The stage of reading that found a problem. -/
inductive Stage where
  /-- checking the characters -/
  | characters
  /-- cutting the text into tokens -/
  | tokens
  /-- grouping tokens into events -/
  | events
  /-- building the tree of nodes -/
  | nodes
deriving Repr, Inhabited, BEq, DecidableEq

/-- Why reading stopped. -/
structure Problem where
  stage : Stage
  context : String := ""
  contextMark : Mark := {}
  problem : String
  problemMark : Mark := {}
  /-- how many characters of the text had been asked for when the problem was found -/
  reach : Nat := 0
deriving Repr, Inhabited

/-- The text of a problem: `line N: ` before it when a line is known. Token problems count the
line of their mark from zero and so show one more. -/
def Problem.message (p : Problem) : String :=
  let shift := if p.stage == .tokens then 1 else 0
  let line :=
    if p.contextMark.line != 0 then p.contextMark.line + shift
    else if p.problemMark.line != 0 then p.problemMark.line + shift
    else 0
  (if line != 0 then "line " ++ toString line ++ ": " else "") ++ p.problem

end ProxyRouter.Yaml
