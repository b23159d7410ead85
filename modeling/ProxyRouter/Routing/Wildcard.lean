import ProxyRouter.Text.CaseMap
/-!
Wildcard rules are compiled to regular expressions. The rule's text is quoted, a backslash before
every character an expression reads specially; then each quoted wildcard becomes its expression,
`\*` becoming `.*` and, for routing rules, `\?` becoming `.`; the result is anchored at both ends
and read as an expression that ignores case.
-/
namespace ProxyRouter.Routing

def metaChar (c : Char) : Bool :=
  ['\\', '.', '+', '*', '?', '(', ')', '|', '[', ']', '\x7b', '\x7d', '^', '$'].contains c

/-- The text with a backslash before each character an expression reads specially. -/
def quoteMeta (cs : List Char) : List Char :=
  cs.flatMap fun c => if metaChar c then ['\\', c] else [c]

/-- Replace each occurrence of the two characters `a b`, scanning from the left, by `new`. -/
def replacePair (a b : Char) (new : List Char) : List Char → List Char
  | x :: y :: s =>
    if x = a ∧ y = b then new ++ replacePair a b new s else x :: replacePair a b new (y :: s)
  | s => s

/-- What one position of an expression takes. -/
inductive Atom where
  /-- this character, up to case when the expression ignores case -/
  | char (c : Char)
  /-- any character but a line feed -/
  | any
deriving DecidableEq, Repr

/-- An atom once, or repeated any number of times. -/
inductive Piece where
  | one (a : Atom)
  | star (a : Atom)
deriving DecidableEq, Repr

/-- An expression anchored at both ends. -/
structure Regexp where
  foldCase : Bool
  pieces : List Piece
deriving DecidableEq, Repr

def escapable (c : Char) : Bool := c.toNat < 128 && !c.isAlphanum

def Piece.ofPending (pending : Option Atom) : List Piece := (pending.map Piece.one).toList

/-- Read the pieces of an expression up to its closing `$`; `pending` is the atom read last, which
a following `*` repeats. -/
def readPieces (pending : Option Atom) : List Char → Except String (List Piece)
  | [] => .error "missing closing $"
  | ['$'] => .ok (Piece.ofPending pending)
  | '*' :: s =>
    match pending with
    | some a => (readPieces none s).map (Piece.star a :: ·)
    | none => .error "missing argument to repetition operator: *"
  | '\\' :: c :: s =>
    if escapable c then (readPieces (some (.char c)) s).map (Piece.ofPending pending ++ ·)
    else .error "invalid escape sequence"
  | '.' :: s => (readPieces (some .any) s).map (Piece.ofPending pending ++ ·)
  | c :: s =>
    if metaChar c then .error "unsupported operator"
    else (readPieces (some (.char c)) s).map (Piece.ofPending pending ++ ·)

def Regexp.parse : List Char → Except String Regexp
  | '(' :: '?' :: 'i' :: ')' :: '^' :: s => (readPieces none s).map (⟨true, ·⟩)
  | '^' :: s => (readPieces none s).map (⟨false, ·⟩)
  | _ => .error "unsupported expression"

def Atom.accepts (foldCase : Bool) : Atom → Char → Bool
  | .char d, c => if foldCase then Text.sameUpToCase d c else d == c
  | .any, c => c != '\n'

/-- The pieces match the whole text. -/
def matchPieces (foldCase : Bool) : List Piece → List Char → Bool
  | [], s => s.isEmpty
  | .one _ :: _, [] => false
  | .one a :: ps, c :: s => a.accepts foldCase c && matchPieces foldCase ps s
  | .star _ :: ps, [] => matchPieces foldCase ps []
  | .star a :: ps, c :: s =>
    matchPieces foldCase ps (c :: s) ||
      (a.accepts foldCase c && matchPieces foldCase (.star a :: ps) s)
termination_by ps s => ps.length + s.length

def Regexp.matches (r : Regexp) (s : String) : Bool := matchPieces r.foldCase r.pieces s.toList

/-- The expression of a wildcard text: quoted, each quoted wildcard `c` of `wild` replaced by its
expression, anchored and ignoring case. -/
def compileWildcard (wild : List (Char × List Char)) (raw : String) : Except String Regexp :=
  let body := wild.foldl (fun s w => replacePair '\\' w.1 w.2 s) (quoteMeta raw.toList)
  Regexp.parse ("(?i)^".toList ++ body ++ ['$'])

def routingWildcards : List (Char × List Char) := [('*', ['.', '*']), ('?', ['.'])]

def stickyWildcards : List (Char × List Char) := [('*', ['.', '*'])]

end ProxyRouter.Routing
