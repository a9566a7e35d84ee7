import ScriptDoc.FileTree

-- Patterns for paths. A wildcard never goes past a slash; two stars that make up a whole piece stand
-- for any number of directories.
namespace ScriptDoc

structure CharSpan where
  first : Char
  last : Char
  deriving Repr, DecidableEq

inductive PatternToken where
  | literal (c : Char)
  | anyChar
  | anyText
  | oneOf (spans : List CharSpan)
  | noneOf (spans : List CharSpan)
  deriving Repr, DecidableEq

inductive PatternPiece where
  | directories
  | tokens (ts : List PatternToken)
  deriving Repr, DecidableEq

namespace Pattern

-- A dash between two characters makes a span of them.
def spansOf : Text → List CharSpan
  | a :: '-' :: b :: rest => ⟨a, b⟩ :: spansOf rest
  | a :: rest => ⟨a, a⟩ :: spansOf rest
  | [] => []

-- A class and what follows it, after the opening bracket. The first character belongs to the class
-- whatever it is.
def classBody : Text → Option (Text × Text)
  | [] => none
  | c :: rest => (Text.cut ']' rest).map fun p => (c :: p.1, p.2)

def takeClass : Text → Option (PatternToken × Text)
  | '!' :: rest => (classBody rest).map fun p => (.noneOf (spansOf p.1), p.2)
  | t => (classBody t).map fun p => (.oneOf (spansOf p.1), p.2)

-- The counter bounds the number of tokens. Two stars are no token.
def tokensFrom : Nat → Text → Option (List PatternToken)
  | _, [] => some []
  | 0, _ :: _ => none
  | fuel + 1, '?' :: rest => (tokensFrom fuel rest).map (.anyChar :: ·)
  | _ + 1, '*' :: '*' :: _ => none
  | fuel + 1, '*' :: rest => (tokensFrom fuel rest).map (.anyText :: ·)
  | fuel + 1, '[' :: rest =>
    match takeClass rest with
    | some (token, more) => (tokensFrom fuel more).map (token :: ·)
    | none => none
  | fuel + 1, c :: rest => (tokensFrom fuel rest).map (.literal c :: ·)

def ofPiece (piece : Text) : Option PatternPiece :=
  if piece = "**" then some .directories
  else (tokensFrom piece.length piece).map .tokens

-- A slash in front only says where the search begins.
def origin (pattern : Text) : Text := if pattern.head? = some '/' then "/" else "."

def dropRoot : Text → Text
  | '/' :: rest => rest
  | pattern => pattern

-- The pieces between the slashes; one slash at the end opens no further piece, and nothing at all is
-- one empty piece.
def piecesOf (pattern : Text) : List Text :=
  let rest := dropRoot pattern
  let parts := rest.splitOn '/'
  if rest ≠ [] && parts.getLast? = some [] then parts.dropLast else parts

def ofPieces : List Text → Option (List PatternPiece)
  | [] => some []
  | piece :: rest =>
    match ofPiece piece, ofPieces rest with
    | some p, some ps => some (p :: ps)
    | _, _ => none

def parse (pattern : Text) : Option (List PatternPiece) := ofPieces (piecesOf pattern)

def inSpans (spans : List CharSpan) (c : Char) : Bool :=
  spans.any fun s => s.first ≤ c && c ≤ s.last

-- A text and everything that is left of it after dropping from its front, longest first.
def suffixes : Text → List Text
  | [] => [[]]
  | c :: rest => (c :: rest) :: suffixes rest

-- What one character more leaves of a text.
def takeChar (p : Char → Bool) : Text → Option Text
  | c :: rest => if p c then some rest else none
  | [] => none

-- What a token can leave of a name, given what could be left before it. What is left is always an
-- end of the name, longest first, so the first one covers what a star can leave.
def advance (rests : List Text) : PatternToken → List Text
  | .anyText =>
    match rests with
    | [] => []
    | longest :: _ => suffixes longest
  | .anyChar => rests.filterMap (takeChar fun _ => true)
  | .literal x => rests.filterMap (takeChar (· == x))
  | .oneOf spans => rests.filterMap (takeChar (inSpans spans))
  | .noneOf spans => rests.filterMap (takeChar (!inSpans spans ·))

-- A name is accepted when all tokens together can leave nothing of it.
def accepts (ts : List PatternToken) (name : Text) : Bool := (ts.foldl advance [name]).contains []

-- The text of a piece without wildcards.
def literal? : List PatternToken → Option Text
  | [] => some []
  | .literal c :: rest => (literal? rest).map (c :: ·)
  | _ :: _ => none

def isHere (path : Text) : Bool := Path.components path == [.here]

-- The working directory adds nothing to the names in it.
def under (path name : Text) : Text := if isHere path then name else Path.child path name

-- A directory that cannot be listed shows nothing.
def children (tree : FileTree) (path : Text) : List (Text × Text) :=
  match tree.list path with
  | .ok names => names.map fun name => (name, under path name)
  | .error _ => []

-- Everything below a path, as deep as the counter goes.
def descendants (tree : FileTree) : Nat → Text → List (Text × Text)
  | 0, _ => []
  | fuel + 1, path =>
    (children tree path).flatMap fun e => e :: descendants tree fuel e.2

-- A piece that begins with a dot may also stand for the directory itself or the one above.
def dots (ts : List PatternToken) (path : Text) : List Text :=
  if ts.head? = some (.literal '.') then
    ([".", ".."] : List Text).filterMap fun name =>
      if accepts ts name then some (Path.child path name) else none
  else []

-- What a piece without wildcards leads to.
def named (tree : FileTree) (path name : Text) : List Text :=
  if name = "." || name = ".." then if tree.isDirectory path then [under path name] else []
  else if tree.present (under path name) then [under path name] else []

-- The paths that one piece leads to.
def step (tree : FileTree) (path : Text) (ts : List PatternToken) : List Text :=
  match literal? ts with
  | some name => named tree path name
  | none =>
    match tree.list path with
    | .ok names => (names.filter (accepts ts)).map (under path) ++ dots ts path
    | .error _ => []

-- The paths that lead from a path along the pieces. Below `directories` every depth is tried, and
-- the next piece is matched against names only.
def expand (tree : FileTree) : List PatternPiece → Text → List Text
  | [], path => [path]
  | .tokens ts :: rest, path => (step tree path ts).flatMap fun next => expand tree rest next
  | [.directories], path => ((descendants tree tree.entries.length path).map (·.2)).filter tree.isDirectory
  | .directories :: .directories :: rest, path => expand tree (.directories :: rest) path
  | .directories :: .tokens ts :: rest, path =>
    ((descendants tree tree.entries.length path).filter (accepts ts ·.1)).flatMap fun e =>
      expand tree rest e.2

-- All that a pattern leads to, files and directories; a slash at the end asks for directories.
def matching (tree : FileTree) (pattern : Text) (pieces : List PatternPiece) : List Text :=
  let found := expand tree pieces (origin pattern)
  if pattern.getLast? = some '/' then found.filter tree.isDirectory else found

end Pattern
end ScriptDoc
