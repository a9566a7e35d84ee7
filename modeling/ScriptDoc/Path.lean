import ScriptDoc.Text

-- Paths as they are written, without asking whether anything is there.
namespace ScriptDoc.Path

inductive Component where
  | root
  | here
  | up
  | name (t : Text)
  deriving Repr, DecidableEq

-- Pieces that do not move.
def isIdle (piece : Text) : Bool := piece == [] || piece == "."

-- What a directory can call something that is in it.
def isName (name : Text) : Bool := !isIdle name && name != ".." && !name.contains '/'

def ofPiece (piece : Text) : Component := if piece = ".." then .up else .name piece

-- Idle pieces count only in front: nothing before the first slash is the root, a dot is the place
-- where one stands.
def components (t : Text) : List Component :=
  match t.splitOn '/' with
  | [] => []
  | first :: rest =>
    (if first = [] then if rest = [] then [] else [.root]
      else if first = "." then [.here] else [ofPiece first])
      ++ (rest.filter (!isIdle ·)).map ofPiece

def same (a b : Text) : Bool := components a == components b

def Component.rank : Component → Nat
  | .root => 0
  | .here => 1
  | .up => 2
  | .name _ => 3

def Component.le : Component → Component → Bool
  | .name a, .name b => Text.le a b
  | a, b => a.rank ≤ b.rank

def componentsLe : List Component → List Component → Bool
  | [], _ => true
  | _ :: _, [] => false
  | a :: as, b :: bs => if a = b then componentsLe as bs else a.le b

-- Component by component, a path before those that go on from it.
def le (a b : Text) : Bool := componentsLe (components a) (components b)

def fileName (t : Text) : Option Text :=
  match (components t).getLast? with
  | some (.name name) => some name
  | _ => none

-- The parts before and after the last dot; a dot in front divides nothing.
def splitExtension (name : Text) : Text × Option Text :=
  match Text.cut '.' name.reverse with
  | some (_, []) => (name, none)
  | some (extension, stem) => (stem.reverse, some extension.reverse)
  | none => (name, none)

def stem (t : Text) : Option Text := (fileName t).map fun name => (splitExtension name).1
def extension (t : Text) : Option Text := (fileName t).bind fun name => (splitExtension name).2

-- Drops idle pieces at the end; the first piece stays unless it is empty.
def trimPieces : List Text → List Text
  | [] => []
  | first :: rest =>
    match (rest.reverse.dropWhile isIdle).reverse with
    | [] => if first = [] then [] else [first]
    | kept => first :: kept

-- The path without its last component, as it is written.
def parent (t : Text) : Option Text :=
  match trimPieces (t.splitOn '/') with
  | [] => none
  | pieces =>
    match trimPieces pieces.dropLast with
    | [] => some (if t.head? = some '/' then ['/'] else [])
    | left => some (Text.join "/" left)

def child (t name : Text) : Text :=
  match t.getLast? with
  | none => name
  | some c => if c = '/' then t ++ name else t ++ "/" ++ name

end ScriptDoc.Path
