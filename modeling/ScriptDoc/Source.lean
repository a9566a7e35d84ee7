import ScriptDoc.Block
import ScriptDoc.Fault
import ScriptDoc.Text.Utf8

-- Where lines come from: each item is a line or the reason why it could not be read. Reading ends at
-- the first such reason.
namespace ScriptDoc

abbrev Source (ε : Type) := List (Except ε Text)

namespace Source

def ofText {ε : Type} (t : Text) : Source ε := t.lines.map .ok

-- Bytes are cut into lines first, and each line is decoded by itself.
def ofBytes (bytes : Utf8.Bytes) : Source ReadFault :=
  (closeLines 13 (pieces (· == 10) bytes)).map fun line =>
    match Utf8.decode line with
    | some t => .ok t
    | none => .error .notUtf8

variable {ε : Type}

-- The marked lines, numbered by their place among all lines.
def markedFrom (path : Text) : Nat → Source ε → List (Except ε MarkedLine)
  | _, [] => []
  | _, .error e :: _ => [.error e]
  | n, .ok line :: rest =>
    match MarkedLine.ofLine? path (n + 1) line with
    | some m => .ok m :: markedFrom path (n + 1) rest
    | none => markedFrom path (n + 1) rest

def marked (path : Text) (source : Source ε) : List (Except ε MarkedLine) := markedFrom path 0 source

-- A fault loses the block that is open when it comes.
def groupFrom : Option Block → List (Except ε MarkedLine) → List (Except ε Block)
  | none, [] => []
  | some b, [] => [.ok b]
  | _, .error e :: _ => [.error e]
  | none, .ok m :: rest => groupFrom (some (.single m.read)) rest
  | some b, .ok m :: rest =>
    if b.takes m.read then groupFrom (some (b.push m.read)) rest
    else .ok b :: groupFrom (some (.single m.read)) rest

def blocks (path : Text) (source : Source ε) : List (Except ε Block) :=
  groupFrom none (source.marked path)

end Source

-- Blocks of a text in memory; nothing can fail there.
def Text.marked (path t : Text) : List MarkedLine :=
  t.lines.zipIdx.filterMap fun (line, n) => MarkedLine.ofLine? path (n + 1) line

def Text.blocks (path t : Text) : List Block := blocksOf ((Text.marked path t).map (·.read))

end ScriptDoc
