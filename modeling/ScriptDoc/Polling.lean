import ScriptDoc.Source

-- Reading one item at a time, with the state kept between the calls.
namespace ScriptDoc

def poll {σ α : Type} (next : σ → Option α × σ) : Nat → σ → List (Option α)
  | 0, _ => []
  | n + 1, s => (next s).1 :: poll next n (next s).2

-- The state between two marked lines.
inductive MarkCursor (ε : Type) where
  | reading (lineno : Nat) (pending : Source ε)
  | stopped

namespace MarkCursor
variable {ε : Type}

def start (source : Source ε) : MarkCursor ε := .reading 0 source

def scan (path : Text) : Nat → Source ε → Option (Except ε MarkedLine) × MarkCursor ε
  | n, [] => (none, .reading n [])
  | _, .error e :: _ => (some (.error e), .stopped)
  | n, .ok line :: rest =>
    match MarkedLine.ofLine? path (n + 1) line with
    | some m => (some (.ok m), .reading (n + 1) rest)
    | none => scan path (n + 1) rest

def next (path : Text) : MarkCursor ε → Option (Except ε MarkedLine) × MarkCursor ε
  | .reading n pending => scan path n pending
  | .stopped => (none, .stopped)

end MarkCursor

-- The state between two blocks: the block that is open, and where the lines are.
inductive BlockCursor (ε : Type) where
  | reading (lineno : Nat) (current : Option Block) (pending : Source ε)
  | stopped

namespace BlockCursor
variable {ε : Type}

def start (source : Source ε) : BlockCursor ε := .reading 0 none source

-- Runs until a block is closed, the lines end or a fault comes.
def scan (path : Text) :
    Nat → Option Block → Source ε → Option (Except ε Block) × BlockCursor ε
  | _, current, [] => (current.map .ok, .stopped)
  | _, _, .error e :: _ => (some (.error e), .stopped)
  | n, current, .ok line :: rest =>
    match MarkedLine.ofLine? path (n + 1) line, current with
    | none, _ => scan path (n + 1) current rest
    | some m, none => scan path (n + 1) (some (.single m.read)) rest
    | some m, some b =>
      if b.takes m.read then scan path (n + 1) (some (b.push m.read)) rest
      else (some (.ok b), .reading (n + 1) (some (.single m.read)) rest)

def next (path : Text) : BlockCursor ε → Option (Except ε Block) × BlockCursor ε
  | .reading n current pending => scan path n current pending
  | .stopped => (none, .stopped)

end BlockCursor
end ScriptDoc
