import ScriptDoc.Line

namespace ScriptDoc

-- Consecutive documentation lines about one thing. There is always a first line.
structure Block where
  first : DocLine
  rest : List DocLine
  deriving Repr, DecidableEq

namespace Block

def single (line : DocLine) : Block := ⟨line, []⟩
def push (b : Block) (line : DocLine) : Block := ⟨b.first, b.rest ++ [line]⟩
def lines (b : Block) : List DocLine := b.first :: b.rest

-- The leading tag; untagged blocks go by the empty name.
def tag (b : Block) : Text := b.first.tag.getD []
def values (b : Block) : List (Option Text) := b.lines.map (·.value)

end Block

-- A name extends its parent by a dash and anything after it; no name extends itself.
def isSubtag (tag parent : Text) : Bool :=
  match Text.after parent tag with
  | some ('-' :: _) => true
  | _ => false

-- A block takes untagged lines and lines with a sub-tag of its own tag.
def Block.takes (b : Block) (line : DocLine) : Bool :=
  match line.tag with
  | some tag => isSubtag tag b.tag
  | none => true

-- The blocks of a list of lines, given the block that is open before it.
def blocksFrom : Option Block → List DocLine → List Block
  | none, [] => []
  | some b, [] => [b]
  | none, line :: rest => blocksFrom (some (.single line)) rest
  | some b, line :: rest =>
    if b.takes line then blocksFrom (some (b.push line)) rest
    else b :: blocksFrom (some (.single line)) rest

def blocksOf (lines : List DocLine) : List Block := blocksFrom none lines

end ScriptDoc
