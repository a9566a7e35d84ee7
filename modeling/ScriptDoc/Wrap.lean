import ScriptDoc.Text

-- Prose is cut into lines of words first; only then the lines become text.
namespace ScriptDoc

-- Greedy filling: a word goes on the open line while there is room for a space and the word. The
-- number says how long the open line is, its indent included.
def fillFrom (width next : Nat) : Nat → List Text → List Text → List (List Text)
  | _, line, [] => [line]
  | used, line, word :: rest =>
    if used + 1 + word.length > width then
      line :: fillFrom width next (next + word.length) [word] rest
    else fillFrom width next (used + 1 + word.length) (line ++ [word]) rest

-- The first line and the others begin after indents of their own. The first word of a line is put
-- there whatever its length; no words give no line.
def fill (width first next : Nat) : List Text → List (List Text)
  | [] => []
  | word :: rest => fillFrom width next (first + word.length) [word] rest

def lineText (indent : Nat) (line : List Text) : Text := Text.spaces indent ++ Text.join " " line

def linesText (first next : Nat) : List (List Text) → Text
  | [] => []
  | line :: rest => Text.join "\n" (lineText first line :: rest.map (lineText next))

def fillText (width first next : Nat) (words : List Text) : Text :=
  linesText first next (fill width first next words)

inductive Paragraph where
  | blank
  | verbatim (line : Text)
  | prose (lines : List Text)
  deriving Repr, DecidableEq

def isIndented : Text → Bool
  | c :: _ => c == ' ' || c == '\t'
  | [] => false

-- Indented lines stand by themselves, and so do empty ones; the others run together.
def paragraphs : List Text → List Paragraph
  | [] => []
  | line :: rest =>
    if line = [] then .blank :: paragraphs rest
    else if isIndented line then .verbatim line :: paragraphs rest
    else match paragraphs rest with
      | .prose lines :: more => .prose (line :: lines) :: more
      | others => .prose [line] :: others

-- Prose whose first line begins elsewhere is filled to what the indent leaves of the width.
def Paragraph.layout (indent width : Nat) (hanging : Bool) : Paragraph → Text
  | .blank => []
  | .verbatim line => Text.spaces indent ++ line
  | .prose lines =>
    if hanging then fillText (width - indent) 0 indent (lines.flatMap Text.words)
    else fillText width indent indent (lines.flatMap Text.words)

def layoutAll (indent width : Nat) (hanging : Bool) : List Paragraph → List Text
  | [] => []
  | p :: rest => p.layout indent width hanging :: rest.map (·.layout indent width false)

-- Prose is filled again, everything else keeps its lines. Without `indentFirst` prose in front
-- begins without the indent.
def wrap (t : Text) (indent width : Nat) (indentFirst : Bool) : Text :=
  Text.join "\n" (layoutAll indent width (!indentFirst) (paragraphs (t.splitOn '\n')))

end ScriptDoc
