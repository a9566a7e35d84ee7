import ScriptDoc.Text

namespace ScriptDoc.Html

def escapeChar (c : Char) : Text :=
  if c = '&' then "&amp;"
  else if c = '<' then "&lt;"
  else if c = '>' then "&gt;"
  else if c = '"' then "&#34;"
  else if c = '\'' then "&#39;"
  else [c]

def escapeLine (line : Text) : Text := line.flatMap escapeChar

-- Lines that begin with one of the exempt texts stay as they are.
def escape (exempt : List Text) (t : Text) : Text :=
  Text.join "\n" ((t.splitOn '\n').map fun line =>
    if exempt.any (·.isPrefixOf line) then line else escapeLine line)

-- One line that cannot end its cell.
def cell (t : Text) : Text :=
  Text.replaceChar '\n' "<br>" (Text.replaceChar '|' "\\|" (escape [] t))

end ScriptDoc.Html
