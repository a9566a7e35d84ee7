import ScriptDoc.Text
import ScriptDoc.Text.Word

namespace ScriptDoc

-- What an option line names: a short flag, a long flag and what follows them. Each may be empty.
structure Flag where
  short : Text
  long : Text
  positional : Text
  deriving Repr, DecidableEq

namespace Flag

def isLongChar (c : Char) : Bool := isWord c || c == '-'

-- A dash and one word character.
def takeShort : Text → Text × Text
  | '-' :: c :: rest => if isWord c then (['-', c], rest) else ([], '-' :: c :: rest)
  | t => ([], t)

def skipComma : Text → Text
  | ',' :: ' ' :: rest => rest
  | t => t

-- Two dashes and as many word characters and dashes as there are, at least one.
def takeLong : Text → Text × Text
  | '-' :: '-' :: rest =>
    if rest.head?.any isLongChar then
      ('-' :: '-' :: rest.takeWhile isLongChar, rest.dropWhile isLongChar)
    else ([], '-' :: '-' :: rest)
  | t => ([], t)

def skipSpace : Text → Text
  | ' ' :: rest => rest
  | t => t

-- Every part may be missing, so each one takes what it can, from left to right. The positional part
-- stops at a line feed.
def ofText (t : Text) : Flag :=
  let short := takeShort t
  let long := takeLong (skipComma short.2)
  ⟨short.1, long.1, (skipSpace long.2).takeWhile (· ≠ '\n')⟩

-- The flag column. A long flag alone is aligned with those behind a short one.
def signature (f : Flag) : Text :=
  (if f.short ≠ [] then
    f.short ++ (if f.long ≠ [] then ", " else if f.positional ≠ [] then " " else "")
  else if f.long ≠ [] then "    " else "")
  ++ (if f.long ≠ [] then f.long ++ (if f.positional ≠ [] then " " else "") else "")
  ++ f.positional

end Flag
end ScriptDoc
