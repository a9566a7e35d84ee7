import ScriptDoc.Json

namespace ScriptDoc.Json

def hexDigit (n : Nat) : Char := Nat.digitChar n

-- Only quotes, backslashes and control characters are escaped.
def escapeChar (c : Char) : Text :=
  if c = '"' then "\\\""
  else if c = '\\' then "\\\\"
  else if c = '\x08' then "\\b"
  else if c = '\x0c' then "\\f"
  else if c = '\n' then "\\n"
  else if c = '\r' then "\\r"
  else if c = '\t' then "\\t"
  else if c.toNat < 32 then "\\u00" ++ [hexDigit (c.toNat / 16), hexDigit (c.toNat % 16)]
  else [c]

def stringText (t : Text) : Text := "\"" ++ t.flatMap escapeChar ++ "\""

def boolText (b : Bool) : Text := if b then "true" else "false"

-- Without any space.
mutual
def compact : Json → Text
  | .null => "null"
  | .bool b => boolText b
  | .number n => n.text
  | .string t => stringText t
  | .array items => "[" ++ compactItems items ++ "]"
  | .object members => "\x7b" ++ compactMembers members ++ "\x7d"

def compactItems : List Json → Text
  | [] => []
  | [v] => compact v
  | v :: w :: rest => compact v ++ "," ++ compactItems (w :: rest)

def compactMembers : List (Text × Json) → Text
  | [] => []
  | [(k, v)] => stringText k ++ ":" ++ compact v
  | (k, v) :: m :: rest => stringText k ++ ":" ++ compact v ++ "," ++ compactMembers (m :: rest)
end

def newline (depth : Nat) : Text := "\n" ++ Text.spaces (2 * depth)

-- One item or member a line, two spaces deeper than what holds it.
mutual
def prettyAt (depth : Nat) : Json → Text
  | .null => "null"
  | .bool b => boolText b
  | .number n => n.text
  | .string t => stringText t
  | .array [] => "[]"
  | .array (v :: rest) =>
    "[" ++ prettyItems (depth + 1) (v :: rest) ++ newline depth ++ "]"
  | .object [] => "\x7b\x7d"
  | .object (m :: rest) =>
    "\x7b" ++ prettyMembers (depth + 1) (m :: rest) ++ newline depth ++ "\x7d"

def prettyItems (depth : Nat) : List Json → Text
  | [] => []
  | [v] => newline depth ++ prettyAt depth v
  | v :: w :: rest => newline depth ++ prettyAt depth v ++ "," ++ prettyItems depth (w :: rest)

def prettyMembers (depth : Nat) : List (Text × Json) → Text
  | [] => []
  | [(k, v)] => newline depth ++ stringText k ++ ": " ++ prettyAt depth v
  | (k, v) :: m :: rest =>
    newline depth ++ stringText k ++ ": " ++ prettyAt depth v ++ "," ++ prettyMembers depth (m :: rest)
end

def pretty (v : Json) : Text := prettyAt 0 v

end ScriptDoc.Json
