import ScriptDoc.Json

-- Strict reading: no trailing commas, comments or raw control characters. Each reader takes what it
-- reads off the front of a text.
namespace ScriptDoc.Json

def isSpace (c : Char) : Bool := c == ' ' || c == '\t' || c == '\n' || c == '\r'

def skipSpace (t : Text) : Text := t.dropWhile isSpace

def hexValue? (c : Char) : Option Nat :=
  if c.isDigit then some (c.toNat - '0'.toNat)
  else if 'a' ≤ c && c ≤ 'f' then some (c.toNat - 'a'.toNat + 10)
  else if 'A' ≤ c && c ≤ 'F' then some (c.toNat - 'A'.toNat + 10)
  else none

def unit? (a b c d : Char) : Option Nat := do
  some (((← hexValue? a) * 16 + (← hexValue? b)) * 256 + (← hexValue? c) * 16 + (← hexValue? d))

def isHighUnit (n : Nat) : Bool := 0xD800 ≤ n && n ≤ 0xDBFF
def isLowUnit (n : Nat) : Bool := 0xDC00 ≤ n && n ≤ 0xDFFF

def plainEscape? (c : Char) : Option Char :=
  if c = '"' || c = '\\' || c = '/' then some c
  else if c = 'b' then some '\x08'
  else if c = 'f' then some '\x0c'
  else if c = 'n' then some '\n'
  else if c = 'r' then some '\r'
  else if c = 't' then some '\t'
  else none

-- What stands between the quotes, after the opening one.
def readString : Text → Option (Text × Text)
  | [] => none
  | '"' :: rest => some ([], rest)
  | '\\' :: 'u' :: a :: b :: c :: d :: rest =>
    match unit? a b c d with
    | none => none
    | some n =>
      if isLowUnit n then none
      else if isHighUnit n then
        match rest with
        | '\\' :: 'u' :: e :: f :: g :: h :: more =>
          match unit? e f g h with
          | none => none
          | some m =>
            if isLowUnit m then
              (readString more).map fun p =>
                (Char.ofNat (0x10000 + (n - 0xD800) * 1024 + (m - 0xDC00)) :: p.1, p.2)
            else none
        | _ => none
      else (readString rest).map fun p => (Char.ofNat n :: p.1, p.2)
  | '\\' :: c :: rest =>
    match plainEscape? c with
    | some e => (readString rest).map fun p => (e :: p.1, p.2)
    | none => none
  | c :: rest =>
    if c.toNat < 32 || c = '\\' then none else (readString rest).map fun p => (c :: p.1, p.2)

-- The first number bounds the calls, the second the levels that may still be opened.
mutual
def readValue : Nat → Nat → Text → Option (Json × Text)
  | 0, _, _ => none
  | fuel + 1, depth, t =>
    match skipSpace t with
    | [] => none
    | '"' :: rest => (readString rest).map fun p => (.string p.1, p.2)
    | '[' :: rest =>
      if depth = 0 then none
      else match skipSpace rest with
        | ']' :: more => some (.array [], more)
        | more => (readItems fuel (depth - 1) more).map fun p => (.array p.1, p.2)
    | '\x7b' :: rest =>
      if depth = 0 then none
      else match skipSpace rest with
        | '\x7d' :: more => some (.object [], more)
        | more => (readMembers fuel (depth - 1) [] more).map fun p => (.object p.1, p.2)
    | 'n' :: 'u' :: 'l' :: 'l' :: rest => some (.null, rest)
    | 't' :: 'r' :: 'u' :: 'e' :: rest => some (.bool true, rest)
    | 'f' :: 'a' :: 'l' :: 's' :: 'e' :: rest => some (.bool false, rest)
    | other => (Number.read other).map fun p => (.number p.1, p.2)

-- The items up to the closing bracket.
def readItems : Nat → Nat → Text → Option (List Json × Text)
  | 0, _, _ => none
  | fuel + 1, depth, t =>
    match readValue fuel depth t with
    | none => none
    | some (v, rest) =>
      match skipSpace rest with
      | ',' :: more => (readItems fuel depth more).map fun p => (v :: p.1, p.2)
      | ']' :: more => some ([v], more)
      | _ => none

-- The members up to the closing brace, added to those already read. The last value of a name counts.
def readMembers : Nat → Nat → List (Text × Json) → Text → Option (List (Text × Json) × Text)
  | 0, _, _, _ => none
  | fuel + 1, depth, found, t =>
    match skipSpace t with
    | '"' :: rest =>
      match readString rest with
      | none => none
      | some (name, rest) =>
        match skipSpace rest with
        | ':' :: rest =>
          match readValue fuel depth rest with
          | none => none
          | some (v, rest) =>
            match skipSpace rest with
            | ',' :: more => readMembers fuel depth (put name v found) more
            | '\x7d' :: more => some (put name v found, more)
            | _ => none
        | _ => none
    | _ => none
end

-- How many levels of arrays and objects may be open at once.
def maxDepth : Nat := 127

def parse (t : Text) : Option Json :=
  match readValue (2 * t.length + 2) maxDepth t with
  | some (v, rest) => if skipSpace rest = [] then some v else none
  | none => none

def parseObject (t : Text) : Option (List (Text × Json)) :=
  match parse t with
  | some (.object members) => some members
  | _ => none

end ScriptDoc.Json
