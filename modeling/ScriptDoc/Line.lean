import ScriptDoc.Text

namespace ScriptDoc

-- Documentation stands on lines that begin with two number signs.
def marker : Text := "##"

-- The marker and the one character after it are not part of what a line says.
def markerWidth : Nat := 3

structure MarkedLine where
  path : Text
  lineno : Nat
  text : Text
  deriving Repr, DecidableEq

def isIndent (c : Char) : Bool := c == ' ' || c == '\t'

-- Line feeds at the end and indentation do not count.
def bareLine (line : Text) : Text :=
  ((line.reverse.dropWhile (· == '\n')).reverse).dropWhile isIndent

def MarkedLine.ofLine? (path : Text) (lineno : Nat) (line : Text) : Option MarkedLine :=
  if marker.isPrefixOf (bareLine line) then some ⟨path, lineno, bareLine line⟩ else none

inductive LineShape where
  | tagValue | tag | value | invalid
  deriving Repr, DecidableEq

-- A documentation line after its tag has been told from its value. A line that is read always has
-- one of the two; the type does not say so.
structure DocLine where
  path : Text
  lineno : Nat
  tag : Option Text
  value : Option Text
  deriving Repr, DecidableEq

-- An empty value beside a tag counts as no value.
def DocLine.shape (line : DocLine) : LineShape :=
  match line.tag, line.value with
  | some _, some (_ :: _) => .tagValue
  | some _, _ => .tag
  | none, some _ => .value
  | none, none => .invalid

def isNameStart (c : Char) : Bool := c.isAlpha || c == '_'
def isNameChar (c : Char) : Bool := c.isAlphanum || c == '_' || c == '-'
def isTagSign (c : Char) : Bool := c == '\\' || c == '@'

-- A tag name in front, and what follows it. The name is as long as it can be.
def tagName? : Text → Option (Text × Text)
  | c :: rest =>
    if isNameStart c then some (c :: rest.takeWhile isNameChar, rest.dropWhile isNameChar) else none
  | [] => none

-- The tag and the value of what stands behind the marker: blanks, a sign, a name, and then either
-- nothing but blanks, or blanks and a value that ends the line. Anything else is no tag.
def tagOf? (content : Text) : Option (Text × Option Text) :=
  match content.dropWhile isBlank with
  | c :: rest =>
    if isTagSign c then
      match tagName? rest with
      | some (name, more) =>
        match more.dropWhile isBlank with
        | [] => some (name, none)
        | v :: value =>
          if more.head?.any isBlank && '\n' ∉ v :: value then some (name, some (v :: value)) else none
      | none => none
    else none
  | [] => none

def MarkedLine.content (line : MarkedLine) : Text := line.text.drop markerWidth

def MarkedLine.read (line : MarkedLine) : DocLine :=
  match tagOf? line.content with
  | some (name, value) => ⟨line.path, line.lineno, some name, value⟩
  | none => ⟨line.path, line.lineno, none, some line.content⟩

end ScriptDoc
