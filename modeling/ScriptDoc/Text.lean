import ScriptDoc.Text.Blank

namespace ScriptDoc

-- Texts are lists of characters; a string literal stands for one where a text is expected.
abbrev Text := List Char

instance : Coe String Text := ⟨String.toList⟩

-- The pieces between the separators, one more than there are separators; never the empty list.
def pieces {α : Type} (sep : α → Bool) : List α → List (List α)
  | [] => [[]]
  | a :: rest =>
    if sep a then [] :: pieces sep rest
    else match pieces sep rest with
      | [] => [[a]]
      | piece :: more => (a :: piece) :: more

-- Drops one given element at the very end, if it is there.
def dropFinal {α : Type} [DecidableEq α] (a : α) (l : List α) : List α :=
  if l.getLast? = some a then l.dropLast else l

-- What was cut at line feeds becomes lines: a carriage return right before a line feed is dropped,
-- and the piece after the last line feed is a line only when it is not empty.
def closeLines {α : Type} [DecidableEq α] (cr : α) : List (List α) → List (List α)
  | [] => []
  | [last] => if last = [] then [] else [last]
  | line :: next :: rest => dropFinal cr line :: closeLines cr (next :: rest)

namespace Text

def lines (t : Text) : List Text := closeLines '\r' (pieces (· == '\n') t)

def splitOn (sep : Char) (t : Text) : List Text := pieces (· == sep) t

-- Maximal runs of non-blank characters.
def words (t : Text) : List Text := (pieces isBlank t).filter (· ≠ [])

def join (sep : Text) : List Text → Text
  | [] => []
  | [t] => t
  | t :: u :: rest => t ++ sep ++ join sep (u :: rest)

-- One text for each item, one after another.
def each {α : Type} (items : List α) (f : α → Text) : Text := items.flatMap f

-- Something said only when a given text is not empty.
def given (t shown : Text) : Text := if t = [] then [] else shown

-- The parts before and after the first separator.
def cut (sep : Char) : Text → Option (Text × Text)
  | [] => none
  | c :: rest =>
    if c = sep then some ([], rest) else (cut sep rest).map fun p => (c :: p.1, p.2)

-- The same for a separator of several characters; the empty one is found in front.
def cutAt (sep : Text) : Text → Option (Text × Text)
  | [] => if sep = [] then some ([], []) else none
  | c :: rest =>
    if sep.isPrefixOf (c :: rest) then some ([], (c :: rest).drop sep.length)
    else (cutAt sep rest).map fun p => (c :: p.1, p.2)

-- What follows a given beginning.
def after (start t : Text) : Option Text :=
  if start.isPrefixOf t then some (t.drop start.length) else none

def trimStart (t : Text) : Text := t.dropWhile isBlank
def trimEnd (t : Text) : Text := (t.reverse.dropWhile isBlank).reverse
def trim (t : Text) : Text := trimEnd (trimStart t)

def replaceChar (old : Char) (new : Text) (t : Text) : Text :=
  t.flatMap fun c => if c = old then new else [c]

-- Leftmost occurrences that do not overlap. The counter is what is still to be passed over of an
-- occurrence that has been replaced. Not meant for an empty text to find.
def replaceFrom (old new : Text) : Nat → Text → Text
  | _, [] => []
  | skip + 1, _ :: rest => replaceFrom old new skip rest
  | 0, c :: rest =>
    if old.isPrefixOf (c :: rest) then new ++ replaceFrom old new (old.length - 1) rest
    else c :: replaceFrom old new 0 rest

def replace (old new : Text) (t : Text) : Text := replaceFrom old new 0 t

-- What stands before the first of some characters.
def firstWord (delimiters t : Text) : Text := t.takeWhile fun c => c ∉ delimiters

def firstLine (t : Text) : Text := t.takeWhile (· ≠ '\n')

-- What stands behind the first delimiter, nothing without one.
def body (delimiter t : Text) : Text := ((cutAt delimiter t).map (·.2)).getD []

-- Maximal runs of characters that agree on a class, each with its side.
def runs (p : Char → Bool) : Text → List (Bool × Text)
  | [] => []
  | c :: rest =>
    match runs p rest with
    | [] => [(p c, [c])]
    | (b, run) :: more =>
      if p c = b then (b, c :: run) :: more else (p c, [c]) :: (b, run) :: more

def spaces (n : Nat) : Text := List.replicate n ' '

def ofNat (n : Nat) : Text := Nat.toDigits 10 n

-- Texts are ordered by their code points, which is also the order of their encoded bytes.
def le : Text → Text → Bool
  | [], _ => true
  | _ :: _, [] => false
  | c :: rest, d :: other => c.toNat < d.toNat || (c == d && le rest other)

end Text
end ScriptDoc
