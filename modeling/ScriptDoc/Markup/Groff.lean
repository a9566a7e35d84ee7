import ScriptDoc.Text
import ScriptDoc.Text.Word

-- Text as it stands in a man page.
namespace ScriptDoc.Groff

def escapeChar (c : Char) : Text :=
  if c = '-' then "\\-"
  else if c = '\'' then "\\'"
  else if c = '"' then "\\\""
  else if c = '.' then "\\."
  else if c = '$' then "\\f$"
  else [c]

def escape (t : Text) : Text := t.flatMap escapeChar

def strong (t : Text) : Text := "\\fB" ++ t ++ "\\fR"
def emphasis (t : Text) : Text := "\\fI" ++ t ++ "\\fR"

def isCapital (c : Char) : Bool := c.isUpper || c == '_' || c.isDigit

-- Whole words of two or more capitals, digits and underscores are emphasized.
def isLoud (word : Text) : Bool := 2 ≤ word.length && word.all isCapital

def autoEmphasis (t : Text) : Text :=
  (t.runs isWord).flatMap fun (inWord, run) =>
    if inWord && isLoud run then emphasis run else run

def isFlagChar (c : Char) : Bool := isWord c || c == '-'

-- In a run of flag characters, the flag begins at the first dash and needs one character more.
def flagParts (run : Text) : Option (Text × Text) :=
  let flag := run.dropWhile (· ≠ '-')
  if 2 ≤ flag.length then some (run.takeWhile (· ≠ '-'), flag) else none

-- A flag takes an equals sign right behind it with it.
def strongRuns : List (Bool × Text) → Text
  | [] => []
  | (false, run) :: rest => run ++ strongRuns rest
  | (true, run) :: rest =>
    match flagParts run with
    | none => run ++ strongRuns rest
    | some (before, flag) =>
      before ++
        match rest with
        | (_, '=' :: more) :: others => strong (flag ++ "=") ++ more ++ strongRuns others
        | [] => strong flag
        | (side, other) :: others => strong flag ++ strongRuns ((side, other) :: others)

def autoStrong (t : Text) : Text := strongRuns (t.runs isFlagChar)

def auto (t : Text) : Text := autoStrong (autoEmphasis t)

def autoEscaped (t : Text) : Text := escape (auto t)

-- A leading dot or quote would make a line a request.
def guardLine (line : Text) : Text :=
  match Text.replaceChar '\\' "\\\\" line with
  | c :: rest => if c = '.' || c = '\'' then "\\&" ++ c :: rest else c :: rest
  | [] => []

def verbatim (t : Text) : Text := Text.join "\n" (t.lines.map guardLine)

end ScriptDoc.Groff
