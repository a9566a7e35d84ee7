import ScriptDoc.Pattern
import ScriptDoc.Proofs.TextLines

-- Which names a piece of a pattern accepts.
namespace ScriptDoc.PatternNames
open Pattern TextLines

inductive Takes : PatternToken → Text → Prop where
  | literal (c : Char) : Takes (.literal c) [c]
  | anyChar (c : Char) : Takes .anyChar [c]
  | anyText (t : Text) : Takes .anyText t
  | oneOf {spans : List CharSpan} {c : Char} (inside : inSpans spans c = true) : Takes (.oneOf spans) [c]
  | noneOf {spans : List CharSpan} {c : Char} (outside : inSpans spans c = false) : Takes (.noneOf spans) [c]

-- A name that is made of what the tokens take, one after the other.
inductive Accepted : List PatternToken → Text → Prop where
  | nil : Accepted [] []
  | cons {token : PatternToken} {ts : List PatternToken} {front back : Text} (takes : Takes token front)
      (more : Accepted ts back) : Accepted (token :: ts) (front ++ back)

-- Ends of one text, longest first.
def Nested (rests : List Text) : Prop := rests.Pairwise fun longer shorter => shorter <:+ longer

end ScriptDoc.PatternNames
