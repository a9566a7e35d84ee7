import ScriptDoc.Fault
import ScriptDoc.Text.Quoted

namespace ScriptDoc

-- Why a run ends without success.
inductive Failure where
  | unreadable (path : Text) (fault : ReadFault)
  | contextArgument (argument : Text)
  | contextFile (path : Text)
  | unknownTemplate (name : Text)
  | unlisted (path : Text)
  | invalidPattern (pattern : Text)
  | noDirectory (path : Text)
  | unwritable (path : Text)
  deriving Repr, DecidableEq

def Failure.message : Failure → Text
  | .unreadable path fault => "failed to read " ++ path ++ ": " ++ fault.message
  | .contextArgument argument => "invalid context argument " ++ argument.quoted
  | .contextFile path => "invalid context file " ++ path
  | .unknownTemplate name =>
    "unknown template: " ++ name
      ++ ". Use helptext, usagetext, manpage, markdown, wikipage or json"
  | .unlisted path => "failed to read directory: " ++ path
  | .invalidPattern pattern => "invalid glob pattern: " ++ pattern
  | .noDirectory path => "failed to create output directory: " ++ path
  | .unwritable path => "failed to write " ++ path

end ScriptDoc
