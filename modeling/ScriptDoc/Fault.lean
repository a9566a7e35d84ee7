import ScriptDoc.Text

namespace ScriptDoc

-- Why something could not be read.
inductive ReadFault where
  | notFound
  | notDirectory
  | isDirectory
  | denied
  | notUtf8
  deriving Repr, DecidableEq

def ReadFault.message : ReadFault → Text
  | .notFound => "No such file or directory (os error 2)"
  | .notDirectory => "Not a directory (os error 20)"
  | .isDirectory => "Is a directory (os error 21)"
  | .denied => "Permission denied (os error 13)"
  | .notUtf8 => "stream did not contain valid UTF-8"

end ScriptDoc
