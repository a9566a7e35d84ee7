import ScriptDoc.Proofs.AskedFiles
import ScriptDoc.Proofs.PathOrder
import ScriptDoc.Proofs.PathPlaces
import ScriptDoc.Proofs.UnknownTags
import ScriptDoc.Run

-- Arguments are a set of wishes: their order and number, and the order in which a directory is listed,
-- decide at most how a path is spelled.
namespace ScriptDoc.InputOrder
open Inputs Run Relisting AskedFiles PathOrder PathPlaces TreeWalks

section Documents
open MarkedLines ReadSections ReachedDocuments UnknownTags

end Documents

section Runs
variable {tree other : FileTree} {first second : List Text}

end Runs

end ScriptDoc.InputOrder
