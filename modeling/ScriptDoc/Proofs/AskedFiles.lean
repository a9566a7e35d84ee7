import ScriptDoc.Inputs
import ScriptDoc.Proofs.PatternPaths
import ScriptDoc.Proofs.Relisting

-- Which files arguments ask for, said for each argument by itself.
namespace ScriptDoc.AskedFiles
open Inputs Relisting TreeWalks PathPlaces PatternPaths

section Arguments
variable {tree : FileTree} {argument : Text}

end Arguments

section Listings
variable {tree other : FileTree} {argument : Text}

end Listings

end ScriptDoc.AskedFiles
