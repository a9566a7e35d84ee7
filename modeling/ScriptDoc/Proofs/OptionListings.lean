import ScriptDoc.Proofs.FontMarkup
import ScriptDoc.Proofs.TableRows

-- The options of a document line by line, as the man page and the wiki page list them.
namespace ScriptDoc.OptionListings
open TextLines PageLines OptionGroups GroffLines ManPageParts ManPageRequests ReachedDocuments TableRows ByteOrder

section Manual
open ManPage

end Manual

section Wiki
open WikiPage

end Wiki

def alternating : Text :=
  "## \\option -a\n## \\option-group Z\n## \\option -b\n## \\option-group A\n"
    ++ "## \\option -c\n## \\option-group Z\n## \\option -d\n"

end ScriptDoc.OptionListings
