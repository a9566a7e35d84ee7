import ScriptDoc.Context
import ScriptDoc.Document
import ScriptDoc.Inputs
import ScriptDoc.Json.Parser
import ScriptDoc.Json.Printer
import ScriptDoc.Main
import ScriptDoc.Markup.Groff
import ScriptDoc.Markup.Html
import ScriptDoc.Polling
import ScriptDoc.Proofs.ArgumentOverlay
import ScriptDoc.Proofs.ContextLayers
import ScriptDoc.Proofs.ContextLoading
import ScriptDoc.Proofs.Cursors
import ScriptDoc.Proofs.DataPage
import ScriptDoc.Proofs.Delivery
import ScriptDoc.Proofs.DescriptionColumn
import ScriptDoc.Proofs.Encoding
import ScriptDoc.Proofs.FirstFault
import ScriptDoc.Proofs.FlagReading
import ScriptDoc.Proofs.FlagSpelling
import ScriptDoc.Proofs.FontMarkup
import ScriptDoc.Proofs.Grouping
import ScriptDoc.Proofs.InputOrder
import ScriptDoc.Proofs.LineGrammar
import ScriptDoc.Proofs.ManPageHeader
import ScriptDoc.Proofs.ManPageRequests
import ScriptDoc.Proofs.Merging
import ScriptDoc.Proofs.OptionHeadings
import ScriptDoc.Proofs.OptionListings
import ScriptDoc.Proofs.PathOrder
import ScriptDoc.Proofs.PathPlaces
import ScriptDoc.Proofs.PatternPaths
import ScriptDoc.Proofs.Placeholders
import ScriptDoc.Proofs.Placement
import ScriptDoc.Proofs.RecordFields
import ScriptDoc.Proofs.Regrouping
import ScriptDoc.Proofs.Relisting
import ScriptDoc.Proofs.SectionKinds
import ScriptDoc.Proofs.StablePartition
import ScriptDoc.Proofs.StreamDecoding
import ScriptDoc.Proofs.TableRows
import ScriptDoc.Proofs.UnknownTags
import ScriptDoc.Proofs.Updating
import ScriptDoc.Proofs.UsageAlignment
import ScriptDoc.Proofs.VerbatimText
import ScriptDoc.Proofs.WrapLoops
import ScriptDoc.Proofs.WrappedText
import ScriptDoc.Run
import ScriptDoc.Template
import ScriptDoc.Text.LetterCase
import ScriptDoc.Text.Quoted
import ScriptDoc.Text.Utf8
import ScriptDoc.Text.Word
import ScriptDoc.Wrap
