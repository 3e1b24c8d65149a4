import Formwork.Data.Cell
import Formwork.Data.Connections
import Formwork.Data.Row
import Formwork.Data.Select
import Formwork.Decimal.Binary
import Formwork.Decimal.Gathered
import Formwork.Decimal.Reading
import Formwork.Decimal.Rounding
import Formwork.Decimal.Shortest
import Formwork.Decimal.Style
import Formwork.Desk.Assets
import Formwork.Desk.Basic
import Formwork.Desk.Display
import Formwork.Desk.Record
import Formwork.Desk.Saved
import Formwork.Diagnostics
import Formwork.Digest.Sha256
import Formwork.Failure
import Formwork.Files.Path
import Formwork.Files.Tree
import Formwork.Form.Basic
import Formwork.Form.Binding
import Formwork.Form.Catalog
import Formwork.Form.Field
import Formwork.Form.Kind
import Formwork.Form.Processor
import Formwork.Form.Registry
import Formwork.Form.Snapshot
import Formwork.Form.Widget
import Formwork.Html
import Formwork.Json.Basic
import Formwork.Json.Decode
import Formwork.Json.Printer
import Formwork.Json.Reader
import Formwork.Page.FieldsLoop
import Formwork.Page.Options
import Formwork.Page.Render
import Formwork.Page.RowLoop
import Formwork.Page.Sections
import Formwork.Page.State
import Formwork.Page.Tags
import Formwork.Proofs.Abreast
import Formwork.Proofs.AppendedValues
import Formwork.Proofs.AskedFields
import Formwork.Proofs.AskedOnce
import Formwork.Proofs.AttributeNames
import Formwork.Proofs.AttributeRewriting
import Formwork.Proofs.CanonicalTokens
import Formwork.Proofs.CatalogOrder
import Formwork.Proofs.CollectedRows
import Formwork.Proofs.ConditionalSections
import Formwork.Proofs.DelimitedNames
import Formwork.Proofs.DeskFrame
import Formwork.Proofs.DeskRuns
import Formwork.Proofs.DisabledKeys
import Formwork.Proofs.DisplayedTables
import Formwork.Proofs.DroppedSections
import Formwork.Proofs.EscapedTexts
import Formwork.Proofs.FailureReasons
import Formwork.Proofs.FieldNames
import Formwork.Proofs.FieldTags
import Formwork.Proofs.FilledDefaults
import Formwork.Proofs.GatheredRows
import Formwork.Proofs.JsonRoundTrip
import Formwork.Proofs.KeptLoops
import Formwork.Proofs.Lockstep
import Formwork.Proofs.LoopCounters
import Formwork.Proofs.LoopFields
import Formwork.Proofs.LoopPages
import Formwork.Proofs.MapLookup
import Formwork.Proofs.NameSpelling
import Formwork.Proofs.NamedBodies
import Formwork.Proofs.NothingLost
import Formwork.Proofs.OverlaidAttributes
import Formwork.Proofs.PageFrame
import Formwork.Proofs.PageSteps
import Formwork.Proofs.PlainMarkup
import Formwork.Proofs.PostedRows
import Formwork.Proofs.PostedValues
import Formwork.Proofs.ProcessorLifecycle
import Formwork.Proofs.QuotedNames
import Formwork.Proofs.RecasedPages
import Formwork.Proofs.RecasedTags
import Formwork.Proofs.RecordCodecs
import Formwork.Proofs.RecordedRows
import Formwork.Proofs.RegisteredForms
import Formwork.Proofs.RepeatedRows
import Formwork.Proofs.RequestBodies
import Formwork.Proofs.RequestedFields
import Formwork.Proofs.RowHistory
import Formwork.Proofs.RowIdentifiers
import Formwork.Proofs.RowKeys
import Formwork.Proofs.RowPosting
import Formwork.Proofs.RowTexts
import Formwork.Proofs.SavedForms
import Formwork.Proofs.SectionPairs
import Formwork.Proofs.SectionSpans
import Formwork.Proofs.SectionsInStep
import Formwork.Proofs.SettingSources
import Formwork.Proofs.SharedStores
import Formwork.Proofs.Showings
import Formwork.Proofs.SinglePass
import Formwork.Proofs.SpelledTexts
import Formwork.Proofs.StartTags
import Formwork.Proofs.StoreHistory
import Formwork.Proofs.SubmitButtons
import Formwork.Proofs.TagGrammar
import Formwork.Proofs.TagSequence
import Formwork.Proofs.UnreadReports
import Formwork.Proofs.UpdateKeys
import Formwork.Proofs.Within
import Formwork.Proofs.WrittenTexts
import Formwork.Session.Csrf
import Formwork.Session.Identifier
import Formwork.Session.Store
import Formwork.Settings.Basic
import Formwork.Settings.Environment
import Formwork.Settings.Load
import Formwork.Submission
import Formwork.Template.Attributes
import Formwork.Template.Source
import Formwork.Template.Token
import Formwork.Template.Tree
import Formwork.Template.Variant
import Formwork.Text.Basic
import Formwork.Text.Blank
import Formwork.Text.Cased
import Formwork.Text.Hex
import Formwork.Text.Letter
import Formwork.Text.Lowercase
import Formwork.Text.Quoted
import Formwork.Text.Utf8
import Formwork.Text.Visible
import Formwork.TextMap
import Formwork.Toml.Lexeme
import Formwork.Toml.Moment
import Formwork.Toml.Reader
import Formwork.Toml.Scalar
import Formwork.Toml.Table
import Formwork.Toml.Value
