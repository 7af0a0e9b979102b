import SelectorCatalog.Catalog
import SelectorCatalog.Catalog.Editor
import SelectorCatalog.Catalog.Job
import SelectorCatalog.Catalog.Run
import SelectorCatalog.Catalog.Search
import SelectorCatalog.Catalog.Step
import SelectorCatalog.Config
import SelectorCatalog.Config.Environment
import SelectorCatalog.Config.Load
import SelectorCatalog.Config.Toml
import SelectorCatalog.Config.Toml.Number
import SelectorCatalog.Config.Toml.Reader
import SelectorCatalog.Config.Toml.Text
import SelectorCatalog.Config.Value
import SelectorCatalog.Css.AtRule
import SelectorCatalog.Css.Component
import SelectorCatalog.Css.Condition
import SelectorCatalog.Css.Lexer
import SelectorCatalog.Css.Selector
import SelectorCatalog.Css.Selector.Nth
import SelectorCatalog.Css.Selector.Parser
import SelectorCatalog.Css.Stylesheet
import SelectorCatalog.Css.Token
import SelectorCatalog.Css.Written
import SelectorCatalog.Entry
import SelectorCatalog.Entry.Fetch
import SelectorCatalog.Entry.Receiver
import SelectorCatalog.Error
import SelectorCatalog.Host
import SelectorCatalog.Host.Bench
import SelectorCatalog.Host.Disk
import SelectorCatalog.Host.Memory
import SelectorCatalog.Host.Store
import SelectorCatalog.Html.Builder
import SelectorCatalog.Html.Builder.Body
import SelectorCatalog.Html.Builder.Formatting
import SelectorCatalog.Html.Builder.Step
import SelectorCatalog.Html.Builder.Table
import SelectorCatalog.Html.Document
import SelectorCatalog.Html.Element
import SelectorCatalog.Html.Lexer
import SelectorCatalog.Html.Reference
import SelectorCatalog.Html.Reference.Listing
import SelectorCatalog.Html.Token
import SelectorCatalog.Html.Tree
import SelectorCatalog.Index
import SelectorCatalog.Link
import SelectorCatalog.Notice
import SelectorCatalog.Path
import SelectorCatalog.Path.Normal
import SelectorCatalog.Proofs.Catalog.Aliases
import SelectorCatalog.Proofs.Catalog.Alone
import SelectorCatalog.Proofs.Catalog.Asks
import SelectorCatalog.Proofs.Catalog.Barrier
import SelectorCatalog.Proofs.Catalog.Caching
import SelectorCatalog.Proofs.Catalog.Change
import SelectorCatalog.Proofs.Catalog.Check
import SelectorCatalog.Proofs.Catalog.Claims
import SelectorCatalog.Proofs.Catalog.Closure
import SelectorCatalog.Proofs.Catalog.Coherence
import SelectorCatalog.Proofs.Catalog.Course
import SelectorCatalog.Proofs.Catalog.Disposal
import SelectorCatalog.Proofs.Catalog.Handout
import SelectorCatalog.Proofs.Catalog.Independence
import SelectorCatalog.Proofs.Catalog.Limit
import SelectorCatalog.Proofs.Catalog.Listening
import SelectorCatalog.Proofs.Catalog.Lookup
import SelectorCatalog.Proofs.Catalog.Move
import SelectorCatalog.Proofs.Catalog.Origin
import SelectorCatalog.Proofs.Catalog.Pace
import SelectorCatalog.Proofs.Catalog.Probe
import SelectorCatalog.Proofs.Catalog.Project
import SelectorCatalog.Proofs.Catalog.Quiet
import SelectorCatalog.Proofs.Catalog.Refetch
import SelectorCatalog.Proofs.Catalog.Reports
import SelectorCatalog.Proofs.Catalog.Save
import SelectorCatalog.Proofs.Catalog.Scan
import SelectorCatalog.Proofs.Catalog.Search
import SelectorCatalog.Proofs.Catalog.Serving
import SelectorCatalog.Proofs.Catalog.SingleFlight
import SelectorCatalog.Proofs.Catalog.Sound
import SelectorCatalog.Proofs.Catalog.Source
import SelectorCatalog.Proofs.Catalog.Steps
import SelectorCatalog.Proofs.Catalog.Stride
import SelectorCatalog.Proofs.Catalog.Supervise
import SelectorCatalog.Proofs.Catalog.Upkeep
import SelectorCatalog.Proofs.Catalog.Vanished
import SelectorCatalog.Proofs.Catalog.Watch
import SelectorCatalog.Proofs.Config.Extension
import SelectorCatalog.Proofs.Entry.Course
import SelectorCatalog.Proofs.Entry.Links
import SelectorCatalog.Proofs.Entry.Overlap
import SelectorCatalog.Proofs.Entry.Pairing
import SelectorCatalog.Proofs.Entry.Reading
import SelectorCatalog.Proofs.Entry.Turn
import SelectorCatalog.Proofs.Entry.Unreadable
import SelectorCatalog.Proofs.Host.Walk
import SelectorCatalog.Proofs.Index.Absorption
import SelectorCatalog.Proofs.Index.Additions
import SelectorCatalog.Proofs.Index.History
import SelectorCatalog.Proofs.Index.Merge
import SelectorCatalog.Proofs.Index.Names
import SelectorCatalog.Proofs.Index.Outside
import SelectorCatalog.Proofs.Index.Printed
import SelectorCatalog.Proofs.Link.Dependencies
import SelectorCatalog.Proofs.Link.Directory
import SelectorCatalog.Proofs.Path.Normal
import SelectorCatalog.Proofs.Path.Normalization
import SelectorCatalog.Proofs.Path.Parts
import SelectorCatalog.Proofs.Selector.Authored
import SelectorCatalog.Proofs.Selector.Brackets
import SelectorCatalog.Proofs.Selector.Dressed
import SelectorCatalog.Proofs.Selector.Nested
import SelectorCatalog.Proofs.Selector.Order
import SelectorCatalog.Proofs.Selector.Recovery
import SelectorCatalog.Proofs.Selector.Seams
import SelectorCatalog.Proofs.Selector.Written
import SelectorCatalog.Proofs.Text.Ascii
import SelectorCatalog.Proofs.Text.Split
import SelectorCatalog.Proofs.Text.Trim
import SelectorCatalog.Rule
import SelectorCatalog.Selector.Compound
import SelectorCatalog.Selector.Spelling
import SelectorCatalog.Session.Command
import SelectorCatalog.Session.Perform
import SelectorCatalog.Session.Settle
import SelectorCatalog.Session.State
import SelectorCatalog.Text.Alphanumeric
import SelectorCatalog.Text.Blank
import SelectorCatalog.Text.Cased
import SelectorCatalog.Text.CharRange
import SelectorCatalog.Text.Fold
import SelectorCatalog.Text.Hex
import SelectorCatalog.Text.Lower
import SelectorCatalog.Text.Quoted
import SelectorCatalog.Text.Split
