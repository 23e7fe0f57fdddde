import QuestWeb.Binary64
import QuestWeb.Binary64.Shortest
import QuestWeb.Catalog
import QuestWeb.Catalog.Builtin
import QuestWeb.Catalog.Decoder
import QuestWeb.CharSet
import QuestWeb.CharSet.AgeTable
import QuestWeb.CharSet.Binary
import QuestWeb.CharSet.BinaryTable
import QuestWeb.CharSet.BreakTable
import QuestWeb.CharSet.Case
import QuestWeb.CharSet.Category
import QuestWeb.CharSet.CategoryTable
import QuestWeb.CharSet.Letter
import QuestWeb.CharSet.Listing
import QuestWeb.CharSet.Property
import QuestWeb.CharSet.Script
import QuestWeb.CharSet.ScriptExtensionTable
import QuestWeb.CharSet.ScriptTable
import QuestWeb.CharSet.Word
import QuestWeb.Config
import QuestWeb.Dataset
import QuestWeb.Dataset.Access
import QuestWeb.Dataset.Layout
import QuestWeb.Dataset.Scan
import QuestWeb.Decoder
import QuestWeb.Decoder.Error
import QuestWeb.Decoder.Record
import QuestWeb.Dialog
import QuestWeb.Dialog.Defect
import QuestWeb.Dialog.Wire
import QuestWeb.Effect
import QuestWeb.Effect.Wire
import QuestWeb.Engine
import QuestWeb.Engine.Source
import QuestWeb.FileTree
import QuestWeb.Flag
import QuestWeb.Json
import QuestWeb.Json.Printer
import QuestWeb.Json.Reader
import QuestWeb.Main
import QuestWeb.Pattern
import QuestWeb.Pattern.Automaton
import QuestWeb.Pattern.Class
import QuestWeb.Pattern.Escape
import QuestWeb.Pattern.Flags
import QuestWeb.Pattern.Match
import QuestWeb.Pattern.Reader
import QuestWeb.Pattern.Size
import QuestWeb.Proofs.Acceptance
import QuestWeb.Proofs.Availability
import QuestWeb.Proofs.Canonical
import QuestWeb.Proofs.CatalogCheck
import QuestWeb.Proofs.Chapters
import QuestWeb.Proofs.Completion
import QuestWeb.Proofs.Construction
import QuestWeb.Proofs.Dependencies
import QuestWeb.Proofs.DialogReach
import QuestWeb.Proofs.DialogShape
import QuestWeb.Proofs.Findings
import QuestWeb.Proofs.Flags
import QuestWeb.Proofs.Gate
import QuestWeb.Proofs.Ledger
import QuestWeb.Proofs.Matching
import QuestWeb.Proofs.Numbering
import QuestWeb.Proofs.Outcomes
import QuestWeb.Proofs.Progress
import QuestWeb.Proofs.QuestIds
import QuestWeb.Proofs.QuestNumbers
import QuestWeb.Proofs.Results
import QuestWeb.Proofs.RoundTrip
import QuestWeb.Proofs.Run
import QuestWeb.Proofs.Scenes
import QuestWeb.Proofs.Script
import QuestWeb.Proofs.Storage
import QuestWeb.Proofs.WireForms
import QuestWeb.Quest
import QuestWeb.Quest.Dependency
import QuestWeb.Quest.Dependency.Check
import QuestWeb.Quest.Wire
import QuestWeb.QuestNum
import QuestWeb.Report
import QuestWeb.Ron
import QuestWeb.Ron.Reader
import QuestWeb.Session
import QuestWeb.Settings
import QuestWeb.State
import QuestWeb.State.Condition
import QuestWeb.State.Effect
import QuestWeb.State.Wire
import QuestWeb.Template
import QuestWeb.Text.Affix
import QuestWeb.Text.Blank
import QuestWeb.Text.Case
import QuestWeb.Text.CasedTable
import QuestWeb.Text.FoldTable
import QuestWeb.Text.HiddenTable
import QuestWeb.Text.Lines
import QuestWeb.Text.LowerTable
import QuestWeb.Text.Numeral
import QuestWeb.Text.Quoted
import QuestWeb.Text.Span
import QuestWeb.Text.UpperTable
import QuestWeb.Text.WordTable
import QuestWeb.Tool
import QuestWeb.Tool.Arguments
import QuestWeb.Tool.Audit
import QuestWeb.Tool.Generate
import QuestWeb.Tool.Outcome
import QuestWeb.Tool.Preview
import QuestWeb.Tool.Validate
import QuestWeb.Validator
import QuestWeb.Web
import QuestWeb.Web.Dialog
import QuestWeb.Web.Layout
import QuestWeb.Web.Quest
import QuestWeb.Web.Words
import QuestWeb.Web.Write
import QuestWeb.World
import QuestWeb.Proofs.Calls
import QuestWeb.Proofs.Bookkeeping
import QuestWeb.Proofs.Ladder
import QuestWeb.Proofs.FlagKinds
import QuestWeb.Proofs.Serving
import QuestWeb.Proofs.Standing
import QuestWeb.Proofs.Playthrough
import QuestWeb.Proofs.SavedForms
import QuestWeb.Proofs.NextQuests
import QuestWeb.Proofs.FileWrites
import QuestWeb.Proofs.JsonText
import QuestWeb.Proofs.Overwrite
import QuestWeb.Proofs.Reload
import QuestWeb.Proofs.Scans
import QuestWeb.Proofs.Circles
import QuestWeb.Proofs.ClosingEdges
import QuestWeb.Proofs.DialogFiles
import QuestWeb.Proofs.DistinctKeys
import QuestWeb.Proofs.DialogReading
import QuestWeb.Proofs.SimpleCircles
import QuestWeb.Proofs.Sorting
import QuestWeb.Proofs.Choosing
import QuestWeb.Proofs.ExactDecoders
import QuestWeb.Proofs.EffectForms
import QuestWeb.Proofs.DialogSearch
import QuestWeb.Proofs.ChapterErrors
import QuestWeb.Proofs.RoleNumbers
import QuestWeb.Proofs.TemplateTexts
import QuestWeb.Proofs.SealCounts
import QuestWeb.Proofs.DialogPaths
import QuestWeb.Proofs.FlagReads
import QuestWeb.Proofs.WorldCheck
import QuestWeb.Proofs.CheckedWeb
import QuestWeb.Proofs.UsedTemplates
import QuestWeb.Proofs.ActiveQuest
import QuestWeb.Proofs.EncounterCheck
import QuestWeb.Proofs.ScanHits
import QuestWeb.Proofs.Colors
