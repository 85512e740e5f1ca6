import Groundwork.Artifact
import Groundwork.Artifact.Aggregator
import Groundwork.Artifact.Generation
import Groundwork.Artifact.Writing
import Groundwork.Catalog
import Groundwork.Command.Console
import Groundwork.Command.Line
import Groundwork.Command.Make
import Groundwork.Command.New
import Groundwork.Command.Report
import Groundwork.Entity
import Groundwork.Entry.Error
import Groundwork.Entry.List
import Groundwork.Failure
import Groundwork.Field.Basic
import Groundwork.Field.Default
import Groundwork.Field.Kind
import Groundwork.Field.Modifiers
import Groundwork.Files.Directories
import Groundwork.Files.Editing
import Groundwork.Files.Error
import Groundwork.Files.Listing
import Groundwork.Files.Store
import Groundwork.Files.Tree
import Groundwork.Identifier
import Groundwork.Inflection.Ending
import Groundwork.Inflection.Plural
import Groundwork.Inflection.Snake
import Groundwork.Json.Basic
import Groundwork.Json.Number
import Groundwork.Json.Printer
import Groundwork.Json.Reader
import Groundwork.Json.Token
import Groundwork.Literal
import Groundwork.Log
import Groundwork.Main
import Groundwork.Numeral
import Groundwork.Path
import Groundwork.Project
import Groundwork.Proofs.Artifact.Aggregator
import Groundwork.Proofs.Artifact.Agreement
import Groundwork.Proofs.Artifact.Confinement
import Groundwork.Proofs.Artifact.ControllerFields
import Groundwork.Proofs.Artifact.Imports
import Groundwork.Proofs.Artifact.Layout
import Groundwork.Proofs.Artifact.Names
import Groundwork.Proofs.Artifact.Placement
import Groundwork.Proofs.Artifact.PrintedController
import Groundwork.Proofs.Artifact.Printing
import Groundwork.Proofs.Artifact.Registration
import Groundwork.Proofs.Artifact.Writes
import Groundwork.Proofs.Code
import Groundwork.Proofs.Command.Accumulation
import Groundwork.Proofs.Command.Atomicity
import Groundwork.Proofs.Command.Finding
import Groundwork.Proofs.Command.FreshProject
import Groundwork.Proofs.Command.Language
import Groundwork.Proofs.Command.Locating
import Groundwork.Proofs.Command.NewProject
import Groundwork.Proofs.Command.Operations
import Groundwork.Proofs.Command.Outcomes
import Groundwork.Proofs.Command.Refusal
import Groundwork.Proofs.Command.Skeleton
import Groundwork.Proofs.Command.Stages
import Groundwork.Proofs.Command.Success
import Groundwork.Proofs.Command.Turns
import Groundwork.Proofs.Entity
import Groundwork.Proofs.Entry
import Groundwork.Proofs.Entry.Lists
import Groundwork.Proofs.Entry.Parts
import Groundwork.Proofs.Field.Canonical
import Groundwork.Proofs.Field.Grammar
import Groundwork.Proofs.Field.NumericDefault
import Groundwork.Proofs.Field.Rearrangement
import Groundwork.Proofs.Files.Appending
import Groundwork.Proofs.Files.Contents
import Groundwork.Proofs.Files.Descent
import Groundwork.Proofs.Files.Founding
import Groundwork.Proofs.Files.Gap
import Groundwork.Proofs.Files.Growth
import Groundwork.Proofs.Files.Keeping
import Groundwork.Proofs.Files.Rooted
import Groundwork.Proofs.Files.Subtree
import Groundwork.Proofs.Files.Vacancy
import Groundwork.Proofs.Inflection
import Groundwork.Proofs.Json.Reading
import Groundwork.Proofs.Literal
import Groundwork.Proofs.Literal.Decoding
import Groundwork.Proofs.Literal.Number
import Groundwork.Proofs.Numeral
import Groundwork.Proofs.Numeral.Rounding
import Groundwork.Proofs.Numeral.Signed
import Groundwork.Proofs.Path
import Groundwork.Proofs.Path.Ancestors
import Groundwork.Proofs.Path.LastName
import Groundwork.Proofs.Path.Parents
import Groundwork.Proofs.Relationship
import Groundwork.Proofs.Settings
import Groundwork.Proofs.Template.Controller
import Groundwork.Proofs.Template.Model
import Groundwork.Proofs.Template.Overrides
import Groundwork.Proofs.Template.Pieces
import Groundwork.Proofs.Template.Project
import Groundwork.Proofs.Template.Reading
import Groundwork.Proofs.Template.Rendering
import Groundwork.Proofs.Template.Substitution
import Groundwork.Proofs.Text.Character
import Groundwork.Proofs.Text.Damage
import Groundwork.Proofs.Text.Keyword
import Groundwork.Proofs.Text.LetterCase
import Groundwork.Proofs.Text.Split
import Groundwork.Proofs.Text.Trim
import Groundwork.Proofs.Text.Uppercase
import Groundwork.Proofs.Text.Utf8
import Groundwork.Relationship
import Groundwork.Remainder
import Groundwork.Request
import Groundwork.Settings
import Groundwork.Template.Chunk
import Groundwork.Template.Evaluation
import Groundwork.Template.Expr
import Groundwork.Template.Library
import Groundwork.Template.Node
import Groundwork.Template.Rendering
import Groundwork.Template.Source
import Groundwork.Template.Token
import Groundwork.Template.Value
import Groundwork.Text.Alphabetic
import Groundwork.Text.CaseIgnorable
import Groundwork.Text.CaseRun
import Groundwork.Text.Cased
import Groundwork.Text.Character
import Groundwork.Text.CodePoints
import Groundwork.Text.Hidden
import Groundwork.Text.Joiner
import Groundwork.Text.LetterCase
import Groundwork.Text.LowerMapping
import Groundwork.Text.Lowercase
import Groundwork.Text.Numeric
import Groundwork.Text.Replace
import Groundwork.Text.Split
import Groundwork.Text.Trim
import Groundwork.Text.UpperMapping
import Groundwork.Text.Uppercase
import Groundwork.Text.Utf8
import Groundwork.Proofs.Artifact.Paths
import Groundwork.Proofs.Vocabulary
import Groundwork.Proofs.Catalog
import Groundwork.Proofs.Command.Messages
import Groundwork.Proofs.Json.Number
import Groundwork.Proofs.Json.Tokens
import Groundwork.Proofs.Json.Grammar
import Groundwork.Proofs.Command.Loading
