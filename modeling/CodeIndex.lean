import CodeIndex.Chunk.Component
import CodeIndex.Chunk.Declaration
import CodeIndex.Chunk.File
import CodeIndex.Chunk.Heading
import CodeIndex.Chunk.Kind
import CodeIndex.Chunk.Language
import CodeIndex.Chunk.Span
import CodeIndex.Chunk.Scan
import CodeIndex.Chunk.Statement
import CodeIndex.Collection.Dictionary
import CodeIndex.Command.Action
import CodeIndex.Command.Arguments
import CodeIndex.Hash.Fnv
import CodeIndex.Hash.NameId
import CodeIndex.Hash.Sha1
import CodeIndex.Json.Decode
import CodeIndex.Json.Printer
import CodeIndex.Json.Reader
import CodeIndex.Json.Token
import CodeIndex.Json.Value
import CodeIndex.Main
import CodeIndex.Number.Count
import CodeIndex.Number.Shortest
import CodeIndex.Path.FileName
import CodeIndex.Path.Glob
import CodeIndex.Path.IgnoreFile
import CodeIndex.Path.Layer
import CodeIndex.Path.Rules
import CodeIndex.Payload
import CodeIndex.PointId
import CodeIndex.Prompt.Description
import CodeIndex.Prompt.Phrasing
import CodeIndex.Proofs.Chunk.Tiling
import CodeIndex.Provider.Address
import CodeIndex.Provider.Basic
import CodeIndex.Provider.Error
import CodeIndex.Provider.Exchange
import CodeIndex.Provider.Hosted
import CodeIndex.Provider.Local
import CodeIndex.Provider.Scripted
import CodeIndex.Provider.Service
import CodeIndex.Provider.Throttle
import CodeIndex.Repository.Changes
import CodeIndex.Repository.Discovery
import CodeIndex.Repository.History
import CodeIndex.Repository.LookBack
import CodeIndex.Repository.WorkTree
import CodeIndex.Repository.WorkingCopy
import CodeIndex.Run.Error
import CodeIndex.Run.FilePoints
import CodeIndex.Run.Indexer
import CodeIndex.Run.Report
import CodeIndex.Run.Retry
import CodeIndex.Run.World
import CodeIndex.Search.Composite
import CodeIndex.Search.Retriever
import CodeIndex.Secret.Redaction
import CodeIndex.Secret.Shape
import CodeIndex.Settings.Basic
import CodeIndex.Settings.Document
import CodeIndex.Settings.Environment
import CodeIndex.Sparse.Token
import CodeIndex.Sparse.Vector
import CodeIndex.Store.Checkpoint
import CodeIndex.Store.Error
import CodeIndex.Store.Fusion
import CodeIndex.Store.Memory
import CodeIndex.Store.Point
import CodeIndex.Store.Remote.Client
import CodeIndex.Store.Remote.Dialogue
import CodeIndex.Store.Remote.Value
import CodeIndex.Syntax.Bracket
import CodeIndex.Syntax.Java
import CodeIndex.Syntax.Python
import CodeIndex.Syntax.Reader
import CodeIndex.Syntax.Rust
import CodeIndex.Syntax.Script.Declaration
import CodeIndex.Syntax.Script.Stretch
import CodeIndex.Syntax.Script.Token
import CodeIndex.Syntax.Token
import CodeIndex.Syntax.Tree
import CodeIndex.Text.Alphabetic
import CodeIndex.Text.Bytes
import CodeIndex.Text.Case
import CodeIndex.Text.CharClass
import CodeIndex.Text.CodeRange
import CodeIndex.Text.Inspect
import CodeIndex.Text.Line
import CodeIndex.Text.Numeric
import CodeIndex.Text.Pattern
import CodeIndex.Text.Unseen
import CodeIndex.Time.Backoff
import CodeIndex.Time.Call
import CodeIndex.Toml.Literal
import CodeIndex.Toml.Plot
import CodeIndex.Toml.Quoted
import CodeIndex.Toml.Reader
import CodeIndex.Proofs.Chunk.Coverage
import CodeIndex.Proofs.Run.Outcome
import CodeIndex.Proofs.Store.Points
import CodeIndex.Proofs.Run.Onward
import CodeIndex.Proofs.Store.Layout
import CodeIndex.Proofs.Run.FilePipeline
import CodeIndex.Proofs.Run.FullRun
import CodeIndex.Proofs.Run.IncrementalRun
import CodeIndex.Proofs.Run.History
import CodeIndex.Proofs.Repository.Spelling
import CodeIndex.Proofs.Repository.PlainTree
import CodeIndex.Proofs.Repository.Refresh
import CodeIndex.Proofs.Run.Steady
import CodeIndex.Proofs.Run.Agreement
import CodeIndex.Proofs.PointId
import CodeIndex.Proofs.Store.Tenancy
import CodeIndex.Proofs.Run.Uses
import CodeIndex.Proofs.Run.Isolation
import CodeIndex.Proofs.Chunk.Blocks
import CodeIndex.Proofs.Chunk.StartLine
import CodeIndex.Proofs.Chunk.Headers
import CodeIndex.Proofs.Store.Keyed
import CodeIndex.Proofs.Run.Upload
import CodeIndex.Proofs.Run.HeaderReference
import CodeIndex.Proofs.Settings.Names
import CodeIndex.Proofs.Run.Checkpoint
import CodeIndex.Proofs.Repository.Selection
import CodeIndex.Proofs.Text.Reading
import CodeIndex.Proofs.Text.Lacking
import CodeIndex.Proofs.Text.Replacing
import CodeIndex.Proofs.Secret.Free
import CodeIndex.Proofs.Secret.Redaction
import CodeIndex.Proofs.Secret.Joining
import CodeIndex.Proofs.Secret.Sent
import CodeIndex.Proofs.Run.Requests
import CodeIndex.Proofs.Run.Disclosure
import CodeIndex.Proofs.Run.StoredText
import CodeIndex.Proofs.Store.Remote.Filters
import CodeIndex.Proofs.Chunk.Borders
import CodeIndex.Proofs.Chunk.Pieces
import CodeIndex.Proofs.Syntax.Rows
import CodeIndex.Proofs.Chunk.Order
import CodeIndex.Proofs.Chunk.Whole
import CodeIndex.Proofs.Repository.Timeline
import CodeIndex.Proofs.Run.Sighting
import CodeIndex.Proofs.Run.LostUpdate
import CodeIndex.Proofs.Number.Nonneg
import CodeIndex.Proofs.Store.Ranking
import CodeIndex.Proofs.Search.Facets
import CodeIndex.Proofs.Search.Outcome
import CodeIndex.Proofs.Text.Wall
import CodeIndex.Proofs.Secret.Passes
import CodeIndex.Proofs.Secret.Keys
import CodeIndex.Proofs.Secret.Values
import CodeIndex.Proofs.Secret.Truncation
import CodeIndex.Proofs.Number.Order
import CodeIndex.Proofs.Store.Firsts
import CodeIndex.Proofs.Store.Fusion
import CodeIndex.Proofs.Store.Reference
import CodeIndex.Proofs.Chunk.Places
import CodeIndex.Proofs.Chunk.Parts
import CodeIndex.Proofs.Store.Refusal
import CodeIndex.Proofs.Number.Whole
import CodeIndex.Proofs.Sparse.Segments
import CodeIndex.Proofs.Sparse.Frequencies
import CodeIndex.Proofs.Sparse.Overlap
import CodeIndex.Proofs.Text.Slice
import CodeIndex.Proofs.Chunk.BlockRows
import CodeIndex.Proofs.Chunk.Scan
import CodeIndex.Proofs.Chunk.Rendering
import CodeIndex.Proofs.Text.Phrase
import CodeIndex.Proofs.Chunk.Creation
import CodeIndex.Proofs.Chunk.Sections
import CodeIndex.Proofs.Store.Remote.Value
import CodeIndex.Proofs.Payload
import CodeIndex.Proofs.Path.Rules
import CodeIndex.Proofs.Chunk.Title
import CodeIndex.Proofs.Chunk.Fence
import CodeIndex.Proofs.Time.Backoff
import CodeIndex.Proofs.Time.Series
import CodeIndex.Proofs.Run.Attempts
import CodeIndex.Proofs.Text.Trim
import CodeIndex.Proofs.Provider.Throttle
import CodeIndex.Proofs.Json.Token
import CodeIndex.Proofs.Json.RoundTrip
import CodeIndex.Proofs.Prompt.Phrasing
import CodeIndex.Proofs.Provider.Hosted
import CodeIndex.Proofs.Run.Embedding
import CodeIndex.Proofs.Store.Remote.Setup
import CodeIndex.Proofs.Repository.Difference
import CodeIndex.Proofs.Search.Reach
import CodeIndex.Proofs.Run.Account
import CodeIndex.Proofs.Run.Journal
import CodeIndex.Proofs.Text.Split
import CodeIndex.Proofs.Text.Case
import CodeIndex.Proofs.Chunk.Arrangement
import CodeIndex.Proofs.Path.Layer
