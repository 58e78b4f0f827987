import SqlWright.Bytes
import SqlWright.Cache.Memory
import SqlWright.Cache.ReadThrough
import SqlWright.Cache.Store
import SqlWright.Cache.Ttl
import SqlWright.Database.Client
import SqlWright.Database.Config
import SqlWright.Database.Session
import SqlWright.Dialogue
import SqlWright.Digest.Sha256
import SqlWright.Event
import SqlWright.Failure
import SqlWright.Fragment
import SqlWright.Json.Number
import SqlWright.Json.Read
import SqlWright.Json.Text
import SqlWright.Json.Tree
import SqlWright.Keyed
import SqlWright.Number.Binary
import SqlWright.Number.Layout
import SqlWright.Number.Numeral
import SqlWright.Number.Shortest
import SqlWright.Pagination
import SqlWright.Placeholder
import SqlWright.Postgres.Client
import SqlWright.Postgres.Positional
import SqlWright.Postgres.Wire
import SqlWright.Rehearsal.Call
import SqlWright.Rehearsal.Server
import SqlWright.Rehearsal.Stage
import SqlWright.Rehearsal.Store
import SqlWright.ResultSet
import SqlWright.Statement.Basic
import SqlWright.Statement.Builder
import SqlWright.Statement.Clause
import SqlWright.Statement.Delete
import SqlWright.Statement.Handout
import SqlWright.Statement.Insert
import SqlWright.Statement.Layout
import SqlWright.Statement.Select
import SqlWright.Statement.Update
import SqlWright.Style
import SqlWright.Template
import SqlWright.Text.Cut
import SqlWright.Transaction
import SqlWright.Value
import SqlWright.Proofs.Keyed.Replacement
import SqlWright.Proofs.Keyed.History
import SqlWright.Proofs.Placeholder.Naming
import SqlWright.Proofs.Placeholder.Binding
import SqlWright.Proofs.Template.Bindings
import SqlWright.Proofs.Statement.Lifecycle
import SqlWright.Proofs.Statement.Scalars
import SqlWright.Proofs.Template.Outline
import SqlWright.Proofs.Template.Texts
import SqlWright.Proofs.Statement.Rebasing
import SqlWright.Proofs.Template.Erasure
import SqlWright.Proofs.Statement.Masking
import SqlWright.Proofs.Postgres.Lexemes
import SqlWright.Proofs.Postgres.Readable
import SqlWright.Proofs.Postgres.Numbering
import SqlWright.Proofs.Template.Readable
import SqlWright.Proofs.Statement.CallerTexts
import SqlWright.Proofs.Statement.Readable
import SqlWright.Proofs.Statement.Positional
import SqlWright.Proofs.Statement.Freezing
import SqlWright.Proofs.Statement.Commuting
import SqlWright.Proofs.Statement.Merging
import SqlWright.Proofs.Text.Tidy
import SqlWright.Proofs.Template.Enclosure
import SqlWright.Proofs.Statement.Enclosure
import SqlWright.Proofs.Dialogue.Transcript
import SqlWright.Proofs.Dialogue.Simulation
import SqlWright.Proofs.Transaction.Protocol
import SqlWright.Proofs.Transaction.Outcome
import SqlWright.Proofs.Transaction.Atomicity
import SqlWright.Proofs.Json.Number
import SqlWright.Proofs.Json.Reading
import SqlWright.Proofs.Json.RoundTrip
import SqlWright.Proofs.Json.Framing
import SqlWright.Proofs.Cache.Key
import SqlWright.Proofs.Cache.Fetching
import SqlWright.Proofs.Cache.Memory
import SqlWright.Proofs.Cache.Recency
import SqlWright.Proofs.Cache.Pooling
import SqlWright.Proofs.Cache.Interleaving
import SqlWright.Proofs.Cache.SequentialRun
import SqlWright.Proofs.Dialogue.Keeping
import SqlWright.Proofs.Database.LeadIn
import SqlWright.Proofs.Postgres.Splitting
import SqlWright.Proofs.Statement.Tuples
import SqlWright.Proofs.Cache.Survival
import SqlWright.Proofs.Statement.Gathering
import SqlWright.Proofs.Statement.Conditions
import SqlWright.Proofs.Statement.JoinTerms
import SqlWright.Proofs.Condition.Reading
import SqlWright.Proofs.Statement.Conjunction
import SqlWright.Proofs.Cache.Retention
import SqlWright.Proofs.Pagination.Tiling
import SqlWright.Proofs.Statement.Flattening
import SqlWright.Proofs.Text.Splitting
import SqlWright.Proofs.Text.Shortening
import SqlWright.Proofs.Statement.Terms
import SqlWright.Proofs.ResultSet.Naming
import SqlWright.Proofs.Dialogue.Courses
import SqlWright.Proofs.Cache.Contract
import SqlWright.Proofs.Bytes
import SqlWright.Proofs.Number.Numeral
import SqlWright.Proofs.Postgres.Coercion
import SqlWright.Proofs.Template.Pieces
import SqlWright.Proofs.Statement.Threading
