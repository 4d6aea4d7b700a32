import TableServer.Console.Folder
import TableServer.Http.Domain.Name
import TableServer.Instant.Printer
import TableServer.Main
import TableServer.Proofs.Column.Steps
import TableServer.Proofs.Filter.Bands
import TableServer.Proofs.Filter.Containment
import TableServer.Proofs.Filter.LogicTree
import TableServer.Proofs.Filter.Operators
import TableServer.Proofs.Filter.Patterns
import TableServer.Proofs.Filter.QuotedMembers
import TableServer.Proofs.Filter.Search
import TableServer.Proofs.Grammar.Joined
import TableServer.Proofs.Instant.Offsets
import TableServer.Proofs.Order.Lexicographic
import TableServer.Proofs.Query.Keyset
import TableServer.Proofs.Query.Nesting
import TableServer.Proofs.Query.Pages
import TableServer.Proofs.Query.Unclosed
import TableServer.Proofs.Select.Items
import TableServer.Proofs.Select.Repetition
import TableServer.Proofs.Select.Spelling
import TableServer.Proofs.Service.Answers
import TableServer.Proofs.Service.FilteredWrites
import TableServer.Proofs.Service.GivenRows
import TableServer.Proofs.Service.Guarding
import TableServer.Proofs.Service.Isolation
import TableServer.Proofs.Service.Presentation
import TableServer.Proofs.Service.Refusal
import TableServer.Proofs.Service.Repetition
import TableServer.Proofs.Service.Runs
import TableServer.Proofs.Service.Triggers
import TableServer.Proofs.Table.Counting
import TableServer.Proofs.Table.Upserts
import TableServer.Proofs.Table.Validation
