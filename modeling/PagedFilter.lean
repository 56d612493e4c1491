import PagedFilter.Pattern.Reader
import PagedFilter.Proofs.Filter.Agreement
import PagedFilter.Proofs.Page.Backward
import PagedFilter.Proofs.Page.Offset
import PagedFilter.Proofs.Page.Bounded
import PagedFilter.Proofs.Filter.Encoding
import PagedFilter.Proofs.Document.Settled
import PagedFilter.Proofs.Table.Vanishing
import PagedFilter.Proofs.Page.Edges
import PagedFilter.Proofs.Page.Visited
import PagedFilter.Proofs.Page.Progress
import PagedFilter.Proofs.Page.Repeated
import PagedFilter.Proofs.Page.Alike
import PagedFilter.Proofs.Table.Decoding
import PagedFilter.Proofs.Table.Written
import PagedFilter.Proofs.Table.CountSql
import PagedFilter.Proofs.Table.Operands
import PagedFilter.Proofs.Calendar.Text
import PagedFilter.Proofs.Page.Precision
import PagedFilter.Proofs.Page.Failing
import PagedFilter.Proofs.Page.Tied
import PagedFilter.Proofs.Calendar.Characters
import PagedFilter.Proofs.Document.Faults
import PagedFilter.Proofs.Document.Casting
import PagedFilter.Proofs.Page.Casting
import PagedFilter.Proofs.Filter.Stray
import PagedFilter.Proofs.Value.Preorder
import PagedFilter.Proofs.Value.Linear
import PagedFilter.Proofs.Page.Naming
import PagedFilter.Proofs.Table.Qualified
import PagedFilter.Proofs.Table.Singleton
import PagedFilter.Proofs.Document.Singleton
import PagedFilter.Proofs.Document.Passes
import PagedFilter.Proofs.Filter.Numbered
import PagedFilter.Proofs.Value.Json
import PagedFilter.Proofs.Pattern.Like
import PagedFilter.Proofs.Document.Spelling
