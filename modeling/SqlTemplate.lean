import SqlTemplate.Config.File
import SqlTemplate.Proofs.Expr.Comparing
import SqlTemplate.Proofs.Expr.Exactness
import SqlTemplate.Proofs.Expr.Parsing
import SqlTemplate.Proofs.Expr.Paths
import SqlTemplate.Proofs.Mapping.Handlers
import SqlTemplate.Proofs.Mapping.Writing
import SqlTemplate.Proofs.Node.Composing
import SqlTemplate.Proofs.Node.Contributing
import SqlTemplate.Proofs.Node.Literals
import SqlTemplate.Proofs.Node.Scoping
import SqlTemplate.Proofs.Node.Separating
import SqlTemplate.Proofs.Node.Splicing
import SqlTemplate.Proofs.Reaching
import SqlTemplate.Proofs.Render.Recency
import SqlTemplate.Proofs.Scan.Covering
import SqlTemplate.Proofs.Scan.Encoding
import SqlTemplate.Proofs.Scan.Rewriting
import SqlTemplate.Proofs.Slices
import SqlTemplate.Proofs.Statement.Additional
import SqlTemplate.Proofs.Statement.Capture
import SqlTemplate.Proofs.Statement.Choices
import SqlTemplate.Proofs.Statement.Filtering
import SqlTemplate.Proofs.Statement.Integers
import SqlTemplate.Proofs.Statement.Kinds
import SqlTemplate.Proofs.Statement.Preambles
import SqlTemplate.Proofs.Statement.Rebinding
import SqlTemplate.Proofs.Statement.Reordering
import SqlTemplate.Proofs.Statement.Reserved
import SqlTemplate.Proofs.Statement.Sessions
import SqlTemplate.Proofs.Statement.Shrinking
import SqlTemplate.Proofs.Statement.Types
import SqlTemplate.Proofs.Template.Grammar
import SqlTemplate.Render.Log
import SqlTemplate.Source
import SqlTemplate.Value.Reader
import SqlTemplate.Proofs.Scan.Cursor
