import Understudy.Main
import Understudy.Permits
import Understudy.Proofs.Catalog.Flatten
import Understudy.Proofs.Dispatch.Outcome
import Understudy.Proofs.Generation.Independence
import Understudy.Proofs.Generation.Failures
import Understudy.Proofs.Mock.DeclaredNames
import Understudy.Proofs.Member.SignatureKey
import Understudy.Proofs.Catalog.Requirements
import Understudy.Proofs.Mock.Texts
import Understudy.Proofs.Output.Initializers
import Understudy.Proofs.Output.Selection
import Understudy.Proofs.Dispatch.OneAtATime
import Understudy.Proofs.Text.Utf8
import Understudy.Proofs.SourceCache.Calls
import Understudy.Proofs.SyntaxTree.Nodes
import Understudy.Proofs.FileTree.Spelling
import Understudy.Proofs.Generation.Verbatim
import Understudy.Proofs.Catalog.AppendedMock
import Understudy.Proofs.Output.AppendedMock
import Understudy.Proofs.SyntaxTree.Positions
import Understudy.Proofs.SyntaxTree.OuterTypes
import Understudy.Proofs.Output.ReportedIdentifiers
import Understudy.Proofs.Mock.ReadBack
import Understudy.Proofs.Mock.LegalNames
import Understudy.Proofs.Output.Constructible
import Understudy.Proofs.Mock.CountedCalls
import Understudy.Proofs.Config.Saved
import Understudy.Proofs.Mock.LeastLevel
import Understudy.Proofs.SyntaxTree.Labels
import Understudy.Proofs.SyntaxTree.Getter
import Understudy.Proofs.Text.TopLevel
import Understudy.Proofs.TypeName.Expression
import Understudy.Proofs.TypeName.Default
import Understudy.Proofs.Text.Depth
import Understudy.Proofs.TypeName.Search
import Understudy.Proofs.TypeName.Tuple
import Understudy.Proofs.Mock.Stability
import Understudy.Proofs.Text.Brackets
import Understudy.Proofs.Mock.Nesting
import Understudy.Proofs.Text.Pieces
import Understudy.Proofs.Handler.Erasure
import Understudy.Proofs.Handler.Forwarding
import Understudy.Proofs.Output.ImportLines
import Understudy.Proofs.SyntaxTree.Clauses
import Understudy.Proofs.Entity.Annotation
import Understudy.Proofs.Import.Statement
import Understudy.Proofs.Import.Header
import Understudy.Proofs.Dispatch.Semaphore
import Understudy.Proofs.Dispatch.Crew
import Understudy.Proofs.Dispatch.Progress
import Understudy.Proofs.Method.Levels
import Understudy.Proofs.Entity.Members
import Understudy.Proofs.Path.Join
import Understudy.Proofs.FileTree.WellFormed
import Understudy.Proofs.SourceFiles.Discovery
import Understudy.Proofs.SyntaxTree.Variable
import Understudy.Proofs.SyntaxTree.Accessors
import Understudy.Proofs.Mock.RenderedGetter
