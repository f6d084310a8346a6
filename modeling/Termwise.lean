import Termwise.Equivalence.History
import Termwise.Equivalence.Strict
import Termwise.Main
import Termwise.Print.Flat
import Termwise.Proofs.Reduction.Equations
import Termwise.Proofs.Schema.TreeForm
import Termwise.Proofs.Service.Posting
import Termwise.Proofs.Syntax.Refusal
import Termwise.Text.Charset
import Termwise.Proofs.Equivalence.History
import Termwise.Proofs.Service.Operands
import Termwise.Proofs.CommandLine.Number
import Termwise.Proofs.CommandLine.Words
import Termwise.Proofs.CommandLine.Orders
import Termwise.Proofs.CommandLine.Comparing
import Termwise.Proofs.Service.Comparisons
import Termwise.Proofs.Surfaces
import Termwise.Proofs.Reduction.Integers
import Termwise.Proofs.Reduction.Tracing
import Termwise.Proofs.Syntax.Tiling
import Termwise.Proofs.Equivalence.Strict
import Termwise.Proofs.Equivalence.Exchange
import Termwise.Proofs.Equivalence.Monotonicity
import Termwise.Proofs.Equivalence.Renaming
import Termwise.Proofs.Print.Injectivity
import Termwise.Text.Word
import Termwise.Proofs.Print.TypesetForm
import Termwise.Proofs.Print.Grouping
import Termwise.Proofs.Tree.Folding
import Termwise.Proofs.Reduction.Progress
import Termwise.Proofs.Reduction.Depth
import Termwise.Proofs.Schema.Negative
import Termwise.Proofs.Syntax.Moving
import Termwise.Proofs.CommandLine.Texts
import Termwise.Proofs.CommandLine.Sources
import Termwise.Proofs.Tree.Walk
import Termwise.Proofs.Syntax.Consumption
import Termwise.Proofs.Double.Order
import Termwise.Proofs.Double.Text
import Termwise.Proofs.CommandLine.Reports
