import OlapFormula.Editor
import OlapFormula.Main
import OlapFormula.Proofs.Calendar.Differences
import OlapFormula.Proofs.Checks.Domains
import OlapFormula.Proofs.Compiler.Canonical
import OlapFormula.Proofs.Compiler.Derived
import OlapFormula.Proofs.Compiler.Display
import OlapFormula.Proofs.Compiler.Lowered
import OlapFormula.Proofs.Compiler.Normal
import OlapFormula.Proofs.Compiler.Removal
import OlapFormula.Proofs.Compiler.SameTypes
import OlapFormula.Proofs.Compiler.Size
import OlapFormula.Proofs.Compiler.WellFormed
import OlapFormula.Proofs.Compiler.WiderFlags
import OlapFormula.Proofs.Dependency.Acyclic
import OlapFormula.Proofs.Dependency.Cycle
import OlapFormula.Proofs.Editor
import OlapFormula.Proofs.Expr.Limits
import OlapFormula.Proofs.Expr.Parsing
import OlapFormula.Proofs.FormulaText
import OlapFormula.Proofs.Lowering.Membership
import OlapFormula.Proofs.Lowering.Typing
import OlapFormula.Proofs.Model.Dependents
import OlapFormula.Proofs.Model.Members
import OlapFormula.Proofs.Node.RoundTrip
import OlapFormula.Proofs.Presentation.Inverse
import OlapFormula.Proofs.Restriction.Repetitions
import OlapFormula.Proofs.Restriction.Versions
import OlapFormula.Proofs.Text.Search
import OlapFormula.Proofs.Token.Cuts
import OlapFormula.Proofs.Token.Nesting
import OlapFormula.Proofs.Token.Parsed
