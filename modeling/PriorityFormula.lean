import PriorityFormula.Script.Step
import PriorityFormula.Proofs.Number.Ladder
import PriorityFormula.Proofs.Number.Numeral
import PriorityFormula.Proofs.Reader.Lexing
import PriorityFormula.Proofs.Reader.Parsing
import PriorityFormula.Proofs.Reader.Tree
import PriorityFormula.Proofs.Statement.Regrouped
import PriorityFormula.Proofs.Statement.Tree
import PriorityFormula.Proofs.Reader.Spelling
import PriorityFormula.Proofs.Statement.Printed
import PriorityFormula.Proofs.Statement.Reread
import PriorityFormula.Proofs.Chain.Additive
import PriorityFormula.Proofs.Chain.Logical
import PriorityFormula.Proofs.Normalize.Derivation
import PriorityFormula.Proofs.Normalize.Boolean
import PriorityFormula.Proofs.Normalize.Numeric
import PriorityFormula.Proofs.Statement.LeansLeft
import PriorityFormula.Proofs.Normalize.Canonical
import PriorityFormula.Proofs.Statement.Laws
import PriorityFormula.Proofs.Normalize.Equality
import PriorityFormula.Proofs.Statement.Alike
import PriorityFormula.Proofs.Chain.Created
import PriorityFormula.Proofs.Normalize.Text
import PriorityFormula.Proofs.Ownership.Conservation
import PriorityFormula.Proofs.Normalize.Failure
import PriorityFormula.Proofs.Statement.Outline
import PriorityFormula.Proofs.Normalize.Reread
import PriorityFormula.Proofs.Ownership.Compounds
import PriorityFormula.Proofs.Ownership.Survival
import PriorityFormula.Proofs.Chain.Flat
import PriorityFormula.Proofs.Normalize.Created
import PriorityFormula.Proofs.Normalize.Rounded
import PriorityFormula.Proofs.Statement.Nodes
import PriorityFormula.Proofs.Normalize.Continuation
import PriorityFormula.Proofs.Normalize.Log
import PriorityFormula.Proofs.Reader.Grammar
import PriorityFormula.Proofs.Reader.Tokenization
import PriorityFormula.Proofs.Reader.Precedence
import PriorityFormula.Proofs.Reader.Meaning
import PriorityFormula.Proofs.Reader.Acceptance
import PriorityFormula.Proofs.Reader.Evaluation
import PriorityFormula.Proofs.Statement.Paths
import PriorityFormula.Proofs.Statement.Dependence
import PriorityFormula.Proofs.Statement.Names
import PriorityFormula.Proofs.Normalize.Anonymity
import PriorityFormula.Proofs.Chain.Places
import PriorityFormula.Proofs.Number.Nearest
import PriorityFormula.Proofs.Number.Bits
import PriorityFormula.Proofs.Number.Shortest
import PriorityFormula.Proofs.Statement.Literal
