import ExprLang.Command.Run
import ExprLang.Context.Text
import ExprLang.Main
import ExprLang.Proofs.Coercion.Soundness
import ExprLang.Proofs.Evaluation.Failure
import ExprLang.Proofs.Resolution.Flag
import ExprLang.Proofs.Syntax.TreesSound.Productions
import ExprLang.Settings
import ExprLang.Proofs.Equality.Covering
import ExprLang.Proofs.Number.Decimal
import ExprLang.Proofs.Equality.Structural
import ExprLang.Proofs.Comparison.Numeric
import ExprLang.Proofs.Syntax.TokensKept.Combinators
import ExprLang.Proofs.Syntax.TokensKept.Productions
import ExprLang.Proofs.Syntax.RestIrrelevant.Combinators
import ExprLang.Proofs.Syntax.RestIrrelevant.Productions
import ExprLang.Proofs.Syntax.Closing
import ExprLang.Proofs.Syntax.Embedding
import ExprLang.Proofs.Comparison.Trichotomy
import ExprLang.Proofs.Evaluation.Assigned
import ExprLang.Proofs.Resolution.Chain
import ExprLang.Proofs.Evaluation.ReadBack
import ExprLang.Proofs.Correspondence.Values
import ExprLang.Proofs.Correspondence.Rules
import ExprLang.Proofs.Correspondence.Coercions
import ExprLang.Proofs.Correspondence.Resolvers
import ExprLang.Proofs.Correspondence.Evaluations
import ExprLang.Proofs.Evaluation.Adapters
import ExprLang.Proofs.Evaluation.Lexical
import ExprLang.Proofs.Evaluation.Compositional
import ExprLang.Proofs.Evaluation.Declarations
import ExprLang.Proofs.Evaluation.ZeroMode
import ExprLang.Proofs.Evaluation.Declining
import ExprLang.Proofs.Equality.Distinct
import ExprLang.Proofs.Evaluation.Duplicates
import ExprLang.Proofs.Coercion.Primitives
import ExprLang.Proofs.Coercion.Written
import ExprLang.Proofs.Syntax.Places
import ExprLang.Proofs.Syntax.SpellingIrrelevant.Combinators
import ExprLang.Proofs.Syntax.SpellingIrrelevant.Productions
import ExprLang.Proofs.Syntax.Positions
import ExprLang.Proofs.Syntax.Progress
import ExprLang.Proofs.Syntax.Layout
import ExprLang.Proofs.Syntax.Composition
import ExprLang.Proofs.Syntax.Rereading
import ExprLang.Proofs.Syntax.Respaced
import ExprLang.Proofs.Coercion.Narrowing
import ExprLang.Proofs.Coercion.Floating
import ExprLang.Proofs.Arithmetic.Exactness
import ExprLang.Proofs.Arithmetic.Remainders
import ExprLang.Proofs.Coercion.Dedicated
import ExprLang.Proofs.Comparison.Kinds
import ExprLang.Proofs.Evaluation.Refused
import ExprLang.Proofs.Resolution.Nesting
import ExprLang.Proofs.Syntax.Strings
import ExprLang.Proofs.Syntax.Depth
import ExprLang.Proofs.Syntax.Suffixes
import ExprLang.Proofs.Equality.Maps
import ExprLang.Proofs.Value.Json
import ExprLang.Proofs.ValueType.Names
import ExprLang.Proofs.Syntax.HeadLookahead
