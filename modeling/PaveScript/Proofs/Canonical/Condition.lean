import PaveScript.Proofs.Canonical.Word
import PaveScript.Proofs.Grammar.Condition

/-!
# Canonical conditions are read back

The word of a canonical condition derives it: every connective stands in parentheses of its own, so
each side is an atom.
-/

namespace PaveScript

open Grammar Phrase

theorem comparisonToken_sign (op : Comparison) : ComparisonToken (.symbol op.sign) op := by
  cases op
  · exact .less
  · exact .greater
  · exact .lessEqual
  · exact .greaterEqual
  · exact .equals

theorem BoolExpr.derives_word {safe : Bool} {b : BoolExpr}
    (h : b.WellFormed safe Literal.Unsigned) :
    ConditionDerives .atom b.depth b.word b.decimal := by
  induction b with
  | compare op l r =>
    exact .compare (Expr.derives_word h.1).toSum (comparisonToken_sign op)
      (Expr.derives_word h.2).toSum
  | and l r ihl ihr => exact .group (.conjunction (.and (.atom (ihl h.1)) (ihr h.2)))
  | or l r ihl ihr =>
    exact .group (.or (.conjunction (.atom (ihl h.1))) (.atom (ihr h.2)))

theorem BoolExpr.WellFormed.allowed {safe : Bool} {b : BoolExpr}
    (h : b.WellFormed safe Literal.Unsigned) : Allowed safe b.word := by
  induction b with
  | compare op l r => simp [BoolExpr.word, h.1.allowed, h.2.allowed]
  | and l r ihl ihr => simp [BoolExpr.word, ihl h.1, ihr h.2]
  | or l r ihl ihr => simp [BoolExpr.word, ihl h.1, ihr h.2]

end PaveScript
