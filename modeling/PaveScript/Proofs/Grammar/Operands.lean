import PaveScript.Proofs.Literals

/-!
# The operands of an expression

The tree of an expression is put together by chains that group to the left, by signs and by groups
that leave no trace, and the names of a tree are collected by a traversal of its own. Still, the
leaves of the tree are the operands of the word in the order of the word: none is lost, none is
doubled and none changes its place.

* `Derives.identifiers_eq` — the names of a tree are those of its word
* `operands_of_run` — the operands of an expression that was read
-/

namespace PaveScript.Grammar

open Phrase

/-- The names of a word, from left to right. -/
def namesOf (w : List TokenKind) : List String := w.filterMap name?

@[simp]
theorem namesOf_nil : namesOf [] = [] := rfl

@[simp]
theorem namesOf_append (v w : List TokenKind) : namesOf (v ++ w) = namesOf v ++ namesOf w :=
  List.filterMap_append

@[simp]
theorem namesOf_identifier (x : String) (w : List TokenKind) :
    namesOf (.identifier x :: w) = x :: namesOf w := rfl

@[simp]
theorem namesOf_symbol (s : Symbol) (w : List TokenKind) :
    namesOf (.symbol s :: w) = namesOf w := rfl

@[simp]
theorem namesOf_keyword (k : Keyword) (w : List TokenKind) :
    namesOf (.keyword k :: w) = namesOf w := rfl

@[simp]
theorem namesOf_number (l : Literal) (w : List TokenKind) :
    namesOf (.number l :: w) = namesOf w := rfl

/-- No name stands in a number. -/
theorem NumberDerives.namesOf_eq_nil {n : Nat} {w : List TokenKind} {a : Numeral}
    (h : NumberDerives n w a) : namesOf w = [] := by
  induction h with
  | literal h => cases h <;> rfl
  | negated h => cases h <;> rfl
  | approx h ih => simp [ih]
  | dec ha hb iha ihb => simp [iha, ihb]
  | rat l h ih => simp [ih]

/-- **The names of an expression are those of its word,** in the same order and as often. -/
theorem Derives.identifiers_eq {l : Level} {n : Nat} {w : List TokenKind} {e : Expr}
    (h : Derives l n w e) : e.identifiers = namesOf w := by
  induction h with
  | number h unsigned => exact h.namesOf_eq_nil.symm
  | ident x => rfl
  | group h ih => simp [ih]
  | call f h ih => simp [ih, Expr.identifiers]
  | primary h ih => exact ih
  | neg h ih => simp [ih, Expr.identifiers]
  | unary h ih => exact ih
  | power h ih => exact ih
  | product h ih => exact ih
  | pow ha hb iha ihb => simp [iha, ihb, Expr.identifiers]
  | mul ha hb iha ihb => simp [iha, ihb, Expr.identifiers]
  | div ha hb iha ihb => simp [iha, ihb, Expr.identifiers]
  | add ha hb iha ihb => simp [iha, ihb, Expr.identifiers]
  | sub ha hb iha ihb => simp [iha, ihb, Expr.identifiers]

/--
**Reading neither loses, doubles nor moves an operand.** However many levels are left, the names of
an expression that was read are those of the identifiers among the tokens that it took, in their
order and with repetitions, and its literals are those of the numbers among these tokens, one for
one and in their order, each as it stands or negated.
-/
theorem operands_of_run {safe : Bool} {room : Nat} {ts rest : List Token} {e : Expr}
    (h : (expressionIn safe room).run ts = .ok e rest) :
    ∃ used, ts = used ++ rest ∧
      e.identifiers = used.filterMap (fun t => name? t.kind) ∧
      List.Forall₂ Literal.UpToSign (used.filterMap fun t => literal? t.kind) e.literals := by
  obtain ⟨used, hts, ⟨n, -, hderives, -⟩, -⟩ := yields_expressionIn safe room ts e rest h
  refine ⟨used, hts, ?_, ?_⟩
  · rw [hderives.identifiers_eq, namesOf, List.filterMap_map]
    rfl
  · have hliterals := hderives.accounts.literals
    rwa [List.filterMap_map] at hliterals

def wedgeTokens : List Token := (Scan.ofText "-(x + rat(-1, 3)) * sin(x ^ 0x1); y").tokens

/-- A name stands twice, the `y` behind the semicolon is not taken, and a sign belongs to a literal
only inside `rat`. -/
theorem operands_of_run_wedge :
    ∃ e rest used, (expressionIn true 3).run wedgeTokens = .ok e rest ∧ rest.length = 2 ∧
      wedgeTokens = used ++ rest ∧
      ["x", "x"] = used.filterMap (fun t => name? t.kind) ∧
      List.Forall₂ Literal.UpToSign (used.filterMap fun t => literal? t.kind)
        [.integer (-1), .integer 3, .hexFloat (.ofInt 1)] := by
  have hread : (match (expressionIn true 3).run wedgeTokens with
      | .ok e rest => decide (rest.length = 2 ∧ e.identifiers = ["x", "x"] ∧
        e.literals = [.integer (-1), .integer 3, .hexFloat (.ofInt 1)])
      | .fail _ _ => false) = true := by
    decide +kernel
  cases hrun : (expressionIn true 3).run wedgeTokens with
  | fail fault rest =>
    rw [hrun] at hread
    cases hread
  | ok e rest =>
    rw [hrun] at hread
    obtain ⟨hlength, hnames, hliterals⟩ := of_decide_eq_true hread
    obtain ⟨used, hts, hidentifiers, hnumbers⟩ := operands_of_run hrun
    rw [hnames] at hidentifiers
    rw [hliterals] at hnumbers
    exact ⟨e, rest, used, rfl, hlength, hts, hidentifiers, hnumbers⟩

end PaveScript.Grammar
