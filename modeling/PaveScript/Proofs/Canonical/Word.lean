import PaveScript.Proofs.Canonical.Printable
import PaveScript.Proofs.Grammar.Completeness

/-!
# The words of canonical texts

`word` gives the kinds of the tokens of a canonical text, and `decimal` the tree that these tokens
stand for. The two differ from what was written only in hexadecimal numbers, which a canonical text
writes in decimal.

Every word of an expression derives its tree, with the depth that the tree has.
-/

namespace PaveScript

open Grammar Lexer

/-! ## Literals -/

namespace Literal

/-- The decimal literal of the same text: a number without fraction is written without a point. -/
def decimal : Literal → Literal
  | .hexFloat x =>
    if x.isIntegral then .integer (if x.negative then -x.wholePart else x.wholePart) else .real x
  | l => l

/-- Whether the text of a literal starts with a minus sign. -/
def isNegative : Literal → Bool
  | .integer i => i < 0
  | .real x => x.negative
  | .hexFloat x => x.negative

/-- The tokens of the text of a literal. -/
def word (l : Literal) : List TokenKind :=
  if l.isNegative then [.symbol .minus, .number l.decimal.negate] else [.number l.decimal]

theorem derives_word (l : Literal) : NumberDerives 0 l.word (.literal l.decimal) := by
  rw [word]
  split
  · have h := NumberDerives.negated (.number l.decimal.negate)
    rwa [negate_negate] at h
  · exact .literal (.number _)

theorem head?_word_of_not_isNegative {l : Literal} (h : l.isNegative = false) :
    l.word.head? ≠ some (.symbol .minus) := by
  simp [word, h]

/-- Literals without sign are not negative. -/
theorem Unsigned.isNegative {l : Literal} (h : l.Unsigned) : l.isNegative = false := by
  cases l with
  | integer i => simpa [Literal.isNegative, Unsigned, Plain] using h.1
  | real x => exact h.2.1
  | hexFloat x => exact h.2.1

theorem Unsigned.word {l : Literal} (h : l.Unsigned) : l.word = [.number l.decimal] := by
  rw [Literal.word, h.isNegative]
  rfl

end Literal

/-! ## Trees -/

def Numeral.decimal : Numeral → Numeral
  | .literal l => .literal l.decimal
  | .approx n => .approx n.decimal
  | .dec a b => .dec a.decimal b.decimal
  | .rat a l => .rat a.decimal l.decimal

def Expr.decimal : Expr → Expr
  | .number n => .number n.decimal
  | .ident x => .ident x
  | .binary op a b => .binary op a.decimal b.decimal
  | .neg e => .neg e.decimal
  | .call f e => .call f e.decimal

def BoolExpr.decimal : BoolExpr → BoolExpr
  | .compare op a b => .compare op a.decimal b.decimal
  | .and a b => .and a.decimal b.decimal
  | .or a b => .or a.decimal b.decimal

def Interval.decimal (i : Interval) : Interval := ⟨i.lower.decimal, i.upper.decimal⟩

def Binding.decimal (b : Binding) : Binding := ⟨b.name, b.expr.decimal⟩

def Constraint.decimal (c : Constraint) : Constraint := ⟨c.op, c.expr.decimal⟩

def Setting.decimal : Setting → Setting
  | .precision n => .precision n.decimal
  | .resolution l => .resolution l.decimal
  | .variableResolution x l => .variableResolution x l.decimal
  | .granularity l => .granularity l.decimal
  | .depth l => .depth l.decimal
  | .varSelect l => .varSelect l.decimal
  | s => s

/-- The statement that the canonical text stands for. -/
def Statement.decimal : Statement → Statement
  | .declare x i kind => .declare x i.decimal kind
  | .const x n => .const x n.decimal
  | .objective bs e => .objective (bs.map Binding.decimal) e.decimal
  | .differential bs e => .differential (bs.map Binding.decimal) e.decimal
  | .constraint bs c => .constraint (bs.map Binding.decimal) c.decimal
  | .define x e => .define x e.decimal
  | .set s => .set s.decimal
  | .universal b => .universal b.decimal
  | s => s

/-! Without hexadecimal numbers nothing is rewritten. -/

theorem Literal.Plain.decimal {l : Literal} (h : l.Plain) : l.decimal = l := by
  cases l with
  | hexFloat x => exact h.elim
  | _ => rfl

theorem Literal.Signed.decimal {l : Literal} (h : l.Signed Plain) : l.decimal = l := by
  rcases h with h | ⟨m, h, rfl⟩
  · exact h.decimal
  · cases m with
    | hexFloat x => exact h.elim
    | _ => rfl

theorem Numeral.WellFormed.decimal {safe : Bool} {n : Numeral}
    (h : n.WellFormed safe Literal.Plain) : n.decimal = n := by
  induction n with
  | literal l => exact congrArg Numeral.literal (Literal.Signed.decimal h)
  | approx n ih => rw [Numeral.decimal, ih h.2]
  | dec a b iha ihb => rw [Numeral.decimal, iha h.1, ihb h.2]
  | rat a l ih => rw [Numeral.decimal, ih h.1, h.2.decimal]

theorem Expr.WellFormed.decimal {safe : Bool} {e : Expr} (h : e.WellFormed safe Literal.Plain) :
    e.decimal = e := by
  induction e with
  | number n => rw [Expr.decimal, h.numeral.decimal]
  | ident x => rfl
  | binary op a b iha ihb => rw [Expr.decimal, iha h.1, ihb h.2]
  | neg e ih => rw [Expr.decimal, ih h]
  | call f e ih => rw [Expr.decimal, ih h]

theorem BoolExpr.WellFormed.decimal {safe : Bool} {b : BoolExpr}
    (h : b.WellFormed safe Literal.Plain) : b.decimal = b := by
  induction b with
  | compare op l r => rw [BoolExpr.decimal, h.1.decimal, h.2.decimal]
  | and l r ihl ihr => rw [BoolExpr.decimal, ihl h.1, ihr h.2]
  | or l r ihl ihr => rw [BoolExpr.decimal, ihl h.1, ihr h.2]

theorem map_decimal {safe : Bool} {bs : List Binding}
    (h : ∀ b ∈ bs, b.WellFormed safe Literal.Plain) : bs.map Binding.decimal = bs := by
  rw [List.map_congr_left (g := id) fun b hb => ?_, List.map_id]
  rw [Binding.decimal, (h b hb).2.decimal, id]

theorem Setting.WellFormed.decimal {safe : Bool} {s : Setting}
    (h : s.WellFormed safe Literal.Plain) : s.decimal = s := by
  cases s with
  | precision n => rw [Setting.decimal, Numeral.WellFormed.decimal h]
  | resolution l => rw [Setting.decimal, Literal.Plain.decimal h]
  | variableResolution x l => rw [Setting.decimal, h.2.decimal]
  | granularity l => rw [Setting.decimal, Literal.Plain.decimal h]
  | depth l => rw [Setting.decimal, Literal.Plain.decimal h]
  | varSelect l => rw [Setting.decimal, Literal.Plain.decimal h]
  | _ => rfl

theorem Statement.WellFormed.decimal {safe : Bool} {s : Statement}
    (h : s.WellFormed safe Literal.Plain) : s.decimal = s := by
  cases s with
  | declare x i kind => rw [Statement.decimal, Interval.decimal, h.2.1.decimal, h.2.2.decimal]
  | const x n => rw [Statement.decimal, h.2.decimal]
  | objective bs e => rw [Statement.decimal, map_decimal h.1, h.2.decimal]
  | differential bs e => rw [Statement.decimal, map_decimal h.1, h.2.decimal]
  | constraint bs c => rw [Statement.decimal, map_decimal h.1, Constraint.decimal, h.2.decimal]
  | define x e => rw [Statement.decimal, h.2.decimal]
  | set s => rw [Statement.decimal, Setting.WellFormed.decimal h]
  | universal b => rw [Statement.decimal, BoolExpr.WellFormed.decimal h]
  | _ => rfl

/-! ## Words of expressions -/

def Numeral.word : Numeral → List TokenKind
  | .literal l => l.word
  | .approx n => .keyword .approx :: .symbol .openParen :: (n.word ++ [.symbol .closeParen])
  | .dec a b =>
    .keyword .dec :: .symbol .openParen ::
      (a.word ++ .symbol .comma :: (b.word ++ [.symbol .closeParen]))
  | .rat a l =>
    .keyword .rat :: .symbol .openParen ::
      (a.word ++ .symbol .comma :: .number l.decimal :: [.symbol .closeParen])

def Expr.word : Expr → List TokenKind
  | .number n => n.word
  | .ident x => [.identifier x]
  | .binary op a b =>
    .symbol .openParen ::
      (a.word ++ .symbol op.sign :: b.word ++ [.symbol .closeParen])
  | .neg e => .symbol .minus :: e.word
  | .call f e =>
    .keyword (.func f) :: .symbol .openParen :: (e.word ++ [.symbol .closeParen])

def BoolExpr.word : BoolExpr → List TokenKind
  | .compare op a b => a.word ++ .symbol op.sign :: b.word
  | .and a b =>
    .symbol .openParen :: (a.word ++ .keyword .and :: b.word ++ [.symbol .closeParen])
  | .or a b =>
    .symbol .openParen :: (a.word ++ .keyword .or :: b.word ++ [.symbol .closeParen])

/-! ## Words of statements -/

def Binding.word (b : Binding) : List TokenKind :=
  .identifier b.name :: .symbol .equals :: b.expr.word

/-- The links of a let chain with commas between them. -/
def linksWord (bs : List Binding) : List TokenKind :=
  [.symbol .comma].intercalate (bs.map Binding.word)

@[simp]
theorem linksWord_singleton (b : Binding) : linksWord [b] = b.word := by
  simp [linksWord]

@[simp]
theorem linksWord_cons_cons (b c : Binding) (bs : List Binding) :
    linksWord (b :: c :: bs) = b.word ++ .symbol .comma :: linksWord (c :: bs) := by
  simp [linksWord]

def bindingsWord (bs : List Binding) : List TokenKind :=
  if bs.isEmpty then [] else .keyword .letIn :: (linksWord bs ++ [.keyword .within])

/-- The token of a file name. -/
def fileToken (path : String) : TokenKind :=
  if extension? path.toList = some ['k', 'd', 'k'] then .inputFile path else .outputFile path

def Setting.word : Setting → List TokenKind
  | .precision n => .keyword .precision :: .symbol .equals :: n.word
  | .resolution l => [.keyword .resolution, .symbol .equals, .number l.decimal]
  | .variableResolution x l =>
    [.keyword .resolution, .identifier x, .symbol .equals, .number l.decimal]
  | .granularity l => [.keyword .granularity, .symbol .equals, .number l.decimal]
  | .depth l => [.keyword .depth, .symbol .equals, .number l.decimal]
  | .varSelect l => [.keyword .varSelect, .symbol .equals, .number l.decimal]
  | .bp b => [.keyword .bp, .symbol .equals, truthWord b]
  | .safeInput b => [.keyword .safe, .keyword .input, .symbol .equals, truthWord b]
  | .debug b => [.keyword .debug, .symbol .equals, truthWord b]
  | .name x => [.keyword .name, .symbol .equals, .identifier x]
  | .output file => [.keyword .output, .symbol .equals, fileToken file]
  | .pavingMode mode => [.keyword .paving, .keyword .mode, .symbol .equals, .keyword mode.keyword]

namespace Statement

/-- The keyword that a statement starts with. -/
def head : Statement → Keyword
  | .declare _ _ kind => kind.keyword
  | .const .. => .constant
  | .objective .. => .objfn
  | .differential .. => .dfeq
  | .constraint .. => .cnstr
  | .define .. => .define
  | .set _ => .setting
  | .resetOutput => .reset
  | .action a => a.keyword
  | .savePaving _ => .save
  | .loadPaving _ => .load
  | .plot .. => .plot
  | .universal _ => .universal
  | .readFile _ => .file
  | .quit => .quit
  | .help => .help

/-- The tokens behind the keyword. -/
def body : Statement → List TokenKind
  | .declare x i _ =>
    .identifier x :: .keyword .within :: .symbol .openBracket ::
      (i.lower.word ++ .symbol .comma :: (i.upper.word ++ [.symbol .closeBracket]))
  | .const x n => .identifier x :: .symbol .equals :: n.word
  | .objective bs e => bindingsWord bs ++ e.word
  | .differential bs e => bindingsWord bs ++ e.word
  | .constraint bs c =>
    bindingsWord bs ++ (c.expr.word ++ [.symbol c.op.sign, .number (.integer 0)])
  | .define x e => .identifier x :: .symbol .equals :: e.word
  | .set s => s.word
  | .resetOutput => [.keyword .output]
  | .savePaving x => [.keyword .paving, .identifier x]
  | .loadPaving x => [.keyword .paving, .identifier x]
  | .plot x axes => .identifier x :: axes.names.map .identifier
  | .universal b => b.word
  | .readFile path => [.inputFile path]
  | _ => []

/-- The tokens of a statement without the semicolon. -/
def word (s : Statement) : List TokenKind := .keyword s.head :: s.body

end Statement

/-! ## Derivations -/

/-- The word of a number derives the number. -/
theorem Numeral.derives_word (n : Numeral) : NumberDerives n.depth n.word n.decimal := by
  induction n with
  | literal l => exact l.derives_word
  | approx n ih => exact .approx ih
  | dec a b iha ihb => exact .dec iha ihb
  | rat a l ih => exact .rat l.decimal ih

/-- Two operands that stand under any operator, with the parentheses around them. -/
theorem derives_binary (op : BinaryOp) {m n : Nat} {v w : List TokenKind} {a b : Expr}
    (ha : Derives .unary m v a) (hb : Derives .unary n w b) :
    Derives .sum (max m n) (v ++ .symbol op.sign :: w) (.binary op a b) := by
  have ha' : Derives .power m v a := .unary ha
  have hb' : Derives .power n w b := .unary hb
  cases op with
  | add => exact .add (.product (.power ha')) (.power hb')
  | sub => exact .sub (.product (.power ha')) (.power hb')
  | mul => exact .product (.mul (.power ha') hb')
  | div => exact .product (.div (.power ha') hb')
  | pow => exact .product (.power (.pow ha' hb))

/-- **The word of an expression derives the expression,** which needs no parentheses around it. -/
theorem Expr.derives_word {safe : Bool} {e : Expr} (h : e.WellFormed safe Literal.Unsigned) :
    Derives .unary e.depth e.word e.decimal := by
  induction e with
  | number n =>
    -- a sign in front of the number would belong to the expression
    refine .primary (.number n.derives_word ?_)
    cases n with
    | literal l =>
      exact Literal.head?_word_of_not_isNegative (Literal.Unsigned.isNegative h)
    | approx n => simp [Expr.word, Numeral.word]
    | dec a b => simp [Expr.word, Numeral.word]
    | rat a l => simp [Expr.word, Numeral.word]
  | ident x => exact .primary (.ident x)
  | binary op a b iha ihb =>
    -- the parentheses make an operand of the sum
    exact .primary (.group (derives_binary op (iha h.1) (ihb h.2)))
  | neg e ih => exact .neg (ih h)
  | call f e ih => exact .primary (.call f (ih h).toSum)

/-! ## Safe input -/

theorem Literal.allowed_word (safe : Bool) (l : Literal) : Allowed safe l.word := by
  intro _
  rw [word]
  split <;> simp

/-- A number that is no approximation under safe input has none in its word. -/
theorem Numeral.WellFormed.allowed {safe : Bool} {lit : Literal → Prop} {n : Numeral}
    (h : n.WellFormed safe lit) : Allowed safe n.word := by
  induction n with
  | literal l => exact l.allowed_word safe
  | approx n ih =>
    intro hsafe
    rw [h.1] at hsafe
    cases hsafe
  | dec a b iha ihb => simp [Numeral.word, iha h.1, ihb h.2]
  | rat a l ih => simp [Numeral.word, ih h.1]

theorem Expr.WellFormed.allowed {safe : Bool} {lit : Literal → Prop} {e : Expr}
    (h : e.WellFormed safe lit) : Allowed safe e.word := by
  induction e with
  | number n => exact h.numeral.allowed
  | ident x => simp [Expr.word]
  | binary op a b iha ihb => simp [Expr.word, iha h.1, ihb h.2]
  | neg e ih => simp [Expr.word, ih h]
  | call f e ih => simp [Expr.word, ih h]

end PaveScript
