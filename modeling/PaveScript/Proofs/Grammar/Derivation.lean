import PaveScript.Grammar.Expr
import PaveScript.Statement

/-!
# Derivations

The grammar as rules, apart from any parser:

```text
sum         → product | sum (+ | -) product
product     → power   | product (* | /) power
power       → unary   | power ^ unary
unary       → primary | - unary
primary     → unsigned number | NAME | ( sum ) | FUNCTION ( sum )
number      → [-] (NUMBER | HEX)
            | approx ( number ) | dec ( number , number ) | rat ( number , NUMBER )
disjunction → conjunction | disjunction or conjunction
conjunction → atom | conjunction and atom
atom        → sum COMPARISON sum | ( disjunction )
links       → NAME = sum | NAME = sum , links
preamble    → [=] [let links in]
statement   → (var | param) NAME in [ sum , sum ]
            | const NAME = number
            | (objfn | dfeq) preamble sum
            | cnstr preamble sum COMPARISON sum
            | define NAME = sum
            | set setting
            | reset [output] | pave | bifurcation | equilibrium | min | max | minmax
            | (save | load) paving NAME
            | plot NAME NAME NAME [NAME]
            | forall disjunction
            | file SCRIPT | quit | exit | help
setting     → precision = number
            | resolution [NAME] = NUMBER
            | (granularity | depth | varselect) = NUMBER
            | (bp | safe input | debug) = (true | false)
            | name = NAME | output = FILE
            | paving mode = (std | first | full)
```

The rules of operators are left-recursive, so the trees group to the left. A derivation also counts
how deep its word nests: a token is one level further in for every group, call, argument of `approx`
or `dec`, first argument of `rat` and minus sign of an expression around it. The sign of a signed
number is part of the number and adds no level.
-/

namespace PaveScript

/-! ## Keywords -/

def VarKind.keyword : VarKind → Keyword
  | .var => .var
  | .param => .param

def Action.keyword : Action → Keyword
  | .pave => .pave
  | .bifurcation => .bifurcation
  | .equilibrium => .equilibrium
  | .min => .min
  | .max => .max
  | .minMax => .minMax
  | .reset => .reset

def PavingMode.keyword : PavingMode → Keyword
  | .std => .std
  | .first => .first
  | .full => .full

def truthWord (b : Bool) : TokenKind := .keyword (if b then .yes else .no)

end PaveScript

namespace PaveScript.Grammar

/-! ## Numbers -/

/-- The literal that a token is. -/
inductive LiteralToken : TokenKind → Literal → Prop where
  | number (l : Literal) : LiteralToken (.number l) l
  | hexFloat (x : Double) : LiteralToken (.hexFloat x) (.hexFloat x)

/-- `NumberDerives n w a`: the word `w` derives the number `a` and nests `n` deep. -/
inductive NumberDerives : Nat → List TokenKind → Numeral → Prop where
  | literal {k : TokenKind} {l : Literal} (h : LiteralToken k l) :
    NumberDerives 0 [k] (.literal l)
  | negated {k : TokenKind} {l : Literal} (h : LiteralToken k l) :
    NumberDerives 0 [.symbol .minus, k] (.literal l.negate)
  | approx {n : Nat} {w : List TokenKind} {a : Numeral} (h : NumberDerives n w a) :
    NumberDerives (n + 1)
      (.keyword .approx :: .symbol .openParen :: (w ++ [.symbol .closeParen])) (.approx a)
  | dec {m n : Nat} {v w : List TokenKind} {a b : Numeral} (ha : NumberDerives m v a)
    (hb : NumberDerives n w b) :
    NumberDerives (max m n + 1)
      (.keyword .dec :: .symbol .openParen ::
        (v ++ .symbol .comma :: (w ++ [.symbol .closeParen]))) (.dec a b)
  | rat {n : Nat} {w : List TokenKind} {a : Numeral} (l : Literal) (h : NumberDerives n w a) :
    NumberDerives (n + 1)
      (.keyword .rat :: .symbol .openParen ::
        (w ++ [.symbol .comma, .number l, .symbol .closeParen])) (.rat a l)

/-! ## Expressions -/

/-- The levels of precedence, the loosest first. -/
inductive Level where
  | sum | product | power | unary | primary
deriving DecidableEq

/-- `Derives l n w e`: the word `w` derives the expression `e` at level `l` and nests `n` deep. -/
inductive Derives : Level → Nat → List TokenKind → Expr → Prop where
  | number {n : Nat} {w : List TokenKind} {a : Numeral} (h : NumberDerives n w a)
    (unsigned : w.head? ≠ some (.symbol .minus)) : Derives .primary n w (.number a)
  | ident (x : String) : Derives .primary 0 [.identifier x] (.ident x)
  | group {n : Nat} {w : List TokenKind} {e : Expr} (h : Derives .sum n w e) :
    Derives .primary (n + 1) (.symbol .openParen :: (w ++ [.symbol .closeParen])) e
  | call {n : Nat} {w : List TokenKind} {e : Expr} (f : Function) (h : Derives .sum n w e) :
    Derives .primary (n + 1)
      (.keyword (.func f) :: .symbol .openParen :: (w ++ [.symbol .closeParen])) (.call f e)
  | primary {n : Nat} {w : List TokenKind} {e : Expr} (h : Derives .primary n w e) :
    Derives .unary n w e
  | neg {n : Nat} {w : List TokenKind} {e : Expr} (h : Derives .unary n w e) :
    Derives .unary (n + 1) (.symbol .minus :: w) (.neg e)
  | unary {n : Nat} {w : List TokenKind} {e : Expr} (h : Derives .unary n w e) :
    Derives .power n w e
  | pow {m n : Nat} {v w : List TokenKind} {a b : Expr} (ha : Derives .power m v a)
    (hb : Derives .unary n w b) :
    Derives .power (max m n) (v ++ .symbol .caret :: w) (.binary .pow a b)
  | power {n : Nat} {w : List TokenKind} {e : Expr} (h : Derives .power n w e) :
    Derives .product n w e
  | mul {m n : Nat} {v w : List TokenKind} {a b : Expr} (ha : Derives .product m v a)
    (hb : Derives .power n w b) :
    Derives .product (max m n) (v ++ .symbol .star :: w) (.binary .mul a b)
  | div {m n : Nat} {v w : List TokenKind} {a b : Expr} (ha : Derives .product m v a)
    (hb : Derives .power n w b) :
    Derives .product (max m n) (v ++ .symbol .slash :: w) (.binary .div a b)
  | product {n : Nat} {w : List TokenKind} {e : Expr} (h : Derives .product n w e) :
    Derives .sum n w e
  | add {m n : Nat} {v w : List TokenKind} {a b : Expr} (ha : Derives .sum m v a)
    (hb : Derives .product n w b) :
    Derives .sum (max m n) (v ++ .symbol .plus :: w) (.binary .add a b)
  | sub {m n : Nat} {v w : List TokenKind} {a b : Expr} (ha : Derives .sum m v a)
    (hb : Derives .product n w b) :
    Derives .sum (max m n) (v ++ .symbol .minus :: w) (.binary .sub a b)

/-- An operand with its signs is an expression of every looser level. -/
theorem Derives.toSum {n : Nat} {w : List TokenKind} {e : Expr} (h : Derives .unary n w e) :
    Derives .sum n w e :=
  .product (.power (.unary h))

/-! ## Conditions -/

/-- The comparison that a token is. -/
inductive ComparisonToken : TokenKind → Comparison → Prop where
  | less : ComparisonToken (.symbol .less) .lt
  | greater : ComparisonToken (.symbol .greater) .gt
  | lessEqual : ComparisonToken (.symbol .lessEqual) .le
  | greaterEqual : ComparisonToken (.symbol .greaterEqual) .ge
  | equals : ComparisonToken (.symbol .equals) .eq

/-- The levels of a condition, the loosest first. -/
inductive Junction where
  | disjunction | conjunction | atom
deriving DecidableEq

/-- `ConditionDerives l n w b`: the word `w` derives the condition `b` at level `l` and nests `n`
deep. -/
inductive ConditionDerives : Junction → Nat → List TokenKind → BoolExpr → Prop where
  | compare {m n : Nat} {v w : List TokenKind} {k : TokenKind} {op : Comparison} {a b : Expr}
    (ha : Derives .sum m v a) (hk : ComparisonToken k op) (hb : Derives .sum n w b) :
    ConditionDerives .atom (max m n) (v ++ k :: w) (.compare op a b)
  | group {n : Nat} {w : List TokenKind} {b : BoolExpr} (h : ConditionDerives .disjunction n w b) :
    ConditionDerives .atom (n + 1) (.symbol .openParen :: (w ++ [.symbol .closeParen])) b
  | atom {n : Nat} {w : List TokenKind} {b : BoolExpr} (h : ConditionDerives .atom n w b) :
    ConditionDerives .conjunction n w b
  | and {m n : Nat} {v w : List TokenKind} {a b : BoolExpr}
    (ha : ConditionDerives .conjunction m v a) (hb : ConditionDerives .atom n w b) :
    ConditionDerives .conjunction (max m n) (v ++ .keyword .and :: w) (.and a b)
  | conjunction {n : Nat} {w : List TokenKind} {b : BoolExpr}
    (h : ConditionDerives .conjunction n w b) : ConditionDerives .disjunction n w b
  | or {m n : Nat} {v w : List TokenKind} {a b : BoolExpr}
    (ha : ConditionDerives .disjunction m v a) (hb : ConditionDerives .conjunction n w b) :
    ConditionDerives .disjunction (max m n) (v ++ .keyword .or :: w) (.or a b)

/-! ## Statements -/

/-- The links of a let chain. -/
inductive LinksDerive : Nat → List TokenKind → List Binding → Prop where
  | last {n : Nat} {w : List TokenKind} {e : Expr} (x : String) (h : Derives .sum n w e) :
    LinksDerive n (.identifier x :: .symbol .equals :: w) [⟨x, e⟩]
  | cons {m n : Nat} {v w : List TokenKind} {e : Expr} {bs : List Binding} (x : String)
    (h : Derives .sum m v e) (hs : LinksDerive n w bs) :
    LinksDerive (max m n) (.identifier x :: .symbol .equals :: (v ++ .symbol .comma :: w))
      (⟨x, e⟩ :: bs)

/-- A let chain with the `in` that closes it, or nothing. -/
inductive BindingsDerive : Nat → List TokenKind → List Binding → Prop where
  | none : BindingsDerive 0 [] []
  | chain {n : Nat} {w : List TokenKind} {bs : List Binding} (h : LinksDerive n w bs) :
    BindingsDerive n (.keyword .letIn :: (w ++ [.keyword .within])) bs

/-- What may stand in front of the body of a problem statement. -/
inductive PreambleDerives : Nat → List TokenKind → List Binding → Prop where
  | bare {n : Nat} {w : List TokenKind} {bs : List Binding} (h : BindingsDerive n w bs) :
    PreambleDerives n w bs
  | equals {n : Nat} {w : List TokenKind} {bs : List Binding} (h : BindingsDerive n w bs) :
    PreambleDerives n (.symbol .equals :: w) bs

/-- The file that a token names. -/
inductive FileToken : TokenKind → String → Prop where
  | input (file : String) : FileToken (.inputFile file) file
  | output (file : String) : FileToken (.outputFile file) file

/-- `SettingDerives n w s`: the word `w` behind `set` derives the setting `s`. -/
inductive SettingDerives : Nat → List TokenKind → Setting → Prop where
  | precision {n : Nat} {w : List TokenKind} {a : Numeral} (h : NumberDerives n w a) :
    SettingDerives n (.keyword .precision :: .symbol .equals :: w) (.precision a)
  | resolution (l : Literal) :
    SettingDerives 0 [.keyword .resolution, .symbol .equals, .number l] (.resolution l)
  | variableResolution (x : String) (l : Literal) :
    SettingDerives 0 [.keyword .resolution, .identifier x, .symbol .equals, .number l]
      (.variableResolution x l)
  | granularity (l : Literal) :
    SettingDerives 0 [.keyword .granularity, .symbol .equals, .number l] (.granularity l)
  | depth (l : Literal) :
    SettingDerives 0 [.keyword .depth, .symbol .equals, .number l] (.depth l)
  | varSelect (l : Literal) :
    SettingDerives 0 [.keyword .varSelect, .symbol .equals, .number l] (.varSelect l)
  | bp (b : Bool) : SettingDerives 0 [.keyword .bp, .symbol .equals, truthWord b] (.bp b)
  | safeInput (b : Bool) :
    SettingDerives 0 [.keyword .safe, .keyword .input, .symbol .equals, truthWord b] (.safeInput b)
  | debug (b : Bool) : SettingDerives 0 [.keyword .debug, .symbol .equals, truthWord b] (.debug b)
  | name (x : String) : SettingDerives 0 [.keyword .name, .symbol .equals, .identifier x] (.name x)
  | output {k : TokenKind} {file : String} (h : FileToken k file) :
    SettingDerives 0 [.keyword .output, .symbol .equals, k] (.output file)
  | pavingMode (mode : PavingMode) :
    SettingDerives 0 [.keyword .paving, .keyword .mode, .symbol .equals, .keyword mode.keyword]
      (.pavingMode mode)

/-- `StatementDerives n w s`: the word `w` derives the statement `s` and nests `n` deep. -/
inductive StatementDerives : Nat → List TokenKind → Statement → Prop where
  | declare {m n : Nat} {v w : List TokenKind} {a b : Expr} (kind : VarKind) (x : String)
    (ha : Derives .sum m v a) (hb : Derives .sum n w b) :
    StatementDerives (max m n)
      (.keyword kind.keyword :: .identifier x :: .keyword .within :: .symbol .openBracket ::
        (v ++ .symbol .comma :: (w ++ [.symbol .closeBracket]))) (.declare x ⟨a, b⟩ kind)
  | const {n : Nat} {w : List TokenKind} {a : Numeral} (x : String) (h : NumberDerives n w a) :
    StatementDerives n (.keyword .constant :: .identifier x :: .symbol .equals :: w) (.const x a)
  | objective {m n : Nat} {v w : List TokenKind} {bs : List Binding} {e : Expr}
    (hbs : PreambleDerives m v bs) (he : Derives .sum n w e) :
    StatementDerives (max m n) (.keyword .objfn :: (v ++ w)) (.objective bs e)
  | differential {m n : Nat} {v w : List TokenKind} {bs : List Binding} {e : Expr}
    (hbs : PreambleDerives m v bs) (he : Derives .sum n w e) :
    StatementDerives (max m n) (.keyword .dfeq :: (v ++ w)) (.differential bs e)
  | constraint {l m n : Nat} {u v w : List TokenKind} {k : TokenKind} {bs : List Binding}
    {op : Comparison} {a b : Expr} (hbs : PreambleDerives l u bs) (ha : Derives .sum m v a)
    (hk : ComparisonToken k op) (hb : Derives .sum n w b) :
    StatementDerives (max l (max m n)) (.keyword .cnstr :: (u ++ (v ++ k :: w)))
      (.constraint bs (.normalize a op b))
  | define {n : Nat} {w : List TokenKind} {e : Expr} (x : String) (h : Derives .sum n w e) :
    StatementDerives n (.keyword .define :: .identifier x :: .symbol .equals :: w) (.define x e)
  | set {n : Nat} {w : List TokenKind} {s : Setting} (h : SettingDerives n w s) :
    StatementDerives n (.keyword .setting :: w) (.set s)
  | resetOutput : StatementDerives 0 [.keyword .reset, .keyword .output] .resetOutput
  | action (a : Action) : StatementDerives 0 [.keyword a.keyword] (.action a)
  | savePaving (x : String) :
    StatementDerives 0 [.keyword .save, .keyword .paving, .identifier x] (.savePaving x)
  | loadPaving (x : String) :
    StatementDerives 0 [.keyword .load, .keyword .paving, .identifier x] (.loadPaving x)
  | plot (x : String) (axes : PlotAxes) :
    StatementDerives 0 (.keyword .plot :: .identifier x :: axes.names.map .identifier)
      (.plot x axes)
  | universal {n : Nat} {w : List TokenKind} {b : BoolExpr}
    (h : ConditionDerives .disjunction n w b) :
    StatementDerives n (.keyword .universal :: w) (.universal b)
  | readFile (path : String) : StatementDerives 0 [.keyword .file, .inputFile path] (.readFile path)
  | quit : StatementDerives 0 [.keyword .quit] .quit
  | exit : StatementDerives 0 [.keyword .exit] .quit
  | help : StatementDerives 0 [.keyword .help] .help

/-! ## First tokens -/

/-- The first token of an unsigned number. -/
theorem NumberDerives.startsNumber {n : Nat} {w : List TokenKind} {a : Numeral}
    (h : NumberDerives n w a) (unsigned : w.head? ≠ some (.symbol .minus)) :
    ∃ k v, w = k :: v ∧ startsNumber k = true := by
  cases h with
  | literal h => cases h <;> exact ⟨_, _, rfl, rfl⟩
  | negated h => exact absurd rfl unsigned
  | approx h => exact ⟨_, _, rfl, rfl⟩
  | dec ha hb => exact ⟨_, _, rfl, rfl⟩
  | rat l h => exact ⟨_, _, rfl, rfl⟩

/-- The kinds of tokens that a primary can start with. -/
def startsPrimary (k : TokenKind) : Bool :=
  startsNumber k || (Phrase.name? k).isSome || k = .symbol .openParen || (function? k).isSome

theorem Derives.startsPrimary {n : Nat} {w : List TokenKind} {e : Expr}
    (h : Derives .primary n w e) : ∃ k v, w = k :: v ∧ startsPrimary k = true := by
  cases h with
  | number h unsigned =>
    obtain ⟨k, v, rfl, hk⟩ := h.startsNumber unsigned
    exact ⟨k, v, rfl, by simp [Grammar.startsPrimary, hk]⟩
  | ident x => exact ⟨_, _, rfl, rfl⟩
  | group h => exact ⟨_, _, rfl, rfl⟩
  | call f h => exact ⟨_, _, rfl, rfl⟩

/-- A primary does not start with a minus sign. -/
theorem Derives.head?_ne_minus {n : Nat} {w : List TokenKind} {e : Expr}
    (h : Derives .primary n w e) (next : Option TokenKind) :
    w.head?.or next ≠ some (.symbol .minus) := by
  obtain ⟨k, v, rfl, hk⟩ := h.startsPrimary
  rintro heq
  simp only [List.head?_cons, Option.some_or, Option.some.injEq] at heq
  subst heq
  exact absurd hk (by decide)

/-- The kinds of tokens that an expression can start with. -/
theorem Derives.exists_head {l : Level} {n : Nat} {w : List TokenKind} {e : Expr}
    (h : Derives l n w e) :
    ∃ k v, w = k :: v ∧ (k = .symbol .minus ∨ Grammar.startsPrimary k = true) := by
  have hprimary : ∀ {n w e}, Derives .primary n w e →
      ∃ k v, w = k :: v ∧ (k = .symbol .minus ∨ Grammar.startsPrimary k = true) := by
    intro n w e h
    obtain ⟨k, v, rfl, hk⟩ := h.startsPrimary
    exact ⟨k, v, rfl, .inr hk⟩
  -- a chain starts as its first operand does
  have hchain : ∀ {v w : List TokenKind} {s : Symbol},
      (∃ k u, v = k :: u ∧ (k = .symbol .minus ∨ Grammar.startsPrimary k = true)) →
      ∃ k u, v ++ .symbol s :: w = k :: u ∧
        (k = .symbol .minus ∨ Grammar.startsPrimary k = true) := by
    rintro v w s ⟨k, u, rfl, hk⟩
    exact ⟨k, u ++ .symbol s :: w, rfl, hk⟩
  induction h with
  | number h unsigned => exact hprimary (.number h unsigned)
  | ident x => exact hprimary (.ident x)
  | group h => exact hprimary (.group h)
  | call f h => exact hprimary (.call f h)
  | primary h ih => exact ih
  | @neg n w e h ih => exact ⟨_, w, rfl, .inl rfl⟩
  | unary h ih => exact ih
  | pow ha hb iha ihb => exact hchain iha
  | power h ih => exact ih
  | mul ha hb iha ihb => exact hchain iha
  | div ha hb iha ihb => exact hchain iha
  | product h ih => exact ih
  | add ha hb iha ihb => exact hchain iha
  | sub ha hb iha ihb => exact hchain iha

end PaveScript.Grammar
