import PaveScript.Proofs.Canonical.Condition
import PaveScript.Proofs.Grammar.Statement
import PaveScript.Script

/-!
# Canonical statements are read back

The word of a canonical statement derives `Statement.decimal` of it, with the depth that the
statement has (`Statement.derives_word`). The parser of statements therefore reads it back exactly
when it does not nest too deep (`Statement.WellFormed.decides`).
-/

namespace PaveScript

open Grammar Phrase Lexer

/-! ## Let chains -/

theorem derives_linksWord {safe : Bool} {bs : List Binding} (hne : bs ≠ [])
    (h : ∀ b ∈ bs, b.WellFormed safe Literal.Unsigned) :
    LinksDerive (bindingsDepth bs) (linksWord bs) (bs.map Binding.decimal) := by
  induction bs with
  | nil => exact absurd rfl hne
  | cons b bs ih =>
    have hb := (Expr.derives_word (h b List.mem_cons_self).2).toSum
    cases bs with
    | nil =>
      have hdepth : bindingsDepth [b] = b.expr.depth := by simp [bindingsDepth]
      rw [linksWord_singleton, hdepth]
      exact .last b.name hb
    | cons c bs =>
      rw [linksWord_cons_cons]
      exact .cons b.name hb (ih (by simp) fun d hd => h d (List.mem_cons_of_mem b hd))

/-- The let chain without the equals sign in front of it, which a canonical text leaves out. -/
theorem derives_bindingsWord {safe : Bool} {bs : List Binding}
    (h : ∀ b ∈ bs, b.WellFormed safe Literal.Unsigned) :
    PreambleDerives (bindingsDepth bs) (bindingsWord bs) (bs.map Binding.decimal) := by
  cases bs with
  | nil => exact .bare .none
  | cons b bs => exact .bare (.chain (derives_linksWord (by simp) h))

theorem allowed_linksWord {safe : Bool} {bs : List Binding}
    (h : ∀ b ∈ bs, b.WellFormed safe Literal.Unsigned) : Allowed safe (linksWord bs) := by
  induction bs with
  | nil => exact allowed_nil safe
  | cons b bs ih =>
    have hb : Allowed safe b.word := by
      simp [Binding.word, (h b List.mem_cons_self).2.allowed]
    cases bs with
    | nil => rwa [linksWord_singleton]
    | cons c bs => simp [hb, ih fun d hd => h d (List.mem_cons_of_mem b hd)]

theorem allowed_bindingsWord {safe : Bool} {bs : List Binding}
    (h : ∀ b ∈ bs, b.WellFormed safe Literal.Unsigned) : Allowed safe (bindingsWord bs) := by
  cases bs with
  | nil => exact allowed_nil safe
  | cons b bs => simp [bindingsWord, allowed_linksWord h]

/-! ## Statements -/

theorem fileToken_derives (path : String) : FileToken (fileToken path) path := by
  unfold fileToken
  split
  · exact .input path
  · exact .output path

theorem Setting.derives_word (s : Setting) : SettingDerives s.nesting s.word s.decimal := by
  cases s with
  | precision n => exact .precision n.derives_word
  | resolution l => exact .resolution l.decimal
  | variableResolution x l => exact .variableResolution x l.decimal
  | granularity l => exact .granularity l.decimal
  | depth l => exact .depth l.decimal
  | varSelect l => exact .varSelect l.decimal
  | bp b => exact .bp b
  | safeInput b => exact .safeInput b
  | debug b => exact .debug b
  | name x => exact .name x
  | output file => exact .output (fileToken_derives file)
  | pavingMode mode => exact .pavingMode mode

theorem Setting.WellFormed.allowed {safe : Bool} {lit : Literal → Prop} {s : Setting}
    (h : s.WellFormed safe lit) : Allowed safe s.word := by
  cases s with
  | precision n => simp [Setting.word, Numeral.WellFormed.allowed h]
  | output file => simp [Setting.word, (fileToken_derives file).ne_approx]
  | _ => simp [Setting.word]

theorem normalize_zero (e : Expr) (op : Comparison) :
    Constraint.normalize e op (.number (.literal (.integer 0))) = ⟨op, e⟩ := by
  have hzero : (Double.ofInt 0).isZero = true := by
    rw [Double.ofInt, show Int.natAbs 0 = 0 from rfl, Nat.zero_mul]
    rfl
  rw [Constraint.normalize, if_pos]
  exact hzero

/-- **The word of a statement derives the statement.** -/
theorem Statement.derives_word {safe : Bool} {s : Statement}
    (h : s.WellFormed safe Literal.Unsigned) : StatementDerives s.depth s.word s.decimal := by
  cases s with
  | declare x i kind =>
    exact .declare kind x (Expr.derives_word h.2.1).toSum (Expr.derives_word h.2.2).toSum
  | const x n => exact .const x n.derives_word
  | objective bs e => exact .objective (derives_bindingsWord h.1) (Expr.derives_word h.2).toSum
  | differential bs e =>
    exact .differential (derives_bindingsWord h.1) (Expr.derives_word h.2).toSum
  | constraint bs c =>
    -- a constraint is written against a literal zero, which nests nowhere
    have hzero : Derives .sum 0 [.number (.integer 0)] (.number (.literal (.integer 0))) :=
      (Derives.primary (.number (.literal (.number _)) (by simp))).toSum
    have hd := StatementDerives.constraint (derives_bindingsWord h.1) (Expr.derives_word h.2).toSum
      (comparisonToken_sign c.op) hzero
    rwa [normalize_zero, Nat.max_zero] at hd
  | define x e => exact .define x (Expr.derives_word h.2).toSum
  | set s => exact .set s.derives_word
  | resetOutput => exact .resetOutput
  | action a => exact .action a
  | savePaving x => exact .savePaving x
  | loadPaving x => exact .loadPaving x
  | plot x axes => exact .plot x axes
  | universal b => exact .universal (.conjunction (.atom (BoolExpr.derives_word h)))
  | readFile path => exact .readFile path
  | quit => exact .quit
  | help => exact .help

theorem Statement.WellFormed.allowed {safe : Bool} {s : Statement}
    (h : s.WellFormed safe Literal.Unsigned) : Allowed safe s.word := by
  cases s with
  | declare x i kind =>
    simp [Statement.word, Statement.head, Statement.body, h.2.1.allowed, h.2.2.allowed]
  | const x n => simp [Statement.word, Statement.head, Statement.body, h.2.allowed]
  | objective bs e =>
    simp [Statement.word, Statement.head, Statement.body, allowed_bindingsWord h.1, h.2.allowed]
  | differential bs e =>
    simp [Statement.word, Statement.head, Statement.body, allowed_bindingsWord h.1, h.2.allowed]
  | constraint bs c =>
    simp [Statement.word, Statement.head, Statement.body, allowed_bindingsWord h.1, h.2.allowed]
  | define x e => simp [Statement.word, Statement.head, Statement.body, h.2.allowed]
  | set s => simp [Statement.word, Statement.head, Statement.body, Setting.WellFormed.allowed h]
  | plot x axes =>
    cases axes <;> simp [Statement.word, Statement.head, Statement.body, PlotAxes.names]
  | universal b =>
    simp [Statement.word, Statement.head, Statement.body, BoolExpr.WellFormed.allowed h]
  | _ => simp [Statement.word, Statement.head, Statement.body]

/-- **The word of a statement is read back,** up to its semicolon, where it does not nest too
deep. -/
theorem Statement.WellFormed.decides {safe : Bool} {s : Statement}
    (h : s.WellFormed safe Literal.Unsigned) {head : Token} (hhead : head.kind = .keyword s.head) :
    Decides (Script.closedStatement safe head) s.body s.decimal (s.depth ≤ nestingLimit)
      (some (.symbol .semicolon)) := by
  have hread := (Statement.derives_word h).decides safe hhead (.inr rfl)
  refine Decides.congr (.bind_nil hread (.peekKind (.pure _))) ?_
  exact (and_iff_left trivial).trans (and_iff_left h.allowed)

end PaveScript
