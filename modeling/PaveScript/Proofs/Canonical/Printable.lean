import PaveScript.Proofs.Lexing
import PaveScript.Statement

/-!
# Statements that can be written

What a statement has to look like for its canonical text to be a text of the language, and how deep
that text nests.

`WellFormed safe lit` asks for names that are words, file names that end in an extension, literals
that `lit` holds of, and for no approximate number under safe input. A literal may be negative only
where the language has a sign for it: as a number of its own or inside a composite number, not in an
expression and not where a plain literal is due.

`depth` counts the levels of the canonical text, which puts parentheses around every binary node.
-/

namespace PaveScript

/-! ## Literals -/

/-- The decimal literals of the language, without sign. -/
def Literal.Plain : Literal → Prop
  | .integer i => 0 ≤ i ∧ i ≤ bound
  | .real x => x.isFinite = true ∧ x.negative = false ∧ exceedsBound x = false
  | .hexFloat _ => False

/-- The literals of the language, without sign. -/
def Literal.Unsigned : Literal → Prop
  | .hexFloat x => x.isFinite = true ∧ x.negative = false ∧ exceedsBound x = false
  | l => l.Plain

theorem Literal.Plain.unsigned {l : Literal} (h : l.Plain) : l.Unsigned := by
  cases l with
  | hexFloat x => exact h.elim
  | _ => exact h

/-- A literal of a class or its opposite. -/
def Literal.Signed (lit : Literal → Prop) (l : Literal) : Prop :=
  lit l ∨ ∃ m, lit m ∧ l = m.negate

@[simp]
theorem Literal.negate_negate (l : Literal) : l.negate.negate = l := by
  cases l <;> simp [negate]

/-! ## Well-formed trees -/

section

variable (safe : Bool) (lit : Literal → Prop)

def Numeral.WellFormed : Numeral → Prop
  | .literal l => l.Signed lit
  | .approx n => safe = false ∧ n.WellFormed
  | .dec a b => a.WellFormed ∧ b.WellFormed
  | .rat a l => a.WellFormed ∧ lit l

def Expr.WellFormed : Expr → Prop
  | .number (.literal l) => lit l
  | .number n => n.WellFormed safe lit
  | .ident x => Lexer.IsName x
  | .binary _ a b => a.WellFormed ∧ b.WellFormed
  | .neg e => e.WellFormed
  | .call _ e => e.WellFormed

def BoolExpr.WellFormed : BoolExpr → Prop
  | .compare _ a b => a.WellFormed safe lit ∧ b.WellFormed safe lit
  | .and a b => a.WellFormed ∧ b.WellFormed
  | .or a b => a.WellFormed ∧ b.WellFormed

def Binding.WellFormed (b : Binding) : Prop :=
  Lexer.IsName b.name ∧ b.expr.WellFormed safe lit

def Setting.WellFormed : Setting → Prop
  | .precision n => n.WellFormed safe lit
  | .resolution l => lit l
  | .variableResolution x l => Lexer.IsName x ∧ lit l
  | .granularity l => lit l
  | .depth l => lit l
  | .varSelect l => lit l
  | .name x => Lexer.IsName x
  | .output file => ∃ ext, Lexer.IsFileName file.toList ext
  | _ => True

def Statement.WellFormed : Statement → Prop
  | .declare x i _ =>
    Lexer.IsName x ∧ i.lower.WellFormed safe lit ∧ i.upper.WellFormed safe lit
  | .const x n => Lexer.IsName x ∧ n.WellFormed safe lit
  | .objective bs e => (∀ b ∈ bs, b.WellFormed safe lit) ∧ e.WellFormed safe lit
  | .differential bs e => (∀ b ∈ bs, b.WellFormed safe lit) ∧ e.WellFormed safe lit
  | .constraint bs c => (∀ b ∈ bs, b.WellFormed safe lit) ∧ c.expr.WellFormed safe lit
  | .define x e => Lexer.IsName x ∧ e.WellFormed safe lit
  | .set s => s.WellFormed safe lit
  | .savePaving x => Lexer.IsName x
  | .loadPaving x => Lexer.IsName x
  | .plot x axes => Lexer.IsName x ∧ ∀ y ∈ axes.names, Lexer.IsName y
  | .universal b => b.WellFormed safe lit
  | .readFile path => Lexer.IsFileName path.toList ['k', 'd', 'k']
  | _ => True

end

/-- A number in an expression is a number, of which a literal has no sign. -/
theorem Expr.WellFormed.numeral {safe : Bool} {lit : Literal → Prop} {n : Numeral}
    (h : (Expr.number n).WellFormed safe lit) : n.WellFormed safe lit := by
  cases n with
  | literal l => exact .inl h
  | approx n => exact h
  | dec a b => exact h
  | rat a l => exact h

/-! ### Deciding well-formedness -/

instance : DecidablePred Literal.Plain
  | .integer _ => inferInstanceAs (Decidable (_ ∧ _))
  | .real _ => inferInstanceAs (Decidable (_ ∧ _ ∧ _))
  | .hexFloat _ => inferInstanceAs (Decidable False)

instance : DecidablePred Lexer.IsName :=
  fun _ => inferInstanceAs (Decidable (_ ∧ _))

instance (path ext : List Char) : Decidable (Lexer.IsFileName path ext) :=
  decidable_of_iff (path.all Lexer.isPathChar = true ∧ ext ≠ [] ∧ ext.all Char.isAlpha = true ∧
      ('.' :: ext) <:+ path) <| by
    rw [List.all_eq_true, List.all_eq_true, Lexer.IsFileName]
    refine and_congr_right fun _ => and_congr_right fun _ => and_congr_right fun _ => ?_
    exact exists_congr fun base => eq_comm

/-- The extension of a file name is found by looking at the name. -/
theorem exists_isFileName_iff {path : List Char} :
    (∃ ext, Lexer.IsFileName path ext) ↔
      ∃ ext ∈ Lexer.extension? path, Lexer.IsFileName path ext := by
  constructor
  · rintro ⟨ext, h⟩
    obtain ⟨-, -, halpha, base, rfl⟩ := id h
    exact ⟨ext, Lexer.extension?_append halpha, h⟩
  · rintro ⟨ext, -, h⟩
    exact ⟨ext, h⟩

instance (path : List Char) : Decidable (∃ ext, Lexer.IsFileName path ext) :=
  decidable_of_iff _ exists_isFileName_iff.symm

section

variable {safe : Bool} {lit : Literal → Prop} [DecidablePred lit]

instance : DecidablePred (Literal.Signed lit) := fun l =>
  decidable_of_iff (lit l ∨ lit l.negate) <| or_congr_right
    ⟨fun h => ⟨l.negate, h, l.negate_negate.symm⟩, fun ⟨m, h, hm⟩ => by rwa [hm, m.negate_negate]⟩

instance Numeral.decidableWellFormed : DecidablePred (Numeral.WellFormed safe lit)
  | .literal l => inferInstanceAs (Decidable (l.Signed lit))
  | .approx n => @instDecidableAnd _ _ inferInstance (decidableWellFormed n)
  | .dec a b => @instDecidableAnd _ _ (decidableWellFormed a) (decidableWellFormed b)
  | .rat a _ => @instDecidableAnd _ _ (decidableWellFormed a) inferInstance

instance Expr.decidableWellFormed : DecidablePred (Expr.WellFormed safe lit)
  | .number (.literal l) => inferInstanceAs (Decidable (lit l))
  | .number (.approx n) => inferInstanceAs (Decidable ((Numeral.approx n).WellFormed safe lit))
  | .number (.dec a b) => inferInstanceAs (Decidable ((Numeral.dec a b).WellFormed safe lit))
  | .number (.rat a l) => inferInstanceAs (Decidable ((Numeral.rat a l).WellFormed safe lit))
  | .ident x => inferInstanceAs (Decidable (Lexer.IsName x))
  | .binary _ a b => @instDecidableAnd _ _ (decidableWellFormed a) (decidableWellFormed b)
  | .neg e => decidableWellFormed e
  | .call _ e => decidableWellFormed e

instance BoolExpr.decidableWellFormed : DecidablePred (BoolExpr.WellFormed safe lit)
  | .compare _ _ _ => inferInstanceAs (Decidable (_ ∧ _))
  | .and a b => @instDecidableAnd _ _ (decidableWellFormed a) (decidableWellFormed b)
  | .or a b => @instDecidableAnd _ _ (decidableWellFormed a) (decidableWellFormed b)

instance : DecidablePred (Binding.WellFormed safe lit) :=
  fun _ => inferInstanceAs (Decidable (_ ∧ _))

instance : DecidablePred (Setting.WellFormed safe lit)
  | .precision n => inferInstanceAs (Decidable (n.WellFormed safe lit))
  | .resolution l | .granularity l | .depth l | .varSelect l => inferInstanceAs (Decidable (lit l))
  | .variableResolution _ _ => inferInstanceAs (Decidable (_ ∧ _))
  | .name x => inferInstanceAs (Decidable (Lexer.IsName x))
  | .output file => inferInstanceAs (Decidable (∃ ext, Lexer.IsFileName file.toList ext))
  | .bp _ | .safeInput _ | .debug _ | .pavingMode _ => inferInstanceAs (Decidable True)

instance : DecidablePred (Statement.WellFormed safe lit)
  | .declare .. => inferInstanceAs (Decidable (_ ∧ _ ∧ _))
  | .const .. | .objective .. | .differential .. | .constraint .. | .define .. | .plot .. =>
    inferInstanceAs (Decidable (_ ∧ _))
  | .set s => inferInstanceAs (Decidable (s.WellFormed safe lit))
  | .savePaving x | .loadPaving x => inferInstanceAs (Decidable (Lexer.IsName x))
  | .universal b => inferInstanceAs (Decidable (b.WellFormed safe lit))
  | .readFile path =>
    inferInstanceAs (Decidable (Lexer.IsFileName path.toList ['k', 'd', 'k']))
  | .resetOutput | .action _ | .quit | .help => inferInstanceAs (Decidable True)

end

/-! Well-formedness passes to a larger class of literals. -/

section

variable {safe : Bool} {lit lit' : Literal → Prop} (hlit : ∀ l, lit l → lit' l)

include hlit

theorem Literal.Signed.mono {l : Literal} (h : l.Signed lit) : l.Signed lit' := by
  rcases h with h | ⟨m, h, rfl⟩
  · exact .inl (hlit l h)
  · exact .inr ⟨m, hlit m h, rfl⟩

theorem Numeral.WellFormed.mono {n : Numeral} (h : n.WellFormed safe lit) :
    n.WellFormed safe lit' := by
  induction n with
  | literal l => exact Literal.Signed.mono hlit h
  | approx n ih => exact ⟨h.1, ih h.2⟩
  | dec a b iha ihb => exact ⟨iha h.1, ihb h.2⟩
  | rat a l ih => exact ⟨ih h.1, hlit l h.2⟩

theorem Expr.WellFormed.mono {e : Expr} (h : e.WellFormed safe lit) : e.WellFormed safe lit' := by
  induction e with
  | number n =>
    cases n with
    | literal l => exact hlit l h
    | approx n => exact Numeral.WellFormed.mono hlit h
    | dec a b => exact Numeral.WellFormed.mono hlit h
    | rat a l => exact Numeral.WellFormed.mono hlit h
  | ident x => exact h
  | binary op a b iha ihb => exact ⟨iha h.1, ihb h.2⟩
  | neg e ih => exact ih h
  | call f e ih => exact ih h

theorem BoolExpr.WellFormed.mono {b : BoolExpr} (h : b.WellFormed safe lit) :
    b.WellFormed safe lit' := by
  induction b with
  | compare op l r => exact ⟨h.1.mono hlit, h.2.mono hlit⟩
  | and l r ihl ihr => exact ⟨ihl h.1, ihr h.2⟩
  | or l r ihl ihr => exact ⟨ihl h.1, ihr h.2⟩

theorem Binding.WellFormed.mono {b : Binding} (h : b.WellFormed safe lit) :
    b.WellFormed safe lit' :=
  ⟨h.1, h.2.mono hlit⟩

theorem Setting.WellFormed.mono {s : Setting} (h : s.WellFormed safe lit) :
    s.WellFormed safe lit' := by
  cases s with
  | precision n => exact Numeral.WellFormed.mono hlit h
  | resolution l => exact hlit l h
  | variableResolution x l => exact ⟨h.1, hlit l h.2⟩
  | granularity l => exact hlit l h
  | depth l => exact hlit l h
  | varSelect l => exact hlit l h
  | _ => exact h

theorem Statement.WellFormed.mono {s : Statement} (h : s.WellFormed safe lit) :
    s.WellFormed safe lit' := by
  cases s with
  | declare x i kind => exact ⟨h.1, h.2.1.mono hlit, h.2.2.mono hlit⟩
  | const x n => exact ⟨h.1, h.2.mono hlit⟩
  | objective bs e => exact ⟨fun b hb => (h.1 b hb).mono hlit, h.2.mono hlit⟩
  | differential bs e => exact ⟨fun b hb => (h.1 b hb).mono hlit, h.2.mono hlit⟩
  | constraint bs c => exact ⟨fun b hb => (h.1 b hb).mono hlit, h.2.mono hlit⟩
  | define x e => exact ⟨h.1, h.2.mono hlit⟩
  | set s => exact Setting.WellFormed.mono hlit h
  | universal b => exact BoolExpr.WellFormed.mono hlit h
  | _ => exact h

end

/-! ## Depth -/

/-- How many composite numbers a literal is inside of, at most. -/
def Numeral.depth : Numeral → Nat
  | .literal _ => 0
  | .approx n => n.depth + 1
  | .dec a b => max a.depth b.depth + 1
  | .rat a _ => a.depth + 1

def Expr.depth : Expr → Nat
  | .number n => n.depth
  | .ident _ => 0
  | .binary _ a b => max a.depth b.depth + 1
  | .neg e => e.depth + 1
  | .call _ e => e.depth + 1

def BoolExpr.depth : BoolExpr → Nat
  | .compare _ a b => max a.depth b.depth
  | .and a b => max a.depth b.depth + 1
  | .or a b => max a.depth b.depth + 1

/-- The depth of the deepest link of a let chain. -/
def bindingsDepth (bs : List Binding) : Nat := (bs.map fun b => b.expr.depth).foldr max 0

def Setting.nesting : Setting → Nat
  | .precision n => n.depth
  | _ => 0

def Statement.depth : Statement → Nat
  | .declare _ i _ => max i.lower.depth i.upper.depth
  | .const _ n => n.depth
  | .objective bs e => max (bindingsDepth bs) e.depth
  | .differential bs e => max (bindingsDepth bs) e.depth
  | .constraint bs c => max (bindingsDepth bs) c.expr.depth
  | .define _ e => e.depth
  | .set s => s.nesting
  | .universal b => b.depth
  | _ => 0

end PaveScript
