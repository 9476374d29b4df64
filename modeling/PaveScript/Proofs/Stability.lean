import PaveScript.Proofs.Accepted
import PaveScript.Proofs.RoundTrip

/-!
# Canonical texts are stable

The canonical text of what is read from a text is read again unless it nests too deep, which
happens because the canonical text writes parentheses that the text left out. What is read again
has the same canonical text, with one exception: the opposite of a hexadecimal zero is written
`-0`, which reads as the integer zero and is written `0` then.

`Drops n s t` compares the two texts: `s` is `n` characters shorter than `t`, and equal to `t` if
`n` is zero. It passes from the parts of a text to the text.
-/

namespace PaveScript

/-! ## Texts that lose characters -/

/-- `s` has `n` characters less than `t`, and is `t` if that is none. -/
def Drops (n : Nat) (s t : String) : Prop :=
  s.length + n = t.length ∧ (n = 0 → s = t)

namespace Drops

theorem same (s : String) : Drops 0 s s := ⟨rfl, fun _ => rfl⟩

theorem minus (s : String) : Drops 1 s ("-" ++ s) := by
  refine ⟨?_, fun h => by cases h⟩
  rw [String.length_append, Nat.add_comm]
  rfl

theorem append {m n : Nat} {s s' t t' : String} (h : Drops m s t) (h' : Drops n s' t') :
    Drops (m + n) (s ++ s') (t ++ t') := by
  refine ⟨?_, fun hmn => ?_⟩
  · have := h.1
    have := h'.1
    simp only [String.length_append]
    omega
  · rw [h.2 (by omega), h'.2 (by omega)]

theorem lead {n : Nat} {s t : String} (before : String) (h : Drops n s t) :
    Drops n (before ++ s) (before ++ t) := by
  have hall := (same before).append h
  rwa [Nat.zero_add] at hall

theorem follow {n : Nat} {s t : String} (after : String) (h : Drops n s t) :
    Drops n (s ++ after) (t ++ after) :=
  h.append (same after)

theorem eq_iff {n : Nat} {s t : String} (h : Drops n s t) : s = t ↔ n = 0 := by
  refine ⟨fun hst => ?_, h.2⟩
  have := h.1
  rw [hst] at this
  omega

end Drops

/-! ## Literals -/

namespace Literal

/-- The opposite of a hexadecimal zero. -/
def negativeZero : Literal := .hexFloat Double.zero.neg

/-- What is known of a hexadecimal literal and of its opposite. -/
theorem bounded_of_signed {x : Double} (h : (hexFloat x).Signed Unsigned) :
    x.isFinite = true ∧ x.wholePart ≤ bound := by
  rcases h with ⟨hfin, hneg, hle⟩ | ⟨m, hm, hx⟩
  · exact ⟨hfin, wholePart_le_bound hfin hneg hle⟩
  · cases m with
    | hexFloat y =>
      obtain rfl := hexFloat.inj hx
      have hle : y.wholePart ≤ bound := wholePart_le_bound hm.1 hm.2.1 hm.2.2
      exact ⟨hm.1, hle⟩
    | _ => cases hx

/-- A negative value of whole part zero without fraction is the negative zero. -/
theorem eq_zero_of_wholePart {x : Double} (hint : x.isIntegral = true) (h : x.wholePart = 0)
    (hneg : x.negative = true) : x = Double.zero.neg := by
  have hunits : x.units = 0 := by
    have hmul : x.wholePart * Double.one = x.units :=
      Nat.div_mul_cancel (Double.isIntegral_iff.mp hint).2
    rw [← hmul, h, Nat.zero_mul]
  have hrank : x.rank = 0 := Double.unitsOfRank_eq_zero_iff.mp hunits
  cases x
  simp_all [Double.zero, Double.ofRank, Double.neg]

theorem text_integer_nat (n : Nat) : (integer n).text = Digits.text n := by
  simp [text, Digits.intText]

theorem text_integer_neg {n : Nat} (h : n ≠ 0) : (integer (-n)).text = "-" ++ Digits.text n := by
  rw [text, Digits.intText, if_pos (by omega), Int.natAbs_neg, Int.natAbs_natCast]

/-- The text of a double without fraction and of the integer that it is. -/
theorem drops_text_integral {x : Double} (hint : x.isIntegral = true) (hle : x.wholePart ≤ bound) :
    Drops ([hexFloat x].count negativeZero)
      (integer (if x.negative then -x.wholePart else x.wholePart)).text (hexFloat x).text := by
  have htext : (hexFloat x).text = x.signText ++ Digits.text x.wholePart :=
    Double.text_of_isIntegral hint hle
  rw [htext, Double.signText]
  cases hneg : x.negative with
  | false =>
    have hne : hexFloat x ≠ negativeZero := by
      rintro heq
      rw [hexFloat.inj heq] at hneg
      cases hneg
    rw [List.count_singleton, if_neg (by simpa using hne)]
    simp only [Bool.false_eq_true, if_false, text_integer_nat, String.empty_append]
    exact .same _
  | true =>
    by_cases h0 : x.wholePart = 0
    · -- the sign gets lost
      have heq : hexFloat x = negativeZero := congrArg hexFloat (eq_zero_of_wholePart hint h0 hneg)
      have hzero : (integer (-(0 : Nat))).text = Digits.text 0 := text_integer_nat 0
      rw [heq, List.count_singleton_self, if_pos rfl, if_pos rfl, h0, hzero]
      exact .minus _
    · have hne : hexFloat x ≠ negativeZero := by
        rintro heq
        rw [hexFloat.inj heq] at h0
        exact h0 (by decide +kernel)
      rw [List.count_singleton, if_neg (by simpa using hne)]
      simp only [if_true, text_integer_neg h0]
      exact .same _

/-- **The decimal literal has the same text,** but for the sign of the negative zero. -/
theorem drops_text {l : Literal} (h : l.Signed Unsigned) :
    Drops ([l].count negativeZero) l.decimal.text l.text := by
  cases l with
  | integer i => exact .same _
  | real x => exact .same _
  | hexFloat x =>
    obtain ⟨hfin, hle⟩ := bounded_of_signed h
    by_cases hint : x.isIntegral = true
    · rw [decimal, if_pos hint]
      exact drops_text_integral hint hle
    · -- zero has no fraction
      have hne : hexFloat x ≠ negativeZero := by
        rintro heq
        rw [hexFloat.inj heq] at hint
        exact hint (by decide +kernel)
      rw [decimal, if_neg hint, List.count_singleton, if_neg (by simpa using hne)]
      rw [text, if_neg hint]
      exact .same _

end Literal

/-! ## Trees -/

/-- The literals of a number. -/
def Numeral.literals : Numeral → List Literal
  | .literal l => [l]
  | .approx n => n.literals
  | .dec a b => a.literals ++ b.literals
  | .rat a l => a.literals ++ [l]

def Expr.literals : Expr → List Literal
  | .number n => n.literals
  | .ident _ => []
  | .binary _ a b => a.literals ++ b.literals
  | .neg e => e.literals
  | .call _ e => e.literals

def BoolExpr.literals : BoolExpr → List Literal
  | .compare _ a b => a.literals ++ b.literals
  | .and a b => a.literals ++ b.literals
  | .or a b => a.literals ++ b.literals

def bindingsLiterals (bs : List Binding) : List Literal := bs.flatMap fun b => b.expr.literals

def Setting.literals : Setting → List Literal
  | .precision n => n.literals
  | .resolution l | .variableResolution _ l | .granularity l | .depth l | .varSelect l => [l]
  | _ => []

/-- The literals of a statement. -/
def Statement.literals : Statement → List Literal
  | .declare _ i _ => i.lower.literals ++ i.upper.literals
  | .const _ n => n.literals
  | .objective bs e => bindingsLiterals bs ++ e.literals
  | .differential bs e => bindingsLiterals bs ++ e.literals
  | .constraint bs c => bindingsLiterals bs ++ c.expr.literals
  | .define _ e => e.literals
  | .set s => s.literals
  | .universal b => b.literals
  | _ => []

section

variable {safe : Bool}

theorem Numeral.WellFormed.drops_text {n : Numeral} (h : n.WellFormed safe Literal.Unsigned) :
    Drops (n.literals.count .negativeZero) n.decimal.text n.text := by
  induction n with
  | literal l => exact Literal.drops_text h
  | approx n ih => exact .follow _ (.lead _ (ih h.2))
  | dec a b iha ihb =>
    rw [Numeral.literals, List.count_append]
    exact .follow _ (.append (.follow _ (.lead _ (iha h.1))) (ihb h.2))
  | rat a l ih =>
    rw [Numeral.literals, List.count_append]
    exact .follow _ (.append (.follow _ (.lead _ (ih h.1))) (Literal.drops_text (.inl h.2)))

theorem Expr.WellFormed.drops_text {e : Expr} (h : e.WellFormed safe Literal.Unsigned) :
    Drops (e.literals.count .negativeZero) e.decimal.text e.text := by
  induction e with
  | number n => exact h.numeral.drops_text
  | ident x => exact .same _
  | binary op a b iha ihb =>
    rw [Expr.literals, List.count_append]
    exact .follow _ (.append (.follow _ (.follow _ (.follow _ (.lead _ (iha h.1))))) (ihb h.2))
  | neg e ih => exact .lead _ (ih h)
  | call f e ih => exact .follow _ (.lead _ (ih h))

theorem BoolExpr.WellFormed.drops_text {b : BoolExpr} (h : b.WellFormed safe Literal.Unsigned) :
    Drops (b.literals.count .negativeZero) b.decimal.text b.text := by
  induction b with
  | compare op l r =>
    rw [BoolExpr.literals, List.count_append]
    exact .append (.follow _ (.follow _ (.follow _ h.1.drops_text))) h.2.drops_text
  | and l r ihl ihr =>
    rw [BoolExpr.literals, List.count_append]
    exact .follow _ (.append (.follow _ (.lead _ (ihl h.1))) (ihr h.2))
  | or l r ihl ihr =>
    rw [BoolExpr.literals, List.count_append]
    exact .follow _ (.append (.follow _ (.lead _ (ihl h.1))) (ihr h.2))

theorem drops_links {bs : List Binding} (h : ∀ b ∈ bs, b.WellFormed safe Literal.Unsigned) :
    Drops ((bindingsLiterals bs).count .negativeZero)
      (String.intercalate ", " ((bs.map Binding.decimal).map Binding.text))
      (String.intercalate ", " (bs.map Binding.text)) := by
  induction bs with
  | nil => exact .same _
  | cons b bs ih =>
    have hb : Drops (b.expr.literals.count .negativeZero) b.decimal.text b.text :=
      .lead _ (h b List.mem_cons_self).2.drops_text
    rw [bindingsLiterals, List.flatMap_cons, List.count_append]
    cases bs with
    | nil => simpa using hb
    | cons c bs =>
      have htail := ih fun d hd => h d (List.mem_cons_of_mem b hd)
      have hall := (hb.follow ", ").append htail
      simpa [bindingsLiterals] using hall

theorem drops_bindings {bs : List Binding} (h : ∀ b ∈ bs, b.WellFormed safe Literal.Unsigned) :
    Drops ((bindingsLiterals bs).count .negativeZero) (bindingsText (bs.map Binding.decimal))
      (bindingsText bs) := by
  cases bs with
  | nil => exact .same _
  | cons b bs => exact .follow _ (.lead _ (drops_links h))

theorem Setting.WellFormed.drops_text {s : Setting} (h : s.WellFormed safe Literal.Unsigned) :
    Drops (s.literals.count .negativeZero) s.decimal.text s.text := by
  cases s with
  | precision n => exact .lead _ (Numeral.WellFormed.drops_text h)
  | resolution l => exact .lead _ (Literal.drops_text (.inl h))
  | variableResolution x l => exact .lead _ (Literal.drops_text (.inl h.2))
  | granularity l => exact .lead _ (Literal.drops_text (.inl h))
  | depth l => exact .lead _ (Literal.drops_text (.inl h))
  | varSelect l => exact .lead _ (Literal.drops_text (.inl h))
  | _ => exact .same _

/-- **The statement that is read has the same text,** but for the signs of negative zeros. -/
theorem Statement.WellFormed.drops_text {s : Statement} (h : s.WellFormed safe Literal.Unsigned) :
    Drops (s.literals.count .negativeZero) s.decimal.text s.text := by
  cases s with
  | declare x i kind =>
    rw [Statement.literals, List.count_append]
    exact .lead _ (.follow _ (.append (.follow _ (.lead _ h.2.1.drops_text)) h.2.2.drops_text))
  | const x n => exact .lead _ h.2.drops_text
  | objective bs e =>
    rw [Statement.literals, List.count_append]
    exact .append (.lead _ (drops_bindings h.1)) h.2.drops_text
  | differential bs e =>
    rw [Statement.literals, List.count_append]
    exact .append (.lead _ (drops_bindings h.1)) h.2.drops_text
  | constraint bs c =>
    rw [Statement.literals, List.count_append]
    exact .append (.lead _ (drops_bindings h.1))
      (.follow _ (.follow _ (.follow _ h.2.drops_text)))
  | define x e => exact .lead _ h.2.drops_text
  | set s => exact .lead _ (Setting.WellFormed.drops_text h)
  | universal b => exact .lead _ (BoolExpr.WellFormed.drops_text h)
  | _ => exact .same _

theorem drops_format {ss : List Statement} (h : ∀ s ∈ ss, s.WellFormed safe Literal.Unsigned) :
    Drops ((ss.flatMap Statement.literals).count .negativeZero)
      (Statement.format (ss.map Statement.decimal)) (Statement.format ss) := by
  induction ss with
  | nil => exact .same _
  | cons s ss ih =>
    have hs := (h s List.mem_cons_self).drops_text.follow ";\n"
    have hss := ih fun t ht => h t (List.mem_cons_of_mem s ht)
    rw [List.flatMap_cons, List.count_append]
    simpa [Statement.format] using hs.append hss

end

/-! ## Stability -/

/--
**The canonical text of what is read is read again exactly when it does not nest too deep,** and
then it is the canonical text of what is read again exactly when no number in it is the opposite of
a hexadecimal zero.
-/
theorem format_stable_iff [Text.Normalizer] {safe : Bool} {text : String} {ss : List Statement}
    (h : ((Script.ofText text).readAll safe).1 = .ok ss) :
    ((∃ ss', ((Script.ofText (Statement.format ss)).readAll safe).1 = .ok ss') ↔
      ∀ s ∈ ss, s.depth ≤ Grammar.nestingLimit) ∧
    ∀ ss', ((Script.ofText (Statement.format ss)).readAll safe).1 = .ok ss' →
      (Statement.format ss' = Statement.format ss ↔
        ∀ s ∈ ss, .negativeZero ∉ s.literals) := by
  have hss := Script.wellFormed_of_readAll h
  constructor
  · simp only [readAll_format hss, exists_and_left, exists_eq, and_true]
  · intro ss' hread
    obtain ⟨-, rfl⟩ := (readAll_format hss ss').mp hread
    rw [(drops_format hss).eq_iff, List.count_eq_zero]
    simp

/-- A text with hexadecimal numbers, one of them signed, and with what is read from it. -/
def hexText : String := "const c = -0x1.8; cnstr = x*x+0x2 <= y"

def hexProblem : List Statement :=
  [.const "c" (.literal (.hexFloat (.ofRank true 4609434218613702656))),
    .constraint [] ⟨.le, .binary .sub (.binary .add (.binary .mul (.ident "x") (.ident "x"))
      (.number (.literal (.hexFloat (.ofRank false 4611686018427387904))))) (.ident "y")⟩]

theorem format_stable_hexProblem :
    ((Script.ofText hexText).readAll true).1 = .ok hexProblem ∧
      ∃ ss', ((Script.ofText (Statement.format hexProblem)).readAll true).1 = .ok ss' ∧
        Statement.format ss' = Statement.format hexProblem := by
  have h : ((Script.ofText hexText).readAll true).1 = .ok hexProblem := by decide +kernel
  obtain ⟨hread, hsame⟩ := format_stable_iff h
  obtain ⟨ss', hss'⟩ := hread.mpr (by decide)
  exact ⟨h, ss', hss', (hsame ss' hss').mpr (by decide +kernel)⟩

/-! ### Texts that are not stable -/

/-- The opposite of a hexadecimal zero, and the integer zero that its text is read as. -/
def hexZero : List Statement := [.const "c" (.literal .negativeZero)]

def integerZero : List Statement := [.const "c" (.literal (.integer 0))]

/-- As many signs as can nest, in front of a sum. -/
def signsText : String := "objfn " ++ String.ofList (List.replicate 128 '-') ++ "x+x"

def signsSum : List Statement :=
  [.objective [] (.binary .add (Nat.repeat .neg 128 (.ident "x")) (.ident "x"))]

/--
Two texts that are read. The canonical text of the first is read as something with another
canonical text, and the canonical text of the second is not read.
-/
theorem not_stable_zero_or_signs :
    (((Script.ofText "const c = -0x0;").readAll true).1 = .ok hexZero ∧
      ((Script.ofText (Statement.format hexZero)).readAll true).1 = .ok integerZero ∧
      Statement.format integerZero ≠ Statement.format hexZero) ∧
    ((Script.ofText signsText).readAll true).1 = .ok signsSum ∧
      ∀ ss', ((Script.ofText (Statement.format signsSum)).readAll true).1 ≠ .ok ss' := by
  have hsigns : ((Script.ofText signsText).readAll true).1 = .ok signsSum := by decide +kernel
  refine ⟨by decide +kernel, hsigns, fun ss' hread => ?_⟩
  have hdepth := ((readAll_format (Script.wellFormed_of_readAll hsigns) ss').mp hread).1
  exact absurd hdepth (by decide +kernel)

end PaveScript
