import PaveScript.Grammar.Statement
import PaveScript.Proofs.Grammar.Completeness

/-!
# Phrases do not look past a semicolon

A phrase is *local* when a semicolon behind its tokens changes nothing: it does with the tokens
alone what it does with the tokens in front of a semicolon and anything after it. It returns the
same value or a fault of the same kind, and leaves the same tokens. The faults themselves may
differ, since at the end of the input they name no token.

Every phrase of the grammar is local except the two that consume whatever token comes next: the
name of a setting and the name of a paving mode. `Swallows` says which tokens lead there.
-/

namespace PaveScript

/-- The kind of error that a fault is reported as. -/
def Fault.kind : Fault → ErrorKind
  | .unexpected _ (some t) => if t.kind = .overflow then .overflow else .unexpected
  | .unexpected _ none => .unexpected
  | .approximate => .domain

theorem Fault.kind_error (f : Fault) (stop : Position) : (f.error stop).kind = f.kind := by
  cases f with
  | approximate => rfl
  | unexpected c found =>
    cases found with
    | none => rfl
    | some t =>
      simp only [Fault.error, Fault.kind]
      split <;> rfl

theorem Fault.isGrammatical_eq (f : Fault) : f.isGrammatical = decide (f.kind = .unexpected) := by
  cases f with
  | approximate => rfl
  | unexpected c found =>
    cases found with
    | none => rfl
    | some t =>
      simp only [Fault.isGrammatical, Fault.kind]
      split <;> simp_all

/-- The second outcome is the first one with `tail` behind the tokens that are left. -/
def Outcome.Extends {α : Type} (tail : List Token) :
    Outcome Token Fault α → Outcome Token Fault α → Prop
  | .ok a rest, o => o = .ok a (rest ++ tail)
  | .fail f rest, o => ∃ g : Fault, g.kind = f.kind ∧ o = .fail g (rest ++ tail)

/-- No semicolon is among the tokens. -/
def Unbroken (ts : List Token) : Prop := ∀ t ∈ ts, t.kind ≠ .symbol .semicolon

theorem Unbroken.of_suffix {ts rest : List Token} (h : Unbroken ts) (hs : rest <:+ ts) :
    Unbroken rest :=
  fun t ht => h t (hs.subset ht)

namespace Phrase

variable {α β : Type}

/-- What a phrase has left after it succeeded. -/
theorem suffix_of_run {p : Phrase α} {ts rest : List Token} {a : α} (h : p.run ts = .ok a rest) :
    rest <:+ ts := by
  have hs := p.isSuffix ts
  rwa [h] at hs

/-- What a phrase has left after it failed. -/
theorem suffix_of_fail {p : Phrase α} {ts rest : List Token} {f : Fault}
    (h : p.run ts = .fail f rest) : rest <:+ ts := by
  have hs := p.isSuffix ts
  rwa [h] at hs

theorem run_expect_eq_ok {k : TokenKind} {c : Complaint} {t : Token} {ts rest : List Token}
    (h : (expect k c).run ts = .ok t rest) : ts = t :: rest ∧ t.kind = k := by
  rw [run_expect] at h
  split at h
  · cases h
  · split at h
    · next hk =>
      obtain ⟨rfl, rfl⟩ := Outcome.ok.inj h
      exact ⟨rfl, hk⟩
    · cases h

/-- A semicolon behind the tokens changes nothing. -/
def Local (p : Phrase α) : Prop :=
  ∀ ts tail : List Token, Unbroken ts → headKind tail = some (.symbol .semicolon) →
    Outcome.Extends tail (p.run ts) (p.run (ts ++ tail))

/-- If a semicolon changes nothing for a phrase, what goes on behind it decides. -/
theorem extends_match {p : Phrase α} {g : α → List Token → Outcome Token Fault β}
    {ts tail : List Token} (h : Outcome.Extends tail (p.run ts) (p.run (ts ++ tail)))
    (hg : ∀ a rest, p.run ts = .ok a rest →
      Outcome.Extends tail (g a rest) (g a (rest ++ tail))) :
    Outcome.Extends tail
      (match p.run ts with
        | .ok a rest => g a rest
        | .fail fault rest => .fail fault rest)
      (match p.run (ts ++ tail) with
        | .ok a rest => g a rest
        | .fail fault rest => .fail fault rest) := by
  cases hrun : p.run ts with
  | ok a rest =>
    rw [hrun] at h
    rw [show p.run (ts ++ tail) = .ok a (rest ++ tail) from h]
    exact hg a rest hrun
  | fail fault rest =>
    rw [hrun] at h
    obtain ⟨g, hg, hrun'⟩ := h
    rw [hrun']
    exact ⟨g, hg, rfl⟩

theorem extends_bind {p : Phrase α} {f : α → Phrase β} {ts tail : List Token}
    (h : Outcome.Extends tail (p.run ts) (p.run (ts ++ tail)))
    (hf : ∀ a rest, p.run ts = .ok a rest →
      Outcome.Extends tail ((f a).run rest) ((f a).run (rest ++ tail))) :
    Outcome.Extends tail ((p >>= f).run ts) ((p >>= f).run (ts ++ tail)) := by
  have hall := extends_match (g := fun a => (f a).run) h hf
  rw [Parser.run_bind, Parser.run_bind]
  revert hall
  cases p.run ts <;> cases p.run (ts ++ tail) <;> exact id

/-- What is left after one more operand or item is shorter than the tokens before it. -/
theorem length_lt_of_run {p : Phrase α} {t : Token} {ts rest : List Token} {a : α}
    (h : p.run ts = .ok a rest) : rest.length < (t :: ts).length :=
  Nat.lt_succ_of_le (suffix_of_run h).length_le

namespace Local

variable {p : Phrase α} {k : TokenKind} {c : Complaint}

protected theorem pure (a : α) : Local (pure a) := fun _ _ _ _ => rfl

/-- The same fault either way. -/
theorem stop (fault : Fault) : Local (Parser.stop fault : Phrase α) :=
  fun _ _ _ _ => ⟨fault, rfl, rfl⟩

theorem complain : Local (complain c : Phrase α) := by
  intro ts tail _ htail
  obtain ⟨t, tail, rfl, ht⟩ := exists_cons_of_headKind htail
  cases ts with
  | nil => exact ⟨.unexpected c (some t), by simp [Fault.kind, ht], rfl⟩
  | cons u us => exact ⟨.unexpected c (some u), rfl, rfl⟩

theorem bind {f : α → Phrase β} (hp : Local p) (hf : ∀ a, Local (f a)) : Local (p >>= f) :=
  fun ts tail hts htail => extends_bind (hp ts tail hts htail) fun a rest hrun =>
    hf a rest tail (hts.of_suffix (suffix_of_run hrun)) htail

theorem map {F : α → β} (hp : Local p) : Local (do return F (← p)) :=
  hp.bind fun a => .pure (F a)

theorem takeKind? {f : TokenKind → Option α} (h : f (.symbol .semicolon) = none) :
    Local (takeKind? f) := by
  intro ts tail _ htail
  rw [run_takeKind?, run_takeKind?]
  cases ts with
  | nil => simp [htail, h, Outcome.Extends]
  | cons t ts => cases hf : f t.kind <;> simp [hf, Outcome.Extends]

theorem takeKind {f : TokenKind → Option α} (h : f (.symbol .semicolon) = none) :
    Local (takeKind f c) := by
  intro ts tail hts htail
  rw [run_takeKind, run_takeKind]
  cases ts with
  | nil =>
    obtain ⟨t, tail, rfl, ht⟩ := exists_cons_of_headKind htail
    simp only [List.nil_append, headKind_cons, ht, Option.bind_some, h]
    exact ⟨.unexpected c (some t), by simp [Fault.kind, ht], rfl⟩
  | cons t ts =>
    cases hf : f t.kind with
    | some a => simp [hf, Outcome.Extends]
    | none =>
      simp only [List.cons_append, headKind_cons, Option.bind_some, hf]
      exact ⟨_, rfl, rfl⟩

theorem accept (h : k ≠ .symbol .semicolon) : Local (accept k) := by
  intro ts tail _ htail
  rw [run_accept, run_accept]
  cases ts with
  | nil => simp [htail, h.symm, Outcome.Extends]
  | cons t ts =>
    by_cases hk : t.kind = k
    · simp [hk, Outcome.Extends]
    · simp [hk, Outcome.Extends]

theorem expect (h : k ≠ .symbol .semicolon) : Local (expect k c) := by
  intro ts tail _ htail
  rw [run_expect, run_expect]
  cases ts with
  | nil =>
    obtain ⟨t, tail, rfl, ht⟩ := exists_cons_of_headKind htail
    have hk : t.kind ≠ k := ht ▸ h.symm
    simp only [List.nil_append, if_neg hk]
    exact ⟨.unexpected c (some t), by simp [Fault.kind, ht], rfl⟩
  | cons t ts =>
    by_cases hk : t.kind = k
    · simp only [List.cons_append, if_pos hk]
      exact rfl
    · simp only [List.cons_append, if_neg hk]
      exact ⟨_, rfl, rfl⟩

theorem ite {P : Prop} [Decidable P] {q : Phrase α} (hp : Local p) (hq : Local q) :
    Local (if P then p else q) := by
  split
  · exact hp
  · exact hq

/-- A look at the next token, if a semicolon looks like the end of the input. -/
theorem peekKind {g : Option TokenKind → Phrase α} (hg : ∀ k, Local (g k))
    (hend : g (some (.symbol .semicolon)) = g none) : Local (peekKind >>= g) := by
  intro ts tail hts htail
  rw [run_bind_ok (run_peekKind _), run_bind_ok (run_peekKind _)]
  have hk : g (headKind (ts ++ tail)) = g (headKind ts) := by
    cases ts with
    | nil => rw [List.nil_append, htail, hend]; rfl
    | cons t ts => rfl
  rw [hk]
  exact hg _ ts tail hts htail

theorem chainFrom {op? : TokenKind → Option (α → α → α)} (hp : Local p)
    (h : op? (.symbol .semicolon) = none) (lhs : α) (ts tail : List Token)
    (hts : Unbroken ts) (htail : headKind tail = some (.symbol .semicolon)) :
    Outcome.Extends tail (Parser.chainFrom p (fun t => op? t.kind) lhs ts)
      (Parser.chainFrom p (fun t => op? t.kind) lhs (ts ++ tail)) := by
  induction hlen : ts.length using Nat.strongRecOn generalizing lhs ts with
  | _ len ih =>
    cases ts with
    | nil =>
      -- the semicolon is no operator, so the chain stops at it as at the end of the input
      rw [chainFrom_stop (by rfl), chainFrom_stop (by rw [List.nil_append, htail]; exact h)]
      exact rfl
    | cons t ts =>
      cases hop : op? t.kind with
      | none =>
        rw [chainFrom_stop (by exact hop), chainFrom_stop (by exact hop)]
        exact rfl
      | some f =>
        rw [List.cons_append, chainFrom_cons hop, chainFrom_cons hop]
        have hts' : Unbroken ts := hts.of_suffix (List.suffix_cons t ts)
        refine extends_match (hp ts tail hts' htail) fun b rest hrun => ?_
        exact ih rest.length (hlen ▸ length_lt_of_run hrun) (f lhs b) rest
          (hts'.of_suffix (suffix_of_run hrun)) rfl

theorem chain {op? : TokenKind → Option (α → α → α)} (hp : Local p)
    (h : op? (.symbol .semicolon) = none) : Local (chain op? p) :=
  hp.bind fun lhs ts tail hts htail => hp.chainFrom h lhs ts tail hts htail

theorem itemsFrom (hp : Local p) (h : k ≠ .symbol .semicolon) (done : List α)
    (ts tail : List Token) (hts : Unbroken ts)
    (htail : headKind tail = some (.symbol .semicolon)) :
    Outcome.Extends tail (Parser.itemsFrom (fun t => t.kind = k) p done ts)
      (Parser.itemsFrom (fun t => t.kind = k) p done (ts ++ tail)) := by
  induction hlen : ts.length using Nat.strongRecOn generalizing done ts with
  | _ len ih =>
    cases ts with
    | nil =>
      rw [itemsFrom_stop (by simp), itemsFrom_stop (by simp [htail, h.symm])]
      exact rfl
    | cons t ts =>
      by_cases hk : t.kind = k
      · rw [List.cons_append, itemsFrom_cons hk, itemsFrom_cons hk]
        have hts' : Unbroken ts := hts.of_suffix (List.suffix_cons t ts)
        refine extends_match (hp ts tail hts' htail) fun b rest hrun => ?_
        exact ih rest.length (hlen ▸ length_lt_of_run hrun) (b :: done) rest
          (hts'.of_suffix (suffix_of_run hrun)) rfl
      · rw [itemsFrom_stop (by simp [hk]), itemsFrom_stop (by simp [hk])]
        exact rfl

theorem items (hp : Local p) (h : k ≠ .symbol .semicolon) : Local (items k p) :=
  hp.bind fun a ts tail hts htail => hp.itemsFrom h [a] ts tail hts htail

end Local

end Phrase

namespace Grammar

open Phrase

/-! ## Numbers and expressions -/

theorem local_below {α : Type} {p : Nat → Phrase α} {room : Nat} (h : ∀ r < room, Local (p r)) :
    Local (nested (below p room)) := by
  cases room with
  | zero => exact .complain
  | succ room => exact h room (Nat.lt_succ_self room)

theorem local_numeral (safe : Bool) (room : Nat) : Local (numeral safe room) := by
  induction room using Nat.strongRecOn with
  | _ room ih =>
    have hin : Local (nested (below (numeral safe) room)) := local_below ih
    rw [numeral_eq, numeralWith]
    refine (Local.accept (by simp)).bind fun _ => .ite ?_ ?_
    · exact .map (.takeKind rfl)
    refine (Local.accept (by simp)).bind fun _ => .ite ?_ ?_
    · exact (Local.expect (by simp)).bind fun _ => hin.bind fun a =>
        (Local.expect (by simp)).bind fun _ => .ite (.stop _) (.pure _)
    refine (Local.accept (by simp)).bind fun _ => .ite ?_ ?_
    · exact (Local.expect (by simp)).bind fun _ => hin.bind fun a =>
        (Local.expect (by simp)).bind fun _ => hin.bind fun b =>
          (Local.expect (by simp)).bind fun _ => .pure _
    refine (Local.accept (by simp)).bind fun _ => .ite ?_ ?_
    · exact (Local.expect (by simp)).bind fun _ => hin.bind fun a =>
        (Local.expect (by simp)).bind fun _ => (Local.takeKind rfl).bind fun b =>
          (Local.expect (by simp)).bind fun _ => .pure _
    · exact .map (.takeKind rfl)

theorem local_expressionOf {operand : Phrase Expr} (h : Local operand) :
    Local (expressionOf operand) :=
  ((h.chain rfl).chain rfl).chain rfl

theorem local_operandWith {number : Phrase Numeral} {inner : Option (Phrase Expr)}
    (hnumber : Local number) (hin : Local (nested inner)) : Local (operandWith number inner) := by
  rw [operandWith]
  refine .peekKind (fun k => .ite (.map hnumber) ((Local.takeKind? rfl).bind fun x => ?_)) rfl
  cases x with
  | some x => exact .pure _
  | none =>
    refine (Local.accept (by simp)).bind fun _ => .ite ?_ ((Local.takeKind? rfl).bind fun f => ?_)
    · exact hin.bind fun e => (Local.expect (by simp)).bind fun _ => .pure _
    · cases f with
      | some f =>
        exact (Local.expect (by simp)).bind fun _ => hin.bind fun e =>
          (Local.expect (by simp)).bind fun _ => .pure _
      | none => exact .complain

theorem local_unary (safe : Bool) (room : Nat) : Local (unary safe room) := by
  induction room using Nat.strongRecOn with
  | _ room ih =>
    rw [unary_eq_primaryIn]
    refine (Local.accept (by simp)).bind fun _ => .ite (.map (local_below ih)) ?_
    exact local_operandWith (local_numeral safe room)
      (local_below fun r hr => local_expressionOf (ih r hr))

theorem local_expressionIn (safe : Bool) (room : Nat) : Local (expressionIn safe room) :=
  local_expressionOf (local_unary safe room)

/-! ## Conditions -/

theorem local_comparisonOf {expression : Phrase Expr} (h : Local expression) :
    Local (comparisonOf expression) := by
  rw [comparisonOf]
  refine h.bind fun lhs => (Local.takeKind rfl).bind fun op => h.bind fun rhs => ?_
  exact .peekKind (fun k => .ite (Local.complain.bind fun _ => .pure _) (.pure _)) rfl

theorem run_conditionGroup (first : Fault) (inner : Option (Phrase BoolExpr)) (t : Token)
    (ts : List Token) :
    (conditionGroup first inner).run (t :: ts) =
      match (nested inner).run ts with
      | .ok b rest =>
        (do let _ ← expect (.symbol .closeParen) .conditionClose; return b : Phrase BoolExpr).run
          rest
      | .fail fault rest => .fail (if fault.isGrammatical then first else fault) rest := by
  rw [conditionGroup, run_bind_ok (p := Parser.next) (by rfl), Parser.run_bind]
  cases h : (nested inner).run ts <;> simp [Parser.mapFault, h]

theorem run_atomWith (expression : Phrase Expr) (inner : Option (Phrase BoolExpr))
    (ts : List Token) :
    (atomWith expression inner).run ts =
      match (comparisonOf expression).run ts with
      | .ok b rest => .ok b rest
      | .fail fault rest =>
        if headKind ts = some (.symbol .openParen) ∧ fault.isGrammatical then
          (conditionGroup fault inner).run ts
        else .fail fault rest := by
  rw [atomWith, run_bind_ok (run_peekKind ts)]
  cases h : (comparisonOf expression).run ts with
  | ok b rest => simp [Parser.retry, h]
  | fail fault rest =>
    by_cases hg : headKind ts = some (.symbol .openParen) ∧ fault.isGrammatical
    · simp [Parser.retry, h, hg]
    · simp only [Parser.retry, h, if_neg hg]
      rw [if_neg (by simpa using hg)]

/-- The fault that a group reports for another one is of the same kind. -/
theorem local_conditionGroup {f g : Fault} {inner : Option (Phrase BoolExpr)}
    (hfg : f.kind = g.kind) (hin : Local (nested inner)) (t : Token) (ts tail : List Token)
    (hts : Unbroken ts) (htail : headKind tail = some (.symbol .semicolon)) :
    Outcome.Extends tail ((conditionGroup f inner).run (t :: ts))
      ((conditionGroup g inner).run (t :: ts ++ tail)) := by
  have hext := hin ts tail hts htail
  rw [List.cons_append, run_conditionGroup, run_conditionGroup]
  cases hrun : (nested inner).run ts with
  | ok b rest =>
    rw [hrun] at hext
    rw [show (nested inner).run (ts ++ tail) = .ok b (rest ++ tail) from hext]
    have hclose : Local (do let _ ← expect (.symbol .closeParen) .conditionClose; return b) :=
      (Local.expect (by simp)).bind fun _ => .pure b
    exact hclose rest tail (hts.of_suffix (suffix_of_run hrun)) htail
  | fail fault rest =>
    rw [hrun] at hext
    obtain ⟨fault', hkind, hrun'⟩ := hext
    rw [hrun']
    -- which fault is reported depends on the kind of the inner one, and that is the same
    refine ⟨_, ?_, rfl⟩
    rw [Fault.isGrammatical_eq, Fault.isGrammatical_eq, hkind]
    split
    · exact hfg.symm
    · exact hkind

/-- The two readings of an atom fail and succeed alike, so the choice between them is local too. -/
theorem local_atomWith {expression : Phrase Expr} {inner : Option (Phrase BoolExpr)}
    (hexpr : Local expression) (hin : Local (nested inner)) :
    Local (atomWith expression inner) := by
  intro ts tail hts htail
  have hcmp := local_comparisonOf hexpr ts tail hts htail
  rw [run_atomWith, run_atomWith]
  cases hrun : (comparisonOf expression).run ts with
  | ok b rest =>
    rw [hrun] at hcmp
    rw [show (comparisonOf expression).run (ts ++ tail) = .ok b (rest ++ tail) from hcmp]
    exact rfl
  | fail f rest =>
    rw [hrun] at hcmp
    obtain ⟨g, hg, hrun'⟩ := hcmp
    have hgram : g.isGrammatical = f.isGrammatical := by
      rw [Fault.isGrammatical_eq, Fault.isGrammatical_eq, hg]
    -- the semicolon is no open parenthesis, so both runs read again or neither does
    have hopen : headKind (ts ++ tail) = some (.symbol .openParen) ↔
        headKind ts = some (.symbol .openParen) := by
      cases ts <;> simp [htail]
    simp only [hrun', hgram, hopen]
    split
    · next hgroup =>
      obtain ⟨t, ts, rfl, -⟩ := exists_cons_of_headKind hgroup.1
      exact local_conditionGroup hg.symm hin t ts tail (hts.of_suffix (List.suffix_cons t ts)) htail
    · exact ⟨g, hg, rfl⟩

theorem conditionIn_eq (safe : Bool) (room : Nat) :
    conditionIn safe room =
      conditionOf (atomWith (expressionIn safe room) (below (conditionIn safe) room)) := by
  cases room <;> rfl

theorem local_conditionIn (safe : Bool) (room : Nat) : Local (conditionIn safe room) := by
  induction room using Nat.strongRecOn with
  | _ room ih =>
    rw [conditionIn_eq]
    exact ((local_atomWith (local_expressionIn safe room) (local_below ih)).chain rfl).chain rfl

/-! ## Parts of statements -/

theorem local_expression (safe : Bool) : Local (expression safe) := local_expressionIn safe _

theorem local_number (safe : Bool) : Local (number safe) := local_numeral safe _

theorem local_identifier (c : Complaint) : Local (identifier c) := .takeKind rfl

theorem local_interval (safe : Bool) : Local (interval safe) := by
  rw [interval]
  exact (Local.expect (by simp)).bind fun _ => (local_expression safe).bind fun _ =>
    (Local.expect (by simp)).bind fun _ => (local_expression safe).bind fun _ =>
      (Local.expect (by simp)).bind fun _ => .pure _

theorem local_binding (safe : Bool) : Local (binding safe) := by
  rw [binding]
  exact (local_identifier _).bind fun _ => (Local.expect (by simp)).bind fun _ =>
    .map (local_expression safe)

theorem local_preamble (safe : Bool) : Local (preamble safe) := by
  rw [preamble]
  refine (Local.accept (by simp)).bind fun _ => (Local.accept (by simp)).bind fun _ =>
    .ite ?_ (.pure _)
  exact ((local_binding safe).items (by simp)).bind fun _ =>
    (Local.expect (by simp)).bind fun _ => .pure _

theorem local_equalsNumber : Local equalsNumber :=
  (Local.expect (by simp)).bind fun _ => .takeKind rfl

theorem local_equalsTruth : Local equalsTruth :=
  (Local.expect (by simp)).bind fun _ => .takeKind rfl

/-! ## Statements -/

/-- The setting that a token names is local unless it is a paving mode. -/
theorem local_settingOf (safe : Bool) {key : Token} (h : key.kind ≠ .keyword .paving) :
    Local (settingOf safe key) := by
  unfold settingOf
  split
  · exact (Local.expect (by simp)).bind fun _ => .map (local_number safe)
  · refine (Local.takeKind? rfl).bind fun x => ?_
    cases x with
    | some x => exact .map local_equalsNumber
    | none => exact .map local_equalsNumber
  · exact .map local_equalsNumber
  · exact .map local_equalsNumber
  · exact .map local_equalsNumber
  · exact .map local_equalsTruth
  · exact (Local.expect (by simp)).bind fun _ => .map local_equalsTruth
  · exact .map local_equalsTruth
  · exact (Local.expect (by simp)).bind fun _ => .map (local_identifier _)
  · exact (Local.expect (by simp)).bind fun _ => .map (.takeKind rfl)
  · next hk => exact absurd hk h
  · exact .stop _

theorem local_declaration (safe : Bool) (kind : VarKind) : Local (declaration safe kind) :=
  (local_identifier _).bind fun _ => (Local.expect (by simp)).bind fun _ =>
    .map (local_interval safe)

theorem local_plot : Local plot := by
  refine (local_identifier _).bind fun _ => (local_identifier _).bind fun _ =>
    (local_identifier _).bind fun _ => (Local.takeKind? rfl).bind fun z => ?_
  cases z with
  | some z => exact .pure _
  | none => exact .pure _

/-- Every statement but a setting is local. -/
theorem local_statement (safe : Bool) {head : Token} (h : head.kind ≠ .keyword .setting) :
    Local (statement safe head) := by
  unfold statement
  split
  · exact local_declaration safe .var
  · exact local_declaration safe .param
  · exact (local_identifier _).bind fun _ => (Local.expect (by simp)).bind fun _ =>
      .map (local_number safe)
  · exact (local_preamble safe).bind fun _ => .map (local_expression safe)
  · exact (local_preamble safe).bind fun _ => .map (local_expression safe)
  · exact (local_preamble safe).bind fun _ => (local_expression safe).bind fun _ =>
      (Local.takeKind rfl).bind fun _ => .map (local_expression safe)
  · exact (local_identifier _).bind fun _ => (Local.expect (by simp)).bind fun _ =>
      .map (local_expression safe)
  · next hk => exact absurd hk h
  · exact (Local.accept (by simp)).bind fun _ => .ite (.pure _) (.pure _)
  · exact .pure _
  · exact .pure _
  · exact .pure _
  · exact .pure _
  · exact .pure _
  · exact .pure _
  · exact (Local.expect (by simp)).bind fun _ => .map (local_identifier _)
  · exact (Local.expect (by simp)).bind fun _ => .map (local_identifier _)
  · exact local_plot
  · exact .map (local_conditionIn safe nestingLimit)
  · exact .map (.takeKind rfl)
  · exact .pure _
  · exact .pure _
  · exact .pure _
  · exact .stop _

/-! ## Settings

`set` and `set paving mode =` are followed by a token of any kind, so with nothing behind them
they take the semicolon for it.
-/

/-- The statements that end where any token is taken. -/
def Swallows (seg : List Token) : Prop :=
  seg.map Token.kind = [.keyword .setting] ∨
    seg.map Token.kind =
      [.keyword .setting, .keyword .paving, .keyword .mode, .symbol .equals]

instance : DecidablePred Swallows := fun _ => inferInstanceAs (Decidable (_ ∨ _))

theorem not_swallows_nil : ¬Swallows [] := by simp [Swallows]

theorem statement_setting (safe : Bool) {head : Token} (h : head.kind = .keyword .setting) :
    statement safe head = (do return .set (← setting safe head)) := by
  unfold statement
  simp only [h]

theorem settingOf_paving (safe : Bool) {key : Token} (h : key.kind = .keyword .paving) :
    settingOf safe key = (do return .pavingMode (← pavingMode)) := by
  unfold settingOf
  simp only [h]

/-- A paving mode that has a token behind its equals sign, or no equals sign. -/
theorem extends_pavingMode {ts tail : List Token}
    (h : ts.map Token.kind ≠ [.keyword .mode, .symbol .equals]) (hts : Unbroken ts)
    (htail : headKind tail = some (.symbol .semicolon)) :
    Outcome.Extends tail (pavingMode.run ts) (pavingMode.run (ts ++ tail)) := by
  rw [pavingMode]
  refine extends_bind (Local.expect (by simp) ts tail hts htail) fun mode rest hrun => ?_
  obtain ⟨rfl, hmode⟩ := run_expect_eq_ok hrun
  have hrest : Unbroken rest := hts.of_suffix (List.suffix_cons mode rest)
  refine extends_bind (Local.expect (by simp) rest tail hrest htail) fun sign rest hrun => ?_
  obtain ⟨rfl, hsign⟩ := run_expect_eq_ok hrun
  -- the next token is taken whatever it is: it has to be one of the statement
  cases rest with
  | nil => exact absurd (by simp [hmode, hsign]) h
  | cons word rest =>
    rw [List.cons_append, run_bind_ok (p := Parser.next) (by rfl),
      run_bind_ok (p := Parser.next) (by rfl)]
    simp only [Option.getD_some]
    split
    · exact rfl
    · exact ⟨_, rfl, rfl⟩

/-- **A semicolon behind a statement changes nothing,** unless the statement swallows it. -/
theorem extends_statement (safe : Bool) {head : Token} {ts tail : List Token}
    (h : ¬Swallows (head :: ts)) (hts : Unbroken ts)
    (htail : headKind tail = some (.symbol .semicolon)) :
    Outcome.Extends tail ((statement safe head).run ts)
      ((statement safe head).run (ts ++ tail)) := by
  by_cases hset : head.kind = .keyword .setting
  · rw [statement_setting safe hset]
    refine extends_bind ?_ fun _ _ _ => rfl
    cases ts with
    | nil => exact absurd (Or.inl (by simp [hset])) h
    | cons key ts =>
      rw [List.cons_append, setting, run_bind_ok (p := Parser.next) (by rfl),
        run_bind_ok (p := Parser.next) (by rfl), Option.getD_some]
      have hts' : Unbroken ts := hts.of_suffix (List.suffix_cons key ts)
      by_cases hkey : key.kind = .keyword .paving
      · rw [settingOf_paving safe hkey]
        refine extends_bind (extends_pavingMode ?_ hts' htail) fun _ _ _ => rfl
        intro hmode
        exact h (Or.inr (by simp [hset, hkey, hmode]))
      · exact local_settingOf safe hkey ts tail hts' htail
  · exact local_statement safe hset ts tail hts htail

/-- Behind `set` the next token names the setting, or `set` itself at the end. -/
theorem run_statement_setting (safe : Bool) {head : Token} (h : head.kind = .keyword .setting)
    {ts : List Token}
    (hkey : settingOf safe (ts.head?.getD head) = complainAbout .setting (ts.head?.getD head)) :
    (statement safe head).run ts =
      .fail (.unexpected .setting (some (ts.head?.getD head))) ts.tail := by
  rw [statement_setting safe h]
  refine run_bind_fail (p := setting safe head) ?_
  cases ts with
  | nil =>
    rw [setting, run_bind_ok (p := Parser.next) (by rfl)]
    exact congrArg (·.run []) hkey
  | cons key ts =>
    rw [setting, run_bind_ok (p := Parser.next) (by rfl)]
    exact congrArg (·.run ts) hkey

/-- Behind `set paving mode =` the next token names the mode, or the equals sign at the end. -/
theorem run_statement_paving (safe : Bool) {head key mode sign : Token} {ts : List Token}
    (hset : head.kind = .keyword .setting) (hkey : key.kind = .keyword .paving)
    (hmode : mode.kind = .keyword .mode) (hsign : sign.kind = .symbol .equals)
    (hword : mode? (ts.head?.getD sign).kind = none) :
    (statement safe head).run (key :: mode :: sign :: ts) =
      .fail (.unexpected .pavingMode (some (ts.head?.getD sign))) ts.tail := by
  rw [statement_setting safe hset]
  refine run_bind_fail (p := setting safe head) ?_
  rw [setting, run_bind_ok (p := Parser.next) (by rfl), Option.getD_some,
    settingOf_paving safe hkey]
  refine run_bind_fail (p := pavingMode) ?_
  rw [pavingMode, run_bind_ok (run_expect_of_kind hmode), run_bind_ok (run_expect_of_kind hsign)]
  cases ts with
  | nil =>
    rw [run_bind_ok (p := Parser.next) (by rfl)]
    simp only [List.head?_nil, Option.getD_none] at hword
    simp [hword]
  | cons word ts =>
    rw [run_bind_ok (p := Parser.next) (by rfl)]
    simp only [List.head?_cons, Option.getD_some] at hword
    simp [hword]

/-- A statement that swallows the semicolon fails with and without it, by the same kind of error. -/
theorem run_statement_of_swallows (safe : Bool) {head semi : Token} {ts : List Token}
    (h : Swallows (head :: ts)) (hsemi : semi.kind = .symbol .semicolon) (more : List Token) :
    ∃ f g : Fault, f.kind = .unexpected ∧ g.kind = .unexpected ∧
      (statement safe head).run ts = .fail f [] ∧
      (statement safe head).run (ts ++ semi :: more) = .fail g more := by
  -- at the end `set` names itself, and in front of a semicolon that names the setting
  have hword : ∀ t : Token, t.kind = .keyword .setting ∨ t.kind = .symbol .semicolon →
      settingOf safe t = complainAbout .setting t := by
    rintro t (ht | ht) <;> simp [settingOf, ht]
  rcases h with h | h
  · obtain ⟨hset, rfl⟩ : head.kind = .keyword .setting ∧ ts = [] := by simpa using h
    refine ⟨_, _, ?_, ?_, run_statement_setting safe hset (hword head (Or.inl hset)),
      run_statement_setting safe hset (hword semi (Or.inr hsemi))⟩
    · simp [Fault.kind, hset]
    · simp [Fault.kind, hsemi]
  · obtain ⟨hset, h⟩ := List.cons_eq_cons.mp h
    obtain ⟨key, _, rfl, hkey, h⟩ := List.map_eq_cons_iff.mp h
    obtain ⟨mode, _, rfl, hmode, h⟩ := List.map_eq_cons_iff.mp h
    obtain ⟨sign, rfl, hsign⟩ := List.map_eq_singleton_iff.mp h
    refine ⟨_, _, ?_, ?_, run_statement_paving safe hset hkey hmode hsign (by simp [mode?, hsign]),
      run_statement_paving safe hset hkey hmode hsign (by simp [mode?, hsemi])⟩
    · simp [Fault.kind, hsign]
    · simp [Fault.kind, hsemi]

end Grammar

end PaveScript
