import PaveScript.Proofs.Grammar.Condition
import PaveScript.Proofs.Grammar.Soundness

/-!
# Two readings of the same tokens

What safe input changes, phrase by phrase. A phrase is run twice, the second time on tokens that may
stand in other places but are of the same kinds: with safe input off and then with a given setting
of it, or twice with the same setting.

`Gates` compares the two runs. The second one gives the value of the first, unless safe input has
been turned on for it and the value is approximate: then it is refused for that reason and for no
other. Where the first run fails the second one fails as well.

The relation passes from the parts of a phrase to the phrase. A part that is approximate makes the
whole approximate, and the second run has stopped there; so what stands behind such a part is
related by less, and `Gates` carries a mark that says whether such a part has been read.

The one phrase that needs more than its parts is the atom of a condition. It is read a second time
when the first reading does not fit the grammar, and the first reading may have met an approximate
number before that. The second reading then meets it, too (`isApproximate_of_group`).
-/

namespace PaveScript

/-! ## Approximate trees -/

/-- Whether a number is approximate or has an approximate part. -/
def Numeral.isApproximate : Numeral → Bool
  | .literal _ => false
  | .approx _ => true
  | .dec a b => a.isApproximate || b.isApproximate
  | .rat a _ => a.isApproximate

def Expr.isApproximate : Expr → Bool
  | .number n => n.isApproximate
  | .ident _ => false
  | .binary _ a b => a.isApproximate || b.isApproximate
  | .neg e => e.isApproximate
  | .call _ e => e.isApproximate

def BoolExpr.isApproximate : BoolExpr → Bool
  | .compare _ a b => a.isApproximate || b.isApproximate
  | .and a b => a.isApproximate || b.isApproximate
  | .or a b => a.isApproximate || b.isApproximate

def Interval.isApproximate (i : Interval) : Bool :=
  i.lower.isApproximate || i.upper.isApproximate

def Binding.isApproximate (b : Binding) : Bool := b.expr.isApproximate

def Setting.isApproximate : Setting → Bool
  | .precision n => n.isApproximate
  | _ => false

/-- Whether an approximate number occurs anywhere in a statement. -/
def Statement.isApproximate : Statement → Bool
  | .declare _ i _ => i.isApproximate
  | .const _ n => n.isApproximate
  | .objective bs e => bs.any Binding.isApproximate || e.isApproximate
  | .differential bs e => bs.any Binding.isApproximate || e.isApproximate
  | .constraint bs c => bs.any Binding.isApproximate || c.expr.isApproximate
  | .define _ e => e.isApproximate
  | .set s => s.isApproximate
  | .universal b => b.isApproximate
  | _ => false

/-- A zero that is left out of a constraint is a plain literal. -/
theorem Expr.isApproximate_of_literalValue {e : Expr} {x : Double} (h : e.literalValue? = some x) :
    e.isApproximate = false := by
  induction e generalizing x with
  | number n =>
    cases n with
    | literal l => rfl
    | _ => cases h
  | ident y => rfl
  | binary op a b => cases h
  | neg e ih =>
    obtain ⟨y, hy, -⟩ := Option.map_eq_some_iff.mp h
    exact ih hy
  | call f e => cases h

/-- Folding a constraint against zero keeps what is approximate. -/
theorem Constraint.isApproximate_normalize (lhs : Expr) (op : Comparison) (rhs : Expr) :
    (normalize lhs op rhs).expr.isApproximate = (lhs.isApproximate || rhs.isApproximate) := by
  unfold normalize
  split
  · next hzero =>
    have hrhs : rhs.isApproximate = false := by
      unfold Expr.isZeroLiteral at hzero
      split at hzero
      · next x hx => exact Expr.isApproximate_of_literalValue hx
      · cases hzero
    rw [hrhs, Bool.or_false]
  · rfl

/-! ## Two runs -/

/-- Tokens of the same kinds, in whatever places. -/
def Alike (ts us : List Token) : Prop := ts.map Token.kind = us.map Token.kind

namespace Alike

variable {ts us : List Token}

theorem refl (ts : List Token) : Alike ts ts := rfl

theorem headKind_eq (h : Alike ts us) : headKind ts = headKind us := by
  have hhead := congrArg List.head? h
  rwa [List.head?_map, List.head?_map] at hhead

theorem exists_cons {t : Token} (h : Alike (t :: ts) us) :
    ∃ u vs, us = u :: vs ∧ t.kind = u.kind ∧ Alike ts vs := by
  obtain ⟨u, vs, rfl, hu, hvs⟩ := List.map_eq_cons_iff.mp h.symm
  exact ⟨u, vs, rfl, hu.symm, hvs.symm⟩

theorem eq_nil (h : Alike [] us) : us = [] := List.map_eq_nil_iff.mp h.symm

theorem tail (h : Alike ts us) : Alike ts.tail us.tail := by
  unfold Alike
  rw [List.map_tail, List.map_tail, h]

theorem kind_unexpected (h : Alike ts us) (c d : Complaint) :
    (Fault.unexpected d us.head?).kind = (Fault.unexpected c ts.head?).kind := by
  have hhead := h.headKind_eq
  cases ts with
  | nil => rw [h.eq_nil]; rfl
  | cons t ts =>
    obtain ⟨u, vs, rfl, hu, -⟩ := h.exists_cons
    simp only [Fault.kind, List.head?_cons, hu]

end Alike

/--
What the second run may be, given the first one and which values are approximate: the same value,
unless safe input has to refuse it; a fault of the same kind; or a refusal, in which case the first
run has not found a value that could have passed. `safe` says whether safe input has been turned on
for the second run.
-/
inductive Outcome.Gated {α : Type} (safe : Bool) (approximate : α → Bool) :
    Outcome Token Fault α → Outcome Token Fault α → Prop
  | ok {a rest left} (h : (safe && approximate a) = false) (hrest : Alike rest left) :
    Gated safe approximate (.ok a rest) (.ok a left)
  | fail {f g rest left} (h : g.kind = f.kind) :
    Gated safe approximate (.fail f rest) (.fail g left)
  | refused {o left} (hsafe : safe = true) (h : ∀ a rest, o = .ok a rest → approximate a = true) :
    Gated safe approximate o (.fail .approximate left)

namespace Phrase

variable {α β : Type}

theorem run_expect_bind (k : TokenKind) (c : Complaint) (f : Token → Phrase α) (ts : List Token) :
    (expect k c >>= f).run ts =
      match ts with
      | [] => .fail (.unexpected c none) []
      | t :: rest =>
        if t.kind = k then (f t).run rest else .fail (.unexpected c (some t)) (t :: rest) := by
  rw [Parser.run_bind, run_expect]
  cases ts with
  | nil => rfl
  | cons t ts => by_cases ht : t.kind = k <;> simp [ht]

/--
`q` is the phrase `p` with safe input turned on if `safe` says so; `mark` says whether they stand
behind an approximate part. Behind such a part every value is approximate, and under safe input that
is all: the second run does not come here.
-/
structure Gates (safe mark : Bool) (approximate : α → Bool) (p q : Phrase α) : Prop where
  marks : mark = true → ∀ ts a rest, p.run ts = .ok a rest → approximate a = true
  gated : (safe && mark) = false → ∀ ts us, Alike ts us →
    (p.run ts).Gated safe approximate (q.run us)

namespace Gates

variable {safe mark : Bool} {A : α → Bool} {B : β → Bool} {p q : Phrase α} {k : TokenKind}
  {c : Complaint}

/-- A pair of phrases that does not stand behind anything. -/
theorem of_gated (h : ∀ ts us, Alike ts us → (p.run ts).Gated safe A (q.run us)) :
    Gates safe false A p q :=
  ⟨fun hmark => absurd hmark Bool.false_ne_true, fun _ => h⟩

protected theorem pure {a : α} (h : A a = mark) : Gates safe mark A (pure a) (pure a) := by
  refine ⟨fun hmark ts b rest hrun => ?_, fun hsafe ts us hts => ?_⟩
  · obtain ⟨rfl, -⟩ := Outcome.ok.inj hrun
    rw [h, hmark]
  · exact .ok (h ▸ hsafe) hts

/-- Both runs fail at once, by faults of the same kind. -/
theorem of_fail {f g : List Token → Fault} (hp : ∀ ts, ∃ left, p.run ts = .fail (f ts) left)
    (hq : ∀ us, ∃ left, q.run us = .fail (g us) left)
    (hfg : ∀ ts us, Alike ts us → (g us).kind = (f ts).kind) : Gates safe mark A p q := by
  refine ⟨fun _ ts a rest hrun => ?_, fun _ ts us hts => ?_⟩
  · obtain ⟨left, hfail⟩ := hp ts
    rw [hfail] at hrun
    cases hrun
  · obtain ⟨left, hp⟩ := hp ts
    obtain ⟨left', hq⟩ := hq us
    rw [hp, hq]
    exact .fail (hfg ts us hts)

theorem complain : Gates safe mark A (complain c) (complain c) :=
  of_fail (fun ts => ⟨ts, rfl⟩) (fun us => ⟨us, rfl⟩) fun _ _ h => h.kind_unexpected c c

theorem complainAbout {t u : Token} (h : t.kind = u.kind) :
    Gates safe mark A (complainAbout c t) (complainAbout c u) :=
  of_fail (fun ts => ⟨ts, rfl⟩) (fun us => ⟨us, rfl⟩) fun _ _ _ => by simp only [Fault.kind, h]

/-- **Two phrases in sequence.** What the first one reads decides whether the second one stands
behind an approximate part. -/
theorem bind {f g : α → Phrase β} (hp : Gates safe false A p q)
    (hf : ∀ a, Gates safe (mark || A a) B (f a) (g a)) :
    Gates safe mark B (p >>= f) (q >>= g) := by
  refine ⟨fun hmark ts b rest hrun => ?_, fun hsafe ts us hts => ?_⟩
  · rw [Parser.run_bind] at hrun
    cases hp' : p.run ts with
    | fail fault left => rw [hp'] at hrun; cases hrun
    | ok a mid =>
      rw [hp'] at hrun
      exact (hf a).marks (by rw [hmark, Bool.true_or]) mid b rest hrun
  · have hgated := hp.gated (by simp) ts us hts
    rw [Parser.run_bind, Parser.run_bind]
    generalize p.run ts = o, q.run us = o' at hgated ⊢
    cases hgated with
    | fail hkind => exact .fail hkind
    | @ok a mid left hA hmid =>
      refine (hf a).gated ?_ mid left hmid
      rw [Bool.and_or_distrib_left, hsafe, hA, Bool.or_false]
    | refused hsafe hA =>
      -- the second run has stopped, and whatever the first one goes on to read is approximate
      refine .refused hsafe fun b rest hrun => ?_
      cases o with
      | fail => cases hrun
      | ok a mid => exact (hf a).marks (by rw [hA a mid rfl, Bool.or_true]) mid b rest hrun

theorem map {F : α → β} (hp : Gates safe false A p q) (h : ∀ a, B (F a) = (mark || A a)) :
    Gates safe mark B (do return F (← p)) (do return F (← q)) :=
  hp.bind fun a => .pure (h a)

theorem ite {P : Prop} [Decidable P] {p' q' : Phrase α} (h : Gates safe mark A p q)
    (h' : Gates safe mark A p' q') :
    Gates safe mark A (if P then p else p') (if P then q else q') := by
  split
  · exact h
  · exact h'

/-! Phrases that read no number are the same in both runs. -/

theorem takeKind {f : TokenKind → Option α} :
    Gates safe false (fun _ => false) (takeKind f c) (takeKind f c) := by
  refine of_gated fun ts us hts => ?_
  rw [run_takeKind, run_takeKind, ← hts.headKind_eq]
  cases (headKind ts).bind f with
  | some a => exact .ok (Bool.and_false safe) hts.tail
  | none => exact .fail (hts.kind_unexpected c c)

theorem takeKind? {f : TokenKind → Option α} :
    Gates safe false (fun _ => false) (takeKind? f) (takeKind? f) := by
  refine of_gated fun ts us hts => ?_
  rw [run_takeKind?, run_takeKind?, ← hts.headKind_eq]
  cases (headKind ts).bind f with
  | some a => exact .ok (Bool.and_false safe) hts.tail
  | none => exact .ok (Bool.and_false safe) hts

theorem accept : Gates safe false (fun _ => false) (accept k) (accept k) := by
  refine of_gated fun ts us hts => ?_
  rw [run_accept, run_accept, ← hts.headKind_eq]
  split
  · exact .ok (Bool.and_false safe) hts.tail
  · exact .ok (Bool.and_false safe) hts

theorem peekKind : Gates safe false (fun _ => false) peekKind peekKind := by
  refine of_gated fun ts us hts => ?_
  rw [run_peekKind, run_peekKind, hts.headKind_eq]
  exact .ok (Bool.and_false safe) hts

/-- A phrase behind one that reads no number. -/
theorem behind {f g : β → Phrase α} {r s : Phrase β} (hr : Gates safe false (fun _ => false) r s)
    (hf : ∀ b, Gates safe mark A (f b) (g b)) : Gates safe mark A (r >>= f) (s >>= g) :=
  hr.bind fun b => by rw [Bool.or_false]; exact hf b

/-- Whatever token comes next is taken, a given one at the end; only its kind matters. -/
theorem next {f g : Option Token → Phrase α} {last last' : Token} (hlast : last.kind = last'.kind)
    (h : ∀ t u : Option Token, (t.getD last).kind = (u.getD last').kind →
      Gates safe false A (f t) (g u)) :
    Gates safe false A (Parser.next >>= f) (Parser.next >>= g) := by
  refine .of_gated fun ts us hts => ?_
  cases ts with
  | nil =>
    rw [hts.eq_nil]
    exact (h none none hlast).gated (Bool.and_false safe) [] [] rfl
  | cons t ts =>
    obtain ⟨u, vs, rfl, hu, hvs⟩ := hts.exists_cons
    exact (h (some t) (some u) hu).gated (Bool.and_false safe) ts vs hvs

/-- The token that is expected stands in another place in the second run, so the rule names what
comes behind it. -/
theorem expect {f g : Token → Phrase α}
    (h : ∀ t u : Token, t.kind = k → u.kind = k → Gates safe mark A (f t) (g u)) :
    Gates safe mark A (expect k c >>= f) (expect k c >>= g) := by
  refine ⟨fun hmark ts a rest hok => ?_, fun hsafe ts us hts => ?_⟩
  · rw [run_expect_bind] at hok
    cases ts with
    | nil => cases hok
    | cons t ts =>
      by_cases ht : t.kind = k
      · simp only [if_pos ht] at hok
        exact (h t t ht ht).marks hmark ts a rest hok
      · simp only [if_neg ht] at hok
        cases hok
  · rw [run_expect_bind, run_expect_bind]
    cases ts with
    | nil =>
      rw [hts.eq_nil]
      exact .fail rfl
    | cons t ts =>
      obtain ⟨u, vs, rfl, hu, hvs⟩ := hts.exists_cons
      by_cases ht : t.kind = k
      · simp only [if_pos ht, if_pos (hu ▸ ht)]
        exact (h t u ht (hu ▸ ht)).gated hsafe ts vs hvs
      · simp only [if_neg ht, if_neg (hu ▸ ht)]
        exact .fail (by simp only [Fault.kind, hu])

/-- A token that is only expected. -/
theorem expect_then (h : Gates safe mark A p q) :
    Gates safe mark A (do let _ ← Phrase.expect k c; p) (do let _ ← Phrase.expect k c; q) :=
  expect fun _ _ _ _ => h

/-! ## Loops -/

/-- What a chain makes of its operands so far is approximate from the first such operand on. -/
theorem marks_chainFrom {op? : TokenKind → Option (α → α → α)}
    (hop : ∀ k f a b, op? k = some f → A (f a b) = (A a || A b)) {lhs a : α}
    {ts rest : List Token} (hlhs : A lhs = true)
    (hrun : Parser.chainFrom p (fun t => op? t.kind) lhs ts = .ok a rest) : A a = true := by
  fun_induction Parser.chainFrom p (fun t => op? t.kind) lhs ts with
  | case1 lhs => exact (Outcome.ok.inj hrun).1 ▸ hlhs
  | case2 lhs t ts hnone => exact (Outcome.ok.inj hrun).1 ▸ hlhs
  | case3 lhs t ts f hf b mid hb ih => exact ih (by rw [hop _ f lhs b hf, hlhs, Bool.true_or]) hrun
  | case4 => cases hrun

theorem chainFrom {op? : TokenKind → Option (α → α → α)}
    (hop : ∀ k f a b, op? k = some f → A (f a b) = (A a || A b)) (hp : Gates safe false A p q)
    {lhs : α} (hlhs : (safe && A lhs) = false) {ts us : List Token} (hts : Alike ts us) :
    (Parser.chainFrom p (fun t => op? t.kind) lhs ts).Gated safe A
      (Parser.chainFrom q (fun t => op? t.kind) lhs us) := by
  induction hlen : ts.length using Nat.strongRecOn generalizing lhs ts us with
  | _ len ih =>
    cases hnext : (headKind ts).bind op? with
    | none =>
      rw [chainFrom_stop hnext, chainFrom_stop (hts.headKind_eq ▸ hnext)]
      exact .ok hlhs hts
    | some f =>
      obtain ⟨k, hk, hf⟩ := Option.bind_eq_some_iff.mp hnext
      obtain ⟨t, ts, rfl, rfl⟩ := exists_cons_of_headKind hk
      obtain ⟨u, vs, rfl, hu, hvs⟩ := hts.exists_cons
      have hA : ∀ b, A (f lhs b) = (A lhs || A b) := fun b => hop _ f lhs b hf
      have hgated := hp.gated (by simp) ts vs hvs
      rw [chainFrom_cons hf, chainFrom_cons (hu ▸ hf)]
      generalize hrun : p.run ts = o, q.run vs = o' at hgated ⊢
      cases hgated with
      | fail hkind => exact .fail hkind
      | @ok b mid left hb hmid =>
        refine ih mid.length (hlen ▸ length_lt_of_run hrun) ?_ hmid rfl
        rw [hA, Bool.and_or_distrib_left, hlhs, hb, Bool.or_false]
      | refused hsafe hb =>
        refine .refused hsafe fun a rest hrest => ?_
        cases o with
        | fail => cases hrest
        | ok b mid => exact marks_chainFrom hop (by rw [hA, hb b mid rfl, Bool.or_true]) hrest

/-- A chain is approximate where one of its operands is. -/
theorem chain {op? : TokenKind → Option (α → α → α)}
    (hop : ∀ k f a b, op? k = some f → A (f a b) = (A a || A b)) (hp : Gates safe false A p q) :
    Gates safe false A (chain op? p) (chain op? q) := by
  refine hp.bind fun lhs => ?_
  rw [Bool.false_or]
  exact ⟨fun hlhs ts a rest hrun => marks_chainFrom hop hlhs hrun,
    fun hlhs ts us hts => hp.chainFrom hop hlhs hts⟩

theorem marks_itemsFrom {done as : List α} {ts rest : List Token} (hdone : done.any A = true)
    (hrun : Parser.itemsFrom (fun t => t.kind = k) p done ts = .ok as rest) :
    as.any A = true := by
  fun_induction Parser.itemsFrom (fun t => t.kind = k) p done ts with
  | case1 done =>
    obtain ⟨rfl, -⟩ := Outcome.ok.inj hrun
    rwa [List.any_reverse]
  | case2 done t ts hsep b mid hb ih => exact ih (by rw [List.any_cons, hdone, Bool.or_true]) hrun
  | case3 => cases hrun
  | case4 done t ts hsep =>
    obtain ⟨rfl, -⟩ := Outcome.ok.inj hrun
    rwa [List.any_reverse]

theorem itemsFrom (hp : Gates safe false A p q) {done : List α}
    (hdone : (safe && done.any A) = false) {ts us : List Token} (hts : Alike ts us) :
    (Parser.itemsFrom (fun t => t.kind = k) p done ts).Gated safe (List.any · A)
      (Parser.itemsFrom (fun t => t.kind = k) q done us) := by
  induction hlen : ts.length using Nat.strongRecOn generalizing done ts us with
  | _ len ih =>
    by_cases hnext : headKind ts = some k
    · obtain ⟨t, ts, rfl, ht⟩ := exists_cons_of_headKind hnext
      obtain ⟨u, vs, rfl, hu, hvs⟩ := hts.exists_cons
      have hgated := hp.gated (by simp) ts vs hvs
      rw [itemsFrom_cons ht, itemsFrom_cons (hu ▸ ht)]
      generalize hrun : p.run ts = o, q.run vs = o' at hgated ⊢
      cases hgated with
      | fail hkind => exact .fail hkind
      | @ok b mid left hb hmid =>
        refine ih mid.length (hlen ▸ length_lt_of_run hrun) ?_ hmid rfl
        rw [List.any_cons, Bool.and_or_distrib_left, hb, hdone, Bool.or_false]
      | refused hsafe hb =>
        refine .refused hsafe fun as rest hrest => ?_
        cases o with
        | fail => cases hrest
        | ok b mid =>
          exact marks_itemsFrom (by rw [List.any_cons, hb b mid rfl, Bool.true_or]) hrest
    · rw [itemsFrom_stop hnext, itemsFrom_stop (hts.headKind_eq ▸ hnext)]
      exact .ok (by rwa [List.any_reverse]) hts

/-- A list is approximate where one of its items is. -/
theorem items (hp : Gates safe false A p q) :
    Gates safe false (List.any · A) (items k p) (items k q) := by
  refine hp.bind fun a => ?_
  have ha : [a].any A = A a := by simp
  rw [Bool.false_or, ← ha]
  exact ⟨fun hdone ts as rest hrun => marks_itemsFrom hdone hrun,
    fun hdone ts us hts => hp.itemsFrom hdone hts⟩

end Gates

end Phrase

namespace Grammar

open Phrase

/-! ## Numbers and expressions -/

section

variable {first safe : Bool}

/-- One level further in the runs are related as they are there. -/
theorem gates_below {α : Type} {A : α → Bool} {p q : Nat → Phrase α} {room : Nat}
    (h : ∀ r < room, Gates safe false A (p r) (q r)) :
    Gates safe false A (nested (below p room)) (nested (below q room)) := by
  cases room with
  | zero => exact .complain
  | succ room => exact h room (Nat.lt_succ_self room)

/-- **The one place where safe input is asked.** -/
theorem gates_approx {mark : Bool} (n : Numeral) :
    Gates safe mark Numeral.isApproximate
      (if first then Parser.stop .approximate else pure (.approx n))
      (if first || safe then Parser.stop .approximate else pure (.approx n)) := by
  cases first with
  | true => exact .of_fail (fun ts => ⟨ts, rfl⟩) (fun us => ⟨us, rfl⟩) fun _ _ _ => rfl
  | false =>
    refine ⟨fun _ ts a rest hrun => ?_, fun _ ts us hts => ?_⟩
    · obtain ⟨rfl, -⟩ := Outcome.ok.inj hrun
      rfl
    · cases safe with
      | true => exact .refused rfl fun a rest hrun => (Outcome.ok.inj hrun).1 ▸ rfl
      | false => exact .ok rfl hts

theorem gates_numeral (room : Nat) :
    Gates safe false Numeral.isApproximate (numeral first room) (numeral (first || safe) room) := by
  induction room using Nat.strongRecOn with
  | _ room ih =>
    have hin : Gates safe false Numeral.isApproximate (nested (below (numeral first) room))
        (nested (below (numeral (first || safe)) room)) := gates_below ih
    rw [numeral_eq, numeral_eq, numeralWith, numeralWith]
    refine Gates.accept.behind fun _ => .ite ?_ (Gates.accept.behind fun _ => .ite ?_
      (Gates.accept.behind fun _ => .ite ?_ (Gates.accept.behind fun _ => .ite ?_ ?_)))
    · exact .map .takeKind fun _ => rfl
    · refine .expect_then (hin.bind fun n => .expect_then ?_)
      exact gates_approx n
    · refine .expect_then (hin.bind fun a => .expect_then (hin.bind fun b => .expect_then ?_))
      exact .pure (by simp [Numeral.isApproximate])
    · refine .expect_then (hin.bind fun a => .expect_then (Gates.takeKind.behind fun b =>
        .expect_then ?_))
      exact .pure (by simp [Numeral.isApproximate])
    · exact .map .takeKind fun _ => rfl

theorem isApproximate_power {k : TokenKind} {f : Expr → Expr → Expr} {a b : Expr}
    (h : power? k = some f) : (f a b).isApproximate = (a.isApproximate || b.isApproximate) := by
  unfold power? at h
  split at h
  · obtain rfl := Option.some.inj h
    rfl
  · cases h

theorem isApproximate_product {k : TokenKind} {f : Expr → Expr → Expr} {a b : Expr}
    (h : product? k = some f) : (f a b).isApproximate = (a.isApproximate || b.isApproximate) := by
  unfold product? at h
  split at h
  · obtain rfl := Option.some.inj h
    rfl
  · obtain rfl := Option.some.inj h
    rfl
  · cases h

theorem isApproximate_sum {k : TokenKind} {f : Expr → Expr → Expr} {a b : Expr}
    (h : sum? k = some f) : (f a b).isApproximate = (a.isApproximate || b.isApproximate) := by
  unfold sum? at h
  split at h
  · obtain rfl := Option.some.inj h
    rfl
  · obtain rfl := Option.some.inj h
    rfl
  · cases h

theorem gates_expressionOf {p q : Phrase Expr} (h : Gates safe false Expr.isApproximate p q) :
    Gates safe false Expr.isApproximate (expressionOf p) (expressionOf q) :=
  .chain (fun _ _ _ _ => isApproximate_sum) <| .chain (fun _ _ _ _ => isApproximate_product) <|
    .chain (fun _ _ _ _ => isApproximate_power) h

theorem gates_operandWith {p q : Phrase Numeral} {inner inner' : Option (Phrase Expr)}
    (hnumber : Gates safe false Numeral.isApproximate p q)
    (hin : Gates safe false Expr.isApproximate (nested inner) (nested inner')) :
    Gates safe false Expr.isApproximate (operandWith p inner) (operandWith q inner') := by
  rw [operandWith, operandWith]
  refine Gates.peekKind.behind fun k => .ite (.map hnumber fun _ => rfl)
    (Gates.takeKind?.behind fun x => ?_)
  cases x with
  | some x => exact .pure rfl
  | none =>
    refine Gates.accept.behind fun _ => .ite ?_ (Gates.takeKind?.behind fun f => ?_)
    · exact hin.bind fun e => .expect_then (.pure rfl)
    · cases f with
      | some f => exact .expect_then (hin.bind fun e => .expect_then (.pure rfl))
      | none => exact .complain

theorem gates_unary (room : Nat) :
    Gates safe false Expr.isApproximate (unary first room) (unary (first || safe) room) := by
  induction room using Nat.strongRecOn with
  | _ room ih =>
    rw [unary_eq_primaryIn, unary_eq_primaryIn]
    refine Gates.accept.behind fun _ => .ite (.map (gates_below ih) fun _ => rfl) ?_
    exact gates_operandWith (gates_numeral room)
      (gates_below fun r hr => gates_expressionOf (ih r hr))

theorem gates_expressionIn (room : Nat) :
    Gates safe false Expr.isApproximate (expressionIn first room)
      (expressionIn (first || safe) room) :=
  gates_expressionOf (gates_unary room)

/-! ## Conditions -/

theorem gates_comparisonOf {p q : Phrase Expr} (h : Gates safe false Expr.isApproximate p q) :
    Gates safe false BoolExpr.isApproximate (comparisonOf p) (comparisonOf q) := by
  rw [comparisonOf, comparisonOf]
  refine h.bind fun lhs => Gates.takeKind.behind fun op => h.bind fun rhs =>
    Gates.peekKind.behind fun k => .ite ?_ (.pure ?_)
  · exact .bind (A := fun _ => false) .complain fun _ => .pure (by simp [BoolExpr.isApproximate])
  · simp [BoolExpr.isApproximate]

/-- A group reads the condition in it, whichever fault it reports. -/
theorem gated_conditionGroup {f g : Fault} {inner inner' : Option (Phrase BoolExpr)}
    (hfg : g.kind = f.kind)
    (hin : Gates safe false BoolExpr.isApproximate (nested inner) (nested inner')) {t u : Token}
    {ts us : List Token} (hts : Alike ts us) :
    ((conditionGroup f inner).run (t :: ts)).Gated safe BoolExpr.isApproximate
      ((conditionGroup g inner').run (u :: us)) := by
  have hgroup : ∀ (first : Fault) (inner : Option (Phrase BoolExpr)) (t : Token)
      (ts : List Token), (conditionGroup first inner).run (t :: ts) =
      (do let b ← (nested inner).mapFault fun fault => if fault.isGrammatical then first else fault
          let _ ← expect (.symbol .closeParen) .conditionClose
          return b : Phrase BoolExpr).run ts := fun _ _ _ _ => rfl
  rw [hgroup, hgroup]
  have hmap : Gates safe false BoolExpr.isApproximate
      ((nested inner).mapFault fun fault => if fault.isGrammatical then f else fault)
      ((nested inner').mapFault fun fault => if fault.isGrammatical then g else fault) := by
    refine .of_gated fun ts us hts => ?_
    have hgated := hin.gated (by simp) ts us hts
    simp only [Parser.mapFault]
    generalize (nested inner).run ts = o, (nested inner').run us = o' at hgated ⊢
    cases hgated with
    | ok hA hrest => exact .ok hA hrest
    | fail hkind =>
      -- the kind of the inner fault decides which one is reported
      refine .fail ?_
      rw [Fault.isGrammatical_eq, Fault.isGrammatical_eq, hkind]
      split
      · exact hfg
      · exact hkind
    | refused hsafe hA =>
      refine .refused hsafe fun b rest hok => ?_
      cases o with
      | fail => cases hok
      | ok b' rest' => exact (Outcome.ok.inj hok).1 ▸ hA b' rest' rfl
  have hclosed : ∀ b : BoolExpr, Gates safe (false || b.isApproximate) BoolExpr.isApproximate
      (do let _ ← expect (.symbol .closeParen) .conditionClose; return b)
      (do let _ ← expect (.symbol .closeParen) .conditionClose; return b) :=
    fun b => .expect_then (.pure (Bool.false_or _).symm)
  exact (hmap.bind hclosed).gated (by simp) ts us hts

/-- A condition is refused where the expression at its beginning is. -/
theorem run_conditionIn_approximate {room : Nat} {us left : List Token}
    (h : (expressionIn safe room).run us = .fail .approximate left) :
    (conditionIn safe room).run us = .fail .approximate left := by
  refine run_conditionIn_fail ?_
  have hcmp : (comparisonOf (expressionIn safe room)).run us = .fail .approximate left := by
    rw [comparisonOf, run_bind_fail h]
  rw [run_atomWith, hcmp]
  simp [Fault.isGrammatical]

/-- The condition in a group is the one that the group stands for. -/
theorem exists_of_run_conditionGroup {first : Fault} {inner : Option (Phrase BoolExpr)} {t : Token}
    {ts rest : List Token} {b : BoolExpr}
    (h : (conditionGroup first inner).run (t :: ts) = .ok b rest) :
    ∃ rest', (nested inner).run ts = .ok b rest' := by
  rw [run_conditionGroup] at h
  cases hin : (nested inner).run ts with
  | fail fault left => rw [hin] at h; cases h
  | ok b' rest' =>
    rw [hin] at h
    simp only [run_expect_bind] at h
    cases rest' with
    | nil => cases h
    | cons c cs =>
      simp only at h
      split at h
      · obtain ⟨rfl, -⟩ := Outcome.ok.inj h
        exact ⟨c :: cs, rfl⟩
      · cases h

/--
**The second reading of a group does not hide an approximate number.** If safe input stops the first
reading of tokens that begin with a parenthesis, then what the second reading makes of them without
safe input is approximate.
-/
theorem isApproximate_of_group {room : Nat} {t u : Token} {ts us left rest : List Token}
    {first : Fault} {b : BoolExpr}
    (ih : ∀ r < room, Gates true false BoolExpr.isApproximate (conditionIn false r)
      (conditionIn true r))
    (hu : u.kind = .symbol .openParen) (hts : Alike ts us)
    (hstop : (comparisonOf (expressionIn true room)).run (u :: us) = .fail .approximate left)
    (hgroup : (conditionGroup first (below (conditionIn false) room)).run (t :: ts) =
      .ok b rest) : b.isApproximate = true := by
  obtain ⟨rest', hin⟩ := exists_of_run_conditionGroup hgroup
  cases room with
  | zero => cases hin
  | succ room =>
    cases hexpr : (expressionIn true room).run us with
    | fail fault left' =>
      -- the number that is refused stands in the group, and the second reading meets it there
      have hsame : fault = .approximate := by
        have hfail : (expressionIn true (room + 1)).run (u :: us) = .fail fault left' :=
          run_expressionIn_group_fail hu hexpr
        rw [comparisonOf, run_bind_fail hfail] at hstop
        exact (Outcome.fail.inj hstop).1
      subst hsame
      have hgated := (ih room (Nat.lt_succ_self room)).gated (by simp) ts us hts
      rw [show (conditionIn false room).run ts = .ok b rest' from hin,
        run_conditionIn_approximate hexpr] at hgated
      cases hgated with
      | refused _ hb => exact hb b rest' rfl
    | ok e mid =>
      by_cases hclose : headKind mid = some (.symbol .closeParen)
      · -- a complete expression stands in the group, so it holds no condition
        obtain ⟨vs, rfl, ⟨n, -, hd, -⟩, -⟩ := yields_expressionIn true room us e mid hexpr
        obtain ⟨vs', mid', rfl, hvs, hmid⟩ :=
          List.map_eq_append_iff.mp (hts.trans List.map_append)
        have hclose' : headKind mid' = some (.symbol .closeParen) := by
          rw [← hclose]
          exact Alike.headKind_eq hmid
        obtain ⟨f, left', hfail⟩ :=
          run_conditionIn_of_derives false room (hvs.symm ▸ hd) hclose'
        rw [show (nested (below (conditionIn false) (room + 1))).run (vs' ++ mid') =
          .fail f left' from hfail] at hin
        cases hin
      · have hopen : (expressionIn true (room + 1)).run (u :: us) =
            .fail (.unexpected .closeParen mid.head?) mid :=
          run_expressionIn_group_open hu hexpr hclose
        rw [comparisonOf, run_bind_fail hopen] at hstop
        cases (Outcome.fail.inj hstop).1

theorem gates_atom (hfirst : (first && safe) = false) (room : Nat)
    (ih : ∀ r < room, Gates safe false BoolExpr.isApproximate (conditionIn first r)
      (conditionIn (first || safe) r)) :
    Gates safe false BoolExpr.isApproximate
      (atomWith (expressionIn first room) (below (conditionIn first) room))
      (atomWith (expressionIn (first || safe) room)
        (below (conditionIn (first || safe)) room)) := by
  refine .of_gated fun ts us hts => ?_
  have hexpr : Gates safe false Expr.isApproximate (expressionIn first room)
      (expressionIn (first || safe) room) := gates_expressionIn room
  have hcmp := (gates_comparisonOf hexpr).gated (by simp) ts us hts
  rw [run_atomWith, run_atomWith, ← hts.headKind_eq]
  generalize (comparisonOf (expressionIn first room)).run ts = o,
    hq : (comparisonOf (expressionIn (first || safe) room)).run us = o' at hcmp ⊢
  cases hcmp with
  | ok hA hrest => exact .ok hA hrest
  | @fail f g rest left hkind =>
    have hgram : g.isGrammatical = f.isGrammatical := by
      rw [Fault.isGrammatical_eq, Fault.isGrammatical_eq, hkind]
    simp only [hgram]
    split
    · next hgroup =>
      obtain ⟨t, ts, rfl, -⟩ := exists_cons_of_headKind hgroup.1
      obtain ⟨u, vs, rfl, -, hvs⟩ := hts.exists_cons
      exact gated_conditionGroup hkind (gates_below ih) hvs
    · exact .fail hkind
  | refused hsafe hA =>
    -- safe input stops the first reading, and there is no second one under it
    subst hsafe
    obtain rfl : first = false := by simpa using hfirst
    have hno : Fault.approximate.isGrammatical = false := rfl
    simp only [hno, Bool.false_eq_true, and_false, if_false]
    refine .refused rfl fun b rest hok => ?_
    cases o with
    | ok b' rest' => exact (Outcome.ok.inj hok).1 ▸ hA b' rest' rfl
    | fail f left =>
      simp only at hok
      split at hok
      · next hgroup =>
        obtain ⟨t, ts, rfl, ht⟩ := exists_cons_of_headKind hgroup.1
        obtain ⟨u, vs, rfl, hu, hvs⟩ := hts.exists_cons
        exact isApproximate_of_group ih (hu ▸ ht) hvs hq hok
      · cases hok

theorem gates_conditionIn (hfirst : (first && safe) = false) (room : Nat) :
    Gates safe false BoolExpr.isApproximate (conditionIn first room)
      (conditionIn (first || safe) room) := by
  induction room using Nat.strongRecOn with
  | _ room ih =>
    rw [conditionIn_eq, conditionIn_eq]
    refine .chain ?_ (.chain ?_ (gates_atom hfirst room ih))
    · intro k f a b hf
      unfold disjunction? at hf
      split at hf
      · obtain rfl := Option.some.inj hf
        rfl
      · cases hf
    · intro k f a b hf
      unfold conjunction? at hf
      split at hf
      · obtain rfl := Option.some.inj hf
        rfl
      · cases hf

/-! ## Parts of statements -/

theorem gates_expression :
    Gates safe false Expr.isApproximate (expression first) (expression (first || safe)) :=
  gates_expressionIn nestingLimit

theorem gates_number :
    Gates safe false Numeral.isApproximate (number first) (number (first || safe)) :=
  gates_numeral nestingLimit

theorem gates_interval :
    Gates safe false Interval.isApproximate (interval first) (interval (first || safe)) := by
  rw [interval, interval]
  refine .expect_then (gates_expression.bind fun lower => .expect_then
    (gates_expression.bind fun upper => .expect_then (.pure ?_)))
  rw [Bool.false_or]
  rfl

theorem gates_binding :
    Gates safe false Binding.isApproximate (binding first) (binding (first || safe)) := by
  rw [binding, binding]
  exact Gates.takeKind.behind fun x => .expect_then (.map gates_expression fun e => rfl)

theorem gates_preamble :
    Gates safe false (List.any · Binding.isApproximate) (preamble first)
      (preamble (first || safe)) := by
  rw [preamble, preamble, bindings, bindings]
  refine Gates.accept.behind fun _ => Gates.accept.behind fun _ => .ite ?_ (.pure rfl)
  exact (Gates.items gates_binding).bind fun bs => .expect_then (.pure (Bool.false_or _).symm)

theorem gates_equalsNumber : Gates safe false (fun _ => false) equalsNumber equalsNumber :=
  .expect_then .takeKind

theorem gates_equalsTruth : Gates safe false (fun _ => false) equalsTruth equalsTruth :=
  .expect_then .takeKind

theorem gates_pavingMode : Gates safe false (fun _ => false) pavingMode pavingMode := by
  rw [pavingMode]
  refine .expect_then (.expect fun sign sign' hsign hsign' => ?_)
  refine .next (hsign.trans hsign'.symm) fun t u htu => ?_
  simp only [← htu]
  cases mode? (t.getD sign).kind with
  | some mode => exact .pure rfl
  | none => exact .complainAbout htu

/-! ## Statements -/

theorem gates_settingOf {key key' : Token} (h : key.kind = key'.kind) :
    Gates safe false Setting.isApproximate (settingOf first key)
      (settingOf (first || safe) key') := by
  unfold settingOf
  rw [← h]
  split
  · exact .expect_then (.map gates_number fun _ => rfl)
  · refine Gates.takeKind?.behind fun x => ?_
    cases x with
    | some x => exact .map gates_equalsNumber fun _ => rfl
    | none => exact .map gates_equalsNumber fun _ => rfl
  · exact .map gates_equalsNumber fun _ => rfl
  · exact .map gates_equalsNumber fun _ => rfl
  · exact .map gates_equalsNumber fun _ => rfl
  · exact .map gates_equalsTruth fun _ => rfl
  · exact .expect_then (.map gates_equalsTruth fun _ => rfl)
  · exact .map gates_equalsTruth fun _ => rfl
  · exact .expect_then (.map .takeKind fun _ => rfl)
  · exact .expect_then (.map .takeKind fun _ => rfl)
  · exact .map gates_pavingMode fun _ => rfl
  · exact .complainAbout h

theorem gates_setting {head head' : Token} (h : head.kind = head'.kind) :
    Gates safe false Setting.isApproximate (setting first head) (setting (first || safe) head') :=
  .next h fun _ _ => gates_settingOf

theorem gates_declaration (kind : VarKind) :
    Gates safe false Statement.isApproximate (declaration first kind)
      (declaration (first || safe) kind) := by
  rw [declaration, declaration]
  exact Gates.takeKind.behind fun x => .expect_then (.map gates_interval fun i => rfl)

theorem gates_plot : Gates safe false Statement.isApproximate plot plot := by
  rw [plot]
  refine Gates.takeKind.behind fun name => Gates.takeKind.behind fun x =>
    Gates.takeKind.behind fun y => Gates.takeKind?.behind fun z => ?_
  cases z with
  | some z => exact .pure rfl
  | none => exact .pure rfl

/-- **What safe input changes about a statement.** -/
theorem gates_statement (hfirst : (first && safe) = false) {head head' : Token}
    (h : head.kind = head'.kind) :
    Gates safe false Statement.isApproximate (statement first head)
      (statement (first || safe) head') := by
  unfold Grammar.statement
  rw [← h]
  -- the cases stand in the order of the grammar
  split
  · exact gates_declaration .var
  · exact gates_declaration .param
  · exact Gates.takeKind.behind fun x => .expect_then (.map gates_number fun n => rfl)
  · exact gates_preamble.bind fun bs => .map gates_expression fun e => rfl
  · exact gates_preamble.bind fun bs => .map gates_expression fun e => rfl
  · refine gates_preamble.bind fun bs => gates_expression.bind fun lhs =>
      Gates.takeKind.behind fun op => gates_expression.bind fun rhs => .pure ?_
    simp only [Statement.isApproximate, Constraint.isApproximate_normalize, Bool.false_or,
      Bool.or_assoc]
  · exact Gates.takeKind.behind fun x => .expect_then (.map gates_expression fun e => rfl)
  · exact .map (gates_setting h) fun s => rfl
  · exact Gates.accept.behind fun _ => .ite (.pure rfl) (.pure rfl)
  · exact .pure rfl
  · exact .pure rfl
  · exact .pure rfl
  · exact .pure rfl
  · exact .pure rfl
  · exact .pure rfl
  · exact .expect_then (.map .takeKind fun _ => rfl)
  · exact .expect_then (.map .takeKind fun _ => rfl)
  · exact gates_plot
  · exact .map (gates_conditionIn hfirst nestingLimit) fun b => rfl
  · exact .map .takeKind fun _ => rfl
  · exact .pure rfl
  · exact .pure rfl
  · exact .pure rfl
  · exact .complainAbout h

end

end Grammar

end PaveScript
