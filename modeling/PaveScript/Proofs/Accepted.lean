import PaveScript.Proofs.Grammar.Locality
import PaveScript.Proofs.Grammar.Soundness
import PaveScript.Proofs.Scanned
import PaveScript.Script

/-!
# Statements that are read are well-formed

A tree that is read from the tokens of a text contains only what scanning gives, and under safe
input it contains no approximate number. So every statement of a text has a canonical text.

`Makes p good` says of a phrase that what it reads from scanned tokens is good. For expressions it
follows from their derivation, for the rest of the grammar it passes from the parts of a phrase to
the phrase.
-/

namespace PaveScript

open Grammar Phrase

/-! ## Derivations over scanned tokens -/

theorem Grammar.LiteralToken.unsigned {k : TokenKind} {l : Literal} (h : LiteralToken k l)
    (hk : k.Scanned) : l.Unsigned := by
  cases h with
  | number l => exact Literal.Plain.unsigned hk
  | hexFloat x => exact hk

/-- A word of scanned tokens, which safe input allows. -/
def ScannedWord (safe : Bool) (w : List TokenKind) : Prop :=
  (∀ k ∈ w, k.Scanned) ∧ Allowed safe w

namespace ScannedWord

variable {safe : Bool} {k : TokenKind} {v w : List TokenKind}

theorem left (h : ScannedWord safe (v ++ w)) : ScannedWord safe v :=
  ⟨fun k hk => h.1 k (List.mem_append_left w hk), (allowed_append.mp h.2).1⟩

theorem right (h : ScannedWord safe (v ++ w)) : ScannedWord safe w :=
  ⟨fun k hk => h.1 k (List.mem_append_right v hk), (allowed_append.mp h.2).2⟩

theorem tail (h : ScannedWord safe (k :: w)) : ScannedWord safe w :=
  right (v := [k]) h

theorem head (h : ScannedWord safe (k :: w)) : k.Scanned :=
  h.1 k List.mem_cons_self

end ScannedWord

theorem Grammar.NumberDerives.wellFormed {safe : Bool} {n : Nat} {w : List TokenKind} {a : Numeral}
    (h : NumberDerives n w a) (hw : ScannedWord safe w) :
    a.WellFormed safe Literal.Unsigned := by
  induction h with
  | literal h => exact .inl (h.unsigned hw.head)
  | @negated k l h => exact .inr ⟨l, h.unsigned hw.tail.head, rfl⟩
  | approx h ih =>
    -- under safe input the word would not be allowed
    refine ⟨?_, ih hw.tail.tail.left⟩
    cases safe with
    | false => rfl
    | true => exact absurd List.mem_cons_self (hw.2 rfl)
  | dec ha hb iha ihb => exact ⟨iha hw.tail.tail.left, ihb hw.tail.tail.right.tail.left⟩
  | rat l h ih =>
    have hl : l.Plain := hw.tail.tail.right.tail.head
    exact ⟨ih hw.tail.tail.left, hl.unsigned⟩

/-- A number in an expression has no sign. -/
theorem Grammar.NumberDerives.wellFormed_number {safe : Bool} {n : Nat} {w : List TokenKind}
    {a : Numeral} (h : NumberDerives n w a) (unsigned : w.head? ≠ some (.symbol .minus))
    (hw : ScannedWord safe w) : (Expr.number a).WellFormed safe Literal.Unsigned := by
  have ha := h.wellFormed hw
  cases h with
  | literal h => exact h.unsigned hw.head
  | negated h => exact absurd rfl unsigned
  | approx h => exact ha
  | dec ha' hb => exact ha
  | rat l h => exact ha

/-- **An expression that a scanned word derives is well-formed.** -/
theorem Grammar.Derives.wellFormed {safe : Bool} {l : Level} {n : Nat} {w : List TokenKind}
    {e : Expr} (h : Derives l n w e) (hw : ScannedWord safe w) :
    e.WellFormed safe Literal.Unsigned := by
  induction h with
  | number h unsigned => exact h.wellFormed_number unsigned hw
  | ident x => exact hw.head
  | group h ih => exact ih hw.tail.left
  | call f h ih => exact ih hw.tail.tail.left
  | primary h ih => exact ih hw
  | neg h ih => exact ih hw.tail
  | unary h ih => exact ih hw
  | power h ih => exact ih hw
  | product h ih => exact ih hw
  | pow ha hb iha ihb => exact ⟨iha hw.left, ihb hw.right.tail⟩
  | mul ha hb iha ihb => exact ⟨iha hw.left, ihb hw.right.tail⟩
  | div ha hb iha ihb => exact ⟨iha hw.left, ihb hw.right.tail⟩
  | add ha hb iha ihb => exact ⟨iha hw.left, ihb hw.right.tail⟩
  | sub ha hb iha ihb => exact ⟨iha hw.left, ihb hw.right.tail⟩

/-! ## Phrases over scanned tokens -/

/-- All tokens are of scanned kinds. -/
def AllScanned (ts : List Token) : Prop := ∀ t ∈ ts, t.kind.Scanned

theorem AllScanned.of_suffix {ts us : List Token} (h : AllScanned ts) (hus : us <:+ ts) :
    AllScanned us :=
  fun t ht => h t (hus.subset ht)

/-- What `p` reads from scanned tokens is good. -/
def Makes {α : Type} (p : Phrase α) (good : α → Prop) : Prop :=
  ∀ (ts : List Token) (a : α) (rest : List Token), AllScanned ts → p.run ts = .ok a rest → good a

namespace Makes

variable {α β : Type} {p : Phrase α} {good : α → Prop} {k : TokenKind} {c : Complaint}

theorem anything (p : Phrase α) : Makes p fun _ => True :=
  fun _ _ _ _ _ => trivial

protected theorem pure {a : α} (h : good a) : Makes (pure a) good := by
  intro ts b rest _ hrun
  obtain ⟨rfl, -⟩ := Outcome.ok.inj hrun
  exact h

theorem of_fail (h : ∀ ts, ∃ fault left, p.run ts = .fail fault left) : Makes p good := by
  intro ts a rest _ hrun
  obtain ⟨fault, left, hfail⟩ := h ts
  rw [hfail] at hrun
  cases hrun

theorem complain : Makes (complain c) good :=
  of_fail fun ts => ⟨_, _, run_complain c ts⟩

theorem bind {f : α → Phrase β} {good' : β → Prop} (hp : Makes p good)
    (hf : ∀ a, good a → Makes (f a) good') : Makes (p >>= f) good' := by
  intro ts b rest hts hrun
  rw [Parser.run_bind] at hrun
  cases hp' : p.run ts with
  | fail fault left => rw [hp'] at hrun; cases hrun
  | ok a mid =>
    rw [hp'] at hrun
    exact hf a (hp ts a mid hts hp') mid b rest (hts.of_suffix (suffix_of_run hp')) hrun

/-- What the first phrase reads does not matter. -/
theorem skip {f : α → Phrase β} {good' : β → Prop} (hf : ∀ a, Makes (f a) good') :
    Makes (p >>= f) good' :=
  (anything p).bind fun a _ => hf a

theorem map {F : α → β} {good' : β → Prop} (hp : Makes p good) (h : ∀ a, good a → good' (F a)) :
    Makes (do return F (← p)) good' :=
  hp.bind fun a ha => .pure (h a ha)

theorem ite {P : Prop} [Decidable P] {q r : Phrase α} (hq : Makes q good) (hr : Makes r good) :
    Makes (if P then q else r) good := by
  split
  · exact hq
  · exact hr

theorem takeKind {f : TokenKind → Option α} (h : ∀ k a, k.Scanned → f k = some a → good a) :
    Makes (takeKind f c) good := by
  intro ts a rest hts hrun
  obtain ⟨us, rfl, k, hk, hf⟩ := Yields.takeKind f ts a rest hrun
  obtain ⟨t, rfl, rfl⟩ := List.map_eq_singleton_iff.mp hk
  exact h t.kind a (hts t (by simp)) hf

theorem takeKind? {f : TokenKind → Option α} (h : ∀ k a, k.Scanned → f k = some a → good a) :
    Makes (takeKind? f) fun o => ∀ a ∈ o, good a := by
  intro ts o rest hts hrun a ha
  obtain rfl := ha
  rw [run_takeKind?] at hrun
  split at hrun
  · next b hb =>
    obtain ⟨k, hk, hf⟩ := Option.bind_eq_some_iff.mp hb
    obtain ⟨t, us, rfl, rfl⟩ := exists_cons_of_headKind hk
    obtain ⟨hsome, -⟩ := Outcome.ok.inj hrun
    obtain rfl := Option.some.inj hsome
    exact h t.kind b (hts t List.mem_cons_self) hf
  · cases (Outcome.ok.inj hrun).1

theorem nested {inner : Option (Phrase α)} (h : ∀ p ∈ inner, Makes p good) :
    Makes (nested inner) good := by
  cases inner with
  | none => exact .complain
  | some p => exact h p rfl

theorem retry {alternative : Fault → Option (Phrase α)} (hp : Makes p good)
    (h : ∀ fault, ∀ q ∈ alternative fault, Makes q good) : Makes (p.retry alternative) good := by
  intro ts a rest hts hrun
  simp only [Parser.retry] at hrun
  split at hrun
  · next hok => exact hp ts a rest hts (hrun ▸ hok)
  · split at hrun
    · next q hq => exact h _ q hq ts a rest hts hrun
    · cases hrun

theorem mapFault {f : Fault → Fault} (hp : Makes p good) : Makes (p.mapFault f) good := by
  intro ts a rest hts hrun
  simp only [Parser.mapFault] at hrun
  split at hrun
  · next hok => exact hp ts a rest hts (hrun ▸ hok)
  · cases hrun

/-- A chain is good if its operators keep what is good. -/
theorem chain {op? : TokenKind → Option (α → α → α)} (hp : Makes p good)
    (hop : ∀ k f a b, op? k = some f → good a → good b → good (f a b)) :
    Makes (chain op? p) good := by
  have loop : ∀ (lhs : α) (ts : List Token) (a : α) (rest : List Token), AllScanned ts → good lhs →
      Parser.chainFrom p (fun t => op? t.kind) lhs ts = .ok a rest → good a := by
    intro lhs ts a rest hts hlhs hrun
    fun_induction Parser.chainFrom p (fun t => op? t.kind) lhs ts with
    | case1 lhs => exact (Outcome.ok.inj hrun).1 ▸ hlhs
    | case2 lhs t ts hnone => exact (Outcome.ok.inj hrun).1 ▸ hlhs
    | case3 lhs t ts f hf b mid hb ih =>
      -- what an operand leaves is a suffix of the tokens, and so it is scanned
      have htail : AllScanned ts := hts.of_suffix (List.suffix_cons t ts)
      exact ih (htail.of_suffix (suffix_of_run hb)) (hop _ f lhs b hf hlhs (hp ts b mid htail hb))
        hrun
    | case4 => cases hrun
  intro ts a rest hts hrun
  rw [run_chain] at hrun
  split at hrun
  · next b mid hb =>
    exact loop b mid a rest (hts.of_suffix (suffix_of_run hb)) (hp ts b mid hts hb) hrun
  · cases hrun

theorem items (hp : Makes p good) : Makes (items k p) fun as => ∀ a ∈ as, good a := by
  have loop : ∀ (done : List α) (ts : List Token) (as : List α) (rest : List Token),
      AllScanned ts → (∀ a ∈ done, good a) →
      Parser.itemsFrom (fun t : Token => t.kind = k) p done ts = .ok as rest →
      ∀ a ∈ as, good a := by
    intro done ts as rest hts hdone hrun
    fun_induction Parser.itemsFrom (fun t : Token => t.kind = k) p done ts with
    | case1 done =>
      obtain ⟨rfl, -⟩ := Outcome.ok.inj hrun
      exact fun a ha => hdone a (List.mem_reverse.mp ha)
    | case2 done t ts hsep b mid hb ih =>
      have htail : AllScanned ts := hts.of_suffix (List.suffix_cons t ts)
      refine ih (htail.of_suffix (suffix_of_run hb)) ?_ hrun
      exact List.forall_mem_cons.mpr ⟨hp ts b mid htail hb, hdone⟩
    | case3 => cases hrun
    | case4 done t ts hsep =>
      obtain ⟨rfl, -⟩ := Outcome.ok.inj hrun
      exact fun a ha => hdone a (List.mem_reverse.mp ha)
  intro ts as rest hts hrun
  rw [items_eq, run_itemsBehind] at hrun
  split at hrun
  · next b mid hb =>
    refine loop [b] mid as rest (hts.of_suffix (suffix_of_run hb)) ?_ hrun
    exact List.forall_mem_singleton.mpr (hp ts b mid hts hb)
  · cases hrun

end Makes

/-! ## The grammar -/

theorem makes_name {c : Complaint} : Makes (identifier c) Lexer.IsName := by
  refine .takeKind fun k x hk hx => ?_
  cases k with
  | identifier y =>
    obtain rfl := Option.some.inj hx
    exact hk
  | _ => cases hx

theorem makes_name? : Makes (takeKind? name?) fun o => ∀ x ∈ o, Lexer.IsName x := by
  refine .takeKind? fun k x hk hx => ?_
  cases k with
  | identifier y =>
    obtain rfl := Option.some.inj hx
    exact hk
  | _ => cases hx

theorem makes_plainNumber : Makes plainNumber Literal.Unsigned := by
  refine .takeKind fun k l hk hl => ?_
  cases k with
  | number m =>
    obtain rfl := Option.some.inj hl
    exact Literal.Plain.unsigned hk
  | _ => cases hl

theorem allScanned_word {us rest : List Token} (h : AllScanned (us ++ rest)) :
    ∀ k ∈ us.map Token.kind, k.Scanned := by
  intro k hk
  obtain ⟨t, ht, rfl⟩ := List.mem_map.mp hk
  exact h t (List.mem_append_left rest ht)

section

variable (safe : Bool)

theorem makes_numeral (room : Nat) :
    Makes (numeral safe room) (Numeral.WellFormed safe Literal.Unsigned) := by
  intro ts a rest hts hrun
  obtain ⟨us, rfl, n, -, hd, ha⟩ := yields_numeral safe room ts a rest hrun
  exact hd.wellFormed ⟨allScanned_word hts, ha⟩

theorem makes_expressionIn (room : Nat) :
    Makes (expressionIn safe room) (Expr.WellFormed safe Literal.Unsigned) := by
  intro ts e rest hts hrun
  obtain ⟨us, rfl, ⟨n, -, hd, ha⟩, -⟩ := yields_expressionIn safe room ts e rest hrun
  exact hd.wellFormed ⟨allScanned_word hts, ha⟩

theorem makes_comparisonOf {p : Phrase Expr}
    (hp : Makes p (Expr.WellFormed safe Literal.Unsigned)) :
    Makes (comparisonOf p) (BoolExpr.WellFormed safe Literal.Unsigned) :=
  hp.bind fun _ ha => .skip fun _ => hp.bind fun _ hb => .skip fun _ =>
    .ite (.skip fun _ => .pure ⟨ha, hb⟩) (.pure ⟨ha, hb⟩)

theorem makes_atomWith {p : Phrase Expr} {inner : Option (Phrase BoolExpr)}
    (hp : Makes p (Expr.WellFormed safe Literal.Unsigned))
    (hin : ∀ q ∈ inner, Makes q (BoolExpr.WellFormed safe Literal.Unsigned)) :
    Makes (atomWith p inner) (BoolExpr.WellFormed safe Literal.Unsigned) := by
  refine .skip fun next => .retry (makes_comparisonOf safe hp) fun fault q hq => ?_
  simp only [Option.mem_def, Option.ite_none_right_eq_some, Option.some.injEq] at hq
  obtain ⟨-, rfl⟩ := hq
  exact .skip fun _ => .bind (.mapFault (.nested hin)) fun _ hb => .skip fun _ => .pure hb

theorem makes_conditionOf {atom : Phrase BoolExpr}
    (h : Makes atom (BoolExpr.WellFormed safe Literal.Unsigned)) :
    Makes (conditionOf atom) (BoolExpr.WellFormed safe Literal.Unsigned) := by
  refine .chain (.chain h ?_) ?_
  · intro k f a b hf ha hb
    unfold conjunction? at hf
    split at hf
    · obtain rfl := Option.some.inj hf
      exact ⟨ha, hb⟩
    · cases hf
  · intro k f a b hf ha hb
    unfold disjunction? at hf
    split at hf
    · obtain rfl := Option.some.inj hf
      exact ⟨ha, hb⟩
    · cases hf

theorem makes_conditionIn (room : Nat) :
    Makes (conditionIn safe room) (BoolExpr.WellFormed safe Literal.Unsigned) := by
  induction room with
  | zero =>
    refine makes_conditionOf safe (makes_atomWith safe (makes_expressionIn safe 0) ?_)
    intro q hq
    cases hq
  | succ room ih =>
    refine makes_conditionOf safe (makes_atomWith safe (makes_expressionIn safe (room + 1)) ?_)
    intro q hq
    obtain rfl := Option.some.inj hq
    exact ih

/-! ### Statements -/

theorem makes_binding : Makes (binding safe) (Binding.WellFormed safe Literal.Unsigned) :=
  makes_name.bind fun _ hx => .skip fun _ => .map (makes_expressionIn safe _) fun _ he => ⟨hx, he⟩

theorem makes_preamble :
    Makes (preamble safe) fun bs => ∀ b ∈ bs, b.WellFormed safe Literal.Unsigned := by
  refine .skip fun _ => .skip fun _ => .ite ?_ ?_
  · exact .bind (.items (makes_binding safe)) fun _ hbs => .skip fun _ => .pure hbs
  · exact .pure (by simp)

theorem makes_interval : Makes (interval safe) fun i =>
    i.lower.WellFormed safe Literal.Unsigned ∧ i.upper.WellFormed safe Literal.Unsigned :=
  .skip fun _ => .bind (makes_expressionIn safe _) fun _ hl => .skip fun _ =>
    .bind (makes_expressionIn safe _) fun _ hu => .skip fun _ => .pure ⟨hl, hu⟩

theorem makes_equalsNumber : Makes equalsNumber Literal.Unsigned :=
  .skip fun _ => makes_plainNumber

theorem makes_file {c : Complaint} :
    Makes (takeKind file? c) fun file => ∃ ext, Lexer.IsFileName file.toList ext := by
  refine .takeKind fun k file hk hfile => ?_
  cases k with
  | inputFile path =>
    obtain rfl := Option.some.inj hfile
    exact ⟨_, hk⟩
  | outputFile path =>
    obtain rfl := Option.some.inj hfile
    exact hk
  | _ => cases hfile

theorem makes_script {c : Complaint} :
    Makes (takeKind script? c) fun path => Lexer.IsFileName path.toList ['k', 'd', 'k'] := by
  refine .takeKind fun k path hk hpath => ?_
  cases k with
  | inputFile path =>
    obtain rfl := Option.some.inj hpath
    exact hk
  | _ => cases hpath

theorem makes_settingOf (key : Token) :
    Makes (settingOf safe key) (Setting.WellFormed safe Literal.Unsigned) := by
  unfold settingOf
  split
  · exact .skip fun _ => .map (makes_numeral safe _) fun _ hn => hn
  · refine makes_name?.bind fun o ho => ?_
    cases o with
    | some x => exact .map makes_equalsNumber fun _ hl => ⟨ho x rfl, hl⟩
    | none => exact .map makes_equalsNumber fun _ hl => hl
  · exact .map makes_equalsNumber fun _ hl => hl
  · exact .map makes_equalsNumber fun _ hl => hl
  · exact .map makes_equalsNumber fun _ hl => hl
  · exact .map (.anything _) fun _ h => h
  · exact .skip fun _ => .map (.anything _) fun _ h => h
  · exact .map (.anything _) fun _ h => h
  · exact .skip fun _ => .map makes_name fun _ hx => hx
  · exact .skip fun _ => .map makes_file fun _ hfile => hfile
  · exact .map (.anything _) fun _ h => h
  · exact .of_fail fun ts => ⟨_, _, run_complainAbout _ _ ts⟩

theorem makes_plot : Makes plot (Statement.WellFormed safe Literal.Unsigned) := by
  refine makes_name.bind fun name hname => makes_name.bind fun x hx => makes_name.bind fun y hy =>
    makes_name?.bind fun o ho => ?_
  cases o with
  | some z => exact .pure ⟨hname, by simp [PlotAxes.names, hx, hy, ho z rfl]⟩
  | none => exact .pure ⟨hname, by simp [PlotAxes.names, hx, hy]⟩

/-- The difference of well-formed expressions is one. -/
theorem wellFormed_normalize {safe : Bool} {lhs rhs : Expr} {op : Comparison}
    (hl : lhs.WellFormed safe Literal.Unsigned) (hr : rhs.WellFormed safe Literal.Unsigned) :
    (Constraint.normalize lhs op rhs).expr.WellFormed safe Literal.Unsigned := by
  unfold Constraint.normalize
  split
  · exact hl
  · exact ⟨hl, hr⟩

theorem makes_statement (head : Token) :
    Makes (statement safe head) (Statement.WellFormed safe Literal.Unsigned) := by
  have hexpr := makes_expressionIn safe nestingLimit
  unfold Grammar.statement
  -- the cases stand in the order of the grammar
  split
  · exact makes_name.bind fun _ hx => .skip fun _ => .map (makes_interval safe) fun _ hi => ⟨hx, hi⟩
  · exact makes_name.bind fun _ hx => .skip fun _ => .map (makes_interval safe) fun _ hi => ⟨hx, hi⟩
  · exact makes_name.bind fun _ hx => .skip fun _ => .map (makes_numeral safe _) fun _ hn =>
      ⟨hx, hn⟩
  · exact .bind (makes_preamble safe) fun _ hbs => .map hexpr fun _ he => ⟨hbs, he⟩
  · exact .bind (makes_preamble safe) fun _ hbs => .map hexpr fun _ he => ⟨hbs, he⟩
  · exact .bind (makes_preamble safe) fun _ hbs => hexpr.bind fun _ hl => .skip fun _ =>
      hexpr.bind fun _ hr => .pure ⟨hbs, wellFormed_normalize hl hr⟩
  · exact makes_name.bind fun _ hx => .skip fun _ => .map hexpr fun _ he => ⟨hx, he⟩
  · exact .map (.skip fun _ => makes_settingOf safe _) fun _ hs => hs
  · exact .skip fun _ => .ite (.pure trivial) (.pure trivial)
  · exact .pure trivial
  · exact .pure trivial
  · exact .pure trivial
  · exact .pure trivial
  · exact .pure trivial
  · exact .pure trivial
  · exact .skip fun _ => .map makes_name fun _ hx => hx
  · exact .skip fun _ => .map makes_name fun _ hx => hx
  · exact makes_plot safe
  · exact .map (makes_conditionIn safe _) fun _ hb => hb
  · exact .map makes_script fun _ hpath => hpath
  · exact .pure trivial
  · exact .pure trivial
  · exact .pure trivial
  · exact .of_fail fun ts => ⟨_, _, run_complainAbout _ _ ts⟩

theorem makes_closedStatement (head : Token) :
    Makes (Script.closedStatement safe head) (Statement.WellFormed safe Literal.Unsigned) := by
  refine (makes_statement safe head).bind fun s hs => .skip fun k => ?_
  cases k with
  | none => exact .pure hs
  | some k => exact .ite (.pure hs) .complain

end

/-! ## Scripts -/

namespace Script

variable {safe : Bool}

/-- A statement that a step reads is well-formed, and the tokens that are left are scanned. -/
theorem wellFormed_of_step {s s' : Script} {p : Parsed} (hs : AllScanned s.rest)
    (h : s.step safe = (.parsed p, s')) :
    p.statement.WellFormed safe Literal.Unsigned ∧ AllScanned s'.rest := by
  unfold step at h
  split at h
  · cases h
  · next head ts hts =>
    have hall : AllScanned ts := by
      have hcons : AllScanned (head :: ts) := hts ▸ hs.of_suffix (List.dropWhile_suffix _)
      exact hcons.of_suffix (List.suffix_cons head ts)
    split at h
    · next statement rest hrun =>
      obtain ⟨hp, rfl⟩ := Prod.mk.inj h
      obtain rfl := Step.parsed.inj hp
      refine ⟨makes_closedStatement safe head ts statement rest hall hrun, ?_⟩
      exact hall.of_suffix ((List.drop_suffix 1 rest).trans (suffix_of_run hrun))
    · cases h

theorem wellFormed_of_statements {s : Script} {ss : List Statement} (hs : AllScanned s.rest)
    (h : (s.statements safe).1 = .ok ss) : ∀ t ∈ ss, t.WellFormed safe Literal.Unsigned := by
  fun_induction statements safe s generalizing ss with
  | case1 s s' hstep =>
    obtain rfl := Except.ok.inj h
    simp
  | case2 s error s' hstep => cases h
  | case3 s p s' hstep rest s'' hrest ih =>
    obtain rfl := Except.ok.inj h
    obtain ⟨hp, hs'⟩ := wellFormed_of_step hs hstep
    exact List.forall_mem_cons.mpr ⟨hp, ih hs' (by rw [hrest])⟩
  | case4 s p s' hstep error s'' herror ih => cases h

/-- A script that is read completely has no report of a skipped character. -/
theorem statements_of_readAll {s : Script} {ss : List Statement}
    (h : (s.readAll safe).1 = .ok ss) : (s.statements safe).1 = .ok ss := by
  unfold readAll at h
  split at h
  · cases h
  · exact h

/-- **All statements that are read from a text are well-formed.** -/
theorem wellFormed_of_readAll [Text.Normalizer] {text : String} {ss : List Statement}
    (h : ((ofText text).readAll safe).1 = .ok ss) :
    ∀ t ∈ ss, t.WellFormed safe Literal.Unsigned :=
  wellFormed_of_statements (fun _ => scanned_of_mem_tokens) (statements_of_readAll h)

end Script

end PaveScript
