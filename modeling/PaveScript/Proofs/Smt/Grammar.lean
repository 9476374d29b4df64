import PaveScript.Proofs.Smt.Tiling
import PaveScript.Smt.Command

/-!
# The grammar of the prefix dialect

The grammar as rules, apart from any parser:

```text
script   → nothing | ( command ) script
command  → var NAME [ number , number ] | operator number number | check-sat
operator → + | * | / | ^ | -
number   → NUMBER | - NUMBER
```

Tokens go wrong at the first one behind which no script can go on, or at their end. This is where
the parser stops, so its error is about that token and about no other one.

* `Recognises` — a phrase reads the words of a language, and stops where a word goes wrong
* `Recognises.bind` — two phrases in sequence
* `Scan.recognised_ofText` — which tokens are read as commands, and what is wrong with others
-/

namespace PaveScript.Smt

/-! ## Derivations -/

/-- A number with an optional sign. -/
inductive NumberDerives : List TokenKind → Literal → Prop where
  | literal (l : Literal) : NumberDerives [.number l] l
  | negated (l : Literal) : NumberDerives [.minus, .number l] l.negate

/-- The operator that a token is at the head of a command. -/
inductive OperatorToken : TokenKind → BinaryOp → Prop where
  | operator (op : BinaryOp) : OperatorToken (.operator op) op
  | minus : OperatorToken .minus .sub

/-- A command without its parentheses. -/
inductive CommandDerives : List TokenKind → Command → Prop where
  | var {v w : List TokenKind} {lower upper : Literal} (name : String)
    (hlower : NumberDerives v lower) (hupper : NumberDerives w upper) :
    CommandDerives
      (.var :: .identifier name :: .openBracket :: (v ++ .comma :: (w ++ [.closeBracket])))
      (.var name lower upper)
  | apply {k : TokenKind} {v w : List TokenKind} {op : BinaryOp} {lhs rhs : Literal}
    (hop : OperatorToken k op) (hlhs : NumberDerives v lhs) (hrhs : NumberDerives w rhs) :
    CommandDerives (k :: (v ++ w)) (.apply op lhs rhs)
  | checkSat : CommandDerives [.checkSat] .checkSat

/-- Commands in parentheses, one behind the other. -/
inductive ScriptDerives : List TokenKind → List Command → Prop where
  | nil : ScriptDerives [] []
  | cons {v w : List TokenKind} {c : Command} {cs : List Command} (hc : CommandDerives v c)
    (hcs : ScriptDerives w cs) :
    ScriptDerives (.openParen :: (v ++ .closeParen :: w)) (c :: cs)

/-! ## Where a word goes wrong -/

section Languages

variable {α β : Type}

/-- Some word of the language begins with `w`. -/
def Viable (R : List TokenKind → α → Prop) (w : List TokenKind) : Prop :=
  ∃ v a, R (w ++ v) a

/-- The tokens go wrong at `found`: the tokens before it can be gone on with, but not with it. At
the end of the tokens nothing is found. -/
def StopsAt (R : List TokenKind → α → Prop) (ts : List Token) (found : Option Token) : Prop :=
  ∃ before after, ts = before ++ after ∧ found = after.head? ∧
    Viable R (before.map Token.kind) ∧
    ∀ t ∈ found, ¬Viable R ((before ++ [t]).map Token.kind)

theorem Viable.of_prefix {R : List TokenKind → α → Prop} {v w : List TokenKind} (h : Viable R w)
    (hv : v <+: w) : Viable R v := by
  obtain ⟨u, rfl⟩ := hv
  obtain ⟨x, a, hx⟩ := h
  exact ⟨u ++ x, a, by rwa [← List.append_assoc]⟩

/-- Tokens go wrong at one place only. -/
theorem StopsAt.unique {R : List TokenKind → α → Prop} {ts : List Token} {x y : Option Token}
    (hx : StopsAt R ts x) (hy : StopsAt R ts y) : x = y := by
  obtain ⟨b, d, rfl, rfl, hb, hbad⟩ := hx
  obtain ⟨b', d', hts, rfl, hb', hbad'⟩ := hy
  -- the longer beginning would go on with what the shorter one cannot go on with
  rcases List.append_eq_append_iff.mp hts with ⟨z, rfl, rfl⟩ | ⟨z, rfl, rfl⟩
  · cases z with
    | nil => rfl
    | cons t z =>
      refine absurd (hb'.of_prefix ?_) (hbad t rfl)
      exact ⟨z.map Token.kind, by simp⟩
  · cases z with
    | nil => rfl
    | cons t z =>
      refine absurd (hb.of_prefix ?_) (hbad' t rfl)
      exact ⟨z.map Token.kind, by simp⟩

/-- A word of the one language, then a word of the other, which depends on the first value. -/
def Then (R : List TokenKind → α → Prop) (S : α → List TokenKind → β → Prop)
    (w : List TokenKind) (b : β) : Prop :=
  ∃ u v a, w = u ++ v ∧ R u a ∧ S a v b

/-- What goes wrong behind a token goes wrong in the words that begin with it. -/
theorem StopsAt.behind {R : List TokenKind → α → Prop} {R' : List TokenKind → β → Prop}
    {t : Token} {ts : List Token} {found : Option Token} (h : StopsAt R ts found)
    (hiff : ∀ w, (∃ b, R' (t.kind :: w) b) ↔ ∃ a, R w a) : StopsAt R' (t :: ts) found := by
  obtain ⟨before, after, rfl, rfl, ⟨v, hv⟩, hbad⟩ := h
  refine ⟨t :: before, after, rfl, rfl, ⟨v, (hiff _).mpr hv⟩, ?_⟩
  rintro u hu ⟨x, hx⟩
  exact hbad u hu ⟨x, (hiff _).mp hx⟩

/-! ## Phrases -/

/-- Tokens of given kinds. -/
def spell (w : List TokenKind) : List Token := w.map fun k => ⟨k, "", 0, 0⟩

theorem map_kind_spell (w : List TokenKind) : (spell w).map Token.kind = w := by
  simp [spell, Function.comp_def]

theorem run_consume (g : TokenKind → Option α) (complaint : Complaint) (t : Token)
    (ts : List Token) :
    (consume g complaint).run (t :: ts) =
      match g t.kind with
      | some a => .ok a ts
      | none => .fail ⟨complaint, some t⟩ ts := by
  have hnext : (Parser.next : Phrase (Option Token)).run (t :: ts) = .ok (some t) ts := rfl
  rw [consume, Parser.run_bind, hnext]
  simp only [Option.bind_some]
  cases g t.kind <;> rfl

theorem run_expect (k : TokenKind) (complaint : Complaint) (t : Token) (ts : List Token) :
    (expect k complaint).run (t :: ts) =
      if t.kind = k then .ok () ts else .fail ⟨complaint, some t⟩ (t :: ts) := by
  rw [expect, Parser.take, Parser.run_bind]
  by_cases h : t.kind = k
  · simp [Parser.take?, h]
  · simp [Parser.take?, h, Parser.stopAt]

/-- The phrase reads the words of the language, and where it fails a word goes wrong. -/
structure Recognises (p : Phrase α) (R : List TokenKind → α → Prop) : Prop where
  nonempty : ∃ w a, R w a
  reads : ∀ {us a} (rest), R (us.map Token.kind) a → p.run (us ++ rest) = .ok a rest
  sound : ∀ {ts a rest}, p.run ts = .ok a rest → ∃ us, ts = us ++ rest ∧ R (us.map Token.kind) a
  stops : ∀ {ts fault rest}, p.run ts = .fail fault rest → StopsAt R ts fault.found

namespace Recognises

variable {p : Phrase α} {R : List TokenKind → α → Prop} {f : α → Phrase β}
  {S : α → List TokenKind → β → Prop}

theorem congr {R' : List TokenKind → α → Prop} (h : Recognises p R)
    (hiff : ∀ w a, R w a ↔ R' w a) : Recognises p R' := by
  obtain rfl : R = R' := funext fun w => funext fun a => propext (hiff w a)
  exact h

/-- No word of the language goes on to another one. -/
theorem eq_of_append (h : Recognises p R) {u v : List TokenKind} {a b : α} (hu : R u a)
    (hv : R (u ++ v) b) : v = [] ∧ a = b := by
  -- tokens that spell the longer word are read as both
  have hlong : p.run (spell u ++ spell v ++ []) = .ok b [] :=
    h.reads [] (by rwa [List.map_append, map_kind_spell, map_kind_spell])
  have hshort : p.run (spell u ++ spell v) = .ok a (spell v) :=
    h.reads (spell v) (by rwa [map_kind_spell])
  rw [List.append_nil, hshort] at hlong
  obtain ⟨hvalue, hrest⟩ := Outcome.ok.inj hlong
  exact ⟨List.map_eq_nil_iff.mp hrest, hvalue⟩

/-- The words at the head of one text are one. -/
theorem eq_of_append_eq (h : Recognises p R) {u u' v v' : List TokenKind} {a a' : α} (hu : R u a)
    (hu' : R u' a') (heq : u ++ v = u' ++ v') : u = u' ∧ v = v' ∧ a = a' := by
  rcases List.append_eq_append_iff.mp heq with ⟨z, rfl, rfl⟩ | ⟨z, rfl, rfl⟩
  · obtain ⟨rfl, rfl⟩ := h.eq_of_append hu hu'
    exact ⟨(List.append_nil _).symm, rfl, rfl⟩
  · obtain ⟨rfl, rfl⟩ := h.eq_of_append hu' hu
    exact ⟨List.append_nil _, rfl, rfl⟩

/-- Where the first phrase fails, the sequence goes wrong. -/
theorem stops_first (h : Recognises p R) (hS : ∀ a, ∃ v b, S a v b) {ts rest : List Token}
    {fault : Fault} (hrun : p.run ts = .fail fault rest) : StopsAt (Then R S) ts fault.found := by
  obtain ⟨before, after, rfl, hfound, ⟨v, a, hv⟩, hbad⟩ := h.stops hrun
  refine ⟨before, after, rfl, hfound, ?_, ?_⟩
  · obtain ⟨w, b, hw⟩ := hS a
    exact ⟨v ++ w, b, before.map Token.kind ++ v, w, a, (List.append_assoc ..).symm, hv, hw⟩
  · rintro t ht ⟨x, b, u, w, a', heq, hu, -⟩
    rcases List.append_eq_append_iff.mp heq with ⟨z, rfl, -⟩ | ⟨z, hz, -⟩
    · exact hbad t ht ⟨z, a', hu⟩
    · -- the whole first word stands at the head of the tokens, so it would have been read
      obtain ⟨us, vs, hsplit, rfl, -⟩ := List.map_eq_append_iff.mp hz
      rw [hfound] at ht
      obtain ⟨ds, hds⟩ := List.head?_eq_some_iff.mp ht
      have hts : before ++ after = us ++ (vs ++ ds) := by
        rw [← List.append_assoc, ← hsplit, hds, List.append_assoc]
        rfl
      rw [hts, h.reads _ hu] at hrun
      cases hrun

/-- Where what follows a word goes wrong, the sequence goes wrong. -/
theorem stops_second (h : Recognises p R) {us mid : List Token} {a : α} {found : Option Token}
    (hus : R (us.map Token.kind) a) (hstops : StopsAt (S a) mid found) :
    StopsAt (Then R S) (us ++ mid) found := by
  obtain ⟨before, after, rfl, hfound, ⟨v, b, hv⟩, hbad⟩ := hstops
  refine ⟨us ++ before, after, (List.append_assoc ..).symm, hfound, ?_, ?_⟩
  · refine ⟨v, b, us.map Token.kind, before.map Token.kind ++ v, a, ?_, hus, hv⟩
    rw [List.map_append, List.append_assoc]
  · rintro t ht ⟨x, b, u, w, a', heq, hu, hw⟩
    rw [List.append_assoc, List.map_append, List.append_assoc] at heq
    obtain ⟨rfl, rfl, rfl⟩ := h.eq_of_append_eq hus hu heq
    exact hbad t ht ⟨x, b, hw⟩

/-- **Two phrases in sequence** recognise the words in sequence. -/
theorem bind (h : Recognises p R) (hf : ∀ a, Recognises (f a) (S a)) :
    Recognises (p >>= f) (Then R S) where
  nonempty := by
    obtain ⟨u, a, hu⟩ := h.nonempty
    obtain ⟨v, b, hv⟩ := (hf a).nonempty
    exact ⟨u ++ v, b, u, v, a, rfl, hu, hv⟩
  reads := by
    rintro us b rest ⟨u, v, a, hus, hu, hv⟩
    obtain ⟨xs, ys, rfl, rfl, rfl⟩ := List.map_eq_append_iff.mp hus
    rw [Parser.run_bind, List.append_assoc, h.reads _ hu]
    exact (hf a).reads rest hv
  sound := by
    intro ts b rest hrun
    rw [Parser.run_bind] at hrun
    split at hrun
    · next a mid hp =>
      obtain ⟨xs, rfl, hxs⟩ := h.sound hp
      obtain ⟨ys, rfl, hys⟩ := (hf a).sound hrun
      exact ⟨xs ++ ys, (List.append_assoc ..).symm, _, _, a, List.map_append, hxs, hys⟩
    · cases hrun
  stops := by
    intro ts fault rest hrun
    rw [Parser.run_bind] at hrun
    split at hrun
    · next a mid hp =>
      obtain ⟨xs, rfl, hxs⟩ := h.sound hp
      exact h.stops_second hxs ((hf a).stops hrun)
    · next fault' rest' hp =>
      obtain ⟨rfl, rfl⟩ := Outcome.fail.inj hrun
      exact h.stops_first (fun a => (hf a).nonempty) hp

protected theorem pure (a : α) : Recognises (pure a) fun w b => w = [] ∧ b = a where
  nonempty := ⟨[], a, rfl, rfl⟩
  reads := by
    rintro us b rest ⟨hus, rfl⟩
    rw [List.map_eq_nil_iff.mp hus]
    rfl
  sound := by
    intro ts b rest hrun
    obtain ⟨rfl, rfl⟩ := Outcome.ok.inj hrun
    exact ⟨[], rfl, rfl, rfl⟩
  stops := by
    intro ts fault rest hrun
    cases hrun

/-- A phrase of one token that a function takes, whatever it leaves when it fails. -/
theorem single {g : TokenKind → Option α} {k : TokenKind} {a : α} (hk : g k = some a)
    {complaint : Complaint} (hnil : p.run [] = .fail ⟨complaint, none⟩ [])
    (hsome : ∀ {t ts a}, g t.kind = some a → p.run (t :: ts) = .ok a ts)
    (hnone : ∀ t ts, g t.kind = none →
      ∃ left, p.run (t :: ts) = .fail ⟨complaint, some t⟩ left) :
    Recognises p fun w a => ∃ k, w = [k] ∧ g k = some a where
  nonempty := ⟨[k], a, k, rfl, hk⟩
  reads := by
    rintro us a rest ⟨k, hus, hk⟩
    obtain ⟨t, rfl, rfl⟩ := List.map_eq_singleton_iff.mp hus
    exact hsome hk
  sound := by
    intro ts a rest hrun
    rcases ts with _ | ⟨t, ts⟩
    · rw [hnil] at hrun
      cases hrun
    · cases hg : g t.kind with
      | none =>
        obtain ⟨left, hfail⟩ := hnone t ts hg
        rw [hfail] at hrun
        cases hrun
      | some b =>
        rw [hsome hg] at hrun
        obtain ⟨rfl, rfl⟩ := Outcome.ok.inj hrun
        exact ⟨[t], rfl, t.kind, rfl, hg⟩
  stops := by
    intro ts fault rest hrun
    have hviable : Viable (fun w a => ∃ k, w = [k] ∧ g k = some a) [] := ⟨[k], a, k, rfl, hk⟩
    rcases ts with _ | ⟨t, ts⟩
    · rw [hnil] at hrun
      obtain ⟨rfl, -⟩ := Outcome.fail.inj hrun
      exact ⟨[], [], rfl, rfl, hviable, fun t ht => by cases ht⟩
    · cases hg : g t.kind with
      | none =>
        obtain ⟨left, hfail⟩ := hnone t ts hg
        rw [hfail] at hrun
        obtain ⟨rfl, -⟩ := Outcome.fail.inj hrun
        refine ⟨[], t :: ts, rfl, rfl, hviable, ?_⟩
        rintro u hu ⟨v, b, k', hk', hb⟩
        obtain rfl := Option.some.inj hu
        obtain ⟨rfl, -⟩ := List.cons.inj hk'
        exact absurd (hg.symm.trans hb) (by simp)
      | some b =>
        rw [hsome hg] at hrun
        cases hrun

theorem map {F : α → β} (h : Recognises p R) :
    Recognises (do return F (← p)) fun w b => ∃ a, R w a ∧ b = F a := by
  refine (h.bind fun a => Recognises.pure (F a)).congr ?_
  intro w b
  constructor
  · rintro ⟨u, v, a, rfl, hu, rfl, rfl⟩
    exact ⟨a, by rwa [List.append_nil], rfl⟩
  · rintro ⟨a, hw, rfl⟩
    exact ⟨w, [], a, (List.append_nil w).symm, hw, rfl, rfl⟩

theorem consume {g : TokenKind → Option α} {k : TokenKind} {a : α} (hk : g k = some a)
    (complaint : Complaint) :
    Recognises (consume g complaint) fun w a => ∃ k, w = [k] ∧ g k = some a := by
  refine single hk rfl ?_ ?_
  · intro t ts a ha
    rw [run_consume, ha]
  · intro t ts hnone
    exact ⟨ts, by rw [run_consume, hnone]⟩

theorem expect (k : TokenKind) (complaint : Complaint) :
    Recognises (expect k complaint) fun w _ => w = [k] := by
  let g (k' : TokenKind) : Option Unit := if k' = k then some () else none
  have hsingle : Recognises (Smt.expect k complaint) fun w a => ∃ k', w = [k'] ∧ g k' = some a := by
    refine single (if_pos rfl) rfl ?_ ?_
    · intro t ts _ ht
      rw [run_expect, if_pos (Option.ite_none_right_eq_some.mp ht).1]
    · intro t ts ht
      exact ⟨t :: ts, by rw [run_expect, if_neg (by simpa [g] using ht)]⟩
  refine hsingle.congr ?_
  intro w _
  constructor
  · rintro ⟨k', rfl, hk'⟩
    rw [(Option.ite_none_right_eq_some.mp hk').1]
  · rintro rfl
    exact ⟨k, rfl, if_pos rfl⟩

/-- A token of a kind, then a phrase. -/
theorem expect_then {q : Phrase β} {T : List TokenKind → β → Prop} (k : TokenKind)
    (complaint : Complaint) (hq : Recognises q T) :
    Recognises (do Smt.expect k complaint; q) fun w b => ∃ v, w = k :: v ∧ T v b := by
  refine ((Recognises.expect k complaint).bind fun _ => hq).congr ?_
  intro w b
  constructor
  · rintro ⟨u, v, -, rfl, rfl, hv⟩
    exact ⟨v, rfl, hv⟩
  · rintro ⟨v, rfl, hv⟩
    exact ⟨[k], v, (), rfl, rfl, hv⟩

end Recognises

end Languages

/-! ## Numbers -/

/-- The literal that a token is. -/
def literal? : TokenKind → Option Literal
  | .number l => some l
  | _ => none

theorem literal?_eq_some {k : TokenKind} {l : Literal} : literal? k = some l ↔ k = .number l := by
  cases k <;> simp [literal?]

theorem run_number_of_minus {t : Token} (h : t.kind = .minus) (ts : List Token) :
    number.run (t :: ts) = (do return Literal.negate (← consume literal? .number)).run ts := by
  rw [number, Parser.run_bind]
  simp only [Parser.take?, h, if_true]
  rfl

theorem run_number_of_ne {ts : List Token} (h : ∀ t ∈ ts.head?, t.kind ≠ .minus) :
    number.run ts = (do return id (← consume literal? .number)).run ts := by
  rw [number, Parser.run_bind]
  cases ts with
  | nil => rfl
  | cons t ts =>
    simp only [Parser.take?, h t rfl, if_false]
    rfl

/-- One number token, the value of which goes through a function. -/
theorem recognises_literal (F : Literal → Literal) :
    Recognises (do return F (← consume literal? .number))
      fun w a => ∃ l, w = [.number l] ∧ a = F l := by
  have hsome : literal? (.number default) = some default := rfl
  refine (Recognises.consume hsome .number).map.congr ?_
  intro w a
  constructor
  · rintro ⟨l, ⟨k, rfl, hk⟩, rfl⟩
    exact ⟨l, by rw [literal?_eq_some.mp hk], rfl⟩
  · rintro ⟨l, rfl, rfl⟩
    exact ⟨l, ⟨.number l, rfl, rfl⟩, rfl⟩

theorem numberDerives_minus_iff {w : List TokenKind} {a : Literal} :
    NumberDerives (.minus :: w) a ↔ ∃ l, w = [.number l] ∧ a = l.negate := by
  constructor
  · intro h
    cases h with
    | negated l => exact ⟨l, rfl, rfl⟩
  · rintro ⟨l, rfl, rfl⟩
    exact .negated l

theorem numberDerives_iff_of_ne {w : List TokenKind} {a : Literal} (h : w.head? ≠ some .minus) :
    NumberDerives w a ↔ ∃ l, w = [.number l] ∧ a = id l := by
  constructor
  · rintro (_ | _)
    · exact ⟨a, rfl, rfl⟩
    · exact absurd rfl h
  · rintro ⟨l, rfl, ha⟩
    exact ha ▸ .literal l

/-- **Numbers.** The first token tells which of the two forms is read. -/
theorem recognises_number : Recognises number NumberDerives where
  nonempty := ⟨_, _, .literal default⟩
  reads := by
    intro us a rest h
    rcases us with _ | ⟨t, us⟩
    · cases h
    · by_cases ht : t.kind = .minus
      · rw [List.map_cons, ht, numberDerives_minus_iff] at h
        rw [List.cons_append, run_number_of_minus ht]
        exact (recognises_literal Literal.negate).reads rest h
      · rw [numberDerives_iff_of_ne (by simpa using ht)] at h
        rw [run_number_of_ne (by simpa using ht)]
        exact (recognises_literal id).reads rest h
  sound := by
    intro ts a rest hrun
    by_cases h : ∀ t ∈ ts.head?, t.kind ≠ .minus
    · rw [run_number_of_ne h] at hrun
      obtain ⟨us, rfl, l, hus, ha⟩ := (recognises_literal id).sound hrun
      exact ⟨us, rfl, hus ▸ ha ▸ .literal l⟩
    · simp only [not_forall, not_not] at h
      obtain ⟨t, hhead, ht⟩ := h
      obtain ⟨us, rfl⟩ := List.head?_eq_some_iff.mp hhead
      rw [run_number_of_minus ht] at hrun
      obtain ⟨us, rfl, hus⟩ := (recognises_literal Literal.negate).sound hrun
      refine ⟨t :: us, rfl, ?_⟩
      rw [List.map_cons, ht]
      exact numberDerives_minus_iff.mpr hus
  stops := by
    intro ts fault rest hrun
    by_cases h : ∀ t ∈ ts.head?, t.kind ≠ .minus
    · rw [run_number_of_ne h] at hrun
      obtain ⟨before, after, rfl, hfound, ⟨v, a, l, hl, -⟩, hbad⟩ :=
        (recognises_literal id).stops hrun
      refine ⟨before, after, rfl, hfound, ⟨v, l, hl ▸ .literal l⟩, ?_⟩
      rintro t ht ⟨x, b, hx⟩
      refine hbad t ht ⟨x, b, (numberDerives_iff_of_ne ?_).mp hx⟩
      -- the word begins with the first token
      rcases before with _ | ⟨u, before⟩
      · rw [hfound] at ht
        simpa using h t ht
      · simpa using h u rfl
    · simp only [not_forall, not_not] at h
      obtain ⟨t, hhead, ht⟩ := h
      obtain ⟨us, rfl⟩ := List.head?_eq_some_iff.mp hhead
      rw [run_number_of_minus ht] at hrun
      refine ((recognises_literal Literal.negate).stops hrun).behind ?_
      intro w
      rw [ht]
      exact exists_congr fun a => numberDerives_minus_iff

/-! ## Commands -/

/-- The name that a token is. -/
def name? : TokenKind → Option String
  | .identifier name => some name
  | _ => none

theorem name?_eq_some {k : TokenKind} {x : String} : name? k = some x ↔ k = .identifier x := by
  cases k <;> simp [name?]

/-- The bounds of a variable in their brackets. -/
theorem recognises_bounds (F : Literal → Literal → Command) :
    Recognises (do
      expect .openBracket .openBracket
      let lower ← number
      expect .comma .comma
      let upper ← number
      expect .closeBracket .closeBracket
      return F lower upper) fun w c => ∃ u v lower upper, NumberDerives u lower ∧
        NumberDerives v upper ∧ w = .openBracket :: (u ++ .comma :: (v ++ [.closeBracket])) ∧
        c = F lower upper := by
  refine (Recognises.expect_then _ _ (recognises_number.bind fun lower =>
    .expect_then _ _ (recognises_number.bind fun upper =>
      .expect_then _ _ (.pure (F lower upper))))).congr ?_
  intro w c
  constructor
  · rintro ⟨-, rfl, u, -, lower, rfl, hu, -, rfl, v, -, upper, rfl, hv, -, rfl, rfl, rfl⟩
    exact ⟨u, v, lower, upper, hu, hv, rfl, rfl⟩
  · rintro ⟨u, v, lower, upper, hu, hv, rfl, rfl⟩
    exact ⟨_, rfl, u, _, lower, rfl, hu, _, rfl, v, _, upper, rfl, hv, _, rfl, rfl, rfl⟩

/-- What follows the head of a command. -/
def BodyDerives : Head → List TokenKind → Command → Prop
  | .var, w, c => ∃ name u v lower upper, NumberDerives u lower ∧ NumberDerives v upper ∧
      w = .identifier name :: .openBracket :: (u ++ .comma :: (v ++ [.closeBracket])) ∧
      c = .var name lower upper
  | .apply op, w, c => ∃ u v lhs rhs, NumberDerives u lhs ∧ NumberDerives v rhs ∧ w = u ++ v ∧
      c = .apply op lhs rhs
  | .checkSat, w, c => w = [] ∧ c = .checkSat

/-- The phrase that follows the head of a command. -/
def body : Head → Phrase Command
  | .var => do
    let name ← consume name? .variableName
    expect .openBracket .openBracket
    let lower ← number
    expect .comma .comma
    let upper ← number
    expect .closeBracket .closeBracket
    return .var name lower upper
  | .apply op => do
    let lhs ← number
    let rhs ← number
    return .apply op lhs rhs
  | .checkSat => return .checkSat

theorem command_eq : command = (consume head? .command >>= body) := by
  refine congrArg (consume head? .command >>= ·) (funext fun h => ?_)
  cases h <;> rfl

theorem recognises_body (h : Head) : Recognises (body h) (BodyDerives h) := by
  cases h with
  | var =>
    have hname : name? (.identifier "") = some "" := rfl
    refine ((Recognises.consume hname .variableName).bind fun name =>
      recognises_bounds (.var name)).congr ?_
    intro w c
    constructor
    · rintro ⟨-, -, name, rfl, ⟨k, rfl, hk⟩, u, v, lower, upper, hu, hv, rfl, rfl⟩
      rw [name?_eq_some.mp hk]
      exact ⟨name, u, v, lower, upper, hu, hv, rfl, rfl⟩
    · rintro ⟨name, u, v, lower, upper, hu, hv, rfl, rfl⟩
      exact ⟨[.identifier name], _, name, rfl, ⟨_, rfl, rfl⟩, u, v, lower, upper, hu, hv, rfl, rfl⟩
  | apply op =>
    refine (recognises_number.bind fun lhs =>
      recognises_number.map (F := fun rhs => Command.apply op lhs rhs)).congr ?_
    intro w c
    constructor
    · rintro ⟨u, v, lhs, rfl, hu, rhs, hv, rfl⟩
      exact ⟨u, v, lhs, rhs, hu, hv, rfl, rfl⟩
    · rintro ⟨u, v, lhs, rhs, hu, hv, rfl, rfl⟩
      exact ⟨u, v, lhs, rfl, hu, rhs, hv, rfl⟩
  | checkSat => exact .pure Command.checkSat

theorem head?_eq_apply {k : TokenKind} {op : BinaryOp} :
    head? k = some (.apply op) ↔ OperatorToken k op := by
  constructor
  · intro h
    cases k with
    | operator op' =>
      obtain rfl := Head.apply.inj (Option.some.inj h)
      exact .operator op'
    | minus =>
      obtain rfl := Head.apply.inj (Option.some.inj h)
      exact .minus
    | _ => cases h
  · rintro (_ | _) <;> rfl

/-- The head of a command tells what follows. -/
theorem commandDerives_iff {k : TokenKind} {h : Head} (hk : head? k = some h) {w : List TokenKind}
    {c : Command} : CommandDerives (k :: w) c ↔ BodyDerives h w c := by
  constructor
  · intro hc
    cases hc with
    | var name hlower hupper =>
      obtain rfl := Option.some.inj hk
      exact ⟨name, _, _, _, _, hlower, hupper, rfl, rfl⟩
    | apply hop hlhs hrhs =>
      obtain rfl := Option.some.inj ((head?_eq_apply.mpr hop).symm.trans hk)
      exact ⟨_, _, _, _, hlhs, hrhs, rfl, rfl⟩
    | checkSat =>
      obtain rfl := Option.some.inj hk
      exact ⟨rfl, rfl⟩
  · intro hbody
    cases h with
    | var =>
      obtain ⟨name, u, v, lower, upper, hu, hv, rfl, rfl⟩ := hbody
      obtain rfl : k = .var := by cases k <;> cases hk; rfl
      exact .var name hu hv
    | apply op =>
      obtain ⟨u, v, lhs, rhs, hu, hv, rfl, rfl⟩ := hbody
      exact .apply (head?_eq_apply.mp hk) hu hv
    | checkSat =>
      obtain ⟨rfl, rfl⟩ := hbody
      obtain rfl : k = .checkSat := by cases k <;> cases hk; rfl
      exact .checkSat

theorem CommandDerives.exists_head {w : List TokenKind} {c : Command} (hc : CommandDerives w c) :
    ∃ k v h, w = k :: v ∧ head? k = some h := by
  cases hc with
  | var name _ _ => exact ⟨_, _, _, rfl, rfl⟩
  | apply hop _ _ => exact ⟨_, _, _, rfl, head?_eq_apply.mpr hop⟩
  | checkSat => exact ⟨_, _, _, rfl, rfl⟩

/-- **Commands.** -/
theorem recognises_command : Recognises command CommandDerives := by
  have hhead : head? .checkSat = some .checkSat := rfl
  rw [command_eq]
  refine ((Recognises.consume hhead .command).bind recognises_body).congr ?_
  intro w c
  constructor
  · rintro ⟨-, v, h, rfl, ⟨k, rfl, hk⟩, hbody⟩
    exact (commandDerives_iff hk).mpr hbody
  · intro hc
    obtain ⟨k, v, h, rfl, hk⟩ := hc.exists_head
    exact ⟨[k], v, h, rfl, ⟨k, rfl, hk⟩, (commandDerives_iff hk).mp hc⟩

/-- A command with the parenthesis that closes it. -/
def ClosedDerives (w : List TokenKind) (c : Command) : Prop :=
  ∃ v, w = v ++ [.closeParen] ∧ CommandDerives v c

theorem recognises_closedCommand : Recognises closedCommand ClosedDerives := by
  refine (recognises_command.bind fun c =>
    .expect_then .closeParen .closeParen (.pure c)).congr ?_
  intro w c
  constructor
  · rintro ⟨v, -, c, rfl, hv, -, rfl, rfl, rfl⟩
    exact ⟨v, rfl, hv⟩
  · rintro ⟨v, rfl, hv⟩
    exact ⟨v, _, c, rfl, hv, [], rfl, rfl, rfl⟩

/-! ## Scripts -/

/-- A script behind a command. -/
def OnwardDerives (c : Command) (w : List TokenKind) (cs : List Command) : Prop :=
  ∃ ds, cs = c :: ds ∧ ScriptDerives w ds

theorem scriptDerives_iff {w : List TokenKind} {cs : List Command} :
    ScriptDerives (.openParen :: w) cs ↔ Then ClosedDerives OnwardDerives w cs := by
  constructor
  · intro h
    cases h with
    | cons hc hcs => exact ⟨_, _, _, by simp, ⟨_, rfl, hc⟩, _, rfl, hcs⟩
  · rintro ⟨-, w, c, rfl, ⟨v, rfl, hc⟩, ds, rfl, hds⟩
    rw [List.append_assoc]
    exact .cons hc hds

/-- A script begins with a command, and the parser reads it. -/
theorem exists_closed_of_derives {t : Token} {ts : List Token} {cs : List Command}
    (hopen : t.kind = .openParen) (h : ScriptDerives ((t :: ts).map Token.kind) cs) :
    ∃ c ds rest, cs = c :: ds ∧ closedCommand.run ts = .ok c rest ∧
      ScriptDerives (rest.map Token.kind) ds := by
  rw [List.map_cons, hopen, scriptDerives_iff] at h
  obtain ⟨u, w, c, hts, hu, ds, rfl, hds⟩ := h
  obtain ⟨us, rest, rfl, rfl, rfl⟩ := List.map_eq_append_iff.mp hts
  exact ⟨c, ds, rest, rfl, recognises_closedCommand.reads rest hu, hds⟩

/-- **Scripts are read to their end.** -/
theorem commandsFrom_of_derives {ts : List Token} {cs : List Command}
    (h : ScriptDerives (ts.map Token.kind) cs) : commandsFrom ts = .ok cs [] := by
  fun_induction commandsFrom ts generalizing cs with
  | case1 =>
    cases h
    rfl
  | case2 t ts hopen c rest hrun es rest' hrest ih =>
    obtain ⟨c', ds, rest'', rfl, hrun', hds⟩ := exists_closed_of_derives hopen h
    obtain ⟨rfl, rfl⟩ := Outcome.ok.inj (hrun.symm.trans hrun')
    obtain ⟨rfl, rfl⟩ := Outcome.ok.inj (hrest.symm.trans (ih hds))
    rfl
  | case3 t ts hopen c rest hrun fault rest' hrest ih =>
    obtain ⟨c', ds, rest'', rfl, hrun', hds⟩ := exists_closed_of_derives hopen h
    obtain ⟨rfl, rfl⟩ := Outcome.ok.inj (hrun.symm.trans hrun')
    cases hrest.symm.trans (ih hds)
  | case4 t ts hopen fault rest hrun =>
    obtain ⟨c', ds, rest'', rfl, hrun', -⟩ := exists_closed_of_derives hopen h
    cases hrun.symm.trans hrun'
  | case5 t ts hopen =>
    generalize hkinds : (t :: ts).map Token.kind = w at h
    cases h with
    | nil => cases hkinds
    | cons => exact absurd (List.cons.inj hkinds).1 hopen

/-- **What is read is a script,** and nothing is left of it. -/
theorem derives_of_commandsFrom {ts rest : List Token} {cs : List Command}
    (h : commandsFrom ts = .ok cs rest) : rest = [] ∧ ScriptDerives (ts.map Token.kind) cs := by
  fun_induction commandsFrom ts generalizing cs rest with
  | case1 =>
    obtain ⟨rfl, rfl⟩ := Outcome.ok.inj h
    exact ⟨rfl, .nil⟩
  | case2 t ts hopen c mid hrun ds rest' hrest ih =>
    obtain ⟨rfl, rfl⟩ := Outcome.ok.inj h
    obtain ⟨rfl, hds⟩ := ih hrest
    obtain ⟨us, rfl, hus⟩ := recognises_closedCommand.sound hrun
    refine ⟨rfl, ?_⟩
    rw [List.map_cons, hopen, scriptDerives_iff]
    exact ⟨_, _, c, List.map_append, hus, ds, rfl, hds⟩
  | case3 => cases h
  | case4 => cases h
  | case5 => cases h

theorem viable_nil : Viable ScriptDerives [] := ⟨[], [], .nil⟩

/-- **Where the parser stops, the tokens go wrong.** -/
theorem stopsAt_of_commandsFrom {ts rest : List Token} {fault : Fault}
    (h : commandsFrom ts = .fail fault rest) : StopsAt ScriptDerives ts fault.found := by
  fun_induction commandsFrom ts generalizing fault rest with
  | case1 => cases h
  | case2 => cases h
  | case3 t ts hopen c mid hrun fault' rest' hrest ih =>
    obtain ⟨rfl, -⟩ := Outcome.fail.inj h
    obtain ⟨us, rfl, hus⟩ := recognises_closedCommand.sound hrun
    -- the commands behind the first one go wrong at the same place
    have honward : StopsAt (OnwardDerives c) mid fault'.found := by
      obtain ⟨before, after, rfl, hfound, ⟨v, ds, hv⟩, hbad⟩ := ih hrest
      refine ⟨before, after, rfl, hfound, ⟨v, c :: ds, ds, rfl, hv⟩, ?_⟩
      rintro u hu ⟨x, -, ds', -, hx⟩
      exact hbad u hu ⟨x, ds', hx⟩
    refine (recognises_closedCommand.stops_second hus honward).behind ?_
    intro w
    rw [hopen]
    exact exists_congr fun cs => scriptDerives_iff
  | case4 t ts hopen fault' rest' hrun =>
    obtain ⟨rfl, -⟩ := Outcome.fail.inj h
    have honward : ∀ c, ∃ w cs, OnwardDerives c w cs := fun c => ⟨[], [c], [], rfl, .nil⟩
    refine (recognises_closedCommand.stops_first honward hrun).behind ?_
    intro w
    rw [hopen]
    exact exists_congr fun cs => scriptDerives_iff
  | case5 t ts hopen =>
    obtain ⟨rfl, -⟩ := Outcome.fail.inj h
    refine ⟨[], t :: ts, rfl, rfl, viable_nil, ?_⟩
    rintro u hu ⟨x, cs, hx⟩
    obtain rfl := Option.some.inj hu
    generalize hkinds : ([] ++ [t]).map Token.kind ++ x = w at hx
    cases hx with
    | nil => cases hkinds
    | cons => exact hopen (List.cons.inj hkinds).1

/-! ## The whole text -/

namespace Scan

/-- What is said of the token at which the tokens of a text go wrong, or of their end. -/
inductive Reports (s : Scan) : Option Token → Error → Prop where
  | overflow {t : Token} (h : t.kind = .overflow) :
    Reports s (some t) (.overflow t.lexeme t.line t.column)
  | unexpected {t : Token} (complaint : Complaint) (h : t.kind ≠ .overflow) :
    Reports s (some t) (.unexpected complaint t.lexeme t.line t.column)
  | stop (complaint : Complaint) :
    Reports s none (.unexpected complaint "" s.stopLine s.stopColumn)

/-- Reading the commands of a text follows the grammar. -/
structure Recognised (s : Scan) : Prop where
  /-- Subtraction has no sign of its own, it is written with the minus sign. -/
  operator : ∀ t ∈ s.tokens, t.kind ≠ .operator .sub
  read_iff : ∀ cs, (s.read s.tokens).1 = .ok cs ↔ ScriptDerives (s.tokens.map Token.kind) cs
  unique : ∀ cs ds, ScriptDerives (s.tokens.map Token.kind) cs →
    ScriptDerives (s.tokens.map Token.kind) ds → cs = ds
  /-- When all commands have been read there are no more. -/
  again : ∀ cs, (s.read s.tokens).1 = .ok cs → s.read (s.read s.tokens).2 = (.ok [], [])
  fails : (∀ cs, ¬ScriptDerives (s.tokens.map Token.kind) cs) →
    ∃ e found, (s.read s.tokens).1 = .error e ∧ StopsAt ScriptDerives s.tokens found ∧
      s.Reports found e
  overflow_iff : ∀ e, (s.read s.tokens).1 = .error e →
    (e.kind = .overflow ↔ ∃ t, StopsAt ScriptDerives s.tokens (some t) ∧ t.kind = .overflow)

theorem reports_error (s : Scan) (fault : Fault) :
    s.Reports fault.found (fault.error s.stopLine s.stopColumn) := by
  rcases fault with ⟨complaint, _ | t⟩
  · exact .stop complaint
  · show s.Reports (some t) (if t.kind = .overflow then _ else _)
    by_cases h : t.kind = .overflow
    · rw [if_pos h]
      exact .overflow h
    · rw [if_neg h]
      exact .unexpected complaint h

theorem Reports.kind_iff {s : Scan} {found : Option Token} {e : Error} (h : s.Reports found e) :
    e.kind = .overflow ↔ ∃ t, found = some t ∧ t.kind = .overflow := by
  cases h with
  | overflow h => exact ⟨fun _ => ⟨_, rfl, h⟩, fun _ => rfl⟩
  | unexpected complaint h =>
    constructor
    · intro hkind
      cases hkind
    · rintro ⟨t, ht, hkind⟩
      exact absurd (Option.some.inj ht ▸ hkind) h
  | stop complaint =>
    constructor
    · intro hkind
      cases hkind
    · rintro ⟨t, ht, -⟩
      cases ht

variable {s : Scan} {ts : List Token}

theorem fst_read_eq_ok_iff {cs : List Command} :
    (s.read ts).1 = .ok cs ↔ ScriptDerives (ts.map Token.kind) cs := by
  rw [read]
  constructor
  · intro h
    split at h
    · next ds rest hrun =>
      obtain rfl := Except.ok.inj h
      exact (derives_of_commandsFrom hrun).2
    · cases h
  · intro h
    rw [commandsFrom_of_derives h]

/-- An error is about the place where the tokens go wrong. -/
theorem exists_of_fst_read_eq_error {e : Error} (h : (s.read ts).1 = .error e) :
    ∃ found, StopsAt ScriptDerives ts found ∧ s.Reports found e := by
  rw [read] at h
  split at h
  · cases h
  · next fault rest hrun =>
    obtain rfl := Except.error.inj h
    exact ⟨fault.found, stopsAt_of_commandsFrom hrun, s.reports_error fault⟩

theorem snd_read_of_ok {cs : List Command} (h : (s.read ts).1 = .ok cs) : (s.read ts).2 = [] := by
  rw [read, commandsFrom_of_derives (fst_read_eq_ok_iff.mp h)]

/-- The signs of the operators are `+`, `*`, `/` and `^`. -/
theorem kind_ne_of_scanToken {c : Char} {cs rest : List Char} {kind : TokenKind}
    (h : scanToken? c cs = some (kind, rest)) : kind ≠ .operator .sub := by
  have hnumber : ∀ x, numberKind x ≠ .operator .sub := by
    rintro (_ | _) hx <;> cases hx
  unfold scanToken? at h
  split at h
  · have hkind : (scanNumber c cs).1 ≠ .operator .sub := by
      unfold scanNumber
      split <;> exact hnumber _
    rwa [Option.some.inj h] at hkind
  · split at h
    · have hkind : (scanWord c cs).1 ≠ .operator .sub := by
        simp only [scanWord, wordKind]
        split <;> exact fun hk => by cases hk
      rwa [Option.some.inj h] at hkind
    · obtain ⟨k, hk, heq⟩ := Option.map_eq_some_iff.mp h
      obtain ⟨rfl, -⟩ := Prod.mk.inj heq
      rintro rfl
      unfold sign? at hk
      split at hk <;> cases hk

/-- **The commands of a text** are read exactly when its tokens derive them, and then only these.
Otherwise there is an error about the first token behind which no script can go on, or about the
end; a number that is too large is named as such exactly when it is that token. -/
theorem recognised_ofText (text : String) : (ofText text).Recognised := by
  refine ⟨?_, fun cs => fst_read_eq_ok_iff, ?_, ?_, ?_, ?_⟩
  · intro t ht
    obtain ⟨c, cs, rest, htoken⟩ := exists_scanToken_of_mem_tokens ht
    exact kind_ne_of_scanToken htoken
  · intro cs ds hcs hds
    have hread : ((ofText text).read (ofText text).tokens).1 = .ok cs := fst_read_eq_ok_iff.mpr hcs
    exact Except.ok.inj (hread.symm.trans (fst_read_eq_ok_iff.mpr hds))
  · intro cs hcs
    rw [snd_read_of_ok hcs, read, commandsFrom]
  · intro hnone
    cases hread : ((ofText text).read (ofText text).tokens).1 with
    | ok cs => exact absurd (fst_read_eq_ok_iff.mp hread) (hnone cs)
    | error e =>
      obtain ⟨found, hstops, hreports⟩ := exists_of_fst_read_eq_error hread
      exact ⟨e, found, rfl, hstops, hreports⟩
  · intro e he
    obtain ⟨found, hstops, hreports⟩ := exists_of_fst_read_eq_error he
    rw [hreports.kind_iff]
    constructor
    · rintro ⟨t, rfl, ht⟩
      exact ⟨t, hstops, ht⟩
    · rintro ⟨t, hstops', ht⟩
      exact ⟨t, hstops.unique hstops', ht⟩

-- The first minus sign is the operator, the second one a sign.
example : ((ofText "(- -1 2)").read (ofText "(- -1 2)").tokens).1.toOption =
    some [.apply .sub (.integer (-1)) (.integer 2)] := by decide +kernel

end Scan

end PaveScript.Smt
