import PaveScript.Grammar.Basic

/-!
# Phrases on known words

How the basic phrases run, and what a phrase makes of a word that is known by the kinds of its
tokens. Positions and lexemes never decide whether a phrase is read, so a word is a list of kinds.

* `Decides p w a fits next` says everything about `p` on the word `w` in front of a token of kind
  `next`: `p` reads `a` and consumes exactly `w` when `fits` holds, and fails when it does not.
* `Yields p R` says what is known after `p` has succeeded on any tokens: `R` relates the word that
  it consumed, the value and the kind of the token behind the word.

Both pass from the parts of a sequence to the sequence, so the grammar is gone through production
by production.
-/

namespace PaveScript

/-- The kind of the first token. -/
def headKind (ts : List Token) : Option TokenKind := ts.head?.map Token.kind

@[simp]
theorem headKind_nil : headKind [] = none := rfl

@[simp]
theorem headKind_cons (t : Token) (ts : List Token) : headKind (t :: ts) = some t.kind := rfl

/-- The first kind of a word in front of other tokens. -/
theorem headKind_append (ts rest : List Token) :
    headKind (ts ++ rest) = (ts.map Token.kind).head?.or (headKind rest) := by
  cases ts <;> rfl

theorem exists_cons_of_headKind {ts : List Token} {k : TokenKind} (h : headKind ts = some k) :
    ∃ t us, ts = t :: us ∧ t.kind = k := by
  cases ts with
  | nil => cases h
  | cons t us => exact ⟨t, us, rfl, Option.some.inj h⟩

namespace Phrase

variable {α β : Type}

/-! ## Runs -/

theorem run_bind_ok {p : Phrase α} {f : α → Phrase β} {ts rest : List Token} {a : α}
    (h : p.run ts = .ok a rest) : (p >>= f).run ts = (f a).run rest := by
  rw [Parser.run_bind, h]

theorem run_bind_fail {p : Phrase α} {f : α → Phrase β} {ts rest : List Token} {fault : Fault}
    (h : p.run ts = .fail fault rest) : (p >>= f).run ts = .fail fault rest := by
  rw [Parser.run_bind, h]

@[simp]
theorem run_peekKind (ts : List Token) : peekKind.run ts = .ok (headKind ts) ts := rfl

@[simp]
theorem run_complain (c : Complaint) (ts : List Token) :
    (complain c : Phrase α).run ts = .fail (.unexpected c ts.head?) ts := rfl

@[simp]
theorem run_complainAbout (c : Complaint) (t : Token) (ts : List Token) :
    (complainAbout c t : Phrase α).run ts = .fail (.unexpected c (some t)) ts := rfl

theorem run_take? (f : Token → Option α) (ts : List Token) :
    (Parser.take? f : Phrase (Option α)).run ts =
      match ts.head?.bind f with
      | some a => .ok (some a) ts.tail
      | none => .ok none ts := by
  cases ts with
  | nil => rfl
  | cons t ts => cases h : f t <;> simp [Parser.take?, h]

theorem run_take (f : Token → Option α) (fault : Option Token → Fault) (ts : List Token) :
    (Parser.take f fault : Phrase α).run ts =
      match ts.head?.bind f with
      | some a => .ok a ts.tail
      | none => .fail (fault ts.head?) ts := by
  rw [Parser.take, Parser.run_bind, run_take?]
  cases h : ts.head?.bind f <;> rfl

theorem run_accept (k : TokenKind) (ts : List Token) :
    (accept k).run ts = if headKind ts = some k then .ok true ts.tail else .ok false ts := by
  rw [accept, Parser.run_bind, run_take?]
  cases ts with
  | nil => rfl
  | cons t ts => by_cases h : t.kind = k <;> simp [h]

/-- A token that may be there and does not matter. -/
theorem accept_bind (k : TokenKind) (p : Phrase α) :
    (do let _ ← accept k; p) = (do if ← accept k then p else p) := by
  refine congrArg (accept k >>= ·) (funext fun found => ?_)
  rw [ite_self]

theorem run_expect (k : TokenKind) (c : Complaint) (ts : List Token) :
    (expect k c).run ts =
      match ts with
      | [] => .fail (.unexpected c none) []
      | t :: rest =>
        if t.kind = k then .ok t rest else .fail (.unexpected c (some t)) (t :: rest) := by
  rw [expect, run_take]
  cases ts with
  | nil => rfl
  | cons t ts => by_cases h : t.kind = k <;> simp [h]

theorem run_expect_of_kind {k : TokenKind} {c : Complaint} {t : Token} {ts : List Token}
    (h : t.kind = k) : (expect k c).run (t :: ts) = .ok t ts := by
  rw [run_expect]
  exact if_pos h

theorem run_takeKind (f : TokenKind → Option α) (c : Complaint) (ts : List Token) :
    (takeKind f c).run ts =
      match (headKind ts).bind f with
      | some a => .ok a ts.tail
      | none => .fail (.unexpected c ts.head?) ts := by
  rw [takeKind, run_take]
  cases ts <;> rfl

theorem run_takeKind? (f : TokenKind → Option α) (ts : List Token) :
    (takeKind? f).run ts =
      match (headKind ts).bind f with
      | some a => .ok (some a) ts.tail
      | none => .ok none ts := by
  rw [takeKind?, run_take?]
  cases ts <;> rfl

/-! ## Words -/

/-- On the word `w` in front of `next`, `p` reads `a` if `fits` holds and fails if it does not. -/
def Decides (p : Phrase α) (w : List TokenKind) (a : α) (fits : Prop)
    (next : Option TokenKind) : Prop :=
  ∀ ts rest : List Token, ts.map Token.kind = w → headKind rest = next →
    (fits → p.run (ts ++ rest) = .ok a rest) ∧
    (¬fits → ∃ fault left, p.run (ts ++ rest) = .fail fault left)

namespace Decides

variable {p : Phrase α} {w v : List TokenKind} {a : α} {b : β} {φ ψ : Prop}
  {k : TokenKind} {c : Complaint} {next : Option TokenKind}

theorem congr (h : Decides p w a φ next) (hf : φ ↔ ψ) : Decides p w a ψ next := by
  intro ts rest hts hr
  rw [← hf]
  exact h ts rest hts hr

protected theorem pure (a : α) : Decides (pure a) [] a True next := by
  intro ts rest hts _
  rw [List.map_eq_nil_iff.mp hts]
  exact ⟨fun _ => rfl, fun h => absurd trivial h⟩

/-- A phrase that always fails. -/
theorem fail (h : ∀ ts, ∃ fault left, p.run ts = .fail fault left) : Decides p w a False next :=
  fun ts rest _ _ => ⟨False.elim, fun _ => h (ts ++ rest)⟩

/-- Two phrases in sequence decide two words in sequence. -/
theorem bind {f : α → Phrase β} (hp : Decides p w a φ (v.head?.or next))
    (hf : Decides (f a) v b ψ next) : Decides (p >>= f) (w ++ v) b (φ ∧ ψ) next := by
  intro ts rest hts hr
  obtain ⟨us, vs, rfl, hu, hv⟩ := List.map_eq_append_iff.mp hts
  obtain ⟨hok, hfail⟩ := hp us (vs ++ rest) hu (by rw [headKind_append, hv, hr])
  rw [List.append_assoc]
  -- where the first phrase fails, the second one does not run
  by_cases h : φ
  · rw [run_bind_ok (hok h)]
    obtain ⟨hok', hfail'⟩ := hf vs rest hv hr
    exact ⟨fun hb => hok' hb.2, fun hb => hfail' fun h' => hb ⟨h, h'⟩⟩
  · obtain ⟨fault, left, hrun⟩ := hfail h
    exact ⟨fun hb => absurd hb.1 h, fun _ => ⟨fault, left, run_bind_fail hrun⟩⟩

/-- The second phrase consumes nothing. -/
theorem bind_nil {f : α → Phrase β} (hp : Decides p w a φ next)
    (hf : Decides (f a) [] b ψ next) : Decides (p >>= f) w b (φ ∧ ψ) next := by
  have h := bind (v := []) hp hf
  rwa [List.append_nil] at h

/-- The value of a phrase goes through a function. -/
theorem map {F : α → β} (hp : Decides p w a φ next) :
    Decides (do return F (← p)) w (F a) φ next :=
  (hp.bind_nil (Decides.pure (F a))).congr (and_iff_left trivial)

/-- A token of the kind that is asked for. -/
theorem accept_then {q r : Phrase α} (hq : Decides q w a φ next) :
    Decides (do if ← accept k then q else r) (k :: w) a φ next := by
  intro ts rest hts hr
  obtain ⟨t, ts, rfl, ht, hw⟩ := List.map_eq_cons_iff.mp hts
  have hrun : (accept k).run (t :: ts ++ rest) = .ok true (ts ++ rest) := by
    simp [run_accept, ht]
  rw [run_bind_ok hrun, if_pos rfl]
  exact hq ts rest hw hr

/-- A token of another kind than the one that is asked for. -/
theorem accept_else {q r : Phrase α} (hk : w.head?.or next ≠ some k)
    (hr : Decides r w a φ next) : Decides (do if ← accept k then q else r) w a φ next := by
  intro ts rest hts hrest
  have hrun : (accept k).run (ts ++ rest) = .ok false (ts ++ rest) := by
    rw [run_accept, headKind_append, hts, hrest, if_neg hk]
  rw [run_bind_ok hrun, if_neg (by simp)]
  exact hr ts rest hts hrest

/-- A token that has to be there, and is. -/
theorem expect_then (hp : Decides p w a φ next) :
    Decides (do let _ ← expect k c; p) (k :: w) a φ next := by
  intro ts rest hts hr
  obtain ⟨t, ts, rfl, ht, hw⟩ := List.map_eq_cons_iff.mp hts
  have hrun : (expect k c).run (t :: ts ++ rest) = .ok t (ts ++ rest) := by
    simp [run_expect, ht]
  rw [run_bind_ok hrun]
  exact hp ts rest hw hr

/-- A token that a function takes. -/
theorem takeKind {f : TokenKind → Option α} (h : f k = some a) :
    Decides (takeKind f c) [k] a True next := by
  intro ts rest hts _
  obtain ⟨t, rfl, ht⟩ := List.map_eq_singleton_iff.mp hts
  refine ⟨fun _ => ?_, fun h => absurd trivial h⟩
  simp [run_takeKind, ht, h]

theorem takeKind_then {f : TokenKind → Option α} {g : α → Phrase β} (h : f k = some a)
    (hg : Decides (g a) w b φ next) : Decides (Phrase.takeKind f c >>= g) (k :: w) b φ next :=
  ((Decides.takeKind h).bind hg).congr (and_iff_right trivial)

/-- A token that a function takes, if it does. -/
theorem takeKind?_some {f : TokenKind → Option β} {g : Option β → Phrase α} (h : f k = some b)
    (hg : Decides (g (some b)) w a φ next) :
    Decides (takeKind? f >>= g) (k :: w) a φ next := by
  intro ts rest hts hr
  obtain ⟨t, ts, rfl, ht, hw⟩ := List.map_eq_cons_iff.mp hts
  have hrun : (takeKind? f).run (t :: ts ++ rest) = .ok (some b) (ts ++ rest) := by
    simp [run_takeKind?, ht, h]
  rw [run_bind_ok hrun]
  exact hg ts rest hw hr

theorem takeKind?_none {f : TokenKind → Option β} {g : Option β → Phrase α}
    (h : (w.head?.or next).bind f = none) (hg : Decides (g none) w a φ next) :
    Decides (takeKind? f >>= g) w a φ next := by
  intro ts rest hts hr
  have hrun : (takeKind? f).run (ts ++ rest) = .ok none (ts ++ rest) := by
    simp only [run_takeKind?, headKind_append, hts, hr, h]
  rw [run_bind_ok hrun]
  exact hg ts rest hts hr

theorem peekKind {g : Option TokenKind → Phrase α}
    (hg : Decides (g (w.head?.or next)) w a φ next) :
    Decides (peekKind >>= g) w a φ next := by
  intro ts rest hts hr
  rw [run_bind_ok (run_peekKind _), headKind_append, hts, hr]
  exact hg ts rest hts hr

end Decides

/-! ## Chains

A chain groups to the left, so the word of a longer chain starts with the word of a shorter one
and the phrase cannot stop in between. `Chained` therefore says how far the phrase has come after
`w`, not what it returns.
-/

/-- After the word `w` in front of `next`, the chain goes on with `a` if `fits` holds. -/
def Chained (op? : TokenKind → Option (α → α → α)) (p : Phrase α) (w : List TokenKind) (a : α)
    (fits : Prop) (next : Option TokenKind) : Prop :=
  ∀ ts rest : List Token, ts.map Token.kind = w → headKind rest = next →
    (fits → (chain op? p).run (ts ++ rest) =
      Parser.chainFrom p (fun t => op? t.kind) a rest) ∧
    (¬fits → ∃ fault left, (chain op? p).run (ts ++ rest) = .fail fault left)

theorem run_chain (op? : TokenKind → Option (α → α → α)) (p : Phrase α) (ts : List Token) :
    (chain op? p).run ts =
      match p.run ts with
      | .ok a rest => Parser.chainFrom p (fun t => op? t.kind) a rest
      | .fail fault rest => .fail fault rest := by
  simp only [chain, Parser.chain, Parser.bind]
  cases p.run ts <;> rfl

/-- A chain stops in front of a token that is none of its operators. -/
theorem chainFrom_stop {op? : TokenKind → Option (α → α → α)} {p : Phrase α} {a : α}
    {ts : List Token} (h : (headKind ts).bind op? = none) :
    Parser.chainFrom p (fun t => op? t.kind) a ts = .ok a ts := by
  cases ts with
  | nil => rw [Parser.chainFrom]
  | cons t ts =>
    rw [Parser.chainFrom]
    simp only [headKind_cons, Option.bind_some] at h
    simp only [h]

/-- A chain goes on with one more operand behind an operator. -/
theorem chainFrom_cons {op? : TokenKind → Option (α → α → α)} {p : Phrase α} {a : α} {t : Token}
    {ts : List Token} {f : α → α → α} (h : op? t.kind = some f) :
    Parser.chainFrom p (fun t => op? t.kind) a (t :: ts) =
      match p.run ts with
      | .ok b rest => Parser.chainFrom p (fun t => op? t.kind) (f a b) rest
      | .fail fault rest => .fail fault rest := by
  rw [Parser.chainFrom]
  simp only [h]
  split <;> next hrun => rw [hrun]

/-! Lists of items run in the same way. -/

theorem itemsFrom_stop {k : TokenKind} {p : Phrase α} {done : List α} {ts : List Token}
    (h : headKind ts ≠ some k) :
    Parser.itemsFrom (fun t => t.kind = k) p done ts = .ok done.reverse ts := by
  cases ts with
  | nil => rw [Parser.itemsFrom]
  | cons t ts =>
    have hk : t.kind ≠ k := fun hk => h (by rw [headKind_cons, hk])
    rw [Parser.itemsFrom, if_neg (by simpa using hk)]

theorem itemsFrom_cons {k : TokenKind} {p : Phrase α} {done : List α} {t : Token}
    {ts : List Token} (h : t.kind = k) :
    Parser.itemsFrom (fun t => t.kind = k) p done (t :: ts) =
      match p.run ts with
      | .ok a rest => Parser.itemsFrom (fun t => t.kind = k) p (a :: done) rest
      | .fail fault rest => .fail fault rest := by
  rw [Parser.itemsFrom, if_pos (by simpa using h)]
  split <;> next hrun => rw [hrun]

/-- The items behind those that are `done`, which are given in reverse. -/
def itemsBehind (k : TokenKind) (p : Phrase α) (done : List α) : Phrase (List α) :=
  p.bind fun a => ⟨Parser.itemsFrom (fun t => t.kind = k) p (a :: done),
    Parser.itemsFrom_isSuffix (fun t => t.kind = k) p (a :: done)⟩

theorem items_eq (k : TokenKind) (p : Phrase α) : items k p = itemsBehind k p [] := rfl

theorem run_itemsBehind (k : TokenKind) (p : Phrase α) (done : List α) (ts : List Token) :
    (itemsBehind k p done).run ts =
      match p.run ts with
      | .ok a rest => Parser.itemsFrom (fun t => t.kind = k) p (a :: done) rest
      | .fail fault rest => .fail fault rest := by
  simp only [itemsBehind, Parser.bind]
  cases p.run ts <;> rfl

namespace Decides

variable {p : Phrase α} {w v : List TokenKind} {a : α} {as done : List α} {φ ψ : Prop}
  {k : TokenKind} {next : Option TokenKind}

/-- The last item. -/
theorem items_last (h : Decides p w a φ next) (hn : next ≠ some k) :
    Decides (itemsBehind k p done) w (done.reverse ++ [a]) φ next := by
  intro ts rest hts hrest
  obtain ⟨hok, hfail⟩ := h ts rest hts hrest
  rw [run_itemsBehind]
  refine ⟨fun hfits => ?_, fun hfits => ?_⟩
  · rw [hok hfits]
    simp only
    rw [itemsFrom_stop (hrest ▸ hn), List.reverse_cons]
  · obtain ⟨fault, left, hrun⟩ := hfail hfits
    exact ⟨fault, left, by rw [hrun]⟩

/-- An item with a separator and more items behind it. -/
theorem items_cons (h : Decides p v a φ (some k))
    (hs : Decides (itemsBehind k p (a :: done)) w as ψ next) :
    Decides (itemsBehind k p done) (v ++ k :: w) as (φ ∧ ψ) next := by
  intro ts rest hts hrest
  obtain ⟨vs, ws, rfl, hvs, hws⟩ := List.map_eq_append_iff.mp hts
  obtain ⟨t, ws, rfl, ht, hws⟩ := List.map_eq_cons_iff.mp hws
  obtain ⟨hok, hfail⟩ := h vs (t :: (ws ++ rest)) hvs (by rw [headKind_cons, ht])
  rw [List.append_assoc, List.cons_append, run_itemsBehind]
  by_cases hφ : φ
  · obtain ⟨hok', hfail'⟩ := hs ws rest hws hrest
    rw [hok hφ]
    simp only
    rw [itemsFrom_cons ht, ← run_itemsBehind]
    exact ⟨fun hfits => hok' hfits.2, fun hfits => hfail' fun hψ => hfits ⟨hφ, hψ⟩⟩
  · obtain ⟨fault, left, hrun⟩ := hfail hφ
    exact ⟨fun hfits => absurd hfits.1 hφ, fun _ => ⟨fault, left, by rw [hrun]⟩⟩

end Decides

namespace Chained

variable {op? : TokenKind → Option (α → α → α)} {p : Phrase α} {w v : List TokenKind} {a b : α}
  {φ ψ : Prop} {k : TokenKind} {next : Option TokenKind}

theorem congr (h : Chained op? p w a φ next) (hf : φ ↔ ψ) :
    Chained op? p w a ψ next := by
  intro ts rest hts hr
  rw [← hf]
  exact h ts rest hts hr

/-- A single operand. -/
theorem operand (h : Decides p w a φ next) : Chained op? p w a φ next := by
  intro ts rest hts hr
  obtain ⟨hok, hfail⟩ := h ts rest hts hr
  refine ⟨fun hf => ?_, fun hf => ?_⟩
  · rw [run_chain, hok hf]
  · obtain ⟨fault, left, hrun⟩ := hfail hf
    exact ⟨fault, left, by rw [run_chain, hrun]⟩

/-- One more operand. -/
theorem step {f : α → α → α} (hw : Chained op? p w a φ (some k)) (hk : op? k = some f)
    (hv : Decides p v b ψ next) :
    Chained op? p (w ++ k :: v) (f a b) (φ ∧ ψ) next := by
  intro ts rest hts hr
  obtain ⟨us, vs, rfl, hu, hv'⟩ := List.map_eq_append_iff.mp hts
  obtain ⟨t, vs, rfl, ht, hvs⟩ := List.map_eq_cons_iff.mp hv'
  obtain ⟨hok, hfail⟩ := hw us (t :: vs ++ rest) hu (by simp [ht])
  rw [List.append_assoc]
  by_cases h : φ
  · rw [hok h, List.cons_append, chainFrom_cons (ht ▸ hk)]
    obtain ⟨hok', hfail'⟩ := hv vs rest hvs hr
    refine ⟨fun hb => ?_, fun hb => ?_⟩
    · rw [hok' hb.2]
    · obtain ⟨fault, left, hrun⟩ := hfail' fun h' => hb ⟨h, h'⟩
      exact ⟨fault, left, by rw [hrun]⟩
  · exact ⟨fun hb => absurd hb.1 h, fun _ => hfail h⟩

/-- The chain ends in front of a token that is none of its operators. -/
theorem finish (h : Chained op? p w a φ next) (hn : next.bind op? = none) :
    Decides (chain op? p) w a φ next := by
  intro ts rest hts hr
  obtain ⟨hok, hfail⟩ := h ts rest hts hr
  refine ⟨fun hf => ?_, hfail⟩
  rw [hok hf, chainFrom_stop (by rw [hr, hn])]

end Chained

/-! ## Successes -/

/-- Whenever `p` succeeds, `R` relates the word consumed, the value and the next kind. -/
def Yields (p : Phrase α) (R : List TokenKind → α → Option TokenKind → Prop) : Prop :=
  ∀ (ts : List Token) (a : α) (rest : List Token), p.run ts = .ok a rest →
    ∃ us, ts = us ++ rest ∧ R (us.map Token.kind) a (headKind rest)

namespace Yields

variable {p : Phrase α} {R S : List TokenKind → α → Option TokenKind → Prop} {k : TokenKind}
  {c : Complaint}

theorem mono (h : Yields p R) (hRS : ∀ w a n, R w a n → S w a n) : Yields p S := by
  intro ts a rest hrun
  obtain ⟨us, rfl, hR⟩ := h ts a rest hrun
  exact ⟨us, rfl, hRS _ _ _ hR⟩

protected theorem pure (a : α) : Yields (pure a) fun w b _ => w = [] ∧ b = a := by
  intro ts b rest hrun
  obtain ⟨rfl, rfl⟩ := Outcome.ok.inj hrun
  exact ⟨[], rfl, rfl, rfl⟩

/-- A phrase that always fails never succeeds. -/
theorem of_fail (h : ∀ ts, ∃ fault left, p.run ts = .fail fault left) : Yields p R := by
  intro ts a rest hrun
  obtain ⟨fault, left, hfail⟩ := h ts
  rw [hfail] at hrun
  cases hrun

theorem complain : Yields (complain c : Phrase α) fun _ _ _ => False :=
  of_fail fun ts => ⟨_, _, run_complain c ts⟩

theorem bind {f : α → Phrase β} {T : α → List TokenKind → β → Option TokenKind → Prop}
    (hp : Yields p R) (hf : ∀ a, Yields (f a) (T a)) :
    Yields (p >>= f) fun w b n =>
      ∃ u v a, w = u ++ v ∧ R u a (v.head?.or n) ∧ T a v b n := by
  intro ts b rest hrun
  rw [Parser.run_bind] at hrun
  cases hp' : p.run ts with
  | fail fault left => rw [hp'] at hrun; cases hrun
  | ok a mid =>
    rw [hp'] at hrun
    obtain ⟨us, rfl, hR⟩ := hp ts a mid hp'
    obtain ⟨vs, rfl, hT⟩ := hf a mid b rest hrun
    rw [headKind_append] at hR
    exact ⟨us ++ vs, by rw [List.append_assoc], _, _, a, List.map_append, hR, hT⟩

theorem map {F : α → β} (hp : Yields p R) :
    Yields (do return F (← p)) fun w b n => ∃ a, b = F a ∧ R w a n := by
  refine (bind hp fun a => Yields.pure (F a)).mono ?_
  rintro w b n ⟨u, v, a, rfl, hR, rfl, rfl⟩
  rw [List.append_nil]
  exact ⟨a, rfl, hR⟩

theorem ite {P : Prop} [Decidable P] {q r : Phrase α} (hq : Yields q R) (hr : Yields r S) :
    Yields (if P then q else r) fun w a n => (P ∧ R w a n) ∨ (¬P ∧ S w a n) := by
  split
  · next h => exact hq.mono fun w a n hR => Or.inl ⟨h, hR⟩
  · next h => exact hr.mono fun w a n hS => Or.inr ⟨h, hS⟩

theorem accept {q r : Phrase α} (hq : Yields q R) (hr : Yields r S) :
    Yields (do if ← accept k then q else r) fun w a n =>
      (∃ v, w = k :: v ∧ R v a n) ∨ (w.head?.or n ≠ some k ∧ S w a n) := by
  intro ts a rest hrun
  by_cases h : headKind ts = some k
  · rw [run_bind_ok (by rw [run_accept, if_pos h]), if_pos rfl] at hrun
    obtain ⟨t, ts, rfl, ht⟩ := exists_cons_of_headKind h
    obtain ⟨us, rfl, hR⟩ := hq ts a rest hrun
    exact ⟨t :: us, rfl, Or.inl ⟨_, by rw [List.map_cons, ht], hR⟩⟩
  · rw [run_bind_ok (by rw [run_accept, if_neg h]), if_neg (by simp)] at hrun
    obtain ⟨us, rfl, hS⟩ := hr ts a rest hrun
    rw [headKind_append] at h
    exact ⟨us, rfl, Or.inr ⟨h, hS⟩⟩

theorem expect_then (hp : Yields p R) :
    Yields (do let _ ← expect k c; p) fun w a n => ∃ v, w = k :: v ∧ R v a n := by
  intro ts a rest hrun
  rw [Parser.run_bind, run_expect] at hrun
  cases ts with
  | nil => cases hrun
  | cons t ts =>
    by_cases h : t.kind = k
    · simp only [h, if_true] at hrun
      obtain ⟨us, rfl, hR⟩ := hp ts a rest hrun
      exact ⟨t :: us, rfl, _, by rw [List.map_cons, h], hR⟩
    · simp only [h, if_false] at hrun
      cases hrun

theorem takeKind (f : TokenKind → Option α) :
    Yields (takeKind f c) fun w a _ => ∃ k, w = [k] ∧ f k = some a := by
  intro ts a rest hrun
  rw [run_takeKind] at hrun
  cases ts with
  | nil => cases hrun
  | cons t ts =>
    cases h : f t.kind with
    | none => simp only [headKind_cons, Option.bind_some, h] at hrun; cases hrun
    | some b =>
      simp only [headKind_cons, Option.bind_some, h, List.tail_cons] at hrun
      obtain ⟨rfl, rfl⟩ := Outcome.ok.inj hrun
      exact ⟨[t], rfl, _, rfl, h⟩

theorem takeKind? {f : TokenKind → Option β} {g : Option β → Phrase α}
    {T : β → List TokenKind → α → Option TokenKind → Prop} (hs : ∀ b, Yields (g (some b)) (T b))
    (hn : Yields (g none) S) :
    Yields (takeKind? f >>= g) fun w a n =>
      (∃ k v b, w = k :: v ∧ f k = some b ∧ T b v a n) ∨
        ((w.head?.or n).bind f = none ∧ S w a n) := by
  intro ts a rest hrun
  cases h : (headKind ts).bind f with
  | none =>
    rw [run_bind_ok (by rw [run_takeKind?, h])] at hrun
    obtain ⟨us, rfl, hS⟩ := hn ts a rest hrun
    rw [headKind_append] at h
    exact ⟨us, rfl, Or.inr ⟨h, hS⟩⟩
  | some b =>
    rw [run_bind_ok (by rw [run_takeKind?, h])] at hrun
    obtain ⟨j, hj, hb⟩ := Option.bind_eq_some_iff.mp h
    obtain ⟨t, ts, rfl, ht⟩ := exists_cons_of_headKind hj
    obtain ⟨us, rfl, hT⟩ := hs b ts a rest hrun
    exact ⟨t :: us, rfl, Or.inl ⟨_, _, b, by rw [List.map_cons, ht], hb, hT⟩⟩

theorem peekKind {g : Option TokenKind → Phrase α}
    {T : Option TokenKind → List TokenKind → α → Option TokenKind → Prop}
    (h : ∀ k, Yields (g k) (T k)) :
    Yields (peekKind >>= g) fun w a n => T (w.head?.or n) w a n := by
  intro ts a rest hrun
  rw [run_bind_ok (run_peekKind ts)] at hrun
  obtain ⟨us, rfl, hT⟩ := h _ ts a rest hrun
  rw [headKind_append] at hT
  exact ⟨us, rfl, hT⟩

/--
The loop of a chain, after the tokens `us` that make `lhs`: every further operand preserves `S`, so
what the loop ends with has it too.
-/
theorem chainFrom {op? : TokenKind → Option (α → α → α)} (hp : Yields p R)
    (step : ∀ v w a b k n f, S v a (some k) → op? k = some f → R w b n →
      S (v ++ k :: w) (f a b) n) {lhs a : α} {us ts rest : List Token}
    (hS : S (us.map Token.kind) lhs (headKind ts))
    (hrun : Parser.chainFrom p (fun t => op? t.kind) lhs ts = .ok a rest) :
    ∃ vs, ts = vs ++ rest ∧ S ((us ++ vs).map Token.kind) a (headKind rest) ∧
      (headKind rest).bind op? = none := by
  induction h : ts.length using Nat.strongRecOn generalizing lhs us ts with
  | _ len ih =>
    cases hop : (headKind ts).bind op? with
    | none =>
      rw [chainFrom_stop hop] at hrun
      obtain ⟨rfl, rfl⟩ := Outcome.ok.inj hrun
      exact ⟨[], rfl, by rw [List.append_nil]; exact hS, hop⟩
    | some f =>
      obtain ⟨k, hk, hf⟩ := Option.bind_eq_some_iff.mp hop
      obtain ⟨t, ts, rfl, rfl⟩ := exists_cons_of_headKind hk
      rw [chainFrom_cons hf] at hrun
      cases hrhs : p.run ts with
      | fail fault left => rw [hrhs] at hrun; cases hrun
      | ok b mid =>
        rw [hrhs] at hrun
        obtain ⟨vs, rfl, hR⟩ := hp ts b mid hrhs
        -- the operator and its operand join the tokens that are read
        have hlen : mid.length < len := by
          rw [← h, List.length_cons, List.length_append]
          omega
        have hnext : S ((us ++ t :: vs).map Token.kind) (f lhs b) (headKind mid) := by
          rw [List.map_append, List.map_cons]
          exact step _ _ _ _ _ _ _ hS hf hR
        obtain ⟨xs, rfl, hS', hend⟩ := ih mid.length hlen hnext hrun rfl
        exact ⟨t :: vs ++ xs, by simp, by simpa using hS', hend⟩

/-- A chain keeps what its first operand establishes and every further one preserves. -/
theorem chain {op? : TokenKind → Option (α → α → α)} (hp : Yields p R)
    (operand : ∀ w a n, R w a n → S w a n)
    (step : ∀ v w a b k n f, S v a (some k) → op? k = some f → R w b n →
      S (v ++ k :: w) (f a b) n) :
    Yields (chain op? p) fun w a n => S w a n ∧ n.bind op? = none := by
  intro ts a rest hrun
  rw [run_chain] at hrun
  cases hlhs : p.run ts with
  | fail fault left => rw [hlhs] at hrun; cases hrun
  | ok b mid =>
    rw [hlhs] at hrun
    obtain ⟨us, rfl, hR⟩ := hp ts b mid hlhs
    obtain ⟨vs, rfl, hS, hend⟩ := chainFrom hp step (operand _ _ _ hR) hrun
    exact ⟨us ++ vs, by rw [List.append_assoc], hS, hend⟩

/-- The items behind those that are `done`: the last one begins a list, and every other one goes in
front of a list. -/
theorem itemsBehind {S : List TokenKind → List α → Option TokenKind → Prop} (hp : Yields p R)
    (last : ∀ w a n, R w a n → S w [a] n)
    (cons : ∀ v w a as n, R v a (some k) → S w as n → S (v ++ k :: w) (a :: as) n)
    (done : List α) :
    Yields (itemsBehind k p done) fun w bs n => ∃ as, bs = done.reverse ++ as ∧ S w as n := by
  intro ts bs rest hrun
  induction h : ts.length using Nat.strongRecOn generalizing done ts with
  | _ len ih =>
    rw [run_itemsBehind] at hrun
    cases hitem : p.run ts with
    | fail fault left => rw [hitem] at hrun; cases hrun
    | ok a mid =>
      rw [hitem] at hrun
      obtain ⟨us, rfl, hR⟩ := hp ts a mid hitem
      by_cases hk : headKind mid = some k
      · obtain ⟨t, mid, rfl, ht⟩ := exists_cons_of_headKind hk
        simp only [itemsFrom_cons ht, ← run_itemsBehind] at hrun
        have hlen : mid.length < len := by
          rw [← h, List.length_append, List.length_cons]
          omega
        obtain ⟨vs, rfl, as, rfl, hS⟩ := ih mid.length hlen (a :: done) mid hrun rfl
        refine ⟨us ++ t :: vs, by simp, a :: as, by simp, ?_⟩
        rw [List.map_append, List.map_cons, ht]
        exact cons _ _ _ _ _ (hk ▸ hR) hS
      · simp only [itemsFrom_stop hk] at hrun
        obtain ⟨rfl, rfl⟩ := Outcome.ok.inj hrun
        exact ⟨us, rfl, [a], by rw [List.reverse_cons], last _ _ _ hR⟩

theorem items {S : List TokenKind → List α → Option TokenKind → Prop} (hp : Yields p R)
    (last : ∀ w a n, R w a n → S w [a] n)
    (cons : ∀ v w a as n, R v a (some k) → S w as n → S (v ++ k :: w) (a :: as) n) :
    Yields (items k p) S := by
  rw [items_eq]
  refine (itemsBehind hp last cons []).mono ?_
  rintro w _ n ⟨as, rfl, hS⟩
  exact hS

end Yields

end Phrase

end PaveScript
