import PaveScript.Proofs.Cursor.Procedure
import PaveScript.Proofs.Grammar.Locality

/-!
# Procedures do as phrases do

A procedure and a phrase go together when, from counters that point at the tokens that the phrase is
given, the procedure has the result of the phrase as soon as its fuel is enough, and the counters
point at the tokens that the phrase leaves. The depth is then what it was, and the counters have
been inside at every moment. A phrase always ends, so the procedure does, and it never looks outside
the array.

* `Track.At ts rest d` says that the counters stand before `rest` and that the depth is `d`.
* `Gives m t r u` says that `m` with enough fuel goes from `t` to `u` and has the result `r`.
* `Simulates sure ts d m p` says that `m` does from depth `d` as `p` does. How deep a reader may
  still go hangs on where it starts, and the phrases of statements start at the outermost level: for
  them `sure` is that `d` is zero, and elsewhere `m` ends as some phrase might.

The relation passes from the parts of a sequence to the sequence, so the procedures are gone through
one by one.
-/

namespace PaveScript

open Grammar

/-! ## Tracks -/

/-- The counters point at a cell of a stream and stay within the limit of nesting. -/
structure Counters.Inside (ts : List Token) (c : Counters) : Prop where
  pos_le : c.pos ≤ ts.length
  depth_le : c.depth ≤ nestingLimit

namespace Track

variable {ts rest : List Token} {k : Token} {d : Nat} {t u v : Track}

/-- A later track: since the earlier one, the counters have always been inside. -/
def Leads (ts : List Token) (t u : Track) : Prop :=
  ∃ steps, u.past = steps ++ t.past ∧ ∀ c ∈ steps, c.Inside ts

theorem Leads.refl (ts : List Token) (t : Track) : t.Leads ts t := ⟨[], rfl, by simp⟩

theorem Leads.trans (h : t.Leads ts u) (h' : u.Leads ts v) : t.Leads ts v := by
  obtain ⟨steps, hu, hsteps⟩ := h
  obtain ⟨more, hv, hmore⟩ := h'
  refine ⟨more ++ steps, by rw [hv, hu, List.append_assoc], ?_⟩
  exact List.forall_mem_append.mpr ⟨hmore, hsteps⟩

/-- The track after its counters have changed. -/
def moved (t : Track) (c : Counters) : Track := ⟨c, t.now :: t.past⟩

/-- A reader that has `rest` left and is nested `d` deep. -/
structure At (ts rest : List Token) (d : Nat) (t : Track) : Prop where
  isSuffix : rest <:+ ts
  pos_add : t.now.pos + rest.length = ts.length
  depth_eq : t.now.depth = d
  depth_le : d ≤ nestingLimit

namespace At

theorem inside (h : t.At ts rest d) : t.now.Inside ts := by
  refine ⟨?_, h.depth_eq ▸ h.depth_le⟩
  have := h.pos_add
  omega

theorem leads_moved (h : t.At ts rest d) (c : Counters) : t.Leads ts (t.moved c) :=
  ⟨[t.now], rfl, by simpa using h.inside⟩

theorem drop_pos (h : t.At ts rest d) : ts.drop t.now.pos = rest := by
  have hlen : ts.length - rest.length = t.now.pos := by
    have := h.pos_add
    omega
  rw [← hlen]
  exact (List.suffix_iff_eq_drop.mp h.isSuffix).symm

theorem head?_eq (h : t.At ts rest d) : ts[t.now.pos]? = rest.head? := by
  rw [← h.drop_pos, List.head?_drop]

/-- The reader has moved on by one token. -/
theorem moved_next (h : t.At ts (k :: rest) d) :
    (t.moved t.now.next).At ts rest d := by
  refine ⟨(List.suffix_cons k rest).trans h.isSuffix, ?_, h.depth_eq, h.depth_le⟩
  have := h.pos_add
  rw [List.length_cons] at this
  simp only [moved, Counters.next]
  omega

/-- The reader has changed its level. -/
theorem moved_depth {e : Nat} (h : t.At ts rest d) (he : e ≤ nestingLimit) :
    (t.moved { t.now with depth := e }).At ts rest e :=
  ⟨h.isSuffix, h.pos_add, rfl, he⟩

/-- The token in front of a reader that has moved on. -/
theorem getElem?_of_moved_next (h : t.At ts (k :: rest) d) :
    ts[(t.moved t.now.next).now.pos - 1]? = some k := by
  simp only [moved, Counters.next, Nat.add_sub_cancel]
  rw [h.head?_eq, List.head?_cons]

end At

/-- A reader inside a stream stands before the tokens from its position on. -/
theorem at_of_inside (h : t.now.Inside ts) : t.At ts (ts.drop t.now.pos) t.now.depth := by
  refine ⟨List.drop_suffix _ _, ?_, rfl, h.depth_le⟩
  have := h.pos_le
  rw [List.length_drop]
  omega

end Track

theorem Phrase.run_expect_of_ne {kind : TokenKind} {c : Complaint} {ts : List Token}
    (h : headKind ts ≠ some kind) :
    (Phrase.expect kind c).run ts = .fail (.unexpected c ts.head?) ts := by
  cases ts with
  | nil => rfl
  | cons k ts =>
    rw [Phrase.run_expect]
    exact if_neg fun hk => h (by rw [headKind_cons, hk])

/-- What a procedure returns that does as a phrase does. -/
def Outcome.result {α : Type} : Outcome Token Fault α → Except Stop α
  | ok a _ => .ok a
  | fail f _ => .error (.fault f)

/-! ## Runs -/

namespace Procedure

variable {α β : Type} {m : Procedure α} {t u : Track}

/-- A procedure at work. -/
def runOn (m : Procedure α) (t : Track) : Option (Except Stop α × Track) :=
  StateT.run (ExceptT.run m) t

/-- What follows a procedure whether it succeeds or not. -/
theorem runOn_settle {r : Except Stop α} (h : m.runOn t = some (r, u))
    (f : Except Stop α → Procedure β) : (Cursor.settle m f).runOn t = (f r).runOn u := by
  show (m.runOn t).bind _ = _
  rw [h]
  rfl

theorem runOn_bind_ok {a : α} (h : m.runOn t = some (.ok a, u)) (f : α → Procedure β) :
    (m >>= f).runOn t = (f a).runOn u :=
  runOn_settle h _

end Procedure

namespace Cursor

open Procedure

variable {α β : Type} {ts rest mid : List Token} {k : Token} {d : Nat} {t u : Track}

theorem runOn_counters (t : Track) : counters.runOn t = some (.ok t.now, t) := rfl

theorem runOn_move (f : Counters → Counters) (t : Track) :
    (move f).runOn t = some (.ok (), t.moved (f t.now)) := rfl

theorem size_stream (ts : List Token) : (stream ts).size = ts.length + 1 := by
  simp [stream]

/-- The cells of a stream are its tokens and the mark behind them. -/
theorem runOn_cellAt {i : Nat} (h : i ≤ ts.length) (t : Track) :
    (cellAt (stream ts) i).runOn t = some (.ok ts[i]?, t) := by
  have hcell : (stream ts)[i]? = some ts[i]? := by
    rcases Nat.lt_or_eq_of_le h with h | rfl
    · simp [stream, h, List.getElem?_append_left]
    · simp [stream]
  rw [cellAt, hcell]
  rfl

theorem runOn_peek (h : t.At ts rest d) :
    (peek (stream ts)).runOn t = some (.ok rest.head?, t) := by
  have hpos := h.inside.pos_le
  rw [peek, runOn_bind_ok (runOn_counters t), size_stream, Nat.add_sub_cancel, Nat.min_eq_left hpos,
    runOn_cellAt hpos, h.head?_eq]

theorem runOn_peekKind (h : t.At ts rest d) :
    (peekKind (stream ts)).runOn t = some (.ok (headKind rest), t) := by
  rw [peekKind, runOn_bind_ok (runOn_peek h)]
  rfl

theorem runOn_previous (h : t.At ts rest d) :
    (previous (stream ts)).runOn t = some (.ok ts[t.now.pos - 1]?, t) := by
  have hpos := h.inside.pos_le
  rw [previous, runOn_bind_ok (runOn_counters t), runOn_cellAt (by omega)]

theorem runOn_advance_cons (h : t.At ts (k :: rest) d) :
    (advance (stream ts)).runOn t = some (.ok (some k), t.moved t.now.next) := by
  rw [advance, runOn_bind_ok (runOn_peek h), List.head?_cons, if_pos (by rfl),
    runOn_bind_ok (runOn_move _ t), runOn_previous h.moved_next, h.getElem?_of_moved_next]

theorem runOn_advance_nil (h : t.At ts [] d) :
    (advance (stream ts)).runOn t = some (.ok ts[t.now.pos - 1]?, t) := by
  rw [advance, runOn_bind_ok (runOn_peek h), List.head?_nil, if_neg (by simp), runOn_previous h]

theorem runOn_takeKind?_some {f : TokenKind → Option α} {a : α} (h : t.At ts (k :: rest) d)
    (hf : f k.kind = some a) :
    (takeKind? (stream ts) f).runOn t = some (.ok (some a), t.moved t.now.next) := by
  rw [takeKind?, runOn_bind_ok (runOn_peekKind h), headKind_cons, Option.bind_some, hf]
  exact runOn_bind_ok (runOn_advance_cons h) _

theorem runOn_takeKind?_none {f : TokenKind → Option α} (h : t.At ts rest d)
    (hf : (headKind rest).bind f = none) :
    (takeKind? (stream ts) f).runOn t = some (.ok none, t) := by
  rw [takeKind?, runOn_bind_ok (runOn_peekKind h), hf]
  rfl

theorem runOn_accept_of_kind {kind : TokenKind} (h : t.At ts (k :: rest) d) (hk : k.kind = kind) :
    (accept (stream ts) kind).runOn t = some (.ok true, t.moved t.now.next) := by
  rw [accept, runOn_bind_ok (runOn_peekKind h), headKind_cons, if_pos (by rw [hk])]
  exact runOn_bind_ok (runOn_advance_cons h) _

theorem runOn_accept_of_ne {kind : TokenKind} (h : t.At ts rest d)
    (hk : headKind rest ≠ some kind) :
    (accept (stream ts) kind).runOn t = some (.ok false, t) := by
  rw [accept, runOn_bind_ok (runOn_peekKind h), if_neg hk]
  rfl

theorem runOn_complain (h : t.At ts rest d) (c : Complaint) :
    (complain (stream ts) c : Procedure α).runOn t =
      some (.error (.fault (.unexpected c rest.head?)), t) := by
  rw [complain, runOn_bind_ok (runOn_peek h)]
  rfl

theorem runOn_expect_of_kind {kind : TokenKind} {c : Complaint} (h : t.At ts (k :: rest) d)
    (hk : k.kind = kind) :
    (expect (stream ts) kind c).runOn t = some (.ok (), t.moved t.now.next) := by
  rw [expect, runOn_bind_ok (runOn_accept_of_kind h hk)]
  rfl

theorem runOn_expect_of_ne {kind : TokenKind} {c : Complaint} (h : t.At ts rest d)
    (hk : headKind rest ≠ some kind) :
    (expect (stream ts) kind c).runOn t = some (.error (.fault (.unexpected c rest.head?)), t) := by
  rw [expect, runOn_bind_ok (runOn_accept_of_ne h hk), if_neg (by simp), runOn_complain h]

theorem runOn_rise (levels : Nat) (result : Except Stop α) (t : Track) :
    (rise levels result).runOn t =
      some (result, t.moved { t.now with depth := t.now.depth - levels }) := by
  cases result <;> rfl

/-! ## Enough fuel -/

/-- With enough fuel, a procedure gives a result and leaves a track. -/
def Gives (m : Nat → Procedure α) (t : Track) (r : Except Stop α) (u : Track) : Prop :=
  ∃ least, ∀ fuel, least ≤ fuel → (m fuel).runOn t = some (r, u)

namespace Gives

variable {m : Nat → Procedure α} {v : Track}

theorem of_runOn {m : Procedure α} {r : Except Stop α} (h : m.runOn t = some (r, u)) :
    Gives (fun _ => m) t r u :=
  ⟨0, fun _ _ => h⟩

/-- A loop or a recursion has used one unit of fuel. -/
theorem succ {r : Except Stop α} (h : Gives (fun fuel => m (fuel + 1)) t r u) : Gives m t r u := by
  obtain ⟨least, hrun⟩ := h
  refine ⟨least + 1, fun fuel hfuel => ?_⟩
  obtain ⟨fuel, rfl⟩ : ∃ n, fuel = n + 1 := ⟨fuel - 1, by omega⟩
  exact hrun fuel (by omega)

theorem more {r : Except Stop α} (h : Gives m t r u) : Gives (fun fuel => m (fuel + 1)) t r u := by
  obtain ⟨least, hrun⟩ := h
  exact ⟨least, fun fuel hfuel => hrun (fuel + 1) (by omega)⟩

theorem settle {r : Except Stop α} {r' : Except Stop β} {f : Nat → Except Stop α → Procedure β}
    (hm : Gives m t r u) (hf : Gives (fun fuel => f fuel r) u r' v) :
    Gives (fun fuel => Cursor.settle (m fuel) (f fuel)) t r' v := by
  obtain ⟨least, hrun⟩ := hm
  obtain ⟨least', hrun'⟩ := hf
  refine ⟨max least least', fun fuel hfuel => ?_⟩
  rw [runOn_settle (hrun fuel (by omega)), hrun' fuel (by omega)]

theorem bind_ok {a : α} {r : Except Stop β} {f : Nat → α → Procedure β}
    (hm : Gives m t (.ok a) u) (hf : Gives (fun fuel => f fuel a) u r v) :
    Gives (fun fuel => m fuel >>= f fuel) t r v :=
  hm.settle hf

theorem bind_error {stop : Stop} {f : Nat → α → Procedure β} (hm : Gives m t (.error stop) u) :
    Gives (fun fuel => m fuel >>= f fuel) t (.error stop) u :=
  hm.settle (.of_runOn rfl)

end Gives

/-! ## The relation -/

/-- A procedure ends as an outcome says, and the reader is inside all along. -/
def Ends (ts : List Token) (d : Nat) (t : Track) (o : Outcome Token Fault α)
    (m : Nat → Procedure α) : Prop :=
  ∃ u, Gives m t o.result u ∧ u.At ts o.rest d ∧ t.Leads ts u

/-- A procedure ends as some outcome on `rest` says, and as `o` if `sure` holds. -/
def EndsAs (sure : Prop) (ts rest : List Token) (d : Nat) (t : Track) (o : Outcome Token Fault α)
    (m : Nat → Procedure α) : Prop :=
  ∃ o' : Outcome Token Fault α, o'.rest <:+ rest ∧ (sure → o' = o) ∧ Ends ts d t o' m

/-- From depth `d` a procedure does as a phrase does, if `sure` holds, else as some phrase might. -/
def Simulates (sure : Prop) (ts : List Token) (d : Nat) (m : Nat → Procedure α) (p : Phrase α) :
    Prop :=
  ∀ rest t, t.At ts rest d → EndsAs sure ts rest d t (p.run rest) m

namespace Ends

variable {e : Nat} {o : Outcome Token Fault α} {m : Nat → Procedure α}

theorem of_runOn {m : Procedure α} (h : m.runOn t = some (o.result, u)) (hu : u.At ts o.rest d)
    (hlead : t.Leads ts u) : Ends ts d t o fun _ => m :=
  ⟨u, .of_runOn h, hu, hlead⟩

theorem here {m : Procedure α} (h : m.runOn t = some (o.result, t)) (ht : t.At ts o.rest d) :
    Ends ts d t o fun _ => m :=
  .of_runOn h ht (.refl ts t)

theorem succ (h : Ends ts d t o fun fuel => m (fuel + 1)) : Ends ts d t o m := by
  obtain ⟨u, hrun, hu, hlead⟩ := h
  exact ⟨u, hrun.succ, hu, hlead⟩

theorem settle {m : Nat → Procedure β} {f : Nat → Except Stop β → Procedure α}
    {r : Except Stop β} (h : Gives m t r u) (hlead : t.Leads ts u)
    (hf : Ends ts d u o fun fuel => f fuel r) :
    Ends ts d t o fun fuel => settle (m fuel) (f fuel) := by
  obtain ⟨v, hrun, hv, hlead'⟩ := hf
  exact ⟨v, h.settle hrun, hv, hlead.trans hlead'⟩

/-- The part of a run behind a success. -/
theorem behind {m : Nat → Procedure β} {f : Nat → β → Procedure α} {b : β}
    (h : Gives m t (.ok b) u) (hlead : t.Leads ts u) (hf : Ends ts d u o fun fuel => f fuel b) :
    Ends ts d t o fun fuel => m fuel >>= f fuel :=
  settle h hlead hf

/-- The part of a run behind a step that needs no fuel. -/
theorem after {m : Procedure β} {f : Nat → β → Procedure α} {b : β}
    (h : m.runOn t = some (.ok b, u)) (hlead : t.Leads ts u)
    (hf : Ends ts d u o fun fuel => f fuel b) : Ends ts d t o fun fuel => m >>= f fuel :=
  behind (.of_runOn h) hlead hf

/-- A step that changes nothing. -/
theorem look {m : Procedure β} {f : Nat → β → Procedure α} {b : β}
    (h : m.runOn t = some (.ok b, t)) (hf : Ends ts d t o fun fuel => f fuel b) :
    Ends ts d t o fun fuel => m >>= f fuel :=
  after h (.refl ts t) hf

theorem bind_ok {f : Nat → α → Procedure β} {a : α} {o : Outcome Token Fault β}
    (h : Ends ts d t (.ok a mid) m)
    (hf : ∀ u : Track, u.At ts mid d → Ends ts e u o fun fuel => f fuel a) :
    Ends ts e t o fun fuel => m fuel >>= f fuel := by
  obtain ⟨u, hrun, hu, hlead⟩ := h
  exact behind hrun hlead (hf u hu)

end Ends

namespace EndsAs

variable {sure : Prop} {o : Outcome Token Fault α} {m : Nat → Procedure α}

theorem here {m : Procedure α} (ho : o.rest = rest) (h : m.runOn t = some (o.result, t))
    (ht : t.At ts rest d) : EndsAs sure ts rest d t o fun _ => m := by
  subst ho
  exact ⟨o, List.suffix_rfl, fun _ => rfl, .here h ht⟩

theorem succ (h : EndsAs sure ts rest d t o fun fuel => m (fuel + 1)) :
    EndsAs sure ts rest d t o m := by
  obtain ⟨o', hs, ho, hends⟩ := h
  exact ⟨o', hs, ho, hends.succ⟩

theorem congr {o' : Outcome Token Fault α} (h : EndsAs sure ts rest d t o' m)
    (ho : sure → o' = o) : EndsAs sure ts rest d t o m := by
  obtain ⟨o'', hs, ho', hends⟩ := h
  exact ⟨o'', hs, fun h => (ho' h).trans (ho h), hends⟩

theorem settle {m : Nat → Procedure β} {f : Nat → Except Stop β → Procedure α}
    {r : Except Stop β} (h : Gives m t r u) (hmid : mid <:+ rest) (hlead : t.Leads ts u)
    (hf : EndsAs sure ts mid d u o fun fuel => f fuel r) :
    EndsAs sure ts rest d t o fun fuel => settle (m fuel) (f fuel) := by
  obtain ⟨o', hs, ho, hends⟩ := hf
  exact ⟨o', hs.trans hmid, ho, hends.settle h hlead⟩

/-- The part of a run behind a step that needs no fuel. -/
theorem after {m : Procedure β} {f : Nat → β → Procedure α} {b : β}
    (h : m.runOn t = some (.ok b, u)) (hmid : mid <:+ rest) (hlead : t.Leads ts u)
    (hf : EndsAs sure ts mid d u o fun fuel => f fuel b) :
    EndsAs sure ts rest d t o fun fuel => m >>= f fuel :=
  settle (.of_runOn h) hmid hlead hf

/-- A step that changes nothing. -/
theorem look {m : Procedure β} {f : Nat → β → Procedure α} {b : β}
    (h : m.runOn t = some (.ok b, t)) (hf : EndsAs sure ts rest d t o fun fuel => f fuel b) :
    EndsAs sure ts rest d t o fun fuel => m >>= f fuel :=
  .after h List.suffix_rfl (.refl ts t) hf

/-- A step that takes a token. -/
theorem take {m : Procedure β} {f : Nat → β → Procedure α} {b : β} (ht : t.At ts (k :: rest) d)
    (h : m.runOn t = some (.ok b, t.moved t.now.next))
    (hf : EndsAs sure ts rest d (t.moved t.now.next) o fun fuel => f fuel b) :
    EndsAs sure ts (k :: rest) d t o fun fuel => m >>= f fuel :=
  .after h (List.suffix_cons k rest) (ht.leads_moved _) hf

/-- A step that fails at once ends the procedure. -/
theorem fail {m : Procedure β} {f : Nat → β → Procedure α} {fault : Fault}
    (h : m.runOn t = some (.error (.fault fault), t)) (ht : t.At ts rest d) :
    EndsAs sure ts rest d t (.fail fault rest) fun fuel => m >>= f fuel :=
  ⟨_, List.suffix_rfl, fun _ => rfl, t, (Gives.of_runOn h).bind_error, ht, .refl ts t⟩

/-- What a procedure does behind another one that ends as an outcome says. -/
theorem bind {f : Nat → α → Procedure β} {next : α → List Token → Outcome Token Fault β}
    (hm : EndsAs sure ts rest d t o m)
    (hf : ∀ a mid (u : Track), mid <:+ rest → u.At ts mid d →
      EndsAs sure ts mid d u (next a mid) fun fuel => f fuel a) :
    EndsAs sure ts rest d t
      (match o with
        | .ok a mid => next a mid
        | .fail fault mid => .fail fault mid)
      fun fuel => m fuel >>= f fuel := by
  obtain ⟨o', hs, ho, u, hrun, hu, hlead⟩ := hm
  cases o' with
  | ok a mid =>
    obtain ⟨o'', hs', ho', v, hrun', hv, hlead'⟩ := hf a mid u hs hu
    refine ⟨o'', hs'.trans hs, fun h => ?_, v, hrun.bind_ok hrun', hv, hlead.trans hlead'⟩
    rw [ho' h, ← ho h]
  | fail fault mid =>
    refine ⟨.fail fault mid, hs, fun h => ?_, u, hrun.bind_error, hu, hlead⟩
    rw [← ho h]

theorem run_bind {p : Phrase α} {f : Nat → α → Procedure β} {g : α → Phrase β}
    (hm : EndsAs sure ts rest d t (p.run rest) m)
    (hf : ∀ a, Simulates sure ts d (fun fuel => f fuel a) (g a)) :
    EndsAs sure ts rest d t ((p >>= g).run rest) fun fuel => m fuel >>= f fuel := by
  have hall := hm.bind fun a mid u _ hu => hf a mid u hu
  rw [Parser.run_bind]
  revert hall
  cases p.run rest <;> exact id

end EndsAs

namespace Simulates

variable {sure : Prop} {m : Nat → Procedure α} {p : Phrase α} {c : Complaint} {kind : TokenKind}

theorem of_runOn {m : Procedure α}
    (h : ∀ rest t, t.At ts rest d → ∃ u : Track, m.runOn t = some ((p.run rest).result, u) ∧
      u.At ts (p.run rest).rest d ∧ t.Leads ts u) : Simulates sure ts d (fun _ => m) p := by
  intro rest t ht
  obtain ⟨u, hrun, hu, hlead⟩ := h rest t ht
  exact ⟨_, p.isSuffix rest, fun _ => rfl, .of_runOn hrun hu hlead⟩

/-- A reader is never deeper than the limit. -/
theorem of_le (h : d ≤ nestingLimit → Simulates sure ts d m p) : Simulates sure ts d m p :=
  fun rest t ht => h ht.depth_le rest t ht

theorem succ (h : Simulates sure ts d (fun fuel => m (fuel + 1)) p) : Simulates sure ts d m p :=
  fun rest t ht => (h rest t ht).succ

theorem more (h : Simulates sure ts d m p) : Simulates sure ts d (fun fuel => m (fuel + 1)) p := by
  intro rest t ht
  obtain ⟨o, hs, ho, u, hrun, hu, hlead⟩ := h rest t ht
  exact ⟨o, hs, ho, u, hrun.more, hu, hlead⟩

protected theorem pure (a : α) : Simulates sure ts d (fun _ => pure a) (pure a) :=
  .of_runOn fun _ t ht => ⟨t, rfl, ht, .refl ts t⟩

theorem stop (f : Fault) :
    Simulates sure ts d (fun _ => (throw (.fault f) : Procedure α)) (Parser.stop f) :=
  .of_runOn fun _ t ht => ⟨t, rfl, ht, .refl ts t⟩

theorem complain :
    Simulates sure ts d (fun _ => (complain (stream ts) c : Procedure α)) (Phrase.complain c) :=
  .of_runOn fun _ t ht => ⟨t, runOn_complain ht c, ht, .refl ts t⟩

theorem peekKind : Simulates sure ts d (fun _ => peekKind (stream ts)) Phrase.peekKind :=
  .of_runOn fun _ t ht => ⟨t, runOn_peekKind ht, ht, .refl ts t⟩

theorem bind {f : Nat → α → Procedure β} {g : α → Phrase β} (hm : Simulates sure ts d m p)
    (hf : ∀ a, Simulates sure ts d (fun fuel => f fuel a) (g a)) :
    Simulates sure ts d (fun fuel => m fuel >>= f fuel) (p >>= g) :=
  fun rest t ht => (hm rest t ht).run_bind hf

theorem map {F : α → β} (hm : Simulates sure ts d m p) :
    Simulates sure ts d (fun fuel => do return F (← m fuel)) (do return F (← p)) :=
  hm.bind fun a => .pure (F a)

theorem ite {P : Prop} [Decidable P] {m' : Nat → Procedure α} {p' : Phrase α}
    (h : Simulates sure ts d m p) (h' : Simulates sure ts d m' p') :
    Simulates sure ts d (fun fuel => if P then m fuel else m' fuel) (if P then p else p') := by
  by_cases hP : P
  · simpa only [if_pos hP] using h
  · simpa only [if_neg hP] using h'

theorem takeKind? {f : TokenKind → Option α} :
    Simulates sure ts d (fun _ => takeKind? (stream ts) f) (Phrase.takeKind? f) := by
  refine .of_runOn fun rest t ht => ?_
  rw [Phrase.run_takeKind?]
  cases hf : (headKind rest).bind f with
  | none => exact ⟨t, runOn_takeKind?_none ht hf, ht, .refl ts t⟩
  | some a =>
    obtain ⟨kind, hkind, hf⟩ := Option.bind_eq_some_iff.mp hf
    obtain ⟨k, rest, rfl, rfl⟩ := exists_cons_of_headKind hkind
    exact ⟨_, runOn_takeKind?_some ht hf, ht.moved_next, ht.leads_moved _⟩

theorem takeKind {f : TokenKind → Option α} :
    Simulates sure ts d (fun _ => takeKind (stream ts) f c) (Phrase.takeKind f c) := by
  refine takeKind?.bind fun x => ?_
  cases x with
  | some a => exact .pure a
  | none => exact complain

theorem accept : Simulates sure ts d (fun _ => accept (stream ts) kind) (Phrase.accept kind) := by
  refine .of_runOn fun rest t ht => ?_
  rw [Phrase.run_accept]
  split
  · next h =>
    obtain ⟨k, rest, rfl, hk⟩ := exists_cons_of_headKind h
    exact ⟨_, runOn_accept_of_kind ht hk, ht.moved_next, ht.leads_moved _⟩
  · next h => exact ⟨t, runOn_accept_of_ne ht h, ht, .refl ts t⟩

/-- A token that has to be there. The procedure does not keep it. -/
theorem expect_then (h : Simulates sure ts d m p) :
    Simulates sure ts d (fun fuel => do expect (stream ts) kind c; m fuel)
      (do let _ ← Phrase.expect kind c; p) := by
  intro rest t ht
  by_cases hkind : headKind rest = some kind
  · obtain ⟨k, rest, rfl, hk⟩ := exists_cons_of_headKind hkind
    rw [Phrase.run_bind_ok (Phrase.run_expect_of_kind hk)]
    exact .take ht (runOn_expect_of_kind ht hk) (h rest _ ht.moved_next)
  · rw [Phrase.run_bind_fail (Phrase.run_expect_of_ne hkind)]
    exact .fail (runOn_expect_of_ne ht hkind) ht

/-! ### Levels -/

/-- Back by some levels, whatever the result is. -/
theorem rise {n : Nat} (h : Simulates sure ts (d + n) m p) (ht : t.At ts rest (d + n)) :
    EndsAs sure ts rest d t (p.run rest) fun fuel => settle (m fuel) (rise n) := by
  obtain ⟨o, hs, ho, u, hrun, hu, hlead⟩ := h rest t ht
  have hback : (u.moved { u.now with depth := u.now.depth - n }).At ts o.rest d := by
    rw [hu.depth_eq, Nat.add_sub_cancel]
    exact hu.moved_depth (Nat.le_of_add_right_le ht.depth_le)
  have hrise := hrun.settle (.of_runOn (runOn_rise n _ u))
  exact ⟨o, hs, ho, _, hrise, hback, hlead.trans (hu.leads_moved _)⟩

/-- One level further in, where there is room. -/
theorem nested {p : Nat → Phrase α}
    (h : d < nestingLimit → Simulates sure ts (d + 1) m (p (nestingLimit - (d + 1)))) :
    Simulates sure ts d (fun fuel => nested (stream ts) (m fuel))
      (Phrase.nested (below p (nestingLimit - d))) := by
  intro rest t ht
  by_cases hd : d < nestingLimit
  · have hroom : nestingLimit - d = nestingLimit - (d + 1) + 1 := by omega
    have hrun : (enter (stream ts)).runOn t =
        some (.ok (), t.moved { t.now with depth := d + 1 }) := by
      rw [enter, runOn_bind_ok (runOn_counters t), ht.depth_eq, if_pos hd, runOn_move, ht.depth_eq]
    rw [hroom]
    exact .after hrun List.suffix_rfl (ht.leads_moved _) ((h hd).rise (ht.moved_depth hd))
  · have hroom : nestingLimit - d = 0 := by omega
    have hrun : (enter (stream ts)).runOn t =
        some (.error (.fault (.unexpected .nesting rest.head?)), t) := by
      rw [enter, runOn_bind_ok (runOn_counters t), ht.depth_eq, if_neg hd, runOn_complain ht]
    rw [hroom]
    exact .fail hrun ht

/-! ### Chains -/

/-- The loop of a chain. Its operands have more fuel than the loop itself. -/
theorem chainFrom {op? : TokenKind → Option (α → α → α)} (h : Simulates sure ts d m p) (lhs : α)
    (rest : List Token) (t : Track) (ht : t.At ts rest d) :
    EndsAs sure ts rest d t (Parser.chainFrom p (fun t => op? t.kind) lhs rest)
      fun fuel => chainFrom (stream ts) op? (m fuel) fuel lhs := by
  induction hlen : rest.length using Nat.strongRecOn generalizing m lhs rest t with
  | _ len ih =>
    refine .succ ?_
    cases hop : (headKind rest).bind op? with
    | none =>
      rw [Phrase.chainFrom_stop hop]
      exact .look (runOn_takeKind?_none ht hop) (.here rfl rfl ht)
    | some op =>
      obtain ⟨kind, hkind, hop⟩ := Option.bind_eq_some_iff.mp hop
      obtain ⟨k, rest, rfl, rfl⟩ := exists_cons_of_headKind hkind
      rw [Phrase.chainFrom_cons hop]
      refine .take ht (runOn_takeKind?_some ht hop) ?_
      refine (h.more rest _ ht.moved_next).bind fun rhs mid u hmid hu => ?_
      exact ih mid.length (hlen ▸ Nat.lt_succ_of_le hmid.length_le) h.more (op lhs rhs) mid u hu rfl

/-- Operands joined by the operators of one precedence. -/
theorem chain {op? : TokenKind → Option (α → α → α)} (h : Simulates sure ts d m p) :
    Simulates sure ts d (fun fuel => chain (stream ts) fuel op? (m fuel)) (Phrase.chain op? p) :=
  h.bind fun lhs rest t ht => h.chainFrom lhs rest t ht

end Simulates

end Cursor

end PaveScript
