import PaveScript.Proofs.Grammar.Condition

/-!
# Statements are read as they are derived

Every form of a statement is told by its first token, and what follows that token is read part by
part.

* `StatementDerives.decides` — a word that derives a statement is read as it
* `yields_statement` — what is read as a statement derives it
-/

namespace PaveScript.Grammar

open Phrase

/-! ## Words without approximations

Safe input refuses no token but `approx`. -/

@[simp]
theorem truthWord_ne_approx (b : Bool) : truthWord b ≠ .keyword .approx := by
  cases b <;> simp [truthWord]

@[simp]
theorem keyword_mode_ne_approx (mode : PavingMode) : mode.keyword ≠ .approx := by
  cases mode <;> simp [PavingMode.keyword]

@[simp]
theorem keyword_kind_ne_approx (kind : VarKind) : kind.keyword ≠ .approx := by
  cases kind <;> simp [VarKind.keyword]

@[simp]
theorem keyword_action_ne_approx (a : Action) : a.keyword ≠ .approx := by
  cases a <;> simp [Action.keyword]

theorem FileToken.ne_approx {k : TokenKind} {file : String} (h : FileToken k file) :
    k ≠ .keyword .approx := by
  cases h <;> simp

/-! ## Completeness of the parts -/

section Parts

variable {safe : Bool} {n : Nat} {w : List TokenKind} {next : Option TokenKind}

/-- No expression starts with an equals sign or with `let`. -/
theorem Derives.head?_ne {l : Level} {e : Expr} (h : Derives l n w e) (next : Option TokenKind) :
    w.head?.or next ≠ some (.symbol .equals) ∧ w.head?.or next ≠ some (.keyword .letIn) := by
  obtain ⟨k, v, rfl, hk⟩ := h.exists_head
  simp only [List.head?_cons, Option.some_or, ne_eq, Option.some.injEq]
  refine ⟨?_, ?_⟩
  all_goals
    rintro rfl
    revert hk
    decide

theorem decides_binding {e : Expr} (x : String) (h : Derives .sum n w e)
    (hn : EndsExpression next) :
    Decides (binding safe) (.identifier x :: .symbol .equals :: w) ⟨x, e⟩
      (n ≤ nestingLimit ∧ Allowed safe (.identifier x :: .symbol .equals :: w)) next := by
  unfold binding
  refine .takeKind_then rfl (.expect_then (.map ((h.decides safe _ hn).congr ?_)))
  simp

theorem LinksDerive.decides {bs : List Binding} (h : LinksDerive n w bs) (done : List Binding)
    (hn : EndsExpression next) (hcomma : next ≠ some (.symbol .comma)) :
    Decides (itemsBehind (.symbol .comma) (binding safe) done) w (done.reverse ++ bs)
      (n ≤ nestingLimit ∧ Allowed safe w) next := by
  induction h generalizing done with
  | last x h => exact .items_last (decides_binding x h hn) hcomma
  | @cons m n v w e bs x h hs ih =>
    have hlink : Decides (binding safe) _ ⟨x, e⟩ _ (some (.symbol .comma)) :=
      decides_binding x h (endsExpression_some (by decide))
    have hmore := ih (⟨x, e⟩ :: done)
    rw [List.reverse_cons, List.append_assoc] at hmore
    refine (Decides.items_cons hlink hmore).congr ?_
    rw [fits_and_fits]
    simp

theorem BindingsDerive.decides {bs : List Binding} (h : BindingsDerive n w bs)
    (hlet : next ≠ some (.keyword .letIn)) :
    Decides (bindings safe) w bs (n ≤ nestingLimit ∧ Allowed safe w) next := by
  unfold bindings
  rw [items_eq]
  cases h with
  | none => exact .accept_else hlet ((Decides.pure []).congr (by simp))
  | chain h =>
    have hlinks : Decides (itemsBehind (.symbol .comma) (binding safe) []) _ _ _
        (some (.keyword .within)) :=
      h.decides [] (endsExpression_some (by decide)) (by simp)
    refine .accept_then (Decides.congr (.bind hlinks (.expect_then (.pure _))) ?_)
    simp

/-- No let chain starts with an equals sign. -/
theorem BindingsDerive.head?_ne {bs : List Binding} (h : BindingsDerive n w bs)
    (hequals : next ≠ some (.symbol .equals)) : w.head?.or next ≠ some (.symbol .equals) := by
  cases h with
  | none => exact hequals
  | chain h => simp

theorem PreambleDerives.decides {bs : List Binding} (h : PreambleDerives n w bs)
    (hequals : next ≠ some (.symbol .equals)) (hlet : next ≠ some (.keyword .letIn)) :
    Decides (preamble safe) w bs (n ≤ nestingLimit ∧ Allowed safe w) next := by
  unfold preamble
  rw [accept_bind]
  cases h with
  | bare h => exact .accept_else (h.head?_ne hequals) (h.decides hlet)
  | equals h => exact .accept_then ((h.decides hlet).congr (by simp))

theorem decides_interval {m : Nat} {v : List TokenKind} {a b : Expr} (ha : Derives .sum m v a)
    (hb : Derives .sum n w b) :
    Decides (interval safe)
      (.symbol .openBracket :: (v ++ .symbol .comma :: (w ++ [.symbol .closeBracket]))) ⟨a, b⟩
      ((m ≤ nestingLimit ∧ Allowed safe v) ∧ (n ≤ nestingLimit ∧ Allowed safe w) ∧ True) next := by
  unfold interval
  refine .expect_then (.bind (ha.decides safe _ (endsExpression_some ?_))
    (.expect_then (.bind (hb.decides safe _ (endsExpression_some ?_)) (.expect_then (.pure _)))))
  · decide
  · decide

/-- A preamble and an expression behind it. -/
theorem decides_preamble_expression {l m : Nat} {u v : List TokenKind} {bs : List Binding}
    {e : Expr} {α : Type} {a : α} {f : List Binding → Expr → Phrase α} {φ : Prop}
    (hbs : PreambleDerives l u bs) (he : Derives .sum m v e)
    (hends : EndsExpression (w.head?.or next)) (hf : Decides (f bs e) w a φ next) :
    Decides (do let links ← preamble safe; f links (← expression safe)) (u ++ (v ++ w)) a
      ((l ≤ nestingLimit ∧ Allowed safe u) ∧ (m ≤ nestingLimit ∧ Allowed safe v) ∧ φ) next := by
  obtain ⟨hequals, hlet⟩ := he.head?_ne (w.head?.or next)
  have hhead : (v ++ w).head?.or next = v.head?.or (w.head?.or next) := by
    rw [List.head?_append, Option.or_assoc]
  rw [← hhead] at hequals hlet
  exact .bind (hbs.decides hequals hlet) (.bind (he.decides safe _ hends) hf)

theorem decides_equalsNumber (l : Literal) (next : Option TokenKind) :
    Decides equalsNumber [.symbol .equals, .number l] l True next := by
  unfold equalsNumber
  exact .expect_then (decides_plainNumber l next)

theorem decides_equalsTruth (b : Bool) (next : Option TokenKind) :
    Decides equalsTruth [.symbol .equals, truthWord b] b True next := by
  unfold equalsTruth
  refine .expect_then (.takeKind ?_)
  cases b <;> rfl

theorem decides_pavingMode (mode : PavingMode) (next : Option TokenKind) :
    Decides pavingMode [.keyword .mode, .symbol .equals, .keyword mode.keyword] mode True next := by
  unfold pavingMode
  refine .expect_then fun ts rest hts _ => ?_
  obtain ⟨sign, ts, rfl, hsign, hts⟩ := List.map_eq_cons_iff.mp hts
  obtain ⟨word, rfl, hword⟩ := List.map_eq_singleton_iff.mp hts
  refine ⟨fun _ => ?_, fun hf => absurd trivial hf⟩
  rw [List.cons_append, run_bind_ok (run_expect_of_kind hsign)]
  have hmode : mode? word.kind = some mode := by rw [hword]; cases mode <;> rfl
  rw [run_bind_ok (p := Parser.next) (by rfl), Option.getD_some]
  simp only [hmode]
  rfl

theorem FileToken.file?_eq {k : TokenKind} {file : String} (h : FileToken k file) :
    file? k = some file := by
  cases h <;> rfl

/-- The first token of a setting tells which one it is. -/
theorem decides_setting {head : Token} {k : TokenKind} {s : Setting} {φ : Prop}
    (h : ∀ key : Token, key.kind = k → Decides (settingOf safe key) w s φ next) :
    Decides (setting safe head) (k :: w) s φ next := by
  intro ts rest hts hrest
  obtain ⟨key, ts, rfl, hkey, hts⟩ := List.map_eq_cons_iff.mp hts
  exact h key hkey ts rest hts hrest

theorem SettingDerives.decides {s : Setting} (h : SettingDerives n w s) (head : Token)
    (next : Option TokenKind) :
    Decides (setting safe head) w s (n ≤ nestingLimit ∧ Allowed safe w) next := by
  cases h
  all_goals
    refine decides_setting fun key hkey => ?_
    rw [settingOf, hkey]
  case precision h => exact .expect_then (.map ((h.decides safe _ next).congr (by simp)))
  -- the other settings are read in any case
  case resolution l =>
    exact .congr (.takeKind?_none rfl (.map (decides_equalsNumber l next))) (by simp)
  case variableResolution x l =>
    exact .congr (.takeKind?_some rfl (.map (decides_equalsNumber l next))) (by simp)
  case granularity l => exact .congr (.map (decides_equalsNumber l next)) (by simp)
  case depth l => exact .congr (.map (decides_equalsNumber l next)) (by simp)
  case varSelect l => exact .congr (.map (decides_equalsNumber l next)) (by simp)
  case bp b => exact .congr (.map (decides_equalsTruth b next)) (by simp)
  case safeInput b => exact .congr (.expect_then (.map (decides_equalsTruth b next))) (by simp)
  case debug b => exact .congr (.map (decides_equalsTruth b next)) (by simp)
  case name x => exact .congr (.expect_then (.map (.takeKind rfl))) (by simp)
  case output h =>
    exact .congr (.expect_then (.map (.takeKind h.file?_eq))) (by simp [h.ne_approx])
  case pavingMode mode => exact .congr (.map (decides_pavingMode mode next)) (by simp)

end Parts

/-! ## Completeness -/

/-- A statement ends in front of a semicolon or at the end of the input. -/
def EndsStatement (next : Option TokenKind) : Prop :=
  next = none ∨ next = some (.symbol .semicolon)

namespace EndsStatement

variable {next : Option TokenKind}

theorem endsExpression (h : EndsStatement next) : EndsExpression next := by
  rcases h with rfl | rfl
  · intro k _ hk
    cases hk
  · exact endsExpression_some (by decide)

theorem bind_eq_none {α : Type} {f : TokenKind → Option α} (h : EndsStatement next)
    (hf : f (.symbol .semicolon) = none) : next.bind f = none := by
  rcases h with rfl | rfl
  · rfl
  · exact hf

theorem ne_keyword (h : EndsStatement next) (k : Keyword) : next ≠ some (.keyword k) := by
  rcases h with rfl | rfl <;> simp

end EndsStatement

section Statements

variable {safe : Bool} {next : Option TokenKind} {m n : Nat} {v w : List TokenKind}

theorem decides_declaration (kind : VarKind) (x : String) {a b : Expr} (ha : Derives .sum m v a)
    (hb : Derives .sum n w b) :
    Decides (declaration safe kind) (.identifier x :: .keyword .within :: .symbol .openBracket ::
        (v ++ .symbol .comma :: (w ++ [.symbol .closeBracket]))) (.declare x ⟨a, b⟩ kind)
      (max m n ≤ nestingLimit ∧ Allowed safe (.keyword kind.keyword :: .identifier x ::
        .keyword .within :: .symbol .openBracket ::
          (v ++ .symbol .comma :: (w ++ [.symbol .closeBracket])))) next := by
  unfold declaration
  refine Decides.congr
    (.takeKind_then rfl (.expect_then (.map (decides_interval ha hb)))) ?_
  rw [and_true, fits_and_fits]
  simp

/-- A statement about an expression under a let chain. -/
theorem decides_problem {F : List Binding → Expr → Statement} {k : Keyword} (hk : k ≠ .approx)
    {bs : List Binding} {e : Expr} (hbs : PreambleDerives m v bs) (he : Derives .sum n w e)
    (hends : EndsExpression next) :
    Decides (do let links ← preamble safe; return F links (← expression safe)) (v ++ w) (F bs e)
      (max m n ≤ nestingLimit ∧ Allowed safe (.keyword k :: (v ++ w))) next := by
  rw [← List.append_nil w]
  refine .congr (decides_preamble_expression hbs he hends (.pure _)) ?_
  rw [and_true, fits_and_fits]
  simp [hk]

theorem decides_plot (x : String) (axes : PlotAxes) (hn : EndsStatement next) :
    Decides plot (.identifier x :: axes.names.map .identifier) (.plot x axes) True next := by
  unfold plot
  cases axes with
  | two y z =>
    exact .takeKind_then rfl (.takeKind_then rfl (.takeKind_then rfl
      (.takeKind?_none (hn.bind_eq_none rfl) (.pure _))))
  | three y z u =>
    exact .takeKind_then rfl (.takeKind_then rfl (.takeKind_then rfl
      (.takeKind?_some rfl (.pure _))))

end Statements

/-- **A word that derives a statement is read as that statement,** and only if it does not nest too
deep and holds nothing that safe input refuses. -/
theorem StatementDerives.decides {n : Nat} {k : TokenKind} {w : List TokenKind} {s : Statement}
    (h : StatementDerives n (k :: w) s) (safe : Bool) {head : Token} (hhead : head.kind = k)
    {next : Option TokenKind} (hn : EndsStatement next) :
    Decides (statement safe head) w s (n ≤ nestingLimit ∧ Allowed safe (k :: w)) next := by
  have hends := hn.endsExpression
  rw [statement, hhead]
  cases h with
  | declare kind x ha hb =>
    cases kind with
    | var => exact decides_declaration .var x ha hb
    | param => exact decides_declaration .param x ha hb
  | const x h =>
    exact .takeKind_then rfl (.expect_then (.map ((h.decides safe _ next).congr (by simp))))
  | objective hbs he => exact decides_problem (by simp) hbs he hends
  | differential hbs he => exact decides_problem (by simp) hbs he hends
  | @constraint l m n u v w k bs op a b hbs ha hcmp hb =>
    refine .congr (decides_preamble_expression hbs ha hcmp.endsExpression
      (.takeKind_then (comparison?_eq_some_iff.mpr hcmp) (.map (hb.decides safe _ hends)))) ?_
    obtain ⟨s, rfl, -⟩ := hcmp.exists_symbol
    rw [fits_and_fits, fits_and_fits]
    simp
  | define x h =>
    exact .takeKind_then rfl (.expect_then (.map ((h.decides safe _ hends).congr (by simp))))
  | set h => exact .map ((h.decides head next).congr (by simp))
  | resetOutput => exact (Decides.accept_then (.pure _)).congr (by simp)
  | action a =>
    refine Decides.congr ?_ (show True ↔ _ by simp)
    cases a with
    | reset => exact .accept_else (hn.ne_keyword .output) (.pure _)
    | _ => exact .pure _
  | savePaving x => exact .congr (.expect_then (.map (.takeKind rfl))) (by simp)
  | loadPaving x => exact .congr (.expect_then (.map (.takeKind rfl))) (by simp)
  | plot x axes => exact (decides_plot x axes hn).congr (by cases axes <;> simp [PlotAxes.names])
  | universal h =>
    refine .map ((h.decides safe _ ⟨hends, hn.bind_eq_none rfl⟩ (hn.bind_eq_none rfl)
      (hn.bind_eq_none rfl)).congr ?_)
    simp
  | readFile path => exact .congr (.map (.takeKind rfl)) (by simp)
  | quit => exact (Decides.pure _).congr (by simp)
  | exit => exact (Decides.pure _).congr (by simp)
  | help => exact (Decides.pure _).congr (by simp)

/-! ## Soundness -/

/-- `w` derives `a` within the limit of nesting and is allowed. -/
def Within {α : Type} (safe : Bool) (derives : Nat → List TokenKind → α → Prop)
    (w : List TokenKind) (a : α) : Prop :=
  ∃ n ≤ nestingLimit, derives n w a ∧ Allowed safe w

theorem yields_expression (safe : Bool) :
    Yields (expression safe) fun w e _ => Within safe (Derives .sum) w e :=
  (yields_expressionIn safe nestingLimit).mono fun _ _ _ h => h.1

theorem yields_number (safe : Bool) :
    Yields (number safe) fun w a _ => Within safe NumberDerives w a :=
  yields_numeral safe nestingLimit

theorem yields_identifier {c : Complaint} :
    Yields (identifier c) fun w x _ => w = [.identifier x] := by
  refine (Yields.takeKind name?).mono ?_
  rintro w x _ ⟨k, rfl, hk⟩
  rw [name?_eq_some hk]

theorem yields_binding (safe : Bool) :
    Yields (binding safe) fun w b _ => ∃ x v e, w = .identifier x :: .symbol .equals :: v ∧
      b = ⟨x, e⟩ ∧ Within safe (Derives .sum) v e := by
  unfold binding
  refine Yields.mono (.bind yields_identifier fun x =>
    .expect_then (.map (yields_expression safe))) ?_
  rintro w b _ ⟨_, _, x, rfl, rfl, v, rfl, e, rfl, hfits⟩
  exact ⟨x, v, e, rfl, rfl, hfits⟩

theorem yields_links (safe : Bool) :
    Yields (items (.symbol .comma) (binding safe)) fun w bs _ => Within safe LinksDerive w bs := by
  refine Yields.items (yields_binding safe) ?_ ?_
  · rintro w b _ ⟨x, v, e, rfl, rfl, n, hn, hd, ha⟩
    exact ⟨n, hn, .last x hd, by simpa using ha⟩
  · rintro v w b bs _ ⟨x, v, e, rfl, rfl, m, hm, hd, ha⟩ ⟨n, hn, hds, has⟩
    exact ⟨max m n, by omega, .cons x hd hds, by simp [ha, has]⟩

theorem yields_bindings (safe : Bool) :
    Yields (bindings safe) fun w bs _ => Within safe BindingsDerive w bs := by
  unfold bindings
  refine Yields.mono (.accept (.bind (yields_links safe) fun bs => .expect_then (.pure _))
    (.pure _)) ?_
  rintro w bs _ (⟨_, rfl, w, _, bs, rfl, ⟨n, hn, hd, ha⟩, _, rfl, rfl, rfl⟩ | ⟨-, rfl, rfl⟩)
  · exact ⟨n, hn, .chain hd, by simp [ha]⟩
  · exact ⟨0, Nat.zero_le _, .none, by simp⟩

theorem yields_preamble (safe : Bool) :
    Yields (preamble safe) fun w bs _ => Within safe PreambleDerives w bs := by
  unfold preamble
  rw [accept_bind]
  refine Yields.mono (.accept (yields_bindings safe) (yields_bindings safe)) ?_
  rintro w bs _ (⟨w, rfl, n, hn, hd, ha⟩ | ⟨-, n, hn, hd, ha⟩)
  · exact ⟨n, hn, .equals hd, by simp [ha]⟩
  · exact ⟨n, hn, .bare hd, ha⟩

theorem yields_interval (safe : Bool) :
    Yields (interval safe) fun w i _ => ∃ u v a b,
      w = .symbol .openBracket :: (u ++ .symbol .comma :: (v ++ [.symbol .closeBracket])) ∧
      i = ⟨a, b⟩ ∧ Within safe (Derives .sum) u a ∧ Within safe (Derives .sum) v b := by
  unfold interval
  refine Yields.mono (.expect_then (.bind (yields_expression safe) fun a => .expect_then
    (.bind (yields_expression safe) fun b => .expect_then (.pure _)))) ?_
  rintro w i _ ⟨_, rfl, u, _, a, rfl, ha, _, rfl, v, _, b, rfl, hb, _, rfl, rfl, rfl⟩
  exact ⟨u, v, a, b, rfl, rfl, ha, hb⟩

theorem yields_equalsNumber :
    Yields equalsNumber fun w l _ => w = [.symbol .equals, .number l] := by
  unfold equalsNumber
  refine Yields.mono (.expect_then yields_plainNumber) ?_
  rintro w l _ ⟨_, rfl, rfl⟩
  rfl

theorem yields_equalsTruth :
    Yields equalsTruth fun w b _ => w = [.symbol .equals, truthWord b] := by
  unfold equalsTruth
  refine Yields.mono (.expect_then (.takeKind truth?)) ?_
  rintro w b _ ⟨_, rfl, k, rfl, hk⟩
  unfold truth? at hk
  split at hk
  all_goals cases hk
  · rfl
  · rfl

theorem mode?_eq_some {k : TokenKind} {mode : PavingMode} (h : mode? k = some mode) :
    k = .keyword mode.keyword := by
  unfold mode? at h
  split at h
  all_goals cases h
  all_goals rfl

/-- The token behind the equals sign has to name a mode, and the equals sign itself does not. -/
theorem yields_pavingMode :
    Yields pavingMode fun w mode _ =>
      w = [.keyword .mode, .symbol .equals, .keyword mode.keyword] := by
  unfold pavingMode
  refine Yields.mono (.expect_then (R := fun w mode _ =>
    w = [.symbol .equals, .keyword mode.keyword]) ?_) ?_
  · intro ts mode rest hrun
    rw [Parser.run_bind] at hrun
    cases hsign : (expect (.symbol .equals) .equals).run ts with
    | fail fault left => rw [hsign] at hrun; cases hrun
    | ok sign mid =>
      obtain ⟨rfl, hkind⟩ := run_expect_eq_ok hsign
      rw [hsign] at hrun
      cases mid with
      | nil => simp [Parser.run_bind, Parser.next, hkind, mode?] at hrun
      | cons word mid =>
        simp only [Parser.run_bind, Parser.next, Option.getD_some] at hrun
        split at hrun
        · next m hm =>
          obtain ⟨rfl, rfl⟩ := Outcome.ok.inj hrun
          exact ⟨[sign, word], rfl, by rw [List.map_cons, List.map_singleton, hkind,
            mode?_eq_some hm]⟩
        · cases hrun
  · rintro w mode _ ⟨_, rfl, rfl⟩
    rfl

theorem fileToken_of_file? {k : TokenKind} {file : String} (h : file? k = some file) :
    FileToken k file := by
  cases k with
  | inputFile name => obtain rfl := Option.some.inj h; exact .input name
  | outputFile name => obtain rfl := Option.some.inj h; exact .output name
  | _ => cases h

/-- What does not nest. -/
theorem Within.flat {α : Type} {safe : Bool} {derives : Nat → List TokenKind → α → Prop}
    {w : List TokenKind} {a : α} (h : derives 0 w a) (hw : Allowed safe w) :
    Within safe derives w a :=
  ⟨0, Nat.zero_le _, h, hw⟩

theorem yields_numberSetting {safe : Bool} {F : Literal → Setting} {k : Keyword} (hk : k ≠ .approx)
    (h : ∀ l, SettingDerives 0 [.keyword k, .symbol .equals, .number l] (F l)) :
    Yields (do return F (← equalsNumber)) fun w s _ =>
      Within safe SettingDerives (.keyword k :: w) s := by
  refine (Yields.map yields_equalsNumber).mono ?_
  rintro w s _ ⟨l, rfl, rfl⟩
  exact .flat (h l) (by simp [hk])

theorem yields_truthSetting {safe : Bool} {F : Bool → Setting} {k : Keyword} (hk : k ≠ .approx)
    (h : ∀ b, SettingDerives 0 [.keyword k, .symbol .equals, truthWord b] (F b)) :
    Yields (do return F (← equalsTruth)) fun w s _ =>
      Within safe SettingDerives (.keyword k :: w) s := by
  refine (Yields.map yields_equalsTruth).mono ?_
  rintro w s _ ⟨b, rfl, rfl⟩
  exact .flat (h b) (by simp [hk])

theorem yields_precision (safe : Bool) :
    Yields (do
        let _ ← equalsSign
        return .precision (← number safe)) fun w s _ =>
      Within safe SettingDerives (.keyword .precision :: w) s := by
  refine Yields.mono (.expect_then (.map (yields_number safe))) ?_
  rintro w s _ ⟨w, rfl, a, rfl, n, hn, hd, ha⟩
  exact ⟨n, hn, .precision hd, by simpa using ha⟩

/-- A name in front of the equals sign makes it the resolution of a variable. -/
theorem yields_resolution (safe : Bool) :
    Yields (do
        match ← takeKind? name? with
        | some name => return .variableResolution name (← equalsNumber)
        | none => return .resolution (← equalsNumber)) fun w s _ =>
      Within safe SettingDerives (.keyword .resolution :: w) s := by
  refine Yields.mono (.takeKind? (fun x => .map yields_equalsNumber) (.map yields_equalsNumber)) ?_
  rintro w s _ (⟨k, _, x, rfl, hx, l, rfl, rfl⟩ | ⟨-, l, rfl, rfl⟩)
  · obtain rfl := name?_eq_some hx
    exact .flat (.variableResolution x l) (by simp)
  · exact .flat (.resolution l) (by simp)

theorem yields_safeInput (safe : Bool) :
    Yields (do
        let _ ← expect (.keyword .input) .safeInput
        return .safeInput (← equalsTruth)) fun w s _ =>
      Within safe SettingDerives (.keyword .safe :: w) s := by
  refine Yields.mono (.expect_then (.map yields_equalsTruth)) ?_
  rintro w s _ ⟨_, rfl, b, rfl, rfl⟩
  exact .flat (.safeInput b) (by simp)

theorem yields_problemName (safe : Bool) :
    Yields (do
        let _ ← equalsSign
        return .name (← identifier .problemName)) fun w s _ =>
      Within safe SettingDerives (.keyword .name :: w) s := by
  refine Yields.mono (.expect_then (.map yields_identifier)) ?_
  rintro w s _ ⟨_, rfl, x, rfl, rfl⟩
  exact .flat (.name x) (by simp)

theorem yields_output (safe : Bool) :
    Yields (do
        let _ ← equalsSign
        return .output (← takeKind file? .outputName)) fun w s _ =>
      Within safe SettingDerives (.keyword .output :: w) s := by
  refine Yields.mono (.expect_then (.map (.takeKind file?))) ?_
  rintro w s _ ⟨_, rfl, file, rfl, k, rfl, hfile⟩
  have hfile := fileToken_of_file? hfile
  exact .flat (.output hfile) (by simp [hfile.ne_approx])

theorem yields_pavingModeSetting (safe : Bool) :
    Yields (do return .pavingMode (← pavingMode)) fun w s _ =>
      Within safe SettingDerives (.keyword .paving :: w) s := by
  refine (Yields.map yields_pavingMode).mono ?_
  rintro w s _ ⟨mode, rfl, rfl⟩
  exact .flat (.pavingMode mode) (by simp)

theorem yields_settingOf (safe : Bool) (key : Token) :
    Yields (settingOf safe key) fun w s _ => Within safe SettingDerives (key.kind :: w) s := by
  unfold settingOf
  split
  next hk => exact hk ▸ yields_precision safe
  next hk => exact hk ▸ yields_resolution safe
  next hk => exact hk ▸ yields_numberSetting (by simp) .granularity
  next hk => exact hk ▸ yields_numberSetting (by simp) .depth
  next hk => exact hk ▸ yields_numberSetting (by simp) .varSelect
  next hk => exact hk ▸ yields_truthSetting (by simp) .bp
  next hk => exact hk ▸ yields_safeInput safe
  next hk => exact hk ▸ yields_truthSetting (by simp) .debug
  next hk => exact hk ▸ yields_problemName safe
  next hk => exact hk ▸ yields_output safe
  next hk => exact hk ▸ yields_pavingModeSetting safe
  next => exact .of_fail fun ts => ⟨_, _, run_complainAbout .setting key ts⟩

/-- At the end of the input `set` is taken for the name of a setting, and it is none. -/
theorem yields_setting (safe : Bool) {head : Token} (hhead : head.kind = .keyword .setting) :
    Yields (setting safe head) fun w s _ => Within safe SettingDerives w s := by
  intro ts s rest hrun
  cases ts with
  | nil =>
    obtain ⟨us, -, n, -, hd, -⟩ := yields_settingOf safe head [] s rest hrun
    rw [hhead] at hd
    cases hd
  | cons key ts =>
    obtain ⟨us, rfl, hfits⟩ := yields_settingOf safe key ts s rest hrun
    exact ⟨key :: us, rfl, hfits⟩

/-- A statement of one word. -/
theorem yields_word {safe : Bool} {k : Keyword} {s : Statement} (hk : k ≠ .approx)
    (h : StatementDerives 0 [.keyword k] s) :
    Yields (pure s) fun w s' _ => Within safe StatementDerives (.keyword k :: w) s' := by
  refine (Yields.pure s).mono ?_
  rintro w s _ ⟨rfl, rfl⟩
  exact .flat h (by simp [hk])

theorem yields_declaration (safe : Bool) (kind : VarKind) :
    Yields (declaration safe kind) fun w s _ =>
      Within safe StatementDerives (.keyword kind.keyword :: w) s := by
  unfold declaration
  refine Yields.mono (.bind yields_identifier fun x =>
    .expect_then (.map (yields_interval safe))) ?_
  rintro w s _ ⟨_, _, x, rfl, rfl, _, rfl, _, rfl, u, v, a, b, rfl, rfl, ⟨m, hm, hda, ha⟩,
    ⟨n, hn, hdb, hb⟩⟩
  exact ⟨max m n, by omega, .declare kind x hda hdb, by simp [ha, hb]⟩

/-- A preamble and an expression behind it. -/
theorem yields_preamble_expression {safe : Bool} {F : List Binding → Expr → Statement} {k : Keyword}
    (hk : k ≠ .approx)
    (h : ∀ {m n v w bs e}, PreambleDerives m v bs → Derives .sum n w e →
      StatementDerives (max m n) (.keyword k :: (v ++ w)) (F bs e)) :
    Yields (do let links ← preamble safe; return F links (← expression safe)) fun w s _ =>
      Within safe StatementDerives (.keyword k :: w) s := by
  refine Yields.mono (.bind (yields_preamble safe) fun bs => .map (yields_expression safe)) ?_
  rintro w s _ ⟨v, w, bs, rfl, ⟨m, hm, hdv, hv⟩, e, rfl, n, hn, hdw, hw⟩
  exact ⟨max m n, by omega, h hdv hdw, by simp [hk, hv, hw]⟩

/-- A name, an equals sign and what stands behind it. -/
theorem yields_assignment {α : Type} {safe : Bool} {part : Phrase α} {F : String → α → Statement}
    {derives : Nat → List TokenKind → α → Prop} {c c' : Complaint} {k : Keyword} (hk : k ≠ .approx)
    (hpart : Yields part fun w a _ => Within safe derives w a)
    (h : ∀ {n w a} (x : String), derives n w a →
      StatementDerives n (.keyword k :: .identifier x :: .symbol .equals :: w) (F x a)) :
    Yields (do
        let name ← identifier c
        let _ ← expect (.symbol .equals) c'
        return F name (← part)) fun w s _ => Within safe StatementDerives (.keyword k :: w) s := by
  refine Yields.mono (.bind yields_identifier fun x => .expect_then (.map hpart)) ?_
  rintro w s _ ⟨_, _, x, rfl, rfl, w, rfl, a, rfl, n, hn, hd, ha⟩
  exact ⟨n, hn, h x hd, by simp [hk, ha]⟩

theorem yields_constraint (safe : Bool) :
    Yields (do
        let links ← preamble safe
        let lhs ← expression safe
        let op ← comparisonSign
        let rhs ← expression safe
        return .constraint links (.normalize lhs op rhs)) fun w s _ =>
      Within safe StatementDerives (.keyword .cnstr :: w) s := by
  refine Yields.mono (.bind (yields_preamble safe) fun bs => .bind (yields_expression safe)
    fun a => .bind (.takeKind comparison?) fun op => .map (yields_expression safe)) ?_
  rintro w s _ ⟨u, _, bs, rfl, ⟨l, hl, hdu, hu⟩, v, _, a, rfl, ⟨m, hm, hdv, hv⟩, _, w, op, rfl,
    ⟨k, rfl, hcmp⟩, b, rfl, n, hn, hdw, hw⟩
  have hcmp := comparison?_eq_some_iff.mp hcmp
  refine ⟨max l (max m n), by omega, .constraint hdu hdv hcmp hdw, ?_⟩
  obtain ⟨s, rfl, -⟩ := hcmp.exists_symbol
  simp [hu, hv, hw]

theorem yields_set (safe : Bool) {head : Token} (hhead : head.kind = .keyword .setting) :
    Yields (do return .set (← setting safe head)) fun w s _ =>
      Within safe StatementDerives (.keyword .setting :: w) s := by
  refine (Yields.map (yields_setting safe hhead)).mono ?_
  rintro w s _ ⟨setting, rfl, n, hn, hd, ha⟩
  exact ⟨n, hn, .set hd, by simp [ha]⟩

/-- Only `output` makes another statement of `reset`. -/
theorem yields_reset (safe : Bool) :
    Yields (do if ← accept (.keyword .output) then return .resetOutput else return .action .reset)
      fun w s _ => Within safe StatementDerives (.keyword .reset :: w) s := by
  refine Yields.mono (.accept (.pure _) (.pure _)) ?_
  rintro w s _ (⟨_, rfl, rfl, rfl⟩ | ⟨-, rfl, rfl⟩)
  · exact .flat .resetOutput (by simp)
  · exact .flat (.action .reset) (by simp)

/-- `paving` and its name. -/
theorem yields_pavingName {safe : Bool} {F : String → Statement} {c c' : Complaint} {k : Keyword}
    (hk : k ≠ .approx)
    (h : ∀ x, StatementDerives 0 [.keyword k, .keyword .paving, .identifier x] (F x)) :
    Yields (do
        let _ ← expect (.keyword .paving) c
        return F (← identifier c')) fun w s _ =>
      Within safe StatementDerives (.keyword k :: w) s := by
  refine Yields.mono (.expect_then (.map yields_identifier)) ?_
  rintro w s _ ⟨_, rfl, x, rfl, rfl⟩
  exact .flat (h x) (by simp [hk])

theorem yields_plot (safe : Bool) :
    Yields plot fun w s _ => Within safe StatementDerives (.keyword .plot :: w) s := by
  unfold plot
  refine Yields.mono (.bind yields_identifier fun x => .bind yields_identifier fun y =>
    .bind yields_identifier fun z => .takeKind? (fun u => .pure _) (.pure _)) ?_
  rintro w s _ ⟨_, _, x, rfl, rfl, _, _, y, rfl, rfl, _, _, z, rfl, rfl, h⟩
  rcases h with ⟨k, _, u, rfl, hu, rfl, rfl⟩ | ⟨-, rfl, rfl⟩
  · obtain rfl := name?_eq_some hu
    exact .flat (.plot x (.three y z u)) (by simp)
  · exact .flat (.plot x (.two y z)) (by simp)

theorem yields_universal (safe : Bool) :
    Yields (do return .universal (← condition safe)) fun w s _ =>
      Within safe StatementDerives (.keyword .universal :: w) s := by
  refine (Yields.map (yields_conditionIn safe nestingLimit)).mono ?_
  rintro w s _ ⟨b, rfl, ⟨n, hn, hd, ha⟩, -⟩
  exact ⟨n, hn, .universal hd, by simp [ha]⟩

theorem yields_readFile (safe : Bool) :
    Yields (do return .readFile (← takeKind script? .scriptName)) fun w s _ =>
      Within safe StatementDerives (.keyword .file :: w) s := by
  refine (Yields.map (.takeKind script?)).mono ?_
  rintro w s _ ⟨path, rfl, k, rfl, hpath⟩
  cases k with
  | inputFile name =>
    obtain rfl := Option.some.inj hpath
    exact .flat (.readFile name) (by simp)
  | _ => cases hpath

/-- **What is read as a statement derives that statement.** -/
theorem yields_statement (safe : Bool) (head : Token) :
    Yields (statement safe head) fun w s _ =>
      Within safe StatementDerives (head.kind :: w) s := by
  unfold statement
  split
  next hk => exact hk ▸ yields_declaration safe .var
  next hk => exact hk ▸ yields_declaration safe .param
  next hk => exact hk ▸ yields_assignment (by simp) (yields_number safe) .const
  next hk => exact hk ▸ yields_preamble_expression (by simp) .objective
  next hk => exact hk ▸ yields_preamble_expression (by simp) .differential
  next hk => exact hk ▸ yields_constraint safe
  next hk => exact hk ▸ yields_assignment (by simp) (yields_expression safe) .define
  next hk => exact hk ▸ yields_set safe hk
  next hk => exact hk ▸ yields_reset safe
  next hk => exact hk ▸ yields_word (by simp) (.action .pave)
  next hk => exact hk ▸ yields_word (by simp) (.action .bifurcation)
  next hk => exact hk ▸ yields_word (by simp) (.action .equilibrium)
  next hk => exact hk ▸ yields_word (by simp) (.action .min)
  next hk => exact hk ▸ yields_word (by simp) (.action .max)
  next hk => exact hk ▸ yields_word (by simp) (.action .minMax)
  next hk => exact hk ▸ yields_pavingName (by simp) .savePaving
  next hk => exact hk ▸ yields_pavingName (by simp) .loadPaving
  next hk => exact hk ▸ yields_plot safe
  next hk => exact hk ▸ yields_universal safe
  next hk => exact hk ▸ yields_readFile safe
  next hk => exact hk ▸ yields_word (by simp) .quit
  next hk => exact hk ▸ yields_word (by simp) .exit
  next hk => exact hk ▸ yields_word (by simp) .help
  next => exact .of_fail fun ts => ⟨_, _, run_complainAbout .statement head ts⟩

end PaveScript.Grammar
