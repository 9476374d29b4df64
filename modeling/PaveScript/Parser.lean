/-!
# Parsers

A parser takes the tokens that are left and returns a value or a fault, and in both cases the
tokens that are left then. These are always a suffix of what it was given: the type says so, and
the loops below end because of it. At the end of the input a parser finds no token, and nothing
moves past it.
-/

namespace PaveScript

/-- The outcome of a parser over tokens `τ` with faults `ε`, with the tokens that are left. -/
inductive Outcome (τ ε α : Type) where
  | ok (value : α) (rest : List τ)
  | fail (fault : ε) (rest : List τ)

/-- The tokens that are left. -/
def Outcome.rest {τ ε α : Type} : Outcome τ ε α → List τ
  | ok _ rest => rest
  | fail _ rest => rest

/-- A parser: it consumes tokens from the front and nothing else. -/
structure Parser (τ ε α : Type) where
  run : List τ → Outcome τ ε α
  isSuffix : ∀ ts, (run ts).rest <:+ ts

namespace Parser

variable {τ ε α β : Type}

/-- What a parser leaves is no longer than what it was given. -/
theorem length_rest_le (p : Parser τ ε α) (ts : List τ) : (p.run ts).rest.length ≤ ts.length :=
  (p.isSuffix ts).length_le

/-! ## Sequencing -/

protected def pure (a : α) : Parser τ ε α where
  run ts := .ok a ts
  isSuffix _ := List.suffix_rfl

protected def bind (p : Parser τ ε α) (f : α → Parser τ ε β) : Parser τ ε β where
  run ts :=
    match p.run ts with
    | .ok a rest => (f a).run rest
    | .fail fault rest => .fail fault rest
  isSuffix ts := by
    have hp := p.isSuffix ts
    split
    · next a rest h => exact ((f a).isSuffix rest).trans (by simpa [h, Outcome.rest] using hp)
    · next fault rest h => simpa [h, Outcome.rest] using hp

instance : Monad (Parser τ ε) where
  pure := Parser.pure
  bind := Parser.bind

@[simp]
theorem run_pure (a : α) (ts : List τ) : (pure a : Parser τ ε α).run ts = .ok a ts := rfl

theorem run_bind (p : Parser τ ε α) (f : α → Parser τ ε β) (ts : List τ) :
    (p >>= f).run ts =
      match p.run ts with
      | .ok a rest => (f a).run rest
      | .fail fault rest => .fail fault rest := rfl

/-- A parser that is built only when it runs, so that one may be arbitrarily large. -/
def delay (p : Unit → Parser τ ε α) : Parser τ ε α where
  run ts := (p ()).run ts
  isSuffix ts := (p ()).isSuffix ts

@[simp]
theorem delay_eq (p : Unit → Parser τ ε α) : delay p = p () := rfl

/-! ## Single tokens -/

/-- Stops with a fault that the next token determines. -/
def stopAt (fault : Option τ → ε) : Parser τ ε α where
  run ts := .fail (fault ts.head?) ts
  isSuffix _ := List.suffix_rfl

/-- Stops with a fault. -/
def stop (fault : ε) : Parser τ ε α := stopAt fun _ => fault

/-- The next token, which stays. -/
def peek : Parser τ ε (Option τ) where
  run ts := .ok ts.head? ts
  isSuffix _ := List.suffix_rfl

/-- Consumes the next token, if there is one. -/
def next : Parser τ ε (Option τ) where
  run
    | [] => .ok none []
    | t :: rest => .ok (some t) rest
  isSuffix
    | [] => List.suffix_rfl
    | t :: rest => List.suffix_cons t rest

/-- Consumes the next token if a function takes it. -/
def take? (f : τ → Option α) : Parser τ ε (Option α) where
  run
    | [] => .ok none []
    | t :: rest =>
      match f t with
      | some a => .ok (some a) rest
      | none => .ok none (t :: rest)
  isSuffix ts := by
    cases ts with
    | nil => exact List.suffix_rfl
    | cons t rest => cases h : f t <;> simp [h, Outcome.rest]

/-- Consumes the next token if a function takes it, else stops with a fault about it. -/
def take (f : τ → Option α) (fault : Option τ → ε) : Parser τ ε α := do
  match ← take? f with
  | some a => return a
  | none => stopAt fault

/-! ## Loops -/

/-- Goes on with a left-associative chain whose operands so far make `lhs`. -/
def chainFrom (operand : Parser τ ε α) (op? : τ → Option (α → α → α)) (lhs : α) :
    List τ → Outcome τ ε α
  | [] => .ok lhs []
  | t :: ts =>
    match op? t with
    | none => .ok lhs (t :: ts)
    | some op =>
      match _h : operand.run ts with
      | .ok rhs rest => chainFrom operand op? (op lhs rhs) rest
      | .fail fault rest => .fail fault rest
termination_by ts => ts.length
decreasing_by
  have := operand.length_rest_le ts
  simp only [_h, Outcome.rest] at this
  simp only [List.length_cons]
  omega

theorem chainFrom_isSuffix (operand : Parser τ ε α) (op? : τ → Option (α → α → α)) (lhs : α)
    (ts : List τ) : (chainFrom operand op? lhs ts).rest <:+ ts := by
  fun_induction chainFrom operand op? lhs ts with
  | case1 => exact List.suffix_rfl
  | case2 => exact List.suffix_rfl
  | case3 lhs t ts op _ rhs rest h ih =>
    have := operand.isSuffix ts
    simp only [h, Outcome.rest] at this
    exact ih.trans (this.trans (List.suffix_cons t ts))
  | case4 lhs t ts op _ fault rest h =>
    have := operand.isSuffix ts
    simp only [h, Outcome.rest] at this
    exact this.trans (List.suffix_cons t ts)

/-- Operands joined by binary operators of one precedence, grouped to the left. -/
def chain (op? : τ → Option (α → α → α)) (operand : Parser τ ε α) : Parser τ ε α :=
  operand.bind fun lhs => ⟨chainFrom operand op? lhs, chainFrom_isSuffix operand op? lhs⟩

/-- Goes on with a list after its first items `done`, given in reverse. -/
def itemsFrom (separates : τ → Bool) (item : Parser τ ε α) (done : List α) :
    List τ → Outcome τ ε (List α)
  | [] => .ok done.reverse []
  | t :: ts =>
    if separates t then
      match _h : item.run ts with
      | .ok a rest => itemsFrom separates item (a :: done) rest
      | .fail fault rest => .fail fault rest
    else .ok done.reverse (t :: ts)
termination_by ts => ts.length
decreasing_by
  have := item.length_rest_le ts
  simp only [_h, Outcome.rest] at this
  simp only [List.length_cons]
  omega

theorem itemsFrom_isSuffix (separates : τ → Bool) (item : Parser τ ε α) (done : List α)
    (ts : List τ) : (itemsFrom separates item done ts).rest <:+ ts := by
  fun_induction itemsFrom separates item done ts with
  | case1 => exact List.suffix_rfl
  | case2 done t ts _ a rest h ih =>
    have := item.isSuffix ts
    simp only [h, Outcome.rest] at this
    exact ih.trans (this.trans (List.suffix_cons t ts))
  | case3 done t ts _ fault rest h =>
    have := item.isSuffix ts
    simp only [h, Outcome.rest] at this
    exact this.trans (List.suffix_cons t ts)
  | case4 => exact List.suffix_rfl

/-- One or more items with separators between them. -/
def items (separates : τ → Bool) (item : Parser τ ε α) : Parser τ ε (List α) :=
  item.bind fun a =>
    ⟨itemsFrom separates item [a], itemsFrom_isSuffix separates item [a]⟩

/-! ## Second readings -/

/-- Reads again from the same place when a fault has an alternative. -/
def retry (p : Parser τ ε α) (alternative : ε → Option (Parser τ ε α)) : Parser τ ε α where
  run ts :=
    match p.run ts with
    | .ok a rest => .ok a rest
    | .fail fault rest =>
      match alternative fault with
      | some q => q.run ts
      | none => .fail fault rest
  isSuffix ts := by
    have hp := p.isSuffix ts
    split
    · next a rest h => simpa [h, Outcome.rest] using hp
    · next fault rest h =>
      split
      · next q _ => exact q.isSuffix ts
      · simpa [h, Outcome.rest] using hp

/-- Reports another fault in place of the one that arose. -/
def mapFault (p : Parser τ ε α) (f : ε → ε) : Parser τ ε α where
  run ts :=
    match p.run ts with
    | .ok a rest => .ok a rest
    | .fail fault rest => .fail (f fault) rest
  isSuffix ts := by
    have hp := p.isSuffix ts
    split
    · next a rest h => simpa [h, Outcome.rest] using hp
    · next fault rest h => simpa [h, Outcome.rest] using hp

end Parser

end PaveScript
