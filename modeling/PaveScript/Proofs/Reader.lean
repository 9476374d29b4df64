import PaveScript.Proofs.Excerpt

/-!
# Reading a text piece by piece

A reader hands out the pieces of a text one at a time. Behind the last piece it hands out the end of
the text, once, and nothing after that.

`Reader.drain_ofText` says that reading a text to its end gives what scanning it at once gives.

## Termination

Every round consumes a character or hands out the end, so `Reader.burden` gets smaller.
-/

namespace PaveScript

open Lexer

/-- What a reader hands out: a piece of the text, or its end. -/
inductive Item where
  | piece (p : Piece)
  | stop (p : Position)
deriving DecidableEq, Inhabited

/-- A reader: where it stands, what is left of the text, and whether it handed out the end. -/
structure Reader where
  ctx : Context := {}
  place : Position := .start
  rest : List Char
  ended : Bool := false

namespace Reader

/-- A reader at the start of a text. -/
def ofText [Text.Normalizer] (text : String) : Reader :=
  { rest := Text.Normalizer.normalize text.toList }

/-- Goes past blanks and comments. -/
def skipTrivia (p : Position) : List Char → Position × List Char
  | [] => (p, [])
  | c :: cs =>
    if isBlank c then skipTrivia (p.advance c) cs
    else if c = '#' then
      let comment := cs.takeWhile (· != '\n')
      skipTrivia (p.after (c :: comment)) (cs.drop comment.length)
    else (p, c :: cs)
termination_by cs => cs.length
decreasing_by all_goals grind

/-- The next item, if there is one. -/
def next (r : Reader) : Option Item × Reader :=
  if r.ended then (none, r)
  else
    match skipTrivia r.place r.rest with
    | (p, []) => (some (.stop p), { r with place := p, rest := [], ended := true })
    | (p, c :: cs) =>
      match scanToken? r.ctx.expectsFile c cs with
      | some (kind, rest) =>
        (some (.piece (.token ⟨kind, String.ofList (c :: rest), p⟩)),
          { r with ctx := r.ctx.push kind, place := p.after (c :: rest),
                   rest := cs.drop rest.length })
      | none => (some (.piece (.illegal c p)), { r with place := p.advance c, rest := cs })

theorem length_skipTrivia_le (p : Position) (cs : List Char) :
    (skipTrivia p cs).2.length ≤ cs.length := by
  fun_induction skipTrivia p cs with
  | case1 => exact Nat.le_refl _
  | case2 p c cs _ ih => exact Nat.le_succ_of_le ih
  | case3 p cs comment _ ih =>
    simp only [List.length_drop] at ih
    simp only [List.length_cons]
    omega
  | case4 => exact Nat.le_refl _

/-- How much a reader has to hand out at most. -/
def burden (r : Reader) : Nat := if r.ended then 0 else r.rest.length + 1

/-- Every item makes what is left to hand out less. -/
theorem burden_next {r r' : Reader} {item : Item} (h : r.next = (some item, r')) :
    r'.burden < r.burden := by
  have hle := length_skipTrivia_le r.place r.rest
  unfold next at h
  split at h
  · cases h
  · next hended =>
    have hburden : r.burden = r.rest.length + 1 := if_neg hended
    split at h
    · obtain ⟨-, rfl⟩ := Prod.mk.inj h
      rw [hburden]
      exact Nat.succ_pos _
    · next p c cs hskip =>
      rw [hskip, List.length_cons] at hle
      split at h <;>
      · obtain ⟨-, rfl⟩ := Prod.mk.inj h
        simp only [burden, if_neg hended, List.length_drop]
        omega

/-- Reads on until there is no item left. -/
def drain (r : Reader) : List Item × Reader :=
  match _h : r.next with
  | (none, r') => ([], r')
  | (some item, r') =>
    let (items, last) := drain r'
    (item :: items, last)
termination_by r.burden
decreasing_by exact burden_next _h

theorem drain_of_none {r r' : Reader} (h : r.next = (none, r')) : r.drain = ([], r') := by
  rw [drain]
  split <;> next heq => rw [h] at heq; cases heq <;> rfl

theorem drain_of_some {r r' : Reader} {item : Item} (h : r.next = (some item, r')) :
    r.drain = (item :: r'.drain.1, r'.drain.2) := by
  rw [drain]
  split <;> next heq => rw [h] at heq; cases heq <;> rfl

/-! ## Reading and scanning -/

/-- Blanks and comments leave no trace in a scan. -/
theorem scanFrom_skipTrivia (ctx : Context) (p : Position) (cs : List Char) :
    scanFrom ctx p cs = scanFrom ctx (skipTrivia p cs).1 (skipTrivia p cs).2 ∧
      p.after cs = (skipTrivia p cs).1.after (skipTrivia p cs).2 := by
  fun_induction skipTrivia p cs with
  | case1 => exact ⟨rfl, rfl⟩
  | case2 p c cs hblank ih =>
    rw [scanFrom, if_pos hblank]
    exact ih
  | case3 p cs comment hblank ih =>
    rw [scanFrom, if_neg hblank, if_pos rfl]
    refine ⟨ih.1, ?_⟩
    rw [← ih.2, ← Position.after_append, List.cons_append,
      List.prefix_iff_eq_append.mp (List.takeWhile_prefix _)]
  | case4 => exact ⟨rfl, rfl⟩

/-- Behind blanks and comments stands neither. -/
theorem head_skipTrivia {p q : Position} {cs ds : List Char} {c : Char}
    (h : skipTrivia p cs = (q, c :: ds)) : isBlank c = false ∧ c ≠ '#' := by
  fun_induction skipTrivia p cs with
  | case1 => cases h
  | case2 p d cs hblank ih => exact ih h
  | case3 p cs comment hblank ih => exact ih h
  | case4 p d cs hblank hhash =>
    obtain ⟨-, hcons⟩ := Prod.mk.inj h
    rw [← (List.cons.inj hcons).1]
    exact ⟨by simpa using hblank, hhash⟩

/-- What a reader has left to hand out: the pieces of the text that is left, and its end. -/
def items (r : Reader) : List Item :=
  if r.ended then []
  else (scanFrom r.ctx r.place r.rest).map .piece ++ [.stop (r.place.after r.rest)]

theorem items_of_none {r r' : Reader} (h : r.next = (none, r')) : r' = r ∧ r.items = [] := by
  unfold next at h
  split at h
  · next hended => exact ⟨(Prod.mk.inj h).2.symm, if_pos hended⟩
  · split at h
    · cases h
    · split at h <;> cases h

/-- **Every item is the first of those that are left,** and the others stay. -/
theorem items_of_some {r r' : Reader} {item : Item} (h : r.next = (some item, r')) :
    r.items = item :: r'.items := by
  obtain ⟨hscan, hafter⟩ := scanFrom_skipTrivia r.ctx r.place r.rest
  unfold next at h
  split at h
  · cases h
  · next hended =>
    rw [items, if_neg hended, hscan, hafter]
    split at h
    · next p hskip =>
      obtain ⟨hitem, rfl⟩ := Prod.mk.inj h
      rw [← Option.some.inj hitem, hskip, scanFrom]
      rfl
    · next p c cs hskip =>
      obtain ⟨hblank, hhash⟩ := head_skipTrivia hskip
      rw [hskip]
      split at h
      · next kind rest htoken =>
        obtain ⟨hitem, rfl⟩ := Prod.mk.inj h
        have hcs : rest ++ cs.drop rest.length = cs :=
          List.prefix_iff_eq_append.mp (prefix_of_scanToken htoken)
        have hplace : p.after (c :: cs) = (p.after (c :: rest)).after (cs.drop rest.length) := by
          rw [← Position.after_append, List.cons_append, hcs]
        have hpieces : scanFrom r.ctx p (c :: cs) =
            .token ⟨kind, String.ofList (c :: rest), p⟩ ::
              scanFrom (r.ctx.push kind) (p.after (c :: rest)) (cs.drop rest.length) := by
          rw [scanFrom, if_neg (by simp [hblank]), if_neg hhash, htoken]
        rw [← Option.some.inj hitem, items, if_neg hended, hpieces, hplace]
        rfl
      · next htoken =>
        obtain ⟨hitem, rfl⟩ := Prod.mk.inj h
        have hpieces : scanFrom r.ctx p (c :: cs) =
            .illegal c p :: scanFrom r.ctx (p.advance c) cs := by
          rw [scanFrom, if_neg (by simp [hblank]), if_neg hhash, htoken]
        rw [← Option.some.inj hitem, items, if_neg hended, hpieces]
        rfl

/-- Reading on to the end gives all items, and the reader stays at the end. -/
theorem drain_eq (r : Reader) : r.drain.1 = r.items ∧ r.drain.2.next = (none, r.drain.2) := by
  induction hn : r.burden using Nat.strongRecOn generalizing r with
  | _ n ih =>
    rcases hnext : r.next with ⟨_ | item, r'⟩
    · obtain ⟨rfl, hitems⟩ := items_of_none hnext
      rw [drain_of_none hnext, hitems]
      exact ⟨rfl, hnext⟩
    · obtain ⟨hdrain, hend⟩ := ih r'.burden (hn ▸ burden_next hnext) r' rfl
      rw [drain_of_some hnext, items_of_some hnext, hdrain]
      exact ⟨rfl, hend⟩

/-- **Reading a text to its end gives the pieces of its scan and then its end,** and no further
reading gives anything. -/
theorem drain_ofText [Text.Normalizer] (text : String) :
    (ofText text).drain.1 =
        (Scan.ofText text).pieces.map .piece ++ [.stop (Scan.ofText text).stop] ∧
      (ofText text).drain.2.next = (none, (ofText text).drain.2) :=
  drain_eq (ofText text)

end Reader

end PaveScript
