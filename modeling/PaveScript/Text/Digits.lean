/-!
# Digits

Reading and writing natural numbers as decimal digits, and the character classes of the number
forms. Only ASCII digits count: the languages read here admit no others.

## Termination

`decimal` divides by ten; everything else folds over its list.
-/

namespace PaveScript.Digits

/-- The value of a decimal digit. Other characters have the value zero. -/
def valueOf (c : Char) : Nat :=
  if c.isDigit then c.toNat - 48 else 0

/-- The digit of a number below ten. -/
def charOf (d : Nat) : Char :=
  Char.ofNat (48 + d)

/-- The number that a list of decimal digits denotes; the empty list denotes zero. -/
def value (cs : List Char) : Nat :=
  cs.foldl (fun n c => n * 10 + valueOf c) 0

/-- The decimal digits of a number, without leading zeros; zero is one digit. -/
def decimal (n : Nat) : List Char :=
  if n < 10 then [charOf n] else decimal (n / 10) ++ [charOf (n % 10)]
termination_by n
decreasing_by exact Nat.div_lt_self (by omega) (by omega)

/-- A digit written and read is the same digit. -/
theorem valueOf_charOf {d : Nat} (h : d < 10) : valueOf (charOf d) = d := by
  have all : ∀ e ∈ List.range 10, valueOf (charOf e) = e := by decide
  exact all d (List.mem_range.mpr h)

theorem isDigit_charOf {d : Nat} (h : d < 10) : (charOf d).isDigit = true := by
  have all : ∀ e ∈ List.range 10, (charOf e).isDigit = true := by decide
  exact all d (List.mem_range.mpr h)

theorem value_append_singleton (cs : List Char) (c : Char) :
    value (cs ++ [c]) = value cs * 10 + valueOf c := by
  simp [value]

/-- **A number written in decimal and read back is the same number.** -/
theorem value_decimal (n : Nat) : value (decimal n) = n := by
  induction n using Nat.strongRecOn with
  | _ n ih =>
    rw [decimal]
    split
    · next h => simp [value, valueOf_charOf h]
    · next h =>
      rw [value_append_singleton, ih (n / 10) (Nat.div_lt_self (by omega) (by omega)),
        valueOf_charOf (Nat.mod_lt _ (by omega))]
      omega

/-- A written number consists of digits. -/
theorem isDigit_of_mem_decimal {n : Nat} {c : Char} (h : c ∈ decimal n) : c.isDigit = true := by
  induction n using Nat.strongRecOn with
  | _ n ih =>
    rw [decimal] at h
    split at h
    · next hn =>
      rw [List.mem_singleton] at h
      exact h ▸ isDigit_charOf hn
    · next hn =>
      rcases List.mem_append.mp h with h | h
      · exact ih (n / 10) (Nat.div_lt_self (by omega) (by omega)) h
      · rw [List.mem_singleton] at h
        exact h ▸ isDigit_charOf (Nat.mod_lt _ (by omega))

theorem decimal_ne_nil (n : Nat) : decimal n ≠ [] := by
  rw [decimal]
  split <;> simp

/-- The decimal text of a number. -/
def text (n : Nat) : String :=
  String.ofList (decimal n)

/-- The decimal text of an integer: a minus sign stands before the digits of a negative one. -/
def intText (i : Int) : String :=
  if i < 0 then "-" ++ text i.natAbs else text i.natAbs

/-- The value of a hexadecimal digit of either case. -/
def hexValue? (c : Char) : Option Nat :=
  if c.isDigit then some (c.toNat - 48)
  else if 'a' ≤ c && c ≤ 'f' then some (c.toNat - 87)
  else if 'A' ≤ c && c ≤ 'F' then some (c.toNat - 55)
  else none

/-- Whether a character is a hexadecimal digit of either case. -/
def isHex (c : Char) : Bool :=
  (hexValue? c).isSome

end PaveScript.Digits
