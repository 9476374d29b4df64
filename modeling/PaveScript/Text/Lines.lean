/-!
# Lines and blanks

Lines end in a line feed, which a carriage return may precede; neither belongs to the line. A text
is blank when it holds nothing but white space of the Unicode standard.
-/

namespace PaveScript.Text

/-- Whether a character is white space. -/
def isBlankChar (c : Char) : Bool :=
  let n := c.toNat
  (9 ≤ n && n ≤ 13) || n == 0x20 || n == 0x85 || n == 0xA0 || n == 0x1680 ||
    (0x2000 ≤ n && n ≤ 0x200A) || n == 0x2028 || n == 0x2029 || n == 0x202F || n == 0x205F ||
    n == 0x3000

/-- Whether a text holds nothing but white space. -/
def isBlank (s : String) : Bool := s.toList.all isBlankChar

/-- A text without the white space at its beginning and its end. -/
def trim (cs : List Char) : List Char :=
  ((cs.dropWhile isBlankChar).reverse.dropWhile isBlankChar).reverse

/-- A text between characters that are no white space stays as it is. -/
theorem trim_eq_self {cs : List Char} (hhead : ∀ c ∈ cs.head?, isBlankChar c = false)
    (hlast : ∀ c ∈ cs.getLast?, isBlankChar c = false) : trim cs = cs := by
  have hdrop : ∀ {ds : List Char}, (∀ c ∈ ds.head?, isBlankChar c = false) →
      ds.dropWhile isBlankChar = ds := by
    intro ds hds
    cases ds with
    | nil => rfl
    | cons d ds => exact List.dropWhile_cons_of_neg (by simp [hds d rfl])
  rw [trim, hdrop hhead, hdrop (by rwa [List.head?_reverse]), List.reverse_reverse]

/-- A line without the carriage return that ends it. -/
def dropCarriageReturn (line : List Char) : List Char :=
  match line.reverse with
  | '\r' :: rest => rest.reverse
  | _ => line

/-- The lines of a text; `current` holds the characters of the open line in reverse. -/
def linesFrom (current : List Char) : List Char → List (List Char)
  | [] => if current.isEmpty then [] else [current.reverse]
  | c :: rest =>
    if c = '\n' then dropCarriageReturn current.reverse :: linesFrom [] rest
    else linesFrom (c :: current) rest

/-- The lines of a text. A carriage return at the very end of the text stays in its line. -/
def lines (s : String) : List String :=
  (linesFrom [] s.toList).map String.ofList

end PaveScript.Text
