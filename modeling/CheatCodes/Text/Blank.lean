/-!
Blank characters are those with the property White_Space. Text is cut at separators into pieces;
words are the pieces between blanks that hold something.
-/
namespace CheatCodes.Text

/-- The property White_Space: twenty-five characters. -/
def isBlank (c : Char) : Bool :=
  let code := c.toNat
  (0x09 ≤ code && code ≤ 0x0D) || code == 0x20 || code == 0x85 || code == 0xA0 || code == 0x1680 ||
    (0x2000 ≤ code && code ≤ 0x200A) || code == 0x2028 || code == 0x2029 || code == 0x202F ||
    code == 0x205F || code == 0x3000

def trim (cs : List Char) : List Char :=
  ((cs.dropWhile isBlank).reverse.dropWhile isBlank).reverse

theorem trim_ne_nil {c : Char} (dark : isBlank c = false) (cs : List Char) :
    trim (c :: cs) ≠ [] := by
  simp only [trim, List.dropWhile_cons, dark, Bool.false_eq_true, if_false, List.reverse_cons,
    List.dropWhile_append]
  split <;> simp

/-- The pieces between separators: one more than there are separators. -/
def pieces (separates : Char → Bool) : List Char → List (List Char)
  | [] => [[]]
  | c :: cs =>
    if separates c then [] :: pieces separates cs
    else (pieces separates cs).modifyHead (c :: ·)

theorem pieces_ne_nil (separates : Char → Bool) (cs : List Char) : pieces separates cs ≠ [] := by
  induction cs with
  | nil => simp [pieces]
  | cons c cs ih =>
    by_cases h : separates c
    · simp [pieces, h]
    · simpa [pieces, h, List.modifyHead_eq_nil_iff] using ih

def words (cs : List Char) : List (List Char) :=
  (pieces isBlank cs).filter (!·.isEmpty)

end CheatCodes.Text
