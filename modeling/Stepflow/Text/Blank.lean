/-!
# Blank characters

Two sets of white space are in use. `isWhiteSpace` is the `White_Space` property
of Unicode. `isBlank` adds the four information separators U+001C to U+001F, which
that property leaves out. Trimming takes the set as a parameter.
-/

namespace Stepflow.Text

/-- The `White_Space` property of Unicode. -/
def isWhiteSpace (c : Char) : Bool :=
  let n := c.toNat
  (0x09 ≤ n && n ≤ 0x0D) || n == 0x20 || n == 0x85 || n == 0xA0 || n == 0x1680 ||
    (0x2000 ≤ n && n ≤ 0x200A) || n == 0x2028 || n == 0x2029 || n == 0x202F ||
    n == 0x205F || n == 0x3000

/-- A blank character: white space, or one of the information separators. The
zero-width space U+200B and the byte order mark U+FEFF are not blank. -/
def isBlank (c : Char) : Bool :=
  isWhiteSpace c || (0x1C ≤ c.toNat && c.toNat ≤ 0x1F)

/-- `s` without the longest runs at its two ends whose characters satisfy `p`. -/
def trimBy (p : Char → Bool) (s : List Char) : List Char :=
  ((s.dropWhile p).reverse.dropWhile p).reverse

/-- A text that holds blank characters only; the empty text is one. -/
def blank (s : String) : Bool :=
  s.toList.all isBlank

/-- Trimming removes nothing from a text whose ends are kept. -/
theorem trimBy_of_none {p : Char → Bool} {s : List Char} (h : ∀ c ∈ s, p c = false) :
    trimBy p s = s := by
  have keep : ∀ t : List Char, (∀ c ∈ t, p c = false) → t.dropWhile p = t := by
    intro t ht
    cases t with
    | nil => rfl
    | cons c t => simp [ht c (List.mem_cons_self)]
  have back : ∀ c ∈ s.reverse, p c = false := fun c hc => h c (List.mem_reverse.1 hc)
  simp [trimBy, keep s h, keep s.reverse back]

end Stepflow.Text
