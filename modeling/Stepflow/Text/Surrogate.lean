/-!
# Lone surrogates

A JSON text may hold the escape of a surrogate that belongs to no pair, and no character
stands for a surrogate. A text spells it with two characters: `surrogateMark`, a code point
that Unicode sets aside as no character, and a private use character `surrogateLift` code
points above the surrogate. The mark itself is written twice. So a text has one spelling, and
texts are compared and copied as they stand. `codePoints` reads the spelling where it matters:
a quoted text shows the escape of a surrogate, a size counts code points, and `hasSurrogate`
tells the texts that UTF-8 cannot carry.

Every list of code points is read back from its spelling (`codePoints_spelling`), and characters
other than the mark spell themselves (`codePoints_of_not_mem`).
-/

namespace Stepflow.Text

/-- The first character of the spelling of a surrogate. -/
def surrogateMark : Char := Char.ofNat 0x9FFFE

/-- How far above a surrogate the second character of its spelling lies. -/
def surrogateLift : Nat := 0x100000

def isSurrogate (n : Nat) : Bool :=
  0xD800 ≤ n && n < 0xE000

/-- The spelling of a code point: its character, unless it is a surrogate or the mark. -/
def ofCodePoint (n : Nat) : List Char :=
  if isSurrogate n then [surrogateMark, Char.ofNat (n + surrogateLift)]
  else if Char.ofNat n == surrogateMark then [surrogateMark, surrogateMark]
  else [Char.ofNat n]

def spelling (points : List Nat) : List Char :=
  points.flatMap ofCodePoint

/-- The text that spells the characters of a string. -/
def spelled (s : String) : String :=
  String.ofList (spelling (s.toList.map Char.toNat))

/-- The code point that the mark and the character behind it spell. -/
def markedCodePoint? (c : Char) : Option Nat :=
  if c == surrogateMark then some surrogateMark.toNat
  else if isSurrogate (c.toNat - surrogateLift) then some (c.toNat - surrogateLift)
  else none

/-- The code points that characters spell. A mark that spells nothing stands for itself. -/
def codePoints : List Char → List Nat
  | [] => []
  | [c] => [c.toNat]
  | c :: d :: s =>
    match if c == surrogateMark then markedCodePoint? d else none with
    | some n => n :: codePoints s
    | none => c.toNat :: codePoints (d :: s)

def hasSurrogate (s : String) : Bool :=
  (codePoints s.toList).any isSurrogate

/-- A character other than the mark spells itself, whatever follows it. -/
theorem codePoints_cons {c : Char} (h : c ≠ surrogateMark) (s : List Char) :
    codePoints (c :: s) = c.toNat :: codePoints s := by
  cases s with
  | nil => rfl
  | cons d s => simp [codePoints, h]

/-- Characters without the mark spell themselves. -/
theorem codePoints_of_not_mem {s : List Char} (h : surrogateMark ∉ s) :
    codePoints s = s.map Char.toNat := by
  induction s with
  | nil => rfl
  | cons c s ih =>
    have head : c ≠ surrogateMark := fun e => h (e ▸ List.mem_cons_self)
    rw [codePoints_cons head, ih fun m => h (List.mem_cons_of_mem _ m), List.map_cons]

/-- A code point is read back from its spelling, whatever follows it. -/
theorem codePoints_ofCodePoint {n : Nat} (h : n < 0x110000) (s : List Char) :
    codePoints (ofCodePoint n ++ s) = n :: codePoints s := by
  have value {m : Nat} (valid : m.isValidChar) : (Char.ofNat m).toNat = m := by
    rw [Char.ofNat, dif_pos valid]
    rfl
  rw [ofCodePoint]
  split
  · next surrogate =>
    have bounds : 0xD800 ≤ n ∧ n < 0xE000 := by simpa [isSurrogate] using surrogate
    have lifted := value (m := n + surrogateLift) (by
      simp only [Nat.isValidChar, surrogateLift]
      omega)
    have other : Char.ofNat (n + surrogateLift) ≠ surrogateMark := fun e => by
      have same := congrArg Char.toNat e
      rw [lifted, show surrogateMark.toNat = 0x9FFFE from rfl, surrogateLift] at same
      omega
    simp [codePoints, markedCodePoint?, other, lifted, surrogate]
  · next ordinary =>
    have outside : ¬(0xD800 ≤ n ∧ n < 0xE000) := by simpa [isSurrogate] using ordinary
    have same := value (m := n) (by
      simp only [Nat.isValidChar]
      omega)
    split
    · next mark =>
      have : surrogateMark.toNat = n := by rw [← eq_of_beq mark, same]
      simp [codePoints, markedCodePoint?, this]
    · next plain =>
      rw [List.singleton_append, codePoints_cons (fun e => plain (beq_iff_eq.mpr e)), same]

/-- Every list of code points is read back from its spelling. -/
theorem codePoints_spelling {points : List Nat} (h : ∀ n ∈ points, n < 0x110000) :
    codePoints (spelling points) = points := by
  induction points with
  | nil => rfl
  | cons n rest ih =>
    rw [spelling, List.flatMap_cons, codePoints_ofCodePoint (h n List.mem_cons_self)]
    exact congrArg (n :: ·) (ih fun m hm => h m (List.mem_cons_of_mem _ hm))

example : codePoints (spelling [0x9FFFE, 0x10DC00]) = [0x9FFFE, 0x10DC00] := by decide +kernel

/-- No character is a surrogate, so a text without the mark holds none. -/
theorem hasSurrogate_of_not_mem {s : String} (h : surrogateMark ∉ s.toList) :
    hasSurrogate s = false := by
  rw [hasSurrogate, codePoints_of_not_mem h]
  simp only [List.any_map, List.any_eq_false, Function.comp_apply]
  intro c _
  have := c.valid
  simp only [UInt32.isValidChar, Nat.isValidChar] at this
  simp only [isSurrogate, Bool.and_eq_true, decide_eq_true_eq, Char.toNat]
  omega

end Stepflow.Text
