import Mathlib.Algebra.Group.Nat.Defs
import Mathlib.Data.List.TakeWhile
import Stepflow.Numeral

/-!
# Written numerals are read back

Results:
1. `readChars?_digits`, `readChars?_padded`: the tolerant reading of a written numeral is its integer,
   also with blanks around it.
2. `fits_of_readChars?`, `fits_of_readPlain`: an integer that a reading gives can be written.
3. `digits_append_dash_inj`: a numeral in front of a dash can be told from what follows it.
4. `write_injective`: integers are told apart by their numerals.
-/

namespace Stepflow.Numeral

open Text

/-! ## Characters of a numeral -/

/-- An ASCII digit counts with its own value. -/
theorem digitValue?_of_isDigit {c : Char} (h : c.isDigit = true) :
    digitValue? c = some (c.toNat - '0'.toNat) := by
  obtain ⟨low, high⟩ : '0'.toNat ≤ c.toNat ∧ c.toNat ≤ '9'.toNat := by
    simpa [Char.isDigit, UInt32.le_iff_toNat_le] using h
  have first : 0x30 ≤ c.toNat ∧ c.toNat < 0x30 + 10 := ⟨low, Nat.lt_succ_of_le high⟩
  unfold digitValue? digitZeros
  rw [List.find?_cons_of_pos (by simpa using first)]
  rfl

theorem isBlank_of_isDigit {c : Char} (h : c.isDigit = true) : isBlank c = false := by
  obtain ⟨low, high⟩ : '0'.toNat ≤ c.toNat ∧ c.toNat ≤ '9'.toNat := by
    simpa [Char.isDigit, UInt32.le_iff_toNat_le] using h
  change 48 ≤ c.toNat at low
  change c.toNat ≤ 57 at high
  simp [isBlank, isWhiteSpace]
  omega

theorem dash_not_mem_toDigits (n : Nat) : '-' ∉ Nat.toDigits 10 n := by
  intro h
  have := Nat.isDigit_of_mem_toDigits (by decide) (by decide) h
  exact absurd this (by decide)

/-- A numeral is made of digits, behind a minus sign if it has one. -/
theorem mem_digits {n : Int} {c : Char} (h : c ∈ digits n) : c = '-' ∨ c.isDigit = true := by
  cases n with
  | ofNat n => exact .inr (Nat.isDigit_of_mem_toDigits (by decide) (by decide) h)
  | negSucc n =>
    rcases List.mem_cons.mp h with rfl | inside
    · exact .inl rfl
    · exact .inr (Nat.isDigit_of_mem_toDigits (by decide) (by decide) inside)

theorem digits_ne_nil (n : Int) : digits n ≠ [] := by
  cases n with
  | ofNat n => exact Nat.toDigits_ne_nil
  | negSucc n => exact List.cons_ne_nil _ _

theorem write_ne_empty (n : Int) : write n ≠ "" := by
  intro h
  have empty := congrArg String.toList h
  rw [write, String.toList_ofList] at empty
  exact digits_ne_nil n empty

/-- A character that is neither a minus sign nor a digit is in no numeral. -/
theorem not_mem_digits {n : Int} {c : Char} (dash : c ≠ '-') (digit : c.isDigit = false) :
    c ∉ digits n := by
  intro h
  rcases mem_digits h with rfl | isDigit
  · exact dash rfl
  · rw [digit] at isDigit
    cases isDigit

/-! ## Reading back -/

/-- The values of a list of digits. -/
theorem mapM_digitValue? {s : List Char} (h : ∀ c ∈ s, c.isDigit = true) :
    s.mapM digitValue? = some (s.map fun c => c.toNat - '0'.toNat) := by
  induction s with
  | nil => rfl
  | cons c s ih =>
    rw [List.mapM_cons, digitValue?_of_isDigit (h c List.mem_cons_self),
      ih fun d hd => h d (List.mem_cons_of_mem _ hd)]
    rfl

theorem ofDigitValues_map (s : List Char) :
    ofDigitValues (s.map fun c => c.toNat - '0'.toNat) = Nat.ofDigitChars 10 s 0 := by
  rw [ofDigitValues, Nat.ofDigitChars_eq_foldl, List.foldl_map]

theorem digitValues?_of_not_mem {s : List Char} (whole : '_' ∉ s) :
    digitValues? s = group? s := by
  rw [digitValues?, List.splitOn_eq_singleton whole]
  cases group : group? s <;> simp [group]

theorem group?_of_isDigit {s : List Char} (filled : s ≠ []) (h : ∀ c ∈ s, c.isDigit = true) :
    group? s = some (s.map fun c => c.toNat - '0'.toNat) := by
  rw [group?, if_neg (by simpa using filled), mapM_digitValue? h]

theorem digitValues?_toDigits (n : Nat) :
    digitValues? (Nat.toDigits 10 n) =
      some ((Nat.toDigits 10 n).map fun c => c.toNat - '0'.toNat) := by
  rw [digitValues?_of_not_mem Nat.underscore_not_in_toDigits]
  exact group?_of_isDigit Nat.toDigits_ne_nil fun c hc =>
    Nat.isDigit_of_mem_toDigits (by decide) (by decide) hc

theorem length_toDigits_le {n : Nat} (h : n < 10 ^ maxDigits) :
    (Nat.toDigits 10 n).length ≤ maxDigits :=
  (Nat.length_toDigits_le_iff (by decide) (by decide)).mpr h

theorem splitSign_of_head {s : List Char} (minus : s.head? ≠ some '-') (plus : s.head? ≠ some '+') :
    splitSign s = (false, s) := by
  unfold splitSign
  split
  · exact absurd rfl minus
  · exact absurd rfl plus
  · rfl

theorem splitSign_toDigits (n : Nat) :
    splitSign (Nat.toDigits 10 n) = (false, Nat.toDigits 10 n) := by
  have digit : ∀ c ∈ (Nat.toDigits 10 n).head?, c.isDigit = true := fun c hc =>
    Nat.isDigit_of_mem_toDigits (by decide) (by decide) (List.mem_of_head? hc)
  refine splitSign_of_head (fun minus => ?_) fun plus => ?_
  · exact absurd (digit '-' minus) (by decide)
  · exact absurd (digit '+' plus) (by decide)

/-- A text without blanks, signs and underscores is read as one group of digits. -/
theorem read?_eq_group? {s : String} (blank : ∀ c ∈ s.toList, isBlank c = false)
    (mark : ∀ c ∈ s.toList, c ≠ '-' ∧ c ≠ '+' ∧ c ≠ '_') :
    read? s = (group? s.toList).bind fun values =>
      if values.length ≤ maxDigits then some (ofDigitValues values : Int) else none := by
  have minus : s.toList.head? ≠ some '-' := fun head => (mark _ (List.mem_of_head? head)).1 rfl
  have plus : s.toList.head? ≠ some '+' := fun head => (mark _ (List.mem_of_head? head)).2.1 rfl
  have whole : '_' ∉ s.toList := fun mem => (mark _ mem).2.2 rfl
  unfold read? readChars?
  simp only [trimBy_of_none blank, splitSign_of_head minus plus, digitValues?_of_not_mem whole]
  cases group? s.toList with
  | none => rfl
  | some values => rfl

theorem fits_iff {n : Int} : fits n = true ↔ n.natAbs < 10 ^ maxDigits := by
  rw [fits, decide_eq_true_iff, Nat.pow_eq]

/-- The tolerant reading of a written numeral is its integer. -/
theorem readChars?_digits {n : Int} (h : fits n = true) : readChars? (digits n) = some n := by
  have kept : trimBy isBlank (digits n) = digits n := by
    refine trimBy_of_none fun c hc => ?_
    rcases mem_digits hc with rfl | digit
    · decide
    · exact isBlank_of_isDigit digit
  have bound := fits_iff.mp h
  unfold readChars?
  rw [kept]
  cases n with
  | ofNat n =>
    have short : (Nat.toDigits 10 n).length ≤ maxDigits := length_toDigits_le bound
    simp only [digits, splitSign_toDigits, digitValues?_toDigits, List.length_map, if_pos short,
      ofDigitValues_map, Nat.ofDigitChars_ten_toDigits]
    rfl
  | negSucc n =>
    have short : (Nat.toDigits 10 (n + 1)).length ≤ maxDigits := length_toDigits_le bound
    simp only [digits, splitSign, digitValues?_toDigits, List.length_map, if_pos short,
      ofDigitValues_map, Nat.ofDigitChars_ten_toDigits]
    rfl

/-! ## Blanks around a numeral -/

section Blanks

variable {p : Char → Bool} {front s back : List Char}

theorem trimBy_append_left (all : ∀ c ∈ front, p c = true) :
    trimBy p (front ++ s) = trimBy p s := by
  rw [trimBy, trimBy, List.dropWhile_append_of_pos all]

theorem trimBy_append_right (all : ∀ c ∈ back, p c = true) :
    trimBy p (s ++ back) = trimBy p s := by
  unfold trimBy
  rw [List.dropWhile_append]
  split
  · next empty =>
    rw [List.isEmpty_iff.mp empty, List.dropWhile_eq_nil_iff.mpr all]
  · rw [List.reverse_append, List.dropWhile_append_of_pos (by simpa using all)]

end Blanks

/-- A text is the numeral of an integer with blanks around it. -/
def Padded (n : Int) (s : String) : Prop :=
  ∃ front back, (∀ c ∈ front, isBlank c = true) ∧ (∀ c ∈ back, isBlank c = true) ∧
    s.toList = front ++ digits n ++ back

theorem padded_write (n : Int) : Padded n (write n) :=
  ⟨[], [], nofun, nofun, by rw [write, String.toList_ofList]; simp⟩

theorem Padded.ne_empty {n : Int} {s : String} (padded : Padded n s) : s.toList ≠ [] := by
  obtain ⟨front, back, -, -, text⟩ := padded
  rw [text]
  simp [digits_ne_nil]

/-- A character that is no blank and in no numeral is in no padded one. -/
theorem Padded.not_mem {n : Int} {s : String} (padded : Padded n s) {c : Char}
    (plain : isBlank c = false) (dash : c ≠ '-') (digit : c.isDigit = false) : c ∉ s.toList := by
  obtain ⟨front, back, blankFront, blankBack, text⟩ := padded
  rw [text, List.mem_append, List.mem_append]
  rintro ((mem | mem) | mem)
  · exact absurd (blankFront c mem) (Bool.eq_false_iff.mp plain)
  · exact not_mem_digits dash digit mem
  · exact absurd (blankBack c mem) (Bool.eq_false_iff.mp plain)

/-- Blanks around a numeral do not matter. -/
theorem readChars?_padded {n : Int} {s : String} (h : fits n = true) (padded : Padded n s) :
    readChars? s.toList = some n := by
  obtain ⟨front, back, blankFront, blankBack, text⟩ := padded
  have trimmed : trimBy isBlank s.toList = trimBy isBlank (digits n) := by
    rw [text, trimBy_append_right blankBack, trimBy_append_left blankFront]
  rw [← readChars?_digits h]
  unfold readChars?
  rw [trimmed]

example : read? " -1000\t" = some (-1000) := by decide +kernel

/-! ## What is read can be written -/

theorem digitValue?_lt {c : Char} {value : Nat} (h : digitValue? c = some value) : value < 10 := by
  obtain ⟨first, found, rfl⟩ := Option.map_eq_some_iff.mp h
  have := List.find?_some found
  simp only [Bool.and_eq_true, decide_eq_true_eq] at this
  omega

theorem ofDigitValues_lt {values : List Nat} (h : ∀ value ∈ values, value < 10) :
    ofDigitValues values < 10 ^ values.length := by
  -- The fold is generalised over what it starts from, one digit longer each time.
  have step : ∀ (values : List Nat) (start : Nat), (∀ value ∈ values, value < 10) →
      values.foldl (fun n value => 10 * n + value) start <
        10 ^ values.length * (start + 1) := by
    intro values
    induction values with
    | nil => intro start _; simp
    | cons value rest ih =>
      intro start small
      have digit := small value List.mem_cons_self
      have tail := ih (10 * start + value) fun v hv => small v (List.mem_cons_of_mem _ hv)
      rw [List.foldl_cons, List.length_cons]
      calc _ < 10 ^ rest.length * (10 * start + value + 1) := tail
        _ ≤ 10 ^ rest.length * (10 * (start + 1)) := Nat.mul_le_mul_left _ (by omega)
        _ = 10 ^ (rest.length + 1) * (start + 1) := by rw [Nat.pow_succ, Nat.mul_assoc]
  have whole := step values 0 h
  rwa [Nat.zero_add, Nat.mul_one] at whole

/-- A result of a list of partial readings comes from one of them. -/
theorem exists_mem_of_mapM {α β : Type} {read : α → Option β} {items : List α} {found : List β}
    (h : items.mapM read = some found) {b : β} (hb : b ∈ found) :
    ∃ a ∈ items, read a = some b := by
  induction items generalizing found with
  | nil =>
    cases h
    cases hb
  | cons a items ih =>
    rw [List.mapM_cons] at h
    obtain ⟨first, readFirst, h⟩ := Option.bind_eq_some_iff.mp h
    obtain ⟨rest, readRest, h⟩ := Option.bind_eq_some_iff.mp h
    cases h
    rcases List.mem_cons.mp hb with rfl | inside
    · exact ⟨a, List.mem_cons_self, readFirst⟩
    · obtain ⟨c, mem, readC⟩ := ih readRest inside
      exact ⟨c, List.mem_cons_of_mem _ mem, readC⟩

theorem isSome_mapM_iff {α β : Type} {read : α → Option β} {items : List α} :
    (items.mapM read).isSome ↔ ∀ a ∈ items, (read a).isSome := by
  induction items with
  | nil => simp
  | cons a rest ih =>
    rw [List.mapM_cons, List.forall_mem_cons, ← ih]
    cases read a with
    | none => simp
    | some b => cases rest.mapM read <;> simp

theorem length_of_mapM {α β : Type} {read : α → Option β} {items : List α} {found : List β}
    (h : items.mapM read = some found) : found.length = items.length := by
  induction items generalizing found with
  | nil =>
    cases h
    rfl
  | cons a rest ih =>
    rw [List.mapM_cons] at h
    obtain ⟨first, -, h⟩ := Option.bind_eq_some_iff.mp h
    obtain ⟨others, readRest, h⟩ := Option.bind_eq_some_iff.mp h
    cases h
    rw [List.length_cons, List.length_cons, ih readRest]

theorem group?_lt {s : List Char} {values : List Nat} (h : group? s = some values) :
    ∀ value ∈ values, value < 10 := by
  unfold group? at h
  split at h
  · cases h
  · intro value hv
    obtain ⟨c, -, read⟩ := exists_mem_of_mapM h hv
    exact digitValue?_lt read

theorem digitValues?_lt {s : List Char} {values : List Nat} (h : digitValues? s = some values) :
    ∀ value ∈ values, value < 10 := by
  obtain ⟨groups, found, rfl⟩ := Option.map_eq_some_iff.mp h
  intro value hv
  obtain ⟨group, inGroups, inGroup⟩ := List.mem_flatten.mp hv
  obtain ⟨part, -, read⟩ := exists_mem_of_mapM found inGroups
  exact group?_lt read value inGroup

theorem natAbs_signed (negative : Bool) (magnitude : Nat) :
    (signed negative magnitude).natAbs = magnitude := by
  cases negative with
  | false => rfl
  | true => exact Int.natAbs_neg magnitude

theorem fits_signed (negative : Bool) {magnitude length : Nat} (small : magnitude < 10 ^ length)
    (short : length ≤ maxDigits) : fits (signed negative magnitude) = true := by
  rw [fits_iff, natAbs_signed]
  exact Nat.lt_of_lt_of_le small (Nat.pow_le_pow_right (by decide) short)

/-- An integer that the tolerant reading gives has a numeral within the limit. -/
theorem fits_of_readChars? {s : List Char} {n : Int} (h : readChars? s = some n) :
    fits n = true := by
  unfold readChars? at h
  simp only at h
  split at h
  · next values found =>
    split at h
    · next short =>
      cases h
      exact fits_signed _ (ofDigitValues_lt (digitValues?_lt found)) short
    · cases h
  · cases h

/-- A list of digits stands for less than the power of ten of its length. -/
theorem ofDigitChars_lt {s : List Char} (digits : ∀ c ∈ s, isAsciiDigit c = true) :
    Nat.ofDigitChars 10 s 0 < 10 ^ s.length := by
  have value : ∀ v ∈ s.map fun c => c.toNat - '0'.toNat, v < 10 := by
    intro v hv
    obtain ⟨c, hc, rfl⟩ := List.mem_map.mp hv
    have digit : digitValue? c = some (c.toNat - '0'.toNat) :=
      digitValue?_of_isDigit (digits c hc)
    exact digitValue?_lt digit
  rw [← ofDigitValues_map, ← List.length_map (f := fun c : Char => c.toNat - '0'.toNat)]
  exact ofDigitValues_lt value

theorem isAsciiDigit_of_mem_takeWhile {s : List Char} {c : Char}
    (h : c ∈ s.takeWhile isAsciiDigit) : isAsciiDigit c = true :=
  List.all_eq_true.mp List.all_takeWhile c h

theorem fits_of_readCanonical {s : List Char} {n : Int} (h : readCanonical s = .ok n) :
    fits n = true := by
  unfold readCanonical at h
  simp only at h
  generalize (if (s.head? == some '-') = true then s.tail else s) = body at h
  split at h
  · cases h
  · split at h
    · split at h
      · cases h
        exact fits_iff.mpr (Nat.pow_pos (by decide))
      · cases h
    · split at h
      · cases h
      · next short =>
        split at h
        · cases h
        · cases h
          exact fits_signed _ (ofDigitChars_lt fun c hc => isAsciiDigit_of_mem_takeWhile hc)
            (Nat.le_of_not_lt short)

/-- An integer that the plain reading gives has a numeral within the limit. -/
theorem fits_of_readPlain {s : String} {n : Int} (h : readPlain s = .ok n) : fits n = true := by
  unfold readPlain readPlainChars at h
  split at h
  · next canonical =>
    cases h
    exact fits_of_readCanonical canonical
  · cases h
  · split at h
    · next tidied =>
      cases h
      obtain ⟨text, -, canonical⟩ := Option.map_eq_some_iff.mp tidied
      exact fits_of_readCanonical canonical
    · cases h

/-! ## Numerals in front of a dash -/

theorem toDigits_injective {m n : Nat} (h : Nat.toDigits 10 m = Nat.toDigits 10 n) : m = n := by
  rw [← Nat.ofDigitChars_ten_toDigits (n := m), h, Nat.ofDigitChars_ten_toDigits]

theorem toDigits_append_dash_inj {m n : Nat} {s t : List Char}
    (h : Nat.toDigits 10 m ++ '-' :: s = Nat.toDigits 10 n ++ '-' :: t) : m = n ∧ s = t := by
  have cut := congrArg (List.splitOn '-') h
  rw [List.splitOn_append_cons_self_of_not_mem (dash_not_mem_toDigits m),
    List.splitOn_append_cons_self_of_not_mem (dash_not_mem_toDigits n)] at cut
  have same := List.head_eq_of_cons_eq cut
  rw [same] at h
  exact ⟨toDigits_injective same, List.tail_eq_of_cons_eq (List.append_cancel_left h)⟩

theorem dash_not_head (n : Nat) (s t : List Char) : Nat.toDigits 10 n ++ s ≠ '-' :: t := by
  intro h
  cases written : Nat.toDigits 10 n with
  | nil => exact Nat.toDigits_ne_nil written
  | cons c rest =>
    rw [written] at h
    cases h
    exact dash_not_mem_toDigits n (written ▸ List.mem_cons_self)

/-- A numeral in front of a dash can be told from what follows it. -/
theorem digits_append_dash_inj {m n : Int} {s t : List Char}
    (h : digits m ++ '-' :: s = digits n ++ '-' :: t) : m = n ∧ s = t := by
  cases m with
  | ofNat m =>
    cases n with
    | ofNat n =>
      obtain ⟨same, rest⟩ := toDigits_append_dash_inj h
      exact ⟨congrArg Int.ofNat same, rest⟩
    | negSucc n => exact absurd h (dash_not_head m _ _)
  | negSucc m =>
    cases n with
    | ofNat n => exact absurd h.symm (dash_not_head n _ _)
    | negSucc n =>
      obtain ⟨same, rest⟩ := toDigits_append_dash_inj (List.tail_eq_of_cons_eq h)
      exact ⟨congrArg Int.negSucc (Nat.succ.inj same), rest⟩

/-- Integers are told apart by their numerals. -/
theorem write_injective : Function.Injective write := by
  intro m n same
  have marked : digits m ++ '-' :: [] = digits n ++ '-' :: [] := by
    rw [String.ofList_injective same]
  exact (digits_append_dash_inj marked).1

end Stepflow.Numeral
