import Stepflow.Json.Reader
import Stepflow.Proofs.Field

/-!
# What is read from a text

A value is no larger than the text it was read from: its integers have numerals within the limit,
and a list has no more items than the text has characters.

Results:
1. `length_items`: every item of a list takes a character of the text.
2. `value_cases`: a text, a list, an object or an atom is read.
3. `Readable.item`, `Readable.field`, `Readable.fits`: the parts of a value that is read are read
   themselves, so no integer in it is beyond the limit.
4. `small_of_readBytes`: the fields of a body are small.
5. `textBody_plain`, `textBody_escape`: a text of plain characters, and a text that is one escape.
6. `readChars_field`: an object is read from a single field whose value is a text.
-/

namespace Stepflow.Json

/-- An integer within the limit, a list of at most `bound` items, or anything else. -/
def Small (bound : Nat) : Json → Prop
  | .int n => Numeral.fits n = true
  | .list items => items.length ≤ bound
  | _ => True

theorem Small.mono {bound top : Nat} {value : Json} (small : value.Small bound)
    (le : bound ≤ top) : value.Small top := by
  cases value with
  | list items => exact Nat.le_trans small le
  | int n => exact small
  | _ => trivial

/-- A value that is neither text, list nor object; an integer must be within the limit. -/
def Scalar : Json → Prop
  | .int n => Numeral.fits n = true
  | .str _ | .list _ | .obj _ => False
  | _ => True

theorem Scalar.small {value : Json} (scalar : value.Scalar) (bound : Nat) :
    value.Small bound := by
  cases value with
  | int n => exact scalar
  | list items => exact absurd scalar id
  | _ => trivial

/-! ## Numbers and words -/

theorem digits_of_wholeDigits? {s whole : List Char} {rest : Rest s}
    (h : wholeDigits? s = some (whole, rest)) : ∀ c ∈ whole, Text.isAsciiDigit c = true := by
  unfold wholeDigits? at h
  split at h
  · cases h
  · next c tail =>
    split at h
    · cases h
      intro d hd
      rw [List.mem_singleton.mp hd]
      rfl
    · split at h
      · next digit =>
        cases h
        intro d hd
        rcases List.mem_cons.mp hd with rfl | inside
        · exact digit
        · exact Numeral.isAsciiDigit_of_mem_takeWhile inside
      · cases h

theorem scalar_of_unsigned? {negative : Bool} {s : List Char} {found : Json} {left : Rest s}
    (h : unsigned? negative s = some (.ok (found, left))) : found.Scalar := by
  unfold unsigned? at h
  obtain ⟨⟨whole, rest⟩, digits, h⟩ := Option.bind_eq_some_iff.mp h
  simp only at h
  split at h
  · cases h
    trivial
  · split at h
    · cases h
      trivial
    · next noFraction =>
      split at h
      · cases h
      · next short =>
        cases h
        have empty : (fractionDigits rest.1).1 = [] := by simpa using noFraction
        rw [empty, List.append_nil]
        exact Numeral.fits_signed _ (Numeral.ofDigitChars_lt (digits_of_wholeDigits? digits))
          (Nat.le_of_not_lt short)

theorem scalar_of_words {word : List Char} {found : Json} (h : (word, found) ∈ words) :
    found.Scalar := by
  simp only [words, List.mem_cons, List.not_mem_nil, or_false, Prod.mk.injEq] at h
  rcases h with ⟨-, rfl⟩ | ⟨-, rfl⟩ | ⟨-, rfl⟩ | ⟨-, rfl⟩ | ⟨-, rfl⟩ | ⟨-, rfl⟩ <;> trivial

theorem scalar_of_word? {s : List Char} {found : Json} {left : Rest s}
    (h : word? s = some (found, left)) : found.Scalar := by
  unfold word? at h
  split at h
  · cases h
  · obtain ⟨⟨word, value⟩, mem, h⟩ := List.exists_of_findSome?_eq_some h
    simp only at h
    split at h
    · obtain ⟨_, -, same⟩ := Option.map_eq_some_iff.mp h
      cases same
      exact scalar_of_words mem
    · cases h

theorem scalar_of_atom {s : List Char} {found : Json} {left : Rest s}
    (h : atom s = .ok (found, left)) : found.Scalar := by
  unfold atom at h
  split at h
  · next word =>
    cases h
    exact scalar_of_word? word
  · split at h
    · split at h
      · next number =>
        cases h
        exact scalar_of_unsigned? number
      · cases h
      · cases h
    · cases number : unsigned? false s with
      | none =>
        rw [number] at h
        cases h
      | some result =>
        rw [number] at h
        cases h
        exact scalar_of_unsigned? number

/-! ## Lists and objects -/

/-- Every item of a list takes a character of the text at least. -/
theorem length_items {depth : Nat} {s : List Char} {found : List Json} {left : Rest s}
    (h : items depth s = .ok (found, left)) : found.length + left.1.length ≤ s.length := by
  rw [items] at h
  obtain ⟨⟨item, rest, shorter⟩, -, h⟩ := bind_eq_ok_iff.mp h
  have gap := (skip rest).2
  simp only at h
  split at h
  · cases h
    simp only [List.length_singleton]
    omega
  · split at h
    · next more shorter' _ =>
      have gap' := (skip more).2
      obtain ⟨⟨tail, rest', shorter''⟩, others, h⟩ := bind_eq_ok_iff.mp h
      -- The rest behind the comma is shorter, which is what the recursion goes down on.
      have ih := length_items others
      cases h
      simp only [List.length_cons] at ih ⊢
      omega
    · cases h
termination_by s.length

/-- How a value starts: a text, a list, an object or an atom. -/
theorem value_cases {depth : Nat} {s : List Char} {found : Json} {left : Rest s}
    (h : value depth s = .ok (found, left)) :
    (∃ text, found = .str text) ∨
    (∃ list, found = .list list ∧ (list = [] ∨ ∃ (inner : Nat) (body : List Char)
      (rest : Rest body), body.length ≤ s.length ∧ items inner body = .ok (list, rest))) ∨
    (∃ fields, found = .obj fields ∧ (fields = [] ∨ ∃ (inner : Nat) (body : List Char)
      (rest : Rest body), body.length ≤ s.length ∧ members inner [] body = .ok (fields, rest))) ∨
    atom s = .ok (found, left) := by
  rw [value] at h
  split at h
  · obtain ⟨_, -, h⟩ := bind_eq_ok_iff.mp h
    cases h
    exact .inl ⟨_, rfl⟩
  · split at h
    · next inside _ _ =>
      split at h
      · cases h
      · next inner =>
        have gap := (skip inside).2
        simp only at h
        split at h
        · cases h
          exact .inr (.inl ⟨[], rfl, .inl rfl⟩)
        · obtain ⟨_, list, h⟩ := bind_eq_ok_iff.mp h
          cases h
          exact .inr (.inl ⟨_, rfl, .inr ⟨inner, _, _, by omega, list⟩⟩)
    · split at h
      · next inside _ _ =>
        split at h
        · cases h
        · next inner =>
          have gap := (skip inside).2
          simp only at h
          split at h
          · cases h
            exact .inr (.inr (.inl ⟨[], rfl, .inl rfl⟩))
          · obtain ⟨_, object, h⟩ := bind_eq_ok_iff.mp h
            cases h
            exact .inr (.inr (.inl ⟨_, rfl, .inr ⟨inner, _, _, by omega, object⟩⟩))
      · exact .inr (.inr (.inr h))

/-- A value is small for the text it was read from. -/
theorem small_of_value {depth : Nat} {s : List Char} {found : Json} {left : Rest s}
    (h : value depth s = .ok (found, left)) : found.Small s.length := by
  rcases value_cases h with ⟨text, rfl⟩ | ⟨list, rfl, inside⟩ | ⟨fields, rfl, -⟩ | atom
  · trivial
  · rcases inside with rfl | ⟨inner, body, rest, shorter, read⟩
    · exact Nat.zero_le _
    · exact Nat.le_trans (Nat.le_of_add_right_le (length_items read)) shorter
  · trivial
  · exact (scalar_of_atom atom).small _

/-- What holds of every value that is read from no more than a text holds of the fields that are
read from it. -/
theorem forall_of_members {P : Json → Prop} {depth bound : Nat} {known all : List (String × Json)}
    {s : List Char} {left : Rest s} (h : members depth known s = .ok (all, left))
    (le : s.length ≤ bound)
    (read : ∀ (depth : Nat) (t : List Char) (found : Json) (left : Rest t), t.length ≤ bound →
      value depth t = .ok (found, left) → P found)
    (old : ∀ field ∈ known, P field.2) : ∀ field ∈ all, P field.2 := by
  rw [members] at h
  obtain ⟨⟨name, start, shorter⟩, -, h⟩ := bind_eq_ok_iff.mp h
  obtain ⟨⟨item, rest, shorter'⟩, first, h⟩ := bind_eq_ok_iff.mp h
  have gap := (skip rest).2
  have known' : ∀ field ∈ setField known name item, P field.2 :=
    forall_setField old (read _ _ _ _ (by omega) first)
  simp only at h
  split at h
  · cases h
    exact known'
  · split at h
    · next more shorter'' _ =>
      have gap' := (skip more).2
      obtain ⟨_, others, h⟩ := bind_eq_ok_iff.mp h
      have ih := forall_of_members others (by omega) read known'
      cases h
      exact ih
    · cases h
termination_by s.length

/-! ## Parts of a value -/

/-- A value that is read from some text. -/
def Readable (found : Json) : Prop :=
  ∃ (depth : Nat) (s : List Char) (left : Rest s), value depth s = .ok (found, left)

theorem readable_of_items {depth : Nat} {s : List Char} {found : List Json} {left : Rest s}
    (h : items depth s = .ok (found, left)) : ∀ item ∈ found, item.Readable := by
  rw [items] at h
  obtain ⟨⟨item, rest, shorter⟩, first, h⟩ := bind_eq_ok_iff.mp h
  have head : item.Readable := ⟨_, _, _, first⟩
  have gap := (skip rest).2
  simp only at h
  split at h
  · cases h
    exact List.forall_mem_singleton.mpr head
  · split at h
    · next more shorter' _ =>
      have gap' := (skip more).2
      obtain ⟨_, others, h⟩ := bind_eq_ok_iff.mp h
      have ih := readable_of_items others
      cases h
      exact List.forall_mem_cons.mpr ⟨head, ih⟩
    · cases h
termination_by s.length

/-- The items of a list that is read are read themselves. -/
theorem Readable.item {list : List Json} (h : (Json.list list).Readable) {item : Json}
    (mem : item ∈ list) : item.Readable := by
  obtain ⟨depth, s, left, read⟩ := h
  rcases value_cases read with ⟨_, ⟨⟩⟩ | ⟨_, ⟨⟩, inside⟩ | ⟨_, ⟨⟩, -⟩ | atom
  · rcases inside with rfl | ⟨_, _, _, -, read⟩
    · cases mem
    · exact readable_of_items read item mem
  · exact absurd (scalar_of_atom atom) id

/-- The fields of an object that is read are read themselves. -/
theorem Readable.field {fields : List (String × Json)} (h : (Json.obj fields).Readable)
    {field : String × Json} (mem : field ∈ fields) : field.2.Readable := by
  obtain ⟨depth, s, left, read⟩ := h
  rcases value_cases read with ⟨_, ⟨⟩⟩ | ⟨_, ⟨⟩, -⟩ | ⟨_, ⟨⟩, inside⟩ | atom
  · rcases inside with rfl | ⟨_, _, _, -, read⟩
    · cases mem
    · exact forall_of_members read (Nat.le_refl _) (fun _ _ _ _ _ part => ⟨_, _, _, part⟩)
        (fun _ none => absurd none List.not_mem_nil) field mem
  · exact absurd (scalar_of_atom atom) id

/-- An integer that is read has a numeral within the limit. -/
theorem Readable.fits {n : Int} (h : (Json.int n).Readable) : Numeral.fits n = true := by
  obtain ⟨depth, s, left, read⟩ := h
  exact small_of_value read

/-! ## Bodies -/

theorem length_ofCodePoint_le (n : Nat) : (Text.ofCodePoint n).length ≤ 2 := by
  unfold Text.ofCodePoint
  split
  · exact Nat.le_refl _
  · split
    · exact Nat.le_refl _
    · exact Nat.le_succ _

/-- A byte is decoded to two characters at most. -/
theorem length_decodeFrom {encoding : Encoding} {position skip : Nat} {bytes : List UInt8}
    {s : List Char} (h : encoding.decodeFrom position skip bytes = .ok s) :
    s.length ≤ 2 * bytes.length := by
  induction bytes generalizing position skip s with
  | nil =>
    cases h
    exact Nat.zero_le _
  | cons lead rest ih =>
    rw [List.length_cons]
    unfold Encoding.decodeFrom at h
    split at h
    · exact Nat.le_trans (ih h) (by omega)
    · split at h
      · cases h
      · next n size _ =>
        obtain ⟨others, tail, h⟩ := bind_eq_ok_iff.mp h
        have front := length_ofCodePoint_le n
        have back := ih tail
        cases h
        rw [List.length_append]
        omega

theorem length_decode {bytes : List UInt8} {s : List Char} (h : decode bytes = .ok s) :
    s.length ≤ 2 * bytes.length := by
  refine Nat.le_trans (length_decodeFrom h) (Nat.mul_le_mul_left _ ?_)
  rw [List.length_drop]
  exact Nat.sub_le _ _

theorem value_of_readChars {depth : Nat} {s : List Char} {found : Json}
    (h : readChars depth s = .ok found) :
    ∃ left, value depth (skip s).1 = .ok (found, left) := by
  unfold readChars at h
  simp only at h
  split at h
  · cases h
  · cases h
  · cases h
  · next result =>
    split at h
    · cases h
      exact ⟨_, result⟩
    · cases h

theorem readable_of_readChars {depth : Nat} {s : List Char} {found : Json}
    (h : readChars depth s = .ok found) : found.Readable := by
  obtain ⟨left, read⟩ := value_of_readChars h
  exact ⟨_, _, _, read⟩

theorem readable_of_read {s : String} {depth : Nat} {found : Json}
    (h : Json.read s depth = .ok found) : found.Readable := by
  unfold Json.read at h
  split at h
  · cases h
  · exact readable_of_readChars h

theorem readBytes_of_decode {bytes : List UInt8} {s : List Char} (decoded : decode bytes = .ok s)
    (depth : Nat) : readBytes bytes depth = readChars depth s := by
  rw [readBytes, decoded]

theorem readable_of_readBytes {bytes : List UInt8} {depth : Nat} {found : Json}
    (h : readBytes bytes depth = .ok found) : found.Readable := by
  unfold readBytes at h
  split at h
  · exact readable_of_readChars h
  · cases h

/-- The fields of a body are small for its bytes. -/
theorem small_of_readBytes {bytes : List UInt8} {depth : Nat} {fields : List (String × Json)}
    (h : readBytes bytes depth = .ok (.obj fields)) :
    ∀ field ∈ fields, field.2.Small (2 * bytes.length) := by
  unfold readBytes at h
  split at h
  · next s decoded =>
    -- What is in front of the value and inside it only gets shorter than the decoded text.
    have length := length_decode decoded
    have gap := (skip s).2
    obtain ⟨left, read⟩ := value_of_readChars h
    rcases value_cases read with ⟨_, ⟨⟩⟩ | ⟨_, ⟨⟩, -⟩ | ⟨_, ⟨⟩, inside⟩ | atom
    · rcases inside with rfl | ⟨inner, body, rest, shorter, object⟩
      · intro field mem
        cases mem
      · exact forall_of_members object (Nat.le_refl _)
          (fun _ _ _ _ le part => (small_of_value part).mono (by omega))
          fun _ mem => absurd mem List.not_mem_nil
    · exact absurd (scalar_of_atom atom) id
  · cases h

/-! ## Objects of one field -/

/-- What a reader finds and what it leaves, without the proof that this is less. -/
def bare {α : Type} {s : List Char} (result : Except Stop (α × Rest s)) :
    Except Stop (α × List Char) :=
  result.map fun found => (found.1, found.2.1)

theorem exists_of_bare {α : Type} {s left : List Char} {result : Except Stop (α × Rest s)} {a : α}
    (h : bare result = .ok (a, left)) : ∃ shorter, result = .ok (a, ⟨left, shorter⟩) := by
  cases result with
  | error stop => cases h
  | ok found =>
    cases h
    exact ⟨found.2.2, rfl⟩

/-- A character that needs no escape in a text. -/
def isPlain (c : Char) : Bool :=
  c != '"' && c != '\\' && 0x20 ≤ c.toNat

/-- Plain characters are read as they stand. -/
theorem textBody_plain (whole rest : List Char) {body : List Char}
    (plain : body.all isPlain = true) :
    bare (textBody whole (body ++ '"' :: rest)) = .ok (body, rest) := by
  induction body with
  | nil =>
    rw [List.nil_append, textBody]
    rfl
  | cons c body ih =>
    simp only [List.all_cons, isPlain, Bool.and_eq_true, bne_iff_ne, decide_eq_true_eq] at plain
    obtain ⟨⟨⟨notQuote, notEscape⟩, notControl⟩, behind⟩ := plain
    obtain ⟨_, read⟩ := exists_of_bare (ih behind)
    rw [List.cons_append, textBody]
    · rw [if_neg (Nat.not_lt_of_le notControl), read]
      rfl
    · exact notQuote
    · exact fun escape _ => notEscape escape
    · exact fun _ escape _ => notEscape escape
    · exact fun _ _ escape _ => notEscape escape

/-- An escape at the end of a text is read as its code unit, a half of a pair included. -/
theorem textBody_escape (whole rest : List Char) {a b c d : Char} {unit : Nat}
    (digits : hex4? a b c d = some unit) :
    bare (textBody whole ('\\' :: 'u' :: a :: b :: c :: d :: '"' :: rest)) =
      .ok (Text.ofCodePoint unit, rest) := by
  have escape : bare (unicodeEscape ('u' :: a :: b :: c :: d :: '"' :: rest)) =
      .ok (Text.ofCodePoint unit, '"' :: rest) := by
    simp only [unicodeEscape, codeUnit, digits, bind, Except.bind]
    split <;> rfl
  obtain ⟨_, escape⟩ := exists_of_bare escape
  rw [textBody, escape]
  simp only [bind, Except.bind]
  rw [textBody]
  simp [bare, Except.map, pure, Except.pure]

theorem fieldName_plain (rest : List Char) {name : List Char}
    (plain : name.all isPlain = true) :
    bare (fieldName ('"' :: (name ++ '"' :: ':' :: '"' :: rest))) =
      .ok (String.ofList name, '"' :: rest) := by
  obtain ⟨_, read⟩ := exists_of_bare (textBody_plain
    ('"' :: (name ++ '"' :: ':' :: '"' :: rest)) (':' :: '"' :: rest) plain)
  simp only [fieldName, behindChar?, beq_self_eq_true, if_true, bind, Except.bind, read]
  rfl

theorem readChars_members {depth : Nat} {s : List Char} {fields : List (String × Json)}
    (h : bare (members depth [] ('"' :: s)) = .ok (fields, [])) :
    readChars (depth + 1) ('\x7b' :: '"' :: s) = .ok (.obj fields) := by
  have object : bare (value (depth + 1) ('\x7b' :: '"' :: s)) = .ok (.obj fields, []) := by
    have noText : behindChar? '"' ('\x7b' :: '"' :: s) = none := rfl
    have noList : behindChar? '[' ('\x7b' :: '"' :: s) = none := rfl
    have opened : behindChar? '\x7b' ('\x7b' :: '"' :: s) =
        some ⟨'"' :: s, Nat.lt_succ_self _⟩ := rfl
    have noGap : skip ('"' :: s) = ⟨'"' :: s, Nat.le_refl _⟩ := rfl
    have notClosed : behindChar? '\x7d' ('"' :: s) = none := rfl
    obtain ⟨_, read⟩ := exists_of_bare h
    rw [value]
    simp only [noText, noList, opened]
    rw [noGap]
    simp only [notClosed, bind, Except.bind, read]
    rfl
  obtain ⟨shorter, object⟩ := exists_of_bare object
  have whole : value (depth + 1) (skip ('\x7b' :: '"' :: s)).1 =
      .ok (.obj fields, ⟨[], shorter⟩) := object
  unfold readChars
  simp only [whole]
  rfl

/-- An object is read from one field with a plain name, if its text is read and ends there. -/
theorem readChars_field {depth : Nat} {name rest body : List Char}
    (plain : name.all isPlain = true)
    (text : bare (textBody ('"' :: rest) rest) = .ok (body, ['\x7d'])) :
    readChars (depth + 1) ('\x7b' :: '"' :: (name ++ '"' :: ':' :: '"' :: rest)) =
      .ok (.obj [(String.ofList name, .str (String.ofList body))]) := by
  have found : bare (value depth ('"' :: rest)) =
      .ok (.str (String.ofList body), ['\x7d']) := by
    obtain ⟨_, read⟩ := exists_of_bare text
    rw [value]
    simp only [behindChar?, beq_self_eq_true, if_true, read]
    rfl
  obtain ⟨_, found⟩ := exists_of_bare found
  obtain ⟨_, named⟩ := exists_of_bare (fieldName_plain rest plain)
  refine readChars_members ?_
  rw [members, named]
  simp only [bind, Except.bind, found]
  rfl

end Stepflow.Json
