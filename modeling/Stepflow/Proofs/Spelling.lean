import Stepflow.Proofs.Dependencies

/-!
# Spellings of a dependency list

A dependency list comes as a text, a number, or a list of either, and each of its integers can be
spelled in several ways: as an integer, as a binary64 number that equals it, and as a numeral with blanks
around it. What a list is read as is one of its own spellings, as a list of integers and as a text, so
reading it again changes nothing.

Results:
1. `orders?_eq_none_iff`: which values are no list at all.
2. `fits_of_orders?`: the integers of a list can be written.
3. `orders?_entries`: a list of spellings is read as the integers that they spell.
4. `orders?_canonical`: all together.
-/

namespace Stepflow.Dependencies

/-- There is no list in null, false, the empty text, and a number that equals zero. -/
theorem orders?_eq_none_iff {value : Json} :
    orders? value = none ↔
      value = .null ∨ value = .bool false ∨ value = .str "" ∨ value = .int 0 ∨
        ∃ x, value = .float x ∧ x.Equals 0 := by
  cases value with
  | bool b => cases b <;> simp [orders?]
  | float x => simp [orders?, Binary64.isZero_iff]
  | _ => simp [orders?]

/-- The integers that stand in a value as such: the value itself, or items of it. -/
inductive Holds : Json → Int → Prop
  | alone {n : Int} : Holds (.int n) n
  | item {n : Int} {items : List Json} : .int n ∈ items → Holds (.list items) n

/-- The integers of a list can be written, if those that stand in it as such can. -/
theorem fits_of_orders? {value : Json} (small : ∀ n, Holds value n → Numeral.fits n = true)
    {orders : List Int} (h : orders? value = some orders) :
    ∀ n ∈ orders, Numeral.fits n = true := by
  cases value with
  | null => cases h
  | bool b =>
    cases b with
    | false => cases h
    | true =>
      cases h
      exact List.forall_mem_nil _
  | int k =>
    simp only [orders?] at h
    split at h
    · cases h
    · cases h
      exact List.forall_mem_singleton.mpr (small k .alone)
  | float x =>
    simp only [orders?] at h
    split at h
    · cases h
    · cases h
      intro n hn
      exact Binary64.fits_of_whole? (Option.mem_toList.mp hn)
  | str s =>
    simp only [orders?] at h
    split at h
    · cases h
    · cases h
      intro n hn
      obtain ⟨part, -, read⟩ := List.mem_filterMap.mp hn
      exact Numeral.fits_of_readChars? read
  | list items =>
    cases h
    intro n hn
    obtain ⟨item, mem, read⟩ := List.mem_filterMap.mp hn
    exact Json.fits_of_integer? read fun k same => small k (.item (same ▸ mem))
  | obj fields =>
    cases h
    exact List.forall_mem_nil _

/-- A value spells an integer: it is the integer, a number that equals it, or its numeral with blanks
around it. -/
inductive Entry (n : Int) : Json → Prop
  | integer : Entry n (.int n)
  | number {x : Binary64} : x.Equals n → Entry n (.float x)
  | text {s : String} : Numeral.fits n = true → Numeral.Padded n s → Entry n (.str s)

theorem Entry.integer? {n : Int} {value : Json} (entry : Entry n value) :
    value.integer? = some n := by
  cases entry with
  | integer => rfl
  | number equal => exact Binary64.whole?_eq_some_iff.mpr equal
  | text fits padded => exact Numeral.readChars?_padded fits padded

/-- A list of spellings names the integers that they spell. -/
theorem orders?_entries {orders : List Int} {items : List Json}
    (entries : List.Forall₂ Entry orders items) : orders? (.list items) = some orders :=
  congrArg some (filterMap_eq_of_forall₂ (entries.imp fun _ _ entry => entry.integer?))

/-- What a value is read as is read again as it is, as a list and, unless it is empty, as a text. All
spellings of a list of integers, item by item or with commas between them, are read as this list. -/
theorem orders?_canonical :
    (∀ value, (∀ n, Holds value n → Numeral.fits n = true) →
      (orders? value = none ↔
        value = .null ∨ value = .bool false ∨ value = .str "" ∨ value = .int 0 ∨
          ∃ x, value = .float x ∧ x.Equals 0) ∧
      ∀ orders, orders? value = some orders → orders ≠ [] →
        orders? (.list (orders.map .int)) = some orders ∧
          orders? (.str (write orders)) = some orders) ∧
    ∀ orders, orders ≠ [] →
      (∀ items, List.Forall₂ Entry orders items → orders? (.list items) = some orders) ∧
      ∀ parts, List.Forall₂ Numeral.Padded orders parts →
        (∀ n ∈ orders, Numeral.fits n = true) →
          orders? (.str (",".intercalate parts)) = some orders := by
  refine ⟨fun value small => ⟨orders?_eq_none_iff, fun orders read filled => ⟨?_, ?_⟩⟩,
    fun orders filled => ⟨fun items => orders?_entries, fun parts => orders?_parts filled⟩⟩
  · refine orders?_entries ?_
    rw [List.forall₂_map_right_iff, List.forall₂_same]
    exact fun n _ => .integer
  · exact orders?_write filled (fits_of_orders? small read)

/-- A text with an entry that is no numeral, an empty one, and a digit of another script, and the same
list spelled item by item. The number is -3, and the blank behind the zero is an em space. -/
theorem medley_canonical :
    orders? (.str "0, x,-3,,٣") = some [0, -3, 3] ∧
      orders? (.list [.int 0, .int (-3), .int 3]) = some [0, -3, 3] ∧
      orders? (.str (write [0, -3, 3])) = some [0, -3, 3] ∧
      orders? (.list [.str "\t0\u2003", .float ⟨0xC008000000000000⟩, .int 3]) = some [0, -3, 3] ∧
      orders? (.str (",".intercalate ["\t0\u2003", "-3", "\n3"])) = some [0, -3, 3] := by
  have small : ∀ n ∈ ([0, -3, 3] : List Int), Numeral.fits n = true := by decide +kernel
  have zero : Numeral.Padded 0 "\t0\u2003" := ⟨['\t'], ['\u2003'], List.forall_mem_singleton.mpr rfl,
    List.forall_mem_singleton.mpr rfl, rfl⟩
  have three : Numeral.Padded 3 "\n3" := ⟨['\n'], [], List.forall_mem_singleton.mpr rfl, nofun, rfl⟩
  have number : (⟨0xC008000000000000⟩ : Binary64).Equals (-3) :=
    Binary64.whole?_eq_some_iff.mp (by decide +kernel)
  have read : orders? (.str "0, x,-3,,٣") = some [0, -3, 3] := by decide +kernel
  obtain ⟨again, spelled⟩ := orders?_canonical
  obtain ⟨asList, asText⟩ := (again _ fun n held => by cases held).2 _ read (List.cons_ne_nil _ _)
  obtain ⟨items, parts⟩ := spelled [0, -3, 3] (List.cons_ne_nil _ _)
  refine ⟨read, asList, asText, items _ ?_, parts _ ?_ small⟩
  · exact .cons (.text (small 0 List.mem_cons_self) zero) (.cons (.number number) (.cons .integer .nil))
  · exact .cons zero (.cons (Numeral.padded_write (-3)) (.cons three .nil))

end Stepflow.Dependencies
