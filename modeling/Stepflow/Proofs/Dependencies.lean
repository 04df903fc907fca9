import Mathlib.Data.List.Forall2
import Stepflow.Dependencies
import Stepflow.Proofs.Field

/-!
# Dependency lists are read back

Results:
1. `orders?_parts`: a text of numerals with commas between them, and with blanks around each of them,
   names exactly their integers, in their places and with their repetitions.
2. `orders?_write`: the text of a list of orders that is not empty is such a text. The text of the
   empty list names nothing at all, which is why an export leaves it out.
3. `orders?_text?`: what an import makes of the dependencies that an export has written.
-/

namespace Stepflow.Dependencies

/-- The integers that a list was read as, one from each of its items. -/
theorem filterMap_eq_of_forall₂ {α β : Type} {read : β → Option α} {found : List α} {items : List β}
    (each : List.Forall₂ (fun a b => read b = some a) found items) :
    items.filterMap read = found := by
  induction each with
  | nil => rfl
  | cons head _ ih => rw [List.filterMap_cons_some head, ih]

section Parts

variable {orders : List Int} {parts : List String} (filled : orders ≠ [])
  (padded : List.Forall₂ Numeral.Padded orders parts)

include filled padded

/-- Numerals with commas between them fall apart at the commas. -/
theorem splitOn_parts : (",".intercalate parts).toList.splitOn ',' = parts.map String.toList := by
  have some_part : parts.map String.toList ≠ [] := by
    rw [ne_eq, List.map_eq_nil_iff]
    rintro rfl
    cases padded
    exact filled rfl
  rw [String.toList_intercalate]
  refine List.splitOn_intercalate ',' ?_ some_part
  intro text inside
  obtain ⟨part, mem, rfl⟩ := List.mem_map.mp inside
  obtain ⟨n, -, spelled⟩ := exists_of_forall₂ padded mem
  exact spelled.not_mem (by decide) (by decide) (by decide)

theorem intercalate_isEmpty : (",".intercalate parts).isEmpty = false := by
  rw [String.isEmpty_eq_false_iff]
  intro empty
  have cut := splitOn_parts filled padded
  rw [empty] at cut
  cases padded with
  | nil => exact filled rfl
  | cons head _ => exact head.ne_empty (List.head_eq_of_cons_eq cut).symm

/-- A text of numerals with commas between them names their integers. -/
theorem orders?_parts (fits : ∀ n ∈ orders, Numeral.fits n = true) :
    orders? (.str (",".intercalate parts)) = some orders := by
  have read : List.Forall₂ (fun n s => Numeral.readChars? (String.toList s) = some n) orders parts :=
    (List.forall₂_and_left _ _ |>.mpr ⟨fits, padded⟩).imp fun n s h =>
      Numeral.readChars?_padded h.1 h.2
  rw [orders?, if_neg (by simp [intercalate_isEmpty filled padded]), splitOn_parts filled padded,
    List.filterMap_map]
  exact congrArg some (filterMap_eq_of_forall₂ read)

example : orders? (.str "3, -1 ,3") = some [3, -1, 3] := by decide +kernel

end Parts

theorem write_eq_intercalate (orders : List Int) :
    write orders = ",".intercalate (orders.map Numeral.write) := by
  have digits : String.toList ∘ Numeral.write = Numeral.digits :=
    funext fun n => String.toList_ofList
  refine String.toList_injective ?_
  rw [write, String.toList_ofList, String.toList_intercalate, List.map_map, digits]
  rfl

/-- The text of a list of orders names these orders. -/
theorem orders?_write {orders : List Int} (filled : orders ≠ [])
    (fits : ∀ n ∈ orders, Numeral.fits n = true) : orders? (.str (write orders)) = some orders := by
  rw [write_eq_intercalate]
  refine orders?_parts filled ?_ fits
  rw [List.forall₂_map_right_iff, List.forall₂_same]
  exact fun n _ => Numeral.padded_write n

/-! ## Optional texts -/

@[simp] theorem text?_nil : text? [] = none :=
  rfl

theorem text?_of_ne_nil {orders : List Int} (filled : orders ≠ []) :
    text? orders = some (write orders) := by
  rw [text?, if_neg (by simpa using filled)]

theorem text?_eq_none_iff {orders : List Int} : text? orders = none ↔ orders = [] := by
  cases orders with
  | nil => simp
  | cons n rest => simp [text?_of_ne_nil]

/-- What an import makes of a written dependency list: its orders, or no list at all. -/
theorem orders?_text? {orders : List Int} (fits : ∀ n ∈ orders, Numeral.fits n = true) :
    orders? (((text? orders).map Json.str).getD .null) =
      if orders.isEmpty then none else some orders := by
  cases orders with
  | nil => rfl
  | cons n rest =>
    rw [text?_of_ne_nil (List.cons_ne_nil n rest)]
    exact orders?_write (List.cons_ne_nil n rest) fits

end Stepflow.Dependencies
