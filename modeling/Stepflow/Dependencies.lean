import Stepflow.Json

/-!
# Dependency lists

A step of a document lists the orders of the steps that it takes input from. The list may
come as a text (`"1,2"`), a number, or a list of either; `orders?` is its one meaning.
Exported lists are ascending, without repetitions, and written as a text.
-/

namespace Stepflow.Dependencies

def write (orders : List Int) : String :=
  String.ofList ([','].intercalate (orders.map Numeral.digits))

/-- The text of a list of orders, if there are any. -/
def text? (orders : List Int) : Option String :=
  if orders.isEmpty then none else some (write orders)

/-- The orders that a dependency list names; entries that stand for no integer are left
out. There is no list at all in null, false, the empty text and zero. -/
def orders? : Json → Option (List Int)
  | .null => none
  | .bool b => if b then some [] else none
  | .int n => if n == 0 then none else some [n]
  | .float x => if x.isZero then none else some x.whole?.toList
  | .str s =>
    if s.isEmpty then none else some ((s.toList.splitOn ',').filterMap Numeral.readChars?)
  | .list items => some (items.filterMap Json.integer?)
  | .obj _ => some []

/-- An ascending list with `n` at its place, unless it is there. -/
def insertDistinct (n : Int) : List Int → List Int
  | [] => [n]
  | m :: rest =>
    if n < m then n :: m :: rest
    else if n = m then m :: rest
    else m :: insertDistinct n rest

/-- The distinct members of a list, ascending. -/
def ascending (orders : List Int) : List Int :=
  orders.foldr insertDistinct []

theorem mem_insertDistinct {k n : Int} {orders : List Int} :
    k ∈ insertDistinct n orders ↔ k = n ∨ k ∈ orders := by
  induction orders with
  | nil => simp [insertDistinct]
  | cons m rest ih =>
    rw [insertDistinct]
    split
    · simp
    · split
      · next _ same => simp [same]
      · simp only [List.mem_cons, ih]
        exact or_left_comm

theorem mem_ascending {k : Int} {orders : List Int} : k ∈ ascending orders ↔ k ∈ orders := by
  induction orders with
  | nil => rfl
  | cons n rest ih =>
    have : ascending (n :: rest) = insertDistinct n (ascending rest) := rfl
    rw [this, mem_insertDistinct, ih, List.mem_cons]

theorem insertDistinct_pairwise {n : Int} {orders : List Int}
    (h : orders.Pairwise (· < ·)) : (insertDistinct n orders).Pairwise (· < ·) := by
  induction orders with
  | nil => exact List.pairwise_singleton _ _
  | cons m rest ih =>
    rw [List.pairwise_cons] at h
    rw [insertDistinct]
    split
    · next less =>
      refine List.pairwise_cons.2 ⟨fun k hk => ?_, List.pairwise_cons.2 h⟩
      cases List.mem_cons.1 hk with
      | inl same => exact same ▸ less
      | inr later => exact Int.lt_trans less (h.1 k later)
    · split
      · exact List.pairwise_cons.2 h
      · next notLess notSame =>
        refine List.pairwise_cons.2 ⟨fun k hk => ?_, ih h.2⟩
        cases mem_insertDistinct.1 hk with
        | inl same => omega
        | inr later => exact h.1 k later

/-- The orders of an ascending list are distinct and in order. -/
theorem ascending_pairwise (orders : List Int) : (ascending orders).Pairwise (· < ·) := by
  induction orders with
  | nil => exact List.Pairwise.nil
  | cons n rest ih => exact insertDistinct_pairwise ih

end Stepflow.Dependencies
