import Mathlib.Data.List.Forall2
import Stepflow.Field
import Stepflow.Proofs.Integer

/-!
# Checked values

How a checked value came about. A model reads its fields one after the other, so what is read was
read from each of them; the lemmas that end in `iff` take such a reading apart.

Results:
1. `bind_eq_ok_iff`, `mapM_eq_ok_iff`: what goes through went through in all of its parts.
2. `Checked.seq_eq_ok_iff`, `optional_eq_ok_iff`, `defaulted_eq_ok_iff`: readings taken apart.
3. `mem_of_list`: every item of a list was read from one.
4. `text_eq_ok_iff`, `fits_of_integer`: what texts and integers are read from.
-/

namespace Stepflow

/-- A member of the second of two paired lists has a partner in the first. -/
theorem exists_of_forall₂ {α β : Type} {R : α → β → Prop} {l : List α} {m : List β}
    (pairs : List.Forall₂ R l m) {b : β} (hb : b ∈ m) : ∃ a ∈ l, R a b := by
  induction pairs with
  | nil => cases hb
  | cons head _ ih =>
    rcases List.mem_cons.mp hb with rfl | later
    · exact ⟨_, List.mem_cons_self, head⟩
    · obtain ⟨a, ha, related⟩ := ih later
      exact ⟨a, List.mem_cons_of_mem _ ha, related⟩

section Exceptions

variable {ε α β : Type}

theorem bind_eq_ok_iff {x : Except ε α} {f : α → Except ε β} {b : β} :
    x >>= f = .ok b ↔ ∃ a, x = .ok a ∧ f a = .ok b := by
  cases x with
  | error e =>
    constructor
    · intro h
      cases h
    · rintro ⟨_, ⟨⟩, -⟩
  | ok a =>
    constructor
    · intro h
      exact ⟨a, rfl, h⟩
    · rintro ⟨_, ⟨⟩, h⟩
      exact h

theorem mapM_eq_ok_iff {f : α → Except ε β} {items : List α} {found : List β} :
    items.mapM f = .ok found ↔ List.Forall₂ (fun a b => f a = .ok b) items found := by
  induction items generalizing found with
  | nil =>
    rw [List.mapM_nil, List.forall₂_nil_left_iff]
    exact ⟨fun h => (Except.ok.inj h).symm, fun h => congrArg Except.ok h.symm⟩
  | cons a rest ih =>
    rw [List.mapM_cons, bind_eq_ok_iff, List.forall₂_cons_left_iff]
    refine exists_congr fun b => ?_
    rw [exists_and_left, bind_eq_ok_iff]
    refine and_congr_right fun _ => exists_congr fun others => and_congr ih ?_
    exact ⟨fun h => (Except.ok.inj h).symm, fun h => congrArg Except.ok h.symm⟩

theorem mapM_congr {f g : α → Except ε β} {items : List α} (same : ∀ a ∈ items, f a = g a) :
    items.mapM f = items.mapM g := by
  induction items with
  | nil => rfl
  | cons a rest ih =>
    rw [List.mapM_cons, List.mapM_cons, same a List.mem_cons_self,
      ih fun b hb => same b (List.mem_cons_of_mem _ hb)]

/-- What goes through one by one goes through in a row. -/
theorem exists_mapM_eq_ok {f : α → Except ε β} {P : β → Prop} {items : List α}
    (each : ∀ a ∈ items, ∃ b, f a = .ok b ∧ P b) :
    ∃ found, items.mapM f = .ok found ∧ ∀ b ∈ found, P b := by
  induction items with
  | nil => exact ⟨[], rfl, fun _ => nofun⟩
  | cons a rest ih =>
    obtain ⟨b, head, holds⟩ := each a List.mem_cons_self
    obtain ⟨others, tail, all⟩ := ih fun c hc => each c (List.mem_cons_of_mem _ hc)
    refine ⟨b :: others, mapM_eq_ok_iff.mpr (.cons head (mapM_eq_ok_iff.mp tail)), ?_⟩
    exact List.forall_mem_cons.mpr ⟨holds, all⟩

/-- Items go through in a row iff each of them does. -/
theorem exists_mapM_eq_ok_iff {f : α → Except ε β} {items : List α} :
    (∃ found, items.mapM f = .ok found) ↔ ∀ a ∈ items, ∃ b, f a = .ok b := by
  constructor
  · rintro ⟨found, through⟩ a ha
    obtain ⟨b, -, one⟩ := exists_of_forall₂ (mapM_eq_ok_iff.mp through).flip ha
    exact ⟨b, one⟩
  · intro each
    obtain ⟨found, through, -⟩ := exists_mapM_eq_ok (P := fun _ => True) fun a ha => by
      obtain ⟨b, one⟩ := each a ha
      exact ⟨b, one, trivial⟩
    exact ⟨found, through⟩

end Exceptions

end Stepflow

namespace Stepflow.Field

namespace Checked

variable {α β : Type}

theorem map_eq_ok_iff {f : α → β} {x : Checked α} {b : β} :
    f <$> x = .ok b ↔ ∃ a, x = .ok a ∧ f a = b := by
  cases x with
  | ok a =>
    constructor
    · intro h
      exact ⟨a, rfl, Checked.ok.inj h⟩
    · rintro ⟨_, ⟨⟩, rfl⟩
      rfl
  | bad faults =>
    constructor
    · intro h
      cases h
    · rintro ⟨_, ⟨⟩, -⟩

theorem seq_eq_ok_iff {f : Checked (α → β)} {x : Checked α} {b : β} :
    f <*> x = .ok b ↔ ∃ g a, f = .ok g ∧ x = .ok a ∧ g a = b := by
  cases f with
  | ok g =>
    cases x with
    | ok a =>
      constructor
      · intro h
        exact ⟨g, a, rfl, rfl, Checked.ok.inj h⟩
      · rintro ⟨_, _, ⟨⟩, ⟨⟩, rfl⟩
        rfl
    | bad faults =>
      constructor
      · intro h
        cases h
      · rintro ⟨_, _, -, ⟨⟩, -⟩
  | bad faults =>
    constructor
    · intro h
      cases h
    · rintro ⟨_, _, ⟨⟩, -, -⟩

theorem within_eq_ok_iff {place : Place} {x : Checked α} {a : α} :
    x.within place = .ok a ↔ x = .ok a := by
  cases x with
  | ok b => rfl
  | bad faults =>
    constructor
    · intro h
      cases h
    · intro h
      cases h

/-- Each of a list of values was checked by itself. -/
theorem mem_of_all {xs : List (Checked α)} {index : Nat} {found : List α}
    (h : all index xs = .ok found) {a : α} (ha : a ∈ found) : .ok a ∈ xs := by
  induction xs generalizing index found with
  | nil =>
    cases h
    cases ha
  | cons x rest ih =>
    obtain ⟨_, others, first, tail, rfl⟩ := seq_eq_ok_iff.mp h
    obtain ⟨b, head, rfl⟩ := map_eq_ok_iff.mp first
    rcases List.mem_cons.mp ha with rfl | inside
    · rw [within_eq_ok_iff.mp head]
      exact List.mem_cons_self
    · exact List.mem_cons_of_mem _ (ih tail inside)

end Checked

section Readings

variable {α : Type} {read : Json → Checked α}

theorem optional_eq_ok_iff {value : Json} {found : Option α} :
    optional read value = .ok found ↔
      value = .null ∧ found = none ∨ value ≠ .null ∧ ∃ a, read value = .ok a ∧ some a = found := by
  cases value with
  | null => simp [optional, eq_comm]
  | _ => simp [optional, Checked.map_eq_ok_iff]

/-- Every item of a list was read from one. -/
theorem mem_of_list {value : Json} {found : List α} (h : list read value = .ok found) {a : α}
    (ha : a ∈ found) : ∃ items, value = .list items ∧ ∃ item ∈ items, read item = .ok a := by
  cases value with
  | list items =>
    obtain ⟨item, mem, readItem⟩ := List.mem_map.mp (Checked.mem_of_all h ha)
    exact ⟨items, rfl, item, mem, readItem⟩
  | _ => cases h

theorem required_eq_ok_iff {fields : List (String × Json)} {name : String} {a : α} :
    required fields name read = .ok a ↔
      ∃ value, Json.fieldOf? fields name = some value ∧ read value = .ok a := by
  unfold required
  cases Json.fieldOf? fields name with
  | none =>
    constructor
    · intro h
      cases h
    · rintro ⟨_, ⟨⟩, -⟩
  | some value => simp [Checked.within_eq_ok_iff]

theorem defaulted_eq_ok_iff {fields : List (String × Json)} {name : String} {missing a : α} :
    defaulted fields name missing read = .ok a ↔
      Json.fieldOf? fields name = none ∧ missing = a ∨
        ∃ value, Json.fieldOf? fields name = some value ∧ read value = .ok a := by
  unfold defaulted
  cases Json.fieldOf? fields name with
  | none => simp
  | some value => simp [Checked.within_eq_ok_iff]

end Readings

theorem text_eq_ok_iff {value : Json} {s : String} : text value = .ok s ↔ value = .str s := by
  cases value with
  | str t => simp [text]
  | _ => simp [text, reject]

theorem fits_of_wordOfNumber {x : Binary64} {n : Int} (h : wordOfNumber x = .ok n) :
    Numeral.fits n = true := by
  unfold wordOfNumber at h
  split at h
  · cases h
  · split at h
    · cases h
    · next k whole =>
      split at h
      · cases h
        exact Binary64.fits_of_whole? whole
      · cases h

theorem fits_of_integerOfText {s : String} {n : Int} (h : integerOfText s = .ok n) :
    Numeral.fits n = true := by
  unfold integerOfText at h
  split at h
  · cases h
  · split at h
    · next plain =>
      cases h
      exact Numeral.fits_of_readPlain plain
    · cases h
    · cases h

/-- An integer that is read has a numeral within the limit, unless it was one beyond it. -/
theorem fits_of_integer {value : Json} {n : Int} (h : integer value = .ok n)
    (small : ∀ k, value = .int k → Numeral.fits k = true) : Numeral.fits n = true := by
  cases value with
  | int k =>
    cases h
    exact small _ rfl
  | bool b =>
    cases h
    refine Numeral.fits_iff.mpr ?_
    cases b with
    | false => exact Nat.pow_pos (by decide)
    | true => exact Nat.one_lt_pow (by decide) (by decide)
  | float x =>
    unfold integer at h
    simp only at h
    split at h
    · next word =>
      cases h
      exact fits_of_wordOfNumber word
    · cases h
  | str s => exact fits_of_integerOfText h
  | _ => cases h

end Stepflow.Field
