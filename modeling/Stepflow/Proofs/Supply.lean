import Mathlib.Data.List.Nodup
import Mathlib.Data.Set.Function
import Mathlib.Order.Interval.Set.Basic
import Stepflow.Supply

/-!
# Fresh tags

What is assumed of the tags that a supply gives. Tags come from outside, so nothing of this can
be proved of them; statements that need it say so. Of a supply that is used nothing is lost but what
was drawn from it (`Later`).
-/

namespace Stepflow.Supply

/-- The next `count` tags of a supply are distinct. -/
def Distinct (s : Supply) (count : Nat) : Prop :=
  Set.InjOn s.tag (Set.Ioc s.drawn (s.drawn + count))

theorem Distinct.tail {s : Supply} {count : Nat} (h : s.Distinct (count + 1)) :
    Distinct { s with drawn := s.drawn + 1 } count := by
  intro i hi j hj same
  simp only [Set.mem_Ioc] at hi hj
  exact h (by simp; omega) (by simp; omega) same

/-- A tag is made of hexadecimal digits. -/
def IsHex (tag : String) : Prop :=
  ∀ c ∈ tag.toList, c ∈ "0123456789abcdef".toList

instance (tag : String) : Decidable (IsHex tag) :=
  inferInstanceAs (Decidable (∀ c ∈ tag.toList, c ∈ "0123456789abcdef".toList))

theorem dash_not_mem_of_hex {tag : String} (hex : IsHex tag) : '-' ∉ tag.toList := by
  intro h
  exact absurd (hex '-' h) (by decide)

/-- The tags behind number `base`, up to number `top`, are hexadecimal and distinct. -/
structure Fresh (s : Supply) (base top : Nat) : Prop where
  distinct : Set.InjOn s.tag (Set.Ioc base top)
  hex : ∀ i ∈ Set.Ioc base top, IsHex (s.tag i)

/-! ## Supplies in use -/

/-- The supply `t` comes after `s`: it has the same tags and the same clock, no tag is put back, and
the clock is not turned back. -/
structure Later (s t : Supply) : Prop where
  tag : t.tag = s.tag
  drawn : s.drawn ≤ t.drawn
  clock : t.clock = s.clock
  readings : s.readings ≤ t.readings

theorem Later.refl (s : Supply) : s.Later s :=
  ⟨rfl, Nat.le_refl _, rfl, Nat.le_refl _⟩

theorem Later.trans {s t u : Supply} (first : s.Later t) (second : t.Later u) : s.Later u where
  tag := second.tag.trans first.tag
  drawn := Nat.le_trans first.drawn second.drawn
  clock := second.clock.trans first.clock
  readings := Nat.le_trans first.readings second.readings

theorem later_draw (s : Supply) : s.Later s.draw.2 :=
  ⟨rfl, Nat.le_succ _, rfl, Nat.le_refl _⟩

theorem later_now (s : Supply) : s.Later s.now.2 :=
  ⟨rfl, Nat.le_refl _, rfl, Nat.le_succ _⟩

theorem Fresh.later {s t : Supply} {base top : Nat} (fresh : s.Fresh base top)
    (later : s.Later t) : t.Fresh base top := by
  obtain ⟨distinct, hex⟩ := fresh
  rw [← later.tag] at distinct hex
  exact ⟨distinct, hex⟩

/-! ## Finitely many tags -/

section Listed

variable {s : Supply} {count : Nat}
  (nodup : ((List.range count).map fun i => s.tag (s.drawn + 1 + i)).Nodup)

include nodup

/-- Tags are distinct if a list of them has no repetition. -/
theorem distinct_of_nodup : s.Distinct count := by
  intro i hi j hj same
  simp only [Set.mem_Ioc] at hi hj
  have step : i - (s.drawn + 1) = j - (s.drawn + 1) := by
    refine List.inj_on_of_nodup_map nodup (List.mem_range.mpr (by omega))
      (List.mem_range.mpr (by omega)) ?_
    simpa only [Nat.add_sub_of_le hi.1, Nat.add_sub_of_le hj.1] using same
  omega

theorem fresh_of_nodup (hex : ∀ i ∈ List.range count, IsHex (s.tag (s.drawn + 1 + i))) :
    s.Fresh s.drawn (s.drawn + count) where
  distinct := distinct_of_nodup nodup
  hex := by
    intro i hi
    have inside : i - (s.drawn + 1) < count := by
      simp only [Set.mem_Ioc] at hi
      omega
    have number := hex _ (List.mem_range.mpr inside)
    rwa [Nat.add_sub_of_le hi.1] at number

end Listed

/-- A supply whose tags are numbers of eight digits. -/
def numbered : Supply :=
  ⟨Moment.padded 8, fun _ => ⟨0⟩, 0, 0⟩

theorem hex_of_isDigit {c : Char} (digit : c.isDigit = true) :
    c ∈ "0123456789abcdef".toList := by
  have digits : ∀ n < 10, Char.ofNat ('0'.toNat + n) ∈ "0123456789abcdef".toList := by decide
  obtain ⟨low, high⟩ : '0'.toNat ≤ c.toNat ∧ c.toNat ≤ '9'.toNat := by
    simpa [Char.isDigit, UInt32.le_iff_toNat_le] using digit
  have here := digits (c.toNat - '0'.toNat) (Nat.sub_lt_left_of_lt_add low (Nat.lt_succ_of_le high))
  rwa [Nat.add_sub_of_le low, Char.ofNat_toNat] at here

theorem numbered_hex (i : Nat) : IsHex (numbered.tag i) := by
  intro c hc
  refine hex_of_isDigit ?_
  have digit : c ∈ List.replicate (8 - (Nat.toDigits 10 i).length) '0' ++ Nat.toDigits 10 i := by
    simpa [numbered, Moment.padded] using hc
  rcases List.mem_append.mp digit with zero | inside
  · rw [List.eq_of_mem_replicate zero]
    rfl
  · exact Nat.isDigit_of_mem_toDigits (by decide) (by decide) inside

end Stepflow.Supply
