import Stepflow.Proofs.Numeral
import Stepflow.TimeRange

/-!
# Time ranges are read back

An amount stands between the first two underscores of a range and a grain behind the second, and each of
them is read on its own. So a range can be spelled in many ways: what stands in front and what follows a
third underscore is free, the grain is in the singular or the plural, and the amount is a tolerant
numeral. Writing what was read gives one spelling for all of them.

Results:
1. `amount_of_cut`, `grain_of_cut_iff`: how the two halves of a range are read.
2. `read_of_few`: a text with fewer than two underscores has neither half.
3. `read_eq_some_iff`: which texts are read as a given amount and grain.
4. `read_write`: a range of a known grain is read as its amount and its grain.
5. `grain_of_read`: whatever a range reads as, its grain is a known one.
6. `fits_of_read`: its amount is one that can be written.
7. `read_stable`: all together, for what is written and for what is read and written again.
-/

namespace Stepflow.TimeRange

/-! ## The two halves of a range -/

/-- A text has an amount between its first two underscores and a grain behind the second one. A third
underscore ends the grain. -/
inductive Cut (amount grain : List Char) : List Char → Prop
  | closing {front : List Char} : '_' ∉ front → '_' ∉ amount → '_' ∉ grain →
      Cut amount grain (front ++ '_' :: (amount ++ '_' :: grain))
  | followed {front rest : List Char} : '_' ∉ front → '_' ∉ amount → '_' ∉ grain →
      Cut amount grain (front ++ '_' :: (amount ++ '_' :: (grain ++ '_' :: rest)))

theorem Cut.splitOn {amount grain s : List Char} (cut : Cut amount grain s) :
    ∃ front rest, s.splitOn '_' = front :: amount :: grain :: rest := by
  cases cut with
  | @closing front bareFront bareAmount bareGrain =>
    refine ⟨front, [], ?_⟩
    rw [List.splitOn_append_cons_self_of_not_mem bareFront,
      List.splitOn_append_cons_self_of_not_mem bareAmount, List.splitOn_eq_singleton bareGrain]
  | @followed front rest bareFront bareAmount bareGrain =>
    refine ⟨front, rest.splitOn '_', ?_⟩
    rw [List.splitOn_append_cons_self_of_not_mem bareFront,
      List.splitOn_append_cons_self_of_not_mem bareAmount,
      List.splitOn_append_cons_self_of_not_mem bareGrain]

/-- A text with two underscores has both halves. -/
theorem exists_cut {s : List Char} (two : 2 ≤ s.count '_') : ∃ amount grain, Cut amount grain s := by
  have first : '_' ∈ s := List.count_pos_iff.mp (by omega)
  obtain ⟨front, behind, rfl, bareFront⟩ := List.eq_append_cons_of_mem first
  rw [List.count_append, List.count_cons_self, List.count_eq_zero.mpr bareFront] at two
  have second : '_' ∈ behind := List.count_pos_iff.mp (by omega)
  obtain ⟨amount, noun, rfl, bareAmount⟩ := List.eq_append_cons_of_mem second
  by_cases third : '_' ∈ noun
  · obtain ⟨grain, rest, rfl, bareGrain⟩ := List.eq_append_cons_of_mem third
    exact ⟨amount, grain, .followed bareFront bareAmount bareGrain⟩
  · exact ⟨amount, noun, .closing bareFront bareAmount third⟩

/-- A text with fewer than two underscores has neither half. -/
theorem read_of_few {range : String} (few : range.toList.count '_' < 2) :
    read range = (none, none) := by
  unfold read
  by_cases first : '_' ∈ range.toList
  · obtain ⟨front, behind, text, bareFront⟩ := List.eq_append_cons_of_mem first
    rw [text, List.count_append, List.count_cons_self] at few
    have bareBehind : '_' ∉ behind := List.count_eq_zero.mp (by omega)
    rw [text, List.splitOn_append_cons_self_of_not_mem bareFront,
      List.splitOn_eq_singleton bareBehind]
  · rw [List.splitOn_eq_singleton first]

example : read "last_7" = (none, none) := by decide +kernel

/-- A text of which anything is read has both halves. -/
theorem cut_of_read (range : String) (filled : read range ≠ (none, none)) :
    ∃ amount grain, Cut amount grain range.toList :=
  exists_cut (Nat.le_of_not_lt fun few => filled (read_of_few few))

/-! ## Reading each half -/

/-- A grain that does not end like a plural is the singular of itself and of its plural, and of nothing
else. -/
theorem singular_eq_iff {noun grain : List Char} (plain : grain.getLast? ≠ some 's') :
    singular noun = grain ↔ noun = grain ∨ noun = grain ++ ['s'] := by
  unfold singular
  split
  · next plural =>
    obtain ⟨front, rfl⟩ := List.getLast?_eq_some_iff.mp (beq_iff_eq.mp plural)
    rw [List.dropLast_concat]
    constructor
    · rintro rfl
      exact .inr rfl
    · rintro (rfl | same)
      · exact absurd List.getLast?_concat plain
      · exact List.append_cancel_right same
  · next singular =>
    constructor
    · exact .inl
    · rintro (rfl | rfl)
      · rfl
      · exact absurd (by simp) singular

theorem mem_knownGrains {grain : String} : grain ∈ knownGrains ↔ grain = "day" ∨ grain = "month" := by
  simp [knownGrains]

/-- A known grain does not end like a plural, and there is no underscore in it. -/
theorem knownGrains_plain {grain : String} (known : grain ∈ knownGrains) :
    grain.toList.getLast? ≠ some 's' ∧ '_' ∉ grain.toList := by
  rcases mem_knownGrains.mp known with rfl | rfl <;> decide

section Halves

variable {range : String} {amount noun : List Char} (cut : Cut amount noun range.toList)

include cut

/-- The amount of a range is the numeral in it, whatever its grain is. -/
theorem amount_of_cut : (read range).1 = Numeral.readChars? amount := by
  obtain ⟨front, rest, parts⟩ := cut.splitOn
  rw [read, parts]

/-- The grain of a range is the known one in it, in the singular or the plural, whatever its amount is. -/
theorem grain_of_cut_iff {grain : String} :
    (read range).2 = some grain ↔
      grain ∈ knownGrains ∧ (noun = grain.toList ∨ noun = grain.toList ++ ['s']) := by
  obtain ⟨front, rest, parts⟩ := cut.splitOn
  rw [read, parts]
  simp only [List.contains_iff_mem, Option.ite_none_right_eq_some, Option.some.injEq]
  constructor
  · rintro ⟨known, rfl⟩
    exact ⟨known, (singular_eq_iff (knownGrains_plain known).1).mp String.toList_ofList.symm⟩
  · rintro ⟨known, spelled⟩
    have same : String.ofList (singular noun) = grain := by
      rw [(singular_eq_iff (knownGrains_plain known).1).mpr spelled, String.ofList_toList]
    exact ⟨same ▸ known, same⟩

end Halves

/-- The texts that are read as a given amount and grain: those with a numeral of the amount and the grain
in the singular or the plural. -/
theorem read_eq_some_iff {range : String} {amount : Int} {grain : String} :
    read range = (some amount, some grain) ↔
      ∃ numeral noun, Cut numeral noun range.toList ∧ Numeral.readChars? numeral = some amount ∧
        grain ∈ knownGrains ∧ (noun = grain.toList ∨ noun = grain.toList ++ ['s']) := by
  constructor
  · intro h
    obtain ⟨numeral, noun, cut⟩ := cut_of_read range (by rw [h]; nofun)
    refine ⟨numeral, noun, cut, ?_, (grain_of_cut_iff cut).mp (congrArg Prod.snd h)⟩
    rw [← amount_of_cut cut, h]
  · rintro ⟨numeral, noun, cut, readAmount, spelled⟩
    exact Prod.ext ((amount_of_cut cut).trans readAmount) ((grain_of_cut_iff cut).mpr spelled)

/-! ## Written ranges -/

/-- The halves of a written range are the numeral of its amount and the plural of its grain. -/
theorem cut_write (amount : Int) {grain : String} (bare : '_' ∉ grain.toList) :
    Cut (Numeral.digits amount) (grain.toList ++ ['s']) (write amount grain).toList := by
  have text : (write amount grain).toList =
      "last".toList ++ '_' :: (Numeral.digits amount ++ '_' :: (grain.toList ++ ['s'])) := by
    simp [write, layout, Numeral.write]
  rw [text]
  exact .closing (by decide) (Numeral.not_mem_digits (by decide) (by decide)) (by simpa using bare)

/-- A range of a known grain is read as its amount and its grain. -/
theorem read_write {amount : Int} {grain : String} (fits : Numeral.fits amount = true)
    (known : grain ∈ knownGrains) : read (write amount grain) = (some amount, some grain) :=
  read_eq_some_iff.mpr ⟨_, _, cut_write amount (knownGrains_plain known).2,
    Numeral.readChars?_digits fits, known, .inr rfl⟩

/-! ## What is read can be written -/

/-- The grain of a range is a known one. -/
theorem grain_of_read {range grain : String} (h : (read range).2 = some grain) :
    grain ∈ knownGrains := by
  obtain ⟨amount, noun, cut⟩ := cut_of_read range fun nothing => by simp [nothing] at h
  exact ((grain_of_cut_iff cut).mp h).1

/-- The amount of a range is one that can be written. -/
theorem fits_of_read {range : String} {amount : Int} (h : (read range).1 = some amount) :
    Numeral.fits amount = true := by
  obtain ⟨numeral, noun, cut⟩ := cut_of_read range fun nothing => by simp [nothing] at h
  exact Numeral.fits_of_readChars? ((amount_of_cut cut).symm.trans h)

/-- A written range is read as what was written. So is one that was written from what a text was read as.
A text with fewer than two underscores is read as nothing, and the grain of any text is a known one or
missing. -/
theorem read_stable :
    (∀ amount, Numeral.fits amount = true → ∀ grain ∈ knownGrains,
      read (write amount grain) = (some amount, some grain)) ∧
    ∀ range,
      (∀ amount grain, read range = (some amount, some grain) →
        Numeral.fits amount = true ∧ read (write amount grain) = (some amount, some grain)) ∧
      (range.toList.count '_' < 2 → read range = (none, none)) ∧
      ((read range).2 = none ∨ ∃ grain ∈ knownGrains, (read range).2 = some grain) := by
  refine ⟨fun amount fits grain known => read_write fits known, fun range =>
    ⟨fun amount grain spelled => ?_, read_of_few, ?_⟩⟩
  · obtain ⟨numeral, noun, -, readAmount, known, -⟩ := read_eq_some_iff.mp spelled
    have fits : Numeral.fits amount = true := Numeral.fits_of_readChars? readAmount
    exact ⟨fits, read_write fits known⟩
  · cases found : (read range).2 with
    | none => exact .inl rfl
    | some grain => exact .inr ⟨grain, grain_of_read found, rfl⟩

/-- A range with a blank, a sign and a digit of another script in its amount and with more behind its grain,
a range as it is written, and a text with one underscore. -/
theorem loose_stable :
    read "since_ -٧_month_or_so" = (some (-7), some "month") ∧
      Numeral.fits (-7) = true ∧ read (write (-7) "month") = (some (-7), some "month") ∧
      read (write 30 "day") = (some 30, some "day") ∧
      "last_30".toList.count '_' < 2 ∧ read "last_30" = (none, none) := by
  have spelled : read "since_ -٧_month_or_so" = (some (-7), some "month") := by decide +kernel
  have few : "last_30".toList.count '_' < 2 := by decide
  obtain ⟨written, texts⟩ := read_stable
  obtain ⟨again, -, -⟩ := texts "since_ -٧_month_or_so"
  obtain ⟨-, short, -⟩ := texts "last_30"
  obtain ⟨fits, same⟩ := again _ _ spelled
  exact ⟨spelled, fits, same, written 30 (by decide +kernel) "day" (by decide), few, short few⟩

end Stepflow.TimeRange
