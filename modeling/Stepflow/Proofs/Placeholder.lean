import Mathlib.Data.List.Basic
import Stepflow.Placeholder
import Stepflow.Proofs.Numeral

/-!
# Tags of a text

A text that is put together from runs of plain text and from placeholders is read as it was put
together: a run has no tags, and a placeholder has its own. A run must not hold two opening braces,
and must not end in one where a placeholder follows; a tag must hold no closing brace and no line
end, since a tag runs up to the first two closing braces on its line.

Results:
1. `allTags_append`, `allTags_write_append`: the tags of a text, piece by piece.
2. `firstSeen_tags`: in which order the distinct tags come.
3. `Template.tags_content`: the tags of a template are read from its content.
4. `ofTag_eq_iteration_iff`, `ofTag_eq_step_iff`: what a tag refers to.
5. `eq_of_ofTag_stepTag`, `ofTag_stepTag_ne_iteration`: what the tag of an order refers to.
-/

namespace Stepflow.Placeholder

/-! ## Runs of text and placeholders -/

theorem allTags_cons (c : Char) (rest : List Char) :
    allTags (c :: rest) =
      match front? (c :: rest) with
      | some tag => tag :: tagsFrom (tag.length + 3) rest
      | none => allTags rest :=
  rfl

/-- No placeholder starts at a character that is not the first of two opening braces. -/
theorem front?_eq_none {c : Char} {rest : List Char}
    (h : ¬(c = '\x7b' ∧ rest.head? = some '\x7b')) : front? (c :: rest) = none := by
  unfold front?
  split
  · next heq =>
    cases heq
    exact absurd ⟨rfl, rfl⟩ h
  · rfl

/-- A run of text has no tags, whatever follows it, unless its last character and the next one are two
opening braces. -/
theorem allTags_append {text rest : List Char} (free : ¬['\x7b', '\x7b'] <:+: text)
    (apart : text.getLast? = some '\x7b' → rest.head? ≠ some '\x7b') :
    allTags (text ++ rest) = allTags rest := by
  induction text with
  | nil => rfl
  | cons c text ih =>
    have none_here : front? (c :: (text ++ rest)) = none := by
      refine front?_eq_none ?_
      rintro ⟨rfl, second⟩
      cases text with
      | nil => exact apart rfl second
      | cons d text =>
        cases second
        exact free ⟨[], text, rfl⟩
    rw [List.cons_append, allTags_cons, none_here]
    refine ih (fun inside => free (inside.trans (List.infix_cons (List.infix_refl _)))) ?_
    intro last
    cases text with
    | nil => cases last
    | cons d text => exact apart (by rw [List.getLast?_cons_cons, last])

/-- At the end of a content, a run of text may end in an opening brace. -/
theorem allTags_eq_nil {text : List Char} (free : ¬['\x7b', '\x7b'] <:+: text) :
    allTags text = [] := by
  have alone : allTags (text ++ []) = allTags [] := allTags_append free nofun
  rwa [List.append_nil] at alone

theorem close?_append {tag : List Char} (brace : '\x7d' ∉ tag) (line : '\n' ∉ tag)
    (rest : List Char) : close? (tag ++ '\x7d' :: '\x7d' :: rest) = some tag := by
  induction tag with
  | nil => rfl
  | cons c tag ih =>
    rw [List.mem_cons, not_or] at brace line
    rw [List.cons_append, close?]
    · rw [if_neg (by simpa using Ne.symm line.1), ih brace.2 line.2]
      rfl
    · intro _ here
      exact absurd here.symm brace.1

/-- A placeholder has its own tag. -/
theorem allTags_write_append {tag : String} (brace : '\x7d' ∉ tag.toList)
    (line : '\n' ∉ tag.toList) (rest : List Char) :
    allTags ((write tag).toList ++ rest) = tag.toList :: allTags rest := by
  have text : (write tag).toList ++ rest =
      '\x7b' :: '\x7b' :: (tag.toList ++ '\x7d' :: '\x7d' :: rest) := by
    simp [write]
  have front : front? ('\x7b' :: '\x7b' :: (tag.toList ++ '\x7d' :: '\x7d' :: rest)) =
      some tag.toList :=
    close?_append brace line rest
  have passed : ('\x7b' :: (tag.toList ++ '\x7d' :: '\x7d' :: rest)).drop (tag.toList.length + 3) =
      rest := by
    rw [List.drop_succ_cons, List.drop_append, List.drop_of_length_le (Nat.le_add_right _ _)]
    simp
  rw [text, allTags_cons, front]
  refine congrArg (tag.toList :: ·) ?_
  rw [tagsFrom_eq_drop, passed]
  rfl

theorem mem_tags {content tag : String} :
    tag ∈ tags content ↔ tag.toList ∈ allTags content.toList := by
  rw [tags, List.mem_eraseDups, List.mem_map]
  constructor
  · rintro ⟨chars, mem, rfl⟩
    rwa [String.toList_ofList]
  · intro mem
    exact ⟨tag.toList, mem, String.ofList_toList⟩

theorem mem_tags_write {tag : String} (brace : '\x7d' ∉ tag.toList) (line : '\n' ∉ tag.toList) :
    tag ∈ tags (write tag) := by
  have alone := allTags_write_append brace line []
  rw [List.append_nil] at alone
  rw [mem_tags, alone]
  exact List.mem_cons_self

/-! ## First occurrences -/

/-- The list `distinct` has each member of `all` once, in the order of their first occurrences. -/
structure FirstSeen {α : Type} [BEq α] (all distinct : List α) : Prop where
  mem : ∀ a, a ∈ distinct ↔ a ∈ all
  order : distinct.Pairwise fun a b => all.idxOf a < all.idxOf b

section FirstSeen

variable {α : Type} [BEq α] [LawfulBEq α]

theorem idxOf_lt_of_filter {keep : α → Bool} {all : List α} {a b : α} (ha : keep a = true)
    (hb : keep b = true) (before : (all.filter keep).idxOf a < (all.filter keep).idxOf b) :
    all.idxOf a < all.idxOf b := by
  induction all with
  | nil => exact before
  | cons c rest ih =>
    by_cases first : c = a
    · subst first
      have apart : c ≠ b := by
        rintro rfl
        exact Nat.lt_irrefl _ before
      rw [List.idxOf_cons_self, List.idxOf_cons_ne _ apart]
      exact Nat.succ_pos _
    · have apart : c ≠ b := by
        rintro rfl
        rw [List.filter_cons_of_pos hb, List.idxOf_cons_self] at before
        exact Nat.not_lt_zero _ before
      rw [List.idxOf_cons_ne _ first, List.idxOf_cons_ne _ apart]
      refine Nat.succ_lt_succ (ih ?_)
      rw [List.filter_cons] at before
      split at before
      · rw [List.idxOf_cons_ne _ first, List.idxOf_cons_ne _ apart] at before
        exact Nat.lt_of_succ_lt_succ before
      · exact before

theorem firstSeen_eraseDups (all : List α) : FirstSeen all all.eraseDups := by
  refine ⟨fun a => List.mem_eraseDups, ?_⟩
  cases all with
  | nil => exact List.Pairwise.nil
  | cons a rest =>
    have apart : ∀ b ∈ (rest.filter fun b => !b == a).eraseDups, (!b == a) = true := by
      intro b hb
      rw [List.mem_eraseDups] at hb
      exact (List.mem_filter.mp hb).2
    have later : ∀ b ∈ (rest.filter fun b => !b == a).eraseDups,
        (a :: rest).idxOf b = rest.idxOf b + 1 := by
      intro b hb
      refine List.idxOf_cons_ne _ (Ne.symm ?_)
      simpa using apart b hb
    rw [List.eraseDups_cons, List.pairwise_cons]
    constructor
    · intro b hb
      rw [List.idxOf_cons_self, later b hb]
      exact Nat.succ_pos _
    · have others := (firstSeen_eraseDups (rest.filter fun b => !b == a)).order
      refine others.imp_of_mem fun hb hc before => ?_
      rw [later _ hb, later _ hc]
      exact Nat.succ_lt_succ (idxOf_lt_of_filter (apart _ hb) (apart _ hc) before)
termination_by all.length
decreasing_by exact Nat.lt_succ_of_le (List.length_filter_le _ _)

end FirstSeen

/-- The tags of a content come in the order in which they are seen first, and none comes twice. -/
theorem firstSeen_tags (content : String) :
    FirstSeen ((allTags content.toList).map String.ofList) (tags content) :=
  firstSeen_eraseDups _

/-! ## Templates -/

/-- A run of text and the placeholder behind it. -/
structure Segment where
  text : String
  tag : String
deriving DecidableEq, Repr

/-- A content in parts: runs of text with a placeholder between each two of them. -/
structure Template where
  segments : List Segment
  last : String
deriving DecidableEq, Repr

namespace Template

def content (t : Template) : String :=
  t.segments.foldr (fun s rest => s.text ++ write s.tag ++ rest) t.last

def tags (t : Template) : List String :=
  t.segments.map (·.tag)

/-- No run of text holds opening braces that belong together, or lends one to the placeholder behind
it, and every tag is on one line and free of closing braces. -/
structure Legible (t : Template) : Prop where
  free : ∀ s ∈ t.segments, ¬['\x7b', '\x7b'] <:+: s.text.toList
  apart : ∀ s ∈ t.segments, s.text.toList.getLast? ≠ some '\x7b'
  brace : ∀ s ∈ t.segments, '\x7d' ∉ s.tag.toList
  line : ∀ s ∈ t.segments, '\n' ∉ s.tag.toList
  last : ¬['\x7b', '\x7b'] <:+: t.last.toList

/-- The tags of a content are those of its segments, with repetitions. -/
theorem allTags_content {t : Template} (legible : t.Legible) :
    allTags t.content.toList = t.tags.map String.toList := by
  obtain ⟨segments, last⟩ := t
  -- What is behind the first placeholder is the content of the other segments.
  induction segments with
  | nil => exact allTags_eq_nil legible.last
  | cons s rest ih =>
    obtain ⟨free, frees⟩ := List.forall_mem_cons.mp legible.free
    obtain ⟨apart, aparts⟩ := List.forall_mem_cons.mp legible.apart
    obtain ⟨brace, braces⟩ := List.forall_mem_cons.mp legible.brace
    obtain ⟨line, lines⟩ := List.forall_mem_cons.mp legible.line
    have front : (content ⟨s :: rest, last⟩).toList =
        s.text.toList ++ ((write s.tag).toList ++ (content ⟨rest, last⟩).toList) := by
      simp [content]
    rw [front, allTags_append free fun final => absurd final apart,
      allTags_write_append brace line, ih ⟨frees, aparts, braces, lines, legible.last⟩]
    rfl

/-- What a template is put together from is read back: its tags as they stand, each of them once, in
the order in which they come first. -/
theorem tags_content {t : Template} (legible : t.Legible) :
    Placeholder.tags t.content = t.tags.eraseDups ∧
      FirstSeen t.tags (Placeholder.tags t.content) := by
  have all : (allTags t.content.toList).map String.ofList = t.tags := by
    rw [allTags_content legible, List.map_map]
    exact List.map_id'' (fun tag => String.ofList_toList) t.tags
  have seen := firstSeen_tags t.content
  rw [all] at seen
  refine ⟨?_, seen⟩
  rw [Placeholder.tags, all]

/-- Runs over a line end, with closing braces, without any text, and with an opening brace at the very
end; tags that repeat, that are empty, and that start with an opening brace. -/
def motley : Template :=
  ⟨[⟨"Total:\n\x7d", "a"⟩, ⟨"\x7d of \x7b ", "\x7bb"⟩, ⟨"", "a"⟩, ⟨"", ""⟩], " \x7b"⟩

theorem motley_tags :
    motley.content = "Total:\n\x7d\x7b\x7ba\x7d\x7d\x7d of \x7b \x7b\x7b\x7bb\x7d\x7d" ++
        "\x7b\x7ba\x7d\x7d\x7b\x7b\x7d\x7d \x7b" ∧
      motley.Legible ∧ Placeholder.tags motley.content = ["a", "\x7bb", ""] := by
  have legible : motley.Legible :=
    ⟨by decide +kernel, by decide +kernel, by decide +kernel, by decide +kernel, by decide +kernel⟩
  exact ⟨by decide +kernel, legible, (tags_content legible).1.trans (by decide +kernel)⟩

end Template

/-! ## References -/

theorem drop_front (digits : List Char) : ("step_".toList ++ digits).drop 5 = digits :=
  List.drop_left' rfl

theorem stepDigits?_eq_some_iff {tag : String} {values : List Nat} :
    stepDigits? tag = some values ↔
      ∃ digits, tag = "step_" ++ digits ∧ digits ≠ "" ∧
        digits.toList.mapM Text.digitValue? = some values := by
  unfold stepDigits?
  simp only
  constructor
  · intro h
    split at h
    · next front =>
      obtain ⟨digits, text⟩ := List.isPrefixOf_iff_prefix.mp front
      rw [← text, drop_front, Numeral.group?] at h
      split at h
      · cases h
      · next filled =>
        refine ⟨String.ofList digits, ?_, ?_, by rwa [String.toList_ofList]⟩
        · refine String.toList_injective ?_
          rw [← text, String.toList_append, String.toList_ofList (l := digits)]
        · intro empty
          have none_left := congrArg String.toList empty
          rw [String.toList_ofList] at none_left
          exact filled (by simp [none_left])
    · cases h
  · rintro ⟨digits, rfl, filled, read⟩
    rw [String.toList_append, if_pos (List.isPrefixOf_iff_prefix.mpr (List.prefix_append _ _)),
      drop_front, Numeral.group?, if_neg ?_]
    · exact read
    · intro empty
      refine filled (String.toList_injective ?_)
      simpa using empty

theorem ofTag_eq_iteration_iff {tag : String} :
    Reference.ofTag tag = .iteration ↔ tag = iterationTag := by
  unfold Reference.ofTag
  by_cases iteration : tag = iterationTag
  · simp [iteration]
  · rw [if_neg (by simpa using iteration)]
    cases stepDigits? tag <;> simp [iteration]

theorem ofTag_eq_step_iff {tag : String} {values : List Nat} :
    Reference.ofTag tag = .step values ↔ stepDigits? tag = some values := by
  unfold Reference.ofTag
  by_cases iteration : tag = iterationTag
  · have unnumbered : stepDigits? iterationTag = none := by decide +kernel
    simp [iteration, unnumbered]
  · rw [if_neg (by simpa using iteration)]
    cases stepDigits? tag <;> simp

/-- The tag of an order that is not negative refers to this order. -/
theorem ofTag_stepTag_natCast (n : Nat) :
    ∃ values, Reference.ofTag (stepTag n) = .step values ∧ Numeral.ofDigitValues values = n ∧
      values.length = (Nat.toDigits 10 n).length := by
  have digit : ∀ c ∈ Nat.toDigits 10 n, c.isDigit = true := fun c hc =>
    Nat.isDigit_of_mem_toDigits (by decide) (by decide) hc
  refine ⟨(Nat.toDigits 10 n).map fun c => c.toNat - '0'.toNat, ?_, ?_, List.length_map _⟩
  · rw [ofTag_eq_step_iff, stepDigits?_eq_some_iff]
    refine ⟨Numeral.write n, rfl, Numeral.write_ne_empty _, ?_⟩
    rw [Numeral.write, String.toList_ofList]
    exact Numeral.mapM_digitValue? digit
  · rw [Numeral.ofDigitValues_map, Nat.ofDigitChars_ten_toDigits]

theorem ofTag_stepTag_ne_iteration (order : Int) :
    Reference.ofTag (stepTag order) ≠ .iteration := by
  rw [ne_eq, ofTag_eq_iteration_iff]
  intro same
  have heads := congrArg (·.toList.head?) same
  simp only [stepTag, String.toList_append, List.head?_append] at heads
  cases heads

/-- The tag of a negative order refers to nothing that is checked. -/
theorem ofTag_stepTag_negSucc (n : Nat) : Reference.ofTag (stepTag (.negSucc n)) = .other := by
  have dash : (stepTag (.negSucc n)).toList =
      "step_".toList ++ '-' :: Nat.toDigits 10 (n + 1) := by
    rw [stepTag, String.toList_append, Numeral.write,
      String.toList_ofList (l := Numeral.digits (.negSucc n))]
    rfl
  have unnumbered : stepDigits? (stepTag (.negSucc n)) = none := by
    have digit : Text.digitValue? '-' = none := by decide +kernel
    unfold stepDigits?
    simp [dash, Numeral.group?, digit]
  have notIteration : stepTag (.negSucc n) ≠ iterationTag := fun same =>
    ofTag_stepTag_ne_iteration _ (ofTag_eq_iteration_iff.mpr same)
  unfold Reference.ofTag
  simp [notIteration, unnumbered]

/-- Where the tag of an order refers to a step, it is the one of this order, digit by digit. -/
theorem eq_of_ofTag_stepTag {order : Int} {values : List Nat}
    (h : Reference.ofTag (stepTag order) = .step values) :
    order = Numeral.ofDigitValues values ∧
      values.length = (Nat.toDigits 10 order.natAbs).length := by
  cases order with
  | ofNat n =>
    obtain ⟨digits, reference, value, length⟩ := ofTag_stepTag_natCast n
    cases reference.symm.trans h
    exact ⟨congrArg Int.ofNat value.symm, length⟩
  | negSucc n =>
    rw [ofTag_stepTag_negSucc] at h
    cases h

end Stepflow.Placeholder
