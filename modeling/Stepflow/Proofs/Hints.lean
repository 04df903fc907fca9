import Stepflow.Canvas
import Stepflow.Proofs.Content
import Stepflow.Proofs.Placeholder
import Stepflow.Proofs.Sorting

/-!
# Hints and findings

Beside a step, the editor offers the placeholders that its content may hold: the outputs of the
steps that feed it, and the value of the iteration. A check looks for placeholders that the content
must not hold. The two are worked out apart, one from the orders of nodes and the other from the
digits in a text, which may be of any script and start with zeros. They agree all the same.

Results:
1. `tagProblem_eq_none_iff`: a check finds a tag at fault iff the hints do not allow it.
2. `tags_assemble`, `Hints.Offers.allows`: a content put together from what is on offer.
3. `hints_agree`: all together, for a step whose content is set.
-/

namespace Stepflow.Canvas

open Placeholder (iterationTag stepTag)

/-! ## What hints allow -/

/-- The hints allow a tag unless it asks for the iteration where there is none, or for the output of
a step that is not among those on offer. -/
def Hints.Allows (hints : Hints) (tag : String) : Prop :=
  (tag = iterationTag → hints.iterationAvailable = true) ∧
    ∀ digits values, tag = "step_" ++ digits → digits ≠ "" →
      digits.toList.mapM Text.digitValue? = some values →
        ∃ n ∈ hints.feeders, n.order = Numeral.ofDigitValues values

theorem Hints.allows_iff {hints : Hints} {tag : String} :
    hints.Allows tag ↔
      (Placeholder.Reference.ofTag tag = .iteration → hints.iterationAvailable = true) ∧
        ∀ values, Placeholder.Reference.ofTag tag = .step values →
          ∃ n ∈ hints.feeders, n.order = Numeral.ofDigitValues values := by
  rw [Hints.Allows, Placeholder.ofTag_eq_iteration_iff]
  refine and_congr_right fun _ => ?_
  constructor
  · intro each values reference
    obtain ⟨digits, text, filled, read⟩ :=
      Placeholder.stepDigits?_eq_some_iff.mp (Placeholder.ofTag_eq_step_iff.mp reference)
    exact each digits values text filled read
  · intro each digits values text filled read
    refine each values (Placeholder.ofTag_eq_step_iff.mpr ?_)
    exact Placeholder.stepDigits?_eq_some_iff.mpr ⟨digits, text, filled, read⟩

section Given

variable {env : Environment} {g : Graph} {p : Profile} {id : String} {hints : Hints}
  (given : hints? env g p id = some hints)

include given

theorem mem_feeders_of_hints? {n : Node} : n ∈ hints.feeders ↔ n ∈ g.feeders id := by
  obtain ⟨m, -, rfl⟩ := Option.map_eq_some_iff.mp given
  exact (sortByOrder_perm _).mem_iff

theorem iterationAvailable_of_hints? :
    hints.iterationAvailable = (p.iterates && g.fedByStart id) := by
  obtain ⟨m, -, rfl⟩ := Option.map_eq_some_iff.mp given
  rfl

/-- A check that gets past a tag finds it at fault iff the hints do not allow it. -/
theorem tagProblem_eq_none_iff {n : Node} (here : n.id = id) {tag : String}
    {problem : Option StepProblem} (checked : g.tagProblem p n tag = .ok problem) :
    problem = none ↔ hints.Allows tag := by
  rw [Hints.allows_iff, iterationAvailable_of_hints? given]
  subst here
  unfold Graph.tagProblem at checked
  cases reference : Placeholder.Reference.ofTag tag with
  | other =>
    simp only [reference] at checked
    cases checked
    simp
  | iteration =>
    simp only [reference] at checked
    cases on : p.iterates with
    | false =>
      rw [on] at checked
      cases checked
      simp
    | true =>
      rw [on] at checked
      cases fed : g.fedByStart n.id with
      | false =>
        rw [fed] at checked
        cases checked
        simp
      | true =>
        rw [fed] at checked
        cases checked
        simp
  | step digits =>
    simp only [reference] at checked
    split at checked
    · cases checked
    · have asked : (∃ m ∈ hints.feeders, m.order = Numeral.ofDigitValues digits) ↔
          (g.feeders n.id).any (·.order == (Numeral.ofDigitValues digits : Int)) = true := by
        simp only [List.any_eq_true, beq_iff_eq, mem_feeders_of_hints? given]
      split at checked
      · next fed =>
        cases checked
        simpa using asked.mpr fed
      · next notFed =>
        cases checked
        simpa using mt asked.mp notFed

end Given

/-! ## What hints offer -/

/-- A piece of a content: a text, or a placeholder that the editor offers. -/
inductive Piece where
  | text (plain : String)
  | output (step : Node)
  | iteration

namespace Piece

def write : Piece → String
  | .text plain => plain
  | .output step => placeholderOf step
  | .iteration => Placeholder.write iterationTag

def tag? : Piece → Option String
  | .text _ => none
  | .output step => some (stepTag step.order)
  | .iteration => some iterationTag

def assemble (pieces : List Piece) : String :=
  String.join (pieces.map write)

end Piece

/-- The pieces on offer. A text is free to have anything but opening braces. -/
def Hints.Offers (hints : Hints) : Piece → Prop
  | .text plain => '\x7b' ∉ plain.toList
  | .output step => step ∈ hints.feeders
  | .iteration => hints.iterationAvailable = true

theorem not_mem_stepTag (order : Int) {c : Char} (front : c ∉ "step_".toList) (dash : c ≠ '-')
    (digit : c.isDigit = false) : c ∉ (stepTag order).toList := by
  rw [stepTag, String.toList_append, List.mem_append, not_or]
  refine ⟨front, ?_⟩
  rw [Numeral.write, String.toList_ofList (l := Numeral.digits order)]
  exact Numeral.not_mem_digits dash digit

theorem Hints.Offers.allTags_append {hints : Hints} {piece : Piece} (offered : hints.Offers piece)
    (rest : List Char) :
    Placeholder.allTags (piece.write.toList ++ rest) =
      (piece.tag?.map String.toList).toList ++ Placeholder.allTags rest := by
  cases piece with
  | text plain =>
    have free : ¬['\x7b', '\x7b'] <:+: plain.toList :=
      fun inside => offered (inside.subset List.mem_cons_self)
    have apart : plain.toList.getLast? ≠ some '\x7b' :=
      fun last => offered (List.mem_of_getLast? last)
    exact Placeholder.allTags_append free fun last => absurd last apart
  | output step =>
    have brace : '\x7d' ∉ (stepTag step.order).toList :=
      not_mem_stepTag step.order (by decide) (by decide) (by decide)
    have line : '\n' ∉ (stepTag step.order).toList :=
      not_mem_stepTag step.order (by decide) (by decide) (by decide)
    exact Placeholder.allTags_write_append brace line rest
  | iteration =>
    have brace : '\x7d' ∉ iterationTag.toList := by decide
    have line : '\n' ∉ iterationTag.toList := by decide
    exact Placeholder.allTags_write_append brace line rest

/-- The tags of an assembled content are those of its pieces. -/
theorem tags_assemble {hints : Hints} {pieces : List Piece}
    (offered : ∀ piece ∈ pieces, hints.Offers piece) {tag : String}
    (h : tag ∈ Placeholder.tags (Piece.assemble pieces)) :
    ∃ piece ∈ pieces, piece.tag? = some tag := by
  rw [Placeholder.mem_tags, Piece.assemble, String.toList_join, List.flatMap_map] at h
  induction pieces with
  | nil => cases h
  | cons piece rest ih =>
    obtain ⟨head, tail⟩ := List.forall_mem_cons.mp offered
    rw [List.flatMap_cons, head.allTags_append] at h
    rcases List.mem_append.mp h with here | later
    · rw [Option.mem_toList, Option.map_eq_some_iff] at here
      obtain ⟨found, tagged, same⟩ := here
      exact ⟨piece, List.mem_cons_self, String.toList_injective same ▸ tagged⟩
    · obtain ⟨other, inside, tagged⟩ := ih tail later
      exact ⟨other, List.mem_cons_of_mem _ inside, tagged⟩

/-- The hints allow what they offer. -/
theorem Hints.Offers.allows {hints : Hints} {piece : Piece} (offered : hints.Offers piece)
    {tag : String} (tagged : piece.tag? = some tag) : hints.Allows tag := by
  rw [Hints.allows_iff]
  cases piece with
  | text plain => cases tagged
  | iteration =>
    refine ⟨fun _ => offered, fun values reference => ?_⟩
    cases tagged
    rw [Placeholder.ofTag_eq_iteration_iff.mpr rfl] at reference
    cases reference
  | output step =>
    cases tagged
    refine ⟨fun own => absurd own (Placeholder.ofTag_stepTag_ne_iteration _), ?_⟩
    exact fun values reference =>
      ⟨step, offered, (Placeholder.eq_of_ofTag_stepTag reference).1⟩

section Given

variable {env : Environment} {g : Graph} {p : Profile} {id : String} {hints : Hints}
  (given : hints? env g p id = some hints)

include given

/-- The tags on offer are not too long if the orders can be written. -/
theorem Hints.Offers.length_le {piece : Piece} (offered : hints.Offers piece)
    (fits : ∀ n ∈ g.steps, Numeral.fits n.order = true) {tag : String}
    (tagged : piece.tag? = some tag) {values : List Nat}
    (reference : Placeholder.Reference.ofTag tag = .step values) :
    values.length ≤ Numeral.maxDigits := by
  cases piece with
  | text plain => cases tagged
  | iteration =>
    cases tagged
    rw [Placeholder.ofTag_eq_iteration_iff.mpr rfl] at reference
    cases reference
  | output step =>
    cases tagged
    have mem := (Graph.mem_feeders.mp ((mem_feeders_of_hints? given).mp offered)).1
    rw [(Placeholder.eq_of_ofTag_stepTag reference).2]
    exact Numeral.length_toDigits_le (Numeral.fits_iff.mp (fits step mem))

/-- A check gets past what is on offer, and finds nothing at fault with it. -/
theorem Hints.Offers.tagProblem {piece : Piece} (offered : hints.Offers piece)
    (fits : ∀ n ∈ g.steps, Numeral.fits n.order = true) {n : Node} (here : n.id = id) {tag : String}
    (tagged : piece.tag? = some tag) : g.tagProblem p n tag = .ok none := by
  obtain ⟨problem, checked⟩ : ∃ problem, g.tagProblem p n tag = .ok problem :=
    Graph.exists_tagProblem fun _ => offered.length_le given fits tagged
  rw [checked, (tagProblem_eq_none_iff given here checked).mpr (offered.allows tagged)]

end Given

/-! ## Agreement -/

/-- The hints for a step do not depend on any content. -/
theorem hints_rewritten {env : Environment} {g : Graph} {p : Profile} {s : Node}
    (ids : (g.nodes.map (·.id)).Nodup) (hs : s ∈ g.nodes) (content : String) {hints : Hints}
    (given : hints? env g p s.id = some hints) :
    ∃ shown, hints? env (g.rewritten s content) p s.id = some shown ∧
      shown.toJson = hints.toJson := by
  rw [hints?, Graph.node?_of_mem ids hs] at given
  cases given
  rw [hints?, Graph.rewritten_node? ids hs content]
  refine ⟨_, rfl, ?_⟩
  have sorted : sortByOrder ((g.rewritten s content).feeders s.id) =
      (sortByOrder (g.feeders s.id)).map (·.rewritten s.id content) := by
    rw [Graph.rewritten_feeders ids hs content]
    exact sortByOrder_map fun _ _ => rfl
  simp only [Hints.toJson, sorted, Graph.rewritten_fedByStart ids hs content, List.map_map]
  rfl

/-- A check of a flow in which the content is set finds no placeholder of the step at fault iff the
hints allow every tag. -/
theorem unflagged_iff_allows {env : Environment} {g : Graph} {p : Profile} {s : Node}
    (ids : (g.nodes.map (·.id)).Nodup) (orders : (g.steps.map (·.order)).Nodup) (hs : s ∈ g.steps)
    {hints : Hints} (given : hints? env g p s.id = some hints) {content : String}
    {found : List Finding} (checked : (g.rewritten s content).findings p = .ok found) :
    Unflagged found s.order ↔ ∀ tag ∈ Placeholder.tags content, hints.Allows tag := by
  have inside := (Graph.mem_steps.mp hs).1
  have here := Graph.mem_steps_rewritten ids hs content
  have orders' : ((g.rewritten s content).steps.map (·.order)).Nodup :=
    (Graph.image_rewritten ids inside content).orders.nodup_iff.mpr orders
  obtain ⟨list, step, -⟩ := Graph.exists_stepFindings checked here
  obtain ⟨-, problems, each, -⟩ := Graph.stepFindings_eq_ok_iff.mp step
  rw [mapM_eq_ok_iff] at each
  refine (Graph.unflagged_iff orders' checked here).trans (forall₂_congr fun tag mem => ?_)
  obtain ⟨problem, -, tagged⟩ := exists_of_forall₂ each.flip mem
  rw [Graph.tagProblem_rewritten ids inside] at tagged ⊢
  rw [tagged, ← tagProblem_eq_none_iff given rfl tagged]
  exact ⟨Except.ok.inj, congrArg Except.ok⟩

/-- Hints and checks agree, in a graph whose ids and orders differ. Whatever content a step gets,
its hints stay the same, and a check that is not stopped finds no placeholder of the step at fault iff
they allow every tag of the content. Nothing is ever found about a content that is put together from
texts and from what the hints offer, and the check is not stopped at it if the orders can be
written. -/
theorem hints_agree (env : Environment) {g : Graph} (p : Profile) {s : Node}
    (ids : (g.nodes.map (·.id)).Nodup) (orders : (g.steps.map (·.order)).Nodup)
    (hs : s ∈ g.steps) :
    ∃ hints, hints? env g p s.id = some hints ∧ ∀ content, ∃ h shown,
      g.setField s.id "content" (.str content) = .ok (some ({ s with content }, h)) ∧
        hints? env h p s.id = some shown ∧ shown.toJson = hints.toJson ∧
        (∀ found, h.findings p = .ok found →
          (Unflagged found s.order ↔ ∀ tag ∈ Placeholder.tags content, hints.Allows tag)) ∧
        ∀ pieces, (∀ piece ∈ pieces, hints.Offers piece) → content = Piece.assemble pieces →
          (∀ found, h.findings p = .ok found → Unflagged found s.order) ∧
            ((∀ n ∈ g.steps, Numeral.fits n.order = true) →
              ∃ list, h.stepFindings p { s with content } = .ok list ∧
                ∀ f ∈ list, f.ofPlaceholder = false) := by
  have inside := (Graph.mem_steps.mp hs).1
  obtain ⟨hints, given⟩ : ∃ hints, hints? env g p s.id = some hints := by
    rw [hints?, Graph.node?_of_mem ids inside]
    exact ⟨_, rfl⟩
  refine ⟨hints, given, fun content => ?_⟩
  obtain ⟨shown, again, json⟩ := hints_rewritten ids inside content given
  refine ⟨g.rewritten s content, shown, Graph.setField_content ids inside content, again, json,
    fun found checked => unflagged_iff_allows ids orders hs given checked, ?_⟩
  rintro pieces offered rfl
  refine ⟨fun found checked => ?_, fun fits => ?_⟩
  · refine (unflagged_iff_allows ids orders hs given checked).mpr fun tag mem => ?_
    obtain ⟨piece, mem, tagged⟩ := tags_assemble offered mem
    exact (offered piece mem).allows tagged
  · refine Graph.exists_clear_stepFindings (fits s hs) fun tag mem => ?_
    obtain ⟨piece, mem, tagged⟩ := tags_assemble offered mem
    rw [Graph.tagProblem_rewritten ids inside]
    exact (offered piece mem).tagProblem given fits rfl tagged

/-- Two steps, both behind the start, of which the first feeds the second. -/
def pair : Graph where
  nodes := [Node.start, { id := "a", order := 1, kind := some "sql", content := "SELECT 1" },
    { id := "b", order := 2, kind := some "concat" }]
  edges := [⟨"1", "start", "a"⟩, ⟨"2", "start", "b"⟩, ⟨"3", "a", "b"⟩]

/-- The number of a step may be written in other digits, and with zeros in front. -/
theorem pair_hints_agree :
    ∃ hints, hints? {} pair { name := "Pair", iterates := true, query := "q" } "b" = some hints ∧
      hints.Allows "step_٠١" ∧ hints.Allows "iteration_value" ∧ ¬hints.Allows "step_2" := by
  have ids : (pair.nodes.map (·.id)).Nodup := by decide
  have orders : (pair.steps.map (·.order)).Nodup := by decide
  have hs : { id := "b", order := 2, kind := some "concat" } ∈ pair.steps := by decide
  obtain ⟨hints, given, agree⟩ :=
    hints_agree {} { name := "Pair", iterates := true, query := "q" } ids orders hs
  have inside := (Graph.mem_steps.mp hs).1
  refine ⟨hints, given, ?_⟩
  obtain ⟨h, -, set, -, -, right, -⟩ :=
    agree "\x7b\x7bstep_٠١\x7d\x7d of \x7b\x7biteration_value\x7d\x7d"
  cases (Graph.setField_content ids inside _).symm.trans set
  have allowed := (right [] (by decide +kernel)).mp nofun
  refine ⟨allowed _ (by decide +kernel), allowed _ (by decide +kernel), fun own => ?_⟩
  obtain ⟨h, -, set, -, -, wrong, -⟩ := agree "\x7b\x7bstep_2\x7d\x7d"
  cases (Graph.setField_content ids inside _).symm.trans set
  have tags : Placeholder.tags "\x7b\x7bstep_2\x7d\x7d" = ["step_2"] := by decide +kernel
  have clear := (wrong [.atStep 2 (.notFed "step_2" 2)] (by decide +kernel)).mpr
    (by simpa [tags] using own)
  exact absurd (clear _ List.mem_cons_self rfl) (by decide)

end Stepflow.Canvas
