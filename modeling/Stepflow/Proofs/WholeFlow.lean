import Stepflow.Proofs.Complete
import Stepflow.Proofs.Recheck

/-!
# The rules about the whole flow

A check reports first what it finds about the flow as a whole, by four rules in a fixed order. What
a rule asks for is said here in terms of the stored nodes and edges: two places with one order, two
edges that leave a start, the first step of the greatest order, a text of blanks. The findings of
the scope of the whole flow are these and no others.

Three of the rules look at nothing that is lost in a round of export and import. An export sorts the
steps, but leaves steps of one order in their places to each other, so the same one is the last.

Results:
1. `repeatsOrder_iff`, `splitsStart_iff`, `endsOtherwise_iff`, `lacksQuery_iff`: what the rules ask
   for.
2. `filter_global`, `globalReport`: what is said about the flow as a whole.
3. `mem_globalMessages_reimport`: what is said about it after a round.
4. `findings_global`: all of this for one check.
-/

namespace Stepflow

/-! ## What the rules ask for -/

namespace Graph

/-- Two steps at different places have one order. -/
def RepeatsOrder (g : Graph) : Prop :=
  ∃ m n, [m, n].Sublist g.steps ∧ m.order = n.order

/-- The first node with the id is a start. -/
def StandsForStart (g : Graph) (id : String) : Prop :=
  ∃ before n after, g.nodes = before ++ n :: after ∧ (∀ m ∈ before, m.id ≠ id) ∧ n.id = id ∧
    n.isStart = true

/-- The flow does not iterate, and two edges leave a start. -/
def SplitsStart (g : Graph) (p : Profile) : Prop :=
  p.iterates = false ∧
    ∃ e f, [e, f].Sublist g.edges ∧ g.StandsForStart e.source ∧ g.StandsForStart f.source

/-- The first step whose order no other step exceeds is no concatenation. -/
def EndsOtherwise (g : Graph) : Prop :=
  ∃ before n after, g.steps = before ++ n :: after ∧ (∀ m ∈ before, m.order < n.order) ∧
    (∀ m ∈ g.steps, m.order ≤ n.order) ∧ n.kind ≠ some "concat"

end Graph

/-- The flow iterates, and its query holds blanks only. -/
def Profile.LacksQuery (p : Profile) : Prop :=
  p.iterates = true ∧ ∀ c ∈ p.query.toList, Text.isBlank c = true

theorem one_lt_length_iff {α : Type} {items : List α} :
    1 < items.length ↔ ∃ a b, [a, b].Sublist items := by
  constructor
  · intro many
    match items, many with
    | a :: b :: rest, _ => exact ⟨a, b, ((List.nil_sublist rest).cons_cons b).cons_cons a⟩
  · rintro ⟨a, b, two⟩
    exact two.length_le

namespace Graph

variable {g : Graph} {p : Profile}

theorem repeatsOrder_iff : g.RepeatsOrder ↔ hasRepeatedOrder g.steps = true := by
  rw [← Bool.not_eq_false, hasRepeatedOrder_eq_false_iff, List.Nodup, List.pairwise_map,
    List.pairwise_iff_forall_sublist]
  simp [RepeatsOrder]

theorem standsForStart_iff {id : String} : g.StandsForStart id ↔ g.isStart id = true := by
  rw [isStart, node?, Option.any_eq_true]
  constructor
  · rintro ⟨before, n, after, split, earlier, here, start⟩
    refine ⟨n, List.find?_eq_some_iff_append.mpr ⟨beq_iff_eq.mpr here, before, after, split, ?_⟩,
      start⟩
    simpa using earlier
  · rintro ⟨n, found, start⟩
    obtain ⟨here, before, after, split, earlier⟩ := List.find?_eq_some_iff_append.mp found
    exact ⟨before, n, after, split, by simpa using earlier, beq_iff_eq.mp here, start⟩

theorem splitsStart_iff : g.SplitsStart p ↔ g.startIsSplit p = true := by
  have pairs : (∃ e f, [e, f].Sublist g.edgesFromStart) ↔
      ∃ e f, [e, f].Sublist g.edges ∧ g.isStart e.source = true ∧ g.isStart f.source = true := by
    refine exists_congr fun e => exists_congr fun f => ?_
    constructor
    · intro two
      have leaves {d : Edge} (hd : d ∈ [e, f]) : g.isStart d.source = true :=
        (List.mem_filter.mp (two.subset hd)).2
      exact ⟨two.trans List.filter_sublist, leaves (by simp), leaves (by simp)⟩
    · rintro ⟨two, first, second⟩
      have kept : ([e, f].filter fun e => g.isStart e.source).Sublist g.edgesFromStart :=
        two.filter _
      simpa only [List.filter_cons, List.filter_nil, first, second, if_true] using kept
  simp only [SplitsStart, standsForStart_iff, ← pairs, ← one_lt_length_iff]
  rw [startIsSplit, Bool.and_eq_true, Bool.not_eq_true', decide_eq_true_eq]

theorem endsOtherwise_iff :
    g.EndsOtherwise ↔ ∃ n, lastStep? g.steps = some n ∧ n.isKind .concat = false := by
  have other (n : Node) : n.isKind .concat = false ↔ n.kind ≠ some "concat" :=
    beq_eq_false_iff_ne
  simp only [other]
  constructor
  · rintro ⟨before, n, after, split, lower, top, kind⟩
    have upper : ∀ m ∈ after, m.order ≤ n.order := by
      intro m hm
      refine top m ?_
      rw [split]
      exact List.mem_append_right _ (List.mem_cons_of_mem _ hm)
    exact ⟨n, lastStep?_eq_some_iff.mpr ⟨before, after, split, lower, upper⟩, kind⟩
  · rintro ⟨n, last, kind⟩
    obtain ⟨before, after, split, lower, -⟩ := lastStep?_eq_some_iff.mp last
    exact ⟨before, n, after, split, lower, (lastStep?_spec last).2, kind⟩

end Graph

theorem Profile.lacksQuery_iff {p : Profile} :
    p.LacksQuery ↔ p.iterates = true ∧ Text.blank p.query = true := by
  rw [LacksQuery, Text.blank, List.all_eq_true]

/-! ## Messages about the whole flow -/

namespace Finding

/-- The findings about the whole flow, in the order of the rules. -/
def flowWide : List Finding :=
  [.duplicateOrders, .severalFirstSteps, .lastNotConcat, .queryEmpty]

theorem scope_of_flowWide : ∀ f ∈ flowWide, f.scope = "global" := by
  decide

/-- Findings about the whole flow are told apart by what they say. -/
theorem message_inj {f k : Finding} (hf : f ∈ flowWide) (hk : k ∈ flowWide)
    (same : f.message = k.message) : f = k :=
  List.inj_on_of_nodup_map (by decide) hf hk same

end Finding

theorem stepScope_ne_global (order : String) : stepScope order ≠ "global" := by
  intro same
  have text := congrArg String.toList same
  rw [stepScope, String.toList_append] at text
  cases text

def globalMessages (found : List Finding) : List String :=
  (found.filter (·.scope == "global")).map (·.message)

namespace Graph

/-- The messages about a flow as a whole: their order, and when there is which. -/
structure GlobalReport (g : Graph) (p : Profile) (messages : List String) : Prop where
  listed : messages.Sublist
    ["Duplicate Sequence # Detected", "Invalid Start Connection (Single path only)",
      "Flow must end with CONCAT", "Iteration Query Empty"]
  duplicate : "Duplicate Sequence # Detected" ∈ messages ↔ g.RepeatsOrder
  split : "Invalid Start Connection (Single path only)" ∈ messages ↔ g.SplitsStart p
  last : "Flow must end with CONCAT" ∈ messages ↔ g.EndsOtherwise
  query : "Iteration Query Empty" ∈ messages ↔ p.LacksQuery

/-- Each rule is looked at once, in a fixed order. -/
theorem globalFindings_sublist (g : Graph) (p : Profile) :
    (g.globalFindings p).Sublist Finding.flowWide := by
  have one (rule : Bool) (f : Finding) : (if rule then [f] else []).Sublist [f] := by
    cases rule with
    | false => exact List.nil_sublist _
    | true => exact List.Sublist.refl _
  exact (((one _ _).append (one _ _)).append (one _ _)).append (one _ _)

section Checked

variable {g : Graph} {p : Profile} {found : List Finding} (checked : g.findings p = .ok found)

include checked

/-- No report about a step has the scope of the whole flow. -/
theorem filter_global : found.filter (·.scope == "global") = g.globalFindings p := by
  have none : g.steps.filter (fun n => stepScope (Numeral.write n.order) == "global") = [] := by
    rw [List.filter_eq_nil_iff]
    intro n _
    rw [beq_iff_eq]
    exact stepScope_ne_global _
  rw [findings_eq_reports checked, List.filter_append, filter_reports, none, List.flatMap_nil,
    List.append_nil, List.filter_eq_self]
  intro f hf
  rw [beq_iff_eq]
  exact Finding.scope_of_flowWide f ((globalFindings_sublist g p).subset hf)

theorem global_first : found.filter (·.scope == "global") <+: found := by
  rw [filter_global checked, findings_eq_reports checked]
  exact List.prefix_append _ _

theorem message_mem_iff {f : Finding} (hf : f ∈ Finding.flowWide) :
    f.message ∈ globalMessages found ↔ f ∈ g.globalFindings p := by
  rw [globalMessages, filter_global checked, List.mem_map]
  constructor
  · rintro ⟨k, hk, same⟩
    rwa [← Finding.message_inj ((globalFindings_sublist g p).subset hk) hf same]
  · exact fun here => ⟨f, here, rfl⟩

theorem globalReport : g.GlobalReport p (globalMessages found) where
  listed := by
    rw [globalMessages, filter_global checked]
    exact (globalFindings_sublist g p).map (·.message)
  duplicate := (message_mem_iff checked (f := .duplicateOrders) (by decide)).trans <| by
    simp [mem_globalFindings, repeatsOrder_iff]
  split := (message_mem_iff checked (f := .severalFirstSteps) (by decide)).trans <| by
    simp [mem_globalFindings, splitsStart_iff]
  last := (message_mem_iff checked (f := .lastNotConcat) (by decide)).trans <| by
    simp [mem_globalFindings, endsOtherwise_iff]
  query := (message_mem_iff checked (f := .queryEmpty) (by decide)).trans <| by
    simp [mem_globalFindings, Profile.lacksQuery_iff]

/-- A round keeps all that is said about the flow as a whole, except whether the start is split. -/
theorem mem_globalMessages_reimport {env : Environment} {supply : Supply} {later : List Finding}
    (again : (g.reimport env p supply).1.findings (g.reimport env p supply).2 = .ok later)
    {message : String} (other : message ≠ Finding.severalFirstSteps.message) :
    message ∈ globalMessages later ↔ message ∈ globalMessages found := by
  rw [globalMessages, globalMessages, filter_global checked, filter_global again, List.mem_map,
    List.mem_map]
  refine exists_congr fun f => and_congr_left fun said => ?_
  refine mem_globalFindings_reimport env g p supply ?_
  rintro rfl
  exact other said.symm

end Checked

/-! ## The rules after a round -/

section Round

variable (env : Environment) (g : Graph) (p : Profile) (supply : Supply)

/-- The orders and the content of the steps come back, so a check gets as far as it got before. -/
theorem exists_findings_reimport :
    (∃ later, (g.reimport env p supply).1.findings (g.reimport env p supply).2 = .ok later) ↔
      ∃ found, g.findings p = .ok found := by
  rw [exists_findings_iff_short, exists_findings_iff_short]
  constructor
  · intro each n hn
    obtain ⟨b, hb, ofN⟩ := exists_built p supply hn
    have same := each b.node (reimport_steps.mpr ⟨b, hb, rfl⟩)
    rwa [order_of_record ofN, content_of_record ofN] at same
  · intro each t ht
    obtain ⟨b, hb, rfl⟩ := reimport_steps.mp ht
    obtain ⟨n, hn, ofN⟩ := exists_of_built hb
    rw [order_of_record ofN, content_of_record ofN]
    exact each n hn

theorem repeatsOrder_reimport : (g.reimport env p supply).1.RepeatsOrder ↔ g.RepeatsOrder := by
  rw [repeatsOrder_iff, repeatsOrder_iff, hasRepeatedOrder_reimport]

theorem endsOtherwise_reimport : (g.reimport env p supply).1.EndsOtherwise ↔ g.EndsOtherwise := by
  rw [endsOtherwise_iff, endsOtherwise_iff, ← Option.map_eq_some_iff, ← Option.map_eq_some_iff,
    map_lastStep?_reimport]

theorem lacksQuery_reimport : (g.reimport env p supply).2.LacksQuery ↔ p.LacksQuery := by
  obtain ⟨iterates, query⟩ := reimport_profile env g p supply
  rw [Profile.LacksQuery, Profile.LacksQuery, iterates, query]
  exact and_congr_right fun on => by rw [if_pos on]

end Round

/-- What a check finds about a flow as a whole comes first, in a fixed order and without repetition,
and each of it is found iff the stored nodes and edges are at fault. A round of export and import
changes nothing about it, except what the start leads to. -/
theorem findings_global (g : Graph) (p : Profile) (env : Environment) (supply : Supply) :
    (∀ found, g.findings p = .ok found →
      found.filter (·.scope == "global") <+: found ∧ g.GlobalReport p (globalMessages found) ∧
      ∃ later, (g.reimport env p supply).1.findings (g.reimport env p supply).2 = .ok later ∧
        ∀ message, message ≠ "Invalid Start Connection (Single path only)" →
          (message ∈ globalMessages later ↔ message ∈ globalMessages found)) ∧
      ((g.reimport env p supply).1.RepeatsOrder ↔ g.RepeatsOrder) ∧
      ((g.reimport env p supply).1.EndsOtherwise ↔ g.EndsOtherwise) ∧
      ((g.reimport env p supply).2.LacksQuery ↔ p.LacksQuery) := by
  refine ⟨fun found checked => ?_, repeatsOrder_reimport env g p supply,
    endsOtherwise_reimport env g p supply, lacksQuery_reimport env g p supply⟩
  obtain ⟨later, again⟩ := (exists_findings_reimport env g p supply).mpr ⟨found, checked⟩
  refine ⟨global_first checked, globalReport checked, later, again, fun message other => ?_⟩
  exact mem_globalMessages_reimport checked again other

/-- The start leads to two steps. Three steps share the last order, and the first of them is no
concatenation, although the others are. The id of the start is also that of a step. -/
def tied : Graph where
  nodes := [{ id := "merge", order := 3, kind := some "llm" }, Node.start,
    { id := "sum", order := 3, kind := some "concat" }, { id := "load", order := 1 },
    { id := "start", order := 3, kind := some "concat" }]
  edges := [⟨"1", "start", "load"⟩, ⟨"2", "load", "merge"⟩, ⟨"3", "start", "sum"⟩]

theorem tied_findings :
    tied.findings { name := "Tied" } =
        .ok [.duplicateOrders, .severalFirstSteps, .lastNotConcat] ∧
      tied.GlobalReport { name := "Tied" }
        ["Duplicate Sequence # Detected", "Invalid Start Connection (Single path only)",
          "Flow must end with CONCAT"] ∧
      ∃ later, (tied.reimport {} { name := "Tied" } .numbered).1.findings
          (tied.reimport {} { name := "Tied" } .numbered).2 = .ok later ∧
        "Flow must end with CONCAT" ∈ globalMessages later := by
  have checked : tied.findings { name := "Tied" } =
      .ok [.duplicateOrders, .severalFirstSteps, .lastNotConcat] := by
    decide +kernel
  obtain ⟨reported, -⟩ := findings_global tied { name := "Tied" } {} .numbered
  obtain ⟨-, report, later, again, kept⟩ := reported _ checked
  exact ⟨checked, report, later, again, (kept _ (by decide)).mpr (by decide)⟩

end Graph

end Stepflow
