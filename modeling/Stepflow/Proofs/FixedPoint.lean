import Stepflow.Proofs.Round

/-!
# Rounds reach a fixed point

Whatever a document holds, importing and exporting it again and again comes to rest. The first
round makes everything readable, the second one settles the dependencies, and the third one the
iterable orders: an order that is listed because some step of it follows the start by itself is
wanted one round later, and may then be listed once more for its last step.

Results:
1. `listed_settles`, `listed_settles_of_nodup`: how the iterable orders come to rest.
2. `round_settled`: what holds of a document after one round.
3. `round_eq_self`: when a further round changes nothing.
4. `rounds_settle`: three rounds are enough for every document, and two for most.
-/

namespace Stepflow

open Import

/-! ## Iterable orders -/

namespace Import

section Marks

variable {marks : List (Int × Bool)} {first second third : List Int}
  (once : ∀ k, k ∈ second ↔ 0 < listed marks first k)

include once

/-- Orders that have been listed twice are listed the same way for good. -/
theorem listed_settles (twice : ∀ k, k ∈ third ↔ 0 < listed marks second k) (k : Int) :
    listed marks third k = listed marks second k := by
  have before := once k
  have after := twice k
  unfold listed at *
  by_cases some_follow : 0 < marks.countP (fun mark => mark.1 == k && mark.2)
  · have early : k ∈ second := before.mpr (by omega)
    have late : k ∈ third := after.mpr (by omega)
    simp only [early, late]
  · -- No step follows by itself, so the order is listed iff it was wanted before.
    by_cases last : (marks.reverse.find? (·.1 == k)).any (!·.2) = true
    · simp only [last, and_true] at after ⊢
      by_cases early : k ∈ second
      · simp only [early, if_true] at after ⊢
        rw [if_pos (after.mpr (by omega))]
      · simp only [early, if_false] at after ⊢
        rw [if_neg fun late => by have := after.mp late; omega]
    · simp [last]

/-- Where no order comes twice, orders that have been listed once are listed the same way. -/
theorem listed_settles_of_nodup (nodup : (marks.map (·.1)).Nodup) (k : Int) :
    listed marks second k = listed marks first k := by
  by_cases present : k ∈ marks.map (·.1)
  · obtain ⟨⟨order, follows⟩, hk, rfl⟩ := List.mem_map.mp present
    have before := once order
    rw [listed_of_nodup nodup hk] at before
    rw [listed_of_nodup nodup hk, listed_of_nodup nodup hk]
    cases follows with
    | true => simp
    | false =>
      by_cases early : order ∈ first
      · simp only [early, or_true, if_true, Nat.zero_lt_one, iff_true] at before
        simp [before, early]
      · simp only [early, or_false, Bool.false_eq_true, if_false, Nat.lt_irrefl, iff_false]
          at before
        simp [before, early]
  · rw [listed_of_not_mem present, listed_of_not_mem present]

end Marks

end Import

/-! ## After one round -/

namespace Document

/-- A document in which an import finds nothing to make up but dependencies. -/
structure Settled (env : Environment) (d : Document) : Prop extends d.Regular where
  named : (filled (some d.name)).getD env.importedFlowName = d.name
  records : ∀ r ∈ d.steps, ∀ dependsOn, r.round dependsOn = { r with dependsOn }
  delivered : d.delivery.map (List.map Delivery.received) = d.delivery

end Document

theorem iterable_eq_of_getD {d e : Document} (regular : d.Regular) (regular' : e.Regular)
    (iterates : d.iterates = e.iterates) (orders : d.iterable.getD [] = e.iterable.getD []) :
    d.iterable = e.iterable := by
  have here := regular.iterable
  have there := regular'.iterable
  rw [← iterates, ← here] at there
  cases held : d.iterable with
  | none =>
    rw [held, Option.isSome_none, Option.isSome_eq_false_iff, Option.isNone_iff_eq_none] at there
    exact there.symm
  | some _ =>
    obtain ⟨_, held'⟩ := Option.isSome_iff_exists.mp (there.trans (by rw [held]; rfl))
    rw [held, held', Option.getD_some, Option.getD_some] at orders
    rw [held', orders]

theorem filled_getD_idem (s : Option String) (default : String) :
    (filled (some ((filled s).getD default))).getD default = (filled s).getD default := by
  cases held : filled s with
  | none =>
    rw [Option.getD_none]
    by_cases empty : default = ""
    · subst empty
      rfl
    · rw [filled_some_of_ne empty, Option.getD_some]
  | some text => rw [Option.getD_some, filled_some_of_ne (filled_eq_some_iff.mp held).2,
      Option.getD_some]

theorem received_delivery (rule : List (String × Json)) :
    (delivery rule).received = delivery rule := by
  have method := filled_getD_idem (text? rule "method") "email"
  unfold Delivery.received
  show ({ delivery rule with method := _ } : Delivery) = _
  rw [show (delivery rule).method = (filled (text? rule "method")).getD "email" from rfl, method]
  rfl

theorem Node.record_round_of_keeps {n : Node} (keeps : n.Keeps) (fits : n.RangeFits)
    (dependsOn other : Option String) :
    (n.record dependsOn).round other = { n.record dependsOn with dependsOn := other } := by
  rw [← Graph.record_with]
  have kept := (Node.record_round_iff other other fits).mpr ⟨keeps, rfl⟩
  rw [Graph.record_with n dependsOn other] at kept ⊢
  exact kept

/-- What holds of a document after one round. -/
theorem round_settled (env : Environment) (fields : List (String × Json)) (supply : Supply) :
    (Import.round env fields supply).Settled env where
  toRegular := round_regular env fields supply
  named := filled_getD_idem _ _
  records := by
    intro r hr other
    obtain ⟨n, hn, rfl⟩ := List.mem_map.mp hr
    change n ∈ (graph fields supply).1.sortedSteps at hn
    rw [Graph.mem_sortedSteps, graph_steps] at hn
    obtain ⟨b, hb, rfl⟩ := List.mem_map.mp hn
    obtain ⟨i, -, here⟩ := mem_build hb
    rw [here]
    exact Node.record_round_of_keeps (node_keeps _ _ _)
      (Node.rangeFits_of_amount fun _ => node_fits) _ other
  delivered := by
    have all : ((profile env fields).delivery).map Delivery.received = (profile env fields).delivery := by
      unfold profile
      rw [List.map_map]
      exact List.map_congr_left fun rule _ => received_delivery rule
    have written : (Import.round env fields supply).delivery =
        if (profile env fields).delivery.isEmpty then none else some (profile env fields).delivery :=
      rfl
    rw [written]
    split
    · rfl
    · rw [Option.map_some, all]

/-! ## Further rounds -/

section Settled

variable {env : Environment} {d : Document} (settled : d.Settled env)
  (fits : ∀ k ∈ d.orders, Numeral.fits k = true) {supply : Supply}
  (distinct : ((built d.toFields supply).map (·.node.id)).Nodup)

include settled fits distinct

theorem round_steps_of_settled :
    (Import.round env d.toFields supply).steps =
      d.steps.map fun r => { r with dependsOn := d.resolved r } := by
  rw [round_steps settled.toRegular fits distinct]
  exact List.map_congr_left fun r hr => settled.records r hr _

theorem round_orders : (Import.round env d.toFields supply).orders = d.orders := by
  rw [Document.orders, round_steps_of_settled settled fits distinct, List.map_map]
  rfl

/-- A round changes no step of the first order, so the same steps follow the start. -/
theorem round_marks :
    (Import.round env d.toFields supply).steps.map StepRecord.mark = d.steps.map StepRecord.mark := by
  rw [round_steps_of_settled settled fits distinct, List.map_map]
  refine List.map_congr_left fun r _ => ?_
  rw [Function.comp_apply, StepRecord.mark, StepRecord.mark, Document.resolved]
  by_cases first : r.order = 1
  · simp [first]
  · simp only [beq_eq_false_iff_ne.mpr first, Bool.and_false]

/-- After a second round, no dependency is made up any more. -/
theorem round_resolved :
    ∀ r ∈ (Import.round env d.toFields supply).steps,
      (Import.round env d.toFields supply).resolved r = r.dependsOn := by
  intro r hr
  have orders := round_orders settled fits distinct
  rw [round_steps_of_settled settled fits distinct] at hr
  obtain ⟨before, -, rfl⟩ := List.mem_map.mp hr
  unfold Document.resolved
  rw [orders]
  cases before.dependsOn with
  | some text => rfl
  -- What was missing has been made up, so nothing is left to make up.
  | none => simp

/-- When a further round changes nothing. -/
theorem round_eq_self (resolved : ∀ r ∈ d.steps, d.resolved r = r.dependsOn)
    (same : d.iterates = true → ∀ k, listed (d.steps.map StepRecord.mark) (d.iterable.getD []) k =
      (d.iterable.getD []).count k) :
    Import.round env d.toFields supply = d := by
  have regular := settled.toRegular
  have steps : (Import.round env d.toFields supply).steps = d.steps := by
    rw [round_steps_of_settled settled fits distinct]
    nth_rewrite 2 [← List.map_id d.steps]
    refine List.map_congr_left fun r hr => ?_
    rw [resolved r hr]
    rfl
  have orders : (Import.round env d.toFields supply).iterable.getD [] = d.iterable.getD [] := by
    refine eq_of_count (round_regular env _ supply).iterable_sorted regular.iterable_sorted ?_
    intro k
    rw [count_round_iterable regular env supply fits distinct]
    split
    · next on => exact same on k
    · next off =>
      -- A document that does not iterate has no list of iterable orders at all.
      have absent : d.iterable = none := by
        rw [← Option.isNone_iff_eq_none, ← Option.isSome_eq_false_iff, regular.iterable]
        simpa using off
      rw [absent]
      rfl
  have iterable := iterable_eq_of_getD (round_regular env _ supply) regular
    (round_iterates env supply) orders
  exact Document.ext ((round_name env supply).trans settled.named) (round_iterates env supply)
    iterable (round_query regular env supply) steps
    ((round_delivery regular env supply).trans settled.delivered)

end Settled

/-! ## Rounds in a row -/

namespace Import

/-- A document after some rounds, each with tags of its own. -/
def rounds (env : Environment) (fields : List (String × Json)) (supply : Nat → Supply) :
    Nat → List (String × Json)
  | 0 => fields
  | k + 1 => (round env (rounds env fields supply k) (supply k)).toFields

/-- The document that the round after the first `k` ones makes. -/
def stage (env : Environment) (fields : List (String × Json)) (supply : Nat → Supply) (k : Nat) :
    Document :=
  round env (rounds env fields supply k) (supply k)

theorem stage_succ (env : Environment) (fields : List (String × Json)) (supply : Nat → Supply)
    (k : Nat) :
    stage env fields supply (k + 1) =
      round env (stage env fields supply k).toFields (supply (k + 1)) :=
  rfl

theorem round_orders_perm (env : Environment) (fields : List (String × Json)) (supply : Supply) :
    (round env fields supply).orders.Perm (orders fields) := by
  have written : (round env fields supply).orders =
      (graph fields supply).1.sortedSteps.map (·.order) := Graph.document_orders _ _
  rw [written, ← built_orders fields supply]
  refine ((Graph.sortedSteps_perm _).map _).trans ?_
  rw [graph_steps, List.map_map]
  exact .refl _

section Rounds

variable {env : Environment} {fields : List (String × Json)} {supply other : Nat → Supply}
  (fits : ∀ n ∈ orders fields, Numeral.fits n = true)
  (fresh : ∀ k, (supply k).Distinct (orders fields).length)
  (fresh' : ∀ k, (other k).Distinct (orders fields).length)

theorem rounds_orders_perm (k : Nat) : (orders (rounds env fields supply k)).Perm (orders fields) := by
  induction k with
  | zero => exact .refl _
  | succ k ih =>
    rw [rounds, orders_toFields]
    exact (round_orders_perm env _ _).trans ih

include fits in
theorem stage_fits (k : Nat) :
    ∀ n ∈ (stage env fields supply k).orders, Numeral.fits n = true := by
  intro n hn
  have moved := (round_orders_perm env (rounds env fields supply k) (supply k)).trans
    (rounds_orders_perm k)
  exact fits n (moved.mem_iff.mp hn)

theorem stage_settled (k : Nat) : (stage env fields supply k).Settled env :=
  round_settled _ _ _

theorem stage_iterates (k : Nat) :
    (stage env fields supply k).iterates = (get fields "iterate_flow").truthy := by
  induction k with
  | zero => rfl
  | succ k ih => rw [stage_succ, round_iterates, ih]

include fresh

theorem rounds_ids_nodup (k : Nat) :
    ((built (rounds env fields supply k) (supply k)).map (·.node.id)).Nodup := by
  refine ids_nodup_of_fresh ?_
  rw [(rounds_orders_perm k).length_eq]
  exact fresh k

include fresh' in
/-- Nor do rounds in a row depend on the tags that are drawn for them. -/
theorem rounds_independent (k : Nat) : rounds env fields supply k = rounds env fields other k := by
  induction k with
  | zero => rfl
  | succ k ih =>
    have here : ((built (rounds env fields supply k) (supply k)).map (·.node.id)).Nodup :=
      rounds_ids_nodup fresh k
    have there : ((built (rounds env fields supply k) (other k)).map (·.node.id)).Nodup :=
      ih ▸ rounds_ids_nodup fresh' k
    rw [rounds, rounds, ← ih, round_independent here there]

include fits

theorem stage_marks (k : Nat) :
    (stage env fields supply k).steps.map StepRecord.mark =
      (stage env fields supply 0).steps.map StepRecord.mark := by
  induction k with
  | zero => rfl
  | succ k ih =>
    rw [← ih, stage_succ]
    exact round_marks (stage_settled k) (stage_fits fits k) (rounds_ids_nodup fresh (k + 1))

theorem stage_resolved (k : Nat) :
    ∀ r ∈ (stage env fields supply (k + 1)).steps,
      (stage env fields supply (k + 1)).resolved r = r.dependsOn :=
  round_resolved (stage_settled k) (stage_fits fits k) (rounds_ids_nodup fresh (k + 1))

theorem stage_count (on : (get fields "iterate_flow").truthy = true) (k : Nat) (order : Int) :
    ((stage env fields supply (k + 1)).iterable.getD []).count order =
      listed ((stage env fields supply 0).steps.map StepRecord.mark)
        ((stage env fields supply k).iterable.getD []) order := by
  rw [stage_succ, count_round_iterable (stage_settled k).toRegular env _ (stage_fits fits k)
    (rounds_ids_nodup fresh (k + 1)), stage_iterates, if_pos on, stage_marks fits fresh k]

theorem mem_stage (on : (get fields "iterate_flow").truthy = true) (k : Nat) (order : Int) :
    order ∈ (stage env fields supply (k + 1)).iterable.getD [] ↔
      0 < listed ((stage env fields supply 0).steps.map StepRecord.mark)
        ((stage env fields supply k).iterable.getD []) order := by
  rw [← List.count_pos_iff, stage_count fits fresh on]

/-- From the second document on, only the iterable orders can still change. -/
theorem rounds_eq_of_listed (k : Nat)
    (same : (get fields "iterate_flow").truthy = true → ∀ order,
      listed ((stage env fields supply 0).steps.map StepRecord.mark)
          ((stage env fields supply (k + 1)).iterable.getD []) order =
        listed ((stage env fields supply 0).steps.map StepRecord.mark)
          ((stage env fields supply k).iterable.getD []) order) :
    rounds env fields supply (k + 3) = rounds env fields supply (k + 2) := by
  refine congrArg Document.toFields ?_
  refine round_eq_self (stage_settled (k + 1)) (stage_fits fits (k + 1))
    (rounds_ids_nodup fresh (k + 2)) (stage_resolved fits fresh k) fun on order => ?_
  rw [stage_iterates] at on
  rw [stage_marks fits fresh (k + 1), stage_count fits fresh on k, same on order]

end Rounds

/-- Three rounds bring every document to rest. Two are enough for a document that does not iterate
or whose steps have distinct orders. -/
theorem rounds_settle (env : Environment) (fields : List (String × Json))
    (integers : ∀ step ∈ objects fields "steps", ∀ n,
      get step "sequence_order" = .int n → Numeral.fits n = true)
    (short : (objects fields "steps").length < 10 ^ Numeral.maxDigits)
    (supply other : Nat → Supply)
    (fresh : ∀ k, (supply k).Distinct (objects fields "steps").length)
    (fresh' : ∀ k, (other k).Distinct (objects fields "steps").length) :
    rounds env fields supply 4 = rounds env fields other 3 ∧
      ((orders fields).Nodup ∨ (get fields "iterate_flow").truthy = false →
        rounds env fields supply 3 = rounds env fields other 2) := by
  have fits := fits_of_mem_orders integers short
  rw [← orders_length] at fresh fresh'
  have same (k : Nat) : rounds env fields supply k = rounds env fields other k :=
    rounds_independent fresh fresh' k
  rw [← same 3, ← same 2]
  constructor
  · refine rounds_eq_of_listed fits fresh 1 fun on => ?_
    -- Which orders are listed is settled after two rounds, and with it how often.
    exact listed_settles (mem_stage fits fresh on 0) (mem_stage fits fresh on 1)
  · intro few
    refine rounds_eq_of_listed fits fresh 0 fun on => ?_
    cases few with
    | inl distinct =>
      have nodup : (((stage env fields supply 0).steps.map StepRecord.mark).map (·.1)).Nodup := by
        rw [List.map_map]
        exact (round_orders_perm env fields (supply 0)).nodup_iff.mpr distinct
      exact listed_settles_of_nodup (mem_stage fits fresh on 0) nodup
    | inr off =>
      rw [off] at on
      cases on

/-- Two steps of one order, of which the first names a step that is not there. The first round
drops the name, the second one lists the order, and the third one lists it twice. -/
def clash : List (String × Json) :=
  [("iterate_flow", .bool true),
    ("steps", .list
      [.obj [("sequence_order", .int 1), ("depends_on", .str "9")],
        .obj [("sequence_order", .int 1), ("depends_on", .str "1")]])]

theorem clash_rounds_settle :
    rounds {} clash (fun _ => .numbered) 4 = rounds {} clash (fun _ => .numbered) 3 := by
  have fresh : Supply.numbered.Distinct 2 := Supply.distinct_of_nodup (by decide)
  refine (rounds_settle {} clash ?_ (by decide +kernel) _ _ (fun _ => fresh) fun _ => fresh).1
  intro step hs n hn
  have first : get step "sequence_order" = .int 1 := by
    have steps : objects clash "steps" = [[("sequence_order", .int 1), ("depends_on", .str "9")],
      [("sequence_order", .int 1), ("depends_on", .str "1")]] := rfl
    rw [steps, List.mem_pair] at hs
    rcases hs with rfl | rfl <;> rfl
  rw [first] at hn
  cases hn
  decide +kernel

end Import

end Stepflow
