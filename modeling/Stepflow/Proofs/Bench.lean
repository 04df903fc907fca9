import Mathlib.Logic.Function.Basic
import Stepflow.Bench
import Stepflow.Proofs.Change

/-!
# Graphs that are held together

Drafts with one number hold one graph, whatever is done to them, to others, or to the bench. Which
graph a number stands for changes with each edit; what is kept is that there is one.

Results:
1. `run_coherent`: after any run, drafts with one number hold one graph.
2. `call_failed`: a call that fails, or finds nothing, leaves the bench as it was.
3. `call_elsewhere`: a call on a draft leaves the drafts that hold another graph as they were.
-/

namespace Stepflow.Bench

variable {env : Environment} {b : Bench} {d e : Draft} {s : Supply}

/-- Every number stands for a graph, which is that of all drafts with the number, and the
remembered one. What is said of the drafts leaves out those with the number `apart`. -/
structure Holds (b : Bench) (held : Nat → Graph) (apart : Option Nat) : Prop where
  drafts : ∀ d ∈ b.workspace.drafts, b.number? d.id ≠ apart →
    ∀ number ∈ b.number? d.id, d.graph = held number
  remembered : ∀ r ∈ b.remembered, r.2 = held r.1
  known : ∀ id, ∀ number ∈ b.number? id, number < b.next
  rememberedKnown : ∀ r ∈ b.remembered, r.1 < b.next

def Coherent (b : Bench) : Prop :=
  ∃ held, b.Holds held none

/-- Drafts with one number hold one graph. -/
theorem Coherent.same_graph {number : Nat} (coherent : b.Coherent) (here : d ∈ b.workspace.drafts)
    (there : e ∈ b.workspace.drafts) (numbered : b.number? d.id = some number)
    (alike : b.number? e.id = some number) : d.graph = e.graph := by
  obtain ⟨held, holds⟩ := coherent
  rw [holds.drafts d here (by simp [numbered]) number numbered,
    holds.drafts e there (by simp [alike]) number alike]

/-! ## Drafts that are put in -/

theorem mem_of_mem_putIn {drafts : List Draft} (mem : e ∈ Workspace.putIn d drafts) :
    e = d ∨ e ∈ drafts := by
  induction drafts with
  | nil => exact .inl (List.mem_singleton.mp mem)
  | cons first rest ih =>
    rw [Workspace.putIn] at mem
    split at mem
    · exact (List.mem_cons.mp mem).imp_right (List.mem_cons_of_mem _)
    · rcases List.mem_cons.mp mem with rfl | behind
      · exact .inr List.mem_cons_self
      · exact (ih behind).imp_right (List.mem_cons_of_mem _)

theorem Holds.seat {held : Nat → Graph} (holds : b.Holds held none) (d : Draft)
    {number : Option Nat} (known : ∀ n ∈ number, n < b.next) :
    (b.seat d number).Holds held number where
  drafts e mem other n numbered := by
    simp only [Bench.seat] at mem other numbered
    split at other
    · exact absurd rfl other
    · next elsewhere =>
      rw [if_neg elsewhere] at numbered
      rcases mem_of_mem_putIn mem with rfl | old
      · exact absurd rfl elsewhere
      · exact holds.drafts e old (by simp [Option.mem_def.mp numbered]) n numbered
  remembered := holds.remembered
  known id n numbered := by
    simp only [Bench.seat] at numbered
    split at numbered
    · exact known n numbered
    · exact holds.known id n numbered
  rememberedKnown := holds.rememberedKnown

theorem Holds.spread {held : Nat → Graph} {number : Nat} (holds : b.Holds held (some number))
    (graph : Graph) : (b.spread number graph).Holds (Function.update held number graph) none where
  drafts e mem _ n numbered := by
    obtain ⟨before, there, rfl⟩ := List.mem_map.mp mem
    by_cases same : b.number? before.id = some number
    · rw [if_pos same] at numbered ⊢
      rw [show n = number from Option.some.inj (numbered.symm.trans same), Function.update_self]
    · rw [if_neg same] at numbered ⊢
      rw [Function.update_of_ne fun here : n = number => same (here ▸ numbered)]
      exact holds.drafts before there same n numbered
  remembered r mem := by
    obtain ⟨before, there, rfl⟩ := Option.mem_map.mp mem
    simp only [Function.update_apply]
    split
    · rfl
    · exact holds.remembered before there
  known := holds.known
  rememberedKnown r mem := by
    obtain ⟨before, there, rfl⟩ := Option.mem_map.mp mem
    exact holds.rememberedKnown before there

/-- The bench stays coherent when a draft is put in, whatever its graph is. -/
theorem Coherent.put (coherent : b.Coherent) (d : Draft) {number : Option Nat}
    (known : ∀ n ∈ number, n < b.next) : (b.put d number).Coherent := by
  obtain ⟨held, holds⟩ := coherent
  cases number with
  | none => exact ⟨held, holds.seat d known⟩
  | some number => exact ⟨_, (holds.seat d known).spread d.graph⟩

theorem Coherent.putOwn (coherent : b.Coherent) (d : Draft) : (b.put d none).Coherent :=
  coherent.put d fun _ numbered => absurd numbered (by simp)

/-! ## Operations -/

theorem Coherent.known (coherent : b.Coherent) {id : String} {number : Nat}
    (numbered : number ∈ b.number? id) : number < b.next := by
  obtain ⟨held, holds⟩ := coherent
  exact holds.known id number numbered

theorem perform_coherent (coherent : b.Coherent) (d : Draft) (action : Action) (s : Supply) :
    (b.perform env d action s).2.1.Coherent := by
  unfold perform
  split
  · refine coherent.put _ fun n numbered => ?_
    split at numbered
    · cases numbered
    · exact coherent.known numbered
  · exact coherent.put _ fun n numbered => coherent.known numbered

theorem call_coherent (coherent : b.Coherent) (d : Draft) (call : Call) (s : Supply) :
    (b.call env d call s).2.1.Coherent := by
  unfold Bench.call
  split
  · exact coherent
  · exact coherent
  · exact perform_coherent coherent d _ s

/-- A copy of a graph gets a number that nothing has. -/
theorem Coherent.remember (coherent : b.Coherent) (graph : Graph) :
    ({ b with remembered := some (b.next, graph), next := b.next + 1 } : Bench).Coherent := by
  obtain ⟨held, holds⟩ := coherent
  refine ⟨Function.update held b.next graph, fun d mem numbered n there => ?_, fun r mem => ?_,
    fun id n there => ?_, fun r mem => ?_⟩
  · rw [Function.update_of_ne (Nat.ne_of_lt (holds.known d.id n there))]
    exact holds.drafts d mem numbered n there
  · cases mem
    rw [Function.update_self]
  · exact Nat.lt_succ_of_lt (holds.known id n there)
  · cases mem
    exact Nat.lt_succ_self _

/-- Every operation keeps the bench coherent, whether it succeeds or fails. -/
theorem operate_coherent (env : Environment) (coherent : b.Coherent) (operation : Operation)
    (s : Supply) : (b.operate env operation s).2.1.Coherent := by
  cases operation with
  | create profile => exact coherent.putOwn _
  | delete id =>
    simp only [operate]
    split
    · exact coherent
    · next left deleted =>
      obtain ⟨held, holds⟩ := coherent
      refine ⟨held, fun d mem => holds.drafts d ?_, holds.remembered, holds.known,
        holds.rememberedKnown⟩
      rw [Workspace.eq_of_delete? deleted] at mem
      exact List.mem_of_mem_filter mem
  | importNew payload depth =>
    simp only [operate]
    split
    · exact coherent.putOwn _
    · exact coherent
  | call id call =>
    simp only [operate]
    split
    · exact coherent
    · exact call_coherent coherent _ call s
  | remember id =>
    simp only [operate]
    split
    · exact coherent
    · exact coherent.remember _
  | putBack id =>
    simp only [operate]
    split
    · next d number graph found there =>
      have known : ∀ n ∈ some number, n < b.next := by
        rintro n ⟨⟩
        obtain ⟨held, holds⟩ := coherent
        exact holds.rememberedKnown _ there
      exact coherent.put { d with graph } known
    · exact coherent

/-! ## Runs -/

/-- A bench on which every draft has a graph of its own is coherent. -/
theorem coherent_of_workspace (w : Workspace) : ({ workspace := w } : Bench).Coherent := by
  refine ⟨fun _ => {}, ?_, ?_, ?_, ?_⟩ <;> simp

def run (env : Environment) (b : Bench) (s : Supply) : List Operation → Bench
  | [] => b
  | operation :: rest =>
    let (_, b, s) := b.operate env operation s
    run env b s rest

/-- Whatever is done on a bench, drafts with one number hold one graph. -/
theorem run_coherent (env : Environment) (operations : List Operation) (coherent : b.Coherent)
    (s : Supply) : (b.run env s operations).Coherent := by
  induction operations generalizing b s with
  | nil => exact coherent
  | cons operation rest ih => exact ih (operate_coherent env coherent operation s) _

/-! ## Calls that fail -/

theorem seat_same {id : String} (found : b.workspace.find? id = some d) :
    b.seat d (b.number? d.id) = b := by
  have numbers : (fun id => if id = d.id then b.number? d.id else b.number? id) = b.number? := by
    funext id
    split
    · next same => rw [same]
    · rfl
  rw [seat, numbers, Workspace.put_of_find? found]

/-- On a coherent bench, a graph that is as it was has nothing to change elsewhere. -/
theorem Coherent.spread_same {number : Nat} (coherent : b.Coherent) (mem : d ∈ b.workspace.drafts)
    (numbered : b.number? d.id = some number) : b.spread number d.graph = b := by
  have drafts : (b.workspace.drafts.map fun e =>
      if b.number? e.id = some number then { e with graph := d.graph } else e) =
        b.workspace.drafts := by
    refine (List.map_congr_left fun e there => ?_).trans (List.map_id _)
    split
    · next alike => rw [coherent.same_graph mem there numbered alike, id]
    · rfl
  have remembered : (b.remembered.map fun r => (r.1, if r.1 = number then d.graph else r.2)) =
      b.remembered := by
    obtain ⟨held, holds⟩ := coherent
    cases there : b.remembered with
    | none => rfl
    | some r =>
      rw [Option.map_some, holds.drafts d mem (by simp [numbered]) number numbered]
      split
      · next same => rw [← same, ← holds.remembered r there]
      · rfl
  rw [spread, drafts, remembered]

theorem Coherent.put_same {id : String} (coherent : b.Coherent)
    (found : b.workspace.find? id = some d) : b.put d (b.number? d.id) = b := by
  have seated := seat_same found
  cases numbered : b.number? d.id with
  | none => rwa [numbered] at seated
  | some number =>
    rw [numbered] at seated
    rw [Bench.put, seated]
    exact coherent.spread_same (Workspace.mem_of_find? found) numbered

/-- An action that can put another graph into a draft does not find nothing. -/
theorem missing_of_replacesGraph {action : Action} {reply : Reply} {t : Supply}
    (replaces : action.replacesGraph = true) (h : d.perform env action s = (.ok reply, e, t)) :
    reply.missing = false := by
  have given := Draft.perform_reply h
  cases action with
  | replaceGraph graph | importDocument document | importPayload payload bounds => exact given
  | addStep kind | removeStep id | setField id name value | connect source target iterates
  | disconnect id | changeProfile updates | touch => cases replaces

/-- A call that fails, or finds nothing, leaves the bench as it was. -/
theorem call_failed {id : String} {call : Call} (coherent : b.Coherent)
    (found : b.workspace.find? id = some d) (short : ∀ n ∈ d.graph.nodes, Numeral.Short n.order)
    (failed : Draft.failed (b.call env d call s).1 = true) : (b.call env d call s).2.1 = b := by
  unfold Bench.call at failed ⊢
  split
  · rfl
  · rfl
  · next action meaning =>
    simp only [meaning, perform] at failed ⊢
    have unchanged : Draft.failed (d.perform env action s).1 = true →
        (d.perform env action s).2.1 = d := Draft.perform_failed short
    cases performed : d.perform env action s with
    | mk result rest =>
      obtain ⟨changed, t⟩ := rest
      rw [performed] at unchanged
      cases result with
      | error cause =>
        have same : changed = d := unchanged rfl
        simp only [same, coherent.put_same found]
      | ok reply =>
        simp only [performed] at failed ⊢
        have same : changed = d := unchanged failed
        have replaces : action.replacesGraph = false := by
          refine Bool.eq_false_iff.mpr fun replaces => ?_
          rw [Draft.failed, missing_of_replacesGraph replaces performed] at failed
          cases failed
        rw [replaces, if_neg Bool.false_ne_true, same, coherent.put_same found]

/-! ## Other drafts -/

theorem find?_spread {id : String} {number : Nat} (apart : b.number? id ≠ some number)
    (graph : Graph) : (b.spread number graph).workspace.find? id = b.workspace.find? id := by
  have sameId (d : Draft) :
      ((if b.number? d.id = some number then { d with graph } else d).id == id) = (d.id == id) := by
    split <;> rfl
  show (b.workspace.drafts.map _).find? (·.id == id) = b.workspace.drafts.find? (·.id == id)
  rw [List.find?_map]
  simp only [Function.comp_def, sameId]
  cases found : b.workspace.drafts.find? (·.id == id) with
  | none => rfl
  | some d =>
    have here : d.id = id := Workspace.id_of_find? found
    rw [Option.map_some, here, if_neg apart]

theorem find?_put {id : String} {number : Option Nat} (other : id ≠ d.id)
    (apart : ∀ n ∈ b.number? id, number ≠ some n) :
    (b.put d number).workspace.find? id = b.workspace.find? id := by
  have seated : (b.seat d number).workspace.find? id = b.workspace.find? id :=
    Workspace.find?_put_of_ne other
  cases number with
  | none => exact seated
  | some number =>
    refine (find?_spread ?_ d.graph).trans seated
    rw [seat]
    simp only [if_neg other]
    exact fun same => apart number same rfl

/-- A call on a draft leaves the drafts that hold another graph as they were. -/
theorem call_elsewhere (call : Call) {id : String} (other : id ≠ d.id)
    (apart : ∀ n ∈ b.number? id, b.number? d.id ≠ some n) :
    (b.call env d call s).2.1.workspace.find? id = b.workspace.find? id := by
  unfold Bench.call
  split
  · rfl
  · rfl
  · next action meaning =>
    have same := Draft.perform_id env action d s
    unfold perform
    split
    · next reply changed t performed =>
      rw [performed] at same
      refine find?_put (same ▸ other) ?_
      split
      · exact fun _ _ none => nomatch none
      · exact apart
    · next cause changed t performed =>
      rw [performed] at same
      exact find?_put (same ▸ other) apart

end Stepflow.Bench
