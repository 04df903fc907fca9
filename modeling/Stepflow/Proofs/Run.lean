import Stepflow.Proofs.Failure
import Stepflow.Proofs.Sound

/-!
# Runs of actions

A run performs actions one after the other on a draft, whether they succeed or fail. What an action
can do to a graph is said once, by `Graph.Step`; that it keeps the graph sound follows case by case.

Results:
1. `perform_step`: every action but a replacement of the graph makes a step.
2. `Graph.Step.grown`: every step keeps a grown graph grown.
3. `run_sound`: after any run from a new draft, the graph is sound.
-/

namespace Stepflow

/-- What actions make of a graph, and of the supply that tags are drawn from. -/
inductive Graph.Step (g : Graph) (s : Supply) : Graph → Supply → Prop
  | same {t : Supply} : s.Later t → Step g s g t
  | addStep {kind : String} : Step g s (g.addStep kind s).2.1 (g.addStep kind s).2.2
  | removeStep {id : String} {h : Graph} : g.removeStep? id = some h → Step g s h s
  | setField {id name : String} {value : Json} {n : Node} {h : Graph} :
      g.setField id name value = .ok (some (n, h)) → Step g s h s
  | connect {source target : String} {iterates : Bool} {e : Edge} {h : Graph} {t : Supply} :
      g.connect source target iterates s = .ok (e, h, t) → Step g s h t
  | disconnect {id : String} {h : Graph} : g.disconnect? id = some h → Step g s h s
  | importGraph {fields : List (String × Json)} {t : Supply} :
      (Import.graph fields s).2.Later t → Step g s (Import.graph fields s).1 t

namespace Draft

theorem importOutcome_step (env : Environment) (d : Draft) (s : Supply)
    (fields : Except Import.Refusal (List (String × Json))) :
    d.graph.Step s (d.importOutcome env s fields).2.1.graph (d.importOutcome env s fields).2.2 := by
  rcases importOutcome_cases env d s fields with ⟨found, -, made⟩ | ⟨_, later, failed, after⟩
  · rw [made]
    exact .importGraph (Supply.later_now _)
  · rw [failed]
    exact .same after

/-- Every action but a replacement of the graph makes a step. -/
theorem perform_step (env : Environment) {action : Action} (kept : ∀ g, action ≠ .replaceGraph g)
    (d : Draft) (s : Supply) :
    d.graph.Step s (d.perform env action s).2.1.graph (d.perform env action s).2.2 := by
  cases action with
  | addStep kind => exact .addStep
  | removeStep id =>
    cases done : d.graph.removeStep? id with
    | none =>
      simp only [perform, done]
      exact .same (.refl s)
    | some g =>
      simp only [perform, done]
      exact .removeStep done
  | setField id name value =>
    cases done : d.graph.setField id name value with
    | error error =>
      simp only [perform, done]
      exact .same (.refl s)
    | ok found =>
      cases found with
      | none =>
        simp only [perform, done]
        exact .same (.refl s)
      | some pair =>
        simp only [perform, done]
        exact .setField done
  | connect source target iterates =>
    cases done : d.graph.connect source target (iterates.getD d.profile.iterates) s with
    | error error =>
      simp only [perform, done]
      exact .same (.refl s)
    | ok made =>
      simp only [perform, done]
      exact .connect done
  | disconnect id =>
    cases done : d.graph.disconnect? id with
    | none =>
      simp only [perform, done]
      exact .same (.refl s)
    | some g =>
      simp only [perform, done]
      exact .disconnect done
  | replaceGraph g => exact absurd rfl (kept g)
  | changeProfile updates =>
    cases done : d.profile.change env updates with
    | error error =>
      simp only [perform, done]
      exact .same (.refl s)
    | ok profile =>
      simp only [perform, done]
      exact .same s.later_now
  | importDocument document => exact importOutcome_step env d s _
  | importPayload payload bounds => exact importOutcome_step env d s _
  | touch => exact .same s.later_now

end Draft

namespace Graph

variable {g h : Graph} {s t : Supply} {base top : Nat}

theorem connect_later {source target : String} {iterates : Bool} {e : Edge}
    (done : g.connect source target iterates s = .ok (e, h, t)) : s.Later t := by
  obtain ⟨-, -, -, -, -, linked⟩ := connect_cases done
  have later := g.link_later source target s
  rwa [linked] at later

/-- No step puts a tag back. -/
theorem Step.later (step : g.Step s h t) : s.Later t := by
  cases step with
  | same later => exact later
  | addStep => exact s.later_draw
  | removeStep _ => exact .refl s
  | setField _ => exact .refl s
  | connect done => exact connect_later done
  | disconnect _ => exact .refl s
  | importGraph later => exact (Import.graph_later _ s).trans later

/-- Every step keeps a grown graph grown, as long as the tags that it draws are fresh. -/
theorem Step.grown (step : g.Step s h t) (grown : g.Grown base s) (fresh : s.Fresh base top)
    (inside : t.drawn ≤ top) : h.Grown base t := by
  cases step with
  | same later => exact grown.later later
  | addStep => exact grown.addStep _ fresh inside
  | removeStep done => exact grown.removeStep done
  | setField done => exact grown.setField done
  | connect done => exact grown.connect done fresh.distinct inside
  | disconnect done => exact grown.disconnect done
  | importGraph later =>
    exact (Import.grown_graph _ grown.begun fresh (Nat.le_trans later.drawn inside)).later later

end Graph

/-! ## Runs -/

namespace Draft

def run (env : Environment) : List Action → Draft → Supply → Draft × Supply
  | [], d, s => (d, s)
  | action :: rest, d, s =>
    let (_, d, s) := d.perform env action s
    run env rest d s

theorem run_cons (env : Environment) (action : Action) (rest : List Action) (d : Draft)
    (s : Supply) :
    run env (action :: rest) d s =
      run env rest (d.perform env action s).2.1 (d.perform env action s).2.2 :=
  rfl

theorem run_later (env : Environment) {actions : List Action}
    (kept : ∀ g, .replaceGraph g ∉ actions) (d : Draft) (s : Supply) :
    s.Later (run env actions d s).2 := by
  induction actions generalizing d s with
  | nil => exact .refl s
  | cons action rest ih =>
    have step := perform_step env (fun g same => kept g (same ▸ List.mem_cons_self)) d s
    exact step.later.trans (ih (fun g later => kept g (List.mem_cons_of_mem _ later)) _ _)

theorem run_grown (env : Environment) {actions : List Action}
    (kept : ∀ g, .replaceGraph g ∉ actions) {d : Draft} {s : Supply} {base top : Nat}
    (grown : d.graph.Grown base s) (fresh : s.Fresh base top)
    (inside : (run env actions d s).2.drawn ≤ top) :
    (run env actions d s).1.graph.Grown base (run env actions d s).2 := by
  induction actions generalizing d s with
  | nil => exact grown
  | cons action rest ih =>
    have others : ∀ g, .replaceGraph g ∉ rest := fun g later => kept g (List.mem_cons_of_mem _ later)
    have step := perform_step env (fun g same => kept g (same ▸ List.mem_cons_self)) d s
    have later := run_later env others (d.perform env action s).2.1 (d.perform env action s).2.2
    rw [run_cons] at inside ⊢
    have next := step.grown grown fresh (Nat.le_trans later.drawn inside)
    exact ih others next (fresh.later step.later) inside

theorem grown_new (s : Supply) : ({} : Graph).Grown s.drawn s where
  start := ⟨Node.start, [], rfl, rfl, rfl, rfl, by simp⟩
  nodeIds := List.nodup_singleton _
  edgeIds := List.nodup_nil
  closed := by simp
  pairs := List.nodup_nil
  begun := Nat.le_refl _
  nodeTags := by
    intro n hn step
    rw [List.mem_singleton.mp hn] at step
    cases step
  edgeTags := by simp

/-- After any run of actions from a new draft, whether they succeed or fail, its graph is sound. -/
theorem run_sound (env : Environment) (id : Option String) (profile : Profile) (s : Supply)
    (actions : List Action) (kept : ∀ g, .replaceGraph g ∉ actions)
    (fresh : s.Fresh s.drawn
      (run env actions (new id {} profile s).1 (new id {} profile s).2).2.drawn) :
    (run env actions (new id {} profile s).1 (new id {} profile s).2).1.graph.Sound := by
  have later : s.Later (new id {} profile s).2 := by
    unfold new
    cases filled id with
    | some id => exact s.later_now
    | none => exact s.later_draw.trans (Supply.later_now _)
  have grown := (grown_new s).later later
  have graph : (new id {} profile s).1.graph = {} := rfl
  exact (run_grown env kept (graph ▸ grown) (fresh.later later) (Nat.le_refl _)).toSound

/-- Edits that succeed and edits that are refused, around an import of two steps of one order. -/
def session : List Action :=
  [.addStep "sql", .connect "start" "node-00000002" none, .setField "start" "sequence_order" (.int 3),
    .importDocument (.obj [("steps", .list
      [.obj [("sequence_order", .int 1)],
        .obj [("sequence_order", .int 1), ("depends_on", .str "1,2")]])]),
    .removeStep "start", .addStep "llm", .connect "start" "node-1-00000004" (some true)]

theorem session_sound :
    (run {} session (new none {} (.new {}) .numbered).1
      (new none {} (.new {}) .numbered).2).1.graph.Sound := by
  have drawn : (run {} session (new none {} (.new {}) .numbered).1
      (new none {} (.new {}) .numbered).2).2.drawn = 8 := by decide +kernel
  refine run_sound {} none (.new {}) .numbered session (by simp [session]) ?_
  have fresh : Supply.numbered.Fresh Supply.numbered.drawn (Supply.numbered.drawn + 8) :=
    Supply.fresh_of_nodup (by decide) fun _ _ => Supply.numbered_hex _
  rw [drawn]
  exact fresh

end Draft

end Stepflow
