import Stepflow.Proofs.Import
import Stepflow.Proofs.Writable
import Stepflow.Workspace

/-!
# Failed actions

An action that fails, or finds nothing, leaves the draft as it was. The one exception, a step whose
order cannot be written, needs an order at the limit to begin with.

Results:
1. `Graph.topOrder_cases`: the highest order is zero or that of a node.
2. `Draft.importOutcome_cases`: how an import into a draft ends.
3. `Draft.perform_failed`: a failed action leaves the draft as it was.
4. `Workspace.put_of_find?`: putting a draft back changes nothing.
5. `Workspace.importNew_refused`: a payload that is refused adds no draft.
-/

namespace Stepflow

/-! ## Orders below the limit -/

/-- An integer whose numeral has fewer digits than the limit. -/
def Numeral.Short (n : Int) : Prop :=
  n.natAbs < 10 ^ (maxDigits - 1)

theorem Numeral.fits_succ {n : Int} (short : Short n) : fits (n + 1) = true := by
  have room : 10 ^ (maxDigits - 1) < 10 ^ maxDigits := Nat.pow_lt_pow_right (by decide) (by decide)
  have step : (n + 1).natAbs ≤ n.natAbs + 1 := Int.natAbs_add_le n 1
  rw [fits_iff]
  exact Nat.lt_of_le_of_lt (Nat.le_trans step short) room

theorem foldl_max_mem (order : Int) (rest : List Int) : rest.foldl max order ∈ order :: rest := by
  induction rest generalizing order with
  | nil => exact List.mem_cons_self
  | cons next rest ih =>
    rw [List.foldl_cons]
    rcases List.mem_cons.mp (ih (max order next)) with top | inside
    · rw [top, Int.max_def]
      split
      · exact List.mem_cons_of_mem _ List.mem_cons_self
      · exact List.mem_cons_self
    · exact List.mem_cons_of_mem _ (List.mem_cons_of_mem _ inside)

/-- The highest order is that of a node, or zero if there is none. -/
theorem Graph.topOrder_cases (g : Graph) :
    g.topOrder = 0 ∨ ∃ n ∈ g.nodes, n.order = g.topOrder := by
  unfold topOrder
  split
  · exact .inl rfl
  · next order rest orders =>
    have mem := foldl_max_mem order rest
    rw [← orders] at mem
    exact .inr (List.mem_map.mp mem)

/-- Below the limit, the order of the next step can be written. -/
theorem Graph.fits_next {g : Graph} (short : ∀ n ∈ g.nodes, Numeral.Short n.order) :
    Numeral.fits (g.topOrder + 1) = true := by
  refine Numeral.fits_succ ?_
  rcases g.topOrder_cases with none | ⟨n, mem, same⟩
  · rw [none]
    exact Nat.pow_pos (by decide)
  · rw [← same]
    exact short n mem

/-! ## Actions -/

/-- A reply that says that nothing was found. -/
def Reply.missing : Reply → Bool
  | .flag done => !done
  | .node found => found.isNone
  | _ => false

namespace Draft

/-- Whether an action failed or found nothing. -/
def failed : Except Failure Reply → Bool
  | .error _ => true
  | .ok reply => reply.missing

theorem importOutcome_of_imported {env : Environment} {s : Supply}
    {fields : List (String × Json)}
    (made : Import.imported env fields s =
      (.ok (Import.document env fields s).1, (Import.document env fields s).2)) (d : Draft) :
    importOutcome env d s (.ok fields) =
      (.ok .none, (d.importFields env fields s).1, (d.importFields env fields s).2) := by
  simp only [importOutcome, made]
  rfl

/-- An import replaces graph and profile, or it fails and leaves the draft as it was. -/
theorem importOutcome_cases (env : Environment) (d : Draft) (s : Supply)
    (fields : Except Import.Refusal (List (String × Json))) :
    (∃ found, fields = .ok found ∧
        importOutcome env d s fields =
          (.ok .none, (d.importFields env found s).1, (d.importFields env found s).2)) ∨
      ∃ failure later, importOutcome env d s fields = (.error failure, d, later) ∧
        s.Later later := by
  cases fields with
  | error refusal => exact .inr ⟨_, s, rfl, .refl s⟩
  | ok fields =>
    rcases Import.imported_cases env fields s with made | ⟨later, failed, after⟩
    · exact .inl ⟨fields, rfl, importOutcome_of_imported made d⟩
    · refine .inr ⟨.overlong .written, later, ?_, after⟩
      simp only [importOutcome, failed]

theorem importOutcome_failed {env : Environment} {d : Draft} {s : Supply}
    {fields : Except Import.Refusal (List (String × Json))}
    (h : failed (importOutcome env d s fields).1 = true) :
    (importOutcome env d s fields).2.1 = d := by
  rcases importOutcome_cases env d s fields with ⟨_, -, made⟩ | ⟨_, _, failed, -⟩
  · rw [made] at h
    cases h
  · rw [failed]

/-- A failed action leaves the draft as it was. -/
theorem perform_failed {env : Environment} {action : Action} {d : Draft} {s : Supply}
    (short : ∀ n ∈ d.graph.nodes, Numeral.Short n.order)
    (h : failed (d.perform env action s).1 = true) : (d.perform env action s).2.1 = d := by
  cases action with
  | addStep kind =>
    -- The step is in place before its order is looked at; only the bound on orders helps here.
    have fits : Numeral.fits (d.graph.addStep kind s).1.order = true := Graph.fits_next short
    simp only [perform, fits] at h
    cases h
  | removeStep id =>
    cases removed : d.graph.removeStep? id with
    | none => simp only [perform, removed]
    | some graph =>
      simp only [perform, removed] at h
      cases h
  | setField id name value =>
    cases set : d.graph.setField id name value with
    | error error => simp only [perform, set]
    | ok found =>
      cases found with
      | none => simp only [perform, set]
      | some changed =>
        simp only [perform, set] at h
        cases h
  | connect source target iterates =>
    cases made : d.graph.connect source target (iterates.getD d.profile.iterates) s with
    | error error => simp only [perform, made]
    | ok linked =>
      simp only [perform, made] at h
      cases h
  | disconnect id =>
    cases removed : d.graph.disconnect? id with
    | none => simp only [perform, removed]
    | some graph =>
      simp only [perform, removed] at h
      cases h
  | changeProfile updates =>
    cases changed : d.profile.change env updates with
    | error error => simp only [perform, changed]
    | ok profile =>
      simp only [perform, changed] at h
      cases h
  | importDocument document => exact importOutcome_failed h
  | importPayload payload bounds => exact importOutcome_failed h
  | replaceGraph graph => cases h
  | touch => cases h

/-- Which replies an action has: only removals and settings of a field can find nothing. -/
theorem perform_reply {env : Environment} {action : Action} {d e : Draft} {s t : Supply}
    {reply : Reply} (h : d.perform env action s = (.ok reply, e, t)) :
    match action with
    | .removeStep _ | .disconnect _ => ∃ done, reply = .flag done
    | .setField _ _ _ => ∃ found, reply = .node found
    | _ => reply.missing = false := by
  cases action with
  | addStep kind =>
    simp only [perform] at h
    split at h
    · cases h
      rfl
    · cases h
  | removeStep id | disconnect id =>
    simp only [perform] at h
    split at h
    · cases h
      exact ⟨true, rfl⟩
    · cases h
      exact ⟨false, rfl⟩
  | setField id name value =>
    simp only [perform] at h
    split at h
    · cases h
    · cases h
      exact ⟨none, rfl⟩
    · cases h
      exact ⟨some _, rfl⟩
  | connect source target iterates | changeProfile updates =>
    simp only [perform] at h
    split at h
    · cases h
    · cases h
      rfl
  | importDocument document | importPayload payload bounds =>
    simp only [perform] at h
    rcases importOutcome_cases env d s _ with ⟨found, -, made⟩ | ⟨_, _, failed, -⟩
    · cases made.symm.trans h
      rfl
    · cases failed.symm.trans h
  | replaceGraph graph | touch =>
    cases h
    rfl

/-- Only edits can find nothing. -/
theorem missing_of_not_isEdit {env : Environment} {action : Action} {d e : Draft} {s t : Supply}
    {reply : Reply} (other : action.isEdit = false)
    (h : d.perform env action s = (.ok reply, e, t)) : reply.missing = false := by
  have found := perform_reply h
  cases action with
  | changeProfile updates | importDocument document | importPayload payload bounds | touch =>
    exact found
  | addStep kind | removeStep id | setField id name value | connect source target iterates
  | disconnect id | replaceGraph graph => cases other

end Draft

/-! ## Putting a draft back -/

namespace Workspace

theorem id_of_find? {w : Workspace} {id : String} {d : Draft} (h : w.find? id = some d) :
    d.id = id :=
  eq_of_beq (List.find?_some (p := fun e : Draft => e.id == id) h)

theorem mem_of_find? {w : Workspace} {id : String} {d : Draft} (h : w.find? id = some d) :
    d ∈ w.drafts :=
  List.mem_of_find?_eq_some h

theorem putIn_of_find? {drafts : List Draft} {d : Draft}
    (h : drafts.find? (·.id == d.id) = some d) : putIn d drafts = drafts := by
  induction drafts with
  | nil => cases h
  | cons e rest ih =>
    rw [List.find?_cons] at h
    rw [putIn]
    split at h
    · next same =>
      rw [if_pos same, Option.some.inj h]
    · next other =>
      rw [if_neg (by simp [other]), ih h]

/-- Putting a draft back changes nothing. -/
theorem put_of_find? {w : Workspace} {id : String} {d : Draft} (h : w.find? id = some d) :
    w.put d = w := by
  have here : w.drafts.find? (·.id == d.id) = some d := by rwa [id_of_find? h]
  rw [put, putIn_of_find? here]

theorem eq_of_delete? {w left : Workspace} {id : String} (h : w.delete? id = some left) :
    left = ⟨w.drafts.filter (·.id != id)⟩ := by
  unfold delete? at h
  split at h
  · cases h
    rfl
  · cases h

/-- A payload that is refused adds no draft. -/
theorem importNew_refused {env : Environment} {w left : Workspace} {payload : Import.Payload}
    {depth : Nat} {s t : Supply} {failure : Failure}
    (h : importNew env w payload depth s = (.error failure, left, t)) : left = w := by
  unfold importNew at h
  simp only at h
  split at h
  · cases h
  · cases h
    rfl

end Workspace

end Stepflow
