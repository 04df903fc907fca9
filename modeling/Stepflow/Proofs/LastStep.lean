import Stepflow.Finding
import Stepflow.Proofs.Sorting

/-!
# The last step

The last step of a flow is the first one of the greatest order. So it is told by its place: all steps
before it have a smaller order, and none behind it has a greater one. Whatever keeps the orders of
steps, and steps of one order in their places to each other, keeps the last step.

Results:
1. `lastStep?_eq_some_iff`: the last step, told by its place.
2. `lastStep?_of_filter_eq`, `lastStep?_sortByOrder`: the last step after sorting.
3. `map_lastStep?`: what is told of the last steps of two lists.
-/

namespace Stepflow

theorem lastStep?_eq_none_iff {nodes : List Node} : lastStep? nodes = none ↔ nodes = [] := by
  cases nodes with
  | nil => simp [lastStep?]
  | cons n rest => simp [lastStep?]

theorem lastStep?_cons_cons (n m : Node) (rest : List Node) :
    lastStep? (n :: m :: rest) = lastStep? ((if n.order < m.order then m else n) :: rest) :=
  rfl

/-- The last step is one of the steps, and none has a greater order. -/
theorem lastStep?_spec {nodes : List Node} {n : Node} (h : lastStep? nodes = some n) :
    n ∈ nodes ∧ ∀ m ∈ nodes, m.order ≤ n.order := by
  cases nodes with
  | nil => cases h
  | cons first rest =>
    induction rest generalizing first with
    | nil =>
      cases h
      simp
    | cons m rest ih =>
      rw [lastStep?_cons_cons] at h
      split at h
      · next less =>
        obtain ⟨mem, top⟩ := ih m h
        refine ⟨List.mem_cons_of_mem _ mem, List.forall_mem_cons.mpr ⟨?_, top⟩⟩
        exact Int.le_trans (Int.le_of_lt less) (top m List.mem_cons_self)
      · next notLess =>
        obtain ⟨mem, top⟩ := ih first h
        obtain ⟨head, tail⟩ := List.forall_mem_cons.mp top
        refine ⟨((List.sublist_cons_self m rest).cons_cons first).subset mem, ?_⟩
        refine List.forall_mem_cons.mpr ⟨head, List.forall_mem_cons.mpr ⟨?_, tail⟩⟩
        exact Int.le_trans (Int.not_lt.mp notLess) head

/-- The last step is behind steps of a smaller order, and before steps of no greater one. -/
theorem lastStep?_append {before after : List Node} {n : Node}
    (lower : ∀ m ∈ before, m.order < n.order) (upper : ∀ m ∈ after, m.order ≤ n.order) :
    lastStep? (before ++ n :: after) = some n := by
  have front : lastStep? (n :: after) = some n := by
    induction after with
    | nil => rfl
    | cons m rest ih =>
      obtain ⟨head, tail⟩ := List.forall_mem_cons.mp upper
      rw [lastStep?_cons_cons, if_neg (Int.not_lt.mpr head)]
      exact ih tail
  cases before with
  | nil => exact front
  | cons first rest =>
    -- The first node stands for the one that is ahead among those that were passed.
    induction rest generalizing first with
    | nil =>
      have less : first.order < n.order := lower first List.mem_cons_self
      rw [List.cons_append, List.nil_append, lastStep?_cons_cons, if_pos less]
      exact front
    | cons m rest ih =>
      obtain ⟨head, tail⟩ := List.forall_mem_cons.mp lower
      obtain ⟨second, others⟩ := List.forall_mem_cons.mp tail
      rw [List.cons_append, List.cons_append, lastStep?_cons_cons]
      refine ih _ (List.forall_mem_cons.mpr ⟨?_, others⟩)
      split
      · exact second
      · exact head

/-- The last step is the first of those whose order no other step exceeds. -/
theorem lastStep?_eq_some_iff {nodes : List Node} {n : Node} :
    lastStep? nodes = some n ↔
      ∃ before after, nodes = before ++ n :: after ∧ (∀ m ∈ before, m.order < n.order) ∧
        ∀ m ∈ after, m.order ≤ n.order := by
  constructor
  · intro last
    cases nodes with
    | nil => cases last
    | cons first rest =>
      induction rest generalizing first with
      | nil =>
        obtain rfl : first = n := Option.some.inj last
        exact ⟨[], [], rfl, List.forall_mem_nil _, List.forall_mem_nil _⟩
      | cons m rest ih =>
        obtain ⟨-, top⟩ := lastStep?_spec last
        rw [lastStep?_cons_cons] at last
        split at last
        · next less =>
          obtain ⟨before, after, split, lower, upper⟩ := ih m last
          have below : first.order < n.order :=
            Int.lt_of_lt_of_le less (top m (List.mem_cons_of_mem _ List.mem_cons_self))
          exact ⟨first :: before, after, congrArg (first :: ·) split,
            List.forall_mem_cons.mpr ⟨below, lower⟩, upper⟩
        · next notLess =>
          have passed : m.order ≤ first.order := Int.not_lt.mp notLess
          obtain ⟨before, after, split, lower, upper⟩ := ih first last
          rcases List.cons_eq_append_iff.mp split with ⟨rfl, same⟩ | ⟨others, rfl, same⟩
          · obtain ⟨rfl, rfl⟩ := List.cons.inj same
            exact ⟨[], m :: after, rfl, List.forall_mem_nil _,
              List.forall_mem_cons.mpr ⟨passed, upper⟩⟩
          · obtain ⟨head, tail⟩ := List.forall_mem_cons.mp lower
            refine ⟨first :: m :: others, after, by rw [same]; rfl, ?_, upper⟩
            exact List.forall_mem_cons.mpr
              ⟨head, List.forall_mem_cons.mpr ⟨Int.lt_of_le_of_lt passed head, tail⟩⟩
  · rintro ⟨before, after, rfl, lower, upper⟩
    exact lastStep?_append lower upper

/-- The last step is the first one of its order. -/
theorem lastStep?_head {nodes : List Node} {n : Node} (h : lastStep? nodes = some n) :
    (nodes.filter (·.order == n.order)).head? = some n := by
  cases nodes with
  | nil => cases h
  | cons first rest =>
    induction rest generalizing first with
    | nil =>
      cases h
      simp
    | cons m rest ih =>
      rw [lastStep?_cons_cons] at h
      split at h
      · next less =>
        have top := (lastStep?_spec h).2 m List.mem_cons_self
        rw [List.filter_cons_of_neg (by simp; omega)]
        exact ih m h
      · next notLess =>
        have top := (lastStep?_spec h).2 first List.mem_cons_self
        have before := ih first h
        rw [List.filter_cons] at before ⊢
        split
        · next here => rwa [if_pos here] at before
        · next apart =>
          rw [if_neg apart] at before
          rw [beq_iff_eq] at apart
          rwa [List.filter_cons_of_neg (by simp; omega)]

/-- Lists that hold the same nodes of every order have the same last step. -/
theorem lastStep?_of_filter_eq {nodes others : List Node}
    (same : ∀ k, nodes.filter (·.order == k) = others.filter (·.order == k)) :
    lastStep? nodes = lastStep? others := by
  have mem {n : Node} : n ∈ nodes ↔ n ∈ others := mem_iff_of_filter_eq same
  cases found' : lastStep? others with
  | none =>
    rw [lastStep?_eq_none_iff] at found' ⊢
    refine List.eq_nil_iff_forall_not_mem.mpr fun n hn => ?_
    rw [mem, found'] at hn
    cases hn
  | some m =>
    obtain ⟨hm, top'⟩ := lastStep?_spec found'
    cases found : lastStep? nodes with
    | none =>
      rw [← mem, lastStep?_eq_none_iff.mp found] at hm
      cases hm
    | some n =>
      obtain ⟨hn, top⟩ := lastStep?_spec found
      -- Both of them have the greatest order, and the first one of this order is the same.
      have order : n.order = m.order :=
        Int.le_antisymm (top' n (mem.mp hn)) (top m (mem.mpr hm))
      have head := lastStep?_head found
      rw [same, order, lastStep?_head found'] at head
      exact head.symm

/-- What is told of nodes of the same orders, one by one, is told of the last steps. -/
theorem map_lastStep? {α : Type} {f k : Node → α} {nodes others : List Node}
    (pairs : List.Forall₂ (fun n m => n.order = m.order ∧ f n = k m) nodes others) :
    (lastStep? nodes).map f = (lastStep? others).map k := by
  cases pairs with
  | nil => rfl
  | @cons n m rest later head tail =>
    induction tail generalizing n m with
    | nil => exact congrArg some head.2
    | cons next _ ih =>
      rw [lastStep?_cons_cons, lastStep?_cons_cons, ← head.1, ← next.1]
      split
      · exact ih next
      · exact ih head

/-- Sorting is stable, so the last step stays what it is. -/
theorem lastStep?_sortByOrder (nodes : List Node) : lastStep? (sortByOrder nodes) = lastStep? nodes :=
  lastStep?_of_filter_eq (filter_sortByOrder nodes)

end Stepflow
