import Mathlib.Data.List.Induction
import Mathlib.Data.List.Sort
import Mathlib.Order.Monotone.Basic
import Stepflow.Proofs.Atomic
import Stepflow.Proofs.Change

/-!
# The list of flows

The list shows the last changed flow first. Nothing but a history of requests decides what it shows:
which flows were made and not dropped since, and how many requests ago each of them was changed.

The clock has to go on with every reading, and no two flows may get the same id. Only requests that
are carried out count. A request that fails is not carried out, with one exception: where a change
has been made and the answer to it cannot be written, the change stands (`failure_moves`).

Results:
1. `Workspace.recent_pairwise`: the list is in descending order of the last change.
2. `Recorded.step`: what one request keeps.
3. `Service.listed_by_recency`: the list after any history of requests.
4. `failure_moves`: a failed request that moves a flow to the front.
-/

namespace Stepflow

namespace Workspace

/-! ## Drafts that are put in -/

variable {d e : Draft} {drafts : List Draft}

theorem map_id_putIn (known : d.id ∈ drafts.map (·.id)) :
    (putIn d drafts).map (·.id) = drafts.map (·.id) := by
  induction drafts with
  | nil => cases known
  | cons first rest ih =>
    rw [putIn]
    split
    · next same => rw [List.map_cons, List.map_cons, eq_of_beq same]
    · next other =>
      have behind : d.id ∈ rest.map (·.id) := by
        rcases List.mem_cons.mp known with here | behind
        · exact absurd (beq_iff_eq.mpr here.symm) other
        · exact behind
      rw [List.map_cons, List.map_cons, ih behind]

theorem putIn_of_not_mem (unknown : d.id ∉ drafts.map (·.id)) :
    putIn d drafts = drafts ++ [d] := by
  induction drafts with
  | nil => rfl
  | cons first rest ih =>
    rw [List.map_cons, List.mem_cons, not_or] at unknown
    rw [putIn, if_neg (by simpa using Ne.symm unknown.1), ih unknown.2]
    rfl

theorem mem_putIn (nodup : (drafts.map (·.id)).Nodup) (h : e ∈ putIn d drafts) :
    e = d ∨ e ∈ drafts ∧ e.id ≠ d.id := by
  induction drafts with
  | nil => exact .inl (List.mem_singleton.mp h)
  | cons first rest ih =>
    rw [List.map_cons, List.nodup_cons] at nodup
    rw [putIn] at h
    split at h
    · next same =>
      refine (List.mem_cons.mp h).imp_right fun behind => ⟨List.mem_cons_of_mem _ behind, ?_⟩
      rw [← eq_of_beq same]
      exact fun here => nodup.1 (here ▸ List.mem_map_of_mem behind)
    · next other =>
      rcases List.mem_cons.mp h with rfl | behind
      · exact .inr ⟨List.mem_cons_self, by simpa using other⟩
      · exact (ih nodup.2 behind).imp_right fun old => ⟨List.mem_cons_of_mem _ old.1, old.2⟩

theorem map_id_put {w : Workspace} (mem : d ∈ w.drafts) (same : e.id = d.id) :
    (w.put e).drafts.map (·.id) = w.drafts.map (·.id) :=
  map_id_putIn (same ▸ List.mem_map_of_mem mem)

/-! ## The order of the list -/

theorem insertByRecency_pairwise (sorted : drafts.Pairwise (·.updated ≥ ·.updated)) :
    (insertByRecency d drafts).Pairwise (·.updated ≥ ·.updated) := by
  induction drafts with
  | nil => exact List.pairwise_singleton _ _
  | cons first rest ih =>
    have parts := List.pairwise_cons.mp sorted
    rw [insertByRecency]
    split
    · next le =>
      refine List.pairwise_cons.mpr ⟨List.forall_mem_cons.mpr ⟨le, ?_⟩, sorted⟩
      exact fun e behind => Nat.le_trans (parts.1 e behind) le
    · next notLe =>
      refine List.pairwise_cons.mpr ⟨fun e mem => ?_, ih parts.2⟩
      rcases List.mem_cons.mp ((insertByRecency_perm d rest).mem_iff.mp mem) with rfl | behind
      · exact Nat.le_of_not_le notLe
      · exact parts.1 e behind

/-- The list is in descending order of the last change. -/
theorem recent_pairwise (w : Workspace) : w.recent.Pairwise (·.updated ≥ ·.updated) := by
  show (w.drafts.foldr insertByRecency []).Pairwise _
  induction w.drafts with
  | nil => exact .nil
  | cons d rest ih => exact insertByRecency_pairwise ih

def order (w : Workspace) : List String :=
  w.recent.map (·.id)

end Workspace

/-- The clock goes on with every reading, by however little. -/
def Supply.Ticks (s : Supply) : Prop :=
  StrictMono fun reading => (s.clock reading).microseconds

theorem Supply.Ticks.later {s t : Supply} (ticks : s.Ticks) (later : s.Later t) : t.Ticks := by
  rwa [Ticks, later.clock]

namespace Http

/-! ## Histories -/

/-- A request that was answered, what it changed, and the list before and after it. -/
structure Exchange where
  request : Request
  response : Response
  change : Option Change
  before : List String
  after : List String

/-- Whether a request changed the flow of the id. -/
def Exchange.concerns (x : Exchange) (id : String) : Bool :=
  x.change.any (·.id == id)

/-- The id of the flow that a change makes. -/
def Change.new? : Option Change → Option String
  | some (.made id) => some id
  | _ => none

/-- The ids that have been given to flows. -/
def created (past : List Exchange) : List String :=
  past.filterMap fun x => Change.new? x.change

/-- The flows after a change. -/
def Change.apply (flows : List String) : Option Change → List String
  | some (.made id) => flows ++ [id]
  | some (.dropped id) => flows.filter (· != id)
  | _ => flows

/-- The flows that have been made and not dropped since. -/
def flows (past : List Exchange) : List String :=
  past.foldl (fun flows x => Change.apply flows x.change) []

/-- How many requests there were since the last one that changed a flow. -/
def age (past : List Exchange) (id : String) : Nat :=
  past.reverse.findIdx (·.concerns id)

theorem flows_append (past : List Exchange) (x : Exchange) :
    flows (past ++ [x]) = Change.apply (flows past) x.change :=
  List.foldl_append

theorem age_append (past : List Exchange) (x : Exchange) (id : String) :
    age (past ++ [x]) id = if x.concerns id then 0 else age past id + 1 := by
  rw [age, List.reverse_append, List.reverse_singleton, List.singleton_append, List.findIdx_cons,
    ← Bool.cond_eq_ite]
  rfl

theorem created_append (past : List Exchange) (x : Exchange) :
    created (past ++ [x]) = created past ++ (Change.new? x.change).toList := by
  rw [created, List.filterMap_append]
  cases new : Change.new? x.change <;> simp [created, new]

/-- A flow that is there has been made. -/
theorem flows_sublist (past : List Exchange) : (flows past).Sublist (created past) := by
  induction past using List.reverseRecOn with
  | nil => exact .slnil
  | append_singleton past x ih =>
    rw [flows_append, created_append]
    cases x.change with
    | none => exact ih.trans (List.sublist_append_left _ _)
    | some change =>
      cases change with
      | made id => exact ih.append_right [id]
      | changed id => exact ih.trans (List.sublist_append_left _ _)
      | dropped id => exact (List.filter_sublist.trans ih).trans (List.sublist_append_left _ _)

namespace Service

/-- A request as it is answered now. -/
def exchange (s : Service) (request : Request) (w : Workspace) (supply : Supply) : Exchange where
  request := request
  response := (s.handle request w supply).1
  change := s.change? request w supply
  before := w.order
  after := (s.handle request w supply).2.1.order

/-- Answers requests one after the other, and records what they change. -/
def history (s : Service) (w : Workspace) (supply : Supply) : List Request → List Exchange
  | [] => []
  | request :: rest =>
    s.exchange request w supply ::
      history s (s.handle request w supply).2.1 (s.handle request w supply).2.2 rest

/-- A history is one of the requests that are answered, with their responses. -/
theorem history_eq (s : Service) (w : Workspace) (supply : Supply) (requests : List Request) :
    (s.history w supply requests).map (·.request) = requests ∧
      (s.history w supply requests).map (·.response) = (s.handleAll w supply requests).1 := by
  induction requests generalizing w supply with
  | nil => exact ⟨rfl, rfl⟩
  | cons request rest ih =>
    obtain ⟨asked, answered⟩ := ih (s.handle request w supply).2.1 (s.handle request w supply).2.2
    exact ⟨congrArg (request :: ·) asked, congrArg (_ :: ·) answered⟩

end Service

/-! ## What a history says about a workspace -/

/-- The history of a workspace is `past`: its flows are those of the history, and the later a flow
was changed in the history, the later is the date of its last change. -/
structure Recorded (past : List Exchange) (w : Workspace) (s : Supply) : Prop where
  ids : w.drafts.map (·.id) = flows past
  dates : ∀ d ∈ w.drafts, d.created ≤ d.updated
  read : ∀ d ∈ w.drafts, ∃ reading, reading ≤ s.readings ∧ s.clock reading = d.updated
  recency : ∀ d ∈ w.drafts, ∀ e ∈ w.drafts, d.id ≠ e.id → d.updated ≤ e.updated →
    age past e.id < age past d.id

/-- A draft after a request: it is one of before at its dates, or the request has changed it. -/
def Follows (w : Workspace) (s t : Supply) (x : Exchange) (d : Draft) : Prop :=
  (x.concerns d.id = false ∧ ∃ old ∈ w.drafts, old.SameDates d) ∨
    (x.concerns d.id = true ∧ s.Shown t d.updated ∧ d.created ≤ d.updated)

variable {past : List Exchange} {w left : Workspace} {s t : Supply} {x : Exchange}

theorem Exchange.id_of_concerns {id : String} (h : x.concerns id = true) :
    ∃ change, x.change = some change ∧ change.id = id := by
  obtain ⟨change, there, same⟩ := (Option.any_eq_true _ _).mp h
  exact ⟨change, there, eq_of_beq same⟩

/-- A request concerns one flow at most. -/
theorem Exchange.eq_of_concerns {id other : String} (h : x.concerns id = true)
    (h' : x.concerns other = true) : id = other := by
  obtain ⟨change, there, rfl⟩ := id_of_concerns h
  obtain ⟨change', there', rfl⟩ := id_of_concerns h'
  cases there.symm.trans there'
  rfl

/-- A moment that is read now is later than the last change of every flow. -/
theorem Recorded.lt_of_shown (recorded : Recorded past w s) (ticks : s.Ticks) {d : Draft}
    (mem : d ∈ w.drafts) {now : Moment} (shown : s.Shown t now) :
    d.updated.microseconds < now.microseconds := by
  obtain ⟨reading, before, read⟩ := recorded.read d mem
  obtain ⟨reading', after, -, read'⟩ := shown.reading
  rw [← read, ← read']
  exact ticks (Nat.lt_of_le_of_lt before after)

/-- What one request keeps. -/
theorem Recorded.step (recorded : Recorded past w s) (ticks : s.Ticks) (later : s.Later t)
    (ids : left.drafts.map (·.id) = Change.apply (flows past) x.change)
    (follows : ∀ d ∈ left.drafts, Follows w s t x d) : Recorded (past ++ [x]) left t where
  ids := ids.trans (flows_append past x).symm
  dates := by
    intro d hd
    rcases follows d hd with ⟨-, old, mem, same⟩ | ⟨-, -, le⟩
    · rw [same.created, same.updated]
      exact recorded.dates old mem
    · exact le
  read := by
    intro d hd
    rw [later.clock]
    rcases follows d hd with ⟨-, old, mem, same⟩ | ⟨-, shown, -⟩
    · obtain ⟨reading, le, read⟩ := recorded.read old mem
      exact ⟨reading, Nat.le_trans le later.readings, read.trans same.updated.symm⟩
    · obtain ⟨reading, -, le, read⟩ := shown.reading
      exact ⟨reading, le, read⟩
  recency := by
    intro d hd e he apart le
    rw [age_append, age_append]
    rcases follows e he with ⟨here, f, hf, same⟩ | ⟨here, -, -⟩
    · rw [here]
      rcases follows d hd with ⟨there, c, hc, same'⟩ | ⟨-, shown, -⟩
      · rw [there]
        rw [same.id, same'.id] at apart ⊢
        rw [same.updated, same'.updated] at le
        exact Nat.succ_lt_succ (recorded.recency c hc f hf apart le)
      · rw [same.updated] at le
        exact absurd (recorded.lt_of_shown ticks hf shown) (Nat.not_lt.mpr le)
    · rw [here]
      rcases follows d hd with ⟨there, -⟩ | ⟨there, -⟩
      · rw [there]
        exact Nat.succ_pos _
      · exact absurd (Exchange.eq_of_concerns there here) apart

theorem Follows.of_mem {d : Draft} (mem : d ∈ w.drafts) (other : x.concerns d.id = false) :
    Follows w s t x d :=
  .inl ⟨other, d, mem, .refl d⟩

theorem Exchange.concerns_of_none (h : x.change = none) (id : String) : x.concerns id = false := by
  rw [concerns, h, Option.any_none]

theorem Exchange.concerns_of_some {change : Change} (h : x.change = some change) (id : String) :
    x.concerns id = (change.id == id) := by
  rw [concerns, h, Option.any_some]

/-- Flows that stay as they are have the history of before, and one more request. -/
theorem Recorded.kept (recorded : Recorded past w s) (ticks : s.Ticks) (later : s.Later t)
    (unchanged : x.change = none) : Recorded (past ++ [x]) w t := by
  refine recorded.step ticks later ?_ fun d hd => .of_mem hd (x.concerns_of_none unchanged d.id)
  rw [unchanged, recorded.ids]
  rfl

/-! ### One lemma for each effect -/

theorem Recorded.restored (recorded : Recorded past w s) (ticks : s.Ticks) (later : s.Later t)
    (unchanged : x.change = none) (nodup : (w.drafts.map (·.id)).Nodup) {d e : Draft}
    (mem : d ∈ w.drafts) (same : d.SameDates e) : Recorded (past ++ [x]) (w.put e) t := by
  have unconcerned := x.concerns_of_none unchanged
  refine recorded.step ticks later ?_ fun f hf => ?_
  · rw [unchanged, ← recorded.ids]
    exact Workspace.map_id_put mem same.id
  · rcases Workspace.mem_putIn nodup hf with rfl | ⟨old, -⟩
    · exact .inl ⟨unconcerned _, d, mem, same⟩
    · exact .of_mem old (unconcerned _)

theorem Recorded.made (recorded : Recorded past w s) (ticks : s.Ticks) {d : Draft}
    (made : x.change = some (.made d.id)) (unknown : d.id ∉ flows past)
    (dates : d.created = d.updated) (shown : s.Shown t d.updated) :
    Recorded (past ++ [x]) (w.put d) t := by
  have concerns := x.concerns_of_some made
  rw [← recorded.ids] at unknown
  have put : (w.put d).drafts = w.drafts ++ [d] := Workspace.putIn_of_not_mem unknown
  refine recorded.step ticks shown.later ?_ fun f hf => ?_
  · rw [made, ← recorded.ids, put, List.map_append]
    rfl
  · rw [put] at hf
    rcases List.mem_append.mp hf with old | new
    · refine .of_mem old ((concerns _).trans (beq_false_of_ne fun same => unknown ?_))
      exact List.mem_map.mpr ⟨f, old, same.symm⟩
    · obtain rfl := List.mem_singleton.mp new
      exact .inr ⟨(concerns _).trans (beq_self_eq_true _), shown, dates ▸ Nat.le_refl _⟩

theorem Recorded.changed (recorded : Recorded past w s) (ticks : s.Ticks)
    (nodup : (w.drafts.map (·.id)).Nodup) {d e : Draft} (mem : d ∈ w.drafts)
    (changed : x.change = some (.changed d.id)) (dates : d.Changed s t e) :
    Recorded (past ++ [x]) (w.put e) t := by
  have concerns := x.concerns_of_some changed
  refine recorded.step ticks dates.updated.later ?_ fun f hf => ?_
  · rw [changed, ← recorded.ids]
    exact Workspace.map_id_put mem dates.id
  · rcases Workspace.mem_putIn nodup hf with rfl | ⟨old, other⟩
    · refine .inr ⟨(concerns _).trans (beq_iff_eq.mpr dates.id.symm), dates.updated, ?_⟩
      rw [dates.created]
      exact Nat.le_trans (recorded.dates d mem)
        (Nat.le_of_lt (recorded.lt_of_shown ticks mem dates.updated))
    · refine .of_mem old ((concerns _).trans (beq_false_of_ne fun same => other ?_))
      exact same ▸ dates.id.symm

theorem Recorded.dropped (recorded : Recorded past w s) (ticks : s.Ticks) {id : String}
    (dropped : x.change = some (.dropped id)) (deleted : w.delete? id = some left) :
    Recorded (past ++ [x]) left s := by
  obtain rfl := Workspace.eq_of_delete? deleted
  refine recorded.step ticks (.refl s) ?_ fun f hf => ?_
  · rw [dropped, ← recorded.ids, Change.apply, List.filter_map]
    rfl
  · obtain ⟨old, other⟩ := List.mem_filter.mp hf
    refine .of_mem old ((x.concerns_of_some dropped _).trans (beq_false_of_ne fun same => ?_))
    exact bne_iff_ne.mp other same.symm

/-- What a request that leads to a command keeps. -/
theorem Recorded.effect {result : Result} (recorded : Recorded past w s) (ticks : s.Ticks)
    (distinct : (created (past ++ [x])).Nodup) (effect : Effect w s x.change result) :
    Recorded (past ++ [x]) result.2.1 result.2.2 := by
  rw [created_append] at distinct
  have nodup : (w.drafts.map (·.id)).Nodup :=
    recorded.ids ▸ (flows_sublist past).nodup distinct.of_append_left
  generalize change : x.change = what at effect
  cases effect with
  | refused _ later => exact recorded.kept ticks later change
  | restored _ mem same later => exact recorded.restored ticks later change nodup mem same
  | @made _ d _ dates shown =>
    -- No flow had the id that was given to the new one.
    have unknown : d.id ∉ flows past := by
      rw [change] at distinct
      exact fun there => (List.nodup_append.mp distinct).2.2 _
        ((flows_sublist past).subset there) _ (List.mem_singleton_self _) rfl
    exact recorded.made ticks change unknown dates shown
  | changed mem dates => exact recorded.changed ticks nodup mem change dates
  | dropped deleted => exact recorded.dropped ticks change deleted

/-! ## The list -/

/-- The list of flows after a history. -/
structure Listed (past : List Exchange) (w : Workspace) : Prop where
  /-- Every flow that was made and not dropped is listed once. -/
  perm : w.order.Perm (flows past)
  nodup : w.order.Nodup
  /-- A flow stands before all those that were changed earlier. -/
  recency : w.order.Pairwise (age past · < age past ·)
  dates : ∀ d ∈ w.recent, d.created ≤ d.updated

/-- What there is to say about a request of a history. -/
structure Exchange.Settled (s : Service) (x : Exchange) : Prop where
  /-- What is carried out is the command that the request led to. -/
  command : ∀ change, x.change = some change →
    ∃ command id, s.command? x.request = some command ∧ change = command.change id
  /-- A command that succeeds is carried out. -/
  success : (s.command? x.request).isSome → x.response.failed = false → x.change.isSome
  /-- A request that fails is not carried out, unless it ends in an internal error. -/
  failure : x.response.failed = true → x.change = none ∨ x.response = .internalError
  /-- A request that is not carried out leaves the list as it was. -/
  kept : x.change = none → x.after = x.before

theorem Recorded.listed (recorded : Recorded past w s) (distinct : (created past).Nodup) :
    Listed past w := by
  have nodup := (flows_sublist past).nodup distinct
  have perm : w.order.Perm (flows past) := recorded.ids ▸ w.recent_perm.map _
  have member {d : Draft} (mem : d ∈ w.recent) : d ∈ w.drafts := w.recent_perm.mem_iff.mp mem
  refine ⟨perm, perm.nodup_iff.mpr nodup, ?_, fun d mem => recorded.dates d (member mem)⟩
  have apart : w.recent.Pairwise fun d e => d.id ≠ e.id :=
    List.pairwise_map.mp (perm.nodup_iff.mpr nodup)
  refine List.pairwise_map.mpr ((apart.and w.recent_pairwise).imp_of_mem ?_)
  intro d e hd he ⟨apart, le⟩
  exact recorded.recency e (member he) d (member hd) apart.symm le

/-- Flows keep their order while none of them is changed. -/
theorem Listed.order_eq (before : Listed past w) (after : Listed (past ++ [x]) left)
    (unchanged : x.change = none) : left.order = w.order := by
  have flows : flows (past ++ [x]) = flows past := by
    rw [flows_append, unchanged]
    rfl
  have recency : left.order.Pairwise (age past · < age past ·) := by
    refine after.recency.imp fun {a b} lt => ?_
    rw [age_append, age_append, x.concerns_of_none unchanged, x.concerns_of_none unchanged] at lt
    exact Nat.lt_of_succ_lt_succ lt
  refine (after.perm.trans (flows ▸ before.perm.symm)).eq_of_pairwise ?_ recency before.recency
  exact fun a b _ _ lt gt => absurd lt (Nat.lt_asymm gt)

namespace Service

variable {service : Service}

/-- What one request keeps, of whatever kind it is. -/
theorem recorded_handle {request : Request} (recorded : Recorded past w s) (ticks : s.Ticks)
    (distinct : (created (past ++ [service.exchange request w s])).Nodup) :
    Recorded (past ++ [service.exchange request w s]) (service.handle request w s).2.1
        (service.handle request w s).2.2 ∧
      s.Later (service.handle request w s).2.2 := by
  have effect := service.handle_effect request w s
  cases asked : service.command? request with
  | none =>
    rw [asked] at effect
    rw [effect]
    exact ⟨recorded.kept ticks (.refl s) (change?_of_none asked), .refl s⟩
  | some command =>
    rw [asked] at effect
    exact ⟨recorded.effect ticks distinct effect, effect.later⟩

/-- What there is to say about one request. -/
theorem settled_handle {request : Request} (before : Listed past w)
    (after : Listed (past ++ [service.exchange request w s]) (service.handle request w s).2.1) :
    (service.exchange request w s).Settled service where
  command := fun _ there => command_of_change? there
  success := carried_of_success
  failure := refused_of_failure
  kept := before.order_eq after

/-- What the requests of a history keep, whatever their answers are. -/
theorem recorded_history {requests : List Request} (recorded : Recorded past w s) (ticks : s.Ticks)
    (distinct : (created (past ++ service.history w s requests)).Nodup) :
    Recorded (past ++ service.history w s requests) (service.handleAll w s requests).2.1
        (service.handleAll w s requests).2.2 ∧
      ∀ x ∈ service.history w s requests, x.Settled service := by
  induction requests generalizing past w s with
  | nil =>
    rw [history, List.append_nil]
    exact ⟨recorded, List.forall_mem_nil _⟩
  | cons request rest ih =>
    let x := service.exchange request w s
    have again : past ++ service.history w s (request :: rest) = (past ++ [x]) ++
        service.history (service.handle request w s).2.1 (service.handle request w s).2.2 rest :=
      List.append_cons past x _
    rw [again] at distinct ⊢
    have before : (created (past ++ [x])).Nodup := by
      rw [created, List.filterMap_append] at distinct
      exact distinct.of_append_left
    obtain ⟨next, later⟩ := recorded_handle recorded ticks before
    obtain ⟨last, others⟩ := ih next (ticks.later later) distinct
    have settled : x.Settled service := by
      refine settled_handle (recorded.listed ?_) (next.listed before)
      rw [created_append] at before
      exact before.of_append_left
    exact ⟨last, List.forall_mem_cons.mpr ⟨settled, others⟩⟩

theorem recorded_empty (s : Supply) : Recorded [] {} s where
  ids := rfl
  dates := List.forall_mem_nil _
  read := List.forall_mem_nil _
  recency := List.forall_mem_nil _

theorem handle_list (service : Service) (body : List UInt8) (declared : Option String) :
    (service.handle ⟨"GET", "/flows", body, declared⟩ w s).1 =
      .ok (.obj [("count", .int w.recent.length),
        ("flows", .list (w.recent.map Draft.summary))]) := by
  have asked : destination service.routes "GET" "/flows" = .endpoint (.query .list) := by
    unfold routes
    cases service.system <;> decide +kernel
  have here : service.handle ⟨"GET", "/flows", body, declared⟩ w s = service.read w s .list := by
    simp only [handle, asked]
  rw [here, w.recent_perm.length_eq, read]

/-- After any history of requests to an empty workspace, the list holds the flows that were made and
not dropped since, the one that was changed last in front. -/
theorem listed_by_recency (service : Service) (supply : Supply) (requests : List Request)
    (ticks : supply.Ticks) (distinct : (created (service.history {} supply requests)).Nodup) :
    let past := service.history {} supply requests
    let last := (service.handleAll {} supply requests).2
    Listed past last.1 ∧ (∀ x ∈ past, x.Settled service) ∧
      ∀ body declared, (service.handle ⟨"GET", "/flows", body, declared⟩ last.1 last.2).1 =
        .ok (.obj [("count", .int last.1.recent.length),
          ("flows", .list (last.1.recent.map Draft.summary))]) := by
  intro past last
  obtain ⟨recorded, settled⟩ := recorded_history (recorded_empty supply) ticks distinct
  exact ⟨recorded.listed distinct, settled, handle_list service⟩

end Service

/-! ## Two flows -/

/-- A supply with numbers for tags, and a clock that goes on by microseconds. -/
def ticking : Supply :=
  ⟨Moment.padded 8, fun reading => ⟨reading⟩, 0, 0⟩

theorem ticking_ticks : ticking.Ticks :=
  strictMono_id

def newFlow : Request :=
  { method := "POST", path := "/flows", body := ascii "\x7b\x7d" }

def settle (body : String) : Request :=
  { method := "PUT", path := "/flows/FL-00000001/settings", body := ascii body }

theorem command_newFlow : usual.command? newFlow = some .create := by
  decide +kernel

theorem command_settle (body : String) :
    usual.command? (settle body) = some (.settings "FL-00000001") := by
  have asked : destination usual.routes "PUT" "/flows/FL-00000001/settings" =
      .endpoint (.command (.settings "FL-00000001")) := by decide +kernel
  unfold Service.command?
  simp only [settle, asked]

theorem readBody_newFlow : readBody usual.bodyDepth newFlow Service.createBody = .ok none := by
  unfold readBody
  rw [if_neg (by decide), show newFlow.body = ascii "\x7b\x7d" from rfl, readBytes_empty]
  rfl

theorem handle_newFlow (w : Workspace) (s : Supply) :
    (usual.handle newFlow w s).2 = (w.create (.new {}) s).2 := by
  rw [Service.handle_of_command? command_newFlow, Service.write, readBody_newFlow]
  rfl

theorem change_newFlow (w : Workspace) (s : Supply) :
    usual.change? newFlow w s = some (.made (Draft.new none {} (.new {}) s).1.id) := by
  rw [Service.change?, command_newFlow, Option.bind_some, Service.carriesOut, readBody_newFlow]
  rfl

theorem new?_settle (body : String) (w : Workspace) (s : Supply) :
    Change.new? (usual.change? (settle body) w s) = none := by
  rw [Service.change?, command_settle, Option.bind_some]
  split <;> rfl

/-- The first two requests make two flows. -/
theorem created_settle (body : String) :
    created (usual.history {} ticking [newFlow, newFlow, settle body]) =
      ["FL-00000001", "FL-00000002"] := by
  have made (id : String) : Change.new? (some (.made id)) = some id := rfl
  simp only [Service.history, Service.exchange, created, List.filterMap_cons, List.filterMap_nil,
    change_newFlow, made, new?_settle, handle_newFlow]
  decide +kernel

/-- A request whose settings are empty is a change all the same. -/
theorem settle_listed :
    let requests := [newFlow, newFlow, settle "\x7b\x7d"]
    let past := usual.history {} ticking requests
    let last := (usual.handleAll {} ticking requests).2
    ticking.Ticks ∧ (created past).Nodup ∧
      Listed past last.1 ∧ (∀ x ∈ past, x.Settled usual) ∧
      ∀ body declared, (usual.handle ⟨"GET", "/flows", body, declared⟩ last.1 last.2).1 =
        .ok (.obj [("count", .int last.1.recent.length),
          ("flows", .list (last.1.recent.map Draft.summary))]) := by
  intro requests past last
  have distinct : (created past).Nodup := by
    rw [show created past = ["FL-00000001", "FL-00000002"] from created_settle _]
    decide
  exact ⟨ticking_ticks, distinct,
    Service.listed_by_recency usual ticking requests ticking_ticks distinct⟩

/-! ## A failure that moves a flow -/

/-- Settings whose answer cannot be written: the text for the schedule is a lone surrogate. -/
def loneSurrogate : Request :=
  settle "\x7b\"cron_expression\":\"\\ud800\"\x7d"

theorem readBody_loneSurrogate : readBody usual.bodyDepth loneSurrogate Service.settingsBody =
    .ok [("cron_expression", .str (String.ofList (Text.ofCodePoint 0xD800)))] := by
  have decoded : Json.decode loneSurrogate.body =
      .ok "\x7b\"cron_expression\":\"\\ud800\"\x7d".toList := by rfl
  have body : Json.readBytes loneSurrogate.body usual.bodyDepth =
      .ok (.obj [("cron_expression", .str (String.ofList (Text.ofCodePoint 0xD800)))]) := by
    rw [Json.readBytes_of_decode decoded]
    exact Json.readChars_field (show "cron_expression".toList.all Json.isPlain = true by decide)
      (Json.textBody_escape _ _ (by decide))
  unfold readBody
  rw [if_neg (by decide), body]
  rfl

/-- The third request fails, and moves the first flow to the front. Where the name of a flow cannot
be written, there is a flow but no list. -/
theorem failure_moves :
    ticking.Ticks ∧
      (created (usual.history {} ticking [newFlow, newFlow, loneSurrogate])).Nodup ∧
      (∃ x ∈ usual.history {} ticking [newFlow, newFlow, loneSurrogate],
        x.response.failed = true ∧ x.before = ["FL-00000002", "FL-00000001"] ∧
          x.after = ["FL-00000001", "FL-00000002"]) ∧
      let last := (usual.handleAll {} ticking [surrogateName]).2
      last.1.order = ["FL-00000001"] ∧
        (usual.handle ⟨"GET", "/flows", [], none⟩ last.1 last.2).1 = .internalError := by
  refine ⟨ticking_ticks, ?_, ?_, ?_⟩
  · rw [loneSurrogate, created_settle]
    decide
  · simp only [Service.history, handle_newFlow]
    refine ⟨_, List.mem_cons_of_mem _ (List.mem_cons_of_mem _ List.mem_cons_self), ?_⟩
    have handled (w : Workspace) (s : Supply) :
        usual.handle loneSurrogate w s = usual.write loneSurrogate w s (.settings "FL-00000001") :=
      Service.handle_of_command? (command_settle _)
    simp only [Service.exchange, handled, Service.write, readBody_loneSurrogate]
    decide +kernel
  · have asked : usual.command? surrogateName = some .create := by decide +kernel
    have handled : usual.handle surrogateName {} ticking =
        usual.write surrogateName {} ticking .create :=
      Service.handle_of_command? asked
    simp only [Service.handleAll, handled, Service.write, readBody_surrogateName,
      Service.handle_list]
    refine ⟨by decide +kernel, ?_⟩
    rw [Response.ok, Response.json, if_neg (by decide +kernel)]

end Http

end Stepflow
