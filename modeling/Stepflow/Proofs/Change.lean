import Stepflow.Proofs.Request
import Stepflow.Proofs.Run

/-!
# What a request changes

A command of the service makes a draft, drops one, or performs an action on one. It is carried out
if its body can be read and the action neither fails nor finds nothing. What it then leaves behind
is said once, by `Effect`: the drafts that it left alone, and the dates of the one it was about.

A command that is carried out has an answer, but the answer may not be writable. A command that is
not carried out is refused, and sets no date.

Results:
1. `Draft.sameDates_of_failed`, `changed_of_ok`: what an action makes of the dates of a draft.
2. `Service.act_effect`, `write_effect`: what a command leaves behind, and what it is answered.
3. `Service.handle_effect`: the same for every request. One without a command changes nothing.
4. `Service.carried_of_success`, `refused_of_failure`: what an answer says about a change.
-/

namespace Stepflow

/-! ## Dates -/

/-- The clock was read on the way from `s` to `t`, and showed `m`. -/
structure Supply.Shown (s t : Supply) (m : Moment) : Prop where
  later : s.Later t
  reading : ∃ number, s.readings < number ∧ number ≤ t.readings ∧ s.clock number = m

theorem Supply.shown_now {s t : Supply} (later : s.Later t) : s.Shown t.now.2 t.now.1 where
  later := later.trans t.later_now
  reading := ⟨t.readings + 1, Nat.lt_succ_of_le later.readings, Nat.le_refl _,
    congrFun later.clock.symm _⟩

namespace Draft

/-- A draft that is known under the same id and has the same dates. -/
structure SameDates (d e : Draft) : Prop where
  id : e.id = d.id
  created : e.created = d.created
  updated : e.updated = d.updated

/-- A draft that is known under the same id, and was changed on the way from `s` to `t`. -/
structure Changed (s t : Supply) (d e : Draft) : Prop where
  id : e.id = d.id
  created : e.created = d.created
  updated : s.Shown t e.updated

variable {env : Environment} {action : Action} {d e : Draft} {s t : Supply}

theorem SameDates.refl (d : Draft) : d.SameDates d :=
  ⟨rfl, rfl, rfl⟩

theorem SameDates.touch (same : d.SameDates e) (later : s.Later t) :
    Changed s (e.touch t).2 d (e.touch t).1 :=
  ⟨same.id, same.created, Supply.shown_now later⟩

theorem perform_later (env : Environment) (action : Action) (d : Draft) (s : Supply) :
    s.Later (d.perform env action s).2.2 := by
  by_cases kept : ∀ g, action ≠ .replaceGraph g
  · exact (perform_step env kept d s).later
  · obtain ⟨g, rfl⟩ := not_forall_not.mp kept
    exact .refl s

/-- An edit sets no date. -/
theorem perform_edit (env : Environment) (d : Draft) (s : Supply) (edit : action.isEdit = true) :
    d.SameDates (d.perform env action s).2.1 := by
  cases action with
  | addStep kind | replaceGraph graph => exact ⟨rfl, rfl, rfl⟩
  | removeStep id | setField id name value | connect source target iterates | disconnect id =>
    simp only [perform]
    split <;> exact ⟨rfl, rfl, rfl⟩
  | changeProfile updates | importDocument document | importPayload payload bounds | touch =>
    cases edit

/-- What an action that is no edit makes of the dates of a draft. -/
def Dated (d : Draft) (s : Supply) : Outcome → Prop
  | (.ok _, e, t) => d.Changed s t e
  | (.error _, e, _) => d.SameDates e

theorem importOutcome_dated (env : Environment) (d : Draft) (s : Supply)
    (fields : Except Import.Refusal (List (String × Json))) :
    d.Dated s (d.importOutcome env s fields) := by
  rcases importOutcome_cases env d s fields with ⟨found, -, made⟩ | ⟨_, _, failed, -⟩
  · rw [made]
    exact ⟨rfl, rfl, Supply.shown_now (Import.graph_later found s)⟩
  · rw [failed]
    exact .refl d

theorem perform_dated (env : Environment) (d : Draft) (s : Supply)
    (other : action.isEdit = false) : d.Dated s (d.perform env action s) := by
  cases action with
  | changeProfile updates =>
    cases changed : d.profile.change env updates with
    | error error =>
      simp only [perform, changed]
      exact .refl d
    | ok profile =>
      simp only [perform, changed]
      exact ⟨rfl, rfl, Supply.shown_now (.refl s)⟩
  | importDocument document => exact importOutcome_dated env d s _
  | importPayload payload bounds => exact importOutcome_dated env d s _
  | touch => exact (SameDates.refl d).touch (.refl s)
  | addStep kind | removeStep id | setField id name value | connect source target iterates
  | disconnect id | replaceGraph graph => cases other

/-- No action gives a draft another id. -/
theorem perform_id (env : Environment) (action : Action) (d : Draft) (s : Supply) :
    (d.perform env action s).2.1.id = d.id := by
  cases edit : action.isEdit with
  | true => exact (perform_edit env d s edit).id
  | false =>
    have dated := perform_dated env d s edit
    revert dated
    cases d.perform env action s with
    | mk result rest =>
      cases result with
      | ok reply => exact Changed.id
      | error failure => exact SameDates.id

/-- An action that fails or finds nothing sets no date. -/
theorem sameDates_of_failed {result : Except Failure Reply}
    (h : d.perform env action s = (result, e, t)) (nothing : failed result = true) :
    d.SameDates e := by
  cases edit : action.isEdit with
  | true =>
    have same := perform_edit env d s edit
    rwa [h] at same
  | false =>
    have dated := perform_dated env d s edit
    rw [h] at dated
    cases result with
    | error failure => exact dated
    | ok reply =>
      have found : reply.missing = false := missing_of_not_isEdit edit h
      rw [failed, found] at nothing
      cases nothing

/-- Once an action has succeeded, and an edit is followed by a touch, the draft is changed now. -/
theorem changed_of_ok {reply : Reply} (h : d.perform env action s = (.ok reply, e, t)) :
    d.Changed s (if action.isEdit then e.touch t else (e, t)).2
      (if action.isEdit then e.touch t else (e, t)).1 := by
  have later := perform_later env action d s
  rw [h] at later
  cases edit : action.isEdit with
  | true =>
    have same := perform_edit env d s edit
    rw [h] at same
    exact same.touch later
  | false =>
    have dated := perform_dated env d s edit
    rwa [h] at dated

end Draft

namespace Http

/-! ## Changes -/

/-- What a command is for: to make a flow, to change one, or to drop one. -/
inductive Change where
  | made (id : String)
  | changed (id : String)
  | dropped (id : String)
deriving DecidableEq, Repr

def Change.id : Change → String
  | .made id | .changed id | .dropped id => id

/-- What a command is for, if a new flow gets the id `new`. -/
def Command.change (new : String) : Command → Change
  | .create => .made new
  | .delete id => .dropped id
  | .settings id | .addStep id | .setField id _ | .removeStep id _ | .connect id | .disconnect id _
  | .upload id => .changed id

namespace Service

/-- The flow and the action that a command asks for, if its body can be read. Of an upload only the
declared length is looked at. -/
def action? (s : Service) (request : Request) : Command → Option (String × Action)
  | .create | .delete _ => none
  | .settings id => do
    let updates ← (readBody s.bodyDepth request settingsBody).toOption
    return (id, .changeProfile updates)
  | .addStep id => do
    let kind ← (readBody s.bodyDepth request kindBody).toOption
    return (id, .addStep kind.name)
  | .setField id node => do
    let (name, value) ← (readBody s.bodyDepth request fieldBody).toOption
    return (id, .setField node name value)
  | .removeStep id node => some (id, .removeStep node)
  | .connect id => do
    let (source, target) ← (readBody s.bodyDepth request edgeBody).toOption
    return (id, .connect source target none)
  | .disconnect id edge => some (id, .disconnect edge)
  | .upload id =>
    match request.contentLength.bind (lengthRefusal? s.importLimit) with
    | some _ => none
    | none => some (id, .importPayload (.bytes request.body) s.uploadBounds)

def performs (s : Service) (w : Workspace) (supply : Supply) (id : String) (action : Action) :
    Bool :=
  (w.find? id).any fun d => !Draft.failed (d.perform s.env action supply).1

def carriesOut (s : Service) (request : Request) (w : Workspace) (supply : Supply) :
    Command → Bool
  | .create => (readBody s.bodyDepth request createBody).isOk
  | .delete id => (w.delete? id).isSome
  | command => (s.action? request command).any fun (id, action) => s.performs w supply id action

def command? (s : Service) (request : Request) : Option Command :=
  match destination s.routes request.method request.path with
  | .endpoint (.command command) => some command
  | _ => none

/-- What a request changes: what its command is for, if that is carried out. -/
def change? (s : Service) (request : Request) (w : Workspace) (supply : Supply) : Option Change :=
  (s.command? request).bind fun command =>
    if s.carriesOut request w supply command then
      some (command.change (Draft.new none {} (.new s.env) supply).1.id)
    else none

end Service

/-- What a command leaves behind, and what it is answered. -/
inductive Effect (w : Workspace) (s : Supply) : Option Change → Result → Prop
  | refused {response : Response} {t : Supply} : response.failed = true → s.Later t →
      Effect w s none (response, w, t)
  /-- The draft was put back with the dates it had. -/
  | restored {response : Response} {d e : Draft} {t : Supply} : response.failed = true →
      d ∈ w.drafts → d.SameDates e → s.Later t → Effect w s none (response, w.put e, t)
  | made {value : Json} {d : Draft} {t : Supply} : d.created = d.updated → s.Shown t d.updated →
      Effect w s (some (.made d.id)) (.ok value, w.put d, t)
  | changed {value : Json} {d e : Draft} {t : Supply} : d ∈ w.drafts → d.Changed s t e →
      Effect w s (some (.changed d.id)) (.ok value, w.put e, t)
  | dropped {value : Json} {id : String} {left : Workspace} : w.delete? id = some left →
      Effect w s (some (.dropped id)) (.ok value, left, s)

namespace Effect

variable {w : Workspace} {s : Supply} {result : Result}

theorem later {change : Option Change} (effect : Effect w s change result) :
    s.Later result.2.2 := by
  cases effect with
  | refused _ later => exact later
  | restored _ _ _ later => exact later
  | made _ shown => exact shown.later
  | changed _ changed => exact changed.updated.later
  | dropped _ => exact .refl s

/-- A command that is not carried out fails. -/
theorem failed (effect : Effect w s none result) : result.1.failed = true := by
  cases effect with
  | refused failed _ => exact failed
  | restored failed _ _ _ => exact failed

/-- A command that is carried out succeeds, unless its answer cannot be written. -/
theorem answered {change : Change} (effect : Effect w s (some change) result) :
    result.1.failed = false ∨ result.1 = .internalError := by
  have ok (value : Json) :
      (Response.ok value).failed = false ∨ Response.ok value = .internalError := by
    unfold Response.ok Response.json
    split
    · exact .inl rfl
    · exact .inr rfl
  cases effect with
  | made _ _ | changed _ _ | dropped _ => exact ok _

end Effect

namespace Service

/-! ## Actions of a service -/

variable {s : Service} {request : Request} {w : Workspace} {supply : Supply}

theorem performs_eq {id : String} {action : Action} {d : Draft} {outcome : Draft.Outcome}
    (found : w.find? id = some d) (performed : d.perform s.env action supply = outcome) :
    s.performs w supply id action = !Draft.failed outcome.1 := by
  rw [performs, found, Option.any_some, performed]

/-- What an action that the service performs leaves behind. -/
theorem act_effect {action : Action} {answer : Reply → Draft → Except Response Json}
    (suits : Suits s.env action answer) (id : String) :
    Effect w supply (if s.performs w supply id action then some (.changed id) else none)
      (s.act w supply id action answer) := by
  cases found : w.find? id with
  | none =>
    have unknown : s.performs w supply id action = false := by rw [performs, found, Option.any_none]
    simp only [unknown, act, found]
    exact .refused (failed_flowNotFound id) (.refl supply)
  | some d =>
    obtain rfl := Workspace.id_of_find? found
    have mem := Workspace.mem_of_find? found
    have later := Draft.perform_later s.env action d supply
    cases performed : d.perform s.env action supply with
    | mk result rest =>
      obtain ⟨e, t⟩ := rest
      have performs := performs_eq found performed
      rw [performed] at later
      have same := Draft.sameDates_of_failed performed
      cases result with
      | error failure =>
        simp only [performs, Draft.failed, act, found, performed]
        exact .restored (failed_failureResponse _) mem (same rfl) later
      | ok reply =>
        have changed := Draft.changed_of_ok performed
        let shown := (if action.isEdit then e.touch t else (e, t)).1
        cases missing : reply.missing with
        | true =>
          obtain ⟨response, answer, failed⟩ := suits.refuses performed missing shown
          simp only [performs, Draft.failed, missing, act, found, performed, shown, answer]
          exact .restored failed mem (same missing) later
        | false =>
          obtain ⟨value, answer⟩ := suits.answers performed missing shown
          simp only [performs, Draft.failed, missing, act, found, performed, shown, answer]
          exact .changed mem changed

/-! ## Commands -/

theorem write_effect (s : Service) (request : Request) (w : Workspace) (supply : Supply)
    (command : Command) :
    Effect w supply
      (if s.carriesOut request w supply command then
        some (command.change (Draft.new none {} (.new s.env) supply).1.id) else none)
      (s.write request w supply command) := by
  have refused {response : Response} (failed : response.failed = true) :
      Effect w supply none (response, w, supply) :=
    .refused failed (.refl supply)
  cases command with
  | create =>
    cases body : readBody s.bodyDepth request createBody with
    | error response =>
      simp only [carriesOut, write, body]
      exact refused (failed_of_readBody body)
    | ok name =>
      let profile := { Profile.new s.env with name := (filled name).getD s.env.flowName }
      simp only [carriesOut, write, body]
      exact Effect.made (d := (Draft.new none {} profile supply).1) rfl
        (Supply.shown_now supply.later_draw)
  | delete id =>
    cases deleted : w.delete? id with
    | none =>
      simp only [carriesOut, write, deleted]
      exact refused (failed_flowNotFound id)
    | some left =>
      simp only [carriesOut, write, deleted]
      exact .dropped deleted
  | settings id =>
    cases body : readBody s.bodyDepth request settingsBody with
    | error response =>
      simp only [carriesOut, action?, write, body]
      exact refused (failed_of_readBody body)
    | ok updates =>
      simp only [carriesOut, action?, write, body]
      exact act_effect (suits_of_ok Draft.perform_reply fun _ _ => ⟨_, rfl⟩) id
  | addStep id =>
    cases body : readBody s.bodyDepth request kindBody with
    | error response =>
      simp only [carriesOut, action?, write, body]
      exact refused (failed_of_readBody body)
    | ok kind =>
      simp only [carriesOut, action?, write, body]
      exact act_effect (suits_of_ok Draft.perform_reply fun _ _ => ⟨_, rfl⟩) id
  | setField id node =>
    cases body : readBody s.bodyDepth request fieldBody with
    | error response =>
      simp only [carriesOut, action?, write, body]
      exact refused (failed_of_readBody body)
    | ok given =>
      obtain ⟨name, value⟩ := given
      simp only [carriesOut, action?, write, body]
      exact act_effect (suits_setField node name value) id
  | removeStep id node =>
    simp only [carriesOut, action?, write]
    exact act_effect (suits_removeStep node _) id
  | connect id =>
    cases body : readBody s.bodyDepth request edgeBody with
    | error response =>
      simp only [carriesOut, action?, write, body]
      exact refused (failed_of_readBody body)
    | ok ends =>
      simp only [carriesOut, action?, write, body]
      exact act_effect (suits_of_ok Draft.perform_reply fun _ _ => ⟨_, rfl⟩) id
  | disconnect id edge =>
    simp only [carriesOut, action?, write]
    exact act_effect (suits_disconnect edge _) id
  | upload id =>
    cases declared : request.contentLength.bind (lengthRefusal? s.importLimit) with
    | some response =>
      simp only [carriesOut, action?, write, declared]
      cases w.find? id with
      | none => exact refused (failed_flowNotFound id)
      | some d => exact refused (failed_of_lengthRefusal? declared)
    | none =>
      -- Whether the flow is known is asked twice.
      have once : s.write request w supply (.upload id) =
          s.act w supply id (.importPayload (.bytes request.body) s.uploadBounds) fun _ draft =>
            .ok (statusJson "imported" draft.summaryFields) := by
        simp only [write, act, declared]
        cases w.find? id with
        | none => rfl
        | some d => rfl
      simp only [carriesOut, action?, declared]
      rw [once]
      exact act_effect (suits_of_ok Draft.perform_reply fun _ _ => ⟨_, rfl⟩) id

theorem handle_of_command? {command : Command} (asked : s.command? request = some command) :
    s.handle request w supply = s.write request w supply command := by
  unfold command? at asked
  unfold handle
  cases there : destination s.routes request.method request.path with
  | endpoint endpoint =>
    cases endpoint with
    | query query =>
      rw [there] at asked
      cases asked
    | command other =>
      rw [there] at asked
      cases asked
      rfl
  | wrongMethod | redirect | unknown =>
    rw [there] at asked
    cases asked

theorem change?_of_none (other : s.command? request = none) :
    s.change? request w supply = none := by
  rw [change?, other, Option.bind_none]

theorem command_of_change? {change : Change} (h : s.change? request w supply = some change) :
    ∃ command id, s.command? request = some command ∧ change = command.change id := by
  obtain ⟨command, asked, carried⟩ := Option.bind_eq_some_iff.mp h
  split at carried
  · exact ⟨command, _, asked, (Option.some.inj carried).symm⟩
  · cases carried

/-- What a request leaves behind. One that leads to no command leaves everything as it was. -/
theorem handle_effect (s : Service) (request : Request) (w : Workspace) (supply : Supply) :
    match s.command? request with
    | some _ => Effect w supply (s.change? request w supply) (s.handle request w supply)
    | none => (s.handle request w supply).2 = (w, supply) := by
  unfold change? command? handle
  cases destination s.routes request.method request.path with
  | endpoint asked =>
    cases asked with
    | query query => exact read_kept query
    | command command => exact write_effect s request w supply command
  | wrongMethod | redirect | unknown => rfl

/-- A command that succeeds is carried out. -/
theorem carried_of_success (asked : (s.command? request).isSome)
    (succeeded : (s.handle request w supply).1.failed = false) :
    (s.change? request w supply).isSome := by
  obtain ⟨command, asked⟩ := Option.isSome_iff_exists.mp asked
  have effect := s.handle_effect request w supply
  rw [asked] at effect
  cases change : s.change? request w supply with
  | some change => rfl
  | none =>
    rw [change] at effect
    exact absurd effect.failed (Bool.eq_false_iff.mp succeeded)

/-- A request that fails is not carried out, unless it ends in an internal error. -/
theorem refused_of_failure (failed : (s.handle request w supply).1.failed = true) :
    s.change? request w supply = none ∨ (s.handle request w supply).1 = .internalError := by
  cases change : s.change? request w supply with
  | none => exact .inl rfl
  | some change =>
    obtain ⟨command, _, asked, -⟩ := command_of_change? change
    have effect := s.handle_effect request w supply
    rw [asked] at effect
    simp only [change] at effect
    exact .inr (effect.answered.resolve_left (Bool.not_eq_false _ ▸ failed))

end Service

end Http

end Stepflow
