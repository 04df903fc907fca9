import Stepflow.Http.Service
import Stepflow.Proofs.Failure

/-!
# Responses that refuse

Before a command performs anything, its body is read and its flow looked for; behind the action its
reply is answered. All that can be answered along the way but a success has a status of 400 or
above, and the answer to a reply is a refusal exactly if the action found nothing.

Results:
1. `failed_of_readBody`, `Service.failed_failureResponse`, ...: refusals have such a status.
2. `Service.Suits`: the answers of every command refuse the right replies.
-/

namespace Stepflow.Http

/-! ## Refusals -/

theorem Response.failed_json {status : Nat} (refused : 400 ≤ status) (value : Json) :
    (Response.json status value).failed = true := by
  unfold Response.json
  split
  · exact decide_eq_true refused
  · rfl

theorem Response.failed_detailed {status : Nat} (refused : 400 ≤ status) (detail : Field.Detail) :
    (Response.detailed status detail).failed = true := by
  cases detail with
  | text text => exact failed_json refused _
  | faults model faults => exact decide_eq_true refused

theorem Response.failed_invalid (body : Json) (faults : List Field.Fault) :
    (Response.invalid body faults).failed = true := by
  unfold Response.invalid
  split
  · exact failed_json (by decide) _
  · rfl

theorem failed_of_readBody {α : Type} {depth : Nat} {request : Request}
    {read : List (String × Json) → Field.Checked α} {response : Response}
    (h : readBody depth request read = .error response) : response.failed = true := by
  unfold readBody at h
  split at h
  · cases h
    exact Response.failed_invalid _ _
  · split at h
    · cases h
      exact Response.failed_invalid _ _
    · cases h
      exact Response.failed_json (by decide) _
    · split at h
      · cases h
      · cases h
        exact Response.failed_invalid _ _
    · cases h
      exact Response.failed_invalid _ _

namespace Service

theorem failed_failureResponse (failure : Failure) : (failureResponse failure).failed = true := by
  unfold failureResponse
  split
  all_goals
    first
      | exact Response.failed_detailed (by decide) _
      | exact Response.failed_json (by decide) _
      | rfl

theorem failed_of_lengthRefusal? {limit : Int} {declared : Option String} {response : Response}
    (h : declared.bind (lengthRefusal? limit) = some response) : response.failed = true := by
  obtain ⟨text, -, refused⟩ := Option.bind_eq_some_iff.mp h
  unfold lengthRefusal? at refused
  simp only at refused
  split at refused
  · cases refused
  · split at refused
    · cases refused
      rfl
    · split at refused
      · cases refused
        exact failed_failureResponse _
      · cases refused

theorem failed_flowNotFound (id : String) : (flowNotFound id).failed = true :=
  Response.failed_json (by decide) _

/-! ## Answers to replies -/

/-- An answer that refuses exactly the replies that say that nothing was found. -/
structure Suits (env : Environment) (action : Action)
    (answer : Reply → Draft → Except Response Json) : Prop where
  refuses : ∀ {d s reply e t}, Draft.perform env action d s = (.ok reply, e, t) →
    reply.missing = true → ∀ shown, ∃ response,
      answer reply shown = .error response ∧ response.failed = true
  answers : ∀ {d s reply e t}, Draft.perform env action d s = (.ok reply, e, t) →
    reply.missing = false → ∀ shown, ∃ value, answer reply shown = .ok value

variable {env : Environment}

theorem Suits.missing_of_refused {action : Action} {answer : Reply → Draft → Except Response Json}
    (suits : Suits env action answer) {d e shown : Draft} {s t : Supply} {reply : Reply}
    {response : Response} (performed : d.perform env action s = (.ok reply, e, t))
    (refused : answer reply shown = .error response) : reply.missing = true := by
  cases missing : reply.missing with
  | true => rfl
  | false =>
    obtain ⟨value, answered⟩ := suits.answers performed missing shown
    cases refused.symm.trans answered

theorem suits_of_ok {action : Action} {answer : Reply → Draft → Except Response Json}
    (found : ∀ {d s reply e t}, Draft.perform env action d s = (.ok reply, e, t) →
      reply.missing = false)
    (answers : ∀ reply shown, ∃ value, answer reply shown = .ok value) :
    Suits env action answer where
  refuses := by
    intro d s reply e t performed missing
    cases (found performed).symm.trans missing
  answers := fun _ _ shown => answers _ shown

theorem suits_of_flag {action : Action} {missing : Response} (value : Json)
    (flag : ∀ {d s reply e t}, Draft.perform env action d s = (.ok reply, e, t) →
      ∃ done, reply = .flag done)
    (failed : missing.failed = true) : Suits env action (answerFound missing value) where
  refuses := by
    intro d s reply e t performed nothing shown
    obtain ⟨done, rfl⟩ := flag performed
    cases done with
    | true => cases nothing
    | false => exact ⟨missing, rfl, failed⟩
  answers := by
    intro d s reply e t performed found shown
    obtain ⟨done, rfl⟩ := flag performed
    cases done with
    | true => exact ⟨value, rfl⟩
    | false => cases found

/-- Setting a field of a node that is not there is refused. -/
theorem suits_setField (id name : String) (value : Json) :
    Suits env (.setField id name value) fun reply _ =>
      match reply with
      | .node none => .error (failureResponse (.edit (.noNode id)))
      | reply => .ok (replyJson reply) where
  refuses := by
    intro d s reply e t performed nothing shown
    obtain ⟨found, rfl⟩ := Draft.perform_reply performed
    cases found with
    | none => exact ⟨_, rfl, failed_failureResponse _⟩
    | some n => cases nothing
  answers := by
    intro d s reply e t performed done shown
    obtain ⟨found, rfl⟩ := Draft.perform_reply performed
    cases found with
    | none => cases done
    | some n => exact ⟨_, rfl⟩

theorem suits_removeStep (id : String) {detail : String} (value : Json) :
    Suits env (.removeStep id) (answerFound (.refusal 404 detail) value) :=
  suits_of_flag value Draft.perform_reply (Response.failed_json (by decide) _)

theorem suits_disconnect (id : String) {detail : String} (value : Json) :
    Suits env (.disconnect id) (answerFound (.refusal 404 detail) value) :=
  suits_of_flag value Draft.perform_reply (Response.failed_json (by decide) _)

end Service

end Stepflow.Http
