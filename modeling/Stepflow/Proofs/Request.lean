import Stepflow.Proofs.Answer
import Stepflow.Proofs.Response

/-!
# Failed requests

A request whose response has a status of 400 or above leaves the workspace as it was. Most refusals
come before anything is changed. What is left are the answers that cannot be written, and there are
none as long as neither the workspace nor the body of the request holds a lone surrogate.

Results:
1. `Http.Service.act_failed`: an action either succeeds or leaves the workspace as it was.
2. `create_failed`, `settings_failed`, `upload_failed`, ...: the same for each command.
3. `Http.Service.handle_failed`: the same for every request.
-/

namespace Stepflow

open Text

/-! ## Clean workspaces -/

/-- A draft whose texts hold no lone surrogate and whose integers have less digits than the
limit. -/
structure Draft.Clean (d : Draft) : Prop where
  id : hasSurrogate d.id = false
  profile : d.profile.toJson.writable = true
  graph : d.graph.toJson.writable = true
  orders : ∀ n ∈ d.graph.nodes, Numeral.Short n.order

def Workspace.Clean (w : Workspace) : Prop :=
  ∀ d ∈ w.drafts, d.Clean

structure Environment.Clean (env : Environment) : Prop where
  flowName : hasSurrogate env.flowName = false
  importedFlowName : hasSurrogate env.importedFlowName = false

namespace Http

theorem Response.failed_ok {value : Json} (writable : value.writable = true) :
    (Response.ok value).failed = false := by
  unfold Response.ok Response.json
  rw [if_pos writable]
  rfl

/-- An object with a status and further fields is writable if those are. -/
theorem Service.writable_statusJson {status : String} {more : List (String × Json)}
    (plain : hasSurrogate status = false)
    (writable : ∀ field ∈ more, hasSurrogate field.1 = false ∧ field.2.writable = true) :
    (statusJson status more).writable = true := by
  have name : hasSurrogate "status" = false := by decide +kernel
  exact Json.writable_obj.mpr
    (List.forall_mem_cons.mpr ⟨⟨name, Json.writable_str.mpr plain⟩, writable⟩)

namespace Service

/-! ## Actions of a service -/

variable {s : Service} {w : Workspace} {supply : Supply}

/-- An action that a service performs either succeeds or leaves the workspace as it was, if what is
answered behind a success is writable. -/
theorem act_failed {id : String} {action : Action}
    {answer : Reply → Draft → Except Response Json} (clean : w.Clean)
    (suits : Suits s.env action answer)
    (answers : ∀ d : Draft, d.Clean → ∀ reply changed next,
      d.perform s.env action supply = (.ok reply, changed, next) → ∀ value,
        answer reply (if action.isEdit then changed.touch next else (changed, next)).1 =
            .ok value → value.writable = true)
    (failed : (s.act w supply id action answer).1.failed = true) :
    (s.act w supply id action answer).2.1 = w := by
  unfold act at failed ⊢
  cases found : w.find? id with
  | none => rfl
  | some d =>
    have here := clean d (Workspace.mem_of_find? found)
    have unchanged : Draft.failed (d.perform s.env action supply).1 = true →
        (d.perform s.env action supply).2.1 = d := Draft.perform_failed here.orders
    simp only [found] at failed ⊢
    cases performed : d.perform s.env action supply with
    | mk result rest =>
      obtain ⟨changed, next⟩ := rest
      rw [performed] at unchanged
      -- In both cases the draft is put back, and it is still the one that was found.
      cases result with
      | error failure =>
        have same : changed = d := unchanged rfl
        simp only [same, Workspace.put_of_find? found]
      | ok reply =>
        have writable := answers d here reply changed next performed
        simp only [performed] at failed ⊢
        split at failed
        · next value ok =>
          rw [Response.failed_ok (writable value ok)] at failed
          cases failed
        · next response refused =>
          have same : changed = d := unchanged (suits.missing_of_refused performed refused)
          rw [same, Workspace.put_of_find? found]

/-! ## Commands -/

variable {request : Request}

/-- What is read of a clean body is clean, and as small as the body. -/
theorem clean_of_readBody {α : Type} {read : List (String × Json) → Field.Checked α} {found : α}
    {depth : Nat} (clean : request.Clean depth) (h : readBody depth request read = .ok found) :
    ∃ fields, read fields = .ok found ∧ (∀ field ∈ fields, field.2.clean = true) ∧
      ∀ field ∈ fields, field.2.Small (2 * request.body.length) := by
  obtain ⟨fields, body, result⟩ := fields_of_readBody h
  exact ⟨fields, result, Json.clean_obj.mp (clean _ body), Json.small_of_readBytes body⟩

theorem create_failed (env : s.env.Clean) (hex : ∀ i, Supply.IsHex (supply.tag i))
    (clean : request.Clean s.bodyDepth)
    (failed : (s.write request w supply .create).1.failed = true) :
    (s.write request w supply .create).2.1 = w := by
  unfold write at failed ⊢
  cases body : readBody s.bodyDepth request createBody with
  | error response => rfl
  | ok name =>
    obtain ⟨fields, read, plain, -⟩ := clean_of_readBody clean body
    have front : Plain "FL-" := by unfold Plain; decide
    have id : hasSurrogate ("FL-" ++ upper (supply.tag (supply.drawn + 1))) = false :=
      (front.append (plain_upper_of_hex (hex _))).hasSurrogate
    have named := clean_filled (clean_of_createBody read plain) env.flowName
    simp only [body] at failed
    rw [Response.failed_ok] at failed
    · cases failed
    · refine writable_statusJson (by decide +kernel) ?_
      have names : hasSurrogate "flow_id" = false ∧ hasSurrogate "flow_name" = false := by
        decide +kernel
      rw [List.forall_mem_cons, List.forall_mem_singleton, Json.writable_str, Json.writable_str]
      exact ⟨⟨names.1, id⟩, names.2, named⟩

theorem settings_failed {id : String} (workspace : w.Clean) (env : s.env.Clean)
    (clean : request.Clean s.bodyDepth)
    (failed : (s.write request w supply (.settings id)).1.failed = true) :
    (s.write request w supply (.settings id)).2.1 = w := by
  unfold write at failed ⊢
  cases body : readBody s.bodyDepth request settingsBody with
  | error response => rfl
  | ok updates =>
    simp only [body] at failed ⊢
    refine act_failed workspace (suits_of_ok Draft.perform_reply fun _ _ => ⟨_, rfl⟩) ?_ failed
    intro d here reply changed next performed value answered
    obtain ⟨fields, read, plain, -⟩ := clean_of_readBody clean body
    have reply_writable : (replyJson reply).writable = true := by
      simp only [Draft.perform] at performed
      split at performed
      · cases performed
      · next profile result =>
        cases performed
        exact Profile.writable_of_change result here.profile
          (clean_of_settingsBody read plain) env.flowName
    cases answered
    refine writable_statusJson (by decide +kernel) ?_
    simpa using ⟨by decide +kernel, reply_writable⟩

theorem addStep_failed {id : String} (workspace : w.Clean)
    (hex : ∀ i, Supply.IsHex (supply.tag i))
    (failed : (s.write request w supply (.addStep id)).1.failed = true) :
    (s.write request w supply (.addStep id)).2.1 = w := by
  unfold write at failed ⊢
  cases body : readBody s.bodyDepth request kindBody with
  | error response => rfl
  | ok kind =>
    simp only [body] at failed ⊢
    refine act_failed workspace (suits_of_ok Draft.perform_reply fun _ _ => ⟨_, rfl⟩) ?_ failed
    intro d here reply changed next performed value answered
    cases answered
    simp only [Draft.perform] at performed
    split at performed
    · cases performed
      exact Graph.writable_addStep here.orders hex kind
    · cases performed

theorem setField_failed {id node : String} (workspace : w.Clean) (clean : request.Clean s.bodyDepth)
    (failed : (s.write request w supply (.setField id node)).1.failed = true) :
    (s.write request w supply (.setField id node)).2.1 = w := by
  unfold write at failed ⊢
  cases body : readBody s.bodyDepth request fieldBody with
  | error response => rfl
  | ok found =>
    obtain ⟨name, value⟩ := found
    simp only [body] at failed ⊢
    refine act_failed workspace (suits_setField node name value) ?_ failed
    intro d here reply changed next performed answer answered
    obtain ⟨fields, read, plain, small⟩ := clean_of_readBody clean body
    have valueClean : value.clean = true := by
      rcases value_of_fieldBody read with rfl | there
      · rfl
      · exact Json.clean_of_fieldOf? plain there
    have valueSmall : ∀ k, value = .int k → Numeral.fits k = true := by
      rintro k rfl
      -- An integer that was read from the body has no more digits than one that can be written.
      rcases value_of_fieldBody read with null | there
      · cases null
      · exact Json.of_fieldOf? (P := (·.Small _)) small there
    simp only [Draft.perform] at performed
    split at performed
    · cases performed
    · cases performed
      cases answered
    · next n graph set =>
      cases performed
      cases answered
      exact Graph.writable_setField here.graph valueClean valueSmall set

theorem connect_failed {id : String} (workspace : w.Clean)
    (hex : ∀ i, Supply.IsHex (supply.tag i)) (clean : request.Clean s.bodyDepth)
    (failed : (s.write request w supply (.connect id)).1.failed = true) :
    (s.write request w supply (.connect id)).2.1 = w := by
  unfold write at failed ⊢
  cases body : readBody s.bodyDepth request edgeBody with
  | error response => rfl
  | ok ends =>
    obtain ⟨source, target⟩ := ends
    simp only [body] at failed ⊢
    refine act_failed workspace (suits_of_ok Draft.perform_reply fun _ _ => ⟨_, rfl⟩) ?_ failed
    intro d here reply changed next performed value answered
    obtain ⟨fields, read, plain, -⟩ := clean_of_readBody clean body
    obtain ⟨hs, ht⟩ := clean_of_edgeBody read plain
    cases answered
    simp only [Draft.perform] at performed
    split at performed
    · cases performed
    · next made =>
      cases performed
      exact Graph.writable_connect here.graph hex hs ht made

/-- An answer to a removal is the one it was given. -/
theorem eq_of_answerFound {missing : Response} {given value : Json} {reply : Reply} {d : Draft}
    (h : answerFound missing given reply d = .ok value) : value = given := by
  unfold answerFound at h
  split at h
  · cases h
  · cases h
    rfl

/-- A payload of bytes that is imported holds the fields of a document. -/
theorem imported_of_perform {d changed : Draft} {env : Environment} {bytes : List UInt8}
    {bounds : Import.Bounds} {next : Supply} {reply : Reply}
    (h : d.perform env (.importPayload (.bytes bytes) bounds) supply = (.ok reply, changed, next)) :
    ∃ fields, Json.readBytes bytes bounds.depth = .ok (.obj fields) ∧
      changed = (d.importFields env fields supply).1 := by
  simp only [Draft.perform] at h
  rcases Draft.importOutcome_cases env d supply ((Import.Payload.bytes bytes).read bounds) with
    ⟨fields, payload, made⟩ | ⟨_, _, failed, -⟩
  · cases made.symm.trans h
    refine ⟨fields, ?_, rfl⟩
    unfold Import.Payload.read at payload
    split at payload
    · cases payload
    · simp only at payload
      split at payload
      · next document read =>
        cases document with
        | obj inner =>
          cases payload
          exact read
        | _ => cases payload
      · cases payload
      · cases payload
  · cases failed.symm.trans h

theorem upload_failed {id : String} (workspace : w.Clean) (env : s.env.Clean)
    (clean : request.Clean s.uploadDepth) (sized : request.body.length < 2 ^ 63)
    (failed : (s.write request w supply (.upload id)).1.failed = true) :
    (s.write request w supply (.upload id)).2.1 = w := by
  unfold write at failed ⊢
  simp only at failed ⊢
  split at failed
  · rfl
  · split at failed
    · rfl
    · refine act_failed workspace (suits_of_ok Draft.perform_reply fun _ _ => ⟨_, rfl⟩) ?_ failed
      intro d here reply changed next performed value answered
      obtain ⟨fields, document, rfl⟩ := imported_of_perform performed
      have plain := Json.clean_obj.mp (clean _ document)
      obtain ⟨steps, edges⟩ :=
        Import.fits_lengths (Json.small_of_readBytes document) (by omega) supply
      have summary := Draft.writable_summary (d := (d.importFields s.env fields supply).1) here.id
        (Import.clean_name plain env.importedFlowName) steps edges
      cases answered
      exact writable_statusJson (by decide +kernel) (Json.writable_obj.mp summary)

theorem write_failed {command : Command} (workspace : w.Clean) (env : s.env.Clean)
    (hex : ∀ i, Supply.IsHex (supply.tag i)) (clean : request.Clean s.bodyDepth)
    (document : request.Clean s.uploadDepth) (sized : request.body.length < 2 ^ 63)
    (failed : (s.write request w supply command).1.failed = true) :
    (s.write request w supply command).2.1 = w := by
  cases command with
  | create => exact create_failed env hex clean failed
  | delete id =>
    have writable : (statusJson "deleted" []).writable = true := by decide +kernel
    simp only [write] at failed ⊢
    split at failed
    · rw [Response.failed_ok writable] at failed
      cases failed
    · rfl
  | settings id => exact settings_failed workspace env clean failed
  | addStep id => exact addStep_failed workspace hex failed
  | setField id node => exact setField_failed workspace clean failed
  | removeStep id node =>
    refine act_failed workspace (suits_removeStep node _) ?_ failed
    intro d here reply changed next performed value answered
    rw [eq_of_answerFound answered]
    decide +kernel
  | connect id => exact connect_failed workspace hex clean failed
  | disconnect id edge =>
    refine act_failed workspace (suits_disconnect edge _) ?_ failed
    intro d here reply changed next performed value answered
    rw [eq_of_answerFound answered]
    decide +kernel
  | upload id => exact upload_failed workspace env document sized failed

theorem read_kept (query : Query) : (s.read w supply query).2 = (w, supply) := by
  have viewed (id : String) (answer : Draft → Response) :
      (view w supply id answer).2 = (w, supply) := by
    unfold view
    split
    · rfl
    · rfl
  cases query with
  | «show» id | validate id | document id | layout id | hints id node => exact viewed id _
  | _ => rfl

/-- A request that is answered by a failure leaves the workspace as it was. -/
theorem handle_failed (workspace : w.Clean) (env : s.env.Clean)
    (hex : ∀ i, Supply.IsHex (supply.tag i)) (clean : request.Clean s.bodyDepth)
    (document : request.Clean s.uploadDepth) (sized : request.body.length < 2 ^ 63)
    (failed : (s.handle request w supply).1.failed = true) :
    (s.handle request w supply).2.1 = w := by
  unfold handle at failed ⊢
  split at failed
  · rw [read_kept]
  · exact write_failed workspace env hex clean document sized failed
  · rfl
  · rfl
  · rfl

end Service

end Http

end Stepflow
