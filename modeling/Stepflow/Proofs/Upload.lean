import Stepflow.Proofs.Refusal

/-!
# Uploads

An upload replaces a flow by the document in the body of a request. Whatever the body holds, the
request is answered by a summary of the new flow or by a refusal. Only the declared length can get
in the way: of the digits that it is checked for, some are in no numeral.

Results:
1. `destination_upload`: where the request leads.
2. `Service.upload_answered`: the answer to an upload, and what is left behind.
3. `raised_unhandled`: a declared length that ends in an internal error.
-/

namespace Stepflow

open Text

namespace Http

/-! ## The endpoint -/

theorem parts?_upload {id : String} (slash : '/' ∉ id.toList) :
    parts? ("/flows/" ++ id ++ "/import").toList = some ["flows", id, "import"] := by
  have path : ("/flows/" ++ id ++ "/import").toList =
      '/' :: ("flows".toList ++ '/' :: (id.toList ++ '/' :: "import".toList)) := by
    simp
  rw [path, parts?, List.splitOn_append_cons_self_of_not_mem (by decide),
    List.splitOn_append_cons_self_of_not_mem slash, List.splitOn_eq_singleton (by decide)]
  simp only [List.map_cons, List.map_nil, String.ofList_toList]

theorem destination_upload (s : Service) {id : String} (filled : id ≠ "")
    (slash : '/' ∉ id.toList) :
    destination s.routes "POST" ("/flows/" ++ id ++ "/import") =
      .endpoint (.command (.upload id)) := by
  have param : id.isEmpty = false := by simpa using filled
  by_cases search : id = "search"
  · subst search
    unfold destination fitting
    simp only [parts?_upload slash]
    unfold Service.routes
    cases s.system <;> decide +kernel
  · unfold destination fitting
    simp only [parts?_upload slash]
    unfold Service.routes
    cases s.system <;> simp [systemRoutes, flowRoutes, params?, Template.fill?, param, search]

/-! ## Outcomes -/

def uploadInto (id : String) (body : List UInt8) (declared : Option String) : Request :=
  { method := "POST", path := "/flows/" ++ id ++ "/import", body, contentLength := declared }

inductive UploadEnd (s : Service) (w : Workspace) (supply : Supply) (id : String)
    (body : List UInt8) (declared : Option String) : Result → Prop
  | unknown : w.find? id = none →
      UploadEnd s w supply id body declared
        (⟨404, .json (.obj [("detail", .str s!"Flow '{id}' not found")])⟩, w, supply)
  | unhandled {d : Draft} {text : String} : w.find? id = some d → declared = some text →
      Unreadable text → UploadEnd s w supply id body declared (.internalError, w, supply)
  | refused {d : Draft} {why : String} : w.find? id = some d →
      (∀ text ∈ declared, ¬Unreadable text) →
      (∃ text ∈ declared, TooLong s.importLimit text) ∨ s.importLimit < body.length ∨
        (∀ fields, Json.readBytes body s.uploadDepth ≠ .ok (.obj fields)) →
      UploadEnd s w supply id body declared
        (⟨400, .json (.obj [("detail", .str ("Invalid flow file: " ++ why))])⟩, w, supply)
  | imported {d : Draft} {fields : List (String × Json)} : w.find? id = some d →
      (∀ text ∈ declared, ¬Unreadable text ∧ ¬TooLong s.importLimit text) →
      (body.length : Int) ≤ s.importLimit → Json.readBytes body s.uploadDepth = .ok (.obj fields) →
      UploadEnd s w supply id body declared
        (⟨200, .json (Service.statusJson "imported"
          (d.importFields s.env fields supply).1.summaryFields)⟩,
          w.put (d.importFields s.env fields supply).1, (d.importFields s.env fields supply).2)

namespace UploadEnd

variable {s : Service} {w : Workspace} {supply : Supply} {id : String} {body : List UInt8}
  {declared : Option String} {result : Result}

/-- Only the declared length can end in an internal error. -/
theorem status_eq_500_iff (h : UploadEnd s w supply id body declared result) :
    result.1.status = 500 ↔
      (w.find? id).isSome ∧ ∃ text, declared = some text ∧ Unreadable text := by
  cases h with
  | unknown none => simp [none]
  | unhandled found text unreadable => simp [found, text, unreadable, Response.internalError]
  | refused found readable _ =>
    refine iff_of_false (by simp) ?_
    rintro ⟨-, text, given, unreadable⟩
    exact readable text given unreadable
  | imported found passed _ _ =>
    refine iff_of_false (by simp) ?_
    rintro ⟨-, text, given, unreadable⟩
    exact (passed text given).1 unreadable

/-- The flow is another one exactly where the upload succeeded. -/
theorem status_eq_200_iff (h : UploadEnd s w supply id body declared result) :
    result.1.status = 200 ↔ result.2.1 ≠ w := by
  cases h with
  | unknown _ | refused _ _ _ => simp
  | unhandled _ _ _ => simp [Response.internalError]
  | @imported d fields found _ _ _ =>
    refine iff_of_true rfl fun same => ?_
    have put := Workspace.find?_put_self w (d.importFields s.env fields supply).1
    have here : w.find? d.id = some (d.importFields s.env fields supply).1 := same ▸ put
    rw [Workspace.id_of_find? found, found] at here
    -- The import is counted, so the flow that was put in is another one.
    exact absurd (congrArg Draft.imports (Option.some.inj here)) (Nat.ne_of_lt (Nat.lt_succ_self _))

end UploadEnd

namespace Service

variable {s : Service} {w : Workspace} {supply : Supply}

theorem hasSurrogate_notFound {id : String} (plain : hasSurrogate id = false) :
    hasSurrogate s!"Flow '{id}' not found" = false := by
  have text : s!"Flow '{id}' not found".toList =
      "Flow '".toList ++ (id.toList ++ "' not found".toList) := by
    simp only [String.toList_append, List.append_assoc]
    rfl
  have behind : ∀ c ∈ "' not found".toList.head?, markedCodePoint? c = none := by
    rintro _ ⟨⟩
    decide
  have last : hasSurrogate "' not found" = false := by decide +kernel
  have front : hasSurrogate "Flow '" = false := by decide +kernel
  unfold hasSurrogate at plain last front ⊢
  rw [text, codePoints_append_of_not_mem (by decide), codePoints_append behind, List.any_append,
    List.any_append, front, plain, last]
  rfl

/-- The refusal of a document as an answer. -/
theorem failureResponse_refused {refusal : Import.Refusal}
    (shallow : ∀ container, refusal ≠ .tooDeep container) (plain : Plain refusal.message) :
    failureResponse (.refused refusal) =
      ⟨400, .json (.obj [("detail", .str ("Invalid flow file: " ++ refusal.message))])⟩ := by
  have text : Plain ("Invalid flow file: " ++ refusal.message) :=
    plain_append.mpr ⟨by decide, plain⟩
  cases refusal with
  | tooDeep container => exact absurd rfl (shallow container)
  | tooLarge _ | unreadable _ | notObject _ => exact Response.refusal_eq text.hasSurrogate

/-- What becomes of the declared length of a request, if there is one. -/
theorem declared_cases (limit : Int) (declared : Option String) :
    (∃ text, declared = some text ∧ Unreadable text) ∧
        declared.bind (lengthRefusal? limit) = some .internalError ∨
      (∀ text ∈ declared, ¬Unreadable text) ∧ (∃ text ∈ declared, TooLong limit text) ∧
        declared.bind (lengthRefusal? limit) =
          some (failureResponse (.refused (.tooLarge limit))) ∨
      (∀ text ∈ declared, ¬Unreadable text ∧ ¬TooLong limit text) ∧
        declared.bind (lengthRefusal? limit) = none := by
  cases declared with
  | none => exact .inr (.inr ⟨nofun, rfl⟩)
  | some text =>
    rcases lengthRefusal?_cases limit text with ⟨unreadable, answer⟩ | ⟨long, answer⟩ |
      ⟨readable, short, answer⟩
    · exact .inl ⟨⟨text, rfl, unreadable⟩, answer⟩
    · refine .inr (.inl ⟨?_, ⟨text, rfl, long⟩, answer⟩)
      rintro _ ⟨⟩
      exact not_unreadable long.digits long.short
    · refine .inr (.inr ⟨?_, answer⟩)
      rintro _ ⟨⟩
      exact ⟨readable, short⟩

/-- An upload whose declared length was let pass ends with the document it holds. -/
theorem uploadEnd_act {id : String} {body : List UInt8} {declared : Option String} {d : Draft}
    (found : w.find? id = some d)
    (passed : ∀ text ∈ declared, ¬Unreadable text ∧ ¬TooLong s.importLimit text)
    (plain : hasSurrogate id = false) (usual : hasSurrogate s.env.importedFlowName = false)
    (clean : (uploadInto id body declared).Clean s.uploadDepth) (sized : body.length < 2 ^ 63)
    (shallow : ∀ container, Json.readBytes body s.uploadDepth ≠ .error (.tooDeep container)) :
    UploadEnd s w supply id body declared
      (s.act w supply id (.importPayload (.bytes body) s.uploadBounds)
        fun _ draft => .ok (statusJson "imported" draft.summaryFields)) := by
  unfold act
  simp only [found, Draft.perform]
  rcases Import.Payload.read_bytes_cases body s.uploadBounds shallow
    with ⟨refused, refusal, read, notDeep, message⟩ | ⟨small, fields, document, read⟩
  · rw [read]
    simp only [Draft.importOutcome]
    rw [failureResponse_refused notDeep message, Workspace.put_of_find? found]
    exact .refused found (fun text mem => (passed text mem).1) (.inr refused)
  · have inside := Json.clean_obj.mp (clean _ document)
    obtain ⟨steps, edges⟩ :=
      Import.fits_lengths (Json.small_of_readBytes document) (by omega) supply
    have orders := Import.fits_orders document sized
    have summary := Draft.writable_summary (d := (d.importFields s.env fields supply).1)
      ((Workspace.id_of_find? found).symm ▸ plain) (Import.clean_name inside usual) steps edges
    have answer : Response.ok (statusJson "imported"
        (d.importFields s.env fields supply).1.summaryFields) =
          ⟨200, .json (statusJson "imported"
            (d.importFields s.env fields supply).1.summaryFields)⟩ :=
      if_pos (writable_statusJson (by decide +kernel) (Json.writable_obj.mp summary))
    have imported : UploadEnd s w supply id body declared _ :=
      .imported found passed small document
    rw [← answer] at imported
    rw [read, Draft.importOutcome_of_imported (Import.imported_of_fits orders s.env supply)]
    exact imported

/-- The answer to an upload. -/
theorem uploadEnd_handle {id : String} {body : List UInt8} {declared : Option String}
    (filled : id ≠ "") (slash : '/' ∉ id.toList) (plain : hasSurrogate id = false)
    (usual : hasSurrogate s.env.importedFlowName = false)
    (clean : (uploadInto id body declared).Clean s.uploadDepth) (sized : body.length < 2 ^ 63)
    (shallow : ∀ container, Json.readBytes body s.uploadDepth ≠ .error (.tooDeep container)) :
    UploadEnd s w supply id body declared (s.handle (uploadInto id body declared) w supply) := by
  have here : s.handle (uploadInto id body declared) w supply =
      s.write (uploadInto id body declared) w supply (.upload id) := by
    unfold handle
    rw [show (uploadInto id body declared).method = "POST" from rfl,
      show (uploadInto id body declared).path = "/flows/" ++ id ++ "/import" from rfl,
      destination_upload s filled slash]
  rw [here]
  unfold write
  simp only
  cases found : w.find? id with
  | none =>
    simp only
    rw [flowNotFound, Response.refusal_eq (hasSurrogate_notFound plain)]
    exact .unknown found
  | some d =>
    simp only
    rcases declared_cases s.importLimit declared with ⟨⟨text, rfl, unreadable⟩, answer⟩ |
      ⟨readable, long, answer⟩ | ⟨passed, answer⟩
    · rw [show (uploadInto id body (some text)).contentLength = some text from rfl, answer]
      exact .unhandled found rfl unreadable
    · have shown : failureResponse (.refused (.tooLarge s.importLimit)) = _ :=
        failureResponse_refused nofun (Import.Refusal.plain_message nofun)
      rw [show (uploadInto id body declared).contentLength = declared from rfl, answer]
      simp only
      rw [shown]
      exact .refused found readable (.inl long)
    · rw [show (uploadInto id body declared).contentLength = declared from rfl, answer]
      simp only
      exact uploadEnd_act found passed plain usual clean sized shallow

/-- Every upload ends in one of four ways. It is an internal error iff the flow is known and the
declared length is one of digits that no numeral has, and it replaces the flow iff it succeeds. -/
theorem upload_answered {id : String} {body : List UInt8} {declared : Option String}
    (filled : id ≠ "") (slash : '/' ∉ id.toList) (plain : hasSurrogate id = false)
    (usual : hasSurrogate s.env.importedFlowName = false)
    (clean : (uploadInto id body declared).Clean s.uploadDepth) (sized : body.length < 2 ^ 63)
    (shallow : ∀ container, Json.readBytes body s.uploadDepth ≠ .error (.tooDeep container)) :
    let result := s.handle (uploadInto id body declared) w supply
    UploadEnd s w supply id body declared result ∧
      (result.1.status = 500 ↔
        (w.find? id).isSome ∧ ∃ text, declared = some text ∧ Unreadable text) ∧
      (result.1.status = 200 ↔ result.2.1 ≠ w) := by
  intro result
  have ends : UploadEnd s w supply id body declared result :=
    uploadEnd_handle filled slash plain usual clean sized shallow
  exact ⟨ends, ends.status_eq_500_iff, ends.status_eq_200_iff⟩

end Service

/-! ## A raised digit -/

theorem clean_empty (declared : Option String) :
    (uploadInto "FL-00000001" (ascii "\x7b\x7d") declared).Clean usual.uploadDepth := by
  intro value read
  cases readBytes_empty.symm.trans read
  rfl

theorem shallow_empty (container : Json.Container) :
    Json.readBytes (ascii "\x7b\x7d") usual.uploadDepth ≠ .error (.tooDeep container) := by
  rw [show Json.readBytes (ascii "\x7b\x7d") usual.uploadDepth = _ from readBytes_empty]
  nofun

/-- The empty document goes into a new flow. -/
theorem empty_answered :
    let result :=
      usual.handle (uploadInto "FL-00000001" (ascii "\x7b\x7d") (some "2")) begun .numbered
    UploadEnd usual begun .numbered "FL-00000001" (ascii "\x7b\x7d") (some "2") result ∧
      (result.1.status = 500 ↔
        (begun.find? "FL-00000001").isSome ∧ ∃ text, some "2" = some text ∧ Unreadable text) ∧
      (result.1.status = 200 ↔ result.2.1 ≠ begun) :=
  Service.upload_answered (by decide) (by decide) (by decide +kernel) (by decide +kernel)
    (clean_empty _) (by decide) shallow_empty

/-- The same document ends in an internal error once its length is declared with a raised digit. -/
theorem raised_unhandled :
    (begun.find? "FL-00000001").isSome = true ∧
      Json.readBytes (ascii "\x7b\x7d") usual.uploadDepth = .ok (.obj []) ∧
      (usual.handle (uploadInto "FL-00000001" (ascii "\x7b\x7d") (some "²"))
        begun .numbered).1.status = 500 := by
  have known : (begun.find? "FL-00000001").isSome = true := by decide +kernel
  have ends : UploadEnd usual begun .numbered "FL-00000001" (ascii "\x7b\x7d") (some "²") _ :=
    Service.uploadEnd_handle (by decide) (by decide) (by decide +kernel) (by decide +kernel)
      (clean_empty _) (by decide) shallow_empty
  have digits : "²".toList = ['²'] := by decide +kernel
  have unreadable : Unreadable "²" := by
    refine ⟨by decide, ?_, .inl ⟨'²', ?_, by decide⟩⟩
    · rw [digits, List.forall_mem_singleton]
      exact .inr (by decide)
    · rw [digits]
      exact List.mem_singleton_self _
  exact ⟨known, readBytes_empty, ends.status_eq_500_iff.mpr ⟨known, "²", rfl, unreadable⟩⟩

end Http

end Stepflow
