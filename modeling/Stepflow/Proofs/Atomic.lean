import Stepflow.Proofs.Request

/-!
# Failure leaves the workspace as it was

Whatever is done to a workspace either succeeds or leaves it alone: the same drafts in the same
order, and nothing about any of them changed. What fails is an action on a draft, a change of the
drafts that are held, or a request with a response of status 400 or above.

A request fails behind its change only where its answer cannot be written. That takes a lone
surrogate in the body: the request of `surrogate_stays` is answered by an internal error and has
added a draft.

Results:
1. `Operation.run_failed`: a failed operation leaves the workspace as it was.
2. `surrogate_stays`: not so where a body holds a lone surrogate.
-/

namespace Stepflow

open Text

/-! ## Operations -/

/-- What can be done to a workspace: an action on one of its drafts, a change of the drafts it
holds, or a request. -/
inductive Operation where
  | edit (id : String) (action : Action)
  | create (name : Json)
  | delete (id : String)
  | importNew (payload : Import.Payload) (depth : Nat)
  | request (request : Http.Request)

namespace Operation

/-- Whether an operation failed, and what it leaves behind. -/
def run (s : Http.Service) (w : Workspace) (supply : Supply) : Operation → Bool × Workspace × Supply
  | .edit id action =>
    match w.find? id with
    | none => (true, w, supply)
    | some d =>
      let (result, d, supply) := d.perform s.env action supply
      (Draft.failed result, w.put d, supply)
  | .create name =>
    match Profile.named s.env name with
    | .bad _ => (true, w, supply)
    | .ok profile => (false, (w.create profile supply).2)
  | .delete id =>
    match w.delete? id with
    | none => (true, w, supply)
    | some w => (false, w, supply)
  | .importNew payload depth =>
    match Workspace.importNew s.env w payload depth supply with
    | (.error _, w, supply) => (true, w, supply)
    | (.ok _, w, supply) => (false, w, supply)
  | .request asked =>
    let (response, w, supply) := s.handle asked w supply
    (response.failed, w, supply)

/-- The body of a request holds no lone surrogate, however it is read, and its length is a machine
word. -/
def Clean (s : Http.Service) : Operation → Prop
  | .request asked =>
    (asked.Clean s.bodyDepth ∧ asked.Clean s.uploadDepth) ∧ asked.body.length < 2 ^ 63
  | _ => True

/-- Every failed operation leaves the workspace as it was. -/
theorem run_failed {s : Http.Service} {w : Workspace} {supply : Supply} {operation : Operation}
    (workspace : w.Clean) (env : s.env.Clean) (hex : ∀ i, Supply.IsHex (supply.tag i))
    (clean : operation.Clean s) (failed : (operation.run s w supply).1 = true) :
    (operation.run s w supply).2.1 = w := by
  cases operation with
  | edit id action =>
    simp only [run] at failed ⊢
    split at failed
    · rfl
    · next d found =>
      have here := workspace d (Workspace.mem_of_find? found)
      -- The draft is put back in any case.
      rw [Draft.perform_failed here.orders failed, Workspace.put_of_find? found]
  | create name =>
    simp only [run] at failed ⊢
    split at failed
    · rfl
    · cases failed
  | delete id =>
    simp only [run] at failed ⊢
    split at failed
    · rfl
    · cases failed
  | importNew payload depth =>
    simp only [run] at failed ⊢
    split at failed
    · next refused =>
      exact Workspace.importNew_refused refused
    · cases failed
  | request asked =>
    exact Http.Service.handle_failed workspace env hex clean.1.1 clean.1.2 clean.2 failed

end Operation

/-! ## A request for a missing node -/

namespace Http

def ascii (s : String) : List UInt8 :=
  s.toList.map fun c => UInt8.ofNat c.toNat

/-- A service with the usual settings, and room for nine levels. -/
def usual : Service :=
  ⟨{}, 5242880, false, 9, 9⟩

theorem readBytes_empty : Json.readBytes (ascii "\x7b\x7d") usual.bodyDepth = .ok (.obj []) := by
  have decoded : Json.decode (ascii "\x7b\x7d") = .ok "\x7b\x7d".toList := by rfl
  rw [Json.readBytes_of_decode decoded]
  cbv

/-- A request for an edge whose second end is missing. -/
def looseEdge : Request :=
  { method := "POST", path := "/flows/FL-00000001/edges"
    body := ascii "\x7b\"source\":\"start\",\"target\":\"end\"\x7d" }

theorem readBytes_looseEdge : Json.readBytes looseEdge.body usual.bodyDepth =
    .ok (.obj [("source", .str "start"), ("target", .str "end")]) := by
  have decoded : Json.decode looseEdge.body =
      .ok "\x7b\"source\":\"start\",\"target\":\"end\"\x7d".toList := by rfl
  rw [Json.readBytes_of_decode decoded]
  cbv

end Http

def begun : Workspace :=
  (Workspace.create {} (.new {}) .numbered).2.1

theorem begun_clean : begun.Clean := by
  intro d hd
  rw [List.mem_singleton.mp hd]
  refine ⟨by decide +kernel, by decide +kernel, by decide +kernel, ?_⟩
  intro n hn
  rw [List.mem_singleton.mp hn]
  exact Nat.pow_pos (by decide)

theorem looseEdge_failed :
    (Operation.run Http.usual begun .numbered (.request Http.looseEdge)).1 = true ∧
      (Operation.run Http.usual begun .numbered (.request Http.looseEdge)).2.1 = begun := by
  have destination : Http.destination Http.usual.routes "POST" "/flows/FL-00000001/edges" =
      .endpoint (.command (.connect "FL-00000001")) := by decide +kernel
  have body : Http.readBody Http.usual.bodyDepth Http.looseEdge Http.Service.edgeBody =
      .ok ("start", "end") := by
    unfold Http.readBody
    rw [if_neg (by decide), Http.readBytes_looseEdge]
    rfl
  have failed : (Operation.run Http.usual begun .numbered (.request Http.looseEdge)).1 = true := by
    show (Http.Service.handle Http.usual Http.looseEdge begun .numbered).1.failed = true
    unfold Http.Service.handle
    rw [show Http.looseEdge.method = "POST" from rfl,
      show Http.looseEdge.path = "/flows/FL-00000001/edges" from rfl, destination]
    simp only [Http.Service.write, body]
    decide +kernel
  have clean : Http.looseEdge.Clean Http.usual.bodyDepth := by
    intro value read
    rw [Http.readBytes_looseEdge] at read
    cases read
    decide +kernel
  exact ⟨failed, Operation.run_failed begun_clean ⟨by decide +kernel, by decide +kernel⟩
    Supply.numbered_hex ⟨⟨clean, clean⟩, by decide⟩ failed⟩

/-! ## A request with a lone surrogate -/

namespace Http

/-- A request for a new draft whose name is a lone surrogate. -/
def surrogateName : Request :=
  { method := "POST", path := "/flows", body := ascii "\x7b\"flow_name\":\"\\ud800\"\x7d" }

theorem readBody_surrogateName : readBody usual.bodyDepth surrogateName Service.createBody =
    .ok (some (String.ofList (ofCodePoint 0xD800))) := by
  have decoded : Json.decode surrogateName.body =
      .ok "\x7b\"flow_name\":\"\\ud800\"\x7d".toList := by rfl
  have body : Json.readBytes surrogateName.body usual.bodyDepth =
      .ok (.obj [("flow_name", .str (String.ofList (ofCodePoint 0xD800)))]) := by
    rw [Json.readBytes_of_decode decoded]
    exact Json.readChars_field (show "flow_name".toList.all Json.isPlain = true by decide)
      (Json.textBody_escape _ _ (by decide))
  unfold readBody
  rw [if_neg (by decide), body]
  rfl

end Http

/-- A failure that leaves a change behind: the answer to this request cannot be written, and the
draft it asked for is there. -/
theorem surrogate_stays :
    Workspace.Clean {} ∧ Environment.Clean {} ∧ (∀ i, Supply.IsHex (Supply.numbered.tag i)) ∧
      (Operation.run Http.usual {} .numbered (.request Http.surrogateName)).1 = true ∧
      (Operation.run Http.usual {} .numbered (.request Http.surrogateName)).2.1 ≠ {} := by
  have destination : Http.destination Http.usual.routes "POST" "/flows" =
      .endpoint (.command .create) := by decide +kernel
  have handled : Http.Service.handle Http.usual Http.surrogateName {} .numbered =
      Http.Service.write Http.usual Http.surrogateName {} .numbered .create := by
    unfold Http.Service.handle
    rw [show Http.surrogateName.method = "POST" from rfl,
      show Http.surrogateName.path = "/flows" from rfl, destination]
  refine ⟨?_, ⟨by decide +kernel, by decide +kernel⟩, Supply.numbered_hex, ?_, ?_⟩
  · intro d hd
    cases hd
  · show (Http.Service.handle Http.usual Http.surrogateName {} .numbered).1.failed = true
    rw [handled, Http.Service.write, Http.readBody_surrogateName]
    decide +kernel
  · show (Http.Service.handle Http.usual Http.surrogateName {} .numbered).2.1 ≠ {}
    rw [handled, Http.Service.write, Http.readBody_surrogateName]
    decide +kernel

end Stepflow
