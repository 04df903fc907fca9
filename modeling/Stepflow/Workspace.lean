import Stepflow.Draft

/-!
# The workspace

All drafts that are being edited, in the order in which they came. A draft is found by its
id. Lists for people show the last changed draft first.
-/

namespace Stepflow

structure Workspace where
  drafts : List Draft := []
deriving DecidableEq, Repr

namespace Workspace

def find? (w : Workspace) (id : String) : Option Draft :=
  w.drafts.find? (·.id == id)

/-- Puts a draft in the place of the one with its id, or at the end of a list. -/
def putIn (d : Draft) : List Draft → List Draft
  | [] => [d]
  | e :: rest => if e.id == d.id then d :: rest else e :: putIn d rest

def put (w : Workspace) (d : Draft) : Workspace :=
  ⟨putIn d w.drafts⟩

theorem find?_put_self (w : Workspace) (d : Draft) : (w.put d).find? d.id = some d := by
  show (putIn d w.drafts).find? (·.id == d.id) = some d
  induction w.drafts with
  | nil => simp [putIn]
  | cons e rest ih =>
    rw [putIn]
    split
    · simp
    · next other => simpa [other] using ih

theorem find?_put_of_ne {w : Workspace} {d : Draft} {id : String} (h : id ≠ d.id) :
    (w.put d).find? id = w.find? id := by
  show (putIn d w.drafts).find? (·.id == id) = w.drafts.find? (·.id == id)
  induction w.drafts with
  | nil => simp [putIn, Ne.symm h]
  | cons e rest ih =>
    rw [putIn]
    split
    · next same =>
      have : e.id ≠ id := fun other => h (other ▸ eq_of_beq same)
      simp [this, Ne.symm h]
    · by_cases at_head : e.id = id
      · simp [at_head]
      · simpa [at_head] using ih

/-- The workspace without the draft of the id; none if there is no such draft. -/
def delete? (w : Workspace) (id : String) : Option Workspace :=
  if w.drafts.any (·.id == id) then some ⟨w.drafts.filter (·.id != id)⟩ else none

/-- Puts a draft in front of the first one that was changed no later. -/
def insertByRecency (d : Draft) : List Draft → List Draft
  | [] => [d]
  | e :: rest => if e.updated ≤ d.updated then d :: e :: rest else e :: insertByRecency d rest

/-- The drafts, last changed first; drafts changed at one moment keep their places. -/
def recent (w : Workspace) : List Draft :=
  w.drafts.foldr insertByRecency []

theorem insertByRecency_perm (d : Draft) (drafts : List Draft) :
    (insertByRecency d drafts).Perm (d :: drafts) := by
  induction drafts with
  | nil => exact .refl _
  | cons e rest ih =>
    rw [insertByRecency]
    split
    · exact .refl _
    · exact (ih.cons e).trans (.swap d e rest)

/-- The list for people holds every draft once. -/
theorem recent_perm (w : Workspace) : w.recent.Perm w.drafts := by
  show (w.drafts.foldr insertByRecency []).Perm w.drafts
  induction w.drafts with
  | nil => exact .refl _
  | cons d rest ih => exact (insertByRecency_perm d _).trans (ih.cons d)

/-- Whether a list of code points holds another one. -/
def holds (text part : List Nat) : Bool :=
  part.isPrefixOf text ||
    match text with
    | [] => false
    | _ :: rest => holds rest part

/-- The drafts whose name holds the query, in either case. -/
def search (w : Workspace) (query : String) : List Draft :=
  let points (s : String) := Text.codePoints (Text.lower s).toList
  w.drafts.filter fun d => holds (points d.profile.name) (points query)

/-- Adds a draft of the given profile with the graph of a new flow. -/
def create (w : Workspace) (profile : Profile) (supply : Supply) :
    Draft × Workspace × Supply :=
  let (draft, supply) := Draft.new none {} profile supply
  (draft, w.put draft, supply)

/-- Adds a draft for a payload. The draft that takes the payload is put in only behind the import,
so one that is refused adds none, but has used up an id and a moment. -/
def importNew (env : Environment) (w : Workspace) (payload : Import.Payload) (depth : Nat)
    (supply : Supply) : Except Failure Draft × Workspace × Supply :=
  let (draft, supply) := Draft.new none {} (Profile.new env) supply
  match draft.perform env (.importPayload payload ⟨env.maxImportBytes, depth⟩) supply with
  | (.ok _, draft, supply) => (.ok draft, w.put draft, supply)
  | (.error failure, _, supply) => (.error failure, w, supply)

def stats (w : Workspace) : Json :=
  let total (count : Draft → Nat) : Json := .int (w.drafts.foldl (fun n d => n + count d) 0 : Nat)
  .obj [("total_flows", .int w.drafts.length),
    ("iterated_flows", total fun d => if d.profile.iterates then 1 else 0),
    ("total_steps", total (·.graph.steps.length)),
    ("total_imports", total (·.imports))]

end Workspace

end Stepflow
