import Stepflow.Workspace

/-!
# The bench

On the bench, drafts may hold one and the same graph: a graph can be remembered, and be put back
into several drafts. Whatever is done to a graph then shows in all of them. A graph that is held
like that has a number.

A `Call` says what is asked of a draft. An id in it may be any value, but only a text is the id of
something.
-/

namespace Stepflow

inductive Call where
  | act (action : Action)
  /-- Adds a step of a known kind. -/
  | addKnown (kind : Json)
  | removeStep (id : Json)
  | setField (id : Json) (name : String) (value : Json)
  | connect (source target : Json) (iterates : Option Bool)
  | disconnect (id : Json)

namespace Call

/-- The end of an edge that no node stands for. The ends are looked up one after the other. -/
def strayEnd (g : Graph) (source target : Json) : Json :=
  if (source.string?.bind g.node?).isSome then target else source

/-- What a call comes to if a draft has the given graph: a reply at once, or an action. -/
def meaning (g : Graph) : Call → Except Failure (Reply ⊕ Action)
  | .act action => .ok (.inr action)
  | .addKnown kind =>
    match StepKind.ofJson kind with
    | .ok kind => .ok (.inr (.addStep kind.name))
    | .error cause => .error (.edit cause)
  | .removeStep (.str id) => .ok (.inr (.removeStep id))
  | .removeStep _ => .ok (.inl (.flag false))
  | .setField (.str id) name value => .ok (.inr (.setField id name value))
  | .setField _ name _ =>
    match NodeField.ofName name with
    | .ok _ => .ok (.inl (.node none))
    | .error cause => .error (.edit cause)
  | .connect (.str source) (.str target) iterates =>
    .ok (.inr (.connect source target iterates))
  | .connect source target _ => .error (.edit (.noNode (strayEnd g source target).display))
  | .disconnect (.str id) => .ok (.inr (.disconnect id))
  | .disconnect _ => .ok (.inl (.flag false))

end Call

/-- Whether an action puts a graph of its own into a draft. -/
def Action.replacesGraph : Action → Bool
  | .replaceGraph _ | .importDocument _ | .importPayload _ _ => true
  | _ => false

structure Bench where
  workspace : Workspace := {}
  /-- The number of the graph that a draft holds together with others. -/
  number? : String → Option Nat := fun _ => none
  remembered : Option (Nat × Graph) := none
  next : Nat := 0

namespace Bench

inductive Operation where
  | create (profile : Profile)
  | delete (id : String)
  | importNew (payload : Import.Payload) (depth : Nat)
  | call (id : String) (call : Call)
  /-- Remembers a copy of the graph of a draft. -/
  | remember (id : String)
  /-- Puts the remembered graph itself into a draft. -/
  | putBack (id : String)

inductive Answer where
  | draft (made : Draft)
  | graph (copy : Graph)
  | reply (reply : Reply)

/-- The bench with a draft in it, and the number of its graph if that is not its own. -/
def seat (b : Bench) (d : Draft) (number : Option Nat) : Bench :=
  { b with
    workspace := b.workspace.put d
    number? := fun id => if id = d.id then number else b.number? id }

/-- The bench with another graph of the given number. -/
def spread (b : Bench) (number : Nat) (graph : Graph) : Bench :=
  { b with
    workspace := ⟨b.workspace.drafts.map fun d =>
      if b.number? d.id = some number then { d with graph } else d⟩
    remembered := b.remembered.map fun r => (r.1, if r.1 = number then graph else r.2) }

/-- Puts a draft in. If others hold its graph, the change of that shows in them. -/
def put (b : Bench) (d : Draft) : Option Nat → Bench
  | none => b.seat d none
  | some number => (b.seat d number).spread number d.graph

def perform (env : Environment) (b : Bench) (d : Draft) (action : Action) (supply : Supply) :
    Except Failure Reply × Bench × Supply :=
  match d.perform env action supply with
  | (.ok reply, changed, supply) =>
    (.ok reply, b.put changed (if action.replacesGraph then none else b.number? d.id), supply)
  | (.error cause, changed, supply) => (.error cause, b.put changed (b.number? d.id), supply)

def call (env : Environment) (b : Bench) (d : Draft) (call : Call) (supply : Supply) :
    Except Failure Reply × Bench × Supply :=
  match call.meaning d.graph with
  | .error cause => (.error cause, b, supply)
  | .ok (.inl reply) => (.ok reply, b, supply)
  | .ok (.inr action) => b.perform env d action supply

/-- Carries an operation out. Nothing is done for a draft that is not there. -/
def operate (env : Environment) (b : Bench) (operation : Operation) (supply : Supply) :
    Except Failure Answer × Bench × Supply :=
  let reply (reply : Reply) (b : Bench) : Except Failure Answer × Bench × Supply :=
    (.ok (.reply reply), b, supply)
  match operation with
  | .create profile =>
    let (d, _, supply) := b.workspace.create profile supply
    (.ok (.draft d), b.put d none, supply)
  | .delete id =>
    match b.workspace.delete? id with
    | none => reply (.flag false) b
    | some workspace => reply (.flag true) { b with workspace }
  | .importNew payload depth =>
    match b.workspace.importNew env payload depth supply with
    | (.ok d, _, supply) => (.ok (.draft d), b.put d none, supply)
    | (.error cause, _, supply) => (.error cause, b, supply)
  | .call id call =>
    match b.workspace.find? id with
    | none => reply .none b
    | some d =>
      let (reply, b, supply) := b.call env d call supply
      (reply.map .reply, b, supply)
  | .remember id =>
    match b.workspace.find? id with
    | none => reply .none b
    | some d =>
      (.ok (.graph d.graph),
        { b with remembered := some (b.next, d.graph), next := b.next + 1 }, supply)
  | .putBack id =>
    match b.workspace.find? id, b.remembered with
    | some d, some (number, graph) =>
      reply .none (b.put { d with graph } (some number))
    | _, _ => reply .none b

end Bench

end Stepflow
