import CircuitScript.Action
import CircuitScript.Library
import CircuitScript.NetList
import CircuitScript.Script

/-! Circuits expanded into flat lists of primitive nodes. A generic circuit is specialized first: the
scripts of its elements run against the arguments of the instance. Levels of nesting are limited, so a
circuit inside itself is refused. -/
namespace CircuitScript

inductive NodeError where
  | recursiveNesting (origin : String)
  | generics (origin : String) (source : ScriptError)
  | elementNotFound (name : String)

def NodeError.message : NodeError → String
  | recursiveNesting origin => "recursive nesting of circuit " ++ origin
  | generics origin _ => "error parsing generics code in " ++ origin
  | elementNotFound name => "element not found: " ++ name

structure Node where
  name : String
  typeName : String
  attributes : Attributes

structure Model where
  netList : NetList
  depth : Nat
  args : Option ScopeId
  nodes : List Node

def Model.node? (model : Model) (name : String) : Option Node :=
  model.nodes.find? (·.name == name)

structure BuildState where
  store : Store
  parsed : Table (Table Stmt)

namespace BuildState

def empty : BuildState := ⟨.empty, .empty⟩

def treesOf (state : BuildState) (template : String) : Table Stmt :=
  (state.parsed.get? template).getD .empty

def keep (state : BuildState) (template code : String) (tree : Stmt) : BuildState :=
  { state with parsed := state.parsed.insert template ((state.treesOf template).insert code tree) }

def forget (state : BuildState) (template : String) : BuildState :=
  { state with parsed := state.parsed.erase template }

end BuildState

abbrev Build := Action BuildState NodeError

namespace Build

def onStore {ε α : Type} (x : Action Store ε α) : Action BuildState ε α := fun state =>
  match state with
  | ⟨store, parsed⟩ =>
    match x store with
    | .done a store => .done a ⟨store, parsed⟩
    | .failed e store => .failed e ⟨store, parsed⟩
    | .spent => .spent

/-- The tree of a script of a template, parsed only once. Scripts that fail to parse are not kept. -/
def statement (template code : String) : Action BuildState ParseError Stmt := fun state =>
  match (state.treesOf template).get? code with
  | some tree => .done tree state
  | none =>
    match parseCode code with
    | .ok tree => .done tree (state.keep template code tree)
    | .error e => .failed e state

def find (library : Library) (name : String) : Build ElementType :=
  match library.get? name with
  | some found => pure found
  | none => Action.fail (.elementNotFound name)

def argsName : String := "args"

def thisName : String := "this"

def argumentScope {ε : Type} (enclosing : Option ScopeId) : Action BuildState ε ScopeId :=
  onStore do
    let scope ← Script.freshRoot
    match enclosing with
    | some args => Action.modify (·.bind scope argsName (.scope args))
    | none => pure ()
    pure scope

def runScript (budget : Nat) (scope : ScopeId) (tree : Stmt) : Action BuildState ScriptError Unit :=
  onStore (Action.mapError .eval (Script.run budget scope tree))

def resolveArgs (budget : Nat) (template : Template) (placing : Option Element)
    (enclosing : Option ScopeId) : Action BuildState ScriptError ScopeId :=
  match placing with
  | none => argumentScope none
  | some element =>
    match element.args with
    | some args => pure args
    | none => do
      let tree ← Action.mapError .parse (statement template.name (element.script?.getD ""))
      let scope ← argumentScope enclosing
      runScript budget scope tree
      pure scope

/-- Runs an element's script. A custom element keeps the scope as its arguments, a primitive one takes
over what the script did to its attributes. -/
def specializeElement (budget : Nat) (library : Library) (template : Template) (origin : String)
    (args : ScopeId) (element : Element) : Build Element :=
  match element.script? with
  | none => pure element
  | some code => do
    let found ← find library element.typeName
    let tree ← Action.mapError (fun e => .generics origin (.parse e)) (statement template.name code)
    let scope ← argumentScope (some args)
    match found with
    | .custom _ =>
      Action.mapError (.generics origin) (runScript budget scope tree)
      pure { element with args := some scope }
    | .primitive _ =>
      let handle ← onStore (Action.modifyGet (·.newHandle element.attributes))
      onStore (Action.modify (·.bind scope thisName (.attributes handle)))
      Action.mapError (.generics origin) (runScript budget scope tree)
      let attributes ← onStore fun store => .done (store.attributesOf handle) store
      pure { element with attributes := attributes }

def specializeAll (budget : Nat) (library : Library) (template : Template) (origin : String)
    (args : ScopeId) : List Element → Build (List Element)
  | [] => pure []
  | element :: rest => do
    let first ← specializeElement budget library template origin args element
    let others ← specializeAll budget library template origin args rest
    pure (first :: others)

def specialize (budget : Nat) (library : Library) (template : Template) (origin : String)
    (args : ScopeId) : Build Circuit := do
  let copy := template.circuit.unresolved
  let elements ← specializeAll budget library template origin args copy.elements
  pure { copy with elements := elements }

abbrev Expand := NetList → String → Template → Element → Option ScopeId → Build (List Node)

def realize (library : Library) (expand : Expand) (netList : NetList) (args : Option ScopeId) :
    Nat → List Element → Build (List Node)
  | _, [] => pure []
  | position, element :: rest => do
    let name := element.instanceName position
    let nodes ← match ← find library element.typeName with
      | .primitive defaults =>
        pure [⟨netList.qualify name, element.typeName, defaults.overlay element.attributes⟩]
      | .custom template => expand netList name template element args
    let others ← realize library expand netList args (position + 1) rest
    pure (nodes ++ others)

def maxDepth : Nat := 30

/-- The model of an instance of a template, where `levels` more levels are open, its own included. -/
def instantiate (budget : Nat) (library : Library) :
    Nat → Option NetList → String → Template → Option Element → Option ScopeId → Build Model
  | 0, _, _, template, _, _ => Action.fail (.recursiveNesting template.file)
  | levels + 1, parent, name, template, placing, enclosing => do
    let netList := match parent with
      | some outer => outer.nested template.file name
      | none => NetList.root template.file
    let expand : Expand := fun outer name template element args => do
      let model ← instantiate budget library levels (some outer) name template (some element) args
      pure model.nodes
    if template.isGeneric then
      let origin := netList.describe
      let args ← Action.mapError (.generics origin) (resolveArgs budget template placing enclosing)
      let circuit ← specialize budget library template origin args
      let nodes ← realize library expand netList (some args) 0 circuit.elements
      pure ⟨netList, maxDepth - levels, some args, nodes⟩
    else
      let nodes ← realize library expand netList none 0 template.circuit.elements
      pure ⟨netList, maxDepth - levels, none, nodes⟩

def levelsAt (depth : Nat) : Nat := maxDepth + 1 - depth

def instantiateAt (budget : Nat) (library : Library) (depth : Nat) (parent : Option NetList)
    (name : String) (template : Template) (placing : Option Element) (enclosing : Option ScopeId) :
    Build Model :=
  instantiate budget library (levelsAt depth) parent name template placing enclosing

def forTemplate (budget : Nat) (library : Library) (template : Template) : Build Model :=
  instantiateAt budget library 0 none "" template none none

def forCircuit (budget : Nat) (library : Library) (circuit : Circuit) : Build Model := do
  let netList := NetList.root circuit.origin
  let expand : Expand := fun outer name template element args => do
    let model ← instantiateAt budget library 1 (some outer) name template (some element) args
    pure model.nodes
  let nodes ← realize library expand netList none 0 circuit.elements
  pure ⟨netList, 0, none, nodes⟩

end Build

structure Workshop where
  library : Library
  state : BuildState

namespace Workshop

def empty : Workshop := ⟨.empty, .empty⟩

def addPrimitive (workshop : Workshop) (name : String) (defaults : Attributes) : Workshop :=
  { workshop with library := workshop.library.insert name (.primitive defaults) }

/-- Adds a template under its name. Scripts parsed for an earlier one of that name are not kept. -/
def addTemplate (workshop : Workshop) (template : Template) : Workshop :=
  ⟨workshop.library.insert template.name (.custom template), workshop.state.forget template.name⟩

end Workshop

end CircuitScript
