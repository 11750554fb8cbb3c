import CircuitScript.Table
import CircuitScript.Value

/-! The store of everything that is shared while scripts run: scopes, lists, maps, attribute sets and
written functions. A place in the store is never given up, so an older thing has a smaller place. -/
namespace CircuitScript

abbrev Attributes := Table Scalar

/-- Where a scope's printed text goes: into a buffer of its own, or wherever another scope's goes. -/
inductive Output where
  | own (text : String)
  | through (scope : ScopeId)
  deriving DecidableEq, Repr

def Output.append (output : Output) (text : String) : Output :=
  match output with
  | own old => own (old ++ text)
  | through next => through next

structure Scope where
  names : Table Value
  parent : Option ScopeId
  output : Output
  deriving DecidableEq

structure Closure where
  name : String
  params : List String
  body : Stmt
  scope : ScopeId

structure Store where
  scopes : Array Scope
  lists : Array (Array Value)
  maps : Array (Table Value)
  handles : Array Attributes
  closures : Array Closure

namespace Store

def empty : Store := ⟨#[], #[], #[], #[], #[]⟩

def newList (store : Store) (items : Array Value) : ListId × Store :=
  (⟨store.lists.size⟩, { store with lists := store.lists.push items })

def items (store : Store) (id : ListId) : Array Value := store.lists[id.index]?.getD #[]

def updateList (store : Store) (id : ListId) (f : Array Value → Array Value) : Store :=
  { store with lists := store.lists.modify id.index f }

/-- The item at a position replaced, or a value added behind the last one. -/
def putItem (store : Store) (id : ListId) (position : Nat) (value : Value) : Store :=
  store.updateList id fun items =>
    if position < items.size then items.setIfInBounds position value else items.push value

def newMap (store : Store) (entries : Table Value) : MapId × Store :=
  (⟨store.maps.size⟩, { store with maps := store.maps.push entries })

def mapEntries (store : Store) (id : MapId) : Table Value := store.maps[id.index]?.getD .empty

def setEntry (store : Store) (id : MapId) (key : String) (value : Value) : Store :=
  { store with maps := store.maps.modify id.index (·.insert key value) }

def newHandle (store : Store) (attributes : Attributes) : HandleId × Store :=
  (⟨store.handles.size⟩, { store with handles := store.handles.push attributes })

def attributesOf (store : Store) (id : HandleId) : Attributes := store.handles[id.index]?.getD .empty

def setAttribute (store : Store) (id : HandleId) (key : String) (value : Scalar) : Store :=
  { store with handles := store.handles.modify id.index (·.insert key value) }

def newClosure (store : Store) (closure : Closure) : ClosureId × Store :=
  (⟨store.closures.size⟩, { store with closures := store.closures.push closure })

def closure? (store : Store) (id : ClosureId) : Option Closure := store.closures[id.index]?

def coreNames : Table Value :=
  Table.ofList (Builtin.core.map fun b => (b.name, .func (.builtin b)))

def newScope (store : Store) (parent : Option ScopeId) (output : Output) : ScopeId × Store :=
  (⟨store.scopes.size⟩, { store with scopes := store.scopes.push ⟨coreNames, parent, output⟩ })

def newRoot (store : Store) : ScopeId × Store := store.newScope none (.own "")

def newChild (store : Store) (parent : ScopeId) : ScopeId × Store :=
  store.newScope (some parent) (.own "")

def newDelegating (store : Store) (parent : ScopeId) : ScopeId × Store :=
  store.newScope (some parent) (.through parent)

/-- The scope of a call: names come from where the function was defined, text goes where the caller's
goes. -/
def newFrame (store : Store) (definer caller : ScopeId) : ScopeId × Store :=
  store.newScope (some definer) (.through caller)

def scope? (store : Store) (id : ScopeId) : Option Scope := store.scopes[id.index]?

def updateScope (store : Store) (id : ScopeId) (f : Scope → Scope) : Store :=
  { store with scopes := store.scopes.modify id.index f }

def bind (store : Store) (id : ScopeId) (name : String) (value : Value) : Store :=
  store.updateScope id fun scope => { scope with names := scope.names.insert name value }

def bindAll (store : Store) (id : ScopeId) (bindings : List (String × Value)) : Store :=
  bindings.foldl (fun store binding => store.bind id binding.1 binding.2) store

def installStandard (store : Store) (id : ScopeId) : Store :=
  store.bindAll id (Builtin.standard.map fun b => (b.name, .func (.builtin b)))

def names (store : Store) (id : ScopeId) : Table Value :=
  match store.scope? id with
  | some scope => scope.names
  | none => .empty

def parent? (store : Store) (id : ScopeId) : Option ScopeId :=
  (store.scope? id).bind (·.parent)

/-- The scope and those around it, nearest first. A parent is always older. -/
def chain (store : Store) (id : ScopeId) : List ScopeId :=
  match store.parent? id with
  | some parent => if parent.index < id.index then id :: store.chain parent else [id]
  | none => [id]
termination_by id.index

def contains (store : Store) (id : ScopeId) (name : String) : Bool :=
  (store.chain id).any fun scope => (store.names scope).contains name

def lookup? (store : Store) (id : ScopeId) (name : String) : Option Value :=
  (store.chain id).findSome? fun scope => (store.names scope).get? name

/-- The scope whose buffer receives what this one prints. Where it goes through is always older. -/
def sink (store : Store) (id : ScopeId) : ScopeId :=
  match store.scope? id with
  | some ⟨_, _, .through next⟩ => if next.index < id.index then store.sink next else id
  | _ => id
termination_by id.index

def ownText? (store : Store) (id : ScopeId) : Option String :=
  match store.scope? id with
  | some ⟨_, _, .own text⟩ => some text
  | _ => none

def outputText (store : Store) (id : ScopeId) : String := (store.ownText? (store.sink id)).getD ""

def print (store : Store) (id : ScopeId) (text : String) : Store :=
  store.updateScope (store.sink id) fun scope =>
    { scope with output := scope.output.append text }

/-- The value of a name. Unless it is bound, `output` is the text printed so far. -/
def read (store : Store) (id : ScopeId) (name : String) : Except EvalError Value :=
  match store.lookup? id name with
  | some value => .ok value
  | none =>
    if name = "output" then .ok (.str (store.outputText id)) else .error (.undefinedVariable name)

def readField (store : Store) (value : Value) (key : String) : Except EvalError Value :=
  match value with
  | .map id =>
    match (store.mapEntries id).get? key with
    | some found => .ok found
    | none => .error (.fieldNotFound key)
  | .scope id => store.read id key
  | .attributes id =>
    match (store.attributesOf id).get? key with
    | some found => .ok (.scalar found)
    | none => .error (.fieldNotFound key)
  | other => other.mismatch .map

def functionName (store : Store) : FunctionId → String
  | .builtin b => b.name
  | .closure id => ((store.closure? id).map (·.name)).getD ""

def functionArity (store : Store) : FunctionId → Arity
  | .builtin b => b.arity
  | .closure id => .exactly (((store.closure? id).map (·.params.length)).getD 0)

end Store

end CircuitScript
