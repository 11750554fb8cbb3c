import CircuitScript.Proofs.Bindings
import CircuitScript.Proofs.Budget
import CircuitScript.Proofs.Printing
import CircuitScript.Proofs.Simulated

/-! Calls look names up where the function was defined, never where it is called. Two calls of a function
from different scopes build frames that differ only in the caller they print for, and no script can tell
by anything but the text in the caller's buffer. -/
namespace CircuitScript

-- What of a scope can be looked up in it.
def Scope.face (scope : Scope) : Table Value × Option ScopeId := (scope.names, scope.parent)

namespace Store

def face? (store : Store) (id : ScopeId) : Option (Table Value × Option ScopeId) :=
  (store.scope? id).map Scope.face

variable {store other : Store}

theorem namesFaces (faces : ∀ id, other.face? id = store.face? id) (id : ScopeId) :
    other.names id = store.names id := by
  have shown (store : Store) : store.names id = ((store.face? id).map Prod.fst).getD .empty := by
    unfold names face?
    cases store.scope? id <;> rfl
  rw [shown, shown, faces]

theorem parentFaces (faces : ∀ id, other.face? id = store.face? id) (id : ScopeId) :
    other.parent? id = store.parent? id := by
  have shown (store : Store) : store.parent? id = (store.face? id).bind Prod.snd := by
    unfold parent? face?
    cases store.scope? id <;> rfl
  rw [shown, shown, faces]

theorem chainFaces (faces : ∀ id, other.face? id = store.face? id) (id : ScopeId) :
    other.chain id = store.chain id := by
  fun_induction chain store id with
  | case1 id parent found below ih =>
    rw [chain, parentFaces faces, found]
    simp only [below, if_true, ih]
  | case2 id parent found level =>
    rw [chain, parentFaces faces, found]
    simp only [level, if_false]
  | case3 id absent =>
    rw [chain, parentFaces faces, absent]

theorem lookupFaces (faces : ∀ id, other.face? id = store.face? id) (id : ScopeId) (name : String) :
    other.lookup? id name = store.lookup? id name := by
  unfold lookup?
  rw [chainFaces faces]
  simp only [namesFaces faces]

theorem faceBound (store : Store) (id : ScopeId) (name : String) (value : Value) (which : ScopeId) :
    (store.bind id name value).face? which =
      if id = which then (store.face? which).map fun face => (face.1.insert name value, face.2)
      else store.face? which := by
  unfold face? bind
  rw [scopeUpdated]
  by_cases same : id = which
  · rw [if_pos same, if_pos same]
    cases store.scope? which <;> rfl
  · rw [if_neg same, if_neg same]

theorem facePrinted (store : Store) (id : ScopeId) (text : String) (which : ScopeId) :
    (store.print id text).face? which = store.face? which := by
  unfold face? print
  rw [scopeUpdated]
  by_cases same : store.sink id = which
  · rw [if_pos same]
    cases store.scope? which <;> rfl
  · rw [if_neg same]

theorem faceAdded (store : Store) (parent : Option ScopeId) (output : Output) (which : ScopeId) :
    (store.newScope parent output).2.face? which =
      if which.index = store.scopes.size then some (coreNames, parent) else store.face? which := by
  unfold face?
  rw [scopeAdded]
  by_cases new : which.index = store.scopes.size
  · rw [if_pos new, if_pos new]
    rfl
  · rw [if_neg new, if_neg new]

end Store

/-- A call for one of two callers: it prints into `left` in the one store and into `right` in the other.
Its own scopes are those from `base` on. Others may turn up too if they are free, which only those are that
print elsewhere. -/
structure Twins where
  base : Nat
  left : ScopeId
  right : ScopeId
  free : ScopeId → Prop
  leftOlder : left.index < base
  rightOlder : right.index < base

namespace Twins

variable {twins : Twins} {s s' t t' : Store} {a b : ScopeId}

-- Buffers that stand for each other.
def Pair (twins : Twins) (a b : ScopeId) : Prop :=
  a = twins.left ∧ b = twins.right ∨
    a = b ∧ a ≠ twins.left ∧ a ≠ twins.right ∧ a.index < twins.base

theorem Pair.older (pair : twins.Pair a b) : a.index < twins.base ∧ b.index < twins.base := by
  rcases pair with ⟨rfl, rfl⟩ | ⟨rfl, _, _, old⟩
  · exact ⟨twins.leftOlder, twins.rightOlder⟩
  · exact ⟨old, old⟩

theorem Pair.same {a' b' : ScopeId} (pair : twins.Pair a b) (other : twins.Pair a' b') :
    a = a' ↔ b = b' := by
  rcases pair with ⟨rfl, rfl⟩ | ⟨rfl, apart, apart', _⟩
  · rcases other with ⟨rfl, rfl⟩ | ⟨rfl, apart, apart', _⟩
    · exact ⟨fun _ => rfl, fun _ => rfl⟩
    · exact ⟨fun h => absurd h.symm apart, fun h => absurd h.symm apart'⟩
  · rcases other with ⟨rfl, rfl⟩ | ⟨rfl, _, _, _⟩
    · exact ⟨fun h => absurd h apart, fun h => absurd h apart'⟩
    · exact Iff.rfl

def Allowed (twins : Twins) (store : Store) (id : ScopeId) : Prop :=
  twins.base ≤ id.index ∧ id.index < store.scopes.size ∨ twins.free id

abbrev Ok (twins : Twins) (store : Store) : Value → Prop := Value.Within (twins.Allowed store)

structure SameThings (store other : Store) : Prop where
  lists : other.lists = store.lists
  maps : other.maps = store.maps
  handles : other.handles = store.handles
  closures : other.closures = store.closures

structure Rel (twins : Twins) (store other : Store) : Prop where
  things : SameThings store other
  faces : ∀ id, other.face? id = store.face? id
  count : other.scopes.size = store.scopes.size
  older : twins.base ≤ store.scopes.size
  linked : store.Linked
  linked' : other.Linked
  routes : ∀ id, twins.Allowed store id →
    ∃ a b, store.PrintsInto id a ∧ other.PrintsInto id b ∧ twins.Pair a b
  texts : ∀ a b, twins.Pair a b → other.output? b = store.output? a
  held : store.Holds (twins.Ok store)

theorem okGrown {value : Value} (grown : s.Grown t) (ok : twins.Ok s value) : twins.Ok t value := by
  cases value with
  | scope id => exact ok.imp (fun new => ⟨new.1, Nat.lt_of_lt_of_le new.2 grown.scopes⟩) fun free => free
  | _ => trivial

namespace Rel

variable (rel : twins.Rel s s')
include rel

theorem heldLater (grown : s.Grown t) : s.Holds (twins.Ok t) :=
  rel.held.imp fun _ ok => okGrown grown ok

theorem outputText {id : ScopeId} (ok : twins.Ok s (.scope id)) : s'.outputText id = s.outputText id := by
  obtain ⟨a, b, into, into', pair⟩ := rel.routes id ok
  unfold Store.outputText
  rw [into.sink rel.linked, into'.sink rel.linked']
  have same : s'.ownText? b = s.ownText? a := by
    ext text
    rw [Store.ownTextIff, Store.ownTextIff, rel.texts a b pair]
  rw [same]

theorem changed (links : s.SameLinks t) (links' : s'.SameLinks t') (things : SameThings t t')
    (faces : ∀ id, t'.face? id = t.face? id)
    (texts : ∀ a b, twins.Pair a b → t'.output? b = t.output? a)
    (held : t.Holds (twins.Ok t)) : twins.Rel t t' where
  things := things
  faces := faces
  count := links'.count.trans (rel.count.trans links.count.symm)
  older := links.count ▸ rel.older
  linked := rel.linked.changed links
  linked' := rel.linked'.changed links'
  routes id ok := by
    unfold Allowed at ok
    rw [links.count] at ok
    obtain ⟨a, b, into, into', pair⟩ := rel.routes id ok
    exact ⟨a, b, into.changed fun id way found => (links.ways id).trans found,
      into'.changed fun id way found => (links'.ways id).trans found, pair⟩
  texts := texts
  held := held

-- A change of lists, maps, attribute sets or functions leaves the scopes as they are.
theorem made {active : ScopeId} (change : Change anyScope active s t)
    (change' : Change anyScope active s' t') (here : active.index < s.scopes.size)
    (things : SameThings t t') (held : t.Holds (twins.Ok t)) : twins.Rel t t' := by
  refine rel.changed (change.sameLinks rel.linked here)
    (change'.sameLinks rel.linked' (rel.count ▸ here)) things (fun id => ?_) (fun a b pair => ?_) held
  · unfold Store.face? Store.scope?
    rw [change.scopes, change'.scopes]
    exact rel.faces id
  · unfold Store.output? Store.scope?
    rw [change.scopes, change'.scopes]
    exact rel.texts a b pair

theorem leftInside : twins.left.index < s.scopes.size :=
  Nat.lt_of_lt_of_le twins.leftOlder rel.older

theorem newList {items : Array Value} (ok : ∀ value ∈ items, twins.Ok s value) :
    twins.Rel (s.newList items).2 (s'.newList items).2 := by
  have grown := s.grownNewList items
  refine rel.made (.newList s items fun _ _ => anyWithin _) (.newList s' items fun _ _ => anyWithin _)
    rel.leftInside ⟨?_, rel.things.maps, rel.things.handles, rel.things.closures⟩ ?_
  · exact congrArg (·.push items) rel.things.lists
  · exact (rel.heldLater grown).newList fun value member => okGrown grown (ok value member)

theorem putItem (id : ListId) (position : Nat) {value : Value} (ok : twins.Ok s value) :
    twins.Rel (s.putItem id position value) (s'.putItem id position value) := by
  have grown := s.grownPutItem id position value
  refine rel.made (.putItem s id position value (anyWithin _))
    (.putItem s' id position value (anyWithin _)) rel.leftInside
    ⟨?_, rel.things.maps, rel.things.handles, rel.things.closures⟩ ?_
  · simp only [Store.putItem, Store.updateList, rel.things.lists]
  · exact (rel.heldLater grown).putItem id position (okGrown grown ok)

theorem newMap {entries : Table Value} (ok : entries.All (twins.Ok s)) :
    twins.Rel (s.newMap entries).2 (s'.newMap entries).2 := by
  have grown := s.grownNewMap entries
  refine rel.made (.newMap s entries fun _ _ => anyWithin _)
    (.newMap s' entries fun _ _ => anyWithin _) rel.leftInside
    ⟨rel.things.lists, ?_, rel.things.handles, rel.things.closures⟩ ?_
  · exact congrArg (·.push entries) rel.things.maps
  · exact (rel.heldLater grown).newMap fun entry member => okGrown grown (ok entry member)

theorem setEntry (id : MapId) (key : String) {value : Value} (ok : twins.Ok s value) :
    twins.Rel (s.setEntry id key value) (s'.setEntry id key value) := by
  have grown := s.grownSetEntry id key value
  refine rel.made (.setEntry s id key value (anyWithin _)) (.setEntry s' id key value (anyWithin _))
    rel.leftInside ⟨rel.things.lists, ?_, rel.things.handles, rel.things.closures⟩ ?_
  · exact congrArg (·.modify id.index (·.insert key value)) rel.things.maps
  · exact (rel.heldLater grown).setEntry id key (okGrown grown ok)

theorem setAttribute (id : HandleId) (key : String) (x : Scalar) :
    twins.Rel (s.setAttribute id key x) (s'.setAttribute id key x) := by
  refine rel.made (.setAttribute s id key x) (.setAttribute s' id key x) rel.leftInside
    ⟨rel.things.lists, rel.things.maps, ?_, rel.things.closures⟩ (rel.held.setAttribute id key x)
  exact congrArg (·.modify id.index (·.insert key x)) rel.things.handles

theorem newClosure {closure : Closure} (ok : twins.Ok s (.scope closure.scope)) :
    twins.Rel (s.newClosure closure).2 (s'.newClosure closure).2 := by
  obtain ⟨_, _, into, _⟩ := rel.routes closure.scope ok
  refine rel.made (.newClosure s closure rfl) (.newClosure s' closure rfl) into.inside
    ⟨rel.things.lists, rel.things.maps, rel.things.handles, ?_⟩ (rel.held.newClosure closure)
  exact congrArg (·.push closure) rel.things.closures

theorem bind (id : ScopeId) (name : String) {value : Value} (ok : twins.Ok s value) :
    twins.Rel (s.bind id name value) (s'.bind id name value) := by
  have grown : s.Grown (s.bind id name value) := s.grownUpdateScope id _
  refine rel.changed (rel.linked.bound id name value) (rel.linked'.bound id name value)
    ⟨rel.things.lists, rel.things.maps, rel.things.handles, rel.things.closures⟩ (fun which => ?_)
    (fun a b pair => ?_) ?_
  · rw [Store.faceBound, Store.faceBound, rel.faces]
  · rw [Store.outputBound, Store.outputBound, rel.texts a b pair]
  · exact (rel.heldLater grown).bind id name (okGrown grown ok)

theorem print {id : ScopeId} (text : String) (ok : twins.Ok s (.scope id)) :
    twins.Rel (s.print id text) (s'.print id text) := by
  obtain ⟨a, b, into, into', pair⟩ := rel.routes id ok
  have grown : s.Grown (s.print id text) := s.grownUpdateScope _ _
  refine rel.changed (rel.linked.printed id text) (rel.linked'.printed id text)
    ⟨rel.things.lists, rel.things.maps, rel.things.handles, rel.things.closures⟩ (fun which => ?_)
    (fun a' b' other => ?_) ?_
  · rw [Store.facePrinted, Store.facePrinted, rel.faces]
  · -- The text goes into buffers that stand for each other, and nowhere else.
    rw [Store.outputPrinted, Store.outputPrinted, into.sink rel.linked, into'.sink rel.linked',
      rel.texts a' b' other]
    simp only [pair.same other]
  · exact (rel.heldLater grown).print id text

theorem frame {definer caller caller' : ScopeId} (defined : definer.index < s.scopes.size)
    (into : s.PrintsInto caller a) (into' : s'.PrintsInto caller' b) (pair : twins.Pair a b) :
    twins.Rel (s.newFrame definer caller).2 (s'.newFrame definer caller').2 := by
  have grown : s.Grown (s.newFrame definer caller).2 := s.grownNewScope _ _
  have ways (store : Store) (calls : ScopeId) (id : ScopeId) (way : Option ScopeId)
      (found : store.way? id = some way) : (store.newFrame definer calls).2.way? id = some way := by
    unfold Store.newFrame
    rw [Store.wayAdded, if_neg (Nat.ne_of_lt (Store.wayInside found))]
    exact found
  have before (id : ScopeId) (ok : twins.Allowed s id) :
      ∃ a b, (s.newFrame definer caller).2.PrintsInto id a ∧
        (s'.newFrame definer caller').2.PrintsInto id b ∧ twins.Pair a b := by
    obtain ⟨a, b, into, into', pair⟩ := rel.routes id ok
    exact ⟨a, b, into.changed (ways s caller), into'.changed (ways s' caller'), pair⟩
  refine ⟨⟨rel.things.lists, rel.things.maps, rel.things.handles, rel.things.closures⟩,
    fun id => ?_, ?_, Nat.le_trans rel.older grown.scopes, ?_, ?_, fun id ok => ?_,
    fun a b pair => ?_, ?_⟩
  · unfold Store.newFrame
    rw [Store.faceAdded, Store.faceAdded, rel.count, rel.faces]
  · unfold Store.newFrame
    rw [Store.countAdded, Store.countAdded, rel.count]
  · exact rel.linked.added (fun p same => Option.some.inj same ▸ defined)
      fun n same => Option.some.inj same ▸ into.inside
  · exact rel.linked'.added (fun p same => Option.some.inj same ▸ rel.count ▸ defined)
      fun n same => Option.some.inj same ▸ into'.inside
  · rcases ok with ⟨new, inside⟩ | free
    · by_cases last : id.index = s.scopes.size
      · refine ⟨a, b, .through ?_ (into.changed (ways s caller)),
          .through ?_ (into'.changed (ways s' caller')), pair⟩
        · unfold Store.newFrame
          rw [Store.wayAdded, if_pos last]
          rfl
        · unfold Store.newFrame
          rw [Store.wayAdded, rel.count, if_pos last]
          rfl
      · have count : id.index < s.scopes.size + 1 :=
          s.countAdded (some definer) (.through caller) ▸ inside
        exact before id (.inl ⟨new, by omega⟩)
    · exact before id (.inr free)
  · obtain ⟨old, old'⟩ := pair.older
    have inside := Nat.lt_of_lt_of_le old rel.older
    have inside' : b.index < s'.scopes.size := rel.count ▸ Nat.lt_of_lt_of_le old' rel.older
    unfold Store.newFrame
    rw [Store.outputOlder _ _ _ inside', Store.outputOlder _ _ _ inside]
    exact rel.texts a b pair
  · exact (rel.heldLater grown).newScope builtinWithin _ _

theorem bindAll (id : ScopeId) {bindings : List (String × Value)}
    (ok : ∀ binding ∈ bindings, twins.Ok s binding.2) :
    twins.Rel (s.bindAll id bindings) (s'.bindAll id bindings) := by
  induction bindings generalizing s s' with
  | nil => exact rel
  | cons first rest ih =>
    refine ih (rel.bind id first.1 (ok first List.mem_cons_self)) fun binding member => ?_
    exact okGrown (s.grownUpdateScope id _) (ok binding (List.mem_cons_of_mem _ member))

end Rel

def simulation (twins : Twins) : Simulation where
  places := .same
  Rel := twins.Rel
  Ok := twins.Ok
  grown := okGrown
  scalar _ _ := scalarWithin _
  builtin _ _ := builtinWithin _
  shown rel := shownSame rel.things.lists rel.things.maps rel.things.handles rel.things.closures
  held rel := rel.held
  lookup := by
    intro s s' id name rel
    rw [Value.allMovedSame, Option.map_id]
    exact Store.lookupFaces rel.faces id name
  output rel ok := rel.outputText ok
  newList := by
    intro s s' items rel ok
    rw [Value.allMovedSame, Array.map_id]
    exact ⟨congrArg (ListId.mk ·.size) rel.things.lists, rel.newList ok, trivial⟩
  putItem := by
    intro s s' value id position rel ok
    rw [Value.movedSame]
    exact rel.putItem id position ok
  newMap := by
    intro s s' entries rel ok
    rw [Value.allMovedSame, Table.mapId]
    exact ⟨congrArg (MapId.mk ·.size) rel.things.maps, rel.newMap ok, trivial⟩
  setEntry := by
    intro s s' value id key rel ok
    rw [Value.movedSame]
    exact rel.setEntry id key ok
  setAttribute id key x rel := rel.setAttribute id key x
  newClosure rel ok := ⟨congrArg (ClosureId.mk ·.size) rel.things.closures, rel.newClosure ok, trivial⟩
  bind := by
    intro s s' value id name rel ok
    rw [Value.movedSame]
    exact rel.bind id name ok
  print text rel ok := rel.print text ok
  frame := by
    intro s s' id caller closure rel found ok
    obtain ⟨a, b, into, into', pair⟩ := rel.routes caller ok
    refine ⟨congrArg ScopeId.mk rel.count,
      rel.frame (rel.linked.closures id closure found) into into' pair, .inl ⟨rel.older, ?_⟩⟩
    unfold Store.newFrame
    rw [Store.countAdded]
    exact Nat.lt_succ_self _

end Twins

variable {store : Store} {c₁ c₂ : ScopeId}

theorem Store.Linked.bufferInside (linked : store.Linked) (here : c₁.index < store.scopes.size) :
    (store.sink c₁).index < store.scopes.size :=
  Store.wayInside (linked.printsInto c₁ here).ends

theorem Store.Linked.bufferText (linked : store.Linked) (here : c₁.index < store.scopes.size) :
    store.output? (store.sink c₁) = some (.own (store.outputText c₁)) := by
  obtain ⟨text, found⟩ := Store.bufferHasText (linked.printsInto c₁ here).ends
  unfold Store.outputText
  rw [Store.ownTextIff.mpr found]
  exact found

/-- The scope prints into neither of the two callers' buffers. -/
def Store.PrintsApart (store : Store) (c₁ c₂ id : ScopeId) : Prop :=
  id.index < store.scopes.size ∧ store.sink id ≠ store.sink c₁ ∧ store.sink id ≠ store.sink c₂

def callers (linked : store.Linked) (here₁ : c₁.index < store.scopes.size)
    (here₂ : c₂.index < store.scopes.size) : Twins where
  base := store.scopes.size
  left := store.sink c₁
  right := store.sink c₂
  free := store.PrintsApart c₁ c₂
  leftOlder := linked.bufferInside here₁
  rightOlder := linked.bufferInside here₂

section Callers

variable (linked : store.Linked) (plain : store.NoScopeValues)
  (here₁ : c₁.index < store.scopes.size) (here₂ : c₂.index < store.scopes.size)
  (sameText : store.outputText c₁ = store.outputText c₂)
include plain sameText

theorem callersAlike : (callers linked here₁ here₂).Rel store store where
  things := ⟨rfl, rfl, rfl, rfl⟩
  faces _ := rfl
  count := rfl
  older := Nat.le_refl _
  linked := linked
  linked' := linked
  routes id ok := by
    rcases ok with ⟨new, inside⟩ | ⟨there, apart, apart'⟩
    · exact absurd inside (Nat.not_lt.mpr new)
    · have into := linked.printsInto id there
      exact ⟨_, _, into, into, .inr ⟨rfl, apart, apart', linked.bufferInside there⟩⟩
  texts a b pair := by
    rcases pair with ⟨rfl, rfl⟩ | ⟨rfl, _⟩
    · show store.output? (store.sink c₂) = store.output? (store.sink c₁)
      rw [linked.bufferText here₁, linked.bufferText here₂, sameText]
    · rfl
  held := plain.holds.imp fun value none => by
    cases value with
    | scope id => exact none.elim
    | _ => trivial

omit plain sameText in
theorem apartOk {value : Value} {current : Store} (apart : value.Within (store.PrintsApart c₁ c₂)) :
    (callers linked here₁ here₂).Ok current value := by
  cases value with
  | scope id => exact .inr apart
  | _ => trivial

theorem closuresTogether {n : Nat} {id : ClosureId} {closure : Closure} {args : List Value}
    (found : store.closure? id = some closure) (held : ∀ value ∈ args, value.Within (store.PrintsApart c₁ c₂)) :
    Ends (callers linked here₁ here₂).simulation store (callers linked here₁ here₂).simulation.Alike
      (invoke (n + 1) c₁ (.closure id) args store) (invoke (n + 1) c₂ (.closure id) args store) := by
  have alike := callersAlike linked plain here₁ here₂ sameText
  -- The two frames are opened by hand: here the callers differ, from here on the frame calls.
  have opened := alike.frame (linked.closures id closure found) (linked.printsInto c₁ here₁)
    (linked.printsInto c₂ here₂) (.inl ⟨rfl, rfl⟩)
  have bound : ∀ binding ∈ closure.params.zip args,
      (callers linked here₁ here₂).Ok (store.newFrame closure.scope c₁).2 binding.2 :=
    fun binding member => apartOk linked here₁ here₂ (held binding.2 (List.of_mem_zip member).2)
  have entered := opened.bindAll ⟨store.scopes.size⟩ bound
  have more := (store.newFrame closure.scope c₁).2.grownBindAll ⟨store.scopes.size⟩
    (closure.params.zip args)
  have active : (callers linked here₁ here₂).Ok (store.entered closure c₁ args) (.scope ⟨store.scopes.size⟩) := by
    refine .inl ⟨Nat.le_refl _, Nat.lt_of_lt_of_le ?_ more.scopes⟩
    unfold Store.newFrame
    rw [Store.countAdded]
    exact Nat.lt_succ_self _
  have run := (simulatedExec (S := (callers linked here₁ here₂).simulation) n active closure.body).bind
    fun _ alike => .pure (Simulation.flowAlike alike)
  rw [invokeClosure found, invokeClosure found]
  exact (run _ entered).since ((store.grownNewScope _ _).trans more)

theorem callsTogether (budget : Nat) (f : FunctionId) {args : List Value}
    (held : ∀ value ∈ args, value.Within (store.PrintsApart c₁ c₂)) :
    Ends (callers linked here₁ here₂).simulation store (callers linked here₁ here₂).simulation.Alike
      (callValues budget c₁ f args store) (callValues budget c₂ f args store) := by
  have alike := callersAlike linked plain here₁ here₂ sameText
  unfold callValues
  rw [Action.bindApply, Action.bindApply]
  by_cases arity : (store.functionArity f).accepts args.length
  · rw [show Eval.checkArity f args.length store = .done () store from if_pos arity]
    show Ends _ _ _ (invoke budget c₁ f args store) (invoke budget c₂ f args store)
    cases budget with
    | zero => exact .spent
    | succ n =>
      cases f with
      | builtin b =>
        have values : List.Forall₂ ((callers linked here₁ here₂).simulation.Alike store) args args :=
          List.forall₂_same.mpr fun value member =>
            ⟨apartOk linked here₁ here₂ (held value member), value.movedSame.symm⟩
        rw [invoke, invoke]
        exact simulatedApply b values store alike
      | closure id =>
        cases found : store.closure? id with
        | none =>
          rw [invoke, invoke]
          simp only [Action.bindApply, Action.get, found]
          exact .failed _ (.refl store) alike
        | some closure => exact closuresTogether linked plain here₁ here₂ sameText found held
  · rw [show Eval.checkArity f args.length store = .failed _ store from if_neg arity]
    exact .failed _ (.refl store) alike

end Callers

theorem callAppends (linked : store.Linked) (here : c₁.index < store.scopes.size) {budget : Nat}
    {f : FunctionId} {args : List Value} {final : Store}
    (ended : (callValues budget c₁ f args store).state? = some final) :
    (∃ added, final.output? (store.sink c₁) = some (.own (store.outputText c₁ ++ added))) ∧
      ∀ id : ScopeId, id.index < store.scopes.size → id ≠ store.sink c₁ →
        final.ownText? id = store.ownText? id := by
  have passes := (followsCallValues f fun value _ => anyWithin value).ended (withinAny store) ended
  have routed := routedByRun linked here passes
  exact ⟨routed.appended _ (linked.bufferText here),
    fun id old apart => Store.ownTextSame (routed.others id old apart)⟩

theorem callsAreLexical (built : store.Built) (plain : store.NoScopeValues)
    (here₁ : c₁.index < store.scopes.size) (here₂ : c₂.index < store.scopes.size)
    (sameText : store.outputText c₁ = store.outputText c₂) (f : FunctionId) {args : List Value}
    (held : ∀ value ∈ args, value.Within (store.PrintsApart c₁ c₂)) :
    (∀ budget, (callValues budget c₁ f args store).state?.isSome =
      (callValues budget c₂ f args store).state?.isSome) ∧
    ∀ {budget₁ budget₂ : Nat} {final₁ final₂ : Store},
      (callValues budget₁ c₁ f args store).state? = some final₁ →
      (callValues budget₂ c₂ f args store).state? = some final₂ →
      (callValues budget₁ c₁ f args store).answer? = (callValues budget₂ c₂ f args store).answer? ∧
      (final₁.lists = final₂.lists ∧ final₁.maps = final₂.maps ∧ final₁.handles = final₂.handles) ∧
      (∃ added, final₁.ownText? (store.sink c₁) = some (store.outputText c₁ ++ added) ∧
        final₂.ownText? (store.sink c₂) = some (store.outputText c₂ ++ added)) ∧
      (∀ id : ScopeId, id.index < store.scopes.size → id ≠ store.sink c₁ →
        final₁.ownText? id = store.ownText? id) ∧
      ∀ id : ScopeId, id.index < store.scopes.size → id ≠ store.sink c₂ →
        final₂.ownText? id = store.ownText? id := by
  have linked := built.linked
  have together := fun budget => callsTogether linked plain here₁ here₂ sameText budget f held
  refine ⟨fun budget => ?_, ?_⟩
  · have ends := together budget
    generalize callValues budget c₁ f args store = outcome₁ at ends ⊢
    generalize callValues budget c₂ f args store = outcome₂ at ends ⊢
    cases ends <;> rfl
  · intro budget₁ budget₂ final₁ final₂ ended₁ ended₂
    obtain ⟨⟨added, text₁⟩, others₁⟩ := callAppends linked here₁ ended₁
    obtain ⟨⟨added₂, text₂⟩, others₂⟩ := callAppends linked here₂ ended₂
    -- With the larger budget both runs end as they did.
    have ends := together (max budget₁ budget₂)
    rw [(extendsCallValues c₁ f args (Nat.le_max_left budget₁ budget₂)).ended ended₁,
      (extendsCallValues c₂ f args (Nat.le_max_right budget₁ budget₂)).ended ended₂] at ends
    have alike : (callers linked here₁ here₂).Rel final₁ final₂ ∧
        (callValues budget₁ c₁ f args store).answer? =
          (callValues budget₂ c₂ f args store).answer? := by
      generalize callValues budget₁ c₁ f args store = outcome₁ at ends ended₁ ⊢
      generalize callValues budget₂ c₂ f args store = outcome₂ at ends ended₂ ⊢
      cases ends with
      | done grown rel same =>
        cases ended₁
        cases ended₂
        rw [same.2, show (callers linked here₁ here₂).simulation.places = .same from rfl, Value.movedSame]
        exact ⟨rel, rfl⟩
      | failed e grown rel =>
        cases ended₁
        cases ended₂
        exact ⟨rel, rfl⟩
      | spent => cases ended₁
    obtain ⟨rel, answers⟩ := alike
    have same : added₂ = added := by
      have outputs : final₂.output? (store.sink c₂) = final₁.output? (store.sink c₁) :=
        rel.texts _ _ (.inl ⟨rfl, rfl⟩)
      rw [text₁, text₂, sameText, Option.some.injEq, Output.own.injEq] at outputs
      exact (String.append_right_inj _).mp outputs
    subst same
    exact ⟨answers, ⟨rel.things.lists.symm, rel.things.maps.symm, rel.things.handles.symm⟩,
      ⟨added₂, Store.ownTextIff.mpr text₁, Store.ownTextIff.mpr text₂⟩, others₁, others₂⟩

-- Scope 0 knows a function that prints and then reads the output of the scope it is given. Scopes 1 and
-- 2 are inside it; the name that the function asks for is bound in scope 1 only.
def askingBody : Stmt :=
  .block [.print [.call (.ref (.var "isPresent")) [.ref (.var "y")]],
    .ret (.ref (.field (.var "c") "output"))]

def askingStore : Store :=
  let defined := (Store.empty.newRoot.2.newClosure ⟨"f", ["c"], askingBody, ⟨0⟩⟩).2
  let known := defined.bind ⟨0⟩ "f" (.func (.closure ⟨0⟩))
  ((known.newChild ⟨0⟩).2.newChild ⟨0⟩).2.bind ⟨1⟩ "y" (.int 1)

theorem askingStoreBuilt : askingStore.Built := by
  have defined : Store.Built (Store.empty.newRoot.2.newClosure ⟨"f", ["c"], askingBody, ⟨0⟩⟩).2 :=
    Store.Built.empty.root.defining (Nat.zero_lt_succ 0)
  have known := defined.changed (defined.linked.bound ⟨0⟩ "f" (.func (.closure ⟨0⟩)))
  have first := @Store.Built.child _ ⟨0⟩ known (Nat.zero_lt_succ 0)
  have second := @Store.Built.child _ ⟨0⟩ first (Nat.zero_lt_succ 1)
  exact second.changed (second.linked.bound ⟨1⟩ "y" _)

theorem askingStorePlain : askingStore.NoScopeValues := by
  have root := (emptyWithin fun _ => False).holds.newScope builtinWithin none (.own "")
  have function : (Value.func (.closure ⟨0⟩)).NoScope := trivial
  have known := (root.newClosure ⟨"f", ["c"], askingBody, ⟨0⟩⟩).bind ⟨0⟩ "f" function
  have first := known.newScope builtinWithin (some ⟨0⟩) (.own "")
  have second := first.newScope builtinWithin (some ⟨0⟩) (.own "")
  exact (second.bind ⟨1⟩ "y" (scalarWithin (.int 1))).within

-- Two callers, and the scope around them as an argument.
theorem callersNamesAreNotSeen :
    askingStore.Built ∧ askingStore.NoScopeValues ∧
    askingStore.outputText ⟨1⟩ = askingStore.outputText ⟨2⟩ ∧
    askingStore.PrintsApart ⟨1⟩ ⟨2⟩ ⟨0⟩ ∧
    (askingStore.lookup? ⟨1⟩ "y").isSome ≠ (askingStore.lookup? ⟨2⟩ "y").isSome ∧
    ∃ final₁ final₂ : Store,
      (callValues 12 ⟨1⟩ (.closure ⟨0⟩) [.scope ⟨0⟩] askingStore).state? = some final₁ ∧
      (callValues 14 ⟨2⟩ (.closure ⟨0⟩) [.scope ⟨0⟩] askingStore).state? = some final₂ ∧
      (callValues 12 ⟨1⟩ (.closure ⟨0⟩) [.scope ⟨0⟩] askingStore).answer? =
        (callValues 14 ⟨2⟩ (.closure ⟨0⟩) [.scope ⟨0⟩] askingStore).answer? ∧
      final₁.ownText? ⟨1⟩ = final₂.ownText? ⟨2⟩ := by
  have sameText : askingStore.outputText ⟨1⟩ = askingStore.outputText ⟨2⟩ := by decide +kernel
  have apart : askingStore.PrintsApart ⟨1⟩ ⟨2⟩ ⟨0⟩ := by
    unfold Store.PrintsApart
    decide +kernel
  obtain ⟨final₁, ended₁⟩ := Option.isSome_iff_exists.mp (by decide +kernel :
    (callValues 12 ⟨1⟩ (.closure ⟨0⟩) [.scope ⟨0⟩] askingStore).state?.isSome = true)
  obtain ⟨final₂, ended₂⟩ := Option.isSome_iff_exists.mp (by decide +kernel :
    (callValues 14 ⟨2⟩ (.closure ⟨0⟩) [.scope ⟨0⟩] askingStore).state?.isSome = true)
  obtain ⟨answers, _, ⟨added, text₁, text₂⟩, _⟩ := (callsAreLexical askingStoreBuilt askingStorePlain
    (by decide +kernel) (by decide +kernel) sameText (.closure ⟨0⟩)
    (by simpa [Value.Within] using apart)).2 ended₁ ended₂
  rw [show askingStore.sink ⟨1⟩ = ⟨1⟩ by decide +kernel] at text₁
  rw [show askingStore.sink ⟨2⟩ = ⟨2⟩ by decide +kernel] at text₂
  refine ⟨askingStoreBuilt, askingStorePlain, sameText, apart, by decide +kernel, final₁, final₂,
    ended₁, ended₂, answers, ?_⟩
  rw [text₁, text₂, sameText]

def Outcome.text? : Outcome Store EvalError Value → Option String
  | .done (.scalar (.str text)) _ => some text
  | _ => none

theorem Outcome.textAnswer {outcome : Outcome Store EvalError Value} {text : String}
    (found : outcome.text? = some text) : outcome.answer? = some (.ok (.str text)) := by
  unfold Outcome.text? at found
  split at found
  · cases found
    rfl
  · cases found

/-- A scope that prints where one of the callers does is seen to be printed into, or not. -/
theorem scopeArgumentShowsTheCaller :
    askingStore.Built ∧ askingStore.NoScopeValues ∧
    askingStore.outputText ⟨0⟩ = askingStore.outputText ⟨1⟩ ∧
    (callValues 12 ⟨0⟩ (.closure ⟨0⟩) [.scope ⟨0⟩] askingStore).answer? = some (.ok (.str "false")) ∧
    (callValues 12 ⟨1⟩ (.closure ⟨0⟩) [.scope ⟨0⟩] askingStore).answer? = some (.ok (.str "")) := by
  refine ⟨askingStoreBuilt, askingStorePlain, by decide +kernel, ?_, ?_⟩
  · exact Outcome.textAnswer (by decide +kernel)
  · exact Outcome.textAnswer (by decide +kernel)

end CircuitScript
