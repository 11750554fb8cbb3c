import CircuitScript.Proofs.Confined

/-! Scripts without assignments to fields never leave a territory, since no step of evaluation does. -/
namespace CircuitScript

-- Runs that stay in a territory: they assign to no field, and call only functions that assign to none.
def staying (land : Territory) (handles : Array Attributes) : Upkeep where
  Mode := Unit
  inv := land.Encloses handles
  step _ _ final := land.Encloses handles final
  good := land.has
  here _ s := land.has (.scope s)
  tree _ part := part.FieldFree
  body b := b.FieldFree
  writable _ r := ¬r.IsField
  fine _ := True
  refl := id
  trans _ second := second
  kept final _ := final
  scalar := land.scalar
  inner free child member := free.children child (Part.innerChildren member)
  literal free := free.children _ List.mem_cons_self
  declared free := ⟨free.children _ List.mem_cons_self, id⟩
  assigned free := Stmt.FieldFree.assigned free
  compounded free := Stmt.FieldFree.compounded free
  printed _ := trivial
  plain _ := trivial
  counted _ _ _ := trivial
  read encloses own found := encloses.read own found
  readField encloses own found := encloses.readField own found
  item encloses own member := encloses.items own member
  bindName encloses _ _ good := encloses.bind _ _ good
  bindField _ other _ _ := absurd trivial other
  setEntry _ _ other _ := absurd trivial other
  setAttribute _ _ _ other := absurd trivial other
  putItem l position encloses good := encloses.putItem l position good
  newList := fun {_ store _} encloses good =>
    ⟨encloses.newList good, encloses.newer _ (Nat.lt_irrefl store.lists.size)⟩
  newMap := fun {_ store _} encloses good =>
    ⟨encloses.newMap good, encloses.newer _ (Nat.lt_irrefl store.maps.size)⟩
  newClosure := fun {_ store _ _} _ _ encloses own free =>
    ⟨encloses.newClosure free own, encloses.newer _ (Nat.lt_irrefl store.closures.size)⟩
  print text encloses _ := encloses.print _ text
  enter encloses _ known found good :=
    ⟨(), encloses.newFrame, encloses.bodies known found, encloses.entered (encloses.definers known found) _ good, id⟩

def Value.LeadsNowhere : Value → Prop
  | .scalar _ => True
  | .func (.builtin _) => True
  | _ => False

-- What can be got at from a scope, and whatever is still to be made.
def Store.realm (store : Store) (start : ScopeId) : Territory where
  has value := ¬value.There store ∨ value.LeadsNowhere ∨ store.Reaches start value
  scalar _ := .inr (.inl trivial)
  builtin _ := .inr (.inl trivial)

variable {store : Store} {start : ScopeId}

theorem Store.realmReaches {value : Value} (has : (store.realm start).has value) (there : value.There store)
    (leads : ¬value.LeadsNowhere) : store.Reaches start value := by
  rcases has with away | nowhere | reaches
  · exact absurd there away
  · exact absurd nowhere leads
  · exact reaches

theorem Store.getThere {id : ScopeId} {name : String} {value : Value}
    (bound : (store.names id).get? name = some value) : id.index < store.scopes.size := by
  unfold Store.names at bound
  cases found : store.scope? id with
  | none => simp [found] at bound
  | some scope => exact Store.scopeInside found

theorem Store.parentHere {id outer : ScopeId} (found : store.parent? id = some outer) :
    id.index < store.scopes.size := by
  obtain ⟨scope, there, _⟩ := Option.bind_eq_some_iff.mp found
  exact Store.scopeInside there

theorem Store.itemThere {id : ListId} {value : Value} (member : value ∈ store.items id) :
    id.index < store.lists.size := by
  refine Nat.lt_of_not_le fun beyond => ?_
  unfold Store.items at member
  rw [Array.getElem?_eq_none beyond] at member
  simp at member

theorem Store.entryThere {id : MapId} {key : String} {value : Value}
    (bound : (store.mapEntries id).get? key = some value) : id.index < store.maps.size := by
  refine Nat.lt_of_not_le fun beyond => ?_
  unfold Store.mapEntries at bound
  rw [Array.getElem?_eq_none beyond] at bound
  cases bound

theorem Store.closureThere {id : ClosureId} {closure : Closure} (found : store.closure? id = some closure) :
    id.index < store.closures.size := by
  obtain ⟨inside, _⟩ := Array.getElem?_eq_some_iff.mp found
  exact inside

theorem Store.realmEncloses (bodies : store.FunctionsFieldFree start) :
    (store.realm start).Encloses store.handles store where
  names has bound := .inr (.inr (.name (realmReaches has (getThere bound) id) bound))
  parents has found := .inr (.inr (.around (realmReaches has (parentHere found) id) found))
  items has member := .inr (.inr (.item (realmReaches has (itemThere member) id) member))
  entries has bound := .inr (.inr (.entry (realmReaches has (entryThere bound) id) bound))
  definers has found := .inr (.inr (.definer (realmReaches has (closureThere found) id) found))
  bodies has found := bodies _ _ (realmReaches has (closureThere found) id) found
  newer _ away := .inl away
  handles := rfl

/-- A script leaves all attribute sets as they are if neither it nor a function that it can get at assigns to a
field. -/
theorem execKeepsHandles {n : Nat} {tree : Stmt} {after : Store} (free : tree.FieldFree)
    (bodies : store.FunctionsFieldFree start) (ended : (exec n start tree store).state? = some after) :
    after.handles = store.handles := by
  have own : (store.realm start).has (.scope start) := .inr (.inr .start)
  have stays := (staying (store.realm start) store.handles).stmt (m := ()) n own free
  exact (stays.ended (Store.realmEncloses bodies) ended).handles

end CircuitScript
