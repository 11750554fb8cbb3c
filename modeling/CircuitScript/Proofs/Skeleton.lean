import CircuitScript.Proofs.Presence
import CircuitScript.Proofs.Printing
import CircuitScript.Proofs.Staying
import CircuitScript.Proofs.WellRun

/-! What specializing a circuit leaves as it is. Only the script of a primitive element can change attributes, and only
those of its own element; it adds and replaces them but removes none, and it needs an assignment to a field for that. -/
namespace CircuitScript

section Keys

variable {allowed : ScopeId → Prop} {assigns : Bool} {start active : ScopeId} {store next : Store}
variable {id : HandleId} {key : String}

theorem Change.keysKept (change : Change allowed active store next)
    (had : (store.attributesOf id).contains key = true) : (next.attributesOf id).contains key = true := by
  cases change with
  | setAttribute other name value =>
    unfold Store.attributesOf Store.setAttribute
    rw [Array.getElem?_modify]
    unfold Store.attributesOf at had
    split
    · cases there : store.handles[id.index]? with
      | none => simp [there, Table.contains] at had
      | some attributes =>
        rw [there] at had
        simp only [Option.map_some, Option.getD_some, Table.contains, Table.getInsert] at had ⊢
        split
        · rfl
        · exact had
    · exact had
  | _ => exact had

theorem Move.keysKept {m m' : Moment} (move : Move allowed assigns start m m')
    (had : (m.store.attributesOf id).contains key = true) : (m'.store.attributesOf id).contains key = true := by
  cases move with
  | change frames made => exact made.keysKept had
  | _ => exact had

theorem passesKeysKept {m m' : Moment} (passes : Passes allowed assigns start m m')
    (had : (m.store.attributesOf id).contains key = true) : (m'.store.attributesOf id).contains key = true := by
  induction passes with
  | refl => exact had
  | tail before move ih => exact move.keysKept ih

theorem execKeysKept {n : Nat} {tree : Stmt} (ended : (exec n start tree store).state? = some next)
    (had : (store.attributesOf id).contains key = true) : (next.attributesOf id).contains key = true :=
  passesKeysKept ((followsStmt anyScope start n tree).ended (withinAny store) ended) had

end Keys

namespace Build

variable {budget : Nat} {library : Library} {t : Template} {origin : String} {args : ScopeId}
variable {element special : Element} {code : String} {state after : BuildState}

theorem statementKeepsStore {template : String} {tree : Stmt} {next : BuildState}
    (ended : statement template code state = .done tree next) : next.store = state.store := by
  unfold statement at ended
  split at ended
  · cases ended
    rfl
  · split at ended
    · cases ended
      rfl
    · cases ended

-- An element after its script: arguments for a custom one, attributes for a primitive one.
def afterScript (found : ElementType) (scope : ScopeId) (attributes : Attributes) (element : Element) : Element :=
  match found with
  | .custom _ => { element with args := some scope }
  | .primitive _ => { element with attributes := attributes }

theorem specializeElementEnds
    (ended : specializeElement budget library t origin args element state = .done special after)
    (script : element.script? = some code) :
    ∃ found tree next flow, library.get? element.typeName = some found ∧
      statement t.name code state = .done tree next ∧ after.parsed = next.parsed ∧
      exec budget ⟨state.store.scopes.size⟩ tree (scriptStore found state.store args element) =
        .done flow after.store ∧
      special = afterScript found ⟨state.store.scopes.size⟩
        (after.store.attributesOf ⟨(state.store.arguments (some args)).handles.size⟩) element := by
  have began := ended
  unfold specializeElement at began
  rw [script] at began
  obtain ⟨found, s₁, looked, began⟩ := Action.bindDone began
  obtain ⟨type, rfl⟩ := findDone looked
  obtain ⟨tree, next, gives, _⟩ := Action.bindDone began
  have gives := Action.mapErrorDone.mp gives
  rw [specializeScript script type gives (statementKeepsStore gives)] at ended
  obtain ⟨u, s₂, ran, ended⟩ := Action.bindDone ended
  have ran := Action.mapErrorDone.mp ran
  obtain ⟨flow, runs⟩ := runScriptDone ran
  have kept : s₂.parsed = next.parsed := by
    have left := congrArg Outcome.state? ran
    rw [runScriptEnds, runs] at left
    exact (congrArg BuildState.parsed (Option.some.inj left)).symm
  refine ⟨found, tree, next, flow, type, gives, ?_⟩
  cases found with
  | custom inner =>
    cases ended
    exact ⟨kept, runs, rfl⟩
  | primitive defaults =>
    cases ended
    exact ⟨kept, runs, rfl⟩

theorem specializeElementFaithful (faithful : state.Faithful)
    (ended : specializeElement budget library t origin args element state = .done special after) :
    after.Faithful := by
  cases script : element.script? with
  | none =>
    unfold specializeElement at ended
    rw [script] at ended
    cases ended
    exact faithful
  | some code =>
    obtain ⟨found, tree, next, flow, _, gives, kept, _⟩ := specializeElementEnds ended script
    intro template other found there
    unfold BuildState.treesOf at there
    rw [kept] at there
    rcases statementGives faithful t.name code with ⟨_, _, _, gives', _, later⟩ | ⟨e, _, failed⟩
    · cases gives.symm.trans gives'
      exact later template other found there
    · cases gives.symm.trans failed

theorem specializeAllFaithful {elements specials : List Element} (faithful : state.Faithful)
    (ended : specializeAll budget library t origin args elements state = .done specials after) :
    after.Faithful := by
  induction elements generalizing state specials with
  | nil =>
    cases ended
    exact faithful
  | cons element rest ih =>
    obtain ⟨special, middle, others, own, more, rfl⟩ := specializeAllCons.mp ended
    exact ih (specializeElementFaithful faithful own) more

theorem bindThisAttributes (defaults : Attributes) (scope : ScopeId) (element : Element) (store : Store) :
    (bindThis (.primitive defaults) scope element store).attributesOf ⟨store.handles.size⟩ = element.attributes := by
  show ((store.handles.push element.attributes)[store.handles.size]?).getD .empty = element.attributes
  rw [Array.getElem?_push, if_pos rfl]
  rfl

section Scripted

variable (ended : specializeElement budget library t origin args element state = .done special after)
  (script : element.script? = some code)
include ended script

theorem scriptedType :
    (∃ inner, library.get? element.typeName = some (.custom inner)) ∨
      ∃ defaults, library.get? element.typeName = some (.primitive defaults) := by
  obtain ⟨found, _, _, _, type, _⟩ := specializeElementEnds ended script
  cases found with
  | custom inner => exact .inl ⟨inner, type⟩
  | primitive defaults => exact .inr ⟨defaults, type⟩

theorem customAfterScript {inner : Template} (custom : library.get? element.typeName = some (.custom inner)) :
    special = { element with args := some ⟨state.store.scopes.size⟩ } ∧
      ∃ tree next flow, statement t.name code state = .done tree next ∧
        exec budget ⟨state.store.scopes.size⟩ tree (scriptStore (.custom inner) state.store args element) =
          .done flow after.store := by
  obtain ⟨found, tree, next, flow, type, gives, _, ran, same⟩ := specializeElementEnds ended script
  cases custom.symm.trans type
  exact ⟨same, tree, next, flow, gives, ran⟩

theorem primitiveAfterScript {defaults : Attributes}
    (primitive : library.get? element.typeName = some (.primitive defaults)) :
    special.args = element.args ∧
      (∀ key, element.attributes.contains key = true → special.attributes.contains key = true) ∧
      ∃ tree next flow, statement t.name code state = .done tree next ∧
        exec budget ⟨state.store.scopes.size⟩ tree (scriptStore (.primitive defaults) state.store args element) =
          .done flow after.store ∧
        (tree.FieldFree → (scriptStore (.primitive defaults) state.store args element).FunctionsFieldFree
          ⟨state.store.scopes.size⟩ → special.attributes = element.attributes) := by
  obtain ⟨found, tree, next, flow, type, gives, _, ran, rfl⟩ := specializeElementEnds ended script
  cases primitive.symm.trans type
  have left : (exec budget ⟨state.store.scopes.size⟩ tree
      (scriptStore (.primitive defaults) state.store args element)).state? = some after.store := by rw [ran]; rfl
  have before := bindThisAttributes defaults ⟨state.store.scopes.size⟩ element (state.store.arguments (some args))
  refine ⟨rfl, fun key had => execKeysKept left ?_, tree, next, flow, gives, ran, fun free functions => ?_⟩
  · unfold scriptStore
    rwa [before]
  · have kept := execKeepsHandles free functions left
    show after.store.attributesOf _ = _
    unfold Store.attributesOf
    rw [kept]
    exact before

end Scripted

theorem unscriptedSame
    (ended : specializeElement budget library t origin args element state = .done special after)
    (script : element.script? = none) : special = element := by
  unfold specializeElement at ended
  rw [script] at ended
  cases ended
  rfl

theorem specialAt {circuit : Circuit} {k : Nat}
    (ended : specialize budget library t origin args state = .done circuit after)
    (placed : t.circuit.elements[k]? = some element) (found : circuit.elements[k]? = some special) :
    ∃ earlier met middle,
      specializeAll budget library t origin args (t.circuit.unresolved.elements.take k) state = .done earlier met ∧
      specializeElement budget library t origin args { element with args := none } met = .done special middle := by
  obtain ⟨specials, last, all, ended⟩ := Action.bindDone ended
  cases ended
  have copied : t.circuit.unresolved.elements[k]? = some { element with args := none } := by
    simp [Circuit.unresolved, placed]
  obtain ⟨inside, here⟩ := List.getElem?_eq_some_iff.mp copied
  obtain ⟨earlier, met, own, middle, later, begins, ran, length, rfl⟩ := specializeAllAt inside all
  have same : own = special := by simpa [← length] using found
  exact ⟨earlier, met, middle, begins, by rw [← same, ← here]; exact ran⟩

end Build

open Build

variable {budget : Nat} {library : Library} {t : Template} {origin : String} {args : ScopeId}
variable {state after : BuildState} {circuit : Circuit}

/-- A specialized circuit has the origin, the attributes and the elements of the template's circuit, in the same order
and of the same types. Elements without a script and custom elements have their attributes, and just the custom
elements with a script have arguments, the scope that the script ran in. No element loses an attribute. The script of
a primitive element changes none either, unless it or a function that it can get at assigns to a field. -/
theorem specializingKeepsTheSkeleton
    (ended : specialize budget library t origin args state = .done circuit after) :
    circuit.origin = t.circuit.origin ∧ circuit.attributes = t.circuit.attributes ∧
    circuit.elements.map (·.typeName) = t.circuit.elements.map (·.typeName) ∧
    ∀ (k : Nat) (element special : Element), t.circuit.elements[k]? = some element →
      circuit.elements[k]? = some special →
      (element.script? = none → special.attributes = element.attributes) ∧
      ((∃ inner, library.get? element.typeName = some (.custom inner)) →
        special.attributes = element.attributes) ∧
      (special.args.isSome = true ↔ element.script?.isSome = true ∧
        ∃ inner, library.get? element.typeName = some (.custom inner)) ∧
      (∀ key, element.attributes.contains key = true → special.attributes.contains key = true) ∧
      ∀ code found, element.script? = some code → library.get? element.typeName = some found →
        ∃ earlier met tree next flow left,
          specializeAll budget library t origin args (t.circuit.unresolved.elements.take k) state =
            .done earlier met ∧
          statement t.name code met = .done tree next ∧ (state.Faithful → parseCode code = .ok tree) ∧
          exec budget ⟨met.store.scopes.size⟩ tree (scriptStore found met.store args element) = .done flow left ∧
          (∀ scope ∈ special.args, scope = ⟨met.store.scopes.size⟩) ∧
          ∀ defaults, found = .primitive defaults → tree.FieldFree →
            (scriptStore found met.store args element).FunctionsFieldFree ⟨met.store.scopes.size⟩ →
            special.attributes = element.attributes := by
  have names := specializeNames ended
  have kept : circuit.origin = t.circuit.origin ∧ circuit.attributes = t.circuit.attributes := by
    obtain ⟨specials, last, _, ended⟩ := Action.bindDone ended
    cases ended
    exact ⟨rfl, rfl⟩
  refine ⟨kept.1, kept.2, names, fun k element special placed found => ?_⟩
  obtain ⟨earlier, met, middle, begins, ran⟩ := specialAt ended placed found
  cases script : element.script? with
  | none =>
    cases unscriptedSame ran script
    exact ⟨fun _ => rfl, fun _ => rfl, by simp, fun _ had => had, fun _ _ scripted => (by cases scripted)⟩
  | some code =>
    have parsed {tree : Stmt} {next : BuildState} (gives : statement t.name code met = .done tree next)
        (faithful : state.Faithful) : parseCode code = .ok tree :=
      (statementDone (specializeAllFaithful faithful begins) gives).1
    rcases scriptedType ran script with ⟨inner, custom⟩ | ⟨defaults, primitive⟩
    · obtain ⟨same, tree, next, flow, gives, runs⟩ := customAfterScript ran script custom
      cases same
      refine ⟨fun none => (by cases none), fun _ => rfl, ?_, fun _ had => had, fun code' found' same type => ?_⟩
      · exact ⟨fun _ => ⟨rfl, inner, custom⟩, fun _ => rfl⟩
      · cases same
        cases custom.symm.trans type
        refine ⟨earlier, met, tree, next, flow, _, begins, gives, parsed gives, runs, ?_, fun _ same => ?_⟩
        · rintro _ ⟨⟩
          rfl
        · cases same
    · obtain ⟨none, keys, tree, next, flow, gives, runs, untouched⟩ := primitiveAfterScript ran script primitive
      have notCustom : ¬∃ inner, library.get? element.typeName = some (.custom inner) := by
        rintro ⟨inner, custom⟩
        cases primitive.symm.trans custom
      refine ⟨fun none => (by cases none), fun custom => absurd custom notCustom, ?_, keys, ?_⟩
      · rw [none]
        exact ⟨fun some => (by cases some), fun scripted => absurd scripted.2 notCustom⟩
      · intro code' found' same type
        cases same
        cases primitive.symm.trans type
        refine ⟨earlier, met, tree, next, flow, _, begins, gives, parsed gives, runs, ?_, fun _ _ => untouched⟩
        rw [none]
        rintro _ ⟨⟩

def doublingArguments : Element :=
  ⟨"mixed.dig", Table.empty.insert Attributes.scriptKey (.str "func twice(x) return x * 2;"), none⟩

def mixedTypes : Library := registerTypes.insert "pair.dig" (.custom (registers []))

def threeBits (code : String) : Element :=
  ⟨"Register", (Table.empty.insert Attributes.scriptKey (.str code)).insert "Bits" (.int 3), none⟩

def mixed : Template :=
  ⟨"mixed.dig", ⟨"mixed.dig", Table.empty.insert Attributes.isGenericKey (.bool true),
    [threeBits "x := args.twice(this.Bits);",
      fourWide,
      threeBits "this.Bits = args.twice(this.Bits);"]⟩, none⟩

-- The first script calls a function of the arguments; the last one assigns to a field.
def mixedBits? : Option (List (Option Int64)) :=
  match resolveArgs 20 mixed (some doublingArguments) none .empty with
  | .done args begun =>
    match specialize 20 mixedTypes mixed "" args begun with
    | .done circuit _ =>
      if begun.store.closures.all fun closure => Part.fieldFreeWithin 10 (.stmt closure.body) then
        some (circuit.elements.map fun element => Attributes.int? element.attributes "Bits")
      else none
    | _ => none
  | _ => none

theorem mixedSpecialized :
    ∃ args begun circuit after, resolveArgs 20 mixed (some doublingArguments) none .empty = .done args begun ∧
      specialize 20 mixedTypes mixed "" args begun = .done circuit after ∧
      (∀ closure ∈ begun.store.closures, closure.body.FieldFree) ∧
      circuit.elements.map (fun element => Attributes.int? element.attributes "Bits") = [some 3, none, some 6] := by
  have bits : mixedBits? = some [some 3, none, some 6] := by decide +kernel
  unfold mixedBits? at bits
  split at bits
  · rename_i args begun resolved
    split at bits
    · rename_i circuit after ended
      split at bits
      · rename_i tested
        refine ⟨args, begun, circuit, after, resolved, ended, fun closure member => ?_, Option.some.inj bits⟩
        obtain ⟨i, inside, rfl⟩ := Array.mem_iff_getElem.mp member
        exact Part.fieldFreeOfTest (Array.all_eq_true.mp tested i inside)
      · cases bits
    · cases bits
  · cases bits

theorem scriptFieldFree {code : String} {tree : Stmt} (parsed : parseCode code = .ok tree)
    (tested : (parseCode code).toOption.all (fun tree => Part.fieldFreeWithin 10 (.stmt tree)) = true) :
    tree.FieldFree := by
  rw [parsed] at tested
  exact Part.fieldFreeOfTest tested

theorem bindThisClosures (found : ElementType) (scope : ScopeId) (element : Element) (store : Store) :
    (bindThis found scope element store).closures = store.closures := by
  cases found <;> rfl

theorem scriptStoreClosures (found : ElementType) (store : Store) (args : ScopeId) (element : Element) :
    (scriptStore found store args element).closures = store.closures := by
  unfold scriptStore
  rw [bindThisClosures]
  unfold Store.arguments Store.installStandard Store.bind Store.updateScope
  dsimp only
  rw [Store.closuresBindAll]
  rfl

theorem mixedKeepsTheSkeleton :
    ∃ args begun circuit after special placed scope met tree flow left,
      specialize 20 mixedTypes mixed "" args begun = .done circuit after ∧
      circuit.elements.map (·.typeName) = ["Register", "pair.dig", "Register"] ∧
      circuit.elements.map (·.args.isSome) = [false, true, false] ∧
      circuit.elements[0]? = some special ∧
      special.attributes = (threeBits "x := args.twice(this.Bits);").attributes ∧
      circuit.elements[1]? = some placed ∧ placed.args = some scope ∧
      parseCode "width := 4;" = .ok tree ∧
      exec 20 scope tree (scriptStore (.custom (registers [])) met args fourWide) = .done flow left := by
  obtain ⟨args, begun, circuit, after, resolved, ended, free, bits⟩ := mixedSpecialized
  obtain ⟨_, _, names, each⟩ := specializingKeepsTheSkeleton ended
  have three : circuit.elements.length = 3 := by
    have same := congrArg List.length names
    simp only [List.length_map] at same
    exact same
  obtain ⟨first, second, third, listed⟩ := List.length_eq_three.mp three
  rw [listed] at each
  have faithful := (Build.soundArguments emptySound (by simp [doublingArguments]) (by simp) resolved).1.faithful
  obtain ⟨_, _, bare, _, untouched⟩ := each 0 _ first rfl rfl
  obtain ⟨_, _, given, _, ran⟩ := each 1 _ second rfl rfl
  obtain ⟨_, _, bare', _, _⟩ := each 2 _ third rfl rfl
  have pair : second.args.isSome = true := given.mpr ⟨by decide +kernel, _, rfl⟩
  have register {special : Element} {code : String} (only : special.args.isSome = true ↔
      (threeBits code).script?.isSome = true ∧ ∃ inner, mixedTypes.get? "Register" = some (.custom inner)) :
      special.args.isSome = false := by
    refine Bool.eq_false_iff.mpr fun some => ?_
    obtain ⟨_, inner, custom⟩ := only.mp some
    cases custom
  obtain ⟨_, _, _, _, _, _, begins, _, parsed, _, _, same⟩ :=
    untouched "x := args.twice(this.Bits);" (.primitive .empty) (by decide +kernel) rfl
  cases begins
  obtain ⟨scope, carried⟩ := Option.isSome_iff_exists.mp pair
  obtain ⟨_, met, tree, _, flow, left, _, _, parsed', runs, own, _⟩ :=
    ran "width := 4;" (.custom (registers [])) (by decide +kernel) rfl
  cases own scope carried
  refine ⟨args, begun, circuit, after, first, second, _, met.store, tree, flow, left, ended, names, ?_,
    by rw [listed]; rfl, same .empty rfl ?_ ?_, by rw [listed]; rfl, carried, parsed' faithful, runs⟩
  · simp [listed, register bare, pair, register bare']
  · exact scriptFieldFree (parsed faithful) (by decide +kernel)
  · intro id closure _ there
    unfold Store.closure? at there
    rw [scriptStoreClosures] at there
    exact free closure (Array.mem_of_getElem? there)

end CircuitScript
