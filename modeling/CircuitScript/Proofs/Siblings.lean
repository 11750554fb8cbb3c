import CircuitScript.Proofs.Builds

/-! The scripts of the elements of one circuit run in order, each in a scope of its own, against the same
arguments. What a script makes of its element does not depend on the scripts after it, and on those
before it only as far as they have changed what the arguments give access to. -/
namespace CircuitScript

def Element.blanked (element : Element) : Element :=
  { element with attributes := element.attributes.insert Attributes.scriptKey (.str "") }

theorem Element.blankedScript (element : Element) : element.blanked.script? = none := by
  unfold Element.script? Attributes.str? Element.blanked
  rw [Table.getInsert, if_pos rfl]
  rfl

def keeping (keep : Nat → Bool) (elements : List Element) : List Element :=
  elements.mapIdx fun i element => if keep i then element else element.blanked

/-- The template in which only the elements at some positions have kept their scripts. -/
def Template.keeping (t : Template) (keep : Nat → Bool) : Template :=
  { t with circuit := { t.circuit with elements := CircuitScript.keeping keep t.circuit.elements } }

section Keeping

variable {keep : Nat → Bool} {elements : List Element}

theorem keepingAll (kept : ∀ i < elements.length, keep i = true) : keeping keep elements = elements := by
  refine List.ext_getElem (by simp [keeping]) fun i _ inside => ?_
  simp [keeping, kept i inside]

theorem keepingNone (left : ∀ i < elements.length, keep i = false) :
    keeping keep elements = elements.map Element.blanked := by
  refine List.ext_getElem (by simp [keeping]) fun i inside _ => ?_
  rw [keeping, List.length_mapIdx] at inside
  simp [keeping, left i inside]

theorem keepingAt {k : Nat} (inside : k < elements.length) (here : keep k = true)
    (later : ∀ i, k < i → keep i = false) :
    keeping keep elements = keeping keep (elements.take k) ++
      elements[k] :: (elements.drop (k + 1)).map Element.blanked := by
  have none : keeping (fun i => keep (i + 1 + k)) (elements.drop (k + 1)) =
      (elements.drop (k + 1)).map Element.blanked :=
    keepingNone fun i _ => later _ (by omega)
  conv => lhs; rw [← List.take_append_drop k elements, List.drop_eq_getElem_cons inside]
  unfold keeping at none ⊢
  rw [List.mapIdx_append, List.length_take_of_le (Nat.le_of_lt inside), List.mapIdx_cons, none,
    Nat.zero_add, here]
  rfl

theorem keepingUnresolved (t : Template) (keep : Nat → Bool) :
    (t.keeping keep).circuit.unresolved.elements = keeping keep t.circuit.unresolved.elements := by
  refine List.ext_getElem (by simp [Template.keeping, Circuit.unresolved, keeping]) fun i _ _ => ?_
  simp only [Template.keeping, Circuit.unresolved, keeping, List.getElem_map, List.getElem_mapIdx]
  cases keep i <;> rfl

end Keeping

namespace Build

variable {budget : Nat} {library : Library} {t : Template} {origin : String} {args : ScopeId}
variable {state after : BuildState}

theorem specializeAllAppend {first second specials : List Element} :
    specializeAll budget library t origin args (first ++ second) state = .done specials after ↔
      ∃ earlier middle later,
        specializeAll budget library t origin args first state = .done earlier middle ∧
        specializeAll budget library t origin args second middle = .done later after ∧
        specials = earlier ++ later := by
  induction first generalizing state specials with
  | nil =>
    constructor
    · exact fun ended => ⟨[], state, specials, rfl, ended, rfl⟩
    · rintro ⟨_, _, _, ⟨⟩, ended, rfl⟩
      exact ended
  | cons element rest ih =>
    constructor
    · intro ended
      obtain ⟨special, s₁, own, ended⟩ := Action.bindDone ended
      obtain ⟨others, s₂, more, ended⟩ := Action.bindDone ended
      cases ended
      obtain ⟨earlier, middle, later, begins, ends, rfl⟩ := ih.mp more
      exact ⟨special :: earlier, middle, later, Action.thenDone own (Action.thenDone begins rfl),
        ends, rfl⟩
    · rintro ⟨earlier, middle, later, begins, ends, rfl⟩
      obtain ⟨special, s₁, own, begins⟩ := Action.bindDone begins
      obtain ⟨others, s₂, more, begins⟩ := Action.bindDone begins
      cases begins
      have together := ih.mpr ⟨others, _, later, more, ends, rfl⟩
      exact Action.thenDone own (Action.thenDone together rfl)

theorem specializeAllCons {element : Element} {rest specials : List Element} :
    specializeAll budget library t origin args (element :: rest) state = .done specials after ↔
      ∃ special middle others,
        specializeElement budget library t origin args element state = .done special middle ∧
        specializeAll budget library t origin args rest middle = .done others after ∧
        specials = special :: others := by
  constructor
  · intro ended
    obtain ⟨special, s₁, own, ended⟩ := Action.bindDone ended
    obtain ⟨others, s₂, more, ended⟩ := Action.bindDone ended
    cases ended
    exact ⟨special, s₁, others, own, more, rfl⟩
  · rintro ⟨special, middle, others, own, more, rfl⟩
    exact Action.thenDone own (Action.thenDone more rfl)

-- Of a template, specializing reads the name alone.
theorem specializeAllNamed {other : Template} (named : other.name = t.name) (elements : List Element) :
    specializeAll budget library other origin args elements =
      specializeAll budget library t origin args elements := by
  have each (element : Element) : specializeElement budget library other origin args element =
      specializeElement budget library t origin args element := by
    unfold specializeElement
    rw [named]
  induction elements with
  | nil => rfl
  | cons element rest ih => rw [specializeAll, specializeAll, each, ih]

theorem specializeAllAt {elements specials : List Element} {k : Nat} (inside : k < elements.length)
    (ended : specializeAll budget library t origin args elements state = .done specials after) :
    ∃ earlier met special middle later,
      specializeAll budget library t origin args (elements.take k) state = .done earlier met ∧
      specializeElement budget library t origin args elements[k] met = .done special middle ∧
      earlier.length = k ∧ specials = earlier ++ special :: later := by
  rw [← List.take_append_drop k elements, List.drop_eq_getElem_cons inside] at ended
  obtain ⟨earlier, met, rest, begins, ends, rfl⟩ := specializeAllAppend.mp ended
  obtain ⟨special, middle, later, own, _, rfl⟩ := specializeAllCons.mp ends
  have length : earlier.length = (elements.take k).length := by
    simpa using congrArg List.length (specializeAllNames begins)
  rw [List.length_take_of_le (Nat.le_of_lt inside)] at length
  exact ⟨earlier, met, special, middle, later, begins, own, length, rfl⟩

theorem specializeBlanked (elements : List Element) (state : BuildState) :
    specializeAll budget library t origin args (elements.map Element.blanked) state =
      .done (elements.map Element.blanked) state := by
  induction elements with
  | nil => rfl
  | cons element rest ih =>
    refine Action.thenDone ?_ (Action.thenDone ih rfl)
    unfold specializeElement
    rw [element.blankedScript]
    rfl

def PlacesPrimitives (library : Library) (elements : List Element) : Prop :=
  ∀ element ∈ elements, ∃ defaults, library.get? element.typeName = some (.primitive defaults)

def nodeAt (library : Library) (netList : NetList) (position : Nat) (element : Element) : Node :=
  let defaults : Attributes := match library.get? element.typeName with
    | some (.primitive defaults) => defaults
    | _ => .empty
  ⟨netList.qualify (element.instanceName position), element.typeName,
    defaults.overlay element.attributes⟩

theorem realizePrimitives {expand : Expand} {netList : NetList} {around : Option ScopeId}
    {elements : List Element} (primitives : PlacesPrimitives library elements) (position : Nat) :
    realize library expand netList around position elements state =
      .done (elements.mapIdx fun i => nodeAt library netList (position + i)) state := by
  induction elements generalizing position with
  | nil => rfl
  | cons element rest ih =>
    obtain ⟨defaults, found⟩ := primitives element List.mem_cons_self
    have own : elementNodes library expand netList around position element state =
        .done [nodeAt library netList position element] state := by
      unfold elementNodes nodeAt
      rw [found]
      rfl
    have others := ih (fun other member => primitives other (List.mem_cons_of_mem _ member))
      (position + 1)
    rw [realizeCons, List.mapIdx_cons]
    refine Action.thenDone own (Action.thenDone others ?_)
    simp only [Nat.add_assoc, Nat.add_comm 1]
    rfl

variable {levels : Nat} {parent : Option NetList} {name : String} {placing : Option Element}
variable {enclosing : Option ScopeId} {model : Model}

-- A script can change any attribute of its element, but not the type.
theorem specialsPrimitive (primitives : PlacesPrimitives library t.circuit.elements)
    {specials : List Element}
    (ended : specializeAll budget library t origin args t.circuit.unresolved.elements state =
      .done specials after) : PlacesPrimitives library specials := by
  intro special member
  have names := specializeAllNames ended
  have here : special.typeName ∈ t.circuit.unresolved.elements.map (·.typeName) :=
    names ▸ List.mem_map_of_mem member
  simp only [Circuit.unresolved, List.map_map, List.mem_map, Function.comp_apply] at here
  obtain ⟨element, placed, same⟩ := here
  exact same ▸ primitives element placed

theorem primitiveBuild (generic : t.isGeneric = true)
    (primitives : PlacesPrimitives library t.circuit.elements) :
    instantiate budget library (levels + 1) parent name t placing enclosing state = .done model after ↔
      ∃ args begun specials,
        resolveArgs budget t placing enclosing state = .done args begun ∧
        specializeAll budget library t (standing parent name t).describe args
          t.circuit.unresolved.elements begun = .done specials after ∧
        model = ⟨standing parent name t, maxDepth - levels, some args,
          specials.mapIdx (nodeAt library (standing parent name t))⟩ := by
  rw [instantiateGeneric generic]
  have nodes {specials : List Element} {begun final : BuildState} {args : ScopeId}
      (special : specializeAll budget library t (standing parent name t).describe args
        t.circuit.unresolved.elements begun = .done specials final) :
      realize library (expandInside budget library levels) (standing parent name t) (some args) 0
        specials final = .done (specials.mapIdx (nodeAt library (standing parent name t))) final := by
    rw [realizePrimitives (specialsPrimitive primitives special)]
    simp only [Nat.zero_add]
  constructor
  · intro ended
    obtain ⟨args, begun, resolved, ended⟩ := Action.bindDone ended
    obtain ⟨circuit, final, special, ended⟩ := Action.bindDone ended
    obtain ⟨specials, s, special, same⟩ := Action.bindDone special
    cases same
    obtain ⟨found, s, realized, ended⟩ := Action.bindDone ended
    cases (nodes special).symm.trans realized
    cases ended
    exact ⟨args, begun, specials, Action.mapErrorDone.mp resolved, special, rfl⟩
  · rintro ⟨args, begun, specials, resolved, special, rfl⟩
    refine Action.thenDone (Action.mapErrorDone.mpr resolved) ?_
    exact Action.thenDone (Action.thenDone special rfl) (Action.thenDone (nodes special) rfl)

theorem keepingBuild (generic : t.isGeneric = true)
    (primitives : PlacesPrimitives library t.circuit.elements) {keep : Nat → Bool}
    {begun : BuildState} {specials : List Element}
    (resolved : resolveArgs budget t placing enclosing state = .done args begun)
    (special : specializeAll budget library t (standing parent name t).describe args
      (keeping keep t.circuit.unresolved.elements) begun = .done specials after) :
    ∃ model, instantiate budget library (levels + 1) parent name (t.keeping keep) placing enclosing
        state = .done model after ∧
      model.nodes = specials.mapIdx (nodeAt library (standing parent name t)) := by
  have placed : PlacesPrimitives library (t.keeping keep).circuit.elements := by
    intro element member
    obtain ⟨i, inside, rfl⟩ := List.mem_mapIdx.mp member
    have known := primitives _ (List.getElem_mem inside)
    split
    · exact known
    · exact known
  refine ⟨_, (primitiveBuild (t := t.keeping keep) generic placed).mpr
    ⟨args, begun, specials, resolved, ?_, rfl⟩, rfl⟩
  have named : (t.keeping keep).name = t.name := rfl
  rw [keepingUnresolved, specializeAllNamed named]
  exact special

/-- A script runs as it would if it were the first, as long as the ones before it have left the things
that were there when the arguments were resolved. -/
theorem specializeUndisturbed {begun met : BuildState} (sound : begun.Sound) (faithful : met.Faithful)
    (kept : begun.store.Kept met.store) (there : args.index < begun.store.scopes.size)
    {element special : Element} (unresolved : element.args = none)
    (ended : specializeElement budget library t origin args element met = .done special after) :
    ∃ alone final, specializeElement budget library t origin args element begun = .done alone final ∧
      ∀ netList position, nodeAt library netList position alone =
        nodeAt library netList position special := by
  let S := (Shift.between begun.store met.store).builds
  have mirrors : Mirrors S begun met := ⟨sound.closed.between kept, sound.faithful, faithful⟩
  have own : element.argsHeld ⊆ [Value.scope args] := by
    unfold Element.argsHeld
    rw [unresolved]
    exact List.nil_subset _
  have agreed : Matches S begun Element.argsHeld (Element.moved S.places)
      (specializeElement budget library t origin args element begun)
      (specializeElement budget library t origin (S.places.scope args) (element.moved S.places) met) :=
    agreeSpecializeElement t origin (List.mem_singleton_self _) own begun met mirrors
      fun _ _ => trivial
  -- Neither the arguments nor the element lie where something was added.
  rw [show S.places.scope args = args from scopeMoved there met.store,
    Element.movedUnresolved unresolved, ended] at agreed
  generalize specializeElement budget library t origin args element begun = outcome at agreed ⊢
  cases agreed with
  | done alone grown mirrors ok => exact ⟨alone, _, rfl, fun _ _ => rfl⟩

theorem keepingUntil {elements earlier : List Element} {special : Element} {k : Nat}
    {met : BuildState} (inside : k < elements.length)
    (begins : specializeAll budget library t origin args (elements.take k) state = .done earlier met)
    (own : specializeElement budget library t origin args elements[k] met = .done special after) :
    ∃ later, specializeAll budget library t origin args (keeping (· ≤ k) elements) state =
      .done (earlier ++ special :: later) after := by
  have all : keeping (· ≤ k) (elements.take k) = elements.take k := by
    refine keepingAll fun i before => decide_eq_true ?_
    rw [List.length_take] at before
    omega
  rw [keepingAt inside (by simp) fun i behind => decide_eq_false (by omega), all]
  exact ⟨_, specializeAllAppend.mpr ⟨earlier, met, _, begins,
    specializeAllCons.mpr ⟨special, after, _, own, specializeBlanked _ _, rfl⟩, rfl⟩⟩

theorem keepingOnly {elements : List Element} {special : Element} {k : Nat}
    (inside : k < elements.length)
    (own : specializeElement budget library t origin args elements[k] state = .done special after) :
    ∃ earlier later, specializeAll budget library t origin args (keeping (· == k) elements) state =
      .done (earlier ++ special :: later) after ∧ earlier.length = k := by
  have none : keeping (· == k) (elements.take k) = (elements.take k).map Element.blanked := by
    refine keepingNone fun i before => beq_false_of_ne ?_
    rw [List.length_take] at before
    omega
  rw [keepingAt inside (by simp) fun i behind => beq_false_of_ne (by omega), none]
  refine ⟨_, _, specializeAllAppend.mpr ⟨_, state, _, specializeBlanked _ _,
    specializeAllCons.mpr ⟨special, after, _, own, specializeBlanked _ _, rfl⟩, rfl⟩, ?_⟩
  rw [List.length_map, List.length_take_of_le (Nat.le_of_lt inside)]

theorem nodeOfSpecial {netList : NetList} {earlier later : List Element} (special : Element) :
    ((earlier ++ special :: later).mapIdx (nodeAt library netList))[earlier.length]? =
      some (nodeAt library netList earlier.length special) := by
  simp

theorem soundArguments {begun : BuildState} (sound : state.Sound)
    (placed : ∀ scope ∈ placing.bind Element.args, scope.index < state.store.scopes.size)
    (around : ∀ scope ∈ enclosing, scope.index < state.store.scopes.size)
    (resolved : resolveArgs budget t placing enclosing state = .done args begun) :
    begun.Sound ∧ args.index < begun.store.scopes.size := by
  have there : ∀ v ∈ scopeHeld (placing.bind Element.args) ++ scopeHeld enclosing,
      v.There state.store := by
    intro v member
    rcases List.mem_append.mp member with own | outer
    · obtain ⟨scope, found, rfl⟩ := Option.map_eq_some_iff.mp (Option.mem_toList.mp own)
      exact placed scope found
    · obtain ⟨scope, found, rfl⟩ := Option.map_eq_some_iff.mp (Option.mem_toList.mp outer)
      exact around scope found
  obtain ⟨sound, _, held⟩ := (agreeResolveArgs budget t (List.subset_append_left _ _)
    (List.subset_append_right _ _)).sound sound there resolved
  exact ⟨sound, held (.scope args) (List.mem_singleton_self _)⟩

theorem soundSpecials {begun : BuildState} (sound : begun.Sound)
    (there : args.index < begun.store.scopes.size) {elements specials : List Element}
    (unresolved : ∀ element ∈ elements, element.args = none)
    (ended : specializeAll budget library t origin args elements begun = .done specials after) :
    after.Sound := by
  have own : elements.flatMap Element.argsHeld ⊆ [Value.scope args] := by
    have none : Circuit.Unresolved ⟨origin, .empty, elements⟩ := unresolved
    rw [none.argsHeld]
    exact List.nil_subset _
  have held : ∀ v ∈ [Value.scope args], v.There begun.store := by
    intro v member
    cases List.mem_singleton.mp member
    exact there
  exact ((agreeSpecializeAll t origin (List.mem_singleton_self _) own).sound sound held ended).1

/-- The scripts before a position leave everything that is there once the arguments are resolved as it
is. -/
def EarlierKeep (budget : Nat) (library : Library) (parent : Option NetList) (name : String)
    (t : Template) (placing : Option Element) (enclosing : Option ScopeId) (k : Nat)
    (state : BuildState) : Prop :=
  ∃ args begun earlier met,
    resolveArgs budget t placing enclosing state = .done args begun ∧
    specializeAll budget library t (standing parent name t).describe args
      (t.circuit.unresolved.elements.take k) begun = .done earlier met ∧
    begun.store.Kept met.store

end Build

open Build

variable {budget levels : Nat} {library : Library} {parent : Option NetList} {name : String}
variable {t : Template} {placing : Option Element} {enclosing : Option ScopeId}
variable {state final : BuildState} {model : Model}

theorem siblingsMeetInTheirArguments (generic : t.isGeneric = true)
    (primitives : PlacesPrimitives library t.circuit.elements) (sound : state.Sound)
    (placed : ∀ scope ∈ placing.bind Element.args, scope.index < state.store.scopes.size)
    (around : ∀ scope ∈ enclosing, scope.index < state.store.scopes.size)
    (built : instantiate budget library levels parent name t placing enclosing state =
      .done model final) :
    final.Sound ∧ model.nodes.length = t.circuit.elements.length ∧
    ∀ k < t.circuit.elements.length, ∃ node, model.nodes[k]? = some node ∧
      (∃ other after, instantiate budget library levels parent name (t.keeping (· ≤ k)) placing
          enclosing state = .done other after ∧ other.nodes[k]? = some node) ∧
      (EarlierKeep budget library parent name t placing enclosing k state →
        ∃ other after, instantiate budget library levels parent name (t.keeping (· == k)) placing
          enclosing state = .done other after ∧ other.nodes[k]? = some node) := by
  cases levels with
  | zero => cases built
  | succ levels =>
    obtain ⟨args, begun, specials, resolved, special, rfl⟩ := (primitiveBuild generic primitives).mp built
    obtain ⟨soundBegun, there⟩ := soundArguments sound placed around resolved
    have unresolved := copyUnresolved t.circuit
    have count : t.circuit.unresolved.elements.length = t.circuit.elements.length :=
      List.length_map _
    have length : specials.length = t.circuit.elements.length := by
      simpa [count] using congrArg List.length (specializeAllNames special)
    refine ⟨soundSpecials soundBegun there unresolved special, by simp [length], ?_⟩
    intro k inside
    have inside := count ▸ inside
    obtain ⟨earlier, met, own, middle, later, begins, ran, rfl, rfl⟩ := specializeAllAt inside special
    refine ⟨_, nodeOfSpecial own, ?_, ?_⟩
    · obtain ⟨blanked, kept⟩ := keepingUntil inside begins ran
      obtain ⟨other, builds, nodes⟩ := keepingBuild generic primitives resolved kept
      exact ⟨other, middle, builds, nodes ▸ nodeOfSpecial own⟩
    · rintro ⟨_, _, _, _, again, once, kept⟩
      cases resolved.symm.trans again
      cases begins.symm.trans once
      have soundMet := soundSpecials soundBegun there
        (fun element member => unresolved element (List.mem_of_mem_take member)) begins
      obtain ⟨alone, after, ran, same⟩ := specializeUndisturbed soundBegun soundMet.faithful kept there
        (unresolved _ (List.getElem_mem inside)) ran
      obtain ⟨before, blanked, only, length⟩ := keepingOnly inside ran
      obtain ⟨other, builds, nodes⟩ := keepingBuild generic primitives resolved only
      refine ⟨other, after, builds, ?_⟩
      rw [nodes, ← length, nodeOfSpecial, same]

def registers (scripts : List String) : Template :=
  ⟨"pair.dig", ⟨"pair.dig", Table.empty.insert Attributes.isGenericKey (.bool true),
    scripts.map fun code => ⟨"Register", Table.empty.insert Attributes.scriptKey (.str code), none⟩⟩,
    none⟩

def registerTypes : Library := Table.empty.insert "Register" (.primitive .empty)

theorem registersPrimitive (scripts : List String) :
    PlacesPrimitives registerTypes (registers scripts).circuit.elements := by
  intro element member
  obtain ⟨code, _, rfl⟩ := List.mem_map.mp member
  exact ⟨.empty, by simp [registerTypes]⟩

def fourWide : Element :=
  ⟨"pair.dig", Table.empty.insert Attributes.scriptKey (.str "width := 4;"), none⟩

def registersBuilt (t : Template) : Outcome BuildState NodeError Model :=
  instantiate 20 registerTypes 1 none "" t (some fourWide) none .empty

def bitsAt? (built : Outcome BuildState NodeError Model) (k : Nat) : Option Int64 :=
  match built with
  | .done model _ => model.nodes[k]?.bind fun node => Attributes.int? node.attributes "Bits"
  | _ => none

theorem bitsBuilt {built : Outcome BuildState NodeError Model} {k : Nat} {bits : Int64}
    (found : bitsAt? built k = some bits) : ∃ model final, built = .done model final := by
  cases built with
  | done model final => exact ⟨model, final, rfl⟩
  | failed e final => cases found
  | spent => cases found

-- The first script reads the arguments and changes nothing but its own element.
def readingRegisters : Template := registers ["this.Bits = args.width;", "this.Bits = args.width * 2;"]

-- The first script changes the arguments.
def writingRegisters : Template := registers ["args.width = 8;", "this.Bits = args.width;"]

-- The store once the arguments are resolved, and once the first script has run.
def readingStores? : Option (Store × Store) :=
  match resolveArgs 20 readingRegisters (some fourWide) none .empty with
  | .done args begun =>
    match specializeAll 20 registerTypes readingRegisters
      (standing none "" readingRegisters).describe args
      (readingRegisters.circuit.unresolved.elements.take 1) begun with
    | .done _ met => some (begun.store, met.store)
    | _ => none
  | _ => none

theorem keptRow {α : Type} {row later : Array α} (same : ∀ i < row.size, later[i]? = row[i]?) (i : Nat)
    (a : α) (found : row[i]? = some a) : later[i]? = some a := by
  obtain ⟨inside, _⟩ := Array.getElem?_eq_some_iff.mp found
  rw [same i inside, found]

theorem readingKeeps :
    EarlierKeep 20 registerTypes none "" readingRegisters (some fourWide) none 1 .empty := by
  -- At first there is only the scope of the arguments.
  have counts : readingStores?.map (fun s => (s.1.scopes.size, s.1.lists.size, s.1.maps.size,
      s.1.handles.size, s.1.closures.size, s.2.scopes.size)) = some (1, 0, 0, 0, 0, 2) := by
    decide +kernel
  have scope : readingStores?.map (·.2.scopes[0]?) = readingStores?.map (·.1.scopes[0]?) := by
    decide +kernel
  obtain ⟨⟨first, later⟩, stores, counts⟩ := Option.map_eq_some_iff.mp counts
  have kept : first.Kept later := by
    rw [stores] at scope
    simp only [Option.map_some, Option.some.injEq, Prod.mk.injEq] at counts scope
    obtain ⟨scopes, lists, maps, handles, closures, scopes'⟩ := counts
    refine ⟨⟨by omega, by omega, by omega, by omega, by omega⟩, keptRow ?_, keptRow ?_, keptRow ?_,
      keptRow ?_, keptRow ?_⟩
    · intro i inside
      obtain rfl : i = 0 := by omega
      exact scope
    all_goals
      intro i inside
      omega
  unfold readingStores? at stores
  split at stores
  · rename_i args begun resolved
    split at stores
    · rename_i earlier met begins
      cases stores
      exact ⟨args, begun, earlier, met, resolved, begins, kept⟩
    · cases stores
  · cases stores

theorem readingRegistersStayApart :
    PlacesPrimitives registerTypes readingRegisters.circuit.elements ∧ BuildState.empty.Sound ∧
    EarlierKeep 20 registerTypes none "" readingRegisters (some fourWide) none 1 .empty ∧
    bitsAt? (registersBuilt readingRegisters) 1 = some 8 ∧
    bitsAt? (registersBuilt (readingRegisters.keeping (· == 1))) 1 = some 8 := by
  have bits : bitsAt? (registersBuilt readingRegisters) 1 = some 8 := by decide +kernel
  obtain ⟨model, final, built⟩ := bitsBuilt bits
  obtain ⟨_, _, each⟩ := siblingsMeetInTheirArguments (by decide +kernel) (registersPrimitive _)
    emptySound (by simp [fourWide]) (by simp) built
  obtain ⟨node, here, _, alone⟩ := each 1 (by decide)
  obtain ⟨other, after, builds, same⟩ := alone readingKeeps
  refine ⟨registersPrimitive _, emptySound, readingKeeps, bits, ?_⟩
  have value : Attributes.int? node.attributes "Bits" = some 8 := by
    rw [built] at bits
    simpa [bitsAt?, here] using bits
  rw [show registersBuilt (readingRegisters.keeping (· == 1)) = .done other after from builds]
  simp [bitsAt?, same, value]

theorem argumentsAreShared :
    writingRegisters.isGeneric = true ∧
    PlacesPrimitives registerTypes writingRegisters.circuit.elements ∧
    bitsAt? (registersBuilt writingRegisters) 1 = some 8 ∧
    bitsAt? (registersBuilt (writingRegisters.keeping (· == 1))) 1 = some 4 :=
  ⟨by decide +kernel, registersPrimitive _, by decide +kernel, by decide +kernel⟩

end CircuitScript
