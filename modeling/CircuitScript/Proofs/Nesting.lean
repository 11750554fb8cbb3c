import CircuitScript.Proofs.Instance

/-! How deep circuits are nested. An expansion that succeeds shows that every chain of placements below
the template ends before the deepest level. Where no template is generic the converse holds, and a
failure is that of the first faulty element, in the order in which a walk through the circuits meets
them. -/
namespace CircuitScript

def Library.Places (library : Library) (outer inner : Template) : Prop :=
  ∃ element ∈ outer.circuit.elements, library.get? element.typeName = some (.custom inner)

inductive Chain (library : Library) : Nat → Template → Template → Prop where
  | none (t : Template) : Chain library 0 t t
  | place {k : Nat} {outer inner last : Template} (placed : library.Places outer inner)
      (rest : Chain library k inner last) : Chain library (k + 1) outer last

def Library.Knows (library : Library) (t : Template) : Prop :=
  ∀ element ∈ t.circuit.elements, ∃ found, library.get? element.typeName = some found

def Library.NoGenerics (library : Library) : Prop :=
  ∀ (name : String) (t : Template), library.get? name = some (.custom t) → t.isGeneric = false

/-- The element at a row of positions: one in the circuit itself, the next in the circuit placed there,
and so on. -/
inductive PlacedAt (library : Library) : List Element → List Nat → Element → Prop where
  | here {elements : List Element} {i : Nat} {element : Element}
      (found : elements[i]? = some element) : PlacedAt library elements [i] element
  | inside {elements : List Element} {i : Nat} {path : List Nat} {outer element : Element}
      {t : Template} (found : elements[i]? = some outer)
      (custom : library.get? outer.typeName = some (.custom t))
      (rest : PlacedAt library t.circuit.elements path element) :
      PlacedAt library elements (i :: path) element

inductive Fault (library : Library) (depth : Nat) (element : Element) : NodeError → Prop where
  | unknown (missing : library.get? element.typeName = none) :
      Fault library depth element (.elementNotFound element.typeName)
  | tooDeep {t : Template} (custom : library.get? element.typeName = some (.custom t))
      (below : depth = 31) : Fault library depth element (.recursiveNesting t.file)

def Faultless (library : Library) (depth : Nat) (elements : List Element) : Prop :=
  ∀ path element e, PlacedAt library elements path element →
    ¬Fault library (depth + path.length) element e

/-- The first element to fail, in the order of positions, fails so. An element comes before those inside
it. -/
def FirstFault (library : Library) (depth : Nat) (elements : List Element) (e : NodeError) : Prop :=
  ∃ path element, PlacedAt library elements path element ∧
    Fault library (depth + path.length) element e ∧
    ∀ path' element' e', PlacedAt library elements path' element' →
      Fault library (depth + path'.length) element' e' → ¬path' < path

variable {library : Library} {budget k depth : Nat} {t inner : Template}

theorem Chain.append {j : Nat} {a b c : Template} (first : Chain library k a b)
    (second : Chain library j b c) : Chain library (k + j) a c := by
  induction first with
  | none t =>
    rw [Nat.zero_add]
    exact second
  | @place k outer inner last placed rest ih =>
    have longer := Chain.place placed (ih second)
    rwa [Nat.add_right_comm] at longer

theorem Chain.rounds {j : Nat} (circle : Chain library j t t) (n : Nat) :
    Chain library (n * j) t t := by
  induction n with
  | zero =>
    rw [Nat.zero_mul]
    exact .none t
  | succ n ih =>
    rw [Nat.succ_mul]
    exact ih.append circle

theorem noCircle {bound : Nat} (bounded : ∀ k inner, Chain library k t inner → k ≤ bound)
    (chain : Chain library k t inner) (j : Nat) : ¬Chain library (j + 1) inner inner := by
  intro circle
  have long := bounded _ inner (chain.append (circle.rounds (bound + 1)))
  have enough : bound + 1 ≤ (bound + 1) * (j + 1) := Nat.le_mul_of_pos_right _ (Nat.succ_pos j)
  omega

theorem placedChain {path : List Nat} {element : Element} {elements : List Element}
    (placed : PlacedAt library elements path element) (own : t.circuit.elements = elements) :
    ∃ k owner, path.length = k + 1 ∧ Chain library k t owner ∧
      element ∈ owner.circuit.elements := by
  induction placed generalizing t with
  | here found =>
    subst own
    exact ⟨0, t, rfl, .none t, List.mem_of_getElem? found⟩
  | @inside elements i path outer element inner found custom rest ih =>
    subst own
    obtain ⟨k, owner, length, chain, member⟩ := ih rfl
    have placed : library.Places t inner := ⟨outer, List.mem_of_getElem? found, custom⟩
    exact ⟨k + 1, owner, by simp [length], .place placed chain, member⟩

theorem faultlessOfChains (shallow : depth ≤ 30)
    (chains : ∀ k owner, Chain library k t owner → k ≤ 30 - depth ∧ library.Knows owner) :
    Faultless library depth t.circuit.elements := by
  intro path element e placed fault
  obtain ⟨k, owner, length, chain, member⟩ := placedChain placed rfl
  obtain ⟨_, known⟩ := chains k owner chain
  cases fault with
  | unknown missing =>
    obtain ⟨found, there⟩ := known element member
    rw [missing] at there
    cases there
  | @tooDeep inner custom below =>
    have longer := chain.append (.place ⟨element, member, custom⟩ (.none inner))
    have bound := (chains _ inner longer).1
    omega

variable {first element : Element} {rest : List Element} {path : List Nat} {e : NodeError}

theorem placedCases (placed : PlacedAt library (first :: rest) path element) :
    (path = [0] ∧ element = first) ∨
    (∃ t later, path = 0 :: later ∧ library.get? first.typeName = some (.custom t) ∧
      PlacedAt library t.circuit.elements later element) ∨
    ∃ i later, path = (i + 1) :: later ∧ PlacedAt library rest (i :: later) element := by
  cases placed with
  | @here _ i _ found =>
    cases i with
    | zero => exact .inl ⟨rfl, (Option.some.inj found).symm⟩
    | succ i => exact .inr (.inr ⟨i, [], rfl, .here found⟩)
  | @inside _ i later outer _ t found custom inner =>
    cases i with
    | zero =>
      cases found
      exact .inr (.inl ⟨t, later, rfl, custom, inner⟩)
    | succ i => exact .inr (.inr ⟨i, later, rfl, .inside found custom inner⟩)

theorem placedLater {i : Nat} (placed : PlacedAt library rest (i :: path) element) :
    PlacedAt library (first :: rest) ((i + 1) :: path) element := by
  cases placed with
  | here found => exact .here found
  | inside found custom inner => exact .inside found custom inner

theorem depthInside (depth i : Nat) (path : List Nat) :
    depth + (i :: path).length = depth + 1 + path.length := by
  simp only [List.length_cons]
  omega

def FineInside (library : Library) (depth : Nat) (element : Element) : Prop :=
  (∃ found, library.get? element.typeName = some found) ∧
  ∀ t, library.get? element.typeName = some (.custom t) →
    depth + 1 ≠ 31 ∧ Faultless library (depth + 1) t.circuit.elements

theorem FineInside.noFault (fine : FineInside library depth first)
    (placed : PlacedAt library (first :: rest) (0 :: path) element) :
    ¬Fault library (depth + (0 :: path).length) element e := by
  intro fault
  obtain ⟨⟨found, there⟩, inside⟩ := fine
  rcases placedCases placed with ⟨same, rfl⟩ | ⟨t, later, same, custom, inner⟩ | ⟨i, _, same, _⟩
  · cases same
    cases fault with
    | unknown missing =>
      rw [missing] at there
      cases there
    | tooDeep custom below => exact (inside _ custom).1 below
  · cases same
    rw [depthInside] at fault
    exact (inside t custom).2 _ element e inner fault
  · cases same

theorem faultlessCons (fine : FineInside library depth first)
    (others : Faultless library depth rest) : Faultless library depth (first :: rest) := by
  intro path element e placed fault
  rcases placedCases placed with ⟨rfl, _⟩ | ⟨t, later, rfl, _, _⟩ | ⟨i, later, rfl, there⟩
  · exact fine.noFault placed fault
  · exact fine.noFault placed fault
  · exact others _ element e there fault

theorem firstFaultHere (fault : Fault library (depth + 1) first e) :
    FirstFault library depth (first :: rest) e := by
  refine ⟨[0], first, .here rfl, fault, fun path' element' e' placed _ before => ?_⟩
  cases placed with
  | @here _ i _ _ =>
    rcases List.cons_lt_cons_iff.mp before with less | ⟨_, less⟩
    · exact Nat.not_lt_zero i less
    · exact List.not_lt_nil _ less
  | @inside _ i later _ _ _ _ _ _ =>
    rcases List.cons_lt_cons_iff.mp before with less | ⟨_, less⟩
    · exact Nat.not_lt_zero i less
    · exact List.not_lt_nil _ less

theorem firstFaultInside (custom : library.get? first.typeName = some (.custom t))
    (open' : depth + 1 ≠ 31)
    (inside : FirstFault library (depth + 1) t.circuit.elements e) :
    FirstFault library depth (first :: rest) e := by
  obtain ⟨path, element, placed, fault, least⟩ := inside
  refine ⟨0 :: path, element, .inside rfl custom placed, ?_, ?_⟩
  · rw [depthInside]
    exact fault
  · intro path' element' e' placed' fault' before
    rcases placedCases placed' with ⟨rfl, rfl⟩ | ⟨t', later, rfl, custom', inner⟩ | ⟨i, later, rfl, _⟩
    · -- The element itself is known, and its circuit stands above the ceiling.
      cases fault' with
      | unknown missing =>
        rw [missing] at custom
        cases custom
      | tooDeep _ below => exact open' below
    · rw [custom] at custom'
      cases custom'
      rw [depthInside] at fault'
      rcases List.cons_lt_cons_iff.mp before with less | ⟨_, less⟩
      · exact Nat.lt_irrefl 0 less
      · exact least later element' e' inner fault' less
    · rcases List.cons_lt_cons_iff.mp before with less | ⟨same, _⟩
      · exact Nat.not_lt_zero _ less
      · cases same

theorem firstFaultLater (fine : FineInside library depth first)
    (later : FirstFault library depth rest e) : FirstFault library depth (first :: rest) e := by
  obtain ⟨path, element, placed, fault, least⟩ := later
  obtain ⟨i, tail, rfl⟩ : ∃ i tail, path = i :: tail := by
    cases placed with
    | here => exact ⟨_, _, rfl⟩
    | inside => exact ⟨_, _, rfl⟩
  refine ⟨(i + 1) :: tail, element, placedLater placed, fault, ?_⟩
  intro path' element' e' placed' fault' before
  rcases placedCases placed' with ⟨rfl, _⟩ | ⟨t', inner, rfl, _, _⟩ | ⟨j, inner, rfl, there⟩
  · exact fine.noFault placed' fault'
  · exact fine.noFault placed' fault'
  · refine least _ element' e' there fault' ?_
    rcases List.cons_lt_cons_iff.mp before with less | ⟨same, less⟩
    · exact List.cons_lt_cons_iff.mpr (.inl (Nat.lt_of_succ_lt_succ less))
    · exact List.cons_lt_cons_iff.mpr (.inr ⟨Nat.succ.inj same, less⟩)

/-- How an expansion of elements at a depth has to end: the state untouched, and without any fault or
with the first one. -/
def Verdict {α : Type} (library : Library) (depth : Nat) (elements : List Element)
    (state : BuildState) : Outcome BuildState NodeError α → Prop
  | .done _ after => after = state ∧ Faultless library depth elements
  | .failed e after => after = state ∧ FirstFault library depth elements e
  | .spent => False

variable {state after : BuildState} {model : Model}

theorem faultlessNil : Faultless library depth [] := by
  intro path element e placed
  cases placed with
  | here found => simp at found
  | inside found _ _ => simp at found

def Expands (library : Library) (depth : Nat) (expand : Build.Expand) : Prop :=
  ∀ netList name t element args (state : BuildState), t.isGeneric = false →
    if depth + 1 = 31 then
      expand netList name t element args state = .failed (.recursiveNesting t.file) state
    else Verdict library (depth + 1) t.circuit.elements state
      (expand netList name t element args state)

theorem elementVerdict {expand : Build.Expand} (plain : library.NoGenerics)
    (expands : Expands library depth expand) (netList : NetList) (args : Option ScopeId)
    (first : Element) (position : Nat) (state : BuildState) :
    match Build.elementNodes library expand netList args position first state with
    | .done _ final => final = state ∧ FineInside library depth first
    | .failed e final => final = state ∧ ∀ rest, FirstFault library depth (first :: rest) e
    | .spent => False := by
  unfold Build.elementNodes
  cases found : library.get? first.typeName with
  | none => exact ⟨rfl, fun rest => firstFaultHere (.unknown found)⟩
  | some type =>
    cases type with
    | primitive defaults =>
      refine ⟨rfl, ⟨_, found⟩, fun t custom => ?_⟩
      rw [found] at custom
      cases custom
    | custom t =>
      have inner := expands netList (first.instanceName position) t first args state (plain _ t found)
      dsimp only
      split at inner
      · rename_i ceiling
        rw [inner]
        exact ⟨rfl, fun rest => firstFaultHere (.tooDeep found ceiling)⟩
      · rename_i above
        cases ended : expand netList (first.instanceName position) t first args state with
        | done nodes middle =>
          rw [ended] at inner
          refine ⟨inner.1, ⟨_, found⟩, fun t' custom => ?_⟩
          rw [found] at custom
          cases custom
          exact ⟨above, inner.2⟩
        | failed e middle =>
          rw [ended] at inner
          exact ⟨inner.1, fun rest => firstFaultInside found above inner.2⟩
        | spent =>
          rw [ended] at inner
          exact inner.elim

theorem realizeVerdict {expand : Build.Expand} (plain : library.NoGenerics)
    (expands : Expands library depth expand) (netList : NetList) (args : Option ScopeId)
    (elements : List Element) (position : Nat) (state : BuildState) :
    Verdict library depth elements state
      (Build.realize library expand netList args position elements state) := by
  induction elements generalizing position state with
  | nil => exact ⟨rfl, faultlessNil⟩
  | cons first rest ih =>
    have now := elementVerdict plain expands netList args first position state
    have later := ih (position + 1) state
    rw [Build.realizeCons, Action.bindApply]
    cases ended : Build.elementNodes library expand netList args position first state with
    | done nodes middle =>
      rw [ended] at now
      obtain ⟨rfl, fine⟩ := now
      dsimp only
      rw [Action.bindApply]
      cases ended' : Build.realize library expand netList args (position + 1) rest middle with
      | done others final =>
        rw [ended'] at later
        exact ⟨later.1, faultlessCons fine later.2⟩
      | failed e final =>
        rw [ended'] at later
        exact ⟨later.1, firstFaultLater fine later.2⟩
      | spent =>
        rw [ended'] at later
        exact later
    | failed e final =>
      rw [ended] at now
      exact ⟨now.1, now.2 rest⟩
    | spent =>
      rw [ended] at now
      exact now.elim

open Build

variable {levels : Nat} {parent : Option NetList} {name : String} {placing : Option Element}
variable {enclosing : Option ScopeId}

theorem Verdict.map {α β : Type} {elements : List Element} {x : Build α} {f : α → β}
    (verdict : Verdict library depth elements state (x state)) :
    Verdict library depth elements state ((x >>= fun a => pure (f a)) state) := by
  rw [Action.bindApply]
  cases ended : x state with
  | done a final =>
    rw [ended] at verdict
    exact verdict
  | failed e final =>
    rw [ended] at verdict
    exact verdict
  | spent =>
    rw [ended] at verdict
    exact verdict

theorem instantiateVerdict (noGenerics : library.NoGenerics) (plain : t.isGeneric = false)
    (level : levels + 1 + depth = 31) (state : BuildState) :
    Verdict library depth t.circuit.elements state
      (instantiate budget library (levels + 1) parent name t placing enclosing state) := by
  induction levels generalizing depth t parent name placing enclosing state with
  | zero =>
    rw [instantiatePlain plain]
    refine (realizeVerdict noGenerics ?_ _ _ _ _ _).map
    intro netList name inner element args state _
    rw [if_pos (by omega)]
    rfl
  | succ levels ih =>
    rw [instantiatePlain plain]
    refine (realizeVerdict noGenerics ?_ _ _ _ _ _).map
    intro netList name inner element args state innerPlain
    rw [if_neg (by omega)]
    exact (ih innerPlain (by omega) state).map

theorem realizeDone {expand : Expand} {netList : NetList} {args : Option ScopeId} {position : Nat}
    {elements : List Element} {nodes : List Node}
    (ended : realize library expand netList args position elements state = .done nodes after) :
    ∀ element ∈ elements, ∃ found, library.get? element.typeName = some found ∧
      ∀ t, found = .custom t → ∃ name before inside later,
        expand netList name t element args before = .done inside later := by
  induction elements generalizing position state nodes after with
  | nil => simp
  | cons first rest ih =>
    rw [realizeCons] at ended
    obtain ⟨own, s₁, expanded, ended⟩ := Action.bindDone ended
    obtain ⟨others, s₂, later, _⟩ := Action.bindDone ended
    intro element member
    rcases List.mem_cons.mp member with rfl | member
    · unfold elementNodes at expanded
      cases found : library.get? element.typeName with
      | none =>
        rw [found] at expanded
        cases expanded
      | some type =>
        refine ⟨type, rfl, fun t custom => ?_⟩
        subst custom
        rw [found] at expanded
        exact ⟨_, _, _, _, expanded⟩
    · exact ih later element member

theorem instantiateInside
    (ended : instantiate budget library (levels + 1) parent name t placing enclosing state =
      .done model after) :
    ∀ element ∈ t.circuit.elements, ∃ found, library.get? element.typeName = some found ∧
      ∀ inner, found = .custom inner → ∃ parent name placing enclosing before model later,
        instantiate budget library levels parent name inner placing enclosing before =
          .done model later := by
  have expanded : ∃ (elements : List Element) (args : Option ScopeId) (before : BuildState)
      (nodes : List Node) (later : BuildState),
      elements.map (·.typeName) = t.circuit.elements.map (·.typeName) ∧
      realize library (expandInside budget library levels) (standing parent name t) args 0 elements
        before = .done nodes later := by
    cases generic : t.isGeneric with
    | false =>
      rw [instantiatePlain generic] at ended
      obtain ⟨nodes, s₁, realized, _⟩ := Action.bindDone ended
      exact ⟨_, _, _, nodes, s₁, rfl, realized⟩
    | true =>
      rw [instantiateGeneric generic] at ended
      obtain ⟨args, s₁, _, ended⟩ := Action.bindDone ended
      obtain ⟨circuit, s₂, special, ended⟩ := Action.bindDone ended
      obtain ⟨nodes, s₃, realized, _⟩ := Action.bindDone ended
      exact ⟨_, _, _, nodes, s₃, specializeNames special, realized⟩
  obtain ⟨elements, args, before, nodes, later, names, realized⟩ := expanded
  intro element member
  have named : element.typeName ∈ elements.map (·.typeName) := by
    rw [names]
    exact List.mem_map_of_mem member
  obtain ⟨twin, there, same⟩ := List.mem_map.mp named
  obtain ⟨found, known, inside⟩ := realizeDone realized twin there
  rw [same] at known
  refine ⟨found, known, fun inner custom => ?_⟩
  obtain ⟨name, middle, ownNodes, last, expanded⟩ := inside inner custom
  obtain ⟨model, s₁, built, _⟩ := Action.bindDone expanded
  exact ⟨_, _, _, _, _, model, s₁, built⟩

theorem instantiateChains
    (ended : instantiate budget library levels parent name t placing enclosing state =
      .done model after) (chain : Chain library k t inner) : k < levels ∧ library.Knows inner := by
  induction levels generalizing t parent name placing enclosing state model after k with
  | zero =>
    rw [instantiate] at ended
    cases ended
  | succ levels ih =>
    have inside := instantiateInside ended
    cases chain with
    | none =>
      refine ⟨Nat.succ_pos levels, fun element member => ?_⟩
      obtain ⟨found, known, _⟩ := inside element member
      exact ⟨found, known⟩
    | @place k _ middle _ placed rest =>
      obtain ⟨element, member, custom⟩ := placed
      obtain ⟨found, known, expanded⟩ := inside element member
      rw [custom] at known
      cases known
      obtain ⟨_, _, _, _, _, _, _, built⟩ := expanded middle rfl
      obtain ⟨shorter, knows⟩ := ih built rest
      exact ⟨Nat.succ_lt_succ shorter, knows⟩

theorem nestingCeilingIsExact (library : Library) (t : Template) {d : Nat} (shallow : d ≤ 30)
    (budget : Nat) (parent : Option NetList) (name : String) (placing : Option Element)
    (enclosing : Option ScopeId) (state : BuildState) :
    (∀ model after,
      instantiateAt budget library d parent name t placing enclosing state = .done model after →
      ∀ k inner, Chain library k t inner →
        k ≤ 30 - d ∧ library.Knows inner ∧ ∀ j, ¬Chain library (j + 1) inner inner) ∧
    (library.NoGenerics → t.isGeneric = false →
      ((∀ k inner, Chain library k t inner → k ≤ 30 - d ∧ library.Knows inner) →
        ∃ model, instantiateAt budget library d parent name t placing enclosing state =
          .done model state) ∧
      (∀ e after,
        instantiateAt budget library d parent name t placing enclosing state = .failed e after →
        FirstFault library d t.circuit.elements e) ∧
      instantiateAt budget library d parent name t placing enclosing state ≠ .spent) := by
  have level : levelsAt d = 30 - d + 1 := by
    unfold levelsAt maxDepth
    omega
  unfold instantiateAt
  rw [level]
  refine ⟨fun model after ended k inner chain => ?_, fun noGenerics plain => ?_⟩
  · have bounded : ∀ k inner, Chain library k t inner → k ≤ 30 - d :=
      fun k inner chain => Nat.le_of_lt_succ (instantiateChains ended chain).1
    exact ⟨bounded k inner chain, (instantiateChains ended chain).2, noCircle bounded chain⟩
  · have verdict : Verdict library d t.circuit.elements state
        (instantiate budget library (30 - d + 1) parent name t placing enclosing state) :=
      instantiateVerdict noGenerics plain (by omega) state
    generalize instantiate budget library (30 - d + 1) parent name t placing enclosing state =
      outcome at verdict ⊢
    cases outcome with
    | done model last =>
      obtain ⟨rfl, _⟩ := verdict
      refine ⟨fun _ => ⟨model, rfl⟩, fun e after same => ?_, fun same => ?_⟩ <;> cases same
    | failed e last =>
      refine ⟨fun chains => ?_, fun e' after same => ?_, fun same => ?_⟩
      · obtain ⟨_, path, element, placed, fault, _⟩ := verdict
        exact absurd fault (faultlessOfChains shallow chains path element e placed)
      · cases same
        exact verdict.2
      · cases same
    | spent => exact verdict.elim

def plainCircuit (file : String) (types : List String) : Circuit :=
  ⟨file, .empty, types.map fun name => ⟨name, .empty, none⟩⟩

def halfLibrary : Library :=
  ((Table.empty : Library).insert "In" (.primitive .empty)).insert "half.dig"
    (.custom ⟨"half.dig", plainCircuit "half.dig" ["In"], none⟩)

theorem halfLibraryPlain : halfLibrary.NoGenerics := by
  intro name t found
  simp only [halfLibrary, Table.getInsert, Table.getEmpty] at found
  split at found
  · cases found
    rfl
  · split at found <;> cases found

-- One level of nesting fits from depth 29 on and does not from depth 30 on.
theorem lastLevelFits :
    let top : Template := ⟨"top.dig", plainCircuit "top.dig" ["In", "half.dig"], none⟩
    (∃ model after, instantiateAt 0 halfLibrary 29 none "" top none none .empty = .done model after) ∧
    (∀ k inner, Chain halfLibrary k top inner → k ≤ 1 ∧ halfLibrary.Knows inner) ∧
    (∃ model, instantiateAt 0 halfLibrary 29 none "" top none none .empty = .done model .empty) ∧
    ∃ e after, instantiateAt 0 halfLibrary 30 none "" top none none .empty = .failed e after ∧
      FirstFault halfLibrary 30 top.circuit.elements e := by
  intro top
  have ended : ∃ model after,
      instantiateAt 0 halfLibrary 29 none "" top none none .empty = .done model after :=
    ⟨_, _, rfl⟩
  obtain ⟨model, after, done⟩ := ended
  obtain ⟨bounded, converse⟩ := nestingCeilingIsExact halfLibrary top (by decide : 29 ≤ 30) 0 none ""
    none none .empty
  have chains : ∀ k inner, Chain halfLibrary k top inner → k ≤ 1 ∧ halfLibrary.Knows inner := by
    intro k inner chain
    obtain ⟨short, knows, _⟩ := bounded model after done k inner chain
    exact ⟨short, knows⟩
  refine ⟨⟨model, after, done⟩, chains, (converse halfLibraryPlain rfl).1 chains, ?_⟩
  have failed : ∃ e after,
      instantiateAt 0 halfLibrary 30 none "" top none none .empty = .failed e after := ⟨_, _, rfl⟩
  obtain ⟨e, after, failed⟩ := failed
  obtain ⟨_, exact'⟩ := nestingCeilingIsExact halfLibrary top (by decide : 30 ≤ 30) 0 none "" none none
    .empty
  exact ⟨e, after, failed, (exact' halfLibraryPlain rfl).2.1 e after failed⟩

end CircuitScript
