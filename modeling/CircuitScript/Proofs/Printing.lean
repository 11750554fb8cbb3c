import CircuitScript.Proofs.Links
import CircuitScript.Proofs.Run

/-! Where printed text goes. A run adds text to one buffer, the one its scope prints into, and to no other
older buffer, however calls are nested and wherever the called functions were defined. -/
namespace CircuitScript

abbrev anyScope : ScopeId → Prop := fun _ => True

theorem anyWithin (value : Value) : value.Within anyScope := by
  cases value <;> trivial

theorem withinAny (store : Store) : store.Within anyScope :=
  ⟨fun _ _ _ _ _ => anyWithin _, fun _ _ _ _ _ => anyWithin _, fun _ _ _ _ _ => anyWithin _⟩

namespace Store

theorem outputBound (store : Store) (id : ScopeId) (name : String) (value : Value)
    (other : ScopeId) : (store.bind id name value).output? other = store.output? other := by
  unfold output? bind
  rw [scopeUpdated]
  by_cases same : id = other
  · rw [if_pos same]
    cases store.scope? other <;> rfl
  · rw [if_neg same]

theorem outputPrinted (store : Store) (id : ScopeId) (text : String) (other : ScopeId) :
    (store.print id text).output? other =
      if store.sink id = other then (store.output? other).map (·.append text)
      else store.output? other := by
  unfold output? print
  rw [scopeUpdated]
  by_cases same : store.sink id = other
  · rw [if_pos same, if_pos same]
    cases store.scope? other <;> rfl
  · rw [if_neg same, if_neg same]

theorem outputOlder (store : Store) (parent : Option ScopeId) (output : Output) {id : ScopeId}
    (old : id.index < store.scopes.size) :
    (store.newScope parent output).2.output? id = store.output? id := by
  unfold output?
  rw [scopeOlder store parent output old]

theorem Linked.bound {store : Store} (linked : store.Linked) (id : ScopeId) (name : String)
    (value : Value) : store.SameLinks (store.bind id name value) :=
  linked.updated id (fun _ => rfl) fun _ => rfl

theorem Linked.printed {store : Store} (linked : store.Linked) (id : ScopeId) (text : String) :
    store.SameLinks (store.print id text) :=
  linked.updated _ (fun _ => rfl) fun scope => Output.nextAppended scope.output text

end Store

theorem Change.sameLinks {allowed : ScopeId → Prop} {active : ScopeId} {store next : Store}
    (change : Change allowed active store next) (linked : store.Linked)
    (here : active.index < store.scopes.size) : store.SameLinks next := by
  have scopes := change.scopes
  have found : ∀ id, next.scope? id = store.scope? id := by
    intro id
    unfold Store.scope?
    rw [scopes]
  refine ⟨congrArg Array.size scopes, fun id => ?_, fun id => ?_, ?_⟩
  · unfold Store.parent?
    rw [found]
  · unfold Store.way? Store.output?
    rw [found]
  · rw [scopes]
    cases change with
    | newClosure closure same =>
      intro id other found
      refine eachPushed (p := fun c : Closure => c.scope.index < store.scopes.size) ?_ ?_
        id.index other found
      · exact fun i old there => linked.closures ⟨i⟩ old there
      · rw [same]
        exact here
    | newList | newMap | putItem | setEntry | setAttribute => exact linked.closures

/-- A run begun in `start` with `store` prints into `buffer`. When it comes to a moment, all its open
calls still do, that buffer has grown at its end, and the other old buffers are as they were. -/
structure Routed (start buffer : ScopeId) (store : Store) (moment : Moment) : Prop where
  linked : moment.store.Linked
  grown : store.scopes.size ≤ moment.store.scopes.size
  routes : ∀ frame ∈ start :: moment.frames, moment.store.PrintsInto frame buffer
  appended : ∀ text, store.output? buffer = some (.own text) →
    ∃ added, moment.store.output? buffer = some (.own (text ++ added))
  others : ∀ id : ScopeId, id.index < store.scopes.size → id ≠ buffer →
    moment.store.output? id = store.output? id

variable {start buffer : ScopeId} {store : Store} {assigns : Bool}

theorem Routed.active {m : Moment} (routed : Routed start buffer store m) :
    m.store.PrintsInto (m.frames.headD start) buffer := by
  refine routed.routes _ ?_
  cases m.frames with
  | nil => exact List.mem_cons_self
  | cons frame frames => exact List.mem_cons_of_mem _ List.mem_cons_self

theorem Routed.sameBuffers {frames : List ScopeId} {current next : Store}
    (routed : Routed start buffer store ⟨frames, current⟩) (same : current.SameLinks next)
    (outputs : ∀ id, next.output? id = current.output? id) :
    Routed start buffer store ⟨frames, next⟩ where
  linked := routed.linked.changed same
  grown := same.count ▸ routed.grown
  routes frame member := (routed.routes frame member).changed fun id way found =>
    (same.ways id).trans found
  appended text found := by
    rw [outputs]
    exact routed.appended text found
  others id old apart := (outputs id).trans (routed.others id old apart)

theorem Routed.printed {frames : List ScopeId} {current : Store}
    (routed : Routed start buffer store ⟨frames, current⟩) (text : String) :
    Routed start buffer store ⟨frames, current.print (frames.headD start) text⟩ := by
  have same := routed.linked.printed (frames.headD start) text
  have sink : current.sink (frames.headD start) = buffer := routed.active.sink routed.linked
  refine ⟨routed.linked.changed same, same.count ▸ routed.grown, fun frame member => ?_,
    fun before found => ?_, fun id old apart => ?_⟩
  · exact (routed.routes frame member).changed fun id way found => (same.ways id).trans found
  · obtain ⟨added, now⟩ := routed.appended before found
    refine ⟨added ++ text, ?_⟩
    rw [Store.outputPrinted, if_pos sink, now]
    show some (Output.own (before ++ added ++ text)) = _
    rw [String.append_assoc]
  · rw [Store.outputPrinted, if_neg fun h => apart (h.symm.trans sink)]
    exact routed.others id old apart

theorem Routed.entered {frames : List ScopeId} {current : Store}
    (routed : Routed start buffer store ⟨frames, current⟩) {definer : ScopeId}
    (defined : definer.index < current.scopes.size) :
    Routed start buffer store ⟨⟨current.scopes.size⟩ :: frames,
      (current.newFrame definer (frames.headD start)).2⟩ := by
  have calls := routed.active.inside
  have older : ∀ id way, current.way? id = some way →
      (current.newFrame definer (frames.headD start)).2.way? id = some way := by
    intro id way found
    unfold Store.newFrame
    rw [Store.wayAdded, if_neg (Nat.ne_of_lt (Store.wayInside found))]
    exact found
  refine ⟨?_, ?_, fun frame member => ?_, fun text found => ?_, fun id old apart => ?_⟩
  · exact routed.linked.added (fun p same => Option.some.inj same ▸ defined)
      fun n same => Option.some.inj same ▸ calls
  · unfold Store.newFrame
    rw [Store.countAdded]
    exact Nat.le_succ_of_le routed.grown
  · have before : ∀ frame ∈ start :: frames,
        (current.newFrame definer (frames.headD start)).2.PrintsInto frame buffer :=
      fun frame member => (routed.routes frame member).changed older
    rcases List.mem_cons.mp member with rfl | member
    · exact before _ List.mem_cons_self
    · rcases List.mem_cons.mp member with rfl | member
      · refine .through ?_ (routed.active.changed older)
        unfold Store.newFrame
        rw [Store.wayAdded, if_pos rfl]
        rfl
      · exact before frame (List.mem_cons_of_mem _ member)
  · obtain ⟨added, now⟩ := routed.appended text found
    have inside := Store.wayInside (routed.active.ends)
    refine ⟨added, ?_⟩
    unfold Store.newFrame
    rw [Store.outputOlder _ _ _ inside]
    exact now
  · unfold Store.newFrame
    rw [Store.outputOlder _ _ _ (Nat.lt_of_lt_of_le old routed.grown)]
    exact routed.others id old apart

theorem Routed.move {m m' : Moment} (routed : Routed start buffer store m)
    (move : Move anyScope assigns start m m') : Routed start buffer store m' := by
  cases move with
  | change frames made =>
    refine routed.sameBuffers (made.sameLinks routed.linked routed.active.inside) fun id => ?_
    unfold Store.output? Store.scope?
    rw [made.scopes]
  | bind frames current name value own good =>
    exact routed.sameBuffers (routed.linked.bound _ name value) (current.outputBound _ name value)
  | bindIn frames current id name value held good =>
    exact routed.sameBuffers (routed.linked.bound id name value) (current.outputBound id name value)
  | print frames current text => exact routed.printed text
  | enter frames current id closure found =>
    exact routed.entered (routed.linked.closures id closure found)
  | leave frame frames current =>
    refine ⟨routed.linked, routed.grown, fun f member => routed.routes f ?_, routed.appended,
      routed.others⟩
    rcases List.mem_cons.mp member with rfl | member
    · exact List.mem_cons_self
    · exact List.mem_cons_of_mem _ (List.mem_cons_of_mem _ member)

theorem routedByRun {m : Moment} (linked : store.Linked) (here : start.index < store.scopes.size)
    (passes : Passes anyScope assigns start ⟨[], store⟩ m) :
    Routed start (store.sink start) store m := by
  induction passes with
  | refl =>
    refine ⟨linked, Nat.le_refl _, fun frame member => ?_, fun text found => ⟨"", ?_⟩,
      fun _ _ _ => rfl⟩
    · have same : frame = start := by simpa using member
      rw [same]
      exact linked.printsInto start here
    · rw [String.append_empty]
      exact found
  | tail before move ih => exact ih.move move

theorem outputReads {frame : ScopeId} {text : String} (linked : store.Linked)
    (into : store.PrintsInto frame buffer) (now : store.output? buffer = some (.own text))
    (unbound : store.lookup? frame "output" = none) (n : Nat) :
    evalExpr (n + 2) frame (.ref (.var "output")) store = .done (.str text) store := by
  have reads : store.read frame "output" = .ok (.str text) := by
    unfold Store.read Store.outputText
    rw [unbound, into.sink linked, Store.ownTextIff.mpr now]
    rfl
  rw [evalExpr, readReference, Eval.readLooks, reads]
  rfl

theorem outputIsRouted {store : Store} (built : store.Built) {ctx : ScopeId}
    (here : ctx.index < store.scopes.size) :
    ∃ text : String, store.PrintsInto ctx (store.sink ctx) ∧
      store.ownText? (store.sink ctx) = some text ∧
      (∀ (budget : Nat) (stmt : Stmt) (final : Store),
        (exec budget ctx stmt store).state? = some final →
        Passes anyScope true ctx ⟨[], store⟩ ⟨[], final⟩ ∧
        (∃ added, final.ownText? (store.sink ctx) = some (text ++ added)) ∧
        ∀ id : ScopeId, id.index < store.scopes.size → id ≠ store.sink ctx →
          final.ownText? id = store.ownText? id) ∧
      ∀ moment : Moment, Passes anyScope true ctx ⟨[], store⟩ moment →
        ∃ added, moment.store.ownText? (store.sink ctx) = some (text ++ added) ∧
          ∀ frame ∈ ctx :: moment.frames, moment.store.PrintsInto frame (store.sink ctx) ∧
            (moment.store.lookup? frame "output" = none → ∀ n,
              evalExpr (n + 2) frame (.ref (.var "output")) moment.store =
                .done (.str (text ++ added)) moment.store) := by
  have linked := built.linked
  have into := linked.printsInto ctx here
  obtain ⟨text, found⟩ := Store.bufferHasText into.ends
  refine ⟨text, into, Store.ownTextIff.mpr found, ?_, ?_⟩
  · intro budget stmt final ended
    have passes := (followsStmt anyScope ctx budget stmt).ended (withinAny store) ended
    have routed := routedByRun linked here passes
    obtain ⟨added, now⟩ := routed.appended text found
    exact ⟨passes, ⟨added, Store.ownTextIff.mpr now⟩,
      fun id old apart => Store.ownTextSame (routed.others id old apart)⟩
  · intro moment passes
    have routed := routedByRun linked here passes
    obtain ⟨added, now⟩ := routed.appended text found
    refine ⟨added, Store.ownTextIff.mpr now, fun frame member => ?_⟩
    have frameInto := routed.routes frame member
    exact ⟨frameInto, fun unbound n => outputReads routed.linked frameInto now unbound n⟩

-- A function defined in scope 0 and known to scope 2, which prints where scope 1 prints.
def borrowingStore (body : Stmt) : Store :=
  let scopes := (Store.empty.newRoot.2.newRoot.2.newDelegating ⟨1⟩).2
  (scopes.newClosure ⟨"hello", [], body, ⟨0⟩⟩).2.bind ⟨2⟩ "hello" (.func (.closure ⟨0⟩))

theorem Store.Built.defining {store : Store} (built : store.Built) {closure : Closure}
    (here : closure.scope.index < store.scopes.size) : (store.newClosure closure).2.Built := by
  have change : Change anyScope closure.scope store (store.newClosure closure).2 :=
    .newClosure store closure rfl
  exact built.changed (change.sameLinks built.linked here)

theorem borrowingStoreBuilt (body : Stmt) : (borrowingStore body).Built := by
  have scopes : Store.Built (Store.empty.newRoot.2.newRoot.2.newDelegating ⟨1⟩).2 :=
    Store.Built.empty.root.root.delegating (by decide)
  have defined : Store.Built ((Store.empty.newRoot.2.newRoot.2.newDelegating ⟨1⟩).2.newClosure
      ⟨"hello", [], body, ⟨0⟩⟩).2 := scopes.defining (Nat.zero_lt_succ 2)
  exact defined.changed (defined.linked.bound ⟨2⟩ "hello" _)

theorem borrowedFunctionPrintsForItsCaller :
    let body : Stmt := .print [.literal (.str "hi"), .ref (.var "output")]
    (borrowingStore body).Built ∧ (borrowingStore body).sink ⟨2⟩ = ⟨1⟩ ∧
    ∃ final : Store,
      (exec 12 ⟨2⟩ (.expr (.call (.ref (.var "hello")) [])) (borrowingStore body)).state? = some final ∧
      final.ownText? ⟨1⟩ = some "hihi" ∧ final.ownText? ⟨0⟩ = some "" := by
  intro body
  obtain ⟨text, _, _, runs, _⟩ := outputIsRouted (borrowingStoreBuilt body)
    (by decide +kernel : (ScopeId.mk 2).index < (borrowingStore body).scopes.size)
  have sink : (borrowingStore body).sink ⟨2⟩ = ⟨1⟩ := by decide +kernel
  obtain ⟨final, ended, arrived⟩ := Option.bind_eq_some_iff.mp (by decide +kernel :
    (exec 12 ⟨2⟩ (.expr (.call (.ref (.var "hello")) [])) (borrowingStore body)).state?.bind (·.ownText? ⟨1⟩) =
      some "hihi")
  obtain ⟨_, _, others⟩ := runs 12 _ final ended
  rw [sink] at others
  refine ⟨borrowingStoreBuilt body, sink, final, ended, arrived, ?_⟩
  rw [others ⟨0⟩ (by decide +kernel) (by decide)]
  decide +kernel

end CircuitScript
