import CircuitScript.Proofs.Moves
import CircuitScript.Proofs.Upkeep

/-! Every evaluation is a row of moves, whether it ends normally or by failing. -/
namespace CircuitScript

def Reference.boundName : Reference → Option String
  | .var name => some name
  | _ => none

-- Evaluating the part binds nothing in the scope it is evaluated in, and runs no other statement there.
def Part.Quiet : Part → Prop
  | .stmt (.assign target _) => target.boundName = none
  | .stmt (.compound target _ _) => target.boundName = none
  | .stmt (.ret _) => True
  | .stmt (.print _) => True
  | .stmt (.printf _) => True
  | .stmt (.fail _) => True
  | .stmt (.text _) => True
  | .stmt (.expr _) => True
  | .stmt _ => False
  | .expr _ => True
  | .ref _ => True

theorem Part.Quiet.inner {part : Part} (quiet : part.Quiet) : ∀ child ∈ part.inner, child.Quiet := by
  cases part with
  | expr e =>
    cases e with
    | map entries =>
      intro child member
      obtain ⟨entry, _, rfl⟩ := List.mem_map.mp member
      trivial
    | _ => simp [Part.inner, Part.children, Part.Quiet]
  | ref r => cases r <;> simp [Part.inner, Part.children, Part.Quiet]
  | stmt s =>
    cases s with
    | block | ifThen | whileDo | repeatUntil | forLoop | func => exact quiet.elim
    | _ => simp [Part.inner, Part.children, Part.Quiet]

variable {allowed : ScopeId → Prop} {assigns : Bool} {start : ScopeId} {n : Nat}

theorem passesBindAll (frame : ScopeId) (frames : List ScopeId) {bindings : List (String × Value)}
    (held : ∀ binding ∈ bindings, binding.2.Within allowed) (store : Store) :
    Passes allowed assigns start ⟨frame :: frames, store⟩
      ⟨frame :: frames, store.bindAll frame bindings⟩ := by
  induction bindings generalizing store with
  | nil => exact .refl
  | cons first rest ih =>
    have now : Move allowed assigns start ⟨frame :: frames, store⟩
        ⟨frame :: frames, store.bind frame first.1 first.2⟩ :=
      .bind (frame :: frames) store first.1 first.2 (.inr (by simp)) (held first List.mem_cons_self)
    have later := ih (fun binding member => held binding (List.mem_cons_of_mem _ member))
      (store.bind frame first.1 first.2)
    exact .head now later

theorem passesEntered {store : Store} {id : ClosureId} {closure : Closure} {args : List Value}
    (found : store.closure? id = some closure) (held : ∀ value ∈ args, value.Within allowed) :
    Passes allowed assigns start ⟨[], store⟩
      ⟨[⟨store.scopes.size⟩], store.entered closure start args⟩ := by
  refine .head (.enter [] store id closure found) ?_
  exact passesBindAll _ _ (fun binding member => held _ (List.of_mem_zip member).2) _

theorem scalarWithin (x : Scalar) : (Value.scalar x).Within allowed := trivial

/-- The moves of a run that starts in a scope, and may assign to its names or not. -/
def following (allowed : ScopeId → Prop) : Upkeep where
  Mode := Bool × ScopeId
  inv := Store.Within allowed
  step m store final := Passes allowed m.1 m.2 ⟨[], store⟩ ⟨[], final⟩
  good := Value.Within allowed
  here m s := s = m.2
  tree m part := m.1 = true ∨ part.Quiet
  body _ := True
  writable m r := m.1 = true ∨ r.boundName = none
  fine _ := True
  refl _ := .refl
  trans := .trans
  kept := passesWithin
  scalar := scalarWithin
  inner tree child member := tree.imp id fun quiet => quiet.inner child member
  literal _ := trivial
  declared tree := ⟨trivial, .inl (tree.resolve_right id)⟩
  assigned tree := tree
  compounded tree := tree
  printed _ := trivial
  plain _ := trivial
  counted _ _ _ := trivial
  read inv _ found := inv.holds.read scalarWithin found
  readField inv _ found := inv.holds.readField scalarWithin found
  item inv _ member := inv.holds.itemsOf _ _ member
  bindName _ here may good :=
    here ▸ .single (.bind [] _ _ _ (.inl (may.resolve_right (Option.some_ne_none _))) good)
  bindField _ _ scope good := .single (.bindIn [] _ _ _ _ scope good)
  setEntry id _ _ good := .single (.change [] (.setEntry _ id _ _ good))
  setAttribute id x _ _ := .single (.change [] (.setAttribute _ id _ x))
  putItem l position _ good := .single (.change [] (.putItem _ l position _ good))
  newList _ good := ⟨.single (.change [] (.newList _ _ good)), trivial⟩
  newMap _ good := ⟨.single (.change [] (.newMap _ _ good)), trivial⟩
  newClosure name params _ here _ := ⟨.single (.change [] (.newClosure _ ⟨name, params, _, _⟩ here)), trivial⟩
  print text _ here := here ▸ .single (.print [] _ text)
  enter := fun {m store _ _ closure args} inv here _ found good => by
    cases here
    have into : Passes allowed m.1 m.2 ⟨[], store⟩ ⟨[⟨store.scopes.size⟩], store.entered closure m.2 args⟩ :=
      passesEntered found good
    -- In its frame the body may assign; to the caller these are moves inside a call.
    refine ⟨(true, ⟨store.scopes.size⟩), rfl, .inl rfl, passesWithin into inv, fun run => ?_⟩
    exact (into.trans (passesInCall run [])).tail (.leave _ [] _)

abbrev Follows (allowed : ScopeId → Prop) (assigns : Bool) (start : ScopeId) {α : Type} (good : α → Prop)
    (x : Eval α) : Prop := (following allowed).Upholds (assigns, start) good x

section Runs

variable (allowed n start)

theorem followsExpr (e : Expr) : Follows allowed false start (Value.Within allowed) (evalExpr n start e) :=
  (following allowed).expr n rfl (.inr trivial)

theorem followsCondition (e : Expr) : Follows allowed false start anything (evalCondition n start e) :=
  (following allowed).condition n rfl (.inr trivial)

theorem followsReference (r : Reference) :
    Follows allowed false start (Value.Within allowed) (readReference n start r) :=
  (following allowed).readRef n rfl (.inr trivial)

theorem followsInvoke (f : FunctionId) {args : List Value} (held : ∀ value ∈ args, value.Within allowed) :
    Follows allowed false start (Value.Within allowed) (invoke n start f args) :=
  (following allowed).invokes n rfl trivial held

theorem followsStmt (stmt : Stmt) :
    Follows allowed true start (fun flow => flow.value.Within allowed) (exec n start stmt) :=
  (following allowed).stmt n rfl (.inl rfl)

theorem followsQuiet {stmt : Stmt} (quiet : (Part.stmt stmt).Quiet) :
    Follows allowed false start (fun flow => flow.value.Within allowed) (exec n start stmt) :=
  (following allowed).stmt n rfl (.inr quiet)

end Runs

end CircuitScript
