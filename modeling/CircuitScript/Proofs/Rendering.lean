import CircuitScript.Proofs.Printing
import CircuitScript.Proofs.Standalone

/-! Rendering a template is concatenation. A template of texts and expressions without calls parses, and
running it adds each text and each value's text to one buffer, in order, up to the first expression that
fails. -/
namespace CircuitScript

structure Store.SameScopes (store final : Store) : Prop where
  scopes : final.scopes = store.scopes
  closures : final.closures = store.closures

/-- With a large budget the computation ends, in one way and without a change of scopes. -/
def Settles {α : Type} (x : Nat → Eval α) : Prop :=
  ∀ store, ∃ outcome, (∃ least, ∀ n, least ≤ n → x n store = outcome) ∧
    ∃ final, outcome.state? = some final ∧ store.SameScopes final

namespace Settles

variable {α β : Type} {x : Nat → Eval α} {f : Nat → α → Eval β}

theorem deeper (settles : Settles fun n => x (n + 1)) : Settles x := by
  intro store
  obtain ⟨outcome, ⟨least, ran⟩, ends⟩ := settles store
  refine ⟨outcome, ⟨least + 1, fun n enough => ?_⟩, ends⟩
  obtain ⟨n, rfl⟩ := Nat.exists_eq_add_of_le' enough
  exact ran (n + least) (Nat.le_add_left least n)

theorem once {x : Eval α} (ends : ∀ store, ∃ final, (x store).state? = some final ∧ store.SameScopes final) :
    Settles fun _ => x :=
  fun store => ⟨x store, ⟨0, fun _ _ => rfl⟩, ends store⟩

theorem bind (first : Settles x) (second : ∀ a, Settles fun n => f n a) : Settles fun n => x n >>= f n := by
  intro store
  obtain ⟨outcome, ⟨least, ran⟩, final, ends, same⟩ := first store
  cases outcome with
  | done a middle =>
    cases ends
    obtain ⟨outcome, ⟨least', ran'⟩, final', ends', same'⟩ := second a final
    refine ⟨outcome, ⟨max least least', fun n enough => ?_⟩, final', ends',
      same'.scopes.trans same.scopes, same'.closures.trans same.closures⟩
    show (x n >>= f n) store = outcome
    rw [Action.bindApply, ran n (by omega)]
    exact ran' n (by omega)
  | failed e middle =>
    refine ⟨.failed e middle, ⟨least, fun n enough => ?_⟩, final, ends, same⟩
    show (x n >>= f n) store = _
    rw [Action.bindApply, ran n enough]
  | spent => cases ends

theorem pure (a : α) : Settles fun _ => (Pure.pure a : Eval α) :=
  once fun store => ⟨store, rfl, rfl, rfl⟩

theorem fail (e : EvalError) : Settles fun _ => (Action.fail e : Eval α) :=
  once fun store => ⟨store, rfl, rfl, rfl⟩

theorem ofExcept (result : Except EvalError α) : Settles fun _ => (Action.ofExcept result : Eval α) := by
  cases result with
  | ok a => exact pure a
  | error e => exact fail e

end Settles

theorem Eval.readSettles (scope : ScopeId) (name : String) : Settles fun _ => Eval.read scope name := by
  refine .once fun store => ⟨store, ?_, rfl, rfl⟩
  unfold Eval.read
  cases store.read scope name <;> rfl

theorem Eval.readFieldSettles (target : Value) (key : String) : Settles fun _ => Eval.readField target key := by
  refine .once fun store => ⟨store, ?_, rfl, rfl⟩
  unfold Eval.readField
  cases store.readField target key <;> rfl

theorem Eval.applyBinarySettles (op : BinaryOp) (a b : Value) : Settles fun _ => Eval.applyBinary op a b := by
  refine .once fun store => ⟨store, ?_, rfl, rfl⟩
  unfold Eval.applyBinary
  cases store.applyBinary op a b <;> rfl

theorem Eval.readItemSettles (list : ListId) (position : Int64) :
    Settles fun _ => Eval.readItem list position := by
  unfold Eval.readItem
  split
  · refine .bind (.once fun store => ⟨store, rfl, rfl, rfl⟩) fun item => ?_
    cases item with
    | some value => exact .pure value
    | none => exact .fail _
  · exact .fail _

theorem conditionSettles {scope : ScopeId} {e : Expr} (settles : Settles fun n => evalExpr n scope e) :
    Settles fun n => evalCondition n scope e := by
  refine .deeper ?_
  unfold evalCondition
  exact settles.bind fun value => .ofExcept _

theorem positionSettles {scope : ScopeId} {e : Expr} (settles : Settles fun n => evalExpr n scope e) :
    Settles fun n => evalPosition n scope e := by
  refine .deeper ?_
  unfold evalPosition
  exact settles.bind fun value => .ofExcept _

theorem binarySettles {scope : ScopeId} {left right : Expr} (op : BinaryOp)
    (first : Settles fun n => evalExpr n scope left) (second : Settles fun n => evalExpr n scope right) :
    Settles fun n => evalExpr n scope (.binary op left right) := by
  refine .deeper ?_
  unfold evalExpr
  cases op with
  | and =>
    refine (conditionSettles first).bind fun held => ?_
    cases held with
    | true => exact (conditionSettles second).bind fun b => .pure _
    | false => exact .pure _
  | or =>
    refine (conditionSettles first).bind fun held => ?_
    cases held with
    | true => exact .pure _
    | false => exact (conditionSettles second).bind fun b => .pure _
  | _ => exact first.bind fun a => second.bind fun b => Eval.applyBinarySettles _ a b

mutual

theorem Expr.settles (scope : ScopeId) : ∀ e : Expr, e.CallFree → Settles fun n => evalExpr n scope e
  | .literal s, _ => by
    refine .deeper ?_
    unfold evalExpr
    exact .pure _
  | .ref r, free => by
    refine .deeper ?_
    unfold evalExpr
    exact Reference.settles scope r free
  | .unary op operand, free => by
    refine .deeper ?_
    unfold evalExpr
    exact (Expr.settles scope operand free).bind fun value => .ofExcept _
  | .binary op left right, free =>
    binarySettles op (Expr.settles scope left free.1) (Expr.settles scope right free.2)
  | .list items, free => by
    refine .deeper ?_
    unfold evalExpr
    refine (Expr.settlesAll scope items free).bind fun values => ?_
    exact .once fun store => ⟨_, rfl, rfl, rfl⟩
  | .map entries, free => by
    refine .deeper ?_
    unfold evalExpr
    refine (Expr.settlesEntries scope entries free).bind fun values => ?_
    exact .once fun store => ⟨_, rfl, rfl, rfl⟩

theorem Reference.settles (scope : ScopeId) :
    ∀ r : Reference, r.CallFree → Settles fun n => readReference n scope r
  | .var name, _ => by
    refine .deeper ?_
    unfold readReference
    exact Eval.readSettles scope name
  | .index parent position, free => by
    refine .deeper ?_
    unfold readReference
    refine (Reference.settles scope parent free.1).bind fun target => .bind (.ofExcept _) fun list => ?_
    exact (positionSettles (Expr.settles scope position free.2)).bind fun i => Eval.readItemSettles list i
  | .field parent key, free => by
    refine .deeper ?_
    unfold readReference
    exact (Reference.settles scope parent free).bind fun target => Eval.readFieldSettles target key

theorem Expr.settlesAll (scope : ScopeId) :
    ∀ es : List Expr, Expr.CallFreeAll es → Settles fun n => evalAll n scope es
  | [], _ => by
    refine .deeper ?_
    unfold evalAll
    exact .pure _
  | e :: rest, free => by
    refine .deeper ?_
    unfold evalAll
    refine (Expr.settles scope e free.1).bind fun value => ?_
    exact (Expr.settlesAll scope rest free.2).bind fun values => .pure _

theorem Expr.settlesEntries (scope : ScopeId) : ∀ entries : List (String × Expr),
    Expr.CallFreeEntries entries → Settles fun n => evalAll n scope (entries.map (·.2))
  | [], _ => by
    refine .deeper ?_
    unfold evalAll
    exact .pure _
  | (_, e) :: rest, free => by
    refine .deeper ?_
    unfold evalAll
    refine (Expr.settles scope e free.1).bind fun value => ?_
    exact (Expr.settlesEntries scope rest free.2).bind fun values => .pure _

end

namespace Store

variable {store middle final : Store} {scope : ScopeId}

theorem SameScopes.sameLinks (same : store.SameScopes final) (linked : store.Linked) :
    store.SameLinks final := by
  have found : ∀ id, final.scope? id = store.scope? id := by
    intro id
    unfold scope?
    rw [same.scopes]
  refine ⟨congrArg Array.size same.scopes, fun id => ?_, fun id => ?_, fun id closure there => ?_⟩
  · unfold parent?
    rw [found]
  · unfold way? output?
    rw [found]
  · unfold closure? at there
    rw [same.closures] at there
    rw [same.scopes]
    exact linked.closures id closure there

theorem printNothing (store : Store) (scope : ScopeId) : store.print scope "" = store := by
  have unchanged : (fun s : Scope => { s with output := s.output.append "" }) = id := by
    funext s
    obtain ⟨names, parent, output⟩ := s
    cases output <;> simp [Output.append]
  unfold print updateScope
  rw [unchanged]
  congr 1
  ext i _ _ <;> simp [Array.getElem_modify]

/-- The text has been added to the buffer that the scope prints into, and to no other. -/
structure Added (scope : ScopeId) (store final : Store) (text : String) : Prop where
  links : store.SameLinks final
  outputs : ∀ id, final.output? id =
    if store.sink scope = id then (store.output? id).map (·.append text) else store.output? id

theorem SameScopes.added (same : store.SameScopes final) (linked : store.Linked) (scope : ScopeId) :
    Added scope store final "" := by
  refine ⟨same.sameLinks linked, fun id => ?_⟩
  have unchanged : final.output? id = store.output? id := by
    unfold output? scope?
    rw [same.scopes]
  rw [unchanged]
  split
  · cases store.output? id with
    | none => rfl
    | some output => cases output <;> simp [Output.append]
  · rfl

theorem Linked.addedPrint (linked : store.Linked) (scope : ScopeId) (text : String) :
    Added scope store (store.print scope text) text :=
  ⟨linked.printed scope text, store.outputPrinted scope text⟩

theorem Added.sink {text : String} (added : Added scope store final text) (linked : store.Linked)
    (here : scope.index < store.scopes.size) : final.sink scope = store.sink scope := by
  have into := (linked.printsInto scope here).changed fun id way found => (added.links.ways id).trans found
  exact into.sink (linked.changed added.links)

theorem Added.trans {text more : String} (first : Added scope store middle text)
    (second : Added scope middle final more) (linked : store.Linked)
    (here : scope.index < store.scopes.size) : Added scope store final (text ++ more) := by
  refine ⟨⟨?_, fun id => ?_, fun id => ?_, second.links.closures⟩, fun id => ?_⟩
  · rw [second.links.count, first.links.count]
  · rw [second.links.parents, first.links.parents]
  · rw [second.links.ways, first.links.ways]
  · rw [second.outputs, first.outputs, first.sink linked here]
    split
    · cases store.output? id with
      | none => rfl
      | some output => cases output <;> simp [Output.append, String.append_assoc]
    · rfl

theorem Added.outputText {text : String} (added : Added scope store final text) (linked : store.Linked)
    (here : scope.index < store.scopes.size) :
    final.outputText scope = store.outputText scope ++ text := by
  obtain ⟨before, found⟩ := bufferHasText (linked.printsInto scope here).ends
  have now : final.output? (store.sink scope) = some (.own (before ++ text)) := by
    rw [added.outputs, if_pos rfl, found]
    rfl
  unfold Store.outputText
  rw [added.sink linked here, ownTextIff.mpr found, ownTextIff.mpr now]
  rfl

theorem Added.others {text : String} (added : Added scope store final text) {id : ScopeId}
    (apart : id ≠ store.sink scope) : final.ownText? id = store.ownText? id := by
  refine ownTextSame ?_
  rw [added.outputs, if_neg apart.symm]

end Store

/-- The outcome of evaluating an expression, which no larger budget changes. -/
def Evaluates (scope : ScopeId) (e : Expr) (store : Store) (outcome : Outcome Store EvalError Value) : Prop :=
  ∃ least, ∀ n, least ≤ n → evalExpr n scope e store = outcome

/-- What expressions with texts behind them print one after another: for each its value's text and the text
behind it, up to the first expression that fails. -/
inductive Renders (scope : ScopeId) :
    Store → List (Expr × String) → String → Option EvalError → Store → Prop where
  | done (store : Store) : Renders scope store [] "" none store
  | value {store middle final : Store} {e : Expr} {behind text : String} {rest : List (Expr × String)}
      {failure : Option EvalError} {v : Value} (evaluates : Evaluates scope e store (.done v middle))
      (later : Renders scope ((middle.print scope (middle.text v)).print scope behind) rest text failure final) :
      Renders scope store ((e, behind) :: rest) (middle.text v ++ behind ++ text) failure final
  | failure {store final : Store} {e : Expr} {behind : String} {rest : List (Expr × String)}
      {error : EvalError} (fails : Evaluates scope e store (.failed error final)) :
      Renders scope store ((e, behind) :: rest) "" (some error) final

def ended (failure : Option EvalError) (final : Store) : Outcome Store EvalError Flow :=
  match failure with
  | none => .done .next final
  | some error => .failed error final

def pieceStatements (pieces : List (Expr × String)) : List Stmt :=
  pieces.flatMap fun piece => .print [piece.1] :: textStatements piece.2

variable {scope : ScopeId} {store final : Store} {pieces : List (Expr × String)} {text : String}
variable {failure : Option EvalError}

theorem rendersSomehow (free : ∀ piece ∈ pieces, piece.1.CallFree) (store : Store) :
    ∃ text failure final, Renders scope store pieces text failure final := by
  induction pieces generalizing store with
  | nil => exact ⟨"", none, store, .done store⟩
  | cons piece rest ih =>
    obtain ⟨e, behind⟩ := piece
    obtain ⟨first, others⟩ := List.forall_mem_cons.mp free
    obtain ⟨outcome, evaluates, final, ends, _⟩ := e.settles scope first store
    cases outcome with
    | done v middle =>
      obtain ⟨text, failure, final, later⟩ := ih others ((middle.print scope (middle.text v)).print scope behind)
      exact ⟨_, failure, final, .value evaluates later⟩
    | failed error middle => exact ⟨"", some error, middle, .failure evaluates⟩
    | spent => cases ends

theorem textRuns {stmts : List Stmt} {outcome : Outcome Store EvalError Flow} (text : String)
    (later : ∃ least, ∀ n, least ≤ n → execAll n scope stmts (store.print scope text) = outcome) :
    ∃ least, ∀ n, least ≤ n → execAll n scope (textStatements text ++ stmts) store = outcome := by
  obtain ⟨least, ran⟩ := later
  unfold textStatements
  split
  · rename_i blank
    subst blank
    rw [Store.printNothing] at ran
    exact ⟨least, ran⟩
  · refine ⟨least + 2, fun n enough => ?_⟩
    obtain ⟨n, rfl⟩ := Nat.exists_eq_add_of_le' enough
    have first : exec (n + least + 1) scope (.text text) store = .done .next (store.print scope text) := by
      rw [exec]
      rfl
    show execAll (n + least + 2) scope (.text text :: stmts) store = _
    rw [execAll, Action.bindApply, first]
    exact ran _ (by omega)

theorem Renders.runs (renders : Renders scope store pieces text failure final) :
    ∃ least, ∀ n, least ≤ n → execAll n scope (pieceStatements pieces) store = ended failure final := by
  induction renders with
  | done store => exact ⟨1, fun n enough => by obtain ⟨n, rfl⟩ := Nat.exists_eq_add_of_le' enough; rfl⟩
  | @value store middle final e behind text rest failure v evaluates later ih =>
    obtain ⟨least, ran⟩ := evaluates
    obtain ⟨least', ran'⟩ := textRuns behind ih
    refine ⟨max least least' + 4, fun n enough => ?_⟩
    obtain ⟨n, rfl⟩ := Nat.exists_eq_add_of_le' enough
    have printed : execPrint (n + max least least' + 2) scope [e] store =
        .done () (middle.print scope (middle.text v)) := by
      rw [execPrint, Action.bindApply, ran _ (by omega)]
      rfl
    have first : exec (n + max least least' + 3) scope (.print [e]) store =
        .done .next (middle.print scope (middle.text v)) := by
      rw [exec, Action.bindApply, printed]
      rfl
    show execAll (n + max least least' + 4) scope (.print [e] :: (textStatements behind ++ pieceStatements rest))
      store = _
    rw [execAll, Action.bindApply, first]
    exact ran' _ (by omega)
  | @failure store final e behind rest error fails =>
    obtain ⟨least, ran⟩ := fails
    refine ⟨least + 4, fun n enough => ?_⟩
    obtain ⟨n, rfl⟩ := Nat.exists_eq_add_of_le' enough
    have printed : execPrint (n + least + 2) scope [e] store = .failed error final := by
      rw [execPrint, Action.bindApply, ran _ (by omega)]
    have first : exec (n + least + 3) scope (.print [e]) store = .failed error final := by
      rw [exec, Action.bindApply, printed]
    show execAll (n + least + 4) scope (.print [e] :: (textStatements behind ++ pieceStatements rest)) store = _
    rw [execAll, Action.bindApply, first]
    rfl

theorem Evaluates.same {e : Expr} {outcome : Outcome Store EvalError Value}
    (evaluates : Evaluates scope e store outcome) (free : e.CallFree) (ends : outcome.state? = some final) :
    store.SameScopes final := by
  obtain ⟨other, ⟨least, ran⟩, final', ends', same⟩ := e.settles scope free store
  obtain ⟨least', ran'⟩ := evaluates
  have equal : other = outcome :=
    (ran _ (Nat.le_max_left least least')).symm.trans (ran' _ (Nat.le_max_right least least'))
  subst equal
  cases ends.symm.trans ends'
  exact same

theorem Renders.added (renders : Renders scope store pieces text failure final)
    (free : ∀ piece ∈ pieces, piece.1.CallFree) (linked : store.Linked)
    (here : scope.index < store.scopes.size) : Store.Added scope store final text := by
  induction renders with
  | done store => exact Store.SameScopes.added ⟨rfl, rfl⟩ linked scope
  | @value store middle final e behind text rest failure v evaluates later ih =>
    obtain ⟨first, others⟩ := List.forall_mem_cons.mp free
    have evaluated := (evaluates.same first rfl).added linked scope
    have shown := evaluated.trans ((linked.changed evaluated.links).addedPrint scope (middle.text v)) linked here
    have before := shown.trans ((linked.changed shown.links).addedPrint scope behind) linked here
    have after := ih others (linked.changed before.links) (before.links.count ▸ here)
    rw [String.empty_append] at before
    exact before.trans after linked here
  | @failure store final e behind rest error fails =>
    exact (fails.same (free _ List.mem_cons_self) rfl).added linked scope

/-- An expression to be printed and the text behind its section. -/
structure Echo where
  source : String
  tree : Expr
  text : String

/-- The source is an expression on its own, without calls and function literals, and what follows it is not
part of a comment. -/
structure Echo.Fits (echo : Echo) : Prop where
  alone : readAlone? echo.source = some echo.tree
  free : echo.tree.CallFree
  closed : Region.code.after echo.source.toList ≠ .lineComment
  plain : ¬['<', '?'] <:+: echo.text.toList

def templateText (text : String) : List Echo → String
  | [] => text
  | echo :: rest => text ++ "<?=" ++ echo.source ++ "?>" ++ templateText echo.text rest

theorem templateParses {first : String} {echoes : List Echo} (plain : ¬['<', '?'] <:+: first.toList)
    (fits : ∀ echo ∈ echoes, echo.Fits) :
    Parses (templateText first echoes).toList
      (textStatements first ++ pieceStatements (echoes.map fun echo => (echo.tree, echo.text))) := by
  induction echoes generalizing first with
  | nil =>
    have parses := Parses.text plain (.inl rfl) Parses.nil
    rwa [List.append_nil] at parses
  | cons echo rest ih =>
    obtain ⟨fit, others⟩ := List.forall_mem_cons.mp fits
    have later := (ih fit.plain others).echo fit.alone fit.free fit.closed
    have parses := Parses.text plain (.inr ⟨_, rfl⟩) later
    simpa [templateText, pieceStatements] using parses

/-- A template is parsed, and however its expressions evaluate, running it in a scope prints as much. -/
theorem templateIsConcatenation {first : String} {echoes : List Echo}
    (plain : ¬['<', '?'] <:+: first.toList) (fits : ∀ echo ∈ echoes, echo.Fits) :
    ∃ tree, parseTemplate (templateText first echoes) = .ok tree ∧
      ∀ (store : Store) (scope : ScopeId), store.Built → scope.index < store.scopes.size →
        (∃ text failure final, Renders scope (store.print scope first)
          (echoes.map fun echo => (echo.tree, echo.text)) text failure final) ∧
        ∀ text failure final, Renders scope (store.print scope first)
            (echoes.map fun echo => (echo.tree, echo.text)) text failure final →
          (∃ least, ∀ n, least ≤ n → exec n scope tree store = ended failure final) ∧
          final.outputText scope = store.outputText scope ++ (first ++ text) ∧
          ∀ id, id ≠ store.sink scope → final.ownText? id = store.ownText? id := by
  refine ⟨_, (templateParses plain fits).parseTemplateEq, fun store scope built here => ?_⟩
  have free : ∀ piece ∈ echoes.map (fun echo => (echo.tree, echo.text)), piece.1.CallFree := by
    intro piece member
    obtain ⟨echo, there, rfl⟩ := List.mem_map.mp member
    exact (fits echo there).free
  refine ⟨rendersSomehow free _, fun text failure final renders => ?_⟩
  have linked := built.linked
  have opened := linked.addedPrint scope first
  have rendered := renders.added free (linked.changed opened.links) (opened.links.count ▸ here)
  have added := opened.trans rendered linked here
  refine ⟨?_, added.outputText linked here, fun id apart => added.others apart⟩
  obtain ⟨least, ran⟩ := textRuns first renders.runs
  refine ⟨least + 1, fun n enough => ?_⟩
  obtain ⟨n, rfl⟩ := Nat.exists_eq_add_of_le' enough
  show exec (n + least + 1) scope (.block _) store = _
  rw [exec]
  exact ran _ (by omega)

theorem readAloneOf {source : String} (row : List Lexeme) {tree : Expr}
    (taken : tokenizeCode source = .ok row)
    (ran : ∃ last line, Parser.expr (Parser.budget row.length) ⟨none, row⟩ =
      .ok tree ⟨last, [⟨line, .eof⟩]⟩) : readAlone? source = some tree := by
  obtain ⟨last, line, ran⟩ := ran
  simp only [readAlone?, taken, ran]
  rfl

-- A section mark in quotes and one begun in the text are printed; the variable is not bound.
theorem templateStopsAtTheUnboundName :
    let echoes : List Echo := [⟨"\"?>\" // shown\n", .literal (.str "?>"), "<"⟩, ⟨"x", .ref (.var "x"), "?>"⟩]
    (∀ echo ∈ echoes, echo.Fits) ∧ ∃ tree final,
      parseTemplate "a<<?=\"?>\" // shown\n?><<?=x?>?>" = .ok tree ∧
      (∃ least, ∀ n, least ≤ n →
        exec n ⟨0⟩ tree Store.empty.newRoot.2 = .failed (.undefinedVariable "x") final) ∧
      final.outputText ⟨0⟩ = "a<?><" := by
  intro echoes
  have quoted : Echo.Fits ⟨"\"?>\" // shown\n", .literal (.str "?>"), "<"⟩ := by
    refine ⟨?_, trivial, by decide +kernel, by decide +kernel⟩
    exact readAloneOf [⟨1, .str "?>"⟩, ⟨2, .eof⟩] (by with_unfolding_all rfl) ⟨_, 2, rfl⟩
  have named : Echo.Fits ⟨"x", .ref (.var "x"), "?>"⟩ := by
    refine ⟨?_, trivial, by decide +kernel, by decide +kernel⟩
    exact readAloneOf [⟨1, .ident "x"⟩, ⟨1, .eof⟩] (by with_unfolding_all rfl) ⟨_, 1, rfl⟩
  have fits : ∀ echo ∈ echoes, echo.Fits := by simp [echoes, quoted, named]
  have plain : ¬['<', '?'] <:+: "a<".toList := by decide +kernel
  obtain ⟨tree, parsed, runs⟩ := templateIsConcatenation plain fits
  obtain ⟨_, every⟩ := runs Store.empty.newRoot.2 ⟨0⟩ Store.Built.empty.root (by decide)
  let opened := Store.empty.newRoot.2.print ⟨0⟩ "a<"
  let shown := (opened.print ⟨0⟩ "?>").print ⟨0⟩ "<"
  have quotedValue : Evaluates ⟨0⟩ (.literal (.str "?>")) opened (.done (.str "?>") opened) := by
    refine ⟨1, fun n enough => ?_⟩
    obtain ⟨n, rfl⟩ := Nat.exists_eq_add_of_le' enough
    rfl
  have unbound : (shown.lookup? ⟨0⟩ "x").isNone = true := by decide +kernel
  have namedFails : Evaluates ⟨0⟩ (.ref (.var "x")) shown (.failed (.undefinedVariable "x") shown) := by
    refine ⟨2, fun n enough => ?_⟩
    obtain ⟨n, rfl⟩ := Nat.exists_eq_add_of_le' enough
    have missing : shown.read ⟨0⟩ "x" = .error (.undefinedVariable "x") := by
      rw [Store.read, Option.isNone_iff_eq_none.mp unbound]
      rfl
    rw [evalExpr, readReference, Eval.read, missing]
  have renders : Renders ⟨0⟩ opened [(.literal (.str "?>"), "<"), (.ref (.var "x"), "?>")] ("?>" ++ "<" ++ "")
      (some (.undefinedVariable "x")) shown := .value quotedValue (.failure namedFails)
  obtain ⟨ran, output, _⟩ := every _ _ _ renders
  refine ⟨fits, tree, shown, parsed, ran, ?_⟩
  rw [output]
  decide +kernel

end CircuitScript
