import CircuitScript.Proofs.Bindings
import CircuitScript.Proofs.Canonical
import CircuitScript.Proofs.Lookup
import CircuitScript.Proofs.Written

/-! Definitions given from outside and read by a script. A name may be defined several times, and also as a
built-in function; the last definition is the one that a script sees. The check of names does not know the
keywords, so a keyword can be defined, but no script can read it. -/
namespace CircuitScript

namespace Definition

/-- The value that the argument gives to the name, if it defines it. -/
def valueOf? (name argument : String) : Option Scalar :=
  match read argument with
  | .ok (other, value) => if other = name then some value else none
  | .error _ => none

/-- The value that the last of the arguments to define the name gives to it. -/
def last? (arguments : List String) (name : String) : Option Scalar := arguments.reverse.findSome? (valueOf? name)

theorem valueOfIff {name argument : String} {value : Scalar} :
    valueOf? name argument = some value ↔ read argument = .ok (name, value) := by
  unfold valueOf?
  cases read argument with
  | error e => simp
  | ok definition =>
    obtain ⟨other, given⟩ := definition
    by_cases same : other = name
    · simp [same]
    · simp [same]

theorem lastCons (argument : String) (rest : List String) (name : String) :
    last? (argument :: rest) name = (last? rest name).or (valueOf? name argument) := by
  unfold last?
  rw [List.reverse_cons, List.findSome?_append, List.findSome?_singleton]

theorem lastOfMem {arguments : List String} {argument name : String} {value : Scalar}
    (member : argument ∈ arguments) (defines : read argument = .ok (name, value)) :
    ∃ final, last? arguments name = some final := by
  refine Option.ne_none_iff_exists'.mp fun absent => ?_
  have free := List.findSome?_eq_none_iff.mp absent argument (List.mem_reverse.mpr member)
  cases (valueOfIff.mpr defines).symm.trans free

theorem readAllCons {argument : String} {rest : List String} {definitions : List (String × Scalar)}
    (accepted : readAll (argument :: rest) = .ok definitions) :
    ∃ first others, read argument = .ok first ∧ readAll rest = .ok others ∧ definitions = first :: others := by
  rw [readAll] at accepted
  cases head : read argument with
  | error e =>
    rw [head] at accepted
    cases accepted
  | ok first =>
    cases tail : readAll rest with
    | error e =>
      rw [head, tail] at accepted
      cases accepted
    | ok others =>
      rw [head, tail] at accepted
      cases accepted
      exact ⟨first, others, rfl, rfl, rfl⟩

theorem readOfMem {arguments : List String} {definitions : List (String × Scalar)}
    (accepted : readAll arguments = .ok definitions) {definition : String × Scalar}
    (member : definition ∈ definitions) : ∃ argument ∈ arguments, read argument = .ok definition := by
  induction arguments generalizing definitions with
  | nil =>
    cases accepted
    cases member
  | cons argument rest ih =>
    obtain ⟨first, others, head, tail, rfl⟩ := readAllCons accepted
    rcases List.mem_cons.mp member with rfl | behind
    · exact ⟨argument, List.mem_cons_self, head⟩
    · obtain ⟨source, there, same⟩ := ih tail behind
      exact ⟨source, List.mem_cons_of_mem _ there, same⟩

theorem notDefined {arguments : List String} {definitions : List (String × Scalar)} {name : String}
    (accepted : readAll arguments = .ok definitions) (absent : last? arguments name = none) :
    name ∉ definitions.map (·.1) := by
  intro listed
  obtain ⟨⟨_, value⟩, there, rfl⟩ := List.mem_map.mp listed
  obtain ⟨argument, member, defines⟩ := readOfMem accepted there
  obtain ⟨final, found⟩ := lastOfMem member defines
  cases found.symm.trans absent

-- By induction on the arguments: the first one counts only if no other defines the name.
theorem lastShape {arguments : List String} {definitions : List (String × Scalar)} {name : String} {final : Scalar}
    (accepted : readAll arguments = .ok definitions) (last : last? arguments name = some final) :
    ∃ before after, definitions = before ++ (name, final) :: after ∧ name ∉ after.map (·.1) := by
  induction arguments generalizing definitions with
  | nil => cases last
  | cons argument rest ih =>
    obtain ⟨first, others, head, tail, rfl⟩ := readAllCons accepted
    rw [lastCons] at last
    cases again : last? rest name with
    | some hidden =>
      rw [again] at last
      obtain ⟨before, after, rfl, free⟩ := ih tail (again.trans last)
      exact ⟨first :: before, after, rfl, free⟩
    | none =>
      rw [again, Option.none_or, valueOfIff, head] at last
      cases last
      exact ⟨[], others, rfl, notDefined tail again⟩

theorem readNamed {argument name : String} {value : Scalar} (defines : read argument = .ok (name, value)) :
    Text.isIdentifier name.toList = true := by
  simp only [read] at defines
  split at defines
  · cases defines
  · split at defines
    · rename_i named
      cases defines
      rwa [String.toList_ofList]
    · cases defines

end Definition

/-- A script that prints what a name stands for. -/
def printScript (name : String) : String := "print(" ++ name ++ ");"

theorem printTokens {name : String} (line : Nat)
    (inside : Scan.next false ⟨.code, 1, name.toList ++ [')', ';']⟩ =
      .ok (⟨1, .ident name⟩, ⟨.code, line, [')', ';']⟩)) :
    tokenizeCode (printScript name) = .ok [⟨1, .ident "print"⟩, ⟨1, .mark .lParen⟩, ⟨1, .ident name⟩,
      ⟨line, .mark .rParen⟩, ⟨line, .mark .semicolon⟩, ⟨line, .eof⟩] := by
  have text : (printScript name).toList = "print(".toList ++ (name.toList ++ [')', ';']) := by simp [printScript]
  have word : Scan.next false ⟨.code, 1, "print(".toList ++ (name.toList ++ [')', ';'])⟩ =
      .ok (⟨1, .ident "print"⟩, ⟨.code, 1, '(' :: (name.toList ++ [')', ';'])⟩) := rfl
  have opens : Scan.next false ⟨.code, 1, '(' :: (name.toList ++ [')', ';'])⟩ =
      .ok (⟨1, .mark .lParen⟩, ⟨.code, 1, name.toList ++ [')', ';']⟩) :=
    Scan.nextMark .lParen (by decide) (fun _ _ _ => rfl) 1
  have closes : Scan.next false ⟨.code, line, [')', ';']⟩ =
      .ok (⟨line, .mark .rParen⟩, ⟨.code, line, [';']⟩) := rfl
  rw [tokenizeCode, text, Scan.tokensMore word rfl, Scan.tokensMore opens rfl, Scan.tokensMore inside rfl,
    Scan.tokensMore closes rfl, semicolonTokens]
  rfl

theorem parsePrint {name : String} (named : Text.isIdentifier name.toList = true) (free : isKeyword name = false) :
    parseCode (printScript name) = .ok (.block [.print [.ref (.var name)]]) := by
  have apart : Severed [')', ';'] := (breaksPunctuation (by decide)).severed [';']
  obtain ⟨line, inside⟩ := (Token.soleIdent name named).next apart 1
  have readable : Stmt.ReadableAll (fullParens fun _ _ => false) [.print [.ref (.var name)]] := by
    simp [Stmt.ReadableAll, Stmt.Readable, Expr.ReadableAll, Expr.Readable, Reference.Readable, free]
  rw [parseCode, printTokens line inside]
  exact spelledReadBack fullCovers readable rfl

theorem parsePrintKeyword {name : String} (reserved : isKeyword name = true) :
    parseCode (printScript name) =
      if name = "true" ∨ name = "false" then .ok (.block [.print [.literal (.bool (name = "true"))]])
      else if name = "func" then .error ⟨1, .expected (.mark .lParen) (.mark .rParen)⟩
      else .error ⟨1, .unexpectedKeyword name⟩ := by
  have listed : name ∈ keywords := List.contains_iff_mem.mp reserved
  simp only [keywords, List.mem_cons, List.not_mem_nil, or_false] at listed
  rcases listed with rfl | rfl | rfl | rfl | rfl | rfl | rfl | rfl | rfl | rfl | rfl | rfl | rfl
  all_goals
    rw [parseCode, printTokens 1 rfl]
    rfl

namespace Store

theorem printAlone {store : Store} {id : ScopeId} {names : Table Value} {parent : Option ScopeId} {old : String}
    (found : store.scope? id = some ⟨names, parent, .own old⟩) (text : String) :
    (store.print id text).outputText id = old ++ text := by
  have own : store.sink id = id := by rw [sink, found]
  have printed : (store.print id text).scope? id = some ⟨names, parent, .own (old ++ text)⟩ := by
    rw [print, own, scopeUpdated, if_pos rfl, found]
    rfl
  have still : (store.print id text).sink id = id := by rw [sink, printed]
  rw [outputText, still, ownText?, printed]
  rfl

end Store

theorem Table.getInsertLast {α : Type} {name : String} {after : List (String × α)} (free : name ∉ after.map (·.1))
    (table : Table α) (before : List (String × α)) (value : α) :
    (table.insertAll (before ++ (name, value) :: after)).get? name = some value := by
  have split : table.insertAll (before ++ (name, value) :: after) =
      ((table.insertAll before).insert name value).insertAll after := by
    unfold Table.insertAll
    rw [List.foldl_append, List.foldl_cons]
  rw [split, Table.getInsertAll free, Table.getInsert, if_pos rfl]

theorem Config.preparedScope (config : Config) :
    config.prepared.2.scope? config.prepared.1 =
      some ⟨(Store.coreNames.insertAll (Builtin.standard.map fun b => (b.name, .func (.builtin b)))).insertAll
        (bindDefinitions config.definitions), none, .own ""⟩ := by
  have root : Store.empty.newRoot.2.scope? Store.empty.newRoot.1 = some ⟨Store.coreNames, none, .own ""⟩ := rfl
  unfold Config.prepared Store.installStandard
  rw [Store.scopeBoundAll, if_pos rfl, Store.scopeBoundAll, if_pos rfl, root]
  rfl

theorem runPrint {name : String} {e : Expr} (parsed : parseCode (printScript name) = .ok (.block [.print [e]]))
    {more : Nat} {scope : ScopeId} {store : Store} {value : Scalar}
    (evaluates : evalExpr (more + 2) scope e store = .done (.scalar value) store) :
    Script.runIn (more + 6) scope false (printScript name) store = .done () (store.print scope value.text) := by
  have printed : execPrint (more + 3) scope [e] store = .done () (store.print scope value.text) :=
    Action.thenDone evaluates rfl
  have ran : exec (more + 6) scope (.block [.print [e]]) store = .done .next (store.print scope value.text) :=
    Action.thenDone (Action.thenDone printed rfl) rfl
  unfold Script.runIn
  rw [if_neg (by decide), parsed]
  exact Action.mapErrorDone.mpr (Action.thenDone ran rfl)

namespace CommandLine

theorem executePrint {config : Config} (code : config.template = false) (label : String) {name : String} {e : Expr}
    (parsed : parseCode (printScript name) = .ok (.block [.print [e]]))
    {more : Nat} {value : Scalar}
    (evaluates : evalExpr (more + 2) config.prepared.1 e config.prepared.2 = .done (.scalar value) config.prepared.2) :
    execute (more + 6) config none ⟨label, printScript name⟩ = .ok value.text := by
  have ran := runPrint parsed evaluates
  have text := Store.printAlone config.preparedScope value.text
  rw [executeRuns, code]
  simp only [Option.map_none, Option.toList_none, List.nil_append, runSources, ran, Except.map, text,
    String.empty_append]

theorem executeRefused {config : Config} (code : config.template = false) (label : String) {source : String}
    {e : ParseError} (refused : parseCode source = .error e) (budget : Nat) :
    execute budget config none ⟨label, source⟩ = .error (.script label (.parse e)) := by
  have failed : Script.runIn budget config.prepared.1 false source config.prepared.2 =
      .failed (.parse e) config.prepared.2 := by
    unfold Script.runIn
    rw [if_neg (by decide), refused]
    rfl
  rw [executeRuns, code]
  simp only [Option.map_none, Option.toList_none, List.nil_append, runSources, failed, Except.map]

end CommandLine

theorem executePrintKeyword {config : Config} (code : config.template = false) (label : String) {name : String}
    (reserved : isKeyword name = true) (more : Nat) :
    CommandLine.execute (more + 6) config none ⟨label, printScript name⟩ =
      if name = "true" ∨ name = "false" then .ok name
      else if name = "func" then .error (.script label (.parse ⟨1, .expected (.mark .lParen) (.mark .rParen)⟩))
      else .error (.script label (.parse ⟨1, .unexpectedKeyword name⟩)) := by
  have parsed := parsePrintKeyword reserved
  split
  · rename_i truth
    rw [if_pos truth] at parsed
    have text : (Scalar.bool (name = "true")).text = name := by
      rcases truth with rfl | rfl <;> rfl
    rw [CommandLine.executePrint code label parsed rfl, text]
  · rename_i other
    rw [if_neg other] at parsed
    split
    · rename_i function
      rw [if_pos function] at parsed
      exact CommandLine.executeRefused code label parsed _
    · rename_i statement
      rw [if_neg statement] at parsed
      exact CommandLine.executeRefused code label parsed _

theorem definedRead {config : Config} {before after : List (String × Scalar)} {name : String} {value : Scalar}
    (shape : config.definitions = before ++ (name, value) :: after) (free : name ∉ after.map (·.1)) :
    config.prepared.2.read config.prepared.1 name = .ok (.scalar value) := by
  have bindings : bindDefinitions config.definitions =
      bindDefinitions before ++ (name, .scalar value) :: bindDefinitions after := by
    rw [shape, bindDefinitions, List.map_append, List.map_cons]
    rfl
  have hidden : name ∉ (bindDefinitions after).map (·.1) := by
    rwa [bindDefinitions, List.map_map]
  refine Store.readFound (Store.lookupOwn ?_)
  rw [Store.names, config.preparedScope]
  show (Table.insertAll _ (bindDefinitions config.definitions)).get? name = _
  rw [bindings]
  exact Table.getInsertLast hidden _ _ _

/-- A defined name that is no keyword prints the value of its last definition. `true` and `false` print
themselves, and the other keywords are refused. -/
theorem definedNamesPrint {arguments : List String} {definitions : List (String × Scalar)}
    (accepted : Definition.readAll arguments = .ok definitions) {argument name : String} {value : Scalar}
    (member : argument ∈ arguments) (defines : Definition.read argument = .ok (name, value))
    {budget : Nat} (enough : 6 ≤ budget) (verbosity : Nat) (label : String) :
    ∃ last, Definition.last? arguments name = some last ∧
      CommandLine.execute budget ⟨none, definitions, false, verbosity⟩ none ⟨label, "print(" ++ name ++ ");"⟩ =
        if isKeyword name = false then .ok last.text
        else if name = "true" ∨ name = "false" then .ok name
        else if name = "func" then .error (.script label (.parse ⟨1, .expected (.mark .lParen) (.mark .rParen)⟩))
        else .error (.script label (.parse ⟨1, .unexpectedKeyword name⟩)) := by
  obtain ⟨more, rfl⟩ := Nat.exists_eq_add_of_le' enough
  obtain ⟨last, found⟩ := Definition.lastOfMem member defines
  obtain ⟨before, after, shape, free⟩ := Definition.lastShape accepted found
  refine ⟨last, found, ?_⟩
  split
  · rename_i plain
    have parsed := parsePrint (Definition.readNamed defines) plain
    refine CommandLine.executePrint rfl label parsed ?_
    show Eval.read _ name _ = _
    rw [Eval.read, definedRead shape free]
  · rename_i reserved
    exact executePrintKeyword rfl label (by simpa using reserved) more

theorem redefinedBuiltinPrints :
    Definition.readAll ["min=1", "output=-0", " min = a=b "] =
      .ok [("min", .int 1), ("output", .int 0), ("min", .str " a=b ")] ∧
    CommandLine.execute 6 ⟨none, [("min", .int 1), ("output", .int 0), ("min", .str " a=b ")], false, 0⟩ none
      ⟨"<eval>", "print(min);"⟩ = .ok " a=b " := by
  have accepted : Definition.readAll ["min=1", "output=-0", " min = a=b "] =
      .ok [("min", .int 1), ("output", .int 0), ("min", .str " a=b ")] := by rfl
  have defines : Definition.read "min=1" = .ok ("min", .int 1) := by rfl
  obtain ⟨last, found, printed⟩ :=
    definedNamesPrint accepted List.mem_cons_self defines (Nat.le_refl 6) 0 "<eval>"
  have final : Definition.last? ["min=1", "output=-0", " min = a=b "] "min" = some (.str " a=b ") := by rfl
  cases final.symm.trans found
  exact ⟨accepted, printed⟩

theorem definedKeywordsHidden :
    Definition.readAll ["if=3", "true=5"] = .ok [("if", .int 3), ("true", .int 5)] ∧
    CommandLine.execute 6 ⟨none, [("if", .int 3), ("true", .int 5)], false, 0⟩ none ⟨"<eval>", "print(if);"⟩ =
      .error (.script "<eval>" (.parse ⟨1, .unexpectedKeyword "if"⟩)) ∧
    CommandLine.execute 6 ⟨none, [("if", .int 3), ("true", .int 5)], false, 0⟩ none ⟨"<eval>", "print(true);"⟩ =
      .ok "true" := by
  refine ⟨by rfl, ?_, ?_⟩
  · exact executePrintKeyword rfl "<eval>" (show isKeyword "if" = true by decide) 0
  · exact executePrintKeyword rfl "<eval>" (show isKeyword "true" = true by decide) 0

end CircuitScript
