import CircuitScript.Proofs.Accepted
import CircuitScript.Proofs.Budget
import CircuitScript.Proofs.Closing
import CircuitScript.Proofs.Comments
import CircuitScript.Proofs.Rendering

/-! Code in a section of template text runs as it does on its own, and then the text behind the section is printed.
A line comment does not end with its section, so code that ends inside of one takes that text into the comment. -/
namespace CircuitScript

theorem Nears.filled {tail : List Lexeme} {c c' : Cursor} (plain : Plain tail) (near : Nears tail c c')
    (filled : c.token ≠ .eof) : c'.token ≠ .eof := by
  rcases near.step plain with ⟨same, _⟩ | ⟨ended, _⟩
  · exact same ▸ filled
  · contradiction

theorem statementsCarried {tail : List Lexeme} (plain : Plain tail) {stmts : List Stmt}
    (later : ∀ previous, ∃ m rest, Parser.statements m ⟨previous, tail⟩ = .ok stmts rest) {n : Nat}
    {c c' rest : Cursor} {body : List Stmt} (near : Nears tail c c') (ran : Parser.statements n c = .ok body rest)
    (ends : rest.left = 1) :
    ∃ closing m rest', (closing = [] ∨ closing = [.block []]) ∧
      Parser.statements m c' = .ok (body ++ (closing ++ stmts)) rest' := by
  induction n generalizing c c' body with
  | zero => cases ran
  | succ n ih =>
    rcases Parser.statementsCases ran with ⟨_, rfl, rfl⟩ | ⟨filled, stmt, r, more, first, further, rfl⟩
    · cases near with
      | @before previous previous' row row' stop close same stops closes settled =>
        obtain rfl : row = [] := by simpa [Cursor.left] using ends
        obtain rfl := List.map_eq_nil_iff.mp same
        obtain ⟨m, rest', behind⟩ := later (some close)
        have token : (Cursor.mk previous' ([] ++ close :: tail)).token = .mark .semicolon := closes
        have empty := Parser.emptyStatement 0 token
        exact ⟨[.block []], _, rest', .inr rfl, Parser.statementsCons (by rw [token]; exact nofun) empty behind⟩
      | @passed previous previous' stop stops settled =>
        obtain ⟨m, rest', behind⟩ := later previous'
        exact ⟨[], m, rest', .inl rfl, behind⟩
    · obtain ⟨r', first', near'⟩ := statementCarried plain near first
      obtain ⟨closing, m, rest', kind, behind⟩ := ih near' further
      exact ⟨closing, _, rest', kind, Parser.statementsCons (near.filled plain filled) first' behind⟩

theorem Scan.codeTokens {rest : List Char} (noEcho : rest.head? ≠ some '=') (line : Nat) :
    tokens true ⟨.text, line, '<' :: '?' :: rest⟩ = tokens true ⟨.code, line, rest⟩ := by
  have same : next true ⟨.text, line, '<' :: '?' :: rest⟩ = next true ⟨.code, line, rest⟩ := by
    rw [nextInCode .code (by decide)]
    cases rest with
    | nil => rfl
    | cons c rest =>
      have other : c ≠ '=' := by simpa using noEcho
      simp [next, other]
  rw [tokens, tokens, same]

theorem textTail {text : String} (plain : ¬['<', '?'] <:+: text.toList) (line : Nat) :
    ∃ tail, Scan.tokens true ⟨.text, line, text.toList⟩ = .ok tail ∧ Plain tail ∧
      ∀ previous, ∃ m rest, Parser.statements m ⟨previous, tail⟩ = .ok (textStatements text) rest := by
  have parses := Parses.text plain (.inl rfl) Parses.nil
  rw [List.append_nil, List.append_nil] at parses
  obtain ⟨tail, read, reads⟩ := parses line
  refine ⟨tail, read, ?_, fun previous => ?_⟩
  · by_cases blank : text = ""
    · subst blank
      cases (Scan.endTokens line).symm.trans read
      exact ⟨_, _, rfl, .inr rfl⟩
    · obtain ⟨last, found⟩ := Scan.textTokens plain (by simpa using blank) (.inl rfl) line
      rw [Scan.endTokens, List.append_nil] at found
      cases found.symm.trans read
      exact ⟨_, _, rfl, .inl ⟨_, rfl⟩⟩
  · obtain ⟨last, behind, _, _, least, ran⟩ := reads previous tail rfl
    exact ⟨least, _, ran least (Nat.le_refl least)⟩

def codeSection (code text : String) : String := "<?" ++ code ++ "?>" ++ text

theorem parsedAlike {row row' : List Lexeme} (lexed : ∀ lexeme ∈ row, lexeme.token.Lexed)
    (alike : row'.map Lexeme.token = row.map Lexeme.token) {stmts : List Stmt} {rest : Cursor}
    (ran : Parser.statements (Parser.budget row.length) ⟨none, row⟩ = .ok stmts rest) :
    parseTokens row' = .ok (.block stmts) := by
  obtain ⟨course, judged, _⟩ := Parser.rowCourse lexed
  rw [judged row rfl] at ran
  unfold parseTokens
  rw [judged row' alike]
  cases course with
  | ok stmts passed =>
    cases ran
    rfl
  | refused place cause => cases ran
  | spent => cases ran

theorem codeAccepted {code : String} {tree : Stmt} (parsed : parseCode code = .ok tree) :
    ∃ row stop stmts last, Scan.tokens false ⟨.code, 1, code.toList⟩ = .ok (row ++ [stop]) ∧ stop.token = .eof ∧
      (∀ lexeme ∈ row ++ [stop], ∀ u, lexeme.token ≠ .unknown u) ∧ tree = .block stmts ∧
      Parser.statements (Parser.budget (row ++ [stop]).length) ⟨none, row ++ [stop]⟩ = .ok stmts ⟨last, [stop]⟩ := by
  obtain ⟨row, stop, read, stops, ⟨stmts, last, same, ran⟩, known, _⟩ :=
    acceptedNested (show parse false code = .ok tree from parsed)
  refine ⟨row, stop, stmts, last, read, stops, fun lexeme member u => ?_, same, ran⟩
  rcases List.mem_append.mp member with inside | final
  · exact (known lexeme inside).2 u
  · rw [List.mem_singleton.mp final, stops]
    exact nofun

section

variable {code text : String} {tree : Stmt} (statements : code.toList.head? ≠ some '=')
include statements

theorem codeSectionTokens :
    tokenizeTemplate (codeSection code text) =
      Scan.tokens true ⟨.code, 1, code.toList ++ '?' :: '>' :: text.toList⟩ := by
  have shape : (codeSection code text).toList = '<' :: '?' :: (code.toList ++ '?' :: '>' :: text.toList) := by
    simp [codeSection]
  rw [tokenizeTemplate, shape, Scan.codeTokens]
  cases first : code.toList with
  | nil => simp
  | cons c rest =>
    rw [first] at statements
    exact statements

variable (parsed : parseCode code = .ok tree)
include parsed

theorem closedSectionParses (closed : Region.code.after code.toList ≠ .lineComment)
    (plain : ¬['<', '?'] <:+: text.toList) :
    ∃ stmts closing, tree = .block stmts ∧ (closing = [] ∨ closing = [.block []]) ∧
      parseTemplate (codeSection code text) = .ok (.block (stmts ++ (closing ++ textStatements text))) := by
  obtain ⟨row, stop, stmts, last, read, stops, known, same, ran⟩ := codeAccepted parsed
  obtain ⟨row', final, spells, inSection⟩ :=
    Scan.closedSection (by decide : Mode.code ≠ .text) read known closed 1 text.toList
  obtain ⟨tail, tailRead, tailPlain, later⟩ := textTail plain final
  have alike : row'.map Lexeme.token = row.map Lexeme.token := by simpa [stops] using spells.symm
  have near : Nears tail ⟨none, row ++ [stop]⟩ ⟨none, row' ++ ⟨final, .mark .semicolon⟩ :: tail⟩ :=
    .before alike stops rfl id
  obtain ⟨closing, m, rest', kind, whole⟩ := statementsCarried tailPlain later near ran rfl
  refine ⟨stmts, closing, same, kind, ?_⟩
  have enough := Parser.statementsProceeds.okWithEnough whole
    (show _ ≤ Parser.budget (row' ++ ⟨final, .mark .semicolon⟩ :: tail).length by
      unfold Parser.budget Cursor.left
      dsimp only
      omega)
  have tokens : tokenizeTemplate (codeSection code text) = .ok (row' ++ ⟨final, .mark .semicolon⟩ :: tail) := by
    rw [codeSectionTokens statements, inSection, tailRead]
    rfl
  rw [parseTemplate, tokens]
  show parseTokens (row' ++ ⟨final, .mark .semicolon⟩ :: tail) = _
  unfold parseTokens
  rw [enough]

theorem commentedSectionParses (open' : Region.code.after code.toList = .lineComment) (oneLine : '\n' ∉ text.toList) :
    parseTemplate (codeSection code text) = .ok tree := by
  obtain ⟨row, stop, stmts, last, read, stops, known, rfl, ran⟩ := codeAccepted parsed
  have severed : Severed ('?' :: '>' :: text.toList) := breaksQuestion.severed _
  obtain ⟨row', final, ending, spells, kind, region, inSection⟩ :=
    Scan.sectionTokens (by decide : Mode.code ≠ .text) read known severed 1
  obtain rfl : ending = .lineComment := by
    rcases kind with rfl | rfl
    · rw [open'] at region
      cases region
    · rfl
  have hidden : skipGap .lineComment final ('?' :: '>' :: text.toList) = skipGap .blank final [] := by
    have ends := skipLine (show '\n' ∉ '?' :: '>' :: text.toList by simpa using oneLine) final []
    rw [List.append_nil] at ends
    exact ends
  have atEnd : Scan.tokens true ⟨.code, final, []⟩ = .ok [⟨final, .eof⟩] := by
    rw [Scan.tokens]
    rfl
  have alike : (row' ++ [Lexeme.mk final .eof]).map Lexeme.token = (row ++ [stop]).map Lexeme.token := by
    simpa using spells.symm
  have tokens : tokenizeTemplate (codeSection code text) = .ok (row' ++ [⟨final, .eof⟩]) := by
    rw [codeSectionTokens statements, inSection final [] hidden, atEnd]
    rfl
  rw [parseTemplate, tokens]
  exact parsedAlike (Scan.tokensEnd read).1 alike ran

end

theorem execAllThen {scope : ScopeId} {stmts more : List Stmt} {store middle : Store} {n : Nat}
    {outcome : Outcome Store EvalError Flow} (ran : execAll n scope stmts store = .done .next middle)
    (later : ∃ least, ∀ m, least ≤ m → execAll m scope more middle = outcome) :
    ∃ least, ∀ m, least ≤ m → execAll m scope (stmts ++ more) store = outcome := by
  induction stmts generalizing n store with
  | nil =>
    cases n with
    | zero => cases ran
    | succ n =>
      cases ran
      exact later
  | cons stmt stmts ih =>
    cases n with
    | zero => cases ran
    | succ n =>
      rw [execAll] at ran
      obtain ⟨flow, between, first, ran⟩ := Action.bindDone ran
      cases flow with
      | returned value => cases ran
      | next =>
        obtain ⟨least, further⟩ := ih ran
        refine ⟨max n least + 1, fun m enough => ?_⟩
        obtain ⟨m, rfl⟩ := Nat.exists_eq_add_of_le' enough
        have stops : (exec n scope stmt store).state? = some between := by rw [first]; rfl
        have longer := (extendsAtLeast (fun n => execExtends n scope stmt)
          (show n ≤ m + max n least by omega)).ended stops
        show execAll (m + max n least + 1) scope (stmt :: (stmts ++ more)) store = outcome
        rw [execAll, Action.bindApply, longer, first]
        exact further _ (by omega)

theorem closedSectionRuns {scope : ScopeId} {stmts closing : List Stmt} {store final : Store} {n : Nat}
    (kind : closing = [] ∨ closing = [.block []]) (ran : exec n scope (.block stmts) store = .done .next final)
    (text : String) :
    ∃ least, ∀ m, least ≤ m → exec m scope (.block (stmts ++ (closing ++ textStatements text))) store =
      .done .next (final.print scope text) := by
  cases n with
  | zero => cases ran
  | succ n =>
    have ran : execAll n scope stmts store = .done .next final := ran
    have closes : execAll 3 scope closing final = .done .next final := by
      rcases kind with rfl | rfl <;> rfl
    have nothing : ∃ least, ∀ m, least ≤ m →
        execAll m scope [] (final.print scope text) = .done .next (final.print scope text) := by
      refine ⟨1, fun m enough => ?_⟩
      obtain ⟨m, rfl⟩ := Nat.exists_eq_add_of_le' enough
      rfl
    have prints := textRuns text nothing
    rw [List.append_nil] at prints
    obtain ⟨least, whole⟩ := execAllThen ran (execAllThen closes prints)
    refine ⟨least + 1, fun m enough => ?_⟩
    obtain ⟨m, rfl⟩ := Nat.exists_eq_add_of_le' enough
    exact whole (m + least) (by omega)

theorem Routed.sink {scope buffer : ScopeId} {store final : Store}
    (routed : Routed scope buffer store ⟨[], final⟩) : final.sink scope = buffer :=
  (routed.routes scope List.mem_cons_self).sink routed.linked

theorem Routed.outputText {scope : ScopeId} {store final : Store} (linked : store.Linked)
    (here : scope.index < store.scopes.size) (routed : Routed scope (store.sink scope) store ⟨[], final⟩) :
    ∃ added, final.outputText scope = store.outputText scope ++ added := by
  obtain ⟨before, found⟩ := Store.bufferHasText (linked.printsInto scope here).ends
  obtain ⟨added, now⟩ := routed.appended before found
  refine ⟨added, ?_⟩
  unfold Store.outputText
  rw [routed.sink, Store.ownTextIff.mpr found, Store.ownTextIff.mpr now]
  rfl

/-- Code that ends outside of line comments runs in its section as it does on its own, and then the text is printed.
Code that ends inside of one takes the text into its comment, and the tree is that of the code alone. -/
theorem codeSectionRuns {code text : String} {tree : Stmt} (parsed : parseCode code = .ok tree)
    (statements : code.toList.head? ≠ some '=') (plain : ¬['<', '?'] <:+: text.toList) :
    (Region.code.after code.toList ≠ .lineComment →
      ∃ tree', parseTemplate (codeSection code text) = .ok tree' ∧
        ∀ (store : Store) (scope : ScopeId), store.Built → scope.index < store.scopes.size →
          ∀ budget final, exec budget scope tree store = .done .next final →
            ∃ shown added, (∃ least, ∀ n, least ≤ n → exec n scope tree' store = .done .next shown) ∧
              final.outputText scope = store.outputText scope ++ added ∧
              shown.outputText scope = store.outputText scope ++ (added ++ text) ∧
              (∀ id, id ≠ store.sink scope → shown.ownText? id = final.ownText? id) ∧
              (∀ id, shown.names id = final.names id ∧ shown.parent? id = final.parent? id) ∧
              shown.lists = final.lists ∧ shown.maps = final.maps ∧ shown.handles = final.handles ∧
              shown.closures = final.closures) ∧
    (Region.code.after code.toList = .lineComment → '\n' ∉ text.toList →
      parseTemplate (codeSection code text) = .ok tree) := by
  refine ⟨fun closed => ?_, commentedSectionParses statements parsed⟩
  obtain ⟨stmts, closing, rfl, kind, parsed'⟩ := closedSectionParses statements parsed closed plain
  refine ⟨_, parsed', fun store scope built here budget final ran => ?_⟩
  have linked := built.linked
  have passes := (followsStmt anyScope scope budget (.block stmts)).ended (withinAny store) (by rw [ran]; rfl)
  have routed := routedByRun linked here passes
  obtain ⟨added, output⟩ := routed.outputText linked here
  have there : scope.index < final.scopes.size := Nat.lt_of_lt_of_le here routed.grown
  have printed := routed.linked.addedPrint scope text
  refine ⟨final.print scope text, added, closedSectionRuns kind ran text, output, ?_, fun id apart => ?_, fun id => ?_,
    rfl, rfl, rfl, rfl⟩
  · rw [printed.outputText routed.linked there, output, String.append_assoc]
  · exact printed.others (by rw [routed.sink]; exact apart)
  · exact ⟨final.namesPrinted scope text id, final.parentPrinted scope text id⟩

theorem parseCodeOf {code : String} (row : List Lexeme) {tree : Stmt}
    (taken : tokenizeCode code = .ok row) (ran : parseTokens row = .ok tree) :
    parseCode code = .ok tree := by
  rw [parseCode, taken]
  exact ran

theorem functionEndsWithItsSection :
    ∃ tree shown, parseTemplate "<?print(1); f := func(x) return x /* ?> */?>\nb" = .ok tree ∧
      (∃ least, ∀ n, least ≤ n → exec n ⟨0⟩ tree Store.empty.newRoot.2 = .done .next shown) ∧
      shown.outputText ⟨0⟩ = "1\nb" := by
  have parsed : parseCode "print(1); f := func(x) return x /* ?> */" =
      .ok (.block [.print [.literal (.int 1)], .assign (.var "f") (.func ["x"] (.ret (.ref (.var "x"))))]) :=
    parseCodeOf ([.ident "print", .mark .lParen, .int 1, .mark .rParen, .mark .semicolon, .ident "f", .mark .declare,
      .ident "func", .mark .lParen, .ident "x", .mark .rParen, .ident "return", .ident "x", .eof].map (Lexeme.mk 1))
      (by with_unfolding_all rfl) rfl
  have plain : ¬['<', '?'] <:+: "\nb".toList := by decide +kernel
  obtain ⟨tree, parsed', runs⟩ := (codeSectionRuns parsed (by decide) plain).1 (by decide +kernel)
  obtain ⟨shown, added, ran, printed, output, _⟩ :=
    runs Store.empty.newRoot.2 ⟨0⟩ Store.Built.empty.root (by decide) 9 _ rfl
  refine ⟨tree, shown, parsed', ran, ?_⟩
  rw [output, ← String.append_assoc, ← printed]
  decide +kernel

theorem commentHidesText :
    ∃ tree final, parseCode "x := 1; // one" = .ok tree ∧ parseTemplate "<?x := 1; // one?>text" = .ok tree ∧
      exec 5 ⟨0⟩ tree Store.empty.newRoot.2 = .done .next final ∧ final.outputText ⟨0⟩ = "" := by
  have parsed : parseCode "x := 1; // one" = .ok (.block [.assign (.var "x") (.literal (.int 1))]) :=
    parseCodeOf ([.ident "x", .mark .declare, .int 1, .mark .semicolon, .eof].map (Lexeme.mk 1))
      (by with_unfolding_all rfl) rfl
  have hidden : parseTemplate (codeSection "x := 1; // one" "text") = _ :=
    commentedSectionParses (by decide) parsed (by decide +kernel) (by decide)
  exact ⟨_, _, parsed, hidden, rfl, by decide +kernel⟩

end CircuitScript
