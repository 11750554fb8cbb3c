import CircuitScript.Proofs.Canonical
import CircuitScript.Proofs.Sections

/-! An expression that is read on its own is read in the same way wherever a token follows that no expression
takes. Function literals are left out: their bodies are statements, which look at what follows. -/
namespace CircuitScript

open CircuitScript.Parser

mutual

def Expr.CallFree : Expr → Prop
  | .literal _ => True
  | .ref r => r.CallFree
  | .unary _ operand => operand.CallFree
  | .binary _ left right => left.CallFree ∧ right.CallFree
  | .call _ _ => False
  | .list items => Expr.CallFreeAll items
  | .map entries => Expr.CallFreeEntries entries
  | .func _ _ => False

def Reference.CallFree : Reference → Prop
  | .var _ => True
  | .index parent position => parent.CallFree ∧ position.CallFree
  | .field parent _ => parent.CallFree

def Expr.CallFreeAll : List Expr → Prop
  | [] => True
  | e :: rest => e.CallFree ∧ Expr.CallFreeAll rest

def Expr.CallFreeEntries : List (String × Expr) → Prop
  | [] => True
  | (_, e) :: rest => e.CallFree ∧ Expr.CallFreeEntries rest

end

/-- No expression goes beyond such a token. -/
def Token.Stops : Token → Prop
  | .text _ | .echoOpen | .echoClose | .unknown _ | .eof => True
  | _ => False

def Halts (row : List Lexeme) : Prop := ∃ lexeme rest, row = lexeme :: rest ∧ lexeme.token.Stops

structure Beside (stop stop' : List Lexeme) (c c' : Cursor) : Prop where
  halts : Halts stop
  halts' : Halts stop'
  rows : ∃ row row', c.ahead = row ++ stop ∧ c'.ahead = row' ++ stop' ∧
    row.map Lexeme.token = row'.map Lexeme.token

def Part.CallFree : Part → Prop
  | stmt _ => False
  | expr e => e.CallFree
  | ref r => r.CallFree

theorem Expr.callFreeAll (es : List Expr) : Expr.CallFreeAll es ↔ ∀ e ∈ es, e.CallFree := by
  induction es with
  | nil => simp [CallFreeAll]
  | cons e es ih => simp [CallFreeAll, ih]

theorem Expr.callFreeEntries (entries : List (String × Expr)) :
    Expr.CallFreeEntries entries ↔ ∀ entry ∈ entries, entry.2.CallFree := by
  induction entries with
  | nil => simp [CallFreeEntries]
  | cons entry entries ih =>
    obtain ⟨key, value⟩ := entry
    simp only [CallFreeEntries, ih, List.forall_mem_cons]

theorem Part.CallFree.child {whole child : Part} (free : whole.CallFree) (member : child ∈ whole.children) :
    child.CallFree := by
  cases whole with
  | stmt s => exact free.elim
  | expr e =>
    cases e with
    | call callee args => exact free.elim
    | func params body => exact free.elim
    | list items =>
      obtain ⟨e, inside, rfl⟩ := List.mem_map.mp member
      exact (Expr.callFreeAll items).mp free e inside
    | map entries =>
      obtain ⟨entry, inside, rfl⟩ := List.mem_map.mp member
      exact (Expr.callFreeEntries entries).mp free entry inside
    | literal s => cases member
    | ref r =>
      obtain rfl := List.mem_singleton.mp member
      exact free
    | unary op operand =>
      obtain rfl := List.mem_singleton.mp member
      exact free
    | binary op left right =>
      obtain rfl | rfl : child = expr left ∨ child = expr right := by simpa [children] using member
      · exact free.1
      · exact free.2
  | ref r =>
    cases r with
    | var name => cases member
    | index parent position =>
      obtain rfl | rfl : child = ref parent ∨ child = expr position := by simpa [children] using member
      · exact free.1
      · exact free.2
    | field parent key =>
      obtain rfl := List.mem_singleton.mp member
      exact free

theorem Token.Stops.final {token : Token} (stops : token.Stops) : token.Final := by
  cases token <;> first | exact False.elim stops | constructor

theorem Token.Stops.notMark {token : Token} (stops : token.Stops) (mark : Mark) :
    token.isMark mark = false := by
  cases token <;> first | rfl | exact False.elim stops

section

variable {α β Time : Type} {cursor : Time → Cursor} {other : Time → Option Cursor} {t t' : Time}

/-- Where the first of two runs has a result, the other one has the same, unless it has been given up. -/
def Repeats (cursor : Time → Cursor) (other : Time → Option Cursor) (t : Time) (post : Time → α → Prop)
    (p p' : Parser α) : Prop :=
  ∀ a rest, p (cursor t) = .ok a rest → ∃ t', cursor t' = rest ∧ post t' a ∧
    ∀ after, other t' = some after → ∃ before, other t = some before ∧ p' before = .ok a after

namespace Repeats

variable {R : Time → α → Prop} {Q : Time → β → Prop}

theorem never {p p' : Parser β} (none : ∀ a rest, p (cursor t) ≠ .ok a rest) : Repeats cursor other t Q p p' :=
  fun a rest ran => absurd ran (none a rest)

theorem pure {a : β} (got : Q t a) : Repeats cursor other t Q (Pure.pure a) (Pure.pure a) := by
  intro b rest ran
  cases ran
  exact ⟨t, rfl, got, fun after along => ⟨after, along, rfl⟩⟩

theorem bind {p p' : Parser α} {f f' : α → Parser β} (first : Repeats cursor other t R p p')
    (second : ∀ {t' a}, R t' a → Repeats cursor other t' Q (f a) (f' a)) :
    Repeats cursor other t Q (p >>= f) (p' >>= f') := by
  intro b rest ran
  obtain ⟨a, middle, ran, later⟩ := bindEqOk.mp ran
  obtain ⟨t', rfl, got, same⟩ := first a middle ran
  obtain ⟨t'', rfl, got', same'⟩ := second got b rest later
  refine ⟨t'', rfl, got', fun after along => ?_⟩
  obtain ⟨between, along, ran''⟩ := same' after along
  obtain ⟨before, along, ran'⟩ := same between along
  exact ⟨before, along, bindEqOk.mpr ⟨a, between, ran', ran''⟩⟩

theorem like {p p' q q' : Parser β} (t' : Time) (same : q (cursor t) = p (cursor t'))
    (same' : ∀ after, other t' = some after → ∃ before, other t = some before ∧ q' before = p' after)
    (h : Repeats cursor other t' Q p p') : Repeats cursor other t Q q q' := by
  intro a rest ran
  obtain ⟨t'', there, got, alike⟩ := h a rest (same ▸ ran)
  refine ⟨t'', there, got, fun final along => ?_⟩
  obtain ⟨after, along, ran'⟩ := alike final along
  obtain ⟨before, along, eq⟩ := same' after along
  exact ⟨before, along, eq.trans ran'⟩

theorem along {second : Time → Cursor} {p p' q q' : Parser β} (t' : Time) (same : q (cursor t) = p (cursor t'))
    (same' : q' (second t) = p' (second t')) (h : Repeats cursor (fun t => some (second t)) t' Q p p') :
    Repeats cursor (fun t => some (second t)) t Q q q' :=
  h.like t' same fun _ here => ⟨second t, rfl, Option.some.inj here ▸ same'⟩

end Repeats

end

section

variable {stop stop' : List Lexeme} {c c' : Cursor}

theorem Beside.step (beside : Beside stop stop' c c') :
    (c'.token = c.token ∧ Beside stop stop' c.advance c'.advance) ∨ c.token.Stops ∧ c'.token.Stops := by
  obtain ⟨halts, halts', row, row', ahead, ahead', same⟩ := beside
  obtain ⟨previous, _⟩ := c
  obtain ⟨previous', _⟩ := c'
  subst ahead ahead'
  cases row with
  | nil =>
    obtain rfl := List.map_eq_nil_iff.mp same.symm
    obtain ⟨_, _, rfl, stops⟩ := halts
    obtain ⟨_, _, rfl, stops'⟩ := halts'
    exact .inr ⟨stops, stops'⟩
  | cons lexeme row =>
    obtain ⟨lexeme', row', rfl, token, same⟩ := List.map_eq_cons_iff.mp same.symm
    exact .inl ⟨token, halts, halts', row, row', rfl, rfl, same.symm⟩

theorem Beside.inside (beside : Beside stop stop' c c') (goesOn : ¬c.token.Stops) :
    c'.token = c.token ∧ Beside stop stop' c.advance c'.advance :=
  beside.step.resolve_right fun stops => goesOn stops.1

/-- Two runs on rows that are alike up to a stop, or the first one by itself. -/
structure Abreast (stop stop' : List Lexeme) where
  first : Cursor
  other : Option Cursor
  beside : ∀ c', other = some c' → Beside stop stop' first c'

namespace Abreast

def alone (c : Cursor) : Abreast stop stop' := ⟨c, none, fun _ along => by cases along⟩

def advance (t : Abreast stop stop') (goesOn : t.other ≠ none → ¬t.first.token.Stops) : Abreast stop stop' where
  first := t.first.advance
  other := t.other.map Cursor.advance
  beside := by
    intro c' along
    obtain ⟨before, here, rfl⟩ := Option.map_eq_some_iff.mp along
    exact ((t.beside before here).inside (goesOn (by simp [here]))).2

theorem advanced {t : Abreast stop stop'} {goesOn : t.other ≠ none → ¬t.first.token.Stops} {after : Cursor}
    (along : (t.advance goesOn).other = some after) :
    ∃ before, t.other = some before ∧ before.token = t.first.token ∧ after = before.advance := by
  obtain ⟨before, here, rfl⟩ := Option.map_eq_some_iff.mp along
  exact ⟨before, here, ((t.beside before here).inside (goesOn (by simp [here]))).1, rfl⟩

end Abreast

/-- The first run is followed everywhere, the other one only where no call and no function literal is read. -/
def alike (stop stop' : List Lexeme) : Manner where
  Time := Abreast stop stop'
  cursor := Abreast.first
  reads t := t.other = none
  edge t := t.other ≠ none ∧ t.first.token.Stops
  calm t t' := t'.other = none → t.other = none
  odd part := ¬part.CallFree
  inner t := .alone t.first
  holds := Repeats Abreast.first Abreast.other
  calmRefl _ := id
  calmTrans first second ended := first (second ended)
  oddChild member odd free := odd (free.child member)
  oddLiteral odd := odd trivial
  oddFunc _ _ _ _ := .inr id
  innerReads _ := rfl
  enter := fun {_ t _ _ _} h => by
    intro a rest ran
    obtain ⟨t', there, got, same⟩ := h a rest ran
    refine ⟨t', there, got, fun after along => ?_⟩
    obtain ⟨_, none, _⟩ := same after along
    cases none
  spent _ := .never fun _ _ ran => by cases ran
  pure := .pure
  refuse _ := .never fun _ _ ran => by cases ran
  unexpected _ := .never fun _ _ ran => by cases ran
  late _ := .never fun _ _ ran => by cases ran
  bind := .bind
  peek := fun {_ t _ f f'} h idle => by
    refine .like t rfl (fun before along => ⟨before, along, ?_⟩) h
    rcases (t.beside before along).step with ⟨same, _⟩ | ⟨stops, stops'⟩
    · exact congrArg (f' · before) same
    · have quiet := idle ⟨by simp [along], stops⟩
      exact congrFun ((quiet _ (.final stops'.final)).2.trans (quiet _ (.final stops.final)).2.symm) before
  advance := fun {_ t _ f f'} h fails => by
    by_cases stops : t.first.token.Stops
    · exact .never (fails _ stops.final _)
    · refine .like t rfl (fun before along => ⟨before, along, ?_⟩) h
      exact congrArg (f' · before.advance) ((t.beside before along).inside stops).1
  pass := fun {_ t _ _ _ q q'} _ _ inside _ later => by
    have goesOn (along : t.other ≠ none) (stops : t.first.token.Stops) : False := inside stops.final ⟨along, stops⟩
    refine .like (t.advance goesOn) rfl (fun after along => ?_)
      (later ⟨rfl, id, Option.map_eq_none_iff.mpr, trivial, Option.map_eq_none_iff.mp⟩)
    obtain ⟨before, here, _, rfl⟩ := Abreast.advanced along
    exact ⟨before, here, rfl⟩
  eat := fun {_ t _ _ mark _ f f'} _ _ _ _ _ found missing => by
    cases held : t.first.token.isMark mark with
    | true =>
      have goesOn (_ : t.other ≠ none) (stops : t.first.token.Stops) : False := by simp [stops.notMark] at held
      refine .like (t.advance goesOn) (eatHeld held) (fun after along => ?_)
        (found held ⟨rfl, id, Option.map_eq_none_iff.mpr, trivial, Option.map_eq_none_iff.mp⟩)
      obtain ⟨before, here, same, rfl⟩ := Abreast.advanced along
      exact ⟨before, here, eatHeld (same ▸ held)⟩
    | false =>
      refine .like t (eatLeft held) (fun before along => ⟨before, along, eatLeft ?_⟩) missing
      rcases (t.beside before along).step with ⟨same, _⟩ | ⟨_, stops'⟩
      · rw [same, held]
      · exact stops'.notMark mark
  eatWord := fun {_ t _ word _ _ _} reads _ found missing => by
    cases behind : Cursor.behindWord word t.first.ahead with
    | none =>
      refine .like t (eatWordLeft behind) (fun before along => ?_) (missing behind)
      cases reads.symm.trans along
    | some rest =>
      exact .like (.alone rest) (eatWordHeld behind) (fun _ along => by cases along)
        (found behind ⟨rfl, id, fun _ => rfl, trivial, fun _ => reads⟩)
  endStatement := fun {t _} reads _ => by
    intro a rest ran
    refine ⟨.alone rest, rfl, .bare (endLeft ran) id ?_ trivial fun _ => reads, fun _ along => by cases along⟩
    exact fun _ => rfl
  edgeNever reads edge := absurd reads edge.1
  edgeStmt reads edge := absurd reads edge.1
  edgeBody reads edge := absurd reads edge.1
  edgeReturn reads edge := absurd reads edge.1

theorem exprAlike {n : Nat} {tree : Expr} {rest : Cursor} (beside : Beside stop stop' c c')
    (ran : expr n c = .ok tree rest) (free : tree.CallFree) :
    ∃ rest', expr n c' = .ok tree rest' ∧ Beside stop stop' rest rest' := by
  let start : (alike stop stop').Time := Abreast.mk c (some c') fun _ here => Option.some.inj here ▸ beside
  have ready : (alike stop stop').Ready n 20 start [] := ⟨False.elim, trivial⟩
  obtain ⟨t, rfl, passage, same⟩ := ((alike stop stop').walked n).whole ready tree rest ran
  -- Nothing odd has been read, so the other run has not been given up.
  have calm : t.other = none → some c' = none := by
    rcases passage.kept with calm | ⟨part, member, odd⟩
    · exact calm
    · obtain rfl := List.mem_singleton.mp member
      exact absurd free odd
  cases along : t.other with
  | none => cases calm along
  | some after =>
    obtain ⟨before, here, ran'⟩ := same after along
    cases here
    exact ⟨after, ran', t.beside after along⟩

end

/-- The tree of a source that is one expression and nothing else. -/
def readAlone? (source : String) : Option Expr :=
  match tokenizeCode source with
  | .error _ => none
  | .ok row =>
    match expr (budget row.length) ⟨none, row⟩ with
    | .ok tree ⟨_, [lexeme]⟩ => if lexeme.token.isEof then some tree else none
    | _ => none

theorem readAloneCases {source : String} {tree : Expr} (alone : readAlone? source = some tree) :
    ∃ row n last lexeme, tokenizeCode source = .ok row ∧ lexeme.token = .eof ∧
      expr n ⟨none, row⟩ = .ok tree ⟨last, [lexeme]⟩ := by
  unfold readAlone? at alone
  split at alone
  · cases alone
  · rename_i row taken
    split at alone
    · rename_i made last lexeme ran
      split at alone
      · rename_i ends
        cases alone
        refine ⟨row, _, last, lexeme, taken, ?_, ran⟩
        cases shape : lexeme.token <;> simp_all [Token.isEof]
      · cases alone
    · cases alone

section

variable {row : List Lexeme} {n : Nat} {last : Option Lexeme} {lexeme : Lexeme} {tree : Expr}

theorem aloneStops (ran : expr n ⟨none, row⟩ = .ok tree ⟨last, [lexeme]⟩) (free : tree.CallFree)
    {before stop : List Lexeme} (split : row = before ++ stop) (halts : Halts stop)
    {stop' : List Lexeme} (halts' : Halts stop') {row' before' : List Lexeme} (split' : row' = before' ++ stop')
    (same : before.map Lexeme.token = before'.map Lexeme.token) (previous : Option Lexeme) :
    stop = [lexeme] ∧ ∃ last', expr n ⟨previous, row'⟩ = .ok tree ⟨last', stop'⟩ := by
  have beside : Beside stop stop' ⟨none, row⟩ ⟨previous, row'⟩ :=
    ⟨halts, halts', before, before', split, split', same⟩
  obtain ⟨⟨last', ahead'⟩, ran', beside'⟩ := exprAlike beside ran free
  obtain ⟨left, left', ahead, behind, same'⟩ := beside'.rows
  obtain ⟨first, more, rfl, _⟩ := halts
  cases left with
  | nil =>
    obtain rfl := List.map_eq_nil_iff.mp same'.symm
    cases behind
    exact ⟨ahead.symm, last', ran'⟩
  | cons _ _ => simp at ahead

theorem aloneKnown (ran : expr n ⟨none, row⟩ = .ok tree ⟨last, [lexeme]⟩) (free : tree.CallFree)
    (ends : lexeme.token = .eof) : ∀ other ∈ row, ∀ u, other.token ≠ .unknown u := by
  intro other member u unknown
  obtain ⟨before, behind, split⟩ := List.append_of_mem member
  have halts : Halts (other :: behind) := ⟨other, behind, rfl, by rw [unknown]; trivial⟩
  obtain ⟨same, _⟩ := aloneStops ran free split halts halts split rfl none
  cases same
  rw [ends] at unknown
  cases unknown

theorem aloneReads (ran : expr n ⟨none, row⟩ = .ok tree ⟨last, [lexeme]⟩) (free : tree.CallFree)
    {body more : List Token} (spells : row.map Lexeme.token = body ++ [.eof]) :
    Reads expr (body ++ .echoClose :: more) tree (.echoClose :: more) := by
  intro previous row' spells'
  obtain ⟨before, stop, split, ended, stopped⟩ := List.map_eq_append_iff.mp spells
  obtain ⟨before', stop', split', ended', stopped'⟩ := List.map_eq_append_iff.mp spells'
  have halts : Halts stop := by
    obtain ⟨end', rest, rfl, eof, _⟩ := List.map_eq_cons_iff.mp stopped
    exact ⟨end', rest, rfl, by rw [eof]; trivial⟩
  have halts' : Halts stop' := by
    obtain ⟨close, rest, rfl, echoClose, _⟩ := List.map_eq_cons_iff.mp stopped'
    exact ⟨close, rest, rfl, by rw [echoClose]; trivial⟩
  obtain ⟨_, last', ran'⟩ :=
    aloneStops ran free split halts halts' split' (ended.trans ended'.symm) previous
  exact ⟨last', _, ⟨before', split'.symm⟩, stopped', n,
    fun m enough => exprProceeds.ok enough ran'⟩

end

def textStatements (text : String) : List Stmt := if text = "" then [] else [.text text]

-- From whatever line the text is read, its tokens are those of the statements.
def Parses (text : List Char) (stmts : List Stmt) : Prop :=
  ∀ line, ∃ row, Scan.tokens true ⟨.text, line, text⟩ = .ok row ∧
    Reads statements (row.map Lexeme.token) stmts [.eof]

namespace Parses

variable {rest : List Char} {stmts : List Stmt}

theorem nil : Parses [] [] := by
  intro line
  refine ⟨_, Scan.endTokens line, .deeper ?_⟩
  unfold statements
  exact (Reads.peek _).bind (.pure _ _)

theorem cons {stmt : Stmt} {tokens middle : List Token} (first : Reads statement tokens stmt middle)
    (filled : CircuitScript.first tokens ≠ .eof) (later : Reads statements middle stmts [.eof]) :
    Reads statements tokens (stmt :: stmts) [.eof] := by
  refine .deeper ?_
  unfold statements
  refine (Reads.peek _).bind ?_
  split
  · contradiction
  · exact first.bind (later.bind (.pure _ _))

theorem text {text : String} (plain : ¬['<', '?'] <:+: text.toList)
    (stops : rest = [] ∨ ∃ more, rest = '<' :: '?' :: more) (later : Parses rest stmts) :
    Parses (text.toList ++ rest) (textStatements text ++ stmts) := by
  intro line
  by_cases blank : text = ""
  · subst blank
    exact later line
  · have filled : text.toList ≠ [] := by simpa using blank
    obtain ⟨last, read⟩ := Scan.textTokens plain filled stops line
    obtain ⟨row, read', reads⟩ := later last
    refine ⟨⟨line, .text text⟩ :: row, by rw [read, read']; simp [Except.map], ?_⟩
    simp only [textStatements, if_neg blank, List.singleton_append, List.map_cons]
    refine cons (.deeper ?_) nofun reads
    unfold statement
    exact (Reads.peek _).bind ((Reads.advance _ _).bind (.pure _ _))

theorem echo {source : String} {tree : Expr} (alone : readAlone? source = some tree) (free : tree.CallFree)
    (closed : Region.code.after source.toList ≠ .lineComment) (later : Parses rest stmts) :
    Parses ('<' :: '?' :: '=' :: (source.toList ++ '?' :: '>' :: rest)) (.print [tree] :: stmts) := by
  intro line
  obtain ⟨row, n, last, lexeme, taken, ends, ran⟩ := readAloneCases alone
  obtain ⟨body, final, spells, read⟩ :=
    Scan.closedSection (by decide : Mode.echo ≠ .text) taken (aloneKnown ran free ends) closed line rest
  obtain ⟨behind, read', reads⟩ := later final
  refine ⟨⟨line, .echoOpen⟩ :: (body ++ ⟨final, .echoClose⟩ :: behind), ?_, ?_⟩
  · rw [Scan.openTokens, read, read']
    rfl
  · simp only [List.map_cons, List.map_append]
    refine cons (.deeper ?_) nofun reads
    unfold statement
    refine (Reads.peek _).bind ((Reads.advance _ _).bind ((aloneReads ran free spells).bind ?_))
    exact (Reads.peek _).bind ((Reads.advance _ _).bind (.pure _ _))

theorem parseTemplateEq {source : String} (parses : Parses source.toList stmts) :
    parseTemplate source = .ok (.block stmts) := by
  obtain ⟨row, read, reads⟩ := parses 1
  obtain ⟨last, behind, _, _, least, ran⟩ := reads none row rfl
  have here := statementsProceeds.okWithEnough (ran least (Nat.le_refl _))
    (show 32 * row.length + 5 ≤ budget row.length by unfold budget; omega)
  show (tokenizeTemplate source >>= parseTokens) = _
  rw [tokenizeTemplate, read]
  show parseTokens row = _
  unfold parseTokens
  rw [here]

end Parses

end CircuitScript
