import CircuitScript.Proofs.Manner

/-! The walk through the grammar: if two runs keep to a manner of reading in every step, they do so in every parser, and
what they read is well formed. Proved for all parsers together, by induction on the budget. -/
namespace CircuitScript

open CircuitScript.Parser

/-- The two runs of every parser go together, the first one with budget `n`. -/
structure Manner.Walked (G : Manner) (n n' : Nat) : Prop where
  stmt : ∀ {t stack}, G.Ready n 4 t stack → G.reads t →
    G.holds t (fun t' s => G.Stated 1 t stack s t') (statement n) (statement n')
  keyword : ∀ {t stack} word, G.Ready n 22 t stack → G.reads t → G.Behind word t →
    G.holds t (fun t' s => G.Stated 0 t stack s t') (keywordStatement n word) (keywordStatement n' word)
  value : ∀ {t stack}, G.Ready n 21 t stack → ¬G.edge t →
    G.holds t (fun t' e => G.Passage 0 t stack [.expr e] t') (returned n) (returned n')
  braces : ∀ {t stack}, G.Ready n 1 t stack → G.reads t →
    G.holds t (fun t' s => G.Stated 1 t stack s t') (block n) (block n')
  body : ∀ {t stack}, G.Ready n 5 t (.brace :: stack) → G.reads t →
    G.holds t (fun t' body => G.Passage 1 t stack (body.map .stmt) t') (blockBody n) (blockBody n')
  simple : ∀ {t stack}, G.Ready n 3 t stack →
    G.holds t (fun t' s => s.Simple ∧ G.Passage 1 t stack [.stmt s] t') (simpleStatement n) (simpleStatement n')
  parens : ∀ {t stack}, G.Ready n 1 t stack →
    G.holds t (fun t' e => G.Passage 1 t stack [.expr e] t') (enclosed n) (enclosed n')
  args : ∀ {t stack}, G.Ready n 1 t stack →
    G.holds t (fun t' args => G.Passage 1 t stack (args.map .expr) t') (arguments n) (arguments n')
  list : ∀ {t stack bracket closing}, closing ≠ .slash ∧ closing ≠ .semicolon ∧ closing ≠ .lBrace →
    (Token.mark closing).turn (bracket :: stack) = some stack → G.Ready n 21 t (bracket :: stack) →
    G.holds t (fun t' items => G.Passage 1 t stack (items.map .expr) t') (items n closing) (items n' closing)
  map : ∀ {t stack}, G.Ready n 1 t (.brace :: stack) →
    G.holds t (fun t' entries => G.Passage 1 t stack (entries.map fun entry => .expr entry.2) t')
      (entries n) (entries n')
  func : ∀ {t stack}, G.Ready n 1 t stack → G.reads t →
    G.holds t (fun t' made => (∀ param ∈ made.1, G.Named param) ∧ G.Stated 1 t stack made.2 t')
      (function n) (function n')
  params : ∀ {t stack}, G.Ready n 1 t (.paren :: stack) →
    G.holds t (fun t' params => (∀ param ∈ params, G.Named param) ∧ G.Passage 1 t stack [] t')
      (parameters n) (parameters n')
  whole : ∀ {t stack}, G.Ready n 20 t stack →
    G.holds t (fun t' e => G.Passage 1 t stack [.expr e] t') (expr n) (expr n')
  level : ∀ {t stack} l, G.Ready n (19 - 2 * l.rank) t stack →
    G.holds t (fun t' e => G.Passage 1 t stack [.expr e] t') (operation n l) (operation n' l)
  side : ∀ {t stack} l, G.Ready n (18 - 2 * l.rank) t stack →
    G.holds t (fun t' e => G.Passage 1 t stack [.expr e] t') (operand n l) (operand n' l)
  levelFrom : ∀ {t₀ t stack least} l {left}, G.Ready n 1 t stack → G.Passage least t₀ stack [.expr left] t →
    G.holds t (fun t' e => G.Passage least t₀ stack [.expr e] t') (operationFrom n l left) (operationFrom n' l left)
  signed : ∀ {t stack}, G.Ready n 3 t stack →
    G.holds t (fun t' e => G.Passage 1 t stack [.expr e] t') (unary n) (unary n')
  postfixed : ∀ {t stack}, G.Ready n 2 t stack →
    G.holds t (fun t' e => G.Passage 1 t stack [.expr e] t') (applied n) (applied n')
  postfixedFrom : ∀ {t₀ t stack least} {e}, G.Ready n 2 t stack → G.Passage least t₀ stack [.expr e] t →
    G.holds t (fun t' e => G.Passage least t₀ stack [.expr e] t') (appliedFrom n e) (appliedFrom n' e)
  atom : ∀ {t stack}, G.Ready n 1 t stack →
    G.holds t (fun t' e => G.Passage 1 t stack [.expr e] t') (primary n) (primary n')

namespace Manner.Walked

variable {G : Manner} {t t₀ : G.Time} {stack : List Bracket} {least n n' : Nat}

theorem zero : G.Walked 0 n' where
  stmt ready _ := G.spent (ready.notEnough (by decide))
  keyword _ ready _ _ := G.spent (ready.notEnough (by decide))
  value ready _ := G.spent (ready.notEnough (by decide))
  braces ready _ := G.spent (ready.notEnough (by decide))
  body ready _ := G.spent (ready.notEnough (by decide))
  simple ready := G.spent (ready.notEnough (by decide))
  parens ready := G.spent (ready.notEnough (by decide))
  args ready := G.spent (ready.notEnough (by decide))
  list _ _ ready := G.spent (ready.notEnough (by decide))
  map ready := G.spent (ready.notEnough (by decide))
  func ready _ := G.spent (ready.notEnough (by decide))
  params ready := G.spent (ready.notEnough (by decide))
  whole ready := G.spent (ready.notEnough (by decide))
  level l ready := G.spent (ready.notEnough (by have := l.rankLe; omega))
  side l ready := G.spent (ready.notEnough (by have := l.rankLe; omega))
  levelFrom _ _ ready _ := G.spent (ready.notEnough (by decide))
  signed ready := G.spent (ready.notEnough (by decide))
  postfixed ready := G.spent (ready.notEnough (by decide))
  postfixedFrom ready _ := G.spent (ready.notEnough (by decide))
  atom ready := G.spent (ready.notEnough (by decide))

variable (below : G.Walked n n')
include below

theorem closedNext (ready : G.Ready (n + 1) 4 t stack) (reads : G.reads t) :
    G.holds t (fun t' s => G.Stated 1 t stack s t')
      (simpleStatement n >>= fun s => Parser.endStatement >>= fun _ => Pure.pure s)
      (simpleStatement n' >>= fun s => Parser.endStatement >>= fun _ => Pure.pure s) := by
  refine G.bind (below.simple (ready.here (by decide))) fun {_ s} ⟨simple, p₁⟩ => ?_
  refine G.bind (G.endStatement (p₁.reads reads) p₁.nested) fun p₂ => G.pure ⟨p₁.past p₂, fun openly => ?_⟩
  cases s <;> first | exact simple.elim | exact openly.elim

theorem stmtNext (ready : G.Ready (n + 1) 4 t stack) (reads : G.reads t) :
    G.holds t (fun t' s => G.Stated 1 t stack s t') (statement (n + 1)) (statement (n' + 1)) := by
  by_cases edge : G.edge t
  · refine G.edgeStmt reads edge ready.nested fun passage => ?_
    exact passage.stmt ⟨fun _ => trivial, trivial⟩ fun openly => openly.elim
  · unfold statement
    refine G.peek ?_ fun there => absurd there edge
    generalize seen : (G.cursor t).token = token
    split
    · refine passing seen ready.nested rfl (fun _ => edge) (by simp) fun _ p₁ => G.pure ?_
      exact p₁.stmt ⟨fun _ => trivial, trivial⟩ fun openly => openly.elim
    · refine passing seen ready.nested rfl (fun _ => edge) (by simp) fun _ p₁ => ?_
      refine G.bind (below.whole (ready.call p₁ (by decide))) fun {t₂ e} p₂ => ?_
      by_cases late : G.edge t₂
      · exact G.edgeNever (p₂.reads (p₁.reads reads)) late (.peek (.unexpected _)) (.peek (.unexpected _))
      · refine G.peek ?_ fun there => absurd there late
        generalize seen : (G.cursor t₂).token = token
        split
        · refine passing seen p₂.nested rfl (fun _ => late) (by simp) fun _ p₃ => G.pure ?_
          exact (((p₁.trans p₂).past p₃).less (by decide)).stmt ⟨fun _ => trivial, trivial⟩ fun openly => openly.elim
        · exact G.unexpected rfl
    · exact below.braces (ready.here (by decide)) reads
    · refine passing seen ready.nested rfl (fun _ => edge) (by simp) fun _ p₁ => G.pure ?_
      exact p₁.stmt ⟨fun _ => trivial, trivial⟩ fun openly => openly.elim
    · rename_i word
      split
      · refine passing seen ready.nested rfl (fun _ => edge) (by simp) fun {t₁} there p₁ => ?_
        have behind : G.Behind word t₁ := by
          unfold Setting.Behind
          rw [there]
          exact Cursor.previousAdvance seen (by simp)
        refine G.weaken (below.keyword word (ready.call p₁ (by decide)) (p₁.reads reads) behind) fun got => ?_
        exact ⟨p₁.trans got.1, got.2⟩
      · exact below.closedNext ready reads
    · exact below.closedNext ready reads

theorem keywordNext (word : String) (ready : G.Ready (n + 1) 22 t stack) (reads : G.reads t)
    (behind : G.Behind word t) :
    G.holds t (fun t' s => G.Stated 0 t stack s t')
      (keywordStatement (n + 1) word) (keywordStatement (n' + 1) word) := by
  have output : G.holds t (fun t' s => G.Stated 0 t stack s t')
      (arguments n >>= fun args => Parser.endStatement >>= fun _ => outputStatement word args)
      (arguments n' >>= fun args => Parser.endStatement >>= fun _ => outputStatement word args) := by
    refine G.bind (below.args (ready.here (by decide))) fun p₁ => ?_
    refine G.bind (G.endStatement (p₁.reads reads) p₁.nested) fun p₂ => ?_
    exact output word ((p₁.past p₂).less (by decide))
  unfold keywordStatement
  split
  · refine G.bind (below.parens (ready.here (by decide))) fun p₁ => ?_
    refine G.bind (below.stmt (ready.call p₁ (by decide)) (p₁.reads reads)) fun {_ yes} ⟨p₂, open₂⟩ => ?_
    have p₂ := p₁.trans p₂
    refine takingWord (p₂.reads reads) p₂.nested (fun found p₃ => ?_) fun missing => ?_
    · have p₃ := p₂.past p₃
      -- The branch would have taken the word itself if it ended in a conditional.
      have apart : ¬yes.EndsOpen := fun openly => open₂ openly found
      refine G.bind (below.stmt (ready.call p₃ (by decide)) (p₃.reads reads)) fun ⟨p₄, open₄⟩ => G.pure ?_
      exact ((p₃.trans p₄).less (by decide)).stmt ⟨fun _ => trivial, apart⟩ open₄
    · exact G.pure ((p₂.less (by decide)).stmt ⟨fun _ => trivial, trivial⟩ fun _ => missing)
  · refine G.bind (below.parens (ready.here (by decide))) fun p₁ => ?_
    refine G.bind (below.stmt (ready.call p₁ (by decide)) (p₁.reads reads)) fun ⟨p₂, open₂⟩ => G.pure ?_
    exact ((p₁.trans p₂).less (by decide)).stmt ⟨fun _ => trivial, trivial⟩ open₂
  · refine G.bind (below.stmt (ready.here (by decide)) reads) fun ⟨p₁, _⟩ => ?_
    refine takingWord (p₁.reads reads) p₁.nested (fun _ p₂ => ?_) fun _ => G.unexpected rfl
    have p₂ := p₁.past p₂
    refine G.bind (below.whole (ready.call p₂ (by decide))) fun p₃ => ?_
    have p₃ := p₂.trans p₃
    refine G.bind (G.endStatement (p₃.reads reads) p₃.nested) fun p₄ => G.pure ?_
    exact ((p₃.past p₄).less (by decide)).stmt ⟨fun _ => trivial, trivial⟩ fun openly => openly.elim
  · refine expect rfl ready.nested rfl fun p₁ => ?_
    refine G.bind (below.simple (ready.call p₁ (by decide))) fun ⟨simple, p₂⟩ => ?_
    have p₂ := p₁.trans p₂
    refine expectSemicolon ((exprNeeds .eof n).bind _) p₂.nested fun p₃ => ?_
    have p₃ := p₂.past p₃
    refine G.bind (below.whole (ready.call p₃ (by decide))) fun p₄ => ?_
    have p₄ := p₃.trans p₄
    refine expectSemicolon ((simpleNeeds .eof n).bind _) p₄.nested fun p₅ => ?_
    have p₅ := p₄.past p₅
    refine G.bind (below.simple (ready.call p₅ (by decide))) fun ⟨simple', p₆⟩ => ?_
    have p₆ := p₅.trans p₆
    refine expect rfl p₆.nested rfl fun p₇ => ?_
    have p₇ := p₆.past p₇
    refine G.bind (below.stmt (ready.call p₇ (by decide)) (p₇.reads reads)) fun ⟨p₈, open₈⟩ => G.pure ?_
    exact ((p₇.trans p₈).less (by decide)).stmt ⟨fun _ => ⟨simple, simple'⟩, trivial⟩ open₈
  · refine G.bind (name rfl ready.nested) fun ⟨named, p₁⟩ => ?_
    refine G.bind (below.func (ready.call p₁ (by decide)) (p₁.reads reads)) fun ⟨params, p₂, open₂⟩ => G.pure ?_
    refine ⟨.make ⟨fun lexed => ⟨named lexed, fun param member => params param member lexed⟩, trivial⟩ ?_, open₂⟩
    exact (p₁.trans p₂).less (by decide)
  · by_cases edge : G.edge t
    · refine G.edgeReturn reads edge ready.nested behind fun passage => ?_
      exact (passage.literal _).stmt ⟨fun _ => trivial, trivial⟩ fun openly => openly.elim
    · refine G.bind (below.value (ready.here (by decide)) edge) fun p₁ => ?_
      refine G.bind (G.endStatement (p₁.reads reads) p₁.nested) fun p₂ => G.pure ?_
      exact (p₁.past p₂).stmt ⟨fun _ => trivial, trivial⟩ fun openly => openly.elim
  · exact output
  · exact output
  · exact output
  · exact G.refuse rfl

theorem valueNext (ready : G.Ready (n + 1) 21 t stack) (edge : ¬G.edge t) :
    G.holds t (fun t' e => G.Passage 0 t stack [.expr e] t') (returned (n + 1)) (returned (n' + 1)) := by
  unfold returned
  refine G.peek ?_ fun there => absurd there edge
  generalize (G.cursor t).token = token
  split
  · exact G.pure ((stay ready.nested).literal _)
  · exact G.pure ((stay ready.nested).literal _)
  · exact G.weaken (below.whole (ready.here (by decide))) fun passage => passage.less (by decide)

theorem bracesNext (ready : G.Ready (n + 1) 1 t stack) (reads : G.reads t) :
    G.holds t (fun t' s => G.Stated 1 t stack s t') (block (n + 1)) (block (n' + 1)) := by
  unfold block
  refine expect rfl ready.nested rfl fun p₁ => ?_
  refine G.bind (below.body (ready.call p₁ (by decide)) (p₁.reads reads)) fun p₂ => G.pure ?_
  exact ((p₁.trans p₂).less (by decide)).stmt ⟨fun _ => trivial, trivial⟩ fun openly => openly.elim

theorem bodyNext (ready : G.Ready (n + 1) 5 t (.brace :: stack)) (reads : G.reads t) :
    G.holds t (fun t' body => G.Passage 1 t stack (body.map .stmt) t') (blockBody (n + 1)) (blockBody (n' + 1)) := by
  by_cases edge : G.edge t
  · exact G.edgeBody reads edge
  · unfold blockBody
    refine taking (by decide) ready.nested rfl (fun p₁ => G.pure p₁) (G.peek ?_ fun there => absurd there edge)
    generalize (G.cursor t).token = token
    split
    · exact G.unexpected rfl
    · refine G.bind (below.stmt (ready.here (by decide)) reads) fun ⟨p₁, _⟩ => ?_
      refine G.bind (below.body (ready.call p₁ (by decide)) (p₁.reads reads)) fun p₂ => G.pure ?_
      exact (p₁.trans p₂).less (by decide)

theorem simpleNext (ready : G.Ready (n + 1) 3 t stack) :
    G.holds t (fun t' s => s.Simple ∧ G.Passage 1 t stack [.stmt s] t') (simpleStatement (n + 1))
      (simpleStatement (n' + 1)) := by
  unfold simpleStatement
  refine G.bind (below.postfixed (ready.here (by decide))) fun {t₁ target} p₁ => ?_
  refine G.peek ?_ fun _ token idle => ?_
  · generalize seen : (G.cursor t₁).token = token
    have assigned {t' place value} (read : G.Passage 1 t stack [.ref place, .expr value] t') :
        (Stmt.assign place value).Simple ∧ G.Passage 1 t stack [.stmt (.assign place value)] t' :=
      ⟨trivial, .make ⟨fun _ => trivial, trivial⟩ read⟩
    have compounded {t' place value} {op : BinaryOp} (either : op = .add ∨ op = .sub)
        (read : G.Passage 1 t stack [.ref place, .expr value] t') :
        (Stmt.compound place op value).Simple ∧ G.Passage 1 t stack [.stmt (.compound place op value)] t' :=
      ⟨trivial, .make ⟨fun _ => either, trivial⟩ read⟩
    split
    · refine passClear seen p₁.nested rfl rfl fun p₂ => ?_
      have p₂ := p₁.past p₂
      split
      · refine G.bind (below.whole (ready.call p₂ (by decide))) fun p₃ => G.pure ?_
        exact assigned ((p₂.ofRef.trans p₃).less (by decide))
      · exact G.refuse rfl
    · refine passClear seen p₁.nested rfl rfl fun p₂ => ?_
      have p₂ := p₁.past p₂
      refine G.bind (reference rfl target) ?_
      rintro _ place ⟨rfl, rfl⟩
      refine G.bind (below.whole (ready.call p₂ (by decide))) fun p₃ => G.pure ?_
      exact assigned ((p₂.ofRef.trans p₃).less (by decide))
    · refine passClear seen p₁.nested rfl rfl fun p₂ => ?_
      have p₂ := p₁.past p₂
      refine G.bind (below.whole (ready.call p₂ (by decide))) fun p₃ => G.bind (reference rfl target) ?_
      rintro _ place ⟨rfl, rfl⟩
      exact G.pure (compounded (.inl rfl) ((p₂.ofRef.trans p₃).less (by decide)))
    · refine passClear seen p₁.nested rfl rfl fun p₂ => ?_
      have p₂ := p₁.past p₂
      refine G.bind (below.whole (ready.call p₂ (by decide))) fun p₃ => G.bind (reference rfl target) ?_
      rintro _ place ⟨rfl, rfl⟩
      exact G.pure (compounded (.inr rfl) ((p₂.ofRef.trans p₃).less (by decide)))
    · refine passClear seen p₁.nested rfl rfl fun p₂ => ?_
      refine G.bind (reference rfl target) ?_
      rintro _ place ⟨rfl, rfl⟩
      exact G.pure (compounded (.inl rfl) ((p₁.ofRef.trans (p₂.literal _)).less (by decide)))
    · refine passClear seen p₁.nested rfl rfl fun p₂ => ?_
      refine G.bind (reference rfl target) ?_
      rintro _ place ⟨rfl, rfl⟩
      exact G.pure (compounded (.inr rfl) ((p₁.ofRef.trans (p₂.literal _)).less (by decide)))
    · split
      · exact G.pure ⟨trivial, .make ⟨fun _ => trivial, trivial⟩ p₁⟩
      · exact G.unexpected rfl
  · cases idle with
    | final h => cases h <;> exact ⟨rfl, rfl⟩
    | _ => exact ⟨rfl, rfl⟩

theorem parensNext (ready : G.Ready (n + 1) 1 t stack) :
    G.holds t (fun t' e => G.Passage 1 t stack [.expr e] t') (enclosed (n + 1)) (enclosed (n' + 1)) := by
  unfold enclosed
  refine expect rfl ready.nested rfl fun p₁ => ?_
  refine G.bind (below.whole (ready.call p₁ (by decide))) fun p₂ => ?_
  refine expect rfl p₂.nested rfl fun p₃ => G.pure ?_
  exact ((p₁.trans p₂).past p₃).less (by decide)

theorem argsNext (ready : G.Ready (n + 1) 1 t stack) :
    G.holds t (fun t' args => G.Passage 1 t stack (args.map .expr) t') (arguments (n + 1)) (arguments (n' + 1)) := by
  unfold arguments
  refine expect rfl ready.nested rfl fun p₁ => ?_
  refine taking (by decide) p₁.nested rfl (fun p₂ => G.pure ((p₁.past p₂).less (by decide))) ?_
  refine G.weaken (below.list (by decide) rfl (ready.call p₁ (by decide))) fun p₂ => ?_
  exact (p₁.trans p₂).less (by decide)

theorem listNext {bracket : Bracket} {closing : Mark}
    (clear : closing ≠ .slash ∧ closing ≠ .semicolon ∧ closing ≠ .lBrace)
    (closes : (Token.mark closing).turn (bracket :: stack) = some stack)
    (ready : G.Ready (n + 1) 21 t (bracket :: stack)) :
    G.holds t (fun t' items => G.Passage 1 t stack (items.map .expr) t') (items (n + 1) closing)
      (items (n' + 1) closing) := by
  unfold items
  refine G.bind (below.whole (ready.here (by decide))) fun p₁ => ?_
  refine taking clear p₁.nested closes (fun p₂ => G.pure ((p₁.past p₂).less (by decide))) ?_
  refine expectClear rfl rfl p₁.nested rfl fun p₂ => ?_
  have p₂ := p₁.past p₂
  refine G.bind (below.list clear closes (ready.call p₂ (by decide))) fun p₃ => G.pure ?_
  exact (p₂.trans p₃).less (by decide)

theorem mapNext (ready : G.Ready (n + 1) 1 t (.brace :: stack)) :
    G.holds t (fun t' entries => G.Passage 1 t stack (entries.map fun entry => .expr entry.2) t') (entries (n + 1))
      (entries (n' + 1)) := by
  unfold entries
  refine G.bind (mapKey ready.nested) fun p₁ => ?_
  refine expect rfl p₁.nested rfl fun p₂ => ?_
  have p₂ := p₁.trans p₂
  refine G.bind (below.whole (ready.call p₂ (by decide))) fun p₃ => ?_
  have p₃ := p₂.trans p₃
  refine taking (by decide) p₃.nested rfl (fun p₄ => G.pure ((p₃.past p₄).less (by decide))) ?_
  refine expectClear rfl rfl p₃.nested rfl fun p₄ => ?_
  have p₄ := p₃.past p₄
  refine G.bind (below.map (ready.call p₄ (by decide))) fun p₅ => G.pure ?_
  exact (p₄.trans p₅).less (by decide)

theorem funcNext (ready : G.Ready (n + 1) 1 t stack) (reads : G.reads t) :
    G.holds t (fun t' made => (∀ param ∈ made.1, G.Named param) ∧ G.Stated 1 t stack made.2 t')
      (function (n + 1)) (function (n' + 1)) := by
  unfold function
  refine expect rfl ready.nested rfl fun p₁ => ?_
  have body {t₂} {params : List String} (named : ∀ param ∈ params, G.Named param) (p₂ : G.Passage 2 t stack [] t₂) :
      G.holds t₂ (fun t' made => (∀ param ∈ made.1, G.Named param) ∧ G.Stated 1 t stack made.2 t')
        (statement n >>= fun body => Pure.pure (params, body))
        (statement n' >>= fun body => Pure.pure (params, body)) := by
    refine G.bind (below.stmt (ready.call p₂ (by decide)) (p₂.reads reads)) fun ⟨p₃, open₃⟩ => G.pure ?_
    exact ⟨named, (p₂.trans p₃).less (by decide), open₃⟩
  refine taking (by decide) p₁.nested rfl (fun p₂ => ?_) ?_
  · exact body (List.forall_mem_nil _) (p₁.trans p₂)
  · refine G.bind (below.params (ready.call p₁ (by decide))) fun ⟨named, p₂⟩ => ?_
    exact body named (p₁.trans p₂)

theorem paramsNext (ready : G.Ready (n + 1) 1 t (.paren :: stack)) :
    G.holds t (fun t' params => (∀ param ∈ params, G.Named param) ∧ G.Passage 1 t stack [] t')
      (parameters (n + 1)) (parameters (n' + 1)) := by
  unfold parameters
  refine G.bind (name rfl ready.nested) fun ⟨named, p₁⟩ => ?_
  refine taking (by decide) p₁.nested rfl (fun p₂ => G.pure ?_) ?_
  · exact ⟨List.forall_mem_singleton.mpr named, (p₁.trans p₂).less (by decide)⟩
  · refine expectClear rfl rfl p₁.nested rfl fun p₂ => ?_
    have p₂ := p₁.trans p₂
    refine G.bind (below.params (ready.call p₂ (by decide))) fun ⟨others, p₃⟩ => G.pure ?_
    exact ⟨List.forall_mem_cons.mpr ⟨named, others⟩, (p₂.trans p₃).less (by decide)⟩

theorem levelNext (l : Level) (ready : G.Ready (n + 1) (19 - 2 * l.rank) t stack) :
    G.holds t (fun t' e => G.Passage 1 t stack [.expr e] t') (operation (n + 1) l) (operation (n' + 1) l) := by
  have bound := l.rankLe
  unfold operation
  refine G.bind (below.side l (ready.here (by omega))) fun p₁ => ?_
  exact below.levelFrom l (ready.call p₁ (by omega)) p₁

theorem sideNext (l : Level) (ready : G.Ready (n + 1) (18 - 2 * l.rank) t stack) :
    G.holds t (fun t' e => G.Passage 1 t stack [.expr e] t') (operand (n + 1) l) (operand (n' + 1) l) := by
  have bound := l.rankLe
  unfold operand
  split
  · rename_i next tighter
    have above := Level.rankTighter tighter
    exact below.level next (ready.here (by omega))
  · rename_i tightest
    have top := Level.rankTightest tightest
    exact below.signed (ready.here (by omega))

theorem levelFromNext (l : Level) {left : Expr} (ready : G.Ready (n + 1) 1 t stack)
    (before : G.Passage least t₀ stack [.expr left] t) :
    G.holds t (fun t' e => G.Passage least t₀ stack [.expr e] t') (operationFrom (n + 1) l left)
      (operationFrom (n' + 1) l left) := by
  unfold operationFrom
  refine G.peek ?_ fun _ token idle => ?_
  · cases seen : (G.cursor t).token with
    | mark mark =>
      dsimp only
      split
      · rename_i op stands
        have acts : ¬(Token.mark mark).Idle := by
          intro idle
          rw [Level.operatorIdle idle] at stands
          cases stands
        have turned : (G.cursor t).token.turn stack = some stack := by
          rw [seen]
          exact Level.operatorTurn stands
        refine pastToken ready.nested turned (fun final => absurd (.final (seen ▸ final)) acts) ?_ fun _ p₁ => ?_
        · exact fun _ => ((operationNeeds .semicolon n).2 l).bind _
        · refine G.bind (below.side l (ready.call p₁ (by omega))) fun p₂ => ?_
          refine below.levelFrom l (ready.call (p₁.trans p₂) (by omega)) (.make ⟨fun _ => trivial, trivial⟩ ?_)
          exact ((before.past p₁).trans p₂).less (by omega)
      · exact G.pure before
    | _ => exact G.pure before
  · cases idle with
    | final h => cases h <;> first | exact ⟨rfl, rfl⟩ | (cases l <;> exact ⟨rfl, rfl⟩)
    | brace => cases l <;> exact ⟨rfl, rfl⟩
    | str s => exact ⟨rfl, rfl⟩

theorem signedNext (ready : G.Ready (n + 1) 3 t stack) :
    G.holds t (fun t' e => G.Passage 1 t stack [.expr e] t') (unary (n + 1)) (unary (n' + 1)) := by
  unfold unary
  refine G.peek ?_ fun _ token idle => ?_
  · cases seen : (G.cursor t).token with
    | mark mark =>
      dsimp only
      split
      · rename_i op stands
        have acts : ¬(Token.mark mark).Idle := by
          intro idle
          rw [unaryOperatorIdle idle] at stands
          cases stands
        have plain : Token.mark mark ≠ .mark .slash := by
          rintro ⟨⟩
          cases stands
        have inside (final : (Token.mark mark).Final) : ¬G.edge t := absurd (.final final) acts
        refine passing seen ready.nested (unaryTurn stands) inside plain fun _ p₁ => ?_
        refine G.bind (below.signed (ready.call p₁ (by decide))) fun p₂ => G.pure ?_
        exact ((p₁.trans p₂).less (by decide)).unary op
      · exact below.postfixed (ready.here (by decide))
    | _ => exact below.postfixed (ready.here (by decide))
  · cases idle with
    | final h => cases h <;> exact ⟨rfl, rfl⟩
    | _ => exact ⟨rfl, rfl⟩

theorem postfixedNext (ready : G.Ready (n + 1) 2 t stack) :
    G.holds t (fun t' e => G.Passage 1 t stack [.expr e] t') (applied (n + 1)) (applied (n' + 1)) := by
  unfold applied
  refine G.bind (below.atom (ready.here (by decide))) fun p₁ => ?_
  exact below.postfixedFrom (ready.call p₁ (by decide)) p₁

theorem postfixedFromNext {e : Expr} (ready : G.Ready (n + 1) 2 t stack)
    (before : G.Passage least t₀ stack [.expr e] t) :
    G.holds t (fun t' e => G.Passage least t₀ stack [.expr e] t') (appliedFrom (n + 1) e) (appliedFrom (n' + 1) e) := by
  unfold appliedFrom
  refine G.peek ?_ fun _ token idle => ?_
  · generalize seen : (G.cursor t).token = token
    split
    · refine G.bind (below.args (ready.here (by decide))) fun p₁ => ?_
      refine below.postfixedFrom (ready.call p₁ (by decide)) (.make ⟨fun _ => trivial, trivial⟩ ?_)
      exact (before.trans p₁).less (by omega)
    · refine passClear seen ready.nested rfl rfl fun p₁ => ?_
      refine G.bind (below.whole (ready.call p₁ (by decide))) fun p₂ => ?_
      have p₂ := p₁.trans p₂
      refine expect rfl p₂.nested rfl fun p₃ => ?_
      have p₃ := p₂.past p₃
      refine G.bind (reference rfl e) ?_
      rintro _ parent ⟨rfl, rfl⟩
      refine below.postfixedFrom (ready.call p₃ (by decide)) (.ref (.make ⟨fun _ => trivial, trivial⟩ ?_))
      exact (before.ofRef.trans p₃).less (by omega)
    · refine passClear seen ready.nested rfl rfl fun p₁ => ?_
      refine G.bind (fieldName p₁.nested) fun p₂ => ?_
      have p₂ := p₁.trans p₂
      refine G.bind (reference rfl e) ?_
      rintro _ parent ⟨rfl, rfl⟩
      refine below.postfixedFrom (ready.call p₂ (by decide)) (.ref (.make ⟨fun _ => trivial, trivial⟩ ?_))
      exact (before.ofRef.past p₂).less (by omega)
    · exact G.pure before
  · cases idle with
    | final h => cases h <;> exact ⟨rfl, rfl⟩
    | _ => exact ⟨rfl, rfl⟩

theorem atomNext (ready : G.Ready (n + 1) 1 t stack) :
    G.holds t (fun t' e => G.Passage 1 t stack [.expr e] t') (primary (n + 1)) (primary (n' + 1)) := by
  unfold primary
  refine G.advance ?_ fun token final c a rest ran => ?_
  · have literal {token : Token} (seen : (G.cursor t).token = token) (turned : token.turn stack = some stack)
        (clear : token.clear = true) (x : Scalar) :
        G.holds t (fun t' e => G.Passage 1 t stack [.expr e] t') (Parser.advance >>= fun _ => Pure.pure (.literal x))
          (Parser.advance >>= fun _ => Pure.pure (.literal x)) :=
      passClear seen ready.nested turned clear fun p₁ => G.pure (p₁.literal x)
    split
    · exact literal ‹_› rfl rfl _
    · exact literal ‹_› rfl rfl _
    · exact literal ‹_› rfl rfl _
    · exact literal ‹_› rfl rfl _
    · exact literal ‹_› rfl rfl _
    · rename_i seen
      refine passClear seen ready.nested rfl rfl fun {t₁} p₁ => ?_
      refine G.bind (G.enter (below.func (ready.call p₁ (by decide)).inside (G.innerReads t₁))) ?_
      exact fun ⟨named, p₂, _⟩ => G.pure ((p₁.func p₂ named).less (by decide))
    · rename_i word _ _ _ seen
      split
      · exact passClear seen ready.nested rfl rfl fun _ => G.refuse rfl
      · rename_i free
        refine passClear seen ready.nested rfl rfl fun p₁ => G.pure ?_
        refine .ref (.make ⟨fun lexed => ⟨?_, Bool.eq_false_iff.mpr free⟩, trivial⟩ p₁)
        have lexed := G.lexes lexed t
        rw [seen] at lexed
        exact lexed
    · rename_i seen
      refine passClear seen ready.nested rfl rfl fun p₁ => ?_
      refine G.bind (below.whole (ready.call p₁ (by decide))) fun p₂ => ?_
      refine expect rfl p₂.nested rfl fun p₃ => G.pure ?_
      exact ((p₁.trans p₂).past p₃).less (by decide)
    · rename_i seen
      refine passClear seen ready.nested rfl rfl fun p₁ => ?_
      refine taking (by decide) p₁.nested rfl (fun p₂ => G.pure ?_) ?_
      · exact .make ⟨fun _ => trivial, trivial⟩ ((p₁.trans p₂).less (by decide))
      · refine G.bind (below.list (by decide) rfl (ready.call p₁ (by decide))) fun p₂ => G.pure ?_
        exact .make ⟨fun _ => trivial, trivial⟩ ((p₁.trans p₂).less (by decide))
    · rename_i seen
      refine passClear seen ready.nested rfl rfl fun p₁ => ?_
      refine taking (by decide) p₁.nested rfl (fun p₂ => G.pure ?_) ?_
      · exact .make ⟨fun _ => trivial, trivial⟩ ((p₁.trans p₂).less (by decide))
      · refine G.bind (below.map (ready.call p₁ (by decide))) fun p₂ => G.pure ?_
        exact .make ⟨fun _ => trivial, trivial⟩ ((p₁.trans p₂).less (by decide))
    · exact G.late rfl
  · cases final <;> cases ran

theorem next : G.Walked (n + 1) (n' + 1) where
  stmt := below.stmtNext
  keyword := below.keywordNext
  value := below.valueNext
  braces := below.bracesNext
  body := below.bodyNext
  simple := below.simpleNext
  parens := below.parensNext
  args := below.argsNext
  list := below.listNext
  map := below.mapNext
  func := below.funcNext
  params := below.paramsNext
  whole ready := below.level .disjunction (ready.here (by decide))
  level := below.levelNext
  side := below.sideNext
  levelFrom := below.levelFromNext
  signed := below.signedNext
  postfixed := below.postfixedNext
  postfixedFrom := below.postfixedFromNext
  atom := below.atomNext

end Manner.Walked

theorem Manner.walked (G : Manner) (n : Nat) : G.Walked n (n + G.more) := by
  induction n with
  | zero => exact .zero
  | succ n below =>
    rw [Nat.succ_add]
    exact below.next

/-- A row of statements, where the two runs are always in front of the same token. -/
theorem Manner.statements {G : Manner} (inside : ∀ t, ¬G.edge t) (n : Nat) {t : G.Time} {stack : List Bracket}
    (ready : G.Ready n 5 t stack) (reads : G.reads t) :
    G.holds t (fun t' body => G.Passage 0 t stack (body.map .stmt) t' ∧ (G.cursor t').token = .eof)
      (Parser.statements n) (Parser.statements (n + G.more)) := by
  induction n generalizing t with
  | zero => exact G.spent (ready.notEnough (by decide))
  | succ n ih =>
    rw [Nat.succ_add, Parser.statements, Parser.statements]
    refine G.peek ?_ fun there => absurd there (inside t)
    generalize seen : (G.cursor t).token = token
    split
    · exact G.pure ⟨stay ready.nested, seen⟩
    · refine G.bind ((G.walked n).stmt (ready.here (by decide)) reads) fun ⟨p₁, _⟩ => ?_
      refine G.bind (ih (ready.call p₁ (by decide)) (p₁.reads reads)) fun ⟨p₂, ended⟩ => G.pure ?_
      exact ⟨(p₁.trans p₂).less (by decide), ended⟩

end CircuitScript
