import CircuitScript.Proofs.Accepted
import CircuitScript.Proofs.RoundTrip

/-! Every tree that the grammar makes is spelled, with full parentheses, by tokens that read back as the
same tree. -/
namespace CircuitScript

open CircuitScript.Parser

def Expr.hasParens : Expr → Bool
  | .literal _ => false
  | .ref _ => false
  | .func _ _ => false
  | _ => true

/-- Parentheses around every expression that has parts, wherever it stands. A function literal has its own. -/
def fullParens (single : Expr → Expr → Bool) : Style where
  parens _ e := e.hasParens
  single := single

variable {single : Expr → Expr → Bool}

theorem fullCovers : (fullParens single).Covers := by
  intro need e le loose
  cases e with
  | literal s => exact absurd (Nat.lt_of_lt_of_le loose le) (by simp [Expr.tier, Tier.rank])
  | ref r => exact absurd (Nat.lt_of_lt_of_le loose le) (by simp [Expr.tier, Tier.rank])
  | func params body => exact absurd (Nat.lt_of_lt_of_le loose le) (by simp [Expr.tier, Tier.rank])
  | _ => rfl

theorem Stmt.callStarts {e : Expr} (call : e.IsCall) :
    ((Stmt.expr e).opening (fullParens single)).StartsSimple := by
  cases e with
  | call callee args => exact ⟨by decide, by decide⟩
  | _ => exact call.elim

def Part.Readable (style : Style) : Part → Prop
  | stmt s => s.Readable style
  | expr e => e.Readable style
  | ref r => r.Readable style

theorem Expr.readableAll {style : Style} (es : List Expr) :
    Expr.ReadableAll style es ↔ ∀ e ∈ es, e.Readable style := by
  induction es with
  | nil => simp [ReadableAll]
  | cons e es ih => simp [ReadableAll, ih]

theorem Expr.readableEntries {style : Style} (entries : List (String × Expr)) :
    Expr.ReadableEntries style entries ↔ ∀ entry ∈ entries, entry.2.Readable style := by
  induction entries with
  | nil => simp [ReadableEntries]
  | cons entry entries ih =>
    obtain ⟨key, value⟩ := entry
    simp only [ReadableEntries, ih, List.forall_mem_cons]

theorem Stmt.readableAll {style : Style} (body : List Stmt) :
    Stmt.ReadableAll style body ↔ ∀ stmt ∈ body, stmt.Readable style := by
  induction body with
  | nil => simp [ReadableAll]
  | cons stmt body ih => simp [ReadableAll, ih]

theorem Part.Regular.readable {whole : Part} (regular : whole.Regular)
    (below : ∀ child ∈ whole.children, child.Readable (fullParens single)) :
    whole.Readable (fullParens single) := by
  obtain ⟨sound, paired⟩ := regular
  cases whole with
  | stmt s =>
    cases s with
    | ifThen condition yes no =>
      cases no <;> simp_all [children, Part.Readable, Stmt.Readable, Stmt.ReadableElse, Paired]
    | expr e => exact ⟨sound, Stmt.callStarts sound, below (expr e) List.mem_cons_self⟩
    | func name params body => simp_all [children, Part.Readable, Stmt.Readable, Sound, IsName]
    | _ => simp_all [children, Part.Readable, Stmt.Readable, Sound, Expr.readableAll, Stmt.readableAll]
  | expr e =>
    cases e with
    | func params body => simp_all [children, Part.Readable, Expr.Readable, Sound, IsName]
    | map entries =>
      exact (Expr.readableEntries entries).mpr fun entry member => below (expr entry.2) (List.mem_map_of_mem member)
    | _ => simp_all [children, Part.Readable, Expr.Readable, Sound, Expr.readableAll]
  | ref r => cases r <;> simp_all [children, Part.Readable, Reference.Readable, Sound, IsName]

theorem Part.regularReadable (whole : Part) (regular : whole.Everywhere Part.Regular) :
    whole.Readable (fullParens single) := by
  induction whole using Part.induction with
  | step whole ih => exact regular.here.readable fun child member => ih child member (regular.children child member)

theorem spelledReadBack {style : Style} (covers : style.Covers) {body : List Stmt}
    (readable : Stmt.ReadableAll style body) {row : List Lexeme}
    (spells : row.map Lexeme.token = Stmt.spelledAll style body ++ [.eof]) :
    parseTokens row = .ok (.block body) := by
  have read := statementsRead (Stmt.readsAll covers body readable) (Stmt.startAll body readable)
  obtain ⟨last, behind, _, _, least, ran⟩ := read none row spells
  have here := statementsProceeds.okWithEnough (ran least (Nat.le_refl _))
    (show 32 * row.length + 5 ≤ budget row.length by unfold budget; omega)
  unfold parseTokens
  rw [here]

theorem fullSpellingReadBack {source : String} {tree : Stmt} (parsed : parseCode source = .ok tree) :
    ∃ body, tree = .block body ∧ ∀ (single : Expr → Expr → Bool) (row : List Lexeme),
      row.map Lexeme.token = Stmt.spelledAll (fullParens single) body ++ [.eof] →
        parseTokens row = .ok (.block body) := by
  obtain ⟨row, read, ran⟩ := parseOk (show parse false source = .ok tree from parsed)
  obtain ⟨lexed, tokens, last, rfl, ended, inside⟩ := tokenizeEnd read
  obtain ⟨body, _, rfl, regular, _, _⟩ := acceptedRow lexed ended inside ran
  refine ⟨body, rfl, fun single row spells => spelledReadBack fullCovers ?_ spells⟩
  exact (Stmt.readableAll body).mpr fun stmt member => Part.regularReadable (.stmt stmt) (regular stmt member)

/-- The `else` goes to the inner conditional, and the function literal ends with its own return. -/
theorem danglingElseReadBack :
    ∃ body, parseCode "if (a) if (b) c(); else f = func(x) return -x;" = .ok (.block body) ∧
      ∀ single, parseTokens ((Stmt.spelledAll (fullParens single) body ++ [Token.eof]).map (Lexeme.mk 1)) =
        .ok (.block body) := by
  obtain ⟨tree, parsed⟩ := okOfToBool (show
    (parseCode "if (a) if (b) c(); else f = func(x) return -x;").toBool = true by decide +kernel)
  obtain ⟨body, rfl, back⟩ := fullSpellingReadBack parsed
  exact ⟨body, parsed, fun single => back single _ (by simp [Function.comp_def])⟩

end CircuitScript
