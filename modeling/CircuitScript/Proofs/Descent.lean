import CircuitScript.Proofs.Course

/-! Every parser of the grammar leads from the brackets open before it to those open behind it, and what it gives
is well formed. -/
namespace CircuitScript

namespace View

def cursor (view : View) : Cursor := ⟨view.previous.map (Lexeme.mk 0), view.ahead.map (Lexeme.mk 0)⟩

theorem cursorView (view : View) : view.cursor.view = view := by
  obtain ⟨previous, ahead⟩ := view
  cases previous <;> simp [cursor, Cursor.view, Function.comp_def]

theorem cursorToken (view : View) : view.cursor.token = view.token := by
  rw [← Cursor.viewToken, cursorView]

theorem cursorLeft (view : View) : view.cursor.left = view.ahead.length := List.length_map _

theorem cursorSkip (view : View) (n : Nat) : view.cursor.skip n = (view.skip n).cursor := by
  induction n generalizing view with
  | zero => rfl
  | succ n ih =>
    have step : view.cursor.advance = view.advance.cursor := by
      obtain ⟨previous, ahead⟩ := view
      cases ahead <;> rfl
    rw [Cursor.skip, step, ih]
    rfl

end View

namespace Parser

theorem leadsEnd {place : Standing} {post : Standing → Unit → Prop}
    (ends : ∀ next : Standing, next.stack = place.stack → next.view.ahead.length ≤ place.view.ahead.length →
      post next ()) : Leads place post endStatement := by
  have stays : Leads place post (Pure.pure ()) := .pure (ends place rfl (Nat.le_refl _))
  refine .eat rfl (fun _ => .pure (ends _ rfl ?_)) (.look Cursor.viewAfterTerminator ?_)
  · show (place.view.skip 1).ahead.length ≤ _
    rw [View.skipAhead, List.length_drop]
    exact Nat.sub_le _ _
  · split
    · exact stays
    · refine .peek ?_
      split <;> first | exact stays | exact .unexpected rfl

/-- One run over tokens from a text, whatever their lines. -/
def descending : Manner where
  Time := Standing
  cursor place := place.view.cursor
  nested place stack := place.stack = stack
  lexed := True
  holds place post p _ := Leads place post p
  lexes _ place := place.view.cursorToken ▸ place.tokenLexed
  spent _ := .spent
  pure := .pure
  refuse := .refuse
  unexpected := .unexpected
  late := fun {_ place _ _} late => place.view.cursorToken ▸ Leads.late late
  bind := .bind
  peek := fun {_ place _ f _} h _ => .peek (place.view.cursorToken ▸ h)
  advance := fun {_ place _ f _} h _ => .advance (place.view.cursorToken ▸ h)
  pass := fun {_ place stack stack' _ _ _} nested turned _ _ later => by
    rw [View.cursorToken] at turned
    subst nested
    exact .pass turned (later ⟨(place.view.cursorSkip 1).symm, id, id, rfl, trivial⟩)
  eat := fun {_ place _ _ _ _ _ _} _ _ _ nested turned found missing => by
    subst nested
    refine .eat turned (fun seen => found ?_ ⟨(place.view.cursorSkip 1).symm, id, id, rfl, trivial⟩) missing
    rw [View.cursorToken, seen]
    exact beq_self_eq_true _
  eatWord := fun {_ place _ word _ _ _} _ nested found missing => by
    subst nested
    have same := Cursor.viewBehindWord word place.view.cursor
    rw [View.cursorView] at same
    refine .eatWord (fun n there => ?_) fun none => missing (by rw [same, none]; rfl)
    exact found (by rw [same, there]; rfl) ⟨(place.view.cursorSkip n).symm, id, id, rfl, trivial⟩
  endStatement := fun {place _} _ nested => by
    subst nested
    refine leadsEnd fun next same left => .bare ?_ id id same trivial
    show next.view.cursor.left ≤ place.view.cursor.left
    rwa [View.cursorLeft, View.cursorLeft]

theorem leadsStatements (n : Nat) (place : Standing) (bare : place.stack = []) : Leads place
    (fun next body => next.stack = [] ∧ next.view.token = .eof ∧
      ∀ stmt ∈ body, (Part.stmt stmt).Everywhere Part.Regular) (statements n) := by
  refine Manner.weaken (Manner.statements (G := descending) (fun _ => id) n ⟨False.elim, bare⟩ trivial) ?_
  rintro next body ⟨passage, ended⟩
  refine ⟨passage.nested, ?_, fun stmt member => ?_⟩
  · rw [← View.cursorToken]
    exact ended
  · exact (passage.made _ (List.mem_map_of_mem member)).imp fun _ fine => ⟨fine.1 trivial, fine.2⟩

end Parser

end CircuitScript
