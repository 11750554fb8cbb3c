import CircuitScript.Proofs.Walk

/-! The budget of the grammar. A parser that comes to an end with some budget comes to the same end with any
larger one, and every result lies further along the row than where the parser began, so a budget of 32 for
each token is never spent. -/
namespace CircuitScript

namespace Cursor

def skip : Cursor → Nat → Cursor
  | cursor, 0 => cursor
  | cursor, n + 1 => cursor.advance.skip n

theorem skipSkip (cursor : Cursor) (n m : Nat) : (cursor.skip n).skip m = cursor.skip (n + m) := by
  induction n generalizing cursor with
  | zero => rw [Nat.zero_add, skip]
  | succ n ih => rw [Nat.succ_add, skip, skip, ih]

theorem skipAdvance (cursor : Cursor) (n : Nat) : (cursor.skip n).advance = cursor.skip (n + 1) :=
  cursor.skipSkip n 1

theorem skipWord {word : String} {row : List Lexeme} {rest : Cursor} (found : behindWord word row = some rest)
    (previous : Option Lexeme) : ∃ n, rest = (Cursor.mk previous row).skip n := by
  fun_induction behindWord word row generalizing previous with
  | case1 => cases found
  | case2 lexeme row _ ih =>
    obtain ⟨n, there⟩ := ih found (some lexeme)
    exact ⟨n + 1, there⟩
  | case3 lexeme row =>
    cases found
    exact ⟨1, rfl⟩
  | case4 => cases found
  | case5 => cases found

end Cursor

namespace Parser

variable {α β : Type}

/-- What becomes of two runs of a parser from one place, the second one with more budget: a result is the same in both
and lies along the row, and the budget of the first run is not spent if it was enough. -/
def Outlasts (start : Cursor) (enough : Prop) (passed : Nat) (post : Nat → α → Prop) (p p' : Parser α) : Prop :=
  match p (start.skip passed) with
  | .ok a rest => p' (start.skip passed) = .ok a rest ∧ ∃ passed', rest = start.skip passed' ∧ post passed' a
  | .refused e => p' (start.skip passed) = .refused e
  | .spent => ¬enough

namespace Outlasts

variable {start : Cursor} {enough : Prop} {k k' : Nat} {post : Nat → α → Prop} {Q : Nat → β → Prop}

theorem bind {p p' : Parser α} {f f' : α → Parser β} (first : Outlasts start enough k post p p')
    (second : ∀ {k' a}, post k' a → Outlasts start enough k' Q (f a) (f' a)) :
    Outlasts start enough k Q (p >>= f) (p' >>= f') := by
  unfold Outlasts at first ⊢
  rw [bindApply, bindApply]
  cases ran : p (start.skip k) with
  | ok a rest =>
    rw [ran] at first
    obtain ⟨same, k', rfl, got⟩ := first
    rw [same]
    exact second got
  | refused e =>
    rw [ran] at first
    rw [show p' (start.skip k) = .refused e from first]
  | spent =>
    rw [ran] at first
    exact first

theorem like {p p' q q' : Parser β} (same : q (start.skip k) = p (start.skip k'))
    (same' : q' (start.skip k) = p' (start.skip k')) (h : Outlasts start enough k' Q p p') :
    Outlasts start enough k Q q q' := by
  unfold Outlasts
  rw [same, same']
  exact h

end Outlasts

/-- A run along the row from its start, and another one with more budget. -/
def along (start : Cursor) (enough : Prop) : Manner where
  Time := Nat
  cursor := start.skip
  enough _ := enough
  more := 1
  holds := Outlasts start enough
  spent := id
  pure got := ⟨rfl, _, rfl, got⟩
  refuse _ := rfl
  unexpected _ := rfl
  late _ := rfl
  bind := Outlasts.bind
  peek h _ := h
  advance h _ := h
  pass := fun {_ k _ _ _ q q'} _ _ _ _ later => by
    have next := @later (k + 1) ⟨(start.skipAdvance k).symm, id, id, trivial, trivial⟩
    exact next.like (congrArg q (start.skipAdvance k)) (congrArg q' (start.skipAdvance k))
  eat := fun {_ k _ _ mark _ f f'} _ _ _ _ _ found missing => by
    cases held : (start.skip k).token.isMark mark with
    | true =>
      refine Outlasts.like ?_ ?_ (@found (k + 1) held ⟨(start.skipAdvance k).symm, id, id, trivial, trivial⟩)
      · rw [eatHeld held, start.skipAdvance]
      · rw [eatHeld held, start.skipAdvance]
    | false => exact missing.like (eatLeft held) (eatLeft held)
  eatWord := fun {_ k _ word _ _ _} _ _ found missing => by
    cases behind : Cursor.behindWord word (start.skip k).ahead with
    | none => exact Outlasts.like (eatWordLeft behind) (eatWordLeft behind) (missing behind)
    | some rest =>
      obtain ⟨m, there⟩ := Cursor.skipWord behind (start.skip k).previous
      obtain rfl : rest = start.skip (k + m) := there.trans (start.skipSkip k m)
      have next := @found (k + m) _ behind ⟨rfl, id, id, trivial, trivial⟩
      exact next.like (eatWordHeld behind) (eatWordHeld behind)
  endStatement := fun {k _} _ _ => by
    unfold Outlasts
    rcases endCases (start.skip k) with ⟨held, same⟩ | ⟨_, _, same⟩ | refused
    · have moved := Cursor.leftAdvance (Token.markMore held)
      rw [same]
      rw [Cursor.skipAdvance] at moved ⊢
      exact ⟨rfl, k + 1, rfl, .bare (Nat.le_of_succ_le (Nat.le_of_eq moved)) id id trivial trivial⟩
    · rw [same]
      exact ⟨rfl, k, rfl, .bare (Nat.le_refl _) id id trivial trivial⟩
    · rw [refused]

/-- With 32 units of budget for each token ahead and some more the parser comes to an end, every larger budget leads to
the same end, and a result lies on the row at least so many tokens further on. -/
structure Proceeds (more least : Nat) (p : Nat → Parser α) : Prop where
  steady : ∀ n c, p n c = .spent ∨ p n c = p (n + 1) c
  ends : ∀ {n c}, 32 * c.left + more ≤ n → p n c ≠ .spent
  onward : ∀ {n c a rest}, p n c = .ok a rest → rest.left + least ≤ c.left ∧ ∃ passed, rest = c.skip passed

namespace Proceeds

variable {more least n m : Nat} {p : Nat → Parser α} {c rest : Cursor} {a : α}

theorem ofWalk (walk : ∀ (c : Cursor) (enough : Prop) (n : Nat), (along c enough).Ready n more (0 : Nat) [] →
    Outlasts c enough 0 (fun k _ => (c.skip k).left + least ≤ c.left) (p n) (p (n + 1))) : Proceeds more least p where
  steady n c := by
    have h := walk c False n ⟨False.elim, trivial⟩
    unfold Outlasts at h
    cases ran : p n (c.skip 0) with
    | ok a rest =>
      rw [ran] at h
      exact .inr (ran.trans h.1.symm)
    | refused e =>
      rw [ran] at h
      exact .inr (ran.trans h.symm)
    | spent => exact .inl ran
  ends := fun {n c} enough spent => by
    have h := walk c True n ⟨fun _ => enough, trivial⟩
    unfold Outlasts at h
    rw [show p n (c.skip 0) = .spent from spent] at h
    exact h trivial
  onward := fun {n c a rest} ran => by
    have h := walk c False n ⟨False.elim, trivial⟩
    unfold Outlasts at h
    rw [show p n (c.skip 0) = .ok a rest from ran] at h
    obtain ⟨_, k, rfl, less⟩ := h
    exact ⟨less, k, rfl⟩

variable (proceeds : Proceeds more least p)
include proceeds

theorem le (le : n ≤ m) (c : Cursor) : p n c = .spent ∨ p n c = p m c := by
  induction le with
  | refl => exact .inr rfl
  | step _ ih =>
    rcases ih with spent | same
    · exact .inl spent
    · rw [same]
      exact proceeds.steady _ c

theorem ok (le : n ≤ m) (ran : p n c = .ok a rest) : p m c = .ok a rest := by
  rcases proceeds.le le c with spent | same
  · rw [ran] at spent
    cases spent
  · rw [← same, ran]

theorem settles (n : Nat) {parsed : Parsed α} (ran : p m c = parsed) (ended : parsed ≠ .spent) :
    p n c = .spent ∨ p n c = parsed := by
  subst ran
  rcases Nat.le_total n m with less | more
  · exact proceeds.le less c
  · rcases proceeds.le more c with spent | same
    · exact absurd spent ended
    · exact .inr same.symm

/-- A result that some budget gives is what every budget gives that is enough. -/
theorem okWithEnough (ran : p n c = .ok a rest) (enough : 32 * c.left + more ≤ m) : p m c = .ok a rest :=
  (proceeds.settles m ran fun spent => by cases spent).resolve_left (proceeds.ends enough)

end Proceeds

theorem statementProceeds : Proceeds 4 1 statement :=
  .ofWalk fun c enough n ready => Manner.weaken (((along c enough).walked n).stmt ready trivial) fun got => got.1.left

theorem simpleProceeds : Proceeds 3 1 simpleStatement :=
  .ofWalk fun c enough n ready => Manner.weaken (((along c enough).walked n).simple ready) fun got => got.2.left

theorem exprProceeds : Proceeds 20 1 expr :=
  .ofWalk fun c enough n ready => Manner.weaken (((along c enough).walked n).whole ready) fun got => got.left

theorem operationProceeds (l : Level) : Proceeds (19 - 2 * l.rank) 1 (operation · l) :=
  .ofWalk fun c enough n ready => Manner.weaken (((along c enough).walked n).level l ready) fun got => got.left

theorem unaryProceeds : Proceeds 3 1 unary :=
  .ofWalk fun c enough n ready => Manner.weaken (((along c enough).walked n).signed ready) fun got => got.left

theorem appliedProceeds : Proceeds 2 1 applied :=
  .ofWalk fun c enough n ready => Manner.weaken (((along c enough).walked n).postfixed ready) fun got => got.left

theorem primaryProceeds : Proceeds 1 1 primary :=
  .ofWalk fun c enough n ready => Manner.weaken (((along c enough).walked n).atom ready) fun got => got.left

theorem argumentsProceeds : Proceeds 1 1 arguments :=
  .ofWalk fun c enough n ready => Manner.weaken (((along c enough).walked n).args ready) fun got => got.left

theorem functionProceeds : Proceeds 1 1 function :=
  .ofWalk fun c enough n ready => Manner.weaken (((along c enough).walked n).func ready trivial) fun got => got.2.1.left

theorem blockProceeds : Proceeds 1 1 block :=
  .ofWalk fun c enough n ready => Manner.weaken (((along c enough).walked n).braces ready trivial) fun got => got.1.left

theorem returnedProceeds : Proceeds 21 0 returned :=
  .ofWalk fun c enough n ready => Manner.weaken (((along c enough).walked n).value ready id) fun got => got.left

theorem statementsProceeds : Proceeds 5 0 statements :=
  .ofWalk fun c enough n ready =>
    Manner.weaken (Manner.statements (G := along c enough) (fun _ => id) n ready trivial) fun got => got.1.left

end Parser

end CircuitScript
