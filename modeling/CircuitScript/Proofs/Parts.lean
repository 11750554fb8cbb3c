import CircuitScript.Proofs.Spelling
import Mathlib.Logic.Relation

/-! The parts of a tree at every depth, and what the grammar keeps to in each of them. -/
namespace CircuitScript

inductive Part where
  | stmt (s : Stmt)
  | expr (e : Expr)
  | ref (r : Reference)

namespace Part

def children : Part → List Part
  | stmt (.block body) => body.map stmt
  | stmt (.assign target value) => [ref target, expr value]
  | stmt (.compound target _ value) => [ref target, expr value]
  | stmt (.ifThen condition yes no) => expr condition :: stmt yes :: no.toList.map stmt
  | stmt (.whileDo condition body) => [expr condition, stmt body]
  | stmt (.repeatUntil body condition) => [stmt body, expr condition]
  | stmt (.forLoop first condition step body) => [stmt first, expr condition, stmt step, stmt body]
  | stmt (.func _ _ body) => [stmt body]
  | stmt (.ret value) => [expr value]
  | stmt (.print args) => args.map expr
  | stmt (.printf args) => args.map expr
  | stmt (.fail message) => [expr message]
  | stmt (.text _) => []
  | stmt (.expr e) => [expr e]
  | expr (.literal _) => []
  | expr (.ref r) => [ref r]
  | expr (.unary _ operand) => [expr operand]
  | expr (.binary _ left right) => [expr left, expr right]
  | expr (.call callee args) => expr callee :: args.map expr
  | expr (.list items) => items.map expr
  | expr (.map entries) => entries.map fun entry => expr entry.2
  | expr (.func _ body) => [stmt body]
  | ref (.var _) => []
  | ref (.index parent position) => [ref parent, expr position]
  | ref (.field parent _) => [ref parent]

theorem childSmaller {whole child : Part} (member : child ∈ whole.children) : sizeOf child < sizeOf whole := by
  have several {α : Type} [SizeOf α] {xs : List α} {part : α → Part} (listed : child ∈ xs.map part)
      (within : ∀ x, sizeOf (part x) ≤ 1 + sizeOf x) : sizeOf child < 1 + sizeOf xs := by
    obtain ⟨x, inside, rfl⟩ := List.mem_map.mp listed
    have bound := within x
    have smaller := List.sizeOf_lt_of_mem inside
    omega
  cases whole with
  | stmt s =>
    cases s with
    | block parts | print parts | printf parts =>
      have smaller := several member (by simp)
      simp
      omega
    | ifThen condition yes no =>
      cases no <;> simp [children] at member <;> rcases member with rfl | rfl | rfl <;> simp <;> omega
    | text => cases member
    | _ =>
      simp only [children, List.mem_cons, List.not_mem_nil, or_false] at member
      rcases member with rfl | rfl | rfl | rfl <;> simp <;> omega
  | expr e =>
    cases e with
    | list items =>
      have smaller := several member (by simp)
      simp
      omega
    | map entries =>
      have smaller := several member (by rintro ⟨key, value⟩; simp)
      simp
      omega
    | call callee args =>
      rcases List.mem_cons.mp member with rfl | listed
      · simp
        omega
      · have smaller := several listed (by simp)
        simp
        omega
    | literal => cases member
    | _ =>
      simp only [children, List.mem_cons, List.not_mem_nil, or_false] at member
      rcases member with rfl | rfl <;> simp <;> omega
  | ref r =>
    cases r with
    | var => cases member
    | index parent position =>
      simp only [children, List.mem_cons, List.not_mem_nil, or_false] at member
      rcases member with rfl | rfl
      · simp only [ref.sizeOf_spec, Reference.index.sizeOf_spec]
        omega
      · simp only [ref.sizeOf_spec, expr.sizeOf_spec, Reference.index.sizeOf_spec]
        omega
    | field parent name =>
      cases List.mem_singleton.mp member
      simp only [ref.sizeOf_spec, Reference.field.sizeOf_spec]
      omega

theorem induction {motive : Part → Prop}
    (step : ∀ whole, (∀ child ∈ whole.children, motive child) → motive whole) (whole : Part) : motive whole :=
  step whole fun child _ => induction step child
termination_by sizeOf whole
decreasing_by exact childSmaller ‹_›

/-- The part is the whole itself or lies anywhere inside of it. -/
def Contains (whole part : Part) : Prop :=
  Relation.ReflTransGen (fun outer inner => inner ∈ outer.children) whole part

end Part

/-- A name that a script can give: a word that is no keyword. -/
def IsName (name : String) : Prop := Text.isIdentifier name.toList = true ∧ isKeyword name = false

def Scalar.IsLiteral (s : Scalar) : Prop :=
  (∃ n, s = .int n) ∨ (∃ x, s = .float x) ∨ (∃ b, s = .bool b) ∨ ∃ t, s = .str t

namespace Part

/-- What the grammar keeps to in a single part. -/
def Sound : Part → Prop
  | stmt (.compound _ op _) => op = .add ∨ op = .sub
  | stmt (.forLoop first _ step _) => first.Simple ∧ step.Simple
  | stmt (.func name params _) => IsName name ∧ ∀ param ∈ params, IsName param
  | stmt (.printf args) => args ≠ []
  | stmt (.expr e) => e.IsCall
  | expr (.literal s) => s.IsLiteral
  | expr (.unary op operand) => ¬Expr.FoldsAway op operand
  | expr (.func params _) => ∀ param ∈ params, IsName param
  | ref (.var name) => IsName name
  | _ => True

-- An `else` goes with the nearest conditional that has none.
def Paired : Part → Prop
  | stmt (.ifThen _ yes (some _)) => ¬yes.EndsOpen
  | _ => True

/-- What holds of a part of a tree read from a text. -/
structure Regular (part : Part) : Prop where
  sound : part.Sound
  paired : part.Paired

/-- The whole and all the parts in it are of this kind. -/
def Everywhere (good : Part → Prop) (whole : Part) : Prop := ∀ part, whole.Contains part → good part

namespace Everywhere

variable {good other : Part → Prop} {whole : Part}

theorem here (h : whole.Everywhere good) : good whole := h whole .refl

theorem children (h : whole.Everywhere good) : ∀ child ∈ whole.children, child.Everywhere good :=
  fun _ member part inside => h part (.head member inside)

theorem make (here : good whole) (children : ∀ child ∈ whole.children, child.Everywhere good) :
    whole.Everywhere good := by
  intro part inside
  rcases inside.cases_head with rfl | ⟨child, member, deeper⟩
  · exact here
  · exact children child member part deeper

theorem within (h : whole.Everywhere good) {part : Part} (inside : whole.Contains part) : part.Everywhere good :=
  fun inner deeper => h inner (inside.trans deeper)

theorem imp (less : ∀ part, good part → other part) (h : whole.Everywhere good) : whole.Everywhere other :=
  fun part inside => less part (h part inside)

end Everywhere

abbrev WellFormed (whole : Part) : Prop := whole.Everywhere Sound

end Part

abbrev Stmt.Formed (s : Stmt) : Prop := (Part.stmt s).WellFormed

theorem Scalar.isLiteral (s : Scalar) : s.IsLiteral := by
  cases s with
  | int n => exact .inl ⟨n, rfl⟩
  | float x => exact .inr (.inl ⟨x, rfl⟩)
  | bool b => exact .inr (.inr (.inl ⟨b, rfl⟩))
  | str t => exact .inr (.inr (.inr ⟨t, rfl⟩))

end CircuitScript
