/-! Scripts as trees: expressions, the places they can assign to, and statements. -/
namespace CircuitScript

inductive Scalar where
  | int (n : Int64)
  | float (x : Float)
  | bool (b : Bool)
  | str (s : String)
  deriving DecidableEq

inductive UnaryOp where
  | neg
  | not
  | bitNot
  deriving DecidableEq, Repr

inductive BinaryOp where
  | add
  | sub
  | mul
  | div
  | rem
  | eq
  | ne
  | lt
  | le
  | gt
  | ge
  | and
  | or
  | bitAnd
  | bitOr
  | bitXor
  | shl
  | shr
  | ushr
  deriving DecidableEq, Repr

mutual

inductive Expr where
  | literal (s : Scalar)
  | ref (r : Reference)
  | unary (op : UnaryOp) (operand : Expr)
  | binary (op : BinaryOp) (left right : Expr)
  | call (callee : Expr) (args : List Expr)
  | list (items : List Expr)
  | map (entries : List (String × Expr))
  | func (params : List String) (body : Stmt)

inductive Reference where
  | var (name : String)
  | index (parent : Reference) (position : Expr)
  | field (parent : Reference) (key : String)

inductive Stmt where
  | block (body : List Stmt)
  | assign (target : Reference) (value : Expr)
  | compound (target : Reference) (op : BinaryOp) (value : Expr)
  | ifThen (condition : Expr) (yes : Stmt) (no : Option Stmt)
  | whileDo (condition : Expr) (body : Stmt)
  | repeatUntil (body : Stmt) (condition : Expr)
  | forLoop (first : Stmt) (condition : Expr) (step : Stmt) (body : Stmt)
  | func (name : String) (params : List String) (body : Stmt)
  | ret (value : Expr)
  | print (args : List Expr)
  | printf (args : List Expr)
  | fail (message : Expr)
  | text (s : String)
  | expr (e : Expr)

end

instance : Inhabited Stmt := ⟨.block []⟩

mutual

/-- The number of statements in a tree, nested ones included; function literals count as part of their
expression. -/
def Stmt.size : Stmt → Nat
  | .block body => 1 + sizeAll body
  | .ifThen _ yes none => 1 + yes.size
  | .ifThen _ yes (some no) => 1 + (yes.size + no.size)
  | .whileDo _ body => 1 + body.size
  | .repeatUntil body _ => 1 + body.size
  | .forLoop first _ step body => 1 + (first.size + step.size + body.size)
  | .func _ _ body => 1 + body.size
  | .assign _ _ => 1
  | .compound _ _ _ => 1
  | .ret _ => 1
  | .print _ => 1
  | .printf _ => 1
  | .fail _ => 1
  | .text _ => 1
  | .expr _ => 1

def sizeAll : List Stmt → Nat
  | [] => 0
  | stmt :: rest => stmt.size + sizeAll rest

end

def Reference.describe : Reference → String
  | .var name => name
  | .index parent _ => parent.describe ++ "[]"
  | .field parent key => parent.describe ++ "." ++ key

end CircuitScript
