import Stagecraft.Value
import Stagecraft.Text.Position

/-!
The tree of a script: declarations of components, events and systems, and the statements and
expressions of system bodies. Every node knows its place in the source.
-/

namespace Stagecraft.Script

open Text (Span)

structure TypeExpr where
  name : String
  args : List TypeExpr
  span : Span
deriving Inhabited

mutual

def TypeExpr.render : TypeExpr → String
  | ⟨name, [], _⟩ => name
  | ⟨name, arg :: rest, _⟩ => name ++ "<" ++ TypeExpr.renderArgs (arg :: rest) ++ ">"
termination_by structural type => type

def TypeExpr.renderArgs : List TypeExpr → String
  | [] => ""
  | [arg] => TypeExpr.render arg
  | arg :: rest => TypeExpr.render arg ++ ", " ++ TypeExpr.renderArgs rest
termination_by structural args => args

end

structure Field where
  type : TypeExpr
  name : String
  span : Span
deriving Inhabited

inductive ComponentBody where
  /-- The values of another type. -/
  | alias_ (type : TypeExpr)
  /-- Records with the given fields. -/
  | fields (fields : List Field)
deriving Inhabited

structure ComponentDecl where
  name : String
  body : ComponentBody
  span : Span
deriving Inhabited

structure RoleDecl where
  name : Option String
  components : List String
  span : Span
deriving Inhabited, DecidableEq

structure EventDecl where
  name : String
  roles : List RoleDecl
  payload : Option Field
  span : Span
deriving Inhabited

inductive BinaryOp where
  | add
  | sub
  | mul
  | div
  | mod
  | equal
  | notEqual
  | less
  | greater
  | lessEqual
  | greaterEqual
  | and
  | or
deriving DecidableEq, Repr, Inhabited

namespace BinaryOp

def symbol : BinaryOp → String
  | add => "+"
  | sub => "-"
  | mul => "*"
  | div => "/"
  | mod => "%"
  | equal => "=="
  | notEqual => "!="
  | less => "<"
  | greater => ">"
  | lessEqual => "<="
  | greaterEqual => ">="
  | and => "and"
  | or => "or"

def rank : BinaryOp → Nat
  | or => 0
  | and => 1
  | equal | notEqual => 2
  | less | greater | lessEqual | greaterEqual => 3
  | add | sub => 4
  | mul | div | mod => 5

theorem rank_lt (op : BinaryOp) : op.rank < 6 := by
  cases op <;> decide

end BinaryOp

inductive UnaryOp where
  | neg
  | not
deriving DecidableEq, Repr, Inhabited

def UnaryOp.symbol : UnaryOp → String
  | neg => "-"
  | not => "not"

inductive Expr where
  | literal (value : Value) (span : Span)
  | var (name : String) (span : Span)
  | field (base : Expr) (name : String) (span : Span)
  | unary (op : UnaryOp) (operand : Expr) (span : Span)
  | binary (op : BinaryOp) (left right : Expr) (span : Span)
  | call (name : String) (args : List Expr) (span : Span)
  | vector (x y z : Expr) (span : Span)
deriving Inhabited

structure Place where
  root : String
  path : List String
  span : Span
deriving Inhabited, DecidableEq

def Place.render (place : Place) : String := ".".intercalate (place.root :: place.path)

namespace Expr

def span : Expr → Span
  | literal _ span => span
  | var _ span => span
  | field _ _ span => span
  | unary _ _ span => span
  | binary _ _ _ span => span
  | call _ _ span => span
  | vector _ _ _ span => span

def asPlace? : Expr → Option Place
  | var name span => some ⟨name, [], span⟩
  | field base name span =>
    (asPlace? base).map (fun place => ⟨place.root, place.path ++ [name], span⟩)
  | _ => none

def join (op : BinaryOp) (left right : Expr) : Expr :=
  .binary op left right ⟨left.span.start, right.span.stop⟩

def ofComponents (x y z : Expr) (span : Span) : Expr :=
  match x, y, z with
  | .literal (.number a) _, .literal (.number b) _, .literal (.number c) _ =>
    .literal (.vector ⟨a, b, c⟩) span
  | x, y, z => .vector x y z span

end Expr

inductive Stmt where
  | assign (target : Place) (value : Expr) (span : Span)
  | declare (type : TypeExpr) (name : String) (value : Expr) (span : Span)
  | expr (value : Expr)
  | branch (condition : Expr) (yes no : List Stmt) (span : Span)
  | loop (condition : Expr) (body : List Stmt) (span : Span)
  | emit (event : String) (args : List Expr) (span : Span)
deriving Inhabited

structure SystemDecl where
  name : String
  params : List RoleDecl
  event : EventDecl
  body : List Stmt
  span : Span
deriving Inhabited

inductive Item where
  | component (decl : ComponentDecl)
  | event (decl : EventDecl)
  | system (decl : SystemDecl)
deriving Inhabited

structure Tree where
  items : List Item
deriving Inhabited

namespace Tree

def components (tree : Tree) : List ComponentDecl :=
  tree.items.filterMap fun
    | .component decl => some decl
    | _ => none

def events (tree : Tree) : List EventDecl :=
  tree.items.filterMap fun
    | .event decl => some decl
    | _ => none

def systems (tree : Tree) : List SystemDecl :=
  tree.items.filterMap fun
    | .system decl => some decl
    | _ => none

end Tree

end Stagecraft.Script
