import WireSketch.Value.Operate

/-! Scripts as trees. A construct that scripts may not use is kept by its kind and place alone. -/
namespace WireSketch

/-- A line, and a column in bytes; both count from one. -/
structure Place where
  line : Nat
  column : Nat
deriving Repr, DecidableEq, Inhabited

/-- Constructs that are read but never run. -/
inductive Construct
  | functionDef | asyncFunctionDef | classDef | returning | deleting | annotated | asyncLoop
  | whileLoop | withBlock | asyncWith | matching | raising | trying | tryingGroups | asserting
  | importing | importingFrom | globalNames | nonlocalNames
  | named | lambda | listComprehension | setComprehension | dictComprehension | generator | awaiting
  | yielding | yieldingFrom | member | starred
deriving Repr, DecidableEq

namespace Construct

def name : Construct → String
  | functionDef => "FunctionDef"
  | asyncFunctionDef => "AsyncFunctionDef"
  | classDef => "ClassDef"
  | returning => "Return"
  | deleting => "Delete"
  | annotated => "AnnAssign"
  | asyncLoop => "AsyncFor"
  | whileLoop => "While"
  | withBlock => "With"
  | asyncWith => "AsyncWith"
  | matching => "Match"
  | raising => "Raise"
  | trying => "Try"
  | tryingGroups => "TryStar"
  | asserting => "Assert"
  | importing => "Import"
  | importingFrom => "ImportFrom"
  | globalNames => "Global"
  | nonlocalNames => "Nonlocal"
  | named => "NamedExpr"
  | lambda => "Lambda"
  | listComprehension => "ListComp"
  | setComprehension => "SetComp"
  | dictComprehension => "DictComp"
  | generator => "GeneratorExp"
  | awaiting => "Await"
  | yielding => "Yield"
  | yieldingFrom => "YieldFrom"
  | member => "Attribute"
  | starred => "Starred"

end Construct

/-- How a formatted value becomes text before the specification is applied. -/
inductive Conversion
  | shown | plain | ascii
deriving Repr, DecidableEq

mutual

inductive Expr
  | const (at_ : Place) (v : Value)
  | name (at_ : Place) (id : String)
  | list (at_ : Place) (items : List Expr)
  | tuple (at_ : Place) (items : List Expr)
  | set (at_ : Place) (items : List Expr)
  | dict (at_ : Place) (entries : List Entry)
  | binary (at_ : Place) (op : BinaryOp) (left right : Expr)
  | unary (at_ : Place) (op : UnaryOp) (operand : Expr)
  | conj (at_ : Place) (operands : List Expr)
  | disj (at_ : Place) (operands : List Expr)
  | compare (at_ : Place) (first : Expr) (links : List Link)
  | conditional (at_ : Place) (test yes no : Expr)
  | subscript (at_ : Place) (container index : Expr)
  | slice (at_ : Place) (start stop step : Option Expr)
  | call (at_ : Place) (function : Expr) (args : List Expr) (keywords : List Keyword)
  | joined (at_ : Place) (parts : List Expr)
  | formatted (at_ : Place) (value : Expr) (conversion : Option Conversion) (spec : Option Expr)
  | starred (at_ : Place) (items : Expr)
  | forbidden (at_ : Place) (construct : Construct)

/-- An entry of a map display: a key with its value, or all entries of another map. -/
inductive Entry
  | pair (key value : Expr)
  | spread (map : Expr)

inductive Link
  | mk (op : CompareOp) (right : Expr)

inductive Keyword
  | named (name : String) (value : Expr)
  | spread (map : Expr)

end

inductive Stmt
  | expr (at_ : Place) (e : Expr)
  | assign (at_ : Place) (targets : List Expr) (value : Expr)
  | augmented (at_ : Place) (target : Expr) (op : BinaryOp) (value : Expr)
  | branch (at_ : Place) (test : Expr) (yes no : List Stmt)
  | loop (at_ : Place) (target items : Expr) (body after : List Stmt)
  | pass (at_ : Place)
  | breakLoop (at_ : Place)
  | continueLoop (at_ : Place)
  | forbidden (at_ : Place) (construct : Construct)

instance : Inhabited Expr := ⟨.const ⟨1, 1⟩ .none⟩
instance : Inhabited Stmt := ⟨.pass ⟨1, 1⟩⟩

namespace Expr

def place : Expr → Place
  | const p _ | name p _ | list p _ | tuple p _ | set p _ | dict p _ | binary p .. | unary p ..
  | conj p _ | disj p _ | compare p .. | conditional p .. | subscript p .. | slice p .. | call p ..
  | joined p _ | formatted p .. | starred p _ | forbidden p _ => p

end Expr

namespace Stmt

def place : Stmt → Place
  | expr p _ | assign p .. | augmented p .. | branch p .. | loop p .. | pass p | breakLoop p
  | continueLoop p | forbidden p _ => p

end Stmt
end WireSketch
