import ScriptHost.Script.Value

/-!
# Scripts as trees

The tree of a script.  What a block, a function body or a whole script declares is listed with it
in the order of the text, since declarations take effect before any statement runs.  Lines are
kept where an error may be reported.
-/

namespace ScriptHost.Script

/-- Operators with one operand. -/
inductive UnaryOp
  | negate | plus | not | complement | void

/-- Operators with two operands that are both evaluated. -/
inductive BinaryOp
  | add | sub | mul | div | rem | pow
  | shiftLeft | shiftRight | shiftRightZero
  | less | lessEq | greater | greaterEq
  | looseEq | looseNe | strictEq | strictNe
  | bitAnd | bitOr | bitXor
  | instanceOf | isIn
deriving DecidableEq

/-- Operators whose second operand may be left out. -/
inductive LogicalOp
  | and | or | coalesce
deriving DecidableEq

/-- How variables are declared. -/
inductive DeclarationKind
  | var | mutable | constant
deriving DecidableEq

/-- What kind of function a text denotes. -/
inductive FunctionKind
  | plain | arrow | method | getter | setter
  | baseConstructor | derivedConstructor
  /-- The initial value of a class field. -/
  | fieldValue
deriving DecidableEq

/-- What is known of a function apart from its parameters and body. -/
structure FunctionInfo where
  name : Option Name
  kind : FunctionKind
  isGenerator : Bool
  isAsync : Bool
  strict : Bool
  /-- The number of parameters before the first one that is optional. -/
  arity : Nat
  usesArguments : Bool
  /-- Whether the name is bound inside the function, as for a named function expression. -/
  bindsName : Bool
  source : Text
  line : Nat
  /-- Whether anything in the body stands on another line than the function's start. -/
  hasLines : Bool

/-- The kinds of class members. -/
inductive MemberKind
  | method | getter | setter | field
deriving DecidableEq

mutual

/-- An expression. -/
inductive Expr
  | literal (v : Value)
  | template (chunks : List Utf16) (parts : List Expr)
  | taggedTemplate (tag : Expr) (cooked : List (Option Utf16)) (raw : List Utf16)
      (parts : List Expr) (line : Nat)
  | name (n : Name) (line : Nat)
  | this
  | newTarget
  | array (items : List Element)
  | object (members : List Member)
  | function (f : Function)
  | classValue (c : ClassTree)
  | regexp (source flags : Utf16)
  | unary (op : UnaryOp) (operand : Expr)
  | typeOf (operand : Expr)
  | deletion (operand : Expr)
  | update (isPrefixed increment : Bool) (target : Expr)
  | binary (op : BinaryOp) (left right : Expr)
  | logical (op : LogicalOp) (left right : Expr)
  | conditional (test yes no : Expr)
  | assign (target value : Expr)
  | compound (op : BinaryOp) (target value : Expr)
  | logicalAssign (op : LogicalOp) (target value : Expr)
  | destructure (pattern : Pattern) (value : Expr)
  | sequence (first second : Expr)
  | member (object : Expr) (key : Name) (optional : Bool) (line : Nat)
  | index (object key : Expr) (optional : Bool) (line : Nat)
  | superMember (key : Expr) (line : Nat)
  | superCall (args : List Element) (line : Nat)
  | call (callee : Expr) (args : List Element) (optional : Bool) (line : Nat)
  | construct (callee : Expr) (args : List Element) (line : Nat)
  /-- The reach of the optional links inside. -/
  | chain (e : Expr)
  | yielding (delegate : Bool) (operand : Option Expr)
  | awaiting (operand : Expr)

/-- An item of an array or argument list. -/
inductive Element
  | item (e : Expr)
  | spread (e : Expr)
  | hole

/-- A key as written. -/
inductive Key
  | fixed (k : PropertyKey)
  | computed (e : Expr)

/-- A member of an object. -/
inductive Member
  | value (key : Key) (e : Expr)
  | method (key : Key) (f : Function)
  | getter (key : Key) (f : Function)
  | setter (key : Key) (f : Function)
  | spread (e : Expr)
  | prototype (e : Expr)

/-- What a value is taken apart into. -/
inductive Pattern
  | name (n : Name) (line : Nat)
  /-- A place to assign to. -/
  | place (e : Expr)
  | array (items : List (Option (Pattern × Option Expr))) (rest : Option Pattern)
  | object (properties : List (Key × Pattern × Option Expr)) (rest : Option Pattern)

/-- A declaration of a block, a function body or a script. -/
inductive Declaration
  | var (n : Name)
  | lexical (n : Name) (constant : Bool)
  | function (f : Function)

/-- A function. -/
inductive Function
  | mk (info : FunctionInfo) (params : List (Pattern × Option Expr)) (rest : Option Pattern)
      (declarations : List Declaration) (body : List Stmt)

/-- A class; the name it is given by its place is no binding of its own. -/
inductive ClassTree
  | mk (name inferred : Option Name) (parent : Option Expr) (constructor : Option Function)
      (members : List ClassMember) (source : Text) (line : Nat)

/-- A member of a class. -/
inductive ClassMember
  | mk (isStatic : Bool) (kind : MemberKind) (key : Key) (f : Option Function)

/-- The variable of a loop over something. -/
inductive LoopHead
  | declared (kind : DeclarationKind) (pattern : Pattern)
  | assigned (pattern : Pattern)

/-- A statement. -/
inductive Stmt
  | expression (e : Expr)
  | declare (kind : DeclarationKind) (items : List (Pattern × Option Expr))
  /-- A function declared inside a block, whose name is also a variable outside of it. -/
  | blockFunction (n : Name)
  | classDeclaration (name : Name) (c : ClassTree)
  | returning (e : Option Expr)
  | conditional (test : Expr) (yes : Stmt) (no : Option Stmt)
  | forLoop (labels : List Name) (declarations : List Declaration) (init : Option Stmt)
      (test update : Option Expr) (body : Stmt)
  | forIn (labels : List Name) (declarations : List Declaration) (head : LoopHead) (e : Expr)
      (body : Stmt)
  | forOf (labels : List Name) (declarations : List Declaration) (head : LoopHead) (e : Expr)
      (body : Stmt)
  | whileLoop (labels : List Name) (test : Expr) (body : Stmt)
  | doLoop (labels : List Name) (body : Stmt) (test : Expr)
  | leave (label : Option Name)
  | again (label : Option Name)
  | throwing (e : Expr) (line : Nat)
  | attempt (body : Stmt) (handler : Option (Option Pattern × List Declaration × List Stmt))
      (finalizer : Option Stmt)
  | select (e : Expr) (declarations : List Declaration)
      (cases : List (Option Expr × List Stmt))
  | block (declarations : List Declaration) (body : List Stmt)
  | labeled (name : Name) (body : Stmt)
  | empty

end

instance : Inhabited Expr := ⟨.literal .undefined⟩

instance : Inhabited Stmt := ⟨.empty⟩

instance : Inhabited Pattern := ⟨.place (.literal .undefined)⟩

namespace Function

/-- What is known of a function apart from its parameters and body. -/
def info : Function → FunctionInfo
  | mk i _ _ _ _ => i

/-- The parameters, each with its default. -/
def params : Function → List (Pattern × Option Expr)
  | mk _ ps _ _ _ => ps

/-- What takes the remaining arguments. -/
def rest : Function → Option Pattern
  | mk _ _ r _ _ => r

/-- The declarations of the body. -/
def declarations : Function → List Declaration
  | mk _ _ _ ds _ => ds

/-- The statements of the body. -/
def body : Function → List Stmt
  | mk _ _ _ _ b => b

/-- The function with other information. -/
def withInfo (i : FunctionInfo) : Function → Function
  | mk _ ps r ds b => mk i ps r ds b

/-- The function with a name, unless it has one. -/
def named (f : Function) (n : Name) : Function :=
  if f.info.name.isSome then f else f.withInfo { f.info with name := some n }

end Function

/-- An expression in a place that gives a name to a function or class without one. -/
def Expr.nameAs (n : Name) : Expr → Expr
  | .function f => .function (f.named n)
  | .classValue (.mk none none parent constructor members source line) =>
    .classValue (.mk none (some n) parent constructor members source line)
  | e => e

/-- A whole script. -/
structure Program where
  declarations : List Declaration
  body : List Stmt
  strict : Bool
  /-- Whether anything stands on another line than the first. -/
  hasLines : Bool

end ScriptHost.Script
