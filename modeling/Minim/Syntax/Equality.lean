import Minim.Syntax

/-!
Equality of syntax trees, which have lists of trees in them, is decided by comparing them node by
node.
-/

namespace Minim

mutual

/-- Whether two expressions are the same. -/
def Expr.beq : Expr → Expr → Bool
  | .int pos value, .int pos' value' => pos = pos' && value = value'
  | .string pos written, .string pos' written' => pos = pos' && written = written'
  | .bool pos value, .bool pos' value' => pos = pos' && value = value'
  | .ident name, .ident name' => name = name'
  | .dot pos base field, .dot pos' base' field' =>
    pos = pos' && base.beq base' && field = field'
  | .assign pos target value, .assign pos' target' value' =>
    pos = pos' && target.beq target' && value.beq value'
  | .call pos callee argsPos args, .call pos' callee' argsPos' args' =>
    pos = pos' && callee = callee' && argsPos = argsPos' && Expr.beqAll args args'
  | .unary pos op operand, .unary pos' op' operand' =>
    pos = pos' && op = op' && operand.beq operand'
  | .binary pos left op right, .binary pos' left' op' right' =>
    pos = pos' && left.beq left' && op = op' && right.beq right'
  | _, _ => false

/-- Whether two lists of expressions are the same. -/
def Expr.beqAll : List Expr → List Expr → Bool
  | [], [] => true
  | e :: es, e' :: es' => e.beq e' && Expr.beqAll es es'
  | _, _ => false

end

mutual

theorem Expr.beq_iff (e e' : Expr) : e.beq e' = true ↔ e = e' := by
  cases e <;> cases e' <;> simp [Expr.beq, Expr.beq_iff, Expr.beqAll_iff, and_assoc]

theorem Expr.beqAll_iff (es es' : List Expr) : Expr.beqAll es es' = true ↔ es = es' := by
  cases es <;> cases es' <;> simp [Expr.beqAll, Expr.beq_iff, Expr.beqAll_iff]

end

instance : DecidableEq Expr := fun e e' => decidable_of_iff _ (e.beq_iff e')

deriving instance DecidableEq for Assignment, Call

mutual

/-- Whether two declarations are the same. -/
def Decl.beq : Decl → Decl → Bool
  | .var pos type name, .var pos' type' name' => pos = pos' && type = type' && name = name'
  | .func pos returnType name formals bodyPos body,
      .func pos' returnType' name' formals' bodyPos' body' =>
    pos = pos' && returnType = returnType' && name = name' && formals = formals' &&
      bodyPos = bodyPos' && body.beq body'
  | .struct pos name fieldsPos fields, .struct pos' name' fieldsPos' fields' =>
    pos = pos' && name = name' && fieldsPos = fieldsPos' && Decl.beqAll fields fields'
  | _, _ => false

/-- Whether two statements are the same. -/
def Stmt.beq : Stmt → Stmt → Bool
  | .assign pos assignment, .assign pos' assignment' => pos = pos' && assignment = assignment'
  | .increment pos place, .increment pos' place' => pos = pos' && place = place'
  | .decrement pos place, .decrement pos' place' => pos = pos' && place = place'
  | .read pos place, .read pos' place' => pos = pos' && place = place'
  | .write pos value, .write pos' value' => pos = pos' && value = value'
  | .ifThen pos cond body, .ifThen pos' cond' body' =>
    pos = pos' && cond = cond' && body.beq body'
  | .ifElse pos cond yes no, .ifElse pos' cond' yes' no' =>
    pos = pos' && cond = cond' && yes.beq yes' && no.beq no'
  | .loop pos cond body, .loop pos' cond' body' => pos = pos' && cond = cond' && body.beq body'
  | .call pos call, .call pos' call' => pos = pos' && call = call'
  | .ret pos value, .ret pos' value' => pos = pos' && value = value'
  | _, _ => false

/-- Whether two blocks are the same. -/
def Block.beq : Block → Block → Bool
  | .mk declsPos decls stmtsPos stmts, .mk declsPos' decls' stmtsPos' stmts' =>
    declsPos = declsPos' && Decl.beqAll decls decls' && stmtsPos = stmtsPos' &&
      Stmt.beqAll stmts stmts'

/-- Whether two lists of declarations are the same. -/
def Decl.beqAll : List Decl → List Decl → Bool
  | [], [] => true
  | d :: ds, d' :: ds' => d.beq d' && Decl.beqAll ds ds'
  | _, _ => false

/-- Whether two lists of statements are the same. -/
def Stmt.beqAll : List Stmt → List Stmt → Bool
  | [], [] => true
  | s :: ss, s' :: ss' => s.beq s' && Stmt.beqAll ss ss'
  | _, _ => false

end

mutual

theorem Decl.beq_iff (d d' : Decl) : d.beq d' = true ↔ d = d' := by
  cases d <;> cases d' <;> simp [Decl.beq, Block.beq_iff, Decl.beqAll_iff, and_assoc]
termination_by structural d

theorem Stmt.beq_iff (s s' : Stmt) : s.beq s' = true ↔ s = s' := by
  cases s <;> cases s' <;> simp [Stmt.beq, Block.beq_iff, and_assoc]
termination_by structural s

theorem Block.beq_iff (b b' : Block) : b.beq b' = true ↔ b = b' := by
  cases b
  cases b'
  simp [Block.beq, Decl.beqAll_iff, Stmt.beqAll_iff, and_assoc]
termination_by structural b

theorem Decl.beqAll_iff (ds ds' : List Decl) : Decl.beqAll ds ds' = true ↔ ds = ds' := by
  cases ds <;> cases ds' <;> simp [Decl.beqAll, Decl.beq_iff, Decl.beqAll_iff]
termination_by structural ds

theorem Stmt.beqAll_iff (ss ss' : List Stmt) : Stmt.beqAll ss ss' = true ↔ ss = ss' := by
  cases ss <;> cases ss' <;> simp [Stmt.beqAll, Stmt.beq_iff, Stmt.beqAll_iff]
termination_by structural ss

end

instance : DecidableEq Decl := fun d d' => decidable_of_iff _ (d.beq_iff d')

deriving instance DecidableEq for Program

end Minim
