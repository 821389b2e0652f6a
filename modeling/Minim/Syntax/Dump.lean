import Minim.Syntax.Source

/-!
Dumps: a tree as an indented list of nodes, one to a line, for reading. Types, and the names that
declarations introduce, stand inside the line of their parent and are shown without annotations; an
identifier in an expression is shown with its symbol if there is a legend.
-/

namespace Minim

/-- One line of a dump. The indentation is counted in columns and nothing is indented by less than
none. -/
def dumpLine (indent : Int) (label text : String) : String :=
  Text.spaces indent ++ label ++ text

/-- The label of the item of a list. -/
def itemLabel (list : String) (index : Nat) : String :=
  list ++ "[" ++ Text.decimalNat index ++ "]: "

/-- An identifier and its symbol. -/
def Ident.dumpText (legend : Legend) (name : Ident) : String :=
  match legend.note? name with
  | some (index, text) =>
    "Identifier(" ++ name.name ++ ", symbol=#" ++ Text.decimal index ++ " " ++ text ++ ")"
  | none => "Identifier(" ++ name.name ++ ")"

mutual

/-- The lines of an expression. -/
def Expr.dump (legend : Legend) (indent : Int) (label : String) : Expr → List String
  | .int _ value => [dumpLine indent label ("IntLiteral(" ++ value.word ++ ")")]
  | .string _ written => [dumpLine indent label ("StringLiteral(" ++ written.word ++ ")")]
  | .bool _ value =>
    [dumpLine indent label (if value then "BoolLiteral(True)" else "BoolLiteral(False)")]
  | .ident name => [dumpLine indent label (name.dumpText legend)]
  | .dot _ base field =>
    dumpLine indent label "DotAccess" ::
      (base.dump legend (indent + 2) "loc: " ++
        [dumpLine (indent + 2) "field: " (field.dumpText legend)])
  | .assign _ target value =>
    dumpLine indent label "Assignment" ::
      (target.dump legend (indent + 2) "left: " ++ value.dump legend (indent + 2) "right: ")
  | .call _ callee _ args =>
    dumpLine indent label "FunctionCall" ::
      dumpLine (indent + 2) "function: " (callee.dumpText legend) ::
        Expr.dumpItems legend (indent + 4) "arg" 0 args
  | .unary _ op operand =>
    dumpLine indent label ("UnaryOp(" ++ op.word ++ ")") :: operand.dump legend (indent + 2) ""
  | .binary _ left op right =>
    dumpLine indent label ("BinaryOp(" ++ op.word ++ ")") ::
      (left.dump legend (indent + 2) "left: " ++ right.dump legend (indent + 2) "right: ")

/-- The lines of the items of an expression list, counted from `index` on. -/
def Expr.dumpItems (legend : Legend) (indent : Int) (list : String) (index : Nat) :
    List Expr → List String
  | [] => []
  | e :: es =>
    e.dump legend indent (itemLabel list index) ++
      Expr.dumpItems legend indent list (index + 1) es

end

/-- A name and its type, as the lines of declarations show them. -/
def typedName (name : Ident) (type : TypeExpr) : String :=
  name.name ++ ": " ++ type.source none

/-- The line of a formal parameter. -/
def Formal.dump (indent : Int) (label : String) (formal : Formal) : List String :=
  [dumpLine indent label ("FormalDecl(" ++ typedName formal.name formal.type ++ ")")]

/-- The lines of a parameter list. -/
def Formals.dump (indent : Int) (label : String) (formals : Formals) : List String :=
  dumpLine indent label "Formals" ::
    (formals.items.mapIdx fun index formal =>
      formal.dump (indent + 4) (itemLabel "formal" index)).flatten

/-- The formal parameters inside the line of a function. -/
def Formals.summary (formals : Formals) : String :=
  ", ".intercalate (formals.items.map fun formal => typedName formal.name formal.type)

mutual

/-- The lines of a declaration. -/
def Decl.dump (legend : Legend) (indent : Int) (label : String) : Decl → List String
  | .var _ type name => [dumpLine indent label ("VarDecl(" ++ typedName name type ++ ")")]
  | .func _ returnType name formals _ body =>
    dumpLine indent label
        ("FunctionDecl(" ++ name.name ++ " -> " ++ returnType.source none ++ ", params=[" ++
          formals.summary ++ "])") ::
      dumpLine (indent + 4) "body: " "FunctionBody" ::
        body.dump legend (indent + 8) "decls: " "stmts: "
  | .struct _ name _ fields =>
    dumpLine indent label ("StructDecl(" ++ name.name ++ ")") ::
      dumpLine (indent + 4) "fields: " "DeclList" ::
        Decl.dumpItems legend (indent + 8) 0 fields

/-- The lines of a statement. -/
def Stmt.dump (legend : Legend) (indent : Int) (label : String) : Stmt → List String
  | .assign _ assignment =>
    dumpLine indent label "AssignStatement" :: assignment.expr.dump legend (indent + 2) ""
  | .increment _ place =>
    dumpLine indent label "PostIncrement" :: place.dump legend (indent + 2) ""
  | .decrement _ place =>
    dumpLine indent label "PostDecrement" :: place.dump legend (indent + 2) ""
  | .read _ place => dumpLine indent label "Read" :: place.dump legend (indent + 2) ""
  | .write _ value => dumpLine indent label "Write" :: value.dump legend (indent + 2) ""
  | .ifThen _ cond body =>
    dumpLine indent label "IfStatement" ::
      (cond.dump legend (indent + 4) "condition: " ++
        body.dump legend (indent + 4) "decls: " "then: ")
  | .ifElse _ cond yes no =>
    dumpLine indent label "IfElseStatement" ::
      (cond.dump legend (indent + 4) "condition: " ++
        yes.dump legend (indent + 4) "then decls: " "then: " ++
        no.dump legend (indent + 4) "else decls: " "else: ")
  | .loop _ cond body =>
    dumpLine indent label "WhileStatement" ::
      (cond.dump legend (indent + 4) "condition: " ++
        body.dump legend (indent + 4) "decls: " "body: ")
  | .call _ call =>
    dumpLine indent label "CallStatement" :: call.expr.dump legend (indent + 2) ""
  | .ret _ none => [dumpLine indent label "Return"]
  | .ret _ (some value) =>
    dumpLine indent label "Return" :: value.dump legend (indent + 2) "expr: "

/-- The lines of the two lists of a block, under the given labels. -/
def Block.dump (legend : Legend) (indent : Int) (declsLabel stmtsLabel : String) :
    Block → List String
  | .mk _ decls _ stmts =>
    dumpLine indent declsLabel "DeclList" ::
      (Decl.dumpItems legend (indent + 4) 0 decls ++
        dumpLine indent stmtsLabel "StmtList" :: Stmt.dumpItems legend (indent + 4) 0 stmts)

/-- The lines of declarations, counted from `index` on. -/
def Decl.dumpItems (legend : Legend) (indent : Int) (index : Nat) : List Decl → List String
  | [] => []
  | d :: ds =>
    d.dump legend indent (itemLabel "decl" index) ++ Decl.dumpItems legend indent (index + 1) ds

/-- The lines of statements, counted from `index` on. -/
def Stmt.dumpItems (legend : Legend) (indent : Int) (index : Nat) : List Stmt → List String
  | [] => []
  | s :: ss =>
    s.dump legend indent (itemLabel "stmt" index) ++ Stmt.dumpItems legend indent (index + 1) ss

end

/-- The lines of a program: its declarations stand directly below it. -/
def Program.dump (legend : Legend) (indent : Int) (label : String) (program : Program) :
    List String :=
  dumpLine indent label "Program" :: Decl.dumpItems legend (indent + 4) 0 program.decls

/-- The lines of any node. -/
def Node.dump (legend : Legend) (indent : Int) (label : String) : Node → List String
  | .program p => p.dump legend indent label
  | .declList _ decls =>
    dumpLine indent label "DeclList" :: Decl.dumpItems legend (indent + 4) 0 decls
  | .decl d => d.dump legend indent label
  | .formals fs => fs.dump indent label
  | .formal f => f.dump indent label
  | .body _ block =>
    dumpLine indent label "FunctionBody" :: block.dump legend (indent + 4) "decls: " "stmts: "
  | .stmtList _ stmts =>
    dumpLine indent label "StmtList" :: Stmt.dumpItems legend (indent + 4) 0 stmts
  | .stmt s => s.dump legend indent label
  | .exprList _ exprs =>
    dumpLine indent label "ExpList" :: Expr.dumpItems legend (indent + 4) "exp" 0 exprs
  | .expr e => e.dump legend indent label
  | .type t => [dumpLine indent label ("Type(" ++ t.source none ++ ")")]

/-- The dump of a node as one text. -/
def Node.dumpText (legend : Legend) (indent : Int) (label : String) (node : Node) : String :=
  "\n".intercalate (node.dump legend indent label)

end Minim
