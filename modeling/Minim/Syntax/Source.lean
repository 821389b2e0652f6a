import Minim.Syntax.Legend
import Minim.Text.Decimal

/-!
Source text: a tree written back as a text of the language. Every operation stands in parentheses,
and so does an assignment inside another expression, so that reading the text gives the tree back.
With a legend, each resolved identifier is followed by the text of its symbol in parentheses.
-/

namespace Minim

/-- How far a block is indented against what surrounds it. -/
def indentStep : Nat := 4

/-- The blanks in front of a line. -/
def indentation (indent : Nat) : String := Text.spaces indent

/-- An identifier and the text of its symbol. -/
def Ident.source (legend : Legend) (name : Ident) : String :=
  match legend.note? name with
  | some (_, text) => name.name ++ "(" ++ text ++ ")"
  | none => name.name

/-- A written type. -/
def TypeExpr.source (legend : Legend) : TypeExpr → String
  | .int _ => "int"
  | .bool _ => "bool"
  | .void _ => "void"
  | .struct _ name => "struct " ++ name.source legend

mutual

/-- An expression; a nested one parenthesises an assignment. -/
def Expr.source (legend : Legend) (nested : Bool) : Expr → String
  | .int _ value | .string _ value => value.word
  | .bool _ value => if value then "true" else "false"
  | .ident name => name.source legend
  | .dot _ base field => base.source legend false ++ "." ++ field.source legend
  | .assign _ target value =>
    let text := target.source legend false ++ " = " ++ value.source legend true
    if nested then "(" ++ text ++ ")" else text
  | .call _ callee _ args => callee.source legend ++ "(" ++ Expr.sourceArgs legend args ++ ")"
  | .unary _ op operand => "(" ++ op.word ++ operand.source legend true ++ ")"
  | .binary _ left op right =>
    "(" ++ left.source legend true ++ " " ++ op.word ++ " " ++ right.source legend true ++ ")"

/-- Expressions separated by commas. -/
def Expr.sourceArgs (legend : Legend) : List Expr → String
  | [] => ""
  | [e] => e.source legend true
  | e :: rest => e.source legend true ++ ", " ++ Expr.sourceArgs legend rest

end

/-- A formal parameter. -/
def Formal.source (legend : Legend) (formal : Formal) : String :=
  formal.type.source legend ++ " " ++ formal.name.source legend

/-- Formal parameters separated by commas. -/
def Formals.source (legend : Legend) (formals : Formals) : String :=
  ", ".intercalate (formals.items.map (Formal.source legend))

mutual

/-- A declaration on lines of its own. -/
def Decl.source (legend : Legend) (indent : Nat) : Decl → String
  | .var _ type name =>
    indentation indent ++ type.source legend ++ " " ++ name.source legend ++ ";\n"
  | .func _ returnType name formals _ body =>
    indentation indent ++ returnType.source legend ++ " " ++ name.source legend ++ "(" ++
      formals.source legend ++ ") \x7b\n" ++ body.source legend (indent + indentStep) ++
      indentation indent ++ "\x7d\n\n"
  | .struct _ name _ fields =>
    indentation indent ++ "struct " ++ name.source legend ++ " \x7b\n" ++
      Decl.sourceAll legend (indent + indentStep) fields ++ indentation indent ++ "\x7d;\n\n"

/-- A statement on lines of its own. -/
def Stmt.source (legend : Legend) (indent : Nat) : Stmt → String
  | .assign _ assignment =>
    indentation indent ++ assignment.expr.source legend false ++ ";\n"
  | .increment _ place => indentation indent ++ place.source legend false ++ "++;\n"
  | .decrement _ place => indentation indent ++ place.source legend false ++ "--;\n"
  | .read _ place => indentation indent ++ "input >> " ++ place.source legend false ++ ";\n"
  | .write _ value => indentation indent ++ "disp << " ++ value.source legend false ++ ";\n"
  | .ifThen _ cond body =>
    indentation indent ++ "if (" ++ cond.source legend false ++ ") \x7b\n" ++
      body.source legend (indent + indentStep) ++ indentation indent ++ "\x7d\n"
  | .ifElse _ cond yes no =>
    indentation indent ++ "if (" ++ cond.source legend false ++ ") \x7b\n" ++
      yes.source legend (indent + indentStep) ++ indentation indent ++ "\x7d\n" ++
      indentation indent ++ "else \x7b\n" ++ no.source legend (indent + indentStep) ++
      indentation indent ++ "\x7d\n"
  | .loop _ cond body =>
    indentation indent ++ "while (" ++ cond.source legend false ++ ") \x7b\n" ++
      body.source legend (indent + indentStep) ++ indentation indent ++ "\x7d\n"
  | .call _ call => indentation indent ++ call.expr.source legend false ++ ";\n"
  | .ret _ none => indentation indent ++ "return;\n"
  | .ret _ (some value) =>
    indentation indent ++ "return " ++ value.source legend false ++ ";\n"

/-- The declarations of a block and then its statements. -/
def Block.source (legend : Legend) (indent : Nat) : Block → String
  | .mk _ decls _ stmts => Decl.sourceAll legend indent decls ++ Stmt.sourceAll legend indent stmts

/-- Declarations one after the other. -/
def Decl.sourceAll (legend : Legend) (indent : Nat) : List Decl → String
  | [] => ""
  | d :: ds => d.source legend indent ++ Decl.sourceAll legend indent ds

/-- Statements one after the other. -/
def Stmt.sourceAll (legend : Legend) (indent : Nat) : List Stmt → String
  | [] => ""
  | s :: ss => s.source legend indent ++ Stmt.sourceAll legend indent ss

end

/-- A program. -/
def Program.source (legend : Legend) (program : Program) : String :=
  Decl.sourceAll legend 0 program.decls

/-- Any node, not indented. -/
def Node.source (legend : Legend) : Node → String
  | .program p => p.source legend
  | .declList _ decls => Decl.sourceAll legend 0 decls
  | .decl d => d.source legend 0
  | .formals fs => fs.source legend
  | .formal f => f.source legend
  | .body _ block => block.source legend 0
  | .stmtList _ stmts => Stmt.sourceAll legend 0 stmts
  | .stmt s => s.source legend 0
  | .exprList _ exprs => Expr.sourceArgs legend exprs
  | .expr e => e.source legend false
  | .type t => t.source legend

end Minim
