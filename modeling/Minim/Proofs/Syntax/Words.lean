import Minim.Proofs.Grammar.Expression
import Minim.Proofs.Token.Words

/-!
# The words of a tree

The words that the source text of a tree is made of, in the order in which they stand there: every
operation in parentheses, and so every assignment inside another expression.
-/

namespace Minim

open Lexeme

/-! ## Words -/

/-- The kind of a word with a single spelling, told by the spelling. -/
def Lexeme.kindOf (w : String) : TokenKind :=
  (TokenKind.all.find? fun kind => spelling kind = w).getD .identifier

/-- The word that an operator is written as. -/
def TokenValue.operatorWord (op : TokenValue) : Content := (kindOf op.word, op)

/-- The word that an identifier is written as. -/
def Ident.nameWord (name : Ident) : Content := (.identifier, name.value)

/-- The words of a written type. -/
def TypeExpr.words : TypeExpr → List Content
  | .int _ => [fixed .intType]
  | .bool _ => [fixed .boolType]
  | .void _ => [fixed .voidType]
  | .struct _ name => [fixed .structWord, name.nameWord]

mutual

/-- The words of an expression; a nested one parenthesises an assignment. -/
def Expr.words (nested : Bool) : Expr → List Content
  | .int _ value => [(.integer, value)]
  | .string _ written => [(.string, written)]
  | .bool _ value => [fixed (if value then .trueWord else .falseWord)]
  | .ident name => [name.nameWord]
  | .dot _ base field => base.words false ++ [fixed .dot, field.nameWord]
  | .assign _ target value =>
    let words := target.words false ++ fixed .assign :: value.words true
    if nested then fixed .lparen :: (words ++ [fixed .rparen]) else words
  | .call _ callee _ args =>
    callee.nameWord :: fixed .lparen :: (Expr.wordsArgs args ++ [fixed .rparen])
  | .unary _ op operand =>
    fixed .lparen :: op.operatorWord :: (operand.words true ++ [fixed .rparen])
  | .binary _ left op right =>
    fixed .lparen ::
      (left.words true ++ op.operatorWord :: (right.words true ++ [fixed .rparen]))

/-- The words of expressions separated by commas. -/
def Expr.wordsArgs : List Expr → List Content
  | [] => []
  | [e] => e.words true
  | e :: es => e.words true ++ fixed .comma :: Expr.wordsArgs es

end

/-- The words of a formal parameter. -/
def Formal.words (f : Formal) : List Content := f.type.words ++ [f.name.nameWord]

/-- The words of formal parameters separated by commas. -/
def Formal.wordsAll : List Formal → List Content
  | [] => []
  | [f] => f.words
  | f :: fs => f.words ++ fixed .comma :: Formal.wordsAll fs

mutual

/-- The words of a declaration. -/
def Decl.words : Decl → List Content
  | .var _ type name => type.words ++ [name.nameWord, fixed .semicolon]
  | .func _ returnType name formals _ body =>
    returnType.words ++ name.nameWord :: fixed .lparen ::
      (Formal.wordsAll formals.items ++ fixed .rparen :: body.words)
  | .struct _ name _ fields =>
    fixed .structWord :: name.nameWord :: fixed .lbrace ::
      (Decl.wordsAll fields ++ [fixed .rbrace, fixed .semicolon])

/-- The words of a statement. -/
def Stmt.words : Stmt → List Content
  | .assign _ assignment => assignment.expr.words false ++ [fixed .semicolon]
  | .increment _ place => place.words false ++ [fixed .increment, fixed .semicolon]
  | .decrement _ place => place.words false ++ [fixed .decrement, fixed .semicolon]
  | .read _ place =>
    fixed .inputWord :: fixed .readOp :: (place.words false ++ [fixed .semicolon])
  | .write _ value =>
    fixed .dispWord :: fixed .writeOp :: (value.words false ++ [fixed .semicolon])
  | .ifThen _ cond body =>
    fixed .ifWord :: fixed .lparen :: (cond.words false ++ fixed .rparen :: body.words)
  | .ifElse _ cond yes no =>
    fixed .ifWord :: fixed .lparen :: (cond.words false ++ fixed .rparen ::
      (yes.words ++ fixed .elseWord :: no.words))
  | .loop _ cond body =>
    fixed .whileWord :: fixed .lparen :: (cond.words false ++ fixed .rparen :: body.words)
  | .call _ call => call.expr.words false ++ [fixed .semicolon]
  | .ret _ none => [fixed .returnWord, fixed .semicolon]
  | .ret _ (some value) => fixed .returnWord :: (value.words false ++ [fixed .semicolon])

/-- The words of a block and the braces around it. -/
def Block.words : Block → List Content
  | .mk _ decls _ stmts =>
    fixed .lbrace :: (Decl.wordsAll decls ++ (Stmt.wordsAll stmts ++ [fixed .rbrace]))

/-- The words of declarations one after the other. -/
def Decl.wordsAll : List Decl → List Content
  | [] => []
  | d :: ds => d.words ++ Decl.wordsAll ds

/-- The words of statements one after the other. -/
def Stmt.wordsAll : List Stmt → List Content
  | [] => []
  | s :: ss => s.words ++ Stmt.wordsAll ss

end

/-- The words of a program. -/
def Program.words (T : Program) : List Content := Decl.wordsAll T.decls

/-! ## Operators -/

theorem Lexeme.kindOf_spelling {kind : TokenKind} (h : HasSpelling kind) :
    kindOf (spelling kind) = kind := by
  obtain ⟨notInteger, notString, notIdentifier, notEnd⟩ := h
  cases kind <;> first | contradiction | decide

theorem operatorWord_of_hasSpelling {kind : TokenKind} (h : HasSpelling kind) :
    (TokenValue.text (spelling kind)).operatorWord = fixed kind := by
  rw [TokenValue.operatorWord, TokenValue.word, kindOf_spelling h, fixed]

theorem hasSpelling_of_mem_operatorsAt {n : Nat} {kind : TokenKind}
    (mem : kind ∈ Grammar.operatorsAt n) : HasSpelling kind := by
  have all : ∀ kind ∈ Grammar.operators, HasSpelling kind := by decide
  exact all kind (Grammar.mem_operators_of_mem_operatorsAt mem)

theorem exists_sign {op : TokenValue}
    (h : op = .text (spelling .minus) ∨ op = .text (spelling .notOp)) :
    ∃ kind, (kind = .minus ∨ kind = .notOp) ∧ op = .text (spelling kind) := by
  rcases h with rfl | rfl
  · exact ⟨.minus, .inl rfl, rfl⟩
  · exact ⟨.notOp, .inr rfl, rfl⟩

theorem hasSpelling_of_sign {kind : TokenKind} (h : kind = .minus ∨ kind = .notOp) :
    HasSpelling kind := by
  rcases h with rfl | rfl <;> decide

end Minim
