import Minim.Proofs.Syntax.WellFormed
import Minim.Proofs.Syntax.Words
import Minim.Proofs.Token.Spelling
import Minim.Syntax.Source

/-!
# Source texts lex to their words

No two words of a source text run into one another: after a name or a numeral comes a blank or a
mark, and after a sign never a character that makes a longer mark of it.
-/

namespace Minim

open Lexeme

/-! ## Texts that lex to words -/

/-- What follows does not carry a name or a numeral on. -/
def Ends (r : List Char) : Prop :=
  ∀ d, r.head? = some d → continuesName d = false ∧ Unicode.isDigit d = false

theorem Ends.cons {d : Char} {r : List Char}
    (h : continuesName d = false ∧ Unicode.isDigit d = false) : Ends (d :: r) := by
  rintro d' same
  cases same
  exact h

theorem Ends.space (r : List Char) : Ends (' ' :: r) :=
  .cons (by decide)

theorem Ends.mark {c : Char} {kind : TokenKind} (h : singleKind? c = some kind) (r : List Char) :
    Ends (c :: r) := by
  have all : markStarts.all (fun c => !continuesName c && !Unicode.isDigit c) = true := by
    decide +kernel
  exact .cons (by simpa using List.all_eq_true.mp all c (singleKind?_spelling h).1)

/-- The text lexes to the words, where what follows does not carry the last one on. -/
def LexesAs (text : String) (words : List Content) : Prop :=
  ∀ ⦃r : List Char⦄ ⦃contents : List Content⦄, Ends r → Lexes r contents →
    Lexes (text.toList ++ r) (words ++ contents)

/-- The text lexes to the words whatever follows. -/
def LexesWholly (text : String) (words : List Content) : Prop :=
  ∀ ⦃r : List Char⦄ ⦃contents : List Content⦄, Lexes r contents →
    Lexes (text.toList ++ r) (words ++ contents)

/-- What a sign can stand before: no character that makes a longer mark of it. -/
def OpensOperand (text : String) : Prop :=
  ∃ d r, text.toList = d :: r ∧ d ≠ '-' ∧ d ≠ '='

theorem OpensOperand.append {s : String} (h : OpensOperand s) (t : String) :
    OpensOperand (s ++ t) := by
  obtain ⟨d, r, text, opens⟩ := h
  exact ⟨d, r ++ t.toList, by rw [String.toList_append, text, List.cons_append], opens⟩

theorem opensOperand_of_isName {w : String} (h : IsName w) : OpensOperand w := by
  obtain ⟨c, cs, text, starts, -⟩ := h
  refine ⟨c, cs, text, ?_, ?_⟩ <;>
  · rintro rfl
    exact absurd starts (by decide)

/-! ## Names and types -/

theorem Ident.source_none (name : Ident) : name.source none = name.name := by
  rw [Ident.source, Legend.note?_none]

theorem Ident.lexes {name : Ident} (h : name.WellFormed) :
    LexesAs (name.source none) [name.nameWord] := by
  obtain ⟨w, value, isName, notKeyword⟩ := h
  intro r contents ends rest
  have run := Lexes.name isName (fun d head => (ends d head).1) rest
  rw [wordKind_eq_identifier notKeyword] at run
  rwa [Ident.source_none, Ident.name, value, Ident.nameWord, value]

theorem Ident.opensOperand {name : Ident} (h : name.WellFormed) :
    OpensOperand (name.source none) := by
  obtain ⟨w, value, isName, -⟩ := h
  rw [Ident.source_none, Ident.name, value]
  exact opensOperand_of_isName isName

theorem Ends.continuesName {r : List Char} (h : Ends r) :
    ∀ d, r.head? = some d → continuesName d = false :=
  fun d head => (h d head).1

theorem TypeExpr.lexes {ty : TypeExpr} (h : ty.WellFormed) :
    LexesAs (ty.source none) ty.words := by
  intro r contents ends rest
  cases ty with
  | int => exact .keyword (w := "int") (by decide) ends.continuesName rest
  | bool => exact .keyword (w := "bool") (by decide) ends.continuesName rest
  | void => exact .keyword (w := "void") (by decide) ends.continuesName rest
  | struct pos name =>
    rw [TypeExpr.source, String.toList_append, List.append_assoc]
    show Lexes ("struct".toList ++ ' ' :: (_ ++ r)) _
    exact .keyword (by decide) (Ends.space _).continuesName
      (.space (name.lexes h ends rest))

/-! ## Expressions -/

/-- A binary operator is followed by a blank. -/
theorem Lexes.operator {n : Nat} {kind : TokenKind} (mem : kind ∈ Grammar.operatorsAt n)
    {r : List Char} {contents : List Content} (rest : Lexes (' ' :: r) contents) :
    Lexes ((spelling kind).toList ++ ' ' :: r) (fixed kind :: contents) := by
  have isOperator := Grammar.mem_operators_of_mem_operatorsAt mem
  simp only [Grammar.operators, List.mem_cons, List.not_mem_nil, or_false] at isOperator
  rcases isOperator with rfl | rfl | rfl | rfl | rfl | rfl | rfl | rfl | rfl | rfl | rfl | rfl
  · exact .pair rfl rest
  · exact .pair rfl rest
  · exact .pair rfl rest
  · exact .pair rfl rest
  · exact .single rfl rfl (by decide) rest
  · exact .single rfl rfl (by decide) rest
  · exact .pair rfl rest
  · exact .pair rfl rest
  · exact .single rfl rfl (by decide) rest
  · exact .single rfl rfl (by decide) rest
  · exact .single rfl rfl (by decide) rest
  · exact .single rfl rfl (by decide) rest

/-- A sign is followed by an operand. -/
theorem Lexes.sign {kind : TokenKind} (sign : kind = .minus ∨ kind = .notOp) {d : Char}
    {r : List Char} {contents : List Content} (opens : d ≠ '-' ∧ d ≠ '=')
    (rest : Lexes (d :: r) contents) :
    Lexes ((spelling kind).toList ++ d :: r) (fixed kind :: contents) := by
  obtain ⟨notMinus, notEquals⟩ := opens
  rcases sign with rfl | rfl
  · have apart : pairKind? '-' d = none := by
      unfold pairKind?
      split <;> simp_all
    exact Lexes.single (c := '-') rfl apart (.inl (by decide)) rest
  · have apart : pairKind? '!' d = none := by
      unfold pairKind?
      split <;> simp_all
    exact Lexes.single (c := '!') rfl apart (.inl (by decide)) rest

theorem opensOperand_paren : OpensOperand "(" :=
  ⟨'(', [], rfl, by decide, by decide⟩

theorem opensOperand_decimalNat (n : Nat) : OpensOperand (Text.decimalNat n) := by
  rw [OpensOperand, Text.decimalNat, String.toList_ofList]
  cases shown : Nat.toDigits 10 n with
  | nil => exact absurd shown Nat.toDigits_ne_nil
  | cons c tail =>
    have digit : c.isDigit = true := by
      refine Nat.isDigit_of_mem_toDigits (b := 10) (n := n) (by omega) (by omega) ?_
      rw [shown]
      exact List.mem_cons_self ..
    refine ⟨c, tail, rfl, ?_, ?_⟩ <;>
    · rintro rfl
      exact absurd digit (by decide)

/-- No operand begins with a character that makes a longer mark of a sign. -/
theorem Expr.opensOperand {e : Expr} (h : e.WellFormed) (nested : Bool) :
    OpensOperand (e.source none nested) := by
  induction e using Expr.rec (motive_2 := fun _ => True) generalizing nested with
  | int pos value =>
    obtain ⟨n, rfl, -⟩ := h
    rw [Expr.source, TokenValue.word, Text.decimal_natCast]
    exact opensOperand_decimalNat n
  | string pos written =>
    obtain ⟨w, rfl, cs, text, -⟩ := h
    exact ⟨_, cs, text, by decide, by decide⟩
  | bool pos value =>
    cases value with
    | false => exact opensOperand_of_isName (w := "false") (isName_of_all rfl rfl (by decide))
    | true => exact opensOperand_of_isName (w := "true") (isName_of_all rfl rfl (by decide))
  | ident name => exact name.opensOperand h
  | dot pos base field ih =>
    rw [Expr.source, String.append_assoc]
    exact (ih h.2.1 false).append _
  | assign pos target value ih =>
    rw [Expr.source]
    cases nested with
    | false =>
      rw [if_neg Bool.false_ne_true, String.append_assoc]
      exact (ih h.2.1 false).append _
    | true =>
      rw [if_pos rfl, String.append_assoc]
      exact opensOperand_paren.append _
  | call pos callee argsPos args =>
    rw [Expr.source, String.append_assoc, String.append_assoc]
    exact (callee.opensOperand h.1).append _
  | unary pos op operand =>
    rw [Expr.source, String.append_assoc, String.append_assoc]
    exact opensOperand_paren.append _
  | binary pos left op right =>
    rw [Expr.source]
    simp only [String.append_assoc]
    exact opensOperand_paren.append _
  | nil => trivial
  | cons => trivial

theorem LexesAs.paren {text : String} {words : List Content} (h : LexesAs text words) :
    LexesAs ("(" ++ text ++ ")") (fixed .lparen :: (words ++ [fixed .rparen])) := by
  intro r contents ends rest
  simp only [String.toList_append, List.append_assoc, List.cons_append]
  show Lexes ('(' :: (_ ++ ')' :: r)) _
  exact .lone rfl
    (h (.mark rfl _) (.lone rfl rest))

mutual

/-- The words of an expression come back from its text. -/
theorem Expr.lexes (e : Expr) (h : e.WellFormed) (nested : Bool) :
    LexesAs (e.source none nested) (e.words nested) := by
  cases e with
  | int pos value =>
    obtain ⟨n, rfl, hasNumeral⟩ := h
    intro r contents ends rest
    rw [Expr.source, TokenValue.word, Text.decimal_natCast]
    exact .integer hasNumeral (fun d head => (ends d head).2) rest
  | string pos written =>
    obtain ⟨w, rfl, isLiteral⟩ := h
    intro r contents ends rest
    exact .string isLiteral rest
  | bool pos value =>
    intro r contents ends rest
    cases value with
    | false => exact .keyword (w := "false") (by decide) ends.continuesName rest
    | true => exact .keyword (w := "true") (by decide) ends.continuesName rest
  | ident name => exact name.lexes h
  | dot pos base field =>
    obtain ⟨-, baseFormed, fieldFormed⟩ := h
    intro r contents ends rest
    rw [Expr.source, Expr.words]
    simp only [String.toList_append, List.append_assoc]
    show Lexes (_ ++ '.' :: (_ ++ r)) (_ ++ fixed .dot :: ([field.nameWord] ++ contents))
    exact base.lexes baseFormed false (.mark rfl _)
      (.lone rfl (field.lexes fieldFormed ends rest))
  | assign pos target value =>
    obtain ⟨-, targetFormed, valueFormed⟩ := h
    have bare : LexesAs (target.source none false ++ " = " ++ value.source none true)
        (target.words false ++ fixed .assign :: value.words true) := by
      intro r contents ends rest
      simp only [String.toList_append, List.append_assoc, List.cons_append]
      show Lexes (_ ++ ' ' :: '=' :: ' ' :: (_ ++ r)) _
      exact target.lexes targetFormed false (.space _) (.space
        (.single rfl rfl (by decide) (.space (value.lexes valueFormed true ends rest))))
    rw [Expr.source, Expr.words]
    cases nested with
    | false => exact bare
    | true =>
      rw [if_pos rfl, if_pos rfl]
      exact bare.paren
  | call pos callee argsPos args =>
    obtain ⟨calleeFormed, argsFormed⟩ := h
    intro r contents ends rest
    rw [Expr.source, Expr.words]
    simp only [String.toList_append, List.append_assoc, List.cons_append]
    show Lexes (_ ++ '(' :: (_ ++ ')' :: r)) ([callee.nameWord] ++ _)
    exact callee.lexes calleeFormed (.mark rfl _) (.lone rfl
      (Expr.lexesArgs args argsFormed (.mark rfl _)
        (.lone rfl rest)))
  | unary pos op operand =>
    obtain ⟨sign, operandFormed⟩ := h
    obtain ⟨kind, isSign, rfl⟩ := exists_sign sign
    intro r contents ends rest
    have operandRun := operand.lexes operandFormed true (.mark rfl _)
      (Lexes.lone (c := ')') rfl rest)
    obtain ⟨d, tail, text, opens⟩ := Expr.opensOperand operandFormed true
    rw [text] at operandRun
    rw [Expr.source, Expr.words, operatorWord_of_hasSpelling (hasSpelling_of_sign isSign),
      TokenValue.word]
    simp only [String.toList_append, List.append_assoc, List.cons_append, text]
    show Lexes ('(' :: (_ ++ d :: (tail ++ ')' :: r))) _
    exact .lone rfl (.sign isSign opens operandRun)
  | binary pos left op right =>
    obtain ⟨⟨n, kind, mem, rfl⟩, leftFormed, rightFormed⟩ := h
    intro r contents ends rest
    rw [Expr.source, Expr.words, operatorWord_of_hasSpelling (hasSpelling_of_mem_operatorsAt mem),
      TokenValue.word]
    simp only [String.toList_append, List.append_assoc, List.cons_append]
    show Lexes ('(' :: (_ ++ ' ' :: (_ ++ ' ' :: (_ ++ ')' :: r)))) _
    exact .lone rfl (left.lexes leftFormed true (.space _)
      (.space (.operator mem (.space (right.lexes rightFormed true
        (.mark rfl _) (.lone rfl rest))))))

theorem Expr.lexesArgs (es : List Expr) (h : Expr.AllWellFormed es) :
    LexesAs (Expr.sourceArgs none es) (Expr.wordsArgs es) := by
  cases es with
  | nil => exact fun r contents ends rest => rest
  | cons e es =>
    obtain ⟨first, others⟩ := h
    intro r contents ends rest
    cases es with
    | nil => exact e.lexes first true ends rest
    | cons e' es =>
      rw [Expr.sourceArgs, Expr.wordsArgs]
      · simp only [String.toList_append, List.append_assoc, List.cons_append]
        show Lexes (_ ++ ',' :: ' ' :: (_ ++ r)) _
        exact e.lexes first true (.mark rfl _) (.lone rfl
          (.space (Expr.lexesArgs (e' :: es) others ends rest)))
      · exact nofun
      · exact nofun

end

/-! ## Statements -/

theorem Lexes.indentation (indent : Nat) {r : List Char} {contents : List Content}
    (rest : Lexes r contents) : Lexes ((indentation indent).toList ++ r) contents := by
  rw [Minim.indentation, Text.spaces, String.toList_ofList]
  generalize (indent : Int).toNat = n
  induction n with
  | zero => exact rest
  | succ n ih => exact .space ih

/-- The end of a statement on its line. -/
theorem Lexes.endOfLine {r : List Char} {contents : List Content} (rest : Lexes r contents) :
    Lexes (';' :: '\n' :: r) (fixed .semicolon :: contents) :=
  .lone rfl (.newline rest)

/-- A keyword and the parenthesis in front of a condition. -/
theorem Lexes.heading {w : String} {kind : TokenKind} (mem : (w, kind) ∈ keywords)
    {r : List Char} {contents : List Content} (rest : Lexes r contents) :
    Lexes (w.toList ++ ' ' :: '(' :: r) (fixed kind :: fixed .lparen :: contents) :=
  .keyword mem (Ends.space _).continuesName
    (.space (.lone rfl rest))

/-- A brace before or after the lines of a block. -/
theorem Lexes.opening {r : List Char} {contents : List Content} (rest : Lexes r contents) :
    Lexes (' ' :: '{' :: '\n' :: r) (fixed .lbrace :: contents) :=
  .space (.lone rfl (.newline rest))

theorem Lexes.closing (indent : Nat) {r : List Char} {contents : List Content}
    (rest : Lexes r contents) :
    Lexes ((Minim.indentation indent).toList ++ '}' :: r) (fixed .rbrace :: contents) :=
  .indentation indent (.lone rfl rest)

theorem Decl.lexes_of_isVariable {d : Decl} (h : d.IsVariable) (indent : Nat) :
    LexesWholly (d.source none indent) d.words := by
  intro r contents rest
  cases d with
  | var pos ty name =>
    obtain ⟨typeFormed, nameFormed⟩ := h
    rw [Decl.source, Decl.words]
    simp only [String.toList_append, List.append_assoc]
    show Lexes (_ ++ (_ ++ ' ' :: (_ ++ ';' :: '\n' :: r)))
      (_ ++ ([name.nameWord] ++ fixed .semicolon :: contents))
    exact .indentation indent (ty.lexes typeFormed (.space _)
      (.space (name.lexes nameFormed (.mark rfl _) (.endOfLine rest))))
  | func => cases h
  | struct => cases h

theorem Decl.lexesAll_of_isVariable {ds : List Decl} (h : ∀ d ∈ ds, d.IsVariable)
    (indent : Nat) : LexesWholly (Decl.sourceAll none indent ds) (Decl.wordsAll ds) := by
  induction ds with
  | nil => exact fun r contents rest => rest
  | cons d ds ih =>
    obtain ⟨first, others⟩ := List.forall_mem_cons.mp h
    intro r contents rest
    rw [Decl.sourceAll, Decl.wordsAll, String.toList_append, List.append_assoc, List.append_assoc]
    exact Decl.lexes_of_isVariable first indent (ih others rest)

/-- The words of a block come back from its text and the braces around it. -/
def Block.Lexes (b : Block) : Prop :=
  ∀ (indent : Nat) ⦃r : List Char⦄ ⦃contents : List Content⦄, Minim.Lexes r contents →
    Minim.Lexes (' ' :: '{' :: '\n' :: ((b.source none (indent + indentStep)).toList ++
      ((indentation indent).toList ++ '}' :: r))) (b.words ++ contents)

/-- An expression on a line of its own. -/
theorem Expr.lexes_ended {e : Expr} (h : e.WellFormed) (indent : Nat) :
    LexesWholly (indentation indent ++ e.source none false ++ ";\n")
      (e.words false ++ [fixed .semicolon]) := by
  intro r contents rest
  simp only [String.toList_append, List.append_assoc]
  exact .indentation indent (Expr.lexes _ h false (.mark (c := ';') rfl _) (.endOfLine rest))

/-- A counting statement on its line: a location, a sign twice behind it and a semicolon. -/
theorem Expr.lexes_counted {place : Expr} (h : place.WellFormed) {c : Char}
    {single operator : TokenKind} (mark : singleKind? c = some single)
    (pair : pairKind? c c = some operator) {ending : String}
    (text : ending.toList = [c, c, ';', '\n']) (indent : Nat) :
    LexesWholly (indentation indent ++ place.source none false ++ ending)
      (place.words false ++ [fixed operator, fixed .semicolon]) := by
  intro r contents rest
  simp only [String.toList_append, List.append_assoc, text]
  exact .indentation indent (Expr.lexes _ h false (.mark mark _) (.pair pair (.endOfLine rest)))

/-- A condition in parentheses behind its keyword. -/
theorem Expr.lexes_condition {cond : Expr} (h : cond.WellFormed) {w : String} {kind : TokenKind}
    (mem : (w, kind) ∈ keywords) (indent : Nat) {r : List Char} {contents : List Content}
    (rest : Lexes r contents) :
    Lexes ((indentation indent).toList ++ (w.toList ++ ' ' :: '(' ::
        ((cond.source none false).toList ++ ')' :: r)))
      (fixed kind :: fixed .lparen :: (cond.words false ++ fixed .rparen :: contents)) :=
  .indentation indent (.heading mem (Expr.lexes _ h false (.mark rfl _) (.lone rfl rest)))

/-- A condition and the block under it. -/
theorem Expr.lexes_guarded {cond : Expr} {body : Block} (h : cond.WellFormed)
    (inside : body.Lexes) {w heading : String} {kind : TokenKind} (mem : (w, kind) ∈ keywords)
    (text : heading.toList = w.toList ++ [' ', '(']) (indent : Nat) :
    LexesWholly (indentation indent ++ heading ++ cond.source none false ++ ") \x7b\n" ++
        body.source none (indent + indentStep) ++ indentation indent ++ "\x7d\n")
      (fixed kind :: fixed .lparen :: (cond.words false ++ fixed .rparen :: body.words)) := by
  intro r contents rest
  simp only [String.toList_append, List.append_assoc, text, List.cons_append]
  exact Expr.lexes_condition h mem indent (inside indent (.newline rest))

mutual

/-- The words of a statement come back from its text. -/
theorem Stmt.lexes (st : Stmt) (h : st.WellFormed) (indent : Nat) :
    LexesWholly (st.source none indent) st.words := by
  cases st with
  | assign pos assignment => exact Expr.lexes_ended h indent
  | increment pos place => exact Expr.lexes_counted (c := '+') h.2 rfl rfl rfl indent
  | decrement pos place => exact Expr.lexes_counted (c := '-') h.2 rfl rfl rfl indent
  | read pos place =>
    intro r contents rest
    rw [Stmt.source, Stmt.words]
    simp only [String.toList_append, List.append_assoc, List.cons_append]
    show Minim.Lexes (_ ++ ("input".toList ++ ' ' :: '>' :: '>' :: ' ' :: (_ ++ ';' :: '\n' :: r)))
      _
    exact .indentation indent (.keyword (w := "input") (by decide)
      (Ends.space _).continuesName (.space (.pair rfl (.space
        (Expr.lexes _ h.2 false (.mark rfl _) (.endOfLine rest))))))
  | write pos value =>
    intro r contents rest
    rw [Stmt.source, Stmt.words]
    simp only [String.toList_append, List.append_assoc, List.cons_append]
    show Minim.Lexes (_ ++ ("disp".toList ++ ' ' :: '<' :: '<' :: ' ' :: (_ ++ ';' :: '\n' :: r)))
      _
    exact .indentation indent (.keyword (w := "disp") (by decide)
      (Ends.space _).continuesName (.space (.pair rfl (.space
        (Expr.lexes _ h false (.mark rfl _) (.endOfLine rest))))))
  | ifThen pos cond body =>
    exact Expr.lexes_guarded h.1 (body.lexes h.2) (w := "if") (by decide) rfl indent
  | ifElse pos cond yes no =>
    obtain ⟨condFormed, yesFormed, noFormed⟩ := h
    intro r contents rest
    rw [Stmt.source, Stmt.words]
    simp only [String.toList_append, List.append_assoc, List.cons_append]
    show Minim.Lexes (_ ++ ("if".toList ++ ' ' :: '(' :: (_ ++ ')' :: ' ' :: '{' :: '\n' ::
      (_ ++ (_ ++ '}' :: '\n' :: (_ ++ ("else".toList ++ ' ' :: '{' :: '\n' ::
        (_ ++ (_ ++ '}' :: '\n' :: r))))))))) _
    exact Expr.lexes_condition (w := "if") condFormed (by decide) indent (yes.lexes yesFormed
      indent (.newline (.indentation indent (.keyword (w := "else") (by decide)
        (Ends.space _).continuesName (no.lexes noFormed indent (.newline rest))))))
  | loop pos cond body =>
    exact Expr.lexes_guarded h.1 (body.lexes h.2) (w := "while") (by decide) rfl indent
  | call pos call => exact Expr.lexes_ended h indent
  | ret pos value =>
    intro r contents rest
    cases value with
    | none =>
      rw [Stmt.source, Stmt.words]
      simp only [String.toList_append, List.append_assoc]
      show Minim.Lexes (_ ++ ("return".toList ++ ';' :: '\n' :: r)) _
      exact .indentation indent (.keyword (w := "return") (by decide)
        (Ends.mark rfl _).continuesName (.endOfLine rest))
    | some value =>
      rw [Stmt.source, Stmt.words]
      simp only [String.toList_append, List.append_assoc, List.cons_append]
      show Minim.Lexes (_ ++ ("return".toList ++ ' ' :: (_ ++ ';' :: '\n' :: r))) _
      exact .indentation indent (.keyword (w := "return") (by decide)
        (Ends.space _).continuesName (.space
          (Expr.lexes _ (h value rfl) false (.mark rfl _) (.endOfLine rest))))

theorem Block.lexes (b : Block) (h : b.WellFormed) : b.Lexes := by
  cases b with
  | mk declsPos decls stmtsPos stmts =>
    obtain ⟨declsFormed, stmtsFormed⟩ := h
    intro indent r contents rest
    rw [Block.source, Block.words]
    simp only [String.toList_append, List.append_assoc, List.cons_append]
    exact .opening (Decl.lexesAll_of_isVariable declsFormed _
      (Stmt.lexesAll stmts stmtsFormed _ (.closing indent rest)))

theorem Stmt.lexesAll (ss : List Stmt) (h : Stmt.AllWellFormed ss) (indent : Nat) :
    LexesWholly (Stmt.sourceAll none indent ss) (Stmt.wordsAll ss) := by
  cases ss with
  | nil => exact fun r contents rest => rest
  | cons st ss =>
    obtain ⟨first, others⟩ := h
    intro r contents rest
    rw [Stmt.sourceAll, Stmt.wordsAll, String.toList_append, List.append_assoc, List.append_assoc]
    exact Stmt.lexes st first indent (Stmt.lexesAll ss others indent rest)

end

/-! ## Declarations -/

theorem Formal.lexes {f : Formal} (h : f.WellFormed) : LexesAs (f.source none) f.words := by
  obtain ⟨typeFormed, nameFormed⟩ := h
  intro r contents ends rest
  rw [Formal.source, Formal.words]
  simp only [String.toList_append, List.append_assoc]
  show Minim.Lexes (_ ++ ' ' :: (_ ++ r)) _
  exact f.type.lexes typeFormed (.space _)
    (.space (f.name.lexes nameFormed ends rest))

theorem Formal.lexesAll {fs : List Formal} (h : ∀ f ∈ fs, f.WellFormed) :
    LexesAs (", ".intercalate (fs.map (Formal.source none))) (Formal.wordsAll fs) := by
  induction fs with
  | nil => exact fun r contents ends rest => rest
  | cons f fs ih =>
    obtain ⟨first, others⟩ := List.forall_mem_cons.mp h
    intro r contents ends rest
    cases fs with
    | nil =>
      rw [List.map_cons, List.map_nil, String.intercalate_singleton]
      exact Formal.lexes first ends rest
    | cons f' fs =>
      rw [List.map_cons, List.map_cons, String.intercalate_cons_cons, ← List.map_cons,
        Formal.wordsAll]
      · simp only [String.toList_append, List.append_assoc, List.cons_append]
        show Minim.Lexes (_ ++ ',' :: ' ' :: (_ ++ r)) _
        exact Formal.lexes first (.mark rfl _) (.lone rfl
          (.space (ih others ends rest)))
      · exact nofun

/-- The words of a declaration come back from its text. -/
theorem Decl.lexes {d : Decl} (h : d.WellFormed) (indent : Nat) :
    LexesWholly (d.source none indent) d.words := by
  cases d with
  | var pos ty name => exact Decl.lexes_of_isVariable (d := .var pos ty name) h indent
  | func pos returnType name formals bodyPos body =>
    obtain ⟨typeFormed, nameFormed, formalsFormed, bodyFormed⟩ := h
    intro r contents rest
    rw [Decl.source, Decl.words, Formals.source]
    simp only [String.toList_append, List.append_assoc, List.cons_append]
    show Minim.Lexes (_ ++ (_ ++ ' ' :: (_ ++ '(' :: (_ ++ ')' :: ' ' :: '{' :: '\n' ::
      (_ ++ (_ ++ '}' :: '\n' :: '\n' :: r)))))) (_ ++ ([name.nameWord] ++ _))
    exact .indentation indent (returnType.lexes typeFormed (.space _)
      (.space (name.lexes nameFormed (.mark rfl _)
        (.lone rfl (Formal.lexesAll formalsFormed (.mark rfl _)
          (.lone rfl (body.lexes bodyFormed indent
            (.newline (.newline rest)))))))))
  | struct pos name fieldsPos fields =>
    obtain ⟨nameFormed, fieldsFormed⟩ := h
    intro r contents rest
    rw [Decl.source, Decl.words]
    simp only [String.toList_append, List.append_assoc, List.cons_append]
    show Minim.Lexes (_ ++ ("struct".toList ++ ' ' :: (_ ++ ' ' :: '{' :: '\n' ::
      (_ ++ (_ ++ '}' :: ';' :: '\n' :: '\n' :: r)))))
      (fixed .structWord :: ([name.nameWord] ++ _))
    exact .indentation indent (.keyword (w := "struct") (by decide)
      (Ends.space _).continuesName (.space (name.lexes nameFormed
        (.space _) (.opening (Decl.lexesAll_of_isVariable fieldsFormed _
          (.closing indent (.endOfLine (.newline rest))))))))

theorem Decl.lexesAll {ds : List Decl} (h : ∀ d ∈ ds, d.WellFormed) (indent : Nat) :
    LexesWholly (Decl.sourceAll none indent ds) (Decl.wordsAll ds) := by
  induction ds with
  | nil => exact fun r contents rest => rest
  | cons d ds ih =>
    obtain ⟨first, others⟩ := List.forall_mem_cons.mp h
    intro r contents rest
    rw [Decl.sourceAll, Decl.wordsAll, String.toList_append, List.append_assoc, List.append_assoc]
    exact Decl.lexes first indent (ih others rest)

/-- **The words of a program come back from its text.** -/
theorem Program.lexes {T : Program} (h : T.WellFormed) :
    Minim.Lexes (T.source none).toList T.words := by
  have run := Decl.lexesAll h 0 (Lexes.done rfl : Minim.Lexes [] [])
  rwa [List.append_nil, List.append_nil] at run

end Minim
