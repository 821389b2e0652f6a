import Minim.Proofs.Syntax.Grouping
import Minim.Proofs.Syntax.RoundTrip
import Minim.Syntax.Equality

/-!
# Source texts keep the words

A program and the source text of its tree are made of the same words in the same order, up to the
marks that only group. The source text lexes to the words of the tree, so what is to be shown of a
phrase is that its tokens are the words of the tree that it derives: exactly so for types, formal
parameters and variables, up to parentheses for an expression and the statements around it, and up
to the semicolon behind a struct for a declaration.
-/

namespace Minim

open Lexeme

/-! ## The words of trees -/

theorem Expr.words_ne_nil (e : Expr) (nested : Bool) : e.words nested ≠ [] := by
  cases e with
  | assign pos target value =>
    rw [Expr.words]
    cases nested <;> simp
  | _ => simp [Expr.words]

theorem Expr.wordsArgs_cons (e : Expr) (es : List Expr) :
    Expr.wordsArgs (e :: es) =
      e.words true ++ es.flatMap fun next => fixed .comma :: next.words true := by
  induction es generalizing e with
  | nil => rw [Expr.wordsArgs, List.flatMap_nil, List.append_nil]
  | cons next es ih =>
    rw [Expr.wordsArgs, ih next, List.flatMap_cons, List.cons_append]
    exact List.cons_ne_nil _ _

theorem Formal.wordsAll_cons (f : Formal) (fs : List Formal) :
    Formal.wordsAll (f :: fs) = f.words ++ fs.flatMap fun next => fixed .comma :: next.words := by
  induction fs generalizing f with
  | nil => rw [Formal.wordsAll, List.flatMap_nil, List.append_nil]
  | cons next fs ih =>
    rw [Formal.wordsAll, ih next, List.flatMap_cons, List.cons_append]
    exact List.cons_ne_nil _ _

/-- A declaration begins with no semicolon. -/
theorem Decl.withoutGroupingFrom_words (d : Decl) (afterBrace : Bool) :
    withoutGroupingFrom afterBrace d.words = withoutGrouping d.words := by
  refine withoutGroupingFrom_eq (fun word first => ?_) afterBrace
  have starts : ∃ kind words, d.words = fixed kind :: words ∧ kind ≠ .semicolon := by
    cases d with
    | var pos ty name => cases ty <;> exact ⟨_, _, rfl, by decide⟩
    | func pos returnType => cases returnType <;> exact ⟨_, _, rfl, by decide⟩
    | struct => exact ⟨_, _, rfl, by decide⟩
  obtain ⟨kind, words, same, notSemicolon⟩ := starts
  rw [same] at first
  cases first
  exact notSemicolon

namespace Grammar

/-! ## The words of tokens -/

theorem content_of_kind {t : Token} {kind : TokenKind} (h : t.kind = kind)
    (hasSpelling : HasSpelling kind) (legal : Legal t.content) : t.content = fixed kind := by
  rw [Token.content, fixed, h, value_of_kind h hasSpelling legal]

theorem content_of_name {t : Token} (h : t.kind = .identifier) : t.content = t.ident.nameWord := by
  rw [Token.content, h]
  rfl

theorem content_of_operator {t : Token} (hasSpelling : HasSpelling t.kind)
    (legal : Legal t.content) : t.content = t.value.operatorWord := by
  rw [value_of_kind rfl hasSpelling legal, operatorWord_of_hasSpelling hasSpelling]
  exact content_of_kind rfl hasSpelling legal

/-- The words of tokens. -/
abbrev contents (u : List Token) : List Content := u.map Token.content

@[simp] theorem contents_nil : contents [] = [] :=
  rfl

@[simp] theorem contents_cons (t : Token) (u : List Token) :
    contents (t :: u) = t.content :: contents u :=
  rfl

@[simp] theorem contents_append (u v : List Token) :
    contents (u ++ v) = contents u ++ contents v :=
  List.map_append

/-! ## Expressions -/

theorem not_mem_of_mem_operatorsAt {n : Nat} {kind : TokenKind} (h : kind ∈ operatorsAt n) :
    kind ≠ .rbrace ∧ kind ≠ .semicolon ∧ kind ≠ .lparen ∧ kind ≠ .rparen := by
  have all : ∀ kind ∈ operators,
      kind ≠ .rbrace ∧ kind ≠ .semicolon ∧ kind ≠ .lparen ∧ kind ≠ .rparen := by decide
  exact all kind (mem_operators_of_mem_operatorsAt h)

/-- No brace and no semicolon stands within an expression. -/
theorem Exp.inline {n : Nat} {u : List Token} {e : Expr} (h : Exp n u e) :
    Inline (contents u) := by
  induction h using Exp.rec (motive_2 := fun u _ _ => Inline (contents u))
    (motive_3 := fun u _ _ => Inline (contents u)) (motive_4 := fun u _ _ => Inline (contents u))
    (motive_5 := fun u _ _ => Inline (contents u)) with
  | assign _ _ equals _ ih ih' => simp [ih, ih', Token.content, equals]
  | binary _ operator _ ih ih' =>
    obtain ⟨notBrace, notSemicolon, -⟩ := not_mem_of_mem_operatorsAt operator
    simp [ih, ih', Token.content, notBrace, notSemicolon]
  | tighter _ _ ih => exact ih
  | unary _ ih => exact ih
  | sign sign _ ih => rcases sign with kind | kind <;> simp [ih, Token.content, kind]
  | suffixed _ ih => exact ih
  | int kind | string kind | yes kind | no kind | ident kind => simp [Token.content, kind]
  | paren opening _ closing ih => simp [ih, Token.content, opening, closing]
  | dot _ _ dot field ih => simp [ih, Token.content, dot, field]
  | call _ opening _ closing ih ih' => simp [ih, ih', Token.content, opening, closing]
  | none => simp
  | some _ _ ih ih' => simp [ih, ih']
  | done => simp
  | more comma _ _ ih ih' => simp [ih, ih', Token.content, comma]

/-- The tokens of an expression are its words, parentheses apart. -/
theorem Exp.operands_eq {n : Nat} {u : List Token} {e : Expr} (h : Exp n u e) :
    Sound u (∀ nested, operands (contents u) = operands (e.words nested)) := by
  induction h using Exp.rec
    (motive_2 := fun u e _ => Sound u (∀ nested, operands (contents u) = operands (e.words nested)))
    (motive_3 := fun u e _ => Sound u (∀ nested, operands (contents u) = operands (e.words nested)))
    (motive_4 := fun u es _ => Sound u (operands (contents u) = operands (Expr.wordsArgs es)))
    (motive_5 := fun u es _ => Sound u (operands (contents u) =
      operands (es.flatMap fun next => fixed .comma :: next.words true))) with
  | assign _ _ equals _ ih ih' =>
    intro legal nested
    simp only [allLegal_append, allLegal_cons] at legal
    obtain ⟨target, isEquals, value⟩ := legal
    rw [contents_append, contents_cons, content_of_kind equals (by decide) isEquals, Expr.words]
    cases nested <;>
      simp [operands_append, operands_cons, ih target false, ih' value true, fixed]
  | binary _ operator _ ih ih' =>
    intro legal nested
    simp only [allLegal_append, allLegal_cons] at legal
    obtain ⟨left, isOperator, right⟩ := legal
    have same := content_of_operator (hasSpelling_of_mem_operatorsAt operator) isOperator
    rw [contents_append, contents_cons, same, Expr.words]
    simp [operands_append, operands_cons, ih left true, ih' right true, fixed]
  | tighter _ _ ih => exact ih
  | unary _ ih => exact ih
  | sign sign _ ih =>
    intro legal nested
    obtain ⟨isSign, operand⟩ := allLegal_cons.mp legal
    have same := content_of_operator (hasSpelling_of_sign sign) isSign
    rw [contents_cons, same, Expr.words]
    simp [operands_append, operands_cons, ih operand true, fixed]
  | suffixed _ ih => exact ih
  | int kind | string kind | ident kind =>
    intro _ nested
    rw [contents_cons, Token.content, kind]
    rfl
  | yes kind | no kind =>
    intro legal nested
    rw [contents_cons, content_of_kind kind (by decide) (allLegal_cons.mp legal).1]
    rfl
  | paren opening _ closing ih =>
    intro legal nested
    simp only [allLegal_append, allLegal_cons] at legal
    simp [operands_append, operands_cons, ih legal.2.1 nested, Token.content, opening,
      closing]
  | dot _ _ dot field ih =>
    intro legal nested
    simp only [allLegal_append, allLegal_cons] at legal
    obtain ⟨base, isDot, -⟩ := legal
    rw [contents_append, contents_cons, content_of_kind dot (by decide) isDot, contents_cons,
      content_of_name field, Expr.words, operands_append, operands_append, ih base false]
    rfl
  | call _ opening _ closing ih ih' =>
    intro legal nested
    simp only [allLegal_append, allLegal_cons] at legal
    obtain ⟨callee, -, args, -⟩ := legal
    simp [operands_append, operands_cons, Expr.words, ih callee nested, ih' args, Token.content,
      opening, closing, fixed, Ident.nameWord]
  | none => exact fun _ => rfl
  | some _ _ ih ih' =>
    intro legal
    obtain ⟨first, others⟩ := allLegal_append.mp legal
    rw [contents_append, Expr.wordsArgs_cons, operands_append, operands_append, ih first true,
      ih' others]
  | done => exact fun _ => rfl
  | more comma _ _ ih ih' =>
    intro legal
    simp only [allLegal_append, allLegal_cons] at legal
    obtain ⟨isComma, next, others⟩ := legal
    rw [contents_cons, content_of_kind comma (by decide) isComma, contents_append,
      List.flatMap_cons, List.cons_append, operands_cons, operands_cons, operands_append,
      operands_append, ih next true, ih' others]

theorem Exp.regrouped {n : Nat} {u : List Token} {e : Expr} (h : Exp n u e) (legal : AllLegal u)
    (nested : Bool) : Regrouped (contents u) (e.words nested) := by
  refine .of_inline h.inline ?_ (e.words_ne_nil nested) (h.operands_eq legal nested)
  obtain ⟨t, w, rfl, -⟩ := h.begins
  exact List.cons_ne_nil _ _

theorem Unary.regrouped {u : List Token} {e : Expr} (h : Unary u e) (legal : AllLegal u)
    (nested : Bool) : Regrouped (contents u) (e.words nested) :=
  (Exp.unary h).regrouped legal nested

/-! ## Statements -/

theorem TypeName.contents_eq {u : List Token} {ty : TypeExpr} (h : TypeName u ty)
    (legal : AllLegal u) : contents u = ty.words := by
  cases h with
  | int keyword | bool keyword | void keyword =>
    rw [contents_cons, content_of_kind keyword (by decide) (allLegal_cons.mp legal).1]
    rfl
  | struct keyword name =>
    rw [contents_cons, content_of_kind keyword (by decide) (allLegal_cons.mp legal).1,
      contents_cons, content_of_name name]
    rfl

theorem Variable.contents_eq {u : List Token} {d : Decl} (h : Variable u d) (legal : AllLegal u) :
    contents u = d.words := by
  obtain ⟨written, name, semicolon⟩ := h
  simp only [allLegal_append, allLegal_cons] at legal
  rw [contents_append, written.contents_eq legal.1, contents_cons, contents_cons,
    content_of_name name, content_of_kind semicolon (by decide) legal.2.2.1]
  rfl

theorem Variables.contents_eq {u : List Token} {ds : List Decl} (h : Variables u ds)
    (legal : AllLegal u) : contents u = Decl.wordsAll ds := by
  induction h with
  | nil => rfl
  | cons first others ih =>
    obtain ⟨legal, legal'⟩ := allLegal_append.mp legal
    rw [contents_append, first.contents_eq legal, ih legal', Decl.wordsAll]

/-- A phrase that ends in some words of its own. -/
theorem Exp.regrouped_append {n : Nat} {u : List Token} {e : Expr} (h : Exp n u e)
    (legal : AllLegal u) {v : List Token} {words : List Content}
    (others : Regrouped (contents v) words) :
    Regrouped (contents (u ++ v)) (e.words false ++ words) := by
  rw [contents_append]
  exact (h.regrouped legal false).append others

theorem regrouped_cons {t : Token} {kind : TokenKind} (h : t.kind = kind)
    (hasSpelling : HasSpelling kind) {u : List Token} {words : List Content}
    (legal : AllLegal (t :: u)) (others : AllLegal u → Regrouped (contents u) words) :
    Regrouped (contents (t :: u)) (fixed kind :: words) := by
  obtain ⟨isWord, legal⟩ := allLegal_cons.mp legal
  rw [contents_cons, content_of_kind h hasSpelling isWord]
  exact (others legal).cons _

theorem Block.regrouped {u : List Token} {b : Minim.Block} (h : Block u b) :
    Sound u (Regrouped (contents u) b.words) := by
  induction h using Block.rec
    (motive_1 := fun u st _ => Sound u (Regrouped (contents u) st.words))
    (motive_2 := fun u ss _ => Sound u (Regrouped (contents u) (Stmt.wordsAll ss))) with
  | assign e semicolon | call e semicolon =>
    intro legal
    obtain ⟨phrase, legal⟩ := allLegal_append.mp legal
    exact e.regrouped_append phrase
      (regrouped_cons semicolon (by decide) legal fun _ => .refl [])
  | increment e _ operator semicolon | decrement e _ operator semicolon =>
    intro legal
    obtain ⟨phrase, legal⟩ := allLegal_append.mp legal
    exact e.regrouped_append phrase (regrouped_cons operator (by decide) legal fun legal =>
      regrouped_cons semicolon (by decide) legal fun _ => .refl [])
  | read keyword operator e _ semicolon =>
    intro legal
    refine regrouped_cons keyword (by decide) legal fun legal =>
      regrouped_cons operator (by decide) legal fun legal => ?_
    obtain ⟨phrase, legal⟩ := allLegal_append.mp legal
    exact (Exp.unary e).regrouped_append phrase
      (regrouped_cons semicolon (by decide) legal fun _ => .refl [])
  | write keyword operator e semicolon =>
    intro legal
    refine regrouped_cons keyword (by decide) legal fun legal =>
      regrouped_cons operator (by decide) legal fun legal => ?_
    obtain ⟨phrase, legal⟩ := allLegal_append.mp legal
    exact e.regrouped_append phrase
      (regrouped_cons semicolon (by decide) legal fun _ => .refl [])
  | ret keyword semicolon =>
    intro legal
    exact regrouped_cons keyword (by decide) legal fun legal =>
      regrouped_cons semicolon (by decide) legal fun _ => .refl []
  | retValue keyword e semicolon =>
    intro legal
    refine regrouped_cons keyword (by decide) legal fun legal => ?_
    obtain ⟨phrase, legal⟩ := allLegal_append.mp legal
    exact e.regrouped_append phrase
      (regrouped_cons semicolon (by decide) legal fun _ => .refl [])
  | ifThen keyword opening e closing _ ih | loop keyword opening e closing _ ih =>
    intro legal
    refine regrouped_cons keyword (by decide) legal fun legal =>
      regrouped_cons opening (by decide) legal fun legal => ?_
    obtain ⟨phrase, legal⟩ := allLegal_append.mp legal
    exact e.regrouped_append phrase (regrouped_cons closing (by decide) legal ih)
  | ifElse keyword opening e closing _ otherwise _ ih ih' =>
    intro legal
    refine regrouped_cons keyword (by decide) legal fun legal =>
      regrouped_cons opening (by decide) legal fun legal => ?_
    obtain ⟨phrase, legal⟩ := allLegal_append.mp legal
    refine e.regrouped_append phrase (regrouped_cons closing (by decide) legal fun legal => ?_)
    obtain ⟨yes, legal⟩ := allLegal_append.mp legal
    rw [contents_append]
    exact (ih yes).append (regrouped_cons otherwise (by decide) legal ih')
  | nil => exact fun _ => .refl []
  | cons _ _ ih ih' =>
    intro legal
    obtain ⟨legal, legal'⟩ := allLegal_append.mp legal
    rw [contents_append]
    exact (ih legal).append (ih' legal')
  | mk opening decls _ closing ih =>
    intro legal
    refine regrouped_cons opening (by decide) legal fun legal => ?_
    obtain ⟨declsLegal, legal⟩ := allLegal_append.mp legal
    obtain ⟨statements, legal⟩ := allLegal_append.mp legal
    rw [contents_append, contents_append, decls.contents_eq declsLegal]
    exact (Regrouped.refl _).append ((ih statements).append
      (regrouped_cons closing (by decide) legal fun _ => .refl []))

/-! ## Declarations -/

theorem Formal.contents_eq {u : List Token} {f : Minim.Formal} (h : Formal u f)
    (legal : AllLegal u) : contents u = f.words := by
  obtain ⟨written, name⟩ := h
  rw [contents_append, written.contents_eq (allLegal_append.mp legal).1, contents_cons,
    content_of_name name]
  rfl

theorem MoreFormals.contents_eq {u : List Token} {fs : List Minim.Formal} (h : MoreFormals u fs)
    (legal : AllLegal u) : contents u = fs.flatMap fun next => fixed .comma :: next.words := by
  induction h with
  | done => rfl
  | more comma next _ ih =>
    simp only [allLegal_append, allLegal_cons] at legal
    obtain ⟨isComma, first, others⟩ := legal
    rw [contents_cons, content_of_kind comma (by decide) isComma, contents_append,
      next.contents_eq first, ih others]
    rfl

theorem FormalItems.contents_eq {u : List Token} {fs : List Minim.Formal} (h : FormalItems u fs)
    (legal : AllLegal u) : contents u = Formal.wordsAll fs := by
  cases h with
  | none => rfl
  | some first others =>
    obtain ⟨legal, legal'⟩ := allLegal_append.mp legal
    rw [contents_append, first.contents_eq legal, others.contents_eq legal',
      Formal.wordsAll_cons]

/-- The tokens of a struct through its fields. -/
theorem contents_struct {k n o : Token} {u v : List Token} {ds : List Decl}
    (keyword : k.kind = .structWord) (name : n.kind = .identifier) (opening : o.kind = .lbrace)
    (fields : Variables u ds) (legal : AllLegal (k :: n :: o :: (u ++ v))) :
    contents (k :: n :: o :: (u ++ v)) =
      fixed .structWord :: n.ident.nameWord :: fixed .lbrace ::
        (Decl.wordsAll ds ++ contents v) := by
  simp only [allLegal_append, allLegal_cons] at legal
  obtain ⟨isKeyword, -, isOpening, fieldsLegal, -⟩ := legal
  rw [contents_cons, content_of_kind keyword (by decide) isKeyword, contents_cons,
    content_of_name name, contents_cons, content_of_kind opening (by decide) isOpening,
    contents_append, fields.contents_eq fieldsLegal]

/-- A semicolon behind a closing brace only groups. -/
theorem withoutGroupingFrom_semicolon (afterBrace : Bool) (words : List Content) :
    withoutGroupingFrom afterBrace (words ++ [fixed .rbrace, fixed .semicolon]) =
      withoutGroupingFrom afterBrace (words ++ [fixed .rbrace]) := by
  rw [withoutGroupingFrom_append, withoutGroupingFrom_append]
  rfl

/-- The tokens of a declaration are its words, and more marks that group; a semicolon at the end of
its words may be missing among the tokens. -/
theorem Declaration.withoutGroupingFrom_contents {u : List Token} {d : Decl}
    (h : Declaration u d) (legal : AllLegal u) (afterBrace : Bool) :
    withoutGroupingFrom afterBrace (contents u) = withoutGrouping d.words := by
  rw [← d.withoutGroupingFrom_words afterBrace]
  cases h with
  | var decl => rw [decl.contents_eq legal]
  | func written name opening formals closing block =>
    obtain ⟨type, legal⟩ := allLegal_append.mp legal
    rw [contents_append, written.contents_eq type, contents_cons, content_of_name name]
    refine ((Regrouped.refl _).append (.cons _ ?_)).kept afterBrace
    refine regrouped_cons opening (by decide) (allLegal_cons.mp legal).2 fun legal => ?_
    obtain ⟨parameters, legal⟩ := allLegal_append.mp legal
    rw [contents_append, formals.contents_eq parameters]
    exact (Regrouped.refl _).append (regrouped_cons closing (by decide) legal block.regrouped)
  | @struct k n o c u ds keyword name opening fields closing =>
    have isClosing : contents [c] = [fixed .rbrace] := by
      simp only [allLegal_append, allLegal_cons] at legal
      obtain ⟨-, -, -, -, isBrace, -⟩ := legal
      rw [contents_cons, content_of_kind closing (by decide) isBrace, contents_nil]
    rw [contents_struct keyword name opening fields legal, isClosing, Decl.words]
    simp only [← List.cons_append, withoutGroupingFrom_semicolon]
  | @structEnded k n o c e u ds keyword name opening fields closing semicolon =>
    have isClosing : contents [c, e] = [fixed .rbrace, fixed .semicolon] := by
      simp only [allLegal_append, allLegal_cons] at legal
      obtain ⟨-, -, -, -, isBrace, isSemicolon, -⟩ := legal
      rw [contents_cons, content_of_kind closing (by decide) isBrace, contents_cons,
        content_of_kind semicolon (by decide) isSemicolon, contents_nil]
    rw [contents_struct keyword name opening fields legal, isClosing, Decl.words]

theorem Declarations.withoutGroupingFrom_contents {u : List Token} {ds : List Decl}
    (h : Declarations u ds) (legal : AllLegal u) (afterBrace afterBrace' : Bool) :
    withoutGroupingFrom afterBrace (contents u) =
      withoutGroupingFrom afterBrace' (Decl.wordsAll ds) := by
  induction h generalizing afterBrace afterBrace' with
  | nil => rfl
  | cons first others ih =>
    rename_i d ds
    obtain ⟨legal, legal'⟩ := allLegal_append.mp legal
    rw [contents_append, withoutGroupingFrom_append, first.withoutGroupingFrom_contents legal,
      Decl.wordsAll, withoutGroupingFrom_append, d.withoutGroupingFrom_words,
      ih legal' _ (endsInBrace afterBrace' d.words)]

end Grammar

/-! ## Source texts -/

/-- The end of a text has no value. -/
theorem value_of_eof {text : String} {tokens : List Token} (run : tokenize text = .ok tokens) :
    ∀ t ∈ tokens, t.kind = .eof → t.value = .none := by
  refine Cursor.tokens_induction
    (motive := fun _ tokens => ∀ t ∈ tokens, t.kind = .eof → t.value = .none) ?done ?word run
  case done =>
    intro s _ t mem _
    rw [List.mem_singleton.mp mem]
  case word =>
    intro s c rest content tokens _ found ih t mem isEnd
    rcases List.mem_cons.mp mem with rfl | mem
    · exact absurd isEnd (kind_ne_eof_of_legal (legal_of_scan found))
    · exact ih t mem isEnd

/-- The words of a text are those that the parser reads, and the end of the text. -/
theorem contents_of_spells {text : String} {words : List Token} {last : Token}
    (run : tokenize text = .ok (words ++ [last])) (ends : last.kind = .eof) :
    Grammar.contents (words ++ [last]) = Grammar.contents words ++ [(.eof, .none)] := by
  have value := value_of_eof run last (by simp) ends
  rw [Grammar.contents_append, Grammar.contents_cons, Token.content, ends, value]
  rfl

/-- **Source texts keep the words.** A text that is read as a program and the source text of the
program are made of the same words in the same order, the end of the text included, up to
parentheses and the semicolons right behind closing braces. -/
theorem source_keeps_words {text : String} {T : Program} (read : parseText text = .ok T) :
    ∃ tokens tokens', tokenize text = .ok tokens ∧ tokenize (T.source none) = .ok tokens' ∧
      withoutGrouping (tokens.map Token.content) = withoutGrouping (tokens'.map Token.content) := by
  obtain ⟨tokens, lexed, parsed⟩ := parseText_eq_ok.mp read
  obtain ⟨contents, lexes, words, last, rfl, rfl, ends⟩ := lexes_of_tokenize lexed
  obtain ⟨derived⟩ := Parser.parseTokens_sound parsed
  rw [(beforeEnd_of_spells (endFree_of_spells lexes.legal) ends).1] at derived
  have legal : Grammar.AllLegal words :=
    fun t mem => lexes.legal t.content (List.mem_map_of_mem mem)
  obtain ⟨tokens', lexed', words', last', rfl, spelled', ends'⟩ :=
    tokenize_of_lexes (Program.lexes (derived.sound legal))
  refine ⟨_, _, lexed, lexed', ?_⟩
  have same : withoutGrouping (Grammar.contents words) = withoutGrouping T.words := by
    obtain ⟨decls⟩ := derived
    exact decls.withoutGroupingFrom_contents legal false false
  -- The end of a text stands in both, whatever stands in front of it.
  have atEnd (afterBrace : Bool) :
      withoutGroupingFrom afterBrace [(.eof, .none)] = [(.eof, .none)] := by
    cases afterBrace <;> rfl
  have isSource : Grammar.contents words' = T.words := spelled'
  show withoutGrouping (Grammar.contents _) = withoutGrouping (Grammar.contents _)
  rw [contents_of_spells lexed ends, contents_of_spells lexed' ends', isSource,
    withoutGrouping, withoutGroupingFrom_append, withoutGrouping, withoutGroupingFrom_append,
    atEnd, atEnd]
  exact congrArg (· ++ _) same

/-- A struct without a semicolon behind it, and parentheses where the source text has none. -/
def groupedText : String :=
  "struct s \x7b\x7d int f(int x) \x7breturn (x) + 2;\x7d"

/-- The program in that text. -/
def groupedProgram : Program where
  pos := ⟨1, 1⟩
  declsPos := ⟨1, 1⟩
  decls :=
    [.struct ⟨1, 1⟩ { pos := ⟨1, 8⟩, value := .text "s" } ⟨1, 11⟩ [],
      .func ⟨1, 13⟩ (.int ⟨1, 13⟩) { pos := ⟨1, 17⟩, value := .text "f" }
        { pos := ⟨1, 18⟩,
          items := [⟨⟨1, 19⟩, .int ⟨1, 19⟩, { pos := ⟨1, 23⟩, value := .text "x" }⟩] }
        ⟨1, 26⟩
        (.mk ⟨1, 27⟩ [] ⟨1, 27⟩
          [.ret ⟨1, 27⟩ (some (.binary ⟨1, 35⟩
            (.ident { pos := ⟨1, 35⟩, value := .text "x" }) (.text "+")
            (.int ⟨1, 40⟩ (.number 2))))])]

theorem parseText_groupedText : parseText groupedText = .ok groupedProgram := by
  decide +kernel

theorem source_keeps_words_of_groupedText :
    parseText groupedText = .ok groupedProgram ∧
      ∃ tokens tokens', tokenize groupedText = .ok tokens ∧
        tokenize (groupedProgram.source none) = .ok tokens' ∧
        withoutGrouping (tokens.map Token.content) = withoutGrouping (tokens'.map Token.content) :=
  ⟨parseText_groupedText, source_keeps_words parseText_groupedText⟩

end Minim
