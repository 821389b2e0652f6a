import Minim.Proofs.Grammar.ProgramPhrases
import Minim.Proofs.Syntax.Namings
import Minim.Syntax.Equality

/-!
# Leaves and tokens

The leaves of a tree that was read, names and literals, are the name and literal tokens of its text,
each once and in order: a production keeps names and literals apart from its own tokens, so
unfolding brings every leaf to its token and makes no token a leaf twice.
-/

namespace Minim

/-! ## Tokens that are no leaves -/

/-- The kinds of the tokens that are leaves. -/
def leafKinds : List TokenKind :=
  [.integer, .string, .trueWord, .falseWord, .identifier]

theorem Token.leaf?_of_kind {t : Token} {kind : TokenKind} (h : t.kind = kind)
    (other : kind ∉ leafKinds) : t.leaf? = none := by
  subst h
  unfold leaf? literal?
  split
  case isTrue name => exact absurd (by simp [name, leafKinds]) other
  case isFalse =>
    split
    case h_5 => rfl
    all_goals
      rename_i kind
      exact absurd (by simp [kind, leafKinds]) other

/-- What a node or a token says as a leaf is a name, or it is a literal. -/
theorem Node.literal?_eq (n : Node) :
    n.literal? = n.leaf?.bind fun e => (Node.expr e).literal? := by
  cases n with
  | expr e => cases e <;> rfl
  | _ => rfl

theorem Token.literal?_eq (t : Token) :
    t.literal? = t.leaf?.bind fun e => (Node.expr e).literal? := by
  unfold leaf?
  split
  case isTrue name => simp [literal?, name, Node.literal?]
  case isFalse =>
    unfold literal?
    split <;> rfl

theorem Node.literals_eq (n : Node) :
    n.literals = n.leaves.filterMap fun e => (Node.expr e).literal? := by
  rw [literals, leaves, List.filterMap_filterMap]
  exact congrArg (List.filterMap · n.subtrees) (funext Node.literal?_eq)

/-! ## Unfolding -/

namespace Grammar

/-- Pieces whose own tokens are no leaves. -/
def LeafFree (w : List Piece) : Prop :=
  (Piece.tokens w).filterMap Token.leaf? = []

theorem LeafFree.append {w w' : List Piece} (h : LeafFree w) (h' : LeafFree w') :
    LeafFree (w ++ w') := by
  simp_all [LeafFree]

theorem LeafFree.token {t : Token} {w : List Piece} {kind : TokenKind} (h : t.kind = kind)
    (other : kind ∉ leafKinds) (rest : LeafFree w) : LeafFree (.token t :: w) := by
  rw [LeafFree, Piece.tokens, List.filterMap_cons_none (Token.leaf?_of_kind h other)]
  exact rest

theorem LeafFree.nodes (ns : List Node) : LeafFree (ns.map .node) := by
  rw [LeafFree, Piece.tokens_map]
  rfl

theorem MoreItems.leafFree {ns : List Node} {w : List Piece} (h : MoreItems ns w) :
    LeafFree w := by
  induction h with
  | done => rfl
  | more comma _ ih => exact .token comma (by decide) ih

theorem Items.leafFree {ns : List Node} {w : List Piece} (h : Items ns w) : LeafFree w := by
  cases h with
  | none => rfl
  | some others => exact others.leafFree

theorem Braced.leafFree {b : Minim.Block} {w : List Piece} (h : Braced b w) : LeafFree w := by
  obtain ⟨opening, closing⟩ := h
  exact .token opening (by decide) (.token closing (by decide) rfl)

theorem not_mem_leafKinds_of_mem_operators {kind : TokenKind} (h : kind ∈ operators) :
    kind ∉ leafKinds := by
  revert kind
  decide

/-- The own tokens of a node that is no leaf are no leaves either. -/
theorem Production.leafFree {n : Node} {w : List Piece} (h : Production n w)
    (inner : n.leaf? = none) : LeafFree w := by
  induction h with
  | leaf reads =>
    rw [Token.leaf?_expr reads] at inner
    cases inner
  | paren opening _ closing ih =>
    exact .token opening (by decide) ((ih inner).append (.token closing (by decide) rfl))
  | binary operator => exact .token rfl (not_mem_leafKinds_of_mem_operators operator) rfl
  | unary sign => rcases sign with kind | kind <;> exact .token kind (by decide) rfl
  | assign mark | dot mark | assignStmt mark | callStmt mark | structType mark =>
    exact .token mark (by decide) rfl
  | type reads =>
    unfold Token.type? at reads
    split at reads
    case h_4 => cases reads
    all_goals
      rename_i kind
      exact .token kind (by decide) rfl
  | call opening closing | increment opening closing | decrement opening closing
  | ret opening closing | retValue opening closing =>
    exact .token opening (by decide) (.token closing (by decide) rfl)
  | read keyword operator semicolon | write keyword operator semicolon =>
    exact .token keyword (by decide) (.token operator (by decide)
      (.token semicolon (by decide) rfl))
  | ifThen keyword opening closing block | loop keyword opening closing block =>
    exact .token keyword (by decide) (.token opening (by decide)
      (.token closing (by decide) block.leafFree))
  | ifElse keyword opening closing block otherwise block' =>
    exact .token keyword (by decide) (.token opening (by decide) (.token closing (by decide)
      (block.leafFree.append (.token otherwise (by decide) block'.leafFree))))
  | args items => exact items.leafFree
  | formals opening items closing =>
    exact .token opening (by decide) (items.leafFree.append (.token closing (by decide) rfl))
  | stmts => exact .nodes _
  | decls => exact .nodes _
  | body block => exact block.leafFree
  | formal | func | program => rfl
  | var semicolon => exact .token semicolon (by decide) rfl
  | @struct _ _ _ _ _ _ _ w keyword opening closing ending =>
    have last : LeafFree w := by
      rcases ending with rfl | ⟨e, semicolon, rfl⟩
      · rfl
      · exact .token semicolon (by decide) rfl
    exact .token keyword (by decide) (.token opening (by decide) (.token closing (by decide) last))

/-- Unfolding keeps leaves: those among the nodes are those among the tokens. -/
theorem Unfolds.leaves {after u : List Token} {w : List Piece} {spans : List Span}
    (h : Unfolds after w u spans) (free : LeafFree w) :
    (spans.map Span.node).filterMap Node.leaf? = u.filterMap Token.leaf? := by
  induction h with
  | nil => rfl
  | @token after u t w spans _ ih =>
    rw [LeafFree, Piece.tokens, List.filterMap_cons] at free
    cases leaf : t.leaf? with
    | none =>
      rw [leaf] at free
      rw [List.filterMap_cons_none leaf]
      exact ih free
    | some e => simp [leaf] at free
  | @node after u u' n v w spans spans' made inner _ ih ih' =>
    rw [List.map_cons, List.map_append, List.filterMap_append]
    cases leaf : n.leaf? with
    | none =>
      rw [List.filterMap_cons_none leaf, List.filterMap_append, ih (made.leafFree leaf), ih' free]
    | some e =>
      obtain ⟨noNodes, tokens⟩ := made.pieces_of_leaf? leaf
      obtain ⟨rfl, rfl⟩ := inner.of_tokens noNodes
      rw [List.map_nil, List.nil_append, List.filterMap_cons_some leaf, tokens, ih' free]
      rfl

end Grammar

/-! ## Trees that were read -/

/-- A text that was read is a program of the grammar and the end of the text. -/
theorem derived_of_parseText {text : String} {T : Program} (run : parseText text = .ok T) :
    ∃ words last, tokenize text = .ok (words ++ [last]) ∧ last.kind = .eof ∧
      Nonempty (Grammar.Program last words T) := by
  obtain ⟨tokens, lexed, parsed⟩ := parseText_eq_ok.mp run
  obtain ⟨contents, lexes, words, last, rfl, rfl, ends⟩ := lexes_of_tokenize lexed
  have derived := Parser.parseTokens_sound parsed
  obtain ⟨before, after⟩ := beforeEnd_of_spells (endFree_of_spells lexes.legal) ends
  rw [before, after] at derived
  exact ⟨words, last, lexed, ends, derived⟩

/-- **Leaves are tokens.** The identifiers of a program that was read are the name tokens of its
text, one for one and in order, with their values and positions; its literals are the literal tokens
likewise. Names and literals are met in the order in which they stand in the text. -/
theorem leaves_of_parseText {text : String} {T : Program} (run : parseText text = .ok T) :
    ∃ tokens, tokenize text = .ok tokens ∧
      (Node.program T).identifiers =
        (tokens.filter (·.kind = .identifier)).map Token.ident ∧
      (Node.program T).literals = tokens.filterMap Token.literal? ∧
      (Node.program T).leaves = tokens.filterMap Token.leaf? := by
  obtain ⟨words, last, lexed, ends, ⟨derived⟩⟩ := derived_of_parseText run
  obtain ⟨spans, unfolds, -⟩ := derived.hasPhrase.alone
  have leaves : (Node.program T).leaves = words.filterMap Token.leaf? := by
    rw [← unfolds.leaves rfl, unfolds.nodes]
    exact congrArg (List.filterMap Node.leaf?) (List.append_nil _).symm
  have literals : (Node.program T).literals = words.filterMap Token.literal? := by
    rw [Node.literals_eq, leaves, List.filterMap_filterMap]
    exact congrArg (List.filterMap · _) (funext fun t => (Token.literal?_eq t).symm)
  have names : (Node.program T).identifiers = Grammar.namesOf words := by
    rw [T.identifiers_eq, derived.idents]
  -- The end of the text is neither a name nor a literal.
  have noLeaf : last.leaf? = none := Token.leaf?_of_kind ends (by decide)
  have noLiteral : last.literal? = none := by rw [Token.literal?, ends]
  refine ⟨words ++ [last], lexed, ?identifiers, ?literals, ?leaves⟩
  case identifiers => simp [names, Grammar.namesOf, ends]
  case literals => simp [literals, noLiteral]
  case leaves => simp [leaves, noLeaf]

/-- A call in which the called name stands in parentheses, and a literal of each sort. -/
def literalText : String :=
  "int f() \x7breturn (g)(1, !true) == \"s\";\x7d"

/-- The program in that text. -/
def literalProgram : Program where
  pos := ⟨1, 1⟩
  declsPos := ⟨1, 1⟩
  decls :=
    [.func ⟨1, 1⟩ (.int ⟨1, 1⟩) { pos := ⟨1, 5⟩, value := .text "f" } { pos := ⟨1, 6⟩, items := [] }
      ⟨1, 9⟩
      (.mk ⟨1, 10⟩ [] ⟨1, 10⟩
        [.ret ⟨1, 10⟩ (some (.binary ⟨1, 18⟩
          (.call ⟨1, 18⟩ { pos := ⟨1, 18⟩, value := .text "g" } ⟨1, 18⟩
            [.int ⟨1, 21⟩ (.number 1), .unary ⟨1, 24⟩ (.text "!") (.bool ⟨1, 25⟩ true)])
          (.text "==") (.string ⟨1, 34⟩ (.text "\"s\""))))])]

theorem parseText_literalText : parseText literalText = .ok literalProgram := by
  decide +kernel

theorem leaves_of_literalText :
    parseText literalText = .ok literalProgram ∧
      ∃ tokens, tokenize literalText = .ok tokens ∧
        (Node.program literalProgram).identifiers =
          (tokens.filter (·.kind = .identifier)).map Token.ident ∧
        (Node.program literalProgram).literals = tokens.filterMap Token.literal? ∧
        (Node.program literalProgram).leaves = tokens.filterMap Token.leaf? :=
  ⟨parseText_literalText, leaves_of_parseText parseText_literalText⟩

end Minim
