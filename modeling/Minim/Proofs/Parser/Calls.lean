import Minim.Proofs.Parser.Settling
import Minim.Syntax.Parser

/-!
# Calls in any order

The operations of the parser may be called one after another in any order and on any tokens: for a
phrase where none begins, after an error, and past the last token. An error leaves the parser where
it was found. No call takes the current token out of step with the place in the list, and none leads
back; a call for a phrase that has tokens leads on if the phrase is found.
-/

namespace Minim

/-! ## Going on -/

namespace TokenStream

/-- From one place to another so many tokens of the same list were left behind. Past the last one
there are none, but the places go on. -/
def Onwards (s t : TokenStream) : Prop :=
  ∃ n, t = ⟨s.all, s.pos + n, s.rest.drop n⟩

namespace Onwards

variable {s t : TokenStream}

theorem refl (s : TokenStream) : s.Onwards s :=
  ⟨0, rfl⟩

theorem advance (s : TokenStream) : s.Onwards s.advance :=
  ⟨1, by rw [List.drop_one]; rfl⟩

theorem of_passes (h : s.Passes t) : s.Onwards t := by
  obtain ⟨u, ⟨rest, pos, all⟩, -⟩ := h
  obtain ⟨all', pos', rest'⟩ := t
  refine ⟨u.length, ?_⟩
  rw [rest, List.drop_left, ← all, ← pos]

theorem pos_le (h : s.Onwards t) : s.pos ≤ t.pos := by
  obtain ⟨n, rfl⟩ := h
  exact Nat.le_add_right _ _

theorem pos_lt (h : s.Onwards t) (fewer : t.rest.length < s.rest.length) : s.pos < t.pos := by
  obtain ⟨n, rfl⟩ := h
  rw [List.length_drop] at fewer
  show s.pos < s.pos + n
  omega

end Onwards

end TokenStream

namespace Parser

variable {α : Type}

/-- The place where a parser stops, whether it succeeds or fails. -/
def reached {ε σ : Type} : EStateM.Result ε σ α → σ
  | .ok _ t | .error _ t => t

theorem Keeps.onwards {p : Parser α} (h : Keeps p) (s : TokenStream) :
    s.Onwards (reached (p s)) := by
  have within := h s
  cases run : p s with
  | ok a t =>
    rw [run] at within
    exact .of_passes within
  | error error t =>
    rw [run] at within
    exact .of_passes within.1

/-! ## Calls -/

/-- An operation of the parser. The caller says what is reported where a token is missing, what a
function is called and gives back, and what expression is to be gone on with. -/
inductive Call
  | peek (offset : Int)
  | advance
  | take (wanted : TokenKind) (fault : TokenKind → SyntaxFault)
  | accept (wanted : TokenKind)
  | parse (phrase : Phrase)
  | identifier (fault : TokenKind → SyntaxFault)
  | primary
  | suffixes (left : Expr)
  | operand
  | operators (minimum : Int) (left : Expr)
  | variableDecl
  | structDecl
  | functionRest (returnType : TypeExpr) (name : Ident)
  | block
  | conditional
  | loop
  | returnStatement

namespace Call

/-- What a call answers if it succeeds. -/
def Answer : Call → Type
  | peek _ => Option Token
  | advance | take _ _ => Token
  | accept _ => Bool
  | parse _ => Node
  | identifier _ => Ident
  | primary | suffixes _ | operand | operators _ _ => Expr
  | variableDecl | structDecl | functionRest _ _ => Decl
  | block => Block
  | conditional | loop | returnStatement => Stmt

/-- The parser that a call runs. A part of an expression may go down as deep as a whole one, which
is deep enough (`primary_settles`, `suffixes_settles`, `operators_settles`). -/
def parser : (c : Call) → Parser c.Answer
  | peek offset => do return (← get).lookAt? offset
  | advance => do
    Parser.advance
    Parser.current
  | take wanted fault => Parser.take wanted fault
  | accept wanted => Parser.accept wanted
  | parse phrase => phrase.parser
  | identifier fault => do
    let token ← Parser.take .identifier fault
    return { pos := token.pos, value := token.value }
  | primary => do Parser.primary (depthFor (← get))
  | suffixes left => do Parser.suffixes (depthFor (← get)) left
  | operand => do operandAt (depthFor (← get))
  -- No operator binds less tightly than assignment does, at level 0.
  | operators minimum left => do Parser.operators (depthFor (← get)) minimum.toNat left
  | variableDecl => Parser.variableDecl
  | structDecl => Parser.structDecl
  | functionRest returnType name => Parser.functionRest returnType name
  | block => Parser.block
  | conditional => Parser.conditional Parser.block
  | loop => Parser.loop Parser.block
  | returnStatement => Parser.returnStatement

/-- The place that a call leads to, whether it succeeds or fails. -/
def reach (c : Call) (s : TokenStream) : TokenStream :=
  reached (c.parser s)

/-- Whether a success of a call is sure to lead on. A look ahead leads nowhere, and there may be no
token to accept, no suffix, no operator, no declaration in a program and no variable. -/
def leadsOn : Call → Bool
  | peek _ | accept _ | suffixes _ | operators _ _ => false
  | parse .program | parse .variableDecls => false
  | _ => true

end Call

/-- The place reached by some calls, one after another. -/
def run (s : TokenStream) (calls : List Call) : TokenStream :=
  calls.foldl (fun s c => c.reach s) s

/-! ## No call leads back -/

/-- A token that is not there is not left behind. -/
theorem eq_of_take_error {wanted : TokenKind} {fault : TokenKind → SyntaxFault}
    {error : ParseError} {s t : TokenStream} (refused : take wanted fault s = .error error t) :
    t = s := by
  rw [take_apply] at refused
  by_cases here : s.current.kind = wanted
  · rw [if_pos here] at refused
    cases refused
  · rw [if_neg here] at refused
    cases refused
    rfl

theorem eq_of_accept_false {wanted : TokenKind} {s t : TokenStream}
    (notThere : accept wanted s = .ok false t) : t = s := by
  rw [accept_apply] at notThere
  by_cases here : s.current.kind = wanted
  · rw [if_pos here] at notThere
    cases notThere
  · rw [if_neg here] at notThere
    cases notThere
    rfl

theorem Keeps.phrase (phrase : Phrase) : Keeps phrase.parser := by
  cases phrase with
  | program => exact Keeps.program.bind fun _ => .pure _
  | declaration => exact Keeps.declaration.bind fun _ => .pure _
  | statement => exact Keeps.statement.bind fun _ => .pure _
  | expression => exact Keeps.expression.bind fun _ => .pure _
  | location => exact Keeps.location.bind fun _ => .pure _
  | type => exact Keeps.type.bind fun _ => .pure _
  | formals => exact Keeps.formals.bind fun _ => .pure _
  | variableDecls => exact Keeps.variableDecls.bind fun _ => .pure _

/-- The end of the text may be left behind too, where it is asked for and where nothing is. -/
theorem onwards_reach (c : Call) (s : TokenStream) : s.Onwards (c.reach s) := by
  have keep := ExprParsers.Keep.ofDepth
  cases c with
  | peek => exact TokenStream.Onwards.refl s
  | advance => exact TokenStream.Onwards.advance s
  | take wanted fault =>
    rw [Call.reach, Call.parser, take_apply]
    by_cases here : s.current.kind = wanted
    · rw [if_pos here]
      exact TokenStream.Onwards.advance s
    · rw [if_neg here]
      exact TokenStream.Onwards.refl s
  | accept wanted =>
    rw [Call.reach, Call.parser, accept_apply]
    by_cases here : s.current.kind = wanted
    · rw [if_pos here]
      exact TokenStream.Onwards.advance s
    · rw [if_neg here]
      exact TokenStream.Onwards.refl s
  | parse phrase => exact (Keeps.phrase phrase).onwards s
  | identifier fault =>
    have notEnd : TokenKind.identifier ≠ .eof := by decide
    exact ((Keeps.take notEnd fault).bind fun _ => .pure _).onwards s
  | primary => exact (Keeps.get.bind fun s => (keep (depthFor s)).primary).onwards s
  | suffixes left => exact (Keeps.get.bind fun s => (keep (depthFor s)).suffixes left).onwards s
  | operand => exact (Keeps.get.bind fun s => (keep (depthFor s)).operand).onwards s
  | operators minimum left =>
    exact (Keeps.get.bind fun s => (keep (depthFor s)).operators minimum.toNat left).onwards s
  | variableDecl => exact Keeps.variableDecl.onwards s
  | structDecl => exact Keeps.structDecl.onwards s
  | functionRest returnType name => exact (Keeps.functionRest returnType name).onwards s
  | block => exact Keeps.statement.blockOf.onwards s
  | conditional => exact Keeps.statement.blockOf.conditional.onwards s
  | loop => exact Keeps.statement.blockOf.loop.onwards s
  | returnStatement => exact Keeps.returnStatement.onwards s

/-! ## Phrases with tokens -/

theorem expression_consumes : Consumes expression := by
  refine .of_begins fun run => ?_
  obtain ⟨u, reads, derived, -⟩ := expression_sound run
  exact ⟨u, reads, derived.begins⟩

theorem operandAt_consumes (depth : Nat) : Consumes (operandAt depth) := by
  refine .of_begins fun run => ?_
  obtain ⟨u, reads, derived, -⟩ := operandAt_sound run
  exact ⟨u, reads, derived.begins⟩

theorem location_consumes : Consumes location := by
  refine .of_begins fun run => ?_
  obtain ⟨u, reads, derived, -⟩ := location_sound run
  exact ⟨u, reads, derived.begins⟩

theorem formals_consumes : Consumes formals := by
  refine .of_nonempty fun run => ?_
  obtain ⟨opening, u, closing, reads, -⟩ := formals_sound run
  exact ⟨_, reads, List.cons_ne_nil _ _⟩

theorem functionRest_consumes (returnType : TypeExpr) (name : Ident) :
    Consumes (functionRest returnType name) :=
  formals_consumes.bind fun _ => Keeps.current.bind fun _ => Keeps.statement.blockOf.bind fun _ =>
    .pure _

theorem phrase_consumes {phrase : Phrase} (leads : (Call.parse phrase).leadsOn = true) :
    Consumes phrase.parser := by
  cases phrase with
  | program | variableDecls => cases leads
  | declaration =>
    exact (Consumes.of_reads declaration_ne_nil declaration_sound).bind fun _ => .pure _
  | statement => exact (Consumes.of_reads statement_ne_nil statement_sound).bind fun _ => .pure _
  | expression => exact expression_consumes.bind fun _ => .pure _
  | location => exact location_consumes.bind fun _ => .pure _
  | type => exact (Consumes.of_reads typeName_ne_nil type_sound).bind fun _ => .pure _
  | formals => exact formals_consumes.bind fun _ => .pure _

theorem pos_lt_of_leadsOn {c : Call} (leads : c.leadsOn = true) {s t : TokenStream} {a : c.Answer}
    (run : c.parser s = .ok a t) : s.pos < t.pos := by
  have lead (consumes : Consumes c.parser) : s.pos < t.pos := by
    have onwards := onwards_reach c s
    rw [Call.reach, run] at onwards
    exact onwards.pos_lt (consumes run)
  cases c with
  | peek | accept | suffixes | operators => cases leads
  -- Past the last token these two lead on with no token behind them.
  | advance =>
    cases run
    exact Nat.lt_succ_self _
  | take wanted fault =>
    obtain ⟨-, -, rfl⟩ := take_eq_ok.mp run
    exact Nat.lt_succ_self _
  | parse phrase => exact lead (phrase_consumes leads)
  | identifier fault => exact lead ((take_consumes (by decide) fault).bind fun _ => .pure _)
  | primary => exact lead fun s _ _ found => primary_consumes (depthFor s) found
  | operand => exact lead fun s _ _ found => operandAt_consumes (depthFor s) found
  | variableDecl => exact lead (.of_reads variable_ne_nil variableDecl_sound)
  | structDecl => exact lead (.of_reads declaration_ne_nil structDecl_sound)
  | functionRest returnType name => exact lead (functionRest_consumes returnType name)
  | block => exact lead (.of_reads block_ne_nil block_sound)
  | conditional =>
    exact lead (.of_reads statement_ne_nil (conditional_sound fun _ _ _ => block_sound))
  | loop => exact lead (.of_reads statement_ne_nil (loop_sound fun _ _ _ => block_sound))
  | returnStatement => exact lead (.of_reads statement_ne_nil @returnStatement_sound)

/-! ## Places in step -/

/-- The tokens left are those of a list from the place on. -/
structure InPlace (tokens : List Token) (s : TokenStream) : Prop where
  all : s.all = tokens
  rest : s.rest = tokens.drop s.pos

namespace InPlace

variable {tokens : List Token} {s : TokenStream}

theorem ofList (tokens : List Token) : InPlace tokens (.ofList tokens) :=
  ⟨rfl, rfl⟩

/-- The current token is the one at the place. Past the last one it is the end of the text. -/
theorem current_eq (h : InPlace tokens s) :
    s.current = if inside : s.pos < tokens.length then tokens[s.pos] else Token.endOfList := by
  rw [TokenStream.current, List.headD_eq_head?_getD, h.rest, List.head?_drop]
  by_cases inside : s.pos < tokens.length
  · rw [dif_pos inside, List.getElem?_eq_getElem inside, Option.getD_some]
  · rw [dif_neg inside, List.getElem?_eq_none (by omega), Option.getD_none]

theorem reach (h : InPlace tokens s) (c : Call) : InPlace tokens (c.reach s) := by
  obtain ⟨n, moved⟩ := onwards_reach c s
  rw [moved]
  refine ⟨h.all, ?_⟩
  rw [h.rest, List.drop_drop]

theorem run (h : InPlace tokens s) (calls : List Call) : InPlace tokens (run s calls) := by
  induction calls generalizing s with
  | nil => exact h
  | cons c calls ih => exact ih (h.reach c)

end InPlace

/-- **Calls keep the current token in step with the place.** Whatever was called on a list of
tokens, and with whatever errors: the current token is the one at the place, if there is one, and
else an end of the text at `0:0`. A further call does not lead back. If it asks for a token that is
not there, it leads nowhere. If it finds a type, a declaration, a statement, an expression, a
location or a list of formal parameters, it leads on, and so for all other phrases with tokens. -/
theorem calls_stay_in_place (tokens : List Token) (calls : List Call) :
    let s := run (.ofList tokens) calls
    s.current = (if inside : s.pos < tokens.length then tokens[s.pos]
        else { kind := .eof, value := .none, pos := ⟨0, 0⟩ }) ∧
      (∀ c : Call, s.pos ≤ (c.reach s).pos) ∧
      (∀ wanted fault error t, take wanted fault s = .error error t → t = s) ∧
      (∀ wanted t, accept wanted s = .ok false t → t = s) ∧
      (∀ phrase ∈ [Phrase.type, .declaration, .statement, .expression, .location, .formals],
        ∀ node t, phrase.parser s = .ok node t → s.pos < t.pos) ∧
      ∀ (c : Call) (a : c.Answer) t, c.leadsOn = true → c.parser s = .ok a t → s.pos < t.pos := by
  intro s
  have inPlace : InPlace tokens s := (InPlace.ofList tokens).run calls
  refine ⟨inPlace.current_eq, fun c => (onwards_reach c s).pos_le, ?refused, ?notThere, ?phrases,
    fun c a t leads found => pos_lt_of_leadsOn leads found⟩
  case refused => exact fun wanted fault error t refused => eq_of_take_error refused
  case notThere => exact fun wanted t notThere => eq_of_accept_false notThere
  case phrases =>
    have leads : ∀ phrase ∈ [Phrase.type, .declaration, .statement, .expression, .location,
        .formals], (Call.parse phrase).leadsOn = true := by decide
    intro phrase mem node t found
    exact pos_lt_of_leadsOn (leads phrase mem) found

/-- An operator without its right operand, then an end of the text with a type behind it. -/
def strayTokens : List Token :=
  [{ kind := .identifier, value := .text "a", pos := ⟨1, 1⟩ },
    { kind := .plus, value := .text "+", pos := ⟨1, 3⟩ }, { kind := .eof, pos := ⟨1, 4⟩ },
    { kind := .intType, value := .text "int", pos := ⟨2, 1⟩ }]

theorem calls_stay_in_place_of_strayTokens :
    let start := TokenStream.ofList strayTokens
    let failed := run start [.parse .expression, .take .semicolon (.expectedToken .semicolon)]
    let s := run failed [.accept .comma, .take .eof (.expectedToken .eof)]
    let past := run s [.parse .type, .advance, .parse .statement]
    (failed.pos = 2 ∧ failed.current = { kind := .eof, pos := ⟨1, 4⟩ }) ∧
      (s.pos = 3 ∧ ∃ t, Phrase.type.parser s = .ok (.type (.int ⟨2, 1⟩)) t ∧ s.pos < t.pos) ∧
      past.pos = 5 ∧ past.current = { kind := .eof, pos := ⟨0, 0⟩ } := by
  obtain ⟨-, -, -, -, onwards, -⟩ := calls_stay_in_place strayTokens
    [.parse .expression, .take .semicolon (.expectedToken .semicolon), .accept .comma,
      .take .eof (.expectedToken .eof)]
  exact ⟨by decide, ⟨by decide, _, rfl, onwards .type (by decide) _ _ rfl⟩, by decide⟩

end Parser

end Minim
