import Minim.Proofs.Parser.Derivation
import Minim.Syntax.Parser

/-!
# The parser reads the grammar of programs

A list of tokens is read as a program up to the first token that ends a text, or up to its own end.
What comes before that token is a program of the grammar, or the parser fails.
-/

namespace Minim

/-- The tokens before the end of the text. -/
def beforeEnd (tokens : List Token) : List Token :=
  tokens.takeWhile (·.kind != .eof)

/-- The token that ends the text. -/
def endOf (tokens : List Token) : Token :=
  (tokens.dropWhile (·.kind != .eof)).headD Token.endOfList

theorem beforeEnd_append_of_endFree {u r : List Token} (endFree : Grammar.EndFree u) :
    beforeEnd (u ++ r) = u ++ beforeEnd r ∧ endOf (u ++ r) = endOf r := by
  have goes : ∀ a ∈ u, (a.kind != .eof) = true := fun a mem => by simpa using endFree a mem
  refine ⟨List.takeWhile_append_of_pos goes, ?_⟩
  rw [endOf, List.dropWhile_append_of_pos goes]
  rfl

namespace Parser

open Grammar

/-- A place where the text ends is reached after what comes before the end. -/
theorem beforeEnd_of_reads {tokens u : List Token} {t : TokenStream}
    (reads : (TokenStream.ofList tokens).Reads u t) (endFree : EndFree u)
    (atEnd : t.current.kind = .eof) : beforeEnd tokens = u ∧ endOf tokens = t.current := by
  have rest : tokens = u ++ t.rest := reads.rest
  obtain ⟨before, last⟩ := beforeEnd_append_of_endFree (r := t.rest) endFree
  rw [rest, before, last]
  rw [TokenStream.current] at atEnd ⊢
  cases tail : t.rest with
  | nil => exact ⟨List.append_nil u, rfl⟩
  | cons a r =>
    rw [tail] at atEnd
    have ends : (a.kind != .eof) = false := by simpa using atEnd
    simp [beforeEnd, endOf, ends]

theorem kind_endOf (tokens : List Token) : (endOf tokens).kind = .eof := by
  have ends := List.head?_dropWhile_not (·.kind != .eof) tokens
  rw [endOf]
  cases tail : tokens.dropWhile (·.kind != .eof) with
  | nil => rfl
  | cons a r =>
    rw [tail] at ends
    simpa using ends

theorem exists_reads_beforeEnd (tokens : List Token) :
    ∃ t, (TokenStream.ofList tokens).Reads (beforeEnd tokens) t ∧ t.current = endOf tokens := by
  obtain ⟨t, reads, rest⟩ := TokenStream.exists_reads (s := .ofList tokens)
    (List.takeWhile_append_dropWhile (p := (·.kind != .eof))).symm
  refine ⟨t, reads, ?_⟩
  rw [TokenStream.current, rest]
  rfl

theorem parseTokens_eq_ok {tokens : List Token} {T : Minim.Program} :
    parseTokens tokens = .ok T ↔ ∃ t, program (.ofList tokens) = .ok T t := by
  rw [parseTokens]
  cases run : program (.ofList tokens) with
  | ok T' t => simp
  | error error t => simp

theorem parseTokens_sound {tokens : List Token} {T : Minim.Program}
    (run : parseTokens tokens = .ok T) :
    Nonempty (Grammar.Program (endOf tokens) (beforeEnd tokens) T) := by
  obtain ⟨t, run⟩ := parseTokens_eq_ok.mp run
  obtain ⟨u, reads, atEnd, ⟨derived⟩⟩ := program_sound run
  obtain ⟨before, last⟩ := beforeEnd_of_reads reads derived.endFree atEnd
  rw [before, last]
  exact ⟨derived⟩

theorem parseTokens_complete {tokens : List Token} {T : Minim.Program}
    (derived : Grammar.Program (endOf tokens) (beforeEnd tokens) T) :
    parseTokens tokens = .ok T := by
  obtain ⟨t, reads, last⟩ := exists_reads_beforeEnd tokens
  have atEnd : t.current.kind = .eof := by rw [last, kind_endOf]
  rw [← last] at derived
  exact parseTokens_eq_ok.mpr ⟨t, program_complete derived reads atEnd⟩

end Parser

end Minim
