import Minim.Proofs.Resolution.Fates
import Minim.Proofs.Resolution.Frames
import Minim.Proofs.Resolution.Layout
import Minim.Proofs.Resolution.Links

/-!
# One program below another

A text below another one begins in a line of its own, so the words of the two are those of each by
itself, and the declarations of the lower program stand behind those of the upper one. What they
mean is settled in the scopes that the upper program has left open: what is declared above is seen
below, and nothing that is found above is changed.
-/

namespace Minim

open Resolution

/-- **Programs can be put below each other.** A text that is made of two programs with a newline
between them is a program: its declarations are those of the first and those of the second, as many
lines further down as there are above. It is analysed as the first program and then, in the state
that this leaves, the second one further down. What the first one leaves of the log and the arena
stays at the beginning, with the symbols as they are. -/
theorem analyze_below {a b : String} {A B : Program} (readA : parseText a = .ok A)
    (readB : parseText b = .ok B) :
    let lower := B.edit (.move (.down (a.toList.count '\n' + 1)))
    let s := A.analyze.state
    ∃ T, parseText (a ++ "\n" ++ b) = .ok T ∧ T.decls = A.decls ++ lower.decls ∧
      T.analyze.program.decls = A.analyze.program.decls ++ (lower.resolve s).1.decls ∧
      T.analyze.state = (lower.resolve s).2 ∧
      s.log.entries <+: T.analyze.state.log.entries ∧
      s.arena.ids <+: T.analyze.state.arena.ids ∧
      ∀ id symbol, s.store.get? id = some symbol →
        T.analyze.state.store.get? id = some symbol := by
  intro lower s
  obtain ⟨tokensA, lexedA, parsedA⟩ := parseText_eq_ok.mp readA
  obtain ⟨tokensB, lexedB, parsedB⟩ := parseText_eq_ok.mp readB
  obtain ⟨words, last, rfl, goes, ends, lexed⟩ := tokenize_join lexedA lexedB
  have parsedLower := parseTokens_move (.down (a.toList.count '\n' + 1))
    (exists_eof_of_tokenize lexedB) parsedB
  obtain ⟨T, parsed, decls⟩ := parseTokens_append goes ends parsedA parsedLower
  have run : Decl.resolveAll T.decls {} =
      (A.analyze.program.decls ++ (lower.resolve s).1.decls, (lower.resolve s).2) := by
    rw [decls, Decl.resolveAll_append]
    rfl
  have program : T.analyze.program.decls = (Decl.resolveAll T.decls {}).1 := rfl
  have state : T.analyze.state = (lower.resolve s).2 :=
    (show T.analyze.state = (Decl.resolveAll T.decls {}).2 from rfl).trans (congrArg (·.2) run)
  refine ⟨T, parseText_eq_ok.mpr ⟨_, lexed, parsed⟩, decls, ?_, state, ?_, ?_, ?_⟩
  · rw [program, run]
  · obtain ⟨fates, fares⟩ := lower.resolve_fated s
    rw [state, (fares lower s rfl (.refl s)).log]
    exact List.prefix_append _ _
  · rw [state]
    exact (lower.resolve_leads s).grows.arena
  · rw [state]
    exact fun _ _ known => (Decl.resolveAll_binds lower.decls s).symbol known

/-- A struct that is declared in two lines. -/
def upperText : String := "struct S \x7b\n\x7d"

/-- The program in the text. -/
def upperProgram : Program where
  pos := ⟨1, 1⟩
  declsPos := ⟨1, 1⟩
  decls := [.struct ⟨1, 1⟩ { pos := ⟨1, 8⟩, value := .text "S" } ⟨2, 1⟩ []]

/-- Below the struct the variable of its type is no longer at fault. -/
theorem analyze_below_of_structText :
    parseText upperText = .ok upperProgram ∧ parseText structText = .ok structProgram ∧
      ∃ T, parseText (upperText ++ "\n" ++ structText) = .ok T ∧
        T.decls = upperProgram.decls ++ (structProgram.edit (.move (.down 2))).decls ∧
        T.analyze.state =
          ((structProgram.edit (.move (.down 2))).resolve upperProgram.analyze.state).2 ∧
        T.analyze.state.log.entries = [] := by
  have readA : parseText upperText = .ok upperProgram := by decide +kernel
  have lines : upperText.toList.count '\n' + 1 = 2 := by decide
  obtain ⟨T, read, decls, -, state, -⟩ := analyze_below readA parseText_structText
  rw [lines] at decls state
  refine ⟨readA, parseText_structText, T, read, decls, state, ?_⟩
  rw [state]
  decide

end Minim
