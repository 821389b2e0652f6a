import Minim.Proofs.Resolution.Mirrored

/-!
# Renaming

All that an analysis asks about two names is whether they are the same. So with other names in the
place of those of a tree, different ones for different ones, the analysis goes the same way.
-/

namespace Minim

open Resolution

/-- An identifier with another name. -/
def Ident.rename (r : String → String) (name : Ident) : Ident :=
  { name with value := .text (r name.name) }

/-- All identifiers of a tree with other names. -/
def Edit.rename (r : String → String) : Edit := { ident := Ident.rename r }

namespace Resolution

/-- Other names, and nothing else. -/
def View.rename (r : String → String) : View := { word := r, ident := Ident.rename r }

/-- A state with other names: in the scopes and the field tables, of the symbols and of the structs
in their types, and in what ended the analysis. -/
def State.rename (r : String → String) (s : State) : State :=
  { s with
    store := ⟨s.store.symbols.map (View.rename r).symbol⟩
    table := (View.rename r).table s.table
    failure := s.failure.map (View.rename r).failure }

/-- Other names, different ones for different ones. -/
def Mirror.rename {r : String → String} (injective : Function.Injective r) : Mirror where
  toView := .rename r
  word_injective := injective
  entry_injective := Function.injective_id
  name_ident _ := rfl
  pos_ident _ := rfl
  ident_attach name index := by
    rw [View.rename, Option.map_id]
    rfl

end Resolution

/-- **Renaming.** Under other names, different ones for different ones, a tree is analysed as under
its own: the same faults are found at the same places, the same places are noted at the identifiers,
the symbols and the scopes are the same but for the names, and if the one analysis fails, the other
one fails in the same way. -/
theorem analyze_rename {r : String → String} (injective : Function.Injective r) (T : Program) :
    (T.edit (.rename r)).analyze.program = T.analyze.program.edit (.rename r) ∧
      (T.edit (.rename r)).analyze.state = T.analyze.state.rename r := by
  obtain ⟨program, state⟩ := Program.analyze_edit (m := .rename injective) rfl rfl T
  refine ⟨program, state.trans ?_⟩
  have log : T.analyze.state.log.entries.map (View.rename r).diagnostic =
      T.analyze.state.log.entries := List.map_id _
  rw [View.state, State.rename]
  exact congrArg (fun entries => State.mk _ _ _ ⟨entries⟩ _) log

/-- A struct `P` whose field has its name too, a variable `P`, and a function that counts the field
of a `struct P p`, and then a field of the number one. -/
def homonymProgram : Program :=
  let name (word : String) : Ident := { value := .text word }
  { decls :=
      [.struct {} (name "P") {} [.var {} (.int {}) (name "P")],
        .var {} (.int {}) (name "P"),
        .func {} (.void {}) (name "main") {} {}
          (.mk {} [.var {} (.struct {} (name "P")) (name "p")] {}
            [.increment {} (.dot {} (.ident (name "p")) (name "P")),
              .increment {} (.dot {} (.int {} (.number 1)) (name "P"))])] }

theorem analyze_rename_of_homonymProgram :
    let r (word : String) : String := "_" ++ word
    let state := (homonymProgram.edit (.rename r)).analyze.state
    Function.Injective r ∧ state = homonymProgram.analyze.state.rename r ∧
      state.failure = some (.dotBase .intLiteral) ∧
      state.log.entries.map Diagnostic.kind = [.duplicateName] ∧
      state.store.symbols.map Symbol.name = ["_P", "_P", "_main", "_p"] ∧
      (homonymProgram.edit (.rename r)).analyze.program.idents.map Ident.symbol =
        [none, none, none, none, some 0, none, some 3, some 1, none] := by
  have injective : Function.Injective fun word => "_" ++ word :=
    fun _ _ same => String.append_right_inj _ |>.mp same
  exact ⟨injective, (analyze_rename injective homonymProgram).2, by decide, by decide, by decide,
    by decide⟩

end Minim
