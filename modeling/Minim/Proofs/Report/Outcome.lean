import Minim.Proofs.Resolution.Completion
import Minim.Proofs.Resolution.Exports
import Minim.Proofs.Token.Stops
import Minim.Report

/-!
# How a run on a text ends

A run ends with a report and an exit code, whatever the text and whatever is asked for, or the text
stops at a run of digits that is no numeral. Two things only break a run off: such digits, and a
path with the null character for the export.
-/

namespace Minim

open Lexeme Resolution

/-! ## Actions -/

namespace Transcript

theorem performAll_eq_ok {actions : List Action}
    (writable : ∀ path contents, .save path contents ∈ actions → Path.holdsNull path = false)
    (t : Transcript) : ∃ t', t.performAll actions = .ok t' := by
  induction actions generalizing t with
  | nil => exact ⟨t, rfl⟩
  | cons action actions ih =>
    obtain ⟨t₁, performed⟩ : ∃ t₁, t.perform action = .ok t₁ := by
      cases action with
      | out text => exact ⟨_, rfl⟩
      | err text => exact ⟨_, rfl⟩
      | draw path format dot => exact ⟨_, rfl⟩
      | save path contents =>
        rw [perform, writable path contents (List.mem_cons_self ..)]
        exact ⟨_, rfl⟩
    obtain ⟨t', others⟩ :=
      ih (fun path contents mem => writable path contents (List.mem_cons_of_mem _ mem)) t₁
    refine ⟨t', ?_⟩
    rw [performAll, List.foldlM_cons, performed]
    exact others

end Transcript

namespace Report

theorem not_save_of_mem_when {asked : Bool} {text path contents : String} :
    Action.save path contents ∉ Report.when asked (.out text) := by
  cases asked <;> simp [Report.when]

theorem not_save_of_mem_verdict {resolution : Resolution} {path contents : String} :
    Action.save path contents ∉ verdict resolution := by
  rw [verdict]
  split <;> simp

/-- Nothing is exported but to the path that is asked for. -/
theorem path_of_save {request : Request} {tokens : List Token} {path contents : String}
    (mem : .save path contents ∈ (ofTokens request tokens).actions) :
    path ∈ givenPath request.exportPath := by
  rw [ofTokens] at mem
  cases parsed : parseTokens tokens with
  | error error =>
    simp only [parsed, List.mem_append, List.mem_singleton] at mem
    rcases mem with listed | unread
    · exact absurd listed not_save_of_mem_when
    · cases unread
  | ok T =>
    simp only [parsed, sections, List.mem_append, List.mem_map] at mem
    rcases mem with listed |
      (((((tree | source) | scope) | ⟨_, asked, ⟨⟩⟩) | ⟨_, -, drawn⟩) | verdict)
    · exact absurd listed not_save_of_mem_when
    · exact absurd tree not_save_of_mem_when
    · exact absurd source not_save_of_mem_when
    · exact absurd scope not_save_of_mem_when
    · exact asked
    · cases drawn
    · exact absurd verdict not_save_of_mem_verdict

/-! ## Runs -/

/-- A run ends with an exit code: there is a report with that code, and all that it does can be
done. -/
def Ends (request : Request) (t : Transcript) (text : String) (code : Nat) : Prop :=
  ∃ report t', ofText request text = .ok report ∧ t.performAll report.actions = .ok t' ∧
    report.status.code = code

/-- How a run on a text goes. The text stops at a run of digits that is no numeral, and there is no
report; or it stops for another reason, which is told with its place; or its tokens are no program,
which is told with a place too; or it is a program, which is analysed to the end, and each
annotation leads to a symbol. -/
inductive Outcome (request : Request) (t : Transcript) (text : String) : Prop
  | noNumeral {pos : Position} {error : NumeralError}
      (stopped : Stopped [] text.toList ⟨pos, .numeral error⟩)
      (breaks : ofText request text = .error error)
  | stopped {error : LexError} {reason : String} (stopped : Stopped [] text.toList error)
      (told : error.message = LexError.message.located error.pos reason)
      (ends : Ends request t text 1)
  | noProgram {tokens : List Token} {error : ParseError} (lexed : tokenize text = .ok tokens)
      (parsed : parseTokens tokens = .error error) (ends : Ends request t text 1)
  | analysed {T : Program} (parsed : parseText text = .ok T)
      (completes : T.analyze.state.failure = none)
      (linked : T.analyze.program.LinkedIn T.analyze.state)
      (ends : Ends request t text (if T.analyze.isClean then 0 else 2))

variable {request : Request} {text : String}

/-- What is told of a numeral has no place. -/
theorem not_located_of_numeral (pos : Position) (error : NumeralError) (pos' : Position)
    (reason : String) :
    (LexError.mk pos (.numeral error)).message ≠ LexError.message.located pos' reason := by
  intro told
  have first := congrArg (fun text : String => text.toList.head?) told
  have located : "Lexical error at line ".toList.head? = some 'L' := rfl
  unfold LexError.message LexError.message.located NumeralError.message at first
  cases error <;>
  · simp only [String.toList_append, List.append_assoc, List.head?_append, located] at first
    cases first

/-- What a report on tokens does can be done. -/
theorem ends_of_tokens {tokens : List Token} (lexed : tokenize text = .ok tokens)
    (writable : ∀ path ∈ givenPath request.exportPath, Path.holdsNull path = false)
    (t : Transcript) : Ends request t text (ofTokens request tokens).status.code := by
  have saves (path contents : String)
      (mem : .save path contents ∈ (ofTokens request tokens).actions) :
      Path.holdsNull path = false :=
    writable path (path_of_save mem)
  obtain ⟨t', performed⟩ := Transcript.performAll_eq_ok saves t
  exact ⟨_, t', by rw [ofText, lexed], performed, rfl⟩

/-- An error that is no matter of a numeral is told with its place. -/
theorem ends_of_error {error : LexError} (failed : tokenize text = .error error)
    (form : error.isNumeral = false) (t : Transcript) :
    (∃ reason, error.message = LexError.message.located error.pos reason) ∧
      Ends request t text 1 := by
  obtain ⟨pos, fault⟩ := error
  cases fault with
  | numeral error => cases form
  | _ => exact ⟨⟨_, rfl⟩, _, _, by rw [ofText, failed], rfl, rfl⟩

/-- The annotations of a program that is read and analysed lead to symbols. -/
theorem linked_of_tokens {tokens : List Token} {T : Program} (parsed : parseTokens tokens = .ok T) :
    T.analyze.program.LinkedIn T.analyze.state := by
  have leads := T.resolve_leads {}
  refine Program.linkedIn_of_links (leads.consistent State.consistent_fresh)
    (leads.links State.consistent_fresh fun n mem => State.links_of_unannotated ?_)
  refine symbol_of_parseTokens parsed n.name ?_
  rw [← T.map_namings]
  exact List.mem_map_of_mem mem

/-- **How a run ends.** -/
theorem outcome_of_text (request : Request) (t : Transcript) (text : String)
    (writable : ∀ path ∈ givenPath request.exportPath, Path.holdsNull path = false) :
    Outcome request t text := by
  cases lexed : tokenize text with
  | error error =>
    have stopped := tokenize_error_iff_stopped.mp lexed
    obtain ⟨pos, fault⟩ := error
    by_cases form : (LexError.mk pos fault).isNumeral = false
    · obtain ⟨⟨reason, told⟩, ends⟩ := ends_of_error lexed form t
      exact .stopped stopped told ends
    · cases fault with
      | numeral error => exact .noNumeral stopped (by rw [ofText, lexed])
      | _ => exact absurd rfl form
  | ok tokens =>
    have ends := ends_of_tokens lexed writable t
    cases parsed : parseTokens tokens with
    | error error =>
      rw [ofTokens, parsed] at ends
      exact .noProgram lexed parsed ends
    | ok T =>
      rw [ofTokens, parsed] at ends
      have code : (if T.analyze.isClean then Status.clean else .faulty).code =
          if T.analyze.isClean then 0 else 2 := by split <;> rfl
      obtain ⟨derived⟩ := Parser.parseTokens_sound parsed
      exact .analysed (parseText_eq_ok.mpr ⟨tokens, lexed, parsed⟩)
        (Program.resolve_ready derived.shaped State.ready_fresh).running
        (linked_of_tokens parsed) (code ▸ ends)

/-- A request for an export. -/
def exportRequest : Request := { tokens := true, scope := true, exportPath := some "tree.json" }

theorem outcome_of_exportRequest :
    (∀ path ∈ givenPath exportRequest.exportPath, Path.holdsNull path = false) ∧
      Outcome exportRequest {} "int x; // ends\nbool x;" :=
  have writable : ∀ path ∈ givenPath exportRequest.exportPath, Path.holdsNull path = false := by
    decide
  ⟨writable, outcome_of_text exportRequest {} _ writable⟩

/-- A superscript two counts as a digit and is none of a decimal system. -/
def superscriptText : String := "²"

/-- What is told of a superscript has no place, and there is no exit code. -/
theorem superscriptText_breaks :
    tokenize superscriptText = .error ⟨⟨1, 1⟩, .numeral (.notDecimal "²")⟩ ∧
      (∀ pos reason, (LexError.mk ⟨1, 1⟩ (.numeral (.notDecimal "²"))).message ≠
        LexError.message.located pos reason) ∧
      ∀ request t code, ¬ Ends request t superscriptText code := by
  have failed : tokenize superscriptText = .error ⟨⟨1, 1⟩, .numeral (.notDecimal "²")⟩ := by
    decide +kernel
  refine ⟨failed, not_located_of_numeral _ _, ?_⟩
  rintro request t code ⟨report, t', reported, -⟩
  rw [ofText, failed] at reported
  cases reported

end Report

end Minim
