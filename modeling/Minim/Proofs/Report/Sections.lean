import Minim.Proofs.Report.Outcome
import Minim.Proofs.Report.TokenLines
import Minim.Proofs.Resolution.Reports

/-!
# What is asked for only adds sections

A text is read and analysed in one way. That decides the exit code and the faults on the other
output. What is asked for decides which sections stand on the standard output, and each of them says
the same whatever else is asked for.
-/

namespace Minim

open Resolution

/-! ## What actions say -/

/-- What lies around a run answers to a file that is to be saved with some contents, and to a graph
that is to be drawn to a path in a format: the problem, if there is one. -/
structure Surroundings where
  saving : String → String → Option String
  drawing : String → Option String → String → Option String

namespace Surroundings

variable (w : Surroundings)

/-- The line about a file that is to be saved. -/
def saveLine (path contents : String) : String :=
  match w.saving path contents with
  | none => "Wrote AST+symbols JSON to " ++ path ++ "\n"
  | some problem => "Failed to write JSON to " ++ path ++ ": " ++ problem ++ "\n"

/-- The line about a graph that is to be drawn. -/
def drawLine (path : String) (format : Option String) (dot : String) : String :=
  match w.drawing path format dot with
  | none => "Wrote AST visualization to " ++ path ++ "." ++ format.getD "None" ++ "\n"
  | some problem => "Failed to render AST visualization to " ++ path ++ ": " ++ problem ++ "\n"

/-- What an action says on the standard output. -/
def tells : Action → String
  | .out text => text
  | .err _ => ""
  | .save path contents => w.saveLine path contents
  | .draw path format dot => w.drawLine path format dot

/-- What actions say on the standard output. -/
def tellsAll (actions : List Action) : String := String.join (actions.map w.tells)

end Surroundings

namespace Action

/-- What an action says on the other output. -/
def complains : Action → String
  | .err text => text
  | _ => ""

/-- What actions say on the other output. -/
def complainsAll (actions : List Action) : String := String.join (actions.map complains)

/-- Whether an action saves a file. -/
def isSave : Action → Bool
  | .save _ _ => true
  | _ => false

end Action

section

variable {w w' : Surroundings} {actions more : List Action}

@[simp] theorem Surroundings.tellsAll_nil : w.tellsAll [] = "" := rfl

@[simp] theorem Surroundings.tellsAll_cons (action : Action) :
    w.tellsAll (action :: actions) = w.tells action ++ w.tellsAll actions :=
  String.join_cons

@[simp] theorem Surroundings.tellsAll_append :
    w.tellsAll (actions ++ more) = w.tellsAll actions ++ w.tellsAll more := by
  rw [tellsAll, List.map_append, String.join_append]
  rfl

@[simp] theorem Action.complainsAll_nil : complainsAll [] = "" := rfl

@[simp] theorem Action.complainsAll_cons (action : Action) :
    complainsAll (action :: actions) = action.complains ++ complainsAll actions :=
  String.join_cons

@[simp] theorem Action.complainsAll_append :
    complainsAll (actions ++ more) = complainsAll actions ++ complainsAll more := by
  rw [complainsAll, List.map_append, String.join_append]
  rfl

/-- Where no file is saved, it does not matter what would be answered to one. -/
theorem Surroundings.tellsAll_congr (noSave : actions.filter Action.isSave = [])
    (same : w'.drawing = w.drawing) : w'.tellsAll actions = w.tellsAll actions := by
  induction actions with
  | nil => rfl
  | cons action actions ih =>
    cases action with
    | save path contents => cases noSave
    | draw path format dot =>
      rw [tellsAll_cons, tellsAll_cons, ih noSave, tells, tells, drawLine, drawLine, same]
    | out | err => rw [tellsAll_cons, tellsAll_cons, ih noSave, tells, tells]

end

namespace Transcript

/-- A file is answered by the folder, and a graph is drawn if it has a format. -/
def surroundings (t : Transcript) : Surroundings where
  saving path contents :=
    match t.folder.write path contents with
    | .ok _ => none
    | .error error => some (error.message path)
  drawing _ format _ := if format.isSome then none else some Drawing.noFormat

theorem out_save (t : Transcript) (path contents : String) :
    (t.save path contents).out = t.out ++ t.surroundings.saveLine path contents := by
  simp only [save, Surroundings.saveLine, surroundings]
  cases t.folder.write path contents <;> rfl

theorem err_save (t : Transcript) (path contents : String) :
    (t.save path contents).err = t.err := by
  rw [save]
  cases t.folder.write path contents <;> rfl

variable {t t' : Transcript} {action : Action} {actions : List Action}

/-- An action says what it says in the surroundings, and leaves them as they are unless it saves a
file. -/
theorem perform_tells (performed : t.perform action = .ok t') :
    t'.out = t.out ++ t.surroundings.tells action ∧ t'.err = t.err ++ action.complains ∧
      (action.isSave = false → t'.folder = t.folder) := by
  cases action with
  | out text =>
    cases performed
    exact ⟨rfl, String.append_empty.symm, fun _ => rfl⟩
  | err text =>
    cases performed
    exact ⟨String.append_empty.symm, rfl, fun _ => rfl⟩
  | draw path format dot =>
    cases performed
    cases format <;> exact ⟨rfl, String.append_empty.symm, fun _ => rfl⟩
  | save path contents =>
    rw [perform] at performed
    split at performed
    · cases performed
    · cases performed
      refine ⟨t.out_save path contents, (t.err_save path contents).trans String.append_empty.symm,
        fun other => ?_⟩
      cases other

/-- Actions that save one file at most say what they say in the surroundings at the beginning. -/
theorem performAll_tells (once : (actions.filter Action.isSave).length ≤ 1)
    (performed : t.performAll actions = .ok t') :
    t'.out = t.out ++ t.surroundings.tellsAll actions ∧
      t'.err = t.err ++ Action.complainsAll actions := by
  induction actions generalizing t with
  | nil =>
    cases performed
    exact ⟨String.append_empty.symm, String.append_empty.symm⟩
  | cons action actions ih =>
    rw [performAll, List.foldlM_cons] at performed
    cases first : t.perform action with
    | error interruption => rw [first] at performed; cases performed
    | ok t₁ =>
      rw [first] at performed
      obtain ⟨out, err, folder⟩ := perform_tells first
      have once' : (actions.filter Action.isSave).length ≤ 1 :=
        ((List.sublist_cons_self ..).filter _).length_le.trans once
      obtain ⟨out', err'⟩ := ih once' performed
      -- Only behind a file that is saved the folder is another one, and there no file is saved.
      have same : t₁.surroundings.tellsAll actions = t.surroundings.tellsAll actions := by
        cases saved : action.isSave with
        | false => rw [surroundings, surroundings, folder saved]
        | true =>
          rw [List.filter_cons_of_pos saved, List.length_cons] at once
          exact Surroundings.tellsAll_congr (List.length_eq_zero_iff.mp (by omega)) rfl
      refine ⟨?_, ?_⟩
      · rw [out', out, same, Surroundings.tellsAll_cons, String.append_assoc]
      · rw [err', err, Action.complainsAll_cons, String.append_assoc]

end Transcript

/-! ## What a text comes to -/

namespace Report

/-- What a text comes to, whatever is asked for: it stops somewhere, its tokens are no program, or
they are one. -/
inductive Finding
  | stopped (error : LexError)
  | noProgram (tokens : List Token) (error : ParseError)
  | analysed (tokens : List Token) (T : Program)

/-- What tokens come to. -/
def findTokens (tokens : List Token) : Finding :=
  match parseTokens tokens with
  | .error error => .noProgram tokens error
  | .ok T => .analysed tokens T

/-- What a text comes to. -/
def find (text : String) : Finding :=
  match tokenize text with
  | .error error => .stopped error
  | .ok tokens => findTokens tokens

/-- A section that is there only if it is asked for. -/
def given (asked : Bool) (text : String) : String := if asked then text else ""

/-- A section that is there only if a path is given that is not empty. -/
def givenTo (path : Option String) (text : String → String) : String :=
  match path with
  | none => ""
  | some path => if path = "" then "" else text path

/-- The tree of a resolved program, under a heading. -/
def treeText (resolution : Resolution) : String :=
  "\nAST:\n" ++ (Node.program resolution.program).dumpText resolution.state.legend 0 "" ++ "\n"

/-- The source of a resolved program with its annotations, under a heading. -/
def sourceText (resolution : Resolution) : String :=
  "\nAnnotated source:\n" ++ resolution.program.source resolution.state.legend

/-- The scopes that are open after the analysis, under a heading. -/
def scopeText (resolution : Resolution) : String :=
  "\nGlobal scope:\n" ++ resolution.state.store.tableText resolution.state.table ++ "\n"

/-- What is saved of a resolved program: its tree, its symbols and its faults. -/
def exported (resolution : Resolution) : Json.Value :=
  .object [("ast", resolution.program.toJson .full),
    ("symbols", resolution.state.arena.toJson resolution.state.store),
    ("diagnostics", resolution.state.log.toJson)]

/-- The line about the saved file, if a path is given. -/
def exportText (w : Surroundings) (path : Option String) (resolution : Resolution) : String :=
  givenTo path (w.saveLine · ((exported resolution).render 0))

/-- The line about the graph, if a path is given. -/
def graphText (w : Surroundings) (path format : Option String) (resolution : Resolution) :
    String :=
  givenTo path
    (w.drawLine · format (Graph.dot resolution.state.legend (.program resolution.program)))

/-- The line of the verdict. -/
def verdictText (resolution : Resolution) : String :=
  if resolution.state.log.entries = [] then "\n✓ Name analysis passed\n"
  else
    "\n✗ Name analysis found " ++ toString resolution.state.log.entries.length ++ " error(s):\n"

/-- What is told of a fault: its position and its message. -/
def faultText (fault : Diagnostic) : String :=
  Text.decimal fault.pos.line ++ ":" ++ Text.decimal fault.pos.column ++ " ***ERROR*** " ++
    fault.message

/-- The line about a text that is no program. -/
def syntaxText (message : String) : String := "Syntax Error: " ++ message ++ "\n"

namespace Finding

/-- The faults that are found. -/
def faults : Finding → List Diagnostic
  | stopped _ | noProgram _ _ => []
  | analysed _ T => T.analyze.state.log.entries

/-- The exit code. -/
def code : Finding → Nat
  | stopped _ | noProgram _ _ => 1
  | analysed _ T => if T.analyze.state.log.entries = [] then 0 else 2

/-- The text on the other output. -/
def err (finding : Finding) : String := linesText (finding.faults.map faultText)

/-- The text on the standard output. -/
def out (w : Surroundings) (request : Request) : Finding → String
  | stopped error => syntaxText error.message
  | noProgram tokens error =>
    given request.tokens (linesText (tokenLines tokens)) ++ syntaxText error.message
  | analysed tokens T =>
    given request.tokens (linesText (tokenLines tokens)) ++
      (given request.tree (treeText T.analyze) ++
        (given request.source (sourceText T.analyze) ++
          (given request.scope (scopeText T.analyze) ++
            (exportText w request.exportPath T.analyze ++
              (graphText w request.graphPath request.graphFormat T.analyze ++
                verdictText T.analyze)))))

end Finding

/-- A report tells what a text comes to, as far as it is asked for. It saves one file at most, and
that to the path that is given. -/
structure Shows (request : Request) (finding : Finding) (report : Report) : Prop where
  code : report.status.code = finding.code
  out : ∀ w : Surroundings, w.tellsAll report.actions = finding.out w request
  err : Action.complainsAll report.actions = finding.err
  once : (report.actions.filter Action.isSave).length ≤ 1
  saves : ∀ path contents, .save path contents ∈ report.actions →
    path ∈ givenPath request.exportPath

/-! ### The parts of a report -/

section

variable (w : Surroundings)

theorem tellsAll_when (asked : Bool) (text : String) :
    w.tellsAll (Report.when asked (.out text)) = given asked text := by
  cases asked with
  | false => rfl
  | true => simp [Report.when, given, Surroundings.tells]

theorem complainsAll_when (asked : Bool) (text : String) :
    Action.complainsAll (Report.when asked (.out text)) = "" := by
  cases asked <;> rfl

theorem tellsAll_givenPath (path : Option String) (action : String → Action) :
    w.tellsAll ((givenPath path).map action) = givenTo path fun path => w.tells (action path) := by
  cases path with
  | none => rfl
  | some path =>
    rw [givenPath, Option.toList_some, givenTo]
    split <;> simp [*]

theorem complainsAll_map (paths : List String) (action : String → Action)
    (quiet : ∀ path, (action path).complains = "") :
    Action.complainsAll (paths.map action) = "" := by
  induction paths with
  | nil => rfl
  | cons path paths ih => rw [List.map_cons, Action.complainsAll_cons, quiet, ih]; rfl

theorem tellsAll_verdict (resolution : Resolution) :
    w.tellsAll (verdict resolution) = verdictText resolution := by
  simp only [verdict, verdictText, Resolution.isClean, Log.isClean_iff, Log.size,
    Text.decimalNat_eq_toString]
  split <;> simp [Surroundings.tells]

theorem complainsAll_verdict (resolution : Resolution) :
    Action.complainsAll (verdict resolution) =
      linesText (resolution.state.log.entries.map faultText) := by
  rw [verdict]
  split
  case isTrue clean =>
    rw [(Log.isClean_iff _).mp clean]
    rfl
  case isFalse =>
    have lines : resolution.state.log.lines =
        linesText (resolution.state.log.entries.map faultText) := by
      rw [Log.lines, linesText, List.map_map]
      rfl
    simp [Action.complains, lines]

theorem length_givenPath_le (path : Option String) : (givenPath path).length ≤ 1 :=
  (List.length_filter_le ..).trans path.length_toList_le

/-- Every section is there exactly if it is asked for. -/
theorem tellsAll_sections (request : Request) (resolution : Resolution) :
    w.tellsAll (sections request resolution) =
      given request.tree (treeText resolution) ++
        (given request.source (sourceText resolution) ++
          (given request.scope (scopeText resolution) ++
            (exportText w request.exportPath resolution ++
              (graphText w request.graphPath request.graphFormat resolution ++
                verdictText resolution)))) := by
  simp only [sections, Surroundings.tellsAll_append, tellsAll_when, tellsAll_givenPath,
    tellsAll_verdict, String.append_assoc]
  rfl

/-- Only the verdict is told on the other output. -/
theorem complainsAll_sections (request : Request) (resolution : Resolution) :
    Action.complainsAll (sections request resolution) =
      linesText (resolution.state.log.entries.map faultText) := by
  have saves := complainsAll_map (givenPath request.exportPath)
    (.save · ((exportJson resolution).render 0)) fun _ => rfl
  have draws := complainsAll_map (givenPath request.graphPath)
    (.draw · request.graphFormat (Graph.dot resolution.state.legend (.program resolution.program)))
    fun _ => rfl
  simp only [sections, Action.complainsAll_append, complainsAll_when, saves, draws,
    complainsAll_verdict, String.empty_append]

end

/-! ### Saved files -/

theorem filter_isSave_eq_nil {actions : List Action}
    (noSave : ∀ path contents, .save path contents ∉ actions) :
    actions.filter Action.isSave = [] := by
  rw [List.filter_eq_nil_iff]
  rintro action mem isSave
  cases action with
  | save path contents => exact noSave path contents mem
  | out | err | draw => cases isSave

/-- One file is saved at most. -/
theorem length_saves_sections (request : Request) (resolution : Resolution) :
    ((sections request resolution).filter Action.isSave).length ≤ 1 := by
  have whens (asked : Bool) (text : String) :
      (Report.when asked (.out text)).filter Action.isSave = [] :=
    filter_isSave_eq_nil fun _ _ => not_save_of_mem_when
  have verdicts : (verdict resolution).filter Action.isSave = [] :=
    filter_isSave_eq_nil fun _ _ => not_save_of_mem_verdict
  have draws : ((givenPath request.graphPath).map (Action.draw · request.graphFormat
      (Graph.dot resolution.state.legend (.program resolution.program)))).filter
        Action.isSave = [] :=
    filter_isSave_eq_nil (by simp)
  simp only [sections, List.filter_append, whens, verdicts, draws, List.nil_append, List.append_nil]
  exact (List.length_filter_le ..).trans ((List.length_map ..).trans_le (length_givenPath_le _))

/-! ## Reports -/

variable {request : Request} {text : String}

theorem shows_of_stopped (error : LexError) :
    Shows request (.stopped error) ⟨[unreadable error.message], .unreadable⟩ := by
  refine ⟨rfl, fun w => ?_, rfl, Nat.zero_le _, by simp [unreadable]⟩
  simp [unreadable, Surroundings.tells, Finding.out, syntaxText]

theorem code_of_resolution (resolution : Resolution) :
    (if resolution.isClean then Status.clean else .faulty).code =
      if resolution.state.log.entries = [] then 0 else 2 := by
  simp only [Resolution.isClean, Log.isClean_iff]
  split <;> rfl

theorem shows_of_tokens (tokens : List Token) :
    Shows request (findTokens tokens) (ofTokens request tokens) := by
  have noSave : (Report.when request.tokens (.out (tokenSection tokens))).filter
      Action.isSave = [] :=
    filter_isSave_eq_nil fun _ _ => not_save_of_mem_when
  have saves (path contents : String)
      (mem : .save path contents ∈ (ofTokens request tokens).actions) :
      path ∈ givenPath request.exportPath := path_of_save mem
  rw [findTokens]
  rw [ofTokens] at saves ⊢
  cases parsed : parseTokens tokens with
  | error error =>
    rw [parsed] at saves
    refine ⟨rfl, fun w => ?_, ?_, ?_, saves⟩
    · simp [unreadable, Surroundings.tells, tellsAll_when, Finding.out, syntaxText,
        tokenSection_eq]
    · simp [unreadable, Action.complains, complainsAll_when, Finding.err, Finding.faults]
    · simp [noSave, unreadable, Action.isSave]
  | ok T =>
    rw [parsed] at saves
    refine ⟨code_of_resolution T.analyze, fun w => ?_, ?_, ?_, saves⟩
    · simp [tellsAll_when, tellsAll_sections, Finding.out, tokenSection_eq]
    · simp [complainsAll_when, complainsAll_sections, Finding.err, Finding.faults]
    · simp [noSave, length_saves_sections]

/-- A text that stops for another reason than a numeral, or does not stop, is reported on. -/
theorem shows_of_text
    (form : ∀ error, tokenize text = .error error → error.isNumeral = false) (request : Request) :
    ∃ report, ofText request text = .ok report ∧ Shows request (find text) report := by
  rw [find]
  cases lexed : tokenize text with
  | error error =>
    obtain ⟨pos, fault⟩ := error
    have silent := form _ lexed
    cases fault with
    | numeral error => cases silent
    | _ => exact ⟨_, by rw [ofText, lexed], shows_of_stopped _⟩
  | ok tokens => exact ⟨_, by rw [ofText, lexed], shows_of_tokens tokens⟩

/-! ### Rendered faults -/

/-- A rendered fault is one line. -/
theorem newline_notMem_faultText (pos : Position) (kind : DiagnosticKind) :
    '\n' ∉ (faultText (Log.entry pos kind)).toList := by
  have message : '\n' ∉ kind.message.toList := by cases kind <;> decide
  simp [faultText, Log.entry, Text.newline_notMem_decimal, message]

/-! ## Runs -/

theorem newline_notMem_of_mem_faults (finding : Finding) :
    ∀ fault ∈ finding.faults, '\n' ∉ (faultText fault).toList := by
  cases finding with
  | stopped | noProgram => exact List.forall_mem_nil _
  | analysed tokens T =>
    intro fault mem
    obtain ⟨pos, kind, rfl⟩ := T.analyze_foundAlong.exists_kind fault mem
    exact newline_notMem_faultText pos kind

/-- A program that a text comes to is analysed to the end, and its annotations lead to symbols. -/
theorem completes_of_find {tokens : List Token} {T : Program}
    (found : find text = .analysed tokens T) :
    T.analyze.state.failure = none ∧ T.analyze.program.LinkedIn T.analyze.state := by
  rw [find] at found
  cases lexed : tokenize text with
  | error error => rw [lexed] at found; cases found
  | ok tokens' =>
    rw [lexed] at found
    simp only [findTokens] at found
    cases parsed : parseTokens tokens' with
    | error error => rw [parsed] at found; cases found
    | ok T' =>
      rw [parsed] at found
      cases found
      obtain ⟨derived⟩ := Parser.parseTokens_sound parsed
      exact ⟨(Program.resolve_ready derived.shaped State.ready_fresh).running,
        linked_of_tokens parsed⟩

/-- **What is asked for is only observed.** Of a text with no digits that are no numeral, what it
comes to decides the exit code of the report and what is told on the other output, one line for each
fault in the order of the log, whatever is asked for. On the standard output the sections stand in
one order, each exactly if it is asked for, and what one of them tells depends on nothing else that
is asked for. That of the tokens lists fifty of them at most and counts the others. A run does what
the report tells, whatever it starts from, and the program that its sections go through is analysed
to the end and has no annotation that leads nowhere. -/
theorem sections_of_text
    (form : ∀ error, tokenize text = .error error → error.isNumeral = false) :
    (∀ fault ∈ (find text).faults, '\n' ∉ (faultText fault).toList) ∧
    (∀ tokens T, find text = .analysed tokens T → T.analyze.state.failure = none ∧
      T.analyze.program.LinkedIn T.analyze.state) ∧
    (∀ tokens, Lists tokens (tokenLines tokens)) ∧
    ∀ request, ∃ report, ofText request text = .ok report ∧ Shows request (find text) report ∧
      ((∀ path ∈ givenPath request.exportPath, Path.holdsNull path = false) →
        ∀ t : Transcript, ∃ t', t.performAll report.actions = .ok t' ∧
          t'.out = t.out ++ (find text).out t.surroundings request ∧
          t'.err = t.err ++ (find text).err) := by
  refine ⟨newline_notMem_of_mem_faults _, fun _ _ found => completes_of_find found,
    lists_tokenLines, fun request => ?_⟩
  obtain ⟨report, reported, shows⟩ := shows_of_text form request
  refine ⟨report, reported, shows, fun writable t => ?_⟩
  obtain ⟨t', performed⟩ := Transcript.performAll_eq_ok
    (fun path contents mem => writable path (shows.saves path contents mem)) t
  obtain ⟨out, err⟩ := Transcript.performAll_tells shows.once performed
  exact ⟨t', performed, by rw [out, shows.out], by rw [err, shows.err]⟩

theorem sections_of_twiceText :
    (∀ error, tokenize twiceText = .error error → error.isNumeral = false) ∧
      (find twiceText).code = 2 ∧
      (∀ path ∈ givenPath exportRequest.exportPath, Path.holdsNull path = false) ∧
      ∃ report t', ofText exportRequest twiceText = .ok report ∧
        Shows exportRequest (find twiceText) report ∧
        Transcript.performAll {} report.actions = .ok t' ∧ t'.err = (find twiceText).err := by
  obtain ⟨tokens, lexed, parsed⟩ := parseText_eq_ok.mp parseText_twiceText
  have form : ∀ error, tokenize twiceText = .error error → error.isNumeral = false := by
    intro error failed
    cases lexed.symm.trans failed
  have code : (find twiceText).code = 2 := by
    rw [find, lexed]
    simp only [findTokens, parsed]
    show (if twiceProgram.analyze.state.log.entries = [] then 0 else 2) = 2
    decide
  have writable : ∀ path ∈ givenPath exportRequest.exportPath, Path.holdsNull path = false := by
    decide
  obtain ⟨-, -, -, reports⟩ := sections_of_text form
  obtain ⟨report, reported, shows, runs⟩ := reports exportRequest
  obtain ⟨t', performed, -, err⟩ := runs writable {}
  exact ⟨form, code, writable, report, t', reported, shows, performed, err⟩

/-- The pair at the second `x`, and then the faults of the assignment, one to a line. -/
example : (Finding.analysed [] twiceProgram).err =
    "2:10 ***ERROR*** Name of struct type invalid\n" ++
      "2:10 ***ERROR*** Identifier multiply-declared\n" ++
      "3:12 ***ERROR*** Dot-access of non-struct type\n" ++
      "3:18 ***ERROR*** Identifier undeclared\n" := by
  decide +kernel

end Report

end Minim