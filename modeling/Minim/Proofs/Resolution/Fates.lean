import Minim.Proofs.Resolution.Links
import Minim.Proofs.Syntax.Erasure

/-!
# What becomes of identifiers

An analysis annotates an identifier, or it leaves it as it is and may report faults at it. Which of
these comes to an identifier depends on the words of the tree and on the state alone. Of what is
noted at the identifiers beforehand nothing is read; it is overwritten where an identifier is
annotated, and stays where one is left.
-/

namespace Minim

open Resolution

/-! ## Fates -/

/-- What becomes of an identifier: it is annotated, with the place that its symbol has, or left as
it is, with the faults that are reported at it. -/
inductive Fate
  | annotated (index : Option Nat)
  | left (faults : List DiagnosticKind)
  deriving DecidableEq, Repr

namespace Fate

/-- The identifier afterwards. -/
def after : Fate → Ident → Ident
  | annotated index, name => name.attach index
  | left _, name => name

/-- The faults that are reported at the identifier. -/
def found : Fate → Ident → List Diagnostic
  | annotated _, _ => []
  | left faults, name => faults.map (Log.entry name.pos)

end Fate

namespace Resolution

/-- Two states that are the same but for their logs. -/
def State.SameBut (s t : State) : Prop := ∃ log, t = { s with log }

theorem State.SameBut.refl (s : State) : s.SameBut s := ⟨s.log, rfl⟩

/-- From one state to another some identifiers are analysed. Each has its fate, and these make up
what is done with the identifiers and the log; the rest of the state ends up as in a given one. From
a consistent state no identifier is annotated with nothing. -/
structure Fares (fates : List Fate) (s : State) (names : List Ident) (s' : State)
    (names' : List Ident) (finish : State) : Prop where
  finish : finish.SameBut s'
  each : fates.length = names.length
  after : names' = List.zipWith Fate.after fates names
  log : s'.log.entries = s.log.entries ++ (List.zipWith Fate.found fates names).flatten
  placed : s.Consistent → Fate.annotated none ∉ fates

/-- All trees of the words of a tree have the same fates for their identifiers, in all states that
are the same but for their logs. The states afterwards are compared with the one after that tree, so
that the part behind can start from it. -/
def Fated {α : Type} (words : α → α) (idents : α → List Ident) (part : α → Resolve α) (x : α)
    (s : State) : Prop :=
  ∃ fates, ∀ y t, words y = words x → s.SameBut t →
    Fares fates t (idents y) (part y t).2 (idents (part y t).1) (part x s).2

namespace Fares

variable {fates fates' : List Fate} {finish finish' s s' s'' t : State}
  {names names' more more' : List Ident}

theorem append (h : Fares fates s names s' names' finish)
    (consistent : s.Consistent → s'.Consistent) (h' : Fares fates' s' more s'' more' finish') :
    Fares (fates ++ fates') s (names ++ more) s'' (names' ++ more') finish' where
  finish := h'.finish
  each := by rw [List.length_append, h.each, h'.each, List.length_append]
  after := by rw [h.after, h'.after, List.zipWith_append h.each]
  log := by
    rw [h'.log, h.log, List.zipWith_append h.each, List.flatten_append, List.append_assoc]
  placed start mem := (List.mem_append.mp mem).elim (h.placed start) (h'.placed (consistent start))

/-- Nothing is done with some identifiers. -/
theorem left (h : finish.SameBut s') (log : s'.log = s.log) (names : List Ident) :
    Fares (List.replicate names.length (.left [])) s names s' names finish where
  finish := h
  each := List.length_replicate
  after := by
    induction names with
    | nil => rfl
    | cons name names ih => exact congrArg (name :: ·) ih
  log := by
    have none : (List.zipWith Fate.found (List.replicate names.length (.left [])) names).flatten =
        [] := by
      induction names with
      | nil => rfl
      | cons name names ih => exact ih
    rw [none, List.append_nil, log]
  placed _ mem := nomatch List.eq_of_mem_replicate mem

/-- Nothing is done with the identifiers of a tree of the same words. -/
theorem untouched {names₀ : List Ident} (words : names.map Ident.erase = names₀.map Ident.erase)
    (h : finish.SameBut s') (log : s'.log = s.log) :
    Fares (List.replicate names₀.length (.left [])) s names s' names finish := by
  have length : names.length = names₀.length := by
    simpa only [List.length_map] using congrArg List.length words
  exact length ▸ .left h log names

/-- Nothing is done with one identifier. -/
theorem passed {name : Ident} (h : finish.SameBut s') (log : s'.log = s.log) :
    Fares [.left []] s [name] s' [name] finish :=
  .left h log [name]

/-- Faults are reported at an identifier. -/
theorem reported (kinds : List DiagnosticKind) {name : Ident} (h : finish.SameBut s')
    (log : s'.log.entries = s.log.entries ++ kinds.map (Log.entry name.pos)) :
    Fares [.left kinds] s [name] s' [name] finish where
  finish := h
  each := rfl
  after := rfl
  log := by
    rw [log]
    exact congrArg (_ ++ ·) (List.append_nil _).symm
  placed _ mem := nomatch List.mem_singleton.mp mem

/-- An identifier is annotated. -/
theorem annotated {index : Option Nat} {name : Ident} (h : finish.SameBut s') (log : s'.log = s.log)
    (placed : s.Consistent → index ≠ none) :
    Fares [.annotated index] s [name] s' [name.attach index] finish where
  finish := h
  each := rfl
  after := rfl
  log := by
    rw [log]
    exact (List.append_nil _).symm
  placed start mem := placed start (Fate.annotated.inj (List.mem_singleton.mp mem)).symm

/-- An identifier that was left is left once more. -/
theorem again {kinds kinds' : List DiagnosticKind} {name : Ident}
    (h : Fares (fates ++ [.left kinds]) s (names ++ [name]) s' (names' ++ [name]) finish)
    (h' : Fares [.left kinds'] s' [name] s'' [name] finish') :
    Fares (fates ++ [.left (kinds ++ kinds')]) s (names ++ [name]) s'' (names' ++ [name])
      finish' := by
  have each : fates.length = names.length := by
    simpa only [List.length_append, List.length_singleton, Nat.add_right_cancel_iff] using h.each
  have after := h.after
  have log := h'.log
  rw [List.zipWith_append each] at after
  rw [h.log, List.zipWith_append each, List.flatten_append] at log
  refine ⟨h'.finish, by rw [List.length_append, List.length_append, each]; rfl, ?_, ?_,
    fun start mem => ?_⟩
  · rw [List.zipWith_append each]
    exact after
  · rw [log, List.zipWith_append each, List.flatten_append]
    simp [Fate.found]
  · rcases List.mem_append.mp mem with mem | mem
    · exact h.placed start (List.mem_append_left _ mem)
    · cases List.mem_singleton.mp mem

end Fares

/-- One part after the other. -/
theorem Fated.append {α β : Type} {words : α → α} {idents : α → List Ident}
    {part : α → Resolve α} {words' : β → β} {idents' : β → List Ident} {part' : β → Resolve β}
    {x : α} {x' : β} {s : State} (h : Fated words idents part x s)
    (consistent : ∀ y t, State.Consistent t → (part y t).2.Consistent)
    (h' : Fated words' idents' part' x' (part x s).2) :
    ∃ fates, ∀ y y' t, words y = words x → words' y' = words' x' → s.SameBut t →
      Fares fates t (idents y ++ idents' y') (part' y' (part y t).2).2
        (idents (part y t).1 ++ idents' (part' y' (part y t).2).1) (part' x' (part x s).2).2 := by
  obtain ⟨fates, fares⟩ := h
  obtain ⟨fates', fares'⟩ := h'
  refine ⟨fates ++ fates', fun y y' t same same' alike => ?_⟩
  have first := fares y t same alike
  exact first.append (consistent y t) (fares' y' _ same' first.finish)

/-! ## Steps -/

theorem unlessFailed_of_ended {α : Type} {s : State} {failure : Failure}
    (ended : s.failure = some failure) (otherwise : α) (step : State → α × State) :
    unlessFailed otherwise step s = (otherwise, s) := by
  simp only [unlessFailed, ended]

/-- What holds of a step where it is taken and where it is not holds of it in all states that are
the same but for their logs, in the same way. -/
theorem unlessFailed_alike {ι α β : Type} {alike : ι → Prop} {otherwise : ι → α}
    {step : ι → State → α × State} {motive : β → State → ι → State → α × State → Prop} {x : ι}
    {s : State}
    (ended : ∃ b, ∀ y log, alike y → motive b s y { s with log } (otherwise y, { s with log }))
    (taken : ∃ b, ∀ y log, alike y →
      motive b (step x s).2 y { s with log } (step y { s with log })) :
    ∃ b, ∀ y t, alike y → s.SameBut t →
      motive b (unlessFailed (otherwise x) (step x) s).2 y t
        (unlessFailed (otherwise y) (step y) t) := by
  cases failure : s.failure with
  | none =>
    obtain ⟨b, holds⟩ := taken
    refine ⟨b, ?_⟩
    rintro y _ same ⟨log, rfl⟩
    have running : State.failure { s with log } = none := failure
    rw [unlessFailed_of_running failure, unlessFailed_of_running running]
    exact holds y log same
  | some failure' =>
    obtain ⟨b, holds⟩ := ended
    refine ⟨b, ?_⟩
    rintro y _ same ⟨log, rfl⟩
    have stopped : State.failure { s with log } = some failure' := failure
    rw [unlessFailed_of_ended failure, unlessFailed_of_ended stopped]
    exact holds y log same

/-- A step at an identifier. -/
theorem fated_of_step {step : Ident → State → Ident × State} {name : Ident} {s : State}
    (taken : ∃ fates, ∀ name' log, name'.erase = name.erase →
      Fares fates { s with log } [name'] (step name' { s with log }).2
        [(step name' { s with log }).1] (step name s).2) :
    Fated Ident.erase ([·]) (fun name => unlessFailed name (step name)) name s :=
  unlessFailed_alike
    (motive := fun fates finish name' t after => Fares fates t [name'] after.2 [after.1] finish)
    ⟨[.left []], fun _ log _ => .passed ⟨log, rfl⟩ rfl⟩ taken

theorem State.Entry.index?_ne_none {s : State} {name : String} {id : SymbolId}
    (h : s.Entry name id) : s.store.index? id ≠ none := by
  obtain ⟨i, symbol, -, known, -, index⟩ := h
  rw [Store.index?, known, Option.bind_some, index]
  exact Option.some_ne_none i

theorem name_of_erase {name name' : Ident} (same : name'.erase = name.erase) :
    name'.name = name.name :=
  (congrArg Ident.name same :)

theorem useName_fated (name : Ident) (s : State) : Fated Ident.erase ([·]) useName name s := by
  refine fated_of_step ?_
  dsimp only
  cases looked : s.table.lookup name.name with
  | error error =>
    refine ⟨[.left []], fun name' log words => ?_⟩
    simp only [name_of_erase words, looked]
    exact .passed ⟨log, rfl⟩ rfl
  | ok found =>
    cases found with
    | none =>
      refine ⟨[.left [.undeclaredIdentifier]], fun name' log words => ?_⟩
      simp only [name_of_erase words, looked]
      exact .reported [.undeclaredIdentifier] ⟨_, rfl⟩ rfl
    | some id =>
      refine ⟨[.annotated (s.store.index? id)], fun name' log words => ?_⟩
      simp only [name_of_erase words, looked]
      exact .annotated ⟨log, rfl⟩ rfl fun start => (start.scopes.lookup looked).index?_ne_none

theorem useField_fated (structName : String) (field : Ident) (s : State) :
    Fated Ident.erase ([·]) (useField structName) field s := by
  refine fated_of_step ?_
  dsimp only
  cases looked : s.table.lookup structName with
  | error error => exact ⟨[.left []], fun _ log _ => .passed ⟨log, rfl⟩ rfl⟩
  | ok found =>
    dsimp only
    cases isStruct : found.bind s.store.fields? with
    | none => exact ⟨[.left []], fun _ log _ => .passed ⟨log, rfl⟩ rfl⟩
    | some fields =>
      dsimp only
      cases bound : fields.lookupLocal field.name with
      | error error =>
        refine ⟨[.left []], fun field' log words => ?_⟩
        simp only [name_of_erase words, bound]
        exact .passed ⟨log, rfl⟩ rfl
      | ok found' =>
        cases found' with
        | none =>
          refine ⟨[.left [.invalidFieldName]], fun field' log words => ?_⟩
          simp only [name_of_erase words, bound]
          exact .reported [.invalidFieldName] ⟨_, rfl⟩ rfl
        | some id =>
          refine ⟨[.annotated (s.store.index? id)], fun field' log words => ?_⟩
          simp only [name_of_erase words, bound]
          exact .annotated ⟨log, rfl⟩ rfl fun start =>
            ((start.fields_of_lookup looked isStruct).lookupLocal bound).index?_ne_none

/-- The answer to the step at a base is the same, too. -/
theorem useBase_fated (base : Ident) (s : State) :
    ∃ outcome : List Fate × Option String, ∀ base' t, base'.erase = base.erase → s.SameBut t →
      (useBase base' t).1.2 = outcome.2 ∧
        Fares outcome.1 t [base'] (useBase base' t).2 [(useBase base' t).1.1]
          (useBase base s).2 := by
  refine unlessFailed_alike
    (motive := fun (outcome : List Fate × Option String) finish base' t
      (after : (Ident × Option String) × State) =>
      after.1.2 = outcome.2 ∧ Fares outcome.1 t [base'] after.2 [after.1.1] finish)
    ⟨([.left []], none), fun _ log _ => ⟨rfl, .passed ⟨log, rfl⟩ rfl⟩⟩ ?_
  dsimp only
  cases looked : s.table.lookupLocal base.name with
  | error error =>
    refine ⟨([.left []], none), fun base' log words => ?_⟩
    simp only [name_of_erase words, looked]
    exact ⟨trivial, .passed ⟨log, rfl⟩ rfl⟩
  | ok found =>
    have structs (id : SymbolId) (log : Log) : State.structOf? { s with log } id = s.structOf? id :=
      rfl
    cases isVar : found.bind fun id => (s.structOf? id).map (id, ·) with
    | none =>
      refine ⟨([.left [.dotAccessNonStruct]], none), fun base' log words => ?_⟩
      simp only [name_of_erase words, looked, structs, isVar]
      exact ⟨trivial, .reported [.dotAccessNonStruct] ⟨_, rfl⟩ rfl⟩
    | some instance' =>
      obtain ⟨id, rfl, ofStruct⟩ := Option.bind_eq_some_iff.mp isVar
      obtain ⟨structName, -, rfl⟩ := Option.map_eq_some_iff.mp ofStruct
      refine ⟨([.annotated (s.store.index? id)], some structName), fun base' log words => ?_⟩
      simp only [name_of_erase words, looked, structs, isVar]
      exact ⟨trivial, .annotated ⟨log, rfl⟩ rfl fun start =>
        (start.scopes.lookupLocal looked).index?_ne_none⟩

/-- Faults at a struct name are reported at the name that is declared with it. -/
theorem useStructName_fated (names : Ident × Ident) (s : State) :
    ∃ outcome : Fate × List DiagnosticKind, ∀ (names' : Ident × Ident) t,
      names'.1.erase = names.1.erase → s.SameBut t →
        Fares ([outcome.1] ++ [.left outcome.2]) t ([names'.1] ++ [names'.2])
          (useStructName names'.1 names'.2 t).2
          ([(useStructName names'.1 names'.2 t).1] ++ [names'.2])
          (useStructName names.1 names.2 s).2 := by
  have atStruct (names' : Ident × Ident) (log : Log) :
      Fares [.left []] { s with log } [names'.1] { s with log } [names'.1] s :=
    .passed ⟨log, rfl⟩ rfl
  refine unlessFailed_alike
    (motive := fun (outcome : Fate × List DiagnosticKind) finish (names' : Ident × Ident) t
      (after : Ident × State) =>
      Fares ([outcome.1] ++ [.left outcome.2]) t ([names'.1] ++ [names'.2]) after.2
        ([after.1] ++ [names'.2]) finish)
    ⟨(.left [], []), fun names' log _ =>
      (atStruct names' log).append id (.passed ⟨log, rfl⟩ rfl)⟩ ?_
  dsimp only
  cases looked : s.table.lookup names.1.name with
  | error error =>
    refine ⟨(.left [], []), fun names' log words => ?_⟩
    simp only [name_of_erase words, looked]
    exact (atStruct names' log).append id (.passed ⟨log, rfl⟩ rfl)
  | ok found =>
    cases found with
    | none =>
      refine ⟨(.left [], [.invalidStructType]), fun names' log words => ?_⟩
      simp only [name_of_erase words, looked]
      exact (atStruct names' log).append id (.reported [.invalidStructType] ⟨_, rfl⟩ rfl)
    | some id =>
      cases isStruct : (s.store.fields? id).isSome with
      | true =>
        refine ⟨(.annotated (s.store.index? id), []), fun names' log words => ?_⟩
        simp only [name_of_erase words, looked, isStruct, if_true]
        have annotated : Fares [.annotated (s.store.index? id)] { s with log } [names'.1]
            { s with log } [names'.1.attach (s.store.index? id)] s :=
          .annotated ⟨log, rfl⟩ rfl fun start => (start.scopes.lookup looked).index?_ne_none
        exact annotated.append (fun start => start) (.passed ⟨log, rfl⟩ rfl)
      | false =>
        refine ⟨(.left [], []), fun names' log words => ?_⟩
        simp only [name_of_erase words, looked, isStruct, Bool.false_eq_true, if_false]
        exact (atStruct names' log).append (fun start => start) (.passed ⟨log, rfl⟩ rfl)

theorem report_fated (name : Ident) (kind : DiagnosticKind) (s : State) :
    ∃ kinds, ∀ (name' : Ident) t, name'.erase = name.erase → s.SameBut t →
      Fares [.left kinds] t [name'] (report name' kind t).2 [name'] (report name kind s).2 :=
  unlessFailed_alike
    (motive := fun kinds finish name' t after =>
      Fares [.left kinds] t [name'] after.2 [name'] finish)
    ⟨[], fun _ log _ => .passed ⟨log, rfl⟩ rfl⟩
    ⟨[kind], fun _ _ _ => .reported [kind] ⟨_, rfl⟩ rfl⟩

/-- The answer to a declaration is the same, too. -/
theorem declare_fated (target : Target) (name : Ident) (meaning : Meaning) (s : State) :
    ∃ outcome : List DiagnosticKind × Option SymbolId, ∀ (name' : Ident) t,
      name'.erase = name.erase → s.SameBut t →
        (declare target name' meaning t).1 = outcome.2 ∧
          Fares [.left outcome.1] t [name'] (declare target name' meaning t).2 [name']
            (declare target name meaning s).2 := by
  refine unlessFailed_alike
    (motive := fun (outcome : List DiagnosticKind × Option SymbolId) finish name' t after =>
      after.1 = outcome.2 ∧ Fares [.left outcome.1] t [name'] after.2 [name'] finish)
    ⟨([], none), fun _ log _ => ⟨rfl, .passed ⟨log, rfl⟩ rfl⟩⟩ ?_
  have tables (log : Log) : State.tableOf { s with log } target = s.tableOf target := by
    cases target <;> rfl
  have ids (log : Log) : State.nextId { s with log } = s.nextId := rfl
  simp only [State.declare]
  cases declared : (s.tableOf target).declare name.name s.nextId with
  | error error =>
    cases error with
    | duplicate =>
      refine ⟨([.duplicateName], none), fun name' log words => ?_⟩
      simp only [name_of_erase words, tables, ids, declared]
      exact ⟨trivial, .reported [.duplicateName] ⟨_, rfl⟩ rfl⟩
    | _ =>
      refine ⟨([], none), fun name' log words => ?_⟩
      simp only [name_of_erase words, tables, ids, declared]
      exact ⟨trivial, .passed ⟨log, rfl⟩ rfl⟩
  | ok table =>
    refine ⟨([], some s.nextId), fun name' log words => ?_⟩
    simp only [name_of_erase words, tables, ids, declared]
    refine ⟨trivial, .passed ⟨log, ?_⟩ ?_⟩
    · cases target <;> rfl
    · cases target <;> rfl

/-- A step that has no answer is taken in the same way. -/
theorem unlessFailed_sameBut {α : Type} {s t : State} {otherwise : α} {step : State → α × State}
    (taken : ∀ log, (step s).2.SameBut (step { s with log }).2) (same : s.SameBut t) :
    (unlessFailed otherwise step s).2.SameBut (unlessFailed otherwise step t).2 := by
  obtain ⟨_, alike⟩ := @unlessFailed_alike Unit α Unit (fun _ => True) (fun _ => otherwise)
    (fun _ => step) (fun _ finish _ _ after => finish.SameBut after.2) () s
    ⟨(), fun _ log _ => ⟨log, rfl⟩⟩ ⟨(), fun _ log _ => taken log⟩
  exact alike () t trivial same

theorem fail_sameBut (failure : Failure) {s t : State} (same : s.SameBut t) :
    (fail failure s).2.SameBut (fail failure t).2 :=
  unlessFailed_sameBut (fun log => ⟨log, rfl⟩) same

theorem openScope_sameBut {s t : State} (same : s.SameBut t) :
    (openScope s).2.SameBut (openScope t).2 :=
  unlessFailed_sameBut (fun log => ⟨log, rfl⟩) same

theorem log_fail (failure : Failure) (s : State) : (fail failure s).2.log = s.log :=
  unlessFailed_cases (motive := fun after : Unit × State => after.2.log = s.log) rfl fun _ => rfl

theorem closeScope_sameBut {s t : State} (same : s.SameBut t) :
    (closeScope s).2.SameBut (closeScope t).2 := by
  refine unlessFailed_sameBut (fun log => ?_) same
  dsimp only
  cases s.table.pop with
  | ok table => exact ⟨log, rfl⟩
  | error error => exact ⟨log, rfl⟩

theorem openScope_consistent {s : State} (start : s.Consistent) : (openScope s).2.Consistent :=
  (State.Leads.of_keeps (openScope_keeps s) (State.openScope_backs s)).consistent start

theorem declare_consistent (name : Ident) {meaning : Meaning} {s : State}
    (plain : ∀ fields, meaning = .structDef fields → fields = .root) (start : s.Consistent) :
    (declare .scope name meaning s).2.Consistent := by
  have leads : s.Leads [] (declare .scope name meaning s).2 [] :=
    declare_leads name (by rintro _ ⟨⟩) plain
  exact leads.consistent start

/-- A part in a scope of its own. -/
theorem Fares.inScope {fates : List Fate} {s s' finish : State} {names names' : List Ident}
    (h : Fares fates (openScope s).2 names s' names' finish) :
    Fares fates s names (closeScope s').2 names' (closeScope finish).2 where
  finish := closeScope_sameBut h.finish
  each := h.each
  after := h.after
  log := by rw [(closeScope_keeps s').log, h.log, (openScope_keeps s).log]
  placed start := h.placed (openScope_consistent start)

end Resolution

/-! ## Expressions -/

theorem useName_consistent (name : Ident) (s : State) (start : s.Consistent) :
    (useName name s).2.Consistent :=
  (useName_leads name s).consistent start

theorem Expr.resolve_consistent (e : Expr) (s : State) (start : s.Consistent) :
    (e.resolve s).2.Consistent :=
  (e.resolve_leads s).consistent start

theorem Ident.resolveMember_fated (base field : Ident) (s : State) :
    ∃ fates, ∀ base' field' t, base'.erase = base.erase → field'.erase = field.erase →
      s.SameBut t → Fares fates t [base', field'] (base'.resolveMember field' t).2
        [(base'.resolveMember field' t).1.1, (base'.resolveMember field' t).1.2]
        (base.resolveMember field s).2 := by
  obtain ⟨⟨fates, found⟩, atBase⟩ := useBase_fated base s
  have found₀ := (atBase base s rfl (.refl s)).1
  cases found with
  | none =>
    refine ⟨fates ++ [.left []], fun base' field' t sameBase sameField same => ?_⟩
    obtain ⟨found', fares⟩ := atBase base' t sameBase same
    rw [resolveMember_of_none found₀, resolveMember_of_none found']
    exact fares.append (useBase_leads base' t).consistent (.passed fares.finish rfl)
  | some structName =>
    obtain ⟨fates', atField⟩ := useField_fated structName field (useBase base s).2
    refine ⟨fates ++ fates', fun base' field' t sameBase sameField same => ?_⟩
    obtain ⟨found', fares⟩ := atBase base' t sameBase same
    rw [resolveMember_of_some found₀, resolveMember_of_some found']
    exact fares.append (useBase_leads base' t).consistent
      (atField field' _ sameField fares.finish)

namespace Expr

theorem resolve_dot_of_other {pos : Position} {base : Expr} {field : Ident}
    (other : base.isLocation = false) (s : State) :
    (Expr.dot pos base field).resolve s =
      (.dot pos base field, (fail (.dotBase base.kind) s).2) := by
  cases base with
  | ident | dot => cases other
  | _ => rfl

/-- A dot access that the analysis ends at. -/
theorem resolve_fated_of_other {base : Expr} (other : base.isLocation = false) (pos : Position)
    (field : Ident) (s : State) :
    Fated Expr.erase Expr.idents Expr.resolve (.dot pos base field) s := by
  refine ⟨.replicate (Expr.dot pos base field).idents.length (.left []),
    fun e' t words same => ?_⟩
  have alike : e'.idents.map Ident.erase = (Expr.dot pos base field).idents.map Ident.erase := by
    rw [← e'.idents_erase, words, Expr.idents_erase]
  cases e' with
  | dot pos' base' field' =>
    obtain ⟨-, baseWords, -⟩ := Expr.dot.inj words
    have other' : base'.isLocation = false := by
      rw [← base'.isLocation_erase, baseWords, base.isLocation_erase, other]
    have kind : base'.kind = base.kind := by
      rw [← base'.kind_erase, baseWords, base.kind_erase]
    rw [resolve_dot_of_other other, resolve_dot_of_other other', kind]
    exact .untouched alike (fail_sameBut _ same) (log_fail ..)
  | _ => cases words

end Expr

mutual

/-- **The fates of the identifiers of an expression.** -/
theorem Expr.resolve_fated (e : Expr) (s : State) :
    Fated Expr.erase Expr.idents Expr.resolve e s := by
  -- The fates come from this tree, before any tree of the same words is given; such a tree is then
  -- made in the same way.
  cases e with
  | int pos value =>
    refine ⟨[], fun e' t words same => ?_⟩
    cases e' with
    | int => exact .left same rfl []
    | _ => cases words
  | string pos written =>
    refine ⟨[], fun e' t words same => ?_⟩
    cases e' with
    | string => exact .left same rfl []
    | _ => cases words
  | bool pos value =>
    refine ⟨[], fun e' t words same => ?_⟩
    cases e' with
    | bool => exact .left same rfl []
    | _ => cases words
  | ident name =>
    obtain ⟨fates, fares⟩ := useName_fated name s
    refine ⟨fates, fun e' t words same => ?_⟩
    cases e' with
    | ident name' => exact fares name' t (Expr.ident.inj words) same
    | _ => cases words
  | dot pos base field =>
    cases base with
    | ident name =>
      obtain ⟨fates, fares⟩ := name.resolveMember_fated field s
      refine ⟨fates, fun e' t words same => ?_⟩
      cases e' with
      | dot pos' base' field' =>
        obtain ⟨-, baseWords, fieldWords⟩ := Expr.dot.inj words
        cases base' with
        | ident name' => exact fares name' field' t (Expr.ident.inj baseWords) fieldWords same
        | _ => cases baseWords
      | _ => cases words
    | dot pos₁ base₁ field₁ =>
      obtain ⟨fates, fares⟩ := (Expr.resolve_fated (.dot pos₁ base₁ field₁) s).append
        Expr.resolve_consistent (useName_fated field _)
      refine ⟨fates, fun e' t words same => ?_⟩
      cases e' with
      | dot pos' base' field' =>
        obtain ⟨-, baseWords, fieldWords⟩ := Expr.dot.inj words
        cases base' with
        | dot pos₂ base₂ field₂ =>
          exact fares (.dot pos₂ base₂ field₂) field' t baseWords fieldWords same
        | _ => cases baseWords
      | _ => cases words
    | _ => exact Expr.resolve_fated_of_other rfl pos field s
  | assign pos target value =>
    obtain ⟨fates, fares⟩ := (Expr.resolve_fated target s).append Expr.resolve_consistent
      (Expr.resolve_fated value _)
    refine ⟨fates, fun e' t words same => ?_⟩
    cases e' with
    | assign pos' target' value' =>
      obtain ⟨-, targetWords, valueWords⟩ := Expr.assign.inj words
      exact fares target' value' t targetWords valueWords same
    | _ => cases words
  | call pos callee argsPos args =>
    obtain ⟨fates, fares⟩ := (useName_fated callee s).append useName_consistent
      (Expr.resolveAll_fated args _)
    refine ⟨fates, fun e' t words same => ?_⟩
    cases e' with
    | call pos' callee' argsPos' args' =>
      obtain ⟨-, calleeWords, -, argsWords⟩ := Expr.call.inj words
      exact fares callee' args' t calleeWords argsWords same
    | _ => cases words
  | unary pos op operand =>
    obtain ⟨fates, fares⟩ := Expr.resolve_fated operand s
    refine ⟨fates, fun e' t words same => ?_⟩
    cases e' with
    | unary pos' op' operand' => exact fares operand' t (Expr.unary.inj words).2.2 same
    | _ => cases words
  | binary pos left op right =>
    obtain ⟨fates, fares⟩ := (Expr.resolve_fated left s).append Expr.resolve_consistent
      (Expr.resolve_fated right _)
    refine ⟨fates, fun e' t words same => ?_⟩
    cases e' with
    | binary pos' left' op' right' =>
      obtain ⟨-, leftWords, -, rightWords⟩ := Expr.binary.inj words
      exact fares left' right' t leftWords rightWords same
    | _ => cases words

theorem Expr.resolveAll_fated (es : List Expr) (s : State) :
    Fated Expr.eraseAll Expr.identsAll Expr.resolveAll es s := by
  cases es with
  | nil =>
    refine ⟨[], fun es' t words same => ?_⟩
    cases es' with
    | nil => exact .left same rfl []
    | cons => cases words
  | cons e es =>
    obtain ⟨fates, fares⟩ := (Expr.resolve_fated e s).append Expr.resolve_consistent
      (Expr.resolveAll_fated es _)
    refine ⟨fates, fun es' t words same => ?_⟩
    cases es' with
    | nil => cases words
    | cons e' es' =>
      obtain ⟨headWords, tailWords⟩ := List.cons.inj words
      exact fares e' es' t headWords tailWords same

end

theorem Assignment.resolve_fated (a : Assignment) (s : State) :
    Fated Assignment.erase (·.expr.idents) Assignment.resolve a s := by
  obtain ⟨fates, fares⟩ := (a.target.resolve_fated s).append Expr.resolve_consistent
    (a.value.resolve_fated _)
  refine ⟨fates, fun a' t words same => ?_⟩
  obtain ⟨-, targetWords, valueWords⟩ := Assignment.mk.inj words
  exact fares a'.target a'.value t targetWords valueWords same

theorem Call.resolve_fated (c : Call) (s : State) :
    Fated Call.erase (·.expr.idents) Call.resolve c s := by
  obtain ⟨fates, fares⟩ := (useName_fated c.callee s).append useName_consistent
    (Expr.resolveAll_fated c.args _)
  refine ⟨fates, fun c' t words same => ?_⟩
  obtain ⟨-, calleeWords, -, argsWords⟩ := Call.mk.inj words
  exact fares c'.callee c'.args t calleeWords argsWords same

/-! ## Variables -/

theorem TypeExpr.dataType_of_erase {type type' : TypeExpr} (words : type'.erase = type.erase) :
    type'.dataType = type.dataType := by
  cases type <;> cases type' <;> first | rfl | cases words | skip
  exact congrArg DataType.struct (name_of_erase (TypeExpr.struct.inj words).2)

theorem TypeExpr.declare_struct (target : Target) (pos : Position) (structName name : Ident)
    (s : State) :
    (TypeExpr.struct pos structName).declare target name s =
      (.struct pos (useStructName structName name s).1,
        (Resolution.declare target name (.structVar structName.name)
          (useStructName structName name s).2).2) := by
  rw [← useStructName_name structName name s]
  rfl

theorem TypeExpr.declare_fated (target : Target) (type : TypeExpr) (name : Ident) (s : State) :
    ∃ fates, ∀ (type' : TypeExpr) (name' : Ident) t, type'.erase = type.erase →
      name'.erase = name.erase → s.SameBut t →
        Fares fates t (type'.idents ++ [name']) (type'.declare target name' t).2
          ((type'.declare target name' t).1.idents ++ [name']) (type.declare target name s).2 := by
  cases type with
  | int pos =>
    obtain ⟨⟨kinds, answer⟩, fares⟩ := Resolution.declare_fated target name (.var .int) s
    refine ⟨[.left kinds], fun type' name' t words sameName same => ?_⟩
    cases type' with
    | int => exact (fares name' t sameName same).2
    | _ => cases words
  | bool pos =>
    obtain ⟨⟨kinds, answer⟩, fares⟩ := Resolution.declare_fated target name (.var .bool) s
    refine ⟨[.left kinds], fun type' name' t words sameName same => ?_⟩
    cases type' with
    | bool => exact (fares name' t sameName same).2
    | _ => cases words
  | void pos =>
    obtain ⟨kinds, fares⟩ := report_fated name .voidVariable s
    refine ⟨[.left kinds], fun type' name' t words sameName same => ?_⟩
    cases type' with
    | void => exact fares name' t sameName same
    | _ => cases words
  | struct pos structName =>
    obtain ⟨⟨fate, kinds⟩, fares⟩ := useStructName_fated (structName, name) s
    obtain ⟨⟨kinds', answer⟩, fares'⟩ := Resolution.declare_fated target name
      (.structVar structName.name) (useStructName structName name s).2
    refine ⟨[fate] ++ [.left (kinds ++ kinds')], fun type' name' t words sameName same => ?_⟩
    cases type' with
    | struct pos' structName' =>
      have sameStruct := (TypeExpr.struct.inj words).2
      have first := fares (structName', name') t sameStruct same
      rw [declare_struct, declare_struct, name_of_erase sameStruct]
      exact first.again (fares' name' _ sameName first.finish).2
    | _ => cases words

theorem Formal.resolve_fated (f : Formal) (s : State) :
    Fated Formal.erase Formal.idents Formal.resolve f s := by
  obtain ⟨fates, fares⟩ := f.type.declare_fated .scope f.name s
  refine ⟨fates, fun f' t words same => ?_⟩
  obtain ⟨-, typeWords, nameWords⟩ := Formal.mk.inj words
  exact fares f'.type f'.name t typeWords nameWords same

theorem Formal.resolveAll_fated (fs : List Formal) (s : State) :
    Fated (List.map Formal.erase) (List.flatMap Formal.idents) Formal.resolveAll fs s := by
  induction fs generalizing s with
  | nil =>
    refine ⟨[], fun fs' t words same => ?_⟩
    cases List.map_eq_nil_iff.mp words
    exact .left same rfl []
  | cons f fs ih =>
    obtain ⟨fates, fares⟩ := (f.resolve_fated s).append
      (fun f t => (f.resolve_leads t).consistent) (ih _)
    refine ⟨fates, fun fs' t words same => ?_⟩
    cases fs' with
    | nil => cases words
    | cons f' fs' =>
      obtain ⟨headWords, tailWords⟩ := List.cons.inj words
      exact fares f' fs' t headWords tailWords same

namespace Decl

theorem resolveField_of_other {d : Decl} (other : d.kind ≠ .varDecl) (structName : String)
    (struct : SymbolId) (s : State) :
    d.resolveField structName struct s = (d, (fail (.structMember structName d.kind) s).2) := by
  cases d with
  | var => exact absurd rfl other
  | func | struct => rfl

/-- A member that the analysis ends at. -/
theorem resolveField_fated_of_other {d : Decl} (other : d.kind ≠ .varDecl) (structName : String)
    (struct : SymbolId) (s : State) :
    Fated Decl.erase Decl.idents (Decl.resolveField structName struct) d s := by
  refine ⟨.replicate d.idents.length (.left []), fun d' t words same => ?_⟩
  have kind : d'.kind = d.kind := by
    rw [← d'.kind_erase, words, d.kind_erase]
  rw [resolveField_of_other other, resolveField_of_other (kind ▸ other), kind]
  refine .untouched ?_ (fail_sameBut _ same) (log_fail ..)
  rw [← d'.idents_erase, words, d.idents_erase]

theorem resolveField_fated (structName : String) (struct : SymbolId) (d : Decl) (s : State) :
    Fated Decl.erase Decl.idents (Decl.resolveField structName struct) d s := by
  cases d with
  | func | struct => exact resolveField_fated_of_other (by rintro ⟨⟩) structName struct s
  | var pos type name =>
    obtain ⟨fates, fares⟩ := type.declare_fated (.fields struct) name s
    refine ⟨fates, fun d' t words same => ?_⟩
    cases d' with
    | var pos' type' name' =>
      obtain ⟨-, typeWords, nameWords⟩ := Decl.var.inj words
      exact fares type' name' t typeWords nameWords same
    | _ => cases words

theorem resolveFields_fated (structName : String) {struct : SymbolId} (fields : List Decl)
    {s : State} (inArena : struct ∈ s.arena.ids) :
    Fated Decl.eraseAll Decl.identsAll (Decl.resolveFields structName struct) fields s := by
  induction fields generalizing s with
  | nil =>
    refine ⟨[], fun fields' t words same => ?_⟩
    cases fields' with
    | nil => exact .left same rfl []
    | cons => cases words
  | cons d fields ih =>
    obtain ⟨fates, fares⟩ := resolveField_fated structName struct d s
    obtain ⟨fates', fares'⟩ :=
      ih ((d.resolveField_leads structName inArena).grows.arena.subset inArena)
    refine ⟨fates ++ fates', fun fields' t words same => ?_⟩
    cases fields' with
    | nil => cases words
    | cons d' fields' =>
      obtain ⟨headWords, tailWords⟩ := List.cons.inj words
      have first := fares d' t headWords same
      obtain ⟨log, rfl⟩ := same
      exact first.append (d'.resolveField_leads (s := { s with log }) structName inArena).consistent
        (fares' fields' _ tailWords first.finish)

/-! ## Declarations, statements and blocks -/

theorem resolve_struct_fated (pos : Position) (name : Ident) (fieldsPos : Position)
    (fields : List Decl) (s : State) :
    Fated Decl.erase Decl.idents Decl.resolve (.struct pos name fieldsPos fields) s := by
  obtain ⟨⟨kinds, answer⟩, fares⟩ := Resolution.declare_fated .scope name (.structDef .root) s
  have declared := (fares name s rfl (.refl s)).1
  have consistent (name : Ident) (t : State) :
      t.Consistent → (declare .scope name (.structDef .root) t).2.Consistent :=
    declare_consistent name (by rintro _ ⟨⟩; rfl)
  cases answer with
  | none =>
    refine ⟨[.left kinds] ++ .replicate (identsAll fields).length (.left []),
      fun d' t words same => ?_⟩
    cases d' with
    | struct pos' name' fieldsPos' fields' =>
      obtain ⟨-, nameWords, -, fieldsWords⟩ := Decl.struct.inj words
      obtain ⟨declared', first⟩ := fares name' t nameWords same
      have alike : (identsAll fields').map Ident.erase = (identsAll fields).map Ident.erase := by
        rw [← identsAll_eraseAll, fieldsWords, identsAll_eraseAll]
      rw [resolve_struct_of_none declared, resolve_struct_of_none declared']
      exact first.append (consistent name' t) (.untouched alike first.finish rfl)
    | _ => cases words
  | some struct =>
    obtain ⟨fates, inside⟩ := resolveFields_fated name.name fields
      (mem_arena_of_declare .scope name (.structDef .root) s struct declared)
    refine ⟨[.left kinds] ++ fates, fun d' t words same => ?_⟩
    cases d' with
    | struct pos' name' fieldsPos' fields' =>
      obtain ⟨-, nameWords, -, fieldsWords⟩ := Decl.struct.inj words
      obtain ⟨declared', first⟩ := fares name' t nameWords same
      rw [resolve_struct_of_some declared, resolve_struct_of_some declared',
        name_of_erase nameWords]
      exact first.append (consistent name' t) (inside fields' _ fieldsWords first.finish)
    | _ => cases words

end Decl

theorem Formals.dataTypes_of_erase {fs fs' : Formals} (words : fs'.erase = fs.erase) :
    fs'.items.map (·.type.dataType) = fs.items.map (·.type.dataType) := by
  have types (fs : Formals) :
      fs.items.map (·.type.dataType) = fs.erase.items.map (·.type.dataType) := by
    rw [Formals.erase, List.map_map]
    exact List.map_congr_left fun f _ => TypeExpr.dataType_of_erase f.type.erase_erase.symm
  rw [types fs', words, ← types fs]

mutual

theorem Decl.resolve_fated (d : Decl) (s : State) :
    Fated Decl.erase Decl.idents Decl.resolve d s := by
  cases d with
  | var pos type name =>
    obtain ⟨fates, fares⟩ := type.declare_fated .scope name s
    refine ⟨fates, fun d' t words same => ?_⟩
    cases d' with
    | var pos' type' name' =>
      obtain ⟨-, typeWords, nameWords⟩ := Decl.var.inj words
      exact fares type' name' t typeWords nameWords same
    | _ => cases words
  | struct pos name fieldsPos fields => exact Decl.resolve_struct_fated pos name fieldsPos fields s
  | func pos returnType name formals bodyPos body =>
    -- The struct of a return type is not looked up.
    obtain ⟨⟨kinds, answer⟩, fares⟩ := Resolution.declare_fated .scope name
      (.func returnType.dataType (formals.items.map (·.type.dataType))) s
    obtain ⟨fates, inside⟩ := (Formal.resolveAll_fated formals.items (openScope _).2).append
      (fun fs t => (Formal.resolveAll_leads fs t).consistent) (Block.resolveInside_fated body _)
    refine ⟨.replicate returnType.idents.length (.left []) ++ ([.left kinds] ++ fates),
      fun d' t words same => ?_⟩
    cases d' with
    | func pos' returnType' name' formals' bodyPos' body' =>
      obtain ⟨-, typeWords, nameWords, formalsWords, -, bodyWords⟩ := Decl.func.inj words
      have declared := (fares name' t nameWords same).2
      have walked := inside formals'.items body' _ (congrArg Formals.items formalsWords :)
        bodyWords (openScope_sameBut declared.finish)
      have alike : returnType'.idents.map Ident.erase = returnType.idents.map Ident.erase := by
        rw [← returnType'.idents_erase, typeWords, returnType.idents_erase]
      have all := (Fares.untouched alike same rfl).append id
        (declared.append (declare_consistent name' (fun _ => nofun)) walked.inScope)
      rw [Decl.resolve, Decl.resolve, TypeExpr.dataType_of_erase typeWords,
        Formals.dataTypes_of_erase formalsWords]
      exact all
    | _ => cases words

theorem Stmt.resolve_fated (st : Stmt) (s : State) :
    Fated Stmt.erase Stmt.idents Stmt.resolve st s := by
  cases st with
  | assign pos a =>
    obtain ⟨fates, fares⟩ := a.resolve_fated s
    refine ⟨fates, fun st' t words same => ?_⟩
    cases st' with
    | assign pos' a' => exact fares a' t (Stmt.assign.inj words).2 same
    | _ => cases words
  | increment pos e =>
    obtain ⟨fates, fares⟩ := e.resolve_fated s
    refine ⟨fates, fun st' t words same => ?_⟩
    cases st' with
    | increment pos' e' => exact fares e' t (Stmt.increment.inj words).2 same
    | _ => cases words
  | decrement pos e =>
    obtain ⟨fates, fares⟩ := e.resolve_fated s
    refine ⟨fates, fun st' t words same => ?_⟩
    cases st' with
    | decrement pos' e' => exact fares e' t (Stmt.decrement.inj words).2 same
    | _ => cases words
  | read pos e =>
    obtain ⟨fates, fares⟩ := e.resolve_fated s
    refine ⟨fates, fun st' t words same => ?_⟩
    cases st' with
    | read pos' e' => exact fares e' t (Stmt.read.inj words).2 same
    | _ => cases words
  | write pos e =>
    obtain ⟨fates, fares⟩ := e.resolve_fated s
    refine ⟨fates, fun st' t words same => ?_⟩
    cases st' with
    | write pos' e' => exact fares e' t (Stmt.write.inj words).2 same
    | _ => cases words
  | call pos c =>
    obtain ⟨fates, fares⟩ := c.resolve_fated s
    refine ⟨fates, fun st' t words same => ?_⟩
    cases st' with
    | call pos' c' => exact fares c' t (Stmt.call.inj words).2 same
    | _ => cases words
  | ifThen pos cond body =>
    obtain ⟨fates, fares⟩ := (cond.resolve_fated s).append Expr.resolve_consistent
      (Block.resolve_fated body _)
    refine ⟨fates, fun st' t words same => ?_⟩
    cases st' with
    | ifThen pos' cond' body' =>
      obtain ⟨-, condWords, bodyWords⟩ := Stmt.ifThen.inj words
      exact fares cond' body' t condWords bodyWords same
    | _ => cases words
  | loop pos cond body =>
    obtain ⟨fates, fares⟩ := (cond.resolve_fated s).append Expr.resolve_consistent
      (Block.resolve_fated body _)
    refine ⟨fates, fun st' t words same => ?_⟩
    cases st' with
    | loop pos' cond' body' =>
      obtain ⟨-, condWords, bodyWords⟩ := Stmt.loop.inj words
      exact fares cond' body' t condWords bodyWords same
    | _ => cases words
  | ifElse pos cond yes no =>
    obtain ⟨fates, fares⟩ := cond.resolve_fated s
    obtain ⟨fates', fares'⟩ := (Block.resolve_fated yes _).append
      (fun b t => (b.resolveInside_leads _).inScope.consistent) (Block.resolve_fated no _)
    refine ⟨fates ++ fates', fun st' t words same => ?_⟩
    cases st' with
    | ifElse pos' cond' yes' no' =>
      obtain ⟨-, condWords, yesWords, noWords⟩ := Stmt.ifElse.inj words
      have first := fares cond' t condWords same
      exact first.append (cond'.resolve_consistent t)
        (fares' yes' no' _ yesWords noWords first.finish)
    | _ => cases words
  | ret pos value =>
    cases value with
    | none =>
      refine ⟨[], fun st' t words same => ?_⟩
      cases st' with
      | ret pos' value' =>
        cases value' with
        | none => exact .left same rfl []
        | some => cases words
      | _ => cases words
    | some e =>
      obtain ⟨fates, fares⟩ := e.resolve_fated s
      refine ⟨fates, fun st' t words same => ?_⟩
      cases st' with
      | ret pos' value' =>
        cases value' with
        | none => cases words
        | some e' => exact fares e' t (Option.some.inj (Stmt.ret.inj words).2) same
      | _ => cases words

/-- A block in a scope of its own. -/
theorem Block.resolve_fated (b : Block) (s : State) :
    Fated Block.erase Block.idents
      (fun b => do openScope; let b ← b.resolveInside; closeScope; return b) b s := by
  obtain ⟨fates, fares⟩ := Block.resolveInside_fated b (openScope s).2
  exact ⟨fates, fun b' t words same => (fares b' _ words (openScope_sameBut same)).inScope⟩

theorem Block.resolveInside_fated (b : Block) (s : State) :
    Fated Block.erase Block.idents Block.resolveInside b s := by
  obtain ⟨declsPos, decls, stmtsPos, stmts⟩ := b
  obtain ⟨fates, fares⟩ := (Decl.resolveAll_fated decls s).append
    (fun ds t => (Decl.resolveAll_leads ds t).consistent) (Stmt.resolveAll_fated stmts _)
  refine ⟨fates, fun b' t words same => ?_⟩
  obtain ⟨declsPos', decls', stmtsPos', stmts'⟩ := b'
  obtain ⟨-, declsWords, -, stmtsWords⟩ := Block.mk.inj words
  exact fares decls' stmts' t declsWords stmtsWords same

theorem Decl.resolveAll_fated (ds : List Decl) (s : State) :
    Fated Decl.eraseAll Decl.identsAll Decl.resolveAll ds s := by
  cases ds with
  | nil =>
    refine ⟨[], fun ds' t words same => ?_⟩
    cases ds' with
    | nil => exact .left same rfl []
    | cons => cases words
  | cons d ds =>
    obtain ⟨fates, fares⟩ := (Decl.resolve_fated d s).append
      (fun d t => (d.resolve_leads t).consistent) (Decl.resolveAll_fated ds _)
    refine ⟨fates, fun ds' t words same => ?_⟩
    cases ds' with
    | nil => cases words
    | cons d' ds' =>
      obtain ⟨headWords, tailWords⟩ := List.cons.inj words
      exact fares d' ds' t headWords tailWords same

theorem Stmt.resolveAll_fated (ss : List Stmt) (s : State) :
    Fated Stmt.eraseAll Stmt.identsAll Stmt.resolveAll ss s := by
  cases ss with
  | nil =>
    refine ⟨[], fun ss' t words same => ?_⟩
    cases ss' with
    | nil => exact .left same rfl []
    | cons => cases words
  | cons st ss =>
    obtain ⟨fates, fares⟩ := (Stmt.resolve_fated st s).append
      (fun st t => (st.resolve_leads t).consistent) (Stmt.resolveAll_fated ss _)
    refine ⟨fates, fun ss' t words same => ?_⟩
    cases ss' with
    | nil => cases words
    | cons st' ss' =>
      obtain ⟨headWords, tailWords⟩ := List.cons.inj words
      exact fares st' ss' t headWords tailWords same

end

/-- **The fates of the identifiers of a program** depend on its words alone. -/
theorem Program.resolve_fated (T : Program) (s : State) :
    Fated Program.erase Program.idents Program.resolve T s := by
  obtain ⟨fates, fares⟩ := Decl.resolveAll_fated T.decls s
  exact ⟨fates, fun T' t words same =>
    fares T'.decls t (congrArg Program.decls words :) same⟩

end Minim
