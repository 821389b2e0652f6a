import Mathlib.Data.Finset.Basic
import Mathlib.Logic.Function.Basic
import Minim.Scope

/-!
# Stacks of scopes are lexical environments

A stack of scopes keeps the bindings of each scope by themselves and looks for a name in one scope
after the other. What it answers is said more simply by a stack of snapshots: each of them holds all
bindings in force while its scope is the innermost one, and the names declared in this scope. The
two machines answer any acts alike, those that are refused among them, and when a scope is closed
the stack is what it was before the scope was opened.
-/

namespace Minim

namespace ScopeStack

variable {α : Type}

/-! ## Acts on a stack -/

/-- What can be done with a stack of scopes. -/
inductive Act (α : Type)
  | push
  | pop
  | declare (name : String) (entry : α)
  | lookupLocal (name : String)
  | lookup (name : String)
  deriving DecidableEq, Repr

/-- What an act answers that is not refused. -/
inductive Reply (α : Type)
  | done
  | found (entry : Option α)
  deriving DecidableEq, Repr

/-- A refused act leaves things as they were. -/
def attempt {σ : Type} (s : σ) : Except ScopeError (Reply α × σ) → Except ScopeError (Reply α) × σ
  | .ok (reply, s') => (.ok reply, s')
  | .error error => (.error error, s)

/-- Do one thing with a stack. -/
def act (stack : ScopeStack α) : Act α → Except ScopeError (Reply α) × ScopeStack α
  | .push => (.ok .done, stack.push)
  | .pop => attempt stack (stack.pop.map (.done, ·))
  | .declare name entry => attempt stack ((stack.declare name entry).map (.done, ·))
  | .lookupLocal name => attempt stack ((stack.lookupLocal name).map (.found ·, stack))
  | .lookup name => attempt stack ((stack.lookup name).map (.found ·, stack))

/-- Do one thing after the other: the answers, and what is left. -/
def runWith {σ : Type} (act : σ → Act α → Except ScopeError (Reply α) × σ) (s : σ) :
    List (Act α) → List (Except ScopeError (Reply α)) × σ
  | [] => ([], s)
  | a :: acts => ((act s a).1 :: (runWith act (act s a).2 acts).1, (runWith act (act s a).2 acts).2)

/-- The answers of a stack, and what is left of it. -/
def run (stack : ScopeStack α) (acts : List (Act α)) :
    List (Except ScopeError (Reply α)) × ScopeStack α :=
  runWith act stack acts

end ScopeStack

/-! ## Snapshots -/

/-- The bindings in force while a scope is the innermost one, and the names declared in it. -/
structure Snapshot (α : Type) where
  env : String → Option α := fun _ => none
  declared : Finset String := ∅

/-- Snapshots around each other, that of the innermost scope first. -/
structure Environments (α : Type) where
  snapshots : List (Snapshot α)

namespace Environments

open ScopeStack (Act Reply attempt runWith)

variable {α : Type}

/-- One open scope without bindings. -/
def root : Environments α := ⟨[{}]⟩

/-- A new scope starts with the bindings in force and has declared no name. -/
def push (envs : Environments α) : Environments α :=
  match envs.snapshots with
  | [] => root
  | top :: outer => ⟨{ env := top.env } :: top :: outer⟩

/-- The innermost snapshot is discarded. -/
def pop (envs : Environments α) : Except ScopeError (Environments α) :=
  match envs.snapshots with
  | [] => .error .cannotPop
  | _ :: outer => .ok ⟨outer⟩

/-- A name that the scope has not declared yet is bound from now on. -/
def declare (envs : Environments α) (name : String) (entry : α) :
    Except ScopeError (Environments α) :=
  match envs.snapshots with
  | [] => .error (.cannotDeclare name)
  | top :: outer =>
    if name ∈ top.declared then .error (.duplicate name)
    else .ok ⟨⟨Function.update top.env name (some entry), insert name top.declared⟩ :: outer⟩

/-- What is in force for a name that the scope has declared. -/
def lookupLocal (envs : Environments α) (name : String) : Except ScopeError (Option α) :=
  match envs.snapshots with
  | [] => .error (.cannotLookUp name)
  | top :: _ => .ok (if name ∈ top.declared then top.env name else none)

/-- What is in force for a name. -/
def lookup (envs : Environments α) (name : String) : Except ScopeError (Option α) :=
  match envs.snapshots with
  | [] => .error (.cannotLookUp name)
  | top :: _ => .ok (top.env name)

/-- Do one thing with environments. -/
def act (envs : Environments α) : Act α → Except ScopeError (Reply α) × Environments α
  | .push => (.ok .done, envs.push)
  | .pop => attempt envs (envs.pop.map (.done, ·))
  | .declare name entry => attempt envs ((envs.declare name entry).map (.done, ·))
  | .lookupLocal name => attempt envs ((envs.lookupLocal name).map (.found ·, envs))
  | .lookup name => attempt envs ((envs.lookup name).map (.found ·, envs))

/-- The answers of environments, and what is left of them. -/
def run (envs : Environments α) (acts : List (Act α)) :
    List (Except ScopeError (Reply α)) × Environments α :=
  runWith act envs acts

end Environments

namespace ScopeStack

variable {α : Type}

theorem run_append (stack : ScopeStack α) (acts acts' : List (Act α)) :
    (stack.run (acts ++ acts')).2 = ((stack.run acts).2.run acts').2 := by
  induction acts generalizing stack with
  | nil => rfl
  | cons a acts ih => exact ih (stack.act a).2

/-! ## The snapshots of a stack -/

/-- The snapshots of scopes around each other. -/
def snapshotsOf : List (Scope α) → List (Snapshot α)
  | [] => []
  | scope :: outer =>
    ⟨fun name => (scope :: outer).findSome? (·.find? name), scope.names.toFinset⟩ ::
      snapshotsOf outer

/-- The snapshots that a stack stands for. -/
def environments (stack : ScopeStack α) : Environments α := ⟨snapshotsOf stack.scopes⟩

theorem environments_root : (root : ScopeStack α).environments = .root :=
  rfl

theorem snapshots_eq_nil {stack : ScopeStack α} :
    stack.environments.snapshots = [] ↔ stack.scopes = [] := by
  obtain ⟨scopes⟩ := stack
  cases scopes <;> simp [environments, snapshotsOf]

end ScopeStack

/-! ## One act -/

namespace Scope

variable {α : Type} {scope : Scope α} {name : String}

theorem find?_eq_none_iff : scope.find? name = none ↔ name ∉ scope.names := by
  rw [find?, List.lookup_eq_none_iff, names, List.mem_map]
  constructor
  · rintro unbound ⟨binding, mem, rfl⟩
    exact bne_iff_ne.mp (unbound binding mem) rfl
  · exact fun absent binding mem => bne_iff_ne.mpr fun same => absent ⟨binding, mem, same.symm⟩

theorem find?_bind (free : scope.find? name = none) (entry : α) (other : String) :
    (scope.bind name entry).find? other =
      if other = name then some entry else scope.find? other := by
  rw [find?] at free
  rw [bind, find?, find?, List.lookup_append]
  split
  next same => rw [same, free, List.lookup_cons_self, Option.none_or]
  next different => simp [List.lookup_cons, beq_false_of_ne different]

theorem names_bind (scope : Scope α) (name : String) (entry : α) :
    (scope.bind name entry).names = scope.names ++ [name] :=
  List.map_append

end Scope

namespace ScopeStack

variable {α : Type} {stack : ScopeStack α} {name : String}

theorem environments_push (stack : ScopeStack α) :
    stack.push.environments = stack.environments.push := by
  obtain ⟨scopes⟩ := stack
  cases scopes <;> rfl

theorem environments_pop (stack : ScopeStack α) :
    stack.pop.map environments = stack.environments.pop := by
  obtain ⟨scopes⟩ := stack
  cases scopes <;> rfl

theorem environments_declare (stack : ScopeStack α) (name : String) (entry : α) :
    (stack.declare name entry).map environments = stack.environments.declare name entry := by
  obtain ⟨scopes⟩ := stack
  cases scopes with
  | nil => rfl
  | cons scope outer =>
    cases bound : scope.find? name with
    | some earlier =>
      have declared : name ∈ scope.names := by
        by_contra absent
        cases bound.symm.trans (Scope.find?_eq_none_iff.mpr absent)
      simp [declare, bound, environments, snapshotsOf, Environments.declare, declared, Except.map]
    | none =>
      have absent := Scope.find?_eq_none_iff.mp bound
      have env : (fun other => (scope.bind name entry :: outer).findSome? (·.find? other)) =
          Function.update (fun other => (scope :: outer).findSome? (·.find? other)) name
            (some entry) := by
        funext other
        rw [Function.update_apply, List.findSome?_cons, List.findSome?_cons, Scope.find?_bind bound]
        by_cases same : other = name <;> simp only [same, if_true, if_false]
      have names : (scope.bind name entry).names.toFinset = insert name scope.names.toFinset := by
        ext other
        rw [Finset.mem_insert, List.mem_toFinset, List.mem_toFinset, Scope.names_bind,
          List.mem_append, List.mem_singleton, or_comm]
      simp [declare, bound, environments, snapshotsOf, Environments.declare, absent, Except.map,
        env, names]

theorem environments_lookupLocal (stack : ScopeStack α) (name : String) :
    stack.lookupLocal name = stack.environments.lookupLocal name := by
  obtain ⟨scopes⟩ := stack
  cases scopes with
  | nil => rfl
  | cons scope outer =>
    cases bound : scope.find? name with
    | none =>
      have absent := Scope.find?_eq_none_iff.mp bound
      simp [lookupLocal, bound, environments, snapshotsOf, Environments.lookupLocal, absent]
    | some entry =>
      have declared : name ∈ scope.names := by
        by_contra absent
        cases bound.symm.trans (Scope.find?_eq_none_iff.mpr absent)
      simp [lookupLocal, bound, environments, snapshotsOf, Environments.lookupLocal, declared]

theorem environments_lookup (stack : ScopeStack α) (name : String) :
    stack.lookup name = stack.environments.lookup name := by
  obtain ⟨scopes⟩ := stack
  cases scopes <;> rfl

/-- A stack and its snapshots do one thing alike. -/
theorem environments_act (stack : ScopeStack α) (a : Act α) :
    (stack.act a).1 = (stack.environments.act a).1 ∧
      (stack.act a).2.environments = (stack.environments.act a).2 := by
  cases a with
  | push => exact ⟨rfl, stack.environments_push⟩
  | pop =>
    rw [act, Environments.act, ← environments_pop]
    cases stack.pop <;> exact ⟨rfl, rfl⟩
  | declare name entry =>
    rw [act, Environments.act, ← environments_declare]
    cases stack.declare name entry <;> exact ⟨rfl, rfl⟩
  | lookupLocal name =>
    rw [act, Environments.act, ← environments_lookupLocal]
    cases stack.lookupLocal name <;> exact ⟨rfl, rfl⟩
  | lookup name =>
    rw [act, Environments.act, ← environments_lookup]
    cases stack.lookup name <;> exact ⟨rfl, rfl⟩

/-- So they do anything alike. -/
theorem environments_run (stack : ScopeStack α) (acts : List (Act α)) :
    (stack.run acts).1 = (stack.environments.run acts).1 ∧
      (stack.run acts).2.environments = (stack.environments.run acts).2 := by
  induction acts generalizing stack with
  | nil => exact ⟨rfl, rfl⟩
  | cons a acts ih =>
    obtain ⟨answer, left⟩ := stack.environments_act a
    obtain ⟨answers, left'⟩ := ih (stack.act a).2
    rw [left] at answers left'
    exact ⟨congrArg₂ List.cons answer answers, left'⟩

/-! ## Refusals -/

theorem attempt_of_refused {σ : Type} {s : σ} {result : Except ScopeError (Reply α × σ)}
    {error : ScopeError} (refused : (attempt s result).1 = .error error) :
    (attempt s result).2 = s := by
  cases result with
  | error => rfl
  | ok => cases refused

/-- What is refused changes nothing. -/
theorem act_of_refused {a : Act α} {error : ScopeError} (refused : (stack.act a).1 = .error error) :
    (stack.act a).2 = stack := by
  cases a with
  | push => cases refused
  | pop | declare | lookupLocal | lookup => exact attempt_of_refused refused

/-- For want of a scope everything is refused but to open one, and nothing else is. -/
theorem act_emptiness_iff (a : Act α) :
    (∃ error, (stack.act a).1 = .error error ∧ error.isEmptiness = true) ↔
      stack.scopes = [] ∧ a ≠ .push := by
  obtain ⟨scopes⟩ := stack
  cases scopes with
  | nil => cases a <;> simp [act, attempt, pop, declare, lookupLocal, lookup, Except.map,
      ScopeError.isEmptiness]
  | cons scope outer =>
    cases a with
    | declare name entry =>
      cases bound : scope.find? name <;>
        simp [act, attempt, declare, bound, Except.map, ScopeError.isEmptiness]
    | push | pop | lookupLocal name | lookup name =>
      simp [act, attempt, pop, lookupLocal, lookup, Except.map]

/-- A declaration is refused as a second one where the scope has declared the name. -/
theorem act_duplicate_iff (name : String) (entry : α) :
    (stack.act (.declare name entry)).1 = .error (.duplicate name) ↔
      ∃ top ∈ stack.environments.snapshots.head?, name ∈ top.declared := by
  rw [(stack.environments_act _).1]
  obtain ⟨snapshots⟩ := stack.environments
  cases snapshots with
  | nil => simp [Environments.act, attempt, Environments.declare, Except.map]
  | cons top outer =>
    by_cases declared : name ∈ top.declared <;>
      simp [Environments.act, attempt, Environments.declare, declared, Except.map]

/-! ## Closing a scope -/

/-- While more scopes are open than a stack had, this stack stands below them. -/
def Above (stack stack' : ScopeStack α) : Prop :=
  ∃ inner, inner ≠ [] ∧ stack'.scopes = inner ++ stack.scopes

theorem above_push (stack : ScopeStack α) : Above stack stack.push :=
  ⟨[[]], List.cons_ne_nil _ _, rfl⟩

/-- One thing done above a stack touches the innermost scope, which is not one of the stack's. -/
theorem Above.act {stack' : ScopeStack α} (h : Above stack stack') (a : Act α)
    (opened : stack.depth < (stack'.act a).2.depth) : Above stack (stack'.act a).2 := by
  obtain ⟨inner, nonempty, same⟩ := h
  obtain ⟨scope, inner, rfl⟩ := List.exists_cons_of_ne_nil nonempty
  obtain ⟨scopes⟩ := stack'
  subst same
  cases a with
  | push => exact ⟨[] :: scope :: inner, List.cons_ne_nil _ _, rfl⟩
  | pop =>
    refine ⟨inner, ?_, rfl⟩
    rintro rfl
    exact absurd opened (Nat.lt_irrefl _)
  | declare name entry =>
    cases bound : scope.find? name with
    | some earlier =>
      refine ⟨scope :: inner, List.cons_ne_nil _ _, ?_⟩
      simp [ScopeStack.act, attempt, declare, bound, Except.map]
    | none =>
      refine ⟨scope.bind name entry :: inner, List.cons_ne_nil _ _, ?_⟩
      simp [ScopeStack.act, attempt, declare, bound, Except.map]
  | lookupLocal name => exact ⟨scope :: inner, List.cons_ne_nil _ _, rfl⟩
  | lookup name => exact ⟨scope :: inner, List.cons_ne_nil _ _, rfl⟩

/-- The acts never leave as few scopes open as the stack has. -/
def StaysAbove (stack stack' : ScopeStack α) (acts : List (Act α)) : Prop :=
  ∀ before after, acts = before ++ after → stack.depth < (stack'.run before).2.depth

theorem Above.run {stack' : ScopeStack α} {acts : List (Act α)} (h : Above stack stack')
    (stays : StaysAbove stack stack' acts) : Above stack (stack'.run acts).2 := by
  induction acts generalizing stack' with
  | nil => exact h
  | cons a acts ih =>
    refine ih (h.act a (stays [a] acts rfl)) fun before after split => ?_
    exact stays (a :: before) after (congrArg (a :: ·) split)

/-- Closing as many scopes as are open above a stack gives the stack back. -/
theorem run_pops (inner : List (Scope α)) (stack : ScopeStack α) :
    (run ⟨inner ++ stack.scopes⟩ (List.replicate inner.length .pop)).2 = stack := by
  induction inner with
  | nil => rfl
  | cons scope inner ih => exact ih

/-- Closing a scope undoes what was done in it: a scope is opened, things are done while it is open,
what they leave open is closed, and then the scope. -/
theorem run_push_pop {inner : List (Act α)} (stays : StaysAbove stack stack.push inner) :
    (stack.run (.push :: inner ++
      List.replicate ((stack.push.run inner).2.depth - stack.push.depth) .pop ++ [.pop])).2 =
        stack := by
  obtain ⟨scopes, nonempty, same⟩ := (above_push stack).run stays
  have left : (stack.push.run inner).2 = ⟨scopes ++ stack.scopes⟩ := congrArg ScopeStack.mk same
  have opened : (stack.push.run inner).2.depth - stack.push.depth + 1 = scopes.length := by
    have := List.length_pos_iff.mpr nonempty
    rw [left, depth_push, depth, depth, List.length_append]
    omega
  have before : (stack.run (.push :: inner)).2 = ⟨scopes ++ stack.scopes⟩ := left
  rw [List.append_assoc, ← List.replicate_succ', opened, run_append, before]
  exact run_pops scopes stack

/-- **Stacks of scopes are lexical environments.** From one open scope on, whatever is asked for and
whatever is refused on the way, a stack answers as the snapshots do and comes to stand for the same
snapshots. Where it stands then, a refused act changes nothing, all but opening a scope is refused
for want of a scope exactly if none is open, and a declaration as a second one exactly if the
innermost snapshot has declared the name. A scope that is opened, however it is used and whatever is
opened and closed within it, leaves no trace when it is closed. -/
theorem implements_environments (acts : List (Act α)) :
    let stack := (root.run acts).2
    let envs := (Environments.root.run acts).2
    (root.run acts).1 = (Environments.root.run acts).1 ∧ stack.environments = envs ∧
      (∀ a error, (stack.act a).1 = .error error → (stack.act a).2 = stack) ∧
      (∀ a, (∃ error, (stack.act a).1 = .error error ∧ error.isEmptiness = true) ↔
        envs.snapshots = [] ∧ a ≠ .push) ∧
      (∀ name entry, (stack.act (.declare name entry)).1 = .error (.duplicate name) ↔
        ∃ top ∈ envs.snapshots.head?, name ∈ top.declared) ∧
      ∀ inner, StaysAbove stack stack.push inner →
        (stack.run (.push :: inner ++
          List.replicate ((stack.push.run inner).2.depth - stack.push.depth) .pop ++ [.pop])).2 =
            stack := by
  intro stack envs
  obtain ⟨answers, same⟩ := root.environments_run acts
  rw [environments_root] at answers same
  refine ⟨answers, same, fun a error => act_of_refused, fun a => ?_, fun name entry => ?_,
    fun inner => run_push_pop⟩
  · rw [act_emptiness_iff, ← snapshots_eq_nil]
    exact and_congr_left fun _ => iff_of_eq (congrArg (·.snapshots = []) same)
  · rw [act_duplicate_iff]
    exact iff_of_eq (congrArg (∃ top ∈ ·.snapshots.head?, name ∈ top.declared) same)

/-- A name that is hidden and declared twice in the inner scope, then all scopes are closed and one
is opened again. -/
def reopeningActs : List (Act Nat) :=
  [.declare "x" 1, .push, .lookupLocal "x", .lookup "x", .declare "x" 2, .declare "x" 3,
    .lookup "x", .pop, .lookup "x", .pop, .pop, .lookup "x", .declare "x" 4, .push, .lookup "x",
    .declare "x" 5]

/-- A scope that is left open, and a name declared in it that the scope around it has, too. -/
def hidingActs : List (Act Nat) :=
  [.declare "y" 6, .push, .declare "x" 7, .declare "x" 8, .lookup "y"]

theorem implements_environments_of_reopeningActs :
    (root.run reopeningActs).1 =
        [.ok .done, .ok .done, .ok (.found none), .ok (.found (some 1)), .ok .done,
          .error (.duplicate "x"), .ok (.found (some 2)), .ok .done, .ok (.found (some 1)),
          .ok .done, .error .cannotPop, .error (.cannotLookUp "x"), .error (.cannotDeclare "x"),
          .ok .done, .ok (.found none), .ok .done] ∧
      (root.run reopeningActs).1 = (Environments.root.run reopeningActs).1 ∧
      ((root.run reopeningActs).2.act (.declare "x" 9)).2 = (root.run reopeningActs).2 ∧
      ((root.run reopeningActs).2.run (.push :: hidingActs ++ [.pop] ++ [.pop])).2 =
        (root.run reopeningActs).2 := by
  obtain ⟨answers, -, unchanged, -, -, restored⟩ := implements_environments reopeningActs
  have stays :
      StaysAbove (root.run reopeningActs).2 (root.run reopeningActs).2.push hidingActs := by
    intro before after split
    have short : before.length ≤ hidingActs.length := by
      rw [split, List.length_append]
      exact Nat.le_add_right ..
    have begins : hidingActs.take before.length = before := by rw [split, List.take_left]
    have all : ∀ n ≤ hidingActs.length,
        (root.run reopeningActs).2.depth <
          ((root.run reopeningActs).2.push.run (hidingActs.take n)).2.depth := by decide
    have deeper := all before.length short
    rwa [begins] at deeper
  exact ⟨by decide, answers, unchanged (.declare "x" 9) (.duplicate "x") (by decide),
    restored hidingActs stays⟩

end ScopeStack

end Minim
