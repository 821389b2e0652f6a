import Minim.Text.Decimal

/-!
Scopes: names bound to entries, in a stack whose innermost scope comes first. A name may be bound
again in an inner scope, which hides the outer binding, but not twice in one scope. Each scope keeps
its bindings in the order in which they were made.
-/

namespace Minim

/-- The bindings of one scope in the order in which they were made. -/
abbrev Scope (α : Type) := List (String × α)

/-- Scopes around each other, the innermost one first. -/
structure ScopeStack (α : Type) where
  scopes : List (Scope α)
  deriving Repr

/-- Why a stack of scopes refuses an operation. -/
inductive ScopeError
  | cannotPop
  | cannotDeclare (name : String)
  | cannotLookUp (name : String)
  | duplicate (name : String)
  deriving DecidableEq, Repr

/-- The wording of a refusal. -/
def ScopeError.message : ScopeError → String
  | cannotPop => "Cannot pop scope: symbol table has no scopes"
  | cannotDeclare name => "Cannot declare '" ++ name ++ "': symbol table has no scopes"
  | cannotLookUp name => "Cannot look up '" ++ name ++ "': symbol table has no scopes"
  | duplicate name => "'" ++ name ++ "' already declared in this scope"

/-- Whether the refusal is for want of any scope. -/
def ScopeError.isEmptiness : ScopeError → Bool
  | duplicate _ => false
  | _ => true

namespace Scope

variable {α : Type}

/-- The entry bound to a name. -/
def find? (scope : Scope α) (name : String) : Option α :=
  List.lookup name scope

/-- The scope with one more binding at its end. -/
def bind (scope : Scope α) (name : String) (entry : α) : Scope α :=
  scope ++ [(name, entry)]

/-- The names bound, in order. -/
def names (scope : Scope α) : List String := scope.map (·.1)

end Scope

namespace ScopeStack

variable {α : Type}

/-- One open scope without bindings. -/
def root : ScopeStack α := ⟨[[]]⟩

instance : Inhabited (ScopeStack α) := ⟨root⟩

/-- The number of open scopes. -/
def depth (stack : ScopeStack α) : Nat := stack.scopes.length

/-- Open a new innermost scope. -/
def push (stack : ScopeStack α) : ScopeStack α := ⟨[] :: stack.scopes⟩

/-- Close the innermost scope. -/
def pop (stack : ScopeStack α) : Except ScopeError (ScopeStack α) :=
  match stack.scopes with
  | [] => .error .cannotPop
  | _ :: outer => .ok ⟨outer⟩

/-- Bind a name in the innermost scope. -/
def declare (stack : ScopeStack α) (name : String) (entry : α) :
    Except ScopeError (ScopeStack α) :=
  match stack.scopes with
  | [] => .error (.cannotDeclare name)
  | scope :: outer =>
    match scope.find? name with
    | some _ => .error (.duplicate name)
    | none => .ok ⟨scope.bind name entry :: outer⟩

/-- What a name is bound to in the innermost scope. -/
def lookupLocal (stack : ScopeStack α) (name : String) : Except ScopeError (Option α) :=
  match stack.scopes with
  | [] => .error (.cannotLookUp name)
  | scope :: _ => .ok (scope.find? name)

/-- What a name is bound to in the innermost scope that binds it. -/
def lookup (stack : ScopeStack α) (name : String) : Except ScopeError (Option α) :=
  match stack.scopes with
  | [] => .error (.cannotLookUp name)
  | scopes => .ok (scopes.findSome? (·.find? name))

/-! ## Text -/

/-- The line of one scope. -/
def scopeText (entryText : α → String) (level : Nat) (scope : Scope α) : String :=
  "scope " ++ Text.decimalNat level ++ ": \x7b" ++
    ", ".intercalate (scope.map fun (name, entry) => name ++ ": " ++ entryText entry) ++ "\x7d"

/-- The lines of scopes around each other; the outermost one has level zero. -/
def scopeLines (entryText : α → String) : List (Scope α) → List String
  | [] => []
  | scope :: outer => scopeText entryText outer.length scope :: scopeLines entryText outer

/-- The scopes, the innermost one first. -/
def text (entryText : α → String) (stack : ScopeStack α) : String :=
  "\n".intercalate (scopeLines entryText stack.scopes)

/-! ## Refusals -/

@[simp] theorem depth_root : (root : ScopeStack α).depth = 1 := rfl

@[simp] theorem depth_push (stack : ScopeStack α) : stack.push.depth = stack.depth + 1 := rfl

@[simp] theorem pop_push (stack : ScopeStack α) : stack.push.pop = .ok stack := rfl

/-- Closing a scope is refused only where none is open. -/
theorem pop_eq_error_iff (stack : ScopeStack α) (error : ScopeError) :
    stack.pop = .error error ↔ stack.scopes = [] ∧ error = .cannotPop := by
  cases h : stack.scopes with
  | nil => simp only [pop, h, true_and, Except.error.injEq]; exact eq_comm
  | cons _ _ => simp [pop, h]

/-- Looking up is refused only where no scope is open. -/
theorem lookup_eq_error_iff (stack : ScopeStack α) (name : String) (error : ScopeError) :
    stack.lookup name = .error error ↔ stack.scopes = [] ∧ error = .cannotLookUp name := by
  cases h : stack.scopes with
  | nil => simp only [lookup, h, true_and, Except.error.injEq]; exact eq_comm
  | cons _ _ => simp [lookup, h]

end ScopeStack

end Minim
