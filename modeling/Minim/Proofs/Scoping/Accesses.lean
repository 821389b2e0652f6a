import Minim.Proofs.Resolution.Frames
import Minim.Proofs.Scoping.Clean

/-!
# One dot access

The base of an innermost dot access is looked up in the innermost scope alone, and it has to be
declared there first as a variable of a struct. The field is looked up in the fields of what the
name of that struct stands for where the access stands, which need not be what it stood for where
the variable was declared. A struct that made a symbol has a table that binds each name among its
fields to the symbol of the first field that gives it.
-/

namespace Minim

open Resolution

variable {made : List Declared} {scopes : List (List Declared)} {s s' : State} {decls : List Decl}

/-! ## Accesses -/

/-- An innermost dot access with the declarations before it in the scopes around it, from inside
out. -/
structure Access where
  base : Ident
  field : Ident
  scopes : List (List Declared)

/-- The access that is mentioned. -/
def Mention.access? (m : Mention) : Option Access :=
  match m.reference with
  | .access base field => some ⟨base, field, m.scopes⟩
  | _ => none

/-- The innermost dot accesses in a program from left to right. -/
def Program.accesses (T : Program) : List Access := T.mentions.filterMap Mention.access?

/-- The innermost scope has the base first as a variable of a struct. -/
def Access.HasBase (a : Access) (d : Declared) (structName : String) : Prop :=
  ∃ scope outer, a.scopes = scope :: outer ∧ scope.find? (·.Gives a.base.name) = some d ∧
    d.meaning = some (.structVar structName)

/-- A declaration is that of a struct with some fields. -/
def Declared.DefinedBy (decls : List Decl) (d : Declared) (fields : List Declared) : Prop :=
  ∃ pos name fieldsPos members, Decl.struct pos name fieldsPos members ∈ decls ∧
    d = (Decl.struct pos name fieldsPos members).declared ∧ fields = members.map Decl.declared

/-- What becomes of an access, given what identifiers are annotated with and where which faults are
found. -/
inductive Access.Treated (decls : List Decl) (annotates : Ident → Declared → Prop)
    (faults : Position → List Diagnostic) (a : Access) : Access → Prop
  | noBase {around : List (List Declared)} (none : ∀ d structName, ¬ a.HasBase d structName)
      (atBase : faults a.base.pos = [Log.entry a.base.pos .dotAccessNonStruct])
      (atField : faults a.field.pos = []) :
      Treated decls annotates faults a ⟨a.base, a.field, around⟩
  | field {around : List (List Declared)} {d struct d' : Declared} {structName : String}
      {fields : List Declared} (place place' : Nat) (hasBase : a.HasBase d structName)
      (base : annotates (a.base.attach (some place)) d)
      (visible : Declared.lookup a.scopes structName = some struct)
      (defined : struct.DefinedBy decls fields)
      (found : fields.find? (·.Gives a.field.name) = some d')
      (field : annotates (a.field.attach (some place')) d')
      (atBase : faults a.base.pos = []) (atField : faults a.field.pos = []) :
      Treated decls annotates faults a
        ⟨a.base.attach (some place), a.field.attach (some place'), around⟩
  | noField {around : List (List Declared)} {d struct : Declared} {structName : String}
      {fields : List Declared} (place : Nat) (hasBase : a.HasBase d structName)
      (base : annotates (a.base.attach (some place)) d)
      (visible : Declared.lookup a.scopes structName = some struct)
      (defined : struct.DefinedBy decls fields)
      (none : fields.find? (·.Gives a.field.name) = none) (atBase : faults a.base.pos = [])
      (atField : faults a.field.pos = [Log.entry a.field.pos .invalidFieldName]) :
      Treated decls annotates faults a ⟨a.base.attach (some place), a.field, around⟩
  /-- The field is passed over, for the name of the struct stands for no struct there. -/
  | hidden {around : List (List Declared)} {d : Declared} {structName : String} (place : Nat)
      (hasBase : a.HasBase d structName) (base : annotates (a.base.attach (some place)) d)
      (noStruct : ∀ struct, Declared.lookup a.scopes structName = some struct → ¬ struct.IsStruct)
      (atBase : faults a.base.pos = []) (atField : faults a.field.pos = []) :
      Treated decls annotates faults a ⟨a.base.attach (some place), a.field, around⟩

/-- Of the faults only those at the base and at the field matter. -/
theorem Access.Treated.imp {a after : Access} {annotates annotates' : Ident → Declared → Prop}
    {faults faults' : Position → List Diagnostic} (h : a.Treated decls annotates faults after)
    (wider : ∀ name d, annotates name d → annotates' name d)
    (sameAtBase : faults' a.base.pos = faults a.base.pos)
    (sameAtField : faults' a.field.pos = faults a.field.pos) :
    a.Treated decls annotates' faults' after := by
  cases h with
  | noBase none atBase atField =>
    exact .noBase none (sameAtBase.trans atBase) (sameAtField.trans atField)
  | field place place' hasBase base visible defined found field atBase atField =>
    exact .field place place' hasBase (wider _ _ base) visible defined found (wider _ _ field)
      (sameAtBase.trans atBase) (sameAtField.trans atField)
  | noField place hasBase base visible defined none atBase atField =>
    exact .noField place hasBase (wider _ _ base) visible defined none (sameAtBase.trans atBase)
      (sameAtField.trans atField)
  | hidden place hasBase base noStruct atBase atField =>
    exact .hidden place hasBase (wider _ _ base) noStruct (sameAtBase.trans atBase)
      (sameAtField.trans atField)

/-! ## Tables of structs -/

/-- A state agrees with the source, and the tables of structs bind their fields. -/
structure Resolution.State.Knows (decls : List Decl) (made : List Declared)
    (scopes : List (List Declared)) (s : State) : Prop where
  agrees : s.Agrees made scopes
  structs : ∀ i d, made[i]? = some d → d.IsStruct → ∃ fields scope, d.DefinedBy decls fields ∧
    s.store.fields? ⟨i⟩ = some ⟨[scope]⟩ ∧ scope.Binds made fields

namespace Resolution.State.Knows

variable (h : s.Knows decls made scopes)
include h

theorem logged (found : List Diagnostic) : (s.logged found).Knows decls made scopes :=
  ⟨h.agrees.logged found, h.structs⟩

/-- The base of an access is annotated with the symbol of its declaration, or it is reported. -/
theorem useBase (base field : Ident) :
    (∃ d structName place, Access.HasBase ⟨base, field, scopes⟩ d structName ∧
        made[place]? = some d ∧
        Resolution.useBase base s = ((base.attach (some place), some structName), s)) ∨
      ((∀ d structName, ¬ Access.HasBase ⟨base, field, scopes⟩ d structName) ∧
        Resolution.useBase base s =
          ((base, none), s.logged [Log.entry base.pos .dotAccessNonStruct])) := by
  obtain ⟨ds, outer, rfl⟩ := List.exists_cons_of_ne_nil h.agrees.opened
  rcases h.agrees.useBase_run base with
    ⟨d, structName, place, found, means, stands, run⟩ | ⟨noVariable, run⟩
  · exact .inl ⟨d, structName, place, ⟨ds, outer, rfl, found, means⟩, stands, run⟩
  · refine .inr ⟨?_, run⟩
    rintro d structName ⟨_, _, same, found, means⟩
    obtain ⟨rfl, rfl⟩ := List.cons.inj same
    exact noVariable d structName found means

/-- A field is annotated with the symbol of the first field of its name, or it is reported, if the
name of the struct stands for a struct. -/
theorem useField (structName : String) (field : Ident) :
    (∃ struct fields, Declared.lookup scopes structName = some struct ∧
        struct.DefinedBy decls fields ∧
        ((∃ d place, fields.find? (·.Gives field.name) = some d ∧ made[place]? = some d ∧
            Resolution.useField structName field s = (field.attach (some place), s)) ∨
          (fields.find? (·.Gives field.name) = none ∧ Resolution.useField structName field s =
            (field, s.logged [Log.entry field.pos .invalidFieldName])))) ∨
      ((∀ struct, Declared.lookup scopes structName = some struct → ¬ struct.IsStruct) ∧
        Resolution.useField structName field s = (field, s)) := by
  obtain ⟨id, looked, stands⟩ := h.agrees.lookup structName
  rw [Resolution.useField, unlessFailed_of_running h.agrees.stores.running]
  simp only [looked]
  generalize Declared.lookup scopes structName = struct at stands
  cases stands with
  | none =>
    refine .inr ⟨fun struct visible => ?_, rfl⟩
    cases visible
  | @some id struct stands =>
    have isStruct_iff := h.agrees.stores.fields?_isSome_iff stands
    rw [Option.bind_some]
    cases known : s.store.fields? id with
    | none =>
      rw [known] at isStruct_iff
      refine .inr ⟨?_, rfl⟩
      rintro _ ⟨⟩ isStruct
      exact absurd (isStruct_iff.mpr isStruct) Bool.false_ne_true
    | some table =>
      rw [known] at isStruct_iff
      obtain ⟨fields, scope, defined, known', binds⟩ :=
        h.structs id.number struct stands (isStruct_iff.mp rfl)
      obtain rfl : ⟨[scope]⟩ = table := Option.some.inj (known'.symm.trans known)
      refine .inl ⟨struct, fields, rfl, defined, ?_⟩
      have found : (⟨[scope]⟩ : Table).lookupLocal field.name = .ok (scope.find? field.name) := rfl
      have bound := binds field.name
      simp only [found]
      generalize fields.find? (·.Gives field.name) = d at bound
      generalize scope.find? field.name = id' at bound
      cases bound with
      | none => exact .inr ⟨rfl, rfl⟩
      | @some id' d bound =>
        have index := congrArg field.attach (h.agrees.stores.index? bound)
        exact .inl ⟨d, id'.number, rfl, bound, congrArg (·, s) index⟩

end Resolution.State.Knows

end Minim
