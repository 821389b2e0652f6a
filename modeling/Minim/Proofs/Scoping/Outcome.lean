import Minim.Proofs.Scoping.Agreement
import Minim.Proofs.Scoping.Order

/-!
# What becomes of the uses in a part of a tree

The analysis of a part of a tree reports faults at identifiers of that part only. So what it makes
of a use is not changed by what comes before or after it, as long as identifiers stand in order.
-/

namespace Minim

/-- What becomes of a use, given the symbols made and the faults found: it is annotated with the
symbol of what it stands for, or reported if there is nothing. -/
inductive Site.Settled (made : List Declared) (found : List Diagnostic) (site : Site) :
    Ident → Prop
  | declared {d : Declared} {i : Nat}
      (denoted : Declared.lookup site.scopes site.use.name = some d) (stands : made[i]? = some d)
      (silent : found.filter (·.pos = site.use.pos) = []) :
      Settled made found site (site.use.attach (some i))
  | undeclared (unknown : Declared.lookup site.scopes site.use.name = none)
      (reported : found.filter (·.pos = site.use.pos) =
        [Log.entry site.use.pos .undeclaredIdentifier]) :
      Settled made found site site.use

/-- What becomes of a part of a tree: which of its uses are annotated how, and which faults are
found. -/
structure Outcome (made : List Declared) (names : List Ident) (sites : List Site)
    (afters : List Ident) (found : List Diagnostic) : Prop where
  places : ∀ fault ∈ found, ∃ name ∈ names, fault.pos = name.pos
  within : ∀ site ∈ sites, site.use ∈ names
  settled : Ident.InOrder names → List.Forall₂ (Site.Settled made found) sites afters

namespace Site.Settled

variable {made : List Declared} {found : List Diagnostic} {site : Site} {after : Ident}

theorem mono (h : site.Settled made found after) (more : List Declared) :
    site.Settled (made ++ more) found after := by
  cases h with
  | declared denoted stands silent =>
    obtain ⟨small, -⟩ := List.getElem?_eq_some_iff.mp stands
    exact .declared denoted (by rwa [List.getElem?_append_left small]) silent
  | undeclared unknown reported => exact .undeclared unknown reported

/-- Only the faults at its place tell what became of a use. -/
theorem of_filter (h : site.Settled made found after) {found' : List Diagnostic}
    (same : found'.filter (·.pos = site.use.pos) = found.filter (·.pos = site.use.pos)) :
    site.Settled made found' after := by
  cases h with
  | declared denoted stands silent => exact .declared denoted stands (same.trans silent)
  | undeclared unknown reported => exact .undeclared unknown (same.trans reported)

end Site.Settled

namespace Outcome

variable {made : List Declared} {names names' : List Ident} {sites sites' : List Site}
  {afters afters' : List Ident} {found found' : List Diagnostic}

theorem mono (h : Outcome made names sites afters found) (more : List Declared) :
    Outcome (made ++ more) names sites afters found :=
  ⟨h.places, h.within, fun ordered =>
    (h.settled ordered).imp fun _ _ settled => settled.mono more⟩

/-- A part without uses. -/
theorem silent (places : ∀ fault ∈ found, ∃ name ∈ names, fault.pos = name.pos) :
    Outcome made names [] [] found :=
  ⟨places, List.forall_mem_nil _, fun _ => .nil⟩

/-- A single use. -/
theorem single {site : Site} {after : Ident} (settled : site.Settled made found after)
    (places : ∀ fault ∈ found, fault.pos = site.use.pos) :
    Outcome made [site.use] [site] [after] found :=
  ⟨fun fault mem => ⟨_, List.mem_singleton_self _, places fault mem⟩,
    List.forall_mem_singleton.mpr (List.mem_singleton_self _), fun _ => .cons settled .nil⟩

/-- No fault of a part stands where no identifier of it does. -/
theorem filter_eq_nil (h : Outcome made names sites afters found) {pos : Position}
    (apart : ∀ name ∈ names, name.pos ≠ pos) : found.filter (·.pos = pos) = [] := by
  rw [List.filter_eq_nil_iff]
  intro fault mem same
  obtain ⟨name, inside, place⟩ := h.places fault mem
  exact apart name inside (place.symm.trans (of_decide_eq_true same))

/-- Parts that stand one behind the other do not meddle with each other. -/
theorem append (h : Outcome made names sites afters found)
    (h' : Outcome made names' sites' afters' found') :
    Outcome made (names ++ names') (sites ++ sites') (afters ++ afters') (found ++ found') := by
  refine ⟨?_, ?_, ?_⟩
  · intro fault mem
    rcases List.mem_append.mp mem with mem | mem
    · obtain ⟨name, inside, place⟩ := h.places fault mem
      exact ⟨name, List.mem_append_left _ inside, place⟩
    · obtain ⟨name, inside, place⟩ := h'.places fault mem
      exact ⟨name, List.mem_append_right _ inside, place⟩
  · intro site mem
    rcases List.mem_append.mp mem with mem | mem
    · exact List.mem_append_left _ (h.within site mem)
    · exact List.mem_append_right _ (h'.within site mem)
  · intro ordered
    obtain ⟨first, second, apart⟩ := List.pairwise_append.mp ordered
    -- What is found in the one part stands where its identifiers do, so at no use of the other.
    have left : List.Forall₂ (Site.Settled made (found ++ found')) sites afters := by
      refine ((List.forall₂_and_left _ _).mpr ⟨h.within, h.settled first⟩).imp ?_
      rintro site after ⟨inside, settled⟩
      refine settled.of_filter ?_
      rw [List.filter_append, h'.filter_eq_nil fun name mem => (apart _ inside name mem).ne',
        List.append_nil]
    have right : List.Forall₂ (Site.Settled made (found ++ found')) sites' afters' := by
      refine ((List.forall₂_and_left _ _).mpr ⟨h'.within, h'.settled second⟩).imp ?_
      rintro site after ⟨inside, settled⟩
      refine settled.of_filter ?_
      rw [List.filter_append, h.filter_eq_nil fun name mem => (apart name mem _ inside).ne,
        List.nil_append]
    exact List.rel_append left right

end Outcome

end Minim
