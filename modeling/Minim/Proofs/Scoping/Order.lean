import Minim.Proofs.Scoping.Sites

/-!
# What a use sees

In a tree whose identifiers stand in order, the declarations that precede a use are those that come
before it in the tree: all of the scopes that branches, loops and functions open around it, and at
the top level those down to the function it stands in.
-/

namespace Minim

/-! ## Identifiers of the parts of a tree -/

mutual

theorem Expr.ordinary_sublist (e : Expr) : e.ordinary.Sublist e.idents := by
  cases e with
  | int | string | bool => exact .slnil
  | ident name => exact .refl _
  | dot pos base field =>
    cases base with
    | dot pos' base' field' =>
      exact (Expr.ordinary_sublist (.dot pos' base' field')).append (.refl _)
    | _ => exact List.nil_sublist _
  | assign pos target value =>
    exact target.ordinary_sublist.append value.ordinary_sublist
  | call pos callee argsPos args => exact (Expr.ordinaryAll_sublist args).cons_cons callee
  | unary pos op operand => exact operand.ordinary_sublist
  | binary pos left op right => exact left.ordinary_sublist.append right.ordinary_sublist

theorem Expr.ordinaryAll_sublist (es : List Expr) :
    (Expr.ordinaryAll es).Sublist (Expr.identsAll es) := by
  cases es with
  | nil => exact .slnil
  | cons e es => exact e.ordinary_sublist.append (Expr.ordinaryAll_sublist es)

end

theorem Formal.name_mem_idents (f : Formal) : f.declared.name ∈ f.idents :=
  List.mem_append_right _ (List.mem_singleton_self _)

theorem Decl.name_mem_idents (d : Decl) : d.declared.name ∈ d.idents := by
  cases d with
  | var pos type name => exact List.mem_append_right _ (List.mem_singleton_self _)
  | func pos returnType name formals bodyPos body =>
    exact List.mem_append_right _ (List.mem_cons_self ..)
  | struct pos name fieldsPos fields => exact List.mem_cons_self ..

theorem Decl.mem_identsAll {ds : List Decl} {name : Ident} :
    name ∈ Decl.identsAll ds ↔ ∃ d ∈ ds, name ∈ d.idents := by
  induction ds with
  | nil => simp [Decl.identsAll]
  | cons d ds ih => simp [Decl.identsAll, ih]

theorem Decl.name_mem_identsAll {ds : List Decl} {d : Declared}
    (mem : d ∈ ds.map Decl.declared) : d.name ∈ Decl.identsAll ds := by
  obtain ⟨d, inside, rfl⟩ := List.mem_map.mp mem
  exact Decl.mem_identsAll.mpr ⟨d, inside, d.name_mem_idents⟩

theorem Formals.name_mem_idents {fs : List Formal} {d : Declared}
    (mem : d ∈ fs.map Formal.declared) : d.name ∈ fs.flatMap Formal.idents := by
  obtain ⟨f, inside, rfl⟩ := List.mem_map.mp mem
  exact List.mem_flatMap.mpr ⟨f, inside, f.name_mem_idents⟩

/-! ## Preceding declarations -/

/-- Every declaration of a list precedes an identifier. -/
def Declared.Precede (ds : List Declared) (use : Ident) : Prop :=
  ∀ d ∈ ds, d.name.pos < use.pos

/-- The declarations in some scopes that precede an identifier are those in others. -/
def Sees (full seen : List (List Declared)) (use : Ident) : Prop :=
  full.map (·.filter (·.name.pos < use.pos)) = seen

theorem Declared.Precede.filter_eq {ds : List Declared} {use : Ident}
    (h : Declared.Precede ds use) : ds.filter (·.name.pos < use.pos) = ds :=
  List.filter_eq_self.mpr fun d mem => decide_eq_true (h d mem)

theorem Sees.cons {full seen : List (List Declared)} {ds : List Declared} {use : Ident}
    (outer : Sees full seen use) (before : Declared.Precede ds use) :
    Sees (ds :: full) (ds :: seen) use := by
  rw [Sees, List.map_cons, before.filter_eq, outer]

/-- At the top level the declarations after the one that holds a use do not count. -/
theorem Sees.top {earlier later : List Declared} {use : Ident}
    (before : Declared.Precede earlier use) (after : ∀ d ∈ later, use.pos < d.name.pos) :
    Sees [earlier ++ later] [earlier] use := by
  have hidden : later.filter (·.name.pos < use.pos) = [] := by
    rw [List.filter_eq_nil_iff]
    intro d mem precedes
    exact lt_asymm (after d mem) (of_decide_eq_true precedes)
  rw [Sees, List.map_singleton, List.filter_append, before.filter_eq, hidden, List.append_nil]

/-! ## The sites of a tree -/

theorem Expr.seen_sites {full seen : List (List Declared)} {e : Expr}
    (sees : ∀ use ∈ e.idents, Sees full seen use) :
    (e.sites full).map Site.seen = e.sites seen := by
  rw [Expr.sites, Expr.sites, List.map_map]
  refine List.map_congr_left fun use mem => ?_
  show (⟨use, _⟩ : Site) = _
  rw [sees use (e.ordinary_sublist.subset mem)]

/-- Variable declarations hold no uses. -/
theorem Decl.sitesAll_of_variables {scopes : List (List Declared)} {ds : List Decl}
    (shaped : ∀ d ∈ ds, d.kind = .varDecl) : Decl.sitesAll scopes ds = [] := by
  induction ds with
  | nil => rfl
  | cons d ds ih =>
    obtain ⟨isVariable, others⟩ := List.forall_mem_cons.mp shaped
    rw [Decl.sitesAll, ih others]
    cases d with
    | var => rfl
    | _ => cases isVariable

mutual

theorem Stmt.seen_sites {full seen : List (List Declared)} (s : Stmt) (shaped : s.Shaped)
    (ordered : Ident.InOrder s.idents) (sees : ∀ use ∈ s.idents, Sees full seen use) :
    (s.sites full).map Site.seen = s.sites seen := by
  cases s with
  | assign pos assignment => exact Expr.seen_sites sees
  | increment pos e | decrement pos e | read pos e | write pos e => exact Expr.seen_sites sees
  | call pos call => exact Expr.seen_sites sees
  | ret pos value =>
    cases value with
    | none => rfl
    | some value => exact Expr.seen_sites sees
  | ifThen pos cond body | loop pos cond body =>
    obtain ⟨-, ordered, -⟩ := List.pairwise_append.mp ordered
    obtain ⟨inCond, inBody⟩ := List.forall_mem_append.mp sees
    rw [Stmt.sites, List.map_append, Expr.seen_sites inCond,
      body.seen_sites shaped.2 ordered (fun _ _ => List.forall_mem_nil _) inBody, Stmt.sites]
  | ifElse pos cond yes no =>
    obtain ⟨-, ordered, -⟩ := List.pairwise_append.mp ordered
    obtain ⟨ordered, ordered', -⟩ := List.pairwise_append.mp ordered
    obtain ⟨inCond, inBlocks⟩ := List.forall_mem_append.mp sees
    obtain ⟨inYes, inNo⟩ := List.forall_mem_append.mp inBlocks
    rw [Stmt.sites, List.map_append, List.map_append, Expr.seen_sites inCond,
      yes.seen_sites shaped.2.1 ordered (fun _ _ => List.forall_mem_nil _) inYes,
      no.seen_sites shaped.2.2 ordered' (fun _ _ => List.forall_mem_nil _) inNo, Stmt.sites]

theorem Block.seen_sites {full seen : List (List Declared)} {formals : List Declared} (b : Block)
    (shaped : b.Shaped) (ordered : Ident.InOrder b.idents)
    (before : ∀ use ∈ b.idents, Declared.Precede formals use)
    (sees : ∀ use ∈ b.idents, Sees full seen use) :
    (b.sites formals full).map Site.seen = b.sites formals seen := by
  cases b with
  | mk declsPos decls stmtsPos stmts =>
    obtain ⟨-, ordered, apart⟩ := List.pairwise_append.mp ordered
    -- All that the block declares comes before its statements.
    have inside : ∀ use ∈ Stmt.identsAll stmts,
        Sees ((formals ++ decls.map Decl.declared) :: full)
          ((formals ++ decls.map Decl.declared) :: seen) use := by
      intro use mem
      refine (sees use (List.mem_append_right _ mem)).cons (List.forall_mem_append.mpr ⟨?_, ?_⟩)
      · exact before use (List.mem_append_right _ mem)
      · exact fun d declared => apart _ (Decl.name_mem_identsAll declared) use mem
    rw [Block.sites, Block.sites, Decl.sitesAll_of_variables shaped.1,
      Decl.sitesAll_of_variables shaped.1]
    exact Stmt.seen_sitesAll stmts shaped.2 ordered inside

theorem Stmt.seen_sitesAll {full seen : List (List Declared)} (ss : List Stmt)
    (shaped : Stmt.AllShaped ss) (ordered : Ident.InOrder (Stmt.identsAll ss))
    (sees : ∀ use ∈ Stmt.identsAll ss, Sees full seen use) :
    (Stmt.sitesAll full ss).map Site.seen = Stmt.sitesAll seen ss := by
  cases ss with
  | nil => rfl
  | cons s ss =>
    obtain ⟨ordered, ordered', -⟩ := List.pairwise_append.mp ordered
    obtain ⟨inFirst, inOthers⟩ := List.forall_mem_append.mp sees
    rw [Stmt.sitesAll, List.map_append, s.seen_sites shaped.1 ordered inFirst,
      Stmt.seen_sitesAll ss shaped.2 ordered' inOthers, Stmt.sitesAll]

end

theorem Decl.seen_sites {full seen : List (List Declared)} (d : Decl) (shaped : d.Shaped)
    (ordered : Ident.InOrder d.idents)
    (sees : ∀ use ∈ d.idents, d.declared.name.pos < use.pos → Sees full seen use) :
    (d.sites full).map Site.seen = d.sites seen := by
  cases d with
  | var => rfl
  | struct => rfl
  | func pos returnType name formals bodyPos body =>
    obtain ⟨-, ordered, -⟩ := List.pairwise_append.mp ordered
    obtain ⟨nameFirst, ordered⟩ := List.pairwise_cons.mp ordered
    obtain ⟨-, ordered, apart⟩ := List.pairwise_append.mp ordered
    refine body.seen_sites shaped ordered ?_ ?_
    · intro use mem d declared
      exact apart _ (Formals.name_mem_idents declared) use mem
    · intro use mem
      have inside := List.mem_append_right (formals.items.flatMap Formal.idents) mem
      exact sees use (List.mem_append_right _ (List.mem_cons_of_mem _ inside))
        (nameFirst use inside)

/-! ## The sites of a program -/

/-- The ordinary uses in the declarations of a scope, each with the declarations down to the one
that it stands in. -/
def Decl.sitesInTurn (earlier : List Declared) (outer : List (List Declared)) :
    List Decl → List Site
  | [] => []
  | d :: ds =>
    d.sites ((earlier ++ [d.declared]) :: outer) ++
      Decl.sitesInTurn (earlier ++ [d.declared]) outer ds

theorem Decl.sitesInTurn_of_variables {outer : List (List Declared)} {ds : List Decl}
    (shaped : ∀ d ∈ ds, d.kind = .varDecl) (earlier : List Declared) :
    Decl.sitesInTurn earlier outer ds = [] := by
  induction ds generalizing earlier with
  | nil => rfl
  | cons d ds ih =>
    obtain ⟨isVariable, others⟩ := List.forall_mem_cons.mp shaped
    rw [Decl.sitesInTurn, ih others]
    cases d with
    | var => rfl
    | _ => cases isVariable

theorem Decl.seen_sitesAll (ds : List Decl) {earlier : List Declared}
    (shaped : ∀ d ∈ ds, d.Shaped) (ordered : Ident.InOrder (Decl.identsAll ds))
    (before : ∀ use ∈ Decl.identsAll ds, Declared.Precede earlier use) :
    (Decl.sitesAll [earlier ++ ds.map Decl.declared] ds).map Site.seen =
      Decl.sitesInTurn earlier [] ds := by
  induction ds generalizing earlier with
  | nil => rfl
  | cons d ds ih =>
    obtain ⟨shaped, shaped'⟩ := List.forall_mem_cons.mp shaped
    obtain ⟨ordered, ordered', apart⟩ := List.pairwise_append.mp ordered
    obtain ⟨before, before'⟩ := List.forall_mem_append.mp before
    -- The declarations after this one stand behind every use in it.
    have regrouped : earlier ++ (d :: ds).map Decl.declared =
        (earlier ++ [d.declared]) ++ ds.map Decl.declared := by simp
    have first : (d.sites [(earlier ++ [d.declared]) ++ ds.map Decl.declared]).map Site.seen =
        d.sites [earlier ++ [d.declared]] := by
      refine d.seen_sites shaped ordered fun use mem inside => .top ?_ ?_
      · exact List.forall_mem_append.mpr ⟨before use mem, List.forall_mem_singleton.mpr inside⟩
      · exact fun other declared => apart use mem _ (Decl.name_mem_identsAll declared)
    rw [regrouped, Decl.sitesAll, List.map_append, first, ih shaped' ordered', Decl.sitesInTurn]
    intro use mem
    exact List.forall_mem_append.mpr
      ⟨before' use mem, List.forall_mem_singleton.mpr (apart _ d.name_mem_idents use mem)⟩

/-- What the uses of a program see, from left to right. -/
theorem Program.seen_sites {T : Program} (shaped : T.Shaped)
    (ordered : Ident.InOrder T.idents) :
    T.sites.map Site.seen = Decl.sitesInTurn [] [] T.decls :=
  Decl.seen_sitesAll T.decls shaped ordered fun _ _ => List.forall_mem_nil _

end Minim
