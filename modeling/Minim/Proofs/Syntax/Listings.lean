import Minim.Text.Decimal

/-!
# Indented listings

A listing shows a tree by indentation: below a line stand the lines that follow it as long as they
are deeper. If no line begins with a blank of its own, what is listed can be read off the text
again, by whatever steps the lines are indented (`Lists.readText_eq`).
-/

namespace Minim.Listing

/-- A line without its indentation, and what is listed below it. -/
inductive Entry
  | mk (title : String) (below : List Entry)

/-! ## Reading -/

/-- The number of blanks in front of a line. -/
def depth (line : String) : Nat := (line.toList.takeWhile (· == ' ')).length

/-- A line without the blanks in front of it. -/
def title (line : String) : String := String.ofList (line.toList.dropWhile (· == ' '))

/-- What some lines list. -/
def read : List String → List Entry
  | [] => []
  | line :: rest =>
    .mk (title line) (read (rest.takeWhile fun next => depth line < depth next)) ::
      read (rest.dropWhile fun next => depth line < depth next)
termination_by lines => lines.length
decreasing_by
  · exact Nat.lt_succ_of_le (List.takeWhile_sublist _).length_le
  · exact Nat.lt_succ_of_le (List.dropWhile_sublist _).length_le

/-- The lines of a text. -/
def linesOf (text : String) : List String := (text.toList.splitOn '\n').map String.ofList

theorem linesOf_intercalate {lines : List String} (oneLine : ∀ line ∈ lines, '\n' ∉ line.toList)
    (some : lines ≠ []) : linesOf ("\n".intercalate lines) = lines := by
  have newline : "\n".toList = ['\n'] := rfl
  have texts : lines.map String.toList ≠ [] := mt List.map_eq_nil_iff.mp some
  rw [linesOf, String.toList_intercalate, newline,
    List.splitOn_intercalate '\n' (List.forall_mem_map.mpr oneLine) texts, List.map_map]
  simp only [Function.comp_def, String.ofList_toList, List.map_id']

/-- What a text lists. -/
def readText (text : String) : List Entry := read (linesOf text)

/-! ## Writing -/

/-- What can stand in a line behind its indentation. -/
structure IsTitle (text : String) : Prop where
  flush : text.toList.head? ≠ some ' '
  oneLine : '\n' ∉ text.toList

theorem IsTitle.append {text text' : String} (h : IsTitle text) (h' : IsTitle text') :
    IsTitle (text ++ text') where
  flush := by
    rw [String.toList_append, List.head?_append]
    have flush := h.flush
    cases first : text.toList.head? with
    | none => exact h'.flush
    | some c => rwa [first] at flush
  oneLine := by
    rw [String.toList_append, List.mem_append, not_or]
    exact ⟨h.oneLine, h'.oneLine⟩

/-- Lines that list some entries at a given depth. What is below an entry is deeper, by any step. -/
inductive Lists : Nat → List Entry → List String → Prop
  | nil {d : Nat} : Lists d [] []
  | cons {d deeper : Nat} {title : String} {below entries : List Entry}
      {lines rest : List String} (isTitle : IsTitle title) (step : d < deeper)
      (inner : Lists deeper below lines) (outer : Lists d entries rest) :
      Lists d (.mk title below :: entries) ((Text.spaces d ++ title) :: (lines ++ rest))

variable {d : Nat} {text : String} {entries entries' : List Entry} {lines lines' : List String}

/-- The elements with a property end where one does not have it. -/
theorem span_of_stop {α : Type} {p : α → Bool} {xs ys : List α} (all : ∀ x ∈ xs, p x = true)
    (stop : ∀ y, ys.head? = some y → p y = false) :
    (xs ++ ys).takeWhile p = xs ∧ (xs ++ ys).dropWhile p = ys := by
  rw [List.takeWhile_append_of_pos all, List.dropWhile_append_of_pos all]
  cases ys with
  | nil => exact ⟨List.append_nil xs, rfl⟩
  | cons y ys =>
    rw [List.takeWhile_cons, List.dropWhile_cons, stop y rfl]
    exact ⟨List.append_nil xs, rfl⟩

theorem span_line (h : IsTitle text) :
    (Text.spaces d ++ text).toList.takeWhile (· == ' ') = List.replicate d ' ' ∧
      (Text.spaces d ++ text).toList.dropWhile (· == ' ') = text.toList := by
  rw [String.toList_append, Text.spaces, String.toList_ofList, Int.toNat_natCast]
  refine span_of_stop (fun c mem => ?_) fun c first => ?_
  · rw [List.eq_of_mem_replicate mem, beq_self_eq_true]
  · exact beq_false_of_ne fun same => h.flush (same ▸ first)

theorem depth_line (h : IsTitle text) : depth (Text.spaces d ++ text) = d := by
  rw [depth, (span_line h).1, List.length_replicate]

theorem title_line (h : IsTitle text) : title (Text.spaces d ++ text) = text := by
  rw [title, (span_line h).2, String.ofList_toList]

namespace Lists

theorem append (h : Lists d entries lines) (h' : Lists d entries' lines') :
    Lists d (entries ++ entries') (lines ++ lines') := by
  induction h with
  | nil => exact h'
  | cons isTitle step inner _ _ ih =>
    rw [List.cons_append, List.cons_append, List.append_assoc]
    exact .cons isTitle step inner (ih h')

theorem depth_head (h : Lists d entries lines) {line : String} (first : lines.head? = some line) :
    depth line = d := by
  cases h with
  | nil => cases first
  | cons isTitle =>
    cases first
    exact depth_line isTitle

theorem le_depth (h : Lists d entries lines) : ∀ line ∈ lines, d ≤ depth line := by
  induction h with
  | nil => exact List.forall_mem_nil _
  | cons isTitle step _ _ innerDepth outerDepth =>
    rw [List.forall_mem_cons, List.forall_mem_append]
    refine ⟨Nat.le_of_eq (depth_line isTitle).symm, fun line mem => ?_, outerDepth⟩
    exact Nat.le_trans (Nat.le_of_lt step) (innerDepth line mem)

theorem oneLine (h : Lists d entries lines) : ∀ line ∈ lines, '\n' ∉ line.toList := by
  induction h with
  | nil => exact List.forall_mem_nil _
  | cons isTitle _ _ _ innerLines outerLines =>
    rw [List.forall_mem_cons, List.forall_mem_append]
    refine ⟨?_, innerLines, outerLines⟩
    rw [String.toList_append, List.mem_append, not_or, Text.spaces, String.toList_ofList]
    exact ⟨fun mem => absurd (List.eq_of_mem_replicate mem) (by decide), isTitle.oneLine⟩

/-- The lines of some entries are read as these entries. -/
theorem read_eq (h : Lists d entries lines) : read lines = entries := by
  induction h with
  | nil => rw [read]
  | @cons d deeper title below entries lines rest isTitle step inner outer readInner readOuter =>
    -- the lines below the first one end where the first line of the next entry is no deeper
    have deep : ∀ line ∈ lines, decide (d < depth line) = true := fun line mem =>
      decide_eq_true (Nat.lt_of_lt_of_le step (inner.le_depth line mem))
    have stop : ∀ line, rest.head? = some line → decide (d < depth line) = false := fun _ first =>
      decide_eq_false (Nat.not_lt.mpr (Nat.le_of_eq (outer.depth_head first)))
    obtain ⟨taken, dropped⟩ := span_of_stop deep stop
    rw [read, depth_line isTitle, title_line isTitle, taken, dropped, readInner, readOuter]

/-- A listing is read as the entries that it lists. -/
theorem readText_eq (h : Lists d entries lines) (some : lines ≠ []) :
    readText ("\n".intercalate lines) = entries := by
  rw [readText, linesOf_intercalate h.oneLine some, h.read_eq]

end Lists

end Minim.Listing
