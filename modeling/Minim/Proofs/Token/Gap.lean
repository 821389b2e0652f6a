import Minim.Token.Lexeme

/-!
# Gaps

What stands between the words of a text: blanks and comments, described by what they are made of.
The scanner skips exactly such gaps, each as far as it goes.
-/

namespace Minim.Lexeme

open Unicode

/-- Blanks and comments in front of `rest`. A comment runs through the next newline, or else to the
end of the text. -/
inductive Gap (rest : List Char) : List Char → Prop
  | nil : Gap rest []
  | blank {c : Char} {gap : List Char} (isBlank : isBlank c = true) (others : Gap rest gap) :
      Gap rest (c :: gap)
  | comment {body gap : List Char} (oneLine : '\n' ∉ body) (others : Gap rest gap) :
      Gap rest ('/' :: '/' :: (body ++ '\n' :: gap))
  | lastComment {body : List Char} (oneLine : '\n' ∉ body) (atEnd : rest = []) :
      Gap rest ('/' :: '/' :: body)

/-- The rest of a comment from inside it, with the gap that goes on after it. -/
def CommentRest (rest tail : List Char) : Prop :=
  ∃ body, '\n' ∉ body ∧ (tail = body ∧ rest = [] ∨ ∃ gap, tail = body ++ '\n' :: gap ∧ Gap rest gap)

namespace CommentRest

variable {rest tail gap : List Char}

theorem atEnd : CommentRest [] [] :=
  ⟨[], List.not_mem_nil, .inl ⟨rfl, rfl⟩⟩

theorem newline (others : Gap rest gap) : CommentRest rest ('\n' :: gap) :=
  ⟨[], List.not_mem_nil, .inr ⟨gap, rfl, others⟩⟩

theorem cons {c : Char} (inside : c ≠ '\n') (h : CommentRest rest tail) :
    CommentRest rest (c :: tail) := by
  obtain ⟨body, oneLine, ends⟩ := h
  refine ⟨c :: body, List.not_mem_cons_of_ne_of_not_mem inside.symm oneLine, ?_⟩
  rcases ends with ⟨rfl, atEnd⟩ | ⟨gap, rfl, others⟩
  · exact .inl ⟨rfl, atEnd⟩
  · exact .inr ⟨gap, rfl, others⟩

/-- Two slashes open a comment. -/
theorem toGap (h : CommentRest rest tail) : Gap rest ('/' :: '/' :: tail) := by
  obtain ⟨body, oneLine, ⟨rfl, atEnd⟩ | ⟨gap, rfl, others⟩⟩ := h
  · exact .lastComment oneLine atEnd
  · exact .comment oneLine others

end CommentRest

/-! ## What is skipped is a gap -/

/-- The characters skipped at the head of a text are a gap, or the rest of a comment and a gap. -/
theorem gap_of_skipped (inComment : Bool) (cs : List Char) :
    let skipped := cs.take (gapLength inComment cs)
    let rest := cs.drop (gapLength inComment cs)
    if inComment then CommentRest rest skipped else Gap rest skipped := by
  fun_induction gapLength inComment cs with
  | case1 inComment =>
    cases inComment with
    | true => exact .atEnd
    | false => exact .nil
  | case2 c rest ih =>
    by_cases newline : c = '\n'
    · subst newline
      exact .newline ih
    · rw [bne_iff_ne.mpr newline] at ih ⊢
      exact .cons newline ih
  | case3 rest ih => exact CommentRest.toGap ih
  | case4 c rest notComment isBlank ih => exact .blank isBlank ih
  | case5 => exact .nil

theorem gap_take (cs : List Char) :
    Gap (cs.drop (gapLength false cs)) (cs.take (gapLength false cs)) :=
  gap_of_skipped false cs

/-- No more is skipped than there is. -/
theorem gapLength_le (inComment : Bool) (cs : List Char) :
    gapLength inComment cs ≤ cs.length := by
  fun_induction gapLength inComment cs <;> simp only [List.length_cons, List.length_nil] <;> omega

/-- Where a gap was skipped there is no more of it. -/
theorem gapLength_drop (inComment : Bool) (cs : List Char) :
    gapLength false (cs.drop (gapLength inComment cs)) = 0 := by
  fun_induction gapLength inComment cs with
  | case1 => rfl
  | case2 c rest ih => exact ih
  | case3 rest ih => exact ih
  | case4 c rest notComment isBlank ih => exact ih
  | case5 c rest notComment notBlank =>
    rw [List.drop_zero, gapLength, if_neg notBlank]
    exact notComment

/-! ## A gap is skipped -/

theorem gapLength_comment {body : List Char} (oneLine : '\n' ∉ body) (cs : List Char) :
    gapLength true (body ++ '\n' :: cs) = body.length + (gapLength false cs + 1) := by
  induction body with
  | nil => rw [List.nil_append, gapLength, List.length_nil, Nat.zero_add]; rfl
  | cons c body ih =>
    obtain ⟨here, others⟩ := not_or.mp (mt List.mem_cons.mpr oneLine)
    rw [List.cons_append, gapLength, bne_iff_ne.mpr (Ne.symm here), ih others, List.length_cons]
    omega

theorem gapLength_lastComment {body : List Char} (oneLine : '\n' ∉ body) :
    gapLength true body = body.length := by
  induction body with
  | nil => rfl
  | cons c body ih =>
    obtain ⟨here, others⟩ := not_or.mp (mt List.mem_cons.mpr oneLine)
    rw [gapLength, bne_iff_ne.mpr (Ne.symm here), ih others, List.length_cons]

/-- A gap is skipped to its end, where what follows does not go on with it. -/
theorem gapLength_append {gap rest : List Char} (h : Gap rest gap)
    (stops : gapLength false rest = 0) : gapLength false (gap ++ rest) = gap.length := by
  induction h with
  | nil => exact stops
  | blank isBlank others ih =>
    rename_i c gap
    rw [List.cons_append, gapLength, if_pos isBlank, ih, List.length_cons]
    rintro r rfl
    exact absurd isBlank (by decide)
  | comment oneLine others ih =>
    rename_i body gap
    rw [List.cons_append, List.cons_append, List.append_assoc, List.cons_append, gapLength,
      gapLength_comment oneLine, ih]
    simp
  | lastComment oneLine atEnd =>
    subst atEnd
    rw [List.append_nil, gapLength, gapLength_lastComment oneLine]
    rfl

/-- A text goes on with no gap where it begins with no blank and with no two slashes. -/
theorem gapLength_eq_zero {c : Char} {rest : List Char} (notBlank : isBlank c = false)
    (notComment : c ≠ '/' ∨ rest.head? ≠ some '/') : gapLength false (c :: rest) = 0 := by
  rw [gapLength, if_neg (by rw [notBlank]; exact Bool.false_ne_true)]
  rintro tail rfl rfl
  rcases notComment with notSlash | notSlashes
  · exact notSlash rfl
  · exact notSlashes rfl

end Minim.Lexeme
