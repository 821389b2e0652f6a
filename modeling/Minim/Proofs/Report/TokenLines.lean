import Minim.Report

/-!
# The lines about tokens

What is listed of the tokens of a text is a line with their number, a line for each of the first
fifty, and a line with the number of the others, if there are any. No more lines than these come of
it, for what is shown of a token has no line break in it.
-/

namespace Minim

/-! ## Line breaks -/

namespace Text

theorem newline_notMem_toDigits {base : Nat} (large : 1 < base) (n : Nat) :
    '\n' ∉ Nat.toDigits base n := by
  have digit (d : Nat) : '\n' ∉ [d.digitChar] := fun mem =>
    Nat.digitChar_ne '\n' (by decide) (List.mem_singleton.mp mem).symm
  induction n using Nat.strongRecOn with
  | ind n ih =>
    rcases Nat.lt_or_ge n base with small | more
    · rw [Nat.toDigits_of_lt_base small]
      exact digit n
    · rw [Nat.toDigits_of_base_le large more, List.mem_append, not_or]
      exact ⟨ih _ (Nat.div_lt_self (by omega) large), digit _⟩

theorem newline_notMem_decimalNat (n : Nat) : '\n' ∉ (decimalNat n).toList := by
  rw [decimalNat, String.toList_ofList]
  exact newline_notMem_toDigits (by decide) n

theorem newline_notMem_decimal (n : Int) : '\n' ∉ (decimal n).toList := by
  rw [decimal]
  split
  · simpa using newline_notMem_decimalNat n.natAbs
  · exact newline_notMem_decimalNat n.natAbs

theorem newline_notMem_hex (width n : Nat) : '\n' ∉ hex width n := by
  rw [hex, List.mem_append, List.mem_replicate, not_or]
  exact ⟨fun zero => absurd zero.right (by decide), newline_notMem_toDigits (by decide) n⟩

theorem newline_notMem_quotedChar {quote : Char} (other : quote ≠ '\n') (c : Char) :
    '\n' ∉ quotedChar quote c := by
  by_cases newline : c = '\n'
  · subst newline
    simp [quotedChar, other.symm]
  · have different : '\n' ≠ c := Ne.symm newline
    have digits (width : Nat) := newline_notMem_hex width c.toNat
    rw [quotedChar]
    repeat' split
    all_goals simp [different, digits]

/-- A line break is shown as a letter behind a backslash. -/
theorem newline_notMem_quoted (text : String) : '\n' ∉ (quoted text).toList := by
  have other : delimiter text.toList ≠ '\n' := by
    rw [delimiter]
    split <;> decide
  have inside : '\n' ∉ text.toList.flatMap (quotedChar (delimiter text.toList)) := by
    simpa using fun c _ => newline_notMem_quotedChar other c
  simp [quoted, quotedChars, inside, other.symm]

end Text

namespace Report

/-! ## Lines -/

/-- Lines one after the other, each of them ended. -/
def linesText (lines : List String) : String := String.join (lines.map (· ++ "\n"))

/-- What is shown of a token: its kind, its value and its position. -/
def tokenText (token : Token) : String :=
  "Token(" ++ token.kind.name ++ ", " ++ token.value.describe ++ ", " ++
    Text.decimal token.pos.line ++ ":" ++ Text.decimal token.pos.column ++ ")"

/-- The line of the token with a number. -/
def numberedLine (index : Nat) (token : Token) : String :=
  "  " ++ Text.padLeft 3 (toString index) ++ ": " ++ tokenText token

/-- The line about the tokens that are not shown, if there are any. -/
def restLines (tokens : List Token) : List String :=
  if 50 < tokens.length then ["  ... and " ++ toString (tokens.length - 50) ++ " more"] else []

/-- The lines about tokens. -/
def tokenLines (tokens : List Token) : List String :=
  ("Tokens (" ++ toString tokens.length ++ "):") ::
    ((tokens.take 50).mapIdx numberedLine ++ restLines tokens)

@[simp] theorem linesText_nil : linesText [] = "" := rfl

theorem linesText_cons (line : String) (lines : List String) :
    linesText (line :: lines) = line ++ "\n" ++ linesText lines :=
  String.join_cons

theorem linesText_append (lines more : List String) :
    linesText (lines ++ more) = linesText lines ++ linesText more := by
  rw [linesText, List.map_append, String.join_append]
  rfl

theorem tokenLine_eq (index : Nat) (token : Token) :
    tokenLine index token = numberedLine index token ++ "\n" := by
  rw [tokenLine, Text.decimalNat_eq_toString]
  rfl

theorem join_tokenLine (tokens : List Token) :
    String.join (tokens.mapIdx tokenLine) = linesText (tokens.mapIdx numberedLine) := by
  rw [linesText, List.mapIdx_eq_zipIdx_map, List.mapIdx_eq_zipIdx_map, List.map_map]
  exact congrArg String.join (List.map_congr_left fun _ _ => tokenLine_eq _ _)

theorem tokenSection_eq (tokens : List Token) :
    tokenSection tokens = linesText (tokenLines tokens) := by
  rw [tokenSection, join_tokenLine, tokenLines, linesText_cons, linesText_append, restLines]
  simp only [Text.decimalNat_eq_toString, listedTokens]
  split <;> simp [linesText, String.append_assoc]

/-! ## What is listed -/

/-- Lines list tokens: the first one counts them, each of the first fifty has a line with its
number, and the last one counts the others, if there are any. -/
structure Lists (tokens : List Token) (lines : List String) : Prop where
  length : lines.length = 1 + min 50 tokens.length + if 50 < tokens.length then 1 else 0
  heading : lines[0]? = some ("Tokens (" ++ toString tokens.length ++ "):")
  shown : ∀ index token, index < 50 → tokens[index]? = some token →
    lines[index + 1]? = some (numberedLine index token)
  others : 50 < tokens.length →
    lines.getLast? = some ("  ... and " ++ toString (tokens.length - 50) ++ " more")
  plain : ∀ line ∈ lines, '\n' ∉ line.toList

/-- What is shown of a token is shown on one line. -/
theorem newline_notMem_tokenText (token : Token) : '\n' ∉ (tokenText token).toList := by
  have kind : '\n' ∉ token.kind.name.toList := by cases token.kind <;> decide
  have value : '\n' ∉ token.value.describe.toList := by
    cases token.value with
    | none => decide
    | text written => exact Text.newline_notMem_quoted written
    | number n => exact Text.newline_notMem_decimal n
  simp [tokenText, kind, value, Text.newline_notMem_decimal]

theorem newline_notMem_tokenLines (tokens : List Token) :
    ∀ line ∈ tokenLines tokens, '\n' ∉ line.toList := by
  have number (n : Nat) : '\n' ∉ Nat.toDigits 10 n := Text.newline_notMem_toDigits (by decide) n
  have rest : ∀ line ∈ restLines tokens, '\n' ∉ line.toList := by
    rw [restLines]
    split <;> simp [number]
  rw [tokenLines, List.forall_mem_cons, List.forall_mem_append]
  refine ⟨by simp [number], fun line mem => ?_, rest⟩
  obtain ⟨index, small, rfl⟩ := List.mem_mapIdx.mp mem
  simp [numberedLine, Text.padLeft, number, newline_notMem_tokenText]

theorem lists_tokenLines (tokens : List Token) : Lists tokens (tokenLines tokens) where
  length := by
    rw [tokenLines, restLines]
    split <;> simp <;> omega
  heading := rfl
  shown index token small at_ := by
    have inside : index < ((tokens.take 50).mapIdx numberedLine).length := by
      rw [List.length_mapIdx, List.length_take]
      exact Nat.lt_min.mpr ⟨small, (List.getElem?_eq_some_iff.mp at_).1⟩
    rw [tokenLines, List.getElem?_cons_succ, List.getElem?_append_left inside,
      List.getElem?_mapIdx, List.getElem?_take_of_lt small, at_]
    rfl
  others more := by
    rw [tokenLines, restLines, if_pos more, ← List.cons_append, List.getLast?_concat]
  plain := newline_notMem_tokenLines tokens

end Report

end Minim
