import Minim.Syntax.Parser.Basic

/-!
# Runs of parsers

A parser that succeeds has read some tokens off the front of the stream (`TokenStream.Reads`), and
what a sequence of parsers reads is what its parts read, one after the other. The equations below
run a parser a step at a time; those named `_eq_ok` say what a successful step must have done.
-/

namespace Minim

namespace TokenStream

/-! ## Reading -/

/-- The stream `t` is the stream `s` after the tokens `u` have been read. -/
structure Reads (s : TokenStream) (u : List Token) (t : TokenStream) : Prop where
  rest : s.rest = u ++ t.rest
  pos : t.pos = s.pos + u.length
  all : t.all = s.all

theorem Reads.refl (s : TokenStream) : s.Reads [] s :=
  ⟨rfl, rfl, rfl⟩

theorem Reads.trans {s m t : TokenStream} {u v : List Token} (h : s.Reads u m)
    (h' : m.Reads v t) : s.Reads (u ++ v) t := by
  refine ⟨?_, ?_, h'.all.trans h.all⟩
  · rw [h.rest, h'.rest, List.append_assoc]
  · rw [h'.pos, h.pos, List.length_append, Nat.add_assoc]

theorem Reads.cons {s t : TokenStream} {u : List Token} (notEnd : s.current.kind ≠ .eof)
    (h : s.advance.Reads u t) : s.Reads (s.current :: u) t := by
  refine ⟨?_, ?_, h.all⟩
  · rw [rest_eq_cons_of_current notEnd, ← rest_advance, h.rest, List.cons_append]
  · rw [h.pos, pos_advance, List.length_cons]
    omega

theorem Reads.single {s : TokenStream} (notEnd : s.current.kind ≠ .eof) :
    s.Reads [s.current] s.advance :=
  .cons notEnd (.refl _)

theorem Reads.head {s t : TokenStream} {a : Token} {u : List Token} (h : s.Reads (a :: u) t) :
    s.current = a := by
  rw [current, h.rest]
  rfl

theorem Reads.tail {s t : TokenStream} {a : Token} {u : List Token} (h : s.Reads (a :: u) t) :
    s.advance.Reads u t := by
  refine ⟨?_, ?_, h.all⟩
  · rw [rest_advance, h.rest]
    rfl
  · rw [h.pos, pos_advance, List.length_cons]
    omega

theorem Reads.split {s t : TokenStream} {u v : List Token} (h : s.Reads (u ++ v) t) :
    ∃ m, s.Reads u m ∧ m.Reads v t := by
  refine ⟨⟨s.all, s.pos + u.length, v ++ t.rest⟩, ⟨?_, rfl, rfl⟩, ⟨rfl, ?_, h.all⟩⟩
  · rw [h.rest, List.append_assoc]
  · rw [h.pos, List.length_append, Nat.add_assoc]

theorem Reads.eq_nil {s t : TokenStream} (h : s.Reads [] t) : t = s := by
  obtain ⟨rest, pos, all⟩ := h
  cases s
  cases t
  simp_all

theorem Reads.of_single {s t : TokenStream} {a : Token} (h : s.Reads [a] t) :
    s.current = a ∧ t = s.advance :=
  ⟨h.head, h.tail.eq_nil⟩

theorem Reads.current_eq {s t : TokenStream} {u : List Token} (h : s.Reads u t) :
    s.current = u.headD t.current := by
  cases u with
  | nil =>
    rw [h.eq_nil]
    rfl
  | cons a v => exact h.head

theorem Reads.length {s t : TokenStream} {u : List Token} (h : s.Reads u t) :
    s.rest.length = u.length + t.rest.length := by
  rw [h.rest, List.length_append]

/-- Every stream that begins with some tokens can be read past them. -/
theorem exists_reads {s : TokenStream} {u r : List Token} (h : s.rest = u ++ r) :
    ∃ t, s.Reads u t ∧ t.rest = r :=
  ⟨⟨s.all, s.pos + u.length, r⟩, ⟨h, rfl, rfl⟩, rfl⟩

end TokenStream

namespace Parser

variable {α β : Type}

/-! ## Steps -/

theorem bind_eq_ok {p : Parser α} {f : α → Parser β} {s t : TokenStream} {b : β} :
    (p >>= f) s = .ok b t ↔ ∃ a m, p s = .ok a m ∧ f a m = .ok b t := by
  show EStateM.bind p f s = _ ↔ _
  rw [EStateM.bind]
  cases h : p s with
  | ok a m =>
    refine ⟨fun run => ⟨a, m, rfl, run⟩, ?_⟩
    rintro ⟨a', m', same, run⟩
    cases same
    exact run
  | error e m => simp

theorem bind_of_ok {p : Parser α} {s m : TokenStream} {a : α} (h : p s = .ok a m)
    (f : α → Parser β) : (p >>= f) s = f a m := by
  show EStateM.bind p f s = _
  rw [EStateM.bind, h]

theorem pure_apply (a : α) (s : TokenStream) : (pure a : Parser α) s = .ok a s := rfl

@[simp] theorem pure_eq_ok {a b : α} {s t : TokenStream} :
    (pure a : Parser α) s = .ok b t ↔ b = a ∧ t = s := by
  rw [pure_apply, EStateM.Result.ok.injEq, eq_comm, @eq_comm _ s]

theorem current_bind (f : Token → Parser β) (s : TokenStream) :
    (current >>= f) s = f s.current s := rfl

theorem advance_bind (f : Unit → Parser β) (s : TokenStream) :
    (advance >>= f) s = f () s.advance := rfl

theorem get_bind (f : TokenStream → Parser β) (s : TokenStream) :
    (get >>= f) s = f s s := rfl

theorem fail_ne_ok {fault : SyntaxFault} {s t : TokenStream} {a : α} :
    (fail fault : Parser α) s ≠ .ok a t := nofun

theorem failAt_ne_ok {pos : Position} {fault : SyntaxFault} {s t : TokenStream} {a : α} :
    (failAt pos fault : Parser α) s ≠ .ok a t := nofun

/-! ## Taking a token -/

theorem take_apply (wanted : TokenKind) (fault : TokenKind → SyntaxFault) (s : TokenStream) :
    take wanted fault s =
      if s.current.kind = wanted then .ok s.current s.advance
      else .error ⟨s.current.pos, fault s.current.kind⟩ s := by
  rw [take, current_bind]
  by_cases here : s.current.kind = wanted
  · rw [if_pos here, if_pos here]
    rfl
  · rw [if_neg here, if_neg here]
    rfl

theorem accept_apply (wanted : TokenKind) (s : TokenStream) :
    accept wanted s = if s.current.kind = wanted then .ok true s.advance else .ok false s := by
  rw [accept, current_bind]
  by_cases here : s.current.kind = wanted
  · rw [if_pos here, if_pos here]
    rfl
  · rw [if_neg here, if_neg here]
    rfl

theorem take_eq_ok {wanted : TokenKind} {fault : TokenKind → SyntaxFault} {s t : TokenStream}
    {token : Token} :
    take wanted fault s = .ok token t ↔
      s.current.kind = wanted ∧ token = s.current ∧ t = s.advance := by
  rw [take_apply]
  by_cases here : s.current.kind = wanted
  · rw [if_pos here, EStateM.Result.ok.injEq, @eq_comm _ s.current, @eq_comm _ s.advance]
    simp [here]
  · rw [if_neg here]
    simp [here]

theorem expect_eq_ok {wanted : TokenKind} {s t : TokenStream} {token : Token} :
    expect wanted s = .ok token t ↔
      s.current.kind = wanted ∧ token = s.current ∧ t = s.advance :=
  take_eq_ok

theorem require_eq_ok {wanted : TokenKind} {part : Missing} {s t : TokenStream} {token : Token} :
    require wanted part s = .ok token t ↔
      s.current.kind = wanted ∧ token = s.current ∧ t = s.advance :=
  take_eq_ok

theorem accept_bind (wanted : TokenKind) (f : Bool → Parser β) (s : TokenStream) :
    (accept wanted >>= f) s =
      if s.current.kind = wanted then f true s.advance else f false s := by
  show EStateM.bind (accept wanted) f s = _
  rw [EStateM.bind, accept_apply]
  by_cases here : s.current.kind = wanted
  · rw [if_pos here, if_pos here]
  · rw [if_neg here, if_neg here]

end Parser

end Minim
