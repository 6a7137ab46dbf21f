/-
# The cursor after a production

The parser keeps one cursor over the token list. Each production reads its tokens and leaves the
cursor just past them: the cursor after it stands some tokens further on the same list
(`Parser.Cursor.Advance`), at least one token further (`walkOutcome_rest_lt`), and the tokens it
passed print what it read (`sound_of_length_lt`). So an expression read from position `i` of a
token list ends at a later position `j`, and the tokens from `i` to `j` are its printing, up to
the text of keywords and brackets (`productions_end_past_own_tokens`).

Both loops of the parser, the parameters of a call and the expressions of a program, read one
expression at each turn, so each turn moves the cursor on and no run of turns is endless
(`walk_wellFounded`).

Key definitions: `Parser.Cursor.Advance`.
Key theorems: `Parser.advances_of_length_lt`, `Parser.span_of_advance`,
`Parser.productions_end_past_own_tokens`.
-/
import ColumnExpr.Proofs.Parse.RoundTrip
namespace ColumnExpr
namespace Parser

/-- The cursor `c'` stands `k` tokens past `c` on the same tokens, for some `k` up to the tokens
left at `c`: the tokens left at `c'` are those at `c` without their first `k`. -/
def Cursor.Advance (c c' : Cursor) : Prop :=
  ∃ k, k ≤ c.rest.length ∧ c'.rest = c.rest.drop k ∧ c'.pos = c.pos + k

theorem Cursor.Advance.trans {c c' c'' : Cursor} (h : c.Advance c') (h' : c'.Advance c'') :
    c.Advance c'' := by
  obtain ⟨k, hk, hr, hp⟩ := h
  obtain ⟨k', hk', hr', hp'⟩ := h'
  rw [hr, List.length_drop] at hk'
  refine ⟨k + k', by omega, ?_, by omega⟩
  rw [hr', hr, List.drop_drop]

theorem Cursor.advance_cons (t : Token) (more : List Token) (p : Nat) :
    Cursor.Advance ⟨t :: more, p⟩ ⟨more, p + 1⟩ :=
  ⟨1, by simp, rfl, rfl⟩

variable {columns : List String}

theorem expectOutcome_advance {k : TokenKind} {c c' : Cursor} (h : expectOutcome k c = .ok c') :
    c.Advance c' := by
  obtain ⟨rest, pos⟩ := c
  cases rest with
  | nil => simp at h
  | cons t more =>
    rw [expectOutcome_cons] at h
    split at h
    · cases h
      exact Cursor.advance_cons t more pos
    · cases h

/-- What `walk` and `params` leave behind at a cursor: a cursor past it on the same tokens. -/
def Advances (columns : List String) (c : Cursor) : Prop :=
  (∀ n c', walkOutcome columns c = .ok (n, c') → c.Advance c') ∧
    ∀ ps c', paramsOutcome columns c = .ok (ps, c') → c.Advance c'

/-- A production started after a first token reads on from there. The hypothesis `ih` gives
`walk` and `params` at every cursor past the first token. -/
theorem advance_walk_cons {t : Token} {more : List Token} {p : Nat}
    (ih : ∀ c, Cursor.Advance ⟨more, p + 1⟩ c → Advances columns c) {n : Node} {c' : Cursor}
    (h : walkOutcome columns ⟨t :: more, p⟩ = .ok (n, c')) : Cursor.Advance ⟨t :: more, p⟩ c' := by
  have hfirst := Cursor.advance_cons t more p
  rcases t with ⟨kind, v⟩
  cases kind
  case number | string =>
    simp only [walkOutcome_cons, Except.ok.injEq, Prod.mk.injEq] at h
    obtain ⟨-, rfl⟩ := h
    exact hfirst
  case name =>
    simp only [walkOutcome_cons] at h
    split at h
    · cases h
      exact hfirst
    · cases h
  case function =>
    simp only [walkOutcome_cons, Except.bind_eq_ok', Prod.exists] at h
    obtain ⟨c2, h2, ps, c3, h3, hn⟩ := h
    cases hn
    have a2 := expectOutcome_advance h2
    exact hfirst.trans (a2.trans ((ih c2 a2).2 ps c' h3))
  case ifKeyword =>
    simp only [walkOutcome_cons, Except.bind_eq_ok', Prod.exists] at h
    obtain ⟨c2, h2, cond, c3, h3, c4, h4, c5, h5, yes, c6, h6, c7, h7, c8, h8, c9, h9, no, c10, h10,
      c11, h11, hn⟩ := h
    cases hn
    have a2 := expectOutcome_advance h2
    have a3 := a2.trans ((ih c2 a2).1 cond c3 h3)
    have a5 := (a3.trans (expectOutcome_advance h4)).trans (expectOutcome_advance h5)
    have a6 := a5.trans ((ih c5 a5).1 yes c6 h6)
    have a9 := ((a6.trans (expectOutcome_advance h7)).trans (expectOutcome_advance h8)).trans
      (expectOutcome_advance h9)
    have a10 := a9.trans ((ih c9 a9).1 no c10 h10)
    exact hfirst.trans (a10.trans (expectOutcome_advance h11))
  all_goals simp [walkOutcome_cons] at h

/-- **`walk` and `params` leave the cursor past where they started, on the same tokens.** By
induction on the number of tokens left; `params` calls `walk` where it stands, so at each length
`walk` is proved first. -/
theorem advances_of_length_lt (N : Nat) :
    ∀ c : Cursor, c.rest.length < N → Advances columns c := by
  induction N with
  | zero => intro c hc; omega
  | succ N ih =>
    intro c hc
    obtain ⟨rest, pos⟩ := c
    cases rest with
    | nil => refine ⟨fun n c' h => ?_, fun ps c' h => ?_⟩ <;> simp at h
    | cons t more =>
      -- every cursor past the first token has fewer than `N` tokens left
      have ih' : ∀ c, Cursor.Advance ⟨more, pos + 1⟩ c → Advances columns c := by
        rintro c ⟨k, hk, hr, -⟩
        refine ih c ?_
        rw [hr, List.length_drop]
        dsimp only at hk ⊢
        simp only [List.length_cons] at hc
        omega
      have hwalk : ∀ n c', walkOutcome columns ⟨t :: more, pos⟩ = .ok (n, c') →
          Cursor.Advance ⟨t :: more, pos⟩ c' := fun n c' h => advance_walk_cons ih' h
      refine ⟨hwalk, fun ps c' h => ?_⟩
      rw [paramsOutcome_cons] at h
      split at h
      · cases h
        exact Cursor.advance_cons t more pos
      · -- one more parameter where the cursor stands, then the rest of them
        simp only [Except.bind_eq_ok', Prod.exists] at h
        obtain ⟨n, c1, h1, ps', c2, h2, hps⟩ := h
        cases hps
        have a1 := hwalk n c1 h1
        have l1 := walkOutcome_rest_lt h1
        refine a1.trans ((ih c1 ?_).2 ps' c' h2)
        simp only [List.length_cons] at l1 hc
        omega

theorem walkOutcome_advance {c c' : Cursor} {n : Node} (h : walkOutcome columns c = .ok (n, c')) :
    c.Advance c' :=
  (advances_of_length_lt (c.rest.length + 1) c (Nat.lt_succ_self _)).1 n c' h

theorem paramsOutcome_advance {c c' : Cursor} {ps : List Node}
    (h : paramsOutcome columns c = .ok (ps, c')) : c.Advance c' :=
  (advances_of_length_lt (c.rest.length + 1) c (Nat.lt_succ_self _)).2 ps c' h

/-- **Where a production ends in the token list.** A production started at position `i` that
left the cursor past it, with the tokens it read printing as `out` before the tokens left, ended at
a later position `j` of the same list, and the tokens from `i` to `j` are `out`, up to the text of
keywords and brackets. -/
theorem span_of_advance {ts out : List Token} {i : Nat} {c' : Cursor}
    (ha : Cursor.Advance ⟨ts.drop i, i⟩ c') (hlt : c'.rest.length < (ts.drop i).length)
    (hmap : (ts.drop i).map Token.canonical = out ++ c'.rest.map Token.canonical) :
    ∃ j, i < j ∧ j ≤ ts.length ∧ c' = ⟨ts.drop j, j⟩ ∧
      ((ts.drop i).take (j - i)).map Token.canonical = out := by
  obtain ⟨k, hk, hr, hp⟩ := ha
  obtain ⟨rest', pos'⟩ := c'
  simp only at hk hr hp hlt hmap
  subst hr hp
  rw [List.length_drop] at hk hlt
  refine ⟨i + k, by omega, by omega, by rw [List.drop_drop], ?_⟩
  rw [Nat.add_sub_cancel_left]
  conv at hmap => lhs; rw [← List.take_append_drop k (ts.drop i)]
  rw [List.map_append] at hmap
  exact List.append_cancel_right hmap

theorem walkOutcome_span {ts : List Token} {i : Nat} {n : Node} {c' : Cursor}
    (h : walkOutcome columns ⟨ts.drop i, i⟩ = .ok (n, c')) :
    ∃ j, i < j ∧ j ≤ ts.length ∧ c' = ⟨ts.drop j, j⟩ ∧
      ((ts.drop i).take (j - i)).map Token.canonical = n.toTokens :=
  span_of_advance (walkOutcome_advance h) (walkOutcome_rest_lt h)
    ((sound_of_length_lt _ _ (Nat.lt_succ_self _)).1 n c' h).2

theorem paramsOutcome_span {ts : List Token} {i : Nat} {ps : List Node} {c' : Cursor}
    (h : paramsOutcome columns ⟨ts.drop i, i⟩ = .ok (ps, c')) :
    ∃ j, i < j ∧ j ≤ ts.length ∧ c' = ⟨ts.drop j, j⟩ ∧
      ((ts.drop i).take (j - i)).map Token.canonical = Node.listTokens ps ++ [Node.fixed .closeParen] := by
  refine span_of_advance (paramsOutcome_advance h) (paramsOutcome_rest_lt h) ?_
  rw [((sound_of_length_lt _ _ (Nat.lt_succ_self _)).2 ps c' h).2, List.append_assoc]
  rfl

/-- Expressions cannot be read one after another forever: each reads at least one token. -/
theorem walk_wellFounded : WellFounded fun c' c => ∃ n, walkOutcome columns c = .ok (n, c') :=
  Subrelation.wf (fun ⟨_, h⟩ => walkOutcome_rest_lt h) (measure fun c : Cursor => c.rest.length).wf

/-- **Every production leaves the cursor exactly past its own tokens.** An expression read from
position `i` of a token list ends at a later position `j` of the same list, and the tokens from `i`
to `j` are the expression's printing, up to the text of keywords and brackets; the parameters of
a call end past their `)` in the same way. The parameter loop and the program loop read one
expression at each turn, so each turn moves the cursor on, and no sequence of turns goes on
forever: the tokens left are the measure by which `Parser.walk`, `Parser.params` and
`Parser.program` are defined, so `Parser.parse` returns a result on every token list. -/
theorem productions_end_past_own_tokens (ts : List Token) (columns : List String) :
    (∀ i n c', walkOutcome columns ⟨ts.drop i, i⟩ = .ok (n, c') →
      ∃ j, i < j ∧ j ≤ ts.length ∧ c' = ⟨ts.drop j, j⟩ ∧
        ((ts.drop i).take (j - i)).map Token.canonical = n.toTokens) ∧
    (∀ i ps c', paramsOutcome columns ⟨ts.drop i, i⟩ = .ok (ps, c') →
      ∃ j, i < j ∧ j ≤ ts.length ∧ c' = ⟨ts.drop j, j⟩ ∧
        ((ts.drop i).take (j - i)).map Token.canonical =
          Node.listTokens ps ++ [Node.fixed .closeParen]) ∧
    WellFounded fun c' c => ∃ n, walkOutcome columns c = .ok (n, c') :=
  ⟨fun _ _ _ h => walkOutcome_span h, fun _ _ _ h => paramsOutcome_span h, walk_wellFounded⟩

end Parser
end ColumnExpr
