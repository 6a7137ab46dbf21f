/-
# Parsing inverts printing

`Node.toTokens` prints an expression as the tokens it is written with. Parsing the printed
tokens of any list of expressions gives those expressions back, as long as every column they
name is permitted (`parse_listTokens`); and whatever parsing accepts is the printing of what
it returns, up to the text of keyword and bracket tokens, which the parser never reads
(`parse_sound`). Together, `parse_print_roundtrip`: parsing accepts exactly the printed token
lists and inverts printing on them.

Both directions rest on one fact about the shared cursor: each production reads exactly its
own tokens, whatever follows them. Forwards this is `walkOutcome_toTokens`, by recursion on
the expression; backwards, `sound_of_length_lt`, by induction on the number of tokens left,
where the parameter loop is proved after `walk` at the same length because it calls `walk`
where it stands. The `)` that ends a call is never taken for the end of a nested call: a
nested call or conditional reads its own closing tokens before the loop looks again.

Key definitions: `Token.canonical`, `Node.columnNames`.
Key theorems: `Parser.walkOutcome_toTokens`, `Parser.sound_of_length_lt`,
`Parser.parse_print_roundtrip`.
-/
import ColumnExpr.Proofs.Parse.Outcome
namespace ColumnExpr

/-- A token with the text its kind fixes: keywords and brackets get their lexeme, every other
token is left as it is. -/
def Token.canonical (t : Token) : Token :=
  match t.kind.lexeme with
  | some s => ⟨t.kind, s⟩
  | none => t

namespace Node

mutual
/-- The column names an expression refers to, in order. -/
def columnNames : Node → List String
  | number _ => []
  | string _ => []
  | column n => [n]
  | call _ ps => listColumnNames ps
  | conditional c t f => columnNames c ++ columnNames t ++ columnNames f

/-- The column names of expressions one after another. -/
def listColumnNames : List Node → List String
  | [] => []
  | n :: ns => columnNames n ++ listColumnNames ns
end

@[simp] theorem fixed_kind (k : TokenKind) : (fixed k).kind = k := rfl

/-- Every expression is printed starting with a token other than `)`. -/
theorem toTokens_eq_cons (n : Node) :
    ∃ t ts, n.toTokens = t :: ts ∧ t.kind ≠ .closeParen := by
  cases n <;> simp [toTokens, fixed]

end Node

@[simp] theorem Token.canonical_kind (t : Token) : t.canonical.kind = t.kind := by
  unfold canonical
  split <;> rfl

theorem Token.canonical_of_lexeme {t : Token} {s : String} (h : t.kind.lexeme = some s) :
    t.canonical = ⟨t.kind, s⟩ := by
  simp [canonical, h]

theorem Token.canonical_of_kind {t : Token} {k : TokenKind} (hk : t.kind = k)
    (hfixed : k.lexeme.isSome) : t.canonical = Node.fixed k := by
  obtain ⟨s, hs⟩ := Option.isSome_iff_exists.mp hfixed
  rw [canonical_of_lexeme (hk ▸ hs), Node.fixed, hk, hs]
  rfl

theorem Token.canonical_of_not_fixed {t : Token} (h : t.kind.lexeme = none) : t.canonical = t := by
  simp [canonical, h]

namespace Parser

variable {columns : List String}

/-! ### Printed tokens parse back -/

theorem expectOutcome_fixed (k : TokenKind) (rest : List Token) (p : Nat) :
    expectOutcome k ⟨Node.fixed k :: rest, p⟩ = .ok ⟨rest, p + 1⟩ := by
  simp [expectOutcome_cons, Node.fixed]

mutual
/-- **Each expression reads exactly its own tokens**, whatever follows them. -/
theorem walkOutcome_toTokens (n : Node) (rest : List Token) (p : Nat)
    (h : n.columnNames ⊆ columns) :
    walkOutcome columns ⟨n.toTokens ++ rest, p⟩ = .ok (n, ⟨rest, p + n.toTokens.length⟩) := by
  match n with
  | .number s => simp [Node.toTokens, walkOutcome_cons]
  | .string s => simp [Node.toTokens, walkOutcome_cons]
  | .column x =>
    have hx : x ∈ columns := h (by simp [Node.columnNames])
    simp [Node.toTokens, walkOutcome_cons, hx]
  | .call f ps =>
    have hps := paramsOutcome_listTokens ps rest (p + 1 + 1) (by simpa [Node.columnNames] using h)
    simp only [Node.toTokens, List.cons_append, List.append_assoc, List.nil_append,
      walkOutcome_cons, expectOutcome_fixed, Except.ok_bind', hps]
    simp only [pure, Except.pure, List.length_cons, List.length_append, List.length_nil]
    congr 3
    omega
  | .conditional c t f =>
    have hc : c.columnNames ⊆ columns := fun x hx => h (by simp [Node.columnNames, hx])
    have ht : t.columnNames ⊆ columns := fun x hx => h (by simp [Node.columnNames, hx])
    have hf : f.columnNames ⊆ columns := fun x hx => h (by simp [Node.columnNames, hx])
    simp only [Node.toTokens, List.cons_append, List.append_assoc, List.nil_append,
      walkOutcome_cons, Node.fixed_kind, expectOutcome_fixed, Except.ok_bind',
      walkOutcome_toTokens c _ _ hc, walkOutcome_toTokens t _ _ ht, walkOutcome_toTokens f _ _ hf]
    simp only [pure, Except.pure, List.length_cons, List.length_append, List.length_nil]
    congr 3
    omega

/-- **A call's parameters read exactly their tokens and the `)` after them.** -/
theorem paramsOutcome_listTokens (ps : List Node) (rest : List Token) (p : Nat)
    (h : Node.listColumnNames ps ⊆ columns) :
    paramsOutcome columns ⟨Node.listTokens ps ++ Node.fixed .closeParen :: rest, p⟩ =
      .ok (ps, ⟨rest, p + (Node.listTokens ps).length + 1⟩) := by
  match ps with
  | [] => simp [Node.listTokens, paramsOutcome_cons, Node.fixed]
  | n :: ns =>
    have hn : n.columnNames ⊆ columns := fun x hx => h (by simp [Node.listColumnNames, hx])
    have hns : Node.listColumnNames ns ⊆ columns :=
      fun x hx => h (by simp [Node.listColumnNames, hx])
    obtain ⟨t, ts, hts, hk⟩ := n.toTokens_eq_cons
    have hwalk := walkOutcome_toTokens n (Node.listTokens ns ++ Node.fixed .closeParen :: rest) p hn
    rw [hts, List.cons_append] at hwalk
    simp only [Node.listTokens, List.append_assoc, hts, List.cons_append, paramsOutcome_cons,
      if_neg hk, hwalk, Except.ok_bind', paramsOutcome_listTokens ns rest _ hns]
    simp only [pure, Except.pure, List.length_cons, List.length_append]
    congr 3
    omega
end

theorem programOutcome_listTokens (body : List Node) (p : Nat)
    (h : Node.listColumnNames body ⊆ columns) :
    programOutcome columns ⟨Node.listTokens body, p⟩ = .ok body := by
  induction body generalizing p with
  | nil => simp [Node.listTokens]
  | cons n ns ih =>
    have hn : n.columnNames ⊆ columns := fun x hx => h (by simp [Node.listColumnNames, hx])
    have hns : Node.listColumnNames ns ⊆ columns :=
      fun x hx => h (by simp [Node.listColumnNames, hx])
    obtain ⟨t, ts, hts, -⟩ := n.toTokens_eq_cons
    have hwalk := walkOutcome_toTokens n (Node.listTokens ns) p hn
    rw [hts, List.cons_append] at hwalk
    simp only [Node.listTokens, hts, List.cons_append, programOutcome_cons, hwalk,
      Except.ok_bind', ih _ hns]
    rfl

/-- Parsing the printed tokens of expressions whose columns are permitted gives them back. -/
theorem parse_listTokens (body : List Node) (h : Node.listColumnNames body ⊆ columns) :
    parse (Node.listTokens body) columns = .ok ⟨body⟩ := by
  rw [parse_eq, programOutcome_listTokens body 0 h]
  rfl

/-! ### What parsing accepts is printed -/

/-- What `walk` accepts at `c` is the printing of the expression it returns, up to the text
of keyword and bracket tokens, and that expression names permitted columns only. -/
def WalkSound (columns : List String) (c : Cursor) : Prop :=
  ∀ n c', walkOutcome columns c = .ok (n, c') →
    n.columnNames ⊆ columns ∧
      c.rest.map Token.canonical = n.toTokens ++ c'.rest.map Token.canonical

/-- What `params` accepts at `c` is the printing of the parameters it returns and a `)`. -/
def ParamsSound (columns : List String) (c : Cursor) : Prop :=
  ∀ ps c', paramsOutcome columns c = .ok (ps, c') →
    Node.listColumnNames ps ⊆ columns ∧
      c.rest.map Token.canonical =
        Node.listTokens ps ++ Node.fixed .closeParen :: c'.rest.map Token.canonical

theorem expectOutcome_map_canonical {k : TokenKind} {c c' : Cursor}
    (h : expectOutcome k c = .ok c') (hk : k.lexeme.isSome) :
    c.rest.map Token.canonical = Node.fixed k :: c'.rest.map Token.canonical := by
  obtain ⟨rest, pos⟩ := c
  cases rest with
  | nil => simp at h
  | cons t more =>
    rw [expectOutcome_cons] at h
    split at h
    · next hkind =>
      cases h
      simp [Token.canonical_of_kind hkind hk]
    · cases h

theorem walkSound_cons_if {N : Nat} (ih : ∀ c : Cursor, c.rest.length < N → WalkSound columns c)
    {t : Token} {more : List Token} {p : Nat} (hlen : more.length < N)
    (hkind : t.kind = .ifKeyword) : WalkSound columns ⟨t :: more, p⟩ := by
  intro n c' h
  simp only [walkOutcome_cons, hkind, Except.bind_eq_ok', Prod.exists] at h
  obtain ⟨c2, h2, cond, c3, h3, c4, h4, c5, h5, yes, c6, h6, c7, h7, c8, h8, c9, h9, no, c10, h10,
    c11, h11, hn⟩ := h
  cases hn
  -- each expression read stands between the tokens read before and after it
  have l2 := expectOutcome_rest_lt h2
  have l3 := walkOutcome_rest_lt h3
  have l4 := expectOutcome_rest_lt h4
  have l5 := expectOutcome_rest_lt h5
  have l6 := walkOutcome_rest_lt h6
  have l7 := expectOutcome_rest_lt h7
  have l8 := expectOutcome_rest_lt h8
  have l9 := expectOutcome_rest_lt h9
  obtain ⟨hcond, e3⟩ := ih c2 (by simp at l2; omega) cond c3 h3
  obtain ⟨hyes, e6⟩ := ih c5 (by simp at l2; omega) yes c6 h6
  obtain ⟨hno, e10⟩ := ih c9 (by simp at l2; omega) no c10 h10
  have e2 := expectOutcome_map_canonical h2 rfl
  have e4 := expectOutcome_map_canonical h4 rfl
  have e5 := expectOutcome_map_canonical h5 rfl
  have e7 := expectOutcome_map_canonical h7 rfl
  have e8 := expectOutcome_map_canonical h8 rfl
  have e9 := expectOutcome_map_canonical h9 rfl
  have e11 := expectOutcome_map_canonical h11 rfl
  refine ⟨?_, ?_⟩
  · simp only [Node.columnNames, List.append_subset]
    exact ⟨⟨hcond, hyes⟩, hno⟩
  · simp only [List.map_cons, Token.canonical_of_kind hkind rfl, Node.toTokens, List.cons_append,
      List.append_assoc, List.nil_append]
    simp only at e2
    rw [e2, e3, e4, e5, e6, e7, e8, e9, e10, e11]

theorem walkSound_cons_function {N : Nat} (ih : ∀ c : Cursor, c.rest.length < N → ParamsSound columns c)
    {t : Token} {more : List Token} {p : Nat} (hlen : more.length < N)
    (hkind : t.kind = .function) : WalkSound columns ⟨t :: more, p⟩ := by
  intro n c' h
  simp only [walkOutcome_cons, hkind, Except.bind_eq_ok', Prod.exists] at h
  obtain ⟨c2, h2, ps, c3, h3, hn⟩ := h
  cases hn
  have l2 := expectOutcome_rest_lt h2
  obtain ⟨hps, e3⟩ := ih c2 (by simp at l2; omega) ps c' h3
  have e2 := expectOutcome_map_canonical h2 rfl
  refine ⟨hps, ?_⟩
  have ht : t.canonical = ⟨.function, t.value⟩ := by
    rw [Token.canonical_of_not_fixed (by rw [hkind]; rfl), ← hkind]
  simp only at e2
  simp only [List.map_cons, ht, Node.toTokens, e2, e3, List.cons_append, List.append_assoc,
    List.nil_append]

/-- **What parsing accepts is printed**, for `walk` and `params` at every cursor. By
induction on the number of tokens left; `params` calls `walk` where it stands, so at each
length `walk` is proved first. -/
theorem sound_of_length_lt (N : Nat) :
    ∀ c : Cursor, c.rest.length < N → WalkSound columns c ∧ ParamsSound columns c := by
  induction N with
  | zero => intro c hc; omega
  | succ N ih =>
    intro c hc
    obtain ⟨rest, pos⟩ := c
    cases rest with
    | nil =>
      refine ⟨fun n c' h => ?_, fun ps c' h => ?_⟩ <;> simp at h
    | cons t more =>
      have hlen : more.length < N := by simpa using hc
      have hwalk : WalkSound columns ⟨t :: more, pos⟩ := by
        rcases t with ⟨kind, v⟩
        cases kind
        case ifKeyword => exact walkSound_cons_if (fun c hc => (ih c hc).1) hlen rfl
        case function => exact walkSound_cons_function (fun c hc => (ih c hc).2) hlen rfl
        case name =>
          intro n c' h
          simp only [walkOutcome_cons] at h
          split at h
          · next hv =>
            cases h
            simp [Node.columnNames, Node.toTokens, Token.canonical, TokenKind.lexeme,
              List.contains_iff_mem.mp hv]
          · cases h
        case number | string =>
          intro n c' h
          simp only [walkOutcome_cons, Except.ok.injEq, Prod.mk.injEq] at h
          obtain ⟨rfl, rfl⟩ := h
          simp [Node.columnNames, Node.toTokens, Token.canonical, TokenKind.lexeme]
        all_goals
          intro n c' h
          simp [walkOutcome_cons] at h
      refine ⟨hwalk, fun ps c' h => ?_⟩
      rw [paramsOutcome_cons] at h
      split at h
      · next hk =>
        cases h
        simp [Node.listColumnNames, Node.listTokens, Token.canonical_of_kind hk rfl]
      · simp only [Except.bind_eq_ok', Prod.exists] at h
        obtain ⟨n, c1, h1, ps', c2, h2, hps⟩ := h
        cases hps
        obtain ⟨hn, e1⟩ := hwalk n c1 h1
        have l1 := walkOutcome_rest_lt h1
        obtain ⟨hps', e2⟩ := (ih c1 (by simp at l1; omega)).2 ps' c' h2
        refine ⟨?_, ?_⟩
        · simp only [Node.listColumnNames, List.append_subset]
          exact ⟨hn, hps'⟩
        · rw [e1, e2]
          simp [Node.listTokens]

theorem programOutcome_sound (N : Nat) :
    ∀ (c : Cursor) (body : List Node), c.rest.length < N →
      programOutcome columns c = .ok body →
        Node.listColumnNames body ⊆ columns ∧
          c.rest.map Token.canonical = Node.listTokens body := by
  induction N with
  | zero => intro c body hc; omega
  | succ N ih =>
    intro c body hc h
    obtain ⟨rest, pos⟩ := c
    cases rest with
    | nil =>
      simp only [programOutcome_nil, Except.ok.injEq] at h
      subst h
      simp [Node.listColumnNames, Node.listTokens]
    | cons t more =>
      simp only [programOutcome_cons, Except.bind_eq_ok', Prod.exists] at h
      obtain ⟨n, c1, h1, ns, h2, hbody⟩ := h
      cases hbody
      have l1 := walkOutcome_rest_lt h1
      obtain ⟨hn, e1⟩ := (sound_of_length_lt (N + 1) _ hc).1 n c1 h1
      obtain ⟨hns, e2⟩ := ih c1 ns (by simp at l1 hc; omega) h2
      refine ⟨?_, ?_⟩
      · simp only [Node.listColumnNames, List.append_subset]
        exact ⟨hn, hns⟩
      · rw [e1, e2]
        rfl

/-- Whatever parsing accepts names permitted columns only, and is the printing of the program
it returns once keywords and brackets are given their lexemes. -/
theorem parse_sound {tokens : List Token} {prog : Program} (h : parse tokens columns = .ok prog) :
    Node.listColumnNames prog.body ⊆ columns ∧
      Node.listTokens prog.body = tokens.map Token.canonical := by
  rw [parse_eq] at h
  cases hp : programOutcome columns ⟨tokens, 0⟩ with
  | error e => simp [hp] at h
  | ok body =>
    simp only [hp, Except.map_ok', Except.ok.injEq] at h
    subst h
    obtain ⟨hcols, htokens⟩ := programOutcome_sound (tokens.length + 1) _ body (by simp) hp
    exact ⟨hcols, htokens.symm⟩

/-- **Parsing accepts exactly the printed token lists and inverts printing on them.** The
printed tokens of any expressions whose columns are permitted parse back to those
expressions; and whatever parses names permitted columns only and is, up to the text of
keyword and bracket tokens, the printing of what it parsed to. -/
theorem parse_print_roundtrip :
    (∀ (body : List Node) (columns : List String), Node.listColumnNames body ⊆ columns →
      parse (Node.listTokens body) columns = .ok ⟨body⟩) ∧
    (∀ (tokens : List Token) (columns : List String) (prog : Program),
      parse tokens columns = .ok prog →
        Node.listColumnNames prog.body ⊆ columns ∧
          Node.listTokens prog.body = tokens.map Token.canonical) :=
  ⟨fun body _ h => parse_listTokens body h, fun _ _ _ h => parse_sound h⟩

end Parser
end ColumnExpr
