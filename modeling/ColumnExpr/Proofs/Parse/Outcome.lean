/-
# The parser, its events aside

`Parser.walk`, `Parser.params` and `Parser.program` report events beside their results, and
`walk` and `params` return the cursor after what they read together with the evidence that it
moved. What parsing accepts, builds and rejects is in the results alone. This module names
those results (`expectOutcome`, `walkOutcome`, `paramsOutcome`, `programOutcome`) and proves
one equation for each production at a token: the parser read as a recursive descent in the
monad of parse errors, in the order of the source grammar. Later proofs rewrite with these
equations and never unfold the parser.

Key definitions: `Parser.walkOutcome`, `Parser.paramsOutcome`, `Parser.programOutcome`.
Key theorems: `Parser.walkOutcome_cons`, `Parser.paramsOutcome_cons`,
`Parser.programOutcome_cons`, `Parser.parse_eq`, and `Parser.walkOutcome_rest_lt` (a
production that succeeds has read a token).
-/
import ColumnExpr.Syntax.Parser
import ColumnExpr.Proofs.Except
namespace ColumnExpr

namespace Parser

/-- What `expect` gives, its evidence of progress aside. -/
def expectOutcome (k : TokenKind) (c : Cursor) : Except ParseError Cursor :=
  (expect k c).map Subtype.val

/-- What `walk` gives, its events aside: the expression and the cursor past it. -/
def walkOutcome (columns : List String) (c : Cursor) : Except ParseError (Node × Cursor) :=
  (walk columns c).2.map fun r => (r.1, r.2.1)

/-- What `params` gives, its events aside: the parameters and the cursor past the `)`. -/
def paramsOutcome (columns : List String) (c : Cursor) : Except ParseError (List Node × Cursor) :=
  (params columns c).2.map fun r => (r.1, r.2.1)

/-- What `program` gives, its events aside. -/
def programOutcome (columns : List String) (c : Cursor) : Except ParseError (List Node) :=
  (program columns c).2

variable {columns : List String} {k : TokenKind} {t : Token} {more : List Token} {p : Nat}

@[simp] theorem expectOutcome_nil : expectOutcome k ⟨[], p⟩ = .error (.syntaxError k none) :=
  rfl

theorem expectOutcome_cons :
    expectOutcome k ⟨t :: more, p⟩ =
      if t.kind = k then .ok ⟨more, p + 1⟩ else .error (.syntaxError k (some t)) := by
  simp only [expectOutcome, expect]
  split <;> simp

/-- `expectAll` is `expect` once for each kind. -/
theorem expectAll_map (k : TokenKind) (ks : List TokenKind) (c : Cursor) :
    (expectAll (k :: ks) c).map Subtype.val =
      expectOutcome k c >>= fun c1 => (expectAll ks c1).map Subtype.val := by
  rw [expectAll, expectOutcome]
  split
  · rename_i e he
    simp [he]
  · rename_i c1 h1 he
    rw [he]
    split <;> simp_all

@[simp] theorem expectAll_nil_map (c : Cursor) : (expectAll [] c).map Subtype.val = .ok c := rfl

/-- Two expects in a row are `expectAll` of the two kinds. -/
theorem expectOutcome_bind_bind {α : Type} (k1 k2 : TokenKind) (c : Cursor)
    (f : Cursor → Except ParseError α) :
    (expectOutcome k1 c >>= fun c1 => expectOutcome k2 c1 >>= f) =
      (expectAll [k1, k2] c).map Subtype.val >>= f := by
  simp only [expectAll_map, expectAll_nil_map, bind_assoc, Except.ok_bind']

/-- Three expects in a row are `expectAll` of the three kinds. -/
theorem expectOutcome_bind_bind_bind {α : Type} (k1 k2 k3 : TokenKind) (c : Cursor)
    (f : Cursor → Except ParseError α) :
    (expectOutcome k1 c >>= fun c1 => expectOutcome k2 c1 >>= fun c2 => expectOutcome k3 c2 >>= f) =
      (expectAll [k1, k2, k3] c).map Subtype.val >>= f := by
  simp only [expectAll_map, expectAll_nil_map, bind_assoc, Except.ok_bind']

@[simp] theorem walkOutcome_nil : walkOutcome columns ⟨[], p⟩ = .error .unexpectedEnd := by
  simp [walkOutcome, walk]

@[simp] theorem paramsOutcome_nil :
    paramsOutcome columns ⟨[], p⟩ = .error (.syntaxError .closeParen none) := by
  simp [paramsOutcome, params]

@[simp] theorem programOutcome_nil : programOutcome columns ⟨[], p⟩ = .ok [] := by
  simp [programOutcome, program]

/-- **One expression at a token.** A literal is the token; a name is a column when it is
permitted; a function name must be followed by `(` and its parameters; `if` must be followed
by `(`, a condition, `)`, `{`, a branch, `}`, `else`, `{`, a branch and `}`; any other token
starts no expression. -/
theorem walkOutcome_cons :
    walkOutcome columns ⟨t :: more, p⟩ =
      match t.kind with
      | .number => .ok (.number t.value, ⟨more, p + 1⟩)
      | .string => .ok (.string t.value, ⟨more, p + 1⟩)
      | .name =>
        if columns.contains t.value then .ok (.column t.value, ⟨more, p + 1⟩)
        else .error (.unknownVariable t.value)
      | .function => do
        let c2 ← expectOutcome .openParen ⟨more, p + 1⟩
        let (ps, c3) ← paramsOutcome columns c2
        pure (.call t.value ps, c3)
      | .ifKeyword => do
        let c2 ← expectOutcome .openParen ⟨more, p + 1⟩
        let (cond, c3) ← walkOutcome columns c2
        let c4 ← expectOutcome .closeParen c3
        let c5 ← expectOutcome .openBlock c4
        let (yes, c6) ← walkOutcome columns c5
        let c7 ← expectOutcome .closeBlock c6
        let c8 ← expectOutcome .elseKeyword c7
        let c9 ← expectOutcome .openBlock c8
        let (no, c10) ← walkOutcome columns c9
        let c11 ← expectOutcome .closeBlock c10
        pure (.conditional cond yes no, c11)
      | k => .error (.unrecognizedToken k) := by
  unfold walkOutcome
  rw [walk]
  rcases t with ⟨kind, value⟩
  cases kind
  case number | string | elseKeyword | openParen | closeParen | openBlock | closeBlock => rfl
  case name =>
    simp only
    split <;> simp_all
  case function =>
    simp only [expectOutcome]
    split
    · rename_i e he
      simp [he]
    · rename_i c2 h2 he
      simp only [he, Except.map_ok', Except.ok_bind', paramsOutcome]
      split <;> simp_all
  case ifKeyword =>
    simp only [expectOutcome_bind_bind_bind]
    simp only [expectOutcome_bind_bind]
    simp only [expectOutcome]
    repeat' (split <;> simp_all)

/-- **Parameters at a token.** A `)` ends them; any other token starts one more parameter. -/
theorem paramsOutcome_cons :
    paramsOutcome columns ⟨t :: more, p⟩ =
      if t.kind = .closeParen then .ok ([], ⟨more, p + 1⟩)
      else (do
        let (n, c1) ← walkOutcome columns ⟨t :: more, p⟩
        let (ps, c2) ← paramsOutcome columns c1
        pure (n :: ps, c2)) := by
  unfold paramsOutcome walkOutcome
  rw [params]
  split
  · next h => exact absurd h (by simp)
  · next t' more' h =>
    simp only [List.cons.injEq] at h
    obtain ⟨rfl, rfl⟩ := h
    split
    · simp_all
    · split
      · simp_all
      · split <;> simp_all

/-- **A program at a token.** One more expression, then the rest of the program. -/
theorem programOutcome_cons :
    programOutcome columns ⟨t :: more, p⟩ = (do
      let (n, c1) ← walkOutcome columns ⟨t :: more, p⟩
      let ns ← programOutcome columns c1
      pure (n :: ns)) := by
  unfold programOutcome walkOutcome
  rw [program]
  simp only
  split
  · next e he => simp [he]
  · next n c1 h1 he =>
    simp only [he, Except.map_ok', Except.ok_bind']
    rfl

theorem parse_eq (tokens : List Token) :
    parse tokens columns = (programOutcome columns ⟨tokens, 0⟩).map Program.mk := by
  unfold parse parseTraced programOutcome
  split <;> simp_all

theorem expectOutcome_rest_lt {c c' : Cursor} (h : expectOutcome k c = .ok c') :
    c'.rest.length < c.rest.length := by
  unfold expectOutcome at h
  cases he : expect k c with
  | error e => simp [he] at h
  | ok r =>
    simp only [he, Except.map_ok', Except.ok.injEq] at h
    exact h ▸ r.2

/-- A production that succeeds has read at least one token. -/
theorem walkOutcome_rest_lt {c c' : Cursor} {n : Node} (h : walkOutcome columns c = .ok (n, c')) :
    c'.rest.length < c.rest.length := by
  unfold walkOutcome at h
  cases hw : (walk columns c).2 with
  | error e => simp [hw] at h
  | ok r =>
    simp only [hw, Except.map_ok', Except.ok.injEq, Prod.mk.injEq] at h
    exact h.2 ▸ r.2.2

theorem paramsOutcome_rest_lt {c c' : Cursor} {ps : List Node}
    (h : paramsOutcome columns c = .ok (ps, c')) : c'.rest.length < c.rest.length := by
  unfold paramsOutcome at h
  cases hw : (params columns c).2 with
  | error e => simp [hw] at h
  | ok r =>
    simp only [hw, Except.map_ok', Except.ok.injEq, Prod.mk.injEq] at h
    exact h.2 ▸ r.2.2

end Parser
end ColumnExpr
