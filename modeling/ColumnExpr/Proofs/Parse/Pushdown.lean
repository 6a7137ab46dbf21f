/-
# Parsing as a pushdown machine

The recursive descent of `Parser.walk` and `Parser.params` reads its tokens as a pushdown
machine does. The machine's stack holds what is still due: an expression, a token of a given
kind, or the parameters of a call up to their `)`; below the stack the program waits for its
next expression. A token is read by looking at it and at the top of the stack alone
(`Pushdown.feed`), and at the end of the input the stack must be empty, or its top is what the
end of the input is reported against (`Pushdown.finish`).

The machine and the parser agree on every token list: `parse` fails with the error that the
machine's run followed by the end of the input gives, and succeeds exactly when the machine
ends with nothing due (`parse_map_eq_verdict`). The agreement is proved for every stack at
once, by reading the stack as the parser's productions applied one after another
(`Pushdown.stackOutcome`); each production the parser starts at a token is the machine pushing
that production's goals, so one induction over the tokens carries it (`verdict_eq_stackOutcome`).

What the machine makes plain: a run over two pieces of input is the run over the first
continued by the run over the second (`run_append`), whatever is due can be closed by a few
tokens (`run_closing`), and a run reads fixed-kind tokens by their kind alone
(`run_of_map_canonical`).

Key definitions: `Pushdown.Goal`, `Pushdown.feed`, `Pushdown.run`, `Pushdown.finish`,
`Pushdown.verdict`, `Pushdown.closing`.
Key theorems: `Pushdown.verdict_eq_stackOutcome`, `Pushdown.parse_map_eq_verdict`,
`Pushdown.run_append`, `Pushdown.run_closing`.
-/
import ColumnExpr.Proofs.Parse.RoundTrip
namespace ColumnExpr
namespace Parser
namespace Pushdown

/-- What the parser still has to read. -/
inductive Goal where
  /-- One expression. -/
  | expr
  /-- One token of a kind. -/
  | token (k : TokenKind)
  /-- Parameters of a call, up to and including their `)`. -/
  | params
deriving DecidableEq, Repr

/-- What is due after `if`: the condition in brackets, then the two branches in braces with
`else` between them. -/
def ifGoals : List Goal :=
  [.token .openParen, .expr, .token .closeParen, .token .openBlock, .expr, .token .closeBlock,
    .token .elseKeyword, .token .openBlock, .expr, .token .closeBlock]

variable (columns : List String)

/-- Reads the first token of an expression, above the stack `K`. -/
def feedExpr (K : List Goal) (t : Token) : Except ParseError (List Goal) :=
  match t.kind with
  | .number | .string => .ok K
  | .name => if columns.contains t.value then .ok K else .error (.unknownVariable t.value)
  | .function => .ok (.token .openParen :: .params :: K)
  | .ifKeyword => .ok (ifGoals ++ K)
  | k => .error (.unrecognizedToken k)

/-- Reads one token; the top of the stack decides how. With nothing due, the token starts the
program's next expression; inside parameters, anything but `)` starts the next one. -/
def feed : List Goal → Token → Except ParseError (List Goal)
  | [], t => feedExpr columns [] t
  | .expr :: K, t => feedExpr columns K t
  | .token k :: K, t => if t.kind = k then .ok K else .error (.syntaxError k (some t))
  | .params :: K, t =>
    if t.kind = .closeParen then .ok K else feedExpr columns (.params :: K) t

/-- Reads the tokens one by one; the first error stops the run. -/
def run : List Goal → List Token → Except ParseError (List Goal)
  | K, [] => .ok K
  | K, t :: ts => feed columns K t >>= fun K' => run K' ts

/-- The end of the input: nothing may be due. -/
def finish : List Goal → Except ParseError Unit
  | [] => .ok ()
  | .expr :: _ => .error .unexpectedEnd
  | .token k :: _ => .error (.syntaxError k none)
  | .params :: _ => .error (.syntaxError .closeParen none)

/-- The machine's verdict on an input read from the stack `K`: the run, then the end. -/
def verdict (K : List Goal) (ts : List Token) : Except ParseError Unit :=
  run columns K ts >>= finish

/-- Tokens that close whatever is due: a number for an expression, the lexeme of a token, and
`)` for parameters. -/
def closing : List Goal → List Token
  | [] => []
  | .expr :: K => ⟨.number, "0"⟩ :: closing K
  | .token k :: K => Node.fixed k :: closing K
  | .params :: K => Node.fixed .closeParen :: closing K

variable {columns}

@[simp] theorem run_nil (K : List Goal) : run columns K [] = .ok K := rfl

theorem run_cons (K : List Goal) (t : Token) (ts : List Token) :
    run columns K (t :: ts) = feed columns K t >>= fun K' => run columns K' ts := rfl

theorem verdict_cons (K : List Goal) (t : Token) (ts : List Token) :
    verdict columns K (t :: ts) = feed columns K t >>= fun K' => verdict columns K' ts := by
  simp only [verdict, run_cons, bind_assoc]

/-- A run over two pieces of input is the run over the first, continued over the second. -/
theorem run_append (K : List Goal) (ts us : List Token) :
    run columns K (ts ++ us) = run columns K ts >>= fun K' => run columns K' us := by
  induction ts generalizing K with
  | nil => rfl
  | cons t ts ih => simp only [List.cons_append, run_cons, ih, bind_assoc]

/-- The closing tokens empty the stack. -/
theorem run_closing : ∀ K : List Goal, run columns K (closing K) = .ok []
  | [] => rfl
  | .expr :: K => by
    rw [closing, run_cons]
    exact run_closing K
  | .token k :: K => by
    rw [closing, run_cons]
    simp only [feed, Node.fixed_kind, if_true, Except.ok_bind']
    exact run_closing K
  | .params :: K => by
    rw [closing, run_cons]
    simp only [feed, Node.fixed_kind, if_true, Except.ok_bind']
    exact run_closing K

/-! ### Fixed-kind tokens are read by their kind -/

theorem feedExpr_canonical (K : List Goal) (t : Token) :
    feedExpr columns K t.canonical = feedExpr columns K t := by
  rcases t with ⟨kind, value⟩
  cases kind <;> rfl

theorem feed_of_canonical {K K' : List Goal} {t : Token}
    (h : feed columns K t.canonical = .ok K') : feed columns K t = .ok K' := by
  have hkind : t.canonical.kind = t.kind := Token.canonical_kind t
  match K with
  | [] => rwa [feed, feedExpr_canonical] at h
  | .expr :: K => rwa [feed, feedExpr_canonical] at h
  | .token k :: K =>
    rw [feed, hkind] at h
    rw [feed]
    by_cases hk : t.kind = k
    · rw [if_pos hk] at h ⊢
      exact h
    · rw [if_neg hk] at h
      cases h
  | .params :: K => rwa [feed, hkind, feedExpr_canonical] at h

/-- A run that reads the canonical forms of tokens to its end reads the tokens to the same end. -/
theorem run_of_map_canonical {K K' : List Goal} {ts : List Token}
    (h : run columns K (ts.map Token.canonical) = .ok K') : run columns K ts = .ok K' := by
  induction ts generalizing K with
  | nil => exact h
  | cons t ts ih =>
    rw [List.map_cons, run_cons] at h
    obtain ⟨K1, h1, h2⟩ := Except.bind_eq_ok'.mp h
    rw [run_cons, feed_of_canonical h1, Except.ok_bind']
    exact ih h2

/-! ### The machine is the parser -/

variable (columns) in
/-- What the parser does for one goal, keeping only where it stops. -/
def goalOutcome : Goal → Cursor → Except ParseError Cursor
  | .expr, c => (walkOutcome columns c).map Prod.snd
  | .token k, c => expectOutcome k c
  | .params, c => (paramsOutcome columns c).map Prod.snd

variable (columns) in
/-- The parser's productions for the goals of a stack, one after another, and then the rest
of the program. -/
def stackOutcome : List Goal → Cursor → Except ParseError Unit
  | [], c => programOutcome columns c >>= fun _ => pure ()
  | g :: K, c => goalOutcome columns g c >>= stackOutcome K

/-! The stack lemmas are stated for the stack's outcome as a function of the cursor: that is
how a goal's outcome is passed on by `>>=`. -/

theorem stackOutcome_token (k : TokenKind) (K : List Goal) :
    stackOutcome columns (.token k :: K) = fun c => expectOutcome k c >>= stackOutcome columns K :=
  rfl

theorem stackOutcome_expr (K : List Goal) :
    stackOutcome columns (.expr :: K) =
      fun c => walkOutcome columns c >>= fun r => stackOutcome columns K r.2 := by
  funext c
  simp only [stackOutcome, goalOutcome]
  cases walkOutcome columns c <;> rfl

theorem stackOutcome_params (K : List Goal) :
    stackOutcome columns (.params :: K) =
      fun c => paramsOutcome columns c >>= fun r => stackOutcome columns K r.2 := by
  funext c
  simp only [stackOutcome, goalOutcome]
  cases paramsOutcome columns c <;> rfl

/-- An expression's first token, read by the machine, is the parser's whole production for it
once the tokens after it agree. -/
theorem verdict_expr_cons {t : Token} {more : List Token} {p : Nat}
    (ih : ∀ K p, verdict columns K more = stackOutcome columns K ⟨more, p⟩) (K : List Goal) :
    verdict columns (.expr :: K) (t :: more) = stackOutcome columns (.expr :: K) ⟨t :: more, p⟩ := by
  simp only [verdict_cons, stackOutcome_expr, walkOutcome_cons]
  rcases t with ⟨kind, value⟩
  cases kind with
  | number | string => simp [feed, feedExpr, ih K (p + 1)]
  | name =>
    simp only [feed, feedExpr]
    by_cases hc : value ∈ columns
    · simp [hc, ih K (p + 1)]
    · simp [hc]
  | function =>
    simp only [feed, feedExpr, Except.ok_bind', ih _ (p + 1), stackOutcome_token,
      stackOutcome_params, bind_assoc, pure_bind]
  | ifKeyword =>
    simp only [feed, feedExpr, Except.ok_bind', ih _ (p + 1), ifGoals, List.cons_append,
      List.nil_append, stackOutcome_token, stackOutcome_expr, bind_assoc, pure_bind]
  | elseKeyword | openParen | closeParen | openBlock | closeBlock => rfl

/-- **The machine is the parser.** From any stack, the machine's verdict on the tokens left is
what the parser's productions for the stack's goals, and then the program, give. -/
theorem verdict_eq_stackOutcome (ts : List Token) :
    ∀ (K : List Goal) (p : Nat), verdict columns K ts = stackOutcome columns K ⟨ts, p⟩ := by
  induction ts with
  | nil =>
    intro K p
    cases K with
    | nil => simp [verdict, finish, stackOutcome]
    | cons g K =>
      cases g <;> simp [verdict, finish, stackOutcome_token, stackOutcome_expr, stackOutcome_params]
  | cons t more ih =>
    intro K p
    match K with
    | [] =>
      -- with nothing due, the token starts the program's next expression
      calc verdict columns [] (t :: more)
          = verdict columns [.expr] (t :: more) := by simp only [verdict_cons, feed]
        _ = stackOutcome columns [.expr] ⟨t :: more, p⟩ := verdict_expr_cons ih []
        _ = stackOutcome columns [] ⟨t :: more, p⟩ := by
          simp only [stackOutcome_expr]
          simp only [stackOutcome, programOutcome_cons, bind_assoc, pure_bind]
    | .expr :: K => exact verdict_expr_cons ih K
    | .token k :: K =>
      simp only [verdict_cons, feed, stackOutcome_token, expectOutcome_cons]
      by_cases hk : t.kind = k
      · simp only [if_pos hk, Except.ok_bind']
        exact ih K (p + 1)
      · simp only [if_neg hk, Except.error_bind']
    | .params :: K =>
      by_cases hclose : t.kind = .closeParen
      · simp only [verdict_cons, feed, if_pos hclose, Except.ok_bind', stackOutcome_params,
          paramsOutcome_cons]
        exact ih K (p + 1)
      · -- inside parameters, anything but `)` starts the next parameter
        calc verdict columns (.params :: K) (t :: more)
            = verdict columns (.expr :: .params :: K) (t :: more) := by
              simp only [verdict_cons, feed, if_neg hclose]
          _ = stackOutcome columns (.expr :: .params :: K) ⟨t :: more, p⟩ :=
              verdict_expr_cons ih _
          _ = stackOutcome columns (.params :: K) ⟨t :: more, p⟩ := by
              simp only [stackOutcome_expr, stackOutcome_params, paramsOutcome_cons, if_neg hclose,
                bind_assoc, pure_bind]

/-- `parse` fails with the machine's error, and succeeds where the machine ends with nothing
due. -/
theorem parse_map_eq_verdict (ts : List Token) :
    (parse ts columns).map (fun _ => ()) = verdict columns [] ts := by
  rw [parse_eq, verdict_eq_stackOutcome ts [] 0, stackOutcome]
  cases programOutcome columns ⟨ts, 0⟩ <;> rfl

end Pushdown
end Parser
end ColumnExpr
