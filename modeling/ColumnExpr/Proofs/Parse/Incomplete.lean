/-
# Incomplete input and invalid input

A token list is grammatical over a set of columns when, fixed-kind tokens read by their kind,
it is the printing of a program that reads only those columns; it is viable when some tokens
after it make it grammatical. `parse` tells the two ways of failing apart. It reports an error
of the end of the input (`ParseError.atEnd`: an expression was due, or a token was missing and
the end of the input stood in its place) exactly on the viable lists that are not grammatical,
and any other error exactly on the lists that are not viable; once a prefix is not viable, the
tokens after it change nothing (`parse_error_iff_viability`).

The proof reads `parse` as the pushdown machine of `Parse.Pushdown`. A list is grammatical
exactly when the machine ends on it with nothing due, and viable exactly when the machine reads
all of it; the machine rejects a token only with errors that are not of the end, and the end
only with errors that are. That no token is shown as the end of the input
(`Token.display_ne_endOfInput`) is what keeps the two kinds of syntax error apart.

Key definitions: `ParseError.atEnd`, `Parser.Grammatical`, `Parser.Viable`.
Key theorems: `Parser.grammatical_iff_run`, `Parser.viable_iff_run`,
`Parser.parse_error_iff_viability`.
-/
import ColumnExpr.Proofs.Parse.Pushdown
namespace ColumnExpr

/-- No token is shown as the end of the input: a token's display starts with the word for its
kind. -/
theorem Token.display_ne_endOfInput (t : Token) : t.display ≠ "end of input" := by
  rcases t with ⟨kind, value⟩
  intro h
  have hchars := congrArg String.toList h
  cases kind <;> simp [display, TokenKind.describe] at hchars

namespace ParseError

theorem foundText_eq_endOfInput_iff {found : Option Token} :
    foundText found = "end of input" ↔ found = none := by
  cases found with
  | none => simp [foundText]
  | some t => simpa [foundText] using t.display_ne_endOfInput

/-- An error of the end of the input: an expression was due, or a missing token had the end of
the input in its place. -/
def atEnd : ParseError → Bool
  | .unexpectedEnd => true
  | .syntaxError _ found => foundText found == "end of input"
  | _ => false

@[simp] theorem atEnd_syntaxError_some (k : TokenKind) (t : Token) :
    (syntaxError k (some t)).atEnd = false := by
  simp [atEnd, foundText_eq_endOfInput_iff]

@[simp] theorem atEnd_syntaxError_none (k : TokenKind) : (syntaxError k none).atEnd = true := by
  simp [atEnd, foundText]

end ParseError

namespace Parser

/-- A token list is grammatical over `columns` when, fixed-kind tokens read by their kind, it is
the printing of a program that reads only columns of `columns`. -/
def Grammatical (columns : List String) (ts : List Token) : Prop :=
  ∃ body : List Node,
    Node.listColumnNames body ⊆ columns ∧ ts.map Token.canonical = Node.listTokens body

/-- A token list is viable when some tokens after it make it grammatical. -/
def Viable (columns : List String) (ts : List Token) : Prop :=
  ∃ more : List Token, Grammatical columns (ts ++ more)

namespace Pushdown

variable {columns : List String}

/-! ### Which errors the machine reports where -/

theorem feedExpr_error_not_atEnd {K : List Goal} {t : Token} {e : ParseError}
    (h : feedExpr columns K t = .error e) : e.atEnd = false := by
  unfold feedExpr at h
  split at h
  · cases h
  · cases h
  · split at h
    · cases h
    · cases h
      rfl
  · cases h
  · cases h
  · cases h
    rfl

/-- Reading a token, the machine never reports the end of the input. -/
theorem feed_error_not_atEnd {K : List Goal} {t : Token} {e : ParseError}
    (h : feed columns K t = .error e) : e.atEnd = false := by
  match K with
  | [] => exact feedExpr_error_not_atEnd h
  | .expr :: K => exact feedExpr_error_not_atEnd h
  | .token k :: K =>
    rw [feed] at h
    split at h
    · cases h
    · cases h
      exact ParseError.atEnd_syntaxError_some k t
  | .params :: K =>
    rw [feed] at h
    split at h
    · cases h
    · exact feedExpr_error_not_atEnd h

theorem run_error_not_atEnd {K : List Goal} {ts : List Token} {e : ParseError}
    (h : run columns K ts = .error e) : e.atEnd = false := by
  induction ts generalizing K with
  | nil => cases h
  | cons t ts ih =>
    rw [run_cons] at h
    rcases Except.bind_eq_error'.mp h with hfeed | ⟨K', _, hrun⟩
    · exact feed_error_not_atEnd hfeed
    · exact ih hrun

/-- At the end of the input, the machine reports only the end of the input. -/
theorem finish_error_atEnd {K : List Goal} {e : ParseError} (h : finish K = .error e) :
    e.atEnd = true := by
  match K with
  | [] => cases h
  | .expr :: _ => cases h; rfl
  | .token k :: _ => cases h; exact ParseError.atEnd_syntaxError_none k
  | .params :: _ => cases h; exact ParseError.atEnd_syntaxError_none _

theorem finish_eq_ok_iff {K : List Goal} : finish K = .ok () ↔ K = [] := by
  match K with
  | [] => simp [finish]
  | g :: _ => cases g <;> simp [finish]

theorem verdict_eq_ok_iff {K : List Goal} {ts : List Token} :
    verdict columns K ts = .ok () ↔ run columns K ts = .ok [] := by
  rw [verdict, Except.bind_eq_ok']
  constructor
  · rintro ⟨K', hrun, hfin⟩
    rw [hrun, finish_eq_ok_iff.mp hfin]
  · intro hrun
    exact ⟨[], hrun, rfl⟩

end Pushdown

open Pushdown

variable {columns : List String} {ts : List Token}

/-! ### Parsing in the machine's terms -/

theorem parse_ok_iff_run : (∃ prog, parse ts columns = .ok prog) ↔ run columns [] ts = .ok [] := by
  rw [← verdict_eq_ok_iff, ← parse_map_eq_verdict]
  cases parse ts columns with
  | error e => simp
  | ok prog => simp

theorem parse_error_iff_verdict {e : ParseError} :
    parse ts columns = .error e ↔ verdict columns [] ts = .error e := by
  rw [← parse_map_eq_verdict]
  cases parse ts columns with
  | error e' => simp
  | ok prog => simp

theorem parse_eq_error_of_run {e : ParseError} (h : run columns [] ts = .error e) :
    parse ts columns = .error e := by
  rw [parse_error_iff_verdict, verdict, h]
  rfl

/-- A list is grammatical exactly when the machine ends on it with nothing due. -/
theorem grammatical_iff_run : Grammatical columns ts ↔ run columns [] ts = .ok [] := by
  constructor
  · rintro ⟨body, hcols, hts⟩
    have hprinted : run columns [] (Node.listTokens body) = .ok [] :=
      parse_ok_iff_run.mp ⟨_, parse_listTokens body hcols⟩
    rw [← hts] at hprinted
    exact run_of_map_canonical hprinted
  · intro hrun
    obtain ⟨prog, hparse⟩ := parse_ok_iff_run.mpr hrun
    obtain ⟨hcols, hts⟩ := parse_sound hparse
    exact ⟨prog.body, hcols, hts.symm⟩

/-- A list is viable exactly when the machine reads all of it. -/
theorem viable_iff_run : Viable columns ts ↔ ∃ K, run columns [] ts = .ok K := by
  constructor
  · rintro ⟨more, hmore⟩
    have hrun := grammatical_iff_run.mp hmore
    rw [run_append] at hrun
    obtain ⟨K, hK, -⟩ := Except.bind_eq_ok'.mp hrun
    exact ⟨K, hK⟩
  · rintro ⟨K, hK⟩
    -- what is due when the tokens run out is closed by its closing tokens
    refine ⟨closing K, grammatical_iff_run.mpr ?_⟩
    rw [run_append, hK, Except.ok_bind', run_closing]

theorem run_eq_error_of_not_viable (h : ¬ Viable columns ts) :
    ∃ e, run columns [] ts = .error e := by
  cases hrun : run columns [] ts with
  | error e => exact ⟨e, rfl⟩
  | ok K => exact absurd (viable_iff_run.mpr ⟨K, hrun⟩) h

/-! ### The two ways of failing -/

/-- `parse` reports the end of the input exactly on viable lists that are not grammatical. -/
theorem parse_error_atEnd_iff :
    (∃ e, parse ts columns = .error e ∧ e.atEnd = true) ↔
      Viable columns ts ∧ ¬ Grammatical columns ts := by
  rw [viable_iff_run, grammatical_iff_run]
  constructor
  · rintro ⟨e, hparse, hend⟩
    rw [parse_error_iff_verdict, verdict] at hparse
    cases hrun : run columns [] ts with
    | error e' =>
      rw [hrun] at hparse
      cases hparse
      rw [run_error_not_atEnd hrun] at hend
      cases hend
    | ok K =>
      rw [hrun, Except.ok_bind'] at hparse
      refine ⟨⟨K, rfl⟩, fun hnil => ?_⟩
      cases hnil
      cases hparse
  · rintro ⟨⟨K, hK⟩, hnil⟩
    cases hfin : finish K with
    | error e =>
      refine ⟨e, ?_, finish_error_atEnd hfin⟩
      rw [parse_error_iff_verdict, verdict, hK, Except.ok_bind', hfin]
    | ok u =>
      exact absurd (by rw [hK, finish_eq_ok_iff.mp hfin]) hnil

/-- `parse` reports an error other than the end of the input exactly on lists that are not
viable. -/
theorem parse_error_not_atEnd_iff :
    (∃ e, parse ts columns = .error e ∧ e.atEnd = false) ↔ ¬ Viable columns ts := by
  constructor
  · rintro ⟨e, hparse, hnot⟩ hviable
    obtain ⟨K, hK⟩ := viable_iff_run.mp hviable
    rw [parse_error_iff_verdict, verdict, hK, Except.ok_bind'] at hparse
    rw [finish_error_atEnd hparse] at hnot
    cases hnot
  · intro h
    obtain ⟨e, hrun⟩ := run_eq_error_of_not_viable h
    exact ⟨e, parse_eq_error_of_run hrun, run_error_not_atEnd hrun⟩

/-- Once a prefix is not viable, `parse` has decided: the tokens after it change nothing. -/
theorem parse_append_of_not_viable {pre : List Token} (h : ¬ Viable columns pre)
    (more : List Token) : parse (pre ++ more) columns = parse pre columns := by
  obtain ⟨e, hrun⟩ := run_eq_error_of_not_viable h
  have hlong : run columns [] (pre ++ more) = .error e := by
    rw [run_append, hrun]
    rfl
  rw [parse_eq_error_of_run hrun, parse_eq_error_of_run hlong]

/-- **Incomplete input is told apart from invalid input, at the first offending token.**
`parse` fails with an error of the end of the input exactly when the tokens are viable but not
grammatical, and with any other error exactly when they are not viable; and when the tokens up to
index `k` are not viable, whatever follows them, `parse` gives what it gives on all the tokens. -/
theorem parse_error_iff_viability (columns : List String) (ts : List Token) :
    ((∃ e, parse ts columns = .error e ∧ e.atEnd = true) ↔
        Viable columns ts ∧ ¬ Grammatical columns ts) ∧
      ((∃ e, parse ts columns = .error e ∧ e.atEnd = false) ↔ ¬ Viable columns ts) ∧
      ∀ (k : Nat) (more : List Token), ¬ Viable columns (ts.take (k + 1)) →
        parse (ts.take (k + 1) ++ more) columns = parse ts columns := by
  refine ⟨parse_error_atEnd_iff, parse_error_not_atEnd_iff, fun k more h => ?_⟩
  calc parse (ts.take (k + 1) ++ more) columns
      = parse (ts.take (k + 1)) columns := parse_append_of_not_viable h more
    _ = parse (ts.take (k + 1) ++ ts.drop (k + 1)) columns :=
        (parse_append_of_not_viable h _).symm
    _ = parse ts columns := by rw [List.take_append_drop]

/-- After `1`, a `)` starts nothing: `1 )` is not viable, and whatever stands after it, `parse`
gives what it gives on `1 ) 2`. -/
theorem parse_error_iff_viability_stray_paren :
    ¬ Viable [] [⟨.number, "1"⟩, ⟨.closeParen, ")"⟩] ∧
      parse ([⟨.number, "1"⟩, ⟨.closeParen, ")"⟩, ⟨.number, "2"⟩].take (1 + 1) ++
          [⟨.openParen, "("⟩]) [] =
        parse [⟨.number, "1"⟩, ⟨.closeParen, ")"⟩, ⟨.number, "2"⟩] [] := by
  have hparse : parse [⟨.number, "1"⟩, ⟨.closeParen, ")"⟩] [] =
      .error (.unrecognizedToken .closeParen) := by
    simp [parse_eq, programOutcome_cons, walkOutcome_cons]
  have hnot : ¬ Viable [] [⟨.number, "1"⟩, ⟨.closeParen, ")"⟩] :=
    (parse_error_iff_viability [] _).2.1.mp ⟨_, hparse, rfl⟩
  exact ⟨hnot, (parse_error_iff_viability [] _).2.2 1 _ hnot⟩

end Parser
end ColumnExpr
