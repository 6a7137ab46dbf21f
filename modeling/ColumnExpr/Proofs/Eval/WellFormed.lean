/-
# Programs read from source text are well formed

A program that the parser builds from the tokens of a source text is well formed for the
evaluator at every node (`source_program_wellFormed`): a call names a built-in function, a
number literal has the lexer's shape `-?[0-9]+(\.[0-9]+)?`, and a column is a permitted one.
Each of these crosses the stages. The lexer writes a word as a function token only when it is a
built-in function's name and reads numbers only in that shape (`Lexer.lexable_of_tokenize`); the
parser copies token texts into nodes at every depth, since its result prints back to its tokens
(`Parser.parse_sound`), and admits only permitted columns; and every node's tokens are among the
tokens of the whole program (`Node.toTokens_subset_of_mem_nodes`).

On the evaluator's side, an unknown-function error always names a call in the tree whose name is
no built-in function (`Eval.outcome_unknownFunction`), so a well-formed program never fails that
way. A number literal of the lexer's shape is numeric text (`Lexer.isNumeric_of_isNumberText`):
it evaluates to a number or is out of range, never a type error, and `is_num` passes over it.

Key definitions: `Node.nodes`, `Program.nodes`, `Node.Resolved`.
Key theorems: `Node.toTokens_subset_of_mem_nodes`, `Eval.outcome_unknownFunction`,
`Lexer.isNumeric_of_isNumberText`, `source_program_wellFormed`.
-/
import Mathlib
import ColumnExpr.Proofs.Lex.RoundTrip
import ColumnExpr.Proofs.Parse.RoundTrip
import ColumnExpr.Proofs.Eval.IsNum
import ColumnExpr.Proofs.Number.Grammar
namespace ColumnExpr
namespace Node

mutual
/-- The nodes of an expression: the expression itself, then the nodes of its parts in order. -/
def nodes : Node → List Node
  | number s => [number s]
  | string s => [string s]
  | column n => [column n]
  | call f ps => call f ps :: listNodes ps
  | conditional c t f => conditional c t f :: (nodes c ++ nodes t ++ nodes f)

/-- The nodes of expressions one after another. -/
def listNodes : List Node → List Node
  | [] => []
  | n :: ns => nodes n ++ listNodes ns
end

/-- What the evaluator needs of one node: a call names a built-in function, a number literal
has the lexer's shape, and a column is one of the permitted `columns`. -/
def Resolved (columns : List String) : Node → Prop
  | number s => Lexer.IsNumberText s.toList
  | string _ => True
  | column n => n ∈ columns
  | call f _ => (Builtin.lookup f).isSome
  | conditional _ _ _ => True

theorem mem_nodes_self (n : Node) : n ∈ n.nodes := by
  cases n <;> simp [nodes]

mutual
/-- **A node's tokens are among the tokens of every expression it is a node of.** -/
theorem toTokens_subset_of_mem_nodes {m : Node} :
    ∀ {n : Node}, m ∈ n.nodes → m.toTokens ⊆ n.toTokens
  | number _, h | string _, h | column _, h => by
    rw [nodes, List.mem_singleton] at h
    rw [h]
    exact List.Subset.refl _
  | call f ps, h => by
    rw [nodes, List.mem_cons] at h
    rcases h with rfl | h
    · exact List.Subset.refl _
    · intro t ht
      have := listTokens_subset_of_mem_listNodes h ht
      simp [toTokens, this]
  | conditional c t f, h => by
    rw [nodes, List.mem_cons] at h
    rcases h with rfl | h
    · exact List.Subset.refl _
    · intro u hu
      simp only [List.mem_append] at h
      rcases h with (h | h) | h
      · simp [toTokens, toTokens_subset_of_mem_nodes h hu]
      · simp [toTokens, toTokens_subset_of_mem_nodes h hu]
      · simp [toTokens, toTokens_subset_of_mem_nodes h hu]

theorem listTokens_subset_of_mem_listNodes {m : Node} :
    ∀ {ns : List Node}, m ∈ listNodes ns → m.toTokens ⊆ listTokens ns
  | [], h => by simp [listNodes] at h
  | n :: ns, h => by
    rw [listNodes, List.mem_append] at h
    rw [listTokens]
    rcases h with h | h
    · exact List.Subset.trans (toTokens_subset_of_mem_nodes h) (List.subset_append_left _ _)
    · exact List.Subset.trans (listTokens_subset_of_mem_listNodes h)
        (List.subset_append_right _ _)
end

mutual
/-- **A column node's name is among the column names of every expression it is a node of.** -/
theorem mem_columnNames_of_mem_nodes {x : String} :
    ∀ {n : Node}, column x ∈ n.nodes → x ∈ n.columnNames
  | number _, h | string _, h => by simp [nodes] at h
  | column _, h => by
    simp only [nodes, List.mem_singleton, column.injEq] at h
    simp [columnNames, h]
  | call f ps, h => by
    simp only [nodes, List.mem_cons, reduceCtorEq, false_or] at h
    exact mem_listColumnNames_of_mem_listNodes h
  | conditional c t f, h => by
    simp only [nodes, List.mem_cons, reduceCtorEq, false_or, List.mem_append] at h
    simp only [columnNames, List.mem_append]
    rcases h with (h | h) | h
    · exact .inl (.inl (mem_columnNames_of_mem_nodes h))
    · exact .inl (.inr (mem_columnNames_of_mem_nodes h))
    · exact .inr (mem_columnNames_of_mem_nodes h)

theorem mem_listColumnNames_of_mem_listNodes {x : String} :
    ∀ {ns : List Node}, column x ∈ listNodes ns → x ∈ listColumnNames ns
  | [], h => by simp [listNodes] at h
  | n :: ns, h => by
    rw [listNodes, List.mem_append] at h
    rw [listColumnNames, List.mem_append]
    rcases h with h | h
    · exact .inl (mem_columnNames_of_mem_nodes h)
    · exact .inr (mem_listColumnNames_of_mem_listNodes h)
end

end Node

/-- The nodes of a program's expressions, one expression after another. -/
def Program.nodes (p : Program) : List Node := Node.listNodes p.body

/-! ### What the lexer reads -/

theorem Token.Lexable.canonical {t : Token} (h : t.Lexable) : t.canonical.Lexable := by
  cases hk : t.kind.lexeme with
  | none => rwa [Token.canonical_of_not_fixed hk]
  | some s =>
    rw [Token.canonical_of_lexeme hk]
    rcases t with ⟨kind, v⟩
    cases kind <;> first | exact hk | cases hk

namespace Lexer

theorem isBlank_of_isDigit {c : Char} (h : c.isDigit = true) : Text.isBlank c = false := by
  have hc := toNat_of_isDigit h
  rw [Bool.eq_false_iff]
  intro hb
  simp [Text.isBlank, Text.blankCodes] at hb
  omega

/-- No character of a number written `-?[0-9]+(\.[0-9]+)?` is blank. -/
theorem IsNumberText.not_blank {cs : List Char} (h : IsNumberText cs) :
    ∀ c ∈ cs, Text.isBlank c = false := by
  obtain ⟨sign, ds, frac, rfl, hsign, ⟨-, hds⟩, hfrac⟩ := h
  intro c hc
  simp only [List.mem_append] at hc
  rcases hc with (hc | hc) | hc
  · rcases hsign with rfl | rfl
    · cases hc
    · rw [List.mem_singleton.mp hc]
      decide
  · exact isBlank_of_isDigit (hds c hc)
  · rcases hfrac with rfl | ⟨fs, rfl, -, hfs⟩
    · cases hc
    · rcases List.mem_cons.mp hc with rfl | hc
      · decide
      · exact isBlank_of_isDigit (hfs c hc)

/-- A number written `-?[0-9]+(\.[0-9]+)?` is in the numeric grammar over ASCII digits. -/
theorem IsNumberText.grammar {cs : List Char} (h : IsNumberText cs) :
    NumberText.Grammar Char.isDigit cs := by
  obtain ⟨sign, ds, frac, rfl, hsign, hds, hfrac⟩ := h
  have hsign' : NumberText.Sign sign := by
    rcases hsign with rfl | rfl
    · exact .none
    · exact .minus
  have hm : NumberText.Mantissa Char.isDigit (ds ++ frac) := by
    rcases hfrac with rfl | ⟨fs, rfl, hfs⟩
    · rw [List.append_nil]
      exact .whole hds
    · exact .pointed hds hfs
  rw [List.append_assoc, ← List.append_nil (sign ++ (ds ++ frac)), List.append_assoc]
  rw [← List.append_assoc]
  exact .mk hsign' hm .none

/-- **A number the lexer reads is numeric text.** It has no blank to trim and is in the numeric
grammar, since ASCII digits are decimal digits. -/
theorem isNumeric_of_isNumberText {s : String} (h : IsNumberText s.toList) :
    NumberText.isNumeric s = true := by
  have hblank := h.not_blank
  have htrim : Text.trimChars s.toList = s.toList :=
    Text.trimChars_eq_self (fun c hc => hblank c (List.mem_of_mem_head? hc))
      (fun c hc => hblank c (List.mem_of_mem_getLast? hc))
  rw [NumberText.isNumeric_iff, htrim]
  exact h.grammar.mono Text.isDecimalDigit_of_isDigit

end Lexer

/-! ### Evaluation names an unknown function only where the tree calls one -/

namespace Eval

/-- A call named `f` stands among the nodes `ns`, and `f` is no built-in function. -/
def CallsUnknown (f : String) (ns : List Node) : Prop :=
  Builtin.lookup f = none ∧ ∃ ps, Node.call f ps ∈ ns

theorem CallsUnknown.mono {f : String} {ns ns' : List Node} (h : CallsUnknown f ns)
    (hsub : ns ⊆ ns') : CallsUnknown f ns' :=
  ⟨h.1, h.2.imp fun _ hps => hsub hps⟩

theorem ofNumberError_ne_unknownFunction (text : String) (e : NumberError) (f : String) :
    EvalError.ofNumberError text e ≠ .unknownFunction f := by
  cases e <;> simp [EvalError.ofNumberError]

theorem outcome_conditional (c t e : Node) :
    outcome (.conditional c t e) =
      outcome c >>= fun v => if v.isTruthy then outcome t else outcome e := by
  simp only [outcome, evalNode]
  split
  · next h => rw [h]; rfl
  · next v h =>
    rw [h, Except.ok_bind']
    split <;> rfl

/-- What a call does once its name is looked up: an unknown name fails at once, `is_num`
answers from its parameters, and `add` and `subtract` coerce their parameters and compute. -/
theorem outcome_call (name : String) (ps : List Node) :
    outcome (.call name ps) =
      match Builtin.lookup name with
      | none => .error (.unknownFunction name)
      | some .isNum => (evalIsNum ps).2.map Value.boolean
      | some f =>
        if ps.isEmpty then .error (.missingParameters f)
        else (evalNumbers ps).2 >>= fun ds =>
          match (if f = .add then sum ds else difference ds) with
          | some d => .ok (.number d)
          | none => .error (.numericOverflow f) := by
  cases hl : Builtin.lookup name with
  | none => simp only [outcome, evalNode, hl]
  | some f =>
    cases f with
    | isNum => simp only [outcome, evalNode, hl]
    | add | subtract =>
      simp only [outcome, evalNode, hl]
      split
      · rfl
      · obtain ⟨evs, r⟩ := evalNumbers ps
        cases r <;> rfl

theorem coerceParam_unknownFunction {p : Node} {f : String}
    (h : coerceParam p = .error (.unknownFunction f)) : outcome p = .error (.unknownFunction f) := by
  unfold coerceParam at h
  split at h
  · split at h
    · cases h
    · exact absurd (Except.error.inj h) (ofNumberError_ne_unknownFunction _ _ f)
  · next e he => rw [he, Except.error.inj h]

theorem numericParam_unknownFunction {p : Node} {f : String}
    (h : numericParam p = .error (.unknownFunction f)) : outcome p = .error (.unknownFunction f) := by
  cases p
  case number s => cases h
  all_goals
    simp only [numericParam] at h
    unfold numericOfOutcome at h
    split at h
    · cases h
    · cases h
    · next e hne he => rw [he]; cases h; rfl

mutual
/-- **An unknown-function error names a call in the tree whose name is no built-in
function.** -/
theorem outcome_unknownFunction {f : String} :
    ∀ {n : Node}, outcome n = .error (.unknownFunction f) → CallsUnknown f n.nodes
  | .number s, h => by
    simp only [outcome, evalNode] at h
    split at h
    · cases h
    · exact absurd (Except.error.inj h) (ofNumberError_ne_unknownFunction _ _ f)
  | .string _, h | .column _, h => by simp [outcome, evalNode] at h
  | .call name ps, h => by
    rw [outcome_call] at h
    have hsub : Node.listNodes ps ⊆ (Node.call name ps).nodes := fun m hm => by
      simp [Node.nodes, hm]
    split at h
    · next hnone =>
      cases h
      exact ⟨hnone, ps, Node.mem_nodes_self _⟩
    · -- `is_num` fails only where one of its parameters does
      obtain ⟨e, he, heq⟩ : ∃ e, (evalIsNum ps).2 = .error e ∧ e = .unknownFunction f := by
        cases hr : (evalIsNum ps).2 with
        | ok b => simp [hr] at h
        | error e => exact ⟨e, rfl, by simpa [hr] using h⟩
      subst heq
      exact (evalIsNum_unknownFunction he).mono hsub
    · split at h
      · cases h
      · -- `add` and `subtract` fail with this error only while coercing their parameters
        rw [Except.bind_eq_error'] at h
        rcases h with h | ⟨ds, -, h⟩
        · exact (evalNumbers_unknownFunction h).mono hsub
        · split at h <;> cases h
  | .conditional c t e, h => by
    rw [outcome_conditional, Except.bind_eq_error'] at h
    have hc : c.nodes ⊆ (Node.conditional c t e).nodes := fun m hm => by simp [Node.nodes, hm]
    have ht : t.nodes ⊆ (Node.conditional c t e).nodes := fun m hm => by simp [Node.nodes, hm]
    have he : e.nodes ⊆ (Node.conditional c t e).nodes := fun m hm => by simp [Node.nodes, hm]
    rcases h with h | ⟨v, -, h⟩
    · exact (outcome_unknownFunction h).mono hc
    · split at h
      · exact (outcome_unknownFunction h).mono ht
      · exact (outcome_unknownFunction h).mono he

theorem evalNumbers_unknownFunction {f : String} :
    ∀ {ps : List Node}, (evalNumbers ps).2 = .error (.unknownFunction f) →
      CallsUnknown f (Node.listNodes ps)
  | [], h => by simp [evalNumbers] at h
  | p :: ps, h => by
    rw [evalNumbers_cons, Except.bind_eq_error'] at h
    have hp : p.nodes ⊆ Node.listNodes (p :: ps) := List.subset_append_left _ _
    have hps : Node.listNodes ps ⊆ Node.listNodes (p :: ps) := List.subset_append_right _ _
    rcases h with h | ⟨d, -, h⟩
    · exact (outcome_unknownFunction (coerceParam_unknownFunction h)).mono hp
    · cases hr : (evalNumbers ps).2 with
      | ok ds => simp [hr] at h
      | error e =>
        rw [hr, Except.map_error', Except.error.injEq] at h
        subst h
        exact (evalNumbers_unknownFunction hr).mono hps

theorem evalIsNum_unknownFunction {f : String} :
    ∀ {ps : List Node}, (evalIsNum ps).2 = .error (.unknownFunction f) →
      CallsUnknown f (Node.listNodes ps)
  | [], h => by simp [evalIsNum] at h
  | p :: ps, h => by
    rw [evalIsNum_cons, Except.bind_eq_error'] at h
    have hp : p.nodes ⊆ Node.listNodes (p :: ps) := List.subset_append_left _ _
    have hps : Node.listNodes ps ⊆ Node.listNodes (p :: ps) := List.subset_append_right _ _
    rcases h with h | ⟨b, -, h⟩
    · exact (outcome_unknownFunction (numericParam_unknownFunction h)).mono hp
    · cases b with
      | false => cases h
      | true => exact (evalIsNum_unknownFunction h).mono hps
end

/-- A program's expressions: the first one's value, then the rest. -/
theorem evalList_cons (n : Node) (ns : List Node) :
    (evalList (n :: ns)).2 = outcome n >>= fun v => (evalList ns).2.map (v :: ·) := by
  simp only [evalList, outcome]
  split
  · next e he => rw [he]; rfl
  · next v he => rw [he]; rfl

theorem evalList_unknownFunction {f : String} :
    ∀ {ns : List Node}, (evalList ns).2 = .error (.unknownFunction f) →
      CallsUnknown f (Node.listNodes ns)
  | [], h => by simp [evalList] at h
  | n :: ns, h => by
    rw [evalList_cons, Except.bind_eq_error'] at h
    have hn : n.nodes ⊆ Node.listNodes (n :: ns) := List.subset_append_left _ _
    have hns : Node.listNodes ns ⊆ Node.listNodes (n :: ns) := List.subset_append_right _ _
    rcases h with h | ⟨v, -, h⟩
    · exact (outcome_unknownFunction h).mono hn
    · cases hr : (evalList ns).2 with
      | ok vs => simp [hr] at h
      | error e =>
        rw [hr, Except.map_error', Except.error.injEq] at h
        subst h
        exact (evalList_unknownFunction hr).mono hns

/-- A program whose calls all name built-in functions never fails with an unknown function. -/
theorem evaluate_ne_unknownFunction {p : Program}
    (h : ∀ ps name, Node.call name ps ∈ p.nodes → (Builtin.lookup name).isSome) (f : String) :
    evaluate p ≠ .error (.unknownFunction f) := by
  intro hev
  have hlist : (evalList p.body).2 = .error (.unknownFunction f) := by
    simpa [evaluate, evalProgramTraced] using hev
  obtain ⟨hnone, ps, hmem⟩ := evalList_unknownFunction hlist
  have := h ps f hmem
  simp [hnone] at this

/-- A number literal of numeric text evaluates to a number or is out of range. -/
theorem outcome_number_of_isNumeric {t : String} (h : NumberText.isNumeric t = true) :
    (∃ d, outcome (.number t) = .ok (.number d)) ∨ outcome (.number t) = .error (.numberOutOfRange t) := by
  simp only [outcome, evalNode]
  rcases parse_of_isNumeric h with ⟨d, hd⟩ | hd
  · exact .inl ⟨d, by rw [hd]⟩
  · exact .inr (by rw [hd]; rfl)

/-- `is_num` passes over a number literal of numeric text. -/
theorem evalIsNum_number_of_isNumeric {t : String} (h : NumberText.isNumeric t = true)
    (ps : List Node) : evalIsNum (.number t :: ps) = evalIsNum ps := by
  simp [evalIsNum, h]

end Eval

/-! ### Programs from source text -/

/-- Every token of a program parsed from lexed source text is lexable. -/
theorem lexable_of_source {s : String} {columns : List String} {ts : List Token} {p : Program}
    (hlex : Lexer.tokenize s = .ok ts) (hparse : Parser.parse ts columns = .ok p) :
    ∀ t ∈ Node.listTokens p.body, t.Lexable := by
  intro t ht
  rw [(Parser.parse_sound hparse).2, List.mem_map] at ht
  obtain ⟨u, hu, rfl⟩ := ht
  exact (Lexer.lexable_of_tokenize hlex u hu).canonical

/-- **Programs read from source text are well formed.** When a text lexes and its tokens parse,
every node of the program is resolved: its calls name built-in functions, its number literals
have the lexer's shape and its columns are permitted. So evaluating the program never fails with
an unknown function, and each of its number literals is numeric text, which evaluates to a
number or is out of range but is never a type error, and which `is_num` passes over. -/
theorem source_program_wellFormed {s : String} {columns : List String} {ts : List Token}
    {p : Program} (hlex : Lexer.tokenize s = .ok ts) (hparse : Parser.parse ts columns = .ok p) :
    (∀ n ∈ p.nodes, n.Resolved columns) ∧
      (∀ f, Eval.evaluate p ≠ .error (.unknownFunction f)) ∧
      ∀ t, Node.number t ∈ p.nodes →
        NumberText.isNumeric t = true ∧
          ((∃ d, Eval.outcome (.number t) = .ok (.number d)) ∨
            Eval.outcome (.number t) = .error (.numberOutOfRange t)) ∧
          ∀ ps, Eval.evalIsNum (.number t :: ps) = Eval.evalIsNum ps := by
  have hlexable := lexable_of_source hlex hparse
  have hown : ∀ n ∈ p.nodes, ∀ t ∈ n.toTokens, t.Lexable :=
    fun n hn t ht => hlexable t (Node.listTokens_subset_of_mem_listNodes hn ht)
  have hresolved : ∀ n ∈ p.nodes, n.Resolved columns := by
    intro n hn
    cases n with
    | number t => exact hown _ hn ⟨.number, t⟩ (by simp [Node.toTokens])
    | string _ => trivial
    | column x =>
      exact (Parser.parse_sound hparse).1 (Node.mem_listColumnNames_of_mem_listNodes hn)
    | call f ps =>
      have hf : (⟨.function, f⟩ : Token).Lexable := hown _ hn ⟨.function, f⟩ (by simp [Node.toTokens])
      exact Lexer.lookup_isSome_iff.mpr hf
    | conditional _ _ _ => trivial
  refine ⟨hresolved, Eval.evaluate_ne_unknownFunction fun ps f hmem => hresolved _ hmem, ?_⟩
  intro t ht
  have hnum : NumberText.isNumeric t = true := Lexer.isNumeric_of_isNumberText (hresolved _ ht)
  exact ⟨hnum, Eval.outcome_number_of_isNumeric hnum, Eval.evalIsNum_number_of_isNumeric hnum⟩

/-- `add(1, x)` over the column `x`: it lexes, parses, and its program is well formed. -/
theorem source_program_wellFormed_add :
    Lexer.tokenize "add(1, x)" = .ok [⟨.function, "add"⟩, ⟨.openParen, "("⟩, ⟨.number, "1"⟩,
        ⟨.name, "x"⟩, ⟨.closeParen, ")"⟩] ∧
      Parser.parse [⟨.function, "add"⟩, ⟨.openParen, "("⟩, ⟨.number, "1"⟩, ⟨.name, "x"⟩,
        ⟨.closeParen, ")"⟩] ["x"] = .ok ⟨[.call "add" [.number "1", .column "x"]]⟩ ∧
      (∀ n ∈ (⟨[.call "add" [.number "1", .column "x"]]⟩ : Program).nodes, n.Resolved ["x"]) ∧
      (∀ f, Eval.evaluate ⟨[.call "add" [.number "1", .column "x"]]⟩ ≠ .error (.unknownFunction f)) ∧
      ∀ t, Node.number t ∈ (⟨[.call "add" [.number "1", .column "x"]]⟩ : Program).nodes →
        NumberText.isNumeric t = true ∧
          ((∃ d, Eval.outcome (.number t) = .ok (.number d)) ∨
            Eval.outcome (.number t) = .error (.numberOutOfRange t)) ∧
          ∀ ps, Eval.evalIsNum (.number t :: ps) = Eval.evalIsNum ps := by
  have hlex : Lexer.tokenize "add(1, x)" = .ok [⟨.function, "add"⟩, ⟨.openParen, "("⟩,
      ⟨.number, "1"⟩, ⟨.name, "x"⟩, ⟨.closeParen, ")"⟩] := by cbv
  have hparse : Parser.parse [⟨.function, "add"⟩, ⟨.openParen, "("⟩, ⟨.number, "1"⟩,
      ⟨.name, "x"⟩, ⟨.closeParen, ")"⟩] ["x"] = .ok ⟨[.call "add" [.number "1", .column "x"]]⟩ := by
    simp [Parser.parse_eq, Parser.programOutcome_cons, Parser.walkOutcome_cons,
      Parser.expectOutcome_cons, Parser.paramsOutcome_cons]
  exact ⟨hlex, hparse, source_program_wellFormed hlex hparse⟩

end ColumnExpr
