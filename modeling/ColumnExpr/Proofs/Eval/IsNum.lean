/-
# `is_num` guards the arithmetic built-ins

`add` and `subtract` evaluate every parameter and coerce it to a number before they compute.
`is_num` takes its own route: it judges a number literal by its text without evaluating it,
stops at the first parameter that is not numeric, and counts a type error as "not numeric"
while passing every other error on. For every non-empty list of parameters the two agree
(`isNum_guards_arithmetic`): when `is_num` answers true, `add` and `subtract` succeed or fail
only because a number is out of range or a result does not fit, never with a type error; when
it answers anything else, they fail.

The argument goes one parameter at a time. `numericParam` is what `is_num` makes of a
parameter and `coerceParam` what the arithmetic built-ins make of it; a parameter `is_num`
accepts coerces or is out of range, and one it does not accept fails to coerce. The list
lemmas then follow the short-circuit of `is_num`, which stops where `add` stops too.

Key definitions: `Eval.outcome`, `Eval.numericParam`, `Eval.coerceParam`.
Key theorems: `Eval.coerceParam_of_numericParam_true`,
`Eval.coerceParam_error_of_numericParam_ne`, `Eval.isNum_guards_arithmetic`.
-/
import ColumnExpr.Eval
import ColumnExpr.Proofs.Except
namespace ColumnExpr
namespace Eval

/-- The result of evaluating an expression, its events aside. -/
def outcome (n : Node) : Except EvalError Value := (evalNode n).2

/-- What `is_num` makes of the result of evaluating a parameter: a value is judged by
`Value.isNumeric`, a type error counts as not numeric, any other error is the answer. -/
def numericOfOutcome : Except EvalError Value → Except EvalError Bool
  | .ok v => .ok v.isNumeric
  | .error (.numericCoercion _) => .ok false
  | .error e => .error e

/-- What `is_num` makes of one parameter: a number literal by its text alone, any other
parameter by the result of evaluating it. -/
def numericParam : Node → Except EvalError Bool
  | .number s => .ok (NumberText.isNumeric s)
  | p => numericOfOutcome (outcome p)

/-- What `add` and `subtract` make of one parameter: the number its value coerces to. -/
def coerceParam (p : Node) : Except EvalError Decimal :=
  match outcome p with
  | .ok v =>
    match v.toNumber with
    | .ok d => .ok d
    | .error ne => .error (EvalError.ofNumberError v.display ne)
  | .error e => .error e

/-! ### One parameter -/

theorem parse_of_isNumeric {s : String} (h : NumberText.isNumeric s = true) :
    (∃ d, NumberText.parse s = .ok d) ∨ NumberText.parse s = .error .outOfRange := by
  unfold NumberText.isNumeric at h
  unfold NumberText.parse
  simp only [h, Bool.not_true, Bool.false_eq_true, if_false]
  split
  · next d _ => exact .inl ⟨d, rfl⟩
  · exact .inr rfl

theorem parse_of_not_isNumeric {s : String} (h : NumberText.isNumeric s = false) :
    NumberText.parse s = .error .notNumeric := by
  unfold NumberText.isNumeric at h
  simp [NumberText.parse, h]

/-- A numeric value coerces to a number, or is numeric text out of range. -/
theorem toNumber_of_isNumeric {v : Value} (h : v.isNumeric = true) :
    (∃ d, v.toNumber = .ok d) ∨ v.toNumber = .error .outOfRange := by
  cases v with
  | number d => exact .inl ⟨d, rfl⟩
  | string s => exact parse_of_isNumeric h
  | boolean b => cases h

theorem toNumber_of_not_isNumeric {v : Value} (h : v.isNumeric = false) :
    v.toNumber = .error .notNumeric := by
  cases v with
  | number d => cases h
  | string s => exact parse_of_not_isNumeric h
  | boolean b => rfl

theorem coerceParam_number (s : String) :
    coerceParam (.number s) =
      match NumberText.parse s with
      | .ok d => .ok d
      | .error e => .error (EvalError.ofNumberError s e) := by
  simp only [coerceParam, outcome, evalNode]
  cases NumberText.parse s <;> rfl

/-- **A parameter `is_num` accepts coerces to a number, or is a number out of range.** -/
theorem coerceParam_of_numericParam_true {p : Node} (h : numericParam p = .ok true) :
    (∃ d, coerceParam p = .ok d) ∨ ∃ t, coerceParam p = .error (.numberOutOfRange t) := by
  cases p
  case number s =>
    have hs : NumberText.isNumeric s = true := by simpa [numericParam] using h
    rw [coerceParam_number]
    rcases parse_of_isNumeric hs with ⟨d, hd⟩ | hd
    · exact .inl ⟨d, by rw [hd]⟩
    · exact .inr ⟨s, by rw [hd]; rfl⟩
  all_goals
    simp only [numericParam] at h
    unfold coerceParam
    cases ho : outcome _ with
    | error e =>
      rw [ho] at h
      cases e <;> simp [numericOfOutcome] at h
    | ok v =>
      have hv : v.isNumeric = true := by simpa [ho, numericOfOutcome] using h
      rcases toNumber_of_isNumeric hv with ⟨d, hd⟩ | hd
      · exact .inl ⟨d, by simp [hd]⟩
      · exact .inr ⟨v.display, by simp [hd, EvalError.ofNumberError]⟩

/-- **A parameter `is_num` does not accept fails to coerce.** -/
theorem coerceParam_error_of_numericParam_ne {p : Node} (h : numericParam p ≠ .ok true) :
    ∃ e, coerceParam p = .error e := by
  cases p
  case number s =>
    have hs : NumberText.isNumeric s = false := by simpa [numericParam] using h
    exact ⟨.numericCoercion s, by rw [coerceParam_number, parse_of_not_isNumeric hs]; rfl⟩
  all_goals
    simp only [numericParam] at h
    unfold coerceParam
    cases ho : outcome _ with
    | error e => exact ⟨e, rfl⟩
    | ok v =>
      have hv : v.isNumeric = false := by simpa [ho, numericOfOutcome] using h
      exact ⟨EvalError.ofNumberError v.display .notNumeric,
        by simp [toNumber_of_not_isNumeric hv]⟩

/-! ### Lists of parameters -/

/-- `is_num` over parameters: the first parameter's answer, then the rest when it is true. -/
theorem evalIsNum_cons (p : Node) (ps : List Node) :
    (evalIsNum (p :: ps)).2 =
      numericParam p >>= fun b => if b then (evalIsNum ps).2 else .ok false := by
  cases p
  case number s =>
    simp only [evalIsNum, numericParam, Except.ok_bind']
    split <;> rfl
  all_goals
    simp only [evalIsNum, numericParam, numericOfOutcome, outcome]
    split
    · next v hv =>
      rw [hv]
      split <;> simp_all
    · next t hv => rw [hv]; rfl
    · next e hne hv =>
      rw [hv]
      cases e <;> simp_all

/-- `add` and `subtract` over parameters: the first parameter's number, then the rest. -/
theorem evalNumbers_cons (p : Node) (ps : List Node) :
    (evalNumbers (p :: ps)).2 = coerceParam p >>= fun d => (evalNumbers ps).2.map (d :: ·) := by
  simp only [evalNumbers, coerceParam, outcome]
  split
  · next e he => rw [he]; rfl
  · next v hv =>
    rw [hv]
    split <;> simp_all

theorem evalNumbers_of_evalIsNum_true :
    ∀ {ps : List Node}, (evalIsNum ps).2 = .ok true →
      (∃ ds, (evalNumbers ps).2 = .ok ds) ∨ ∃ t, (evalNumbers ps).2 = .error (.numberOutOfRange t)
  | [], _ => .inl ⟨[], rfl⟩
  | p :: ps, h => by
    rw [evalIsNum_cons] at h
    rw [evalNumbers_cons]
    cases hp : numericParam p with
    | error e => simp [hp] at h
    | ok b =>
      cases b with
      | false => simp [hp] at h
      | true =>
        simp only [hp, Except.ok_bind', if_true] at h
        rcases coerceParam_of_numericParam_true hp with ⟨d, hd⟩ | ⟨t, hd⟩
        · rw [hd, Except.ok_bind']
          rcases evalNumbers_of_evalIsNum_true h with ⟨ds, hds⟩ | ⟨t, hds⟩
          · exact .inl ⟨d :: ds, by rw [hds]; rfl⟩
          · exact .inr ⟨t, by rw [hds]; rfl⟩
        · exact .inr ⟨t, by rw [hd]; rfl⟩

theorem evalNumbers_error_of_evalIsNum_ne :
    ∀ {ps : List Node}, (evalIsNum ps).2 ≠ .ok true → ∃ e, (evalNumbers ps).2 = .error e
  | [], h => absurd rfl h
  | p :: ps, h => by
    rw [evalIsNum_cons] at h
    rw [evalNumbers_cons]
    by_cases hp : numericParam p = .ok true
    · simp only [hp, Except.ok_bind', if_true] at h
      rcases coerceParam_of_numericParam_true hp with ⟨d, hd⟩ | ⟨t, hd⟩
      · obtain ⟨e, he⟩ := evalNumbers_error_of_evalIsNum_ne h
        exact ⟨e, by rw [hd, Except.ok_bind', he]; rfl⟩
      · exact ⟨_, by rw [hd]; rfl⟩
    · obtain ⟨e, he⟩ := coerceParam_error_of_numericParam_ne hp
      exact ⟨e, by rw [he]; rfl⟩

/-! ### The built-ins -/

theorem outcome_isNum (ps : List Node) :
    outcome (.call "is_num" ps) = (evalIsNum ps).2.map Value.boolean := by
  simp only [outcome, evalNode]
  rfl

theorem outcome_arithmetic {name : String} {f : Builtin} (hf : Builtin.lookup name = some f)
    (hne : f ≠ .isNum) {ps : List Node} (hps : ps ≠ []) :
    outcome (.call name ps) =
      (evalNumbers ps).2 >>= fun ds =>
        match (if f = .add then sum ds else difference ds) with
        | some d => .ok (.number d)
        | none => .error (.numericOverflow f) := by
  have hps' : ps.isEmpty = false := List.isEmpty_eq_false_iff.mpr hps
  simp only [outcome, evalNode, hf]
  cases f with
  | isNum => exact absurd rfl hne
  | add | subtract =>
    simp only [hps', Bool.false_eq_true, if_false]
    obtain ⟨evs, r⟩ := evalNumbers ps
    cases r <;> rfl

/-- **`is_num` is an exact guard for `add` and `subtract`.** For every non-empty list of
parameters: when `is_num` over them is true, `add` and `subtract` over them give a number or
fail only with an out-of-range number or an overflow; when `is_num` gives anything else,
`add` and `subtract` fail. -/
theorem isNum_guards_arithmetic (ps : List Node) (hps : ps ≠ []) :
    ∀ name ∈ ["add", "subtract"],
      (outcome (.call "is_num" ps) = .ok (.boolean true) →
        (∃ d, outcome (.call name ps) = .ok (.number d)) ∨
        (∃ t, outcome (.call name ps) = .error (.numberOutOfRange t)) ∨
        (∃ f, outcome (.call name ps) = .error (.numericOverflow f))) ∧
      (outcome (.call "is_num" ps) ≠ .ok (.boolean true) →
        ∃ e, outcome (.call name ps) = .error e) := by
  intro name hname
  obtain ⟨f, hf, hne⟩ : ∃ f, Builtin.lookup name = some f ∧ f ≠ .isNum := by
    simp only [List.mem_cons, List.not_mem_nil, or_false] at hname
    rcases hname with rfl | rfl
    · exact ⟨.add, rfl, by decide⟩
    · exact ⟨.subtract, rfl, by decide⟩
  rw [outcome_arithmetic hf hne hps, outcome_isNum]
  have harith : ∀ ds : List Decimal,
      (∃ d, (match (if f = .add then sum ds else difference ds) with
        | some d => (Except.ok (Value.number d) : Except EvalError Value)
        | none => .error (.numericOverflow f)) = .ok (.number d)) ∨
      (match (if f = .add then sum ds else difference ds) with
        | some d => (Except.ok (Value.number d) : Except EvalError Value)
        | none => .error (.numericOverflow f)) = .error (.numericOverflow f) := by
    intro ds
    split
    · next d _ => exact .inl ⟨d, rfl⟩
    · exact .inr rfl
  refine ⟨fun h => ?_, fun h => ?_⟩
  · have htrue : (evalIsNum ps).2 = .ok true := by
      cases hr : (evalIsNum ps).2 with
      | error e => simp [hr] at h
      | ok b => simpa [hr] using h
    rcases evalNumbers_of_evalIsNum_true htrue with ⟨ds, hds⟩ | ⟨t, hds⟩
    · rw [hds, Except.ok_bind']
      rcases harith ds with ⟨d, hd⟩ | hd
      · exact .inl ⟨d, hd⟩
      · exact .inr (.inr ⟨f, hd⟩)
    · rw [hds]
      exact .inr (.inl ⟨t, rfl⟩)
  · have hne : (evalIsNum ps).2 ≠ .ok true := by
      intro hr
      rw [hr] at h
      exact h rfl
    obtain ⟨e, he⟩ := evalNumbers_error_of_evalIsNum_ne hne
    exact ⟨e, by rw [he]; rfl⟩

/-- The guard at `is_num(1, add("x"), "y")`: the literal `1` is numeric by its text, the inner
`add` fails with a type error that `is_num` counts as not numeric, and `"y"` is never looked at.
So `is_num` is false, and `add` and `subtract` over the same parameters fail. -/
theorem isNum_guards_arithmetic_mixed :
    [Node.number "1", .call "add" [.string "x"], .string "y"] ≠ [] ∧
      outcome (.call "is_num" [.number "1", .call "add" [.string "x"], .string "y"]) =
        .ok (.boolean false) ∧
      ∀ name ∈ ["add", "subtract"],
        (outcome (.call "is_num" [.number "1", .call "add" [.string "x"], .string "y"]) =
            .ok (.boolean true) →
          (∃ d, outcome (.call name [.number "1", .call "add" [.string "x"], .string "y"]) =
            .ok (.number d)) ∨
          (∃ t, outcome (.call name [.number "1", .call "add" [.string "x"], .string "y"]) =
            .error (.numberOutOfRange t)) ∨
          (∃ f, outcome (.call name [.number "1", .call "add" [.string "x"], .string "y"]) =
            .error (.numericOverflow f))) ∧
        (outcome (.call "is_num" [.number "1", .call "add" [.string "x"], .string "y"]) ≠
            .ok (.boolean true) →
          ∃ e, outcome (.call name [.number "1", .call "add" [.string "x"], .string "y"]) =
            .error e) :=
  ⟨by simp, rfl, isNum_guards_arithmetic _ (by simp)⟩

end Eval
end ColumnExpr
