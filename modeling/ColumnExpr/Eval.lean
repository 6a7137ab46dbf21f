/-
# Evaluating programs

Each expression of a program is evaluated in order; the first error ends evaluation.

* A number literal is read as numeric text; text that is not numeric is a type error, text
  out of range an overflow error, both naming the literal.
* A string literal is its string. A column has no value to be evaluated against.
* A call names a built-in function, or fails before its parameters are looked at.
  - `add` and `subtract` evaluate every parameter and coerce it to a number, left to right,
    the first failure being the error; without parameters they fail. Then `add` sums from
    zero and `subtract` takes the first number less each following one, one operation at a
    time, and fails when a partial result does not fit.
  - `is_num` is false at the first parameter that is not numeric and true after the last:
    a number literal is judged by its text alone, without evaluation; any other parameter is
    evaluated, and a type error counts as not numeric while every other error is the
    answer. Parameters after the first non-numeric one are not evaluated.
* A conditional evaluates its condition and then only the branch its truth selects.

Evaluation reports an event for every expression it evaluates.

Key definitions: `EvalError`, `Eval.evalNode`, `Eval.evalProgramTraced`, `Eval.evaluate`.
-/
import ColumnExpr.Syntax.Node
import ColumnExpr.Syntax.Builtin
import ColumnExpr.Event
import ColumnExpr.Value
import ColumnExpr.Decimal.Arith
namespace ColumnExpr

/-- Why evaluation stopped. -/
inductive EvalError where
  /-- `add` or `subtract` without parameters. -/
  | missingParameters (f : Builtin)
  /-- A value that had to be a number is not; its text. -/
  | numericCoercion (text : String)
  /-- A call of a name that is no built-in function. -/
  | unknownFunction (name : String)
  /-- A column, which has no value here. -/
  | unboundColumn (name : String)
  /-- A sum or difference that does not fit. -/
  | numericOverflow (f : Builtin)
  /-- Numeric text out of range; its text. -/
  | numberOutOfRange (text : String)
deriving DecidableEq, Repr

/-- The message for an evaluation error. -/
def EvalError.message : EvalError → String
  | .missingParameters f => "Missing parameters for " ++ f.name ++ " function"
  | .numericCoercion t => "Type error: '" ++ t ++ "' is not a number"
  | .unknownFunction n => "Unknown function: " ++ n
  | .unboundColumn n => "Unbound column: " ++ n ++ " has no value to evaluate against"
  | .numericOverflow f => "Numeric overflow in " ++ f.name ++ " function"
  | .numberOutOfRange t => "Numeric overflow: '" ++ t ++ "' is out of range"

/-- The evaluation error for text that does not read as a number. -/
def EvalError.ofNumberError (text : String) : NumberError → EvalError
  | .notNumeric => .numericCoercion text
  | .outOfRange => .numberOutOfRange text

namespace Eval

/-- The sum of numbers from zero, one addition at a time. -/
def sum (ds : List Decimal) : Option Decimal :=
  ds.foldlM (fun acc d => acc.add? d) Decimal.zero

/-- The first number less each following one, one subtraction at a time. -/
def difference : List Decimal → Option Decimal
  | [] => none
  | d :: ds => ds.foldlM (fun acc e => acc.sub? e) d

mutual
/-- Evaluates an expression: the events it reports, and its value. -/
def evalNode : Node → List Event × Except EvalError Value
  | .number s =>
    ([.eval "NumberLiteral"],
      match NumberText.parse s with
      | .ok d => .ok (.number d)
      | .error e => .error (EvalError.ofNumberError s e))
  | .string s => ([.eval "StringLiteral"], .ok (.string s))
  | .column n => ([.eval "ColumnName"], .error (.unboundColumn n))
  | .call name ps =>
    let ev := Event.eval "CallExpression"
    match Builtin.lookup name with
    | none => ([ev], .error (.unknownFunction name))
    | some .isNum =>
      match evalIsNum ps with
      | (evs, r) => (ev :: evs, r.map Value.boolean)
    | some f =>
      if ps.isEmpty then ([ev], .error (.missingParameters f))
      else
        match evalNumbers ps with
        | (evs, .error e) => (ev :: evs, .error e)
        | (evs, .ok ds) =>
          let result := if f = .add then sum ds else difference ds
          (ev :: evs,
            match result with
            | some d => .ok (.number d)
            | none => .error (.numericOverflow f))
  | .conditional c t f =>
    let ev := Event.eval "IfCondition"
    match evalNode c with
    | (e1, .error e) => (ev :: e1, .error e)
    | (e1, .ok v) =>
      if v.isTruthy then
        match evalNode t with
        | (e2, r) => (ev :: e1 ++ e2, r)
      else
        match evalNode f with
        | (e2, r) => (ev :: e1 ++ e2, r)

/-- Evaluates parameters and coerces them to numbers, left to right. -/
def evalNumbers : List Node → List Event × Except EvalError (List Decimal)
  | [] => ([], .ok [])
  | p :: ps =>
    match evalNode p with
    | (e1, .error e) => (e1, .error e)
    | (e1, .ok v) =>
      match v.toNumber with
      | .error ne => (e1, .error (EvalError.ofNumberError v.display ne))
      | .ok d =>
        match evalNumbers ps with
        | (e2, r) => (e1 ++ e2, r.map (d :: ·))

/-- Whether every parameter is numeric, stopping at the first that is not. -/
def evalIsNum : List Node → List Event × Except EvalError Bool
  | [] => ([], .ok true)
  | .number s :: ps => if NumberText.isNumeric s then evalIsNum ps else ([], .ok false)
  | p :: ps =>
    match evalNode p with
    | (e1, .ok v) =>
      if v.isNumeric then
        match evalIsNum ps with
        | (e2, r) => (e1 ++ e2, r)
      else (e1, .ok false)
    | (e1, .error (.numericCoercion _)) => (e1, .ok false)
    | (e1, .error e) => (e1, .error e)
end

/-- Evaluates expressions in order, stopping at the first error. -/
def evalList : List Node → List Event × Except EvalError (List Value)
  | [] => ([], .ok [])
  | n :: ns =>
    match evalNode n with
    | (e1, .error e) => (e1, .error e)
    | (e1, .ok v) =>
      match evalList ns with
      | (e2, r) => (e1 ++ e2, r.map (v :: ·))

/-- Evaluates a program, with the events of the run. -/
def evalProgramTraced (p : Program) : List Event × Except EvalError (List Value) :=
  match evalList p.body with
  | (evs, r) => (Event.evaluating p.body.length :: evs, r)

/-- The values of a program's expressions, or the first error. -/
def evaluate (p : Program) : Except EvalError (List Value) := (evalProgramTraced p).2

end Eval
end ColumnExpr
