/-
# Sums and differences are exact, left to right

`add` and `subtract` evaluate and coerce every parameter first, left to right, and start the
arithmetic only once all of them are numbers. So the error of the leftmost failing parameter is
the answer, however large the numbers before it (`evalNumbers_leftmost_error`).

The arithmetic then folds over the numbers one step at a time (`stepOf`). One step adds a
number to the running result, or subtracts it. The fold keeps the running result's scale within
the largest scale of the numbers, so when every running result fits at that scale, each step is
exact and the fold ends with the exact total (`foldlM_stepOf_exact`). When every number has
scale 0, the fold fails exactly when some running result reaches 2^96
(`foldlM_stepOf_eq_none_iff`), even if the total would fit again.

Key definitions: `Eval.stepOf`, `Eval.runningResults`, `Eval.largestScale`.
Key theorems: `Eval.arithmetic_exact_left_to_right`.
-/
import ColumnExpr.Proofs.Decimal.Value
import ColumnExpr.Proofs.Eval.IsNum
namespace ColumnExpr
namespace Eval
open Decimal

/-- One step of `add` or `subtract`: the running result and the next number. -/
def stepOf : Builtin → Decimal → Decimal → Option Decimal
  | .subtract, acc, d => acc.sub? d
  | _, acc, d => acc.add? d

/-- What one number adds to the running result of `add` or `subtract`, exactly. -/
def signedTerm : Builtin → ℚ → ℚ
  | .subtract, q => -q
  | _, q => q

/-- The exact running results `S_1, ..., S_n` of `add`, the sums from zero, or of `subtract`,
the first number less each following one. -/
def runningResults : Builtin → List ℚ → List ℚ
  | .subtract, [] => []
  | .subtract, q :: qs => qs.scanl (· - ·) q
  | _, qs => (qs.scanl (· + ·) 0).tail

/-- The largest scale of a list of numbers, 0 for none. -/
def largestScale (ds : List Decimal) : Nat := (ds.map Decimal.scale).foldr Nat.max 0

theorem scale_le_largestScale : ∀ {ds : List Decimal}, ∀ d ∈ ds, d.scale ≤ largestScale ds
  | e :: ds, d, hd => by
    unfold largestScale
    rw [List.map_cons, List.foldr_cons]
    rcases List.mem_cons.mp hd with rfl | hd
    · exact Nat.le_max_left _ _
    · exact Nat.le_trans (scale_le_largestScale d hd) (Nat.le_max_right _ _)

/-! ### Errors come in parameter order -/

theorem coerceParam_of_error {p : Node} {e : EvalError} (h : outcome p = .error e) :
    coerceParam p = .error e := by
  rw [coerceParam, h]

theorem coerceParam_of_toNumber_error {p : Node} {v : Value} {ne : NumberError}
    (h : outcome p = .ok v) (hv : v.toNumber = .error ne) :
    coerceParam p = .error (EvalError.ofNumberError v.display ne) := by
  rw [coerceParam, h]
  simp only [hv]

/-- The coercion of the parameters stops at the leftmost one that fails, with its error. -/
theorem evalNumbers_leftmost_error {p : Node} {e : EvalError} (hp : coerceParam p = .error e)
    (post : List Node) :
    ∀ pre : List Node, (∀ q ∈ pre, ∃ d, coerceParam q = .ok d) →
      (evalNumbers (pre ++ p :: post)).2 = .error e
  | [], _ => by
    rw [List.nil_append, evalNumbers_cons, hp]
    rfl
  | q :: pre, hpre => by
    obtain ⟨d, hd⟩ := hpre q List.mem_cons_self
    have hrest := evalNumbers_leftmost_error hp post pre
      (fun q' hq' => hpre q' (List.mem_cons_of_mem q hq'))
    rw [List.cons_append, evalNumbers_cons, hd, Except.ok_bind', hrest]
    rfl

/-! ### One step -/

section Step

variable {acc d : Decimal}

/-- A step of `subtract` adds the negated number. -/
theorem add_signedTerm_subtract (a q : ℚ) : a + signedTerm .subtract q = a - q :=
  (sub_eq_add_neg a q).symm

/-- **A step that fits is exact**, and stays within the scale bound. -/
theorem stepOf_exact (f : Builtin) {s : Nat} (hacc : acc.scale ≤ s) (hd : d.scale ≤ s)
    (h : |acc.toRat + signedTerm f d.toRat| * 10 ^ s < 2 ^ 96) :
    ∃ r, stepOf f acc d = some r ∧ r.toRat = acc.toRat + signedTerm f d.toRat ∧ r.scale ≤ s := by
  cases f with
  | add | isNum => exact add?_exact hacc hd h
  | subtract =>
    rw [add_signedTerm_subtract] at h ⊢
    exact sub?_exact hacc hd h

/-- **At scale 0, a step whose exact result reaches 2^96 fails.** -/
theorem stepOf_eq_none_of_scale_zero (f : Builtin) (hacc : acc.scale = 0) (hd : d.scale = 0)
    (h : 2 ^ 96 ≤ |acc.toRat + signedTerm f d.toRat|) : stepOf f acc d = none := by
  cases f with
  | add | isNum => exact add?_eq_none_of_scale_zero hacc hd h
  | subtract =>
    rw [add_signedTerm_subtract] at h
    exact sub?_eq_none_of_scale_zero hacc hd h

end Step

/-! ### The whole fold -/

theorem init_mem_scanl {f : ℚ → ℚ → ℚ} (b : ℚ) (qs : List ℚ) : b ∈ qs.scanl f b := by
  cases qs <;> simp [List.scanl_cons]

/-- **The fold is exact while every running result fits.** Over numbers with scales up to `s`,
starting from a running result with a scale up to `s`: when every running result fits at scale
`s`, the fold ends with the exact total. The invariant is the scale bound on the running
result, which every exact step keeps. -/
theorem foldlM_stepOf_exact (f : Builtin) {s : Nat} :
    ∀ (ds : List Decimal) (acc : Decimal), acc.scale ≤ s → (∀ d ∈ ds, d.scale ≤ s) →
      (∀ S ∈ (ds.map toRat).scanl (fun a q => a + signedTerm f q) acc.toRat,
        |S| * 10 ^ s < 2 ^ 96) →
      ∃ r, ds.foldlM (stepOf f) acc = some r ∧
        r.toRat = (ds.map toRat).foldl (fun a q => a + signedTerm f q) acc.toRat
  | [], acc, _, _, _ => ⟨acc, rfl, rfl⟩
  | d :: ds, acc, hacc, hds, hfits => by
    rw [List.map_cons, List.scanl_cons] at hfits
    have hfirst := hfits _ (List.mem_cons_of_mem _ (init_mem_scanl ..))
    obtain ⟨r, hstep, hval, hscale⟩ := stepOf_exact f hacc (hds d List.mem_cons_self) hfirst
    have hrest : ∀ S ∈ (ds.map toRat).scanl (fun a q => a + signedTerm f q) r.toRat,
        |S| * 10 ^ s < 2 ^ 96 := by
      rw [hval]
      exact fun S hS => hfits S (List.mem_cons_of_mem _ hS)
    obtain ⟨r', hfold, hval'⟩ :=
      foldlM_stepOf_exact f ds r hscale (fun e he => hds e (List.mem_cons_of_mem d he)) hrest
    refine ⟨r', ?_, ?_⟩
    · rw [List.foldlM_cons, hstep]
      exact hfold
    · rw [hval', hval, List.map_cons, List.foldl_cons]

/-- **At scale 0, the fold fails exactly when some running result reaches 2^96.** The running
result starts at a decimal of scale 0, which fits; each step that does not overflow is exact and
keeps scale 0. -/
theorem foldlM_stepOf_eq_none_iff (f : Builtin) :
    ∀ (ds : List Decimal) (acc : Decimal), acc.scale = 0 → (∀ d ∈ ds, d.scale = 0) →
      (ds.foldlM (stepOf f) acc = none ↔
        ∃ S ∈ (ds.map toRat).scanl (fun a q => a + signedTerm f q) acc.toRat, 2 ^ 96 ≤ |S|)
  | [], acc, hacc, _ => by
    have hfits := abs_toRat_lt_of_scale_zero hacc
    simp only [List.foldlM_nil, List.map_nil, List.scanl_nil, List.mem_singleton]
    constructor
    · intro h
      cases h
    · rintro ⟨S, rfl, hS⟩
      linarith
  | d :: ds, acc, hacc, hds => by
    have hfits := abs_toRat_lt_of_scale_zero hacc
    have hd : d.scale = 0 := hds d List.mem_cons_self
    rw [List.map_cons, List.scanl_cons, List.foldlM_cons]
    -- the running result itself fits: only the later ones can overflow
    have hacc_fits : ¬ 2 ^ 96 ≤ |acc.toRat| := by linarith
    simp only [List.mem_cons, exists_eq_or_imp, hacc_fits, false_or]
    by_cases hover : 2 ^ 96 ≤ |acc.toRat + signedTerm f d.toRat|
    · -- this step overflows, and its exact result is the next running result
      rw [stepOf_eq_none_of_scale_zero f hacc hd hover]
      exact ⟨fun _ => ⟨_, init_mem_scanl .., hover⟩, fun _ => rfl⟩
    · have hlt : |acc.toRat + signedTerm f d.toRat| * 10 ^ 0 < 2 ^ 96 := by
        rw [pow_zero, mul_one]
        exact lt_of_not_ge hover
      obtain ⟨r, hstep, hval, hscale⟩ := stepOf_exact f hacc.le hd.le hlt
      simp only [hstep, Option.bind_eq_bind, Option.bind_some]
      rw [← hval]
      exact foldlM_stepOf_eq_none_iff f ds r (Nat.le_zero.mp hscale)
        (fun e he => hds e (List.mem_cons_of_mem d he))

/-! ### `add` and `subtract` -/

/-- The result of `add` or `subtract` over its numbers is the fold of its steps, from zero for
`add` and from the first number for `subtract`. -/
theorem result_eq_foldlM {f : Builtin} (hf : f ≠ .isNum) (d : Decimal) (ds : List Decimal) :
    (if f = .add then sum (d :: ds) else difference (d :: ds)) =
      if f = .add then (d :: ds).foldlM (stepOf f) zero else ds.foldlM (stepOf f) d := by
  cases f with
  | add => rfl
  | subtract => rfl
  | isNum => exact absurd rfl hf

/-- The running results of `add` and `subtract` are those of their folds. For `add` the fold's
first running result is its starting zero, which `runningResults` leaves out. -/
theorem runningResults_eq_scanl {f : Builtin} (hf : f ≠ .isNum) (d : Decimal)
    (ds : List Decimal) :
    runningResults f ((d :: ds).map toRat) =
      if f = .add then (((d :: ds).map toRat).scanl (fun a q => a + signedTerm f q) 0).tail
      else (ds.map toRat).scanl (fun a q => a + signedTerm f q) d.toRat := by
  cases f with
  | add => rfl
  | subtract =>
    have hsub : (fun a q => a + signedTerm .subtract q) = fun (a q : ℚ) => a - q := by
      funext a q
      exact add_signedTerm_subtract a q
    simp only [runningResults, List.map_cons, hsub, reduceCtorEq, if_false]
  | isNum => exact absurd rfl hf

/-- The numbers of a non-empty list of parameters are a non-empty list. -/
theorem evalNumbers_cons_ok {p : Node} {ps : List Node} {ds : List Decimal}
    (h : (evalNumbers (p :: ps)).2 = .ok ds) : ∃ d ds', ds = d :: ds' := by
  rw [evalNumbers_cons, Except.bind_eq_ok'] at h
  obtain ⟨d, -, hrest⟩ := h
  obtain ⟨ds', -, rfl⟩ := Except.map_eq_ok'.mp hrest
  exact ⟨d, ds', rfl⟩

/-- **`add` and `subtract` are exact while every running result fits** at the largest scale of
their numbers. -/
theorem result_exact {f : Builtin} (hf : f ≠ .isNum) (d : Decimal) (ds : List Decimal)
    (hfits : ∀ S ∈ runningResults f ((d :: ds).map toRat),
      |S| * 10 ^ largestScale (d :: ds) < 2 ^ 96) :
    ∃ r, (if f = .add then sum (d :: ds) else difference (d :: ds)) = some r ∧
      (runningResults f ((d :: ds).map toRat)).getLast? = some r.toRat := by
  have hscales : ∀ e ∈ d :: ds, e.scale ≤ largestScale (d :: ds) := scale_le_largestScale
  rw [result_eq_foldlM hf]
  rw [runningResults_eq_scanl hf] at hfits ⊢
  by_cases hadd : f = .add
  · -- `add` folds from zero, whose running result 0 fits too
    subst hadd
    simp only [if_true, List.map_cons, List.scanl_cons, List.tail_cons] at hfits ⊢
    have hall : ∀ S ∈ ((d :: ds).map toRat).scanl (fun a q => a + signedTerm .add q) zero.toRat,
        |S| * 10 ^ largestScale (d :: ds) < 2 ^ 96 := by
      rw [toRat_zero, List.map_cons, List.scanl_cons, List.forall_mem_cons]
      exact ⟨by simp, hfits⟩
    obtain ⟨r, hfold, hval⟩ := foldlM_stepOf_exact .add (d :: ds) zero (Nat.zero_le _) hscales hall
    refine ⟨r, hfold, ?_⟩
    rw [List.getLast?_scanl, hval, toRat_zero, List.map_cons, List.foldl_cons]
  · simp only [hadd, if_false] at hfits ⊢
    obtain ⟨r, hfold, hval⟩ := foldlM_stepOf_exact f ds d (hscales d List.mem_cons_self)
      (fun e he => hscales e (List.mem_cons_of_mem d he)) hfits
    exact ⟨r, hfold, by rw [List.getLast?_scanl, hval]⟩

/-- **Over numbers of scale 0, `add` and `subtract` overflow exactly when some running result
reaches 2^96.** -/
theorem result_eq_none_iff {f : Builtin} (hf : f ≠ .isNum) (d : Decimal) (ds : List Decimal)
    (hzero : ∀ e ∈ d :: ds, e.scale = 0) :
    (if f = .add then sum (d :: ds) else difference (d :: ds)) = none ↔
      ∃ S ∈ runningResults f ((d :: ds).map toRat), 2 ^ 96 ≤ |S| := by
  rw [result_eq_foldlM hf, runningResults_eq_scanl hf]
  by_cases hadd : f = .add
  · -- `add` folds from zero, which never overflows
    subst hadd
    simp only [if_true]
    rw [foldlM_stepOf_eq_none_iff .add (d :: ds) zero rfl hzero, toRat_zero, List.map_cons,
      List.scanl_cons, List.tail_cons]
    have hzero_fits : ¬ (2 : ℚ) ^ 96 ≤ |0| := by norm_num
    simp only [List.mem_cons, exists_eq_or_imp, hzero_fits, false_or]
  · simp only [hadd, if_false]
    exact foldlM_stepOf_eq_none_iff f ds d (hzero d List.mem_cons_self)
      (fun e he => hzero e (List.mem_cons_of_mem d he))

/-- **`add` and `subtract` compute exactly, left to right, and report errors in parameter
order.** Over a non-empty list of parameters:
* the leftmost parameter whose evaluation fails, or whose value is not a number, gives the
  result: its evaluation error, or the coercion error naming the value's display;
* otherwise, over the numbers `d_1, ..., d_n` with largest scale `s`: when every running
  result `S_k` fits at scale `s` (its magnitude times `10^s` is below 2^96), the result is the
  number `S_n`, exactly;
* when moreover every number has scale 0, the result is an overflow exactly when some running
  result reaches 2^96, whether or not `S_n` does. -/
theorem arithmetic_exact_left_to_right {f : Builtin} (hf : f ≠ .isNum) {ps : List Node}
    (hps : ps ≠ []) :
    (∀ pre p post, ps = pre ++ p :: post → (∀ q ∈ pre, ∃ d, coerceParam q = .ok d) →
      (∀ e, outcome p = .error e → outcome (.call f.name ps) = .error e) ∧
      (∀ v ne, outcome p = .ok v → v.toNumber = .error ne →
        outcome (.call f.name ps) = .error (EvalError.ofNumberError v.display ne))) ∧
    ∀ ds, (evalNumbers ps).2 = .ok ds →
      ((∀ S ∈ runningResults f (ds.map toRat), |S| * 10 ^ largestScale ds < 2 ^ 96) →
        ∃ r, outcome (.call f.name ps) = .ok (.number r) ∧
          (runningResults f (ds.map toRat)).getLast? = some r.toRat) ∧
      ((∀ d ∈ ds, d.scale = 0) →
        (outcome (.call f.name ps) = .error (.numericOverflow f) ↔
          ∃ S ∈ runningResults f (ds.map toRat), 2 ^ 96 ≤ |S|)) := by
  have hcall := outcome_arithmetic (Builtin.lookup_name f) hf hps
  refine ⟨?_, ?_⟩
  · -- errors: the coercion stops at the leftmost failing parameter
    rintro pre p post rfl hpre
    refine ⟨fun e he => ?_, fun v ne hv hne => ?_⟩
    · rw [hcall, evalNumbers_leftmost_error (coerceParam_of_error he) post pre hpre]
      rfl
    · rw [hcall, evalNumbers_leftmost_error (coerceParam_of_toNumber_error hv hne) post pre hpre]
      rfl
  · intro ds hds
    obtain ⟨p, ps', rfl⟩ := List.exists_cons_of_ne_nil hps
    obtain ⟨d, ds', rfl⟩ := evalNumbers_cons_ok hds
    rw [hcall, hds, Except.ok_bind']
    refine ⟨fun hfits => ?_, fun hzero => ?_⟩
    · obtain ⟨r, hr, hlast⟩ := result_exact hf d ds' hfits
      exact ⟨r, by rw [hr], hlast⟩
    · rw [← result_eq_none_iff hf d ds' hzero]
      cases (if f = .add then sum (d :: ds') else difference (d :: ds')) <;> simp

/-- `MAX + 1 - 1` overflows at its second running result, though the total is `MAX` again. -/
theorem add_past_max_overflows :
    outcome (.call "add" [.number "79228162514264337593543950335", .number "1", .number "-1"]) =
      .error (.numericOverflow .add) := by
  have hnums : (evalNumbers [.number "79228162514264337593543950335", .number "1",
      .number "-1"]).2 = .ok [Decimal.max, ⟨false, 1, 0, by decide, by decide⟩,
        ⟨true, 1, 0, by decide, by decide⟩] := by rfl
  have hspec := ((arithmetic_exact_left_to_right (show Builtin.add ≠ .isNum by decide) (by simp)).2 _ hnums).2
    (by simp [Decimal.max])
  refine hspec.mpr ⟨2 ^ 96, ?_, le_of_eq (abs_of_pos (by positivity)).symm⟩
  simp [runningResults, Decimal.toRat, Decimal.signed, Decimal.max]
  norm_num

end Eval
end ColumnExpr
