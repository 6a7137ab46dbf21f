/-
# Numeric text as a grammar

`NumberText.isNumericChars` checks numeric text by a chain of partial scans: an optional sign,
digits, a point and digits, then an optional exponent mark, sign and digits. Here the same
language is a grammar, `[+-]?(D+(\.D+)?|\.D+)([eE][+-]?D+)?`, whose digit class `D` is a
parameter. With the decimal digits of every script (`Text.isDecimalDigit`) the grammar is
exactly what the check accepts (`isNumericChars_iff`); with the ASCII digits it is the grammar
of ASCII numbers, a part of it (`Grammar.mono`).

Trimming only removes blanks at the two ends, so text that starts and ends with a character
that is no blank is its own trimming (`trimChars_eq_self`).

Key definitions: `NumberText.DigitRun`, `NumberText.Sign`, `NumberText.Mantissa`,
`NumberText.Exponent`, `NumberText.Grammar`.
Key theorems: `NumberText.isNumericChars_iff`, `NumberText.isNumeric_iff`,
`Text.trimChars_eq_self`.
-/
import Mathlib.Data.List.TakeWhile
import ColumnExpr.NumberText
namespace ColumnExpr
namespace NumberText

/-- One or more digits of the class `digit`. -/
def DigitRun (digit : Char → Bool) (ds : List Char) : Prop := ds ≠ [] ∧ ∀ d ∈ ds, digit d = true

/-- An optional sign. -/
inductive Sign : List Char → Prop
  | none : Sign []
  | plus : Sign ['+']
  | minus : Sign ['-']

/-- The digits and point of a number: `D+`, `D+.D+` or `.D+`. -/
inductive Mantissa (digit : Char → Bool) : List Char → Prop
  | whole {ip : List Char} : DigitRun digit ip → Mantissa digit ip
  | pointed {ip fp : List Char} : DigitRun digit ip → DigitRun digit fp →
      Mantissa digit (ip ++ '.' :: fp)
  | fraction {fp : List Char} : DigitRun digit fp → Mantissa digit ('.' :: fp)

/-- An optional exponent: `e` or `E`, an optional sign and digits. -/
inductive Exponent (digit : Char → Bool) : List Char → Prop
  | none : Exponent digit []
  | mark {m : Char} {sign ds : List Char} : (m = 'e' ∨ m = 'E') → Sign sign → DigitRun digit ds →
      Exponent digit (m :: (sign ++ ds))

/-- Numeric text, `[+-]?(D+(\.D+)?|\.D+)([eE][+-]?D+)?` with the digits `D` of the class
`digit`. -/
inductive Grammar (digit : Char → Bool) : List Char → Prop
  | mk {sign m e : List Char} : Sign sign → Mantissa digit m → Exponent digit e →
      Grammar digit (sign ++ m ++ e)

/-! ### A larger digit class gives a larger grammar -/

section Mono

variable {digit digit' : Char → Bool} (h : ∀ c, digit c = true → digit' c = true)
include h

theorem DigitRun.mono {ds : List Char} (hd : DigitRun digit ds) : DigitRun digit' ds :=
  ⟨hd.1, fun d hmem => h d (hd.2 d hmem)⟩

theorem Mantissa.mono {m : List Char} (hm : Mantissa digit m) : Mantissa digit' m := by
  cases hm with
  | whole hip => exact .whole (hip.mono h)
  | pointed hip hfp => exact .pointed (hip.mono h) (hfp.mono h)
  | fraction hfp => exact .fraction (hfp.mono h)

theorem Exponent.mono {e : List Char} (he : Exponent digit e) : Exponent digit' e := by
  cases he with
  | none => exact .none
  | mark hm hs hds => exact .mark hm hs (hds.mono h)

theorem Grammar.mono {cs : List Char} (hg : Grammar digit cs) : Grammar digit' cs := by
  obtain ⟨hs, hm, he⟩ := hg
  exact .mk hs (hm.mono h) (he.mono h)

end Mono

/-! ### The scans of the check -/

/-- Neither the point, the signs nor the exponent marks are decimal digits. -/
theorem isDecimalDigit_punct {c : Char} (h : c = '.' ∨ c = '+' ∨ c = '-' ∨ c = 'e' ∨ c = 'E') :
    Text.isDecimalDigit c = false := by
  rcases h with rfl | rfl | rfl | rfl | rfl <;> decide

/-- Text that does not start with a decimal digit. -/
def NoDigitFirst (r : List Char) : Prop := ∀ c ∈ r.head?, Text.isDecimalDigit c = false

theorem noDigitFirst_nil : NoDigitFirst [] := by
  intro c hc
  cases hc

theorem noDigitFirst_cons {c : Char} {r : List Char} (h : Text.isDecimalDigit c = false) :
    NoDigitFirst (c :: r) := by
  intro c' hc'
  cases hc'
  exact h

theorem afterDigits_append {ds r : List Char} (hds : DigitRun Text.isDecimalDigit ds)
    (hr : NoDigitFirst r) : afterDigits (ds ++ r) = some r := by
  -- no digit starts `r`, so the scan over `ds ++ r` stops exactly at `r`
  have hstop : r.takeWhile Text.isDecimalDigit = [] := by
    cases r with
    | nil => rfl
    | cons c r => exact List.takeWhile_cons_of_neg (by simp [hr c rfl])
  have hdrop : r.dropWhile Text.isDecimalDigit = r := by
    cases r with
    | nil => rfl
    | cons c r => exact List.dropWhile_cons_of_neg (by simp [hr c rfl])
  have htake : (ds ++ r).takeWhile Text.isDecimalDigit = ds := by
    rw [List.takeWhile_append_of_pos hds.2, hstop, List.append_nil]
  unfold afterDigits
  rw [htake, List.dropWhile_append_of_pos hds.2, hdrop]
  simp [hds.1]

theorem afterDigits_eq_some {cs r : List Char} (h : afterDigits cs = some r) :
    ∃ ds, DigitRun Text.isDecimalDigit ds ∧ cs = ds ++ r ∧ NoDigitFirst r := by
  unfold afterDigits at h
  split at h
  · cases h
  · next hne =>
    cases h
    refine ⟨cs.takeWhile Text.isDecimalDigit, ⟨?_, fun d hd => List.mem_takeWhile_imp hd⟩,
      List.takeWhile_append_dropWhile.symm, ?_⟩
    · simpa using hne
    · intro c hc
      have hfirst := List.head?_dropWhile_not Text.isDecimalDigit cs
      rw [hc] at hfirst
      exact hfirst

/-- Text that does not start with a sign. -/
def NoSignFirst (r : List Char) : Prop := ∀ c ∈ r.head?, c ≠ '+' ∧ c ≠ '-'

theorem DigitRun.noSignFirst_append {ds : List Char} (hds : DigitRun Text.isDecimalDigit ds)
    (r : List Char) : NoSignFirst (ds ++ r) := by
  obtain ⟨d, ds', rfl⟩ := List.exists_cons_of_ne_nil hds.1
  have hd : Text.isDecimalDigit d = true := hds.2 d (by simp)
  intro c hc
  cases hc
  constructor <;> rintro rfl <;> exact absurd hd (by decide)

/-- A mantissa starts with a digit or a point, neither of which is a sign. -/
theorem Mantissa.noSignFirst_append {m : List Char} (hm : Mantissa Text.isDecimalDigit m)
    (r : List Char) : NoSignFirst (m ++ r) := by
  cases hm with
  | whole hip => exact hip.noSignFirst_append r
  | pointed hip _ =>
    rw [List.append_assoc]
    exact hip.noSignFirst_append _
  | fraction _ =>
    intro c hc
    cases hc
    decide

theorem dropSign_of_sign {sign rest : List Char} (hs : Sign sign) (hrest : NoSignFirst rest) :
    dropSign (sign ++ rest) = rest := by
  cases hs with
  | none =>
    cases rest with
    | nil => rfl
    | cons c r =>
      obtain ⟨hp, hm⟩ := hrest c rfl
      simp only [List.nil_append, dropSign]
      split <;> simp_all
  | plus => rfl
  | minus => rfl

/-- Every text is an optional sign followed by what `dropSign` leaves. -/
theorem sign_append_dropSign (cs : List Char) : ∃ sign, Sign sign ∧ cs = sign ++ dropSign cs := by
  unfold dropSign
  split
  · exact ⟨['+'], .plus, rfl⟩
  · exact ⟨['-'], .minus, rfl⟩
  · exact ⟨[], .none, rfl⟩

/-- What may follow a mantissa: nothing, or an exponent mark. -/
def ExponentFirst (r : List Char) : Prop := ∀ c ∈ r.head?, c = 'e' ∨ c = 'E'

theorem ExponentFirst.noDigitFirst {r : List Char} (h : ExponentFirst r) : NoDigitFirst r := by
  intro c hc
  exact isDecimalDigit_punct (by rcases h c hc with rfl | rfl <;> simp)

theorem afterMantissa_append {m r : List Char} (hm : Mantissa Text.isDecimalDigit m)
    (hr : ExponentFirst r) : afterMantissa (m ++ r) = some r := by
  have hnd := hr.noDigitFirst
  have hnotPoint : ∀ {ip rest : List Char}, DigitRun Text.isDecimalDigit ip →
      ∀ r', ip ++ rest = '.' :: r' → False := by
    intro ip rest hip r' heq
    obtain ⟨d, ds, rfl⟩ := List.exists_cons_of_ne_nil hip.1
    have hd := hip.2 d List.mem_cons_self
    rw [List.cons_append, List.cons.injEq] at heq
    rw [heq.1] at hd
    exact absurd hd (by simp [isDecimalDigit_punct])
  cases hm with
  | whole hip =>
    rw [afterMantissa.eq_2 _ (hnotPoint hip), afterDigits_append hip hnd]
    cases r with
    | nil => rfl
    | cons c r =>
      have hc : c ≠ '.' := by rcases hr c rfl with rfl | rfl <;> decide
      split <;> simp_all
  | pointed hip hfp =>
    rw [List.append_assoc, List.cons_append, afterMantissa.eq_2 _ (hnotPoint hip),
      afterDigits_append hip (noDigitFirst_cons (isDecimalDigit_punct (.inl rfl)))]
    exact afterDigits_append hfp hnd
  | fraction hfp =>
    simp only [List.cons_append, afterMantissa]
    exact afterDigits_append hfp hnd

theorem afterMantissa_eq_some {cs r : List Char} (h : afterMantissa cs = some r) :
    ∃ m, Mantissa Text.isDecimalDigit m ∧ cs = m ++ r := by
  unfold afterMantissa at h
  split at h
  · next rest =>
    obtain ⟨fp, hfp, rfl, -⟩ := afterDigits_eq_some h
    exact ⟨'.' :: fp, .fraction hfp, by simp⟩
  · cases hd : afterDigits cs with
    | none => simp [hd] at h
    | some r1 =>
      obtain ⟨ip, hip, hcs, -⟩ := afterDigits_eq_some hd
      rw [hd] at h
      cases r1 with
      | nil =>
        cases h
        exact ⟨ip, .whole hip, hcs⟩
      | cons c r2 =>
        by_cases hc : c = '.'
        · subst hc
          obtain ⟨fp, hfp, rfl, -⟩ := afterDigits_eq_some h
          exact ⟨ip ++ '.' :: fp, .pointed hip hfp, by simp [hcs]⟩
        · have hr : some (c :: r2) = some r := by
            revert h
            split <;> simp_all
          cases hr
          exact ⟨ip, .whole hip, hcs⟩

/-! ### The check accepts exactly the grammar -/

theorem isNumericChars_of_grammar {cs : List Char} (h : Grammar Text.isDecimalDigit cs) :
    isNumericChars cs = true := by
  cases h with
  | @mk sign m e hs hm he =>
    have hexpFirst : ExponentFirst e := by
      cases he with
      | none => intro c hc; cases hc
      | mark hmark _ _ =>
        intro c hc
        cases hc
        exact hmark
    unfold isNumericChars
    rw [List.append_assoc, dropSign_of_sign hs (hm.noSignFirst_append e),
      afterMantissa_append hm hexpFirst]
    cases he with
    | none => rfl
    | @mark mark esign ds hmark hsign hds =>
      have hmark' : (mark == 'e' || mark == 'E') = true := by
        rcases hmark with rfl | rfl <;> rfl
      simp only [hmark', Bool.true_and]
      have hdsFirst : NoSignFirst ds := by simpa using hds.noSignFirst_append []
      rw [dropSign_of_sign hsign hdsFirst, ← List.append_nil ds,
        afterDigits_append hds noDigitFirst_nil]

theorem grammar_of_isNumericChars {cs : List Char} (h : isNumericChars cs = true) :
    Grammar Text.isDecimalDigit cs := by
  obtain ⟨sign, hs, hcs⟩ := sign_append_dropSign cs
  unfold isNumericChars at h
  split at h
  · cases h
  · next hm =>
    obtain ⟨m, hm, hrest⟩ := afterMantissa_eq_some hm
    have hsplit : cs = sign ++ m ++ [] := by rw [hcs, hrest, List.append_assoc]
    rw [hsplit]
    exact .mk hs hm .none
  · next mark r hm =>
    obtain ⟨m, hm, hrest⟩ := afterMantissa_eq_some hm
    simp only [Bool.and_eq_true, Bool.or_eq_true, beq_iff_eq] at h
    obtain ⟨hmark, hexp⟩ := h
    split at hexp
    · next hds =>
      obtain ⟨esign, hesign, hr⟩ := sign_append_dropSign r
      obtain ⟨ds, hds, hd, -⟩ := afterDigits_eq_some hds
      rw [List.append_nil] at hd
      rw [hcs, hrest, hr, hd, ← List.append_assoc]
      exact .mk hs hm (.mark hmark hesign hds)
    · cases hexp

/-- **The check accepts exactly the numeric grammar over decimal digits.** -/
theorem isNumericChars_iff (cs : List Char) :
    isNumericChars cs = true ↔ Grammar Text.isDecimalDigit cs :=
  ⟨grammar_of_isNumericChars, isNumericChars_of_grammar⟩

/-- Text is numeric exactly when its trimming is in the numeric grammar over decimal digits. -/
theorem isNumeric_iff (s : String) :
    isNumeric s = true ↔ Grammar Text.isDecimalDigit (Text.trimChars s.toList) :=
  isNumericChars_iff _

end NumberText

namespace Text

/-- Text that starts and ends with a character that is no blank is its own trimming. -/
theorem trimChars_eq_self {cs : List Char} (hfirst : ∀ c ∈ cs.head?, isBlank c = false)
    (hlast : ∀ c ∈ cs.getLast?, isBlank c = false) : trimChars cs = cs := by
  have hdrop : cs.dropWhile isBlank = cs := by
    cases cs with
    | nil => rfl
    | cons c r => exact List.dropWhile_cons_of_neg (by simp [hfirst c rfl])
  have hdropRev : cs.reverse.dropWhile isBlank = cs.reverse := by
    cases hr : cs.reverse with
    | nil => rfl
    | cons c r =>
      have hc : c ∈ cs.getLast? := by
        rw [← List.head?_reverse, hr]
        rfl
      exact List.dropWhile_cons_of_neg (by simp [hlast c hc])
  unfold trimChars
  rw [hdrop, hdropRev, List.reverse_reverse]

end Text
end ColumnExpr
