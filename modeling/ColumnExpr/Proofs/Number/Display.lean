/-
# Reading back the display of a number

A number value is shown as its normalized decimal written plainly (`Decimal.toText`): a minus
when it is negative, the digits of the mantissa padded with zeros to more digits than the
scale, and a point before the last `scale` of them. Such text is a sign, ASCII digits and at
most one point, with at most 28 fraction digits and digits that together stay below 2^96, so
the plain reader keeps every digit and reads back the very decimal written, sign and scale
included, negative zero too (`parse_plainText`).

Normalizing keeps the value (`toRat_normalize`) and leaves no trailing zero in the fraction
(`normalize_no_trailing_zero`). So a number shown and read back, or its display coerced as a
string value, is its normalized form, of the same value and with no trailing zero
(`Value.parse_display_number`).

Key theorems: `Decimal.plainText_toList`, `Decimal.parse_plainText`, `Decimal.toRat_normalize`,
`Value.parse_display_number`.
-/
import ColumnExpr.Proofs.Number.Parse
import ColumnExpr.Proofs.Eval.WellFormed
namespace ColumnExpr
namespace Decimal

/-! ### Digits of a mantissa -/

theorem digitsValue_eq_ofDigitChars (cs : List Char) : digitsValue cs = Nat.ofDigitChars 10 cs 0 := by
  simp only [digitsValue, Nat.ofDigitChars, digitValue, Nat.mul_comm]

theorem digitsValue_digitsOf (n : Nat) : digitsValue (digitsOf n) = n := by
  unfold digitsOf
  split
  · next h =>
    rw [h]
    rfl
  · rw [digitsValue_eq_ofDigitChars, Nat.ofDigitChars_ten_toDigits]

/-- Leading zeros do not change the number digits stand for. -/
theorem digitsValue_zeros_append (k : Nat) (ds : List Char) :
    digitsValue (List.replicate k '0' ++ ds) = digitsValue ds := by
  rw [digitsValue_eq_ofDigitChars, Nat.ofDigitChars_append, Nat.ofDigitChars_replicate_zero,
    Nat.mul_zero, digitsValue_eq_ofDigitChars]

theorem isDigit_of_mem_digitsOf {n : Nat} {c : Char} (h : c ∈ digitsOf n) : c.isDigit = true := by
  unfold digitsOf at h
  split at h
  · cases h
  · exact Nat.isDigit_of_mem_toDigits (by decide) (by decide) h

/-! ### Plain text reads back -/

/-- **The characters of a decimal's plain text**: its sign, then digits standing for its
mantissa, with the point before the last `scale` of them when the scale is not zero. -/
theorem plainText_toList (d : Decimal) :
    ∃ ip fp, d.plainText.toList = (if d.negative then ['-'] else []) ++ NumberText.plainChars ip fp ∧
      ip ++ fp ≠ [] ∧ (∀ c ∈ ip ++ fp, c.isDigit = true) ∧ fp.length = d.scale ∧
      digitsValue (ip ++ fp) = d.mantissa := by
  have hdig : ∀ c ∈ digitsOf d.mantissa, c.isDigit = true := fun c hc => isDigit_of_mem_digitsOf hc
  have hval := digitsValue_digitsOf d.mantissa
  have hsign : (if d.negative then "-" else "").toList = if d.negative then ['-'] else [] := by
    split <;> rfl
  unfold plainText
  simp only [String.toList_append, hsign]
  by_cases hs : d.scale = 0
  · -- no point: the digits, or a lone `0` for zero
    refine ⟨if (digitsOf d.mantissa).isEmpty then ['0'] else digitsOf d.mantissa, [], ?_, ?_, ?_,
      by simp [hs], ?_⟩
    · simp [hs, NumberText.plainChars]
    · split <;> simp_all
    · intro c hc
      split at hc
      · simp_all
      · exact hdig c (by simpa using hc)
    · split
      · next hz =>
        rw [List.isEmpty_iff] at hz
        rw [hz] at hval
        rw [← hval]
        rfl
      · simpa using hval
  · -- zeros pad the digits to more than `scale` of them; the point stands before the last `scale`
    set padded := List.replicate (d.scale + 1 - (digitsOf d.mantissa).length) '0' ++
      digitsOf d.mantissa with hpadded
    have hlen : d.scale < padded.length := by
      simp only [hpadded, List.length_append, List.length_replicate]
      omega
    refine ⟨padded.take (padded.length - d.scale), padded.drop (padded.length - d.scale), ?_, ?_,
      ?_, ?_, ?_⟩
    · have hfp : padded.drop (padded.length - d.scale) ≠ [] := by
        simp only [ne_eq, List.drop_eq_nil_iff]
        omega
      simp [hs, NumberText.plainChars, hfp]
    · rw [List.take_append_drop]
      exact List.ne_nil_of_length_pos (by omega)
    · rw [List.take_append_drop]
      intro c hc
      rcases List.mem_append.mp hc with hc | hc
      · rw [(List.mem_replicate.mp hc).2]
        rfl
      · exact hdig c hc
    · simp only [List.length_drop]
      omega
    · rw [List.take_append_drop, digitsValue_zeros_append, hval]

/-- No character of a decimal's plain text is blank: it has a sign, digits and a point. -/
theorem plainText_not_blank (d : Decimal) : ∀ c ∈ d.plainText.toList, Text.isBlank c = false := by
  obtain ⟨ip, fp, htext, -, hdig, -, -⟩ := plainText_toList d
  intro c hc
  rw [htext] at hc
  rcases List.mem_append.mp hc with hc | hc
  · split at hc
    · rw [List.mem_singleton.mp hc]
      decide
    · cases hc
  · rcases NumberText.mem_plainChars hc with hc | rfl
    · exact Lexer.isBlank_of_isDigit (hdig c hc)
    · decide

theorem trimChars_plainText (d : Decimal) : Text.trimChars d.plainText.toList = d.plainText.toList :=
  Text.trimChars_eq_self (fun c hc => plainText_not_blank d c (List.mem_of_mem_head? hc))
    (fun c hc => plainText_not_blank d c (List.mem_of_mem_getLast? hc))

/-- **A decimal's plain text reads back as that decimal**: its sign, its mantissa and its
scale, for every decimal. -/
theorem parse_plainText (d : Decimal) : NumberText.parse d.plainText = .ok d := by
  obtain ⟨ip, fp, htext, hne, hdig, hscale, hval⟩ := plainText_toList d
  have hsign : NumberText.Sign (if d.negative then ['-'] else []) := by
    split
    · exact .minus
    · exact .none
  have hfit : digitsValue (ip ++ fp) < mantissaLimit := hval ▸ d.mantissa_lt
  have hmax : fp.length ≤ maxScale := hscale ▸ d.scale_le
  rw [← trimChars_plainText] at htext
  rw [NumberText.parse_plain_eq hsign htext hne hdig hmax hfit]
  obtain ⟨negative, m, s, hm, hs⟩ := d
  simp only at hscale hval
  subst hscale hval
  cases negative <;> rfl

/-! ### Normalizing -/

/-- Dropping trailing zeros keeps the value: `m / 10^s` is `m' / 10^s'` for the pair `(m', s')`
it gives. -/
theorem stripZeros_mul_pow : ∀ (m s : Nat),
    (stripZeros m s).1 * 10 ^ s = m * 10 ^ (stripZeros m s).2
  | m, 0 => rfl
  | m, s + 1 => by
    simp only [stripZeros]
    split
    · next h =>
      have ih := stripZeros_mul_pow (m / 10) s
      calc (stripZeros (m / 10) s).1 * 10 ^ (s + 1)
          = (stripZeros (m / 10) s).1 * 10 ^ s * 10 := by rw [Nat.pow_succ, Nat.mul_assoc]
        _ = m / 10 * 10 * 10 ^ (stripZeros (m / 10) s).2 := by rw [ih]; ring
        _ = m * 10 ^ (stripZeros (m / 10) s).2 := by
          rw [Nat.div_mul_cancel (Nat.dvd_of_mod_eq_zero h)]
    · rfl

/-- After dropping trailing zeros, no fraction digit is left or the last one is not zero. -/
theorem stripZeros_trailing : ∀ (m s : Nat),
    (stripZeros m s).2 = 0 ∨ (stripZeros m s).1 % 10 ≠ 0
  | m, 0 => .inl rfl
  | m, s + 1 => by
    simp only [stripZeros]
    split
    · exact stripZeros_trailing (m / 10) s
    · next h => exact .inr h

/-- Normalizing keeps the value. -/
theorem toRat_normalize (d : Decimal) : d.normalize.toRat = d.toRat := by
  unfold normalize
  split
  · next h => rw [toRat_zero, toRat_of_mantissa_eq_zero h]
  · have hrel : ((stripZeros d.mantissa d.scale).1 : ℚ) * 10 ^ d.scale =
        d.mantissa * 10 ^ (stripZeros d.mantissa d.scale).2 := by
      exact_mod_cast stripZeros_mul_pow d.mantissa d.scale
    unfold toRat signed
    rw [div_eq_div_iff (by positivity) (by positivity)]
    split <;> push_cast <;> linarith

/-- A normalized decimal has no trailing zero in its fraction. -/
theorem normalize_no_trailing_zero (d : Decimal) :
    d.normalize.scale = 0 ∨ d.normalize.mantissa % 10 ≠ 0 := by
  unfold normalize
  split
  · exact .inl rfl
  · exact stripZeros_trailing d.mantissa d.scale

end Decimal

namespace Value

theorem isNumeric_of_parse_ok {s : String} {d : Decimal} (h : NumberText.parse s = .ok d) :
    NumberText.isNumeric s = true := by
  cases hn : NumberText.isNumeric s
  · rw [(NumberText.parse_eq_notNumeric_iff s).mpr hn] at h
    cases h
  · rfl

/-- **A number's display reads back as the number, normalized.** Reading the display of a number
value, or coercing it as a string value, gives the normalized decimal: of the same value, with no
trailing zero in its fraction. The display is numeric text. -/
theorem parse_display_number (d : Decimal) :
    NumberText.parse (number d).display = .ok d.normalize ∧
      (string (number d).display).toNumber = .ok d.normalize ∧
      d.normalize.toRat = d.toRat ∧ (d.normalize.scale = 0 ∨ d.normalize.mantissa % 10 ≠ 0) ∧
      NumberText.isNumeric (number d).display = true := by
  have hread : NumberText.parse (number d).display = .ok d.normalize :=
    Decimal.parse_plainText d.normalize
  exact ⟨hread, hread, Decimal.toRat_normalize d, Decimal.normalize_no_trailing_zero d,
    isNumeric_of_parse_ok hread⟩

end Value
end ColumnExpr
