/-
# Reading numeric text

`NumberText.parse` first asks whether the text, blanks trimmed, is numeric: numeric text is
recognised by its grammar with the decimal digits of any script (`isNumeric_iff`), and reading
fails as not a number exactly off it (`parse_eq_notNumeric_iff`).

Plain text, a sign and ASCII digits with at most one point, is read digit by digit by
`Decimal.readPlain`. While the digits read so far stay below 2^96 and the fraction within 28
digits, no digit is dropped: the reader ends with all the digits as the mantissa and the number
of fraction digits as the scale (`readPlain_digits_end`). So such text is read exactly
(`parse_plain_exact`).

Past those bounds reading is not exact (`parse_inexact_past_bounds`): a 29th fraction digit is
rounded away rather than refused, a digit of another script is numeric text that no reader
takes, and an exponent is refused when it takes the written scale past 28.

Key definitions: `NumberText.plainChars`, `NumberText.pushDigit`.
Key theorems: `NumberText.parse_plain_exact`, `NumberText.parse_characterised`,
`NumberText.parse_inexact_past_bounds`.
-/
import ColumnExpr.Proofs.Number.Grammar
import ColumnExpr.Proofs.Decimal.Value
import ColumnExpr.Proofs.Eval.IsNum
namespace ColumnExpr
namespace NumberText
open Decimal

/-- Reading one more ASCII digit after the value `n`. -/
def pushDigit (n : Nat) (c : Char) : Nat := n * 10 + digitValue c

theorem digitsValue_eq (cs : List Char) : digitsValue cs = cs.foldl pushDigit 0 := rfl

theorem le_foldl_pushDigit : ∀ (ds : List Char) (v : Nat), v ≤ ds.foldl pushDigit v
  | [], _ => Nat.le_refl _
  | c :: ds, v =>
    calc v ≤ pushDigit v c := by
          unfold pushDigit
          omega
      _ ≤ (c :: ds).foldl pushDigit v := le_foldl_pushDigit ds _

/-! ### The plain reader, digit by digit -/

section Reader

variable {negative wide seenDigit seenPoint : Bool} {value scale : Nat}

theorem build_of_fits {m s : Nat} (hm : m < mantissaLimit) (hs : s ≤ maxScale) :
    build negative m s = .ok ⟨negative, m, s, hm, hs⟩ := by
  simp [build, mk?, hm, hs]

/-- The last digit of the text, when it fits, ends reading with every digit kept. -/
theorem readPlain_last_digit {c : Char} (hc : c.isDigit = true)
    (hfit : pushDigit value c < mantissaLimit) :
    readPlain negative wide seenDigit seenPoint value scale [c] =
      build negative (pushDigit value c) (if seenPoint then scale + 1 else scale) := by
  have hlt : ¬ mantissaLimit ≤ value * 10 + digitValue c := Nat.not_le.mpr hfit
  simp only [readPlain, hc, if_true, hlt, if_false]
  rfl

/-- A digit with more text after it, when it fits and the fraction has room, is kept and
reading goes on. -/
theorem readPlain_digit (wide seenDigit : Bool) {c : Char} {rest : List Char} (hc : c.isDigit = true)
    (hrest : rest ≠ []) (hfit : pushDigit value c < mantissaLimit)
    (hcap : seenPoint = true → scale + 1 < maxScale) :
    ∃ wide', readPlain negative wide seenDigit seenPoint value scale (c :: rest) =
      readPlain negative wide' true seenPoint (pushDigit value c)
        (if seenPoint then scale + 1 else scale) rest := by
  obtain ⟨n, more, rfl⟩ := List.exists_cons_of_ne_nil hrest
  have hlt : ¬ mantissaLimit ≤ value * 10 + digitValue c := Nat.not_le.mpr hfit
  have hroom : ¬ (seenPoint = true ∧ maxScale ≤ if seenPoint then scale + 1 else scale) := by
    rintro ⟨hp, hle⟩
    simp only [hp, if_true] at hle
    have := hcap hp
    omega
  refine ⟨wide || wideFrom ≤ pushDigit value c, ?_⟩
  simp only [readPlain, hc, if_true, hlt, if_false]
  rw [if_neg hroom]
  rfl

/-- The point, the first one, turns on counting fraction digits. -/
theorem readPlain_point {rest : List Char} :
    readPlain negative wide seenDigit false value scale ('.' :: rest) =
      readPlain negative wide seenDigit true value scale rest := by
  simp [readPlain]

/-- **Digits to the end of the text are all kept** while they fit and the fraction has room:
the mantissa gets every one of them, and the scale counts them after the point. By induction on
the digits, with the value and scale read so far as arguments. -/
theorem readPlain_digits_end :
    ∀ (ds : List Char) (wide seenDigit : Bool) (value scale : Nat), ds ≠ [] →
      (∀ c ∈ ds, c.isDigit = true) → ds.foldl pushDigit value < mantissaLimit →
      (seenPoint = true → scale + ds.length ≤ maxScale) →
      readPlain negative wide seenDigit seenPoint value scale ds =
        build negative (ds.foldl pushDigit value)
          (if seenPoint then scale + ds.length else scale)
  | [c], wide, seenDigit, value, scale, _, hds, hfit, _ => by
    rw [readPlain_last_digit (hds c List.mem_cons_self) hfit]
    rfl
  | c :: n :: more, wide, seenDigit, value, scale, _, hds, hfit, hcap => by
    have hc := hds c List.mem_cons_self
    have hfirst : pushDigit value c < mantissaLimit :=
      Nat.lt_of_le_of_lt (le_foldl_pushDigit (n :: more) _) hfit
    have hroom : seenPoint = true → scale + 1 < maxScale := by
      intro hp
      have := hcap hp
      simp only [List.length_cons] at this
      omega
    obtain ⟨wide', hstep⟩ := readPlain_digit wide seenDigit hc (List.cons_ne_nil n more) hfirst
      hroom
    rw [hstep, readPlain_digits_end (n :: more) wide' true _ _ (List.cons_ne_nil n more)
      (fun e he => hds e (List.mem_cons_of_mem c he)) hfit]
    · cases seenPoint
      · rfl
      · simp only [if_true, List.length_cons]
        congr 1
        omega
    · -- the fraction still has room for the digits after this one
      intro hp
      have := hcap hp
      simp only [hp, if_true, List.length_cons] at this ⊢
      omega

/-- **Digits before the point are all kept** while they fit, and reading goes on after the
point with fraction digits counted. -/
theorem readPlain_digits_point (negative : Bool) (scale : Nat) (fp : List Char) :
    ∀ (ds : List Char) (wide seenDigit : Bool) (value : Nat), (∀ c ∈ ds, c.isDigit = true) →
      ds.foldl pushDigit value < mantissaLimit →
      ∃ wide' seenDigit', readPlain negative wide seenDigit false value scale (ds ++ '.' :: fp) =
        readPlain negative wide' seenDigit' true (ds.foldl pushDigit value) scale fp
  | [], wide, seenDigit, value, _, _ => ⟨wide, seenDigit, readPlain_point⟩
  | c :: ds, wide, seenDigit, value, hds, hfit => by
    have hfirst : pushDigit value c < mantissaLimit :=
      Nat.lt_of_le_of_lt (le_foldl_pushDigit ds _) hfit
    obtain ⟨wide', hstep⟩ := readPlain_digit wide seenDigit (hds c List.mem_cons_self)
      (by simp : ds ++ '.' :: fp ≠ []) hfirst
      (fun h => absurd h Bool.false_ne_true : false = true → scale + 1 < maxScale)
    rw [List.cons_append, hstep]
    exact readPlain_digits_point negative scale fp ds wide' true _
      (fun e he => hds e (List.mem_cons_of_mem c he)) hfit

end Reader

/-! ### Plain text -/

/-- The characters of plain text without its sign: digits, then a point and more digits when
there is a fraction. -/
def plainChars (ip fp : List Char) : List Char := if fp = [] then ip else ip ++ '.' :: fp

section Plain

variable {ip fp : List Char}

/-- **Plain text that fits is read exactly**: every digit goes into the mantissa, and the scale
is the number of fraction digits. -/
theorem readPlain_plainChars (negative : Bool) (hne : ip ++ fp ≠ [])
    (hdig : ∀ c ∈ ip ++ fp, c.isDigit = true) (hscale : fp.length ≤ maxScale)
    (hfit : digitsValue (ip ++ fp) < mantissaLimit) :
    readPlain negative false false false 0 0 (plainChars ip fp) =
      build negative (digitsValue (ip ++ fp)) fp.length := by
  rw [digitsValue_eq, List.foldl_append] at hfit ⊢
  unfold plainChars
  by_cases hfp : fp = []
  · -- digits only: no point, scale 0
    subst hfp
    rw [List.append_nil] at hne hdig
    rw [if_pos rfl]
    exact readPlain_digits_end ip false false 0 0 hne hdig hfit
      (fun h => absurd h Bool.false_ne_true)
  · -- digits, the point, fraction digits
    rw [if_neg hfp]
    have hip : ip.foldl pushDigit 0 < mantissaLimit :=
      Nat.lt_of_le_of_lt (le_foldl_pushDigit fp _) hfit
    obtain ⟨wide, seenDigit, hpoint⟩ := readPlain_digits_point negative 0 fp ip false false 0
      (fun c hc => hdig c (List.mem_append_left fp hc)) hip
    rw [hpoint, readPlain_digits_end fp wide seenDigit _ 0 hfp
      (fun c hc => hdig c (List.mem_append_right ip hc)) hfit (fun _ => by omega)]
    simp

/-- Plain characters are a mantissa of the numeric grammar, over ASCII digits. -/
theorem mantissa_plainChars (hne : ip ++ fp ≠ []) (hdig : ∀ c ∈ ip ++ fp, c.isDigit = true) :
    Mantissa Char.isDigit (plainChars ip fp) := by
  have hip : ∀ c ∈ ip, c.isDigit = true := fun c hc => hdig c (List.mem_append_left fp hc)
  have hfp : ∀ c ∈ fp, c.isDigit = true := fun c hc => hdig c (List.mem_append_right ip hc)
  unfold plainChars
  by_cases hf : fp = []
  · subst hf
    rw [if_pos rfl]
    exact .whole ⟨by simpa using hne, hip⟩
  · rw [if_neg hf]
    by_cases hi : ip = []
    · subst hi
      exact .fraction ⟨hf, hfp⟩
    · exact .pointed ⟨hi, hip⟩ ⟨hf, hfp⟩

theorem plainChars_ne_nil (hne : ip ++ fp ≠ []) : plainChars ip fp ≠ [] := by
  unfold plainChars
  split_ifs with hf
  · subst hf
    simpa using hne
  · simp

theorem mem_plainChars {c : Char} (h : c ∈ plainChars ip fp) : c ∈ ip ++ fp ∨ c = '.' := by
  unfold plainChars at h
  split_ifs at h with hf
  · subst hf
    exact .inl (by simpa using h)
  · simp only [List.mem_append, List.mem_cons] at h
    rcases h with h | rfl | h
    · exact .inl (List.mem_append_left fp h)
    · exact .inr rfl
    · exact .inl (List.mem_append_right ip h)

/-- Text with one leading `+` dropped, as `parse` reads it. -/
def dropPlus : List Char → List Char
  | '+' :: r => r
  | cs => cs

theorem dropPlus_of_ne {c : Char} {r : List Char} (hc : c ≠ '+') : dropPlus (c :: r) = c :: r := by
  simp [dropPlus, hc]

/-- Numeric text with no exponent mark is read by the plain reader, a leading `+` dropped. -/
theorem parse_of_plain {s : String} {d : Decimal} (hnum : isNumeric s = true)
    (hno : ∀ c ∈ Text.trimChars s.toList, c ≠ 'e' ∧ c ≠ 'E')
    (hread : ofPlainChars? (dropPlus (Text.trimChars s.toList)) = some d) : parse s = .ok d := by
  unfold isNumeric at hnum
  unfold parse
  simp only [hnum, Bool.not_true, Bool.false_eq_true, if_false]
  generalize Text.trimChars s.toList = t at hnum hno hread ⊢
  rcases t with _ | ⟨c, r⟩
  · simp [isNumericChars, afterMantissa, afterDigits, dropSign] at hnum
  · -- no character after the first is an exponent mark
    have hmark : ¬ ∃ x ∈ r, x = 'e' ∨ x = 'E' := by
      rintro ⟨x, hx, rfl | rfl⟩
      · exact (hno _ (List.mem_cons_of_mem c hx)).1 rfl
      · exact (hno _ (List.mem_cons_of_mem c hx)).2 rfl
    by_cases hc : c = '+'
    · subst hc
      simp only [dropPlus] at hread
      simp [hread, hmark]
    · have hfirst := hno c List.mem_cons_self
      rw [dropPlus_of_ne hc] at hread
      simp [hc, hread, hmark, hfirst.1, hfirst.2]


theorem dropPlus_of_noSignFirst {cs : List Char} (h : NoSignFirst cs) : dropPlus cs = cs := by
  cases cs with
  | nil => rfl
  | cons c r => exact dropPlus_of_ne (h c rfl).1

theorem readPlainChars_of_noSignFirst {cs : List Char} (hne : cs ≠ []) (h : NoSignFirst cs) :
    readPlainChars cs = readPlain false false false false 0 0 cs := by
  obtain ⟨c, r, rfl⟩ := List.exists_cons_of_ne_nil hne
  have hc := h c rfl
  simp [readPlainChars, hc.1, hc.2]

/-- Signed plain text has no exponent mark: its characters are a sign, digits and a point. -/
theorem not_exponentMark_of_plain {sign : List Char} (hsign : Sign sign)
    (hdig : ∀ c ∈ ip ++ fp, c.isDigit = true) :
    ∀ c ∈ sign ++ plainChars ip fp, c ≠ 'e' ∧ c ≠ 'E' := by
  intro c hc
  rcases List.mem_append.mp hc with hc | hc
  · cases hsign <;> simp_all
  · rcases mem_plainChars hc with hc | rfl
    · have hd := hdig c hc
      constructor <;> rintro rfl <;> simp at hd
    · decide

/-- The plain reader, after `parse` drops a leading `+`, reads signed plain text that fits as
all its digits over its fraction digits, negative exactly after a minus. -/
theorem ofPlainChars?_dropPlus {sign : List Char} (hsign : Sign sign) (hne : ip ++ fp ≠ [])
    (hdig : ∀ c ∈ ip ++ fp, c.isDigit = true) (hscale : fp.length ≤ maxScale)
    (hfit : digitsValue (ip ++ fp) < mantissaLimit) :
    ofPlainChars? (dropPlus (sign ++ plainChars ip fp)) =
      some ⟨decide (sign = ['-']), digitsValue (ip ++ fp), fp.length, hfit, hscale⟩ := by
  have hm := (mantissa_plainChars hne hdig).mono Text.isDecimalDigit_of_isDigit
  have hsignFree : NoSignFirst (plainChars ip fp) := by
    simpa using hm.noSignFirst_append []
  have hplainNe := plainChars_ne_nil hne
  have hread : ∀ negative, readPlain negative false false false 0 0 (plainChars ip fp) =
      .ok ⟨negative, digitsValue (ip ++ fp), fp.length, hfit, hscale⟩ := fun negative => by
    rw [readPlain_plainChars negative hne hdig hscale hfit, build_of_fits hfit hscale]
  unfold ofPlainChars?
  cases hsign with
  | none =>
    rw [List.nil_append, dropPlus_of_noSignFirst hsignFree,
      readPlainChars_of_noSignFirst hplainNe hsignFree, hread]
    rfl
  | plus =>
    rw [List.singleton_append, dropPlus, readPlainChars_of_noSignFirst hplainNe hsignFree, hread]
    rfl
  | minus =>
    rw [List.singleton_append, dropPlus_of_ne (by decide), readPlainChars, hread]
    rfl

/-- **Plain numeric text that fits is read as written.** Text that is, blanks trimmed, a sign
and ASCII digits with at most one point and at most 28 digits after it, whose digits together
stay below 2^96, reads as the decimal with all those digits as its mantissa and the number of
fraction digits as its scale, negative exactly after a minus. -/
theorem parse_plain_eq {s : String} {sign : List Char} (hsign : Sign sign)
    (htext : Text.trimChars s.toList = sign ++ plainChars ip fp) (hne : ip ++ fp ≠ [])
    (hdig : ∀ c ∈ ip ++ fp, c.isDigit = true) (hscale : fp.length ≤ maxScale)
    (hfit : digitsValue (ip ++ fp) < mantissaLimit) :
    parse s = .ok ⟨decide (sign = ['-']), digitsValue (ip ++ fp), fp.length, hfit, hscale⟩ := by
  have hnum : isNumeric s = true := by
    rw [isNumeric_iff, htext, ← List.append_nil (sign ++ _)]
    exact .mk hsign ((mantissa_plainChars hne hdig).mono Text.isDecimalDigit_of_isDigit) .none
  have hno : ∀ c ∈ Text.trimChars s.toList, c ≠ 'e' ∧ c ≠ 'E' := by
    rw [htext]
    exact not_exponentMark_of_plain hsign hdig
  have hplain := ofPlainChars?_dropPlus hsign hne hdig hscale hfit
  rw [← htext] at hplain
  exact parse_of_plain hnum hno hplain

/-- **Plain numeric text that fits is read exactly**: as its own value, the digits as one
integer over ten to the number of fraction digits. -/
theorem parse_plain_exact {s : String} {sign : List Char} (hsign : Sign sign)
    (htext : Text.trimChars s.toList = sign ++ plainChars ip fp) (hne : ip ++ fp ≠ [])
    (hdig : ∀ c ∈ ip ++ fp, c.isDigit = true) (hscale : fp.length ≤ maxScale)
    (hfit : digitsValue (ip ++ fp) < mantissaLimit) :
    ∃ d, parse s = .ok d ∧
      d.toRat = (if sign = ['-'] then -1 else 1) * (digitsValue (ip ++ fp) : ℚ) / 10 ^ fp.length := by
  refine ⟨_, parse_plain_eq hsign htext hne hdig hscale hfit, ?_⟩
  unfold toRat signed
  cases hsign <;> simp [neg_div]

end Plain

/-! ### What reading numeric text does -/

/-- Reading fails as not a number exactly on text that is not numeric; numeric text is a
decimal or out of range. -/
theorem parse_eq_notNumeric_iff (s : String) :
    parse s = .error .notNumeric ↔ isNumeric s = false := by
  constructor
  · intro h
    cases hn : isNumeric s
    · rfl
    · rcases Eval.parse_of_isNumeric hn with ⟨d, hd⟩ | hd <;> rw [hd] at h <;> cases h
  · exact Eval.parse_of_not_isNumeric

/-- **What reading numeric text does.** Text is numeric exactly when, blanks trimmed, it is in
the numeric grammar with the decimal digits of any script; reading fails as not a number
exactly on text that is not numeric; and plain text over ASCII digits that fits, at most 28
digits after the point and all the digits together below 2^96, is read exactly. -/
theorem parse_characterised (s : String) :
    (isNumeric s = true ↔ Grammar Text.isDecimalDigit (Text.trimChars s.toList)) ∧
    (parse s = .error .notNumeric ↔ isNumeric s = false) ∧
    ∀ sign ip fp, Sign sign → Text.trimChars s.toList = sign ++ plainChars ip fp →
      ip ++ fp ≠ [] → (∀ c ∈ ip ++ fp, c.isDigit = true) → fp.length ≤ maxScale →
      digitsValue (ip ++ fp) < mantissaLimit →
      ∃ d, parse s = .ok d ∧
        d.toRat = (if sign = ['-'] then -1 else 1) * (digitsValue (ip ++ fp) : ℚ) /
          10 ^ fp.length :=
  ⟨isNumeric_iff s, parse_eq_notNumeric_iff s, fun _ _ _ hsign htext hne hdig hscale hfit =>
    parse_plain_exact hsign htext hne hdig hscale hfit⟩

/-- Past those bounds reading is not exact. A 29th fraction digit is rounded away, so `10^-29`,
which no decimal holds, reads as zero. A digit of another script is numeric but no decimal.
An exponent that takes the written scale past 28 is refused, although `1.0e-28` is the
decimal `10^-28`. -/
theorem parse_inexact_past_bounds :
    parse "0.00000000000000000000000000001" = .ok ⟨false, 0, 28, by decide, by decide⟩ ∧
      (isNumeric "٣" = true ∧ parse "٣" = .error .outOfRange) ∧
      parse "1.0e-28" = .error .outOfRange :=
  ⟨by rfl, ⟨by decide, by rfl⟩, by rfl⟩

end NumberText
end ColumnExpr
