/-
# Lexing over a separator

A separator, a blank or a comma, ends every token: no reader takes it, and the only lookahead
past a token's last character, the digit after a point or after a minus, refuses it too. So a
token read from a text is read the same when a separator and anything at all follow the text
(`scanToken_append_separator`), and a text that lexes cleanly, then a separator, then more,
lexes as the text's tokens followed by the tokens of the rest (`run_append_separator`).

The lexer's state between tokens is its position alone: lexing from a later position reads the
same tokens and stops at the same error, every position in it moved by as much (`run_shift`).
Together, lexing distributes over a separator, and an error of the second text is reported
past the first text and the separator (`tokenize_append_separator`).

Key definitions: `LexError.shift`.
Key theorems: `Lexer.run_shift`, `Lexer.scanToken_append_separator`,
`Lexer.run_append_separator`, `Lexer.tokenize_append_separator`.
-/
import ColumnExpr.Proofs.Lex.Spans
namespace ColumnExpr

/-- The same error with its position `k` characters later. -/
def LexError.shift (k : Nat) : LexError → LexError
  | .unexpectedChar c p => .unexpectedChar c (p + k)
  | .unterminatedString p => .unterminatedString (p + k)
  | .invalidEscape c p => .invalidEscape c (p + k)

namespace Lexer

/-! ### Positions shift uniformly -/

theorem scanString_shift {quote : Char} (k : Nat) : ∀ (start pos : Nat) (cs : List Char),
    scanString quote (start + k) (pos + k) cs = (scanString quote start pos cs).mapError (·.shift k)
  | start, pos, [] => by
    rw [scanString.eq_def, scanString.eq_def]
    rfl
  | start, pos, c :: rest => by
    rw [scanString.eq_def, scanString.eq_def]
    simp only
    split_ifs with hq hb
    · rfl
    · cases rest with
      | nil => rfl
      | cons e more =>
        simp only
        cases unescape e with
        | none =>
          simp only [Except.mapError, LexError.shift]
          congr 2
          omega
        | some u =>
          dsimp only
          rw [show pos + k + 2 = pos + 2 + k by omega, scanString_shift k start (pos + 2) more,
            Except.map_mapError']
    · rw [show pos + k + 1 = pos + 1 + k by omega, scanString_shift k start (pos + 1) rest,
        Except.map_mapError']

theorem scanToken_shift (k pos : Nat) (ch : Char) (more : List Char) :
    scanToken (pos + k) ch more = (scanToken pos ch more).mapError (·.shift k) := by
  rw [scanToken_eq_reader, scanToken_eq_reader]
  cases readerOf ch more with
  | string =>
    dsimp only
    rw [show pos + k + 1 = pos + 1 + k by omega, scanString_shift k pos (pos + 1) more,
      Except.map_mapError']
  | _ => rfl

theorem skipSeparators_shift (k : Nat) (c : Cursor) :
    skipSeparators ⟨c.rest, c.pos + k⟩ = ⟨(skipSeparators c).rest, (skipSeparators c).pos + k⟩ := by
  simp only [skipSeparators]
  congr 1
  omega

/-- A step from a later position reads the same, its positions shifted. -/
theorem next_shift (k : Nat) (c : Cursor) :
    next ⟨c.rest, c.pos + k⟩ =
      ((next c).map (Option.map fun r => (r.1, ⟨r.2.rest, r.2.pos + k⟩))).mapError (·.shift k) := by
  unfold next
  rw [skipSeparators_shift]
  simp only
  split
  · rfl
  · next ch more _ =>
    rw [scanToken_shift]
    cases scanToken (skipSeparators c).pos ch more with
    | error e => rfl
    | ok r =>
      simp only [Except.mapError, Except.map, Option.map_some]
      congr 4
      omega

/-- **Lexing from a later position reads the same tokens**, and an error it stops at is shifted
by as much. -/
theorem run_shift (k : Nat) (c : Cursor) :
    run ⟨c.rest, c.pos + k⟩ = ((run c).1, (run c).2.map (·.shift k)) := by
  fun_induction run c with
  | case1 c e hnext =>
    rw [run_of_next_error (show next ⟨c.rest, c.pos + k⟩ = .error (e.shift k) by
      rw [next_shift, hnext]; rfl)]
    rfl
  | case2 c hnext =>
    rw [run_of_next_none (by rw [next_shift, hnext]; rfl)]
    rfl
  | case3 c t c' hnext _ _ ih =>
    rw [run_of_next_some (by rw [next_shift, hnext]; rfl), ih]


/-! ### A separator stops every reader -/

section Separator

variable {x : Char}

theorem isDigit_of_isSeparator (hx : isSeparator x = true) : x.isDigit = false := by
  rw [Bool.eq_false_iff]
  intro hd
  have := toNat_of_isDigit hd
  rw [isSeparator_eq_false (by omega) (by omega) (by rintro rfl; simp at this)] at hx
  cases hx

theorem isWordChar_of_isSeparator (hx : isSeparator x = true) : isWordChar x = false := by
  rw [Bool.eq_false_iff]
  intro hw
  have hprint : 33 ≤ x.toNat ∧ x.toNat ≤ 126 ∧ x ≠ ',' := by
    rcases word_of_isWordChar hw with h | rfl
    · replace h : (x.isAlpha || x.isDigit) = true := h
      rcases Bool.or_eq_true_iff.mp h with h | h
      · have := toNat_of_isAlpha h
        exact ⟨by omega, by omega, by rintro rfl; simp at this⟩
      · have := toNat_of_isDigit h
        exact ⟨by omega, by omega, by rintro rfl; simp at this⟩
    · decide
  rw [isSeparator_eq_false hprint.1 hprint.2.1 hprint.2.2] at hx
  cases hx

theorem ne_point_of_isSeparator (hx : isSeparator x = true) : x ≠ '.' := by
  rintro rfl
  cases hx

theorem takeWhile_append_cons_stop {p : Char → Bool} (hx : p x = false) :
    ∀ (cs b : List Char), (cs ++ x :: b).takeWhile p = cs.takeWhile p
  | [], b => by simp [List.takeWhile_cons_of_neg, hx]
  | c :: cs, b => by
    by_cases hc : p c = true
    · simp [List.takeWhile_cons_of_pos hc, takeWhile_append_cons_stop hx cs b]
    · simp [List.takeWhile_cons_of_neg hc]

/-- A prefix of `cs ++ x :: b` without `x` ends within `cs`. -/
theorem length_le_of_prefix_of_not_mem {l cs b : List Char} (hpre : l <+: cs ++ x :: b)
    (hx : x ∉ l) : l.length ≤ cs.length := by
  by_contra hle
  have hlt := Nat.lt_of_not_le hle
  apply hx
  have hat := hpre.getElem hlt
  simp [List.getElem_append_right] at hat
  rw [← hat]
  exact List.getElem_mem hlt

/-- A number's digits and point stop at a separator. -/
theorem numberTail_append_separator (hx : isSeparator x = true) (more b : List Char) :
    numberTail (more ++ x :: b) = numberTail more := by
  have hnot : x ∉ numberTail (more ++ x :: b) := by
    obtain ⟨frac, htail, hfrac⟩ := numberTail_shape (more ++ x :: b)
    rw [htail]
    intro hmem
    rcases List.mem_append.mp hmem with h | h
    · have hd : x.isDigit = true := List.mem_takeWhile_imp h
      rw [isDigit_of_isSeparator hx] at hd
      cases hd
    · rcases hfrac with rfl | ⟨fs, rfl, -, hfs⟩
      · cases h
      · rcases List.mem_cons.mp h with h | h
        · exact ne_point_of_isSeparator hx h
        · have hd := hfs x h
          rw [isDigit_of_isSeparator hx] at hd
          cases hd
  have hlen := length_le_of_prefix_of_not_mem (numberTail_prefix_self (more ++ x :: b)) hnot
  have htake := numberTail_take hlen
  rw [List.take_left] at htake
  exact htake.symm

/-- A string's content and closing quote are read the same whatever follows them. -/
theorem scanString_append {quote : Char} {start : Nat} (r : List Char) :
    ∀ {pos : Nat} {cs v : List Char} {n : Nat}, scanString quote start pos cs = .ok (v, n) →
      scanString quote start pos (cs ++ r) = .ok (v, n)
  | pos, [], v, n, h => by
    rw [scanString.eq_def] at h
    cases h
  | pos, c :: rest, v, n, h => by
    rw [scanString.eq_def] at h
    rw [List.cons_append, scanString.eq_def]
    simp only at h ⊢
    split_ifs at h ⊢ with hq hb
    · exact h
    · cases rest with
      | nil => cases h
      | cons e more =>
        simp only [List.cons_append] at h ⊢
        cases hu : unescape e with
        | none =>
          rw [hu] at h
          cases h
        | some u =>
          rw [hu] at h
          dsimp only at h ⊢
          obtain ⟨⟨v', n'⟩, hs, hv⟩ := map_eq_ok h
          rw [scanString_append r hs]
          exact hv ▸ rfl
    · obtain ⟨⟨v', n'⟩, hs, hv⟩ := map_eq_ok h
      rw [scanString_append r hs]
      exact hv ▸ rfl

/-- **A token is read the same whatever follows it after a separator.** -/
theorem scanToken_append_separator (hx : isSeparator x = true) (b : List Char) {pos : Nat}
    {ch : Char} {more : List Char} {t : Token} {w : Nat} (h : scanToken pos ch more = .ok (t, w)) :
    scanToken pos ch (more ++ x :: b) = .ok (t, w) := by
  -- the separator is no digit, so a minus is followed by a digit in both texts or in neither
  have hhead : ((more ++ x :: b).head?.map Char.isDigit).getD false =
      (more.head?.map Char.isDigit).getD false := by
    cases more with
    | nil => simp [isDigit_of_isSeparator hx]
    | cons m ms => rfl
  have hword : (more ++ x :: b).takeWhile isWordChar = more.takeWhile isWordChar :=
    takeWhile_append_cons_stop (isWordChar_of_isSeparator hx) more b
  rw [scanToken_eq_reader] at h ⊢
  rw [readerOf_congr hhead, numberTail_append_separator hx, hword]
  generalize readerOf ch more = r at h ⊢
  cases r with
  | string =>
    obtain ⟨⟨v, n⟩, hs, hv⟩ := map_eq_ok h
    dsimp only
    rw [scanString_append (x :: b) hs]
    exact hv ▸ rfl
  | _ => exact h

end Separator

/-! ### Lexing over a separator -/

theorem skipSeparators_separator {x : Char} (hx : isSeparator x = true) (cs : List Char) (p : Nat) :
    skipSeparators ⟨x :: cs, p⟩ = skipSeparators ⟨cs, p + 1⟩ := by
  simp only [skipSeparators, List.takeWhile_cons_of_pos hx, List.length_cons, List.drop_succ_cons]
  congr 1
  omega

theorem run_separator {x : Char} (hx : isSeparator x = true) (cs : List Char) (p : Nat) :
    run ⟨x :: cs, p⟩ = run ⟨cs, p + 1⟩ := by
  have h : next ⟨x :: cs, p⟩ = next ⟨cs, p + 1⟩ := by
    simp only [next, skipSeparators_separator hx]
  cases hn : next ⟨cs, p + 1⟩ with
  | error e => rw [run_of_next_error (h.trans hn), run_of_next_error hn]
  | ok r =>
    cases r with
    | none => rw [run_of_next_none (h.trans hn), run_of_next_none hn]
    | some tc => rw [run_of_next_some (h.trans hn), run_of_next_some hn]

/-- Separators before a text change nothing but the positions. -/
theorem run_separators : ∀ (seps cs : List Char), (∀ x ∈ seps, isSeparator x = true) →
    ∀ p, run ⟨seps ++ cs, p⟩ = run ⟨cs, p + seps.length⟩
  | [], cs, _, p => rfl
  | x :: seps, cs, h, p => by
    rw [List.cons_append, run_separator (h x List.mem_cons_self),
      run_separators seps cs (fun y hy => h y (List.mem_cons_of_mem x hy))]
    simp only [List.length_cons]
    congr 2
    omega

/-- The skip of a step that reads a token stops within the text, whatever follows it. -/
theorem skipSeparators_append {cs r : List Char} {p : Nat} {ch : Char} {more : List Char}
    (h : (skipSeparators ⟨cs, p⟩).rest = ch :: more) :
    skipSeparators ⟨cs ++ r, p⟩ = ⟨ch :: more ++ r, (skipSeparators ⟨cs, p⟩).pos⟩ := by
  rw [skipSeparators_eq] at h ⊢
  simp only at h ⊢
  have hlen : skipped ⟨cs, p⟩ < cs.length := by
    have := congrArg List.length h
    simp only [List.length_drop, List.length_cons] at this
    omega
  have hskip : skipped ⟨cs ++ r, p⟩ = skipped ⟨cs, p⟩ := by
    have hshort : (cs.takeWhile isSeparator).length ≠ cs.length := by
      unfold skipped at hlen
      exact Nat.ne_of_lt hlen
    unfold skipped
    simp only [List.takeWhile_append, if_neg hshort]
  rw [hskip, List.drop_append_of_le_length (Nat.le_of_lt hlen), h, List.cons_append]
  rfl

/-- **A step that reads a token reads it the same when a separator and more follow the text.** -/
theorem next_append_separator {x : Char} (hx : isSeparator x = true) (b : List Char)
    {cs : List Char} {p : Nat} {t : Token} {c' : Cursor} (h : next ⟨cs, p⟩ = .ok (some (t, c'))) :
    next ⟨cs ++ x :: b, p⟩ = .ok (some (t, ⟨c'.rest ++ x :: b, c'.pos⟩)) := by
  obtain ⟨ch, more, w, hr, hs, rfl⟩ := next_eq_some h
  have hw := scanToken_width_le hs
  unfold next
  rw [skipSeparators_append hr, List.cons_append]
  simp only [scanToken_append_separator hx b hs, Except.map_ok']
  rw [hr, ← List.cons_append, List.drop_append_of_le_length (by simpa using hw)]

/-- **Lexing a text, a separator and more reads the text's tokens, then those of the rest**,
when the text lexes without error: by induction along the run on the text, each step reading
the same token (`next_append_separator`) and the last finding only separators. -/
theorem run_append_separator {x : Char} (hx : isSeparator x = true) (b : List Char) (c : Cursor) :
    (run c).2 = none →
      run ⟨c.rest ++ x :: b, c.pos⟩ =
        ((run c).1 ++ (run ⟨b, c.pos + c.rest.length + 1⟩).1,
          (run ⟨b, c.pos + c.rest.length + 1⟩).2) := by
  fun_induction run c with
  | case1 c e hnext => intro h; cases h
  | case2 c hnext =>
    intro _
    have hall : ∀ y ∈ c.rest ++ [x], isSeparator y = true := by
      have hnil := next_eq_none hnext
      rw [skipSeparators_eq, drop_skipped] at hnil
      intro y hy
      rcases List.mem_append.mp hy with hy | hy
      · exact List.dropWhile_eq_nil_iff.mp hnil y hy
      · rw [List.mem_singleton.mp hy]
        exact hx
    rw [show c.rest ++ x :: b = (c.rest ++ [x]) ++ b by simp, run_separators _ b hall,
      List.length_append, List.length_singleton, ← Nat.add_assoc]
    rfl
  | case3 c t c' hnext _ _ ih =>
    intro h
    have hpos := next_pos_add_length hnext
    rw [run_of_next_some (next_append_separator hx b hnext), ih h, hpos]
    rfl

/-- **Lexing distributes over a separator.** When a text lexes into `ta`, the text followed by a
separator (a blank or a comma) and a second text lexes into `ta` and then the second text's
tokens, or fails with the second text's error, its position moved past the first text and the
separator. -/
theorem tokenize_append_separator {a b : String} {x : Char} (hx : isSeparator x = true)
    {ta : List Token} (ha : tokenize a = .ok ta) :
    (∀ tb, tokenize b = .ok tb → tokenize (a ++ String.singleton x ++ b) = .ok (ta ++ tb)) ∧
      (∀ e, tokenize b = .error e →
        tokenize (a ++ String.singleton x ++ b) = .error (e.shift (a.length + 1))) := by
  have hrun := run_of_tokenize_ok ha
  have hjoin := run_append_separator hx b.toList (Cursor.start a) (by rw [hrun])
  have hshift := run_shift (a.length + 1) (Cursor.start b)
  simp only [Cursor.start, Nat.zero_add, String.length_toList] at hrun hjoin hshift
  rw [hrun, hshift] at hjoin
  refine ⟨fun tb htb => ?_, fun e he => ?_⟩
  · have hb := run_of_tokenize_ok htb
    simp only [Cursor.start] at hb
    simp [tokenize, Cursor.start, hjoin, hb]
  · obtain ⟨tb, hb⟩ := run_of_tokenize_error he
    simp only [Cursor.start] at hb
    simp [tokenize, Cursor.start, hjoin, hb]

/-- An ideographic space is a separator. After `x-1`, which lexes to a name and a number, the
text `add(2)` lexes to its own four tokens, and a string with the invalid escape `\z` fails at
its position in the string, 3, moved by the four characters before it. -/
theorem tokenize_append_ideographic_space :
    isSeparator '\u3000' = true ∧ tokenize "x-1" = .ok [⟨.name, "x"⟩, ⟨.number, "-1"⟩] ∧
      tokenize ("x-1" ++ String.singleton '\u3000' ++ "add(2)") =
        .ok [⟨.name, "x"⟩, ⟨.number, "-1"⟩, ⟨.function, "add"⟩, ⟨.openParen, "("⟩,
          ⟨.number, "2"⟩, ⟨.closeParen, ")"⟩] ∧
      tokenize ("x-1" ++ String.singleton '\u3000' ++ "\"q\\z\"") =
        .error (.invalidEscape 'z' 7) := by
  have hx : isSeparator '\u3000' = true := by decide
  have ha : tokenize "x-1" = .ok [⟨.name, "x"⟩, ⟨.number, "-1"⟩] := by cbv
  have hok : tokenize "add(2)" =
      .ok [⟨.function, "add"⟩, ⟨.openParen, "("⟩, ⟨.number, "2"⟩, ⟨.closeParen, ")"⟩] := by cbv
  have herr : tokenize "\"q\\z\"" = .error (.invalidEscape 'z' 3) := by cbv
  exact ⟨hx, ha, (tokenize_append_separator hx ha).1 _ hok,
    (tokenize_append_separator hx ha).2 _ herr⟩

end Lexer
end ColumnExpr
