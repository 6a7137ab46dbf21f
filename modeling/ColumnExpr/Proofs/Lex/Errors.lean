/-
# Where lexing fails

A lexing error points at the character that caused it, positions counted in characters
(`tokenize_error_located`):

* an unexpected character stands at its position, is no separator, and starts no token: it is
  no bracket, quote, ASCII digit, ASCII letter or `_`, nor a `-` before an ASCII digit;
* an unterminated string is reported at its opening quote, and everything after that quote is
  string content with no closing quote outside escapes, save perhaps one last lone backslash;
* an invalid escape is reported one past its backslash, the escaped character is none of `n`,
  `t`, `r`, a quote or a backslash, and the string's content runs cleanly from its opening quote
  up to that backslash.

The tokens read before the error are exactly the tokens of the text cut where the failing token
starts, and that text lexes without error. This rests on every token reader deciding where its
token ends without looking past the character after it (`scanToken_take`): cutting the text
anywhere from the end of a token on leaves that token as it was, so each step before the failure
reads the same token from the cut text (`next_take`).

Key definitions: `Lexer.StartsToken`, `Lexer.StringBody`, `Lexer.ErrorAt`.
Key theorems: `Lexer.scanString_error`, `Lexer.scanToken_error`, `Lexer.scanToken_take`,
`Lexer.run_error_prefix`, `Lexer.tokenize_error_located`.
-/
import Mathlib
import ColumnExpr.Proofs.Lex.RoundTrip
namespace ColumnExpr
namespace Lexer

/-- The characters a backslash may escape. -/
def escapable : List Char := ['n', 't', 'r', '"', '\'', '\\']

theorem unescape_isSome_iff (c : Char) : (unescape c).isSome ↔ c ∈ escapable := by
  unfold unescape escapable
  split_ifs <;> simp_all

/-- The characters that start a token, `after` being what follows `ch`: a bracket, a quote, an
ASCII digit, a `-` before an ASCII digit, an ASCII letter or `_`. -/
def StartsToken (ch : Char) (after : List Char) : Prop :=
  ch = '(' ∨ ch = ')' ∨ ch = '\x7b' ∨ ch = '\x7d' ∨ ch = '"' ∨ ch = '\'' ∨ ch.isDigit = true ∨
    (ch = '-' ∧ ∃ d rest, after = d :: rest ∧ d.isDigit = true) ∨ ch.isAlpha = true ∨ ch = '_'

/-- String content as far as it goes, inside the quote `quote`: characters other than that
quote and the backslash, and a backslash before an escapable character. -/
inductive StringBody (quote : Char) : List Char → Prop
  | nil : StringBody quote []
  | plain {c : Char} {cs : List Char} : c ≠ quote → c ≠ '\\' → StringBody quote cs →
      StringBody quote (c :: cs)
  | escape {e : Char} {cs : List Char} : e ∈ escapable → StringBody quote cs →
      StringBody quote ('\\' :: e :: cs)

/-- What a lexing error says of the characters `cs` of the text, where `q` is the position at
which the failing token starts. -/
def ErrorAt (cs : List Char) (q : Nat) : LexError → Prop
  | .unexpectedChar ch p =>
    q = p ∧ cs[p]? = some ch ∧ isSeparator ch = false ∧ ¬ StartsToken ch (cs.drop (p + 1))
  | .unterminatedString p =>
    q = p ∧ ∃ quote body tail, cs.drop p = quote :: (body ++ tail) ∧
      (quote = '"' ∨ quote = '\'') ∧ StringBody quote body ∧ (tail = [] ∨ tail = ['\\'])
  | .invalidEscape ch p =>
    cs[p - 1]? = some '\\' ∧ cs[p]? = some ch ∧ ch ∉ escapable ∧
      ∃ quote body post, cs.drop q = quote :: (body ++ '\\' :: ch :: post) ∧
        (quote = '"' ∨ quote = '\'') ∧ StringBody quote body ∧ p = q + body.length + 2

/-! ### How a token fails -/

/-- **How a string's content fails.** Either the text ends inside it, perhaps right after a
backslash, and the error is at the opening quote; or the content runs cleanly up to a backslash
before a character that may not be escaped, and the error is at that character. -/
theorem scanString_error {quote : Char} {start : Nat} :
    ∀ {pos : Nat} {cs : List Char} {e : LexError}, scanString quote start pos cs = .error e →
      (e = .unterminatedString start ∧ ∃ body tail, cs = body ++ tail ∧ StringBody quote body ∧
          (tail = [] ∨ tail = ['\\'])) ∨
        ∃ body ch post, e = .invalidEscape ch (pos + body.length + 1) ∧
          cs = body ++ '\\' :: ch :: post ∧ StringBody quote body ∧ ch ∉ escapable
  | pos, [], e, h => by
    rw [scanString.eq_def] at h
    cases h
    exact .inl ⟨rfl, [], [], rfl, .nil, .inl rfl⟩
  | pos, c :: rest, e, h => by
    rw [scanString.eq_def] at h
    simp only at h
    split_ifs at h with hq hb
    · -- a backslash: the text ends, or the escaped character is refused or read
      subst hb
      cases rest with
      | nil =>
        cases h
        exact .inl ⟨rfl, [], ['\\'], rfl, .nil, .inr rfl⟩
      | cons x more =>
        simp only at h
        cases hu : unescape x with
        | none =>
          rw [hu] at h
          cases h
          have hx : x ∉ escapable := fun hx => by
            simpa [hu] using (unescape_isSome_iff x).mpr hx
          exact .inr ⟨[], x, more, rfl, rfl, .nil, hx⟩
        | some u =>
          rw [hu, Except.map_eq_error'] at h
          have hx : x ∈ escapable := (unescape_isSome_iff x).mp (by simp [hu])
          rcases scanString_error h with ⟨rfl, body, tail, rfl, hbody, htail⟩ |
              ⟨body, ch, post, rfl, rfl, hbody, hch⟩
          · exact .inl ⟨rfl, '\\' :: x :: body, tail, rfl, .escape hx hbody, htail⟩
          · refine .inr ⟨'\\' :: x :: body, ch, post, ?_, rfl, .escape hx hbody, hch⟩
            simp only [List.length_cons, LexError.invalidEscape.injEq, true_and]
            omega
    · -- any other character is content
      rw [Except.map_eq_error'] at h
      rcases scanString_error h with ⟨rfl, body, tail, rfl, hbody, htail⟩ |
          ⟨body, ch, post, rfl, rfl, hbody, hch⟩
      · exact .inl ⟨rfl, c :: body, tail, rfl, .plain hq hb hbody, htail⟩
      · refine .inr ⟨c :: body, ch, post, ?_, rfl, .plain hq hb hbody, hch⟩
        simp only [List.length_cons, LexError.invalidEscape.injEq, true_and]
        omega

/-- **How a token fails.** A character that starts no token fails at its own position; a quote
fails when the string's content does; no other token fails. -/
theorem scanToken_error {pos : Nat} {ch : Char} {more : List Char} {e : LexError}
    (h : scanToken pos ch more = .error e) :
    (e = .unexpectedChar ch pos ∧ ¬ StartsToken ch more) ∨
      ((ch = '"' ∨ ch = '\'') ∧ scanString ch pos (pos + 1) more = .error e) := by
  unfold scanToken at h
  split_ifs at h with h1 h2 h3 h4 h5 h6 h7
  · exact .inr ⟨h5, Except.map_eq_error'.mp h⟩
  · cases h
    refine .inl ⟨rfl, ?_⟩
    rintro (h | h | h | h | h | h | h | ⟨rfl, d, rest, rfl, hd⟩ | h | h)
    · exact h1 h
    · exact h2 h
    · exact h3 h
    · exact h4 h
    · exact h5 (.inl h)
    · exact h5 (.inr h)
    · exact h6 (.inl h)
    · exact h6 (.inr ⟨rfl, by simp [hd]⟩)
    · exact h7 (.inl h)
    · exact h7 (.inr h)

/-! ### A token is read without looking past it

Each reader stops at the first character it does not take, and looks no further than the one
after it. So the text may be cut anywhere from the end of the token on. -/

theorem scanString_take {quote : Char} {start : Nat} :
    ∀ {pos : Nat} {cs v : List Char} {n m : Nat}, scanString quote start pos cs = .ok (v, n) →
      n ≤ m → scanString quote start pos (cs.take m) = .ok (v, n)
  | pos, [], v, n, m, h, _ => by
    rw [scanString.eq_def] at h
    cases h
  | pos, c :: rest, v, n, m, h, hm => by
    rw [scanString.eq_def] at h
    simp only at h
    split_ifs at h with hq hb
    · -- the closing quote is the one character read
      cases h
      obtain ⟨m', rfl⟩ : ∃ m', m = m' + 1 := ⟨m - 1, by omega⟩
      rw [List.take_succ_cons, scanString.eq_def]
      simp [hq]
    · -- after a backslash, the escaped character is within the cut as well
      subst hb
      cases rest with
      | nil => cases h
      | cons x more =>
        simp only at h
        cases hu : unescape x with
        | none =>
          rw [hu] at h
          cases h
        | some u =>
          rw [hu] at h
          obtain ⟨⟨v', n'⟩, hs, hv⟩ := map_eq_ok h
          cases hv
          obtain ⟨m', rfl⟩ : ∃ m', m = m' + 2 := ⟨m - 2, by omega⟩
          rw [List.take_succ_cons, List.take_succ_cons, scanString.eq_def]
          simp only [hq, if_false, if_true, hu]
          rw [scanString_take hs (by omega)]
          rfl
    · obtain ⟨⟨v', n'⟩, hs, hv⟩ := map_eq_ok h
      cases hv
      obtain ⟨m', rfl⟩ : ∃ m', m = m' + 1 := ⟨m - 1, by omega⟩
      rw [List.take_succ_cons, scanString.eq_def]
      simp only [hq, hb, if_false]
      rw [scanString_take hs (by omega)]
      rfl

/-- What a number's text has after its digits: a point and the digits after it, when a digit
follows the point, and nothing otherwise. -/
def pointTail : List Char → List Char
  | '.' :: d :: more => if d.isDigit then '.' :: (d :: more).takeWhile Char.isDigit else []
  | _ => []

theorem numberTail_eq (cs : List Char) :
    numberTail cs = cs.takeWhile Char.isDigit ++ pointTail (cs.dropWhile Char.isDigit) := by
  unfold numberTail
  split
  · next d more heq =>
    rw [heq, pointTail]
    split <;> simp
  · next hnot =>
    rw [pointTail.eq_def]
    split
    · next d more heq => exact absurd heq (hnot d more)
    · simp

/-- A point tail comes from a point, a digit and more. -/
theorem pointTail_eq_cons {r : List Char} {x : Char} {xs : List Char}
    (h : pointTail r = x :: xs) :
    ∃ d more, r = '.' :: d :: more ∧ d.isDigit = true ∧
      x :: xs = '.' :: (d :: more).takeWhile Char.isDigit := by
  unfold pointTail at h
  split at h
  · next d more =>
    split at h
    · next hd => exact ⟨d, more, rfl, hd, h.symm⟩
    · cases h
  · cases h

theorem pointTail_take {r : List Char} {j : Nat} (h : (pointTail r).length ≤ j) :
    pointTail (r.take j) = pointTail r := by
  cases hp : pointTail r with
  | nil =>
    cases hq : pointTail (r.take j) with
    | nil => rfl
    | cons x xs =>
      obtain ⟨d, more, hr, hd, -⟩ := pointTail_eq_cons hq
      have hsplit := List.take_append_drop j r
      rw [hr] at hsplit
      rw [← hsplit] at hp
      simp [pointTail, hd] at hp
  | cons x xs =>
    obtain ⟨d, more, rfl, hd, hxs⟩ := pointTail_eq_cons hp
    rw [hp, hxs, List.length_cons] at h
    have hlen : ((d :: more).takeWhile Char.isDigit).length ≥ 1 := by
      simp [List.takeWhile_cons_of_pos hd]
    obtain ⟨j', rfl⟩ : ∃ j', j = j' + 2 := ⟨j - 2, by omega⟩
    rw [List.take_succ_cons, List.take_succ_cons, hxs]
    simp only [pointTail, hd, if_true]
    rw [← List.take_succ_cons, ← List.take_takeWhile, List.take_of_length_le (by omega)]

theorem numberTail_take {cs : List Char} {m : Nat} (h : (numberTail cs).length ≤ m) :
    numberTail (cs.take m) = numberTail cs := by
  rw [numberTail_eq] at h
  rw [numberTail_eq (cs.take m), numberTail_eq cs]
  set ds := cs.takeWhile Char.isDigit with hds
  set r := cs.dropWhile Char.isDigit with hr
  have hsplit : cs = ds ++ r := List.takeWhile_append_dropWhile.symm
  rw [List.length_append] at h
  have hcut : cs.take m = ds ++ r.take (m - ds.length) := by
    rw [congrArg (List.take m) hsplit, List.take_append, List.take_of_length_le (by omega)]
  have hdigits : ∀ d ∈ ds, d.isDigit = true := fun d hd => List.mem_takeWhile_imp hd
  have hfirst : ∀ c ∈ (r.take (m - ds.length)).head?, c.isDigit = false := by
    intro c hc
    rw [List.head?_take] at hc
    split at hc
    · cases hc
    · have := List.head?_dropWhile_not Char.isDigit cs
      rw [← hr, hc] at this
      exact this
  have htake : (cs.take m).takeWhile Char.isDigit = ds := by
    rw [hcut, List.takeWhile_append_of_pos hdigits]
    cases hrt : r.take (m - ds.length) with
    | nil => simp
    | cons c rest =>
      rw [hrt] at hfirst
      simp [List.takeWhile_cons_of_neg, hfirst c rfl]
  have hdrop : (cs.take m).dropWhile Char.isDigit = r.take (m - ds.length) := by
    rw [hcut, List.dropWhile_append_of_pos hdigits]
    cases hrt : r.take (m - ds.length) with
    | nil => rfl
    | cons c rest =>
      rw [hrt] at hfirst
      exact List.dropWhile_cons_of_neg (by simp [hfirst c rfl])
  rw [htake, hdrop, pointTail_take (by omega)]

/-- **A token is read the same from any cut of the text at or after its end.** -/
theorem scanToken_take {pos : Nat} {ch : Char} {more : List Char} {t : Token} {w m : Nat}
    (h : scanToken pos ch more = .ok (t, w)) (hw : w ≤ m + 1) :
    scanToken pos ch (more.take m) = .ok (t, w) := by
  unfold scanToken at h ⊢
  split_ifs at h with h1 h2 h3 h4 h5 h6 h7
  · rw [if_pos h1]; exact h
  · rw [if_neg h1, if_pos h2]; exact h
  · rw [if_neg h1, if_neg h2, if_pos h3]; exact h
  · rw [if_neg h1, if_neg h2, if_neg h3, if_pos h4]; exact h
  · rw [if_neg h1, if_neg h2, if_neg h3, if_neg h4, if_pos h5]
    obtain ⟨⟨v, n⟩, hs, hv⟩ := map_eq_ok h
    cases hv
    rw [scanString_take hs (by omega)]
    rfl
  · -- a number: its digits end within the cut, and so does the digit after a leading `-`
    cases h
    have htail : numberTail (more.take m) = numberTail more := numberTail_take (by omega)
    have hstart : ch.isDigit = true ∨
        (ch = '-' ∧ ((more.take m).head?.map Char.isDigit).getD false = true) := by
      rcases h6 with hd | ⟨hminus, hhead⟩
      · exact .inl hd
      · refine .inr ⟨hminus, ?_⟩
        have hm : m ≠ 0 := by
          obtain ⟨frac, hfrac, -⟩ := numberTail_shape more
          cases more with
          | nil => simp at hhead
          | cons d rest =>
            have hd : d.isDigit = true := by simpa using hhead
            rw [List.takeWhile_cons_of_pos hd] at hfrac
            rw [hfrac] at hw
            simp at hw
            omega
        rw [List.head?_take, if_neg hm]
        exact hhead
    rw [if_neg h1, if_neg h2, if_neg h3, if_neg h4, if_neg h5, if_pos hstart, htail]
  · -- a word: its characters end within the cut
    cases h
    have hnum : ¬ (ch.isDigit = true ∨
        (ch = '-' ∧ ((more.take m).head?.map Char.isDigit).getD false = true)) := by
      rintro (hd | ⟨rfl, -⟩)
      · exact h6 (.inl hd)
      · rcases h7 with h | h <;> simp at h
    have hword : (more.take m).takeWhile isWordChar = more.takeWhile isWordChar := by
      rw [← List.take_takeWhile, List.take_of_length_le (by omega)]
    rw [if_neg h1, if_neg h2, if_neg h3, if_neg h4, if_neg h5, if_neg hnum, if_pos h7, hword]

/-! ### Steps of the lexer -/

/-- What a step that reads a token did: skipped separators, then read the token from the
character it stopped at. -/
theorem next_eq_some {c c' : Cursor} {t : Token} (h : next c = .ok (some (t, c'))) :
    ∃ ch more w, (skipSeparators c).rest = ch :: more ∧
      scanToken (skipSeparators c).pos ch more = .ok (t, w) ∧
      c' = ⟨(skipSeparators c).rest.drop w, (skipSeparators c).pos + w⟩ := by
  unfold next at h
  simp only at h
  split at h
  · cases h
  · next ch more hr =>
    obtain ⟨⟨t', w⟩, hs, hv⟩ := map_eq_ok h
    simp only [Option.some.injEq, Prod.mk.injEq] at hv
    obtain ⟨rfl, rfl⟩ := hv
    exact ⟨ch, more, w, hr, hs, by rw [hr]⟩

/-- What a step that fails did: skipped separators, then failed on the character it stopped
at. -/
theorem next_eq_error {c : Cursor} {e : LexError} (h : next c = .error e) :
    ∃ ch more, (skipSeparators c).rest = ch :: more ∧
      scanToken (skipSeparators c).pos ch more = .error e := by
  unfold next at h
  simp only at h
  split at h
  · cases h
  · next ch more hr => exact ⟨ch, more, hr, Except.map_eq_error'.mp h⟩

/-- The number of separators a step skips. -/
def skipped (c : Cursor) : Nat := (c.rest.takeWhile isSeparator).length

theorem skipSeparators_eq (c : Cursor) :
    skipSeparators c = ⟨c.rest.drop (skipped c), c.pos + skipped c⟩ := rfl

theorem take_skipped (c : Cursor) : c.rest.take (skipped c) = c.rest.takeWhile isSeparator :=
  calc c.rest.take (skipped c)
      = (c.rest.takeWhile isSeparator ++ c.rest.dropWhile isSeparator).take (skipped c) := by
        rw [List.takeWhile_append_dropWhile]
    _ = c.rest.takeWhile isSeparator := List.take_left

theorem drop_skipped (c : Cursor) : c.rest.drop (skipped c) = c.rest.dropWhile isSeparator :=
  calc c.rest.drop (skipped c)
      = (c.rest.takeWhile isSeparator ++ c.rest.dropWhile isSeparator).drop (skipped c) := by
        rw [List.takeWhile_append_dropWhile]
    _ = c.rest.dropWhile isSeparator := List.drop_left

theorem not_separator_of_skip {c : Cursor} {ch : Char} {more : List Char}
    (h : (skipSeparators c).rest = ch :: more) : isSeparator ch = false := by
  have hfirst := List.head?_dropWhile_not isSeparator c.rest
  have hdrop : c.rest.dropWhile isSeparator = ch :: more := by
    rw [← h, skipSeparators_eq, drop_skipped]
  rw [hdrop] at hfirst
  exact hfirst

/-- Separators alone lex to nothing. -/
theorem next_of_separators {cs : List Char} (h : ∀ x ∈ cs, isSeparator x = true) (p : Nat) :
    next ⟨cs, p⟩ = .ok none := by
  have hnil : (skipSeparators ⟨cs, p⟩).rest = [] := by
    rw [skipSeparators_eq, drop_skipped]
    exact List.dropWhile_eq_nil_iff.mpr h
  unfold next
  simp only [hnil]

/-- A step reads past what it skipped and read, and the rest is the text after that. -/
theorem next_some_rest {c c' : Cursor} {t : Token} (h : next c = .ok (some (t, c'))) :
    c.pos < c'.pos ∧ c'.rest = c.rest.drop (c'.pos - c.pos) := by
  obtain ⟨ch, more, w, hr, hs, rfl⟩ := next_eq_some h
  have hw := scanToken_width_pos hs
  rw [skipSeparators_eq] at hr ⊢
  refine ⟨by simp only; omega, ?_⟩
  simp only [List.drop_drop]
  congr 1
  omega

/-- **A step that reads a token reads it from any cut of the text at or after its end**, and
leaves the cut text after it. -/
theorem next_take {c c' : Cursor} {t : Token} {q : Nat} (h : next c = .ok (some (t, c')))
    (hq : c'.pos ≤ q) :
    next ⟨c.rest.take (q - c.pos), c.pos⟩ = .ok (some (t, ⟨c'.rest.take (q - c'.pos), c'.pos⟩)) := by
  obtain ⟨ch, more, w, hr, hs, rfl⟩ := next_eq_some h
  have hw := scanToken_width_pos hs
  rw [skipSeparators_eq] at hr hs hq ⊢
  simp only at hr hs hq ⊢
  have hk : skipped c = (c.rest.takeWhile isSeparator).length := rfl
  have hskip : skipped ⟨c.rest.take (q - c.pos), c.pos⟩ = skipped c := by
    simp only [skipped, ← List.take_takeWhile, List.length_take]
    omega
  have hcut : (c.rest.take (q - c.pos)).drop (skipped c) =
      ch :: more.take (q - c.pos - skipped c - 1) := by
    rw [List.drop_take, hr]
    obtain ⟨j, hj⟩ : ∃ j, q - c.pos - skipped c = j + 1 := ⟨q - c.pos - skipped c - 1, by omega⟩
    rw [hj, List.take_succ_cons]
    congr 2
  have hrest : (ch :: more.take (q - c.pos - skipped c - 1)).drop w =
      ((c.rest.drop (skipped c)).drop w).take (q - (c.pos + skipped c + w)) := by
    rw [hr, ← List.take_succ_cons, List.drop_take]
    congr 1
    omega
  have hscan := scanToken_take hs (show w ≤ (q - c.pos - skipped c - 1) + 1 by omega)
  unfold next
  rw [skipSeparators_eq, hskip]
  simp only [hcut, hscan, Except.map_ok', hrest]

/-! ### Lexing up to the failure -/

/-- **A run that fails did so at a token's start.** There the character is no separator and
its scan fails with the run's error; and the text cut at that point lexes without error into
the tokens the run read before failing. By induction along the run: each step before the
failure reads the same token from the cut text. -/
theorem run_error_prefix (c : Cursor) {e : LexError} (h : (run c).2 = some e) :
    ∃ q ch more, c.pos ≤ q ∧ c.rest.drop (q - c.pos) = ch :: more ∧ isSeparator ch = false ∧
      scanToken q ch more = .error e ∧ run ⟨c.rest.take (q - c.pos), c.pos⟩ = ((run c).1, none) := by
  fun_induction run c with
  | case1 c e' hnext =>
    cases h
    obtain ⟨ch, more, hr, hs⟩ := next_eq_error hnext
    have hsep := not_separator_of_skip hr
    rw [skipSeparators_eq] at hr hs
    refine ⟨c.pos + skipped c, ch, more, by omega, by simpa using hr, hsep, hs, ?_⟩
    -- the cut text is the skipped separators, which lex to nothing
    apply run_of_next_none
    rw [Nat.add_sub_cancel_left, take_skipped]
    exact next_of_separators (fun x hx => List.mem_takeWhile_imp hx) c.pos
  | case2 c hnext => cases h
  | case3 c t c' hnext _ _ ih =>
    obtain ⟨q, ch, more, hq, hdrop, hsep, hs, hrun⟩ := ih h
    obtain ⟨hlt, hrest⟩ := next_some_rest hnext
    refine ⟨q, ch, more, by omega, ?_, hsep, hs, ?_⟩
    · rw [← hdrop, hrest, List.drop_drop]
      congr 1
      omega
    · rw [run_of_next_some (next_take hnext hq), hrun]

/-- **Where a failing scan puts its error.** The scan at `q`, where the text has `ch` followed
by `more`, fails with an error that describes the text as `ErrorAt` says. -/
theorem errorAt_of_scanToken {cs more : List Char} {q : Nat} {ch : Char} {e : LexError}
    (hdrop : cs.drop q = ch :: more) (hsep : isSeparator ch = false)
    (h : scanToken q ch more = .error e) : ErrorAt cs q e := by
  have hat : ∀ j, cs[q + j]? = (ch :: more)[j]? := fun j => by rw [← List.getElem?_drop, hdrop]
  have hafter : cs.drop (q + 1) = more := by
    rw [← List.tail_drop, hdrop]
    rfl
  rcases scanToken_error h with ⟨rfl, hnot⟩ | ⟨hquote, hstr⟩
  · refine ⟨rfl, ?_, hsep, by rwa [hafter]⟩
    simpa using hat 0
  · rcases scanString_error hstr with ⟨rfl, body, tail, rfl, hbody, htail⟩ |
        ⟨body, c, post, rfl, rfl, hbody, hc⟩
    · exact ⟨rfl, ch, body, tail, hdrop, hquote, hbody, htail⟩
    · -- the backslash and the escaped character follow the quote and the clean content
      refine ⟨?_, ?_, hc, ch, body, post, hdrop, hquote, hbody, by omega⟩
      · rw [show q + 1 + body.length + 1 - 1 = q + (body.length + 1) by omega, hat]
        simp
      · rw [show q + 1 + body.length + 1 = q + (body.length + 2) by omega, hat]
        simp

/-- **Lexing errors point at their cause, and the tokens read before an error are those of the
text cut at the failing token.** When lexing a text fails, the error stands where its
description says (`ErrorAt`), and the text up to the start of the failing token lexes without
error into exactly the tokens read before the failure. -/
theorem tokenize_error_located {s : String} {e : LexError} (h : tokenize s = .error e) :
    ∃ q, ErrorAt s.toList q e ∧
      tokenize (String.ofList (s.toList.take q)) = .ok (run (Cursor.start s)).1 := by
  have hrun : (run (Cursor.start s)).2 = some e := by
    unfold tokenize at h
    split at h
    · cases h
    · next ts e' heq =>
      cases h
      rw [heq]
  obtain ⟨q, ch, more, -, hdrop, hsep, hs, hprefix⟩ := run_error_prefix _ hrun
  simp only [Cursor.start, Nat.sub_zero] at hdrop hprefix
  refine ⟨q, ?_, ?_⟩
  · exact errorAt_of_scanToken hdrop hsep hs
  · unfold tokenize
    simp only [Cursor.start, String.toList_ofList, hprefix]

/-- In `add("é\q")` the escape `\q` is refused at position 7, one past its backslash, inside the
string opened at position 4; before it the lexer read `add` and `(`. -/
theorem tokenize_error_located_escape :
    tokenize "add(\"é\\q\")" = .error (.invalidEscape 'q' 7) ∧
      ∃ q, ErrorAt "add(\"é\\q\")".toList q (.invalidEscape 'q' 7) ∧
        tokenize (String.ofList ("add(\"é\\q\")".toList.take q)) =
          .ok (run (Cursor.start "add(\"é\\q\")")).1 := by
  have h : tokenize "add(\"é\\q\")" = .error (.invalidEscape 'q' 7) := by cbv
  exact ⟨h, tokenize_error_located h⟩

end Lexer
end ColumnExpr
