/-
# Token spans partition the text

Each call of the lexer skips separators and then reads one token, or finds the text used up.
Follow the calls from the start of a text (`Lexer.Reaches`): at each cursor reached, the
characters left are those of the text from the cursor's position on (`Lexer.Cursor.Into`). A call
that reads a token skips only separators, up to the first character that is no separator, and
reads a span of at least that character (`next_span`): every reader looks at the character it is
called on and takes it. Which reader a character calls is said once (`scanToken_eq_reader`), and
each fact about one scan is a case on the reader. A call that reads no token saw only separators
and leaves the cursor at the end of the text (`next_none`).

So the spans of the tokens, in order, with separators between them, cover the text
(`next_spans_partition`); calls that read tokens cannot go on forever (`step_wellFounded`), and
lexing reads at most one token per character (`tokenize_length_le`).

Key definitions: `Lexer.readerOf`, `Lexer.Cursor.Into`, `Lexer.Step`, `Lexer.Reaches`.
Key theorems: `Lexer.scanToken_eq_reader`, `Lexer.scanToken_width_le`, `Lexer.next_span`,
`Lexer.next_none`, `Lexer.next_spans_partition`.
-/
import ColumnExpr.Proofs.Lex.Errors
namespace ColumnExpr
namespace Lexer

/-- A string's content and closing quote are read from within the text. -/
theorem scanString_width_le {quote : Char} {start : Nat} :
    ∀ {pos : Nat} {cs v : List Char} {n : Nat}, scanString quote start pos cs = .ok (v, n) →
      n ≤ cs.length
  | pos, [], v, n, h => by
    rw [scanString.eq_def] at h
    cases h
  | pos, c :: rest, v, n, h => by
    rw [scanString.eq_def] at h
    simp only at h
    split_ifs at h with hq hb
    · cases h
      simp
    · cases rest with
      | nil => cases h
      | cons x more =>
        simp only at h
        cases hu : unescape x with
        | none =>
          rw [hu] at h
          cases h
        | some u =>
          rw [hu] at h
          obtain ⟨⟨v', n'⟩, hs, hv⟩ := map_eq_ok h
          cases hv
          have := scanString_width_le hs
          simp only [List.length_cons]
          omega
    · obtain ⟨⟨v', n'⟩, hs, hv⟩ := map_eq_ok h
      cases hv
      have := scanString_width_le hs
      simp only [List.length_cons]
      omega

theorem pointTail_prefix_self (r : List Char) : pointTail r <+: r := by
  unfold pointTail
  split
  · split
    · exact List.cons_prefix_cons.mpr ⟨rfl, List.takeWhile_prefix _⟩
    · exact List.nil_prefix
  · exact List.nil_prefix

/-- A number's text after its first character is a prefix of what follows that character. -/
theorem numberTail_prefix_self (cs : List Char) : numberTail cs <+: cs := by
  have hsplit : cs.takeWhile Char.isDigit ++ cs.dropWhile Char.isDigit = cs :=
    List.takeWhile_append_dropWhile
  have hpre := (List.prefix_append_right_inj (cs.takeWhile Char.isDigit)).mpr
    (pointTail_prefix_self (cs.dropWhile Char.isDigit))
  rw [hsplit] at hpre
  rw [numberTail_eq]
  exact hpre

/-! ### The reader a token's first character picks -/

/-- What `scanToken` does with a token's first character: read a bracket, a string up to its
closing quote, a number, a word, or fail. -/
inductive Reader where
  | bracket (t : Token)
  | string
  | number
  | word
  | none

/-- The reader `scanToken` picks for the first character `ch`, `more` being what follows it:
the tests of `scanToken`, in its order. -/
def readerOf (ch : Char) (more : List Char) : Reader :=
  if ch = '(' then .bracket ⟨.openParen, "("⟩
  else if ch = ')' then .bracket ⟨.closeParen, ")"⟩
  else if ch = '\x7b' then .bracket ⟨.openBlock, "\x7b"⟩
  else if ch = '\x7d' then .bracket ⟨.closeBlock, "\x7d"⟩
  else if ch = '"' ∨ ch = '\'' then .string
  else if ch.isDigit ∨ (ch = '-' ∧ (more.head?.map Char.isDigit).getD false) then .number
  else if ch.isAlpha ∨ ch = '_' then .word
  else .none

/-- **`scanToken` by its reader.** Every fact about one scan follows from this equation by a
case on the reader, without going through the tests again. -/
theorem scanToken_eq_reader (pos : Nat) (ch : Char) (more : List Char) :
    scanToken pos ch more =
      match readerOf ch more with
      | .bracket t => .ok (t, 1)
      | .string =>
        (scanString ch pos (pos + 1) more).map fun (v, n) => (⟨.string, String.ofList v⟩, n + 1)
      | .number => .ok (⟨.number, String.ofList (ch :: numberTail more)⟩, (numberTail more).length + 1)
      | .word => .ok (wordToken (String.ofList (ch :: more.takeWhile isWordChar)),
          (more.takeWhile isWordChar).length + 1)
      | .none => .error (.unexpectedChar ch pos) := by
  -- one test at a time: `split_ifs` over both if-chains at once is many times slower
  unfold scanToken readerOf
  by_cases h1 : ch = '('
  · simp only [if_pos h1]
  by_cases h2 : ch = ')'
  · simp only [if_neg h1, if_pos h2]
  by_cases h3 : ch = '\x7b'
  · simp only [if_neg h1, if_neg h2, if_pos h3]
  by_cases h4 : ch = '\x7d'
  · simp only [if_neg h1, if_neg h2, if_neg h3, if_pos h4]
  simp only [if_neg h1, if_neg h2, if_neg h3, if_neg h4]
  by_cases h5 : ch = '"' ∨ ch = '\''
  · simp only [if_pos h5]
  simp only [if_neg h5]
  split
  · rfl
  split <;> rfl

/-- The reader depends on what follows the first character only through whether it starts
with a digit. -/
theorem readerOf_congr {ch : Char} {more more' : List Char}
    (h : (more.head?.map Char.isDigit).getD false = (more'.head?.map Char.isDigit).getD false) :
    readerOf ch more = readerOf ch more' := by
  unfold readerOf
  rw [h]

/-- A token spans no more than the characters at hand. -/
theorem scanToken_width_le {pos : Nat} {ch : Char} {more : List Char} {t : Token} {w : Nat}
    (h : scanToken pos ch more = .ok (t, w)) : w ≤ more.length + 1 := by
  rw [scanToken_eq_reader] at h
  generalize readerOf ch more = r at h
  cases r with
  | bracket t' =>
    cases h
    omega
  | string =>
    obtain ⟨⟨v, n⟩, hs, hv⟩ := map_eq_ok h
    cases hv
    have := scanString_width_le hs
    omega
  | number =>
    cases h
    have := (numberTail_prefix_self more).length_le
    omega
  | word =>
    cases h
    have hword : more.takeWhile isWordChar <+: more := List.takeWhile_prefix isWordChar
    have := hword.length_le
    omega
  | none => cases h

/-- A step's position moves exactly as far as the characters it consumed. -/
theorem next_pos_add_length {c c' : Cursor} {t : Token} (h : next c = .ok (some (t, c'))) :
    c'.pos + c'.rest.length = c.pos + c.rest.length := by
  obtain ⟨ch, more, w, hr, hs, rfl⟩ := next_eq_some h
  have hwle := scanToken_width_le hs
  rw [skipSeparators_eq] at hr
  simp only at hr
  have hlen : (c.rest.drop (skipped c)).length = more.length + 1 := by
    rw [hr]
    rfl
  rw [skipSeparators_eq]
  show c.pos + skipped c + w + ((c.rest.drop (skipped c)).drop w).length = c.pos + c.rest.length
  simp only [List.length_drop] at hlen ⊢
  omega

/-- A cursor into the text `cs`: at a position within it, with the characters from there on
left to lex. -/
structure Cursor.Into (cs : List Char) (c : Cursor) : Prop where
  pos_le : c.pos ≤ cs.length
  rest_eq : c.rest = cs.drop c.pos

theorem Cursor.into_start (s : String) : (Cursor.start s).Into s.toList := ⟨Nat.zero_le _, rfl⟩

/-- **One call that reads a token.** It skips the separators from the cursor on, up to the first
character that is no separator, and reads a span of at least that character; the cursor after it
is into the same text. -/
theorem next_span {cs : List Char} {c c' : Cursor} {t : Token} (hc : c.Into cs)
    (h : next c = .ok (some (t, c'))) :
    c'.Into cs ∧ ∃ q, c.pos ≤ q ∧ q < c'.pos ∧
      (∀ x ∈ (cs.take q).drop c.pos, isSeparator x = true) ∧
      ∃ x, cs[q]? = some x ∧ isSeparator x = false := by
  obtain ⟨ch, more, w, hr, hs, rfl⟩ := next_eq_some h
  have hsep := not_separator_of_skip hr
  have hw := scanToken_width_pos hs
  have hwle := scanToken_width_le hs
  rw [skipSeparators_eq] at hr ⊢
  simp only at hr ⊢
  have hlen : (c.rest.drop (skipped c)).length = more.length + 1 := by
    rw [hr]
    rfl
  rw [List.length_drop, hc.rest_eq, List.length_drop] at hlen
  refine ⟨⟨?_, ?_⟩, c.pos + skipped c, by omega, ?_, ?_, ch, ?_, hsep⟩
  · show c.pos + skipped c + w ≤ cs.length
    have := hc.pos_le
    omega
  · show List.drop w (List.drop (skipped c) c.rest) = cs.drop (c.pos + skipped c + w)
    rw [List.drop_drop, hc.rest_eq, List.drop_drop]
    congr 1
    omega
  · show c.pos + skipped c < c.pos + skipped c + w
    omega
  · -- what the step skipped are the separators at the front of the characters left
    intro x hx
    rw [List.drop_take, Nat.add_sub_cancel_left, ← hc.rest_eq, take_skipped] at hx
    exact List.mem_takeWhile_imp hx
  · rw [← List.getElem?_drop, ← hc.rest_eq]
    have h0 := congrArg (fun l => l[0]?) hr
    simpa using h0

/-- What a step that finds no token saw: nothing left after the separators. -/
theorem next_eq_none {c : Cursor} (h : next c = .ok none) : (skipSeparators c).rest = [] := by
  unfold next at h
  simp only at h
  split at h
  · next hnil => exact hnil
  · obtain ⟨_, -, hv⟩ := map_eq_ok h
    cases hv

/-- **One call that finds no token.** Only separators were left, and the call leaves the cursor
at the end of the text, where every later call again finds nothing. -/
theorem next_none {cs : List Char} {c : Cursor} (hc : c.Into cs) (h : next c = .ok none) :
    (∀ x ∈ cs.drop c.pos, isSeparator x = true) ∧ skipSeparators c = ⟨[], cs.length⟩ := by
  have hnil := next_eq_none h
  rw [skipSeparators_eq, drop_skipped] at hnil
  have hall : ∀ x ∈ c.rest, isSeparator x = true := List.dropWhile_eq_nil_iff.mp hnil
  have hskip : skipped c = c.rest.length := by
    unfold skipped
    rw [List.takeWhile_eq_self_iff.mpr hall]
  refine ⟨hc.rest_eq ▸ hall, ?_⟩
  rw [skipSeparators_eq, hskip, List.drop_length, hc.rest_eq, List.length_drop]
  have := hc.pos_le
  congr 1
  omega

/-- Every call reads fewer tokens than there are characters left. -/
theorem run_length_le (c : Cursor) : (run c).1.length ≤ c.rest.length := by
  fun_induction run c with
  | case1 => simp
  | case2 => simp
  | case3 c t c' hnext hlt _ ih =>
    show (t :: (run c').1).length ≤ c.rest.length
    simp only [List.length_cons]
    omega

theorem tokenize_length_le {s : String} {ts : List Token} (h : tokenize s = .ok ts) :
    ts.length ≤ s.length := by
  have hlen := run_length_le (Cursor.start s)
  rw [run_of_tokenize_ok h] at hlen
  exact hlen

/-- One call of the lexer that reads a token, from the cursor `c` to the cursor `c'` after it. -/
def Step (c c' : Cursor) : Prop := ∃ t, next c = .ok (some (t, c'))

/-- The cursors that calls from the start of the text `s` reach, each call reading a token. -/
def Reaches (s : String) (c : Cursor) : Prop := Relation.ReflTransGen Step (Cursor.start s) c

/-- Every cursor calls reach is into the text: the characters left are those from its position
on. By induction along the calls, each one keeping the cursor into the text (`next_span`). -/
theorem Reaches.into {s : String} {c : Cursor} (h : Reaches s c) : c.Into s.toList := by
  induction h with
  | refl => exact Cursor.into_start s
  | tail _ hstep ih =>
    obtain ⟨t, hnext⟩ := hstep
    exact (next_span ih hnext).1

/-- Calls that read tokens cannot go on forever: each leaves fewer characters. -/
theorem step_wellFounded : WellFounded (flip Step) :=
  (InvImage.wf (fun c : Cursor => c.rest.length) wellFounded_lt).mono
    fun _ _ ⟨_, h⟩ => next_rest_lt h

/-- **The lexer's token spans partition the text.** Successive calls cannot read tokens forever.
At every cursor calls reach from the start of `s`, a call that reads a token skips only
separators, from the cursor up to the first character that is no separator, and reads a
non-empty span from there; a call that reads none saw only separators and leaves the cursor at
the end of the text, where the next call again reads none and leaves it in place. So lexing reads
at most one token per character. -/
theorem next_spans_partition (s : String) :
    WellFounded (flip Step) ∧
    (∀ c, Reaches s c → ∀ t c', next c = .ok (some (t, c')) →
      ∃ q, c.pos ≤ q ∧ q < c'.pos ∧ c'.pos ≤ s.length ∧
        (∀ x ∈ (s.toList.take q).drop c.pos, isSeparator x = true) ∧
        ∃ x, s.toList[q]? = some x ∧ isSeparator x = false) ∧
    (∀ c, Reaches s c → next c = .ok none →
      (∀ x ∈ s.toList.drop c.pos, isSeparator x = true) ∧ skipSeparators c = ⟨[], s.length⟩ ∧
        next (skipSeparators c) = .ok none ∧ skipSeparators (skipSeparators c) = skipSeparators c) ∧
    ∀ ts, tokenize s = .ok ts → ts.length ≤ s.length := by
  refine ⟨step_wellFounded, fun c hc t c' h => ?_, fun c hc h => ?_, fun _ => tokenize_length_le⟩
  · obtain ⟨hc', q, h1, h2, h3, h4⟩ := next_span hc.into h
    exact ⟨q, h1, h2, hc'.pos_le, h3, h4⟩
  · obtain ⟨hall, hend⟩ := next_none hc.into h
    refine ⟨hall, hend, ?_, ?_⟩ <;> rw [hend] <;> rfl

end Lexer
end ColumnExpr
