/-
# Lexing inverts rendering

A token list is rendered as source text by writing its tokens one after another with a single
space between two (`render`): a string token as a double quote, its text with a backslash put
before every backslash and every double quote, and a double quote; every other token as its
text. A token is lexable when its text is one the lexer produces for its kind
(`Token.Lexable`): a number is `-?[0-9]+(\.[0-9]+)?`; a name is an ASCII word
`[A-Za-z_][A-Za-z0-9_]*` that is neither a keyword nor a built-in function's name; a function
token is a built-in function's name; a keyword or bracket has its lexeme; a string may be any
text.

Lexing the rendering of lexable tokens gives them back (`tokenize_render`), and every token the
lexer produces is lexable (`lexable_of_tokenize`); together, `lexer_roundtrip`. The first rests
on `next_source`: one step of the lexer at a rendered token followed by a space, or by nothing,
reads exactly that token. Each class needs its own reason: a string ends at its first unescaped
quote, a number's point is read only before a digit, a word stops at the first character that
is no ASCII letter, digit or `_`, and none of them reads the space.

Key definitions: `Lexer.IsNumberText`, `Lexer.IsWordText`, `Token.Lexable`, `Token.source`,
`Lexer.render`.
Key theorems: `Lexer.next_source`, `Lexer.run_renderChars`, `Lexer.scanToken_lexable`,
`Lexer.lexer_roundtrip`.
-/
import Mathlib.Data.List.TakeWhile
import ColumnExpr.Syntax.Lexer
import ColumnExpr.Proofs.Except
namespace ColumnExpr
namespace Lexer

/-- One or more ASCII digits. -/
def IsDigits (ds : List Char) : Prop := ds ≠ [] ∧ ∀ d ∈ ds, d.isDigit = true

/-- The text of a number token, `-?[0-9]+(\.[0-9]+)?`. -/
def IsNumberText (cs : List Char) : Prop :=
  ∃ sign ds frac, cs = sign ++ ds ++ frac ∧ (sign = [] ∨ sign = ['-']) ∧ IsDigits ds ∧
    (frac = [] ∨ ∃ fs, frac = '.' :: fs ∧ IsDigits fs)

/-- The text of a word, `[A-Za-z_][A-Za-z0-9_]*`. -/
def IsWordText (cs : List Char) : Prop :=
  ∃ c rest, cs = c :: rest ∧ (c.isAlpha = true ∨ c = '_') ∧
    ∀ x ∈ rest, x.isAlphanum = true ∨ x = '_'

/-- The words that are never names: the keywords and the built-in functions' names. -/
def reservedWords : List String := ["if", "else", "add", "subtract", "is_num"]

end Lexer

/-- A token the lexer can produce: its text is one the lexer reads as a token of its kind. -/
def Token.Lexable (t : Token) : Prop :=
  match t.kind with
  | .number => Lexer.IsNumberText t.value.toList
  | .string => True
  | .name => Lexer.IsWordText t.value.toList ∧ t.value ∉ Lexer.reservedWords
  | .function => t.value ∈ ["add", "subtract", "is_num"]
  | k => k.lexeme = some t.value

namespace Lexer

/-- A string's text as written between double quotes: a backslash before every backslash and
every double quote. -/
def escapeChars : List Char → List Char
  | [] => []
  | c :: cs => if c = '\\' ∨ c = '"' then '\\' :: c :: escapeChars cs else c :: escapeChars cs

end Lexer

/-- How a token is written in source text. -/
def Token.source (t : Token) : List Char :=
  match t.kind with
  | .string => '"' :: Lexer.escapeChars t.value.toList ++ ['"']
  | _ => t.value.toList

namespace Lexer

/-- Tokens written one after another, a single space between two. -/
def renderChars : List Token → List Char
  | [] => []
  | [t] => t.source
  | t :: u :: ts => t.source ++ ' ' :: renderChars (u :: ts)

/-- The source text of a token list. -/
def render (ts : List Token) : String := String.ofList (renderChars ts)

/-! ### Characters -/

theorem isSeparator_eq_false {c : Char} (h1 : 33 ≤ c.toNat) (h2 : c.toNat ≤ 126) (hc : c ≠ ',') :
    isSeparator c = false := by
  rw [Bool.eq_false_iff]
  intro h
  simp [isSeparator, Text.isBlank, Text.blankCodes] at h
  rcases h with h | rfl
  · omega
  · exact hc rfl

theorem toNat_of_isDigit {c : Char} (h : c.isDigit = true) : 48 ≤ c.toNat ∧ c.toNat ≤ 57 := by
  simp only [Char.isDigit, Bool.and_eq_true, decide_eq_true_eq] at h
  exact ⟨h.1, h.2⟩

theorem toNat_of_isAlpha {c : Char} (h : c.isAlpha = true) :
    (65 ≤ c.toNat ∧ c.toNat ≤ 90) ∨ (97 ≤ c.toNat ∧ c.toNat ≤ 122) := by
  replace h : (decide (c.val ≥ 'A'.val ∧ c.val ≤ 'Z'.val) ||
      (c.val ≥ 'a'.val && c.val ≤ 'z'.val)) = true := h
  simp only [Bool.or_eq_true, Bool.and_eq_true, decide_eq_true_eq] at h
  exact h

/-- The characters of a word after its first, checked one by one. -/
theorem wordTail_of_all {tail : List Char}
    (h : tail.all (fun x => x.isAlphanum || x == '_') = true) :
    ∀ x ∈ tail, x.isAlphanum = true ∨ x = '_' := by
  intro x hx
  have hx' := List.all_eq_true.mp h x hx
  simpa using hx'

theorem isWordChar_of_word {x : Char} (h : x.isAlphanum = true ∨ x = '_') : isWordChar x = true := by
  rcases h with h | rfl
  · simp [isWordChar, h]
  · rfl

/-! ### What follows a rendered token

A rendered token is followed by a space or by the end of the text, and no scan of the lexer
reads a space into a token. -/

/-- The text after a rendered token: nothing, or a space and more. -/
def Spaced (rest : List Char) : Prop := rest = [] ∨ ∃ r, rest = ' ' :: r

theorem takeWhile_append_spaced {p : Char → Bool} {xs rest : List Char}
    (hxs : ∀ x ∈ xs, p x = true) (hp : p ' ' = false) (hrest : Spaced rest) :
    (xs ++ rest).takeWhile p = xs := by
  rw [List.takeWhile_append_of_pos hxs]
  rcases hrest with rfl | ⟨r, rfl⟩
  · simp
  · simp [List.takeWhile_cons_of_neg (by simp [hp] : ¬p ' ' = true)]

theorem dropWhile_append_spaced {p : Char → Bool} {xs rest : List Char}
    (hxs : ∀ x ∈ xs, p x = true) (hp : p ' ' = false) (hrest : Spaced rest) :
    (xs ++ rest).dropWhile p = rest := by
  rw [List.dropWhile_append_of_pos hxs]
  rcases hrest with rfl | ⟨r, rfl⟩
  · simp
  · exact List.dropWhile_cons_of_neg (by simp [hp])

/-! ### Scanning one rendered token -/

theorem scanString_quote (start pos : Nat) (rest : List Char) :
    scanString '"' start pos ('"' :: rest) = .ok ([], 1) := by
  rw [scanString.eq_def]
  simp

theorem scanString_plain {c : Char} (hq : c ≠ '"') (hb : c ≠ '\\') (start pos : Nat)
    (rest : List Char) :
    scanString '"' start pos (c :: rest) =
      (scanString '"' start (pos + 1) rest).map fun (v, n) => (c :: v, n + 1) := by
  rw [scanString.eq_def]
  simp [hq, hb]

theorem scanString_escape {c : Char} (hu : unescape c = some c) (start pos : Nat)
    (rest : List Char) :
    scanString '"' start pos ('\\' :: c :: rest) =
      (scanString '"' start (pos + 2) rest).map fun (v, n) => (c :: v, n + 2) := by
  rw [scanString.eq_def]
  simp [hu]

/-- A string's escaped text is read back to the text, up to and including the closing quote. -/
theorem scanString_escapeChars (v : List Char) (start pos : Nat) (rest : List Char) :
    scanString '"' start pos (escapeChars v ++ '"' :: rest) =
      .ok (v, (escapeChars v).length + 1) := by
  induction v generalizing pos with
  | nil => exact scanString_quote start pos rest
  | cons c v ih =>
    by_cases hc : c = '\\' ∨ c = '"'
    · have hu : unescape c = some c := by rcases hc with rfl | rfl <;> rfl
      rw [escapeChars, if_pos hc, List.cons_append, List.cons_append, scanString_escape hu, ih]
      simp only [Except.map_ok', List.length_cons]
    · have hq : c ≠ '"' := fun h => hc (.inr h)
      have hb : c ≠ '\\' := fun h => hc (.inl h)
      rw [escapeChars, if_neg hc, List.cons_append, scanString_plain hq hb, ih]
      simp only [Except.map_ok', List.length_cons]

/-- The rest of a rendered number after its first character: its digits before the point,
then the point and the digits after it. -/
theorem numberTail_append {ds frac rest : List Char} (hds : ∀ d ∈ ds, d.isDigit = true)
    (hfrac : frac = [] ∨ ∃ fs, frac = '.' :: fs ∧ IsDigits fs) (hrest : Spaced rest) :
    numberTail (ds ++ frac ++ rest) = ds ++ frac := by
  rcases hfrac with rfl | ⟨fs, rfl, hne, hfs⟩
  · have hspace : Char.isDigit ' ' = false := rfl
    have htake := takeWhile_append_spaced hds hspace hrest
    have hdrop := dropWhile_append_spaced hds hspace hrest
    simp only [List.append_nil] at htake hdrop ⊢
    unfold numberTail
    rw [htake, hdrop]
    rcases hrest with rfl | ⟨r, rfl⟩ <;> rfl
  · obtain ⟨f, fs', rfl⟩ := List.exists_cons_of_ne_nil hne
    have hf : f.isDigit = true := hfs f (by simp)
    have hpoint : ¬ Char.isDigit '.' = true := by decide
    have htake : (ds ++ '.' :: f :: fs' ++ rest).takeWhile Char.isDigit = ds := by
      rw [List.append_assoc, List.takeWhile_append_of_pos hds, List.cons_append,
        List.takeWhile_cons_of_neg hpoint, List.append_nil]
    have hdrop : (ds ++ '.' :: f :: fs' ++ rest).dropWhile Char.isDigit = '.' :: f :: (fs' ++ rest) := by
      rw [List.append_assoc, List.dropWhile_append_of_pos hds, List.cons_append,
        List.dropWhile_cons_of_neg hpoint, List.cons_append]
    have hafter : (f :: (fs' ++ rest)).takeWhile Char.isDigit = f :: fs' := by
      rw [← List.cons_append]
      exact takeWhile_append_spaced hfs rfl hrest
    unfold numberTail
    rw [htake, hdrop]
    simp only [hf, if_true, hafter]

theorem scanToken_number {pos : Nat} {ch : Char} {tail rest : List Char}
    (h : IsNumberText (ch :: tail)) (hrest : Spaced rest) :
    scanToken pos ch (tail ++ rest) = .ok (⟨.number, String.ofList (ch :: tail)⟩, tail.length + 1) := by
  obtain ⟨sign, ds, frac, heq, hsign, ⟨hne, hds⟩, hfrac⟩ := h
  -- the first character is a digit, or a minus before a digit; neither is a bracket or a quote
  have hstart : (ch.isDigit ∨ (ch = '-' ∧ ((tail ++ rest).head?.map Char.isDigit).getD false)) ∧
      numberTail (tail ++ rest) = tail := by
    rcases hsign with rfl | rfl
    · obtain ⟨d, ds', rfl⟩ := List.exists_cons_of_ne_nil hne
      simp only [List.nil_append, List.cons_append, List.cons.injEq] at heq
      obtain ⟨rfl, rfl⟩ := heq
      exact ⟨.inl (hds _ (by simp)),
        numberTail_append (fun d hd => hds d (by simp [hd])) hfrac hrest⟩
    · obtain ⟨d, ds', rfl⟩ := List.exists_cons_of_ne_nil hne
      simp only [List.cons_append, List.cons.injEq] at heq
      obtain ⟨rfl, rfl⟩ := heq
      refine ⟨.inr ⟨rfl, by simp [hds d (by simp)]⟩, ?_⟩
      simpa using numberTail_append hds hfrac hrest
  have hne : ¬ (ch = '(' ∨ ch = ')' ∨ ch = '\x7b' ∨ ch = '\x7d' ∨ ch = '"' ∨ ch = '\'') := by
    rcases hstart.1 with hd | ⟨rfl, -⟩
    · have := toNat_of_isDigit hd
      rintro (rfl | rfl | rfl | rfl | rfl | rfl) <;> simp at this
    · decide
  simp only [not_or] at hne
  obtain ⟨h1, h2, h3, h4, h5, h6⟩ := hne
  simp only [scanToken, if_neg h1, if_neg h2, if_neg h3, if_neg h4, h5, h6, or_self, if_false,
    if_pos hstart.1, hstart.2]

theorem scanToken_word {pos : Nat} {ch : Char} {tail rest : List Char}
    (hch : ch.isAlpha = true ∨ ch = '_') (htail : ∀ x ∈ tail, x.isAlphanum = true ∨ x = '_')
    (hrest : Spaced rest) :
    scanToken pos ch (tail ++ rest) =
      .ok (wordToken (String.ofList (ch :: tail)), tail.length + 1) := by
  have hne : ¬ (ch = '(' ∨ ch = ')' ∨ ch = '\x7b' ∨ ch = '\x7d' ∨ ch = '"' ∨ ch = '\'' ∨
      ch = '-' ∨ ch.isDigit = true) := by
    rcases hch with h | rfl
    · have hα := toNat_of_isAlpha h
      rintro (rfl | rfl | rfl | rfl | rfl | rfl | rfl | hd)
      rotate_right
      · -- a digit's code lies below every letter's
        have hδ := toNat_of_isDigit hd
        omega
      all_goals simp at hα
    · decide
  simp only [not_or] at hne
  obtain ⟨h1, h2, h3, h4, h5, h6, h7, h8⟩ := hne
  have htake : (tail ++ rest).takeWhile isWordChar = tail :=
    takeWhile_append_spaced (fun x hx => isWordChar_of_word (htail x hx)) rfl hrest
  simp only [scanToken, if_neg h1, if_neg h2, if_neg h3, if_neg h4, h5, h6, h7, h8, or_self,
    false_and, Bool.false_eq_true, if_false, hch, if_true, htake]

theorem scanToken_string (pos : Nat) (v rest : List Char) :
    scanToken pos '"' (escapeChars v ++ '"' :: rest) =
      .ok (⟨.string, String.ofList v⟩, (escapeChars v).length + 2) := by
  simp [scanToken, scanString_escapeChars]

theorem wordToken_of_not_reserved {w : String} (h : w ∉ reservedWords) :
    wordToken w = ⟨.name, w⟩ := by
  simp only [reservedWords, List.mem_cons, List.not_mem_nil, or_false, not_or] at h
  obtain ⟨hif, helse, hadd, hsub, hnum⟩ := h
  simp [wordToken, Builtin.lookup, hif, helse, hadd, hsub, hnum]

/-- What `source_scan` says of a token: written from a character that is no separator, and
read back by the scan from that character when a space or the end of the text follows. -/
def ScansBack (t : Token) : Prop :=
  ∃ ch tail, t.source = ch :: tail ∧ isSeparator ch = false ∧
    ∀ pos rest, Spaced rest → scanToken pos ch (tail ++ rest) = .ok (t, tail.length + 1)

/-- A token written as a word scans back when the lexer classifies that word as the token:
names, keywords and function names alike. -/
theorem scansBack_word {t : Token} (ch : Char) (tail : List Char) (hsrc : t.source = ch :: tail)
    (hch : ch.isAlpha = true ∨ ch = '_') (htail : ∀ x ∈ tail, x.isAlphanum = true ∨ x = '_')
    (hword : wordToken (String.ofList (ch :: tail)) = t) : ScansBack t := by
  have hsep : isSeparator ch = false := by
    rcases hch with h | rfl
    · have := toNat_of_isAlpha h
      exact isSeparator_eq_false (by omega) (by omega) (by rintro rfl; simp at this)
    · decide
  refine ⟨ch, tail, hsrc, hsep, fun pos rest hrest => ?_⟩
  rw [scanToken_word hch htail hrest, hword]

/-- A bracket scans back: its one character is its token. -/
theorem scansBack_bracket {t : Token} (ch : Char) (hsrc : t.source = [ch])
    (hsep : isSeparator ch = false) (hscan : ∀ pos rest, scanToken pos ch rest = .ok (t, 1)) :
    ScansBack t :=
  ⟨ch, [], hsrc, hsep, fun pos rest _ => hscan pos rest⟩

/-- **Every lexable token scans back.** Each class has its own reason: a number starts with a
minus or a digit, a string with its quote, a word with a letter or `_`, a bracket is one
character. -/
theorem source_scan {t : Token} (ht : t.Lexable) : ScansBack t := by
  rcases t with ⟨kind, v⟩
  cases kind
  case number =>
    obtain ⟨sign, ds, frac, heq, hsign, ⟨hne, hds⟩, hfrac⟩ := id ht
    obtain ⟨ch, tail, hv⟩ : ∃ ch tail, v.toList = ch :: tail := by
      obtain ⟨d, ds', rfl⟩ := List.exists_cons_of_ne_nil hne
      rcases hsign with rfl | rfl <;> exact ⟨_, _, heq⟩
    have hsep : isSeparator ch = false := by
      rw [hv] at heq
      obtain ⟨d, ds', rfl⟩ := List.exists_cons_of_ne_nil hne
      rcases hsign with rfl | rfl
      · simp only [List.nil_append, List.cons_append, List.cons.injEq] at heq
        rw [heq.1]
        have := toNat_of_isDigit (hds d (by simp))
        exact isSeparator_eq_false (by omega) (by omega) (by rintro rfl; simp at this)
      · simp only [List.cons_append, List.cons.injEq] at heq
        rw [heq.1]
        decide
    refine ⟨ch, tail, hv, hsep, fun pos rest hrest => ?_⟩
    have hnum : IsNumberText (ch :: tail) := hv ▸ ht
    rw [scanToken_number hnum hrest, ← hv, String.ofList_toList]
  case string =>
    refine ⟨'"', escapeChars v.toList ++ ['"'], rfl, by decide, fun pos rest _ => ?_⟩
    rw [List.append_assoc, List.singleton_append, scanToken_string, String.ofList_toList]
    simp
  case name =>
    obtain ⟨⟨c, tail, hv, hc, htail⟩, hres⟩ := ht
    refine scansBack_word c tail hv hc htail ?_
    rw [← hv, String.ofList_toList, wordToken_of_not_reserved hres]
  case function =>
    simp only [Token.Lexable, List.mem_cons, List.not_mem_nil, or_false] at ht
    rcases ht with rfl | rfl | rfl
    · exact scansBack_word 'a' ['d', 'd'] rfl (by decide) (wordTail_of_all (by decide)) rfl
    · exact scansBack_word 's' "ubtract".toList rfl (by decide) (wordTail_of_all (by decide)) rfl
    · exact scansBack_word 'i' "s_num".toList rfl (by decide) (wordTail_of_all (by decide)) rfl
  case ifKeyword =>
    cases (Option.some.inj ht : "if" = v)
    exact scansBack_word 'i' ['f'] rfl (by decide) (wordTail_of_all (by decide)) rfl
  case elseKeyword =>
    cases (Option.some.inj ht : "else" = v)
    exact scansBack_word 'e' "lse".toList rfl (by decide) (wordTail_of_all (by decide)) rfl
  case openParen =>
    cases (Option.some.inj ht : "(" = v)
    exact scansBack_bracket '(' rfl (by decide) fun pos rest => by simp [scanToken]
  case closeParen =>
    cases (Option.some.inj ht : ")" = v)
    exact scansBack_bracket ')' rfl (by decide) fun pos rest => by simp [scanToken]
  case openBlock =>
    cases (Option.some.inj ht : "\x7b" = v)
    exact scansBack_bracket '\x7b' rfl (by decide) fun pos rest => by simp [scanToken]
  case closeBlock =>
    cases (Option.some.inj ht : "\x7d" = v)
    exact scansBack_bracket '\x7d' rfl (by decide) fun pos rest => by simp [scanToken]

/-! ### Lexing a rendering -/

/-- **One step of the lexer at a rendered token reads exactly that token**, when a space or
the end of the text follows it. -/
theorem next_source {t : Token} (ht : t.Lexable) {rest : List Char} (hrest : Spaced rest)
    (p : Nat) : next ⟨t.source ++ rest, p⟩ = .ok (some (t, ⟨rest, p + t.source.length⟩)) := by
  obtain ⟨ch, tail, hsrc, hsep, hscan⟩ := source_scan ht
  have hskip : skipSeparators ⟨ch :: (tail ++ rest), p⟩ = ⟨ch :: (tail ++ rest), p⟩ := by
    simp [skipSeparators, List.takeWhile_cons_of_neg, hsep]
  rw [hsrc, List.cons_append]
  simp only [next, hskip, hscan p rest hrest, Except.map_ok']
  simp

theorem skipSeparators_space (cs : List Char) (p : Nat) :
    skipSeparators ⟨' ' :: cs, p⟩ = skipSeparators ⟨cs, p + 1⟩ := by
  have hsp : isSeparator ' ' = true := by decide
  simp only [skipSeparators, List.takeWhile_cons_of_pos hsp, List.length_cons, List.drop_succ_cons]
  congr 1
  omega

theorem next_space (cs : List Char) (p : Nat) : next ⟨' ' :: cs, p⟩ = next ⟨cs, p + 1⟩ := by
  simp only [next, skipSeparators_space]

theorem run_of_next_some {c c' : Cursor} {t : Token} (h : next c = .ok (some (t, c'))) :
    run c = (t :: (run c').1, (run c').2) := by
  rw [run]
  split <;> simp_all

theorem run_of_next_none {c : Cursor} (h : next c = .ok none) : run c = ([], none) := by
  rw [run]
  split <;> simp_all

theorem run_of_next_error {c : Cursor} {e : LexError} (h : next c = .error e) :
    run c = ([], some e) := by
  rw [run]
  split <;> simp_all

/-- A space before the text changes nothing but the positions. -/
theorem run_space (cs : List Char) (p : Nat) : run ⟨' ' :: cs, p⟩ = run ⟨cs, p + 1⟩ := by
  have h := next_space cs p
  cases hn : next ⟨cs, p + 1⟩ with
  | error e => rw [run_of_next_error (h.trans hn), run_of_next_error hn]
  | ok r =>
    cases r with
    | none => rw [run_of_next_none (h.trans hn), run_of_next_none hn]
    | some tc => rw [run_of_next_some (h.trans hn), run_of_next_some hn]

/-- Lexing the rendering of lexable tokens reads them back, and no error. -/
theorem run_renderChars : ∀ (ts : List Token), (∀ t ∈ ts, t.Lexable) → ∀ p : Nat,
    run ⟨renderChars ts, p⟩ = (ts, none)
  | [], _, p => run_of_next_none (by simp [renderChars, next, skipSeparators])
  | [t], h, p => by
    have hstep := next_source (h t (by simp)) (.inl rfl) p
    rw [List.append_nil] at hstep
    rw [renderChars, run_of_next_some hstep, run_of_next_none (by simp [next, skipSeparators])]
  | t :: u :: ts, h, p => by
    have hstep := next_source (h t (by simp)) (.inr ⟨renderChars (u :: ts), rfl⟩) p
    have hrest := run_renderChars (u :: ts) (fun x hx => h x (List.mem_cons_of_mem t hx))
    have hrender : renderChars (t :: u :: ts) = t.source ++ ' ' :: renderChars (u :: ts) := rfl
    rw [hrender, run_of_next_some hstep, run_space, hrest]

theorem tokenize_render {ts : List Token} (h : ∀ t ∈ ts, t.Lexable) :
    tokenize (render ts) = .ok ts := by
  simp only [tokenize, Cursor.start, render, String.toList_ofList, run_renderChars ts h]

/-! ### What the lexer produces is lexable -/

/-- What follows a number's first character: digits, then a point and digits or nothing. -/
theorem numberTail_shape (cs : List Char) :
    ∃ frac, numberTail cs = cs.takeWhile Char.isDigit ++ frac ∧
      (frac = [] ∨ ∃ fs, frac = '.' :: fs ∧ IsDigits fs) := by
  unfold numberTail
  split
  · next d more _ =>
    split
    · next hd =>
      refine ⟨'.' :: (d :: more).takeWhile Char.isDigit, rfl, .inr ⟨_, rfl, ?_, ?_⟩⟩
      · simp [List.takeWhile_cons_of_pos hd]
      · intro x hx
        exact List.mem_takeWhile_imp hx
    · exact ⟨[], by simp, .inl rfl⟩
  · exact ⟨[], by simp, .inl rfl⟩

theorem isNumberText_numberTail {ch : Char} {more : List Char}
    (h : ch.isDigit = true ∨ (ch = '-' ∧ (more.head?.map Char.isDigit).getD false = true)) :
    IsNumberText (ch :: numberTail more) := by
  obtain ⟨frac, htail, hfrac⟩ := numberTail_shape more
  rw [htail]
  rcases h with hd | ⟨rfl, hhead⟩
  · refine ⟨[], ch :: more.takeWhile Char.isDigit, frac, rfl, .inl rfl, ⟨by simp, ?_⟩, hfrac⟩
    intro x hx
    rcases List.mem_cons.mp hx with rfl | hx
    · exact hd
    · exact List.mem_takeWhile_imp hx
  · obtain ⟨d, more', rfl⟩ : ∃ d more', more = d :: more' := by
      cases more with
      | nil => simp at hhead
      | cons d more' => exact ⟨d, more', rfl⟩
    have hd : d.isDigit = true := by simpa using hhead
    refine ⟨['-'], (d :: more').takeWhile Char.isDigit, frac, rfl, .inr rfl, ⟨?_, ?_⟩, hfrac⟩
    · simp [List.takeWhile_cons_of_pos hd]
    · intro x hx
      exact List.mem_takeWhile_imp hx

theorem lookup_isSome_iff {w : String} :
    (Builtin.lookup w).isSome ↔ w ∈ ["add", "subtract", "is_num"] := by
  unfold Builtin.lookup
  split_ifs <;> simp_all

/-- Every word the lexer reads is a lexable token: a keyword, a function or a name. -/
theorem wordToken_lexable {w : String} (h : IsWordText w.toList) : (wordToken w).Lexable := by
  unfold wordToken
  split
  · next hif =>
    subst hif
    rfl
  split
  · next helse =>
    subst helse
    rfl
  split
  · next hf => exact lookup_isSome_iff.mp hf
  · next hif helse hf =>
    refine ⟨h, ?_⟩
    have hf' : w ∉ ["add", "subtract", "is_num"] := fun hm => hf (lookup_isSome_iff.mpr hm)
    simp only [reservedWords, List.mem_cons, List.not_mem_nil, or_false] at hf' ⊢
    rintro (hm | hm | hm)
    · exact hif hm
    · exact helse hm
    · exact hf' hm

theorem word_of_isWordChar {x : Char} (h : isWordChar x = true) : x.isAlphanum = true ∨ x = '_' := by
  simpa [isWordChar] using h

/-- **Every token a scan produces is lexable.** -/
theorem scanToken_lexable {pos : Nat} {ch : Char} {more : List Char} {t : Token} {w : Nat}
    (h : scanToken pos ch more = .ok (t, w)) : t.Lexable := by
  unfold scanToken at h
  split at h
  · cases h; rfl
  split at h
  · cases h; rfl
  split at h
  · cases h; rfl
  split at h
  · cases h; rfl
  split at h
  · obtain ⟨⟨v, n⟩, -, hv⟩ := map_eq_ok h
    simp only [Prod.mk.injEq] at hv
    rw [← hv.1]
    trivial
  split at h
  · next hnum =>
    cases h
    show IsNumberText (String.ofList (ch :: numberTail more)).toList
    rw [String.toList_ofList]
    exact isNumberText_numberTail hnum
  split at h
  · next hword =>
    cases h
    apply wordToken_lexable
    rw [String.toList_ofList]
    exact ⟨ch, _, rfl, hword, fun x hx => word_of_isWordChar (List.mem_takeWhile_imp hx)⟩
  · cases h

theorem next_lexable {c c' : Cursor} {t : Token} (h : next c = .ok (some (t, c'))) :
    t.Lexable := by
  unfold next at h
  simp only at h
  split at h
  · cases h
  · obtain ⟨⟨t', w⟩, hs, hv⟩ := map_eq_ok h
    simp only [Option.some.injEq, Prod.mk.injEq] at hv
    rw [← hv.1]
    exact scanToken_lexable hs

/-- Every token lexing reads is lexable, whether or not lexing ends in an error. -/
theorem run_lexable (c : Cursor) : ∀ t ∈ (run c).1, t.Lexable := by
  fun_induction run c with
  | case1 => simp
  | case2 => simp
  | case3 c t c' hnext _ _ ih =>
    intro u hu
    rcases List.mem_cons.mp hu with rfl | hu
    · exact next_lexable hnext
    · exact ih u hu

/-- Lexing a text is running the lexer from its start: tokens with no error, or the error it
stopped at. -/
theorem run_of_tokenize_ok {s : String} {ts : List Token} (h : tokenize s = .ok ts) :
    run (Cursor.start s) = (ts, none) := by
  unfold tokenize at h
  split at h
  · next ts' heq =>
    cases h
    exact heq
  · cases h

theorem run_of_tokenize_error {s : String} {e : LexError} (h : tokenize s = .error e) :
    ∃ ts, run (Cursor.start s) = (ts, some e) := by
  unfold tokenize at h
  split at h
  · cases h
  · next ts e' heq =>
    cases h
    exact ⟨ts, heq⟩

theorem lexable_of_tokenize {s : String} {ts : List Token} (h : tokenize s = .ok ts) :
    ∀ t ∈ ts, t.Lexable := by
  have := run_lexable (Cursor.start s)
  rw [run_of_tokenize_ok h] at this
  exact this

/-- **Lexing inverts rendering.** Lexing the rendering of lexable tokens gives them back; and
every token lexing produces is lexable, so rendering what was lexed and lexing it again gives
the same tokens. -/
theorem lexer_roundtrip :
    (∀ ts : List Token, (∀ t ∈ ts, t.Lexable) → tokenize (render ts) = .ok ts) ∧
    (∀ (s : String) (ts : List Token), tokenize s = .ok ts →
      (∀ t ∈ ts, t.Lexable) ∧ tokenize (render ts) = tokenize s) :=
  ⟨fun _ h => tokenize_render h, fun _ _ h =>
    ⟨lexable_of_tokenize h, (tokenize_render (lexable_of_tokenize h)).trans h.symm⟩⟩

end Lexer
end ColumnExpr
