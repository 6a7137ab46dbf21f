/-
# Similar names

When a command line holds a word the tool does not know, it suggests known words that
are similar by the Jaro measure. Two characters match when they are equal, within a
window of half the longer word less one of each other's position, each character used
at most once, scanning the first word left to right; a transposition is a pair of
matched characters out of order, counted by halves. With `m` matches and `t`
transpositions the similarity is `(m / |a| + m / |b| + (m - t) / m) / 3`, computed in
binary64 arithmetic step by step; words are similar when it exceeds `0.7`.

Key definitions: `Similarity.jaro`, `Similarity.similar`.
-/
import ColumnExpr.Binary64.Basic
namespace ColumnExpr
namespace Similarity

/-- Marks the matches of one character of the first word: the first unused character of
the second word, among the first `hi`, at a position from `lo` on, equal to `c`. -/
def markMatch (c : Char) (lo hi : Nat) :
    Nat → List (Char × Bool) → Option (List (Char × Bool))
  | _, [] => none
  | j, (d, used) :: rest =>
    if hi ≤ j then none
    else if lo ≤ j ∧ c = d ∧ !used then some ((d, true) :: rest)
    else (markMatch c lo hi (j + 1) rest).map ((d, used) :: ·)

/-- Scans the first word, marking which of its characters match and which characters of
the second word they use. -/
def scan (window : Nat) (bLen : Nat) : Nat → List Char → List (Char × Bool) →
    List (Char × Bool) × List (Char × Bool)
  | _, [], marks => ([], marks)
  | i, c :: rest, marks =>
    let lo := i - window
    let hi := min bLen (i + window + 1)
    match markMatch c lo hi 0 marks with
    | some marks' =>
      let (as, bs) := scan window bLen (i + 1) rest marks'
      ((c, true) :: as, bs)
    | none =>
      let (as, bs) := scan window bLen (i + 1) rest marks
      ((c, false) :: as, bs)

/-- The number of matched characters that stand out of order. -/
def outOfOrder (as bs : List Char) : Nat :=
  (as.zip bs).countP fun (x, y) => x ≠ y

/-- The Jaro similarity of two words, as binary64 arithmetic gives it. -/
def jaro (a b : String) : Binary64 :=
  let xs := a.toList
  let ys := b.toList
  if xs.isEmpty ∧ ys.isEmpty then Binary64.ofNat 1
  else if xs.isEmpty ∨ ys.isEmpty then Binary64.ofNat 0
  else
    let window := max xs.length ys.length / 2 - 1
    let (as, bs) := scan window ys.length 0 xs (ys.map fun d => (d, false))
    let ma := (as.filter (·.2)).map (·.1)
    let mb := (bs.filter (·.2)).map (·.1)
    let m := ma.length
    if m = 0 then Binary64.ofNat 0
    else
      let t := outOfOrder ma mb / 2
      let part1 := Binary64.div (Binary64.ofNat m) (Binary64.ofNat xs.length)
      let part2 := Binary64.div (Binary64.ofNat m) (Binary64.ofNat ys.length)
      let part3 := Binary64.div (Binary64.ofNat (m - t)) (Binary64.ofNat m)
      Binary64.div (Binary64.add (Binary64.add part1 part2) part3) (Binary64.ofNat 3)

/-- The similarity above which words count as similar. -/
def threshold : Binary64 := Binary64.ofRatio false 7 10

/-- Inserts a scored candidate after every candidate scored no higher. -/
def insertByScore (x : Binary64 × String) : List (Binary64 × String) → List (Binary64 × String)
  | [] => [x]
  | y :: ys => if x.1.lt y.1 then x :: y :: ys else y :: insertByScore x ys

/-- Sorts scored candidates by score, least first, keeping the order of equal scores. -/
def sortByScore (xs : List (Binary64 × String)) : List (Binary64 × String) :=
  xs.foldl (fun acc x => insertByScore x acc) []

/-- The candidates similar to a word, least similar first; candidates equally similar keep
their order. -/
def similar (word : String) (candidates : List String) : List String :=
  let scored := (candidates.map fun c => (jaro word c, c)).filter fun (s, _) => threshold.lt s
  (sortByScore scored).map (·.2)

example : similar "Check" ["check", "tokens", "docs", "help"] = ["check"] := by decide
example : similar "nope" ["check", "tokens", "docs", "help"] = [] := by decide

end Similarity
end ColumnExpr
