import FieldPattern.Token

/-! # From pattern text to tokens

Every text is a sequence of tokens; nothing is refused.  The first character decides how far a
token reaches:

* a backslash takes the character after it, if there is one;
* `[` reaches to the first `]`, `{` to the first `}`, and `(` to the place where every
  parenthesis opened since is closed; without such a place they reach to the end of the text;
* `.`, `*`, `+` and `?` stand alone;
* any other character starts a run of plain characters.  The run stops before a character
  that starts a token of another kind, and one character early before a `{`, so that a
  counted quantifier applies to a single character.

A `*`, `+` or `?` right after a token that is no quantifier still belongs to that token.

`cut` splits off the text of one token, `takeSuffix` gives the token its suffix, `next` does
both, and `scan` repeats this to the end.  Nothing is lost on the way: `next_eq` says that the
text of the token followed by the rest is what was read, so the values of the tokens spell the
pattern again. -/

namespace FieldPattern

namespace Scan

/-- Whether `c` is one of the plain characters, of which literals are made. -/
def isPlain (c : Char) : Bool :=
  !(c == '\\' || c == '[' || c == '{' || c == '(' || c == '.' || isSuffix c)

/-- The text through the first `close`, or all of it, and what follows. -/
def splitThrough (close : Char) : List Char → List Char × List Char
  | [] => ([], [])
  | c :: rest =>
      if c = close then ([c], rest)
      else
        let (taken, left) := splitThrough close rest
        (c :: taken, left)

/-- The text through the parenthesis that closes the last of `depth + 1` open ones, or all of
it, and what follows. -/
def splitGroup (depth : Nat) : List Char → List Char × List Char
  | [] => ([], [])
  | c :: rest =>
      if c = ')' then
        match depth with
        | 0 => ([c], rest)
        | outer + 1 =>
            let (taken, left) := splitGroup outer rest
            (c :: taken, left)
      else
        let (taken, left) := splitGroup (if c = '(' then depth + 1 else depth) rest
        (c :: taken, left)

/-- The plain characters that still belong to a run, and what follows. -/
def splitRun : List Char → List Char × List Char
  | [] => ([], [])
  | c :: rest =>
      if isPlain c && rest.head? != some '{' then
        let (taken, left) := splitRun rest
        (c :: taken, left)
      else ([], c :: rest)

/-- The kind of the token that starts with `c`, its text without a suffix, and what follows. -/
def cut (c : Char) (rest : List Char) : Kind × List Char × List Char :=
  let withHead (k : Kind) (p : List Char × List Char) := (k, c :: p.1, p.2)
  if c = '\\' then withHead .escape (rest.take 1, rest.drop 1)
  else if c = '[' then withHead .characterClass (splitThrough ']' rest)
  else if c = '{' then withHead .quantifier (splitThrough '}' rest)
  else if c = '(' then withHead .alternation (splitGroup 0 rest)
  else if c = '.' then withHead .anyChar ([], rest)
  else if isSuffix c then withHead .quantifier ([], rest)
  else withHead .literal (splitRun rest)

/-- The token `t` with the suffix at the start of a text, if there is one that it takes, and what
follows. -/
def takeSuffix (t : Token) : List Char → Token × List Char
  | [] => (t, [])
  | c :: rest =>
      if t.kind.takesSuffix && isSuffix c then (t.addSuffix c, rest) else (t, c :: rest)

/-- The token at the start of a text, and what follows it. -/
def next (c : Char) (rest : List Char) : Token × List Char :=
  let (k, text, left) := cut c rest
  takeSuffix (Token.ofText k (String.ofList text)) left

/-! ### Nothing is lost -/

theorem splitThrough_append (close : Char) (s : List Char) :
    (splitThrough close s).1 ++ (splitThrough close s).2 = s := by
  induction s with
  | nil => rfl
  | cons c s ih => by_cases h : c = close <;> simp [splitThrough, h, ih]

theorem splitGroup_append (depth : Nat) (s : List Char) :
    (splitGroup depth s).1 ++ (splitGroup depth s).2 = s := by
  induction s generalizing depth with
  | nil => rfl
  | cons c s ih =>
      by_cases h : c = ')'
      · cases depth <;> simp [splitGroup, h, ih]
      · simp [splitGroup, h, ih]

theorem splitRun_append (s : List Char) : (splitRun s).1 ++ (splitRun s).2 = s := by
  induction s with
  | nil => rfl
  | cons c s ih =>
      by_cases h : (isPlain c && s.head? != some '{') = true
      · rw [splitRun, if_pos h]
        simp [ih]
      · rw [splitRun, if_neg h]
        rfl

theorem takeSuffix_append (t : Token) (s : List Char) :
    (takeSuffix t s).1.value.toList ++ (takeSuffix t s).2 = t.value.toList ++ s := by
  cases s with
  | nil => rfl
  | cons c s => by_cases h : (t.kind.takesSuffix && isSuffix c) = true <;> simp [takeSuffix, h]

theorem cut_append (c : Char) (rest : List Char) :
    (cut c rest).2.1 ++ (cut c rest).2.2 = c :: rest := by
  simp only [cut]
  repeat' split
  all_goals
    simp only [List.cons_append, List.nil_append, List.take_append_drop, splitThrough_append,
      splitGroup_append, splitRun_append]

/-- The text of a token starts with the character that decided its kind. -/
theorem cut_head (c : Char) (rest : List Char) : (cut c rest).2.1.head? = some c := by
  simp only [cut]
  repeat' split
  all_goals rfl

/-- The value of the first token followed by the rest is the text that was read. -/
theorem next_eq (c : Char) (rest : List Char) :
    (next c rest).1.value.toList ++ (next c rest).2 = c :: rest := by
  simp only [next, takeSuffix_append, Token.value_ofText, String.toList_ofList, cut_append]

theorem takeSuffix_ne_nil {t : Token} (h : t.value.toList ≠ []) (s : List Char) :
    (takeSuffix t s).1.value.toList ≠ [] := by
  cases s with
  | nil => exact h
  | cons c s =>
      by_cases hc : (t.kind.takesSuffix && isSuffix c) = true
      · simp [takeSuffix, hc]
      · simpa [takeSuffix, hc] using h

theorem next_ne_nil (c : Char) (rest : List Char) : (next c rest).1.value.toList ≠ [] := by
  have h : (cut c rest).2.1 ≠ [] := by
    intro e
    have := cut_head c rest
    rw [e] at this
    simp at this
  refine takeSuffix_ne_nil ?_ _
  rw [Token.value_ofText, String.toList_ofList]
  exact h

/-- What follows the first token is shorter than the text. -/
theorem next_length (c : Char) (rest : List Char) :
    (next c rest).2.length < (c :: rest).length := by
  have h := congrArg List.length (next_eq c rest)
  have hne := List.length_pos_iff.2 (next_ne_nil c rest)
  rw [List.length_append] at h
  omega

/-- The tokens of a text. -/
def scan : List Char → List Token
  | [] => []
  | c :: rest => (next c rest).1 :: scan (next c rest).2
termination_by s => s.length
decreasing_by exact next_length c rest

end Scan

/-- The tokens of a pattern. -/
def tokens (pattern : String) : List Token := Scan.scan pattern.toList

/-- The pattern that a sequence of tokens spells: their values, one after the other. -/
def spell (ts : List Token) : String := String.join (ts.map Token.value)

end FieldPattern
