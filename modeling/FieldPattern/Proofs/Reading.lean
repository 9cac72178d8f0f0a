import FieldPattern.Proofs.TokenShape

/-! # Reading a pattern

What the scanner reads, said as a relation between texts and token sequences.

* `Piece k s rest`: the token of kind `k` at the start of `s ++ rest` has the text `s`.  An
  unfinished text is a piece only at the end of the pattern; a bare one only where no suffix
  follows, and if it is a literal, where its run of plain characters stops (`RunStops`).
* `Reads s ts`: the pattern `s` falls into pieces, of which `ts` are the tokens.

`next_eq_iff` says that the first token is the one that is a piece, and `scan_eq_iff` that the
scanner gives the sequence that `s` reads as, so that each pattern reads as exactly one
sequence.  The main statement is `tokens_lossless`: the values of the tokens spell the pattern,
and each token is the one made from its value. -/

namespace FieldPattern

open Scan

/-! ### Where a text is split -/

theorem splitThrough_cases (close : Char) (s : List Char) :
    (∃ body, close ∉ body ∧ (splitThrough close s).1 = body ++ [close]) ∨
      (close ∉ (splitThrough close s).1 ∧ (splitThrough close s).2 = []) := by
  induction s with
  | nil => exact .inr ⟨by simp [splitThrough], rfl⟩
  | cons c s ih =>
      by_cases h : c = close
      · exact .inl ⟨[], by simp, by simp [splitThrough, h]⟩
      · simp only [splitThrough, if_neg h]
        rcases ih with ⟨body, hb, e⟩ | ⟨hb, e⟩
        · exact .inl ⟨c :: body, by simp [hb, Ne.symm h], by simp [e]⟩
        · exact .inr ⟨by simp [hb, Ne.symm h], e⟩

theorem splitThrough_closed {close : Char} {body : List Char} (h : close ∉ body)
    (rest : List Char) : splitThrough close (body ++ close :: rest) = (body ++ [close], rest) := by
  induction body with
  | nil => simp [splitThrough]
  | cons c body ih =>
      rw [List.mem_cons, not_or] at h
      simp [splitThrough, Ne.symm h.1, ih h.2]

theorem splitThrough_unclosed {close : Char} {s : List Char} (h : close ∉ s) :
    splitThrough close s = (s, []) := by
  induction s with
  | nil => rfl
  | cons c s ih =>
      rw [List.mem_cons, not_or] at h
      simp [splitThrough, Ne.symm h.1, ih h.2]

/-- A closing parenthesis leaves one open parenthesis less. -/
theorem add_slope_close (d : Nat) : ((d + 1 : Nat) : Int) + 1 + slope ')' = (d : Int) + 1 := by
  have slope_close : slope ')' = -1 := rfl
  rw [slope_close]
  omega

/-- Of the other characters, only an opening parenthesis changes the number of open ones. -/
theorem add_slope_of_ne_close {c : Char} (h : c ≠ ')') (d : Nat) :
    (d : Int) + 1 + slope c = ((if c = '(' then d + 1 else d : Nat) : Int) + 1 := by
  by_cases h' : c = '('
  · simp [slope, h']
  · simp [slope, h, h']

theorem splitGroup_cases (d : Nat) (s : List Char) :
    ClosesAtEnd (d + 1) (splitGroup d s).1 ∨
      (StaysOpen (d + 1) (splitGroup d s).1 ∧ (splitGroup d s).2 = []) := by
  have positive (d : Nat) : (d : Int) + 1 ≠ 0 := by omega
  induction s generalizing d with
  | nil => exact .inr ⟨staysOpen_nil.2 (positive d), rfl⟩
  | cons c s ih =>
      by_cases h : c = ')'
      · subst h
        cases d with
        | zero => exact .inl (closesAtEnd_cons.2 ⟨positive 0, closesAtEnd_nil.2 rfl⟩)
        | succ d =>
            simp only [splitGroup, if_true]
            rw [closesAtEnd_cons, staysOpen_cons, add_slope_close]
            rcases ih d with hs | ⟨hs, hl⟩
            · exact .inl ⟨positive _, hs⟩
            · exact .inr ⟨⟨positive _, hs⟩, hl⟩
      · simp only [splitGroup, if_neg h]
        rw [closesAtEnd_cons, staysOpen_cons, add_slope_of_ne_close h]
        rcases ih (if c = '(' then d + 1 else d) with hs | ⟨hs, hl⟩
        · exact .inl ⟨positive _, hs⟩
        · exact .inr ⟨⟨positive _, hs⟩, hl⟩

theorem splitGroup_closed {d : Nat} {s : List Char} (h : ClosesAtEnd (d + 1) s)
    (rest : List Char) : splitGroup d (s ++ rest) = (s, rest) := by
  induction s generalizing d with
  | nil =>
      rw [closesAtEnd_nil] at h
      omega
  | cons c s ih =>
      have hs := (closesAtEnd_cons.1 h).2
      by_cases hc : c = ')'
      · subst hc
        cases d with
        | zero =>
            rw [show ((0 : Nat) : Int) + 1 + slope ')' = 0 from rfl, closesAtEnd_zero] at hs
            simp [splitGroup, hs]
        | succ d =>
            rw [add_slope_close] at hs
            simp [splitGroup, ih hs]
      · rw [add_slope_of_ne_close hc] at hs
        simp [splitGroup, hc, ih hs]

theorem splitGroup_unclosed {d : Nat} {s : List Char} (h : StaysOpen (d + 1) s) :
    splitGroup d s = (s, []) := by
  rcases splitGroup_cases d s with hc | ⟨-, e⟩
  · exact absurd hc.1 (h _ ⟨_, splitGroup_append d s⟩)
  · have h' := splitGroup_append d s
    rw [e, List.append_nil] at h'
    exact Prod.ext h' e

/-- A run of plain characters with the text `s` stops before `rest`: at the end, before a character
that is not plain, or before one that is followed by a `{`.  Before a `{` itself only a single
character stands. -/
def RunStops (s rest : List Char) : Prop :=
  ∀ d after, rest = d :: after →
    (isPlain d = true ∧ after.head? = some '{') ∨ (isPlain d = false ∧ (d = '{' → s.length = 1))

/-- No brace follows a run of several characters. -/
theorem RunStops.head?_ne {s rest : List Char} (h : RunStops s rest) (hs : s.length ≠ 1) :
    rest.head? ≠ some '{' := by
  intro hb
  cases rest with
  | nil => cases hb
  | cons d after =>
      cases hb
      rcases h '{' after rfl with ⟨hp, -⟩ | ⟨-, hlen⟩
      · cases hp
      · exact hs (hlen rfl)

theorem splitRun_plain (s : List Char) : ∀ d ∈ (splitRun s).1, isPlain d = true := by
  induction s with
  | nil => simp [splitRun]
  | cons c s ih =>
      by_cases h : (isPlain c && s.head? != some '{') = true
      · rw [splitRun, if_pos h]
        rw [Bool.and_eq_true] at h
        intro d hd
        rcases List.mem_cons.1 hd with rfl | hd
        · exact h.1
        · exact ih d hd
      · rw [splitRun, if_neg h]
        simp

/-- The run after the character `x` ends where a run stops. -/
theorem splitRun_stops (x : Char) (s : List Char) :
    RunStops (x :: (splitRun s).1) (splitRun s).2 := by
  induction s with
  | nil =>
      intro d after e
      cases e
  | cons c s ih =>
      by_cases h : (isPlain c && s.head? != some '{') = true
      · rw [splitRun, if_pos h]
        rw [Bool.and_eq_true, bne_iff_ne] at h
        intro d after e
        rcases ih d after e with hd | ⟨hd, hlen⟩
        · exact .inl hd
        · refine .inr ⟨hd, fun hb => absurd ?_ h.2⟩
          -- A brace after a run of one character would have been seen one character before.
          have hnil : (splitRun s).1 = [] := by simpa using hlen hb
          have hs := splitRun_append s
          rw [hnil, List.nil_append] at hs
          rw [← hs, show (splitRun s).2 = d :: after from e, hb]
          rfl
      · rw [splitRun, if_neg h]
        intro d after e
        cases e
        by_cases hp : isPlain c = true
        · refine .inl ⟨hp, ?_⟩
          simpa [hp] using h
        · exact .inr ⟨by simpa using hp, fun _ => rfl⟩

theorem splitRun_of_stops {x : Char} {s rest : List Char} (hs : ∀ d ∈ s, isPlain d = true)
    (hr : RunStops (x :: s) rest) : splitRun (s ++ rest) = (s, rest) := by
  induction s generalizing x with
  | nil =>
      cases rest with
      | nil => rfl
      | cons d after =>
          rcases hr d after rfl with ⟨hp, hb⟩ | ⟨hp, -⟩
          · simp [splitRun, hb]
          · simp [splitRun, hp]
  | cons c s ih =>
      have hc : isPlain c = true := hs c (by simp)
      have hr' : RunStops (c :: s) rest := by
        intro d after e
        refine (hr d after e).imp_right fun h => ⟨h.1, fun hb => ?_⟩
        have := h.2 hb
        simp at this
      have hne : (s ++ rest).head? ≠ some '{' := by
        cases s with
        | nil => exact hr.head?_ne (by simp)
        | cons d s =>
            intro hb
            have hp := hs d (by simp)
            rw [Option.some.inj hb] at hp
            cases hp
      have hcond : (isPlain c && (s ++ rest).head? != some '{') = true := by
        rw [Bool.and_eq_true, bne_iff_ne]
        exact ⟨hc, hne⟩
      rw [List.cons_append, splitRun, if_pos hcond,
        ih (fun d hd => hs d (List.mem_cons_of_mem _ hd)) hr']

/-! ### The text of a token -/

theorem cut_backslash (rest : List Char) :
    cut '\\' rest = (.escape, '\\' :: rest.take 1, rest.drop 1) := rfl

theorem cut_bracket (rest : List Char) :
    cut '[' rest =
      (.characterClass, '[' :: (splitThrough ']' rest).1, (splitThrough ']' rest).2) := rfl

theorem cut_brace (rest : List Char) :
    cut '{' rest = (.quantifier, '{' :: (splitThrough '}' rest).1, (splitThrough '}' rest).2) := rfl

theorem cut_paren (rest : List Char) :
    cut '(' rest = (.alternation, '(' :: (splitGroup 0 rest).1, (splitGroup 0 rest).2) := rfl

theorem cut_dot (rest : List Char) : cut '.' rest = (.anyChar, ['.'], rest) := rfl

theorem cut_symbol {c : Char} (h : isSuffix c = true) (rest : List Char) :
    cut c rest = (.quantifier, [c], rest) := by
  have h₁ : c ≠ '\\' := ne_of_isSuffix h rfl
  have h₂ : c ≠ '[' := ne_of_isSuffix h rfl
  have h₃ : c ≠ '{' := ne_of_isSuffix h rfl
  have h₄ : c ≠ '(' := ne_of_isSuffix h rfl
  have h₅ : c ≠ '.' := ne_of_isSuffix h rfl
  simp [cut, h₁, h₂, h₃, h₄, h₅, h]

theorem cut_plain {c : Char} (h : isPlain c = true) (rest : List Char) :
    cut c rest = (.literal, c :: (splitRun rest).1, (splitRun rest).2) := by
  simp only [isPlain, Bool.not_eq_true', Bool.or_eq_false_iff, beq_eq_false_iff_ne] at h
  obtain ⟨⟨⟨⟨⟨h₁, h₂⟩, h₃⟩, h₄⟩, h₅⟩, h₆⟩ := h
  simp [cut, h₁, h₂, h₃, h₄, h₅, h₆]

/-- The first character of a text decides the kind of its first token. -/
theorem head_cases (c : Char) :
    c = '\\' ∨ c = '[' ∨ c = '{' ∨ c = '(' ∨ c = '.' ∨ isSuffix c = true ∨ isPlain c = true := by
  simp only [isPlain, Bool.not_eq_true', Bool.or_eq_false_iff, beq_eq_false_iff_ne]
  grind

/-- What is cut off is a complete text, or the unfinished one that reaches to the end. -/
theorem cut_cases (c : Char) (rest : List Char) :
    (Bare (cut c rest).1 (cut c rest).2.1 ∧
        ((cut c rest).1 = .literal → RunStops (cut c rest).2.1 (cut c rest).2.2)) ∨
      (Unfinished (cut c rest).1 (cut c rest).2.1 ∧ (cut c rest).2.2 = []) := by
  rcases head_cases c with rfl | rfl | rfl | rfl | rfl | hc | hc
  · rw [cut_backslash]
    cases rest with
    | nil => exact .inr ⟨.escape, rfl⟩
    | cons d rest => exact .inl ⟨.escape d, nofun⟩
  · rw [cut_bracket]
    rcases splitThrough_cases ']' rest with ⟨body, hb, e⟩ | ⟨hb, e⟩
    · rw [e]
      exact .inl ⟨.characterClass hb, nofun⟩
    · exact .inr ⟨.characterClass hb, e⟩
  · rw [cut_brace]
    rcases splitThrough_cases '}' rest with ⟨body, hb, e⟩ | ⟨hb, e⟩
    · rw [e]
      exact .inl ⟨.counted hb, nofun⟩
    · exact .inr ⟨.counted hb, e⟩
  · rw [cut_paren]
    rcases splitGroup_cases 0 rest with hb | ⟨hb, e⟩
    · exact .inl ⟨.alternation (closed_group.2 hb), nofun⟩
    · exact .inr ⟨.alternation (unclosed_group.2 hb), e⟩
  · rw [cut_dot]
    exact .inl ⟨.anyChar, nofun⟩
  · rw [cut_symbol hc]
    exact .inl ⟨.symbol hc, nofun⟩
  · rw [cut_plain hc]
    refine .inl ⟨.literal fun d hd => ?_, fun _ => splitRun_stops c rest⟩
    rcases List.mem_cons.1 hd with rfl | hd
    · exact hc
    · exact splitRun_plain rest d hd

/-- A complete text is cut off as it is, and a literal also where its run stops. -/
theorem cut_of_bare {k : Kind} {s rest : List Char} (h : Bare k s)
    (hr : k = .literal → RunStops s rest) :
    ∃ c tail, s = c :: tail ∧ cut c (tail ++ rest) = (k, s, rest) := by
  cases h with
  | escape d => exact ⟨_, _, rfl, rfl⟩
  | @characterClass body hb =>
      refine ⟨'[', body ++ [']'], rfl, ?_⟩
      rw [cut_bracket, List.append_assoc, List.singleton_append, splitThrough_closed hb]
      rfl
  | symbol hc => exact ⟨_, [], rfl, cut_symbol hc rest⟩
  | @counted body hb =>
      refine ⟨'{', body ++ ['}'], rfl, ?_⟩
      rw [cut_brace, List.append_assoc, List.singleton_append, splitThrough_closed hb]
      rfl
  | alternation hb =>
      refine ⟨_, _, rfl, ?_⟩
      rw [cut_paren, splitGroup_closed (closed_group.1 hb)]
  | anyChar => exact ⟨_, [], rfl, rfl⟩
  | literal hp =>
      refine ⟨_, _, rfl, ?_⟩
      rw [cut_plain (hp _ (by simp)),
        splitRun_of_stops (fun d hd => hp d (List.mem_cons_of_mem _ hd)) (hr rfl)]

/-- At the end of the pattern an unfinished text is cut off as it is. -/
theorem cut_of_unfinished {k : Kind} {s : List Char} (h : Unfinished k s) :
    ∃ c tail, s = c :: tail ∧ cut c tail = (k, s, []) := by
  cases h with
  | escape => exact ⟨_, _, rfl, rfl⟩
  | characterClass hb =>
      refine ⟨_, _, rfl, ?_⟩
      rw [cut_bracket, splitThrough_unclosed hb]
  | counted hb =>
      refine ⟨_, _, rfl, ?_⟩
      rw [cut_brace, splitThrough_unclosed hb]
  | alternation hb =>
      refine ⟨_, _, rfl, ?_⟩
      rw [cut_paren, splitGroup_unclosed (unclosed_group.1 hb)]

/-! ### The first token -/

/-- The display and the mark of a token agree with its value. -/
def Token.Agrees (t : Token) : Prop := t = Token.ofText t.kind t.value

theorem Token.agrees_ofText (k : Kind) (s : String) : (Token.ofText k s).Agrees := rfl

/-- The token of kind `k` at the start of `s ++ rest` has the text `s`. -/
inductive Piece (k : Kind) : List Char → List Char → Prop
  | unfinished {s : List Char} : Unfinished k s → Piece k s []
  | bare {s rest : List Char} : Bare k s →
      (k.takesSuffix = true → ∀ c ∈ rest.head?, isSuffix c = false) →
      (k = .literal → RunStops s rest) → Piece k s rest
  | suffixed {s rest : List Char} {c : Char} :
      Bare k s → k.takesSuffix = true → isSuffix c = true → Piece k (s ++ [c]) rest

theorem Piece.ne_nil {k : Kind} {s rest : List Char} (h : Piece k s rest) : s ≠ [] := by
  cases h with
  | unfinished hu => exact hu.ne_nil
  | bare hb _ _ => exact hb.ne_nil
  | suffixed _ _ _ => simp

/-- A run of plain characters stops before a suffix. -/
theorem runStops_suffix (s rest : List Char) {c : Char} (h : isSuffix c = true) :
    RunStops s (c :: rest) := by
  intro d after e
  cases e
  exact .inr ⟨isPlain_of_isSuffix h, fun hb => absurd hb (ne_of_isSuffix h rfl)⟩

/-- The mark of an escape that was read before its suffix is that of the whole text. -/
theorem addSuffix_ofText {k : Kind} {s : List Char} (h : Bare k s) (c : Char) :
    (Token.ofText k (String.ofList s)).addSuffix c = Token.ofText k (String.ofList (s ++ [c])) := by
  have hpush : (String.ofList s).push c = String.ofList (s ++ [c]) := by
    rw [← String.toList_inj]
    simp
  have hmark : (k == .escape && negates (s ++ [c])) = (k == .escape && negates s) := by
    cases h <;> rfl
  simp only [Token.addSuffix, Token.ofText, hpush, String.toList_ofList, hmark]

/-- The scanner gives a token its suffix. -/
theorem next_of_cut {c : Char} {rest : List Char} {k : Kind} {s left : List Char}
    (h : cut c rest = (k, s, left)) :
    next c rest = takeSuffix (Token.ofText k (String.ofList s)) left := by
  rw [next, h]

theorem takeSuffix_of_stop {t : Token} {rest : List Char}
    (h : t.kind.takesSuffix = true → ∀ c ∈ rest.head?, isSuffix c = false) :
    takeSuffix t rest = (t, rest) := by
  cases rest with
  | nil => rfl
  | cons c rest =>
      by_cases hk : t.kind.takesSuffix = true
      · simp [takeSuffix, h hk c rfl]
      · simp [takeSuffix, hk]

theorem takeSuffix_of_suffix {t : Token} {c : Char} (rest : List Char)
    (hk : t.kind.takesSuffix = true) (hc : isSuffix c = true) :
    takeSuffix t (c :: rest) = (t.addSuffix c, rest) := by
  simp [takeSuffix, hk, hc]

/-- The first token is a piece of the pattern. -/
theorem next_piece (c : Char) (rest : List Char) :
    (next c rest).1.Agrees ∧
      Piece (next c rest).1.kind (next c rest).1.value.toList (next c rest).2 := by
  rcases hcut : cut c rest with ⟨k, s, left⟩
  have hcases := cut_cases c rest
  rw [hcut] at hcases
  rw [next_of_cut hcut]
  rcases hcases with ⟨hb, hr⟩ | ⟨hu, e⟩
  · by_cases hs : k.takesSuffix = true ∧ ∃ d after, left = d :: after ∧ isSuffix d = true
    · obtain ⟨hk, d, after, e, hd⟩ := hs
      rw [e, takeSuffix_of_suffix after hk hd, addSuffix_ofText hb]
      refine ⟨Token.agrees_ofText _ _, ?_⟩
      simpa using Piece.suffixed hb hk hd
    · have hstop : k.takesSuffix = true → ∀ d ∈ left.head?, isSuffix d = false := by
        intro hk d hd
        obtain ⟨after, e⟩ := List.head?_eq_some_iff.1 hd
        exact Bool.eq_false_iff.2 fun hd => hs ⟨hk, d, after, e, hd⟩
      rw [takeSuffix_of_stop hstop]
      refine ⟨Token.agrees_ofText _ _, ?_⟩
      simpa using Piece.bare hb hstop hr
  · dsimp only at e
    rw [e]
    refine ⟨Token.agrees_ofText _ _, ?_⟩
    simpa [takeSuffix] using Piece.unfinished hu

/-- A piece of the pattern is the first token. -/
theorem next_of_piece {k : Kind} {s rest : List Char} (h : Piece k s rest) :
    ∃ c tail, s = c :: tail ∧
      next c (tail ++ rest) = (Token.ofText k (String.ofList s), rest) := by
  cases h with
  | unfinished hu =>
      obtain ⟨c, tail, e, hcut⟩ := cut_of_unfinished hu
      refine ⟨c, tail, e, ?_⟩
      rw [List.append_nil, next_of_cut hcut]
      rfl
  | bare hb hstop hr =>
      obtain ⟨c, tail, e, hcut⟩ := cut_of_bare hb hr
      exact ⟨c, tail, e, by rw [next_of_cut hcut, takeSuffix_of_stop hstop]⟩
  | @suffixed s _ d hb hk hd =>
      obtain ⟨c, tail, e, hcut⟩ := cut_of_bare hb fun _ => runStops_suffix s rest hd
      refine ⟨c, tail ++ [d], by rw [e]; rfl, ?_⟩
      rw [List.append_assoc, List.singleton_append, next_of_cut hcut,
        takeSuffix_of_suffix rest hk hd, addSuffix_ofText hb]

/-- The first token is the one that is a piece of the pattern. -/
theorem next_eq_iff {c : Char} {rest left : List Char} {t : Token} :
    next c rest = (t, left) ↔
      t.value.toList ++ left = c :: rest ∧ t.Agrees ∧ Piece t.kind t.value.toList left := by
  constructor
  · intro h
    have hpiece := next_piece c rest
    have heq := next_eq c rest
    rw [h] at hpiece heq
    exact ⟨heq, hpiece⟩
  · rintro ⟨heq, ha, hp⟩
    obtain ⟨d, tail, e, hnext⟩ := next_of_piece hp
    rw [e, List.cons_append] at heq
    obtain ⟨rfl, rfl⟩ := List.cons.inj heq
    rw [hnext, String.ofList_toList]
    exact congrArg (·, left) ha.symm

/-! ### The whole pattern -/

/-- The pattern `s` falls into pieces, of which `ts` are the tokens. -/
inductive Reads : List Char → List Token → Prop
  | nil : Reads [] []
  | cons {t : Token} {rest : List Char} {ts : List Token} :
      t.Agrees → Piece t.kind t.value.toList rest → Reads rest ts →
      Reads (t.value.toList ++ rest) (t :: ts)

theorem reads_cons_iff {t : Token} {rest : List Char} {ts : List Token} :
    Reads (t.value.toList ++ rest) (t :: ts) ↔
      t.Agrees ∧ Piece t.kind t.value.toList rest ∧ Reads rest ts := by
  constructor
  · generalize e : t.value.toList ++ rest = s
    intro h
    cases h with
    | cons ha hp hr =>
        rw [List.append_cancel_left e]
        exact ⟨ha, hp, hr⟩
  · rintro ⟨ha, hp, hr⟩
    exact .cons ha hp hr

theorem reads_scan (s : List Char) : Reads s (scan s) := by
  induction s using scan.induct with
  | case1 =>
      rw [scan]
      exact .nil
  | case2 c rest ih =>
      obtain ⟨e, ha, hp⟩ := next_eq_iff.1 (rfl : next c rest = ((next c rest).1, (next c rest).2))
      rw [scan, ← e]
      exact .cons ha hp ih

theorem Reads.scan_eq {s : List Char} {ts : List Token} (h : Reads s ts) : scan s = ts := by
  induction h with
  | nil => rw [scan]
  | @cons t rest ts ha hp _ ih =>
      obtain ⟨c, tail, e⟩ := List.exists_cons_of_ne_nil hp.ne_nil
      have hnext : next c (tail ++ rest) = (t, rest) :=
        next_eq_iff.2 ⟨by rw [e, List.cons_append], ha, hp⟩
      rw [e, List.cons_append, scan, hnext, ih]

/-- The scanner gives the sequence that the pattern reads as, and there is no other. -/
theorem scan_eq_iff {s : List Char} {ts : List Token} : scan s = ts ↔ Reads s ts :=
  ⟨fun h => h ▸ reads_scan s, Reads.scan_eq⟩

/-- The characters of the pattern that the tokens spell. -/
theorem toList_spell (ts : List Token) :
    (spell ts).toList = ts.flatMap fun t => t.value.toList := by
  rw [spell, String.toList_join, List.flatMap_map]

theorem Reads.eq_spell {s : List Char} {ts : List Token} (h : Reads s ts) :
    (spell ts).toList = s := by
  rw [toList_spell]
  induction h with
  | nil => rfl
  | cons _ _ _ ih => rw [List.flatMap_cons, ih]

theorem Reads.agrees {s : List Char} {ts : List Token} (h : Reads s ts) :
    ∀ t ∈ ts, t.Agrees := by
  induction h with
  | nil => simp
  | cons ha _ _ ih => exact List.forall_mem_cons.2 ⟨ha, ih⟩

/-- The text of a token is a piece in front of what the tokens after it spell. -/
theorem Reads.piece {s : List Char} {ts : List Token} (h : Reads s ts) :
    ∀ t ∈ ts, ∃ rest, Piece t.kind t.value.toList rest := by
  induction h with
  | nil => simp
  | cons _ hp _ ih => exact List.forall_mem_cons.2 ⟨⟨_, hp⟩, ih⟩

theorem value_ne_empty_of_piece {t : Token} {rest : List Char}
    (h : Piece t.kind t.value.toList rest) : t.value ≠ "" := by
  intro e
  exact h.ne_nil (String.toList_eq_nil_iff.2 e)

/-- There are no more tokens than characters. -/
theorem Reads.length_le {s : List Char} {ts : List Token} (h : Reads s ts) :
    ts.length ≤ s.length := by
  induction h with
  | nil => simp
  | cons _ hp _ ih =>
      have := List.length_pos_iff.2 hp.ne_nil
      rw [List.length_cons, List.length_append]
      omega

/-- The tokens of a pattern spell the pattern. -/
theorem spell_tokens (pattern : String) : spell (tokens pattern) = pattern :=
  String.toList_inj.1 (reads_scan pattern.toList).eq_spell

/-- **Nothing is lost.**  The tokens of a pattern spell the pattern.  No token is empty, there are
no more of them than characters, and each is the token made from its value: it is shown as it
is, and the mark of an escape is that of the whole value, a suffix included. -/
theorem tokens_lossless (pattern : String) :
    spell (tokens pattern) = pattern ∧ (tokens pattern).length ≤ pattern.length ∧
      ∀ t ∈ tokens pattern, t.value ≠ "" ∧ t = Token.ofText t.kind t.value ∧
        t.display = t.value ∧ (t.kind = .escape → t.negated = negates t.value.toList) := by
  have h : Reads pattern.toList (tokens pattern) := reads_scan pattern.toList
  refine ⟨spell_tokens pattern, ?_, fun t ht => ?_⟩
  · rw [← String.length_toList]
    exact h.length_le
  · obtain ⟨rest, hp⟩ := h.piece t ht
    have ha := h.agrees t ht
    refine ⟨value_ne_empty_of_piece hp, ha, congrArg Token.display ha, fun hk => ?_⟩
    have hn := congrArg Token.negated ha
    rw [Token.negated_ofText, hk] at hn
    exact hn

/-- An escape with a suffix, and a group that is not closed. -/
theorem tokens_lossless_suffixed_escape :
    spell (tokens "\\D+(a") = "\\D+(a" ∧
      ∃ t ∈ tokens "\\D+(a", t.kind = .escape ∧ t = Token.ofText t.kind "\\D+" ∧
        t.display = t.value ∧ t.negated = negates t.value.toList := by
  have hm : Token.ofText .escape "\\D+" ∈ tokens "\\D+(a" := by decide +kernel
  obtain ⟨hspell, -, hall⟩ := tokens_lossless "\\D+(a"
  obtain ⟨-, ha, hd, hn⟩ := hall _ hm
  exact ⟨hspell, _, hm, rfl, ha, hd, hn rfl⟩

end FieldPattern
