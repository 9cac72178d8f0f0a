import FieldPattern.Proofs.Legible
import FieldPattern.TokenList

/-! # Patterns that grow

A pattern is typed from left to right, and components are added at its end.  New text behind a
pattern is read together with its last token; the tokens before that one are finished.  The
reason is that a piece of a pattern stays a piece when text is added, unless it stands at the end
(`Piece.append`): whatever the scanner looks for behind a token, the first characters decide.

* `scan_append`: from any token on, the rest of a pattern can be read again together with the new
  text, without the tokens before it.
* `Token.Admits t more`: the text `more` can stand behind the token `t` as it is.  The token has
  an end, `more` gives it no suffix, and if it is a literal, its run stops before `more`.

The main statements are `tokens_stable`, that the scanner works from left to right, and
`tokens_append_iff`, when reading two texts apart and reading them together is the same. -/

namespace FieldPattern

open Scan

variable {k : Kind} {t : Token} {s rest : List Char} {before after : List Token}

/-! ### Pieces in front of other text -/

theorem RunStops.append (h : RunStops s rest) (hne : rest ≠ []) (more : List Char) :
    RunStops s (rest ++ more) := by
  obtain ⟨c, tail, rfl⟩ := List.exists_cons_of_ne_nil hne
  intro d after e
  obtain ⟨rfl, rfl⟩ := List.cons.inj e
  refine (h c tail rfl).imp_left fun ⟨hp, hb⟩ => ⟨hp, ?_⟩
  obtain ⟨tail, rfl⟩ := List.head?_eq_some_iff.1 hb
  rfl

/-- A piece that is not at the end of the pattern stays one when the pattern grows. -/
theorem Piece.append (h : Piece k s rest) (hne : rest ≠ []) (more : List Char) :
    Piece k s (rest ++ more) := by
  obtain ⟨c, tail, rfl⟩ := List.exists_cons_of_ne_nil hne
  cases h with
  | bare hb hs hr => exact .bare hb hs fun hk => (hr hk).append hne more
  | suffixed hb hk hc => exact .suffixed hb hk hc

theorem scan_of_piece (ha : t.Agrees) (hp : Piece t.kind t.value.toList rest) :
    scan (t.value.toList ++ rest) = t :: scan rest :=
  (Reads.cons ha hp (reads_scan rest)).scan_eq

/-- From any token on, the rest of a pattern is read again together with the text behind it.
The induction is on the tokens before that one, none of which is the last. -/
theorem Reads.scan_append (h : Reads s (before ++ after)) (hne : after ≠ [])
    (more : List Char) : scan (s ++ more) = before ++ scan ((spell after).toList ++ more) := by
  induction before generalizing s with
  | nil =>
      have hs : (spell after).toList = s := h.eq_spell
      rw [List.nil_append, hs]
  | cons t before ih =>
      generalize e : t :: before ++ after = ts at h
      cases h with
      | nil => cases e
      | @cons _ rest _ ha hp hr =>
          obtain ⟨rfl, rfl⟩ := List.cons.inj e
          -- The tokens behind `t` have texts, so `t` does not stand at the end.
          have hrest : rest ≠ [] := by
            rintro rfl
            have := hr.length_le
            simp [hne] at this
          rw [List.append_assoc, scan_of_piece ha (hp.append hrest more), ih hr, List.cons_append]

/-! ### Finished tokens -/

/-- The end of a legible sequence is legible: no condition looks back. -/
theorem Legible.of_append (h : Legible (before ++ after)) : Legible after where
  wellFormed := fun t ht => h.wellFormed t (List.mem_append_right before ht)
  fits := fun start t rest e =>
    h.fits (before ++ start) t rest (by rw [e, List.append_assoc])

theorem tokens_rest {pattern : String} (h : tokens pattern = before ++ after) :
    tokens (spell after) = after := by
  have hr : Reads pattern.toList (before ++ after) := scan_eq_iff.1 h
  rw [← hr.eq_spell] at hr
  exact scan_eq_iff.2 (reads_spell_iff.2 (reads_spell_iff.1 hr).of_append)

theorem tokens_append_rest {pattern : String} (h : tokens pattern = before ++ after)
    (hne : after ≠ []) (more : String) :
    tokens (pattern ++ more) = before ++ tokens (spell after ++ more) := by
  have hr : Reads pattern.toList (before ++ after) := scan_eq_iff.1 h
  simp only [tokens, String.toList_append, hr.scan_append hne]

/-- **Tokens stay.**  Text that is typed behind a pattern changes its last token at most.  The
tokens of a pattern from any place on are those of their own text, and new text behind the
pattern can be read together with them alone. -/
theorem tokens_stable (pattern more : String) :
    (tokens pattern).dropLast <+: tokens (pattern ++ more) ∧
      ∀ before after, tokens pattern = before ++ after →
        tokens (spell after) = after ∧
          (after ≠ [] → tokens (pattern ++ more) = before ++ tokens (spell after ++ more)) := by
  refine ⟨?_, fun before after h => ⟨tokens_rest h, fun hne => tokens_append_rest h hne more⟩⟩
  rcases List.eq_nil_or_concat (tokens pattern) with h | ⟨before, last, h⟩
  · rw [h]
    exact List.nil_prefix
  · rw [List.concat_eq_append] at h
    rw [tokens_append_rest h (by simp) more, h, List.dropLast_concat]
    exact List.prefix_append _ _

/-- A field that is still being typed: the counted quantifier splits the run before it, and the
group is closed by the new text only. -/
theorem tokens_stable_open_group :
    let before := [Token.ofText .literal "a", Token.ofText .literal "b"]
    let after := [Token.ofText .quantifier "\x7b2\x7d", Token.ofText .alternation "(x"]
    (tokens "ab\x7b2\x7d(x" = before ++ after ∧ after ≠ []) ∧
      tokens (spell after) = after ∧
      tokens ("ab\x7b2\x7d(x" ++ "|y)*z") = before ++ tokens (spell after ++ "|y)*z") := by
  intro before after
  have h : tokens "ab\x7b2\x7d(x" = before ++ after := by decide +kernel
  have hne : after ≠ [] := List.cons_ne_nil _ _
  obtain ⟨hrest, hmore⟩ := (tokens_stable "ab\x7b2\x7d(x" "|y)*z").2 before after h
  exact ⟨⟨h, hne⟩, hrest, hmore hne⟩

/-! ### Reading apart and reading together -/

namespace Token

/-- The run of the bare literal `t` stops before `more`: at a character that starts no run and no
counted quantifier, at a `{` that a single character precedes, or at a plain character that
precedes a `{`. -/
def StopsBefore (t : Token) (more : List Char) : Prop :=
  (∃ c ∈ more.head?, c = '\\' ∨ c = '[' ∨ c = '(' ∨ c = '.') ∨
    (more.head? = some '{' ∧ t.value.length = 1) ∨
    (∃ c after, more = c :: '{' :: after ∧ isPlain c = true)

/-- The text `more` can stand behind the token `t` as it is. -/
structure Admits (t : Token) (more : List Char) : Prop where
  finished : ¬ t.IsUnfinished
  no_suffix : t.kind ≠ .quantifier → ¬ t.IsSuffixed → ∀ c ∈ more.head?, isSuffix c = false
  stops : t.kind = .literal → ¬ t.IsSuffixed → t.StopsBefore more

end Token

theorem runStops_iff_stopsBefore {more : List Char} (hne : more ≠ [])
    (hs : ∀ c ∈ more.head?, isSuffix c = false) :
    RunStops t.value.toList more ↔ t.StopsBefore more := by
  obtain ⟨c, after, rfl⟩ := List.exists_cons_of_ne_nil hne
  rw [runStops_cons_iff (hs c rfl), Token.StopsBefore, String.length_toList]
  refine or_congr (by simp) (or_congr (by simp) ?_)
  constructor
  · rintro ⟨hp, hb⟩
    obtain ⟨after, rfl⟩ := List.head?_eq_some_iff.1 hb
    exact ⟨c, after, rfl, hp⟩
  · rintro ⟨d, rest, e, hp⟩
    obtain ⟨rfl, rfl⟩ := List.cons.inj e
    exact ⟨hp, rfl⟩

/-- A well-formed token is a piece in front of a text exactly when it admits it. -/
theorem piece_iff_admits (ht : t.WellFormed) {more : List Char} (hne : more ≠ []) :
    Piece t.kind t.value.toList more ↔ t.Admits more := by
  have hrun (hk : t.kind = .literal)
      (hno : t.kind ≠ .quantifier → ∀ c ∈ more.head?, isSuffix c = false) :=
    runStops_iff_stopsBefore (t := t) hne (hno (by rw [hk]; nofun))
  rw [piece_iff ht, ht.isBare_iff]
  constructor
  · rintro ⟨hu, h⟩
    have hfinished : ¬ t.IsUnfinished := fun h => hne (hu h)
    exact ⟨hfinished, fun hk hs => (h ⟨hfinished, hs⟩).1 hk, fun hk hs =>
      (hrun hk (h ⟨hfinished, hs⟩).1).1 ((h ⟨hfinished, hs⟩).2 hk)⟩
  · intro h
    refine ⟨fun hu => absurd hu h.finished, fun ⟨_, hs⟩ => ?_⟩
    have hno := fun hk => h.no_suffix hk hs
    exact ⟨hno, fun hk => (hrun hk hno).2 (h.stops hk hs)⟩

/-- Behind its last token `t`, a pattern can be read apart from the text `more` exactly when `t`
admits it. -/
theorem tokens_append_iff_admits {pattern more : String}
    (h : tokens pattern = before ++ [t]) (hne : more ≠ "") :
    tokens (pattern ++ more) = tokens pattern ++ tokens more ↔ t.Admits more.toList := by
  have hr : Reads pattern.toList (before ++ [t]) := scan_eq_iff.1 h
  have hmem : t ∈ before ++ [t] := by simp
  obtain ⟨rest, hp⟩ := hr.piece t hmem
  have ha : t.Agrees := hr.agrees t hmem
  have hspell : spell [t] = t.value := by simp [spell]
  calc tokens (pattern ++ more) = tokens pattern ++ tokens more
      ↔ scan (t.value.toList ++ more.toList) = t :: scan more.toList := by
        rw [tokens_append_rest h (by simp), h, hspell, List.append_assoc,
          List.append_cancel_left_eq, tokens, tokens, String.toList_append, List.singleton_append]
    _ ↔ Piece t.kind t.value.toList more.toList := by
        rw [scan_eq_iff, reads_cons_iff]
        exact ⟨fun h => h.2.1, fun hp => ⟨ha, hp, reads_scan _⟩⟩
    _ ↔ t.Admits more.toList :=
        piece_iff_admits (Token.wellFormed_of_piece ha hp) (by simpa using hne)

/-- The text `more` can stand behind the pattern as it is. -/
def Joins (pattern more : String) : Prop :=
  pattern = "" ∨ more = "" ∨ ∃ t ∈ (tokens pattern).getLast?, t.Admits more.toList

theorem spell_append (before after : List Token) :
    spell (before ++ after) = spell before ++ spell after := by
  simp [spell]

/-- **Reading apart and reading together.**  The tokens of a pattern and those of the text behind
it are the tokens of the whole exactly when one of the two is empty or the last token of the
pattern admits the text.  In the same cases a component that is added to the tokens of a pattern
leaves a list that is read back from what it spells. -/
theorem tokens_append_iff (pattern more : String) :
    (tokens (pattern ++ more) = tokens pattern ++ tokens more ↔ Joins pattern more) ∧
      (tokens (spell (TokenList.add (tokens pattern) more).2) =
          (TokenList.add (tokens pattern) more).2 ↔
        Joins pattern more) := by
  have hjoins : tokens (pattern ++ more) = tokens pattern ++ tokens more ↔ Joins pattern more := by
    have hempty : tokens "" = [] := by simp [tokens, scan]
    by_cases hp : pattern = ""
    · simp [Joins, hp, hempty]
    by_cases hm : more = ""
    · simp [Joins, hm, hempty]
    rcases List.eq_nil_or_concat (tokens pattern) with h | ⟨before, t, h⟩
    · have := spell_tokens pattern
      rw [h] at this
      exact absurd this.symm hp
    · rw [List.concat_eq_append] at h
      rw [tokens_append_iff_admits h hm, Joins, h]
      simp [hp, hm]
  refine ⟨hjoins, ?_⟩
  have hadd : (TokenList.add (tokens pattern) more).2 = tokens pattern ++ tokens more := rfl
  rw [hadd, spell_append, spell_tokens, spell_tokens, hjoins]

example : tokens "abc\x7b2\x7d" = tokens "ab" ++ tokens "c\x7b2\x7d" := by decide +kernel

example : tokens "abc" ≠ tokens "ab" ++ tokens "c" := by decide +kernel

end FieldPattern
