import FieldPattern.CommandLine.Report
import FieldPattern.Proofs.CommandText
import FieldPattern.Proofs.Reading
import FieldPattern.Proofs.Runs

/-! # What a difference shows

The difference between two token lists is the one between their lines (`tokenLines`), and a token is
told by its kind and its value (`told`).  The line of a token starts with the name of its kind and a
blank, its *heading*, and ends with a line break.  A value may hold line breaks of its own, and then
the token takes several lines.

A value is *framed* when none of its line breaks is followed by a heading.  Lists with framed values
have the same lines only if they tell the same (`tokenLines_inj`): the first line break after which
there is a heading, or nothing, ends the first token.  A token whose value is not framed has the
lines of two tokens (`exists_same_lines`).

The main statement is `difference_shows_changes`. -/

namespace FieldPattern.CommandLine

/-! ### Lines of tokens -/

/-- What the lines tell of a token. -/
def told (t : Token) : Kind × String := (t.kind, t.value)

/-- What the first line of a token starts with. -/
def heading (k : Kind) : List Char := k.name.toList ++ [' ']

/-- No line break in the value is followed by a heading. -/
def Framed (value : List Char) : Prop := ∀ k, ¬ ('\n' :: heading k) <:+: value

/-- All values are framed. -/
def AllFramed (ts : List Token) : Prop := ∀ t ∈ ts, Framed t.value.toList

variable {k k' : Kind} {v w rest : List Char} {ts us : List Token}

theorem no_blank_in_name (k : Kind) : ' ' ∉ k.name.toList := by
  cases k <;> decide

theorem no_break_in_heading (k : Kind) : '\n' ∉ heading k := by
  cases k <;> decide

/-- A value that takes a single line is framed. -/
theorem framed_of_no_break (h : '\n' ∉ v) : Framed v :=
  fun _ hin => h (hin.subset (List.mem_cons_self ..))

/-- A heading names its kind. -/
theorem heading_append_inj : heading k ++ v = heading k' ++ w ↔ k = k' ∧ v = w := by
  rw [heading, heading, List.append_assoc, List.append_assoc, List.singleton_append,
    List.singleton_append, Command.append_cons_inj (no_blank_in_name k) (no_blank_in_name k')]
  refine and_congr_left fun _ => ⟨fun e => ?_, congrArg fun k : Kind => k.name.toList⟩
  have hname := congrArg Kind.ofName? (String.toList_inj.1 e)
  rw [Kind.ofName?_name, Kind.ofName?_name] at hname
  exact Option.some.inj hname

theorem tokenLines_append (ts us : List Token) :
    tokenLines (ts ++ us) = tokenLines ts ++ tokenLines us := by
  rw [tokenLines, List.map_append, List.flatten_append, tokenLines, tokenLines]

theorem tokenLines_cons (t : Token) (ts : List Token) :
    tokenLines (t :: ts) = heading t.kind ++ (t.value.toList ++ '\n' :: tokenLines ts) := by
  simp [tokenLines, heading]

/-- Only in a value that is not framed is there a line break from which the lines of tokens go on. -/
theorem not_framed_of_lines (h : tokenLines us = v ++ '\n' :: rest) : ¬ Framed (w ++ '\n' :: v) := by
  cases us with
  | nil => simp [tokenLines] at h
  | cons u us =>
      intro hframed
      refine hframed u.kind ?_
      -- The heading of the next token lies before the line break: it holds none itself.
      rw [tokenLines_cons, List.append_eq_append_iff] at h
      rcases h with ⟨after, rfl, -⟩ | ⟨after, hheading, hafter⟩
      · exact ⟨w, after, by simp⟩
      · cases after with
        | nil => exact ⟨w, [], by simp [hheading]⟩
        | cons c after =>
            obtain rfl : '\n' = c := (List.cons.inj hafter).1
            have hbreak : '\n' ∈ heading u.kind := by simp [hheading]
            exact absurd hbreak (no_break_in_heading u.kind)

/-- A framed value ends at the line break after which the lines of tokens go on.  If one value were
longer than the other one, it would hold this line break and what comes after it. -/
theorem value_eq (hv : Framed v) (hw : Framed w)
    (h : v ++ '\n' :: tokenLines ts = w ++ '\n' :: tokenLines us) :
    v = w ∧ tokenLines ts = tokenLines us := by
  rw [List.append_eq_append_iff] at h
  rcases h with ⟨between, rfl, hlines⟩ | ⟨between, rfl, hlines⟩
  · cases between with
    | nil => simpa using hlines
    | cons c between =>
        obtain ⟨rfl, hrest⟩ := List.cons.inj hlines
        exact absurd hw (not_framed_of_lines hrest)
  · cases between with
    | nil => simpa [eq_comm] using hlines
    | cons c between =>
        obtain ⟨rfl, hrest⟩ := List.cons.inj hlines
        exact absurd hv (not_framed_of_lines hrest)

/-- Lists with framed values have the same lines only if they tell the same. -/
theorem tokenLines_inj (hts : AllFramed ts) (hus : AllFramed us)
    (h : tokenLines ts = tokenLines us) : ts.map told = us.map told := by
  induction ts generalizing us with
  | nil =>
      cases us with
      | nil => rfl
      | cons u us => simp [tokenLines] at h
  | cons t ts ih =>
      cases us with
      | nil => simp [tokenLines] at h
      | cons u us =>
          obtain ⟨ht, hts⟩ := List.forall_mem_cons.1 hts
          obtain ⟨hu, hus⟩ := List.forall_mem_cons.1 hus
          rw [tokenLines_cons, tokenLines_cons, heading_append_inj] at h
          obtain ⟨hkind, hrest⟩ := h
          obtain ⟨hvalue, hlines⟩ := value_eq ht hu hrest
          rw [List.map_cons, List.map_cons, ih hts hus hlines, told, hkind,
            String.toList_inj.1 hvalue, told]

/-- The lines tell no more than kinds and values. -/
theorem tokenLines_congr (h : ts.map told = us.map told) : tokenLines ts = tokenLines us := by
  have hlines (l : List Token) : tokenLines l = ((l.map told).map fun e : Kind × String =>
      e.1.name.toList ++ ' ' :: e.2.toList ++ ['\n']).flatten := by
    rw [List.map_map]
    rfl
  rw [hlines, hlines, h]

/-- A token whose value is not framed has the lines of two tokens. -/
theorem exists_same_lines (h : ¬ AllFramed ts) :
    ∃ us, us.map told ≠ ts.map told ∧ tokenLines us = tokenLines ts := by
  simp only [AllFramed, Framed, Classical.not_forall, Classical.not_not] at h
  obtain ⟨t, ht, k, a, b, e⟩ := h
  obtain ⟨before, after, rfl⟩ := List.append_of_mem ht
  refine ⟨before ++ Token.ofText t.kind (String.ofList a) :: Token.ofText k (String.ofList b) :: after,
    fun hsame => ?_, ?_⟩
  · have hlength := congrArg List.length hsame
    simp at hlength
  · simp [tokenLines_append, tokenLines_cons, ← e]

/-! ### The changes that are shown -/

theorem forall_kept_iff_lines :
    (∀ c ∈ tokenChanges ts us, c.1 = .kept) ↔ tokenLines ts = tokenLines us := by
  rw [tokenChanges, Difference.forall_kept_iff]
  constructor
  · intro h
    rw [← Text.flatten_pieces (tokenLines ts), h, Text.flatten_pieces]
  · intro h
    rw [h]

/-- A line that is removed or added. -/
def IsShown (c : Difference.Change × List Char) : Prop := c.1 = .removed ∨ c.1 = .added

theorem isShown_iff {c : Difference.Change × List Char} : IsShown c ↔ c.1 ≠ .kept := by
  obtain ⟨change, text⟩ := c
  cases change <;> simp [IsShown]

theorem exists_shown_iff :
    (∃ c ∈ tokenChanges ts us, IsShown c) ↔ tokenLines ts ≠ tokenLines us := by
  simp only [isShown_iff]
  rw [ne_eq, ← forall_kept_iff_lines]
  simp

/-- Lists that tell the same spell the same. -/
theorem spell_congr (h : ts.map told = us.map told) : spell ts = spell us := by
  have hvalues (l : List Token) : l.map Token.value = (l.map told).map Prod.snd := by
    rw [List.map_map]
    rfl
  rw [spell, spell, hvalues, hvalues, h]

/-- A session that has changed the pattern has changed what the tokens tell. -/
theorem told_ne_of_isModified {s : Session} (h : s.isModified = true) :
    (tokens s.before).map told ≠ s.list.map told := by
  intro hsame
  rw [Session.isModified, bne_iff_ne, Session.pattern, ← spell_congr hsame, spell_tokens] at h
  exact h rfl

/-- **A difference shows changes.**  The difference between two token lists shows a line that is
removed or added exactly if the lines of the lists differ.  Where no line break in a value is followed
by the name of a kind and a blank, the lines differ exactly if the kinds and values of the tokens do;
so the report on a session that has changed such a pattern into another one shows a change.  Each list
with another value has the same lines as some list of other tokens. -/
theorem difference_shows_changes (ts us : List Token) :
    ((∃ c ∈ tokenChanges ts us, IsShown c) ↔ tokenLines ts ≠ tokenLines us) ∧
    (AllFramed ts → AllFramed us →
      (tokenLines ts = tokenLines us ↔ ts.map told = us.map told) ∧
      ∀ s : Session, tokens s.before = ts → s.list = us → s.isModified = true →
        ∃ c ∈ tokenChanges ts us, IsShown c ∧ changeSpan c ∈ differenceReport s) ∧
    (¬ AllFramed ts → ∃ others, others.map told ≠ ts.map told ∧ tokenLines others = tokenLines ts) := by
  refine ⟨exists_shown_iff, fun hts hus => ?_, exists_same_lines⟩
  have hlines : tokenLines ts = tokenLines us ↔ ts.map told = us.map told :=
    ⟨tokenLines_inj hts hus, tokenLines_congr⟩
  refine ⟨hlines, ?_⟩
  rintro s rfl rfl hmodified
  have hne : tokenLines (tokens s.before) ≠ tokenLines s.list := fun h =>
    told_ne_of_isModified hmodified (hlines.1 h)
  obtain ⟨c, hc, hshown⟩ := exists_shown_iff.2 hne
  refine ⟨c, hc, hshown, ?_⟩
  rw [differenceReport]
  exact List.mem_append_right _ (List.mem_map_of_mem hc)

/-- A value with a line break that is followed by the name of a kind and no blank. -/
theorem difference_shows_changes_name :
    let before := "x\nliteral"
    let s := (FieldPattern.run Session.step [.set 0 "x", .append "\n"]
      ⟨"f", before, tokens before⟩).2
    AllFramed (tokens s.before) ∧ AllFramed s.list ∧ s.isModified = true ∧
      tokenLines (tokens s.before) ≠ tokenLines s.list ∧
      ∃ c ∈ tokenChanges (tokens s.before) s.list, IsShown c ∧ changeSpan c ∈ differenceReport s := by
  intro before s
  have hvalues : tokens s.before = [Token.ofText .literal "x\nliteral"] := by decide +kernel
  have hlist : s.list = [Token.ofText .literal "x", Token.ofText .literal "\n"] := by decide +kernel
  have hbefore : AllFramed (tokens s.before) := by
    rw [hvalues, AllFramed, List.forall_mem_singleton]
    intro k
    cases k <;> decide +kernel
  have hafter : AllFramed s.list := by
    rw [hlist, AllFramed, List.forall_mem_cons, List.forall_mem_singleton]
    refine ⟨framed_of_no_break (by decide), fun k => ?_⟩
    cases k <;> decide +kernel
  have hmodified : s.isModified = true := by decide +kernel
  have htold : (tokens s.before).map told ≠ s.list.map told := by
    rw [hvalues, hlist]
    decide
  obtain ⟨-, hframed, -⟩ := difference_shows_changes (tokens s.before) s.list
  obtain ⟨hlines, hreport⟩ := hframed hbefore hafter
  exact ⟨hbefore, hafter, hmodified, fun h => htold (hlines.1 h), hreport s rfl rfl hmodified⟩

/-- A token that holds a line break and a heading is replaced by two tokens.  The pattern and the
tokens change, and no change is shown. -/
theorem difference_hides_break :
    let before := "x\nliteral y"
    let s := (FieldPattern.run Session.step [.set 0 "x", .append "y"]
      ⟨"f", before, tokens before⟩).2
    s.isModified = true ∧ (tokens before).map told ≠ s.list.map told ∧
      tokenLines (tokens before) = tokenLines s.list ∧
      ¬ ∃ c ∈ tokenChanges (tokens before) s.list, IsShown c := by
  intro before s
  have hlines : tokenLines (tokens before) = tokenLines s.list := by decide +kernel
  exact ⟨by decide +kernel, by decide +kernel, hlines, fun h => exists_shown_iff.1 h hlines⟩

end FieldPattern.CommandLine
