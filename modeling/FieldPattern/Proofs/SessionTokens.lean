import FieldPattern.Proofs.Editing
import FieldPattern.Proofs.Reading
import FieldPattern.Proofs.Runs
import FieldPattern.Proofs.WrittenForms

/-! # The tokens of a session

While a field is edited, its token list need not be what the scanner gives for the pattern that
it spells.  Each single token is still sound (`Token.Sound`): it has a text, it is the token
made from that text, and if its kind has a grammar, the scanner reads the text back as this one
token.

There are two reasons for it.  A token that was read from a pattern is also a piece of the
pattern that consists of it alone (`Piece.alone`).  And a value that a grammar accepts is a
complete text of its kind (`Grammar.bare_of_accepts`), so that it makes a single token
(`tokens_of_check`).

Every step keeps the tokens sound (`Session.sound_step`).  The main statement is
`session_tokens_sound`. -/

namespace FieldPattern

open Scan

/-! ### Values that a grammar accepts -/

namespace Grammar

/-- No parenthesis inside of a group closes it early. -/
theorem closed_of_inner {body : List Char} (h : ∀ c ∈ body, isInner c = true) :
    Closed ('(' :: body ++ [')']) := by
  rw [List.cons_append, closed_group]
  induction body with
  | nil => exact closesAtEnd_cons.2 ⟨by decide, closesAtEnd_nil.2 rfl⟩
  | cons c body ih =>
      obtain ⟨hc, hb⟩ := List.forall_mem_cons.1 h
      have hslope : slope c = 0 := by
        rw [isInner, Bool.and_eq_true, bne_iff_ne, bne_iff_ne] at hc
        rw [slope, if_neg hc.1, if_neg hc.2]
      rw [List.cons_append, closesAtEnd_cons, hslope]
      exact ⟨by decide, ih hb⟩

/-- A value that the grammar accepts is a complete text of its kind. -/
theorem bare_of_accepts {g : Grammar} {value : String} (h : g.accepts value = true) :
    Bare g.kind value.toList := by
  rcases (accepts_iff_written.1 h).shape with ⟨rfl, c, hc, e⟩ | ⟨body, e, hstart, hstop, -⟩
  · rw [e]
    exact .symbol hc
  · rw [e]
    cases g with
    | characterClass => exact .characterClass hstop
    | quantifier => exact .counted hstop
    | alternation => exact .alternation (closed_of_inner (forall_isInner_iff.2 ⟨hstart, hstop⟩))

end Grammar

/-! ### A token on its own -/

/-- A complete text is a piece when the pattern ends after it. -/
theorem Bare.alone {k : Kind} {s : List Char} (h : Bare k s) : Piece k s [] := by
  refine .bare h ?_ fun _ d after e => ?_
  · simp
  · cases e

/-- A piece of a pattern is also a piece when the pattern ends after it. -/
theorem Piece.alone {k : Kind} {s rest : List Char} (h : Piece k s rest) : Piece k s [] := by
  cases h with
  | unfinished hu => exact .unfinished hu
  | bare hb _ _ => exact hb.alone
  | suffixed hb hk hc => exact .suffixed hb hk hc

/-- A text that is a piece of some pattern makes a single token. -/
theorem tokens_of_piece {k : Kind} {value : String} {rest : List Char}
    (h : Piece k value.toList rest) : tokens value = [Token.ofText k value] := by
  have hr : Reads ((Token.ofText k value).value.toList ++ []) [Token.ofText k value] :=
    .cons (Token.agrees_ofText k value) h.alone .nil
  rw [List.append_nil] at hr
  exact hr.scan_eq

/-- A value that passes the check of a kind with a grammar makes a single token of that kind. -/
theorem tokens_of_check {k : Kind} {g : Grammar} {value : String} (hg : Grammar.ofKind? k = some g)
    (h : k.check value = .ok ()) : tokens value = [Token.ofText k value] := by
  have hk : g.kind = k := Grammar.ofKind?_eq_some_iff.1 hg
  have hb := Grammar.bare_of_accepts (Grammar.check_eq_ok_iff.1 h g hg)
  rw [hk] at hb
  exact tokens_of_piece hb.alone

/-! ### The invariant -/

/-- The kinds whose values follow a grammar. -/
def Kind.IsChecked (k : Kind) : Prop :=
  k = .characterClass ∨ k = .quantifier ∨ k = .alternation

theorem Kind.IsChecked.grammar {k : Kind} (h : k.IsChecked) : ∃ g, Grammar.ofKind? k = some g := by
  rcases h with rfl | rfl | rfl
  · exact ⟨.characterClass, rfl⟩
  · exact ⟨.quantifier, rfl⟩
  · exact ⟨.alternation, rfl⟩

/-- What holds of every token of a session, wherever it comes from. -/
structure Token.Sound (t : Token) : Prop where
  not_empty : t.value ≠ ""
  /-- The token is shown as it is, and its mark is that of its value. -/
  agrees : t = Token.ofText t.kind t.value
  /-- On its own, the text is read back as this one token. -/
  read_back : t.kind.IsChecked → tokens t.value = [t]

theorem Token.sound_of_mem_tokens {t : Token} {pattern : String} (h : t ∈ tokens pattern) :
    t.Sound := by
  have hr : Reads pattern.toList (tokens pattern) := reads_scan pattern.toList
  obtain ⟨rest, hp⟩ := hr.piece t h
  have ha : t.Agrees := hr.agrees t h
  refine ⟨value_ne_empty_of_piece hp, ha, fun _ => ?_⟩
  rw [tokens_of_piece hp, ← ha]

theorem Token.sound_of_check {k : Kind} {value : String} (hne : Text.trimmed value.toList ≠ [])
    (h : k.check value = .ok ()) : (Token.ofText k value).Sound := by
  refine ⟨?_, Token.agrees_ofText k value, fun hk => ?_⟩
  · rintro rfl
    exact hne rfl
  · obtain ⟨g, hg⟩ := hk.grammar
    exact tokens_of_check hg h

namespace Session

/-- Every command keeps the tokens sound, whether it is refused or not. -/
theorem sound_step (c : Command) (s : Session) (h : ∀ t ∈ s.list, t.Sound) :
    ∀ t ∈ (step c s).2.list, t.Sound := by
  rcases step_cases c s with ⟨outcome, l', he, e⟩ | ⟨refusal, e⟩
  · rw [e]
    intro t ht
    rcases Command.mem_of_effect he ht with hm | ⟨component, hm⟩ | ⟨k, value, rfl, hne, hc⟩
    · exact h t hm
    · exact Token.sound_of_mem_tokens hm
    · exact Token.sound_of_check hne hc
  · rw [e]
    exact h

end Session

/-- **The tokens of a session are sound.**  Whatever commands are given to a session that was
opened on a listed field, refused ones included, every token has a text, is the token made from
that text, and, if it is a character class, a quantifier or an alternation, is read back from its
text alone.  A value that the check accepts for one of these kinds makes a single token of that
kind. -/
theorem session_tokens_sound (r : Record) (field : String) (listed : r.contains field = true) :
    (∃ s, Session.ofField r field = .ok s ∧
        ∀ script, ∀ t ∈ (run Session.step script s).2.list, t.Sound) ∧
      ∀ k value, k.IsChecked → Kind.check k value = .ok () →
        tokens value = [Token.ofText k value] := by
  refine ⟨⟨_, Session.ofField_of_contains listed, fun script => ?_⟩, fun k value hk h => ?_⟩
  · exact run_invariant (I := fun s : Session => ∀ t ∈ s.list, t.Sound) Session.sound_step script
      fun t ht => Token.sound_of_mem_tokens ht
  · obtain ⟨g, hg⟩ := hk.grammar
    exact tokens_of_check hg h

/-- A field whose pattern lacks a bracket, and a script with a command that is refused. -/
theorem session_tokens_sound_open_class :
    let r : Record := ⟨["code"], .ofList [("code", "[a-z")]⟩
    r.contains "code" = true ∧
      (∃ s, Session.ofField r "code" = .ok s ∧
        ∀ t ∈ (run Session.step [.append "\\D+", .remove 7, .set 0 "[^0-9]"] s).2.list, t.Sound) ∧
      tokens "(a|b)" = [Token.ofText .alternation "(a|b)"] := by
  intro r
  have listed : r.contains "code" = true := by decide
  obtain ⟨⟨s, hs, sound⟩, single⟩ := session_tokens_sound r "code" listed
  exact ⟨listed, ⟨s, hs, sound _⟩, single .alternation "(a|b)" (.inr (.inr rfl)) rfl⟩

end FieldPattern
