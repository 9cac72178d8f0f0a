import FieldPattern.Proofs.Appending
import FieldPattern.Proofs.Editing
import FieldPattern.Proofs.InPlace
import FieldPattern.Proofs.SessionTokens

/-! # Tokens with new texts

A new text for a token ends in one of three ways (`Ends`), which are asked for in this order:

* it is blank or shown already, and the token stays as it is;
* the token's kind has a grammar, the text is none of its texts, and the edit is refused;
* the token becomes the one that is made from the text.

What the text of the token was, and whether it followed the grammar itself, plays no part.  An edit
computes one of these endings and touches no other token (`settle_edit`), and the token that it
leaves keeps the same text from then on, so that a second edit with it is cancelled
(`settle_edit_again`).

The main statement is `edits_replace_or_keep`. -/

namespace FieldPattern

/-- The value is a text of the kind's grammar, if there is one. -/
def Kind.Allows (k : Kind) (value : String) : Prop :=
  ∀ g : Grammar, g.kind = k → g.Written value.toList

theorem Grammar.isChecked_kind (g : Grammar) : g.kind.IsChecked := by
  cases g with
  | characterClass => exact .inl rfl
  | quantifier => exact .inr (.inl rfl)
  | alternation => exact .inr (.inr rfl)

/-- A text that a grammar does not have is not allowed for the kind of the grammar. -/
theorem Kind.not_allows {k : Kind} {g : Grammar} {value : String} (hg : g.kind = k)
    (hw : ¬ g.Written value.toList) : k.IsChecked ∧ ¬ k.Allows value :=
  ⟨hg ▸ g.isChecked_kind, fun h => hw (h g hg)⟩

namespace TokenList

/-! ### How an edit ends -/

/-- The result of an edit of the token `t`. -/
inductive Ends (t : Token) (value : String) : Except Misfit Verdict → Prop
  | cancelled : t.Keeps value → Ends t value (.ok .cancelled)
  | refused {g : Grammar} : ¬ t.Keeps value → g.kind = t.kind → ¬ g.Written value.toList →
      Ends t value (.error ⟨g, value⟩)
  | applied : ¬ t.Keeps value → t.kind.Allows value → Ends t value (.ok .applied)

section Ends
variable {t : Token} {value : String} {result : Except Misfit Verdict}

theorem Ends.cancelled_iff (h : Ends t value result) :
    result = .ok .cancelled ↔ t.Keeps value := by
  cases h with
  | cancelled hk => simp [hk]
  | refused hk _ _ => simp [hk]
  | applied hk _ => simp [hk]

theorem Ends.refused_iff (h : Ends t value result) :
    (∃ misfit, result = .error misfit) ↔
      ¬ t.Keeps value ∧ t.kind.IsChecked ∧ ¬ t.kind.Allows value := by
  cases h with
  | cancelled hk => simp [hk]
  | refused hk hg hw =>
      obtain ⟨hchecked, hnot⟩ := Kind.not_allows hg hw
      simp [hk, hchecked, hnot]
  | applied hk ha => simp [ha]

theorem Ends.applied_iff (h : Ends t value result) :
    result = .ok .applied ↔
      ¬ t.Keeps value ∧ (t.kind.IsChecked → t.kind.Allows value) := by
  cases h with
  | cancelled hk => simp [hk]
  | refused _ hg hw =>
      obtain ⟨hchecked, hnot⟩ := Kind.not_allows hg hw
      simp [hchecked, hnot]
  | applied hk ha => simp [hk, ha]

theorem Ends.misfit_eq {misfit : Misfit} (h : Ends t value (.error misfit)) :
    misfit.grammar.kind = t.kind ∧ misfit.value = value := by
  cases h with
  | refused _ hg _ => exact ⟨hg, rfl⟩

end Ends

/-! ### What an edit does -/

/-- The list with this text for the token at `i`. -/
def retexted (l : TokenList) (i : Nat) (hi : i < l.length) (value : String) : TokenList :=
  l.set i (Token.ofText l[i].kind value)

section edit
variable {l : TokenList} {i : Nat} (hi : i < l.length) (value : String)

/-- An edit ends in one of the three ways, and it changes the list only if it is applied. -/
theorem settle_edit : ∃ result, Ends l[i] value result ∧
    settle l (l.edit ⟨i, hi⟩ value) =
      (result, if result = .ok .applied then l.retexted i hi value else l) := by
  by_cases hk : l[i].Keeps value
  · refine ⟨.ok .cancelled, .cancelled hk, ?_⟩
    rw [Command.edit_of_keeps hi hk]
    rfl
  · have hedit := Command.edit_of_not_keeps hi hk
    rcases hc : l[i].kind.check value with misfit | ⟨⟨⟩⟩
    · obtain ⟨g, hg, hrejects, rfl⟩ := Grammar.check_eq_error_iff.1 hc
      have hkind : g.kind = l[i].kind := Grammar.ofKind?_eq_some_iff.1 hg
      have hw : ¬ g.Written value.toList := by
        intro hw
        rw [Grammar.accepts_iff_written.2 hw] at hrejects
        cases hrejects
      refine ⟨.error ⟨g, value⟩, .refused hk hkind hw, ?_⟩
      rw [hedit, hc]
      rfl
    · have hallows : l[i].kind.Allows value := by
        intro g hg
        have haccepts := Grammar.check_eq_ok_iff.1 hc g (Grammar.ofKind?_eq_some_iff.2 hg)
        exact Grammar.accepts_iff_written.1 haccepts
      refine ⟨.ok .applied, .applied hk hallows, ?_⟩
      rw [hedit, hc]
      rfl

/-- The text that a token has already does not change it. -/
theorem settle_edit_again {k : Kind} (h : l[i] = Token.ofText k value) :
    settle l (l.edit ⟨i, hi⟩ value) = (.ok .cancelled, l) := by
  have hkeeps : l[i].Keeps value := .inr (by rw [h, Token.display_ofText])
  rw [Command.edit_of_keeps hi hkeeps]
  rfl

theorem edit?_map_settle :
    (l.edit? i value).map (settle l) = .ok (settle l (l.edit ⟨i, hi⟩ value)) := by
  rw [edit?_of_lt hi]
  rfl

theorem editing_eq_settle : editing i value l = .ok (settle l (l.edit ⟨i, hi⟩ value)) := by
  rw [editing_eq, edit?_map_settle hi]
  rfl

end edit

/-! ### What an edit leaves alone -/

/-- The second list is the first one with this text for the token at `i`. -/
structure Retexted (l : TokenList) (i : Nat) (hi : i < l.length) (value : String)
    (l' : TokenList) : Prop where
  length_eq : l'.length = l.length
  kinds_eq : l'.map Token.kind = l.map Token.kind
  others : ∀ j, j ≠ i → l'[j]? = l[j]?
  token : l'[i]? = some (Token.ofText l[i].kind value)
  /-- The pattern changes in the part of this token only. -/
  spells : ∃ before after, before = spell (l.take i) ∧ after = spell (l.drop (i + 1)) ∧
    spell l = before ++ l[i].value ++ after ∧ spell l' = before ++ value ++ after

section retexted
variable {l : TokenList} {i : Nat} (hi : i < l.length)

theorem map_kind_set {t : Token} (h : t.kind = l[i].kind) :
    (l.set i t).map Token.kind = l.map Token.kind := by
  calc (l.set i t).map Token.kind
      = (l.map Token.kind).set i l[i].kind := by rw [List.map_set, h]
    _ = (l.set i l[i]).map Token.kind := List.map_set.symm
    _ = l.map Token.kind := by rw [List.set_getElem_self]

include hi in
theorem spell_set (t : Token) :
    spell (l.set i t) = spell (l.take i) ++ t.value ++ spell (l.drop (i + 1)) := by
  have hone : spell [t] = t.value := by simp [spell]
  calc spell (l.set i t)
      = spell (l.take i ++ ([t] ++ l.drop (i + 1))) := by
        rw [List.set_eq_take_append_cons_drop, if_pos hi, List.singleton_append]
    _ = spell (l.take i) ++ t.value ++ spell (l.drop (i + 1)) := by
        rw [spell_append, spell_append, hone, String.append_assoc]

theorem spell_at : spell l = spell (l.take i) ++ l[i].value ++ spell (l.drop (i + 1)) := by
  have hself : l.set i l[i] = l := List.set_getElem_self hi
  rw [← spell_set hi, hself]

theorem retexted_retexted (value : String) : Retexted l i hi value (l.retexted i hi value) where
  length_eq := List.length_set
  kinds_eq := map_kind_set hi rfl
  others _ h := List.getElem?_set_ne (Ne.symm h)
  token := List.getElem?_set_self hi
  spells := ⟨_, _, rfl, rfl, spell_at hi, spell_set hi _⟩

end retexted

/-- **An edit replaces a token or keeps everything.**  An edit of a token of the list always has a
result, also on a list that is changed in place.  It is cancelled exactly if the text is blank or
shown already.  Otherwise it is refused exactly if the token's kind has a grammar and the text is
none of its texts, and the refusal names that grammar and the text.  Otherwise it is applied.  Unless
it is applied, the list stays as it is.  If it is, the token becomes the one that is made from the
text, nothing else changes, and the same edit is cancelled from then on. -/
theorem edits_replace_or_keep (l : TokenList) (i : Nat) (value : String) (hi : i < l.length) :
    ∃ result l', (l.edit? i value).map (settle l) = .ok (result, l') ∧
      editing i value l = .ok (result, l') ∧
      (result = .ok .cancelled ↔ l[i].Keeps value) ∧
      ((∃ misfit, result = .error misfit) ↔
        ¬ l[i].Keeps value ∧ l[i].kind.IsChecked ∧ ¬ l[i].kind.Allows value) ∧
      (∀ misfit, result = .error misfit →
        misfit.grammar.kind = l[i].kind ∧ misfit.value = value) ∧
      (result = .ok .applied ↔
        ¬ l[i].Keeps value ∧ (l[i].kind.IsChecked → l[i].kind.Allows value)) ∧
      (result ≠ .ok .applied → l' = l) ∧
      (result = .ok .applied → Retexted l i hi value l' ∧
        (l'.edit? i value).map (settle l') = .ok (.ok .cancelled, l') ∧
        editing i value l' = .ok (.ok .cancelled, l')) := by
  obtain ⟨result, hends, hsettle⟩ := settle_edit hi value
  refine ⟨result, _, by rw [edit?_map_settle hi, hsettle], by rw [editing_eq_settle hi, hsettle],
    hends.cancelled_iff, hends.refused_iff, ?_, hends.applied_iff, fun hne => if_neg hne, ?_⟩
  · rintro misfit rfl
    exact hends.misfit_eq
  · intro happlied
    rw [if_pos happlied]
    have hnew := retexted_retexted hi value
    obtain ⟨hi', htoken⟩ := List.getElem?_eq_some_iff.1 hnew.token
    have hagain := settle_edit_again hi' value htoken
    exact ⟨hnew, by rw [edit?_map_settle hi', hagain], by rw [editing_eq_settle hi', hagain]⟩

/-- A character class that is shown by a text which is none, and an escape that gets its mark. -/
theorem edits_replace_or_keep_mark :
    let l : TokenList := [.unmarked .characterClass "[a-z]" "letters", .escape "\\d" "\\d" false]
    (0 < l.length ∧ 1 < l.length) ∧
      editing 0 "letters" l = .ok (.ok .cancelled, l) ∧
      ∃ l', editing 1 "\\D" l = .ok (.ok .applied, l') ∧
        l'[1]? = some (.escape "\\D" "\\D" true) ∧ l'[0]? = l[0]? ∧
        editing 1 "\\D" l' = .ok (.ok .cancelled, l') := by
  intro l
  have h₀ : 0 < l.length := by decide
  have h₁ : 1 < l.length := by decide
  refine ⟨⟨h₀, h₁⟩, ?_, ?_⟩
  · obtain ⟨result, l', -, hedit, hcancelled, -, -, -, hkept, -⟩ :=
      edits_replace_or_keep l 0 "letters" h₀
    obtain rfl : result = .ok .cancelled := hcancelled.2 (.inr rfl)
    rw [hedit, hkept nofun]
  · obtain ⟨result, l', -, hedit, -, -, -, happlied, -, hnew⟩ :=
      edits_replace_or_keep l 1 "\\D" h₁
    have hfresh : ¬ l[1].Keeps "\\D" := by
      rintro (hblank | hshown)
      · exact absurd hblank (by decide)
      · rw [show l[1].display = "\\d" from rfl] at hshown
        exact absurd hshown (by decide)
    have hfree : ¬ l[1].kind.IsChecked := by
      rintro (h | h | h) <;> cases h
    obtain rfl : result = .ok .applied := happlied.2 ⟨hfresh, fun h => absurd h hfree⟩
    obtain ⟨hretexted, -, hagain⟩ := hnew rfl
    exact ⟨l', hedit, hretexted.token, hretexted.others 0 (by decide), hagain⟩

end TokenList

end FieldPattern
