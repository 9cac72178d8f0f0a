import FieldPattern.Preview
import FieldPattern.Proofs.Commits
import FieldPattern.Proofs.Readiness
import FieldPattern.Proofs.SessionTokens

/-! # Empty patterns

A pattern that is empty is treated as one that is not there yet: a record with such a field is not
ready, and there are no samples to ask for.  No token of a session has an empty text
(`Session.IsOpenOn.sound`), so the pattern of a session is empty exactly when its token list is
(`Session.IsOpenOn.pattern_eq_empty_iff`), and all who ask get the same answer.

What a generator is asked for is told by `Generator.logged`, which keeps a list of the requests
beside the effects of the generator.  The main statement is `emptiness_judged_alike`. -/

namespace FieldPattern

/-! ### Sessions -/

/-- Where no token is empty, the pattern is empty when there are no tokens. -/
theorem spell_eq_empty_iff {l : TokenList} (h : ∀ t ∈ l, t.value ≠ "") : spell l = "" ↔ l = [] := by
  constructor
  · intro e
    cases l with
    | nil => rfl
    | cons t l =>
        have hnil : (spell (t :: l)).toList = [] := by rw [e]; rfl
        rw [toList_spell, List.flatMap_cons, List.append_eq_nil_iff, String.toList_eq_nil_iff] at hnil
        exact absurd hnil.1 (h t (List.mem_cons_self ..))
  · rintro rfl
    rfl

namespace Session

variable {r : Record} {s : Session}

theorem IsOpenOn.sound (h : s.IsOpenOn r) : ∀ t ∈ s.list, t.Sound := by
  obtain ⟨field, s₀, script, hopen, rfl⟩ := h
  obtain ⟨-, rfl⟩ := ofField_eq_ok_iff.1 hopen
  exact run_invariant (I := fun s : Session => ∀ t ∈ s.list, t.Sound) sound_step script
    fun t ht => Token.sound_of_mem_tokens ht

theorem IsOpenOn.pattern_eq_empty_iff (h : s.IsOpenOn r) : s.pattern = "" ↔ s.list = [] :=
  spell_eq_empty_iff fun t ht => (h.sound t ht).not_empty

/-- A field lacks its pattern after a commit exactly if the session has none. -/
theorem commitTo_missing {c : Record} (h : c.contains s.field = true) :
    ∃ c', s.commitTo c = (.ok s.pattern, c') ∧ (s.field ∈ c'.missing ↔ s.pattern = "") := by
  obtain ⟨c', e, hset⟩ := commitTo_of_contains h
  have hlisted : s.field ∈ c'.headers := by
    rw [hset.headers]
    exact Record.contains_iff_mem.1 h
  refine ⟨c', e, ?_⟩
  rw [Record.mem_missing_iff, Record.hasPattern_iff, hset.stored_eq, Decidable.not_not]
  exact and_iff_right hlisted

end Session

/-! ### Samples -/

/-- The generator, with a list of what it was asked for. -/
def Generator.logged {m : Type → Type} [Monad m] (generator : Generator m) :
    Generator (StateT (List (String × Nat)) m) :=
  fun pattern count => do
    modify fun requests => requests ++ [(pattern, count)]
    generator pattern count

/-- Whatever the generator, a preview of the list shows that there is no pattern, and asks for
nothing. -/
def PreviewsNothing (l : TokenList) : Prop :=
  ∀ (m : Type → Type) [Monad m] [LawfulMonad m] (generator : Generator m) (count : Nat)
    (requests : List (String × Nat)),
    (preview l generator.logged count).run requests = pure (.ok .empty, requests)

/-- Whatever the generator, a preview of the list asks it once for samples of the pattern, and shows
its answer. -/
def PreviewsSamples (l : TokenList) (pattern : String) : Prop :=
  ∀ (m : Type → Type) [Monad m] [LawfulMonad m] (generator : Generator m) (count : Nat)
    (requests : List (String × Nat)),
    (preview l generator.logged count).run requests = do
      let answer ← generator pattern count
      pure (answer.map .samples, requests ++ [(pattern, count)])

theorem previewsNothing_of_empty {l : TokenList} (h : spell l = "") : PreviewsNothing l := by
  intro m _ _ generator count requests
  rw [preview, if_pos (by rw [h]; rfl)]
  rfl

theorem previewsSamples_of_not_empty {l : TokenList} (h : spell l ≠ "") :
    PreviewsSamples l (spell l) := by
  intro m _ _ generator count requests
  rw [preview, if_neg (by rwa [String.isEmpty_iff])]
  simp [Generator.logged]

theorem previewsNothing_iff {l : TokenList} : PreviewsNothing l ↔ spell l = "" := by
  refine ⟨fun h => Decidable.byContradiction fun hne => ?_, previewsNothing_of_empty⟩
  -- A generator that never has samples: it is asked, so the list of requests is not empty.
  let refuses : Generator Id := fun _ _ => pure (.error (.failed ""))
  have e := (h Id refuses 0 []).symm.trans (previewsSamples_of_not_empty hne Id refuses 0 [])
  cases e

/-- **Emptiness is judged alike.**  A record is ready exactly if it lists a field and every listed
field has a pattern; otherwise it is refused for that it lists none, or else once for each listing
without a pattern, in order.  Of a session that is open on a record these agree, whatever commands it
was given: that its token list is empty, that its pattern is, that a preview shows so and asks for
nothing, and that its field is reported to lack a pattern after a commit.  Otherwise a preview asks
once, for the pattern and the number that are given, and shows the answer. -/
theorem emptiness_judged_alike (r : Record) :
    (r.readiness = .ok () ↔ r.headers ≠ [] ∧ ∀ name ∈ r.headers, r.HasPattern name) ∧
    (∀ u, r.readiness = .error u →
      let lacking := r.headers.filter fun name => ¬ r.HasPattern name
      u.issues = (if r.headers = [] then [.noFields] else lacking.map .missingPattern) ∧
        u.missing = lacking) ∧
    ∀ s : Session, s.IsOpenOn r →
      (s.list.isEmpty = true ↔ s.pattern = "") ∧
      (s.list.isEmpty = true ↔ PreviewsNothing s.list) ∧
      (s.list.isEmpty = false → PreviewsSamples s.list s.pattern) ∧
      ∀ c : Record, c.contains s.field = true →
        ∃ c', s.commitTo c = (.ok s.pattern, c') ∧ (s.list.isEmpty = true ↔ s.field ∈ c'.missing) := by
  refine ⟨Record.readiness_eq_ok_iff, fun u h => ⟨?_, Record.missing_of_error h⟩, fun s hs => ?_⟩
  · rw [Record.readiness_eq_error h, Record.issues_eq]
    rfl
  · have hempty : s.list.isEmpty = true ↔ s.pattern = "" := by
      rw [List.isEmpty_iff, hs.pattern_eq_empty_iff]
    refine ⟨hempty, hempty.trans previewsNothing_iff.symm, fun h => ?_, fun c hc => ?_⟩
    · have hne : s.pattern ≠ "" := by
        rw [ne_eq, ← hempty, h]
        decide
      exact previewsSamples_of_not_empty hne
    · obtain ⟨c', e, hmissing⟩ := Session.commitTo_missing hc
      exact ⟨c', e, hempty.trans hmissing.symm⟩

/-- A record that lists a field without an entry twice, and a session that removes the only token of
another field. -/
theorem emptiness_judged_alike_emptied :
    let r : Record := ⟨["a", "b", "a"], .ofList [("b", "x+"), ("old", "y")]⟩
    let s := (run Session.step [.remove 0, .remove 0] ⟨"b", "x+", tokens "x+"⟩).2
    r.readiness = .error ⟨[.missingPattern "a", .missingPattern "a"]⟩ ∧
      Unready.missing ⟨[.missingPattern "a", .missingPattern "a"]⟩ = ["a", "a"] ∧
      s.pattern = "" ∧ PreviewsNothing s.list ∧
      ∃ c', s.commitTo r = (.ok "", c') ∧ "b" ∈ c'.missing := by
  intro r s
  have hopened : Session.ofField r "b" = .ok ⟨"b", "x+", tokens "x+"⟩ :=
    Session.ofField_of_contains (by decide)
  have hs : s.IsOpenOn r := ⟨"b", _, [.remove 0, .remove 0], hopened, rfl⟩
  have hfield : s.field = "b" := Session.run_field _ _
  have hrefused : r.readiness = .error ⟨[.missingPattern "a", .missingPattern "a"]⟩ := rfl
  have hempty : s.list.isEmpty = true := by decide +kernel
  obtain ⟨-, hlacking, hsessions⟩ := emptiness_judged_alike r
  obtain ⟨hpattern, hpreview, -, hcommit⟩ := hsessions s hs
  obtain ⟨c', e, hmissing⟩ := hcommit r (by rw [hfield]; decide)
  rw [hpattern.1 hempty] at e
  rw [hfield] at hmissing
  exact ⟨hrefused, (hlacking _ hrefused).2, hpattern.1 hempty, hpreview.1 hempty, c', e,
    hmissing.1 hempty⟩

end FieldPattern
