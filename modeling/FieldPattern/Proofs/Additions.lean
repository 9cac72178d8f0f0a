import FieldPattern.Proofs.Appending
import FieldPattern.Proofs.InPlace

/-! # Adding a component

The tokens of a component stand behind those of the list, and they spell the component, whatever
it is: also one that is not finished, or one that would be read differently behind the last token of
the list.  Since no token is empty, a component without tokens is empty (`tokens_eq_nil_iff`).

* Taking out a token at the first new place, as often as there are new tokens, gives them back and
  leaves the list as it was (`removeTimes?_append`).
* The token that is opened for editing is the only one of its component: components of the catalog
  make one token, whose text passes the check of its own kind (`Catalog.tokens_of_mem`).

The main statement is `additions_can_be_undone`. -/

namespace FieldPattern

theorem tokens_eq_nil_iff {pattern : String} : tokens pattern = [] ↔ pattern = "" := by
  constructor
  · intro h
    rw [← spell_tokens pattern, h]
    rfl
  · rintro rfl
    simp [tokens, Scan.scan]

/-! ### Components of the catalog -/

namespace Catalog

/-- The text of a component is a single token, and it passes the check of the token's kind. -/
theorem tokens_of_mem {c : Component} (h : c ∈ components) :
    ∃ t, tokens c.pattern = [t] ∧ t.value = c.pattern ∧ t.kind.check t.value = .ok () := by
  have hall : ∀ c ∈ components, ∃ k ∈ Kind.all,
      tokens c.pattern = [Token.ofText k c.pattern] ∧ k.check c.pattern = .ok () := by
    decide +kernel
  obtain ⟨k, -, hk, hcheck⟩ := hall c h
  exact ⟨_, hk, rfl, hcheck⟩

theorem isTemplate_iff {pattern : String} :
    isTemplate pattern = true ↔ ∃ c ∈ components, c.template = true ∧ c.pattern = pattern := by
  simp [isTemplate]

end Catalog

namespace TokenList

/-! ### Taking out what was added -/

/-- Take out the token with number `i`, `n` times: the tokens that were taken out, and what is left
of the list. -/
def removeTimes? (l : TokenList) (i : Nat) : Nat → Except OutOfRange (List Token × TokenList)
  | 0 => .ok ([], l)
  | n + 1 => do
      let (t, l) ← l.removeAt? i
      let (ts, l) ← removeTimes? l i n
      return (t :: ts, l)

/-- The induction is on the tokens that are taken out; the one that stands at the place is always
the first of those that are left. -/
theorem removeTimes?_append (before ts after : TokenList) :
    removeTimes? (before ++ (ts ++ after)) before.length ts.length =
      .ok (ts, before ++ after) := by
  induction ts with
  | nil => rfl
  | cons t ts ih =>
      have hlt : before.length < (before ++ (t :: ts ++ after)).length := by simp
      have hremove : removeAt? (before ++ (t :: ts ++ after)) before.length =
          .ok (t, before ++ (ts ++ after)) := by
        have herase : (before ++ (t :: ts ++ after)).eraseIdx before.length =
            before ++ (ts ++ after) := by
          rw [List.eraseIdx_append_of_length_le (Nat.le_refl _), Nat.sub_self]
          rfl
        rw [removeAt?_of_lt hlt, herase]
        simp
      rw [List.length_cons, removeTimes?, hremove]
      simp only [bind, Except.bind, ih]
      rfl

variable {l : TokenList} {component : String}

theorem opened_add_eq_some_iff {i : Nat} : (l.add component).1.opened = some i ↔
    i = l.length ∧ ∃ c ∈ Catalog.components, c.template = true ∧ c.pattern = component := by
  have hne : Catalog.isTemplate component = true → tokens component ≠ [] := by
    intro h
    obtain ⟨c, hc, -, rfl⟩ := Catalog.isTemplate_iff.1 h
    obtain ⟨t, ht, -⟩ := Catalog.tokens_of_mem hc
    simp [ht]
  rw [← Catalog.isTemplate_iff]
  by_cases h : Catalog.isTemplate component = true
  · have hopened : (l.add component).1.opened = some l.length := by simp [add, h, hne h]
    rw [hopened, Option.some.injEq]
    exact ⟨fun e => ⟨e.symm, h⟩, fun e => e.1.symm⟩
  · have hopened : (l.add component).1.opened = none := by simp [add, h]
    rw [hopened]
    exact ⟨nofun, fun e => absurd e.2 h⟩

/-- **An added component can be taken out again.**  The tokens of the list stay in place, the
pattern grows by the component, and the report gives the place and the number of the new tokens;
there is none exactly if the component is empty.  Taking out that many tokens there gives back the
new tokens and the list.  A token is opened for editing exactly if the component is a template of the
catalog; it is then the only new token, its text is the component, and it passes the check of its
own kind. -/
theorem additions_can_be_undone (l : TokenList) (component : String) :
    ∃ report l', l.add component = (report, l') ∧
      l <+: l' ∧
      spell l' = spell l ++ component ∧
      report.first = l.length ∧
      l'.length = l.length + report.count ∧
      (report.count = 0 ↔ component = "") ∧
      l'.removeTimes? report.first report.count = .ok (tokens component, l) ∧
      ∀ i, (report.opened = some i ↔ i = report.first ∧
          ∃ c ∈ Catalog.components, c.template = true ∧ c.pattern = component) ∧
        (report.opened = some i → report.count = 1 ∧
          ∃ t, l'[i]? = some t ∧ t.value = component ∧ t.kind.check t.value = .ok ()) := by
  have hundo := removeTimes?_append l (tokens component) []
  rw [List.append_nil, List.append_nil] at hundo
  refine ⟨_, _, rfl, List.prefix_append _ _, ?_, rfl, List.length_append, ?_, hundo,
    fun i => ⟨opened_add_eq_some_iff, fun h => ?_⟩⟩
  · rw [spell_append, spell_tokens]
  · rw [List.length_eq_zero_iff, tokens_eq_nil_iff]
  · obtain ⟨rfl, c, hc, -, rfl⟩ := opened_add_eq_some_iff.1 h
    obtain ⟨t, ht, hvalue, hcheck⟩ := Catalog.tokens_of_mem hc
    refine ⟨by rw [ht]; rfl, t, ?_, hvalue, hcheck⟩
    rw [ht]
    simp

example : (add (tokens "x") "(a|b)").1 = ⟨1, 1, some 1⟩ := by decide +kernel

example : (add (tokens "x") "ab\x7b2\x7d").1 = ⟨1, 3, none⟩ := by decide +kernel

end TokenList

end FieldPattern
