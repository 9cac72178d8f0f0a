/-! # Runs of a machine

A machine is a function `step` that takes an input in a state and gives a reply and the state
after it.  `run step` feeds it a list of inputs; the result is the transcript, which holds each
input with its reply, and the last state.

* `run_invariant`: what every step keeps holds after every run.
* `run_follows`: a machine each of whose steps is a step of a specification follows it in every run
  (`Follows`).
* `run_part`: a part of a machine that is a machine of its own runs as if it were alone.  The inputs
  that are none of its own do not touch it, and its own inputs do to it what they do to the other
  machine, whatever the rest of the state is. -/

namespace FieldPattern

variable {α β σ : Type} {step : α → σ → β × σ}

/-- The transcript of a run, and the state after it. -/
def run (step : α → σ → β × σ) : List α → σ → List (α × β) × σ
  | [], s => ([], s)
  | a :: rest, s =>
      let (b, s) := step a s
      let (entries, s) := run step rest s
      ((a, b) :: entries, s)

theorem run_cons (a : α) (rest : List α) (s : σ) :
    run step (a :: rest) s =
      ((a, (step a s).1) :: (run step rest (step a s).2).1, (run step rest (step a s).2).2) := rfl

theorem run_invariant {I : σ → Prop} (h : ∀ a s, I s → I (step a s).2) (inputs : List α) {s : σ}
    (hs : I s) : I (run step inputs s).2 := by
  induction inputs generalizing s with
  | nil => exact hs
  | cons a rest ih => exact ih (h a s hs)

/-- The specification `spec` allows the transcript, and leads from the first state to the second one
on it. -/
inductive Follows {τ : Type} (spec : τ → α → β → τ → Prop) : τ → List (α × β) → τ → Prop
  | nil (A : τ) : Follows spec A [] A
  | cons {A A' last : τ} {a : α} {b : β} {rest : List (α × β)} :
      spec A a b A' → Follows spec A' rest last → Follows spec A ((a, b) :: rest) last

theorem run_follows {τ : Type} {spec : τ → α → β → τ → Prop} {R : σ → τ → Prop}
    (h : ∀ a s A, R s A → ∃ A', spec A a (step a s).1 A' ∧ R (step a s).2 A') (inputs : List α)
    {s : σ} {A : τ} (hs : R s A) :
    ∃ last, Follows spec A (run step inputs s).1 last ∧ R (run step inputs s).2 last := by
  induction inputs generalizing s A with
  | nil => exact ⟨A, .nil A, hs⟩
  | cons a rest ih =>
      obtain ⟨A', hspec, hA'⟩ := h a s A hs
      obtain ⟨last, hrest, hlast⟩ := ih hA'
      exact ⟨last, .cons hspec hrest, hlast⟩

/-- The machine `step'` is a part of the machine `step`: `part` is its state, `input` are its own
inputs, and `entry` is what it sees of a transcript. -/
structure IsPart {γ δ τ : Type} (step : α → σ → β × σ) (step' : γ → τ → δ × τ) (part : σ → τ)
    (input : α → Option γ) (entry : α × β → Option (γ × δ)) : Prop where
  other : ∀ a s, input a = none → entry (a, (step a s).1) = none ∧ part (step a s).2 = part s
  own : ∀ a c s, input a = some c →
    entry (a, (step a s).1) = some (c, (step' c (part s)).1) ∧
      part (step a s).2 = (step' c (part s)).2

theorem run_part {γ δ τ : Type} {step' : γ → τ → δ × τ} {part : σ → τ} {input : α → Option γ}
    {entry : α × β → Option (γ × δ)} (h : IsPart step step' part input entry) (inputs : List α)
    (s : σ) :
    (run step inputs s).1.filterMap entry = (run step' (inputs.filterMap input) (part s)).1 ∧
      part (run step inputs s).2 = (run step' (inputs.filterMap input) (part s)).2 := by
  induction inputs generalizing s with
  | nil => exact ⟨rfl, rfl⟩
  | cons a rest ih =>
      obtain ⟨hlog, hpart⟩ := ih (step a s).2
      cases ha : input a with
      | none =>
          obtain ⟨he, hs⟩ := h.other a s ha
          rw [hs] at hlog hpart
          rw [List.filterMap_cons_none ha, run_cons, List.filterMap_cons_none he]
          exact ⟨hlog, hpart⟩
      | some c =>
          obtain ⟨he, hs⟩ := h.own a c s ha
          rw [hs] at hlog hpart
          rw [List.filterMap_cons_some ha, run_cons, run_cons, List.filterMap_cons_some he, hlog]
          exact ⟨rfl, hpart⟩

end FieldPattern
