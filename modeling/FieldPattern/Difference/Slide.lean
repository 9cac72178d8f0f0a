import FieldPattern.Difference.Basic

/-! # Sliding runs

A run of added items can often stand in several places: if the item before the run equals the
last one of the run, the run may stand one item earlier, and all the same at its other end.
`compact` moves runs, first the removed and then the added ones, so that changes come together.
Each run goes

* *up*, past removed items if it is added and past added items if it is removed, and past an
  equal kept item if it is added; it takes up a run of its own kind that it meets;
* then *down* by the same rules.

The two lists stay the same (`sameSides_compact`). -/

namespace FieldPattern.Difference

variable {α : Type}

/-- A run under way: the runs above it, nearest first, and the runs below it. -/
structure Place (α : Type) where
  above : List (Run α)
  run : Run α
  below : List (Run α)

/-- All runs of a place. -/
def Place.runs (p : Place α) : List (Run α) := p.above.reverse ++ p.run :: p.below

/-- The number of runs and items that a run may still have to pass. -/
def weight : List (Run α) → Nat
  | [] => 0
  | r :: rest => r.items.length + 1 + weight rest

theorem weight_run_append_lt (change : Change) {items longer : List α}
    (h : items.length < longer.length) (runs : List (Run α)) :
    weight (run change items ++ runs) < weight (⟨change, longer⟩ :: runs) := by
  cases items with
  | nil => simp [weight, run]
  | cons a items => simpa [weight, run] using h

theorem length_dropLast_lt {items : List α} {a : α} (h : items.getLast? = some a) :
    items.dropLast.length < items.length := by
  cases items <;> simp at h ⊢

theorem length_tail_lt {items : List α} {a : α} (h : items.head? = some a) :
    items.tail.length < items.length := by
  cases items <;> simp at h ⊢

/-- Put a kept item before runs. -/
def keepFirst (a : α) : List (Run α) → List (Run α)
  | ⟨.kept, items⟩ :: rest => ⟨.kept, a :: items⟩ :: rest
  | runs => ⟨.kept, [a]⟩ :: runs

/-- Put a kept item after the runs above a place. -/
def keepLast (a : α) : List (Run α) → List (Run α)
  | ⟨.kept, items⟩ :: rest => ⟨.kept, items ++ [a]⟩ :: rest
  | runs => ⟨.kept, [a]⟩ :: runs

theorem sameSides_keepFirst (a : α) (runs : List (Run α)) :
    SameSides (keepFirst a runs) (⟨.kept, [a]⟩ :: runs) := by
  intro s
  fun_cases keepFirst a runs <;> simp

theorem sameSides_keepLast (a : α) (runs : List (Run α)) :
    SameSides (keepLast a runs).reverse (runs.reverse ++ [⟨.kept, [a]⟩]) := by
  intro s
  fun_cases keepLast a runs <;> simp

theorem head_of_dropWhile {p : Run α → Bool} {l rest : List (Run α)} {r : Run α}
    (h : l.dropWhile p = r :: rest) : p r = false := by
  have := List.head?_dropWhile_not p l
  simpa [h] using this

variable [DecidableEq α]

/-- Move a run up. -/
def slideUp (p : Place α) : Place α :=
  match p with
  | ⟨⟨.kept, items⟩ :: above, r, below⟩ =>
      match _h : items.getLast?, r.items.getLast? with
      | some a, some b =>
          if r.change = .added ∧ a = b then
            slideUp ⟨run .kept items.dropLast ++ above, ⟨.added, a :: r.items.dropLast⟩,
              keepFirst a below⟩
          else p
      | _, _ => p
  | ⟨next :: above, r, below⟩ =>
      if next.change = r.change then
        slideUp ⟨above, ⟨r.change, next.items ++ r.items⟩, below⟩
      else slideUp ⟨above, r, next :: below⟩
  | ⟨[], _, _⟩ => p
termination_by weight p.above
decreasing_by
  · exact weight_run_append_lt .kept (length_dropLast_lt _h) _
  · simp [weight]
  · simp [weight]

theorem change_slideUp (p : Place α) : (slideUp p).run.change = p.run.change := by
  fun_induction slideUp p with
  | case1 items above r below a b ha hb h ih => rw [ih, h.1]
  | case4 next above r below hk h ih => exact ih
  | case5 next above r below hk h ih => exact ih
  | case2 | case3 | case6 => rfl

theorem sameSides_slideUp {p : Place α} (hp : p.run.change ≠ .kept) :
    SameSides (slideUp p).runs p.runs := by
  fun_induction slideUp p with
  | case1 items above r below a b ha hb h ih =>
      refine (ih (by simp)).trans ?_
      obtain ⟨_, added⟩ := r
      obtain ⟨rfl, rfl⟩ := h
      obtain ⟨l, rfl⟩ := List.getLast?_eq_some_iff.1 ha
      obtain ⟨m, rfl⟩ := List.getLast?_eq_some_iff.1 hb
      have h₁ := (sameSides_run .kept l).append
        ((SameSides.refl [⟨.added, a :: m⟩]).append (sameSides_keepFirst a below))
      have h₂ := h₁.trans ((sameSides_rotate a l m).append (SameSides.refl below))
      simpa [Place.runs, reverse_run] using (SameSides.refl above.reverse).append h₂
  | case4 next above r below hk h ih =>
      refine (ih hp).trans ?_
      simpa [Place.runs] using (sameSides_join h).within above.reverse below
  | case5 next above r below hk h ih =>
      refine (ih hp).trans ?_
      have hn : next.change ≠ .kept := fun h => hk next.items (by rw [← h])
      simpa [Place.runs] using (sameSides_swap hp hn (Ne.symm h)).within above.reverse below
  | case2 | case3 | case6 => exact SameSides.refl _

/-- Move a run down. -/
def slideDown (p : Place α) : Place α :=
  match p with
  | ⟨above, r, ⟨.kept, items⟩ :: below⟩ =>
      match _h : items.head?, r.items.head? with
      | some a, some b =>
          if r.change = .added ∧ a = b then
            slideDown ⟨keepLast a above, ⟨.added, r.items.tail ++ [a]⟩,
              run .kept items.tail ++ below⟩
          else p
      | _, _ => p
  | ⟨above, r, next :: below⟩ =>
      if next.change = r.change then
        slideDown ⟨above, ⟨r.change, r.items ++ next.items⟩, below⟩
      else slideDown ⟨next :: above, r, below⟩
  | ⟨_, _, []⟩ => p
termination_by weight p.below
decreasing_by
  · exact weight_run_append_lt .kept (length_tail_lt _h) _
  · simp [weight]
  · simp [weight]

theorem sameSides_slideDown {p : Place α} (hp : p.run.change ≠ .kept) :
    SameSides (slideDown p).runs p.runs := by
  fun_induction slideDown p with
  | case1 above r items below a b ha hb h ih =>
      refine (ih (by simp)).trans ?_
      obtain ⟨_, added⟩ := r
      obtain ⟨rfl, rfl⟩ := h
      obtain ⟨l, rfl⟩ := List.head?_eq_some_iff.1 ha
      obtain ⟨m, rfl⟩ := List.head?_eq_some_iff.1 hb
      have h₁ : SameSides [⟨.kept, [a]⟩, ⟨.added, m ++ [a]⟩, ⟨.kept, l⟩]
          [⟨.added, a :: m⟩, ⟨.kept, a :: l⟩] := by
        intro s
        cases s <;> simp [Run.on, Change.isOn]
      have h₂ := (SameSides.refl [⟨.added, m ++ [a]⟩]).append
        ((sameSides_run .kept l).append (SameSides.refl below))
      have h₃ := (sameSides_keepLast a above).append h₂
      have h₄ := h₁.within above.reverse below
      exact h₃.trans (by simpa [Place.runs] using h₄)
  | case4 above r next below hk h ih =>
      refine (ih hp).trans ?_
      have := (sameSides_join (Eq.symm h)).within above.reverse below
      simpa [Place.runs, h] using this
  | case5 above r next below hk h ih =>
      refine (ih hp).trans ?_
      have hn : next.change ≠ .kept := fun h => hk next.items (by rw [← h])
      simpa [Place.runs] using (sameSides_swap hn hp h).within above.reverse below
  | case2 | case3 | case6 => exact SameSides.refl _

/-- Move the next `count` runs with this change.  The runs above stand nearest first. -/
def settle (change : Change) : Nat → List (Run α) → List (Run α) → List (Run α)
  | 0, above, below => above.reverse ++ below
  | count + 1, above, below =>
      match below.dropWhile fun r => r.change ≠ change with
      | [] => above.reverse ++ below
      | r :: rest =>
          let skipped := below.takeWhile fun r => r.change ≠ change
          let p := slideDown (slideUp ⟨skipped.reverse ++ above, r, rest⟩)
          settle change count (p.run :: p.above) p.below

/-- Move the removed runs and then the added ones. -/
def compact (runs : List (Run α)) : List (Run α) :=
  let settled := settle .removed runs.length [] runs
  settle .added settled.length [] settled

/-! ### Moving keeps both lists -/

theorem sameSides_settle {change : Change} (hc : change ≠ .kept) (count : Nat)
    (above below : List (Run α)) :
    SameSides (settle change count above below) (above.reverse ++ below) := by
  fun_induction settle change count above below with
  | case1 above below => exact SameSides.refl _
  | case2 above below count h => exact SameSides.refl _
  | case3 count above below r rest h skipped p ih =>
      have hr : r.change = change := by simpa using head_of_dropWhile h
      have hb : skipped ++ r :: rest = below := by
        rw [← h]
        exact List.takeWhile_append_dropWhile
      have hk : r.change ≠ .kept := hr ▸ hc
      have h₁ := sameSides_slideUp (p := ⟨skipped.reverse ++ above, r, rest⟩) hk
      have h₂ := sameSides_slideDown (p := slideUp ⟨skipped.reverse ++ above, r, rest⟩)
        (by rw [change_slideUp]; exact hk)
      have h₃ := h₂.trans h₁
      refine ih.trans ?_
      rw [← hb]
      simpa [Place.runs] using h₃

theorem sameSides_compact (runs : List (Run α)) : SameSides (compact runs) runs := by
  exact (sameSides_settle (by decide) _ _ _).trans
    (by simpa using sameSides_settle (by decide) runs.length [] runs)

end FieldPattern.Difference
