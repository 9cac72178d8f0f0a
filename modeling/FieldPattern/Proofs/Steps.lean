import FieldPattern.Proofs.Runs

/-! # Steps on a state that is changed in place

A value of `StateT σ (Except ε)` changes a state in place, step after step.  Each step may stop
with a fault, and then there is no state to go on with.

* `bind_of_ok`, `bind_of_error`: what follows a step goes on with the state that the step leaves,
  and is not reached if the step stops.
* `inTurn` feeds a machine of such steps a list of inputs.  A machine that never faults runs as the
  machine that makes new states does (`inTurn_eq`). -/

namespace FieldPattern.Steps

variable {σ ε α β : Type}

section bind
variable {x : StateT σ (Except ε) α} {f : α → StateT σ (Except ε) β} {s s' : σ} {a : α} {fault : ε}

theorem bind_eq : (x >>= f) s = x s >>= fun result => f result.1 result.2 := rfl

theorem bind_of_ok (h : x s = .ok (a, s')) : (x >>= f) s = f a s' := by
  rw [bind_eq, h]
  rfl

theorem bind_of_error (h : x s = .error fault) : (x >>= f) s = .error fault := by
  rw [bind_eq, h]
  rfl

theorem get_bind {f : σ → StateT σ (Except ε) β} :
    ((get : StateT σ (Except ε) σ) >>= f) s = f s s := bind_of_ok rfl

end bind

/-- Take inputs in turn: the transcript, which holds each input with its reply. -/
def inTurn (attempt : α → StateT σ (Except ε) β) : List α → StateT σ (Except ε) (List (α × β))
  | [] => return []
  | a :: rest => do
      let b ← attempt a
      let entries ← inTurn attempt rest
      return (a, b) :: entries

theorem inTurn_eq {attempt : α → StateT σ (Except ε) β} {step : α → σ → β × σ}
    (h : ∀ a s, attempt a s = .ok (step a s)) (inputs : List α) (s : σ) :
    inTurn attempt inputs s = .ok (run step inputs s) := by
  induction inputs generalizing s with
  | nil => rfl
  | cons a rest ih =>
      rw [inTurn, bind_of_ok (h a s), bind_of_ok (ih (step a s).2), run_cons]
      rfl

end FieldPattern.Steps
