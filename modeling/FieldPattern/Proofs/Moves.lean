import FieldPattern.Proofs.InPlace
import Mathlib.Data.List.Perm.Basic

/-! # Moving a token

A token is moved by taking it out and putting it in again, and the target is counted in the list
that is one token shorter meanwhile.  So the tokens between the two places make way by one place:
towards the front if the token moves towards the end, and towards the end if it moves towards the
front (`getElem?_move`).  Nothing else changes (`eraseIdx_move`), and the move from the target to
the source undoes it (`move_move`).

The main statement is `moves_shift_between`. -/

namespace FieldPattern.TokenList

section move
variable {l : TokenList} (source target : Fin l.length)

/-- Without the token there is still room for it at the target. -/
theorem le_length_eraseIdx : target.val ≤ (l.eraseIdx source).length := by
  have hlength := List.length_eraseIdx_of_lt source.isLt
  have htarget := target.isLt
  omega

@[simp] theorem length_move : (l.move source target).length = l.length := by
  have hroom := le_length_eraseIdx source target
  have hlength := List.length_eraseIdx_of_lt source.isLt
  have hsource := source.isLt
  rw [move, List.length_insertIdx_of_le_length hroom]
  omega

/-- The token that was moved stands at the target, and a token between the two places comes from
the next place on the side of the source. -/
theorem getElem?_move (k : Nat) : (l.move source target)[k]? =
    if k = target.val then l[source.val]?
    else if source.val ≤ k ∧ k < target.val then l[k + 1]?
    else if target.val < k ∧ k ≤ source.val then l[k - 1]?
    else l[k]? := by
  have hroom := le_length_eraseIdx source target
  have htoken : l[source.val]? = some l[source] := List.getElem?_eq_getElem source.isLt
  rw [move, List.getElem?_insertIdx, List.getElem?_eraseIdx, List.getElem?_eraseIdx]
  rcases Nat.lt_trichotomy k target.val with hlt | heq | hgt
  · -- Before the target, the tokens behind the source have moved towards the front.
    rw [if_pos hlt, if_neg (Nat.ne_of_lt hlt)]
    by_cases hk : k < source.val
    · rw [if_pos hk, if_neg (by omega), if_neg (by omega)]
    · rw [if_neg hk, if_pos (by omega)]
  · rw [if_neg (by omega), if_pos heq, if_pos (by omega), if_pos heq, htoken]
  · -- Behind the target, the tokens before the source have moved towards the end, and those behind
    -- it there and back.
    rw [if_neg (by omega), if_neg (by omega)]
    by_cases hk : k ≤ source.val
    · rw [if_pos (by omega), if_neg (by omega), if_neg (by omega), if_pos (by omega)]
    · have hback : k - 1 + 1 = k := by omega
      rw [if_neg (by omega), if_neg (by omega), if_neg (by omega), if_neg (by omega), hback]

theorem getElem?_move_target : (l.move source target)[target.val]? = l[source.val]? := by
  rw [getElem?_move, if_pos rfl]

/-- Apart from the token that is moved, the list stays as it is. -/
theorem eraseIdx_move : (l.move source target).eraseIdx target = l.eraseIdx source :=
  List.eraseIdx_insertIdx_self _

theorem move_perm : (l.move source target).Perm l := by
  have hroom := le_length_eraseIdx source target
  exact (List.perm_insertIdx _ _ hroom).trans (List.getElem_cons_eraseIdx_perm source.isLt)

/-- Moved back, the token stands where it stood. -/
theorem move_move : (l.move source target).move (target.cast (length_move source target).symm)
    (source.cast (length_move source target).symm) = l := by
  have hlength := (length_move source target).symm
  have htoken : (l.move source target)[target.cast hlength] = l[source] := by
    have h := getElem?_move_target source target
    rw [List.getElem?_eq_getElem source.isLt] at h
    exact Option.some.inj ((List.getElem?_eq_getElem _).symm.trans h)
  calc (l.move source target).move (target.cast hlength) (source.cast hlength)
      = ((l.move source target).eraseIdx target).insertIdx source
          (l.move source target)[target.cast hlength] := rfl
    _ = (l.eraseIdx source).insertIdx source l[source] := by rw [eraseIdx_move, htoken]
    _ = l := List.insertIdx_eraseIdx_getElem source.isLt

end move

theorem move?_eq_ok {l : TokenList} {source target : Nat} (hs : source < l.length)
    (ht : target < l.length) : l.move? source target = .ok (l.move ⟨source, hs⟩ ⟨target, ht⟩) :=
  move?_of_lt hs ht

theorem moving_eq_ok {l : TokenList} {source target : Nat} (hs : source < l.length)
    (ht : target < l.length) :
    moving source target l = .ok ((), l.move ⟨source, hs⟩ ⟨target, ht⟩) := by
  rw [moving_eq, move?_eq_ok hs ht]
  rfl

/-- **A move shifts what is between.**  A token that is moved from one place of a list to another
one stands at the target.  The tokens between the two places make way by one place, all others stay
where they are, and all tokens but the moved one stay in order.  No token is lost, added or changed,
and the move from the target to the source restores the list.  A list that is changed in place
changes in the same way, and has every position that is needed on the way. -/
theorem moves_shift_between (l : TokenList) (source target : Nat) (hs : source < l.length)
    (ht : target < l.length) :
    ∃ l', l.move? source target = .ok l' ∧ moving source target l = .ok ((), l') ∧
      l'.length = l.length ∧
      l'[target]? = l[source]? ∧
      (∀ k, k ≠ target → l'[k]? =
        if source ≤ k ∧ k < target then l[k + 1]?
        else if target < k ∧ k ≤ source then l[k - 1]?
        else l[k]?) ∧
      l'.eraseIdx target = l.eraseIdx source ∧
      l'.Perm l ∧
      l'.move? target source = .ok l ∧ moving target source l' = .ok ((), l) := by
  have hlength := length_move (l := l) ⟨source, hs⟩ ⟨target, ht⟩
  have hback := move_move (l := l) ⟨source, hs⟩ ⟨target, ht⟩
  refine ⟨_, move?_eq_ok hs ht, moving_eq_ok hs ht, hlength, getElem?_move_target _ _, ?_,
    eraseIdx_move _ _, move_perm _ _, ?_, ?_⟩
  · intro k hk
    rw [getElem?_move, if_neg hk]
  · rw [move?_eq_ok (by omega) (by omega)]
    exact congrArg Except.ok hback
  · rw [moving_eq_ok (by omega) (by omega)]
    exact congrArg (fun l => Except.ok ((), l)) hback

/-- A token with a suffix is moved to the front, past tokens of other kinds. -/
theorem moves_shift_between_backward :
    let l : TokenList := tokens "a.[b]\\D+"
    (3 < l.length ∧ 1 < l.length) ∧
      ∃ l', l.move? 3 1 = .ok l' ∧ l'[1]? = l[3]? ∧ l'[0]? = l[0]? ∧ l'[2]? = l[1]? ∧
        l'[3]? = l[2]? ∧ l'.move? 1 3 = .ok l := by
  intro l
  have hlength : l.length = 4 := by decide +kernel
  have hs : 3 < l.length := by omega
  have ht : 1 < l.length := by omega
  obtain ⟨l', hmove, -, -, htarget, hothers, -, -, hback, -⟩ := moves_shift_between l 3 1 hs ht
  exact ⟨⟨hs, ht⟩, l', hmove, htarget, hothers 0 (by omega), hothers 2 (by omega),
    hothers 3 (by omega), hback⟩

end FieldPattern.TokenList
