import FieldPattern.Proofs.CommandText

/-! # Commands and their texts

A command is rendered as a text, and read back from it; `append` with nothing to append is the one
command that is rendered and not read (`written_render`).

A command may have been read from another text than the one it is rendered as, since an index may
be written with blanks, a `+` or zeros in front.  This is the only difference there can be
(`Written.render_eq_iff`).  The main statement is `commands_reparse`. -/

namespace FieldPattern.Command

open Text (isBlank)
open Text.Numeral (IsCanonical digits)

variable {I s : String} {i n : Nat} {indices : List String} {c : Command}

/-! ### Indices -/

theorem IsIndex.lt (h : IsIndex I i) : i < 2 ^ 64 := (isIndex_iff.1 h).2

theorem isIndex_render (h : n < 2 ^ 64) : IsIndex (Text.Numeral.render n) n := by
  have e : (Text.Numeral.render n).toList = [] ++ digits n ++ [] := by
    rw [Text.Numeral.render, String.toList_ofList, List.nil_append, List.append_nil]
  exact .intro e (by simp) (by simp) (Text.Numeral.isNumeral_digits n) h

/-- Of the texts of an index, the canonical one is written. -/
theorem render_eq_iff_isCanonical (h : IsIndex I i) :
    Text.Numeral.render i = I ↔ IsCanonical I.toList := by
  rw [← String.toList_inj, Text.Numeral.render, String.toList_ofList]
  constructor
  · intro e
    rw [← e]
    exact Text.Numeral.isCanonical_digits i
  · intro hc
    cases h with
    | @intro before numeral after _ e hbefore hafter hnumeral _ =>
        have hnil (s : List Char) (hs : s ⊆ I.toList) (hblank : ∀ c ∈ s, isBlank c = true) :
            s = [] := by
          refine List.eq_nil_iff_forall_not_mem.2 fun c hm => ?_
          have := hblank c hm
          rw [hc.no_blank c (hs hm)] at this
          cases this
        obtain rfl := hnil before (by simp [e]) hbefore
        obtain rfl := hnil after (by simp [e]) hafter
        rw [List.nil_append, List.append_nil] at e
        rw [e] at hc ⊢
        exact (Text.Numeral.digits_eq_iff hnumeral).2 hc

theorem not_mem_render {c : Char} (h : c.isDigit = false) (n : Nat) :
    c ∉ (Text.Numeral.render n).toList := by
  rw [Text.Numeral.render, String.toList_ofList]
  exact Text.Numeral.not_mem_of_isDigit (fun _ => Text.Numeral.isDigit_of_mem_digits) h

/-! ### Commands -/

theorem render_remove (i : Nat) : (remove i).render = "remove:" ++ Text.Numeral.render i := rfl

theorem render_move (i j : Nat) : (move i j).render =
    "move:" ++ Text.Numeral.render i ++ ":" ++ Text.Numeral.render j :=
  (append_append_append ..).symm

theorem render_set (i : Nat) (value : String) : (set i value).render =
    "set:" ++ Text.Numeral.render i ++ "=" ++ value :=
  (append_append_append ..).symm

/-- What is rendered is written. -/
theorem written_render (hc : c ≠ .append "") (hfits : ∀ i ∈ c.indices, i < 2 ^ 64) :
    ∃ indices, Written c.render indices c := by
  cases c with
  | append component =>
      have hne : component ≠ "" := by
        rintro rfl
        exact hc rfl
      exact ⟨_, .append hne⟩
  | remove i => exact ⟨_, .remove (isIndex_render (hfits i (by simp [Command.indices])))⟩
  | move i j =>
      have hi := isIndex_render (hfits i (by simp [Command.indices]))
      have hj := isIndex_render (hfits j (by simp [Command.indices]))
      rw [render_move]
      exact ⟨_, .move (not_mem_render (by decide) i) hi hj⟩
  | set i value =>
      have hi := isIndex_render (hfits i (by simp [Command.indices]))
      rw [render_set]
      exact ⟨_, .set value (not_mem_render (by decide) i) hi⟩

theorem Written.ne_append (h : Written s indices c) : c ≠ .append "" := by
  rintro rfl
  cases h with
  | append hne => exact hne rfl

theorem Written.fits (h : Written s indices c) : ∀ i ∈ c.indices, i < 2 ^ 64 := by
  cases h with
  | append _ => simp [Command.indices]
  | remove hi | set _ _ hi => simpa [Command.indices] using hi.lt
  | move _ hi hj => simpa [Command.indices] using ⟨hi.lt, hj.lt⟩

/-- A command is rendered as it was written if its indices were written as they are rendered. -/
theorem Written.render_eq_iff (h : Written s indices c) :
    c.render = s ↔ ∀ I ∈ indices, IsCanonical I.toList := by
  cases h with
  | append hne => exact ⟨fun _ => by simp, fun _ => rfl⟩
  | remove hi =>
      rw [render_remove, String.append_right_inj, render_eq_iff_isCanonical hi,
        List.forall_mem_singleton]
  | @move I J i j hcut hi hj =>
      have hnot : ':' ∉ (Text.Numeral.render i).toList := not_mem_render (by decide) i
      rw [render_move, append_append_append, append_append_append, String.append_right_inj,
        singleton_colon, cut_inj hnot hcut, render_eq_iff_isCanonical hi,
        render_eq_iff_isCanonical hj, List.forall_mem_cons, List.forall_mem_singleton]
  | @set I i value hcut hi =>
      have hnot : '=' ∉ (Text.Numeral.render i).toList := not_mem_render (by decide) i
      rw [render_set, append_append_append, append_append_append, String.append_right_inj,
        singleton_equals, cut_inj hnot hcut, render_eq_iff_isCanonical hi, and_iff_left rfl,
        List.forall_mem_singleton]

/-- **Commands are read as they are rendered.**  A command whose indices are not too large is read
back from its text, unless it is to append nothing.  So a command that was read, from whatever text,
is read again from its own, and this is the text it was read from exactly if the indices in it were
canonical. -/
theorem commands_reparse :
    (∀ c : Command, (∀ i ∈ c.indices, i < 2 ^ 64) → (read c.render = .ok c ↔ c ≠ .append "")) ∧
      read (append "").render = .error (.malformed .append .missingComponent) ∧
      ∀ s c, read s = .ok c → read c.render = .ok c ∧ (∃ indices, Written s indices c) ∧
        ∀ indices, Written s indices c →
          (c.render = s ↔ ∀ I ∈ indices, IsCanonical I.toList) := by
  have hempty : read (append "").render = .error (.malformed .append .missingComponent) := rfl
  refine ⟨fun c hfits => ⟨?_, fun hc => ?_⟩, hempty, fun s c h => ?_⟩
  · rintro h rfl
    cases hempty.symm.trans h
  · exact read_eq_ok_iff.2 (written_render hc hfits)
  · obtain ⟨indices, hw⟩ := read_eq_ok_iff.1 h
    have hrendered := written_render hw.ne_append hw.fits
    exact ⟨read_eq_ok_iff.2 hrendered, ⟨indices, hw⟩, fun _ hw' => hw'.render_eq_iff⟩

/-- An index with a blank, a sign and zeros in front, and the largest one there is. -/
theorem commands_reparse_padded :
    let s := "set:\t+007=a:=b"
    let c : Command := .set 7 "a:=b"
    let largest : Command := .move 18446744073709551615 0
    read s = .ok c ∧ read c.render = .ok c ∧ c.render ≠ s ∧
      read largest.render = .ok largest := by
  intro s c largest
  have hindex : IsIndex "\t+007" 7 :=
    @IsIndex.intro _ ['\t'] ['+', '0', '0', '7'] [] 7 rfl (List.all_eq_true.1 (by decide))
      (List.all_eq_true.1 (by decide)) (.signed (by decide) (List.all_eq_true.1 (by decide)))
      (by decide)
  have hw : Written s ["\t+007"] c := .set "a:=b" (by decide) hindex
  obtain ⟨hrendered, -, hread⟩ := commands_reparse
  obtain ⟨hc, -, hcanonical⟩ := hread s c hw.read_eq
  refine ⟨hw.read_eq, hc, fun e => ?_, (hrendered largest (by decide)).2 (by decide)⟩
  have hplain := (hcanonical _ hw).1 e "\t+007" (by simp)
  exact hplain.no_sign (by decide)

end FieldPattern.Command
