import FieldPattern.Proofs.Reading

/-! # Which token sequences are read back

A token sequence spells a pattern, and the pattern reads as a token sequence.  The two are the
same exactly when the sequence is `Legible`, which is a matter of each token and the two tokens
after it:

* each token is well-formed (`Token.WellFormed`): it is the token made from its value, and the
  value is bare, bare with a suffix, or unfinished for its kind;
* an unfinished token is the last one;
* no `*`, `+` or `?` follows a bare token that takes suffixes;
* what follows a bare literal keeps its run where it is (`Token.KeepsRun`).

The main statement is `tokens_spell_iff`. -/

namespace FieldPattern

open Scan (isPlain)

/-! ### Conditions on a token and on those after it -/

namespace Token

/-- The value is complete and has no suffix. -/
def IsBare (t : Token) : Prop := Bare t.kind t.value.toList

/-- The value is complete and has a suffix. -/
def IsSuffixed (t : Token) : Prop :=
  t.kind.takesSuffix = true ∧
    ∃ s c, Bare t.kind s ∧ isSuffix c = true ∧ t.value.toList = s ++ [c]

/-- The end of the value is missing. -/
def IsUnfinished (t : Token) : Prop := Unfinished t.kind t.value.toList

/-- The first character of the value. -/
def first? (t : Token) : Option Char := t.value.toList.head?

/-- The token is the one made from its value, and the value has the shape of its kind. -/
structure WellFormed (t : Token) : Prop where
  agrees : t = ofText t.kind t.value
  shape : t.IsBare ∨ t.IsSuffixed ∨ t.IsUnfinished

/-- The tokens after the bare literal `t` leave its run where it is: the next one starts with a
character that starts no run and no counted quantifier, or with a `{` that a single character
precedes, or it is a single character that precedes a `{`. -/
def KeepsRun (t : Token) : List Token → Prop
  | [] => True
  | u :: after =>
      (∃ c ∈ u.first?, c = '\\' ∨ c = '[' ∨ c = '(' ∨ c = '.') ∨
      (u.first? = some '{' ∧ t.value.length = 1) ∨
      (∃ c, u.value.toList = [c] ∧ isPlain c = true ∧ ∃ v ∈ after.head?, v.first? = some '{')

/-- The token `t` stays apart from the tokens after it. -/
structure Fits (t : Token) (after : List Token) : Prop where
  last_of_unfinished : t.IsUnfinished → after = []
  no_suffix : t.IsBare → t.kind ≠ .quantifier →
    ∀ u ∈ after.head?, ∀ c ∈ u.first?, isSuffix c = false
  keeps_run : t.IsBare → t.kind = .literal → t.KeepsRun after

end Token

/-- Every token is well-formed and stays apart from those after it. -/
structure Legible (ts : List Token) : Prop where
  wellFormed : ∀ t ∈ ts, t.WellFormed
  fits : ∀ before t after, ts = before ++ t :: after → t.Fits after

/-- The places in `t :: ts` are the first one and those in `ts`. -/
theorem forall_place_cons {P : Token → List Token → Prop} {t : Token} {ts : List Token} :
    (∀ before u after, t :: ts = before ++ u :: after → P u after) ↔
      P t ts ∧ ∀ before u after, ts = before ++ u :: after → P u after := by
  constructor
  · intro h
    exact ⟨h [] t ts rfl, fun before u after e => h (t :: before) u after (by rw [e]; rfl)⟩
  · rintro ⟨h₀, h⟩ before u after e
    cases before with
    | nil =>
        obtain ⟨rfl, rfl⟩ := List.cons.inj e
        exact h₀
    | cons _ before => exact h before u after (List.cons.inj e).2

theorem legible_nil : Legible [] where
  wellFormed := by simp
  fits := by simp

theorem legible_cons {t : Token} {ts : List Token} :
    Legible (t :: ts) ↔ t.WellFormed ∧ t.Fits ts ∧ Legible ts := by
  constructor
  · rintro ⟨hw, hf⟩
    obtain ⟨hw₀, hw⟩ := List.forall_mem_cons.1 hw
    obtain ⟨hf₀, hf⟩ := forall_place_cons.1 hf
    exact ⟨hw₀, hf₀, hw, hf⟩
  · rintro ⟨hw₀, hf₀, hw, hf⟩
    exact ⟨List.forall_mem_cons.2 ⟨hw₀, hw⟩, forall_place_cons.2 ⟨hf₀, hf⟩⟩

/-! ### What the texts of well-formed tokens start with -/

theorem Token.WellFormed.ne_nil {t : Token} (h : t.WellFormed) : t.value.toList ≠ [] := by
  rcases h.shape with hb | ⟨-, s, c, -, -, e⟩ | hu
  · exact hb.ne_nil
  · simp [e]
  · exact hu.ne_nil

/-- A piece is well-formed. -/
theorem Token.wellFormed_of_piece {t : Token} {rest : List Char} (ha : t.Agrees)
    (h : Piece t.kind t.value.toList rest) : t.WellFormed := by
  refine ⟨ha, ?_⟩
  generalize e : t.value.toList = s at h
  cases h with
  | unfinished hu => exact .inr (.inr (by rw [Token.IsUnfinished, e]; exact hu))
  | bare hb _ _ => exact .inl (by rw [Token.IsBare, e]; exact hb)
  | suffixed hb hk hc => exact .inr (.inl ⟨hk, _, _, hb, hc, e⟩)

/-- The pattern starts as the first token does. -/
theorem head?_spell {ts : List Token} (h : ∀ t ∈ ts, t.WellFormed) :
    (spell ts).toList.head? = ts.head?.bind Token.first? := by
  rw [toList_spell]
  cases ts with
  | nil => rfl
  | cons t ts =>
      obtain ⟨c, s, e⟩ := List.exists_cons_of_ne_nil (h t (by simp)).ne_nil
      simp [Token.first?, e]

theorem spell_eq_nil {ts : List Token} (h : ∀ t ∈ ts, t.WellFormed) :
    (spell ts).toList = [] ↔ ts = [] := by
  constructor
  · intro e
    cases ts with
    | nil => rfl
    | cons t ts =>
        rw [toList_spell, List.flatMap_cons, List.append_eq_nil_iff] at e
        exact absurd e.1 (h t (by simp)).ne_nil
  · rintro rfl
    rfl

/-- A complete text that starts with a plain character consists of plain characters. -/
theorem Bare.plain {k : Kind} {c : Char} {s : List Char} (h : Bare k (c :: s))
    (hc : isPlain c = true) : ∀ d ∈ s, isPlain d = true := by
  generalize e : c :: s = t at h
  cases h with
  | literal hp =>
      cases e
      exact fun d hd => hp d (List.mem_cons_of_mem _ hd)
  | symbol hs =>
      cases e
      rw [isPlain_of_isSuffix hs] at hc
      cases hc
  | _ =>
      cases e
      cases hc

/-- After a plain character at its start, no brace follows inside of a token. -/
theorem Token.WellFormed.no_brace {t : Token} (h : t.WellFormed) {c d : Char} {s : List Char}
    (e : t.value.toList = c :: d :: s) (hc : isPlain c = true) : d ≠ '{' := by
  rintro rfl
  rcases h.shape with hb | ⟨-, r, x, hb, hx, e'⟩ | hu
  · rw [Token.IsBare, e] at hb
    have := hb.plain hc '{' (by simp)
    cases this
  · rw [e] at e'
    cases r with
    | nil => exact hb.ne_nil rfl
    | cons y r =>
        obtain ⟨rfl, htail⟩ := List.cons.inj e'
        have hm : '{' ∈ r ++ [x] := by
          rw [← show '{' :: s = r ++ [x] from htail]
          simp
        rcases List.mem_append.1 hm with hm | hm
        · have := hb.plain hc '{' hm
          cases this
        · rw [← List.mem_singleton.1 hm] at hx
          cases hx
  · rw [Token.IsUnfinished, e] at hu
    generalize t.kind = k at hu
    cases hu <;> cases hc

/-! ### Pieces and the tokens after them -/

theorem piece_of_suffixed {t : Token} (h : t.IsSuffixed) (rest : List Char) :
    Piece t.kind t.value.toList rest := by
  obtain ⟨hk, s, c, hb, hc, e⟩ := h
  rw [e]
  exact .suffixed hb hk hc

theorem piece_iff_of_unfinished {t : Token} (h : t.IsUnfinished) {rest : List Char} :
    Piece t.kind t.value.toList rest ↔ rest = [] := by
  constructor
  · intro hp
    rw [Token.IsUnfinished] at h
    generalize t.value.toList = s at h hp
    cases hp with
    | unfinished _ => rfl
    | bare hb _ _ => exact absurd h hb.not_unfinished
    | suffixed hb hk _ => exact absurd h (hb.not_unfinished_suffix hk)
  · rintro rfl
    exact .unfinished h

theorem piece_iff_of_bare {t : Token} (h : t.IsBare) {rest : List Char} :
    Piece t.kind t.value.toList rest ↔
      (t.kind.takesSuffix = true → ∀ c ∈ rest.head?, isSuffix c = false) ∧
        (t.kind = .literal → RunStops t.value.toList rest) := by
  constructor
  · intro hp
    rw [Token.IsBare] at h
    generalize t.value.toList = s at h hp
    cases hp with
    | unfinished hu => exact absurd hu h.not_unfinished
    | bare _ hs hr => exact ⟨hs, hr⟩
    | suffixed hb hk hc => exact absurd h (hb.not_bare_suffix hk hc)
  · rintro ⟨hs, hr⟩
    exact .bare h hs hr

/-- A run stops before a character that starts a token of another kind, before a `{` only if it is
a single character, and before a plain character only if a `{` comes next. -/
theorem runStops_cons_iff {s after : List Char} {c : Char} (hc : isSuffix c = false) :
    RunStops s (c :: after) ↔
      (c = '\\' ∨ c = '[' ∨ c = '(' ∨ c = '.') ∨ (c = '{' ∧ s.length = 1) ∨
        (isPlain c = true ∧ after.head? = some '{') := by
  constructor
  · intro h
    rcases h c after rfl with hp | ⟨hp, hlen⟩
    · exact .inr (.inr hp)
    · rcases head_cases c with h | h | h | h | h | h | h
      · exact .inl (.inl h)
      · exact .inl (.inr (.inl h))
      · exact .inr (.inl ⟨h, hlen h⟩)
      · exact .inl (.inr (.inr (.inl h)))
      · exact .inl (.inr (.inr (.inr h)))
      · rw [hc] at h
        cases h
      · rw [hp] at h
        cases h
  · intro h d rest e
    obtain ⟨rfl, rfl⟩ := List.cons.inj e
    rcases h with h | ⟨rfl, hlen⟩ | h
    · rcases h with rfl | rfl | rfl | rfl <;> exact .inr ⟨rfl, nofun⟩
    · exact .inr ⟨rfl, fun _ => hlen⟩
    · exact .inl h

theorem runStops_iff_keepsRun {t : Token} {ts : List Token} (h : ∀ u ∈ ts, u.WellFormed)
    (hs : ∀ u ∈ ts.head?, ∀ c ∈ u.first?, isSuffix c = false) :
    RunStops t.value.toList (spell ts).toList ↔ t.KeepsRun ts := by
  cases ts with
  | nil =>
      refine iff_of_true ?_ trivial
      intro d after e
      cases e
  | cons u ts =>
      obtain ⟨hu, hts⟩ := List.forall_mem_cons.1 h
      obtain ⟨c, s, e⟩ := List.exists_cons_of_ne_nil hu.ne_nil
      have hfirst : u.first? = some c := by rw [Token.first?, e]; rfl
      have hspell : (spell (u :: ts)).toList = c :: (s ++ (spell ts).toList) := by
        rw [toList_spell, toList_spell, List.flatMap_cons, e, List.cons_append]
      rw [hspell, runStops_cons_iff (hs u rfl c hfirst), Token.KeepsRun, hfirst,
        String.length_toList]
      refine or_congr (by simp) (or_congr (by simp) ?_)
      constructor
      · rintro ⟨hp, hb⟩
        -- A plain character before a brace is a token of its own.
        cases s with
        | cons d s => exact absurd (Option.some.inj hb) (hu.no_brace e hp)
        | nil =>
            rw [List.nil_append, head?_spell hts] at hb
            obtain ⟨v, hv, hb⟩ := Option.bind_eq_some_iff.1 hb
            exact ⟨c, e, hp, v, hv, hb⟩
      · rintro ⟨d, hd, hp, v, hv, hb⟩
        rw [e] at hd
        obtain ⟨rfl, rfl⟩ := List.cons.inj hd
        refine ⟨hp, ?_⟩
        rw [List.nil_append, head?_spell hts]
        exact Option.bind_eq_some_iff.2 ⟨v, hv, hb⟩

theorem Token.IsSuffixed.not_bare {t : Token} (h : t.IsSuffixed) : ¬ t.IsBare := by
  obtain ⟨hk, s, c, hb, hc, e⟩ := h
  rw [Token.IsBare, e]
  exact hb.not_bare_suffix hk hc

theorem Token.IsSuffixed.not_unfinished {t : Token} (h : t.IsSuffixed) : ¬ t.IsUnfinished := by
  obtain ⟨hk, s, c, hb, -, e⟩ := h
  rw [Token.IsUnfinished, e]
  exact hb.not_unfinished_suffix hk

/-- A well-formed token has an end and no suffix, or a suffix, or no end. -/
theorem Token.WellFormed.isBare_iff {t : Token} (h : t.WellFormed) :
    t.IsBare ↔ ¬ t.IsUnfinished ∧ ¬ t.IsSuffixed := by
  constructor
  · intro hb
    exact ⟨hb.not_unfinished, fun hs => hs.not_bare hb⟩
  · rintro ⟨hu, hs⟩
    exact (h.shape.resolve_right fun h => h.elim hs hu)

/-- What a well-formed token asks of the text behind it to be a piece there: an unfinished one that
there is none, and a bare one that it gives no suffix and does not go on with a run. -/
theorem piece_iff {t : Token} (ht : t.WellFormed) {rest : List Char} :
    Piece t.kind t.value.toList rest ↔
      (t.IsUnfinished → rest = []) ∧
        (t.IsBare → (t.kind ≠ .quantifier → ∀ c ∈ rest.head?, isSuffix c = false) ∧
          (t.kind = .literal → RunStops t.value.toList rest)) := by
  rcases ht.shape with hb | hs | hu
  · rw [piece_iff_of_bare hb, Kind.takesSuffix_iff]
    exact ⟨fun h => ⟨fun hu => absurd hu hb.not_unfinished, fun _ => h⟩, fun h => h.2 hb⟩
  · exact iff_of_true (piece_of_suffixed hs rest)
      ⟨fun hu => absurd hu hs.not_unfinished, fun hb => absurd hb hs.not_bare⟩
  · rw [piece_iff_of_unfinished hu]
    exact ⟨fun h => ⟨fun _ => h, fun hb => absurd hu hb.not_unfinished⟩, fun h => h.1 hu⟩

/-- A well-formed token is a piece in front of others exactly when it stays apart from them. -/
theorem piece_iff_fits {t : Token} {ts : List Token} (ht : t.WellFormed)
    (hts : ∀ u ∈ ts, u.WellFormed) :
    Piece t.kind t.value.toList (spell ts).toList ↔ t.Fits ts := by
  have hhead : (∀ c ∈ (spell ts).toList.head?, isSuffix c = false) ↔
      ∀ u ∈ ts.head?, ∀ c ∈ u.first?, isSuffix c = false := by
    rw [head?_spell hts]
    cases ts <;> simp
  have hrun (hk : t.kind = .literal)
      (hno : t.kind ≠ .quantifier → ∀ u ∈ ts.head?, ∀ c ∈ u.first?, isSuffix c = false) :=
    runStops_iff_keepsRun (t := t) hts (hno (by rw [hk]; nofun))
  rw [piece_iff ht, spell_eq_nil hts, hhead]
  constructor
  · rintro ⟨hlast, h⟩
    exact ⟨hlast, fun hb => (h hb).1, fun hb hk => (hrun hk (h hb).1).1 ((h hb).2 hk)⟩
  · intro hf
    exact ⟨hf.last_of_unfinished, fun hb =>
      ⟨hf.no_suffix hb, fun hk => (hrun hk (hf.no_suffix hb)).2 (hf.keeps_run hb hk)⟩⟩

/-! ### Reading back -/

theorem reads_spell_iff {ts : List Token} : Reads (spell ts).toList ts ↔ Legible ts := by
  induction ts with
  | nil => exact iff_of_true .nil legible_nil
  | cons t ts ih =>
      have hspell : (spell (t :: ts)).toList = t.value.toList ++ (spell ts).toList := by
        rw [toList_spell, toList_spell, List.flatMap_cons]
      rw [hspell, reads_cons_iff, ih, legible_cons]
      constructor
      · rintro ⟨ha, hp, hl⟩
        have ht := Token.wellFormed_of_piece ha hp
        exact ⟨ht, (piece_iff_fits ht hl.wellFormed).1 hp, hl⟩
      · rintro ⟨ht, hf, hl⟩
        exact ⟨ht.agrees, (piece_iff_fits ht hl.wellFormed).2 hf, hl⟩

/-- **The image of the scanner.**  A token sequence is read back from the pattern that it spells
exactly when it is legible. -/
theorem tokens_spell_iff (ts : List Token) : tokens (spell ts) = ts ↔ Legible ts :=
  scan_eq_iff.trans reads_spell_iff

end FieldPattern
