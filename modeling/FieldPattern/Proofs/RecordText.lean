import FieldPattern.Proofs.JsonText
import FieldPattern.Record.File
import Mathlib.Data.List.TakeWhile

/-! # Records read back

The text of a record is read back as this record.  Each reader of a part of a record is opened
once, by a lemma that says what it makes of the results of the readers that it calls; the lemmas
on lists, maps and records follow the layout with these.  Blanks before a value may be any, so
the lemmas hold at every depth of the layout.

The main statement is `parse_render`. -/

namespace FieldPattern.Record

open Json

theorem encode_append (text : String) (rest : List Char) :
    encode text ++ rest = '"' :: (text.toList.flatMap encodeChar ++ '"' :: rest) := by
  simp [encode]

theorem readText_encode {b : List Char} (hb : IsBlanks b) (text : String) (rest : List Char) :
    Yields readText (b ++ (encode text ++ rest)) text rest := by
  obtain ⟨hlt, e⟩ := decode_encode text.toList rest
  obtain ⟨hle, e'⟩ := skipBlank_append hb (c := '"') rfl
    (text.toList.flatMap encodeChar ++ '"' :: rest)
  have h : Yields readText (b ++ '"' :: (text.toList.flatMap encodeChar ++ '"' :: rest))
      (String.ofList text.toList) rest := by
    refine ⟨by simp at hlt ⊢; omega, ?_⟩
    rw [readText, e']
    change (decode _ >>= _) = _
    rw [e]
    rfl
  rw [String.ofList_toList] at h
  rw [encode_append]
  exact h

/-! ### Lists -/

theorem nextInList_comma {b : List Char} (hb : IsBlanks b) (s : List Char) :
    Yields nextInList (',' :: (b ++ '"' :: s)) true ('"' :: s) := by
  obtain ⟨hle, e⟩ := skipBlank_append hb (c := '"') rfl s
  refine ⟨by simp only [List.length_cons, List.length_append]; omega, ?_⟩
  -- The comma is read by evaluation; what follows the blanks is known from `e` only.
  conv => lhs; whnf
  rw [e]
  rfl

theorem nextInList_close {b : List Char} (hb : IsBlanks b) (s : List Char) :
    Yields nextInList (b ++ ']' :: s) false s := by
  obtain ⟨hle, e⟩ := skipBlank_append hb (c := ']') rfl s
  refine ⟨by simp only [List.length_cons, List.length_append]; omega, ?_⟩
  rw [nextInList, e]
  rfl

section readTexts
variable {s s₁ s₂ s₃ : List Char} {text : String} {texts : List String}

theorem readTexts_last (h₁ : Yields readText s text s₁) (h₂ : Yields nextInList s₁ false s₂) :
    Yields readTexts s [text] s₂ := by
  obtain ⟨hlt₁, e₁⟩ := h₁
  obtain ⟨hlt₂, e₂⟩ := h₂
  refine ⟨by omega, ?_⟩
  rw [readTexts, e₁]
  simp only [bind, Except.bind]
  rw [e₂]
  rfl

theorem readTexts_more (h₁ : Yields readText s text s₁) (h₂ : Yields nextInList s₁ true s₂)
    (h₃ : Yields readTexts s₂ texts s₃) : Yields readTexts s (text :: texts) s₃ := by
  obtain ⟨hlt₁, e₁⟩ := h₁
  obtain ⟨hlt₂, e₂⟩ := h₂
  obtain ⟨hlt₃, e₃⟩ := h₃
  refine ⟨by omega, ?_⟩
  rw [readTexts, e₁]
  simp only [bind, Except.bind]
  rw [e₂]
  simp only [if_true]
  rw [e₃]
  rfl

end readTexts

theorem readTexts_following {b b' : List Char} (hb : IsBlanks b) (hb' : IsBlanks b')
    (text : String) (texts : List String) (rest : List Char) :
    Yields readTexts (encode text ++ (following b (texts.map encode) ++ (b' ++ ']' :: rest)))
      (text :: texts) rest := by
  induction texts generalizing text with
  | nil =>
      have hlast := readText_encode isBlanks_nil text (b' ++ ']' :: rest)
      exact readTexts_last hlast (nextInList_close hb' rest)
  | cons next texts ih =>
      have e : following b ((next :: texts).map encode) ++ (b' ++ ']' :: rest) =
          ',' :: (b ++
            (encode next ++ (following b (texts.map encode) ++ (b' ++ ']' :: rest)))) := by
        simp [following]
      have hfirst := readText_encode isBlanks_nil text
        (following b ((next :: texts).map encode) ++ (b' ++ ']' :: rest))
      have hcomma := nextInList_comma hb
        (next.toList.flatMap encodeChar ++
          '"' :: (following b (texts.map encode) ++ (b' ++ ']' :: rest)))
      rw [← encode_append, ← e] at hcomma
      exact readTexts_more hfirst hcomma (ih next)

theorem readList_empty {b : List Char} (hb : IsBlanks b) (rest : List Char) :
    Yields readList (b ++ '[' :: ']' :: rest) [] rest := by
  obtain ⟨hle, e⟩ := skipBlank_append hb (c := '[') rfl (']' :: rest)
  refine ⟨by simp only [List.length_cons, List.length_append]; omega, ?_⟩
  rw [readList, e]
  rfl

theorem readList_open {b b' : List Char} (hb : IsBlanks b) (hb' : IsBlanks b') {s rest : List Char}
    {texts : List String} (h : Yields readTexts ('"' :: s) texts rest) :
    Yields readList (b ++ '[' :: (b' ++ '"' :: s)) texts rest := by
  obtain ⟨_, e⟩ := skipBlank_append hb (c := '[') rfl (b' ++ '"' :: s)
  obtain ⟨_, e'⟩ := skipBlank_append hb' (c := '"') rfl s
  obtain ⟨hlt, e''⟩ := h
  refine ⟨by simp at hlt ⊢; omega, ?_⟩
  rw [readList, e]
  conv => lhs; whnf
  rw [e']
  change (readTexts _ >>= _) = _
  rw [e'']
  rfl

/-- A list of strings is read back. -/
theorem readList_list {b : List Char} (hb : IsBlanks b) (column : Nat) (texts : List String)
    (rest : List Char) :
    Yields readList (b ++ (Json.list column (texts.map encode) ++ rest)) texts rest := by
  cases texts with
  | nil => exact readList_empty hb rest
  | cons text texts =>
      have h := readTexts_following (isBlanks_indent (column + 2)) (isBlanks_indent column) text
        texts rest
      rw [encode_append] at h
      rw [Json.list, List.map_cons, block_cons, encode_append]
      exact readList_open hb (isBlanks_indent (column + 2)) h

/-! ### Maps -/

theorem readColon_colon (s : List Char) : ∃ h, readColon (':' :: s) = .ok ⟨s, h⟩ := ⟨by simp, rfl⟩

theorem firstInMap_name {b : List Char} (hb : IsBlanks b) (s : List Char) :
    Yields firstInMap (b ++ '"' :: s) true s := by
  obtain ⟨hle, e⟩ := skipBlank_append hb (c := '"') rfl s
  refine ⟨by simp only [List.length_cons, List.length_append]; omega, ?_⟩
  rw [firstInMap, e]
  rfl

theorem firstInMap_close {b : List Char} (hb : IsBlanks b) (s : List Char) :
    Yields firstInMap (b ++ '}' :: s) false s := by
  obtain ⟨hle, e⟩ := skipBlank_append hb (c := '}') rfl s
  refine ⟨by simp only [List.length_cons, List.length_append]; omega, ?_⟩
  rw [firstInMap, e]
  rfl

theorem nextInMap_close {b : List Char} (hb : IsBlanks b) (s : List Char) :
    Yields nextInMap (b ++ '}' :: s) false s := by
  obtain ⟨hle, e⟩ := skipBlank_append hb (c := '}') rfl s
  refine ⟨by simp only [List.length_cons, List.length_append]; omega, ?_⟩
  rw [nextInMap, e]
  rfl

theorem nextInMap_comma {b : List Char} (hb : IsBlanks b) (s : List Char) :
    Yields nextInMap (',' :: (b ++ '"' :: s)) true s := by
  obtain ⟨hle, e⟩ := skipBlank_append hb (c := '"') rfl s
  refine ⟨by simp only [List.length_cons, List.length_append]; omega, ?_⟩
  conv => lhs; whnf
  rw [e]
  rfl

section readMembers
variable {s s₁ s₂ s₃ s₄ s₅ name : List Char} {pattern : String} {entries : List (String × String)}

theorem readMembers_last (hname : Yields decode s name s₁)
    (hcolon : ∃ h, readColon s₁ = .ok ⟨s₂, h⟩)
    (hpattern : Yields readText s₂ pattern s₃) (hclose : Yields nextInMap s₃ false s₄) :
    Yields readMembers s [(String.ofList name, pattern)] s₄ := by
  obtain ⟨hlt₁, e₁⟩ := hname
  obtain ⟨hlt₂, e₂⟩ := hcolon
  obtain ⟨hlt₃, e₃⟩ := hpattern
  obtain ⟨hlt₄, e₄⟩ := hclose
  refine ⟨by omega, ?_⟩
  rw [readMembers, e₁]
  change (readColon _ >>= _) = _
  rw [e₂]
  change (readText _ >>= _) = _
  rw [e₃]
  change (nextInMap _ >>= _) = _
  rw [e₄]
  rfl

theorem readMembers_more (hname : Yields decode s name s₁)
    (hcolon : ∃ h, readColon s₁ = .ok ⟨s₂, h⟩)
    (hpattern : Yields readText s₂ pattern s₃) (hcomma : Yields nextInMap s₃ true s₄)
    (hentries : Yields readMembers s₄ entries s₅) :
    Yields readMembers s ((String.ofList name, pattern) :: entries) s₅ := by
  obtain ⟨hlt₁, e₁⟩ := hname
  obtain ⟨hlt₂, e₂⟩ := hcolon
  obtain ⟨hlt₃, e₃⟩ := hpattern
  obtain ⟨hlt₄, e₄⟩ := hcomma
  obtain ⟨hlt₅, e₅⟩ := hentries
  refine ⟨by omega, ?_⟩
  rw [readMembers, e₁]
  change (readColon _ >>= _) = _
  rw [e₂]
  change (readText _ >>= _) = _
  rw [e₃]
  change (nextInMap _ >>= _) = _
  rw [e₄]
  change (readMembers _ >>= _) = _
  rw [e₅]
  rfl

end readMembers

/-- A member, from after the quotation mark of its name. -/
def memberTail (name : String) (value : List Char) : List Char :=
  name.toList.flatMap encodeChar ++ '"' :: ':' :: ' ' :: value

theorem member_append (name : String) (value rest : List Char) :
    encode name ++ [':', ' '] ++ value ++ rest = '"' :: memberTail name (value ++ rest) := by
  simp [encode, memberTail]

/-- Members as they are laid out. -/
def members (entries : List (String × String)) : List (List Char) :=
  entries.map fun e => encode e.1 ++ [':', ' '] ++ encode e.2

theorem readMembers_following {b b' : List Char} (hb : IsBlanks b) (hb' : IsBlanks b')
    (entry : String × String) (entries : List (String × String)) (rest : List Char) :
    Yields readMembers
      (memberTail entry.1
        (encode entry.2 ++ (following b (members entries) ++ (b' ++ '}' :: rest))))
      (entry :: entries) rest := by
  induction entries generalizing entry with
  | nil =>
      have hlast := readMembers_last (decode_encode entry.1.toList _) (readColon_colon _)
        (readText_encode isBlanks_space entry.2 _) (nextInMap_close hb' rest)
      rw [String.ofList_toList] at hlast
      exact hlast
  | cons next entries ih =>
      have e : following b (members (next :: entries)) ++ (b' ++ '}' :: rest) =
          ',' :: (b ++ (encode next.1 ++ [':', ' '] ++ encode next.2
            ++ (following b (members entries) ++ (b' ++ '}' :: rest)))) := by
        simp [following, members]
      rw [member_append] at e
      have hcomma := nextInMap_comma hb (memberTail next.1
        (encode next.2 ++ (following b (members entries) ++ (b' ++ '}' :: rest))))
      rw [← e] at hcomma
      have hmore := readMembers_more (decode_encode entry.1.toList _) (readColon_colon _)
        (readText_encode isBlanks_space entry.2 _) hcomma (ih next)
      rw [String.ofList_toList] at hmore
      exact hmore

/-! ### Records -/

theorem readTable_empty {b : List Char} (hb : IsBlanks b) (rest : List Char) :
    Yields readTable (b ++ '{' :: '}' :: rest) .empty rest := by
  obtain ⟨hle, e⟩ := skipBlank_append hb (c := '{') rfl ('}' :: rest)
  obtain ⟨hlt, e'⟩ := firstInMap_close isBlanks_nil rest
  refine ⟨by simp only [List.length_cons, List.length_append]; omega, ?_⟩
  rw [readTable, e]
  change (firstInMap ([] ++ '}' :: rest) >>= _) = _
  rw [e']
  rfl

theorem readTable_open {b : List Char} (hb : IsBlanks b) {s s₁ rest : List Char}
    {entries : List (String × String)} (hname : Yields firstInMap s true s₁)
    (hentries : Yields readMembers s₁ entries rest) :
    Yields readTable (b ++ '{' :: s) (.ofList entries) rest := by
  obtain ⟨hle, e⟩ := skipBlank_append hb (c := '{') rfl s
  obtain ⟨hlt₁, e₁⟩ := hname
  obtain ⟨hlt₂, e₂⟩ := hentries
  refine ⟨by simp only [List.length_cons, List.length_append]; omega, ?_⟩
  rw [readTable, e]
  change (firstInMap _ >>= _) = _
  rw [e₁]
  change (readMembers _ >>= _) = _
  rw [e₂]
  rfl

/-- A table is read back. -/
theorem readTable_map {b : List Char} (hb : IsBlanks b) (column : Nat) (t : Table)
    (rest : List Char) :
    Yields readTable
      (b ++ (Json.map column (t.entries.map fun e => (e.1, encode e.2)) ++ rest)) t rest := by
  have hlayout : Json.map column (t.entries.map fun e => (e.1, encode e.2)) =
      block '{' '}' column (members t.entries) := by
    rw [Json.map, List.map_map]
    rfl
  have ht := Table.ofList_entries t
  rw [hlayout]
  cases he : t.entries with
  | nil =>
      rw [he] at ht
      rw [← ht]
      exact readTable_empty hb rest
  | cons entry entries =>
      have h := readMembers_following (isBlanks_indent (column + 2)) (isBlanks_indent column) entry
        entries rest
      rw [he] at ht
      rw [← ht, members, List.map_cons, block_cons, member_append]
      exact readTable_open hb (firstInMap_name (isBlanks_indent (column + 2)) _) h

section readParts
variable {p p' : Parts} {name s s₁ s₂ s₃ : List Char} {headers : List String} {patterns : Table}

theorem readPart_headers (hp : p.headers = none) (hcolon : ∃ h, readColon s = .ok ⟨s₁, h⟩)
    (hlist : Yields readList s₁ headers s₂) :
    Yields (readPart p "headers") s { p with headers := some headers } s₂ := by
  obtain ⟨hlt₁, e₁⟩ := hcolon
  obtain ⟨hlt₂, e₂⟩ := hlist
  refine ⟨by omega, ?_⟩
  rw [readPart, if_pos rfl, hp, if_neg (by decide), e₁]
  change (readList _ >>= _) = _
  rw [e₂]
  rfl

theorem readPart_patterns (hp : p.patterns = none) (hcolon : ∃ h, readColon s = .ok ⟨s₁, h⟩)
    (htable : Yields readTable s₁ patterns s₂) :
    Yields (readPart p "patterns") s { p with patterns := some patterns } s₂ := by
  obtain ⟨hlt₁, e₁⟩ := hcolon
  obtain ⟨hlt₂, e₂⟩ := htable
  refine ⟨by omega, ?_⟩
  rw [readPart, if_neg (by decide), if_pos rfl, hp, if_neg (by decide), e₁]
  change (readTable _ >>= _) = _
  rw [e₂]
  rfl

theorem readParts_more (hname : Yields decode s name s₁)
    (hpart : Yields (readPart p (String.ofList name)) s₁ p' s₂)
    (hcomma : Yields nextInMap s₂ true s₃) : readParts p s = readParts p' s₃ := by
  obtain ⟨hlt₁, e₁⟩ := hname
  obtain ⟨hlt₂, e₂⟩ := hpart
  obtain ⟨hlt₃, e₃⟩ := hcomma
  rw [readParts, e₁]
  change (readPart p _ _ >>= _) = _
  rw [e₂]
  change (nextInMap _ >>= _) = _
  rw [e₃]
  rfl

theorem readParts_last (hname : Yields decode s name s₁)
    (hpart : Yields (readPart p (String.ofList name)) s₁ p' s₂)
    (hclose : Yields nextInMap s₂ false s₃) : readParts p s = .ok (p', s₃) := by
  obtain ⟨hlt₁, e₁⟩ := hname
  obtain ⟨hlt₂, e₂⟩ := hpart
  obtain ⟨hlt₃, e₃⟩ := hclose
  rw [readParts, e₁]
  change (readPart p _ _ >>= _) = _
  rw [e₂]
  change (nextInMap _ >>= _) = _
  rw [e₃]
  rfl

end readParts

theorem readAll_open {s s₁ rest : List Char} {p : Parts} (hname : Yields firstInMap s true s₁)
    (hparts : readParts {} s₁ = .ok (p, rest)) (hrest : IsBlanks rest) :
    readAll ('{' :: s) = .ok p.record := by
  have e : skipBlank ('{' :: s) = ⟨'{' :: s, Nat.le_refl _⟩ := rfl
  have e' : skipBlank rest = ⟨[], Nat.zero_le _⟩ :=
    Subtype.ext (List.dropWhile_eq_nil_iff.2 hrest)
  obtain ⟨hlt, e₁⟩ := hname
  rw [readAll, e]
  change (firstInMap s >>= _) = _
  rw [e₁]
  change (readParts {} s₁ >>= _) = _
  rw [hparts]
  conv => lhs; whnf
  rw [e']
  rfl

/-- The text of a record: the two members between braces, and a newline. -/
theorem renderChars_eq (r : Record) :
    r.renderChars = '{' :: (indent 2 ++ '"' :: memberTail "headers"
      (Json.list 2 (r.headers.map encode) ++ ',' :: (indent 2 ++ '"' :: memberTail "patterns"
        (Json.map 2 (r.patterns.entries.map fun e => (e.1, encode e.2))
          ++ (indent 0 ++ ['}', '\n']))))) := by
  have h : r.renderChars = block '{' '}' 0
      [encode "headers" ++ [':', ' '] ++ Json.list 2 (r.headers.map encode),
        encode "patterns" ++ [':', ' ']
          ++ Json.map 2 (r.patterns.entries.map fun e => (e.1, encode e.2))] ++ ['\n'] := rfl
  rw [h, block_cons, member_append]
  simp [following, memberTail, encode]

theorem readAll_renderChars (r : Record) : readAll r.renderChars = .ok r := by
  have hheaders (rest : List Char) := readPart_headers (p := {}) rfl (readColon_colon _)
    (readList_list isBlanks_space 2 r.headers rest)
  have hpatterns (rest : List Char) := readPart_patterns (p := { headers := some r.headers }) rfl
    (readColon_colon _) (readTable_map isBlanks_space 2 r.patterns rest)
  have hmore (rest : List Char) := readParts_more (decode_encode "headers".toList _) (hheaders _)
    (nextInMap_comma (isBlanks_indent 2) rest)
  have hlast := readParts_last (decode_encode "patterns".toList _) (hpatterns _)
    (nextInMap_close (isBlanks_indent 0) ['\n'])
  rw [renderChars_eq]
  exact readAll_open (firstInMap_name (isBlanks_indent 2) _) ((hmore _).trans hlast)
    (by simp [IsBlanks, isBlank])

theorem read_render (r : Record) : read r.render = .ok r := by
  rw [read, render, String.toList_ofList, readAll_renderChars]
  rfl

/-- **A record is read back from its text**: the same headers in the same order, and the same
patterns, whatever characters they hold. -/
theorem parse_render (r : Record) : parse r.render = .ok r := by
  rw [parse, read_render]
  rfl

end FieldPattern.Record
