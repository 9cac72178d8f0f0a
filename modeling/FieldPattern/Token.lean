/-! # Tokens

A pattern is edited token by token.  A token belongs to one of six kinds:

* `literal`, a run of plain characters, `abc`;
* `escape`, a backslash and the character after it, `\d`;
* `characterClass`, a bracketed set, `[a-z]`;
* `quantifier`, a counted repetition `{m}` or `{m,n}`, or a lone `*`, `+` or `?`;
* `alternation`, a group in parentheses, `(a|b)`;
* `anyChar`, the wildcard `.`.

`value` is the text that the token contributes to the pattern, `display` the text that is shown
for it.  `negated` marks the escapes `\D`, `\W` and `\S`, which stand for the complement of a
class; no token of another kind carries the mark.  `Token.ofText` makes the token whose two
texts agree and whose mark is read off the text.

Two operations change a token: `addSuffix` appends a character to both texts and leaves the mark
as it is, and `setText` replaces both texts, upon which an escape reads its mark off the new
text. -/

namespace FieldPattern

/-- The six kinds of tokens. -/
inductive Kind where
  | literal
  | escape
  | characterClass
  | quantifier
  | alternation
  | anyChar
deriving DecidableEq, Repr

namespace Kind

/-- All kinds, in the order in which they are listed to the reader. -/
def all : List Kind := [literal, escape, characterClass, quantifier, alternation, anyChar]

/-- The name of a kind. -/
def name : Kind → String
  | literal => "literal"
  | escape => "escape"
  | characterClass => "character-class"
  | quantifier => "quantifier"
  | alternation => "alternation"
  | anyChar => "any-char"

/-- The kind with exactly this name. -/
def ofName? (text : String) : Option Kind := all.find? fun k => k.name == text

/-- Whether a `*`, `+` or `?` right after a token of this kind belongs to the token. -/
def takesSuffix (k : Kind) : Bool := k != quantifier

theorem takesSuffix_iff {k : Kind} : k.takesSuffix = true ↔ k ≠ quantifier := by
  simp [takesSuffix]

theorem ofName?_name (k : Kind) : ofName? k.name = some k := by cases k <;> rfl

/-- What is said of a text that names no kind. -/
def unknownMessage (text : String) : String :=
  "unknown token kind '" ++ text ++ "' (expected one of: "
    ++ ", ".intercalate (all.map name) ++ ")"

end Kind

/-- The symbols `*`, `+` and `?`. -/
def isSuffix (c : Char) : Bool := c == '*' || c == '+' || c == '?'

/-- Whether `text` is a backslash followed by `D`, `W` or `S`, whatever comes after. -/
def negates : List Char → Bool
  | '\\' :: letter :: _ => letter == 'D' || letter == 'W' || letter == 'S'
  | _ => false

/-- A token of a pattern. -/
structure Token where
  kind : Kind
  /-- The text that the token contributes to the pattern. -/
  value : String
  /-- The text that is shown for the token. -/
  display : String
  /-- Whether the token stands for the complement of a class. -/
  negated : Bool
  kind_of_negated : negated = true → kind = .escape
deriving DecidableEq, Repr

namespace Token

/-- The token of kind `k` whose value and display are `text`. -/
def ofText (k : Kind) (text : String) : Token where
  kind := k
  value := text
  display := text
  negated := k == .escape && negates text.toList
  kind_of_negated := by simp +contextual

/-- An escape with the texts and the mark given. -/
def escape (value display : String) (negated : Bool) : Token :=
  ⟨.escape, value, display, negated, fun _ => rfl⟩

/-- A token without a mark, with the texts given. -/
def unmarked (k : Kind) (value display : String) : Token :=
  ⟨k, value, display, false, by simp⟩

/-- Append `symbol` to both texts; the mark stays. -/
def addSuffix (t : Token) (symbol : Char) : Token :=
  { t with value := t.value.push symbol, display := t.display.push symbol }

/-- Replace both texts; an escape reads its mark off the new one. -/
def setText (t : Token) (text : String) : Token where
  kind := t.kind
  value := text
  display := text
  negated := if t.kind = .escape then negates text.toList else t.negated
  kind_of_negated := by
    split
    · exact fun _ => by assumption
    · exact t.kind_of_negated

@[simp] theorem kind_ofText (k : Kind) (s : String) : (ofText k s).kind = k := rfl

@[simp] theorem value_ofText (k : Kind) (s : String) : (ofText k s).value = s := rfl

@[simp] theorem display_ofText (k : Kind) (s : String) : (ofText k s).display = s := rfl

theorem negated_ofText (k : Kind) (s : String) :
    (ofText k s).negated = (k == .escape && negates s.toList) := rfl

@[simp] theorem kind_addSuffix (t : Token) (c : Char) : (t.addSuffix c).kind = t.kind := rfl

@[simp] theorem value_addSuffix (t : Token) (c : Char) :
    (t.addSuffix c).value = t.value.push c := rfl

/-- A token with a new text is the token made from that text. -/
theorem setText_eq (t : Token) (s : String) : t.setText s = ofText t.kind s := by
  obtain ⟨k, value, display, negated, h⟩ := t
  by_cases hk : k = .escape
  · subst hk
    simp [setText, ofText]
  · have hn : negated = false := by
      cases negated with
      | false => rfl
      | true => exact absurd (h rfl) hk
    simp [setText, ofText, hk, hn]

end Token

end FieldPattern
