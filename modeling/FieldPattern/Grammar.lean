import FieldPattern.Token
import FieldPattern.Text.Quoted

/-! # What an edited value may look like

Three kinds of tokens have a grammar that a value typed by hand has to follow:

* character classes: `[`, an optional `^`, one or more letters, digits, `_` or `-`, then `]`;
* quantifiers: one of `*`, `+` and `?`, or `{m}` or `{m,n}` with one or more digits each;
* alternations: parentheses around two or more alternatives with a `|` between them, and no
  further parenthesis inside.

Letters and digits are those of ASCII.  The value has to follow the grammar from its first
character to its last.  The alternatives of an alternation are told apart by one `|` that has
something on both sides; a further `|` beside it is taken as part of an alternative.

The other three kinds accept any text. -/

namespace FieldPattern

/-- The kinds of tokens whose values follow a grammar. -/
inductive Grammar where
  | characterClass
  | quantifier
  | alternation
deriving DecidableEq, Repr

namespace Grammar

/-- The kind of token that the grammar is for. -/
def kind : Grammar → Kind
  | characterClass => .characterClass
  | quantifier => .quantifier
  | alternation => .alternation

/-- The grammar for a kind of token, if it has one. -/
def ofKind? : Kind → Option Grammar
  | .characterClass => some characterClass
  | .quantifier => some quantifier
  | .alternation => some alternation
  | .escape | .literal | .anyChar => none

/-- The grammar in the words that are shown to the reader. -/
def form : Grammar → String
  | characterClass => "[chars] or [^chars] using letters, digits, '_' or '-'"
  | quantifier => "\x7bm\x7d, \x7bm,n\x7d, *, + or ?"
  | alternation => "(a|b) with at least two alternatives"

/-- Characters with the property `p`, up to the `close` that ends the text. -/
def closes (p : Char → Bool) (close : Char) : List Char → Bool
  | [] => false
  | [c] => c == close
  | c :: rest => p c && closes p close rest

/-- At least one character with the property `p`, and more up to the `close` that ends the
text. -/
def closesSome (p : Char → Bool) (close : Char) : List Char → Bool
  | [] => false
  | c :: rest => p c && closes p close rest

/-! ### Character classes -/

/-- Whether `c` may be a member of a character class. -/
def isMember (c : Char) : Bool := c.isAlphanum || c == '_' || c == '-'

/-- Whether a text is a character class. -/
def isCharacterClass : List Char → Bool
  | '[' :: '^' :: rest => closesSome isMember ']' rest
  | '[' :: rest => closesSome isMember ']' rest
  | _ => false

/-! ### Quantifiers -/

/-- Digits up to the `}` that ends the text, or up to a `,` and a second number. -/
def boundCloses : List Char → Bool
  | [] => false
  | [c] => c == '}'
  | ',' :: rest => closesSome Char.isDigit '}' rest
  | c :: rest => c.isDigit && boundCloses rest

/-- Whether a text is a quantifier. -/
def isQuantifier : List Char → Bool
  | [c] => isSuffix c
  | '{' :: c :: rest => c.isDigit && boundCloses rest
  | _ => false

/-! ### Alternations -/

/-- Whether `c` is no parenthesis. -/
def isInner (c : Char) : Bool := c != '(' && c != ')'

/-- A `|`, something after it, and the end of the group; other characters may come first. -/
def barCloses : List Char → Bool
  | [] => false
  | '|' :: rest => closesSome isInner ')' rest
  | c :: rest => isInner c && barCloses rest

/-- Whether a text is an alternation. -/
def isAlternation : List Char → Bool
  | '(' :: c :: rest => isInner c && barCloses rest
  | _ => false

/-- Whether `value` follows the grammar. -/
def accepts (g : Grammar) (value : String) : Bool :=
  match g with
  | characterClass => isCharacterClass value.toList
  | quantifier => isQuantifier value.toList
  | alternation => isAlternation value.toList

end Grammar

/-- A value that does not follow the grammar of its token's kind. -/
structure Misfit where
  grammar : Grammar
  value : String
deriving DecidableEq, Repr

namespace Misfit

/-- The misfit in words. -/
def message (m : Misfit) : String :=
  "invalid " ++ m.grammar.kind.name ++ " format: " ++ Text.quoted m.value
    ++ " (expected " ++ m.grammar.form ++ ")"

end Misfit

/-- Check a value for a token of kind `k`. -/
def Kind.check (k : Kind) (value : String) : Except Misfit Unit :=
  match Grammar.ofKind? k with
  | none => .ok ()
  | some g => if g.accepts value then .ok () else .error ⟨g, value⟩

end FieldPattern
