import TagScript.Reading
import TagScript.Recipe.Value

/-!
# Recipes

A recipe describes a parser.

* `Recipe` lists the parsers of the markup and the ways to put parsers together.
* `Recipe.parser` is the parser that a recipe describes, `Recipe.readable` its name.
* `Recipe.session` applies recipes one after another, each where the one before ended.
-/

namespace TagScript

/-- The parsers that `andThen` can make from a value. -/
inductive Continuation where
  /-- Reads the text that was read before. -/
  | literal
  /-- Gives the value back. -/
  | succeed
  /-- Reads the closing tag of the name that was read before. -/
  | closeTag
  /-- Reads the children and the closing tag of the name that was read before. -/
  | containerBody
deriving DecidableEq, Repr

/-- The description of a parser. -/
inductive Recipe where
  | anyChar
  | blank
  | blanks
  | someBlanks
  | name
  | quotedText
  | tagStart
  | selfClosingTag
  | openTag
  | containerTag
  | element
  | topLevelElement
  | endOfInput
  | literal (s : String)
  | closeTag (name : String)
  | succeed (v : Value)
  | fail (kind : Failure.Kind) (expected : Option String)
  | amidBlanks (p : Recipe)
  | pair (p q : Recipe)
  | left (p q : Recipe)
  | right (p q : Recipe)
  | either (p q : Recipe)
  | zeroOrMore (p : Recipe)
  | oneOrMore (p : Recipe)
  | map (p : Recipe) (f : Transform)
  | filter (p : Recipe) (test : Test) (expected : Option String)
  | andThen (p : Recipe) (next : Continuation)
  /-- Reads with `p`, then with `q`, and gives the value of `q`. -/
  | followedBy (p q : Recipe)
  | label (p : Recipe) (kind : Failure.Kind) (expected : Option String)

namespace Recipe

open TagScript.Parser

/-! ### The parser of a recipe -/

/-- A list of characters as a value. -/
def charList (cs : List Char) : Value := .list (cs.map Value.ofChar)

/-- The parser made from a value; the value has to be a text, except to be given back. -/
def continuation (limit : Nat) : Continuation → Value → Parser Value
  | .succeed, v => Parser.succeed v
  | .literal, .str s => (Parser.literal s).map Value.str
  | .closeTag, .str s => (Grammar.closeTag s).map Value.str
  | .containerBody, .str s =>
    (Grammar.containerBody (Grammar.element (limit - 1)) s).map Value.element
  | _, _ => abort .unsuited

/-- The parser that a recipe describes, with containers at most `limit` deep. -/
def parser (limit : Nat) : Recipe → Parser Value
  | anyChar => Parser.anyChar.map Value.ofChar
  | blank => Lexeme.blank.map Value.ofChar
  | blanks => Lexeme.blanks.map charList
  | someBlanks => Lexeme.someBlanks.map charList
  | name => Lexeme.name.map Value.str
  | quotedText => Lexeme.quotedText.map Value.str
  | tagStart => Grammar.tagStart.map fun (s, t) => .tuple [.str s, .str t]
  | selfClosingTag => Grammar.selfClosingTag.map Value.element
  | openTag => Grammar.openTag.map Value.str
  | containerTag => (Grammar.containerTag limit).map Value.element
  | element => (Grammar.element limit).map Value.element
  | topLevelElement => (Grammar.topLevelElement limit).map Value.element
  | endOfInput => Parser.endOfInput.map fun _ => Value.none
  | literal s => (Parser.literal s).map Value.str
  | closeTag s => (Grammar.closeTag s).map Value.str
  | succeed v => Parser.succeed v
  | fail kind expected => Parser.fail kind expected
  | amidBlanks p => Lexeme.amidBlanks (p.parser limit)
  | pair p q => (Parser.pair (p.parser limit) (q.parser limit)).map Value.ofPair
  | left p q => Parser.left (p.parser limit) (q.parser limit)
  | right p q => Parser.right (p.parser limit) (q.parser limit)
  | either p q => Parser.either (p.parser limit) (q.parser limit)
  | zeroOrMore p => (Parser.zeroOrMore (p.parser limit)).map Value.list
  | oneOrMore p => (Parser.oneOrMore (p.parser limit)).map Value.list
  | map p f => (p.parser limit).mapM f.apply
  | filter p test expected => (p.parser limit).filterM test.apply expected
  | andThen p next => (p.parser limit).andThen (continuation limit next)
  | followedBy p q => (p.parser limit).andThen fun _ => q.parser limit
  | label p kind expected => (p.parser limit).label kind expected

/-! ### Names -/

/-- The name of a sequence of two parsers. -/
def pairName (p q : String) : String := s!"pair({p}, {q})"

/-- The name of a literal. -/
def literalName (s : String) : String := s!"literal({Text.quoted s})"

/-- The name of the blank parser. -/
def blankName : String := "pred(any_char)"

/-- The name of the parser of blanks. -/
def blanksName : String := s!"zero_or_more({blankName})"

/-- The name of a parser of a name between two literals. -/
def tagName (opening closing : String) : String :=
  pairName (literalName opening) (pairName "identifier" (literalName closing))

/-- The name of the container parser. -/
def containerName : String := "and_then(" ++ tagName "<" ">" ++ ")"

/-- The name of the element parser. -/
def elementName : String := "either(" ++ tagName "<" "/>" ++ ", " ++ containerName ++ ")"

/-- The readable name of a recipe. -/
def readable : Recipe → String
  | anyChar => "any_char"
  | blank => blankName
  | blanks => blanksName
  | someBlanks => "whitespace"
  | name => "identifier"
  | quotedText =>
    pairName (literalName "\"") (pairName s!"zero_or_more({blankName})" (literalName "\""))
  | tagStart => pairName (literalName "<") "identifier"
  | selfClosingTag => tagName "<" "/>"
  | openTag => tagName "<" ">"
  | containerTag => containerName
  | element => elementName
  | topLevelElement => s!"and_then({elementName})"
  | endOfInput => "end_of_input"
  | literal s => literalName s
  | closeTag s => s!"close_tag({Text.quoted s})"
  | succeed v => s!"succeed({v.shown})"
  | fail kind _ => s!"fail({kind.word})"
  | amidBlanks p => pairName blanksName (pairName p.readable blanksName)
  | pair p q => pairName p.readable q.readable
  | left p q => pairName p.readable q.readable
  | right p q => pairName p.readable q.readable
  | either p q => s!"either({p.readable}, {q.readable})"
  | zeroOrMore p => s!"zero_or_more({p.readable})"
  | oneOrMore p => s!"one_or_more({p.readable})"
  | map p _ => p.readable
  | filter p _ _ => s!"pred({p.readable})"
  | andThen p _ => s!"and_then({p.readable})"
  | followedBy p _ => s!"and_then({p.readable})"
  | label p _ expected =>
    match expected with
    | some s => if s.isEmpty then p.readable else s
    | none => p.readable

/-- The recipe as messages show it. -/
def shown (r : Recipe) : String := s!"Parser({r.readable})"

/-! ### Running recipes -/

/-- Runs a recipe from a position. -/
def run (r : Recipe) (start : Position) : Except Fault (Outcome Value) :=
  r.parser Grammar.nestingLimit start

/-- Runs recipes one after another, each from the position the one before left. -/
def session : List Recipe → Position → Except Fault (List (Outcome Value))
  | [], _ => .ok []
  | r :: rs, start =>
    match r.run start with
    | .error fault => .error fault
    | .ok outcome => (session rs outcome.position).map (outcome :: ·)

end Recipe

end TagScript
