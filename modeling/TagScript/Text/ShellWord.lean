/-!
# Shell words

* `ShellWord.quote` writes any text as one word of a POSIX shell.
* `ShellWord.join` writes a list of texts as one command line.
-/

namespace TagScript.Text.ShellWord

/-- A character with no meaning to the shell. -/
def isPlain (c : Char) : Bool :=
  c.isAlphanum || ['_', '@', '%', '+', '=', ':', ',', '.', '/', '-'].contains c

/-- A character inside single quotes; a single quote itself leaves them for a moment. -/
def quoteChar (c : Char) : List Char :=
  if c = '\x27' then ['\x27', '"', '\x27', '"', '\x27'] else [c]

/-- The characters of a text as one shell word. -/
def quoteChars (cs : List Char) : List Char :=
  if !cs.isEmpty && cs.all isPlain then cs
  else '\x27' :: (cs.flatMap quoteChar ++ ['\x27'])

/-- The text as one shell word. -/
def quote (s : String) : String := String.ofList (quoteChars s.toList)

/-- The texts as shell words with one space between them. -/
def join (words : List String) : String := " ".intercalate (words.map quote)

end TagScript.Text.ShellWord
