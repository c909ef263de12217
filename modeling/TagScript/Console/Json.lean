import TagScript.Command

/-!
# Commands as JSON

* `jsonText` is a text as a JSON string of ASCII characters.
* `jsonCommands` is a list of commands, indented by two blanks a level.
-/

namespace TagScript.Console

/-- A UTF-16 unit as an escape. -/
def jsonUnit (n : Nat) : List Char := '\\' :: 'u' :: Text.hexDigits 4 n

/-- A character of a JSON string; those beyond 16 bits are two units. -/
def jsonChar (c : Char) : List Char :=
  let n := c.toNat
  if c = '"' || c = '\\' then ['\\', c]
  else if c = '\n' then ['\\', 'n']
  else if c = '\r' then ['\\', 'r']
  else if c = '\t' then ['\\', 't']
  else if n = 8 then ['\\', 'b']
  else if n = 12 then ['\\', 'f']
  else if 0x20 ≤ n && n < 0x7f then [c]
  else if n < 0x10000 then jsonUnit n
  else jsonUnit (0xd800 + (n - 0x10000) / 0x400) ++ jsonUnit (0xdc00 + (n - 0x10000) % 0x400)

/-- A text as a JSON string. -/
def jsonText (s : String) : String := String.ofList ('"' :: (s.toList.flatMap jsonChar ++ ['"']))

/-- Items on lines of their own between brackets, the items indented by the given text. -/
def jsonBlock (opening closing indentation : String) (items : List String) : String :=
  if items.isEmpty then opening ++ closing
  else
    let inner := "\n" ++ indentation ++ "  "
    opening ++ inner ++ ("," ++ inner).intercalate items ++ "\n" ++ indentation ++ closing

/-- A command as a JSON object. -/
def jsonCommand (c : Command) : String :=
  jsonBlock "\x7b" "\x7d" "  "
    ["\"program_name\": " ++ jsonText c.program.text,
     "\"args\": " ++ jsonBlock "[" "]" "    " (c.args.map jsonText)]

/-- Commands as a JSON array. -/
def jsonCommands (cs : List Command) : String := jsonBlock "[" "]" "" (cs.map jsonCommand)

end TagScript.Console
