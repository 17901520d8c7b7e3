/-!
# Words of a shell

Commands in print, so that a shell reads them back as the words they are made of.
-/

namespace Crosscheck.Text

/-- Whether a character stands for itself in a word of a shell. -/
def isPlainInShell (c : Char) : Bool := c.isAlphanum || "_@%+=:,./-".toList.contains c

/-- A character between single quotes. A single quote itself stands between double ones. -/
def inSingleQuotes : Char → List Char
  | '\'' => "'\"'\"'".toList
  | c => [c]

/-- A word of a shell: as it is if all its characters are plain, else between single quotes. -/
def shellWord (s : String) : String :=
  if s != "" && s.toList.all isPlainInShell then s
  else String.ofList ('\'' :: s.toList.flatMap inSingleQuotes ++ ['\''])

/-- Words as one line for a shell. -/
def shellLine (words : List String) : String := " ".intercalate (words.map shellWord)

end Crosscheck.Text
