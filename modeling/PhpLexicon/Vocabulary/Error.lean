import PhpLexicon.CharSet.Printable
import PhpLexicon.Kind.Tag

/-!
# Faults of a vocabulary

The two ways in which a list of entries fails to be a vocabulary, with the wording in which they are
reported.  A message quotes the spelling, so that it stays one printable line: the spelling stands
between double quotes, and what could end it early or could not be seen is written as an escape that
begins with a backslash.  A tip shows the spelling raw, so that it can be searched for.
-/

namespace PhpLexicon

/-! ## Quoted text -/

/-- One character as it stands between the quotes.  A double quote and a backslash get a backslash
in front, four control characters have a letter or digit of their own, and every other character
that is not printable is written as its code point in lower-case hexadecimal between braces. -/
def escapeChar (char : Char) : List Char :=
  match char with
  | '\"' => ['\\', '\"']
  | '\\' => ['\\', '\\']
  | '\t' => ['\\', 't']
  | '\n' => ['\\', 'n']
  | '\r' => ['\\', 'r']
  | '\x00' => ['\\', '0']
  | _ =>
      if isPrintable char then [char]
      else ['\\', 'u', '\x7b'] ++ Nat.toDigits 16 char.toNat ++ ['\x7d']

/-- The text between double quotes, each character in its escaped form. -/
def quote (text : String) : String :=
  String.ofList (['\"'] ++ text.toList.flatMap escapeChar ++ ['\"'])

/-! ## Faults -/

/-- Why an entry cannot be registered. -/
inductive VocabularyError where
  /-- The entry has the empty spelling. -/
  | emptySpelling (kind : Kind)
  /-- An earlier entry has the same spelling.  The kind of the earlier entry comes first. -/
  | duplicateSpelling (spelling : String) (first second : Kind)
  deriving DecidableEq

namespace VocabularyError

/-- The name of the fault. -/
def name : VocabularyError → String
  | .emptySpelling _ => "EmptySpelling"
  | .duplicateSpelling _ _ _ => "DuplicateSpelling"

/-- The fault as one printable line. -/
def message : VocabularyError → String
  | .emptySpelling kind => "empty spelling registered for " ++ kind.tag
  | .duplicateSpelling spelling first second =>
      "spelling " ++ quote spelling ++ " registered for both " ++ first.tag ++ " and " ++ second.tag

/-- What to do about the fault. -/
def tip : VocabularyError → String
  | .emptySpelling kind => "Remove the empty entry for `" ++ kind.tag ++ "`"
  | .duplicateSpelling spelling first _ =>
      "`" ++ spelling ++ "` is already registered for `" ++ first.tag ++
        "`, a spelling may map to one kind only"

end VocabularyError

end PhpLexicon
