/-
# Lexemes of column definitions

What is written after the name of a column is cut into lexemes: blanks and remarks, words, texts
between quote marks, and single characters. Every character belongs to one lexeme, so that the texts
of the lexemes make up the whole text again.
-/
import DocTable.Text.Basic

namespace DocTable

/-- A lexeme of a column definition. -/
inductive Lexeme where
  /-- A blank or a remark. -/
  | blank (text : List Char)
  /-- A word. -/
  | word (text : List Char)
  /-- A text with the quote marks around it. -/
  | quoted (text : List Char)
  /-- Any other character. -/
  | mark (c : Char)

namespace Lexeme

/-- The characters of a lexeme. -/
def text : Lexeme → List Char
  | blank text => text
  | word text => text
  | quoted text => text
  | mark c => [c]

/-- Whether a lexeme is a blank or a remark. -/
def isBlank : Lexeme → Bool
  | blank _ => true
  | _ => false

/-- A word in capitals. -/
def capitals (word : List Char) : String := String.ofList (word.map Char.toUpper)

/-- Whether a lexeme is a given word, written in capitals or not. -/
def isWord (name : String) : Lexeme → Bool
  | word text => capitals text == name
  | _ => false

/-- Whether a character is a blank. -/
def isSpace (c : Char) : Bool := [' ', '\t', '\n', '\x0c', '\r'].contains c

/-- Whether a character can start a word: all characters outside ASCII can. -/
def startsWord (c : Char) : Bool := c.isAlpha || c == '_' || decide (0x80 ≤ c.toNat)

/-- Whether a character can stand inside a word. -/
def continuesWord (c : Char) : Bool := startsWord c || c.isDigit || c == '$'

/-- Whether a character can open a text between quote marks. -/
def isQuote (c : Char) : Bool := ['\x22', '\x27', '\x60', '['].contains c

/-- The mark that closes a text between quote marks. -/
def closing (quote : Char) : Char := if quote = '[' then ']' else quote

/-- The text up to the end of a remark. -/
def throughRemark : List Char → List Char
  | [] => []
  | '*' :: '/' :: _ => ['*', '/']
  | c :: rest => c :: throughRemark rest

/-- The text up to a quote mark that is not doubled. -/
def throughQuote (quote : Char) : List Char → List Char
  | [] => []
  | [c] => [c]
  | c :: d :: rest =>
    if c = quote then
      if d = quote then c :: d :: throughQuote quote rest else [c]
    else c :: throughQuote quote (d :: rest)

/-- The text up to a mark, which cannot be doubled. -/
def throughMark (mark : Char) (text : List Char) : List Char :=
  text.take ((text.takeWhile (· != mark)).length + 1)

/-- The first lexeme of a text, which starts with a given character. -/
def first (c : Char) (rest : List Char) : Lexeme :=
  if isSpace c then blank [c]
  else if c = '-' ∧ rest.head? = some '-' then blank (c :: rest.takeWhile (· != '\n'))
  else if c = '/' ∧ rest.head? = some '*' then blank (c :: '*' :: throughRemark (rest.drop 1))
  else if c = '[' then quoted (c :: throughMark (closing c) rest)
  else if isQuote c then quoted (c :: throughQuote c rest)
  else if startsWord c then word (c :: rest.takeWhile continuesWord)
  else mark c

/-- The lexemes of a text, at most `steps` of them. -/
def upTo : Nat → List Char → List Lexeme
  | 0, _ => []
  | _, [] => []
  | steps + 1, c :: rest =>
    let lexeme := first c rest
    lexeme :: upTo steps ((c :: rest).drop lexeme.text.length)

/-- The lexemes of a text. -/
def ofText (text : List Char) : List Lexeme := upTo text.length text

/-- The lexemes outside of parentheses, given in how many the text starts. -/
def outside : Nat → List Lexeme → List Lexeme
  | _, [] => []
  | depth, mark '(' :: rest => outside (depth + 1) rest
  | depth, mark ')' :: rest => outside (depth - 1) rest
  | 0, lexeme :: rest => lexeme :: outside 0 rest
  | depth + 1, _ :: rest => outside (depth + 1) rest

/-- The characters of lexemes, without the blanks at both ends. -/
def trimmedText (lexemes : List Lexeme) : List Char :=
  ((lexemes.dropWhile isBlank).reverse.dropWhile isBlank).reverse.flatMap text

end Lexeme
end DocTable
