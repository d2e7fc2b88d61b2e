/-
# Letter case

The full lower-case map of Unicode, with the two rules that are not letter by letter: the dotted
capital I becomes two characters, and a capital sigma at the end of a word becomes the final sigma.
-/
import DocTable.Text.Class
import DocTable.Text.CaseTable

namespace DocTable
namespace Text

/-- The letter `n` lies in a run when it is reached from the first letter in whole steps. -/
def CaseRun.holds (run : CaseRun) (n : Nat) : Bool :=
  decide (run.first ≤ n) && decide (n ≤ run.last) && (n - run.first) % run.step == 0

/-- The lower case of one character, apart from its neighbours. -/
def lowerChar (c : Char) : List Char :=
  if c = 'İ' then ['i', '\u0307']
  else
    match lowerRuns.find? fun run => run.holds c.toNat with
    | some run => [Char.ofNat (c.toNat + run.shift).toNat]
    | none => [c]

/-- Whether the first character that case rules look at is a cased letter. -/
def startsCased (text : List Char) : Bool :=
  match text.dropWhile isCaseIgnorable with
  | [] => false
  | c :: _ => isCased c

/-- A capital sigma is final when a cased letter comes before it and none after it. -/
def sigmaIsFinal (before after : List Char) : Bool :=
  startsCased before && !startsCased after

/-- The lower case of `text` when the characters `before`, nearest first, precede it. -/
def lowerAfter (before : List Char) : List Char → List Char
  | [] => []
  | c :: rest =>
    (if c = 'Σ' then [if sigmaIsFinal before rest then 'ς' else 'σ'] else lowerChar c)
      ++ lowerAfter (c :: before) rest

/-- The lower case of a text. -/
def lower (text : String) : String := String.ofList (lowerAfter [] text.toList)

/-- Letters outside ASCII whose upper case lies in ASCII. -/
def asciiCapitals : List (Char × String) :=
  [('ı', "I"), ('ſ', "S"), ('ß', "SS"), ('ﬀ', "FF"), ('ﬁ', "FI"), ('ﬂ', "FL"), ('ﬃ', "FFI"),
   ('ﬄ', "FFL"), ('ﬅ', "ST"), ('ﬆ', "ST")]

/-- The upper case of a word that is compared with ASCII words only: a letter whose upper case
lies outside ASCII stands for itself. -/
def asciiUpper (text : String) : String :=
  String.join (text.toList.map fun c => (asciiCapitals.lookup c).getD (String.singleton c.toUpper))

/-- ASCII letters folded to lower case and all else kept. -/
def asciiLower (text : String) : String := String.ofList (text.toList.map Char.toLower)

end Text
end DocTable
