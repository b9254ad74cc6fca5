import DocQuery.Unicode.Letter
import DocQuery.Unicode.Mark
import DocQuery.Unicode.Signs

/-! # General categories

Every character has one general category.

* `Category` — the categories, and `Category.ranges`, their characters.
* `Category.letters`, `Category.marks`, … — groups of categories.
* `categories?` — the categories of a name.
-/

namespace DocQuery.Unicode

/-- The general categories of characters. -/
inductive Category
  | uppercaseLetter
  | lowercaseLetter
  | titlecaseLetter
  | modifierLetter
  | otherLetter
  | nonspacingMark
  | spacingMark
  | enclosingMark
  | decimalNumber
  | letterNumber
  | otherNumber
  | connectorPunctuation
  | dashPunctuation
  | openPunctuation
  | closePunctuation
  | initialPunctuation
  | finalPunctuation
  | otherPunctuation
  | mathSymbol
  | currencySymbol
  | modifierSymbol
  | otherSymbol
  | spaceSeparator
  | lineSeparator
  | paragraphSeparator
  | control
  | format
  | privateUse
  | unassigned
  deriving DecidableEq

namespace Category

/-! ## Groups of categories -/

def casedLetters : List Category := [.uppercaseLetter, .lowercaseLetter, .titlecaseLetter]

def letters : List Category := casedLetters ++ [.modifierLetter, .otherLetter]

def marks : List Category := [.nonspacingMark, .spacingMark, .enclosingMark]

def numbers : List Category := [.decimalNumber, .letterNumber, .otherNumber]

def punctuation : List Category :=
  [.connectorPunctuation, .dashPunctuation, .openPunctuation, .closePunctuation,
    .initialPunctuation, .finalPunctuation, .otherPunctuation]

def symbols : List Category := [.mathSymbol, .currencySymbol, .modifierSymbol, .otherSymbol]

def separators : List Category := [.spaceSeparator, .lineSeparator, .paragraphSeparator]

/-- The characters that have no shape and separate nothing, and the code points without one. -/
def others : List Category := [.control, .format, .privateUse, .unassigned]

/-! ## Characters of categories -/

def unassignedRanges : Ranges :=
  Ranges.complement <|
    uppercaseLetters ++ lowercaseLetters ++ titlecaseLetters ++ modifierLetters ++ otherLetters ++
      nonspacingMarks ++ spacingMarks ++ enclosingMarks ++
      decimalNumbers ++ letterNumbers ++ otherNumbers ++
      connectors ++ dashes ++ openBrackets ++ closeBrackets ++
      initialQuotes ++ finalQuotes ++ otherSigns ++
      mathSymbols ++ currencySymbols ++ modifierSymbols ++ otherSymbols ++
      spaceSeparators ++ lineSeparators ++ paragraphSeparators ++
      controls ++ formats ++ privateCodes ++ [(0xd800, 0xdfff)]

def ranges : Category → Ranges
  | .uppercaseLetter => uppercaseLetters
  | .lowercaseLetter => lowercaseLetters
  | .titlecaseLetter => titlecaseLetters
  | .modifierLetter => modifierLetters
  | .otherLetter => otherLetters
  | .nonspacingMark => nonspacingMarks
  | .spacingMark => spacingMarks
  | .enclosingMark => enclosingMarks
  | .decimalNumber => decimalNumbers
  | .letterNumber => letterNumbers
  | .otherNumber => otherNumbers
  | .connectorPunctuation => connectors
  | .dashPunctuation => dashes
  | .openPunctuation => openBrackets
  | .closePunctuation => closeBrackets
  | .initialPunctuation => initialQuotes
  | .finalPunctuation => finalQuotes
  | .otherPunctuation => otherSigns
  | .mathSymbol => mathSymbols
  | .currencySymbol => currencySymbols
  | .modifierSymbol => modifierSymbols
  | .otherSymbol => otherSymbols
  | .spaceSeparator => spaceSeparators
  | .lineSeparator => lineSeparators
  | .paragraphSeparator => paragraphSeparators
  | .control => controls
  | .format => formats
  | .privateUse => privateCodes
  | .unassigned => unassignedRanges

def union (categories : List Category) : Ranges := categories.flatMap ranges

end Category

def categories? (name : String) : Option (List Category) :=
  match name with
  | "letter" | "l" => some Category.letters
  | "casedletter" | "lc" => some Category.casedLetters
  | "uppercaseletter" | "lu" => some [.uppercaseLetter]
  | "lowercaseletter" | "ll" => some [.lowercaseLetter]
  | "titlecaseletter" | "lt" => some [.titlecaseLetter]
  | "modifierletter" | "lm" => some [.modifierLetter]
  | "otherletter" | "lo" => some [.otherLetter]
  | "mark" | "m" | "combiningmark" => some Category.marks
  | "nonspacingmark" | "mn" => some [.nonspacingMark]
  | "spacingmark" | "mc" => some [.spacingMark]
  | "enclosingmark" | "me" => some [.enclosingMark]
  | "number" | "n" => some Category.numbers
  | "decimalnumber" | "nd" | "digit" => some [.decimalNumber]
  | "letternumber" | "nl" => some [.letterNumber]
  | "othernumber" | "no" => some [.otherNumber]
  | "punctuation" | "p" | "punct" => some Category.punctuation
  | "connectorpunctuation" | "pc" => some [.connectorPunctuation]
  | "dashpunctuation" | "pd" => some [.dashPunctuation]
  | "openpunctuation" | "ps" => some [.openPunctuation]
  | "closepunctuation" | "pe" => some [.closePunctuation]
  | "initialpunctuation" | "pi" => some [.initialPunctuation]
  | "finalpunctuation" | "pf" => some [.finalPunctuation]
  | "otherpunctuation" | "po" => some [.otherPunctuation]
  | "symbol" | "s" => some Category.symbols
  | "mathsymbol" | "sm" => some [.mathSymbol]
  | "currencysymbol" | "sc" => some [.currencySymbol]
  | "modifiersymbol" | "sk" => some [.modifierSymbol]
  | "othersymbol" | "so" => some [.otherSymbol]
  | "separator" | "z" => some Category.separators
  | "spaceseparator" | "zs" => some [.spaceSeparator]
  | "lineseparator" | "zl" => some [.lineSeparator]
  | "paragraphseparator" | "zp" => some [.paragraphSeparator]
  | "other" | "c" => some Category.others
  | "control" | "cc" | "cntrl" => some [.control]
  | "format" | "cf" => some [.format]
  | "privateuse" | "co" => some [.privateUse]
  | "unassigned" | "cn" => some [.unassigned]
  | _ => none

end DocQuery.Unicode
