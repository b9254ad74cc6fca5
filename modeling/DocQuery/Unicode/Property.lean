import DocQuery.Unicode.Age
import DocQuery.Unicode.Emoji
import DocQuery.Unicode.Identifier
import DocQuery.Unicode.Script
import DocQuery.Unicode.Segment

/-! # Properties by name

The sets of characters that properties describe. Names are given in small letters, without
spaces, hyphens and underscores; most have a long and a short form.

* `feature?` — properties that characters have or have not.
* `category?` — general categories.
* `property?` — any of these, or a script.
* `propertyValue?` — a property with a value.
-/

namespace DocQuery.Unicode

/-- The characters with a property that characters have or have not. -/
def feature? (name : String) : Option Ranges :=
  match name with
  | "alphabetic" | "alpha" => some alphabetic
  | "otheralphabetic" | "oalpha" => some otherAlphabetic
  | "lowercase" | "lower" => some lowercase
  | "otherlowercase" | "olower" => some otherLowercase
  | "uppercase" | "upper" => some uppercase
  | "otheruppercase" | "oupper" => some otherUppercase
  | "cased" => some cased
  | "caseignorable" | "ci" => some caseIgnorable
  | "changeswhenlowercased" | "cwl" => some changesLowercased
  | "changeswhenuppercased" | "cwu" => some changesUppercased
  | "changeswhentitlecased" | "cwt" => some changesTitlecased
  | "changeswhencasefolded" | "cwcf" => some changesCasefolded
  | "changeswhencasemapped" | "cwcm" => some changesCasemapped
  | "idstart" | "ids" => some idStart
  | "idcontinue" | "idc" => some idContinue
  | "xidstart" | "xids" => some xidStart
  | "xidcontinue" | "xidc" => some xidContinue
  | "otheridstart" | "oids" => some otherIdStart
  | "otheridcontinue" | "oidc" => some otherIdContinue
  | "idcompatmathstart" => some idCompatMathStart
  | "idcompatmathcontinue" => some idCompatMathContinue
  | "patternsyntax" | "patsyn" => some patternSyntax
  | "patternwhitespace" | "patws" => some patternWhiteSpace
  | "emoji" => some emoji
  | "emojipresentation" | "epres" => some emojiPresentation
  | "emojimodifier" | "emod" => some emojiModifier
  | "emojimodifierbase" | "ebase" => some emojiModifierBase
  | "emojicomponent" | "ecomp" => some emojiComponent
  | "extendedpictographic" | "extpict" => some extendedPictographic
  | "asciihexdigit" | "ahex" => some asciiHexDigit
  | "hexdigit" | "hex" => some hexDigit
  | "whitespace" | "wspace" | "space" => some whiteSpace
  | "dash" => some dash
  | "hyphen" => some hyphen
  | "quotationmark" | "qmark" => some quotationMark
  | "sentenceterminal" | "sterm" => some sentenceTerminal
  | "terminalpunctuation" | "term" => some terminalPunctuation
  | "diacritic" | "dia" => some diacritic
  | "extender" | "ext" => some extender
  | "softdotted" | "sd" => some softDotted
  | "modifiercombiningmark" | "mcm" => some modifierCombiningMark
  | "math" => some math
  | "othermath" | "omath" => some otherMath
  | "ideographic" | "ideo" => some ideographic
  | "unifiedideograph" | "uideo" => some unifiedIdeograph
  | "radical" => some radical
  | "idsunaryoperator" | "idsu" => some idsUnaryOperator
  | "idsbinaryoperator" | "idsb" => some idsBinaryOperator
  | "idstrinaryoperator" | "idst" => some idsTrinaryOperator
  | "bidicontrol" | "bidic" => some bidiControl
  | "bidimirrored" | "bidim" => some bidiMirrored
  | "joincontrol" | "joinc" => some joinControl
  | "variationselector" | "vs" => some variationSelector
  | "prependedconcatenationmark" | "pcm" => some prependedConcatenationMark
  | "regionalindicator" | "ri" => some regionalIndicator
  | "logicalorderexception" | "loe" => some logicalOrderException
  | "deprecated" | "dep" => some deprecated
  | "noncharactercodepoint" | "nchar" => some noncharacter
  | "defaultignorablecodepoint" | "di" => some defaultIgnorable
  | "otherdefaultignorablecodepoint" | "odi" => some otherDefaultIgnorable
  | "graphemebase" | "grbase" => some graphemeBase
  | "graphemeextend" | "grext" => some graphemeExtend
  | "othergraphemeextend" | "ogrext" => some otherGraphemeExtend
  | "graphemelink" | "grlink" => some graphemeLink
  | _ => none

/-- The characters of a general category, or of one of three sets named beside them. -/
def category? (name : String) : Option Ranges :=
  match name with
  | "any" => some Ranges.full
  | "assigned" => some (Category.ranges .unassigned).complement
  | "ascii" => some [(0, 0x7f)]
  | _ => (categories? name).map Category.union

def script? (name : String) : Option Ranges := (Script.ofName? name).map (·.ranges)

def property? (name : String) : Option Ranges :=
  feature? name <|> category? name <|> script? name

def propertyValue? (property value : String) : Option Ranges :=
  match property with
  | "generalcategory" | "gc" => category? value
  | "script" | "sc" => script? value
  | "scriptextensions" | "scx" => (Script.ofName? value).map (·.extended)
  | "age" => assignedBy? value
  | "graphemeclusterbreak" | "gcb" => clusterBreak? value
  | "wordbreak" | "wb" => wordBreak? value
  | "sentencebreak" | "sb" => sentenceBreak? value
  | _ => none

end DocQuery.Unicode
