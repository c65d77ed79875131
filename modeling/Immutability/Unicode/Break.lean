import Immutability.Unicode.Binary
import Immutability.Unicode.Script

/-!
# Where texts may be divided

Three properties say which part a character plays where a text is divided into clusters, words and
sentences. Only values that some character has are named.
-/

set_option autoImplicit false

namespace Immutability.Unicode

/-- Marks that enclose digits behind them. -/
def digitMarks : CharSet := prependedConcatenationMark.diff (.range 0x70f 0x70f)

/-- Invisible characters that neither join nor extend. -/
def plainFormat : CharSet :=
  (Category.chars .format).diff (.unions [graphemeExtend, joinControl, digitMarks])

/-! ### Clusters -/

/-- Syllables of a leading consonant and a vowel. -/
def hangulLV : CharSet := .ofTable "ac00-d788/1c"

/-- The characters with this value of the property Grapheme_Cluster_Break, in its loose form. -/
def clusterBreak? : String → Option CharSet
  | "cr" => some (.range 0xd 0xd)
  | "lf" => some (.range 0xa 0xa)
  | "cn" | "control" =>
    some ((CharSet.unions [Category.charsOf [.lineSeparator, .paragraphSeparator, .control, .format],
        unassigned.inter defaultIgnorable]).diff
      (.unions [.range 0xa 0xa, .range 0xd 0xd, graphemeExtend, joinControl, prependedConcatenationMark]))
  | "ex" | "extend" => some (graphemeExtend.union emojiModifier)
  | "zwj" => some (.range 0x200d 0x200d)
  | "ri" | "regionalindicator" => some regionalIndicator
  | "pp" | "prepend" =>
    some (prependedConcatenationMark.union
      (.ofTable "d4e 111c2-111c3 113d1 1193f 11941 11a3a 11a84-11a89 11d46 11f02"))
  | "sm" | "spacingmark" =>
    some (((Category.chars .spacingMark).diff (.unions [graphemeExtend, .ofTable
      "102b-102c 1038 1062-1064 1067-106d 1083 1087-108c 108f 109a-109c 1a61 1a63-1a64 aa7b aa7d
      11720-11721"])).union (.ofTable "e33 eb3"))
  | "l" => some (.ofTable "1100-115f a960-a97c")
  | "v" => some (.ofTable "1160-11a7 d7b0-d7c6 16d63 16d67-16d6a")
  | "t" => some (.ofTable "11a8-11ff d7cb-d7fb")
  | "lv" => some hangulLV
  | "lvt" => some ((CharSet.range 0xac00 0xd7a3).diff hangulLV)
  | _ => none

/-! ### Words -/

def wordExtend : CharSet :=
  .unions [graphemeExtend, Category.chars .spacingMark, emojiModifier]

/-- The letters of the Katakana script, and what is used with them. -/
def katakana : CharSet :=
  ((script? "kana").getD .empty).union (.ofTable "3031-3035 309b-309c 30a0 30fc ff70")

def hebrewLetter : CharSet := (Category.chars .otherLetter).inter ((script? "hebr").getD .empty)

/-- The characters of scripts that put no blanks between words. -/
def unspacedScripts : CharSet :=
  .unions (["ahom", "hira", "khmr", "lana", "laoo", "mymr", "tale", "talu", "tavt", "thai"].filterMap
    script?)

def wordNumeric : CharSet := .unions [digit, digitMarks, .ofTable "66b 19da"]

/-- The characters with this value of the property Word_Break, in its loose form. -/
def wordBreak? : String → Option CharSet
  | "cr" => some (.range 0xd 0xd)
  | "lf" => some (.range 0xa 0xa)
  | "nl" | "newline" => some (.ofTable "b-c 85 2028-2029")
  | "extend" => some wordExtend
  | "zwj" => some (.range 0x200d 0x200d)
  | "ri" | "regionalindicator" => some regionalIndicator
  | "fo" | "format" => some (plainFormat.diff (.ofTable "70f 200b"))
  | "ka" | "katakana" => some katakana
  | "hl" | "hebrewletter" => some hebrewLetter
  | "le" | "aletter" =>
    some ((alphabetic.diff (.unions [ideographic, katakana, hebrewLetter, wordExtend,
      unspacedScripts])).union (.ofTable
        "2c2-2c5 2d2-2d7 2de-2df 2e5-2eb 2ed 2ef-2ff 55a-55c 55e 58a 5f3 70f a708-a716 a720-a721
        a789-a78a ab5b"))
  | "sq" | "singlequote" => some (.range 0x27 0x27)
  | "dq" | "doublequote" => some (.range 0x22 0x22)
  | "mb" | "midnumlet" => some (.ofTable "2e 2018-2019 2024 fe52 ff07 ff0e")
  | "ml" | "midletter" => some (.ofTable "3a b7 387 55f 5f4 2027 fe13 fe55 ff1a")
  | "mn" | "midnum" => some (.ofTable "2c 3b 37e 589 60c-60d 66c 7f8 2044 fe50 fe54 ff0c ff1b")
  | "nu" | "numeric" => some wordNumeric
  | "ex" | "extendnumlet" => some (.ofTable "5f 202f 203f-2040 2054 fe33-fe34 fe4d-fe4f ff3f")
  | "wsegspace" => some (.ofTable "20 1680 2000-2006 2008-200a 205f 3000")
  | _ => none

/-! ### Sentences -/

def sentenceExtend : CharSet :=
  .unions [graphemeExtend, Category.chars .spacingMark, .range 0x200d 0x200d]

/-- Lower case letters that begin no sentence. -/
def sentenceLower : CharSet :=
  lowercase.diff (.unions [wordExtend, .ofTable "10d0-10fa 10fd-10ff"])

/-- Upper case letters that may begin a sentence. -/
def sentenceUpper : CharSet :=
  (uppercase.union (Category.chars .titlecaseLetter)).diff (.ofTable "1c90-1cba 1cbd-1cbf")

/-- Full stops that may also end an abbreviation. -/
def fullStop : CharSet := .ofTable "2e 2024 fe52 ff0e"

/-- The characters with this value of the property Sentence_Break, in its loose form. -/
def sentenceBreak? : String → Option CharSet
  | "cr" => some (.range 0xd 0xd)
  | "lf" => some (.range 0xa 0xa)
  | "ex" | "extend" => some sentenceExtend
  | "se" | "sep" => some (.ofTable "85 2028-2029")
  | "fo" | "format" => some plainFormat
  | "sp" => some (.ofTable "9 b-c 20 a0 1680 2000-200a 202f 205f 3000")
  | "lo" | "lower" => some sentenceLower
  | "up" | "upper" => some sentenceUpper
  | "le" | "oletter" =>
    some ((alphabetic.diff (.unions [sentenceLower, sentenceUpper, sentenceExtend])).union
      (.range 0x5f3 0x5f3))
  | "nu" | "numeric" => some (wordNumeric.union (.range 0x66c 0x66c))
  | "at" | "aterm" => some fullStop
  | "sc" | "scontinue" =>
    some (.ofTable "2c-2d 3a-3b 37e 55d 60c-60d 7f8 1802 1808 2013-2014 3001 fe10-fe11 fe13-fe14
      fe31-fe32 fe50-fe51 fe54-fe55 fe58 fe63 ff0c-ff0d ff1a-ff1b ff64")
  | "st" | "sterm" => some (sentenceTerminal.diff fullStop)
  | "cl" | "close" =>
    some ((CharSet.unions [quotationMark, .ofTable "275b-2760 2e00-2e01 2e06-2e08 2e0b 1f676-1f678",
      Category.charsOf [.openPunctuation, .closePunctuation, .initialPunctuation,
        .finalPunctuation]]).diff (.ofTable "ff02 ff07"))
  | _ => none

end Immutability.Unicode
