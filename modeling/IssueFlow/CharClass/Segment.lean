import IssueFlow.CharClass.Attribute

/-!
# Segmentation

The roles of characters where a text is cut into characters as a reader sees them, into words and
into sentences.
-/

namespace IssueFlow.CharClass.Segment

open Category Attribute

def zeroWidthJoiner : Term := .table "200d"

def regionalIndicator : Term := .table "1f1e6-1f1ff"

def hangulSyllable : Term := .table "ac00-d7a3"

/-- Syllables without a final consonant: one in twenty-eight. -/
def openSyllable : Term :=
  .points (" ".intercalate ((List.range 399).map fun n =>
    String.ofList (Nat.toDigits 16 (0xac00 + 28 * n))))

def extendCharacter : Term := graphemeExtend ∪ emojiModifier

/-- The control characters, but for those of line ends and joiners. -/
def controlCharacter : Term :=
  Term.minus (lineSeparator ∪ paragraphSeparator ∪ control ∪ format ∪ unassigned ∩ ignorable)
    (.table "a d 200c-200d" ∪ prependedMark ∪ graphemeExtend)

def prependedCharacter : Term := .table
  "600-605 6dd 70f 890-891 8e2 d4e 110bd 110cd 111c2-111c3 113d1 1193f 11941 11a3a 11a84-11a89
   11d46 11f02"

/-- The spacing marks of most scripts, and two vowels. -/
def spacingCharacter : Term :=
  (spacingMark.minus (extendCharacter ∪
    .table
      "102b-102c 1038 1062-1064 1067-106d 1083 1087-108c 108f 109a-109c 1a61 1a63-1a64 aa7b aa7d
       11720-11721")) ∪
    .table "e33 eb3"

/-- The part of a character that has that name. -/
def characterBreak? : String → Option Term
  | "cr" => some (.table "d")
  | "lf" => some (.table "a")
  | "cn" | "control" => some controlCharacter
  | "ex" | "extend" => some extendCharacter
  | "pp" | "prepend" => some prependedCharacter
  | "sm" | "spacingmark" => some spacingCharacter
  | "zwj" => some zeroWidthJoiner
  | "ri" | "regionalindicator" => some regionalIndicator
  | "l" => some (.table "1100-115f a960-a97c")
  | "v" => some (.table "1160-11a7 d7b0-d7c6 16d63 16d67-16d6a")
  | "t" => some (.table "11a8-11ff d7cb-d7fb")
  | "lv" => some openSyllable
  | "lvt" => some (hangulSyllable.minus openSyllable)
  | _ => none

def extendWord : Term := graphemeExtend ∪ spacingMark ∪ emojiModifier

def formatWord : Term :=
  Term.minus format (.table "200b-200d" ∪ graphemeExtend ∪ prependedMark)

def hebrewLetter : Term := .table
  "5d0-5ea 5ef-5f2 fb1d fb1f-fb28 fb2a-fb36 fb38-fb3c fb3e fb40-fb41 fb43-fb44 fb46-fb4f"

def katakana : Term := .table
  "3031-3035 309b-309c 30a0-30fa 30fc-30ff 31f0-31ff 32d0-32fe 3300-3357 ff66-ff9d 1aff0-1aff3
   1aff5-1affb 1affd-1affe 1b000 1b120-1b122 1b155 1b164-1b167"

/-- The characters of scripts whose words are not told apart by spaces. -/
def unspacedScript : Term := .table
  "e01-e3a e40-e5b e81-e82 e84 e86-e8a e8c-ea3 ea5 ea7-ebd ec0-ec4 ec6 ec8-ece ed0-ed9 edc-edf
   1000-109f 1780-17dd 17e0-17e9 17f0-17f9 1950-196d 1970-1974 1980-19ab 19b0-19c9 19d0-19da
   19de-19ff 1a20-1a5e 1a60-1a7c 1a7f-1a89 1a90-1a99 1aa0-1aad a9e0-a9fe aa60-aac2 aadb-aadf
   116d0-116e3 11700-1171a 1171d-1172b 11730-11746"

/-- The letters of alphabets, and signs that stand inside their words. -/
def alphabetLetter : Term :=
  Term.minus alphabetic (ideographic ∪ katakana ∪ hebrewLetter ∪ extendWord ∪ unspacedScript ∪
    .table "3041-3096 309d-309f 1b001-1b11f 1b132 1b150-1b152 1f200") ∪
    .table
      "2c2-2c5 2d2-2d7 2de-2df 2e5-2eb 2ed 2ef-2ff 55a-55c 55e 58a 5f3 70f a708-a716 a720-a721
       a789-a78a ab5b"

def wordNumber : Term := decimalNumber ∪ .table "600-605 66b 6dd 890-891 8e2 19da 110bd 110cd"

/-- The part of a word that has that name. -/
def wordBreak? : String → Option Term
  | "cr" => some (.table "d")
  | "lf" => some (.table "a")
  | "nl" | "newline" => some (.table "b-c 85 2028-2029")
  | "extend" => some extendWord
  | "zwj" => some zeroWidthJoiner
  | "ri" | "regionalindicator" => some regionalIndicator
  | "fo" | "format" => some formatWord
  | "ka" | "katakana" => some katakana
  | "hl" | "hebrewletter" => some hebrewLetter
  | "le" | "aletter" => some alphabetLetter
  | "sq" | "singlequote" => some (.table "27")
  | "dq" | "doublequote" => some (.table "22")
  | "mb" | "midnumlet" => some (.table "2e 2018-2019 2024 fe52 ff07 ff0e")
  | "ml" | "midletter" => some (.table "3a b7 387 55f 5f4 2027 fe13 fe55 ff1a")
  | "mn" | "midnum" => some (.table "2c 3b 37e 589 60c-60d 66c 7f8 2044 fe50 fe54 ff0c ff1b")
  | "nu" | "numeric" => some wordNumber
  | "ex" | "extendnumlet" => some (connectorPunctuation ∪ .table "202f")
  | "wsegspace" => some (spaceSeparator.minus (.table "a0 2007 202f"))
  | _ => none

def extendSentence : Term := graphemeExtend ∪ spacingMark ∪ zeroWidthJoiner

def lowerLetter : Term :=
  Term.minus lowercase (graphemeExtend ∪ .table "10d0-10fa 10fd-10ff")

def upperLetter : Term := Term.minus (uppercase ∪ titlecaseLetter) (.table "1c90-1cba 1cbd-1cbf")

def caselessLetter : Term :=
  Term.minus (alphabetic ∪ .table "5f3") (lowerLetter ∪ upperLetter ∪ extendSentence)

def fullStop : Term := .table "2e 2024 fe52 ff0e"

def closingMark : Term :=
  Term.minus (openPunctuation ∪ closePunctuation ∪ initialPunctuation ∪ finalPunctuation ∪
    quotationMark) (.table "ff02 ff07") ∪ .table "275b-2760 2e00-2e01 2e06-2e08 2e0b 1f676-1f678"

/-- The part of a sentence that has that name. -/
def sentenceBreak? : String → Option Term
  | "cr" => some (.table "d")
  | "lf" => some (.table "a")
  | "se" | "sep" => some (.table "85 2028-2029")
  | "ex" | "extend" => some extendSentence
  | "fo" | "format" =>
    some (format.minus (graphemeExtend ∪
    .table "600-605 6dd 890-891 8e2 200d 110bd 110cd"))
  | "sp" => some (whiteSpace.minus (.table "a d 85 2028-2029"))
  | "lo" | "lower" => some lowerLetter
  | "up" | "upper" => some upperLetter
  | "le" | "oletter" => some caselessLetter
  | "nu" | "numeric" => some (wordNumber ∪ .table "66c")
  | "at" | "aterm" => some fullStop
  | "st" | "sterm" => some (sentenceTerminal.minus fullStop)
  | "cl" | "close" => some closingMark
  | "sc" | "scontinue" => some (.table
    "2c-2d 3a-3b 37e 55d 60c-60d 7f8 1802 1808 2013-2014 3001 fe10-fe11 fe13-fe14 fe31-fe32
     fe50-fe51 fe54-fe55 fe58 fe63 ff0c-ff0d ff1a-ff1b ff64")
  | _ => none

end IssueFlow.CharClass.Segment
