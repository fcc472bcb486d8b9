import TreeLint.Unicode.Binary

/-!
# Boundaries in text

Three properties sort characters by their part in finding the boundaries of characters as readers
see them, of words and of sentences. The classes of Unicode 16 are listed or made of other
properties.
-/

namespace TreeLint.Unicode

open Category Binary

namespace GraphemeBreak

/-- Characters that never join another. -/
def control : CharSet := .ofText
  "0-9 B-C E-1F 7F-9F AD 61C 180E 200B 200E-200F 2028-202E 2060-206F FEFF FFF0-FFFB 13430-1343F
   1BCA0-1BCA3 1D173-1D17A E0000-E001F E0080-E00FF E01F0-E0FFF"

/-- Characters that join the one after them. -/
def prepend : CharSet := .ofText
  "600-605 6DD 70F 890-891 8E2 D4E 110BD 110CD 111C2-111C3 113D1 1193F 11941 11A3A 11A84-11A89
   11D46 11F02"

/-- Leading consonants of Korean syllables. -/
def leading : CharSet := .ofText "1100-115F A960-A97C"

/-- Vowels of Korean syllables. -/
def vowel : CharSet := .ofText "1160-11A7 D7B0-D7C6 16D63 16D67-16D6A"

/-- Trailing consonants of Korean syllables. -/
def trailing : CharSet := .ofText "11A8-11FF D7CB-D7FB"

/-- Korean syllables without a trailing consonant. -/
def openSyllable : CharSet := .ofCodes ((List.range 399).map fun k => 0xAC00 + 28 * k)

/-- Korean syllables with a trailing consonant. -/
def closedSyllable : CharSet := (CharSet.range 0xAC00 0xD7A3).diff openSyllable

/-- Characters that join the one before. -/
def extend : CharSet := graphemeExtend.union emojiModifier

/-- Spacing marks that join the character before. -/
def joiningMark : CharSet :=
  ((spacingMark.diff graphemeExtend).diff
    (.ofText
      "102B-102C 1038 1062-1064 1067-106D 1083 1087-108C 108F 109A-109C 1A61 1A63-1A64 AA7B AA7D
       11720-11721")).union
    (.ofText "E33 EB3")

/-- The classes by name. -/
def named : List (List String × CharSet) :=
  [(["cr"], .single '\r'), (["control", "cn"], GraphemeBreak.control), (["extend", "ex"], extend),
    (["l"], leading), (["lf"], .single '\n'), (["lv"], openSyllable), (["lvt"], closedSyllable),
    (["prepend", "pp"], prepend), (["regionalindicator", "ri"], regionalIndicator),
    (["spacingmark", "sm"], joiningMark), (["t"], trailing), (["v"], vowel),
    (["zwj"], .ofText "200D")]

end GraphemeBreak

namespace WordBreak

/-- Characters that join letters and digits. -/
def connector : CharSet := .ofText "5F 202F 203F-2040 2054 FE33-FE34 FE4D-FE4F FF3F"

/-- Format characters that words pass over. -/
def ignored : CharSet := .ofText
  "AD 61C 180E 200E-200F 202A-202E 2060-2064 2066-206F FEFF FFF9-FFFB 13430-1343F 1BCA0-1BCA3
   1D173-1D17A E0001"

def hebrewLetter : CharSet := .ofText
  "5D0-5EA 5EF-5F2 FB1D FB1F-FB28 FB2A-FB36 FB38-FB3C FB3E FB40-FB41 FB43-FB44 FB46-FB4F"

def katakana : CharSet := .ofText
  "3031-3035 309B-309C 30A0-30FA 30FC-30FF 31F0-31FF 32D0-32FE 3300-3357 FF66-FF9D 1AFF0-1AFF3
   1AFF5-1AFFB 1AFFD-1AFFE 1B000 1B120-1B122 1B155 1B164-1B167"

/-- Punctuation between letters. -/
def midLetter : CharSet := .ofText "3A B7 387 55F 5F4 2027 FE13 FE55 FF1A"

/-- Punctuation between digits. -/
def midNumber : CharSet := .ofText "2C 3B 37E 589 60C-60D 66C 7F8 2044 FE50 FE54 FF0C FF1B"

/-- Punctuation between letters or digits. -/
def midEither : CharSet := .ofText "2E 2018-2019 2024 FE52 FF07 FF0E"

def newline : CharSet := .ofText "B-C 85 2028-2029"

def space : CharSet := .ofText "20 1680 2000-2006 2008-200A 205F 3000"

/-- Characters that join the one before. -/
def extend : CharSet :=
  (.unions [graphemeExtend, spacingMark, emojiModifier] : CharSet).diff (.ofText "200D")

def numeric : CharSet :=
  decimalNumber.union (.ofText "600-605 66B 6DD 890-891 8E2 19DA 110BD 110CD")

/-- Letters that stay together. -/
def alphabeticLetter : CharSet :=
  (alphabetic.diff
    (.unions
      [ideographic, katakana, hebrewLetter, extend,
        .ofText
          "E01-E30 E32-E33 E40-E46 E81-E82 E84 E86-E8A E8C-EA3 EA5 EA7-EB0 EB2-EB3 EBD
           EC0-EC4 EC6 EDC-EDF 1000-102A 103F 1050-1055 105A-105D 1061 1065-1066
           106E-1070 1075-1081 108E 1780-17B3 17D7 17DC 1950-196D 1970-1974 1980-19AB
           19B0-19C9 1A20-1A54 1AA7 3041-3096 309D-309F A9E0-A9E4 A9E6-A9EF A9FA-A9FE
           AA60-AA76 AA7A AA7E-AAAF AAB1 AAB5-AAB6 AAB9-AABD AAC0 AAC2 AADB-AADD
           11700-1171A 11740-11746 1B001-1B11F 1B132 1B150-1B152"])).union
    (.ofText
      "2C2-2C5 2D2-2D7 2DE-2DF 2E5-2EB 2ED 2EF-2FF 55A-55C 55E 58A 5F3 70F A708-A716 A720-A721
       A789-A78A AB5B")

/-- The classes by name. -/
def named : List (List String × CharSet) :=
  [(["aletter", "le"], alphabeticLetter), (["cr"], .single '\r'),
    (["doublequote", "dq"], .single '"'), (["extend"], extend), (["extendnumlet", "ex"], connector),
    (["format", "fo"], ignored), (["hebrewletter", "hl"], hebrewLetter),
    (["katakana", "ka"], katakana), (["lf"], .single '\n'), (["midletter", "ml"], midLetter),
    (["midnum", "mn"], midNumber), (["midnumlet", "mb"], midEither), (["newline", "nl"], newline),
    (["numeric", "nu"], numeric), (["regionalindicator", "ri"], regionalIndicator),
    (["singlequote", "sq"], .single '\x27'), (["wsegspace"], space), (["zwj"], .ofText "200D")]

end WordBreak

namespace SentenceBreak

def fullStop : CharSet := .ofText "2E 2024 FE52 FF0E"

/-- Closing punctuation and quotes. -/
def close : CharSet := .ofText
  "22 27-29 5B 5D 7B 7D AB BB F3A-F3D 169B-169C 2018-201F 2039-203A 2045-2046 207D-207E 208D-208E
   2308-230B 2329-232A 275B-2760 2768-2775 27C5-27C6 27E6-27EF 2983-2998 29D8-29DB 29FC-29FD
   2E00-2E0D 2E1C-2E1D 2E20-2E29 2E42 2E55-2E5C 3008-3011 3014-301B 301D-301F FD3E-FD3F FE17-FE18
   FE35-FE44 FE47-FE48 FE59-FE5E FF08-FF09 FF3B FF3D FF5B FF5D FF5F-FF60 FF62-FF63 1F676-1F678"

/-- Format characters that sentences pass over. -/
def ignored : CharSet := .ofText
  "AD 61C 70F 180E 200B 200E-200F 202A-202E 2060-2064 2066-206F FEFF FFF9-FFFB 13430-1343F
   1BCA0-1BCA3 1D173-1D17A E0001"

/-- Characters after which a sentence goes on. -/
def comma : CharSet := .ofText
  "2C-2D 3A-3B 37E 55D 60C-60D 7F8 1802 1808 2013-2014 3001 FE10-FE11 FE13-FE14 FE31-FE32
   FE50-FE51 FE54-FE55 FE58 FE63 FF0C-FF0D FF1A-FF1B FF64"

/-- Paragraph ends other than carriage return and line feed. -/
def separation : CharSet := .ofText "85 2028-2029"

def space : CharSet := .ofText "9 B-C 20 A0 1680 2000-200A 202F 205F 3000"

/-- Characters that join the one before. -/
def extend : CharSet := .unions [graphemeExtend, spacingMark, .ofText "200D"]

def lower : CharSet := lowercase.diff (.ofText "345 10D0-10FA 10FD-10FF")

def upper : CharSet :=
  (uppercase.union titlecaseLetter).diff (.ofText "1C90-1CBA 1CBD-1CBF")

/-- Letters without case. -/
def caseless : CharSet :=
  (alphabetic.diff (.unions [cased, extend])).union
    (.ofText "5F3 10D0-10FA 10FD-10FF 1C90-1CBA 1CBD-1CBF")

def numeric : CharSet :=
  decimalNumber.union (.ofText "600-605 66B-66C 6DD 890-891 8E2 19DA 110BD 110CD")

/-- Other characters that end a sentence. -/
def terminal : CharSet := sentenceTerminal.diff (.ofText "2E 2024 FE52 FF0E")

/-- The classes by name. -/
def named : List (List String × CharSet) :=
  [(["aterm", "at"], fullStop), (["cr"], .single '\r'), (["close", "cl"], close),
    (["extend", "ex"], extend), (["format", "fo"], ignored), (["lf"], .single '\n'),
    (["lower", "lo"], lower), (["numeric", "nu"], numeric), (["oletter", "le"], caseless),
    (["scontinue", "sc"], comma), (["sterm", "st"], terminal), (["sep", "se"], separation),
    (["sp"], space), (["upper", "up"], upper)]

end SentenceBreak

end TreeLint.Unicode
