import Teletype.Regex.Property
/-!
# Classes for text boundaries

The classes of characters that the rules for the boundaries of characters, words and sentences are
written with. A pattern names a class by its short or its long name.
-/

namespace Teletype.CharSet

/-- A class of characters under its names, lowercased and without separators. -/
structure BoundaryClass where
  names : List String
  set : CharSet

namespace BoundaryClass

/-- The class with a given name. -/
def named? (classes : List BoundaryClass) (name : String) : Option BoundaryClass :=
  classes.find? fun k ↦ k.names.contains name

/-- The joiner of emoji and letters. -/
private def joiner : CharSet := only '\u200d'

/-- The letters that spell flags in pairs. -/
private def regionalIndicator : CharSet := table "1F1E6-1F1FF"

/-- What extends the character before it, skin tones among it. -/
private def skinExtended : CharSet := union [combining, emojiModifier]

/-- Marks, whether they take up space or not. -/
private def extended : CharSet := union [combining, ofCategory .spacingMark]

/-- What extends the character before it within a word. -/
private def wordExtended : CharSet := difference (union [extended, emojiModifier]) joiner

/-- What belongs to the character behind it. -/
private def characterPrepended : CharSet := union [prepended, table
  "D4E 111C2-111C3 113D1 1193F 11941 11A3A 11A84-11A89 11D46 11F02"]

/-- The syllables written as one character. -/
private def syllable : CharSet := table "AC00-D7A3"

/-- The syllables that end with a vowel. Between two of them stand those that end with each of the
consonants. -/
private def openSyllable : CharSet := table "AC00-D788/1C"

/-- What ends a paragraph. -/
private def separator : CharSet := table "85 2028-2029"

/-- The classes for boundaries of characters as they are seen. -/
def ofCharacters : List BoundaryClass := [
  ⟨["cn", "control"], difference
    (union [ofCategories [.control, .format, .lineSeparator, .paragraphSeparator],
      intersection unassigned (ofSpans Text.ignorable)])
    (union [table "A D 200D", characterPrepended, skinExtended])⟩,
  ⟨["cr"], only '\r'⟩,
  ⟨["lf"], only '\n'⟩,
  ⟨["ex", "extend"], skinExtended⟩,
  ⟨["l"], table "1100-115F A960-A97C"⟩,
  ⟨["v"], table "1160-11A7 D7B0-D7C6 16D63 16D67-16D6A"⟩,
  ⟨["t"], table "11A8-11FF D7CB-D7FB"⟩,
  ⟨["lv"], openSyllable⟩,
  ⟨["lvt"], difference syllable openSyllable⟩,
  ⟨["pp", "prepend"], characterPrepended⟩,
  ⟨["ri", "regionalindicator"], regionalIndicator⟩,
  ⟨["sm", "spacingmark"], union [table "E33 EB3",
    difference (ofCategory .spacingMark) (union [skinExtended, table
      "102B-102C 1038 1062-1064 1067-106D 1083 1087-108C 108F 109A-109C 1A61 1A63-1A64 AA7B AA7D
11720-11721"])]⟩,
  ⟨["zwj"], joiner⟩]

/-- Letters of the Hebrew script. -/
private def hebrewLetter : CharSet := table
  "5D0-5EA 5EF-5F2 FB1D FB1F-FB28 FB2A-FB36 FB38-FB3C FB3E FB40-FB41 FB43-FB44 FB46-FB4F"

/-- Letters and sound signs of the Katakana script. -/
private def katakana : CharSet := table
  "3031-3035 309B-309C 30A0-30FA 30FC-30FF 31F0-31FF 32D0-32FE 3300-3357 FF66-FF9D 1AFF0-1AFF3
1AFF5-1AFFB 1AFFD-1AFFE 1B000 1B120-1B122 1B155 1B164-1B167"

/-- Alphabetic characters that do not join into words: marks, ideographs, and the letters of scripts
written without spaces. -/
private def notWordLetter : CharSet := union [wordExtended, hebrewLetter, katakana, table
  "E01-E30 E32-E33 E40-E46 E81-E82 E84 E86-E8A E8C-EA3 EA5 EA7-EB0 EB2-EB3 EBD EC0-EC4 EC6
EDC-EDF 1000-102A 103F 1050-1055 105A-105D 1061 1065-1066 106E-1070 1075-1081 108E 1780-17B3
17D7 17DC 1950-196D 1970-1974 1980-19AB 19B0-19C9 1A20-1A54 1AA7 3006-3007 3021-3029
3038-303A 3041-3096 309D-309F 3400-4DBF 4E00-9FFF A9E0-A9E4 A9E6-A9EF A9FA-A9FE AA60-AA76
AA7A AA7E-AAAF AAB1 AAB5-AAB6 AAB9-AABD AAC0 AAC2 AADB-AADD F900-FA6D FA70-FAD9 11700-1171A
11740-11746 17000-187F7 18800-18CD5 18CFF-18D08 1B001-1B11F 1B132 1B150-1B152 1B170-1B2FB
20000-2A6DF 2A700-2B739 2B740-2B81D 2B820-2CEA1 2CEB0-2EBE0 2EBF0-2EE5D 2F800-2FA1D
30000-3134A 31350-323AF"]

/-- The letters that join into words. -/
private def wordLetter : CharSet := union [difference alphabetic notWordLetter, table
  "2C2-2C5 2D2-2D7 2DE-2DF 2E5-2EB 2ED 2EF-2FF 55A-55C 55E 58A 5F3 70F A708-A716 A720-A721
A789-A78A AB5B"]

/-- Digits, and signs that belong to a number. -/
private def numeric : CharSet := union [ofCategory .decimalNumber, table
  "600-605 66B 6DD 890-891 8E2 19DA 110BD 110CD"]

/-- Format characters that have no part in words and sentences. -/
private def format : CharSet := table
  "AD 61C 180E 200E-200F 202A-202E 2060-2064 2066-206F FEFF FFF9-FFFB 13430-1343F 1BCA0-1BCA3
1D173-1D17A E0001"

/-- The classes for boundaries of words. -/
def ofWords : List BoundaryClass := [
  ⟨["le", "aletter"], wordLetter⟩,
  ⟨["cr"], only '\r'⟩,
  ⟨["lf"], only '\n'⟩,
  ⟨["nl", "newline"], table "B-C 85 2028-2029"⟩,
  ⟨["dq", "doublequote"], only '"'⟩,
  ⟨["sq", "singlequote"], only '\x27'⟩,
  ⟨["ex", "extendnumlet"], table
    "5F 202F 203F-2040 2054 FE33-FE34 FE4D-FE4F FF3F"⟩,
  ⟨["extend"], wordExtended⟩,
  ⟨["fo", "format"], format⟩,
  ⟨["hl", "hebrewletter"], hebrewLetter⟩,
  ⟨["ka", "katakana"], katakana⟩,
  ⟨["mb", "midnumlet"], table "2E 2018-2019 2024 FE52 FF07 FF0E"⟩,
  ⟨["ml", "midletter"], table "3A B7 387 55F 5F4 2027 FE13 FE55 FF1A"⟩,
  ⟨["mn", "midnum"], table
    "2C 3B 37E 589 60C-60D 66C 7F8 2044 FE50 FE54 FF0C FF1B"⟩,
  ⟨["nu", "numeric"], numeric⟩,
  ⟨["ri", "regionalindicator"], regionalIndicator⟩,
  ⟨["wsegspace"], table
    "20 1680 2000-2006 2008-200A 205F 3000"⟩,
  ⟨["zwj"], joiner⟩]

/-- Full stops. -/
private def fullStop : CharSet := table "2E 2024 FE52 FF0E"

/-- Letters that a sentence does not begin with. -/
private def lower : CharSet :=
  difference lowercase (union [extended, table "10D0-10FA 10FD-10FF"])

/-- Letters that a sentence may begin with. -/
private def upper : CharSet :=
  difference (union [uppercase, ofCategory .titlecaseLetter]) (table "1C90-1CBA 1CBD-1CBF")

/-- The classes for boundaries of sentences. -/
def ofSentences : List BoundaryClass := [
  ⟨["at", "aterm"], fullStop⟩,
  ⟨["cl", "close"], union [
    ofCategories [.openPunctuation, .closePunctuation, .initialPunctuation, .finalPunctuation],
    table "22 27 275B-2760 2E00-2E01 2E06-2E08 2E0B 1F676-1F678"]⟩,
  ⟨["cr"], only '\r'⟩,
  ⟨["lf"], only '\n'⟩,
  ⟨["ex", "extend"], union [extended, joiner]⟩,
  ⟨["fo", "format"], union [format, table "70F 200B"]⟩,
  ⟨["lo", "lower"], lower⟩,
  ⟨["up", "upper"], upper⟩,
  ⟨["le", "oletter"],
    difference (union [alphabetic, only '\u05f3']) (union [extended, lower, upper])⟩,
  ⟨["nu", "numeric"], union [numeric, only '\u066c']⟩,
  ⟨["sc", "scontinue"], table
    "2C-2D 3A-3B 37E 55D 60C-60D 7F8 1802 1808 2013-2014 3001 FE10-FE11 FE13-FE14 FE31-FE32
FE50-FE51 FE54-FE55 FE58 FE63 FF0C-FF0D FF1A-FF1B FF64"⟩,
  ⟨["se", "sep"], separator⟩,
  ⟨["sp"], difference blank (union [separator, table "A D"])⟩,
  ⟨["st", "sterm"], difference sentenceTerminal fullStop⟩]

end BoundaryClass

end Teletype.CharSet
