import SqlTemplate.Unicode.Binary
import SqlTemplate.Unicode.Script

/-!
# Breaks between characters, words and sentences

The properties that decide where a text can be broken. They are derived from categories, scripts
and properties; the tables hold what Unicode 16.0 lists apart.
-/

namespace SqlTemplate.Unicode

/-- The characters of a script. -/
def scriptCharacters (name : String) : CharSet := (NamedSet.find? scriptSets name).getD .empty

/-- The syllables of Hangul without a final consonant: every twenty-eighth one. -/
def openSyllable : CharSet :=
  ⟨(List.range 399).flatMap fun i => [0xAC00 + 28 * i, 0xAC00 + 28 * i + 1]⟩

/-- How characters stand together as one that a reader sees. -/
def graphemeClusterBreaks : List NamedSet := [
  ⟨["cn", "control"],
    (CharSet.unions [lineSeparator, paragraphSeparator, control, format,
      unassigned.intersection defaultIgnorable]).difference
      (.unions [prependedConcatenationMark, graphemeExtend, .ofTable "A D 200D"])⟩,
  ⟨["cr"], .single (Char.ofNat 0xD)⟩,
  ⟨["ex", "extend"], graphemeExtend.union emojiModifier⟩,
  ⟨["l"], .ofTable "1100-115F A960-A97C"⟩,
  ⟨["lf"], .single (Char.ofNat 0xA)⟩,
  ⟨["lv"], openSyllable⟩,
  ⟨["lvt"], (CharSet.ofTable "AC00-D7A3").difference openSyllable⟩,
  ⟨["pp", "prepend"], .ofTable
    "600-605 6DD 70F 890-891 8E2 D4E 110BD 110CD 111C2-111C3 113D1 1193F 11941 11A3A 11A84-11A89
    11D46 11F02"⟩,
  ⟨["ri", "regionalindicator"], regionalIndicator⟩,
  ⟨["sm", "spacingmark"],
    (spacingMark.union (.ofTable "E33 EB3")).difference (graphemeExtend.union (.ofTable
      "102B-102C 1038 1062-1064 1067-106D 1083 1087-108C 108F 109A-109C 1A61 1A63-1A64 AA7B AA7D
      11720-11721"))⟩,
  ⟨["t"], .ofTable "11A8-11FF D7CB-D7FB"⟩,
  ⟨["v"], .ofTable "1160-11A7 D7B0-D7C6 16D63 16D67-16D6A"⟩,
  ⟨["zwj"], .single (Char.ofNat 0x200D)⟩]

/-- Letters of Hebrew. -/
def hebrewLetter : CharSet := otherLetter.intersection (scriptCharacters "hebrew")

/-- Characters of Katakana, with the marks that are used along with them. -/
def katakanaWord : CharSet := .ofTable
  "3031-3035 309B-309C 30A0-30FA 30FC-30FF 31F0-31FF 32D0-32FE 3300-3357 FF66-FF9D 1AFF0-1AFF3
  1AFF5-1AFFB 1AFFD-1AFFE 1B000 1B120-1B122 1B155 1B164-1B167"

/-- Digits, with what stands before or inside of numbers. -/
def numericWord : CharSet :=
  decimalNumber.union (.ofTable
    "600-605 66B 6DD 890-891 8E2 19DA 110BD 110CD")

/-- Marks that extend the character before, when words or sentences are told apart. -/
def extendWord : CharSet :=
  (CharSet.unions [graphemeExtend, spacingMark, emojiModifier]).difference (.ofTable "200D")

/-- Letters of words: alphabetic characters of scripts that put blanks between words, and what is
used like them. -/
def wordLetter : CharSet :=
  ((CharSet.ofTable
    "2C2-2C5 2D2-2D7 2DE-2DF 2E5-2EB 2ED 2EF-2FF 55A-55C 55E 58A 5F3 70F A708-A716 A720-A721
    A789-A78A AB5B").union
    (alphabeticCharacter.difference (.unions [ideographic, katakanaWord, hebrewLetter, extendWord,
      scriptCharacters "hiragana"]))).difference (.ofTable
      "E01-E30 E32-E33 E40-E46 E81-E82 E84 E86-E8A E8C-EA3 EA5 EA7-EB0 EB2-EB3 EBD EC0-EC4 EC6
      EDC-EDF 1000-102A 103F 1050-1055 105A-105D 1061 1065-1066 106E-1070 1075-1081 108E
      1780-17B3 17D7 17DC 1950-196D 1970-1974 1980-19AB 19B0-19C9 1A20-1A54 1AA7 A9E0-A9E4
      A9E6-A9EF A9FA-A9FE AA60-AA76 AA7A AA7E-AAAF AAB1 AAB5-AAB6 AAB9-AABD AAC0 AAC2 AADB-AADD
      11700-1171A 11740-11746")

/-- How characters stand together as words. -/
def wordBreaks : List NamedSet := [
  ⟨["cr"], .single (Char.ofNat 0xD)⟩,
  ⟨["dq", "doublequote"], .single '"'⟩,
  ⟨["ex", "extendnumlet"], connectorPunctuation.union (.ofTable "202F")⟩,
  ⟨["extend"], extendWord⟩,
  ⟨["fo", "format"],
    format.difference (.ofTable
      "600-605 6DD 70F 890-891 8E2 200B-200D 110BD 110CD E0020-E007F")⟩,
  ⟨["hl", "hebrewletter"], hebrewLetter⟩,
  ⟨["ka", "katakana"], katakanaWord⟩,
  ⟨["le", "aletter"], wordLetter⟩,
  ⟨["lf"], .single (Char.ofNat 0xA)⟩,
  ⟨["mb", "midnumlet"], .ofTable "2E 2018-2019 2024 FE52 FF07 FF0E"⟩,
  ⟨["ml", "midletter"], .ofTable "3A B7 387 55F 5F4 2027 FE13 FE55 FF1A"⟩,
  ⟨["mn", "midnum"], .ofTable "2C 3B 37E 589 60C-60D 66C 7F8 2044 FE50 FE54 FF0C FF1B"⟩,
  ⟨["nl", "newline"], .ofTable "B-C 85 2028-2029"⟩,
  ⟨["nu", "numeric"], numericWord⟩,
  ⟨["ri", "regionalindicator"], regionalIndicator⟩,
  ⟨["sq", "singlequote"], .single '\''⟩,
  ⟨["wsegspace"], .ofTable "20 1680 2000-2006 2008-200A 205F 3000"⟩,
  ⟨["zwj"], .single (Char.ofNat 0x200D)⟩]

/-- Marks that extend the character before, when sentences are told apart. -/
def extendSentence : CharSet := .unions [graphemeExtend, spacingMark, .ofTable "200D"]

/-- Small letters, when sentences are told apart. -/
def lowerSentence : CharSet :=
  lowercase.difference (graphemeExtend.union (.ofTable "10D0-10FA 10FD-10FF"))

/-- Capital letters, when sentences are told apart. -/
def upperSentence : CharSet :=
  (uppercase.union titlecaseLetter).difference (.ofTable "1C90-1CBA 1CBD-1CBF")

/-- Full stops, which end a sentence or an abbreviation. -/
def fullStop : CharSet := .ofTable "2E 2024 FE52 FF0E"

/-- How characters stand together as sentences. -/
def sentenceBreaks : List NamedSet := [
  ⟨["at", "aterm"], fullStop⟩,
  ⟨["cl", "close"],
    (CharSet.unions [openPunctuation, closePunctuation, finalPunctuation, initialPunctuation,
      quotationMark, .ofTable "275B-2760 2E00-2E01 2E06-2E08 2E0B 1F676-1F678"]).difference
      (.ofTable "FF02 FF07")⟩,
  ⟨["cr"], .single (Char.ofNat 0xD)⟩,
  ⟨["ex", "extend"], extendSentence⟩,
  ⟨["fo", "format"],
    format.difference (.ofTable
      "600-605 6DD 890-891 8E2 200C-200D 110BD 110CD E0020-E007F")⟩,
  ⟨["le", "oletter"],
    (alphabeticCharacter.union (.ofTable "5F3")).difference
      (.unions [lowerSentence, upperSentence, extendSentence])⟩,
  ⟨["lf"], .single (Char.ofNat 0xA)⟩,
  ⟨["lo", "lower"], lowerSentence⟩,
  ⟨["nu", "numeric"], numericWord.union (.ofTable "66C")⟩,
  ⟨["sc", "scontinue"], .ofTable
    "2C-2D 3A-3B 37E 55D 60C-60D 7F8 1802 1808 2013-2014 3001 FE10-FE11 FE13-FE14 FE31-FE32
    FE50-FE51 FE54-FE55 FE58 FE63 FF0C-FF0D FF1A-FF1B FF64"⟩,
  ⟨["se", "sep"], .ofTable "85 2028-2029"⟩,
  ⟨["sp"], whiteSpace.difference (.ofTable "A D 85 2028-2029")⟩,
  ⟨["st", "sterm"], sentenceTerminal.difference fullStop⟩,
  ⟨["up", "upper"], upperSentence⟩]

end SqlTemplate.Unicode
