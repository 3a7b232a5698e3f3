import PatternCheck.Unicode.Trait
import PatternCheck.Unicode.Script

/-
The classes of characters by which text is divided into graphemes, words
and sentences, Unicode 16.0. Most are a category or a trait with a few
exceptions, and are written that way.
-/

namespace PatternCheck.Unicode.Break

open Category Trait

-- ============================================================ shared

def cr : CodeSet := .single 0xD
def lf : CodeSet := .single 0xA
def joiner : CodeSet := .single 0x200D

-- ========================================================= graphemes

namespace Grapheme

def extend : CodeSet := graphemeExtend ++ emojiModifier

def control : CodeSet :=
  (zl ++ zp ++ cc ++ cf ++ cn.inter defaultIgnorable).diff
    (cr ++ lf ++ .ofText "200C-200D E0020-E007F" ++ prependedConcatenationMark)

/-- Spacing marks that stay apart from the base before them. -/
def detachedMarks : CodeSet := .ofLines
  ["102B-102C 1038 1062-1064 1067-106D 1083 1087-108C 108F 109A-109C 1A61",
   "1A63-1A64 AA7B AA7D 1171E 11720-11721"]

def spacingMark : CodeSet :=
  (mc.diff (extend ++ detachedMarks)) ++ .ofText "E33 EB3"

def prepend : CodeSet := .ofLines
  ["600-605 6DD 70F 890-891 8E2 D4E 110BD 110CD 111C2-111C3 113D1 1193F 11941",
   "11A3A 11A84-11A89 11D46 11F02"]

def leading : CodeSet := .ofText "1100-115F A960-A97C"
def vowel : CodeSet := .ofText "1160-11A7 D7B0-D7C6 16D63 16D67-16D6A"
def trailing : CodeSet := .ofText "11A8-11FF D7CB-D7FB"

/-- Syllables without a final consonant: every twenty-eighth one. -/
def syllableLV : CodeSet := .ofText "AC00-D788/1C"

def syllableLVT : CodeSet := (CodeSet.ofText "AC00-D7A3").diff syllableLV

def values : List PropertyValue :=
  [
    ⟨["control", "cn"], some control⟩,
    ⟨["cr"], some cr⟩,
    ⟨["extend", "ex"], some extend⟩,
    ⟨["l"], some leading⟩,
    ⟨["lf"], some lf⟩,
    ⟨["lv"], some syllableLV⟩,
    ⟨["lvt"], some syllableLVT⟩,
    ⟨["prepend", "pp"], some prepend⟩,
    ⟨["regionalindicator", "ri"], some regionalIndicator⟩,
    ⟨["spacingmark", "sm"], some spacingMark⟩,
    ⟨["t"], some trailing⟩,
    ⟨["v"], some vowel⟩,
    ⟨["zwj"], some joiner⟩
  ]

end Grapheme

-- ============================================================= words

namespace Word

def extend : CodeSet := (graphemeExtend ++ mc ++ emojiModifier).diff joiner

def format : CodeSet := cf.diff (.ofText "200B-200D E0020-E007F")

def hebrewLetter : CodeSet := .ofLines
  ["5D0-5EA 5EF-5F2 FB1D FB1F-FB28 FB2A-FB36 FB38-FB3C FB3E FB40-FB41",
   "FB43-FB44 FB46-FB4F"]

def katakana : CodeSet := .ofLines
  ["3031-3035 309B-309C 30A0-30FA 30FC-30FF 31F0-31FF 32D0-32FE 3300-3357",
   "FF66-FF9D 1AFF0-1AFF3 1AFF5-1AFFB 1AFFD-1AFFE 1B000 1B120-1B122 1B155",
   "1B164-1B167"]

/-- Letters of scripts that write no blanks between words, and signs
inside words, which are the exceptions among letters. -/
def letterExceptions : CodeSet := .ofLines
  ["2C2-2C5 2D2-2D7 2DE-2DF 2E5-2EB 2ED 2EF-2FF 55A-55C 55E 58A 5F3 E01-E30",
   "E32-E33 E40-E46 E81-E82 E84 E86-E8A E8C-EA3 EA5 EA7-EB0 EB2-EB3 EBD",
   "EC0-EC4 EC6 EDC-EDF 1000-102A 103F 1050-1055 105A-105D 1061 1065-1066",
   "106E-1070 1075-1081 108E 1780-17B3 17D7 17DC 1950-196D 1970-1974",
   "1980-19AB 19B0-19C9 1A20-1A54 1AA7 3041-3096 309D-309F A708-A716",
   "A720-A721 A789-A78A A9E0-A9E4 A9E6-A9EF A9FA-A9FE AA60-AA76 AA7A",
   "AA7E-AAAF AAB1 AAB5-AAB6 AAB9-AABD AAC0 AAC2 AADB-AADD AB5B 11700-1171A",
   "11740-11746 1B001-1B11F 1B132 1B150-1B152"]

def letter : CodeSet :=
  (alphabetic.diff (ideographic ++ extend ++ hebrewLetter
      ++ katakana)).symmDiff letterExceptions

def numeric : CodeSet := nd ++ .single 0x66B
def midLetter : CodeSet := .ofText "3A B7 387 55F 5F4 2027 FE13 FE55 FF1A"
def midNumber : CodeSet := .ofLines
  ["2C 3B 37E 589 60C-60D 66C 7F8 2044 FE10 FE14 FE50 FE54 FF0C FF1B"]
def midNumberLetter : CodeSet := .ofText "2E 2018-2019 2024 FE52 FF07 FF0E"
def connector : CodeSet :=
  .ofText "5F 202F 203F-2040 2054 FE33-FE34 FE4D-FE4F FF3F"
def newline : CodeSet := .ofText "B-C 85 2028-2029"
def blank : CodeSet := .ofText "20 1680 2000-2006 2008-200A 205F 3000"

def values : List PropertyValue :=
  [
    ⟨["aletter", "le"], some letter⟩,
    ⟨["cr"], some cr⟩,
    ⟨["doublequote", "dq"], some (.single 0x22)⟩,
    ⟨["extend"], some extend⟩,
    ⟨["extendnumlet", "ex"], some connector⟩,
    ⟨["format", "fo"], some format⟩,
    ⟨["hebrewletter", "hl"], some hebrewLetter⟩,
    ⟨["katakana", "ka"], some katakana⟩,
    ⟨["lf"], some lf⟩,
    ⟨["midletter", "ml"], some midLetter⟩,
    ⟨["midnum", "mn"], some midNumber⟩,
    ⟨["midnumlet", "mb"], some midNumberLetter⟩,
    ⟨["newline", "nl"], some newline⟩,
    ⟨["numeric", "nu"], some numeric⟩,
    ⟨["regionalindicator", "ri"], some regionalIndicator⟩,
    ⟨["singlequote", "sq"], some (.single 0x27)⟩,
    ⟨["wsegspace"], some blank⟩,
    ⟨["zwj"], some joiner⟩
  ]

end Word

-- ========================================================= sentences

namespace Sentence

def extend : CodeSet := Word.extend ++ joiner

def format : CodeSet := cf.diff (.ofText "200C-200D E0020-E007F")

def lower : CodeSet :=
  ((lowercase.diff graphemeExtend) ++ .single 0x295).diff
    (.ofText "10D0-10FA 10FD-10FF")

def upper : CodeSet := (uppercase ++ lt).diff (.ofText "1C90-1CBA 1CBD-1CBF")

def otherLetter : CodeSet :=
  (alphabetic.diff (lower ++ upper ++ extend)) ++ .single 0x5F3

def numeric : CodeSet := nd ++ .ofText "66B-66C"

def close : CodeSet := .ofLines
  ["22 27-29 5B 5D 7B 7D AB BB F3A-F3D 169B-169C 2018-201F 2039-203A",
   "2045-2046 207D-207E 208D-208E 2308-230B 2329-232A 275B-2760 2768-2775",
   "27C5-27C6 27E6-27EF 2983-2998 29D8-29DB 29FC-29FD 2E00-2E0D 2E1C-2E1D",
   "2E20-2E29 2E42 2E55-2E5C 3008-3011 3014-301B 301D-301F FD3E-FD3F",
   "FE17-FE18 FE35-FE44 FE47-FE48 FE59-FE5E FF08-FF09 FF3B FF3D FF5B FF5D",
   "FF5F-FF60 FF62-FF63 1F676-1F678"]

def continuation : CodeSet := .ofLines
  ["2C-2D 3A 55D 60C-60D 7F8 1802 1808 2013-2014 3001 FE10-FE11 FE13",
   "FE31-FE32 FE50-FE51 FE55 FE58 FE63 FF0C-FF0D FF1A FF64"]

def terminal : CodeSet := .ofLines
  ["21 3F 589 61D-61F 6D4 700-702 7F9 837 839 83D-83E 964-965 104A-104B 1362",
   "1367-1368 166E 1735-1736 1803 1809 1944-1945 1AA8-1AAB 1B5A-1B5B",
   "1B5E-1B5F 1B7D-1B7E 1C3B-1C3C 1C7E-1C7F 203C-203D 2047-2049 2E2E 2E3C",
   "2E53-2E54 3002 A4FF A60E-A60F A6F3 A6F7 A876-A877 A8CE-A8CF A92F",
   "A9C8-A9C9 AA5D-AA5F AAF0-AAF1 ABEB FE56-FE57 FF01 FF1F FF61 10A56-10A57",
   "10F55-10F59 10F86-10F89 11047-11048 110BE-110C1 11141-11143 111C5-111C6",
   "111CD 111DE-111DF 11238-11239 1123B-1123C 112A9 1144B-1144C 115C2-115C3",
   "115C9-115D7 11641-11642 1173C-1173E 11944 11946 11A42-11A43 11A9B-11A9C",
   "11C41-11C42 11EF7-11EF8 11F43-11F44 16A6E-16A6F 16AF5 16B37-16B38 16B44",
   "16E98 1BC9F 1DA88"]

def fullStop : CodeSet := .ofText "2E 2024 FE52 FF0E"
def separator : CodeSet := .ofText "85 2028-2029"
def blank : CodeSet := .ofText "9 B-C 20 A0 1680 2000-200A 202F 205F 3000"

def values : List PropertyValue :=
  [
    ⟨["aterm", "at"], some fullStop⟩,
    ⟨["close", "cl"], some close⟩,
    ⟨["cr"], some cr⟩,
    ⟨["extend", "ex"], some extend⟩,
    ⟨["format", "fo"], some format⟩,
    ⟨["lf"], some lf⟩,
    ⟨["lower", "lo"], some lower⟩,
    ⟨["numeric", "nu"], some numeric⟩,
    ⟨["oletter", "le"], some otherLetter⟩,
    ⟨["scontinue", "sc"], some continuation⟩,
    ⟨["sep", "se"], some separator⟩,
    ⟨["sp"], some blank⟩,
    ⟨["sterm", "st"], some terminal⟩,
    ⟨["upper", "up"], some upper⟩
  ]

end Sentence

end PatternCheck.Unicode.Break
