/-! Character properties by name, as far as a label name can tell. Of the characters that have a
property, only those are listed that may occur in a label name, and the two others that differ from
such a character in case alone. -/

namespace NodeSurvey.Regex

def uppers : String := "ABCDEFGHIJKLMNOPQRSTUVWXYZ"

def lowers : String := "abcdefghijklmnopqrstuvwxyz"

def digits : String := "0123456789"

/-- Sets of characters, each with the names that it goes by. -/
abbrev PropertyTable := List (String × String)

def truthProperties : PropertyTable := [
  ("",
    "bidic bidicontrol defaultignorablecodepoint di dep deprecated emod emojimodifier " ++
      "ebase emojimodifierbase emojipresentation epres extendedpictographic extpict ext " ++
      "extender graphemeextend grext idsb idsbinaryoperator idst idstrinaryoperator " ++
      "ideo ideographic joinc joincontrol loe logicalorderexception nchar " ++
      "noncharactercodepoint pcm prependedconcatenationmark radical regionalindicator " ++
      "ri uideo unifiedideograph variationselector vs graphemelink grlink oalpha odi " ++
      "ogrext oidc oids olower otheralphabetic otherdefaultignorablecodepoint " ++
      "othergraphemeextend otheridcontinue otheridstart otherlowercase otheruppercase " ++
      "oupper omath othermath dia diacritic math bidim bidimirrored qmark quotationmark " ++
      "patternwhitespace patws space whitespace wspace"),
  ("ij",
    "sd softdotted"),
  (lowers ++ "\u017F",
    "changeswhentitlecased cwt changeswhenuppercased cwu lower lowercase"),
  (uppers ++ "\u212A",
    "changeswhenlowercased cwl upper uppercase"),
  (uppers ++ "\u017F\u212A",
    "changeswhencasefolded cwcf"),
  (uppers ++ lowers ++ "\u017F\u212A",
    "alpha alphabetic cased changeswhencasemapped cwcm ids idstart xids xidstart"),
  (digits ++ "ABCDEFabcdef",
    "ahex asciihexdigit hex hexdigit"),
  (uppers ++ lowers ++ digits ++ "_\u017F\u212A",
    "idc idcontinue xidc xidcontinue"),
  ("-",
    "dash hyphen"),
  (".",
    "caseignorable ci sentenceterminal sterm term terminalpunctuation"),
  (digits,
    "emoji ecomp emojicomponent"),
  ("-.",
    "patsyn patternsyntax"),
  (uppers ++ lowers ++ digits ++ "-._\u017F\u212A",
    "graphemebase grbase")]

def categories : PropertyTable := [
  ("",
    "cf format cn unassigned co privateuse lm modifierletter lo otherletter lt " ++
      "titlecaseletter combiningmark m mark mc spacingmark enclosingmark me mn " ++
      "nonspacingmark letternumber nl no othernumber finalpunctuation pf " ++
      "initialpunctuation pi othersymbol so lineseparator zl paragraphseparator zp " ++
      "modifiersymbol sk mathsymbol sm closepunctuation pe openpunctuation ps " ++
      "currencysymbol sc s symbol separator z spaceseparator zs c other cc cntrl " ++
      "control"),
  (lowers ++ "\u017F",
    "ll lowercaseletter"),
  ("_",
    "connectorpunctuation pc"),
  (uppers ++ "\u212A",
    "lu uppercaseletter"),
  (uppers ++ lowers ++ "\u017F\u212A",
    "l letter casedletter lc"),
  (digits,
    "n number decimalnumber digit nd"),
  ("-",
    "dashpunctuation pd"),
  (".",
    "otherpunctuation po"),
  ("-._",
    "p punct punctuation"),
  (uppers ++ lowers ++ digits ++ "-._",
    "ascii"),
  (uppers ++ lowers ++ digits ++ "-._\u017F\u212A",
    "any assigned")]

def scripts : PropertyTable := [
  ("",
    "adlam adlm aghb caucasianalbanian ahom arab arabic armi imperialaramaic armenian " ++
      "armn avestan avst bali balinese bamu bamum bass bassavah batak batk beng bengali " ++
      "bhaiksuki bhks bopo bopomofo brah brahmi brai braille bugi buginese buhd buhid " ++
      "cakm chakma canadianaboriginal cans cari carian cham cher cherokee chorasmian " ++
      "chrs copt coptic qaac cpmn cyprominoan cprt cypriot cyrillic cyrl deva " ++
      "devanagari diak divesakuru dogr dogra deseret dsrt dupl duployan egyp " ++
      "egyptianhieroglyphs elba elbasan elym elymaic ethi ethiopic geor georgian glag " ++
      "glagolitic gong gunjalagondi gonm masaramgondi goth gothic gran grantha greek " ++
      "grek gujarati gujr gurmukhi guru hang hangul han hani hano hanunoo hatr hatran " ++
      "hebr hebrew hira hiragana anatolianhieroglyphs hluw hmng pahawhhmong hmnp " ++
      "nyiakengpuachuehmong hung oldhungarian ital olditalic java javanese kali kayahli " ++
      "kana katakana kawi khar kharoshthi khmer khmr khoj khojki khitansmallscript kits " ++
      "kannada knda kaithi kthi lana taitham lao laoo lepc lepcha limb limbu lina " ++
      "lineara linb linearb lisu lyci lycian lydi lydian mahajani mahj maka makasar " ++
      "mand mandaic mani manichaean marc marchen medefaidrin medf mend mendekikakui " ++
      "merc meroiticcursive mero meroitichieroglyphs malayalam mlym modi mong mongolian " ++
      "mro mroo meeteimayek mtei mult multani myanmar mymr nagm nagmundari nand " ++
      "nandinagari narb oldnortharabian nabataean nbat newa nko nkoo nshu nushu ogam " ++
      "ogham olchiki olck oldturkic orkh oriya orya osage osge osma osmanya olduyghur " ++
      "ougr palm palmyrene pauc paucinhau oldpermic perm phag phagspa " ++
      "inscriptionalpahlavi phli phlp psalterpahlavi phnx phoenician miao plrd " ++
      "inscriptionalparthian prti rejang rjng hanifirohingya rohg runic runr samaritan " ++
      "samr oldsoutharabian sarb saur saurashtra sgnw signwriting shavian shaw sharada " ++
      "shrd sidd siddham khudawadi sind sinh sinhala sogd sogdian oldsogdian sogo sora " ++
      "sorasompeng soyo soyombo sund sundanese sylo sylotinagri syrc syriac tagb " ++
      "tagbanwa takr takri taile tale newtailue talu tamil taml tang tangut taiviet " ++
      "tavt telu telugu tfng tifinagh tagalog tglg thaa thaana thai tibetan tibt tirh " ++
      "tirhuta tangsa tnsa toto ugar ugaritic vai vaii vith vithkuqi wara warangciti " ++
      "wancho wcho oldpersian xpeo cuneiform xsux yezi yezidi yi yiii zanabazarsquare " ++
      "zanb inherited qaai zinh"),
  (uppers ++ lowers ++ "\u017F\u212A",
    "latin latn"),
  (digits ++ "-._",
    "common zyyy")]

def scriptExtensions : PropertyTable := scripts

def ages : PropertyTable := [
  (uppers ++ lowers ++ digits ++ "-._\u017F\u212A",
    "1.1 v11 10.0 v100 11.0 v110 12.0 v120 12.1 v121 13.0 v130 14.0 v140 15.0 v150 " ++
      "2.0 v20 2.1 v21 3.0 v30 3.1 v31 3.2 v32 4.0 v40 4.1 v41 5.0 v50 5.1 v51 5.2 v52 " ++
      "6.0 v60 6.1 v61 6.2 v62 6.3 v63 7.0 v70 8.0 v80 9.0 v90")]

/-- Kinds of characters by how they combine into what a reader sees as one. -/
def graphemeBreaks : PropertyTable := [
  ("",
    "ex extend l lv lvt pp prepend regionalindicator ri sm spacingmark t v zwj cr lf " ++
      "cn control")]

/-- Kinds of characters by how they combine into words. -/
def wordBreaks : PropertyTable := [
  ("",
    "extend fo format hebrewletter hl ka katakana regionalindicator ri zwj midletter " ++
      "ml midnum mn singlequote sq doublequote dq wsegspace cr newline nl lf"),
  ("_",
    "ex extendnumlet"),
  (uppers ++ lowers ++ "\u017F\u212A",
    "aletter le"),
  (digits,
    "nu numeric"),
  (".",
    "mb midnumlet")]

/-- Kinds of characters by how they combine into sentences. -/
def sentenceBreaks : PropertyTable := [
  ("",
    "ex extend fo format le oletter se sep cl close st sterm cr lf sp"),
  (lowers ++ "\u017F",
    "lo lower"),
  (uppers ++ "\u212A",
    "up upper"),
  (digits,
    "nu numeric"),
  (".",
    "at aterm"),
  ("-",
    "sc scontinue")]

def PropertyTable.members? (t : PropertyTable) (name : List Char) : Option (List Char) :=
  (List.find? (fun e => (e.2.splitOn " ").contains (String.ofList name)) t).map fun e => e.1.toList

def dropIs : List Char → List Char
  | c :: d :: r => if c.toLower = 'i' && d.toLower = 's' then r else c :: d :: r
  | s => s

/-- A name in the form in which tables have it: without case, blanks and marks between words. -/
def plainName (s : List Char) : List Char :=
  let plain (s : List Char) : List Char :=
    (s.filter fun c => c ≠ ' ' && c ≠ '_' && c ≠ '-' && c.toNat < 0x80).map Char.toLower
  if plain s = ['i', 's', 'c'] then plain s else plain (dropIs s)

def valueTables : List (String × PropertyTable) := [
  ("generalcategory gc", categories),
  ("script sc", scripts),
  ("scriptextensions scx", scriptExtensions),
  ("age", ages),
  ("graphemeclusterbreak gcb", graphemeBreaks),
  ("wordbreak wb", wordBreaks),
  ("sentencebreak sb", sentenceBreaks)]

def property? (s : List Char) : Option (List Char) :=
  let name := plainName s
  truthProperties.members? name <|> categories.members? name <|> scripts.members? name

def propertyValue? (s value : List Char) : Option (List Char) := do
  let name := String.ofList (plainName s)
  let table ← valueTables.find? fun t => (t.1.splitOn " ").contains name
  table.2.members? (plainName value)

end NodeSurvey.Regex
