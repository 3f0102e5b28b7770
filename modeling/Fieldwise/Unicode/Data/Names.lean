/-!
# Names of properties and of their values

The names that Unicode 17 gives to its properties and to the values of those that are sets of
characters. Each entry holds the names of one thing, the long name first.
-/

namespace Fieldwise.Unicode.Data

/-- The properties. -/
def propertyNames : List (List String) := [
  ["Numeric_Value", "nv"],
  ["cjkAccountingNumeric", "kAccountingNumeric"],
  ["cjkOtherNumeric", "kOtherNumeric"],
  ["cjkPrimaryNumeric", "kPrimaryNumeric"],
  ["Bidi_Mirroring_Glyph", "bmg"],
  ["Bidi_Paired_Bracket", "bpb"],
  ["Case_Folding", "cf"],
  ["cjkCompatibilityVariant", "kCompatibilityVariant"],
  ["Decomposition_Mapping", "dm"],
  ["Equivalent_Unified_Ideograph", "EqUIdeo"],
  ["FC_NFKC_Closure", "FC_NFKC"],
  ["Lowercase_Mapping", "lc"],
  ["NFKC_Casefold", "NFKC_CF"],
  ["NFKC_Simple_Casefold", "NFKC_SCF"],
  ["Simple_Case_Folding", "scf", "sfc"],
  ["Simple_Lowercase_Mapping", "slc"],
  ["Simple_Titlecase_Mapping", "stc"],
  ["Simple_Uppercase_Mapping", "suc"],
  ["Titlecase_Mapping", "tc"],
  ["Uppercase_Mapping", "uc"],
  ["cjkIICore", "kIICore"],
  ["cjkIRG_GSource", "kIRG_GSource"],
  ["cjkIRG_HSource", "kIRG_HSource"],
  ["cjkIRG_JSource", "kIRG_JSource"],
  ["cjkIRG_KPSource", "kIRG_KPSource"],
  ["cjkIRG_KSource", "kIRG_KSource"],
  ["cjkIRG_MSource", "kIRG_MSource"],
  ["cjkIRG_SSource", "kIRG_SSource"],
  ["cjkIRG_TSource", "kIRG_TSource"],
  ["cjkIRG_UKSource", "kIRG_UKSource"],
  ["cjkIRG_USource", "kIRG_USource"],
  ["cjkIRG_VSource", "kIRG_VSource"],
  ["cjkRSUnicode", "kRSUnicode", "Unicode_Radical_Stroke", "URS"],
  ["ISO_Comment", "isc"],
  ["Jamo_Short_Name", "JSN"],
  ["Name", "na"],
  ["Unicode_1_Name", "na1"],
  ["Name_Alias"],
  ["Script_Extensions", "scx"],
  ["Age", "age"],
  ["Block", "blk"],
  ["Script", "sc"],
  ["Bidi_Class", "bc"],
  ["Bidi_Paired_Bracket_Type", "bpt"],
  ["Canonical_Combining_Class", "ccc"],
  ["Decomposition_Type", "dt"],
  ["East_Asian_Width", "ea"],
  ["General_Category", "gc"],
  ["Grapheme_Cluster_Break", "GCB"],
  ["Hangul_Syllable_Type", "hst"],
  ["Indic_Conjunct_Break", "InCB"],
  ["Indic_Positional_Category", "InPC"],
  ["Indic_Syllabic_Category", "InSC"],
  ["Joining_Group", "jg"],
  ["Joining_Type", "jt"],
  ["Line_Break", "lb"],
  ["NFC_Quick_Check", "NFC_QC"],
  ["NFD_Quick_Check", "NFD_QC"],
  ["NFKC_Quick_Check", "NFKC_QC"],
  ["NFKD_Quick_Check", "NFKD_QC"],
  ["Numeric_Type", "nt"],
  ["Sentence_Break", "SB"],
  ["Vertical_Orientation", "vo"],
  ["Word_Break", "WB"],
  ["ASCII_Hex_Digit", "AHex"],
  ["Alphabetic", "Alpha"],
  ["Bidi_Control", "Bidi_C"],
  ["Bidi_Mirrored", "Bidi_M"],
  ["Cased"],
  ["Composition_Exclusion", "CE"],
  ["Case_Ignorable", "CI"],
  ["Full_Composition_Exclusion", "Comp_Ex"],
  ["Changes_When_Casefolded", "CWCF"],
  ["Changes_When_Casemapped", "CWCM"],
  ["Changes_When_NFKC_Casefolded", "CWKCF"],
  ["Changes_When_Lowercased", "CWL"],
  ["Changes_When_Titlecased", "CWT"],
  ["Changes_When_Uppercased", "CWU"],
  ["Dash"],
  ["Deprecated", "Dep"],
  ["Default_Ignorable_Code_Point", "DI"],
  ["Diacritic", "Dia"],
  ["Emoji"],
  ["Emoji_Component", "EComp"],
  ["Emoji_Modifier", "EMod"],
  ["Emoji_Modifier_Base", "EBase"],
  ["Emoji_Presentation", "EPres"],
  ["Extended_Pictographic", "ExtPict"],
  ["Extender", "Ext"],
  ["Grapheme_Base", "Gr_Base"],
  ["Grapheme_Extend", "Gr_Ext"],
  ["Grapheme_Link", "Gr_Link"],
  ["Hex_Digit", "Hex"],
  ["Hyphen"],
  ["ID_Compat_Math_Continue"],
  ["ID_Compat_Math_Start"],
  ["ID_Continue", "IDC"],
  ["Ideographic", "Ideo"],
  ["ID_Start", "IDS"],
  ["IDS_Binary_Operator", "IDSB"],
  ["IDS_Trinary_Operator", "IDST"],
  ["IDS_Unary_Operator", "IDSU"],
  ["Join_Control", "Join_C"],
  ["Logical_Order_Exception", "LOE"],
  ["Lowercase", "Lower"],
  ["Math"],
  ["Modifier_Combining_Mark", "MCM"],
  ["Noncharacter_Code_Point", "NChar"],
  ["Other_Alphabetic", "OAlpha"],
  ["Other_Default_Ignorable_Code_Point", "ODI"],
  ["Other_Grapheme_Extend", "OGr_Ext"],
  ["Other_ID_Continue", "OIDC"],
  ["Other_ID_Start", "OIDS"],
  ["Other_Lowercase", "OLower"],
  ["Other_Math", "OMath"],
  ["Other_Uppercase", "OUpper"],
  ["Pattern_Syntax", "Pat_Syn"],
  ["Pattern_White_Space", "Pat_WS"],
  ["Prepended_Concatenation_Mark", "PCM"],
  ["Quotation_Mark", "QMark"],
  ["Radical"],
  ["Regional_Indicator", "RI"],
  ["Soft_Dotted", "SD"],
  ["Sentence_Terminal", "STerm"],
  ["Terminal_Punctuation", "Term"],
  ["Unified_Ideograph", "UIdeo"],
  ["Uppercase", "Upper"],
  ["Variation_Selector", "VS"],
  ["White_Space", "WSpace", "space"],
  ["XID_Continue", "XIDC"],
  ["XID_Start", "XIDS"],
  ["Expands_On_NFC", "XO_NFC"],
  ["Expands_On_NFD", "XO_NFD"],
  ["Expands_On_NFKC", "XO_NFKC"],
  ["Expands_On_NFKD", "XO_NFKD"]]

/-- The values of General_Category. -/
def generalCategoryNames : List (List String) := [
  ["Cased_Letter", "LC"],
  ["Close_Punctuation", "Pe"],
  ["Connector_Punctuation", "Pc"],
  ["Control", "Cc", "cntrl"],
  ["Currency_Symbol", "Sc"],
  ["Dash_Punctuation", "Pd"],
  ["Decimal_Number", "Nd", "digit"],
  ["Enclosing_Mark", "Me"],
  ["Final_Punctuation", "Pf"],
  ["Format", "Cf"],
  ["Initial_Punctuation", "Pi"],
  ["Letter", "L"],
  ["Letter_Number", "Nl"],
  ["Line_Separator", "Zl"],
  ["Lowercase_Letter", "Ll"],
  ["Mark", "M", "Combining_Mark"],
  ["Math_Symbol", "Sm"],
  ["Modifier_Letter", "Lm"],
  ["Modifier_Symbol", "Sk"],
  ["Nonspacing_Mark", "Mn"],
  ["Number", "N"],
  ["Open_Punctuation", "Ps"],
  ["Other", "C"],
  ["Other_Letter", "Lo"],
  ["Other_Number", "No"],
  ["Other_Punctuation", "Po"],
  ["Other_Symbol", "So"],
  ["Paragraph_Separator", "Zp"],
  ["Private_Use", "Co"],
  ["Punctuation", "P", "punct"],
  ["Separator", "Z"],
  ["Space_Separator", "Zs"],
  ["Spacing_Mark", "Mc"],
  ["Surrogate", "Cs"],
  ["Symbol", "S"],
  ["Titlecase_Letter", "Lt"],
  ["Unassigned", "Cn"],
  ["Uppercase_Letter", "Lu"]]

/-- The values of Script and of Script_Extensions. -/
def scriptNames : List (List String) := [
  ["Adlam", "Adlm"],
  ["Ahom"],
  ["Anatolian_Hieroglyphs", "Hluw"],
  ["Arabic", "Arab"],
  ["Armenian", "Armn"],
  ["Avestan", "Avst"],
  ["Balinese", "Bali"],
  ["Bamum", "Bamu"],
  ["Bassa_Vah", "Bass"],
  ["Batak", "Batk"],
  ["Bengali", "Beng"],
  ["Beria_Erfe", "Berf"],
  ["Bhaiksuki", "Bhks"],
  ["Bopomofo", "Bopo"],
  ["Brahmi", "Brah"],
  ["Braille", "Brai"],
  ["Buginese", "Bugi"],
  ["Buhid", "Buhd"],
  ["Canadian_Aboriginal", "Cans"],
  ["Carian", "Cari"],
  ["Caucasian_Albanian", "Aghb"],
  ["Chakma", "Cakm"],
  ["Cham"],
  ["Cherokee", "Cher"],
  ["Chorasmian", "Chrs"],
  ["Common", "Zyyy"],
  ["Coptic", "Copt", "Qaac"],
  ["Cuneiform", "Xsux"],
  ["Cypriot", "Cprt"],
  ["Cypro_Minoan", "Cpmn"],
  ["Cyrillic", "Cyrl"],
  ["Deseret", "Dsrt"],
  ["Devanagari", "Deva"],
  ["Dives_Akuru", "Diak"],
  ["Dogra", "Dogr"],
  ["Duployan", "Dupl"],
  ["Egyptian_Hieroglyphs", "Egyp"],
  ["Elbasan", "Elba"],
  ["Elymaic", "Elym"],
  ["Ethiopic", "Ethi"],
  ["Garay", "Gara"],
  ["Georgian", "Geor"],
  ["Glagolitic", "Glag"],
  ["Gothic", "Goth"],
  ["Grantha", "Gran"],
  ["Greek", "Grek"],
  ["Gujarati", "Gujr"],
  ["Gunjala_Gondi", "Gong"],
  ["Gurmukhi", "Guru"],
  ["Gurung_Khema", "Gukh"],
  ["Han", "Hani"],
  ["Hangul", "Hang"],
  ["Hanifi_Rohingya", "Rohg"],
  ["Hanunoo", "Hano"],
  ["Hatran", "Hatr"],
  ["Hebrew", "Hebr"],
  ["Hiragana", "Hira"],
  ["Imperial_Aramaic", "Armi"],
  ["Inherited", "Zinh", "Qaai"],
  ["Inscriptional_Pahlavi", "Phli"],
  ["Inscriptional_Parthian", "Prti"],
  ["Javanese", "Java"],
  ["Kaithi", "Kthi"],
  ["Kannada", "Knda"],
  ["Katakana", "Kana"],
  ["Katakana_Or_Hiragana", "Hrkt"],
  ["Kawi"],
  ["Kayah_Li", "Kali"],
  ["Kharoshthi", "Khar"],
  ["Khitan_Small_Script", "Kits"],
  ["Khmer", "Khmr"],
  ["Khojki", "Khoj"],
  ["Khudawadi", "Sind"],
  ["Kirat_Rai", "Krai"],
  ["Lao", "Laoo"],
  ["Latin", "Latn"],
  ["Lepcha", "Lepc"],
  ["Limbu", "Limb"],
  ["Linear_A", "Lina"],
  ["Linear_B", "Linb"],
  ["Lisu"],
  ["Lycian", "Lyci"],
  ["Lydian", "Lydi"],
  ["Mahajani", "Mahj"],
  ["Makasar", "Maka"],
  ["Malayalam", "Mlym"],
  ["Mandaic", "Mand"],
  ["Manichaean", "Mani"],
  ["Marchen", "Marc"],
  ["Masaram_Gondi", "Gonm"],
  ["Medefaidrin", "Medf"],
  ["Meetei_Mayek", "Mtei"],
  ["Mende_Kikakui", "Mend"],
  ["Meroitic_Cursive", "Merc"],
  ["Meroitic_Hieroglyphs", "Mero"],
  ["Miao", "Plrd"],
  ["Modi"],
  ["Mongolian", "Mong"],
  ["Mro", "Mroo"],
  ["Multani", "Mult"],
  ["Myanmar", "Mymr"],
  ["Nabataean", "Nbat"],
  ["Nag_Mundari", "Nagm"],
  ["Nandinagari", "Nand"],
  ["New_Tai_Lue", "Talu"],
  ["Newa"],
  ["Nko", "Nkoo"],
  ["Nushu", "Nshu"],
  ["Nyiakeng_Puachue_Hmong", "Hmnp"],
  ["Ogham", "Ogam"],
  ["Ol_Chiki", "Olck"],
  ["Ol_Onal", "Onao"],
  ["Old_Hungarian", "Hung"],
  ["Old_Italic", "Ital"],
  ["Old_North_Arabian", "Narb"],
  ["Old_Permic", "Perm"],
  ["Old_Persian", "Xpeo"],
  ["Old_Sogdian", "Sogo"],
  ["Old_South_Arabian", "Sarb"],
  ["Old_Turkic", "Orkh"],
  ["Old_Uyghur", "Ougr"],
  ["Oriya", "Orya"],
  ["Osage", "Osge"],
  ["Osmanya", "Osma"],
  ["Pahawh_Hmong", "Hmng"],
  ["Palmyrene", "Palm"],
  ["Pau_Cin_Hau", "Pauc"],
  ["Phags_Pa", "Phag"],
  ["Phoenician", "Phnx"],
  ["Psalter_Pahlavi", "Phlp"],
  ["Rejang", "Rjng"],
  ["Runic", "Runr"],
  ["Samaritan", "Samr"],
  ["Saurashtra", "Saur"],
  ["Sharada", "Shrd"],
  ["Shavian", "Shaw"],
  ["Siddham", "Sidd"],
  ["Sidetic", "Sidt"],
  ["SignWriting", "Sgnw"],
  ["Sinhala", "Sinh"],
  ["Sogdian", "Sogd"],
  ["Sora_Sompeng", "Sora"],
  ["Soyombo", "Soyo"],
  ["Sundanese", "Sund"],
  ["Sunuwar", "Sunu"],
  ["Syloti_Nagri", "Sylo"],
  ["Syriac", "Syrc"],
  ["Tagalog", "Tglg"],
  ["Tagbanwa", "Tagb"],
  ["Tai_Le", "Tale"],
  ["Tai_Tham", "Lana"],
  ["Tai_Viet", "Tavt"],
  ["Tai_Yo", "Tayo"],
  ["Takri", "Takr"],
  ["Tamil", "Taml"],
  ["Tangsa", "Tnsa"],
  ["Tangut", "Tang"],
  ["Telugu", "Telu"],
  ["Thaana", "Thaa"],
  ["Thai"],
  ["Tibetan", "Tibt"],
  ["Tifinagh", "Tfng"],
  ["Tirhuta", "Tirh"],
  ["Todhri", "Todr"],
  ["Tolong_Siki", "Tols"],
  ["Toto"],
  ["Tulu_Tigalari", "Tutg"],
  ["Ugaritic", "Ugar"],
  ["Unknown", "Zzzz"],
  ["Unknown", "Zzzz"],
  ["Vai", "Vaii"],
  ["Vithkuqi", "Vith"],
  ["Wancho", "Wcho"],
  ["Warang_Citi", "Wara"],
  ["Yezidi", "Yezi"],
  ["Yi", "Yiii"],
  ["Zanabazar_Square", "Zanb"]]

/-- The values of Age, oldest first. -/
def ageNames : List (List String) := [
  ["V1_1", "1.1"],
  ["V2_0", "2.0"],
  ["V2_1", "2.1"],
  ["V3_0", "3.0"],
  ["V3_1", "3.1"],
  ["V3_2", "3.2"],
  ["V4_0", "4.0"],
  ["V4_1", "4.1"],
  ["V5_0", "5.0"],
  ["V5_1", "5.1"],
  ["V5_2", "5.2"],
  ["V6_0", "6.0"],
  ["V6_1", "6.1"],
  ["V6_2", "6.2"],
  ["V6_3", "6.3"],
  ["V7_0", "7.0"],
  ["V8_0", "8.0"],
  ["V9_0", "9.0"],
  ["V10_0", "10.0"],
  ["V11_0", "11.0"],
  ["V12_0", "12.0"],
  ["V12_1", "12.1"],
  ["V13_0", "13.0"],
  ["V14_0", "14.0"],
  ["V15_0", "15.0"],
  ["V15_1", "15.1"],
  ["V16_0", "16.0"],
  ["V17_0", "17.0"],
  ["Unassigned", "NA"]]

/-- The values of Grapheme_Cluster_Break. -/
def graphemeClusterBreakNames : List (List String) := [
  ["CR"],
  ["Control", "CN"],
  ["E_Base", "EB"],
  ["E_Base_GAZ", "EBG"],
  ["E_Modifier", "EM"],
  ["Extend", "EX"],
  ["Glue_After_Zwj", "GAZ"],
  ["L"],
  ["LF"],
  ["LV"],
  ["LVT"],
  ["Other", "XX"],
  ["Prepend", "PP"],
  ["Regional_Indicator", "RI"],
  ["SpacingMark", "SM"],
  ["T"],
  ["V"],
  ["ZWJ"]]

/-- The values of Word_Break. -/
def wordBreakNames : List (List String) := [
  ["ALetter", "LE"],
  ["CR"],
  ["Double_Quote", "DQ"],
  ["E_Base", "EB"],
  ["E_Base_GAZ", "EBG"],
  ["E_Modifier", "EM"],
  ["Extend"],
  ["ExtendNumLet", "EX"],
  ["Format", "FO"],
  ["Glue_After_Zwj", "GAZ"],
  ["Hebrew_Letter", "HL"],
  ["Katakana", "KA"],
  ["LF"],
  ["MidLetter", "ML"],
  ["MidNum", "MN"],
  ["MidNumLet", "MB"],
  ["Newline", "NL"],
  ["Numeric", "NU"],
  ["Other", "XX"],
  ["Regional_Indicator", "RI"],
  ["Single_Quote", "SQ"],
  ["WSegSpace"],
  ["ZWJ"]]

/-- The values of Sentence_Break. -/
def sentenceBreakNames : List (List String) := [
  ["ATerm", "AT"],
  ["CR"],
  ["Close", "CL"],
  ["Extend", "EX"],
  ["Format", "FO"],
  ["LF"],
  ["Lower", "LO"],
  ["Numeric", "NU"],
  ["OLetter", "LE"],
  ["Other", "XX"],
  ["SContinue", "SC"],
  ["STerm", "ST"],
  ["Sep", "SE"],
  ["Sp", "SP"],
  ["Upper", "UP"]]

end Fieldwise.Unicode.Data
