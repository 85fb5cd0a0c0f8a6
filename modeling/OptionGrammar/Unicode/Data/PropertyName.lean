/-
Names of the properties of the Unicode character database (version 16.0).
-/

namespace OptionGrammar.Unicode.Data

/- The properties of the character database, by long name, with every name they go by. -/
def propertyNames : List (String × List String) := [
  ("kAccountingNumeric", ["kAccountingNumeric", "cjkAccountingNumeric"]),
  ("kOtherNumeric", ["kOtherNumeric", "cjkOtherNumeric"]),
  ("kPrimaryNumeric", ["kPrimaryNumeric", "cjkPrimaryNumeric"]),
  ("Numeric_Value", ["Numeric_Value", "nv"]),
  ("Bidi_Mirroring_Glyph", ["Bidi_Mirroring_Glyph", "bmg"]),
  ("Bidi_Paired_Bracket", ["Bidi_Paired_Bracket", "bpb"]),
  ("Case_Folding", ["Case_Folding", "cf"]),
  ("kCompatibilityVariant", ["kCompatibilityVariant", "cjkCompatibilityVariant"]),
  ("Decomposition_Mapping", ["Decomposition_Mapping", "dm"]),
  ("Equivalent_Unified_Ideograph", ["Equivalent_Unified_Ideograph", "EqUIdeo"]),
  ("FC_NFKC_Closure", ["FC_NFKC_Closure", "FC_NFKC"]),
  ("Lowercase_Mapping", ["Lowercase_Mapping", "lc"]),
  ("NFKC_Casefold", ["NFKC_Casefold", "NFKC_CF"]),
  ("NFKC_Simple_Casefold", ["NFKC_Simple_Casefold", "NFKC_SCF"]),
  ("Simple_Case_Folding", ["Simple_Case_Folding", "scf", "sfc"]),
  ("Simple_Lowercase_Mapping", ["Simple_Lowercase_Mapping", "slc"]),
  ("Simple_Titlecase_Mapping", ["Simple_Titlecase_Mapping", "stc"]),
  ("Simple_Uppercase_Mapping", ["Simple_Uppercase_Mapping", "suc"]),
  ("Titlecase_Mapping", ["Titlecase_Mapping", "tc"]),
  ("Uppercase_Mapping", ["Uppercase_Mapping", "uc"]),
  ("kIICore", ["kIICore", "cjkIICore"]),
  ("kIRG_GSource", ["kIRG_GSource", "cjkIRG_GSource"]),
  ("kIRG_HSource", ["kIRG_HSource", "cjkIRG_HSource"]),
  ("kIRG_JSource", ["kIRG_JSource", "cjkIRG_JSource"]),
  ("kIRG_KPSource", ["kIRG_KPSource", "cjkIRG_KPSource"]),
  ("kIRG_KSource", ["kIRG_KSource", "cjkIRG_KSource"]),
  ("kIRG_MSource", ["kIRG_MSource", "cjkIRG_MSource"]),
  ("kIRG_SSource", ["kIRG_SSource", "cjkIRG_SSource"]),
  ("kIRG_TSource", ["kIRG_TSource", "cjkIRG_TSource"]),
  ("kIRG_UKSource", ["kIRG_UKSource", "cjkIRG_UKSource"]),
  ("kIRG_USource", ["kIRG_USource", "cjkIRG_USource"]),
  ("kIRG_VSource", ["kIRG_VSource", "cjkIRG_VSource"]),
  ("kRSUnicode", ["kRSUnicode", "cjkRSUnicode", "Unicode_Radical_Stroke", "URS"]),
  ("ISO_Comment", ["ISO_Comment", "isc"]),
  ("Jamo_Short_Name", ["Jamo_Short_Name", "JSN"]),
  ("Name", ["Name", "na"]),
  ("Unicode_1_Name", ["Unicode_1_Name", "na1"]),
  ("Name_Alias", ["Name_Alias", "Name_Alias"]),
  ("Script_Extensions", ["Script_Extensions", "scx"]),
  ("Age", ["Age", "age"]),
  ("Block", ["Block", "blk"]),
  ("Script", ["Script", "sc"]),
  ("Bidi_Class", ["Bidi_Class", "bc"]),
  ("Bidi_Paired_Bracket_Type", ["Bidi_Paired_Bracket_Type", "bpt"]),
  ("Canonical_Combining_Class", ["Canonical_Combining_Class", "ccc"]),
  ("Decomposition_Type", ["Decomposition_Type", "dt"]),
  ("East_Asian_Width", ["East_Asian_Width", "ea"]),
  ("General_Category", ["General_Category", "gc"]),
  ("Grapheme_Cluster_Break", ["Grapheme_Cluster_Break", "GCB"]),
  ("Hangul_Syllable_Type", ["Hangul_Syllable_Type", "hst"]),
  ("Indic_Conjunct_Break", ["Indic_Conjunct_Break", "InCB"]),
  ("Indic_Positional_Category", ["Indic_Positional_Category", "InPC"]),
  ("Indic_Syllabic_Category", ["Indic_Syllabic_Category", "InSC"]),
  ("Joining_Group", ["Joining_Group", "jg"]),
  ("Joining_Type", ["Joining_Type", "jt"]),
  ("Line_Break", ["Line_Break", "lb"]),
  ("NFC_Quick_Check", ["NFC_Quick_Check", "NFC_QC"]),
  ("NFD_Quick_Check", ["NFD_Quick_Check", "NFD_QC"]),
  ("NFKC_Quick_Check", ["NFKC_Quick_Check", "NFKC_QC"]),
  ("NFKD_Quick_Check", ["NFKD_Quick_Check", "NFKD_QC"]),
  ("Numeric_Type", ["Numeric_Type", "nt"]),
  ("Sentence_Break", ["Sentence_Break", "SB"]),
  ("Vertical_Orientation", ["Vertical_Orientation", "vo"]),
  ("Word_Break", ["Word_Break", "WB"]),
  ("ASCII_Hex_Digit", ["ASCII_Hex_Digit", "AHex"]),
  ("Alphabetic", ["Alphabetic", "Alpha"]),
  ("Bidi_Control", ["Bidi_Control", "Bidi_C"]),
  ("Bidi_Mirrored", ["Bidi_Mirrored", "Bidi_M"]),
  ("Cased", ["Cased", "Cased"]),
  ("Composition_Exclusion", ["Composition_Exclusion", "CE"]),
  ("Case_Ignorable", ["Case_Ignorable", "CI"]),
  ("Full_Composition_Exclusion", ["Full_Composition_Exclusion", "Comp_Ex"]),
  ("Changes_When_Casefolded", ["Changes_When_Casefolded", "CWCF"]),
  ("Changes_When_Casemapped", ["Changes_When_Casemapped", "CWCM"]),
  ("Changes_When_NFKC_Casefolded", ["Changes_When_NFKC_Casefolded", "CWKCF"]),
  ("Changes_When_Lowercased", ["Changes_When_Lowercased", "CWL"]),
  ("Changes_When_Titlecased", ["Changes_When_Titlecased", "CWT"]),
  ("Changes_When_Uppercased", ["Changes_When_Uppercased", "CWU"]),
  ("Dash", ["Dash", "Dash"]),
  ("Deprecated", ["Deprecated", "Dep"]),
  ("Default_Ignorable_Code_Point", ["Default_Ignorable_Code_Point", "DI"]),
  ("Diacritic", ["Diacritic", "Dia"]),
  ("Emoji_Modifier_Base", ["Emoji_Modifier_Base", "EBase"]),
  ("Emoji_Component", ["Emoji_Component", "EComp"]),
  ("Emoji_Modifier", ["Emoji_Modifier", "EMod"]),
  ("Emoji", ["Emoji", "Emoji"]),
  ("Emoji_Presentation", ["Emoji_Presentation", "EPres"]),
  ("Extender", ["Extender", "Ext"]),
  ("Extended_Pictographic", ["Extended_Pictographic", "ExtPict"]),
  ("Grapheme_Base", ["Grapheme_Base", "Gr_Base"]),
  ("Grapheme_Extend", ["Grapheme_Extend", "Gr_Ext"]),
  ("Grapheme_Link", ["Grapheme_Link", "Gr_Link"]),
  ("Hex_Digit", ["Hex_Digit", "Hex"]),
  ("Hyphen", ["Hyphen", "Hyphen"]),
  ("ID_Continue", ["ID_Continue", "IDC"]),
  ("Ideographic", ["Ideographic", "Ideo"]),
  ("ID_Start", ["ID_Start", "IDS"]),
  ("IDS_Binary_Operator", ["IDS_Binary_Operator", "IDSB"]),
  ("IDS_Trinary_Operator", ["IDS_Trinary_Operator", "IDST"]),
  ("IDS_Unary_Operator", ["IDS_Unary_Operator", "IDSU"]),
  ("ID_Compat_Math_Continue", ["ID_Compat_Math_Continue", "ID_Compat_Math_Continue"]),
  ("ID_Compat_Math_Start", ["ID_Compat_Math_Start", "ID_Compat_Math_Start"]),
  ("Join_Control", ["Join_Control", "Join_C"]),
  ("Logical_Order_Exception", ["Logical_Order_Exception", "LOE"]),
  ("Lowercase", ["Lowercase", "Lower"]),
  ("Math", ["Math", "Math"]),
  ("Modifier_Combining_Mark", ["Modifier_Combining_Mark", "MCM"]),
  ("Noncharacter_Code_Point", ["Noncharacter_Code_Point", "NChar"]),
  ("Other_Alphabetic", ["Other_Alphabetic", "OAlpha"]),
  ("Other_Default_Ignorable_Code_Point", ["Other_Default_Ignorable_Code_Point", "ODI"]),
  ("Other_Grapheme_Extend", ["Other_Grapheme_Extend", "OGr_Ext"]),
  ("Other_ID_Continue", ["Other_ID_Continue", "OIDC"]),
  ("Other_ID_Start", ["Other_ID_Start", "OIDS"]),
  ("Other_Lowercase", ["Other_Lowercase", "OLower"]),
  ("Other_Math", ["Other_Math", "OMath"]),
  ("Other_Uppercase", ["Other_Uppercase", "OUpper"]),
  ("Pattern_Syntax", ["Pattern_Syntax", "Pat_Syn"]),
  ("Pattern_White_Space", ["Pattern_White_Space", "Pat_WS"]),
  ("Prepended_Concatenation_Mark", ["Prepended_Concatenation_Mark", "PCM"]),
  ("Quotation_Mark", ["Quotation_Mark", "QMark"]),
  ("Radical", ["Radical", "Radical"]),
  ("Regional_Indicator", ["Regional_Indicator", "RI"]),
  ("Soft_Dotted", ["Soft_Dotted", "SD"]),
  ("Sentence_Terminal", ["Sentence_Terminal", "STerm"]),
  ("Terminal_Punctuation", ["Terminal_Punctuation", "Term"]),
  ("Unified_Ideograph", ["Unified_Ideograph", "UIdeo"]),
  ("Uppercase", ["Uppercase", "Upper"]),
  ("Variation_Selector", ["Variation_Selector", "VS"]),
  ("White_Space", ["White_Space", "WSpace", "space"]),
  ("XID_Continue", ["XID_Continue", "XIDC"]),
  ("XID_Start", ["XID_Start", "XIDS"]),
  ("Expands_On_NFC", ["Expands_On_NFC", "XO_NFC"]),
  ("Expands_On_NFD", ["Expands_On_NFD", "XO_NFD"]),
  ("Expands_On_NFKC", ["Expands_On_NFKC", "XO_NFKC"]),
  ("Expands_On_NFKD", ["Expands_On_NFKD", "XO_NFKD"])]

end OptionGrammar.Unicode.Data
