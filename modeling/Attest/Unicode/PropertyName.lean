import Attest.Unicode.Property

/-!
# Names of properties

Property names are compared loosely: case, blanks, hyphens, underscores and a leading `is` do not
count, nor do characters beyond ASCII. A name alone means a binary property, a general category or a
script, in this order of preference; a name with a value means a category or a script of that name.
-/

namespace Attest.Unicode

/-- The part of a name that counts in a comparison. -/
def looseName (name : List Char) : List Char :=
  let body : List Char := match name with
    | c :: d :: rest => if c.toLower = 'i' ∧ d.toLower = 's' then rest else name
    | _ => name
  let kept : List Char := (body.filter fun c =>
    c.toNat < 0x80 && c != ' ' && c != '_' && c != '-').map Char.toLower
  if kept = ['c'] ∧ body.length ≠ name.length then ['i', 's', 'c'] else kept

/-- Whether a loose name is one of the given names. -/
def namedBy (names : List String) (loose : List Char) : Bool :=
  names.any fun name => looseName name.toList == loose

/-- The names of general categories and of groups of them, where assigned characters are meant. -/
def categoryNames : List (List String × List Category) :=
  [
    (["Cc", "Control", "cntrl"], [.control]),
    (["Cf", "Format"], [.format]),
    (["Co", "Private_Use"], [.privateUse]),
    (["L", "Letter"], Category.letters),
    (["LC", "Cased_Letter"], Category.casedLetters),
    (["Ll", "Lowercase_Letter"], [.lowercaseLetter]),
    (["Lm", "Modifier_Letter"], [.modifierLetter]),
    (["Lo", "Other_Letter"], [.otherLetter]),
    (["Lt", "Titlecase_Letter"], [.titlecaseLetter]),
    (["Lu", "Uppercase_Letter"], [.uppercaseLetter]),
    (["M", "Mark", "Combining_Mark"], Category.marks),
    (["Mc", "Spacing_Mark"], [.spacingMark]),
    (["Me", "Enclosing_Mark"], [.enclosingMark]),
    (["Mn", "Nonspacing_Mark"], [.nonspacingMark]),
    (["N", "Number"], Category.numbers),
    (["Nd", "Decimal_Number", "digit"], [.decimalNumber]),
    (["Nl", "Letter_Number"], [.letterNumber]),
    (["No", "Other_Number"], [.otherNumber]),
    (["P", "Punctuation", "punct"], Category.punctuation),
    (["Pc", "Connector_Punctuation"], [.connectorPunctuation]),
    (["Pd", "Dash_Punctuation"], [.dashPunctuation]),
    (["Pe", "Close_Punctuation"], [.closePunctuation]),
    (["Pf", "Final_Punctuation"], [.finalPunctuation]),
    (["Pi", "Initial_Punctuation"], [.initialPunctuation]),
    (["Po", "Other_Punctuation"], [.otherPunctuation]),
    (["Ps", "Open_Punctuation"], [.openPunctuation]),
    (["S", "Symbol"], Category.symbols),
    (["Sc", "Currency_Symbol"], [.currencySymbol]),
    (["Sk", "Modifier_Symbol"], [.modifierSymbol]),
    (["Sm", "Math_Symbol"], [.mathSymbol]),
    (["So", "Other_Symbol"], [.otherSymbol]),
    (["Z", "Separator"], Category.separators),
    (["Zl", "Line_Separator"], [.lineSeparator]),
    (["Zp", "Paragraph_Separator"], [.paragraphSeparator]),
    (["Zs", "Space_Separator"], [.spaceSeparator])
  ]

/-- The names of binary properties. -/
def binaryNames : List (List String × Property) :=
  [
    (["AHex", "ASCII_Hex_Digit"], .listed .asciiHexDigit),
    (["Alpha", "Alphabetic"], .alphabetic),
    (["Bidi_C", "Bidi_Control"], .listed .bidiControl),
    (["Bidi_M", "Bidi_Mirrored"], .listed .bidiMirrored),
    (["Cased"], .cased),
    (["CI", "Case_Ignorable"], .caseIgnorable),
    (["CWCF", "Changes_When_Casefolded"], .listed .changesWhenCasefolded),
    (["CWCM", "Changes_When_Casemapped"], .casemapped),
    (["CWL", "Changes_When_Lowercased"], .listed .changesWhenLowercased),
    (["CWT", "Changes_When_Titlecased"], .listed .changesWhenTitlecased),
    (["CWU", "Changes_When_Uppercased"], .listed .changesWhenUppercased),
    (["Dash"], .listed .dash),
    (["Dep", "Deprecated"], .listed .deprecated),
    (["DI", "Default_Ignorable_Code_Point"], .defaultIgnorable),
    (["Dia", "Diacritic"], .listed .diacritic),
    (["EBase", "Emoji_Modifier_Base"], .listed .emojiModifierBase),
    (["EComp", "Emoji_Component"], .listed .emojiComponent),
    (["EMod", "Emoji_Modifier"], .listed .emojiModifier),
    (["Emoji"], .listed .emoji),
    (["EPres", "Emoji_Presentation"], .listed .emojiPresentation),
    (["Ext", "Extender"], .listed .extender),
    (["ExtPict", "Extended_Pictographic"], .listed .extendedPictographic),
    (["Gr_Base", "Grapheme_Base"], .graphemeBase),
    (["Gr_Ext", "Grapheme_Extend"], .graphemeExtend),
    (["Gr_Link", "Grapheme_Link"], .listed .graphemeLink),
    (["Hex", "Hex_Digit"], .listed .hexDigit),
    (["Hyphen"], .listed .hyphen),
    (["ID_Compat_Math_Continue"], .listed .idCompatMathContinue),
    (["ID_Compat_Math_Start"], .listed .idCompatMathStart),
    (["IDC", "ID_Continue"], .idContinue),
    (["Ideo", "Ideographic"], .listed .ideographic),
    (["IDS", "ID_Start"], .idStart),
    (["IDSB", "IDS_Binary_Operator"], .listed .idsBinaryOperator),
    (["IDST", "IDS_Trinary_Operator"], .listed .idsTrinaryOperator),
    (["IDSU", "IDS_Unary_Operator"], .listed .idsUnaryOperator),
    (["Join_C", "Join_Control"], .listed .joinControl),
    (["LOE", "Logical_Order_Exception"], .listed .logicalOrderException),
    (["Lower", "Lowercase"], .lowercase),
    (["Math"], .math),
    (["MCM", "Modifier_Combining_Mark"], .listed .modifierCombiningMark),
    (["NChar", "Noncharacter_Code_Point"], .listed .noncharacterCodePoint),
    (["OAlpha", "Other_Alphabetic"], .listed .otherAlphabetic),
    (["ODI", "Other_Default_Ignorable_Code_Point"], .listed .otherDefaultIgnorable),
    (["OGr_Ext", "Other_Grapheme_Extend"], .listed .otherGraphemeExtend),
    (["OIDC", "Other_ID_Continue"], .listed .otherIdContinue),
    (["OIDS", "Other_ID_Start"], .listed .otherIdStart),
    (["OLower", "Other_Lowercase"], .listed .otherLowercase),
    (["OMath", "Other_Math"], .listed .otherMath),
    (["OUpper", "Other_Uppercase"], .listed .otherUppercase),
    (["Pat_Syn", "Pattern_Syntax"], .listed .patternSyntax),
    (["Pat_WS", "Pattern_White_Space"], .listed .patternWhiteSpace),
    (["PCM", "Prepended_Concatenation_Mark"], .listed .prependedConcatenationMark),
    (["QMark", "Quotation_Mark"], .listed .quotationMark),
    (["Radical"], .listed .radical),
    (["RI", "Regional_Indicator"], .listed .regionalIndicator),
    (["SD", "Soft_Dotted"], .listed .softDotted),
    (["space", "White_Space", "WSpace"], .whiteSpace),
    (["STerm", "Sentence_Terminal"], .listed .sentenceTerminal),
    (["Term", "Terminal_Punctuation"], .listed .terminalPunctuation),
    (["UIdeo", "Unified_Ideograph"], .listed .unifiedIdeograph),
    (["Upper", "Uppercase"], .uppercase),
    (["VS", "Variation_Selector"], .listed .variationSelector),
    (["XIDC", "XID_Continue"], .xidContinue),
    (["XIDS", "XID_Start"], .xidStart)
  ]

/-- The property named among general categories, the whole range and its assigned part. -/
def categoryProperty? (loose : List Char) : Option Property :=
  if loose == "any".toList then some .any
  else if loose == "assigned".toList then some .assigned
  else if loose == "ascii".toList then some .ascii
  else if namedBy ["Cn", "Unassigned"] loose then some .unassigned
  else if namedBy ["C", "Other"] loose then some .other
  else (categoryNames.find? fun entry => namedBy entry.1 loose).map (.categories ·.2)

/-- The script with a name. -/
def scriptNamed? (loose : List Char) : Option Script :=
  Script.all.find? fun script => namedBy script.names loose

/-- The property with a name. -/
def Property.named? (name : List Char) : Option Property :=
  let loose := looseName name
  ((binaryNames.find? fun entry => namedBy entry.1 loose).map (·.2))
    <|> categoryProperty? loose
    <|> (scriptNamed? loose).map .script

/-- The property with a name and a value. -/
def Property.valued? (name value : List Char) : Option Property :=
  let property := looseName name
  let loose := looseName value
  if namedBy ["gc", "General_Category"] property then categoryProperty? loose
  else if namedBy ["sc", "Script"] property then (scriptNamed? loose).map .script
  else if namedBy ["scx", "Script_Extensions"] property then (scriptNamed? loose).map .scriptUse
  else none

end Attest.Unicode
