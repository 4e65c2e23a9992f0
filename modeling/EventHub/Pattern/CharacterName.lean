/-!
# Names of characters

The standard names of common characters: of letters, digits, accents, punctuation, arrows, signs
and pictures. Ideographs are named by their number. Letter case does not count but in the names
of ideographs.

* `CharacterName.code?`: the character of a name.
-/

namespace EventHub.Pattern.CharacterName

/-- The names of characters that follow each other. -/
structure Run where
  first : Nat
  names : List String

private def basicNames : List Run :=
  [⟨0x20, ["SPACE", "EXCLAMATION MARK", "QUOTATION MARK", "NUMBER SIGN", "DOLLAR SIGN",
     "PERCENT SIGN", "AMPERSAND", "APOSTROPHE", "LEFT PARENTHESIS", "RIGHT PARENTHESIS",
     "ASTERISK", "PLUS SIGN", "COMMA", "HYPHEN-MINUS", "FULL STOP", "SOLIDUS", "DIGIT ZERO",
     "DIGIT ONE", "DIGIT TWO", "DIGIT THREE", "DIGIT FOUR", "DIGIT FIVE", "DIGIT SIX",
     "DIGIT SEVEN", "DIGIT EIGHT", "DIGIT NINE", "COLON", "SEMICOLON", "LESS-THAN SIGN",
     "EQUALS SIGN", "GREATER-THAN SIGN", "QUESTION MARK", "COMMERCIAL AT",
     "LATIN CAPITAL LETTER A", "LATIN CAPITAL LETTER B", "LATIN CAPITAL LETTER C",
     "LATIN CAPITAL LETTER D", "LATIN CAPITAL LETTER E", "LATIN CAPITAL LETTER F",
     "LATIN CAPITAL LETTER G", "LATIN CAPITAL LETTER H", "LATIN CAPITAL LETTER I",
     "LATIN CAPITAL LETTER J", "LATIN CAPITAL LETTER K", "LATIN CAPITAL LETTER L",
     "LATIN CAPITAL LETTER M", "LATIN CAPITAL LETTER N", "LATIN CAPITAL LETTER O",
     "LATIN CAPITAL LETTER P", "LATIN CAPITAL LETTER Q", "LATIN CAPITAL LETTER R",
     "LATIN CAPITAL LETTER S", "LATIN CAPITAL LETTER T", "LATIN CAPITAL LETTER U",
     "LATIN CAPITAL LETTER V", "LATIN CAPITAL LETTER W", "LATIN CAPITAL LETTER X",
     "LATIN CAPITAL LETTER Y", "LATIN CAPITAL LETTER Z", "LEFT SQUARE BRACKET",
     "REVERSE SOLIDUS", "RIGHT SQUARE BRACKET", "CIRCUMFLEX ACCENT", "LOW LINE", "GRAVE ACCENT",
     "LATIN SMALL LETTER A", "LATIN SMALL LETTER B", "LATIN SMALL LETTER C",
     "LATIN SMALL LETTER D", "LATIN SMALL LETTER E", "LATIN SMALL LETTER F",
     "LATIN SMALL LETTER G", "LATIN SMALL LETTER H", "LATIN SMALL LETTER I",
     "LATIN SMALL LETTER J", "LATIN SMALL LETTER K", "LATIN SMALL LETTER L",
     "LATIN SMALL LETTER M", "LATIN SMALL LETTER N", "LATIN SMALL LETTER O",
     "LATIN SMALL LETTER P", "LATIN SMALL LETTER Q", "LATIN SMALL LETTER R",
     "LATIN SMALL LETTER S", "LATIN SMALL LETTER T", "LATIN SMALL LETTER U",
     "LATIN SMALL LETTER V", "LATIN SMALL LETTER W", "LATIN SMALL LETTER X",
     "LATIN SMALL LETTER Y", "LATIN SMALL LETTER Z", "LEFT CURLY BRACKET", "VERTICAL LINE",
     "RIGHT CURLY BRACKET", "TILDE"]⟩]

private def latinNames : List Run :=
  [⟨0xa0, ["NO-BREAK SPACE", "INVERTED EXCLAMATION MARK", "CENT SIGN", "POUND SIGN",
     "CURRENCY SIGN", "YEN SIGN", "BROKEN BAR", "SECTION SIGN", "DIAERESIS", "COPYRIGHT SIGN",
     "FEMININE ORDINAL INDICATOR", "LEFT-POINTING DOUBLE ANGLE QUOTATION MARK", "NOT SIGN",
     "SOFT HYPHEN", "REGISTERED SIGN", "MACRON", "DEGREE SIGN", "PLUS-MINUS SIGN",
     "SUPERSCRIPT TWO", "SUPERSCRIPT THREE", "ACUTE ACCENT", "MICRO SIGN", "PILCROW SIGN",
     "MIDDLE DOT", "CEDILLA", "SUPERSCRIPT ONE", "MASCULINE ORDINAL INDICATOR",
     "RIGHT-POINTING DOUBLE ANGLE QUOTATION MARK", "VULGAR FRACTION ONE QUARTER",
     "VULGAR FRACTION ONE HALF", "VULGAR FRACTION THREE QUARTERS", "INVERTED QUESTION MARK",
     "LATIN CAPITAL LETTER A WITH GRAVE", "LATIN CAPITAL LETTER A WITH ACUTE",
     "LATIN CAPITAL LETTER A WITH CIRCUMFLEX", "LATIN CAPITAL LETTER A WITH TILDE",
     "LATIN CAPITAL LETTER A WITH DIAERESIS", "LATIN CAPITAL LETTER A WITH RING ABOVE",
     "LATIN CAPITAL LETTER AE", "LATIN CAPITAL LETTER C WITH CEDILLA",
     "LATIN CAPITAL LETTER E WITH GRAVE", "LATIN CAPITAL LETTER E WITH ACUTE",
     "LATIN CAPITAL LETTER E WITH CIRCUMFLEX", "LATIN CAPITAL LETTER E WITH DIAERESIS",
     "LATIN CAPITAL LETTER I WITH GRAVE", "LATIN CAPITAL LETTER I WITH ACUTE",
     "LATIN CAPITAL LETTER I WITH CIRCUMFLEX", "LATIN CAPITAL LETTER I WITH DIAERESIS",
     "LATIN CAPITAL LETTER ETH", "LATIN CAPITAL LETTER N WITH TILDE",
     "LATIN CAPITAL LETTER O WITH GRAVE", "LATIN CAPITAL LETTER O WITH ACUTE",
     "LATIN CAPITAL LETTER O WITH CIRCUMFLEX", "LATIN CAPITAL LETTER O WITH TILDE",
     "LATIN CAPITAL LETTER O WITH DIAERESIS", "MULTIPLICATION SIGN",
     "LATIN CAPITAL LETTER O WITH STROKE", "LATIN CAPITAL LETTER U WITH GRAVE",
     "LATIN CAPITAL LETTER U WITH ACUTE", "LATIN CAPITAL LETTER U WITH CIRCUMFLEX",
     "LATIN CAPITAL LETTER U WITH DIAERESIS", "LATIN CAPITAL LETTER Y WITH ACUTE",
     "LATIN CAPITAL LETTER THORN", "LATIN SMALL LETTER SHARP S",
     "LATIN SMALL LETTER A WITH GRAVE", "LATIN SMALL LETTER A WITH ACUTE",
     "LATIN SMALL LETTER A WITH CIRCUMFLEX", "LATIN SMALL LETTER A WITH TILDE",
     "LATIN SMALL LETTER A WITH DIAERESIS", "LATIN SMALL LETTER A WITH RING ABOVE",
     "LATIN SMALL LETTER AE", "LATIN SMALL LETTER C WITH CEDILLA",
     "LATIN SMALL LETTER E WITH GRAVE", "LATIN SMALL LETTER E WITH ACUTE",
     "LATIN SMALL LETTER E WITH CIRCUMFLEX", "LATIN SMALL LETTER E WITH DIAERESIS",
     "LATIN SMALL LETTER I WITH GRAVE", "LATIN SMALL LETTER I WITH ACUTE",
     "LATIN SMALL LETTER I WITH CIRCUMFLEX", "LATIN SMALL LETTER I WITH DIAERESIS",
     "LATIN SMALL LETTER ETH", "LATIN SMALL LETTER N WITH TILDE",
     "LATIN SMALL LETTER O WITH GRAVE", "LATIN SMALL LETTER O WITH ACUTE",
     "LATIN SMALL LETTER O WITH CIRCUMFLEX", "LATIN SMALL LETTER O WITH TILDE",
     "LATIN SMALL LETTER O WITH DIAERESIS", "DIVISION SIGN", "LATIN SMALL LETTER O WITH STROKE",
     "LATIN SMALL LETTER U WITH GRAVE", "LATIN SMALL LETTER U WITH ACUTE",
     "LATIN SMALL LETTER U WITH CIRCUMFLEX", "LATIN SMALL LETTER U WITH DIAERESIS",
     "LATIN SMALL LETTER Y WITH ACUTE", "LATIN SMALL LETTER THORN",
     "LATIN SMALL LETTER Y WITH DIAERESIS"]⟩]

private def latinMoreNames : List Run :=
  [⟨0x100, ["LATIN CAPITAL LETTER A WITH MACRON", "LATIN SMALL LETTER A WITH MACRON",
     "LATIN CAPITAL LETTER A WITH BREVE", "LATIN SMALL LETTER A WITH BREVE",
     "LATIN CAPITAL LETTER A WITH OGONEK", "LATIN SMALL LETTER A WITH OGONEK",
     "LATIN CAPITAL LETTER C WITH ACUTE", "LATIN SMALL LETTER C WITH ACUTE",
     "LATIN CAPITAL LETTER C WITH CIRCUMFLEX", "LATIN SMALL LETTER C WITH CIRCUMFLEX",
     "LATIN CAPITAL LETTER C WITH DOT ABOVE", "LATIN SMALL LETTER C WITH DOT ABOVE",
     "LATIN CAPITAL LETTER C WITH CARON", "LATIN SMALL LETTER C WITH CARON",
     "LATIN CAPITAL LETTER D WITH CARON", "LATIN SMALL LETTER D WITH CARON",
     "LATIN CAPITAL LETTER D WITH STROKE", "LATIN SMALL LETTER D WITH STROKE",
     "LATIN CAPITAL LETTER E WITH MACRON", "LATIN SMALL LETTER E WITH MACRON",
     "LATIN CAPITAL LETTER E WITH BREVE", "LATIN SMALL LETTER E WITH BREVE",
     "LATIN CAPITAL LETTER E WITH DOT ABOVE", "LATIN SMALL LETTER E WITH DOT ABOVE",
     "LATIN CAPITAL LETTER E WITH OGONEK", "LATIN SMALL LETTER E WITH OGONEK",
     "LATIN CAPITAL LETTER E WITH CARON", "LATIN SMALL LETTER E WITH CARON",
     "LATIN CAPITAL LETTER G WITH CIRCUMFLEX", "LATIN SMALL LETTER G WITH CIRCUMFLEX",
     "LATIN CAPITAL LETTER G WITH BREVE", "LATIN SMALL LETTER G WITH BREVE",
     "LATIN CAPITAL LETTER G WITH DOT ABOVE", "LATIN SMALL LETTER G WITH DOT ABOVE",
     "LATIN CAPITAL LETTER G WITH CEDILLA", "LATIN SMALL LETTER G WITH CEDILLA",
     "LATIN CAPITAL LETTER H WITH CIRCUMFLEX", "LATIN SMALL LETTER H WITH CIRCUMFLEX",
     "LATIN CAPITAL LETTER H WITH STROKE", "LATIN SMALL LETTER H WITH STROKE",
     "LATIN CAPITAL LETTER I WITH TILDE", "LATIN SMALL LETTER I WITH TILDE",
     "LATIN CAPITAL LETTER I WITH MACRON", "LATIN SMALL LETTER I WITH MACRON",
     "LATIN CAPITAL LETTER I WITH BREVE", "LATIN SMALL LETTER I WITH BREVE",
     "LATIN CAPITAL LETTER I WITH OGONEK", "LATIN SMALL LETTER I WITH OGONEK",
     "LATIN CAPITAL LETTER I WITH DOT ABOVE", "LATIN SMALL LETTER DOTLESS I",
     "LATIN CAPITAL LIGATURE IJ", "LATIN SMALL LIGATURE IJ",
     "LATIN CAPITAL LETTER J WITH CIRCUMFLEX", "LATIN SMALL LETTER J WITH CIRCUMFLEX",
     "LATIN CAPITAL LETTER K WITH CEDILLA", "LATIN SMALL LETTER K WITH CEDILLA",
     "LATIN SMALL LETTER KRA", "LATIN CAPITAL LETTER L WITH ACUTE",
     "LATIN SMALL LETTER L WITH ACUTE", "LATIN CAPITAL LETTER L WITH CEDILLA",
     "LATIN SMALL LETTER L WITH CEDILLA", "LATIN CAPITAL LETTER L WITH CARON",
     "LATIN SMALL LETTER L WITH CARON", "LATIN CAPITAL LETTER L WITH MIDDLE DOT",
     "LATIN SMALL LETTER L WITH MIDDLE DOT", "LATIN CAPITAL LETTER L WITH STROKE",
     "LATIN SMALL LETTER L WITH STROKE", "LATIN CAPITAL LETTER N WITH ACUTE",
     "LATIN SMALL LETTER N WITH ACUTE", "LATIN CAPITAL LETTER N WITH CEDILLA",
     "LATIN SMALL LETTER N WITH CEDILLA", "LATIN CAPITAL LETTER N WITH CARON",
     "LATIN SMALL LETTER N WITH CARON", "LATIN SMALL LETTER N PRECEDED BY APOSTROPHE",
     "LATIN CAPITAL LETTER ENG", "LATIN SMALL LETTER ENG", "LATIN CAPITAL LETTER O WITH MACRON",
     "LATIN SMALL LETTER O WITH MACRON", "LATIN CAPITAL LETTER O WITH BREVE",
     "LATIN SMALL LETTER O WITH BREVE", "LATIN CAPITAL LETTER O WITH DOUBLE ACUTE",
     "LATIN SMALL LETTER O WITH DOUBLE ACUTE", "LATIN CAPITAL LIGATURE OE",
     "LATIN SMALL LIGATURE OE", "LATIN CAPITAL LETTER R WITH ACUTE",
     "LATIN SMALL LETTER R WITH ACUTE", "LATIN CAPITAL LETTER R WITH CEDILLA",
     "LATIN SMALL LETTER R WITH CEDILLA", "LATIN CAPITAL LETTER R WITH CARON",
     "LATIN SMALL LETTER R WITH CARON", "LATIN CAPITAL LETTER S WITH ACUTE",
     "LATIN SMALL LETTER S WITH ACUTE", "LATIN CAPITAL LETTER S WITH CIRCUMFLEX",
     "LATIN SMALL LETTER S WITH CIRCUMFLEX", "LATIN CAPITAL LETTER S WITH CEDILLA",
     "LATIN SMALL LETTER S WITH CEDILLA", "LATIN CAPITAL LETTER S WITH CARON",
     "LATIN SMALL LETTER S WITH CARON", "LATIN CAPITAL LETTER T WITH CEDILLA",
     "LATIN SMALL LETTER T WITH CEDILLA", "LATIN CAPITAL LETTER T WITH CARON",
     "LATIN SMALL LETTER T WITH CARON", "LATIN CAPITAL LETTER T WITH STROKE",
     "LATIN SMALL LETTER T WITH STROKE", "LATIN CAPITAL LETTER U WITH TILDE",
     "LATIN SMALL LETTER U WITH TILDE", "LATIN CAPITAL LETTER U WITH MACRON",
     "LATIN SMALL LETTER U WITH MACRON", "LATIN CAPITAL LETTER U WITH BREVE",
     "LATIN SMALL LETTER U WITH BREVE", "LATIN CAPITAL LETTER U WITH RING ABOVE",
     "LATIN SMALL LETTER U WITH RING ABOVE", "LATIN CAPITAL LETTER U WITH DOUBLE ACUTE",
     "LATIN SMALL LETTER U WITH DOUBLE ACUTE", "LATIN CAPITAL LETTER U WITH OGONEK",
     "LATIN SMALL LETTER U WITH OGONEK", "LATIN CAPITAL LETTER W WITH CIRCUMFLEX",
     "LATIN SMALL LETTER W WITH CIRCUMFLEX", "LATIN CAPITAL LETTER Y WITH CIRCUMFLEX",
     "LATIN SMALL LETTER Y WITH CIRCUMFLEX"]⟩,
   ⟨0x178, ["LATIN CAPITAL LETTER Y WITH DIAERESIS", "LATIN CAPITAL LETTER Z WITH ACUTE",
     "LATIN SMALL LETTER Z WITH ACUTE", "LATIN CAPITAL LETTER Z WITH DOT ABOVE",
     "LATIN SMALL LETTER Z WITH DOT ABOVE", "LATIN CAPITAL LETTER Z WITH CARON",
     "LATIN SMALL LETTER Z WITH CARON", "LATIN SMALL LETTER LONG S"]⟩]

private def greekNames : List Run :=
  [⟨0x386, ["GREEK CAPITAL LETTER ALPHA WITH TONOS", "GREEK ANO TELEIA",
     "GREEK CAPITAL LETTER EPSILON WITH TONOS", "GREEK CAPITAL LETTER ETA WITH TONOS",
     "GREEK CAPITAL LETTER IOTA WITH TONOS"]⟩,
   ⟨0x38c, ["GREEK CAPITAL LETTER OMICRON WITH TONOS"]⟩,
   ⟨0x38e, ["GREEK CAPITAL LETTER UPSILON WITH TONOS", "GREEK CAPITAL LETTER OMEGA WITH TONOS",
     "GREEK SMALL LETTER IOTA WITH DIALYTIKA AND TONOS", "GREEK CAPITAL LETTER ALPHA",
     "GREEK CAPITAL LETTER BETA", "GREEK CAPITAL LETTER GAMMA", "GREEK CAPITAL LETTER DELTA",
     "GREEK CAPITAL LETTER EPSILON", "GREEK CAPITAL LETTER ZETA", "GREEK CAPITAL LETTER ETA",
     "GREEK CAPITAL LETTER THETA", "GREEK CAPITAL LETTER IOTA", "GREEK CAPITAL LETTER KAPPA",
     "GREEK CAPITAL LETTER LAMDA", "GREEK CAPITAL LETTER MU", "GREEK CAPITAL LETTER NU",
     "GREEK CAPITAL LETTER XI", "GREEK CAPITAL LETTER OMICRON", "GREEK CAPITAL LETTER PI",
     "GREEK CAPITAL LETTER RHO"]⟩,
   ⟨0x3a3, ["GREEK CAPITAL LETTER SIGMA", "GREEK CAPITAL LETTER TAU",
     "GREEK CAPITAL LETTER UPSILON", "GREEK CAPITAL LETTER PHI", "GREEK CAPITAL LETTER CHI",
     "GREEK CAPITAL LETTER PSI", "GREEK CAPITAL LETTER OMEGA",
     "GREEK CAPITAL LETTER IOTA WITH DIALYTIKA", "GREEK CAPITAL LETTER UPSILON WITH DIALYTIKA",
     "GREEK SMALL LETTER ALPHA WITH TONOS", "GREEK SMALL LETTER EPSILON WITH TONOS",
     "GREEK SMALL LETTER ETA WITH TONOS", "GREEK SMALL LETTER IOTA WITH TONOS",
     "GREEK SMALL LETTER UPSILON WITH DIALYTIKA AND TONOS", "GREEK SMALL LETTER ALPHA",
     "GREEK SMALL LETTER BETA", "GREEK SMALL LETTER GAMMA", "GREEK SMALL LETTER DELTA",
     "GREEK SMALL LETTER EPSILON", "GREEK SMALL LETTER ZETA", "GREEK SMALL LETTER ETA",
     "GREEK SMALL LETTER THETA", "GREEK SMALL LETTER IOTA", "GREEK SMALL LETTER KAPPA",
     "GREEK SMALL LETTER LAMDA", "GREEK SMALL LETTER MU", "GREEK SMALL LETTER NU",
     "GREEK SMALL LETTER XI", "GREEK SMALL LETTER OMICRON", "GREEK SMALL LETTER PI",
     "GREEK SMALL LETTER RHO", "GREEK SMALL LETTER FINAL SIGMA", "GREEK SMALL LETTER SIGMA",
     "GREEK SMALL LETTER TAU", "GREEK SMALL LETTER UPSILON", "GREEK SMALL LETTER PHI",
     "GREEK SMALL LETTER CHI", "GREEK SMALL LETTER PSI", "GREEK SMALL LETTER OMEGA",
     "GREEK SMALL LETTER IOTA WITH DIALYTIKA", "GREEK SMALL LETTER UPSILON WITH DIALYTIKA",
     "GREEK SMALL LETTER OMICRON WITH TONOS", "GREEK SMALL LETTER UPSILON WITH TONOS",
     "GREEK SMALL LETTER OMEGA WITH TONOS"]⟩]

private def cyrillicNames : List Run :=
  [⟨0x401, ["CYRILLIC CAPITAL LETTER IO", "CYRILLIC CAPITAL LETTER DJE",
     "CYRILLIC CAPITAL LETTER GJE", "CYRILLIC CAPITAL LETTER UKRAINIAN IE",
     "CYRILLIC CAPITAL LETTER DZE", "CYRILLIC CAPITAL LETTER BYELORUSSIAN-UKRAINIAN I",
     "CYRILLIC CAPITAL LETTER YI", "CYRILLIC CAPITAL LETTER JE", "CYRILLIC CAPITAL LETTER LJE",
     "CYRILLIC CAPITAL LETTER NJE", "CYRILLIC CAPITAL LETTER TSHE",
     "CYRILLIC CAPITAL LETTER KJE", "CYRILLIC CAPITAL LETTER I WITH GRAVE",
     "CYRILLIC CAPITAL LETTER SHORT U", "CYRILLIC CAPITAL LETTER DZHE",
     "CYRILLIC CAPITAL LETTER A", "CYRILLIC CAPITAL LETTER BE", "CYRILLIC CAPITAL LETTER VE",
     "CYRILLIC CAPITAL LETTER GHE", "CYRILLIC CAPITAL LETTER DE", "CYRILLIC CAPITAL LETTER IE",
     "CYRILLIC CAPITAL LETTER ZHE", "CYRILLIC CAPITAL LETTER ZE", "CYRILLIC CAPITAL LETTER I",
     "CYRILLIC CAPITAL LETTER SHORT I", "CYRILLIC CAPITAL LETTER KA",
     "CYRILLIC CAPITAL LETTER EL", "CYRILLIC CAPITAL LETTER EM", "CYRILLIC CAPITAL LETTER EN",
     "CYRILLIC CAPITAL LETTER O", "CYRILLIC CAPITAL LETTER PE", "CYRILLIC CAPITAL LETTER ER",
     "CYRILLIC CAPITAL LETTER ES", "CYRILLIC CAPITAL LETTER TE", "CYRILLIC CAPITAL LETTER U",
     "CYRILLIC CAPITAL LETTER EF", "CYRILLIC CAPITAL LETTER HA", "CYRILLIC CAPITAL LETTER TSE",
     "CYRILLIC CAPITAL LETTER CHE", "CYRILLIC CAPITAL LETTER SHA",
     "CYRILLIC CAPITAL LETTER SHCHA", "CYRILLIC CAPITAL LETTER HARD SIGN",
     "CYRILLIC CAPITAL LETTER YERU", "CYRILLIC CAPITAL LETTER SOFT SIGN",
     "CYRILLIC CAPITAL LETTER E", "CYRILLIC CAPITAL LETTER YU", "CYRILLIC CAPITAL LETTER YA",
     "CYRILLIC SMALL LETTER A", "CYRILLIC SMALL LETTER BE", "CYRILLIC SMALL LETTER VE",
     "CYRILLIC SMALL LETTER GHE", "CYRILLIC SMALL LETTER DE", "CYRILLIC SMALL LETTER IE",
     "CYRILLIC SMALL LETTER ZHE", "CYRILLIC SMALL LETTER ZE", "CYRILLIC SMALL LETTER I",
     "CYRILLIC SMALL LETTER SHORT I", "CYRILLIC SMALL LETTER KA", "CYRILLIC SMALL LETTER EL",
     "CYRILLIC SMALL LETTER EM", "CYRILLIC SMALL LETTER EN", "CYRILLIC SMALL LETTER O",
     "CYRILLIC SMALL LETTER PE", "CYRILLIC SMALL LETTER ER", "CYRILLIC SMALL LETTER ES",
     "CYRILLIC SMALL LETTER TE", "CYRILLIC SMALL LETTER U", "CYRILLIC SMALL LETTER EF",
     "CYRILLIC SMALL LETTER HA", "CYRILLIC SMALL LETTER TSE", "CYRILLIC SMALL LETTER CHE",
     "CYRILLIC SMALL LETTER SHA", "CYRILLIC SMALL LETTER SHCHA",
     "CYRILLIC SMALL LETTER HARD SIGN", "CYRILLIC SMALL LETTER YERU",
     "CYRILLIC SMALL LETTER SOFT SIGN", "CYRILLIC SMALL LETTER E", "CYRILLIC SMALL LETTER YU",
     "CYRILLIC SMALL LETTER YA", "CYRILLIC SMALL LETTER IE WITH GRAVE",
     "CYRILLIC SMALL LETTER IO", "CYRILLIC SMALL LETTER DJE", "CYRILLIC SMALL LETTER GJE",
     "CYRILLIC SMALL LETTER UKRAINIAN IE", "CYRILLIC SMALL LETTER DZE",
     "CYRILLIC SMALL LETTER BYELORUSSIAN-UKRAINIAN I", "CYRILLIC SMALL LETTER YI",
     "CYRILLIC SMALL LETTER JE", "CYRILLIC SMALL LETTER LJE", "CYRILLIC SMALL LETTER NJE",
     "CYRILLIC SMALL LETTER TSHE", "CYRILLIC SMALL LETTER KJE",
     "CYRILLIC SMALL LETTER I WITH GRAVE", "CYRILLIC SMALL LETTER SHORT U",
     "CYRILLIC SMALL LETTER DZHE"]⟩]

private def punctuationNames : List Run :=
  [⟨0x2000, ["EN QUAD", "EM QUAD", "EN SPACE", "EM SPACE", "THREE-PER-EM SPACE",
     "FOUR-PER-EM SPACE", "SIX-PER-EM SPACE", "FIGURE SPACE", "PUNCTUATION SPACE", "THIN SPACE",
     "HAIR SPACE", "ZERO WIDTH SPACE", "ZERO WIDTH NON-JOINER", "ZERO WIDTH JOINER",
     "LEFT-TO-RIGHT MARK", "RIGHT-TO-LEFT MARK", "HYPHEN", "NON-BREAKING HYPHEN", "FIGURE DASH",
     "EN DASH", "EM DASH", "HORIZONTAL BAR", "DOUBLE VERTICAL LINE", "DOUBLE LOW LINE",
     "LEFT SINGLE QUOTATION MARK", "RIGHT SINGLE QUOTATION MARK", "SINGLE LOW-9 QUOTATION MARK",
     "SINGLE HIGH-REVERSED-9 QUOTATION MARK", "LEFT DOUBLE QUOTATION MARK",
     "RIGHT DOUBLE QUOTATION MARK", "DOUBLE LOW-9 QUOTATION MARK",
     "DOUBLE HIGH-REVERSED-9 QUOTATION MARK", "DAGGER", "DOUBLE DAGGER", "BULLET",
     "TRIANGULAR BULLET", "ONE DOT LEADER", "TWO DOT LEADER", "HORIZONTAL ELLIPSIS",
     "HYPHENATION POINT", "LINE SEPARATOR", "PARAGRAPH SEPARATOR", "LEFT-TO-RIGHT EMBEDDING",
     "RIGHT-TO-LEFT EMBEDDING", "POP DIRECTIONAL FORMATTING", "LEFT-TO-RIGHT OVERRIDE",
     "RIGHT-TO-LEFT OVERRIDE", "NARROW NO-BREAK SPACE", "PER MILLE SIGN",
     "PER TEN THOUSAND SIGN", "PRIME", "DOUBLE PRIME", "TRIPLE PRIME", "REVERSED PRIME",
     "REVERSED DOUBLE PRIME", "REVERSED TRIPLE PRIME", "CARET",
     "SINGLE LEFT-POINTING ANGLE QUOTATION MARK", "SINGLE RIGHT-POINTING ANGLE QUOTATION MARK",
     "REFERENCE MARK", "DOUBLE EXCLAMATION MARK", "INTERROBANG", "OVERLINE", "UNDERTIE"]⟩]

private def signNames : List Run :=
  [⟨0x20a0, ["EURO-CURRENCY SIGN", "COLON SIGN", "CRUZEIRO SIGN", "FRENCH FRANC SIGN",
     "LIRA SIGN", "MILL SIGN", "NAIRA SIGN", "PESETA SIGN", "RUPEE SIGN", "WON SIGN",
     "NEW SHEQEL SIGN", "DONG SIGN", "EURO SIGN", "KIP SIGN", "TUGRIK SIGN", "DRACHMA SIGN",
     "GERMAN PENNY SIGN", "PESO SIGN", "GUARANI SIGN", "AUSTRAL SIGN", "HRYVNIA SIGN",
     "CEDI SIGN", "LIVRE TOURNOIS SIGN", "SPESMILO SIGN", "TENGE SIGN", "INDIAN RUPEE SIGN",
     "TURKISH LIRA SIGN", "NORDIC MARK SIGN", "MANAT SIGN", "RUBLE SIGN", "LARI SIGN",
     "BITCOIN SIGN"]⟩,
   ⟨0x2103, ["DEGREE CELSIUS"]⟩,
   ⟨0x2109, ["DEGREE FAHRENHEIT"]⟩,
   ⟨0x2116, ["NUMERO SIGN"]⟩,
   ⟨0x2122, ["TRADE MARK SIGN"]⟩,
   ⟨0x2126, ["OHM SIGN"]⟩,
   ⟨0x212a, ["KELVIN SIGN", "ANGSTROM SIGN"]⟩]

private def arrowNames : List Run :=
  [⟨0x2190, ["LEFTWARDS ARROW", "UPWARDS ARROW", "RIGHTWARDS ARROW", "DOWNWARDS ARROW",
     "LEFT RIGHT ARROW", "UP DOWN ARROW", "NORTH WEST ARROW", "NORTH EAST ARROW",
     "SOUTH EAST ARROW", "SOUTH WEST ARROW", "LEFTWARDS ARROW WITH STROKE",
     "RIGHTWARDS ARROW WITH STROKE", "LEFTWARDS WAVE ARROW", "RIGHTWARDS WAVE ARROW",
     "LEFTWARDS TWO HEADED ARROW", "UPWARDS TWO HEADED ARROW", "RIGHTWARDS TWO HEADED ARROW",
     "DOWNWARDS TWO HEADED ARROW", "LEFTWARDS ARROW WITH TAIL", "RIGHTWARDS ARROW WITH TAIL",
     "LEFTWARDS ARROW FROM BAR", "UPWARDS ARROW FROM BAR", "RIGHTWARDS ARROW FROM BAR",
     "DOWNWARDS ARROW FROM BAR", "UP DOWN ARROW WITH BASE", "LEFTWARDS ARROW WITH HOOK",
     "RIGHTWARDS ARROW WITH HOOK", "LEFTWARDS ARROW WITH LOOP", "RIGHTWARDS ARROW WITH LOOP",
     "LEFT RIGHT WAVE ARROW", "LEFT RIGHT ARROW WITH STROKE", "DOWNWARDS ZIGZAG ARROW",
     "UPWARDS ARROW WITH TIP LEFTWARDS", "UPWARDS ARROW WITH TIP RIGHTWARDS",
     "DOWNWARDS ARROW WITH TIP LEFTWARDS", "DOWNWARDS ARROW WITH TIP RIGHTWARDS",
     "RIGHTWARDS ARROW WITH CORNER DOWNWARDS", "DOWNWARDS ARROW WITH CORNER LEFTWARDS",
     "ANTICLOCKWISE TOP SEMICIRCLE ARROW", "CLOCKWISE TOP SEMICIRCLE ARROW",
     "NORTH WEST ARROW TO LONG BAR", "LEFTWARDS ARROW TO BAR OVER RIGHTWARDS ARROW TO BAR",
     "ANTICLOCKWISE OPEN CIRCLE ARROW", "CLOCKWISE OPEN CIRCLE ARROW",
     "LEFTWARDS HARPOON WITH BARB UPWARDS", "LEFTWARDS HARPOON WITH BARB DOWNWARDS",
     "UPWARDS HARPOON WITH BARB RIGHTWARDS", "UPWARDS HARPOON WITH BARB LEFTWARDS",
     "RIGHTWARDS HARPOON WITH BARB UPWARDS", "RIGHTWARDS HARPOON WITH BARB DOWNWARDS",
     "DOWNWARDS HARPOON WITH BARB RIGHTWARDS", "DOWNWARDS HARPOON WITH BARB LEFTWARDS",
     "RIGHTWARDS ARROW OVER LEFTWARDS ARROW", "UPWARDS ARROW LEFTWARDS OF DOWNWARDS ARROW",
     "LEFTWARDS ARROW OVER RIGHTWARDS ARROW", "LEFTWARDS PAIRED ARROWS", "UPWARDS PAIRED ARROWS",
     "RIGHTWARDS PAIRED ARROWS", "DOWNWARDS PAIRED ARROWS",
     "LEFTWARDS HARPOON OVER RIGHTWARDS HARPOON", "RIGHTWARDS HARPOON OVER LEFTWARDS HARPOON",
     "LEFTWARDS DOUBLE ARROW WITH STROKE", "LEFT RIGHT DOUBLE ARROW WITH STROKE",
     "RIGHTWARDS DOUBLE ARROW WITH STROKE", "LEFTWARDS DOUBLE ARROW", "UPWARDS DOUBLE ARROW",
     "RIGHTWARDS DOUBLE ARROW", "DOWNWARDS DOUBLE ARROW", "LEFT RIGHT DOUBLE ARROW",
     "UP DOWN DOUBLE ARROW", "NORTH WEST DOUBLE ARROW", "NORTH EAST DOUBLE ARROW",
     "SOUTH EAST DOUBLE ARROW", "SOUTH WEST DOUBLE ARROW", "LEFTWARDS TRIPLE ARROW",
     "RIGHTWARDS TRIPLE ARROW", "LEFTWARDS SQUIGGLE ARROW", "RIGHTWARDS SQUIGGLE ARROW",
     "UPWARDS ARROW WITH DOUBLE STROKE", "DOWNWARDS ARROW WITH DOUBLE STROKE",
     "LEFTWARDS DASHED ARROW", "UPWARDS DASHED ARROW", "RIGHTWARDS DASHED ARROW",
     "DOWNWARDS DASHED ARROW", "LEFTWARDS ARROW TO BAR", "RIGHTWARDS ARROW TO BAR",
     "LEFTWARDS WHITE ARROW", "UPWARDS WHITE ARROW", "RIGHTWARDS WHITE ARROW",
     "DOWNWARDS WHITE ARROW", "UPWARDS WHITE ARROW FROM BAR", "UPWARDS WHITE ARROW ON PEDESTAL",
     "UPWARDS WHITE ARROW ON PEDESTAL WITH HORIZONTAL BAR",
     "UPWARDS WHITE ARROW ON PEDESTAL WITH VERTICAL BAR", "UPWARDS WHITE DOUBLE ARROW",
     "UPWARDS WHITE DOUBLE ARROW ON PEDESTAL", "RIGHTWARDS WHITE ARROW FROM WALL",
     "NORTH WEST ARROW TO CORNER", "SOUTH EAST ARROW TO CORNER", "UP DOWN WHITE ARROW",
     "RIGHT ARROW WITH SMALL CIRCLE", "DOWNWARDS ARROW LEFTWARDS OF UPWARDS ARROW",
     "THREE RIGHTWARDS ARROWS", "LEFTWARDS ARROW WITH VERTICAL STROKE",
     "RIGHTWARDS ARROW WITH VERTICAL STROKE", "LEFT RIGHT ARROW WITH VERTICAL STROKE",
     "LEFTWARDS ARROW WITH DOUBLE VERTICAL STROKE",
     "RIGHTWARDS ARROW WITH DOUBLE VERTICAL STROKE",
     "LEFT RIGHT ARROW WITH DOUBLE VERTICAL STROKE", "LEFTWARDS OPEN-HEADED ARROW",
     "RIGHTWARDS OPEN-HEADED ARROW", "LEFT RIGHT OPEN-HEADED ARROW"]⟩]

private def operatorNames : List Run :=
  [⟨0x2200, ["FOR ALL", "COMPLEMENT", "PARTIAL DIFFERENTIAL", "THERE EXISTS",
     "THERE DOES NOT EXIST", "EMPTY SET", "INCREMENT", "NABLA", "ELEMENT OF",
     "NOT AN ELEMENT OF", "SMALL ELEMENT OF", "CONTAINS AS MEMBER", "DOES NOT CONTAIN AS MEMBER",
     "SMALL CONTAINS AS MEMBER", "END OF PROOF", "N-ARY PRODUCT", "N-ARY COPRODUCT",
     "N-ARY SUMMATION", "MINUS SIGN", "MINUS-OR-PLUS SIGN", "DOT PLUS", "DIVISION SLASH",
     "SET MINUS", "ASTERISK OPERATOR", "RING OPERATOR", "BULLET OPERATOR", "SQUARE ROOT",
     "CUBE ROOT", "FOURTH ROOT", "PROPORTIONAL TO", "INFINITY", "RIGHT ANGLE", "ANGLE",
     "MEASURED ANGLE", "SPHERICAL ANGLE", "DIVIDES", "DOES NOT DIVIDE", "PARALLEL TO",
     "NOT PARALLEL TO", "LOGICAL AND", "LOGICAL OR", "INTERSECTION", "UNION", "INTEGRAL",
     "DOUBLE INTEGRAL", "TRIPLE INTEGRAL", "CONTOUR INTEGRAL", "SURFACE INTEGRAL",
     "VOLUME INTEGRAL", "CLOCKWISE INTEGRAL", "CLOCKWISE CONTOUR INTEGRAL",
     "ANTICLOCKWISE CONTOUR INTEGRAL", "THEREFORE", "BECAUSE", "RATIO", "PROPORTION",
     "DOT MINUS", "EXCESS", "GEOMETRIC PROPORTION", "HOMOTHETIC", "TILDE OPERATOR",
     "REVERSED TILDE", "INVERTED LAZY S", "SINE WAVE", "WREATH PRODUCT", "NOT TILDE",
     "MINUS TILDE", "ASYMPTOTICALLY EQUAL TO", "NOT ASYMPTOTICALLY EQUAL TO",
     "APPROXIMATELY EQUAL TO", "APPROXIMATELY BUT NOT ACTUALLY EQUAL TO",
     "NEITHER APPROXIMATELY NOR ACTUALLY EQUAL TO", "ALMOST EQUAL TO", "NOT ALMOST EQUAL TO",
     "ALMOST EQUAL OR EQUAL TO", "TRIPLE TILDE", "ALL EQUAL TO", "EQUIVALENT TO",
     "GEOMETRICALLY EQUIVALENT TO", "DIFFERENCE BETWEEN", "APPROACHES THE LIMIT",
     "GEOMETRICALLY EQUAL TO", "APPROXIMATELY EQUAL TO OR THE IMAGE OF",
     "IMAGE OF OR APPROXIMATELY EQUAL TO", "COLON EQUALS", "EQUALS COLON", "RING IN EQUAL TO",
     "RING EQUAL TO", "CORRESPONDS TO", "ESTIMATES", "EQUIANGULAR TO", "STAR EQUALS",
     "DELTA EQUAL TO", "EQUAL TO BY DEFINITION", "MEASURED BY", "QUESTIONED EQUAL TO",
     "NOT EQUAL TO", "IDENTICAL TO", "NOT IDENTICAL TO", "STRICTLY EQUIVALENT TO",
     "LESS-THAN OR EQUAL TO", "GREATER-THAN OR EQUAL TO"]⟩]

private def shapeNames : List Run :=
  [⟨0x2300, ["DIAMETER SIGN"]⟩,
   ⟨0x2500, ["BOX DRAWINGS LIGHT HORIZONTAL", "BOX DRAWINGS HEAVY HORIZONTAL",
     "BOX DRAWINGS LIGHT VERTICAL"]⟩,
   ⟨0x2580, ["UPPER HALF BLOCK"]⟩,
   ⟨0x2588, ["FULL BLOCK"]⟩,
   ⟨0x25a0, ["BLACK SQUARE", "WHITE SQUARE"]⟩,
   ⟨0x25b2, ["BLACK UP-POINTING TRIANGLE", "WHITE UP-POINTING TRIANGLE",
     "BLACK UP-POINTING SMALL TRIANGLE", "WHITE UP-POINTING SMALL TRIANGLE",
     "BLACK RIGHT-POINTING TRIANGLE"]⟩,
   ⟨0x25ba, ["BLACK RIGHT-POINTING POINTER"]⟩,
   ⟨0x25bc, ["BLACK DOWN-POINTING TRIANGLE"]⟩,
   ⟨0x25c0, ["BLACK LEFT-POINTING TRIANGLE"]⟩,
   ⟨0x25cb, ["WHITE CIRCLE"]⟩,
   ⟨0x25cf, ["BLACK CIRCLE"]⟩]

private def symbolNames : List Run :=
  [⟨0x2600, ["BLACK SUN WITH RAYS", "CLOUD", "UMBRELLA", "SNOWMAN", "COMET", "BLACK STAR",
     "WHITE STAR", "LIGHTNING", "THUNDERSTORM", "SUN", "ASCENDING NODE", "DESCENDING NODE",
     "CONJUNCTION", "OPPOSITION", "BLACK TELEPHONE", "WHITE TELEPHONE", "BALLOT BOX",
     "BALLOT BOX WITH CHECK", "BALLOT BOX WITH X", "SALTIRE", "UMBRELLA WITH RAIN DROPS",
     "HOT BEVERAGE", "WHITE SHOGI PIECE", "BLACK SHOGI PIECE", "SHAMROCK",
     "REVERSED ROTATED FLORAL HEART BULLET", "BLACK LEFT POINTING INDEX",
     "BLACK RIGHT POINTING INDEX", "WHITE LEFT POINTING INDEX", "WHITE UP POINTING INDEX",
     "WHITE RIGHT POINTING INDEX", "WHITE DOWN POINTING INDEX", "SKULL AND CROSSBONES",
     "CAUTION SIGN", "RADIOACTIVE SIGN", "BIOHAZARD SIGN", "CADUCEUS", "ANKH", "ORTHODOX CROSS",
     "CHI RHO", "CROSS OF LORRAINE", "CROSS OF JERUSALEM", "STAR AND CRESCENT", "FARSI SYMBOL",
     "ADI SHAKTI", "HAMMER AND SICKLE", "PEACE SYMBOL", "YIN YANG", "TRIGRAM FOR HEAVEN",
     "TRIGRAM FOR LAKE", "TRIGRAM FOR FIRE", "TRIGRAM FOR THUNDER", "TRIGRAM FOR WIND",
     "TRIGRAM FOR WATER", "TRIGRAM FOR MOUNTAIN", "TRIGRAM FOR EARTH", "WHEEL OF DHARMA",
     "WHITE FROWNING FACE", "WHITE SMILING FACE", "BLACK SMILING FACE", "WHITE SUN WITH RAYS",
     "FIRST QUARTER MOON", "LAST QUARTER MOON", "MERCURY", "FEMALE SIGN", "EARTH", "MALE SIGN",
     "JUPITER", "SATURN", "URANUS", "NEPTUNE", "PLUTO", "ARIES", "TAURUS", "GEMINI", "CANCER",
     "LEO", "VIRGO", "LIBRA", "SCORPIUS", "SAGITTARIUS", "CAPRICORN", "AQUARIUS", "PISCES",
     "WHITE CHESS KING", "WHITE CHESS QUEEN", "WHITE CHESS ROOK", "WHITE CHESS BISHOP",
     "WHITE CHESS KNIGHT", "WHITE CHESS PAWN", "BLACK CHESS KING", "BLACK CHESS QUEEN",
     "BLACK CHESS ROOK", "BLACK CHESS BISHOP", "BLACK CHESS KNIGHT", "BLACK CHESS PAWN",
     "BLACK SPADE SUIT", "WHITE HEART SUIT", "WHITE DIAMOND SUIT", "BLACK CLUB SUIT",
     "WHITE SPADE SUIT", "BLACK HEART SUIT", "BLACK DIAMOND SUIT", "WHITE CLUB SUIT",
     "HOT SPRINGS", "QUARTER NOTE", "EIGHTH NOTE", "BEAMED EIGHTH NOTES",
     "BEAMED SIXTEENTH NOTES", "MUSIC FLAT SIGN", "MUSIC NATURAL SIGN", "MUSIC SHARP SIGN"]⟩,
   ⟨0x26a0, ["WARNING SIGN", "HIGH VOLTAGE SIGN"]⟩,
   ⟨0x2705, ["WHITE HEAVY CHECK MARK"]⟩,
   ⟨0x2713, ["CHECK MARK", "HEAVY CHECK MARK", "MULTIPLICATION X", "HEAVY MULTIPLICATION X",
     "BALLOT X", "HEAVY BALLOT X"]⟩,
   ⟨0x2728, ["SPARKLES"]⟩,
   ⟨0x274c, ["CROSS MARK"]⟩,
   ⟨0x2764, ["HEAVY BLACK HEART"]⟩]

private def otherNames : List Run :=
  [⟨0x3000, ["IDEOGRAPHIC SPACE", "IDEOGRAPHIC COMMA", "IDEOGRAPHIC FULL STOP", "DITTO MARK"]⟩,
   ⟨0xfeff, ["ZERO WIDTH NO-BREAK SPACE"]⟩,
   ⟨0xfffd, ["REPLACEMENT CHARACTER"]⟩]

private def pictureNames : List Run :=
  [⟨0x1f300, ["CYCLONE", "FOGGY", "CLOSED UMBRELLA", "NIGHT WITH STARS"]⟩,
   ⟨0x1f30d, ["EARTH GLOBE EUROPE-AFRICA", "EARTH GLOBE AMERICAS", "EARTH GLOBE ASIA-AUSTRALIA",
     "GLOBE WITH MERIDIANS"]⟩,
   ⟨0x1f431, ["CAT FACE", "DRAGON FACE", "SPOUTING WHALE", "HORSE FACE", "MONKEY FACE",
     "DOG FACE"]⟩,
   ⟨0x1f44d, ["THUMBS UP SIGN", "THUMBS DOWN SIGN"]⟩,
   ⟨0x1f4a9, ["PILE OF POO"]⟩,
   ⟨0x1f512, ["LOCK", "OPEN LOCK", "BELL"]⟩,
   ⟨0x1f525, ["FIRE"]⟩,
   ⟨0x1f40d, ["SNAKE"]⟩]

private def faceNames : List Run :=
  [⟨0x1f600, ["GRINNING FACE", "GRINNING FACE WITH SMILING EYES", "FACE WITH TEARS OF JOY",
     "SMILING FACE WITH OPEN MOUTH", "SMILING FACE WITH OPEN MOUTH AND SMILING EYES",
     "SMILING FACE WITH OPEN MOUTH AND COLD SWEAT",
     "SMILING FACE WITH OPEN MOUTH AND TIGHTLY-CLOSED EYES", "SMILING FACE WITH HALO",
     "SMILING FACE WITH HORNS", "WINKING FACE", "SMILING FACE WITH SMILING EYES",
     "FACE SAVOURING DELICIOUS FOOD", "RELIEVED FACE", "SMILING FACE WITH HEART-SHAPED EYES",
     "SMILING FACE WITH SUNGLASSES", "SMIRKING FACE", "NEUTRAL FACE", "EXPRESSIONLESS FACE",
     "UNAMUSED FACE", "FACE WITH COLD SWEAT", "PENSIVE FACE", "CONFUSED FACE", "CONFOUNDED FACE",
     "KISSING FACE", "FACE THROWING A KISS", "KISSING FACE WITH SMILING EYES",
     "KISSING FACE WITH CLOSED EYES", "FACE WITH STUCK-OUT TONGUE",
     "FACE WITH STUCK-OUT TONGUE AND WINKING EYE",
     "FACE WITH STUCK-OUT TONGUE AND TIGHTLY-CLOSED EYES", "DISAPPOINTED FACE", "WORRIED FACE",
     "ANGRY FACE", "POUTING FACE", "CRYING FACE", "PERSEVERING FACE",
     "FACE WITH LOOK OF TRIUMPH", "DISAPPOINTED BUT RELIEVED FACE",
     "FROWNING FACE WITH OPEN MOUTH", "ANGUISHED FACE", "FEARFUL FACE", "WEARY FACE",
     "SLEEPY FACE", "TIRED FACE", "GRIMACING FACE", "LOUDLY CRYING FACE", "FACE WITH OPEN MOUTH",
     "HUSHED FACE", "FACE WITH OPEN MOUTH AND COLD SWEAT", "FACE SCREAMING IN FEAR",
     "ASTONISHED FACE", "FLUSHED FACE", "SLEEPING FACE", "DIZZY FACE", "FACE WITHOUT MOUTH",
     "FACE WITH MEDICAL MASK", "GRINNING CAT FACE WITH SMILING EYES",
     "CAT FACE WITH TEARS OF JOY", "SMILING CAT FACE WITH OPEN MOUTH",
     "SMILING CAT FACE WITH HEART-SHAPED EYES", "CAT FACE WITH WRY SMILE",
     "KISSING CAT FACE WITH CLOSED EYES", "POUTING CAT FACE", "CRYING CAT FACE",
     "WEARY CAT FACE", "SLIGHTLY FROWNING FACE", "SLIGHTLY SMILING FACE", "UPSIDE-DOWN FACE",
     "FACE WITH ROLLING EYES", "FACE WITH NO GOOD GESTURE", "FACE WITH OK GESTURE",
     "PERSON BOWING DEEPLY", "SEE-NO-EVIL MONKEY", "HEAR-NO-EVIL MONKEY", "SPEAK-NO-EVIL MONKEY",
     "HAPPY PERSON RAISING ONE HAND", "PERSON RAISING BOTH HANDS IN CELEBRATION",
     "PERSON FROWNING", "PERSON WITH POUTING FACE", "PERSON WITH FOLDED HANDS"]⟩]

private def trafficNames : List Run :=
  [⟨0x1f680, ["ROCKET"]⟩,
   ⟨0x1f6a8, ["POLICE CARS REVOLVING LIGHT"]⟩]

private def markNames : List Run :=
  [⟨0x300, ["COMBINING GRAVE ACCENT", "COMBINING ACUTE ACCENT", "COMBINING CIRCUMFLEX ACCENT",
     "COMBINING TILDE", "COMBINING MACRON", "COMBINING OVERLINE", "COMBINING BREVE",
     "COMBINING DOT ABOVE", "COMBINING DIAERESIS", "COMBINING HOOK ABOVE", "COMBINING RING ABOVE",
     "COMBINING DOUBLE ACUTE ACCENT", "COMBINING CARON"]⟩,
   ⟨0x327, ["COMBINING CEDILLA", "COMBINING OGONEK"]⟩,
   ⟨0x1e9e, ["LATIN CAPITAL LETTER SHARP S"]⟩,
   ⟨0x3d0, ["GREEK BETA SYMBOL", "GREEK THETA SYMBOL", "GREEK UPSILON WITH HOOK SYMBOL",
     "GREEK UPSILON WITH ACUTE AND HOOK SYMBOL", "GREEK UPSILON WITH DIAERESIS AND HOOK SYMBOL",
     "GREEK PHI SYMBOL", "GREEK PI SYMBOL"]⟩,
   ⟨0x3f0, ["GREEK KAPPA SYMBOL", "GREEK RHO SYMBOL"]⟩,
   ⟨0x3f5, ["GREEK LUNATE EPSILON SYMBOL"]⟩,
   ⟨0x1c4, ["LATIN CAPITAL LETTER DZ WITH CARON",
     "LATIN CAPITAL LETTER D WITH SMALL LETTER Z WITH CARON", "LATIN SMALL LETTER DZ WITH CARON",
     "LATIN CAPITAL LETTER LJ", "LATIN CAPITAL LETTER L WITH SMALL LETTER J",
     "LATIN SMALL LETTER LJ", "LATIN CAPITAL LETTER NJ",
     "LATIN CAPITAL LETTER N WITH SMALL LETTER J", "LATIN SMALL LETTER NJ"]⟩,
   ⟨0xfb00, ["LATIN SMALL LIGATURE FF", "LATIN SMALL LIGATURE FI", "LATIN SMALL LIGATURE FL",
     "LATIN SMALL LIGATURE FFI", "LATIN SMALL LIGATURE FFL", "LATIN SMALL LIGATURE LONG S T",
     "LATIN SMALL LIGATURE ST"]⟩]

private def digitNames : List Run :=
  [⟨0x660, ["ARABIC-INDIC DIGIT ZERO", "ARABIC-INDIC DIGIT ONE", "ARABIC-INDIC DIGIT TWO",
     "ARABIC-INDIC DIGIT THREE", "ARABIC-INDIC DIGIT FOUR", "ARABIC-INDIC DIGIT FIVE",
     "ARABIC-INDIC DIGIT SIX", "ARABIC-INDIC DIGIT SEVEN", "ARABIC-INDIC DIGIT EIGHT",
     "ARABIC-INDIC DIGIT NINE"]⟩,
   ⟨0x6f0, ["EXTENDED ARABIC-INDIC DIGIT ZERO", "EXTENDED ARABIC-INDIC DIGIT ONE",
     "EXTENDED ARABIC-INDIC DIGIT TWO", "EXTENDED ARABIC-INDIC DIGIT THREE",
     "EXTENDED ARABIC-INDIC DIGIT FOUR", "EXTENDED ARABIC-INDIC DIGIT FIVE",
     "EXTENDED ARABIC-INDIC DIGIT SIX", "EXTENDED ARABIC-INDIC DIGIT SEVEN",
     "EXTENDED ARABIC-INDIC DIGIT EIGHT", "EXTENDED ARABIC-INDIC DIGIT NINE"]⟩,
   ⟨0x966, ["DEVANAGARI DIGIT ZERO", "DEVANAGARI DIGIT ONE", "DEVANAGARI DIGIT TWO",
     "DEVANAGARI DIGIT THREE", "DEVANAGARI DIGIT FOUR", "DEVANAGARI DIGIT FIVE",
     "DEVANAGARI DIGIT SIX", "DEVANAGARI DIGIT SEVEN", "DEVANAGARI DIGIT EIGHT",
     "DEVANAGARI DIGIT NINE"]⟩,
   ⟨0x2070, ["SUPERSCRIPT ZERO", "SUPERSCRIPT LATIN SMALL LETTER I"]⟩,
   ⟨0x2074, ["SUPERSCRIPT FOUR", "SUPERSCRIPT FIVE", "SUPERSCRIPT SIX", "SUPERSCRIPT SEVEN",
     "SUPERSCRIPT EIGHT", "SUPERSCRIPT NINE"]⟩,
   ⟨0x2080, ["SUBSCRIPT ZERO", "SUBSCRIPT ONE", "SUBSCRIPT TWO", "SUBSCRIPT THREE",
     "SUBSCRIPT FOUR", "SUBSCRIPT FIVE", "SUBSCRIPT SIX", "SUBSCRIPT SEVEN", "SUBSCRIPT EIGHT",
     "SUBSCRIPT NINE"]⟩,
   ⟨0x2460, ["CIRCLED DIGIT ONE", "CIRCLED DIGIT TWO", "CIRCLED DIGIT THREE",
     "CIRCLED DIGIT FOUR", "CIRCLED DIGIT FIVE", "CIRCLED DIGIT SIX", "CIRCLED DIGIT SEVEN",
     "CIRCLED DIGIT EIGHT", "CIRCLED DIGIT NINE"]⟩,
   ⟨0xff10, ["FULLWIDTH DIGIT ZERO", "FULLWIDTH DIGIT ONE", "FULLWIDTH DIGIT TWO",
     "FULLWIDTH DIGIT THREE", "FULLWIDTH DIGIT FOUR", "FULLWIDTH DIGIT FIVE",
     "FULLWIDTH DIGIT SIX", "FULLWIDTH DIGIT SEVEN", "FULLWIDTH DIGIT EIGHT",
     "FULLWIDTH DIGIT NINE"]⟩]

private def scriptNames : List Run :=
  [⟨0x5d0, ["HEBREW LETTER ALEF", "HEBREW LETTER BET", "HEBREW LETTER GIMEL",
     "HEBREW LETTER DALET", "HEBREW LETTER HE", "HEBREW LETTER VAV", "HEBREW LETTER ZAYIN",
     "HEBREW LETTER HET", "HEBREW LETTER TET", "HEBREW LETTER YOD", "HEBREW LETTER FINAL KAF",
     "HEBREW LETTER KAF", "HEBREW LETTER LAMED", "HEBREW LETTER FINAL MEM", "HEBREW LETTER MEM",
     "HEBREW LETTER FINAL NUN", "HEBREW LETTER NUN", "HEBREW LETTER SAMEKH", "HEBREW LETTER AYIN",
     "HEBREW LETTER FINAL PE", "HEBREW LETTER PE", "HEBREW LETTER FINAL TSADI",
     "HEBREW LETTER TSADI", "HEBREW LETTER QOF", "HEBREW LETTER RESH", "HEBREW LETTER SHIN",
     "HEBREW LETTER TAV"]⟩,
   ⟨0x3041, ["HIRAGANA LETTER SMALL A", "HIRAGANA LETTER A", "HIRAGANA LETTER SMALL I",
     "HIRAGANA LETTER I", "HIRAGANA LETTER SMALL U", "HIRAGANA LETTER U",
     "HIRAGANA LETTER SMALL E", "HIRAGANA LETTER E", "HIRAGANA LETTER SMALL O",
     "HIRAGANA LETTER O", "HIRAGANA LETTER KA", "HIRAGANA LETTER GA", "HIRAGANA LETTER KI",
     "HIRAGANA LETTER GI", "HIRAGANA LETTER KU", "HIRAGANA LETTER GU", "HIRAGANA LETTER KE",
     "HIRAGANA LETTER GE", "HIRAGANA LETTER KO", "HIRAGANA LETTER GO", "HIRAGANA LETTER SA",
     "HIRAGANA LETTER ZA", "HIRAGANA LETTER SI", "HIRAGANA LETTER ZI", "HIRAGANA LETTER SU",
     "HIRAGANA LETTER ZU", "HIRAGANA LETTER SE", "HIRAGANA LETTER ZE", "HIRAGANA LETTER SO",
     "HIRAGANA LETTER ZO", "HIRAGANA LETTER TA", "HIRAGANA LETTER DA", "HIRAGANA LETTER TI",
     "HIRAGANA LETTER DI", "HIRAGANA LETTER SMALL TU", "HIRAGANA LETTER TU", "HIRAGANA LETTER DU",
     "HIRAGANA LETTER TE", "HIRAGANA LETTER DE", "HIRAGANA LETTER TO", "HIRAGANA LETTER DO",
     "HIRAGANA LETTER NA", "HIRAGANA LETTER NI", "HIRAGANA LETTER NU", "HIRAGANA LETTER NE",
     "HIRAGANA LETTER NO", "HIRAGANA LETTER HA", "HIRAGANA LETTER BA", "HIRAGANA LETTER PA",
     "HIRAGANA LETTER HI", "HIRAGANA LETTER BI", "HIRAGANA LETTER PI", "HIRAGANA LETTER HU",
     "HIRAGANA LETTER BU", "HIRAGANA LETTER PU", "HIRAGANA LETTER HE", "HIRAGANA LETTER BE",
     "HIRAGANA LETTER PE", "HIRAGANA LETTER HO", "HIRAGANA LETTER BO", "HIRAGANA LETTER PO",
     "HIRAGANA LETTER MA", "HIRAGANA LETTER MI", "HIRAGANA LETTER MU", "HIRAGANA LETTER ME",
     "HIRAGANA LETTER MO", "HIRAGANA LETTER SMALL YA", "HIRAGANA LETTER YA",
     "HIRAGANA LETTER SMALL YU", "HIRAGANA LETTER YU", "HIRAGANA LETTER SMALL YO",
     "HIRAGANA LETTER YO", "HIRAGANA LETTER RA", "HIRAGANA LETTER RI", "HIRAGANA LETTER RU",
     "HIRAGANA LETTER RE", "HIRAGANA LETTER RO", "HIRAGANA LETTER SMALL WA", "HIRAGANA LETTER WA",
     "HIRAGANA LETTER WI", "HIRAGANA LETTER WE", "HIRAGANA LETTER WO", "HIRAGANA LETTER N"]⟩,
   ⟨0x30a1, ["KATAKANA LETTER SMALL A", "KATAKANA LETTER A", "KATAKANA LETTER SMALL I",
     "KATAKANA LETTER I", "KATAKANA LETTER SMALL U", "KATAKANA LETTER U",
     "KATAKANA LETTER SMALL E", "KATAKANA LETTER E", "KATAKANA LETTER SMALL O",
     "KATAKANA LETTER O", "KATAKANA LETTER KA", "KATAKANA LETTER GA", "KATAKANA LETTER KI",
     "KATAKANA LETTER GI", "KATAKANA LETTER KU", "KATAKANA LETTER GU", "KATAKANA LETTER KE",
     "KATAKANA LETTER GE", "KATAKANA LETTER KO", "KATAKANA LETTER GO", "KATAKANA LETTER SA",
     "KATAKANA LETTER ZA", "KATAKANA LETTER SI", "KATAKANA LETTER ZI", "KATAKANA LETTER SU",
     "KATAKANA LETTER ZU", "KATAKANA LETTER SE", "KATAKANA LETTER ZE", "KATAKANA LETTER SO",
     "KATAKANA LETTER ZO", "KATAKANA LETTER TA", "KATAKANA LETTER DA", "KATAKANA LETTER TI",
     "KATAKANA LETTER DI", "KATAKANA LETTER SMALL TU", "KATAKANA LETTER TU", "KATAKANA LETTER DU",
     "KATAKANA LETTER TE", "KATAKANA LETTER DE", "KATAKANA LETTER TO", "KATAKANA LETTER DO",
     "KATAKANA LETTER NA", "KATAKANA LETTER NI", "KATAKANA LETTER NU", "KATAKANA LETTER NE",
     "KATAKANA LETTER NO", "KATAKANA LETTER HA", "KATAKANA LETTER BA", "KATAKANA LETTER PA",
     "KATAKANA LETTER HI", "KATAKANA LETTER BI", "KATAKANA LETTER PI", "KATAKANA LETTER HU",
     "KATAKANA LETTER BU", "KATAKANA LETTER PU", "KATAKANA LETTER HE", "KATAKANA LETTER BE",
     "KATAKANA LETTER PE", "KATAKANA LETTER HO", "KATAKANA LETTER BO", "KATAKANA LETTER PO",
     "KATAKANA LETTER MA", "KATAKANA LETTER MI", "KATAKANA LETTER MU", "KATAKANA LETTER ME",
     "KATAKANA LETTER MO", "KATAKANA LETTER SMALL YA", "KATAKANA LETTER YA",
     "KATAKANA LETTER SMALL YU", "KATAKANA LETTER YU", "KATAKANA LETTER SMALL YO",
     "KATAKANA LETTER YO", "KATAKANA LETTER RA", "KATAKANA LETTER RI", "KATAKANA LETTER RU",
     "KATAKANA LETTER RE", "KATAKANA LETTER RO", "KATAKANA LETTER SMALL WA", "KATAKANA LETTER WA",
     "KATAKANA LETTER WI", "KATAKANA LETTER WE", "KATAKANA LETTER WO", "KATAKANA LETTER N",
     "KATAKANA LETTER VU", "KATAKANA LETTER SMALL KA", "KATAKANA LETTER SMALL KE"]⟩,
   ⟨0xff21, ["FULLWIDTH LATIN CAPITAL LETTER A", "FULLWIDTH LATIN CAPITAL LETTER B",
     "FULLWIDTH LATIN CAPITAL LETTER C", "FULLWIDTH LATIN CAPITAL LETTER D",
     "FULLWIDTH LATIN CAPITAL LETTER E", "FULLWIDTH LATIN CAPITAL LETTER F",
     "FULLWIDTH LATIN CAPITAL LETTER G", "FULLWIDTH LATIN CAPITAL LETTER H",
     "FULLWIDTH LATIN CAPITAL LETTER I", "FULLWIDTH LATIN CAPITAL LETTER J",
     "FULLWIDTH LATIN CAPITAL LETTER K", "FULLWIDTH LATIN CAPITAL LETTER L",
     "FULLWIDTH LATIN CAPITAL LETTER M", "FULLWIDTH LATIN CAPITAL LETTER N",
     "FULLWIDTH LATIN CAPITAL LETTER O", "FULLWIDTH LATIN CAPITAL LETTER P",
     "FULLWIDTH LATIN CAPITAL LETTER Q", "FULLWIDTH LATIN CAPITAL LETTER R",
     "FULLWIDTH LATIN CAPITAL LETTER S", "FULLWIDTH LATIN CAPITAL LETTER T",
     "FULLWIDTH LATIN CAPITAL LETTER U", "FULLWIDTH LATIN CAPITAL LETTER V",
     "FULLWIDTH LATIN CAPITAL LETTER W", "FULLWIDTH LATIN CAPITAL LETTER X",
     "FULLWIDTH LATIN CAPITAL LETTER Y", "FULLWIDTH LATIN CAPITAL LETTER Z"]⟩,
   ⟨0xff41, ["FULLWIDTH LATIN SMALL LETTER A", "FULLWIDTH LATIN SMALL LETTER B",
     "FULLWIDTH LATIN SMALL LETTER C", "FULLWIDTH LATIN SMALL LETTER D",
     "FULLWIDTH LATIN SMALL LETTER E", "FULLWIDTH LATIN SMALL LETTER F",
     "FULLWIDTH LATIN SMALL LETTER G", "FULLWIDTH LATIN SMALL LETTER H",
     "FULLWIDTH LATIN SMALL LETTER I", "FULLWIDTH LATIN SMALL LETTER J",
     "FULLWIDTH LATIN SMALL LETTER K", "FULLWIDTH LATIN SMALL LETTER L",
     "FULLWIDTH LATIN SMALL LETTER M", "FULLWIDTH LATIN SMALL LETTER N",
     "FULLWIDTH LATIN SMALL LETTER O", "FULLWIDTH LATIN SMALL LETTER P",
     "FULLWIDTH LATIN SMALL LETTER Q", "FULLWIDTH LATIN SMALL LETTER R",
     "FULLWIDTH LATIN SMALL LETTER S", "FULLWIDTH LATIN SMALL LETTER T",
     "FULLWIDTH LATIN SMALL LETTER U", "FULLWIDTH LATIN SMALL LETTER V",
     "FULLWIDTH LATIN SMALL LETTER W", "FULLWIDTH LATIN SMALL LETTER X",
     "FULLWIDTH LATIN SMALL LETTER Y", "FULLWIDTH LATIN SMALL LETTER Z"]⟩]

private def controlNames : List (String × Nat) :=
  [("NULL", 0), ("NUL", 0), ("ALERT", 7), ("BEL", 7), ("BACKSPACE", 8), ("BS", 8),
   ("CHARACTER TABULATION", 9), ("HORIZONTAL TABULATION", 9), ("HT", 9), ("TAB", 9),
   ("LINE FEED", 10), ("NEW LINE", 10), ("END OF LINE", 10), ("LF", 10), ("NL", 10),
   ("EOL", 10), ("LINE TABULATION", 11), ("VERTICAL TABULATION", 11), ("VT", 11),
   ("FORM FEED", 12), ("FF", 12), ("CARRIAGE RETURN", 13), ("CR", 13), ("ESCAPE", 27),
   ("ESC", 27), ("SP", 32), ("DELETE", 127), ("DEL", 127), ("NEXT LINE", 133), ("NEL", 133),
   ("NBSP", 160), ("SHY", 173), ("ZWSP", 8203), ("ZWNJ", 8204), ("ZWJ", 8205), ("BOM", 65279),
   ("BYTE ORDER MARK", 65279), ("ZWNBSP", 65279)]

/-- All runs of names. -/
def runs : List Run :=
  basicNames ++ latinNames ++ latinMoreNames ++ greekNames ++ cyrillicNames ++
    punctuationNames ++ signNames ++ arrowNames ++ operatorNames ++ shapeNames ++
    symbolNames ++ otherNames ++ pictureNames ++ faceNames ++ trafficNames ++ markNames ++
    digitNames ++ scriptNames

/-- The place of a name in a run. -/
def Run.code? (run : Run) (name : String) : Option Nat :=
  (run.names.findIdx? (· == name)).map (run.first + ·)

/-- The stretches of ideographs that are named by their number. -/
def ideographBounds : List (Nat × Nat) :=
  [(0x3400, 0x4dbf), (0x4e00, 0x9fff), (0x20000, 0x2a6df), (0x2a700, 0x2b738),
   (0x2b740, 0x2b81d), (0x2b820, 0x2cea1), (0x2ceb0, 0x2ebe0), (0x30000, 0x3134a)]

/-- The value of a capital hexadecimal digit. -/
def capitalDigit? (c : Char) : Option Nat :=
  if c.isDigit then some (c.toNat - 48)
  else if 'A' ≤ c && c ≤ 'F' then some (c.toNat - 55)
  else none

/-- The ideograph of a number in four or five digits. -/
def ideograph? (digits : List Char) : Option Nat := do
  if digits.length != 4 && digits.length != 5 then none
  else
    let code := (← digits.mapM capitalDigit?).foldl (fun n d => 16 * n + d) 0
    if ideographBounds.any fun b => b.1 ≤ code && code ≤ b.2 then some code else none

/-- What the names of ideographs begin with. -/
def ideographStart : List Char := "CJK UNIFIED IDEOGRAPH-".toList

/-- The number of the character with a name. -/
def code? (name : String) : Option Nat :=
  let capitals := name.map Char.toUpper
  match runs.findSome? (·.code? capitals), controlNames.lookup capitals with
  | some code, _ => some code
  | none, some code => some code
  | none, none =>
    if ideographStart.isPrefixOf name.toList then
      ideograph? (name.toList.drop ideographStart.length)
    else none

end EventHub.Pattern.CharacterName
