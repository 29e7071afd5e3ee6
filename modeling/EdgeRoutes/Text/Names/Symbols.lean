/-! Names of characters: punctuation, mathematical and technical symbols, arrows, and the signs of East Asian writing.
-/

namespace EdgeRoutes.Text

def symbolNames : List String :=
  ["2000 |EN QUAD|EM QUAD|EN SPACE|EM SPACE|THREE-PER-EM SPACE",
    "2005 |FOUR-PER-EM SPACE|SIX-PER-EM SPACE|FIGURE SPACE|PUNCTUATION SPACE|THIN SPACE|HAIR SPACE",
    "200b ZERO WIDTH |SPACE|NON-JOINER|JOINER;200e LEFT-TO-RIGHT |MARK",
    "200f |RIGHT-TO-LEFT MARK|HYPHEN|NON-BREAKING HYPHEN|FIGURE DASH|EN DASH|EM DASH|HORIZONTAL BAR",
    "2016 DOUBLE |VERTICAL LINE|LOW LINE;2018 |LEFT SINGLE QUOTATION MARK|RIGHT SINGLE QUOTATION MARK",
    "201a SINGLE |LOW-9 QUOTATION MARK|HIGH-REVERSED-9 QUOTATION MARK",
    "201c |LEFT DOUBLE QUOTATION MARK|RIGHT DOUBLE QUOTATION MARK",
    "201e DOUBLE |LOW-9 QUOTATION MARK|HIGH-REVERSED-9 QUOTATION MARK",
    "2020 |DAGGER|DOUBLE DAGGER|BULLET|TRIANGULAR BULLET|ONE DOT LEADER|TWO DOT LEADER",
    "2026 |HORIZONTAL ELLIPSIS|HYPHENATION POINT|LINE SEPARATOR|PARAGRAPH SEPARATOR|LEFT-TO-RIGHT EMBEDDING",
    "202b |RIGHT-TO-LEFT EMBEDDING|POP DIRECTIONAL FORMATTING|LEFT-TO-RIGHT OVERRIDE|RIGHT-TO-LEFT OVERRIDE",
    "202f |NARROW NO-BREAK SPACE|PER MILLE SIGN|PER TEN THOUSAND SIGN|PRIME|DOUBLE PRIME|TRIPLE PRIME",
    "2035 REVERSED |PRIME|DOUBLE PRIME|TRIPLE PRIME;2038 |CARET",
    "2039 SINGLE |LEFT-POINTING ANGLE QUOTATION MARK|RIGHT-POINTING ANGLE QUOTATION MARK",
    "203b |REFERENCE MARK|DOUBLE EXCLAMATION MARK|INTERROBANG|OVERLINE|UNDERTIE|CHARACTER TIE",
    "2041 |CARET INSERTION POINT|ASTERISM|HYPHEN BULLET|FRACTION SLASH|LEFT SQUARE BRACKET WITH QUILL",
    "2046 |RIGHT SQUARE BRACKET WITH QUILL|DOUBLE QUESTION MARK|QUESTION EXCLAMATION MARK",
    "2049 |EXCLAMATION QUESTION MARK|TIRONIAN SIGN ET|REVERSED PILCROW SIGN|BLACK LEFTWARDS BULLET",
    "204d |BLACK RIGHTWARDS BULLET|LOW ASTERISK|REVERSED SEMICOLON|CLOSE UP|TWO ASTERISKS ALIGNED VERTICALLY",
    "2052 |COMMERCIAL MINUS SIGN|SWUNG DASH|INVERTED UNDERTIE|FLOWER PUNCTUATION MARK|THREE DOT PUNCTUATION",
    "2057 |QUADRUPLE PRIME|FOUR DOT PUNCTUATION|FIVE DOT PUNCTUATION|TWO DOT PUNCTUATION|FOUR DOT MARK",
    "205c |DOTTED CROSS|TRICOLON|VERTICAL FOUR DOTS|MEDIUM MATHEMATICAL SPACE|WORD JOINER|FUNCTION APPLICATION",
    "2062 INVISIBLE |TIMES|SEPARATOR|PLUS;2066 |LEFT-TO-RIGHT ISOLATE|RIGHT-TO-LEFT ISOLATE",
    "2068 |FIRST STRONG ISOLATE|POP DIRECTIONAL ISOLATE|INHIBIT SYMMETRIC SWAPPING|ACTIVATE SYMMETRIC SWAPPING",
    "206c |INHIBIT ARABIC FORM SHAPING|ACTIVATE ARABIC FORM SHAPING|NATIONAL DIGIT SHAPES|NOMINAL DIGIT SHAPES",
    "2070 SUPERSCRIPT |ZERO|LATIN SMALL LETTER I;2074 SUPERSCRIPT |FOUR|FIVE|SIX|SEVEN|EIGHT|NINE",
    "207a SUPERSCRIPT |PLUS SIGN|MINUS|EQUALS SIGN|LEFT PARENTHESIS|RIGHT PARENTHESIS|LATIN SMALL LETTER N",
    "2080 SUBSCRIPT |ZERO|ONE|TWO|THREE|FOUR",
    "2085 SUBSCRIPT |FIVE|SIX|SEVEN|EIGHT|NINE|PLUS SIGN|MINUS|EQUALS SIGN|LEFT PARENTHESIS|RIGHT PARENTHESIS",
    "2090 LATIN SUBSCRIPT SMALL LETTER |A|E|O|X|SCHWA|H|K|L|M|N|P|S|T",
    "20a0 |EURO-CURRENCY SIGN|COLON SIGN|CRUZEIRO SIGN",
    "20a3 |FRENCH FRANC SIGN|LIRA SIGN|MILL SIGN|NAIRA SIGN|PESETA SIGN|RUPEE SIGN|WON SIGN|NEW SHEQEL SIGN",
    "20ab |DONG SIGN|EURO SIGN|KIP SIGN|TUGRIK SIGN|DRACHMA SIGN|GERMAN PENNY SIGN|PESO SIGN|GUARANI SIGN",
    "20b3 |AUSTRAL SIGN|HRYVNIA SIGN|CEDI SIGN|LIVRE TOURNOIS SIGN|SPESMILO SIGN|TENGE SIGN|INDIAN RUPEE SIGN",
    "20ba |TURKISH LIRA SIGN|NORDIC MARK SIGN|MANAT SIGN|RUBLE SIGN|LARI SIGN|BITCOIN SIGN|SOM SIGN",
    "20d0 COMBINING |LEFT HARPOON ABOVE|RIGHT HARPOON ABOVE",
    "20d2 COMBINING |LONG VERTICAL LINE OVERLAY|SHORT VERTICAL LINE OVERLAY|ANTICLOCKWISE ARROW ABOVE",
    "20d5 COMBINING |CLOCKWISE ARROW ABOVE|LEFT ARROW ABOVE|RIGHT ARROW ABOVE|RING OVERLAY",
    "20d9 COMBINING |CLOCKWISE RING OVERLAY|ANTICLOCKWISE RING OVERLAY|THREE DOTS ABOVE|FOUR DOTS ABOVE",
    "20dd COMBINING ENCLOSING |CIRCLE|SQUARE|DIAMOND|CIRCLE BACKSLASH;20e1 COMBINING LEFT RIGHT ARROW |ABOVE",
    "20e2 COMBINING ENCLOSING |SCREEN|KEYCAP|UPWARD POINTING TRIANGLE",
    "20e5 COMBINING |REVERSE SOLIDUS OVERLAY|DOUBLE VERTICAL STROKE OVERLAY",
    "20e7 COMBINING |ANNUITY SYMBOL|TRIPLE UNDERDOT|WIDE BRIDGE ABOVE|LEFTWARDS ARROW OVERLAY",
    "20eb COMBINING |LONG DOUBLE SOLIDUS OVERLAY|RIGHTWARDS HARPOON WITH BARB DOWNWARDS",
    "20ed COMBINING |LEFTWARDS HARPOON WITH BARB DOWNWARDS|LEFT ARROW BELOW|RIGHT ARROW BELOW|ASTERISK ABOVE",
    "2100 |ACCOUNT OF|ADDRESSED TO THE SUBJECT|DOUBLE-STRUCK CAPITAL C",
    "2103 |DEGREE CELSIUS|CENTRE LINE SYMBOL|CARE OF|CADA UNA|EULER CONSTANT|SCRUPLE|DEGREE FAHRENHEIT",
    "210a SCRIPT |SMALL G|CAPITAL H;210c |BLACK-LETTER CAPITAL H|DOUBLE-STRUCK CAPITAL H",
    "210e PLANCK |CONSTANT|CONSTANT OVER TWO PI;2110 |SCRIPT CAPITAL I|BLACK-LETTER CAPITAL I",
    "2112 SCRIPT |CAPITAL L|SMALL L",
    "2114 |L B BAR SYMBOL|DOUBLE-STRUCK CAPITAL N|NUMERO SIGN|SOUND RECORDING COPYRIGHT|SCRIPT CAPITAL P",
    "2119 DOUBLE-STRUCK CAPITAL |P|Q",
    "211b |SCRIPT CAPITAL R|BLACK-LETTER CAPITAL R|DOUBLE-STRUCK CAPITAL R|PRESCRIPTION TAKE",
    "211f |RESPONSE|SERVICE MARK|TELEPHONE SIGN|TRADE MARK SIGN|VERSICLE|DOUBLE-STRUCK CAPITAL Z",
    "2125 |OUNCE SIGN|OHM SIGN|INVERTED OHM SIGN|BLACK-LETTER CAPITAL Z|TURNED GREEK SMALL LETTER IOTA",
    "212a |KELVIN SIGN|ANGSTROM SIGN|SCRIPT CAPITAL B|BLACK-LETTER CAPITAL C|ESTIMATED SYMBOL|SCRIPT SMALL E",
    "2130 SCRIPT CAPITAL |E|F;2132 |TURNED CAPITAL F|SCRIPT CAPITAL M|SCRIPT SMALL O|ALEF SYMBOL",
    "2136 |BET SYMBOL|GIMEL SYMBOL|DALET SYMBOL|INFORMATION SOURCE|ROTATED CAPITAL Q|FACSIMILE SIGN",
    "213c DOUBLE-STRUCK |SMALL PI|SMALL GAMMA|CAPITAL GAMMA|CAPITAL PI|N-ARY SUMMATION",
    "2141 TURNED SANS-SERIF CAPITAL |G|L;2143 |REVERSED SANS-SERIF CAPITAL L|TURNED SANS-SERIF CAPITAL Y",
    "2145 DOUBLE-STRUCK ITALIC |CAPITAL D|SMALL D|SMALL E|SMALL I|SMALL J",
    "214a |PROPERTY LINE|TURNED AMPERSAND|PER SIGN|AKTIESELSKAB|TURNED SMALL F|SYMBOL FOR SAMARITAN SOURCE",
    "2150 VULGAR FRACTION ONE |SEVENTH|NINTH|TENTH|THIRD",
    "2154 VULGAR FRACTION |TWO THIRDS|ONE FIFTH|TWO FIFTHS|THREE FIFTHS|FOUR FIFTHS",
    "2159 VULGAR FRACTION |ONE SIXTH|FIVE SIXTHS|ONE EIGHTH|THREE EIGHTHS|FIVE EIGHTHS|SEVEN EIGHTHS",
    "215f FRACTION NUMERATOR |ONE;2160 ROMAN NUMERAL |ONE|TWO|THREE|FOUR|FIVE",
    "2165 ROMAN NUMERAL |SIX|SEVEN|EIGHT|NINE|TEN|ELEVEN|TWELVE|FIFTY|ONE HUNDRED|FIVE HUNDRED|ONE THOUSAND",
    "2170 SMALL ROMAN NUMERAL |ONE|TWO|THREE|FOUR|FIVE|SIX",
    "2176 SMALL ROMAN NUMERAL |SEVEN|EIGHT|NINE|TEN|ELEVEN|TWELVE|FIFTY|ONE HUNDRED|FIVE HUNDRED|ONE THOUSAND",
    "2180 ROMAN NUMERAL |ONE THOUSAND C D|FIVE THOUSAND|TEN THOUSAND|REVERSED ONE HUNDRED",
    "2184 LATIN SMALL LETTER REVERSED |C",
    "2185 ROMAN NUMERAL |SIX LATE FORM|FIFTY EARLY FORM|FIFTY THOUSAND|ONE HUNDRED THOUSAND",
    "2189 VULGAR FRACTION ZERO |THIRDS;218a TURNED DIGIT |TWO|THREE",
    "2190 |LEFTWARDS ARROW|UPWARDS ARROW|RIGHTWARDS ARROW|DOWNWARDS ARROW|LEFT RIGHT ARROW|UP DOWN ARROW",
    "2196 NORTH |WEST ARROW|EAST ARROW;2198 SOUTH |EAST ARROW|WEST ARROW",
    "219a |LEFTWARDS ARROW WITH STROKE|RIGHTWARDS ARROW WITH STROKE|LEFTWARDS WAVE ARROW|RIGHTWARDS WAVE ARROW",
    "219e |LEFTWARDS TWO HEADED ARROW|UPWARDS TWO HEADED ARROW|RIGHTWARDS TWO HEADED ARROW",
    "21a1 |DOWNWARDS TWO HEADED ARROW|LEFTWARDS ARROW WITH TAIL|RIGHTWARDS ARROW WITH TAIL",
    "21a4 |LEFTWARDS ARROW FROM BAR|UPWARDS ARROW FROM BAR|RIGHTWARDS ARROW FROM BAR",
    "21a7 |DOWNWARDS ARROW FROM BAR|UP DOWN ARROW WITH BASE|LEFTWARDS ARROW WITH HOOK",
    "21aa |RIGHTWARDS ARROW WITH HOOK|LEFTWARDS ARROW WITH LOOP|RIGHTWARDS ARROW WITH LOOP",
    "21ad LEFT RIGHT |WAVE ARROW|ARROW WITH STROKE;21af DOWNWARDS ZIGZAG |ARROW",
    "21b0 UPWARDS ARROW WITH TIP |LEFTWARDS|RIGHTWARDS;21b2 DOWNWARDS ARROW WITH TIP |LEFTWARDS|RIGHTWARDS",
    "21b4 |RIGHTWARDS ARROW WITH CORNER DOWNWARDS|DOWNWARDS ARROW WITH CORNER LEFTWARDS",
    "21b6 |ANTICLOCKWISE TOP SEMICIRCLE ARROW|CLOCKWISE TOP SEMICIRCLE ARROW",
    "21b8 |NORTH WEST ARROW TO LONG BAR|LEFTWARDS ARROW TO BAR OVER RIGHTWARDS ARROW TO BAR",
    "21ba |ANTICLOCKWISE OPEN CIRCLE ARROW|CLOCKWISE OPEN CIRCLE ARROW",
    "21bc LEFTWARDS HARPOON WITH BARB |UPWARDS|DOWNWARDS;21be UPWARDS HARPOON WITH BARB |RIGHTWARDS|LEFTWARDS",
    "21c0 RIGHTWARDS HARPOON WITH BARB |UPWARDS|DOWNWARDS;21c2 DOWNWARDS HARPOON WITH BARB |RIGHTWARDS|LEFTWARDS",
    "21c4 |RIGHTWARDS ARROW OVER LEFTWARDS ARROW|UPWARDS ARROW LEFTWARDS OF DOWNWARDS ARROW",
    "21c6 LEFTWARDS |ARROW OVER RIGHTWARDS ARROW|PAIRED ARROWS",
    "21c8 |UPWARDS PAIRED ARROWS|RIGHTWARDS PAIRED ARROWS|DOWNWARDS PAIRED ARROWS",
    "21cb |LEFTWARDS HARPOON OVER RIGHTWARDS HARPOON|RIGHTWARDS HARPOON OVER LEFTWARDS HARPOON",
    "21cd |LEFTWARDS DOUBLE ARROW WITH STROKE|LEFT RIGHT DOUBLE ARROW WITH STROKE",
    "21cf |RIGHTWARDS DOUBLE ARROW WITH STROKE|LEFTWARDS DOUBLE ARROW|UPWARDS DOUBLE ARROW",
    "21d2 |RIGHTWARDS DOUBLE ARROW|DOWNWARDS DOUBLE ARROW|LEFT RIGHT DOUBLE ARROW|UP DOWN DOUBLE ARROW",
    "21d6 NORTH |WEST DOUBLE ARROW|EAST DOUBLE ARROW",
    "21d8 |SOUTH EAST DOUBLE ARROW|SOUTH WEST DOUBLE ARROW|LEFTWARDS TRIPLE ARROW|RIGHTWARDS TRIPLE ARROW",
    "21dc |LEFTWARDS SQUIGGLE ARROW|RIGHTWARDS SQUIGGLE ARROW|UPWARDS ARROW WITH DOUBLE STROKE",
    "21df |DOWNWARDS ARROW WITH DOUBLE STROKE|LEFTWARDS DASHED ARROW|UPWARDS DASHED ARROW",
    "21e2 |RIGHTWARDS DASHED ARROW|DOWNWARDS DASHED ARROW|LEFTWARDS ARROW TO BAR|RIGHTWARDS ARROW TO BAR",
    "21e6 |LEFTWARDS WHITE ARROW|UPWARDS WHITE ARROW|RIGHTWARDS WHITE ARROW|DOWNWARDS WHITE ARROW",
    "21ea UPWARDS WHITE ARROW |FROM BAR|ON PEDESTAL",
    "21ec UPWARDS WHITE ARROW ON PEDESTAL WITH |HORIZONTAL BAR|VERTICAL BAR",
    "21ee UPWARDS WHITE DOUBLE |ARROW|ARROW ON PEDESTAL",
    "21f0 |RIGHTWARDS WHITE ARROW FROM WALL|NORTH WEST ARROW TO CORNER|SOUTH EAST ARROW TO CORNER",
    "21f3 |UP DOWN WHITE ARROW|RIGHT ARROW WITH SMALL CIRCLE|DOWNWARDS ARROW LEFTWARDS OF UPWARDS ARROW",
    "21f6 |THREE RIGHTWARDS ARROWS|LEFTWARDS ARROW WITH VERTICAL STROKE|RIGHTWARDS ARROW WITH VERTICAL STROKE",
    "21f9 |LEFT RIGHT ARROW WITH VERTICAL STROKE|LEFTWARDS ARROW WITH DOUBLE VERTICAL STROKE",
    "21fb |RIGHTWARDS ARROW WITH DOUBLE VERTICAL STROKE|LEFT RIGHT ARROW WITH DOUBLE VERTICAL STROKE",
    "21fd |LEFTWARDS OPEN-HEADED ARROW|RIGHTWARDS OPEN-HEADED ARROW",
    "21ff |LEFT RIGHT OPEN-HEADED ARROW|FOR ALL|COMPLEMENT|PARTIAL DIFFERENTIAL|THERE EXISTS",
    "2204 |THERE DOES NOT EXIST|EMPTY SET|INCREMENT|NABLA|ELEMENT OF|NOT AN ELEMENT OF|SMALL ELEMENT OF",
    "220b |CONTAINS AS MEMBER|DOES NOT CONTAIN AS MEMBER|SMALL CONTAINS AS MEMBER|END OF PROOF",
    "220f N-ARY |PRODUCT|COPRODUCT|SUMMATION",
    "2212 |MINUS SIGN|MINUS-OR-PLUS SIGN|DOT PLUS|DIVISION SLASH|SET MINUS|ASTERISK OPERATOR|RING OPERATOR",
    "2219 |BULLET OPERATOR|SQUARE ROOT|CUBE ROOT|FOURTH ROOT|PROPORTIONAL TO|INFINITY|RIGHT ANGLE",
    "2220 |ANGLE|MEASURED ANGLE|SPHERICAL ANGLE|DIVIDES|DOES NOT DIVIDE|PARALLEL TO|NOT PARALLEL TO",
    "2227 LOGICAL |AND|OR;2229 |INTERSECTION",
    "222a |UNION|INTEGRAL|DOUBLE INTEGRAL|TRIPLE INTEGRAL|CONTOUR INTEGRAL|SURFACE INTEGRAL|VOLUME INTEGRAL",
    "2231 CLOCKWISE |INTEGRAL|CONTOUR INTEGRAL",
    "2233 |ANTICLOCKWISE CONTOUR INTEGRAL|THEREFORE|BECAUSE|RATIO|PROPORTION",
    "2238 |DOT MINUS|EXCESS|GEOMETRIC PROPORTION|HOMOTHETIC|TILDE OPERATOR|REVERSED TILDE|INVERTED LAZY S",
    "223f |SINE WAVE|WREATH PRODUCT|NOT TILDE|MINUS TILDE|ASYMPTOTICALLY EQUAL TO|NOT ASYMPTOTICALLY EQUAL TO",
    "2245 APPROXIMATELY |EQUAL TO|BUT NOT ACTUALLY EQUAL TO",
    "2247 |NEITHER APPROXIMATELY NOR ACTUALLY EQUAL TO|ALMOST EQUAL TO",
    "2249 |NOT ALMOST EQUAL TO|ALMOST EQUAL OR EQUAL TO|TRIPLE TILDE|ALL EQUAL TO|EQUIVALENT TO",
    "224e |GEOMETRICALLY EQUIVALENT TO|DIFFERENCE BETWEEN|APPROACHES THE LIMIT|GEOMETRICALLY EQUAL TO",
    "2252 |APPROXIMATELY EQUAL TO OR THE IMAGE OF|IMAGE OF OR APPROXIMATELY EQUAL TO|COLON EQUALS|EQUALS COLON",
    "2256 RING |IN EQUAL TO|EQUAL TO",
    "2258 |CORRESPONDS TO|ESTIMATES|EQUIANGULAR TO|STAR EQUALS|DELTA EQUAL TO|EQUAL TO BY DEFINITION",
    "225e |MEASURED BY|QUESTIONED EQUAL TO|NOT EQUAL TO|IDENTICAL TO|NOT IDENTICAL TO|STRICTLY EQUIVALENT TO",
    "2264 |LESS-THAN OR EQUAL TO|GREATER-THAN OR EQUAL TO|LESS-THAN OVER EQUAL TO|GREATER-THAN OVER EQUAL TO",
    "2268 |LESS-THAN BUT NOT EQUAL TO|GREATER-THAN BUT NOT EQUAL TO|MUCH LESS-THAN|MUCH GREATER-THAN|BETWEEN",
    "226d NOT |EQUIVALENT TO|LESS-THAN|GREATER-THAN;2270 NEITHER |LESS-THAN NOR EQUAL TO|GREATER-THAN NOR EQUAL TO",
    "2272 |LESS-THAN OR EQUIVALENT TO|GREATER-THAN OR EQUIVALENT TO",
    "2274 NEITHER |LESS-THAN NOR EQUIVALENT TO|GREATER-THAN NOR EQUIVALENT TO",
    "2276 |LESS-THAN OR GREATER-THAN|GREATER-THAN OR LESS-THAN",
    "2278 NEITHER |LESS-THAN NOR GREATER-THAN|GREATER-THAN NOR LESS-THAN",
    "227a |PRECEDES|SUCCEEDS|PRECEDES OR EQUAL TO|SUCCEEDS OR EQUAL TO",
    "227e |PRECEDES OR EQUIVALENT TO|SUCCEEDS OR EQUIVALENT TO|DOES NOT PRECEDE|DOES NOT SUCCEED|SUBSET OF",
    "2283 |SUPERSET OF|NOT A SUBSET OF|NOT A SUPERSET OF|SUBSET OF OR EQUAL TO|SUPERSET OF OR EQUAL TO",
    "2288 NEITHER A |SUBSET OF NOR EQUAL TO|SUPERSET OF NOR EQUAL TO",
    "228a |SUBSET OF WITH NOT EQUAL TO|SUPERSET OF WITH NOT EQUAL TO|MULTISET;228d MULTISET |MULTIPLICATION|UNION",
    "228f SQUARE |IMAGE OF|ORIGINAL OF|IMAGE OF OR EQUAL TO|ORIGINAL OF OR EQUAL TO|CAP|CUP",
    "2295 CIRCLED |PLUS|MINUS|TIMES|DIVISION SLASH|DOT OPERATOR|RING OPERATOR|ASTERISK OPERATOR|EQUALS|DASH",
    "229e SQUARED |PLUS|MINUS|TIMES|DOT OPERATOR;22a2 |RIGHT TACK|LEFT TACK|DOWN TACK|UP TACK|ASSERTION",
    "22a7 |MODELS|TRUE|FORCES|TRIPLE VERTICAL BAR RIGHT TURNSTILE|DOUBLE VERTICAL BAR DOUBLE RIGHT TURNSTILE",
    "22ac |DOES NOT PROVE|NOT TRUE|DOES NOT FORCE|NEGATED DOUBLE VERTICAL BAR DOUBLE RIGHT TURNSTILE",
    "22b0 |PRECEDES UNDER RELATION|SUCCEEDS UNDER RELATION|NORMAL SUBGROUP OF|CONTAINS AS NORMAL SUBGROUP",
    "22b4 |NORMAL SUBGROUP OF OR EQUAL TO|CONTAINS AS NORMAL SUBGROUP OR EQUAL TO|ORIGINAL OF|IMAGE OF",
    "22b8 |MULTIMAP|HERMITIAN CONJUGATE MATRIX|INTERCALATE|XOR|NAND|NOR|RIGHT ANGLE WITH ARC|RIGHT TRIANGLE",
    "22c0 N-ARY |LOGICAL AND|LOGICAL OR|INTERSECTION|UNION;22c4 |DIAMOND OPERATOR|DOT OPERATOR|STAR OPERATOR",
    "22c7 |DIVISION TIMES|BOWTIE|LEFT NORMAL FACTOR SEMIDIRECT PRODUCT|RIGHT NORMAL FACTOR SEMIDIRECT PRODUCT",
    "22cb |LEFT SEMIDIRECT PRODUCT|RIGHT SEMIDIRECT PRODUCT|REVERSED TILDE EQUALS;22ce CURLY LOGICAL |OR|AND",
    "22d0 DOUBLE |SUBSET|SUPERSET|INTERSECTION|UNION",
    "22d4 |PITCHFORK|EQUAL AND PARALLEL TO|LESS-THAN WITH DOT|GREATER-THAN WITH DOT",
    "22d8 VERY MUCH |LESS-THAN|GREATER-THAN",
    "22da |LESS-THAN EQUAL TO OR GREATER-THAN|GREATER-THAN EQUAL TO OR LESS-THAN",
    "22dc EQUAL TO OR |LESS-THAN|GREATER-THAN|PRECEDES|SUCCEEDS;22e0 DOES NOT |PRECEDE OR EQUAL|SUCCEED OR EQUAL",
    "22e2 NOT SQUARE |IMAGE OF OR EQUAL TO|ORIGINAL OF OR EQUAL TO",
    "22e4 SQUARE |IMAGE OF OR NOT EQUAL TO|ORIGINAL OF OR NOT EQUAL TO",
    "22e6 |LESS-THAN BUT NOT EQUIVALENT TO|GREATER-THAN BUT NOT EQUIVALENT TO|PRECEDES BUT NOT EQUIVALENT TO",
    "22e9 |SUCCEEDS BUT NOT EQUIVALENT TO|NOT NORMAL SUBGROUP OF|DOES NOT CONTAIN AS NORMAL SUBGROUP",
    "22ec |NOT NORMAL SUBGROUP OF OR EQUAL TO|DOES NOT CONTAIN AS NORMAL SUBGROUP OR EQUAL|VERTICAL ELLIPSIS",
    "22ef |MIDLINE HORIZONTAL ELLIPSIS|UP RIGHT DIAGONAL ELLIPSIS|DOWN RIGHT DIAGONAL ELLIPSIS",
    "22f2 ELEMENT OF WITH |LONG HORIZONTAL STROKE|VERTICAL BAR AT END OF HORIZONTAL STROKE",
    "22f4 SMALL ELEMENT OF WITH VERTICAL BAR AT END OF HORIZONTAL |STROKE;22f5 ELEMENT OF WITH |DOT ABOVE|OVERBAR",
    "22f7 SMALL ELEMENT OF WITH |OVERBAR;22f8 ELEMENT OF WITH |UNDERBAR|TWO HORIZONTAL STROKES",
    "22fa CONTAINS WITH |LONG HORIZONTAL STROKE|VERTICAL BAR AT END OF HORIZONTAL STROKE",
    "22fc |SMALL CONTAINS WITH VERTICAL BAR AT END OF HORIZONTAL STROKE|CONTAINS WITH OVERBAR",
    "22fe |SMALL CONTAINS WITH OVERBAR|Z NOTATION BAG MEMBERSHIP|DIAMETER SIGN|ELECTRIC ARROW|HOUSE",
    "2303 |UP ARROWHEAD|DOWN ARROWHEAD|PROJECTIVE|PERSPECTIVE|WAVY LINE|LEFT CEILING|RIGHT CEILING|LEFT FLOOR",
    "230b |RIGHT FLOOR|BOTTOM RIGHT CROP|BOTTOM LEFT CROP|TOP RIGHT CROP|TOP LEFT CROP|REVERSED NOT SIGN",
    "2311 |SQUARE LOZENGE|ARC|SEGMENT|SECTOR|TELEPHONE RECORDER|POSITION INDICATOR|VIEWDATA SQUARE",
    "2318 |PLACE OF INTEREST SIGN|TURNED NOT SIGN|WATCH|HOURGLASS|TOP LEFT CORNER|TOP RIGHT CORNER",
    "231e BOTTOM |LEFT CORNER|RIGHT CORNER",
    "2320 |TOP HALF INTEGRAL|BOTTOM HALF INTEGRAL|FROWN|SMILE|UP ARROWHEAD BETWEEN TWO HORIZONTAL BARS",
    "2325 |OPTION KEY|ERASE TO THE RIGHT|X IN A RECTANGLE BOX|KEYBOARD|LEFT-POINTING ANGLE BRACKET",
    "232a |RIGHT-POINTING ANGLE BRACKET|ERASE TO THE LEFT|BENZENE RING|CYLINDRICITY|ALL AROUND-PROFILE",
    "232f |SYMMETRY|TOTAL RUNOUT|DIMENSION ORIGIN|CONICAL TAPER|SLOPE|COUNTERBORE|COUNTERSINK",
    "2336 APL FUNCTIONAL SYMBOL |I-BEAM|SQUISH QUAD|QUAD EQUAL|QUAD DIVIDE|QUAD DIAMOND",
    "233b APL FUNCTIONAL SYMBOL |QUAD JOT|QUAD CIRCLE|CIRCLE STILE|CIRCLE JOT|SLASH BAR|BACKSLASH BAR",
    "2341 APL FUNCTIONAL SYMBOL QUAD |SLASH|BACKSLASH|LESS-THAN|GREATER-THAN",
    "2345 APL FUNCTIONAL SYMBOL |LEFTWARDS VANE|RIGHTWARDS VANE|QUAD LEFTWARDS ARROW",
    "2348 APL FUNCTIONAL SYMBOL |QUAD RIGHTWARDS ARROW|CIRCLE BACKSLASH|DOWN TACK UNDERBAR|DELTA STILE",
    "234c APL FUNCTIONAL SYMBOL |QUAD DOWN CARET|QUAD DELTA|DOWN TACK JOT|UPWARDS VANE|QUAD UPWARDS ARROW",
    "2351 APL FUNCTIONAL SYMBOL |UP TACK OVERBAR|DEL STILE|QUAD UP CARET|QUAD DEL|UP TACK JOT|DOWNWARDS VANE",
    "2357 APL FUNCTIONAL SYMBOL |QUAD DOWNWARDS ARROW|QUOTE UNDERBAR|DELTA UNDERBAR|DIAMOND UNDERBAR",
    "235b APL FUNCTIONAL SYMBOL |JOT UNDERBAR|CIRCLE UNDERBAR|UP SHOE JOT|QUOTE QUAD|CIRCLE STAR|QUAD COLON",
    "2361 APL FUNCTIONAL SYMBOL |UP TACK DIAERESIS|DEL DIAERESIS|STAR DIAERESIS|JOT DIAERESIS|CIRCLE DIAERESIS",
    "2366 APL FUNCTIONAL SYMBOL |DOWN SHOE STILE|LEFT SHOE STILE|TILDE DIAERESIS|GREATER-THAN DIAERESIS",
    "236a APL FUNCTIONAL SYMBOL |COMMA BAR|DEL TILDE|ZILDE|STILE TILDE|SEMICOLON UNDERBAR",
    "236f APL FUNCTIONAL SYMBOL |QUAD NOT EQUAL|QUAD QUESTION|DOWN CARET TILDE|UP CARET TILDE|IOTA",
    "2374 APL FUNCTIONAL SYMBOL |RHO|OMEGA|ALPHA UNDERBAR|EPSILON UNDERBAR|IOTA UNDERBAR|OMEGA UNDERBAR|ALPHA",
    "237b |NOT CHECK MARK|RIGHT ANGLE WITH DOWNWARDS ZIGZAG ARROW",
    "237d |SHOULDERED OPEN BOX|BELL SYMBOL|VERTICAL LINE WITH MIDDLE DOT|INSERTION SYMBOL",
    "2381 |CONTINUOUS UNDERLINE SYMBOL|DISCONTINUOUS UNDERLINE SYMBOL|EMPHASIS SYMBOL|COMPOSITION SYMBOL",
    "2385 |WHITE SQUARE WITH CENTRE VERTICAL LINE|ENTER SYMBOL|ALTERNATIVE KEY SYMBOL|HELM SYMBOL",
    "2389 CIRCLED |HORIZONTAL BAR WITH NOTCH|TRIANGLE DOWN",
    "238b |BROKEN CIRCLE WITH NORTHWEST ARROW|UNDO SYMBOL|MONOSTABLE SYMBOL|HYSTERESIS SYMBOL",
    "238f OPEN-CIRCUIT-OUTPUT |H-TYPE SYMBOL|L-TYPE SYMBOL;2391 PASSIVE-PULL-|DOWN-OUTPUT SYMBOL|UP-OUTPUT SYMBOL",
    "2393 |DIRECT CURRENT SYMBOL FORM TWO|SOFTWARE-FUNCTION SYMBOL|APL FUNCTIONAL SYMBOL QUAD",
    "2396 |DECIMAL SEPARATOR KEY SYMBOL|PREVIOUS PAGE|NEXT PAGE|PRINT SCREEN SYMBOL|CLEAR SCREEN SYMBOL",
    "239b LEFT PARENTHESIS |UPPER HOOK|EXTENSION|LOWER HOOK;239e RIGHT PARENTHESIS |UPPER HOOK|EXTENSION|LOWER HOOK",
    "23a1 LEFT SQUARE BRACKET |UPPER CORNER|EXTENSION|LOWER CORNER",
    "23a4 RIGHT SQUARE BRACKET |UPPER CORNER|EXTENSION|LOWER CORNER",
    "23a7 LEFT CURLY BRACKET |UPPER HOOK|MIDDLE PIECE|LOWER HOOK;23aa CURLY BRACKET |EXTENSION",
    "23ab RIGHT CURLY BRACKET |UPPER HOOK|MIDDLE PIECE|LOWER HOOK;23ae |INTEGRAL EXTENSION|HORIZONTAL LINE EXTENSION",
    "23b0 UPPER |LEFT OR LOWER RIGHT CURLY BRACKET SECTION|RIGHT OR LOWER LEFT CURLY BRACKET SECTION",
    "23b2 SUMMATION |TOP|BOTTOM;23b4 TOP SQUARE |BRACKET;23b5 BOTTOM SQUARE |BRACKET|BRACKET OVER TOP SQUARE BRACKET",
    "23b7 |RADICAL SYMBOL BOTTOM|LEFT VERTICAL BOX LINE|RIGHT VERTICAL BOX LINE;23ba HORIZONTAL SCAN LINE-|1|3|7|9",
    "23be DENTISTRY SYMBOL LIGHT VERTICAL |AND TOP RIGHT|AND BOTTOM RIGHT|WITH CIRCLE",
    "23c1 DENTISTRY SYMBOL LIGHT DOWN AND HORIZONTAL WITH |CIRCLE",
    "23c2 DENTISTRY SYMBOL LIGHT |UP AND HORIZONTAL WITH CIRCLE|VERTICAL WITH TRIANGLE",
    "23c4 DENTISTRY SYMBOL LIGHT |DOWN AND HORIZONTAL WITH TRIANGLE|UP AND HORIZONTAL WITH TRIANGLE",
    "23c6 DENTISTRY SYMBOL LIGHT |VERTICAL AND WAVE|DOWN AND HORIZONTAL WITH WAVE",
    "23c8 DENTISTRY SYMBOL LIGHT |UP AND HORIZONTAL WITH WAVE|DOWN AND HORIZONTAL|UP AND HORIZONTAL",
    "23cb DENTISTRY SYMBOL LIGHT VERTICAL AND |TOP LEFT|BOTTOM LEFT",
    "23cd |SQUARE FOOT|RETURN SYMBOL|EJECT SYMBOL|VERTICAL LINE EXTENSION",
    "23d1 METRICAL |BREVE|LONG OVER SHORT|SHORT OVER LONG",
    "23d4 METRICAL |LONG OVER TWO SHORTS|TWO SHORTS OVER LONG|TWO SHORTS JOINED|TRISEME|TETRASEME|PENTASEME",
    "23da |EARTH GROUND|FUSE|TOP PARENTHESIS|BOTTOM PARENTHESIS|TOP CURLY BRACKET|BOTTOM CURLY BRACKET",
    "23e0 |TOP TORTOISE SHELL BRACKET|BOTTOM TORTOISE SHELL BRACKET|WHITE TRAPEZIUM|BENZENE RING WITH CIRCLE",
    "23e4 |STRAIGHTNESS|FLATNESS|AC CURRENT|ELECTRICAL INTERSECTION|DECIMAL EXPONENT SYMBOL",
    "23e9 BLACK |RIGHT-POINTING DOUBLE TRIANGLE|LEFT-POINTING DOUBLE TRIANGLE|UP-POINTING DOUBLE TRIANGLE",
    "23ec BLACK |DOWN-POINTING DOUBLE TRIANGLE|RIGHT-POINTING DOUBLE TRIANGLE WITH VERTICAL BAR",
    "23ee BLACK LEFT-POINTING DOUBLE TRIANGLE WITH VERTICAL |BAR",
    "23ef BLACK RIGHT-POINTING TRIANGLE WITH DOUBLE VERTICAL |BAR",
    "23f0 |ALARM CLOCK|STOPWATCH|TIMER CLOCK|HOURGLASS WITH FLOWING SAND|BLACK MEDIUM LEFT-POINTING TRIANGLE",
    "23f5 BLACK MEDIUM |RIGHT-POINTING TRIANGLE|UP-POINTING TRIANGLE|DOWN-POINTING TRIANGLE",
    "23f8 |DOUBLE VERTICAL BAR|BLACK SQUARE FOR STOP|BLACK CIRCLE FOR RECORD",
    "23fb POWER |SYMBOL|ON-OFF SYMBOL|ON SYMBOL|SLEEP SYMBOL;23ff OBSERVER EYE |SYMBOL",
    "2400 SYMBOL FOR |NULL|START OF HEADING|START OF TEXT|END OF TEXT",
    "2404 SYMBOL FOR |END OF TRANSMISSION|ENQUIRY|ACKNOWLEDGE|BELL|BACKSPACE|HORIZONTAL TABULATION|LINE FEED",
    "240b SYMBOL FOR |VERTICAL TABULATION|FORM FEED|CARRIAGE RETURN|SHIFT OUT|SHIFT IN|DATA LINK ESCAPE",
    "2411 SYMBOL FOR DEVICE CONTROL |ONE|TWO|THREE|FOUR",
    "2415 SYMBOL FOR |NEGATIVE ACKNOWLEDGE|SYNCHRONOUS IDLE|END OF TRANSMISSION BLOCK|CANCEL|END OF MEDIUM",
    "241a SYMBOL FOR |SUBSTITUTE|ESCAPE|FILE SEPARATOR|GROUP SEPARATOR|RECORD SEPARATOR|UNIT SEPARATOR|SPACE",
    "2421 |SYMBOL FOR DELETE|BLANK SYMBOL|OPEN BOX;2424 SYMBOL FOR |NEWLINE|DELETE FORM TWO|SUBSTITUTE FORM TWO",
    "2440 OCR |HOOK|CHAIR|FORK|INVERTED FORK|BELT BUCKLE|BOW TIE",
    "2446 OCR |BRANCH BANK IDENTIFICATION|AMOUNT OF CHECK|DASH|CUSTOMER ACCOUNT NUMBER|DOUBLE BACKSLASH",
    "2460 CIRCLED DIGIT |ONE|TWO|THREE|FOUR|FIVE|SIX|SEVEN|EIGHT|NINE;2469 CIRCLED NUMBER |TEN",
    "246a CIRCLED NUMBER |ELEVEN|TWELVE|THIRTEEN|FOURTEEN|FIFTEEN|SIXTEEN|SEVENTEEN|EIGHTEEN|NINETEEN|TWENTY",
    "2474 PARENTHESIZED DIGIT |ONE|TWO|THREE|FOUR|FIVE|SIX|SEVEN|EIGHT|NINE;247d PARENTHESIZED NUMBER |TEN|ELEVEN",
    "247f PARENTHESIZED NUMBER |TWELVE|THIRTEEN|FOURTEEN|FIFTEEN|SIXTEEN|SEVENTEEN|EIGHTEEN|NINETEEN|TWENTY",
    "2488 DIGIT |ONE FULL STOP|TWO FULL STOP|THREE FULL STOP",
    "248b DIGIT |FOUR FULL STOP|FIVE FULL STOP|SIX FULL STOP|SEVEN FULL STOP|EIGHT FULL STOP|NINE FULL STOP",
    "2491 NUMBER TEN FULL |STOP",
    "2492 NUMBER |ELEVEN FULL STOP|TWELVE FULL STOP|THIRTEEN FULL STOP|FOURTEEN FULL STOP|FIFTEEN FULL STOP",
    "2497 NUMBER |SIXTEEN FULL STOP|SEVENTEEN FULL STOP|EIGHTEEN FULL STOP|NINETEEN FULL STOP|TWENTY FULL STOP",
    "249c PARENTHESIZED LATIN SMALL LETTER |A|B|C|D|E|F|G|H|I|J|K|L|M|N|O|P|Q|R|S|T|U|V|W|X|Y|Z",
    "24b6 CIRCLED LATIN CAPITAL LETTER |A|B|C|D|E|F|G|H|I|J|K|L|M|N|O|P|Q|R|S|T|U|V|W|X|Y|Z",
    "24d0 CIRCLED LATIN SMALL LETTER |A|B|C|D|E|F|G|H|I|J|K|L|M|N|O|P|Q|R|S|T|U|V|W|X|Y|Z",
    "24ea |CIRCLED DIGIT ZERO|NEGATIVE CIRCLED NUMBER ELEVEN",
    "24ec NEGATIVE CIRCLED NUMBER |TWELVE|THIRTEEN|FOURTEEN|FIFTEEN|SIXTEEN|SEVENTEEN|EIGHTEEN|NINETEEN|TWENTY",
    "24f5 DOUBLE CIRCLED DIGIT |ONE|TWO|THREE|FOUR|FIVE|SIX|SEVEN|EIGHT|NINE",
    "24fe |DOUBLE CIRCLED NUMBER TEN|NEGATIVE CIRCLED DIGIT ZERO|BOX DRAWINGS LIGHT HORIZONTAL",
    "2501 BOX DRAWINGS |HEAVY HORIZONTAL|LIGHT VERTICAL|HEAVY VERTICAL|LIGHT TRIPLE DASH HORIZONTAL",
    "2505 BOX DRAWINGS |HEAVY TRIPLE DASH HORIZONTAL|LIGHT TRIPLE DASH VERTICAL|HEAVY TRIPLE DASH VERTICAL",
    "2508 BOX DRAWINGS |LIGHT QUADRUPLE DASH HORIZONTAL|HEAVY QUADRUPLE DASH HORIZONTAL",
    "250a BOX DRAWINGS |LIGHT QUADRUPLE DASH VERTICAL|HEAVY QUADRUPLE DASH VERTICAL|LIGHT DOWN AND RIGHT",
    "250d BOX DRAWINGS DOWN |LIGHT AND RIGHT HEAVY|HEAVY AND RIGHT LIGHT",
    "250f BOX DRAWINGS |HEAVY DOWN AND RIGHT|LIGHT DOWN AND LEFT|DOWN LIGHT AND LEFT HEAVY",
    "2512 BOX DRAWINGS |DOWN HEAVY AND LEFT LIGHT|HEAVY DOWN AND LEFT|LIGHT UP AND RIGHT",
    "2515 BOX DRAWINGS |UP LIGHT AND RIGHT HEAVY|UP HEAVY AND RIGHT LIGHT|HEAVY UP AND RIGHT",
    "2518 BOX DRAWINGS |LIGHT UP AND LEFT|UP LIGHT AND LEFT HEAVY|UP HEAVY AND LEFT LIGHT|HEAVY UP AND LEFT",
    "251c BOX DRAWINGS |LIGHT VERTICAL AND RIGHT|VERTICAL LIGHT AND RIGHT HEAVY|UP HEAVY AND RIGHT DOWN LIGHT",
    "251f BOX DRAWINGS |DOWN HEAVY AND RIGHT UP LIGHT|VERTICAL HEAVY AND RIGHT LIGHT",
    "2521 BOX DRAWINGS |DOWN LIGHT AND RIGHT UP HEAVY|UP LIGHT AND RIGHT DOWN HEAVY|HEAVY VERTICAL AND RIGHT",
    "2524 BOX DRAWINGS |LIGHT VERTICAL AND LEFT|VERTICAL LIGHT AND LEFT HEAVY|UP HEAVY AND LEFT DOWN LIGHT",
    "2527 BOX DRAWINGS |DOWN HEAVY AND LEFT UP LIGHT|VERTICAL HEAVY AND LEFT LIGHT",
    "2529 BOX DRAWINGS |DOWN LIGHT AND LEFT UP HEAVY|UP LIGHT AND LEFT DOWN HEAVY",
    "252b BOX DRAWINGS |HEAVY VERTICAL AND LEFT|LIGHT DOWN AND HORIZONTAL|LEFT HEAVY AND RIGHT DOWN LIGHT",
    "252e BOX DRAWINGS |RIGHT HEAVY AND LEFT DOWN LIGHT|DOWN LIGHT AND HORIZONTAL HEAVY",
    "2530 BOX DRAWINGS |DOWN HEAVY AND HORIZONTAL LIGHT|RIGHT LIGHT AND LEFT DOWN HEAVY",
    "2532 BOX DRAWINGS |LEFT LIGHT AND RIGHT DOWN HEAVY|HEAVY DOWN AND HORIZONTAL",
    "2534 BOX DRAWINGS |LIGHT UP AND HORIZONTAL|LEFT HEAVY AND RIGHT UP LIGHT|RIGHT HEAVY AND LEFT UP LIGHT",
    "2537 BOX DRAWINGS UP |LIGHT AND HORIZONTAL HEAVY|HEAVY AND HORIZONTAL LIGHT",
    "2539 BOX DRAWINGS |RIGHT LIGHT AND LEFT UP HEAVY|LEFT LIGHT AND RIGHT UP HEAVY|HEAVY UP AND HORIZONTAL",
    "253c BOX DRAWINGS |LIGHT VERTICAL AND HORIZONTAL|LEFT HEAVY AND RIGHT VERTICAL LIGHT",
    "253e BOX DRAWINGS |RIGHT HEAVY AND LEFT VERTICAL LIGHT|VERTICAL LIGHT AND HORIZONTAL HEAVY",
    "2540 BOX DRAWINGS |UP HEAVY AND DOWN HORIZONTAL LIGHT|DOWN HEAVY AND UP HORIZONTAL LIGHT",
    "2542 BOX DRAWINGS |VERTICAL HEAVY AND HORIZONTAL LIGHT|LEFT UP HEAVY AND RIGHT DOWN LIGHT",
    "2544 BOX DRAWINGS |RIGHT UP HEAVY AND LEFT DOWN LIGHT|LEFT DOWN HEAVY AND RIGHT UP LIGHT",
    "2546 BOX DRAWINGS |RIGHT DOWN HEAVY AND LEFT UP LIGHT|DOWN LIGHT AND UP HORIZONTAL HEAVY",
    "2548 BOX DRAWINGS |UP LIGHT AND DOWN HORIZONTAL HEAVY|RIGHT LIGHT AND LEFT VERTICAL HEAVY",
    "254a BOX DRAWINGS |LEFT LIGHT AND RIGHT VERTICAL HEAVY|HEAVY VERTICAL AND HORIZONTAL",
    "254c BOX DRAWINGS |LIGHT DOUBLE DASH HORIZONTAL|HEAVY DOUBLE DASH HORIZONTAL|LIGHT DOUBLE DASH VERTICAL",
    "254f BOX DRAWINGS |HEAVY DOUBLE DASH VERTICAL|DOUBLE HORIZONTAL|DOUBLE VERTICAL",
    "2552 BOX DRAWINGS |DOWN SINGLE AND RIGHT DOUBLE|DOWN DOUBLE AND RIGHT SINGLE|DOUBLE DOWN AND RIGHT",
    "2555 BOX DRAWINGS |DOWN SINGLE AND LEFT DOUBLE|DOWN DOUBLE AND LEFT SINGLE|DOUBLE DOWN AND LEFT",
    "2558 BOX DRAWINGS |UP SINGLE AND RIGHT DOUBLE|UP DOUBLE AND RIGHT SINGLE|DOUBLE UP AND RIGHT",
    "255b BOX DRAWINGS |UP SINGLE AND LEFT DOUBLE|UP DOUBLE AND LEFT SINGLE|DOUBLE UP AND LEFT",
    "255e BOX DRAWINGS VERTICAL |SINGLE AND RIGHT DOUBLE|DOUBLE AND RIGHT SINGLE",
    "2560 BOX DRAWINGS |DOUBLE VERTICAL AND RIGHT|VERTICAL SINGLE AND LEFT DOUBLE",
    "2562 BOX DRAWINGS |VERTICAL DOUBLE AND LEFT SINGLE|DOUBLE VERTICAL AND LEFT",
    "2564 BOX DRAWINGS DOWN |SINGLE AND HORIZONTAL DOUBLE|DOUBLE AND HORIZONTAL SINGLE",
    "2566 BOX DRAWINGS |DOUBLE DOWN AND HORIZONTAL|UP SINGLE AND HORIZONTAL DOUBLE",
    "2568 BOX DRAWINGS |UP DOUBLE AND HORIZONTAL SINGLE|DOUBLE UP AND HORIZONTAL",
    "256a BOX DRAWINGS VERTICAL |SINGLE AND HORIZONTAL DOUBLE|DOUBLE AND HORIZONTAL SINGLE",
    "256c BOX DRAWINGS DOUBLE VERTICAL AND |HORIZONTAL",
    "256d BOX DRAWINGS LIGHT ARC |DOWN AND RIGHT|DOWN AND LEFT|UP AND LEFT|UP AND RIGHT",
    "2571 BOX DRAWINGS LIGHT DIAGONAL |UPPER RIGHT TO LOWER LEFT|UPPER LEFT TO LOWER RIGHT|CROSS",
    "2574 BOX DRAWINGS LIGHT |LEFT|UP|RIGHT|DOWN;2578 BOX DRAWINGS HEAVY |LEFT|UP|RIGHT|DOWN",
    "257c BOX DRAWINGS LIGHT |LEFT AND HEAVY RIGHT|UP AND HEAVY DOWN",
    "257e BOX DRAWINGS HEAVY |LEFT AND LIGHT RIGHT|UP AND LIGHT DOWN;2580 UPPER HALF |BLOCK",
    "2581 LOWER ONE |EIGHTH BLOCK|QUARTER BLOCK",
    "2583 LOWER |THREE EIGHTHS BLOCK|HALF BLOCK|FIVE EIGHTHS BLOCK|THREE QUARTERS BLOCK|SEVEN EIGHTHS BLOCK",
    "2588 FULL |BLOCK",
    "2589 LEFT |SEVEN EIGHTHS BLOCK|THREE QUARTERS BLOCK|FIVE EIGHTHS BLOCK|HALF BLOCK|THREE EIGHTHS BLOCK",
    "258e LEFT ONE |QUARTER BLOCK|EIGHTH BLOCK",
    "2590 |RIGHT HALF BLOCK|LIGHT SHADE|MEDIUM SHADE|DARK SHADE|UPPER ONE EIGHTH BLOCK|RIGHT ONE EIGHTH BLOCK",
    "2596 QUADRANT |LOWER LEFT|LOWER RIGHT|UPPER LEFT;2599 QUADRANT UPPER LEFT AND LOWER |LEFT AND LOWER RIGHT|RIGHT",
    "259b QUADRANT UPPER LEFT AND UPPER RIGHT AND LOWER |LEFT|RIGHT",
    "259d QUADRANT UPPER |RIGHT|RIGHT AND LOWER LEFT|RIGHT AND LOWER LEFT AND LOWER RIGHT",
    "25a0 |BLACK SQUARE|WHITE SQUARE;25a2 WHITE SQUARE |WITH ROUNDED CORNERS|CONTAINING BLACK SMALL SQUARE",
    "25a4 SQUARE WITH |HORIZONTAL FILL|VERTICAL FILL|ORTHOGONAL CROSSHATCH FILL",
    "25a7 SQUARE WITH |UPPER LEFT TO LOWER RIGHT FILL|UPPER RIGHT TO LOWER LEFT FILL|DIAGONAL CROSSHATCH FILL",
    "25aa |BLACK SMALL SQUARE|WHITE SMALL SQUARE|BLACK RECTANGLE|WHITE RECTANGLE|BLACK VERTICAL RECTANGLE",
    "25af |WHITE VERTICAL RECTANGLE|BLACK PARALLELOGRAM|WHITE PARALLELOGRAM|BLACK UP-POINTING TRIANGLE",
    "25b3 |WHITE UP-POINTING TRIANGLE|BLACK UP-POINTING SMALL TRIANGLE|WHITE UP-POINTING SMALL TRIANGLE",
    "25b6 |BLACK RIGHT-POINTING TRIANGLE|WHITE RIGHT-POINTING TRIANGLE|BLACK RIGHT-POINTING SMALL TRIANGLE",
    "25b9 |WHITE RIGHT-POINTING SMALL TRIANGLE|BLACK RIGHT-POINTING POINTER",
    "25bb |WHITE RIGHT-POINTING POINTER|BLACK DOWN-POINTING TRIANGLE|WHITE DOWN-POINTING TRIANGLE",
    "25be |BLACK DOWN-POINTING SMALL TRIANGLE|WHITE DOWN-POINTING SMALL TRIANGLE|BLACK LEFT-POINTING TRIANGLE",
    "25c1 |WHITE LEFT-POINTING TRIANGLE|BLACK LEFT-POINTING SMALL TRIANGLE|WHITE LEFT-POINTING SMALL TRIANGLE",
    "25c4 |BLACK LEFT-POINTING POINTER|WHITE LEFT-POINTING POINTER|BLACK DIAMOND",
    "25c7 WHITE |DIAMOND|DIAMOND CONTAINING BLACK SMALL DIAMOND",
    "25c9 |FISHEYE|LOZENGE|WHITE CIRCLE|DOTTED CIRCLE|CIRCLE WITH VERTICAL FILL|BULLSEYE|BLACK CIRCLE",
    "25d0 CIRCLE WITH |LEFT HALF BLACK|RIGHT HALF BLACK|LOWER HALF BLACK",
    "25d3 CIRCLE WITH |UPPER HALF BLACK|UPPER RIGHT QUADRANT BLACK|ALL BUT UPPER LEFT QUADRANT BLACK",
    "25d6 |LEFT HALF BLACK CIRCLE|RIGHT HALF BLACK CIRCLE;25d8 INVERSE |BULLET|WHITE CIRCLE",
    "25da |UPPER HALF INVERSE WHITE CIRCLE|LOWER HALF INVERSE WHITE CIRCLE",
    "25dc UPPER |LEFT QUADRANT CIRCULAR ARC|RIGHT QUADRANT CIRCULAR ARC",
    "25de LOWER |RIGHT QUADRANT CIRCULAR ARC|LEFT QUADRANT CIRCULAR ARC;25e0 |UPPER HALF CIRCLE|LOWER HALF CIRCLE",
    "25e2 BLACK |LOWER RIGHT TRIANGLE|LOWER LEFT TRIANGLE|UPPER LEFT TRIANGLE|UPPER RIGHT TRIANGLE",
    "25e6 |WHITE BULLET|SQUARE WITH LEFT HALF BLACK",
    "25e8 SQUARE WITH |RIGHT HALF BLACK|UPPER LEFT DIAGONAL HALF BLACK|LOWER RIGHT DIAGONAL HALF BLACK",
    "25eb WHITE |SQUARE WITH VERTICAL BISECTING LINE|UP-POINTING TRIANGLE WITH DOT",
    "25ed UP-POINTING TRIANGLE WITH |LEFT HALF BLACK|RIGHT HALF BLACK;25ef LARGE |CIRCLE",
    "25f0 WHITE SQUARE WITH |UPPER LEFT QUADRANT|LOWER LEFT QUADRANT|LOWER RIGHT QUADRANT|UPPER RIGHT QUADRANT",
    "25f4 WHITE CIRCLE WITH |UPPER LEFT QUADRANT|LOWER LEFT QUADRANT|LOWER RIGHT QUADRANT|UPPER RIGHT QUADRANT",
    "25f8 |UPPER LEFT TRIANGLE|UPPER RIGHT TRIANGLE|LOWER LEFT TRIANGLE|WHITE MEDIUM SQUARE",
    "25fc |BLACK MEDIUM SQUARE|WHITE MEDIUM SMALL SQUARE|BLACK MEDIUM SMALL SQUARE|LOWER RIGHT TRIANGLE",
    "2600 |BLACK SUN WITH RAYS|CLOUD|UMBRELLA|SNOWMAN|COMET|BLACK STAR|WHITE STAR|LIGHTNING|THUNDERSTORM|SUN",
    "260a |ASCENDING NODE|DESCENDING NODE|CONJUNCTION|OPPOSITION|BLACK TELEPHONE|WHITE TELEPHONE|BALLOT BOX",
    "2611 BALLOT BOX WITH |CHECK|X",
    "2613 |SALTIRE|UMBRELLA WITH RAIN DROPS|HOT BEVERAGE|WHITE SHOGI PIECE|BLACK SHOGI PIECE",
    "2618 |SHAMROCK|REVERSED ROTATED FLORAL HEART BULLET|BLACK LEFT POINTING INDEX|BLACK RIGHT POINTING INDEX",
    "261c WHITE |LEFT POINTING INDEX|UP POINTING INDEX|RIGHT POINTING INDEX|DOWN POINTING INDEX",
    "2620 SKULL AND |CROSSBONES",
    "2621 |CAUTION SIGN|RADIOACTIVE SIGN|BIOHAZARD SIGN|CADUCEUS|ANKH|ORTHODOX CROSS|CHI RHO",
    "2628 CROSS OF |LORRAINE|JERUSALEM",
    "262a |STAR AND CRESCENT|FARSI SYMBOL|ADI SHAKTI|HAMMER AND SICKLE|PEACE SYMBOL|YIN YANG",
    "2630 TRIGRAM FOR |HEAVEN|LAKE|FIRE|THUNDER|WIND|WATER|MOUNTAIN|EARTH;2638 WHEEL OF |DHARMA",
    "2639 |WHITE FROWNING FACE|WHITE SMILING FACE|BLACK SMILING FACE|WHITE SUN WITH RAYS|FIRST QUARTER MOON",
    "263e |LAST QUARTER MOON|MERCURY|FEMALE SIGN|EARTH|MALE SIGN|JUPITER|SATURN|URANUS|NEPTUNE",
    "2647 |PLUTO|ARIES|TAURUS|GEMINI|CANCER|LEO|VIRGO|LIBRA|SCORPIUS|SAGITTARIUS|CAPRICORN|AQUARIUS|PISCES",
    "2654 WHITE CHESS |KING|QUEEN|ROOK|BISHOP|KNIGHT|PAWN;265a BLACK CHESS |KING|QUEEN|ROOK|BISHOP|KNIGHT|PAWN",
    "2660 |BLACK SPADE SUIT|WHITE HEART SUIT|WHITE DIAMOND SUIT|BLACK CLUB SUIT|WHITE SPADE SUIT",
    "2665 |BLACK HEART SUIT|BLACK DIAMOND SUIT|WHITE CLUB SUIT|HOT SPRINGS|QUARTER NOTE|EIGHTH NOTE",
    "266b BEAMED |EIGHTH NOTES|SIXTEENTH NOTES;266d MUSIC |FLAT SIGN|NATURAL SIGN|SHARP SIGN",
    "2670 |WEST SYRIAC CROSS|EAST SYRIAC CROSS|UNIVERSAL RECYCLING SYMBOL",
    "2673 RECYCLING SYMBOL FOR TYPE-|1 PLASTICS|2 PLASTICS|3 PLASTICS|4 PLASTICS|5 PLASTICS|6 PLASTICS",
    "2679 RECYCLING SYMBOL FOR |TYPE-7 PLASTICS|GENERIC MATERIALS;267b BLACK UNIVERSAL RECYCLING |SYMBOL",
    "267c |RECYCLED PAPER SYMBOL|PARTIALLY-RECYCLED PAPER SYMBOL|PERMANENT PAPER SIGN|WHEELCHAIR SYMBOL",
    "2680 DIE FACE-|1|2|3|4|5|6;2686 WHITE CIRCLE WITH |DOT RIGHT|TWO DOTS",
    "2688 BLACK CIRCLE WITH |WHITE DOT RIGHT|TWO WHITE DOTS;268a MONOGRAM FOR |YANG|YIN",
    "268c DIGRAM FOR |GREATER YANG|LESSER YIN|LESSER YANG|GREATER YIN",
    "2690 |WHITE FLAG|BLACK FLAG|HAMMER AND PICK|ANCHOR|CROSSED SWORDS|STAFF OF AESCULAPIUS",
    "2696 |SCALES|ALEMBIC|FLOWER|GEAR|STAFF OF HERMES|ATOM SYMBOL|FLEUR-DE-LIS|OUTLINED WHITE STAR",
    "269e THREE LINES CONVERGING |RIGHT|LEFT;26a0 |WARNING SIGN|HIGH VOLTAGE SIGN;26a2 DOUBLED |FEMALE SIGN|MALE SIGN",
    "26a4 |INTERLOCKED FEMALE AND MALE SIGN|MALE AND FEMALE SIGN;26a6 MALE WITH STROKE |SIGN|AND MALE AND FEMALE SIGN",
    "26a8 |VERTICAL MALE WITH STROKE SIGN|HORIZONTAL MALE WITH STROKE SIGN",
    "26aa MEDIUM |WHITE CIRCLE|BLACK CIRCLE|SMALL WHITE CIRCLE;26ad |MARRIAGE SYMBOL|DIVORCE SYMBOL",
    "26af |UNMARRIED PARTNERSHIP SYMBOL|COFFIN|FUNERAL URN|NEUTER|CERES|PALLAS|JUNO|VESTA|CHIRON",
    "26b8 |BLACK MOON LILITH|SEXTILE|SEMISEXTILE|QUINCUNX|SESQUIQUADRATE|SOCCER BALL|BASEBALL|SQUARED KEY",
    "26c0 WHITE DRAUGHTS |MAN|KING;26c2 BLACK DRAUGHTS |MAN|KING",
    "26c4 |SNOWMAN WITHOUT SNOW|SUN BEHIND CLOUD|RAIN|BLACK SNOWMAN|THUNDER CLOUD AND RAIN",
    "26c9 TURNED |WHITE SHOGI PIECE|BLACK SHOGI PIECE;26cb |WHITE DIAMOND IN SQUARE|CROSSING LANES|DISABLED CAR",
    "26ce |OPHIUCHUS|PICK|CAR SLIDING|HELMET WITH WHITE CROSS|CIRCLED CROSSING LANES|CHAINS|NO ENTRY",
    "26d5 |ALTERNATE ONE-WAY LEFT WAY TRAFFIC|BLACK TWO-WAY LEFT WAY TRAFFIC|WHITE TWO-WAY LEFT WAY TRAFFIC",
    "26d8 |BLACK LEFT LANE MERGE|WHITE LEFT LANE MERGE|DRIVE SLOW SIGN|HEAVY WHITE DOWN-POINTING TRIANGLE",
    "26dc |LEFT CLOSED ENTRY|SQUARED SALTIRE|FALLING DIAGONAL IN WHITE CIRCLE IN BLACK SQUARE|BLACK TRUCK",
    "26e0 RESTRICTED LEFT ENTRY-|1|2;26e2 ASTRONOMICAL SYMBOL FOR |URANUS",
    "26e3 |HEAVY CIRCLE WITH STROKE AND TWO DOTS ABOVE|PENTAGRAM|RIGHT-HANDED INTERLACED PENTAGRAM",
    "26e6 |LEFT-HANDED INTERLACED PENTAGRAM|INVERTED PENTAGRAM|BLACK CROSS ON SHIELD|SHINTO SHRINE",
    "26ea |CHURCH|CASTLE|HISTORIC SITE|GEAR WITHOUT HUB|GEAR WITH HANDLES|MAP SYMBOL FOR LIGHTHOUSE",
    "26f0 |MOUNTAIN|UMBRELLA ON GROUND|FOUNTAIN|FLAG IN HOLE|FERRY|SAILBOAT|SQUARE FOUR CORNERS",
    "26f7 |SKIER|ICE SKATE|PERSON WITH BALL|TENT|JAPANESE BANK SYMBOL|HEADSTONE GRAVEYARD SYMBOL",
    "26fd |FUEL PUMP|CUP ON BLACK SQUARE|WHITE FLAG WITH HORIZONTAL MIDDLE BLACK STRIPE",
    "2700 |BLACK SAFETY SCISSORS|UPPER BLADE SCISSORS|BLACK SCISSORS|LOWER BLADE SCISSORS",
    "2704 |WHITE SCISSORS|WHITE HEAVY CHECK MARK|TELEPHONE LOCATION SIGN|TAPE DRIVE|AIRPLANE|ENVELOPE",
    "270a RAISED |FIST|HAND;270c |VICTORY HAND|WRITING HAND|LOWER RIGHT PENCIL|PENCIL|UPPER RIGHT PENCIL",
    "2711 |WHITE NIB|BLACK NIB|CHECK MARK|HEAVY CHECK MARK|MULTIPLICATION X|HEAVY MULTIPLICATION X|BALLOT X",
    "2718 |HEAVY BALLOT X|OUTLINED GREEK CROSS|HEAVY GREEK CROSS|OPEN CENTRE CROSS|HEAVY OPEN CENTRE CROSS",
    "271d |LATIN CROSS|SHADOWED WHITE LATIN CROSS|OUTLINED LATIN CROSS|MALTESE CROSS|STAR OF DAVID",
    "2722 FOUR |TEARDROP-SPOKED ASTERISK|BALLOON-SPOKED ASTERISK",
    "2724 |HEAVY FOUR BALLOON-SPOKED ASTERISK|FOUR CLUB-SPOKED ASTERISK|BLACK FOUR POINTED STAR",
    "2727 |WHITE FOUR POINTED STAR|SPARKLES|STRESS OUTLINED WHITE STAR|CIRCLED WHITE STAR",
    "272b |OPEN CENTRE BLACK STAR|BLACK CENTRE WHITE STAR|OUTLINED BLACK STAR|HEAVY OUTLINED BLACK STAR",
    "272f |PINWHEEL STAR|SHADOWED WHITE STAR|HEAVY ASTERISK|OPEN CENTRE ASTERISK|EIGHT SPOKED ASTERISK",
    "2734 EIGHT POINTED |BLACK STAR|PINWHEEL STAR;2736 |SIX POINTED BLACK STAR|EIGHT POINTED RECTILINEAR BLACK STAR",
    "2738 |HEAVY EIGHT POINTED RECTILINEAR BLACK STAR|TWELVE POINTED BLACK STAR",
    "273a |SIXTEEN POINTED ASTERISK|TEARDROP-SPOKED ASTERISK|OPEN CENTRE TEARDROP-SPOKED ASTERISK",
    "273d |HEAVY TEARDROP-SPOKED ASTERISK|SIX PETALLED BLACK AND WHITE FLORETTE",
    "273f |BLACK FLORETTE|WHITE FLORETTE|EIGHT PETALLED OUTLINED BLACK FLORETTE",
    "2742 |CIRCLED OPEN CENTRE EIGHT POINTED STAR|HEAVY TEARDROP-SPOKED PINWHEEL ASTERISK|SNOWFLAKE",
    "2745 |TIGHT TRIFOLIATE SNOWFLAKE|HEAVY CHEVRON SNOWFLAKE|SPARKLE|HEAVY SPARKLE|BALLOON-SPOKED ASTERISK",
    "274a |EIGHT TEARDROP-SPOKED PROPELLER ASTERISK|HEAVY EIGHT TEARDROP-SPOKED PROPELLER ASTERISK",
    "274c |CROSS MARK|SHADOWED WHITE CIRCLE|NEGATIVE SQUARED CROSS MARK",
    "274f |LOWER RIGHT DROP-SHADOWED WHITE SQUARE|UPPER RIGHT DROP-SHADOWED WHITE SQUARE",
    "2751 |LOWER RIGHT SHADOWED WHITE SQUARE|UPPER RIGHT SHADOWED WHITE SQUARE|BLACK QUESTION MARK ORNAMENT",
    "2754 WHITE |QUESTION MARK ORNAMENT|EXCLAMATION MARK ORNAMENT",
    "2756 |BLACK DIAMOND MINUS WHITE X|HEAVY EXCLAMATION MARK SYMBOL|LIGHT VERTICAL BAR|MEDIUM VERTICAL BAR",
    "275a HEAVY |VERTICAL BAR|SINGLE TURNED COMMA QUOTATION MARK ORNAMENT|SINGLE COMMA QUOTATION MARK ORNAMENT",
    "275d HEAVY DOUBLE |TURNED COMMA QUOTATION MARK ORNAMENT|COMMA QUOTATION MARK ORNAMENT",
    "275f HEAVY LOW |SINGLE COMMA QUOTATION MARK ORNAMENT|DOUBLE COMMA QUOTATION MARK ORNAMENT",
    "2761 CURVED STEM PARAGRAPH SIGN |ORNAMENT",
    "2762 HEAVY |EXCLAMATION MARK ORNAMENT|HEART EXCLAMATION MARK ORNAMENT|BLACK HEART",
    "2765 |ROTATED HEAVY BLACK HEART BULLET|FLORAL HEART|ROTATED FLORAL HEART BULLET",
    "2768 MEDIUM |LEFT PARENTHESIS ORNAMENT|RIGHT PARENTHESIS ORNAMENT",
    "276a MEDIUM FLATTENED |LEFT PARENTHESIS ORNAMENT|RIGHT PARENTHESIS ORNAMENT",
    "276c MEDIUM |LEFT-POINTING ANGLE BRACKET ORNAMENT|RIGHT-POINTING ANGLE BRACKET ORNAMENT",
    "276e HEAVY |LEFT-POINTING ANGLE QUOTATION MARK ORNAMENT|RIGHT-POINTING ANGLE QUOTATION MARK ORNAMENT",
    "2770 HEAVY |LEFT-POINTING ANGLE BRACKET ORNAMENT|RIGHT-POINTING ANGLE BRACKET ORNAMENT",
    "2772 LIGHT |LEFT TORTOISE SHELL BRACKET ORNAMENT|RIGHT TORTOISE SHELL BRACKET ORNAMENT",
    "2774 MEDIUM |LEFT CURLY BRACKET ORNAMENT|RIGHT CURLY BRACKET ORNAMENT",
    "2776 DINGBAT NEGATIVE CIRCLED DIGIT |ONE|TWO|THREE|FOUR|FIVE|SIX|SEVEN|EIGHT|NINE",
    "277f DINGBAT NEGATIVE CIRCLED NUMBER |TEN",
    "2780 DINGBAT CIRCLED SANS-SERIF DIGIT |ONE|TWO|THREE|FOUR|FIVE|SIX|SEVEN|EIGHT|NINE",
    "2789 DINGBAT CIRCLED SANS-SERIF NUMBER |TEN",
    "278a DINGBAT NEGATIVE CIRCLED SANS-SERIF DIGIT |ONE|TWO|THREE|FOUR|FIVE|SIX|SEVEN|EIGHT|NINE",
    "2793 |DINGBAT NEGATIVE CIRCLED SANS-SERIF NUMBER TEN|HEAVY WIDE-HEADED RIGHTWARDS ARROW",
    "2795 HEAVY |PLUS SIGN|MINUS SIGN|DIVISION SIGN|SOUTH EAST ARROW|RIGHTWARDS ARROW|NORTH EAST ARROW",
    "279b DRAFTING POINT RIGHTWARDS |ARROW;279c |HEAVY ROUND-TIPPED RIGHTWARDS ARROW|TRIANGLE-HEADED RIGHTWARDS ARROW",
    "279e |HEAVY TRIANGLE-HEADED RIGHTWARDS ARROW|DASHED TRIANGLE-HEADED RIGHTWARDS ARROW",
    "27a0 |HEAVY DASHED TRIANGLE-HEADED RIGHTWARDS ARROW|BLACK RIGHTWARDS ARROW",
    "27a2 THREE-D |TOP-LIGHTED RIGHTWARDS ARROWHEAD|BOTTOM-LIGHTED RIGHTWARDS ARROWHEAD",
    "27a4 BLACK RIGHTWARDS |ARROWHEAD",
    "27a5 HEAVY BLACK CURVED |DOWNWARDS AND RIGHTWARDS ARROW|UPWARDS AND RIGHTWARDS ARROW",
    "27a7 |SQUAT BLACK RIGHTWARDS ARROW|HEAVY CONCAVE-POINTED BLACK RIGHTWARDS ARROW",
    "27a9 |RIGHT-SHADED WHITE RIGHTWARDS ARROW|LEFT-SHADED WHITE RIGHTWARDS ARROW",
    "27ab |BACK-TILTED SHADOWED WHITE RIGHTWARDS ARROW|FRONT-TILTED SHADOWED WHITE RIGHTWARDS ARROW",
    "27ad HEAVY |LOWER RIGHT-SHADOWED WHITE RIGHTWARDS ARROW|UPPER RIGHT-SHADOWED WHITE RIGHTWARDS ARROW",
    "27af NOTCHED LOWER RIGHT-SHADOWED WHITE RIGHTWARDS |ARROW",
    "27b0 |CURLY LOOP|NOTCHED UPPER RIGHT-SHADOWED WHITE RIGHTWARDS ARROW",
    "27b2 |CIRCLED HEAVY WHITE RIGHTWARDS ARROW|WHITE-FEATHERED RIGHTWARDS ARROW",
    "27b4 BLACK-FEATHERED |SOUTH EAST ARROW|RIGHTWARDS ARROW|NORTH EAST ARROW",
    "27b7 HEAVY BLACK-FEATHERED |SOUTH EAST ARROW|RIGHTWARDS ARROW|NORTH EAST ARROW",
    "27ba TEARDROP-BARBED RIGHTWARDS |ARROW",
    "27bb |HEAVY TEARDROP-SHANKED RIGHTWARDS ARROW|WEDGE-TAILED RIGHTWARDS ARROW",
    "27bd |HEAVY WEDGE-TAILED RIGHTWARDS ARROW|OPEN-OUTLINED RIGHTWARDS ARROW|DOUBLE CURLY LOOP",
    "27c0 |THREE DIMENSIONAL ANGLE|WHITE TRIANGLE CONTAINING SMALL WHITE TRIANGLE|PERPENDICULAR|OPEN SUBSET",
    "27c4 |OPEN SUPERSET|LEFT S-SHAPED BAG DELIMITER|RIGHT S-SHAPED BAG DELIMITER|OR WITH DOT INSIDE",
    "27c8 |REVERSE SOLIDUS PRECEDING SUBSET|SUPERSET PRECEDING SOLIDUS|VERTICAL BAR WITH HORIZONTAL STROKE",
    "27cb |MATHEMATICAL RISING DIAGONAL|LONG DIVISION|MATHEMATICAL FALLING DIAGONAL;27ce SQUARED LOGICAL |AND|OR",
    "27d0 |WHITE DIAMOND WITH CENTRED DOT|AND WITH DOT|ELEMENT OF OPENING UPWARDS|LOWER RIGHT CORNER WITH DOT",
    "27d4 |UPPER LEFT CORNER WITH DOT|LEFT OUTER JOIN|RIGHT OUTER JOIN|FULL OUTER JOIN;27d8 LARGE |UP TACK|DOWN TACK",
    "27da LEFT |AND RIGHT DOUBLE TURNSTILE|AND RIGHT TACK|MULTIMAP",
    "27dd |LONG RIGHT TACK|LONG LEFT TACK|UP TACK WITH CIRCLE ABOVE|LOZENGE DIVIDED BY HORIZONTAL RULE",
    "27e1 WHITE CONCAVE-SIDED |DIAMOND|DIAMOND WITH LEFTWARDS TICK|DIAMOND WITH RIGHTWARDS TICK",
    "27e4 WHITE SQUARE WITH |LEFTWARDS TICK|RIGHTWARDS TICK",
    "27e6 MATHEMATICAL |LEFT WHITE SQUARE BRACKET|RIGHT WHITE SQUARE BRACKET|LEFT ANGLE BRACKET",
    "27e9 MATHEMATICAL |RIGHT ANGLE BRACKET|LEFT DOUBLE ANGLE BRACKET|RIGHT DOUBLE ANGLE BRACKET",
    "27ec MATHEMATICAL |LEFT WHITE TORTOISE SHELL BRACKET|RIGHT WHITE TORTOISE SHELL BRACKET",
    "27ee MATHEMATICAL |LEFT FLATTENED PARENTHESIS|RIGHT FLATTENED PARENTHESIS",
    "27f0 |UPWARDS QUADRUPLE ARROW|DOWNWARDS QUADRUPLE ARROW",
    "27f2 |ANTICLOCKWISE GAPPED CIRCLE ARROW|CLOCKWISE GAPPED CIRCLE ARROW|RIGHT ARROW WITH CIRCLED PLUS",
    "27f5 LONG |LEFTWARDS ARROW|RIGHTWARDS ARROW",
    "27f7 LONG |LEFT RIGHT ARROW|LEFTWARDS DOUBLE ARROW|RIGHTWARDS DOUBLE ARROW|LEFT RIGHT DOUBLE ARROW",
    "27fb LONG |LEFTWARDS ARROW FROM BAR|RIGHTWARDS ARROW FROM BAR|LEFTWARDS DOUBLE ARROW FROM BAR",
    "27fe LONG RIGHTWARDS |DOUBLE ARROW FROM BAR|SQUIGGLE ARROW;2800 BRAILLE PATTERN |BLANK",
    "2801 BRAILLE PATTERN DOTS-|1|2|12|3|13|23|123|4|14|24|124|34|134|234|1234|5|15|25",
    "2813 BRAILLE PATTERN DOTS-|125|35|135|235|1235|45|145|245|1245|345|1345|2345|12345|6|16|26|126|36|136|236",
    "2827 BRAILLE PATTERN DOTS-|1236|46|146|246|1246|346|1346|2346|12346|56|156|256|1256|356|1356|2356|12356",
    "2838 BRAILLE PATTERN DOTS-|456|1456|2456|12456|3456|13456|23456|123456|7|17|27|127|37|137|237|1237|47",
    "2849 BRAILLE PATTERN DOTS-|147|247|1247|347|1347|2347|12347|57|157|257|1257|357|1357|2357|12357|457|1457",
    "285a BRAILLE PATTERN DOTS-|2457|12457|3457|13457|23457|123457|67|167|267|1267|367|1367|2367|12367|467",
    "2869 BRAILLE PATTERN DOTS-|1467|2467|12467|3467|13467|23467|123467|567|1567|2567|12567|3567|13567|23567",
    "2877 BRAILLE PATTERN DOTS-|123567|4567|14567|24567|124567|34567|134567|234567|1234567|8|18|28|128|38",
    "2885 BRAILLE PATTERN DOTS-|138|238|1238|48|148|248|1248|348|1348|2348|12348|58|158|258|1258|358|1358|2358",
    "2897 BRAILLE PATTERN DOTS-|12358|458|1458|2458|12458|3458|13458|23458|123458|68|168|268|1268|368|1368",
    "28a6 BRAILLE PATTERN DOTS-|2368|12368|468|1468|2468|12468|3468|13468|23468|123468|568|1568|2568|12568",
    "28b4 BRAILLE PATTERN DOTS-|3568|13568|23568|123568|4568|14568|24568|124568|34568|134568|234568|1234568|78",
    "28c1 BRAILLE PATTERN DOTS-|178|278|1278|378|1378|2378|12378|478|1478|2478|12478|3478|13478|23478|123478",
    "28d0 BRAILLE PATTERN DOTS-|578|1578|2578|12578|3578|13578|23578|123578|4578|14578|24578|124578|34578",
    "28dd BRAILLE PATTERN DOTS-|134578|234578|1234578|678|1678|2678|12678|3678|13678|23678|123678|4678|14678",
    "28ea BRAILLE PATTERN DOTS-|24678|124678|34678|134678|234678|1234678|5678|15678|25678|125678|35678|135678",
    "28f6 BRAILLE PATTERN DOTS-|235678|1235678|45678|145678|245678|1245678|345678|1345678|2345678|12345678",
    "2900 RIGHTWARDS TWO-HEADED ARROW WITH |VERTICAL STROKE|DOUBLE VERTICAL STROKE",
    "2902 LEFTWARDS DOUBLE ARROW WITH VERTICAL |STROKE",
    "2903 |RIGHTWARDS DOUBLE ARROW WITH VERTICAL STROKE|LEFT RIGHT DOUBLE ARROW WITH VERTICAL STROKE",
    "2905 |RIGHTWARDS TWO-HEADED ARROW FROM BAR|LEFTWARDS DOUBLE ARROW FROM BAR",
    "2907 |RIGHTWARDS DOUBLE ARROW FROM BAR|DOWNWARDS ARROW WITH HORIZONTAL STROKE",
    "2909 UPWARDS |ARROW WITH HORIZONTAL STROKE|TRIPLE ARROW;290b DOWNWARDS TRIPLE |ARROW",
    "290c |LEFTWARDS DOUBLE DASH ARROW|RIGHTWARDS DOUBLE DASH ARROW|LEFTWARDS TRIPLE DASH ARROW",
    "290f RIGHTWARDS |TRIPLE DASH ARROW|TWO-HEADED TRIPLE DASH ARROW|ARROW WITH DOTTED STEM",
    "2912 |UPWARDS ARROW TO BAR|DOWNWARDS ARROW TO BAR",
    "2914 RIGHTWARDS ARROW WITH TAIL WITH |VERTICAL STROKE|DOUBLE VERTICAL STROKE",
    "2916 RIGHTWARDS TWO-HEADED ARROW WITH |TAIL|TAIL WITH VERTICAL STROKE|TAIL WITH DOUBLE VERTICAL STROKE",
    "2919 |LEFTWARDS ARROW-TAIL|RIGHTWARDS ARROW-TAIL|LEFTWARDS DOUBLE ARROW-TAIL",
    "291c |RIGHTWARDS DOUBLE ARROW-TAIL|LEFTWARDS ARROW TO BLACK DIAMOND|RIGHTWARDS ARROW TO BLACK DIAMOND",
    "291f |LEFTWARDS ARROW FROM BAR TO BLACK DIAMOND|RIGHTWARDS ARROW FROM BAR TO BLACK DIAMOND",
    "2921 NORTH |WEST AND SOUTH EAST ARROW|EAST AND SOUTH WEST ARROW|WEST ARROW WITH HOOK|EAST ARROW WITH HOOK",
    "2925 SOUTH |EAST ARROW WITH HOOK|WEST ARROW WITH HOOK",
    "2927 NORTH |WEST ARROW AND NORTH EAST ARROW|EAST ARROW AND SOUTH EAST ARROW",
    "2929 SOUTH |EAST ARROW AND SOUTH WEST ARROW|WEST ARROW AND NORTH WEST ARROW",
    "292b |RISING DIAGONAL CROSSING FALLING DIAGONAL|FALLING DIAGONAL CROSSING RISING DIAGONAL",
    "292d |SOUTH EAST ARROW CROSSING NORTH EAST ARROW|NORTH EAST ARROW CROSSING SOUTH EAST ARROW",
    "292f |FALLING DIAGONAL CROSSING NORTH EAST ARROW|RISING DIAGONAL CROSSING SOUTH EAST ARROW",
    "2931 NORTH |EAST ARROW CROSSING NORTH WEST ARROW|WEST ARROW CROSSING NORTH EAST ARROW",
    "2933 WAVE ARROW POINTING DIRECTLY |RIGHT;2934 ARROW POINTING RIGHTWARDS THEN CURVING |UPWARDS|DOWNWARDS",
    "2936 ARROW POINTING DOWNWARDS THEN CURVING |LEFTWARDS|RIGHTWARDS;2938 RIGHT-SIDE ARC CLOCKWISE |ARROW",
    "2939 |LEFT-SIDE ARC ANTICLOCKWISE ARROW|TOP ARC ANTICLOCKWISE ARROW|BOTTOM ARC ANTICLOCKWISE ARROW",
    "293c TOP ARC |CLOCKWISE ARROW WITH MINUS|ANTICLOCKWISE ARROW WITH PLUS",
    "293e LOWER |RIGHT SEMICIRCULAR CLOCKWISE ARROW|LEFT SEMICIRCULAR ANTICLOCKWISE ARROW",
    "2940 ANTICLOCKWISE CLOSED CIRCLE |ARROW",
    "2941 |CLOCKWISE CLOSED CIRCLE ARROW|RIGHTWARDS ARROW ABOVE SHORT LEFTWARDS ARROW",
    "2943 |LEFTWARDS ARROW ABOVE SHORT RIGHTWARDS ARROW|SHORT RIGHTWARDS ARROW ABOVE LEFTWARDS ARROW",
    "2945 |RIGHTWARDS ARROW WITH PLUS BELOW|LEFTWARDS ARROW WITH PLUS BELOW|RIGHTWARDS ARROW THROUGH X",
    "2948 |LEFT RIGHT ARROW THROUGH SMALL CIRCLE|UPWARDS TWO-HEADED ARROW FROM SMALL CIRCLE",
    "294a LEFT BARB |UP RIGHT BARB DOWN HARPOON|DOWN RIGHT BARB UP HARPOON",
    "294c UP BARB |RIGHT DOWN BARB LEFT HARPOON|LEFT DOWN BARB RIGHT HARPOON",
    "294e |LEFT BARB UP RIGHT BARB UP HARPOON|UP BARB RIGHT DOWN BARB RIGHT HARPOON",
    "2950 |LEFT BARB DOWN RIGHT BARB DOWN HARPOON|UP BARB LEFT DOWN BARB LEFT HARPOON",
    "2952 |LEFTWARDS HARPOON WITH BARB UP TO BAR|RIGHTWARDS HARPOON WITH BARB UP TO BAR",
    "2954 |UPWARDS HARPOON WITH BARB RIGHT TO BAR|DOWNWARDS HARPOON WITH BARB RIGHT TO BAR",
    "2956 |LEFTWARDS HARPOON WITH BARB DOWN TO BAR|RIGHTWARDS HARPOON WITH BARB DOWN TO BAR",
    "2958 |UPWARDS HARPOON WITH BARB LEFT TO BAR|DOWNWARDS HARPOON WITH BARB LEFT TO BAR",
    "295a |LEFTWARDS HARPOON WITH BARB UP FROM BAR|RIGHTWARDS HARPOON WITH BARB UP FROM BAR",
    "295c |UPWARDS HARPOON WITH BARB RIGHT FROM BAR|DOWNWARDS HARPOON WITH BARB RIGHT FROM BAR",
    "295e |LEFTWARDS HARPOON WITH BARB DOWN FROM BAR|RIGHTWARDS HARPOON WITH BARB DOWN FROM BAR",
    "2960 |UPWARDS HARPOON WITH BARB LEFT FROM BAR|DOWNWARDS HARPOON WITH BARB LEFT FROM BAR",
    "2962 LEFTWARDS HARPOON WITH BARB UP ABOVE LEFTWARDS HARPOON WITH BARB |DOWN",
    "2963 UPWARDS HARPOON WITH BARB LEFT BESIDE UPWARDS HARPOON WITH BARB |RIGHT",
    "2964 RIGHTWARDS HARPOON WITH BARB UP ABOVE RIGHTWARDS HARPOON WITH BARB |DOWN",
    "2965 DOWNWARDS HARPOON WITH BARB LEFT BESIDE DOWNWARDS HARPOON WITH BARB |RIGHT",
    "2966 LEFTWARDS HARPOON WITH BARB UP ABOVE RIGHTWARDS HARPOON WITH BARB |UP",
    "2967 LEFTWARDS HARPOON WITH BARB DOWN ABOVE RIGHTWARDS HARPOON WITH BARB |DOWN",
    "2968 RIGHTWARDS HARPOON WITH BARB UP ABOVE LEFTWARDS HARPOON WITH BARB |UP",
    "2969 RIGHTWARDS HARPOON WITH BARB DOWN ABOVE LEFTWARDS HARPOON WITH BARB |DOWN",
    "296a LEFTWARDS HARPOON WITH BARB |UP ABOVE LONG DASH|DOWN BELOW LONG DASH",
    "296c RIGHTWARDS HARPOON WITH BARB |UP ABOVE LONG DASH|DOWN BELOW LONG DASH",
    "296e UPWARDS HARPOON WITH BARB LEFT BESIDE DOWNWARDS HARPOON WITH BARB |RIGHT",
    "296f DOWNWARDS HARPOON WITH BARB LEFT BESIDE UPWARDS HARPOON WITH BARB |RIGHT",
    "2970 |RIGHT DOUBLE ARROW WITH ROUNDED HEAD|EQUALS SIGN ABOVE RIGHTWARDS ARROW",
    "2972 |TILDE OPERATOR ABOVE RIGHTWARDS ARROW|LEFTWARDS ARROW ABOVE TILDE OPERATOR",
    "2974 RIGHTWARDS ARROW ABOVE |TILDE OPERATOR|ALMOST EQUAL TO;2976 LESS-THAN ABOVE LEFTWARDS |ARROW",
    "2977 |LEFTWARDS ARROW THROUGH LESS-THAN|GREATER-THAN ABOVE RIGHTWARDS ARROW",
    "2979 |SUBSET ABOVE RIGHTWARDS ARROW|LEFTWARDS ARROW THROUGH SUBSET|SUPERSET ABOVE LEFTWARDS ARROW",
    "297c |LEFT FISH TAIL|RIGHT FISH TAIL|UP FISH TAIL|DOWN FISH TAIL|TRIPLE VERTICAL BAR DELIMITER",
    "2981 Z NOTATION |SPOT|TYPE COLON",
    "2983 |LEFT WHITE CURLY BRACKET|RIGHT WHITE CURLY BRACKET|LEFT WHITE PARENTHESIS|RIGHT WHITE PARENTHESIS",
    "2987 Z NOTATION |LEFT IMAGE BRACKET|RIGHT IMAGE BRACKET|LEFT BINDING BRACKET|RIGHT BINDING BRACKET",
    "298b LEFT SQUARE BRACKET WITH |UNDERBAR",
    "298c |RIGHT SQUARE BRACKET WITH UNDERBAR|LEFT SQUARE BRACKET WITH TICK IN TOP CORNER",
    "298e |RIGHT SQUARE BRACKET WITH TICK IN BOTTOM CORNER|LEFT SQUARE BRACKET WITH TICK IN BOTTOM CORNER",
    "2990 |RIGHT SQUARE BRACKET WITH TICK IN TOP CORNER|LEFT ANGLE BRACKET WITH DOT",
    "2992 |RIGHT ANGLE BRACKET WITH DOT|LEFT ARC LESS-THAN BRACKET|RIGHT ARC GREATER-THAN BRACKET",
    "2995 DOUBLE |LEFT ARC GREATER-THAN BRACKET|RIGHT ARC LESS-THAN BRACKET;2997 LEFT BLACK TORTOISE SHELL |BRACKET",
    "2998 |RIGHT BLACK TORTOISE SHELL BRACKET|DOTTED FENCE|VERTICAL ZIGZAG LINE|MEASURED ANGLE OPENING LEFT",
    "299c |RIGHT ANGLE VARIANT WITH SQUARE|MEASURED RIGHT ANGLE WITH DOT|ANGLE WITH S INSIDE|ACUTE ANGLE",
    "29a0 SPHERICAL ANGLE OPENING |LEFT|UP",
    "29a2 |TURNED ANGLE|REVERSED ANGLE|ANGLE WITH UNDERBAR|REVERSED ANGLE WITH UNDERBAR",
    "29a6 OBLIQUE ANGLE OPENING |UP|DOWN",
    "29a8 MEASURED ANGLE WITH OPEN ARM ENDING IN ARROW POINTING UP AND |RIGHT|LEFT",
    "29aa MEASURED ANGLE WITH OPEN ARM ENDING IN ARROW POINTING |DOWN AND RIGHT|DOWN AND LEFT|RIGHT AND UP",
    "29ad MEASURED ANGLE WITH OPEN ARM ENDING IN ARROW POINTING |LEFT AND UP|RIGHT AND DOWN|LEFT AND DOWN",
    "29b0 REVERSED EMPTY |SET;29b1 EMPTY SET WITH |OVERBAR|SMALL CIRCLE ABOVE|RIGHT ARROW ABOVE|LEFT ARROW ABOVE",
    "29b5 CIRCLE WITH HORIZONTAL |BAR;29b6 CIRCLED |VERTICAL BAR|PARALLEL|REVERSE SOLIDUS|PERPENDICULAR",
    "29ba CIRCLE |DIVIDED BY HORIZONTAL BAR AND TOP HALF DIVIDED BY VERTICAL BAR|WITH SUPERIMPOSED X",
    "29bc |CIRCLED ANTICLOCKWISE-ROTATED DIVISION SIGN|UP ARROW THROUGH CIRCLE",
    "29be CIRCLED |WHITE BULLET|BULLET|LESS-THAN|GREATER-THAN",
    "29c2 CIRCLE WITH |SMALL CIRCLE TO THE RIGHT|TWO HORIZONTAL STROKES TO THE RIGHT",
    "29c4 SQUARED |RISING DIAGONAL SLASH|FALLING DIAGONAL SLASH|ASTERISK|SMALL CIRCLE|SQUARE;29c9 TWO JOINED |SQUARES",
    "29ca TRIANGLE WITH |DOT ABOVE|UNDERBAR",
    "29cc |S IN TRIANGLE|TRIANGLE WITH SERIFS AT BOTTOM|RIGHT TRIANGLE ABOVE LEFT TRIANGLE",
    "29cf |LEFT TRIANGLE BESIDE VERTICAL BAR|VERTICAL BAR BESIDE RIGHT TRIANGLE",
    "29d1 BOWTIE WITH |LEFT HALF BLACK|RIGHT HALF BLACK;29d3 BLACK |BOWTIE",
    "29d4 TIMES WITH |LEFT HALF BLACK|RIGHT HALF BLACK",
    "29d6 |WHITE HOURGLASS|BLACK HOURGLASS|LEFT WIGGLY FENCE|RIGHT WIGGLY FENCE|LEFT DOUBLE WIGGLY FENCE",
    "29db |RIGHT DOUBLE WIGGLY FENCE|INCOMPLETE INFINITY|TIE OVER INFINITY|INFINITY NEGATED WITH VERTICAL BAR",
    "29df |DOUBLE-ENDED MULTIMAP|SQUARE WITH CONTOURED OUTLINE|INCREASES AS|SHUFFLE PRODUCT",
    "29e3 EQUALS SIGN AND SLANTED |PARALLEL|PARALLEL WITH TILDE ABOVE",
    "29e5 |IDENTICAL TO AND SLANTED PARALLEL|GLEICH STARK|THERMODYNAMIC",
    "29e8 DOWN-POINTING TRIANGLE WITH |LEFT HALF BLACK|RIGHT HALF BLACK;29ea BLACK |DIAMOND WITH DOWN ARROW|LOZENGE",
    "29ec |WHITE CIRCLE WITH DOWN ARROW|BLACK CIRCLE WITH DOWN ARROW",
    "29ee ERROR-BARRED |WHITE SQUARE|BLACK SQUARE|WHITE DIAMOND|BLACK DIAMOND|WHITE CIRCLE|BLACK CIRCLE",
    "29f4 |RULE-DELAYED|REVERSE SOLIDUS OPERATOR|SOLIDUS WITH OVERBAR",
    "29f7 |REVERSE SOLIDUS WITH HORIZONTAL STROKE|BIG SOLIDUS|BIG REVERSE SOLIDUS|DOUBLE PLUS",
    "29fb |TRIPLE PLUS|LEFT-POINTING CURVED ANGLE BRACKET|RIGHT-POINTING CURVED ANGLE BRACKET|TINY|MINY",
    "2a00 N-ARY CIRCLED |DOT OPERATOR|PLUS OPERATOR|TIMES OPERATOR;2a03 N-ARY UNION OPERATOR WITH |DOT|PLUS",
    "2a05 N-ARY SQUARE |INTERSECTION OPERATOR|UNION OPERATOR;2a07 TWO LOGICAL |AND OPERATOR|OR OPERATOR",
    "2a09 N-ARY TIMES |OPERATOR",
    "2a0a |MODULO TWO SUM|SUMMATION WITH INTEGRAL|QUADRUPLE INTEGRAL OPERATOR|FINITE PART INTEGRAL",
    "2a0e INTEGRAL |WITH DOUBLE STROKE|AVERAGE WITH SLASH",
    "2a10 |CIRCULATION FUNCTION|ANTICLOCKWISE INTEGRATION|LINE INTEGRATION WITH RECTANGULAR PATH AROUND POLE",
    "2a13 LINE INTEGRATION |WITH SEMICIRCULAR PATH AROUND POLE|NOT INCLUDING THE POLE",
    "2a15 |INTEGRAL AROUND A POINT OPERATOR|QUATERNION INTEGRAL OPERATOR",
    "2a17 INTEGRAL WITH |LEFTWARDS ARROW WITH HOOK|TIMES SIGN|INTERSECTION|UNION|OVERBAR|UNDERBAR",
    "2a1d |JOIN|LARGE LEFT TRIANGLE OPERATOR;2a1f Z NOTATION SCHEMA |COMPOSITION|PIPING|PROJECTION",
    "2a22 PLUS SIGN WITH |SMALL CIRCLE ABOVE|CIRCUMFLEX ACCENT ABOVE",
    "2a24 PLUS SIGN WITH |TILDE ABOVE|DOT BELOW|TILDE BELOW|SUBSCRIPT TWO|BLACK TRIANGLE",
    "2a29 MINUS SIGN WITH |COMMA ABOVE|DOT BELOW|FALLING DOTS|RISING DOTS",
    "2a2d PLUS SIGN IN |LEFT HALF CIRCLE|RIGHT HALF CIRCLE;2a2f VECTOR OR CROSS |PRODUCT",
    "2a30 MULTIPLICATION SIGN WITH |DOT ABOVE|UNDERBAR;2a32 |SEMIDIRECT PRODUCT WITH BOTTOM CLOSED|SMASH PRODUCT",
    "2a34 MULTIPLICATION SIGN IN |LEFT HALF CIRCLE|RIGHT HALF CIRCLE",
    "2a36 CIRCLED MULTIPLICATION SIGN WITH CIRCUMFLEX |ACCENT",
    "2a37 |MULTIPLICATION SIGN IN DOUBLE CIRCLE|CIRCLED DIVISION SIGN|PLUS SIGN IN TRIANGLE",
    "2a3a |MINUS SIGN IN TRIANGLE|MULTIPLICATION SIGN IN TRIANGLE|INTERIOR PRODUCT|RIGHTHAND INTERIOR PRODUCT",
    "2a3e |Z NOTATION RELATIONAL COMPOSITION|AMALGAMATION OR COPRODUCT|INTERSECTION WITH DOT",
    "2a41 UNION WITH |MINUS SIGN|OVERBAR;2a43 INTERSECTION WITH |OVERBAR|LOGICAL AND",
    "2a45 UNION |WITH LOGICAL OR|ABOVE INTERSECTION",
    "2a47 |INTERSECTION ABOVE UNION|UNION ABOVE BAR ABOVE INTERSECTION|INTERSECTION ABOVE BAR ABOVE UNION",
    "2a4a |UNION BESIDE AND JOINED WITH UNION|INTERSECTION BESIDE AND JOINED WITH INTERSECTION",
    "2a4c CLOSED |UNION WITH SERIFS|INTERSECTION WITH SERIFS;2a4e DOUBLE SQUARE |INTERSECTION|UNION",
    "2a50 CLOSED UNION WITH SERIFS AND SMASH |PRODUCT;2a51 LOGICAL |AND WITH DOT ABOVE|OR WITH DOT ABOVE",
    "2a53 DOUBLE LOGICAL |AND|OR;2a55 TWO INTERSECTING LOGICAL |AND|OR;2a57 SLOPING LARGE |OR|AND",
    "2a59 LOGICAL OR OVERLAPPING LOGICAL |AND",
    "2a5a LOGICAL |AND WITH MIDDLE STEM|OR WITH MIDDLE STEM|AND WITH HORIZONTAL DASH|OR WITH HORIZONTAL DASH",
    "2a5e LOGICAL AND WITH |DOUBLE OVERBAR|UNDERBAR|DOUBLE UNDERBAR;2a61 SMALL VEE WITH |UNDERBAR",
    "2a62 LOGICAL OR WITH DOUBLE |OVERBAR|UNDERBAR;2a64 Z NOTATION |DOMAIN ANTIRESTRICTION|RANGE ANTIRESTRICTION",
    "2a66 |EQUALS SIGN WITH DOT BELOW|IDENTICAL WITH DOT ABOVE",
    "2a68 TRIPLE HORIZONTAL BAR WITH |DOUBLE VERTICAL STROKE|TRIPLE VERTICAL STROKE",
    "2a6a TILDE OPERATOR WITH |DOT ABOVE|RISING DOTS;2a6c |SIMILAR MINUS SIMILAR|CONGRUENT WITH DOT ABOVE",
    "2a6e |EQUALS WITH ASTERISK|ALMOST EQUAL TO WITH CIRCUMFLEX ACCENT|APPROXIMATELY EQUAL OR EQUAL TO",
    "2a71 |EQUALS SIGN ABOVE PLUS SIGN|PLUS SIGN ABOVE EQUALS SIGN|EQUALS SIGN ABOVE TILDE OPERATOR",
    "2a74 |DOUBLE COLON EQUAL|TWO CONSECUTIVE EQUALS SIGNS|THREE CONSECUTIVE EQUALS SIGNS",
    "2a77 |EQUALS SIGN WITH TWO DOTS ABOVE AND TWO DOTS BELOW|EQUIVALENT WITH FOUR DOTS ABOVE",
    "2a79 |LESS-THAN WITH CIRCLE INSIDE|GREATER-THAN WITH CIRCLE INSIDE|LESS-THAN WITH QUESTION MARK ABOVE",
    "2a7c |GREATER-THAN WITH QUESTION MARK ABOVE|LESS-THAN OR SLANTED EQUAL TO",
    "2a7e |GREATER-THAN OR SLANTED EQUAL TO|LESS-THAN OR SLANTED EQUAL TO WITH DOT INSIDE",
    "2a80 |GREATER-THAN OR SLANTED EQUAL TO WITH DOT INSIDE|LESS-THAN OR SLANTED EQUAL TO WITH DOT ABOVE",
    "2a82 |GREATER-THAN OR SLANTED EQUAL TO WITH DOT ABOVE|LESS-THAN OR SLANTED EQUAL TO WITH DOT ABOVE RIGHT",
    "2a84 GREATER-THAN OR SLANTED EQUAL TO WITH DOT ABOVE |LEFT",
    "2a85 |LESS-THAN OR APPROXIMATE|GREATER-THAN OR APPROXIMATE|LESS-THAN AND SINGLE-LINE NOT EQUAL TO",
    "2a88 |GREATER-THAN AND SINGLE-LINE NOT EQUAL TO|LESS-THAN AND NOT APPROXIMATE",
    "2a8a |GREATER-THAN AND NOT APPROXIMATE|LESS-THAN ABOVE DOUBLE-LINE EQUAL ABOVE GREATER-THAN",
    "2a8c |GREATER-THAN ABOVE DOUBLE-LINE EQUAL ABOVE LESS-THAN|LESS-THAN ABOVE SIMILAR OR EQUAL",
    "2a8e |GREATER-THAN ABOVE SIMILAR OR EQUAL|LESS-THAN ABOVE SIMILAR ABOVE GREATER-THAN",
    "2a90 |GREATER-THAN ABOVE SIMILAR ABOVE LESS-THAN|LESS-THAN ABOVE GREATER-THAN ABOVE DOUBLE-LINE EQUAL",
    "2a92 GREATER-THAN ABOVE LESS-THAN ABOVE DOUBLE-LINE |EQUAL",
    "2a93 LESS-THAN ABOVE SLANTED EQUAL ABOVE GREATER-THAN ABOVE SLANTED |EQUAL",
    "2a94 GREATER-THAN ABOVE SLANTED EQUAL ABOVE LESS-THAN ABOVE SLANTED |EQUAL",
    "2a95 SLANTED EQUAL TO OR |LESS-THAN|GREATER-THAN|LESS-THAN WITH DOT INSIDE|GREATER-THAN WITH DOT INSIDE",
    "2a99 DOUBLE-LINE EQUAL TO OR |LESS-THAN|GREATER-THAN",
    "2a9b DOUBLE-LINE SLANTED EQUAL TO OR |LESS-THAN|GREATER-THAN;2a9d SIMILAR OR |LESS-THAN|GREATER-THAN",
    "2a9f SIMILAR ABOVE |LESS-THAN ABOVE EQUALS SIGN|GREATER-THAN ABOVE EQUALS SIGN",
    "2aa1 DOUBLE NESTED |LESS-THAN|GREATER-THAN|LESS-THAN WITH UNDERBAR",
    "2aa4 GREATER-THAN |OVERLAPPING LESS-THAN|BESIDE LESS-THAN;2aa6 LESS-THAN CLOSED BY |CURVE",
    "2aa7 |GREATER-THAN CLOSED BY CURVE|LESS-THAN CLOSED BY CURVE ABOVE SLANTED EQUAL",
    "2aa9 |GREATER-THAN CLOSED BY CURVE ABOVE SLANTED EQUAL|SMALLER THAN",
    "2aab |LARGER THAN|SMALLER THAN OR EQUAL TO|LARGER THAN OR EQUAL TO|EQUALS SIGN WITH BUMPY ABOVE",
    "2aaf |PRECEDES ABOVE SINGLE-LINE EQUALS SIGN|SUCCEEDS ABOVE SINGLE-LINE EQUALS SIGN",
    "2ab1 |PRECEDES ABOVE SINGLE-LINE NOT EQUAL TO|SUCCEEDS ABOVE SINGLE-LINE NOT EQUAL TO",
    "2ab3 |PRECEDES ABOVE EQUALS SIGN|SUCCEEDS ABOVE EQUALS SIGN|PRECEDES ABOVE NOT EQUAL TO",
    "2ab6 |SUCCEEDS ABOVE NOT EQUAL TO|PRECEDES ABOVE ALMOST EQUAL TO|SUCCEEDS ABOVE ALMOST EQUAL TO",
    "2ab9 |PRECEDES ABOVE NOT ALMOST EQUAL TO|SUCCEEDS ABOVE NOT ALMOST EQUAL TO;2abb DOUBLE |PRECEDES|SUCCEEDS",
    "2abd |SUBSET WITH DOT|SUPERSET WITH DOT",
    "2abf |SUBSET WITH PLUS SIGN BELOW|SUPERSET WITH PLUS SIGN BELOW|SUBSET WITH MULTIPLICATION SIGN BELOW",
    "2ac2 |SUPERSET WITH MULTIPLICATION SIGN BELOW|SUBSET OF OR EQUAL TO WITH DOT ABOVE",
    "2ac4 |SUPERSET OF OR EQUAL TO WITH DOT ABOVE|SUBSET OF ABOVE EQUALS SIGN|SUPERSET OF ABOVE EQUALS SIGN",
    "2ac7 |SUBSET OF ABOVE TILDE OPERATOR|SUPERSET OF ABOVE TILDE OPERATOR|SUBSET OF ABOVE ALMOST EQUAL TO",
    "2aca |SUPERSET OF ABOVE ALMOST EQUAL TO|SUBSET OF ABOVE NOT EQUAL TO|SUPERSET OF ABOVE NOT EQUAL TO",
    "2acd SQUARE |LEFT OPEN BOX OPERATOR|RIGHT OPEN BOX OPERATOR",
    "2acf CLOSED |SUBSET|SUPERSET|SUBSET OR EQUAL TO|SUPERSET OR EQUAL TO",
    "2ad3 |SUBSET ABOVE SUPERSET|SUPERSET ABOVE SUBSET|SUBSET ABOVE SUBSET",
    "2ad6 SUPERSET |ABOVE SUPERSET|BESIDE SUBSET|BESIDE AND JOINED BY DASH WITH SUBSET",
    "2ad9 |ELEMENT OF OPENING DOWNWARDS|PITCHFORK WITH TEE TOP|TRANSVERSAL INTERSECTION|FORKING|NONFORKING",
    "2ade SHORT |LEFT TACK|DOWN TACK|UP TACK",
    "2ae1 |PERPENDICULAR WITH S|VERTICAL BAR TRIPLE RIGHT TURNSTILE|DOUBLE VERTICAL BAR LEFT TURNSTILE",
    "2ae4 |VERTICAL BAR DOUBLE LEFT TURNSTILE|DOUBLE VERTICAL BAR DOUBLE LEFT TURNSTILE",
    "2ae6 |LONG DASH FROM LEFT MEMBER OF DOUBLE VERTICAL|SHORT DOWN TACK WITH OVERBAR",
    "2ae8 SHORT UP TACK |WITH UNDERBAR|ABOVE SHORT DOWN TACK;2aea DOUBLE |DOWN TACK|UP TACK|STROKE NOT SIGN",
    "2aed |REVERSED DOUBLE STROKE NOT SIGN|DOES NOT DIVIDE WITH REVERSED NEGATION SLASH",
    "2aef VERTICAL LINE WITH CIRCLE |ABOVE|BELOW;2af1 DOWN TACK WITH CIRCLE |BELOW",
    "2af2 PARALLEL WITH |HORIZONTAL STROKE|TILDE OPERATOR",
    "2af4 TRIPLE VERTICAL BAR |BINARY RELATION|WITH HORIZONTAL STROKE",
    "2af6 TRIPLE |COLON OPERATOR|NESTED LESS-THAN|NESTED GREATER-THAN",
    "2af9 DOUBLE-LINE SLANTED |LESS-THAN OR EQUAL TO|GREATER-THAN OR EQUAL TO",
    "2afb |TRIPLE SOLIDUS BINARY RELATION|LARGE TRIPLE VERTICAL BAR OPERATOR|DOUBLE SOLIDUS OPERATOR",
    "2afe |WHITE VERTICAL BAR|N-ARY WHITE VERTICAL BAR|NORTH EAST WHITE ARROW|NORTH WEST WHITE ARROW",
    "2b02 SOUTH |EAST WHITE ARROW|WEST WHITE ARROW",
    "2b04 |LEFT RIGHT WHITE ARROW|LEFTWARDS BLACK ARROW|UPWARDS BLACK ARROW|DOWNWARDS BLACK ARROW",
    "2b08 NORTH |EAST BLACK ARROW|WEST BLACK ARROW",
    "2b0a |SOUTH EAST BLACK ARROW|SOUTH WEST BLACK ARROW|LEFT RIGHT BLACK ARROW|UP DOWN BLACK ARROW",
    "2b0e RIGHTWARDS ARROW WITH TIP |DOWNWARDS|UPWARDS;2b10 LEFTWARDS ARROW WITH TIP |DOWNWARDS|UPWARDS",
    "2b12 SQUARE WITH TOP HALF |BLACK",
    "2b13 SQUARE WITH |BOTTOM HALF BLACK|UPPER RIGHT DIAGONAL HALF BLACK|LOWER LEFT DIAGONAL HALF BLACK",
    "2b16 DIAMOND WITH |LEFT HALF BLACK|RIGHT HALF BLACK|TOP HALF BLACK|BOTTOM HALF BLACK",
    "2b1a |DOTTED SQUARE|BLACK LARGE SQUARE|WHITE LARGE SQUARE|BLACK VERY SMALL SQUARE|WHITE VERY SMALL SQUARE",
    "2b1f |BLACK PENTAGON|WHITE PENTAGON|WHITE HEXAGON|BLACK HEXAGON|HORIZONTAL BLACK HEXAGON",
    "2b24 BLACK |LARGE CIRCLE|MEDIUM DIAMOND;2b26 |WHITE MEDIUM DIAMOND|BLACK MEDIUM LOZENGE|WHITE MEDIUM LOZENGE",
    "2b29 BLACK SMALL |DIAMOND|LOZENGE;2b2b |WHITE SMALL LOZENGE|BLACK HORIZONTAL ELLIPSE",
    "2b2d |WHITE HORIZONTAL ELLIPSE|BLACK VERTICAL ELLIPSE|WHITE VERTICAL ELLIPSE|LEFT ARROW WITH SMALL CIRCLE",
    "2b31 |THREE LEFTWARDS ARROWS|LEFT ARROW WITH CIRCLED PLUS|LONG LEFTWARDS SQUIGGLE ARROW",
    "2b34 LEFTWARDS TWO-HEADED ARROW |WITH VERTICAL STROKE|WITH DOUBLE VERTICAL STROKE|FROM BAR",
    "2b37 LEFTWARDS TWO-HEADED TRIPLE DASH |ARROW",
    "2b38 LEFTWARDS ARROW WITH |DOTTED STEM|TAIL WITH VERTICAL STROKE|TAIL WITH DOUBLE VERTICAL STROKE",
    "2b3b LEFTWARDS TWO-HEADED ARROW WITH |TAIL|TAIL WITH VERTICAL STROKE|TAIL WITH DOUBLE VERTICAL STROKE",
    "2b3e |LEFTWARDS ARROW THROUGH X|WAVE ARROW POINTING DIRECTLY LEFT|EQUALS SIGN ABOVE LEFTWARDS ARROW",
    "2b41 |REVERSE TILDE OPERATOR ABOVE LEFTWARDS ARROW|LEFTWARDS ARROW ABOVE REVERSE ALMOST EQUAL TO",
    "2b43 RIGHTWARDS ARROW THROUGH |GREATER-THAN|SUPERSET",
    "2b45 |LEFTWARDS QUADRUPLE ARROW|RIGHTWARDS QUADRUPLE ARROW|REVERSE TILDE OPERATOR ABOVE RIGHTWARDS ARROW",
    "2b48 |RIGHTWARDS ARROW ABOVE REVERSE ALMOST EQUAL TO|TILDE OPERATOR ABOVE LEFTWARDS ARROW",
    "2b4a LEFTWARDS ARROW ABOVE |ALMOST EQUAL TO|REVERSE TILDE OPERATOR",
    "2b4c |RIGHTWARDS ARROW ABOVE REVERSE TILDE OPERATOR|DOWNWARDS TRIANGLE-HEADED ZIGZAG ARROW",
    "2b4e |SHORT SLANTED NORTH ARROW|SHORT BACKSLANTED SOUTH ARROW|WHITE MEDIUM STAR",
    "2b51 |BLACK SMALL STAR|WHITE SMALL STAR|BLACK RIGHT-POINTING PENTAGON|WHITE RIGHT-POINTING PENTAGON",
    "2b55 HEAVY |LARGE CIRCLE|OVAL WITH OVAL INSIDE|CIRCLE WITH CIRCLE INSIDE|CIRCLE|CIRCLED SALTIRE",
    "2b5a |SLANTED NORTH ARROW WITH HOOKED HEAD|BACKSLANTED SOUTH ARROW WITH HOOKED TAIL",
    "2b5c |SLANTED NORTH ARROW WITH HORIZONTAL TAIL|BACKSLANTED SOUTH ARROW WITH HORIZONTAL TAIL",
    "2b5e |BENT ARROW POINTING DOWNWARDS THEN NORTH EAST|SHORT BENT ARROW POINTING DOWNWARDS THEN NORTH EAST",
    "2b60 |LEFTWARDS TRIANGLE-HEADED ARROW|UPWARDS TRIANGLE-HEADED ARROW|RIGHTWARDS TRIANGLE-HEADED ARROW",
    "2b63 |DOWNWARDS TRIANGLE-HEADED ARROW|LEFT RIGHT TRIANGLE-HEADED ARROW|UP DOWN TRIANGLE-HEADED ARROW",
    "2b66 NORTH |WEST TRIANGLE-HEADED ARROW|EAST TRIANGLE-HEADED ARROW",
    "2b68 SOUTH |EAST TRIANGLE-HEADED ARROW|WEST TRIANGLE-HEADED ARROW",
    "2b6a |LEFTWARDS TRIANGLE-HEADED DASHED ARROW|UPWARDS TRIANGLE-HEADED DASHED ARROW",
    "2b6c |RIGHTWARDS TRIANGLE-HEADED DASHED ARROW|DOWNWARDS TRIANGLE-HEADED DASHED ARROW",
    "2b6e |CLOCKWISE TRIANGLE-HEADED OPEN CIRCLE ARROW|ANTICLOCKWISE TRIANGLE-HEADED OPEN CIRCLE ARROW",
    "2b70 |LEFTWARDS TRIANGLE-HEADED ARROW TO BAR|UPWARDS TRIANGLE-HEADED ARROW TO BAR",
    "2b72 |RIGHTWARDS TRIANGLE-HEADED ARROW TO BAR|DOWNWARDS TRIANGLE-HEADED ARROW TO BAR",
    "2b76 NORTH |WEST TRIANGLE-HEADED ARROW TO BAR|EAST TRIANGLE-HEADED ARROW TO BAR",
    "2b78 SOUTH |EAST TRIANGLE-HEADED ARROW TO BAR|WEST TRIANGLE-HEADED ARROW TO BAR",
    "2b7a LEFTWARDS TRIANGLE-HEADED ARROW WITH DOUBLE HORIZONTAL |STROKE",
    "2b7b UPWARDS TRIANGLE-HEADED ARROW WITH DOUBLE HORIZONTAL |STROKE",
    "2b7c RIGHTWARDS TRIANGLE-HEADED ARROW WITH DOUBLE HORIZONTAL |STROKE",
    "2b7d |DOWNWARDS TRIANGLE-HEADED ARROW WITH DOUBLE HORIZONTAL STROKE|HORIZONTAL TAB KEY",
    "2b7f |VERTICAL TAB KEY|LEFTWARDS TRIANGLE-HEADED ARROW OVER RIGHTWARDS TRIANGLE-HEADED ARROW",
    "2b81 UPWARDS TRIANGLE-HEADED ARROW LEFTWARDS OF DOWNWARDS TRIANGLE-HEADED |ARROW",
    "2b82 RIGHTWARDS TRIANGLE-HEADED ARROW OVER LEFTWARDS TRIANGLE-HEADED |ARROW",
    "2b83 DOWNWARDS TRIANGLE-HEADED ARROW LEFTWARDS OF UPWARDS TRIANGLE-HEADED |ARROW",
    "2b84 LEFTWARDS TRIANGLE-HEADED PAIRED |ARROWS",
    "2b85 |UPWARDS TRIANGLE-HEADED PAIRED ARROWS|RIGHTWARDS TRIANGLE-HEADED PAIRED ARROWS",
    "2b87 |DOWNWARDS TRIANGLE-HEADED PAIRED ARROWS|LEFTWARDS BLACK CIRCLED WHITE ARROW",
    "2b89 |UPWARDS BLACK CIRCLED WHITE ARROW|RIGHTWARDS BLACK CIRCLED WHITE ARROW",
    "2b8b |DOWNWARDS BLACK CIRCLED WHITE ARROW|ANTICLOCKWISE TRIANGLE-HEADED RIGHT U-SHAPED ARROW",
    "2b8d ANTICLOCKWISE TRIANGLE-HEADED |BOTTOM U-SHAPED ARROW|LEFT U-SHAPED ARROW|TOP U-SHAPED ARROW",
    "2b90 RETURN |LEFT|RIGHT;2b92 NEWLINE |LEFT|RIGHT",
    "2b94 |FOUR CORNER ARROWS CIRCLING ANTICLOCKWISE|RIGHTWARDS BLACK ARROW;2b97 SYMBOL FOR TYPE A |ELECTRONICS",
    "2b98 THREE-D |TOP-LIGHTED LEFTWARDS EQUILATERAL ARROWHEAD|RIGHT-LIGHTED UPWARDS EQUILATERAL ARROWHEAD",
    "2b9a THREE-D |TOP-LIGHTED RIGHTWARDS EQUILATERAL ARROWHEAD|LEFT-LIGHTED DOWNWARDS EQUILATERAL ARROWHEAD",
    "2b9c BLACK |LEFTWARDS EQUILATERAL ARROWHEAD|UPWARDS EQUILATERAL ARROWHEAD",
    "2b9e BLACK |RIGHTWARDS EQUILATERAL ARROWHEAD|DOWNWARDS EQUILATERAL ARROWHEAD",
    "2ba0 DOWNWARDS TRIANGLE-HEADED ARROW WITH LONG TIP |LEFTWARDS|RIGHTWARDS",
    "2ba2 UPWARDS TRIANGLE-HEADED ARROW WITH LONG TIP |LEFTWARDS|RIGHTWARDS",
    "2ba4 LEFTWARDS TRIANGLE-HEADED ARROW WITH LONG TIP |UPWARDS",
    "2ba5 RIGHTWARDS TRIANGLE-HEADED ARROW WITH LONG TIP |UPWARDS",
    "2ba6 LEFTWARDS TRIANGLE-HEADED ARROW WITH LONG TIP |DOWNWARDS",
    "2ba7 RIGHTWARDS TRIANGLE-HEADED ARROW WITH LONG TIP |DOWNWARDS",
    "2ba8 BLACK CURVED DOWNWARDS AND |LEFTWARDS ARROW|RIGHTWARDS ARROW",
    "2baa BLACK CURVED UPWARDS AND |LEFTWARDS ARROW|RIGHTWARDS ARROW",
    "2bac BLACK CURVED |LEFTWARDS AND UPWARDS ARROW|RIGHTWARDS AND UPWARDS ARROW",
    "2bae BLACK CURVED |LEFTWARDS AND DOWNWARDS ARROW|RIGHTWARDS AND DOWNWARDS ARROW",
    "2bb0 RIBBON ARROW |DOWN LEFT|DOWN RIGHT|UP LEFT|UP RIGHT|LEFT UP|RIGHT UP|LEFT DOWN|RIGHT DOWN",
    "2bb8 |UPWARDS WHITE ARROW FROM BAR WITH HORIZONTAL BAR|UP ARROWHEAD IN A RECTANGLE BOX",
    "2bba OVERLAPPING |WHITE SQUARES|WHITE AND BLACK SQUARES|BLACK SQUARES;2bbd BALLOT BOX WITH LIGHT |X",
    "2bbe CIRCLED |X|BOLD X;2bc0 BLACK |SQUARE CENTRED|DIAMOND CENTRED",
    "2bc2 |TURNED BLACK PENTAGON|HORIZONTAL BLACK OCTAGON|BLACK OCTAGON",
    "2bc5 BLACK MEDIUM |UP-POINTING TRIANGLE CENTRED|DOWN-POINTING TRIANGLE CENTRED",
    "2bc7 BLACK MEDIUM |LEFT-POINTING TRIANGLE CENTRED|RIGHT-POINTING TRIANGLE CENTRED",
    "2bc9 |NEPTUNE FORM TWO|TOP HALF BLACK CIRCLE|BOTTOM HALF BLACK CIRCLE",
    "2bcc |LIGHT FOUR POINTED BLACK CUSP|ROTATED LIGHT FOUR POINTED BLACK CUSP|WHITE FOUR POINTED CUSP",
    "2bcf |ROTATED WHITE FOUR POINTED CUSP|SQUARE POSITION INDICATOR|UNCERTAINTY SIGN|GROUP MARK",
    "2bd3 PLUTO FORM |TWO|THREE|FOUR|FIVE;2bd7 |TRANSPLUTO|PROSERPINA",
    "2bd9 |ASTRAEA|HYGIEA|PHOLUS|NESSUS|WHITE MOON SELENA|BLACK DIAMOND ON CROSS|TRUE LIGHT MOON ARTA|CUPIDO",
    "2be1 |HADES|ZEUS|KRONOS|APOLLON|ADMETOS|VULCANUS|POSEIDON|LEFT HALF BLACK STAR|RIGHT HALF BLACK STAR",
    "2bea STAR WITH |LEFT HALF BLACK|RIGHT HALF BLACK;2bec LEFTWARDS TWO-HEADED ARROW WITH TRIANGLE |ARROWHEADS",
    "2bed UPWARDS TWO-HEADED ARROW WITH TRIANGLE |ARROWHEADS",
    "2bee RIGHTWARDS TWO-HEADED ARROW WITH TRIANGLE |ARROWHEADS",
    "2bef |DOWNWARDS TWO-HEADED ARROW WITH TRIANGLE ARROWHEADS|ERIS FORM ONE|ERIS FORM TWO|SEDNA",
    "2bf3 RUSSIAN ASTROLOGICAL SYMBOL |VIGINTILE|NOVILE|QUINTILE|BINOVILE|SENTAGON|TREDECILE",
    "2bf9 |EQUALS SIGN WITH INFINITY BELOW|UNITED SYMBOL|SEPARATED SYMBOL|DOUBLED SYMBOL",
    "2bfd |PASSED SYMBOL|REVERSED RIGHT ANGLE|HELLSCHREIBER PAUSE SYMBOL|GLAGOLITIC CAPITAL LETTER AZU",
    "2c01 GLAGOLITIC CAPITAL LETTER |BUKY|VEDE|GLAGOLI|DOBRO|YESTU|ZHIVETE|DZELO|ZEMLJA|IZHE|INITIAL IZHE|I",
    "2c0c GLAGOLITIC CAPITAL LETTER |DJERVI|KAKO|LJUDIJE|MYSLITE|NASHI|ONU|POKOJI|RITSI|SLOVO|TVRIDO|UKU|FRITU",
    "2c18 GLAGOLITIC CAPITAL LETTER |HERU|OTU|PE|SHTA|TSI|CHRIVI|SHA|YERU|YERI|YATI|SPIDERY HA|YU|SMALL YUS",
    "2c25 GLAGOLITIC CAPITAL LETTER |SMALL YUS WITH TAIL|YO|IOTATED SMALL YUS|BIG YUS|IOTATED BIG YUS",
    "2c2a GLAGOLITIC CAPITAL LETTER |FITA|IZHITSA|SHTAPIC|TROKUTASTI A|LATINATE MYSLITE|CAUDATE CHRIVI",
    "2c30 GLAGOLITIC SMALL LETTER |AZU|BUKY|VEDE|GLAGOLI|DOBRO|YESTU|ZHIVETE|DZELO|ZEMLJA|IZHE|INITIAL IZHE",
    "2c3b GLAGOLITIC SMALL LETTER |I|DJERVI|KAKO|LJUDIJE|MYSLITE|NASHI|ONU|POKOJI|RITSI|SLOVO|TVRIDO",
    "2c46 GLAGOLITIC SMALL LETTER |UKU|FRITU|HERU|OTU|PE|SHTA|TSI|CHRIVI|SHA|YERU|YERI|YATI|SPIDERY HA|YU",
    "2c54 GLAGOLITIC SMALL LETTER |SMALL YUS|SMALL YUS WITH TAIL|YO|IOTATED SMALL YUS|BIG YUS|IOTATED BIG YUS",
    "2c5a GLAGOLITIC SMALL LETTER |FITA|IZHITSA|SHTAPIC|TROKUTASTI A|LATINATE MYSLITE|CAUDATE CHRIVI",
    "2c60 LATIN |CAPITAL LETTER L WITH DOUBLE BAR|SMALL LETTER L WITH DOUBLE BAR",
    "2c62 LATIN CAPITAL LETTER |L WITH MIDDLE TILDE|P WITH STROKE|R WITH TAIL",
    "2c65 LATIN SMALL LETTER |A WITH STROKE|T WITH DIAGONAL STROKE",
    "2c67 LATIN |CAPITAL LETTER H WITH DESCENDER|SMALL LETTER H WITH DESCENDER|CAPITAL LETTER K WITH DESCENDER",
    "2c6a LATIN |SMALL LETTER K WITH DESCENDER|CAPITAL LETTER Z WITH DESCENDER|SMALL LETTER Z WITH DESCENDER",
    "2c6d LATIN CAPITAL LETTER |ALPHA|M WITH HOOK|TURNED A|TURNED ALPHA",
    "2c71 LATIN |SMALL LETTER V WITH RIGHT HOOK|CAPITAL LETTER W WITH HOOK",
    "2c73 LATIN SMALL LETTER |W WITH HOOK|V WITH CURL;2c75 LATIN CAPITAL LETTER HALF |H",
    "2c76 LATIN SMALL LETTER |HALF H|TAILLESS PHI|E WITH NOTCH|TURNED R WITH TAIL|O WITH LOW RING INSIDE",
    "2c7b |LATIN LETTER SMALL CAPITAL TURNED E|LATIN SUBSCRIPT SMALL LETTER J|MODIFIER LETTER CAPITAL V",
    "2c7e LATIN CAPITAL LETTER |S WITH SWASH TAIL|Z WITH SWASH TAIL",
    "2c80 COPTIC |CAPITAL LETTER ALFA|SMALL LETTER ALFA|CAPITAL LETTER VIDA",
    "2c83 COPTIC |SMALL LETTER VIDA|CAPITAL LETTER GAMMA|SMALL LETTER GAMMA|CAPITAL LETTER DALDA",
    "2c87 COPTIC |SMALL LETTER DALDA|CAPITAL LETTER EIE|SMALL LETTER EIE|CAPITAL LETTER SOU",
    "2c8b COPTIC |SMALL LETTER SOU|CAPITAL LETTER ZATA|SMALL LETTER ZATA|CAPITAL LETTER HATE|SMALL LETTER HATE",
    "2c90 COPTIC |CAPITAL LETTER THETHE|SMALL LETTER THETHE|CAPITAL LETTER IAUDA|SMALL LETTER IAUDA",
    "2c94 COPTIC |CAPITAL LETTER KAPA|SMALL LETTER KAPA|CAPITAL LETTER LAULA|SMALL LETTER LAULA",
    "2c98 COPTIC |CAPITAL LETTER MI|SMALL LETTER MI|CAPITAL LETTER NI|SMALL LETTER NI|CAPITAL LETTER KSI",
    "2c9d COPTIC |SMALL LETTER KSI|CAPITAL LETTER O|SMALL LETTER O|CAPITAL LETTER PI|SMALL LETTER PI",
    "2ca2 COPTIC |CAPITAL LETTER RO|SMALL LETTER RO|CAPITAL LETTER SIMA|SMALL LETTER SIMA|CAPITAL LETTER TAU",
    "2ca7 COPTIC |SMALL LETTER TAU|CAPITAL LETTER UA|SMALL LETTER UA|CAPITAL LETTER FI|SMALL LETTER FI",
    "2cac COPTIC |CAPITAL LETTER KHI|SMALL LETTER KHI|CAPITAL LETTER PSI|SMALL LETTER PSI|CAPITAL LETTER OOU",
    "2cb1 COPTIC |SMALL LETTER OOU|CAPITAL LETTER DIALECT-P ALEF|SMALL LETTER DIALECT-P ALEF",
    "2cb4 COPTIC |CAPITAL LETTER OLD COPTIC AIN|SMALL LETTER OLD COPTIC AIN|CAPITAL LETTER CRYPTOGRAMMIC EIE",
    "2cb7 COPTIC |SMALL LETTER CRYPTOGRAMMIC EIE|CAPITAL LETTER DIALECT-P KAPA|SMALL LETTER DIALECT-P KAPA",
    "2cba COPTIC |CAPITAL LETTER DIALECT-P NI|SMALL LETTER DIALECT-P NI|CAPITAL LETTER CRYPTOGRAMMIC NI",
    "2cbd COPTIC |SMALL LETTER CRYPTOGRAMMIC NI|CAPITAL LETTER OLD COPTIC OOU|SMALL LETTER OLD COPTIC OOU",
    "2cc0 COPTIC |CAPITAL LETTER SAMPI|SMALL LETTER SAMPI|CAPITAL LETTER CROSSED SHEI",
    "2cc3 COPTIC |SMALL LETTER CROSSED SHEI|CAPITAL LETTER OLD COPTIC SHEI|SMALL LETTER OLD COPTIC SHEI",
    "2cc6 COPTIC |CAPITAL LETTER OLD COPTIC ESH|SMALL LETTER OLD COPTIC ESH|CAPITAL LETTER AKHMIMIC KHEI",
    "2cc9 COPTIC |SMALL LETTER AKHMIMIC KHEI|CAPITAL LETTER DIALECT-P HORI|SMALL LETTER DIALECT-P HORI",
    "2ccc COPTIC |CAPITAL LETTER OLD COPTIC HORI|SMALL LETTER OLD COPTIC HORI|CAPITAL LETTER OLD COPTIC HA",
    "2ccf COPTIC |SMALL LETTER OLD COPTIC HA|CAPITAL LETTER L-SHAPED HA|SMALL LETTER L-SHAPED HA",
    "2cd2 COPTIC |CAPITAL LETTER OLD COPTIC HEI|SMALL LETTER OLD COPTIC HEI|CAPITAL LETTER OLD COPTIC HAT",
    "2cd5 COPTIC |SMALL LETTER OLD COPTIC HAT|CAPITAL LETTER OLD COPTIC GANGIA|SMALL LETTER OLD COPTIC GANGIA",
    "2cd8 COPTIC |CAPITAL LETTER OLD COPTIC DJA|SMALL LETTER OLD COPTIC DJA|CAPITAL LETTER OLD COPTIC SHIMA",
    "2cdb COPTIC |SMALL LETTER OLD COPTIC SHIMA|CAPITAL LETTER OLD NUBIAN SHIMA|SMALL LETTER OLD NUBIAN SHIMA",
    "2cde COPTIC |CAPITAL LETTER OLD NUBIAN NGI|SMALL LETTER OLD NUBIAN NGI|CAPITAL LETTER OLD NUBIAN NYI",
    "2ce1 COPTIC |SMALL LETTER OLD NUBIAN NYI|CAPITAL LETTER OLD NUBIAN WAU|SMALL LETTER OLD NUBIAN WAU",
    "2ce4 COPTIC SYMBOL |KAI|MI RO|PI RO|STAUROS|TAU RO|KHI RO|SHIMA SIMA",
    "2ceb COPTIC |CAPITAL LETTER CRYPTOGRAMMIC SHEI|SMALL LETTER CRYPTOGRAMMIC SHEI",
    "2ced COPTIC |CAPITAL LETTER CRYPTOGRAMMIC GANGIA|SMALL LETTER CRYPTOGRAMMIC GANGIA",
    "2cef COPTIC COMBINING |NI ABOVE|SPIRITUS ASPER|SPIRITUS LENIS",
    "2cf2 COPTIC |CAPITAL LETTER BOHAIRIC KHEI|SMALL LETTER BOHAIRIC KHEI",
    "2cf9 COPTIC OLD NUBIAN |FULL STOP|DIRECT QUESTION MARK|INDIRECT QUESTION MARK|VERSE DIVIDER",
    "2cfd COPTIC |FRACTION ONE HALF|FULL STOP|MORPHOLOGICAL DIVIDER",
    "2d00 GEORGIAN SMALL LETTER |AN|BAN|GAN|DON|EN|VIN|ZEN|TAN|IN|KAN|LAS|MAN|NAR|ON|PAR|ZHAR|RAE|SAN|TAR|UN",
    "2d14 GEORGIAN SMALL LETTER |PHAR|KHAR|GHAN|QAR|SHIN|CHIN|CAN|JIL|CIL|CHAR|XAN|JHAN|HAE|HE|HIE|WE|HAR|HOE",
    "2d27 GEORGIAN SMALL LETTER |YN;2d2d GEORGIAN SMALL LETTER |AEN",
    "2d30 TIFINAGH LETTER |YA|YAB|YABH|YAG|YAGHH|BERBER ACADEMY YAJ|YAJ",
    "2d37 TIFINAGH LETTER |YAD|YADH|YADD|YADDH|YEY|YAF|YAK|TUAREG YAK|YAKHH|YAH|BERBER ACADEMY YAH|TUAREG YAH",
    "2d43 TIFINAGH LETTER |YAHH|YAA|YAKH|TUAREG YAKH|YAQ|TUAREG YAQ|YI|YAZH|AHAGGAR YAZH|TUAREG YAZH",
    "2d4d TIFINAGH LETTER |YAL|YAM|YAN|TUAREG YAGN|TUAREG YANG|YAP|YU|YAR|YARR|YAGH|TUAREG YAGH|AYER YAGH",
    "2d59 TIFINAGH LETTER |YAS|YASS|YASH|YAT|YATH|YACH|YATT|YAV|YAW|YAY|YAZ|TAWELLEMET YAZ|YAZZ|YE|YO",
    "2d6f TIFINAGH |MODIFIER LETTER LABIALIZATION MARK|SEPARATOR MARK;2d7f TIFINAGH CONSONANT |JOINER",
    "2d80 ETHIOPIC SYLLABLE |LOA|MOA|ROA|SOA|SHOA|BOA|TOA",
    "2d87 ETHIOPIC SYLLABLE |COA|NOA|NYOA|GLOTTAL OA|ZOA|DOA|DDOA|JOA|THOA|CHOA|PHOA|POA|GGWA|GGWI|GGWEE|GGWE",
    "2da0 ETHIOPIC SYLLABLE |SSA|SSU|SSI|SSAA|SSEE|SSE|SSO;2da8 ETHIOPIC SYLLABLE |CCA|CCU|CCI|CCAA|CCEE|CCE|CCO",
    "2db0 ETHIOPIC SYLLABLE |ZZA|ZZU|ZZI|ZZAA|ZZEE|ZZE|ZZO",
    "2db8 ETHIOPIC SYLLABLE |CCHA|CCHU|CCHI|CCHAA|CCHEE|CCHE|CCHO",
    "2dc0 ETHIOPIC SYLLABLE |QYA|QYU|QYI|QYAA|QYEE|QYE|QYO;2dc8 ETHIOPIC SYLLABLE |KYA|KYU|KYI|KYAA|KYEE|KYE|KYO",
    "2dd0 ETHIOPIC SYLLABLE |XYA|XYU|XYI|XYAA|XYEE|XYE|XYO;2dd8 ETHIOPIC SYLLABLE |GYA|GYU|GYI|GYAA|GYEE|GYE|GYO",
    "2de0 COMBINING CYRILLIC LETTER |BE|VE|GHE",
    "2de3 COMBINING CYRILLIC LETTER |DE|ZHE|ZE|KA|EL|EM|EN|O|PE|ER|ES|TE|HA|TSE|CHE|SHA|SHCHA|FITA|ES-TE|A|IE",
    "2df8 COMBINING CYRILLIC LETTER |DJERV|MONOGRAPH UK|YAT|YU|IOTIFIED A|LITTLE YUS|BIG YUS|IOTIFIED BIG YUS",
    "2e00 RIGHT ANGLE |SUBSTITUTION MARKER|DOTTED SUBSTITUTION MARKER;2e02 LEFT SUBSTITUTION |BRACKET",
    "2e03 |RIGHT SUBSTITUTION BRACKET|LEFT DOTTED SUBSTITUTION BRACKET|RIGHT DOTTED SUBSTITUTION BRACKET",
    "2e06 RAISED |INTERPOLATION MARKER|DOTTED INTERPOLATION MARKER",
    "2e08 |DOTTED TRANSPOSITION MARKER|LEFT TRANSPOSITION BRACKET|RIGHT TRANSPOSITION BRACKET",
    "2e0b |RAISED SQUARE|LEFT RAISED OMISSION BRACKET|RIGHT RAISED OMISSION BRACKET",
    "2e0e |EDITORIAL CORONIS|PARAGRAPHOS|FORKED PARAGRAPHOS|REVERSED FORKED PARAGRAPHOS",
    "2e12 |HYPODIASTOLE|DOTTED OBELOS|DOWNWARDS ANCORA|UPWARDS ANCORA|DOTTED RIGHT-POINTING ANGLE",
    "2e17 |DOUBLE OBLIQUE HYPHEN|INVERTED INTERROBANG|PALM BRANCH|HYPHEN WITH DIAERESIS",
    "2e1b |TILDE WITH RING ABOVE|LEFT LOW PARAPHRASE BRACKET|RIGHT LOW PARAPHRASE BRACKET",
    "2e1e TILDE WITH DOT |ABOVE|BELOW;2e20 |LEFT VERTICAL BAR WITH QUILL|RIGHT VERTICAL BAR WITH QUILL",
    "2e22 TOP |LEFT HALF BRACKET|RIGHT HALF BRACKET;2e24 BOTTOM |LEFT HALF BRACKET|RIGHT HALF BRACKET",
    "2e26 |LEFT SIDEWAYS U BRACKET|RIGHT SIDEWAYS U BRACKET|LEFT DOUBLE PARENTHESIS",
    "2e29 |RIGHT DOUBLE PARENTHESIS|TWO DOTS OVER ONE DOT PUNCTUATION|ONE DOT OVER TWO DOTS PUNCTUATION",
    "2e2c |SQUARED FOUR DOT PUNCTUATION|FIVE DOT MARK|REVERSED QUESTION MARK|VERTICAL TILDE",
    "2e30 |RING POINT|WORD SEPARATOR MIDDLE DOT|TURNED COMMA|RAISED DOT|RAISED COMMA|TURNED SEMICOLON",
    "2e36 DAGGER WITH |LEFT GUARD|RIGHT GUARD;2e38 |TURNED DAGGER|TOP HALF SECTION SIGN|TWO-EM DASH",
    "2e3b |THREE-EM DASH|STENOGRAPHIC FULL STOP|VERTICAL SIX DOTS|WIGGLY VERTICAL LINE|CAPITULUM|DOUBLE HYPHEN",
    "2e41 |REVERSED COMMA|DOUBLE LOW-REVERSED-9 QUOTATION MARK|DASH WITH LEFT UPTURN|DOUBLE SUSPENSION MARK",
    "2e45 INVERTED LOW |KAVYKA|KAVYKA WITH KAVYKA ABOVE",
    "2e47 |LOW KAVYKA|LOW KAVYKA WITH DOT|DOUBLE STACKED COMMA|DOTTED SOLIDUS",
    "2e4b |TRIPLE DAGGER|MEDIEVAL COMMA|PARAGRAPHUS MARK|PUNCTUS ELEVATUS MARK|CORNISH VERSE DIVIDER",
    "2e50 CROSS PATTY WITH |RIGHT CROSSBAR|LEFT CROSSBAR;2e52 TIRONIAN SIGN CAPITAL |ET",
    "2e53 MEDIEVAL |EXCLAMATION MARK|QUESTION MARK",
    "2e55 |LEFT SQUARE BRACKET WITH STROKE|RIGHT SQUARE BRACKET WITH STROKE",
    "2e57 |LEFT SQUARE BRACKET WITH DOUBLE STROKE|RIGHT SQUARE BRACKET WITH DOUBLE STROKE",
    "2e59 TOP HALF |LEFT PARENTHESIS|RIGHT PARENTHESIS;2e5b BOTTOM HALF |LEFT PARENTHESIS|RIGHT PARENTHESIS",
    "2e5d OBLIQUE |HYPHEN;2e80 CJK RADICAL |REPEAT|CLIFF|SECOND ONE|SECOND TWO|SECOND THREE|PERSON",
    "2e86 CJK RADICAL |BOX|TABLE|KNIFE ONE|KNIFE TWO|DIVINATION|SEAL|SMALL ONE|SMALL TWO|LAME ONE|LAME TWO",
    "2e90 CJK RADICAL |LAME THREE|LAME FOUR|SNAKE|THREAD|SNOUT ONE|SNOUT TWO|HEART ONE|HEART TWO|HAND|RAP",
    "2e9b CJK RADICAL |CHOKE|SUN|MOON|DEATH|MOTHER|CIVILIAN|WATER ONE|WATER TWO|FIRE|PAW ONE",
    "2ea5 CJK RADICAL |PAW TWO|SIMPLIFIED HALF TREE TRUNK|COW|DOG|JADE|BOLT OF CLOTH|EYE|SPIRIT ONE|SPIRIT TWO",
    "2eae CJK RADICAL |BAMBOO|SILK|C-SIMPLIFIED SILK|NET ONE|NET TWO|NET THREE|NET FOUR|MESH|SHEEP|RAM|EWE|OLD",
    "2eba CJK RADICAL |BRUSH ONE|BRUSH TWO|MEAT|MORTAR|GRASS ONE|GRASS TWO|GRASS THREE|TIGER|CLOTHES|WEST ONE",
    "2ec4 CJK RADICAL |WEST TWO|C-SIMPLIFIED SEE|SIMPLIFIED HORN|HORN|C-SIMPLIFIED SPEECH|C-SIMPLIFIED SHELL",
    "2eca CJK RADICAL |FOOT|C-SIMPLIFIED CART|SIMPLIFIED WALK|WALK ONE|WALK TWO|CITY|C-SIMPLIFIED GOLD",
    "2ed1 CJK RADICAL |LONG ONE|LONG TWO|C-SIMPLIFIED LONG|C-SIMPLIFIED GATE|MOUND ONE|MOUND TWO|RAIN|BLUE",
    "2ed9 CJK RADICAL C-SIMPLIFIED |TANNED LEATHER|LEAF|WIND|FLY",
    "2edd CJK RADICAL |EAT ONE|EAT TWO|EAT THREE|C-SIMPLIFIED EAT|HEAD|C-SIMPLIFIED HORSE|BONE|GHOST",
    "2ee5 CJK RADICAL C-SIMPLIFIED |FISH|BIRD|SALT",
    "2ee8 CJK RADICAL |SIMPLIFIED WHEAT|SIMPLIFIED YELLOW|C-SIMPLIFIED FROG",
    "2eeb CJK RADICAL |J-SIMPLIFIED EVEN|C-SIMPLIFIED EVEN|J-SIMPLIFIED TOOTH|C-SIMPLIFIED TOOTH",
    "2eef CJK RADICAL |J-SIMPLIFIED DRAGON|C-SIMPLIFIED DRAGON|TURTLE|J-SIMPLIFIED TURTLE|C-SIMPLIFIED TURTLE",
    "2f00 KANGXI RADICAL |ONE|LINE|DOT|SLASH|SECOND|HOOK|TWO|LID|MAN|LEGS|ENTER|EIGHT|DOWN BOX",
    "2f0d KANGXI RADICAL |COVER|ICE|TABLE|OPEN BOX|KNIFE|POWER|WRAP|SPOON|RIGHT OPEN BOX|HIDING ENCLOSURE",
    "2f17 KANGXI RADICAL |TEN|DIVINATION|SEAL|CLIFF|PRIVATE|AGAIN|MOUTH|ENCLOSURE|EARTH|SCHOLAR|GO|GO SLOWLY",
    "2f23 KANGXI RADICAL |EVENING|BIG|WOMAN|CHILD|ROOF|INCH|SMALL|LAME|CORPSE|SPROUT|MOUNTAIN|RIVER|WORK",
    "2f30 KANGXI RADICAL |ONESELF|TURBAN|DRY|SHORT THREAD|DOTTED CLIFF|LONG STRIDE|TWO HANDS|SHOOT|BOW|SNOUT",
    "2f3a KANGXI RADICAL |BRISTLE|STEP|HEART|HALBERD|DOOR|HAND|BRANCH|RAP|SCRIPT|DIPPER|AXE|SQUARE|NOT|SUN",
    "2f48 KANGXI RADICAL |SAY|MOON|TREE|LACK|STOP|DEATH|WEAPON|DO NOT|COMPARE|FUR|CLAN|STEAM|WATER|FIRE|CLAW",
    "2f57 KANGXI RADICAL |FATHER|DOUBLE X|HALF TREE TRUNK|SLICE|FANG|COW|DOG|PROFOUND|JADE|MELON|TILE|SWEET",
    "2f63 KANGXI RADICAL |LIFE|USE|FIELD|BOLT OF CLOTH|SICKNESS|DOTTED TENT|WHITE|SKIN|DISH|EYE|SPEAR|ARROW",
    "2f6f KANGXI RADICAL |STONE|SPIRIT|TRACK|GRAIN|CAVE|STAND|BAMBOO|RICE|SILK|JAR|NET|SHEEP|FEATHER|OLD|AND",
    "2f7e KANGXI RADICAL |PLOW|EAR|BRUSH|MEAT|MINISTER|SELF|ARRIVE|MORTAR|TONGUE|OPPOSE|BOAT|STOPPING|COLOR",
    "2f8b KANGXI RADICAL |GRASS|TIGER|INSECT|BLOOD|WALK ENCLOSURE|CLOTHES|WEST|SEE|HORN|SPEECH|VALLEY|BEAN",
    "2f97 KANGXI RADICAL |PIG|BADGER|SHELL|RED|RUN|FOOT|BODY|CART|BITTER|MORNING|WALK|CITY|WINE|DISTINGUISH",
    "2fa5 KANGXI RADICAL |VILLAGE|GOLD|LONG|GATE|MOUND|SLAVE|SHORT TAILED BIRD|RAIN|BLUE|WRONG|FACE",
    "2fb0 KANGXI RADICAL |LEATHER|TANNED LEATHER|LEEK|SOUND|LEAF|WIND|FLY|EAT|HEAD|FRAGRANT|HORSE|BONE|TALL",
    "2fbd KANGXI RADICAL |HAIR|FIGHT|SACRIFICIAL WINE|CAULDRON|GHOST|FISH|BIRD|SALT|DEER|WHEAT|HEMP|YELLOW",
    "2fc9 KANGXI RADICAL |MILLET|BLACK|EMBROIDERY|FROG|TRIPOD|DRUM|RAT|NOSE|EVEN|TOOTH|DRAGON|TURTLE|FLUTE",
    "2ff0 IDEOGRAPHIC DESCRIPTION CHARACTER |LEFT TO RIGHT|ABOVE TO BELOW",
    "2ff2 IDEOGRAPHIC DESCRIPTION CHARACTER |LEFT TO MIDDLE AND RIGHT|ABOVE TO MIDDLE AND BELOW|FULL SURROUND",
    "2ff5 IDEOGRAPHIC DESCRIPTION CHARACTER SURROUND FROM |ABOVE|BELOW|LEFT|UPPER LEFT|UPPER RIGHT|LOWER LEFT",
    "2ffb IDEOGRAPHIC DESCRIPTION CHARACTER |OVERLAID;3000 IDEOGRAPHIC |SPACE|COMMA|FULL STOP",
    "3003 |DITTO MARK|JAPANESE INDUSTRIAL STANDARD SYMBOL;3005 IDEOGRAPHIC |ITERATION MARK|CLOSING MARK|NUMBER ZERO",
    "3008 |LEFT ANGLE BRACKET|RIGHT ANGLE BRACKET|LEFT DOUBLE ANGLE BRACKET",
    "300b |RIGHT DOUBLE ANGLE BRACKET|LEFT CORNER BRACKET|RIGHT CORNER BRACKET|LEFT WHITE CORNER BRACKET",
    "300f |RIGHT WHITE CORNER BRACKET|LEFT BLACK LENTICULAR BRACKET|RIGHT BLACK LENTICULAR BRACKET|POSTAL MARK",
    "3013 |GETA MARK|LEFT TORTOISE SHELL BRACKET|RIGHT TORTOISE SHELL BRACKET|LEFT WHITE LENTICULAR BRACKET",
    "3017 |RIGHT WHITE LENTICULAR BRACKET|LEFT WHITE TORTOISE SHELL BRACKET|RIGHT WHITE TORTOISE SHELL BRACKET",
    "301a |LEFT WHITE SQUARE BRACKET|RIGHT WHITE SQUARE BRACKET|WAVE DASH|REVERSED DOUBLE PRIME QUOTATION MARK",
    "301e |DOUBLE PRIME QUOTATION MARK|LOW DOUBLE PRIME QUOTATION MARK|POSTAL MARK FACE",
    "3021 HANGZHOU NUMERAL |ONE|TWO|THREE|FOUR|FIVE|SIX|SEVEN|EIGHT|NINE",
    "302a IDEOGRAPHIC |LEVEL TONE MARK|RISING TONE MARK|DEPARTING TONE MARK|ENTERING TONE MARK",
    "302e HANGUL |SINGLE DOT TONE MARK|DOUBLE DOT TONE MARK;3030 WAVY |DASH",
    "3031 VERTICAL KANA REPEAT |MARK|WITH VOICED SOUND MARK",
    "3033 VERTICAL KANA REPEAT |MARK UPPER HALF|WITH VOICED SOUND MARK UPPER HALF|MARK LOWER HALF",
    "3036 |CIRCLED POSTAL MARK|IDEOGRAPHIC TELEGRAPH LINE FEED SEPARATOR SYMBOL",
    "3038 HANGZHOU NUMERAL |TEN|TWENTY|THIRTY",
    "303b |VERTICAL IDEOGRAPHIC ITERATION MARK|MASU MARK|PART ALTERNATION MARK",
    "303e IDEOGRAPHIC |VARIATION INDICATOR|HALF FILL SPACE",
    "3041 HIRAGANA LETTER |SMALL A|A|SMALL I|I|SMALL U|U|SMALL E|E|SMALL O|O|KA|GA|KI|GI|KU|GU",
    "3051 HIRAGANA LETTER |KE|GE|KO|GO|SA|ZA|SI|ZI|SU|ZU|SE|ZE|SO|ZO|TA|DA|TI|DI|SMALL TU|TU|DU|TE|DE|TO|DO|NA",
    "306b HIRAGANA LETTER |NI|NU|NE|NO|HA|BA|PA|HI|BI|PI|HU|BU|PU|HE|BE|PE|HO|BO|PO|MA|MI|MU|ME|MO|SMALL YA|YA",
    "3085 HIRAGANA LETTER |SMALL YU|YU|SMALL YO|YO|RA|RI|RU|RE|RO|SMALL WA|WA|WI|WE|WO|N|VU|SMALL KA|SMALL KE",
    "3099 COMBINING KATAKANA-HIRAGANA |VOICED SOUND MARK|SEMI-VOICED SOUND MARK",
    "309b KATAKANA-HIRAGANA |VOICED SOUND MARK|SEMI-VOICED SOUND MARK",
    "309d HIRAGANA |ITERATION MARK|VOICED ITERATION MARK|DIGRAPH YORI;30a0 KATAKANA-HIRAGANA DOUBLE |HYPHEN",
    "30a1 KATAKANA LETTER |SMALL A|A|SMALL I|I|SMALL U|U|SMALL E|E|SMALL O|O|KA|GA|KI|GI|KU|GU|KE|GE|KO|GO",
    "30b5 KATAKANA LETTER |SA|ZA|SI|ZI|SU|ZU|SE|ZE|SO|ZO|TA|DA|TI|DI|SMALL TU|TU|DU|TE|DE|TO|DO|NA|NI|NU|NE|NO",
    "30cf KATAKANA LETTER |HA|BA|PA|HI|BI|PI|HU|BU|PU|HE|BE|PE|HO|BO|PO|MA|MI|MU|ME|MO|SMALL YA|YA|SMALL YU|YU",
    "30e7 KATAKANA LETTER |SMALL YO|YO|RA|RI|RU|RE|RO|SMALL WA|WA|WI|WE|WO|N|VU|SMALL KA|SMALL KE|VA|VI|VE|VO",
    "30fb |KATAKANA MIDDLE DOT|KATAKANA-HIRAGANA PROLONGED SOUND MARK",
    "30fd KATAKANA |ITERATION MARK|VOICED ITERATION MARK|DIGRAPH KOTO",
    "3105 BOPOMOFO LETTER |B|P|M|F|D|T|N|L|G|K|H|J|Q|X|ZH|CH|SH",
    "3116 BOPOMOFO LETTER |R|Z|C|S|A|O|E|EH|AI|EI|AU|OU|AN|EN|ANG|ENG|ER|I|U|IU|V|NG|GN|IH|O WITH DOT ABOVE|NN",
    "3131 HANGUL LETTER |KIYEOK|SSANGKIYEOK|KIYEOK-SIOS|NIEUN|NIEUN-CIEUC|NIEUN-HIEUH|TIKEUT|SSANGTIKEUT|RIEUL",
    "313a HANGUL LETTER RIEUL-|KIYEOK|MIEUM|PIEUP|SIOS|THIEUTH|PHIEUPH|HIEUH;3141 HANGUL LETTER |MIEUM",
    "3142 HANGUL LETTER |PIEUP|SSANGPIEUP|PIEUP-SIOS|SIOS|SSANGSIOS|IEUNG|CIEUC|SSANGCIEUC|CHIEUCH|KHIEUKH",
    "314c HANGUL LETTER |THIEUTH|PHIEUPH|HIEUH|A|AE|YA|YAE|EO|E|YEO|YE|O|WA|WAE|OE|YO|U|WEO|WE|WI|YU|EU|YI|I",
    "3164 HANGUL |FILLER|LETTER SSANGNIEUN;3166 HANGUL LETTER NIEUN-|TIKEUT|SIOS|PANSIOS",
    "3169 HANGUL LETTER RIEUL-|KIYEOK-SIOS|TIKEUT|PIEUP-SIOS|PANSIOS|YEORINHIEUH",
    "316e HANGUL LETTER |MIEUM-PIEUP|MIEUM-SIOS|MIEUM-PANSIOS|KAPYEOUNMIEUM",
    "3172 HANGUL LETTER PIEUP-|KIYEOK|TIKEUT|SIOS-KIYEOK|SIOS-TIKEUT|CIEUC|THIEUTH",
    "3178 HANGUL LETTER |KAPYEOUNPIEUP|KAPYEOUNSSANGPIEUP|SIOS-KIYEOK|SIOS-NIEUN|SIOS-TIKEUT|SIOS-PIEUP",
    "317e HANGUL LETTER |SIOS-CIEUC|PANSIOS|SSANGIEUNG|YESIEUNG|YESIEUNG-SIOS|YESIEUNG-PANSIOS|KAPYEOUNPHIEUPH",
    "3185 HANGUL LETTER |SSANGHIEUH|YEORINHIEUH|YO-YA|YO-YAE|YO-I|YU-YEO|YU-YE|YU-I|ARAEA|ARAEAE",
    "3190 IDEOGRAPHIC ANNOTATION |LINKING MARK|REVERSE MARK|ONE MARK",
    "3193 IDEOGRAPHIC ANNOTATION |TWO MARK|THREE MARK|FOUR MARK|TOP MARK|MIDDLE MARK|BOTTOM MARK|FIRST MARK",
    "319a IDEOGRAPHIC ANNOTATION |SECOND MARK|THIRD MARK|FOURTH MARK|HEAVEN MARK|EARTH MARK|MAN MARK",
    "31a0 BOPOMOFO LETTER |BU|ZI|JI|GU|EE|ENN|OO|ONN|IR|ANN|INN|UNN|IM|NGG|AINN|AUNN|AM|OM|ONG|INNN",
    "31b4 BOPOMOFO FINAL LETTER |P|T|K|H;31b8 BOPOMOFO |LETTER GH|LETTER LH|LETTER ZY|FINAL LETTER G",
    "31bc BOPOMOFO LETTER |GW|KW|OE|AH;31c0 CJK STROKE |T|WG|XG|BXG|SW|HZZ|HZG|HP|HZWG|SZWG",
    "31ca CJK STROKE |HZT|HZZP|HPWG|HZW|HZZZ|N|H|S|P|SP|D|HZ|HG|SZ|SWZ|ST|SG|PD|PZ|TN|SZZ|SWG|HXWG|HZZZG|PG|Q",
    "31f0 KATAKANA LETTER SMALL |KU|SI|SU|TO|NU|HA|HI|HU|HE|HO|MU|RA|RI|RU|RE|RO",
    "3200 PARENTHESIZED HANGUL |KIYEOK|NIEUN|TIKEUT|RIEUL|MIEUM|PIEUP|SIOS|IEUNG|CIEUC|CHIEUCH|KHIEUKH",
    "320b PARENTHESIZED HANGUL |THIEUTH|PHIEUPH|HIEUH|KIYEOK A|NIEUN A|TIKEUT A|RIEUL A|MIEUM A|PIEUP A",
    "3214 PARENTHESIZED HANGUL |SIOS A|IEUNG A|CIEUC A|CHIEUCH A|KHIEUKH A|THIEUTH A|PHIEUPH A|HIEUH A|CIEUC U",
    "321d PARENTHESIZED KOREAN CHARACTER |OJEON|O HU;3220 PARENTHESIZED IDEOGRAPH |ONE|TWO|THREE",
    "3223 PARENTHESIZED IDEOGRAPH |FOUR|FIVE|SIX|SEVEN|EIGHT|NINE|TEN|MOON|FIRE|WATER|WOOD|METAL|EARTH|SUN",
    "3231 PARENTHESIZED IDEOGRAPH |STOCK|HAVE|SOCIETY|NAME|SPECIAL|FINANCIAL|CONGRATULATION|LABOR|REPRESENT",
    "323a PARENTHESIZED IDEOGRAPH |CALL|STUDY|SUPERVISE|ENTERPRISE|RESOURCE|ALLIANCE|FESTIVAL|REST|SELF|REACH",
    "3244 CIRCLED IDEOGRAPH |QUESTION|KINDERGARTEN|SCHOOL|KOTO",
    "3248 CIRCLED NUMBER |TEN ON BLACK SQUARE|TWENTY ON BLACK SQUARE",
    "324a CIRCLED NUMBER |THIRTY ON BLACK SQUARE|FORTY ON BLACK SQUARE|FIFTY ON BLACK SQUARE",
    "324d CIRCLED NUMBER |SIXTY ON BLACK SQUARE|SEVENTY ON BLACK SQUARE|EIGHTY ON BLACK SQUARE;3250 PARTNERSHIP |SIGN",
    "3251 CIRCLED NUMBER TWENTY |ONE|TWO|THREE|FOUR|FIVE|SIX|SEVEN|EIGHT|NINE;325a CIRCLED NUMBER |THIRTY",
    "325b CIRCLED NUMBER THIRTY |ONE|TWO|THREE|FOUR|FIVE",
    "3260 CIRCLED HANGUL |KIYEOK|NIEUN|TIKEUT|RIEUL|MIEUM|PIEUP|SIOS|IEUNG|CIEUC",
    "3269 CIRCLED HANGUL |CHIEUCH|KHIEUKH|THIEUTH|PHIEUPH|HIEUH|KIYEOK A|NIEUN A|TIKEUT A|RIEUL A|MIEUM A",
    "3273 CIRCLED HANGUL |PIEUP A|SIOS A|IEUNG A|CIEUC A|CHIEUCH A|KHIEUKH A|THIEUTH A|PHIEUPH A|HIEUH A",
    "327c CIRCLED KOREAN CHARACTER |CHAMKO|JUEUI;327e |CIRCLED HANGUL IEUNG U|KOREAN STANDARD SYMBOL",
    "3280 CIRCLED IDEOGRAPH |ONE|TWO|THREE|FOUR|FIVE|SIX|SEVEN|EIGHT|NINE|TEN|MOON|FIRE|WATER|WOOD|METAL|EARTH",
    "3290 CIRCLED IDEOGRAPH |SUN|STOCK|HAVE|SOCIETY|NAME|SPECIAL|FINANCIAL|CONGRATULATION|LABOR|SECRET|MALE",
    "329b CIRCLED IDEOGRAPH |FEMALE|SUITABLE|EXCELLENT|PRINT|ATTENTION|ITEM|REST|COPY|CORRECT|HIGH|CENTRE|LOW",
    "32a7 CIRCLED IDEOGRAPH |LEFT|RIGHT|MEDICINE|RELIGION|STUDY|SUPERVISE|ENTERPRISE|RESOURCE|ALLIANCE|NIGHT",
    "32b1 CIRCLED NUMBER |THIRTY SIX|THIRTY SEVEN|THIRTY EIGHT|THIRTY NINE|FORTY",
    "32b6 CIRCLED NUMBER FORTY |ONE|TWO|THREE|FOUR|FIVE|SIX|SEVEN|EIGHT|NINE;32bf CIRCLED NUMBER |FIFTY",
    "32c0 IDEOGRAPHIC TELEGRAPH SYMBOL FOR |JANUARY|FEBRUARY|MARCH",
    "32c3 IDEOGRAPHIC TELEGRAPH SYMBOL FOR |APRIL|MAY|JUNE|JULY|AUGUST|SEPTEMBER|OCTOBER|NOVEMBER|DECEMBER",
    "32cc SQUARE |HG|ERG|EV;32cf LIMITED LIABILITY |SIGN",
    "32d0 CIRCLED KATAKANA |A|I|U|E|O|KA|KI|KU|KE|KO|SA|SI|SU|SE|SO|TA|TI|TU|TE|TO",
    "32e4 CIRCLED KATAKANA |NA|NI|NU|NE|NO|HA|HI|HU|HE|HO|MA|MI|MU|ME|MO|YA|YU|YO|RA|RI|RU|RE|RO|WA|WI|WE|WO",
    "32ff SQUARE |ERA NAME REIWA|APAATO|ARUHUA|ANPEA|AARU|ININGU|INTI|UON|ESUKUUDO|EEKAA|ONSU",
    "330a SQUARE |OOMU|KAIRI|KARATTO|KARORII|GARON|GANMA|GIGA|GINII|KYURII|GIRUDAA|KIRO|KIROGURAMU|KIROMEETORU",
    "3317 SQUARE |KIROWATTO|GURAMU|GURAMUTON|KURUZEIRO|KUROONE|KEESU|KORUNA|KOOPO|SAIKURU|SANTIIMU|SIRINGU",
    "3322 SQUARE |SENTI|SENTO|DAASU|DESI|DORU|TON|NANO|NOTTO|HAITU|PAASENTO|PAATU|BAARERU|PIASUTORU|PIKURU",
    "3330 SQUARE |PIKO|BIRU|HUARADDO|HUIITO|BUSSYERU|HURAN|HEKUTAARU|PESO|PENIHI|HERUTU|PENSU|PEEZI|BEETA",
    "333d SQUARE |POINTO|BORUTO|HON|PONDO|HOORU|HOON|MAIKURO|MAIRU|MAHHA|MARUKU|MANSYON|MIKURON|MIRI|MIRIBAARU",
    "334b SQUARE |MEGA|MEGATON|MEETORU|YAADO|YAARU|YUAN|RITTORU|RIRA|RUPII|RUUBURU|REMU|RENTOGEN|WATTO",
    "3358 IDEOGRAPHIC TELEGRAPH SYMBOL FOR HOUR |ZERO|ONE|TWO|THREE",
    "335c IDEOGRAPHIC TELEGRAPH SYMBOL FOR HOUR |FOUR|FIVE|SIX|SEVEN|EIGHT|NINE|TEN|ELEVEN|TWELVE|THIRTEEN",
    "3366 IDEOGRAPHIC TELEGRAPH SYMBOL FOR HOUR |FOURTEEN|FIFTEEN|SIXTEEN|SEVENTEEN|EIGHTEEN|NINETEEN|TWENTY",
    "336d IDEOGRAPHIC TELEGRAPH SYMBOL FOR HOUR TWENTY-|ONE|TWO|THREE|FOUR",
    "3371 SQUARE |HPA|DA|AU|BAR|OV|PC|DM|DM SQUARED|DM CUBED|IU;337b SQUARE ERA NAME |HEISEI|SYOUWA|TAISYOU|MEIZI",
    "337f SQUARE |CORPORATION|PA AMPS",
    "3381 SQUARE |NA|MU A|MA|KA|KB|MB|GB|CAL|KCAL|PF|NF|MU F|MU G|MG|KG|HZ|KHZ|MHZ|GHZ|THZ|MU L|ML|DL|KL|FM|NM",
    "339b SQUARE |MU M|MM|CM|KM|MM SQUARED|CM SQUARED|M SQUARED|KM SQUARED|MM CUBED|CM CUBED|M CUBED|KM CUBED",
    "33a7 SQUARE |M OVER S|M OVER S SQUARED|PA|KPA|MPA|GPA|RAD|RAD OVER S|RAD OVER S SQUARED|PS|NS|MU S|MS|PV",
    "33b5 SQUARE |NV|MU V|MV|KV|MV MEGA|PW|NW|MU W|MW|KW|MW MEGA|K OHM|M OHM|AM|BQ|CC|CD|C OVER KG|CO|DB|GY|HA",
    "33cb SQUARE |HP|IN|KK|KM CAPITAL|KT|LM|LN|LOG|LX|MB SMALL|MIL|MOL|PH|PM|PPM|PR|SR|SV|WB|V OVER M|A OVER M",
    "33e0 IDEOGRAPHIC TELEGRAPH SYMBOL FOR DAY |ONE|TWO|THREE",
    "33e3 IDEOGRAPHIC TELEGRAPH SYMBOL FOR DAY |FOUR|FIVE|SIX|SEVEN|EIGHT|NINE|TEN|ELEVEN|TWELVE|THIRTEEN",
    "33ed IDEOGRAPHIC TELEGRAPH SYMBOL FOR DAY |FOURTEEN|FIFTEEN|SIXTEEN|SEVENTEEN|EIGHTEEN|NINETEEN|TWENTY",
    "33f4 IDEOGRAPHIC TELEGRAPH SYMBOL FOR DAY TWENTY-|ONE|TWO|THREE|FOUR|FIVE|SIX|SEVEN|EIGHT|NINE",
    "33fd IDEOGRAPHIC TELEGRAPH SYMBOL FOR DAY |THIRTY|THIRTY-ONE;33ff SQUARE |GAL",
    "4dc0 HEXAGRAM FOR THE |CREATIVE HEAVEN|RECEPTIVE EARTH",
    "4dc2 HEXAGRAM FOR |DIFFICULTY AT THE BEGINNING|YOUTHFUL FOLLY|WAITING|CONFLICT|THE ARMY",
    "4dc7 HEXAGRAM FOR |HOLDING TOGETHER|SMALL TAMING|TREADING|PEACE|STANDSTILL|FELLOWSHIP|GREAT POSSESSION",
    "4dce HEXAGRAM FOR |MODESTY|ENTHUSIASM|FOLLOWING|WORK ON THE DECAYED|APPROACH|CONTEMPLATION|BITING THROUGH",
    "4dd5 HEXAGRAM FOR |GRACE|SPLITTING APART|RETURN|INNOCENCE|GREAT TAMING|MOUTH CORNERS|GREAT PREPONDERANCE",
    "4ddc HEXAGRAM FOR |THE ABYSMAL WATER|THE CLINGING FIRE|INFLUENCE|DURATION|RETREAT|GREAT POWER|PROGRESS",
    "4de3 HEXAGRAM FOR |DARKENING OF THE LIGHT|THE FAMILY|OPPOSITION|OBSTRUCTION|DELIVERANCE|DECREASE|INCREASE",
    "4dea HEXAGRAM FOR |BREAKTHROUGH|COMING TO MEET|GATHERING TOGETHER|PUSHING UPWARD|OPPRESSION|THE WELL",
    "4df0 HEXAGRAM FOR |REVOLUTION|THE CAULDRON|THE AROUSING THUNDER|THE KEEPING STILL MOUNTAIN|DEVELOPMENT",
    "4df5 HEXAGRAM FOR |THE MARRYING MAIDEN|ABUNDANCE|THE WANDERER|THE GENTLE WIND|THE JOYOUS LAKE|DISPERSION",
    "4dfb HEXAGRAM FOR |LIMITATION|INNER TRUTH|SMALL PREPONDERANCE|AFTER COMPLETION|BEFORE COMPLETION"]

end EdgeRoutes.Text
