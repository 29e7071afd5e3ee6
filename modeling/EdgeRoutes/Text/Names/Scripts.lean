/-! Names of characters: the scripts in use, from Latin to Balinese and Lepcha, and Greek with its accents. -/

namespace EdgeRoutes.Text

def scriptNames : List String :=
  ["20 |SPACE|EXCLAMATION MARK|QUOTATION MARK|NUMBER SIGN|DOLLAR SIGN|PERCENT SIGN|AMPERSAND",
    "27 |APOSTROPHE|LEFT PARENTHESIS|RIGHT PARENTHESIS|ASTERISK|PLUS SIGN|COMMA|HYPHEN-MINUS|FULL STOP|SOLIDUS",
    "30 DIGIT |ZERO|ONE|TWO|THREE|FOUR|FIVE|SIX|SEVEN|EIGHT|NINE",
    "3a |COLON|SEMICOLON|LESS-THAN SIGN|EQUALS SIGN|GREATER-THAN SIGN|QUESTION MARK|COMMERCIAL AT",
    "41 LATIN CAPITAL LETTER |A|B|C|D|E|F|G|H|I|J|K|L|M|N|O|P|Q|R|S|T|U|V|W|X|Y|Z",
    "5b |LEFT SQUARE BRACKET|REVERSE SOLIDUS|RIGHT SQUARE BRACKET|CIRCUMFLEX ACCENT|LOW LINE|GRAVE ACCENT",
    "61 LATIN SMALL LETTER |A|B|C|D|E|F|G|H|I|J|K|L|M|N|O|P|Q|R|S|T|U|V|W|X|Y|Z",
    "7b |LEFT CURLY BRACKET|VERTICAL LINE|RIGHT CURLY BRACKET|TILDE;a0 NO-BREAK |SPACE",
    "a1 |INVERTED EXCLAMATION MARK|CENT SIGN|POUND SIGN|CURRENCY SIGN|YEN SIGN|BROKEN BAR|SECTION SIGN",
    "a8 |DIAERESIS|COPYRIGHT SIGN|FEMININE ORDINAL INDICATOR|LEFT-POINTING DOUBLE ANGLE QUOTATION MARK",
    "ac |NOT SIGN|SOFT HYPHEN|REGISTERED SIGN|MACRON|DEGREE SIGN|PLUS-MINUS SIGN;b2 SUPERSCRIPT |TWO|THREE",
    "b4 |ACUTE ACCENT|MICRO SIGN|PILCROW SIGN|MIDDLE DOT",
    "b8 |CEDILLA|SUPERSCRIPT ONE|MASCULINE ORDINAL INDICATOR|RIGHT-POINTING DOUBLE ANGLE QUOTATION MARK",
    "bc VULGAR FRACTION |ONE QUARTER|ONE HALF|THREE QUARTERS;bf INVERTED QUESTION |MARK",
    "c0 LATIN CAPITAL LETTER A WITH |GRAVE|ACUTE|CIRCUMFLEX|TILDE|DIAERESIS|RING ABOVE",
    "c6 LATIN CAPITAL LETTER |AE|C WITH CEDILLA|E WITH GRAVE|E WITH ACUTE|E WITH CIRCUMFLEX|E WITH DIAERESIS",
    "cc LATIN CAPITAL LETTER |I WITH GRAVE|I WITH ACUTE|I WITH CIRCUMFLEX|I WITH DIAERESIS|ETH|N WITH TILDE",
    "d2 LATIN CAPITAL LETTER O WITH |GRAVE|ACUTE|CIRCUMFLEX|TILDE|DIAERESIS",
    "d7 |MULTIPLICATION SIGN|LATIN CAPITAL LETTER O WITH STROKE",
    "d9 LATIN CAPITAL LETTER |U WITH GRAVE|U WITH ACUTE|U WITH CIRCUMFLEX|U WITH DIAERESIS|Y WITH ACUTE|THORN",
    "df LATIN SMALL LETTER SHARP |S;e0 LATIN SMALL LETTER A WITH |GRAVE|ACUTE|CIRCUMFLEX|TILDE|DIAERESIS|RING ABOVE",
    "e6 LATIN SMALL LETTER |AE|C WITH CEDILLA|E WITH GRAVE|E WITH ACUTE|E WITH CIRCUMFLEX|E WITH DIAERESIS",
    "ec LATIN SMALL LETTER |I WITH GRAVE|I WITH ACUTE|I WITH CIRCUMFLEX|I WITH DIAERESIS|ETH|N WITH TILDE",
    "f2 LATIN SMALL LETTER O WITH |GRAVE|ACUTE|CIRCUMFLEX|TILDE|DIAERESIS",
    "f7 |DIVISION SIGN|LATIN SMALL LETTER O WITH STROKE",
    "f9 LATIN SMALL LETTER U WITH |GRAVE|ACUTE|CIRCUMFLEX|DIAERESIS",
    "fd LATIN SMALL LETTER |Y WITH ACUTE|THORN|Y WITH DIAERESIS",
    "100 LATIN |CAPITAL LETTER A WITH MACRON|SMALL LETTER A WITH MACRON|CAPITAL LETTER A WITH BREVE",
    "103 LATIN |SMALL LETTER A WITH BREVE|CAPITAL LETTER A WITH OGONEK|SMALL LETTER A WITH OGONEK",
    "106 LATIN |CAPITAL LETTER C WITH ACUTE|SMALL LETTER C WITH ACUTE|CAPITAL LETTER C WITH CIRCUMFLEX",
    "109 LATIN |SMALL LETTER C WITH CIRCUMFLEX|CAPITAL LETTER C WITH DOT ABOVE|SMALL LETTER C WITH DOT ABOVE",
    "10c LATIN |CAPITAL LETTER C WITH CARON|SMALL LETTER C WITH CARON|CAPITAL LETTER D WITH CARON",
    "10f LATIN |SMALL LETTER D WITH CARON|CAPITAL LETTER D WITH STROKE|SMALL LETTER D WITH STROKE",
    "112 LATIN |CAPITAL LETTER E WITH MACRON|SMALL LETTER E WITH MACRON|CAPITAL LETTER E WITH BREVE",
    "115 LATIN |SMALL LETTER E WITH BREVE|CAPITAL LETTER E WITH DOT ABOVE|SMALL LETTER E WITH DOT ABOVE",
    "118 LATIN |CAPITAL LETTER E WITH OGONEK|SMALL LETTER E WITH OGONEK|CAPITAL LETTER E WITH CARON",
    "11b LATIN |SMALL LETTER E WITH CARON|CAPITAL LETTER G WITH CIRCUMFLEX|SMALL LETTER G WITH CIRCUMFLEX",
    "11e LATIN |CAPITAL LETTER G WITH BREVE|SMALL LETTER G WITH BREVE|CAPITAL LETTER G WITH DOT ABOVE",
    "121 LATIN |SMALL LETTER G WITH DOT ABOVE|CAPITAL LETTER G WITH CEDILLA|SMALL LETTER G WITH CEDILLA",
    "124 LATIN |CAPITAL LETTER H WITH CIRCUMFLEX|SMALL LETTER H WITH CIRCUMFLEX|CAPITAL LETTER H WITH STROKE",
    "127 LATIN |SMALL LETTER H WITH STROKE|CAPITAL LETTER I WITH TILDE|SMALL LETTER I WITH TILDE",
    "12a LATIN |CAPITAL LETTER I WITH MACRON|SMALL LETTER I WITH MACRON|CAPITAL LETTER I WITH BREVE",
    "12d LATIN |SMALL LETTER I WITH BREVE|CAPITAL LETTER I WITH OGONEK|SMALL LETTER I WITH OGONEK",
    "130 LATIN |CAPITAL LETTER I WITH DOT ABOVE|SMALL LETTER DOTLESS I|CAPITAL LIGATURE IJ|SMALL LIGATURE IJ",
    "134 LATIN |CAPITAL LETTER J WITH CIRCUMFLEX|SMALL LETTER J WITH CIRCUMFLEX|CAPITAL LETTER K WITH CEDILLA",
    "137 LATIN SMALL LETTER |K WITH CEDILLA|KRA",
    "139 LATIN |CAPITAL LETTER L WITH ACUTE|SMALL LETTER L WITH ACUTE|CAPITAL LETTER L WITH CEDILLA",
    "13c LATIN |SMALL LETTER L WITH CEDILLA|CAPITAL LETTER L WITH CARON|SMALL LETTER L WITH CARON",
    "13f LATIN |CAPITAL LETTER L WITH MIDDLE DOT|SMALL LETTER L WITH MIDDLE DOT|CAPITAL LETTER L WITH STROKE",
    "142 LATIN |SMALL LETTER L WITH STROKE|CAPITAL LETTER N WITH ACUTE|SMALL LETTER N WITH ACUTE",
    "145 LATIN |CAPITAL LETTER N WITH CEDILLA|SMALL LETTER N WITH CEDILLA|CAPITAL LETTER N WITH CARON",
    "148 LATIN SMALL LETTER N |WITH CARON|PRECEDED BY APOSTROPHE;14a LATIN |CAPITAL LETTER ENG|SMALL LETTER ENG",
    "14c LATIN |CAPITAL LETTER O WITH MACRON|SMALL LETTER O WITH MACRON|CAPITAL LETTER O WITH BREVE",
    "14f LATIN |SMALL LETTER O WITH BREVE|CAPITAL LETTER O WITH DOUBLE ACUTE|SMALL LETTER O WITH DOUBLE ACUTE",
    "152 LATIN |CAPITAL LIGATURE OE|SMALL LIGATURE OE|CAPITAL LETTER R WITH ACUTE",
    "155 LATIN |SMALL LETTER R WITH ACUTE|CAPITAL LETTER R WITH CEDILLA|SMALL LETTER R WITH CEDILLA",
    "158 LATIN |CAPITAL LETTER R WITH CARON|SMALL LETTER R WITH CARON|CAPITAL LETTER S WITH ACUTE",
    "15b LATIN |SMALL LETTER S WITH ACUTE|CAPITAL LETTER S WITH CIRCUMFLEX|SMALL LETTER S WITH CIRCUMFLEX",
    "15e LATIN |CAPITAL LETTER S WITH CEDILLA|SMALL LETTER S WITH CEDILLA|CAPITAL LETTER S WITH CARON",
    "161 LATIN |SMALL LETTER S WITH CARON|CAPITAL LETTER T WITH CEDILLA|SMALL LETTER T WITH CEDILLA",
    "164 LATIN |CAPITAL LETTER T WITH CARON|SMALL LETTER T WITH CARON|CAPITAL LETTER T WITH STROKE",
    "167 LATIN |SMALL LETTER T WITH STROKE|CAPITAL LETTER U WITH TILDE|SMALL LETTER U WITH TILDE",
    "16a LATIN |CAPITAL LETTER U WITH MACRON|SMALL LETTER U WITH MACRON|CAPITAL LETTER U WITH BREVE",
    "16d LATIN |SMALL LETTER U WITH BREVE|CAPITAL LETTER U WITH RING ABOVE|SMALL LETTER U WITH RING ABOVE",
    "170 LATIN |CAPITAL LETTER U WITH DOUBLE ACUTE|SMALL LETTER U WITH DOUBLE ACUTE",
    "172 LATIN |CAPITAL LETTER U WITH OGONEK|SMALL LETTER U WITH OGONEK|CAPITAL LETTER W WITH CIRCUMFLEX",
    "175 LATIN |SMALL LETTER W WITH CIRCUMFLEX|CAPITAL LETTER Y WITH CIRCUMFLEX|SMALL LETTER Y WITH CIRCUMFLEX",
    "178 LATIN CAPITAL LETTER |Y WITH DIAERESIS|Z WITH ACUTE;17a LATIN SMALL LETTER Z WITH |ACUTE",
    "17b LATIN |CAPITAL LETTER Z WITH DOT ABOVE|SMALL LETTER Z WITH DOT ABOVE|CAPITAL LETTER Z WITH CARON",
    "17e LATIN SMALL LETTER |Z WITH CARON|LONG S|B WITH STROKE;181 LATIN CAPITAL LETTER B WITH |HOOK|TOPBAR",
    "183 LATIN |SMALL LETTER B WITH TOPBAR|CAPITAL LETTER TONE SIX|SMALL LETTER TONE SIX",
    "186 LATIN CAPITAL LETTER |OPEN O|C WITH HOOK;188 LATIN SMALL LETTER C WITH |HOOK",
    "189 LATIN CAPITAL LETTER |AFRICAN D|D WITH HOOK|D WITH TOPBAR;18c LATIN SMALL LETTER |D WITH TOPBAR|TURNED DELTA",
    "18e LATIN CAPITAL LETTER |REVERSED E|SCHWA|OPEN E|F WITH HOOK",
    "192 LATIN |SMALL LETTER F WITH HOOK|CAPITAL LETTER G WITH HOOK|CAPITAL LETTER GAMMA|SMALL LETTER HV",
    "196 LATIN CAPITAL LETTER |IOTA|I WITH STROKE|K WITH HOOK",
    "199 LATIN SMALL LETTER |K WITH HOOK|L WITH BAR|LAMBDA WITH STROKE",
    "19c LATIN CAPITAL LETTER |TURNED M|N WITH LEFT HOOK;19e LATIN SMALL LETTER N WITH LONG RIGHT |LEG",
    "19f LATIN CAPITAL LETTER O WITH |MIDDLE TILDE|HORN;1a1 LATIN |SMALL LETTER O WITH HORN|CAPITAL LETTER OI",
    "1a3 LATIN |SMALL LETTER OI|CAPITAL LETTER P WITH HOOK|SMALL LETTER P WITH HOOK|LETTER YR",
    "1a7 LATIN |CAPITAL LETTER TONE TWO|SMALL LETTER TONE TWO|CAPITAL LETTER ESH|LETTER REVERSED ESH LOOP",
    "1ab LATIN |SMALL LETTER T WITH PALATAL HOOK|CAPITAL LETTER T WITH HOOK|SMALL LETTER T WITH HOOK",
    "1ae LATIN CAPITAL LETTER |T WITH RETROFLEX HOOK|U WITH HORN;1b0 LATIN SMALL LETTER U WITH |HORN",
    "1b1 LATIN CAPITAL LETTER |UPSILON|V WITH HOOK|Y WITH HOOK",
    "1b4 LATIN |SMALL LETTER Y WITH HOOK|CAPITAL LETTER Z WITH STROKE|SMALL LETTER Z WITH STROKE",
    "1b7 LATIN CAPITAL LETTER |EZH|EZH REVERSED;1b9 LATIN SMALL LETTER EZH |REVERSED|WITH TAIL",
    "1bb LATIN LETTER TWO WITH |STROKE",
    "1bc LATIN |CAPITAL LETTER TONE FIVE|SMALL LETTER TONE FIVE|LETTER INVERTED GLOTTAL STOP WITH STROKE",
    "1bf LATIN LETTER |WYNN|DENTAL CLICK|LATERAL CLICK|ALVEOLAR CLICK|RETROFLEX CLICK",
    "1c4 LATIN CAPITAL LETTER |DZ WITH CARON|D WITH SMALL LETTER Z WITH CARON;1c6 LATIN SMALL LETTER DZ WITH |CARON",
    "1c7 LATIN CAPITAL LETTER |LJ|L WITH SMALL LETTER J;1c9 LATIN SMALL LETTER |LJ",
    "1ca LATIN CAPITAL LETTER |NJ|N WITH SMALL LETTER J;1cc LATIN |SMALL LETTER NJ|CAPITAL LETTER A WITH CARON",
    "1ce LATIN |SMALL LETTER A WITH CARON|CAPITAL LETTER I WITH CARON|SMALL LETTER I WITH CARON",
    "1d1 LATIN |CAPITAL LETTER O WITH CARON|SMALL LETTER O WITH CARON|CAPITAL LETTER U WITH CARON",
    "1d4 LATIN |SMALL LETTER U WITH CARON|CAPITAL LETTER U WITH DIAERESIS AND MACRON",
    "1d6 LATIN |SMALL LETTER U WITH DIAERESIS AND MACRON|CAPITAL LETTER U WITH DIAERESIS AND ACUTE",
    "1d8 LATIN |SMALL LETTER U WITH DIAERESIS AND ACUTE|CAPITAL LETTER U WITH DIAERESIS AND CARON",
    "1da LATIN |SMALL LETTER U WITH DIAERESIS AND CARON|CAPITAL LETTER U WITH DIAERESIS AND GRAVE",
    "1dc LATIN SMALL LETTER |U WITH DIAERESIS AND GRAVE|TURNED E",
    "1de LATIN |CAPITAL LETTER A WITH DIAERESIS AND MACRON|SMALL LETTER A WITH DIAERESIS AND MACRON",
    "1e0 LATIN |CAPITAL LETTER A WITH DOT ABOVE AND MACRON|SMALL LETTER A WITH DOT ABOVE AND MACRON",
    "1e2 LATIN |CAPITAL LETTER AE WITH MACRON|SMALL LETTER AE WITH MACRON|CAPITAL LETTER G WITH STROKE",
    "1e5 LATIN |SMALL LETTER G WITH STROKE|CAPITAL LETTER G WITH CARON|SMALL LETTER G WITH CARON",
    "1e8 LATIN |CAPITAL LETTER K WITH CARON|SMALL LETTER K WITH CARON|CAPITAL LETTER O WITH OGONEK",
    "1eb LATIN |SMALL LETTER O WITH OGONEK|CAPITAL LETTER O WITH OGONEK AND MACRON",
    "1ed LATIN |SMALL LETTER O WITH OGONEK AND MACRON|CAPITAL LETTER EZH WITH CARON",
    "1ef LATIN SMALL LETTER |EZH WITH CARON|J WITH CARON;1f1 LATIN CAPITAL LETTER |DZ|D WITH SMALL LETTER Z",
    "1f3 LATIN |SMALL LETTER DZ|CAPITAL LETTER G WITH ACUTE|SMALL LETTER G WITH ACUTE",
    "1f6 LATIN CAPITAL LETTER |HWAIR|WYNN|N WITH GRAVE;1f9 LATIN SMALL LETTER N WITH |GRAVE",
    "1fa LATIN |CAPITAL LETTER A WITH RING ABOVE AND ACUTE|SMALL LETTER A WITH RING ABOVE AND ACUTE",
    "1fc LATIN |CAPITAL LETTER AE WITH ACUTE|SMALL LETTER AE WITH ACUTE",
    "1fe LATIN |CAPITAL LETTER O WITH STROKE AND ACUTE|SMALL LETTER O WITH STROKE AND ACUTE",
    "200 LATIN |CAPITAL LETTER A WITH DOUBLE GRAVE|SMALL LETTER A WITH DOUBLE GRAVE",
    "202 LATIN |CAPITAL LETTER A WITH INVERTED BREVE|SMALL LETTER A WITH INVERTED BREVE",
    "204 LATIN |CAPITAL LETTER E WITH DOUBLE GRAVE|SMALL LETTER E WITH DOUBLE GRAVE",
    "206 LATIN |CAPITAL LETTER E WITH INVERTED BREVE|SMALL LETTER E WITH INVERTED BREVE",
    "208 LATIN |CAPITAL LETTER I WITH DOUBLE GRAVE|SMALL LETTER I WITH DOUBLE GRAVE",
    "20a LATIN |CAPITAL LETTER I WITH INVERTED BREVE|SMALL LETTER I WITH INVERTED BREVE",
    "20c LATIN |CAPITAL LETTER O WITH DOUBLE GRAVE|SMALL LETTER O WITH DOUBLE GRAVE",
    "20e LATIN |CAPITAL LETTER O WITH INVERTED BREVE|SMALL LETTER O WITH INVERTED BREVE",
    "210 LATIN |CAPITAL LETTER R WITH DOUBLE GRAVE|SMALL LETTER R WITH DOUBLE GRAVE",
    "212 LATIN |CAPITAL LETTER R WITH INVERTED BREVE|SMALL LETTER R WITH INVERTED BREVE",
    "214 LATIN |CAPITAL LETTER U WITH DOUBLE GRAVE|SMALL LETTER U WITH DOUBLE GRAVE",
    "216 LATIN |CAPITAL LETTER U WITH INVERTED BREVE|SMALL LETTER U WITH INVERTED BREVE",
    "218 LATIN |CAPITAL LETTER S WITH COMMA BELOW|SMALL LETTER S WITH COMMA BELOW",
    "21a LATIN |CAPITAL LETTER T WITH COMMA BELOW|SMALL LETTER T WITH COMMA BELOW",
    "21c LATIN |CAPITAL LETTER YOGH|SMALL LETTER YOGH|CAPITAL LETTER H WITH CARON",
    "21f LATIN |SMALL LETTER H WITH CARON|CAPITAL LETTER N WITH LONG RIGHT LEG|SMALL LETTER D WITH CURL",
    "222 LATIN |CAPITAL LETTER OU|SMALL LETTER OU|CAPITAL LETTER Z WITH HOOK|SMALL LETTER Z WITH HOOK",
    "226 LATIN |CAPITAL LETTER A WITH DOT ABOVE|SMALL LETTER A WITH DOT ABOVE|CAPITAL LETTER E WITH CEDILLA",
    "229 LATIN |SMALL LETTER E WITH CEDILLA|CAPITAL LETTER O WITH DIAERESIS AND MACRON",
    "22b LATIN |SMALL LETTER O WITH DIAERESIS AND MACRON|CAPITAL LETTER O WITH TILDE AND MACRON",
    "22d LATIN |SMALL LETTER O WITH TILDE AND MACRON|CAPITAL LETTER O WITH DOT ABOVE",
    "22f LATIN |SMALL LETTER O WITH DOT ABOVE|CAPITAL LETTER O WITH DOT ABOVE AND MACRON",
    "231 LATIN |SMALL LETTER O WITH DOT ABOVE AND MACRON|CAPITAL LETTER Y WITH MACRON",
    "233 LATIN SMALL LETTER |Y WITH MACRON|L WITH CURL|N WITH CURL|T WITH CURL|DOTLESS J|DB DIGRAPH|QP DIGRAPH",
    "23a LATIN CAPITAL LETTER |A WITH STROKE|C WITH STROKE;23c LATIN SMALL LETTER C WITH |STROKE",
    "23d LATIN CAPITAL LETTER |L WITH BAR|T WITH DIAGONAL STROKE",
    "23f LATIN SMALL LETTER |S WITH SWASH TAIL|Z WITH SWASH TAIL",
    "241 LATIN |CAPITAL LETTER GLOTTAL STOP|SMALL LETTER GLOTTAL STOP",
    "243 LATIN CAPITAL LETTER |B WITH STROKE|U BAR|TURNED V|E WITH STROKE",
    "247 LATIN |SMALL LETTER E WITH STROKE|CAPITAL LETTER J WITH STROKE",
    "249 LATIN |SMALL LETTER J WITH STROKE|CAPITAL LETTER SMALL Q WITH HOOK TAIL|SMALL LETTER Q WITH HOOK TAIL",
    "24c LATIN |CAPITAL LETTER R WITH STROKE|SMALL LETTER R WITH STROKE|CAPITAL LETTER Y WITH STROKE",
    "24f LATIN SMALL LETTER |Y WITH STROKE|TURNED A|ALPHA|TURNED ALPHA|B WITH HOOK|OPEN O",
    "255 LATIN SMALL LETTER |C WITH CURL|D WITH TAIL|D WITH HOOK|REVERSED E|SCHWA|SCHWA WITH HOOK|OPEN E",
    "25c LATIN SMALL LETTER REVERSED OPEN |E|E WITH HOOK",
    "25e LATIN SMALL LETTER |CLOSED REVERSED OPEN E|DOTLESS J WITH STROKE|G WITH HOOK|SCRIPT G",
    "262 LATIN LETTER SMALL CAPITAL |G",
    "263 LATIN SMALL LETTER |GAMMA|RAMS HORN|TURNED H|H WITH HOOK|HENG WITH HOOK|I WITH STROKE|IOTA",
    "26a LATIN LETTER SMALL CAPITAL |I",
    "26b LATIN SMALL LETTER |L WITH MIDDLE TILDE|L WITH BELT|L WITH RETROFLEX HOOK|LEZH|TURNED M",
    "270 LATIN SMALL LETTER |TURNED M WITH LONG LEG|M WITH HOOK|N WITH LEFT HOOK|N WITH RETROFLEX HOOK",
    "274 LATIN |LETTER SMALL CAPITAL N|SMALL LETTER BARRED O|LETTER SMALL CAPITAL OE",
    "277 LATIN SMALL LETTER |CLOSED OMEGA|PHI|TURNED R|TURNED R WITH LONG LEG|TURNED R WITH HOOK",
    "27c LATIN SMALL LETTER |R WITH LONG LEG|R WITH TAIL|R WITH FISHHOOK|REVERSED R WITH FISHHOOK",
    "280 LATIN LETTER SMALL CAPITAL |R|INVERTED R",
    "282 LATIN SMALL LETTER |S WITH HOOK|ESH|DOTLESS J WITH STROKE AND HOOK|SQUAT REVERSED ESH",
    "286 LATIN SMALL LETTER |ESH WITH CURL|TURNED T|T WITH RETROFLEX HOOK|U BAR|UPSILON|V WITH HOOK",
    "28c LATIN SMALL LETTER TURNED |V|W|Y;28f LATIN LETTER SMALL CAPITAL |Y",
    "290 LATIN SMALL LETTER |Z WITH RETROFLEX HOOK|Z WITH CURL|EZH|EZH WITH CURL",
    "294 LATIN LETTER |GLOTTAL STOP|PHARYNGEAL VOICED FRICATIVE|INVERTED GLOTTAL STOP|STRETCHED C",
    "298 LATIN |LETTER BILABIAL CLICK|LETTER SMALL CAPITAL B|SMALL LETTER CLOSED OPEN E",
    "29b LATIN LETTER SMALL CAPITAL |G WITH HOOK|H;29d LATIN SMALL LETTER |J WITH CROSSED-TAIL|TURNED K",
    "29f LATIN |LETTER SMALL CAPITAL L|SMALL LETTER Q WITH HOOK",
    "2a1 LATIN LETTER |GLOTTAL STOP WITH STROKE|REVERSED GLOTTAL STOP WITH STROKE",
    "2a3 LATIN SMALL LETTER |DZ DIGRAPH|DEZH DIGRAPH|DZ DIGRAPH WITH CURL",
    "2a6 LATIN SMALL LETTER |TS DIGRAPH|TESH DIGRAPH|TC DIGRAPH WITH CURL|FENG DIGRAPH|LS DIGRAPH|LZ DIGRAPH",
    "2ac LATIN LETTER |BILABIAL PERCUSSIVE|BIDENTAL PERCUSSIVE",
    "2ae LATIN SMALL LETTER TURNED H WITH |FISHHOOK|FISHHOOK AND TAIL",
    "2b0 MODIFIER LETTER SMALL |H|H WITH HOOK|J|R|TURNED R|TURNED R WITH HOOK|CAPITAL INVERTED R|W|Y",
    "2b9 MODIFIER LETTER |PRIME|DOUBLE PRIME|TURNED COMMA|APOSTROPHE",
    "2bd MODIFIER LETTER |REVERSED COMMA|RIGHT HALF RING|LEFT HALF RING|GLOTTAL STOP|REVERSED GLOTTAL STOP",
    "2c2 MODIFIER LETTER |LEFT ARROWHEAD|RIGHT ARROWHEAD|UP ARROWHEAD|DOWN ARROWHEAD|CIRCUMFLEX ACCENT;2c7 |CARON",
    "2c8 MODIFIER LETTER |VERTICAL LINE|MACRON|ACUTE ACCENT|GRAVE ACCENT",
    "2cc MODIFIER LETTER LOW |VERTICAL LINE|MACRON|GRAVE ACCENT|ACUTE ACCENT",
    "2d0 MODIFIER LETTER |TRIANGULAR COLON|HALF TRIANGULAR COLON|CENTRED RIGHT HALF RING",
    "2d3 MODIFIER LETTER |CENTRED LEFT HALF RING|UP TACK|DOWN TACK|PLUS SIGN|MINUS SIGN",
    "2d8 |BREVE|DOT ABOVE|RING ABOVE|OGONEK|SMALL TILDE|DOUBLE ACUTE ACCENT",
    "2de MODIFIER LETTER |RHOTIC HOOK|CROSS ACCENT;2e0 MODIFIER LETTER SMALL |GAMMA|L|S|X|REVERSED GLOTTAL STOP",
    "2e5 MODIFIER LETTER EXTRA-HIGH TONE |BAR",
    "2e6 MODIFIER LETTER |HIGH TONE BAR|MID TONE BAR|LOW TONE BAR|EXTRA-LOW TONE BAR|YIN DEPARTING TONE MARK",
    "2eb MODIFIER LETTER |YANG DEPARTING TONE MARK|VOICING|UNASPIRATED|DOUBLE APOSTROPHE",
    "2ef MODIFIER LETTER LOW |DOWN ARROWHEAD|UP ARROWHEAD|LEFT ARROWHEAD|RIGHT ARROWHEAD|RING",
    "2f4 MODIFIER LETTER MIDDLE |GRAVE ACCENT|DOUBLE GRAVE ACCENT|DOUBLE ACUTE ACCENT",
    "2f7 MODIFIER LETTER |LOW TILDE|RAISED COLON|BEGIN HIGH TONE",
    "2fa MODIFIER LETTER |END HIGH TONE|BEGIN LOW TONE|END LOW TONE|SHELF|OPEN SHELF|LOW LEFT ARROW",
    "300 COMBINING |GRAVE ACCENT|ACUTE ACCENT|CIRCUMFLEX ACCENT|TILDE|MACRON|OVERLINE|BREVE",
    "307 COMBINING |DOT ABOVE|DIAERESIS|HOOK ABOVE|RING ABOVE|DOUBLE ACUTE ACCENT|CARON|VERTICAL LINE ABOVE",
    "30e COMBINING DOUBLE |VERTICAL LINE ABOVE|GRAVE ACCENT",
    "310 COMBINING |CANDRABINDU|INVERTED BREVE|TURNED COMMA ABOVE|COMMA ABOVE|REVERSED COMMA ABOVE",
    "315 COMBINING |COMMA ABOVE RIGHT|GRAVE ACCENT BELOW|ACUTE ACCENT BELOW|LEFT TACK BELOW",
    "319 COMBINING |RIGHT TACK BELOW|LEFT ANGLE ABOVE|HORN|LEFT HALF RING BELOW|UP TACK BELOW|DOWN TACK BELOW",
    "31f COMBINING |PLUS SIGN BELOW|MINUS SIGN BELOW|PALATALIZED HOOK BELOW|RETROFLEX HOOK BELOW",
    "323 COMBINING |DOT BELOW|DIAERESIS BELOW|RING BELOW|COMMA BELOW|CEDILLA|OGONEK|VERTICAL LINE BELOW",
    "32a COMBINING |BRIDGE BELOW|INVERTED DOUBLE ARCH BELOW|CARON BELOW|CIRCUMFLEX ACCENT BELOW",
    "32e COMBINING |BREVE BELOW|INVERTED BREVE BELOW|TILDE BELOW|MACRON BELOW|LOW LINE|DOUBLE LOW LINE",
    "334 COMBINING |TILDE OVERLAY|SHORT STROKE OVERLAY|LONG STROKE OVERLAY|SHORT SOLIDUS OVERLAY",
    "338 COMBINING |LONG SOLIDUS OVERLAY|RIGHT HALF RING BELOW|INVERTED BRIDGE BELOW|SQUARE BELOW",
    "33c COMBINING |SEAGULL BELOW|X ABOVE|VERTICAL TILDE|DOUBLE OVERLINE|GRAVE TONE MARK|ACUTE TONE MARK",
    "342 COMBINING GREEK |PERISPOMENI|KORONIS|DIALYTIKA TONOS|YPOGEGRAMMENI",
    "346 COMBINING |BRIDGE ABOVE|EQUALS SIGN BELOW",
    "348 COMBINING |DOUBLE VERTICAL LINE BELOW|LEFT ANGLE BELOW|NOT TILDE ABOVE|HOMOTHETIC ABOVE",
    "34c COMBINING |ALMOST EQUAL TO ABOVE|LEFT RIGHT ARROW BELOW|UPWARDS ARROW BELOW|GRAPHEME JOINER",
    "350 COMBINING |RIGHT ARROWHEAD ABOVE|LEFT HALF RING ABOVE|FERMATA|X BELOW|LEFT ARROWHEAD BELOW",
    "355 COMBINING RIGHT ARROWHEAD |BELOW|AND UP ARROWHEAD BELOW",
    "357 COMBINING |RIGHT HALF RING ABOVE|DOT ABOVE RIGHT|ASTERISK BELOW|DOUBLE RING BELOW|ZIGZAG ABOVE",
    "35c COMBINING DOUBLE |BREVE BELOW|BREVE|MACRON|MACRON BELOW|TILDE|INVERTED BREVE|RIGHTWARDS ARROW BELOW",
    "363 COMBINING LATIN SMALL LETTER |A|E|I|O|U|C|D|H|M|R|T|V|X;370 GREEK CAPITAL LETTER |HETA",
    "371 GREEK |SMALL LETTER HETA|CAPITAL LETTER ARCHAIC SAMPI|SMALL LETTER ARCHAIC SAMPI|NUMERAL SIGN",
    "375 GREEK |LOWER NUMERAL SIGN|CAPITAL LETTER PAMPHYLIAN DIGAMMA|SMALL LETTER PAMPHYLIAN DIGAMMA",
    "37a GREEK |YPOGEGRAMMENI|SMALL REVERSED LUNATE SIGMA SYMBOL|SMALL DOTTED LUNATE SIGMA SYMBOL",
    "37d GREEK |SMALL REVERSED DOTTED LUNATE SIGMA SYMBOL|QUESTION MARK|CAPITAL LETTER YOT",
    "384 GREEK |TONOS|DIALYTIKA TONOS|CAPITAL LETTER ALPHA WITH TONOS|ANO TELEIA",
    "388 GREEK CAPITAL LETTER |EPSILON WITH TONOS|ETA WITH TONOS|IOTA WITH TONOS",
    "38c GREEK CAPITAL LETTER OMICRON WITH |TONOS;38e GREEK CAPITAL LETTER |UPSILON WITH TONOS|OMEGA WITH TONOS",
    "390 GREEK SMALL LETTER IOTA WITH DIALYTIKA AND |TONOS;391 GREEK CAPITAL LETTER |ALPHA|BETA",
    "393 GREEK CAPITAL LETTER |GAMMA|DELTA|EPSILON|ZETA|ETA|THETA|IOTA|KAPPA|LAMDA|MU|NU|XI|OMICRON|PI|RHO",
    "3a3 GREEK CAPITAL LETTER |SIGMA|TAU|UPSILON|PHI|CHI|PSI|OMEGA|IOTA WITH DIALYTIKA|UPSILON WITH DIALYTIKA",
    "3ac GREEK SMALL LETTER |ALPHA WITH TONOS|EPSILON WITH TONOS",
    "3ae GREEK SMALL LETTER |ETA WITH TONOS|IOTA WITH TONOS|UPSILON WITH DIALYTIKA AND TONOS",
    "3b1 GREEK SMALL LETTER |ALPHA|BETA|GAMMA|DELTA|EPSILON|ZETA|ETA|THETA|IOTA|KAPPA|LAMDA|MU|NU|XI|OMICRON",
    "3c0 GREEK SMALL LETTER |PI|RHO|FINAL SIGMA|SIGMA|TAU|UPSILON|PHI|CHI|PSI|OMEGA|IOTA WITH DIALYTIKA",
    "3cb GREEK SMALL LETTER |UPSILON WITH DIALYTIKA|OMICRON WITH TONOS|UPSILON WITH TONOS|OMEGA WITH TONOS",
    "3cf GREEK |CAPITAL KAI SYMBOL|BETA SYMBOL|THETA SYMBOL",
    "3d2 GREEK UPSILON WITH |HOOK SYMBOL|ACUTE AND HOOK SYMBOL|DIAERESIS AND HOOK SYMBOL",
    "3d5 GREEK |PHI SYMBOL|PI SYMBOL|KAI SYMBOL|LETTER ARCHAIC KOPPA",
    "3d9 GREEK |SMALL LETTER ARCHAIC KOPPA|LETTER STIGMA|SMALL LETTER STIGMA|LETTER DIGAMMA",
    "3dd GREEK |SMALL LETTER DIGAMMA|LETTER KOPPA|SMALL LETTER KOPPA|LETTER SAMPI|SMALL LETTER SAMPI",
    "3e2 COPTIC CAPITAL LETTER |SHEI",
    "3e3 COPTIC |SMALL LETTER SHEI|CAPITAL LETTER FEI|SMALL LETTER FEI|CAPITAL LETTER KHEI|SMALL LETTER KHEI",
    "3e8 COPTIC |CAPITAL LETTER HORI|SMALL LETTER HORI|CAPITAL LETTER GANGIA|SMALL LETTER GANGIA",
    "3ec COPTIC |CAPITAL LETTER SHIMA|SMALL LETTER SHIMA|CAPITAL LETTER DEI|SMALL LETTER DEI",
    "3f0 GREEK |KAPPA SYMBOL|RHO SYMBOL|LUNATE SIGMA SYMBOL|LETTER YOT|CAPITAL THETA SYMBOL",
    "3f5 GREEK |LUNATE EPSILON SYMBOL|REVERSED LUNATE EPSILON SYMBOL|CAPITAL LETTER SHO|SMALL LETTER SHO",
    "3f9 GREEK CAPITAL |LUNATE SIGMA SYMBOL|LETTER SAN",
    "3fb GREEK |SMALL LETTER SAN|RHO WITH STROKE SYMBOL|CAPITAL REVERSED LUNATE SIGMA SYMBOL",
    "3fe GREEK CAPITAL |DOTTED LUNATE SIGMA SYMBOL|REVERSED DOTTED LUNATE SIGMA SYMBOL",
    "400 CYRILLIC CAPITAL LETTER IE WITH |GRAVE",
    "401 CYRILLIC CAPITAL LETTER |IO|DJE|GJE|UKRAINIAN IE|DZE|BYELORUSSIAN-UKRAINIAN I|YI|JE|LJE|NJE|TSHE",
    "40c CYRILLIC CAPITAL LETTER |KJE|I WITH GRAVE|SHORT U|DZHE|A|BE|VE|GHE|DE|IE|ZHE|ZE|I|SHORT I|KA|EL|EM",
    "41d CYRILLIC CAPITAL LETTER |EN|O|PE|ER|ES|TE|U|EF|HA|TSE|CHE|SHA|SHCHA|HARD SIGN|YERU|SOFT SIGN|E|YU|YA",
    "430 CYRILLIC SMALL LETTER |A|BE|VE|GHE|DE|IE|ZHE|ZE|I|SHORT I|KA|EL|EM|EN|O|PE|ER|ES|TE|U|EF",
    "445 CYRILLIC SMALL LETTER |HA|TSE|CHE|SHA|SHCHA|HARD SIGN|YERU|SOFT SIGN|E|YU|YA|IE WITH GRAVE|IO|DJE|GJE",
    "454 CYRILLIC SMALL LETTER |UKRAINIAN IE|DZE|BYELORUSSIAN-UKRAINIAN I|YI|JE|LJE|NJE|TSHE|KJE|I WITH GRAVE",
    "45e CYRILLIC |SMALL LETTER SHORT U|SMALL LETTER DZHE|CAPITAL LETTER OMEGA|SMALL LETTER OMEGA",
    "462 CYRILLIC |CAPITAL LETTER YAT|SMALL LETTER YAT|CAPITAL LETTER IOTIFIED E|SMALL LETTER IOTIFIED E",
    "466 CYRILLIC |CAPITAL LETTER LITTLE YUS|SMALL LETTER LITTLE YUS|CAPITAL LETTER IOTIFIED LITTLE YUS",
    "469 CYRILLIC |SMALL LETTER IOTIFIED LITTLE YUS|CAPITAL LETTER BIG YUS|SMALL LETTER BIG YUS",
    "46c CYRILLIC |CAPITAL LETTER IOTIFIED BIG YUS|SMALL LETTER IOTIFIED BIG YUS|CAPITAL LETTER KSI",
    "46f CYRILLIC |SMALL LETTER KSI|CAPITAL LETTER PSI|SMALL LETTER PSI|CAPITAL LETTER FITA|SMALL LETTER FITA",
    "474 CYRILLIC |CAPITAL LETTER IZHITSA|SMALL LETTER IZHITSA|CAPITAL LETTER IZHITSA WITH DOUBLE GRAVE ACCENT",
    "477 CYRILLIC SMALL LETTER IZHITSA WITH DOUBLE GRAVE |ACCENT",
    "478 CYRILLIC |CAPITAL LETTER UK|SMALL LETTER UK|CAPITAL LETTER ROUND OMEGA",
    "47b CYRILLIC |SMALL LETTER ROUND OMEGA|CAPITAL LETTER OMEGA WITH TITLO|SMALL LETTER OMEGA WITH TITLO",
    "47e CYRILLIC |CAPITAL LETTER OT|SMALL LETTER OT|CAPITAL LETTER KOPPA|SMALL LETTER KOPPA|THOUSANDS SIGN",
    "483 COMBINING CYRILLIC |TITLO|PALATALIZATION",
    "485 COMBINING CYRILLIC |DASIA PNEUMATA|PSILI PNEUMATA|POKRYTIE|HUNDRED THOUSANDS SIGN|MILLIONS SIGN",
    "48a CYRILLIC CAPITAL LETTER SHORT I WITH |TAIL",
    "48b CYRILLIC |SMALL LETTER SHORT I WITH TAIL|CAPITAL LETTER SEMISOFT SIGN",
    "48d CYRILLIC |SMALL LETTER SEMISOFT SIGN|CAPITAL LETTER ER WITH TICK|SMALL LETTER ER WITH TICK",
    "490 CYRILLIC |CAPITAL LETTER GHE WITH UPTURN|SMALL LETTER GHE WITH UPTURN|CAPITAL LETTER GHE WITH STROKE",
    "493 CYRILLIC |SMALL LETTER GHE WITH STROKE|CAPITAL LETTER GHE WITH MIDDLE HOOK",
    "495 CYRILLIC |SMALL LETTER GHE WITH MIDDLE HOOK|CAPITAL LETTER ZHE WITH DESCENDER",
    "497 CYRILLIC |SMALL LETTER ZHE WITH DESCENDER|CAPITAL LETTER ZE WITH DESCENDER",
    "499 CYRILLIC |SMALL LETTER ZE WITH DESCENDER|CAPITAL LETTER KA WITH DESCENDER",
    "49b CYRILLIC |SMALL LETTER KA WITH DESCENDER|CAPITAL LETTER KA WITH VERTICAL STROKE",
    "49d CYRILLIC |SMALL LETTER KA WITH VERTICAL STROKE|CAPITAL LETTER KA WITH STROKE",
    "49f CYRILLIC |SMALL LETTER KA WITH STROKE|CAPITAL LETTER BASHKIR KA|SMALL LETTER BASHKIR KA",
    "4a2 CYRILLIC |CAPITAL LETTER EN WITH DESCENDER|SMALL LETTER EN WITH DESCENDER|CAPITAL LIGATURE EN GHE",
    "4a5 CYRILLIC |SMALL LIGATURE EN GHE|CAPITAL LETTER PE WITH MIDDLE HOOK|SMALL LETTER PE WITH MIDDLE HOOK",
    "4a8 CYRILLIC |CAPITAL LETTER ABKHASIAN HA|SMALL LETTER ABKHASIAN HA|CAPITAL LETTER ES WITH DESCENDER",
    "4ab CYRILLIC |SMALL LETTER ES WITH DESCENDER|CAPITAL LETTER TE WITH DESCENDER",
    "4ad CYRILLIC |SMALL LETTER TE WITH DESCENDER|CAPITAL LETTER STRAIGHT U|SMALL LETTER STRAIGHT U",
    "4b0 CYRILLIC |CAPITAL LETTER STRAIGHT U WITH STROKE|SMALL LETTER STRAIGHT U WITH STROKE",
    "4b2 CYRILLIC |CAPITAL LETTER HA WITH DESCENDER|SMALL LETTER HA WITH DESCENDER|CAPITAL LIGATURE TE TSE",
    "4b5 CYRILLIC |SMALL LIGATURE TE TSE|CAPITAL LETTER CHE WITH DESCENDER|SMALL LETTER CHE WITH DESCENDER",
    "4b8 CYRILLIC |CAPITAL LETTER CHE WITH VERTICAL STROKE|SMALL LETTER CHE WITH VERTICAL STROKE",
    "4ba CYRILLIC |CAPITAL LETTER SHHA|SMALL LETTER SHHA|CAPITAL LETTER ABKHASIAN CHE",
    "4bd CYRILLIC |SMALL LETTER ABKHASIAN CHE|CAPITAL LETTER ABKHASIAN CHE WITH DESCENDER",
    "4bf CYRILLIC |SMALL LETTER ABKHASIAN CHE WITH DESCENDER|LETTER PALOCHKA|CAPITAL LETTER ZHE WITH BREVE",
    "4c2 CYRILLIC |SMALL LETTER ZHE WITH BREVE|CAPITAL LETTER KA WITH HOOK|SMALL LETTER KA WITH HOOK",
    "4c5 CYRILLIC |CAPITAL LETTER EL WITH TAIL|SMALL LETTER EL WITH TAIL|CAPITAL LETTER EN WITH HOOK",
    "4c8 CYRILLIC |SMALL LETTER EN WITH HOOK|CAPITAL LETTER EN WITH TAIL|SMALL LETTER EN WITH TAIL",
    "4cb CYRILLIC |CAPITAL LETTER KHAKASSIAN CHE|SMALL LETTER KHAKASSIAN CHE|CAPITAL LETTER EM WITH TAIL",
    "4ce CYRILLIC SMALL LETTER |EM WITH TAIL|PALOCHKA",
    "4d0 CYRILLIC |CAPITAL LETTER A WITH BREVE|SMALL LETTER A WITH BREVE",
    "4d2 CYRILLIC |CAPITAL LETTER A WITH DIAERESIS|SMALL LETTER A WITH DIAERESIS|CAPITAL LIGATURE A IE",
    "4d5 CYRILLIC |SMALL LIGATURE A IE|CAPITAL LETTER IE WITH BREVE|SMALL LETTER IE WITH BREVE",
    "4d8 CYRILLIC |CAPITAL LETTER SCHWA|SMALL LETTER SCHWA|CAPITAL LETTER SCHWA WITH DIAERESIS",
    "4db CYRILLIC |SMALL LETTER SCHWA WITH DIAERESIS|CAPITAL LETTER ZHE WITH DIAERESIS",
    "4dd CYRILLIC |SMALL LETTER ZHE WITH DIAERESIS|CAPITAL LETTER ZE WITH DIAERESIS",
    "4df CYRILLIC |SMALL LETTER ZE WITH DIAERESIS|CAPITAL LETTER ABKHASIAN DZE|SMALL LETTER ABKHASIAN DZE",
    "4e2 CYRILLIC |CAPITAL LETTER I WITH MACRON|SMALL LETTER I WITH MACRON|CAPITAL LETTER I WITH DIAERESIS",
    "4e5 CYRILLIC |SMALL LETTER I WITH DIAERESIS|CAPITAL LETTER O WITH DIAERESIS",
    "4e7 CYRILLIC |SMALL LETTER O WITH DIAERESIS|CAPITAL LETTER BARRED O|SMALL LETTER BARRED O",
    "4ea CYRILLIC |CAPITAL LETTER BARRED O WITH DIAERESIS|SMALL LETTER BARRED O WITH DIAERESIS",
    "4ec CYRILLIC |CAPITAL LETTER E WITH DIAERESIS|SMALL LETTER E WITH DIAERESIS",
    "4ee CYRILLIC |CAPITAL LETTER U WITH MACRON|SMALL LETTER U WITH MACRON|CAPITAL LETTER U WITH DIAERESIS",
    "4f1 CYRILLIC |SMALL LETTER U WITH DIAERESIS|CAPITAL LETTER U WITH DOUBLE ACUTE",
    "4f3 CYRILLIC |SMALL LETTER U WITH DOUBLE ACUTE|CAPITAL LETTER CHE WITH DIAERESIS",
    "4f5 CYRILLIC |SMALL LETTER CHE WITH DIAERESIS|CAPITAL LETTER GHE WITH DESCENDER",
    "4f7 CYRILLIC |SMALL LETTER GHE WITH DESCENDER|CAPITAL LETTER YERU WITH DIAERESIS",
    "4f9 CYRILLIC |SMALL LETTER YERU WITH DIAERESIS|CAPITAL LETTER GHE WITH STROKE AND HOOK",
    "4fb CYRILLIC |SMALL LETTER GHE WITH STROKE AND HOOK|CAPITAL LETTER HA WITH HOOK",
    "4fd CYRILLIC |SMALL LETTER HA WITH HOOK|CAPITAL LETTER HA WITH STROKE|SMALL LETTER HA WITH STROKE",
    "500 CYRILLIC |CAPITAL LETTER KOMI DE|SMALL LETTER KOMI DE|CAPITAL LETTER KOMI DJE|SMALL LETTER KOMI DJE",
    "504 CYRILLIC |CAPITAL LETTER KOMI ZJE|SMALL LETTER KOMI ZJE|CAPITAL LETTER KOMI DZJE",
    "507 CYRILLIC |SMALL LETTER KOMI DZJE|CAPITAL LETTER KOMI LJE|SMALL LETTER KOMI LJE",
    "50a CYRILLIC |CAPITAL LETTER KOMI NJE|SMALL LETTER KOMI NJE|CAPITAL LETTER KOMI SJE|SMALL LETTER KOMI SJE",
    "50e CYRILLIC |CAPITAL LETTER KOMI TJE|SMALL LETTER KOMI TJE|CAPITAL LETTER REVERSED ZE",
    "511 CYRILLIC |SMALL LETTER REVERSED ZE|CAPITAL LETTER EL WITH HOOK|SMALL LETTER EL WITH HOOK",
    "514 CYRILLIC |CAPITAL LETTER LHA|SMALL LETTER LHA|CAPITAL LETTER RHA|SMALL LETTER RHA|CAPITAL LETTER YAE",
    "519 CYRILLIC |SMALL LETTER YAE|CAPITAL LETTER QA|SMALL LETTER QA|CAPITAL LETTER WE|SMALL LETTER WE",
    "51e CYRILLIC |CAPITAL LETTER ALEUT KA|SMALL LETTER ALEUT KA|CAPITAL LETTER EL WITH MIDDLE HOOK",
    "521 CYRILLIC |SMALL LETTER EL WITH MIDDLE HOOK|CAPITAL LETTER EN WITH MIDDLE HOOK",
    "523 CYRILLIC |SMALL LETTER EN WITH MIDDLE HOOK|CAPITAL LETTER PE WITH DESCENDER",
    "525 CYRILLIC |SMALL LETTER PE WITH DESCENDER|CAPITAL LETTER SHHA WITH DESCENDER",
    "527 CYRILLIC |SMALL LETTER SHHA WITH DESCENDER|CAPITAL LETTER EN WITH LEFT HOOK",
    "529 CYRILLIC |SMALL LETTER EN WITH LEFT HOOK|CAPITAL LETTER DZZHE|SMALL LETTER DZZHE|CAPITAL LETTER DCHE",
    "52d CYRILLIC |SMALL LETTER DCHE|CAPITAL LETTER EL WITH DESCENDER|SMALL LETTER EL WITH DESCENDER",
    "531 ARMENIAN CAPITAL LETTER |AYB|BEN|GIM|DA|ECH|ZA|EH|ET|TO|ZHE|INI|LIWN|XEH|CA|KEN|HO|JA|GHAD|CHEH",
    "544 ARMENIAN CAPITAL LETTER |MEN|YI|NOW|SHA|VO|CHA|PEH|JHEH|RA|SEH|VEW|TIWN|REH|CO|YIWN|PIWR|KEH|OH|FEH",
    "559 ARMENIAN MODIFIER LETTER LEFT HALF |RING",
    "55a ARMENIAN |APOSTROPHE|EMPHASIS MARK|EXCLAMATION MARK|COMMA|QUESTION MARK|ABBREVIATION MARK",
    "560 ARMENIAN SMALL LETTER |TURNED AYB|AYB|BEN|GIM|DA|ECH|ZA|EH|ET|TO|ZHE|INI|LIWN|XEH|CA|KEN|HO|JA|GHAD",
    "573 ARMENIAN SMALL LETTER |CHEH|MEN|YI|NOW|SHA|VO|CHA|PEH|JHEH|RA|SEH|VEW|TIWN|REH|CO|YIWN|PIWR|KEH|OH",
    "586 ARMENIAN |SMALL LETTER FEH|SMALL LIGATURE ECH YIWN|SMALL LETTER YI WITH STROKE|FULL STOP|HYPHEN",
    "58d |RIGHT-FACING ARMENIAN ETERNITY SIGN|LEFT-FACING ARMENIAN ETERNITY SIGN|ARMENIAN DRAM SIGN",
    "591 HEBREW ACCENT |ETNAHTA|SEGOL|SHALSHELET|ZAQEF QATAN|ZAQEF GADOL|TIPEHA|REVIA|ZARQA|PASHTA|YETIV|TEVIR",
    "59c HEBREW ACCENT |GERESH|GERESH MUQDAM|GERSHAYIM|QARNEY PARA|TELISHA GEDOLA|PAZER|ATNAH HAFUKH|MUNAH",
    "5a4 HEBREW ACCENT |MAHAPAKH|MERKHA|MERKHA KEFULA|DARGA|QADMA|TELISHA QETANA|YERAH BEN YOMO|OLE|ILUY|DEHI",
    "5ae HEBREW |ACCENT ZINOR|MARK MASORA CIRCLE|POINT SHEVA;5b1 HEBREW POINT HATAF |SEGOL|PATAH|QAMATS",
    "5b4 HEBREW POINT |HIRIQ|TSERE|SEGOL|PATAH|QAMATS|HOLAM|HOLAM HASER FOR VAV|QUBUTS|DAGESH OR MAPIQ|METEG",
    "5be HEBREW PUNCTUATION |MAQAF",
    "5bf HEBREW |POINT RAFE|PUNCTUATION PASEQ|POINT SHIN DOT|POINT SIN DOT|PUNCTUATION SOF PASUQ",
    "5c4 HEBREW |MARK UPPER DOT|MARK LOWER DOT|PUNCTUATION NUN HAFUKHA|POINT QAMATS QATAN",
    "5d0 HEBREW LETTER |ALEF|BET|GIMEL|DALET|HE|VAV|ZAYIN|HET|TET|YOD|FINAL KAF|KAF|LAMED|FINAL MEM",
    "5de HEBREW LETTER |MEM|FINAL NUN|NUN|SAMEKH|AYIN|FINAL PE|PE|FINAL TSADI|TSADI|QOF|RESH|SHIN|TAV",
    "5ef HEBREW YOD |TRIANGLE;5f0 HEBREW LIGATURE YIDDISH |DOUBLE VAV|VAV YOD|DOUBLE YOD",
    "5f3 HEBREW PUNCTUATION |GERESH|GERSHAYIM",
    "600 ARABIC |NUMBER SIGN|SIGN SANAH|FOOTNOTE MARKER|SIGN SAFHA|SIGN SAMVAT|NUMBER MARK ABOVE",
    "606 ARABIC-INDIC |CUBE ROOT|FOURTH ROOT;608 ARABIC |RAY;609 ARABIC-INDIC PER |MILLE SIGN|TEN THOUSAND SIGN",
    "60b AFGHANI |SIGN",
    "60c ARABIC |COMMA|DATE SEPARATOR|POETIC VERSE SIGN|SIGN MISRA|SIGN SALLALLAHOU ALAYHE WASSALLAM",
    "611 ARABIC SIGN |ALAYHE ASSALLAM|RAHMATULLAH ALAYHE|RADI ALLAHOU ANHU|TAKHALLUS",
    "615 ARABIC SMALL |HIGH TAH|HIGH LIGATURE ALEF WITH LAM WITH YEH|HIGH ZAIN|FATHA|DAMMA|KASRA",
    "61b ARABIC |SEMICOLON|LETTER MARK|END OF TEXT MARK|TRIPLE DOT PUNCTUATION MARK|QUESTION MARK",
    "620 ARABIC LETTER |KASHMIRI YEH|HAMZA|ALEF WITH MADDA ABOVE|ALEF WITH HAMZA ABOVE",
    "624 ARABIC LETTER |WAW WITH HAMZA ABOVE|ALEF WITH HAMZA BELOW|YEH WITH HAMZA ABOVE|ALEF|BEH|TEH MARBUTA",
    "62a ARABIC LETTER |TEH|THEH|JEEM|HAH|KHAH|DAL|THAL|REH|ZAIN|SEEN|SHEEN|SAD|DAD|TAH|ZAH|AIN|GHAIN",
    "63b ARABIC LETTER KEHEH WITH |TWO DOTS ABOVE|THREE DOTS BELOW",
    "63d ARABIC LETTER FARSI YEH WITH |INVERTED V|TWO DOTS ABOVE|THREE DOTS ABOVE;640 ARABIC |TATWEEL",
    "641 ARABIC LETTER |FEH|QAF|KAF|LAM|MEEM|NOON|HEH|WAW|ALEF MAKSURA|YEH",
    "64b ARABIC |FATHATAN|DAMMATAN|KASRATAN|FATHA|DAMMA|KASRA|SHADDA|SUKUN",
    "653 ARABIC |MADDAH ABOVE|HAMZA ABOVE|HAMZA BELOW|SUBSCRIPT ALEF|INVERTED DAMMA|MARK NOON GHUNNA|ZWARAKAY",
    "65a ARABIC VOWEL SIGN |SMALL V ABOVE|INVERTED SMALL V ABOVE|DOT BELOW",
    "65d ARABIC |REVERSED DAMMA|FATHA WITH TWO DOTS|WAVY HAMZA BELOW",
    "660 ARABIC-INDIC DIGIT |ZERO|ONE|TWO|THREE|FOUR|FIVE|SIX|SEVEN|EIGHT|NINE",
    "66a ARABIC |PERCENT SIGN|DECIMAL SEPARATOR|THOUSANDS SEPARATOR|FIVE POINTED STAR",
    "66e ARABIC LETTER |DOTLESS BEH|DOTLESS QAF|SUPERSCRIPT ALEF|ALEF WASLA",
    "672 ARABIC LETTER ALEF WITH WAVY HAMZA |ABOVE|BELOW",
    "674 ARABIC LETTER |HIGH HAMZA|HIGH HAMZA ALEF|HIGH HAMZA WAW|U WITH HAMZA ABOVE|HIGH HAMZA YEH",
    "679 ARABIC LETTER |TTEH|TTEHEH|BEEH|TEH WITH RING|TEH WITH THREE DOTS ABOVE DOWNWARDS|PEH|TEHEH|BEHEH",
    "681 ARABIC LETTER HAH WITH |HAMZA ABOVE|TWO DOTS VERTICAL ABOVE",
    "683 ARABIC LETTER |NYEH|DYEH|HAH WITH THREE DOTS ABOVE|TCHEH|TCHEHEH|DDAL",
    "689 ARABIC LETTER DAL WITH |RING|DOT BELOW|DOT BELOW AND SMALL TAH",
    "68c ARABIC LETTER |DAHAL|DDAHAL|DUL|DAL WITH THREE DOTS ABOVE DOWNWARDS|DAL WITH FOUR DOTS ABOVE|RREH",
    "692 ARABIC LETTER REH WITH |SMALL V|RING|DOT BELOW|SMALL V BELOW|DOT BELOW AND DOT ABOVE|TWO DOTS ABOVE",
    "698 ARABIC LETTER |JEH|REH WITH FOUR DOTS ABOVE|SEEN WITH DOT BELOW AND DOT ABOVE",
    "69b ARABIC LETTER SEEN WITH THREE DOTS |BELOW|BELOW AND THREE DOTS ABOVE",
    "69d ARABIC LETTER SAD WITH |TWO DOTS BELOW|THREE DOTS ABOVE",
    "69f ARABIC LETTER |TAH WITH THREE DOTS ABOVE|AIN WITH THREE DOTS ABOVE|DOTLESS FEH",
    "6a2 ARABIC LETTER FEH WITH DOT |MOVED BELOW|BELOW",
    "6a4 ARABIC LETTER |VEH|FEH WITH THREE DOTS BELOW|PEHEH|QAF WITH DOT ABOVE|QAF WITH THREE DOTS ABOVE",
    "6a9 ARABIC LETTER |KEHEH|SWASH KAF|KAF WITH RING|KAF WITH DOT ABOVE|NG|KAF WITH THREE DOTS BELOW",
    "6af ARABIC LETTER |GAF|GAF WITH RING|NGOEH|GAF WITH TWO DOTS BELOW|GUEH|GAF WITH THREE DOTS ABOVE",
    "6b5 ARABIC LETTER LAM WITH |SMALL V|DOT ABOVE|THREE DOTS ABOVE|THREE DOTS BELOW",
    "6b9 ARABIC LETTER NOON |WITH DOT BELOW|GHUNNA",
    "6bb ARABIC LETTER |RNOON|NOON WITH RING|NOON WITH THREE DOTS ABOVE|HEH DOACHASHMEE|TCHEH WITH DOT ABOVE",
    "6c0 ARABIC LETTER HEH |WITH YEH ABOVE|GOAL|GOAL WITH HAMZA ABOVE",
    "6c3 ARABIC LETTER |TEH MARBUTA GOAL|WAW WITH RING|KIRGHIZ OE|OE|U|YU|KIRGHIZ YU|WAW WITH TWO DOTS ABOVE",
    "6cb ARABIC LETTER |VE|FARSI YEH|YEH WITH TAIL|YEH WITH SMALL V|WAW WITH DOT ABOVE|E",
    "6d1 ARABIC LETTER YEH |WITH THREE DOTS BELOW|BARREE|BARREE WITH HAMZA ABOVE;6d4 ARABIC |FULL STOP|LETTER AE",
    "6d6 ARABIC SMALL HIGH LIGATURE |SAD WITH LAM WITH ALEF MAKSURA|QAF WITH LAM WITH ALEF MAKSURA",
    "6d8 ARABIC SMALL HIGH |MEEM INITIAL FORM|LAM ALEF|JEEM|THREE DOTS|SEEN",
    "6dd ARABIC |END OF AYAH|START OF RUB EL HIZB",
    "6df ARABIC SMALL HIGH |ROUNDED ZERO|UPRIGHT RECTANGULAR ZERO|DOTLESS HEAD OF KHAH|MEEM ISOLATED FORM",
    "6e3 ARABIC SMALL |LOW SEEN|HIGH MADDA|WAW|YEH|HIGH YEH|HIGH NOON;6e9 ARABIC PLACE OF |SAJDAH",
    "6ea ARABIC EMPTY CENTRE |LOW STOP|HIGH STOP;6ec ARABIC |ROUNDED HIGH STOP WITH FILLED CENTRE|SMALL LOW MEEM",
    "6ee ARABIC LETTER |DAL WITH INVERTED V|REH WITH INVERTED V",
    "6f0 EXTENDED ARABIC-INDIC DIGIT |ZERO|ONE|TWO|THREE|FOUR|FIVE|SIX|SEVEN|EIGHT|NINE",
    "6fa ARABIC LETTER |SHEEN WITH DOT BELOW|DAD WITH DOT BELOW|GHAIN WITH DOT BELOW",
    "6fd ARABIC SIGN SINDHI |AMPERSAND|POSTPOSITION MEN",
    "6ff |ARABIC LETTER HEH WITH INVERTED V|SYRIAC END OF PARAGRAPH",
    "701 SYRIAC |SUPRALINEAR FULL STOP|SUBLINEAR FULL STOP|SUPRALINEAR COLON|SUBLINEAR COLON|HORIZONTAL COLON",
    "706 SYRIAC COLON SKEWED |LEFT|RIGHT",
    "708 SYRIAC |SUPRALINEAR COLON SKEWED LEFT|SUBLINEAR COLON SKEWED RIGHT|CONTRACTION",
    "70b SYRIAC HARKLEAN |OBELUS|METOBELUS|ASTERISCUS;70f SYRIAC ABBREVIATION |MARK",
    "710 SYRIAC LETTER |ALAPH|SUPERSCRIPT ALAPH|BETH|GAMAL|GAMAL GARSHUNI|DALATH|DOTLESS DALATH RISH|HE|WAW",
    "719 SYRIAC LETTER |ZAIN|HETH|TETH|TETH GARSHUNI|YUDH|YUDH HE|KAPH|LAMADH|MIM|NUN|SEMKATH|FINAL SEMKATH",
    "725 SYRIAC LETTER |E|PE|REVERSED PE|SADHE|QAPH|RISH|SHIN|TAW|PERSIAN BHETH|PERSIAN GHAMAL|PERSIAN DHALATH",
    "730 SYRIAC PTHAHA |ABOVE|BELOW|DOTTED;733 SYRIAC ZQAPHA |ABOVE|BELOW|DOTTED;736 SYRIAC RBASA |ABOVE|BELOW",
    "738 SYRIAC DOTTED ZLAMA |HORIZONTAL|ANGULAR;73a SYRIAC HBASA |ABOVE|BELOW",
    "73c SYRIAC |HBASA-ESASA DOTTED|ESASA ABOVE|ESASA BELOW|RWAHA|FEMININE DOT|QUSHSHAYA|RUKKAKHA",
    "743 SYRIAC TWO VERTICAL DOTS |ABOVE|BELOW",
    "745 SYRIAC |THREE DOTS ABOVE|THREE DOTS BELOW|OBLIQUE LINE ABOVE|OBLIQUE LINE BELOW|MUSIC|BARREKH",
    "74d SYRIAC LETTER SOGDIAN |ZHAIN|KHAPH|FE",
    "750 ARABIC LETTER BEH WITH |THREE DOTS HORIZONTALLY BELOW|DOT BELOW AND THREE DOTS ABOVE",
    "752 ARABIC LETTER BEH WITH THREE DOTS POINTING UPWARDS |BELOW|BELOW AND TWO DOTS ABOVE",
    "754 ARABIC LETTER BEH WITH |TWO DOTS BELOW AND DOT ABOVE|INVERTED SMALL V BELOW|SMALL V",
    "757 ARABIC LETTER HAH WITH |TWO DOTS ABOVE|THREE DOTS POINTING UPWARDS BELOW",
    "759 ARABIC LETTER DAL WITH |TWO DOTS VERTICALLY BELOW AND SMALL TAH|INVERTED SMALL V BELOW",
    "75b ARABIC LETTER |REH WITH STROKE|SEEN WITH FOUR DOTS ABOVE",
    "75d ARABIC LETTER AIN WITH |TWO DOTS ABOVE|THREE DOTS POINTING DOWNWARDS ABOVE|TWO DOTS VERTICALLY ABOVE",
    "760 ARABIC LETTER FEH WITH |TWO DOTS BELOW|THREE DOTS POINTING UPWARDS BELOW",
    "762 ARABIC LETTER KEHEH WITH |DOT ABOVE|THREE DOTS ABOVE|THREE DOTS POINTING UPWARDS BELOW",
    "765 ARABIC LETTER MEEM WITH DOT |ABOVE|BELOW;767 ARABIC LETTER NOON WITH |TWO DOTS BELOW|SMALL TAH|SMALL V",
    "76a ARABIC LETTER |LAM WITH BAR|REH WITH TWO DOTS VERTICALLY ABOVE",
    "76c ARABIC LETTER |REH WITH HAMZA ABOVE|SEEN WITH TWO DOTS VERTICALLY ABOVE",
    "76e ARABIC LETTER HAH WITH SMALL ARABIC LETTER TAH |BELOW|AND TWO DOTS",
    "770 ARABIC LETTER SEEN WITH SMALL ARABIC LETTER TAH AND TWO |DOTS",
    "771 ARABIC LETTER |REH WITH SMALL ARABIC LETTER TAH AND TWO DOTS|HAH WITH SMALL ARABIC LETTER TAH ABOVE",
    "773 ARABIC LETTER ALEF WITH EXTENDED ARABIC-INDIC DIGIT |TWO ABOVE|THREE ABOVE",
    "775 ARABIC LETTER FARSI YEH WITH EXTENDED ARABIC-INDIC DIGIT |TWO ABOVE|THREE ABOVE|FOUR BELOW",
    "778 ARABIC LETTER WAW WITH EXTENDED ARABIC-INDIC DIGIT |TWO ABOVE|THREE ABOVE",
    "77a ARABIC LETTER YEH BARREE WITH EXTENDED ARABIC-INDIC DIGIT |TWO ABOVE|THREE ABOVE",
    "77c ARABIC LETTER HAH WITH EXTENDED ARABIC-INDIC DIGIT FOUR |BELOW",
    "77d ARABIC LETTER SEEN WITH |EXTENDED ARABIC-INDIC DIGIT FOUR ABOVE|INVERTED V",
    "77f ARABIC LETTER KAF WITH TWO DOTS |ABOVE",
    "780 THAANA LETTER |HAA|SHAVIYANI|NOONU|RAA|BAA|LHAVIYANI|KAAFU|ALIFU|VAAVU|MEEMU|FAAFU|DHAALU",
    "78c THAANA LETTER |THAA|LAAMU|GAAFU|GNAVIYANI|SEENU|DAVIYANI|ZAVIYANI|TAVIYANI|YAA|PAVIYANI|JAVIYANI",
    "797 THAANA LETTER |CHAVIYANI|TTAA|HHAA|KHAA|THAALU|ZAA|SHEENU|SAADHU|DAADHU|TO|ZO|AINU|GHAINU|QAAFU|WAAVU",
    "7a6 THAANA |ABAFILI|AABAAFILI",
    "7a8 THAANA |IBIFILI|EEBEEFILI|UBUFILI|OOBOOFILI|EBEFILI|EYBEYFILI|OBOFILI|OABOAFILI|SUKUN|LETTER NAA",
    "7c0 NKO DIGIT |ZERO|ONE|TWO|THREE|FOUR|FIVE|SIX|SEVEN|EIGHT|NINE",
    "7ca NKO LETTER |A|EE|I|E|U|OO|O|DAGBASINNA|N|BA|PA|TA|JA|CHA|DA",
    "7d9 NKO LETTER |RA|RRA|SA|GBA|FA|KA|LA|NA WOLOSO|MA|NYA|NA|HA|WA|YA|NYA WOLOSO|JONA JA|JONA CHA|JONA RA",
    "7eb NKO COMBINING SHORT |HIGH TONE|LOW TONE|RISING TONE",
    "7ee NKO COMBINING LONG |DESCENDING TONE|HIGH TONE|LOW TONE|RISING TONE",
    "7f2 NKO COMBINING |NASALIZATION MARK|DOUBLE DOT ABOVE;7f4 NKO HIGH TONE |APOSTROPHE",
    "7f5 NKO |LOW TONE APOSTROPHE|SYMBOL OO DENNEN|SYMBOL GBAKURUNEN|COMMA|EXCLAMATION MARK|LAJANYALAN",
    "7fd NKO |DANTAYALAN|DOROME SIGN|TAMAN SIGN;800 SAMARITAN LETTER |ALAF|BIT|GAMAN|DALAT",
    "804 SAMARITAN LETTER |IY|BAA|ZEN|IT|TIT|YUT|KAAF|LABAT|MIM|NUN|SINGAAT|IN|FI|TSAADIY|QUF|RISH|SHAN|TAAF",
    "816 SAMARITAN MARK |IN|IN-ALAF|OCCLUSION|DAGESH",
    "81a SAMARITAN |MODIFIER LETTER EPENTHETIC YUT|MARK EPENTHETIC YUT",
    "81c SAMARITAN VOWEL SIGN |LONG E|E|OVERLONG AA|LONG AA|AA|OVERLONG A|LONG A|A",
    "824 SAMARITAN MODIFIER LETTER SHORT |A;825 SAMARITAN VOWEL SIGN |SHORT A|LONG U|U",
    "828 SAMARITAN MODIFIER LETTER |I;829 SAMARITAN VOWEL SIGN |LONG I|I|O|SUKUN;82d SAMARITAN MARK |NEQUDAA",
    "830 SAMARITAN PUNCTUATION |NEQUDAA|AFSAAQ|ANGED|BAU|ATMAAU|SHIYYAALAA;836 SAMARITAN ABBREVIATION |MARK",
    "837 SAMARITAN PUNCTUATION |MELODIC QITSA|ZIQAA|QITSA|ZAEF|TURU|ARKAANU|SOF MASHFAAT|ANNAAU",
    "840 MANDAIC LETTER |HALQA|AB|AG",
    "843 MANDAIC LETTER |AD|AH|USHENNA|AZ|IT|ATT|AKSA|AK|AL|AM|AN|AS|IN|AP|ASZ|AQ|AR|ASH|AT|DUSHENNA|KAD|AIN",
    "859 MANDAIC |AFFRICATION MARK|VOCALIZATION MARK|GEMINATION MARK;85e MANDAIC |PUNCTUATION",
    "860 SYRIAC LETTER MALAYALAM |NGA|JA|NYA|TTA|NNA|NNNA|BHA|RA|LLA|LLLA|SSA",
    "870 ARABIC LETTER ALEF WITH ATTACHED |FATHA|TOP RIGHT FATHA",
    "872 ARABIC LETTER ALEF WITH |RIGHT MIDDLE STROKE|LEFT MIDDLE STROKE|ATTACHED KASRA",
    "875 ARABIC LETTER ALEF WITH ATTACHED |BOTTOM RIGHT KASRA|ROUND DOT ABOVE|RIGHT ROUND DOT|LEFT ROUND DOT",
    "879 ARABIC LETTER ALEF WITH |ATTACHED ROUND DOT BELOW|DOT ABOVE|ATTACHED TOP RIGHT FATHA AND DOT ABOVE",
    "87c ARABIC LETTER ALEF WITH |RIGHT MIDDLE STROKE AND DOT ABOVE|ATTACHED BOTTOM RIGHT KASRA AND DOT ABOVE",
    "87e ARABIC LETTER ALEF WITH |ATTACHED TOP RIGHT FATHA AND LEFT RING|RIGHT MIDDLE STROKE AND LEFT RING",
    "880 ARABIC LETTER ALEF WITH ATTACHED |BOTTOM RIGHT KASRA AND LEFT RING|RIGHT HAMZA|LEFT HAMZA",
    "883 ARABIC TATWEEL WITH |OVERSTRUCK HAMZA|OVERSTRUCK WAW|TWO DOTS BELOW",
    "886 ARABIC |LETTER THIN YEH|BASELINE ROUND DOT|RAISED ROUND DOT",
    "889 ARABIC LETTER |NOON WITH INVERTED SMALL V|HAH WITH INVERTED SMALL V BELOW|TAH WITH DOT BELOW",
    "88c ARABIC |LETTER TAH WITH THREE DOTS BELOW|LETTER KEHEH WITH TWO DOTS VERTICALLY BELOW|VERTICAL TAIL",
    "890 ARABIC |POUND MARK ABOVE|PIASTRE MARK ABOVE",
    "898 ARABIC SMALL |HIGH WORD AL-JUZ|LOW WORD ISHMAAM|LOW WORD IMAALA|LOW WORD TASHEEL",
    "89c ARABIC |MADDA WAAJIB|SUPERSCRIPT ALEF MOKHASSAS|DOUBLED MADDA|HALF MADDA OVER MADDA",
    "8a0 ARABIC LETTER |BEH WITH SMALL V BELOW|BEH WITH HAMZA ABOVE|JEEM WITH TWO DOTS ABOVE",
    "8a3 ARABIC LETTER |TAH WITH TWO DOTS ABOVE|FEH WITH DOT BELOW AND THREE DOTS ABOVE",
    "8a5 ARABIC LETTER |QAF WITH DOT BELOW|LAM WITH DOUBLE BAR|MEEM WITH THREE DOTS ABOVE",
    "8a8 ARABIC LETTER YEH WITH TWO DOTS BELOW AND |HAMZA ABOVE|DOT ABOVE",
    "8aa ARABIC LETTER |REH WITH LOOP|WAW WITH DOT WITHIN|ROHINGYA YEH",
    "8ad ARABIC LETTER |LOW ALEF|DAL WITH THREE DOTS BELOW|SAD WITH THREE DOTS BELOW|GAF WITH INVERTED STROKE",
    "8b1 ARABIC LETTER |STRAIGHT WAW|ZAIN WITH INVERTED V ABOVE|AIN WITH THREE DOTS BELOW",
    "8b4 ARABIC LETTER |KAF WITH DOT BELOW|QAF WITH DOT BELOW AND NO DOTS ABOVE|BEH WITH SMALL MEEM ABOVE",
    "8b7 ARABIC LETTER |PEH WITH SMALL MEEM ABOVE|TEH WITH SMALL TEH ABOVE|REH WITH SMALL NOON ABOVE",
    "8ba ARABIC LETTER |YEH WITH TWO DOTS BELOW AND SMALL NOON ABOVE|AFRICAN FEH|AFRICAN QAF",
    "8bd ARABIC LETTER |AFRICAN NOON|PEH WITH SMALL V|TEH WITH SMALL V|TTEH WITH SMALL V|TCHEH WITH SMALL V",
    "8c2 ARABIC LETTER |KEHEH WITH SMALL V|GHAIN WITH THREE DOTS ABOVE|AFRICAN QAF WITH THREE DOTS ABOVE",
    "8c5 ARABIC LETTER JEEM WITH THREE DOTS |ABOVE|BELOW",
    "8c7 ARABIC |LETTER LAM WITH SMALL ARABIC LETTER TAH ABOVE|LETTER GRAF|SMALL FARSI YEH",
    "8ca ARABIC SMALL HIGH |FARSI YEH|YEH BARREE WITH TWO DOTS BELOW|WORD SAH|ZAH",
    "8ce ARABIC LARGE ROUND DOT |ABOVE|BELOW",
    "8d0 ARABIC |SUKUN BELOW|LARGE CIRCLE BELOW|LARGE ROUND DOT INSIDE CIRCLE BELOW|SMALL LOW WAW",
    "8d4 ARABIC SMALL HIGH |WORD AR-RUB|SAD|AIN|QAF|NOON WITH KASRA;8d9 ARABIC SMALL LOW NOON WITH |KASRA",
    "8da ARABIC SMALL HIGH WORD |ATH-THALATHA|AS-SAJDA|AN-NISF|SAKTA|QIF|WAQFA",
    "8e0 ARABIC |SMALL HIGH FOOTNOTE MARKER|SMALL HIGH SIGN SAFHA|DISPUTED END OF AYAH|TURNED DAMMA BELOW",
    "8e4 ARABIC CURLY |FATHA|DAMMA|KASRA|FATHATAN|DAMMATAN|KASRATAN",
    "8ea ARABIC TONE |ONE DOT ABOVE|TWO DOTS ABOVE|LOOP ABOVE|ONE DOT BELOW|TWO DOTS BELOW|LOOP BELOW",
    "8f0 ARABIC OPEN |FATHATAN|DAMMATAN|KASRATAN",
    "8f3 ARABIC |SMALL HIGH WAW|FATHA WITH RING|FATHA WITH DOT ABOVE|KASRA WITH DOT BELOW",
    "8f7 ARABIC |LEFT ARROWHEAD ABOVE|RIGHT ARROWHEAD ABOVE|LEFT ARROWHEAD BELOW|RIGHT ARROWHEAD BELOW",
    "8fb ARABIC DOUBLE RIGHT ARROWHEAD |ABOVE|ABOVE WITH DOT",
    "8fd ARABIC |RIGHT ARROWHEAD ABOVE WITH DOT|DAMMA WITH DOT|MARK SIDEWAYS NOON GHUNNA",
    "900 DEVANAGARI SIGN |INVERTED CANDRABINDU|CANDRABINDU|ANUSVARA|VISARGA",
    "904 DEVANAGARI LETTER |SHORT A|A|AA|I|II|U|UU|VOCALIC R|VOCALIC L|CANDRA E|SHORT E",
    "90f DEVANAGARI LETTER |E|AI|CANDRA O|SHORT O|O|AU|KA|KHA|GA|GHA|NGA|CA|CHA|JA|JHA|NYA|TTA|TTHA|DDA|DDHA",
    "923 DEVANAGARI LETTER |NNA|TA|THA|DA|DHA|NA|NNNA|PA|PHA|BA|BHA|MA|YA|RA|RRA|LA|LLA|LLLA|VA|SHA|SSA|SA|HA",
    "93a DEVANAGARI |VOWEL SIGN OE|VOWEL SIGN OOE|SIGN NUKTA|SIGN AVAGRAHA",
    "93e DEVANAGARI VOWEL SIGN |AA|I|II|U|UU|VOCALIC R|VOCALIC RR|CANDRA E|SHORT E|E|AI|CANDRA O|SHORT O|O|AU",
    "94d DEVANAGARI |SIGN VIRAMA|VOWEL SIGN PRISHTHAMATRA E",
    "94f DEVANAGARI |VOWEL SIGN AW|OM|STRESS SIGN UDATTA|STRESS SIGN ANUDATTA|GRAVE ACCENT|ACUTE ACCENT",
    "955 DEVANAGARI VOWEL SIGN |CANDRA LONG E|UE|UUE",
    "958 DEVANAGARI LETTER |QA|KHHA|GHHA|ZA|DDDHA|RHA|FA|YYA|VOCALIC RR|VOCALIC LL",
    "962 DEVANAGARI VOWEL SIGN VOCALIC |L|LL;964 DEVANAGARI |DANDA|DOUBLE DANDA",
    "966 DEVANAGARI DIGIT |ZERO|ONE|TWO|THREE|FOUR|FIVE|SIX|SEVEN|EIGHT|NINE",
    "970 DEVANAGARI |ABBREVIATION SIGN|SIGN HIGH SPACING DOT",
    "972 DEVANAGARI LETTER |CANDRA A|OE|OOE|AW|UE|UUE|MARWARI DDA|ZHA|HEAVY YA|GGA|JJA|GLOTTAL STOP|DDDA|BBA",
    "980 BENGALI |ANJI|SIGN CANDRABINDU|SIGN ANUSVARA|SIGN VISARGA",
    "985 BENGALI LETTER |A|AA|I|II|U|UU|VOCALIC R|VOCALIC L;98f BENGALI LETTER |E|AI",
    "993 BENGALI LETTER |O|AU|KA|KHA|GA|GHA|NGA|CA|CHA|JA|JHA|NYA|TTA|TTHA|DDA|DDHA|NNA|TA|THA|DA|DHA|NA",
    "9aa BENGALI LETTER |PA|PHA|BA|BHA|MA|YA|RA;9b2 BENGALI LETTER |LA;9b6 BENGALI LETTER |SHA|SSA|SA|HA",
    "9bc BENGALI SIGN |NUKTA|AVAGRAHA;9be BENGALI VOWEL SIGN |AA|I|II|U|UU|VOCALIC R|VOCALIC RR",
    "9c7 BENGALI VOWEL SIGN |E|AI;9cb BENGALI |VOWEL SIGN O|VOWEL SIGN AU|SIGN VIRAMA|LETTER KHANDA TA",
    "9d7 BENGALI AU LENGTH |MARK;9dc BENGALI LETTER |RRA|RHA;9df BENGALI LETTER |YYA|VOCALIC RR|VOCALIC LL",
    "9e2 BENGALI VOWEL SIGN VOCALIC |L|LL;9e6 BENGALI DIGIT |ZERO|ONE|TWO|THREE|FOUR|FIVE|SIX|SEVEN|EIGHT|NINE",
    "9f0 BENGALI LETTER RA WITH |MIDDLE DIAGONAL|LOWER DIAGONAL;9f2 BENGALI RUPEE |MARK|SIGN",
    "9f4 BENGALI CURRENCY NUMERATOR |ONE|TWO|THREE|FOUR|ONE LESS THAN THE DENOMINATOR",
    "9f9 BENGALI CURRENCY DENOMINATOR |SIXTEEN",
    "9fa BENGALI |ISSHAR|GANDA MARK|LETTER VEDIC ANUSVARA|ABBREVIATION SIGN|SANDHI MARK",
    "a01 GURMUKHI SIGN |ADAK BINDI|BINDI|VISARGA;a05 GURMUKHI LETTER |A|AA|I|II|U|UU;a0f GURMUKHI LETTER |EE|AI",
    "a13 GURMUKHI LETTER |OO|AU|KA|KHA|GA|GHA|NGA|CA|CHA|JA|JHA|NYA|TTA|TTHA|DDA|DDHA|NNA|TA|THA|DA|DHA|NA",
    "a2a GURMUKHI LETTER |PA|PHA|BA|BHA|MA|YA|RA;a32 GURMUKHI LETTER |LA|LLA;a35 GURMUKHI LETTER |VA|SHA",
    "a38 GURMUKHI LETTER |SA|HA;a3c GURMUKHI SIGN |NUKTA;a3e GURMUKHI VOWEL SIGN |AA|I|II|U|UU",
    "a47 GURMUKHI VOWEL SIGN |EE|AI;a4b GURMUKHI |VOWEL SIGN OO|VOWEL SIGN AU|SIGN VIRAMA;a51 GURMUKHI SIGN |UDAAT",
    "a59 GURMUKHI LETTER |KHHA|GHHA|ZA|RRA;a5e GURMUKHI LETTER |FA",
    "a66 GURMUKHI DIGIT |ZERO|ONE|TWO|THREE|FOUR|FIVE|SIX|SEVEN|EIGHT|NINE",
    "a70 GURMUKHI |TIPPI|ADDAK|IRI|URA|EK ONKAR|SIGN YAKASH|ABBREVIATION SIGN",
    "a81 GUJARATI SIGN |CANDRABINDU|ANUSVARA|VISARGA;a85 GUJARATI LETTER |A|AA|I|II|U|UU|VOCALIC R|VOCALIC L",
    "a8d GUJARATI VOWEL CANDRA |E;a8f GUJARATI |LETTER E|LETTER AI|VOWEL CANDRA O",
    "a93 GUJARATI LETTER |O|AU|KA|KHA|GA|GHA|NGA|CA|CHA|JA|JHA|NYA|TTA|TTHA|DDA|DDHA|NNA|TA|THA|DA|DHA|NA",
    "aaa GUJARATI LETTER |PA|PHA|BA|BHA|MA|YA|RA;ab2 GUJARATI LETTER |LA|LLA;ab5 GUJARATI LETTER |VA|SHA|SSA|SA|HA",
    "abc GUJARATI SIGN |NUKTA|AVAGRAHA;abe GUJARATI VOWEL SIGN |AA|I|II|U|UU|VOCALIC R|VOCALIC RR|CANDRA E",
    "ac7 GUJARATI VOWEL SIGN |E|AI|CANDRA O;acb GUJARATI |VOWEL SIGN O|VOWEL SIGN AU|SIGN VIRAMA;ad0 GUJARATI |OM",
    "ae0 GUJARATI LETTER VOCALIC |RR|LL;ae2 GUJARATI VOWEL SIGN VOCALIC |L|LL",
    "ae6 GUJARATI DIGIT |ZERO|ONE|TWO|THREE|FOUR|FIVE|SIX|SEVEN|EIGHT|NINE;af0 GUJARATI |ABBREVIATION SIGN|RUPEE SIGN",
    "af9 GUJARATI LETTER |ZHA",
    "afa GUJARATI SIGN |SUKUN|SHADDA|MADDAH|THREE-DOT NUKTA ABOVE|CIRCLE NUKTA ABOVE|TWO-CIRCLE NUKTA ABOVE",
    "b01 ORIYA SIGN |CANDRABINDU|ANUSVARA|VISARGA;b05 ORIYA LETTER |A|AA|I|II|U|UU|VOCALIC R|VOCALIC L",
    "b0f ORIYA LETTER |E|AI",
    "b13 ORIYA LETTER |O|AU|KA|KHA|GA|GHA|NGA|CA|CHA|JA|JHA|NYA|TTA|TTHA|DDA|DDHA|NNA|TA|THA|DA|DHA|NA",
    "b2a ORIYA LETTER |PA|PHA|BA|BHA|MA|YA|RA;b32 ORIYA LETTER |LA|LLA;b35 ORIYA LETTER |VA|SHA|SSA|SA|HA",
    "b3c ORIYA SIGN |NUKTA|AVAGRAHA;b3e ORIYA VOWEL SIGN |AA|I|II|U|UU|VOCALIC R|VOCALIC RR",
    "b47 ORIYA VOWEL SIGN |E|AI;b4b ORIYA |VOWEL SIGN O|VOWEL SIGN AU|SIGN VIRAMA",
    "b55 ORIYA |SIGN OVERLINE|AI LENGTH MARK|AU LENGTH MARK;b5c ORIYA LETTER |RRA|RHA",
    "b5f ORIYA LETTER |YYA|VOCALIC RR|VOCALIC LL;b62 ORIYA VOWEL SIGN VOCALIC |L|LL",
    "b66 ORIYA DIGIT |ZERO|ONE|TWO|THREE|FOUR|FIVE|SIX|SEVEN|EIGHT|NINE;b70 ORIYA |ISSHAR|LETTER WA",
    "b72 ORIYA FRACTION |ONE QUARTER|ONE HALF|THREE QUARTERS|ONE SIXTEENTH|ONE EIGHTH|THREE SIXTEENTHS",
    "b82 TAMIL SIGN |ANUSVARA|VISARGA;b85 TAMIL LETTER |A|AA|I|II|U|UU;b8e TAMIL LETTER |E|EE|AI",
    "b92 TAMIL LETTER |O|OO|AU|KA;b99 TAMIL LETTER |NGA|CA;b9c TAMIL LETTER |JA;b9e TAMIL LETTER |NYA|TTA",
    "ba3 TAMIL LETTER |NNA|TA;ba8 TAMIL LETTER |NA|NNNA|PA",
    "bae TAMIL LETTER |MA|YA|RA|RRA|LA|LLA|LLLA|VA|SHA|SSA|SA|HA;bbe TAMIL VOWEL SIGN |AA|I|II|U|UU",
    "bc6 TAMIL VOWEL SIGN |E|EE|AI;bca TAMIL VOWEL SIGN |O|OO|AU;bcd TAMIL SIGN |VIRAMA;bd0 TAMIL |OM",
    "bd7 TAMIL AU LENGTH |MARK;be6 TAMIL DIGIT |ZERO|ONE|TWO|THREE|FOUR|FIVE|SIX|SEVEN|EIGHT|NINE",
    "bf0 TAMIL NUMBER |TEN|ONE HUNDRED|ONE THOUSAND",
    "bf3 TAMIL |DAY SIGN|MONTH SIGN|YEAR SIGN|DEBIT SIGN|CREDIT SIGN|AS ABOVE SIGN|RUPEE SIGN|NUMBER SIGN",
    "c00 TELUGU SIGN |COMBINING CANDRABINDU ABOVE|CANDRABINDU|ANUSVARA|VISARGA|COMBINING ANUSVARA ABOVE",
    "c05 TELUGU LETTER |A|AA|I|II|U|UU|VOCALIC R|VOCALIC L;c0e TELUGU LETTER |E|EE|AI",
    "c12 TELUGU LETTER |O|OO|AU|KA|KHA|GA|GHA|NGA|CA|CHA|JA|JHA|NYA|TTA|TTHA|DDA|DDHA|NNA|TA|THA|DA|DHA|NA",
    "c2a TELUGU LETTER |PA|PHA|BA|BHA|MA|YA|RA|RRA|LA|LLA|LLLA|VA|SHA|SSA|SA|HA;c3c TELUGU SIGN |NUKTA|AVAGRAHA",
    "c3e TELUGU VOWEL SIGN |AA|I|II|U|UU|VOCALIC R|VOCALIC RR;c46 TELUGU VOWEL SIGN |E|EE|AI",
    "c4a TELUGU VOWEL SIGN |O|OO|AU;c4d TELUGU SIGN |VIRAMA;c55 TELUGU |LENGTH MARK|AI LENGTH MARK",
    "c58 TELUGU LETTER |TSA|DZA|RRRA;c5d TELUGU LETTER NAKAARA |POLLU;c60 TELUGU LETTER VOCALIC |RR|LL",
    "c62 TELUGU VOWEL SIGN VOCALIC |L|LL;c66 TELUGU DIGIT |ZERO|ONE|TWO|THREE|FOUR|FIVE|SIX|SEVEN|EIGHT|NINE",
    "c77 TELUGU SIGN |SIDDHAM;c78 TELUGU FRACTION DIGIT |ZERO FOR ODD POWERS OF FOUR|ONE FOR ODD POWERS OF FOUR",
    "c7a TELUGU FRACTION DIGIT |TWO FOR ODD POWERS OF FOUR|THREE FOR ODD POWERS OF FOUR",
    "c7c TELUGU FRACTION DIGIT |ONE FOR EVEN POWERS OF FOUR|TWO FOR EVEN POWERS OF FOUR",
    "c7e TELUGU |FRACTION DIGIT THREE FOR EVEN POWERS OF FOUR|SIGN TUUMU",
    "c80 KANNADA SIGN |SPACING CANDRABINDU|CANDRABINDU|ANUSVARA|VISARGA|SIDDHAM",
    "c85 KANNADA LETTER |A|AA|I|II|U|UU|VOCALIC R|VOCALIC L;c8e KANNADA LETTER |E|EE|AI",
    "c92 KANNADA LETTER |O|OO|AU|KA|KHA|GA|GHA|NGA|CA|CHA|JA|JHA|NYA|TTA|TTHA|DDA|DDHA|NNA|TA|THA|DA|DHA|NA",
    "caa KANNADA LETTER |PA|PHA|BA|BHA|MA|YA|RA|RRA|LA|LLA;cb5 KANNADA LETTER |VA|SHA|SSA|SA|HA",
    "cbc KANNADA SIGN |NUKTA|AVAGRAHA;cbe KANNADA VOWEL SIGN |AA|I|II|U|UU|VOCALIC R|VOCALIC RR",
    "cc6 KANNADA VOWEL SIGN |E|EE|AI;cca KANNADA VOWEL SIGN |O|OO|AU;ccd KANNADA SIGN |VIRAMA",
    "cd5 KANNADA |LENGTH MARK|AI LENGTH MARK;cdd KANNADA LETTER |NAKAARA POLLU|FA;ce0 KANNADA LETTER VOCALIC |RR|LL",
    "ce2 KANNADA VOWEL SIGN VOCALIC |L|LL;ce6 KANNADA DIGIT |ZERO|ONE|TWO|THREE|FOUR|FIVE|SIX|SEVEN|EIGHT|NINE",
    "cf1 KANNADA SIGN |JIHVAMULIYA|UPADHMANIYA",
    "d00 MALAYALAM SIGN |COMBINING ANUSVARA ABOVE|CANDRABINDU|ANUSVARA|VISARGA",
    "d04 MALAYALAM LETTER |VEDIC ANUSVARA|A|AA|I|II|U|UU|VOCALIC R|VOCALIC L;d0e MALAYALAM LETTER |E|EE|AI",
    "d12 MALAYALAM LETTER |O|OO|AU|KA|KHA|GA|GHA|NGA|CA|CHA|JA|JHA|NYA|TTA|TTHA|DDA|DDHA|NNA",
    "d24 MALAYALAM LETTER |TA|THA|DA|DHA|NA|NNNA|PA|PHA|BA|BHA|MA|YA|RA|RRA|LA|LLA|LLLA|VA|SHA|SSA|SA|HA|TTTA",
    "d3b MALAYALAM SIGN |VERTICAL BAR VIRAMA|CIRCULAR VIRAMA|AVAGRAHA",
    "d3e MALAYALAM VOWEL SIGN |AA|I|II|U|UU|VOCALIC R|VOCALIC RR;d46 MALAYALAM VOWEL SIGN |E|EE|AI",
    "d4a MALAYALAM VOWEL SIGN |O|OO|AU;d4d MALAYALAM |SIGN VIRAMA|LETTER DOT REPH|SIGN PARA",
    "d54 MALAYALAM LETTER CHILLU |M|Y|LLL;d57 MALAYALAM |AU LENGTH MARK|FRACTION ONE ONE-HUNDRED-AND-SIXTIETH",
    "d59 MALAYALAM FRACTION |ONE FORTIETH|THREE EIGHTIETHS|ONE TWENTIETH|ONE TENTH|THREE TWENTIETHS|ONE FIFTH",
    "d5f MALAYALAM LETTER |ARCHAIC II|VOCALIC RR|VOCALIC LL;d62 MALAYALAM VOWEL SIGN VOCALIC |L|LL",
    "d66 MALAYALAM DIGIT |ZERO|ONE|TWO|THREE|FOUR|FIVE|SIX|SEVEN|EIGHT|NINE",
    "d70 MALAYALAM NUMBER |TEN|ONE HUNDRED|ONE THOUSAND",
    "d73 MALAYALAM FRACTION |ONE QUARTER|ONE HALF|THREE QUARTERS|ONE SIXTEENTH|ONE EIGHTH|THREE SIXTEENTHS",
    "d79 MALAYALAM DATE |MARK;d7a MALAYALAM LETTER CHILLU |NN|N|RR|L|LL|K",
    "d81 SINHALA SIGN |CANDRABINDU|ANUSVARAYA|VISARGAYA",
    "d85 SINHALA LETTER |AYANNA|AAYANNA|AEYANNA|AEEYANNA|IYANNA|IIYANNA|UYANNA|UUYANNA",
    "d8d SINHALA LETTER |IRUYANNA|IRUUYANNA|ILUYANNA|ILUUYANNA|EYANNA|EEYANNA|AIYANNA|OYANNA|OOYANNA|AUYANNA",
    "d9a SINHALA LETTER |ALPAPRAANA KAYANNA|MAHAAPRAANA KAYANNA",
    "d9c SINHALA LETTER |ALPAPRAANA GAYANNA|MAHAAPRAANA GAYANNA|KANTAJA NAASIKYAYA|SANYAKA GAYANNA",
    "da0 SINHALA LETTER |ALPAPRAANA CAYANNA|MAHAAPRAANA CAYANNA|ALPAPRAANA JAYANNA|MAHAAPRAANA JAYANNA",
    "da4 SINHALA LETTER TAALUJA |NAASIKYAYA|SANYOOGA NAAKSIKYAYA",
    "da6 SINHALA LETTER |SANYAKA JAYANNA|ALPAPRAANA TTAYANNA|MAHAAPRAANA TTAYANNA|ALPAPRAANA DDAYANNA",
    "daa SINHALA LETTER |MAHAAPRAANA DDAYANNA|MUURDHAJA NAYANNA|SANYAKA DDAYANNA|ALPAPRAANA TAYANNA",
    "dae SINHALA LETTER |MAHAAPRAANA TAYANNA|ALPAPRAANA DAYANNA|MAHAAPRAANA DAYANNA|DANTAJA NAYANNA",
    "db3 SINHALA LETTER |SANYAKA DAYANNA|ALPAPRAANA PAYANNA|MAHAAPRAANA PAYANNA",
    "db6 SINHALA LETTER |ALPAPRAANA BAYANNA|MAHAAPRAANA BAYANNA|MAYANNA|AMBA BAYANNA|YAYANNA|RAYANNA",
    "dbd SINHALA LETTER DANTAJA |LAYANNA;dc0 SINHALA LETTER |VAYANNA",
    "dc1 SINHALA LETTER |TAALUJA SAYANNA|MUURDHAJA SAYANNA|DANTAJA SAYANNA|HAYANNA|MUURDHAJA LAYANNA|FAYANNA",
    "dca SINHALA SIGN AL-|LAKUNA;dcf SINHALA VOWEL SIGN AELA-|PILLA",
    "dd0 SINHALA VOWEL SIGN |KETTI AEDA-PILLA|DIGA AEDA-PILLA|KETTI IS-PILLA|DIGA IS-PILLA|KETTI PAA-PILLA",
    "dd6 SINHALA VOWEL SIGN DIGA PAA-|PILLA",
    "dd8 SINHALA VOWEL SIGN |GAETTA-PILLA|KOMBUVA|DIGA KOMBUVA|KOMBU DEKA|KOMBUVA HAA AELA-PILLA",
    "ddd SINHALA VOWEL SIGN |KOMBUVA HAA DIGA AELA-PILLA|KOMBUVA HAA GAYANUKITTA|GAYANUKITTA",
    "de6 SINHALA LITH DIGIT |ZERO|ONE|TWO|THREE|FOUR|FIVE|SIX|SEVEN|EIGHT|NINE",
    "df2 SINHALA VOWEL SIGN DIGA |GAETTA-PILLA|GAYANUKITTA;df4 SINHALA PUNCTUATION |KUNDDALIYA",
    "e01 THAI CHARACTER |KO KAI|KHO KHAI|KHO KHUAT|KHO KHWAI|KHO KHON|KHO RAKHANG|NGO NGU",
    "e08 THAI CHARACTER CHO |CHAN|CHING|CHANG",
    "e0b THAI CHARACTER |SO SO|CHO CHOE|YO YING|DO CHADA|TO PATAK|THO THAN|THO NANGMONTHO|THO PHUTHAO",
    "e13 THAI CHARACTER |NO NEN|DO DEK|TO TAO|THO THUNG|THO THAHAN|THO THONG|NO NU|BO BAIMAI|PO PLA",
    "e1c THAI CHARACTER |PHO PHUNG|FO FA|PHO PHAN|FO FAN|PHO SAMPHAO|MO MA|YO YAK|RO RUA|RU|LO LING|LU|WO WAEN",
    "e28 THAI CHARACTER |SO SALA|SO RUSI|SO SUA|HO HIP|LO CHULA|O ANG|HO NOKHUK|PAIYANNOI|SARA A|MAI HAN-AKAT",
    "e32 THAI CHARACTER SARA |AA|AM|I|II|UE|UEE|U|UU;e3a THAI CHARACTER |PHINTHU;e3f THAI CURRENCY SYMBOL |BAHT",
    "e40 THAI CHARACTER |SARA E|SARA AE|SARA O|SARA AI MAIMUAN|SARA AI MAIMALAI|LAKKHANGYAO|MAIYAMOK",
    "e47 THAI CHARACTER |MAITAIKHU|MAI EK|MAI THO|MAI TRI|MAI CHATTAWA|THANTHAKHAT|NIKHAHIT|YAMAKKAN|FONGMAN",
    "e50 THAI DIGIT |ZERO|ONE|TWO|THREE|FOUR|FIVE|SIX|SEVEN|EIGHT|NINE;e5a THAI CHARACTER |ANGKHANKHU|KHOMUT",
    "e81 LAO LETTER |KO|KHO SUNG;e84 LAO LETTER KHO |TAM;e86 LAO LETTER |PALI GHA|NGO|CO|PALI CHA|SO TAM",
    "e8c LAO LETTER |PALI JHA|NYO|PALI NYA|PALI TTA|PALI TTHA|PALI DDA|PALI DDHA|PALI NNA|DO|TO",
    "e96 LAO LETTER |THO SUNG|THO TAM|PALI DHA|NO|BO|PO|PHO SUNG|FO TAM|PHO TAM|FO SUNG|PALI BHA|MO|YO|LO LING",
    "ea5 LAO LETTER LO |LOOT;ea7 LAO LETTER |WO|SANSKRIT SHA|SANSKRIT SSA|SO SUNG|HO SUNG|PALI LLA|O|HO TAM",
    "eaf LAO |ELLIPSIS;eb0 LAO VOWEL SIGN |A|MAI KAN|AA|AM|I|II|Y|YY|U|UU",
    "eba LAO |SIGN PALI VIRAMA|VOWEL SIGN MAI KON;ebc LAO SEMIVOWEL SIGN |LO|NYO;ec0 LAO VOWEL SIGN |E|EI|O|AY|AI",
    "ec6 LAO KO |LA;ec8 LAO TONE MAI |EK|THO|TI|CATAWA;ecc LAO |CANCELLATION MARK|NIGGAHITA",
    "ed0 LAO DIGIT |ZERO|ONE|TWO|THREE|FOUR|FIVE|SIX|SEVEN|EIGHT|NINE;edc LAO HO |NO|MO;ede LAO LETTER KHMU |GO|NYO",
    "f00 TIBETAN SYLLABLE |OM;f01 TIBETAN MARK GTER YIG MGO |TRUNCATED A|-UM RNAM BCAD MA|-UM GTER TSHEG MA",
    "f04 TIBETAN MARK |INITIAL YIG MGO MDUN MA|CLOSING YIG MGO SGAB MA|CARET YIG MGO PHUR SHAD MA",
    "f07 TIBETAN MARK |YIG MGO TSHEG SHAD MA|SBRUL SHAD|BSKUR YIG MGO|BKA- SHOG YIG MGO",
    "f0b TIBETAN MARK |INTERSYLLABIC TSHEG|DELIMITER TSHEG BSTAR|SHAD|NYIS SHAD|TSHEG SHAD|NYIS TSHEG SHAD",
    "f11 TIBETAN MARK |RIN CHEN SPUNGS SHAD|RGYA GRAM SHAD|CARET -DZUD RTAGS ME LONG CAN|GTER TSHEG",
    "f15 TIBETAN LOGOTYPE SIGN |CHAD RTAGS|LHAG RTAGS",
    "f17 TIBETAN ASTROLOGICAL SIGN |SGRA GCAN -CHAR RTAGS|-KHYUD PA|SDONG TSHUGS",
    "f1a TIBETAN SIGN RDEL |DKAR GCIG|DKAR GNYIS|DKAR GSUM|NAG GCIG|NAG GNYIS|DKAR RDEL NAG",
    "f20 TIBETAN DIGIT |ZERO|ONE|TWO|THREE|FOUR|FIVE|SIX|SEVEN|EIGHT|NINE",
    "f2a TIBETAN DIGIT HALF |ONE|TWO|THREE|FOUR|FIVE|SIX|SEVEN|EIGHT|NINE|ZERO",
    "f34 TIBETAN MARK |BSDUS RTAGS|NGAS BZUNG NYI ZLA|CARET -DZUD RTAGS BZHI MIG CAN|NGAS BZUNG SGOR RTAGS",
    "f38 TIBETAN MARK |CHE MGO|TSA -PHRU|GUG RTAGS GYON|GUG RTAGS GYAS|ANG KHANG GYON|ANG KHANG GYAS",
    "f3e TIBETAN SIGN |YAR TSHES|MAR TSHES;f40 TIBETAN LETTER |KA|KHA|GA|GHA|NGA|CA|CHA|JA",
    "f49 TIBETAN LETTER |NYA|TTA|TTHA|DDA|DDHA|NNA|TA|THA|DA|DHA|NA|PA|PHA|BA|BHA",
    "f58 TIBETAN LETTER |MA|TSA|TSHA|DZA|DZHA|WA|ZHA|ZA|-A|YA|RA|LA|SHA|SSA|SA|HA|A|KSSA|FIXED-FORM RA|KKA|RRA",
    "f71 TIBETAN VOWEL SIGN |AA|I|II|U|UU|VOCALIC R|VOCALIC RR|VOCALIC L|VOCALIC LL|E|EE|O|OO",
    "f7e TIBETAN SIGN |RJES SU NGA RO|RNAM BCAD;f80 TIBETAN VOWEL SIGN REVERSED |I|II",
    "f82 TIBETAN |SIGN NYI ZLA NAA DA|SIGN SNA LDAN|MARK HALANTA|MARK PALUTA|SIGN LCI RTAGS",
    "f87 TIBETAN SIGN |YANG RTAGS|LCE TSA CAN|MCHU CAN|GRU CAN RGYINGS|GRU MED RGYINGS|INVERTED MCHU CAN",
    "f8d TIBETAN SUBJOINED SIGN |LCE TSA CAN|MCHU CAN|INVERTED MCHU CAN",
    "f90 TIBETAN SUBJOINED LETTER |KA|KHA|GA|GHA|NGA|CA|CHA|JA",
    "f99 TIBETAN SUBJOINED LETTER |NYA|TTA|TTHA|DDA|DDHA|NNA|TA|THA|DA|DHA|NA|PA",
    "fa5 TIBETAN SUBJOINED LETTER |PHA|BA|BHA|MA|TSA|TSHA|DZA|DZHA|WA|ZHA|ZA|-A|YA|RA|LA|SHA|SSA|SA|HA|A|KSSA",
    "fba TIBETAN SUBJOINED LETTER FIXED-FORM |WA|YA|RA;fbe TIBETAN KU RU |KHA|KHA BZHI MIG CAN",
    "fc0 TIBETAN CANTILLATION SIGN |HEAVY BEAT|LIGHT BEAT|CANG TE-U|SBUB -CHAL",
    "fc4 TIBETAN SYMBOL |DRIL BU|RDO RJE|PADMA GDAN|RDO RJE RGYA GRAM|PHUR PA|NOR BU",
    "fca TIBETAN SYMBOL NOR BU |NYIS -KHYIL|GSUM -KHYIL|BZHI -KHYIL;fce TIBETAN SIGN RDEL NAG |RDEL DKAR|GSUM",
    "fd0 TIBETAN MARK |BSKA- SHOG GI MGO RGYAN|MNYAM YIG GI MGO RGYAN",
    "fd2 TIBETAN MARK |NYIS TSHEG|INITIAL BRDA RNYING YIG MGO MDUN MA|CLOSING BRDA RNYING YIG MGO SGAB MA",
    "fd5 RIGHT-FACING SVASTI |SIGN",
    "fd6 |LEFT-FACING SVASTI SIGN|RIGHT-FACING SVASTI SIGN WITH DOTS|LEFT-FACING SVASTI SIGN WITH DOTS",
    "fd9 TIBETAN MARK |LEADING MCHAN RTAGS|TRAILING MCHAN RTAGS",
    "1000 MYANMAR LETTER |KA|KHA|GA|GHA|NGA|CA|CHA|JA|JHA|NYA|NNYA|TTA|TTHA|DDA|DDHA|NNA|TA",
    "1011 MYANMAR LETTER |THA|DA|DHA|NA|PA|PHA|BA|BHA|MA|YA|RA|LA|WA|SA|HA|LLA|A|SHAN A|I|II|U|UU|E|MON E|O|AU",
    "102b MYANMAR VOWEL SIGN |TALL AA|AA|I|II|U|UU|E|AI|MON II|MON O|E ABOVE",
    "1036 MYANMAR SIGN |ANUSVARA|DOT BELOW|VISARGA|VIRAMA|ASAT;103b MYANMAR CONSONANT SIGN MEDIAL |YA|RA|WA|HA",
    "103f MYANMAR LETTER GREAT |SA;1040 MYANMAR DIGIT |ZERO|ONE|TWO|THREE|FOUR|FIVE|SIX|SEVEN|EIGHT|NINE",
    "104a MYANMAR SIGN |LITTLE SECTION|SECTION;104c MYANMAR SYMBOL |LOCATIVE|COMPLETED|AFOREMENTIONED|GENITIVE",
    "1050 MYANMAR LETTER |SHA|SSA;1052 MYANMAR LETTER VOCALIC |R|RR|L|LL;1056 MYANMAR VOWEL SIGN VOCALIC |R|RR|L|LL",
    "105a MYANMAR LETTER MON |NGA|JHA|BBA|BBE;105e MYANMAR CONSONANT SIGN MON MEDIAL |NA|MA|LA",
    "1061 MYANMAR |LETTER SGAW KAREN SHA|VOWEL SIGN SGAW KAREN EU;1063 MYANMAR TONE MARK SGAW KAREN |HATHI|KE PHO",
    "1065 MYANMAR LETTER WESTERN PWO KAREN |THA|PWA;1067 MYANMAR VOWEL SIGN WESTERN PWO KAREN |EU|UE",
    "1069 MYANMAR SIGN WESTERN PWO KAREN TONE-|1|2|3|4|5;106e MYANMAR LETTER EASTERN PWO KAREN |NNA|YWA|GHWA",
    "1071 MYANMAR VOWEL SIGN |GEBA KAREN I|KAYAH OE|KAYAH U|KAYAH EE",
    "1075 MYANMAR LETTER SHAN |KA|KHA|GA|CA|ZA|NYA|DA|NA|PHA|FA|BA|THA|HA;1082 MYANMAR CONSONANT SIGN SHAN MEDIAL |WA",
    "1083 MYANMAR VOWEL SIGN SHAN |AA|E|E ABOVE|FINAL Y;1087 MYANMAR SIGN SHAN TONE-|2|3|5|6",
    "108b MYANMAR SIGN SHAN COUNCIL |TONE-2|TONE-3|EMPHATIC TONE",
    "108e MYANMAR |LETTER RUMAI PALAUNG FA|SIGN RUMAI PALAUNG TONE-5",
    "1090 MYANMAR SHAN DIGIT |ZERO|ONE|TWO|THREE|FOUR|FIVE|SIX|SEVEN|EIGHT|NINE;109a MYANMAR SIGN KHAMTI TONE-|1|3",
    "109c MYANMAR VOWEL SIGN AITON |A|AI;109e MYANMAR SYMBOL SHAN |ONE|EXCLAMATION",
    "10a0 GEORGIAN CAPITAL LETTER |AN|BAN",
    "10a2 GEORGIAN CAPITAL LETTER |GAN|DON|EN|VIN|ZEN|TAN|IN|KAN|LAS|MAN|NAR|ON|PAR|ZHAR|RAE|SAN|TAR|UN|PHAR",
    "10b5 GEORGIAN CAPITAL LETTER |KHAR|GHAN|QAR|SHIN|CHIN|CAN|JIL|CIL|CHAR|XAN|JHAN|HAE|HE|HIE|WE|HAR|HOE",
    "10c7 GEORGIAN CAPITAL LETTER |YN;10cd GEORGIAN CAPITAL LETTER |AEN",
    "10d0 GEORGIAN LETTER |AN|BAN|GAN|DON|EN|VIN|ZEN|TAN|IN|KAN|LAS|MAN|NAR|ON|PAR|ZHAR|RAE|SAN|TAR|UN|PHAR",
    "10e5 GEORGIAN LETTER |KHAR|GHAN|QAR|SHIN|CHIN|CAN|JIL|CIL|CHAR|XAN|JHAN|HAE|HE|HIE|WE|HAR|HOE|FI|YN|ELIFI",
    "10f9 GEORGIAN |LETTER TURNED GAN|LETTER AIN|PARAGRAPH SEPARATOR;10fc MODIFIER LETTER GEORGIAN |NAR",
    "10fd GEORGIAN LETTER |AEN|HARD SIGN|LABIAL SIGN",
    "1100 HANGUL CHOSEONG |KIYEOK|SSANGKIYEOK|NIEUN|TIKEUT|SSANGTIKEUT|RIEUL|MIEUM",
    "1107 HANGUL CHOSEONG |PIEUP|SSANGPIEUP|SIOS|SSANGSIOS|IEUNG|CIEUC|SSANGCIEUC|CHIEUCH|KHIEUKH|THIEUTH",
    "1111 HANGUL CHOSEONG |PHIEUPH|HIEUH|NIEUN-KIYEOK|SSANGNIEUN|NIEUN-TIKEUT|NIEUN-PIEUP|TIKEUT-KIYEOK",
    "1118 HANGUL CHOSEONG |RIEUL-NIEUN|SSANGRIEUL|RIEUL-HIEUH|KAPYEOUNRIEUL|MIEUM-PIEUP|KAPYEOUNMIEUM",
    "111e HANGUL CHOSEONG PIEUP-|KIYEOK|NIEUN|TIKEUT|SIOS|SIOS-KIYEOK",
    "1123 HANGUL CHOSEONG PIEUP-|SIOS-TIKEUT|SIOS-PIEUP|SSANGSIOS|SIOS-CIEUC|CIEUC|CHIEUCH|THIEUTH|PHIEUPH",
    "112b HANGUL CHOSEONG |KAPYEOUNPIEUP|KAPYEOUNSSANGPIEUP",
    "112d HANGUL CHOSEONG SIOS-|KIYEOK|NIEUN|TIKEUT|RIEUL|MIEUM",
    "1132 HANGUL CHOSEONG SIOS-|PIEUP|PIEUP-KIYEOK|SSANGSIOS|IEUNG|CIEUC|CHIEUCH|KHIEUKH|THIEUTH|PHIEUPH|HIEUH",
    "113c HANGUL CHOSEONG |CHITUEUMSIOS|CHITUEUMSSANGSIOS|CEONGCHIEUMSIOS|CEONGCHIEUMSSANGSIOS|PANSIOS",
    "1141 HANGUL CHOSEONG IEUNG-|KIYEOK|TIKEUT|MIEUM|PIEUP|SIOS|PANSIOS",
    "1147 HANGUL CHOSEONG |SSANGIEUNG|IEUNG-CIEUC|IEUNG-CHIEUCH|IEUNG-THIEUTH|IEUNG-PHIEUPH|YESIEUNG",
    "114d HANGUL CHOSEONG |CIEUC-IEUNG|CHITUEUMCIEUC|CHITUEUMSSANGCIEUC|CEONGCHIEUMCIEUC|CEONGCHIEUMSSANGCIEUC",
    "1152 HANGUL CHOSEONG CHIEUCH-|KHIEUKH|HIEUH",
    "1154 HANGUL CHOSEONG |CHITUEUMCHIEUCH|CEONGCHIEUMCHIEUCH|PHIEUPH-PIEUP|KAPYEOUNPHIEUPH|SSANGHIEUH",
    "1159 HANGUL CHOSEONG |YEORINHIEUH|KIYEOK-TIKEUT|NIEUN-SIOS|NIEUN-CIEUC|NIEUN-HIEUH|TIKEUT-RIEUL|FILLER",
    "1160 HANGUL JUNGSEONG |FILLER|A|AE|YA|YAE|EO",
    "1166 HANGUL JUNGSEONG |E|YEO|YE|O|WA|WAE|OE|YO|U|WEO|WE|WI|YU|EU|YI|I|A-O|A-U|YA-O|YA-YO|EO-O|EO-U|EO-EU",
    "117d HANGUL JUNGSEONG |YEO-O|YEO-U|O-EO|O-E|O-YE|O-O|O-U|YO-YA|YO-YAE|YO-YEO|YO-O|YO-I|U-A|U-AE|U-EO-EU",
    "118c HANGUL JUNGSEONG |U-YE|U-U|YU-A|YU-EO|YU-E|YU-YEO|YU-YE|YU-U|YU-I|EU-U|EU-EU|YI-U|I-A|I-YA|I-O|I-U",
    "119c HANGUL JUNGSEONG |I-EU|I-ARAEA|ARAEA|ARAEA-EO|ARAEA-U|ARAEA-I|SSANGARAEA|A-EU|YA-U|YEO-YA|O-YA|O-YAE",
    "11a8 HANGUL JONGSEONG |KIYEOK|SSANGKIYEOK|KIYEOK-SIOS|NIEUN|NIEUN-CIEUC|NIEUN-HIEUH|TIKEUT|RIEUL",
    "11b0 HANGUL JONGSEONG RIEUL-|KIYEOK|MIEUM|PIEUP|SIOS|THIEUTH|PHIEUPH|HIEUH",
    "11b7 HANGUL JONGSEONG |MIEUM|PIEUP|PIEUP-SIOS|SIOS|SSANGSIOS",
    "11bc HANGUL JONGSEONG |IEUNG|CIEUC|CHIEUCH|KHIEUKH|THIEUTH|PHIEUPH|HIEUH|KIYEOK-RIEUL|KIYEOK-SIOS-KIYEOK",
    "11c5 HANGUL JONGSEONG NIEUN-|KIYEOK|TIKEUT|SIOS|PANSIOS|THIEUTH;11ca HANGUL JONGSEONG TIKEUT-|KIYEOK|RIEUL",
    "11cc HANGUL JONGSEONG RIEUL-|KIYEOK-SIOS|NIEUN|TIKEUT|TIKEUT-HIEUH",
    "11d0 HANGUL JONGSEONG |SSANGRIEUL|RIEUL-MIEUM-KIYEOK|RIEUL-MIEUM-SIOS",
    "11d3 HANGUL JONGSEONG RIEUL-|PIEUP-SIOS|PIEUP-HIEUH|KAPYEOUNPIEUP|SSANGSIOS|PANSIOS|KHIEUKH|YEORINHIEUH",
    "11da HANGUL JONGSEONG MIEUM-|KIYEOK|RIEUL|PIEUP|SIOS|SSANGSIOS|PANSIOS|CHIEUCH|HIEUH",
    "11e2 HANGUL JONGSEONG |KAPYEOUNMIEUM|PIEUP-RIEUL|PIEUP-PHIEUPH|PIEUP-HIEUH|KAPYEOUNPIEUP|SIOS-KIYEOK",
    "11e8 HANGUL JONGSEONG |SIOS-TIKEUT|SIOS-RIEUL|SIOS-PIEUP|PANSIOS|IEUNG-KIYEOK|IEUNG-SSANGKIYEOK",
    "11ee HANGUL JONGSEONG |SSANGIEUNG|IEUNG-KHIEUKH|YESIEUNG|YESIEUNG-SIOS|YESIEUNG-PANSIOS|PHIEUPH-PIEUP",
    "11f4 HANGUL JONGSEONG |KAPYEOUNPHIEUPH|HIEUH-NIEUN|HIEUH-RIEUL|HIEUH-MIEUM|HIEUH-PIEUP|YEORINHIEUH",
    "11fa HANGUL JONGSEONG KIYEOK-|NIEUN|PIEUP|CHIEUCH|KHIEUKH|HIEUH;11ff HANGUL JONGSEONG |SSANGNIEUN",
    "1200 ETHIOPIC SYLLABLE |HA|HU|HI|HAA|HEE|HE|HO|HOA",
    "1208 ETHIOPIC SYLLABLE |LA|LU|LI|LAA|LEE|LE|LO|LWA|HHA|HHU|HHI|HHAA|HHEE|HHE|HHO|HHWA|MA|MU|MI|MAA|MEE|ME",
    "121e ETHIOPIC SYLLABLE |MO|MWA|SZA|SZU|SZI|SZAA|SZEE|SZE|SZO|SZWA|RA|RU|RI|RAA|REE|RE|RO|RWA|SA|SU|SI|SAA",
    "1234 ETHIOPIC SYLLABLE |SEE|SE|SO|SWA|SHA|SHU|SHI|SHAA|SHEE|SHE|SHO|SHWA|QA|QU|QI|QAA|QEE|QE|QO|QOA|QWA",
    "124a ETHIOPIC SYLLABLE |QWI|QWAA|QWEE|QWE;1250 ETHIOPIC SYLLABLE |QHA|QHU|QHI|QHAA|QHEE|QHE|QHO",
    "1258 ETHIOPIC SYLLABLE |QHWA;125a ETHIOPIC SYLLABLE |QHWI|QHWAA|QHWEE|QHWE",
    "1260 ETHIOPIC SYLLABLE |BA|BU|BI|BAA|BEE|BE|BO|BWA|VA|VU|VI|VAA|VEE|VE|VO|VWA|TA",
    "1271 ETHIOPIC SYLLABLE |TU|TI|TAA|TEE|TE|TO|TWA|CA|CU|CI|CAA|CEE|CE|CO|CWA|XA|XU|XI|XAA|XEE|XE|XO|XOA|XWA",
    "128a ETHIOPIC SYLLABLE |XWI|XWAA|XWEE|XWE",
    "1290 ETHIOPIC SYLLABLE |NA|NU|NI|NAA|NEE|NE|NO|NWA|NYA|NYU|NYI|NYAA|NYEE|NYE|NYO|NYWA",
    "12a0 ETHIOPIC SYLLABLE GLOTTAL |A|U|I|AA|EE|E|O|WA;12a8 ETHIOPIC SYLLABLE |KA|KU|KI|KAA|KEE|KE|KO|KOA|KWA",
    "12b2 ETHIOPIC SYLLABLE |KWI|KWAA|KWEE|KWE;12b8 ETHIOPIC SYLLABLE |KXA|KXU|KXI|KXAA|KXEE|KXE|KXO",
    "12c0 ETHIOPIC SYLLABLE |KXWA;12c2 ETHIOPIC SYLLABLE |KXWI|KXWAA|KXWEE|KXWE",
    "12c8 ETHIOPIC SYLLABLE |WA|WU|WI|WAA|WEE|WE|WO|WOA;12d0 ETHIOPIC SYLLABLE PHARYNGEAL |A|U|I|AA|EE|E|O",
    "12d8 ETHIOPIC SYLLABLE |ZA|ZU|ZI|ZAA|ZEE|ZE|ZO|ZWA|ZHA|ZHU|ZHI|ZHAA|ZHEE",
    "12e5 ETHIOPIC SYLLABLE |ZHE|ZHO|ZHWA|YA|YU|YI|YAA|YEE|YE|YO|YOA|DA|DU|DI|DAA|DEE|DE|DO|DWA|DDA|DDU|DDI",
    "12fb ETHIOPIC SYLLABLE |DDAA|DDEE|DDE|DDO|DDWA|JA|JU|JI|JAA|JEE|JE|JO|JWA|GA|GU|GI|GAA|GEE|GE|GO|GOA|GWA",
    "1312 ETHIOPIC SYLLABLE |GWI|GWAA|GWEE|GWE;1318 ETHIOPIC SYLLABLE |GGA|GGU|GGI|GGAA|GGEE|GGE|GGO|GGWAA",
    "1320 ETHIOPIC SYLLABLE |THA|THU|THI|THAA|THEE|THE|THO|THWA|CHA|CHU|CHI|CHAA|CHEE|CHE|CHO|CHWA|PHA|PHU|PHI",
    "1333 ETHIOPIC SYLLABLE |PHAA|PHEE|PHE|PHO|PHWA|TSA|TSU|TSI|TSAA|TSEE|TSE|TSO|TSWA|TZA|TZU|TZI|TZAA|TZEE",
    "1345 ETHIOPIC SYLLABLE |TZE|TZO|TZOA|FA|FU|FI|FAA|FEE|FE|FO|FWA|PA|PU|PI|PAA|PEE|PE|PO|PWA|RYA|MYA|FYA",
    "135d ETHIOPIC COMBINING |GEMINATION AND VOWEL LENGTH MARK|VOWEL LENGTH MARK|GEMINATION MARK",
    "1360 ETHIOPIC SECTION |MARK",
    "1361 ETHIOPIC |WORDSPACE|FULL STOP|COMMA|SEMICOLON|COLON|PREFACE COLON|QUESTION MARK|PARAGRAPH SEPARATOR",
    "1369 ETHIOPIC DIGIT |ONE|TWO|THREE|FOUR|FIVE|SIX|SEVEN|EIGHT|NINE",
    "1372 ETHIOPIC NUMBER |TEN|TWENTY|THIRTY|FORTY|FIFTY|SIXTY|SEVENTY|EIGHTY|NINETY|HUNDRED|TEN THOUSAND",
    "1380 ETHIOPIC SYLLABLE |SEBATBEIT MWA|MWI|MWEE|MWE",
    "1384 ETHIOPIC SYLLABLE |SEBATBEIT BWA|BWI|BWEE|BWE|SEBATBEIT FWA|FWI|FWEE|FWE|SEBATBEIT PWA|PWI|PWEE|PWE",
    "1390 ETHIOPIC TONAL MARK |YIZET|DERET|RIKRIK|SHORT RIKRIK|DIFAT|KENAT|CHIRET|HIDET|DERET-HIDET|KURT",
    "13a0 CHEROKEE LETTER |A|E|I|O|U|V|GA|KA|GE|GI",
    "13aa CHEROKEE LETTER |GO|GU|GV|HA|HE|HI|HO|HU|HV|LA|LE|LI|LO|LU|LV|MA|ME|MI|MO|MU|NA|HNA|NAH|NE|NI|NO|NU",
    "13c5 CHEROKEE LETTER |NV|QUA|QUE|QUI|QUO|QUU|QUV|SA|S|SE|SI|SO|SU|SV|DA|TA|DE|TE|DI|TI|DO|DU|DV|DLA|TLA",
    "13de CHEROKEE LETTER |TLE|TLI|TLO|TLU|TLV|TSA|TSE|TSI|TSO|TSU|TSV|WA|WE|WI|WO|WU|WV|YA|YE|YI|YO|YU|YV|MV",
    "13f8 CHEROKEE SMALL LETTER |YE|YI|YO|YU|YV|MV",
    "1400 CANADIAN SYLLABICS |HYPHEN|E|AAI|I|II|O|OO|Y-CREE OO|CARRIER EE|CARRIER I|A|AA|WE|WEST-CREE WE|WI",
    "140f CANADIAN SYLLABICS |WEST-CREE WI|WII|WEST-CREE WII|WO|WEST-CREE WO|WOO|WEST-CREE WOO|NASKAPI WOO|WA",
    "1418 CANADIAN SYLLABICS |WEST-CREE WA|WAA|WEST-CREE WAA|NASKAPI WAA|AI|Y-CREE W|GLOTTAL STOP|FINAL ACUTE",
    "1420 CANADIAN SYLLABICS FINAL |GRAVE|BOTTOM HALF RING|TOP HALF RING|RIGHT HALF RING|RING|DOUBLE ACUTE",
    "1426 CANADIAN SYLLABICS FINAL |DOUBLE SHORT VERTICAL STROKES|MIDDLE DOT|SHORT HORIZONTAL STROKE|PLUS",
    "142a CANADIAN SYLLABICS |FINAL DOWN TACK|EN|IN|ON|AN|PE|PAAI|PI|PII|PO",
    "1434 CANADIAN SYLLABICS |POO|Y-CREE POO|CARRIER HEE|CARRIER HI|PA|PAA|PWE|WEST-CREE PWE|PWI|WEST-CREE PWI",
    "143e CANADIAN SYLLABICS |PWII|WEST-CREE PWII|PWO|WEST-CREE PWO|PWOO|WEST-CREE PWOO|PWA|WEST-CREE PWA",
    "1446 CANADIAN SYLLABICS |PWAA|WEST-CREE PWAA|Y-CREE PWAA|P|WEST-CREE P|CARRIER H|TE|TAAI|TI|TII|TO",
    "1451 CANADIAN SYLLABICS |TOO|Y-CREE TOO|CARRIER DEE|CARRIER DI|TA|TAA|TWE|WEST-CREE TWE|TWI|WEST-CREE TWI",
    "145b CANADIAN SYLLABICS |TWII|WEST-CREE TWII|TWO|WEST-CREE TWO|TWOO|WEST-CREE TWOO|TWA|WEST-CREE TWA|TWAA",
    "1464 CANADIAN SYLLABICS |WEST-CREE TWAA|NASKAPI TWAA|T|TTE|TTI|TTO|TTA|KE|KAAI|KI|KII|KO|KOO|Y-CREE KOO",
    "1472 CANADIAN SYLLABICS |KA|KAA|KWE|WEST-CREE KWE|KWI|WEST-CREE KWI|KWII|WEST-CREE KWII|KWO|WEST-CREE KWO",
    "147c CANADIAN SYLLABICS |KWOO|WEST-CREE KWOO|KWA|WEST-CREE KWA|KWAA|WEST-CREE KWAA|NASKAPI KWAA|K|KW",
    "1485 CANADIAN SYLLABICS SOUTH-SLAVEY |KEH|KIH|KOH|KAH",
    "1489 CANADIAN SYLLABICS |CE|CAAI|CI|CII|CO|COO|Y-CREE COO|CA|CAA",
    "1492 CANADIAN SYLLABICS |CWE|WEST-CREE CWE|CWI|WEST-CREE CWI|CWII|WEST-CREE CWII|CWO|WEST-CREE CWO|CWOO",
    "149b CANADIAN SYLLABICS |WEST-CREE CWOO|CWA|WEST-CREE CWA|CWAA|WEST-CREE CWAA|NASKAPI CWAA|C|SAYISI TH",
    "14a3 CANADIAN SYLLABICS |ME|MAAI|MI|MII|MO|MOO|Y-CREE MOO|MA|MAA|MWE|WEST-CREE MWE|MWI|WEST-CREE MWI",
    "14b0 CANADIAN SYLLABICS |MWII|WEST-CREE MWII|MWO|WEST-CREE MWO|MWOO|WEST-CREE MWOO|MWA|WEST-CREE MWA",
    "14b8 CANADIAN SYLLABICS |MWAA|WEST-CREE MWAA|NASKAPI MWAA|M|WEST-CREE M|MH|ATHAPASCAN M|SAYISI M",
    "14c0 CANADIAN SYLLABICS |NE|NAAI|NI|NII|NO|NOO|Y-CREE NOO|NA|NAA|NWE|WEST-CREE NWE|NWA|WEST-CREE NWA|NWAA",
    "14ce CANADIAN SYLLABICS |WEST-CREE NWAA|NASKAPI NWAA|N|CARRIER NG|NH|LE|LAAI|LI|LII|LO|LOO|Y-CREE LOO",
    "14da CANADIAN SYLLABICS |LA|LAA|LWE|WEST-CREE LWE|LWI|WEST-CREE LWI|LWII|WEST-CREE LWII|LWO|WEST-CREE LWO",
    "14e4 CANADIAN SYLLABICS |LWOO|WEST-CREE LWOO|LWA|WEST-CREE LWA|LWAA|WEST-CREE LWAA|L|WEST-CREE L|MEDIAL L",
    "14ed CANADIAN SYLLABICS |SE|SAAI|SI|SII|SO|SOO|Y-CREE SOO|SA|SAA|SWE|WEST-CREE SWE|SWI|WEST-CREE SWI",
    "14fa CANADIAN SYLLABICS |SWII|WEST-CREE SWII|SWO|WEST-CREE SWO|SWOO|WEST-CREE SWOO|SWA|WEST-CREE SWA",
    "1502 CANADIAN SYLLABICS |SWAA|WEST-CREE SWAA|NASKAPI SWAA|S|ATHAPASCAN S|SW|BLACKFOOT S|MOOSE-CREE SK",
    "150a CANADIAN SYLLABICS NASKAPI |SKW|S-W|SPWA|STWA|SKWA|SCWA;1510 CANADIAN SYLLABICS |SHE|SHI|SHII",
    "1513 CANADIAN SYLLABICS |SHO|SHOO|SHA|SHAA|SHWE|WEST-CREE SHWE|SHWI|WEST-CREE SHWI|SHWII|WEST-CREE SHWII",
    "151d CANADIAN SYLLABICS |SHWO|WEST-CREE SHWO|SHWOO|WEST-CREE SHWOO|SHWA|WEST-CREE SHWA|SHWAA",
    "1524 CANADIAN SYLLABICS |WEST-CREE SHWAA|SH|YE|YAAI|YI|YII|YO|YOO|Y-CREE YOO|YA|YAA|YWE|WEST-CREE YWE",
    "1531 CANADIAN SYLLABICS |YWI|WEST-CREE YWI|YWII|WEST-CREE YWII|YWO|WEST-CREE YWO|YWOO|WEST-CREE YWOO",
    "1539 CANADIAN SYLLABICS |YWA|WEST-CREE YWA|YWAA|WEST-CREE YWAA|NASKAPI YWAA|Y|BIBLE-CREE Y|WEST-CREE Y",
    "1541 CANADIAN SYLLABICS |SAYISI YI|RE|R-CREE RE|WEST-CREE LE|RAAI|RI|RII|RO|ROO|WEST-CREE LO|RA|RAA",
    "154d CANADIAN SYLLABICS |WEST-CREE LA|RWAA|WEST-CREE RWAA|R|WEST-CREE R|MEDIAL R|FE|FAAI|FI|FII|FO|FOO",
    "1559 CANADIAN SYLLABICS |FA|FAA|FWAA|WEST-CREE FWAA|F|THE|N-CREE THE|THI|N-CREE THI|THII|N-CREE THII|THO",
    "1565 CANADIAN SYLLABICS |THOO|THA|THAA|THWAA|WEST-CREE THWAA|TH|TTHE|TTHI|TTHO|TTHA|TTH|TYE|TYI|TYO|TYA",
    "1574 CANADIAN SYLLABICS NUNAVIK |HE|HI|HII|HO|HOO|HA|HAA|H",
    "157c CANADIAN SYLLABICS |NUNAVUT H|HK|QAAI|QI|QII|QO|QOO|QA|QAA|Q|TLHE|TLHI|TLHO|TLHA",
    "158a CANADIAN SYLLABICS WEST-CREE |RE|RI|RO|RA;158e CANADIAN SYLLABICS |NGAAI|NGI|NGII|NGO|NGOO|NGA|NGAA|NG|NNG",
    "1597 CANADIAN SYLLABICS SAYISI |SHE|SHI|SHO|SHA;159b CANADIAN SYLLABICS WOODS-CREE |THE|THI|THO|THA|TH",
    "15a0 CANADIAN SYLLABICS |LHI|LHII|LHO|LHOO|LHA|LHAA|LH",
    "15a7 CANADIAN SYLLABICS TH-CREE |THE|THI|THII|THO|THOO|THA|THAA|TH;15af CANADIAN SYLLABICS AIVILIK |B",
    "15b0 CANADIAN SYLLABICS BLACKFOOT |E|I|O|A|WE|WI|WO|WA|NE|NI|NO|NA|KE|KI|KO|KA",
    "15c0 CANADIAN SYLLABICS SAYISI |HE|HI|HO|HA",
    "15c4 CANADIAN SYLLABICS CARRIER |GHU|GHO|GHE|GHEE|GHI|GHA|RU|RO|RE|REE|RI|RA|WU|WO|WE|WEE|WI|WA|HWU|HWO",
    "15d8 CANADIAN SYLLABICS CARRIER |HWE|HWEE|HWI|HWA|THU|THO|THE|THEE|THI|THA|TTU|TTO|TTE|TTEE|TTI|TTA|PU|PO",
    "15ea CANADIAN SYLLABICS CARRIER |PE|PEE|PI|PA|P|GU|GO|GE|GEE|GI|GA|KHU|KHO|KHE|KHEE|KHI|KHA|KKU|KKO|KKE",
    "15fe CANADIAN SYLLABICS CARRIER |KKEE|KKI|KKA|KK|NU|NO|NE|NEE|NI|NA|MU|MO|ME|MEE|MI|MA|YU|YO|YE|YEE|YI|YA",
    "1614 CANADIAN SYLLABICS |CARRIER JU|SAYISI JU|CARRIER JO|CARRIER JE|CARRIER JEE|CARRIER JI|SAYISI JI",
    "161b CANADIAN SYLLABICS CARRIER |JA|JJU|JJO|JJE|JJEE|JJI|JJA|LU|LO|LE|LEE|LI|LA|DLU",
    "1629 CANADIAN SYLLABICS CARRIER |DLO|DLE|DLEE|DLI|DLA|LHU|LHO|LHE|LHEE|LHI|LHA|TLHU|TLHO|TLHE|TLHEE|TLHI",
    "1639 CANADIAN SYLLABICS CARRIER |TLHA|TLU|TLO|TLE|TLEE|TLI|TLA|ZU|ZO|ZE|ZEE|ZI|ZA|Z|INITIAL Z|DZU|DZO",
    "164a CANADIAN SYLLABICS CARRIER |DZE|DZEE|DZI|DZA|SU|SO|SE|SEE|SI|SA|SHU|SHO|SHE|SHEE|SHI|SHA|SH|TSU|TSO",
    "165d CANADIAN SYLLABICS CARRIER |TSE|TSEE|TSI|TSA|CHU|CHO|CHE|CHEE|CHI|CHA|TTSU|TTSO|TTSE|TTSEE|TTSI|TTSA",
    "166d CANADIAN SYLLABICS |CHI SIGN|FULL STOP|QAI|NGAI|NNGI|NNGII|NNGO|NNGOO|NNGA|NNGAA",
    "1677 CANADIAN SYLLABICS WOODS-CREE |THWEE|THWI|THWII|THWO|THWOO|THWA|THWAA|FINAL TH",
    "167f |CANADIAN SYLLABICS BLACKFOOT W|OGHAM SPACE MARK",
    "1681 OGHAM LETTER |BEITH|LUIS|FEARN|SAIL|NION|UATH|DAIR|TINNE|COLL|CEIRT|MUIN|GORT|NGEADAL",
    "168e OGHAM LETTER |STRAIF|RUIS|AILM|ONN|UR|EADHADH|IODHADH|EABHADH|OR|UILLEANN|IFIN|EAMHANCHOLL|PEITH",
    "169b OGHAM |FEATHER MARK|REVERSED FEATHER MARK;16a0 RUNIC LETTER |FEHU FEOH FE F|V|URUZ UR U|YR",
    "16a4 RUNIC LETTER |Y|W|THURISAZ THURS THORN|ETH|ANSUZ A|OS O|AC A|AESC|LONG-BRANCH-OSS O|SHORT-TWIG-OSS O",
    "16ae RUNIC LETTER |O|OE|ON|RAIDO RAD REID R|KAUNA|CEN|KAUN K|G|ENG|GEBO GYFU G|GAR|WUNJO WYNN W",
    "16ba RUNIC LETTER |HAGLAZ H|HAEGL H|LONG-BRANCH-HAGALL H|SHORT-TWIG-HAGALL H|NAUDIZ NYD NAUD N",
    "16bf RUNIC LETTER |SHORT-TWIG-NAUD N|DOTTED-N|ISAZ IS ISS I|E|JERAN J|GER|LONG-BRANCH-AR AE",
    "16c6 RUNIC LETTER |SHORT-TWIG-AR A|IWAZ EOH|PERTHO PEORTH P|ALGIZ EOLHX|SOWILO S|SIGEL LONG-BRANCH-SOL S",
    "16cc RUNIC LETTER |SHORT-TWIG-SOL S|C|Z|TIWAZ TIR TYR T|SHORT-TWIG-TYR T|D|BERKANAN BEORC BJARKAN B",
    "16d3 RUNIC LETTER |SHORT-TWIG-BJARKAN B|DOTTED-P|OPEN-P|EHWAZ EH E|MANNAZ MAN M|LONG-BRANCH-MADR M",
    "16d9 RUNIC LETTER |SHORT-TWIG-MADR M|LAUKAZ LAGU LOGR L|DOTTED-L|INGWAZ|ING|DAGAZ DAEG D|OTHALAN ETHEL O",
    "16e0 RUNIC LETTER |EAR|IOR|CWEORTH|CALC|CEALC|STAN|LONG-BRANCH-YR|SHORT-TWIG-YR|ICELANDIC-YR|Q|X",
    "16eb RUNIC SINGLE |PUNCTUATION",
    "16ec RUNIC |MULTIPLE PUNCTUATION|CROSS PUNCTUATION|ARLAUG SYMBOL|TVIMADUR SYMBOL|BELGTHOR SYMBOL",
    "16f1 RUNIC LETTER |K|SH|OO;16f4 RUNIC LETTER FRANKS CASKET |OS|IS|EH|AC|AESC",
    "1700 TAGALOG LETTER |A|I|U|KA|GA|NGA|TA|DA|NA|PA|BA|MA|YA|RA|LA|WA|SA|HA;1712 TAGALOG VOWEL SIGN |I|U",
    "1714 TAGALOG SIGN |VIRAMA|PAMUDPOD;171f TAGALOG LETTER ARCHAIC |RA",
    "1720 HANUNOO LETTER |A|I|U|KA|GA|NGA|TA|DA|NA|PA|BA|MA|YA|RA|LA|WA|SA|HA",
    "1732 HANUNOO |VOWEL SIGN I|VOWEL SIGN U|SIGN PAMUDPOD;1735 PHILIPPINE |SINGLE PUNCTUATION|DOUBLE PUNCTUATION",
    "1740 BUHID LETTER |A|I|U|KA|GA|NGA|TA|DA|NA|PA|BA|MA|YA|RA|LA|WA|SA|HA;1752 BUHID VOWEL SIGN |I|U",
    "1760 TAGBANWA LETTER |A|I|U|KA|GA|NGA|TA|DA|NA|PA|BA|MA|YA;176e TAGBANWA LETTER |LA|WA|SA",
    "1772 TAGBANWA VOWEL SIGN |I|U;1780 KHMER LETTER |KA|KHA|KO|KHO|NGO|CA|CHA|CO|CHO|NYO",
    "178a KHMER LETTER |DA|TTHA|DO|TTHO|NNO|TA|THA|TO|THO|NO|BA|PHA|PO|PHO|MO|YO|RO|LO|VO|SHA|SSO|SA|HA|LA|QA",
    "17a3 KHMER INDEPENDENT VOWEL |QAQ|QAA",
    "17a5 KHMER INDEPENDENT VOWEL |QI|QII|QU|QUK|QUU|QUUV|RY|RYY|LY|LYY|QE|QAI|QOO TYPE ONE|QOO TYPE TWO|QAU",
    "17b4 KHMER VOWEL INHERENT |AQ|AA;17b6 KHMER VOWEL SIGN |AA|I|II|Y|YY|U|UU|UA|OE|YA|IE|E|AE|AI|OO|AU",
    "17c6 KHMER SIGN |NIKAHIT|REAHMUK|YUUKALEAPINTU|MUUSIKATOAN|TRIISAP|BANTOC|ROBAT|TOANDAKHIAT|KAKABAT|AHSDA",
    "17d0 KHMER SIGN |SAMYOK SANNYA|VIRIAM|COENG|BATHAMASAT|KHAN|BARIYOOSAN|CAMNUC PII KUUH|LEK TOO|BEYYAL",
    "17d9 KHMER |SIGN PHNAEK MUAN|SIGN KOOMUUT|CURRENCY SYMBOL RIEL|SIGN AVAKRAHASANYA|SIGN ATTHACAN",
    "17e0 KHMER DIGIT |ZERO|ONE|TWO|THREE|FOUR|FIVE|SIX|SEVEN|EIGHT|NINE",
    "17f0 KHMER SYMBOL LEK ATTAK |SON|MUOY|PII|BEI|BUON|PRAM|PRAM-MUOY|PRAM-PII|PRAM-BEI|PRAM-BUON",
    "1800 MONGOLIAN |BIRGA|ELLIPSIS|COMMA|FULL STOP|COLON|FOUR DOTS",
    "1806 MONGOLIAN |TODO SOFT HYPHEN|SIBE SYLLABLE BOUNDARY MARKER|MANCHU COMMA|MANCHU FULL STOP|NIRUGU",
    "180b MONGOLIAN FREE VARIATION SELECTOR |ONE|TWO|THREE",
    "180e MONGOLIAN |VOWEL SEPARATOR|FREE VARIATION SELECTOR FOUR",
    "1810 MONGOLIAN DIGIT |ZERO|ONE|TWO|THREE|FOUR|FIVE|SIX|SEVEN|EIGHT|NINE",
    "1820 MONGOLIAN LETTER |A|E|I|O|U|OE|UE|EE|NA|ANG|BA|PA|QA|GA|MA|LA|SA|SHA|TA|DA",
    "1834 MONGOLIAN LETTER |CHA|JA|YA|RA|WA|FA|KA|KHA|TSA|ZA|HAA|ZRA|LHA|ZHI|CHI|TODO LONG VOWEL SIGN|TODO E",
    "1845 MONGOLIAN LETTER TODO |I|O|U|OE|UE|ANG|BA|PA|QA|GA|MA|TA|DA|CHA|JA|TSA|YA|WA|KA|GAA|HAA|JIA|NIA|DZA",
    "185d MONGOLIAN LETTER SIBE |E|I|IY|UE|U|ANG|KA|GA|HA|PA|SHA|TA|DA|JA|FA|GAA|HAA|TSA|ZA|RAA|CHA|ZHA",
    "1873 MONGOLIAN LETTER MANCHU |I|KA|RA|FA|ZHA;1878 MONGOLIAN LETTER CHA WITH TWO |DOTS",
    "1880 MONGOLIAN LETTER ALI GALI |ANUSVARA ONE|VISARGA ONE|DAMARU|UBADAMA|INVERTED UBADAMA|BALUDA",
    "1886 MONGOLIAN LETTER ALI GALI |THREE BALUDA|A|I|KA|NGA|CA|TTA|TTHA|DDA|NNA|TA|DA|PA|PHA|SSA|ZHA|ZA|AH",
    "1898 MONGOLIAN LETTER TODO ALI GALI |TA|ZHA",
    "189a MONGOLIAN LETTER MANCHU ALI GALI |GHA|NGA|CA|JHA|TTA|DDHA|TA|DHA|SSA|CYA|ZHA|ZA",
    "18a6 MONGOLIAN LETTER ALI GALI HALF |U|YA",
    "18a8 MONGOLIAN LETTER |MANCHU ALI GALI BHA|ALI GALI DAGALGA|MANCHU ALI GALI LHA",
    "18b0 CANADIAN SYLLABICS |OY|AY|AAY|WAY|POY|PAY|PWOY",
    "18b7 CANADIAN SYLLABICS |TAY|KAY|KWAY|MAY|NOY|NAY|LAY|SOY|SAY|SHOY|SHAY|SHWOY|YOY|YAY|RAY|NWI|OJIBWAY NWI",
    "18c8 CANADIAN SYLLABICS |NWII|OJIBWAY NWII|NWO|OJIBWAY NWO|NWOO|OJIBWAY NWOO|RWEE|RWI|RWII|RWO|RWOO|RWA",
    "18d4 CANADIAN SYLLABICS OJIBWAY |P|T|K|C|M|N|S|SH",
    "18dc CANADIAN SYLLABICS |EASTERN W|WESTERN W|FINAL SMALL RING|FINAL RAISED DOT",
    "18e0 CANADIAN SYLLABICS |R-CREE RWE|WEST-CREE LOO|WEST-CREE LAA|THWE|THWA|TTHWE|TTHOO|TTHAA|TLHWE|TLHOO",
    "18ea CANADIAN SYLLABICS SAYISI |SHWE|SHOO|HOO;18ed CANADIAN SYLLABICS CARRIER |GWU|DENE GEE|GAA|GWA",
    "18f1 CANADIAN SYLLABICS |SAYISI JUU|CARRIER JWA|BEAVER DENE L|BEAVER DENE R|CARRIER DENTAL S",
    "1900 LIMBU VOWEL-CARRIER |LETTER;1901 LIMBU LETTER |KA|KHA|GA|GHA|NGA",
    "1906 LIMBU LETTER |CA|CHA|JA|JHA|YAN|TA|THA|DA|DHA|NA|PA|PHA|BA|BHA|MA|YA|RA|LA|WA|SHA|SSA|SA|HA|GYAN|TRA",
    "1920 LIMBU VOWEL SIGN |A|I|U|EE|AI|OO|AU|E|O;1929 LIMBU SUBJOINED LETTER |YA|RA|WA",
    "1930 LIMBU SMALL LETTER |KA|NGA|ANUSVARA|TA|NA|PA|MA|RA|LA;1939 LIMBU SIGN |MUKPHRENG|KEMPHRENG|SA-I",
    "1940 LIMBU SIGN |LOO;1944 LIMBU |EXCLAMATION MARK|QUESTION MARK",
    "1946 LIMBU DIGIT |ZERO|ONE|TWO|THREE|FOUR|FIVE|SIX|SEVEN|EIGHT|NINE;1950 TAI LE LETTER |KA|XA|NGA",
    "1953 TAI LE LETTER |TSA|SA|YA|TA|THA|LA|PA|PHA|MA|FA|VA|HA|QA|KHA|TSHA|NA|A|I|EE|EH|U|OO|O|UE|E|AUE|AI",
    "1970 TAI LE LETTER TONE-|2|3|4|5|6;1980 NEW TAI LUE LETTER |HIGH QA|LOW QA|HIGH KA|HIGH XA",
    "1984 NEW TAI LUE LETTER |HIGH NGA|LOW KA|LOW XA|LOW NGA|HIGH TSA|HIGH SA|HIGH YA|LOW TSA|LOW SA|LOW YA",
    "198e NEW TAI LUE LETTER |HIGH TA|HIGH THA|HIGH NA|LOW TA|LOW THA|LOW NA|HIGH PA|HIGH PHA|HIGH MA|LOW PA",
    "1998 NEW TAI LUE LETTER |LOW PHA|LOW MA|HIGH FA|HIGH VA|HIGH LA|LOW FA|LOW VA|LOW LA|HIGH HA|HIGH DA",
    "19a2 NEW TAI LUE LETTER |HIGH BA|LOW HA|LOW DA|LOW BA|HIGH KVA|HIGH XVA|LOW KVA|LOW XVA|HIGH SUA|LOW SUA",
    "19b0 NEW TAI LUE VOWEL SIGN |VOWEL SHORTENER|AA|II|U|UU|E|AE|O|OA|UE|AY|AAY|UY|OY|OAY|UEY|IY",
    "19c1 NEW TAI LUE LETTER FINAL |V|NG|N|M|K|D|B;19c8 NEW TAI LUE TONE MARK-|1|2",
    "19d0 NEW TAI LUE DIGIT |ZERO|ONE|TWO|THREE|FOUR|FIVE|SIX|SEVEN|EIGHT|NINE;19da NEW TAI LUE THAM DIGIT |ONE",
    "19de NEW TAI LUE SIGN |LAE|LAEV",
    "19e0 KHMER SYMBOL |PATHAMASAT|MUOY KOET|PII KOET|BEI KOET|BUON KOET|PRAM KOET|PRAM-MUOY KOET",
    "19e7 KHMER SYMBOL |PRAM-PII KOET|PRAM-BEI KOET|PRAM-BUON KOET|DAP KOET|DAP-MUOY KOET|DAP-PII KOET",
    "19ed KHMER SYMBOL |DAP-BEI KOET|DAP-BUON KOET|DAP-PRAM KOET|TUTEYASAT|MUOY ROC|PII ROC|BEI ROC",
    "19f4 KHMER SYMBOL |BUON ROC|PRAM ROC|PRAM-MUOY ROC|PRAM-PII ROC|PRAM-BEI ROC|PRAM-BUON ROC|DAP ROC",
    "19fb KHMER SYMBOL DAP-|MUOY ROC|PII ROC|BEI ROC|BUON ROC|PRAM ROC",
    "1a00 BUGINESE LETTER |KA|GA|NGA|NGKA|PA|BA|MA|MPA|TA|DA|NA|NRA|CA|JA|NYA|NYCA|YA|RA|LA|VA|SA|A|HA",
    "1a17 BUGINESE VOWEL SIGN |I|U|E|O|AE;1a1e BUGINESE |PALLAWA|END OF SECTION",
    "1a20 TAI THAM LETTER |HIGH KA|HIGH KHA|HIGH KXA|LOW KA|LOW KXA|LOW KHA|NGA|HIGH CA|HIGH CHA|LOW CA|LOW SA",
    "1a2b TAI THAM LETTER |LOW CHA|NYA|RATA|HIGH RATHA|DA|LOW RATHA|RANA|HIGH TA|HIGH THA|LOW TA|LOW THA",
    "1a36 TAI THAM LETTER |NA|BA|HIGH PA|HIGH PHA|HIGH FA|LOW PA|LOW FA|LOW PHA|MA|LOW YA|HIGH YA|RA|RUE|LA",
    "1a44 TAI THAM LETTER |LUE|WA|HIGH SHA|HIGH SSA|HIGH SA|HIGH HA|LLA|A|LOW HA|I|II|U|UU|EE|OO|LAE|GREAT SA",
    "1a55 TAI THAM CONSONANT SIGN |MEDIAL RA|MEDIAL LA|LA TANG LAI;1a58 TAI THAM SIGN MAI KANG |LAI",
    "1a59 TAI THAM CONSONANT SIGN |FINAL NGA|LOW PA|HIGH RATHA OR LOW PA|MA|BA|SA;1a60 TAI THAM SIGN |SAKOT",
    "1a61 TAI THAM VOWEL SIGN |A|MAI SAT|AA|TALL AA|I|II|UE|UUE|U|UU|O|OA BELOW|OY|E|AE|OO|AI|THAM AI|OA ABOVE",
    "1a74 TAI THAM SIGN |MAI KANG|TONE-1|TONE-2;1a77 TAI THAM SIGN KHUEN TONE-|3|4|5",
    "1a7a TAI THAM SIGN |RA HAAM|MAI SAM|KHUEN-LUE KARAN;1a7f TAI THAM COMBINING CRYPTOGRAMMIC |DOT",
    "1a80 TAI THAM HORA DIGIT |ZERO|ONE|TWO|THREE|FOUR|FIVE|SIX|SEVEN|EIGHT|NINE",
    "1a90 TAI THAM THAM DIGIT |ZERO|ONE|TWO|THREE|FOUR|FIVE|SIX|SEVEN|EIGHT|NINE",
    "1aa0 TAI THAM SIGN |WIANG|WIANGWAAK|SAWAN|KEOW",
    "1aa4 TAI THAM SIGN |HOY|DOKMAI|REVERSED ROTATED RANA|MAI YAMOK|KAAN|KAANKUU|SATKAAN|SATKAANKUU|HANG|CAANG",
    "1ab0 COMBINING |DOUBLED CIRCUMFLEX ACCENT|DIAERESIS-RING|INFINITY|DOWNWARDS ARROW",
    "1ab4 COMBINING |TRIPLE DOT|X-X BELOW|WIGGLY LINE BELOW|OPEN MARK BELOW|DOUBLE OPEN MARK BELOW",
    "1ab9 COMBINING |LIGHT CENTRALIZATION STROKE BELOW|STRONG CENTRALIZATION STROKE BELOW",
    "1abb COMBINING |PARENTHESES ABOVE|DOUBLE PARENTHESES ABOVE|PARENTHESES BELOW|PARENTHESES OVERLAY",
    "1abf COMBINING LATIN SMALL LETTER |W BELOW|TURNED W BELOW;1ac1 COMBINING LEFT PARENTHESIS ABOVE |LEFT",
    "1ac2 COMBINING |RIGHT PARENTHESIS ABOVE RIGHT|LEFT PARENTHESIS BELOW LEFT|RIGHT PARENTHESIS BELOW RIGHT",
    "1ac5 COMBINING |SQUARE BRACKETS ABOVE|NUMBER SIGN ABOVE|INVERTED DOUBLE ARCH ABOVE|PLUS SIGN ABOVE",
    "1ac9 COMBINING DOUBLE PLUS SIGN |ABOVE|BELOW;1acb COMBINING TRIPLE ACUTE |ACCENT",
    "1acc COMBINING LATIN SMALL LETTER INSULAR |G|R|T;1b00 BALINESE SIGN |ULU RICEM|ULU CANDRA|CECEK|SURANG|BISAH",
    "1b05 BALINESE LETTER |AKARA|AKARA TEDUNG|IKARA|IKARA TEDUNG|UKARA",
    "1b0a BALINESE LETTER |UKARA TEDUNG|RA REPA|RA REPA TEDUNG|LA LENGA|LA LENGA TEDUNG|EKARA|AIKARA|OKARA",
    "1b12 BALINESE LETTER |OKARA TEDUNG|KA|KA MAHAPRANA|GA|GA GORA|NGA|CA|CA LACA|JA|JA JERA|NYA|TA LATIK",
    "1b1e BALINESE LETTER |TA MURDA MAHAPRANA|DA MURDA ALPAPRANA|DA MURDA MAHAPRANA|NA RAMBAT|TA|TA TAWA",
    "1b24 BALINESE LETTER |DA|DA MADU|NA|PA|PA KAPAL|BA|BA KEMBANG|MA|YA|RA|LA|WA|SA SAGA|SA SAPA|SA|HA",
    "1b34 BALINESE SIGN |REREKAN",
    "1b35 BALINESE VOWEL SIGN |TEDUNG|ULU|ULU SARI|SUKU|SUKU ILUT|RA REPA|RA REPA TEDUNG|LA LENGA",
    "1b3d BALINESE VOWEL SIGN |LA LENGA TEDUNG|TALING|TALING REPA|TALING TEDUNG|TALING REPA TEDUNG|PEPET",
    "1b43 BALINESE |VOWEL SIGN PEPET TEDUNG|ADEG ADEG|LETTER KAF SASAK",
    "1b46 BALINESE LETTER |KHOT SASAK|TZIR SASAK|EF SASAK|VE SASAK|ZAL SASAK|ASYURA SASAK|ARCHAIC JNYA",
    "1b50 BALINESE DIGIT |ZERO|ONE|TWO|THREE|FOUR|FIVE|SIX|SEVEN|EIGHT|NINE",
    "1b5a BALINESE |PANTI|PAMADA|WINDU|CARIK PAMUNGKAH|CARIK SIKI|CARIK PAREREN|PAMENENG",
    "1b61 BALINESE MUSICAL SYMBOL |DONG|DENG|DUNG|DANG|DANG SURANG|DING|DAENG|DEUNG|DAING|DANG GEDE",
    "1b6b BALINESE MUSICAL SYMBOL COMBINING |TEGEH|ENDEP|KEMPUL",
    "1b6e BALINESE MUSICAL SYMBOL COMBINING |KEMPLI|JEGOGAN|KEMPUL WITH JEGOGAN|KEMPLI WITH JEGOGAN|BENDE|GONG",
    "1b74 BALINESE MUSICAL SYMBOL RIGHT-HAND |OPEN DUG|OPEN DAG|CLOSED TUK|CLOSED TAK",
    "1b78 BALINESE MUSICAL SYMBOL LEFT-HAND |OPEN PANG|OPEN PUNG|CLOSED PLAK|CLOSED PLUK|OPEN PING",
    "1b7d BALINESE |PANTI LANTANG|PAMADA LANTANG;1b80 SUNDANESE SIGN |PANYECEK|PANGLAYAR|PANGWISAD",
    "1b83 SUNDANESE LETTER |A|I",
    "1b85 SUNDANESE LETTER |U|AE|O|E|EU|KA|QA|GA|NGA|CA|JA|ZA|NYA|TA|DA|NA|PA|FA|VA|BA|MA|YA|RA|LA|WA|SA|XA|HA",
    "1ba1 SUNDANESE CONSONANT SIGN |PAMINGKAL|PANYAKRA|PANYIKU",
    "1ba4 SUNDANESE VOWEL SIGN |PANGHULU|PANYUKU|PANAELAENG|PANOLONG|PAMEPET|PANEULEUNG",
    "1baa SUNDANESE SIGN |PAMAAEH|VIRAMA;1bac SUNDANESE CONSONANT SIGN PASANGAN |MA|WA;1bae SUNDANESE LETTER |KHA|SYA",
    "1bb0 SUNDANESE DIGIT |ZERO|ONE|TWO|THREE|FOUR|FIVE|SIX|SEVEN|EIGHT|NINE;1bba SUNDANESE |AVAGRAHA",
    "1bbb SUNDANESE LETTER |REU|LEU|BHA|FINAL K|FINAL M;1bc0 BATAK LETTER |A|SIMALUNGUN A|HA|SIMALUNGUN HA",
    "1bc4 BATAK LETTER |MANDAILING HA|BA|KARO BA|PA|SIMALUNGUN PA|NA|MANDAILING NA|WA|SIMALUNGUN WA|PAKPAK WA",
    "1bce BATAK LETTER |GA|SIMALUNGUN GA|JA|DA|RA|SIMALUNGUN RA|MA|SIMALUNGUN MA|SOUTHERN TA|NORTHERN TA|SA",
    "1bd9 BATAK LETTER |SIMALUNGUN SA|MANDAILING SA|YA|SIMALUNGUN YA|NGA|LA|SIMALUNGUN LA|NYA|CA|NDA|MBA|I|U",
    "1be6 BATAK SIGN |TOMPI;1be7 BATAK VOWEL SIGN |E|PAKPAK E|EE|I|KARO I|O|KARO O|U|U FOR SIMALUNGUN SA",
    "1bf0 BATAK CONSONANT SIGN |NG|H;1bf2 BATAK |PANGOLAT|PANONGONAN",
    "1bfc BATAK SYMBOL BINDU |NA METEK|PINARBORAS|JUDUL|PANGOLAT",
    "1c00 LEPCHA LETTER |KA|KLA|KHA|GA|GLA|NGA|CA|CHA|JA|NYA|TA",
    "1c0b LEPCHA LETTER |THA|DA|NA|PA|PLA|PHA|FA|FLA|BA|BLA|MA|MLA|TSA|TSHA|DZA|YA|RA|LA|HA|HLA|VA|SA|SHA|WA|A",
    "1c24 LEPCHA SUBJOINED LETTER |YA|RA;1c26 LEPCHA VOWEL SIGN |AA|I|O|OO|U|UU|E",
    "1c2d LEPCHA CONSONANT SIGN |K|M|L|N|P|R|T|NYIN-DO|KANG;1c36 LEPCHA SIGN |RAN|NUKTA",
    "1c3b LEPCHA PUNCTUATION |TA-ROL|NYET THYOOM TA-ROL|CER-WA|TSHOOK CER-WA|TSHOOK",
    "1c40 LEPCHA DIGIT |ZERO|ONE|TWO|THREE|FOUR|FIVE|SIX|SEVEN|EIGHT|NINE;1c4d LEPCHA LETTER |TTA|TTHA|DDA",
    "1c50 OL CHIKI DIGIT |ZERO|ONE|TWO|THREE|FOUR|FIVE|SIX|SEVEN|EIGHT|NINE;1c5a OL CHIKI LETTER |LA|AT|AG|ANG|AL|LAA",
    "1c60 OL CHIKI LETTER |AAK|AAJ|AAM|AAW|LI|IS|IH|INY|IR|LU|UC|UD|UNN|UY|LE|EP|EDD|EN|ERR|LO|OTT|OB|OV|OH",
    "1c78 OL CHIKI |MU TTUDDAG|GAAHLAA TTUDDAAG|MU-GAAHLAA TTUDDAAG|RELAA|PHAARKAA|AHAD",
    "1c7e OL CHIKI PUNCTUATION |MUCAAD|DOUBLE MUCAAD;1c80 CYRILLIC SMALL LETTER |ROUNDED VE|LONG-LEGGED DE",
    "1c82 CYRILLIC SMALL LETTER |NARROW O|WIDE ES|TALL TE|THREE-LEGGED TE|TALL HARD SIGN|TALL YAT|UNBLENDED UK",
    "1c90 GEORGIAN MTAVRULI CAPITAL LETTER |AN|BAN|GAN|DON|EN|VIN|ZEN|TAN|IN|KAN|LAS|MAN|NAR",
    "1c9d GEORGIAN MTAVRULI CAPITAL LETTER |ON|PAR|ZHAR|RAE|SAN|TAR|UN|PHAR|KHAR|GHAN|QAR|SHIN|CHIN|CAN|JIL",
    "1cac GEORGIAN MTAVRULI CAPITAL LETTER |CIL|CHAR|XAN|JHAN|HAE|HE|HIE|WE|HAR|HOE|FI|YN|ELIFI|TURNED GAN|AIN",
    "1cbd GEORGIAN MTAVRULI CAPITAL LETTER |AEN|HARD SIGN|LABIAL SIGN;1cc0 SUNDANESE PUNCTUATION BINDU |SURYA",
    "1cc1 SUNDANESE PUNCTUATION BINDU |PANGLONG|PURNAMA|CAKRA|LEU SATANGA|KA SATANGA|DA SATANGA|BA SATANGA",
    "1cd0 VEDIC TONE |KARSHANA|SHARA|PRENKHA",
    "1cd3 VEDIC |SIGN NIHSHVASA|SIGN YAJURVEDIC MIDLINE SVARITA|TONE YAJURVEDIC AGGRAVATED INDEPENDENT SVARITA",
    "1cd6 VEDIC TONE YAJURVEDIC |INDEPENDENT SVARITA|KATHAKA INDEPENDENT SVARITA",
    "1cd8 VEDIC TONE |CANDRA BELOW|YAJURVEDIC KATHAKA INDEPENDENT SVARITA SCHROEDER",
    "1cda VEDIC TONE |DOUBLE SVARITA|TRIPLE SVARITA|KATHAKA ANUDATTA|DOT BELOW|TWO DOTS BELOW",
    "1cdf VEDIC TONE |THREE DOTS BELOW|RIGVEDIC KASHMIRI INDEPENDENT SVARITA|ATHARVAVEDIC INDEPENDENT SVARITA",
    "1ce2 VEDIC SIGN |VISARGA SVARITA|VISARGA UDATTA|REVERSED VISARGA UDATTA|VISARGA ANUDATTA",
    "1ce6 VEDIC SIGN |REVERSED VISARGA ANUDATTA|VISARGA UDATTA WITH TAIL|VISARGA ANUDATTA WITH TAIL",
    "1ce9 VEDIC SIGN ANUSVARA |ANTARGOMUKHA|BAHIRGOMUKHA|VAMAGOMUKHA|VAMAGOMUKHA WITH TAIL",
    "1ced VEDIC SIGN |TIRYAK|HEXIFORM LONG ANUSVARA|LONG ANUSVARA|RTHANG LONG ANUSVARA|ANUSVARA UBHAYATO MUKHA",
    "1cf2 VEDIC |SIGN ARDHAVISARGA|SIGN ROTATED ARDHAVISARGA|TONE CANDRA ABOVE",
    "1cf5 VEDIC SIGN |JIHVAMULIYA|UPADHMANIYA|ATIKRAMA",
    "1cf8 VEDIC |TONE RING ABOVE|TONE DOUBLE RING ABOVE|SIGN DOUBLE ANUSVARA ANTARGOMUKHA",
    "1d00 LATIN LETTER SMALL CAPITAL |A|AE;1d02 LATIN SMALL LETTER TURNED |AE",
    "1d03 LATIN LETTER SMALL CAPITAL |BARRED B|C|D|ETH|E;1d08 LATIN SMALL LETTER TURNED |OPEN E|I",
    "1d0a LATIN LETTER SMALL CAPITAL |J|K|L WITH STROKE|M|REVERSED N|O|OPEN O",
    "1d11 LATIN SMALL LETTER SIDEWAYS |O|OPEN O|O WITH STROKE",
    "1d14 LATIN |SMALL LETTER TURNED OE|LETTER SMALL CAPITAL OU;1d16 LATIN SMALL LETTER |TOP HALF O|BOTTOM HALF O",
    "1d18 LATIN LETTER SMALL CAPITAL |P|REVERSED R|TURNED R|T|U",
    "1d1d LATIN SMALL LETTER SIDEWAYS |U|DIAERESIZED U|TURNED M;1d20 LATIN LETTER SMALL CAPITAL |V|W|Z|EZH",
    "1d24 LATIN LETTER |VOICED LARYNGEAL SPIRANT|AIN;1d26 GREEK LETTER SMALL CAPITAL |GAMMA|LAMDA|PI|RHO|PSI",
    "1d2b CYRILLIC LETTER SMALL CAPITAL |EL",
    "1d2c MODIFIER LETTER CAPITAL |A|AE|B|BARRED B|D|E|REVERSED E|G|H|I|J|K|L|M|N|REVERSED N|O|OU|P|R|T|U|W",
    "1d43 MODIFIER LETTER SMALL |A|TURNED A|ALPHA|TURNED AE|B|D|E|SCHWA",
    "1d4b MODIFIER LETTER SMALL |OPEN E|TURNED OPEN E|G|TURNED I|K|M|ENG|O|OPEN O|TOP HALF O|BOTTOM HALF O",
    "1d56 MODIFIER LETTER SMALL |P|T|U|SIDEWAYS U|TURNED M|V|AIN|BETA|GREEK GAMMA|DELTA|GREEK PHI|CHI",
    "1d62 LATIN SUBSCRIPT SMALL LETTER |I|R|U|V;1d66 GREEK SUBSCRIPT SMALL LETTER |BETA|GAMMA|RHO|PHI|CHI",
    "1d6b LATIN SMALL LETTER |UE|B WITH MIDDLE TILDE|D WITH MIDDLE TILDE",
    "1d6e LATIN SMALL LETTER |F WITH MIDDLE TILDE|M WITH MIDDLE TILDE|N WITH MIDDLE TILDE|P WITH MIDDLE TILDE",
    "1d72 LATIN SMALL LETTER R WITH |MIDDLE TILDE|FISHHOOK AND MIDDLE TILDE",
    "1d74 LATIN SMALL LETTER |S WITH MIDDLE TILDE|T WITH MIDDLE TILDE|Z WITH MIDDLE TILDE|TURNED G",
    "1d78 MODIFIER LETTER CYRILLIC |EN",
    "1d79 LATIN SMALL |LETTER INSULAR G|LETTER TH WITH STRIKETHROUGH|CAPITAL LETTER I WITH STROKE",
    "1d7c LATIN SMALL |LETTER IOTA WITH STROKE|LETTER P WITH STROKE|CAPITAL LETTER U WITH STROKE",
    "1d7f LATIN SMALL LETTER |UPSILON WITH STROKE|B WITH PALATAL HOOK|D WITH PALATAL HOOK",
    "1d82 LATIN SMALL LETTER |F WITH PALATAL HOOK|G WITH PALATAL HOOK|K WITH PALATAL HOOK|L WITH PALATAL HOOK",
    "1d86 LATIN SMALL LETTER |M WITH PALATAL HOOK|N WITH PALATAL HOOK|P WITH PALATAL HOOK|R WITH PALATAL HOOK",
    "1d8a LATIN SMALL LETTER |S WITH PALATAL HOOK|ESH WITH PALATAL HOOK|V WITH PALATAL HOOK",
    "1d8d LATIN SMALL LETTER |X WITH PALATAL HOOK|Z WITH PALATAL HOOK|A WITH RETROFLEX HOOK",
    "1d90 LATIN SMALL LETTER |ALPHA WITH RETROFLEX HOOK|D WITH HOOK AND TAIL|E WITH RETROFLEX HOOK",
    "1d93 LATIN SMALL LETTER |OPEN E WITH RETROFLEX HOOK|REVERSED OPEN E WITH RETROFLEX HOOK",
    "1d95 LATIN SMALL LETTER |SCHWA WITH RETROFLEX HOOK|I WITH RETROFLEX HOOK|OPEN O WITH RETROFLEX HOOK",
    "1d98 LATIN SMALL LETTER |ESH WITH RETROFLEX HOOK|U WITH RETROFLEX HOOK|EZH WITH RETROFLEX HOOK",
    "1d9b MODIFIER LETTER SMALL |TURNED ALPHA|C|C WITH CURL|ETH|REVERSED OPEN E|F|DOTLESS J WITH STROKE",
    "1da2 MODIFIER LETTER SMALL |SCRIPT G|TURNED H|I WITH STROKE|IOTA|CAPITAL I|CAPITAL I WITH STROKE",
    "1da8 MODIFIER LETTER SMALL |J WITH CROSSED-TAIL|L WITH RETROFLEX HOOK|L WITH PALATAL HOOK|CAPITAL L",
    "1dac MODIFIER LETTER SMALL |M WITH HOOK|TURNED M WITH LONG LEG|N WITH LEFT HOOK|N WITH RETROFLEX HOOK",
    "1db0 MODIFIER LETTER SMALL |CAPITAL N|BARRED O|PHI|S WITH HOOK|ESH|T WITH PALATAL HOOK|U BAR|UPSILON",
    "1db8 MODIFIER LETTER SMALL |CAPITAL U|V WITH HOOK|TURNED V|Z|Z WITH RETROFLEX HOOK|Z WITH CURL|EZH|THETA",
    "1dc0 COMBINING DOTTED |GRAVE ACCENT|ACUTE ACCENT",
    "1dc2 COMBINING |SNAKE BELOW|SUSPENSION MARK|MACRON-ACUTE|GRAVE-MACRON|MACRON-GRAVE",
    "1dc7 COMBINING |ACUTE-MACRON|GRAVE-ACUTE-GRAVE|ACUTE-GRAVE-ACUTE|LATIN SMALL LETTER R BELOW|BREVE-MACRON",
    "1dcc COMBINING |MACRON-BREVE|DOUBLE CIRCUMFLEX ABOVE|OGONEK ABOVE|ZIGZAG BELOW|IS BELOW|UR ABOVE|US ABOVE",
    "1dd3 COMBINING LATIN SMALL LETTER |FLATTENED OPEN A ABOVE|AE|AO|AV|C CEDILLA|INSULAR D|ETH|G",
    "1ddb COMBINING LATIN |LETTER SMALL CAPITAL G|SMALL LETTER K|SMALL LETTER L|LETTER SMALL CAPITAL L",
    "1ddf COMBINING LATIN |LETTER SMALL CAPITAL M|SMALL LETTER N|LETTER SMALL CAPITAL N|LETTER SMALL CAPITAL R",
    "1de3 COMBINING LATIN SMALL LETTER |R ROTUNDA|S|LONG S|Z|ALPHA|B|BETA",
    "1dea COMBINING LATIN SMALL LETTER |SCHWA|F|L WITH DOUBLE MIDDLE TILDE|O WITH LIGHT CENTRALIZATION STROKE",
    "1dee COMBINING LATIN SMALL LETTER |P|ESH|U WITH LIGHT CENTRALIZATION STROKE",
    "1df1 COMBINING LATIN SMALL LETTER |W|A WITH DIAERESIS|O WITH DIAERESIS|U WITH DIAERESIS",
    "1df5 COMBINING |UP TACK ABOVE|KAVYKA ABOVE RIGHT|KAVYKA ABOVE LEFT|DOT ABOVE LEFT",
    "1df9 COMBINING |WIDE INVERTED BRIDGE BELOW|DOT BELOW LEFT|DELETION MARK|DOUBLE INVERTED BREVE BELOW",
    "1dfd COMBINING |ALMOST EQUAL TO BELOW|LEFT ARROWHEAD ABOVE|RIGHT ARROWHEAD AND DOWN ARROWHEAD BELOW",
    "1e00 LATIN |CAPITAL LETTER A WITH RING BELOW|SMALL LETTER A WITH RING BELOW",
    "1e02 LATIN |CAPITAL LETTER B WITH DOT ABOVE|SMALL LETTER B WITH DOT ABOVE|CAPITAL LETTER B WITH DOT BELOW",
    "1e05 LATIN |SMALL LETTER B WITH DOT BELOW|CAPITAL LETTER B WITH LINE BELOW|SMALL LETTER B WITH LINE BELOW",
    "1e08 LATIN |CAPITAL LETTER C WITH CEDILLA AND ACUTE|SMALL LETTER C WITH CEDILLA AND ACUTE",
    "1e0a LATIN |CAPITAL LETTER D WITH DOT ABOVE|SMALL LETTER D WITH DOT ABOVE|CAPITAL LETTER D WITH DOT BELOW",
    "1e0d LATIN |SMALL LETTER D WITH DOT BELOW|CAPITAL LETTER D WITH LINE BELOW",
    "1e0f LATIN |SMALL LETTER D WITH LINE BELOW|CAPITAL LETTER D WITH CEDILLA|SMALL LETTER D WITH CEDILLA",
    "1e12 LATIN |CAPITAL LETTER D WITH CIRCUMFLEX BELOW|SMALL LETTER D WITH CIRCUMFLEX BELOW",
    "1e14 LATIN |CAPITAL LETTER E WITH MACRON AND GRAVE|SMALL LETTER E WITH MACRON AND GRAVE",
    "1e16 LATIN |CAPITAL LETTER E WITH MACRON AND ACUTE|SMALL LETTER E WITH MACRON AND ACUTE",
    "1e18 LATIN |CAPITAL LETTER E WITH CIRCUMFLEX BELOW|SMALL LETTER E WITH CIRCUMFLEX BELOW",
    "1e1a LATIN |CAPITAL LETTER E WITH TILDE BELOW|SMALL LETTER E WITH TILDE BELOW",
    "1e1c LATIN |CAPITAL LETTER E WITH CEDILLA AND BREVE|SMALL LETTER E WITH CEDILLA AND BREVE",
    "1e1e LATIN |CAPITAL LETTER F WITH DOT ABOVE|SMALL LETTER F WITH DOT ABOVE",
    "1e20 LATIN |CAPITAL LETTER G WITH MACRON|SMALL LETTER G WITH MACRON|CAPITAL LETTER H WITH DOT ABOVE",
    "1e23 LATIN |SMALL LETTER H WITH DOT ABOVE|CAPITAL LETTER H WITH DOT BELOW|SMALL LETTER H WITH DOT BELOW",
    "1e26 LATIN |CAPITAL LETTER H WITH DIAERESIS|SMALL LETTER H WITH DIAERESIS|CAPITAL LETTER H WITH CEDILLA",
    "1e29 LATIN |SMALL LETTER H WITH CEDILLA|CAPITAL LETTER H WITH BREVE BELOW|SMALL LETTER H WITH BREVE BELOW",
    "1e2c LATIN |CAPITAL LETTER I WITH TILDE BELOW|SMALL LETTER I WITH TILDE BELOW",
    "1e2e LATIN |CAPITAL LETTER I WITH DIAERESIS AND ACUTE|SMALL LETTER I WITH DIAERESIS AND ACUTE",
    "1e30 LATIN |CAPITAL LETTER K WITH ACUTE|SMALL LETTER K WITH ACUTE|CAPITAL LETTER K WITH DOT BELOW",
    "1e33 LATIN |SMALL LETTER K WITH DOT BELOW|CAPITAL LETTER K WITH LINE BELOW",
    "1e35 LATIN |SMALL LETTER K WITH LINE BELOW|CAPITAL LETTER L WITH DOT BELOW|SMALL LETTER L WITH DOT BELOW",
    "1e38 LATIN |CAPITAL LETTER L WITH DOT BELOW AND MACRON|SMALL LETTER L WITH DOT BELOW AND MACRON",
    "1e3a LATIN |CAPITAL LETTER L WITH LINE BELOW|SMALL LETTER L WITH LINE BELOW",
    "1e3c LATIN |CAPITAL LETTER L WITH CIRCUMFLEX BELOW|SMALL LETTER L WITH CIRCUMFLEX BELOW",
    "1e3e LATIN |CAPITAL LETTER M WITH ACUTE|SMALL LETTER M WITH ACUTE|CAPITAL LETTER M WITH DOT ABOVE",
    "1e41 LATIN |SMALL LETTER M WITH DOT ABOVE|CAPITAL LETTER M WITH DOT BELOW|SMALL LETTER M WITH DOT BELOW",
    "1e44 LATIN |CAPITAL LETTER N WITH DOT ABOVE|SMALL LETTER N WITH DOT ABOVE|CAPITAL LETTER N WITH DOT BELOW",
    "1e47 LATIN |SMALL LETTER N WITH DOT BELOW|CAPITAL LETTER N WITH LINE BELOW",
    "1e49 LATIN |SMALL LETTER N WITH LINE BELOW|CAPITAL LETTER N WITH CIRCUMFLEX BELOW",
    "1e4b LATIN |SMALL LETTER N WITH CIRCUMFLEX BELOW|CAPITAL LETTER O WITH TILDE AND ACUTE",
    "1e4d LATIN |SMALL LETTER O WITH TILDE AND ACUTE|CAPITAL LETTER O WITH TILDE AND DIAERESIS",
    "1e4f LATIN |SMALL LETTER O WITH TILDE AND DIAERESIS|CAPITAL LETTER O WITH MACRON AND GRAVE",
    "1e51 LATIN |SMALL LETTER O WITH MACRON AND GRAVE|CAPITAL LETTER O WITH MACRON AND ACUTE",
    "1e53 LATIN |SMALL LETTER O WITH MACRON AND ACUTE|CAPITAL LETTER P WITH ACUTE",
    "1e55 LATIN |SMALL LETTER P WITH ACUTE|CAPITAL LETTER P WITH DOT ABOVE|SMALL LETTER P WITH DOT ABOVE",
    "1e58 LATIN |CAPITAL LETTER R WITH DOT ABOVE|SMALL LETTER R WITH DOT ABOVE|CAPITAL LETTER R WITH DOT BELOW",
    "1e5b LATIN |SMALL LETTER R WITH DOT BELOW|CAPITAL LETTER R WITH DOT BELOW AND MACRON",
    "1e5d LATIN |SMALL LETTER R WITH DOT BELOW AND MACRON|CAPITAL LETTER R WITH LINE BELOW",
    "1e5f LATIN |SMALL LETTER R WITH LINE BELOW|CAPITAL LETTER S WITH DOT ABOVE",
    "1e61 LATIN |SMALL LETTER S WITH DOT ABOVE|CAPITAL LETTER S WITH DOT BELOW|SMALL LETTER S WITH DOT BELOW",
    "1e64 LATIN |CAPITAL LETTER S WITH ACUTE AND DOT ABOVE|SMALL LETTER S WITH ACUTE AND DOT ABOVE",
    "1e66 LATIN |CAPITAL LETTER S WITH CARON AND DOT ABOVE|SMALL LETTER S WITH CARON AND DOT ABOVE",
    "1e68 LATIN |CAPITAL LETTER S WITH DOT BELOW AND DOT ABOVE|SMALL LETTER S WITH DOT BELOW AND DOT ABOVE",
    "1e6a LATIN |CAPITAL LETTER T WITH DOT ABOVE|SMALL LETTER T WITH DOT ABOVE|CAPITAL LETTER T WITH DOT BELOW",
    "1e6d LATIN |SMALL LETTER T WITH DOT BELOW|CAPITAL LETTER T WITH LINE BELOW",
    "1e6f LATIN |SMALL LETTER T WITH LINE BELOW|CAPITAL LETTER T WITH CIRCUMFLEX BELOW",
    "1e71 LATIN |SMALL LETTER T WITH CIRCUMFLEX BELOW|CAPITAL LETTER U WITH DIAERESIS BELOW",
    "1e73 LATIN |SMALL LETTER U WITH DIAERESIS BELOW|CAPITAL LETTER U WITH TILDE BELOW",
    "1e75 LATIN |SMALL LETTER U WITH TILDE BELOW|CAPITAL LETTER U WITH CIRCUMFLEX BELOW",
    "1e77 LATIN |SMALL LETTER U WITH CIRCUMFLEX BELOW|CAPITAL LETTER U WITH TILDE AND ACUTE",
    "1e79 LATIN |SMALL LETTER U WITH TILDE AND ACUTE|CAPITAL LETTER U WITH MACRON AND DIAERESIS",
    "1e7b LATIN |SMALL LETTER U WITH MACRON AND DIAERESIS|CAPITAL LETTER V WITH TILDE",
    "1e7d LATIN |SMALL LETTER V WITH TILDE|CAPITAL LETTER V WITH DOT BELOW|SMALL LETTER V WITH DOT BELOW",
    "1e80 LATIN |CAPITAL LETTER W WITH GRAVE|SMALL LETTER W WITH GRAVE|CAPITAL LETTER W WITH ACUTE",
    "1e83 LATIN |SMALL LETTER W WITH ACUTE|CAPITAL LETTER W WITH DIAERESIS|SMALL LETTER W WITH DIAERESIS",
    "1e86 LATIN |CAPITAL LETTER W WITH DOT ABOVE|SMALL LETTER W WITH DOT ABOVE|CAPITAL LETTER W WITH DOT BELOW",
    "1e89 LATIN |SMALL LETTER W WITH DOT BELOW|CAPITAL LETTER X WITH DOT ABOVE|SMALL LETTER X WITH DOT ABOVE",
    "1e8c LATIN |CAPITAL LETTER X WITH DIAERESIS|SMALL LETTER X WITH DIAERESIS|CAPITAL LETTER Y WITH DOT ABOVE",
    "1e8f LATIN |SMALL LETTER Y WITH DOT ABOVE|CAPITAL LETTER Z WITH CIRCUMFLEX",
    "1e91 LATIN |SMALL LETTER Z WITH CIRCUMFLEX|CAPITAL LETTER Z WITH DOT BELOW",
    "1e93 LATIN |SMALL LETTER Z WITH DOT BELOW|CAPITAL LETTER Z WITH LINE BELOW",
    "1e95 LATIN SMALL LETTER |Z WITH LINE BELOW|H WITH LINE BELOW",
    "1e97 LATIN SMALL LETTER |T WITH DIAERESIS|W WITH RING ABOVE|Y WITH RING ABOVE|A WITH RIGHT HALF RING",
    "1e9b LATIN SMALL LETTER LONG S WITH |DOT ABOVE|DIAGONAL STROKE|HIGH STROKE",
    "1e9e LATIN |CAPITAL LETTER SHARP S|SMALL LETTER DELTA|CAPITAL LETTER A WITH DOT BELOW",
    "1ea1 LATIN |SMALL LETTER A WITH DOT BELOW|CAPITAL LETTER A WITH HOOK ABOVE",
    "1ea3 LATIN |SMALL LETTER A WITH HOOK ABOVE|CAPITAL LETTER A WITH CIRCUMFLEX AND ACUTE",
    "1ea5 LATIN |SMALL LETTER A WITH CIRCUMFLEX AND ACUTE|CAPITAL LETTER A WITH CIRCUMFLEX AND GRAVE",
    "1ea7 LATIN |SMALL LETTER A WITH CIRCUMFLEX AND GRAVE|CAPITAL LETTER A WITH CIRCUMFLEX AND HOOK ABOVE",
    "1ea9 LATIN |SMALL LETTER A WITH CIRCUMFLEX AND HOOK ABOVE|CAPITAL LETTER A WITH CIRCUMFLEX AND TILDE",
    "1eab LATIN |SMALL LETTER A WITH CIRCUMFLEX AND TILDE|CAPITAL LETTER A WITH CIRCUMFLEX AND DOT BELOW",
    "1ead LATIN |SMALL LETTER A WITH CIRCUMFLEX AND DOT BELOW|CAPITAL LETTER A WITH BREVE AND ACUTE",
    "1eaf LATIN |SMALL LETTER A WITH BREVE AND ACUTE|CAPITAL LETTER A WITH BREVE AND GRAVE",
    "1eb1 LATIN |SMALL LETTER A WITH BREVE AND GRAVE|CAPITAL LETTER A WITH BREVE AND HOOK ABOVE",
    "1eb3 LATIN |SMALL LETTER A WITH BREVE AND HOOK ABOVE|CAPITAL LETTER A WITH BREVE AND TILDE",
    "1eb5 LATIN |SMALL LETTER A WITH BREVE AND TILDE|CAPITAL LETTER A WITH BREVE AND DOT BELOW",
    "1eb7 LATIN |SMALL LETTER A WITH BREVE AND DOT BELOW|CAPITAL LETTER E WITH DOT BELOW",
    "1eb9 LATIN |SMALL LETTER E WITH DOT BELOW|CAPITAL LETTER E WITH HOOK ABOVE",
    "1ebb LATIN |SMALL LETTER E WITH HOOK ABOVE|CAPITAL LETTER E WITH TILDE|SMALL LETTER E WITH TILDE",
    "1ebe LATIN |CAPITAL LETTER E WITH CIRCUMFLEX AND ACUTE|SMALL LETTER E WITH CIRCUMFLEX AND ACUTE",
    "1ec0 LATIN |CAPITAL LETTER E WITH CIRCUMFLEX AND GRAVE|SMALL LETTER E WITH CIRCUMFLEX AND GRAVE",
    "1ec2 LATIN |CAPITAL LETTER E WITH CIRCUMFLEX AND HOOK ABOVE|SMALL LETTER E WITH CIRCUMFLEX AND HOOK ABOVE",
    "1ec4 LATIN |CAPITAL LETTER E WITH CIRCUMFLEX AND TILDE|SMALL LETTER E WITH CIRCUMFLEX AND TILDE",
    "1ec6 LATIN |CAPITAL LETTER E WITH CIRCUMFLEX AND DOT BELOW|SMALL LETTER E WITH CIRCUMFLEX AND DOT BELOW",
    "1ec8 LATIN |CAPITAL LETTER I WITH HOOK ABOVE|SMALL LETTER I WITH HOOK ABOVE",
    "1eca LATIN |CAPITAL LETTER I WITH DOT BELOW|SMALL LETTER I WITH DOT BELOW|CAPITAL LETTER O WITH DOT BELOW",
    "1ecd LATIN |SMALL LETTER O WITH DOT BELOW|CAPITAL LETTER O WITH HOOK ABOVE",
    "1ecf LATIN |SMALL LETTER O WITH HOOK ABOVE|CAPITAL LETTER O WITH CIRCUMFLEX AND ACUTE",
    "1ed1 LATIN |SMALL LETTER O WITH CIRCUMFLEX AND ACUTE|CAPITAL LETTER O WITH CIRCUMFLEX AND GRAVE",
    "1ed3 LATIN |SMALL LETTER O WITH CIRCUMFLEX AND GRAVE|CAPITAL LETTER O WITH CIRCUMFLEX AND HOOK ABOVE",
    "1ed5 LATIN |SMALL LETTER O WITH CIRCUMFLEX AND HOOK ABOVE|CAPITAL LETTER O WITH CIRCUMFLEX AND TILDE",
    "1ed7 LATIN |SMALL LETTER O WITH CIRCUMFLEX AND TILDE|CAPITAL LETTER O WITH CIRCUMFLEX AND DOT BELOW",
    "1ed9 LATIN |SMALL LETTER O WITH CIRCUMFLEX AND DOT BELOW|CAPITAL LETTER O WITH HORN AND ACUTE",
    "1edb LATIN |SMALL LETTER O WITH HORN AND ACUTE|CAPITAL LETTER O WITH HORN AND GRAVE",
    "1edd LATIN |SMALL LETTER O WITH HORN AND GRAVE|CAPITAL LETTER O WITH HORN AND HOOK ABOVE",
    "1edf LATIN |SMALL LETTER O WITH HORN AND HOOK ABOVE|CAPITAL LETTER O WITH HORN AND TILDE",
    "1ee1 LATIN |SMALL LETTER O WITH HORN AND TILDE|CAPITAL LETTER O WITH HORN AND DOT BELOW",
    "1ee3 LATIN |SMALL LETTER O WITH HORN AND DOT BELOW|CAPITAL LETTER U WITH DOT BELOW",
    "1ee5 LATIN |SMALL LETTER U WITH DOT BELOW|CAPITAL LETTER U WITH HOOK ABOVE|SMALL LETTER U WITH HOOK ABOVE",
    "1ee8 LATIN |CAPITAL LETTER U WITH HORN AND ACUTE|SMALL LETTER U WITH HORN AND ACUTE",
    "1eea LATIN |CAPITAL LETTER U WITH HORN AND GRAVE|SMALL LETTER U WITH HORN AND GRAVE",
    "1eec LATIN |CAPITAL LETTER U WITH HORN AND HOOK ABOVE|SMALL LETTER U WITH HORN AND HOOK ABOVE",
    "1eee LATIN |CAPITAL LETTER U WITH HORN AND TILDE|SMALL LETTER U WITH HORN AND TILDE",
    "1ef0 LATIN |CAPITAL LETTER U WITH HORN AND DOT BELOW|SMALL LETTER U WITH HORN AND DOT BELOW",
    "1ef2 LATIN |CAPITAL LETTER Y WITH GRAVE|SMALL LETTER Y WITH GRAVE|CAPITAL LETTER Y WITH DOT BELOW",
    "1ef5 LATIN |SMALL LETTER Y WITH DOT BELOW|CAPITAL LETTER Y WITH HOOK ABOVE",
    "1ef7 LATIN |SMALL LETTER Y WITH HOOK ABOVE|CAPITAL LETTER Y WITH TILDE|SMALL LETTER Y WITH TILDE",
    "1efa LATIN |CAPITAL LETTER MIDDLE-WELSH LL|SMALL LETTER MIDDLE-WELSH LL|CAPITAL LETTER MIDDLE-WELSH V",
    "1efd LATIN |SMALL LETTER MIDDLE-WELSH V|CAPITAL LETTER Y WITH LOOP|SMALL LETTER Y WITH LOOP",
    "1f00 GREEK SMALL LETTER ALPHA WITH |PSILI|DASIA|PSILI AND VARIA|DASIA AND VARIA|PSILI AND OXIA",
    "1f05 GREEK SMALL LETTER ALPHA WITH |DASIA AND OXIA|PSILI AND PERISPOMENI|DASIA AND PERISPOMENI",
    "1f08 GREEK CAPITAL LETTER ALPHA WITH |PSILI|DASIA|PSILI AND VARIA|DASIA AND VARIA|PSILI AND OXIA",
    "1f0d GREEK CAPITAL LETTER ALPHA WITH |DASIA AND OXIA|PSILI AND PERISPOMENI|DASIA AND PERISPOMENI",
    "1f10 GREEK SMALL LETTER EPSILON WITH |PSILI",
    "1f11 GREEK SMALL LETTER EPSILON WITH |DASIA|PSILI AND VARIA|DASIA AND VARIA|PSILI AND OXIA|DASIA AND OXIA",
    "1f18 GREEK CAPITAL LETTER EPSILON WITH |PSILI|DASIA",
    "1f1a GREEK CAPITAL LETTER EPSILON WITH |PSILI AND VARIA|DASIA AND VARIA|PSILI AND OXIA|DASIA AND OXIA",
    "1f20 GREEK SMALL LETTER ETA WITH |PSILI|DASIA|PSILI AND VARIA|DASIA AND VARIA|PSILI AND OXIA",
    "1f25 GREEK SMALL LETTER ETA WITH |DASIA AND OXIA|PSILI AND PERISPOMENI|DASIA AND PERISPOMENI",
    "1f28 GREEK CAPITAL LETTER ETA WITH |PSILI|DASIA|PSILI AND VARIA|DASIA AND VARIA|PSILI AND OXIA",
    "1f2d GREEK CAPITAL LETTER ETA WITH |DASIA AND OXIA|PSILI AND PERISPOMENI|DASIA AND PERISPOMENI",
    "1f30 GREEK SMALL LETTER IOTA WITH |PSILI|DASIA|PSILI AND VARIA|DASIA AND VARIA|PSILI AND OXIA",
    "1f35 GREEK SMALL LETTER IOTA WITH |DASIA AND OXIA|PSILI AND PERISPOMENI|DASIA AND PERISPOMENI",
    "1f38 GREEK CAPITAL LETTER IOTA WITH |PSILI|DASIA|PSILI AND VARIA|DASIA AND VARIA|PSILI AND OXIA",
    "1f3d GREEK CAPITAL LETTER IOTA WITH |DASIA AND OXIA|PSILI AND PERISPOMENI|DASIA AND PERISPOMENI",
    "1f40 GREEK SMALL LETTER OMICRON WITH |PSILI",
    "1f41 GREEK SMALL LETTER OMICRON WITH |DASIA|PSILI AND VARIA|DASIA AND VARIA|PSILI AND OXIA|DASIA AND OXIA",
    "1f48 GREEK CAPITAL LETTER OMICRON WITH |PSILI|DASIA",
    "1f4a GREEK CAPITAL LETTER OMICRON WITH |PSILI AND VARIA|DASIA AND VARIA|PSILI AND OXIA|DASIA AND OXIA",
    "1f50 GREEK SMALL LETTER UPSILON WITH |PSILI|DASIA|PSILI AND VARIA|DASIA AND VARIA|PSILI AND OXIA",
    "1f55 GREEK SMALL LETTER UPSILON WITH |DASIA AND OXIA|PSILI AND PERISPOMENI|DASIA AND PERISPOMENI",
    "1f59 GREEK CAPITAL LETTER UPSILON WITH |DASIA;1f5b GREEK CAPITAL LETTER UPSILON WITH DASIA AND |VARIA",
    "1f5d GREEK CAPITAL LETTER UPSILON WITH DASIA AND |OXIA",
    "1f5f GREEK CAPITAL LETTER UPSILON WITH DASIA AND |PERISPOMENI",
    "1f60 GREEK SMALL LETTER OMEGA WITH |PSILI|DASIA|PSILI AND VARIA|DASIA AND VARIA|PSILI AND OXIA",
    "1f65 GREEK SMALL LETTER OMEGA WITH |DASIA AND OXIA|PSILI AND PERISPOMENI|DASIA AND PERISPOMENI",
    "1f68 GREEK CAPITAL LETTER OMEGA WITH |PSILI|DASIA|PSILI AND VARIA|DASIA AND VARIA|PSILI AND OXIA",
    "1f6d GREEK CAPITAL LETTER OMEGA WITH |DASIA AND OXIA|PSILI AND PERISPOMENI|DASIA AND PERISPOMENI",
    "1f70 GREEK SMALL LETTER |ALPHA WITH VARIA|ALPHA WITH OXIA|EPSILON WITH VARIA",
    "1f73 GREEK SMALL LETTER |EPSILON WITH OXIA|ETA WITH VARIA|ETA WITH OXIA|IOTA WITH VARIA|IOTA WITH OXIA",
    "1f78 GREEK SMALL LETTER OMICRON WITH |VARIA|OXIA",
    "1f7a GREEK SMALL LETTER |UPSILON WITH VARIA|UPSILON WITH OXIA|OMEGA WITH VARIA|OMEGA WITH OXIA",
    "1f80 GREEK SMALL LETTER ALPHA WITH |PSILI AND YPOGEGRAMMENI|DASIA AND YPOGEGRAMMENI",
    "1f82 GREEK SMALL LETTER ALPHA WITH |PSILI AND VARIA AND YPOGEGRAMMENI|DASIA AND VARIA AND YPOGEGRAMMENI",
    "1f84 GREEK SMALL LETTER ALPHA WITH |PSILI AND OXIA AND YPOGEGRAMMENI|DASIA AND OXIA AND YPOGEGRAMMENI",
    "1f86 GREEK SMALL LETTER ALPHA WITH PSILI AND PERISPOMENI AND |YPOGEGRAMMENI",
    "1f87 GREEK SMALL LETTER ALPHA WITH DASIA AND PERISPOMENI AND |YPOGEGRAMMENI",
    "1f88 GREEK CAPITAL LETTER ALPHA WITH PSILI AND |PROSGEGRAMMENI",
    "1f89 GREEK CAPITAL LETTER ALPHA WITH |DASIA AND PROSGEGRAMMENI|PSILI AND VARIA AND PROSGEGRAMMENI",
    "1f8b GREEK CAPITAL LETTER ALPHA WITH DASIA AND VARIA AND |PROSGEGRAMMENI",
    "1f8c GREEK CAPITAL LETTER ALPHA WITH |PSILI AND OXIA AND PROSGEGRAMMENI|DASIA AND OXIA AND PROSGEGRAMMENI",
    "1f8e GREEK CAPITAL LETTER ALPHA WITH PSILI AND PERISPOMENI AND |PROSGEGRAMMENI",
    "1f8f GREEK CAPITAL LETTER ALPHA WITH DASIA AND PERISPOMENI AND |PROSGEGRAMMENI",
    "1f90 GREEK SMALL LETTER ETA WITH |PSILI AND YPOGEGRAMMENI|DASIA AND YPOGEGRAMMENI",
    "1f92 GREEK SMALL LETTER ETA WITH |PSILI AND VARIA AND YPOGEGRAMMENI|DASIA AND VARIA AND YPOGEGRAMMENI",
    "1f94 GREEK SMALL LETTER ETA WITH |PSILI AND OXIA AND YPOGEGRAMMENI|DASIA AND OXIA AND YPOGEGRAMMENI",
    "1f96 GREEK SMALL LETTER ETA WITH PSILI AND PERISPOMENI AND |YPOGEGRAMMENI",
    "1f97 GREEK SMALL LETTER ETA WITH DASIA AND PERISPOMENI AND |YPOGEGRAMMENI",
    "1f98 GREEK CAPITAL LETTER ETA WITH |PSILI AND PROSGEGRAMMENI|DASIA AND PROSGEGRAMMENI",
    "1f9a GREEK CAPITAL LETTER ETA WITH |PSILI AND VARIA AND PROSGEGRAMMENI|DASIA AND VARIA AND PROSGEGRAMMENI",
    "1f9c GREEK CAPITAL LETTER ETA WITH |PSILI AND OXIA AND PROSGEGRAMMENI|DASIA AND OXIA AND PROSGEGRAMMENI",
    "1f9e GREEK CAPITAL LETTER ETA WITH PSILI AND PERISPOMENI AND |PROSGEGRAMMENI",
    "1f9f GREEK CAPITAL LETTER ETA WITH DASIA AND PERISPOMENI AND |PROSGEGRAMMENI",
    "1fa0 GREEK SMALL LETTER OMEGA WITH |PSILI AND YPOGEGRAMMENI|DASIA AND YPOGEGRAMMENI",
    "1fa2 GREEK SMALL LETTER OMEGA WITH |PSILI AND VARIA AND YPOGEGRAMMENI|DASIA AND VARIA AND YPOGEGRAMMENI",
    "1fa4 GREEK SMALL LETTER OMEGA WITH |PSILI AND OXIA AND YPOGEGRAMMENI|DASIA AND OXIA AND YPOGEGRAMMENI",
    "1fa6 GREEK SMALL LETTER OMEGA WITH PSILI AND PERISPOMENI AND |YPOGEGRAMMENI",
    "1fa7 GREEK SMALL LETTER OMEGA WITH DASIA AND PERISPOMENI AND |YPOGEGRAMMENI",
    "1fa8 GREEK CAPITAL LETTER OMEGA WITH PSILI AND |PROSGEGRAMMENI",
    "1fa9 GREEK CAPITAL LETTER OMEGA WITH |DASIA AND PROSGEGRAMMENI|PSILI AND VARIA AND PROSGEGRAMMENI",
    "1fab GREEK CAPITAL LETTER OMEGA WITH DASIA AND VARIA AND |PROSGEGRAMMENI",
    "1fac GREEK CAPITAL LETTER OMEGA WITH |PSILI AND OXIA AND PROSGEGRAMMENI|DASIA AND OXIA AND PROSGEGRAMMENI",
    "1fae GREEK CAPITAL LETTER OMEGA WITH PSILI AND PERISPOMENI AND |PROSGEGRAMMENI",
    "1faf GREEK CAPITAL LETTER OMEGA WITH DASIA AND PERISPOMENI AND |PROSGEGRAMMENI",
    "1fb0 GREEK SMALL LETTER ALPHA WITH |VRACHY",
    "1fb1 GREEK SMALL LETTER ALPHA WITH |MACRON|VARIA AND YPOGEGRAMMENI|YPOGEGRAMMENI|OXIA AND YPOGEGRAMMENI",
    "1fb6 GREEK SMALL LETTER ALPHA WITH |PERISPOMENI|PERISPOMENI AND YPOGEGRAMMENI",
    "1fb8 GREEK CAPITAL LETTER ALPHA WITH |VRACHY|MACRON|VARIA|OXIA|PROSGEGRAMMENI",
    "1fbd GREEK |KORONIS|PROSGEGRAMMENI|PSILI|PERISPOMENI|DIALYTIKA AND PERISPOMENI",
    "1fc2 GREEK SMALL LETTER ETA WITH |VARIA AND YPOGEGRAMMENI|YPOGEGRAMMENI|OXIA AND YPOGEGRAMMENI",
    "1fc6 GREEK SMALL LETTER ETA WITH |PERISPOMENI|PERISPOMENI AND YPOGEGRAMMENI",
    "1fc8 GREEK CAPITAL LETTER EPSILON WITH |VARIA|OXIA;1fca GREEK CAPITAL LETTER ETA WITH |VARIA|OXIA|PROSGEGRAMMENI",
    "1fcd GREEK PSILI AND |VARIA|OXIA|PERISPOMENI",
    "1fd0 GREEK SMALL LETTER IOTA WITH |VRACHY|MACRON|DIALYTIKA AND VARIA|DIALYTIKA AND OXIA",
    "1fd6 GREEK SMALL LETTER IOTA WITH |PERISPOMENI|DIALYTIKA AND PERISPOMENI",
    "1fd8 GREEK CAPITAL LETTER IOTA WITH |VRACHY|MACRON|VARIA|OXIA;1fdd GREEK DASIA AND |VARIA|OXIA|PERISPOMENI",
    "1fe0 GREEK SMALL LETTER UPSILON WITH |VRACHY|MACRON|DIALYTIKA AND VARIA|DIALYTIKA AND OXIA",
    "1fe4 GREEK SMALL LETTER RHO WITH |PSILI|DASIA",
    "1fe6 GREEK SMALL LETTER UPSILON WITH |PERISPOMENI|DIALYTIKA AND PERISPOMENI",
    "1fe8 GREEK CAPITAL LETTER UPSILON WITH |VRACHY|MACRON|VARIA|OXIA",
    "1fec GREEK |CAPITAL LETTER RHO WITH DASIA|DIALYTIKA AND VARIA|DIALYTIKA AND OXIA|VARIA",
    "1ff2 GREEK SMALL LETTER OMEGA WITH |VARIA AND YPOGEGRAMMENI|YPOGEGRAMMENI|OXIA AND YPOGEGRAMMENI",
    "1ff6 GREEK SMALL LETTER OMEGA WITH |PERISPOMENI|PERISPOMENI AND YPOGEGRAMMENI",
    "1ff8 GREEK CAPITAL LETTER OMICRON WITH |VARIA|OXIA",
    "1ffa GREEK CAPITAL LETTER OMEGA WITH |VARIA|OXIA|PROSGEGRAMMENI;1ffd GREEK |OXIA|DASIA"]

end EdgeRoutes.Text
