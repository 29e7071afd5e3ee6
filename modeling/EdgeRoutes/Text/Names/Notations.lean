/-! Names of characters: musical and mathematical notations, games, pictographs, tags and variation selectors. -/

namespace EdgeRoutes.Text

def notationNames : List String :=
  ["1d000 BYZANTINE MUSICAL SYMBOL |PSILI|DASEIA|PERISPOMENI|OXEIA EKFONITIKON|OXEIA DIPLI",
    "1d005 BYZANTINE MUSICAL SYMBOL |VAREIA EKFONITIKON|VAREIA DIPLI|KATHISTI|SYRMATIKI|PARAKLITIKI|YPOKRISIS",
    "1d00b BYZANTINE MUSICAL SYMBOL |YPOKRISIS DIPLI|KREMASTI|APESO EKFONITIKON|EXO EKFONITIKON|TELEIA",
    "1d010 BYZANTINE MUSICAL SYMBOL |KENTIMATA|APOSTROFOS|APOSTROFOS DIPLI|SYNEVMA|THITA|OLIGON ARCHAION",
    "1d016 BYZANTINE MUSICAL SYMBOL |GORGON ARCHAION|PSILON|CHAMILON|VATHY|ISON ARCHAION|KENTIMA ARCHAION",
    "1d01c BYZANTINE MUSICAL SYMBOL |KENTIMATA ARCHAION|SAXIMATA|PARICHON|STAVROS APODEXIA|OXEIAI ARCHAION",
    "1d021 BYZANTINE MUSICAL SYMBOL |VAREIAI ARCHAION|APODERMA ARCHAION|APOTHEMA|KLASMA|REVMA|PIASMA ARCHAION",
    "1d027 BYZANTINE MUSICAL SYMBOL |TINAGMA|ANATRICHISMA|SEISMA|SYNAGMA ARCHAION|SYNAGMA META STAVROU",
    "1d02c BYZANTINE MUSICAL SYMBOL |OYRANISMA ARCHAION|THEMA|LEMOI|DYO|TRIA|TESSERA|KRATIMATA|APESO EXO NEO",
    "1d034 BYZANTINE MUSICAL SYMBOL |FTHORA ARCHAION|IMIFTHORA|TROMIKON ARCHAION|KATAVA TROMIKON|PELASTON",
    "1d039 BYZANTINE MUSICAL SYMBOL |PSIFISTON|KONTEVMA|CHOREVMA ARCHAION|RAPISMA|PARAKALESMA ARCHAION",
    "1d03e BYZANTINE MUSICAL SYMBOL |PARAKLITIKI ARCHAION|ICHADIN|NANA|PETASMA|KONTEVMA ALLO|TROMIKON ALLO",
    "1d044 BYZANTINE MUSICAL SYMBOL |STRAGGISMATA|GRONTHISMATA|ISON NEO|OLIGON NEO|OXEIA NEO|PETASTI",
    "1d04a BYZANTINE MUSICAL SYMBOL |KOUFISMA|PETASTOKOUFISMA|KRATIMOKOUFISMA|PELASTON NEO|KENTIMATA NEO ANO",
    "1d04f BYZANTINE MUSICAL SYMBOL |KENTIMA NEO ANO|YPSILI|APOSTROFOS NEO|APOSTROFOI SYNDESMOS NEO",
    "1d053 BYZANTINE MUSICAL SYMBOL |YPORROI|KRATIMOYPORROON|ELAFRON|CHAMILI|MIKRON ISON|VAREIA NEO|PIASMA NEO",
    "1d05a BYZANTINE MUSICAL SYMBOL |PSIFISTON NEO|OMALON|ANTIKENOMA|LYGISMA|PARAKLITIKI NEO|PARAKALESMA NEO",
    "1d060 BYZANTINE MUSICAL SYMBOL |ETERON PARAKALESMA|KYLISMA|ANTIKENOKYLISMA|TROMIKON NEO|EKSTREPTON",
    "1d065 BYZANTINE MUSICAL SYMBOL |SYNAGMA NEO|SYRMA|CHOREVMA NEO|EPEGERMA|SEISMA NEO|XIRON KLASMA",
    "1d06b BYZANTINE MUSICAL SYMBOL |TROMIKOPSIFISTON|PSIFISTOLYGISMA|TROMIKOLYGISMA|TROMIKOPARAKALESMA",
    "1d06f BYZANTINE MUSICAL SYMBOL |PSIFISTOPARAKALESMA|TROMIKOSYNAGMA|PSIFISTOSYNAGMA|GORGOSYNTHETON",
    "1d073 BYZANTINE MUSICAL SYMBOL |ARGOSYNTHETON|ETERON ARGOSYNTHETON|OYRANISMA NEO|THEMATISMOS ESO",
    "1d077 BYZANTINE MUSICAL SYMBOL |THEMATISMOS EXO|THEMA APLOUN|THES KAI APOTHES|KATAVASMA|ENDOFONON",
    "1d07c BYZANTINE MUSICAL SYMBOL |YFEN KATO|YFEN ANO|STAVROS|KLASMA ANO|DIPLI ARCHAION|KRATIMA ARCHAION",
    "1d082 BYZANTINE MUSICAL SYMBOL |KRATIMA ALLO|KRATIMA NEO|APODERMA NEO|APLI|DIPLI|TRIPLI|TETRAPLI|KORONIS",
    "1d08a BYZANTINE MUSICAL SYMBOL LEIMMA |ENOS CHRONOU|DYO CHRONON|TRION CHRONON|TESSARON CHRONON",
    "1d08e BYZANTINE MUSICAL SYMBOL |LEIMMA IMISEOS CHRONOU|GORGON NEO ANO",
    "1d090 BYZANTINE MUSICAL SYMBOL |GORGON PARESTIGMENON ARISTERA|GORGON PARESTIGMENON DEXIA|DIGORGON",
    "1d093 BYZANTINE MUSICAL SYMBOL DIGORGON PARESTIGMENON |ARISTERA KATO|ARISTERA ANO|DEXIA",
    "1d096 BYZANTINE MUSICAL SYMBOL |TRIGORGON|ARGON|IMIDIARGON|DIARGON",
    "1d09a BYZANTINE MUSICAL SYMBOL AGOGI |POLI ARGI|ARGOTERI|ARGI|METRIA|MESI|GORGI|GORGOTERI|POLI GORGI",
    "1d0a2 BYZANTINE MUSICAL SYMBOL MARTYRIA |PROTOS ICHOS|ALLI PROTOS ICHOS|DEYTEROS ICHOS",
    "1d0a5 BYZANTINE MUSICAL SYMBOL MARTYRIA |ALLI DEYTEROS ICHOS|TRITOS ICHOS|TRIFONIAS|TETARTOS ICHOS",
    "1d0a9 BYZANTINE MUSICAL SYMBOL MARTYRIA |TETARTOS LEGETOS ICHOS|LEGETOS ICHOS|PLAGIOS ICHOS",
    "1d0ac BYZANTINE MUSICAL SYMBOL |ISAKIA TELOUS ICHIMATOS|APOSTROFOI TELOUS ICHIMATOS",
    "1d0ae BYZANTINE MUSICAL SYMBOL FANEROSIS |TETRAFONIAS|MONOFONIAS|DIFONIAS",
    "1d0b1 BYZANTINE MUSICAL SYMBOL MARTYRIA |VARYS ICHOS|PROTOVARYS ICHOS|PLAGIOS TETARTOS ICHOS",
    "1d0b4 BYZANTINE MUSICAL SYMBOL |GORTHMIKON N APLOUN|GORTHMIKON N DIPLOUN|ENARXIS KAI FTHORA VOU",
    "1d0b7 BYZANTINE MUSICAL SYMBOL |IMIFONON|IMIFTHORON|FTHORA ARCHAION DEYTEROU ICHOU|FTHORA DIATONIKI PA",
    "1d0bb BYZANTINE MUSICAL SYMBOL FTHORA |DIATONIKI NANA|NAOS ICHOS|DIATONIKI DI|SKLIRON DIATONON DI",
    "1d0bf BYZANTINE MUSICAL SYMBOL FTHORA DIATONIKI |KE|ZO|NI KATO|NI ANO",
    "1d0c3 BYZANTINE MUSICAL SYMBOL FTHORA MALAKON CHROMA |DIFONIAS|MONOFONIAS",
    "1d0c5 BYZANTINE MUSICAL SYMBOL |FHTORA SKLIRON CHROMA VASIS|FTHORA SKLIRON CHROMA SYNAFI|FTHORA NENANO",
    "1d0c8 BYZANTINE MUSICAL SYMBOL |CHROA ZYGOS|CHROA KLITON|CHROA SPATHI|FTHORA I YFESIS TETARTIMORION",
    "1d0cc BYZANTINE MUSICAL SYMBOL |FTHORA ENARMONIOS ANTIFONIA|YFESIS TRITIMORION|DIESIS TRITIMORION",
    "1d0cf BYZANTINE MUSICAL SYMBOL DIESIS |TETARTIMORION|APLI DYO DODEKATA|MONOGRAMMOS TESSERA DODEKATA",
    "1d0d2 BYZANTINE MUSICAL SYMBOL DIESIS |DIGRAMMOS EX DODEKATA|TRIGRAMMOS OKTO DODEKATA",
    "1d0d4 BYZANTINE MUSICAL SYMBOL YFESIS |APLI DYO DODEKATA|MONOGRAMMOS TESSERA DODEKATA",
    "1d0d6 BYZANTINE MUSICAL SYMBOL YFESIS |DIGRAMMOS EX DODEKATA|TRIGRAMMOS OKTO DODEKATA",
    "1d0d8 BYZANTINE MUSICAL SYMBOL GENIKI |DIESIS|YFESIS",
    "1d0da BYZANTINE MUSICAL SYMBOL DIASTOLI |APLI MIKRI|APLI MEGALI|DIPLI|THESEOS",
    "1d0de BYZANTINE MUSICAL SYMBOL SIMANSIS |THESEOS|THESEOS DISIMOU|THESEOS TRISIMOU|THESEOS TETRASIMOU",
    "1d0e2 BYZANTINE MUSICAL SYMBOL SIMANSIS |ARSEOS|ARSEOS DISIMOU|ARSEOS TRISIMOU|ARSEOS TETRASIMOU",
    "1d0e6 BYZANTINE MUSICAL SYMBOL |DIGRAMMA GG|DIFTOGGOS OU|STIGMA",
    "1d0e9 BYZANTINE MUSICAL SYMBOL ARKTIKO |PA|VOU|GA|DI|KE|ZO|NI",
    "1d0f0 BYZANTINE MUSICAL SYMBOL |KENTIMATA NEO MESO|KENTIMA NEO MESO",
    "1d0f2 BYZANTINE MUSICAL SYMBOL |KENTIMATA NEO KATO|KENTIMA NEO KATO|KLASMA KATO|GORGON NEO KATO",
    "1d100 MUSICAL SYMBOL SINGLE |BARLINE",
    "1d101 MUSICAL SYMBOL |DOUBLE BARLINE|FINAL BARLINE|REVERSE FINAL BARLINE|DASHED BARLINE|SHORT BARLINE",
    "1d106 MUSICAL SYMBOL |LEFT REPEAT SIGN|RIGHT REPEAT SIGN|REPEAT DOTS|DAL SEGNO|DA CAPO|SEGNO|CODA",
    "1d10d MUSICAL SYMBOL REPEATED FIGURE-|1|2|3;1d110 MUSICAL SYMBOL |FERMATA|FERMATA BELOW|BREATH MARK|CAESURA",
    "1d114 MUSICAL SYMBOL |BRACE|BRACKET|ONE-LINE STAFF|TWO-LINE STAFF|THREE-LINE STAFF|FOUR-LINE STAFF",
    "1d11a MUSICAL SYMBOL |FIVE-LINE STAFF|SIX-LINE STAFF|SIX-STRING FRETBOARD|FOUR-STRING FRETBOARD|G CLEF",
    "1d11f MUSICAL SYMBOL G CLEF OTTAVA |ALTA|BASSA",
    "1d121 MUSICAL SYMBOL |C CLEF|F CLEF|F CLEF OTTAVA ALTA|F CLEF OTTAVA BASSA|DRUM CLEF-1|DRUM CLEF-2",
    "1d129 MUSICAL SYMBOL |MULTIPLE MEASURE REST|DOUBLE SHARP|DOUBLE FLAT|FLAT UP|FLAT DOWN",
    "1d12e MUSICAL SYMBOL |NATURAL UP|NATURAL DOWN|SHARP UP|SHARP DOWN|QUARTER TONE SHARP|QUARTER TONE FLAT",
    "1d134 MUSICAL SYMBOL |COMMON TIME|CUT TIME|OTTAVA ALTA|OTTAVA BASSA|QUINDICESIMA ALTA|QUINDICESIMA BASSA",
    "1d13a MUSICAL SYMBOL |MULTI REST|WHOLE REST|HALF REST|QUARTER REST|EIGHTH REST|SIXTEENTH REST",
    "1d140 MUSICAL SYMBOL |THIRTY-SECOND REST|SIXTY-FOURTH REST|ONE HUNDRED TWENTY-EIGHTH REST|X NOTEHEAD",
    "1d144 MUSICAL SYMBOL |PLUS NOTEHEAD|CIRCLE X NOTEHEAD|SQUARE NOTEHEAD WHITE|SQUARE NOTEHEAD BLACK",
    "1d148 MUSICAL SYMBOL TRIANGLE NOTEHEAD |UP WHITE|UP BLACK|LEFT WHITE|LEFT BLACK|RIGHT WHITE",
    "1d14d MUSICAL SYMBOL TRIANGLE NOTEHEAD |RIGHT BLACK|DOWN WHITE|DOWN BLACK|UP RIGHT WHITE|UP RIGHT BLACK",
    "1d152 MUSICAL SYMBOL MOON NOTEHEAD |WHITE|BLACK;1d154 MUSICAL SYMBOL TRIANGLE-ROUND NOTEHEAD DOWN |WHITE|BLACK",
    "1d156 MUSICAL SYMBOL |PARENTHESIS NOTEHEAD|VOID NOTEHEAD|NOTEHEAD BLACK|NULL NOTEHEAD",
    "1d15a MUSICAL SYMBOL CLUSTER NOTEHEAD |WHITE|BLACK",
    "1d15c MUSICAL SYMBOL |BREVE|WHOLE NOTE|HALF NOTE|QUARTER NOTE|EIGHTH NOTE",
    "1d161 MUSICAL SYMBOL |SIXTEENTH NOTE|THIRTY-SECOND NOTE|SIXTY-FOURTH NOTE|ONE HUNDRED TWENTY-EIGHTH NOTE",
    "1d165 MUSICAL SYMBOL COMBINING |STEM|SPRECHGESANG STEM|TREMOLO-1|TREMOLO-2|TREMOLO-3",
    "1d16a MUSICAL SYMBOL FINGERED TREMOLO-|1|2|3",
    "1d16d MUSICAL SYMBOL COMBINING |AUGMENTATION DOT|FLAG-1|FLAG-2|FLAG-3|FLAG-4|FLAG-5",
    "1d173 MUSICAL SYMBOL |BEGIN BEAM|END BEAM|BEGIN TIE|END TIE|BEGIN SLUR|END SLUR|BEGIN PHRASE|END PHRASE",
    "1d17b MUSICAL SYMBOL COMBINING |ACCENT|STACCATO|TENUTO|STACCATISSIMO|MARCATO|MARCATO-STACCATO",
    "1d181 MUSICAL SYMBOL |COMBINING ACCENT-STACCATO|COMBINING LOURE|ARPEGGIATO UP|ARPEGGIATO DOWN",
    "1d185 MUSICAL SYMBOL COMBINING |DOIT|RIP|FLIP|SMEAR|BEND|DOUBLE TONGUE|TRIPLE TONGUE",
    "1d18c MUSICAL SYMBOL |RINFORZANDO|SUBITO|Z|PIANO|MEZZO|FORTE|CRESCENDO|DECRESCENDO",
    "1d194 MUSICAL SYMBOL |GRACE NOTE SLASH|GRACE NOTE NO SLASH|TR|TURN|INVERTED TURN|TURN SLASH|TURN UP",
    "1d19b MUSICAL SYMBOL ORNAMENT STROKE-|1|2|3|4|5|6|7|8|9|10|11",
    "1d1a6 MUSICAL SYMBOL |HAUPTSTIMME|NEBENSTIMME|END OF STIMME|DEGREE SLASH",
    "1d1aa MUSICAL SYMBOL COMBINING |DOWN BOW|UP BOW|HARMONIC|SNAP PIZZICATO;1d1ae MUSICAL SYMBOL PEDAL |MARK|UP MARK",
    "1d1b0 MUSICAL SYMBOL |HALF PEDAL MARK|GLISSANDO UP|GLISSANDO DOWN|WITH FINGERNAILS|DAMP",
    "1d1b5 MUSICAL SYMBOL |DAMP ALL|MAXIMA|LONGA|BREVIS|SEMIBREVIS WHITE|SEMIBREVIS BLACK|MINIMA|MINIMA BLACK",
    "1d1bd MUSICAL SYMBOL |SEMIMINIMA WHITE|SEMIMINIMA BLACK|FUSA WHITE|FUSA BLACK|LONGA PERFECTA REST",
    "1d1c2 MUSICAL SYMBOL |LONGA IMPERFECTA REST|BREVIS REST|SEMIBREVIS REST|MINIMA REST|SEMIMINIMA REST",
    "1d1c7 MUSICAL SYMBOL TEMPUS PERFECTUM CUM PROLATIONE |PERFECTA|IMPERFECTA|PERFECTA DIMINUTION-1",
    "1d1ca MUSICAL SYMBOL TEMPUS IMPERFECTUM CUM PROLATIONE |PERFECTA|IMPERFECTA",
    "1d1cc MUSICAL SYMBOL TEMPUS IMPERFECTUM CUM PROLATIONE IMPERFECTA DIMINUTION-|1|2|3",
    "1d1cf MUSICAL SYMBOL |CROIX|GREGORIAN C CLEF",
    "1d1d1 MUSICAL SYMBOL |GREGORIAN F CLEF|SQUARE B|VIRGA|PODATUS|CLIVIS|SCANDICUS|CLIMACUS|TORCULUS",
    "1d1d9 MUSICAL SYMBOL |PORRECTUS|PORRECTUS FLEXUS|SCANDICUS FLEXUS|TORCULUS RESUPINUS|PES SUBPUNCTIS",
    "1d1de MUSICAL SYMBOL KIEVAN |C CLEF|END OF PIECE|FINAL NOTE|RECITATIVE MARK|WHOLE NOTE|HALF NOTE",
    "1d1e4 MUSICAL SYMBOL KIEVAN QUARTER NOTE STEM |DOWN|UP;1d1e6 MUSICAL SYMBOL KIEVAN EIGHTH NOTE STEM |DOWN|UP",
    "1d1e8 MUSICAL SYMBOL |KIEVAN FLAT SIGN|SORI|KORON;1d200 GREEK VOCAL NOTATION SYMBOL-|1|2|3|4",
    "1d204 GREEK VOCAL NOTATION SYMBOL-|5|6|7|8|9|10|11|12|13|14|15|16|17|18|19|20|21|22|23|24|50|51|52|53|54",
    "1d21d GREEK INSTRUMENTAL NOTATION SYMBOL-|1|2|4|5|7|8|11|12|13|14|17|18|19|23|24|25",
    "1d22d GREEK INSTRUMENTAL NOTATION SYMBOL-|26|27|29|30|32|36|37|38|39|40|42|43|45|47|48|49|50|51|52|53|54",
    "1d242 COMBINING GREEK MUSICAL |TRISEME|TETRASEME|PENTASEME;1d245 GREEK MUSICAL |LEIMMA",
    "1d2e0 MAYAN NUMERAL |ZERO|ONE|TWO|THREE|FOUR|FIVE|SIX|SEVEN|EIGHT",
    "1d2e9 MAYAN NUMERAL |NINE|TEN|ELEVEN|TWELVE|THIRTEEN|FOURTEEN|FIFTEEN|SIXTEEN|SEVENTEEN|EIGHTEEN|NINETEEN",
    "1d300 MONOGRAM FOR |EARTH;1d301 DIGRAM FOR |HEAVENLY EARTH|HUMAN EARTH|EARTHLY HEAVEN|EARTHLY HUMAN|EARTH",
    "1d306 TETRAGRAM FOR |CENTRE|FULL CIRCLE|MIRED|BARRIER|KEEPING SMALL|CONTRARIETY|ASCENT|OPPOSITION",
    "1d30e TETRAGRAM FOR |BRANCHING OUT|DEFECTIVENESS OR DISTORTION|DIVERGENCE|YOUTHFULNESS|INCREASE",
    "1d313 TETRAGRAM FOR |PENETRATION|REACH|CONTACT|HOLDING BACK|WAITING|FOLLOWING|ADVANCE|RELEASE|RESISTANCE",
    "1d31c TETRAGRAM FOR |EASE|JOY|CONTENTION|ENDEAVOUR|DUTIES|CHANGE|DECISIVENESS|BOLD RESOLUTION|PACKING",
    "1d325 TETRAGRAM FOR |LEGION|CLOSENESS|KINSHIP|GATHERING|STRENGTH|PURITY|FULLNESS|RESIDENCE|LAW OR MODEL",
    "1d32e TETRAGRAM FOR |RESPONSE|GOING TO MEET|ENCOUNTERS|STOVE|GREATNESS|ENLARGEMENT|PATTERN|RITUAL|FLIGHT",
    "1d337 TETRAGRAM FOR |VASTNESS OR WASTING|CONSTANCY|MEASURE|ETERNITY|UNITY|DIMINISHMENT|CLOSED MOUTH",
    "1d33e TETRAGRAM FOR |GUARDEDNESS|GATHERING IN|MASSING|ACCUMULATION|EMBELLISHMENT|DOUBT|WATCH|SINKING",
    "1d346 TETRAGRAM FOR |INNER|DEPARTURE|DARKENING|DIMMING|EXHAUSTION|SEVERANCE|STOPPAGE|HARDNESS|COMPLETION",
    "1d34f TETRAGRAM FOR |CLOSURE|FAILURE|AGGRAVATION|COMPLIANCE|ON THE VERGE|DIFFICULTIES|LABOURING|FOSTERING",
    "1d360 COUNTING ROD UNIT DIGIT |ONE|TWO|THREE|FOUR|FIVE|SIX|SEVEN|EIGHT|NINE",
    "1d369 COUNTING ROD TENS DIGIT |ONE|TWO|THREE|FOUR|FIVE|SIX|SEVEN|EIGHT|NINE",
    "1d372 IDEOGRAPHIC TALLY MARK |ONE|TWO|THREE|FOUR|FIVE;1d377 TALLY MARK |ONE|FIVE",
    "1d400 MATHEMATICAL BOLD CAPITAL |A|B|C|D|E|F|G|H|I|J|K|L|M|N|O|P|Q|R|S|T|U|V|W|X|Y|Z",
    "1d41a MATHEMATICAL BOLD SMALL |A|B|C|D|E|F|G|H|I|J|K|L|M|N|O|P|Q|R|S|T|U|V|W|X|Y|Z",
    "1d434 MATHEMATICAL ITALIC CAPITAL |A|B|C|D|E|F|G|H|I|J|K|L|M|N|O|P|Q|R|S|T|U|V|W|X|Y|Z",
    "1d44e MATHEMATICAL ITALIC SMALL |A|B|C|D|E|F|G",
    "1d456 MATHEMATICAL ITALIC SMALL |I|J|K|L|M|N|O|P|Q|R|S|T|U|V|W|X|Y|Z",
    "1d468 MATHEMATICAL BOLD ITALIC CAPITAL |A|B|C|D|E|F|G|H|I|J|K|L|M|N|O|P|Q|R|S|T|U|V|W|X|Y|Z",
    "1d482 MATHEMATICAL BOLD ITALIC SMALL |A|B|C|D|E|F|G|H|I|J|K|L|M|N|O|P|Q|R|S|T|U|V|W|X|Y|Z",
    "1d49c MATHEMATICAL SCRIPT CAPITAL |A;1d49e MATHEMATICAL SCRIPT CAPITAL |C|D;1d4a2 MATHEMATICAL SCRIPT CAPITAL |G",
    "1d4a5 MATHEMATICAL SCRIPT CAPITAL |J|K;1d4a9 MATHEMATICAL SCRIPT CAPITAL |N|O|P|Q",
    "1d4ae MATHEMATICAL SCRIPT CAPITAL |S|T|U|V|W|X|Y|Z;1d4b6 MATHEMATICAL SCRIPT SMALL |A|B|C|D",
    "1d4bb MATHEMATICAL SCRIPT SMALL |F;1d4bd MATHEMATICAL SCRIPT SMALL |H|I|J|K|L|M|N",
    "1d4c5 MATHEMATICAL SCRIPT SMALL |P|Q|R|S|T|U|V|W|X|Y|Z",
    "1d4d0 MATHEMATICAL BOLD SCRIPT CAPITAL |A|B|C|D|E|F|G|H|I|J|K|L|M|N|O|P|Q|R|S|T|U|V|W|X|Y|Z",
    "1d4ea MATHEMATICAL BOLD SCRIPT SMALL |A|B|C|D|E|F|G|H|I|J|K|L|M|N|O|P|Q|R|S|T|U|V|W|X|Y|Z",
    "1d504 MATHEMATICAL FRAKTUR CAPITAL |A|B;1d507 MATHEMATICAL FRAKTUR CAPITAL |D|E|F|G",
    "1d50d MATHEMATICAL FRAKTUR CAPITAL |J|K|L|M|N|O|P|Q;1d516 MATHEMATICAL FRAKTUR CAPITAL |S|T|U|V|W|X|Y",
    "1d51e MATHEMATICAL FRAKTUR SMALL |A|B|C|D|E|F|G|H|I|J|K|L|M|N|O|P|Q|R|S|T|U|V|W|X|Y|Z",
    "1d538 MATHEMATICAL DOUBLE-STRUCK CAPITAL |A|B;1d53b MATHEMATICAL DOUBLE-STRUCK CAPITAL |D|E|F|G",
    "1d540 MATHEMATICAL DOUBLE-STRUCK CAPITAL |I|J|K|L|M;1d546 MATHEMATICAL DOUBLE-STRUCK CAPITAL |O",
    "1d54a MATHEMATICAL DOUBLE-STRUCK CAPITAL |S|T|U|V|W|X|Y",
    "1d552 MATHEMATICAL DOUBLE-STRUCK SMALL |A|B|C|D|E|F|G|H|I|J|K|L|M|N|O|P|Q|R|S|T|U|V|W|X|Y|Z",
    "1d56c MATHEMATICAL BOLD FRAKTUR CAPITAL |A|B|C|D|E|F|G|H|I|J|K|L|M|N|O|P|Q|R|S|T|U|V|W|X|Y|Z",
    "1d586 MATHEMATICAL BOLD FRAKTUR SMALL |A|B|C|D|E|F|G|H|I|J|K|L|M|N|O|P|Q|R|S|T|U|V|W|X|Y|Z",
    "1d5a0 MATHEMATICAL SANS-SERIF CAPITAL |A|B|C|D|E|F|G|H|I|J|K|L|M|N|O|P|Q|R|S|T|U|V|W|X|Y|Z",
    "1d5ba MATHEMATICAL SANS-SERIF SMALL |A|B|C|D|E|F|G|H|I|J|K|L|M|N|O|P|Q|R|S|T|U|V|W|X|Y|Z",
    "1d5d4 MATHEMATICAL SANS-SERIF BOLD CAPITAL |A|B|C|D|E|F|G|H|I|J|K|L|M|N|O|P|Q|R|S|T|U|V|W|X|Y|Z",
    "1d5ee MATHEMATICAL SANS-SERIF BOLD SMALL |A|B|C|D|E|F|G|H|I|J|K|L|M|N|O|P|Q|R|S|T|U|V|W|X|Y|Z",
    "1d608 MATHEMATICAL SANS-SERIF ITALIC CAPITAL |A|B|C|D|E|F|G|H|I|J|K|L|M|N|O|P|Q|R|S|T|U|V|W|X|Y|Z",
    "1d622 MATHEMATICAL SANS-SERIF ITALIC SMALL |A|B|C|D|E|F|G|H|I|J|K|L|M|N|O|P|Q|R|S|T|U|V|W|X|Y|Z",
    "1d63c MATHEMATICAL SANS-SERIF BOLD ITALIC CAPITAL |A|B|C|D|E|F|G|H|I|J|K|L|M|N|O|P|Q|R|S|T|U|V|W|X|Y|Z",
    "1d656 MATHEMATICAL SANS-SERIF BOLD ITALIC SMALL |A|B|C|D|E|F|G|H|I|J|K|L|M|N|O|P|Q|R|S|T|U|V|W|X|Y|Z",
    "1d670 MATHEMATICAL MONOSPACE CAPITAL |A|B|C|D|E|F|G|H|I|J|K|L|M|N|O|P|Q|R|S|T|U|V|W|X|Y|Z",
    "1d68a MATHEMATICAL MONOSPACE SMALL |A|B|C|D|E|F|G|H|I|J|K|L|M|N|O|P|Q|R|S|T|U|V|W|X|Y|Z",
    "1d6a4 MATHEMATICAL ITALIC SMALL DOTLESS |I|J",
    "1d6a8 MATHEMATICAL BOLD CAPITAL |ALPHA|BETA|GAMMA|DELTA|EPSILON|ZETA|ETA|THETA|IOTA|KAPPA|LAMDA",
    "1d6b3 MATHEMATICAL BOLD CAPITAL |MU|NU|XI|OMICRON|PI|RHO|THETA SYMBOL|SIGMA|TAU|UPSILON|PHI|CHI|PSI|OMEGA",
    "1d6c1 MATHEMATICAL BOLD |NABLA",
    "1d6c2 MATHEMATICAL BOLD SMALL |ALPHA|BETA|GAMMA|DELTA|EPSILON|ZETA|ETA|THETA|IOTA|KAPPA|LAMDA",
    "1d6cd MATHEMATICAL BOLD SMALL |MU|NU|XI|OMICRON|PI|RHO|FINAL SIGMA|SIGMA|TAU|UPSILON|PHI|CHI|PSI|OMEGA",
    "1d6db MATHEMATICAL BOLD PARTIAL |DIFFERENTIAL",
    "1d6dc MATHEMATICAL BOLD |EPSILON SYMBOL|THETA SYMBOL|KAPPA SYMBOL|PHI SYMBOL|RHO SYMBOL|PI SYMBOL",
    "1d6e2 MATHEMATICAL ITALIC CAPITAL |ALPHA|BETA|GAMMA|DELTA|EPSILON|ZETA|ETA|THETA|IOTA|KAPPA|LAMDA|MU",
    "1d6ee MATHEMATICAL ITALIC CAPITAL |NU|XI|OMICRON|PI|RHO|THETA SYMBOL|SIGMA|TAU|UPSILON|PHI|CHI|PSI|OMEGA",
    "1d6fb MATHEMATICAL ITALIC |NABLA",
    "1d6fc MATHEMATICAL ITALIC SMALL |ALPHA|BETA|GAMMA|DELTA|EPSILON|ZETA|ETA|THETA|IOTA|KAPPA|LAMDA",
    "1d707 MATHEMATICAL ITALIC SMALL |MU|NU|XI|OMICRON|PI|RHO|FINAL SIGMA|SIGMA|TAU|UPSILON|PHI|CHI|PSI|OMEGA",
    "1d715 MATHEMATICAL ITALIC PARTIAL |DIFFERENTIAL",
    "1d716 MATHEMATICAL ITALIC |EPSILON SYMBOL|THETA SYMBOL|KAPPA SYMBOL|PHI SYMBOL|RHO SYMBOL|PI SYMBOL",
    "1d71c MATHEMATICAL BOLD ITALIC CAPITAL |ALPHA|BETA|GAMMA|DELTA|EPSILON|ZETA|ETA|THETA|IOTA|KAPPA|LAMDA|MU",
    "1d728 MATHEMATICAL BOLD ITALIC CAPITAL |NU|XI|OMICRON|PI|RHO|THETA SYMBOL|SIGMA|TAU|UPSILON|PHI|CHI|PSI",
    "1d734 MATHEMATICAL BOLD ITALIC |CAPITAL OMEGA|NABLA",
    "1d736 MATHEMATICAL BOLD ITALIC SMALL |ALPHA|BETA|GAMMA|DELTA|EPSILON|ZETA|ETA|THETA|IOTA|KAPPA|LAMDA",
    "1d741 MATHEMATICAL BOLD ITALIC SMALL |MU|NU|XI|OMICRON|PI|RHO|FINAL SIGMA|SIGMA|TAU|UPSILON|PHI|CHI|PSI",
    "1d74e MATHEMATICAL BOLD ITALIC |SMALL OMEGA|PARTIAL DIFFERENTIAL",
    "1d750 MATHEMATICAL BOLD ITALIC |EPSILON SYMBOL|THETA SYMBOL|KAPPA SYMBOL|PHI SYMBOL|RHO SYMBOL|PI SYMBOL",
    "1d756 MATHEMATICAL SANS-SERIF BOLD CAPITAL |ALPHA|BETA|GAMMA|DELTA|EPSILON|ZETA|ETA|THETA|IOTA|KAPPA",
    "1d760 MATHEMATICAL SANS-SERIF BOLD CAPITAL |LAMDA|MU|NU|XI|OMICRON|PI|RHO|THETA SYMBOL|SIGMA|TAU|UPSILON",
    "1d76b MATHEMATICAL SANS-SERIF BOLD |CAPITAL PHI|CAPITAL CHI|CAPITAL PSI|CAPITAL OMEGA|NABLA",
    "1d770 MATHEMATICAL SANS-SERIF BOLD SMALL |ALPHA|BETA|GAMMA|DELTA|EPSILON|ZETA|ETA|THETA|IOTA|KAPPA|LAMDA",
    "1d77b MATHEMATICAL SANS-SERIF BOLD SMALL |MU|NU|XI|OMICRON|PI|RHO|FINAL SIGMA|SIGMA|TAU|UPSILON|PHI|CHI",
    "1d787 MATHEMATICAL SANS-SERIF BOLD |SMALL PSI|SMALL OMEGA|PARTIAL DIFFERENTIAL|EPSILON SYMBOL",
    "1d78b MATHEMATICAL SANS-SERIF BOLD |THETA SYMBOL|KAPPA SYMBOL|PHI SYMBOL|RHO SYMBOL|PI SYMBOL",
    "1d790 MATHEMATICAL SANS-SERIF BOLD ITALIC CAPITAL |ALPHA|BETA|GAMMA|DELTA|EPSILON",
    "1d795 MATHEMATICAL SANS-SERIF BOLD ITALIC CAPITAL |ZETA|ETA|THETA|IOTA|KAPPA|LAMDA|MU|NU|XI|OMICRON|PI",
    "1d7a0 MATHEMATICAL SANS-SERIF BOLD ITALIC CAPITAL |RHO|THETA SYMBOL|SIGMA|TAU|UPSILON|PHI|CHI|PSI|OMEGA",
    "1d7a9 MATHEMATICAL SANS-SERIF BOLD ITALIC |NABLA|SMALL ALPHA|SMALL BETA|SMALL GAMMA",
    "1d7ad MATHEMATICAL SANS-SERIF BOLD ITALIC SMALL |DELTA|EPSILON|ZETA|ETA|THETA|IOTA|KAPPA|LAMDA|MU|NU|XI",
    "1d7b8 MATHEMATICAL SANS-SERIF BOLD ITALIC SMALL |OMICRON|PI|RHO|FINAL SIGMA|SIGMA|TAU|UPSILON|PHI|CHI|PSI",
    "1d7c2 MATHEMATICAL SANS-SERIF BOLD ITALIC |SMALL OMEGA|PARTIAL DIFFERENTIAL|EPSILON SYMBOL",
    "1d7c5 MATHEMATICAL SANS-SERIF BOLD ITALIC |THETA SYMBOL|KAPPA SYMBOL|PHI SYMBOL|RHO SYMBOL|PI SYMBOL",
    "1d7ca MATHEMATICAL BOLD |CAPITAL DIGAMMA|SMALL DIGAMMA",
    "1d7ce MATHEMATICAL BOLD DIGIT |ZERO|ONE|TWO|THREE|FOUR|FIVE|SIX|SEVEN|EIGHT|NINE",
    "1d7d8 MATHEMATICAL DOUBLE-STRUCK DIGIT |ZERO|ONE|TWO|THREE|FOUR|FIVE|SIX|SEVEN|EIGHT|NINE",
    "1d7e2 MATHEMATICAL SANS-SERIF DIGIT |ZERO|ONE|TWO|THREE|FOUR|FIVE|SIX|SEVEN|EIGHT|NINE",
    "1d7ec MATHEMATICAL SANS-SERIF BOLD DIGIT |ZERO|ONE|TWO|THREE|FOUR|FIVE|SIX|SEVEN|EIGHT|NINE",
    "1d7f6 MATHEMATICAL MONOSPACE DIGIT |ZERO|ONE|TWO|THREE|FOUR|FIVE|SIX|SEVEN|EIGHT|NINE",
    "1d800 SIGNWRITING HAND-|FIST INDEX|CIRCLE INDEX|CUP INDEX|OVAL INDEX|HINGE INDEX",
    "1d805 SIGNWRITING HAND-|ANGLE INDEX|FIST INDEX BENT|CIRCLE INDEX BENT|FIST THUMB UNDER INDEX BENT",
    "1d809 SIGNWRITING HAND-FIST INDEX |RAISED KNUCKLE|CUPPED|HINGED|HINGED LOW",
    "1d80d SIGNWRITING HAND-|CIRCLE INDEX HINGE|FIST INDEX MIDDLE|CIRCLE INDEX MIDDLE",
    "1d810 SIGNWRITING HAND-FIST INDEX MIDDLE |BENT|RAISED KNUCKLES|HINGED",
    "1d813 SIGNWRITING HAND-FIST INDEX |UP MIDDLE HINGED|HINGED MIDDLE UP|MIDDLE CONJOINED",
    "1d816 SIGNWRITING HAND-FIST INDEX MIDDLE CONJOINED |INDEX BENT|MIDDLE BENT|CUPPED|HINGED",
    "1d81a SIGNWRITING HAND-|FIST INDEX MIDDLE CROSSED|CIRCLE INDEX MIDDLE CROSSED|FIST MIDDLE BENT OVER INDEX",
    "1d81d SIGNWRITING HAND-FIST INDEX |BENT OVER MIDDLE|MIDDLE THUMB",
    "1d81f SIGNWRITING HAND-|CIRCLE INDEX MIDDLE THUMB|FIST INDEX MIDDLE STRAIGHT THUMB BENT",
    "1d821 SIGNWRITING HAND-FIST INDEX MIDDLE |BENT THUMB STRAIGHT|THUMB BENT|HINGED SPREAD THUMB SIDE",
    "1d824 SIGNWRITING HAND-FIST INDEX UP MIDDLE HINGED THUMB |SIDE|CONJOINED",
    "1d826 SIGNWRITING HAND-FIST INDEX |HINGED MIDDLE UP THUMB SIDE|MIDDLE UP SPREAD THUMB FORWARD",
    "1d828 SIGNWRITING HAND-FIST INDEX MIDDLE THUMB |CUPPED|CIRCLED|HOOKED|HINGED",
    "1d82c SIGNWRITING HAND-FIST THUMB BETWEEN INDEX MIDDLE |STRAIGHT",
    "1d82d SIGNWRITING HAND-FIST INDEX MIDDLE CONJOINED THUMB |SIDE|SIDE CONJOINED|SIDE BENT",
    "1d830 SIGNWRITING HAND-FIST |MIDDLE THUMB HOOKED INDEX UP|INDEX THUMB HOOKED MIDDLE UP",
    "1d832 SIGNWRITING HAND-FIST INDEX MIDDLE |CONJOINED HINGED THUMB SIDE|CROSSED THUMB SIDE",
    "1d834 SIGNWRITING HAND-FIST INDEX MIDDLE CONJOINED |THUMB FORWARD|CUPPED THUMB FORWARD",
    "1d836 SIGNWRITING HAND-FIST |MIDDLE THUMB CUPPED INDEX UP|INDEX THUMB CUPPED MIDDLE UP",
    "1d838 SIGNWRITING HAND-FIST MIDDLE THUMB CIRCLED INDEX |UP|HINGED",
    "1d83a SIGNWRITING HAND-FIST INDEX THUMB |ANGLED OUT MIDDLE UP|ANGLED IN MIDDLE UP|CIRCLED MIDDLE UP",
    "1d83d SIGNWRITING HAND-FIST INDEX MIDDLE THUMB |CONJOINED HINGED|ANGLED OUT|ANGLED",
    "1d840 SIGNWRITING HAND-FIST MIDDLE THUMB ANGLED |OUT INDEX UP|OUT INDEX CROSSED|INDEX UP",
    "1d843 SIGNWRITING HAND-|FIST INDEX THUMB HOOKED MIDDLE HINGED|FLAT FOUR FINGERS",
    "1d845 SIGNWRITING HAND-FLAT FOUR FINGERS |BENT|HINGED|CONJOINED|CONJOINED SPLIT",
    "1d849 SIGNWRITING HAND-CLAW FOUR FINGERS |CONJOINED",
    "1d84a SIGNWRITING HAND-|FIST FOUR FINGERS CONJOINED BENT|HINGE FOUR FINGERS CONJOINED",
    "1d84c SIGNWRITING HAND-FLAT |FIVE FINGERS SPREAD|HEEL FIVE FINGERS SPREAD|FIVE FINGERS SPREAD FOUR BENT",
    "1d84f SIGNWRITING HAND-FLAT |HEEL FIVE FINGERS SPREAD FOUR BENT|FIVE FINGERS SPREAD BENT",
    "1d851 SIGNWRITING HAND-FLAT |HEEL FIVE FINGERS SPREAD BENT|FIVE FINGERS SPREAD THUMB FORWARD",
    "1d853 SIGNWRITING HAND-CUP FIVE FINGERS |SPREAD|SPREAD OPEN",
    "1d855 SIGNWRITING HAND-|HINGE FIVE FINGERS SPREAD OPEN|OVAL FIVE FINGERS SPREAD",
    "1d857 SIGNWRITING HAND-FLAT FIVE FINGERS SPREAD |HINGED|HINGED THUMB SIDE|HINGED NO THUMB",
    "1d85a SIGNWRITING HAND-|FLAT|FLAT BETWEEN PALM FACINGS",
    "1d85c SIGNWRITING HAND-FLAT |HEEL|THUMB SIDE|HEEL THUMB SIDE|THUMB BENT|THUMB FORWARD",
    "1d861 SIGNWRITING HAND-FLAT SPLIT |INDEX THUMB SIDE|CENTRE|CENTRE THUMB SIDE|CENTRE THUMB SIDE BENT",
    "1d865 SIGNWRITING HAND-|FLAT SPLIT LITTLE|CLAW",
    "1d867 SIGNWRITING HAND-|CLAW THUMB SIDE|CLAW NO THUMB|CLAW THUMB FORWARD|HOOK CURLICUE|HOOK|CUP OPEN|CUP",
    "1d86e SIGNWRITING HAND-CUP |OPEN THUMB SIDE|THUMB SIDE|OPEN NO THUMB|NO THUMB|OPEN THUMB FORWARD",
    "1d873 SIGNWRITING HAND-|CUP THUMB FORWARD|CURLICUE OPEN|CURLICUE|CIRCLE|OVAL|OVAL THUMB SIDE",
    "1d879 SIGNWRITING HAND-|OVAL NO THUMB|OVAL THUMB FORWARD|HINGE OPEN|HINGE OPEN THUMB FORWARD|HINGE",
    "1d87e SIGNWRITING HAND-HINGE |SMALL|OPEN THUMB SIDE|THUMB SIDE|OPEN NO THUMB|NO THUMB",
    "1d883 SIGNWRITING HAND-HINGE THUMB |SIDE TOUCHING INDEX|BETWEEN MIDDLE RING",
    "1d885 SIGNWRITING HAND-|ANGLE|FIST INDEX MIDDLE RING|CIRCLE INDEX MIDDLE RING|HINGE INDEX MIDDLE RING",
    "1d889 SIGNWRITING HAND-|ANGLE INDEX MIDDLE RING|HINGE LITTLE|FIST INDEX MIDDLE RING BENT",
    "1d88c SIGNWRITING HAND-|FIST INDEX MIDDLE RING CONJOINED|HINGE INDEX MIDDLE RING CONJOINED",
    "1d88e SIGNWRITING HAND-FIST LITTLE |DOWN|DOWN RIPPLE STRAIGHT|DOWN RIPPLE CURVED|DOWN OTHERS CIRCLED|UP",
    "1d893 SIGNWRITING HAND-|FIST THUMB UNDER LITTLE UP|CIRCLE LITTLE UP|OVAL LITTLE UP|ANGLE LITTLE UP",
    "1d897 SIGNWRITING HAND-FIST LITTLE |RAISED KNUCKLE|BENT|TOUCHES THUMB|THUMB",
    "1d89b SIGNWRITING HAND-|HINGE LITTLE THUMB|FIST LITTLE INDEX THUMB|HINGE LITTLE INDEX THUMB",
    "1d89e SIGNWRITING HAND-ANGLE LITTLE INDEX THUMB INDEX |THUMB OUT|THUMB",
    "1d8a0 SIGNWRITING HAND-|FIST LITTLE INDEX|CIRCLE LITTLE INDEX|HINGE LITTLE INDEX",
    "1d8a3 SIGNWRITING HAND-|ANGLE LITTLE INDEX|FIST INDEX MIDDLE LITTLE|CIRCLE INDEX MIDDLE LITTLE",
    "1d8a6 SIGNWRITING HAND-|HINGE INDEX MIDDLE LITTLE|HINGE RING|ANGLE INDEX MIDDLE LITTLE",
    "1d8a9 SIGNWRITING HAND-|FIST INDEX MIDDLE CROSS LITTLE|CIRCLE INDEX MIDDLE CROSS LITTLE|FIST RING DOWN",
    "1d8ac SIGNWRITING HAND-|HINGE RING DOWN INDEX THUMB HOOK MIDDLE|ANGLE RING DOWN MIDDLE THUMB INDEX CROSS",
    "1d8ae SIGNWRITING HAND-FIST RING |UP|RAISED KNUCKLE|LITTLE",
    "1d8b1 SIGNWRITING HAND-|CIRCLE RING LITTLE|OVAL RING LITTLE|ANGLE RING LITTLE",
    "1d8b4 SIGNWRITING HAND-FIST RING |MIDDLE|MIDDLE CONJOINED|MIDDLE RAISED KNUCKLES|INDEX|THUMB",
    "1d8b9 SIGNWRITING HAND-HOOK RING |THUMB",
    "1d8ba SIGNWRITING HAND-|FIST INDEX RING LITTLE|CIRCLE INDEX RING LITTLE|CURLICUE INDEX RING LITTLE ON",
    "1d8bd SIGNWRITING HAND-HOOK INDEX RING LITTLE |OUT|IN|UNDER",
    "1d8c0 SIGNWRITING HAND-|CUP INDEX RING LITTLE|HINGE INDEX RING LITTLE",
    "1d8c2 SIGNWRITING HAND-ANGLE INDEX RING |LITTLE OUT|LITTLE",
    "1d8c4 SIGNWRITING HAND-|FIST MIDDLE DOWN|HINGE MIDDLE|FIST MIDDLE UP|CIRCLE MIDDLE UP",
    "1d8c8 SIGNWRITING HAND-|FIST MIDDLE RAISED KNUCKLE|FIST MIDDLE UP THUMB SIDE|HOOK MIDDLE THUMB",
    "1d8cb SIGNWRITING HAND-FIST MIDDLE |THUMB LITTLE|LITTLE|RING LITTLE",
    "1d8ce SIGNWRITING HAND-CIRCLE MIDDLE RING |LITTLE",
    "1d8cf SIGNWRITING HAND-|CURLICUE MIDDLE RING LITTLE ON|CUP MIDDLE RING LITTLE|HINGE MIDDLE RING LITTLE",
    "1d8d2 SIGNWRITING HAND-ANGLE MIDDLE RING |LITTLE OUT|LITTLE IN|LITTLE",
    "1d8d5 SIGNWRITING HAND-CIRCLE MIDDLE RING LITTLE |BENT",
    "1d8d6 SIGNWRITING HAND-CLAW MIDDLE RING LITTLE |CONJOINED|CONJOINED SIDE",
    "1d8d8 SIGNWRITING HAND-HOOK MIDDLE RING LITTLE |CONJOINED OUT|CONJOINED IN|CONJOINED",
    "1d8db SIGNWRITING HAND-|HINGE INDEX HINGED|FIST INDEX THUMB SIDE|HINGE INDEX THUMB SIDE",
    "1d8de SIGNWRITING HAND-FIST INDEX THUMB SIDE THUMB |DIAGONAL|CONJOINED|BENT",
    "1d8e1 SIGNWRITING HAND-FIST INDEX THUMB SIDE |INDEX BENT|BOTH BENT|INDEX HINGE",
    "1d8e4 SIGNWRITING HAND-FIST INDEX THUMB |FORWARD INDEX STRAIGHT|FORWARD INDEX BENT|HOOK|CURLICUE",
    "1d8e8 SIGNWRITING HAND-|FIST INDEX THUMB CURVE THUMB INSIDE|CLAW INDEX THUMB CURVE THUMB INSIDE",
    "1d8ea SIGNWRITING HAND-FIST INDEX THUMB |CURVE THUMB UNDER|CIRCLE",
    "1d8ec SIGNWRITING HAND-CUP INDEX |THUMB|THUMB OPEN",
    "1d8ee SIGNWRITING HAND-HINGE INDEX |THUMB OPEN|THUMB LARGE|THUMB|THUMB SMALL",
    "1d8f2 SIGNWRITING HAND-|ANGLE INDEX THUMB OUT|ANGLE INDEX THUMB IN|ANGLE INDEX THUMB|FIST THUMB",
    "1d8f6 SIGNWRITING HAND-FIST THUMB |HEEL|SIDE DIAGONAL|SIDE CONJOINED|SIDE BENT|FORWARD",
    "1d8fb SIGNWRITING HAND-FIST THUMB BETWEEN |INDEX MIDDLE|MIDDLE RING|RING LITTLE",
    "1d8fe SIGNWRITING HAND-FIST THUMB |UNDER TWO FINGERS|OVER TWO FINGERS|UNDER THREE FINGERS",
    "1d901 SIGNWRITING HAND-|FIST THUMB UNDER FOUR FINGERS|FIST THUMB OVER FOUR RAISED KNUCKLES|FIST|FIST HEEL",
    "1d905 SIGNWRITING TOUCH |SINGLE|MULTIPLE|BETWEEN;1d908 SIGNWRITING GRASP |SINGLE|MULTIPLE|BETWEEN",
    "1d90b SIGNWRITING STRIKE |SINGLE|MULTIPLE|BETWEEN;1d90e SIGNWRITING BRUSH |SINGLE|MULTIPLE|BETWEEN",
    "1d911 SIGNWRITING |RUB SINGLE|RUB MULTIPLE|RUB BETWEEN|SURFACE SYMBOLS|SURFACE BETWEEN",
    "1d916 SIGNWRITING SQUEEZE |LARGE SINGLE|SMALL SINGLE|LARGE MULTIPLE|SMALL MULTIPLE|SEQUENTIAL",
    "1d91b SIGNWRITING FLICK |LARGE SINGLE|SMALL SINGLE|LARGE MULTIPLE|SMALL MULTIPLE|SEQUENTIAL",
    "1d920 SIGNWRITING SQUEEZE FLICK |ALTERNATING",
    "1d921 SIGNWRITING MOVEMENT-HINGE |UP DOWN LARGE|UP DOWN SMALL|UP SEQUENTIAL|DOWN SEQUENTIAL",
    "1d925 SIGNWRITING MOVEMENT-HINGE UP DOWN ALTERNATING |LARGE|SMALL",
    "1d927 SIGNWRITING MOVEMENT-|HINGE SIDE TO SIDE SCISSORS|WALLPLANE FINGER CONTACT",
    "1d929 SIGNWRITING MOVEMENT-|FLOORPLANE FINGER CONTACT|WALLPLANE SINGLE STRAIGHT SMALL",
    "1d92b SIGNWRITING MOVEMENT-WALLPLANE SINGLE |STRAIGHT MEDIUM|STRAIGHT LARGE|STRAIGHT LARGEST|WRIST FLEX",
    "1d92f SIGNWRITING MOVEMENT-WALLPLANE DOUBLE |STRAIGHT|WRIST FLEX|ALTERNATING|ALTERNATING WRIST FLEX",
    "1d933 SIGNWRITING MOVEMENT-WALLPLANE |CROSS|TRIPLE STRAIGHT MOVEMENT|TRIPLE WRIST FLEX|TRIPLE ALTERNATING",
    "1d937 SIGNWRITING MOVEMENT-WALLPLANE |TRIPLE ALTERNATING WRIST FLEX|BEND SMALL|BEND MEDIUM|BEND LARGE",
    "1d93b SIGNWRITING MOVEMENT-WALLPLANE CORNER |SMALL|MEDIUM|LARGE|ROTATION",
    "1d93f SIGNWRITING MOVEMENT-WALLPLANE |CHECK SMALL|CHECK MEDIUM|CHECK LARGE|BOX SMALL|BOX MEDIUM|BOX LARGE",
    "1d945 SIGNWRITING MOVEMENT-WALLPLANE ZIGZAG |SMALL|MEDIUM|LARGE",
    "1d948 SIGNWRITING MOVEMENT-WALLPLANE PEAKS |SMALL|MEDIUM|LARGE",
    "1d94b SIGNWRITING TRAVEL-WALLPLANE ROTATION-WALLPLANE |SINGLE|DOUBLE|ALTERNATING",
    "1d94e SIGNWRITING TRAVEL-WALLPLANE ROTATION-FLOORPLANE |SINGLE|DOUBLE|ALTERNATING",
    "1d951 SIGNWRITING TRAVEL-WALLPLANE |SHAKING|ARM SPIRAL SINGLE|ARM SPIRAL DOUBLE|ARM SPIRAL TRIPLE",
    "1d955 SIGNWRITING MOVEMENT-DIAGONAL AWAY |SMALL|MEDIUM|LARGE|LARGEST",
    "1d959 SIGNWRITING MOVEMENT-DIAGONAL TOWARDS |SMALL|MEDIUM|LARGE|LARGEST",
    "1d95d SIGNWRITING MOVEMENT-DIAGONAL BETWEEN AWAY |SMALL|MEDIUM|LARGE|LARGEST",
    "1d961 SIGNWRITING MOVEMENT-DIAGONAL BETWEEN TOWARDS |SMALL|MEDIUM|LARGE|LARGEST",
    "1d965 SIGNWRITING MOVEMENT-FLOORPLANE SINGLE STRAIGHT |SMALL|MEDIUM|LARGE|LARGEST",
    "1d969 SIGNWRITING MOVEMENT-FLOORPLANE |SINGLE WRIST FLEX|DOUBLE STRAIGHT|DOUBLE WRIST FLEX",
    "1d96c SIGNWRITING MOVEMENT-FLOORPLANE |DOUBLE ALTERNATING|DOUBLE ALTERNATING WRIST FLEX|CROSS",
    "1d96f SIGNWRITING MOVEMENT-FLOORPLANE TRIPLE |STRAIGHT MOVEMENT|WRIST FLEX|ALTERNATING MOVEMENT",
    "1d972 SIGNWRITING MOVEMENT-FLOORPLANE |TRIPLE ALTERNATING WRIST FLEX|BEND|CORNER SMALL|CORNER MEDIUM",
    "1d976 SIGNWRITING MOVEMENT-FLOORPLANE |CORNER LARGE|CHECK|BOX SMALL|BOX MEDIUM|BOX LARGE|ZIGZAG SMALL",
    "1d97c SIGNWRITING MOVEMENT-FLOORPLANE |ZIGZAG MEDIUM|ZIGZAG LARGE|PEAKS SMALL|PEAKS MEDIUM|PEAKS LARGE",
    "1d981 SIGNWRITING TRAVEL-FLOORPLANE ROTATION-FLOORPLANE |SINGLE|DOUBLE|ALTERNATING",
    "1d984 SIGNWRITING TRAVEL-FLOORPLANE ROTATION-WALLPLANE |SINGLE|DOUBLE|ALTERNATING",
    "1d987 SIGNWRITING TRAVEL-FLOORPLANE |SHAKING",
    "1d988 SIGNWRITING MOVEMENT-WALLPLANE CURVE QUARTER |SMALL|MEDIUM|LARGE|LARGEST",
    "1d98c SIGNWRITING MOVEMENT-WALLPLANE CURVE HALF-CIRCLE |SMALL|MEDIUM|LARGE|LARGEST",
    "1d990 SIGNWRITING MOVEMENT-WALLPLANE CURVE THREE-QUARTER CIRCLE |SMALL|MEDIUM",
    "1d992 SIGNWRITING MOVEMENT-WALLPLANE HUMP |SMALL|MEDIUM|LARGE",
    "1d995 SIGNWRITING MOVEMENT-WALLPLANE LOOP |SMALL|MEDIUM|LARGE|SMALL DOUBLE",
    "1d999 SIGNWRITING MOVEMENT-WALLPLANE WAVE CURVE DOUBLE |SMALL|MEDIUM|LARGE",
    "1d99c SIGNWRITING MOVEMENT-WALLPLANE WAVE CURVE TRIPLE |SMALL|MEDIUM|LARGE",
    "1d99f SIGNWRITING MOVEMENT-WALLPLANE |CURVE THEN STRAIGHT|CURVED CROSS SMALL|CURVED CROSS MEDIUM",
    "1d9a2 SIGNWRITING ROTATION-WALLPLANE |SINGLE|DOUBLE|ALTERNATE",
    "1d9a5 SIGNWRITING MOVEMENT-WALLPLANE |SHAKING|CURVE HITTING FRONT WALL|HUMP HITTING FRONT WALL",
    "1d9a8 SIGNWRITING MOVEMENT-WALLPLANE |LOOP HITTING FRONT WALL|WAVE HITTING FRONT WALL",
    "1d9aa SIGNWRITING ROTATION-WALLPLANE SINGLE HITTING FRONT |WALL",
    "1d9ab SIGNWRITING ROTATION-WALLPLANE |DOUBLE HITTING FRONT WALL|ALTERNATING HITTING FRONT WALL",
    "1d9ad SIGNWRITING MOVEMENT-WALLPLANE CURVE HITTING |CHEST",
    "1d9ae SIGNWRITING MOVEMENT-WALLPLANE |HUMP HITTING CHEST|LOOP HITTING CHEST|WAVE HITTING CHEST",
    "1d9b1 SIGNWRITING ROTATION-WALLPLANE |SINGLE HITTING CHEST|DOUBLE HITTING CHEST|ALTERNATING HITTING CHEST",
    "1d9b4 SIGNWRITING MOVEMENT-WALLPLANE WAVE DIAGONAL PATH |SMALL|MEDIUM|LARGE",
    "1d9b7 SIGNWRITING MOVEMENT-FLOORPLANE CURVE HITTING CEILING |SMALL|LARGE",
    "1d9b9 SIGNWRITING MOVEMENT-FLOORPLANE HUMP HITTING CEILING SMALL |DOUBLE",
    "1d9ba SIGNWRITING MOVEMENT-FLOORPLANE HUMP HITTING CEILING |LARGE DOUBLE|SMALL TRIPLE|LARGE TRIPLE",
    "1d9bd SIGNWRITING MOVEMENT-FLOORPLANE LOOP HITTING CEILING SMALL |SINGLE",
    "1d9be SIGNWRITING MOVEMENT-FLOORPLANE LOOP HITTING CEILING |LARGE SINGLE|SMALL DOUBLE|LARGE DOUBLE",
    "1d9c1 SIGNWRITING MOVEMENT-FLOORPLANE WAVE HITTING CEILING |SMALL|LARGE",
    "1d9c3 SIGNWRITING ROTATION-FLOORPLANE SINGLE HITTING |CEILING",
    "1d9c4 SIGNWRITING ROTATION-FLOORPLANE |DOUBLE HITTING CEILING|ALTERNATING HITTING CEILING",
    "1d9c6 SIGNWRITING MOVEMENT-FLOORPLANE CURVE HITTING FLOOR |SMALL|LARGE",
    "1d9c8 SIGNWRITING MOVEMENT-FLOORPLANE HUMP HITTING FLOOR |SMALL DOUBLE|LARGE DOUBLE",
    "1d9ca SIGNWRITING MOVEMENT-FLOORPLANE HUMP HITTING FLOOR TRIPLE |SMALL TRIPLE|LARGE TRIPLE",
    "1d9cc SIGNWRITING MOVEMENT-FLOORPLANE LOOP HITTING FLOOR |SMALL SINGLE|LARGE SINGLE|SMALL DOUBLE",
    "1d9cf SIGNWRITING MOVEMENT-FLOORPLANE |LOOP HITTING FLOOR LARGE DOUBLE|WAVE HITTING FLOOR SMALL",
    "1d9d1 SIGNWRITING |MOVEMENT-FLOORPLANE WAVE HITTING FLOOR LARGE|ROTATION-FLOORPLANE SINGLE HITTING FLOOR",
    "1d9d3 SIGNWRITING ROTATION-FLOORPLANE |DOUBLE HITTING FLOOR|ALTERNATING HITTING FLOOR",
    "1d9d5 SIGNWRITING MOVEMENT-FLOORPLANE CURVE |SMALL|MEDIUM|LARGE|LARGEST|COMBINED",
    "1d9da SIGNWRITING MOVEMENT-FLOORPLANE |HUMP SMALL|LOOP SMALL|WAVE SNAKE|WAVE SMALL|WAVE LARGE",
    "1d9df SIGNWRITING ROTATION-FLOORPLANE |SINGLE|DOUBLE|ALTERNATING",
    "1d9e2 SIGNWRITING MOVEMENT-FLOORPLANE SHAKING |PARALLEL",
    "1d9e3 SIGNWRITING MOVEMENT-WALLPLANE ARM CIRCLE |SMALL SINGLE|MEDIUM SINGLE|SMALL DOUBLE|MEDIUM DOUBLE",
    "1d9e7 SIGNWRITING MOVEMENT-FLOORPLANE ARM CIRCLE HITTING WALL |SMALL SINGLE|MEDIUM SINGLE|LARGE SINGLE",
    "1d9ea SIGNWRITING MOVEMENT-FLOORPLANE ARM CIRCLE HITTING WALL |SMALL DOUBLE|MEDIUM DOUBLE|LARGE DOUBLE",
    "1d9ed SIGNWRITING MOVEMENT-WALLPLANE WRIST CIRCLE FRONT |SINGLE|DOUBLE",
    "1d9ef SIGNWRITING MOVEMENT-FLOORPLANE WRIST CIRCLE HITTING WALL |SINGLE|DOUBLE",
    "1d9f1 SIGNWRITING MOVEMENT-WALLPLANE FINGER CIRCLES |SINGLE|DOUBLE",
    "1d9f3 SIGNWRITING MOVEMENT-FLOORPLANE FINGER CIRCLES HITTING WALL |SINGLE|DOUBLE",
    "1d9f5 SIGNWRITING DYNAMIC ARROWHEAD |SMALL|LARGE",
    "1d9f7 SIGNWRITING DYNAMIC |FAST|SLOW|TENSE|RELAXED|SIMULTANEOUS|SIMULTANEOUS ALTERNATING|EVERY OTHER TIME",
    "1d9fe SIGNWRITING |DYNAMIC GRADUAL|HEAD|HEAD RIM",
    "1da01 SIGNWRITING HEAD MOVEMENT-|WALLPLANE STRAIGHT|WALLPLANE TILT|FLOORPLANE STRAIGHT|WALLPLANE CURVE",
    "1da05 SIGNWRITING HEAD |MOVEMENT-FLOORPLANE CURVE|MOVEMENT CIRCLE",
    "1da07 SIGNWRITING FACE DIRECTION POSITION NOSE |FORWARD TILTING|UP OR DOWN|UP OR DOWN TILTING",
    "1da0a SIGNWRITING EYEBROWS STRAIGHT |UP|NEUTRAL|DOWN",
    "1da0d SIGNWRITING DREAMY EYEBROWS |NEUTRAL DOWN|DOWN NEUTRAL|UP NEUTRAL|NEUTRAL UP",
    "1da11 SIGNWRITING FOREHEAD |NEUTRAL|CONTACT|WRINKLED;1da14 SIGNWRITING EYES |OPEN|SQUEEZED|CLOSED",
    "1da17 SIGNWRITING EYE BLINK |SINGLE|MULTIPLE",
    "1da19 SIGNWRITING |EYES HALF OPEN|EYES WIDE OPEN|EYES HALF CLOSED|EYES WIDENING MOVEMENT|EYE WINK",
    "1da1e SIGNWRITING EYELASHES |UP|DOWN|FLUTTERING",
    "1da21 SIGNWRITING EYEGAZE-WALLPLANE |STRAIGHT|STRAIGHT DOUBLE|STRAIGHT ALTERNATING",
    "1da24 SIGNWRITING EYEGAZE-FLOORPLANE |STRAIGHT|STRAIGHT DOUBLE|STRAIGHT ALTERNATING",
    "1da27 SIGNWRITING EYEGAZE-|WALLPLANE CURVED|FLOORPLANE CURVED|WALLPLANE CIRCLING",
    "1da2a SIGNWRITING CHEEKS |PUFFED|NEUTRAL|SUCKED;1da2d SIGNWRITING TENSE CHEEKS |HIGH|MIDDLE|LOW",
    "1da30 SIGNWRITING |EARS|NOSE NEUTRAL|NOSE CONTACT|NOSE WRINKLES|NOSE WIGGLES",
    "1da35 SIGNWRITING AIR |BLOWING OUT|SUCKING IN|BLOW SMALL ROTATIONS|SUCK SMALL ROTATIONS",
    "1da39 SIGNWRITING BREATH |INHALE|EXHALE;1da3b SIGNWRITING MOUTH CLOSED |NEUTRAL|FORWARD|CONTACT",
    "1da3e SIGNWRITING MOUTH |SMILE|SMILE WRINKLED|SMILE OPEN|FROWN|FROWN WRINKLED|FROWN OPEN|OPEN CIRCLE",
    "1da45 SIGNWRITING MOUTH OPEN |FORWARD|WRINKLED|OVAL|OVAL WRINKLED|OVAL YAWN|RECTANGLE|RECTANGLE WRINKLED",
    "1da4c SIGNWRITING MOUTH |OPEN RECTANGLE YAWN|KISS|KISS FORWARD|KISS WRINKLED|TENSE|TENSE FORWARD",
    "1da52 SIGNWRITING |MOUTH TENSE SUCKED|LIPS PRESSED TOGETHER|LIP LOWER OVER UPPER|LIP UPPER OVER LOWER",
    "1da56 SIGNWRITING MOUTH |CORNERS|WRINKLES SINGLE|WRINKLES DOUBLE",
    "1da59 SIGNWRITING TONGUE |STICKING OUT FAR|LICKING LIPS|TIP BETWEEN LIPS|TIP TOUCHING INSIDE MOUTH",
    "1da5d SIGNWRITING TONGUE |INSIDE MOUTH RELAXED|MOVES AGAINST CHEEK|CENTRE STICKING OUT",
    "1da60 SIGNWRITING |TONGUE CENTRE INSIDE MOUTH|TEETH",
    "1da62 SIGNWRITING TEETH |MOVEMENT|ON TONGUE|ON TONGUE MOVEMENT|ON LIPS|ON LIPS MOVEMENT|BITE LIPS",
    "1da68 SIGNWRITING |MOVEMENT-WALLPLANE JAW|MOVEMENT-FLOORPLANE JAW|NECK|HAIR|EXCITEMENT",
    "1da6d SIGNWRITING SHOULDER HIP |SPINE|POSITIONS",
    "1da6f SIGNWRITING |WALLPLANE SHOULDER HIP MOVE|FLOORPLANE SHOULDER HIP MOVE|SHOULDER TILTING FROM WAIST",
    "1da72 SIGNWRITING TORSO-WALLPLANE |STRAIGHT STRETCH|CURVED BEND",
    "1da74 SIGNWRITING |TORSO-FLOORPLANE TWISTING|UPPER BODY TILTING FROM HIP JOINTS|LIMB COMBINATION",
    "1da77 SIGNWRITING LIMB LENGTH-|1|2|3|4|5|6|7",
    "1da7e SIGNWRITING |FINGER|LOCATION-WALLPLANE SPACE|LOCATION-FLOORPLANE SPACE",
    "1da81 SIGNWRITING LOCATION |HEIGHT|WIDTH|DEPTH|HEAD NECK|TORSO|LIMBS DIGITS",
    "1da87 SIGNWRITING |COMMA|FULL STOP|SEMICOLON|COLON|PARENTHESIS;1da9b SIGNWRITING FILL MODIFIER-|2|3|4|5|6",
    "1daa1 SIGNWRITING ROTATION MODIFIER-|2|3|4|5|6|7|8|9|10|11|12|13|14|15|16",
    "1df00 LATIN SMALL LETTER |FENG DIGRAPH WITH TRILL|REVERSED SCRIPT G",
    "1df02 LATIN |LETTER SMALL CAPITAL TURNED G|SMALL LETTER REVERSED K|LETTER SMALL CAPITAL L WITH BELT",
    "1df05 LATIN SMALL LETTER |LEZH WITH RETROFLEX HOOK|TURNED Y WITH BELT|REVERSED ENG",
    "1df08 LATIN SMALL LETTER |TURNED R WITH LONG LEG AND RETROFLEX HOOK|T WITH HOOK AND RETROFLEX HOOK",
    "1df0a LATIN LETTER RETROFLEX CLICK WITH RETROFLEX |HOOK",
    "1df0b LATIN SMALL LETTER |ESH WITH DOUBLE BAR|ESH WITH DOUBLE BAR AND CURL|TURNED T WITH CURL",
    "1df0e LATIN LETTER |INVERTED GLOTTAL STOP WITH CURL|STRETCHED C WITH CURL|SMALL CAPITAL TURNED K",
    "1df11 LATIN SMALL LETTER |L WITH FISHHOOK|DEZH DIGRAPH WITH PALATAL HOOK",
    "1df13 LATIN SMALL LETTER |L WITH BELT AND PALATAL HOOK|ENG WITH PALATAL HOOK|TURNED R WITH PALATAL HOOK",
    "1df16 LATIN SMALL LETTER |R WITH FISHHOOK AND PALATAL HOOK|TESH DIGRAPH WITH PALATAL HOOK",
    "1df18 LATIN SMALL LETTER |EZH WITH PALATAL HOOK|DEZH DIGRAPH WITH RETROFLEX HOOK",
    "1df1a LATIN SMALL LETTER |I WITH STROKE AND RETROFLEX HOOK|O WITH RETROFLEX HOOK",
    "1df1c LATIN SMALL LETTER |TESH DIGRAPH WITH RETROFLEX HOOK|C WITH RETROFLEX HOOK|S WITH CURL",
    "1e000 COMBINING GLAGOLITIC LETTER |AZU|BUKY|VEDE|GLAGOLI|DOBRO|YESTU|ZHIVETE",
    "1e008 COMBINING GLAGOLITIC LETTER |ZEMLJA|IZHE|INITIAL IZHE|I|DJERVI|KAKO",
    "1e00e COMBINING GLAGOLITIC LETTER |LJUDIJE|MYSLITE|NASHI|ONU|POKOJI|RITSI|SLOVO|TVRIDO|UKU|FRITU|HERU",
    "1e01b COMBINING GLAGOLITIC LETTER |SHTA|TSI|CHRIVI|SHA|YERU|YERI|YATI",
    "1e023 COMBINING GLAGOLITIC LETTER |YU|SMALL YUS",
    "1e026 COMBINING GLAGOLITIC LETTER |YO|IOTATED SMALL YUS|BIG YUS|IOTATED BIG YUS|FITA",
    "1e100 NYIAKENG PUACHUE HMONG LETTER |MA|TSA|NTA|TA",
    "1e104 NYIAKENG PUACHUE HMONG LETTER |HA|NA|XA|NKA|CA|LA|SA|ZA|NCA|NTSA|KA|DA|NYA|NRA|VA|NTXA|TXA|FA|RA|QA",
    "1e118 NYIAKENG PUACHUE HMONG LETTER |YA|NQA|PA|XYA|NPA|DLA|NPLA|HAH|MLA|PLA|GA|RRA|A|AA|I|U|O|OO|E|EE|W",
    "1e130 NYIAKENG PUACHUE HMONG TONE-|B|M|J|V|S|G|D",
    "1e137 NYIAKENG PUACHUE HMONG SIGN FOR |PERSON|THING|LOCATION|ANIMAL|INVERTEBRATE",
    "1e13c NYIAKENG PUACHUE HMONG |SIGN XW XW|SYLLABLE LENGTHENER",
    "1e140 NYIAKENG PUACHUE HMONG DIGIT |ZERO|ONE|TWO|THREE|FOUR|FIVE|SIX|SEVEN|EIGHT|NINE",
    "1e14e NYIAKENG PUACHUE HMONG |LOGOGRAM NYAJ|CIRCLED CA;1e290 TOTO LETTER |PA|BA|TA|DA|KA|GA|MA|NA|NGA|SA|CHA|YA",
    "1e29c TOTO LETTER |WA|JA|HA|RA|LA|I|BREATHY I|IU|BREATHY IU|U|E|BREATHY E|EO|BREATHY EO|O|AE|BREATHY AE|A",
    "1e2ae TOTO SIGN RISING |TONE;1e2c0 WANCHO LETTER |AA|A|BA|CA|DA|GA|YA|PHA|LA|NA|PA|TA|THA|FA|SA|SHA|JA|ZA|WA|VA",
    "1e2d4 WANCHO LETTER |KA|O|AU|RA|MA|KHA|HA|E|I|NGA|U|LLHA|TSA|TRA|ONG|AANG|ANG|ING|ON|EN|AAN|NYA|UEN|YIH",
    "1e2ec WANCHO TONE |TUP|TUPNI|KOI|KOINI;1e2f0 WANCHO DIGIT |ZERO|ONE|TWO|THREE|FOUR|FIVE|SIX|SEVEN|EIGHT|NINE",
    "1e2ff WANCHO NGUN |SIGN;1e7e0 ETHIOPIC SYLLABLE |HHYA|HHYU|HHYI|HHYAA|HHYEE|HHYE|HHYO",
    "1e7e8 ETHIOPIC SYLLABLE |GURAGE HHWA|HHWI|HHWEE|HHWE;1e7ed ETHIOPIC SYLLABLE GURAGE |MWI|MWEE",
    "1e7f0 ETHIOPIC SYLLABLE GURAGE |QWI|QWEE|QWE|BWI|BWEE|KWI|KWEE|KWE|GWI|GWEE|GWE|FWI|FWEE|PWI|PWEE",
    "1e800 MENDE KIKAKUI SYLLABLE |M001 KI|M002 KA|M003 KU|M065 KEE|M095 KE|M076 KOO",
    "1e806 MENDE KIKAKUI SYLLABLE |M048 KO|M179 KUA|M004 WI|M005 WA|M006 WU|M126 WEE|M118 WE|M114 WOO|M045 WO",
    "1e80f MENDE KIKAKUI SYLLABLE |M194 WUI|M143 WEI|M061 WVI|M049 WVA|M139 WVE|M007 MIN|M008 MAN|M009 MUN",
    "1e817 MENDE KIKAKUI SYLLABLE |M059 MEN|M094 MON|M154 MUAN|M189 MUEN|M010 BI|M011 BA|M012 BU|M150 BEE",
    "1e81f MENDE KIKAKUI SYLLABLE |M097 BE|M103 BOO|M138 BO|M013 I|M014 A|M015 U|M163 EE|M100 E|M165 OO",
    "1e828 MENDE KIKAKUI SYLLABLE |M147 O|M137 EI|M131 IN|M135 IN|M195 AN|M178 EN|M019 SI|M020 SA|M021 SU",
    "1e831 MENDE KIKAKUI SYLLABLE |M162 SEE|M116 SE|M136 SOO|M079 SO|M196 SIA|M025 LI|M026 LA|M027 LU|M084 LEE",
    "1e83a MENDE KIKAKUI SYLLABLE |M073 LE|M054 LOO|M153 LO|M110 LONG LE|M016 DI|M017 DA|M018 DU|M089 DEE",
    "1e842 MENDE KIKAKUI SYLLABLE |M180 DOO|M181 DO|M022 TI|M023 TA|M024 TU|M091 TEE|M055 TE|M104 TOO|M069 TO",
    "1e84b MENDE KIKAKUI SYLLABLE |M028 JI|M029 JA|M030 JU|M157 JEE|M113 JE|M160 JOO|M063 JO|M175 LONG JO",
    "1e853 MENDE KIKAKUI SYLLABLE |M031 YI|M032 YA|M033 YU|M109 YEE|M080 YE|M141 YOO|M121 YO|M034 FI|M035 FA",
    "1e85c MENDE KIKAKUI SYLLABLE |M036 FU|M078 FEE|M075 FE|M133 FOO|M088 FO|M197 FUA|M101 FAN|M037 NIN",
    "1e864 MENDE KIKAKUI SYLLABLE |M038 NAN|M039 NUN|M117 NEN|M169 NON|M176 HI|M041 HA|M186 HU|M040 HEE",
    "1e86c MENDE KIKAKUI SYLLABLE |M096 HE|M042 HOO|M140 HO|M083 HEEI|M128 HOOU|M053 HIN|M130 HAN|M087 HUN",
    "1e874 MENDE KIKAKUI SYLLABLE |M052 HEN|M193 HON|M046 HUAN|M090 NGGI|M043 NGGA|M082 NGGU|M115 NGGEE",
    "1e87b MENDE KIKAKUI SYLLABLE |M146 NGGE|M156 NGGOO|M120 NGGO|M159 NGGAA|M127 NGGUA|M086 LONG NGGE",
    "1e881 MENDE KIKAKUI SYLLABLE |M106 LONG NGGOO|M183 LONG NGGO|M155 GI|M111 GA|M168 GU|M190 GEE|M166 GUEI",
    "1e888 MENDE KIKAKUI SYLLABLE |M167 GUAN|M184 NGEN|M057 NGON|M177 NGUAN|M068 PI|M099 PA|M050 PU|M081 PEE",
    "1e890 MENDE KIKAKUI SYLLABLE |M051 PE|M102 POO|M066 PO|M145 MBI|M062 MBA|M122 MBU|M047 MBEE|M188 MBEE",
    "1e898 MENDE KIKAKUI SYLLABLE |M072 MBE|M172 MBOO|M174 MBO|M187 MBUU|M161 LONG MBE|M105 LONG MBOO",
    "1e89e MENDE KIKAKUI SYLLABLE |M142 LONG MBO|M132 KPI|M092 KPA|M074 KPU|M044 KPEE|M108 KPE|M112 KPOO",
    "1e8a5 MENDE KIKAKUI SYLLABLE |M158 KPO|M124 GBI|M056 GBA|M148 GBU|M093 GBEE|M107 GBE|M071 GBOO|M070 GBO",
    "1e8ad MENDE KIKAKUI SYLLABLE |M171 RA|M123 NDI|M129 NDA|M125 NDU|M191 NDEE|M119 NDE|M067 NDOO|M064 NDO",
    "1e8b5 MENDE KIKAKUI SYLLABLE |M152 NJA|M192 NJU|M149 NJEE|M134 NJOO|M182 VI|M185 VA|M151 VU|M173 VEE",
    "1e8bd MENDE KIKAKUI SYLLABLE |M085 VE|M144 VOO|M077 VO|M164 NYIN|M058 NYAN|M170 NYUN|M098 NYEN|M060 NYON",
    "1e8c7 MENDE KIKAKUI DIGIT |ONE|TWO|THREE|FOUR|FIVE|SIX|SEVEN|EIGHT|NINE",
    "1e8d0 MENDE KIKAKUI COMBINING NUMBER |TEENS",
    "1e8d1 MENDE KIKAKUI COMBINING NUMBER |TENS|HUNDREDS|THOUSANDS|TEN THOUSANDS|HUNDRED THOUSANDS|MILLIONS",
    "1e900 ADLAM CAPITAL LETTER |ALIF|DAALI|LAAM|MIIM|BA|SINNYIIYHE|PE|BHE|RA|E|FA|I|O|DHA",
    "1e90e ADLAM CAPITAL LETTER |YHE|WAW|NUN|KAF|YA|U|JIIM|CHI|HA|QAAF|GA|NYA|TU|NHA|VA|KHA|GBE|ZAL|KPO|SHA",
    "1e922 ADLAM SMALL LETTER |ALIF|DAALI|LAAM|MIIM|BA|SINNYIIYHE|PE|BHE|RA|E|FA|I|O",
    "1e92f ADLAM SMALL LETTER |DHA|YHE|WAW|NUN|KAF|YA|U|JIIM|CHI|HA|QAAF|GA|NYA|TU|NHA|VA|KHA|GBE|ZAL|KPO|SHA",
    "1e944 ADLAM |ALIF LENGTHENER|VOWEL LENGTHENER",
    "1e946 ADLAM |GEMINATION MARK|HAMZA|CONSONANT MODIFIER|GEMINATE CONSONANT MODIFIER|NUKTA|NASALIZATION MARK",
    "1e950 ADLAM DIGIT |ZERO|ONE|TWO|THREE|FOUR|FIVE|SIX|SEVEN|EIGHT|NINE",
    "1e95e ADLAM INITIAL |EXCLAMATION MARK|QUESTION MARK",
    "1ec71 INDIC SIYAQ NUMBER |ONE|TWO|THREE|FOUR|FIVE|SIX|SEVEN|EIGHT|NINE|TEN",
    "1ec7b INDIC SIYAQ NUMBER |TWENTY|THIRTY|FORTY|FIFTY|SIXTY|SEVENTY|EIGHTY|NINETY|ONE HUNDRED|TWO HUNDRED",
    "1ec85 INDIC SIYAQ NUMBER |THREE HUNDRED|FOUR HUNDRED|FIVE HUNDRED|SIX HUNDRED|SEVEN HUNDRED|EIGHT HUNDRED",
    "1ec8b INDIC SIYAQ NUMBER |NINE HUNDRED|ONE THOUSAND|TWO THOUSAND|THREE THOUSAND|FOUR THOUSAND",
    "1ec90 INDIC SIYAQ NUMBER |FIVE THOUSAND|SIX THOUSAND|SEVEN THOUSAND|EIGHT THOUSAND|NINE THOUSAND",
    "1ec95 INDIC SIYAQ NUMBER |TEN THOUSAND|TWENTY THOUSAND|THIRTY THOUSAND|FORTY THOUSAND|FIFTY THOUSAND",
    "1ec9a INDIC SIYAQ NUMBER |SIXTY THOUSAND|SEVENTY THOUSAND|EIGHTY THOUSAND|NINETY THOUSAND|LAKH|LAKHAN",
    "1eca0 INDIC SIYAQ |LAKH MARK|NUMBER KAROR|NUMBER KARORAN",
    "1eca3 INDIC SIYAQ NUMBER PREFIXED |ONE|TWO|THREE|FOUR|FIVE|SIX|SEVEN|EIGHT|NINE",
    "1ecac INDIC SIYAQ |PLACEHOLDER|FRACTION ONE QUARTER|FRACTION ONE HALF|FRACTION THREE QUARTERS|RUPEE MARK",
    "1ecb1 INDIC SIYAQ NUMBER ALTERNATE |ONE|TWO|TEN THOUSAND;1ecb4 INDIC SIYAQ ALTERNATE LAKH |MARK",
    "1ed01 OTTOMAN SIYAQ NUMBER |ONE|TWO|THREE|FOUR|FIVE|SIX|SEVEN|EIGHT|NINE|TEN|TWENTY|THIRTY",
    "1ed0d OTTOMAN SIYAQ NUMBER |FORTY|FIFTY|SIXTY|SEVENTY|EIGHTY|NINETY|ONE HUNDRED|TWO HUNDRED|THREE HUNDRED",
    "1ed16 OTTOMAN SIYAQ NUMBER |FOUR HUNDRED|FIVE HUNDRED|SIX HUNDRED|SEVEN HUNDRED|EIGHT HUNDRED",
    "1ed1b OTTOMAN SIYAQ NUMBER |NINE HUNDRED|ONE THOUSAND|TWO THOUSAND|THREE THOUSAND|FOUR THOUSAND",
    "1ed20 OTTOMAN SIYAQ NUMBER |FIVE THOUSAND|SIX THOUSAND|SEVEN THOUSAND|EIGHT THOUSAND|NINE THOUSAND",
    "1ed25 OTTOMAN SIYAQ NUMBER |TEN THOUSAND|TWENTY THOUSAND|THIRTY THOUSAND|FORTY THOUSAND|FIFTY THOUSAND",
    "1ed2a OTTOMAN SIYAQ NUMBER |SIXTY THOUSAND|SEVENTY THOUSAND|EIGHTY THOUSAND|NINETY THOUSAND",
    "1ed2e OTTOMAN SIYAQ |MARRATAN;1ed2f OTTOMAN SIYAQ ALTERNATE NUMBER |TWO|THREE|FOUR|FIVE|SIX|SEVEN",
    "1ed35 OTTOMAN SIYAQ ALTERNATE NUMBER |EIGHT|NINE|TEN|FOUR HUNDRED|SIX HUNDRED|TWO THOUSAND|TEN THOUSAND",
    "1ed3c OTTOMAN SIYAQ FRACTION ONE |HALF|SIXTH;1ee00 ARABIC MATHEMATICAL |ALEF|BEH|JEEM|DAL",
    "1ee05 ARABIC MATHEMATICAL |WAW|ZAIN|HAH|TAH|YEH|KAF|LAM|MEEM|NOON|SEEN|AIN|FEH|SAD|QAF|REH|SHEEN|TEH",
    "1ee16 ARABIC MATHEMATICAL |THEH|KHAH|THAL|DAD|ZAH|GHAIN|DOTLESS BEH|DOTLESS NOON|DOTLESS FEH|DOTLESS QAF",
    "1ee21 ARABIC MATHEMATICAL INITIAL |BEH|JEEM;1ee24 ARABIC MATHEMATICAL INITIAL |HEH",
    "1ee27 ARABIC MATHEMATICAL INITIAL |HAH",
    "1ee29 ARABIC MATHEMATICAL INITIAL |YEH|KAF|LAM|MEEM|NOON|SEEN|AIN|FEH|SAD|QAF",
    "1ee34 ARABIC MATHEMATICAL INITIAL |SHEEN|TEH|THEH|KHAH;1ee39 ARABIC MATHEMATICAL INITIAL |DAD",
    "1ee3b ARABIC MATHEMATICAL INITIAL |GHAIN;1ee42 ARABIC MATHEMATICAL TAILED |JEEM",
    "1ee47 ARABIC MATHEMATICAL TAILED |HAH;1ee49 ARABIC MATHEMATICAL TAILED |YEH",
    "1ee4b ARABIC MATHEMATICAL TAILED |LAM;1ee4d ARABIC MATHEMATICAL TAILED |NOON|SEEN|AIN",
    "1ee51 ARABIC MATHEMATICAL TAILED |SAD|QAF;1ee54 ARABIC MATHEMATICAL TAILED |SHEEN",
    "1ee57 ARABIC MATHEMATICAL TAILED |KHAH;1ee59 ARABIC MATHEMATICAL TAILED |DAD",
    "1ee5b ARABIC MATHEMATICAL TAILED |GHAIN;1ee5d ARABIC MATHEMATICAL TAILED DOTLESS |NOON",
    "1ee5f ARABIC MATHEMATICAL TAILED DOTLESS |QAF;1ee61 ARABIC MATHEMATICAL STRETCHED |BEH|JEEM",
    "1ee64 ARABIC MATHEMATICAL STRETCHED |HEH;1ee67 ARABIC MATHEMATICAL STRETCHED |HAH|TAH|YEH|KAF",
    "1ee6c ARABIC MATHEMATICAL STRETCHED |MEEM|NOON|SEEN|AIN|FEH|SAD|QAF",
    "1ee74 ARABIC MATHEMATICAL STRETCHED |SHEEN|TEH|THEH|KHAH",
    "1ee79 ARABIC MATHEMATICAL STRETCHED |DAD|ZAH|GHAIN|DOTLESS BEH;1ee7e ARABIC MATHEMATICAL STRETCHED DOTLESS |FEH",
    "1ee80 ARABIC MATHEMATICAL LOOPED |ALEF|BEH|JEEM|DAL|HEH|WAW|ZAIN|HAH|TAH|YEH",
    "1ee8b ARABIC MATHEMATICAL LOOPED |LAM|MEEM",
    "1ee8d ARABIC MATHEMATICAL LOOPED |NOON|SEEN|AIN|FEH|SAD|QAF|REH|SHEEN|TEH|THEH|KHAH|THAL|DAD|ZAH|GHAIN",
    "1eea1 ARABIC MATHEMATICAL DOUBLE-STRUCK |BEH|JEEM|DAL",
    "1eea5 ARABIC MATHEMATICAL DOUBLE-STRUCK |WAW|ZAIN|HAH|TAH|YEH",
    "1eeab ARABIC MATHEMATICAL DOUBLE-STRUCK |LAM|MEEM|NOON",
    "1eeae ARABIC MATHEMATICAL DOUBLE-STRUCK |SEEN|AIN|FEH|SAD|QAF|REH|SHEEN|TEH|THEH|KHAH|THAL|DAD|ZAH|GHAIN",
    "1eef0 ARABIC MATHEMATICAL OPERATOR |MEEM WITH HAH WITH TATWEEL|HAH WITH DAL",
    "1f000 MAHJONG TILE |EAST WIND|SOUTH WIND|WEST WIND|NORTH WIND|RED DRAGON",
    "1f005 MAHJONG TILE |GREEN DRAGON|WHITE DRAGON|ONE OF CHARACTERS|TWO OF CHARACTERS|THREE OF CHARACTERS",
    "1f00a MAHJONG TILE |FOUR OF CHARACTERS|FIVE OF CHARACTERS|SIX OF CHARACTERS|SEVEN OF CHARACTERS",
    "1f00e MAHJONG TILE |EIGHT OF CHARACTERS|NINE OF CHARACTERS|ONE OF BAMBOOS|TWO OF BAMBOOS|THREE OF BAMBOOS",
    "1f013 MAHJONG TILE |FOUR OF BAMBOOS|FIVE OF BAMBOOS|SIX OF BAMBOOS|SEVEN OF BAMBOOS|EIGHT OF BAMBOOS",
    "1f018 MAHJONG TILE |NINE OF BAMBOOS|ONE OF CIRCLES|TWO OF CIRCLES|THREE OF CIRCLES|FOUR OF CIRCLES",
    "1f01d MAHJONG TILE |FIVE OF CIRCLES|SIX OF CIRCLES|SEVEN OF CIRCLES|EIGHT OF CIRCLES|NINE OF CIRCLES",
    "1f022 MAHJONG TILE |PLUM|ORCHID|BAMBOO|CHRYSANTHEMUM|SPRING|SUMMER|AUTUMN|WINTER|JOKER|BACK",
    "1f030 DOMINO TILE HORIZONTAL |BACK;1f031 DOMINO TILE HORIZONTAL-00-|00|01|02|03|04|05|06",
    "1f038 DOMINO TILE HORIZONTAL-01-|00|01|02|03|04|05|06;1f03f DOMINO TILE HORIZONTAL-02-|00|01|02|03|04|05|06",
    "1f046 DOMINO TILE HORIZONTAL-03-|00|01|02|03|04|05|06;1f04d DOMINO TILE HORIZONTAL-04-|00|01|02|03|04|05|06",
    "1f054 DOMINO TILE HORIZONTAL-05-|00|01|02|03|04|05|06;1f05b DOMINO TILE HORIZONTAL-06-|00|01|02|03|04|05|06",
    "1f062 DOMINO TILE VERTICAL |BACK;1f063 DOMINO TILE VERTICAL-00-|00|01|02|03|04|05|06",
    "1f06a DOMINO TILE VERTICAL-01-|00|01|02|03|04|05|06;1f071 DOMINO TILE VERTICAL-02-|00|01|02|03|04|05|06",
    "1f078 DOMINO TILE VERTICAL-03-|00|01|02|03|04|05|06;1f07f DOMINO TILE VERTICAL-04-|00|01|02|03|04|05|06",
    "1f086 DOMINO TILE VERTICAL-05-|00|01|02|03|04|05|06;1f08d DOMINO TILE VERTICAL-06-|00|01|02|03|04|05|06",
    "1f0a0 PLAYING CARD |BACK|ACE OF SPADES|TWO OF SPADES|THREE OF SPADES|FOUR OF SPADES",
    "1f0a5 PLAYING CARD |FIVE OF SPADES|SIX OF SPADES|SEVEN OF SPADES|EIGHT OF SPADES|NINE OF SPADES",
    "1f0aa PLAYING CARD |TEN OF SPADES|JACK OF SPADES|KNIGHT OF SPADES|QUEEN OF SPADES|KING OF SPADES",
    "1f0b1 PLAYING CARD |ACE OF HEARTS|TWO OF HEARTS|THREE OF HEARTS|FOUR OF HEARTS|FIVE OF HEARTS",
    "1f0b6 PLAYING CARD |SIX OF HEARTS|SEVEN OF HEARTS|EIGHT OF HEARTS|NINE OF HEARTS|TEN OF HEARTS",
    "1f0bb PLAYING CARD |JACK OF HEARTS|KNIGHT OF HEARTS|QUEEN OF HEARTS|KING OF HEARTS|RED JOKER",
    "1f0c1 PLAYING CARD |ACE OF DIAMONDS|TWO OF DIAMONDS|THREE OF DIAMONDS|FOUR OF DIAMONDS|FIVE OF DIAMONDS",
    "1f0c6 PLAYING CARD |SIX OF DIAMONDS|SEVEN OF DIAMONDS|EIGHT OF DIAMONDS|NINE OF DIAMONDS|TEN OF DIAMONDS",
    "1f0cb PLAYING CARD |JACK OF DIAMONDS|KNIGHT OF DIAMONDS|QUEEN OF DIAMONDS|KING OF DIAMONDS|BLACK JOKER",
    "1f0d1 PLAYING CARD |ACE OF CLUBS|TWO OF CLUBS|THREE OF CLUBS|FOUR OF CLUBS",
    "1f0d5 PLAYING CARD |FIVE OF CLUBS|SIX OF CLUBS|SEVEN OF CLUBS|EIGHT OF CLUBS|NINE OF CLUBS|TEN OF CLUBS",
    "1f0db PLAYING CARD |JACK OF CLUBS|KNIGHT OF CLUBS|QUEEN OF CLUBS|KING OF CLUBS|WHITE JOKER|FOOL",
    "1f0e1 PLAYING CARD TRUMP-|1|2|3|4|5|6|7|8|9|10|11|12|13|14|15|16|17|18|19|20|21",
    "1f100 DIGIT |ZERO FULL STOP|ZERO COMMA|ONE COMMA",
    "1f103 DIGIT |TWO COMMA|THREE COMMA|FOUR COMMA|FIVE COMMA|SIX COMMA|SEVEN COMMA|EIGHT COMMA|NINE COMMA",
    "1f10b DINGBAT |CIRCLED SANS-SERIF DIGIT ZERO|NEGATIVE CIRCLED SANS-SERIF DIGIT ZERO",
    "1f10d CIRCLED |ZERO WITH SLASH|ANTICLOCKWISE ARROW|DOLLAR SIGN WITH OVERLAID BACKSLASH",
    "1f110 PARENTHESIZED LATIN CAPITAL LETTER |A|B|C|D|E|F|G|H|I|J|K|L|M|N|O|P|Q|R|S|T|U|V|W|X|Y|Z",
    "1f12a TORTOISE SHELL BRACKETED LATIN CAPITAL LETTER |S;1f12b CIRCLED ITALIC LATIN CAPITAL LETTER |C|R",
    "1f12d CIRCLED |CD|WZ;1f12f COPYLEFT |SYMBOL",
    "1f130 SQUARED LATIN CAPITAL LETTER |A|B|C|D|E|F|G|H|I|J|K|L|M|N|O|P|Q|R|S|T|U|V|W|X|Y|Z",
    "1f14a SQUARED |HV|MV|SD|SS|PPV|WC",
    "1f150 NEGATIVE CIRCLED LATIN CAPITAL LETTER |A|B|C|D|E|F|G|H|I|J|K|L|M|N|O|P|Q|R|S|T|U|V|W|X|Y|Z",
    "1f16a RAISED |MC SIGN|MD SIGN|MR SIGN;1f16d CIRCLED |CC|C WITH OVERLAID BACKSLASH|HUMAN FIGURE",
    "1f170 NEGATIVE SQUARED LATIN CAPITAL LETTER |A|B|C|D|E|F|G|H|I|J|K|L|M|N|O|P|Q|R|S|T|U|V|W|X|Y|Z",
    "1f18a CROSSED NEGATIVE SQUARED LATIN CAPITAL LETTER |P;1f18b NEGATIVE SQUARED |IC|PA|SA|AB|WC;1f190 SQUARE |DJ",
    "1f191 SQUARED |CL|COOL|FREE|ID|NEW|NG|OK|SOS|UP WITH EXCLAMATION MARK|VS|THREE D",
    "1f19c SQUARED |SECOND SCREEN|TWO K|FOUR K|EIGHT K|FIVE POINT ONE|SEVEN POINT ONE|TWENTY-TWO POINT TWO",
    "1f1a3 SQUARED |SIXTY P|ONE HUNDRED TWENTY P|LATIN SMALL LETTER D|HC|HDR|HI-RES|LOSSLESS|SHV|UHD|VOD",
    "1f1ad MASK WORK |SYMBOL",
    "1f1e6 REGIONAL INDICATOR SYMBOL LETTER |A|B|C|D|E|F|G|H|I|J|K|L|M|N|O|P|Q|R|S|T|U|V|W|X|Y|Z",
    "1f200 SQUARE HIRAGANA |HOKA;1f201 SQUARED KATAKANA |KOKO|SA;1f210 SQUARED CJK UNIFIED IDEOGRAPH-|624B|5B57|53CC",
    "1f213 SQUARED |KATAKANA DE|CJK UNIFIED IDEOGRAPH-4E8C",
    "1f215 SQUARED CJK UNIFIED IDEOGRAPH-|591A|89E3|5929|4EA4|6620|7121|6599|524D|5F8C|518D|65B0|521D|7D42",
    "1f222 SQUARED CJK UNIFIED IDEOGRAPH-|751F|8CA9|58F0|5439|6F14|6295|6355|4E00|4E09|904A|5DE6|4E2D|53F3",
    "1f22f SQUARED CJK UNIFIED IDEOGRAPH-|6307|8D70|6253|7981|7A7A|5408|6E80|6709|6708|7533|5272|55B6|914D",
    "1f240 TORTOISE SHELL BRACKETED CJK UNIFIED IDEOGRAPH-|672C|4E09|4E8C|5B89|70B9|6253|76D7|52DD|6557",
    "1f250 CIRCLED IDEOGRAPH |ADVANTAGE|ACCEPT;1f260 ROUNDED SYMBOL FOR |FU|LU|SHOU|XI|SHUANGXI|CAI",
    "1f300 |CYCLONE|FOGGY|CLOSED UMBRELLA|NIGHT WITH STARS|SUNRISE OVER MOUNTAINS|SUNRISE",
    "1f306 |CITYSCAPE AT DUSK|SUNSET OVER BUILDINGS|RAINBOW|BRIDGE AT NIGHT|WATER WAVE|VOLCANO|MILKY WAY",
    "1f30d EARTH GLOBE |EUROPE-AFRICA|AMERICAS|ASIA-AUSTRALIA;1f310 GLOBE WITH |MERIDIANS",
    "1f311 |NEW MOON SYMBOL|WAXING CRESCENT MOON SYMBOL|FIRST QUARTER MOON SYMBOL|WAXING GIBBOUS MOON SYMBOL",
    "1f315 |FULL MOON SYMBOL|WANING GIBBOUS MOON SYMBOL|LAST QUARTER MOON SYMBOL|WANING CRESCENT MOON SYMBOL",
    "1f319 |CRESCENT MOON|NEW MOON WITH FACE|FIRST QUARTER MOON WITH FACE|LAST QUARTER MOON WITH FACE",
    "1f31d |FULL MOON WITH FACE|SUN WITH FACE|GLOWING STAR|SHOOTING STAR|THERMOMETER|BLACK DROPLET|WHITE SUN",
    "1f324 WHITE SUN |WITH SMALL CLOUD|BEHIND CLOUD|BEHIND CLOUD WITH RAIN",
    "1f327 CLOUD WITH |RAIN|SNOW|LIGHTNING|TORNADO",
    "1f32b |FOG|WIND BLOWING FACE|HOT DOG|TACO|BURRITO|CHESTNUT|SEEDLING|EVERGREEN TREE|DECIDUOUS TREE",
    "1f334 |PALM TREE|CACTUS|HOT PEPPER|TULIP|CHERRY BLOSSOM|ROSE|HIBISCUS|SUNFLOWER|BLOSSOM|EAR OF MAIZE",
    "1f33e |EAR OF RICE|HERB|FOUR LEAF CLOVER|MAPLE LEAF|FALLEN LEAF|LEAF FLUTTERING IN WIND|MUSHROOM|TOMATO",
    "1f346 |AUBERGINE|GRAPES|MELON|WATERMELON|TANGERINE|LEMON|BANANA|PINEAPPLE|RED APPLE|GREEN APPLE|PEAR",
    "1f351 |PEACH|CHERRIES|STRAWBERRY|HAMBURGER|SLICE OF PIZZA|MEAT ON BONE|POULTRY LEG|RICE CRACKER|RICE BALL",
    "1f35a |COOKED RICE|CURRY AND RICE|STEAMING BOWL|SPAGHETTI|BREAD|FRENCH FRIES|ROASTED SWEET POTATO|DANGO",
    "1f362 |ODEN|SUSHI|FRIED SHRIMP|FISH CAKE WITH SWIRL DESIGN|SOFT ICE CREAM|SHAVED ICE|ICE CREAM|DOUGHNUT",
    "1f36a |COOKIE|CHOCOLATE BAR|CANDY|LOLLIPOP|CUSTARD|HONEY POT|SHORTCAKE|BENTO BOX|POT OF FOOD|COOKING",
    "1f374 |FORK AND KNIFE|TEACUP WITHOUT HANDLE|SAKE BOTTLE AND CUP|WINE GLASS|COCKTAIL GLASS|TROPICAL DRINK",
    "1f37a |BEER MUG|CLINKING BEER MUGS|BABY BOTTLE|FORK AND KNIFE WITH PLATE|BOTTLE WITH POPPING CORK",
    "1f37f |POPCORN|RIBBON|WRAPPED PRESENT|BIRTHDAY CAKE|JACK-O-LANTERN|CHRISTMAS TREE",
    "1f385 |FATHER CHRISTMAS|FIREWORKS|FIREWORK SPARKLER|BALLOON|PARTY POPPER|CONFETTI BALL|TANABATA TREE",
    "1f38c |CROSSED FLAGS|PINE DECORATION|JAPANESE DOLLS|CARP STREAMER|WIND CHIME|MOON VIEWING CEREMONY",
    "1f392 |SCHOOL SATCHEL|GRADUATION CAP|HEART WITH TIP ON THE LEFT|BOUQUET OF FLOWERS|MILITARY MEDAL",
    "1f397 |REMINDER RIBBON|MUSICAL KEYBOARD WITH JACKS|STUDIO MICROPHONE|LEVEL SLIDER|CONTROL KNOBS",
    "1f39c BEAMED |ASCENDING MUSICAL NOTES|DESCENDING MUSICAL NOTES",
    "1f39e |FILM FRAMES|ADMISSION TICKETS|CAROUSEL HORSE|FERRIS WHEEL|ROLLER COASTER|FISHING POLE AND FISH",
    "1f3a4 |MICROPHONE|MOVIE CAMERA|CINEMA|HEADPHONE|ARTIST PALETTE|TOP HAT|CIRCUS TENT|TICKET|CLAPPER BOARD",
    "1f3ad |PERFORMING ARTS|VIDEO GAME|DIRECT HIT|SLOT MACHINE|BILLIARDS|GAME DIE|BOWLING|FLOWER PLAYING CARDS",
    "1f3b5 |MUSICAL NOTE|MULTIPLE MUSICAL NOTES|SAXOPHONE|GUITAR|MUSICAL KEYBOARD|TRUMPET|VIOLIN",
    "1f3bc |MUSICAL SCORE|RUNNING SHIRT WITH SASH|TENNIS RACQUET AND BALL|SKI AND SKI BOOT|BASKETBALL AND HOOP",
    "1f3c1 |CHEQUERED FLAG|SNOWBOARDER|RUNNER|SURFER|SPORTS MEDAL|TROPHY|HORSE RACING|AMERICAN FOOTBALL",
    "1f3c9 |RUGBY FOOTBALL|SWIMMER|WEIGHT LIFTER|GOLFER|RACING MOTORCYCLE|RACING CAR|CRICKET BAT AND BALL",
    "1f3d0 |VOLLEYBALL|FIELD HOCKEY STICK AND BALL|ICE HOCKEY STICK AND PUCK|TABLE TENNIS PADDLE AND BALL",
    "1f3d4 |SNOW CAPPED MOUNTAIN|CAMPING|BEACH WITH UMBRELLA|BUILDING CONSTRUCTION|HOUSE BUILDINGS",
    "1f3d9 |CITYSCAPE|DERELICT HOUSE BUILDING|CLASSICAL BUILDING|DESERT|DESERT ISLAND|NATIONAL PARK",
    "1f3df |STADIUM|HOUSE BUILDING|HOUSE WITH GARDEN|OFFICE BUILDING|JAPANESE POST OFFICE|EUROPEAN POST OFFICE",
    "1f3e5 |HOSPITAL|BANK|AUTOMATED TELLER MACHINE|HOTEL|LOVE HOTEL|CONVENIENCE STORE|SCHOOL|DEPARTMENT STORE",
    "1f3ed |FACTORY|IZAKAYA LANTERN|JAPANESE CASTLE|EUROPEAN CASTLE|WHITE PENNANT|BLACK PENNANT",
    "1f3f3 WAVING |WHITE FLAG|BLACK FLAG",
    "1f3f5 |ROSETTE|BLACK ROSETTE|LABEL|BADMINTON RACQUET AND SHUTTLECOCK|BOW AND ARROW|AMPHORA",
    "1f3fb EMOJI MODIFIER FITZPATRICK TYPE-|1-2|3|4|5|6;1f400 |RAT|MOUSE|OX|WATER BUFFALO",
    "1f404 |COW|TIGER|LEOPARD|RABBIT|CAT|DRAGON|CROCODILE|WHALE|SNAIL|SNAKE|HORSE|RAM|GOAT|SHEEP|MONKEY",
    "1f413 |ROOSTER|CHICKEN|DOG|PIG|BOAR|ELEPHANT|OCTOPUS|SPIRAL SHELL|BUG|ANT|HONEYBEE|LADY BEETLE|FISH",
    "1f420 |TROPICAL FISH|BLOWFISH|TURTLE|HATCHING CHICK|BABY CHICK|FRONT-FACING BABY CHICK|BIRD|PENGUIN|KOALA",
    "1f429 |POODLE|DROMEDARY CAMEL|BACTRIAN CAMEL|DOLPHIN|MOUSE FACE|COW FACE|TIGER FACE|RABBIT FACE|CAT FACE",
    "1f432 |DRAGON FACE|SPOUTING WHALE|HORSE FACE|MONKEY FACE|DOG FACE|PIG FACE|FROG FACE|HAMSTER FACE",
    "1f43a |WOLF FACE|BEAR FACE|PANDA FACE|PIG NOSE|PAW PRINTS|CHIPMUNK|EYES|EYE|EAR|NOSE|MOUTH|TONGUE",
    "1f446 WHITE |UP POINTING BACKHAND INDEX|DOWN POINTING BACKHAND INDEX|LEFT POINTING BACKHAND INDEX",
    "1f449 |WHITE RIGHT POINTING BACKHAND INDEX|FISTED HAND SIGN|WAVING HAND SIGN|OK HAND SIGN|THUMBS UP SIGN",
    "1f44e |THUMBS DOWN SIGN|CLAPPING HANDS SIGN|OPEN HANDS SIGN|CROWN|WOMANS HAT|EYEGLASSES|NECKTIE",
    "1f455 |T-SHIRT|JEANS|DRESS|KIMONO|BIKINI|WOMANS CLOTHES|PURSE|HANDBAG|POUCH|MANS SHOE|ATHLETIC SHOE",
    "1f460 |HIGH-HEELED SHOE|WOMANS SANDAL|WOMANS BOOTS|FOOTPRINTS|BUST IN SILHOUETTE|BUSTS IN SILHOUETTE|BOY",
    "1f467 |GIRL|MAN|WOMAN|FAMILY|MAN AND WOMAN HOLDING HANDS|TWO MEN HOLDING HANDS|TWO WOMEN HOLDING HANDS",
    "1f46e |POLICE OFFICER|WOMAN WITH BUNNY EARS|BRIDE WITH VEIL|PERSON WITH BLOND HAIR",
    "1f472 MAN WITH |GUA PI MAO|TURBAN;1f474 |OLDER MAN|OLDER WOMAN|BABY|CONSTRUCTION WORKER|PRINCESS",
    "1f479 JAPANESE |OGRE|GOBLIN",
    "1f47b |GHOST|BABY ANGEL|EXTRATERRESTRIAL ALIEN|ALIEN MONSTER|IMP|SKULL|INFORMATION DESK PERSON",
    "1f482 |GUARDSMAN|DANCER|LIPSTICK|NAIL POLISH|FACE MASSAGE|HAIRCUT|BARBER POLE|SYRINGE|PILL|KISS MARK",
    "1f48c |LOVE LETTER|RING|GEM STONE|KISS|BOUQUET|COUPLE WITH HEART|WEDDING|BEATING HEART|BROKEN HEART",
    "1f495 |TWO HEARTS|SPARKLING HEART|GROWING HEART|HEART WITH ARROW|BLUE HEART|GREEN HEART|YELLOW HEART",
    "1f49c |PURPLE HEART|HEART WITH RIBBON|REVOLVING HEARTS|HEART DECORATION|DIAMOND SHAPE WITH A DOT INSIDE",
    "1f4a1 |ELECTRIC LIGHT BULB|ANGER SYMBOL|BOMB|SLEEPING SYMBOL|COLLISION SYMBOL|SPLASHING SWEAT SYMBOL",
    "1f4a7 |DROPLET|DASH SYMBOL|PILE OF POO|FLEXED BICEPS|DIZZY SYMBOL|SPEECH BALLOON|THOUGHT BALLOON",
    "1f4ae |WHITE FLOWER|HUNDRED POINTS SYMBOL|MONEY BAG|CURRENCY EXCHANGE|HEAVY DOLLAR SIGN|CREDIT CARD",
    "1f4b4 BANKNOTE WITH |YEN SIGN|DOLLAR SIGN|EURO SIGN|POUND SIGN",
    "1f4b8 |MONEY WITH WINGS|CHART WITH UPWARDS TREND AND YEN SIGN",
    "1f4ba |SEAT|PERSONAL COMPUTER|BRIEFCASE|MINIDISC|FLOPPY DISK|OPTICAL DISC|DVD",
    "1f4c1 |FILE FOLDER|OPEN FILE FOLDER|PAGE WITH CURL|PAGE FACING UP|CALENDAR|TEAR-OFF CALENDAR|CARD INDEX",
    "1f4c8 CHART WITH |UPWARDS TREND|DOWNWARDS TREND",
    "1f4ca |BAR CHART|CLIPBOARD|PUSHPIN|ROUND PUSHPIN|PAPERCLIP|STRAIGHT RULER",
    "1f4d0 |TRIANGULAR RULER|BOOKMARK TABS|LEDGER|NOTEBOOK|NOTEBOOK WITH DECORATIVE COVER|CLOSED BOOK",
    "1f4d6 |OPEN BOOK|GREEN BOOK|BLUE BOOK|ORANGE BOOK|BOOKS|NAME BADGE|SCROLL|MEMO|TELEPHONE RECEIVER",
    "1f4df |PAGER|FAX MACHINE|SATELLITE ANTENNA|PUBLIC ADDRESS LOUDSPEAKER|CHEERING MEGAPHONE",
    "1f4e4 |OUTBOX TRAY|INBOX TRAY|PACKAGE|E-MAIL SYMBOL|INCOMING ENVELOPE|ENVELOPE WITH DOWNWARDS ARROW ABOVE",
    "1f4ea CLOSED MAILBOX WITH |LOWERED FLAG|RAISED FLAG;1f4ec OPEN MAILBOX WITH |RAISED FLAG|LOWERED FLAG",
    "1f4ee |POSTBOX|POSTAL HORN",
    "1f4f0 |NEWSPAPER|MOBILE PHONE|MOBILE PHONE WITH RIGHTWARDS ARROW AT LEFT|VIBRATION MODE|MOBILE PHONE OFF",
    "1f4f5 |NO MOBILE PHONES|ANTENNA WITH BARS|CAMERA|CAMERA WITH FLASH|VIDEO CAMERA|TELEVISION",
    "1f4fb |RADIO|VIDEOCASSETTE|FILM PROJECTOR|PORTABLE STEREO|PRAYER BEADS|TWISTED RIGHTWARDS ARROWS",
    "1f501 CLOCKWISE RIGHTWARDS AND LEFTWARDS OPEN CIRCLE |ARROWS|ARROWS WITH CIRCLED ONE OVERLAY",
    "1f503 CLOCKWISE DOWNWARDS AND UPWARDS OPEN CIRCLE |ARROWS",
    "1f504 ANTICLOCKWISE DOWNWARDS AND UPWARDS OPEN CIRCLE |ARROWS",
    "1f505 |LOW BRIGHTNESS SYMBOL|HIGH BRIGHTNESS SYMBOL|SPEAKER WITH CANCELLATION STROKE|SPEAKER",
    "1f509 SPEAKER WITH |ONE SOUND WAVE|THREE SOUND WAVES",
    "1f50b |BATTERY|ELECTRIC PLUG|LEFT-POINTING MAGNIFYING GLASS|RIGHT-POINTING MAGNIFYING GLASS",
    "1f50f |LOCK WITH INK PEN|CLOSED LOCK WITH KEY|KEY|LOCK|OPEN LOCK|BELL|BELL WITH CANCELLATION STROKE",
    "1f516 |BOOKMARK|LINK SYMBOL|RADIO BUTTON|BACK WITH LEFTWARDS ARROW ABOVE|END WITH LEFTWARDS ARROW ABOVE",
    "1f51b |ON WITH EXCLAMATION MARK WITH LEFT RIGHT ARROW ABOVE|SOON WITH RIGHTWARDS ARROW ABOVE",
    "1f51d |TOP WITH UPWARDS ARROW ABOVE|NO ONE UNDER EIGHTEEN SYMBOL|KEYCAP TEN",
    "1f520 INPUT SYMBOL FOR |LATIN CAPITAL LETTERS|LATIN SMALL LETTERS|NUMBERS|SYMBOLS|LATIN LETTERS",
    "1f525 |FIRE|ELECTRIC TORCH|WRENCH|HAMMER",
    "1f529 |NUT AND BOLT|HOCHO|PISTOL|MICROSCOPE|TELESCOPE|CRYSTAL BALL|SIX POINTED STAR WITH MIDDLE DOT",
    "1f530 |JAPANESE SYMBOL FOR BEGINNER|TRIDENT EMBLEM|BLACK SQUARE BUTTON|WHITE SQUARE BUTTON",
    "1f534 LARGE |RED CIRCLE|BLUE CIRCLE|ORANGE DIAMOND|BLUE DIAMOND",
    "1f538 |SMALL ORANGE DIAMOND|SMALL BLUE DIAMOND|UP-POINTING RED TRIANGLE",
    "1f53b |DOWN-POINTING RED TRIANGLE|UP-POINTING SMALL RED TRIANGLE|DOWN-POINTING SMALL RED TRIANGLE",
    "1f53e |LOWER RIGHT SHADOWED WHITE CIRCLE|UPPER RIGHT SHADOWED WHITE CIRCLE|CIRCLED CROSS POMMEE",
    "1f541 CROSS |POMMEE WITH HALF-CIRCLE BELOW|POMMEE",
    "1f543 NOTCHED |LEFT SEMICIRCLE WITH THREE DOTS|RIGHT SEMICIRCLE WITH THREE DOTS",
    "1f545 |SYMBOL FOR MARKS CHAPTER|WHITE LATIN CROSS|HEAVY LATIN CROSS|CELTIC CROSS",
    "1f549 |OM SYMBOL|DOVE OF PEACE|KAABA|MOSQUE|SYNAGOGUE|MENORAH WITH NINE BRANCHES|BOWL OF HYGIEIA",
    "1f550 CLOCK FACE |ONE OCLOCK|TWO OCLOCK|THREE OCLOCK",
    "1f553 CLOCK FACE |FOUR OCLOCK|FIVE OCLOCK|SIX OCLOCK|SEVEN OCLOCK|EIGHT OCLOCK|NINE OCLOCK|TEN OCLOCK",
    "1f55a CLOCK FACE |ELEVEN OCLOCK|TWELVE OCLOCK|ONE-THIRTY|TWO-THIRTY|THREE-THIRTY|FOUR-THIRTY|FIVE-THIRTY",
    "1f561 CLOCK FACE |SIX-THIRTY|SEVEN-THIRTY|EIGHT-THIRTY|NINE-THIRTY|TEN-THIRTY|ELEVEN-THIRTY|TWELVE-THIRTY",
    "1f568 RIGHT |SPEAKER|SPEAKER WITH ONE SOUND WAVE|SPEAKER WITH THREE SOUND WAVES;1f56b |BULLHORN",
    "1f56c |BULLHORN WITH SOUND WAVES|RINGING BELL|BOOK|CANDLE|MANTELPIECE CLOCK|BLACK SKULL AND CROSSBONES",
    "1f572 |NO PIRACY|HOLE|MAN IN BUSINESS SUIT LEVITATING|SLEUTH OR SPY|DARK SUNGLASSES",
    "1f577 |SPIDER|SPIDER WEB|JOYSTICK|MAN DANCING|LEFT HAND TELEPHONE RECEIVER|TELEPHONE RECEIVER WITH PAGE",
    "1f57d |RIGHT HAND TELEPHONE RECEIVER|WHITE TOUCHTONE TELEPHONE|BLACK TOUCHTONE TELEPHONE",
    "1f580 |TELEPHONE ON TOP OF MODEM|CLAMSHELL MOBILE PHONE|BACK OF ENVELOPE|STAMPED ENVELOPE",
    "1f584 |ENVELOPE WITH LIGHTNING|FLYING ENVELOPE|PEN OVER STAMPED ENVELOPE|LINKED PAPERCLIPS|BLACK PUSHPIN",
    "1f589 LOWER LEFT |PENCIL|BALLPOINT PEN|FOUNTAIN PEN|PAINTBRUSH|CRAYON;1f58e LEFT WRITING |HAND",
    "1f58f |TURNED OK HAND SIGN|RAISED HAND WITH FINGERS SPLAYED|REVERSED RAISED HAND WITH FINGERS SPLAYED",
    "1f592 REVERSED |THUMBS UP SIGN|THUMBS DOWN SIGN|VICTORY HAND|HAND WITH MIDDLE FINGER EXTENDED",
    "1f596 |RAISED HAND WITH PART BETWEEN MIDDLE AND RING FINGERS|WHITE DOWN POINTING LEFT HAND INDEX",
    "1f598 SIDEWAYS WHITE |LEFT POINTING INDEX|RIGHT POINTING INDEX",
    "1f59a SIDEWAYS BLACK |LEFT POINTING INDEX|RIGHT POINTING INDEX",
    "1f59c BLACK |LEFT POINTING BACKHAND INDEX|RIGHT POINTING BACKHAND INDEX",
    "1f59e SIDEWAYS WHITE |UP POINTING INDEX|DOWN POINTING INDEX",
    "1f5a0 SIDEWAYS BLACK |UP POINTING INDEX|DOWN POINTING INDEX",
    "1f5a2 BLACK |UP POINTING BACKHAND INDEX|DOWN POINTING BACKHAND INDEX|HEART",
    "1f5a5 |DESKTOP COMPUTER|KEYBOARD AND MOUSE|THREE NETWORKED COMPUTERS|PRINTER",
    "1f5a9 |POCKET CALCULATOR|BLACK HARD SHELL FLOPPY DISK|WHITE HARD SHELL FLOPPY DISK|SOFT SHELL FLOPPY DISK",
    "1f5ad |TAPE CARTRIDGE|WIRED KEYBOARD|ONE BUTTON MOUSE|TWO BUTTON MOUSE|THREE BUTTON MOUSE",
    "1f5b2 |TRACKBALL|OLD PERSONAL COMPUTER|HARD DISK|SCREEN|PRINTER ICON|FAX ICON|OPTICAL DISC ICON",
    "1f5b9 DOCUMENT WITH |TEXT|TEXT AND PICTURE|PICTURE;1f5bc FRAME WITH |PICTURE|TILES|AN X",
    "1f5bf |BLACK FOLDER|FOLDER|OPEN FOLDER|CARD INDEX DIVIDERS|CARD FILE BOX|FILE CABINET",
    "1f5c5 EMPTY |NOTE|NOTE PAGE|NOTE PAD",
    "1f5c8 |NOTE|NOTE PAGE|NOTE PAD|EMPTY DOCUMENT|EMPTY PAGE|EMPTY PAGES|DOCUMENT|PAGE|PAGES|WASTEBASKET",
    "1f5d2 SPIRAL |NOTE PAD|CALENDAR PAD",
    "1f5d4 |DESKTOP WINDOW|MINIMIZE|MAXIMIZE|OVERLAP|CLOCKWISE RIGHT AND LEFT SEMICIRCLE ARROWS|CANCELLATION X",
    "1f5da |INCREASE FONT SIZE SYMBOL|DECREASE FONT SIZE SYMBOL|COMPRESSION|OLD KEY|ROLLED-UP NEWSPAPER",
    "1f5df |PAGE WITH CIRCLED TEXT|STOCK CHART|DAGGER KNIFE|LIPS|SPEAKING HEAD IN SILHOUETTE",
    "1f5e4 THREE RAYS |ABOVE|BELOW|LEFT|RIGHT",
    "1f5e8 |LEFT SPEECH BUBBLE|RIGHT SPEECH BUBBLE|TWO SPEECH BUBBLES|THREE SPEECH BUBBLES",
    "1f5ec |LEFT THOUGHT BUBBLE|RIGHT THOUGHT BUBBLE|LEFT ANGER BUBBLE|RIGHT ANGER BUBBLE|MOOD BUBBLE",
    "1f5f1 LIGHTNING |MOOD BUBBLE|MOOD",
    "1f5f3 BALLOT |BOX WITH BALLOT|SCRIPT X|BOX WITH SCRIPT X|BOLD SCRIPT X|BOX WITH BOLD SCRIPT X",
    "1f5f8 |LIGHT CHECK MARK|BALLOT BOX WITH BOLD CHECK|WORLD MAP|MOUNT FUJI|TOKYO TOWER|STATUE OF LIBERTY",
    "1f5fe |SILHOUETTE OF JAPAN|MOYAI|GRINNING FACE|GRINNING FACE WITH SMILING EYES|FACE WITH TEARS OF JOY",
    "1f603 SMILING FACE WITH OPEN |MOUTH|MOUTH AND SMILING EYES|MOUTH AND COLD SWEAT",
    "1f606 SMILING FACE WITH |OPEN MOUTH AND TIGHTLY-CLOSED EYES|HALO|HORNS",
    "1f609 |WINKING FACE|SMILING FACE WITH SMILING EYES|FACE SAVOURING DELICIOUS FOOD|RELIEVED FACE",
    "1f60d SMILING FACE WITH |HEART-SHAPED EYES|SUNGLASSES",
    "1f60f |SMIRKING FACE|NEUTRAL FACE|EXPRESSIONLESS FACE|UNAMUSED FACE",
    "1f613 |FACE WITH COLD SWEAT|PENSIVE FACE|CONFUSED FACE|CONFOUNDED FACE|KISSING FACE|FACE THROWING A KISS",
    "1f619 KISSING FACE WITH |SMILING EYES|CLOSED EYES",
    "1f61b FACE WITH STUCK-OUT |TONGUE|TONGUE AND WINKING EYE|TONGUE AND TIGHTLY-CLOSED EYES",
    "1f61e |DISAPPOINTED FACE|WORRIED FACE|ANGRY FACE|POUTING FACE|CRYING FACE|PERSEVERING FACE",
    "1f624 |FACE WITH LOOK OF TRIUMPH|DISAPPOINTED BUT RELIEVED FACE|FROWNING FACE WITH OPEN MOUTH",
    "1f627 |ANGUISHED FACE|FEARFUL FACE|WEARY FACE|SLEEPY FACE|TIRED FACE|GRIMACING FACE",
    "1f62d |LOUDLY CRYING FACE|FACE WITH OPEN MOUTH|HUSHED FACE|FACE WITH OPEN MOUTH AND COLD SWEAT",
    "1f631 |FACE SCREAMING IN FEAR|ASTONISHED FACE|FLUSHED FACE|SLEEPING FACE|DIZZY FACE|FACE WITHOUT MOUTH",
    "1f637 |FACE WITH MEDICAL MASK|GRINNING CAT FACE WITH SMILING EYES|CAT FACE WITH TEARS OF JOY",
    "1f63a SMILING CAT FACE WITH |OPEN MOUTH|HEART-SHAPED EYES",
    "1f63c |CAT FACE WITH WRY SMILE|KISSING CAT FACE WITH CLOSED EYES|POUTING CAT FACE",
    "1f63f |CRYING CAT FACE|WEARY CAT FACE|SLIGHTLY FROWNING FACE|SLIGHTLY SMILING FACE|UPSIDE-DOWN FACE",
    "1f644 FACE WITH |ROLLING EYES|NO GOOD GESTURE|OK GESTURE;1f647 PERSON BOWING |DEEPLY",
    "1f648 |SEE-NO-EVIL MONKEY|HEAR-NO-EVIL MONKEY|SPEAK-NO-EVIL MONKEY|HAPPY PERSON RAISING ONE HAND",
    "1f64c PERSON |RAISING BOTH HANDS IN CELEBRATION|FROWNING|WITH POUTING FACE|WITH FOLDED HANDS",
    "1f650 NORTH WEST POINTING |LEAF",
    "1f651 |SOUTH WEST POINTING LEAF|NORTH EAST POINTING LEAF|SOUTH EAST POINTING LEAF",
    "1f654 TURNED |NORTH WEST POINTING LEAF|SOUTH WEST POINTING LEAF|NORTH EAST POINTING LEAF",
    "1f657 |TURNED SOUTH EAST POINTING LEAF|NORTH WEST POINTING VINE LEAF",
    "1f659 |SOUTH WEST POINTING VINE LEAF|NORTH EAST POINTING VINE LEAF|SOUTH EAST POINTING VINE LEAF",
    "1f65c HEAVY |NORTH WEST POINTING VINE LEAF|SOUTH WEST POINTING VINE LEAF|NORTH EAST POINTING VINE LEAF",
    "1f65f |HEAVY SOUTH EAST POINTING VINE LEAF|NORTH WEST POINTING BUD|SOUTH WEST POINTING BUD",
    "1f662 |NORTH EAST POINTING BUD|SOUTH EAST POINTING BUD|HEAVY NORTH WEST POINTING BUD",
    "1f665 HEAVY |SOUTH WEST POINTING BUD|NORTH EAST POINTING BUD|SOUTH EAST POINTING BUD",
    "1f668 HOLLOW QUILT SQUARE |ORNAMENT|ORNAMENT IN BLACK SQUARE",
    "1f66a SOLID QUILT SQUARE |ORNAMENT|ORNAMENT IN BLACK SQUARE",
    "1f66c |LEFTWARDS ROCKET|UPWARDS ROCKET|RIGHTWARDS ROCKET|DOWNWARDS ROCKET",
    "1f670 |SCRIPT LIGATURE ET ORNAMENT|HEAVY SCRIPT LIGATURE ET ORNAMENT|LIGATURE OPEN ET ORNAMENT",
    "1f673 |HEAVY LIGATURE OPEN ET ORNAMENT|HEAVY AMPERSAND ORNAMENT|SWASH AMPERSAND ORNAMENT",
    "1f676 SANS-SERIF HEAVY DOUBLE |TURNED COMMA QUOTATION MARK ORNAMENT|COMMA QUOTATION MARK ORNAMENT",
    "1f678 SANS-SERIF HEAVY LOW DOUBLE COMMA QUOTATION MARK |ORNAMENT",
    "1f679 |HEAVY INTERROBANG ORNAMENT|SANS-SERIF INTERROBANG ORNAMENT|HEAVY SANS-SERIF INTERROBANG ORNAMENT",
    "1f67c VERY HEAVY |SOLIDUS|REVERSE SOLIDUS",
    "1f67e |CHECKER BOARD|REVERSE CHECKER BOARD|ROCKET|HELICOPTER|STEAM LOCOMOTIVE|RAILWAY CAR",
    "1f684 HIGH-SPEED |TRAIN|TRAIN WITH BULLET NOSE;1f686 |TRAIN|METRO|LIGHT RAIL|STATION",
    "1f68a |TRAM|TRAM CAR|BUS|ONCOMING BUS|TROLLEYBUS|BUS STOP|MINIBUS|AMBULANCE|FIRE ENGINE|POLICE CAR",
    "1f694 |ONCOMING POLICE CAR|TAXI|ONCOMING TAXI|AUTOMOBILE|ONCOMING AUTOMOBILE|RECREATIONAL VEHICLE",
    "1f69a |DELIVERY TRUCK|ARTICULATED LORRY|TRACTOR|MONORAIL|MOUNTAIN RAILWAY|SUSPENSION RAILWAY",
    "1f6a0 |MOUNTAIN CABLEWAY|AERIAL TRAMWAY|SHIP|ROWBOAT|SPEEDBOAT|HORIZONTAL TRAFFIC LIGHT",
    "1f6a6 |VERTICAL TRAFFIC LIGHT|CONSTRUCTION SIGN|POLICE CARS REVOLVING LIGHT|TRIANGULAR FLAG ON POST",
    "1f6aa |DOOR|NO ENTRY SIGN|SMOKING SYMBOL|NO SMOKING SYMBOL|PUT LITTER IN ITS PLACE SYMBOL",
    "1f6af |DO NOT LITTER SYMBOL|POTABLE WATER SYMBOL|NON-POTABLE WATER SYMBOL|BICYCLE|NO BICYCLES|BICYCLIST",
    "1f6b5 |MOUNTAIN BICYCLIST|PEDESTRIAN|NO PEDESTRIANS|CHILDREN CROSSING|MENS SYMBOL|WOMENS SYMBOL|RESTROOM",
    "1f6bc |BABY SYMBOL|TOILET|WATER CLOSET|SHOWER|BATH|BATHTUB|PASSPORT CONTROL|CUSTOMS|BAGGAGE CLAIM",
    "1f6c5 |LEFT LUGGAGE|TRIANGLE WITH ROUNDED CORNERS|PROHIBITED SIGN|CIRCLED INFORMATION SOURCE",
    "1f6c9 |BOYS SYMBOL|GIRLS SYMBOL|COUCH AND LAMP|SLEEPING ACCOMMODATION|SHOPPING BAGS|BELLHOP BELL",
    "1f6cf |BED|PLACE OF WORSHIP|OCTAGONAL SIGN|SHOPPING TROLLEY|STUPA|PAGODA|HINDU TEMPLE|HUT|ELEVATOR",
    "1f6dd PLAYGROUND |SLIDE",
    "1f6de |WHEEL|RING BUOY|HAMMER AND WRENCH|SHIELD|OIL DRUM|MOTORWAY|RAILWAY TRACK|MOTOR BOAT",
    "1f6e6 UP-POINTING |MILITARY AIRPLANE|AIRPLANE|SMALL AIRPLANE;1f6e9 |SMALL AIRPLANE|NORTHEAST-POINTING AIRPLANE",
    "1f6eb AIRPLANE |DEPARTURE|ARRIVING;1f6f0 |SATELLITE|ONCOMING FIRE ENGINE|DIESEL LOCOMOTIVE|PASSENGER SHIP",
    "1f6f4 |SCOOTER|MOTOR SCOOTER|CANOE|SLED|FLYING SAUCER|SKATEBOARD|AUTO RICKSHAW|PICKUP TRUCK|ROLLER SKATE",
    "1f700 ALCHEMICAL SYMBOL FOR |QUINTESSENCE|AIR|FIRE|EARTH|WATER|AQUAFORTIS",
    "1f706 ALCHEMICAL SYMBOL FOR AQUA |REGIA|REGIA-2|VITAE|VITAE-2",
    "1f70a ALCHEMICAL SYMBOL FOR |VINEGAR|VINEGAR-2|VINEGAR-3|SULFUR|PHILOSOPHERS SULFUR|BLACK SULFUR",
    "1f710 ALCHEMICAL SYMBOL FOR MERCURY |SUBLIMATE|SUBLIMATE-2|SUBLIMATE-3",
    "1f713 ALCHEMICAL SYMBOL FOR |CINNABAR|SALT|NITRE|VITRIOL|VITRIOL-2|ROCK SALT|ROCK SALT-2",
    "1f71a ALCHEMICAL SYMBOL FOR |GOLD|SILVER|IRON ORE|IRON ORE-2|CROCUS OF IRON|REGULUS OF IRON|COPPER ORE",
    "1f721 ALCHEMICAL SYMBOL FOR |IRON-COPPER ORE|SUBLIMATE OF COPPER|CROCUS OF COPPER|CROCUS OF COPPER-2",
    "1f725 ALCHEMICAL SYMBOL FOR |COPPER ANTIMONIATE|SALT OF COPPER ANTIMONIATE|SUBLIMATE OF SALT OF COPPER",
    "1f728 ALCHEMICAL SYMBOL FOR |VERDIGRIS|TIN ORE|LEAD ORE|ANTIMONY ORE|SUBLIMATE OF ANTIMONY",
    "1f72d ALCHEMICAL SYMBOL FOR |SALT OF ANTIMONY|SUBLIMATE OF SALT OF ANTIMONY|VINEGAR OF ANTIMONY",
    "1f730 ALCHEMICAL SYMBOL FOR REGULUS OF |ANTIMONY|ANTIMONY-2",
    "1f732 ALCHEMICAL SYMBOL FOR |REGULUS|REGULUS-2|REGULUS-3|REGULUS-4|ALKALI|ALKALI-2|MARCASITE|SAL-AMMONIAC",
    "1f73a ALCHEMICAL SYMBOL FOR |ARSENIC|REALGAR|REALGAR-2|AURIPIGMENT|BISMUTH ORE|TARTAR|TARTAR-2",
    "1f741 ALCHEMICAL SYMBOL FOR |QUICK LIME|BORAX|BORAX-2|BORAX-3|ALUM|OIL|SPIRIT|TINCTURE|GUM|WAX|POWDER",
    "1f74c ALCHEMICAL SYMBOL FOR |CALX|TUTTY|CAPUT MORTUUM|SCEPTER OF JOVE|CADUCEUS|TRIDENT|STARRED TRIDENT",
    "1f753 ALCHEMICAL SYMBOL FOR |LODESTONE|SOAP|URINE|HORSE DUNG|ASHES|POT ASHES|BRICK|POWDERED BRICK|AMALGAM",
    "1f75c ALCHEMICAL SYMBOL FOR STRATUM SUPER |STRATUM|STRATUM-2",
    "1f75e ALCHEMICAL SYMBOL FOR |SUBLIMATION|PRECIPITATE|DISTILL|DISSOLVE|DISSOLVE-2|PURIFY|PUTREFACTION",
    "1f765 ALCHEMICAL SYMBOL FOR |CRUCIBLE|CRUCIBLE-2|CRUCIBLE-3|CRUCIBLE-4|CRUCIBLE-5|ALEMBIC|BATH OF MARY",
    "1f76c ALCHEMICAL SYMBOL FOR |BATH OF VAPOURS|RETORT|HOUR|NIGHT|DAY-NIGHT|MONTH|HALF DRAM|HALF OUNCE",
    "1f780 BLACK |LEFT-POINTING ISOSCELES RIGHT TRIANGLE|UP-POINTING ISOSCELES RIGHT TRIANGLE",
    "1f782 BLACK |RIGHT-POINTING ISOSCELES RIGHT TRIANGLE|DOWN-POINTING ISOSCELES RIGHT TRIANGLE",
    "1f784 |BLACK SLIGHTLY SMALL CIRCLE|MEDIUM BOLD WHITE CIRCLE|BOLD WHITE CIRCLE|HEAVY WHITE CIRCLE",
    "1f788 |VERY HEAVY WHITE CIRCLE|EXTREMELY HEAVY WHITE CIRCLE|WHITE CIRCLE CONTAINING BLACK SMALL CIRCLE",
    "1f78b |ROUND TARGET|BLACK TINY SQUARE|BLACK SLIGHTLY SMALL SQUARE|LIGHT WHITE SQUARE|MEDIUM WHITE SQUARE",
    "1f790 |BOLD WHITE SQUARE|HEAVY WHITE SQUARE|VERY HEAVY WHITE SQUARE|EXTREMELY HEAVY WHITE SQUARE",
    "1f794 WHITE SQUARE CONTAINING BLACK |VERY SMALL SQUARE|MEDIUM SQUARE;1f796 SQUARE |TARGET",
    "1f797 BLACK |TINY DIAMOND|VERY SMALL DIAMOND|MEDIUM SMALL DIAMOND",
    "1f79a WHITE DIAMOND CONTAINING BLACK |VERY SMALL DIAMOND|MEDIUM DIAMOND;1f79c DIAMOND |TARGET",
    "1f79d BLACK |TINY LOZENGE|VERY SMALL LOZENGE|MEDIUM SMALL LOZENGE",
    "1f7a0 |WHITE LOZENGE CONTAINING BLACK SMALL LOZENGE|THIN GREEK CROSS",
    "1f7a2 |LIGHT GREEK CROSS|MEDIUM GREEK CROSS|BOLD GREEK CROSS|VERY BOLD GREEK CROSS|VERY HEAVY GREEK CROSS",
    "1f7a7 |EXTREMELY HEAVY GREEK CROSS|THIN SALTIRE|LIGHT SALTIRE|MEDIUM SALTIRE|BOLD SALTIRE|HEAVY SALTIRE",
    "1f7ad |VERY HEAVY SALTIRE|EXTREMELY HEAVY SALTIRE|LIGHT FIVE SPOKED ASTERISK|MEDIUM FIVE SPOKED ASTERISK",
    "1f7b1 |BOLD FIVE SPOKED ASTERISK|HEAVY FIVE SPOKED ASTERISK|VERY HEAVY FIVE SPOKED ASTERISK",
    "1f7b4 |EXTREMELY HEAVY FIVE SPOKED ASTERISK|LIGHT SIX SPOKED ASTERISK|MEDIUM SIX SPOKED ASTERISK",
    "1f7b7 |BOLD SIX SPOKED ASTERISK|HEAVY SIX SPOKED ASTERISK|VERY HEAVY SIX SPOKED ASTERISK",
    "1f7ba |EXTREMELY HEAVY SIX SPOKED ASTERISK|LIGHT EIGHT SPOKED ASTERISK|MEDIUM EIGHT SPOKED ASTERISK",
    "1f7bd |BOLD EIGHT SPOKED ASTERISK|HEAVY EIGHT SPOKED ASTERISK|VERY HEAVY EIGHT SPOKED ASTERISK",
    "1f7c0 |LIGHT THREE POINTED BLACK STAR|MEDIUM THREE POINTED BLACK STAR|THREE POINTED BLACK STAR",
    "1f7c3 |MEDIUM THREE POINTED PINWHEEL STAR|LIGHT FOUR POINTED BLACK STAR|MEDIUM FOUR POINTED BLACK STAR",
    "1f7c6 |FOUR POINTED BLACK STAR|MEDIUM FOUR POINTED PINWHEEL STAR|REVERSE LIGHT FOUR POINTED PINWHEEL STAR",
    "1f7c9 |LIGHT FIVE POINTED BLACK STAR|HEAVY FIVE POINTED BLACK STAR",
    "1f7cb |MEDIUM SIX POINTED BLACK STAR|HEAVY SIX POINTED BLACK STAR|SIX POINTED PINWHEEL STAR",
    "1f7ce |MEDIUM EIGHT POINTED BLACK STAR|HEAVY EIGHT POINTED BLACK STAR|VERY HEAVY EIGHT POINTED BLACK STAR",
    "1f7d1 |HEAVY EIGHT POINTED PINWHEEL STAR|LIGHT TWELVE POINTED BLACK STAR",
    "1f7d3 HEAVY TWELVE POINTED |BLACK STAR|PINWHEEL STAR",
    "1f7d5 |CIRCLED TRIANGLE|NEGATIVE CIRCLED TRIANGLE|CIRCLED SQUARE|NEGATIVE CIRCLED SQUARE",
    "1f7e0 LARGE |ORANGE CIRCLE|YELLOW CIRCLE|GREEN CIRCLE|PURPLE CIRCLE|BROWN CIRCLE",
    "1f7e5 LARGE |RED SQUARE|BLUE SQUARE|ORANGE SQUARE|YELLOW SQUARE|GREEN SQUARE|PURPLE SQUARE|BROWN SQUARE",
    "1f7f0 HEAVY EQUALS |SIGN",
    "1f800 |LEFTWARDS ARROW WITH SMALL TRIANGLE ARROWHEAD|UPWARDS ARROW WITH SMALL TRIANGLE ARROWHEAD",
    "1f802 |RIGHTWARDS ARROW WITH SMALL TRIANGLE ARROWHEAD|DOWNWARDS ARROW WITH SMALL TRIANGLE ARROWHEAD",
    "1f804 |LEFTWARDS ARROW WITH MEDIUM TRIANGLE ARROWHEAD|UPWARDS ARROW WITH MEDIUM TRIANGLE ARROWHEAD",
    "1f806 |RIGHTWARDS ARROW WITH MEDIUM TRIANGLE ARROWHEAD|DOWNWARDS ARROW WITH MEDIUM TRIANGLE ARROWHEAD",
    "1f808 |LEFTWARDS ARROW WITH LARGE TRIANGLE ARROWHEAD|UPWARDS ARROW WITH LARGE TRIANGLE ARROWHEAD",
    "1f80a |RIGHTWARDS ARROW WITH LARGE TRIANGLE ARROWHEAD|DOWNWARDS ARROW WITH LARGE TRIANGLE ARROWHEAD",
    "1f810 LEFTWARDS ARROW WITH SMALL EQUILATERAL |ARROWHEAD",
    "1f811 |UPWARDS ARROW WITH SMALL EQUILATERAL ARROWHEAD|RIGHTWARDS ARROW WITH SMALL EQUILATERAL ARROWHEAD",
    "1f813 |DOWNWARDS ARROW WITH SMALL EQUILATERAL ARROWHEAD|LEFTWARDS ARROW WITH EQUILATERAL ARROWHEAD",
    "1f815 |UPWARDS ARROW WITH EQUILATERAL ARROWHEAD|RIGHTWARDS ARROW WITH EQUILATERAL ARROWHEAD",
    "1f817 |DOWNWARDS ARROW WITH EQUILATERAL ARROWHEAD|HEAVY LEFTWARDS ARROW WITH EQUILATERAL ARROWHEAD",
    "1f819 HEAVY |UPWARDS ARROW WITH EQUILATERAL ARROWHEAD|RIGHTWARDS ARROW WITH EQUILATERAL ARROWHEAD",
    "1f81b HEAVY |DOWNWARDS ARROW WITH EQUILATERAL ARROWHEAD|LEFTWARDS ARROW WITH LARGE EQUILATERAL ARROWHEAD",
    "1f81d HEAVY UPWARDS ARROW WITH LARGE EQUILATERAL |ARROWHEAD",
    "1f81e HEAVY RIGHTWARDS ARROW WITH LARGE EQUILATERAL |ARROWHEAD",
    "1f81f HEAVY DOWNWARDS ARROW WITH LARGE EQUILATERAL |ARROWHEAD",
    "1f820 LEFTWARDS TRIANGLE-HEADED ARROW WITH NARROW |SHAFT",
    "1f821 |UPWARDS TRIANGLE-HEADED ARROW WITH NARROW SHAFT|RIGHTWARDS TRIANGLE-HEADED ARROW WITH NARROW SHAFT",
    "1f823 DOWNWARDS TRIANGLE-HEADED ARROW WITH NARROW |SHAFT",
    "1f824 LEFTWARDS TRIANGLE-HEADED ARROW WITH MEDIUM |SHAFT",
    "1f825 |UPWARDS TRIANGLE-HEADED ARROW WITH MEDIUM SHAFT|RIGHTWARDS TRIANGLE-HEADED ARROW WITH MEDIUM SHAFT",
    "1f827 DOWNWARDS TRIANGLE-HEADED ARROW WITH MEDIUM |SHAFT",
    "1f828 |LEFTWARDS TRIANGLE-HEADED ARROW WITH BOLD SHAFT|UPWARDS TRIANGLE-HEADED ARROW WITH BOLD SHAFT",
    "1f82a |RIGHTWARDS TRIANGLE-HEADED ARROW WITH BOLD SHAFT|DOWNWARDS TRIANGLE-HEADED ARROW WITH BOLD SHAFT",
    "1f82c |LEFTWARDS TRIANGLE-HEADED ARROW WITH HEAVY SHAFT|UPWARDS TRIANGLE-HEADED ARROW WITH HEAVY SHAFT",
    "1f82e |RIGHTWARDS TRIANGLE-HEADED ARROW WITH HEAVY SHAFT|DOWNWARDS TRIANGLE-HEADED ARROW WITH HEAVY SHAFT",
    "1f830 LEFTWARDS TRIANGLE-HEADED ARROW WITH VERY HEAVY |SHAFT",
    "1f831 UPWARDS TRIANGLE-HEADED ARROW WITH VERY HEAVY |SHAFT",
    "1f832 RIGHTWARDS TRIANGLE-HEADED ARROW WITH VERY HEAVY |SHAFT",
    "1f833 DOWNWARDS TRIANGLE-HEADED ARROW WITH VERY HEAVY |SHAFT",
    "1f834 |LEFTWARDS FINGER-POST ARROW|UPWARDS FINGER-POST ARROW|RIGHTWARDS FINGER-POST ARROW",
    "1f837 |DOWNWARDS FINGER-POST ARROW|LEFTWARDS SQUARED ARROW|UPWARDS SQUARED ARROW|RIGHTWARDS SQUARED ARROW",
    "1f83b |DOWNWARDS SQUARED ARROW|LEFTWARDS COMPRESSED ARROW|UPWARDS COMPRESSED ARROW",
    "1f83e |RIGHTWARDS COMPRESSED ARROW|DOWNWARDS COMPRESSED ARROW|LEFTWARDS HEAVY COMPRESSED ARROW",
    "1f841 |UPWARDS HEAVY COMPRESSED ARROW|RIGHTWARDS HEAVY COMPRESSED ARROW|DOWNWARDS HEAVY COMPRESSED ARROW",
    "1f844 |LEFTWARDS HEAVY ARROW|UPWARDS HEAVY ARROW|RIGHTWARDS HEAVY ARROW|DOWNWARDS HEAVY ARROW",
    "1f850 |LEFTWARDS SANS-SERIF ARROW|UPWARDS SANS-SERIF ARROW|RIGHTWARDS SANS-SERIF ARROW",
    "1f853 |DOWNWARDS SANS-SERIF ARROW|NORTH WEST SANS-SERIF ARROW|NORTH EAST SANS-SERIF ARROW",
    "1f856 SOUTH |EAST SANS-SERIF ARROW|WEST SANS-SERIF ARROW",
    "1f858 |LEFT RIGHT SANS-SERIF ARROW|UP DOWN SANS-SERIF ARROW",
    "1f860 WIDE-HEADED |LEFTWARDS LIGHT BARB ARROW|UPWARDS LIGHT BARB ARROW|RIGHTWARDS LIGHT BARB ARROW",
    "1f863 WIDE-HEADED |DOWNWARDS LIGHT BARB ARROW|NORTH WEST LIGHT BARB ARROW|NORTH EAST LIGHT BARB ARROW",
    "1f866 WIDE-HEADED SOUTH |EAST LIGHT BARB ARROW|WEST LIGHT BARB ARROW",
    "1f868 WIDE-HEADED |LEFTWARDS BARB ARROW|UPWARDS BARB ARROW|RIGHTWARDS BARB ARROW|DOWNWARDS BARB ARROW",
    "1f86c WIDE-HEADED NORTH |WEST BARB ARROW|EAST BARB ARROW",
    "1f86e WIDE-HEADED |SOUTH EAST BARB ARROW|SOUTH WEST BARB ARROW|LEFTWARDS MEDIUM BARB ARROW",
    "1f871 WIDE-HEADED |UPWARDS MEDIUM BARB ARROW|RIGHTWARDS MEDIUM BARB ARROW|DOWNWARDS MEDIUM BARB ARROW",
    "1f874 WIDE-HEADED |NORTH WEST MEDIUM BARB ARROW|NORTH EAST MEDIUM BARB ARROW|SOUTH EAST MEDIUM BARB ARROW",
    "1f877 WIDE-HEADED |SOUTH WEST MEDIUM BARB ARROW|LEFTWARDS HEAVY BARB ARROW|UPWARDS HEAVY BARB ARROW",
    "1f87a WIDE-HEADED |RIGHTWARDS HEAVY BARB ARROW|DOWNWARDS HEAVY BARB ARROW|NORTH WEST HEAVY BARB ARROW",
    "1f87d WIDE-HEADED |NORTH EAST HEAVY BARB ARROW|SOUTH EAST HEAVY BARB ARROW|SOUTH WEST HEAVY BARB ARROW",
    "1f880 WIDE-HEADED |LEFTWARDS VERY HEAVY BARB ARROW|UPWARDS VERY HEAVY BARB ARROW",
    "1f882 WIDE-HEADED |RIGHTWARDS VERY HEAVY BARB ARROW|DOWNWARDS VERY HEAVY BARB ARROW",
    "1f884 WIDE-HEADED NORTH |WEST VERY HEAVY BARB ARROW|EAST VERY HEAVY BARB ARROW",
    "1f886 WIDE-HEADED SOUTH |EAST VERY HEAVY BARB ARROW|WEST VERY HEAVY BARB ARROW",
    "1f890 LEFTWARDS TRIANGLE |ARROWHEAD",
    "1f891 |UPWARDS TRIANGLE ARROWHEAD|RIGHTWARDS TRIANGLE ARROWHEAD|DOWNWARDS TRIANGLE ARROWHEAD",
    "1f894 |LEFTWARDS WHITE ARROW WITHIN TRIANGLE ARROWHEAD|UPWARDS WHITE ARROW WITHIN TRIANGLE ARROWHEAD",
    "1f896 |RIGHTWARDS WHITE ARROW WITHIN TRIANGLE ARROWHEAD|DOWNWARDS WHITE ARROW WITHIN TRIANGLE ARROWHEAD",
    "1f898 |LEFTWARDS ARROW WITH NOTCHED TAIL|UPWARDS ARROW WITH NOTCHED TAIL",
    "1f89a |RIGHTWARDS ARROW WITH NOTCHED TAIL|DOWNWARDS ARROW WITH NOTCHED TAIL",
    "1f89c HEAVY ARROW SHAFT WIDTH |ONE|TWO THIRDS|ONE HALF|ONE THIRD",
    "1f8a0 |LEFTWARDS BOTTOM-SHADED WHITE ARROW|RIGHTWARDS BOTTOM SHADED WHITE ARROW",
    "1f8a2 |LEFTWARDS TOP SHADED WHITE ARROW|RIGHTWARDS TOP SHADED WHITE ARROW",
    "1f8a4 |LEFTWARDS LEFT-SHADED WHITE ARROW|RIGHTWARDS RIGHT-SHADED WHITE ARROW",
    "1f8a6 |LEFTWARDS RIGHT-SHADED WHITE ARROW|RIGHTWARDS LEFT-SHADED WHITE ARROW",
    "1f8a8 |LEFTWARDS BACK-TILTED SHADOWED WHITE ARROW|RIGHTWARDS BACK-TILTED SHADOWED WHITE ARROW",
    "1f8aa |LEFTWARDS FRONT-TILTED SHADOWED WHITE ARROW|RIGHTWARDS FRONT-TILTED SHADOWED WHITE ARROW",
    "1f8ac WHITE ARROW SHAFT WIDTH |ONE|TWO THIRDS",
    "1f8b0 ARROW POINTING |UPWARDS THEN NORTH WEST|RIGHTWARDS THEN CURVING SOUTH WEST",
    "1f900 CIRCLED CROSS |FORMEE WITH FOUR DOTS|FORMEE WITH TWO DOTS|FORMEE",
    "1f903 LEFT HALF CIRCLE WITH |FOUR DOTS|THREE DOTS|TWO DOTS|DOT;1f907 LEFT HALF |CIRCLE",
    "1f908 DOWNWARD FACING |HOOK|NOTCHED HOOK|HOOK WITH DOT|NOTCHED HOOK WITH DOT",
    "1f90c |PINCHED FINGERS|WHITE HEART|BROWN HEART",
    "1f90f |PINCHING HAND|ZIPPER-MOUTH FACE|MONEY-MOUTH FACE|FACE WITH THERMOMETER|NERD FACE|THINKING FACE",
    "1f915 |FACE WITH HEAD-BANDAGE|ROBOT FACE|HUGGING FACE|SIGN OF THE HORNS|CALL ME HAND|RAISED BACK OF HAND",
    "1f91b |LEFT-FACING FIST|RIGHT-FACING FIST|HANDSHAKE|HAND WITH INDEX AND MIDDLE FINGERS CROSSED",
    "1f91f |I LOVE YOU HAND SIGN|FACE WITH COWBOY HAT|CLOWN FACE|NAUSEATED FACE|ROLLING ON THE FLOOR LAUGHING",
    "1f924 |DROOLING FACE|LYING FACE|FACE PALM|SNEEZING FACE|FACE WITH ONE EYEBROW RAISED",
    "1f929 GRINNING FACE WITH |STAR EYES|ONE LARGE AND ONE SMALL EYE;1f92b FACE WITH FINGER COVERING CLOSED |LIPS",
    "1f92c |SERIOUS FACE WITH SYMBOLS COVERING MOUTH|SMILING FACE WITH SMILING EYES AND HAND COVERING MOUTH",
    "1f92e |FACE WITH OPEN MOUTH VOMITING|SHOCKED FACE WITH EXPLODING HEAD",
    "1f930 |PREGNANT WOMAN|BREAST-FEEDING|PALMS UP TOGETHER|SELFIE|PRINCE|MAN IN TUXEDO|MOTHER CHRISTMAS",
    "1f937 |SHRUG|PERSON DOING CARTWHEEL|JUGGLING|FENCER|MODERN PENTATHLON|WRESTLERS|WATER POLO|HANDBALL",
    "1f93f |DIVING MASK|WILTED FLOWER|DRUM WITH DRUMSTICKS|CLINKING GLASSES|TUMBLER GLASS|SPOON|GOAL NET",
    "1f946 |RIFLE|FIRST PLACE MEDAL|SECOND PLACE MEDAL|THIRD PLACE MEDAL|BOXING GLOVE|MARTIAL ARTS UNIFORM",
    "1f94c |CURLING STONE|LACROSSE STICK AND BALL|SOFTBALL|FLYING DISC|CROISSANT|AVOCADO|CUCUMBER|BACON|POTATO",
    "1f955 |CARROT|BAGUETTE BREAD|GREEN SALAD|SHALLOW PAN OF FOOD|STUFFED FLATBREAD|EGG|GLASS OF MILK|PEANUTS",
    "1f95d |KIWIFRUIT|PANCAKES|DUMPLING|FORTUNE COOKIE|TAKEOUT BOX|CHOPSTICKS|BOWL WITH SPOON|CUP WITH STRAW",
    "1f965 |COCONUT|BROCCOLI|PIE|PRETZEL|CUT OF MEAT|SANDWICH|CANNED FOOD|LEAFY GREEN|MANGO|MOON CAKE",
    "1f96f |BAGEL|SMILING FACE WITH SMILING EYES AND THREE HEARTS|YAWNING FACE|SMILING FACE WITH TEAR",
    "1f973 FACE WITH |PARTY HORN AND PARTY HAT|UNEVEN EYES AND WAVY MOUTH;1f975 |OVERHEATED FACE|FREEZING FACE|NINJA",
    "1f978 |DISGUISED FACE|FACE HOLDING BACK TEARS|FACE WITH PLEADING EYES|SARI|LAB COAT|GOGGLES|HIKING BOOT",
    "1f97f |FLAT SHOE|CRAB|LION FACE|SCORPION|TURKEY|UNICORN FACE|EAGLE|DUCK|BAT|SHARK|OWL|FOX FACE|BUTTERFLY",
    "1f98c |DEER|GORILLA|LIZARD|RHINOCEROS|SHRIMP|SQUID|GIRAFFE FACE|ZEBRA FACE|HEDGEHOG|SAUROPOD|T-REX",
    "1f997 |CRICKET|KANGAROO|LLAMA|PEACOCK|HIPPOPOTAMUS|PARROT|RACCOON|LOBSTER|MOSQUITO|MICROBE|BADGER|SWAN",
    "1f9a3 |MAMMOTH|DODO|SLOTH|OTTER|ORANGUTAN|SKUNK|FLAMINGO|OYSTER|BEAVER|BISON|SEAL|GUIDE DOG|PROBING CANE",
    "1f9b0 EMOJI COMPONENT |RED HAIR|CURLY HAIR|BALD|WHITE HAIR",
    "1f9b4 |BONE|LEG|FOOT|TOOTH|SUPERHERO|SUPERVILLAIN|SAFETY VEST|EAR WITH HEARING AID|MOTORIZED WHEELCHAIR",
    "1f9bd |MANUAL WHEELCHAIR|MECHANICAL ARM|MECHANICAL LEG|CHEESE WEDGE|CUPCAKE|SALT SHAKER|BEVERAGE BOX",
    "1f9c4 |GARLIC|ONION|FALAFEL|WAFFLE|BUTTER|MATE DRINK|ICE CUBE|BUBBLE TEA|TROLL|STANDING PERSON",
    "1f9ce |KNEELING PERSON|DEAF PERSON|FACE WITH MONOCLE|ADULT|CHILD|OLDER ADULT|BEARDED PERSON",
    "1f9d5 PERSON |WITH HEADSCARF|IN STEAMY ROOM|CLIMBING|IN LOTUS POSITION;1f9d9 |MAGE",
    "1f9da |FAIRY|VAMPIRE|MERPERSON|ELF|GENIE|ZOMBIE|BRAIN|ORANGE HEART|BILLED CAP|SCARF|GLOVES|COAT|SOCKS",
    "1f9e7 |RED GIFT ENVELOPE|FIRECRACKER|JIGSAW PUZZLE PIECE|TEST TUBE|PETRI DISH|DNA DOUBLE HELIX|COMPASS",
    "1f9ee |ABACUS|FIRE EXTINGUISHER|TOOLBOX|BRICK|MAGNET|LUGGAGE|LOTION BOTTLE|SPOOL OF THREAD|BALL OF YARN",
    "1f9f7 |SAFETY PIN|TEDDY BEAR|BROOM|BASKET|ROLL OF PAPER|BAR OF SOAP|SPONGE|RECEIPT|NAZAR AMULET",
    "1fa00 NEUTRAL CHESS |KING|QUEEN|ROOK|BISHOP|KNIGHT|PAWN;1fa06 WHITE CHESS KNIGHT ROTATED FORTY-FIVE |DEGREES",
    "1fa07 |BLACK CHESS KNIGHT ROTATED FORTY-FIVE DEGREES|NEUTRAL CHESS KNIGHT ROTATED FORTY-FIVE DEGREES",
    "1fa09 WHITE CHESS |KING ROTATED NINETY DEGREES|QUEEN ROTATED NINETY DEGREES|ROOK ROTATED NINETY DEGREES",
    "1fa0c WHITE CHESS |BISHOP ROTATED NINETY DEGREES|KNIGHT ROTATED NINETY DEGREES",
    "1fa0e |WHITE CHESS PAWN ROTATED NINETY DEGREES|BLACK CHESS KING ROTATED NINETY DEGREES",
    "1fa10 BLACK CHESS |QUEEN ROTATED NINETY DEGREES|ROOK ROTATED NINETY DEGREES|BISHOP ROTATED NINETY DEGREES",
    "1fa13 BLACK CHESS |KNIGHT ROTATED NINETY DEGREES|PAWN ROTATED NINETY DEGREES",
    "1fa15 NEUTRAL CHESS |KING ROTATED NINETY DEGREES|QUEEN ROTATED NINETY DEGREES",
    "1fa17 NEUTRAL CHESS |ROOK ROTATED NINETY DEGREES|BISHOP ROTATED NINETY DEGREES",
    "1fa19 NEUTRAL CHESS |KNIGHT ROTATED NINETY DEGREES|PAWN ROTATED NINETY DEGREES",
    "1fa1b WHITE CHESS KNIGHT ROTATED ONE HUNDRED THIRTY-FIVE |DEGREES",
    "1fa1c BLACK CHESS KNIGHT ROTATED ONE HUNDRED THIRTY-FIVE |DEGREES",
    "1fa1d NEUTRAL CHESS KNIGHT ROTATED ONE HUNDRED THIRTY-FIVE |DEGREES",
    "1fa1e WHITE CHESS TURNED |KING|QUEEN|ROOK|BISHOP|KNIGHT|PAWN",
    "1fa24 BLACK CHESS TURNED |KING|QUEEN|ROOK|BISHOP|KNIGHT|PAWN",
    "1fa2a NEUTRAL CHESS TURNED |KING|QUEEN|ROOK|BISHOP|KNIGHT|PAWN",
    "1fa30 WHITE CHESS KNIGHT ROTATED TWO HUNDRED TWENTY-FIVE |DEGREES",
    "1fa31 BLACK CHESS KNIGHT ROTATED TWO HUNDRED TWENTY-FIVE |DEGREES",
    "1fa32 NEUTRAL CHESS KNIGHT ROTATED TWO HUNDRED TWENTY-FIVE |DEGREES",
    "1fa33 WHITE CHESS |KING ROTATED TWO HUNDRED SEVENTY DEGREES|QUEEN ROTATED TWO HUNDRED SEVENTY DEGREES",
    "1fa35 WHITE CHESS |ROOK ROTATED TWO HUNDRED SEVENTY DEGREES|BISHOP ROTATED TWO HUNDRED SEVENTY DEGREES",
    "1fa37 WHITE CHESS |KNIGHT ROTATED TWO HUNDRED SEVENTY DEGREES|PAWN ROTATED TWO HUNDRED SEVENTY DEGREES",
    "1fa39 BLACK CHESS |KING ROTATED TWO HUNDRED SEVENTY DEGREES|QUEEN ROTATED TWO HUNDRED SEVENTY DEGREES",
    "1fa3b BLACK CHESS |ROOK ROTATED TWO HUNDRED SEVENTY DEGREES|BISHOP ROTATED TWO HUNDRED SEVENTY DEGREES",
    "1fa3d BLACK CHESS |KNIGHT ROTATED TWO HUNDRED SEVENTY DEGREES|PAWN ROTATED TWO HUNDRED SEVENTY DEGREES",
    "1fa3f NEUTRAL CHESS |KING ROTATED TWO HUNDRED SEVENTY DEGREES|QUEEN ROTATED TWO HUNDRED SEVENTY DEGREES",
    "1fa41 NEUTRAL CHESS |ROOK ROTATED TWO HUNDRED SEVENTY DEGREES|BISHOP ROTATED TWO HUNDRED SEVENTY DEGREES",
    "1fa43 NEUTRAL CHESS |KNIGHT ROTATED TWO HUNDRED SEVENTY DEGREES|PAWN ROTATED TWO HUNDRED SEVENTY DEGREES",
    "1fa45 WHITE CHESS KNIGHT ROTATED THREE HUNDRED FIFTEEN |DEGREES",
    "1fa46 BLACK CHESS KNIGHT ROTATED THREE HUNDRED FIFTEEN |DEGREES",
    "1fa47 |NEUTRAL CHESS KNIGHT ROTATED THREE HUNDRED FIFTEEN DEGREES|WHITE CHESS EQUIHOPPER",
    "1fa49 |BLACK CHESS EQUIHOPPER|NEUTRAL CHESS EQUIHOPPER|WHITE CHESS EQUIHOPPER ROTATED NINETY DEGREES",
    "1fa4c |BLACK CHESS EQUIHOPPER ROTATED NINETY DEGREES|NEUTRAL CHESS EQUIHOPPER ROTATED NINETY DEGREES",
    "1fa4e WHITE CHESS KNIGHT-|QUEEN|ROOK|BISHOP;1fa51 BLACK CHESS KNIGHT-|QUEEN|ROOK|BISHOP",
    "1fa60 XIANGQI RED |GENERAL|MANDARIN|ELEPHANT|HORSE|CHARIOT|CANNON|SOLDIER",
    "1fa67 XIANGQI BLACK |GENERAL|MANDARIN|ELEPHANT|HORSE|CHARIOT|CANNON|SOLDIER",
    "1fa70 |BALLET SHOES|ONE-PIECE SWIMSUIT|BRIEFS|SHORTS|THONG SANDAL",
    "1fa78 |DROP OF BLOOD|ADHESIVE BANDAGE|STETHOSCOPE|X-RAY|CRUTCH",
    "1fa80 |YO-YO|KITE|PARACHUTE|BOOMERANG|MAGIC WAND|PINATA|NESTING DOLLS",
    "1fa90 |RINGED PLANET|CHAIR|RAZOR|AXE|DIYA LAMP|BANJO|MILITARY HELMET|ACCORDION|LONG DRUM",
    "1fa99 |COIN|CARPENTRY SAW|SCREWDRIVER|LADDER|HOOK|MIRROR|WINDOW|PLUNGER|SEWING NEEDLE|KNOT|BUCKET",
    "1faa4 |MOUSE TRAP|TOOTHBRUSH|HEADSTONE|PLACARD|ROCK|MIRROR BALL|IDENTIFICATION CARD|LOW BATTERY|HAMSA",
    "1fab0 |FLY|WORM|BEETLE|COCKROACH|POTTED PLANT|WOOD|FEATHER|LOTUS|CORAL|EMPTY NEST|NEST WITH EGGS",
    "1fac0 |ANATOMICAL HEART|LUNGS|PEOPLE HUGGING|PREGNANT MAN|PREGNANT PERSON|PERSON WITH CROWN",
    "1fad0 |BLUEBERRIES|BELL PEPPER|OLIVE|FLATBREAD|TAMALE|FONDUE|TEAPOT|POURING LIQUID|BEANS|JAR",
    "1fae0 |MELTING FACE|SALUTING FACE;1fae2 FACE WITH |OPEN EYES AND HAND OVER MOUTH|PEEKING EYE|DIAGONAL MOUTH",
    "1fae5 |DOTTED LINE FACE|BITING LIP|BUBBLES;1faf0 |HAND WITH INDEX FINGER AND THUMB CROSSED|RIGHTWARDS HAND",
    "1faf2 |LEFTWARDS HAND|PALM DOWN HAND|PALM UP HAND|INDEX POINTING AT THE VIEWER|HEART HANDS",
    "1fb00 BLOCK SEXTANT-|1|2|12|3|13|23|123|4|14|24|124|34|134|234|1234|5|15|25|125|35|235|1235",
    "1fb16 BLOCK SEXTANT-|45|145|245|1245|345|1345|2345|12345|6|16|26|126|36|136|236|1236|46|146|1246|346|1346",
    "1fb2b BLOCK SEXTANT-|2346|12346|56|156|256|1256|356|1356|2356|12356|456|1456|2456|12456|3456|13456|23456",
    "1fb3c LOWER LEFT BLOCK DIAGONAL LOWER MIDDLE LEFT TO LOWER |CENTRE|RIGHT",
    "1fb3e LOWER LEFT BLOCK DIAGONAL UPPER MIDDLE LEFT TO LOWER |CENTRE|RIGHT",
    "1fb40 LOWER LEFT BLOCK DIAGONAL UPPER LEFT TO LOWER |CENTRE",
    "1fb41 LOWER RIGHT BLOCK DIAGONAL UPPER MIDDLE LEFT TO UPPER |CENTRE|RIGHT",
    "1fb43 LOWER RIGHT BLOCK DIAGONAL LOWER MIDDLE LEFT TO UPPER |CENTRE|RIGHT",
    "1fb45 LOWER RIGHT BLOCK DIAGONAL LOWER LEFT TO UPPER |CENTRE",
    "1fb46 LOWER RIGHT BLOCK DIAGONAL LOWER |MIDDLE LEFT TO UPPER MIDDLE RIGHT|CENTRE TO LOWER MIDDLE RIGHT",
    "1fb48 LOWER RIGHT BLOCK DIAGONAL LOWER |LEFT TO LOWER MIDDLE RIGHT|CENTRE TO UPPER MIDDLE RIGHT",
    "1fb4a LOWER RIGHT BLOCK DIAGONAL LOWER |LEFT TO UPPER MIDDLE RIGHT|CENTRE TO UPPER RIGHT",
    "1fb4c LOWER LEFT BLOCK DIAGONAL UPPER |CENTRE TO UPPER MIDDLE RIGHT|LEFT TO UPPER MIDDLE RIGHT",
    "1fb4e LOWER LEFT BLOCK DIAGONAL UPPER |CENTRE TO LOWER MIDDLE RIGHT|LEFT TO LOWER MIDDLE RIGHT",
    "1fb50 LOWER LEFT BLOCK DIAGONAL UPPER |CENTRE TO LOWER RIGHT|MIDDLE LEFT TO LOWER MIDDLE RIGHT",
    "1fb52 UPPER RIGHT BLOCK DIAGONAL LOWER MIDDLE LEFT TO LOWER |CENTRE|RIGHT",
    "1fb54 UPPER RIGHT BLOCK DIAGONAL UPPER MIDDLE LEFT TO LOWER |CENTRE|RIGHT",
    "1fb56 UPPER RIGHT BLOCK DIAGONAL UPPER LEFT TO LOWER |CENTRE",
    "1fb57 UPPER LEFT BLOCK DIAGONAL UPPER MIDDLE LEFT TO UPPER |CENTRE|RIGHT",
    "1fb59 UPPER LEFT BLOCK DIAGONAL LOWER MIDDLE LEFT TO UPPER |CENTRE|RIGHT",
    "1fb5b UPPER LEFT BLOCK DIAGONAL LOWER LEFT TO UPPER |CENTRE",
    "1fb5c UPPER LEFT BLOCK DIAGONAL LOWER |MIDDLE LEFT TO UPPER MIDDLE RIGHT|CENTRE TO LOWER MIDDLE RIGHT",
    "1fb5e UPPER LEFT BLOCK DIAGONAL LOWER |LEFT TO LOWER MIDDLE RIGHT|CENTRE TO UPPER MIDDLE RIGHT",
    "1fb60 UPPER LEFT BLOCK DIAGONAL LOWER |LEFT TO UPPER MIDDLE RIGHT|CENTRE TO UPPER RIGHT",
    "1fb62 UPPER RIGHT BLOCK DIAGONAL UPPER |CENTRE TO UPPER MIDDLE RIGHT|LEFT TO UPPER MIDDLE RIGHT",
    "1fb64 UPPER RIGHT BLOCK DIAGONAL UPPER |CENTRE TO LOWER MIDDLE RIGHT|LEFT TO LOWER MIDDLE RIGHT",
    "1fb66 UPPER RIGHT BLOCK DIAGONAL UPPER |CENTRE TO LOWER RIGHT|MIDDLE LEFT TO LOWER MIDDLE RIGHT",
    "1fb68 UPPER AND RIGHT AND LOWER TRIANGULAR THREE QUARTERS |BLOCK",
    "1fb69 LEFT AND LOWER AND RIGHT TRIANGULAR THREE QUARTERS |BLOCK",
    "1fb6a UPPER AND LEFT AND LOWER TRIANGULAR THREE QUARTERS |BLOCK",
    "1fb6b LEFT |AND UPPER AND RIGHT TRIANGULAR THREE QUARTERS BLOCK|TRIANGULAR ONE QUARTER BLOCK",
    "1fb6d UPPER TRIANGULAR ONE QUARTER |BLOCK",
    "1fb6e |RIGHT TRIANGULAR ONE QUARTER BLOCK|LOWER TRIANGULAR ONE QUARTER BLOCK",
    "1fb70 VERTICAL ONE EIGHTH BLOCK-|2|3|4|5|6|7;1fb76 HORIZONTAL ONE EIGHTH BLOCK-|2|3|4|5|6|7",
    "1fb7c LEFT AND |LOWER ONE EIGHTH BLOCK|UPPER ONE EIGHTH BLOCK",
    "1fb7e RIGHT AND |UPPER ONE EIGHTH BLOCK|LOWER ONE EIGHTH BLOCK",
    "1fb80 |UPPER AND LOWER ONE EIGHTH BLOCK|HORIZONTAL ONE EIGHTH BLOCK-1358|UPPER ONE QUARTER BLOCK",
    "1fb83 UPPER |THREE EIGHTHS BLOCK|FIVE EIGHTHS BLOCK|THREE QUARTERS BLOCK|SEVEN EIGHTHS BLOCK",
    "1fb87 RIGHT |ONE QUARTER BLOCK|THREE EIGHTHS BLOCK|FIVE EIGHTHS BLOCK|THREE QUARTERS BLOCK",
    "1fb8b |RIGHT SEVEN EIGHTHS BLOCK|LEFT HALF MEDIUM SHADE",
    "1fb8d |RIGHT HALF MEDIUM SHADE|UPPER HALF MEDIUM SHADE|LOWER HALF MEDIUM SHADE|INVERSE MEDIUM SHADE",
    "1fb91 UPPER HALF |BLOCK AND LOWER HALF INVERSE MEDIUM SHADE|INVERSE MEDIUM SHADE AND LOWER HALF BLOCK",
    "1fb94 LEFT HALF INVERSE MEDIUM SHADE AND RIGHT HALF |BLOCK",
    "1fb95 |CHECKER BOARD FILL|INVERSE CHECKER BOARD FILL|HEAVY HORIZONTAL FILL",
    "1fb98 UPPER |LEFT TO LOWER RIGHT FILL|RIGHT TO LOWER LEFT FILL|AND LOWER TRIANGULAR HALF BLOCK",
    "1fb9b LEFT AND RIGHT TRIANGULAR HALF |BLOCK",
    "1fb9c UPPER |LEFT TRIANGULAR MEDIUM SHADE|RIGHT TRIANGULAR MEDIUM SHADE",
    "1fb9e LOWER |RIGHT TRIANGULAR MEDIUM SHADE|LEFT TRIANGULAR MEDIUM SHADE",
    "1fba0 BOX DRAWINGS LIGHT DIAGONAL UPPER CENTRE TO MIDDLE |LEFT|RIGHT",
    "1fba2 BOX DRAWINGS LIGHT DIAGONAL MIDDLE |LEFT TO LOWER CENTRE|RIGHT TO LOWER CENTRE",
    "1fba4 BOX DRAWINGS LIGHT DIAGONAL UPPER CENTRE TO MIDDLE |LEFT TO LOWER CENTRE|RIGHT TO LOWER CENTRE",
    "1fba6 BOX DRAWINGS LIGHT DIAGONAL MIDDLE LEFT TO LOWER CENTRE TO MIDDLE |RIGHT",
    "1fba7 BOX DRAWINGS LIGHT DIAGONAL MIDDLE LEFT TO UPPER CENTRE TO MIDDLE |RIGHT",
    "1fba8 BOX DRAWINGS LIGHT DIAGONAL UPPER CENTRE TO MIDDLE LEFT AND MIDDLE RIGHT TO LOWER |CENTRE",
    "1fba9 BOX DRAWINGS LIGHT DIAGONAL UPPER CENTRE TO MIDDLE RIGHT AND MIDDLE LEFT TO LOWER |CENTRE",
    "1fbaa BOX DRAWINGS LIGHT DIAGONAL UPPER CENTRE TO MIDDLE RIGHT TO LOWER CENTRE TO MIDDLE |LEFT",
    "1fbab BOX DRAWINGS LIGHT DIAGONAL UPPER CENTRE TO MIDDLE LEFT TO LOWER CENTRE TO MIDDLE |RIGHT",
    "1fbac BOX DRAWINGS LIGHT DIAGONAL MIDDLE LEFT TO UPPER CENTRE TO MIDDLE RIGHT TO LOWER |CENTRE",
    "1fbad BOX DRAWINGS LIGHT DIAGONAL |MIDDLE RIGHT TO UPPER CENTRE TO MIDDLE LEFT TO LOWER CENTRE|DIAMOND",
    "1fbaf BOX DRAWINGS LIGHT HORIZONTAL WITH VERTICAL |STROKE",
    "1fbb0 |ARROWHEAD-SHAPED POINTER|INVERSE CHECK MARK|LEFT HALF RUNNING MAN|RIGHT HALF RUNNING MAN",
    "1fbb4 |INVERSE DOWNWARDS ARROW WITH TIP LEFTWARDS|LEFTWARDS ARROW AND UPPER AND LOWER ONE EIGHTH BLOCK",
    "1fbb6 RIGHTWARDS ARROW AND UPPER AND LOWER ONE EIGHTH |BLOCK",
    "1fbb7 |DOWNWARDS ARROW AND RIGHT ONE EIGHTH BLOCK|UPWARDS ARROW AND RIGHT ONE EIGHTH BLOCK",
    "1fbb9 |LEFT HALF FOLDER|RIGHT HALF FOLDER|VOIDED GREEK CROSS|RIGHT OPEN SQUARED DOT",
    "1fbbd NEGATIVE DIAGONAL |CROSS|MIDDLE RIGHT TO LOWER CENTRE|DIAMOND",
    "1fbc0 WHITE HEAVY SALTIRE WITH ROUNDED |CORNERS",
    "1fbc1 |LEFT THIRD WHITE RIGHT POINTING INDEX|MIDDLE THIRD WHITE RIGHT POINTING INDEX",
    "1fbc3 |RIGHT THIRD WHITE RIGHT POINTING INDEX|NEGATIVE SQUARED QUESTION MARK|STICK FIGURE",
    "1fbc6 STICK FIGURE |WITH ARMS RAISED|LEANING LEFT|LEANING RIGHT|WITH DRESS;1fbca WHITE UP-POINTING |CHEVRON",
    "1fbf0 SEGMENTED DIGIT |ZERO|ONE|TWO|THREE|FOUR|FIVE|SIX|SEVEN|EIGHT|NINE;e0001 LANGUAGE |TAG;e0020 TAG |SPACE",
    "e0021 TAG |EXCLAMATION MARK|QUOTATION MARK|NUMBER SIGN|DOLLAR SIGN|PERCENT SIGN|AMPERSAND|APOSTROPHE",
    "e0028 TAG |LEFT PARENTHESIS|RIGHT PARENTHESIS|ASTERISK|PLUS SIGN|COMMA|HYPHEN-MINUS|FULL STOP|SOLIDUS",
    "e0030 TAG DIGIT |ZERO|ONE|TWO|THREE|FOUR|FIVE|SIX|SEVEN|EIGHT|NINE",
    "e003a TAG |COLON|SEMICOLON|LESS-THAN SIGN|EQUALS SIGN|GREATER-THAN SIGN|QUESTION MARK|COMMERCIAL AT",
    "e0041 TAG LATIN CAPITAL LETTER |A|B|C|D|E|F|G|H|I|J|K|L|M|N|O|P|Q|R|S|T|U|V|W|X|Y|Z",
    "e005b TAG LEFT SQUARE |BRACKET",
    "e005c TAG |REVERSE SOLIDUS|RIGHT SQUARE BRACKET|CIRCUMFLEX ACCENT|LOW LINE|GRAVE ACCENT",
    "e0061 TAG LATIN SMALL LETTER |A|B|C|D|E|F|G|H|I|J|K|L|M|N|O|P|Q|R|S|T|U|V|W|X|Y|Z",
    "e007b TAG |LEFT CURLY BRACKET|VERTICAL LINE|RIGHT CURLY BRACKET|TILDE;e007f CANCEL |TAG",
    "e0100 VARIATION SELECTOR-|17",
    "e0101 VARIATION SELECTOR-|18|19|20|21|22|23|24|25|26|27|28|29|30|31|32|33|34|35|36|37|38|39|40|41|42|43",
    "e011b VARIATION SELECTOR-|44|45|46|47|48|49|50|51|52|53|54|55|56|57|58|59|60|61|62|63|64|65|66|67|68|69",
    "e0135 VARIATION SELECTOR-|70|71|72|73|74|75|76|77|78|79|80|81|82|83|84|85|86|87|88|89|90|91|92|93|94|95",
    "e014f VARIATION SELECTOR-|96|97|98|99|100|101|102|103|104|105|106|107|108|109|110|111|112|113|114|115|116",
    "e0164 VARIATION SELECTOR-|117|118|119|120|121|122|123|124|125|126|127|128|129|130|131|132|133|134|135|136",
    "e0178 VARIATION SELECTOR-|137|138|139|140|141|142|143|144|145|146|147|148|149|150|151|152|153|154|155|156",
    "e018c VARIATION SELECTOR-|157|158|159|160|161|162|163|164|165|166|167|168|169|170|171|172|173|174|175|176",
    "e01a0 VARIATION SELECTOR-|177|178|179|180|181|182|183|184|185|186|187|188|189|190|191|192|193|194|195|196",
    "e01b4 VARIATION SELECTOR-|197|198|199|200|201|202|203|204|205|206|207|208|209|210|211|212|213|214|215|216",
    "e01c8 VARIATION SELECTOR-|217|218|219|220|221|222|223|224|225|226|227|228|229|230|231|232|233|234|235|236",
    "e01dc VARIATION SELECTOR-|237|238|239|240|241|242|243|244|245|246|247|248|249|250|251|252|253|254|255|256"]

end EdgeRoutes.Text
