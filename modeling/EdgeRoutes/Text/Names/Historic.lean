/-! Names of characters: historic scripts, from Linear B to cuneiform and hieroglyphs. -/

namespace EdgeRoutes.Text

def historicNames : List String :=
  ["10000 LINEAR B SYLLABLE |B008 A|B038 E",
    "10002 LINEAR B SYLLABLE |B028 I|B061 O|B010 U|B001 DA|B045 DE|B007 DI|B014 DO|B051 DU|B057 JA|B046 JE",
    "1000d LINEAR B SYLLABLE |B036 JO|B065 JU|B077 KA|B044 KE|B067 KI|B070 KO",
    "10013 LINEAR B SYLLABLE |B081 KU|B080 MA|B013 ME|B073 MI|B015 MO|B023 MU|B006 NA|B024 NE|B030 NI|B052 NO",
    "1001d LINEAR B SYLLABLE |B055 NU|B003 PA|B072 PE|B039 PI|B011 PO|B050 PU|B016 QA|B078 QE|B021 QI|B032 QO",
    "10028 LINEAR B SYLLABLE |B060 RA|B027 RE|B053 RI|B002 RO|B026 RU|B031 SA|B009 SE|B041 SI|B012 SO",
    "10031 LINEAR B SYLLABLE |B058 SU|B059 TA|B004 TE|B037 TI|B005 TO|B069 TU|B054 WA|B075 WE|B040 WI|B042 WO",
    "1003c LINEAR B SYLLABLE |B017 ZA|B074 ZE",
    "1003f LINEAR B SYLLABLE |B020 ZO|B025 A2|B043 A3|B085 AU|B071 DWE|B090 DWO",
    "10045 LINEAR B SYLLABLE |B048 NWA|B029 PU2|B062 PTE|B076 RA2|B033 RA3|B068 RO2|B066 TA2|B087 TWE|B091 TWO",
    "10050 LINEAR B SYMBOL |B018|B019|B022|B034|B047|B049|B056|B063|B064|B079|B082|B083|B086|B089",
    "10080 LINEAR B IDEOGRAM |B100 MAN|B102 WOMAN|B104 DEER|B105 EQUID|B105F MARE|B105M STALLION",
    "10086 LINEAR B IDEOGRAM |B106F EWE|B106M RAM|B107F SHE-GOAT|B107M HE-GOAT|B108F SOW|B108M BOAR",
    "1008c LINEAR B IDEOGRAM |B109F COW|B109M BULL|B120 WHEAT|B121 BARLEY|B122 OLIVE|B123 SPICE|B125 CYPERUS",
    "10093 LINEAR B MONOGRAM |B127 KAPO|B128 KANAKO;10095 LINEAR B IDEOGRAM |B130 OIL|B131 WINE|B132",
    "10098 LINEAR B MONOGRAM |B133 AREPA|B135 MERI",
    "1009a LINEAR B IDEOGRAM |B140 BRONZE|B141 GOLD|B142|B145 WOOL|B146|B150|B151 HORN|B152|B153|B154",
    "100a4 LINEAR B MONOGRAM B156 |TURO2;100a5 LINEAR B IDEOGRAM |B157|B158|B159 CLOTH|B160|B161|B162 GARMENT",
    "100ab LINEAR B IDEOGRAM |B163 ARMOUR|B164|B165|B166|B167|B168|B169|B170|B171|B172|B173 MONTH|B174",
    "100b7 LINEAR B IDEOGRAM |B176 TREE|B177|B178|B179|B180|B181|B182|B183|B184|B185|B189|B190|B191 HELMET",
    "100c4 LINEAR B IDEOGRAM |B220 FOOTSTOOL|B225 BATHTUB|B230 SPEAR|B231 ARROW|B232|B233 SWORD|B234",
    "100cb LINEAR B IDEOGRAM |B236|B240 WHEELED CHARIOT|B241 CHARIOT|B242 CHARIOT FRAME|B243 WHEEL|B245|B246",
    "100d2 LINEAR B MONOGRAM B247 |DIPTE",
    "100d3 LINEAR B IDEOGRAM |B248|B249|B251|B252|B253|B254 DART|B255|B256|B257|B258|B259|VESSEL B155",
    "100df LINEAR B IDEOGRAM VESSEL |B200|B201|B202|B203|B204|B205|B206|B207|B208|B209|B210|B211|B212|B213",
    "100ed LINEAR B IDEOGRAM VESSEL |B214|B215|B216|B217|B218|B219|B221|B222|B226|B227|B228|B229|B250|B305",
    "10100 AEGEAN WORD SEPARATOR |LINE|DOT;10102 AEGEAN CHECK |MARK;10107 AEGEAN NUMBER |ONE|TWO|THREE",
    "1010a AEGEAN NUMBER |FOUR|FIVE|SIX|SEVEN|EIGHT|NINE|TEN|TWENTY|THIRTY|FORTY|FIFTY|SIXTY|SEVENTY|EIGHTY",
    "10118 AEGEAN NUMBER |NINETY|ONE HUNDRED|TWO HUNDRED|THREE HUNDRED|FOUR HUNDRED|FIVE HUNDRED|SIX HUNDRED",
    "1011f AEGEAN NUMBER |SEVEN HUNDRED|EIGHT HUNDRED|NINE HUNDRED|ONE THOUSAND|TWO THOUSAND|THREE THOUSAND",
    "10125 AEGEAN NUMBER |FOUR THOUSAND|FIVE THOUSAND|SIX THOUSAND|SEVEN THOUSAND|EIGHT THOUSAND",
    "1012a AEGEAN NUMBER |NINE THOUSAND|TEN THOUSAND|TWENTY THOUSAND|THIRTY THOUSAND|FORTY THOUSAND",
    "1012f AEGEAN NUMBER |FIFTY THOUSAND|SIXTY THOUSAND|SEVENTY THOUSAND|EIGHTY THOUSAND|NINETY THOUSAND",
    "10137 AEGEAN WEIGHT |BASE UNIT|FIRST SUBUNIT|SECOND SUBUNIT|THIRD SUBUNIT|FOURTH SUBUNIT",
    "1013c AEGEAN |DRY MEASURE FIRST SUBUNIT|LIQUID MEASURE FIRST SUBUNIT",
    "1013e AEGEAN MEASURE |SECOND SUBUNIT|THIRD SUBUNIT;10140 GREEK ACROPHONIC ATTIC ONE |QUARTER|HALF|DRACHMA",
    "10143 GREEK ACROPHONIC ATTIC |FIVE|FIFTY|FIVE HUNDRED|FIVE THOUSAND|FIFTY THOUSAND|FIVE TALENTS",
    "10149 GREEK ACROPHONIC ATTIC |TEN TALENTS|FIFTY TALENTS|ONE HUNDRED TALENTS|FIVE HUNDRED TALENTS",
    "1014d GREEK ACROPHONIC ATTIC |ONE THOUSAND TALENTS|FIVE THOUSAND TALENTS|FIVE STATERS",
    "10150 GREEK ACROPHONIC ATTIC |TEN STATERS|FIFTY STATERS|ONE HUNDRED STATERS|FIVE HUNDRED STATERS",
    "10154 GREEK ACROPHONIC ATTIC |ONE THOUSAND STATERS|TEN THOUSAND STATERS|FIFTY THOUSAND STATERS|TEN MNAS",
    "10158 GREEK ACROPHONIC |HERAEUM ONE PLETHRON|THESPIAN ONE|HERMIONIAN ONE|EPIDAUREAN TWO|THESPIAN TWO",
    "1015d GREEK ACROPHONIC |CYRENAIC TWO DRACHMAS|EPIDAUREAN TWO DRACHMAS|TROEZENIAN FIVE|TROEZENIAN TEN",
    "10161 GREEK ACROPHONIC |TROEZENIAN TEN ALTERNATE FORM|HERMIONIAN TEN|MESSENIAN TEN|THESPIAN TEN",
    "10165 GREEK ACROPHONIC |THESPIAN THIRTY|TROEZENIAN FIFTY|TROEZENIAN FIFTY ALTERNATE FORM|HERMIONIAN FIFTY",
    "10169 GREEK ACROPHONIC THESPIAN |FIFTY|ONE HUNDRED|THREE HUNDRED",
    "1016c GREEK ACROPHONIC |EPIDAUREAN FIVE HUNDRED|TROEZENIAN FIVE HUNDRED|THESPIAN FIVE HUNDRED",
    "1016f GREEK ACROPHONIC |CARYSTIAN FIVE HUNDRED|NAXIAN FIVE HUNDRED|THESPIAN ONE THOUSAND",
    "10172 GREEK ACROPHONIC |THESPIAN FIVE THOUSAND|DELPHIC FIVE MNAS|STRATIAN FIFTY MNAS",
    "10175 GREEK ONE HALF |SIGN|SIGN ALTERNATE FORM",
    "10177 GREEK |TWO THIRDS SIGN|THREE QUARTERS SIGN|YEAR SIGN|TALENT SIGN",
    "1017b GREEK |DRACHMA SIGN|OBOL SIGN|TWO OBOLS SIGN|THREE OBOLS SIGN|FOUR OBOLS SIGN|FIVE OBOLS SIGN",
    "10181 GREEK |METRETES SIGN|KYATHOS BASE SIGN|LITRA SIGN|OUNKIA SIGN|XESTES SIGN|ARTABE SIGN|AROURA SIGN",
    "10188 GREEK |GRAMMA SIGN|TRYBLION BASE SIGN|ZERO SIGN|ONE QUARTER SIGN|SINUSOID SIGN|INDICTION SIGN",
    "1018e NOMISMA |SIGN",
    "10190 ROMAN |SEXTANS SIGN|UNCIA SIGN|SEMUNCIA SIGN|SEXTULA SIGN|DIMIDIA SEXTULA SIGN|SILIQUA SIGN",
    "10196 ROMAN |DENARIUS SIGN|QUINARIUS SIGN|SESTERTIUS SIGN|DUPONDIUS SIGN|AS SIGN|CENTURIAL SIGN",
    "1019c ASCIA |SYMBOL;101a0 GREEK SYMBOL TAU |RHO",
    "101d0 PHAISTOS DISC SIGN |PEDESTRIAN|PLUMED HEAD|TATTOOED HEAD|CAPTIVE",
    "101d4 PHAISTOS DISC SIGN |CHILD|WOMAN|HELMET|GAUNTLET|TIARA|ARROW|BOW|SHIELD|CLUB|MANACLES|MATTOCK",
    "101df PHAISTOS DISC SIGN |SAW|LID|BOOMERANG|CARPENTRY PLANE|DOLIUM|COMB|SLING|COLUMN|BEEHIVE|SHIP|HORN",
    "101ea PHAISTOS DISC SIGN |HIDE|BULLS LEG|CAT|RAM|EAGLE|DOVE|TUNNY|BEE|PLANE TREE|VINE|PAPYRUS|ROSETTE",
    "101f6 PHAISTOS DISC SIGN |LILY|OX BACK|FLUTE|GRATER|STRAINER|SMALL AXE|WAVY BAND|COMBINING OBLIQUE STROKE",
    "10280 LYCIAN LETTER |A|E|B|BH|G|D|I|W|Z|TH|J|K|Q|L|M|N|MM|NN|U|P|KK|R|S|T|TT|AN|EN|H|X",
    "102a0 CARIAN LETTER |A|P2|D|L|UUU|R|LD|A2|Q|B|M|O|D2|T|SH|SH2|S|C-18|U|NN|X|N|TT2|P",
    "102b8 CARIAN LETTER |SS|I|E|UUUU|K|K2|ND|UU|G|G2|ST|ST2|NG|II|C-39|TT|UUU2|RR|MB|MB2|MB3|MB4|LD2|E2|UUU3",
    "102e0 COPTIC EPACT THOUSANDS |MARK;102e1 COPTIC EPACT DIGIT |ONE|TWO|THREE|FOUR|FIVE|SIX|SEVEN|EIGHT|NINE",
    "102ea COPTIC EPACT NUMBER |TEN|TWENTY|THIRTY",
    "102ed COPTIC EPACT NUMBER |FORTY|FIFTY|SIXTY|SEVENTY|EIGHTY|NINETY|ONE HUNDRED|TWO HUNDRED|THREE HUNDRED",
    "102f6 COPTIC EPACT NUMBER |FOUR HUNDRED|FIVE HUNDRED|SIX HUNDRED|SEVEN HUNDRED|EIGHT HUNDRED|NINE HUNDRED",
    "10300 OLD ITALIC LETTER |A|BE|KE|DE|E|VE|ZE",
    "10307 OLD ITALIC LETTER |HE|THE|I|KA|EL|EM|EN|ESH|O|PE|SHE|KU|ER|ES|TE|U|EKS|PHE|KHE|EF|ERS|CHE|II|UU|ESS",
    "10320 OLD ITALIC NUMERAL |ONE|FIVE|TEN|FIFTY;1032d OLD ITALIC LETTER |YE|NORTHERN TSE|SOUTHERN TSE",
    "10330 GOTHIC LETTER |AHSA",
    "10331 GOTHIC LETTER |BAIRKAN|GIBA|DAGS|AIHVUS|QAIRTHRA|IUJA|HAGL|THIUTH|EIS|KUSMA|LAGUS|MANNA|NAUTHS|JER",
    "1033f GOTHIC LETTER |URUS|PAIRTHRA|NINETY|RAIDA|SAUIL|TEIWS|WINJA|FAIHU|IGGWS|HWAIR|OTHAL|NINE HUNDRED",
    "10350 OLD PERMIC LETTER |AN|BUR|GAI|DOI|E|ZHOI|DZHOI|ZATA|DZITA|I|KOKE|LEI|MENOE|NENOE|VOOI|PEEI|REI|SII",
    "10362 OLD PERMIC LETTER |TAI|U|CHERY|SHOOI|SHCHOOI|YRY|YERU|O|OO|EF|HA|TSIU|VER|YER|YERI|YAT|IE|YU|YA|IA",
    "10376 COMBINING OLD PERMIC LETTER |AN|DOI|ZATA|NENOE|SII",
    "10380 UGARITIC LETTER |ALPA|BETA|GAMLA|KHA|DELTA|HO|WO|ZETA|HOTA|TET|YOD|KAF",
    "1038c UGARITIC LETTER |SHIN|LAMDA|MEM|DHAL|NUN|ZU|SAMKA|AIN|PU|SADE|QOPA|RASHA|THANNA|GHAIN|TO|I|U|SSU",
    "1039f UGARITIC WORD |DIVIDER;103a0 OLD PERSIAN SIGN |A|I|U|KA|KU|GA|GU|XA|CA|JA",
    "103aa OLD PERSIAN SIGN |JI|TA|TU|DA|DI|DU|THA|PA|BA|FA|NA|NU|MA|MI|MU|YA|VA|VI|RA|RU|LA|SA|ZA|SHA|SSA|HA",
    "103c8 OLD PERSIAN SIGN |AURAMAZDAA|AURAMAZDAA-2|AURAMAZDAAHA|XSHAAYATHIYA|DAHYAAUSH|DAHYAAUSH-2|BAGA",
    "103cf OLD PERSIAN |SIGN BUUMISH|WORD DIVIDER;103d1 OLD PERSIAN NUMBER |ONE|TWO|TEN|TWENTY|HUNDRED",
    "10400 DESERET CAPITAL LETTER LONG |I|E|A|AH|O|OO;10406 DESERET CAPITAL LETTER SHORT |I|E|A|AH|O|OO",
    "1040c DESERET CAPITAL LETTER |AY|OW|WU|YEE|H|PEE|BEE|TEE",
    "10414 DESERET CAPITAL LETTER |DEE|CHEE|JEE|KAY|GAY|EF|VEE|ETH|THEE|ES|ZEE|ESH|ZHEE|ER|EL|EM|EN|ENG|OI|EW",
    "10428 DESERET SMALL LETTER LONG |I|E|A|AH|O|OO;1042e DESERET SMALL LETTER SHORT |I|E|A|AH|O|OO",
    "10434 DESERET SMALL LETTER |AY|OW|WU|YEE|H|PEE|BEE|TEE",
    "1043c DESERET SMALL LETTER |DEE|CHEE|JEE|KAY|GAY|EF|VEE|ETH|THEE|ES|ZEE|ESH|ZHEE|ER|EL|EM|EN|ENG|OI|EW",
    "10450 SHAVIAN LETTER |PEEP|TOT|KICK|FEE|THIGH|SO|SURE|CHURCH|YEA|HUNG",
    "1045a SHAVIAN LETTER |BIB|DEAD|GAG|VOW|THEY|ZOO|MEASURE|JUDGE|WOE|HA-HA|LOLL|MIME|IF|EGG|ASH|ADO|ON|WOOL",
    "1046c SHAVIAN LETTER |OUT|AH|ROAR|NUN|EAT|AGE|ICE|UP|OAK|OOZE|OIL|AWE|ARE|OR|AIR|ERR|ARRAY|EAR|IAN|YEW",
    "10480 OSMANYA LETTER |ALEF|BA|TA|JA|XA|KHA|DEEL",
    "10487 OSMANYA LETTER |RA|SA|SHIIN|DHA|CAYN|GA|FA|QAAF|KAAF|LAAN|MIIN|NUUN|WAW|HA|YA|A|E|I|O|U|AA|EE|OO",
    "104a0 OSMANYA DIGIT |ZERO|ONE|TWO|THREE|FOUR|FIVE|SIX|SEVEN|EIGHT|NINE",
    "104b0 OSAGE CAPITAL LETTER |A|AI|AIN|AH|BRA|CHA|EHCHA|E|EIN|HA|HYA|I|KA|EHKA|KYA",
    "104bf OSAGE CAPITAL LETTER |LA|MA|NA|O|OIN|PA|EHPA|SA|SHA|TA|EHTA|TSA|EHTSA|TSHA|DHA|U|WA|KHA|GHA|ZA|ZHA",
    "104d8 OSAGE SMALL LETTER |A|AI|AIN|AH|BRA|CHA|EHCHA|E|EIN|HA|HYA|I|KA|EHKA|KYA",
    "104e7 OSAGE SMALL LETTER |LA|MA|NA|O|OIN|PA|EHPA|SA|SHA|TA|EHTA|TSA|EHTSA|TSHA|DHA|U|WA|KHA|GHA|ZA|ZHA",
    "10500 ELBASAN LETTER |A|BE|CE|CHE|DE|NDE|DHE|EI|E|FE|GE|GJE|HE|I|JE",
    "1050f ELBASAN LETTER |KE|LE|LLE|ME|NE|NA|NJE|O|PE|QE|RE|RRE|SE|SHE|TE|THE|U|VE|XE|Y|ZE|ZHE|GHE|GHAMMA|KHE",
    "10530 CAUCASIAN ALBANIAN LETTER |ALT|BET|GIM|DAT|EB",
    "10535 CAUCASIAN ALBANIAN LETTER |ZARL|EYN|ZHIL|TAS|CHA|YOWD|ZHA|IRB|SHA|LAN|INYA|XEYN|DYAN|CAR|JHOX|KAR",
    "10545 CAUCASIAN ALBANIAN LETTER |LYIT|HEYT|QAY|AOR|CHOY|CHI|CYAY|MAQ|QAR|NOWC|DZYAY|SHAK|JAYN|ON|TYAY|FAM",
    "10555 CAUCASIAN ALBANIAN LETTER |DZAY|CHAT|PEN|GHEYS|RAT|SEYK|VEYZ|TIWR|SHOY|IWN|CYAW|CAYN|YAYD|PIWR|KIW",
    "1056f CAUCASIAN ALBANIAN CITATION |MARK;10570 VITHKUQI CAPITAL LETTER |A|BBE|BE|CE|CHE|DE|DHE|EI|E|FE|GA",
    "1057c VITHKUQI CAPITAL LETTER |HA|HHA|I|IJE|JE|KA|LA|LLA|ME|NE|NJE|O|PE|QA|RE",
    "1058c VITHKUQI CAPITAL LETTER |SE|SHE|TE|THE|U|VE|XE;10594 VITHKUQI CAPITAL LETTER |Y|ZE",
    "10597 VITHKUQI SMALL LETTER |A|BBE|BE|CE|CHE|DE|DHE|EI|E|FE|GA",
    "105a3 VITHKUQI SMALL LETTER |HA|HHA|I|IJE|JE|KA|LA|LLA|ME|NE|NJE|O|PE|QA|RE",
    "105b3 VITHKUQI SMALL LETTER |SE|SHE|TE|THE|U|VE|XE;105bb VITHKUQI SMALL LETTER |Y|ZE",
    "10600 LINEAR A SIGN |AB001|AB002|AB003|AB004|AB005|AB006|AB007|AB008|AB009",
    "10609 LINEAR A SIGN |AB010|AB011|AB013|AB016|AB017|AB020|AB021|AB021F|AB021M|AB022|AB022F|AB022M|AB023",
    "10616 LINEAR A SIGN |AB023M|AB024|AB026|AB027|AB028|A028B|AB029|AB030|AB031|AB034|AB037|AB038|AB039|AB040",
    "10624 LINEAR A SIGN |AB041|AB044|AB045|AB046|AB047|AB048|AB049|AB050|AB051|AB053|AB054|AB055|AB056|AB057",
    "10632 LINEAR A SIGN |AB058|AB059|AB060|AB061|AB065|AB066|AB067|AB069|AB070|AB073|AB074|AB076|AB077|AB078",
    "10640 LINEAR A SIGN |AB079|AB080|AB081|AB082|AB085|AB086|AB087|A100-102|AB118|AB120|A120B|AB122|AB123",
    "1064d LINEAR A SIGN |AB131A|AB131B|A131C|AB164|AB171|AB180|AB188|AB191|A301|A302|A303|A304|A305|A306|A307",
    "1065c LINEAR A SIGN |A308|A309A|A309B|A309C|A310|A311|A312|A313A|A313B|A313C|A314|A315|A316|A317|A318",
    "1066b LINEAR A SIGN |A319|A320|A321|A322|A323|A324|A325|A326|A327|A328|A329|A330|A331|A332|A333|A334|A335",
    "1067c LINEAR A SIGN |A336|A337|A338|A339|A340|A341|A342|A343|A344|A345|A346|A347|A348|A349|A350|A351|A352",
    "1068d LINEAR A SIGN |A353|A354|A355|A356|A357|A358|A359|A360|A361|A362|A363|A364|A365|A366|A367|A368|A369",
    "1069e LINEAR A SIGN |A370|A371|A400-VAS|A401-VAS|A402-VAS|A403-VAS|A404-VAS|A405-VAS|A406-VAS|A407-VAS",
    "106a8 LINEAR A SIGN |A408-VAS|A409-VAS|A410-VAS|A411-VAS|A412-VAS|A413-VAS|A414-VAS|A415-VAS|A416-VAS",
    "106b1 LINEAR A SIGN |A417-VAS|A418-VAS|A501|A502|A503|A504|A505|A506|A508|A509|A510|A511|A512|A513|A515",
    "106c0 LINEAR A SIGN |A516|A520|A521|A523|A524|A525|A526|A527|A528|A529|A530|A531|A532|A534|A535|A536|A537",
    "106d1 LINEAR A SIGN |A538|A539|A540|A541|A542|A545|A547|A548|A549|A550|A551|A552|A553|A554|A555|A556|A557",
    "106e2 LINEAR A SIGN |A559|A563|A564|A565|A566|A568|A569|A570|A571|A572|A573|A574|A575|A576|A577|A578|A579",
    "106f3 LINEAR A SIGN |A580|A581|A582|A583|A584|A585|A586|A587|A588|A589|A591|A592|A594|A595|A596|A598|A600",
    "10704 LINEAR A SIGN |A601|A602|A603|A604|A606|A608|A609|A610|A611|A612|A613|A614|A615|A616|A617|A618|A619",
    "10715 LINEAR A SIGN |A620|A621|A622|A623|A624|A626|A627|A628|A629|A634|A637|A638|A640|A642|A643|A644|A645",
    "10726 LINEAR A SIGN |A646|A648|A649|A651|A652|A653|A654|A655|A656|A657|A658|A659|A660|A661|A662|A663|A664",
    "10740 LINEAR A SIGN |A701 A|A702 B|A703 D|A704 E|A705 F|A706 H|A707 J|A708 K|A709 L",
    "10749 LINEAR A SIGN A709-|2 L2|3 L3|4 L4|6 L6",
    "1074d LINEAR A SIGN |A710 W|A711 X|A712 Y|A713 OMEGA|A714 ABB|A715 BB|A717 DD|A726 EYYY|A732 JE",
    "10760 LINEAR A SIGN |A800|A801|A802|A803|A804|A805|A806|A807",
    "10780 MODIFIER LETTER |SMALL CAPITAL AA|SUPERSCRIPT TRIANGULAR COLON|SUPERSCRIPT HALF TRIANGULAR COLON",
    "10783 MODIFIER LETTER SMALL |AE|CAPITAL B|B WITH HOOK",
    "10787 MODIFIER LETTER SMALL |DZ DIGRAPH|DZ DIGRAPH WITH RETROFLEX HOOK|DZ DIGRAPH WITH CURL|DEZH DIGRAPH",
    "1078b MODIFIER LETTER SMALL D WITH |TAIL|HOOK|HOOK AND TAIL",
    "1078e MODIFIER LETTER SMALL |REVERSED E|CLOSED REVERSED OPEN E|FENG DIGRAPH",
    "10791 MODIFIER LETTER SMALL |RAMS HORN|CAPITAL G|G WITH HOOK|CAPITAL G WITH HOOK|H WITH STROKE",
    "10796 MODIFIER LETTER SMALL |CAPITAL H|HENG WITH HOOK|DOTLESS J WITH STROKE AND HOOK|LS DIGRAPH",
    "1079a MODIFIER LETTER SMALL |LZ DIGRAPH|L WITH BELT|CAPITAL L WITH BELT|L WITH RETROFLEX HOOK AND BELT",
    "1079e MODIFIER LETTER SMALL |LEZH|LEZH WITH RETROFLEX HOOK|TURNED Y|TURNED Y WITH BELT",
    "107a2 MODIFIER LETTER SMALL |O WITH STROKE|CAPITAL OE|CLOSED OMEGA|Q|TURNED R WITH LONG LEG",
    "107a7 MODIFIER LETTER SMALL |TURNED R WITH LONG LEG AND RETROFLEX HOOK|R WITH TAIL|R WITH FISHHOOK",
    "107aa MODIFIER LETTER SMALL |CAPITAL R|TC DIGRAPH WITH CURL|TS DIGRAPH|TS DIGRAPH WITH RETROFLEX HOOK",
    "107ae MODIFIER LETTER SMALL |TESH DIGRAPH|T WITH RETROFLEX HOOK|V WITH RIGHT HOOK",
    "107b2 MODIFIER LETTER |SMALL CAPITAL Y|GLOTTAL STOP WITH STROKE",
    "107b4 MODIFIER LETTER |REVERSED GLOTTAL STOP WITH STROKE|BILABIAL CLICK|DENTAL CLICK",
    "107b7 MODIFIER LETTER |LATERAL CLICK|ALVEOLAR CLICK|RETROFLEX CLICK WITH RETROFLEX HOOK|SMALL S WITH CURL",
    "10800 CYPRIOT SYLLABLE |A|E|I|O|U|JA;10808 CYPRIOT SYLLABLE |JO",
    "1080a CYPRIOT SYLLABLE |KA|KE|KI|KO|KU|LA|LE|LI|LO|LU|MA|ME|MI|MO|MU|NA|NE",
    "1081b CYPRIOT SYLLABLE |NI|NO|NU|PA|PE|PI|PO|PU|RA|RE|RI|RO|RU|SA|SE|SI|SO|SU|TA|TE|TI|TO|TU|WA|WE|WI|WO",
    "10837 CYPRIOT SYLLABLE |XA|XE;1083c CYPRIOT SYLLABLE |ZA;1083f CYPRIOT SYLLABLE |ZO",
    "10840 IMPERIAL ARAMAIC LETTER |ALEPH|BETH|GIMEL|DALETH|HE|WAW|ZAYIN",
    "10847 IMPERIAL ARAMAIC LETTER |HETH|TETH|YODH|KAPH|LAMEDH|MEM|NUN|SAMEKH|AYIN|PE|SADHE|QOPH|RESH|SHIN|TAW",
    "10857 IMPERIAL ARAMAIC SECTION |SIGN",
    "10858 IMPERIAL ARAMAIC NUMBER |ONE|TWO|THREE|TEN|TWENTY|ONE HUNDRED|ONE THOUSAND|TEN THOUSAND",
    "10860 PALMYRENE LETTER |ALEPH|BETH|GIMEL|DALETH|HE|WAW|ZAYIN|HETH",
    "10868 PALMYRENE LETTER |TETH|YODH|KAPH|LAMEDH|MEM|FINAL NUN|NUN|SAMEKH|AYIN|PE|SADHE|QOPH|RESH|SHIN|TAW",
    "10877 PALMYRENE |LEFT-POINTING FLEURON|RIGHT-POINTING FLEURON",
    "10879 PALMYRENE NUMBER |ONE|TWO|THREE|FOUR|FIVE|TEN|TWENTY",
    "10880 NABATAEAN LETTER |FINAL ALEPH|ALEPH|FINAL BETH|BETH|GIMEL|DALETH|FINAL HE",
    "10887 NABATAEAN LETTER |HE|WAW|ZAYIN|HETH|TETH|FINAL YODH|YODH|FINAL KAPH|KAPH|FINAL LAMEDH|LAMEDH",
    "10892 NABATAEAN LETTER |FINAL MEM|MEM|FINAL NUN|NUN|SAMEKH|AYIN|PE|SADHE|QOPH|RESH|FINAL SHIN|SHIN|TAW",
    "108a7 NABATAEAN NUMBER |ONE|TWO|THREE|FOUR;108ab NABATAEAN CRUCIFORM NUMBER |FOUR",
    "108ac NABATAEAN NUMBER |FIVE|TEN|TWENTY|ONE HUNDRED;108e0 HATRAN LETTER |ALEPH|BETH|GIMEL",
    "108e3 HATRAN LETTER |DALETH-RESH|HE|WAW|ZAYN|HETH|TETH|YODH|KAPH|LAMEDH|MEM|NUN|SAMEKH|AYN|PE|SADHE|QOPH",
    "108f4 HATRAN LETTER |SHIN|TAW;108fb HATRAN NUMBER |ONE|FIVE|TEN|TWENTY|ONE HUNDRED",
    "10900 PHOENICIAN LETTER |ALF|BET|GAML",
    "10903 PHOENICIAN LETTER |DELT|HE|WAU|ZAI|HET|TET|YOD|KAF|LAMD|MEM|NUN|SEMK|AIN|PE|SADE|QOF|ROSH|SHIN|TAU",
    "10916 PHOENICIAN NUMBER |ONE|TEN|TWENTY|ONE HUNDRED|TWO|THREE;1091f PHOENICIAN WORD |SEPARATOR",
    "10920 LYDIAN LETTER |A|B|G|D|E|V|I|Y|K|L|M|N|O|R|SS|T|U|F|Q|S|TT|AN|EN|LY|NN|C;1093f LYDIAN TRIANGULAR |MARK",
    "10980 MEROITIC HIEROGLYPHIC LETTER |A|E|I|O|YA|WA|BA|BA-2|PA|MA|NA|NA-2",
    "1098c MEROITIC HIEROGLYPHIC LETTER |NE|NE-2|RA|RA-2|LA|KHA|HHA|SA|SA-2|SE|KA|QA|TA|TA-2|TE|TE-2|TO|DA",
    "1099e MEROITIC HIEROGLYPHIC SYMBOL |VIDJ|VIDJ-2;109a0 MEROITIC CURSIVE LETTER |A|E",
    "109a2 MEROITIC CURSIVE LETTER |I|O|YA|WA|BA|PA|MA|NA|NE|RA|LA|KHA|HHA|SA|ARCHAIC SA|SE|KA|QA|TA|TE|TO|DA",
    "109bc MEROITIC CURSIVE |FRACTION ELEVEN TWELFTHS|FRACTION ONE HALF|LOGOGRAM RMT|LOGOGRAM IMN",
    "109c0 MEROITIC CURSIVE NUMBER |ONE|TWO|THREE",
    "109c3 MEROITIC CURSIVE NUMBER |FOUR|FIVE|SIX|SEVEN|EIGHT|NINE|TEN|TWENTY|THIRTY|FORTY|FIFTY|SIXTY|SEVENTY",
    "109d2 MEROITIC CURSIVE NUMBER |ONE HUNDRED|TWO HUNDRED|THREE HUNDRED",
    "109d5 MEROITIC CURSIVE NUMBER |FOUR HUNDRED|FIVE HUNDRED|SIX HUNDRED|SEVEN HUNDRED|EIGHT HUNDRED",
    "109da MEROITIC CURSIVE NUMBER |NINE HUNDRED|ONE THOUSAND|TWO THOUSAND|THREE THOUSAND|FOUR THOUSAND",
    "109df MEROITIC CURSIVE NUMBER |FIVE THOUSAND|SIX THOUSAND|SEVEN THOUSAND|EIGHT THOUSAND|NINE THOUSAND",
    "109e4 MEROITIC CURSIVE NUMBER |TEN THOUSAND|TWENTY THOUSAND|THIRTY THOUSAND|FORTY THOUSAND|FIFTY THOUSAND",
    "109e9 MEROITIC CURSIVE NUMBER |SIXTY THOUSAND|SEVENTY THOUSAND|EIGHTY THOUSAND|NINETY THOUSAND",
    "109ed MEROITIC CURSIVE NUMBER |ONE HUNDRED THOUSAND|TWO HUNDRED THOUSAND|THREE HUNDRED THOUSAND",
    "109f0 MEROITIC CURSIVE NUMBER |FOUR HUNDRED THOUSAND|FIVE HUNDRED THOUSAND|SIX HUNDRED THOUSAND",
    "109f3 MEROITIC CURSIVE NUMBER |SEVEN HUNDRED THOUSAND|EIGHT HUNDRED THOUSAND|NINE HUNDRED THOUSAND",
    "109f6 MEROITIC CURSIVE FRACTION |ONE TWELFTH|TWO TWELFTHS|THREE TWELFTHS|FOUR TWELFTHS|FIVE TWELFTHS",
    "109fb MEROITIC CURSIVE FRACTION |SIX TWELFTHS|SEVEN TWELFTHS|EIGHT TWELFTHS|NINE TWELFTHS|TEN TWELFTHS",
    "10a00 KHAROSHTHI LETTER |A;10a01 KHAROSHTHI VOWEL SIGN |I|U|VOCALIC R;10a05 KHAROSHTHI VOWEL SIGN |E|O",
    "10a0c KHAROSHTHI |VOWEL LENGTH MARK|SIGN DOUBLE RING BELOW|SIGN ANUSVARA|SIGN VISARGA",
    "10a10 KHAROSHTHI LETTER |KA|KHA|GA|GHA;10a15 KHAROSHTHI LETTER |CA|CHA|JA",
    "10a19 KHAROSHTHI LETTER |NYA|TTA|TTHA|DDA|DDHA|NNA|TA",
    "10a20 KHAROSHTHI LETTER |THA|DA|DHA|NA|PA|PHA|BA|BHA|MA|YA|RA|LA|VA|SHA|SSA|SA|ZA|HA|KKA|TTTHA|TTTA|VHA",
    "10a38 KHAROSHTHI SIGN |BAR ABOVE|CAUDA|DOT BELOW",
    "10a3f KHAROSHTHI |VIRAMA|DIGIT ONE|DIGIT TWO|DIGIT THREE|DIGIT FOUR",
    "10a44 KHAROSHTHI NUMBER |TEN|TWENTY|ONE HUNDRED|ONE THOUSAND;10a48 KHAROSHTHI FRACTION ONE |HALF",
    "10a50 KHAROSHTHI PUNCTUATION |DOT",
    "10a51 KHAROSHTHI PUNCTUATION |SMALL CIRCLE|CIRCLE|CRESCENT BAR|MANGALAM|LOTUS|DANDA|DOUBLE DANDA|LINES",
    "10a60 OLD SOUTH ARABIAN LETTER |HE|LAMEDH|HETH|MEM|QOPH|WAW|SHIN|RESH|BETH|TAW|SAT|KAPH|NUN|KHETH|SADHE",
    "10a6f OLD SOUTH ARABIAN LETTER |SAMEKH|FE|ALEF|AYN|DHADHE|GIMEL|DALETH|GHAYN|TETH|ZAYN|DHALETH|YODH|THAW",
    "10a7c OLD SOUTH ARABIAN |LETTER THETH|NUMBER ONE|NUMBER FIFTY|NUMERIC INDICATOR",
    "10a80 OLD NORTH ARABIAN LETTER |HEH|LAM|HAH|MEEM|QAF|WAW|ES-2|REH|BEH|TEH|ES-1|KAF|NOON",
    "10a8d OLD NORTH ARABIAN LETTER |KHAH|SAD|ES-3|FEH|ALEF|AIN|DAD|GEEM|DAL|GHAIN|TAH|ZAIN|THAL|YEH|THEH|ZAH",
    "10a9d OLD NORTH ARABIAN NUMBER |ONE|TEN|TWENTY",
    "10ac0 MANICHAEAN LETTER |ALEPH|BETH|BHETH|GIMEL|GHIMEL|DALETH|HE|WAW;10ac8 MANICHAEAN SIGN |UD",
    "10ac9 MANICHAEAN LETTER |ZAYIN|ZHAYIN|JAYIN|JHAYIN|HETH|TETH|YODH|KAPH|XAPH|KHAPH|LAMEDH|DHAMEDH|THAMEDH",
    "10ad6 MANICHAEAN LETTER |MEM|NUN|SAMEKH|AYIN|AAYIN|PE|FE|SADHE|QOPH|XOPH|QHOPH|RESH|SHIN|SSHIN|TAW",
    "10ae5 MANICHAEAN ABBREVIATION MARK |ABOVE|BELOW;10aeb MANICHAEAN NUMBER |ONE|FIVE|TEN|TWENTY|ONE HUNDRED",
    "10af0 MANICHAEAN PUNCTUATION |STAR|FLEURON|DOUBLE DOT WITHIN DOT|DOT WITHIN DOT|DOT|TWO DOTS|LINE FILLER",
    "10b00 AVESTAN LETTER |A|AA|AO|AAO|AN|AAN",
    "10b06 AVESTAN LETTER |AE|AEE|E|EE|O|OO|I|II|U|UU|KE|XE|XYE|XVE|GE|GGE|GHE|CE|JE|TE|THE|DE|DHE|TTE|PE|FE",
    "10b20 AVESTAN LETTER |BE|BHE|NGE|NGYE|NGVE|NE|NYE|NNE|ME|HME|YYE|YE|VE|RE|LE|SE|ZE|SHE|ZHE|SHYE|SSHE|HE",
    "10b39 AVESTAN ABBREVIATION |MARK",
    "10b3a |TINY TWO DOTS OVER ONE DOT PUNCTUATION|SMALL TWO DOTS OVER ONE DOT PUNCTUATION",
    "10b3c LARGE |TWO DOTS OVER ONE DOT PUNCTUATION|ONE DOT OVER TWO DOTS PUNCTUATION",
    "10b3e LARGE |TWO RINGS OVER ONE RING PUNCTUATION|ONE RING OVER TWO RINGS PUNCTUATION",
    "10b40 INSCRIPTIONAL PARTHIAN LETTER |ALEPH|BETH|GIMEL|DALETH|HE|WAW|ZAYIN|HETH|TETH",
    "10b49 INSCRIPTIONAL PARTHIAN LETTER |YODH|KAPH|LAMEDH|MEM|NUN|SAMEKH|AYIN|PE|SADHE|QOPH|RESH|SHIN|TAW",
    "10b58 INSCRIPTIONAL PARTHIAN NUMBER |ONE|TWO|THREE|FOUR|TEN|TWENTY|ONE HUNDRED|ONE THOUSAND",
    "10b60 INSCRIPTIONAL PAHLAVI LETTER |ALEPH|BETH|GIMEL|DALETH|HE|WAW-AYIN-RESH|ZAYIN",
    "10b67 INSCRIPTIONAL PAHLAVI LETTER |HETH|TETH|YODH|KAPH|LAMEDH|MEM-QOPH|NUN|SAMEKH|PE|SADHE|SHIN|TAW",
    "10b78 INSCRIPTIONAL PAHLAVI NUMBER |ONE|TWO|THREE|FOUR|TEN|TWENTY|ONE HUNDRED|ONE THOUSAND",
    "10b80 PSALTER PAHLAVI LETTER |ALEPH|BETH|GIMEL|DALETH|HE|WAW-AYIN-RESH",
    "10b86 PSALTER PAHLAVI LETTER |ZAYIN|HETH|YODH|KAPH|LAMEDH|MEM-QOPH|NUN|SAMEKH|PE|SADHE|SHIN|TAW",
    "10b99 PSALTER PAHLAVI |SECTION MARK|TURNED SECTION MARK|FOUR DOTS WITH CROSS|FOUR DOTS WITH DOT",
    "10ba9 PSALTER PAHLAVI NUMBER |ONE|TWO|THREE|FOUR|TEN|TWENTY|ONE HUNDRED",
    "10c00 OLD TURKIC LETTER |ORKHON A|YENISEI A|YENISEI AE",
    "10c03 OLD TURKIC LETTER |ORKHON I|YENISEI I|YENISEI E|ORKHON O|ORKHON OE|YENISEI OE|ORKHON AB|YENISEI AB",
    "10c0b OLD TURKIC LETTER |ORKHON AEB|YENISEI AEB|ORKHON AG|YENISEI AG|ORKHON AEG|YENISEI AEG|ORKHON AD",
    "10c12 OLD TURKIC LETTER |YENISEI AD|ORKHON AED|ORKHON EZ|YENISEI EZ|ORKHON AY|YENISEI AY|ORKHON AEY",
    "10c19 OLD TURKIC LETTER |YENISEI AEY|ORKHON AEK|YENISEI AEK|ORKHON OEK|YENISEI OEK|ORKHON AL|YENISEI AL",
    "10c20 OLD TURKIC LETTER ORKHON |AEL|ELT|EM|AN|AEN",
    "10c25 OLD TURKIC LETTER |YENISEI AEN|ORKHON ENT|YENISEI ENT|ORKHON ENC|YENISEI ENC|ORKHON ENY",
    "10c2b OLD TURKIC LETTER YENISEI |ENY|ANG",
    "10c2d OLD TURKIC LETTER |ORKHON ENG|YENISEI AENG|ORKHON EP|ORKHON OP|ORKHON IC|ORKHON EC|YENISEI EC",
    "10c34 OLD TURKIC LETTER |ORKHON AQ|YENISEI AQ|ORKHON IQ|YENISEI IQ|ORKHON OQ|YENISEI OQ|ORKHON AR",
    "10c3b OLD TURKIC LETTER |YENISEI AR|ORKHON AER|ORKHON AS|ORKHON AES|ORKHON ASH|YENISEI ASH|ORKHON ESH",
    "10c42 OLD TURKIC LETTER |YENISEI ESH|ORKHON AT|YENISEI AT|ORKHON AET|YENISEI AET|ORKHON OT|ORKHON BASH",
    "10c80 OLD HUNGARIAN CAPITAL LETTER |A|AA|EB|AMB|EC|ENC|ECS",
    "10c87 OLD HUNGARIAN CAPITAL LETTER |ED|AND|E|CLOSE E|EE|EF|EG|EGY|EH|I|II|EJ|EK|AK|UNK|EL|ELY|EM|EN|ENY",
    "10c9b OLD HUNGARIAN CAPITAL LETTER |O|OO|NIKOLSBURG OE|RUDIMENTA OE|OEE|EP|EMP|ER|SHORT ER|ES|ESZ|ET|ENT",
    "10ca8 OLD HUNGARIAN CAPITAL LETTER |ETY|ECH|U|UU|NIKOLSBURG UE|RUDIMENTA UE|EV|EZ|EZS|ENT-SHAPED SIGN|US",
    "10cc0 OLD HUNGARIAN SMALL LETTER |A|AA|EB|AMB|EC|ENC",
    "10cc6 OLD HUNGARIAN SMALL LETTER |ECS|ED|AND|E|CLOSE E|EE|EF|EG|EGY|EH|I|II|EJ|EK|AK|UNK|EL|ELY|EM|EN|ENY",
    "10cdb OLD HUNGARIAN SMALL LETTER |O|OO|NIKOLSBURG OE|RUDIMENTA OE|OEE|EP|EMP|ER|SHORT ER|ES|ESZ|ET|ENT",
    "10ce8 OLD HUNGARIAN SMALL LETTER |ETY|ECH|U|UU|NIKOLSBURG UE|RUDIMENTA UE|EV|EZ|EZS|ENT-SHAPED SIGN|US",
    "10cfa OLD HUNGARIAN NUMBER |ONE|FIVE|TEN|FIFTY|ONE HUNDRED|ONE THOUSAND",
    "10d00 HANIFI ROHINGYA LETTER |A|BA|PA|TA|TTA|JA|CA|HA|KHA|FA",
    "10d0a HANIFI ROHINGYA LETTER |DA|DDA|RA|RRA|ZA|SA|SHA|KA|GA|LA|MA|NA|WA|KINNA WA|YA|KINNA YA|NGA|NYA|VA",
    "10d1d HANIFI ROHINGYA VOWEL |A|I|U|E|O",
    "10d22 HANIFI ROHINGYA |MARK SAKIN|MARK NA KHONNA|SIGN HARBAHAY|SIGN TAHALA|SIGN TANA|SIGN TASSI",
    "10d30 HANIFI ROHINGYA DIGIT |ZERO|ONE|TWO|THREE|FOUR|FIVE|SIX|SEVEN|EIGHT|NINE",
    "10e60 RUMI DIGIT |ONE|TWO|THREE|FOUR|FIVE|SIX|SEVEN|EIGHT|NINE;10e69 RUMI NUMBER |TEN|TWENTY",
    "10e6b RUMI NUMBER |THIRTY|FORTY|FIFTY|SIXTY|SEVENTY|EIGHTY|NINETY|ONE HUNDRED|TWO HUNDRED|THREE HUNDRED",
    "10e75 RUMI NUMBER |FOUR HUNDRED|FIVE HUNDRED|SIX HUNDRED|SEVEN HUNDRED|EIGHT HUNDRED|NINE HUNDRED",
    "10e7b RUMI FRACTION |ONE HALF|ONE QUARTER|ONE THIRD|TWO THIRDS;10e80 YEZIDI LETTER |ELIF|BE",
    "10e82 YEZIDI LETTER |PE|PHE|THE|SE|CIM|CHIM|CHHIM|HHA|XA|DAL|ZAL|RA|RHA|ZA|JA|SIN|SHIN|SAD|DAD|TA|ZE|EYN",
    "10e98 YEZIDI LETTER |XHEYN|FA|VA|VA ALTERNATE FORM|QAF|KAF|KHAF|GAF|LAM|MIM|NUN|UM|WAW|OW|EW|HAY|YOT|ET",
    "10eab YEZIDI |COMBINING HAMZA MARK|COMBINING MADDA MARK|HYPHENATION MARK",
    "10eb0 YEZIDI LETTER |LAM WITH DOT ABOVE|YOT WITH CIRCUMFLEX ABOVE",
    "10f00 OLD SOGDIAN LETTER |ALEPH|FINAL ALEPH|BETH|FINAL BETH|GIMEL|HE|FINAL HE",
    "10f07 OLD SOGDIAN LETTER |WAW|ZAYIN|HETH|YODH|KAPH|LAMEDH|MEM|NUN|FINAL NUN|FINAL NUN WITH VERTICAL TAIL",
    "10f11 OLD SOGDIAN LETTER |SAMEKH|AYIN|ALTERNATE AYIN|PE|SADHE|FINAL SADHE|FINAL SADHE WITH VERTICAL TAIL",
    "10f18 OLD SOGDIAN LETTER |RESH-AYIN-DALETH|SHIN|TAW|FINAL TAW|FINAL TAW WITH VERTICAL TAIL",
    "10f1d OLD SOGDIAN NUMBER |ONE|TWO|THREE|FOUR|FIVE|TEN|TWENTY|THIRTY|ONE HUNDRED",
    "10f26 OLD SOGDIAN |FRACTION ONE HALF|LIGATURE AYIN-DALETH;10f30 SOGDIAN LETTER |ALEPH|BETH|GIMEL|HE|WAW|ZAYIN",
    "10f36 SOGDIAN LETTER |HETH|YODH|KAPH|LAMEDH|MEM|NUN|SAMEKH|AYIN|PE|SADHE|RESH-AYIN|SHIN|TAW|FETH|LESH",
    "10f45 SOGDIAN INDEPENDENT |SHIN",
    "10f46 SOGDIAN COMBINING |DOT BELOW|TWO DOTS BELOW|DOT ABOVE|TWO DOTS ABOVE|CURVE ABOVE",
    "10f4b SOGDIAN COMBINING |CURVE BELOW|HOOK ABOVE|HOOK BELOW|LONG HOOK BELOW|RESH BELOW|STROKE BELOW",
    "10f51 SOGDIAN NUMBER |ONE|TEN|TWENTY|ONE HUNDRED;10f55 SOGDIAN PUNCTUATION TWO VERTICAL |BARS|BARS WITH DOTS",
    "10f57 SOGDIAN PUNCTUATION |CIRCLE WITH DOT|TWO CIRCLES WITH DOTS|HALF CIRCLE WITH DOT",
    "10f70 OLD UYGHUR LETTER |ALEPH|BETH|GIMEL-HETH",
    "10f73 OLD UYGHUR LETTER |WAW|ZAYIN|FINAL HETH|YODH|KAPH|LAMEDH|MEM|NUN|SAMEKH|PE|SADHE|RESH|SHIN|TAW|LESH",
    "10f82 OLD UYGHUR COMBINING |DOT ABOVE|DOT BELOW|TWO DOTS ABOVE|TWO DOTS BELOW",
    "10f86 OLD UYGHUR PUNCTUATION |BAR|TWO BARS|TWO DOTS|FOUR DOTS",
    "10fb0 CHORASMIAN LETTER |ALEPH|SMALL ALEPH|BETH|GIMEL|DALETH|HE",
    "10fb6 CHORASMIAN LETTER |WAW|CURLED WAW|ZAYIN|HETH|YODH|KAPH|LAMEDH|MEM|NUN|SAMEKH|AYIN|PE|RESH|SHIN|TAW",
    "10fc5 CHORASMIAN NUMBER |ONE|TWO|THREE|FOUR|TEN|TWENTY|ONE HUNDRED",
    "10fe0 ELYMAIC LETTER |ALEPH|BETH|GIMEL|DALETH|HE|WAW",
    "10fe6 ELYMAIC LETTER |ZAYIN|HETH|TETH|YODH|KAPH|LAMEDH|MEM|NUN|SAMEKH|AYIN|PE|SADHE|QOPH|RESH|SHIN|TAW",
    "10ff6 ELYMAIC LIGATURE ZAYIN-|YODH;11000 BRAHMI SIGN |CANDRABINDU|ANUSVARA|VISARGA|JIHVAMULIYA|UPADHMANIYA",
    "11005 BRAHMI LETTER |A|AA|I|II|U|UU;1100b BRAHMI LETTER VOCALIC |R|RR|L|LL",
    "1100f BRAHMI LETTER |E|AI|O|AU|KA|KHA|GA|GHA|NGA|CA|CHA|JA|JHA|NYA|TTA",
    "1101e BRAHMI LETTER |TTHA|DDA|DDHA|NNA|TA|THA|DA|DHA|NA|PA|PHA|BA|BHA|MA|YA|RA|LA|VA|SHA|SSA|SA|HA|LLA",
    "11035 BRAHMI LETTER OLD TAMIL |LLLA|RRA|NNNA",
    "11038 BRAHMI VOWEL SIGN |AA|BHATTIPROLU AA|I|II|U|UU|VOCALIC R|VOCALIC RR|VOCALIC L|VOCALIC LL|E|AI|O|AU",
    "11046 BRAHMI |VIRAMA|DANDA|DOUBLE DANDA;11049 BRAHMI PUNCTUATION |DOT|DOUBLE DOT|LINE|CRESCENT BAR|LOTUS",
    "11052 BRAHMI NUMBER |ONE|TWO|THREE|FOUR|FIVE|SIX|SEVEN|EIGHT|NINE",
    "1105b BRAHMI NUMBER |TEN|TWENTY|THIRTY|FORTY|FIFTY|SIXTY|SEVENTY|EIGHTY|NINETY|ONE HUNDRED|ONE THOUSAND",
    "11066 BRAHMI DIGIT |ZERO|ONE|TWO|THREE|FOUR|FIVE|SIX|SEVEN|EIGHT|NINE;11070 BRAHMI SIGN OLD TAMIL |VIRAMA",
    "11071 BRAHMI LETTER OLD TAMIL SHORT |E|O;11073 BRAHMI VOWEL SIGN OLD TAMIL SHORT |E|O",
    "11075 BRAHMI LETTER OLD TAMIL |LLA;1107f BRAHMI NUMBER |JOINER;11080 KAITHI SIGN |CANDRABINDU|ANUSVARA|VISARGA",
    "11083 KAITHI LETTER |A|AA|I|II|U|UU|E|AI|O|AU|KA|KHA|GA|GHA|NGA|CA|CHA|JA|JHA|NYA|TTA|TTHA",
    "11099 KAITHI LETTER |DDA|DDDHA|DDHA|RHA|NNA|TA|THA|DA|DHA|NA|PA|PHA|BA|BHA|MA|YA|RA|LA|VA|SHA|SSA|SA|HA",
    "110b0 KAITHI VOWEL SIGN |AA|I|II|U|UU|E|AI|O|AU",
    "110b9 KAITHI |SIGN VIRAMA|SIGN NUKTA|ABBREVIATION SIGN|ENUMERATION SIGN",
    "110bd KAITHI |NUMBER SIGN|SECTION MARK|DOUBLE SECTION MARK|DANDA|DOUBLE DANDA|VOWEL SIGN VOCALIC R",
    "110cd KAITHI NUMBER SIGN |ABOVE;110d0 SORA SOMPENG LETTER |SAH|TAH|BAH|CAH|DAH",
    "110d5 SORA SOMPENG LETTER |GAH|MAH|NGAH|LAH|NAH|VAH|PAH|YAH|RAH|HAH|KAH|JAH|NYAH|AH|EEH|IH|UH|OH|EH|MAE",
    "110f0 SORA SOMPENG DIGIT |ZERO|ONE|TWO|THREE|FOUR|FIVE|SIX|SEVEN|EIGHT|NINE",
    "11100 CHAKMA SIGN |CANDRABINDU|ANUSVARA|VISARGA",
    "11103 CHAKMA LETTER |AA|I|U|E|KAA|KHAA|GAA|GHAA|NGAA|CAA|CHAA|JAA|JHAA|NYAA|TTAA|TTHAA|DDAA",
    "11114 CHAKMA LETTER |DDHAA|NNAA|TAA|THAA|DAA|DHAA|NAA|PAA|PHAA|BAA|BHAA|MAA|YYAA|YAA|RAA|LAA|WAA|SAA|HAA",
    "11127 CHAKMA VOWEL SIGN |A|I|II|U|UU|E|AI|O|AU|OI;11131 CHAKMA |O MARK|AU MARK|VIRAMA|MAAYYAA",
    "11136 CHAKMA DIGIT |ZERO|ONE|TWO|THREE|FOUR|FIVE|SIX|SEVEN|EIGHT|NINE;11140 CHAKMA SECTION |MARK",
    "11141 CHAKMA |DANDA|DOUBLE DANDA|QUESTION MARK|LETTER LHAA|VOWEL SIGN AA|VOWEL SIGN EI|LETTER VAA",
    "11150 MAHAJANI LETTER |A|I|U|E|O|KA|KHA|GA|GHA|CA|CHA|JA",
    "1115c MAHAJANI LETTER |JHA|NYA|TTA|TTHA|DDA|DDHA|NNA|TA|THA|DA|DHA|NA|PA|PHA|BA|BHA|MA|RA|LA|VA|SA|HA|RRA",
    "11173 MAHAJANI |SIGN NUKTA|ABBREVIATION SIGN|SECTION MARK|LIGATURE SHRI",
    "11180 SHARADA SIGN |CANDRABINDU|ANUSVARA|VISARGA;11183 SHARADA LETTER |A|AA|I|II|U|UU",
    "11189 SHARADA LETTER VOCALIC |R|RR|L|LL;1118d SHARADA LETTER |E|AI|O|AU|KA|KHA|GA|GHA|NGA|CA|CHA|JA|JHA|NYA|TTA",
    "1119c SHARADA LETTER |TTHA|DDA|DDHA|NNA|TA|THA|DA|DHA|NA|PA|PHA|BA|BHA|MA|YA|RA|LA|LLA|VA|SHA|SSA|SA|HA",
    "111b3 SHARADA VOWEL SIGN |AA|I|II|U|UU|VOCALIC R|VOCALIC RR|VOCALIC L|VOCALIC LL|E|AI|O|AU",
    "111c0 SHARADA |SIGN VIRAMA|SIGN AVAGRAHA|SIGN JIHVAMULIYA|SIGN UPADHMANIYA|OM",
    "111c5 SHARADA |DANDA|DOUBLE DANDA|ABBREVIATION SIGN|SEPARATOR|SANDHI MARK|SIGN NUKTA|VOWEL MODIFIER MARK",
    "111cc SHARADA |EXTRA SHORT VOWEL MARK|SUTRA MARK|VOWEL SIGN PRISHTHAMATRA E|SIGN INVERTED CANDRABINDU",
    "111d0 SHARADA DIGIT |ZERO|ONE|TWO|THREE|FOUR|FIVE|SIX|SEVEN|EIGHT|NINE",
    "111da SHARADA |EKAM|SIGN SIDDHAM|HEADSTROKE|CONTINUATION SIGN|SECTION MARK-1|SECTION MARK-2",
    "111e1 SINHALA ARCHAIC DIGIT |ONE|TWO|THREE|FOUR|FIVE|SIX|SEVEN|EIGHT|NINE",
    "111ea SINHALA ARCHAIC NUMBER |TEN|TWENTY|THIRTY|FORTY|FIFTY|SIXTY|SEVENTY|EIGHTY|NINETY",
    "111f3 SINHALA ARCHAIC NUMBER ONE |HUNDRED|THOUSAND",
    "11200 KHOJKI LETTER |A|AA|I|U|E|AI|O|AU|KA|KHA|GA|GGA|GHA|NGA|CA|CHA|JA|JJA;11213 KHOJKI LETTER |NYA|TTA",
    "11215 KHOJKI LETTER |TTHA|DDA|DDHA|NNA|TA|THA|DA|DDDA|DHA|NA|PA|PHA|BA|BBA|BHA|MA|YA|RA|LA|VA|SA|HA|LLA",
    "1122c KHOJKI VOWEL SIGN |AA|I|II|U|E|AI|O|AU;11234 KHOJKI SIGN |ANUSVARA|VIRAMA|NUKTA|SHADDA;11238 KHOJKI |DANDA",
    "11239 KHOJKI |DOUBLE DANDA|WORD SEPARATOR|SECTION MARK|DOUBLE SECTION MARK|ABBREVIATION SIGN|SIGN SUKUN",
    "11280 MULTANI LETTER |A|I|U|E|KA|KHA|GA;11288 MULTANI LETTER |GHA;1128a MULTANI LETTER |CA|CHA|JA|JJA",
    "1128f MULTANI LETTER |NYA|TTA|TTHA|DDA|DDDA|DDHA|NNA|TA|THA|DA|DHA|NA|PA|PHA|BA",
    "1129f MULTANI LETTER |BHA|MA|YA|RA|LA|VA|SA|HA|RRA|RHA;112a9 MULTANI SECTION |MARK",
    "112b0 KHUDAWADI LETTER |A|AA|I|II|U|UU|E|AI|O|AU|KA|KHA|GA|GGA|GHA|NGA|CA|CHA|JA|JJA|JHA|NYA|TTA|TTHA",
    "112c8 KHUDAWADI LETTER |DDA|DDDA|RRA|DDHA|NNA|TA|THA|DA|DHA|NA|PA|PHA|BA|BBA|BHA|MA|YA|RA|LA|VA|SHA|SA|HA",
    "112df KHUDAWADI SIGN |ANUSVARA;112e0 KHUDAWADI VOWEL SIGN |AA|I|II|U|UU|E|AI|O|AU",
    "112e9 KHUDAWADI SIGN |NUKTA|VIRAMA;112f0 KHUDAWADI DIGIT |ZERO|ONE|TWO|THREE|FOUR|FIVE|SIX|SEVEN|EIGHT|NINE",
    "11300 GRANTHA SIGN |COMBINING ANUSVARA ABOVE|CANDRABINDU|ANUSVARA|VISARGA",
    "11305 GRANTHA LETTER |A|AA|I|II|U|UU|VOCALIC R|VOCALIC L;1130f GRANTHA LETTER |EE|AI",
    "11313 GRANTHA LETTER |OO|AU|KA|KHA|GA|GHA|NGA|CA|CHA|JA|JHA|NYA|TTA|TTHA|DDA|DDHA|NNA|TA|THA|DA|DHA|NA",
    "1132a GRANTHA LETTER |PA|PHA|BA|BHA|MA|YA|RA;11332 GRANTHA LETTER |LA|LLA;11335 GRANTHA LETTER |VA|SHA|SSA|SA|HA",
    "1133b COMBINING BINDU |BELOW;1133c GRANTHA SIGN |NUKTA|AVAGRAHA",
    "1133e GRANTHA VOWEL SIGN |AA|I|II|U|UU|VOCALIC R|VOCALIC RR;11347 GRANTHA VOWEL SIGN |EE|AI",
    "1134b GRANTHA |VOWEL SIGN OO|VOWEL SIGN AU|SIGN VIRAMA;11350 GRANTHA |OM;11357 GRANTHA AU LENGTH |MARK",
    "1135d GRANTHA SIGN |PLUTA;1135e GRANTHA LETTER |VEDIC ANUSVARA|VEDIC DOUBLE ANUSVARA|VOCALIC RR|VOCALIC LL",
    "11362 GRANTHA VOWEL SIGN VOCALIC |L|LL;11366 COMBINING GRANTHA DIGIT |ZERO|ONE|TWO|THREE|FOUR|FIVE|SIX",
    "11370 COMBINING GRANTHA LETTER |A|KA|NA|VI|PA;11400 NEWA LETTER |A|AA|I|II|U|UU",
    "11406 NEWA LETTER VOCALIC |R|RR|L|LL",
    "1140a NEWA LETTER |E|AI|O|AU|KA|KHA|GA|GHA|NGA|NGHA|CA|CHA|JA|JHA|NYA|NYHA|TTA|TTHA|DDA",
    "1141d NEWA LETTER |DDHA|NNA|TA|THA|DA|DHA|NA|NHA|PA|PHA|BA|BHA|MA|MHA|YA|RA|RHA|LA|LHA|WA|SHA|SSA|SA|HA",
    "11435 NEWA VOWEL SIGN |AA|I|II|U|UU|VOCALIC R|VOCALIC RR|VOCALIC L|VOCALIC LL|E|AI|O|AU",
    "11442 NEWA SIGN |VIRAMA|CANDRABINDU|ANUSVARA|VISARGA|NUKTA|AVAGRAHA|FINAL ANUSVARA",
    "11449 NEWA |OM|SIDDHI|DANDA|DOUBLE DANDA|COMMA|GAP FILLER|ABBREVIATION SIGN",
    "11450 NEWA DIGIT |ZERO|ONE|TWO|THREE|FOUR|FIVE|SIX|SEVEN|EIGHT|NINE;1145a NEWA |DOUBLE COMMA|PLACEHOLDER MARK",
    "1145d NEWA |INSERTION SIGN|SANDHI MARK|LETTER VEDIC ANUSVARA|SIGN JIHVAMULIYA|SIGN UPADHMANIYA",
    "11480 TIRHUTA |ANJI;11481 TIRHUTA LETTER |A|AA|I|II|U|UU;11487 TIRHUTA LETTER VOCALIC |R|RR|L|LL",
    "1148b TIRHUTA LETTER |E|AI|O|AU|KA|KHA|GA|GHA|NGA|CA|CHA|JA|JHA|NYA",
    "11499 TIRHUTA LETTER |TTA|TTHA|DDA|DDHA|NNA|TA|THA|DA|DHA|NA|PA|PHA|BA|BHA|MA|YA|RA|LA|VA|SHA|SSA|SA|HA",
    "114b0 TIRHUTA VOWEL SIGN |AA",
    "114b1 TIRHUTA VOWEL SIGN |I|II|U|UU|VOCALIC R|VOCALIC RR|VOCALIC L|VOCALIC LL|E|SHORT E|AI|O|SHORT O|AU",
    "114bf TIRHUTA SIGN |CANDRABINDU|ANUSVARA|VISARGA|VIRAMA|NUKTA|AVAGRAHA;114c5 TIRHUTA |GVANG|ABBREVIATION SIGN|OM",
    "114d0 TIRHUTA DIGIT |ZERO|ONE|TWO|THREE|FOUR|FIVE|SIX|SEVEN|EIGHT|NINE;11580 SIDDHAM LETTER |A|AA|I|II|U|UU",
    "11586 SIDDHAM LETTER VOCALIC |R|RR|L|LL;1158a SIDDHAM LETTER |E|AI|O|AU|KA|KHA|GA|GHA|NGA|CA|CHA|JA|JHA|NYA",
    "11598 SIDDHAM LETTER |TTA|TTHA|DDA|DDHA|NNA|TA|THA|DA|DHA|NA|PA|PHA|BA|BHA|MA|YA|RA|LA|VA|SHA|SSA|SA|HA",
    "115af SIDDHAM VOWEL SIGN |AA|I|II|U|UU|VOCALIC R|VOCALIC RR;115b8 SIDDHAM VOWEL SIGN |E|AI|O|AU",
    "115bc SIDDHAM SIGN |CANDRABINDU|ANUSVARA|VISARGA|VIRAMA|NUKTA|SIDDHAM",
    "115c2 SIDDHAM |DANDA|DOUBLE DANDA|SEPARATOR DOT|SEPARATOR BAR;115c6 SIDDHAM REPETITION MARK-|1|2|3",
    "115c9 SIDDHAM END OF TEXT |MARK;115ca SIDDHAM SECTION MARK WITH TRIDENT AND |U-SHAPED ORNAMENTS|DOTTED CRESCENTS",
    "115cc SIDDHAM SECTION MARK WITH RAYS AND DOTTED |CRESCENTS|DOUBLE CRESCENTS|TRIPLE CRESCENTS",
    "115cf SIDDHAM SECTION MARK DOUBLE |RING|RING WITH RAYS",
    "115d1 SIDDHAM SECTION MARK WITH |DOUBLE CRESCENTS|TRIPLE CRESCENTS|QUADRUPLE CRESCENTS|SEPTUPLE CRESCENTS",
    "115d5 SIDDHAM SECTION MARK WITH CIRCLES AND |RAYS|TWO ENCLOSURES|FOUR ENCLOSURES",
    "115d8 SIDDHAM LETTER |THREE-CIRCLE ALTERNATE I|TWO-CIRCLE ALTERNATE I|TWO-CIRCLE ALTERNATE II|ALTERNATE U",
    "115dc SIDDHAM VOWEL SIGN ALTERNATE |U|UU;11600 MODI LETTER |A|AA|I|II|U|UU;11606 MODI LETTER VOCALIC |R|RR|L|LL",
    "1160a MODI LETTER |E|AI|O|AU|KA|KHA|GA|GHA|NGA|CA|CHA|JA|JHA|NYA",
    "11618 MODI LETTER |TTA|TTHA|DDA|DDHA|NNA|TA|THA|DA|DHA|NA|PA|PHA|BA|BHA|MA|YA|RA|LA|VA|SHA|SSA|SA|HA|LLA",
    "11630 MODI VOWEL SIGN |AA|I|II|U|UU|VOCALIC R|VOCALIC RR|VOCALIC L|VOCALIC LL|E|AI|O|AU",
    "1163d MODI SIGN |ANUSVARA|VISARGA|VIRAMA|ARDHACANDRA;11641 MODI |DANDA|DOUBLE DANDA|ABBREVIATION SIGN|SIGN HUVA",
    "11650 MODI DIGIT |ZERO|ONE|TWO|THREE|FOUR|FIVE|SIX|SEVEN|EIGHT|NINE",
    "11660 MONGOLIAN |BIRGA WITH ORNAMENT|ROTATED BIRGA",
    "11662 MONGOLIAN |DOUBLE BIRGA WITH ORNAMENT|TRIPLE BIRGA WITH ORNAMENT|BIRGA WITH DOUBLE ORNAMENT",
    "11665 MONGOLIAN ROTATED BIRGA WITH |ORNAMENT|DOUBLE ORNAMENT",
    "11667 MONGOLIAN INVERTED |BIRGA|BIRGA WITH DOUBLE ORNAMENT",
    "11669 MONGOLIAN SWIRL |BIRGA|BIRGA WITH ORNAMENT|BIRGA WITH DOUBLE ORNAMENT",
    "1166c MONGOLIAN TURNED SWIRL BIRGA WITH DOUBLE |ORNAMENT",
    "11680 TAKRI LETTER |A|AA|I|II|U|UU|E|AI|O|AU|KA|KHA|GA|GHA|NGA|CA|CHA|JA|JHA",
    "11693 TAKRI LETTER |NYA|TTA|TTHA|DDA|DDHA|NNA|TA|THA|DA|DHA|NA|PA|PHA|BA|BHA|MA|YA|RA|LA|VA|SHA|SA|HA|RRA",
    "116ab TAKRI SIGN |ANUSVARA|VISARGA;116ad TAKRI VOWEL SIGN |AA|I|II|U|UU|E|AI|O|AU",
    "116b6 TAKRI |SIGN VIRAMA|SIGN NUKTA|LETTER ARCHAIC KHA|ABBREVIATION SIGN",
    "116c0 TAKRI DIGIT |ZERO|ONE|TWO|THREE|FOUR|FIVE|SIX|SEVEN|EIGHT|NINE",
    "11700 AHOM LETTER |KA|KHA|NGA|NA|TA|ALTERNATE TA|PA",
    "11707 AHOM LETTER |PHA|BA|MA|JA|CHA|THA|RA|LA|SA|NYA|HA|A|DA|DHA|GA|ALTERNATE GA|GHA|BHA|JHA|ALTERNATE BA",
    "1171d AHOM CONSONANT SIGN MEDIAL |LA|RA|LIGATING RA;11720 AHOM VOWEL SIGN |A|AA|I|II|U|UU|E|AW|O|AI|AM",
    "1172b AHOM SIGN |KILLER;11730 AHOM DIGIT |ZERO|ONE|TWO|THREE|FOUR|FIVE|SIX|SEVEN|EIGHT|NINE",
    "1173a AHOM |NUMBER TEN|NUMBER TWENTY|SIGN SMALL SECTION|SIGN SECTION|SIGN RULAI|SYMBOL VI",
    "11740 AHOM LETTER |CA|TTA|TTHA|DDA|DDHA|NNA|LLA",
    "11800 DOGRA LETTER |A|AA|I|II|U|UU|E|AI|O|AU|KA|KHA|GA|GHA|NGA|CA|CHA|JA|JHA|NYA",
    "11814 DOGRA LETTER |TTA|TTHA|DDA|DDHA|NNA|TA|THA|DA|DHA|NA|PA|PHA|BA|BHA|MA|YA|RA|LA|VA|SHA|SSA|SA|HA|RRA",
    "1182c DOGRA VOWEL SIGN |AA|I|II|U|UU|VOCALIC R|VOCALIC RR|E|AI|O|AU",
    "11837 DOGRA SIGN |ANUSVARA|VISARGA|VIRAMA|NUKTA;1183b DOGRA ABBREVIATION |SIGN",
    "118a0 WARANG CITI CAPITAL LETTER |NGAA|A|WI|YU|YA|YO|II|UU|E|O|ANG|GA|KO|ENY",
    "118ae WARANG CITI CAPITAL LETTER |YUJ|UC|ENN|ODD|TTE|NUNG|DA|AT|AM|BU|PU|HIYO|HOLO|HORR|HAR|SSUU|SII|VIYO",
    "118c0 WARANG CITI SMALL LETTER |NGAA|A|WI|YU|YA|YO|II|UU|E|O|ANG|GA|KO|ENY",
    "118ce WARANG CITI SMALL LETTER |YUJ|UC|ENN|ODD|TTE|NUNG|DA|AT|AM|BU|PU|HIYO|HOLO|HORR|HAR|SSUU|SII|VIYO",
    "118e0 WARANG CITI DIGIT |ZERO|ONE|TWO|THREE|FOUR|FIVE|SIX|SEVEN|EIGHT|NINE",
    "118ea WARANG CITI NUMBER |TEN|TWENTY|THIRTY|FORTY|FIFTY|SIXTY|SEVENTY|EIGHTY|NINETY;118ff WARANG CITI |OM",
    "11900 DIVES AKURU LETTER |A|AA|I|II|U|UU|E;11909 DIVES AKURU LETTER |O",
    "1190c DIVES AKURU LETTER |KA|KHA|GA|GHA|NGA|CA|CHA|JA;11915 DIVES AKURU LETTER |NYA|TTA",
    "11918 DIVES AKURU LETTER |DDA",
    "11919 DIVES AKURU LETTER |DDHA|NNA|TA|THA|DA|DHA|NA|PA|PHA|BA|BHA|MA|YA|YYA|RA|LA|VA|SHA|SSA|SA|HA|LLA|ZA",
    "11930 DIVES AKURU VOWEL SIGN |AA|I|II|U|UU|E;11937 DIVES AKURU VOWEL SIGN |AI|O",
    "1193b DIVES AKURU |SIGN ANUSVARA|SIGN CANDRABINDU|SIGN HALANTA|VIRAMA|PREFIXED NASAL SIGN",
    "11940 DIVES AKURU |MEDIAL YA|INITIAL RA|MEDIAL RA|SIGN NUKTA|DOUBLE DANDA|GAP FILLER|END OF TEXT MARK",
    "11950 DIVES AKURU DIGIT |ZERO|ONE|TWO|THREE|FOUR|FIVE|SIX|SEVEN|EIGHT|NINE",
    "119a0 NANDINAGARI LETTER |A|AA|I|II|U|UU|VOCALIC R|VOCALIC RR",
    "119aa NANDINAGARI LETTER |E|AI|O|AU|KA|KHA|GA|GHA|NGA|CA|CHA|JA|JHA|NYA|TTA|TTHA|DDA",
    "119bb NANDINAGARI LETTER |DDHA|NNA|TA|THA|DA|DHA|NA|PA|PHA|BA|BHA|MA|YA|RA|LA|VA|SHA|SSA|SA|HA|LLA|RRA",
    "119d1 NANDINAGARI VOWEL SIGN |AA|I|II|U|UU|VOCALIC R|VOCALIC RR;119da NANDINAGARI VOWEL SIGN |E|AI|O|AU",
    "119de NANDINAGARI SIGN |ANUSVARA|VISARGA|VIRAMA|AVAGRAHA|SIDDHAM",
    "119e3 NANDINAGARI |HEADSTROKE|VOWEL SIGN PRISHTHAMATRA E;11a00 ZANABAZAR SQUARE LETTER |A",
    "11a01 ZANABAZAR SQUARE VOWEL SIGN |I|UE|U|E|OE|O|AI|AU|REVERSED I;11a0a ZANABAZAR SQUARE VOWEL LENGTH |MARK",
    "11a0b ZANABAZAR SQUARE LETTER |KA|KHA|GA|GHA|NGA|CA|CHA|JA|NYA|TTA|TTHA|DDA|DDHA|NNA|TA|THA|DA|DHA|NA|PA",
    "11a1f ZANABAZAR SQUARE LETTER |PHA|BA|BHA|MA|TSA|TSHA|DZA|DZHA|ZHA|ZA|-A|YA|RA|LA|VA|SHA|SSA|SA|HA|KSSA",
    "11a33 ZANABAZAR SQUARE |FINAL CONSONANT MARK|SIGN VIRAMA|SIGN CANDRABINDU|SIGN CANDRABINDU WITH ORNAMENT",
    "11a37 ZANABAZAR SQUARE |SIGN CANDRA WITH ORNAMENT|SIGN ANUSVARA|SIGN VISARGA|CLUSTER-INITIAL LETTER RA",
    "11a3b ZANABAZAR SQUARE CLUSTER-FINAL LETTER |YA|RA|LA|VA",
    "11a3f ZANABAZAR SQUARE |INITIAL HEAD MARK|CLOSING HEAD MARK",
    "11a41 ZANABAZAR SQUARE MARK |TSHEG|SHAD|DOUBLE SHAD|LONG TSHEG",
    "11a45 ZANABAZAR SQUARE |INITIAL DOUBLE-LINED HEAD MARK|CLOSING DOUBLE-LINED HEAD MARK|SUBJOINER",
    "11a50 SOYOMBO LETTER |A;11a51 SOYOMBO VOWEL SIGN |I|UE|U|E|O|OE|AI|AU|VOCALIC R|VOCALIC L",
    "11a5b SOYOMBO VOWEL LENGTH |MARK",
    "11a5c SOYOMBO LETTER |KA|KHA|GA|GHA|NGA|CA|CHA|JA|JHA|NYA|TTA|TTHA|DDA|DDHA|NNA|TA|THA",
    "11a6d SOYOMBO LETTER |DA|DHA|NA|PA|PHA|BA|BHA|MA|TSA|TSHA|DZA|ZHA|ZA|-A|YA|RA|LA|VA|SHA|SSA|SA|HA|KSSA",
    "11a84 SOYOMBO SIGN |JIHVAMULIYA|UPADHMANIYA;11a86 SOYOMBO CLUSTER-INITIAL LETTER |RA|LA|SHA|SA",
    "11a8a SOYOMBO FINAL CONSONANT SIGN |G|K|NG|D|N|B|M|R|L|SH|S|-A",
    "11a96 SOYOMBO |SIGN ANUSVARA|SIGN VISARGA|GEMINATION MARK|SUBJOINER",
    "11a9a SOYOMBO MARK |TSHEG|SHAD|DOUBLE SHAD|PLUTA",
    "11a9e SOYOMBO HEAD MARK WITH MOON AND |SUN AND TRIPLE FLAME|SUN AND FLAME|SUN;11aa1 SOYOMBO TERMINAL MARK-|1|2",
    "11ab0 CANADIAN SYLLABICS NATTILIK |HI|HII|HO|HOO|HA|HAA|SHRI|SHRII|SHRO|SHROO|SHRA|SHRAA",
    "11abc CANADIAN SYLLABICS |SPE|SPI|SPO|SPA;11ac0 PAU CIN HAU LETTER |PA|KA",
    "11ac2 PAU CIN HAU LETTER |LA|MA|DA|ZA|VA|NGA|HA|GA|KHA|SA|BA|CA|TA|THA|NA|PHA|RA|FA|CHA|A|E|I|O|U|UA|IA",
    "11adc PAU CIN HAU LETTER FINAL |P|K|T|M|N|L|W|NG|Y",
    "11ae5 PAU CIN HAU |RISING TONE LONG|RISING TONE|SANDHI GLOTTAL STOP",
    "11ae8 PAU CIN HAU RISING TONE |LONG FINAL|FINAL",
    "11aea PAU CIN HAU SANDHI |GLOTTAL STOP FINAL|TONE LONG|TONE|TONE LONG FINAL|TONE FINAL",
    "11aef PAU CIN HAU |MID-LEVEL TONE|GLOTTAL STOP VARIANT|MID-LEVEL TONE LONG FINAL|MID-LEVEL TONE FINAL",
    "11af3 PAU CIN HAU LOW-FALLING |TONE LONG|TONE",
    "11af5 PAU CIN HAU |GLOTTAL STOP|LOW-FALLING TONE LONG FINAL|LOW-FALLING TONE FINAL|GLOTTAL STOP FINAL",
    "11c00 BHAIKSUKI LETTER |A|AA|I|II|U|UU|VOCALIC R|VOCALIC RR|VOCALIC L",
    "11c0a BHAIKSUKI LETTER |E|AI|O|AU|KA|KHA|GA|GHA|NGA|CA|CHA|JA|JHA|NYA",
    "11c18 BHAIKSUKI LETTER |TTA|TTHA|DDA|DDHA|NNA|TA|THA|DA|DHA|NA|PA|PHA|BA|BHA|MA|YA|RA|LA|VA|SHA|SSA|SA|HA",
    "11c2f BHAIKSUKI VOWEL SIGN |AA|I|II|U|UU|VOCALIC R|VOCALIC RR|VOCALIC L;11c38 BHAIKSUKI VOWEL SIGN |E|AI|O|AU",
    "11c3c BHAIKSUKI SIGN |CANDRABINDU|ANUSVARA|VISARGA|VIRAMA|AVAGRAHA",
    "11c41 BHAIKSUKI |DANDA|DOUBLE DANDA|WORD SEPARATOR|GAP FILLER-1|GAP FILLER-2",
    "11c50 BHAIKSUKI DIGIT |ZERO|ONE|TWO|THREE|FOUR|FIVE|SIX|SEVEN|EIGHT|NINE",
    "11c5a BHAIKSUKI NUMBER |ONE|TWO|THREE|FOUR|FIVE|SIX|SEVEN|EIGHT|NINE|TEN|TWENTY|THIRTY|FORTY|FIFTY|SIXTY",
    "11c69 BHAIKSUKI |NUMBER SEVENTY|NUMBER EIGHTY|NUMBER NINETY|HUNDREDS UNIT MARK",
    "11c70 MARCHEN |HEAD MARK|MARK SHAD;11c72 MARCHEN LETTER |KA|KHA|GA|NGA|CA",
    "11c77 MARCHEN LETTER |CHA|JA|NYA|TA|THA|DA|NA|PA|PHA|BA|MA|TSA|TSHA|DZA|WA|ZHA|ZA|-A|YA|RA|LA|SHA|SA|HA|A",
    "11c92 MARCHEN SUBJOINED LETTER |KA",
    "11c93 MARCHEN SUBJOINED LETTER |KHA|GA|NGA|CA|CHA|JA|NYA|TA|THA|DA|NA|PA|PHA|BA|MA|TSA|TSHA|DZA|WA|ZHA|ZA",
    "11ca9 MARCHEN SUBJOINED LETTER |YA|RA|LA|SHA|SA|HA|A;11cb0 MARCHEN VOWEL SIGN |AA|I|U|E|O",
    "11cb5 MARCHEN SIGN |ANUSVARA|CANDRABINDU;11d00 MASARAM GONDI LETTER |A|AA|I|II|U|UU|E",
    "11d08 MASARAM GONDI LETTER |AI|O",
    "11d0b MASARAM GONDI LETTER |AU|KA|KHA|GA|GHA|NGA|CA|CHA|JA|JHA|NYA|TTA|TTHA|DDA|DDHA|NNA",
    "11d1b MASARAM GONDI LETTER |TA|THA|DA|DHA|NA|PA|PHA|BA|BHA|MA|YA|RA|LA|VA|SHA|SSA|SA|HA|LLA|KSSA|JNYA|TRA",
    "11d31 MASARAM GONDI VOWEL SIGN |AA|I|II|U|UU|VOCALIC R;11d3a MASARAM GONDI VOWEL SIGN |E",
    "11d3c MASARAM GONDI VOWEL SIGN |AI|O;11d3f MASARAM GONDI VOWEL SIGN |AU",
    "11d40 MASARAM GONDI |SIGN ANUSVARA|SIGN VISARGA|SIGN NUKTA|SIGN CANDRA|SIGN HALANTA|VIRAMA|REPHA|RA-KARA",
    "11d50 MASARAM GONDI DIGIT |ZERO|ONE|TWO|THREE|FOUR|FIVE|SIX|SEVEN|EIGHT|NINE",
    "11d60 GUNJALA GONDI LETTER |A|AA|I|II|U|UU;11d67 GUNJALA GONDI LETTER |EE|AI",
    "11d6a GUNJALA GONDI LETTER |OO|AU|YA|VA|BA|BHA|MA|KA|KHA|TA|THA",
    "11d75 GUNJALA GONDI LETTER |LA|GA|GHA|DA|DHA|NA|CA|CHA|TTA|TTHA|LLA|JA|JHA|DDA|DDHA|NGA|PA|PHA|HA|RA|SA",
    "11d8a GUNJALA GONDI VOWEL SIGN |AA|I|II|U|UU;11d90 GUNJALA GONDI VOWEL SIGN |EE|AI",
    "11d93 GUNJALA GONDI |VOWEL SIGN OO|VOWEL SIGN AU|SIGN ANUSVARA|SIGN VISARGA|VIRAMA|OM",
    "11da0 GUNJALA GONDI DIGIT |ZERO|ONE|TWO|THREE|FOUR|FIVE|SIX|SEVEN|EIGHT|NINE",
    "11ee0 MAKASAR LETTER |KA|GA|NGA|PA|BA|MA|TA|DA|NA|CA|JA|NYA|YA|RA|LA|VA|SA|A;11ef2 MAKASAR |ANGKA",
    "11ef3 MAKASAR VOWEL SIGN |I|U|E|O;11ef7 MAKASAR |PASSIMBANG|END OF SECTION;11fb0 LISU LETTER |YHA",
    "11fc0 TAMIL FRACTION ONE |THREE-HUNDRED-AND-TWENTIETH|ONE-HUNDRED-AND-SIXTIETH|EIGHTIETH|SIXTY-FOURTH",
    "11fc4 TAMIL FRACTION |ONE FORTIETH|ONE THIRTY-SECOND|THREE EIGHTIETHS|THREE SIXTY-FOURTHS",
    "11fc8 TAMIL FRACTION ONE |TWENTIETH|SIXTEENTH-1|SIXTEENTH-2|TENTH|EIGHTH",
    "11fcd TAMIL FRACTION THREE |TWENTIETHS|SIXTEENTHS",
    "11fcf TAMIL FRACTION |ONE FIFTH|ONE QUARTER|ONE HALF-1|ONE HALF-2|THREE QUARTERS|DOWNSCALING FACTOR KIIZH",
    "11fd5 TAMIL SIGN |NEL|CEVITU|AAZHAAKKU|UZHAKKU",
    "11fd9 TAMIL SIGN |MUUVUZHAKKU|KURUNI|PATHAKKU|MUKKURUNI|KAACU|PANAM|PON|VARAAKAN|PAARAM|KUZHI|VELI",
    "11fe4 TAMIL |WET CULTIVATION SIGN|DRY CULTIVATION SIGN|LAND SIGN|SALT PAN SIGN",
    "11fe8 TAMIL TRADITIONAL |CREDIT SIGN|NUMBER SIGN",
    "11fea TAMIL |CURRENT SIGN|AND ODD SIGN|SPENT SIGN|TOTAL SIGN|IN POSSESSION SIGN|STARTING FROM SIGN",
    "11ff0 TAMIL SIGN |MUTHALIYA|VAKAIYARAA;11fff |TAMIL PUNCTUATION END OF TEXT|CUNEIFORM SIGN A",
    "12001 CUNEIFORM SIGN A TIMES |A|BAD|GAN2 TENU|HA|IGI|LAGAR GUNU|MUSH|SAG;12009 CUNEIFORM SIGN |A2|AB",
    "1200b CUNEIFORM SIGN AB TIMES |ASH2|DUN3 GUNU|GAL|GAN2 TENU|HA|IGI GUNU|IMIN|LAGAB|SHESH|U PLUS U PLUS U",
    "12015 CUNEIFORM SIGN |AB GUNU|AB2;12017 CUNEIFORM SIGN AB2 TIMES |BALAG|GAN2 TENU|ME PLUS EN|SHA3|TAK4",
    "1201c CUNEIFORM SIGN |AD|AK|AK TIMES ERIN2|AK TIMES SHITA PLUS GISH|AL",
    "12021 CUNEIFORM SIGN AL TIMES |AL|DIM2|GISH|HA|KAD3|KI|SHE|USH",
    "12029 CUNEIFORM SIGN |ALAN|ALEPH|AMAR|AMAR TIMES SHE|AN|AN OVER AN|AN THREE TIMES",
    "12030 CUNEIFORM SIGN AN PLUS NAGA |OPPOSING AN PLUS NAGA|SQUARED",
    "12032 CUNEIFORM SIGN |ANSHE|APIN|ARAD|ARAD TIMES KUR|ARKAB|ASAL2|ASH",
    "12039 CUNEIFORM SIGN ASH |ZIDA TENU|KABA TENU|OVER ASH TUG2 OVER TUG2 TUG2 OVER TUG2 PAP",
    "1203c CUNEIFORM SIGN ASH OVER ASH OVER |ASH|ASH CROSSING ASH OVER ASH OVER ASH",
    "1203e CUNEIFORM SIGN |ASH2|ASHGAB|BA|BAD|BAG3|BAHAR2|BAL|BAL OVER BAL|BALAG|BAR",
    "12048 CUNEIFORM SIGN |BARA2|BI|BI TIMES A|BI TIMES GAR|BI TIMES IGI GUNU|BU|BU OVER BU AB|BU OVER BU UN",
    "12050 CUNEIFORM SIGN |BU CROSSING BU|BULUG|BULUG OVER BULUG|BUR|BUR2|DA|DAG|DAG KISIM5 TIMES A PLUS MASH",
    "12058 CUNEIFORM SIGN DAG KISIM5 TIMES |AMAR|BALAG|BI|GA|GA PLUS MASH|GI|GIR2|GUD|HA|IR|IR PLUS LU|KAK",
    "12064 CUNEIFORM SIGN DAG KISIM5 TIMES |LA|LU|LU PLUS MASH2|LUM|NE|PAP PLUS PAP|SI|TAK4|U2 PLUS GIR2|USH",
    "1206e CUNEIFORM SIGN |DAM|DAR|DARA3|DARA4|DI|DIB|DIM|DIM TIMES SHE|DIM2|DIN|DIN KASKAL U GUNU DISH",
    "12079 CUNEIFORM SIGN |DISH|DU|DU OVER DU|DU GUNU|DU SHESHIG|DUB|DUB TIMES ESH2|DUB2|DUG|DUGUD|DUH",
    "12084 CUNEIFORM SIGN |DUN|DUN3|DUN3 GUNU|DUN3 GUNU GUNU|DUN4|DUR2|E|E TIMES PAP|E OVER E NUN OVER NUN|E2",
    "1208e CUNEIFORM SIGN E2 TIMES |A PLUS HA PLUS DA|GAR|MI|SAL|SHE|U",
    "12094 CUNEIFORM SIGN |EDIN|EGIR|EL|EN|EN TIMES GAN2|EN TIMES GAN2 TENU",
    "1209a CUNEIFORM SIGN |EN TIMES ME|EN CROSSING EN|EN OPPOSING EN|EN SQUARED|EREN|ERIN2|ESH2|EZEN",
    "120a2 CUNEIFORM SIGN EZEN TIMES |A|A PLUS LAL|A PLUS LAL TIMES LAL|AN|BAD|DUN3 GUNU|DUN3 GUNU GUNU|HA",
    "120aa CUNEIFORM SIGN EZEN TIMES |HA GUNU|IGI GUNU|KASKAL|KASKAL SQUARED|KU3|LA|LAL TIMES LAL|LI|LU|U2|UD",
    "120b5 CUNEIFORM SIGN |GA|GA GUNU|GA2;120b8 CUNEIFORM SIGN GA2 TIMES A PLUS |DA PLUS HA|HA|IGI",
    "120bb CUNEIFORM SIGN GA2 TIMES |AB2 TENU PLUS TAB|AN|ASH|ASH2 PLUS GAL|BAD|BAR PLUS RA|BUR",
    "120c2 CUNEIFORM SIGN GA2 TIMES |BUR PLUS RA|DA|DI|DIM TIMES SHE|DUB|EL|EL PLUS LA|EN|EN TIMES GAN2 TENU",
    "120cb CUNEIFORM SIGN GA2 TIMES |GAN2 TENU|GAR|GI|GI4|GI4 PLUS A|GIR2 PLUS SU|HA PLUS LU PLUS ESH2",
    "120d2 CUNEIFORM SIGN GA2 TIMES |HAL|HAL PLUS LA|HI PLUS LI|HUB2|IGI GUNU|ISH PLUS HU PLUS ASH",
    "120d8 CUNEIFORM SIGN GA2 TIMES |KAK|KASKAL|KID|KID PLUS LAL|KU3 PLUS AN|LA|ME PLUS EN|MI|NUN",
    "120e1 CUNEIFORM SIGN GA2 TIMES |NUN OVER NUN|PA|SAL|SAR|SHE|SHE PLUS TUR|SHID|SUM|TAK4|U|UD|UD PLUS DU",
    "120ed CUNEIFORM SIGN |GA2 OVER GA2|GABA|GABA CROSSING GABA",
    "120f0 CUNEIFORM SIGN |GAD|GAD OVER GAD GAR OVER GAR|GAL|GAL GAD OVER GAD GAR OVER GAR|GALAM|GAM|GAN|GAN2",
    "120f8 CUNEIFORM SIGN GAN2 |TENU|OVER GAN2|CROSSING GAN2",
    "120fb CUNEIFORM SIGN |GAR|GAR3|GASHAN|GESHTIN|GESHTIN TIMES KUR|GI|GI TIMES E|GI TIMES U",
    "12103 CUNEIFORM SIGN |GI CROSSING GI|GI4|GI4 OVER GI4|GI4 CROSSING GI4|GIDIM|GIR2|GIR2 GUNU|GIR3",
    "1210b CUNEIFORM SIGN GIR3 TIMES |A PLUS IGI|GAN2 TENU|IGI|LU PLUS IGI|PA;12110 CUNEIFORM SIGN |GISAL|GISH",
    "12112 CUNEIFORM SIGN |GISH CROSSING GISH|GISH TIMES BAD|GISH TIMES TAK4|GISH TENU|GU|GU CROSSING GU|GU2",
    "12119 CUNEIFORM SIGN GU2 TIMES |KAK|KAK TIMES IGI GUNU|NUN|SAL PLUS TUG2",
    "1211d CUNEIFORM SIGN |GU2 GUNU|GUD|GUD TIMES A PLUS KUR|GUD TIMES KUR|GUD OVER GUD LUGAL",
    "12122 CUNEIFORM SIGN |GUL|GUM|GUM TIMES SHE|GUR|GUR7|GURUN|GURUSH|HA|HA TENU|HA GUNU|HAL|HI",
    "1212e CUNEIFORM SIGN HI TIMES |ASH|ASH2|BAD|DISH|GAD|KIN|NUN|SHE|U;12137 CUNEIFORM SIGN |HU|HUB2",
    "12139 CUNEIFORM SIGN HUB2 TIMES |AN|HAL|KASKAL|LISH|UD",
    "1213e CUNEIFORM SIGN |HUL2|I|I A|IB|IDIM|IDIM OVER IDIM BUR|IDIM OVER IDIM SQUARED|IG|IGI|IGI DIB",
    "12148 CUNEIFORM SIGN |IGI RI|IGI OVER IGI SHIR OVER SHIR UD OVER UD|IGI GUNU|IL|IL TIMES GAN2 TENU",
    "1214d CUNEIFORM SIGN |IL2|IM|IM TIMES TAK4|IM CROSSING IM|IM OPPOSING IM|IM SQUARED|IMIN|IN|IR|ISH|KA",
    "12158 CUNEIFORM SIGN KA TIMES |A|AD|AD PLUS KU3|ASH2|BAD|BALAG|BAR|BI|ERIN2|ESH2|GA|GAL|GAN2 TENU|GAR",
    "12166 CUNEIFORM SIGN KA TIMES |GAR PLUS SHA3 PLUS A|GI|GIR2|GISH PLUS SAR|GISH CROSSING GISH|GU|GUR7|IGI",
    "1216e CUNEIFORM SIGN KA TIMES |IM|KAK|KI|KID|LI|LU|ME|ME PLUS DU|ME PLUS GI|ME PLUS TE|MI|MI PLUS NUNUZ",
    "1217a CUNEIFORM SIGN KA TIMES |NE|NUN|PI|RU|SA|SAR|SHA|SHE|SHID|SHU|SIG|SUHUR|TAR|U|U2|UD|UMUM TIMES PA",
    "1218b CUNEIFORM SIGN |KA TIMES USH|KA TIMES ZI|KA2|KA2 CROSSING KA2",
    "1218f CUNEIFORM SIGN |KAB|KAD2|KAD3|KAD4|KAD5|KAD5 OVER KAD5|KAK|KAK TIMES IGI GUNU|KAL|KAL TIMES BAD",
    "12199 CUNEIFORM SIGN |KAL CROSSING KAL|KAM2|KAM4|KASKAL|KASKAL LAGAB TIMES U OVER LAGAB TIMES U",
    "1219e CUNEIFORM SIGN KASKAL OVER KASKAL LAGAB TIMES U OVER LAGAB TIMES |U",
    "1219f CUNEIFORM SIGN |KESH2|KI|KI TIMES BAD|KI TIMES U|KI TIMES UD|KID|KIN|KISAL|KISH",
    "121a8 CUNEIFORM SIGN |KISIM5|KISIM5 OVER KISIM5|KU|KU OVER HI TIMES ASH2 KU OVER HI TIMES ASH2|KU3|KU4",
    "121ae CUNEIFORM SIGN |KU4 VARIANT FORM|KU7|KUL|KUL GUNU|KUN|KUR|KUR OPPOSING KUR|KUSHU2|KWU318|LA|LAGAB",
    "121b9 CUNEIFORM SIGN LAGAB TIMES |A|A PLUS DA PLUS HA|A PLUS GAR|A PLUS LAL|AL|AN|ASH ZIDA TENU",
    "121c0 CUNEIFORM SIGN LAGAB TIMES |BAD|BI|DAR|EN|GA|GAR|GUD|GUD PLUS GUD|HA|HAL|HI TIMES NUN|IGI GUNU",
    "121cc CUNEIFORM SIGN LAGAB TIMES |IM|IM PLUS HA|IM PLUS LU|KI|KIN|KU3|KUL|KUL PLUS HI PLUS A|LAGAB|LISH",
    "121d6 CUNEIFORM SIGN LAGAB TIMES |LU|LUL|ME|ME PLUS EN|MUSH|NE|SHE PLUS SUM|SHITA PLUS GISH PLUS ERIN2",
    "121de CUNEIFORM SIGN LAGAB TIMES |SHITA PLUS GISH TENU|SHU2|SHU2 PLUS SHU2|SUM|TAG|TAK4",
    "121e4 CUNEIFORM SIGN LAGAB TIMES |TE PLUS A PLUS SU PLUS NA|U|U PLUS A|U PLUS U PLUS U|U2 PLUS ASH|UD|USH",
    "121eb CUNEIFORM SIGN |LAGAB SQUARED|LAGAR|LAGAR TIMES SHE|LAGAR TIMES SHE PLUS SUM",
    "121ef CUNEIFORM SIGN |LAGAR GUNU|LAGAR GUNU OVER LAGAR GUNU SHE|LAHSHU|LAL|LAL TIMES LAL",
    "121f4 CUNEIFORM SIGN |LAM|LAM TIMES KUR|LAM TIMES KUR PLUS RU|LI|LIL|LIMMU2|LISH|LU|LU TIMES BAD|LU2",
    "121fe CUNEIFORM SIGN LU2 TIMES |AL|BAD|ESH2|ESH2 TENU|GAN2 TENU|HI TIMES BAD|IM|KAD2|KAD3|KAD3 PLUS ASH",
    "12208 CUNEIFORM SIGN LU2 TIMES |KI|LA PLUS ASH|LAGAB|ME PLUS EN|NE|NU|SI PLUS ASH|SIK2 PLUS BU|TUG2",
    "12211 CUNEIFORM SIGN LU2 |TENU|CROSSING LU2|OPPOSING LU2|SQUARED|SHESHIG",
    "12216 CUNEIFORM SIGN |LU3|LUGAL|LUGAL OVER LUGAL|LUGAL OPPOSING LUGAL|LUGAL SHESHIG",
    "1221b CUNEIFORM SIGN |LUH|LUL|LUM|LUM OVER LUM|LUM OVER LUM GAR OVER GAR|MA|MA TIMES TAK4|MA GUNU",
    "12223 CUNEIFORM SIGN |MA2|MAH|MAR|MASH|MASH2|ME|MES|MI|MIN|MU|MU OVER MU|MUG|MUG GUNU|MUNSUB|MURGU2|MUSH",
    "12233 CUNEIFORM SIGN MUSH |TIMES A|TIMES KUR|TIMES ZA|OVER MUSH|OVER MUSH TIMES A PLUS NA|CROSSING MUSH",
    "12239 CUNEIFORM SIGN |MUSH3|MUSH3 TIMES A|MUSH3 TIMES A PLUS DI|MUSH3 TIMES DI|MUSH3 GUNU|NA|NA2|NAGA",
    "12241 CUNEIFORM SIGN NAGA |INVERTED|TIMES SHU TENU|OPPOSING NAGA",
    "12244 CUNEIFORM SIGN |NAGAR|NAM NUTILLU|NAM|NAM2|NE|NE TIMES A|NE TIMES UD|NE SHESHIG",
    "1224c CUNEIFORM SIGN |NI|NI TIMES E|NI2|NIM|NIM TIMES GAN2 TENU|NIM TIMES GAR PLUS GAN2 TENU|NINDA2",
    "12253 CUNEIFORM SIGN NINDA2 TIMES |AN|ASH|ASH PLUS ASH|GUD|ME PLUS GAN2 TENU|NE|NUN",
    "1225a CUNEIFORM SIGN NINDA2 TIMES |SHE|SHE PLUS A AN|SHE PLUS ASH|SHE PLUS ASH PLUS ASH|U2 PLUS ASH|USH",
    "12260 CUNEIFORM SIGN |NISAG|NU|NU11|NUN",
    "12264 CUNEIFORM SIGN NUN LAGAR TIMES |GAR|MASH|SAL|SAL OVER NUN LAGAR TIMES SAL|USH",
    "12269 CUNEIFORM SIGN |NUN TENU|NUN OVER NUN|NUN CROSSING NUN|NUN CROSSING NUN LAGAR OVER LAGAR|NUNUZ",
    "1226e CUNEIFORM SIGN NUNUZ AB2 TIMES |ASHGAB|BI|DUG|GUD|IGI GUNU|KAD3|LA|NE|SILA3|U2",
    "12278 CUNEIFORM SIGN |NUNUZ KISIM5 TIMES BI|NUNUZ KISIM5 TIMES BI U|PA|PAD|PAN|PAP|PESH2|PI",
    "12280 CUNEIFORM SIGN PI TIMES |A|AB|BI|BU|E|I|IB|U|U2;12289 CUNEIFORM SIGN |PI CROSSING PI|PIRIG",
    "1228b CUNEIFORM SIGN PIRIG TIMES |KAL|UD|ZA",
    "1228e CUNEIFORM SIGN |PIRIG OPPOSING PIRIG|RA|RAB|RI|RU|SA|SAG NUTILLU|SAG",
    "12296 CUNEIFORM SIGN SAG TIMES |A|DU|DUB|HA|KAK|KUR|LUM|MI|NUN|SAL|SHID|TAB|U2|UB|UM|UR|USH",
    "122a7 CUNEIFORM SIGN |SAG OVER SAG|SAG GUNU|SAL|SAL LAGAB TIMES ASH2|SANGA2|SAR|SHA|SHA3",
    "122af CUNEIFORM SIGN SHA3 TIMES |A|BAD|GISH|NE|SHU2|TUR|U|U PLUS A",
    "122b7 CUNEIFORM SIGN |SHA6|SHAB6|SHAR2|SHE|SHE HU",
    "122bc CUNEIFORM SIGN SHE OVER SHE |GAD OVER GAD GAR OVER GAR|TAB OVER TAB GAR OVER GAR",
    "122be CUNEIFORM SIGN |SHEG9|SHEN|SHESH|SHESH2|SHESHLAM|SHID|SHID TIMES A|SHID TIMES IM|SHIM",
    "122c7 CUNEIFORM SIGN SHIM TIMES |A|BAL|BULUG|DIN|GAR|IGI|IGI GUNU|KUSHU2|LUL|MUG|SAL",
    "122d2 CUNEIFORM SIGN |SHINIG|SHIR|SHIR TENU|SHIR OVER SHIR BUR OVER BUR|SHITA",
    "122d7 CUNEIFORM SIGN |SHU|SHU OVER INVERTED SHU|SHU2|SHUBUR|SI|SI GUNU|SIG|SIG4|SIG4 OVER SIG4 SHU2|SIK2",
    "122e1 CUNEIFORM SIGN |SILA3|SU|SU OVER SU|SUD|SUD2|SUHUR|SUM|SUMASH|SUR|SUR9|TA|TA ASTERISK|TA TIMES HI",
    "122ee CUNEIFORM SIGN |TA TIMES MI|TA GUNU|TAB|TAB OVER TAB NI OVER NI DISH OVER DISH|TAB SQUARED|TAG",
    "122f4 CUNEIFORM SIGN TAG TIMES |BI|GUD|SHE|SHU|TUG2|UD",
    "122fa CUNEIFORM SIGN |TAK4|TAR|TE|TE GUNU|TI|TI TENU|TIL|TIR|TIR TIMES TAK4",
    "12303 CUNEIFORM SIGN TIR OVER |TIR|TIR GAD OVER GAD GAR OVER GAR",
    "12305 CUNEIFORM SIGN |TU|TUG2|TUK|TUM|TUR|TUR OVER TUR ZA OVER ZA|U|U GUD|U U U",
    "1230e CUNEIFORM SIGN U OVER U |PA OVER PA GAR OVER GAR|SUR OVER SUR|U REVERSED OVER U REVERSED",
    "12311 CUNEIFORM SIGN |U2|UB|UD|UD KUSHU2|UD TIMES BAD|UD TIMES MI",
    "12317 CUNEIFORM SIGN UD |TIMES U PLUS U PLUS U|TIMES U PLUS U PLUS U GUNU|GUNU|SHESHIG|SHESHIG TIMES BAD",
    "1231c CUNEIFORM SIGN |UDUG|UM|UM TIMES LAGAB|UM TIMES ME PLUS DA|UM TIMES SHA3|UM TIMES U|UMBIN",
    "12323 CUNEIFORM SIGN |UMUM|UMUM TIMES KASKAL|UMUM TIMES PA|UN|UN GUNU|UR|UR CROSSING UR|UR SHESHIG|UR2",
    "1232c CUNEIFORM SIGN UR2 TIMES |A PLUS HA|A PLUS NA|AL|HA|NUN|U2|U2 PLUS ASH|U2 PLUS BI",
    "12334 CUNEIFORM SIGN |UR4|URI|URI3|URU;12338 CUNEIFORM SIGN URU TIMES |A|ASHGAB|BAR|DUN|GA|GAL|GAN2 TENU",
    "1233f CUNEIFORM SIGN URU TIMES |GAR|GU|HA|IGI|IM|ISH|KI|LUM|MIN|PA|SHE|SIG4|TU|U PLUS GUD|UD|URUDA",
    "1234f CUNEIFORM SIGN |URUDA|URUDA TIMES U|USH;12352 CUNEIFORM SIGN USH TIMES |A|KU|KUR|TAK4",
    "12356 CUNEIFORM SIGN |USHX|USH2|USHUMX|UTUKI|UZ3|UZ3 TIMES KASKAL|UZU|ZA|ZA TENU",
    "1235f CUNEIFORM SIGN |ZA SQUARED TIMES KUR|ZAG|ZAMX|ZE2|ZI|ZI OVER ZI|ZI3|ZIB|ZIB KABA TENU|ZIG|ZIZ2",
    "1236a CUNEIFORM SIGN |ZU|ZU5|ZU5 TIMES A|ZUBUR|ZUM|KAP ELAMITE|AB TIMES NUN|AB2 TIMES A|AMAR TIMES KUG",
    "12373 CUNEIFORM SIGN |DAG KISIM5 TIMES U2 PLUS MASH|DAG3|DISH PLUS SHU|DUB TIMES SHE|EZEN TIMES GUD",
    "12378 CUNEIFORM SIGN |EZEN TIMES SHE|GA2 TIMES AN PLUS KAK PLUS A|GA2 TIMES ASH2|GE22|GIG|HUSH",
    "1237e CUNEIFORM SIGN KA TIMES |ANSHE|ASH3|GISH|GUD|HI TIMES ASH2|LUM|PA|SHUL|TU|UR2",
    "12388 CUNEIFORM SIGN LAGAB TIMES |GI",
    "12389 CUNEIFORM SIGN |LU2 SHESHIG TIMES BAD|LU2 TIMES ESH2 PLUS LAL|LU2 TIMES SHU|MESH|MUSH3 TIMES ZA",
    "1238e CUNEIFORM SIGN |NA4|NIN|NIN9|NINDA2 TIMES BAL|NINDA2 TIMES GI|NU11 ROTATED NINETY DEGREES",
    "12394 CUNEIFORM SIGN |PESH2 ASTERISK|PIR2|SAG TIMES IGI GUNU|TI2|UM TIMES ME|U U",
    "12400 CUNEIFORM NUMERIC SIGN |TWO ASH|THREE ASH|FOUR ASH|FIVE ASH|SIX ASH",
    "12405 CUNEIFORM NUMERIC SIGN |SEVEN ASH|EIGHT ASH|NINE ASH|THREE DISH|FOUR DISH|FIVE DISH|SIX DISH",
    "1240c CUNEIFORM NUMERIC SIGN |SEVEN DISH|EIGHT DISH|NINE DISH|FOUR U|FIVE U|SIX U|SEVEN U|EIGHT U|NINE U",
    "12415 CUNEIFORM NUMERIC SIGN |ONE GESH2|TWO GESH2|THREE GESH2|FOUR GESH2|FIVE GESH2|SIX GESH2|SEVEN GESH2",
    "1241c CUNEIFORM NUMERIC SIGN |EIGHT GESH2|NINE GESH2|ONE GESHU|TWO GESHU|THREE GESHU|FOUR GESHU",
    "12422 CUNEIFORM NUMERIC SIGN |FIVE GESHU|TWO SHAR2|THREE SHAR2|THREE SHAR2 VARIANT FORM|FOUR SHAR2",
    "12427 CUNEIFORM NUMERIC SIGN |FIVE SHAR2|SIX SHAR2|SEVEN SHAR2|EIGHT SHAR2|NINE SHAR2|ONE SHARU",
    "1242d CUNEIFORM NUMERIC SIGN |TWO SHARU|THREE SHARU|THREE SHARU VARIANT FORM|FOUR SHARU|FIVE SHARU",
    "12432 CUNEIFORM NUMERIC SIGN SHAR2 TIMES GAL PLUS |DISH|MIN",
    "12434 CUNEIFORM NUMERIC SIGN |ONE BURU|TWO BURU|THREE BURU|THREE BURU VARIANT FORM|FOUR BURU|FIVE BURU",
    "1243a CUNEIFORM NUMERIC SIGN THREE VARIANT FORM |ESH16|ESH21",
    "1243c CUNEIFORM NUMERIC SIGN FOUR VARIANT FORM |LIMMU|LIMMU4|LIMMU A|LIMMU B",
    "12440 CUNEIFORM NUMERIC SIGN SIX VARIANT FORM |ASH9",
    "12441 CUNEIFORM NUMERIC SIGN SEVEN VARIANT FORM |IMIN3|IMIN A|IMIN B",
    "12444 CUNEIFORM NUMERIC SIGN EIGHT VARIANT FORM |USSU|USSU3",
    "12446 CUNEIFORM NUMERIC SIGN NINE VARIANT FORM |ILIMMU|ILIMMU3|ILIMMU4|ILIMMU A",
    "1244a CUNEIFORM NUMERIC SIGN |TWO ASH TENU|THREE ASH TENU|FOUR ASH TENU|FIVE ASH TENU",
    "1244e CUNEIFORM NUMERIC SIGN |SIX ASH TENU|ONE BAN2|TWO BAN2|THREE BAN2|FOUR BAN2|FOUR BAN2 VARIANT FORM",
    "12454 CUNEIFORM NUMERIC SIGN |FIVE BAN2|FIVE BAN2 VARIANT FORM|NIGIDAMIN|NIGIDAESH|ONE ESHE3|TWO ESHE3",
    "1245a CUNEIFORM NUMERIC SIGN |ONE THIRD DISH|TWO THIRDS DISH|FIVE SIXTHS DISH|ONE THIRD VARIANT FORM A",
    "1245e CUNEIFORM NUMERIC SIGN |TWO THIRDS VARIANT FORM A|ONE EIGHTH ASH|ONE QUARTER ASH",
    "12461 CUNEIFORM NUMERIC SIGN OLD ASSYRIAN ONE |SIXTH|QUARTER",
    "12463 CUNEIFORM NUMERIC SIGN ONE |QUARTER GUR|HALF GUR",
    "12465 CUNEIFORM NUMERIC SIGN ELAMITE |ONE THIRD|TWO THIRDS|FORTY|FIFTY",
    "12469 CUNEIFORM NUMERIC SIGN |FOUR U VARIANT FORM|FIVE U VARIANT FORM|SIX U VARIANT FORM",
    "1246c CUNEIFORM NUMERIC SIGN |SEVEN U VARIANT FORM|EIGHT U VARIANT FORM|NINE U VARIANT FORM",
    "12470 CUNEIFORM PUNCTUATION SIGN |OLD ASSYRIAN WORD DIVIDER|VERTICAL COLON",
    "12472 CUNEIFORM PUNCTUATION SIGN DIAGONAL |COLON|TRICOLON|QUADCOLON",
    "12480 CUNEIFORM SIGN |AB TIMES NUN TENU|AB TIMES SHU2|AD TIMES ESH2|BAD TIMES DISH TENU",
    "12484 CUNEIFORM SIGN BAHAR2 TIMES |AB2|NI|ZA;12487 CUNEIFORM SIGN BU OVER BU TIMES |NA2",
    "12488 CUNEIFORM SIGN |DA TIMES TAK4|DAG TIMES KUR|DIM TIMES IGI|DIM TIMES U U U|DIM2 TIMES UD",
    "1248d CUNEIFORM SIGN DUG TIMES |ANSHE|ASH|ASH AT LEFT|DIN|DUN|ERIN2",
    "12493 CUNEIFORM SIGN DUG TIMES |GA|GI|GIR2 GUNU|GISH|HA|HI|IGI GUNU|KASKAL|KUR|KUSHU2|KUSHU2 PLUS KASKAL",
    "1249e CUNEIFORM SIGN DUG TIMES |LAK-020|LAM|LAM TIMES KUR|LUH PLUS GISH|MASH|MES|MI|NI|PI|SHE|SI GUNU",
    "124a9 CUNEIFORM SIGN |E2 TIMES KUR|E2 TIMES PAP|ERIN2 X|ESH2 CROSSING ESH2",
    "124ad CUNEIFORM SIGN EZEN SHESHIG TIMES |ASH|HI|IGI GUNU|LA|LAL|ME|MES|SU;124b5 CUNEIFORM SIGN EZEN TIMES |SU",
    "124b6 CUNEIFORM SIGN GA2 TIMES |BAHAR2|DIM GUNU|DUG TIMES IGI GUNU|DUG TIMES KASKAL",
    "124ba CUNEIFORM SIGN GA2 TIMES |EREN|GA|GAR PLUS DI|GAR PLUS NE|HA PLUS A|KUSHU2 PLUS KASKAL",
    "124c0 CUNEIFORM SIGN GA2 TIMES |LAM|LAM TIMES KUR|LUH|MUSH|NE|NE PLUS E2|NE PLUS GI|SHIM|ZIZ2",
    "124c9 CUNEIFORM SIGN GABA ROTATED NINETY |DEGREES",
    "124ca CUNEIFORM SIGN |GESHTIN TIMES U|GISH TIMES GISH CROSSING GISH|GU2 TIMES IGI GUNU",
    "124cd CUNEIFORM SIGN |GUD PLUS GISH TIMES TAK4|HA TENU GUNU|HI TIMES ASH OVER HI TIMES ASH",
    "124d0 CUNEIFORM SIGN KA TIMES |BU|KA|U U U|UR;124d4 CUNEIFORM SIGN LAGAB TIMES ZU OVER |ZU",
    "124d5 CUNEIFORM SIGN LAK-|003|021|025|030|050|051|062|079 OVER LAK-079 GUNU|080|081 OVER LAK-081",
    "124df CUNEIFORM SIGN LAK-|092|130|142|210|219|220|225|228|238|265|266|343|347|348|383|384|390|441|449",
    "124f2 CUNEIFORM SIGN LAK-449 TIMES |GU|IGI|PAP PLUS LU3|PAP PLUS PAP PLUS LU3|U2 PLUS BA",
    "124f7 CUNEIFORM SIGN LAK-|450|457|470|483|490|492|493|495|550|608|617",
    "12502 CUNEIFORM SIGN LAK-617 TIMES |ASH|BAD|DUN3 GUNU GUNU|KU3|LA|TAR|TE|U2|UD|URUDA",
    "1250c CUNEIFORM SIGN LAK-|636|648",
    "1250e CUNEIFORM SIGN LAK-648 TIMES |DUB|GA|IGI|IGI GUNU|NI|PAP PLUS PAP PLUS LU3|SHESH PLUS KI|UD|URUDA",
    "12517 CUNEIFORM SIGN |LAK-724|LAK-749|LU2 GUNU TIMES ASH",
    "1251a CUNEIFORM SIGN LU2 TIMES |DISH|HAL|PAP|PAP PLUS PAP PLUS LU3|TAK4",
    "1251f CUNEIFORM SIGN |MI PLUS ZA7|MUSH OVER MUSH TIMES GA|MUSH OVER MUSH TIMES KAK",
    "12522 CUNEIFORM SIGN NINDA2 TIMES |DIM GUNU|GISH|GUL|HI|KESH2|LAK-050|MASH|PAP PLUS PAP|U|U PLUS U|URUDA",
    "1252d CUNEIFORM SIGN SAG |GUNU TIMES HA|TIMES EN|TIMES SHE AT LEFT|TIMES TAK4",
    "12531 CUNEIFORM SIGN |SHA6 TENU|SHE OVER SHE|SHE PLUS HUB2|SHE PLUS NAM2|SHE PLUS SAR",
    "12536 CUNEIFORM SIGN |SHU2 PLUS DUG TIMES NI|SHU2 PLUS E2 TIMES AN|SI TIMES TAK4|TAK4 PLUS SAG",
    "1253a CUNEIFORM SIGN |TUM TIMES GAN2 TENU|TUM TIMES THREE DISH|UR2 INVERTED|UR2 TIMES UD|URU TIMES DARA3",
    "1253f CUNEIFORM SIGN |URU TIMES LAK-668|URU TIMES LU3|ZA7|ZU OVER ZU PLUS SAR|ZU5 TIMES THREE DISH TENU",
    "12f90 CYPRO-MINOAN SIGN |CM001|CM002|CM004|CM005|CM006|CM007|CM008|CM009",
    "12f98 CYPRO-MINOAN SIGN |CM010|CM011|CM012|CM012B|CM013|CM015|CM017|CM019|CM021|CM023|CM024|CM025|CM026",
    "12fa5 CYPRO-MINOAN SIGN |CM027|CM028|CM029|CM030|CM033|CM034|CM035|CM036|CM037|CM038|CM039|CM040|CM041",
    "12fb2 CYPRO-MINOAN SIGN |CM044|CM046|CM047|CM049|CM050|CM051|CM052|CM053|CM054|CM055|CM056|CM058|CM059",
    "12fbf CYPRO-MINOAN SIGN |CM060|CM061|CM062|CM063|CM064|CM066|CM067|CM068|CM069|CM070|CM071|CM072|CM073",
    "12fcc CYPRO-MINOAN SIGN |CM074|CM075|CM075B|CM076|CM078|CM079|CM080|CM081|CM082|CM083|CM084|CM085|CM086",
    "12fd9 CYPRO-MINOAN SIGN |CM087|CM088|CM089|CM090|CM091|CM092|CM094|CM095|CM096|CM097|CM098|CM099|CM100",
    "12fe6 CYPRO-MINOAN SIGN |CM101|CM102|CM103|CM104|CM105|CM107|CM108|CM109|CM110|CM112|CM114|CM301|CM302",
    "13000 EGYPTIAN HIEROGLYPH |A001|A002|A003|A004|A005|A005A|A006|A006A|A006B",
    "13009 EGYPTIAN HIEROGLYPH |A007|A008|A009|A010|A011|A012|A013|A014|A014A|A015|A016|A017|A017A|A018|A019",
    "13018 EGYPTIAN HIEROGLYPH |A020|A021|A022|A023|A024|A025|A026|A027|A028|A029|A030|A031|A032|A032A|A033",
    "13027 EGYPTIAN HIEROGLYPH |A034|A035|A036|A037|A038|A039|A040|A040A|A041|A042|A042A|A043|A043A|A044|A045",
    "13036 EGYPTIAN HIEROGLYPH |A045A|A046|A047|A048|A049|A050|A051|A052|A053|A054|A055|A056|A057|A058|A059",
    "13045 EGYPTIAN HIEROGLYPH |A060|A061|A062|A063|A064|A065|A066|A067|A068|A069|A070|B001|B002|B003|B004",
    "13054 EGYPTIAN HIEROGLYPH |B005|B005A|B006|B007|B008|B009|C001|C002|C002A|C002B|C002C|C003|C004|C005|C006",
    "13063 EGYPTIAN HIEROGLYPH |C007|C008|C009|C010|C010A|C011|C012|C013|C014|C015|C016|C017|C018|C019|C020",
    "13072 EGYPTIAN HIEROGLYPH |C021|C022|C023|C024|D001|D002|D003|D004|D005|D006|D007|D008|D008A|D009|D010",
    "13081 EGYPTIAN HIEROGLYPH |D011|D012|D013|D014|D015|D016|D017|D018|D019|D020|D021|D022|D023|D024|D025",
    "13090 EGYPTIAN HIEROGLYPH |D026|D027|D027A|D028|D029|D030|D031|D031A|D032|D033|D034|D034A|D035|D036|D037",
    "1309f EGYPTIAN HIEROGLYPH |D038|D039|D040|D041|D042|D043|D044|D045|D046|D046A|D047|D048|D048A|D049|D050",
    "130ae EGYPTIAN HIEROGLYPH |D050A|D050B|D050C|D050D|D050E|D050F|D050G|D050H|D050I|D051|D052|D052A|D053",
    "130bb EGYPTIAN HIEROGLYPH |D054|D054A|D055|D056|D057|D058|D059|D060|D061|D062|D063|D064|D065|D066|D067",
    "130ca EGYPTIAN HIEROGLYPH |D067A|D067B|D067C|D067D|D067E|D067F|D067G|D067H|E001|E002|E003|E004|E005|E006",
    "130d8 EGYPTIAN HIEROGLYPH |E007|E008|E008A|E009|E009A|E010|E011|E012|E013|E014|E015|E016|E016A|E017|E017A",
    "130e7 EGYPTIAN HIEROGLYPH |E018|E019|E020|E020A|E021|E022|E023|E024|E025|E026|E027|E028|E028A|E029|E030",
    "130f6 EGYPTIAN HIEROGLYPH |E031|E032|E033|E034|E034A|E036|E037|E038|F001|F001A|F002|F003|F004|F005|F006",
    "13105 EGYPTIAN HIEROGLYPH |F007|F008|F009|F010|F011|F012|F013|F013A|F014|F015|F016|F017|F018|F019|F020",
    "13114 EGYPTIAN HIEROGLYPH |F021|F021A|F022|F023|F024|F025|F026|F027|F028|F029|F030|F031|F031A|F032|F033",
    "13123 EGYPTIAN HIEROGLYPH |F034|F035|F036|F037|F037A|F038|F038A|F039|F040|F041|F042|F043|F044|F045|F045A",
    "13132 EGYPTIAN HIEROGLYPH |F046|F046A|F047|F047A|F048|F049|F050|F051|F051A|F051B|F051C|F052|F053|G001",
    "13140 EGYPTIAN HIEROGLYPH |G002|G003|G004|G005|G006|G006A|G007|G007A|G007B|G008|G009|G010|G011|G011A|G012",
    "1314f EGYPTIAN HIEROGLYPH |G013|G014|G015|G016|G017|G018|G019|G020|G020A|G021|G022|G023|G024|G025|G026",
    "1315e EGYPTIAN HIEROGLYPH |G026A|G027|G028|G029|G030|G031|G032|G033|G034|G035|G036|G036A|G037|G037A|G038",
    "1316d EGYPTIAN HIEROGLYPH |G039|G040|G041|G042|G043|G043A|G044|G045|G045A|G046|G047|G048|G049|G050|G051",
    "1317c EGYPTIAN HIEROGLYPH |G052|G053|G054|H001|H002|H003|H004|H005|H006|H006A|H007|H008|I001|I002|I003",
    "1318b EGYPTIAN HIEROGLYPH |I004|I005|I005A|I006|I007|I008|I009|I009A|I010|I010A|I011|I011A|I012|I013|I014",
    "1319a EGYPTIAN HIEROGLYPH |I015|K001|K002|K003|K004|K005|K006|K007|K008|L001|L002|L002A|L003|L004|L005",
    "131a9 EGYPTIAN HIEROGLYPH |L006|L006A|L007|L008|M001|M001A|M001B|M002|M003|M003A|M004|M005|M006|M007|M008",
    "131b8 EGYPTIAN HIEROGLYPH |M009|M010|M010A|M011|M012|M012A|M012B|M012C|M012D|M012E|M012F|M012G|M012H|M013",
    "131c6 EGYPTIAN HIEROGLYPH |M014|M015|M015A|M016|M016A|M017|M017A|M018|M019|M020|M021|M022|M022A|M023|M024",
    "131d5 EGYPTIAN HIEROGLYPH |M024A|M025|M026|M027|M028|M028A|M029|M030|M031|M031A|M032|M033|M033A|M033B",
    "131e3 EGYPTIAN HIEROGLYPH |M034|M035|M036|M037|M038|M039|M040|M040A|M041|M042|M043|M044|N001|N002|N003",
    "131f2 EGYPTIAN HIEROGLYPH |N004|N005|N006|N007|N008|N009|N010|N011|N012|N013|N014|N015|N016|N017|N018",
    "13201 EGYPTIAN HIEROGLYPH |N018A|N018B|N019|N020|N021|N022|N023|N024|N025|N025A|N026|N027|N028|N029|N030",
    "13210 EGYPTIAN HIEROGLYPH |N031|N032|N033|N033A|N034|N034A|N035|N035A|N036|N037|N037A|N038|N039|N040|N041",
    "1321f EGYPTIAN HIEROGLYPH |N042|NL001|NL002|NL003|NL004|NL005|NL005A|NL006|NL007|NL008|NL009|NL010|NL011",
    "1322c EGYPTIAN HIEROGLYPH |NL012|NL013|NL014|NL015|NL016|NL017|NL017A|NL018|NL019|NL020|NU001|NU002|NU003",
    "13239 EGYPTIAN HIEROGLYPH |NU004|NU005|NU006|NU007|NU008|NU009|NU010|NU010A|NU011|NU011A|NU012|NU013",
    "13245 EGYPTIAN HIEROGLYPH |NU014|NU015|NU016|NU017|NU018|NU018A|NU019|NU020|NU021|NU022|NU022A|O001|O001A",
    "13252 EGYPTIAN HIEROGLYPH |O002|O003|O004|O005|O005A|O006|O006A|O006B|O006C|O006D|O006E|O006F|O007|O008",
    "13260 EGYPTIAN HIEROGLYPH |O009|O010|O010A|O010B|O010C|O011|O012|O013|O014|O015|O016|O017|O018|O019|O019A",
    "1326f EGYPTIAN HIEROGLYPH |O020|O020A|O021|O022|O023|O024|O024A|O025|O025A|O026|O027|O028|O029|O029A|O030",
    "1327e EGYPTIAN HIEROGLYPH |O030A|O031|O032|O033|O033A|O034|O035|O036|O036A|O036B|O036C|O036D|O037|O038",
    "1328c EGYPTIAN HIEROGLYPH |O039|O040|O041|O042|O043|O044|O045|O046|O047|O048|O049|O050|O050A|O050B|O051",
    "1329b EGYPTIAN HIEROGLYPH |P001|P001A|P002|P003|P003A|P004|P005|P006|P007|P008|P009|P010|P011|Q001|Q002",
    "132aa EGYPTIAN HIEROGLYPH |Q003|Q004|Q005|Q006|Q007|R001|R002|R002A|R003|R003A|R003B|R004|R005|R006|R007",
    "132b9 EGYPTIAN HIEROGLYPH |R008|R009|R010|R010A|R011|R012|R013|R014|R015|R016|R016A|R017|R018|R019|R020",
    "132c8 EGYPTIAN HIEROGLYPH |R021|R022|R023|R024|R025|R026|R027|R028|R029|S001|S002|S002A|S003|S004|S005",
    "132d7 EGYPTIAN HIEROGLYPH |S006|S006A|S007|S008|S009|S010|S011|S012|S013|S014|S014A|S014B|S015|S016|S017",
    "132e6 EGYPTIAN HIEROGLYPH |S017A|S018|S019|S020|S021|S022|S023|S024|S025|S026|S026A|S026B|S027|S028|S029",
    "132f5 EGYPTIAN HIEROGLYPH |S030|S031|S032|S033|S034|S035|S035A|S036|S037|S038|S039|S040|S041|S042|S043",
    "13304 EGYPTIAN HIEROGLYPH |S044|S045|S046|T001|T002|T003|T003A|T004|T005|T006|T007|T007A|T008|T008A|T009",
    "13313 EGYPTIAN HIEROGLYPH |T009A|T010|T011|T011A|T012|T013|T014|T015|T016|T016A|T017|T018|T019|T020|T021",
    "13322 EGYPTIAN HIEROGLYPH |T022|T023|T024|T025|T026|T027|T028|T029|T030|T031|T032|T032A|T033|T033A|T034",
    "13331 EGYPTIAN HIEROGLYPH |T035|T036|U001|U002|U003|U004|U005|U006|U006A|U006B|U007|U008|U009|U010|U011",
    "13340 EGYPTIAN HIEROGLYPH |U012|U013|U014|U015|U016|U017|U018|U019|U020|U021|U022|U023|U023A|U024|U025",
    "1334f EGYPTIAN HIEROGLYPH |U026|U027|U028|U029|U029A|U030|U031|U032|U032A|U033|U034|U035|U036|U037|U038",
    "1335e EGYPTIAN HIEROGLYPH |U039|U040|U041|U042|V001|V001A|V001B|V001C|V001D|V001E|V001F|V001G|V001H|V001I",
    "1336c EGYPTIAN HIEROGLYPH |V002|V002A|V003|V004|V005|V006|V007|V007A|V007B|V008|V009|V010|V011|V011A",
    "1337a EGYPTIAN HIEROGLYPH |V011B|V011C|V012|V012A|V012B|V013|V014|V015|V016|V017|V018|V019|V020|V020A",
    "13388 EGYPTIAN HIEROGLYPH |V020B|V020C|V020D|V020E|V020F|V020G|V020H|V020I|V020J|V020K|V020L|V021|V022",
    "13395 EGYPTIAN HIEROGLYPH |V023|V023A|V024|V025|V026|V027|V028|V028A|V029|V029A|V030|V030A|V031|V031A",
    "133a3 EGYPTIAN HIEROGLYPH |V032|V033|V033A|V034|V035|V036|V037|V037A|V038|V039|V040|V040A|W001|W002|W003",
    "133b2 EGYPTIAN HIEROGLYPH |W003A|W004|W005|W006|W007|W008|W009|W009A|W010|W010A|W011|W012|W013|W014|W014A",
    "133c1 EGYPTIAN HIEROGLYPH |W015|W016|W017|W017A|W018|W018A|W019|W020|W021|W022|W023|W024|W024A|W025|X001",
    "133d0 EGYPTIAN HIEROGLYPH |X002|X003|X004|X004A|X004B|X005|X006|X006A|X007|X008|X008A|Y001|Y001A|Y002",
    "133de EGYPTIAN HIEROGLYPH |Y003|Y004|Y005|Y006|Y007|Y008|Z001|Z002|Z002A|Z002B|Z002C|Z002D|Z003|Z003A",
    "133ec EGYPTIAN HIEROGLYPH |Z003B|Z004|Z004A|Z005|Z005A|Z006|Z007|Z008|Z009|Z010|Z011|Z012|Z013|Z014|Z015",
    "133fb EGYPTIAN HIEROGLYPH |Z015A|Z015B|Z015C|Z015D|Z015E|Z015F|Z015G|Z015H|Z015I|Z016|Z016A|Z016B|Z016C",
    "13408 EGYPTIAN HIEROGLYPH |Z016D|Z016E|Z016F|Z016G|Z016H|AA001|AA002|AA003|AA004|AA005|AA006|AA007|AA007A",
    "13415 EGYPTIAN HIEROGLYPH |AA007B|AA008|AA009|AA010|AA011|AA012|AA013|AA014|AA015|AA016|AA017|AA018|AA019",
    "13422 EGYPTIAN HIEROGLYPH |AA020|AA021|AA022|AA023|AA024|AA025|AA026|AA027|AA028|AA029|AA030|AA031|AA032",
    "13430 EGYPTIAN HIEROGLYPH |VERTICAL JOINER|HORIZONTAL JOINER",
    "13432 EGYPTIAN HIEROGLYPH INSERT AT |TOP START|BOTTOM START|TOP END|BOTTOM END",
    "13436 EGYPTIAN HIEROGLYPH |OVERLAY MIDDLE|BEGIN SEGMENT|END SEGMENT",
    "14400 ANATOLIAN HIEROGLYPH |A001|A002|A003|A004|A005|A006|A007|A008|A009|A010|A010A|A011|A012|A013|A014",
    "1440f ANATOLIAN HIEROGLYPH |A015|A016|A017|A018|A019|A020|A021|A022|A023|A024|A025|A026|A026A|A027|A028",
    "1441e ANATOLIAN HIEROGLYPH |A029|A030|A031|A032|A033|A034|A035|A036|A037|A038|A039|A039A|A040|A041|A041A",
    "1442d ANATOLIAN HIEROGLYPH |A042|A043|A044|A045|A045A|A046|A046A|A046B|A047|A048|A049|A050|A051|A052",
    "1443b ANATOLIAN HIEROGLYPH |A053|A054|A055|A056|A057|A058|A059|A060|A061|A062|A063|A064|A065|A066|A066A",
    "1444a ANATOLIAN HIEROGLYPH |A066B|A066C|A067|A068|A069|A070|A071|A072|A073|A074|A075|A076|A077|A078|A079",
    "14459 ANATOLIAN HIEROGLYPH |A080|A081|A082|A083|A084|A085|A086|A087|A088|A089|A090|A091|A092|A093|A094",
    "14468 ANATOLIAN HIEROGLYPH |A095|A096|A097|A097A|A098|A098A|A099|A100|A100A|A101|A101A|A102|A102A|A103",
    "14476 ANATOLIAN HIEROGLYPH |A104|A104A|A104B|A104C|A105|A105A|A105B|A106|A107|A107A|A107B|A107C|A108|A109",
    "14484 ANATOLIAN HIEROGLYPH |A110|A110A|A110B|A111|A112|A113|A114|A115|A115A|A116|A117|A118|A119|A120|A121",
    "14493 ANATOLIAN HIEROGLYPH |A122|A123|A124|A125|A125A|A126|A127|A128|A129|A130|A131|A132|A133|A134|A135",
    "144a2 ANATOLIAN HIEROGLYPH |A135A|A136|A137|A138|A139|A140|A141|A142|A143|A144|A145|A146|A147|A148|A149",
    "144b1 ANATOLIAN HIEROGLYPH |A150|A151|A152|A153|A154|A155|A156|A157|A158|A159|A160|A161|A162|A163|A164",
    "144c0 ANATOLIAN HIEROGLYPH |A165|A166|A167|A168|A169|A170|A171|A172|A173|A174|A175|A176|A177|A178|A179",
    "144cf ANATOLIAN HIEROGLYPH |A180|A181|A182|A183|A184|A185|A186|A187|A188|A189|A190|A191|A192|A193|A194",
    "144de ANATOLIAN HIEROGLYPH |A195|A196|A197|A198|A199|A200|A201|A202|A202A|A202B|A203|A204|A205|A206|A207",
    "144ed ANATOLIAN HIEROGLYPH |A207A|A208|A209|A209A|A210|A211|A212|A213|A214|A215|A215A|A216|A216A|A217",
    "144fb ANATOLIAN HIEROGLYPH |A218|A219|A220|A221|A222|A223|A224|A225|A226|A227|A227A|A228|A229|A230|A231",
    "1450a ANATOLIAN HIEROGLYPH |A232|A233|A234|A235|A236|A237|A238|A239|A240|A241|A242|A243|A244|A245|A246",
    "14519 ANATOLIAN HIEROGLYPH |A247|A248|A249|A250|A251|A252|A253|A254|A255|A256|A257|A258|A259|A260|A261",
    "14528 ANATOLIAN HIEROGLYPH |A262|A263|A264|A265|A266|A267|A267A|A268|A269|A270|A271|A272|A273|A274|A275",
    "14537 ANATOLIAN HIEROGLYPH |A276|A277|A278|A279|A280|A281|A282|A283|A284|A285|A286|A287|A288|A289|A289A",
    "14546 ANATOLIAN HIEROGLYPH |A290|A291|A292|A293|A294|A294A|A295|A296|A297|A298|A299|A299A|A300|A301|A302",
    "14555 ANATOLIAN HIEROGLYPH |A303|A304|A305|A306|A307|A308|A309|A309A|A310|A311|A312|A313|A314|A315|A316",
    "14564 ANATOLIAN HIEROGLYPH |A317|A318|A319|A320|A321|A322|A323|A324|A325|A326|A327|A328|A329|A329A|A330",
    "14573 ANATOLIAN HIEROGLYPH |A331|A332A|A332B|A332C|A333|A334|A335|A336|A336A|A336B|A336C|A337|A338|A339",
    "14581 ANATOLIAN HIEROGLYPH |A340|A341|A342|A343|A344|A345|A346|A347|A348|A349|A350|A351|A352|A353|A354",
    "14590 ANATOLIAN HIEROGLYPH |A355|A356|A357|A358|A359|A359A|A360|A361|A362|A363|A364|A364A|A365|A366|A367",
    "1459f ANATOLIAN HIEROGLYPH |A368|A368A|A369|A370|A371|A371A|A372|A373|A374|A375|A376|A377|A378|A379|A380",
    "145ae ANATOLIAN HIEROGLYPH |A381|A381A|A382|A383 RA OR RI|A383A|A384|A385|A386|A386A|A387|A388|A389|A390",
    "145bb ANATOLIAN HIEROGLYPH |A391|A392|A393 EIGHT|A394|A395|A396|A397|A398|A399|A400|A401|A402|A403|A404",
    "145c9 ANATOLIAN HIEROGLYPH |A405|A406|A407|A408|A409|A410 BEGIN LOGOGRAM MARK|A410A END LOGOGRAM MARK",
    "145d0 ANATOLIAN HIEROGLYPH |A411|A412|A413|A414|A415|A416|A417|A418|A419|A420|A421|A422|A423|A424",
    "145de ANATOLIAN HIEROGLYPH |A425|A426|A427|A428|A429|A430|A431|A432|A433|A434|A435|A436|A437|A438|A439",
    "145ed ANATOLIAN HIEROGLYPH |A440|A441|A442|A443|A444|A445|A446|A447|A448|A449|A450|A450A|A451|A452|A453",
    "145fc ANATOLIAN HIEROGLYPH |A454|A455|A456|A457|A457A|A458|A459|A460|A461|A462|A463|A464|A465|A466|A467",
    "1460b ANATOLIAN HIEROGLYPH |A468|A469|A470|A471|A472|A473|A474|A475|A476|A477|A478|A479|A480|A481|A482",
    "1461a ANATOLIAN HIEROGLYPH |A483|A484|A485|A486|A487|A488|A489|A490|A491|A492|A493|A494|A495|A496|A497",
    "14629 ANATOLIAN HIEROGLYPH |A501|A502|A503|A504|A505|A506|A507|A508|A509|A510|A511|A512|A513|A514|A515",
    "14638 ANATOLIAN HIEROGLYPH |A516|A517|A518|A519|A520|A521|A522|A523|A524|A525|A526|A527|A528|A529|A530",
    "16800 BAMUM LETTER PHASE-A |NGKUE MFON|GBIEE FON|PON MFON PIPAEMGBIEE|PON MFON PIPAEMBA",
    "16804 BAMUM LETTER PHASE-A |NAA MFON|SHUENSHUET|TITA MFON|NZA MFON|SHINDA PA NJI|PON PA NJI PIPAEMGBIEE",
    "1680a BAMUM LETTER PHASE-A |PON PA NJI PIPAEMBA|MAEMBGBIEE|TU MAEMBA|NGANGU|MAEMVEUX",
    "1680f BAMUM LETTER PHASE-A |MANSUAE|MVEUAENGAM|SEUNYAM|NTOQPEN|KEUKEUTNDA|NKINDI|SUU|NGKUENZEUM|LAPAQ",
    "16818 BAMUM LETTER PHASE-A |LET KUT|NTAP MFAA|MAEKEUP|PASHAE|GHEUAERAE|PAMSHAE|MON NGGEUAET|NZUN MEUT",
    "16820 BAMUM LETTER PHASE-A |U YUQ NAE|GHEUAEGHEUAE|NTAP NTAA|SISA|MGBASA|MEUNJOMNDEUQ|MOOMPUQ|KAFA",
    "16828 BAMUM LETTER PHASE-A |PA LEERAEWA|NDA LEERAEWA|PET|MAEMKPEN|NIKA|PUP|TUAEP|LUAEP|SONJAM|TEUTEUWEN",
    "16832 BAMUM LETTER PHASE-A |MAENYI|KET|NDAANGGEUAET|KUOQ|MOOMEUT|SHUM|LOMMAE|FIRI|ROM|KPOQ|SOQ|MAP PIEET",
    "1683e BAMUM LETTER PHASE-A |SHIRAE|NTAP|SHOQ NSHUT YUM|NYIT MONGKEUAEQ|PAARAE|NKAARAE|UNKNOWN|NGGEN|MAESI",
    "16847 BAMUM LETTER PHASE-A |NJAM|MBANYI|NYET|TEUAEN|SOT|PAAM|NSHIEE|MAEM|NYI|KAQ|NSHA|VEE|LU|NEN|NAQ|MBAQ",
    "16857 BAMUM LETTER PHASE-B |NSHUET",
    "16858 BAMUM LETTER PHASE-B |TU MAEMGBIEE|SIEE|SET TU|LOM NTEUM|MBA MAELEE|KIEEM|YEURAE|MBAARAE|KAM|PEESHI",
    "16862 BAMUM LETTER PHASE-B |YAFU LEERAEWA|LAM NSHUT NYAM|NTIEE SHEUOQ|NDU NJAA|GHEUGHEUAEM|PIT|TU NSIEE",
    "16869 BAMUM LETTER PHASE-B |SHET NJAQ|SHEUAEQTU|MFON TEUAEQ|MBIT MBAAKET|NYI NTEUM|KEUPUQ|GHEUGHEN",
    "16870 BAMUM LETTER PHASE-B |KEUYEUX|LAANAE|PARUM|VEUM|NGKINDI MVOP|NGGEU MBU|WUAET|SAKEUAE|TAAM|MEUQ",
    "1687a BAMUM LETTER PHASE-B |NGGUOQ|NGGUOQ LARGE|MFIYAQ|SUE|MBEURI|MONTIEEN|NYAEMAE|PUNGAAM|MEUT NGGEET",
    "16883 BAMUM LETTER PHASE-B |FEUX|MBUOQ|FEE|KEUAEM|MA NJEUAENA|MA NJUQA|LET|NGGAAM|NSEN|MA|KIQ|NGOM",
    "1688f BAMUM LETTER PHASE-C |NGKUE MAEMBA|NZA|YUM|WANGKUOQ|NGGEN|NDEUAEREE|NGKAQ|GHARAE|MBEEKEET",
    "16898 BAMUM LETTER PHASE-C |GBAYI|NYIR MKPARAQ MEUN|NTU MBIT|MBEUM|PIRIEEN|NDOMBU|MBAA CABBAGE-TREE",
    "1689f BAMUM LETTER PHASE-C |KEUSHEUAEP|GHAP|KEUKAQ|YU MUOMAE|NZEUM|MBUE|NSEUAEN|MBIT|YEUQ|KPARAQ|KAA",
    "168aa BAMUM LETTER PHASE-C |SEUX|NDIDA|TAASHAE|NJUEQ|TITA YUE|SUAET|NGGUAEN NYAM|VEUX|NANSANAQ|MA KEUAERI",
    "168b4 BAMUM LETTER PHASE-C |NTAA|NGGUON|LAP|MBIRIEEN|MGBASAQ|NTEUNGBA|TEUTEUX|NGGUM|FUE|NDEUT|NSA|NSHAQ",
    "168c0 BAMUM LETTER PHASE-C |BUNG|VEUAEPEN|MBERAE|RU|NJAEM|LAM|TITUAEP|NSUOT NGOM|NJEEEE|KET|NGGU|MAESI",
    "168cc BAMUM LETTER PHASE-C |MBUAEM|LU|KUT|NJAM|NGOM|WUP|NGGUEET|NSOM|NTEN|KUOP NKAARAE|NSUN|NDAM|MA NSIEE",
    "168d9 BAMUM LETTER PHASE-C |YAA|NDAP|SHUEQ|SETFON|MBI|MAEMBA|MBANYI|KEUSEUX|MBEUX|KEUM|MBAA PICKET",
    "168e4 BAMUM LETTER PHASE-C |YUWOQ|NJEUX|MIEE|MUAE|SHIQ|KEN LAW|KEN FATIGUE|NGAQ|NAQ|LIQ|PIN|PEN|TET",
    "168f1 BAMUM LETTER PHASE-D |MBUO|WAP|NJI|MFON|NJIEE|LIEE|NJEUT|NSHEE|NGGAAMAE",
    "168fa BAMUM LETTER PHASE-D |NYAM|WUAEN|NGKUN|SHEE|NGKAP|KEUAETMEUN|TEUT|SHEUAE|NJAP|SUE|KET|YAEMMAE",
    "16906 BAMUM LETTER PHASE-D |KUOM|SAP|MFEUT|NDEUX|MALEERI|MEUT|SEUAEQ|YEN|NJEUAEM|KEUOT MBUAE|NGKEURI",
    "16911 BAMUM LETTER PHASE-D |TU|GHAA|NGKYEE|FEUFEUAET|NDEE|MGBOFUM|LEUAEP|NDON|MONI|MGBEUN|PUUT|MGBIEE|MFO",
    "1691e BAMUM LETTER PHASE-D |LUM|NSIEEP|MBAA|KWAET|NYET|TEUAEN|SOT|YUWOQ|KEUM|RAEM|TEEEE|NGKEUAEQ|MFEUAE",
    "1692b BAMUM LETTER PHASE-D |NSIEET|KEUP|PIP|PEUTAE|NYUE|LET|NGGAAM|MFIEE|NGGWAEN|YUOM|PAP|YUOP|NDAM|NTEUM",
    "16939 BAMUM LETTER PHASE-D |SUAE|KUN|NGGEUX|NGKIEE|TUOT|MEUN|KUQ|NSUM|TEUN|MAENJET|NGGAP|LEUM|NGGUOM",
    "16946 BAMUM LETTER PHASE-D |NSHUT|NJUEQ|GHEUAE|KU|REN OLD|TAE|TOQ|NYI|RII|LEEEE|MEEEE|M|SUU|MU|SHII|SHEUX",
    "16956 BAMUM LETTER PHASE-D |KYEE|NU|SHU|NTEE|PEE|NI|SHOQ|PUQ|MVOP|LOQ|REN MUCH|TI|NTUU|MBAA SEVEN|SAQ|FAA",
    "16966 BAMUM LETTER PHASE-E |NDAP|TOON|MBEUM|LAP|VOM|LOON|PAA|SOM|RAQ|NSHUOP",
    "16970 BAMUM LETTER PHASE-E |NDUN|PUAE|TAM|NGKA|KPEUX|WUO|SEE|NGGEUAET|PAAM|TOO|KUOP|LOM|NSHIEE|NGOP|MAEM",
    "1697f BAMUM LETTER PHASE-E |NGKEUX|NGOQ|NSHUE|RIMGBA|NJEUX|PEEM|SAA|NGGURAE|MGBA|GHEUX|NGKEUAEM|NJAEMLI",
    "1698b BAMUM LETTER PHASE-E |MAP|LOOT|NGGEEEE|NDIQ|TAEN NTEUM|SET|PUM|NDAA SOFTNESS|NGGUAESHAE NYAM",
    "16994 BAMUM LETTER PHASE-E |YIEE|GHEUN|TUAE|YEUAE|PO|TUMAE|KEUAE|SUAEN|TEUAEQ|VEUAE|WEUX|LAAM|PU|TAAQ",
    "169a2 BAMUM LETTER PHASE-E |GHAAMAE|NGEUREUT|SHEUAEQ|MGBEN|MBEE|NZAQ|NKOM|GBET|TUM|KUET|YAP|NYI CLEAVER",
    "169ae BAMUM LETTER PHASE-E |YIT|MFEUQ|NDIAQ|PIEEQ|YUEQ|LEUAEM|FUE|GBEUX|NGKUP|KET|MAE|NGKAAMI|GHET|FA",
    "169bc BAMUM LETTER PHASE-E |NTUM|PEUT|YEUM|NGGEUAE|NYI BETWEEN|NZUQ|POON|MIEE|FUET|NAE|MUAE|GHEUAE|FU I",
    "169c9 BAMUM LETTER PHASE-E |MVI|PUAQ|NGKUM|KUT|PIET|NTAP|YEUAET|NGGUP|PA PEOPLE|FU CALL|FOM|NJEE|A|TOQ",
    "169d7 BAMUM LETTER PHASE-E |O|I|LAQ|PA PLURAL|TAA|TAQ|NDAA MY HOUSE|SHIQ|YEUX|NGUAE|YUAEN|YOQ SWIMMING",
    "169e3 BAMUM LETTER PHASE-E |YOQ COVER|YUQ|YUN|KEUX|PEUX|NJEE EPOCH|PUE|WUE|FEE|VEE|LU|MI|REUX|RAE",
    "169f1 BAMUM LETTER PHASE-E |NGUAET|NGA|SHO|SHOQ|FU REMEDY|NA|PI|LOQ|KO|MEN|MA|MAQ|TEU|KI|MON|TEN|FAQ|GHOM",
    "16a03 BAMUM LETTER PHASE-F |KA|U|KU|EE|REE|TAE|NYI|LA|RII|RIEE|MEEEE|TAA|NDAA|NJAEM|M|SUU|SHII|SI",
    "16a15 BAMUM LETTER PHASE-F |SEUX|KYEE|KET|NUAE|NU|NJUAE|YOQ|SHU|YA|NSHA|PEUX|NTEE|WUE|PEE|RU|NI|REUX|KEN",
    "16a27 BAMUM LETTER PHASE-F |NGKWAEN|NGGA|SHO|PUAE|FOM|WA|LI|LOQ|KO|MBEN|REN|MA|MO|MBAA|TET|KPA|SAMBA|VUEQ",
    "16a40 MRO LETTER |TA|NGI|YO|MIM|BA|DA|A",
    "16a47 MRO LETTER |PHI|KHAI|HAO|DAI|CHU|KEAAE|OL|MAEM|NIN|PA|OO|O|RO|SHI|THEA|EA|WA|E|KO|LAN|LA|HAI|RI|TEK",
    "16a60 MRO DIGIT |ZERO|ONE|TWO|THREE|FOUR|FIVE|SIX|SEVEN|EIGHT|NINE;16a6e MRO |DANDA|DOUBLE DANDA",
    "16a70 TANGSA LETTER |OZ|OC|OQ|OX|AZ|AC|AQ|AX|VZ|VC|VQ|VX|EZ|EC|EQ|EX",
    "16a80 TANGSA LETTER |IZ|IC|IQ|IX|UZ|UC|UQ|UX|AWZ|AWC|AWQ|AWX|UIZ|UIC|UIQ|UIX|FINAL NG|LONG UEX|SHORT UEZ",
    "16a93 TANGSA LETTER |SHORT AWX|UEC|UEZ|UEQ|UEX|UIUZ|UIUC|UIUQ|UIUX|MZ|MC|MQ|MX|KA|KHA|GA|NGA|SA|YA|WA",
    "16aa7 TANGSA LETTER |PA|NYA|PHA|BA|MA|NA|HA|LA|HTA|TA|DA|RA|NHA|SHA|CA|TSA|GHA|HTTA|THA|XA|FA|DHA|CHA|ZA",
    "16ac0 TANGSA DIGIT |ZERO|ONE|TWO|THREE|FOUR|FIVE|SIX|SEVEN|EIGHT|NINE",
    "16ad0 BASSA VAH LETTER |ENNI|KA|SE|FA|MBE|YIE",
    "16ad6 BASSA VAH LETTER |GAH|DHII|KPAH|JO|HWAH|WA|ZO|GBU|DO|CE|UWU|TO|BA|VU|YEIN|PA|WADDA|A|O|OO|U|EE|E|I",
    "16af0 BASSA VAH COMBINING |HIGH TONE|LOW TONE|MID TONE|LOW-MID TONE|HIGH-LOW TONE;16af5 BASSA VAH FULL |STOP",
    "16b00 PAHAWH HMONG VOWEL |KEEB|KEEV|KIB|KIV|KAUB|KAUV|KUB|KUV|KEB|KEV|KAIB",
    "16b0b PAHAWH HMONG VOWEL |KAIV|KOOB|KOOV|KAWB|KAWV|KUAB|KUAV|KOB|KOV|KIAB|KIAV|KAB|KAV|KWB|KWV|KAAB|KAAV",
    "16b1c PAHAWH HMONG CONSONANT |VAU|NTSAU|LAU|HAU",
    "16b20 PAHAWH HMONG CONSONANT |NLAU|RAU|NKAU|QHAU|YAU|HLAU|MAU|CHAU|NCHAU|HNAU|PLHAU|NTHAU|NAU|AU|XAU|CAU",
    "16b30 PAHAWH HMONG MARK CIM |TUB|SO|KES|KHAV|SUAM|HOM|TAUM",
    "16b37 PAHAWH HMONG SIGN |VOS THOM|VOS TSHAB CEEB|CIM CHEEM|VOS THIAB|VOS FEEM|XYEEM NTXIV|XYEEM RHO",
    "16b3e PAHAWH HMONG SIGN |XYEEM TOV|XYEEM FAIB|VOS SEEV|MEEJ SUAB|VOS NRUA|IB YAM|XAUS|CIM TSOV ROG",
    "16b50 PAHAWH HMONG DIGIT |ZERO|ONE|TWO|THREE|FOUR|FIVE|SIX|SEVEN|EIGHT|NINE",
    "16b5b PAHAWH HMONG NUMBER |TENS|HUNDREDS|TEN THOUSANDS|MILLIONS|HUNDRED MILLIONS|TEN BILLIONS|TRILLIONS",
    "16b63 PAHAWH HMONG SIGN |VOS LUB|XYOO|HLI|THIRD-STAGE HLI",
    "16b67 PAHAWH HMONG SIGN |ZWJ THAJ|HNUB|NQIG|XIAB|NTUJ|AV|TXHEEJ CEEV|MEEJ TSEEB|TAU|LOS|MUS",
    "16b72 PAHAWH HMONG SIGN CIM |HAIS LUS NTOG NTOG|CUAM TSHOOJ|TXWV|TXWV CHWV|PUB DAWB|NRES TOS",
    "16b7d PAHAWH HMONG CLAN SIGN |TSHEEJ|YEEG|LIS",
    "16b80 PAHAWH HMONG CLAN SIGN |LAUJ|XYOOJ|KOO|HAWJ|MUAS|THOJ|TSAB|PHAB|KHAB|HAM|VAJ|FAJ|YAJ|TSWB|KWM|VWJ",
    "16e40 MEDEFAIDRIN CAPITAL LETTER |M",
    "16e41 MEDEFAIDRIN CAPITAL LETTER |S|V|W|ATIU|Z|KP|P|T|G|F|I|K|A|J|E|B|C|U|YU|L|Q|HP|NY|X|D|OE|N|R|O|AI|Y",
    "16e60 MEDEFAIDRIN SMALL LETTER |M|S|V|W|ATIU|Z|KP|P|T|G|F|I|K|A|J|E|B|C|U|YU|L|Q|HP|NY|X|D|OE|N|R|O|AI|Y",
    "16e80 MEDEFAIDRIN DIGIT |ZERO|ONE|TWO|THREE|FOUR|FIVE|SIX|SEVEN|EIGHT|NINE",
    "16e8a MEDEFAIDRIN NUMBER |TEN|ELEVEN|TWELVE|THIRTEEN|FOURTEEN|FIFTEEN|SIXTEEN|SEVENTEEN|EIGHTEEN|NINETEEN",
    "16e94 MEDEFAIDRIN DIGIT |ONE ALTERNATE FORM|TWO ALTERNATE FORM|THREE ALTERNATE FORM",
    "16e97 MEDEFAIDRIN |COMMA|FULL STOP|SYMBOL AIVA|EXCLAMATION OH;16f00 MIAO LETTER |PA|BA|YI PA|PLA|MA|MHA",
    "16f06 MIAO LETTER |ARCHAIC MA|FA|VA|VFA|TA|DA|YI TTA|YI TA|TTA|DDA|NA|NHA|YI NNA|ARCHAIC NA|NNA|NNHA|LA",
    "16f17 MIAO LETTER |LYA|LHA|LHYA|TLHA|DLHA|TLHYA|DLHYA|KA|GA|YI KA|QA|QGA|NGA|NGHA|ARCHAIC NGA|HA|XA|GHA",
    "16f29 MIAO LETTER |GHHA|TSSA|DZZA|NYA|NYHA|TSHA|DZHA|YI TSHA|YI DZHA|REFORMED TSHA|SHA|SSA|ZHA|ZSHA|TSA",
    "16f38 MIAO LETTER |DZA|YI TSA|SA|ZA|ZSA|ZZA|ZZSA|ARCHAIC ZZA|ZZYA|ZZSYA|WA|AH|HHA|BRI|SYI|DZYI|TE|TSE|RTE",
    "16f4f MIAO |SIGN CONSONANT MODIFIER BAR|LETTER NASALIZATION|SIGN ASPIRATION",
    "16f52 MIAO SIGN REFORMED |VOICING|ASPIRATION;16f54 MIAO VOWEL SIGN |A|AA|AHH|AN|ANG|O|OO",
    "16f5b MIAO VOWEL SIGN |WO|W|E|EN|ENG|OEY|I|IA|IAN|IANG|IO|IE|II|IU|ING|U|UA|UAN|UANG|UU|UEI|UNG|Y|YI|AE",
    "16f74 MIAO VOWEL SIGN |AEE|ERR|ROUNDED ERR|ER|ROUNDED ER|AI|EI|AU|OU|N|NG|UOG|YUI|OG|OER|VW|IG|EA|IONG|UI",
    "16f8f MIAO TONE |RIGHT|TOP RIGHT|ABOVE|BELOW;16f93 MIAO LETTER TONE-|2|3|4|5|6|7|8",
    "16f9a MIAO LETTER REFORMED TONE-|1|2|4|5|6|8;16fe0 |TANGUT ITERATION MARK|NUSHU ITERATION MARK",
    "16fe2 OLD CHINESE |HOOK MARK|ITERATION MARK;16fe4 KHITAN SMALL SCRIPT |FILLER",
    "16ff0 VIETNAMESE ALTERNATE READING MARK |CA|NHAY;18800 TANGUT COMPONENT-|001|002|003|004|005|006|007|008",
    "18808 TANGUT COMPONENT-|009|010|011|012|013|014|015|016|017|018|019|020|021|022|023|024|025|026|027|028",
    "1881c TANGUT COMPONENT-|029|030|031|032|033|034|035|036|037|038|039|040|041|042|043|044|045|046|047|048",
    "18830 TANGUT COMPONENT-|049|050|051|052|053|054|055|056|057|058|059|060|061|062|063|064|065|066|067|068",
    "18844 TANGUT COMPONENT-|069|070|071|072|073|074|075|076|077|078|079|080|081|082|083|084|085|086|087|088",
    "18858 TANGUT COMPONENT-|089|090|091|092|093|094|095|096|097|098|099|100|101|102|103|104|105|106|107|108",
    "1886c TANGUT COMPONENT-|109|110|111|112|113|114|115|116|117|118|119|120|121|122|123|124|125|126|127|128",
    "18880 TANGUT COMPONENT-|129|130|131|132|133|134|135|136|137|138|139|140|141|142|143|144|145|146|147|148",
    "18894 TANGUT COMPONENT-|149|150|151|152|153|154|155|156|157|158|159|160|161|162|163|164|165|166|167|168",
    "188a8 TANGUT COMPONENT-|169|170|171|172|173|174|175|176|177|178|179|180|181|182|183|184|185|186|187|188",
    "188bc TANGUT COMPONENT-|189|190|191|192|193|194|195|196|197|198|199|200|201|202|203|204|205|206|207|208",
    "188d0 TANGUT COMPONENT-|209|210|211|212|213|214|215|216|217|218|219|220|221|222|223|224|225|226|227|228",
    "188e4 TANGUT COMPONENT-|229|230|231|232|233|234|235|236|237|238|239|240|241|242|243|244|245|246|247|248",
    "188f8 TANGUT COMPONENT-|249|250|251|252|253|254|255|256|257|258|259|260|261|262|263|264|265|266|267|268",
    "1890c TANGUT COMPONENT-|269|270|271|272|273|274|275|276|277|278|279|280|281|282|283|284|285|286|287|288",
    "18920 TANGUT COMPONENT-|289|290|291|292|293|294|295|296|297|298|299|300|301|302|303|304|305|306|307|308",
    "18934 TANGUT COMPONENT-|309|310|311|312|313|314|315|316|317|318|319|320|321|322|323|324|325|326|327|328",
    "18948 TANGUT COMPONENT-|329|330|331|332|333|334|335|336|337|338|339|340|341|342|343|344|345|346|347|348",
    "1895c TANGUT COMPONENT-|349|350|351|352|353|354|355|356|357|358|359|360|361|362|363|364|365|366|367|368",
    "18970 TANGUT COMPONENT-|369|370|371|372|373|374|375|376|377|378|379|380|381|382|383|384|385|386|387|388",
    "18984 TANGUT COMPONENT-|389|390|391|392|393|394|395|396|397|398|399|400|401|402|403|404|405|406|407|408",
    "18998 TANGUT COMPONENT-|409|410|411|412|413|414|415|416|417|418|419|420|421|422|423|424|425|426|427|428",
    "189ac TANGUT COMPONENT-|429|430|431|432|433|434|435|436|437|438|439|440|441|442|443|444|445|446|447|448",
    "189c0 TANGUT COMPONENT-|449|450|451|452|453|454|455|456|457|458|459|460|461|462|463|464|465|466|467|468",
    "189d4 TANGUT COMPONENT-|469|470|471|472|473|474|475|476|477|478|479|480|481|482|483|484|485|486|487|488",
    "189e8 TANGUT COMPONENT-|489|490|491|492|493|494|495|496|497|498|499|500|501|502|503|504|505|506|507|508",
    "189fc TANGUT COMPONENT-|509|510|511|512|513|514|515|516|517|518|519|520|521|522|523|524|525|526|527|528",
    "18a10 TANGUT COMPONENT-|529|530|531|532|533|534|535|536|537|538|539|540|541|542|543|544|545|546|547|548",
    "18a24 TANGUT COMPONENT-|549|550|551|552|553|554|555|556|557|558|559|560|561|562|563|564|565|566|567|568",
    "18a38 TANGUT COMPONENT-|569|570|571|572|573|574|575|576|577|578|579|580|581|582|583|584|585|586|587|588",
    "18a4c TANGUT COMPONENT-|589|590|591|592|593|594|595|596|597|598|599|600|601|602|603|604|605|606|607|608",
    "18a60 TANGUT COMPONENT-|609|610|611|612|613|614|615|616|617|618|619|620|621|622|623|624|625|626|627|628",
    "18a74 TANGUT COMPONENT-|629|630|631|632|633|634|635|636|637|638|639|640|641|642|643|644|645|646|647|648",
    "18a88 TANGUT COMPONENT-|649|650|651|652|653|654|655|656|657|658|659|660|661|662|663|664|665|666|667|668",
    "18a9c TANGUT COMPONENT-|669|670|671|672|673|674|675|676|677|678|679|680|681|682|683|684|685|686|687|688",
    "18ab0 TANGUT COMPONENT-|689|690|691|692|693|694|695|696|697|698|699|700|701|702|703|704|705|706|707|708",
    "18ac4 TANGUT COMPONENT-|709|710|711|712|713|714|715|716|717|718|719|720|721|722|723|724|725|726|727|728",
    "18ad8 TANGUT COMPONENT-|729|730|731|732|733|734|735|736|737|738|739|740|741|742|743|744|745|746|747|748",
    "18aec TANGUT COMPONENT-|749|750|751|752|753|754|755|756|757|758|759|760|761|762|763|764|765|766|767|768",
    "1aff0 KATAKANA LETTER MINNAN TONE-|2|3|4|5;1aff5 KATAKANA LETTER MINNAN TONE-|7|8",
    "1aff7 KATAKANA LETTER MINNAN NASALIZED TONE-|1|2|3|4|5;1affd KATAKANA LETTER MINNAN NASALIZED TONE-|7|8",
    "1b000 |KATAKANA LETTER ARCHAIC E|HIRAGANA LETTER ARCHAIC YE|HENTAIGANA LETTER A-1",
    "1b003 HENTAIGANA LETTER |A-2|A-3|A-WO|I-1|I-2|I-3|I-4|U-1|U-2|U-3|U-4|U-5|E-2|E-3|E-4|E-5|E-6|O-1|O-2|O-3",
    "1b017 HENTAIGANA LETTER KA-|1|2|3|4|5|6|7|8|9|10|11|KE;1b023 HENTAIGANA LETTER KI-|1|2|3|4|5|6|7|8",
    "1b02b HENTAIGANA LETTER KU-|1|2|3|4|5|6|7",
    "1b032 HENTAIGANA LETTER |KE-1|KE-2|KE-3|KE-4|KE-5|KE-6|KO-1|KO-2|KO-3|KO-KI",
    "1b03c HENTAIGANA LETTER SA-|1|2|3|4|5|6|7|8;1b044 HENTAIGANA LETTER SI-|1|2|3|4|5|6",
    "1b04a HENTAIGANA LETTER SU-|1|2|3|4|5|6|7|8;1b052 HENTAIGANA LETTER SE-|1|2|3|4|5",
    "1b057 HENTAIGANA LETTER SO-|1|2|3|4|5|6|7",
    "1b05e HENTAIGANA LETTER |TA-1|TA-2|TA-3|TA-4|TI-1|TI-2|TI-3|TI-4|TI-5|TI-6|TI-7|TU-1|TU-2|TU-3|TU-4|TU-TO",
    "1b06e HENTAIGANA LETTER TE-|1|2|3|4|5|6|7|8|9;1b077 HENTAIGANA LETTER TO-|1|2|3|4|5|6|RA",
    "1b07e HENTAIGANA LETTER NA-|1|2|3|4|5|6|7|8|9;1b087 HENTAIGANA LETTER NI-|1|2|3|4|5|6|7|TE",
    "1b08f HENTAIGANA LETTER |NU-1|NU-2|NU-3|NE-1|NE-2|NE-3|NE-4|NE-5|NE-6|NE-KO|NO-1|NO-2|NO-3|NO-4|NO-5",
    "1b09e HENTAIGANA LETTER HA-|1|2|3|4|5|6|7|8|9|10|11;1b0a9 HENTAIGANA LETTER HI-|1|2|3|4|5|6|7",
    "1b0b0 HENTAIGANA LETTER |HU-1|HU-2|HU-3|HE-1|HE-2|HE-3|HE-4|HE-5|HE-6|HE-7",
    "1b0ba HENTAIGANA LETTER HO-|1|2|3|4|5|6|7|8;1b0c2 HENTAIGANA LETTER MA-|1|2|3|4|5|6|7",
    "1b0c9 HENTAIGANA LETTER MI-|1|2|3|4|5|6|7",
    "1b0d0 HENTAIGANA LETTER |MU-1|MU-2|MU-3|MU-4|ME-1|ME-2|ME-MA|MO-1|MO-2|MO-3|MO-4|MO-5|MO-6",
    "1b0dd HENTAIGANA LETTER YA-|1|2|3|4|5|YO",
    "1b0e3 HENTAIGANA LETTER |YU-1|YU-2|YU-3|YU-4|YO-1|YO-2|YO-3|YO-4|YO-5|YO-6|RA-1|RA-2|RA-3|RA-4",
    "1b0f1 HENTAIGANA LETTER |RI-1|RI-2|RI-3|RI-4|RI-5|RI-6|RI-7|RU-1|RU-2|RU-3|RU-4|RU-5|RU-6|RE-1|RE-2|RE-3",
    "1b101 HENTAIGANA LETTER |RE-4|RO-1|RO-2|RO-3|RO-4|RO-5|RO-6|WA-1|WA-2|WA-3|WA-4|WA-5|WI-1|WI-2|WI-3|WI-4",
    "1b111 HENTAIGANA LETTER |WI-5|WE-1|WE-2|WE-3|WE-4|WO-1|WO-2|WO-3|WO-4|WO-5|WO-6|WO-7|N-MU-MO-1|N-MU-MO-2",
    "1b11f HIRAGANA LETTER ARCHAIC |WU;1b120 KATAKANA LETTER ARCHAIC |YI|YE|WU;1b150 HIRAGANA LETTER SMALL |WI|WE|WO",
    "1b164 KATAKANA LETTER SMALL |WI|WE|WO|N",
    "1bc00 DUPLOYAN LETTER |H|X|P|T|F|K|L|B|D|V|G|R|P N|D S|F N|K M|R S|TH|SLOAN DH|DH|KK|SLOAN J|HL|LH|RH|M|N",
    "1bc1b DUPLOYAN LETTER |J|S|M N|N M|J M|S J|M WITH DOT|N WITH DOT|J WITH DOT|J WITH DOTS INSIDE AND ABOVE",
    "1bc25 DUPLOYAN LETTER |S WITH DOT|S WITH DOT BELOW|M S|N S|J S|S S|M N S|N M S|J M S|S J S|J S WITH DOT",
    "1bc30 DUPLOYAN LETTER |J N|J N S|S T|S T R|S P|S P R|T S|T R S|W|WH|W R|S N|S M|K R S|G R S|S K",
    "1bc40 DUPLOYAN LETTER |S K R|A|SLOAN OW|OA|O|AOU|I|E|IE|SHORT I|UI|EE|SLOAN EH|ROMANIAN I|SLOAN EE|LONG I",
    "1bc50 DUPLOYAN LETTER |YE|U|EU|XW|U N|LONG U|ROMANIAN U|UH|SLOAN U|OOH|OW|OU|WA|WO|WI|WEI|WOW|NASAL U",
    "1bc62 DUPLOYAN LETTER |NASAL O|NASAL I|NASAL A|PERNIN AN|PERNIN AM|SLOAN EN|SLOAN AN|SLOAN ON|VOCALIC M",
    "1bc70 DUPLOYAN AFFIX |LEFT HORIZONTAL SECANT|MID HORIZONTAL SECANT|RIGHT HORIZONTAL SECANT",
    "1bc73 DUPLOYAN AFFIX |LOW VERTICAL SECANT|MID VERTICAL SECANT|HIGH VERTICAL SECANT",
    "1bc76 DUPLOYAN AFFIX ATTACHED |SECANT|LEFT-TO-RIGHT SECANT|TANGENT|TAIL|E HOOK|I HOOK|TANGENT HOOK",
    "1bc80 DUPLOYAN AFFIX HIGH |ACUTE|TIGHT ACUTE|GRAVE|LONG GRAVE|DOT|CIRCLE|LINE|WAVE|VERTICAL",
    "1bc90 DUPLOYAN AFFIX LOW |ACUTE|TIGHT ACUTE|GRAVE|LONG GRAVE|DOT|CIRCLE|LINE|WAVE|VERTICAL|ARROW",
    "1bc9c DUPLOYAN |SIGN O WITH CROSS|THICK LETTER SELECTOR|DOUBLE MARK|PUNCTUATION CHINOOK FULL STOP",
    "1bca0 SHORTHAND FORMAT |LETTER OVERLAP|CONTINUING OVERLAP|DOWN STEP|UP STEP",
    "1cf00 ZNAMENNY COMBINING MARK |GORAZDO NIZKO S KRYZHEM ON LEFT|NIZKO S KRYZHEM ON LEFT|TSATA ON LEFT",
    "1cf03 ZNAMENNY COMBINING MARK |GORAZDO NIZKO ON LEFT|NIZKO ON LEFT|SREDNE ON LEFT|MALO POVYSHE ON LEFT",
    "1cf07 ZNAMENNY COMBINING MARK |POVYSHE ON LEFT|VYSOKO ON LEFT|MALO POVYSHE S KHOKHLOM ON LEFT",
    "1cf0a ZNAMENNY COMBINING MARK |POVYSHE S KHOKHLOM ON LEFT|VYSOKO S KHOKHLOM ON LEFT",
    "1cf0c ZNAMENNY COMBINING MARK |GORAZDO NIZKO S KRYZHEM ON RIGHT|NIZKO S KRYZHEM ON RIGHT",
    "1cf0e ZNAMENNY COMBINING MARK |TSATA ON RIGHT|GORAZDO NIZKO ON RIGHT|NIZKO ON RIGHT",
    "1cf11 ZNAMENNY COMBINING MARK |SREDNE ON RIGHT|MALO POVYSHE ON RIGHT|POVYSHE ON RIGHT|VYSOKO ON RIGHT",
    "1cf15 ZNAMENNY COMBINING MARK |MALO POVYSHE S KHOKHLOM ON RIGHT|POVYSHE S KHOKHLOM ON RIGHT",
    "1cf17 ZNAMENNY COMBINING MARK |VYSOKO S KHOKHLOM ON RIGHT|TSATA S KRYZHEM|MALO POVYSHE S KRYZHEM",
    "1cf1a ZNAMENNY COMBINING MARK |STRANNO MALO POVYSHE|POVYSHE S KRYZHEM|POVYSHE STRANNO|VYSOKO S KRYZHEM",
    "1cf1e ZNAMENNY COMBINING MARK |MALO POVYSHE STRANNO|GORAZDO VYSOKO|ZELO|ON|RAVNO|TIKHAYA|BORZAYA",
    "1cf25 ZNAMENNY COMBINING MARK |UDARKA|PODVERTKA|LOMKA|KUPNAYA|KACHKA|ZEVOK|SKOBA|RAZSEKA|KRYZH ON LEFT",
    "1cf30 ZNAMENNY COMBINING TONAL RANGE MARK |MRACHNO|SVETLO|TRESVETLO;1cf33 ZNAMENNY COMBINING MARK |ZADERZHKA",
    "1cf34 ZNAMENNY COMBINING MARK |DEMESTVENNY ZADERZHKA|OTSECHKA|PODCHASHIE|PODCHASHIE WITH VERTICAL STROKE",
    "1cf38 ZNAMENNY COMBINING MARK |CHASHKA|CHASHKA POLNAYA|OBLACHKO|SOROCHYA NOZHKA|TOCHKA|DVOETOCHIE",
    "1cf3e ZNAMENNY COMBINING |ATTACHING VERTICAL OMET|MARK CURVED OMET|MARK KRYZH|LOWER TONAL RANGE INDICATOR",
    "1cf42 ZNAMENNY PRIZNAK MODIFIER |LEVEL-2|LEVEL-3|DIRECTION FLIP|KRYZH|ROG",
    "1cf50 ZNAMENNY NEUME |KRYUK|KRYUK TIKHY",
    "1cf52 ZNAMENNY NEUME |PARAKLIT|DVA V CHELNU|KLYUCH|ZANOZHEK|STOPITSA|STOPITSA S OCHKOM|PEREVODKA",
    "1cf59 ZNAMENNY NEUME |PEREVODKA NEPOSTOYANNAYA|STOPITSA WITH SOROCHYA NOZHKA|CHELYUSTKA|PALKA|ZAPYATAYA",
    "1cf5e ZNAMENNY NEUME GOLUBCHIK |BORZY|TIKHY|MRACHNY|SVETLY|TRESVETLY",
    "1cf63 ZNAMENNY NEUME VRAKHIYA |PROSTAYA|MRACHNAYA|SVETLAYA|TRESVETLAYA",
    "1cf67 ZNAMENNY NEUME VRAKHIYA KLYUCHEVAYA |PROSTAYA|MRACHNAYA|SVETLAYA|TRESVETLAYA",
    "1cf6b ZNAMENNY NEUME |DOUBLE ZAPYATAYA|REVERSED CHELYUSTKA|DERBITSA|KHAMILO|CHASHKA|PODCHASHIE",
    "1cf71 ZNAMENNY NEUME SKAMEYTSA |MRACHNAYA|SVETLAYA|TRESVETLAYA|TIKHAYA;1cf75 ZNAMENNY NEUME DEMESTVENNY |KLYUCH",
    "1cf76 ZNAMENNY NEUME SKAMEYTSA |KLYUCHEVAYA SVETLAYA|KLYUCHENEPOSTOYANNAYA|KLYUCHEVAYA TIKHAYA",
    "1cf79 ZNAMENNY NEUME SKAMEYTSA DVOECHELNAYA |PROSTAYA|SVETLAYA|NEPOSTOYANNAYA|KLYUCHEVAYA",
    "1cf7d ZNAMENNY NEUME |SLOZHITIE|SLOZHITIE S ZAPYATOY",
    "1cf7f ZNAMENNY NEUME |SLOZHITIE ZAKRYTOE|SLOZHITIE S KRYZHEM|KRYZH|ROG|FITA|KOBYLA|ZMEYTSA|STATYA",
    "1cf87 ZNAMENNY NEUME STATYA |S ZAPYATOY|S KRYZHEM|S ZAPYATOY I KRYZHEM|S KRYZHEM I ZAPYATOY|ZAKRYTAYA",
    "1cf8c ZNAMENNY NEUME STATYA |ZAKRYTAYA S ZAPYATOY|S ROGOM|S DVUMYA ZAPYATYMI|S ZAPYATOY I PODCHASHIEM",
    "1cf90 ZNAMENNY NEUME |POLKULIZMY|STATYA NEPOSTOYANNAYA|STRELA PROSTAYA|STRELA MRACHNOTIKHAYA",
    "1cf94 ZNAMENNY NEUME STRELA |KRYZHEVAYA|POLUPOVODNAYA|POVODNAYA|NEPOSTOYANNAYA|KLYUCHEPOVODNAYA",
    "1cf99 ZNAMENNY NEUME STRELA |KLYUCHENEPOSTOYANNAYA|TIKHAYA PUTNAYA|DVOECHELNAYA|DVOECHELNOKRYZHEVAYA",
    "1cf9d ZNAMENNY NEUME STRELA |DVOECHELNOPOVODNAYA|DVOECHELNAYA KLYUCHEVAYA|DVOECHELNOPOVODNAYA KLYUCHEVAYA",
    "1cfa0 ZNAMENNY NEUME STRELA |GROMNAYA WITH SINGLE ZAPYATAYA|GROMOPOVODNAYA WITH SINGLE ZAPYATAYA",
    "1cfa2 ZNAMENNY NEUME STRELA |GROMNAYA|GROMOPOVODNAYA|GROMOPOVODNAYA WITH DOUBLE ZAPYATAYA|GROMOKRYZHEVAYA",
    "1cfa6 ZNAMENNY NEUME |STRELA GROMOKRYZHEVAYA POVODNAYA|MECHIK",
    "1cfa8 ZNAMENNY NEUME MECHIK |POVODNY|KLYUCHEVOY|KLYUCHEPOVODNY|KLYUCHENEPOSTOYANNY",
    "1cfac ZNAMENNY NEUME STRELA |TRYASOGLASNAYA|TRYASOPOVODNAYA|TRYASOSTRELNAYA",
    "1cfaf ZNAMENNY NEUME |OSOKA|OSOKA SVETLAYA|OSOKA TRESVETLAYA|OSOKA KRYUKOVAYA SVETLAYA",
    "1cfb3 ZNAMENNY NEUME OSOKA KLYUCHEVAYA |SVETLAYA|NEPOSTOYANNAYA",
    "1cfb5 ZNAMENNY NEUME STRELA |KRYUKOVAYA|KRYUKOVAYA POVODNAYA|KRYUKOVAYA GROMNAYA WITH SINGLE ZAPYATAYA",
    "1cfb8 ZNAMENNY NEUME STRELA KRYUKOVAYA GROMOPOVODNAYA WITH SINGLE |ZAPYATAYA",
    "1cfb9 ZNAMENNY NEUME STRELA KRYUKOVAYA |GROMNAYA|GROMOPOVODNAYA|GROMOPOVODNAYA WITH DOUBLE ZAPYATAYA",
    "1cfbc ZNAMENNY NEUME STRELA KRYUKOVAYA |GROMOKRYZHEVAYA|GROMOKRYZHEVAYA POVODNAYA|TRYASKA",
    "1cfbf ZNAMENNY NEUME |KUFISMA|OBLAKO|DUDA|NEMKA|PAUK"]

end EdgeRoutes.Text
