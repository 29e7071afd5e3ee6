/-! Names of characters: syllabaries and further scripts in use, presentation forms, and wide and narrow forms. -/

namespace EdgeRoutes.Text

def syllabaryNames : List String :=
  ["a000 YI SYLLABLE |IT|IX|I|IP|IET|IEX|IE|IEP|AT|AX|A|AP|UOX|UO|UOP",
    "a00f YI SYLLABLE |OT|OX|O|OP|EX|E|WU|BIT|BIX|BI|BIP|BIET|BIEX|BIE|BIEP|BAT|BAX|BA|BAP|BUOX|BUO|BUOP|BOT",
    "a026 YI SYLLABLE |BOX|BO|BOP|BEX|BE|BEP|BUT|BUX|BU|BUP|BURX|BUR|BYT|BYX|BY|BYP|BYRX|BYR|PIT|PIX|PI|PIP",
    "a03c YI SYLLABLE |PIEX|PIE|PIEP|PAT|PAX|PA|PAP|PUOX|PUO|PUOP|POT|POX|PO|POP|PUT|PUX|PU|PUP|PURX|PUR|PYT",
    "a051 YI SYLLABLE |PYX|PY|PYP|PYRX|PYR|BBIT|BBIX|BBI|BBIP|BBIET|BBIEX|BBIE|BBIEP|BBAT|BBAX|BBA|BBAP|BBUOX",
    "a063 YI SYLLABLE |BBUO|BBUOP|BBOT|BBOX|BBO|BBOP|BBEX|BBE|BBEP|BBUT|BBUX|BBU|BBUP|BBURX|BBUR|BBYT|BBYX",
    "a074 YI SYLLABLE |BBY|BBYP|NBIT|NBIX|NBI|NBIP|NBIEX|NBIE|NBIEP|NBAT|NBAX|NBA|NBAP|NBOT|NBOX|NBO|NBOP|NBUT",
    "a086 YI SYLLABLE |NBUX|NBU|NBUP|NBURX|NBUR|NBYT|NBYX|NBY|NBYP|NBYRX|NBYR|HMIT|HMIX|HMI|HMIP|HMIEX|HMIE",
    "a097 YI SYLLABLE |HMIEP|HMAT|HMAX|HMA|HMAP|HMUOX|HMUO|HMUOP|HMOT|HMOX|HMO|HMOP|HMUT|HMUX|HMU|HMUP|HMURX",
    "a0a8 YI SYLLABLE |HMUR|HMYX|HMY|HMYP|HMYRX|HMYR|MIT|MIX|MI|MIP|MIEX|MIE|MIEP|MAT|MAX|MA|MAP|MUOT|MUOX|MUO",
    "a0bc YI SYLLABLE |MUOP|MOT|MOX|MO|MOP|MEX|ME|MUT|MUX|MU|MUP|MURX|MUR|MYT|MYX|MY|MYP|FIT|FIX|FI|FIP|FAT",
    "a0d2 YI SYLLABLE |FAX|FA|FAP|FOX|FO|FOP|FUT|FUX|FU|FUP|FURX|FUR|FYT|FYX|FY|FYP|VIT|VIX|VI|VIP|VIET|VIEX",
    "a0e8 YI SYLLABLE |VIE|VIEP|VAT|VAX|VA|VAP|VOT|VOX|VO|VOP|VEX|VEP|VUT|VUX|VU|VUP|VURX|VUR|VYT|VYX|VY|VYP",
    "a0fe YI SYLLABLE |VYRX|VYR|DIT|DIX|DI|DIP|DIEX|DIE|DIEP|DAT|DAX|DA|DAP|DUOX|DUO|DOT|DOX|DO|DOP|DEX|DE|DEP",
    "a114 YI SYLLABLE |DUT|DUX|DU|DUP|DURX|DUR|TIT|TIX|TI|TIP|TIEX|TIE|TIEP|TAT|TAX|TA|TAP|TUOT|TUOX|TUO|TUOP",
    "a129 YI SYLLABLE |TOT|TOX|TO|TOP|TEX|TE|TEP|TUT|TUX|TU|TUP|TURX|TUR|DDIT|DDIX|DDI|DDIP|DDIEX|DDIE|DDIEP",
    "a13d YI SYLLABLE |DDAT|DDAX|DDA|DDAP|DDUOX|DDUO|DDUOP|DDOT|DDOX|DDO|DDOP|DDEX|DDE|DDEP|DDUT|DDUX|DDU|DDUP",
    "a14f YI SYLLABLE |DDURX|DDUR|NDIT|NDIX|NDI|NDIP|NDIEX|NDIE|NDAT|NDAX|NDA|NDAP|NDOT|NDOX|NDO|NDOP|NDEX|NDE",
    "a161 YI SYLLABLE |NDEP|NDUT|NDUX|NDU|NDUP|NDURX|NDUR|HNIT|HNIX|HNI|HNIP|HNIET|HNIEX|HNIE|HNIEP|HNAT|HNAX",
    "a172 YI SYLLABLE |HNA|HNAP|HNUOX|HNUO|HNOT|HNOX|HNOP|HNEX|HNE|HNEP|HNUT|NIT|NIX|NI|NIP|NIEX|NIE|NIEP|NAX",
    "a185 YI SYLLABLE |NA|NAP|NUOX|NUO|NUOP|NOT|NOX|NO|NOP|NEX|NE|NEP|NUT|NUX|NU|NUP|NURX|NUR|HLIT|HLIX|HLI",
    "a19a YI SYLLABLE |HLIP|HLIEX|HLIE|HLIEP|HLAT|HLAX|HLA|HLAP|HLUOX|HLUO|HLUOP|HLOX|HLO|HLOP|HLEX|HLE|HLEP",
    "a1ab YI SYLLABLE |HLUT|HLUX|HLU|HLUP|HLURX|HLUR|HLYT|HLYX|HLY|HLYP|HLYRX|HLYR|LIT|LIX|LI|LIP|LIET|LIEX",
    "a1bd YI SYLLABLE |LIE|LIEP|LAT|LAX|LA|LAP|LUOT|LUOX|LUO|LUOP|LOT|LOX|LO|LOP|LEX|LE|LEP|LUT|LUX|LU|LUP",
    "a1d2 YI SYLLABLE |LURX|LUR|LYT|LYX|LY|LYP|LYRX|LYR|GIT|GIX|GI|GIP|GIET|GIEX|GIE|GIEP|GAT|GAX|GA|GAP|GUOT",
    "a1e7 YI SYLLABLE |GUOX|GUO|GUOP|GOT|GOX|GO|GOP|GET|GEX|GE|GEP|GUT|GUX|GU|GUP|GURX|GUR|KIT|KIX|KI|KIP|KIEX",
    "a1fd YI SYLLABLE |KIE|KIEP|KAT|KAX|KA|KAP|KUOX|KUO|KUOP|KOT|KOX|KO|KOP|KET|KEX|KE|KEP|KUT|KUX|KU|KUP|KURX",
    "a213 YI SYLLABLE |KUR|GGIT|GGIX|GGI|GGIEX|GGIE|GGIEP|GGAT|GGAX|GGA|GGAP|GGUOT|GGUOX|GGUO|GGUOP|GGOT|GGOX",
    "a224 YI SYLLABLE |GGO|GGOP|GGET|GGEX|GGE|GGEP|GGUT|GGUX|GGU|GGUP|GGURX|GGUR|MGIEX|MGIE|MGAT|MGAX|MGA|MGAP",
    "a236 YI SYLLABLE |MGUOX|MGUO|MGUOP|MGOT|MGOX|MGO|MGOP|MGEX|MGE|MGEP|MGUT|MGUX|MGU|MGUP|MGURX|MGUR|HXIT",
    "a247 YI SYLLABLE |HXIX|HXI|HXIP|HXIET|HXIEX|HXIE|HXIEP|HXAT|HXAX|HXA|HXAP|HXUOT|HXUOX|HXUO|HXUOP|HXOT",
    "a257 YI SYLLABLE |HXOX|HXO|HXOP|HXEX|HXE|HXEP|NGIEX|NGIE|NGIEP|NGAT|NGAX|NGA|NGAP|NGUOT|NGUOX|NGUO|NGOT",
    "a268 YI SYLLABLE |NGOX|NGO|NGOP|NGEX|NGE|NGEP|HIT|HIEX|HIE|HAT|HAX|HA|HAP|HUOT|HUOX|HUO|HUOP|HOT|HOX|HO",
    "a27c YI SYLLABLE |HOP|HEX|HE|HEP|WAT|WAX|WA|WAP|WUOX|WUO|WUOP|WOX|WO|WOP|WEX|WE|WEP|ZIT|ZIX|ZI|ZIP|ZIEX",
    "a292 YI SYLLABLE |ZIE|ZIEP|ZAT|ZAX|ZA|ZAP|ZUOX|ZUO|ZUOP|ZOT|ZOX|ZO|ZOP|ZEX|ZE|ZEP|ZUT|ZUX|ZU|ZUP|ZURX|ZUR",
    "a2a8 YI SYLLABLE |ZYT|ZYX|ZY|ZYP|ZYRX|ZYR|CIT|CIX|CI|CIP|CIET|CIEX|CIE|CIEP|CAT|CAX|CA|CAP|CUOX|CUO|CUOP",
    "a2bd YI SYLLABLE |COT|COX|CO|COP|CEX|CE|CEP|CUT|CUX|CU|CUP|CURX|CUR|CYT|CYX|CY|CYP|CYRX|CYR|ZZIT|ZZIX",
    "a2d2 YI SYLLABLE |ZZI|ZZIP|ZZIET|ZZIEX|ZZIE|ZZIEP|ZZAT|ZZAX|ZZA|ZZAP|ZZOX|ZZO|ZZOP|ZZEX|ZZE|ZZEP|ZZUX",
    "a2e3 YI SYLLABLE |ZZU|ZZUP|ZZURX|ZZUR|ZZYT|ZZYX|ZZY|ZZYP|ZZYRX|ZZYR|NZIT|NZIX|NZI|NZIP|NZIEX|NZIE|NZIEP",
    "a2f4 YI SYLLABLE |NZAT|NZAX|NZA|NZAP|NZUOX|NZUO|NZOX|NZOP|NZEX|NZE|NZUX|NZU|NZUP|NZURX|NZUR|NZYT|NZYX|NZY",
    "a306 YI SYLLABLE |NZYP|NZYRX|NZYR|SIT|SIX|SI|SIP|SIEX|SIE|SIEP|SAT|SAX|SA|SAP|SUOX|SUO|SUOP|SOT|SOX|SO",
    "a31a YI SYLLABLE |SOP|SEX|SE|SEP|SUT|SUX|SU|SUP|SURX|SUR|SYT|SYX|SY|SYP|SYRX|SYR|SSIT|SSIX|SSI|SSIP|SSIEX",
    "a32f YI SYLLABLE |SSIE|SSIEP|SSAT|SSAX|SSA|SSAP|SSOT|SSOX|SSO|SSOP|SSEX|SSE|SSEP|SSUT|SSUX|SSU|SSUP|SSYT",
    "a341 YI SYLLABLE |SSYX|SSY|SSYP|SSYRX|SSYR|ZHAT|ZHAX|ZHA|ZHAP|ZHUOX|ZHUO|ZHUOP|ZHOT|ZHOX|ZHO|ZHOP|ZHET",
    "a352 YI SYLLABLE |ZHEX|ZHE|ZHEP|ZHUT|ZHUX|ZHU|ZHUP|ZHURX|ZHUR|ZHYT|ZHYX|ZHY|ZHYP|ZHYRX|ZHYR|CHAT|CHAX",
    "a363 YI SYLLABLE |CHA|CHAP|CHUOT|CHUOX|CHUO|CHUOP|CHOT|CHOX|CHO|CHOP|CHET|CHEX|CHE|CHEP|CHUX|CHU|CHUP",
    "a374 YI SYLLABLE |CHURX|CHUR|CHYT|CHYX|CHY|CHYP|CHYRX|CHYR|RRAX|RRA|RRUOX|RRUO|RROT|RROX|RRO|RROP|RRET",
    "a385 YI SYLLABLE |RREX|RRE|RREP|RRUT|RRUX|RRU|RRUP|RRURX|RRUR|RRYT|RRYX|RRY|RRYP|RRYRX|RRYR|NRAT|NRAX",
    "a396 YI SYLLABLE |NRA|NRAP|NROX|NRO|NROP|NRET|NREX|NRE|NREP|NRUT|NRUX|NRU|NRUP|NRURX|NRUR|NRYT|NRYX|NRY",
    "a3a8 YI SYLLABLE |NRYP|NRYRX|NRYR|SHAT|SHAX|SHA|SHAP|SHUOX|SHUO|SHUOP|SHOT|SHOX|SHO|SHOP|SHET|SHEX|SHE",
    "a3b9 YI SYLLABLE |SHEP|SHUT|SHUX|SHU|SHUP|SHURX|SHUR|SHYT|SHYX|SHY|SHYP|SHYRX|SHYR|RAT|RAX|RA|RAP|RUOX",
    "a3cb YI SYLLABLE |RUO|RUOP|ROT|ROX|RO|ROP|REX|RE|REP|RUT|RUX|RU|RUP|RURX|RUR|RYT|RYX|RY|RYP|RYRX|RYR|JIT",
    "a3e1 YI SYLLABLE |JIX|JI|JIP|JIET|JIEX|JIE|JIEP|JUOT|JUOX|JUO|JUOP|JOT|JOX|JO|JOP|JUT|JUX|JU|JUP|JURX|JUR",
    "a3f6 YI SYLLABLE |JYT|JYX|JY|JYP|JYRX|JYR|QIT|QIX|QI|QIP|QIET|QIEX|QIE|QIEP|QUOT|QUOX|QUO|QUOP|QOT|QOX",
    "a40a YI SYLLABLE |QO|QOP|QUT|QUX|QU|QUP|QURX|QUR|QYT|QYX|QY|QYP|QYRX|QYR|JJIT|JJIX|JJI|JJIP|JJIET|JJIEX",
    "a41e YI SYLLABLE |JJIE|JJIEP|JJUOX|JJUO|JJUOP|JJOT|JJOX|JJO|JJOP|JJUT|JJUX|JJU|JJUP|JJURX|JJUR|JJYT|JJYX",
    "a42f YI SYLLABLE |JJY|JJYP|NJIT|NJIX|NJI|NJIP|NJIET|NJIEX|NJIE|NJIEP|NJUOX|NJUO|NJOT|NJOX|NJO|NJOP|NJUX",
    "a440 YI SYLLABLE |NJU|NJUP|NJURX|NJUR|NJYT|NJYX|NJY|NJYP|NJYRX|NJYR|NYIT|NYIX|NYI|NYIP|NYIET|NYIEX|NYIE",
    "a451 YI SYLLABLE |NYIEP|NYUOX|NYUO|NYUOP|NYOT|NYOX|NYO|NYOP|NYUT|NYUX|NYU|NYUP|XIT|XIX|XI|XIP|XIET|XIEX",
    "a463 YI SYLLABLE |XIE|XIEP|XUOX|XUO|XOT|XOX|XO|XOP|XYT|XYX|XY|XYP|XYRX|XYR|YIT|YIX|YI|YIP|YIET|YIEX|YIE",
    "a478 YI SYLLABLE |YIEP|YUOT|YUOX|YUO|YUOP|YOT|YOX|YO|YOP|YUT|YUX|YU|YUP|YURX|YUR|YYT|YYX|YY|YYP|YYRX|YYR",
    "a490 YI RADICAL |QOT|LI|KIT|NYIP|CYP|SSI|GGOP|GEP|MI|HXIT|LYR|BBUT",
    "a49c YI RADICAL |MOP|YO|PUT|HXUO|TAT|GA|ZUP|CYT|DDUR|BUR|GGUO|NYOP|TU|OP|JJUT|ZOT|PYT|HMO|YIT|VUR|SHY|VEP",
    "a4b2 YI RADICAL |ZA|JO|NZUP|JJY|GOT|JJIE|WO|DU|SHUR|LIE|CY|CUOP|CIP|HXOP|SHAT|ZUR|SHOP|CHE|ZZIET|NBIE|KE",
    "a4d0 LISU LETTER |BA|PA|PHA|DA|TA|THA|GA|KA|KHA|JA|CA|CHA|DZA|TSA|TSHA|MA|NA|LA|SA",
    "a4e3 LISU LETTER |ZHA|ZA|NGA|HA|XA|HHA|FA|WA|SHA|YA|GHA|A|AE|E|EU|I|O|U|UE|UH|OE|TONE MYA TI|TONE NA PO",
    "a4fa LISU LETTER TONE MYA |CYA|BO|NA|JEU;a4fe LISU PUNCTUATION |COMMA|FULL STOP",
    "a500 VAI SYLLABLE |EE|EEN|HEE|WEE|WEEN|PEE|BHEE|BEE|MBEE|KPEE|MGBEE|GBEE|FEE|VEE|TEE|THEE|DHEE|DHHEE",
    "a512 VAI SYLLABLE |LEE|REE|DEE|NDEE|SEE|SHEE|ZEE|ZHEE|CEE|JEE|NJEE|YEE|KEE|NGGEE|GEE|MEE|NEE|NYEE|I|IN|HI",
    "a527 VAI SYLLABLE |HIN|WI|WIN|PI|BHI|BI|MBI|KPI|MGBI|GBI|FI|VI|TI|THI|DHI|DHHI|LI|RI|DI|NDI|SI|SHI|ZI|ZHI",
    "a53f VAI SYLLABLE |CI|JI|NJI|YI|KI|NGGI|GI|MI|NI|NYI|A|AN|NGAN|HA|HAN|WA|WAN|PA|BHA|BA|MBA|KPA|KPAN|MGBA",
    "a557 VAI SYLLABLE |GBA|FA|VA|TA|THA|DHA|DHHA|LA|RA|DA|NDA|SA|SHA|ZA|ZHA|CA|JA|NJA|YA|KA|KAN|NGGA|GA|MA|NA",
    "a570 VAI SYLLABLE |NYA|OO|OON|HOO|WOO|WOON|POO|BHOO|BOO|MBOO|KPOO|MGBOO|GBOO|FOO|VOO|TOO|THOO|DHOO|DHHOO",
    "a583 VAI SYLLABLE |LOO|ROO|DOO|NDOO|SOO|SHOO|ZOO|ZHOO|COO|JOO|NJOO|YOO|KOO|NGGOO|GOO|MOO|NOO|NYOO|U|UN|HU",
    "a598 VAI SYLLABLE |HUN|WU|WUN|PU|BHU|BU|MBU|KPU|MGBU|GBU|FU|VU|TU|THU|DHU|DHHU|LU|RU|DU|NDU|SU|SHU|ZU|ZHU",
    "a5b0 VAI SYLLABLE |CU|JU|NJU|YU|KU|NGGU|GU|MU|NU|NYU|O|ON|NGON|HO|HON|WO|WON|PO|BHO|BO|MBO|KPO|MGBO|GBO",
    "a5c8 VAI SYLLABLE |GBON|FO|VO|TO|THO|DHO|DHHO|LO|RO|DO|NDO|SO|SHO|ZO|ZHO|CO|JO|NJO|YO|KO|NGGO|GO|MO|NO",
    "a5e0 VAI SYLLABLE |NYO|E|EN|NGEN|HE|HEN|WE|WEN|PE|BHE|BE|MBE|KPE|KPEN|MGBE|GBE|GBEN|FE|VE|TE|THE|DHE|DHHE",
    "a5f7 VAI SYLLABLE |LE|RE|DE|NDE|SE|SHE|ZE|ZHE|CE|JE|NJE|YE|KE|NGGE|NGGEN|GE|GEN|ME|NE|NYE|NG|LENGTHENER",
    "a60d VAI |COMMA|FULL STOP|QUESTION MARK;a610 VAI SYLLABLE NDOLE |FA|KA|SOO",
    "a613 VAI SYMBOL |FEENG|KEENG|TING|NII|BANG|FAA|TAA|DANG|DOONG|KUNG|TONG|DO-O|JONG",
    "a620 VAI DIGIT |ZERO|ONE|TWO|THREE|FOUR|FIVE|SIX|SEVEN|EIGHT|NINE;a62a VAI SYLLABLE NDOLE |MA|DO",
    "a640 CYRILLIC |CAPITAL LETTER ZEMLYA|SMALL LETTER ZEMLYA|CAPITAL LETTER DZELO|SMALL LETTER DZELO",
    "a644 CYRILLIC |CAPITAL LETTER REVERSED DZE|SMALL LETTER REVERSED DZE|CAPITAL LETTER IOTA",
    "a647 CYRILLIC |SMALL LETTER IOTA|CAPITAL LETTER DJERV|SMALL LETTER DJERV|CAPITAL LETTER MONOGRAPH UK",
    "a64b CYRILLIC |SMALL LETTER MONOGRAPH UK|CAPITAL LETTER BROAD OMEGA|SMALL LETTER BROAD OMEGA",
    "a64e CYRILLIC |CAPITAL LETTER NEUTRAL YER|SMALL LETTER NEUTRAL YER|CAPITAL LETTER YERU WITH BACK YER",
    "a651 CYRILLIC |SMALL LETTER YERU WITH BACK YER|CAPITAL LETTER IOTIFIED YAT",
    "a653 CYRILLIC |SMALL LETTER IOTIFIED YAT|CAPITAL LETTER REVERSED YU|SMALL LETTER REVERSED YU",
    "a656 CYRILLIC |CAPITAL LETTER IOTIFIED A|SMALL LETTER IOTIFIED A|CAPITAL LETTER CLOSED LITTLE YUS",
    "a659 CYRILLIC |SMALL LETTER CLOSED LITTLE YUS|CAPITAL LETTER BLENDED YUS|SMALL LETTER BLENDED YUS",
    "a65c CYRILLIC |CAPITAL LETTER IOTIFIED CLOSED LITTLE YUS|SMALL LETTER IOTIFIED CLOSED LITTLE YUS",
    "a65e CYRILLIC |CAPITAL LETTER YN|SMALL LETTER YN|CAPITAL LETTER REVERSED TSE|SMALL LETTER REVERSED TSE",
    "a662 CYRILLIC |CAPITAL LETTER SOFT DE|SMALL LETTER SOFT DE|CAPITAL LETTER SOFT EL|SMALL LETTER SOFT EL",
    "a666 CYRILLIC |CAPITAL LETTER SOFT EM|SMALL LETTER SOFT EM|CAPITAL LETTER MONOCULAR O",
    "a669 CYRILLIC |SMALL LETTER MONOCULAR O|CAPITAL LETTER BINOCULAR O|SMALL LETTER BINOCULAR O",
    "a66c CYRILLIC |CAPITAL LETTER DOUBLE MONOCULAR O|SMALL LETTER DOUBLE MONOCULAR O|LETTER MULTIOCULAR O",
    "a66f COMBINING CYRILLIC |VZMET|TEN MILLIONS SIGN|HUNDRED MILLIONS SIGN|THOUSAND MILLIONS SIGN",
    "a673 SLAVONIC |ASTERISK;a674 COMBINING CYRILLIC LETTER |UKRAINIAN IE|I|YI|U|HARD SIGN|YERU|SOFT SIGN|OMEGA",
    "a67c COMBINING CYRILLIC |KAVYKA|PAYEROK;a67e CYRILLIC |KAVYKA|PAYEROK|CAPITAL LETTER DWE|SMALL LETTER DWE",
    "a682 CYRILLIC |CAPITAL LETTER DZWE|SMALL LETTER DZWE|CAPITAL LETTER ZHWE|SMALL LETTER ZHWE",
    "a686 CYRILLIC |CAPITAL LETTER CCHE|SMALL LETTER CCHE|CAPITAL LETTER DZZE|SMALL LETTER DZZE",
    "a68a CYRILLIC |CAPITAL LETTER TE WITH MIDDLE HOOK|SMALL LETTER TE WITH MIDDLE HOOK|CAPITAL LETTER TWE",
    "a68d CYRILLIC |SMALL LETTER TWE|CAPITAL LETTER TSWE|SMALL LETTER TSWE|CAPITAL LETTER TSSE",
    "a691 CYRILLIC |SMALL LETTER TSSE|CAPITAL LETTER TCHE|SMALL LETTER TCHE|CAPITAL LETTER HWE",
    "a695 CYRILLIC |SMALL LETTER HWE|CAPITAL LETTER SHWE|SMALL LETTER SHWE|CAPITAL LETTER DOUBLE O",
    "a699 CYRILLIC |SMALL LETTER DOUBLE O|CAPITAL LETTER CROSSED O|SMALL LETTER CROSSED O",
    "a69c MODIFIER LETTER CYRILLIC |HARD SIGN|SOFT SIGN;a69e COMBINING CYRILLIC LETTER |EF|IOTIFIED E",
    "a6a0 BAMUM LETTER |A|KA|U|KU|EE|REE|TAE|O|NYI|I|LA|PA|RII|RIEE|LEEEE|MEEEE|TAA|NDAA|NJAEM",
    "a6b3 BAMUM LETTER |M|SUU|MU|SHII|SI|SHEUX|SEUX|KYEE|KET|NUAE|NU|NJUAE|YOQ|SHU|YUQ|YA|NSHA|KEUX|PEUX|NJEE",
    "a6c7 BAMUM LETTER |NTEE|PUE|WUE|PEE|FEE|RU|LU|MI|NI|REUX|RAE|KEN|NGKWAEN|NGGA|NGA|SHO|PUAE|FU|FOM|WA|NA",
    "a6dc BAMUM LETTER |LI|PI|LOQ|KO|MBEN|REN|MEN|MA|TI|KI|MO|MBAA|TET|KPA|TEN|NTUU|SAMBA|FAAMAE|KOVUU|KOGHOM",
    "a6f0 BAMUM COMBINING MARK |KOQNDON|TUKWENTIS;a6f2 BAMUM |NJAEMLI|FULL STOP|COLON|COMMA|SEMICOLON|QUESTION MARK",
    "a700 MODIFIER LETTER CHINESE TONE |YIN PING|YANG PING|YIN SHANG|YANG SHANG|YIN QU|YANG QU|YIN RU|YANG RU",
    "a708 MODIFIER LETTER |EXTRA-HIGH DOTTED TONE BAR|HIGH DOTTED TONE BAR|MID DOTTED TONE BAR",
    "a70b MODIFIER LETTER |LOW DOTTED TONE BAR|EXTRA-LOW DOTTED TONE BAR|EXTRA-HIGH DOTTED LEFT-STEM TONE BAR",
    "a70e MODIFIER LETTER |HIGH DOTTED LEFT-STEM TONE BAR|MID DOTTED LEFT-STEM TONE BAR",
    "a710 MODIFIER LETTER |LOW DOTTED LEFT-STEM TONE BAR|EXTRA-LOW DOTTED LEFT-STEM TONE BAR",
    "a712 MODIFIER LETTER |EXTRA-HIGH LEFT-STEM TONE BAR|HIGH LEFT-STEM TONE BAR",
    "a714 MODIFIER LETTER |MID LEFT-STEM TONE BAR|LOW LEFT-STEM TONE BAR|EXTRA-LOW LEFT-STEM TONE BAR",
    "a717 MODIFIER LETTER |DOT VERTICAL BAR|DOT SLASH|DOT HORIZONTAL BAR|LOWER RIGHT CORNER ANGLE",
    "a71b MODIFIER LETTER RAISED |UP ARROW|DOWN ARROW|EXCLAMATION MARK|INVERTED EXCLAMATION MARK",
    "a71f MODIFIER LETTER |LOW INVERTED EXCLAMATION MARK|STRESS AND HIGH TONE|STRESS AND LOW TONE",
    "a722 LATIN CAPITAL LETTER EGYPTOLOGICAL |ALEF",
    "a723 LATIN |SMALL LETTER EGYPTOLOGICAL ALEF|CAPITAL LETTER EGYPTOLOGICAL AIN",
    "a725 LATIN |SMALL LETTER EGYPTOLOGICAL AIN|CAPITAL LETTER HENG|SMALL LETTER HENG|CAPITAL LETTER TZ",
    "a729 LATIN |SMALL LETTER TZ|CAPITAL LETTER TRESILLO|SMALL LETTER TRESILLO|CAPITAL LETTER CUATRILLO",
    "a72d LATIN |SMALL LETTER CUATRILLO|CAPITAL LETTER CUATRILLO WITH COMMA|SMALL LETTER CUATRILLO WITH COMMA",
    "a730 LATIN LETTER SMALL CAPITAL |F|S;a732 LATIN |CAPITAL LETTER AA|SMALL LETTER AA|CAPITAL LETTER AO",
    "a735 LATIN |SMALL LETTER AO|CAPITAL LETTER AU|SMALL LETTER AU|CAPITAL LETTER AV|SMALL LETTER AV",
    "a73a LATIN |CAPITAL LETTER AV WITH HORIZONTAL BAR|SMALL LETTER AV WITH HORIZONTAL BAR|CAPITAL LETTER AY",
    "a73d LATIN |SMALL LETTER AY|CAPITAL LETTER REVERSED C WITH DOT|SMALL LETTER REVERSED C WITH DOT",
    "a740 LATIN |CAPITAL LETTER K WITH STROKE|SMALL LETTER K WITH STROKE|CAPITAL LETTER K WITH DIAGONAL STROKE",
    "a743 LATIN |SMALL LETTER K WITH DIAGONAL STROKE|CAPITAL LETTER K WITH STROKE AND DIAGONAL STROKE",
    "a745 LATIN SMALL LETTER K WITH STROKE AND DIAGONAL |STROKE",
    "a746 LATIN |CAPITAL LETTER BROKEN L|SMALL LETTER BROKEN L|CAPITAL LETTER L WITH HIGH STROKE",
    "a749 LATIN |SMALL LETTER L WITH HIGH STROKE|CAPITAL LETTER O WITH LONG STROKE OVERLAY",
    "a74b LATIN |SMALL LETTER O WITH LONG STROKE OVERLAY|CAPITAL LETTER O WITH LOOP|SMALL LETTER O WITH LOOP",
    "a74e LATIN |CAPITAL LETTER OO|SMALL LETTER OO|CAPITAL LETTER P WITH STROKE THROUGH DESCENDER",
    "a751 LATIN |SMALL LETTER P WITH STROKE THROUGH DESCENDER|CAPITAL LETTER P WITH FLOURISH",
    "a753 LATIN |SMALL LETTER P WITH FLOURISH|CAPITAL LETTER P WITH SQUIRREL TAIL",
    "a755 LATIN |SMALL LETTER P WITH SQUIRREL TAIL|CAPITAL LETTER Q WITH STROKE THROUGH DESCENDER",
    "a757 LATIN |SMALL LETTER Q WITH STROKE THROUGH DESCENDER|CAPITAL LETTER Q WITH DIAGONAL STROKE",
    "a759 LATIN |SMALL LETTER Q WITH DIAGONAL STROKE|CAPITAL LETTER R ROTUNDA|SMALL LETTER R ROTUNDA",
    "a75c LATIN |CAPITAL LETTER RUM ROTUNDA|SMALL LETTER RUM ROTUNDA|CAPITAL LETTER V WITH DIAGONAL STROKE",
    "a75f LATIN |SMALL LETTER V WITH DIAGONAL STROKE|CAPITAL LETTER VY|SMALL LETTER VY",
    "a762 LATIN |CAPITAL LETTER VISIGOTHIC Z|SMALL LETTER VISIGOTHIC Z|CAPITAL LETTER THORN WITH STROKE",
    "a765 LATIN |SMALL LETTER THORN WITH STROKE|CAPITAL LETTER THORN WITH STROKE THROUGH DESCENDER",
    "a767 LATIN |SMALL LETTER THORN WITH STROKE THROUGH DESCENDER|CAPITAL LETTER VEND|SMALL LETTER VEND",
    "a76a LATIN |CAPITAL LETTER ET|SMALL LETTER ET|CAPITAL LETTER IS|SMALL LETTER IS|CAPITAL LETTER CON",
    "a76f |LATIN SMALL LETTER CON|MODIFIER LETTER US;a771 LATIN SMALL LETTER |DUM|LUM|MUM|NUM|RUM",
    "a776 LATIN |LETTER SMALL CAPITAL RUM|SMALL LETTER TUM|SMALL LETTER UM|CAPITAL LETTER INSULAR D",
    "a77a LATIN |SMALL LETTER INSULAR D|CAPITAL LETTER INSULAR F|SMALL LETTER INSULAR F",
    "a77d LATIN CAPITAL LETTER |INSULAR G|TURNED INSULAR G",
    "a77f LATIN |SMALL LETTER TURNED INSULAR G|CAPITAL LETTER TURNED L|SMALL LETTER TURNED L",
    "a782 LATIN |CAPITAL LETTER INSULAR R|SMALL LETTER INSULAR R|CAPITAL LETTER INSULAR S",
    "a785 LATIN |SMALL LETTER INSULAR S|CAPITAL LETTER INSULAR T|SMALL LETTER INSULAR T",
    "a788 MODIFIER LETTER |LOW CIRCUMFLEX ACCENT|COLON|SHORT EQUALS SIGN",
    "a78b LATIN |CAPITAL LETTER SALTILLO|SMALL LETTER SALTILLO",
    "a78d LATIN |CAPITAL LETTER TURNED H|SMALL LETTER L WITH RETROFLEX HOOK AND BELT|LETTER SINOLOGICAL DOT",
    "a790 LATIN |CAPITAL LETTER N WITH DESCENDER|SMALL LETTER N WITH DESCENDER|CAPITAL LETTER C WITH BAR",
    "a793 LATIN SMALL LETTER |C WITH BAR|C WITH PALATAL HOOK|H WITH PALATAL HOOK",
    "a796 LATIN CAPITAL LETTER B WITH |FLOURISH",
    "a797 LATIN |SMALL LETTER B WITH FLOURISH|CAPITAL LETTER F WITH STROKE|SMALL LETTER F WITH STROKE",
    "a79a LATIN |CAPITAL LETTER VOLAPUK AE|SMALL LETTER VOLAPUK AE|CAPITAL LETTER VOLAPUK OE",
    "a79d LATIN |SMALL LETTER VOLAPUK OE|CAPITAL LETTER VOLAPUK UE|SMALL LETTER VOLAPUK UE",
    "a7a0 LATIN |CAPITAL LETTER G WITH OBLIQUE STROKE|SMALL LETTER G WITH OBLIQUE STROKE",
    "a7a2 LATIN |CAPITAL LETTER K WITH OBLIQUE STROKE|SMALL LETTER K WITH OBLIQUE STROKE",
    "a7a4 LATIN |CAPITAL LETTER N WITH OBLIQUE STROKE|SMALL LETTER N WITH OBLIQUE STROKE",
    "a7a6 LATIN |CAPITAL LETTER R WITH OBLIQUE STROKE|SMALL LETTER R WITH OBLIQUE STROKE",
    "a7a8 LATIN |CAPITAL LETTER S WITH OBLIQUE STROKE|SMALL LETTER S WITH OBLIQUE STROKE",
    "a7aa LATIN CAPITAL LETTER |H WITH HOOK|REVERSED OPEN E|SCRIPT G|L WITH BELT|SMALL CAPITAL I",
    "a7af LATIN LETTER SMALL CAPITAL |Q;a7b0 LATIN CAPITAL LETTER |TURNED K|TURNED T|J WITH CROSSED-TAIL|CHI|BETA",
    "a7b5 LATIN |SMALL LETTER BETA|CAPITAL LETTER OMEGA|SMALL LETTER OMEGA",
    "a7b8 LATIN |CAPITAL LETTER U WITH STROKE|SMALL LETTER U WITH STROKE|CAPITAL LETTER GLOTTAL A",
    "a7bb LATIN |SMALL LETTER GLOTTAL A|CAPITAL LETTER GLOTTAL I|SMALL LETTER GLOTTAL I",
    "a7be LATIN |CAPITAL LETTER GLOTTAL U|SMALL LETTER GLOTTAL U|CAPITAL LETTER OLD POLISH O",
    "a7c1 LATIN |SMALL LETTER OLD POLISH O|CAPITAL LETTER ANGLICANA W|SMALL LETTER ANGLICANA W",
    "a7c4 LATIN CAPITAL LETTER |C WITH PALATAL HOOK|S WITH HOOK|Z WITH PALATAL HOOK",
    "a7c7 LATIN |CAPITAL LETTER D WITH SHORT STROKE OVERLAY|SMALL LETTER D WITH SHORT STROKE OVERLAY",
    "a7c9 LATIN |CAPITAL LETTER S WITH SHORT STROKE OVERLAY|SMALL LETTER S WITH SHORT STROKE OVERLAY",
    "a7d0 LATIN |CAPITAL LETTER CLOSED INSULAR G|SMALL LETTER CLOSED INSULAR G;a7d3 LATIN SMALL LETTER DOUBLE |THORN",
    "a7d5 LATIN |SMALL LETTER DOUBLE WYNN|CAPITAL LETTER MIDDLE SCOTS S",
    "a7d7 LATIN |SMALL LETTER MIDDLE SCOTS S|CAPITAL LETTER SIGMOID S|SMALL LETTER SIGMOID S",
    "a7f2 MODIFIER LETTER CAPITAL |C|F|Q",
    "a7f5 LATIN |CAPITAL LETTER REVERSED HALF H|SMALL LETTER REVERSED HALF H|EPIGRAPHIC LETTER SIDEWAYS I",
    "a7f8 MODIFIER LETTER |CAPITAL H WITH STROKE|SMALL LIGATURE OE;a7fa LATIN LETTER SMALL CAPITAL TURNED |M",
    "a7fb LATIN EPIGRAPHIC LETTER |REVERSED F|REVERSED P|INVERTED M|I LONGA|ARCHAIC M",
    "a800 SYLOTI NAGRI |LETTER A|LETTER I|SIGN DVISVARA|LETTER U|LETTER E|LETTER O|SIGN HASANTA",
    "a807 SYLOTI NAGRI LETTER |KO|KHO|GO|GHO;a80b SYLOTI NAGRI |SIGN ANUSVARA|LETTER CO",
    "a80d SYLOTI NAGRI LETTER |CHO|JO|JHO|TTO|TTHO|DDO|DDHO|TO|THO|DO|DHO|NO|PO|PHO|BO|BHO|MO|RO|LO|RRO|SO|HO",
    "a823 SYLOTI NAGRI VOWEL SIGN |A|I|U|E|OO;a828 SYLOTI NAGRI POETRY MARK-|1|2|3|4",
    "a82c SYLOTI NAGRI SIGN ALTERNATE |HASANTA",
    "a830 NORTH INDIC FRACTION |ONE QUARTER|ONE HALF|THREE QUARTERS|ONE SIXTEENTH|ONE EIGHTH|THREE SIXTEENTHS",
    "a836 NORTH INDIC |QUARTER MARK|PLACEHOLDER MARK|RUPEE MARK|QUANTITY MARK",
    "a840 PHAGS-PA LETTER |KA|KHA|GA|NGA|CA|CHA|JA|NYA|TA|THA|DA|NA|PA|PHA",
    "a84e PHAGS-PA LETTER |BA|MA|TSA|TSHA|DZA|WA|ZHA|ZA|SMALL A|YA|RA|LA|SHA|SA|HA|A|I|U|E|O|QA|XA|FA|GGA|EE",
    "a867 PHAGS-PA SUBJOINED LETTER |WA|YA",
    "a869 PHAGS-PA LETTER |TTA|TTHA|DDA|NNA|ALTERNATE YA|VOICELESS SHA|VOICED HA|ASPIRATED FA",
    "a871 PHAGS-PA |SUBJOINED LETTER RA|SUPERFIXED LETTER RA",
    "a873 PHAGS-PA |LETTER CANDRABINDU|SINGLE HEAD MARK|DOUBLE HEAD MARK|MARK SHAD|MARK DOUBLE SHAD",
    "a880 SAURASHTRA SIGN |ANUSVARA|VISARGA;a882 SAURASHTRA LETTER |A|AA|I|II|U|UU|VOCALIC R|VOCALIC RR",
    "a88a SAURASHTRA LETTER |VOCALIC L|VOCALIC LL|E|EE|AI|O|OO|AU|KA|KHA|GA|GHA|NGA|CA|CHA|JA|JHA|NYA|TTA",
    "a89d SAURASHTRA LETTER |TTHA|DDA|DDHA|NNA|TA|THA|DA|DHA|NA|PA|PHA|BA|BHA|MA|YA|RA|LA|VA|SHA|SSA|SA|HA|LLA",
    "a8b4 SAURASHTRA CONSONANT SIGN |HAARU",
    "a8b5 SAURASHTRA VOWEL SIGN |AA|I|II|U|UU|VOCALIC R|VOCALIC RR|VOCALIC L|VOCALIC LL|E|EE|AI|O|OO|AU",
    "a8c4 SAURASHTRA SIGN |VIRAMA|CANDRABINDU;a8ce SAURASHTRA |DANDA|DOUBLE DANDA",
    "a8d0 SAURASHTRA DIGIT |ZERO|ONE|TWO|THREE|FOUR|FIVE|SIX|SEVEN|EIGHT|NINE",
    "a8e0 COMBINING DEVANAGARI DIGIT |ZERO|ONE|TWO|THREE|FOUR|FIVE|SIX|SEVEN|EIGHT|NINE",
    "a8ea COMBINING DEVANAGARI LETTER |A|U|KA|NA|PA|RA|VI;a8f1 COMBINING DEVANAGARI SIGN |AVAGRAHA",
    "a8f2 DEVANAGARI SIGN |SPACING CANDRABINDU|CANDRABINDU VIRAMA|DOUBLE CANDRABINDU VIRAMA",
    "a8f5 DEVANAGARI SIGN CANDRABINDU |TWO|THREE|AVAGRAHA",
    "a8f8 DEVANAGARI |SIGN PUSHPIKA|GAP FILLER|CARET|HEADSTROKE|SIGN SIDDHAM|JAIN OM|LETTER AY|VOWEL SIGN AY",
    "a900 KAYAH LI DIGIT |ZERO|ONE|TWO|THREE|FOUR|FIVE|SIX|SEVEN|EIGHT|NINE;a90a KAYAH LI LETTER |KA|KHA",
    "a90c KAYAH LI LETTER |GA|NGA|SA|SHA|ZA|NYA|TA|HTA|NA|PA|PHA|MA|DA|BA|RA|YA|LA|WA|THA|HA|VA|CA|A|OE|I|OO",
    "a926 KAYAH LI VOWEL |UE|E|U|EE|O;a92b KAYAH LI |TONE PLOPHU|TONE CALYA|TONE CALYA PLOPHU|SIGN CWI|SIGN SHYA",
    "a930 REJANG LETTER |KA|GA|NGA|TA|DA|NA|PA|BA|MA|CA|JA|NYA|SA|RA|LA|YA|WA|HA|MBA|NGGA|NDA|NYJA|A",
    "a947 REJANG VOWEL SIGN |I|U|E|AI|O|AU|EU|EA;a94f REJANG CONSONANT SIGN |NG|N|R|H;a953 REJANG |VIRAMA",
    "a95f REJANG SECTION |MARK;a960 HANGUL CHOSEONG TIKEUT-|MIEUM|PIEUP|SIOS|CIEUC",
    "a964 HANGUL CHOSEONG RIEUL-|KIYEOK|SSANGKIYEOK",
    "a966 HANGUL CHOSEONG RIEUL-|TIKEUT|SSANGTIKEUT|MIEUM|PIEUP|SSANGPIEUP|KAPYEOUNPIEUP|SIOS|CIEUC|KHIEUKH",
    "a96f HANGUL CHOSEONG MIEUM-|KIYEOK|TIKEUT|SIOS",
    "a972 HANGUL CHOSEONG |PIEUP-SIOS-THIEUTH|PIEUP-KHIEUKH|PIEUP-HIEUH|SSANGSIOS-PIEUP|IEUNG-RIEUL",
    "a977 HANGUL CHOSEONG |IEUNG-HIEUH|SSANGCIEUC-HIEUH|SSANGTHIEUTH|PHIEUPH-HIEUH|HIEUH-SIOS|SSANGYEORINHIEUH",
    "a980 JAVANESE SIGN |PANYANGGA|CECAK|LAYAR|WIGNYAN",
    "a984 JAVANESE LETTER |A|I KAWI|I|II|U|PA CEREK|NGA LELET|NGA LELET RASWADI",
    "a98c JAVANESE LETTER |E|AI|O|KA|KA SASAK|KA MURDA|GA|GA MURDA|NGA|CA|CA MURDA|JA|NYA MURDA|JA MAHAPRANA",
    "a99a JAVANESE LETTER |NYA|TTA|TTA MAHAPRANA|DDA|DDA MAHAPRANA|NA MURDA|TA|TA MURDA|DA|DA MAHAPRANA",
    "a9a4 JAVANESE LETTER |NA|PA|PA MURDA|BA|BA MURDA|MA|YA|RA|RA AGUNG|LA|WA|SA MURDA|SA MAHAPRANA|SA|HA",
    "a9b3 JAVANESE SIGN CECAK |TELU",
    "a9b4 JAVANESE VOWEL SIGN |TARUNG|TOLONG|WULU|WULU MELIK|SUKU|SUKU MENDUT|TALING|DIRGA MURE|PEPET",
    "a9bd JAVANESE CONSONANT SIGN |KERET|PENGKAL|CAKRA;a9c0 JAVANESE |PANGKON|LEFT RERENGGAN|RIGHT RERENGGAN",
    "a9c3 JAVANESE PADA |ANDAP|MADYA|LUHUR|WINDU|PANGKAT|LINGSA|LUNGSI|ADEG|ADEG ADEG|PISELEH",
    "a9cd JAVANESE TURNED PADA |PISELEH;a9cf JAVANESE |PANGRANGKEP",
    "a9d0 JAVANESE DIGIT |ZERO|ONE|TWO|THREE|FOUR|FIVE|SIX|SEVEN|EIGHT|NINE",
    "a9de JAVANESE PADA |TIRTA TUMETES|ISEN-ISEN;a9e0 MYANMAR LETTER SHAN |GHA|CHA|JHA|NNA|BHA",
    "a9e5 MYANMAR |SIGN SHAN SAW|MODIFIER LETTER SHAN REDUPLICATION",
    "a9e7 MYANMAR LETTER TAI LAING |NYA|FA|GA|GHA|JA|JHA|DDA|DDHA|NNA",
    "a9f0 MYANMAR TAI LAING DIGIT |ZERO|ONE|TWO|THREE|FOUR|FIVE|SIX|SEVEN|EIGHT|NINE",
    "a9fa MYANMAR LETTER TAI LAING |LLA|DA|DHA|BA|BHA",
    "aa00 CHAM LETTER |A|I|U|E|AI|O|KA|KHA|GA|GHA|NGUE|NGA|CHA|CHHA|JA|JHA|NHUE",
    "aa11 CHAM LETTER |NHA|NHJA|TA|THA|DA|DHA|NUE|NA|DDA|PA|PPA|PHA|BA|BHA|MUE|MA|BBA|YA|RA|LA|VA|SSA|SA|HA",
    "aa29 CHAM VOWEL SIGN |AA|I|II|EI|U|OE|O|AI|AU|UE;aa33 CHAM CONSONANT SIGN |YA|RA|LA|WA",
    "aa40 CHAM LETTER FINAL |K|G|NG;aa43 CHAM CONSONANT SIGN FINAL |NG;aa44 CHAM LETTER FINAL |CH|T|N|P|Y|R|L|SS",
    "aa4c CHAM CONSONANT SIGN FINAL |M|H;aa50 CHAM DIGIT |ZERO|ONE|TWO|THREE|FOUR|FIVE|SIX|SEVEN|EIGHT|NINE",
    "aa5c CHAM PUNCTUATION |SPIRAL|DANDA|DOUBLE DANDA|TRIPLE DANDA",
    "aa60 MYANMAR LETTER KHAMTI |GA|CA|CHA|JA|JHA|NYA|TTA|TTHA|DDA|DDHA|DHA|NA|SA|HA|HHA|FA",
    "aa70 MYANMAR MODIFIER LETTER KHAMTI |REDUPLICATION;aa71 MYANMAR LETTER KHAMTI |XA|ZA|RA",
    "aa74 MYANMAR LOGOGRAM KHAMTI |OAY|QN|HM;aa77 MYANMAR SYMBOL AITON |EXCLAMATION|ONE|TWO",
    "aa7a MYANMAR |LETTER AITON RA|SIGN PAO KAREN TONE;aa7c MYANMAR SIGN TAI LAING TONE-|2|5",
    "aa7e MYANMAR LETTER SHWE PALAUNG |CHA|SHA",
    "aa80 TAI VIET LETTER |LOW KO|HIGH KO|LOW KHO|HIGH KHO|LOW KHHO|HIGH KHHO",
    "aa86 TAI VIET LETTER |LOW GO|HIGH GO|LOW NGO|HIGH NGO|LOW CO|HIGH CO|LOW CHO|HIGH CHO|LOW SO|HIGH SO",
    "aa90 TAI VIET LETTER |LOW NYO|HIGH NYO|LOW DO|HIGH DO|LOW TO|HIGH TO|LOW THO|HIGH THO|LOW NO|HIGH NO",
    "aa9a TAI VIET LETTER |LOW BO|HIGH BO|LOW PO|HIGH PO|LOW PHO|HIGH PHO|LOW FO|HIGH FO|LOW MO|HIGH MO|LOW YO",
    "aaa5 TAI VIET LETTER |HIGH YO|LOW RO|HIGH RO|LOW LO|HIGH LO|LOW VO|HIGH VO|LOW HO|HIGH HO|LOW O|HIGH O",
    "aab0 TAI VIET |MAI KANG|VOWEL AA|VOWEL I|VOWEL UE|VOWEL U|VOWEL E|VOWEL O|MAI KHIT",
    "aab8 TAI VIET VOWEL |IA|UEA|UA|AUE|AY|AN|AM;aabf TAI VIET TONE MAI |EK|NUENG|THO|SONG",
    "aadb TAI VIET SYMBOL |KON|NUENG|SAM|HO HOI|KOI KOI",
    "aae0 MEETEI MAYEK LETTER |E|O|CHA|NYA|TTA|TTHA|DDA|DDHA|NNA|SHA|SSA",
    "aaeb MEETEI MAYEK VOWEL SIGN |II|UU|AAI|AU|AAU;aaf0 MEETEI MAYEK |CHEIKHAN|AHANG KHUDAM",
    "aaf2 MEETEI MAYEK |ANJI|SYLLABLE REPETITION MARK|WORD REPETITION MARK|VOWEL SIGN VISARGA|VIRAMA",
    "ab01 ETHIOPIC SYLLABLE |TTHU|TTHI|TTHAA|TTHEE|TTHE|TTHO;ab09 ETHIOPIC SYLLABLE |DDHU|DDHI|DDHAA|DDHEE|DDHE|DDHO",
    "ab11 ETHIOPIC SYLLABLE |DZU|DZI|DZAA|DZEE|DZE|DZO",
    "ab20 ETHIOPIC SYLLABLE |CCHHA|CCHHU|CCHHI|CCHHAA|CCHHEE|CCHHE|CCHHO",
    "ab28 ETHIOPIC SYLLABLE |BBA|BBU|BBI|BBAA|BBEE|BBE|BBO",
    "ab30 LATIN SMALL LETTER |BARRED ALPHA|A REVERSED-SCHWA|BLACKLETTER E|BARRED E|E WITH FLOURISH|LENIS F",
    "ab36 LATIN SMALL LETTER |SCRIPT G WITH CROSSED-TAIL|L WITH INVERTED LAZY S|L WITH DOUBLE MIDDLE TILDE",
    "ab39 LATIN SMALL LETTER |L WITH MIDDLE RING|M WITH CROSSED-TAIL|N WITH CROSSED-TAIL|ENG WITH CROSSED-TAIL",
    "ab3d LATIN SMALL LETTER |BLACKLETTER O|BLACKLETTER O WITH STROKE|OPEN O WITH STROKE|INVERTED OE",
    "ab41 LATIN SMALL LETTER TURNED |OE WITH STROKE|OE WITH HORIZONTAL STROKE|O OPEN-O|O OPEN-O WITH STROKE",
    "ab45 LATIN |SMALL LETTER STIRRUP R|LETTER SMALL CAPITAL R WITH RIGHT LEG",
    "ab47 LATIN SMALL LETTER |R WITHOUT HANDLE|DOUBLE R|R WITH CROSSED-TAIL",
    "ab4a LATIN SMALL LETTER |DOUBLE R WITH CROSSED-TAIL|SCRIPT R|SCRIPT R WITH RING|BASELINE ESH",
    "ab4e LATIN SMALL LETTER |U WITH SHORT RIGHT LEG|U BAR WITH SHORT RIGHT LEG|UI|TURNED UI|U WITH LEFT HOOK",
    "ab53 LATIN SMALL LETTER |CHI|CHI WITH LOW RIGHT RING|CHI WITH LOW LEFT SERIF|X WITH LOW RIGHT RING",
    "ab57 LATIN SMALL LETTER X WITH LONG LEFT |LEG|LEG AND LOW RIGHT RING|LEG WITH SERIF",
    "ab5a |LATIN SMALL LETTER Y WITH SHORT RIGHT LEG|MODIFIER BREVE WITH INVERTED BREVE",
    "ab5c MODIFIER LETTER SMALL |HENG|L WITH INVERTED LAZY S|L WITH MIDDLE TILDE|U WITH LEFT HOOK",
    "ab60 LATIN SMALL LETTER |SAKHA YAT|IOTIFIED E|OPEN OE|UO|INVERTED ALPHA",
    "ab65 |GREEK LETTER SMALL CAPITAL OMEGA|LATIN SMALL LETTER DZ DIGRAPH WITH RETROFLEX HOOK",
    "ab67 LATIN SMALL LETTER |TS DIGRAPH WITH RETROFLEX HOOK|TURNED R WITH MIDDLE TILDE",
    "ab69 MODIFIER LETTER |SMALL TURNED W|LEFT TACK|RIGHT TACK;ab70 CHEROKEE SMALL LETTER |A|E|I|O|U|V|GA|KA|GE|GI",
    "ab7a CHEROKEE SMALL LETTER |GO|GU|GV|HA|HE|HI|HO|HU|HV|LA|LE|LI|LO|LU|LV|MA|ME|MI|MO|MU|NA|HNA|NAH|NE|NI",
    "ab93 CHEROKEE SMALL LETTER |NO|NU|NV|QUA|QUE|QUI|QUO|QUU|QUV|SA|S|SE|SI|SO|SU|SV|DA|TA|DE|TE|DI|TI|DO|DU",
    "abab CHEROKEE SMALL LETTER |DV|DLA|TLA|TLE|TLI|TLO|TLU|TLV|TSA|TSE|TSI|TSO|TSU|TSV|WA|WE|WI|WO|WU|WV|YA",
    "abc0 MEETEI MAYEK LETTER |KOK|SAM|LAI|MIT|PA|NA|CHIL|TIL|KHOU|NGOU|THOU",
    "abcb MEETEI MAYEK LETTER |WAI|YANG|HUK|UN|I|PHAM|ATIYA|GOK|JHAM|RAI|BA|JIL|DIL|GHOU|DHOU|BHAM|KOK LONSUM",
    "abdc MEETEI MAYEK LETTER |LAI LONSUM|MIT LONSUM|PA LONSUM|NA LONSUM|TIL LONSUM|NGOU LONSUM|I LONSUM",
    "abe3 MEETEI MAYEK VOWEL SIGN |ONAP|INAP|ANAP|YENAP|SOUNAP|UNAP|CHEINAP|NUNG",
    "abeb MEETEI MAYEK |CHEIKHEI|LUM IYEK|APUN IYEK",
    "abf0 MEETEI MAYEK DIGIT |ZERO|ONE|TWO|THREE|FOUR|FIVE|SIX|SEVEN|EIGHT|NINE",
    "d7b0 HANGUL JUNGSEONG |O-YEO|O-O-I|YO-A|YO-AE|YO-EO|U-YEO|U-I-I|YU-AE|YU-O",
    "d7b9 HANGUL JUNGSEONG |EU-A|EU-EO|EU-E|EU-O|I-YA-O|I-YAE|I-YEO|I-YE|I-O-I|I-YO|I-YU|I-I|ARAEA-A|ARAEA-E",
    "d7cb HANGUL JONGSEONG |NIEUN-RIEUL|NIEUN-CHIEUCH|SSANGTIKEUT|SSANGTIKEUT-PIEUP",
    "d7cf HANGUL JONGSEONG TIKEUT-|PIEUP|SIOS|SIOS-KIYEOK|CIEUC|CHIEUCH|THIEUTH",
    "d7d5 HANGUL JONGSEONG |RIEUL-SSANGKIYEOK|RIEUL-KIYEOK-HIEUH|SSANGRIEUL-KHIEUKH",
    "d7d8 HANGUL JONGSEONG RIEUL-|MIEUM-HIEUH|PIEUP-TIKEUT|PIEUP-PHIEUPH|YESIEUNG|YEORINHIEUH-HIEUH",
    "d7dd HANGUL JONGSEONG |KAPYEOUNRIEUL|MIEUM-NIEUN|MIEUM-SSANGNIEUN|SSANGMIEUM|MIEUM-PIEUP-SIOS|MIEUM-CIEUC",
    "d7e3 HANGUL JONGSEONG PIEUP-|TIKEUT|RIEUL-PHIEUPH|MIEUM",
    "d7e6 HANGUL JONGSEONG |SSANGPIEUP|PIEUP-SIOS-TIKEUT|PIEUP-CIEUC",
    "d7e9 HANGUL JONGSEONG |PIEUP-CHIEUCH|SIOS-MIEUM|SIOS-KAPYEOUNPIEUP|SSANGSIOS-KIYEOK|SSANGSIOS-TIKEUT",
    "d7ee HANGUL JONGSEONG SIOS-|PANSIOS|CIEUC|CHIEUCH|THIEUTH|HIEUH",
    "d7f3 HANGUL JONGSEONG |PANSIOS-PIEUP|PANSIOS-KAPYEOUNPIEUP|YESIEUNG-MIEUM|YESIEUNG-HIEUH",
    "d7f7 HANGUL JONGSEONG |CIEUC-PIEUP|CIEUC-SSANGPIEUP|SSANGCIEUC|PHIEUPH-SIOS|PHIEUPH-THIEUTH",
    "fb00 LATIN SMALL LIGATURE |FF|FI|FL|FFI|FFL|LONG S T|ST",
    "fb13 ARMENIAN SMALL LIGATURE |MEN NOW|MEN ECH|MEN INI|VEW NOW|MEN XEH;fb1d HEBREW LETTER YOD WITH |HIRIQ",
    "fb1e HEBREW |POINT JUDEO-SPANISH VARIKA|LIGATURE YIDDISH YOD YOD PATAH|LETTER ALTERNATIVE AYIN",
    "fb21 HEBREW LETTER WIDE |ALEF|DALET|HE|KAF|LAMED|FINAL MEM|RESH|TAV;fb29 HEBREW LETTER ALTERNATIVE PLUS |SIGN",
    "fb2a HEBREW LETTER SHIN WITH |SHIN DOT|SIN DOT|DAGESH AND SHIN DOT|DAGESH AND SIN DOT",
    "fb2e HEBREW LETTER |ALEF WITH PATAH|ALEF WITH QAMATS|ALEF WITH MAPIQ|BET WITH DAGESH",
    "fb32 HEBREW LETTER |GIMEL WITH DAGESH|DALET WITH DAGESH|HE WITH MAPIQ|VAV WITH DAGESH|ZAYIN WITH DAGESH",
    "fb38 HEBREW LETTER TET WITH |DAGESH",
    "fb39 HEBREW LETTER |YOD WITH DAGESH|FINAL KAF WITH DAGESH|KAF WITH DAGESH|LAMED WITH DAGESH",
    "fb3e HEBREW LETTER MEM WITH |DAGESH;fb40 HEBREW LETTER |NUN WITH DAGESH|SAMEKH WITH DAGESH",
    "fb43 HEBREW LETTER |FINAL PE WITH DAGESH|PE WITH DAGESH",
    "fb46 HEBREW LETTER |TSADI WITH DAGESH|QOF WITH DAGESH|RESH WITH DAGESH|SHIN WITH DAGESH",
    "fb4a HEBREW LETTER |TAV WITH DAGESH|VAV WITH HOLAM|BET WITH RAFE|KAF WITH RAFE|PE WITH RAFE",
    "fb4f HEBREW LIGATURE ALEF |LAMED;fb50 ARABIC LETTER ALEF WASLA |ISOLATED FORM|FINAL FORM",
    "fb52 ARABIC LETTER BEEH |ISOLATED FORM|FINAL FORM|INITIAL FORM|MEDIAL FORM",
    "fb56 ARABIC LETTER PEH |ISOLATED FORM|FINAL FORM|INITIAL FORM|MEDIAL FORM",
    "fb5a ARABIC LETTER BEHEH |ISOLATED FORM|FINAL FORM|INITIAL FORM|MEDIAL FORM",
    "fb5e ARABIC LETTER TTEHEH |ISOLATED FORM|FINAL FORM|INITIAL FORM|MEDIAL FORM",
    "fb62 ARABIC LETTER TEHEH |ISOLATED FORM|FINAL FORM|INITIAL FORM|MEDIAL FORM",
    "fb66 ARABIC LETTER TTEH |ISOLATED FORM|FINAL FORM|INITIAL FORM|MEDIAL FORM",
    "fb6a ARABIC LETTER VEH |ISOLATED FORM|FINAL FORM|INITIAL FORM|MEDIAL FORM",
    "fb6e ARABIC LETTER PEHEH |ISOLATED FORM|FINAL FORM|INITIAL FORM|MEDIAL FORM",
    "fb72 ARABIC LETTER DYEH |ISOLATED FORM|FINAL FORM|INITIAL FORM|MEDIAL FORM",
    "fb76 ARABIC LETTER NYEH |ISOLATED FORM|FINAL FORM|INITIAL FORM|MEDIAL FORM",
    "fb7a ARABIC LETTER TCHEH |ISOLATED FORM|FINAL FORM|INITIAL FORM|MEDIAL FORM",
    "fb7e ARABIC LETTER TCHEHEH |ISOLATED FORM|FINAL FORM|INITIAL FORM|MEDIAL FORM",
    "fb82 ARABIC LETTER |DDAHAL ISOLATED FORM|DDAHAL FINAL FORM|DAHAL ISOLATED FORM",
    "fb85 ARABIC LETTER |DAHAL FINAL FORM|DUL ISOLATED FORM|DUL FINAL FORM|DDAL ISOLATED FORM",
    "fb89 ARABIC LETTER |DDAL FINAL FORM|JEH ISOLATED FORM|JEH FINAL FORM|RREH ISOLATED FORM|RREH FINAL FORM",
    "fb8e ARABIC LETTER KEHEH |ISOLATED FORM|FINAL FORM|INITIAL FORM|MEDIAL FORM",
    "fb92 ARABIC LETTER GAF |ISOLATED FORM|FINAL FORM|INITIAL FORM|MEDIAL FORM",
    "fb96 ARABIC LETTER GUEH |ISOLATED FORM|FINAL FORM|INITIAL FORM|MEDIAL FORM",
    "fb9a ARABIC LETTER NGOEH |ISOLATED FORM|FINAL FORM|INITIAL FORM|MEDIAL FORM",
    "fb9e ARABIC LETTER NOON GHUNNA |ISOLATED FORM|FINAL FORM",
    "fba0 ARABIC LETTER RNOON |ISOLATED FORM|FINAL FORM|INITIAL FORM|MEDIAL FORM",
    "fba4 ARABIC LETTER HEH WITH YEH ABOVE |ISOLATED FORM|FINAL FORM",
    "fba6 ARABIC LETTER HEH GOAL |ISOLATED FORM|FINAL FORM|INITIAL FORM|MEDIAL FORM",
    "fbaa ARABIC LETTER HEH DOACHASHMEE |ISOLATED FORM|FINAL FORM|INITIAL FORM|MEDIAL FORM",
    "fbae ARABIC LETTER YEH BARREE |ISOLATED FORM|FINAL FORM",
    "fbb0 ARABIC LETTER YEH BARREE WITH HAMZA ABOVE |ISOLATED FORM|FINAL FORM",
    "fbb2 ARABIC SYMBOL |DOT ABOVE|DOT BELOW|TWO DOTS ABOVE|TWO DOTS BELOW",
    "fbb6 ARABIC SYMBOL THREE DOTS |ABOVE|BELOW|POINTING DOWNWARDS ABOVE|POINTING DOWNWARDS BELOW",
    "fbba ARABIC SYMBOL |FOUR DOTS ABOVE|FOUR DOTS BELOW|DOUBLE VERTICAL BAR BELOW|TWO DOTS VERTICALLY ABOVE",
    "fbbe ARABIC SYMBOL |TWO DOTS VERTICALLY BELOW|RING|SMALL TAH ABOVE|SMALL TAH BELOW|WASLA ABOVE",
    "fbd3 ARABIC LETTER NG |ISOLATED FORM|FINAL FORM|INITIAL FORM|MEDIAL FORM",
    "fbd7 ARABIC LETTER |U ISOLATED FORM|U FINAL FORM|OE ISOLATED FORM|OE FINAL FORM|YU ISOLATED FORM",
    "fbdc ARABIC LETTER |YU FINAL FORM|U WITH HAMZA ABOVE ISOLATED FORM|VE ISOLATED FORM|VE FINAL FORM",
    "fbe0 ARABIC LETTER KIRGHIZ |OE ISOLATED FORM|OE FINAL FORM|YU ISOLATED FORM|YU FINAL FORM",
    "fbe4 ARABIC LETTER E |ISOLATED FORM|FINAL FORM|INITIAL FORM|MEDIAL FORM",
    "fbe8 ARABIC LETTER UIGHUR KAZAKH KIRGHIZ ALEF MAKSURA |INITIAL FORM|MEDIAL FORM",
    "fbea ARABIC LIGATURE YEH WITH HAMZA ABOVE WITH ALEF |ISOLATED FORM|FINAL FORM",
    "fbec ARABIC LIGATURE YEH WITH HAMZA ABOVE WITH |AE ISOLATED FORM|AE FINAL FORM|WAW ISOLATED FORM",
    "fbef ARABIC LIGATURE YEH WITH HAMZA ABOVE WITH |WAW FINAL FORM|U ISOLATED FORM|U FINAL FORM",
    "fbf2 ARABIC LIGATURE YEH WITH HAMZA ABOVE WITH |OE ISOLATED FORM|OE FINAL FORM|YU ISOLATED FORM",
    "fbf5 ARABIC LIGATURE YEH WITH HAMZA ABOVE WITH |YU FINAL FORM|E ISOLATED FORM|E FINAL FORM|E INITIAL FORM",
    "fbf9 ARABIC LIGATURE UIGHUR KIRGHIZ YEH WITH HAMZA ABOVE WITH ALEF MAKSURA ISOLATED |FORM",
    "fbfa ARABIC LIGATURE UIGHUR KIRGHIZ YEH WITH HAMZA ABOVE WITH ALEF MAKSURA |FINAL FORM|INITIAL FORM",
    "fbfc ARABIC LETTER FARSI YEH |ISOLATED FORM|FINAL FORM|INITIAL FORM|MEDIAL FORM",
    "fc00 ARABIC LIGATURE YEH WITH HAMZA ABOVE WITH |JEEM ISOLATED FORM|HAH ISOLATED FORM|MEEM ISOLATED FORM",
    "fc03 ARABIC LIGATURE YEH WITH HAMZA ABOVE WITH |ALEF MAKSURA ISOLATED FORM|YEH ISOLATED FORM",
    "fc05 ARABIC LIGATURE BEH WITH |JEEM ISOLATED FORM|HAH ISOLATED FORM|KHAH ISOLATED FORM",
    "fc08 ARABIC LIGATURE BEH WITH |MEEM ISOLATED FORM|ALEF MAKSURA ISOLATED FORM|YEH ISOLATED FORM",
    "fc0b ARABIC LIGATURE TEH WITH |JEEM ISOLATED FORM|HAH ISOLATED FORM|KHAH ISOLATED FORM",
    "fc0e ARABIC LIGATURE TEH WITH |MEEM ISOLATED FORM|ALEF MAKSURA ISOLATED FORM|YEH ISOLATED FORM",
    "fc11 ARABIC LIGATURE THEH WITH JEEM ISOLATED |FORM",
    "fc12 ARABIC LIGATURE THEH WITH |MEEM ISOLATED FORM|ALEF MAKSURA ISOLATED FORM|YEH ISOLATED FORM",
    "fc15 ARABIC LIGATURE JEEM WITH |HAH ISOLATED FORM|MEEM ISOLATED FORM",
    "fc17 ARABIC LIGATURE HAH WITH |JEEM ISOLATED FORM|MEEM ISOLATED FORM",
    "fc19 ARABIC LIGATURE KHAH WITH |JEEM ISOLATED FORM|HAH ISOLATED FORM|MEEM ISOLATED FORM",
    "fc1c ARABIC LIGATURE SEEN WITH |JEEM ISOLATED FORM|HAH ISOLATED FORM|KHAH ISOLATED FORM",
    "fc1f ARABIC LIGATURE |SEEN WITH MEEM ISOLATED FORM|SAD WITH HAH ISOLATED FORM|SAD WITH MEEM ISOLATED FORM",
    "fc22 ARABIC LIGATURE DAD WITH |JEEM ISOLATED FORM|HAH ISOLATED FORM|KHAH ISOLATED FORM|MEEM ISOLATED FORM",
    "fc26 ARABIC LIGATURE TAH WITH |HAH ISOLATED FORM|MEEM ISOLATED FORM",
    "fc28 ARABIC LIGATURE |ZAH WITH MEEM ISOLATED FORM|AIN WITH JEEM ISOLATED FORM|AIN WITH MEEM ISOLATED FORM",
    "fc2b ARABIC LIGATURE GHAIN WITH |JEEM ISOLATED FORM|MEEM ISOLATED FORM",
    "fc2d ARABIC LIGATURE FEH WITH |JEEM ISOLATED FORM|HAH ISOLATED FORM|KHAH ISOLATED FORM",
    "fc30 ARABIC LIGATURE FEH WITH |MEEM ISOLATED FORM|ALEF MAKSURA ISOLATED FORM|YEH ISOLATED FORM",
    "fc33 ARABIC LIGATURE QAF WITH |HAH ISOLATED FORM|MEEM ISOLATED FORM|ALEF MAKSURA ISOLATED FORM",
    "fc36 ARABIC LIGATURE |QAF WITH YEH ISOLATED FORM|KAF WITH ALEF ISOLATED FORM",
    "fc38 ARABIC LIGATURE KAF WITH |JEEM ISOLATED FORM|HAH ISOLATED FORM|KHAH ISOLATED FORM|LAM ISOLATED FORM",
    "fc3c ARABIC LIGATURE KAF WITH |MEEM ISOLATED FORM|ALEF MAKSURA ISOLATED FORM|YEH ISOLATED FORM",
    "fc3f ARABIC LIGATURE LAM WITH |JEEM ISOLATED FORM|HAH ISOLATED FORM|KHAH ISOLATED FORM",
    "fc42 ARABIC LIGATURE LAM WITH |MEEM ISOLATED FORM|ALEF MAKSURA ISOLATED FORM|YEH ISOLATED FORM",
    "fc45 ARABIC LIGATURE MEEM WITH |JEEM ISOLATED FORM|HAH ISOLATED FORM|KHAH ISOLATED FORM",
    "fc48 ARABIC LIGATURE MEEM WITH |MEEM ISOLATED FORM|ALEF MAKSURA ISOLATED FORM|YEH ISOLATED FORM",
    "fc4b ARABIC LIGATURE NOON WITH |JEEM ISOLATED FORM|HAH ISOLATED FORM|KHAH ISOLATED FORM",
    "fc4e ARABIC LIGATURE NOON WITH |MEEM ISOLATED FORM|ALEF MAKSURA ISOLATED FORM|YEH ISOLATED FORM",
    "fc51 ARABIC LIGATURE HEH WITH JEEM ISOLATED |FORM",
    "fc52 ARABIC LIGATURE HEH WITH |MEEM ISOLATED FORM|ALEF MAKSURA ISOLATED FORM|YEH ISOLATED FORM",
    "fc55 ARABIC LIGATURE YEH WITH |JEEM ISOLATED FORM|HAH ISOLATED FORM|KHAH ISOLATED FORM",
    "fc58 ARABIC LIGATURE YEH WITH |MEEM ISOLATED FORM|ALEF MAKSURA ISOLATED FORM|YEH ISOLATED FORM",
    "fc5b ARABIC LIGATURE |THAL WITH SUPERSCRIPT ALEF ISOLATED FORM|REH WITH SUPERSCRIPT ALEF ISOLATED FORM",
    "fc5d ARABIC LIGATURE ALEF MAKSURA WITH SUPERSCRIPT ALEF ISOLATED |FORM",
    "fc5e ARABIC LIGATURE SHADDA WITH |DAMMATAN ISOLATED FORM|KASRATAN ISOLATED FORM|FATHA ISOLATED FORM",
    "fc61 ARABIC LIGATURE SHADDA WITH |DAMMA ISOLATED FORM|KASRA ISOLATED FORM|SUPERSCRIPT ALEF ISOLATED FORM",
    "fc64 ARABIC LIGATURE YEH WITH HAMZA ABOVE WITH |REH FINAL FORM|ZAIN FINAL FORM|MEEM FINAL FORM",
    "fc67 ARABIC LIGATURE YEH WITH HAMZA ABOVE WITH |NOON FINAL FORM|ALEF MAKSURA FINAL FORM|YEH FINAL FORM",
    "fc6a ARABIC LIGATURE BEH WITH |REH FINAL FORM|ZAIN FINAL FORM",
    "fc6c ARABIC LIGATURE BEH WITH |MEEM FINAL FORM|NOON FINAL FORM|ALEF MAKSURA FINAL FORM|YEH FINAL FORM",
    "fc70 ARABIC LIGATURE TEH WITH |REH FINAL FORM|ZAIN FINAL FORM",
    "fc72 ARABIC LIGATURE TEH WITH |MEEM FINAL FORM|NOON FINAL FORM|ALEF MAKSURA FINAL FORM|YEH FINAL FORM",
    "fc76 ARABIC LIGATURE THEH WITH |REH FINAL FORM|ZAIN FINAL FORM",
    "fc78 ARABIC LIGATURE THEH WITH |MEEM FINAL FORM|NOON FINAL FORM|ALEF MAKSURA FINAL FORM|YEH FINAL FORM",
    "fc7c ARABIC LIGATURE FEH WITH |ALEF MAKSURA FINAL FORM|YEH FINAL FORM",
    "fc7e ARABIC LIGATURE |QAF WITH ALEF MAKSURA FINAL FORM|QAF WITH YEH FINAL FORM|KAF WITH ALEF FINAL FORM",
    "fc81 ARABIC LIGATURE KAF WITH |LAM FINAL FORM|MEEM FINAL FORM|ALEF MAKSURA FINAL FORM|YEH FINAL FORM",
    "fc85 ARABIC LIGATURE LAM WITH |MEEM FINAL FORM|ALEF MAKSURA FINAL FORM|YEH FINAL FORM",
    "fc88 ARABIC LIGATURE |MEEM WITH ALEF FINAL FORM|MEEM WITH MEEM FINAL FORM|NOON WITH REH FINAL FORM",
    "fc8b ARABIC LIGATURE NOON WITH |ZAIN FINAL FORM|MEEM FINAL FORM|NOON FINAL FORM|ALEF MAKSURA FINAL FORM",
    "fc8f ARABIC LIGATURE |NOON WITH YEH FINAL FORM|ALEF MAKSURA WITH SUPERSCRIPT ALEF FINAL FORM",
    "fc91 ARABIC LIGATURE YEH WITH |REH FINAL FORM|ZAIN FINAL FORM",
    "fc93 ARABIC LIGATURE YEH WITH |MEEM FINAL FORM|NOON FINAL FORM|ALEF MAKSURA FINAL FORM|YEH FINAL FORM",
    "fc97 ARABIC LIGATURE YEH WITH HAMZA ABOVE WITH |JEEM INITIAL FORM|HAH INITIAL FORM",
    "fc99 ARABIC LIGATURE YEH WITH HAMZA ABOVE WITH |KHAH INITIAL FORM|MEEM INITIAL FORM|HEH INITIAL FORM",
    "fc9c ARABIC LIGATURE BEH WITH |JEEM INITIAL FORM|HAH INITIAL FORM|KHAH INITIAL FORM|MEEM INITIAL FORM",
    "fca0 ARABIC LIGATURE |BEH WITH HEH INITIAL FORM|TEH WITH JEEM INITIAL FORM",
    "fca2 ARABIC LIGATURE TEH WITH |HAH INITIAL FORM|KHAH INITIAL FORM|MEEM INITIAL FORM|HEH INITIAL FORM",
    "fca6 ARABIC LIGATURE |THEH WITH MEEM INITIAL FORM|JEEM WITH HAH INITIAL FORM|JEEM WITH MEEM INITIAL FORM",
    "fca9 ARABIC LIGATURE HAH WITH |JEEM INITIAL FORM|MEEM INITIAL FORM",
    "fcab ARABIC LIGATURE KHAH WITH |JEEM INITIAL FORM|MEEM INITIAL FORM",
    "fcad ARABIC LIGATURE SEEN WITH |JEEM INITIAL FORM|HAH INITIAL FORM|KHAH INITIAL FORM|MEEM INITIAL FORM",
    "fcb1 ARABIC LIGATURE SAD WITH |HAH INITIAL FORM|KHAH INITIAL FORM|MEEM INITIAL FORM",
    "fcb4 ARABIC LIGATURE DAD WITH |JEEM INITIAL FORM|HAH INITIAL FORM|KHAH INITIAL FORM|MEEM INITIAL FORM",
    "fcb8 ARABIC LIGATURE |TAH WITH HAH INITIAL FORM|ZAH WITH MEEM INITIAL FORM",
    "fcba ARABIC LIGATURE AIN WITH |JEEM INITIAL FORM|MEEM INITIAL FORM",
    "fcbc ARABIC LIGATURE GHAIN WITH |JEEM INITIAL FORM|MEEM INITIAL FORM",
    "fcbe ARABIC LIGATURE FEH WITH |JEEM INITIAL FORM|HAH INITIAL FORM|KHAH INITIAL FORM|MEEM INITIAL FORM",
    "fcc2 ARABIC LIGATURE QAF WITH |HAH INITIAL FORM|MEEM INITIAL FORM",
    "fcc4 ARABIC LIGATURE KAF WITH |JEEM INITIAL FORM|HAH INITIAL FORM|KHAH INITIAL FORM|LAM INITIAL FORM",
    "fcc8 ARABIC LIGATURE |KAF WITH MEEM INITIAL FORM|LAM WITH JEEM INITIAL FORM",
    "fcca ARABIC LIGATURE LAM WITH |HAH INITIAL FORM|KHAH INITIAL FORM|MEEM INITIAL FORM|HEH INITIAL FORM",
    "fcce ARABIC LIGATURE MEEM WITH |JEEM INITIAL FORM|HAH INITIAL FORM|KHAH INITIAL FORM|MEEM INITIAL FORM",
    "fcd2 ARABIC LIGATURE NOON WITH |JEEM INITIAL FORM|HAH INITIAL FORM|KHAH INITIAL FORM|MEEM INITIAL FORM",
    "fcd6 ARABIC LIGATURE |NOON WITH HEH INITIAL FORM|HEH WITH JEEM INITIAL FORM|HEH WITH MEEM INITIAL FORM",
    "fcd9 ARABIC LIGATURE |HEH WITH SUPERSCRIPT ALEF INITIAL FORM|YEH WITH JEEM INITIAL FORM",
    "fcdb ARABIC LIGATURE YEH WITH |HAH INITIAL FORM|KHAH INITIAL FORM|MEEM INITIAL FORM|HEH INITIAL FORM",
    "fcdf ARABIC LIGATURE YEH WITH HAMZA ABOVE WITH |MEEM MEDIAL FORM|HEH MEDIAL FORM",
    "fce1 ARABIC LIGATURE BEH WITH |MEEM MEDIAL FORM|HEH MEDIAL FORM",
    "fce3 ARABIC LIGATURE TEH WITH |MEEM MEDIAL FORM|HEH MEDIAL FORM",
    "fce5 ARABIC LIGATURE THEH WITH |MEEM MEDIAL FORM|HEH MEDIAL FORM",
    "fce7 ARABIC LIGATURE SEEN WITH |MEEM MEDIAL FORM|HEH MEDIAL FORM",
    "fce9 ARABIC LIGATURE SHEEN WITH |MEEM MEDIAL FORM|HEH MEDIAL FORM",
    "fceb ARABIC LIGATURE |KAF WITH LAM MEDIAL FORM|KAF WITH MEEM MEDIAL FORM|LAM WITH MEEM MEDIAL FORM",
    "fcee ARABIC LIGATURE NOON WITH |MEEM MEDIAL FORM|HEH MEDIAL FORM",
    "fcf0 ARABIC LIGATURE YEH WITH |MEEM MEDIAL FORM|HEH MEDIAL FORM",
    "fcf2 ARABIC LIGATURE SHADDA WITH |FATHA MEDIAL FORM|DAMMA MEDIAL FORM|KASRA MEDIAL FORM",
    "fcf5 ARABIC LIGATURE TAH WITH |ALEF MAKSURA ISOLATED FORM|YEH ISOLATED FORM",
    "fcf7 ARABIC LIGATURE AIN WITH |ALEF MAKSURA ISOLATED FORM|YEH ISOLATED FORM",
    "fcf9 ARABIC LIGATURE GHAIN WITH |ALEF MAKSURA ISOLATED FORM|YEH ISOLATED FORM",
    "fcfb ARABIC LIGATURE SEEN WITH |ALEF MAKSURA ISOLATED FORM|YEH ISOLATED FORM",
    "fcfd ARABIC LIGATURE SHEEN WITH |ALEF MAKSURA ISOLATED FORM|YEH ISOLATED FORM",
    "fcff ARABIC LIGATURE HAH WITH |ALEF MAKSURA ISOLATED FORM|YEH ISOLATED FORM",
    "fd01 ARABIC LIGATURE JEEM WITH |ALEF MAKSURA ISOLATED FORM|YEH ISOLATED FORM",
    "fd03 ARABIC LIGATURE KHAH WITH |ALEF MAKSURA ISOLATED FORM|YEH ISOLATED FORM",
    "fd05 ARABIC LIGATURE SAD WITH |ALEF MAKSURA ISOLATED FORM|YEH ISOLATED FORM",
    "fd07 ARABIC LIGATURE DAD WITH |ALEF MAKSURA ISOLATED FORM|YEH ISOLATED FORM",
    "fd09 ARABIC LIGATURE SHEEN WITH |JEEM ISOLATED FORM|HAH ISOLATED FORM",
    "fd0b ARABIC LIGATURE SHEEN WITH |KHAH ISOLATED FORM|MEEM ISOLATED FORM|REH ISOLATED FORM",
    "fd0e ARABIC LIGATURE |SEEN WITH REH ISOLATED FORM|SAD WITH REH ISOLATED FORM|DAD WITH REH ISOLATED FORM",
    "fd11 ARABIC LIGATURE TAH WITH |ALEF MAKSURA FINAL FORM|YEH FINAL FORM",
    "fd13 ARABIC LIGATURE AIN WITH |ALEF MAKSURA FINAL FORM|YEH FINAL FORM",
    "fd15 ARABIC LIGATURE GHAIN WITH |ALEF MAKSURA FINAL FORM|YEH FINAL FORM",
    "fd17 ARABIC LIGATURE SEEN WITH |ALEF MAKSURA FINAL FORM|YEH FINAL FORM",
    "fd19 ARABIC LIGATURE SHEEN WITH |ALEF MAKSURA FINAL FORM|YEH FINAL FORM",
    "fd1b ARABIC LIGATURE HAH WITH |ALEF MAKSURA FINAL FORM|YEH FINAL FORM",
    "fd1d ARABIC LIGATURE JEEM WITH |ALEF MAKSURA FINAL FORM|YEH FINAL FORM",
    "fd1f ARABIC LIGATURE KHAH WITH |ALEF MAKSURA FINAL FORM|YEH FINAL FORM",
    "fd21 ARABIC LIGATURE SAD WITH |ALEF MAKSURA FINAL FORM|YEH FINAL FORM",
    "fd23 ARABIC LIGATURE |DAD WITH ALEF MAKSURA FINAL FORM|DAD WITH YEH FINAL FORM|SHEEN WITH JEEM FINAL FORM",
    "fd26 ARABIC LIGATURE SHEEN WITH |HAH FINAL FORM|KHAH FINAL FORM|MEEM FINAL FORM|REH FINAL FORM",
    "fd2a ARABIC LIGATURE |SEEN WITH REH FINAL FORM|SAD WITH REH FINAL FORM|DAD WITH REH FINAL FORM",
    "fd2d ARABIC LIGATURE SHEEN WITH |JEEM INITIAL FORM|HAH INITIAL FORM|KHAH INITIAL FORM|MEEM INITIAL FORM",
    "fd31 ARABIC LIGATURE |SEEN WITH HEH INITIAL FORM|SHEEN WITH HEH INITIAL FORM|TAH WITH MEEM INITIAL FORM",
    "fd34 ARABIC LIGATURE SEEN WITH |JEEM MEDIAL FORM|HAH MEDIAL FORM|KHAH MEDIAL FORM",
    "fd37 ARABIC LIGATURE SHEEN WITH |JEEM MEDIAL FORM|HAH MEDIAL FORM|KHAH MEDIAL FORM",
    "fd3a ARABIC LIGATURE |TAH WITH MEEM MEDIAL FORM|ZAH WITH MEEM MEDIAL FORM",
    "fd3c ARABIC LIGATURE ALEF WITH FATHATAN |FINAL FORM|ISOLATED FORM",
    "fd3e ORNATE |LEFT PARENTHESIS|RIGHT PARENTHESIS;fd40 ARABIC LIGATURE RAHIMAHU |ALLAAH",
    "fd41 ARABIC LIGATURE RADI ALLAAHU |ANH|ANHAA|ANHUM|ANHUMAA|ANHUNNA",
    "fd46 ARABIC LIGATURE SALLALLAAHU ALAYHI WA-|AALIH",
    "fd47 ARABIC LIGATURE |ALAYHI AS-SALAAM|ALAYHIM AS-SALAAM|ALAYHIMAA AS-SALAAM|ALAYHI AS-SALAATU WAS-SALAAM",
    "fd4b ARABIC LIGATURE |QUDDISA SIRRAH|SALLALLAHU ALAYHI WAAALIHEE WA-SALLAM|ALAYHAA AS-SALAAM",
    "fd4e ARABIC LIGATURE |TABAARAKA WA-TAAALAA|RAHIMAHUM ALLAAH|TEH WITH JEEM WITH MEEM INITIAL FORM",
    "fd51 ARABIC LIGATURE TEH WITH HAH WITH |JEEM FINAL FORM|JEEM INITIAL FORM|MEEM INITIAL FORM",
    "fd54 ARABIC LIGATURE TEH WITH KHAH WITH MEEM INITIAL |FORM",
    "fd55 ARABIC LIGATURE TEH WITH MEEM WITH |JEEM INITIAL FORM|HAH INITIAL FORM|KHAH INITIAL FORM",
    "fd58 ARABIC LIGATURE JEEM WITH MEEM WITH HAH |FINAL FORM|INITIAL FORM",
    "fd5a ARABIC LIGATURE HAH WITH MEEM WITH |YEH FINAL FORM|ALEF MAKSURA FINAL FORM",
    "fd5c ARABIC LIGATURE SEEN WITH HAH WITH JEEM INITIAL |FORM",
    "fd5d ARABIC LIGATURE SEEN WITH JEEM WITH |HAH INITIAL FORM|ALEF MAKSURA FINAL FORM",
    "fd5f ARABIC LIGATURE SEEN WITH MEEM WITH |HAH FINAL FORM|HAH INITIAL FORM|JEEM INITIAL FORM",
    "fd62 ARABIC LIGATURE SEEN WITH MEEM WITH MEEM |FINAL FORM|INITIAL FORM",
    "fd64 ARABIC LIGATURE SAD WITH HAH WITH HAH |FINAL FORM|INITIAL FORM",
    "fd66 ARABIC LIGATURE SAD WITH MEEM WITH MEEM FINAL |FORM",
    "fd67 ARABIC LIGATURE SHEEN WITH HAH WITH MEEM |FINAL FORM|INITIAL FORM",
    "fd69 ARABIC LIGATURE SHEEN WITH |JEEM WITH YEH FINAL FORM|MEEM WITH KHAH FINAL FORM",
    "fd6b ARABIC LIGATURE SHEEN WITH MEEM WITH |KHAH INITIAL FORM|MEEM FINAL FORM|MEEM INITIAL FORM",
    "fd6e ARABIC LIGATURE DAD WITH HAH WITH ALEF MAKSURA FINAL |FORM",
    "fd6f ARABIC LIGATURE DAD WITH KHAH WITH MEEM |FINAL FORM|INITIAL FORM",
    "fd71 ARABIC LIGATURE TAH WITH MEEM WITH |HAH FINAL FORM|HAH INITIAL FORM|MEEM INITIAL FORM|YEH FINAL FORM",
    "fd75 ARABIC LIGATURE AIN WITH JEEM WITH MEEM FINAL |FORM",
    "fd76 ARABIC LIGATURE AIN WITH MEEM WITH |MEEM FINAL FORM|MEEM INITIAL FORM|ALEF MAKSURA FINAL FORM",
    "fd79 ARABIC LIGATURE GHAIN WITH MEEM WITH |MEEM FINAL FORM|YEH FINAL FORM|ALEF MAKSURA FINAL FORM",
    "fd7c ARABIC LIGATURE FEH WITH KHAH WITH MEEM |FINAL FORM|INITIAL FORM",
    "fd7e ARABIC LIGATURE QAF WITH MEEM WITH |HAH FINAL FORM|MEEM FINAL FORM",
    "fd80 ARABIC LIGATURE LAM WITH HAH WITH |MEEM FINAL FORM|YEH FINAL FORM|ALEF MAKSURA FINAL FORM",
    "fd83 ARABIC LIGATURE LAM WITH JEEM WITH JEEM |INITIAL FORM|FINAL FORM",
    "fd85 ARABIC LIGATURE LAM WITH KHAH WITH MEEM |FINAL FORM|INITIAL FORM",
    "fd87 ARABIC LIGATURE LAM WITH MEEM WITH HAH |FINAL FORM|INITIAL FORM",
    "fd89 ARABIC LIGATURE MEEM WITH HAH WITH |JEEM INITIAL FORM|MEEM INITIAL FORM|YEH FINAL FORM",
    "fd8c ARABIC LIGATURE MEEM WITH JEEM WITH |HAH INITIAL FORM|MEEM INITIAL FORM",
    "fd8e ARABIC LIGATURE MEEM WITH KHAH WITH |JEEM INITIAL FORM|MEEM INITIAL FORM",
    "fd92 ARABIC LIGATURE MEEM WITH JEEM WITH KHAH INITIAL |FORM",
    "fd93 ARABIC LIGATURE HEH WITH MEEM WITH |JEEM INITIAL FORM|MEEM INITIAL FORM",
    "fd95 ARABIC LIGATURE NOON WITH HAH WITH |MEEM INITIAL FORM|ALEF MAKSURA FINAL FORM",
    "fd97 ARABIC LIGATURE NOON WITH JEEM WITH |MEEM FINAL FORM|MEEM INITIAL FORM|ALEF MAKSURA FINAL FORM",
    "fd9a ARABIC LIGATURE NOON WITH MEEM WITH |YEH FINAL FORM|ALEF MAKSURA FINAL FORM",
    "fd9c ARABIC LIGATURE YEH WITH MEEM WITH MEEM |FINAL FORM|INITIAL FORM",
    "fd9e ARABIC LIGATURE BEH WITH KHAH WITH YEH FINAL |FORM",
    "fd9f ARABIC LIGATURE TEH WITH JEEM WITH |YEH FINAL FORM|ALEF MAKSURA FINAL FORM",
    "fda1 ARABIC LIGATURE TEH WITH KHAH WITH |YEH FINAL FORM|ALEF MAKSURA FINAL FORM",
    "fda3 ARABIC LIGATURE TEH WITH MEEM WITH |YEH FINAL FORM|ALEF MAKSURA FINAL FORM",
    "fda5 ARABIC LIGATURE JEEM WITH MEEM WITH YEH FINAL |FORM",
    "fda6 ARABIC LIGATURE JEEM WITH |HAH WITH ALEF MAKSURA FINAL FORM|MEEM WITH ALEF MAKSURA FINAL FORM",
    "fda8 ARABIC LIGATURE |SEEN WITH KHAH WITH ALEF MAKSURA FINAL FORM|SAD WITH HAH WITH YEH FINAL FORM",
    "fdaa ARABIC LIGATURE |SHEEN WITH HAH WITH YEH FINAL FORM|DAD WITH HAH WITH YEH FINAL FORM",
    "fdac ARABIC LIGATURE LAM WITH |JEEM WITH YEH FINAL FORM|MEEM WITH YEH FINAL FORM",
    "fdae ARABIC LIGATURE YEH WITH |HAH WITH YEH FINAL FORM|JEEM WITH YEH FINAL FORM|MEEM WITH YEH FINAL FORM",
    "fdb1 ARABIC LIGATURE MEEM WITH MEEM WITH YEH FINAL |FORM",
    "fdb2 ARABIC LIGATURE |QAF WITH MEEM WITH YEH FINAL FORM|NOON WITH HAH WITH YEH FINAL FORM",
    "fdb4 ARABIC LIGATURE |QAF WITH MEEM WITH HAH INITIAL FORM|LAM WITH HAH WITH MEEM INITIAL FORM",
    "fdb6 ARABIC LIGATURE |AIN WITH MEEM WITH YEH FINAL FORM|KAF WITH MEEM WITH YEH FINAL FORM",
    "fdb8 ARABIC LIGATURE |NOON WITH JEEM WITH HAH INITIAL FORM|MEEM WITH KHAH WITH YEH FINAL FORM",
    "fdba ARABIC LIGATURE |LAM WITH JEEM WITH MEEM INITIAL FORM|KAF WITH MEEM WITH MEEM FINAL FORM",
    "fdbc ARABIC LIGATURE |LAM WITH JEEM WITH MEEM FINAL FORM|NOON WITH JEEM WITH HAH FINAL FORM",
    "fdbe ARABIC LIGATURE |JEEM WITH HAH WITH YEH FINAL FORM|HAH WITH JEEM WITH YEH FINAL FORM",
    "fdc0 ARABIC LIGATURE |MEEM WITH JEEM WITH YEH FINAL FORM|FEH WITH MEEM WITH YEH FINAL FORM",
    "fdc2 ARABIC LIGATURE |BEH WITH HAH WITH YEH FINAL FORM|KAF WITH MEEM WITH MEEM INITIAL FORM",
    "fdc4 ARABIC LIGATURE |AIN WITH JEEM WITH MEEM INITIAL FORM|SAD WITH MEEM WITH MEEM INITIAL FORM",
    "fdc6 ARABIC LIGATURE |SEEN WITH KHAH WITH YEH FINAL FORM|NOON WITH JEEM WITH YEH FINAL FORM",
    "fdcf ARABIC LIGATURE SALAAMUHU |ALAYNAA;fdf0 ARABIC LIGATURE SALLA USED AS KORANIC STOP SIGN ISOLATED |FORM",
    "fdf1 ARABIC LIGATURE QALA USED AS KORANIC STOP SIGN ISOLATED |FORM",
    "fdf2 ARABIC LIGATURE |ALLAH ISOLATED FORM|AKBAR ISOLATED FORM|MOHAMMAD ISOLATED FORM|SALAM ISOLATED FORM",
    "fdf6 ARABIC LIGATURE |RASOUL ISOLATED FORM|ALAYHE ISOLATED FORM|WASALLAM ISOLATED FORM",
    "fdf9 ARABIC LIGATURE |SALLA ISOLATED FORM|SALLALLAHOU ALAYHE WASALLAM|JALLAJALALOUHOU;fdfc RIAL |SIGN",
    "fdfd ARABIC LIGATURE |BISMILLAH AR-RAHMAN AR-RAHEEM|SUBHAANAHU WA TAAALAA|AZZA WA JALL",
    "fe00 VARIATION SELECTOR-|1|2|3|4|5|6|7|8|9|10|11|12|13|14|15|16",
    "fe10 PRESENTATION FORM FOR VERTICAL |COMMA|IDEOGRAPHIC COMMA|IDEOGRAPHIC FULL STOP|COLON|SEMICOLON",
    "fe15 PRESENTATION FORM FOR VERTICAL |EXCLAMATION MARK|QUESTION MARK|LEFT WHITE LENTICULAR BRACKET",
    "fe18 PRESENTATION FORM FOR VERTICAL |RIGHT WHITE LENTICULAR BRAKCET|HORIZONTAL ELLIPSIS",
    "fe20 COMBINING LIGATURE |LEFT HALF|RIGHT HALF;fe22 COMBINING DOUBLE TILDE |LEFT HALF|RIGHT HALF",
    "fe24 COMBINING |MACRON LEFT HALF|MACRON RIGHT HALF|CONJOINING MACRON|LIGATURE LEFT HALF BELOW",
    "fe28 COMBINING |LIGATURE RIGHT HALF BELOW|TILDE LEFT HALF BELOW|TILDE RIGHT HALF BELOW",
    "fe2b COMBINING |MACRON LEFT HALF BELOW|MACRON RIGHT HALF BELOW|CONJOINING MACRON BELOW",
    "fe2e COMBINING CYRILLIC TITLO |LEFT HALF|RIGHT HALF;fe30 PRESENTATION FORM FOR VERTICAL |TWO DOT LEADER|EM DASH",
    "fe32 PRESENTATION FORM FOR VERTICAL |EN DASH|LOW LINE|WAVY LOW LINE|LEFT PARENTHESIS|RIGHT PARENTHESIS",
    "fe37 PRESENTATION FORM FOR VERTICAL |LEFT CURLY BRACKET|RIGHT CURLY BRACKET|LEFT TORTOISE SHELL BRACKET",
    "fe3a PRESENTATION FORM FOR VERTICAL |RIGHT TORTOISE SHELL BRACKET|LEFT BLACK LENTICULAR BRACKET",
    "fe3c PRESENTATION FORM FOR VERTICAL |RIGHT BLACK LENTICULAR BRACKET|LEFT DOUBLE ANGLE BRACKET",
    "fe3e PRESENTATION FORM FOR VERTICAL |RIGHT DOUBLE ANGLE BRACKET|LEFT ANGLE BRACKET|RIGHT ANGLE BRACKET",
    "fe41 PRESENTATION FORM FOR VERTICAL |LEFT CORNER BRACKET|RIGHT CORNER BRACKET|LEFT WHITE CORNER BRACKET",
    "fe44 |PRESENTATION FORM FOR VERTICAL RIGHT WHITE CORNER BRACKET|SESAME DOT|WHITE SESAME DOT",
    "fe47 PRESENTATION FORM FOR VERTICAL |LEFT SQUARE BRACKET|RIGHT SQUARE BRACKET",
    "fe49 |DASHED OVERLINE|CENTRELINE OVERLINE",
    "fe4b |WAVY OVERLINE|DOUBLE WAVY OVERLINE|DASHED LOW LINE|CENTRELINE LOW LINE|WAVY LOW LINE",
    "fe50 SMALL |COMMA|IDEOGRAPHIC COMMA|FULL STOP;fe54 SMALL |SEMICOLON|COLON",
    "fe56 SMALL |QUESTION MARK|EXCLAMATION MARK|EM DASH|LEFT PARENTHESIS|RIGHT PARENTHESIS|LEFT CURLY BRACKET",
    "fe5c SMALL |RIGHT CURLY BRACKET|LEFT TORTOISE SHELL BRACKET|RIGHT TORTOISE SHELL BRACKET|NUMBER SIGN",
    "fe60 SMALL |AMPERSAND|ASTERISK|PLUS SIGN|HYPHEN-MINUS|LESS-THAN SIGN|GREATER-THAN SIGN|EQUALS SIGN",
    "fe68 SMALL |REVERSE SOLIDUS|DOLLAR SIGN|PERCENT SIGN|COMMERCIAL AT;fe70 ARABIC FATHATAN ISOLATED |FORM",
    "fe71 ARABIC |TATWEEL WITH FATHATAN ABOVE|DAMMATAN ISOLATED FORM|TAIL FRAGMENT|KASRATAN ISOLATED FORM",
    "fe76 ARABIC |FATHA ISOLATED FORM|FATHA MEDIAL FORM|DAMMA ISOLATED FORM",
    "fe79 ARABIC |DAMMA MEDIAL FORM|KASRA ISOLATED FORM|KASRA MEDIAL FORM|SHADDA ISOLATED FORM",
    "fe7d ARABIC |SHADDA MEDIAL FORM|SUKUN ISOLATED FORM|SUKUN MEDIAL FORM|LETTER HAMZA ISOLATED FORM",
    "fe81 ARABIC LETTER ALEF WITH MADDA ABOVE |ISOLATED FORM|FINAL FORM",
    "fe83 ARABIC LETTER ALEF WITH HAMZA ABOVE |ISOLATED FORM|FINAL FORM",
    "fe85 ARABIC LETTER WAW WITH HAMZA ABOVE |ISOLATED FORM|FINAL FORM",
    "fe87 ARABIC LETTER ALEF WITH HAMZA BELOW |ISOLATED FORM|FINAL FORM",
    "fe89 ARABIC LETTER YEH WITH HAMZA ABOVE |ISOLATED FORM|FINAL FORM|INITIAL FORM|MEDIAL FORM",
    "fe8d ARABIC LETTER ALEF |ISOLATED FORM|FINAL FORM",
    "fe8f ARABIC LETTER BEH |ISOLATED FORM|FINAL FORM|INITIAL FORM|MEDIAL FORM",
    "fe93 ARABIC LETTER TEH MARBUTA |ISOLATED FORM|FINAL FORM",
    "fe95 ARABIC LETTER TEH |ISOLATED FORM|FINAL FORM|INITIAL FORM|MEDIAL FORM",
    "fe99 ARABIC LETTER THEH |ISOLATED FORM|FINAL FORM|INITIAL FORM|MEDIAL FORM",
    "fe9d ARABIC LETTER JEEM |ISOLATED FORM|FINAL FORM|INITIAL FORM|MEDIAL FORM",
    "fea1 ARABIC LETTER HAH |ISOLATED FORM|FINAL FORM|INITIAL FORM|MEDIAL FORM",
    "fea5 ARABIC LETTER KHAH |ISOLATED FORM|FINAL FORM|INITIAL FORM|MEDIAL FORM",
    "fea9 ARABIC LETTER |DAL ISOLATED FORM|DAL FINAL FORM|THAL ISOLATED FORM",
    "feac ARABIC LETTER |THAL FINAL FORM|REH ISOLATED FORM|REH FINAL FORM|ZAIN ISOLATED FORM|ZAIN FINAL FORM",
    "feb1 ARABIC LETTER SEEN |ISOLATED FORM|FINAL FORM|INITIAL FORM|MEDIAL FORM",
    "feb5 ARABIC LETTER SHEEN |ISOLATED FORM|FINAL FORM|INITIAL FORM|MEDIAL FORM",
    "feb9 ARABIC LETTER SAD |ISOLATED FORM|FINAL FORM|INITIAL FORM|MEDIAL FORM",
    "febd ARABIC LETTER DAD |ISOLATED FORM|FINAL FORM|INITIAL FORM|MEDIAL FORM",
    "fec1 ARABIC LETTER TAH |ISOLATED FORM|FINAL FORM|INITIAL FORM|MEDIAL FORM",
    "fec5 ARABIC LETTER ZAH |ISOLATED FORM|FINAL FORM|INITIAL FORM|MEDIAL FORM",
    "fec9 ARABIC LETTER AIN |ISOLATED FORM|FINAL FORM|INITIAL FORM|MEDIAL FORM",
    "fecd ARABIC LETTER GHAIN |ISOLATED FORM|FINAL FORM|INITIAL FORM|MEDIAL FORM",
    "fed1 ARABIC LETTER FEH |ISOLATED FORM|FINAL FORM|INITIAL FORM|MEDIAL FORM",
    "fed5 ARABIC LETTER QAF |ISOLATED FORM|FINAL FORM|INITIAL FORM|MEDIAL FORM",
    "fed9 ARABIC LETTER KAF |ISOLATED FORM|FINAL FORM|INITIAL FORM|MEDIAL FORM",
    "fedd ARABIC LETTER LAM |ISOLATED FORM|FINAL FORM|INITIAL FORM|MEDIAL FORM",
    "fee1 ARABIC LETTER MEEM |ISOLATED FORM|FINAL FORM|INITIAL FORM|MEDIAL FORM",
    "fee5 ARABIC LETTER NOON |ISOLATED FORM|FINAL FORM|INITIAL FORM|MEDIAL FORM",
    "fee9 ARABIC LETTER HEH |ISOLATED FORM|FINAL FORM|INITIAL FORM|MEDIAL FORM",
    "feed ARABIC LETTER |WAW ISOLATED FORM|WAW FINAL FORM|ALEF MAKSURA ISOLATED FORM|ALEF MAKSURA FINAL FORM",
    "fef1 ARABIC LETTER YEH |ISOLATED FORM|FINAL FORM|INITIAL FORM|MEDIAL FORM",
    "fef5 ARABIC LIGATURE LAM WITH ALEF WITH MADDA ABOVE |ISOLATED FORM|FINAL FORM",
    "fef7 ARABIC LIGATURE LAM WITH ALEF WITH HAMZA |ABOVE ISOLATED FORM|ABOVE FINAL FORM|BELOW ISOLATED FORM",
    "fefa ARABIC LIGATURE LAM WITH ALEF |WITH HAMZA BELOW FINAL FORM|ISOLATED FORM|FINAL FORM",
    "feff ZERO WIDTH NO-BREAK |SPACE;ff01 FULLWIDTH EXCLAMATION |MARK",
    "ff02 FULLWIDTH |QUOTATION MARK|NUMBER SIGN|DOLLAR SIGN|PERCENT SIGN|AMPERSAND|APOSTROPHE|LEFT PARENTHESIS",
    "ff09 FULLWIDTH |RIGHT PARENTHESIS|ASTERISK|PLUS SIGN|COMMA|HYPHEN-MINUS|FULL STOP|SOLIDUS",
    "ff10 FULLWIDTH DIGIT |ZERO|ONE|TWO|THREE|FOUR|FIVE|SIX|SEVEN|EIGHT|NINE",
    "ff1a FULLWIDTH |COLON|SEMICOLON|LESS-THAN SIGN|EQUALS SIGN|GREATER-THAN SIGN|QUESTION MARK|COMMERCIAL AT",
    "ff21 FULLWIDTH LATIN CAPITAL LETTER |A|B|C|D|E|F|G|H|I|J|K|L|M|N|O|P|Q|R|S|T|U|V|W|X|Y|Z",
    "ff3b FULLWIDTH LEFT SQUARE |BRACKET",
    "ff3c FULLWIDTH |REVERSE SOLIDUS|RIGHT SQUARE BRACKET|CIRCUMFLEX ACCENT|LOW LINE|GRAVE ACCENT",
    "ff41 FULLWIDTH LATIN SMALL LETTER |A|B|C|D|E|F|G|H|I|J|K|L|M|N|O|P|Q|R|S|T|U|V|W|X|Y|Z",
    "ff5b FULLWIDTH LEFT CURLY |BRACKET",
    "ff5c FULLWIDTH |VERTICAL LINE|RIGHT CURLY BRACKET|TILDE|LEFT WHITE PARENTHESIS|RIGHT WHITE PARENTHESIS",
    "ff61 HALFWIDTH |IDEOGRAPHIC FULL STOP|LEFT CORNER BRACKET|RIGHT CORNER BRACKET|IDEOGRAPHIC COMMA",
    "ff65 HALFWIDTH KATAKANA |MIDDLE DOT|LETTER WO;ff67 HALFWIDTH KATAKANA LETTER SMALL |A|I|U|E|O|YA|YU|YO|TU",
    "ff70 HALFWIDTH KATAKANA-HIRAGANA PROLONGED SOUND |MARK",
    "ff71 HALFWIDTH KATAKANA LETTER |A|I|U|E|O|KA|KI|KU|KE|KO|SA|SI|SU|SE|SO|TA|TI|TU|TE|TO",
    "ff85 HALFWIDTH KATAKANA LETTER |NA|NI|NU|NE|NO|HA|HI|HU|HE|HO|MA|MI|MU|ME|MO|YA|YU|YO|RA|RI|RU|RE|RO|WA|N",
    "ff9e HALFWIDTH KATAKANA |VOICED SOUND MARK|SEMI-VOICED SOUND MARK",
    "ffa0 HALFWIDTH HANGUL |FILLER|LETTER KIYEOK|LETTER SSANGKIYEOK",
    "ffa3 HALFWIDTH HANGUL LETTER |KIYEOK-SIOS|NIEUN|NIEUN-CIEUC|NIEUN-HIEUH|TIKEUT|SSANGTIKEUT|RIEUL",
    "ffaa HALFWIDTH HANGUL LETTER RIEUL-|KIYEOK|MIEUM|PIEUP|SIOS|THIEUTH|PHIEUPH|HIEUH",
    "ffb1 HALFWIDTH HANGUL LETTER |MIEUM|PIEUP|SSANGPIEUP|PIEUP-SIOS",
    "ffb5 HALFWIDTH HANGUL LETTER |SIOS|SSANGSIOS|IEUNG|CIEUC|SSANGCIEUC|CHIEUCH|KHIEUKH|THIEUTH|PHIEUPH|HIEUH",
    "ffc2 HALFWIDTH HANGUL LETTER |A|AE|YA|YAE|EO|E;ffca HALFWIDTH HANGUL LETTER |YEO|YE|O|WA|WAE|OE",
    "ffd2 HALFWIDTH HANGUL LETTER |YO|U|WEO|WE|WI|YU;ffda HALFWIDTH HANGUL LETTER |EU|YI|I",
    "ffe0 FULLWIDTH |CENT SIGN|POUND SIGN|NOT SIGN|MACRON|BROKEN BAR|YEN SIGN|WON SIGN",
    "ffe8 HALFWIDTH FORMS LIGHT |VERTICAL",
    "ffe9 HALFWIDTH |LEFTWARDS ARROW|UPWARDS ARROW|RIGHTWARDS ARROW|DOWNWARDS ARROW|BLACK SQUARE|WHITE CIRCLE",
    "fff9 INTERLINEAR ANNOTATION |ANCHOR|SEPARATOR|TERMINATOR",
    "fffc |OBJECT REPLACEMENT CHARACTER|REPLACEMENT CHARACTER"]

end EdgeRoutes.Text
