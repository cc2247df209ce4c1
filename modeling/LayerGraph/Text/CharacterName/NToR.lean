/-! Names of characters that begin with N to R. -/

set_option autoImplicit false

namespace LayerGraph.Text

/-- Names that begin with N: what stands before brackets goes before each of the endings in them. -/
def namesInN : List String := [
  "N(-ARY (C(IRCLED (DOT OPERATOR|PLUS OPERATOR|TIMES OPERATOR)|OPRODUCT)|INTERSECTION|LOGICAL (",
  "AND|OR)|PRODUCT|S(QUARE (INTERSECTION OPERATOR|UNION OPERATOR)|UMMATION)|TIMES OPERATOR|UNION(",
  "| OPERATOR WITH (DOT|PLUS))|WHITE VERTICAL BAR)|A(B(ATAEAN (CRUCIFORM NUMBER FOUR|LETTER (A(",
  "LEPH|YIN)|BETH|DALETH|FINAL (ALEPH|BETH|HE|KAPH|LAMEDH|MEM|NUN|SHIN|YODH)|GIMEL|HE(|TH)|KAPH|",
  "LAMEDH|MEM|NUN|PE|QOPH|RESH|S(A(DHE|MEKH)|HIN)|T(AW|ETH)|WAW|YODH|ZAYIN)|NUMBER (F(IVE|OUR)|",
  "ONE(| HUNDRED)|T(EN|HREE|W(ENTY|O))))|LA)|I(L POLISH|RA SIGN)|K|ME BADGE|ND(|INAGARI (",
  "HEADSTROKE|LETTER (A(|A|I|U)|B(A|HA)|C(A|HA)|D(A|D(A|HA)|HA)|E|G(A|HA)|HA|I(|I)|J(A|HA)|K(A|",
  "HA)|L(A|LA)|MA|N(A|GA|NA|YA)|O|P(A|HA)|R(A|RA)|S(A|HA|SA)|T(A|HA|T(A|HA))|U(|U)|V(A|OCALIC R(|",
  "R))|YA)|SIGN (A(NUSVARA|VAGRAHA)|SIDDHAM|VI(RAMA|SARGA))|VOWEL SIGN (A(A|I|U)|E|I(|I)|O|",
  "PRISHTHAMATRA E|U(|U)|VOCALIC R(|R))))|RROW NO-BREAK SPACE|TIONAL (DIGIT SHAPES|PARK)|",
  "USEATED FACE|ZAR AMULET)|B(H|SP)|E(CKTIE|GAT(ED DOUBLE VERTICAL BAR DOUBLE RIGHT TURNSTILE|",
  "IVE (ACKNOWLEDGE|CIRCLED (DIGIT ZERO|LATIN CAPITAL LETTER (A|B|C|D|E|F|G|H|I|J|K|L|M|N|O|P|Q|",
  "R|S|T|U|V|W|X|Y|Z)|NUMBER (E(IGHTEEN|LEVEN)|F(IFTEEN|OURTEEN)|NINETEEN|S(EVENTEEN|IXTEEN)|T(",
  "HIRTEEN|WE(LVE|NTY)))|SQUARE|TRIANGLE)|DIAGONAL (CROSS|DIAMOND|MIDDLE RIGHT TO LOWER CENTRE)|",
  "SQUARED (AB|CROSS MARK|IC|LATIN CAPITAL LETTER (A|B|C|D|E|F|G|H|I|J|K|L|M|N|O|P|Q|R|S|T|U|V|W|",
  "X|Y|Z)|PA|QUESTION MARK|SA|WC)))|ITHER (A( SU(BSET OF NOR EQUAL TO|PERSET OF NOR EQUAL TO)|",
  "PPROXIMATELY NOR ACTUALLY EQUAL TO)|GREATER-THAN NOR (EQU(AL TO|IVALENT TO)|LESS-THAN)|",
  "LESS-THAN NOR (EQU(AL TO|IVALENT TO)|GREATER-THAN))|L|PTUNE(| FORM TWO)|RD FACE|S(SUS|T(",
  " WITH EGGS|ING DOLLS))|UT(ER|RAL (CHESS (BISHOP(| ROTATED (NINETY DEGREES|",
  "TWO HUNDRED SEVENTY DEGREES))|EQUIHOPPER(| ROTATED NINETY DEGREES)|K(ING(| ROTATED (",
  "NINETY DEGREES|TWO HUNDRED SEVENTY DEGREES))|NIGHT(| ROTATED (FORTY-FIVE DEGREES|",
  "NINETY DEGREES|ONE HUNDRED THIRTY-FIVE DEGREES|T(HREE HUNDRED FIFTEEN DEGREES|WO HUNDRED (",
  "SEVENTY DEGREES|TWENTY-FIVE DEGREES)))))|PAWN(| ROTATED (NINETY DEGREES|",
  "TWO HUNDRED SEVENTY DEGREES))|QUEEN(| ROTATED (NINETY DEGREES|TWO HUNDRED SEVENTY DEGREES))|",
  "ROOK(| ROTATED (NINETY DEGREES|TWO HUNDRED SEVENTY DEGREES))|TURNED (BISHOP|K(ING|NIGHT)|PAWN|",
  "QUEEN|ROOK))|FACE))|W( (LINE|MOON (SYMBOL|WITH FACE)|SHEQEL SIGN|TAI LUE (DIGIT (EIGHT|F(IVE|",
  "OUR)|NINE|ONE|S(EVEN|IX)|T(HREE|WO)|ZERO)|LETTER (FINAL (B|D|K|M|N(|G)|V)|HIGH (BA|DA|FA|HA|K(",
  "A|VA)|LA|MA|N(A|GA)|P(A|HA)|QA|S(A|UA)|T(A|HA|SA)|VA|X(A|VA)|YA)|LOW (BA|DA|FA|HA|K(A|VA)|LA|",
  "MA|N(A|GA)|P(A|HA)|QA|S(A|UA)|T(A|HA|SA)|VA|X(A|VA)|YA))|SIGN LAE(|V)|T(HAM DIGIT ONE|",
  "ONE MARK-(1|2))|VOWEL SIGN (A(A(|Y)|E|Y)|E|I(I|Y)|O(|A(|Y)|Y)|U(|E(|Y)|U|Y)|VOWEL SHORTENER)))",
  "|A (ABBREVIATION SIGN|COMMA|D(ANDA|IGIT (EIGHT|F(IVE|OUR)|NINE|ONE|S(EVEN|IX)|T(HREE|WO)|ZERO)",
  "|OUBLE (COMMA|DANDA))|GAP FILLER|INSERTION SIGN|LETTER (A(|A|I|U)|B(A|HA)|C(A|HA)|D(A|D(A|HA)|",
  "HA)|E|G(A|HA)|HA|I(|I)|J(A|HA)|K(A|HA)|L(A|HA)|M(A|HA)|N(A|G(A|HA)|HA|NA|Y(A|HA))|O|P(A|HA)|R(",
  "A|HA)|S(A|HA|SA)|T(A|HA|T(A|HA))|U(|U)|V(EDIC ANUSVARA|OCALIC (L(|L)|R(|R)))|WA|YA)|OM|",
  "PLACEHOLDER MARK|S(ANDHI MARK|I(DDHI|GN (A(NUSVARA|VAGRAHA)|CANDRABINDU|FINAL ANUSVARA|",
  "JIHVAMULIYA|NUKTA|UPADHMANIYA|VI(RAMA|SARGA))))|VOWEL SIGN (A(A|I|U)|E|I(|I)|O|U(|U)|VOCALIC (",
  "L(|L)|R(|R))))|LINE (LEFT|RIGHT)|SPAPER)|XT (LINE|PAGE))|I(GHT WITH STARS|NJA)|KO (COM(",
  "BINING (DOUBLE DOT ABOVE|LONG (DESCENDING TONE|HIGH TONE|LOW TONE|RISING TONE)|",
  "NASALIZATION MARK|SHORT (HIGH TONE|LOW TONE|RISING TONE))|MA)|D(ANTAYALAN|IGIT (EIGHT|F(IVE|",
  "OUR)|NINE|ONE|S(EVEN|IX)|T(HREE|WO)|ZERO)|OROME SIGN)|EXCLAMATION MARK|HIGH TONE APOSTROPHE|L(",
  "AJANYALAN|ETTER (A|BA|CHA|DA(|GBASINNA)|E(|E)|FA|GBA|HA|I|J(A|ONA (CHA|JA|RA))|KA|LA|MA|N(|A(|",
  " WOLOSO)|YA(| WOLOSO))|O(|O)|PA|R(A|RA)|SA|TA|U|WA|YA)|OW TONE APOSTROPHE)|SYMBOL (GBAKURUNEN|",
  "OO DENNEN)|TAMAN SIGN)|L|NBSP|O( (B(ICYCLES|REAK HERE)|ENTRY(| SIGN)|MOBILE PHONES|",
  "ONE UNDER EIGHTEEN SYMBOL|P(EDESTRIANS|IRACY)|SMOKING SYMBOL)|-BREAK SPACE|MI(",
  "NAL DIGIT SHAPES|SMA SIGN)|N(-(BREAKING HYPHEN|POTABLE WATER SYMBOL)|FORKING)|R(|",
  "DIC MARK SIGN|MAL SUBGROUP OF(| OR EQUAL TO)|TH( (EAST (A(ND SOUTH WEST ARROW|RROW(| (",
  "AND SOUTH EAST ARROW|CROSSING (NORTH WEST ARROW|SOUTH EAST ARROW)|WITH HOOK)))|BLACK ARROW|",
  "DOUBLE ARROW|POINTING (BUD|LEAF|VINE LEAF)|SANS-SERIF ARROW|TRIANGLE-HEADED ARROW(| TO BAR)|",
  "WHITE ARROW)|INDIC (FRACTION (ONE (EIGHTH|HALF|QUARTER|SIXTEENTH)|THREE (QUARTERS|SIXTEENTHS))",
  "|PLACEHOLDER MARK|QUA(NTITY MARK|RTER MARK)|RUPEE MARK)|WEST (A(ND SOUTH EAST ARROW|RROW(| (",
  "AND NORTH EAST ARROW|CROSSING NORTH EAST ARROW|TO (CORNER|LONG BAR)|WITH HOOK)))|BLACK ARROW|",
  "DOUBLE ARROW|POINTING (BUD|LEAF|VINE LEAF)|SANS-SERIF ARROW|TRIANGLE-HEADED ARROW(| TO BAR)|",
  "WHITE ARROW))|EAST-POINTING AIRPLANE))|SE|T( (A( SU(BSET OF|PERSET OF)|LMOST EQUAL TO|",
  "N ELEMENT OF|SYMPTOTICALLY EQUAL TO)|CHECK MARK|EQU(AL TO|IVALENT TO)|GREATER-THAN|",
  "IDENTICAL TO|LESS-THAN|NORMAL SUBGROUP OF(| OR EQUAL TO)|PARALLEL TO|S(IGN|QUARE (",
  "IMAGE OF OR EQUAL TO|ORIGINAL OF OR EQUAL TO))|T(ILDE|RUE))|CHED (L(EFT SEMICIRCLE WITH THREE ",
  "DOTS|OWER RIGHT-SHADOWED WHITE RIGHTWARDS ARROW)|RIGHT SEMICIRCLE WITH THREE DOTS|",
  "UPPER RIGHT-SHADOWED WHITE RIGHTWARDS ARROW)|E(| PA(D|GE)|BOOK(| WITH DECORATIVE COVER))))|U(",
  "L(|L)|M(BER (E(IGHTEEN FULL STOP|LEVEN FULL STOP)|F(IFTEEN FULL STOP|OURTEEN FULL STOP)|",
  "NINETEEN FULL STOP|S(EVENTEEN FULL STOP|I(GN|XTEEN FULL STOP))|T(EN FULL STOP|",
  "HIRTEEN FULL STOP|WE(LVE FULL STOP|NTY FULL STOP)))|ERO SIGN)|SHU (CHARACTER-1B(1(7(0|1|2|3|4|",
  "5|6|7|8|9|A|B|C|D|E|F)|8(0|1|2|3|4|5|6|7|8|9|A|B|C|D|E|F)|9(0|1|2|3|4|5|6|7|8|9|A|B|C|D|E|F)|",
  "A(0|1|2|3|4|5|6|7|8|9|A|B|C|D|E|F)|B(0|1|2|3|4|5|6|7|8|9|A|B|C|D|E|F)|C(0|1|2|3|4|5|6|7|8|9|A|",
  "B|C|D|E|F)|D(0|1|2|3|4|5|6|7|8|9|A|B|C|D|E|F)|E(0|1|2|3|4|5|6|7|8|9|A|B|C|D|E|F)|F(0|1|2|3|4|",
  "5|6|7|8|9|A|B|C|D|E|F))|2(0(0|1|2|3|4|5|6|7|8|9|A|B|C|D|E|F)|1(0|1|2|3|4|5|6|7|8|9|A|B|C|D|E|",
  "F)|2(0|1|2|3|4|5|6|7|8|9|A|B|C|D|E|F)|3(0|1|2|3|4|5|6|7|8|9|A|B|C|D|E|F)|4(0|1|2|3|4|5|6|7|8|",
  "9|A|B|C|D|E|F)|5(0|1|2|3|4|5|6|7|8|9|A|B|C|D|E|F)|6(0|1|2|3|4|5|6|7|8|9|A|B|C|D|E|F)|7(0|1|2|",
  "3|4|5|6|7|8|9|A|B|C|D|E|F)|8(0|1|2|3|4|5|6|7|8|9|A|B|C|D|E|F)|9(0|1|2|3|4|5|6|7|8|9|A|B|C|D|E|",
  "F)|A(0|1|2|3|4|5|6|7|8|9|A|B|C|D|E|F)|B(0|1|2|3|4|5|6|7|8|9|A|B|C|D|E|F)|C(0|1|2|3|4|5|6|7|8|",
  "9|A|B|C|D|E|F)|D(0|1|2|3|4|5|6|7|8|9|A|B|C|D|E|F)|E(0|1|2|3|4|5|6|7|8|9|A|B|C|D|E|F)|F(0|1|2|",
  "3|4|5|6|7|8|9|A|B)))|ITERATION MARK)|T AND BOLT)|YIAKENG PUACHUE HMONG (CIRCLED CA|DIGIT (",
  "EIGHT|F(IVE|OUR)|NINE|ONE|S(EVEN|IX)|T(HREE|WO)|ZERO)|L(ETTER (A(|A)|CA|D(A|LA)|E(|E)|FA|GA|",
  "HA(|H)|I|KA|LA|M(A|LA)|N(A|CA|KA|P(A|LA)|QA|RA|T(A|SA|XA)|YA)|O(|O)|P(A|LA)|QA|R(A|RA)|SA|T(A|",
  "SA|XA)|U|VA|W|X(A|YA)|YA|ZA)|OGOGRAM NYAJ)|S(IGN (FOR (ANIMAL|INVERTEBRATE|LOCATION|PERSON|",
  "THING)|XW XW)|YLLABLE LENGTHENER)|TONE-(B|D|G|J|M|S|V)))"]

/-- Names that begin with O: what stands before brackets goes before each of the endings in them. -/
def namesInO : List String := [
  "O(B(JECT REPLACEMENT CHARACTER|LIQUE (ANGLE OPENING (DOWN|UP)|HYPHEN)|SERVER EYE SYMBOL)|C(R (",
  "AMOUNT OF CHECK|B(ELT BUCKLE|OW TIE|RANCH BANK IDENTIFICATION)|C(HAIR|USTOMER ACCOUNT NUMBER)|",
  "D(ASH|OUBLE BACKSLASH)|FORK|HOOK|INVERTED FORK)|T(AGONAL SIGN|OPUS))|DEN|FFICE BUILDING|G(",
  "HAM (FEATHER MARK|LETTER (AILM|BEITH|C(EIRT|OLL)|DAIR|EA(BHADH|DHADH|MHANCHOLL)|FEARN|GORT|I(",
  "FIN|ODHADH)|LUIS|MUIN|N(GEADAL|ION)|O(NN|R)|PEITH|RUIS|S(AIL|TRAIF)|TINNE|U(ATH|ILLEANN|R))|",
  "REVERSED FEATHER MARK|SPACE MARK)|ONEK)|HM SIGN|IL DRUM|K HAND SIGN|L( CHIKI (AHAD|DIGIT (",
  "EIGHT|F(IVE|OUR)|NINE|ONE|S(EVEN|IX)|T(HREE|WO)|ZERO)|GAAHLAA TTUDDAAG|LETTER (A(A(J|K|M|W)|G|",
  "L|NG|T)|E(DD|N|P|RR)|I(H|NY|R|S)|L(A(|A)|E|I|O|U)|O(B|H|TT|V)|U(C|D|NN|Y))|MU( TTUDDAG|",
  "-GAAHLAA TTUDDAAG)|P(HAARKAA|UNCTUATION (DOUBLE MUCAAD|MUCAAD))|RELAA)|D( (CHINESE (HOOK MARK|",
  "ITERATION MARK)|HUNGARIAN (CAPITAL LETTER (A(|A|K|MB|ND)|CLOSE E|E(|B|C(|H|S)|D|E|F|G(|Y)|H|J|",
  "K|L(|Y)|M(|P)|N(|C|T(|-SHAPED SIGN)|Y)|P|R|S(|Z)|T(|Y)|V|Z(|S))|I(|I)|NIKOLSBURG (OE|UE)|O(|",
  "EE|O)|RUDIMENTA (OE|UE)|SHORT ER|U(|NK|S|U))|NUMBER (FI(FTY|VE)|ONE(| (HUNDRED|THOUSAND))|TEN)",
  "|SMALL LETTER (A(|A|K|MB|ND)|CLOSE E|E(|B|C(|H|S)|D|E|F|G(|Y)|H|J|K|L(|Y)|M(|P)|N(|C|T(|",
  "-SHAPED SIGN)|Y)|P|R|S(|Z)|T(|Y)|V|Z(|S))|I(|I)|NIKOLSBURG (OE|UE)|O(|EE|O)|RUDIMENTA (OE|UE)|",
  "SHORT ER|U(|NK|S|U)))|ITALIC (LETTER (A|BE|CHE|DE|E(|F|KS|L|M|N|R(|S)|S(|H|S))|HE|I(|I)|K(A|E|",
  "HE|U)|NORTHERN TSE|O|P(E|HE)|S(HE|OUTHERN TSE)|T(E|HE)|U(|U)|VE|YE|ZE)|NUMERAL (FI(FTY|VE)|",
  "ONE|TEN))|KEY|NORTH ARABIAN (LETTER (A(IN|LEF)|BEH|DA(D|L)|ES-(1|2|3)|FEH|G(EEM|HAIN)|H(AH|EH)",
  "|K(AF|HAH)|LAM|MEEM|NOON|QAF|REH|SAD|T(AH|EH|H(AL|EH))|WAW|YEH|ZA(H|IN))|NUMBER (ONE|T(EN|",
  "WENTY)))|PER(MIC LETTER (AN|BUR|CHERY|D(OI|Z(HOI|ITA))|E(|F)|GAI|HA|I(|A|E)|KOKE|LEI|MENOE|",
  "NENOE|O(|O)|PEEI|REI|S(H(CHOOI|OOI)|II)|T(AI|SIU)|U|V(ER|OOI)|Y(A(|T)|ER(|I|U)|RY|U)|Z(ATA|",
  "HOI))|S(IAN (NUMBER (HUNDRED|ONE|T(EN|W(ENTY|O)))|SIGN (A(|URAMAZDAA(|-2|HA))|B(A(|GA)|UUMISH)",
  "|CA|D(A(|HYAAUSH(|-2))|I|U)|FA|G(A|U)|HA|I|J(A|I)|K(A|U)|LA|M(A|I|U)|N(A|U)|PA|R(A|U)|S(A|HA|",
  "SA)|T(A|HA|U)|U|V(A|I)|X(A|SHAAYATHIYA)|YA|ZA)|WORD DIVIDER)|ONAL COMPUTER))|SO(GDIAN (",
  "FRACTION ONE HALF|L(ETTER (A(L(EPH|TERNATE AYIN)|YIN)|BETH|FINAL (ALEPH|BETH|HE|NUN(|",
  " WITH VERTICAL TAIL)|SADHE(| WITH VERTICAL TAIL)|TAW(| WITH VERTICAL TAIL))|GIMEL|HE(|TH)|",
  "KAPH|LAMEDH|MEM|NUN|PE|RESH-AYIN-DALETH|S(A(DHE|MEKH)|HIN)|TAW|WAW|YODH|ZAYIN)|",
  "IGATURE AYIN-DALETH)|NUMBER (F(IVE|OUR)|ONE(| HUNDRED)|T(EN|H(IRTY|REE)|W(ENTY|O))))|",
  "UTH ARABIAN (LETTER (A(LEF|YN)|BETH|D(ALETH|HA(DHE|LETH))|FE|G(HAYN|IMEL)|HE(|TH)|K(APH|HETH)|",
  "LAMEDH|MEM|NUN|QOPH|RESH|S(A(DHE|MEKH|T)|HIN)|T(AW|ETH|H(AW|ETH))|WAW|YODH|ZAYN)|NUM(BER (",
  "FIFTY|ONE)|ERIC INDICATOR)))|TURKIC LETTER (ORKHON (A(|B|D|E(B|D|G|K|L|N|R|S|T|Y)|G|L|N|Q|R|S(",
  "|H)|T|Y)|BASH|E(C|LT|M|N(C|G|T|Y)|P|SH|Z)|I(|C|Q)|O(|E(|K)|P|Q|T))|YENISEI (A(|B|D|E(|B|G|K|N(",
  "|G)|T|Y)|G|L|NG|Q|R|SH|T|Y)|E(|C|N(C|T|Y)|SH|Z)|I(|Q)|O(E(|K)|Q)))|UYGHUR (COMBINING (DOT (",
  "ABOVE|BELOW)|TWO DOTS (ABOVE|BELOW))|LETTER (ALEPH|BETH|FINAL HETH|GIMEL-HETH|KAPH|L(AMEDH|",
  "ESH)|MEM|NUN|PE|RESH|S(A(DHE|MEKH)|HIN)|TAW|WAW|YODH|ZAYIN)|PUNCTUATION (BAR|FOUR DOTS|TWO (",
  "BARS|DOTS))))|ER (ADULT|MAN|WOMAN))|IVE)|M SYMBOL|N( WITH EXCLAMATION MARK WITH LEFT RIGHT ARR",
  "OW ABOVE|COMING (AUTOMOBILE|BUS|FIRE ENGINE|POLICE CAR|TAXI)|E( (BUTTON MOUSE|DOT (LEADER|",
  "OVER TWO DOTS PUNCTUATION))|-PIECE SWIMSUIT)|ION)|P(E(N( (BO(OK|X)|CENTRE (ASTERISK|",
  "BLACK STAR|CROSS|TEARDROP-SPOKED ASTERISK)|F(ILE FOLDER|OLDER)|HANDS SIGN|LOCK|MAILBOX WITH (",
  "LOWERED FLAG|RAISED FLAG)|SU(BSET|PERSET))|-(CIRCUIT-OUTPUT (H-TYPE SYMBOL|L-TYPE SYMBOL)|",
  "OUTLINED RIGHTWARDS ARROW))|RATING SYSTEM COMMAND)|HIUCHUS|POSITION|TI(CAL DISC(| ICON)|",
  "ON KEY))|R( WITH DOT INSIDE|ANG(E (BOOK|HEART)|UTAN)|I(GINAL OF|YA (A(I LENGTH MARK|",
  "U LENGTH MARK)|DIGIT (EIGHT|F(IVE|OUR)|NINE|ONE|S(EVEN|IX)|T(HREE|WO)|ZERO)|FRACTION (ONE (",
  "EIGHTH|HALF|QUARTER|SIXTEENTH)|THREE (QUARTERS|SIXTEENTHS))|ISSHAR|LETTER (A(|A|I|U)|B(A|HA)|",
  "C(A|HA)|D(A|D(A|HA)|HA)|E|G(A|HA)|HA|I(|I)|J(A|HA)|K(A|HA)|L(A|LA)|MA|N(A|GA|NA|YA)|O|P(A|HA)|",
  "R(A|HA|RA)|S(A|HA|SA)|T(A|HA|T(A|HA))|U(|U)|V(A|OCALIC (L(|L)|R(|R)))|WA|Y(A|YA))|SIGN (A(",
  "NUSVARA|VAGRAHA)|CANDRABINDU|NUKTA|OVERLINE|VI(RAMA|SARGA))|VOWEL SIGN (A(A|I|U)|E|I(|I)|O|U(|",
  "U)|VOCALIC (L(|L)|R(|R)))))|NATE (LEFT PARENTHESIS|RIGHT PARENTHESIS)|THODOX CROSS)|S(AGE (",
  "CAPITAL LETTER (A(|H|I(|N))|BRA|CHA|DHA|E(|H(CHA|KA|PA|T(A|SA))|IN)|GHA|H(A|YA)|I|K(A|HA|YA)|",
  "LA|MA|NA|O(|IN)|PA|S(A|HA)|T(A|S(A|HA))|U|WA|Z(A|HA))|SMALL LETTER (A(|H|I(|N))|BRA|CHA|DHA|E(",
  "|H(CHA|KA|PA|T(A|SA))|IN)|GHA|H(A|YA)|I|K(A|HA|YA)|LA|MA|NA|O(|IN)|PA|S(A|HA)|T(A|S(A|HA))|U|",
  "WA|Z(A|HA)))|C|MANYA (DIGIT (EIGHT|F(IVE|OUR)|NINE|ONE|S(EVEN|IX)|T(HREE|WO)|ZERO)|LETTER (A(|",
  "A|LEF)|BA|CAYN|D(EEL|HA)|E(|E)|FA|GA|HA|I|JA|K(AAF|HA)|LAAN|MIIN|NUUN|O(|O)|QAAF|RA|S(A|HIIN)|",
  "TA|U|WAW|XA|YA)))|TT(ER|OMAN SIYAQ (ALTERNATE NUMBER (EIGHT|F(IVE|OUR(| HUNDRED))|NINE|S(EVEN|",
  "IX(| HUNDRED))|T(EN(| THOUSAND)|HREE|WO(| THOUSAND)))|FRACTION ONE (HALF|SIXTH)|MARRATAN|",
  "NUMBER (EIGHT(| (HUNDRED|THOUSAND)|Y(| THOUSAND))|F(I(FTY(| THOUSAND)|VE(| (HUNDRED|THOUSAND))",
  ")|O(RTY(| THOUSAND)|UR(| (HUNDRED|THOUSAND))))|NINE(| (HUNDRED|THOUSAND)|TY(| THOUSAND))|ONE(|",
  " (HUNDRED|THOUSAND))|S(EVEN(| (HUNDRED|THOUSAND)|TY(| THOUSAND))|IX(| (HUNDRED|THOUSAND)|TY(|",
  " THOUSAND)))|T(EN(| THOUSAND)|H(IRTY(| THOUSAND)|REE(| (HUNDRED|THOUSAND)))|W(ENTY(| THOUSAND)",
  "|O(| (HUNDRED|THOUSAND)))))))|U(NCE SIGN|T(BOX TRAY|LINED (BLACK STAR|GREEK CROSS|LATIN CROSS|",
  "WHITE STAR)))|VER(HEATED FACE|L(AP(|PING (BLACK SQUARES|WHITE (AND BLACK SQUARES|SQUARES)))|",
  "INE))|WL|X|YSTER)"]

/-- Names that begin with P: what stands before brackets goes before each of the endings in them. -/
def namesInP : List String := [
  "P(A(CKAGE|D(|DING CHARACTER)|G(E(| (FACING UP|WITH C(IRCLED TEXT|URL))|R|S)|ODA)|HAWH HMONG (",
  "C(LAN SIGN (FAJ|HA(M|WJ)|K(HAB|OO|WM)|L(AUJ|IS)|MUAS|PHAB|T(HOJ|S(AB|HEEJ|WB))|V(AJ|WJ)|XYOOJ|",
  "Y(AJ|EEG))|ONSONANT (AU|C(AU|HAU)|H(AU|LAU|NAU)|LAU|MAU|N(AU|CHAU|KAU|LAU|T(HAU|SAU))|PLHAU|",
  "QHAU|RAU|VAU|XAU|YAU))|DIGIT (EIGHT|F(IVE|OUR)|NINE|ONE|S(EVEN|IX)|T(HREE|WO)|ZERO)|MARK CIM (",
  "HOM|K(ES|HAV)|S(O|UAM)|T(AUM|UB))|NUMBER (HUNDRED( MILLIONS|S)|MILLIONS|T(EN( (BILLIONS|",
  "THOUSANDS)|S)|RILLIONS))|SIGN (AV|CIM (C(HEEM|UAM TSHOOJ)|HAIS LUS NTOG NTOG|NRES TOS|",
  "PUB DAWB|T(SOV ROG|XWV(| CHWV)))|H(LI|NUB)|IB YAM|LOS|M(EEJ (SUAB|TSEEB)|US)|N(QIG|TUJ)|T(AU|",
  "HIRD-STAGE HLI|XHEEJ CEEV)|VOS (FEEM|LUB|NRUA|SEEV|T(H(IAB|OM)|SHAB CEEB))|X(AUS|IAB|Y(EEM (",
  "FAIB|NTXIV|RHO|TOV)|OO))|ZWJ THAJ)|VOWEL K(A(A(B|V)|B|I(B|V)|U(B|V)|V|W(B|V))|E(B|E(B|V)|V)|I(",
  "A(B|V)|B|V)|O(B|O(B|V)|V)|U(A(B|V)|B|V)|W(B|V)))|L(LAS|M( (BRANCH|DOWN HAND|TREE|UP HAND)|",
  "S UP TOGETHER|YRENE (LE(FT-POINTING FLEURON|TTER (A(LEPH|YIN)|BETH|DALETH|FINAL NUN|GIMEL|HE(|",
  "TH)|KAPH|LAMEDH|MEM|NUN|PE|QOPH|RESH|S(A(DHE|MEKH)|HIN)|T(AW|ETH)|WAW|YODH|ZAYIN))|NUMBER (F(",
  "IVE|OUR)|ONE|T(EN|HREE|W(ENTY|O)))|RIGHT-POINTING FLEURON)))|N(CAKES|DA FACE)|PERCLIP|R(A(",
  "CHUTE|GRAPH( SEPARATOR|OS|US MARK)|LLEL (TO|WITH (HORIZONTAL STROKE|TILDE OPERATOR)))|",
  "ENTHESIZED (DIGIT (EIGHT|F(IVE|OUR)|NINE|ONE|S(EVEN|IX)|T(HREE|WO))|HANGUL (C(HIEUCH(| A)|",
  "IEUC(| (A|U)))|HIEUH(| A)|IEUNG(| A)|K(HIEUKH(| A)|IYEOK(| A))|MIEUM(| A)|NIEUN(| A)|P(HIEUPH(",
  "| A)|IEUP(| A))|RIEUL(| A)|SIOS(| A)|T(HIEUTH(| A)|IKEUT(| A)))|IDEOGRAPH (ALLIANCE|C(ALL|",
  "ONGRATULATION)|E(ARTH|IGHT|NTERPRISE)|F(ESTIVAL|I(NANCIAL|RE|VE)|OUR)|HAVE|LABOR|M(ETAL|OON)|",
  "N(AME|INE)|ONE|RE(ACH|PRESENT|S(OURCE|T))|S(E(LF|VEN)|IX|OCIETY|PECIAL|T(OCK|UDY)|U(N|PERVISE)",
  ")|T(EN|HREE|WO)|W(ATER|OOD))|KOREAN CHARACTER O( HU|JEON)|LATIN (CAPITAL LETTER (A|B|C|D|E|F|",
  "G|H|I|J|K|L|M|N|O|P|Q|R|S|T|U|V|W|X|Y|Z)|SMALL LETTER (A|B|C|D|E|F|G|H|I|J|K|L|M|N|O|P|Q|R|S|",
  "T|U|V|W|X|Y|Z))|NUMBER (E(IGHTEEN|LEVEN)|F(IFTEEN|OURTEEN)|NINETEEN|S(EVENTEEN|IXTEEN)|T(EN|",
  "HIRTEEN|WE(LVE|NTY))))|ROT|T( ALTERNATION MARK|IAL( (DIFFERENTIAL|LINE (BACKWARD|DOWN|FORWARD|",
  "UP))|LY-RECYCLED PAPER SYMBOL)|NERSHIP SIGN|Y POPPER))|SS(E(D SYMBOL|NGER SHIP)|IVE-PULL-(",
  "DOWN-OUTPUT SYMBOL|UP-OUTPUT SYMBOL)|PORT CONTROL)|U CIN HAU (GLOTTAL STOP(| (FINAL|VARIANT))|",
  "L(ETTER (A|BA|C(A|HA)|DA|E|F(A|INAL (K|L|M|N(|G)|P|T|W|Y))|GA|HA|I(|A)|K(A|HA)|LA|MA|N(A|GA)|",
  "O|P(A|HA)|RA|SA|T(A|HA)|U(|A)|VA|ZA)|OW-FALLING TONE(| (FINAL|LONG(| FINAL))))|MID-LEVEL TONE(",
  "| (FINAL|LONG FINAL))|RISING TONE(| (FINAL|LONG(| FINAL)))|SANDHI (GLOTTAL STOP(| FINAL)|TONE(",
  "| (FINAL|LONG(| FINAL)))))|W PRINTS)|D(F|I)|E(A(C(E SYMBOL|H|OCK)|NUTS|R)|DESTRIAN|N(",
  " OVER STAMPED ENVELOPE|CIL|GUIN|SIVE FACE|TAGRAM)|OPLE HUGGING|R( (MILLE SIGN|SIGN|",
  "TEN THOUSAND SIGN)|CENT SIGN|FORMING ARTS|MANENT PAPER SIGN|PENDICULAR(| WITH S)|S(",
  "EVERING FACE|ON( (BOWING DEEPLY|CLIMBING|DOING CARTWHEEL|FROWNING|IN (LOTUS POSITION|",
  "STEAMY ROOM)|RAISING BOTH HANDS IN CELEBRATION|WITH (B(ALL|LOND HAIR)|CROWN|FOLDED HANDS|",
  "HEADSCARF|POUTING FACE))|AL COMPUTER)|PECTIVE))|S(ETA SIGN|O SIGN)|TRI DISH)|H(A(GS-PA (",
  "DOUBLE HEAD MARK|LETTER (A(|LTERNATE YA|SPIRATED FA)|BA|C(A(|NDRABINDU)|HA)|D(A|DA|ZA)|E(|E)|",
  "FA|G(A|GA)|HA|I|JA|K(A|HA)|LA|MA|N(A|GA|NA|YA)|O|P(A|HA)|QA|RA|S(A|HA|MALL A)|T(A|HA|S(A|HA)|",
  "T(A|HA))|U|VOICE(D HA|LESS SHA)|WA|XA|YA|Z(A|HA))|MARK (DOUBLE SHAD|SHAD)|S(INGLE HEAD MARK|U(",
  "BJOINED LETTER (RA|WA|YA)|PERFIXED LETTER RA)))|ISTOS DISC SIGN (ARROW|B(EE(|HIVE)|O(OMERANG|",
  "W)|ULLS LEG)|C(A(PTIVE|RPENTRY PLANE|T)|HILD|LUB|O(LUMN|MB(|INING OBLIQUE STROKE)))|DO(LIUM|",
  "VE)|EAGLE|FLUTE|G(AUNTLET|RATER)|H(ELMET|IDE|ORN)|LI(D|LY)|MA(NACLES|TTOCK)|OX BACK|P(APYRUS|",
  "EDESTRIAN|L(ANE TREE|UMED HEAD))|R(AM|OSETTE)|S(AW|HI(ELD|P)|LING|MALL AXE|TRAINER)|T(",
  "ATTOOED HEAD|IARA|UNNY)|VINE|W(AVY BAND|OMAN)))|ILIPPINE (DOUBLE PUNCTUATION|",
  "SINGLE PUNCTUATION)|O(ENICIAN (LETTER (A(IN|LF)|BET|DELT|GAML|HE(|T)|KAF|LAMD|MEM|NUN|PE|QOF|",
  "ROSH|S(ADE|EMK|HIN)|T(AU|ET)|WAU|YOD|ZAI)|NUMBER (ONE(| HUNDRED)|T(EN|HREE|W(ENTY|O)))|",
  "WORD SEPARATOR)|LUS))|I(CK(|UP TRUCK)|E|G(| (FACE|NOSE))|L(CROW SIGN|E OF POO|L)|N(ATA|CH(",
  "ED FINGERS|ING HAND)|E( DECORATION|APPLE)|WHEEL STAR)|S(CES|TOL)|TCHFORK(| WITH TEE TOP))|L(A(",
  "C(ARD|E OF (INTEREST SIGN|WORSHIP))|NCK CONSTANT(| OVER TWO PI)|Y(GROUND SLIDE|ING CARD (",
  "ACE OF (CLUBS|DIAMONDS|HEARTS|SPADES)|B(ACK|LACK JOKER)|EIGHT OF (CLUBS|DIAMONDS|HEARTS|",
  "SPADES)|F(IVE OF (CLUBS|DIAMONDS|HEARTS|SPADES)|O(OL|UR OF (CLUBS|DIAMONDS|HEARTS|SPADES)))|",
  "JACK OF (CLUBS|DIAMONDS|HEARTS|SPADES)|K(ING OF (CLUBS|DIAMONDS|HEARTS|SPADES)|NIGHT OF (",
  "CLUBS|DIAMONDS|HEARTS|SPADES))|NINE OF (CLUBS|DIAMONDS|HEARTS|SPADES)|QUEEN OF (CLUBS|",
  "DIAMONDS|HEARTS|SPADES)|RED JOKER|S(EVEN OF (CLUBS|DIAMONDS|HEARTS|SPADES)|IX OF (CLUBS|",
  "DIAMONDS|HEARTS|SPADES))|T(EN OF (CLUBS|DIAMONDS|HEARTS|SPADES)|HREE OF (CLUBS|DIAMONDS|",
  "HEARTS|SPADES)|RUMP-(1(|0|1|2|3|4|5|6|7|8|9)|2(|0|1)|3|4|5|6|7|8|9)|WO OF (CLUBS|DIAMONDS|",
  "HEARTS|SPADES))|WHITE JOKER)))|D|U(|NGER|S( SIGN(| (ABOVE EQUALS SIGN|IN (LEFT HALF CIRCLE|",
  "RIGHT HALF CIRCLE|TRIANGLE)|WITH (BLACK TRIANGLE|CIRCUMFLEX ACCENT ABOVE|DOT BELOW|S(",
  "MALL CIRCLE ABOVE|UBSCRIPT TWO)|TILDE (ABOVE|BELOW))))|-MINUS SIGN)|TO(| FORM (F(IVE|OUR)|T(",
  "HREE|WO)))))|M|O(CKET CALCULATOR|LICE (CAR(|S REVOLVING LIGHT)|OFFICER)|ODLE|P( DIRECTIONAL (",
  "FORMATTING|ISOLATE)|CORN)|RTABLE STEREO|S(EIDON|ITION INDICATOR|T(AL (HORN|MARK(| FACE))|BOX))",
  "|T( OF FOOD|A(BLE WATER SYMBOL|TO)|TED PLANT)|U(CH|LTRY LEG|ND SIGN|RING LIQUID|TING (",
  "CAT FACE|FACE))|WER (ON( SYMBOL|-OFF SYMBOL)|S(LEEP SYMBOL|YMBOL)))|R(AYER BEADS|E(CEDES(| (",
  "ABOVE (ALMOST EQUAL TO|EQUALS SIGN|NOT (ALMOST EQUAL TO|EQUAL TO)|SINGLE-LINE (EQUALS SIGN|",
  "NOT EQUAL TO))|BUT NOT EQUIVALENT TO|OR EQU(AL TO|IVALENT TO)|UNDER RELATION))|GNANT (MAN|",
  "PERSON|WOMAN)|S(CRIPTION TAKE|ENTATION FORM FOR VERTICAL (CO(LON|MMA)|E(M DASH|N DASH|",
  "XCLAMATION MARK)|HORIZONTAL ELLIPSIS|IDEOGRAPHIC (COMMA|FULL STOP)|L(EFT (ANGLE BRACKET|",
  "BLACK LENTICULAR BRACKET|C(ORNER BRACKET|URLY BRACKET)|DOUBLE ANGLE BRACKET|PARENTHESIS|",
  "SQUARE BRACKET|TORTOISE SHELL BRACKET|WHITE (CORNER BRACKET|LENTICULAR BRACKET))|OW LINE)|",
  "QUESTION MARK|RIGHT (ANGLE BRACKET|BLACK LENTICULAR BRACKET|C(ORNER BRACKET|URLY BRACKET)|",
  "DOUBLE ANGLE BRACKET|PARENTHESIS|SQUARE BRACKET|TORTOISE SHELL BRACKET|WHITE (CORNER BRACKET|",
  "LENTICULAR BRA(CKET|KCET)))|SEMICOLON|TWO DOT LEADER|WAVY LOW LINE))|TZEL|VIOUS PAGE)|I(ME|N(",
  "CE(|SS)|T( SCREEN SYMBOL|ER(| ICON)))|VA(CY MESSAGE|TE USE( (ONE|TWO)|-(1|2))))|O(BING CANE|",
  "HIBITED SIGN|JECTIVE|P(ERTY LINE|ORTION(|AL TO))|SERPINA))|SALTER PAHLAVI (FOUR DOTS WITH (",
  "CROSS|DOT)|LETTER (ALEPH|BETH|DALETH|GIMEL|HE(|TH)|KAPH|LAMEDH|MEM-QOPH|NUN|PE|S(A(DHE|MEKH)|",
  "HIN)|TAW|WAW-AYIN-RESH|YODH|ZAYIN)|NUMBER (FOUR|ONE(| HUNDRED)|T(EN|HREE|W(ENTY|O)))|",
  "SECTION MARK|TURNED SECTION MARK)|U(1|2|BLIC ADDRESS LOUDSPEAKER|NCTU(ATION SPACE|",
  "S ELEVATUS MARK)|R(PLE HEART|SE)|SHPIN|T LITTER IN ITS PLACE SYMBOL))"]

/-- Names that begin with Q: what stands before brackets goes before each of the endings in them. -/
def namesInQ : List String := [
  "QU(A(DR(ANT (LOWER (LEFT|RIGHT)|UPPER (LEFT(| AND (LOWER (LEFT AND LOWER RIGHT|RIGHT)|",
  "UPPER RIGHT AND LOWER (LEFT|RIGHT)))|RIGHT(| AND LOWER LEFT(| AND LOWER RIGHT))))|UPLE (",
  "INTEGRAL OPERATOR|PRIME))|RTER NOTE|TERNION INTEGRAL OPERATOR)|ESTION( (EXCLAMATION MARK|MARK)",
  "|ED EQUAL TO)|INCUNX|OTATION MARK)"]

/-- Names that begin with R: what stands before brackets goes before each of the endings in them. -/
def namesInR : List String := [
  "R(A(BBIT(| FACE)|C(COON|ING (CAR|MOTORCYCLE))|DI(CAL SYMBOL BOTTOM|O(| BUTTON|ACTIVE SIGN))|I(",
  "LWAY (CAR|TRACK)|N(|BOW)|SED (BACK OF HAND|COMMA|DOT(|TED INTERPOLATION MARKER)|FIST|HAND(|",
  " WITH (FINGERS SPLAYED|PART BETWEEN MIDDLE AND RING FINGERS))|INTERPOLATION MARKER|M(C SIGN|",
  "D SIGN|R SIGN)|SQUARE))|M|T(|IO)|ZOR)|E(C(EIPT|ORD SEPARATOR|REATIONAL VEHICLE|YCL(",
  "ED PAPER SYMBOL|ING SYMBOL FOR (GENERIC MATERIALS|TYPE-(1 PLASTICS|2 PLASTICS|3 PLASTICS|",
  "4 PLASTICS|5 PLASTICS|6 PLASTICS|7 PLASTICS))))|D (APPLE|GIFT ENVELOPE)|FERENCE MARK|GI(",
  "ONAL INDICATOR SYMBOL LETTER (A|B|C|D|E|F|G|H|I|J|K|L|M|N|O|P|Q|R|S|T|U|V|W|X|Y|Z)|",
  "STERED SIGN)|JANG (CONSONANT SIGN (H|N(|G)|R)|LETTER (A|BA|CA|DA|GA|HA|JA|KA|LA|M(A|BA)|N(A|",
  "DA|G(A|GA)|Y(A|JA))|PA|RA|SA|TA|WA|YA)|SECTION MARK|V(IRAMA|OWEL SIGN (A(I|U)|E(|A|U)|I|O|U)))",
  "|LIEVED FACE|MINDER RIBBON|PLACEMENT CHARACTER|S(PONSE|TR(ICTED LEFT ENTRY-(1|2)|OOM))|TURN (",
  "LEFT|RIGHT|SYMBOL)|V(ERSE( (CHECKER BOARD|INDEX|LI(GHT FOUR POINTED PINWHEEL STAR|NE FEED)|",
  "SOLIDUS(| (OPERATOR|PRECEDING SUBSET|WITH HORIZONTAL STROKE))|TILDE OPERATOR ABOVE (",
  "LEFTWARDS ARROW|RIGHTWARDS ARROW))|D (ANGLE(| WITH UNDERBAR)|COMMA|DOUBLE (PRIME(|",
  " QUOTATION MARK)|STROKE NOT SIGN)|EMPTY SET|FORKED PARAGRAPHOS|HAND WITH MIDDLE FINGER EXTENDE",
  "D|NOT SIGN|P(ILCROW SIGN|RIME)|QUESTION MARK|R(AISED HAND WITH FINGERS SPLAYED|IGHT ANGLE|",
  "OTATED FLORAL HEART BULLET)|S(ANS-SERIF CAPITAL L|EMICOLON)|T(HUMBS (DOWN SIGN|UP SIGN)|ILDE(|",
  " EQUALS)|RIPLE PRIME)|VICTORY HAND))|OLVING HEARTS))|HINOCEROS|I(|AL SIGN|BBON(| ARROW (DOWN (",
  "LEFT|RIGHT)|LEFT (DOWN|UP)|RIGHT (DOWN|UP)|UP (LEFT|RIGHT)))|CE (BALL|CRACKER)|FLE|GHT( (A(N(",
  "D (LOWER ONE EIGHTH BLOCK|UPPER ONE EIGHTH BLOCK)|G(ER BUBBLE|LE(| (BRACKET(| WITH DOT)|",
  "DOTTED SUBSTITUTION MARKER|SUBSTITUTION MARKER|VARIANT WITH SQUARE|WITH (ARC|",
  "DOWNWARDS ZIGZAG ARROW)))))|R(C GREATER-THAN BRACKET|ROW WITH (CIRCLED PLUS|SMALL CIRCLE)))|",
  "BLACK (LENTICULAR BRACKET|TORTOISE SHELL BRACKET)|C(EILING|ORNER BRACKET|URLY BRACKET(| (",
  "LOWER HOOK|MIDDLE PIECE|UPPER HOOK)))|DO(TTED SUBSTITUTION BRACKET|UBLE (A(NGLE BRACKET|",
  "RROW WITH ROUNDED HEAD)|PARENTHESIS|QUOTATION MARK|WIGGLY FENCE))|F(I(SH TAIL|",
  "VE EIGHTHS BLOCK)|LOOR)|HA(LF (BL(ACK (CIRCLE|STAR)|OCK)|FOLDER|MEDIUM SHADE|RUNNING MAN)|",
  "ND TELEPHONE RECEIVER)|LOW PARAPHRASE BRACKET|NORMAL FACTOR SEMIDIRECT PRODUCT|O(NE (",
  "EIGHTH BLOCK|QUARTER BLOCK)|PEN SQUARED DOT|UTER JOIN)|PARENTHESIS(| (EXTENSION|LOWER HOOK|",
  "UPPER HOOK))|RAISED OMISSION BRACKET|S(-SHAPED BAG DELIMITER|E(MIDIRECT PRODUCT|",
  "VEN EIGHTHS BLOCK)|I(DEWAYS U BRACKET|NGLE QUOTATION MARK)|PE(AKER(| WITH (ONE SOUND WAVE|",
  "THREE SOUND WAVES))|ECH BUBBLE)|QUARE BRACKET(| (EXTENSION|LOWER CORNER|UPPER CORNER|WITH (",
  "DOUBLE STROKE|QUILL|STROKE|TICK IN (BOTTOM CORNER|TOP CORNER)|UNDERBAR)))|UBSTITUTION BRACKET)",
  "|T(ACK|H(IRD WHITE RIGHT POINTING INDEX|OUGHT BUBBLE|REE (EIGHTHS BLOCK|QUARTERS BLOCK))|",
  "ORTOISE SHELL BRACKET|R(ANSPOSITION BRACKET|IANG(LE(| ABOVE LEFT TRIANGLE)|",
  "ULAR ONE QUARTER BLOCK)))|VERTICAL B(AR WITH QUILL|OX LINE)|W(HITE (C(ORNER BRACKET|",
  "URLY BRACKET)|LENTICULAR BRACKET|PARENTHESIS|SQUARE BRACKET|TORTOISE SHELL BRACKET)|",
  "IGGLY FENCE))|-(FACING (ARMENIAN ETERNITY SIGN|FIST|SVASTI SIGN(| WITH DOTS))|",
  "HANDED INTERLACED PENTAGRAM|POINTING (ANGLE BRACKET|CURVED ANGLE BRACKET|",
  "DOUBLE ANGLE QUOTATION MARK|MAGNIFYING GLASS)|S(HADED WHITE RIGHTWARDS ARROW|",
  "IDE ARC CLOCKWISE ARROW)|TO-LEFT (EMBEDDING|ISOLATE|MARK|OVERRIDE))|HAND INTERIOR PRODUCT|",
  "WARDS (ARROW(| (A(BOVE (ALMOST EQUAL TO|REVERSE (ALMOST EQUAL TO|TILDE OPERATOR)|",
  "SHORT LEFTWARDS ARROW|TILDE OPERATOR)|ND UPPER AND LOWER ONE EIGHTH BLOCK)|FROM BAR(|",
  " TO BLACK DIAMOND)|OVER LEFTWARDS ARROW|T(HROUGH (GREATER-THAN|SUPERSET|X)|O B(AR|",
  "LACK DIAMOND))|WITH (CORNER DOWNWARDS|DO(TTED STEM|UBLE VERTICAL STROKE)|",
  "EQUILATERAL ARROWHEAD|HOOK|L(ARGE TRIANGLE ARROWHEAD|OOP)|MEDIUM TRIANGLE ARROWHEAD|",
  "NOTCHED TAIL|PLUS BELOW|S(MALL (EQUILATERAL ARROWHEAD|TRIANGLE ARROWHEAD)|TROKE)|T(AIL(|",
  " WITH (DOUBLE VERTICAL STROKE|VERTICAL STROKE))|IP (DOWNWARDS|UPWARDS))|VERTICAL STROKE))|",
  "-TAIL)|B(ACK-TILTED SHADOWED WHITE ARROW|LACK (ARROW|CIRCLED WHITE ARROW)|",
  "OTTOM SHADED WHITE ARROW)|COMPRESSED ARROW|D(ASHED ARROW|OUBLE (ARROW(| (FROM BAR|WITH (",
  "STROKE|VERTICAL STROKE))|-TAIL)|DASH ARROW))|F(INGER-POST ARROW|RONT-TILTED SHADOWED WHITE ARR",
  "OW)|H(A(ND|RPOON (OVER LEFTWARDS HARPOON|WITH BARB (DOWN( (ABOVE LEFTWARDS HARPOON WITH BARB D",
  "OWN|BELOW LONG DASH|FROM BAR|TO BAR)|WARDS)|UP( (ABOVE (L(EFTWARDS HARPOON WITH BARB UP|",
  "ONG DASH)|RIGHTWARDS HARPOON WITH BARB DOWN)|FROM BAR|TO BAR)|WARDS))))|EAVY (ARROW|",
  "COMPRESSED ARROW))|LEFT-SHADED WHITE ARROW|OPEN-HEADED ARROW|PAIRED ARROWS|QUADRUPLE ARROW|R(",
  "IGHT-SHADED WHITE ARROW|OCKET)|S(ANS-SERIF ARROW|QU(ARED ARROW|IGGLE ARROW))|T(",
  "OP SHADED WHITE ARROW|RI(ANGLE( ARROWHEAD|-HEADED (ARROW(| (OVER LEFTWARDS TRIANGLE-HEADED ARR",
  "OW|TO BAR|WITH (BOLD SHAFT|DOUBLE (HORIZONTAL STROKE|VERTICAL STROKE)|HEAVY SHAFT|LONG TIP (",
  "DOWNWARDS|UPWARDS)|MEDIUM SHAFT|NARROW SHAFT|VERY HEAVY SHAFT)))|DASHED ARROW|PAIRED ARROWS))|",
  "PLE (ARROW|DASH ARROW))|WO( HEADED ARROW|-HEADED (ARROW (FROM BAR|WITH (",
  "DOUBLE VERTICAL STROKE|T(AIL(| WITH (DOUBLE VERTICAL STROKE|VERTICAL STROKE))|",
  "RIANGLE ARROWHEADS)|VERTICAL STROKE))|TRIPLE DASH ARROW)))|W(AVE ARROW|HITE ARROW(| (",
  "FROM WALL|WITHIN TRIANGLE ARROWHEAD)))))|NG(| (ABOVE|BUOY|EQUAL TO|IN EQUAL TO|OPERATOR|POINT)",
  "|ED PLANET|ING BELL)|SING DIAGONAL CROSSING (FALLING DIAGONAL|SOUTH EAST ARROW))|L(E|I|M|O)|O(",
  "ASTED SWEET POTATO|BOT FACE|CK(|ET)|LL( OF PAPER|E(D-UP NEWSPAPER|R (COASTER|SKATE))|",
  "ING ON THE FLOOR LAUGHING)|MAN (AS SIGN|CENTURIAL SIGN|D(ENARIUS SIGN|IMIDIA SEXTULA SIGN|",
  "UPONDIUS SIGN)|NUMERAL (E(IGHT|LEVEN)|F(I(FTY(| (EARLY FORM|THOUSAND))|VE(| (HUNDRED|THOUSAND)",
  "))|OUR)|NINE|ONE(| (HUNDRED(| THOUSAND)|THOUSAND(| C D)))|REVERSED ONE HUNDRED|S(EVEN|IX(|",
  " LATE FORM))|T(EN(| THOUSAND)|HREE|W(ELVE|O)))|QUINARIUS SIGN|S(E(MUNCIA SIGN|STERTIUS SIGN|",
  "XT(ANS SIGN|ULA SIGN))|ILIQUA SIGN)|UNCIA SIGN)|OSTER|SE(|TTE)|TATED (CAPITAL Q|",
  "FLORAL HEART BULLET|HEAVY BLACK HEART BULLET|LIGHT FOUR POINTED BLACK CUSP|",
  "WHITE FOUR POINTED CUSP)|UND( (PUSHPIN|TARGET)|ED SYMBOL FOR (CAI|FU|LU|SH(OU|UANGXI)|XI))|",
  "WBOAT)|S|U(BLE SIGN|GBY FOOTBALL|LE-DELAYED|MI (DIGIT (EIGHT|F(IVE|OUR)|NINE|ONE|S(EVEN|IX)|T(",
  "HREE|WO))|FRACTION (ONE (HALF|QUARTER|THIRD)|TWO THIRDS)|NUMBER (EIGHT( HUNDRED|Y)|F(I(FTY|",
  "VE HUNDRED)|O(RTY|UR HUNDRED))|NINE( HUNDRED|TY)|ONE HUNDRED|S(EVEN( HUNDRED|TY)|IX( HUNDRED|",
  "TY))|T(EN|H(IRTY|REE HUNDRED)|W(ENTY|O HUNDRED))))|N(IC (ARLAUG SYMBOL|BELGTHOR SYMBOL|",
  "CROSS PUNCTUATION|LETTER (A(C A|ESC|LGIZ EOLHX|NSUZ A)|BERKANAN BEORC BJARKAN B|C(|ALC|E(ALC|",
  "N)|WEORTH)|D(|AGAZ DAEG D|OTTED-(L|N|P))|E(|AR|HWAZ EH E|NG|TH)|F(EHU FEOH FE F|RANKS CASKET (",
  "A(C|ESC)|EH|IS|OS))|G(|AR|E(BO GYFU G|R))|HA(EGL H|GLAZ H)|I(CELANDIC-YR|NG(|WAZ)|OR|",
  "SAZ IS ISS I|WAZ EOH)|JERAN J|K(|AUN( K|A))|L(AUKAZ LAGU LOGR L|ONG-BRANCH-(AR AE|HAGALL H|",
  "MADR M|OSS O|YR))|MANNAZ MAN M|NAUDIZ NYD NAUD N|O(|E|N|O|PEN-P|S O|THALAN ETHEL O)|",
  "PERTHO PEORTH P|Q|RAIDO RAD REID R|S(H(|ORT-TWIG-(AR A|BJARKAN B|HAGALL H|MADR M|NAUD N|OSS O|",
  "SOL S|TYR T|YR))|IGEL LONG-BRANCH-SOL S|OWILO S|TAN)|T(HURISAZ THURS THORN|IWAZ TIR TYR T)|",
  "URUZ UR U|V|W(|UNJO WYNN W)|X|Y(|R)|Z)|MULTIPLE PUNCTUATION|SINGLE PUNCTUATION|",
  "TVIMADUR SYMBOL)|N(ER|ING SHIRT WITH SASH))|PEE SIGN|SSIAN ASTROLOGICAL SYMBOL (BINOVILE|",
  "NOVILE|QUINTILE|SENTAGON|TREDECILE|VIGINTILE)))"]

end LayerGraph.Text
