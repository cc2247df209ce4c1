/-! Names of characters that begin with D to F. -/

set_option autoImplicit false

namespace LayerGraph.Text

/-- Names that begin with D: what stands before brackets goes before each of the endings in them. -/
def namesInD : List String := [
  "D(A(GGER(| (KNIFE|WITH (LEFT GUARD|RIGHT GUARD)))|LET SYMBOL|N(CER|GO)|RK S(HADE|UNGLASSES)|",
  "SH( (SYMBOL|WITH LEFT UPTURN)|ED (LOW LINE|OVERLINE|TRIANGLE-HEADED RIGHTWARDS ARROW))|",
  "TA LINK ESCAPE)|C(1|2|3|4|S)|E(AF PERSON|C(I(DUOUS TREE|MAL (EXPONENT SYMBOL|",
  "SEPARATOR KEY SYMBOL))|REASE FONT SIZE SYMBOL)|ER|GREE (CELSIUS|FAHRENHEIT|SIGN)|L(|ETE|",
  "IVERY TRUCK|TA EQUAL TO)|NTISTRY SYMBOL LIGHT (DOWN AND HORIZONTAL(| WITH (CIRCLE|TRIANGLE|",
  "WAVE))|UP AND HORIZONTAL(| WITH (CIRCLE|TRIANGLE|WAVE))|VERTICAL (AND (BOTTOM (LEFT|RIGHT)|",
  "TOP (LEFT|RIGHT)|WAVE)|WITH (CIRCLE|TRIANGLE)))|PARTMENT STORE|RELICT HOUSE BUILDING|S(",
  "CENDING NODE|ER(ET (CAPITAL LETTER (AY|BEE|CHEE|DEE|E(F|L|M|N(|G)|R|S(|H)|TH|W)|GAY|H|JEE|KAY|",
  "LONG (A(|H)|E|I|O(|O))|O(I|W)|PEE|SHORT (A(|H)|E|I|O(|O))|T(EE|HEE)|VEE|WU|YEE|Z(EE|HEE))|",
  "SMALL LETTER (AY|BEE|CHEE|DEE|E(F|L|M|N(|G)|R|S(|H)|TH|W)|GAY|H|JEE|KAY|LONG (A(|H)|E|I|O(|O))",
  "|O(I|W)|PEE|SHORT (A(|H)|E|I|O(|O))|T(EE|HEE)|VEE|WU|YEE|Z(EE|HEE)))|T(| ISLAND))|KTOP (",
  "COMPUTER|WINDOW))|V(ANAGARI (A(BBREVIATION SIGN|CUTE ACCENT)|CARET|D(ANDA|IGIT (EIGHT|F(IVE|",
  "OUR)|NINE|ONE|S(EVEN|IX)|T(HREE|WO)|ZERO)|OUBLE DANDA)|G(AP FILLER|RAVE ACCENT)|HEADSTROKE|",
  "JAIN OM|LETTER (A(|A|I|U|W|Y)|B(A|BA|HA)|C(A(|NDRA (A|E|O))|HA)|D(A|D(A|D(A|HA)|HA)|HA)|E|FA|",
  "G(A|GA|H(A|HA)|LOTTAL STOP)|H(A|EAVY YA)|I(|I)|J(A|HA|JA)|K(A|H(A|HA))|L(A|L(A|LA))|MA(|",
  "RWARI DDA)|N(A|GA|N(A|NA)|YA)|O(|E|OE)|P(A|HA)|QA|R(A|HA|RA)|S(A|H(A|ORT (A|E|O))|SA)|T(A|HA|",
  "T(A|HA))|U(|E|U(|E))|V(A|OCALIC (L(|L)|R(|R)))|Y(A|YA)|Z(A|HA))|OM|S(IGN (A(NUSVARA|VAGRAHA)|",
  "CANDRABINDU(| (AVAGRAHA|T(HREE|WO)|VIRAMA))|DOUBLE CANDRABINDU VIRAMA|HIGH SPACING DOT|",
  "INVERTED CANDRABINDU|NUKTA|PUSHPIKA|S(IDDHAM|PACING CANDRABINDU)|VI(RAMA|SARGA))|TRESS SIGN (",
  "ANUDATTA|UDATTA))|VOWEL SIGN (A(A|I|U|W|Y)|CANDRA (E|LONG E|O)|E|I(|I)|O(|E|OE)|",
  "PRISHTHAMATRA E|SHORT (E|O)|U(|E|U(|E))|VOCALIC (L(|L)|R(|R))))|ICE CONTROL (FOUR|ONE|STRING|",
  "T(HREE|WO))))|I(A(ERESIS|M(ETER SIGN|OND (OPERATOR|SHAPE WITH A DOT INSIDE|TARGET|WITH (",
  "BOTTOM HALF BLACK|LEFT HALF BLACK|RIGHT HALF BLACK|TOP HALF BLACK))))|E( FACE-(1|2|3|4|5|6)|",
  "SEL LOCOMOTIVE)|FFERENCE BETWEEN|G(IT (EIGHT(| (COMMA|FULL STOP))|F(IVE(| (COMMA|FULL STOP))|",
  "OUR(| (COMMA|FULL STOP)))|NINE(| (COMMA|FULL STOP))|ONE(| (COMMA|FULL STOP))|S(EVEN(| (COMMA|",
  "FULL STOP))|IX(| (COMMA|FULL STOP)))|T(HREE(| (COMMA|FULL STOP))|WO(| (COMMA|FULL STOP)))|",
  "ZERO(| (COMMA|FULL STOP)))|RAM FOR (EARTH(|LY H(EAVEN|UMAN))|GREATER Y(ANG|IN)|H(",
  "EAVENLY EARTH|UMAN EARTH)|LESSER Y(ANG|IN)))|MENSION ORIGIN|NGBAT (CIRCLED SANS-SERIF (DIGIT (",
  "EIGHT|F(IVE|OUR)|NINE|ONE|S(EVEN|IX)|T(HREE|WO)|ZERO)|NUMBER TEN)|NEGATIVE CIRCLED (DIGIT (",
  "EIGHT|F(IVE|OUR)|NINE|ONE|S(EVEN|IX)|T(HREE|WO))|NUMBER TEN|SANS-SERIF (DIGIT (EIGHT|F(IVE|",
  "OUR)|NINE|ONE|S(EVEN|IX)|T(HREE|WO)|ZERO)|NUMBER TEN)))|RECT (CURRENT SYMBOL FORM TWO|HIT)|S(",
  "A(BLED CAR|PPOINTED (BUT RELIEVED FACE|FACE))|CONTINUOUS UNDERLINE SYMBOL|GUISED FACE)|",
  "TTO MARK|V(ES AKURU (D(IGIT (EIGHT|F(IVE|OUR)|NINE|ONE|S(EVEN|IX)|T(HREE|WO)|ZERO)|",
  "OUBLE DANDA)|END OF TEXT MARK|GAP FILLER|INITIAL RA|LETTER (A(|A)|B(A|HA)|C(A|HA)|D(A|D(A|HA)|",
  "HA)|E|G(A|HA)|HA|I(|I)|JA|K(A|HA)|L(A|LA)|MA|N(A|GA|NA|YA)|O|P(A|HA)|RA|S(A|HA|SA)|T(A|HA|TA)|",
  "U(|U)|VA|Y(A|YA)|ZA)|MEDIAL (RA|YA)|PREFIXED NASAL SIGN|SIGN (ANUSVARA|CANDRABINDU|HALANTA|",
  "NUKTA)|V(IRAMA|OWEL SIGN (A(A|I)|E|I(|I)|O|U(|U))))|I(DES|NG MASK|SION (S(IGN|LASH)|TIMES))|",
  "ORCE SYMBOL)|YA LAMP|ZZY (FACE|SYMBOL))|LE|NA DOUBLE HELIX|O( NOT LITTER SYMBOL|CUMENT(|",
  " WITH (PICTURE|TEXT(| AND PICTURE)))|DO|ES NOT (CONTAIN AS (MEMBER|NORMAL SUBGROUP(| OR EQUAL)",
  ")|DIVIDE(| WITH REVERSED NEGATION SLASH)|FORCE|PR(ECEDE(| OR EQUAL)|OVE)|SUCCEED(| OR EQUAL))|",
  "G(| FACE|RA (ABBREVIATION SIGN|LETTER (A(|A|I|U)|B(A|HA)|C(A|HA)|D(A|D(A|HA)|HA)|E|G(A|HA)|HA|",
  "I(|I)|J(A|HA)|K(A|HA)|LA|MA|N(A|GA|NA|YA)|O|P(A|HA)|R(A|RA)|S(A|HA|SA)|T(A|HA|T(A|HA))|U(|U)|",
  "VA|YA)|SIGN (ANUSVARA|NUKTA|VI(RAMA|SARGA))|VOWEL SIGN (A(A|I|U)|E|I(|I)|O|U(|U)|VOCALIC R(|R)",
  ")))|L(LAR SIGN|PHIN)|MINO TILE (HORIZONTAL( BACK|-0(0-0(0|1|2|3|4|5|6)|1-0(0|1|2|3|4|5|6)|2-0(",
  "0|1|2|3|4|5|6)|3-0(0|1|2|3|4|5|6)|4-0(0|1|2|3|4|5|6)|5-0(0|1|2|3|4|5|6)|6-0(0|1|2|3|4|5|6)))|",
  "VERTICAL( BACK|-0(0-0(0|1|2|3|4|5|6)|1-0(0|1|2|3|4|5|6)|2-0(0|1|2|3|4|5|6)|3-0(0|1|2|3|4|5|6)|",
  "4-0(0|1|2|3|4|5|6)|5-0(0|1|2|3|4|5|6)|6-0(0|1|2|3|4|5|6))))|NG SIGN|OR|T( (ABOVE|MINUS|",
  "OPERATOR|PLUS)|TED (C(IRCLE|ROSS)|FENCE|LINE FACE|OBELOS|RIGHT-POINTING ANGLE|S(OLIDUS|QUARE)|",
  "TRANSPOSITION MARKER))|U(BLE( (ACUTE ACCENT|C(IRCLED (DIGIT (EIGHT|F(IVE|OUR)|NINE|ONE|S(EVEN|",
  "IX)|T(HREE|WO))|NUMBER TEN)|OLON EQUAL|URLY LOOP)|D(AGGER|OWN TACK)|EXCLAMATION MARK|H(",
  "IGH-REVERSED-9 QUOTATION MARK|YPHEN)|INTE(GRAL|RSECTION)|L(EFT ARC GREATER-THAN BRACKET|O(",
  "GICAL (AND|OR)|W( LINE|-(9 QUOTATION MARK|REVERSED-9 QUOTATION MARK))))|NESTED (GREATER-THAN|",
  "LESS-THAN(| WITH UNDERBAR))|OBLIQUE HYPHEN|P(LUS|R(ECEDES|IME(| QUOTATION MARK)))|",
  "QUESTION MARK|RIGHT ARC LESS-THAN BRACKET|S(OLIDUS OPERATOR|QUARE (INTERSECTION|UNION)|T(",
  "ACKED COMMA|ROKE NOT SIGN)|U(BSET|CCEEDS|PERSET|SPENSION MARK))|U(NION|P TACK)|VERTICAL (BAR(|",
  " (DOUBLE (LEFT TURNSTILE|RIGHT TURNSTILE)|LEFT TURNSTILE))|LINE)|WAVY OVERLINE)|-(",
  "ENDED MULTIMAP|LINE (EQUAL TO OR (GREATER-THAN|LESS-THAN)|SLANTED (EQUAL TO OR (GREATER-THAN|",
  "LESS-THAN)|GREATER-THAN OR EQUAL TO|LESS-THAN OR EQUAL TO))|STRUCK (CAPITAL (C|GAMMA|H|N|P(|I)",
  "|Q|R|Z)|ITALIC (CAPITAL D|SMALL (D|E|I|J))|N-ARY SUMMATION|SMALL (GAMMA|PI)))|D (FEMALE SIGN|",
  "MALE SIGN|SYMBOL))|GHNUT)|VE OF PEACE|WN( (ARROWHEAD|FISH TAIL|RIGHT DIAGONAL ELLIPSIS|TACK(|",
  " WITH CIRCLE BELOW))|-POINTING (RED TRIANGLE|SMALL RED TRIANGLE|TRIANGLE WITH (",
  "LEFT HALF BLACK|RIGHT HALF BLACK))|WARD( FACING (HOOK(| WITH DOT)|NOTCHED HOOK(| WITH DOT))|",
  "S (A(NCORA|RROW(| (AND RIGHT ONE EIGHTH BLOCK|FROM BAR|LEFTWARDS OF UPWARDS ARROW|TO BAR|",
  "WITH (CORNER LEFTWARDS|DOUBLE STROKE|EQUILATERAL ARROWHEAD|HORIZONTAL STROKE|",
  "LARGE TRIANGLE ARROWHEAD|MEDIUM TRIANGLE ARROWHEAD|NOTCHED TAIL|SMALL (EQUILATERAL ARROWHEAD|",
  "TRIANGLE ARROWHEAD)|TIP (LEFTWARDS|RIGHTWARDS)))))|BLACK (ARROW|CIRCLED WHITE ARROW)|",
  "COMPRESSED ARROW|D(ASHED ARROW|OUBLE ARROW)|FINGER-POST ARROW|H(ARPOON WITH BARB (LEFT( (",
  "BESIDE (DOWNWARDS HARPOON WITH BARB RIGHT|UPWARDS HARPOON WITH BARB RIGHT)|FROM BAR|TO BAR)|",
  "WARDS)|RIGHT( (FROM BAR|TO BAR)|WARDS))|EAVY (ARROW|COMPRESSED ARROW))|PAIRED ARROWS|",
  "QUADRUPLE ARROW|ROCKET|S(ANS-SERIF ARROW|QUARED ARROW)|T(RI(ANGLE( ARROWHEAD|-HEADED (ARROW(|",
  " (LEFTWARDS OF UPWARDS TRIANGLE-HEADED ARROW|TO BAR|WITH (BOLD SHAFT|DOUBLE HORIZONTAL STROKE|",
  "HEAVY SHAFT|LONG TIP (LEFTWARDS|RIGHTWARDS)|MEDIUM SHAFT|NARROW SHAFT|VERY HEAVY SHAFT)))|",
  "DASHED ARROW|PAIRED ARROWS|ZIGZAG ARROW))|PLE ARROW)|WO( HEADED ARROW|-HEADED ARROW WITH TRIAN",
  "GLE ARROWHEADS))|WHITE ARROW(| WITHIN TRIANGLE ARROWHEAD)|ZIGZAG ARROW))))|R(A(CHMA SIGN|",
  "FTING POINT RIGHTWARDS ARROW|GON(| FACE))|ESS|IVE SLOW SIGN|O(MEDARY CAMEL|OLING FACE|P(",
  " OF BLOOD|LET))|UM WITH DRUMSTICKS)|U(CK|MPLING|PLOYAN (AFFIX (ATTACHED (E HOOK|I HOOK|",
  "LEFT-TO-RIGHT SECANT|SECANT|TA(IL|NGENT(| HOOK)))|HIGH (ACUTE|CIRCLE|DOT|GRAVE|L(INE|",
  "ONG GRAVE)|TIGHT ACUTE|VERTICAL(| SECANT)|WAVE)|L(EFT HORIZONTAL SECANT|OW (A(CUTE|RROW)|",
  "CIRCLE|DOT|GRAVE|L(INE|ONG GRAVE)|TIGHT ACUTE|VERTICAL(| SECANT)|WAVE))|MID (",
  "HORIZONTAL SECANT|VERTICAL SECANT)|RIGHT HORIZONTAL SECANT)|DOUBLE MARK|LETTER (A(|OU)|B|D(|",
  " S|H)|E(|E|U)|F(| N)|G(| R S)|H(|L)|I(|E)|J(| (M(| S)|N(| S)|S(| WITH DOT)|WITH DOT(|",
  "S INSIDE AND ABOVE)))|K(| (M|R S)|K)|L(|H|ONG (I|U))|M(| (N(| S)|S|WITH DOT))|N(| (M(| S)|S|",
  "WITH DOT)|ASAL (A|I|O|U))|O(|A|OH|U|W)|P(| N|ERNIN A(M|N))|R(| S|H|OMANIAN (I|U))|S(| (J(| S)|",
  "K(| R)|M|N|P(| R)|S|T(| R)|WITH DOT(| BELOW))|HORT I|LOAN (AN|DH|E(E|H|N)|J|O(N|W)|U))|T(| (",
  "R S|S)|H)|U(| N|H|I)|V(|OCALIC M)|W(| R|A|EI|H|I|O(|W))|X(|W)|YE)|PUNCTUATION CHINOOK FULL STO",
  "P|SIGN O WITH CROSS|THICK LETTER SELECTOR))|VD)"]

/-- Names that begin with E: what stands before brackets goes before each of the endings in them. -/
def namesInE : List String := [
  "E(-MAIL SYMBOL|A(GLE|R(| (OF (MAIZE|RICE)|WITH HEARING AID)|TH(| G(LOBE (A(MERICAS|",
  "SIA-AUSTRALIA)|EUROPE-AFRICA)|ROUND)))|ST SYRIAC CROSS)|DITORIAL CORONIS|G(G|",
  "YPTIAN HIEROGLYPH (A(0(0(1|2|3|4|5(|A)|6(|A|B)|7|8|9)|1(0|1|2|3|4(|A)|5|6|7(|A)|8|9)|2(0|1|2|",
  "3|4|5|6|7|8|9)|3(0|1|2(|A)|3|4|5|6|7|8|9)|4(0(|A)|1|2(|A)|3(|A)|4|5(|A)|6|7|8|9)|5(0|1|2|3|4|",
  "5|6|7|8|9)|6(0|1|2|3|4|5|6|7|8|9)|70)|A0(0(1|2|3|4|5|6|7(|A|B)|8|9)|1(0|1|2|3|4|5|6|7|8|9)|2(",
  "0|1|2|3|4|5|6|7|8|9)|3(0|1|2)))|B(00(1|2|3|4|5(|A)|6|7|8|9)|EGIN SEGMENT)|C0(0(1|2(|A|B|C)|3|",
  "4|5|6|7|8|9)|1(0(|A)|1|2|3|4|5|6|7|8|9)|2(0|1|2|3|4))|D0(0(1|2|3|4|5|6|7|8(|A)|9)|1(0|1|2|3|4|",
  "5|6|7|8|9)|2(0|1|2|3|4|5|6|7(|A)|8|9)|3(0|1(|A)|2|3|4(|A)|5|6|7|8|9)|4(0|1|2|3|4|5|6(|A)|7|8(|",
  "A)|9)|5(0(|A|B|C|D|E|F|G|H|I)|1|2(|A)|3|4(|A)|5|6|7|8|9)|6(0|1|2|3|4|5|6|7(|A|B|C|D|E|F|G|H)))",
  "|E(0(0(1|2|3|4|5|6|7|8(|A)|9(|A))|1(0|1|2|3|4|5|6(|A)|7(|A)|8|9)|2(0(|A)|1|2|3|4|5|6|7|8(|A)|",
  "9)|3(0|1|2|3|4(|A)|6|7|8))|ND SEGMENT)|F0(0(1(|A)|2|3|4|5|6|7|8|9)|1(0|1|2|3(|A)|4|5|6|7|8|9)|",
  "2(0|1(|A)|2|3|4|5|6|7|8|9)|3(0|1(|A)|2|3|4|5|6|7(|A)|8(|A)|9)|4(0|1|2|3|4|5(|A)|6(|A)|7(|A)|8|",
  "9)|5(0|1(|A|B|C)|2|3))|G0(0(1|2|3|4|5|6(|A)|7(|A|B)|8|9)|1(0|1(|A)|2|3|4|5|6|7|8|9)|2(0(|A)|1|",
  "2|3|4|5|6(|A)|7|8|9)|3(0|1|2|3|4|5|6(|A)|7(|A)|8|9)|4(0|1|2|3(|A)|4|5(|A)|6|7|8|9)|5(0|1|2|3|",
  "4))|H(00(1|2|3|4|5|6(|A)|7|8)|ORIZONTAL JOINER)|I(0(0(1|2|3|4|5(|A)|6|7|8|9(|A))|1(0(|A)|1(|A)",
  "|2|3|4|5))|NSERT AT (BOTTOM (END|START)|TOP (END|START)))|K00(1|2|3|4|5|6|7|8)|L00(1|2(|A)|3|",
  "4|5|6(|A)|7|8)|M0(0(1(|A|B)|2|3(|A)|4|5|6|7|8|9)|1(0(|A)|1|2(|A|B|C|D|E|F|G|H)|3|4|5(|A)|6(|A)",
  "|7(|A)|8|9)|2(0|1|2(|A)|3|4(|A)|5|6|7|8(|A)|9)|3(0|1(|A)|2|3(|A|B)|4|5|6|7|8|9)|4(0(|A)|1|2|3|",
  "4))|N(0(0(1|2|3|4|5|6|7|8|9)|1(0|1|2|3|4|5|6|7|8(|A|B)|9)|2(0|1|2|3|4|5(|A)|6|7|8|9)|3(0|1|2|",
  "3(|A)|4(|A)|5(|A)|6|7(|A)|8|9)|4(0|1|2))|L0(0(1|2|3|4|5(|A)|6|7|8|9)|1(0|1|2|3|4|5|6|7(|A)|8|",
  "9)|20)|U0(0(1|2|3|4|5|6|7|8|9)|1(0(|A)|1(|A)|2|3|4|5|6|7|8(|A)|9)|2(0|1|2(|A))))|O(0(0(1(|A)|",
  "2|3|4|5(|A)|6(|A|B|C|D|E|F)|7|8|9)|1(0(|A|B|C)|1|2|3|4|5|6|7|8|9(|A))|2(0(|A)|1|2|3|4(|A)|5(|",
  "A)|6|7|8|9(|A))|3(0(|A)|1|2|3(|A)|4|5|6(|A|B|C|D)|7|8|9)|4(0|1|2|3|4|5|6|7|8|9)|5(0(|A|B)|1))|",
  "VERLAY MIDDLE)|P0(0(1(|A)|2|3(|A)|4|5|6|7|8|9)|1(0|1))|Q00(1|2|3|4|5|6|7)|R0(0(1|2(|A)|3(|A|B)",
  "|4|5|6|7|8|9)|1(0(|A)|1|2|3|4|5|6(|A)|7|8|9)|2(0|1|2|3|4|5|6|7|8|9))|S0(0(1|2(|A)|3|4|5|6(|A)|",
  "7|8|9)|1(0|1|2|3|4(|A|B)|5|6|7(|A)|8|9)|2(0|1|2|3|4|5|6(|A|B)|7|8|9)|3(0|1|2|3|4|5(|A)|6|7|8|",
  "9)|4(0|1|2|3|4|5|6))|T0(0(1|2|3(|A)|4|5|6|7(|A)|8(|A)|9(|A))|1(0|1(|A)|2|3|4|5|6(|A)|7|8|9)|2(",
  "0|1|2|3|4|5|6|7|8|9)|3(0|1|2(|A)|3(|A)|4|5|6))|U0(0(1|2|3|4|5|6(|A|B)|7|8|9)|1(0|1|2|3|4|5|6|",
  "7|8|9)|2(0|1|2|3(|A)|4|5|6|7|8|9(|A))|3(0|1|2(|A)|3|4|5|6|7|8|9)|4(0|1|2))|V(0(0(1(|A|B|C|D|E|",
  "F|G|H|I)|2(|A)|3|4|5|6|7(|A|B)|8|9)|1(0|1(|A|B|C)|2(|A|B)|3|4|5|6|7|8|9)|2(0(|A|B|C|D|E|F|G|H|",
  "I|J|K|L)|1|2|3(|A)|4|5|6|7|8(|A)|9(|A))|3(0(|A)|1(|A)|2|3(|A)|4|5|6|7(|A)|8|9)|40(|A))|",
  "ERTICAL JOINER)|W0(0(1|2|3(|A)|4|5|6|7|8|9(|A))|1(0(|A)|1|2|3|4(|A)|5|6|7(|A)|8(|A)|9)|2(0|1|",
  "2|3|4(|A)|5))|X00(1|2|3|4(|A|B)|5|6(|A)|7|8(|A))|Y00(1(|A)|2|3|4|5|6|7|8)|Z0(0(1|2(|A|B|C|D)|",
  "3(|A|B)|4(|A)|5(|A)|6|7|8|9)|1(0|1|2|3|4|5(|A|B|C|D|E|F|G|H|I)|6(|A|B|C|D|E|F|G|H)))))|IGHT( (",
  "P(ETALLED OUTLINED BLACK FLORETTE|OINTED (BLACK STAR|PINWHEEL STAR|RECTILINEAR BLACK STAR))|",
  "SPOKED ASTERISK|TEARDROP-SPOKED PROPELLER ASTERISK)|H NOTE)|JECT SYMBOL|L(BASAN LETTER (A|BE|",
  "C(E|HE)|D(E|HE)|E(|I)|FE|G(E|H(AMMA|E)|JE)|HE|I|JE|K(E|HE)|L(E|LE)|ME|N(A|DE|E|JE)|O|PE|QE|R(",
  "E|RE)|S(E|HE)|T(E|HE)|U|VE|XE|Y|Z(E|HE))|E(CTRIC( (ARROW|LIGHT BULB|PLUG|TORCH)|",
  "AL INTERSECTION)|MENT OF(| (OPENING (DOWNWARDS|UPWARDS)|WITH (DOT ABOVE|",
  "LONG HORIZONTAL STROKE|OVERBAR|TWO HORIZONTAL STROKES|UNDERBAR|VERTICAL BAR AT END OF HORIZONT",
  "AL STROKE)))|PHANT|VATOR)|F|YMAIC L(ETTER (A(LEPH|YIN)|BETH|DALETH|GIMEL|HE(|TH)|KAPH|LAMEDH|",
  "MEM|NUN|PE|QOPH|RESH|S(A(DHE|MEKH)|HIN)|T(AW|ETH)|WAW|YODH|ZAYIN)|IGATURE ZAYIN-YODH))|M( (",
  "DASH|QUAD|SPACE)|OJI (COMPONENT (BALD|CURLY HAIR|RED HAIR|WHITE HAIR)|MODIFIER FITZPATRICK TYP",
  "E-(1-2|3|4|5|6))|P(HASIS SYMBOL|TY (DOCUMENT|N(EST|OTE(| PA(D|GE)))|PAGE(|S)|SET(| WITH (",
  "LEFT ARROW ABOVE|OVERBAR|RIGHT ARROW ABOVE|SMALL CIRCLE ABOVE)))))|N( (DASH|QUAD|SPACE)|D (",
  "OF (GUARDED AREA|LINE|MEDIUM|PRO(OF|TECTED AREA)|SELECTED AREA|T(EXT|RANSMISSION(| BLOCK)))|",
  "WITH LEFTWARDS ARROW ABOVE)|Q(|UIRY)|TER SYMBOL|VELOPE(| WITH (DOWNWARDS ARROW ABOVE|",
  "LIGHTNING)))|O(L|M|T)|PA|QU(AL( (AND PARALLEL TO|TO (BY DEFINITION|OR (GREATER-THAN|LESS-THAN|",
  "PRECEDES|SUCCEEDS)))|S (COLON|SIGN(| (A(BOVE (LEFTWARDS ARROW|PLUS SIGN|RIGHTWARDS ARROW|",
  "TILDE OPERATOR)|ND SLANTED PARALLEL(| WITH TILDE ABOVE))|WITH (BUMPY ABOVE|DOT BELOW|",
  "INFINITY BELOW|TWO DOTS ABOVE AND TWO DOTS BELOW)))|WITH ASTERISK))|I(ANGULAR TO|VALENT (TO|",
  "WITH FOUR DOTS ABOVE)))|R(ASE TO THE (LEFT|RIGHT)|IS FORM (ONE|TWO)|ROR-BARRED (BLACK (CIRCLE|",
  "DIAMOND|SQUARE)|WHITE (CIRCLE|DIAMOND|SQUARE)))|S(A|C(|APE)|TIMATE(D SYMBOL|S))|T(B|HIOPIC (",
  "CO(LON|M(BINING (GEMINATION (AND VOWEL LENGTH MARK|MARK)|VOWEL LENGTH MARK)|MA))|DIGIT (EIGHT|",
  "F(IVE|OUR)|NINE|ONE|S(EVEN|IX)|T(HREE|WO))|FULL STOP|NUMBER (EIGHTY|F(IFTY|ORTY)|HUNDRED|",
  "NINETY|S(EVENTY|IXTY)|T(EN(| THOUSAND)|HIRTY|WENTY))|P(ARAGRAPH SEPARATOR|REFACE COLON)|",
  "QUESTION MARK|S(E(CTION MARK|MICOLON)|YLLABLE (B(A(|A)|B(A(|A)|E(|E)|I|O|U)|E(|E)|I|O(|A)|U|W(",
  "A|E(|E)|I))|C(A(|A)|C(A(|A)|E(|E)|H(A(|A)|E(|E)|H(A(|A)|E(|E)|I|O|U)|I|O|U)|I|O|U)|E(|E)|H(A(|",
  "A)|E(|E)|I|O(|A)|U|WA)|I|O(|A)|U|WA)|D(A(|A)|D(A(|A)|E(|E)|H(AA|E(|E)|I|O|U)|I|O(|A)|U|WA)|E(|",
  "E)|I|O(|A)|U|WA|Z(AA|E(|E)|I|O|U))|F(A(|A)|E(|E)|I|O|U|W(A|E(|E)|I)|YA)|G(A(|A)|E(|E)|G(A(|A)|",
  "E(|E)|I|O|U|W(A(|A)|E(|E)|I))|I|LOTTAL (A(|A)|E(|E)|I|O(|A)|U|WA)|O(|A)|U(|RAGE (BW(EE|I)|FW(",
  "EE|I)|GW(E(|E)|I)|HHWA|KW(E(|E)|I)|MW(EE|I)|PW(EE|I)|QW(E(|E)|I)))|W(A(|A)|E(|E)|I)|Y(A(|A)|E(",
  "|E)|I|O|U))|H(A(|A)|E(|E)|H(A(|A)|E(|E)|I|O|U|W(A|E(|E)|I)|Y(A(|A)|E(|E)|I|O|U))|I|O(|A)|U)|J(",
  "A(|A)|E(|E)|I|O(|A)|U|WA)|K(A(|A)|E(|E)|I|O(|A)|U|W(A(|A)|E(|E)|I)|X(A(|A)|E(|E)|I|O|U|W(A(|A)",
  "|E(|E)|I))|Y(A(|A)|E(|E)|I|O|U))|L(A(|A)|E(|E)|I|O(|A)|U|WA)|M(A(|A)|E(|E)|I|O(|A)|U|W(A|E(|E)",
  "|I)|YA)|N(A(|A)|E(|E)|I|O(|A)|U|WA|Y(A(|A)|E(|E)|I|O(|A)|U|WA))|P(A(|A)|E(|E)|H(A(|A|RYNGEAL (",
  "A(|A)|E(|E)|I|O|U))|E(|E)|I|O(|A)|U|WA)|I|O(|A)|U|W(A|E(|E)|I))|Q(A(|A)|E(|E)|H(A(|A)|E(|E)|I|",
  "O|U|W(A(|A)|E(|E)|I))|I|O(|A)|U|W(A(|A)|E(|E)|I)|Y(A(|A)|E(|E)|I|O|U))|R(A(|A)|E(|E)|I|O(|A)|",
  "U|WA|YA)|S(A(|A)|E(|BATBEIT (BWA|FWA|MWA|PWA)|E)|H(A(|A)|E(|E)|I|O(|A)|U|WA)|I|O(|A)|S(A(|A)|",
  "E(|E)|I|O|U)|U|WA|Z(A(|A)|E(|E)|I|O|U|WA))|T(A(|A)|E(|E)|H(A(|A)|E(|E)|I|O(|A)|U|WA)|I|O(|A)|",
  "S(A(|A)|E(|E)|I|O|U|WA)|TH(AA|E(|E)|I|O|U)|U|WA|Z(A(|A)|E(|E)|I|O(|A)|U))|V(A(|A)|E(|E)|I|O|U|",
  "WA)|W(A(|A)|E(|E)|I|O(|A)|U)|X(A(|A)|E(|E)|I|O(|A)|U|W(A(|A)|E(|E)|I)|Y(A(|A)|E(|E)|I|O|U))|Y(",
  "A(|A)|E(|E)|I|O(|A)|U)|Z(A(|A)|E(|E)|H(A(|A)|E(|E)|I|O|U|WA)|I|O(|A)|U|WA|Z(A(|A)|E(|E)|I|O|U)",
  ")))|TONAL MARK (CHIRET|D(ERET(|-HIDET)|IFAT)|HIDET|K(ENAT|URT)|RIKRIK|SHORT RIKRIK|YIZET)|",
  "WORDSPACE)|X)|U(LER CONSTANT|RO( SIGN|-CURRENCY SIGN|PEAN (CASTLE|POST OFFICE)))|",
  "VERGREEN TREE|X(C(ESS|LAMATION (MARK|QUESTION MARK))|PRESSIONLESS FACE|T(",
  "ENDED ARABIC-INDIC DIGIT (EIGHT|F(IVE|OUR)|NINE|ONE|S(EVEN|IX)|T(HREE|WO)|ZERO)|R(",
  "ATERRESTRIAL ALIEN|EMELY HEAVY (FIVE SPOKED ASTERISK|GREEK CROSS|S(ALTIRE|IX SPOKED ASTERISK)|",
  "WHITE (CIRCLE|SQUARE)))))|YE(|GLASSES|S))"]

/-- Names that begin with F: what stands before brackets goes before each of the endings in them. -/
def namesInF : List String := [
  "F(A(C(E (HOLDING BACK TEARS|MASSAGE|PALM|S(AVOURING DELICIOUS FOOD|CREAMING IN FEAR)|",
  "THROWING A KISS|WITH( (CO(LD SWEAT|WBOY HAT)|DIAGONAL MOUTH|FINGER COVERING CLOSED LIPS|",
  "HEAD-BANDAGE|LOOK OF TRIUMPH|M(EDICAL MASK|ONOCLE)|NO GOOD GESTURE|O(K GESTURE|",
  "NE EYEBROW RAISED|PEN (EYES AND HAND OVER MOUTH|MOUTH(| (AND COLD SWEAT|VOMITING))))|P(",
  "ARTY HORN AND PARTY HAT|EEKING EYE|LEADING EYES)|ROLLING EYES|STUCK-OUT TONGUE(| AND (",
  "TIGHTLY-CLOSED EYES|WINKING EYE))|T(EARS OF JOY|HERMOMETER)|UNEVEN EYES AND WAVY MOUTH)|",
  "OUT MOUTH))|SIMILE SIGN|TORY)|IRY|L(AFEL|L(EN LEAF|ING DIAGONAL (CROSSING (NORTH EAST ARROW|",
  "RISING DIAGONAL)|IN WHITE CIRCLE IN BLACK SQUARE)))|MILY|RSI SYMBOL|THER CHRISTMAS|X (ICON|",
  "MACHINE))|E(A(RFUL FACE|THER)|M(ALE SIGN|ININE ORDINAL INDICATOR)|NCER|RR(IS WHEEL|Y))|F|I(",
  "ELD HOCKEY STICK AND BALL|GURE (DASH|SPACE)|L(E (CABINET|FOLDER|SEPARATOR)|M (FRAMES|",
  "PROJECTOR))|NITE PART INTEGRAL|R(E(| E(NGINE|XTINGUISHER)|CRACKER|WORK( SPARKLER|S))|ST (",
  "PLACE MEDAL|QUARTER MOON(| (SYMBOL|WITH FACE))|STRONG ISOLATE))|S(H(| CAKE WITH SWIRL DESIGN|",
  "EYE|ING POLE AND FISH)|TED HAND SIGN)|VE DOT (MARK|PUNCTUATION))|L(A(G IN HOLE|MINGO|T( SHOE|",
  "BREAD|NESS))|E(UR-DE-LIS|XED BICEPS)|O(PPY DISK|RAL HEART|WER(| P(LAYING CARDS|",
  "UNCTUATION MARK)))|USHED FACE|Y(|ING (DISC|ENVELOPE|SAUCER)))|O(G(|GY)|LDER|NDUE|OT(|PRINTS)|",
  "R( ALL|CES|K( AND KNIFE(| WITH PLATE)|ED PARAGRAPHOS|ING)|M FEED|TUNE COOKIE)|U(NTAIN|R( (",
  "BALLOON-SPOKED ASTERISK|C(LUB-SPOKED ASTERISK|ORNER ARROWS CIRCLING ANTICLOCKWISE)|DOT (MARK|",
  "PUNCTUATION)|LEAF CLOVER|POINTED BLACK STAR|TEARDROP-SPOKED ASTERISK)|-PER-EM SPACE|TH ROOT))|",
  "X FACE)|R(A(CTION (NUMERATOR ONE|SLASH)|ME WITH (AN X|PICTURE|TILES))|E(EZING FACE|NCH FR(",
  "ANC SIGN|IES))|IED SHRIMP|O(G FACE|NT-(FACING BABY CHICK|TILTED SHADOWED WHITE RIGHTWARDS ARRO",
  "W)|WN(|ING FACE WITH OPEN MOUTH)))|S(|I)|U(EL PUMP|LL( (BLOCK|MOON (SYMBOL|WITH FACE)|",
  "OUTER JOIN|STOP)|WIDTH (A(MPERSAND|POSTROPHE|STERISK)|BROKEN BAR|C(ENT SIGN|IRCUMFLEX ACCENT|",
  "O(LON|MM(A|ERCIAL AT)))|D(IGIT (EIGHT|F(IVE|OUR)|NINE|ONE|S(EVEN|IX)|T(HREE|WO)|ZERO)|",
  "OLLAR SIGN)|E(QUALS SIGN|XCLAMATION MARK)|FULL STOP|GR(AVE ACCENT|EATER-THAN SIGN)|",
  "HYPHEN-MINUS|L(ATIN (CAPITAL LETTER (A|B|C|D|E|F|G|H|I|J|K|L|M|N|O|P|Q|R|S|T|U|V|W|X|Y|Z)|",
  "SMALL LETTER (A|B|C|D|E|F|G|H|I|J|K|L|M|N|O|P|Q|R|S|T|U|V|W|X|Y|Z))|E(FT (CURLY BRACKET|",
  "PARENTHESIS|SQUARE BRACKET|WHITE PARENTHESIS)|SS-THAN SIGN)|OW LINE)|MACRON|N(OT SIGN|",
  "UMBER SIGN)|P(ERCENT SIGN|LUS SIGN|OUND SIGN)|QU(ESTION MARK|OTATION MARK)|R(EVERSE SOLIDUS|",
  "IGHT (CURLY BRACKET|PARENTHESIS|SQUARE BRACKET|WHITE PARENTHESIS))|S(EMICOLON|OLIDUS)|TILDE|",
  "VERTICAL LINE|WON SIGN|YEN SIGN))|N(CTION APPLICATION|ERAL URN)|SE)|VS(1|2|3|4))"]

end LayerGraph.Text
