/-! Names of characters that begin with T to Z. -/

set_option autoImplicit false

namespace LayerGraph.Text

/-- Names that begin with T: what stands before brackets goes before each of the endings in them. -/
def namesInT : List String := [
  "T(-(REX|SHIRT)|A(B(|LE TENNIS PADDLE AND BALL)|CO|G( (A(MPERSAND|POSTROPHE|STERISK)|C(",
  "IRCUMFLEX ACCENT|O(LON|MM(A|ERCIAL AT)))|D(IGIT (EIGHT|F(IVE|OUR)|NINE|ONE|S(EVEN|IX)|T(HREE|",
  "WO)|ZERO)|OLLAR SIGN)|E(QUALS SIGN|XCLAMATION MARK)|FULL STOP|GR(AVE ACCENT|EATER-THAN SIGN)|",
  "HYPHEN-MINUS|L(ATIN (CAPITAL LETTER (A|B|C|D|E|F|G|H|I|J|K|L|M|N|O|P|Q|R|S|T|U|V|W|X|Y|Z)|",
  "SMALL LETTER (A|B|C|D|E|F|G|H|I|J|K|L|M|N|O|P|Q|R|S|T|U|V|W|X|Y|Z))|E(FT (CURLY BRACKET|",
  "PARENTHESIS|SQUARE BRACKET)|SS-THAN SIGN)|OW LINE)|NUMBER SIGN|P(ERCENT SIGN|LUS SIGN)|QU(",
  "ESTION MARK|OTATION MARK)|R(EVERSE SOLIDUS|IGHT (CURLY BRACKET|PARENTHESIS|SQUARE BRACKET))|S(",
  "EMICOLON|OLIDUS|PACE)|TILDE|VERTICAL LINE)|ALOG (LETTER (A(|RCHAIC RA)|BA|DA|GA|HA|I|KA|LA|MA|",
  "N(A|GA)|PA|RA|SA|TA|U|WA|YA)|SIGN (PAMUDPOD|VIRAMA)|VOWEL SIGN (I|U))|BANWA (LETTER (A|BA|DA|",
  "GA|I|KA|LA|MA|N(A|GA)|PA|SA|TA|U|WA|YA)|VOWEL SIGN (I|U)))|I (LE LETTER (A(|I|UE)|E(|E|H)|FA|",
  "HA|I|K(A|HA)|LA|MA|N(A|GA)|O(|O)|P(A|HA)|QA|SA|T(A|HA|ONE-(2|3|4|5|6)|S(A|HA))|U(|E)|VA|XA|YA)",
  "|THAM (CO(MBINING CRYPTOGRAMMIC DOT|NSONANT SIGN (BA|FINAL NGA|HIGH RATHA OR LOW PA|L(",
  "A TANG LAI|OW PA)|M(A|EDIAL (LA|RA))|SA))|HORA DIGIT (EIGHT|F(IVE|OUR)|NINE|ONE|S(EVEN|IX)|T(",
  "HREE|WO)|ZERO)|LETTER (A|BA|DA|EE|GREAT SA|HIGH (C(A|HA)|FA|HA|K(A|HA|XA)|P(A|HA)|RATHA|S(A|",
  "HA|SA)|T(A|HA)|YA)|I(|I)|L(A(|E)|LA|OW (C(A|HA)|FA|HA|K(A|HA|XA)|P(A|HA)|RATHA|SA|T(A|HA)|YA)|",
  "UE)|MA|N(A|GA|YA)|OO|R(A(|NA|TA)|UE)|U(|U)|WA)|SIGN (CAANG|DOKMAI|H(ANG|OY)|K(AAN(|KUU)|EOW|",
  "HUEN( TONE-(3|4|5)|-LUE KARAN))|MAI (KANG(| LAI)|SAM|YAMOK)|R(A HAAM|EVERSED ROTATED RANA)|SA(",
  "KOT|TKAAN(|KUU)|WAN)|TONE-(1|2)|WIANG(|WAAK))|THAM DIGIT (EIGHT|F(IVE|OUR)|NINE|ONE|S(EVEN|IX)",
  "|T(HREE|WO)|ZERO)|VOWEL SIGN (A(|A|E|I)|E|I(|I)|MAI SAT|O(|A (ABOVE|BELOW)|O|Y)|T(ALL AA|",
  "HAM AI)|U(|E|U(|E))))|VIET (LETTER (HIGH (BO|C(HO|O)|DO|FO|GO|HO|K(H(HO|O)|O)|LO|MO|N(GO|O|YO)",
  "|O|P(HO|O)|RO|SO|T(HO|O)|VO|YO)|LOW (BO|C(HO|O)|DO|FO|GO|HO|K(H(HO|O)|O)|LO|MO|N(GO|O|YO)|O|P(",
  "HO|O)|RO|SO|T(HO|O)|VO|YO))|MAI K(ANG|HIT)|SYMBOL (HO HOI|KO(I KOI|N)|NUENG|SAM)|TONE MAI (EK|",
  "NUENG|SONG|THO)|VOWEL (A(A|M|N|UE|Y)|E|I(|A)|O|U(|A|E(|A)))))|K(EOUT BOX|RI (",
  "ABBREVIATION SIGN|DIGIT (EIGHT|F(IVE|OUR)|NINE|ONE|S(EVEN|IX)|T(HREE|WO)|ZERO)|LETTER (A(|A|I|",
  "RCHAIC KHA|U)|B(A|HA)|C(A|HA)|D(A|D(A|HA)|HA)|E|G(A|HA)|HA|I(|I)|J(A|HA)|K(A|HA)|LA|MA|N(A|GA|",
  "NA|YA)|O|P(A|HA)|R(A|RA)|S(A|HA)|T(A|HA|T(A|HA))|U(|U)|VA|YA)|SIGN (ANUSVARA|NUKTA|VI(RAMA|",
  "SARGA))|VOWEL SIGN (A(A|I|U)|E|I(|I)|O|U(|U))))|LLY MARK (FIVE|ONE)|M(ALE|IL (A(ND ODD SIGN|",
  "S ABOVE SIGN|U LENGTH MARK)|C(REDIT SIGN|URRENT SIGN)|D(AY SIGN|EBIT SIGN|IGIT (EIGHT|F(IVE|",
  "OUR)|NINE|ONE|S(EVEN|IX)|T(HREE|WO)|ZERO)|RY CULTIVATION SIGN)|FRACTION (",
  "DOWNSCALING FACTOR KIIZH|ONE (EIGHT(H|IETH)|F(IFTH|ORTIETH)|HALF-(1|2)|",
  "ONE-HUNDRED-AND-SIXTIETH|QUARTER|SIXT(EENTH-(1|2)|Y-FOURTH)|T(ENTH|H(IRTY-SECOND|",
  "REE-HUNDRED-AND-TWENTIETH)|WENTIETH))|THREE (EIGHTIETHS|QUARTERS|SIXT(EENTHS|Y-FOURTHS)|",
  "TWENTIETHS))|IN POSSESSION SIGN|L(AND SIGN|ETTER (A(|A|I|U)|CA|E(|E)|HA|I(|I)|JA|KA|L(A|L(A|",
  "LA))|MA|N(A|GA|N(A|NA)|YA)|O(|O)|PA|R(A|RA)|S(A|HA|SA)|T(A|TA)|U(|U)|VA|YA))|MONTH SIGN|",
  "NUMBER (ONE (HUNDRED|THOUSAND)|SIGN|TEN)|OM|PUNCTUATION END OF TEXT|RUPEE SIGN|S(ALT PAN SIGN|",
  "IGN (A(AZHAAKKU|NUSVARA)|CEVITU|K(AACU|U(RUNI|ZHI))|MU(KKURUNI|THALIYA|UVUZHAKKU)|NEL|P(A(",
  "ARAM|NAM|THAKKU)|ON)|UZHAKKU|V(A(KAIYARAA|RAAKAN)|ELI|I(RAMA|SARGA)))|PENT SIGN|",
  "TARTING FROM SIGN)|T(OTAL SIGN|RADITIONAL (CREDIT SIGN|NUMBER SIGN))|VOWEL SIGN (A(A|I|U)|E(|",
  "E)|I(|I)|O(|O)|U(|U))|WET CULTIVATION SIGN|YEAR SIGN))|N(ABATA TREE|G(ERINE|SA (DIGIT (EIGHT|",
  "F(IVE|OUR)|NINE|ONE|S(EVEN|IX)|T(HREE|WO)|ZERO)|LETTER (A(C|Q|W(C|Q|X|Z)|X|Z)|BA|C(A|HA)|D(A|",
  "HA)|E(C|Q|X|Z)|F(A|INAL NG)|G(A|HA)|H(A|T(A|TA))|I(C|Q|X|Z)|K(A|HA)|L(A|ONG UEX)|M(A|C|Q|X|Z)|",
  "N(A|GA|HA|YA)|O(C|Q|X|Z)|P(A|HA)|RA|S(A|H(A|ORT (AWX|UEZ)))|T(A|HA|SA)|U(C|E(C|Q|X|Z)|I(C|Q|U(",
  "C|Q|X|Z)|X|Z)|Q|X|Z)|V(C|Q|X|Z)|WA|XA|YA|ZA))|UT (COMPONENT-(0(0(1|2|3|4|5|6|7|8|9)|1(0|1|2|3|",
  "4|5|6|7|8|9)|2(0|1|2|3|4|5|6|7|8|9)|3(0|1|2|3|4|5|6|7|8|9)|4(0|1|2|3|4|5|6|7|8|9)|5(0|1|2|3|4|",
  "5|6|7|8|9)|6(0|1|2|3|4|5|6|7|8|9)|7(0|1|2|3|4|5|6|7|8|9)|8(0|1|2|3|4|5|6|7|8|9)|9(0|1|2|3|4|5|",
  "6|7|8|9))|1(0(0|1|2|3|4|5|6|7|8|9)|1(0|1|2|3|4|5|6|7|8|9)|2(0|1|2|3|4|5|6|7|8|9)|3(0|1|2|3|4|",
  "5|6|7|8|9)|4(0|1|2|3|4|5|6|7|8|9)|5(0|1|2|3|4|5|6|7|8|9)|6(0|1|2|3|4|5|6|7|8|9)|7(0|1|2|3|4|5|",
  "6|7|8|9)|8(0|1|2|3|4|5|6|7|8|9)|9(0|1|2|3|4|5|6|7|8|9))|2(0(0|1|2|3|4|5|6|7|8|9)|1(0|1|2|3|4|",
  "5|6|7|8|9)|2(0|1|2|3|4|5|6|7|8|9)|3(0|1|2|3|4|5|6|7|8|9)|4(0|1|2|3|4|5|6|7|8|9)|5(0|1|2|3|4|5|",
  "6|7|8|9)|6(0|1|2|3|4|5|6|7|8|9)|7(0|1|2|3|4|5|6|7|8|9)|8(0|1|2|3|4|5|6|7|8|9)|9(0|1|2|3|4|5|6|",
  "7|8|9))|3(0(0|1|2|3|4|5|6|7|8|9)|1(0|1|2|3|4|5|6|7|8|9)|2(0|1|2|3|4|5|6|7|8|9)|3(0|1|2|3|4|5|",
  "6|7|8|9)|4(0|1|2|3|4|5|6|7|8|9)|5(0|1|2|3|4|5|6|7|8|9)|6(0|1|2|3|4|5|6|7|8|9)|7(0|1|2|3|4|5|6|",
  "7|8|9)|8(0|1|2|3|4|5|6|7|8|9)|9(0|1|2|3|4|5|6|7|8|9))|4(0(0|1|2|3|4|5|6|7|8|9)|1(0|1|2|3|4|5|",
  "6|7|8|9)|2(0|1|2|3|4|5|6|7|8|9)|3(0|1|2|3|4|5|6|7|8|9)|4(0|1|2|3|4|5|6|7|8|9)|5(0|1|2|3|4|5|6|",
  "7|8|9)|6(0|1|2|3|4|5|6|7|8|9)|7(0|1|2|3|4|5|6|7|8|9)|8(0|1|2|3|4|5|6|7|8|9)|9(0|1|2|3|4|5|6|7|",
  "8|9))|5(0(0|1|2|3|4|5|6|7|8|9)|1(0|1|2|3|4|5|6|7|8|9)|2(0|1|2|3|4|5|6|7|8|9)|3(0|1|2|3|4|5|6|",
  "7|8|9)|4(0|1|2|3|4|5|6|7|8|9)|5(0|1|2|3|4|5|6|7|8|9)|6(0|1|2|3|4|5|6|7|8|9)|7(0|1|2|3|4|5|6|7|",
  "8|9)|8(0|1|2|3|4|5|6|7|8|9)|9(0|1|2|3|4|5|6|7|8|9))|6(0(0|1|2|3|4|5|6|7|8|9)|1(0|1|2|3|4|5|6|",
  "7|8|9)|2(0|1|2|3|4|5|6|7|8|9)|3(0|1|2|3|4|5|6|7|8|9)|4(0|1|2|3|4|5|6|7|8|9)|5(0|1|2|3|4|5|6|7|",
  "8|9)|6(0|1|2|3|4|5|6|7|8|9)|7(0|1|2|3|4|5|6|7|8|9)|8(0|1|2|3|4|5|6|7|8|9)|9(0|1|2|3|4|5|6|7|8|",
  "9))|7(0(0|1|2|3|4|5|6|7|8|9)|1(0|1|2|3|4|5|6|7|8|9)|2(0|1|2|3|4|5|6|7|8|9)|3(0|1|2|3|4|5|6|7|",
  "8|9)|4(0|1|2|3|4|5|6|7|8|9)|5(0|1|2|3|4|5|6|7|8|9)|6(0|1|2|3|4|5|6|7|8)))|ITERATION MARK)))|",
  "PE (CARTRIDGE|DRIVE)|URUS|XI)|E(A(CUP WITHOUT HANDLE|POT|R(-OFF CALENDAR|DROP-(",
  "BARBED RIGHTWARDS ARROW|SPOKED ASTERISK)))|DDY BEAR|L(E(PHONE (LOCATION SIGN|ON TOP OF MODEM|",
  "REC(EIVER(| WITH PAGE)|ORDER)|SIGN)|SCOPE|VISION)|UGU (AI LENGTH MARK|DIGIT (EIGHT|F(IVE|OUR)|",
  "NINE|ONE|S(EVEN|IX)|T(HREE|WO)|ZERO)|FRACTION DIGIT (ONE FOR (EVEN POWERS OF FOUR|",
  "ODD POWERS OF FOUR)|T(HREE FOR (EVEN POWERS OF FOUR|ODD POWERS OF FOUR)|WO FOR (",
  "EVEN POWERS OF FOUR|ODD POWERS OF FOUR))|ZERO FOR ODD POWERS OF FOUR)|LE(NGTH MARK|TTER (A(|A|",
  "I|U)|B(A|HA)|C(A|HA)|D(A|D(A|HA)|HA|ZA)|E(|E)|G(A|HA)|HA|I(|I)|J(A|HA)|K(A|HA)|L(A|L(A|LA))|",
  "MA|N(A(|KAARA POLLU)|GA|NA|YA)|O(|O)|P(A|HA)|R(A|R(A|RA))|S(A|HA|SA)|T(A|HA|SA|T(A|HA))|U(|U)|",
  "V(A|OCALIC (L(|L)|R(|R)))|YA))|SIGN (A(NUSVARA|VAGRAHA)|C(ANDRABINDU|OMBINING (ANUSVARA ABOVE|",
  "CANDRABINDU ABOVE))|NUKTA|SIDDHAM|TUUMU|VI(RAMA|SARGA))|VOWEL SIGN (A(A|I|U)|E(|E)|I(|I)|O(|O)",
  "|U(|U)|VOCALIC (L(|L)|R(|R)))))|N(GE SIGN|NIS RACQUET AND BALL|T)|ST TUBE|TRAGRAM FOR (A(",
  "CCUMULATION|DVANCE|GGRAVATION|SCENT)|B(ARRIER|OLD RESOLUTION|RANCHING OUT)|C(ENTRE|HANGE|LOS(",
  "E(D MOUTH|NESS)|URE)|O(MPL(ETION|IANCE)|N(STANCY|T(ACT|ENTION|RARIETY))))|D(ARKENING|E(",
  "CISIVENESS|FECTIVENESS OR DISTORTION|PARTURE)|I(FFICULTIES|M(INISHMENT|MING)|VERGENCE)|OUBT|",
  "UTIES)|E(ASE|MBELLISHMENT|N(COUNTERS|DEAVOUR|LARGEMENT)|TERNITY|XHAUSTION)|F(AILURE|LIGHT|O(",
  "LLOWING|STERING)|ULL( CIRCLE|NESS))|G(ATHERING(| IN)|OING TO MEET|REATNESS|UARDEDNESS)|H(",
  "ARDNESS|OLDING BACK)|IN(CREASE|NER)|JOY|K(EEPING SMALL|INSHIP)|L(A(BOURING|W OR MODEL)|EGION)|",
  "M(ASSING|EASURE|IRED)|O(N THE VERGE|PPOSITION)|P(A(CKING|TTERN)|ENETRATION|URITY)|R(E(ACH|",
  "LEASE|S(I(DENCE|STANCE)|PONSE))|ITUAL)|S(EVERANCE|INKING|T(O(PPAGE|VE)|RENGTH))|UNITY|",
  "VASTNESS OR WASTING|WA(ITING|TCH)|YOUTHFULNESS))|H(A(ANA (A(ABAAFILI|BAFILI)|E(BEFILI|",
  "EBEEFILI|YBEYFILI)|IBIFILI|LETTER (A(INU|LIFU)|BAA|CHAVIYANI|D(A(ADHU|VIYANI)|HAALU)|FAAFU|G(",
  "AAFU|HAINU|NAVIYANI)|H(AA|HAA)|JAVIYANI|K(AAFU|HAA)|L(AAMU|HAVIYANI)|MEEMU|N(AA|OONU)|",
  "PAVIYANI|QAAFU|RAA|S(AADHU|EENU|H(AVIYANI|EENU))|T(AVIYANI|HAA(|LU)|O|TAA)|VAAVU|WAAVU|YAA|Z(",
  "A(A|VIYANI)|O))|O(ABOAFILI|BOFILI|OBOOFILI)|SUKUN|UBUFILI)|I (C(HARACTER (ANGKHANKHU|",
  "BO BAIMAI|CHO CH(AN(|G)|ING|OE)|DO (CHADA|DEK)|FO( FA(|N)|NGMAN)|HO (HIP|NOKHUK)|K(HO( (KH(AI|",
  "ON|UAT|WAI)|RAKHANG)|MUT)|O KAI)|L(AKKHANGYAO|O (CHULA|LING)|U)|M(AI( (CHATTAWA|EK|HAN-AKAT|T(",
  "HO|RI))|TAIKHU|YAMOK)|O MA)|N(GO NGU|IKHAHIT|O N(EN|U))|O ANG|P(AIYANNOI|H(INTHU|O (PH(AN|UNG)",
  "|SAMPHAO))|O PLA)|R(O RUA|U)|S(ARA (A(|A|E|I MAIM(ALAI|UAN)|M)|E|I(|I)|O|U(|E(|E)|U))|O (RUSI|",
  "S(ALA|O|UA)))|T(H(ANTHAKHAT|O (NANGMONTHO|PHUTHAO|TH(A(HAN|N)|ONG|UNG)))|O (PATAK|TAO))|",
  "WO WAEN|Y(AMAKKAN|O Y(AK|ING)))|URRENCY SYMBOL BAHT)|DIGIT (EIGHT|F(IVE|OUR)|NINE|ONE|S(EVEN|",
  "IX)|T(HREE|WO)|ZERO)))|ER(E( (DOES NOT EXIST|EXISTS)|FORE)|MO(DYNAMIC|METER))|I(N( (",
  "GREEK CROSS|S(ALTIRE|PACE))|KING FACE)|RD PLACE MEDAL)|O(NG SANDAL|UGHT BALLOON)|REE( (",
  "BUTTON MOUSE|CONSECUTIVE EQUALS SIGNS|D(IMENSIONAL ANGLE|OT PUNCTUATION)|L(EFTWARDS ARROWS|",
  "INES CONVERGING (LEFT|RIGHT))|NETWORKED COMPUTERS|POINTED BLACK STAR|R(AYS (ABOVE|BELOW|LEFT|",
  "RIGHT)|IGHTWARDS ARROWS)|SPEECH BUBBLES)|-(D (BOTTOM-LIGHTED RIGHTWARDS ARROWHEAD|",
  "LEFT-LIGHTED DOWNWARDS EQUILATERAL ARROWHEAD|RIGHT-LIGHTED UPWARDS EQUILATERAL ARROWHEAD|",
  "TOP-LIGHTED (LEFTWARDS EQUILATERAL ARROWHEAD|RIGHTWARDS (ARROWHEAD|EQUILATERAL ARROWHEAD)))|",
  "EM DASH|PER-EM SPACE))|U(MBS (DOWN SIGN|UP SIGN)|NDER( CLOUD AND RAIN|STORM)))|I(BETAN (",
  "ASTROLOGICAL SIGN (-KHYUD PA|S(DONG TSHUGS|GRA GCAN -CHAR RTAGS))|CANTILLATION SIGN (",
  "CANG TE-U|HEAVY BEAT|LIGHT BEAT|SBUB -CHAL)|DIGIT (EIGHT|F(IVE|OUR)|HALF (EIGHT|F(IVE|OUR)|",
  "NINE|ONE|S(EVEN|IX)|T(HREE|WO)|ZERO)|NINE|ONE|S(EVEN|IX)|T(HREE|WO)|ZERO)|KU RU KHA(|",
  " BZHI MIG CAN)|L(ETTER (-A|A|B(A|HA)|C(A|HA)|D(A|D(A|HA)|HA|Z(A|HA))|FIXED-FORM RA|G(A|HA)|HA|",
  "JA|K(A|HA|KA|SSA)|LA|MA|N(A|GA|NA|YA)|P(A|HA)|R(A|RA)|S(A|HA|SA)|T(A|HA|S(A|HA)|T(A|HA))|WA|",
  "YA|Z(A|HA))|OGOTYPE SIGN (CHAD RTAGS|LHAG RTAGS))|MARK (ANG KHANG GY(AS|ON)|B(KA- SHOG (",
  "GI MGO RGYAN|YIG MGO)|S(DUS RTAGS|K(A- SHOG GI MGO RGYAN|UR YIG MGO)))|C(ARET (-DZUD RTAGS (",
  "BZHI MIG CAN|ME LONG CAN)|YIG MGO PHUR SHAD MA)|HE MGO|LOSING (BRDA RNYING YIG MGO SGAB MA|",
  "YIG MGO SGAB MA))|DELIMITER TSHEG BSTAR|G(TER (TSHEG|YIG MGO (-UM (GTER TSHEG MA|RNAM BCAD MA)",
  "|TRUNCATED A))|UG RTAGS GY(AS|ON))|HALANTA|IN(ITIAL (BRDA RNYING YIG MGO MDUN MA|",
  "YIG MGO MDUN MA)|TERSYLLABIC TSHEG)|LEADING MCHAN RTAGS|MNYAM YIG GI MGO RGYAN|N(GAS BZUNG (",
  "NYI ZLA|SGOR RTAGS)|YIS (SHAD|TSHEG(| SHAD)))|PALUTA|R(GYA GRAM SHAD|IN CHEN SPUNGS SHAD)|S(",
  "BRUL SHAD|HAD)|T(RAILING MCHAN RTAGS|S(A -PHRU|HEG SHAD))|YIG MGO TSHEG SHAD MA)|S(IGN (GRU (",
  "CAN RGYINGS|MED RGYINGS)|INVERTED MCHU CAN|LC(E TSA CAN|I RTAGS)|M(AR TSHES|CHU CAN)|",
  "NYI ZLA NAA DA|R(DEL (DKAR (G(CIG|NYIS|SUM)|RDEL NAG)|NAG (G(CIG|NYIS|SUM)|RDEL DKAR))|",
  "JES SU NGA RO|NAM BCAD)|SNA LDAN|YA(NG RTAGS|R TSHES))|UBJOINED (LETTER (-A|A|B(A|HA)|C(A|HA)|",
  "D(A|D(A|HA)|HA|Z(A|HA))|FIXED-FORM (RA|WA|YA)|G(A|HA)|HA|JA|K(A|HA|SSA)|LA|MA|N(A|GA|NA|YA)|P(",
  "A|HA)|RA|S(A|HA|SA)|T(A|HA|S(A|HA)|T(A|HA))|WA|YA|Z(A|HA))|SIGN (INVERTED MCHU CAN|",
  "LCE TSA CAN|MCHU CAN))|Y(LLABLE OM|MBOL (DRIL BU|NOR BU(| (BZHI -KHYIL|GSUM -KHYIL|",
  "NYIS -KHYIL))|P(ADMA GDAN|HUR PA)|RDO RJE(| RGYA GRAM))))|VOWEL SIGN (AA|E(|E)|I(|I)|O(|O)|",
  "REVERSED I(|I)|U(|U)|VOCALIC (L(|L)|R(|R))))|CKET|E OVER INFINITY|FINAGH (CONSONANT JOINER|",
  "LETTER (A(HAGGAR YAZH|YER YAGH)|BERBER ACADEMY YA(H|J)|T(AWELLEMET YAZ|UAREG YA(G(H|N)|H|K(|H)",
  "|NG|Q|ZH))|Y(A(|A|B(|H)|CH|D(|D(|H)|H)|F|G(|H(|H))|H(|H)|J|K(|H(|H))|L|M|N|P|Q|R(|R)|S(|H|S)|",
  "T(|H|T)|V|W|Y|Z(|H|Z))|E(|Y)|I|O|U))|MODIFIER LETTER LABIALIZATION MARK|SEPARATOR MARK)|G(ER(|",
  " FACE)|HT TRIFOLIATE SNOWFLAKE)|LDE(| (OPERATOR(| (ABOVE (LEFTWARDS ARROW|RIGHTWARDS ARROW)|",
  "WITH (DOT ABOVE|RISING DOTS)))|WITH (DOT (ABOVE|BELOW)|RING ABOVE)))|ME(R CLOCK|S WITH (",
  "LEFT HALF BLACK|RIGHT HALF BLACK))|NY(| TWO DOTS OVER ONE DOT PUNCTUATION)|R(ED FACE|HUTA (A(",
  "BBREVIATION SIGN|NJI)|DIGIT (EIGHT|F(IVE|OUR)|NINE|ONE|S(EVEN|IX)|T(HREE|WO)|ZERO)|GVANG|",
  "LETTER (A(|A|I|U)|B(A|HA)|C(A|HA)|D(A|D(A|HA)|HA)|E|G(A|HA)|HA|I(|I)|J(A|HA)|K(A|HA)|LA|MA|N(",
  "A|GA|NA|YA)|O|P(A|HA)|RA|S(A|HA|SA)|T(A|HA|T(A|HA))|U(|U)|V(A|OCALIC (L(|L)|R(|R)))|YA)|OM|",
  "SIGN (A(NUSVARA|VAGRAHA)|CANDRABINDU|NUKTA|VI(RAMA|SARGA))|VOWEL SIGN (A(A|I|U)|E|I(|I)|O|",
  "SHORT (E|O)|U(|U)|VOCALIC (L(|L)|R(|R))))|ONIAN SIGN (CAPITAL ET|ET)))|O(ILET|KYO TOWER|MATO|",
  "NGUE|O(LBOX|TH(|BRUSH))|P (ARC (ANTICLOCKWISE ARROW(| WITH PLUS)|CLOCKWISE ARROW WITH MINUS)|",
  "CURLY BRACKET|HA(LF (BLACK CIRCLE|INTEGRAL|LEFT PARENTHESIS|RIGHT PARENTHESIS|SECTION SIGN)|T)",
  "|LEFT (C(ORNER|ROP)|HALF BRACKET)|PARENTHESIS|RIGHT (C(ORNER|ROP)|HALF BRACKET)|",
  "SQUARE BRACKET|TORTOISE SHELL BRACKET|WITH UPWARDS ARROW ABOVE)|RTOISE SHELL BRACKETED (",
  "CJK UNIFIED IDEOGRAPH-(4E(09|8C)|5(2DD|B89)|6(253|557|72C)|7(0B9|6D7))|LATIN CAPITAL LETTER S)",
  "|T(AL RUNOUT|O (LETTER (A(|E)|B(A|REATHY (AE|E(|O)|I(|U)))|CHA|DA|E(|O)|GA|HA|I(|U)|JA|KA|LA|",
  "MA|N(A|GA)|O|PA|RA|SA|TA|U|WA|YA)|SIGN RISING TONE)))|R(A(C(KBALL|TOR)|DE MARK SIGN|IN|M(|",
  " CAR)|NS(PLUTO|VERSAL INTERSECTION))|I(ANG(LE( WITH (DOT ABOVE|ROUNDED CORNERS|",
  "SERIFS AT BOTTOM|UNDERBAR)|-HEADED RIGHTWARDS ARROW)|ULAR (BULLET|FLAG ON POST|RULER))|COLON|",
  "DENT EMBLEM|GRAM FOR (EARTH|FIRE|HEAVEN|LAKE|MOUNTAIN|THUNDER|W(ATER|IND))|PLE (",
  "COLON OPERATOR|DAGGER|HORIZONTAL BAR WITH (DOUBLE VERTICAL STROKE|TRIPLE VERTICAL STROKE)|",
  "INTEGRAL|NESTED (GREATER-THAN|LESS-THAN)|P(LUS|RIME)|SOLIDUS BINARY RELATION|TILDE|",
  "VERTICAL BAR (BINARY RELATION|DELIMITER|RIGHT TURNSTILE|WITH HORIZONTAL STROKE)))|O(LL(|EYBUS)",
  "|P(HY|ICAL (DRINK|FISH)))|U(E(| LIGHT MOON ARTA)|MPET))|U(GRIK SIGN|LIP|MBLER GLASS|R(K(EY|",
  "ISH LIRA SIGN)|NED (A(MPERSAND|NGLE)|BLACK (PENTAGON|SHOGI PIECE)|C(APITAL F|OMMA)|D(AGGER|",
  "IGIT T(HREE|WO))|GREEK SMALL LETTER IOTA|NO(RTH (EAST POINTING LEAF|WEST POINTING LEAF)|",
  "T SIGN)|OK HAND SIGN|S(ANS-SERIF CAPITAL (G|L|Y)|EMICOLON|MALL F|OUTH (EAST POINTING LEAF|",
  "WEST POINTING LEAF))|WHITE SHOGI PIECE)|TLE))|W(ELVE POINTED BLACK STAR|",
  "ISTED RIGHTWARDS ARROWS|O( (ASTERISKS ALIGNED VERTICALLY|BUTTON MOUSE|CONSECUTIVE EQUALS SIGNS",
  "|DOT( (LEADER|PUNCTUATION)|S OVER ONE DOT PUNCTUATION)|HEARTS|INTERSECTING LOGICAL (AND|OR)|",
  "JOINED SQUARES|LOGICAL (AND OPERATOR|OR OPERATOR)|MEN HOLDING HANDS|SPEECH BUBBLES|",
  "WOMEN HOLDING HANDS)|-EM DASH)))"]

/-- Names that begin with U: what stands before brackets goes before each of the endings in them. -/
def namesInU : List String := [
  "U(GARITIC (LETTER (A(IN|LPA)|BETA|D(ELTA|HAL)|G(AMLA|HAIN)|HO(|TA)|I|K(AF|HA)|LAMDA|MEM|NUN|",
  "PU|QOPA|RASHA|S(A(DE|MKA)|HIN|SU)|T(ET|HANNA|O)|U|WO|YOD|Z(ETA|U))|WORD DIVIDER)|MBRELLA(| (",
  "ON GROUND|WITH RAIN DROPS))|N(AMUSED FACE|CERTAINTY SIGN|D(ERTIE|O SYMBOL)|I(CORN FACE|ON(| (",
  "ABOVE (BAR ABOVE INTERSECTION|INTERSECTION)|BESIDE AND JOINED WITH UNION|WITH (LOGICAL OR|",
  "MINUS SIGN|OVERBAR)))|T( SEPARATOR|ED SYMBOL)|VERSAL RECYCLING SYMBOL)|",
  "MARRIED PARTNERSHIP SYMBOL)|P( (ARROW( THROUGH CIRCLE|HEAD(| (BETWEEN TWO HORIZONTAL BARS|",
  "IN A RECTANGLE BOX)))|BARB (LEFT DOWN BARB (LEFT HARPOON|RIGHT HARPOON)|RIGHT DOWN BARB (",
  "LEFT HARPOON|RIGHT HARPOON))|DOWN (ARROW(| WITH BASE)|BLACK ARROW|DOUBLE ARROW|",
  "SANS-SERIF ARROW|TRIANGLE-HEADED ARROW|WHITE ARROW)|FISH TAIL|RIGHT DIAGONAL ELLIPSIS|TACK(|",
  " WITH CIRCLE ABOVE))|-POINTING (AIRPLANE|MILITARY AIRPLANE|RED TRIANGLE|SMALL (AIRPLANE|",
  "RED TRIANGLE)|TRIANGLE WITH (LEFT HALF BLACK|RIGHT HALF BLACK))|PER (AND (L(",
  "EFT AND LOWER TRIANGULAR THREE QUARTERS BLOCK|OWER (ONE EIGHTH BLOCK|TRIANGULAR HALF BLOCK))|",
  "RIGHT AND LOWER TRIANGULAR THREE QUARTERS BLOCK)|BLADE SCISSORS|FIVE EIGHTHS BLOCK|HALF (",
  "BLOCK(| AND LOWER HALF INVERSE MEDIUM SHADE)|CIRCLE|INVERSE (MEDIUM SHADE AND LOWER HALF BLOCK",
  "|WHITE CIRCLE)|MEDIUM SHADE)|LEFT (BLOCK DIAGONAL (LOWER (CENTRE TO (LOWER MIDDLE RIGHT|",
  "UPPER (MIDDLE RIGHT|RIGHT))|LEFT TO (LOWER MIDDLE RIGHT|UPPER (CENTRE|MIDDLE RIGHT))|",
  "MIDDLE LEFT TO UPPER (CENTRE|MIDDLE RIGHT|RIGHT))|UPPER MIDDLE LEFT TO UPPER (CENTRE|RIGHT))|",
  "CORNER WITH DOT|OR LOWER RIGHT CURLY BRACKET SECTION|QUADRANT CIRCULAR ARC|T(",
  "O LOWER RIGHT FILL|RIANG(LE|ULAR MEDIUM SHADE)))|ONE (EIGHTH BLOCK|QUARTER BLOCK)|RIGHT (",
  "BLOCK DIAGONAL (LOWER MIDDLE LEFT TO LOWER (CENTRE|RIGHT)|UPPER (CENTRE TO (LOWER (",
  "MIDDLE RIGHT|RIGHT)|UPPER MIDDLE RIGHT)|LEFT TO (LOWER (CENTRE|MIDDLE RIGHT)|",
  "UPPER MIDDLE RIGHT)|MIDDLE LEFT TO LOWER (CENTRE|MIDDLE RIGHT|RIGHT)))|",
  "DROP-SHADOWED WHITE SQUARE|OR LOWER LEFT CURLY BRACKET SECTION|PENCIL|QUADRANT CIRCULAR ARC|",
  "SHADOWED WHITE (CIRCLE|SQUARE)|T(O LOWER LEFT FILL|RIANG(LE|ULAR MEDIUM SHADE)))|",
  "SEVEN EIGHTHS BLOCK|T(HREE (EIGHTHS BLOCK|QUARTERS BLOCK)|RIANGULAR ONE QUARTER BLOCK))|",
  "SIDE-DOWN FACE|WARDS (A(NCORA|RROW(| (AND RIGHT ONE EIGHTH BLOCK|FROM BAR|",
  "LEFTWARDS OF DOWNWARDS ARROW|TO BAR|WITH (DOUBLE STROKE|EQUILATERAL ARROWHEAD|",
  "HORIZONTAL STROKE|LARGE TRIANGLE ARROWHEAD|MEDIUM TRIANGLE ARROWHEAD|NOTCHED TAIL|SMALL (",
  "EQUILATERAL ARROWHEAD|TRIANGLE ARROWHEAD)|TIP (LEFTWARDS|RIGHTWARDS)))))|BLACK (ARROW|",
  "CIRCLED WHITE ARROW)|COMPRESSED ARROW|D(ASHED ARROW|OUBLE ARROW)|FINGER-POST ARROW|H(",
  "ARPOON WITH BARB (LEFT( (BESIDE (DOWNWARDS HARPOON WITH BARB RIGHT|UPWARDS HARPOON WITH BARB R",
  "IGHT)|FROM BAR|TO BAR)|WARDS)|RIGHT( (FROM BAR|TO BAR)|WARDS))|EAVY (ARROW|COMPRESSED ARROW))|",
  "PAIRED ARROWS|QUADRUPLE ARROW|ROCKET|S(ANS-SERIF ARROW|QUARED ARROW)|T(RI(ANGLE( ARROWHEAD|",
  "-HEADED (ARROW(| (LEFTWARDS OF DOWNWARDS TRIANGLE-HEADED ARROW|TO BAR|WITH (BOLD SHAFT|",
  "DOUBLE HORIZONTAL STROKE|HEAVY SHAFT|LONG TIP (LEFTWARDS|RIGHTWARDS)|MEDIUM SHAFT|",
  "NARROW SHAFT|VERY HEAVY SHAFT)))|DASHED ARROW|PAIRED ARROWS))|PLE ARROW)|WO( HEADED ARROW|",
  "-HEADED ARROW (FROM SMALL CIRCLE|WITH TRIANGLE ARROWHEADS)))|WHITE (ARROW(| (FROM BAR(|",
  " WITH HORIZONTAL BAR)|ON PEDESTAL(| WITH (HORIZONTAL BAR|VERTICAL BAR))|",
  "WITHIN TRIANGLE ARROWHEAD))|DOUBLE ARROW(| ON PEDESTAL))))|RANUS|S)"]

/-- Names that begin with V: what stands before brackets goes before each of the endings in them. -/
def namesInV : List String := [
  "V(A(I (COMMA|DIGIT (EIGHT|F(IVE|OUR)|NINE|ONE|S(EVEN|IX)|T(HREE|WO)|ZERO)|FULL STOP|",
  "QUESTION MARK|SY(LLABLE (A(|N)|B(A|E(|E)|H(A|E(|E)|I|O(|O)|U)|I|O(|O)|U)|C(A|E(|E)|I|O(|O)|U)|",
  "D(A|E(|E)|H(A|E(|E)|H(A|E(|E)|I|O(|O)|U)|I|O(|O)|U)|I|O(|O)|U)|E(|E(|N)|N)|F(A|E(|E)|I|O(|O)|",
  "U)|G(A|B(A|E(|E|N)|I|O(|N|O)|U)|E(|E|N)|I|O(|O)|U)|H(A(|N)|E(|E|N)|I(|N)|O(|N|O)|U(|N))|I(|N)|",
  "J(A|E(|E)|I|O(|O)|U)|K(A(|N)|E(|E)|I|O(|O)|P(A(|N)|E(|E|N)|I|O(|O)|U)|U)|L(A|E(|E|NGTHENER)|I|",
  "O(|O)|U)|M(A|B(A|E(|E)|I|O(|O)|U)|E(|E)|GB(A|E(|E)|I|O(|O)|U)|I|O(|O)|U)|N(A|D(A|E(|E)|I|O(|",
  "LE (DO|FA|KA|MA|SOO)|O)|U)|E(|E)|G(|AN|EN|G(A|E(|E|N)|I|O(|O)|U)|ON)|I|J(A|E(|E)|I|O(|O)|U)|O(",
  "|O)|U|Y(A|E(|E)|I|O(|O)|U))|O(|N|O(|N))|P(A|E(|E)|I|O(|O)|U)|R(A|E(|E)|I|O(|O)|U)|S(A|E(|E)|H(",
  "A|E(|E)|I|O(|O)|U)|I|O(|O)|U)|T(A|E(|E)|H(A|E(|E)|I|O(|O)|U)|I|O(|O)|U)|U(|N)|V(A|E(|E)|I|O(|",
  "O)|U)|W(A(|N)|E(|E(|N)|N)|I(|N)|O(|N|O(|N))|U(|N))|Y(A|E(|E)|I|O(|O)|U)|Z(A|E(|E)|H(A|E(|E)|I|",
  "O(|O)|U)|I|O(|O)|U))|MBOL (BANG|D(ANG|O(-O|ONG))|F(AA|EENG)|JONG|K(EENG|UNG)|NII|T(AA|ING|ONG)",
  ")))|MPIRE|RIATION SELECTOR-(1(|0(|0|1|2|3|4|5|6|7|8|9)|1(|0|1|2|3|4|5|6|7|8|9)|2(|0|1|2|3|4|5|",
  "6|7|8|9)|3(|0|1|2|3|4|5|6|7|8|9)|4(|0|1|2|3|4|5|6|7|8|9)|5(|0|1|2|3|4|5|6|7|8|9)|6(|0|1|2|3|4|",
  "5|6|7|8|9)|7(|0|1|2|3|4|5|6|7|8|9)|8(|0|1|2|3|4|5|6|7|8|9)|9(|0|1|2|3|4|5|6|7|8|9))|2(|0(|0|1|",
  "2|3|4|5|6|7|8|9)|1(|0|1|2|3|4|5|6|7|8|9)|2(|0|1|2|3|4|5|6|7|8|9)|3(|0|1|2|3|4|5|6|7|8|9)|4(|0|",
  "1|2|3|4|5|6|7|8|9)|5(|0|1|2|3|4|5|6)|6|7|8|9)|3(|0|1|2|3|4|5|6|7|8|9)|4(|0|1|2|3|4|5|6|7|8|9)|",
  "5(|0|1|2|3|4|5|6|7|8|9)|6(|0|1|2|3|4|5|6|7|8|9)|7(|0|1|2|3|4|5|6|7|8|9)|8(|0|1|2|3|4|5|6|7|8|",
  "9)|9(|0|1|2|3|4|5|6|7|8|9)))|E(CTOR OR CROSS PRODUCT|DIC (SIGN (A(NUSVARA (ANTARGOMUKHA|",
  "BAHIRGOMUKHA|UBHAYATO MUKHA|VAMAGOMUKHA(| WITH TAIL))|RDHAVISARGA|TIKRAMA)|",
  "DOUBLE ANUSVARA ANTARGOMUKHA|HEXIFORM LONG ANUSVARA|JIHVAMULIYA|LONG ANUSVARA|NIHSHVASA|R(",
  "EVERSED VISARGA (ANUDATTA|UDATTA)|OTATED ARDHAVISARGA|THANG LONG ANUSVARA)|TIRYAK|UPADHMANIYA|",
  "VISARGA (ANUDATTA(| WITH TAIL)|SVARITA|UDATTA(| WITH TAIL))|YAJURVEDIC MIDLINE SVARITA)|TONE (",
  "ATHARVAVEDIC INDEPENDENT SVARITA|CANDRA (ABOVE|BELOW)|DO(T BELOW|UBLE (RING ABOVE|SVARITA))|",
  "KA(RSHANA|THAKA ANUDATTA)|PRENKHA|RI(GVEDIC KASHMIRI INDEPENDENT SVARITA|NG ABOVE)|SHARA|T(",
  "HREE DOTS BELOW|RIPLE SVARITA|WO DOTS BELOW)|YAJURVEDIC (AGGRAVATED INDEPENDENT SVARITA|",
  "INDEPENDENT SVARITA|KATHAKA INDEPENDENT SVARITA(| SCHROEDER))))|R(SICLE|TICAL (BAR (",
  "BESIDE RIGHT TRIANGLE|DOUBLE LEFT TURNSTILE|TRIPLE RIGHT TURNSTILE|WITH HORIZONTAL STROKE)|",
  "ELLIPSIS|FOUR DOTS|IDEOGRAPHIC ITERATION MARK|KANA REPEAT (MARK(| (LOWER HALF|UPPER HALF))|",
  "WITH VOICED SOUND MARK(| UPPER HALF))|LINE(| (EXTENSION|WITH (CIRCLE (ABOVE|BELOW)|MIDDLE DOT)",
  "))|MALE WITH STROKE SIGN|ONE EIGHTH BLOCK-(2|3|4|5|6|7)|SIX DOTS|T(AB( KEY|ULATION(| SET))|",
  "ILDE|RAFFIC LIGHT)|ZIGZAG LINE)|Y (BOLD GREEK CROSS|HEAVY (EIGHT (POINTED BLACK STAR|",
  "SPOKED ASTERISK)|FIVE SPOKED ASTERISK|GREEK CROSS|REVERSE SOLIDUS|S(ALTIRE|IX SPOKED ASTERISK|",
  "OLIDUS)|WHITE (CIRCLE|SQUARE))|MUCH (GREATER-THAN|LESS-THAN)))|STA)|I(BRATION MODE|CTORY HAND|",
  "DEO( (CAMERA|GAME)|CASSETTE)|E(TNAMESE ALTERNATE READING MARK (CA|NHAY)|WDATA SQUARE)|OLIN|",
  "RGO|THKUQI (CAPITAL LETTER (A|B(BE|E)|C(E|HE)|D(E|HE)|E(|I)|FE|GA|H(A|HA)|I(|JE)|JE|KA|L(A|LA)",
  "|ME|N(E|JE)|O|PE|QA|RE|S(E|HE)|T(E|HE)|U|VE|XE|Y|ZE)|SMALL LETTER (A|B(BE|E)|C(E|HE)|D(E|HE)|",
  "E(|I)|FE|GA|H(A|HA)|I(|JE)|JE|KA|L(A|LA)|ME|N(E|JE)|O|PE|QA|RE|S(E|HE)|T(E|HE)|U|VE|XE|Y|ZE)))",
  "|O(IDED GREEK CROSS|L(CANO|LEYBALL|UME INTEGRAL))|S(1(|0(|0|1|2|3|4|5|6|7|8|9)|1(|0|1|2|3|4|5|",
  "6|7|8|9)|2(|0|1|2|3|4|5|6|7|8|9)|3(|0|1|2|3|4|5|6|7|8|9)|4(|0|1|2|3|4|5|6|7|8|9)|5(|0|1|2|3|4|",
  "5|6|7|8|9)|6(|0|1|2|3|4|5|6|7|8|9)|7(|0|1|2|3|4|5|6|7|8|9)|8(|0|1|2|3|4|5|6|7|8|9)|9(|0|1|2|3|",
  "4|5|6|7|8|9))|2(|0(|0|1|2|3|4|5|6|7|8|9)|1(|0|1|2|3|4|5|6|7|8|9)|2(|0|1|2|3|4|5|6|7|8|9)|3(|0|",
  "1|2|3|4|5|6|7|8|9)|4(|0|1|2|3|4|5|6|7|8|9)|5(|0|1|2|3|4|5|6)|6|7|8|9)|3(|0|1|2|3|4|5|6|7|8|9)|",
  "4(|0|1|2|3|4|5|6|7|8|9)|5(|0|1|2|3|4|5|6|7|8|9)|6(|0|1|2|3|4|5|6|7|8|9)|7(|0|1|2|3|4|5|6|7|8|",
  "9)|8(|0|1|2|3|4|5|6|7|8|9)|9(|0|1|2|3|4|5|6|7|8|9))|T(|S)|UL(CANUS|GAR FRACTION (F(IVE (",
  "EIGHTHS|SIXTHS)|OUR FIFTHS)|ONE (EIGHTH|FIFTH|HALF|NINTH|QUARTER|S(EVENTH|IXTH)|T(ENTH|HIRD))|",
  "SEVEN EIGHTHS|T(HREE (EIGHTHS|FIFTHS|QUARTERS)|WO (FIFTHS|THIRDS))|ZERO THIRDS)))"]

/-- Names that begin with W: what stands before brackets goes before each of the endings in them. -/
def namesInW : List String := [
  "W(A(FFLE|N(CHO (DIGIT (EIGHT|F(IVE|OUR)|NINE|ONE|S(EVEN|IX)|T(HREE|WO)|ZERO)|LETTER (A(|A(|N(|",
  "G))|NG|U)|BA|CA|DA|E(|N)|FA|GA|HA|I(|NG)|JA|K(A|HA)|L(A|LHA)|MA|N(A|GA|YA)|O(|N(|G))|P(A|HA)|",
  "RA|S(A|HA)|T(A|HA|RA|SA)|U(|EN)|VA|WA|Y(A|IH)|ZA)|NGUN SIGN|TONE (KOI(|NI)|TUP(|NI)))|ING (",
  "CRESCENT MOON SYMBOL|GIBBOUS MOON SYMBOL))|R(ANG CITI (CAPITAL LETTER (A(|M|NG|T)|BU|DA|E(|N(",
  "N|Y))|GA|H(AR|IYO|O(LO|RR))|II|KO|N(GAA|UNG)|O(|DD)|PU|S(II|SUU)|TTE|U(C|U)|VIYO|WI|Y(A|O|U(|",
  "J)))|DIGIT (EIGHT|F(IVE|OUR)|NINE|ONE|S(EVEN|IX)|T(HREE|WO)|ZERO)|NUMBER (EIGHTY|F(IFTY|ORTY)|",
  "NINETY|S(EVENTY|IXTY)|T(EN|HIRTY|WENTY))|OM|SMALL LETTER (A(|M|NG|T)|BU|DA|E(|N(N|Y))|GA|H(AR|",
  "IYO|O(LO|RR))|II|KO|N(GAA|UNG)|O(|DD)|PU|S(II|SUU)|TTE|U(C|U)|VIYO|WI|Y(A|O|U(|J))))|",
  "NING SIGN)|STEBASKET|T(CH|ER( (BUFFALO|CLOSET|POLO|WAVE)|MELON))|V(E (ARROW POINTING DIRECTLY ",
  "(LEFT|RIGHT)|DASH)|ING (BLACK FLAG|HAND SIGN|WHITE FLAG)|Y (DASH|L(INE|OW LINE)|OVERLINE))|",
  "XING (CRESCENT MOON SYMBOL|GIBBOUS MOON SYMBOL))|E(ARY (CAT FACE|FACE)|D(DING|",
  "GE-TAILED RIGHTWARDS ARROW)|I(ERSTRASS ELLIPTIC FUNCTION|GHT LIFTER)|ST SYRIAC CROSS)|H(ALE|",
  "EEL(| OF DHARMA|CHAIR SYMBOL)|ITE( (ARROW SHAFT WIDTH (ONE|TWO THIRDS)|BULLET|C(HESS (BISHOP(|",
  " ROTATED (NINETY DEGREES|TWO HUNDRED SEVENTY DEGREES))|EQUIHOPPER(| ROTATED NINETY DEGREES)|K(",
  "ING(| ROTATED (NINETY DEGREES|TWO HUNDRED SEVENTY DEGREES))|NIGHT(| ROTATED (",
  "FORTY-FIVE DEGREES|NINETY DEGREES|ONE HUNDRED THIRTY-FIVE DEGREES|T(HREE HUNDRED FIFTEEN DEGRE",
  "ES|WO HUNDRED (SEVENTY DEGREES|TWENTY-FIVE DEGREES)))|-(BISHOP|QUEEN|ROOK)))|PAWN(| ROTATED (",
  "NINETY DEGREES|TWO HUNDRED SEVENTY DEGREES))|QUEEN(| ROTATED (NINETY DEGREES|",
  "TWO HUNDRED SEVENTY DEGREES))|ROOK(| ROTATED (NINETY DEGREES|TWO HUNDRED SEVENTY DEGREES))|",
  "TURNED (BISHOP|K(ING|NIGHT)|PAWN|QUEEN|ROOK))|IRCLE(| (CONTAINING BLACK SMALL CIRCLE|WITH (DO(",
  "T RIGHT|WN ARROW)|LOWER (LEFT QUADRANT|RIGHT QUADRANT)|TWO DOTS|UPPER (LEFT QUADRANT|",
  "RIGHT QUADRANT))))|LUB SUIT|ONCAVE-SIDED DIAMOND(| WITH (LEFTWARDS TICK|RIGHTWARDS TICK)))|D(",
  "IAMOND(| (CONTAINING BLACK (MEDIUM DIAMOND|SMALL DIAMOND|VERY SMALL DIAMOND)|IN SQUARE|SUIT|",
  "WITH CENTRED DOT))|OWN( POINTING (BACKHAND INDEX|INDEX|LEFT HAND INDEX)|-POINTING (",
  "SMALL TRIANGLE|TRIANGLE))|RAUGHTS (KING|MAN))|EXCLAMATION MARK ORNAMENT|F(L(AG(|",
  " WITH HORIZONTAL MIDDLE BLACK STRIPE)|O(RETTE|WER))|OUR POINTED (CUSP|STAR)|ROWNING FACE)|H(",
  "ARD SHELL FLOPPY DISK|E(A(RT(| SUIT)|VY (CHECK MARK|SALTIRE WITH ROUNDED CORNERS))|XAGON)|O(",
  "RIZONTAL ELLIPSE|URGLASS))|L(A(RGE SQUARE|TIN CROSS)|EFT( (LANE MERGE|POINTING (",
  "BACKHAND INDEX|INDEX))|-POINTING (POINTER|SMALL TRIANGLE|TRIANGLE))|OZENGE CONTAINING BLACK SM",
  "ALL LOZENGE)|M(EDIUM (DIAMOND|LOZENGE|S(MALL SQUARE|QUARE|TAR))|OON SELENA)|NIB|P(",
  "ARALLELOGRAM|EN(NANT|TAGON))|QUESTION MARK ORNAMENT|R(ECTANGLE|IGHT( POINTING (BACKHAND INDEX|",
  "INDEX)|-POINTING (P(ENTAGON|OINTER)|SMALL TRIANGLE|TRIANGLE)))|S(CISSORS|ESAME DOT|HOGI PIECE|",
  "M(ALL (LOZENGE|S(QUARE|TAR))|ILING FACE)|PADE SUIT|QUARE(| (BUTTON|CONTAINING BLACK (",
  "MEDIUM SQUARE|SMALL SQUARE|VERY SMALL SQUARE)|WITH (CENTRE VERTICAL LINE|L(EFTWARDS TICK|",
  "OWER (LEFT QUADRANT|RIGHT QUADRANT))|R(IGHTWARDS TICK|OUNDED CORNERS)|UPPER (LEFT QUADRANT|",
  "RIGHT QUADRANT)|VERTICAL BISECTING LINE)))|TAR|UN(| (BEHIND CLOUD(| WITH RAIN)|WITH (RAYS|",
  "SMALL CLOUD))))|T(ELEPHONE|OUCHTONE TELEPHONE|R(APEZIUM|IANGLE CONTAINING SMALL WHITE TRIANGLE",
  ")|WO-WAY LEFT WAY TRAFFIC)|UP( POINTING (BACKHAND INDEX|INDEX)|-POINTING (CHEVRON|",
  "SMALL TRIANGLE|TRIANGLE(| WITH DOT)))|VER(TICAL (BAR|ELLIPSE|RECTANGLE)|Y SMALL SQUARE))|",
  "-FEATHERED RIGHTWARDS ARROW))|I(DE-HEADED (DOWNWARDS (BARB ARROW|HEAVY BARB ARROW|",
  "LIGHT BARB ARROW|MEDIUM BARB ARROW|VERY HEAVY BARB ARROW)|LEFTWARDS (BARB ARROW|",
  "HEAVY BARB ARROW|LIGHT BARB ARROW|MEDIUM BARB ARROW|VERY HEAVY BARB ARROW)|NORTH (EAST (",
  "BARB ARROW|HEAVY BARB ARROW|LIGHT BARB ARROW|MEDIUM BARB ARROW|VERY HEAVY BARB ARROW)|WEST (",
  "BARB ARROW|HEAVY BARB ARROW|LIGHT BARB ARROW|MEDIUM BARB ARROW|VERY HEAVY BARB ARROW))|",
  "RIGHTWARDS (BARB ARROW|HEAVY BARB ARROW|LIGHT BARB ARROW|MEDIUM BARB ARROW|",
  "VERY HEAVY BARB ARROW)|SOUTH (EAST (BARB ARROW|HEAVY BARB ARROW|LIGHT BARB ARROW|",
  "MEDIUM BARB ARROW|VERY HEAVY BARB ARROW)|WEST (BARB ARROW|HEAVY BARB ARROW|LIGHT BARB ARROW|",
  "MEDIUM BARB ARROW|VERY HEAVY BARB ARROW))|UPWARDS (BARB ARROW|HEAVY BARB ARROW|",
  "LIGHT BARB ARROW|MEDIUM BARB ARROW|VERY HEAVY BARB ARROW))|GGLY VERTICAL LINE|LTED FLOWER|N(D(",
  " (BLOWING FACE|CHIME)|OW)|E GLASS|KING FACE)|RED KEYBOARD)|J|O(LF FACE|M(AN(| WITH BUNNY EARS|",
  "S (BOOTS|CLOTHES|HAT|SANDAL))|ENS SYMBOL)|N SIGN|OD|R(D (JOINER|SEPARATOR MIDDLE DOT)|LD MAP|",
  "M|RIED FACE))|R(APPED PRESENT|E(ATH PRODUCT|NCH|STLERS)|ITING HAND))"]

/-- Names that begin with X: what stands before brackets goes before each of the endings in them. -/
def namesInX : List String := [
  "X( IN A RECTANGLE BOX|-RAY|IANGQI (BLACK (C(ANNON|HARIOT)|ELEPHANT|GENERAL|HORSE|MANDARIN|",
  "SOLDIER)|RED (C(ANNON|HARIOT)|ELEPHANT|GENERAL|HORSE|MANDARIN|SOLDIER))|OR)"]

/-- Names that begin with Y: what stands before brackets goes before each of the endings in them. -/
def namesInY : List String := [
  "Y(AWNING FACE|E(LLOW HEART|N SIGN|ZIDI (COMBINING (HAMZA MARK|MADDA MARK)|HYPHENATION MARK|",
  "LETTER (BE|C(H(HIM|IM)|IM)|DA(D|L)|E(LIF|T|W|YN)|FA|GAF|H(AY|HA)|JA|K(AF|HAF)|LAM(|",
  " WITH DOT ABOVE)|MIM|NUN|OW|P(E|HE)|QAF|R(A|HA)|S(AD|E|HIN|IN)|T(A|HE)|UM|VA(| ALTERNATE FORM)",
  "|WAW|X(A|HEYN)|YOT(| WITH CIRCUMFLEX ABOVE)|Z(A(|L)|E))))|I( (RADICAL (B(BUT|UR)|C(HE|IP|UOP|",
  "Y(|P|T))|D(DUR|U)|G(A|EP|G(OP|UO)|OT)|H(MO|X(IT|OP|UO))|J(J(IE|UT|Y)|O)|K(E|IT)|L(I(|E)|YR)|M(",
  "I|OP)|N(BIE|Y(IP|OP)|ZUP)|OP|P(UT|YT)|QOT|S(H(AT|OP|UR|Y)|SI)|T(AT|U)|V(EP|UR)|WO|Y(IT|O)|Z(A|",
  "OT|U(P|R)|ZIET))|SYLLABLE (A(|P|T|X)|B(A(|P|T|X)|B(A(|P|T|X)|E(|P|X)|I(|E(|P|T|X)|P|T|X)|O(|P|",
  "T|X)|U(|O(|P|X)|P|R(|X)|T|X)|Y(|P|T|X))|E(|P|X)|I(|E(|P|T|X)|P|T|X)|O(|P|T|X)|U(|O(|P|X)|P|R(|",
  "X)|T|X)|Y(|P|R(|X)|T|X))|C(A(|P|T|X)|E(|P|X)|H(A(|P|T|X)|E(|P|T|X)|O(|P|T|X)|U(|O(|P|T|X)|P|R(",
  "|X)|X)|Y(|P|R(|X)|T|X))|I(|E(|P|T|X)|P|T|X)|O(|P|T|X)|U(|O(|P|X)|P|R(|X)|T|X)|Y(|P|R(|X)|T|X))",
  "|D(A(|P|T|X)|D(A(|P|T|X)|E(|P|X)|I(|E(|P|X)|P|T|X)|O(|P|T|X)|U(|O(|P|X)|P|R(|X)|T|X))|E(|P|X)|",
  "I(|E(|P|X)|P|T|X)|O(|P|T|X)|U(|O(|X)|P|R(|X)|T|X))|E(|X)|F(A(|P|T|X)|I(|P|T|X)|O(|P|X)|U(|P|R(",
  "|X)|T|X)|Y(|P|T|X))|G(A(|P|T|X)|E(|P|T|X)|G(A(|P|T|X)|E(|P|T|X)|I(|E(|P|X)|T|X)|O(|P|T|X)|U(|",
  "O(|P|T|X)|P|R(|X)|T|X))|I(|E(|P|T|X)|P|T|X)|O(|P|T|X)|U(|O(|P|T|X)|P|R(|X)|T|X))|H(A(|P|T|X)|",
  "E(|P|X)|I(E(|X)|T)|L(A(|P|T|X)|E(|P|X)|I(|E(|P|X)|P|T|X)|O(|P|X)|U(|O(|P|X)|P|R(|X)|T|X)|Y(|P|",
  "R(|X)|T|X))|M(A(|P|T|X)|I(|E(|P|X)|P|T|X)|O(|P|T|X)|U(|O(|P|X)|P|R(|X)|T|X)|Y(|P|R(|X)|X))|N(",
  "A(|P|T|X)|E(|P|X)|I(|E(|P|T|X)|P|T|X)|O(P|T|X)|U(O(|X)|T))|O(|P|T|X)|UO(|P|T|X)|X(A(|P|T|X)|E(",
  "|P|X)|I(|E(|P|T|X)|P|T|X)|O(|P|T|X)|UO(|P|T|X)))|I(|E(|P|T|X)|P|T(|ERATION MARK)|X)|J(I(|E(|P|",
  "T|X)|P|T|X)|J(I(|E(|P|T|X)|P|T|X)|O(|P|T|X)|U(|O(|P|X)|P|R(|X)|T|X)|Y(|P|T|X))|O(|P|T|X)|U(|O(",
  "|P|T|X)|P|R(|X)|T|X)|Y(|P|R(|X)|T|X))|K(A(|P|T|X)|E(|P|T|X)|I(|E(|P|X)|P|T|X)|O(|P|T|X)|U(|O(|",
  "P|X)|P|R(|X)|T|X))|L(A(|P|T|X)|E(|P|X)|I(|E(|P|T|X)|P|T|X)|O(|P|T|X)|U(|O(|P|T|X)|P|R(|X)|T|X)",
  "|Y(|P|R(|X)|T|X))|M(A(|P|T|X)|E(|X)|G(A(|P|T|X)|E(|P|X)|IE(|X)|O(|P|T|X)|U(|O(|P|X)|P|R(|X)|T|",
  "X))|I(|E(|P|X)|P|T|X)|O(|P|T|X)|U(|O(|P|T|X)|P|R(|X)|T|X)|Y(|P|T|X))|N(A(|P|X)|B(A(|P|T|X)|I(|",
  "E(|P|X)|P|T|X)|O(|P|T|X)|U(|P|R(|X)|T|X)|Y(|P|R(|X)|T|X))|D(A(|P|T|X)|E(|P|X)|I(|E(|X)|P|T|X)|",
  "O(|P|T|X)|U(|P|R(|X)|T|X))|E(|P|X)|G(A(|P|T|X)|E(|P|X)|IE(|P|X)|O(|P|T|X)|UO(|T|X))|I(|E(|P|X)",
  "|P|T|X)|J(I(|E(|P|T|X)|P|T|X)|O(|P|T|X)|U(|O(|X)|P|R(|X)|X)|Y(|P|R(|X)|T|X))|O(|P|T|X)|R(A(|P|",
  "T|X)|E(|P|T|X)|O(|P|X)|U(|P|R(|X)|T|X)|Y(|P|R(|X)|T|X))|U(|O(|P|X)|P|R(|X)|T|X)|Y(I(|E(|P|T|X)",
  "|P|T|X)|O(|P|T|X)|U(|O(|P|X)|P|T|X))|Z(A(|P|T|X)|E(|X)|I(|E(|P|X)|P|T|X)|O(P|X)|U(|O(|X)|P|R(|",
  "X)|X)|Y(|P|R(|X)|T|X)))|O(|P|T|X)|P(A(|P|T|X)|I(|E(|P|X)|P|T|X)|O(|P|T|X)|U(|O(|P|X)|P|R(|X)|",
  "T|X)|Y(|P|R(|X)|T|X))|Q(I(|E(|P|T|X)|P|T|X)|O(|P|T|X)|U(|O(|P|T|X)|P|R(|X)|T|X)|Y(|P|R(|X)|T|",
  "X))|R(A(|P|T|X)|E(|P|X)|O(|P|T|X)|R(A(|X)|E(|P|T|X)|O(|P|T|X)|U(|O(|X)|P|R(|X)|T|X)|Y(|P|R(|X)",
  "|T|X))|U(|O(|P|X)|P|R(|X)|T|X)|Y(|P|R(|X)|T|X))|S(A(|P|T|X)|E(|P|X)|H(A(|P|T|X)|E(|P|T|X)|O(|",
  "P|T|X)|U(|O(|P|X)|P|R(|X)|T|X)|Y(|P|R(|X)|T|X))|I(|E(|P|X)|P|T|X)|O(|P|T|X)|S(A(|P|T|X)|E(|P|",
  "X)|I(|E(|P|X)|P|T|X)|O(|P|T|X)|U(|P|T|X)|Y(|P|R(|X)|T|X))|U(|O(|P|X)|P|R(|X)|T|X)|Y(|P|R(|X)|",
  "T|X))|T(A(|P|T|X)|E(|P|X)|I(|E(|P|X)|P|T|X)|O(|P|T|X)|U(|O(|P|T|X)|P|R(|X)|T|X))|UO(|P|X)|V(A(",
  "|P|T|X)|E(P|X)|I(|E(|P|T|X)|P|T|X)|O(|P|T|X)|U(|P|R(|X)|T|X)|Y(|P|R(|X)|T|X))|W(A(|P|T|X)|E(|",
  "P|X)|O(|P|X)|U(|O(|P|X)))|X(I(|E(|P|T|X)|P|T|X)|O(|P|T|X)|UO(|X)|Y(|P|R(|X)|T|X))|Y(I(|E(|P|T|",
  "X)|P|T|X)|O(|P|T|X)|U(|O(|P|T|X)|P|R(|X)|T|X)|Y(|P|R(|X)|T|X))|Z(A(|P|T|X)|E(|P|X)|H(A(|P|T|X)",
  "|E(|P|T|X)|O(|P|T|X)|U(|O(|P|X)|P|R(|X)|T|X)|Y(|P|R(|X)|T|X))|I(|E(|P|X)|P|T|X)|O(|P|T|X)|U(|",
  "O(|P|X)|P|R(|X)|T|X)|Y(|P|R(|X)|T|X)|Z(A(|P|T|X)|E(|P|X)|I(|E(|P|T|X)|P|T|X)|O(|P|X)|U(|P|R(|",
  "X)|X)|Y(|P|R(|X)|T|X)))))|N YANG)|O-YO)"]

/-- Names that begin with Z: what stands before brackets goes before each of the endings in them. -/
def namesInZ : List String := [
  "Z( NOTATION (BAG MEMBERSHIP|DOMAIN ANTIRESTRICTION|LEFT (BINDING BRACKET|IMAGE BRACKET)|R(",
  "ANGE ANTIRESTRICTION|ELATIONAL COMPOSITION|IGHT (BINDING BRACKET|IMAGE BRACKET))|S(CHEMA (",
  "COMPOSITION|P(IPING|ROJECTION))|POT)|TYPE COLON)|ANABAZAR SQUARE (CL(OSING (",
  "DOUBLE-LINED HEAD MARK|HEAD MARK)|USTER-(FINAL LETTER (LA|RA|VA|YA)|INITIAL LETTER RA))|",
  "FINAL CONSONANT MARK|INITIAL (DOUBLE-LINED HEAD MARK|HEAD MARK)|LETTER (-A|A|B(A|HA)|C(A|HA)|",
  "D(A|D(A|HA)|HA|Z(A|HA))|G(A|HA)|HA|JA|K(A|HA|SSA)|LA|MA|N(A|GA|NA|YA)|P(A|HA)|RA|S(A|HA|SA)|T(",
  "A|HA|S(A|HA)|T(A|HA))|VA|YA|Z(A|HA))|MARK (DOUBLE SHAD|LONG TSHEG|SHAD|TSHEG)|S(IGN (ANUSVARA|",
  "CANDRA( WITH ORNAMENT|BINDU(| WITH ORNAMENT))|VI(RAMA|SARGA))|UBJOINER)|VOWEL (LENGTH MARK|",
  "SIGN (A(I|U)|E|I|O(|E)|REVERSED I|U(|E))))|E(BRA FACE|RO WIDTH (JOINER|NO(-BREAK SPACE|",
  "N-JOINER)|SPACE)|US)|IPPER-MOUTH FACE|NAMENNY (COMBINING (ATTACHING VERTICAL OMET|",
  "LOWER TONAL RANGE INDICATOR|MARK (BORZAYA|C(HASHKA(| POLNAYA)|URVED OMET)|D(",
  "EMESTVENNY ZADERZHKA|VOETOCHIE)|GORAZDO (NIZKO (ON (LEFT|RIGHT)|S KRYZHEM ON (LEFT|RIGHT))|",
  "VYSOKO)|K(ACHKA|RYZH(| ON LEFT)|UPNAYA)|LOMKA|MALO POVYSHE (ON (LEFT|RIGHT)|S( K(HOKHLOM ON (",
  "LEFT|RIGHT)|RYZHEM)|TRANNO))|NIZKO (ON (LEFT|RIGHT)|S KRYZHEM ON (LEFT|RIGHT))|O(BLACHKO|N|",
  "TSECHKA)|PO(D(CHASHIE(| WITH VERTICAL STROKE)|VERTKA)|VYSHE (ON (LEFT|RIGHT)|S( K(HOKHLOM ON (",
  "LEFT|RIGHT)|RYZHEM)|TRANNO)))|RA(VNO|ZSEKA)|S(KOBA|OROCHYA NOZHKA|REDNE ON (LEFT|RIGHT)|",
  "TRANNO MALO POVYSHE)|T(IKHAYA|OCHKA|SATA (ON (LEFT|RIGHT)|S KRYZHEM))|UDARKA|VYSOKO (ON (LEFT|",
  "RIGHT)|S K(HOKHLOM ON (LEFT|RIGHT)|RYZHEM))|Z(ADERZHKA|E(LO|VOK)))|TONAL RANGE MARK (MRACHNO|",
  "SVETLO|TRESVETLO))|NEUME (CH(ASHKA|ELYUSTKA)|D(E(MESTVENNY KLYUCH|RBITSA)|OUBLE ZAPYATAYA|UDA|",
  "VA V CHELNU)|FITA|GOLUBCHIK (BORZY|MRACHNY|SVETLY|T(IKHY|RESVETLY))|K(HAMILO|LYUCH|OBYLA|RY(",
  "UK(| TIKHY)|ZH)|UFISMA)|MECHIK(| (KLYUCHE(NEPOSTOYANNY|POVODNY|VOY)|POVODNY))|NEMKA|O(BLAKO|",
  "SOKA(| (K(LYUCHEVAYA (NEPOSTOYANNAYA|SVETLAYA)|RYUKOVAYA SVETLAYA)|SVETLAYA|TRESVETLAYA)))|P(",
  "A(LKA|RAKLIT|UK)|EREVODKA(| NEPOSTOYANNAYA)|O(DCHASHIE|LKULIZMY))|R(EVERSED CHELYUSTKA|OG)|S(",
  "KAMEYTSA (DVOECHELNAYA (KLYUCHEVAYA|NEPOSTOYANNAYA|PROSTAYA|SVETLAYA)|KLYUCHE(NEPOSTOYANNAYA|",
  "VAYA (SVETLAYA|TIKHAYA))|MRACHNAYA|SVETLAYA|T(IKHAYA|RESVETLAYA))|LOZHITIE(| (S (KRYZHEM|",
  "ZAPYATOY)|ZAKRYTOE))|T(ATYA(| (NEPOSTOYANNAYA|S (DVUMYA ZAPYATYMI|KRYZHEM(| I ZAPYATOY)|ROGOM|",
  "ZAPYATOY(| I (KRYZHEM|PODCHASHIEM)))|ZAKRYTAYA(| S ZAPYATOY)))|OPITSA(| (S OCHKOM|",
  "WITH SOROCHYA NOZHKA))|RELA (DVOECHELN(AYA(| KLYUCHEVAYA)|O(KRYZHEVAYA|POVODNAYA(|",
  " KLYUCHEVAYA)))|GROM(NAYA(| WITH SINGLE ZAPYATAYA)|O(KRYZHEVAYA(| POVODNAYA)|POVODNAYA(|",
  " WITH (DOUBLE ZAPYATAYA|SINGLE ZAPYATAYA))))|K(LYUCHE(NEPOSTOYANNAYA|POVODNAYA)|RY(UKOVAYA(| (",
  "GROM(NAYA(| WITH SINGLE ZAPYATAYA)|O(KRYZHEVAYA(| POVODNAYA)|POVODNAYA(| WITH (",
  "DOUBLE ZAPYATAYA|SINGLE ZAPYATAYA))))|POVODNAYA|TRYASKA))|ZHEVAYA))|MRACHNOTIKHAYA|",
  "NEPOSTOYANNAYA|P(O(LUPOVODNAYA|VODNAYA)|ROSTAYA)|T(IKHAYA PUTNAYA|RYASO(GLASNAYA|POVODNAYA|",
  "STRELNAYA)))))|VRAKHIYA (KLYUCHEVAYA (MRACHNAYA|PROSTAYA|SVETLAYA|TRESVETLAYA)|MRACHNAYA|",
  "PROSTAYA|SVETLAYA|TRESVETLAYA)|Z(A(NOZHEK|PYATAYA)|MEYTSA))|PRIZNAK MODIFIER (DIRECTION FLIP|",
  "KRYZH|LEVEL-(2|3)|ROG))|OMBIE|W(J|N(BSP|J)|SP))"]

end LayerGraph.Text
