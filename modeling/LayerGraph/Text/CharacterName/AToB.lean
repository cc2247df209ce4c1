/-! Names of characters that begin with A to B. -/

set_option autoImplicit false

namespace LayerGraph.Text

/-- Names that begin with A: what stands before brackets goes before each of the endings in them. -/
def namesInA : List String := [
  "A(BACUS|C( CURRENT|CO(RDION|UNT OF)|K(|NOWLEDGE)|TIVATE (ARABIC FORM SHAPING|",
  "SYMMETRIC SWAPPING)|UTE A(CCENT|NGLE))|D(DRESSED TO THE SUBJECT|HESIVE BANDAGE|I SHAKTI|LAM (",
  "ALIF LENGTHENER|C(APITAL LETTER (ALIF|B(A|HE)|CHI|D(AALI|HA)|E|FA|G(A|BE)|HA|I|JIIM|K(AF|HA|",
  "PO)|LAAM|MIIM|N(HA|UN|YA)|O|PE|QAAF|RA|S(HA|INNYIIYHE)|TU|U|VA|WAW|Y(A|HE)|ZAL)|",
  "ONSONANT MODIFIER)|DIGIT (EIGHT|F(IVE|OUR)|NINE|ONE|S(EVEN|IX)|T(HREE|WO)|ZERO)|GEMINAT(",
  "E CONSONANT MODIFIER|ION MARK)|HAMZA|INITIAL (EXCLAMATION MARK|QUESTION MARK)|N(",
  "ASALIZATION MARK|UKTA)|SMALL LETTER (ALIF|B(A|HE)|CHI|D(AALI|HA)|E|FA|G(A|BE)|HA|I|JIIM|K(AF|",
  "HA|PO)|LAAM|MIIM|N(HA|UN|YA)|O|PE|QAAF|RA|S(HA|INNYIIYHE)|TU|U|VA|WAW|Y(A|HE)|ZAL)|",
  "VOWEL LENGTHENER)|M(ETOS|ISSION TICKETS)|ULT)|E(GEAN (CHECK MARK|DRY MEASURE FIRST SUBUNIT|",
  "LIQUID MEASURE FIRST SUBUNIT|MEASURE (SECOND SUBUNIT|THIRD SUBUNIT)|NUMBER (EIGHT(| (HUNDRED|",
  "THOUSAND)|Y(| THOUSAND))|F(I(FTY(| THOUSAND)|VE(| (HUNDRED|THOUSAND)))|O(RTY(| THOUSAND)|UR(|",
  " (HUNDRED|THOUSAND))))|NINE(| (HUNDRED|THOUSAND)|TY(| THOUSAND))|ONE(| (HUNDRED|THOUSAND))|S(",
  "EVEN(| (HUNDRED|THOUSAND)|TY(| THOUSAND))|IX(| (HUNDRED|THOUSAND)|TY(| THOUSAND)))|T(EN(|",
  " THOUSAND)|H(IRTY(| THOUSAND)|REE(| (HUNDRED|THOUSAND)))|W(ENTY(| THOUSAND)|O(| (HUNDRED|",
  "THOUSAND)))))|W(EIGHT (BASE UNIT|F(IRST SUBUNIT|OURTH SUBUNIT)|SECOND SUBUNIT|THIRD SUBUNIT)|",
  "ORD SEPARATOR (DOT|LINE)))|RIAL TRAMWAY)|FGHANI SIGN|HOM (CONSONANT SIGN MEDIAL (L(A|",
  "IGATING RA)|RA)|DIGIT (EIGHT|F(IVE|OUR)|NINE|ONE|S(EVEN|IX)|T(HREE|WO)|ZERO)|LETTER (A(|",
  "LTERNATE (BA|GA|TA))|B(A|HA)|C(A|HA)|D(A|D(A|HA)|HA)|G(A|HA)|HA|J(A|HA)|K(A|HA)|L(A|LA)|MA|N(",
  "A|GA|NA|YA)|P(A|HA)|RA|SA|T(A|HA|T(A|HA)))|NUMBER T(EN|WENTY)|S(IGN (KILLER|RULAI|S(ECTION|",
  "MALL SECTION))|YMBOL VI)|VOWEL SIGN (A(|A|I|M|W)|E|I(|I)|O|U(|U)))|IRPLANE(| (ARRIVING|",
  "DEPARTURE))|KTIESELSKAB|L(ARM CLOCK|CHEMICAL SYMBOL FOR (A(IR|L(EMBIC|KALI(|-2)|UM)|MALGAM|",
  "NTIMONY ORE|QUA( (REGIA(|-2)|VITAE(|-2))|FORTIS)|RSENIC|SHES|URIPIGMENT)|B(ATH OF (MARY|",
  "VAPOURS)|ISMUTH ORE|LACK SULFUR|ORAX(|-(2|3))|RICK)|C(A(DUCEUS|LX|PUT MORTUUM)|INNABAR|OPPER (",
  "ANTIMONIATE|ORE)|R(OCUS OF (COPPER(|-2)|IRON)|UCIBLE(|-(2|3|4|5))))|D(AY-NIGHT|IS(SOLVE(|-2)|",
  "TILL))|EARTH|FIRE|G(OLD|UM)|H(ALF (DRAM|OUNCE)|O(RSE DUNG|UR))|IRON( ORE(|-2)|-COPPER ORE)|L(",
  "EAD ORE|ODESTONE)|M(ARCASITE|ERCURY SUBLIMATE(|-(2|3))|ONTH)|NI(GHT|TRE)|OIL|P(",
  "HILOSOPHERS SULFUR|O(T ASHES|WDER(|ED BRICK))|RECIPITATE|U(RIFY|TREFACTION))|QUI(CK LIME|",
  "NTESSENCE)|R(E(ALGAR(|-2)|GULUS(| OF (ANTIMONY(|-2)|IRON)|-(2|3|4))|TORT)|OCK SALT(|-2))|S(AL(",
  "-AMMONIAC|T(| OF (ANTIMONY|COPPER ANTIMONIATE)))|CEPTER OF JOVE|ILVER|OAP|PIRIT|T(",
  "ARRED TRIDENT|RATUM SUPER STRATUM(|-2))|U(BLIMAT(E OF (ANTIMONY|COPPER|SALT OF (ANTIMONY|",
  "COPPER))|ION)|LFUR))|T(ARTAR(|-2)|IN( ORE|CTURE)|RIDENT|UTTY)|URINE|V(ERDIGRIS|I(NEGAR(|",
  " OF ANTIMONY|-(2|3))|TRIOL(|-2)))|WA(TER|X))|E(F SYMBOL|MBIC|RT)|IEN MONSTER|L (",
  "AROUND-PROFILE|EQUAL TO)|M(|OST EQUAL (OR EQUAL TO|TO(| WITH CIRCUMFLEX ACCENT)))|TERNAT(",
  "E ONE-WAY LEFT WAY TRAFFIC|IVE KEY SYMBOL))|M(ALGAMATION OR COPRODUCT|BULANCE|ERICAN FOOTBALL|",
  "P(ERSAND|HORA))|N(ATO(LIAN HIEROGLYPH A(0(0(1|2|3|4|5|6|7|8|9)|1(0(|A)|1|2|3|4|5|6|7|8|9)|2(0|",
  "1|2|3|4|5|6(|A)|7|8|9)|3(0|1|2|3|4|5|6|7|8|9(|A))|4(0|1(|A)|2|3|4|5(|A)|6(|A|B)|7|8|9)|5(0|1|",
  "2|3|4|5|6|7|8|9)|6(0|1|2|3|4|5|6(|A|B|C)|7|8|9)|7(0|1|2|3|4|5|6|7|8|9)|8(0|1|2|3|4|5|6|7|8|9)|",
  "9(0|1|2|3|4|5|6|7(|A)|8(|A)|9))|1(0(0(|A)|1(|A)|2(|A)|3|4(|A|B|C)|5(|A|B)|6|7(|A|B|C)|8|9)|1(",
  "0(|A|B)|1|2|3|4|5(|A)|6|7|8|9)|2(0|1|2|3|4|5(|A)|6|7|8|9)|3(0|1|2|3|4|5(|A)|6|7|8|9)|4(0|1|2|",
  "3|4|5|6|7|8|9)|5(0|1|2|3|4|5|6|7|8|9)|6(0|1|2|3|4|5|6|7|8|9)|7(0|1|2|3|4|5|6|7|8|9)|8(0|1|2|3|",
  "4|5|6|7|8|9)|9(0|1|2|3|4|5|6|7|8|9))|2(0(0|1|2(|A|B)|3|4|5|6|7(|A)|8|9(|A))|1(0|1|2|3|4|5(|A)|",
  "6(|A)|7|8|9)|2(0|1|2|3|4|5|6|7(|A)|8|9)|3(0|1|2|3|4|5|6|7|8|9)|4(0|1|2|3|4|5|6|7|8|9)|5(0|1|2|",
  "3|4|5|6|7|8|9)|6(0|1|2|3|4|5|6|7(|A)|8|9)|7(0|1|2|3|4|5|6|7|8|9)|8(0|1|2|3|4|5|6|7|8|9(|A))|9(",
  "0|1|2|3|4(|A)|5|6|7|8|9(|A)))|3(0(0|1|2|3|4|5|6|7|8|9(|A))|1(0|1|2|3|4|5|6|7|8|9)|2(0|1|2|3|4|",
  "5|6|7|8|9(|A))|3(0|1|2(A|B|C)|3|4|5|6(|A|B|C)|7|8|9)|4(0|1|2|3|4|5|6|7|8|9)|5(0|1|2|3|4|5|6|7|",
  "8|9(|A))|6(0|1|2|3|4(|A)|5|6|7|8(|A)|9)|7(0|1(|A)|2|3|4|5|6|7|8|9)|8(0|1(|A)|2|3( RA OR RI|A)|",
  "4|5|6(|A)|7|8|9)|9(0|1|2|3 EIGHT|4|5|6|7|8|9))|4(0(0|1|2|3|4|5|6|7|8|9)|1(0(",
  " BEGIN LOGOGRAM MARK|A END LOGOGRAM MARK)|1|2|3|4|5|6|7|8|9)|2(0|1|2|3|4|5|6|7|8|9)|3(0|1|2|3|",
  "4|5|6|7|8|9)|4(0|1|2|3|4|5|6|7|8|9)|5(0(|A)|1|2|3|4|5|6|7(|A)|8|9)|6(0|1|2|3|4|5|6|7|8|9)|7(0|",
  "1|2|3|4|5|6|7|8|9)|8(0|1|2|3|4|5|6|7|8|9)|9(0|1|2|3|4|5|6|7))|5(0(1|2|3|4|5|6|7|8|9)|1(0|1|2|",
  "3|4|5|6|7|8|9)|2(0|1|2|3|4|5|6|7|8|9)|30))|MICAL HEART)|CHOR|D WITH DOT|G(ER SYMBOL|LE(|",
  " WITH (S INSIDE|UNDERBAR))|RY FACE|STROM SIGN|UISHED FACE)|KH|T(|ENNA WITH BARS|ICLOCKWISE (C(",
  "LOSED CIRCLE ARROW|ONTOUR INTEGRAL)|DOWNWARDS AND UPWARDS OPEN CIRCLE ARROWS|",
  "GAPPED CIRCLE ARROW|INTEGRATION|OPEN CIRCLE ARROW|T(OP SEMICIRCLE ARROW|RIANGLE-HEADED (",
  "BOTTOM U-SHAPED ARROW|LEFT U-SHAPED ARROW|OPEN CIRCLE ARROW|RIGHT U-SHAPED ARROW|",
  "TOP U-SHAPED ARROW)))))|P(C|L FUNCTIONAL SYMBOL (ALPHA(| UNDERBAR)|BACKSLASH BAR|C(IRCLE (",
  "BACKSLASH|DIAERESIS|JOT|ST(AR|ILE)|UNDERBAR)|OMMA BAR)|D(EL( (DIAERESIS|STILE|TILDE)|TA (",
  "STILE|UNDERBAR))|IAMOND UNDERBAR|OWN( (CARET TILDE|SHOE STILE|TACK (JOT|UNDERBAR))|WARDS VANE)",
  ")|EPSILON UNDERBAR|GREATER-THAN DIAERESIS|I(-BEAM|OTA(| UNDERBAR))|JOT (DIAERESIS|UNDERBAR)|",
  "LEFT( SHOE STILE|WARDS VANE)|OMEGA(| UNDERBAR)|QU(AD(| (BACKSLASH|C(IRCLE|OLON)|D(EL(|TA)|I(",
  "AMOND|VIDE)|OWN( CARET|WARDS ARROW))|EQUAL|GREATER-THAN|JOT|LE(FTWARDS ARROW|SS-THAN)|",
  "NOT EQUAL|QUESTION|RIGHTWARDS ARROW|SLASH|UP( CARET|WARDS ARROW)))|OTE (QUAD|UNDERBAR))|R(HO|",
  "IGHTWARDS VANE)|S(EMICOLON UNDERBAR|LASH BAR|QUISH QUAD|T(AR DIAERESIS|ILE TILDE))|",
  "TILDE DIAERESIS|UP( (CARET TILDE|SHOE JOT|TACK (DIAERESIS|JOT|OVERBAR))|WARDS VANE)|ZILDE)|O(",
  "LLON|STROPHE)|P(LICATION PROGRAM COMMAND|RO(ACHES THE LIMIT|XIMATELY (BUT NOT ACTUALLY EQUAL T",
  "O|EQUAL (OR EQUAL TO|TO(| OR THE IMAGE OF))))))|QUARIUS|R(ABIC( (BASELINE ROUND DOT|C(OMMA|",
  "URLY (DAMMA(|TAN)|FATHA(|TAN)|KASRA(|TAN)))|D(A(MMA(| (ISOLATED FORM|MEDIAL FORM|WITH DOT)|",
  "TAN(| ISOLATED FORM))|TE SEPARATOR)|ECIMAL SEPARATOR|ISPUTED END OF AYAH|OUBLE(",
  " RIGHT ARROWHEAD ABOVE(| WITH DOT)|D MADDA))|E(MPTY CENTRE (HIGH STOP|LOW STOP)|ND OF (AYAH|",
  "TEXT MARK))|F(ATHA(| (ISOLATED FORM|MEDIAL FORM|WITH (DOT ABOVE|RING|TWO DOTS))|TAN(|",
  " ISOLATED FORM))|IVE POINTED STAR|OOTNOTE MARKER|ULL STOP)|HA(LF MADDA OVER MADDA|MZA (ABOVE|",
  "BELOW))|INVERTED DAMMA|KASRA(| (ISOLATED FORM|MEDIAL FORM|WITH DOT BELOW)|TAN(| ISOLATED FORM)",
  ")|L(ARGE (CIRCLE BELOW|ROUND DOT (ABOVE|BELOW|INSIDE CIRCLE BELOW))|E(FT ARROWHEAD (ABOVE|",
  "BELOW)|TTER (A(E|FRICAN (FEH|NOON|QAF(| WITH THREE DOTS ABOVE))|IN(| (FINAL FORM|I(",
  "NITIAL FORM|SOLATED FORM)|MEDIAL FORM|WITH T(HREE DOTS (ABOVE|BELOW|POINTING DOWNWARDS ABOVE)|",
  "WO DOTS (ABOVE|VERTICALLY ABOVE))))|LEF(| (FINAL FORM|ISOLATED FORM|MAKSURA(| (FINAL FORM|",
  "ISOLATED FORM))|W(ASLA(| (FINAL FORM|ISOLATED FORM))|ITH (ATTACHED (BOTTOM RIGHT KASRA(| AND (",
  "DOT ABOVE|LEFT RING))|FATHA|KASRA|LEFT (HAMZA|ROUND DOT)|R(IGHT (HAMZA|ROUND DOT)|OUND DOT (",
  "ABOVE|BELOW))|TOP RIGHT FATHA(| AND (DOT ABOVE|LEFT RING)))|DOT ABOVE|EXTENDED ARABIC-INDIC DI",
  "GIT T(HREE ABOVE|WO ABOVE)|HAMZA (ABOVE(| (FINAL FORM|ISOLATED FORM))|BELOW(| (FINAL FORM|",
  "ISOLATED FORM)))|LEFT MIDDLE STROKE|MADDA ABOVE(| (FINAL FORM|ISOLATED FORM))|",
  "RIGHT MIDDLE STROKE(| AND (DOT ABOVE|LEFT RING))|WAVY HAMZA (ABOVE|BELOW))))))|BE(EH(| (",
  "FINAL FORM|I(NITIAL FORM|SOLATED FORM)|MEDIAL FORM))|H(| (FINAL FORM|I(NITIAL FORM|",
  "SOLATED FORM)|MEDIAL FORM|WITH (DOT BELOW AND THREE DOTS ABOVE|HAMZA ABOVE|",
  "INVERTED SMALL V BELOW|SMALL (MEEM ABOVE|V(| BELOW))|T(HREE DOTS (HORIZONTALLY BELOW|",
  "POINTING UPWARDS BELOW(| AND TWO DOTS ABOVE))|WO DOTS BELOW AND DOT ABOVE)))|EH(| (FINAL FORM|",
  "I(NITIAL FORM|SOLATED FORM)|MEDIAL FORM))))|D(A(D(| (FINAL FORM|I(NITIAL FORM|SOLATED FORM)|",
  "MEDIAL FORM|WITH DOT BELOW))|HAL(| (FINAL FORM|ISOLATED FORM))|L(| (FINAL FORM|ISOLATED FORM|",
  "WITH (DOT BELOW(| AND SMALL TAH)|FOUR DOTS ABOVE|INVERTED (SMALL V BELOW|V)|RING|T(HREE DOTS (",
  "ABOVE DOWNWARDS|BELOW)|WO DOTS VERTICALLY BELOW AND SMALL TAH)))))|DA(HAL(| (FINAL FORM|",
  "ISOLATED FORM))|L(| (FINAL FORM|ISOLATED FORM)))|OTLESS (BEH|FEH|QAF)|UL(| (FINAL FORM|",
  "ISOLATED FORM))|YEH(| (FINAL FORM|I(NITIAL FORM|SOLATED FORM)|MEDIAL FORM)))|E(| (FINAL FORM|",
  "I(NITIAL FORM|SOLATED FORM)|MEDIAL FORM))|F(ARSI YEH(| (FINAL FORM|I(NITIAL FORM|SOLATED FORM)",
  "|MEDIAL FORM|WITH (EXTENDED ARABIC-INDIC DIGIT (FOUR BELOW|T(HREE ABOVE|WO ABOVE))|INVERTED V|",
  "T(HREE DOTS ABOVE|WO DOTS ABOVE))))|EH(| (FINAL FORM|I(NITIAL FORM|SOLATED FORM)|MEDIAL FORM|",
  "WITH (DOT (BELOW(| AND THREE DOTS ABOVE)|MOVED BELOW)|T(HREE DOTS (BELOW|",
  "POINTING UPWARDS BELOW)|WO DOTS BELOW)))))|G(AF(| (FINAL FORM|I(NITIAL FORM|SOLATED FORM)|",
  "MEDIAL FORM|WITH (INVERTED STROKE|RING|T(HREE DOTS ABOVE|WO DOTS BELOW))))|HAIN(| (FINAL FORM|",
  "I(NITIAL FORM|SOLATED FORM)|MEDIAL FORM|WITH (DOT BELOW|THREE DOTS ABOVE)))|RAF|UEH(| (",
  "FINAL FORM|I(NITIAL FORM|SOLATED FORM)|MEDIAL FORM)))|H(A(H(| (FINAL FORM|I(NITIAL FORM|",
  "SOLATED FORM)|MEDIAL FORM|WITH (EXTENDED ARABIC-INDIC DIGIT FOUR BELOW|HAMZA ABOVE|",
  "INVERTED SMALL V BELOW|SMALL ARABIC LETTER TAH (A(BOVE|ND TWO DOTS)|BELOW)|T(HREE DOTS (ABOVE|",
  "POINTING UPWARDS BELOW)|WO DOTS (ABOVE|VERTICAL ABOVE)))))|MZA(| ISOLATED FORM))|EH(| (",
  "DOACHASHMEE(| (FINAL FORM|I(NITIAL FORM|SOLATED FORM)|MEDIAL FORM))|FINAL FORM|GOAL(| (",
  "FINAL FORM|I(NITIAL FORM|SOLATED FORM)|MEDIAL FORM|WITH HAMZA ABOVE))|I(NITIAL FORM|",
  "SOLATED FORM)|MEDIAL FORM|WITH (INVERTED V|YEH ABOVE(| (FINAL FORM|ISOLATED FORM)))))|",
  "IGH HAMZA(| (ALEF|WAW|YEH)))|JE(EM(| (FINAL FORM|I(NITIAL FORM|SOLATED FORM)|MEDIAL FORM|",
  "WITH T(HREE DOTS (ABOVE|BELOW)|WO DOTS ABOVE)))|H(| (FINAL FORM|ISOLATED FORM)))|K(A(F(| (",
  "FINAL FORM|I(NITIAL FORM|SOLATED FORM)|MEDIAL FORM|WITH (DOT (ABOVE|BELOW)|RING|T(",
  "HREE DOTS BELOW|WO DOTS ABOVE))))|SHMIRI YEH)|EHEH(| (FINAL FORM|I(NITIAL FORM|SOLATED FORM)|",
  "MEDIAL FORM|WITH (DOT ABOVE|SMALL V|T(HREE DOTS (ABOVE|BELOW|POINTING UPWARDS BELOW)|WO DOTS (",
  "ABOVE|VERTICALLY BELOW)))))|HAH(| (FINAL FORM|I(NITIAL FORM|SOLATED FORM)|MEDIAL FORM))|",
  "IRGHIZ (OE(| (FINAL FORM|ISOLATED FORM))|YU(| (FINAL FORM|ISOLATED FORM))))|L(AM(| (",
  "FINAL FORM|I(NITIAL FORM|SOLATED FORM)|MEDIAL FORM|WITH (BAR|DO(T ABOVE|UBLE BAR)|SMALL (",
  "ARABIC LETTER TAH ABOVE|V)|THREE DOTS (ABOVE|BELOW))))|OW ALEF)|M(ARK|EEM(| (FINAL FORM|I(",
  "NITIAL FORM|SOLATED FORM)|MEDIAL FORM|WITH (DOT (ABOVE|BELOW)|THREE DOTS ABOVE))))|N(G(| (",
  "FINAL FORM|I(NITIAL FORM|SOLATED FORM)|MEDIAL FORM)|OEH(| (FINAL FORM|I(NITIAL FORM|",
  "SOLATED FORM)|MEDIAL FORM)))|OON(| (FINAL FORM|GHUNNA(| (FINAL FORM|ISOLATED FORM))|I(",
  "NITIAL FORM|SOLATED FORM)|MEDIAL FORM|WITH (DOT BELOW|INVERTED SMALL V|RING|SMALL (TAH|V)|T(",
  "HREE DOTS ABOVE|WO DOTS BELOW))))|YEH(| (FINAL FORM|I(NITIAL FORM|SOLATED FORM)|MEDIAL FORM)))",
  "|OE(| (FINAL FORM|ISOLATED FORM))|PEH(| (FINAL FORM|I(NITIAL FORM|SOLATED FORM)|MEDIAL FORM|",
  "WITH SMALL (MEEM ABOVE|V))|EH(| (FINAL FORM|I(NITIAL FORM|SOLATED FORM)|MEDIAL FORM)))|QAF(| (",
  "FINAL FORM|I(NITIAL FORM|SOLATED FORM)|MEDIAL FORM|WITH (DOT (ABOVE|BELOW(| AND NO DOTS ABOVE)",
  ")|THREE DOTS ABOVE)))|R(EH(| (FINAL FORM|ISOLATED FORM|WITH (DOT BELOW(| AND DOT ABOVE)|",
  "FOUR DOTS ABOVE|HAMZA ABOVE|INVERTED V|LOOP|RING|S(MALL (ARABIC LETTER TAH AND TWO DOTS|",
  "NOON ABOVE|V(| BELOW))|TROKE)|TWO DOTS (ABOVE|VERTICALLY ABOVE))))|NOON(| (FINAL FORM|I(",
  "NITIAL FORM|SOLATED FORM)|MEDIAL FORM))|OHINGYA YEH|REH(| (FINAL FORM|ISOLATED FORM)))|S(AD(|",
  " (FINAL FORM|I(NITIAL FORM|SOLATED FORM)|MEDIAL FORM|WITH T(HREE DOTS (ABOVE|BELOW)|",
  "WO DOTS BELOW)))|EEN(| (FINAL FORM|I(NITIAL FORM|SOLATED FORM)|MEDIAL FORM|WITH (",
  "DOT BELOW AND DOT ABOVE|EXTENDED ARABIC-INDIC DIGIT FOUR ABOVE|FOUR DOTS ABOVE|INVERTED V|",
  "SMALL ARABIC LETTER TAH AND TWO DOTS|T(HREE DOTS BELOW(| AND THREE DOTS ABOVE)|",
  "WO DOTS VERTICALLY ABOVE))))|HEEN(| (FINAL FORM|I(NITIAL FORM|SOLATED FORM)|MEDIAL FORM|",
  "WITH DOT BELOW))|TRAIGHT WAW|UPERSCRIPT ALEF|WASH KAF)|T(AH(| (FINAL FORM|I(NITIAL FORM|",
  "SOLATED FORM)|MEDIAL FORM|WITH (DOT BELOW|T(HREE DOTS (ABOVE|BELOW)|WO DOTS ABOVE))))|CHEH(| (",
  "FINAL FORM|I(NITIAL FORM|SOLATED FORM)|MEDIAL FORM|WITH (DOT ABOVE|SMALL V))|EH(| (FINAL FORM|",
  "I(NITIAL FORM|SOLATED FORM)|MEDIAL FORM)))|EH(| (FINAL FORM|I(NITIAL FORM|SOLATED FORM)|M(",
  "ARBUTA(| (FINAL FORM|GOAL|ISOLATED FORM))|EDIAL FORM)|WITH (RING|SMALL (TEH ABOVE|V)|",
  "THREE DOTS ABOVE DOWNWARDS))|EH(| (FINAL FORM|I(NITIAL FORM|SOLATED FORM)|MEDIAL FORM)))|H(AL(",
  "| (FINAL FORM|ISOLATED FORM))|EH(| (FINAL FORM|I(NITIAL FORM|SOLATED FORM)|MEDIAL FORM))|",
  "IN YEH)|TEH(| (FINAL FORM|I(NITIAL FORM|SOLATED FORM)|MEDIAL FORM|WITH SMALL V)|EH(| (",
  "FINAL FORM|I(NITIAL FORM|SOLATED FORM)|MEDIAL FORM))))|U(| (FINAL FORM|ISOLATED FORM|",
  "WITH HAMZA ABOVE(| ISOLATED FORM))|IGHUR KAZAKH KIRGHIZ ALEF MAKSURA (INITIAL FORM|",
  "MEDIAL FORM))|VE(| (FINAL FORM|ISOLATED FORM)|H(| (FINAL FORM|I(NITIAL FORM|SOLATED FORM)|",
  "MEDIAL FORM)))|WAW(| (FINAL FORM|ISOLATED FORM|WITH (DOT (ABOVE|WITHIN)|",
  "EXTENDED ARABIC-INDIC DIGIT T(HREE ABOVE|WO ABOVE)|HAMZA ABOVE(| (FINAL FORM|ISOLATED FORM))|",
  "RING|TWO DOTS ABOVE)))|Y(EH(| (BARREE(| (FINAL FORM|ISOLATED FORM|WITH (",
  "EXTENDED ARABIC-INDIC DIGIT T(HREE ABOVE|WO ABOVE)|HAMZA ABOVE(| (FINAL FORM|ISOLATED FORM))))",
  ")|FINAL FORM|I(NITIAL FORM|SOLATED FORM)|MEDIAL FORM|WITH (HAMZA ABOVE(| (FINAL FORM|I(",
  "NITIAL FORM|SOLATED FORM)|MEDIAL FORM))|SMALL V|T(AIL|HREE DOTS BELOW|WO DOTS BELOW AND (",
  "DOT ABOVE|HAMZA ABOVE|SMALL NOON ABOVE)))))|U(| (FINAL FORM|ISOLATED FORM)))|ZA(H(| (",
  "FINAL FORM|I(NITIAL FORM|SOLATED FORM)|MEDIAL FORM))|IN(| (FINAL FORM|ISOLATED FORM|",
  "WITH INVERTED V ABOVE)))))|IGATURE (A(IN WITH (ALEF MAKSURA (FINAL FORM|ISOLATED FORM)|JEEM (",
  "I(NITIAL FORM|SOLATED FORM)|WITH MEEM (FINAL FORM|INITIAL FORM))|MEEM (I(NITIAL FORM|",
  "SOLATED FORM)|WITH (ALEF MAKSURA FINAL FORM|MEEM (FINAL FORM|INITIAL FORM)|YEH FINAL FORM))|",
  "YEH (FINAL FORM|ISOLATED FORM))|KBAR ISOLATED FORM|L(AYH(AA AS-SALAAM|E ISOLATED FORM|I(",
  " AS-SALAA(M|TU WAS-SALAAM)|M( AS-SALAAM|AA AS-SALAAM)))|EF (MAKSURA WITH SUPERSCRIPT ALEF (",
  "FINAL FORM|ISOLATED FORM)|WITH FATHATAN (FINAL FORM|ISOLATED FORM))|LAH ISOLATED FORM)|",
  "ZZA WA JALL)|B(EH WITH (ALEF MAKSURA (FINAL FORM|ISOLATED FORM)|H(AH (I(NITIAL FORM|",
  "SOLATED FORM)|WITH YEH FINAL FORM)|EH (INITIAL FORM|MEDIAL FORM))|JEEM I(NITIAL FORM|",
  "SOLATED FORM)|KHAH (I(NITIAL FORM|SOLATED FORM)|WITH YEH FINAL FORM)|MEEM (FINAL FORM|I(",
  "NITIAL FORM|SOLATED FORM)|MEDIAL FORM)|NOON FINAL FORM|REH FINAL FORM|YEH (FINAL FORM|",
  "ISOLATED FORM)|ZAIN FINAL FORM)|ISMILLAH AR-RAHMAN AR-RAHEEM)|DAD WITH (ALEF MAKSURA (",
  "FINAL FORM|ISOLATED FORM)|HAH (I(NITIAL FORM|SOLATED FORM)|WITH (ALEF MAKSURA FINAL FORM|",
  "YEH FINAL FORM))|JEEM I(NITIAL FORM|SOLATED FORM)|KHAH (I(NITIAL FORM|SOLATED FORM)|",
  "WITH MEEM (FINAL FORM|INITIAL FORM))|MEEM I(NITIAL FORM|SOLATED FORM)|REH (FINAL FORM|",
  "ISOLATED FORM)|YEH (FINAL FORM|ISOLATED FORM))|FEH WITH (ALEF MAKSURA (FINAL FORM|",
  "ISOLATED FORM)|HAH I(NITIAL FORM|SOLATED FORM)|JEEM I(NITIAL FORM|SOLATED FORM)|KHAH (I(",
  "NITIAL FORM|SOLATED FORM)|WITH MEEM (FINAL FORM|INITIAL FORM))|MEEM (I(NITIAL FORM|",
  "SOLATED FORM)|WITH YEH FINAL FORM)|YEH (FINAL FORM|ISOLATED FORM))|GHAIN WITH (ALEF MAKSURA (",
  "FINAL FORM|ISOLATED FORM)|JEEM I(NITIAL FORM|SOLATED FORM)|MEEM (I(NITIAL FORM|SOLATED FORM)|",
  "WITH (ALEF MAKSURA FINAL FORM|MEEM FINAL FORM|YEH FINAL FORM))|YEH (FINAL FORM|ISOLATED FORM))",
  "|H(AH WITH (ALEF MAKSURA (FINAL FORM|ISOLATED FORM)|JEEM (I(NITIAL FORM|SOLATED FORM)|",
  "WITH YEH FINAL FORM)|MEEM (I(NITIAL FORM|SOLATED FORM)|WITH (ALEF MAKSURA FINAL FORM|",
  "YEH FINAL FORM))|YEH (FINAL FORM|ISOLATED FORM))|EH WITH (ALEF MAKSURA ISOLATED FORM|JEEM I(",
  "NITIAL FORM|SOLATED FORM)|MEEM (I(NITIAL FORM|SOLATED FORM)|WITH (JEEM INITIAL FORM|",
  "MEEM INITIAL FORM))|SUPERSCRIPT ALEF INITIAL FORM|YEH ISOLATED FORM))|J(ALLAJALALOUHOU|",
  "EEM WITH (ALEF MAKSURA (FINAL FORM|ISOLATED FORM)|HAH (I(NITIAL FORM|SOLATED FORM)|WITH (",
  "ALEF MAKSURA FINAL FORM|YEH FINAL FORM))|MEEM (I(NITIAL FORM|SOLATED FORM)|WITH (",
  "ALEF MAKSURA FINAL FORM|HAH (FINAL FORM|INITIAL FORM)|YEH FINAL FORM))|YEH (FINAL FORM|",
  "ISOLATED FORM)))|K(AF WITH (ALEF (FINAL FORM|ISOLATED FORM|MAKSURA (FINAL FORM|ISOLATED FORM))",
  "|HAH I(NITIAL FORM|SOLATED FORM)|JEEM I(NITIAL FORM|SOLATED FORM)|KHAH I(NITIAL FORM|",
  "SOLATED FORM)|LAM (FINAL FORM|I(NITIAL FORM|SOLATED FORM)|MEDIAL FORM)|MEEM (FINAL FORM|I(",
  "NITIAL FORM|SOLATED FORM)|MEDIAL FORM|WITH (MEEM (FINAL FORM|INITIAL FORM)|YEH FINAL FORM))|",
  "YEH (FINAL FORM|ISOLATED FORM))|HAH WITH (ALEF MAKSURA (FINAL FORM|ISOLATED FORM)|",
  "HAH ISOLATED FORM|JEEM I(NITIAL FORM|SOLATED FORM)|MEEM I(NITIAL FORM|SOLATED FORM)|YEH (",
  "FINAL FORM|ISOLATED FORM)))|LAM WITH (ALEF (FINAL FORM|ISOLATED FORM|MAKSURA (FINAL FORM|",
  "ISOLATED FORM)|WITH (HAMZA (ABOVE (FINAL FORM|ISOLATED FORM)|BELOW (FINAL FORM|ISOLATED FORM))",
  "|MADDA ABOVE (FINAL FORM|ISOLATED FORM)))|H(AH (I(NITIAL FORM|SOLATED FORM)|WITH (",
  "ALEF MAKSURA FINAL FORM|MEEM (FINAL FORM|INITIAL FORM)|YEH FINAL FORM))|EH INITIAL FORM)|",
  "JEEM (I(NITIAL FORM|SOLATED FORM)|WITH (JEEM (FINAL FORM|INITIAL FORM)|MEEM (FINAL FORM|",
  "INITIAL FORM)|YEH FINAL FORM))|KHAH (I(NITIAL FORM|SOLATED FORM)|WITH MEEM (FINAL FORM|",
  "INITIAL FORM))|MEEM (FINAL FORM|I(NITIAL FORM|SOLATED FORM)|MEDIAL FORM|WITH (HAH (FINAL FORM|",
  "INITIAL FORM)|YEH FINAL FORM))|YEH (FINAL FORM|ISOLATED FORM))|M(EEM WITH (ALEF (FINAL FORM|",
  "MAKSURA ISOLATED FORM)|HAH (I(NITIAL FORM|SOLATED FORM)|WITH (JEEM INITIAL FORM|",
  "MEEM INITIAL FORM|YEH FINAL FORM))|JEEM (I(NITIAL FORM|SOLATED FORM)|WITH (HAH INITIAL FORM|",
  "KHAH INITIAL FORM|MEEM INITIAL FORM|YEH FINAL FORM))|KHAH (I(NITIAL FORM|SOLATED FORM)|WITH (",
  "JEEM INITIAL FORM|MEEM INITIAL FORM|YEH FINAL FORM))|MEEM (FINAL FORM|I(NITIAL FORM|",
  "SOLATED FORM)|WITH YEH FINAL FORM)|YEH ISOLATED FORM)|OHAMMAD ISOLATED FORM)|NOON WITH (",
  "ALEF MAKSURA (FINAL FORM|ISOLATED FORM)|H(AH (I(NITIAL FORM|SOLATED FORM)|WITH (",
  "ALEF MAKSURA FINAL FORM|MEEM INITIAL FORM|YEH FINAL FORM))|EH (INITIAL FORM|MEDIAL FORM))|",
  "JEEM (I(NITIAL FORM|SOLATED FORM)|WITH (ALEF MAKSURA FINAL FORM|HAH (FINAL FORM|INITIAL FORM)|",
  "MEEM (FINAL FORM|INITIAL FORM)|YEH FINAL FORM))|KHAH I(NITIAL FORM|SOLATED FORM)|MEEM (",
  "FINAL FORM|I(NITIAL FORM|SOLATED FORM)|MEDIAL FORM|WITH (ALEF MAKSURA FINAL FORM|",
  "YEH FINAL FORM))|NOON FINAL FORM|REH FINAL FORM|YEH (FINAL FORM|ISOLATED FORM)|",
  "ZAIN FINAL FORM)|Q(A(F WITH (ALEF MAKSURA (FINAL FORM|ISOLATED FORM)|HAH I(NITIAL FORM|",
  "SOLATED FORM)|MEEM (I(NITIAL FORM|SOLATED FORM)|WITH (HAH (FINAL FORM|INITIAL FORM)|",
  "MEEM FINAL FORM|YEH FINAL FORM))|YEH (FINAL FORM|ISOLATED FORM))|LA USED AS KORANIC STOP SIGN ",
  "ISOLATED FORM)|UDDISA SIRRAH)|R(A(DI ALLAAHU ANH(|AA|U(M(|AA)|NNA))|HIMAHU( ALLAAH|M ALLAAH)|",
  "SOUL ISOLATED FORM)|EH WITH SUPERSCRIPT ALEF ISOLATED FORM)|S(A(D WITH (ALEF MAKSURA (",
  "FINAL FORM|ISOLATED FORM)|HAH (I(NITIAL FORM|SOLATED FORM)|WITH (HAH (FINAL FORM|INITIAL FORM)",
  "|YEH FINAL FORM))|KHAH INITIAL FORM|MEEM (I(NITIAL FORM|SOLATED FORM)|WITH MEEM (FINAL FORM|",
  "INITIAL FORM))|REH (FINAL FORM|ISOLATED FORM)|YEH (FINAL FORM|ISOLATED FORM))|L(A(",
  "AMUHU ALAYNAA|M ISOLATED FORM)|LA( (ISOLATED FORM|USED AS KORANIC STOP SIGN ISOLATED FORM)|",
  "LLA(AHU ALAYHI WA-AALIH|H(OU ALAYHE WASALLAM|U ALAYHI WAAALIHEE WA-SALLAM)))))|EEN WITH (",
  "ALEF MAKSURA (FINAL FORM|ISOLATED FORM)|H(AH (I(NITIAL FORM|SOLATED FORM)|MEDIAL FORM|",
  "WITH JEEM INITIAL FORM)|EH (INITIAL FORM|MEDIAL FORM))|JEEM (I(NITIAL FORM|SOLATED FORM)|",
  "MEDIAL FORM|WITH (ALEF MAKSURA FINAL FORM|HAH INITIAL FORM))|KHAH (I(NITIAL FORM|SOLATED FORM)",
  "|MEDIAL FORM|WITH (ALEF MAKSURA FINAL FORM|YEH FINAL FORM))|MEEM (I(NITIAL FORM|SOLATED FORM)|",
  "MEDIAL FORM|WITH (HAH (FINAL FORM|INITIAL FORM)|JEEM INITIAL FORM|MEEM (FINAL FORM|",
  "INITIAL FORM)))|REH (FINAL FORM|ISOLATED FORM)|YEH (FINAL FORM|ISOLATED FORM))|H(ADDA WITH (",
  "DAMMA( (ISOLATED FORM|MEDIAL FORM)|TAN ISOLATED FORM)|FATHA (ISOLATED FORM|MEDIAL FORM)|KASRA(",
  " (ISOLATED FORM|MEDIAL FORM)|TAN ISOLATED FORM)|SUPERSCRIPT ALEF ISOLATED FORM)|EEN WITH (",
  "ALEF MAKSURA (FINAL FORM|ISOLATED FORM)|H(AH (FINAL FORM|I(NITIAL FORM|SOLATED FORM)|",
  "MEDIAL FORM|WITH (MEEM (FINAL FORM|INITIAL FORM)|YEH FINAL FORM))|EH (INITIAL FORM|",
  "MEDIAL FORM))|JEEM (FINAL FORM|I(NITIAL FORM|SOLATED FORM)|MEDIAL FORM|WITH YEH FINAL FORM)|",
  "KHAH (FINAL FORM|I(NITIAL FORM|SOLATED FORM)|MEDIAL FORM)|MEEM (FINAL FORM|I(NITIAL FORM|",
  "SOLATED FORM)|MEDIAL FORM|WITH (KHAH (FINAL FORM|INITIAL FORM)|MEEM (FINAL FORM|INITIAL FORM))",
  ")|REH (FINAL FORM|ISOLATED FORM)|YEH (FINAL FORM|ISOLATED FORM)))|UBHAANAHU WA TAAALAA)|T(A(",
  "BAARAKA WA-TAAALAA|H WITH (ALEF MAKSURA (FINAL FORM|ISOLATED FORM)|HAH I(NITIAL FORM|",
  "SOLATED FORM)|MEEM (I(NITIAL FORM|SOLATED FORM)|MEDIAL FORM|WITH (HAH (FINAL FORM|",
  "INITIAL FORM)|MEEM INITIAL FORM|YEH FINAL FORM))|YEH (FINAL FORM|ISOLATED FORM)))|EH WITH (",
  "ALEF MAKSURA (FINAL FORM|ISOLATED FORM)|H(AH (I(NITIAL FORM|SOLATED FORM)|WITH (JEEM (",
  "FINAL FORM|INITIAL FORM)|MEEM INITIAL FORM))|EH (INITIAL FORM|MEDIAL FORM))|JEEM (I(",
  "NITIAL FORM|SOLATED FORM)|WITH (ALEF MAKSURA FINAL FORM|MEEM INITIAL FORM|YEH FINAL FORM))|",
  "KHAH (I(NITIAL FORM|SOLATED FORM)|WITH (ALEF MAKSURA FINAL FORM|MEEM INITIAL FORM|",
  "YEH FINAL FORM))|MEEM (FINAL FORM|I(NITIAL FORM|SOLATED FORM)|MEDIAL FORM|WITH (",
  "ALEF MAKSURA FINAL FORM|HAH INITIAL FORM|JEEM INITIAL FORM|KHAH INITIAL FORM|YEH FINAL FORM))|",
  "NOON FINAL FORM|REH FINAL FORM|YEH (FINAL FORM|ISOLATED FORM)|ZAIN FINAL FORM)|H(",
  "AL WITH SUPERSCRIPT ALEF ISOLATED FORM|EH WITH (ALEF MAKSURA (FINAL FORM|ISOLATED FORM)|",
  "HEH MEDIAL FORM|JEEM ISOLATED FORM|MEEM (FINAL FORM|I(NITIAL FORM|SOLATED FORM)|MEDIAL FORM)|",
  "NOON FINAL FORM|REH FINAL FORM|YEH (FINAL FORM|ISOLATED FORM)|ZAIN FINAL FORM)))|",
  "UIGHUR KIRGHIZ YEH WITH HAMZA ABOVE WITH ALEF MAKSURA (FINAL FORM|I(NITIAL FORM|SOLATED FORM))",
  "|WASALLAM ISOLATED FORM|YEH WITH (ALEF MAKSURA (FINAL FORM|ISOLATED FORM)|H(A(H (I(",
  "NITIAL FORM|SOLATED FORM)|WITH YEH FINAL FORM)|MZA ABOVE WITH (A(E (FINAL FORM|ISOLATED FORM)|",
  "LEF (FINAL FORM|ISOLATED FORM|MAKSURA (FINAL FORM|ISOLATED FORM)))|E (FINAL FORM|I(",
  "NITIAL FORM|SOLATED FORM))|H(AH I(NITIAL FORM|SOLATED FORM)|EH (INITIAL FORM|MEDIAL FORM))|",
  "JEEM I(NITIAL FORM|SOLATED FORM)|KHAH INITIAL FORM|MEEM (FINAL FORM|I(NITIAL FORM|",
  "SOLATED FORM)|MEDIAL FORM)|NOON FINAL FORM|OE (FINAL FORM|ISOLATED FORM)|REH FINAL FORM|U (",
  "FINAL FORM|ISOLATED FORM)|WAW (FINAL FORM|ISOLATED FORM)|Y(EH (FINAL FORM|ISOLATED FORM)|U (",
  "FINAL FORM|ISOLATED FORM))|ZAIN FINAL FORM))|EH (INITIAL FORM|MEDIAL FORM))|JEEM (I(",
  "NITIAL FORM|SOLATED FORM)|WITH YEH FINAL FORM)|KHAH I(NITIAL FORM|SOLATED FORM)|MEEM (",
  "FINAL FORM|I(NITIAL FORM|SOLATED FORM)|MEDIAL FORM|WITH (MEEM (FINAL FORM|INITIAL FORM)|",
  "YEH FINAL FORM))|NOON FINAL FORM|REH FINAL FORM|YEH (FINAL FORM|ISOLATED FORM)|",
  "ZAIN FINAL FORM)|ZAH WITH MEEM (I(NITIAL FORM|SOLATED FORM)|MEDIAL FORM)))|MA(DDA( WAAJIB|",
  "H ABOVE)|RK (NOON GHUNNA|SIDEWAYS NOON GHUNNA)|THEMATICAL (A(IN|LEF)|BEH|D(A(D|L)|O(TLESS (",
  "BEH|FEH|NOON|QAF)|UBLE-STRUCK (AIN|BEH|DA(D|L)|FEH|GHAIN|HAH|JEEM|KHAH|LAM|MEEM|NOON|QAF|REH|",
  "S(AD|EEN|HEEN)|T(AH|EH|H(AL|EH))|WAW|YEH|ZA(H|IN))))|FEH|GHAIN|HAH|INITIAL (AIN|BEH|DAD|FEH|",
  "GHAIN|H(AH|EH)|JEEM|K(AF|HAH)|LAM|MEEM|NOON|QAF|S(AD|EEN|HEEN)|T(EH|HEH)|YEH)|JEEM|K(AF|HAH)|",
  "L(AM|OOPED (A(IN|LEF)|BEH|DA(D|L)|FEH|GHAIN|H(AH|EH)|JEEM|KHAH|LAM|MEEM|NOON|QAF|REH|S(AD|EEN|",
  "HEEN)|T(AH|EH|H(AL|EH))|WAW|YEH|ZA(H|IN)))|MEEM|NOON|OPERATOR (HAH WITH DAL|",
  "MEEM WITH HAH WITH TATWEEL)|QAF|REH|S(AD|EEN|HEEN|TRETCHED (AIN|BEH|D(AD|OTLESS (BEH|FEH))|",
  "FEH|GHAIN|H(AH|EH)|JEEM|K(AF|HAH)|MEEM|NOON|QAF|S(AD|EEN|HEEN)|T(AH|EH|HEH)|YEH|ZAH))|T(A(H|",
  "ILED (AIN|D(AD|OTLESS (NOON|QAF))|GHAIN|HAH|JEEM|KHAH|LAM|NOON|QAF|S(AD|EEN|HEEN)|YEH))|EH|H(",
  "AL|EH))|WAW|YEH|ZA(H|IN)))|NUMBER (MARK ABOVE|SIGN)|OPEN (DAMMATAN|FATHATAN|KASRATAN)|P(",
  "ERCENT SIGN|IASTRE MARK ABOVE|LACE OF SAJDAH|O(ETIC VERSE SIGN|UND MARK ABOVE))|QUESTION MARK|",
  "R(A(ISED ROUND DOT|Y)|EVERSED DAMMA|IGHT ARROWHEAD (ABOVE(| WITH DOT)|BELOW)|",
  "OUNDED HIGH STOP WITH FILLED CENTRE)|S(EMICOLON|HADDA(| (ISOLATED FORM|MEDIAL FORM))|IGN (",
  "ALAYHE ASSALLAM|MISRA|RA(DI ALLAHOU ANHU|HMATULLAH ALAYHE)|S(A(FHA|LLALLAHOU ALAYHE WASSALLAM|",
  "MVAT|NAH)|INDHI (AMPERSAND|POSTPOSITION MEN))|TAKHALLUS)|MALL (DAMMA|FA(RSI YEH|THA)|HIGH (",
  "AIN|DOTLESS HEAD OF KHAH|F(ARSI YEH|OOTNOTE MARKER)|JEEM|L(AM ALEF|IGATURE (",
  "ALEF WITH LAM WITH YEH|QAF WITH LAM WITH ALEF MAKSURA|SAD WITH LAM WITH ALEF MAKSURA))|M(ADDA|",
  "EEM I(NITIAL FORM|SOLATED FORM))|NOON(| WITH KASRA)|QAF|ROUNDED ZERO|S(AD|EEN|IGN SAFHA)|T(AH|",
  "HREE DOTS)|UPRIGHT RECTANGULAR ZERO|W(AW|ORD (A(L-JUZ|N-NISF|R-RUB|S-SAJDA|TH-THALATHA)|QIF|",
  "SA(H|KTA)|WAQFA))|YEH(| BARREE WITH TWO DOTS BELOW)|ZA(H|IN))|KASRA|LOW (MEEM|NOON WITH KASRA|",
  "SEEN|W(AW|ORD (I(MAALA|SHMAAM)|TASHEEL)))|WAW|YEH)|TART OF RUB EL HIZB|U(BSCRIPT ALEF|KUN(| (",
  "BELOW|ISOLATED FORM|MEDIAL FORM))|PERSCRIPT ALEF MOKHASSAS)|YMBOL (DO(T (ABOVE|BELOW)|",
  "UBLE VERTICAL BAR BELOW)|FOUR DOTS (ABOVE|BELOW)|RING|SMALL TAH (ABOVE|BELOW)|T(HREE DOTS (",
  "ABOVE|BELOW|POINTING DOWNWARDS (ABOVE|BELOW))|WO DOTS (ABOVE|BELOW|VERTICALLY (ABOVE|BELOW)))|",
  "WASLA ABOVE))|T(A(IL FRAGMENT|TWEEL(| WITH (FATHATAN ABOVE|OVERSTRUCK (HAMZA|WAW)|",
  "TWO DOTS BELOW)))|HOUSANDS SEPARATOR|ONE (LOOP (ABOVE|BELOW)|ONE DOT (ABOVE|BELOW)|TWO DOTS (",
  "ABOVE|BELOW))|RIPLE DOT PUNCTUATION MARK|URNED DAMMA BELOW)|V(ERTICAL TAIL|OWEL SIGN (",
  "DOT BELOW|INVERTED SMALL V ABOVE|SMALL V ABOVE))|WAVY HAMZA BELOW|ZWARAKAY)|-INDIC (CUBE ROOT|",
  "DIGIT (EIGHT|F(IVE|OUR)|NINE|ONE|S(EVEN|IX)|T(HREE|WO)|ZERO)|FOURTH ROOT|PER (MILLE SIGN|",
  "TEN THOUSAND SIGN)))|C|IES|MENIAN (A(BBREVIATION MARK|POSTROPHE)|C(APITAL LETTER (AYB|BEN|C(A|",
  "H(A|EH)|O)|DA|E(CH|H|T)|FEH|G(HAD|IM)|HO|INI|J(A|HEH)|KE(H|N)|LIWN|MEN|NOW|OH|P(EH|IWR)|R(A|",
  "EH)|S(EH|HA)|T(IWN|O)|V(EW|O)|XEH|YI(|WN)|Z(A|HE))|OMMA)|DRAM SIGN|E(MPHASIS MARK|",
  "XCLAMATION MARK)|FULL STOP|HYPHEN|MODIFIER LETTER LEFT HALF RING|QUESTION MARK|SMALL L(ETTER (",
  "AYB|BEN|C(A|H(A|EH)|O)|DA|E(CH|H|T)|FEH|G(HAD|IM)|HO|INI|J(A|HEH)|KE(H|N)|LIWN|MEN|NOW|OH|P(",
  "EH|IWR)|R(A|EH)|S(EH|HA)|T(IWN|O|URNED AYB)|V(EW|O)|XEH|YI(| WITH STROKE|WN)|Z(A|HE))|",
  "IGATURE (ECH YIWN|MEN (ECH|INI|NOW|XEH)|VEW NOW)))|ROW( POINTING (DOWNWARDS THEN CURVING (",
  "LEFTWARDS|RIGHTWARDS)|RIGHTWARDS THEN CURVING (DOWNWARDS|SOUTH WEST|UPWARDS)|",
  "UPWARDS THEN NORTH WEST)|HEAD-SHAPED POINTER)|TI(CULATED LORRY|ST PALETTE))|S(C(ENDING NODE|",
  "IA SYMBOL)|SERTION|T(ERIS(K(| OPERATOR)|M)|ONISHED FACE|R(AEA|ONOMICAL SYMBOL FOR URANUS))|",
  "YMPTOTICALLY EQUAL TO)|T(HLETIC SHOE|OM SYMBOL)|U(BERGINE|STRAL SIGN|TO( RICKSHAW|M(",
  "ATED TELLER MACHINE|OBILE)))|V(ESTAN (ABBREVIATION MARK|LETTER (A(|A(|N|O)|E(|E)|N|O)|B(E|HE)|",
  "CE|D(E|HE)|E(|E)|FE|G(E|GE|HE)|H(E|ME)|I(|I)|JE|KE|LE|ME|N(E|G(E|VE|YE)|NE|YE)|O(|O)|PE|RE|S(",
  "E|H(E|YE)|SHE)|T(E|HE|TE)|U(|U)|VE|X(E|VE|YE)|Y(E|YE)|Z(E|HE)))|OCADO)|XE)"]

/-- Names that begin with B: what stands before brackets goes before each of the endings in them. -/
def namesInB : List String := [
  "B(A(BY(| (ANGEL|BOTTLE|CHICK|SYMBOL))|C(K( (OF ENVELOPE|WITH LEFTWARDS ARROW ABOVE)|",
  "-TILTED SHADOWED WHITE RIGHTWARDS ARROW|S(LANTED SOUTH ARROW WITH HO(OKED TAIL|RIZONTAL TAIL)|",
  "PACE))|ON|TRIAN CAMEL)|D(GER|MINTON RACQUET AND SHUTTLECOCK)|G(EL|GAGE CLAIM|UETTE BREAD)|L(",
  "INESE (ADEG ADEG|CARIK (PA(MUNGKAH|REREN)|SIKI)|DIGIT (EIGHT|F(IVE|OUR)|NINE|ONE|S(EVEN|IX)|T(",
  "HREE|WO)|ZERO)|LETTER (A(IKARA|KARA(| TEDUNG)|RCHAIC JNYA|SYURA SASAK)|BA(| KEMBANG)|CA(|",
  " LACA)|DA(| M(ADU|URDA (ALPAPRANA|MAHAPRANA)))|E(F SASAK|KARA)|GA(| GORA)|HA|IKARA(| TEDUNG)|",
  "JA(| JERA)|K(A(| MAHAPRANA|F SASAK)|HOT SASAK)|LA(| LENGA(| TEDUNG))|MA|N(A(| RAMBAT)|GA|YA)|",
  "OKARA(| TEDUNG)|PA(| KAPAL)|RA(| REPA(| TEDUNG))|SA(| SA(GA|PA))|T(A(| (LATIK|MURDA MAHAPRANA|",
  "TAWA))|ZIR SASAK)|UKARA(| TEDUNG)|VE SASAK|WA|YA|ZAL SASAK)|MUSICAL SYMBOL (COMBINING (BENDE|",
  "ENDEP|GONG|JEGOGAN|KEMP(LI(| WITH JEGOGAN)|UL(| WITH JEGOGAN))|TEGEH)|D(A(ENG|ING|NG(| (GEDE|",
  "SURANG)))|E(NG|UNG)|ING|ONG|UNG)|LEFT-HAND (CLOSED PL(AK|UK)|OPEN P(ANG|ING|UNG))|RIGHT-HAND (",
  "CLOSED T(AK|UK)|OPEN D(AG|UG)))|PA(M(ADA(| LANTANG)|ENENG)|NTI(| LANTANG))|SIGN (BISAH|CECEK|",
  "REREKAN|SURANG|ULU (CANDRA|RICEM))|VOWEL SIGN (LA LENGA(| TEDUNG)|PEPET(| TEDUNG)|RA REPA(|",
  " TEDUNG)|SUKU(| ILUT)|T(ALING(| (REPA(| TEDUNG)|TEDUNG))|EDUNG)|ULU(| SARI))|WINDU)|L(",
  " OF YARN|ET SHOES|O(ON(|-SPOKED ASTERISK)|T (BO(LD SCRIPT X|X(| WITH (B(ALLOT|OLD (CHECK|",
  "SCRIPT X))|CHECK|LIGHT X|SCRIPT X|X)))|SCRIPT X|X))))|MUM (CO(LON|M(BINING MARK (KOQNDON|",
  "TUKWENTIS)|MA))|FULL STOP|LETTER (A|EE|F(AAMAE|EE|OM|U)|I|K(A|E(N|T|UX)|I|O(|GHOM|VUU)|PA|U|",
  "YEE)|L(A|EEEE|I|OQ|U)|M(|A|B(AA|EN)|E(EEE|N)|I|O|U)|N(A|DAA|G(A|GA|KWAEN)|I|J(AEM|EE|UAE)|SHA|",
  "T(EE|UU)|U(|AE)|YI)|O|P(A|E(E|UX)|HASE-(A (FIRI|G(BIEE FON|HEUAE(GHEUAE|RAE))|K(A(FA|Q)|E(T|",
  "UKEUTNDA)|POQ|UOQ)|L(APAQ|ET KUT|OMMAE|U(|AEP))|M(A(E(KEUP|M(|BGBIEE|KPEN|VEUX)|NYI|SI)|NSUAE|",
  "P PIEET)|BA(NYI|Q)|EUNJOMNDEUQ|GBASA|O(N NGGEUAET|OM(EUT|PUQ))|VEUAENGAM)|N(A(A MFON|Q)|DA(",
  " LEERAEWA|ANGGEUAET)|EN|G(ANGU|GEN|KUE( MFON|NZEUM))|IKA|JAM|K(AARAE|INDI)|SH(A|IEE)|T(AP(| (",
  "MFAA|NTAA))|OQPEN)|Y(ET|I(|T MONGKEUAEQ))|Z(A MFON|UN MEUT))|P(A( LEERAEWA|A(M|RAE)|MSHAE|",
  "SHAE)|ET|ON (MFON PIPAEM(BA|GBIEE)|PA NJI PIPAEM(BA|GBIEE))|UP)|ROM|S(EUNYAM|H(I(NDA PA NJI|",
  "RAE)|OQ NSHUT YUM|U(ENSHUET|M))|ISA|O(NJAM|Q|T)|UU)|T(EU(AEN|TEUWEN)|ITA MFON|U( MAEMBA|AEP))|",
  "U( YUQ NAE|NKNOWN)|VEE)|B (FE(E|UX)|GHEUGHE(N|UAEM)|K(AM|EU(AEM|PUQ|YEUX)|I(EEM|Q))|L(A(ANAE|",
  "M NSHUT NYAM)|ET|OM NTEUM)|M(A(| NJ(EUAENA|UQA))|B(A( MAELEE|ARAE)|EURI|IT MBAAKET|UOQ)|EU(Q|",
  "T NGGEET)|F(IYAQ|ON TEUAEQ)|ONTIEEN)|N(DU NJAA|G(G(AAM|EU MBU|UOQ(| LARGE))|KINDI MVOP|OM)|S(",
  "EN|HUET)|TIEE SHEUOQ|Y(AEMAE|I NTEUM))|P(ARUM|EESHI|IT|UNGAAM)|S(AKEUAE|ET TU|HE(T NJAQ|",
  "UAEQTU)|IEE|UE)|T(AAM|U (MAEMGBIEE|NSIEE))|VEUM|WUAET|Y(AFU LEERAEWA|EURAE))|C (BUNG|FUE|G(",
  "BAYI|HA(P|RAE))|K(AA|E(N (FATIGUE|LAW)|T|U(KAQ|M|S(EUX|HEUAEP)))|PARAQ|U(OP NKAARAE|T))|L(A(M|",
  "P)|IQ|U)|M(A( (KEUAERI|NSIEE)|E(MBA|SI))|B(A(A (CABBAGE-TREE|PICKET)|NYI)|E(EKEET|RAE|U(M|X))|",
  "I(|RIEEN|T)|U(AEM|E))|GBASAQ|IEE|UAE)|N(A(NSANAQ|Q)|D(A(M|P)|EU(AEREE|T)|IDA|OMBU)|G(AQ|G(EN|",
  "U(|AEN NYAM|EET|M|ON))|K(AQ|UE MAEMBA)|OM)|J(A(EM|M)|E(EEE|UX)|UEQ)|S(A|EUAEN|HAQ|OM|U(N|",
  "OT NGOM))|T(AA|E(N|UNGBA)|U MBIT)|YIR MKPARAQ MEUN|Z(A|EUM))|P(EN|I(N|RIEEN))|RU|S(E(TFON|UX)|",
  "H(IQ|UEQ)|UAET)|T(AASHAE|E(T|UTEUX)|IT(A YUE|UAEP))|VEU(AEPEN|X)|W(ANGKUOQ|UP)|Y(AA|EUQ|U(",
  " MUOMAE|M|WOQ)))|D (F(AA|EUFEUAET)|GH(AA|EUAE)|K(E(T|U(AETMEUN|M|OT MBUAE|P))|U(|N|OM|Q)|WAET|",
  "YEE)|L(E(EEE|T|U(AEP|M))|IEE|OQ|UM)|M(|A(ENJET|LEERI)|B(AA(| SEVEN)|UO)|E(EEE|U(N|T))|F(EU(AE|",
  "T)|IEE|O(|N))|GB(EUN|IEE|OFUM)|ONI|U|VOP)|N(D(AM|E(E|UX)|ON)|G(G(A(AM(|AE)|P)|EUX|UOM|WAEN)|K(",
  "AP|EU(AEQ|RI)|IEE|UN|YEE))|I|J(AP|EU(AEM|T)|I(|EE)|UEQ)|S(H(EE|UT)|IEE(P|T)|UM)|T(E(E|UM)|UU)|",
  "U|Y(AM|ET|I|UE))|P(AP|E(E|UTAE)|IP|U(Q|UT))|R(AEM|EN (MUCH|OLD)|II)|S(A(P|Q)|EUAEQ|H(E(E|U(AE|",
  "X))|II|OQ|U)|OT|U(AE|E|U))|T(AE|E(EEE|U(AEN|N|T))|I|OQ|U(|OT))|W(AP|UAEN)|Y(AEMMAE|EN|U(O(M|P)",
  "|WOQ)))|E (A|F(A(|Q)|EE|OM|U( (CALL|I|REMEDY)|E(|T)))|G(BE(T|UX)|H(AAMAE|E(T|U(AE|N|X))|OM))|",
  "I|K(E(T|U(AE|X))|I|O|PEUX|U(ET|OP|T))|L(A(AM|P|Q)|EUAEM|O(M|O(N|T)|Q)|U)|M(A(|E(|M)|P|Q)|BE(E|",
  "UM)|EN|FEUQ|GB(A|EN)|I(|EE)|ON|UAE|VI)|N(A(|E)|D(A(A (MY HOUSE|SOFTNESS)|P)|I(AQ|Q)|UN)|G(A|",
  "EUREUT|G(E(EEE|UAE(|T))|U(AESHAE NYAM|P|RAE))|K(A(|AMI)|EU(AEM|X)|U(M|P))|O(P|Q)|UAE(|T))|J(",
  "AEMLI|E(E(| EPOCH)|UX))|KOM|SH(IEE|U(E|OP))|T(AP|UM)|YI (BETWEEN|CLEAVER)|Z(AQ|UQ))|O|P(A( P(",
  "EOPLE|LURAL)|A(|M))|E(EM|U(T|X))|I(|E(EQ|T))|O(|ON)|U(|A(E|Q)|E|M))|R(A(E|Q)|EUX|IMGBA)|S(AA|",
  "E(E|T)|H(EUAEQ|IQ|O(|Q))|OM|UAEN)|T(A(A(|Q)|EN NTEUM|M|Q)|E(N|U(|AEQ))|O(O(|N)|Q)|U(AE|M(|AE))",
  ")|V(E(E|UAE)|OM)|W(EUX|U(E|O))|Y(AP|EU(AE(|T)|M|X)|I(EE|T)|OQ (COVER|SWIMMING)|U(AEN|EQ|N|Q)))",
  "|F (EE|FOM|K(A|E(N|T)|O|PA|U|YEE)|L(A|I|OQ)|M(|A|B(AA|EN)|EEEE|O)|N(DAA|G(GA|KWAEN)|I|J(AEM|",
  "UAE)|SHA|TEE|U(|AE)|YI)|P(E(E|UX)|UAE)|R(E(E|N|UX)|I(EE|I)|U)|S(AMBA|EUX|H(II|O|U)|I|UU)|T(A(",
  "A|E)|ET)|U|VUEQ|W(A|UE)|Y(A|OQ)))|I|U(AE|E))|R(AE|E(E|N|UX)|I(EE|I)|U)|S(AMBA|EUX|H(EUX|II|O|",
  "U)|I|UU)|T(A(A|E)|E(N|T)|I)|U|W(A|UE)|Y(A|OQ|UQ))|NJAEMLI|QUESTION MARK|SEMICOLON)|N(ANA|JO|K(",
  "|NOTE WITH (DOLLAR SIGN|EURO SIGN|POUND SIGN|YEN SIGN)))|R( (CHART|OF SOAP)|BER POLE)|S(EBALL|",
  "KET(|BALL AND HOOP)|SA VAH (COMBINING (HIGH( TONE|-LOW TONE)|LOW( TONE|-MID TONE)|MID TONE)|",
  "FULL STOP|LETTER (A|BA|CE|D(HII|O)|E(|E|NNI)|FA|G(AH|BU)|HWAH|I|JO|K(A|PAH)|MBE|O(|O)|PA|SE|",
  "TO|U(|WU)|VU|WA(|DDA)|Y(EIN|IE)|ZO)))|T(|AK (CONSONANT SIGN (H|NG)|LETTER (A|BA|CA|DA|GA|HA|I|",
  "JA|KARO BA|LA|M(A(|NDAILING (HA|NA|SA))|BA)|N(A|DA|GA|ORTHERN TA|YA)|PA(|KPAK WA)|RA|S(A|",
  "IMALUNGUN (A|GA|HA|LA|MA|PA|RA|SA|WA|YA)|OUTHERN TA)|U|WA|YA)|PAN(GOLAT|ONGONAN)|S(IGN TOMPI|",
  "YMBOL BINDU (JUDUL|NA METEK|P(ANGOLAT|INARBORAS)))|VOWEL SIGN (E(|E)|I|KARO (I|O)|O|PAKPAK E|",
  "U(| FOR SIMALUNGUN SA)))|H(|TUB)|TERY))|E(A(CH WITH UMBRELLA|MED (ASCENDING MUSICAL NOTES|",
  "DESCENDING MUSICAL NOTES|EIGHTH NOTES|SIXTEENTH NOTES)|NS|R( FACE|DED PERSON)|TING HEART|VER)|",
  "CAUSE|D|E(R MUG|TLE)|L(|L(| (PEPPER|SYMBOL|WITH CANCELLATION STROKE)|HOP BELL))|N(GALI (A(",
  "BBREVIATION SIGN|NJI|U LENGTH MARK)|CURRENCY (DENOMINATOR SIXTEEN|NUMERATOR (FOUR|ONE(|",
  " LESS THAN THE DENOMINATOR)|T(HREE|WO)))|DIGIT (EIGHT|F(IVE|OUR)|NINE|ONE|S(EVEN|IX)|T(HREE|",
  "WO)|ZERO)|GANDA MARK|ISSHAR|LETTER (A(|A|I|U)|B(A|HA)|C(A|HA)|D(A|D(A|HA)|HA)|E|G(A|HA)|HA|I(|",
  "I)|J(A|HA)|K(A|HA(|NDA TA))|LA|MA|N(A|GA|NA|YA)|O|P(A|HA)|R(A(| WITH (LOWER DIAGONAL|",
  "MIDDLE DIAGONAL))|HA|RA)|S(A|HA|SA)|T(A|HA|T(A|HA))|U(|U)|V(EDIC ANUSVARA|OCALIC (L(|L)|R(|R))",
  ")|Y(A|YA))|RUPEE (MARK|SIGN)|S(ANDHI MARK|IGN (A(NUSVARA|VAGRAHA)|CANDRABINDU|NUKTA|VI(RAMA|",
  "SARGA)))|VOWEL SIGN (A(A|I|U)|E|I(|I)|O|U(|U)|VOCALIC (L(|L)|R(|R))))|T(",
  " ARROW POINTING DOWNWARDS THEN NORTH EAST|O BOX)|ZENE RING(| WITH CIRCLE))|T( SYMBOL|WEEN)|",
  "VERAGE BOX)|HAIKSUKI (D(ANDA|IGIT (EIGHT|F(IVE|OUR)|NINE|ONE|S(EVEN|IX)|T(HREE|WO)|ZERO)|",
  "OUBLE DANDA)|GAP FILLER-(1|2)|HUNDREDS UNIT MARK|LETTER (A(|A|I|U)|B(A|HA)|C(A|HA)|D(A|D(A|HA)",
  "|HA)|E|G(A|HA)|HA|I(|I)|J(A|HA)|K(A|HA)|LA|MA|N(A|GA|NA|YA)|O|P(A|HA)|RA|S(A|HA|SA)|T(A|HA|T(",
  "A|HA))|U(|U)|V(A|OCALIC (L|R(|R)))|YA)|NUMBER (EIGHT(|Y)|F(I(FTY|VE)|O(RTY|UR))|NINE(|TY)|ONE|",
  "S(EVEN(|TY)|IX(|TY))|T(EN|H(IRTY|REE)|W(ENTY|O)))|SIGN (A(NUSVARA|VAGRAHA)|CANDRABINDU|VI(",
  "RAMA|SARGA))|VOWEL SIGN (A(A|I|U)|E|I(|I)|O|U(|U)|VOCALIC (L|R(|R)))|WORD SEPARATOR)|I(CYCL(E|",
  "IST)|G (REVERSE SOLIDUS|SOLIDUS)|KINI|LL(ED CAP|IARDS)|OHAZARD SIGN|R(D|THDAY CAKE)|SON|T(",
  "COIN SIGN|ING LIP))|L(A(CK( (BOWTIE|C(ENTRE WHITE STAR|HESS (BISHOP(| ROTATED (NINETY DEGREES|",
  "TWO HUNDRED SEVENTY DEGREES))|EQUIHOPPER(| ROTATED NINETY DEGREES)|K(ING(| ROTATED (",
  "NINETY DEGREES|TWO HUNDRED SEVENTY DEGREES))|NIGHT(| ROTATED (FORTY-FIVE DEGREES|",
  "NINETY DEGREES|ONE HUNDRED THIRTY-FIVE DEGREES|T(HREE HUNDRED FIFTEEN DEGREES|WO HUNDRED (",
  "SEVENTY DEGREES|TWENTY-FIVE DEGREES)))|-(BISHOP|QUEEN|ROOK)))|PAWN(| ROTATED (NINETY DEGREES|",
  "TWO HUNDRED SEVENTY DEGREES))|QUEEN(| ROTATED (NINETY DEGREES|TWO HUNDRED SEVENTY DEGREES))|",
  "ROOK(| ROTATED (NINETY DEGREES|TWO HUNDRED SEVENTY DEGREES))|TURNED (BISHOP|K(ING|NIGHT)|PAWN|",
  "QUEEN|ROOK))|IRCLE(| (FOR RECORD|WITH (DOWN ARROW|TWO WHITE DOTS|WHITE DOT RIGHT)))|LUB SUIT|",
  "ROSS ON SHIELD|URVED (DOWNWARDS AND (LEFTWARDS ARROW|RIGHTWARDS ARROW)|LEFTWARDS AND (",
  "DOWNWARDS ARROW|UPWARDS ARROW)|RIGHTWARDS AND (DOWNWARDS ARROW|UPWARDS ARROW)|UPWARDS AND (",
  "LEFTWARDS ARROW|RIGHTWARDS ARROW)))|D(IAMOND(| (CENTRED|MINUS WHITE X|ON CROSS|SUIT|",
  "WITH DOWN ARROW))|OWN( POINTING BACKHAND INDEX|-POINTING (DOUBLE TRIANGLE|",
  "ISOSCELES RIGHT TRIANGLE|SMALL TRIANGLE|TRIANGLE)|WARDS EQUILATERAL ARROWHEAD)|R(AUGHTS (KING|",
  "MAN)|OPLET))|F(L(AG|ORETTE)|O(LDER|UR POINTED STAR))|H(ARD SHELL FLOPPY DISK|E(ART(| SUIT)|",
  "XAGON)|O(RIZONTAL ELLIPSE|URGLASS))|L(ARGE (CIRCLE|SQUARE)|EFT( (LANE MERGE|POINTING (",
  "BACKHAND INDEX|INDEX))|-POINTING (DOUBLE TRIANGLE(| WITH VERTICAL BAR)|",
  "ISOSCELES RIGHT TRIANGLE|POINTER|SMALL TRIANGLE|TRIANGLE)|WARDS (BULLET|EQUILATERAL ARROWHEAD)",
  ")|O(WER (LEFT TRIANGLE|RIGHT TRIANGLE)|ZENGE))|M(EDIUM (D(IAMOND|OWN-POINTING TRIANGLE(|",
  " CENTRED))|L(EFT-POINTING TRIANGLE(| CENTRED)|OZENGE)|RIGHT-POINTING TRIANGLE(| CENTRED)|S(",
  "MALL (DIAMOND|LOZENGE|SQUARE)|QUARE)|UP-POINTING TRIANGLE(| CENTRED))|OON LILITH)|NIB|OCTAGON|",
  "P(ARALLELOGRAM|EN(NANT|TAGON)|USHPIN)|QUESTION MARK ORNAMENT|R(ECTANGLE|IGHT( POINTING (",
  "BACKHAND INDEX|INDEX)|-POINTING (DOUBLE TRIANGLE(| WITH VERTICAL BAR)|ISOSCELES RIGHT TRIANGLE",
  "|P(ENTAGON|OINTER)|SMALL TRIANGLE|TRIANGLE(| WITH DOUBLE VERTICAL BAR))|WARDS (ARROW(|HEAD)|",
  "BULLET|EQUILATERAL ARROWHEAD))|OSETTE)|S(AFETY SCISSORS|CISSORS|HOGI PIECE|",
  "KULL AND CROSSBONES|LIGHTLY SMALL (CIRCLE|SQUARE)|M(ALL (DIAMOND|LOZENGE|S(QUARE|TAR))|",
  "ILING FACE)|NOWMAN|PADE SUIT|QUARE(| (BUTTON|CENTRED|FOR STOP))|TAR|UN WITH RAYS)|T(ELEPHONE|",
  "INY (DIAMOND|LOZENGE|SQUARE)|OUCHTONE TELEPHONE|RUCK|WO-WAY LEFT WAY TRAFFIC)|U(",
  "NIVERSAL RECYCLING SYMBOL|P( POINTING BACKHAND INDEX|-POINTING (DOUBLE TRIANGLE|",
  "ISOSCELES RIGHT TRIANGLE|SMALL TRIANGLE|TRIANGLE)|PER (LEFT TRIANGLE|RIGHT TRIANGLE)|",
  "WARDS EQUILATERAL ARROWHEAD))|VER(TICAL (ELLIPSE|RECTANGLE)|Y SMALL (DIAMOND|LOZENGE|SQUARE)))",
  "|-(FEATHERED (NORTH EAST ARROW|RIGHTWARDS ARROW|SOUTH EAST ARROW)|LETTER CAPITAL (C|H|I|R|Z)))",
  "|NK SYMBOL)|O(CK SEXTANT-(1(|2(|3(|4(|5|6)|5(|6)|6)|4(|5(|6)|6)|5(|6)|6)|3(|4(|5(|6)|6)|56|6)|",
  "4(|5(|6)|6)|5(|6)|6)|2(|3(|4(|5(|6)|6)|5(|6)|6)|4(|5(|6))|5(|6)|6)|3(|4(|5(|6)|6)|5(|6)|6)|4(|",
  "5(|6)|6)|5(|6)|6)|SSOM|WFISH)|UE( (BOOK|HEART)|BERRIES))|O(AR|LD (EIGHT SPOKED ASTERISK|",
  "FIVE SPOKED ASTERISK|GREEK CROSS|S(ALTIRE|IX SPOKED ASTERISK)|WHITE (CIRCLE|SQUARE))|M(|B)|NE|",
  "O(K(|MARK(| TABS)|S)|MERANG)|POMOFO (FINAL LETTER (G|H|K|P|T)|LETTER (A(|H|I(|NN)|M|N(|G|N)|U(",
  "|NN))|B(|U)|C(|H)|D|E(|E|H|I|N(|G|N)|R)|F|G(|H|N|U|W)|H|I(|H|M|NN(|N)|R|U)|J(|I)|K(|W)|L(|H)|",
  "M|N(|G(|G)|N)|O(| WITH DOT ABOVE|E|M|N(G|N)|O|U)|P|Q|R|S(|H)|T|U(|NN)|V|X|Z(|H|I|Y)))|TT(",
  "LE WITH POPPING CORK|OM (ARC ANTICLOCKWISE ARROW|CURLY BRACKET|HALF (BLACK CIRCLE|INTEGRAL|",
  "LEFT PARENTHESIS|RIGHT PARENTHESIS)|LEFT (C(ORNER|ROP)|HALF BRACKET)|PARENTHESIS|RIGHT (C(",
  "ORNER|ROP)|HALF BRACKET)|SQUARE BRACKET(| OVER TOP SQUARE BRACKET)|TORTOISE SHELL BRACKET))|",
  "UQUET(| OF FLOWERS)|W( AND ARROW|L( (OF HYGIEIA|WITH SPOON)|ING)|TIE(| WITH (LEFT HALF BLACK|",
  "RIGHT HALF BLACK)))|X( DRAWINGS (DO(UBLE (DOWN AND (HORIZONTAL|LEFT|RIGHT)|HORIZONTAL|UP AND (",
  "HORIZONTAL|LEFT|RIGHT)|VERTICAL(| AND (HORIZONTAL|LEFT|RIGHT)))|WN (DOUBLE AND (",
  "HORIZONTAL SINGLE|LEFT SINGLE|RIGHT SINGLE)|HEAVY AND (HORIZONTAL LIGHT|LEFT (LIGHT|UP LIGHT)|",
  "RIGHT (LIGHT|UP LIGHT)|UP HORIZONTAL LIGHT)|LIGHT AND (HORIZONTAL HEAVY|LEFT (HEAVY|UP HEAVY)|",
  "RIGHT (HEAVY|UP HEAVY)|UP HORIZONTAL HEAVY)|SINGLE AND (HORIZONTAL DOUBLE|LEFT DOUBLE|",
  "RIGHT DOUBLE)))|HEAVY (DO(UBLE DASH (HORIZONTAL|VERTICAL)|WN(| AND (HORIZONTAL|LEFT|RIGHT)))|",
  "HORIZONTAL|LEFT(| AND LIGHT RIGHT)|QUADRUPLE DASH (HORIZONTAL|VERTICAL)|RIGHT|TRIPLE DASH (",
  "HORIZONTAL|VERTICAL)|UP(| AND (HORIZONTAL|L(EFT|IGHT DOWN)|RIGHT))|VERTICAL(| AND (HORIZONTAL|",
  "LEFT|RIGHT)))|L(EFT (DOWN HEAVY AND RIGHT UP LIGHT|HEAVY AND RIGHT (DOWN LIGHT|UP LIGHT|",
  "VERTICAL LIGHT)|LIGHT AND RIGHT (DOWN HEAVY|UP HEAVY|VERTICAL HEAVY)|UP HEAVY AND RIGHT DOWN L",
  "IGHT)|IGHT (ARC (DOWN AND (LEFT|RIGHT)|UP AND (LEFT|RIGHT))|D(IAGONAL (CROSS|DIAMOND|MIDDLE (",
  "LEFT TO (LOWER CENTRE(| TO MIDDLE RIGHT)|UPPER CENTRE TO MIDDLE RIGHT(| TO LOWER CENTRE))|",
  "RIGHT TO (LOWER CENTRE|UPPER CENTRE TO MIDDLE LEFT TO LOWER CENTRE))|UPPER (CENTRE TO MIDDLE (",
  "LEFT(| (AND MIDDLE RIGHT TO LOWER CENTRE|TO LOWER CENTRE(| TO MIDDLE RIGHT)))|RIGHT(| (",
  "AND MIDDLE LEFT TO LOWER CENTRE|TO LOWER CENTRE(| TO MIDDLE LEFT))))|LEFT TO LOWER RIGHT|",
  "RIGHT TO LOWER LEFT))|O(UBLE DASH (HORIZONTAL|VERTICAL)|WN(| AND (HORIZONTAL|LEFT|RIGHT))))|",
  "HORIZONTAL(| WITH VERTICAL STROKE)|LEFT(| AND HEAVY RIGHT)|QUADRUPLE DASH (HORIZONTAL|",
  "VERTICAL)|RIGHT|TRIPLE DASH (HORIZONTAL|VERTICAL)|UP(| AND (H(EAVY DOWN|ORIZONTAL)|LEFT|RIGHT)",
  ")|VERTICAL(| AND (HORIZONTAL|LEFT|RIGHT))))|RIGHT (DOWN HEAVY AND LEFT UP LIGHT|",
  "HEAVY AND LEFT (DOWN LIGHT|UP LIGHT|VERTICAL LIGHT)|LIGHT AND LEFT (DOWN HEAVY|UP HEAVY|",
  "VERTICAL HEAVY)|UP HEAVY AND LEFT DOWN LIGHT)|UP (DOUBLE AND (HORIZONTAL SINGLE|LEFT SINGLE|",
  "RIGHT SINGLE)|HEAVY AND (DOWN HORIZONTAL LIGHT|HORIZONTAL LIGHT|LEFT (DOWN LIGHT|LIGHT)|",
  "RIGHT (DOWN LIGHT|LIGHT))|LIGHT AND (DOWN HORIZONTAL HEAVY|HORIZONTAL HEAVY|LEFT (DOWN HEAVY|",
  "HEAVY)|RIGHT (DOWN HEAVY|HEAVY))|SINGLE AND (HORIZONTAL DOUBLE|LEFT DOUBLE|RIGHT DOUBLE))|",
  "VERTICAL (DOUBLE AND (HORIZONTAL SINGLE|LEFT SINGLE|RIGHT SINGLE)|HEAVY AND (HORIZONTAL LIGHT|",
  "LEFT LIGHT|RIGHT LIGHT)|LIGHT AND (HORIZONTAL HEAVY|LEFT HEAVY|RIGHT HEAVY)|SINGLE AND (",
  "HORIZONTAL DOUBLE|LEFT DOUBLE|RIGHT DOUBLE)))|ING GLOVE)|Y(|S SYMBOL))|PH|R(A(HMI (D(ANDA|",
  "IGIT (EIGHT|F(IVE|OUR)|NINE|ONE|S(EVEN|IX)|T(HREE|WO)|ZERO)|OUBLE DANDA)|LETTER (A(|A|I|U)|B(",
  "A|HA)|C(A|HA)|D(A|D(A|HA)|HA)|E|G(A|HA)|HA|I(|I)|J(A|HA)|K(A|HA)|L(A|LA)|MA|N(A|GA|NA|YA)|O(|",
  "LD TAMIL (LL(A|LA)|NNNA|RRA|SHORT (E|O)))|P(A|HA)|RA|S(A|HA|SA)|T(A|HA|T(A|HA))|U(|U)|V(A|",
  "OCALIC (L(|L)|R(|R)))|YA)|NUMBER (EIGHT(|Y)|F(I(FTY|VE)|O(RTY|UR))|JOINER|NINE(|TY)|ONE(| (",
  "HUNDRED|THOUSAND))|S(EVEN(|TY)|IX(|TY))|T(EN|H(IRTY|REE)|W(ENTY|O)))|PUNCTUATION (",
  "CRESCENT BAR|DO(T|UBLE DOT)|L(INE|OTUS))|SIGN (ANUSVARA|CANDRABINDU|JIHVAMULIYA|",
  "OLD TAMIL VIRAMA|UPADHMANIYA|VISARGA)|V(IRAMA|OWEL SIGN (A(A|I|U)|BHATTIPROLU AA|E|I(|I)|O(|",
  "LD TAMIL SHORT (E|O))|U(|U)|VOCALIC (L(|L)|R(|R)))))|I(LLE PATTERN (BLANK|DOTS-(1(|2(|3(|4(|5(",
  "|6(|7(|8)|8)|7(|8)|8)|6(|7(|8)|8)|7(|8)|8)|5(|6(|7(|8)|8)|7(|8)|8)|6(|7(|8)|8)|7(|8)|8)|4(|5(|",
  "6(|7(|8)|8)|7(|8)|8)|6(|7(|8)|8)|7(|8)|8)|5(|6(|7(|8)|8)|7(|8)|8)|6(|7(|8)|8)|7(|8)|8)|3(|4(|",
  "5(|6(|7(|8)|8)|7(|8)|8)|6(|7(|8)|8)|7(|8)|8)|5(|6(|7(|8)|8)|7(|8)|8)|6(|7(|8)|8)|7(|8)|8)|4(|",
  "5(|6(|7(|8)|8)|7(|8)|8)|6(|7(|8)|8)|7(|8)|8)|5(|6(|7(|8)|8)|7(|8)|8)|6(|7(|8)|8)|7(|8)|8)|2(|",
  "3(|4(|5(|6(|7(|8)|8)|7(|8)|8)|6(|7(|8)|8)|7(|8)|8)|5(|6(|7(|8)|8)|7(|8)|8)|6(|7(|8)|8)|7(|8)|",
  "8)|4(|5(|6(|7(|8)|8)|7(|8)|8)|6(|7(|8)|8)|7(|8)|8)|5(|6(|7(|8)|8)|7(|8)|8)|6(|7(|8)|8)|7(|8)|",
  "8)|3(|4(|5(|6(|7(|8)|8)|7(|8)|8)|6(|7(|8)|8)|7(|8)|8)|5(|6(|7(|8)|8)|7(|8)|8)|6(|7(|8)|8)|7(|",
  "8)|8)|4(|5(|6(|7(|8)|8)|7(|8)|8)|6(|7(|8)|8)|7(|8)|8)|5(|6(|7(|8)|8)|7(|8)|8)|6(|7(|8)|8)|7(|",
  "8)|8))|N))|E(A(D|K PERMITTED HERE|ST-FEEDING)|VE)|I(CK|D(E WITH VEIL|GE AT NIGHT)|EF(CASE|S))|",
  "O(CCOLI|KEN (BAR|CIRCLE WITH NORTHWEST ARROW|HEART)|OM|WN HEART))|S|U(BBLE( TEA|S)|CKET|G(|",
  "INESE (END OF SECTION|LETTER (A|BA|CA|DA|GA|HA|JA|KA|LA|M(A|PA)|N(A|G(A|KA)|RA|Y(A|CA))|PA|RA|",
  "SA|TA|VA|YA)|PALLAWA|VOWEL SIGN (AE|E|I|O|U)))|HID (LETTER (A|BA|DA|GA|HA|I|KA|LA|MA|N(A|GA)|",
  "PA|RA|SA|TA|U|WA|YA)|VOWEL SIGN (I|U))|ILDING CONSTRUCTION|LL(ET(| OPERATOR)|HORN(|",
  " WITH SOUND WAVES)|SEYE)|RRITO|S(| STOP|T( IN SILHOUETTE|S IN SILHOUETTE))|TTER(|FLY))|Y(",
  "TE ORDER MARK|ZANTINE MUSICAL SYMBOL (A(GOGI (ARG(I|OTERI)|GORG(I|OTERI)|ME(SI|TRIA)|POLI (",
  "ARGI|GORGI))|N(ATRICHISMA|TIKENO(KYLISMA|MA))|P(ESO E(KFONITIKON|XO NEO)|LI|O(DERMA (ARCHAION|",
  "NEO)|STROFO(I (SYNDESMOS NEO|TELOUS ICHIMATOS)|S(| (DIPLI|NEO)))|THEMA))|R(GO(N|SYNTHETON)|",
  "KTIKO (DI|GA|KE|NI|PA|VOU|ZO)))|CH(AMIL(I|ON)|OREVMA (ARCHAION|NEO)|ROA (KLITON|SPATHI|ZYGOS))",
  "|D(ASEIA|I(A(RGON|STOLI (APLI M(EGALI|IKRI)|DIPLI|THESEOS))|ESIS (APLI DYO DODEKATA|",
  "DIGRAMMOS EX DODEKATA|MONOGRAMMOS TESSERA DODEKATA|T(ETARTIMORION|RI(GRAMMOS OKTO DODEKATA|",
  "TIMORION)))|FTOGGOS OU|G(ORGON(| PARESTIGMENON (ARISTERA (ANO|KATO)|DEXIA))|RAMMA GG)|PLI(|",
  " ARCHAION))|YO)|E(KSTREPTON|LAFRON|N(ARXIS KAI FTHORA VOU|DOFONON)|PEGERMA|TERON (",
  "ARGOSYNTHETON|PARAKALESMA)|XO EKFONITIKON)|F(ANEROSIS (DIFONIAS|MONOFONIAS|TETRAFONIAS)|",
  "HTORA SKLIRON CHROMA VASIS|THORA (ARCHAION(| DEYTEROU ICHOU)|DIATONIKI (DI|KE|N(ANA|I (ANO|",
  "KATO))|PA|ZO)|ENARMONIOS ANTIFONIA|I YFESIS TETARTIMORION|MALAKON CHROMA (DIFONIAS|MONOFONIAS)",
  "|N(AOS ICHOS|ENANO)|SKLIRON (CHROMA (SYNAFI|VASIS)|DIATONON DI)))|G(ENIKI (DIESIS|YFESIS)|OR(",
  "GO(N (ARCHAION|NEO (ANO|KATO)|PARESTIGMENON (ARISTERA|DEXIA))|SYNTHETON)|THMIKON N (APLOUN|",
  "DIPLOUN))|RONTHISMATA)|I(CHADIN|MI(DIARGON|F(ONON|THOR(A|ON)))|S(AKIA TELOUS ICHIMATOS|ON (",
  "ARCHAION|NEO)))|K(AT(AVA( TROMIKON|SMA)|HISTI)|ENTIMA( (ARCHAION|NEO (ANO|KATO|MESO))|TA(| (",
  "ARCHAION|NEO (ANO|KATO|MESO))))|LASMA(| (ANO|KATO))|O(NTEVMA(| ALLO)|RONIS|UFISMA)|R(ATIM(A( (",
  "A(LLO|RCHAION)|NEO)|TA)|O(KOUFISMA|YPORROON))|EMASTI)|YLISMA)|L(E(IMMA (DYO CHRONON|",
  "ENOS CHRONOU|IMISEOS CHRONOU|T(ESSARON CHRONON|RION CHRONON))|MOI)|YGISMA)|M(ARTYRIA (ALLI (",
  "DEYTEROS ICHOS|PROTOS ICHOS)|DEYTEROS ICHOS|LEGETOS ICHOS|P(LAGIOS (ICHOS|TETARTOS ICHOS)|",
  "ROTO(S ICHOS|VARYS ICHOS))|T(ETARTOS (ICHOS|LEGETOS ICHOS)|RI(FONIAS|TOS ICHOS))|VARYS ICHOS)|",
  "IKRON ISON)|NANA|O(LIGON (ARCHAION|NEO)|MALON|XEIA( (DIPLI|EKFONITIKON|NEO)|I ARCHAION)|",
  "YRANISMA (ARCHAION|NEO))|P(AR(AK(ALESMA (ARCHAION|NEO)|LITIKI(| (ARCHAION|NEO)))|ICHON)|E(",
  "LASTON(| NEO)|RISPOMENI|TAS(MA|T(I|OKOUFISMA)))|IASMA (ARCHAION|NEO)|SI(FISTO(LYGISMA|N(| NEO)",
  "|PARAKALESMA|SYNAGMA)|L(I|ON)))|R(APISMA|EVMA)|S(AXIMATA|EISMA(| NEO)|IMANSIS (ARSEOS(| (",
  "DISIMOU|T(ETRASIMOU|RISIMOU)))|THESEOS(| (DISIMOU|T(ETRASIMOU|RISIMOU))))|T(AVROS(| APODEXIA)|",
  "IGMA|RAGGISMATA)|Y(N(AGMA (ARCHAION|META STAVROU|NEO)|EVMA)|RMA(|TIKI)))|T(E(LEIA|SSERA|",
  "TRAPLI)|H(E(MA(| APLOUN|TISMOS E(SO|XO))|S KAI APOTHES)|ITA)|INAGMA|R(I(A|GORGON|PLI)|OMIKO(",
  "LYGISMA|N (A(LLO|RCHAION)|NEO)|P(ARAKALESMA|SIFISTON)|SYNAGMA)))|VA(REIA( (DIPLI|EKFONITIKON|",
  "NEO)|I ARCHAION)|THY)|XIRON KLASMA|Y(FE(N (ANO|KATO)|SIS (APLI DYO DODEKATA|",
  "DIGRAMMOS EX DODEKATA|MONOGRAMMOS TESSERA DODEKATA|TRI(GRAMMOS OKTO DODEKATA|TIMORION)))|P(O(",
  "KRISIS(| DIPLI)|RROI)|SILI)))))"]

end LayerGraph.Text
