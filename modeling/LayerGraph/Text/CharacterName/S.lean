/-! Names of characters that begin with S. -/

set_option autoImplicit false

namespace LayerGraph.Text

/-- Names that begin with S: what stands before brackets goes before each of the endings in them. -/
def namesInS : List String := [
  "S( IN TRIANGLE|A(FETY (PIN|VEST)|GITTARIUS|ILBOAT|KE BOTTLE AND CUP|L(T( SHAKER|IRE)|",
  "UTING FACE)|MARITAN (ABBREVIATION MARK|LETTER (ALAF|B(AA|IT)|DALAT|FI|GAMAN|I(N|T|Y)|KAAF|",
  "LABAT|MIM|NUN|QUF|RISH|S(HAN|INGAAT)|T(AAF|IT|SAADIY)|YUT|ZEN)|M(ARK (DAGESH|EPENTHETIC YUT|",
  "IN(|-ALAF)|NEQUDAA|OCCLUSION)|ODIFIER LETTER (EPENTHETIC YUT|I|SHORT A))|PUNCTUATION (A(FSAAQ|",
  "N(GED|NAAU)|RKAANU|TMAAU)|BAU|MELODIC QITSA|NEQUDAA|QITSA|S(HIYYAALAA|OF MASHFAAT)|TURU|Z(AEF|",
  "IQAA))|VOWEL SIGN (A(|A)|E|I|LONG (A(|A)|E|I|U)|O(|VERLONG A(|A))|S(HORT A|UKUN)|U))|N(DWICH|",
  "S-SERIF (HEAVY (DOUBLE (COMMA QUOTATION MARK ORNAMENT|TURNED COMMA QUOTATION MARK ORNAMENT)|",
  "LOW DOUBLE COMMA QUOTATION MARK ORNAMENT)|INTERROBANG ORNAMENT))|RI|T(ELLITE(| ANTENNA)|URN)|",
  "UR(ASHTRA (CONSONANT SIGN HAARU|D(ANDA|IGIT (EIGHT|F(IVE|OUR)|NINE|ONE|S(EVEN|IX)|T(HREE|WO)|",
  "ZERO)|OUBLE DANDA)|LETTER (A(|A|I|U)|B(A|HA)|C(A|HA)|D(A|D(A|HA)|HA)|E(|E)|G(A|HA)|HA|I(|I)|J(",
  "A|HA)|K(A|HA)|L(A|LA)|MA|N(A|GA|NA|YA)|O(|O)|P(A|HA)|RA|S(A|HA|SA)|T(A|HA|T(A|HA))|U(|U)|V(A|",
  "OCALIC (L(|L)|R(|R)))|YA)|SIGN (ANUSVARA|CANDRABINDU|VI(RAMA|SARGA))|VOWEL SIGN (A(A|I|U)|E(|",
  "E)|I(|I)|O(|O)|U(|U)|VOCALIC (L(|L)|R(|R))))|OPOD)|XOPHONE)|C(A(LES|RF)|HOOL(| SATCHEL)|I|O(",
  "OTER|RPI(ON|US))|R(E(EN|WDRIVER)|IPT (CAPITAL (B|E|F|H|I|L|M|P|R)|LIGATURE ET ORNAMENT|SMALL (",
  "E|G|L|O))|OLL|UPLE))|E(A(L|T)|C(OND PLACE MEDAL|T(ION SIGN|OR))|DNA|E(-NO-EVIL MONKEY|DLING)|",
  "GMENT(|ED DIGIT (EIGHT|F(IVE|OUR)|NINE|ONE|S(EVEN|IX)|T(HREE|WO)|ZERO))|LFIE|MI(COLON|",
  "DIRECT PRODUCT WITH BOTTOM CLOSED|SEXTILE)|PARATED SYMBOL|R(IOUS FACE WITH SYMBOLS COVERING MO",
  "UTH|VICE MARK)|S(AME DOT|QUIQUADRATE)|T (MINUS|TRANSMIT STATE)|WING NEEDLE|XTILE)|GC|H(A(",
  "DOWED WHITE (CIRCLE|LATIN CROSS|STAR)|LLOW PAN OF FOOD|MROCK|R(ADA (ABBREVIATION SIGN|",
  "CONTINUATION SIGN|D(ANDA|IGIT (EIGHT|F(IVE|OUR)|NINE|ONE|S(EVEN|IX)|T(HREE|WO)|ZERO)|",
  "OUBLE DANDA)|E(KAM|XTRA SHORT VOWEL MARK)|HEADSTROKE|LETTER (A(|A|I|U)|B(A|HA)|C(A|HA)|D(A|D(",
  "A|HA)|HA)|E|G(A|HA)|HA|I(|I)|J(A|HA)|K(A|HA)|L(A|LA)|MA|N(A|GA|NA|YA)|O|P(A|HA)|RA|S(A|HA|SA)|",
  "T(A|HA|T(A|HA))|U(|U)|V(A|OCALIC (L(|L)|R(|R)))|YA)|OM|S(ANDHI MARK|E(CTION MARK-(1|2)|",
  "PARATOR)|IGN (A(NUSVARA|VAGRAHA)|CANDRABINDU|INVERTED CANDRABINDU|JIHVAMULIYA|NUKTA|SIDDHAM|",
  "UPADHMANIYA|VI(RAMA|SARGA))|UTRA MARK)|VOWEL (MODIFIER MARK|SIGN (A(A|I|U)|E|I(|I)|O|",
  "PRISHTHAMATRA E|U(|U)|VOCALIC (L(|L)|R(|R)))))|K)|V(ED ICE|IAN LETTER (A(DO|GE|H|IR|R(E|RAY)|",
  "SH|WE)|BIB|CHURCH|DEAD|E(A(R|T)|GG|RR)|FEE|GAG|H(A-HA|UNG)|I(AN|CE|F)|JUDGE|KICK|LOLL|M(",
  "EASURE|IME)|NUN|O(AK|IL|N|OZE|R|UT)|PEEP|ROAR|S(O|URE)|T(H(EY|IGH)|OT)|UP|VOW|WO(E|OL)|YE(A|W)",
  "|ZOO)))|EEP|I(ELD|FT (IN|OUT)|NTO SHRINE|P)|O(CKED FACE WITH EXPLODING HEAD|OTING STAR|PPING (",
  "BAGS|TROLLEY)|RT( (B(ACKSLANTED SOUTH ARROW|ENT ARROW POINTING DOWNWARDS THEN NORTH EAST)|",
  "DOWN TACK(| WITH OVERBAR)|LEFT TACK|RIGHTWARDS ARROW ABOVE LEFTWARDS ARROW|",
  "SLANTED NORTH ARROW|UP TACK(| (ABOVE SHORT DOWN TACK|WITH UNDERBAR)))|CAKE|HAND FORMAT (",
  "CONTINUING OVERLAP|DOWN STEP|LETTER OVERLAP|UP STEP)|S)|ULDERED OPEN BOX|WER)|R(IMP|UG)|",
  "UFFLE PRODUCT|Y)|I(|D(DHAM (D(ANDA|OUBLE DANDA)|END OF TEXT MARK|LETTER (A(|A|I|LTERNATE U|U)|",
  "B(A|HA)|C(A|HA)|D(A|D(A|HA)|HA)|E|G(A|HA)|HA|I(|I)|J(A|HA)|K(A|HA)|LA|MA|N(A|GA|NA|YA)|O|P(A|",
  "HA)|RA|S(A|HA|SA)|T(A|H(A|REE-CIRCLE ALTERNATE I)|T(A|HA)|WO-CIRCLE ALTERNATE I(|I))|U(|U)|V(",
  "A|OCALIC (L(|L)|R(|R)))|YA)|REPETITION MARK-(1|2|3)|S(E(CTION MARK (DOUBLE RING(| WITH RAYS)|",
  "WITH (CIRCLES AND (FOUR ENCLOSURES|RAYS|TWO ENCLOSURES)|DOUBLE CRESCENTS|QUADRUPLE CRESCENTS|",
  "RAYS AND DOTTED (CRESCENTS|DOUBLE CRESCENTS|TRIPLE CRESCENTS)|SEPTUPLE CRESCENTS|TRI(",
  "DENT AND (DOTTED CRESCENTS|U-SHAPED ORNAMENTS)|PLE CRESCENTS)))|PARATOR (BAR|DOT))|IGN (",
  "ANUSVARA|CANDRABINDU|NUKTA|SIDDHAM|VI(RAMA|SARGA)))|VOWEL SIGN (A(A|I|LTERNATE U(|U)|U)|E|I(|",
  "I)|O|U(|U)|VOCALIC R(|R)))|EWAYS (BLACK (DOWN POINTING INDEX|LEFT POINTING INDEX|",
  "RIGHT POINTING INDEX|UP POINTING INDEX)|WHITE (DOWN POINTING INDEX|LEFT POINTING INDEX|",
  "RIGHT POINTING INDEX|UP POINTING INDEX)))|GN( OF THE HORNS|WRITING (AIR (BLOW(",
  " SMALL ROTATIONS|ING OUT)|SUCK( SMALL ROTATIONS|ING IN))|BR(EATH (EXHALE|INHALE)|USH (BETWEEN|",
  "MULTIPLE|SINGLE))|C(HEEKS (NEUTRAL|PUFFED|SUCKED)|O(LON|MMA))|D(REAMY EYEBROWS (DOWN NEUTRAL|",
  "NEUTRAL (DOWN|UP)|UP NEUTRAL)|YNAMIC (ARROWHEAD (LARGE|SMALL)|EVERY OTHER TIME|FAST|GRADUAL|",
  "RELAXED|S(IMULTANEOUS(| ALTERNATING)|LOW)|TENSE))|E(ARS|XCITEMENT|YE( (BLINK (MULTIPLE|SINGLE)",
  "|WINK)|BROWS STRAIGHT (DOWN|NEUTRAL|UP)|GAZE-(FLOORPLANE (CURVED|STRAIGHT(| (ALTERNATING|",
  "DOUBLE)))|WALLPLANE (C(IRCLING|URVED)|STRAIGHT(| (ALTERNATING|DOUBLE))))|LASHES (DOWN|",
  "FLUTTERING|UP)|S (CLOSED|HALF (CLOSED|OPEN)|OPEN|SQUEEZED|WIDE( OPEN|NING MOVEMENT))))|F(",
  "ACE DIRECTION POSITION NOSE (FORWARD TILTING|UP OR DOWN(| TILTING))|I(LL MODIFIER-(2|3|4|5|6)|",
  "NGER)|L(ICK (LARGE (MULTIPLE|SINGLE)|S(EQUENTIAL|MALL (MULTIPLE|SINGLE)))|",
  "OORPLANE SHOULDER HIP MOVE)|OREHEAD (CONTACT|NEUTRAL|WRINKLED)|ULL STOP)|GRASP (BETWEEN|",
  "MULTIPLE|SINGLE)|H(A(IR|ND-(ANGLE(| (INDEX(| (MIDDLE (LITTLE|RING)|RING LITTLE(| OUT)|THUMB(|",
  " (IN|OUT))))|LITTLE (INDEX(| THUMB INDEX THUMB(| OUT))|UP)|MIDDLE RING LITTLE(| (IN|OUT))|",
  "RING (DOWN MIDDLE THUMB INDEX CROSS|LITTLE)))|C(IRCLE(| (INDEX(| (BENT|HINGE|MIDDLE(| (CROSS(",
  " LITTLE|ED)|LITTLE|RING|THUMB))|RING LITTLE))|LITTLE (INDEX|UP)|MIDDLE (RING LITTLE(| BENT)|",
  "UP)|RING LITTLE))|LAW(| (FOUR FINGERS CONJOINED|INDEX THUMB CURVE THUMB INSIDE|",
  "MIDDLE RING LITTLE CONJOINED(| SIDE)|NO THUMB|THUMB (FORWARD|SIDE)))|U(P(| (",
  "FIVE FINGERS SPREAD(| OPEN)|INDEX(| (RING LITTLE|THUMB(| OPEN)))|MIDDLE RING LITTLE|NO THUMB|",
  "OPEN(| (NO THUMB|THUMB (FORWARD|SIDE)))|THUMB (FORWARD|SIDE)))|RLICUE(| (INDEX RING LITTLE ON|",
  "MIDDLE RING LITTLE ON|OPEN))))|F(IST(| (FOUR FINGERS CONJOINED BENT|HEEL|INDEX(| (BENT(|",
  " OVER MIDDLE)|CUPPED|HINGED(| (LOW|MIDDLE UP(| THUMB SIDE)))|MIDDLE(| (BENT(| THUMB STRAIGHT)|",
  "C(ONJOINED(| (CUPPED(| THUMB FORWARD)|HINGED(| THUMB SIDE)|INDEX BENT|MIDDLE BENT|THUMB (",
  "FORWARD|SIDE(| (BENT|CONJOINED)))))|ROSS( LITTLE|ED(| THUMB SIDE)))|HINGED(|",
  " SPREAD THUMB SIDE)|LITTLE|R(AISED KNUCKLES|ING(| (BENT|CONJOINED)))|STRAIGHT THUMB BENT|",
  "THUMB(| (ANGLED(| OUT)|BENT|C(IRCLED|ONJOINED HINGED|UPPED)|H(INGED|OOKED)))|",
  "UP SPREAD THUMB FORWARD))|R(AISED KNUCKLE|ING LITTLE)|THUMB (ANGLED (IN MIDDLE UP|",
  "OUT MIDDLE UP)|C(IRCLE(|D MIDDLE UP)|U(PPED MIDDLE UP|R(LICUE|VE THUMB (INSIDE|UNDER))))|",
  "FORWARD INDEX (BENT|STRAIGHT)|HOOK(|ED MIDDLE (HINGED|UP))|SIDE(| (BOTH BENT|INDEX (BENT|",
  "HINGE)|THUMB (BENT|CONJOINED|DIAGONAL))))|UP MIDDLE HINGED(| THUMB (CONJOINED|SIDE))))|",
  "LITTLE (BENT|DOWN(| (OTHERS CIRCLED|RIPPLE (CURVED|STRAIGHT)))|INDEX(| THUMB)|RAISED KNUCKLE|",
  "T(HUMB|OUCHES THUMB)|UP)|MIDDLE (BENT OVER INDEX|DOWN|LITTLE|R(AISED KNUCKLE|ING LITTLE)|",
  "THUMB (ANGLED (INDEX UP|OUT INDEX (CROSSED|UP))|C(IRCLED INDEX (HINGED|UP)|UPPED INDEX UP)|",
  "HOOKED INDEX UP|LITTLE)|UP(| THUMB SIDE))|RING (DOWN|INDEX|LITTLE|MIDDLE(| (CONJOINED|",
  "RAISED KNUCKLES))|RAISED KNUCKLE|THUMB|UP)|THUMB(| (BETWEEN (INDEX MIDDLE(| STRAIGHT)|",
  "MIDDLE RING|RING LITTLE)|FORWARD|HEEL|OVER (FOUR RAISED KNUCKLES|TWO FINGERS)|SIDE (BENT|",
  "CONJOINED|DIAGONAL)|UNDER (FOUR FINGERS|INDEX BENT|LITTLE UP|T(HREE FINGERS|WO FINGERS))))))|",
  "LAT(| (BETWEEN PALM FACINGS|F(IVE FINGERS SPREAD(| (BENT|FOUR BENT|HINGED(| (NO THUMB|",
  "THUMB SIDE))|THUMB FORWARD))|OUR FINGERS(| (BENT|CONJOINED(| SPLIT)|HINGED)))|HEEL(| (",
  "FIVE FINGERS SPREAD(| (BENT|FOUR BENT))|THUMB SIDE))|SPLIT (CENTRE(| THUMB SIDE(| BENT))|",
  "INDEX THUMB SIDE|LITTLE)|THUMB (BENT|FORWARD|SIDE))))|H(INGE(| (F(IVE FINGERS SPREAD OPEN|",
  "OUR FINGERS CONJOINED)|INDEX(| (HINGED|MIDDLE (LITTLE|RING(| CONJOINED))|RING LITTLE|THUMB(| (",
  "LARGE|OPEN|S(IDE|MALL)))))|LITTLE(| (INDEX(| THUMB)|THUMB))|MIDDLE(| RING LITTLE)|NO THUMB|",
  "OPEN(| (NO THUMB|THUMB (FORWARD|SIDE)))|RING(| DOWN INDEX THUMB HOOK MIDDLE)|SMALL|THUMB (",
  "BETWEEN MIDDLE RING|SIDE(| TOUCHING INDEX))))|OOK(| (CURLICUE|INDEX RING LITTLE (IN|OUT|UNDER)",
  "|MIDDLE (RING LITTLE CONJOINED(| (IN|OUT))|THUMB)|RING THUMB)))|OVAL(| (FIVE FINGERS SPREAD|",
  "INDEX|LITTLE UP|NO THUMB|RING LITTLE|THUMB (FORWARD|SIDE)))))|EAD(| (MOVEMENT( CIRCLE|-(",
  "FLOORPLANE (CURVE|STRAIGHT)|WALLPLANE (CURVE|STRAIGHT|TILT)))|RIM)))|L(I(MB (COMBINATION|",
  "LENGTH-(1|2|3|4|5|6|7))|P( (LOWER OVER UPPER|UPPER OVER LOWER)|S PRESSED TOGETHER))|OCATION( (",
  "DEPTH|HE(AD NECK|IGHT)|LIMBS DIGITS|TORSO|WIDTH)|-(FLOORPLANE SPACE|WALLPLANE SPACE)))|MO(",
  "UTH (C(LOSED (CONTACT|FORWARD|NEUTRAL)|ORNERS)|FROWN(| (OPEN|WRINKLED))|KISS(| (FORWARD|",
  "WRINKLED))|OPEN (CIRCLE|FORWARD|OVAL(| (WRINKLED|YAWN))|RECTANGLE(| (WRINKLED|YAWN))|WRINKLED)",
  "|SMILE(| (OPEN|WRINKLED))|TENSE(| (FORWARD|SUCKED))|WRINKLES (DOUBLE|SINGLE))|VEMENT-(",
  "DIAGONAL (AWAY (LARGE(|ST)|MEDIUM|SMALL)|BETWEEN (AWAY (LARGE(|ST)|MEDIUM|SMALL)|TOWARDS (",
  "LARGE(|ST)|MEDIUM|SMALL))|TOWARDS (LARGE(|ST)|MEDIUM|SMALL))|FLOORPLANE (",
  "ARM CIRCLE HITTING WALL (LARGE (DOUBLE|SINGLE)|MEDIUM (DOUBLE|SINGLE)|SMALL (DOUBLE|SINGLE))|",
  "B(END|OX (LARGE|MEDIUM|SMALL))|C(HECK|ORNER (LARGE|MEDIUM|SMALL)|ROSS|URVE (COMBINED|HITTING (",
  "CEILING (LARGE|SMALL)|FLOOR (LARGE|SMALL))|LARGE(|ST)|MEDIUM|SMALL))|DOUBLE (ALTERNATING(|",
  " WRIST FLEX)|STRAIGHT|WRIST FLEX)|FINGER C(IRCLES HITTING WALL (DOUBLE|SINGLE)|ONTACT)|HUMP (",
  "HITTING (CEILING (LARGE (DOUBLE|TRIPLE)|SMALL (DOUBLE|TRIPLE))|FLOOR (LARGE DOUBLE|",
  "SMALL DOUBLE|TRIPLE (LARGE TRIPLE|SMALL TRIPLE)))|SMALL)|JAW|LOOP (HITTING (CEILING (LARGE (",
  "DOUBLE|SINGLE)|SMALL (DOUBLE|SINGLE))|FLOOR (LARGE (DOUBLE|SINGLE)|SMALL (DOUBLE|SINGLE)))|",
  "SMALL)|PEAKS (LARGE|MEDIUM|SMALL)|S(HAKING PARALLEL|INGLE (STRAIGHT (LARGE(|ST)|MEDIUM|SMALL)|",
  "WRIST FLEX))|TRIPLE (ALTERNATING (MOVEMENT|WRIST FLEX)|STRAIGHT MOVEMENT|WRIST FLEX)|W(AVE (",
  "HITTING (CEILING (LARGE|SMALL)|FLOOR (LARGE|SMALL))|LARGE|S(MALL|NAKE))|",
  "RIST CIRCLE HITTING WALL (DOUBLE|SINGLE))|ZIGZAG (LARGE|MEDIUM|SMALL))|HINGE (DOWN SEQUENTIAL|",
  "SIDE TO SIDE SCISSORS|UP (DOWN (ALTERNATING (LARGE|SMALL)|LARGE|SMALL)|SEQUENTIAL))|",
  "WALLPLANE (ARM CIRCLE (MEDIUM (DOUBLE|SINGLE)|SMALL (DOUBLE|SINGLE))|B(END (LARGE|MEDIUM|",
  "SMALL)|OX (LARGE|MEDIUM|SMALL))|C(HECK (LARGE|MEDIUM|SMALL)|ORNER (LARGE|MEDIUM|ROTATION|",
  "SMALL)|ROSS|URVE( (H(ALF-CIRCLE (LARGE(|ST)|MEDIUM|SMALL)|ITTING (CHEST|FRONT WALL))|QUARTER (",
  "LARGE(|ST)|MEDIUM|SMALL)|TH(EN STRAIGHT|REE-QUARTER CIRCLE (MEDIUM|SMALL)))|D CROSS (MEDIUM|",
  "SMALL)))|DOUBLE (ALTERNATING(| WRIST FLEX)|STRAIGHT|WRIST FLEX)|FINGER C(IRCLES (DOUBLE|",
  "SINGLE)|ONTACT)|HUMP (HITTING (CHEST|FRONT WALL)|LARGE|MEDIUM|SMALL)|JAW|LOOP (HITTING (CHEST|",
  "FRONT WALL)|LARGE|MEDIUM|SMALL(| DOUBLE))|PEAKS (LARGE|MEDIUM|SMALL)|S(HAKING|INGLE (",
  "STRAIGHT (LARGE(|ST)|MEDIUM|SMALL)|WRIST FLEX))|TRIPLE (ALTERNATING(| WRIST FLEX)|",
  "STRAIGHT MOVEMENT|WRIST FLEX)|W(AVE (CURVE (DOUBLE (LARGE|MEDIUM|SMALL)|TRIPLE (LARGE|MEDIUM|",
  "SMALL))|DIAGONAL PATH (LARGE|MEDIUM|SMALL)|HITTING (CHEST|FRONT WALL))|RIST CIRCLE FRONT (",
  "DOUBLE|SINGLE))|ZIGZAG (LARGE|MEDIUM|SMALL))))|N(ECK|OSE (CONTACT|NEUTRAL|W(IGGLES|RINKLES)))|",
  "PARENTHESIS|R(OTATION( MODIFIER-(1(0|1|2|3|4|5|6)|2|3|4|5|6|7|8|9)|-(FLOORPLANE (ALTERNATING(|",
  " HITTING (CEILING|FLOOR))|DOUBLE(| HITTING (CEILING|FLOOR))|SINGLE(| HITTING (CEILING|FLOOR)))",
  "|WALLPLANE (ALTERNAT(E|ING HITTING (CHEST|FRONT WALL))|DOUBLE(| HITTING (CHEST|FRONT WALL))|",
  "SINGLE(| HITTING (CHEST|FRONT WALL)))))|UB (BETWEEN|MULTIPLE|SINGLE))|S(EMICOLON|HOULDER (",
  "HIP (POSITIONS|SPINE)|TILTING FROM WAIST)|QUEEZE (FLICK ALTERNATING|LARGE (MULTIPLE|SINGLE)|S(",
  "EQUENTIAL|MALL (MULTIPLE|SINGLE)))|TRIKE (BETWEEN|MULTIPLE|SINGLE)|URFACE (BETWEEN|SYMBOLS))|",
  "T(E(ETH(| (BITE LIPS|MOVEMENT|ON (LIPS(| MOVEMENT)|TONGUE(| MOVEMENT))))|NSE CHEEKS (HIGH|LOW|",
  "MIDDLE))|O(NGUE (CENTRE (INSIDE MOUTH|STICKING OUT)|INSIDE MOUTH RELAXED|LICKING LIPS|",
  "MOVES AGAINST CHEEK|STICKING OUT FAR|TIP (BETWEEN LIPS|TOUCHING INSIDE MOUTH))|RSO-(",
  "FLOORPLANE TWISTING|WALLPLANE (CURVED BEND|STRAIGHT STRETCH))|UCH (BETWEEN|MULTIPLE|SINGLE))|",
  "RAVEL-(FLOORPLANE (ROTATION-(FLOORPLANE (ALTERNATING|DOUBLE|SINGLE)|WALLPLANE (ALTERNATING|",
  "DOUBLE|SINGLE))|SHAKING)|WALLPLANE (ARM SPIRAL (DOUBLE|SINGLE|TRIPLE)|ROTATION-(FLOORPLANE (",
  "ALTERNATING|DOUBLE|SINGLE)|WALLPLANE (ALTERNATING|DOUBLE|SINGLE))|SHAKING)))|",
  "UPPER BODY TILTING FROM HIP JOINTS|WALLPLANE SHOULDER HIP MOVE))|LHOUETTE OF JAPAN|MILAR (",
  "ABOVE (GREATER-THAN ABOVE EQUALS SIGN|LESS-THAN ABOVE EQUALS SIGN)|MINUS SIMILAR|OR (",
  "GREATER-THAN|LESS-THAN))|N(E WAVE|GLE( (CHARACTER INTRODUCER|GRAPHIC CHARACTER INTRODUCER|",
  "HIGH-REVERSED-9 QUOTATION MARK|L(EFT-POINTING ANGLE QUOTATION MARK|OW-9 QUOTATION MARK)|",
  "RIGHT-POINTING ANGLE QUOTATION MARK|SHIFT T(HREE|WO))|-SHIFT-(2|3))|HALA (ARCHAIC (DIGIT (",
  "EIGHT|F(IVE|OUR)|NINE|ONE|S(EVEN|IX)|T(HREE|WO))|NUMBER (EIGHTY|F(IFTY|ORTY)|NINETY|ONE (",
  "HUNDRED|THOUSAND)|S(EVENTY|IXTY)|T(EN|HIRTY|WENTY)))|L(ETTER (A(AYANNA|E(EYANNA|YANNA)|IYANNA|",
  "LPAPRAANA (BAYANNA|CAYANNA|D(AYANNA|DAYANNA)|GAYANNA|JAYANNA|KAYANNA|PAYANNA|T(AYANNA|TAYANNA)",
  ")|MBA BAYANNA|UYANNA|YANNA)|DANTAJA (LAYANNA|NAYANNA|SAYANNA)|E(EYANNA|YANNA)|FAYANNA|HAYANNA|",
  "I(IYANNA|LU(UYANNA|YANNA)|RU(UYANNA|YANNA)|YANNA)|KANTAJA NAASIKYAYA|M(A(HAAPRAANA (BAYANNA|",
  "CAYANNA|D(AYANNA|DAYANNA)|GAYANNA|JAYANNA|KAYANNA|PAYANNA|T(AYANNA|TAYANNA))|YANNA)|UURDHAJA (",
  "LAYANNA|NAYANNA|SAYANNA))|O(OYANNA|YANNA)|RAYANNA|SANYAKA (D(AYANNA|DAYANNA)|GAYANNA|JAYANNA)|",
  "TAALUJA (NAASIKYAYA|SA(NYOOGA NAAKSIKYAYA|YANNA))|U(UYANNA|YANNA)|VAYANNA|YAYANNA)|ITH DIGIT (",
  "EIGHT|F(IVE|OUR)|NINE|ONE|S(EVEN|IX)|T(HREE|WO)|ZERO))|PUNCTUATION KUNDDALIYA|SIGN (A(",
  "L-LAKUNA|NUSVARAYA)|CANDRABINDU|VISARGAYA)|VOWEL SIGN (AELA-PILLA|DIGA (AEDA-PILLA|GA(",
  "ETTA-PILLA|YANUKITTA)|IS-PILLA|KOMBUVA|PAA-PILLA)|GA(ETTA-PILLA|YANUKITTA)|K(ETTI (AEDA-PILLA|",
  "IS-PILLA|PAA-PILLA)|OMBU( DEKA|VA(| HAA (AELA-PILLA|DIGA AELA-PILLA|GAYANUKITTA)))))))|X( P(",
  "ETALLED BLACK AND WHITE FLORETTE|OINTED (BLACK STAR|PINWHEEL STAR|STAR WITH MIDDLE DOT))|",
  "-PER-EM SPACE|TEEN POINTED ASTERISK))|K(ATEBOARD|I( AND SKI BOOT|ER)|U(LL(| AND CROSSBONES)|",
  "NK))|L(A(NTED (EQUAL TO OR (GREATER-THAN(| WITH DOT INSIDE)|LESS-THAN(| WITH DOT INSIDE))|",
  "NORTH ARROW WITH HO(OKED HEAD|RIZONTAL TAIL))|VONIC ASTERISK)|E(D|EP(ING (ACCOMMODATION|FACE|",
  "SYMBOL)|Y FACE)|UTH OR SPY)|I(CE OF PIZZA|GHTLY (FROWNING FACE|SMILING FACE))|O(P(E|",
  "ING LARGE (AND|OR))|T( MACHINE|H)))|M(A(LL( (A(IRPLANE|MPERSAND|STERISK)|BLUE DIAMOND|CO(LON|",
  "MM(A|ERCIAL AT)|NTAINS (AS MEMBER|WITH (OVERBAR|VERTICAL BAR AT END OF HORIZONTAL STROKE)))|",
  "DOLLAR SIGN|E(LEMENT OF(| WITH (OVERBAR|VERTICAL BAR AT END OF HORIZONTAL STROKE))|M DASH|",
  "QUALS SIGN|XCLAMATION MARK)|FULL STOP|GREATER-THAN SIGN|HYPHEN-MINUS|IDEOGRAPHIC COMMA|LE(FT (",
  "CURLY BRACKET|PARENTHESIS|TORTOISE SHELL BRACKET)|SS-THAN SIGN)|NUMBER SIGN|ORANGE DIAMOND|P(",
  "ERCENT SIGN|LUS SIGN)|QUESTION MARK|R(EVERSE SOLIDUS|IGHT (CURLY BRACKET|PARENTHESIS|",
  "TORTOISE SHELL BRACKET)|OMAN NUMERAL (E(IGHT|LEVEN)|F(I(FTY|VE(| HUNDRED))|OUR)|NINE|ONE(| (",
  "HUNDRED|THOUSAND))|S(EVEN|IX)|T(EN|HREE|W(ELVE|O))))|SEMICOLON|T(ILDE|WO DOTS OVER ONE DOT PUN",
  "CTUATION)|VEE WITH UNDERBAR)|ER THAN(| OR EQUAL TO))|SH PRODUCT)|I(L(E|ING (CAT FACE WITH (",
  "HEART-SHAPED EYES|OPEN MOUTH)|FACE WITH (H(ALO|EART-SHAPED EYES|ORNS)|OPEN MOUTH(| AND (",
  "COLD SWEAT|SMILING EYES|TIGHTLY-CLOSED EYES))|S(MILING EYES(| AND (HAND COVERING MOUTH|",
  "THREE HEARTS))|UNGLASSES)|TEAR)))|RKING FACE)|OKING SYMBOL)|N(A(IL|KE)|EEZING FACE|OW(",
  " CAPPED MOUNTAIN|BOARDER|FLAKE|MAN(| WITHOUT SNOW)))|O(|C(CER BALL|KS)|FT( (HYPHEN|ICE CREAM|",
  "SHELL FLOPPY DISK)|BALL|WARE-FUNCTION SYMBOL)|GDIAN (COMBINING (CURVE (ABOVE|BELOW)|DOT (",
  "ABOVE|BELOW)|HOOK (ABOVE|BELOW)|LONG HOOK BELOW|RESH BELOW|STROKE BELOW|TWO DOTS (ABOVE|BELOW)",
  ")|INDEPENDENT SHIN|LETTER (A(LEPH|YIN)|BETH|FETH|GIMEL|HE(|TH)|KAPH|L(AMEDH|ESH)|MEM|NUN|PE|",
  "RESH-AYIN|S(A(DHE|MEKH)|HIN)|TAW|WAW|YODH|ZAYIN)|NUMBER (ONE(| HUNDRED)|T(EN|WENTY))|",
  "PUNCTUATION (CIRCLE WITH DOT|HALF CIRCLE WITH DOT|TWO (CIRCLES WITH DOTS|VERTICAL BARS(|",
  " WITH DOTS))))|H|LID( QUILT SQUARE ORNAMENT(| IN BLACK SQUARE)|US(| WITH OVERBAR))|M SIGN|",
  "ON WITH RIGHTWARDS ARROW ABOVE|RA SOMPENG (DIGIT (EIGHT|F(IVE|OUR)|NINE|ONE|S(EVEN|IX)|T(HREE|",
  "WO)|ZERO)|LETTER (AH|BAH|CAH|DAH|E(EH|H)|GAH|HAH|IH|JAH|KAH|LAH|MA(E|H)|N(AH|GAH|YAH)|OH|PAH|",
  "RAH|SAH|TAH|UH|VAH|YAH))|S|U(ND RECORDING COPYRIGHT|TH (EAST (ARROW(| (AND SOUTH WEST ARROW|",
  "CROSSING NORTH EAST ARROW|TO CORNER|WITH HOOK))|BLACK ARROW|DOUBLE ARROW|POINTING (BUD|LEAF|",
  "VINE LEAF)|SANS-SERIF ARROW|TRIANGLE-HEADED ARROW(| TO BAR)|WHITE ARROW)|WEST (ARROW(| (",
  "AND NORTH WEST ARROW|WITH HOOK))|BLACK ARROW|DOUBLE ARROW|POINTING (BUD|LEAF|VINE LEAF)|",
  "SANS-SERIF ARROW|TRIANGLE-HEADED ARROW(| TO BAR)|WHITE ARROW)))|YOMBO (",
  "CLUSTER-INITIAL LETTER (LA|RA|S(A|HA))|FINAL CONSONANT SIGN (-A|B|D|G|K|L|M|N(|G)|R|S(|H))|",
  "GEMINATION MARK|HEAD MARK WITH MOON AND SUN(| AND (FLAME|TRIPLE FLAME))|LETTER (-A|A|B(A|HA)|",
  "C(A|HA)|D(A|D(A|HA)|HA|ZA)|G(A|HA)|HA|J(A|HA)|K(A|HA|SSA)|LA|MA|N(A|GA|NA|YA)|P(A|HA)|RA|S(A|",
  "HA|SA)|T(A|HA|S(A|HA)|T(A|HA))|VA|YA|Z(A|HA))|MARK (DOUBLE SHAD|PLUTA|SHAD|TSHEG)|S(IGN (",
  "ANUSVARA|JIHVAMULIYA|UPADHMANIYA|VISARGA)|UBJOINER)|TERMINAL MARK-(1|2)|VOWEL (LENGTH MARK|",
  "SIGN (A(I|U)|E|I|O(|E)|U(|E)|VOCALIC (L|R)))))|P(|A(|CE|GHETTI|RKL(E(|S)|ING HEART))|E(AK(",
  "-NO-EVIL MONKEY|ER(| WITH (CANCELLATION STROKE|ONE SOUND WAVE|THREE SOUND WAVES))|",
  "ING HEAD IN SILHOUETTE)|E(CH BALLOON|DBOAT)|SMILO SIGN)|HERICAL ANGLE(| OPENING (LEFT|UP))|I(",
  "DER(| WEB)|RAL (CALENDAR PAD|NOTE PAD|SHELL))|LASHING SWEAT SYMBOL|O(NGE|O(L OF THREAD|N)|",
  "RTS MEDAL|UTING WHALE))|QU(A(RE( (A( OVER M|ARU|M|NPEA|PAATO|RUHUA|U)|B(A(ARERU|R)|EETA|IRU|",
  "ORUTO|Q|USSYERU)|C( OVER KG|A(L|P)|C|D|M(| (CUBED|SQUARED))|O(|RPORATION)|UP)|D(A(|ASU)|B|ESI|",
  "J|L|M(| (CUBED|SQUARED))|ORU)|E(EKAA|R(A NAME (HEISEI|MEIZI|REIWA|SYOUWA|TAISYOU)|G)|SUKUUDO|",
  "V)|F(M|O(OT|UR CORNERS))|G(A(L|NMA|RON)|B|HZ|I(GA|NII|RUDAA)|PA|URAMU(|TON)|Y)|H(A(|ITU)|E(",
  "KUTAARU|RUTU)|G|IRAGANA HOKA|O(N|O(N|RU))|P(|A)|U(ARADDO|IITO|RAN)|Z)|I(MAGE OF(| OR (",
  "EQUAL TO|NOT EQUAL TO))|N(|INGU|TI)|U)|K( OHM|A(|IRI|R(ATTO|ORII))|B|CAL|EESU|G|HZ|IRO(|",
  "GURAMU|MEETORU|WATTO)|K|L|M(| (C(APITAL|UBED)|SQUARED))|O(OPO|RUNA)|PA|T|UR(OONE|UZEIRO)|V|W|",
  "YURII)|L(EFT OPEN BOX OPERATOR|M|N|O(G|ZENGE)|X)|M( (CUBED|O(HM|VER S(| SQUARED))|SQUARED)|A(|",
  "HHA|I(KURO|RU)|NSYON|RUKU)|B(| SMALL)|E(ETORU|GA(|TON))|G|HZ|I(KURON|L|RI(|BAARU))|L|M(| (",
  "CUBED|SQUARED))|OL|PA|S|U (A|F|G|L|M|S|V|W)|V(| MEGA)|W(| MEGA))|N(A(|NO)|F|M|OTTO|S|V|W)|O(",
  "NSU|OMU|RIGINAL OF(| OR (EQUAL TO|NOT EQUAL TO))|V)|P(A(| AMPS|A(SENTO|TU))|C|E(EZI|N(IHI|SU)|",
  "SO)|F|H|I(ASUTORU|K(O|URU))|M|O(INTO|NDO|SITION INDICATOR)|PM|R|S|V|W)|R(AD(| OVER S(|",
  " SQUARED))|E(MU|NTOGEN)|I(GHT OPEN BOX OPERATOR|RA|TTORU)|OOT|U(PII|UBURU))|S(A(IKURU|NTIIMU)|",
  "ENT(I|O)|IRINGU|R|V)|T(ARGET|HZ|ON)|UON|V OVER M|W(ATTO|B|ITH (BOTTOM HALF BLACK|",
  "CONTOURED OUTLINE|DIAGONAL CROSSHATCH FILL|HORIZONTAL FILL|L(EFT HALF BLACK|OWER (",
  "LEFT DIAGONAL HALF BLACK|RIGHT DIAGONAL HALF BLACK))|ORTHOGONAL CROSSHATCH FILL|",
  "RIGHT HALF BLACK|TOP HALF BLACK|UPPER (LEFT (DIAGONAL HALF BLACK|TO LOWER RIGHT FILL)|RIGHT (",
  "DIAGONAL HALF BLACK|TO LOWER LEFT FILL))|VERTICAL FILL))|Y(AA(DO|RU)|UAN))|D (ASTERISK|C(",
  "JK UNIFIED IDEOGRAPH-(4E(0(0|9)|2D|8C|A4)|5(18D|2(1D|4D|72)|3(CC|F3)|4(08|39)|5B6|8F0|9(1A|29)",
  "|B57|DE6|F8C)|6(2(4B|53|95)|3(07|55)|5(99|B0)|620|70(8|9)|E80|F14)|7(121|5(1F|33)|981|A7A|D42)",
  "|8(9E3|CA9|D70)|9(04A|14D))|L|OOL)|DOT OPERATOR|EIGHT K|F(ALLING DIAGONAL SLASH|IVE POINT ONE|",
  "OUR (DOT PUNCTUATION|K)|REE)|H(C|DR|I-RES|V)|ID|K(ATAKANA (DE|KOKO|SA)|EY)|L(ATIN (",
  "CAPITAL LETTER (A|B|C|D|E|F|G|H|I|J|K|L|M|N|O|P|Q|R|S|T|U|V|W|X|Y|Z)|SMALL LETTER D)|O(GICAL (",
  "AND|OR)|SSLESS))|M(INUS|V)|N(EW|G)|O(K|NE HUNDRED TWENTY P)|P(LUS|PV)|RISING DIAGONAL SLASH|S(",
  "ALTIRE|D|E(COND SCREEN|VEN POINT ONE)|HV|IXTY P|MALL CIRCLE|OS|QUARE|S)|T(HREE D|IMES|W(",
  "ENTY-TWO POINT TWO|O K))|U(HD|P WITH EXCLAMATION MARK)|V(OD|S)|WC))|T BLACK RIGHTWARDS ARROW)|",
  "ID)|S(2|3|A)|T(|A(DIUM|FF OF (AESCULAPIUS|HERMES)|MPED ENVELOPE|NDING PERSON|R( (AND CRESCENT|",
  "EQUALS|O(F DAVID|PERATOR)|WITH (LEFT HALF BLACK|RIGHT HALF BLACK))|T OF (GUARDED AREA|HEADING|",
  "PROTECTED AREA|S(ELECTED AREA|TRING)|TEXT))|T(ION|UE OF LIBERTY))|E(AM( LOCOMOTIVE|ING BOWL)|",
  "NOGRAPHIC FULL STOP|THOSCOPE)|ICK FIGURE(| (LEANING (LEFT|RIGHT)|WITH (ARMS RAISED|DRESS)))|O(",
  "CK CHART|PWATCH)|R(A(IGHT( RULER|NESS)|WBERRY)|ESS OUTLINED WHITE STAR|I(CTLY EQUIVALENT TO|",
  "NG TERMINATOR))|S|U(DIO MICROPHONE|FFED FLATBREAD|PA)|X)|U(B(|S(CRIPT (E(IGHT|QUALS SIGN)|F(",
  "IVE|OUR)|LEFT PARENTHESIS|MINUS|NINE|ONE|PLUS SIGN|RIGHT PARENTHESIS|S(EVEN|IX)|T(HREE|WO)|",
  "ZERO)|ET (ABOVE (RIGHTWARDS ARROW|SU(BSET|PERSET))|OF(| (ABOVE (ALMOST EQUAL TO|EQUALS SIGN|",
  "NOT EQUAL TO|TILDE OPERATOR)|OR EQUAL TO(| WITH DOT ABOVE)|WITH NOT EQUAL TO))|WITH (DOT|",
  "MULTIPLICATION SIGN BELOW|PLUS SIGN BELOW))|TITUTE))|CCEEDS(| (ABOVE (ALMOST EQUAL TO|",
  "EQUALS SIGN|NOT (ALMOST EQUAL TO|EQUAL TO)|SINGLE-LINE (EQUALS SIGN|NOT EQUAL TO))|",
  "BUT NOT EQUIVALENT TO|OR EQU(AL TO|IVALENT TO)|UNDER RELATION))|MMATION (BOTTOM|TOP|",
  "WITH INTEGRAL)|N(| (BEHIND CLOUD|WITH FACE)|DANESE (AVAGRAHA|CONSONANT SIGN PA(MINGKAL|NY(",
  "AKRA|IKU)|SANGAN (MA|WA))|DIGIT (EIGHT|F(IVE|OUR)|NINE|ONE|S(EVEN|IX)|T(HREE|WO)|ZERO)|",
  "LETTER (A(|E)|B(A|HA)|CA|DA|E(|U)|F(A|INAL (K|M))|GA|HA|I|JA|K(A|HA)|L(A|EU)|MA|N(A|GA|YA)|O|",
  "PA|QA|R(A|EU)|S(A|YA)|TA|U|VA|WA|XA|YA|ZA)|PUNCTUATION BINDU (BA SATANGA|CAKRA|DA SATANGA|",
  "KA SATANGA|LEU SATANGA|P(ANGLONG|URNAMA)|SURYA)|SIGN (PA(MAAEH|N(G(LAYAR|WISAD)|YECEK))|",
  "VIRAMA)|VOWEL SIGN PA(MEPET|N(AELAENG|EULEUNG|GHULU|OLONG|YUKU)))|FLOWER|RISE(|",
  " OVER MOUNTAINS)|SET OVER BUILDINGS)|PER(HERO|S(CRIPT (E(IGHT|QUALS SIGN)|F(IVE|OUR)|L(",
  "ATIN SMALL LETTER (I|N)|EFT PARENTHESIS)|MINUS|NINE|ONE|PLUS SIGN|RIGHT PARENTHESIS|S(EVEN|IX)",
  "|T(HREE|WO)|ZERO)|ET (ABOVE (LEFTWARDS ARROW|SU(BSET|PERSET))|BESIDE (AND JOINED BY DASH WITH ",
  "SUBSET|SUBSET)|OF(| (ABOVE (ALMOST EQUAL TO|EQUALS SIGN|NOT EQUAL TO|TILDE OPERATOR)|",
  "OR EQUAL TO(| WITH DOT ABOVE)|WITH NOT EQUAL TO))|PRECEDING SOLIDUS|WITH (DOT|",
  "MULTIPLICATION SIGN BELOW|PLUS SIGN BELOW)))|VILLAIN)|RF(ACE INTEGRAL|ER)|S(HI|",
  "PENSION RAILWAY))|W(A(N|SH AMPERSAND ORNAMENT)|IMMER|UNG DASH)|Y(LOTI NAGRI (LETTER (A|B(HO|O)",
  "|C(HO|O)|D(D(HO|O)|HO|O)|E|G(HO|O)|HO|I|J(HO|O)|K(HO|O)|LO|MO|NO|O|P(HO|O)|R(O|RO)|SO|T(HO|O|",
  "T(HO|O))|U)|POETRY MARK-(1|2|3|4)|SIGN (A(LTERNATE HASANTA|NUSVARA)|DVISVARA|HASANTA)|",
  "VOWEL SIGN (A|E|I|OO|U))|M(BOL FOR (ACKNOWLEDGE|B(ACKSPACE|ELL)|CA(NCEL|RRIAGE RETURN)|D(",
  "ATA LINK ESCAPE|E(LETE(| FORM TWO)|VICE CONTROL (FOUR|ONE|T(HREE|WO))))|E(N(D OF (MEDIUM|T(",
  "EXT|RANSMISSION(| BLOCK)))|QUIRY)|SCAPE)|F(ILE SEPARATOR|ORM FEED)|GROUP SEPARATOR|",
  "HORIZONTAL TABULATION|LINE FEED|MARKS CHAPTER|N(E(GATIVE ACKNOWLEDGE|WLINE)|ULL)|",
  "RECORD SEPARATOR|S(AMARITAN SOURCE|HIFT (IN|OUT)|PACE|TART OF (HEADING|TEXT)|UBSTITUTE(|",
  " FORM TWO)|YNCHRONOUS IDLE)|TYPE A ELECTRONICS|UNIT SEPARATOR|VERTICAL TABULATION)|METRY)|N(|",
  "AGOGUE|CHRONOUS IDLE)|RI(AC (ABBREVIATION MARK|BARREKH|CO(LON SKEWED (LEFT|RIGHT)|NTRACTION)|",
  "DOTTED ZLAMA (ANGULAR|HORIZONTAL)|E(ND OF PARAGRAPH|SASA (ABOVE|BELOW))|FEMININE DOT|H(",
  "ARKLEAN (ASTERISCUS|METOBELUS|OBELUS)|BASA( (ABOVE|BELOW)|-ESASA DOTTED)|ORIZONTAL COLON)|",
  "LETTER (ALAPH|BETH|D(ALATH|OTLESS DALATH RISH)|E|FINAL SEMKATH|GAMAL(| GARSHUNI)|HE(|TH)|KAPH|",
  "LAMADH|M(ALAYALAM (BHA|JA|LL(A|LA)|N(GA|N(A|NA)|YA)|RA|SSA|TTA)|IM)|NUN|PE(|RSIAN (BHETH|",
  "DHALATH|GHAMAL))|QAPH|R(EVERSED PE|ISH)|S(ADHE|EMKATH|HIN|OGDIAN (FE|KHAPH|ZHAIN)|",
  "UPERSCRIPT ALAPH)|T(AW|ETH(| GARSHUNI))|WAW|YUDH(| HE)|ZAIN)|MUSIC|OBLIQUE LINE (ABOVE|BELOW)|",
  "PTHAHA (ABOVE|BELOW|DOTTED)|QUSHSHAYA|R(BASA (ABOVE|BELOW)|UKKAKHA|WAHA)|SU(BLINEAR (COLON(|",
  " SKEWED (LEFT|RIGHT))|FULL STOP)|PRALINEAR (COLON(| SKEWED LEFT)|FULL STOP))|T(HREE DOTS (",
  "ABOVE|BELOW)|WO VERTICAL DOTS (ABOVE|BELOW))|ZQAPHA (ABOVE|BELOW|DOTTED))|NGE)))"]

end LayerGraph.Text
