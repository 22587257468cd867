import Dialogue.Text.Name.Basic
/-!
Names of letters that have been added to the scripts of Europe.
-/
namespace Dialogue.Text.Name

def extended : List Run := [
  ⟨0x1c80, 1, "CYRILLIC SMALL LETTER ", [
    "ROUNDED VE;LONG-LEGGED DE;NARROW O;WIDE ES;TALL TE;THREE-LEGGED TE;TALL HARD SIGN",
    "TALL YAT;UNBLENDED UK"]⟩,
  ⟨0x1c90, 1, "GEORGIAN MTAVRULI CAPITAL LETTER ", [
    "AN;BAN;GAN;DON;EN;VIN;ZEN;TAN;IN;KAN;LAS;MAN;NAR;ON;PAR;ZHAR;RAE;SAN;TAR;UN;PHAR;KHAR",
    "GHAN;QAR;SHIN;CHIN;CAN;JIL;CIL;CHAR;XAN;JHAN;HAE;HE;HIE;WE;HAR;HOE;FI;YN;ELIFI",
    "TURNED GAN;AIN"]⟩,
  ⟨0x1cbd, 1, "GEORGIAN MTAVRULI CAPITAL LETTER ", ["AEN;HARD SIGN;LABIAL SIGN"]⟩,
  ⟨0x1d00, 1, "LATIN ", ["LETTER SMALL CAPITAL A;LETTER SMALL CAPITAL AE;SMALL LETTER TURNED AE"]⟩,
  ⟨0x1d03, 1, "LATIN LETTER SMALL CAPITAL ", ["BARRED B;C;D;ETH;E"]⟩,
  ⟨0x1d08, 1, "LATIN SMALL LETTER TURNED ", ["OPEN E;I"]⟩,
  ⟨0x1d0a, 1, "LATIN LETTER SMALL CAPITAL ", ["J;K;L WITH STROKE;M;REVERSED N;O;OPEN O"]⟩,
  ⟨0x1d11, 1, "LATIN SMALL LETTER ", [
    "SIDEWAYS O;SIDEWAYS OPEN O;SIDEWAYS O WITH STROKE;TURNED OE"]⟩,
  ⟨0x1d15, 1, "LATIN ", [
    "LETTER SMALL CAPITAL OU;SMALL LETTER TOP HALF O;SMALL LETTER BOTTOM HALF O"]⟩,
  ⟨0x1d18, 1, "LATIN LETTER SMALL CAPITAL ", ["P;REVERSED R;TURNED R;T;U"]⟩,
  ⟨0x1d1d, 1, "LATIN SMALL LETTER SIDEWAYS ", ["U;DIAERESIZED U;TURNED M"]⟩,
  ⟨0x1d20, 1, "LATIN LETTER SMALL CAPITAL ", ["V;W;Z;EZH"]⟩,
  ⟨0x1d24, 1, "LATIN LETTER ", ["VOICED LARYNGEAL SPIRANT;AIN"]⟩,
  ⟨0x1d26, 1, "GREEK LETTER SMALL CAPITAL ", ["GAMMA;LAMDA;PI;RHO;PSI"]⟩,
  ⟨0x1d2b, 1, "", ["CYRILLIC LETTER SMALL CAPITAL EL"]⟩,
  ⟨0x1d2c, 1, "MODIFIER LETTER CAPITAL ", [
    "A;AE;B;BARRED B;D;E;REVERSED E;G;H;I;J;K;L;M;N;REVERSED N;O;OU;P;R;T;U;W"]⟩,
  ⟨0x1d43, 1, "MODIFIER LETTER SMALL ", [
    "A;TURNED A;ALPHA;TURNED AE;B;D;E;SCHWA;OPEN E;TURNED OPEN E;G;TURNED I;K;M;ENG;O;OPEN O",
    "TOP HALF O;BOTTOM HALF O;P;T;U;SIDEWAYS U;TURNED M;V;AIN;BETA;GREEK GAMMA;DELTA",
    "GREEK PHI;CHI"]⟩,
  ⟨0x1d62, 1, "LATIN SUBSCRIPT SMALL LETTER ", ["I;R;U;V"]⟩,
  ⟨0x1d66, 1, "GREEK SUBSCRIPT SMALL LETTER ", ["BETA;GAMMA;RHO;PHI;CHI"]⟩,
  ⟨0x1d6b, 1, "LATIN SMALL LETTER ", [
    "UE;B WITH MIDDLE TILDE;D WITH MIDDLE TILDE;F WITH MIDDLE TILDE;M WITH MIDDLE TILDE",
    "N WITH MIDDLE TILDE;P WITH MIDDLE TILDE;R WITH MIDDLE TILDE",
    "R WITH FISHHOOK AND MIDDLE TILDE;S WITH MIDDLE TILDE;T WITH MIDDLE TILDE",
    "Z WITH MIDDLE TILDE;TURNED G"]⟩,
  ⟨0x1d78, 1, "", ["MODIFIER LETTER CYRILLIC EN"]⟩,
  ⟨0x1d79, 1, "LATIN SMALL ", [
    "LETTER INSULAR G;LETTER TH WITH STRIKETHROUGH;CAPITAL LETTER I WITH STROKE",
    "LETTER IOTA WITH STROKE;LETTER P WITH STROKE;CAPITAL LETTER U WITH STROKE"]⟩,
  ⟨0x1d7f, 1, "LATIN SMALL LETTER ", [
    "UPSILON WITH STROKE;B WITH PALATAL HOOK;D WITH PALATAL HOOK;F WITH PALATAL HOOK",
    "G WITH PALATAL HOOK;K WITH PALATAL HOOK;L WITH PALATAL HOOK;M WITH PALATAL HOOK",
    "N WITH PALATAL HOOK;P WITH PALATAL HOOK;R WITH PALATAL HOOK;S WITH PALATAL HOOK",
    "ESH WITH PALATAL HOOK;V WITH PALATAL HOOK;X WITH PALATAL HOOK;Z WITH PALATAL HOOK",
    "A WITH RETROFLEX HOOK;ALPHA WITH RETROFLEX HOOK;D WITH HOOK AND TAIL",
    "E WITH RETROFLEX HOOK;OPEN E WITH RETROFLEX HOOK;REVERSED OPEN E WITH RETROFLEX HOOK",
    "SCHWA WITH RETROFLEX HOOK;I WITH RETROFLEX HOOK;OPEN O WITH RETROFLEX HOOK",
    "ESH WITH RETROFLEX HOOK;U WITH RETROFLEX HOOK;EZH WITH RETROFLEX HOOK"]⟩,
  ⟨0x1d9b, 1, "MODIFIER LETTER SMALL ", [
    "TURNED ALPHA;C;C WITH CURL;ETH;REVERSED OPEN E;F;DOTLESS J WITH STROKE;SCRIPT G;TURNED H",
    "I WITH STROKE;IOTA;CAPITAL I;CAPITAL I WITH STROKE;J WITH CROSSED-TAIL",
    "L WITH RETROFLEX HOOK;L WITH PALATAL HOOK;CAPITAL L;M WITH HOOK;TURNED M WITH LONG LEG",
    "N WITH LEFT HOOK;N WITH RETROFLEX HOOK;CAPITAL N;BARRED O;PHI;S WITH HOOK;ESH",
    "T WITH PALATAL HOOK;U BAR;UPSILON;CAPITAL U;V WITH HOOK;TURNED V;Z;Z WITH RETROFLEX HOOK",
    "Z WITH CURL;EZH;THETA"]⟩,
  ⟨0x1dc0, 1, "COMBINING ", [
    "DOTTED GRAVE ACCENT;DOTTED ACUTE ACCENT;SNAKE BELOW;SUSPENSION MARK;MACRON-ACUTE",
    "GRAVE-MACRON;MACRON-GRAVE;ACUTE-MACRON;GRAVE-ACUTE-GRAVE;ACUTE-GRAVE-ACUTE",
    "LATIN SMALL LETTER R BELOW;BREVE-MACRON;MACRON-BREVE;DOUBLE CIRCUMFLEX ABOVE",
    "OGONEK ABOVE;ZIGZAG BELOW;IS BELOW;UR ABOVE;US ABOVE"]⟩,
  ⟨0x1dd3, 1, "COMBINING LATIN SMALL LETTER ", [
    "FLATTENED OPEN A ABOVE;AE;AO;AV;C CEDILLA;INSULAR D;ETH;G"]⟩,
  ⟨0x1ddb, 1, "COMBINING LATIN ", [
    "LETTER SMALL CAPITAL G;SMALL LETTER K;SMALL LETTER L;LETTER SMALL CAPITAL L",
    "LETTER SMALL CAPITAL M;SMALL LETTER N;LETTER SMALL CAPITAL N;LETTER SMALL CAPITAL R"]⟩,
  ⟨0x1de3, 1, "COMBINING LATIN SMALL LETTER ", [
    "R ROTUNDA;S;LONG S;Z;ALPHA;B;BETA;SCHWA;F;L WITH DOUBLE MIDDLE TILDE",
    "O WITH LIGHT CENTRALIZATION STROKE;P;ESH;U WITH LIGHT CENTRALIZATION STROKE;W",
    "A WITH DIAERESIS;O WITH DIAERESIS;U WITH DIAERESIS"]⟩,
  ⟨0x1df5, 1, "COMBINING ", [
    "UP TACK ABOVE;KAVYKA ABOVE RIGHT;KAVYKA ABOVE LEFT;DOT ABOVE LEFT",
    "WIDE INVERTED BRIDGE BELOW;DOT BELOW LEFT;DELETION MARK;DOUBLE INVERTED BREVE BELOW",
    "ALMOST EQUAL TO BELOW;LEFT ARROWHEAD ABOVE;RIGHT ARROWHEAD AND DOWN ARROWHEAD BELOW"]⟩,
  ⟨0x2c00, 1, "GLAGOLITIC CAPITAL LETTER ", [
    "AZU;BUKY;VEDE;GLAGOLI;DOBRO;YESTU;ZHIVETE;DZELO;ZEMLJA;IZHE;INITIAL IZHE;I;DJERVI;KAKO",
    "LJUDIJE;MYSLITE;NASHI;ONU;POKOJI;RITSI;SLOVO;TVRIDO;UKU;FRITU;HERU;OTU;PE;SHTA;TSI",
    "CHRIVI;SHA;YERU;YERI;YATI;SPIDERY HA;YU;SMALL YUS;SMALL YUS WITH TAIL;YO",
    "IOTATED SMALL YUS;BIG YUS;IOTATED BIG YUS;FITA;IZHITSA;SHTAPIC;TROKUTASTI A",
    "LATINATE MYSLITE;CAUDATE CHRIVI"]⟩,
  ⟨0x2c30, 1, "GLAGOLITIC SMALL LETTER ", [
    "AZU;BUKY;VEDE;GLAGOLI;DOBRO;YESTU;ZHIVETE;DZELO;ZEMLJA;IZHE;INITIAL IZHE;I;DJERVI;KAKO",
    "LJUDIJE;MYSLITE;NASHI;ONU;POKOJI;RITSI;SLOVO;TVRIDO;UKU;FRITU;HERU;OTU;PE;SHTA;TSI",
    "CHRIVI;SHA;YERU;YERI;YATI;SPIDERY HA;YU;SMALL YUS;SMALL YUS WITH TAIL;YO",
    "IOTATED SMALL YUS;BIG YUS;IOTATED BIG YUS;FITA;IZHITSA;SHTAPIC;TROKUTASTI A",
    "LATINATE MYSLITE;CAUDATE CHRIVI"]⟩,
  ⟨0x2c60, 1, "LATIN ", [
    "CAPITAL LETTER L WITH DOUBLE BAR;SMALL LETTER L WITH DOUBLE BAR",
    "CAPITAL LETTER L WITH MIDDLE TILDE;CAPITAL LETTER P WITH STROKE",
    "CAPITAL LETTER R WITH TAIL;SMALL LETTER A WITH STROKE"]⟩,
  ⟨0x2c66, 2, "LATIN SMALL LETTER ", [
    "T WITH DIAGONAL STROKE;H WITH DESCENDER;K WITH DESCENDER;Z WITH DESCENDER"]⟩,
  ⟨0x2c67, 2, "LATIN CAPITAL LETTER ", [
    "H WITH DESCENDER;K WITH DESCENDER;Z WITH DESCENDER;ALPHA"]⟩,
  ⟨0x2c6e, 1, "LATIN CAPITAL LETTER ", ["M WITH HOOK;TURNED A;TURNED ALPHA"]⟩,
  ⟨0x2c71, 1, "LATIN ", [
    "SMALL LETTER V WITH RIGHT HOOK;CAPITAL LETTER W WITH HOOK;SMALL LETTER W WITH HOOK",
    "SMALL LETTER V WITH CURL;CAPITAL LETTER HALF H"]⟩,
  ⟨0x2c76, 1, "LATIN SMALL LETTER ", [
    "HALF H;TAILLESS PHI;E WITH NOTCH;TURNED R WITH TAIL;O WITH LOW RING INSIDE"]⟩,
  ⟨0x2c7b, 1, "", [
    "LATIN LETTER SMALL CAPITAL TURNED E;LATIN SUBSCRIPT SMALL LETTER J",
    "MODIFIER LETTER CAPITAL V;LATIN CAPITAL LETTER S WITH SWASH TAIL",
    "LATIN CAPITAL LETTER Z WITH SWASH TAIL"]⟩,
  ⟨0x2c80, 2, "COPTIC CAPITAL LETTER ", [
    "ALFA;VIDA;GAMMA;DALDA;EIE;SOU;ZATA;HATE;THETHE;IAUDA;KAPA;LAULA;MI;NI;KSI;O;PI;RO;SIMA",
    "TAU;UA;FI;KHI;PSI;OOU;DIALECT-P ALEF;OLD COPTIC AIN;CRYPTOGRAMMIC EIE;DIALECT-P KAPA",
    "DIALECT-P NI;CRYPTOGRAMMIC NI;OLD COPTIC OOU;SAMPI;CROSSED SHEI;OLD COPTIC SHEI",
    "OLD COPTIC ESH;AKHMIMIC KHEI;DIALECT-P HORI;OLD COPTIC HORI;OLD COPTIC HA;L-SHAPED HA",
    "OLD COPTIC HEI;OLD COPTIC HAT;OLD COPTIC GANGIA;OLD COPTIC DJA;OLD COPTIC SHIMA",
    "OLD NUBIAN SHIMA;OLD NUBIAN NGI;OLD NUBIAN NYI;OLD NUBIAN WAU"]⟩,
  ⟨0x2c81, 2, "COPTIC SMALL LETTER ", [
    "ALFA;VIDA;GAMMA;DALDA;EIE;SOU;ZATA;HATE;THETHE;IAUDA;KAPA;LAULA;MI;NI;KSI;O;PI;RO;SIMA",
    "TAU;UA;FI;KHI;PSI;OOU;DIALECT-P ALEF;OLD COPTIC AIN;CRYPTOGRAMMIC EIE;DIALECT-P KAPA",
    "DIALECT-P NI;CRYPTOGRAMMIC NI;OLD COPTIC OOU;SAMPI;CROSSED SHEI;OLD COPTIC SHEI",
    "OLD COPTIC ESH;AKHMIMIC KHEI;DIALECT-P HORI;OLD COPTIC HORI;OLD COPTIC HA;L-SHAPED HA",
    "OLD COPTIC HEI;OLD COPTIC HAT;OLD COPTIC GANGIA;OLD COPTIC DJA;OLD COPTIC SHIMA",
    "OLD NUBIAN SHIMA;OLD NUBIAN NGI;OLD NUBIAN NYI;OLD NUBIAN WAU"]⟩,
  ⟨0x2ce4, 1, "COPTIC SYMBOL ", ["KAI;MI RO;PI RO;STAUROS;TAU RO;KHI RO;SHIMA SIMA"]⟩,
  ⟨0x2ceb, 1, "COPTIC ", [
    "CAPITAL LETTER CRYPTOGRAMMIC SHEI;SMALL LETTER CRYPTOGRAMMIC SHEI",
    "CAPITAL LETTER CRYPTOGRAMMIC GANGIA;SMALL LETTER CRYPTOGRAMMIC GANGIA;COMBINING NI ABOVE",
    "COMBINING SPIRITUS ASPER;COMBINING SPIRITUS LENIS;CAPITAL LETTER BOHAIRIC KHEI",
    "SMALL LETTER BOHAIRIC KHEI"]⟩,
  ⟨0x2cf9, 1, "COPTIC OLD NUBIAN ", [
    "FULL STOP;DIRECT QUESTION MARK;INDIRECT QUESTION MARK;VERSE DIVIDER"]⟩,
  ⟨0x2cfd, 1, "COPTIC ", ["FRACTION ONE HALF;FULL STOP;MORPHOLOGICAL DIVIDER"]⟩,
  ⟨0x2d00, 1, "GEORGIAN SMALL LETTER ", [
    "AN;BAN;GAN;DON;EN;VIN;ZEN;TAN;IN;KAN;LAS;MAN;NAR;ON;PAR;ZHAR;RAE;SAN;TAR;UN;PHAR;KHAR",
    "GHAN;QAR;SHIN;CHIN;CAN;JIL;CIL;CHAR;XAN;JHAN;HAE;HE;HIE;WE;HAR;HOE"]⟩,
  ⟨0x2d27, 1, "", ["GEORGIAN SMALL LETTER YN"]⟩,
  ⟨0x2d2d, 1, "", ["GEORGIAN SMALL LETTER AEN"]⟩,
  ⟨0x2de0, 1, "COMBINING CYRILLIC LETTER ", [
    "BE;VE;GHE;DE;ZHE;ZE;KA;EL;EM;EN;O;PE;ER;ES;TE;HA;TSE;CHE;SHA;SHCHA;FITA;ES-TE;A;IE;DJERV",
    "MONOGRAPH UK;YAT;YU;IOTIFIED A;LITTLE YUS;BIG YUS;IOTIFIED BIG YUS"]⟩,
  ⟨0xa640, 2, "CYRILLIC CAPITAL LETTER ", [
    "ZEMLYA;DZELO;REVERSED DZE;IOTA;DJERV;MONOGRAPH UK;BROAD OMEGA;NEUTRAL YER",
    "YERU WITH BACK YER;IOTIFIED YAT;REVERSED YU;IOTIFIED A;CLOSED LITTLE YUS;BLENDED YUS",
    "IOTIFIED CLOSED LITTLE YUS;YN;REVERSED TSE;SOFT DE;SOFT EL;SOFT EM;MONOCULAR O",
    "BINOCULAR O;DOUBLE MONOCULAR O"]⟩,
  ⟨0xa641, 2, "CYRILLIC SMALL LETTER ", [
    "ZEMLYA;DZELO;REVERSED DZE;IOTA;DJERV;MONOGRAPH UK;BROAD OMEGA;NEUTRAL YER",
    "YERU WITH BACK YER;IOTIFIED YAT;REVERSED YU;IOTIFIED A;CLOSED LITTLE YUS;BLENDED YUS",
    "IOTIFIED CLOSED LITTLE YUS;YN;REVERSED TSE;SOFT DE;SOFT EL;SOFT EM;MONOCULAR O",
    "BINOCULAR O;DOUBLE MONOCULAR O"]⟩,
  ⟨0xa66e, 1, "", ["CYRILLIC LETTER MULTIOCULAR O"]⟩,
  ⟨0xa66f, 1, "COMBINING CYRILLIC ", [
    "VZMET;TEN MILLIONS SIGN;HUNDRED MILLIONS SIGN;THOUSAND MILLIONS SIGN"]⟩,
  ⟨0xa673, 1, "", ["SLAVONIC ASTERISK"]⟩,
  ⟨0xa674, 1, "COMBINING CYRILLIC LETTER ", ["UKRAINIAN IE;I;YI;U;HARD SIGN;YERU;SOFT SIGN;OMEGA"]⟩,
  ⟨0xa67c, 1, "COMBINING CYRILLIC ", ["KAVYKA;PAYEROK"]⟩,
  ⟨0xa67e, 1, "CYRILLIC ", ["KAVYKA;PAYEROK"]⟩,
  ⟨0xa680, 2, "CYRILLIC CAPITAL LETTER ", [
    "DWE;DZWE;ZHWE;CCHE;DZZE;TE WITH MIDDLE HOOK;TWE;TSWE;TSSE;TCHE;HWE;SHWE;DOUBLE O",
    "CROSSED O"]⟩,
  ⟨0xa681, 2, "CYRILLIC SMALL LETTER ", [
    "DWE;DZWE;ZHWE;CCHE;DZZE;TE WITH MIDDLE HOOK;TWE;TSWE;TSSE;TCHE;HWE;SHWE;DOUBLE O",
    "CROSSED O"]⟩,
  ⟨0xa69c, 1, "MODIFIER LETTER CYRILLIC ", ["HARD SIGN;SOFT SIGN"]⟩,
  ⟨0xa69e, 1, "COMBINING CYRILLIC LETTER ", ["EF;IOTIFIED E"]⟩,
  ⟨0xa700, 1, "MODIFIER LETTER CHINESE TONE ", [
    "YIN PING;YANG PING;YIN SHANG;YANG SHANG;YIN QU;YANG QU;YIN RU;YANG RU"]⟩,
  ⟨0xa708, 1, "MODIFIER LETTER ", [
    "EXTRA-HIGH DOTTED TONE BAR;HIGH DOTTED TONE BAR;MID DOTTED TONE BAR;LOW DOTTED TONE BAR",
    "EXTRA-LOW DOTTED TONE BAR;EXTRA-HIGH DOTTED LEFT-STEM TONE BAR",
    "HIGH DOTTED LEFT-STEM TONE BAR;MID DOTTED LEFT-STEM TONE BAR",
    "LOW DOTTED LEFT-STEM TONE BAR;EXTRA-LOW DOTTED LEFT-STEM TONE BAR",
    "EXTRA-HIGH LEFT-STEM TONE BAR;HIGH LEFT-STEM TONE BAR;MID LEFT-STEM TONE BAR",
    "LOW LEFT-STEM TONE BAR;EXTRA-LOW LEFT-STEM TONE BAR;DOT VERTICAL BAR;DOT SLASH",
    "DOT HORIZONTAL BAR;LOWER RIGHT CORNER ANGLE;RAISED UP ARROW;RAISED DOWN ARROW",
    "RAISED EXCLAMATION MARK;RAISED INVERTED EXCLAMATION MARK;LOW INVERTED EXCLAMATION MARK",
    "STRESS AND HIGH TONE;STRESS AND LOW TONE"]⟩,
  ⟨0xa722, 2, "LATIN CAPITAL LETTER ", [
    "EGYPTOLOGICAL ALEF;EGYPTOLOGICAL AIN;HENG;TZ;TRESILLO;CUATRILLO;CUATRILLO WITH COMMA"]⟩,
  ⟨0xa723, 2, "LATIN SMALL LETTER ", [
    "EGYPTOLOGICAL ALEF;EGYPTOLOGICAL AIN;HENG;TZ;TRESILLO;CUATRILLO;CUATRILLO WITH COMMA"]⟩,
  ⟨0xa730, 1, "LATIN LETTER SMALL CAPITAL ", ["F;S"]⟩,
  ⟨0xa732, 2, "LATIN CAPITAL LETTER ", [
    "AA;AO;AU;AV;AV WITH HORIZONTAL BAR;AY;REVERSED C WITH DOT;K WITH STROKE",
    "K WITH DIAGONAL STROKE;K WITH STROKE AND DIAGONAL STROKE;BROKEN L;L WITH HIGH STROKE",
    "O WITH LONG STROKE OVERLAY;O WITH LOOP;OO;P WITH STROKE THROUGH DESCENDER",
    "P WITH FLOURISH;P WITH SQUIRREL TAIL;Q WITH STROKE THROUGH DESCENDER",
    "Q WITH DIAGONAL STROKE;R ROTUNDA;RUM ROTUNDA;V WITH DIAGONAL STROKE;VY;VISIGOTHIC Z",
    "THORN WITH STROKE;THORN WITH STROKE THROUGH DESCENDER;VEND;ET;IS;CON"]⟩,
  ⟨0xa733, 2, "LATIN SMALL LETTER ", [
    "AA;AO;AU;AV;AV WITH HORIZONTAL BAR;AY;REVERSED C WITH DOT;K WITH STROKE",
    "K WITH DIAGONAL STROKE;K WITH STROKE AND DIAGONAL STROKE;BROKEN L;L WITH HIGH STROKE",
    "O WITH LONG STROKE OVERLAY;O WITH LOOP;OO;P WITH STROKE THROUGH DESCENDER",
    "P WITH FLOURISH;P WITH SQUIRREL TAIL;Q WITH STROKE THROUGH DESCENDER",
    "Q WITH DIAGONAL STROKE;R ROTUNDA;RUM ROTUNDA;V WITH DIAGONAL STROKE;VY;VISIGOTHIC Z",
    "THORN WITH STROKE;THORN WITH STROKE THROUGH DESCENDER;VEND;ET;IS;CON;DUM"]⟩,
  ⟨0xa770, 1, "", ["MODIFIER LETTER US"]⟩,
  ⟨0xa772, 1, "LATIN SMALL LETTER ", ["LUM;MUM;NUM;RUM"]⟩,
  ⟨0xa776, 1, "LATIN ", [
    "LETTER SMALL CAPITAL RUM;SMALL LETTER TUM;SMALL LETTER UM;CAPITAL LETTER INSULAR D",
    "SMALL LETTER INSULAR D;CAPITAL LETTER INSULAR F;SMALL LETTER INSULAR F",
    "CAPITAL LETTER INSULAR G"]⟩,
  ⟨0xa77e, 2, "LATIN CAPITAL LETTER ", ["TURNED INSULAR G;TURNED L;INSULAR R;INSULAR S;INSULAR T"]⟩,
  ⟨0xa77f, 2, "LATIN SMALL LETTER ", ["TURNED INSULAR G;TURNED L;INSULAR R;INSULAR S;INSULAR T"]⟩,
  ⟨0xa788, 1, "MODIFIER LETTER ", ["LOW CIRCUMFLEX ACCENT;COLON;SHORT EQUALS SIGN"]⟩,
  ⟨0xa78b, 1, "LATIN ", [
    "CAPITAL LETTER SALTILLO;SMALL LETTER SALTILLO;CAPITAL LETTER TURNED H",
    "SMALL LETTER L WITH RETROFLEX HOOK AND BELT;LETTER SINOLOGICAL DOT",
    "CAPITAL LETTER N WITH DESCENDER;SMALL LETTER N WITH DESCENDER;CAPITAL LETTER C WITH BAR",
    "SMALL LETTER C WITH BAR;SMALL LETTER C WITH PALATAL HOOK"]⟩,
  ⟨0xa795, 2, "LATIN SMALL LETTER ", [
    "H WITH PALATAL HOOK;B WITH FLOURISH;F WITH STROKE;VOLAPUK AE;VOLAPUK OE;VOLAPUK UE",
    "G WITH OBLIQUE STROKE;K WITH OBLIQUE STROKE;N WITH OBLIQUE STROKE;R WITH OBLIQUE STROKE",
    "S WITH OBLIQUE STROKE"]⟩,
  ⟨0xa796, 2, "LATIN CAPITAL LETTER ", [
    "B WITH FLOURISH;F WITH STROKE;VOLAPUK AE;VOLAPUK OE;VOLAPUK UE;G WITH OBLIQUE STROKE",
    "K WITH OBLIQUE STROKE;N WITH OBLIQUE STROKE;R WITH OBLIQUE STROKE;S WITH OBLIQUE STROKE",
    "H WITH HOOK"]⟩,
  ⟨0xa7ab, 1, "LATIN CAPITAL LETTER ", ["REVERSED OPEN E;SCRIPT G;L WITH BELT;SMALL CAPITAL I"]⟩,
  ⟨0xa7af, 1, "", ["LATIN LETTER SMALL CAPITAL Q"]⟩,
  ⟨0xa7b0, 1, "LATIN CAPITAL LETTER ", ["TURNED K;TURNED T;J WITH CROSSED-TAIL;CHI"]⟩,
  ⟨0xa7b4, 2, "LATIN CAPITAL LETTER ", [
    "BETA;OMEGA;U WITH STROKE;GLOTTAL A;GLOTTAL I;GLOTTAL U;OLD POLISH O;ANGLICANA W",
    "C WITH PALATAL HOOK"]⟩,
  ⟨0xa7b5, 2, "LATIN SMALL LETTER ", [
    "BETA;OMEGA;U WITH STROKE;GLOTTAL A;GLOTTAL I;GLOTTAL U;OLD POLISH O;ANGLICANA W"]⟩,
  ⟨0xa7c5, 1, "LATIN CAPITAL LETTER ", [
    "S WITH HOOK;Z WITH PALATAL HOOK;D WITH SHORT STROKE OVERLAY"]⟩,
  ⟨0xa7c8, 1, "LATIN ", [
    "SMALL LETTER D WITH SHORT STROKE OVERLAY;CAPITAL LETTER S WITH SHORT STROKE OVERLAY",
    "SMALL LETTER S WITH SHORT STROKE OVERLAY"]⟩,
  ⟨0xa7d0, 1, "", ["LATIN CAPITAL LETTER CLOSED INSULAR G"]⟩,
  ⟨0xa7d1, 2, "LATIN SMALL LETTER ", [
    "CLOSED INSULAR G;DOUBLE THORN;DOUBLE WYNN;MIDDLE SCOTS S;SIGMOID S"]⟩,
  ⟨0xa7d6, 1, "", ["LATIN CAPITAL LETTER MIDDLE SCOTS S"]⟩,
  ⟨0xa7d8, 1, "", ["LATIN CAPITAL LETTER SIGMOID S"]⟩,
  ⟨0xa7f2, 1, "MODIFIER LETTER CAPITAL ", ["C;F;Q"]⟩,
  ⟨0xa7f5, 1, "", [
    "LATIN CAPITAL LETTER REVERSED HALF H;LATIN SMALL LETTER REVERSED HALF H",
    "LATIN EPIGRAPHIC LETTER SIDEWAYS I;MODIFIER LETTER CAPITAL H WITH STROKE",
    "MODIFIER LETTER SMALL LIGATURE OE;LATIN LETTER SMALL CAPITAL TURNED M"]⟩,
  ⟨0xa7fb, 1, "LATIN EPIGRAPHIC LETTER ", ["REVERSED F;REVERSED P;INVERTED M;I LONGA;ARCHAIC M"]⟩,
  ⟨0xab30, 1, "LATIN SMALL LETTER ", [
    "BARRED ALPHA;A REVERSED-SCHWA;BLACKLETTER E;BARRED E;E WITH FLOURISH;LENIS F",
    "SCRIPT G WITH CROSSED-TAIL;L WITH INVERTED LAZY S;L WITH DOUBLE MIDDLE TILDE",
    "L WITH MIDDLE RING;M WITH CROSSED-TAIL;N WITH CROSSED-TAIL;ENG WITH CROSSED-TAIL",
    "BLACKLETTER O;BLACKLETTER O WITH STROKE;OPEN O WITH STROKE;INVERTED OE",
    "TURNED OE WITH STROKE;TURNED OE WITH HORIZONTAL STROKE;TURNED O OPEN-O",
    "TURNED O OPEN-O WITH STROKE;STIRRUP R"]⟩,
  ⟨0xab46, 1, "", ["LATIN LETTER SMALL CAPITAL R WITH RIGHT LEG"]⟩,
  ⟨0xab47, 1, "LATIN SMALL LETTER ", [
    "R WITHOUT HANDLE;DOUBLE R;R WITH CROSSED-TAIL;DOUBLE R WITH CROSSED-TAIL;SCRIPT R",
    "SCRIPT R WITH RING;BASELINE ESH;U WITH SHORT RIGHT LEG;U BAR WITH SHORT RIGHT LEG;UI",
    "TURNED UI;U WITH LEFT HOOK;CHI;CHI WITH LOW RIGHT RING;CHI WITH LOW LEFT SERIF",
    "X WITH LOW RIGHT RING;X WITH LONG LEFT LEG;X WITH LONG LEFT LEG AND LOW RIGHT RING",
    "X WITH LONG LEFT LEG WITH SERIF;Y WITH SHORT RIGHT LEG"]⟩,
  ⟨0xab5b, 1, "", ["MODIFIER BREVE WITH INVERTED BREVE"]⟩,
  ⟨0xab5c, 1, "MODIFIER LETTER SMALL ", [
    "HENG;L WITH INVERTED LAZY S;L WITH MIDDLE TILDE;U WITH LEFT HOOK"]⟩,
  ⟨0xab60, 1, "LATIN SMALL LETTER ", ["SAKHA YAT;IOTIFIED E;OPEN OE;UO;INVERTED ALPHA"]⟩,
  ⟨0xab65, 1, "", ["GREEK LETTER SMALL CAPITAL OMEGA"]⟩,
  ⟨0xab66, 1, "LATIN SMALL LETTER ", [
    "DZ DIGRAPH WITH RETROFLEX HOOK;TS DIGRAPH WITH RETROFLEX HOOK;TURNED R WITH MIDDLE TILDE"]⟩,
  ⟨0xab69, 1, "MODIFIER LETTER ", ["SMALL TURNED W;LEFT TACK;RIGHT TACK"]⟩,
  ⟨0xfb13, 1, "ARMENIAN SMALL LIGATURE ", ["MEN NOW;MEN ECH;MEN INI;VEW NOW;MEN XEH"]⟩,
  ⟨0xfb1d, 1, "HEBREW ", [
    "LETTER YOD WITH HIRIQ;POINT JUDEO-SPANISH VARIKA;LIGATURE YIDDISH YOD YOD PATAH"]⟩,
  ⟨0xfb20, 1, "HEBREW LETTER ", [
    "ALTERNATIVE AYIN;WIDE ALEF;WIDE DALET;WIDE HE;WIDE KAF;WIDE LAMED;WIDE FINAL MEM",
    "WIDE RESH;WIDE TAV;ALTERNATIVE PLUS SIGN;SHIN WITH SHIN DOT;SHIN WITH SIN DOT",
    "SHIN WITH DAGESH AND SHIN DOT;SHIN WITH DAGESH AND SIN DOT;ALEF WITH PATAH",
    "ALEF WITH QAMATS;ALEF WITH MAPIQ;BET WITH DAGESH;GIMEL WITH DAGESH;DALET WITH DAGESH",
    "HE WITH MAPIQ;VAV WITH DAGESH;ZAYIN WITH DAGESH"]⟩,
  ⟨0xfb38, 1, "HEBREW LETTER ", [
    "TET WITH DAGESH;YOD WITH DAGESH;FINAL KAF WITH DAGESH;KAF WITH DAGESH;LAMED WITH DAGESH"]⟩,
  ⟨0xfb3e, 1, "", ["HEBREW LETTER MEM WITH DAGESH"]⟩,
  ⟨0xfb40, 1, "HEBREW LETTER ", ["NUN WITH DAGESH;SAMEKH WITH DAGESH"]⟩,
  ⟨0xfb43, 1, "HEBREW LETTER ", ["FINAL PE WITH DAGESH;PE WITH DAGESH"]⟩,
  ⟨0xfb46, 1, "HEBREW LETTER ", [
    "TSADI WITH DAGESH;QOF WITH DAGESH;RESH WITH DAGESH;SHIN WITH DAGESH;TAV WITH DAGESH",
    "VAV WITH HOLAM;BET WITH RAFE;KAF WITH RAFE;PE WITH RAFE"]⟩,
  ⟨0xfb4f, 1, "", ["HEBREW LIGATURE ALEF LAMED"]⟩,
  ⟨0x10780, 1, "MODIFIER LETTER ", [
    "SMALL CAPITAL AA;SUPERSCRIPT TRIANGULAR COLON;SUPERSCRIPT HALF TRIANGULAR COLON;SMALL AE",
    "SMALL CAPITAL B;SMALL B WITH HOOK"]⟩,
  ⟨0x10787, 1, "MODIFIER LETTER SMALL ", [
    "DZ DIGRAPH;DZ DIGRAPH WITH RETROFLEX HOOK;DZ DIGRAPH WITH CURL;DEZH DIGRAPH;D WITH TAIL",
    "D WITH HOOK;D WITH HOOK AND TAIL;REVERSED E;CLOSED REVERSED OPEN E;FENG DIGRAPH",
    "RAMS HORN;CAPITAL G;G WITH HOOK;CAPITAL G WITH HOOK;H WITH STROKE;CAPITAL H",
    "HENG WITH HOOK;DOTLESS J WITH STROKE AND HOOK;LS DIGRAPH;LZ DIGRAPH;L WITH BELT",
    "CAPITAL L WITH BELT;L WITH RETROFLEX HOOK AND BELT;LEZH;LEZH WITH RETROFLEX HOOK",
    "TURNED Y;TURNED Y WITH BELT;O WITH STROKE;CAPITAL OE;CLOSED OMEGA;Q",
    "TURNED R WITH LONG LEG;TURNED R WITH LONG LEG AND RETROFLEX HOOK;R WITH TAIL",
    "R WITH FISHHOOK;CAPITAL R;TC DIGRAPH WITH CURL;TS DIGRAPH;TS DIGRAPH WITH RETROFLEX HOOK",
    "TESH DIGRAPH;T WITH RETROFLEX HOOK;V WITH RIGHT HOOK"]⟩,
  ⟨0x107b2, 1, "MODIFIER LETTER ", [
    "SMALL CAPITAL Y;GLOTTAL STOP WITH STROKE;REVERSED GLOTTAL STOP WITH STROKE",
    "BILABIAL CLICK;DENTAL CLICK;LATERAL CLICK;ALVEOLAR CLICK",
    "RETROFLEX CLICK WITH RETROFLEX HOOK;SMALL S WITH CURL"]⟩,
  ⟨0x1df00, 1, "LATIN ", [
    "SMALL LETTER FENG DIGRAPH WITH TRILL;SMALL LETTER REVERSED SCRIPT G",
    "LETTER SMALL CAPITAL TURNED G;SMALL LETTER REVERSED K;LETTER SMALL CAPITAL L WITH BELT"]⟩,
  ⟨0x1df05, 1, "LATIN SMALL LETTER ", [
    "LEZH WITH RETROFLEX HOOK;TURNED Y WITH BELT;REVERSED ENG",
    "TURNED R WITH LONG LEG AND RETROFLEX HOOK;T WITH HOOK AND RETROFLEX HOOK"]⟩,
  ⟨0x1df0a, 1, "LATIN ", [
    "LETTER RETROFLEX CLICK WITH RETROFLEX HOOK;SMALL LETTER ESH WITH DOUBLE BAR",
    "SMALL LETTER ESH WITH DOUBLE BAR AND CURL;SMALL LETTER TURNED T WITH CURL",
    "LETTER INVERTED GLOTTAL STOP WITH CURL;LETTER STRETCHED C WITH CURL",
    "LETTER SMALL CAPITAL TURNED K"]⟩,
  ⟨0x1df11, 1, "LATIN SMALL LETTER ", [
    "L WITH FISHHOOK;DEZH DIGRAPH WITH PALATAL HOOK;L WITH BELT AND PALATAL HOOK",
    "ENG WITH PALATAL HOOK;TURNED R WITH PALATAL HOOK;R WITH FISHHOOK AND PALATAL HOOK",
    "TESH DIGRAPH WITH PALATAL HOOK;EZH WITH PALATAL HOOK;DEZH DIGRAPH WITH RETROFLEX HOOK",
    "I WITH STROKE AND RETROFLEX HOOK;O WITH RETROFLEX HOOK;TESH DIGRAPH WITH RETROFLEX HOOK",
    "C WITH RETROFLEX HOOK;S WITH CURL"]⟩,
  ⟨0x1e000, 1, "COMBINING GLAGOLITIC LETTER ", ["AZU;BUKY;VEDE;GLAGOLI;DOBRO;YESTU;ZHIVETE"]⟩,
  ⟨0x1e008, 1, "COMBINING GLAGOLITIC LETTER ", [
    "ZEMLJA;IZHE;INITIAL IZHE;I;DJERVI;KAKO;LJUDIJE;MYSLITE;NASHI;ONU;POKOJI;RITSI;SLOVO",
    "TVRIDO;UKU;FRITU;HERU"]⟩,
  ⟨0x1e01b, 1, "COMBINING GLAGOLITIC LETTER ", ["SHTA;TSI;CHRIVI;SHA;YERU;YERI;YATI"]⟩,
  ⟨0x1e023, 1, "COMBINING GLAGOLITIC LETTER ", ["YU;SMALL YUS"]⟩,
  ⟨0x1e026, 1, "COMBINING GLAGOLITIC LETTER ", [
    "YO;IOTATED SMALL YUS;BIG YUS;IOTATED BIG YUS;FITA"]⟩]

end Dialogue.Text.Name
