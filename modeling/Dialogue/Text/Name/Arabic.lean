import Dialogue.Text.Name.Basic
/-!
Names of Hebrew, Arabic, Syriac and other letters, and their joined forms.
-/
namespace Dialogue.Text.Name

def semitic : List Run := [
  ⟨0x591, 1, "HEBREW ACCENT ", [
    "ETNAHTA;SEGOL;SHALSHELET;ZAQEF QATAN;ZAQEF GADOL;TIPEHA;REVIA;ZARQA;PASHTA;YETIV;TEVIR",
    "GERESH;GERESH MUQDAM;GERSHAYIM;QARNEY PARA;TELISHA GEDOLA;PAZER;ATNAH HAFUKH;MUNAH",
    "MAHAPAKH;MERKHA;MERKHA KEFULA;DARGA;QADMA;TELISHA QETANA;YERAH BEN YOMO;OLE;ILUY;DEHI",
    "ZINOR"]⟩,
  ⟨0x5af, 1, "", ["HEBREW MARK MASORA CIRCLE"]⟩,
  ⟨0x5b0, 1, "HEBREW POINT ", [
    "SHEVA;HATAF SEGOL;HATAF PATAH;HATAF QAMATS;HIRIQ;TSERE;SEGOL;PATAH;QAMATS;HOLAM",
    "HOLAM HASER FOR VAV;QUBUTS;DAGESH OR MAPIQ;METEG"]⟩,
  ⟨0x5be, 2, "", ["HEBREW PUNCTUATION MAQAF;HEBREW PUNCTUATION PASEQ"]⟩,
  ⟨0x5bf, 1, "HEBREW POINT ", ["RAFE"]⟩,
  ⟨0x5c1, 1, "HEBREW POINT ", ["SHIN DOT;SIN DOT"]⟩,
  ⟨0x5c3, 1, "", [
    "HEBREW PUNCTUATION SOF PASUQ;HEBREW MARK UPPER DOT;HEBREW MARK LOWER DOT",
    "HEBREW PUNCTUATION NUN HAFUKHA"]⟩,
  ⟨0x5c7, 1, "HEBREW POINT ", ["QAMATS QATAN"]⟩,
  ⟨0x5d0, 1, "HEBREW LETTER ", [
    "ALEF;BET;GIMEL;DALET;HE;VAV;ZAYIN;HET;TET;YOD;FINAL KAF;KAF;LAMED;FINAL MEM;MEM",
    "FINAL NUN;NUN;SAMEKH;AYIN;FINAL PE;PE;FINAL TSADI;TSADI;QOF;RESH;SHIN;TAV"]⟩,
  ⟨0x5ef, 1, "", [
    "HEBREW YOD TRIANGLE;HEBREW LIGATURE YIDDISH DOUBLE VAV;HEBREW LIGATURE YIDDISH VAV YOD",
    "HEBREW LIGATURE YIDDISH DOUBLE YOD;HEBREW PUNCTUATION GERESH",
    "HEBREW PUNCTUATION GERSHAYIM"]⟩,
  ⟨0x600, 1, "ARABIC ", [
    "NUMBER SIGN;SIGN SANAH;FOOTNOTE MARKER;SIGN SAFHA;SIGN SAMVAT;NUMBER MARK ABOVE"]⟩,
  ⟨0x606, 1, "", ["ARABIC-INDIC CUBE ROOT;ARABIC-INDIC FOURTH ROOT"]⟩,
  ⟨0x608, 1, "ARABIC ", ["RAY"]⟩,
  ⟨0x609, 1, "", ["ARABIC-INDIC PER MILLE SIGN;ARABIC-INDIC PER TEN THOUSAND SIGN;AFGHANI SIGN"]⟩,
  ⟨0x60c, 1, "ARABIC ", [
    "COMMA;DATE SEPARATOR;POETIC VERSE SIGN;SIGN MISRA;SIGN SALLALLAHOU ALAYHE WASSALLAM",
    "SIGN ALAYHE ASSALLAM;SIGN RAHMATULLAH ALAYHE;SIGN RADI ALLAHOU ANHU;SIGN TAKHALLUS"]⟩,
  ⟨0x615, 1, "ARABIC SMALL HIGH ", ["TAH;LIGATURE ALEF WITH LAM WITH YEH;ZAIN"]⟩,
  ⟨0x618, 1, "ARABIC ", ["SMALL FATHA;SMALL DAMMA;SMALL KASRA;SEMICOLON"]⟩,
  ⟨0x61c, 1, "ARABIC LETTER ", ["MARK"]⟩,
  ⟨0x61d, 1, "ARABIC ", ["END OF TEXT MARK;TRIPLE DOT PUNCTUATION MARK;QUESTION MARK"]⟩,
  ⟨0x620, 1, "ARABIC LETTER ", [
    "KASHMIRI YEH;HAMZA;ALEF WITH MADDA ABOVE;ALEF WITH HAMZA ABOVE;WAW WITH HAMZA ABOVE",
    "ALEF WITH HAMZA BELOW;YEH WITH HAMZA ABOVE;ALEF;BEH;TEH MARBUTA;TEH;THEH;JEEM;HAH;KHAH",
    "DAL;THAL;REH;ZAIN;SEEN;SHEEN;SAD;DAD;TAH;ZAH;AIN;GHAIN;KEHEH WITH TWO DOTS ABOVE",
    "KEHEH WITH THREE DOTS BELOW;FARSI YEH WITH INVERTED V;FARSI YEH WITH TWO DOTS ABOVE",
    "FARSI YEH WITH THREE DOTS ABOVE"]⟩,
  ⟨0x640, 1, "ARABIC ", ["TATWEEL"]⟩,
  ⟨0x641, 1, "ARABIC LETTER ", ["FEH;QAF;KAF;LAM;MEEM;NOON;HEH;WAW;ALEF MAKSURA;YEH"]⟩,
  ⟨0x64b, 1, "ARABIC ", [
    "FATHATAN;DAMMATAN;KASRATAN;FATHA;DAMMA;KASRA;SHADDA;SUKUN;MADDAH ABOVE;HAMZA ABOVE",
    "HAMZA BELOW;SUBSCRIPT ALEF;INVERTED DAMMA;MARK NOON GHUNNA;ZWARAKAY",
    "VOWEL SIGN SMALL V ABOVE;VOWEL SIGN INVERTED SMALL V ABOVE;VOWEL SIGN DOT BELOW",
    "REVERSED DAMMA;FATHA WITH TWO DOTS;WAVY HAMZA BELOW"]⟩,
  ⟨0x660, 1, "ARABIC-INDIC DIGIT ", ["ZERO;ONE;TWO;THREE;FOUR;FIVE;SIX;SEVEN;EIGHT;NINE"]⟩,
  ⟨0x66a, 1, "ARABIC ", ["PERCENT SIGN;DECIMAL SEPARATOR;THOUSANDS SEPARATOR;FIVE POINTED STAR"]⟩,
  ⟨0x66e, 1, "ARABIC LETTER ", [
    "DOTLESS BEH;DOTLESS QAF;SUPERSCRIPT ALEF;ALEF WASLA;ALEF WITH WAVY HAMZA ABOVE",
    "ALEF WITH WAVY HAMZA BELOW;HIGH HAMZA;HIGH HAMZA ALEF;HIGH HAMZA WAW;U WITH HAMZA ABOVE",
    "HIGH HAMZA YEH;TTEH;TTEHEH;BEEH;TEH WITH RING;TEH WITH THREE DOTS ABOVE DOWNWARDS;PEH",
    "TEHEH;BEHEH;HAH WITH HAMZA ABOVE;HAH WITH TWO DOTS VERTICAL ABOVE;NYEH;DYEH",
    "HAH WITH THREE DOTS ABOVE;TCHEH;TCHEHEH;DDAL;DAL WITH RING;DAL WITH DOT BELOW",
    "DAL WITH DOT BELOW AND SMALL TAH;DAHAL;DDAHAL;DUL;DAL WITH THREE DOTS ABOVE DOWNWARDS",
    "DAL WITH FOUR DOTS ABOVE;RREH;REH WITH SMALL V;REH WITH RING;REH WITH DOT BELOW",
    "REH WITH SMALL V BELOW;REH WITH DOT BELOW AND DOT ABOVE;REH WITH TWO DOTS ABOVE;JEH",
    "REH WITH FOUR DOTS ABOVE;SEEN WITH DOT BELOW AND DOT ABOVE;SEEN WITH THREE DOTS BELOW",
    "SEEN WITH THREE DOTS BELOW AND THREE DOTS ABOVE;SAD WITH TWO DOTS BELOW",
    "SAD WITH THREE DOTS ABOVE;TAH WITH THREE DOTS ABOVE;AIN WITH THREE DOTS ABOVE",
    "DOTLESS FEH;FEH WITH DOT MOVED BELOW;FEH WITH DOT BELOW;VEH;FEH WITH THREE DOTS BELOW",
    "PEHEH;QAF WITH DOT ABOVE;QAF WITH THREE DOTS ABOVE;KEHEH;SWASH KAF;KAF WITH RING",
    "KAF WITH DOT ABOVE;NG;KAF WITH THREE DOTS BELOW;GAF;GAF WITH RING;NGOEH",
    "GAF WITH TWO DOTS BELOW;GUEH;GAF WITH THREE DOTS ABOVE;LAM WITH SMALL V",
    "LAM WITH DOT ABOVE;LAM WITH THREE DOTS ABOVE;LAM WITH THREE DOTS BELOW",
    "NOON WITH DOT BELOW;NOON GHUNNA;RNOON;NOON WITH RING;NOON WITH THREE DOTS ABOVE",
    "HEH DOACHASHMEE;TCHEH WITH DOT ABOVE;HEH WITH YEH ABOVE;HEH GOAL",
    "HEH GOAL WITH HAMZA ABOVE;TEH MARBUTA GOAL;WAW WITH RING;KIRGHIZ OE;OE;U;YU;KIRGHIZ YU",
    "WAW WITH TWO DOTS ABOVE;VE;FARSI YEH;YEH WITH TAIL;YEH WITH SMALL V;WAW WITH DOT ABOVE;E",
    "YEH WITH THREE DOTS BELOW;YEH BARREE;YEH BARREE WITH HAMZA ABOVE"]⟩,
  ⟨0x6d4, 1, "ARABIC ", ["FULL STOP"]⟩,
  ⟨0x6d5, 1, "ARABIC LETTER ", ["AE"]⟩,
  ⟨0x6d6, 1, "ARABIC SMALL HIGH ", [
    "LIGATURE SAD WITH LAM WITH ALEF MAKSURA;LIGATURE QAF WITH LAM WITH ALEF MAKSURA",
    "MEEM INITIAL FORM;LAM ALEF;JEEM;THREE DOTS;SEEN"]⟩,
  ⟨0x6dd, 1, "ARABIC ", ["END OF AYAH;START OF RUB EL HIZB"]⟩,
  ⟨0x6df, 1, "ARABIC SMALL HIGH ", [
    "ROUNDED ZERO;UPRIGHT RECTANGULAR ZERO;DOTLESS HEAD OF KHAH;MEEM ISOLATED FORM"]⟩,
  ⟨0x6e3, 1, "ARABIC ", ["SMALL LOW SEEN"]⟩,
  ⟨0x6e4, 1, "ARABIC SMALL HIGH ", ["MADDA"]⟩,
  ⟨0x6e5, 1, "ARABIC ", ["SMALL WAW;SMALL YEH"]⟩,
  ⟨0x6e7, 1, "ARABIC SMALL HIGH ", ["YEH;NOON"]⟩,
  ⟨0x6e9, 1, "ARABIC ", [
    "PLACE OF SAJDAH;EMPTY CENTRE LOW STOP;EMPTY CENTRE HIGH STOP",
    "ROUNDED HIGH STOP WITH FILLED CENTRE;SMALL LOW MEEM"]⟩,
  ⟨0x6ee, 1, "ARABIC LETTER ", ["DAL WITH INVERTED V;REH WITH INVERTED V"]⟩,
  ⟨0x6f0, 1, "EXTENDED ARABIC-INDIC DIGIT ", ["ZERO;ONE;TWO;THREE;FOUR;FIVE;SIX;SEVEN;EIGHT;NINE"]⟩,
  ⟨0x6fa, 1, "ARABIC LETTER ", ["SHEEN WITH DOT BELOW;DAD WITH DOT BELOW;GHAIN WITH DOT BELOW"]⟩,
  ⟨0x6fd, 1, "ARABIC ", ["SIGN SINDHI AMPERSAND;SIGN SINDHI POSTPOSITION MEN"]⟩,
  ⟨0x6ff, 1, "ARABIC LETTER ", ["HEH WITH INVERTED V"]⟩]

def arabic : List Run := [
  ⟨0x700, 1, "SYRIAC ", [
    "END OF PARAGRAPH;SUPRALINEAR FULL STOP;SUBLINEAR FULL STOP;SUPRALINEAR COLON",
    "SUBLINEAR COLON;HORIZONTAL COLON;COLON SKEWED LEFT;COLON SKEWED RIGHT",
    "SUPRALINEAR COLON SKEWED LEFT;SUBLINEAR COLON SKEWED RIGHT;CONTRACTION;HARKLEAN OBELUS",
    "HARKLEAN METOBELUS;HARKLEAN ASTERISCUS"]⟩,
  ⟨0x70f, 1, "", ["SYRIAC ABBREVIATION MARK"]⟩,
  ⟨0x710, 1, "SYRIAC LETTER ", [
    "ALAPH;SUPERSCRIPT ALAPH;BETH;GAMAL;GAMAL GARSHUNI;DALATH;DOTLESS DALATH RISH;HE;WAW;ZAIN",
    "HETH;TETH;TETH GARSHUNI;YUDH;YUDH HE;KAPH;LAMADH;MIM;NUN;SEMKATH;FINAL SEMKATH;E;PE",
    "REVERSED PE;SADHE;QAPH;RISH;SHIN;TAW;PERSIAN BHETH;PERSIAN GHAMAL;PERSIAN DHALATH"]⟩,
  ⟨0x730, 1, "SYRIAC ", [
    "PTHAHA ABOVE;PTHAHA BELOW;PTHAHA DOTTED;ZQAPHA ABOVE;ZQAPHA BELOW;ZQAPHA DOTTED",
    "RBASA ABOVE;RBASA BELOW;DOTTED ZLAMA HORIZONTAL;DOTTED ZLAMA ANGULAR;HBASA ABOVE",
    "HBASA BELOW;HBASA-ESASA DOTTED;ESASA ABOVE;ESASA BELOW;RWAHA;FEMININE DOT;QUSHSHAYA",
    "RUKKAKHA;TWO VERTICAL DOTS ABOVE;TWO VERTICAL DOTS BELOW;THREE DOTS ABOVE",
    "THREE DOTS BELOW;OBLIQUE LINE ABOVE;OBLIQUE LINE BELOW;MUSIC;BARREKH"]⟩,
  ⟨0x74d, 1, "SYRIAC LETTER SOGDIAN ", ["ZHAIN;KHAPH;FE"]⟩,
  ⟨0x750, 1, "ARABIC LETTER BEH WITH ", [
    "THREE DOTS HORIZONTALLY BELOW;DOT BELOW AND THREE DOTS ABOVE",
    "THREE DOTS POINTING UPWARDS BELOW;THREE DOTS POINTING UPWARDS BELOW AND TWO DOTS ABOVE",
    "TWO DOTS BELOW AND DOT ABOVE;INVERTED SMALL V BELOW;SMALL V"]⟩,
  ⟨0x757, 1, "ARABIC LETTER ", [
    "HAH WITH TWO DOTS ABOVE;HAH WITH THREE DOTS POINTING UPWARDS BELOW",
    "DAL WITH TWO DOTS VERTICALLY BELOW AND SMALL TAH;DAL WITH INVERTED SMALL V BELOW",
    "REH WITH STROKE;SEEN WITH FOUR DOTS ABOVE;AIN WITH TWO DOTS ABOVE",
    "AIN WITH THREE DOTS POINTING DOWNWARDS ABOVE;AIN WITH TWO DOTS VERTICALLY ABOVE",
    "FEH WITH TWO DOTS BELOW;FEH WITH THREE DOTS POINTING UPWARDS BELOW;KEHEH WITH DOT ABOVE",
    "KEHEH WITH THREE DOTS ABOVE;KEHEH WITH THREE DOTS POINTING UPWARDS BELOW",
    "MEEM WITH DOT ABOVE;MEEM WITH DOT BELOW;NOON WITH TWO DOTS BELOW;NOON WITH SMALL TAH",
    "NOON WITH SMALL V;LAM WITH BAR;REH WITH TWO DOTS VERTICALLY ABOVE;REH WITH HAMZA ABOVE",
    "SEEN WITH TWO DOTS VERTICALLY ABOVE;HAH WITH SMALL ARABIC LETTER TAH BELOW",
    "HAH WITH SMALL ARABIC LETTER TAH AND TWO DOTS",
    "SEEN WITH SMALL ARABIC LETTER TAH AND TWO DOTS",
    "REH WITH SMALL ARABIC LETTER TAH AND TWO DOTS;HAH WITH SMALL ARABIC LETTER TAH ABOVE"]⟩,
  ⟨0x773, 1, "ARABIC LETTER ALEF WITH EXTENDED ARABIC-INDIC DIGIT ", ["TWO ABOVE;THREE ABOVE"]⟩,
  ⟨0x775, 1, "ARABIC LETTER FARSI YEH WITH EXTENDED ARABIC-INDIC DIGIT ", [
    "TWO ABOVE;THREE ABOVE;FOUR BELOW"]⟩,
  ⟨0x778, 1, "ARABIC LETTER WAW WITH EXTENDED ARABIC-INDIC DIGIT ", ["TWO ABOVE;THREE ABOVE"]⟩,
  ⟨0x77a, 1, "ARABIC LETTER YEH BARREE WITH EXTENDED ARABIC-INDIC DIGIT ", [
    "TWO ABOVE;THREE ABOVE"]⟩,
  ⟨0x77c, 1, "ARABIC LETTER ", [
    "HAH WITH EXTENDED ARABIC-INDIC DIGIT FOUR BELOW",
    "SEEN WITH EXTENDED ARABIC-INDIC DIGIT FOUR ABOVE;SEEN WITH INVERTED V",
    "KAF WITH TWO DOTS ABOVE"]⟩,
  ⟨0x780, 1, "THAANA LETTER ", [
    "HAA;SHAVIYANI;NOONU;RAA;BAA;LHAVIYANI;KAAFU;ALIFU;VAAVU;MEEMU;FAAFU;DHAALU;THAA;LAAMU",
    "GAAFU;GNAVIYANI;SEENU;DAVIYANI;ZAVIYANI;TAVIYANI;YAA;PAVIYANI;JAVIYANI;CHAVIYANI;TTAA",
    "HHAA;KHAA;THAALU;ZAA;SHEENU;SAADHU;DAADHU;TO;ZO;AINU;GHAINU;QAAFU;WAAVU"]⟩,
  ⟨0x7a6, 1, "THAANA ", [
    "ABAFILI;AABAAFILI;IBIFILI;EEBEEFILI;UBUFILI;OOBOOFILI;EBEFILI;EYBEYFILI;OBOFILI",
    "OABOAFILI;SUKUN;LETTER NAA"]⟩,
  ⟨0x7c0, 1, "NKO DIGIT ", ["ZERO;ONE;TWO;THREE;FOUR;FIVE;SIX;SEVEN;EIGHT;NINE"]⟩,
  ⟨0x7ca, 1, "NKO LETTER ", [
    "A;EE;I;E;U;OO;O;DAGBASINNA;N;BA;PA;TA;JA;CHA;DA;RA;RRA;SA;GBA;FA;KA;LA;NA WOLOSO;MA;NYA",
    "NA;HA;WA;YA;NYA WOLOSO;JONA JA;JONA CHA;JONA RA"]⟩,
  ⟨0x7eb, 1, "NKO COMBINING ", [
    "SHORT HIGH TONE;SHORT LOW TONE;SHORT RISING TONE;LONG DESCENDING TONE;LONG HIGH TONE",
    "LONG LOW TONE;LONG RISING TONE;NASALIZATION MARK;DOUBLE DOT ABOVE"]⟩,
  ⟨0x7f4, 1, "NKO ", [
    "HIGH TONE APOSTROPHE;LOW TONE APOSTROPHE;SYMBOL OO DENNEN;SYMBOL GBAKURUNEN;COMMA",
    "EXCLAMATION MARK;LAJANYALAN"]⟩,
  ⟨0x7fd, 1, "NKO ", ["DANTAYALAN;DOROME SIGN;TAMAN SIGN"]⟩,
  ⟨0x800, 1, "SAMARITAN LETTER ", [
    "ALAF;BIT;GAMAN;DALAT;IY;BAA;ZEN;IT;TIT;YUT;KAAF;LABAT;MIM;NUN;SINGAAT;IN;FI;TSAADIY;QUF",
    "RISH;SHAN;TAAF"]⟩,
  ⟨0x816, 1, "SAMARITAN ", [
    "MARK IN;MARK IN-ALAF;MARK OCCLUSION;MARK DAGESH;MODIFIER LETTER EPENTHETIC YUT",
    "MARK EPENTHETIC YUT"]⟩,
  ⟨0x81c, 1, "SAMARITAN VOWEL SIGN ", ["LONG E;E;OVERLONG AA;LONG AA;AA;OVERLONG A;LONG A;A"]⟩,
  ⟨0x824, 1, "SAMARITAN ", [
    "MODIFIER LETTER SHORT A;VOWEL SIGN SHORT A;VOWEL SIGN LONG U;VOWEL SIGN U",
    "MODIFIER LETTER I;VOWEL SIGN LONG I;VOWEL SIGN I;VOWEL SIGN O;VOWEL SIGN SUKUN",
    "MARK NEQUDAA"]⟩,
  ⟨0x830, 1, "SAMARITAN PUNCTUATION ", ["NEQUDAA;AFSAAQ;ANGED;BAU;ATMAAU;SHIYYAALAA"]⟩,
  ⟨0x836, 1, "", ["SAMARITAN ABBREVIATION MARK"]⟩,
  ⟨0x837, 1, "SAMARITAN PUNCTUATION ", [
    "MELODIC QITSA;ZIQAA;QITSA;ZAEF;TURU;ARKAANU;SOF MASHFAAT;ANNAAU"]⟩,
  ⟨0x840, 1, "MANDAIC LETTER ", [
    "HALQA;AB;AG;AD;AH;USHENNA;AZ;IT;ATT;AKSA;AK;AL;AM;AN;AS;IN;AP;ASZ;AQ;AR;ASH;AT;DUSHENNA",
    "KAD;AIN"]⟩,
  ⟨0x859, 1, "MANDAIC ", ["AFFRICATION MARK;VOCALIZATION MARK;GEMINATION MARK"]⟩,
  ⟨0x85e, 1, "", ["MANDAIC PUNCTUATION"]⟩,
  ⟨0x860, 1, "SYRIAC LETTER MALAYALAM ", ["NGA;JA;NYA;TTA;NNA;NNNA;BHA;RA;LLA;LLLA;SSA"]⟩,
  ⟨0x870, 1, "ARABIC LETTER ALEF WITH ", [
    "ATTACHED FATHA;ATTACHED TOP RIGHT FATHA;RIGHT MIDDLE STROKE;LEFT MIDDLE STROKE",
    "ATTACHED KASRA;ATTACHED BOTTOM RIGHT KASRA;ATTACHED ROUND DOT ABOVE",
    "ATTACHED RIGHT ROUND DOT;ATTACHED LEFT ROUND DOT;ATTACHED ROUND DOT BELOW;DOT ABOVE",
    "ATTACHED TOP RIGHT FATHA AND DOT ABOVE;RIGHT MIDDLE STROKE AND DOT ABOVE",
    "ATTACHED BOTTOM RIGHT KASRA AND DOT ABOVE;ATTACHED TOP RIGHT FATHA AND LEFT RING",
    "RIGHT MIDDLE STROKE AND LEFT RING;ATTACHED BOTTOM RIGHT KASRA AND LEFT RING",
    "ATTACHED RIGHT HAMZA;ATTACHED LEFT HAMZA"]⟩,
  ⟨0x883, 1, "ARABIC TATWEEL WITH ", ["OVERSTRUCK HAMZA;OVERSTRUCK WAW;TWO DOTS BELOW"]⟩,
  ⟨0x886, 1, "ARABIC ", [
    "LETTER THIN YEH;BASELINE ROUND DOT;RAISED ROUND DOT;LETTER NOON WITH INVERTED SMALL V",
    "LETTER HAH WITH INVERTED SMALL V BELOW;LETTER TAH WITH DOT BELOW",
    "LETTER TAH WITH THREE DOTS BELOW;LETTER KEHEH WITH TWO DOTS VERTICALLY BELOW",
    "VERTICAL TAIL"]⟩,
  ⟨0x890, 1, "ARABIC ", ["POUND MARK ABOVE;PIASTRE MARK ABOVE"]⟩,
  ⟨0x898, 1, "ARABIC ", [
    "SMALL HIGH WORD AL-JUZ;SMALL LOW WORD ISHMAAM;SMALL LOW WORD IMAALA",
    "SMALL LOW WORD TASHEEL;MADDA WAAJIB;SUPERSCRIPT ALEF MOKHASSAS;DOUBLED MADDA",
    "HALF MADDA OVER MADDA"]⟩,
  ⟨0x8a0, 1, "ARABIC LETTER ", [
    "BEH WITH SMALL V BELOW;BEH WITH HAMZA ABOVE;JEEM WITH TWO DOTS ABOVE",
    "TAH WITH TWO DOTS ABOVE;FEH WITH DOT BELOW AND THREE DOTS ABOVE;QAF WITH DOT BELOW",
    "LAM WITH DOUBLE BAR;MEEM WITH THREE DOTS ABOVE;YEH WITH TWO DOTS BELOW AND HAMZA ABOVE",
    "YEH WITH TWO DOTS BELOW AND DOT ABOVE;REH WITH LOOP;WAW WITH DOT WITHIN;ROHINGYA YEH",
    "LOW ALEF;DAL WITH THREE DOTS BELOW;SAD WITH THREE DOTS BELOW;GAF WITH INVERTED STROKE",
    "STRAIGHT WAW;ZAIN WITH INVERTED V ABOVE;AIN WITH THREE DOTS BELOW;KAF WITH DOT BELOW",
    "QAF WITH DOT BELOW AND NO DOTS ABOVE;BEH WITH SMALL MEEM ABOVE;PEH WITH SMALL MEEM ABOVE",
    "TEH WITH SMALL TEH ABOVE;REH WITH SMALL NOON ABOVE",
    "YEH WITH TWO DOTS BELOW AND SMALL NOON ABOVE;AFRICAN FEH;AFRICAN QAF;AFRICAN NOON",
    "PEH WITH SMALL V;TEH WITH SMALL V;TTEH WITH SMALL V;TCHEH WITH SMALL V",
    "KEHEH WITH SMALL V;GHAIN WITH THREE DOTS ABOVE;AFRICAN QAF WITH THREE DOTS ABOVE",
    "JEEM WITH THREE DOTS ABOVE;JEEM WITH THREE DOTS BELOW",
    "LAM WITH SMALL ARABIC LETTER TAH ABOVE;GRAF"]⟩,
  ⟨0x8c9, 1, "ARABIC ", [
    "SMALL FARSI YEH;SMALL HIGH FARSI YEH;SMALL HIGH YEH BARREE WITH TWO DOTS BELOW",
    "SMALL HIGH WORD SAH;SMALL HIGH ZAH;LARGE ROUND DOT ABOVE;LARGE ROUND DOT BELOW",
    "SUKUN BELOW;LARGE CIRCLE BELOW;LARGE ROUND DOT INSIDE CIRCLE BELOW"]⟩,
  ⟨0x8d3, 1, "ARABIC SMALL ", [
    "LOW WAW;HIGH WORD AR-RUB;HIGH SAD;HIGH AIN;HIGH QAF;HIGH NOON WITH KASRA",
    "LOW NOON WITH KASRA;HIGH WORD ATH-THALATHA;HIGH WORD AS-SAJDA;HIGH WORD AN-NISF",
    "HIGH WORD SAKTA;HIGH WORD QIF;HIGH WORD WAQFA;HIGH FOOTNOTE MARKER;HIGH SIGN SAFHA"]⟩,
  ⟨0x8e2, 1, "ARABIC ", [
    "DISPUTED END OF AYAH;TURNED DAMMA BELOW;CURLY FATHA;CURLY DAMMA;CURLY KASRA",
    "CURLY FATHATAN;CURLY DAMMATAN;CURLY KASRATAN;TONE ONE DOT ABOVE;TONE TWO DOTS ABOVE",
    "TONE LOOP ABOVE;TONE ONE DOT BELOW;TONE TWO DOTS BELOW;TONE LOOP BELOW;OPEN FATHATAN",
    "OPEN DAMMATAN;OPEN KASRATAN;SMALL HIGH WAW;FATHA WITH RING;FATHA WITH DOT ABOVE",
    "KASRA WITH DOT BELOW;LEFT ARROWHEAD ABOVE;RIGHT ARROWHEAD ABOVE;LEFT ARROWHEAD BELOW",
    "RIGHT ARROWHEAD BELOW;DOUBLE RIGHT ARROWHEAD ABOVE;DOUBLE RIGHT ARROWHEAD ABOVE WITH DOT",
    "RIGHT ARROWHEAD ABOVE WITH DOT;DAMMA WITH DOT;MARK SIDEWAYS NOON GHUNNA"]⟩,
  ⟨0xfb50, 1, "ARABIC LETTER ", [
    "ALEF WASLA ISOLATED FORM;ALEF WASLA FINAL FORM;BEEH ISOLATED FORM;BEEH FINAL FORM",
    "BEEH INITIAL FORM;BEEH MEDIAL FORM;PEH ISOLATED FORM;PEH FINAL FORM;PEH INITIAL FORM",
    "PEH MEDIAL FORM;BEHEH ISOLATED FORM;BEHEH FINAL FORM;BEHEH INITIAL FORM",
    "BEHEH MEDIAL FORM;TTEHEH ISOLATED FORM;TTEHEH FINAL FORM;TTEHEH INITIAL FORM",
    "TTEHEH MEDIAL FORM;TEHEH ISOLATED FORM;TEHEH FINAL FORM;TEHEH INITIAL FORM",
    "TEHEH MEDIAL FORM;TTEH ISOLATED FORM;TTEH FINAL FORM;TTEH INITIAL FORM;TTEH MEDIAL FORM",
    "VEH ISOLATED FORM;VEH FINAL FORM;VEH INITIAL FORM;VEH MEDIAL FORM;PEHEH ISOLATED FORM",
    "PEHEH FINAL FORM;PEHEH INITIAL FORM;PEHEH MEDIAL FORM;DYEH ISOLATED FORM;DYEH FINAL FORM",
    "DYEH INITIAL FORM;DYEH MEDIAL FORM;NYEH ISOLATED FORM;NYEH FINAL FORM;NYEH INITIAL FORM",
    "NYEH MEDIAL FORM;TCHEH ISOLATED FORM;TCHEH FINAL FORM;TCHEH INITIAL FORM",
    "TCHEH MEDIAL FORM;TCHEHEH ISOLATED FORM;TCHEHEH FINAL FORM;TCHEHEH INITIAL FORM",
    "TCHEHEH MEDIAL FORM;DDAHAL ISOLATED FORM;DDAHAL FINAL FORM;DAHAL ISOLATED FORM",
    "DAHAL FINAL FORM;DUL ISOLATED FORM;DUL FINAL FORM;DDAL ISOLATED FORM;DDAL FINAL FORM",
    "JEH ISOLATED FORM;JEH FINAL FORM;RREH ISOLATED FORM;RREH FINAL FORM;KEHEH ISOLATED FORM",
    "KEHEH FINAL FORM;KEHEH INITIAL FORM;KEHEH MEDIAL FORM;GAF ISOLATED FORM;GAF FINAL FORM",
    "GAF INITIAL FORM;GAF MEDIAL FORM;GUEH ISOLATED FORM;GUEH FINAL FORM;GUEH INITIAL FORM",
    "GUEH MEDIAL FORM;NGOEH ISOLATED FORM;NGOEH FINAL FORM;NGOEH INITIAL FORM",
    "NGOEH MEDIAL FORM;NOON GHUNNA ISOLATED FORM;NOON GHUNNA FINAL FORM;RNOON ISOLATED FORM",
    "RNOON FINAL FORM;RNOON INITIAL FORM;RNOON MEDIAL FORM;HEH WITH YEH ABOVE ISOLATED FORM",
    "HEH WITH YEH ABOVE FINAL FORM;HEH GOAL ISOLATED FORM;HEH GOAL FINAL FORM",
    "HEH GOAL INITIAL FORM;HEH GOAL MEDIAL FORM"]⟩,
  ⟨0xfbaa, 1, "ARABIC LETTER HEH DOACHASHMEE ", [
    "ISOLATED FORM;FINAL FORM;INITIAL FORM;MEDIAL FORM"]⟩,
  ⟨0xfbae, 1, "ARABIC LETTER YEH BARREE ", [
    "ISOLATED FORM;FINAL FORM;WITH HAMZA ABOVE ISOLATED FORM;WITH HAMZA ABOVE FINAL FORM"]⟩,
  ⟨0xfbb2, 1, "ARABIC SYMBOL ", [
    "DOT ABOVE;DOT BELOW;TWO DOTS ABOVE;TWO DOTS BELOW;THREE DOTS ABOVE;THREE DOTS BELOW",
    "THREE DOTS POINTING DOWNWARDS ABOVE;THREE DOTS POINTING DOWNWARDS BELOW;FOUR DOTS ABOVE",
    "FOUR DOTS BELOW;DOUBLE VERTICAL BAR BELOW;TWO DOTS VERTICALLY ABOVE",
    "TWO DOTS VERTICALLY BELOW;RING;SMALL TAH ABOVE;SMALL TAH BELOW;WASLA ABOVE"]⟩,
  ⟨0xfbd3, 1, "ARABIC LETTER ", [
    "NG ISOLATED FORM;NG FINAL FORM;NG INITIAL FORM;NG MEDIAL FORM;U ISOLATED FORM",
    "U FINAL FORM;OE ISOLATED FORM;OE FINAL FORM;YU ISOLATED FORM;YU FINAL FORM",
    "U WITH HAMZA ABOVE ISOLATED FORM;VE ISOLATED FORM;VE FINAL FORM;KIRGHIZ OE ISOLATED FORM",
    "KIRGHIZ OE FINAL FORM;KIRGHIZ YU ISOLATED FORM;KIRGHIZ YU FINAL FORM;E ISOLATED FORM",
    "E FINAL FORM;E INITIAL FORM;E MEDIAL FORM"]⟩,
  ⟨0xfbe8, 1, "ARABIC LETTER UIGHUR KAZAKH KIRGHIZ ALEF MAKSURA ", ["INITIAL FORM;MEDIAL FORM"]⟩,
  ⟨0xfbea, 1, "ARABIC LIGATURE YEH WITH HAMZA ABOVE WITH ", [
    "ALEF ISOLATED FORM;ALEF FINAL FORM;AE ISOLATED FORM;AE FINAL FORM;WAW ISOLATED FORM",
    "WAW FINAL FORM;U ISOLATED FORM;U FINAL FORM;OE ISOLATED FORM;OE FINAL FORM",
    "YU ISOLATED FORM;YU FINAL FORM;E ISOLATED FORM;E FINAL FORM;E INITIAL FORM"]⟩,
  ⟨0xfbf9, 1, "ARABIC LIGATURE UIGHUR KIRGHIZ YEH WITH HAMZA ABOVE WITH ALEF MAKSURA ", [
    "ISOLATED FORM;FINAL FORM;INITIAL FORM"]⟩,
  ⟨0xfbfc, 1, "ARABIC LETTER FARSI YEH ", ["ISOLATED FORM;FINAL FORM;INITIAL FORM;MEDIAL FORM"]⟩,
  ⟨0xfc00, 1, "ARABIC LIGATURE YEH WITH HAMZA ABOVE WITH ", [
    "JEEM ISOLATED FORM;HAH ISOLATED FORM;MEEM ISOLATED FORM;ALEF MAKSURA ISOLATED FORM",
    "YEH ISOLATED FORM"]⟩,
  ⟨0xfc05, 1, "ARABIC LIGATURE BEH WITH ", [
    "JEEM ISOLATED FORM;HAH ISOLATED FORM;KHAH ISOLATED FORM;MEEM ISOLATED FORM",
    "ALEF MAKSURA ISOLATED FORM;YEH ISOLATED FORM"]⟩,
  ⟨0xfc0b, 1, "ARABIC LIGATURE TEH WITH ", [
    "JEEM ISOLATED FORM;HAH ISOLATED FORM;KHAH ISOLATED FORM;MEEM ISOLATED FORM",
    "ALEF MAKSURA ISOLATED FORM;YEH ISOLATED FORM"]⟩,
  ⟨0xfc11, 1, "ARABIC LIGATURE THEH WITH ", [
    "JEEM ISOLATED FORM;MEEM ISOLATED FORM;ALEF MAKSURA ISOLATED FORM;YEH ISOLATED FORM"]⟩,
  ⟨0xfc15, 1, "ARABIC LIGATURE ", [
    "JEEM WITH HAH ISOLATED FORM;JEEM WITH MEEM ISOLATED FORM;HAH WITH JEEM ISOLATED FORM",
    "HAH WITH MEEM ISOLATED FORM;KHAH WITH JEEM ISOLATED FORM;KHAH WITH HAH ISOLATED FORM",
    "KHAH WITH MEEM ISOLATED FORM;SEEN WITH JEEM ISOLATED FORM;SEEN WITH HAH ISOLATED FORM",
    "SEEN WITH KHAH ISOLATED FORM;SEEN WITH MEEM ISOLATED FORM;SAD WITH HAH ISOLATED FORM",
    "SAD WITH MEEM ISOLATED FORM;DAD WITH JEEM ISOLATED FORM;DAD WITH HAH ISOLATED FORM",
    "DAD WITH KHAH ISOLATED FORM;DAD WITH MEEM ISOLATED FORM;TAH WITH HAH ISOLATED FORM",
    "TAH WITH MEEM ISOLATED FORM;ZAH WITH MEEM ISOLATED FORM;AIN WITH JEEM ISOLATED FORM",
    "AIN WITH MEEM ISOLATED FORM;GHAIN WITH JEEM ISOLATED FORM;GHAIN WITH MEEM ISOLATED FORM"]⟩,
  ⟨0xfc2d, 1, "ARABIC LIGATURE FEH WITH ", [
    "JEEM ISOLATED FORM;HAH ISOLATED FORM;KHAH ISOLATED FORM;MEEM ISOLATED FORM",
    "ALEF MAKSURA ISOLATED FORM;YEH ISOLATED FORM"]⟩,
  ⟨0xfc33, 1, "ARABIC LIGATURE QAF WITH ", [
    "HAH ISOLATED FORM;MEEM ISOLATED FORM;ALEF MAKSURA ISOLATED FORM;YEH ISOLATED FORM"]⟩,
  ⟨0xfc37, 1, "ARABIC LIGATURE KAF WITH ", [
    "ALEF ISOLATED FORM;JEEM ISOLATED FORM;HAH ISOLATED FORM;KHAH ISOLATED FORM",
    "LAM ISOLATED FORM;MEEM ISOLATED FORM;ALEF MAKSURA ISOLATED FORM;YEH ISOLATED FORM"]⟩,
  ⟨0xfc3f, 1, "ARABIC LIGATURE LAM WITH ", [
    "JEEM ISOLATED FORM;HAH ISOLATED FORM;KHAH ISOLATED FORM;MEEM ISOLATED FORM",
    "ALEF MAKSURA ISOLATED FORM;YEH ISOLATED FORM"]⟩,
  ⟨0xfc45, 1, "ARABIC LIGATURE MEEM WITH ", [
    "JEEM ISOLATED FORM;HAH ISOLATED FORM;KHAH ISOLATED FORM;MEEM ISOLATED FORM",
    "ALEF MAKSURA ISOLATED FORM;YEH ISOLATED FORM"]⟩,
  ⟨0xfc4b, 1, "ARABIC LIGATURE NOON WITH ", [
    "JEEM ISOLATED FORM;HAH ISOLATED FORM;KHAH ISOLATED FORM;MEEM ISOLATED FORM",
    "ALEF MAKSURA ISOLATED FORM;YEH ISOLATED FORM"]⟩,
  ⟨0xfc51, 1, "ARABIC LIGATURE HEH WITH ", [
    "JEEM ISOLATED FORM;MEEM ISOLATED FORM;ALEF MAKSURA ISOLATED FORM;YEH ISOLATED FORM"]⟩,
  ⟨0xfc55, 1, "ARABIC LIGATURE YEH WITH ", [
    "JEEM ISOLATED FORM;HAH ISOLATED FORM;KHAH ISOLATED FORM;MEEM ISOLATED FORM",
    "ALEF MAKSURA ISOLATED FORM;YEH ISOLATED FORM"]⟩,
  ⟨0xfc5b, 1, "ARABIC LIGATURE ", [
    "THAL WITH SUPERSCRIPT ALEF ISOLATED FORM;REH WITH SUPERSCRIPT ALEF ISOLATED FORM",
    "ALEF MAKSURA WITH SUPERSCRIPT ALEF ISOLATED FORM"]⟩,
  ⟨0xfc5e, 1, "ARABIC LIGATURE SHADDA WITH ", [
    "DAMMATAN ISOLATED FORM;KASRATAN ISOLATED FORM;FATHA ISOLATED FORM;DAMMA ISOLATED FORM",
    "KASRA ISOLATED FORM;SUPERSCRIPT ALEF ISOLATED FORM"]⟩,
  ⟨0xfc64, 1, "ARABIC LIGATURE YEH WITH HAMZA ABOVE WITH ", [
    "REH FINAL FORM;ZAIN FINAL FORM;MEEM FINAL FORM;NOON FINAL FORM;ALEF MAKSURA FINAL FORM",
    "YEH FINAL FORM"]⟩,
  ⟨0xfc6a, 1, "ARABIC LIGATURE BEH WITH ", [
    "REH FINAL FORM;ZAIN FINAL FORM;MEEM FINAL FORM;NOON FINAL FORM;ALEF MAKSURA FINAL FORM",
    "YEH FINAL FORM"]⟩,
  ⟨0xfc70, 1, "ARABIC LIGATURE TEH WITH ", [
    "REH FINAL FORM;ZAIN FINAL FORM;MEEM FINAL FORM;NOON FINAL FORM;ALEF MAKSURA FINAL FORM",
    "YEH FINAL FORM"]⟩,
  ⟨0xfc76, 1, "ARABIC LIGATURE THEH WITH ", [
    "REH FINAL FORM;ZAIN FINAL FORM;MEEM FINAL FORM;NOON FINAL FORM;ALEF MAKSURA FINAL FORM",
    "YEH FINAL FORM"]⟩,
  ⟨0xfc7c, 1, "ARABIC LIGATURE ", [
    "FEH WITH ALEF MAKSURA FINAL FORM;FEH WITH YEH FINAL FORM",
    "QAF WITH ALEF MAKSURA FINAL FORM;QAF WITH YEH FINAL FORM;KAF WITH ALEF FINAL FORM",
    "KAF WITH LAM FINAL FORM;KAF WITH MEEM FINAL FORM;KAF WITH ALEF MAKSURA FINAL FORM",
    "KAF WITH YEH FINAL FORM;LAM WITH MEEM FINAL FORM;LAM WITH ALEF MAKSURA FINAL FORM",
    "LAM WITH YEH FINAL FORM;MEEM WITH ALEF FINAL FORM;MEEM WITH MEEM FINAL FORM",
    "NOON WITH REH FINAL FORM;NOON WITH ZAIN FINAL FORM;NOON WITH MEEM FINAL FORM",
    "NOON WITH NOON FINAL FORM;NOON WITH ALEF MAKSURA FINAL FORM;NOON WITH YEH FINAL FORM",
    "ALEF MAKSURA WITH SUPERSCRIPT ALEF FINAL FORM"]⟩,
  ⟨0xfc91, 1, "ARABIC LIGATURE YEH WITH ", [
    "REH FINAL FORM;ZAIN FINAL FORM;MEEM FINAL FORM;NOON FINAL FORM;ALEF MAKSURA FINAL FORM",
    "YEH FINAL FORM"]⟩,
  ⟨0xfc97, 1, "ARABIC LIGATURE YEH WITH HAMZA ABOVE WITH ", [
    "JEEM INITIAL FORM;HAH INITIAL FORM;KHAH INITIAL FORM;MEEM INITIAL FORM;HEH INITIAL FORM"]⟩,
  ⟨0xfc9c, 1, "ARABIC LIGATURE BEH WITH ", [
    "JEEM INITIAL FORM;HAH INITIAL FORM;KHAH INITIAL FORM;MEEM INITIAL FORM;HEH INITIAL FORM"]⟩,
  ⟨0xfca1, 1, "ARABIC LIGATURE ", [
    "TEH WITH JEEM INITIAL FORM;TEH WITH HAH INITIAL FORM;TEH WITH KHAH INITIAL FORM",
    "TEH WITH MEEM INITIAL FORM;TEH WITH HEH INITIAL FORM;THEH WITH MEEM INITIAL FORM",
    "JEEM WITH HAH INITIAL FORM;JEEM WITH MEEM INITIAL FORM;HAH WITH JEEM INITIAL FORM",
    "HAH WITH MEEM INITIAL FORM;KHAH WITH JEEM INITIAL FORM;KHAH WITH MEEM INITIAL FORM",
    "SEEN WITH JEEM INITIAL FORM;SEEN WITH HAH INITIAL FORM;SEEN WITH KHAH INITIAL FORM",
    "SEEN WITH MEEM INITIAL FORM;SAD WITH HAH INITIAL FORM;SAD WITH KHAH INITIAL FORM",
    "SAD WITH MEEM INITIAL FORM;DAD WITH JEEM INITIAL FORM;DAD WITH HAH INITIAL FORM",
    "DAD WITH KHAH INITIAL FORM;DAD WITH MEEM INITIAL FORM;TAH WITH HAH INITIAL FORM",
    "ZAH WITH MEEM INITIAL FORM;AIN WITH JEEM INITIAL FORM;AIN WITH MEEM INITIAL FORM",
    "GHAIN WITH JEEM INITIAL FORM;GHAIN WITH MEEM INITIAL FORM;FEH WITH JEEM INITIAL FORM",
    "FEH WITH HAH INITIAL FORM;FEH WITH KHAH INITIAL FORM;FEH WITH MEEM INITIAL FORM",
    "QAF WITH HAH INITIAL FORM;QAF WITH MEEM INITIAL FORM;KAF WITH JEEM INITIAL FORM",
    "KAF WITH HAH INITIAL FORM;KAF WITH KHAH INITIAL FORM;KAF WITH LAM INITIAL FORM",
    "KAF WITH MEEM INITIAL FORM;LAM WITH JEEM INITIAL FORM;LAM WITH HAH INITIAL FORM",
    "LAM WITH KHAH INITIAL FORM;LAM WITH MEEM INITIAL FORM;LAM WITH HEH INITIAL FORM",
    "MEEM WITH JEEM INITIAL FORM;MEEM WITH HAH INITIAL FORM;MEEM WITH KHAH INITIAL FORM",
    "MEEM WITH MEEM INITIAL FORM;NOON WITH JEEM INITIAL FORM;NOON WITH HAH INITIAL FORM",
    "NOON WITH KHAH INITIAL FORM;NOON WITH MEEM INITIAL FORM;NOON WITH HEH INITIAL FORM",
    "HEH WITH JEEM INITIAL FORM;HEH WITH MEEM INITIAL FORM",
    "HEH WITH SUPERSCRIPT ALEF INITIAL FORM;YEH WITH JEEM INITIAL FORM",
    "YEH WITH HAH INITIAL FORM;YEH WITH KHAH INITIAL FORM;YEH WITH MEEM INITIAL FORM",
    "YEH WITH HEH INITIAL FORM;YEH WITH HAMZA ABOVE WITH MEEM MEDIAL FORM",
    "YEH WITH HAMZA ABOVE WITH HEH MEDIAL FORM;BEH WITH MEEM MEDIAL FORM",
    "BEH WITH HEH MEDIAL FORM;TEH WITH MEEM MEDIAL FORM;TEH WITH HEH MEDIAL FORM",
    "THEH WITH MEEM MEDIAL FORM;THEH WITH HEH MEDIAL FORM;SEEN WITH MEEM MEDIAL FORM",
    "SEEN WITH HEH MEDIAL FORM;SHEEN WITH MEEM MEDIAL FORM;SHEEN WITH HEH MEDIAL FORM",
    "KAF WITH LAM MEDIAL FORM;KAF WITH MEEM MEDIAL FORM;LAM WITH MEEM MEDIAL FORM",
    "NOON WITH MEEM MEDIAL FORM;NOON WITH HEH MEDIAL FORM;YEH WITH MEEM MEDIAL FORM",
    "YEH WITH HEH MEDIAL FORM;SHADDA WITH FATHA MEDIAL FORM;SHADDA WITH DAMMA MEDIAL FORM",
    "SHADDA WITH KASRA MEDIAL FORM;TAH WITH ALEF MAKSURA ISOLATED FORM",
    "TAH WITH YEH ISOLATED FORM;AIN WITH ALEF MAKSURA ISOLATED FORM",
    "AIN WITH YEH ISOLATED FORM;GHAIN WITH ALEF MAKSURA ISOLATED FORM",
    "GHAIN WITH YEH ISOLATED FORM;SEEN WITH ALEF MAKSURA ISOLATED FORM",
    "SEEN WITH YEH ISOLATED FORM;SHEEN WITH ALEF MAKSURA ISOLATED FORM",
    "SHEEN WITH YEH ISOLATED FORM;HAH WITH ALEF MAKSURA ISOLATED FORM",
    "HAH WITH YEH ISOLATED FORM;JEEM WITH ALEF MAKSURA ISOLATED FORM",
    "JEEM WITH YEH ISOLATED FORM;KHAH WITH ALEF MAKSURA ISOLATED FORM",
    "KHAH WITH YEH ISOLATED FORM;SAD WITH ALEF MAKSURA ISOLATED FORM",
    "SAD WITH YEH ISOLATED FORM;DAD WITH ALEF MAKSURA ISOLATED FORM",
    "DAD WITH YEH ISOLATED FORM;SHEEN WITH JEEM ISOLATED FORM;SHEEN WITH HAH ISOLATED FORM",
    "SHEEN WITH KHAH ISOLATED FORM;SHEEN WITH MEEM ISOLATED FORM;SHEEN WITH REH ISOLATED FORM",
    "SEEN WITH REH ISOLATED FORM;SAD WITH REH ISOLATED FORM;DAD WITH REH ISOLATED FORM",
    "TAH WITH ALEF MAKSURA FINAL FORM;TAH WITH YEH FINAL FORM",
    "AIN WITH ALEF MAKSURA FINAL FORM;AIN WITH YEH FINAL FORM",
    "GHAIN WITH ALEF MAKSURA FINAL FORM;GHAIN WITH YEH FINAL FORM",
    "SEEN WITH ALEF MAKSURA FINAL FORM;SEEN WITH YEH FINAL FORM",
    "SHEEN WITH ALEF MAKSURA FINAL FORM;SHEEN WITH YEH FINAL FORM",
    "HAH WITH ALEF MAKSURA FINAL FORM;HAH WITH YEH FINAL FORM",
    "JEEM WITH ALEF MAKSURA FINAL FORM;JEEM WITH YEH FINAL FORM",
    "KHAH WITH ALEF MAKSURA FINAL FORM;KHAH WITH YEH FINAL FORM",
    "SAD WITH ALEF MAKSURA FINAL FORM;SAD WITH YEH FINAL FORM",
    "DAD WITH ALEF MAKSURA FINAL FORM;DAD WITH YEH FINAL FORM;SHEEN WITH JEEM FINAL FORM",
    "SHEEN WITH HAH FINAL FORM;SHEEN WITH KHAH FINAL FORM;SHEEN WITH MEEM FINAL FORM",
    "SHEEN WITH REH FINAL FORM;SEEN WITH REH FINAL FORM;SAD WITH REH FINAL FORM",
    "DAD WITH REH FINAL FORM;SHEEN WITH JEEM INITIAL FORM;SHEEN WITH HAH INITIAL FORM",
    "SHEEN WITH KHAH INITIAL FORM;SHEEN WITH MEEM INITIAL FORM;SEEN WITH HEH INITIAL FORM",
    "SHEEN WITH HEH INITIAL FORM;TAH WITH MEEM INITIAL FORM;SEEN WITH JEEM MEDIAL FORM",
    "SEEN WITH HAH MEDIAL FORM;SEEN WITH KHAH MEDIAL FORM;SHEEN WITH JEEM MEDIAL FORM",
    "SHEEN WITH HAH MEDIAL FORM;SHEEN WITH KHAH MEDIAL FORM;TAH WITH MEEM MEDIAL FORM",
    "ZAH WITH MEEM MEDIAL FORM;ALEF WITH FATHATAN FINAL FORM;ALEF WITH FATHATAN ISOLATED FORM"]⟩,
  ⟨0xfd3e, 1, "", [
    "ORNATE LEFT PARENTHESIS;ORNATE RIGHT PARENTHESIS;ARABIC LIGATURE RAHIMAHU ALLAAH"]⟩,
  ⟨0xfd41, 1, "ARABIC LIGATURE RADI ALLAAHU ", ["ANH;ANHAA;ANHUM;ANHUMAA;ANHUNNA"]⟩,
  ⟨0xfd46, 1, "ARABIC LIGATURE ", [
    "SALLALLAAHU ALAYHI WA-AALIH;ALAYHI AS-SALAAM;ALAYHIM AS-SALAAM;ALAYHIMAA AS-SALAAM",
    "ALAYHI AS-SALAATU WAS-SALAAM;QUDDISA SIRRAH;SALLALLAHU ALAYHI WAAALIHEE WA-SALLAM",
    "ALAYHAA AS-SALAAM;TABAARAKA WA-TAAALAA;RAHIMAHUM ALLAAH",
    "TEH WITH JEEM WITH MEEM INITIAL FORM;TEH WITH HAH WITH JEEM FINAL FORM",
    "TEH WITH HAH WITH JEEM INITIAL FORM;TEH WITH HAH WITH MEEM INITIAL FORM",
    "TEH WITH KHAH WITH MEEM INITIAL FORM;TEH WITH MEEM WITH JEEM INITIAL FORM",
    "TEH WITH MEEM WITH HAH INITIAL FORM;TEH WITH MEEM WITH KHAH INITIAL FORM",
    "JEEM WITH MEEM WITH HAH FINAL FORM;JEEM WITH MEEM WITH HAH INITIAL FORM",
    "HAH WITH MEEM WITH YEH FINAL FORM;HAH WITH MEEM WITH ALEF MAKSURA FINAL FORM",
    "SEEN WITH HAH WITH JEEM INITIAL FORM;SEEN WITH JEEM WITH HAH INITIAL FORM",
    "SEEN WITH JEEM WITH ALEF MAKSURA FINAL FORM"]⟩,
  ⟨0xfd5f, 1, "ARABIC LIGATURE SEEN WITH MEEM WITH ", [
    "HAH FINAL FORM;HAH INITIAL FORM;JEEM INITIAL FORM;MEEM FINAL FORM;MEEM INITIAL FORM"]⟩,
  ⟨0xfd64, 1, "ARABIC LIGATURE SAD WITH ", [
    "HAH WITH HAH FINAL FORM;HAH WITH HAH INITIAL FORM;MEEM WITH MEEM FINAL FORM"]⟩,
  ⟨0xfd67, 1, "ARABIC LIGATURE SHEEN WITH ", [
    "HAH WITH MEEM FINAL FORM;HAH WITH MEEM INITIAL FORM;JEEM WITH YEH FINAL FORM",
    "MEEM WITH KHAH FINAL FORM;MEEM WITH KHAH INITIAL FORM;MEEM WITH MEEM FINAL FORM",
    "MEEM WITH MEEM INITIAL FORM"]⟩,
  ⟨0xfd6e, 1, "ARABIC LIGATURE DAD WITH ", [
    "HAH WITH ALEF MAKSURA FINAL FORM;KHAH WITH MEEM FINAL FORM;KHAH WITH MEEM INITIAL FORM"]⟩,
  ⟨0xfd71, 1, "ARABIC LIGATURE TAH WITH MEEM WITH ", [
    "HAH FINAL FORM;HAH INITIAL FORM;MEEM INITIAL FORM;YEH FINAL FORM"]⟩,
  ⟨0xfd75, 1, "ARABIC LIGATURE AIN WITH ", [
    "JEEM WITH MEEM FINAL FORM;MEEM WITH MEEM FINAL FORM;MEEM WITH MEEM INITIAL FORM",
    "MEEM WITH ALEF MAKSURA FINAL FORM"]⟩,
  ⟨0xfd79, 1, "ARABIC LIGATURE GHAIN WITH MEEM WITH ", [
    "MEEM FINAL FORM;YEH FINAL FORM;ALEF MAKSURA FINAL FORM"]⟩,
  ⟨0xfd7c, 1, "ARABIC LIGATURE FEH WITH KHAH WITH MEEM ", ["FINAL FORM;INITIAL FORM"]⟩,
  ⟨0xfd7e, 1, "ARABIC LIGATURE QAF WITH MEEM WITH ", ["HAH FINAL FORM;MEEM FINAL FORM"]⟩,
  ⟨0xfd80, 1, "ARABIC LIGATURE LAM WITH ", [
    "HAH WITH MEEM FINAL FORM;HAH WITH YEH FINAL FORM;HAH WITH ALEF MAKSURA FINAL FORM",
    "JEEM WITH JEEM INITIAL FORM;JEEM WITH JEEM FINAL FORM;KHAH WITH MEEM FINAL FORM",
    "KHAH WITH MEEM INITIAL FORM;MEEM WITH HAH FINAL FORM;MEEM WITH HAH INITIAL FORM"]⟩,
  ⟨0xfd89, 1, "ARABIC LIGATURE MEEM WITH ", [
    "HAH WITH JEEM INITIAL FORM;HAH WITH MEEM INITIAL FORM;HAH WITH YEH FINAL FORM",
    "JEEM WITH HAH INITIAL FORM;JEEM WITH MEEM INITIAL FORM;KHAH WITH JEEM INITIAL FORM",
    "KHAH WITH MEEM INITIAL FORM"]⟩,
  ⟨0xfd92, 1, "ARABIC LIGATURE ", [
    "MEEM WITH JEEM WITH KHAH INITIAL FORM;HEH WITH MEEM WITH JEEM INITIAL FORM",
    "HEH WITH MEEM WITH MEEM INITIAL FORM;NOON WITH HAH WITH MEEM INITIAL FORM",
    "NOON WITH HAH WITH ALEF MAKSURA FINAL FORM;NOON WITH JEEM WITH MEEM FINAL FORM",
    "NOON WITH JEEM WITH MEEM INITIAL FORM;NOON WITH JEEM WITH ALEF MAKSURA FINAL FORM",
    "NOON WITH MEEM WITH YEH FINAL FORM;NOON WITH MEEM WITH ALEF MAKSURA FINAL FORM",
    "YEH WITH MEEM WITH MEEM FINAL FORM;YEH WITH MEEM WITH MEEM INITIAL FORM",
    "BEH WITH KHAH WITH YEH FINAL FORM;TEH WITH JEEM WITH YEH FINAL FORM",
    "TEH WITH JEEM WITH ALEF MAKSURA FINAL FORM;TEH WITH KHAH WITH YEH FINAL FORM",
    "TEH WITH KHAH WITH ALEF MAKSURA FINAL FORM;TEH WITH MEEM WITH YEH FINAL FORM",
    "TEH WITH MEEM WITH ALEF MAKSURA FINAL FORM;JEEM WITH MEEM WITH YEH FINAL FORM",
    "JEEM WITH HAH WITH ALEF MAKSURA FINAL FORM;JEEM WITH MEEM WITH ALEF MAKSURA FINAL FORM",
    "SEEN WITH KHAH WITH ALEF MAKSURA FINAL FORM;SAD WITH HAH WITH YEH FINAL FORM",
    "SHEEN WITH HAH WITH YEH FINAL FORM;DAD WITH HAH WITH YEH FINAL FORM",
    "LAM WITH JEEM WITH YEH FINAL FORM;LAM WITH MEEM WITH YEH FINAL FORM",
    "YEH WITH HAH WITH YEH FINAL FORM;YEH WITH JEEM WITH YEH FINAL FORM",
    "YEH WITH MEEM WITH YEH FINAL FORM;MEEM WITH MEEM WITH YEH FINAL FORM",
    "QAF WITH MEEM WITH YEH FINAL FORM;NOON WITH HAH WITH YEH FINAL FORM",
    "QAF WITH MEEM WITH HAH INITIAL FORM;LAM WITH HAH WITH MEEM INITIAL FORM",
    "AIN WITH MEEM WITH YEH FINAL FORM;KAF WITH MEEM WITH YEH FINAL FORM",
    "NOON WITH JEEM WITH HAH INITIAL FORM;MEEM WITH KHAH WITH YEH FINAL FORM",
    "LAM WITH JEEM WITH MEEM INITIAL FORM;KAF WITH MEEM WITH MEEM FINAL FORM",
    "LAM WITH JEEM WITH MEEM FINAL FORM;NOON WITH JEEM WITH HAH FINAL FORM",
    "JEEM WITH HAH WITH YEH FINAL FORM;HAH WITH JEEM WITH YEH FINAL FORM",
    "MEEM WITH JEEM WITH YEH FINAL FORM;FEH WITH MEEM WITH YEH FINAL FORM",
    "BEH WITH HAH WITH YEH FINAL FORM;KAF WITH MEEM WITH MEEM INITIAL FORM",
    "AIN WITH JEEM WITH MEEM INITIAL FORM;SAD WITH MEEM WITH MEEM INITIAL FORM",
    "SEEN WITH KHAH WITH YEH FINAL FORM;NOON WITH JEEM WITH YEH FINAL FORM"]⟩,
  ⟨0xfdcf, 1, "", ["ARABIC LIGATURE SALAAMUHU ALAYNAA"]⟩,
  ⟨0xfdf0, 1, "ARABIC LIGATURE ", [
    "SALLA USED AS KORANIC STOP SIGN ISOLATED FORM",
    "QALA USED AS KORANIC STOP SIGN ISOLATED FORM;ALLAH ISOLATED FORM;AKBAR ISOLATED FORM",
    "MOHAMMAD ISOLATED FORM;SALAM ISOLATED FORM;RASOUL ISOLATED FORM;ALAYHE ISOLATED FORM",
    "WASALLAM ISOLATED FORM;SALLA ISOLATED FORM;SALLALLAHOU ALAYHE WASALLAM;JALLAJALALOUHOU"]⟩,
  ⟨0xfdfc, 1, "", ["RIAL SIGN"]⟩,
  ⟨0xfdfd, 1, "ARABIC LIGATURE ", [
    "BISMILLAH AR-RAHMAN AR-RAHEEM;SUBHAANAHU WA TAAALAA;AZZA WA JALL"]⟩,
  ⟨0xfe70, 1, "ARABIC ", [
    "FATHATAN ISOLATED FORM;TATWEEL WITH FATHATAN ABOVE;DAMMATAN ISOLATED FORM;TAIL FRAGMENT",
    "KASRATAN ISOLATED FORM"]⟩,
  ⟨0xfe76, 1, "ARABIC ", [
    "FATHA ISOLATED FORM;FATHA MEDIAL FORM;DAMMA ISOLATED FORM;DAMMA MEDIAL FORM",
    "KASRA ISOLATED FORM;KASRA MEDIAL FORM;SHADDA ISOLATED FORM;SHADDA MEDIAL FORM",
    "SUKUN ISOLATED FORM;SUKUN MEDIAL FORM"]⟩,
  ⟨0xfe80, 1, "ARABIC LETTER ", [
    "HAMZA ISOLATED FORM;ALEF WITH MADDA ABOVE ISOLATED FORM;ALEF WITH MADDA ABOVE FINAL FORM",
    "ALEF WITH HAMZA ABOVE ISOLATED FORM;ALEF WITH HAMZA ABOVE FINAL FORM",
    "WAW WITH HAMZA ABOVE ISOLATED FORM;WAW WITH HAMZA ABOVE FINAL FORM",
    "ALEF WITH HAMZA BELOW ISOLATED FORM;ALEF WITH HAMZA BELOW FINAL FORM",
    "YEH WITH HAMZA ABOVE ISOLATED FORM;YEH WITH HAMZA ABOVE FINAL FORM",
    "YEH WITH HAMZA ABOVE INITIAL FORM;YEH WITH HAMZA ABOVE MEDIAL FORM;ALEF ISOLATED FORM",
    "ALEF FINAL FORM;BEH ISOLATED FORM;BEH FINAL FORM;BEH INITIAL FORM;BEH MEDIAL FORM",
    "TEH MARBUTA ISOLATED FORM;TEH MARBUTA FINAL FORM;TEH ISOLATED FORM;TEH FINAL FORM",
    "TEH INITIAL FORM;TEH MEDIAL FORM;THEH ISOLATED FORM;THEH FINAL FORM;THEH INITIAL FORM",
    "THEH MEDIAL FORM;JEEM ISOLATED FORM;JEEM FINAL FORM;JEEM INITIAL FORM;JEEM MEDIAL FORM",
    "HAH ISOLATED FORM;HAH FINAL FORM;HAH INITIAL FORM;HAH MEDIAL FORM;KHAH ISOLATED FORM",
    "KHAH FINAL FORM;KHAH INITIAL FORM;KHAH MEDIAL FORM;DAL ISOLATED FORM;DAL FINAL FORM",
    "THAL ISOLATED FORM;THAL FINAL FORM;REH ISOLATED FORM;REH FINAL FORM;ZAIN ISOLATED FORM",
    "ZAIN FINAL FORM;SEEN ISOLATED FORM;SEEN FINAL FORM;SEEN INITIAL FORM;SEEN MEDIAL FORM",
    "SHEEN ISOLATED FORM;SHEEN FINAL FORM;SHEEN INITIAL FORM;SHEEN MEDIAL FORM",
    "SAD ISOLATED FORM;SAD FINAL FORM;SAD INITIAL FORM;SAD MEDIAL FORM;DAD ISOLATED FORM",
    "DAD FINAL FORM;DAD INITIAL FORM;DAD MEDIAL FORM;TAH ISOLATED FORM;TAH FINAL FORM",
    "TAH INITIAL FORM;TAH MEDIAL FORM;ZAH ISOLATED FORM;ZAH FINAL FORM;ZAH INITIAL FORM",
    "ZAH MEDIAL FORM;AIN ISOLATED FORM;AIN FINAL FORM;AIN INITIAL FORM;AIN MEDIAL FORM",
    "GHAIN ISOLATED FORM;GHAIN FINAL FORM;GHAIN INITIAL FORM;GHAIN MEDIAL FORM",
    "FEH ISOLATED FORM;FEH FINAL FORM;FEH INITIAL FORM;FEH MEDIAL FORM;QAF ISOLATED FORM",
    "QAF FINAL FORM;QAF INITIAL FORM;QAF MEDIAL FORM;KAF ISOLATED FORM;KAF FINAL FORM",
    "KAF INITIAL FORM;KAF MEDIAL FORM;LAM ISOLATED FORM;LAM FINAL FORM;LAM INITIAL FORM",
    "LAM MEDIAL FORM;MEEM ISOLATED FORM;MEEM FINAL FORM;MEEM INITIAL FORM;MEEM MEDIAL FORM",
    "NOON ISOLATED FORM;NOON FINAL FORM;NOON INITIAL FORM;NOON MEDIAL FORM;HEH ISOLATED FORM",
    "HEH FINAL FORM;HEH INITIAL FORM;HEH MEDIAL FORM;WAW ISOLATED FORM;WAW FINAL FORM",
    "ALEF MAKSURA ISOLATED FORM;ALEF MAKSURA FINAL FORM;YEH ISOLATED FORM;YEH FINAL FORM",
    "YEH INITIAL FORM;YEH MEDIAL FORM"]⟩,
  ⟨0xfef5, 1, "ARABIC LIGATURE LAM WITH ALEF ", [
    "WITH MADDA ABOVE ISOLATED FORM;WITH MADDA ABOVE FINAL FORM",
    "WITH HAMZA ABOVE ISOLATED FORM;WITH HAMZA ABOVE FINAL FORM",
    "WITH HAMZA BELOW ISOLATED FORM;WITH HAMZA BELOW FINAL FORM;ISOLATED FORM;FINAL FORM"]⟩,
  ⟨0x1ec71, 1, "INDIC SIYAQ NUMBER ", [
    "ONE;TWO;THREE;FOUR;FIVE;SIX;SEVEN;EIGHT;NINE;TEN;TWENTY;THIRTY;FORTY;FIFTY;SIXTY;SEVENTY",
    "EIGHTY;NINETY;ONE HUNDRED;TWO HUNDRED;THREE HUNDRED;FOUR HUNDRED;FIVE HUNDRED",
    "SIX HUNDRED;SEVEN HUNDRED;EIGHT HUNDRED;NINE HUNDRED;ONE THOUSAND;TWO THOUSAND",
    "THREE THOUSAND;FOUR THOUSAND;FIVE THOUSAND;SIX THOUSAND;SEVEN THOUSAND;EIGHT THOUSAND",
    "NINE THOUSAND;TEN THOUSAND;TWENTY THOUSAND;THIRTY THOUSAND;FORTY THOUSAND;FIFTY THOUSAND",
    "SIXTY THOUSAND;SEVENTY THOUSAND;EIGHTY THOUSAND;NINETY THOUSAND;LAKH;LAKHAN"]⟩,
  ⟨0x1eca0, 1, "INDIC SIYAQ ", ["LAKH MARK;NUMBER KAROR;NUMBER KARORAN"]⟩,
  ⟨0x1eca3, 1, "INDIC SIYAQ NUMBER PREFIXED ", ["ONE;TWO;THREE;FOUR;FIVE;SIX;SEVEN;EIGHT;NINE"]⟩,
  ⟨0x1ecac, 1, "INDIC SIYAQ ", [
    "PLACEHOLDER;FRACTION ONE QUARTER;FRACTION ONE HALF;FRACTION THREE QUARTERS;RUPEE MARK",
    "NUMBER ALTERNATE ONE;NUMBER ALTERNATE TWO;NUMBER ALTERNATE TEN THOUSAND",
    "ALTERNATE LAKH MARK"]⟩,
  ⟨0x1ed01, 1, "OTTOMAN SIYAQ NUMBER ", [
    "ONE;TWO;THREE;FOUR;FIVE;SIX;SEVEN;EIGHT;NINE;TEN;TWENTY;THIRTY;FORTY;FIFTY;SIXTY;SEVENTY",
    "EIGHTY;NINETY;ONE HUNDRED;TWO HUNDRED;THREE HUNDRED;FOUR HUNDRED;FIVE HUNDRED",
    "SIX HUNDRED;SEVEN HUNDRED;EIGHT HUNDRED;NINE HUNDRED;ONE THOUSAND;TWO THOUSAND",
    "THREE THOUSAND;FOUR THOUSAND;FIVE THOUSAND;SIX THOUSAND;SEVEN THOUSAND;EIGHT THOUSAND",
    "NINE THOUSAND;TEN THOUSAND;TWENTY THOUSAND;THIRTY THOUSAND;FORTY THOUSAND;FIFTY THOUSAND",
    "SIXTY THOUSAND;SEVENTY THOUSAND;EIGHTY THOUSAND;NINETY THOUSAND"]⟩,
  ⟨0x1ed2e, 1, "", ["OTTOMAN SIYAQ MARRATAN"]⟩,
  ⟨0x1ed2f, 1, "OTTOMAN SIYAQ ALTERNATE NUMBER ", [
    "TWO;THREE;FOUR;FIVE;SIX;SEVEN;EIGHT;NINE;TEN;FOUR HUNDRED;SIX HUNDRED;TWO THOUSAND",
    "TEN THOUSAND"]⟩,
  ⟨0x1ed3c, 1, "OTTOMAN SIYAQ FRACTION ONE ", ["HALF;SIXTH"]⟩,
  ⟨0x1ee00, 1, "ARABIC MATHEMATICAL ", ["ALEF;BEH;JEEM;DAL"]⟩,
  ⟨0x1ee05, 1, "ARABIC MATHEMATICAL ", [
    "WAW;ZAIN;HAH;TAH;YEH;KAF;LAM;MEEM;NOON;SEEN;AIN;FEH;SAD;QAF;REH;SHEEN;TEH;THEH;KHAH;THAL",
    "DAD;ZAH;GHAIN;DOTLESS BEH;DOTLESS NOON;DOTLESS FEH;DOTLESS QAF"]⟩,
  ⟨0x1ee21, 1, "ARABIC MATHEMATICAL INITIAL ", ["BEH;JEEM"]⟩,
  ⟨0x1ee24, 1, "", ["ARABIC MATHEMATICAL INITIAL HEH"]⟩,
  ⟨0x1ee27, 1, "", ["ARABIC MATHEMATICAL INITIAL HAH"]⟩,
  ⟨0x1ee29, 1, "ARABIC MATHEMATICAL INITIAL ", ["YEH;KAF;LAM;MEEM;NOON;SEEN;AIN;FEH;SAD;QAF"]⟩,
  ⟨0x1ee34, 1, "ARABIC MATHEMATICAL INITIAL ", ["SHEEN;TEH;THEH;KHAH"]⟩,
  ⟨0x1ee39, 1, "", ["ARABIC MATHEMATICAL INITIAL DAD"]⟩,
  ⟨0x1ee3b, 1, "", ["ARABIC MATHEMATICAL INITIAL GHAIN"]⟩,
  ⟨0x1ee42, 1, "", ["ARABIC MATHEMATICAL TAILED JEEM"]⟩,
  ⟨0x1ee47, 1, "", ["ARABIC MATHEMATICAL TAILED HAH"]⟩,
  ⟨0x1ee49, 1, "", ["ARABIC MATHEMATICAL TAILED YEH"]⟩,
  ⟨0x1ee4b, 1, "", ["ARABIC MATHEMATICAL TAILED LAM"]⟩,
  ⟨0x1ee4d, 1, "ARABIC MATHEMATICAL TAILED ", ["NOON;SEEN;AIN"]⟩,
  ⟨0x1ee51, 1, "ARABIC MATHEMATICAL TAILED ", ["SAD;QAF"]⟩,
  ⟨0x1ee54, 1, "", ["ARABIC MATHEMATICAL TAILED SHEEN"]⟩,
  ⟨0x1ee57, 1, "", ["ARABIC MATHEMATICAL TAILED KHAH"]⟩,
  ⟨0x1ee59, 1, "", ["ARABIC MATHEMATICAL TAILED DAD"]⟩,
  ⟨0x1ee5b, 1, "", ["ARABIC MATHEMATICAL TAILED GHAIN"]⟩,
  ⟨0x1ee5d, 1, "", ["ARABIC MATHEMATICAL TAILED DOTLESS NOON"]⟩,
  ⟨0x1ee5f, 1, "", ["ARABIC MATHEMATICAL TAILED DOTLESS QAF"]⟩,
  ⟨0x1ee61, 1, "ARABIC MATHEMATICAL STRETCHED ", ["BEH;JEEM"]⟩,
  ⟨0x1ee64, 1, "", ["ARABIC MATHEMATICAL STRETCHED HEH"]⟩,
  ⟨0x1ee67, 1, "ARABIC MATHEMATICAL STRETCHED ", ["HAH;TAH;YEH;KAF"]⟩,
  ⟨0x1ee6c, 1, "ARABIC MATHEMATICAL STRETCHED ", ["MEEM;NOON;SEEN;AIN;FEH;SAD;QAF"]⟩,
  ⟨0x1ee74, 1, "ARABIC MATHEMATICAL STRETCHED ", ["SHEEN;TEH;THEH;KHAH"]⟩,
  ⟨0x1ee79, 1, "ARABIC MATHEMATICAL STRETCHED ", ["DAD;ZAH;GHAIN;DOTLESS BEH"]⟩,
  ⟨0x1ee7e, 1, "", ["ARABIC MATHEMATICAL STRETCHED DOTLESS FEH"]⟩,
  ⟨0x1ee80, 1, "ARABIC MATHEMATICAL LOOPED ", ["ALEF;BEH;JEEM;DAL;HEH;WAW;ZAIN;HAH;TAH;YEH"]⟩,
  ⟨0x1ee8b, 1, "ARABIC MATHEMATICAL LOOPED ", [
    "LAM;MEEM;NOON;SEEN;AIN;FEH;SAD;QAF;REH;SHEEN;TEH;THEH;KHAH;THAL;DAD;ZAH;GHAIN"]⟩,
  ⟨0x1eea1, 1, "ARABIC MATHEMATICAL DOUBLE-STRUCK ", ["BEH;JEEM;DAL"]⟩,
  ⟨0x1eea5, 1, "ARABIC MATHEMATICAL DOUBLE-STRUCK ", ["WAW;ZAIN;HAH;TAH;YEH"]⟩,
  ⟨0x1eeab, 1, "ARABIC MATHEMATICAL DOUBLE-STRUCK ", [
    "LAM;MEEM;NOON;SEEN;AIN;FEH;SAD;QAF;REH;SHEEN;TEH;THEH;KHAH;THAL;DAD;ZAH;GHAIN"]⟩,
  ⟨0x1eef0, 1, "ARABIC MATHEMATICAL OPERATOR ", ["MEEM WITH HAH WITH TATWEEL;HAH WITH DAL"]⟩]

end Dialogue.Text.Name
