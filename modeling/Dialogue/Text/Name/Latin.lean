import Dialogue.Text.Name.Basic
/-!
Names of Latin letters with and without marks, digits and common punctuation, and of modifier
letters and combining marks.
-/
namespace Dialogue.Text.Name

def latin : List Run := [
  ⟨0x20, 1, "", [
    "SPACE;EXCLAMATION MARK;QUOTATION MARK;NUMBER SIGN;DOLLAR SIGN;PERCENT SIGN;AMPERSAND",
    "APOSTROPHE;LEFT PARENTHESIS;RIGHT PARENTHESIS;ASTERISK;PLUS SIGN;COMMA;HYPHEN-MINUS",
    "FULL STOP;SOLIDUS"]⟩,
  ⟨0x30, 1, "DIGIT ", ["ZERO;ONE;TWO;THREE;FOUR;FIVE;SIX;SEVEN;EIGHT;NINE"]⟩,
  ⟨0x3a, 1, "", [
    "COLON;SEMICOLON;LESS-THAN SIGN;EQUALS SIGN;GREATER-THAN SIGN;QUESTION MARK;COMMERCIAL AT"]⟩,
  ⟨0x41, 1, "LATIN CAPITAL LETTER ", ["A;B;C;D;E;F;G;H;I;J;K;L;M;N;O;P;Q;R;S;T;U;V;W;X;Y;Z"]⟩,
  ⟨0x5b, 1, "", [
    "LEFT SQUARE BRACKET;REVERSE SOLIDUS;RIGHT SQUARE BRACKET;CIRCUMFLEX ACCENT;LOW LINE",
    "GRAVE ACCENT"]⟩,
  ⟨0x61, 1, "LATIN SMALL LETTER ", ["A;B;C;D;E;F;G;H;I;J;K;L;M;N;O;P;Q;R;S;T;U;V;W;X;Y;Z"]⟩,
  ⟨0x7b, 1, "", ["LEFT CURLY BRACKET;VERTICAL LINE;RIGHT CURLY BRACKET;TILDE"]⟩,
  ⟨0xa0, 1, "", [
    "NO-BREAK SPACE;INVERTED EXCLAMATION MARK;CENT SIGN;POUND SIGN;CURRENCY SIGN;YEN SIGN",
    "BROKEN BAR;SECTION SIGN;DIAERESIS;COPYRIGHT SIGN;FEMININE ORDINAL INDICATOR",
    "LEFT-POINTING DOUBLE ANGLE QUOTATION MARK;NOT SIGN;SOFT HYPHEN;REGISTERED SIGN;MACRON",
    "DEGREE SIGN;PLUS-MINUS SIGN"]⟩,
  ⟨0xb2, 1, "SUPERSCRIPT ", ["TWO;THREE"]⟩,
  ⟨0xb4, 1, "", ["ACUTE ACCENT;MICRO SIGN;PILCROW SIGN;MIDDLE DOT;CEDILLA"]⟩,
  ⟨0xb9, 1, "SUPERSCRIPT ", ["ONE"]⟩,
  ⟨0xba, 1, "", ["MASCULINE ORDINAL INDICATOR;RIGHT-POINTING DOUBLE ANGLE QUOTATION MARK"]⟩,
  ⟨0xbc, 1, "VULGAR FRACTION ", ["ONE QUARTER;ONE HALF;THREE QUARTERS"]⟩,
  ⟨0xbf, 1, "", ["INVERTED QUESTION MARK"]⟩,
  ⟨0xc0, 1, "LATIN CAPITAL LETTER ", [
    "A WITH GRAVE;A WITH ACUTE;A WITH CIRCUMFLEX;A WITH TILDE;A WITH DIAERESIS",
    "A WITH RING ABOVE;AE;C WITH CEDILLA;E WITH GRAVE;E WITH ACUTE;E WITH CIRCUMFLEX",
    "E WITH DIAERESIS;I WITH GRAVE;I WITH ACUTE;I WITH CIRCUMFLEX;I WITH DIAERESIS;ETH",
    "N WITH TILDE;O WITH GRAVE;O WITH ACUTE;O WITH CIRCUMFLEX;O WITH TILDE;O WITH DIAERESIS"]⟩,
  ⟨0xd7, 1, "", ["MULTIPLICATION SIGN"]⟩,
  ⟨0xd8, 1, "LATIN CAPITAL LETTER ", [
    "O WITH STROKE;U WITH GRAVE;U WITH ACUTE;U WITH CIRCUMFLEX;U WITH DIAERESIS;Y WITH ACUTE",
    "THORN"]⟩,
  ⟨0xdf, 1, "LATIN SMALL LETTER ", [
    "SHARP S;A WITH GRAVE;A WITH ACUTE;A WITH CIRCUMFLEX;A WITH TILDE;A WITH DIAERESIS",
    "A WITH RING ABOVE;AE;C WITH CEDILLA;E WITH GRAVE;E WITH ACUTE;E WITH CIRCUMFLEX",
    "E WITH DIAERESIS;I WITH GRAVE;I WITH ACUTE;I WITH CIRCUMFLEX;I WITH DIAERESIS;ETH",
    "N WITH TILDE;O WITH GRAVE;O WITH ACUTE;O WITH CIRCUMFLEX;O WITH TILDE;O WITH DIAERESIS"]⟩,
  ⟨0xf7, 1, "", ["DIVISION SIGN"]⟩,
  ⟨0xf8, 1, "LATIN SMALL LETTER ", [
    "O WITH STROKE;U WITH GRAVE;U WITH ACUTE;U WITH CIRCUMFLEX;U WITH DIAERESIS;Y WITH ACUTE",
    "THORN;Y WITH DIAERESIS"]⟩,
  ⟨0x100, 2, "LATIN CAPITAL LETTER ", [
    "A WITH MACRON;A WITH BREVE;A WITH OGONEK;C WITH ACUTE;C WITH CIRCUMFLEX;C WITH DOT ABOVE",
    "C WITH CARON;D WITH CARON;D WITH STROKE;E WITH MACRON;E WITH BREVE;E WITH DOT ABOVE",
    "E WITH OGONEK;E WITH CARON;G WITH CIRCUMFLEX;G WITH BREVE;G WITH DOT ABOVE",
    "G WITH CEDILLA;H WITH CIRCUMFLEX;H WITH STROKE;I WITH TILDE;I WITH MACRON;I WITH BREVE",
    "I WITH OGONEK;I WITH DOT ABOVE"]⟩,
  ⟨0x101, 2, "LATIN SMALL LETTER ", [
    "A WITH MACRON;A WITH BREVE;A WITH OGONEK;C WITH ACUTE;C WITH CIRCUMFLEX;C WITH DOT ABOVE",
    "C WITH CARON;D WITH CARON;D WITH STROKE;E WITH MACRON;E WITH BREVE;E WITH DOT ABOVE",
    "E WITH OGONEK;E WITH CARON;G WITH CIRCUMFLEX;G WITH BREVE;G WITH DOT ABOVE",
    "G WITH CEDILLA;H WITH CIRCUMFLEX;H WITH STROKE;I WITH TILDE;I WITH MACRON;I WITH BREVE",
    "I WITH OGONEK;DOTLESS I"]⟩,
  ⟨0x132, 1, "", ["LATIN CAPITAL LIGATURE IJ;LATIN SMALL LIGATURE IJ"]⟩,
  ⟨0x134, 2, "LATIN CAPITAL LETTER ", ["J WITH CIRCUMFLEX;K WITH CEDILLA"]⟩,
  ⟨0x135, 1, "LATIN SMALL LETTER ", ["J WITH CIRCUMFLEX"]⟩,
  ⟨0x137, 1, "LATIN SMALL LETTER ", ["K WITH CEDILLA;KRA"]⟩,
  ⟨0x139, 2, "LATIN CAPITAL LETTER ", [
    "L WITH ACUTE;L WITH CEDILLA;L WITH CARON;L WITH MIDDLE DOT;L WITH STROKE;N WITH ACUTE",
    "N WITH CEDILLA;N WITH CARON"]⟩,
  ⟨0x13a, 2, "LATIN SMALL LETTER ", [
    "L WITH ACUTE;L WITH CEDILLA;L WITH CARON;L WITH MIDDLE DOT;L WITH STROKE;N WITH ACUTE",
    "N WITH CEDILLA;N WITH CARON"]⟩,
  ⟨0x149, 2, "LATIN SMALL LETTER ", [
    "N PRECEDED BY APOSTROPHE;ENG;O WITH MACRON;O WITH BREVE;O WITH DOUBLE ACUTE"]⟩,
  ⟨0x14a, 2, "LATIN CAPITAL LETTER ", ["ENG;O WITH MACRON;O WITH BREVE;O WITH DOUBLE ACUTE"]⟩,
  ⟨0x152, 1, "", ["LATIN CAPITAL LIGATURE OE;LATIN SMALL LIGATURE OE"]⟩,
  ⟨0x154, 2, "LATIN CAPITAL LETTER ", [
    "R WITH ACUTE;R WITH CEDILLA;R WITH CARON;S WITH ACUTE;S WITH CIRCUMFLEX;S WITH CEDILLA",
    "S WITH CARON;T WITH CEDILLA;T WITH CARON;T WITH STROKE;U WITH TILDE;U WITH MACRON",
    "U WITH BREVE;U WITH RING ABOVE;U WITH DOUBLE ACUTE;U WITH OGONEK;W WITH CIRCUMFLEX",
    "Y WITH CIRCUMFLEX;Y WITH DIAERESIS"]⟩,
  ⟨0x155, 2, "LATIN SMALL LETTER ", [
    "R WITH ACUTE;R WITH CEDILLA;R WITH CARON;S WITH ACUTE;S WITH CIRCUMFLEX;S WITH CEDILLA",
    "S WITH CARON;T WITH CEDILLA;T WITH CARON;T WITH STROKE;U WITH TILDE;U WITH MACRON",
    "U WITH BREVE;U WITH RING ABOVE;U WITH DOUBLE ACUTE;U WITH OGONEK;W WITH CIRCUMFLEX",
    "Y WITH CIRCUMFLEX"]⟩,
  ⟨0x179, 2, "LATIN CAPITAL LETTER ", ["Z WITH ACUTE;Z WITH DOT ABOVE;Z WITH CARON"]⟩,
  ⟨0x17a, 2, "LATIN SMALL LETTER ", ["Z WITH ACUTE;Z WITH DOT ABOVE;Z WITH CARON"]⟩,
  ⟨0x17f, 1, "LATIN SMALL LETTER ", ["LONG S;B WITH STROKE"]⟩,
  ⟨0x181, 1, "LATIN CAPITAL LETTER ", ["B WITH HOOK;B WITH TOPBAR"]⟩,
  ⟨0x183, 2, "LATIN SMALL LETTER ", ["B WITH TOPBAR;TONE SIX"]⟩,
  ⟨0x184, 1, "LATIN CAPITAL LETTER ", ["TONE SIX"]⟩,
  ⟨0x186, 1, "LATIN CAPITAL LETTER ", ["OPEN O;C WITH HOOK"]⟩,
  ⟨0x188, 1, "LATIN SMALL LETTER ", ["C WITH HOOK"]⟩,
  ⟨0x189, 1, "LATIN CAPITAL LETTER ", ["AFRICAN D;D WITH HOOK;D WITH TOPBAR"]⟩,
  ⟨0x18c, 1, "LATIN SMALL LETTER ", ["D WITH TOPBAR;TURNED DELTA"]⟩,
  ⟨0x18e, 1, "LATIN CAPITAL LETTER ", ["REVERSED E;SCHWA;OPEN E;F WITH HOOK"]⟩,
  ⟨0x192, 1, "LATIN SMALL LETTER ", ["F WITH HOOK"]⟩,
  ⟨0x193, 1, "LATIN CAPITAL LETTER ", ["G WITH HOOK;GAMMA"]⟩,
  ⟨0x195, 1, "LATIN SMALL LETTER ", ["HV"]⟩,
  ⟨0x196, 1, "LATIN CAPITAL LETTER ", ["IOTA;I WITH STROKE;K WITH HOOK"]⟩,
  ⟨0x199, 1, "LATIN SMALL LETTER ", ["K WITH HOOK;L WITH BAR;LAMBDA WITH STROKE"]⟩,
  ⟨0x19c, 1, "LATIN CAPITAL LETTER ", ["TURNED M;N WITH LEFT HOOK"]⟩,
  ⟨0x19e, 1, "LATIN SMALL LETTER ", ["N WITH LONG RIGHT LEG"]⟩,
  ⟨0x19f, 1, "LATIN CAPITAL LETTER ", ["O WITH MIDDLE TILDE;O WITH HORN"]⟩,
  ⟨0x1a1, 2, "LATIN SMALL LETTER ", ["O WITH HORN;OI;P WITH HOOK"]⟩,
  ⟨0x1a2, 2, "LATIN CAPITAL LETTER ", ["OI;P WITH HOOK"]⟩,
  ⟨0x1a6, 1, "LATIN LETTER ", ["YR"]⟩,
  ⟨0x1a7, 2, "LATIN CAPITAL LETTER ", ["TONE TWO;ESH"]⟩,
  ⟨0x1a8, 1, "LATIN SMALL LETTER ", ["TONE TWO"]⟩,
  ⟨0x1aa, 1, "LATIN LETTER ", ["REVERSED ESH LOOP"]⟩,
  ⟨0x1ab, 2, "LATIN SMALL LETTER ", ["T WITH PALATAL HOOK;T WITH HOOK"]⟩,
  ⟨0x1ac, 1, "LATIN CAPITAL LETTER ", ["T WITH HOOK"]⟩,
  ⟨0x1ae, 1, "LATIN CAPITAL LETTER ", ["T WITH RETROFLEX HOOK;U WITH HORN"]⟩,
  ⟨0x1b0, 1, "LATIN SMALL LETTER ", ["U WITH HORN"]⟩,
  ⟨0x1b1, 1, "LATIN CAPITAL LETTER ", ["UPSILON;V WITH HOOK;Y WITH HOOK"]⟩,
  ⟨0x1b4, 2, "LATIN SMALL LETTER ", ["Y WITH HOOK;Z WITH STROKE"]⟩,
  ⟨0x1b5, 1, "LATIN CAPITAL LETTER ", ["Z WITH STROKE"]⟩,
  ⟨0x1b7, 1, "LATIN CAPITAL LETTER ", ["EZH;EZH REVERSED"]⟩,
  ⟨0x1b9, 1, "LATIN SMALL LETTER ", ["EZH REVERSED;EZH WITH TAIL"]⟩,
  ⟨0x1bb, 1, "LATIN LETTER ", ["TWO WITH STROKE"]⟩,
  ⟨0x1bc, 1, "LATIN CAPITAL LETTER ", ["TONE FIVE"]⟩,
  ⟨0x1bd, 1, "LATIN SMALL LETTER ", ["TONE FIVE"]⟩,
  ⟨0x1be, 1, "LATIN LETTER ", [
    "INVERTED GLOTTAL STOP WITH STROKE;WYNN;DENTAL CLICK;LATERAL CLICK;ALVEOLAR CLICK",
    "RETROFLEX CLICK"]⟩,
  ⟨0x1c4, 1, "LATIN CAPITAL LETTER ", ["DZ WITH CARON;D WITH SMALL LETTER Z WITH CARON"]⟩,
  ⟨0x1c6, 1, "LATIN SMALL LETTER ", ["DZ WITH CARON"]⟩,
  ⟨0x1c7, 1, "LATIN CAPITAL LETTER ", ["LJ;L WITH SMALL LETTER J"]⟩,
  ⟨0x1c9, 1, "LATIN SMALL LETTER ", ["LJ"]⟩,
  ⟨0x1ca, 1, "LATIN CAPITAL LETTER ", ["NJ;N WITH SMALL LETTER J"]⟩,
  ⟨0x1cc, 2, "LATIN SMALL LETTER ", [
    "NJ;A WITH CARON;I WITH CARON;O WITH CARON;U WITH CARON;U WITH DIAERESIS AND MACRON",
    "U WITH DIAERESIS AND ACUTE;U WITH DIAERESIS AND CARON;U WITH DIAERESIS AND GRAVE"]⟩,
  ⟨0x1cd, 2, "LATIN CAPITAL LETTER ", [
    "A WITH CARON;I WITH CARON;O WITH CARON;U WITH CARON;U WITH DIAERESIS AND MACRON",
    "U WITH DIAERESIS AND ACUTE;U WITH DIAERESIS AND CARON;U WITH DIAERESIS AND GRAVE"]⟩,
  ⟨0x1dd, 2, "LATIN SMALL LETTER ", [
    "TURNED E;A WITH DIAERESIS AND MACRON;A WITH DOT ABOVE AND MACRON;AE WITH MACRON",
    "G WITH STROKE;G WITH CARON;K WITH CARON;O WITH OGONEK;O WITH OGONEK AND MACRON",
    "EZH WITH CARON"]⟩,
  ⟨0x1de, 2, "LATIN CAPITAL LETTER ", [
    "A WITH DIAERESIS AND MACRON;A WITH DOT ABOVE AND MACRON;AE WITH MACRON;G WITH STROKE",
    "G WITH CARON;K WITH CARON;O WITH OGONEK;O WITH OGONEK AND MACRON;EZH WITH CARON"]⟩,
  ⟨0x1f0, 1, "LATIN SMALL LETTER ", ["J WITH CARON"]⟩,
  ⟨0x1f1, 1, "LATIN CAPITAL LETTER ", ["DZ;D WITH SMALL LETTER Z"]⟩,
  ⟨0x1f3, 2, "LATIN SMALL LETTER ", ["DZ;G WITH ACUTE"]⟩,
  ⟨0x1f4, 1, "LATIN CAPITAL LETTER ", ["G WITH ACUTE"]⟩,
  ⟨0x1f6, 1, "LATIN CAPITAL LETTER ", ["HWAIR;WYNN;N WITH GRAVE"]⟩,
  ⟨0x1f9, 2, "LATIN SMALL LETTER ", [
    "N WITH GRAVE;A WITH RING ABOVE AND ACUTE;AE WITH ACUTE;O WITH STROKE AND ACUTE",
    "A WITH DOUBLE GRAVE;A WITH INVERTED BREVE;E WITH DOUBLE GRAVE;E WITH INVERTED BREVE",
    "I WITH DOUBLE GRAVE;I WITH INVERTED BREVE;O WITH DOUBLE GRAVE;O WITH INVERTED BREVE",
    "R WITH DOUBLE GRAVE;R WITH INVERTED BREVE;U WITH DOUBLE GRAVE;U WITH INVERTED BREVE",
    "S WITH COMMA BELOW;T WITH COMMA BELOW;YOGH;H WITH CARON;D WITH CURL;OU;Z WITH HOOK",
    "A WITH DOT ABOVE;E WITH CEDILLA;O WITH DIAERESIS AND MACRON;O WITH TILDE AND MACRON",
    "O WITH DOT ABOVE;O WITH DOT ABOVE AND MACRON;Y WITH MACRON"]⟩,
  ⟨0x1fa, 2, "LATIN CAPITAL LETTER ", [
    "A WITH RING ABOVE AND ACUTE;AE WITH ACUTE;O WITH STROKE AND ACUTE;A WITH DOUBLE GRAVE",
    "A WITH INVERTED BREVE;E WITH DOUBLE GRAVE;E WITH INVERTED BREVE;I WITH DOUBLE GRAVE",
    "I WITH INVERTED BREVE;O WITH DOUBLE GRAVE;O WITH INVERTED BREVE;R WITH DOUBLE GRAVE",
    "R WITH INVERTED BREVE;U WITH DOUBLE GRAVE;U WITH INVERTED BREVE;S WITH COMMA BELOW",
    "T WITH COMMA BELOW;YOGH;H WITH CARON;N WITH LONG RIGHT LEG;OU;Z WITH HOOK",
    "A WITH DOT ABOVE;E WITH CEDILLA;O WITH DIAERESIS AND MACRON;O WITH TILDE AND MACRON",
    "O WITH DOT ABOVE;O WITH DOT ABOVE AND MACRON;Y WITH MACRON"]⟩,
  ⟨0x234, 1, "LATIN SMALL LETTER ", [
    "L WITH CURL;N WITH CURL;T WITH CURL;DOTLESS J;DB DIGRAPH;QP DIGRAPH"]⟩,
  ⟨0x23a, 1, "LATIN CAPITAL LETTER ", ["A WITH STROKE;C WITH STROKE"]⟩,
  ⟨0x23c, 1, "LATIN SMALL LETTER ", ["C WITH STROKE"]⟩,
  ⟨0x23d, 1, "LATIN CAPITAL LETTER ", ["L WITH BAR;T WITH DIAGONAL STROKE"]⟩,
  ⟨0x23f, 1, "LATIN SMALL LETTER ", ["S WITH SWASH TAIL;Z WITH SWASH TAIL"]⟩,
  ⟨0x241, 1, "LATIN CAPITAL LETTER ", ["GLOTTAL STOP"]⟩,
  ⟨0x242, 1, "LATIN SMALL LETTER ", ["GLOTTAL STOP"]⟩,
  ⟨0x243, 1, "LATIN CAPITAL LETTER ", ["B WITH STROKE;U BAR;TURNED V;E WITH STROKE"]⟩,
  ⟨0x247, 2, "LATIN SMALL LETTER ", [
    "E WITH STROKE;J WITH STROKE;Q WITH HOOK TAIL;R WITH STROKE;Y WITH STROKE"]⟩,
  ⟨0x248, 2, "LATIN CAPITAL LETTER ", [
    "J WITH STROKE;SMALL Q WITH HOOK TAIL;R WITH STROKE;Y WITH STROKE"]⟩,
  ⟨0x250, 1, "LATIN SMALL LETTER ", [
    "TURNED A;ALPHA;TURNED ALPHA;B WITH HOOK;OPEN O;C WITH CURL;D WITH TAIL;D WITH HOOK",
    "REVERSED E;SCHWA;SCHWA WITH HOOK;OPEN E;REVERSED OPEN E;REVERSED OPEN E WITH HOOK",
    "CLOSED REVERSED OPEN E;DOTLESS J WITH STROKE;G WITH HOOK;SCRIPT G"]⟩,
  ⟨0x262, 1, "LATIN LETTER ", ["SMALL CAPITAL G"]⟩,
  ⟨0x263, 1, "LATIN SMALL LETTER ", [
    "GAMMA;RAMS HORN;TURNED H;H WITH HOOK;HENG WITH HOOK;I WITH STROKE;IOTA"]⟩,
  ⟨0x26a, 1, "LATIN LETTER ", ["SMALL CAPITAL I"]⟩,
  ⟨0x26b, 1, "LATIN SMALL LETTER ", [
    "L WITH MIDDLE TILDE;L WITH BELT;L WITH RETROFLEX HOOK;LEZH;TURNED M",
    "TURNED M WITH LONG LEG;M WITH HOOK;N WITH LEFT HOOK;N WITH RETROFLEX HOOK"]⟩,
  ⟨0x274, 2, "LATIN LETTER ", ["SMALL CAPITAL N;SMALL CAPITAL OE"]⟩,
  ⟨0x275, 1, "LATIN SMALL LETTER ", ["BARRED O"]⟩,
  ⟨0x277, 1, "LATIN SMALL LETTER ", [
    "CLOSED OMEGA;PHI;TURNED R;TURNED R WITH LONG LEG;TURNED R WITH HOOK;R WITH LONG LEG",
    "R WITH TAIL;R WITH FISHHOOK;REVERSED R WITH FISHHOOK"]⟩,
  ⟨0x280, 1, "LATIN LETTER ", ["SMALL CAPITAL R;SMALL CAPITAL INVERTED R"]⟩,
  ⟨0x282, 1, "LATIN SMALL LETTER ", [
    "S WITH HOOK;ESH;DOTLESS J WITH STROKE AND HOOK;SQUAT REVERSED ESH;ESH WITH CURL;TURNED T",
    "T WITH RETROFLEX HOOK;U BAR;UPSILON;V WITH HOOK;TURNED V;TURNED W;TURNED Y"]⟩,
  ⟨0x28f, 1, "LATIN LETTER ", ["SMALL CAPITAL Y"]⟩,
  ⟨0x290, 1, "LATIN SMALL LETTER ", ["Z WITH RETROFLEX HOOK;Z WITH CURL;EZH;EZH WITH CURL"]⟩,
  ⟨0x294, 1, "LATIN LETTER ", [
    "GLOTTAL STOP;PHARYNGEAL VOICED FRICATIVE;INVERTED GLOTTAL STOP;STRETCHED C",
    "BILABIAL CLICK;SMALL CAPITAL B"]⟩,
  ⟨0x29a, 1, "LATIN SMALL LETTER ", ["CLOSED OPEN E"]⟩,
  ⟨0x29b, 1, "LATIN LETTER ", ["SMALL CAPITAL G WITH HOOK;SMALL CAPITAL H"]⟩,
  ⟨0x29d, 1, "LATIN SMALL LETTER ", ["J WITH CROSSED-TAIL;TURNED K"]⟩,
  ⟨0x29f, 1, "LATIN LETTER ", ["SMALL CAPITAL L"]⟩,
  ⟨0x2a0, 1, "LATIN SMALL LETTER ", ["Q WITH HOOK"]⟩,
  ⟨0x2a1, 1, "LATIN LETTER ", ["GLOTTAL STOP WITH STROKE;REVERSED GLOTTAL STOP WITH STROKE"]⟩,
  ⟨0x2a3, 1, "LATIN SMALL LETTER ", [
    "DZ DIGRAPH;DEZH DIGRAPH;DZ DIGRAPH WITH CURL;TS DIGRAPH;TESH DIGRAPH",
    "TC DIGRAPH WITH CURL;FENG DIGRAPH;LS DIGRAPH;LZ DIGRAPH"]⟩,
  ⟨0x2ac, 1, "LATIN LETTER ", ["BILABIAL PERCUSSIVE;BIDENTAL PERCUSSIVE"]⟩,
  ⟨0x2ae, 1, "LATIN SMALL LETTER ", ["TURNED H WITH FISHHOOK;TURNED H WITH FISHHOOK AND TAIL"]⟩,
  ⟨0x1e00, 2, "LATIN CAPITAL LETTER ", [
    "A WITH RING BELOW;B WITH DOT ABOVE;B WITH DOT BELOW;B WITH LINE BELOW",
    "C WITH CEDILLA AND ACUTE;D WITH DOT ABOVE;D WITH DOT BELOW;D WITH LINE BELOW",
    "D WITH CEDILLA;D WITH CIRCUMFLEX BELOW;E WITH MACRON AND GRAVE;E WITH MACRON AND ACUTE",
    "E WITH CIRCUMFLEX BELOW;E WITH TILDE BELOW;E WITH CEDILLA AND BREVE;F WITH DOT ABOVE",
    "G WITH MACRON;H WITH DOT ABOVE;H WITH DOT BELOW;H WITH DIAERESIS;H WITH CEDILLA",
    "H WITH BREVE BELOW;I WITH TILDE BELOW;I WITH DIAERESIS AND ACUTE;K WITH ACUTE",
    "K WITH DOT BELOW;K WITH LINE BELOW;L WITH DOT BELOW;L WITH DOT BELOW AND MACRON",
    "L WITH LINE BELOW;L WITH CIRCUMFLEX BELOW;M WITH ACUTE;M WITH DOT ABOVE;M WITH DOT BELOW",
    "N WITH DOT ABOVE;N WITH DOT BELOW;N WITH LINE BELOW;N WITH CIRCUMFLEX BELOW",
    "O WITH TILDE AND ACUTE;O WITH TILDE AND DIAERESIS;O WITH MACRON AND GRAVE",
    "O WITH MACRON AND ACUTE;P WITH ACUTE;P WITH DOT ABOVE;R WITH DOT ABOVE;R WITH DOT BELOW",
    "R WITH DOT BELOW AND MACRON;R WITH LINE BELOW;S WITH DOT ABOVE;S WITH DOT BELOW",
    "S WITH ACUTE AND DOT ABOVE;S WITH CARON AND DOT ABOVE;S WITH DOT BELOW AND DOT ABOVE",
    "T WITH DOT ABOVE;T WITH DOT BELOW;T WITH LINE BELOW;T WITH CIRCUMFLEX BELOW",
    "U WITH DIAERESIS BELOW;U WITH TILDE BELOW;U WITH CIRCUMFLEX BELOW;U WITH TILDE AND ACUTE",
    "U WITH MACRON AND DIAERESIS;V WITH TILDE;V WITH DOT BELOW;W WITH GRAVE;W WITH ACUTE",
    "W WITH DIAERESIS;W WITH DOT ABOVE;W WITH DOT BELOW;X WITH DOT ABOVE;X WITH DIAERESIS",
    "Y WITH DOT ABOVE;Z WITH CIRCUMFLEX;Z WITH DOT BELOW;Z WITH LINE BELOW"]⟩,
  ⟨0x1e01, 2, "LATIN SMALL LETTER ", [
    "A WITH RING BELOW;B WITH DOT ABOVE;B WITH DOT BELOW;B WITH LINE BELOW",
    "C WITH CEDILLA AND ACUTE;D WITH DOT ABOVE;D WITH DOT BELOW;D WITH LINE BELOW",
    "D WITH CEDILLA;D WITH CIRCUMFLEX BELOW;E WITH MACRON AND GRAVE;E WITH MACRON AND ACUTE",
    "E WITH CIRCUMFLEX BELOW;E WITH TILDE BELOW;E WITH CEDILLA AND BREVE;F WITH DOT ABOVE",
    "G WITH MACRON;H WITH DOT ABOVE;H WITH DOT BELOW;H WITH DIAERESIS;H WITH CEDILLA",
    "H WITH BREVE BELOW;I WITH TILDE BELOW;I WITH DIAERESIS AND ACUTE;K WITH ACUTE",
    "K WITH DOT BELOW;K WITH LINE BELOW;L WITH DOT BELOW;L WITH DOT BELOW AND MACRON",
    "L WITH LINE BELOW;L WITH CIRCUMFLEX BELOW;M WITH ACUTE;M WITH DOT ABOVE;M WITH DOT BELOW",
    "N WITH DOT ABOVE;N WITH DOT BELOW;N WITH LINE BELOW;N WITH CIRCUMFLEX BELOW",
    "O WITH TILDE AND ACUTE;O WITH TILDE AND DIAERESIS;O WITH MACRON AND GRAVE",
    "O WITH MACRON AND ACUTE;P WITH ACUTE;P WITH DOT ABOVE;R WITH DOT ABOVE;R WITH DOT BELOW",
    "R WITH DOT BELOW AND MACRON;R WITH LINE BELOW;S WITH DOT ABOVE;S WITH DOT BELOW",
    "S WITH ACUTE AND DOT ABOVE;S WITH CARON AND DOT ABOVE;S WITH DOT BELOW AND DOT ABOVE",
    "T WITH DOT ABOVE;T WITH DOT BELOW;T WITH LINE BELOW;T WITH CIRCUMFLEX BELOW",
    "U WITH DIAERESIS BELOW;U WITH TILDE BELOW;U WITH CIRCUMFLEX BELOW;U WITH TILDE AND ACUTE",
    "U WITH MACRON AND DIAERESIS;V WITH TILDE;V WITH DOT BELOW;W WITH GRAVE;W WITH ACUTE",
    "W WITH DIAERESIS;W WITH DOT ABOVE;W WITH DOT BELOW;X WITH DOT ABOVE;X WITH DIAERESIS",
    "Y WITH DOT ABOVE;Z WITH CIRCUMFLEX;Z WITH DOT BELOW;Z WITH LINE BELOW"]⟩,
  ⟨0x1e96, 1, "LATIN SMALL LETTER ", [
    "H WITH LINE BELOW;T WITH DIAERESIS;W WITH RING ABOVE;Y WITH RING ABOVE",
    "A WITH RIGHT HALF RING;LONG S WITH DOT ABOVE;LONG S WITH DIAGONAL STROKE",
    "LONG S WITH HIGH STROKE"]⟩,
  ⟨0x1e9e, 2, "LATIN CAPITAL LETTER ", [
    "SHARP S;A WITH DOT BELOW;A WITH HOOK ABOVE;A WITH CIRCUMFLEX AND ACUTE",
    "A WITH CIRCUMFLEX AND GRAVE;A WITH CIRCUMFLEX AND HOOK ABOVE;A WITH CIRCUMFLEX AND TILDE",
    "A WITH CIRCUMFLEX AND DOT BELOW;A WITH BREVE AND ACUTE;A WITH BREVE AND GRAVE",
    "A WITH BREVE AND HOOK ABOVE;A WITH BREVE AND TILDE;A WITH BREVE AND DOT BELOW",
    "E WITH DOT BELOW;E WITH HOOK ABOVE;E WITH TILDE;E WITH CIRCUMFLEX AND ACUTE",
    "E WITH CIRCUMFLEX AND GRAVE;E WITH CIRCUMFLEX AND HOOK ABOVE;E WITH CIRCUMFLEX AND TILDE",
    "E WITH CIRCUMFLEX AND DOT BELOW;I WITH HOOK ABOVE;I WITH DOT BELOW;O WITH DOT BELOW",
    "O WITH HOOK ABOVE;O WITH CIRCUMFLEX AND ACUTE;O WITH CIRCUMFLEX AND GRAVE",
    "O WITH CIRCUMFLEX AND HOOK ABOVE;O WITH CIRCUMFLEX AND TILDE",
    "O WITH CIRCUMFLEX AND DOT BELOW;O WITH HORN AND ACUTE;O WITH HORN AND GRAVE",
    "O WITH HORN AND HOOK ABOVE;O WITH HORN AND TILDE;O WITH HORN AND DOT BELOW",
    "U WITH DOT BELOW;U WITH HOOK ABOVE;U WITH HORN AND ACUTE;U WITH HORN AND GRAVE",
    "U WITH HORN AND HOOK ABOVE;U WITH HORN AND TILDE;U WITH HORN AND DOT BELOW;Y WITH GRAVE",
    "Y WITH DOT BELOW;Y WITH HOOK ABOVE;Y WITH TILDE;MIDDLE-WELSH LL;MIDDLE-WELSH V",
    "Y WITH LOOP"]⟩,
  ⟨0x1e9f, 2, "LATIN SMALL LETTER ", [
    "DELTA;A WITH DOT BELOW;A WITH HOOK ABOVE;A WITH CIRCUMFLEX AND ACUTE",
    "A WITH CIRCUMFLEX AND GRAVE;A WITH CIRCUMFLEX AND HOOK ABOVE;A WITH CIRCUMFLEX AND TILDE",
    "A WITH CIRCUMFLEX AND DOT BELOW;A WITH BREVE AND ACUTE;A WITH BREVE AND GRAVE",
    "A WITH BREVE AND HOOK ABOVE;A WITH BREVE AND TILDE;A WITH BREVE AND DOT BELOW",
    "E WITH DOT BELOW;E WITH HOOK ABOVE;E WITH TILDE;E WITH CIRCUMFLEX AND ACUTE",
    "E WITH CIRCUMFLEX AND GRAVE;E WITH CIRCUMFLEX AND HOOK ABOVE;E WITH CIRCUMFLEX AND TILDE",
    "E WITH CIRCUMFLEX AND DOT BELOW;I WITH HOOK ABOVE;I WITH DOT BELOW;O WITH DOT BELOW",
    "O WITH HOOK ABOVE;O WITH CIRCUMFLEX AND ACUTE;O WITH CIRCUMFLEX AND GRAVE",
    "O WITH CIRCUMFLEX AND HOOK ABOVE;O WITH CIRCUMFLEX AND TILDE",
    "O WITH CIRCUMFLEX AND DOT BELOW;O WITH HORN AND ACUTE;O WITH HORN AND GRAVE",
    "O WITH HORN AND HOOK ABOVE;O WITH HORN AND TILDE;O WITH HORN AND DOT BELOW",
    "U WITH DOT BELOW;U WITH HOOK ABOVE;U WITH HORN AND ACUTE;U WITH HORN AND GRAVE",
    "U WITH HORN AND HOOK ABOVE;U WITH HORN AND TILDE;U WITH HORN AND DOT BELOW;Y WITH GRAVE",
    "Y WITH DOT BELOW;Y WITH HOOK ABOVE;Y WITH TILDE;MIDDLE-WELSH LL;MIDDLE-WELSH V",
    "Y WITH LOOP"]⟩]

def mark : List Run := [
  ⟨0x2b0, 1, "MODIFIER LETTER ", [
    "SMALL H;SMALL H WITH HOOK;SMALL J;SMALL R;SMALL TURNED R;SMALL TURNED R WITH HOOK",
    "SMALL CAPITAL INVERTED R;SMALL W;SMALL Y;PRIME;DOUBLE PRIME;TURNED COMMA;APOSTROPHE",
    "REVERSED COMMA;RIGHT HALF RING;LEFT HALF RING;GLOTTAL STOP;REVERSED GLOTTAL STOP",
    "LEFT ARROWHEAD;RIGHT ARROWHEAD;UP ARROWHEAD;DOWN ARROWHEAD;CIRCUMFLEX ACCENT"]⟩,
  ⟨0x2c7, 1, "", ["CARON"]⟩,
  ⟨0x2c8, 1, "MODIFIER LETTER ", [
    "VERTICAL LINE;MACRON;ACUTE ACCENT;GRAVE ACCENT;LOW VERTICAL LINE;LOW MACRON",
    "LOW GRAVE ACCENT;LOW ACUTE ACCENT;TRIANGULAR COLON;HALF TRIANGULAR COLON",
    "CENTRED RIGHT HALF RING;CENTRED LEFT HALF RING;UP TACK;DOWN TACK;PLUS SIGN;MINUS SIGN"]⟩,
  ⟨0x2d8, 1, "", ["BREVE;DOT ABOVE;RING ABOVE;OGONEK;SMALL TILDE;DOUBLE ACUTE ACCENT"]⟩,
  ⟨0x2de, 1, "MODIFIER LETTER ", [
    "RHOTIC HOOK;CROSS ACCENT;SMALL GAMMA;SMALL L;SMALL S;SMALL X;SMALL REVERSED GLOTTAL STOP",
    "EXTRA-HIGH TONE BAR;HIGH TONE BAR;MID TONE BAR;LOW TONE BAR;EXTRA-LOW TONE BAR",
    "YIN DEPARTING TONE MARK;YANG DEPARTING TONE MARK;VOICING;UNASPIRATED;DOUBLE APOSTROPHE",
    "LOW DOWN ARROWHEAD;LOW UP ARROWHEAD;LOW LEFT ARROWHEAD;LOW RIGHT ARROWHEAD;LOW RING",
    "MIDDLE GRAVE ACCENT;MIDDLE DOUBLE GRAVE ACCENT;MIDDLE DOUBLE ACUTE ACCENT;LOW TILDE",
    "RAISED COLON;BEGIN HIGH TONE;END HIGH TONE;BEGIN LOW TONE;END LOW TONE;SHELF;OPEN SHELF",
    "LOW LEFT ARROW"]⟩,
  ⟨0x300, 1, "COMBINING ", [
    "GRAVE ACCENT;ACUTE ACCENT;CIRCUMFLEX ACCENT;TILDE;MACRON;OVERLINE;BREVE;DOT ABOVE",
    "DIAERESIS;HOOK ABOVE;RING ABOVE;DOUBLE ACUTE ACCENT;CARON;VERTICAL LINE ABOVE",
    "DOUBLE VERTICAL LINE ABOVE;DOUBLE GRAVE ACCENT;CANDRABINDU;INVERTED BREVE",
    "TURNED COMMA ABOVE;COMMA ABOVE;REVERSED COMMA ABOVE;COMMA ABOVE RIGHT;GRAVE ACCENT BELOW",
    "ACUTE ACCENT BELOW;LEFT TACK BELOW;RIGHT TACK BELOW;LEFT ANGLE ABOVE;HORN",
    "LEFT HALF RING BELOW;UP TACK BELOW;DOWN TACK BELOW;PLUS SIGN BELOW;MINUS SIGN BELOW",
    "PALATALIZED HOOK BELOW;RETROFLEX HOOK BELOW;DOT BELOW;DIAERESIS BELOW;RING BELOW",
    "COMMA BELOW;CEDILLA;OGONEK;VERTICAL LINE BELOW;BRIDGE BELOW;INVERTED DOUBLE ARCH BELOW",
    "CARON BELOW;CIRCUMFLEX ACCENT BELOW;BREVE BELOW;INVERTED BREVE BELOW;TILDE BELOW",
    "MACRON BELOW;LOW LINE;DOUBLE LOW LINE;TILDE OVERLAY;SHORT STROKE OVERLAY",
    "LONG STROKE OVERLAY;SHORT SOLIDUS OVERLAY;LONG SOLIDUS OVERLAY;RIGHT HALF RING BELOW",
    "INVERTED BRIDGE BELOW;SQUARE BELOW;SEAGULL BELOW;X ABOVE;VERTICAL TILDE;DOUBLE OVERLINE",
    "GRAVE TONE MARK;ACUTE TONE MARK"]⟩,
  ⟨0x342, 1, "COMBINING GREEK ", ["PERISPOMENI;KORONIS;DIALYTIKA TONOS;YPOGEGRAMMENI"]⟩,
  ⟨0x346, 1, "COMBINING ", [
    "BRIDGE ABOVE;EQUALS SIGN BELOW;DOUBLE VERTICAL LINE BELOW;LEFT ANGLE BELOW",
    "NOT TILDE ABOVE;HOMOTHETIC ABOVE;ALMOST EQUAL TO ABOVE;LEFT RIGHT ARROW BELOW",
    "UPWARDS ARROW BELOW;GRAPHEME JOINER;RIGHT ARROWHEAD ABOVE;LEFT HALF RING ABOVE;FERMATA",
    "X BELOW;LEFT ARROWHEAD BELOW;RIGHT ARROWHEAD BELOW",
    "RIGHT ARROWHEAD AND UP ARROWHEAD BELOW;RIGHT HALF RING ABOVE;DOT ABOVE RIGHT",
    "ASTERISK BELOW;DOUBLE RING BELOW;ZIGZAG ABOVE;DOUBLE BREVE BELOW;DOUBLE BREVE",
    "DOUBLE MACRON;DOUBLE MACRON BELOW;DOUBLE TILDE;DOUBLE INVERTED BREVE",
    "DOUBLE RIGHTWARDS ARROW BELOW"]⟩,
  ⟨0x363, 1, "COMBINING LATIN SMALL LETTER ", ["A;E;I;O;U;C;D;H;M;R;T;V;X"]⟩]

end Dialogue.Text.Name
