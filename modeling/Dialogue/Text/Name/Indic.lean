import Dialogue.Text.Name.Basic
/-!
Names of letters of India and its neighbours.
-/
namespace Dialogue.Text.Name

def indic : List Run := [
  ⟨0x980, 1, "BENGALI ", ["ANJI;SIGN CANDRABINDU;SIGN ANUSVARA;SIGN VISARGA"]⟩,
  ⟨0x985, 1, "BENGALI LETTER ", ["A;AA;I;II;U;UU;VOCALIC R;VOCALIC L"]⟩,
  ⟨0x98f, 1, "BENGALI LETTER ", ["E;AI"]⟩,
  ⟨0x993, 1, "BENGALI LETTER ", [
    "O;AU;KA;KHA;GA;GHA;NGA;CA;CHA;JA;JHA;NYA;TTA;TTHA;DDA;DDHA;NNA;TA;THA;DA;DHA;NA"]⟩,
  ⟨0x9aa, 1, "BENGALI LETTER ", ["PA;PHA;BA;BHA;MA;YA;RA"]⟩,
  ⟨0x9b2, 1, "", ["BENGALI LETTER LA"]⟩,
  ⟨0x9b6, 1, "BENGALI LETTER ", ["SHA;SSA;SA;HA"]⟩,
  ⟨0x9bc, 1, "BENGALI SIGN ", ["NUKTA;AVAGRAHA"]⟩,
  ⟨0x9be, 1, "BENGALI VOWEL SIGN ", ["AA;I;II;U;UU;VOCALIC R;VOCALIC RR"]⟩,
  ⟨0x9c7, 1, "BENGALI VOWEL SIGN ", ["E;AI"]⟩,
  ⟨0x9cb, 1, "BENGALI ", ["VOWEL SIGN O;VOWEL SIGN AU;SIGN VIRAMA;LETTER KHANDA TA"]⟩,
  ⟨0x9d7, 1, "", ["BENGALI AU LENGTH MARK"]⟩,
  ⟨0x9dc, 1, "BENGALI LETTER ", ["RRA;RHA"]⟩,
  ⟨0x9df, 1, "BENGALI LETTER ", ["YYA;VOCALIC RR;VOCALIC LL"]⟩,
  ⟨0x9e2, 1, "BENGALI VOWEL SIGN VOCALIC ", ["L;LL"]⟩,
  ⟨0x9e6, 1, "BENGALI DIGIT ", ["ZERO;ONE;TWO;THREE;FOUR;FIVE;SIX;SEVEN;EIGHT;NINE"]⟩,
  ⟨0x9f0, 1, "BENGALI ", [
    "LETTER RA WITH MIDDLE DIAGONAL;LETTER RA WITH LOWER DIAGONAL;RUPEE MARK;RUPEE SIGN"]⟩,
  ⟨0x9f4, 1, "BENGALI CURRENCY NUMERATOR ", ["ONE;TWO;THREE;FOUR;ONE LESS THAN THE DENOMINATOR"]⟩,
  ⟨0x9f9, 1, "BENGALI ", [
    "CURRENCY DENOMINATOR SIXTEEN;ISSHAR;GANDA MARK;LETTER VEDIC ANUSVARA;ABBREVIATION SIGN",
    "SANDHI MARK"]⟩,
  ⟨0xa01, 1, "GURMUKHI SIGN ", ["ADAK BINDI;BINDI;VISARGA"]⟩,
  ⟨0xa05, 1, "GURMUKHI LETTER ", ["A;AA;I;II;U;UU"]⟩,
  ⟨0xa0f, 1, "GURMUKHI LETTER ", ["EE;AI"]⟩,
  ⟨0xa13, 1, "GURMUKHI LETTER ", [
    "OO;AU;KA;KHA;GA;GHA;NGA;CA;CHA;JA;JHA;NYA;TTA;TTHA;DDA;DDHA;NNA;TA;THA;DA;DHA;NA"]⟩,
  ⟨0xa2a, 1, "GURMUKHI LETTER ", ["PA;PHA;BA;BHA;MA;YA;RA"]⟩,
  ⟨0xa32, 1, "GURMUKHI LETTER ", ["LA;LLA"]⟩,
  ⟨0xa35, 1, "GURMUKHI LETTER ", ["VA;SHA"]⟩,
  ⟨0xa38, 1, "GURMUKHI LETTER ", ["SA;HA"]⟩,
  ⟨0xa3c, 1, "", ["GURMUKHI SIGN NUKTA"]⟩,
  ⟨0xa3e, 1, "GURMUKHI VOWEL SIGN ", ["AA;I;II;U;UU"]⟩,
  ⟨0xa47, 1, "GURMUKHI VOWEL SIGN ", ["EE;AI"]⟩,
  ⟨0xa4b, 1, "GURMUKHI ", ["VOWEL SIGN OO;VOWEL SIGN AU;SIGN VIRAMA"]⟩,
  ⟨0xa51, 1, "", ["GURMUKHI SIGN UDAAT"]⟩,
  ⟨0xa59, 1, "GURMUKHI LETTER ", ["KHHA;GHHA;ZA;RRA"]⟩,
  ⟨0xa5e, 1, "", ["GURMUKHI LETTER FA"]⟩,
  ⟨0xa66, 1, "GURMUKHI DIGIT ", ["ZERO;ONE;TWO;THREE;FOUR;FIVE;SIX;SEVEN;EIGHT;NINE"]⟩,
  ⟨0xa70, 1, "GURMUKHI ", ["TIPPI;ADDAK;IRI;URA;EK ONKAR;SIGN YAKASH;ABBREVIATION SIGN"]⟩,
  ⟨0xa81, 1, "GUJARATI SIGN ", ["CANDRABINDU;ANUSVARA;VISARGA"]⟩,
  ⟨0xa85, 1, "GUJARATI LETTER ", ["A;AA;I;II;U;UU;VOCALIC R;VOCALIC L"]⟩,
  ⟨0xa8d, 1, "", ["GUJARATI VOWEL CANDRA E"]⟩,
  ⟨0xa8f, 1, "GUJARATI ", ["LETTER E;LETTER AI;VOWEL CANDRA O"]⟩,
  ⟨0xa93, 1, "GUJARATI LETTER ", [
    "O;AU;KA;KHA;GA;GHA;NGA;CA;CHA;JA;JHA;NYA;TTA;TTHA;DDA;DDHA;NNA;TA;THA;DA;DHA;NA"]⟩,
  ⟨0xaaa, 1, "GUJARATI LETTER ", ["PA;PHA;BA;BHA;MA;YA;RA"]⟩,
  ⟨0xab2, 1, "GUJARATI LETTER ", ["LA;LLA"]⟩,
  ⟨0xab5, 1, "GUJARATI LETTER ", ["VA;SHA;SSA;SA;HA"]⟩,
  ⟨0xabc, 1, "GUJARATI SIGN ", ["NUKTA;AVAGRAHA"]⟩,
  ⟨0xabe, 1, "GUJARATI VOWEL SIGN ", ["AA;I;II;U;UU;VOCALIC R;VOCALIC RR;CANDRA E"]⟩,
  ⟨0xac7, 1, "GUJARATI VOWEL SIGN ", ["E;AI;CANDRA O"]⟩,
  ⟨0xacb, 1, "GUJARATI ", ["VOWEL SIGN O;VOWEL SIGN AU;SIGN VIRAMA"]⟩,
  ⟨0xad0, 1, "", ["GUJARATI OM"]⟩,
  ⟨0xae0, 1, "GUJARATI ", [
    "LETTER VOCALIC RR;LETTER VOCALIC LL;VOWEL SIGN VOCALIC L;VOWEL SIGN VOCALIC LL"]⟩,
  ⟨0xae6, 1, "GUJARATI DIGIT ", ["ZERO;ONE;TWO;THREE;FOUR;FIVE;SIX;SEVEN;EIGHT;NINE"]⟩,
  ⟨0xaf0, 1, "GUJARATI ", ["ABBREVIATION SIGN;RUPEE SIGN"]⟩,
  ⟨0xaf9, 1, "GUJARATI ", [
    "LETTER ZHA;SIGN SUKUN;SIGN SHADDA;SIGN MADDAH;SIGN THREE-DOT NUKTA ABOVE",
    "SIGN CIRCLE NUKTA ABOVE;SIGN TWO-CIRCLE NUKTA ABOVE"]⟩,
  ⟨0xb01, 1, "ORIYA SIGN ", ["CANDRABINDU;ANUSVARA;VISARGA"]⟩,
  ⟨0xb05, 1, "ORIYA LETTER ", ["A;AA;I;II;U;UU;VOCALIC R;VOCALIC L"]⟩,
  ⟨0xb0f, 1, "ORIYA LETTER ", ["E;AI"]⟩,
  ⟨0xb13, 1, "ORIYA LETTER ", [
    "O;AU;KA;KHA;GA;GHA;NGA;CA;CHA;JA;JHA;NYA;TTA;TTHA;DDA;DDHA;NNA;TA;THA;DA;DHA;NA"]⟩,
  ⟨0xb2a, 1, "ORIYA LETTER ", ["PA;PHA;BA;BHA;MA;YA;RA"]⟩,
  ⟨0xb32, 1, "ORIYA LETTER ", ["LA;LLA"]⟩,
  ⟨0xb35, 1, "ORIYA LETTER ", ["VA;SHA;SSA;SA;HA"]⟩,
  ⟨0xb3c, 1, "ORIYA SIGN ", ["NUKTA;AVAGRAHA"]⟩,
  ⟨0xb3e, 1, "ORIYA VOWEL SIGN ", ["AA;I;II;U;UU;VOCALIC R;VOCALIC RR"]⟩,
  ⟨0xb47, 1, "ORIYA VOWEL SIGN ", ["E;AI"]⟩,
  ⟨0xb4b, 1, "ORIYA ", ["VOWEL SIGN O;VOWEL SIGN AU;SIGN VIRAMA"]⟩,
  ⟨0xb55, 1, "ORIYA ", ["SIGN OVERLINE;AI LENGTH MARK;AU LENGTH MARK"]⟩,
  ⟨0xb5c, 1, "ORIYA LETTER ", ["RRA;RHA"]⟩,
  ⟨0xb5f, 1, "ORIYA LETTER ", ["YYA;VOCALIC RR;VOCALIC LL"]⟩,
  ⟨0xb62, 1, "ORIYA VOWEL SIGN VOCALIC ", ["L;LL"]⟩,
  ⟨0xb66, 1, "ORIYA DIGIT ", ["ZERO;ONE;TWO;THREE;FOUR;FIVE;SIX;SEVEN;EIGHT;NINE"]⟩,
  ⟨0xb70, 1, "ORIYA ", ["ISSHAR;LETTER WA"]⟩,
  ⟨0xb72, 1, "ORIYA FRACTION ", [
    "ONE QUARTER;ONE HALF;THREE QUARTERS;ONE SIXTEENTH;ONE EIGHTH;THREE SIXTEENTHS"]⟩,
  ⟨0xb82, 1, "TAMIL SIGN ", ["ANUSVARA;VISARGA"]⟩,
  ⟨0xb85, 1, "TAMIL LETTER ", ["A;AA;I;II;U;UU"]⟩,
  ⟨0xb8e, 1, "TAMIL LETTER ", ["E;EE;AI"]⟩,
  ⟨0xb92, 1, "TAMIL LETTER ", ["O;OO;AU;KA"]⟩,
  ⟨0xb99, 1, "TAMIL LETTER ", ["NGA;CA"]⟩,
  ⟨0xb9c, 1, "", ["TAMIL LETTER JA"]⟩,
  ⟨0xb9e, 1, "TAMIL LETTER ", ["NYA;TTA"]⟩,
  ⟨0xba3, 1, "TAMIL LETTER ", ["NNA;TA"]⟩,
  ⟨0xba8, 1, "TAMIL LETTER ", ["NA;NNNA;PA"]⟩,
  ⟨0xbae, 1, "TAMIL LETTER ", ["MA;YA;RA;RRA;LA;LLA;LLLA;VA;SHA;SSA;SA;HA"]⟩,
  ⟨0xbbe, 1, "TAMIL VOWEL SIGN ", ["AA;I;II;U;UU"]⟩,
  ⟨0xbc6, 1, "TAMIL VOWEL SIGN ", ["E;EE;AI"]⟩,
  ⟨0xbca, 1, "TAMIL ", ["VOWEL SIGN O;VOWEL SIGN OO;VOWEL SIGN AU;SIGN VIRAMA"]⟩,
  ⟨0xbd0, 1, "", ["TAMIL OM"]⟩,
  ⟨0xbd7, 1, "", ["TAMIL AU LENGTH MARK"]⟩,
  ⟨0xbe6, 1, "TAMIL DIGIT ", ["ZERO;ONE;TWO;THREE;FOUR;FIVE;SIX;SEVEN;EIGHT;NINE"]⟩,
  ⟨0xbf0, 1, "TAMIL ", [
    "NUMBER TEN;NUMBER ONE HUNDRED;NUMBER ONE THOUSAND;DAY SIGN;MONTH SIGN;YEAR SIGN",
    "DEBIT SIGN;CREDIT SIGN;AS ABOVE SIGN;RUPEE SIGN;NUMBER SIGN"]⟩,
  ⟨0xc00, 1, "TELUGU SIGN ", [
    "COMBINING CANDRABINDU ABOVE;CANDRABINDU;ANUSVARA;VISARGA;COMBINING ANUSVARA ABOVE"]⟩,
  ⟨0xc05, 1, "TELUGU LETTER ", ["A;AA;I;II;U;UU;VOCALIC R;VOCALIC L"]⟩,
  ⟨0xc0e, 1, "TELUGU LETTER ", ["E;EE;AI"]⟩,
  ⟨0xc12, 1, "TELUGU LETTER ", [
    "O;OO;AU;KA;KHA;GA;GHA;NGA;CA;CHA;JA;JHA;NYA;TTA;TTHA;DDA;DDHA;NNA;TA;THA;DA;DHA;NA"]⟩,
  ⟨0xc2a, 1, "TELUGU LETTER ", ["PA;PHA;BA;BHA;MA;YA;RA;RRA;LA;LLA;LLLA;VA;SHA;SSA;SA;HA"]⟩,
  ⟨0xc3c, 1, "TELUGU SIGN ", ["NUKTA;AVAGRAHA"]⟩,
  ⟨0xc3e, 1, "TELUGU VOWEL SIGN ", ["AA;I;II;U;UU;VOCALIC R;VOCALIC RR"]⟩,
  ⟨0xc46, 1, "TELUGU VOWEL SIGN ", ["E;EE;AI"]⟩,
  ⟨0xc4a, 1, "TELUGU ", ["VOWEL SIGN O;VOWEL SIGN OO;VOWEL SIGN AU;SIGN VIRAMA"]⟩,
  ⟨0xc55, 1, "TELUGU ", ["LENGTH MARK;AI LENGTH MARK"]⟩,
  ⟨0xc58, 1, "TELUGU LETTER ", ["TSA;DZA;RRRA"]⟩,
  ⟨0xc5d, 1, "", ["TELUGU LETTER NAKAARA POLLU"]⟩,
  ⟨0xc60, 1, "TELUGU LETTER VOCALIC ", ["RR;LL"]⟩,
  ⟨0xc62, 1, "TELUGU VOWEL SIGN VOCALIC ", ["L;LL"]⟩,
  ⟨0xc66, 1, "TELUGU DIGIT ", ["ZERO;ONE;TWO;THREE;FOUR;FIVE;SIX;SEVEN;EIGHT;NINE"]⟩,
  ⟨0xc77, 1, "", ["TELUGU SIGN SIDDHAM"]⟩,
  ⟨0xc78, 1, "TELUGU FRACTION DIGIT ", [
    "ZERO FOR ODD POWERS OF FOUR;ONE FOR ODD POWERS OF FOUR;TWO FOR ODD POWERS OF FOUR",
    "THREE FOR ODD POWERS OF FOUR;ONE FOR EVEN POWERS OF FOUR;TWO FOR EVEN POWERS OF FOUR",
    "THREE FOR EVEN POWERS OF FOUR"]⟩,
  ⟨0xc7f, 1, "", ["TELUGU SIGN TUUMU"]⟩,
  ⟨0xc80, 1, "KANNADA SIGN ", ["SPACING CANDRABINDU;CANDRABINDU;ANUSVARA;VISARGA;SIDDHAM"]⟩,
  ⟨0xc85, 1, "KANNADA LETTER ", ["A;AA;I;II;U;UU;VOCALIC R;VOCALIC L"]⟩,
  ⟨0xc8e, 1, "KANNADA LETTER ", ["E;EE;AI"]⟩,
  ⟨0xc92, 1, "KANNADA LETTER ", [
    "O;OO;AU;KA;KHA;GA;GHA;NGA;CA;CHA;JA;JHA;NYA;TTA;TTHA;DDA;DDHA;NNA;TA;THA;DA;DHA;NA"]⟩,
  ⟨0xcaa, 1, "KANNADA LETTER ", ["PA;PHA;BA;BHA;MA;YA;RA;RRA;LA;LLA"]⟩,
  ⟨0xcb5, 1, "KANNADA LETTER ", ["VA;SHA;SSA;SA;HA"]⟩,
  ⟨0xcbc, 1, "KANNADA SIGN ", ["NUKTA;AVAGRAHA"]⟩,
  ⟨0xcbe, 1, "KANNADA VOWEL SIGN ", ["AA;I;II;U;UU;VOCALIC R;VOCALIC RR"]⟩,
  ⟨0xcc6, 1, "KANNADA VOWEL SIGN ", ["E;EE;AI"]⟩,
  ⟨0xcca, 1, "KANNADA ", ["VOWEL SIGN O;VOWEL SIGN OO;VOWEL SIGN AU;SIGN VIRAMA"]⟩,
  ⟨0xcd5, 1, "KANNADA ", ["LENGTH MARK;AI LENGTH MARK"]⟩,
  ⟨0xcdd, 1, "KANNADA LETTER ", ["NAKAARA POLLU;FA"]⟩,
  ⟨0xce0, 1, "KANNADA LETTER VOCALIC ", ["RR;LL"]⟩,
  ⟨0xce2, 1, "KANNADA VOWEL SIGN VOCALIC ", ["L;LL"]⟩,
  ⟨0xce6, 1, "KANNADA DIGIT ", ["ZERO;ONE;TWO;THREE;FOUR;FIVE;SIX;SEVEN;EIGHT;NINE"]⟩,
  ⟨0xcf1, 1, "KANNADA SIGN ", ["JIHVAMULIYA;UPADHMANIYA"]⟩,
  ⟨0xd00, 1, "MALAYALAM SIGN ", ["COMBINING ANUSVARA ABOVE;CANDRABINDU;ANUSVARA;VISARGA"]⟩,
  ⟨0xd04, 1, "MALAYALAM LETTER ", ["VEDIC ANUSVARA;A;AA;I;II;U;UU;VOCALIC R;VOCALIC L"]⟩,
  ⟨0xd0e, 1, "MALAYALAM LETTER ", ["E;EE;AI"]⟩,
  ⟨0xd12, 1, "MALAYALAM LETTER ", [
    "O;OO;AU;KA;KHA;GA;GHA;NGA;CA;CHA;JA;JHA;NYA;TTA;TTHA;DDA;DDHA;NNA;TA;THA;DA;DHA;NA;NNNA",
    "PA;PHA;BA;BHA;MA;YA;RA;RRA;LA;LLA;LLLA;VA;SHA;SSA;SA;HA;TTTA"]⟩,
  ⟨0xd3b, 1, "MALAYALAM SIGN ", ["VERTICAL BAR VIRAMA;CIRCULAR VIRAMA;AVAGRAHA"]⟩,
  ⟨0xd3e, 1, "MALAYALAM VOWEL SIGN ", ["AA;I;II;U;UU;VOCALIC R;VOCALIC RR"]⟩,
  ⟨0xd46, 1, "MALAYALAM VOWEL SIGN ", ["E;EE;AI"]⟩,
  ⟨0xd4a, 1, "MALAYALAM ", [
    "VOWEL SIGN O;VOWEL SIGN OO;VOWEL SIGN AU;SIGN VIRAMA;LETTER DOT REPH;SIGN PARA"]⟩,
  ⟨0xd54, 1, "MALAYALAM ", [
    "LETTER CHILLU M;LETTER CHILLU Y;LETTER CHILLU LLL;AU LENGTH MARK",
    "FRACTION ONE ONE-HUNDRED-AND-SIXTIETH;FRACTION ONE FORTIETH;FRACTION THREE EIGHTIETHS",
    "FRACTION ONE TWENTIETH;FRACTION ONE TENTH;FRACTION THREE TWENTIETHS;FRACTION ONE FIFTH",
    "LETTER ARCHAIC II;LETTER VOCALIC RR;LETTER VOCALIC LL;VOWEL SIGN VOCALIC L",
    "VOWEL SIGN VOCALIC LL"]⟩,
  ⟨0xd66, 1, "MALAYALAM DIGIT ", ["ZERO;ONE;TWO;THREE;FOUR;FIVE;SIX;SEVEN;EIGHT;NINE"]⟩,
  ⟨0xd70, 1, "MALAYALAM NUMBER ", ["TEN;ONE HUNDRED;ONE THOUSAND"]⟩,
  ⟨0xd73, 1, "MALAYALAM FRACTION ", [
    "ONE QUARTER;ONE HALF;THREE QUARTERS;ONE SIXTEENTH;ONE EIGHTH;THREE SIXTEENTHS"]⟩,
  ⟨0xd79, 1, "", ["MALAYALAM DATE MARK"]⟩,
  ⟨0xd7a, 1, "MALAYALAM LETTER CHILLU ", ["NN;N;RR;L;LL;K"]⟩,
  ⟨0xd81, 1, "SINHALA SIGN ", ["CANDRABINDU;ANUSVARAYA;VISARGAYA"]⟩,
  ⟨0xd85, 1, "SINHALA LETTER ", [
    "AYANNA;AAYANNA;AEYANNA;AEEYANNA;IYANNA;IIYANNA;UYANNA;UUYANNA;IRUYANNA;IRUUYANNA",
    "ILUYANNA;ILUUYANNA;EYANNA;EEYANNA;AIYANNA;OYANNA;OOYANNA;AUYANNA"]⟩,
  ⟨0xd9a, 1, "SINHALA LETTER ", [
    "ALPAPRAANA KAYANNA;MAHAAPRAANA KAYANNA;ALPAPRAANA GAYANNA;MAHAAPRAANA GAYANNA",
    "KANTAJA NAASIKYAYA;SANYAKA GAYANNA;ALPAPRAANA CAYANNA;MAHAAPRAANA CAYANNA",
    "ALPAPRAANA JAYANNA;MAHAAPRAANA JAYANNA;TAALUJA NAASIKYAYA;TAALUJA SANYOOGA NAAKSIKYAYA",
    "SANYAKA JAYANNA;ALPAPRAANA TTAYANNA;MAHAAPRAANA TTAYANNA;ALPAPRAANA DDAYANNA",
    "MAHAAPRAANA DDAYANNA;MUURDHAJA NAYANNA;SANYAKA DDAYANNA;ALPAPRAANA TAYANNA",
    "MAHAAPRAANA TAYANNA;ALPAPRAANA DAYANNA;MAHAAPRAANA DAYANNA;DANTAJA NAYANNA"]⟩,
  ⟨0xdb3, 1, "SINHALA LETTER ", [
    "SANYAKA DAYANNA;ALPAPRAANA PAYANNA;MAHAAPRAANA PAYANNA;ALPAPRAANA BAYANNA",
    "MAHAAPRAANA BAYANNA;MAYANNA;AMBA BAYANNA;YAYANNA;RAYANNA"]⟩,
  ⟨0xdbd, 1, "", ["SINHALA LETTER DANTAJA LAYANNA"]⟩,
  ⟨0xdc0, 1, "SINHALA LETTER ", [
    "VAYANNA;TAALUJA SAYANNA;MUURDHAJA SAYANNA;DANTAJA SAYANNA;HAYANNA;MUURDHAJA LAYANNA",
    "FAYANNA"]⟩,
  ⟨0xdca, 1, "", ["SINHALA SIGN AL-LAKUNA"]⟩,
  ⟨0xdcf, 1, "SINHALA VOWEL SIGN ", [
    "AELA-PILLA;KETTI AEDA-PILLA;DIGA AEDA-PILLA;KETTI IS-PILLA;DIGA IS-PILLA;KETTI PAA-PILLA"]⟩,
  ⟨0xdd6, 1, "", ["SINHALA VOWEL SIGN DIGA PAA-PILLA"]⟩,
  ⟨0xdd8, 1, "SINHALA VOWEL SIGN ", [
    "GAETTA-PILLA;KOMBUVA;DIGA KOMBUVA;KOMBU DEKA;KOMBUVA HAA AELA-PILLA",
    "KOMBUVA HAA DIGA AELA-PILLA;KOMBUVA HAA GAYANUKITTA;GAYANUKITTA"]⟩,
  ⟨0xde6, 1, "SINHALA LITH DIGIT ", ["ZERO;ONE;TWO;THREE;FOUR;FIVE;SIX;SEVEN;EIGHT;NINE"]⟩,
  ⟨0xdf2, 1, "SINHALA ", [
    "VOWEL SIGN DIGA GAETTA-PILLA;VOWEL SIGN DIGA GAYANUKITTA;PUNCTUATION KUNDDALIYA"]⟩,
  ⟨0x1c50, 1, "OL CHIKI DIGIT ", ["ZERO;ONE;TWO;THREE;FOUR;FIVE;SIX;SEVEN;EIGHT;NINE"]⟩,
  ⟨0x1c5a, 1, "OL CHIKI LETTER ", [
    "LA;AT;AG;ANG;AL;LAA;AAK;AAJ;AAM;AAW;LI;IS;IH;INY;IR;LU;UC;UD;UNN;UY;LE;EP;EDD;EN;ERR;LO",
    "OTT;OB;OV;OH"]⟩,
  ⟨0x1c78, 1, "OL CHIKI ", [
    "MU TTUDDAG;GAAHLAA TTUDDAAG;MU-GAAHLAA TTUDDAAG;RELAA;PHAARKAA;AHAD;PUNCTUATION MUCAAD",
    "PUNCTUATION DOUBLE MUCAAD"]⟩,
  ⟨0x1cc0, 1, "SUNDANESE PUNCTUATION BINDU ", [
    "SURYA;PANGLONG;PURNAMA;CAKRA;LEU SATANGA;KA SATANGA;DA SATANGA;BA SATANGA"]⟩,
  ⟨0x1cd0, 1, "VEDIC ", [
    "TONE KARSHANA;TONE SHARA;TONE PRENKHA;SIGN NIHSHVASA;SIGN YAJURVEDIC MIDLINE SVARITA"]⟩,
  ⟨0x1cd5, 1, "VEDIC TONE ", [
    "YAJURVEDIC AGGRAVATED INDEPENDENT SVARITA;YAJURVEDIC INDEPENDENT SVARITA",
    "YAJURVEDIC KATHAKA INDEPENDENT SVARITA;CANDRA BELOW",
    "YAJURVEDIC KATHAKA INDEPENDENT SVARITA SCHROEDER;DOUBLE SVARITA;TRIPLE SVARITA",
    "KATHAKA ANUDATTA;DOT BELOW;TWO DOTS BELOW;THREE DOTS BELOW",
    "RIGVEDIC KASHMIRI INDEPENDENT SVARITA;ATHARVAVEDIC INDEPENDENT SVARITA"]⟩,
  ⟨0x1ce2, 1, "VEDIC SIGN ", [
    "VISARGA SVARITA;VISARGA UDATTA;REVERSED VISARGA UDATTA;VISARGA ANUDATTA",
    "REVERSED VISARGA ANUDATTA;VISARGA UDATTA WITH TAIL;VISARGA ANUDATTA WITH TAIL",
    "ANUSVARA ANTARGOMUKHA;ANUSVARA BAHIRGOMUKHA;ANUSVARA VAMAGOMUKHA",
    "ANUSVARA VAMAGOMUKHA WITH TAIL;TIRYAK;HEXIFORM LONG ANUSVARA;LONG ANUSVARA",
    "RTHANG LONG ANUSVARA;ANUSVARA UBHAYATO MUKHA;ARDHAVISARGA"]⟩,
  ⟨0x1cf3, 1, "VEDIC ", [
    "SIGN ROTATED ARDHAVISARGA;TONE CANDRA ABOVE;SIGN JIHVAMULIYA;SIGN UPADHMANIYA",
    "SIGN ATIKRAMA;TONE RING ABOVE;TONE DOUBLE RING ABOVE;SIGN DOUBLE ANUSVARA ANTARGOMUKHA"]⟩,
  ⟨0xa800, 1, "SYLOTI NAGRI ", [
    "LETTER A;LETTER I;SIGN DVISVARA;LETTER U;LETTER E;LETTER O;SIGN HASANTA;LETTER KO",
    "LETTER KHO;LETTER GO;LETTER GHO;SIGN ANUSVARA"]⟩,
  ⟨0xa80c, 1, "SYLOTI NAGRI LETTER ", [
    "CO;CHO;JO;JHO;TTO;TTHO;DDO;DDHO;TO;THO;DO;DHO;NO;PO;PHO;BO;BHO;MO;RO;LO;RRO;SO;HO"]⟩,
  ⟨0xa823, 1, "SYLOTI NAGRI VOWEL SIGN ", ["A;I;U;E;OO"]⟩,
  ⟨0xa828, 1, "SYLOTI NAGRI ", [
    "POETRY MARK-1;POETRY MARK-2;POETRY MARK-3;POETRY MARK-4;SIGN ALTERNATE HASANTA"]⟩,
  ⟨0xa830, 1, "NORTH INDIC FRACTION ", [
    "ONE QUARTER;ONE HALF;THREE QUARTERS;ONE SIXTEENTH;ONE EIGHTH;THREE SIXTEENTHS"]⟩,
  ⟨0xa836, 1, "NORTH INDIC ", ["QUARTER MARK;PLACEHOLDER MARK;RUPEE MARK;QUANTITY MARK"]⟩,
  ⟨0xa880, 1, "SAURASHTRA SIGN ", ["ANUSVARA;VISARGA"]⟩,
  ⟨0xa882, 1, "SAURASHTRA LETTER ", [
    "A;AA;I;II;U;UU;VOCALIC R;VOCALIC RR;VOCALIC L;VOCALIC LL;E;EE;AI;O;OO;AU;KA;KHA;GA;GHA",
    "NGA;CA;CHA;JA;JHA;NYA;TTA;TTHA;DDA;DDHA;NNA;TA;THA;DA;DHA;NA;PA;PHA;BA;BHA;MA;YA;RA;LA",
    "VA;SHA;SSA;SA;HA;LLA"]⟩,
  ⟨0xa8b4, 1, "", ["SAURASHTRA CONSONANT SIGN HAARU"]⟩,
  ⟨0xa8b5, 1, "SAURASHTRA VOWEL SIGN ", [
    "AA;I;II;U;UU;VOCALIC R;VOCALIC RR;VOCALIC L;VOCALIC LL;E;EE;AI;O;OO;AU"]⟩,
  ⟨0xa8c4, 1, "SAURASHTRA SIGN ", ["VIRAMA;CANDRABINDU"]⟩,
  ⟨0xa8ce, 1, "SAURASHTRA ", ["DANDA;DOUBLE DANDA"]⟩,
  ⟨0xa8d0, 1, "SAURASHTRA DIGIT ", ["ZERO;ONE;TWO;THREE;FOUR;FIVE;SIX;SEVEN;EIGHT;NINE"]⟩,
  ⟨0xa8e0, 1, "COMBINING DEVANAGARI DIGIT ", ["ZERO;ONE;TWO;THREE;FOUR;FIVE;SIX;SEVEN;EIGHT;NINE"]⟩,
  ⟨0xa8ea, 1, "COMBINING DEVANAGARI ", [
    "LETTER A;LETTER U;LETTER KA;LETTER NA;LETTER PA;LETTER RA;LETTER VI;SIGN AVAGRAHA"]⟩,
  ⟨0xa8f2, 1, "DEVANAGARI SIGN ", [
    "SPACING CANDRABINDU;CANDRABINDU VIRAMA;DOUBLE CANDRABINDU VIRAMA;CANDRABINDU TWO",
    "CANDRABINDU THREE;CANDRABINDU AVAGRAHA;PUSHPIKA"]⟩,
  ⟨0xa8f9, 1, "DEVANAGARI ", [
    "GAP FILLER;CARET;HEADSTROKE;SIGN SIDDHAM;JAIN OM;LETTER AY;VOWEL SIGN AY"]⟩,
  ⟨0xaae0, 1, "MEETEI MAYEK LETTER ", ["E;O;CHA;NYA;TTA;TTHA;DDA;DDHA;NNA;SHA;SSA"]⟩,
  ⟨0xaaeb, 1, "MEETEI MAYEK VOWEL SIGN ", ["II;UU;AAI;AU;AAU"]⟩,
  ⟨0xaaf0, 1, "MEETEI MAYEK ", [
    "CHEIKHAN;AHANG KHUDAM;ANJI;SYLLABLE REPETITION MARK;WORD REPETITION MARK",
    "VOWEL SIGN VISARGA;VIRAMA"]⟩,
  ⟨0xabc0, 1, "MEETEI MAYEK LETTER ", [
    "KOK;SAM;LAI;MIT;PA;NA;CHIL;TIL;KHOU;NGOU;THOU;WAI;YANG;HUK;UN;I;PHAM;ATIYA;GOK;JHAM;RAI",
    "BA;JIL;DIL;GHOU;DHOU;BHAM;KOK LONSUM;LAI LONSUM;MIT LONSUM;PA LONSUM;NA LONSUM",
    "TIL LONSUM;NGOU LONSUM;I LONSUM"]⟩,
  ⟨0xabe3, 1, "MEETEI MAYEK VOWEL SIGN ", ["ONAP;INAP;ANAP;YENAP;SOUNAP;UNAP;CHEINAP;NUNG"]⟩,
  ⟨0xabeb, 1, "MEETEI MAYEK ", ["CHEIKHEI;LUM IYEK;APUN IYEK"]⟩,
  ⟨0xabf0, 1, "MEETEI MAYEK DIGIT ", ["ZERO;ONE;TWO;THREE;FOUR;FIVE;SIX;SEVEN;EIGHT;NINE"]⟩,
  ⟨0x11000, 1, "BRAHMI SIGN ", ["CANDRABINDU;ANUSVARA;VISARGA;JIHVAMULIYA;UPADHMANIYA"]⟩,
  ⟨0x11005, 1, "BRAHMI LETTER ", [
    "A;AA;I;II;U;UU;VOCALIC R;VOCALIC RR;VOCALIC L;VOCALIC LL;E;AI;O;AU;KA;KHA;GA;GHA;NGA;CA",
    "CHA;JA;JHA;NYA;TTA;TTHA;DDA;DDHA;NNA;TA;THA;DA;DHA;NA;PA;PHA;BA;BHA;MA;YA;RA;LA;VA;SHA",
    "SSA;SA;HA;LLA;OLD TAMIL LLLA;OLD TAMIL RRA;OLD TAMIL NNNA"]⟩,
  ⟨0x11038, 1, "BRAHMI VOWEL SIGN ", [
    "AA;BHATTIPROLU AA;I;II;U;UU;VOCALIC R;VOCALIC RR;VOCALIC L;VOCALIC LL;E;AI;O;AU"]⟩,
  ⟨0x11046, 1, "BRAHMI ", ["VIRAMA;DANDA;DOUBLE DANDA"]⟩,
  ⟨0x11049, 1, "BRAHMI PUNCTUATION ", ["DOT;DOUBLE DOT;LINE;CRESCENT BAR;LOTUS"]⟩,
  ⟨0x11052, 1, "BRAHMI NUMBER ", [
    "ONE;TWO;THREE;FOUR;FIVE;SIX;SEVEN;EIGHT;NINE;TEN;TWENTY;THIRTY;FORTY;FIFTY;SIXTY;SEVENTY",
    "EIGHTY;NINETY;ONE HUNDRED;ONE THOUSAND"]⟩,
  ⟨0x11066, 1, "BRAHMI DIGIT ", ["ZERO;ONE;TWO;THREE;FOUR;FIVE;SIX;SEVEN;EIGHT;NINE"]⟩,
  ⟨0x11070, 1, "BRAHMI ", [
    "SIGN OLD TAMIL VIRAMA;LETTER OLD TAMIL SHORT E;LETTER OLD TAMIL SHORT O",
    "VOWEL SIGN OLD TAMIL SHORT E;VOWEL SIGN OLD TAMIL SHORT O;LETTER OLD TAMIL LLA"]⟩,
  ⟨0x1107f, 1, "", [
    "BRAHMI NUMBER JOINER;KAITHI SIGN CANDRABINDU;KAITHI SIGN ANUSVARA;KAITHI SIGN VISARGA"]⟩,
  ⟨0x11083, 1, "KAITHI LETTER ", [
    "A;AA;I;II;U;UU;E;AI;O;AU;KA;KHA;GA;GHA;NGA;CA;CHA;JA;JHA;NYA;TTA;TTHA;DDA;DDDHA;DDHA;RHA",
    "NNA;TA;THA;DA;DHA;NA;PA;PHA;BA;BHA;MA;YA;RA;LA;VA;SHA;SSA;SA;HA"]⟩,
  ⟨0x110b0, 1, "KAITHI VOWEL SIGN ", ["AA;I;II;U;UU;E;AI;O;AU"]⟩,
  ⟨0x110b9, 1, "KAITHI ", [
    "SIGN VIRAMA;SIGN NUKTA;ABBREVIATION SIGN;ENUMERATION SIGN;NUMBER SIGN;SECTION MARK",
    "DOUBLE SECTION MARK;DANDA;DOUBLE DANDA;VOWEL SIGN VOCALIC R"]⟩,
  ⟨0x110cd, 1, "", ["KAITHI NUMBER SIGN ABOVE"]⟩,
  ⟨0x110d0, 1, "SORA SOMPENG LETTER ", [
    "SAH;TAH;BAH;CAH;DAH;GAH;MAH;NGAH;LAH;NAH;VAH;PAH;YAH;RAH;HAH;KAH;JAH;NYAH;AH;EEH;IH;UH",
    "OH;EH;MAE"]⟩,
  ⟨0x110f0, 1, "SORA SOMPENG DIGIT ", ["ZERO;ONE;TWO;THREE;FOUR;FIVE;SIX;SEVEN;EIGHT;NINE"]⟩,
  ⟨0x11100, 1, "CHAKMA SIGN ", ["CANDRABINDU;ANUSVARA;VISARGA"]⟩,
  ⟨0x11103, 1, "CHAKMA LETTER ", [
    "AA;I;U;E;KAA;KHAA;GAA;GHAA;NGAA;CAA;CHAA;JAA;JHAA;NYAA;TTAA;TTHAA;DDAA;DDHAA;NNAA;TAA",
    "THAA;DAA;DHAA;NAA;PAA;PHAA;BAA;BHAA;MAA;YYAA;YAA;RAA;LAA;WAA;SAA;HAA"]⟩,
  ⟨0x11127, 1, "CHAKMA VOWEL SIGN ", ["A;I;II;U;UU;E;AI;O;AU;OI"]⟩,
  ⟨0x11131, 1, "CHAKMA ", ["O MARK;AU MARK;VIRAMA;MAAYYAA"]⟩,
  ⟨0x11136, 1, "CHAKMA DIGIT ", ["ZERO;ONE;TWO;THREE;FOUR;FIVE;SIX;SEVEN;EIGHT;NINE"]⟩,
  ⟨0x11140, 1, "CHAKMA ", [
    "SECTION MARK;DANDA;DOUBLE DANDA;QUESTION MARK;LETTER LHAA;VOWEL SIGN AA;VOWEL SIGN EI",
    "LETTER VAA"]⟩,
  ⟨0x11150, 1, "MAHAJANI LETTER ", [
    "A;I;U;E;O;KA;KHA;GA;GHA;CA;CHA;JA;JHA;NYA;TTA;TTHA;DDA;DDHA;NNA;TA;THA;DA;DHA;NA;PA;PHA",
    "BA;BHA;MA;RA;LA;VA;SA;HA;RRA"]⟩,
  ⟨0x11173, 1, "MAHAJANI ", ["SIGN NUKTA;ABBREVIATION SIGN;SECTION MARK;LIGATURE SHRI"]⟩,
  ⟨0x11180, 1, "SHARADA SIGN ", ["CANDRABINDU;ANUSVARA;VISARGA"]⟩,
  ⟨0x11183, 1, "SHARADA LETTER ", [
    "A;AA;I;II;U;UU;VOCALIC R;VOCALIC RR;VOCALIC L;VOCALIC LL;E;AI;O;AU;KA;KHA;GA;GHA;NGA;CA",
    "CHA;JA;JHA;NYA;TTA;TTHA;DDA;DDHA;NNA;TA;THA;DA;DHA;NA;PA;PHA;BA;BHA;MA;YA;RA;LA;LLA;VA",
    "SHA;SSA;SA;HA"]⟩,
  ⟨0x111b3, 1, "SHARADA VOWEL SIGN ", [
    "AA;I;II;U;UU;VOCALIC R;VOCALIC RR;VOCALIC L;VOCALIC LL;E;AI;O;AU"]⟩,
  ⟨0x111c0, 1, "SHARADA ", [
    "SIGN VIRAMA;SIGN AVAGRAHA;SIGN JIHVAMULIYA;SIGN UPADHMANIYA;OM;DANDA;DOUBLE DANDA",
    "ABBREVIATION SIGN;SEPARATOR;SANDHI MARK;SIGN NUKTA;VOWEL MODIFIER MARK",
    "EXTRA SHORT VOWEL MARK;SUTRA MARK;VOWEL SIGN PRISHTHAMATRA E;SIGN INVERTED CANDRABINDU"]⟩,
  ⟨0x111d0, 1, "SHARADA DIGIT ", ["ZERO;ONE;TWO;THREE;FOUR;FIVE;SIX;SEVEN;EIGHT;NINE"]⟩,
  ⟨0x111da, 1, "SHARADA ", [
    "EKAM;SIGN SIDDHAM;HEADSTROKE;CONTINUATION SIGN;SECTION MARK-1;SECTION MARK-2"]⟩,
  ⟨0x111e1, 1, "SINHALA ARCHAIC DIGIT ", ["ONE;TWO;THREE;FOUR;FIVE;SIX;SEVEN;EIGHT;NINE"]⟩,
  ⟨0x111ea, 1, "SINHALA ARCHAIC NUMBER ", [
    "TEN;TWENTY;THIRTY;FORTY;FIFTY;SIXTY;SEVENTY;EIGHTY;NINETY;ONE HUNDRED;ONE THOUSAND"]⟩,
  ⟨0x11200, 1, "KHOJKI LETTER ", ["A;AA;I;U;E;AI;O;AU;KA;KHA;GA;GGA;GHA;NGA;CA;CHA;JA;JJA"]⟩,
  ⟨0x11213, 1, "KHOJKI LETTER ", [
    "NYA;TTA;TTHA;DDA;DDHA;NNA;TA;THA;DA;DDDA;DHA;NA;PA;PHA;BA;BBA;BHA;MA;YA;RA;LA;VA;SA;HA",
    "LLA"]⟩,
  ⟨0x1122c, 1, "KHOJKI VOWEL SIGN ", ["AA;I;II;U;E;AI;O;AU"]⟩,
  ⟨0x11234, 1, "KHOJKI ", [
    "SIGN ANUSVARA;SIGN VIRAMA;SIGN NUKTA;SIGN SHADDA;DANDA;DOUBLE DANDA;WORD SEPARATOR",
    "SECTION MARK;DOUBLE SECTION MARK;ABBREVIATION SIGN;SIGN SUKUN"]⟩,
  ⟨0x11280, 1, "MULTANI LETTER ", ["A;I;U;E;KA;KHA;GA"]⟩,
  ⟨0x11288, 1, "", ["MULTANI LETTER GHA"]⟩,
  ⟨0x1128a, 1, "MULTANI LETTER ", ["CA;CHA;JA;JJA"]⟩,
  ⟨0x1128f, 1, "MULTANI LETTER ", ["NYA;TTA;TTHA;DDA;DDDA;DDHA;NNA;TA;THA;DA;DHA;NA;PA;PHA;BA"]⟩,
  ⟨0x1129f, 1, "MULTANI LETTER ", ["BHA;MA;YA;RA;LA;VA;SA;HA;RRA;RHA"]⟩,
  ⟨0x112a9, 1, "", ["MULTANI SECTION MARK"]⟩,
  ⟨0x112b0, 1, "KHUDAWADI LETTER ", [
    "A;AA;I;II;U;UU;E;AI;O;AU;KA;KHA;GA;GGA;GHA;NGA;CA;CHA;JA;JJA;JHA;NYA;TTA;TTHA;DDA;DDDA",
    "RRA;DDHA;NNA;TA;THA;DA;DHA;NA;PA;PHA;BA;BBA;BHA;MA;YA;RA;LA;VA;SHA;SA;HA"]⟩,
  ⟨0x112df, 1, "", ["KHUDAWADI SIGN ANUSVARA"]⟩,
  ⟨0x112e0, 1, "KHUDAWADI VOWEL SIGN ", ["AA;I;II;U;UU;E;AI;O;AU"]⟩,
  ⟨0x112e9, 1, "KHUDAWADI SIGN ", ["NUKTA;VIRAMA"]⟩,
  ⟨0x112f0, 1, "KHUDAWADI DIGIT ", ["ZERO;ONE;TWO;THREE;FOUR;FIVE;SIX;SEVEN;EIGHT;NINE"]⟩,
  ⟨0x11300, 1, "GRANTHA SIGN ", ["COMBINING ANUSVARA ABOVE;CANDRABINDU;ANUSVARA;VISARGA"]⟩,
  ⟨0x11305, 1, "GRANTHA LETTER ", ["A;AA;I;II;U;UU;VOCALIC R;VOCALIC L"]⟩,
  ⟨0x1130f, 1, "GRANTHA LETTER ", ["EE;AI"]⟩,
  ⟨0x11313, 1, "GRANTHA LETTER ", [
    "OO;AU;KA;KHA;GA;GHA;NGA;CA;CHA;JA;JHA;NYA;TTA;TTHA;DDA;DDHA;NNA;TA;THA;DA;DHA;NA"]⟩,
  ⟨0x1132a, 1, "GRANTHA LETTER ", ["PA;PHA;BA;BHA;MA;YA;RA"]⟩,
  ⟨0x11332, 1, "GRANTHA LETTER ", ["LA;LLA"]⟩,
  ⟨0x11335, 1, "GRANTHA LETTER ", ["VA;SHA;SSA;SA;HA"]⟩,
  ⟨0x1133b, 1, "", ["COMBINING BINDU BELOW;GRANTHA SIGN NUKTA;GRANTHA SIGN AVAGRAHA"]⟩,
  ⟨0x1133e, 1, "GRANTHA VOWEL SIGN ", ["AA;I;II;U;UU;VOCALIC R;VOCALIC RR"]⟩,
  ⟨0x11347, 1, "GRANTHA VOWEL SIGN ", ["EE;AI"]⟩,
  ⟨0x1134b, 1, "GRANTHA ", ["VOWEL SIGN OO;VOWEL SIGN AU;SIGN VIRAMA"]⟩,
  ⟨0x11350, 1, "", ["GRANTHA OM"]⟩,
  ⟨0x11357, 1, "", ["GRANTHA AU LENGTH MARK"]⟩,
  ⟨0x1135d, 1, "GRANTHA ", [
    "SIGN PLUTA;LETTER VEDIC ANUSVARA;LETTER VEDIC DOUBLE ANUSVARA;LETTER VOCALIC RR",
    "LETTER VOCALIC LL;VOWEL SIGN VOCALIC L;VOWEL SIGN VOCALIC LL"]⟩,
  ⟨0x11366, 1, "COMBINING GRANTHA DIGIT ", ["ZERO;ONE;TWO;THREE;FOUR;FIVE;SIX"]⟩,
  ⟨0x11370, 1, "COMBINING GRANTHA LETTER ", ["A;KA;NA;VI;PA"]⟩,
  ⟨0x11400, 1, "NEWA LETTER ", [
    "A;AA;I;II;U;UU;VOCALIC R;VOCALIC RR;VOCALIC L;VOCALIC LL;E;AI;O;AU;KA;KHA;GA;GHA;NGA",
    "NGHA;CA;CHA;JA;JHA;NYA;NYHA;TTA;TTHA;DDA;DDHA;NNA;TA;THA;DA;DHA;NA;NHA;PA;PHA;BA;BHA;MA",
    "MHA;YA;RA;RHA;LA;LHA;WA;SHA;SSA;SA;HA"]⟩,
  ⟨0x11435, 1, "NEWA VOWEL SIGN ", [
    "AA;I;II;U;UU;VOCALIC R;VOCALIC RR;VOCALIC L;VOCALIC LL;E;AI;O;AU"]⟩,
  ⟨0x11442, 1, "NEWA SIGN ", ["VIRAMA;CANDRABINDU;ANUSVARA;VISARGA;NUKTA;AVAGRAHA;FINAL ANUSVARA"]⟩,
  ⟨0x11449, 1, "NEWA ", ["OM;SIDDHI;DANDA;DOUBLE DANDA;COMMA;GAP FILLER;ABBREVIATION SIGN"]⟩,
  ⟨0x11450, 1, "NEWA DIGIT ", ["ZERO;ONE;TWO;THREE;FOUR;FIVE;SIX;SEVEN;EIGHT;NINE"]⟩,
  ⟨0x1145a, 1, "NEWA ", ["DOUBLE COMMA;PLACEHOLDER MARK"]⟩,
  ⟨0x1145d, 1, "NEWA ", [
    "INSERTION SIGN;SANDHI MARK;LETTER VEDIC ANUSVARA;SIGN JIHVAMULIYA;SIGN UPADHMANIYA"]⟩,
  ⟨0x11480, 1, "", ["TIRHUTA ANJI"]⟩,
  ⟨0x11481, 1, "TIRHUTA LETTER ", [
    "A;AA;I;II;U;UU;VOCALIC R;VOCALIC RR;VOCALIC L;VOCALIC LL;E;AI;O;AU;KA;KHA;GA;GHA;NGA;CA",
    "CHA;JA;JHA;NYA;TTA;TTHA;DDA;DDHA;NNA;TA;THA;DA;DHA;NA;PA;PHA;BA;BHA;MA;YA;RA;LA;VA;SHA",
    "SSA;SA;HA"]⟩,
  ⟨0x114b0, 1, "TIRHUTA VOWEL SIGN ", [
    "AA;I;II;U;UU;VOCALIC R;VOCALIC RR;VOCALIC L;VOCALIC LL;E;SHORT E;AI;O;SHORT O;AU"]⟩,
  ⟨0x114bf, 1, "TIRHUTA ", [
    "SIGN CANDRABINDU;SIGN ANUSVARA;SIGN VISARGA;SIGN VIRAMA;SIGN NUKTA;SIGN AVAGRAHA;GVANG",
    "ABBREVIATION SIGN;OM"]⟩,
  ⟨0x114d0, 1, "TIRHUTA DIGIT ", ["ZERO;ONE;TWO;THREE;FOUR;FIVE;SIX;SEVEN;EIGHT;NINE"]⟩,
  ⟨0x11580, 1, "SIDDHAM LETTER ", [
    "A;AA;I;II;U;UU;VOCALIC R;VOCALIC RR;VOCALIC L;VOCALIC LL;E;AI;O;AU;KA;KHA;GA;GHA;NGA;CA",
    "CHA;JA;JHA;NYA;TTA;TTHA;DDA;DDHA;NNA;TA;THA;DA;DHA;NA;PA;PHA;BA;BHA;MA;YA;RA;LA;VA;SHA",
    "SSA;SA;HA"]⟩,
  ⟨0x115af, 1, "SIDDHAM VOWEL SIGN ", ["AA;I;II;U;UU;VOCALIC R;VOCALIC RR"]⟩,
  ⟨0x115b8, 1, "SIDDHAM ", [
    "VOWEL SIGN E;VOWEL SIGN AI;VOWEL SIGN O;VOWEL SIGN AU;SIGN CANDRABINDU;SIGN ANUSVARA",
    "SIGN VISARGA;SIGN VIRAMA;SIGN NUKTA;SIGN SIDDHAM;DANDA;DOUBLE DANDA;SEPARATOR DOT",
    "SEPARATOR BAR;REPETITION MARK-1;REPETITION MARK-2;REPETITION MARK-3;END OF TEXT MARK"]⟩,
  ⟨0x115ca, 1, "SIDDHAM SECTION MARK ", [
    "WITH TRIDENT AND U-SHAPED ORNAMENTS;WITH TRIDENT AND DOTTED CRESCENTS",
    "WITH RAYS AND DOTTED CRESCENTS;WITH RAYS AND DOTTED DOUBLE CRESCENTS",
    "WITH RAYS AND DOTTED TRIPLE CRESCENTS;DOUBLE RING;DOUBLE RING WITH RAYS",
    "WITH DOUBLE CRESCENTS;WITH TRIPLE CRESCENTS;WITH QUADRUPLE CRESCENTS",
    "WITH SEPTUPLE CRESCENTS;WITH CIRCLES AND RAYS;WITH CIRCLES AND TWO ENCLOSURES",
    "WITH CIRCLES AND FOUR ENCLOSURES"]⟩,
  ⟨0x115d8, 1, "SIDDHAM LETTER ", [
    "THREE-CIRCLE ALTERNATE I;TWO-CIRCLE ALTERNATE I;TWO-CIRCLE ALTERNATE II;ALTERNATE U"]⟩,
  ⟨0x115dc, 1, "SIDDHAM VOWEL SIGN ALTERNATE ", ["U;UU"]⟩,
  ⟨0x11600, 1, "MODI LETTER ", [
    "A;AA;I;II;U;UU;VOCALIC R;VOCALIC RR;VOCALIC L;VOCALIC LL;E;AI;O;AU;KA;KHA;GA;GHA;NGA;CA",
    "CHA;JA;JHA;NYA;TTA;TTHA;DDA;DDHA;NNA;TA;THA;DA;DHA;NA;PA;PHA;BA;BHA;MA;YA;RA;LA;VA;SHA",
    "SSA;SA;HA;LLA"]⟩,
  ⟨0x11630, 1, "MODI VOWEL SIGN ", [
    "AA;I;II;U;UU;VOCALIC R;VOCALIC RR;VOCALIC L;VOCALIC LL;E;AI;O;AU"]⟩,
  ⟨0x1163d, 1, "MODI ", [
    "SIGN ANUSVARA;SIGN VISARGA;SIGN VIRAMA;SIGN ARDHACANDRA;DANDA;DOUBLE DANDA",
    "ABBREVIATION SIGN;SIGN HUVA"]⟩,
  ⟨0x11650, 1, "MODI DIGIT ", ["ZERO;ONE;TWO;THREE;FOUR;FIVE;SIX;SEVEN;EIGHT;NINE"]⟩,
  ⟨0x11660, 1, "MONGOLIAN ", [
    "BIRGA WITH ORNAMENT;ROTATED BIRGA;DOUBLE BIRGA WITH ORNAMENT;TRIPLE BIRGA WITH ORNAMENT",
    "BIRGA WITH DOUBLE ORNAMENT;ROTATED BIRGA WITH ORNAMENT",
    "ROTATED BIRGA WITH DOUBLE ORNAMENT;INVERTED BIRGA;INVERTED BIRGA WITH DOUBLE ORNAMENT",
    "SWIRL BIRGA;SWIRL BIRGA WITH ORNAMENT;SWIRL BIRGA WITH DOUBLE ORNAMENT",
    "TURNED SWIRL BIRGA WITH DOUBLE ORNAMENT"]⟩,
  ⟨0x11680, 1, "TAKRI LETTER ", [
    "A;AA;I;II;U;UU;E;AI;O;AU;KA;KHA;GA;GHA;NGA;CA;CHA;JA;JHA;NYA;TTA;TTHA;DDA;DDHA;NNA;TA",
    "THA;DA;DHA;NA;PA;PHA;BA;BHA;MA;YA;RA;LA;VA;SHA;SA;HA;RRA"]⟩,
  ⟨0x116ab, 1, "TAKRI SIGN ", ["ANUSVARA;VISARGA"]⟩,
  ⟨0x116ad, 1, "TAKRI VOWEL SIGN ", ["AA;I;II;U;UU;E;AI;O;AU"]⟩,
  ⟨0x116b6, 1, "TAKRI ", ["SIGN VIRAMA;SIGN NUKTA;LETTER ARCHAIC KHA;ABBREVIATION SIGN"]⟩,
  ⟨0x116c0, 1, "TAKRI DIGIT ", ["ZERO;ONE;TWO;THREE;FOUR;FIVE;SIX;SEVEN;EIGHT;NINE"]⟩,
  ⟨0x11700, 1, "AHOM LETTER ", [
    "KA;KHA;NGA;NA;TA;ALTERNATE TA;PA;PHA;BA;MA;JA;CHA;THA;RA;LA;SA;NYA;HA;A;DA;DHA;GA",
    "ALTERNATE GA;GHA;BHA;JHA;ALTERNATE BA"]⟩,
  ⟨0x1171d, 1, "AHOM CONSONANT SIGN MEDIAL ", ["LA;RA;LIGATING RA"]⟩,
  ⟨0x11720, 1, "AHOM VOWEL SIGN ", ["A;AA;I;II;U;UU;E;AW;O;AI;AM"]⟩,
  ⟨0x1172b, 1, "", ["AHOM SIGN KILLER"]⟩,
  ⟨0x11730, 1, "AHOM DIGIT ", ["ZERO;ONE;TWO;THREE;FOUR;FIVE;SIX;SEVEN;EIGHT;NINE"]⟩,
  ⟨0x1173a, 1, "AHOM ", [
    "NUMBER TEN;NUMBER TWENTY;SIGN SMALL SECTION;SIGN SECTION;SIGN RULAI;SYMBOL VI"]⟩,
  ⟨0x11740, 1, "AHOM LETTER ", ["CA;TTA;TTHA;DDA;DDHA;NNA;LLA"]⟩,
  ⟨0x11800, 1, "DOGRA LETTER ", [
    "A;AA;I;II;U;UU;E;AI;O;AU;KA;KHA;GA;GHA;NGA;CA;CHA;JA;JHA;NYA;TTA;TTHA;DDA;DDHA;NNA;TA",
    "THA;DA;DHA;NA;PA;PHA;BA;BHA;MA;YA;RA;LA;VA;SHA;SSA;SA;HA;RRA"]⟩,
  ⟨0x1182c, 1, "DOGRA VOWEL SIGN ", ["AA;I;II;U;UU;VOCALIC R;VOCALIC RR;E;AI;O;AU"]⟩,
  ⟨0x11837, 1, "DOGRA ", ["SIGN ANUSVARA;SIGN VISARGA;SIGN VIRAMA;SIGN NUKTA;ABBREVIATION SIGN"]⟩,
  ⟨0x118a0, 1, "WARANG CITI CAPITAL LETTER ", [
    "NGAA;A;WI;YU;YA;YO;II;UU;E;O;ANG;GA;KO;ENY;YUJ;UC;ENN;ODD;TTE;NUNG;DA;AT;AM;BU;PU;HIYO",
    "HOLO;HORR;HAR;SSUU;SII;VIYO"]⟩,
  ⟨0x118c0, 1, "WARANG CITI SMALL LETTER ", [
    "NGAA;A;WI;YU;YA;YO;II;UU;E;O;ANG;GA;KO;ENY;YUJ;UC;ENN;ODD;TTE;NUNG;DA;AT;AM;BU;PU;HIYO",
    "HOLO;HORR;HAR;SSUU;SII;VIYO"]⟩,
  ⟨0x118e0, 1, "WARANG CITI DIGIT ", ["ZERO;ONE;TWO;THREE;FOUR;FIVE;SIX;SEVEN;EIGHT;NINE"]⟩,
  ⟨0x118ea, 1, "WARANG CITI NUMBER ", [
    "TEN;TWENTY;THIRTY;FORTY;FIFTY;SIXTY;SEVENTY;EIGHTY;NINETY"]⟩,
  ⟨0x118ff, 1, "", ["WARANG CITI OM"]⟩,
  ⟨0x11900, 1, "DIVES AKURU LETTER ", ["A;AA;I;II;U;UU;E"]⟩,
  ⟨0x11909, 1, "", ["DIVES AKURU LETTER O"]⟩,
  ⟨0x1190c, 1, "DIVES AKURU LETTER ", ["KA;KHA;GA;GHA;NGA;CA;CHA;JA"]⟩,
  ⟨0x11915, 1, "DIVES AKURU LETTER ", ["NYA;TTA"]⟩,
  ⟨0x11918, 1, "DIVES AKURU LETTER ", [
    "DDA;DDHA;NNA;TA;THA;DA;DHA;NA;PA;PHA;BA;BHA;MA;YA;YYA;RA;LA;VA;SHA;SSA;SA;HA;LLA;ZA"]⟩,
  ⟨0x11930, 1, "DIVES AKURU VOWEL SIGN ", ["AA;I;II;U;UU;E"]⟩,
  ⟨0x11937, 1, "DIVES AKURU VOWEL SIGN ", ["AI;O"]⟩,
  ⟨0x1193b, 1, "DIVES AKURU ", [
    "SIGN ANUSVARA;SIGN CANDRABINDU;SIGN HALANTA;VIRAMA;PREFIXED NASAL SIGN;MEDIAL YA",
    "INITIAL RA;MEDIAL RA;SIGN NUKTA;DOUBLE DANDA;GAP FILLER;END OF TEXT MARK"]⟩,
  ⟨0x11950, 1, "DIVES AKURU DIGIT ", ["ZERO;ONE;TWO;THREE;FOUR;FIVE;SIX;SEVEN;EIGHT;NINE"]⟩,
  ⟨0x119a0, 1, "NANDINAGARI LETTER ", ["A;AA;I;II;U;UU;VOCALIC R;VOCALIC RR"]⟩,
  ⟨0x119aa, 1, "NANDINAGARI LETTER ", [
    "E;AI;O;AU;KA;KHA;GA;GHA;NGA;CA;CHA;JA;JHA;NYA;TTA;TTHA;DDA;DDHA;NNA;TA;THA;DA;DHA;NA;PA",
    "PHA;BA;BHA;MA;YA;RA;LA;VA;SHA;SSA;SA;HA;LLA;RRA"]⟩,
  ⟨0x119d1, 1, "NANDINAGARI VOWEL SIGN ", ["AA;I;II;U;UU;VOCALIC R;VOCALIC RR"]⟩,
  ⟨0x119da, 1, "NANDINAGARI ", [
    "VOWEL SIGN E;VOWEL SIGN AI;VOWEL SIGN O;VOWEL SIGN AU;SIGN ANUSVARA;SIGN VISARGA",
    "SIGN VIRAMA;SIGN AVAGRAHA;SIGN SIDDHAM;HEADSTROKE;VOWEL SIGN PRISHTHAMATRA E"]⟩,
  ⟨0x11a00, 1, "ZANABAZAR SQUARE ", ["LETTER A;VOWEL SIGN I"]⟩,
  ⟨0x11a02, 1, "ZANABAZAR SQUARE VOWEL ", [
    "SIGN UE;SIGN U;SIGN E;SIGN OE;SIGN O;SIGN AI;SIGN AU;SIGN REVERSED I;LENGTH MARK"]⟩,
  ⟨0x11a0b, 1, "ZANABAZAR SQUARE LETTER ", [
    "KA;KHA;GA;GHA;NGA;CA;CHA;JA;NYA;TTA;TTHA;DDA;DDHA;NNA;TA;THA;DA;DHA;NA;PA;PHA;BA;BHA;MA",
    "TSA;TSHA;DZA;DZHA;ZHA;ZA;-A;YA;RA;LA;VA;SHA;SSA;SA;HA;KSSA"]⟩,
  ⟨0x11a33, 1, "ZANABAZAR SQUARE ", [
    "FINAL CONSONANT MARK;SIGN VIRAMA;SIGN CANDRABINDU;SIGN CANDRABINDU WITH ORNAMENT",
    "SIGN CANDRA WITH ORNAMENT;SIGN ANUSVARA;SIGN VISARGA;CLUSTER-INITIAL LETTER RA",
    "CLUSTER-FINAL LETTER YA;CLUSTER-FINAL LETTER RA;CLUSTER-FINAL LETTER LA",
    "CLUSTER-FINAL LETTER VA;INITIAL HEAD MARK;CLOSING HEAD MARK;MARK TSHEG;MARK SHAD",
    "MARK DOUBLE SHAD;MARK LONG TSHEG;INITIAL DOUBLE-LINED HEAD MARK",
    "CLOSING DOUBLE-LINED HEAD MARK;SUBJOINER"]⟩,
  ⟨0x11a50, 1, "", ["SOYOMBO LETTER A"]⟩,
  ⟨0x11a51, 1, "SOYOMBO VOWEL SIGN ", ["I;UE;U;E;O;OE;AI;AU;VOCALIC R;VOCALIC L"]⟩,
  ⟨0x11a5b, 1, "", ["SOYOMBO VOWEL LENGTH MARK"]⟩,
  ⟨0x11a5c, 1, "SOYOMBO LETTER ", [
    "KA;KHA;GA;GHA;NGA;CA;CHA;JA;JHA;NYA;TTA;TTHA;DDA;DDHA;NNA;TA;THA;DA;DHA;NA;PA;PHA;BA;BHA",
    "MA;TSA;TSHA;DZA;ZHA;ZA;-A;YA;RA;LA;VA;SHA;SSA;SA;HA;KSSA"]⟩,
  ⟨0x11a84, 1, "SOYOMBO SIGN ", ["JIHVAMULIYA;UPADHMANIYA"]⟩,
  ⟨0x11a86, 1, "SOYOMBO CLUSTER-INITIAL LETTER ", ["RA;LA;SHA;SA"]⟩,
  ⟨0x11a8a, 1, "SOYOMBO FINAL CONSONANT SIGN ", ["G;K;NG;D;N;B;M;R;L;SH;S;-A"]⟩,
  ⟨0x11a96, 1, "SOYOMBO ", [
    "SIGN ANUSVARA;SIGN VISARGA;GEMINATION MARK;SUBJOINER;MARK TSHEG;MARK SHAD",
    "MARK DOUBLE SHAD;MARK PLUTA"]⟩,
  ⟨0x11a9e, 1, "SOYOMBO HEAD MARK WITH MOON AND ", ["SUN AND TRIPLE FLAME;SUN AND FLAME;SUN"]⟩,
  ⟨0x11aa1, 1, "SOYOMBO TERMINAL MARK-", ["1;2"]⟩,
  ⟨0x11ab0, 1, "CANADIAN SYLLABICS NATTILIK ", [
    "HI;HII;HO;HOO;HA;HAA;SHRI;SHRII;SHRO;SHROO;SHRA;SHRAA"]⟩,
  ⟨0x11abc, 1, "CANADIAN SYLLABICS ", ["SPE;SPI;SPO;SPA"]⟩,
  ⟨0x11ac0, 1, "PAU CIN HAU LETTER ", [
    "PA;KA;LA;MA;DA;ZA;VA;NGA;HA;GA;KHA;SA;BA;CA;TA;THA;NA;PHA;RA;FA;CHA;A;E;I;O;U;UA;IA"]⟩,
  ⟨0x11adc, 1, "PAU CIN HAU LETTER FINAL ", ["P;K;T;M;N;L;W;NG;Y"]⟩,
  ⟨0x11ae5, 1, "PAU CIN HAU ", [
    "RISING TONE LONG;RISING TONE;SANDHI GLOTTAL STOP;RISING TONE LONG FINAL",
    "RISING TONE FINAL;SANDHI GLOTTAL STOP FINAL;SANDHI TONE LONG;SANDHI TONE",
    "SANDHI TONE LONG FINAL;SANDHI TONE FINAL;MID-LEVEL TONE;GLOTTAL STOP VARIANT",
    "MID-LEVEL TONE LONG FINAL;MID-LEVEL TONE FINAL;LOW-FALLING TONE LONG;LOW-FALLING TONE",
    "GLOTTAL STOP;LOW-FALLING TONE LONG FINAL;LOW-FALLING TONE FINAL;GLOTTAL STOP FINAL"]⟩,
  ⟨0x11c00, 1, "BHAIKSUKI LETTER ", ["A;AA;I;II;U;UU;VOCALIC R;VOCALIC RR;VOCALIC L"]⟩,
  ⟨0x11c0a, 1, "BHAIKSUKI LETTER ", [
    "E;AI;O;AU;KA;KHA;GA;GHA;NGA;CA;CHA;JA;JHA;NYA;TTA;TTHA;DDA;DDHA;NNA;TA;THA;DA;DHA;NA;PA",
    "PHA;BA;BHA;MA;YA;RA;LA;VA;SHA;SSA;SA;HA"]⟩,
  ⟨0x11c2f, 1, "BHAIKSUKI VOWEL SIGN ", ["AA;I;II;U;UU;VOCALIC R;VOCALIC RR;VOCALIC L"]⟩,
  ⟨0x11c38, 1, "BHAIKSUKI VOWEL SIGN ", ["E;AI;O;AU"]⟩,
  ⟨0x11c3c, 1, "BHAIKSUKI ", [
    "SIGN CANDRABINDU;SIGN ANUSVARA;SIGN VISARGA;SIGN VIRAMA;SIGN AVAGRAHA;DANDA;DOUBLE DANDA",
    "WORD SEPARATOR;GAP FILLER-1;GAP FILLER-2"]⟩,
  ⟨0x11c50, 1, "BHAIKSUKI DIGIT ", ["ZERO;ONE;TWO;THREE;FOUR;FIVE;SIX;SEVEN;EIGHT;NINE"]⟩,
  ⟨0x11c5a, 1, "BHAIKSUKI NUMBER ", [
    "ONE;TWO;THREE;FOUR;FIVE;SIX;SEVEN;EIGHT;NINE;TEN;TWENTY;THIRTY;FORTY;FIFTY;SIXTY;SEVENTY",
    "EIGHTY;NINETY"]⟩,
  ⟨0x11c6c, 1, "", ["BHAIKSUKI HUNDREDS UNIT MARK"]⟩,
  ⟨0x11c70, 1, "MARCHEN ", ["HEAD MARK;MARK SHAD"]⟩,
  ⟨0x11c72, 1, "MARCHEN LETTER ", [
    "KA;KHA;GA;NGA;CA;CHA;JA;NYA;TA;THA;DA;NA;PA;PHA;BA;MA;TSA;TSHA;DZA;WA;ZHA;ZA;-A;YA;RA;LA",
    "SHA;SA;HA;A"]⟩,
  ⟨0x11c92, 1, "MARCHEN SUBJOINED LETTER ", [
    "KA;KHA;GA;NGA;CA;CHA;JA;NYA;TA;THA;DA;NA;PA;PHA;BA;MA;TSA;TSHA;DZA;WA;ZHA;ZA"]⟩,
  ⟨0x11ca9, 1, "MARCHEN SUBJOINED LETTER ", ["YA;RA;LA;SHA;SA;HA;A"]⟩,
  ⟨0x11cb0, 1, "MARCHEN VOWEL SIGN ", ["AA;I;U;E;O"]⟩,
  ⟨0x11cb5, 1, "MARCHEN SIGN ", ["ANUSVARA;CANDRABINDU"]⟩,
  ⟨0x11d00, 1, "MASARAM GONDI LETTER ", ["A;AA;I;II;U;UU;E"]⟩,
  ⟨0x11d08, 1, "MASARAM GONDI LETTER ", ["AI;O"]⟩,
  ⟨0x11d0b, 1, "MASARAM GONDI LETTER ", [
    "AU;KA;KHA;GA;GHA;NGA;CA;CHA;JA;JHA;NYA;TTA;TTHA;DDA;DDHA;NNA;TA;THA;DA;DHA;NA;PA;PHA;BA",
    "BHA;MA;YA;RA;LA;VA;SHA;SSA;SA;HA;LLA;KSSA;JNYA;TRA"]⟩,
  ⟨0x11d31, 1, "MASARAM GONDI VOWEL SIGN ", ["AA;I;II;U;UU;VOCALIC R"]⟩,
  ⟨0x11d3a, 1, "", ["MASARAM GONDI VOWEL SIGN E"]⟩,
  ⟨0x11d3c, 1, "MASARAM GONDI VOWEL SIGN ", ["AI;O"]⟩,
  ⟨0x11d3f, 1, "MASARAM GONDI ", [
    "VOWEL SIGN AU;SIGN ANUSVARA;SIGN VISARGA;SIGN NUKTA;SIGN CANDRA;SIGN HALANTA;VIRAMA",
    "REPHA;RA-KARA"]⟩,
  ⟨0x11d50, 1, "MASARAM GONDI DIGIT ", ["ZERO;ONE;TWO;THREE;FOUR;FIVE;SIX;SEVEN;EIGHT;NINE"]⟩,
  ⟨0x11d60, 1, "GUNJALA GONDI LETTER ", ["A;AA;I;II;U;UU"]⟩,
  ⟨0x11d67, 1, "GUNJALA GONDI LETTER ", ["EE;AI"]⟩,
  ⟨0x11d6a, 1, "GUNJALA GONDI LETTER ", [
    "OO;AU;YA;VA;BA;BHA;MA;KA;KHA;TA;THA;LA;GA;GHA;DA;DHA;NA;CA;CHA;TTA;TTHA;LLA;JA;JHA;DDA",
    "DDHA;NGA;PA;PHA;HA;RA;SA"]⟩,
  ⟨0x11d8a, 1, "GUNJALA GONDI VOWEL SIGN ", ["AA;I;II;U;UU"]⟩,
  ⟨0x11d90, 1, "GUNJALA GONDI VOWEL SIGN ", ["EE;AI"]⟩,
  ⟨0x11d93, 1, "GUNJALA GONDI ", [
    "VOWEL SIGN OO;VOWEL SIGN AU;SIGN ANUSVARA;SIGN VISARGA;VIRAMA;OM"]⟩,
  ⟨0x11da0, 1, "GUNJALA GONDI DIGIT ", ["ZERO;ONE;TWO;THREE;FOUR;FIVE;SIX;SEVEN;EIGHT;NINE"]⟩,
  ⟨0x11ee0, 1, "MAKASAR LETTER ", ["KA;GA;NGA;PA;BA;MA;TA;DA;NA;CA;JA;NYA;YA;RA;LA;VA;SA;A"]⟩,
  ⟨0x11ef2, 1, "MAKASAR ", [
    "ANGKA;VOWEL SIGN I;VOWEL SIGN U;VOWEL SIGN E;VOWEL SIGN O;PASSIMBANG;END OF SECTION"]⟩,
  ⟨0x11fb0, 1, "", ["LISU LETTER YHA"]⟩,
  ⟨0x11fc0, 1, "TAMIL FRACTION ", [
    "ONE THREE-HUNDRED-AND-TWENTIETH;ONE ONE-HUNDRED-AND-SIXTIETH;ONE EIGHTIETH",
    "ONE SIXTY-FOURTH;ONE FORTIETH;ONE THIRTY-SECOND;THREE EIGHTIETHS;THREE SIXTY-FOURTHS",
    "ONE TWENTIETH;ONE SIXTEENTH-1;ONE SIXTEENTH-2;ONE TENTH;ONE EIGHTH;THREE TWENTIETHS",
    "THREE SIXTEENTHS;ONE FIFTH;ONE QUARTER;ONE HALF-1;ONE HALF-2;THREE QUARTERS",
    "DOWNSCALING FACTOR KIIZH"]⟩,
  ⟨0x11fd5, 1, "TAMIL SIGN ", [
    "NEL;CEVITU;AAZHAAKKU;UZHAKKU;MUUVUZHAKKU;KURUNI;PATHAKKU;MUKKURUNI;KAACU;PANAM;PON",
    "VARAAKAN;PAARAM;KUZHI;VELI"]⟩,
  ⟨0x11fe4, 1, "TAMIL ", [
    "WET CULTIVATION SIGN;DRY CULTIVATION SIGN;LAND SIGN;SALT PAN SIGN",
    "TRADITIONAL CREDIT SIGN;TRADITIONAL NUMBER SIGN;CURRENT SIGN;AND ODD SIGN;SPENT SIGN",
    "TOTAL SIGN;IN POSSESSION SIGN;STARTING FROM SIGN;SIGN MUTHALIYA;SIGN VAKAIYARAA"]⟩,
  ⟨0x11fff, 1, "", ["TAMIL PUNCTUATION END OF TEXT"]⟩]

end Dialogue.Text.Name
