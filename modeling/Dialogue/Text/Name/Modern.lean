import Dialogue.Text.Name.Basic
/-!
Names of letters of America.
-/
namespace Dialogue.Text.Name

def american : List Run := [
  ⟨0x13a0, 1, "CHEROKEE LETTER ", [
    "A;E;I;O;U;V;GA;KA;GE;GI;GO;GU;GV;HA;HE;HI;HO;HU;HV;LA;LE;LI;LO;LU;LV;MA;ME;MI;MO;MU;NA",
    "HNA;NAH;NE;NI;NO;NU;NV;QUA;QUE;QUI;QUO;QUU;QUV;SA;S;SE;SI;SO;SU;SV;DA;TA;DE;TE;DI;TI;DO",
    "DU;DV;DLA;TLA;TLE;TLI;TLO;TLU;TLV;TSA;TSE;TSI;TSO;TSU;TSV;WA;WE;WI;WO;WU;WV;YA;YE;YI;YO",
    "YU;YV;MV"]⟩,
  ⟨0x13f8, 1, "CHEROKEE SMALL LETTER ", ["YE;YI;YO;YU;YV;MV"]⟩,
  ⟨0x1400, 1, "CANADIAN SYLLABICS ", [
    "HYPHEN;E;AAI;I;II;O;OO;Y-CREE OO;CARRIER EE;CARRIER I;A;AA;WE;WEST-CREE WE;WI",
    "WEST-CREE WI;WII;WEST-CREE WII;WO;WEST-CREE WO;WOO;WEST-CREE WOO;NASKAPI WOO;WA",
    "WEST-CREE WA;WAA;WEST-CREE WAA;NASKAPI WAA;AI;Y-CREE W;GLOTTAL STOP"]⟩,
  ⟨0x141f, 1, "CANADIAN SYLLABICS FINAL ", [
    "ACUTE;GRAVE;BOTTOM HALF RING;TOP HALF RING;RIGHT HALF RING;RING;DOUBLE ACUTE",
    "DOUBLE SHORT VERTICAL STROKES;MIDDLE DOT;SHORT HORIZONTAL STROKE;PLUS;DOWN TACK"]⟩,
  ⟨0x142b, 1, "CANADIAN SYLLABICS ", [
    "EN;IN;ON;AN;PE;PAAI;PI;PII;PO;POO;Y-CREE POO;CARRIER HEE;CARRIER HI;PA;PAA;PWE",
    "WEST-CREE PWE;PWI;WEST-CREE PWI;PWII;WEST-CREE PWII;PWO;WEST-CREE PWO;PWOO",
    "WEST-CREE PWOO;PWA;WEST-CREE PWA;PWAA;WEST-CREE PWAA;Y-CREE PWAA;P;WEST-CREE P;CARRIER H",
    "TE;TAAI;TI;TII;TO;TOO;Y-CREE TOO;CARRIER DEE;CARRIER DI;TA;TAA;TWE;WEST-CREE TWE;TWI",
    "WEST-CREE TWI;TWII;WEST-CREE TWII;TWO;WEST-CREE TWO;TWOO;WEST-CREE TWOO;TWA",
    "WEST-CREE TWA;TWAA;WEST-CREE TWAA;NASKAPI TWAA;T;TTE;TTI;TTO;TTA;KE;KAAI;KI;KII;KO;KOO",
    "Y-CREE KOO;KA;KAA;KWE;WEST-CREE KWE;KWI;WEST-CREE KWI;KWII;WEST-CREE KWII;KWO",
    "WEST-CREE KWO;KWOO;WEST-CREE KWOO;KWA;WEST-CREE KWA;KWAA;WEST-CREE KWAA;NASKAPI KWAA;K",
    "KW;SOUTH-SLAVEY KEH;SOUTH-SLAVEY KIH;SOUTH-SLAVEY KOH;SOUTH-SLAVEY KAH;CE;CAAI;CI;CII;CO",
    "COO;Y-CREE COO;CA;CAA;CWE;WEST-CREE CWE;CWI;WEST-CREE CWI;CWII;WEST-CREE CWII;CWO",
    "WEST-CREE CWO;CWOO;WEST-CREE CWOO;CWA;WEST-CREE CWA;CWAA;WEST-CREE CWAA;NASKAPI CWAA;C",
    "SAYISI TH;ME;MAAI;MI;MII;MO;MOO;Y-CREE MOO;MA;MAA;MWE;WEST-CREE MWE;MWI;WEST-CREE MWI",
    "MWII;WEST-CREE MWII;MWO;WEST-CREE MWO;MWOO;WEST-CREE MWOO;MWA;WEST-CREE MWA;MWAA",
    "WEST-CREE MWAA;NASKAPI MWAA;M;WEST-CREE M;MH;ATHAPASCAN M;SAYISI M;NE;NAAI;NI;NII;NO;NOO",
    "Y-CREE NOO;NA;NAA;NWE;WEST-CREE NWE;NWA;WEST-CREE NWA;NWAA;WEST-CREE NWAA;NASKAPI NWAA;N",
    "CARRIER NG;NH;LE;LAAI;LI;LII;LO;LOO;Y-CREE LOO;LA;LAA;LWE;WEST-CREE LWE;LWI",
    "WEST-CREE LWI;LWII;WEST-CREE LWII;LWO;WEST-CREE LWO;LWOO;WEST-CREE LWOO;LWA",
    "WEST-CREE LWA;LWAA;WEST-CREE LWAA;L;WEST-CREE L;MEDIAL L;SE;SAAI;SI;SII;SO;SOO",
    "Y-CREE SOO;SA;SAA;SWE;WEST-CREE SWE;SWI;WEST-CREE SWI;SWII;WEST-CREE SWII;SWO",
    "WEST-CREE SWO;SWOO;WEST-CREE SWOO;SWA;WEST-CREE SWA;SWAA;WEST-CREE SWAA;NASKAPI SWAA;S",
    "ATHAPASCAN S;SW;BLACKFOOT S;MOOSE-CREE SK;NASKAPI SKW;NASKAPI S-W;NASKAPI SPWA",
    "NASKAPI STWA;NASKAPI SKWA;NASKAPI SCWA;SHE;SHI;SHII;SHO;SHOO;SHA;SHAA;SHWE",
    "WEST-CREE SHWE;SHWI;WEST-CREE SHWI;SHWII;WEST-CREE SHWII;SHWO;WEST-CREE SHWO;SHWOO",
    "WEST-CREE SHWOO;SHWA;WEST-CREE SHWA;SHWAA;WEST-CREE SHWAA;SH;YE;YAAI;YI;YII;YO;YOO",
    "Y-CREE YOO;YA;YAA;YWE;WEST-CREE YWE;YWI;WEST-CREE YWI;YWII;WEST-CREE YWII;YWO",
    "WEST-CREE YWO;YWOO;WEST-CREE YWOO;YWA;WEST-CREE YWA;YWAA;WEST-CREE YWAA;NASKAPI YWAA;Y",
    "BIBLE-CREE Y;WEST-CREE Y;SAYISI YI;RE;R-CREE RE;WEST-CREE LE;RAAI;RI;RII;RO;ROO",
    "WEST-CREE LO;RA;RAA;WEST-CREE LA;RWAA;WEST-CREE RWAA;R;WEST-CREE R;MEDIAL R;FE;FAAI;FI",
    "FII;FO;FOO;FA;FAA;FWAA;WEST-CREE FWAA;F;THE;N-CREE THE;THI;N-CREE THI;THII;N-CREE THII",
    "THO;THOO;THA;THAA;THWAA;WEST-CREE THWAA;TH;TTHE;TTHI;TTHO;TTHA;TTH;TYE;TYI;TYO;TYA",
    "NUNAVIK HE;NUNAVIK HI;NUNAVIK HII;NUNAVIK HO;NUNAVIK HOO;NUNAVIK HA;NUNAVIK HAA",
    "NUNAVIK H;NUNAVUT H;HK;QAAI;QI;QII;QO;QOO;QA;QAA;Q;TLHE;TLHI;TLHO;TLHA;WEST-CREE RE",
    "WEST-CREE RI;WEST-CREE RO;WEST-CREE RA;NGAAI;NGI;NGII;NGO;NGOO;NGA;NGAA;NG;NNG",
    "SAYISI SHE;SAYISI SHI;SAYISI SHO;SAYISI SHA;WOODS-CREE THE;WOODS-CREE THI;WOODS-CREE THO",
    "WOODS-CREE THA;WOODS-CREE TH;LHI;LHII;LHO;LHOO;LHA;LHAA;LH;TH-CREE THE;TH-CREE THI",
    "TH-CREE THII;TH-CREE THO;TH-CREE THOO;TH-CREE THA;TH-CREE THAA;TH-CREE TH;AIVILIK B"]⟩,
  ⟨0x15b0, 1, "CANADIAN SYLLABICS BLACKFOOT ", ["E;I;O;A;WE;WI;WO;WA;NE;NI;NO;NA;KE;KI;KO;KA"]⟩,
  ⟨0x15c0, 1, "CANADIAN SYLLABICS SAYISI ", ["HE;HI;HO;HA"]⟩,
  ⟨0x15c4, 1, "CANADIAN SYLLABICS CARRIER ", [
    "GHU;GHO;GHE;GHEE;GHI;GHA;RU;RO;RE;REE;RI;RA;WU;WO;WE;WEE;WI;WA;HWU;HWO;HWE;HWEE;HWI;HWA",
    "THU;THO;THE;THEE;THI;THA;TTU;TTO;TTE;TTEE;TTI;TTA;PU;PO;PE;PEE;PI;PA;P;GU;GO;GE;GEE;GI",
    "GA;KHU;KHO;KHE;KHEE;KHI;KHA;KKU;KKO;KKE;KKEE;KKI;KKA;KK;NU;NO;NE;NEE;NI;NA;MU;MO;ME;MEE",
    "MI;MA;YU;YO;YE;YEE;YI;YA;JU"]⟩,
  ⟨0x1615, 1, "CANADIAN SYLLABICS ", [
    "SAYISI JU;CARRIER JO;CARRIER JE;CARRIER JEE;CARRIER JI;SAYISI JI"]⟩,
  ⟨0x161b, 1, "CANADIAN SYLLABICS CARRIER ", [
    "JA;JJU;JJO;JJE;JJEE;JJI;JJA;LU;LO;LE;LEE;LI;LA;DLU;DLO;DLE;DLEE;DLI;DLA;LHU;LHO;LHE;LHEE",
    "LHI;LHA;TLHU;TLHO;TLHE;TLHEE;TLHI;TLHA;TLU;TLO;TLE;TLEE;TLI;TLA;ZU;ZO;ZE;ZEE;ZI;ZA;Z",
    "INITIAL Z;DZU;DZO;DZE;DZEE;DZI;DZA;SU;SO;SE;SEE;SI;SA;SHU;SHO;SHE;SHEE;SHI;SHA;SH;TSU",
    "TSO;TSE;TSEE;TSI;TSA;CHU;CHO;CHE;CHEE;CHI;CHA;TTSU;TTSO;TTSE;TTSEE;TTSI;TTSA"]⟩,
  ⟨0x166d, 1, "CANADIAN SYLLABICS ", [
    "CHI SIGN;FULL STOP;QAI;NGAI;NNGI;NNGII;NNGO;NNGOO;NNGA;NNGAA"]⟩,
  ⟨0x1677, 1, "CANADIAN SYLLABICS WOODS-CREE ", [
    "THWEE;THWI;THWII;THWO;THWOO;THWA;THWAA;FINAL TH"]⟩,
  ⟨0x167f, 1, "", ["CANADIAN SYLLABICS BLACKFOOT W"]⟩,
  ⟨0x18b0, 1, "CANADIAN SYLLABICS ", [
    "OY;AY;AAY;WAY;POY;PAY;PWOY;TAY;KAY;KWAY;MAY;NOY;NAY;LAY;SOY;SAY;SHOY;SHAY;SHWOY;YOY;YAY",
    "RAY;NWI;OJIBWAY NWI;NWII;OJIBWAY NWII;NWO;OJIBWAY NWO;NWOO;OJIBWAY NWOO;RWEE;RWI;RWII",
    "RWO;RWOO;RWA;OJIBWAY P;OJIBWAY T;OJIBWAY K;OJIBWAY C;OJIBWAY M;OJIBWAY N;OJIBWAY S",
    "OJIBWAY SH;EASTERN W;WESTERN W;FINAL SMALL RING;FINAL RAISED DOT;R-CREE RWE",
    "WEST-CREE LOO;WEST-CREE LAA;THWE;THWA;TTHWE;TTHOO;TTHAA;TLHWE;TLHOO;SAYISI SHWE",
    "SAYISI SHOO;SAYISI HOO;CARRIER GWU;CARRIER DENE GEE;CARRIER GAA;CARRIER GWA;SAYISI JUU",
    "CARRIER JWA;BEAVER DENE L;BEAVER DENE R;CARRIER DENTAL S"]⟩,
  ⟨0xab70, 1, "CHEROKEE SMALL LETTER ", [
    "A;E;I;O;U;V;GA;KA;GE;GI;GO;GU;GV;HA;HE;HI;HO;HU;HV;LA;LE;LI;LO;LU;LV;MA;ME;MI;MO;MU;NA",
    "HNA;NAH;NE;NI;NO;NU;NV;QUA;QUE;QUI;QUO;QUU;QUV;SA;S;SE;SI;SO;SU;SV;DA;TA;DE;TE;DI;TI;DO",
    "DU;DV;DLA;TLA;TLE;TLI;TLO;TLU;TLV;TSA;TSE;TSI;TSO;TSU;TSV;WA;WE;WI;WO;WU;WV;YA"]⟩,
  ⟨0x10400, 1, "DESERET CAPITAL LETTER ", [
    "LONG I;LONG E;LONG A;LONG AH;LONG O;LONG OO;SHORT I;SHORT E;SHORT A;SHORT AH;SHORT O",
    "SHORT OO;AY;OW;WU;YEE;H;PEE;BEE;TEE;DEE;CHEE;JEE;KAY;GAY;EF;VEE;ETH;THEE;ES;ZEE;ESH;ZHEE",
    "ER;EL;EM;EN;ENG;OI;EW"]⟩,
  ⟨0x10428, 1, "DESERET SMALL LETTER ", [
    "LONG I;LONG E;LONG A;LONG AH;LONG O;LONG OO;SHORT I;SHORT E;SHORT A;SHORT AH;SHORT O",
    "SHORT OO;AY;OW;WU;YEE;H;PEE;BEE;TEE;DEE;CHEE;JEE;KAY;GAY;EF;VEE;ETH;THEE;ES;ZEE;ESH;ZHEE",
    "ER;EL;EM;EN;ENG;OI;EW"]⟩,
  ⟨0x10450, 1, "SHAVIAN LETTER ", [
    "PEEP;TOT;KICK;FEE;THIGH;SO;SURE;CHURCH;YEA;HUNG;BIB;DEAD;GAG;VOW;THEY;ZOO;MEASURE;JUDGE",
    "WOE;HA-HA;LOLL;MIME;IF;EGG;ASH;ADO;ON;WOOL;OUT;AH;ROAR;NUN;EAT;AGE;ICE;UP;OAK;OOZE;OIL",
    "AWE;ARE;OR;AIR;ERR;ARRAY;EAR;IAN;YEW"]⟩,
  ⟨0x10480, 1, "OSMANYA LETTER ", [
    "ALEF;BA;TA;JA;XA;KHA;DEEL;RA;SA;SHIIN;DHA;CAYN;GA;FA;QAAF;KAAF;LAAN;MIIN;NUUN;WAW;HA;YA",
    "A;E;I;O;U;AA;EE;OO"]⟩,
  ⟨0x104a0, 1, "OSMANYA DIGIT ", ["ZERO;ONE;TWO;THREE;FOUR;FIVE;SIX;SEVEN;EIGHT;NINE"]⟩,
  ⟨0x104b0, 1, "OSAGE CAPITAL LETTER ", [
    "A;AI;AIN;AH;BRA;CHA;EHCHA;E;EIN;HA;HYA;I;KA;EHKA;KYA;LA;MA;NA;O;OIN;PA;EHPA;SA;SHA;TA",
    "EHTA;TSA;EHTSA;TSHA;DHA;U;WA;KHA;GHA;ZA;ZHA"]⟩,
  ⟨0x104d8, 1, "OSAGE SMALL LETTER ", [
    "A;AI;AIN;AH;BRA;CHA;EHCHA;E;EIN;HA;HYA;I;KA;EHKA;KYA;LA;MA;NA;O;OIN;PA;EHPA;SA;SHA;TA",
    "EHTA;TSA;EHTSA;TSHA;DHA;U;WA;KHA;GHA;ZA;ZHA"]⟩]

end Dialogue.Text.Name

/-!
Names of letters of Africa.
-/
namespace Dialogue.Text.Name

def african : List Run := [
  ⟨0x1200, 1, "ETHIOPIC SYLLABLE ", [
    "HA;HU;HI;HAA;HEE;HE;HO;HOA;LA;LU;LI;LAA;LEE;LE;LO;LWA;HHA;HHU;HHI;HHAA;HHEE;HHE;HHO;HHWA",
    "MA;MU;MI;MAA;MEE;ME;MO;MWA;SZA;SZU;SZI;SZAA;SZEE;SZE;SZO;SZWA;RA;RU;RI;RAA;REE;RE;RO;RWA",
    "SA;SU;SI;SAA;SEE;SE;SO;SWA;SHA;SHU;SHI;SHAA;SHEE;SHE;SHO;SHWA;QA;QU;QI;QAA;QEE;QE;QO;QOA",
    "QWA"]⟩,
  ⟨0x124a, 1, "ETHIOPIC SYLLABLE ", ["QWI;QWAA;QWEE;QWE"]⟩,
  ⟨0x1250, 1, "ETHIOPIC SYLLABLE ", ["QHA;QHU;QHI;QHAA;QHEE;QHE;QHO"]⟩,
  ⟨0x1258, 1, "", ["ETHIOPIC SYLLABLE QHWA"]⟩,
  ⟨0x125a, 1, "ETHIOPIC SYLLABLE ", ["QHWI;QHWAA;QHWEE;QHWE"]⟩,
  ⟨0x1260, 1, "ETHIOPIC SYLLABLE ", [
    "BA;BU;BI;BAA;BEE;BE;BO;BWA;VA;VU;VI;VAA;VEE;VE;VO;VWA;TA;TU;TI;TAA;TEE;TE;TO;TWA;CA;CU",
    "CI;CAA;CEE;CE;CO;CWA;XA;XU;XI;XAA;XEE;XE;XO;XOA;XWA"]⟩,
  ⟨0x128a, 1, "ETHIOPIC SYLLABLE ", ["XWI;XWAA;XWEE;XWE"]⟩,
  ⟨0x1290, 1, "ETHIOPIC SYLLABLE ", [
    "NA;NU;NI;NAA;NEE;NE;NO;NWA;NYA;NYU;NYI;NYAA;NYEE;NYE;NYO;NYWA;GLOTTAL A;GLOTTAL U",
    "GLOTTAL I;GLOTTAL AA;GLOTTAL EE;GLOTTAL E;GLOTTAL O;GLOTTAL WA;KA;KU;KI;KAA;KEE;KE;KO",
    "KOA;KWA"]⟩,
  ⟨0x12b2, 1, "ETHIOPIC SYLLABLE ", ["KWI;KWAA;KWEE;KWE"]⟩,
  ⟨0x12b8, 1, "ETHIOPIC SYLLABLE ", ["KXA;KXU;KXI;KXAA;KXEE;KXE;KXO"]⟩,
  ⟨0x12c0, 1, "", ["ETHIOPIC SYLLABLE KXWA"]⟩,
  ⟨0x12c2, 1, "ETHIOPIC SYLLABLE ", ["KXWI;KXWAA;KXWEE;KXWE"]⟩,
  ⟨0x12c8, 1, "ETHIOPIC SYLLABLE ", ["WA;WU;WI;WAA;WEE;WE;WO;WOA"]⟩,
  ⟨0x12d0, 1, "ETHIOPIC SYLLABLE PHARYNGEAL ", ["A;U;I;AA;EE;E;O"]⟩,
  ⟨0x12d8, 1, "ETHIOPIC SYLLABLE ", [
    "ZA;ZU;ZI;ZAA;ZEE;ZE;ZO;ZWA;ZHA;ZHU;ZHI;ZHAA;ZHEE;ZHE;ZHO;ZHWA;YA;YU;YI;YAA;YEE;YE;YO;YOA",
    "DA;DU;DI;DAA;DEE;DE;DO;DWA;DDA;DDU;DDI;DDAA;DDEE;DDE;DDO;DDWA;JA;JU;JI;JAA;JEE;JE;JO;JWA",
    "GA;GU;GI;GAA;GEE;GE;GO;GOA;GWA"]⟩,
  ⟨0x1312, 1, "ETHIOPIC SYLLABLE ", ["GWI;GWAA;GWEE;GWE"]⟩,
  ⟨0x1318, 1, "ETHIOPIC SYLLABLE ", [
    "GGA;GGU;GGI;GGAA;GGEE;GGE;GGO;GGWAA;THA;THU;THI;THAA;THEE;THE;THO;THWA;CHA;CHU;CHI;CHAA",
    "CHEE;CHE;CHO;CHWA;PHA;PHU;PHI;PHAA;PHEE;PHE;PHO;PHWA;TSA;TSU;TSI;TSAA;TSEE;TSE;TSO;TSWA",
    "TZA;TZU;TZI;TZAA;TZEE;TZE;TZO;TZOA;FA;FU;FI;FAA;FEE;FE;FO;FWA;PA;PU;PI;PAA;PEE;PE;PO;PWA",
    "RYA;MYA;FYA"]⟩,
  ⟨0x135d, 1, "ETHIOPIC ", [
    "COMBINING GEMINATION AND VOWEL LENGTH MARK;COMBINING VOWEL LENGTH MARK",
    "COMBINING GEMINATION MARK;SECTION MARK;WORDSPACE;FULL STOP;COMMA;SEMICOLON;COLON",
    "PREFACE COLON;QUESTION MARK;PARAGRAPH SEPARATOR"]⟩,
  ⟨0x1369, 1, "ETHIOPIC DIGIT ", ["ONE;TWO;THREE;FOUR;FIVE;SIX;SEVEN;EIGHT;NINE"]⟩,
  ⟨0x1372, 1, "ETHIOPIC NUMBER ", [
    "TEN;TWENTY;THIRTY;FORTY;FIFTY;SIXTY;SEVENTY;EIGHTY;NINETY;HUNDRED;TEN THOUSAND"]⟩,
  ⟨0x1380, 1, "ETHIOPIC SYLLABLE ", [
    "SEBATBEIT MWA;MWI;MWEE;MWE;SEBATBEIT BWA;BWI;BWEE;BWE;SEBATBEIT FWA;FWI;FWEE;FWE",
    "SEBATBEIT PWA;PWI;PWEE;PWE"]⟩,
  ⟨0x1390, 1, "ETHIOPIC TONAL MARK ", [
    "YIZET;DERET;RIKRIK;SHORT RIKRIK;DIFAT;KENAT;CHIRET;HIDET;DERET-HIDET;KURT"]⟩,
  ⟨0x2d30, 1, "TIFINAGH LETTER ", [
    "YA;YAB;YABH;YAG;YAGHH;BERBER ACADEMY YAJ;YAJ;YAD;YADH;YADD;YADDH;YEY;YAF;YAK;TUAREG YAK",
    "YAKHH;YAH;BERBER ACADEMY YAH;TUAREG YAH;YAHH;YAA;YAKH;TUAREG YAKH;YAQ;TUAREG YAQ;YI;YAZH",
    "AHAGGAR YAZH;TUAREG YAZH;YAL;YAM;YAN;TUAREG YAGN;TUAREG YANG;YAP;YU;YAR;YARR;YAGH",
    "TUAREG YAGH;AYER YAGH;YAS;YASS;YASH;YAT;YATH;YACH;YATT;YAV;YAW;YAY;YAZ;TAWELLEMET YAZ",
    "YAZZ;YE;YO"]⟩,
  ⟨0x2d6f, 1, "TIFINAGH ", ["MODIFIER LETTER LABIALIZATION MARK;SEPARATOR MARK"]⟩,
  ⟨0x2d7f, 1, "", ["TIFINAGH CONSONANT JOINER"]⟩,
  ⟨0x2d80, 1, "ETHIOPIC SYLLABLE ", [
    "LOA;MOA;ROA;SOA;SHOA;BOA;TOA;COA;NOA;NYOA;GLOTTAL OA;ZOA;DOA;DDOA;JOA;THOA;CHOA;PHOA;POA",
    "GGWA;GGWI;GGWEE;GGWE"]⟩,
  ⟨0x2da0, 1, "ETHIOPIC SYLLABLE ", ["SSA;SSU;SSI;SSAA;SSEE;SSE;SSO"]⟩,
  ⟨0x2da8, 1, "ETHIOPIC SYLLABLE ", ["CCA;CCU;CCI;CCAA;CCEE;CCE;CCO"]⟩,
  ⟨0x2db0, 1, "ETHIOPIC SYLLABLE ", ["ZZA;ZZU;ZZI;ZZAA;ZZEE;ZZE;ZZO"]⟩,
  ⟨0x2db8, 1, "ETHIOPIC SYLLABLE ", ["CCHA;CCHU;CCHI;CCHAA;CCHEE;CCHE;CCHO"]⟩,
  ⟨0x2dc0, 1, "ETHIOPIC SYLLABLE ", ["QYA;QYU;QYI;QYAA;QYEE;QYE;QYO"]⟩,
  ⟨0x2dc8, 1, "ETHIOPIC SYLLABLE ", ["KYA;KYU;KYI;KYAA;KYEE;KYE;KYO"]⟩,
  ⟨0x2dd0, 1, "ETHIOPIC SYLLABLE ", ["XYA;XYU;XYI;XYAA;XYEE;XYE;XYO"]⟩,
  ⟨0x2dd8, 1, "ETHIOPIC SYLLABLE ", ["GYA;GYU;GYI;GYAA;GYEE;GYE;GYO"]⟩,
  ⟨0xa500, 1, "VAI SYLLABLE ", [
    "EE;EEN;HEE;WEE;WEEN;PEE;BHEE;BEE;MBEE;KPEE;MGBEE;GBEE;FEE;VEE;TEE;THEE;DHEE;DHHEE;LEE",
    "REE;DEE;NDEE;SEE;SHEE;ZEE;ZHEE;CEE;JEE;NJEE;YEE;KEE;NGGEE;GEE;MEE;NEE;NYEE;I;IN;HI;HIN",
    "WI;WIN;PI;BHI;BI;MBI;KPI;MGBI;GBI;FI;VI;TI;THI;DHI;DHHI;LI;RI;DI;NDI;SI;SHI;ZI;ZHI;CI;JI",
    "NJI;YI;KI;NGGI;GI;MI;NI;NYI;A;AN;NGAN;HA;HAN;WA;WAN;PA;BHA;BA;MBA;KPA;KPAN;MGBA;GBA;FA",
    "VA;TA;THA;DHA;DHHA;LA;RA;DA;NDA;SA;SHA;ZA;ZHA;CA;JA;NJA;YA;KA;KAN;NGGA;GA;MA;NA;NYA;OO",
    "OON;HOO;WOO;WOON;POO;BHOO;BOO;MBOO;KPOO;MGBOO;GBOO;FOO;VOO;TOO;THOO;DHOO;DHHOO;LOO;ROO",
    "DOO;NDOO;SOO;SHOO;ZOO;ZHOO;COO;JOO;NJOO;YOO;KOO;NGGOO;GOO;MOO;NOO;NYOO;U;UN;HU;HUN;WU",
    "WUN;PU;BHU;BU;MBU;KPU;MGBU;GBU;FU;VU;TU;THU;DHU;DHHU;LU;RU;DU;NDU;SU;SHU;ZU;ZHU;CU;JU",
    "NJU;YU;KU;NGGU;GU;MU;NU;NYU;O;ON;NGON;HO;HON;WO;WON;PO;BHO;BO;MBO;KPO;MGBO;GBO;GBON;FO",
    "VO;TO;THO;DHO;DHHO;LO;RO;DO;NDO;SO;SHO;ZO;ZHO;CO;JO;NJO;YO;KO;NGGO;GO;MO;NO;NYO;E;EN",
    "NGEN;HE;HEN;WE;WEN;PE;BHE;BE;MBE;KPE;KPEN;MGBE;GBE;GBEN;FE;VE;TE;THE;DHE;DHHE;LE;RE;DE",
    "NDE;SE;SHE;ZE;ZHE;CE;JE;NJE;YE;KE;NGGE;NGGEN;GE;GEN;ME;NE;NYE;NG;LENGTHENER"]⟩,
  ⟨0xa60d, 1, "VAI ", ["COMMA;FULL STOP;QUESTION MARK"]⟩,
  ⟨0xa610, 1, "VAI SYLLABLE NDOLE ", ["FA;KA;SOO"]⟩,
  ⟨0xa613, 1, "VAI SYMBOL ", ["FEENG;KEENG;TING;NII;BANG;FAA;TAA;DANG;DOONG;KUNG;TONG;DO-O;JONG"]⟩,
  ⟨0xa620, 1, "VAI DIGIT ", ["ZERO;ONE;TWO;THREE;FOUR;FIVE;SIX;SEVEN;EIGHT;NINE"]⟩,
  ⟨0xa62a, 1, "VAI SYLLABLE NDOLE ", ["MA;DO"]⟩,
  ⟨0xa6a0, 1, "BAMUM LETTER ", [
    "A;KA;U;KU;EE;REE;TAE;O;NYI;I;LA;PA;RII;RIEE;LEEEE;MEEEE;TAA;NDAA;NJAEM;M;SUU;MU;SHII;SI",
    "SHEUX;SEUX;KYEE;KET;NUAE;NU;NJUAE;YOQ;SHU;YUQ;YA;NSHA;KEUX;PEUX;NJEE;NTEE;PUE;WUE;PEE",
    "FEE;RU;LU;MI;NI;REUX;RAE;KEN;NGKWAEN;NGGA;NGA;SHO;PUAE;FU;FOM;WA;NA;LI;PI;LOQ;KO;MBEN",
    "REN;MEN;MA;TI;KI;MO;MBAA;TET;KPA;TEN;NTUU;SAMBA;FAAMAE;KOVUU;KOGHOM"]⟩,
  ⟨0xa6f0, 1, "BAMUM ", [
    "COMBINING MARK KOQNDON;COMBINING MARK TUKWENTIS;NJAEMLI;FULL STOP;COLON;COMMA;SEMICOLON",
    "QUESTION MARK"]⟩,
  ⟨0xab01, 1, "ETHIOPIC SYLLABLE ", ["TTHU;TTHI;TTHAA;TTHEE;TTHE;TTHO"]⟩,
  ⟨0xab09, 1, "ETHIOPIC SYLLABLE ", ["DDHU;DDHI;DDHAA;DDHEE;DDHE;DDHO"]⟩,
  ⟨0xab11, 1, "ETHIOPIC SYLLABLE ", ["DZU;DZI;DZAA;DZEE;DZE;DZO"]⟩,
  ⟨0xab20, 1, "ETHIOPIC SYLLABLE ", ["CCHHA;CCHHU;CCHHI;CCHHAA;CCHHEE;CCHHE;CCHHO"]⟩,
  ⟨0xab28, 1, "ETHIOPIC SYLLABLE ", ["BBA;BBU;BBI;BBAA;BBEE;BBE;BBO"]⟩,
  ⟨0x16800, 1, "BAMUM LETTER PHASE-A ", [
    "NGKUE MFON;GBIEE FON;PON MFON PIPAEMGBIEE;PON MFON PIPAEMBA;NAA MFON;SHUENSHUET",
    "TITA MFON;NZA MFON;SHINDA PA NJI;PON PA NJI PIPAEMGBIEE;PON PA NJI PIPAEMBA;MAEMBGBIEE",
    "TU MAEMBA;NGANGU;MAEMVEUX;MANSUAE;MVEUAENGAM;SEUNYAM;NTOQPEN;KEUKEUTNDA;NKINDI;SUU",
    "NGKUENZEUM;LAPAQ;LET KUT;NTAP MFAA;MAEKEUP;PASHAE;GHEUAERAE;PAMSHAE;MON NGGEUAET",
    "NZUN MEUT;U YUQ NAE;GHEUAEGHEUAE;NTAP NTAA;SISA;MGBASA;MEUNJOMNDEUQ;MOOMPUQ;KAFA",
    "PA LEERAEWA;NDA LEERAEWA;PET;MAEMKPEN;NIKA;PUP;TUAEP;LUAEP;SONJAM;TEUTEUWEN;MAENYI;KET",
    "NDAANGGEUAET;KUOQ;MOOMEUT;SHUM;LOMMAE;FIRI;ROM;KPOQ;SOQ;MAP PIEET;SHIRAE;NTAP",
    "SHOQ NSHUT YUM;NYIT MONGKEUAEQ;PAARAE;NKAARAE;UNKNOWN;NGGEN;MAESI;NJAM;MBANYI;NYET",
    "TEUAEN;SOT;PAAM;NSHIEE;MAEM;NYI;KAQ;NSHA;VEE;LU;NEN;NAQ;MBAQ"]⟩,
  ⟨0x16857, 1, "BAMUM LETTER PHASE-B ", [
    "NSHUET;TU MAEMGBIEE;SIEE;SET TU;LOM NTEUM;MBA MAELEE;KIEEM;YEURAE;MBAARAE;KAM;PEESHI",
    "YAFU LEERAEWA;LAM NSHUT NYAM;NTIEE SHEUOQ;NDU NJAA;GHEUGHEUAEM;PIT;TU NSIEE;SHET NJAQ",
    "SHEUAEQTU;MFON TEUAEQ;MBIT MBAAKET;NYI NTEUM;KEUPUQ;GHEUGHEN;KEUYEUX;LAANAE;PARUM;VEUM",
    "NGKINDI MVOP;NGGEU MBU;WUAET;SAKEUAE;TAAM;MEUQ;NGGUOQ;NGGUOQ LARGE;MFIYAQ;SUE;MBEURI",
    "MONTIEEN;NYAEMAE;PUNGAAM;MEUT NGGEET;FEUX;MBUOQ;FEE;KEUAEM;MA NJEUAENA;MA NJUQA;LET",
    "NGGAAM;NSEN;MA;KIQ;NGOM"]⟩,
  ⟨0x1688f, 1, "BAMUM LETTER PHASE-C ", [
    "NGKUE MAEMBA;NZA;YUM;WANGKUOQ;NGGEN;NDEUAEREE;NGKAQ;GHARAE;MBEEKEET;GBAYI",
    "NYIR MKPARAQ MEUN;NTU MBIT;MBEUM;PIRIEEN;NDOMBU;MBAA CABBAGE-TREE;KEUSHEUAEP;GHAP;KEUKAQ",
    "YU MUOMAE;NZEUM;MBUE;NSEUAEN;MBIT;YEUQ;KPARAQ;KAA;SEUX;NDIDA;TAASHAE;NJUEQ;TITA YUE",
    "SUAET;NGGUAEN NYAM;VEUX;NANSANAQ;MA KEUAERI;NTAA;NGGUON;LAP;MBIRIEEN;MGBASAQ;NTEUNGBA",
    "TEUTEUX;NGGUM;FUE;NDEUT;NSA;NSHAQ;BUNG;VEUAEPEN;MBERAE;RU;NJAEM;LAM;TITUAEP;NSUOT NGOM",
    "NJEEEE;KET;NGGU;MAESI;MBUAEM;LU;KUT;NJAM;NGOM;WUP;NGGUEET;NSOM;NTEN;KUOP NKAARAE;NSUN",
    "NDAM;MA NSIEE;YAA;NDAP;SHUEQ;SETFON;MBI;MAEMBA;MBANYI;KEUSEUX;MBEUX;KEUM;MBAA PICKET",
    "YUWOQ;NJEUX;MIEE;MUAE;SHIQ;KEN LAW;KEN FATIGUE;NGAQ;NAQ;LIQ;PIN;PEN;TET"]⟩,
  ⟨0x168f1, 1, "BAMUM LETTER PHASE-D ", [
    "MBUO;WAP;NJI;MFON;NJIEE;LIEE;NJEUT;NSHEE;NGGAAMAE;NYAM;WUAEN;NGKUN;SHEE;NGKAP;KEUAETMEUN",
    "TEUT;SHEUAE;NJAP;SUE;KET;YAEMMAE;KUOM;SAP;MFEUT;NDEUX;MALEERI;MEUT;SEUAEQ;YEN;NJEUAEM",
    "KEUOT MBUAE;NGKEURI;TU;GHAA;NGKYEE;FEUFEUAET;NDEE;MGBOFUM;LEUAEP;NDON;MONI;MGBEUN;PUUT",
    "MGBIEE;MFO;LUM;NSIEEP;MBAA;KWAET;NYET;TEUAEN;SOT;YUWOQ;KEUM;RAEM;TEEEE;NGKEUAEQ;MFEUAE",
    "NSIEET;KEUP;PIP;PEUTAE;NYUE;LET;NGGAAM;MFIEE;NGGWAEN;YUOM;PAP;YUOP;NDAM;NTEUM;SUAE;KUN",
    "NGGEUX;NGKIEE;TUOT;MEUN;KUQ;NSUM;TEUN;MAENJET;NGGAP;LEUM;NGGUOM;NSHUT;NJUEQ;GHEUAE;KU",
    "REN OLD;TAE;TOQ;NYI;RII;LEEEE;MEEEE;M;SUU;MU;SHII;SHEUX;KYEE;NU;SHU;NTEE;PEE;NI;SHOQ;PUQ",
    "MVOP;LOQ;REN MUCH;TI;NTUU;MBAA SEVEN;SAQ;FAA"]⟩,
  ⟨0x16966, 1, "BAMUM LETTER PHASE-E ", [
    "NDAP;TOON;MBEUM;LAP;VOM;LOON;PAA;SOM;RAQ;NSHUOP;NDUN;PUAE;TAM;NGKA;KPEUX;WUO;SEE",
    "NGGEUAET;PAAM;TOO;KUOP;LOM;NSHIEE;NGOP;MAEM;NGKEUX;NGOQ;NSHUE;RIMGBA;NJEUX;PEEM;SAA",
    "NGGURAE;MGBA;GHEUX;NGKEUAEM;NJAEMLI;MAP;LOOT;NGGEEEE;NDIQ;TAEN NTEUM;SET;PUM",
    "NDAA SOFTNESS;NGGUAESHAE NYAM;YIEE;GHEUN;TUAE;YEUAE;PO;TUMAE;KEUAE;SUAEN;TEUAEQ;VEUAE",
    "WEUX;LAAM;PU;TAAQ;GHAAMAE;NGEUREUT;SHEUAEQ;MGBEN;MBEE;NZAQ;NKOM;GBET;TUM;KUET;YAP",
    "NYI CLEAVER;YIT;MFEUQ;NDIAQ;PIEEQ;YUEQ;LEUAEM;FUE;GBEUX;NGKUP;KET;MAE;NGKAAMI;GHET;FA",
    "NTUM;PEUT;YEUM;NGGEUAE;NYI BETWEEN;NZUQ;POON;MIEE;FUET;NAE;MUAE;GHEUAE;FU I;MVI;PUAQ",
    "NGKUM;KUT;PIET;NTAP;YEUAET;NGGUP;PA PEOPLE;FU CALL;FOM;NJEE;A;TOQ;O;I;LAQ;PA PLURAL;TAA",
    "TAQ;NDAA MY HOUSE;SHIQ;YEUX;NGUAE;YUAEN;YOQ SWIMMING;YOQ COVER;YUQ;YUN;KEUX;PEUX",
    "NJEE EPOCH;PUE;WUE;FEE;VEE;LU;MI;REUX;RAE;NGUAET;NGA;SHO;SHOQ;FU REMEDY;NA;PI;LOQ;KO;MEN",
    "MA;MAQ;TEU;KI;MON;TEN;FAQ;GHOM"]⟩,
  ⟨0x16a03, 1, "BAMUM LETTER PHASE-F ", [
    "KA;U;KU;EE;REE;TAE;NYI;LA;RII;RIEE;MEEEE;TAA;NDAA;NJAEM;M;SUU;SHII;SI;SEUX;KYEE;KET;NUAE",
    "NU;NJUAE;YOQ;SHU;YA;NSHA;PEUX;NTEE;WUE;PEE;RU;NI;REUX;KEN;NGKWAEN;NGGA;SHO;PUAE;FOM;WA",
    "LI;LOQ;KO;MBEN;REN;MA;MO;MBAA;TET;KPA;SAMBA;VUEQ"]⟩,
  ⟨0x16a40, 1, "MRO LETTER ", [
    "TA;NGI;YO;MIM;BA;DA;A;PHI;KHAI;HAO;DAI;CHU;KEAAE;OL;MAEM;NIN;PA;OO;O;RO;SHI;THEA;EA;WA;E",
    "KO;LAN;LA;HAI;RI;TEK"]⟩,
  ⟨0x16a60, 1, "MRO DIGIT ", ["ZERO;ONE;TWO;THREE;FOUR;FIVE;SIX;SEVEN;EIGHT;NINE"]⟩,
  ⟨0x16a6e, 1, "MRO ", ["DANDA;DOUBLE DANDA"]⟩,
  ⟨0x16ad0, 1, "BASSA VAH LETTER ", [
    "ENNI;KA;SE;FA;MBE;YIE;GAH;DHII;KPAH;JO;HWAH;WA;ZO;GBU;DO;CE;UWU;TO;BA;VU;YEIN;PA;WADDA;A",
    "O;OO;U;EE;E;I"]⟩,
  ⟨0x16af0, 1, "BASSA VAH COMBINING ", ["HIGH TONE;LOW TONE;MID TONE;LOW-MID TONE;HIGH-LOW TONE"]⟩,
  ⟨0x16af5, 1, "", ["BASSA VAH FULL STOP"]⟩,
  ⟨0x16e40, 1, "MEDEFAIDRIN CAPITAL LETTER ", [
    "M;S;V;W;ATIU;Z;KP;P;T;G;F;I;K;A;J;E;B;C;U;YU;L;Q;HP;NY;X;D;OE;N;R;O;AI;Y"]⟩,
  ⟨0x16e60, 1, "MEDEFAIDRIN SMALL LETTER ", [
    "M;S;V;W;ATIU;Z;KP;P;T;G;F;I;K;A;J;E;B;C;U;YU;L;Q;HP;NY;X;D;OE;N;R;O;AI;Y"]⟩,
  ⟨0x16e80, 1, "MEDEFAIDRIN DIGIT ", ["ZERO;ONE;TWO;THREE;FOUR;FIVE;SIX;SEVEN;EIGHT;NINE"]⟩,
  ⟨0x16e8a, 1, "MEDEFAIDRIN NUMBER ", [
    "TEN;ELEVEN;TWELVE;THIRTEEN;FOURTEEN;FIFTEEN;SIXTEEN;SEVENTEEN;EIGHTEEN;NINETEEN"]⟩,
  ⟨0x16e94, 1, "MEDEFAIDRIN ", [
    "DIGIT ONE ALTERNATE FORM;DIGIT TWO ALTERNATE FORM;DIGIT THREE ALTERNATE FORM;COMMA",
    "FULL STOP;SYMBOL AIVA;EXCLAMATION OH"]⟩,
  ⟨0x1e7e0, 1, "ETHIOPIC SYLLABLE ", ["HHYA;HHYU;HHYI;HHYAA;HHYEE;HHYE;HHYO"]⟩,
  ⟨0x1e7e8, 1, "ETHIOPIC SYLLABLE ", ["GURAGE HHWA;HHWI;HHWEE;HHWE"]⟩,
  ⟨0x1e7ed, 1, "ETHIOPIC SYLLABLE GURAGE ", ["MWI;MWEE"]⟩,
  ⟨0x1e7f0, 1, "ETHIOPIC SYLLABLE GURAGE ", [
    "QWI;QWEE;QWE;BWI;BWEE;KWI;KWEE;KWE;GWI;GWEE;GWE;FWI;FWEE;PWI;PWEE"]⟩,
  ⟨0x1e800, 1, "MENDE KIKAKUI SYLLABLE ", [
    "M001 KI;M002 KA;M003 KU;M065 KEE;M095 KE;M076 KOO;M048 KO;M179 KUA;M004 WI;M005 WA",
    "M006 WU;M126 WEE;M118 WE;M114 WOO;M045 WO;M194 WUI;M143 WEI;M061 WVI;M049 WVA;M139 WVE",
    "M007 MIN;M008 MAN;M009 MUN;M059 MEN;M094 MON;M154 MUAN;M189 MUEN;M010 BI;M011 BA;M012 BU",
    "M150 BEE;M097 BE;M103 BOO;M138 BO;M013 I;M014 A;M015 U;M163 EE;M100 E;M165 OO;M147 O",
    "M137 EI;M131 IN;M135 IN;M195 AN;M178 EN;M019 SI;M020 SA;M021 SU;M162 SEE;M116 SE",
    "M136 SOO;M079 SO;M196 SIA;M025 LI;M026 LA;M027 LU;M084 LEE;M073 LE;M054 LOO;M153 LO",
    "M110 LONG LE;M016 DI;M017 DA;M018 DU;M089 DEE;M180 DOO;M181 DO;M022 TI;M023 TA;M024 TU",
    "M091 TEE;M055 TE;M104 TOO;M069 TO;M028 JI;M029 JA;M030 JU;M157 JEE;M113 JE;M160 JOO",
    "M063 JO;M175 LONG JO;M031 YI;M032 YA;M033 YU;M109 YEE;M080 YE;M141 YOO;M121 YO;M034 FI",
    "M035 FA;M036 FU;M078 FEE;M075 FE;M133 FOO;M088 FO;M197 FUA;M101 FAN;M037 NIN;M038 NAN",
    "M039 NUN;M117 NEN;M169 NON;M176 HI;M041 HA;M186 HU;M040 HEE;M096 HE;M042 HOO;M140 HO",
    "M083 HEEI;M128 HOOU;M053 HIN;M130 HAN;M087 HUN;M052 HEN;M193 HON;M046 HUAN;M090 NGGI",
    "M043 NGGA;M082 NGGU;M115 NGGEE;M146 NGGE;M156 NGGOO;M120 NGGO;M159 NGGAA;M127 NGGUA",
    "M086 LONG NGGE;M106 LONG NGGOO;M183 LONG NGGO;M155 GI;M111 GA;M168 GU;M190 GEE;M166 GUEI",
    "M167 GUAN;M184 NGEN;M057 NGON;M177 NGUAN;M068 PI;M099 PA;M050 PU;M081 PEE;M051 PE",
    "M102 POO;M066 PO;M145 MBI;M062 MBA;M122 MBU;M047 MBEE;M188 MBEE;M072 MBE;M172 MBOO",
    "M174 MBO;M187 MBUU;M161 LONG MBE;M105 LONG MBOO;M142 LONG MBO;M132 KPI;M092 KPA;M074 KPU",
    "M044 KPEE;M108 KPE;M112 KPOO;M158 KPO;M124 GBI;M056 GBA;M148 GBU;M093 GBEE;M107 GBE",
    "M071 GBOO;M070 GBO;M171 RA;M123 NDI;M129 NDA;M125 NDU;M191 NDEE;M119 NDE;M067 NDOO",
    "M064 NDO;M152 NJA;M192 NJU;M149 NJEE;M134 NJOO;M182 VI;M185 VA;M151 VU;M173 VEE;M085 VE",
    "M144 VOO;M077 VO;M164 NYIN;M058 NYAN;M170 NYUN;M098 NYEN;M060 NYON"]⟩,
  ⟨0x1e8c7, 1, "MENDE KIKAKUI DIGIT ", ["ONE;TWO;THREE;FOUR;FIVE;SIX;SEVEN;EIGHT;NINE"]⟩,
  ⟨0x1e8d0, 1, "MENDE KIKAKUI COMBINING NUMBER ", [
    "TEENS;TENS;HUNDREDS;THOUSANDS;TEN THOUSANDS;HUNDRED THOUSANDS;MILLIONS"]⟩,
  ⟨0x1e900, 1, "ADLAM CAPITAL LETTER ", [
    "ALIF;DAALI;LAAM;MIIM;BA;SINNYIIYHE;PE;BHE;RA;E;FA;I;O;DHA;YHE;WAW;NUN;KAF;YA;U;JIIM;CHI",
    "HA;QAAF;GA;NYA;TU;NHA;VA;KHA;GBE;ZAL;KPO;SHA"]⟩,
  ⟨0x1e922, 1, "ADLAM SMALL LETTER ", [
    "ALIF;DAALI;LAAM;MIIM;BA;SINNYIIYHE;PE;BHE;RA;E;FA;I;O;DHA;YHE;WAW;NUN;KAF;YA;U;JIIM;CHI",
    "HA;QAAF;GA;NYA;TU;NHA;VA;KHA;GBE;ZAL;KPO;SHA"]⟩,
  ⟨0x1e944, 1, "ADLAM ", [
    "ALIF LENGTHENER;VOWEL LENGTHENER;GEMINATION MARK;HAMZA;CONSONANT MODIFIER",
    "GEMINATE CONSONANT MODIFIER;NUKTA;NASALIZATION MARK"]⟩,
  ⟨0x1e950, 1, "ADLAM DIGIT ", ["ZERO;ONE;TWO;THREE;FOUR;FIVE;SIX;SEVEN;EIGHT;NINE"]⟩,
  ⟨0x1e95e, 1, "ADLAM INITIAL ", ["EXCLAMATION MARK;QUESTION MARK"]⟩]

end Dialogue.Text.Name

/-!
Names of East Asian punctuation, kana, Hangul letters and wide forms.
-/
namespace Dialogue.Text.Name

def asian : List Run := [
  ⟨0x1100, 1, "HANGUL CHOSEONG ", [
    "KIYEOK;SSANGKIYEOK;NIEUN;TIKEUT;SSANGTIKEUT;RIEUL;MIEUM;PIEUP;SSANGPIEUP;SIOS;SSANGSIOS",
    "IEUNG;CIEUC;SSANGCIEUC;CHIEUCH;KHIEUKH;THIEUTH;PHIEUPH;HIEUH;NIEUN-KIYEOK;SSANGNIEUN",
    "NIEUN-TIKEUT;NIEUN-PIEUP;TIKEUT-KIYEOK;RIEUL-NIEUN;SSANGRIEUL;RIEUL-HIEUH;KAPYEOUNRIEUL",
    "MIEUM-PIEUP;KAPYEOUNMIEUM;PIEUP-KIYEOK;PIEUP-NIEUN;PIEUP-TIKEUT;PIEUP-SIOS",
    "PIEUP-SIOS-KIYEOK;PIEUP-SIOS-TIKEUT;PIEUP-SIOS-PIEUP;PIEUP-SSANGSIOS;PIEUP-SIOS-CIEUC",
    "PIEUP-CIEUC;PIEUP-CHIEUCH;PIEUP-THIEUTH;PIEUP-PHIEUPH;KAPYEOUNPIEUP;KAPYEOUNSSANGPIEUP",
    "SIOS-KIYEOK;SIOS-NIEUN;SIOS-TIKEUT;SIOS-RIEUL;SIOS-MIEUM;SIOS-PIEUP;SIOS-PIEUP-KIYEOK",
    "SIOS-SSANGSIOS;SIOS-IEUNG;SIOS-CIEUC;SIOS-CHIEUCH;SIOS-KHIEUKH;SIOS-THIEUTH;SIOS-PHIEUPH",
    "SIOS-HIEUH;CHITUEUMSIOS;CHITUEUMSSANGSIOS;CEONGCHIEUMSIOS;CEONGCHIEUMSSANGSIOS;PANSIOS",
    "IEUNG-KIYEOK;IEUNG-TIKEUT;IEUNG-MIEUM;IEUNG-PIEUP;IEUNG-SIOS;IEUNG-PANSIOS;SSANGIEUNG",
    "IEUNG-CIEUC;IEUNG-CHIEUCH;IEUNG-THIEUTH;IEUNG-PHIEUPH;YESIEUNG;CIEUC-IEUNG;CHITUEUMCIEUC",
    "CHITUEUMSSANGCIEUC;CEONGCHIEUMCIEUC;CEONGCHIEUMSSANGCIEUC;CHIEUCH-KHIEUKH;CHIEUCH-HIEUH",
    "CHITUEUMCHIEUCH;CEONGCHIEUMCHIEUCH;PHIEUPH-PIEUP;KAPYEOUNPHIEUPH;SSANGHIEUH;YEORINHIEUH",
    "KIYEOK-TIKEUT;NIEUN-SIOS;NIEUN-CIEUC;NIEUN-HIEUH;TIKEUT-RIEUL;FILLER"]⟩,
  ⟨0x1160, 1, "HANGUL JUNGSEONG ", [
    "FILLER;A;AE;YA;YAE;EO;E;YEO;YE;O;WA;WAE;OE;YO;U;WEO;WE;WI;YU;EU;YI;I;A-O;A-U;YA-O;YA-YO",
    "EO-O;EO-U;EO-EU;YEO-O;YEO-U;O-EO;O-E;O-YE;O-O;O-U;YO-YA;YO-YAE;YO-YEO;YO-O;YO-I;U-A;U-AE",
    "U-EO-EU;U-YE;U-U;YU-A;YU-EO;YU-E;YU-YEO;YU-YE;YU-U;YU-I;EU-U;EU-EU;YI-U;I-A;I-YA;I-O;I-U",
    "I-EU;I-ARAEA;ARAEA;ARAEA-EO;ARAEA-U;ARAEA-I;SSANGARAEA;A-EU;YA-U;YEO-YA;O-YA;O-YAE"]⟩,
  ⟨0x11a8, 1, "HANGUL JONGSEONG ", [
    "KIYEOK;SSANGKIYEOK;KIYEOK-SIOS;NIEUN;NIEUN-CIEUC;NIEUN-HIEUH;TIKEUT;RIEUL;RIEUL-KIYEOK",
    "RIEUL-MIEUM;RIEUL-PIEUP;RIEUL-SIOS;RIEUL-THIEUTH;RIEUL-PHIEUPH;RIEUL-HIEUH;MIEUM;PIEUP",
    "PIEUP-SIOS;SIOS;SSANGSIOS;IEUNG;CIEUC;CHIEUCH;KHIEUKH;THIEUTH;PHIEUPH;HIEUH;KIYEOK-RIEUL",
    "KIYEOK-SIOS-KIYEOK;NIEUN-KIYEOK;NIEUN-TIKEUT;NIEUN-SIOS;NIEUN-PANSIOS;NIEUN-THIEUTH",
    "TIKEUT-KIYEOK;TIKEUT-RIEUL;RIEUL-KIYEOK-SIOS;RIEUL-NIEUN;RIEUL-TIKEUT;RIEUL-TIKEUT-HIEUH",
    "SSANGRIEUL;RIEUL-MIEUM-KIYEOK;RIEUL-MIEUM-SIOS;RIEUL-PIEUP-SIOS;RIEUL-PIEUP-HIEUH",
    "RIEUL-KAPYEOUNPIEUP;RIEUL-SSANGSIOS;RIEUL-PANSIOS;RIEUL-KHIEUKH;RIEUL-YEORINHIEUH",
    "MIEUM-KIYEOK;MIEUM-RIEUL;MIEUM-PIEUP;MIEUM-SIOS;MIEUM-SSANGSIOS;MIEUM-PANSIOS",
    "MIEUM-CHIEUCH;MIEUM-HIEUH;KAPYEOUNMIEUM;PIEUP-RIEUL;PIEUP-PHIEUPH;PIEUP-HIEUH",
    "KAPYEOUNPIEUP;SIOS-KIYEOK;SIOS-TIKEUT;SIOS-RIEUL;SIOS-PIEUP;PANSIOS;IEUNG-KIYEOK",
    "IEUNG-SSANGKIYEOK;SSANGIEUNG;IEUNG-KHIEUKH;YESIEUNG;YESIEUNG-SIOS;YESIEUNG-PANSIOS",
    "PHIEUPH-PIEUP;KAPYEOUNPHIEUPH;HIEUH-NIEUN;HIEUH-RIEUL;HIEUH-MIEUM;HIEUH-PIEUP",
    "YEORINHIEUH;KIYEOK-NIEUN;KIYEOK-PIEUP;KIYEOK-CHIEUCH;KIYEOK-KHIEUKH;KIYEOK-HIEUH",
    "SSANGNIEUN"]⟩,
  ⟨0x3000, 1, "IDEOGRAPHIC ", ["SPACE;COMMA;FULL STOP"]⟩,
  ⟨0x3003, 1, "", ["DITTO MARK;JAPANESE INDUSTRIAL STANDARD SYMBOL"]⟩,
  ⟨0x3005, 1, "IDEOGRAPHIC ", ["ITERATION MARK;CLOSING MARK;NUMBER ZERO"]⟩,
  ⟨0x3008, 1, "", [
    "LEFT ANGLE BRACKET;RIGHT ANGLE BRACKET;LEFT DOUBLE ANGLE BRACKET",
    "RIGHT DOUBLE ANGLE BRACKET;LEFT CORNER BRACKET;RIGHT CORNER BRACKET",
    "LEFT WHITE CORNER BRACKET;RIGHT WHITE CORNER BRACKET;LEFT BLACK LENTICULAR BRACKET",
    "RIGHT BLACK LENTICULAR BRACKET;POSTAL MARK;GETA MARK;LEFT TORTOISE SHELL BRACKET",
    "RIGHT TORTOISE SHELL BRACKET;LEFT WHITE LENTICULAR BRACKET",
    "RIGHT WHITE LENTICULAR BRACKET;LEFT WHITE TORTOISE SHELL BRACKET",
    "RIGHT WHITE TORTOISE SHELL BRACKET;LEFT WHITE SQUARE BRACKET;RIGHT WHITE SQUARE BRACKET",
    "WAVE DASH;REVERSED DOUBLE PRIME QUOTATION MARK;DOUBLE PRIME QUOTATION MARK",
    "LOW DOUBLE PRIME QUOTATION MARK;POSTAL MARK FACE;HANGZHOU NUMERAL ONE",
    "HANGZHOU NUMERAL TWO;HANGZHOU NUMERAL THREE;HANGZHOU NUMERAL FOUR;HANGZHOU NUMERAL FIVE",
    "HANGZHOU NUMERAL SIX;HANGZHOU NUMERAL SEVEN;HANGZHOU NUMERAL EIGHT;HANGZHOU NUMERAL NINE"]⟩,
  ⟨0x302a, 1, "IDEOGRAPHIC ", [
    "LEVEL TONE MARK;RISING TONE MARK;DEPARTING TONE MARK;ENTERING TONE MARK"]⟩,
  ⟨0x302e, 1, "", [
    "HANGUL SINGLE DOT TONE MARK;HANGUL DOUBLE DOT TONE MARK;WAVY DASH",
    "VERTICAL KANA REPEAT MARK;VERTICAL KANA REPEAT WITH VOICED SOUND MARK",
    "VERTICAL KANA REPEAT MARK UPPER HALF",
    "VERTICAL KANA REPEAT WITH VOICED SOUND MARK UPPER HALF",
    "VERTICAL KANA REPEAT MARK LOWER HALF;CIRCLED POSTAL MARK"]⟩,
  ⟨0x3037, 1, "IDEOGRAPHIC ", ["TELEGRAPH LINE FEED SEPARATOR SYMBOL"]⟩,
  ⟨0x3038, 1, "", [
    "HANGZHOU NUMERAL TEN;HANGZHOU NUMERAL TWENTY;HANGZHOU NUMERAL THIRTY",
    "VERTICAL IDEOGRAPHIC ITERATION MARK;MASU MARK;PART ALTERNATION MARK"]⟩,
  ⟨0x303e, 1, "IDEOGRAPHIC ", ["VARIATION INDICATOR;HALF FILL SPACE"]⟩,
  ⟨0x3041, 2, "HIRAGANA LETTER SMALL ", ["A;I;U;E;O"]⟩,
  ⟨0x3042, 2, "HIRAGANA LETTER ", ["A;I;U;E;O"]⟩,
  ⟨0x304b, 1, "HIRAGANA LETTER ", [
    "KA;GA;KI;GI;KU;GU;KE;GE;KO;GO;SA;ZA;SI;ZI;SU;ZU;SE;ZE;SO;ZO;TA;DA;TI;DI"]⟩,
  ⟨0x3063, 1, "HIRAGANA LETTER SMALL ", ["TU"]⟩,
  ⟨0x3064, 1, "HIRAGANA LETTER ", [
    "TU;DU;TE;DE;TO;DO;NA;NI;NU;NE;NO;HA;BA;PA;HI;BI;PI;HU;BU;PU;HE;BE;PE;HO;BO;PO;MA;MI;MU",
    "ME;MO"]⟩,
  ⟨0x3083, 2, "HIRAGANA LETTER SMALL ", ["YA;YU;YO"]⟩,
  ⟨0x3084, 2, "HIRAGANA LETTER ", ["YA;YU;YO"]⟩,
  ⟨0x3089, 1, "HIRAGANA LETTER ", ["RA;RI;RU;RE;RO"]⟩,
  ⟨0x308e, 1, "HIRAGANA LETTER SMALL ", ["WA"]⟩,
  ⟨0x308f, 1, "HIRAGANA LETTER ", ["WA;WI;WE;WO;N;VU"]⟩,
  ⟨0x3095, 1, "HIRAGANA LETTER SMALL ", ["KA;KE"]⟩,
  ⟨0x3099, 1, "COMBINING ", [
    "KATAKANA-HIRAGANA VOICED SOUND MARK;KATAKANA-HIRAGANA SEMI-VOICED SOUND MARK"]⟩,
  ⟨0x309b, 1, "", [
    "KATAKANA-HIRAGANA VOICED SOUND MARK;KATAKANA-HIRAGANA SEMI-VOICED SOUND MARK",
    "HIRAGANA ITERATION MARK;HIRAGANA VOICED ITERATION MARK;HIRAGANA DIGRAPH YORI",
    "KATAKANA-HIRAGANA DOUBLE HYPHEN"]⟩,
  ⟨0x30a1, 2, "KATAKANA LETTER SMALL ", ["A;I;U;E;O"]⟩,
  ⟨0x30a2, 2, "KATAKANA LETTER ", ["A;I;U;E;O"]⟩,
  ⟨0x30ab, 1, "KATAKANA LETTER ", [
    "KA;GA;KI;GI;KU;GU;KE;GE;KO;GO;SA;ZA;SI;ZI;SU;ZU;SE;ZE;SO;ZO;TA;DA;TI;DI"]⟩,
  ⟨0x30c3, 1, "KATAKANA LETTER SMALL ", ["TU"]⟩,
  ⟨0x30c4, 1, "KATAKANA LETTER ", [
    "TU;DU;TE;DE;TO;DO;NA;NI;NU;NE;NO;HA;BA;PA;HI;BI;PI;HU;BU;PU;HE;BE;PE;HO;BO;PO;MA;MI;MU",
    "ME;MO"]⟩,
  ⟨0x30e3, 2, "KATAKANA LETTER SMALL ", ["YA;YU;YO"]⟩,
  ⟨0x30e4, 2, "KATAKANA LETTER ", ["YA;YU;YO"]⟩,
  ⟨0x30e9, 1, "KATAKANA LETTER ", ["RA;RI;RU;RE;RO"]⟩,
  ⟨0x30ee, 1, "KATAKANA LETTER SMALL ", ["WA"]⟩,
  ⟨0x30ef, 1, "KATAKANA LETTER ", ["WA;WI;WE;WO;N;VU"]⟩,
  ⟨0x30f5, 1, "KATAKANA LETTER SMALL ", ["KA;KE"]⟩,
  ⟨0x30f7, 1, "KATAKANA LETTER ", ["VA;VI;VE;VO"]⟩,
  ⟨0x30fb, 1, "", [
    "KATAKANA MIDDLE DOT;KATAKANA-HIRAGANA PROLONGED SOUND MARK;KATAKANA ITERATION MARK",
    "KATAKANA VOICED ITERATION MARK;KATAKANA DIGRAPH KOTO"]⟩,
  ⟨0x3105, 1, "BOPOMOFO LETTER ", [
    "B;P;M;F;D;T;N;L;G;K;H;J;Q;X;ZH;CH;SH;R;Z;C;S;A;O;E;EH;AI;EI;AU;OU;AN;EN;ANG;ENG;ER;I;U",
    "IU;V;NG;GN;IH;O WITH DOT ABOVE;NN"]⟩,
  ⟨0x3131, 1, "HANGUL LETTER ", [
    "KIYEOK;SSANGKIYEOK;KIYEOK-SIOS;NIEUN;NIEUN-CIEUC;NIEUN-HIEUH;TIKEUT;SSANGTIKEUT;RIEUL",
    "RIEUL-KIYEOK;RIEUL-MIEUM;RIEUL-PIEUP;RIEUL-SIOS;RIEUL-THIEUTH;RIEUL-PHIEUPH;RIEUL-HIEUH",
    "MIEUM;PIEUP;SSANGPIEUP;PIEUP-SIOS;SIOS;SSANGSIOS;IEUNG;CIEUC;SSANGCIEUC;CHIEUCH;KHIEUKH",
    "THIEUTH;PHIEUPH;HIEUH;A;AE;YA;YAE;EO;E;YEO;YE;O;WA;WAE;OE;YO;U;WEO;WE;WI;YU;EU;YI;I"]⟩,
  ⟨0x3164, 1, "", ["HANGUL FILLER"]⟩,
  ⟨0x3165, 1, "HANGUL LETTER ", [
    "SSANGNIEUN;NIEUN-TIKEUT;NIEUN-SIOS;NIEUN-PANSIOS;RIEUL-KIYEOK-SIOS;RIEUL-TIKEUT",
    "RIEUL-PIEUP-SIOS;RIEUL-PANSIOS;RIEUL-YEORINHIEUH;MIEUM-PIEUP;MIEUM-SIOS;MIEUM-PANSIOS",
    "KAPYEOUNMIEUM;PIEUP-KIYEOK;PIEUP-TIKEUT;PIEUP-SIOS-KIYEOK;PIEUP-SIOS-TIKEUT;PIEUP-CIEUC",
    "PIEUP-THIEUTH;KAPYEOUNPIEUP;KAPYEOUNSSANGPIEUP;SIOS-KIYEOK;SIOS-NIEUN;SIOS-TIKEUT",
    "SIOS-PIEUP;SIOS-CIEUC;PANSIOS;SSANGIEUNG;YESIEUNG;YESIEUNG-SIOS;YESIEUNG-PANSIOS",
    "KAPYEOUNPHIEUPH;SSANGHIEUH;YEORINHIEUH;YO-YA;YO-YAE;YO-I;YU-YEO;YU-YE;YU-I;ARAEA;ARAEAE"]⟩,
  ⟨0xfb00, 1, "", [
    "LATIN SMALL LIGATURE FF;LATIN SMALL LIGATURE FI;LATIN SMALL LIGATURE FL",
    "LATIN SMALL LIGATURE FFI;LATIN SMALL LIGATURE FFL;LATIN SMALL LIGATURE LONG S T",
    "LATIN SMALL LIGATURE ST"]⟩,
  ⟨0xfe00, 1, "", [
    "VARIATION SELECTOR-1;VARIATION SELECTOR-2;VARIATION SELECTOR-3;VARIATION SELECTOR-4",
    "VARIATION SELECTOR-5;VARIATION SELECTOR-6;VARIATION SELECTOR-7;VARIATION SELECTOR-8",
    "VARIATION SELECTOR-9;VARIATION SELECTOR-10;VARIATION SELECTOR-11;VARIATION SELECTOR-12",
    "VARIATION SELECTOR-13;VARIATION SELECTOR-14;VARIATION SELECTOR-15;VARIATION SELECTOR-16",
    "PRESENTATION FORM FOR VERTICAL COMMA;PRESENTATION FORM FOR VERTICAL IDEOGRAPHIC COMMA",
    "PRESENTATION FORM FOR VERTICAL IDEOGRAPHIC FULL STOP",
    "PRESENTATION FORM FOR VERTICAL COLON;PRESENTATION FORM FOR VERTICAL SEMICOLON",
    "PRESENTATION FORM FOR VERTICAL EXCLAMATION MARK",
    "PRESENTATION FORM FOR VERTICAL QUESTION MARK",
    "PRESENTATION FORM FOR VERTICAL LEFT WHITE LENTICULAR BRACKET",
    "PRESENTATION FORM FOR VERTICAL RIGHT WHITE LENTICULAR BRAKCET",
    "PRESENTATION FORM FOR VERTICAL HORIZONTAL ELLIPSIS"]⟩,
  ⟨0xfe20, 1, "COMBINING ", [
    "LIGATURE LEFT HALF;LIGATURE RIGHT HALF;DOUBLE TILDE LEFT HALF;DOUBLE TILDE RIGHT HALF",
    "MACRON LEFT HALF;MACRON RIGHT HALF;CONJOINING MACRON;LIGATURE LEFT HALF BELOW",
    "LIGATURE RIGHT HALF BELOW;TILDE LEFT HALF BELOW;TILDE RIGHT HALF BELOW",
    "MACRON LEFT HALF BELOW;MACRON RIGHT HALF BELOW;CONJOINING MACRON BELOW",
    "CYRILLIC TITLO LEFT HALF;CYRILLIC TITLO RIGHT HALF"]⟩,
  ⟨0xfe30, 1, "", [
    "PRESENTATION FORM FOR VERTICAL TWO DOT LEADER;PRESENTATION FORM FOR VERTICAL EM DASH",
    "PRESENTATION FORM FOR VERTICAL EN DASH;PRESENTATION FORM FOR VERTICAL LOW LINE",
    "PRESENTATION FORM FOR VERTICAL WAVY LOW LINE",
    "PRESENTATION FORM FOR VERTICAL LEFT PARENTHESIS",
    "PRESENTATION FORM FOR VERTICAL RIGHT PARENTHESIS",
    "PRESENTATION FORM FOR VERTICAL LEFT CURLY BRACKET",
    "PRESENTATION FORM FOR VERTICAL RIGHT CURLY BRACKET",
    "PRESENTATION FORM FOR VERTICAL LEFT TORTOISE SHELL BRACKET",
    "PRESENTATION FORM FOR VERTICAL RIGHT TORTOISE SHELL BRACKET",
    "PRESENTATION FORM FOR VERTICAL LEFT BLACK LENTICULAR BRACKET",
    "PRESENTATION FORM FOR VERTICAL RIGHT BLACK LENTICULAR BRACKET",
    "PRESENTATION FORM FOR VERTICAL LEFT DOUBLE ANGLE BRACKET",
    "PRESENTATION FORM FOR VERTICAL RIGHT DOUBLE ANGLE BRACKET",
    "PRESENTATION FORM FOR VERTICAL LEFT ANGLE BRACKET",
    "PRESENTATION FORM FOR VERTICAL RIGHT ANGLE BRACKET",
    "PRESENTATION FORM FOR VERTICAL LEFT CORNER BRACKET",
    "PRESENTATION FORM FOR VERTICAL RIGHT CORNER BRACKET",
    "PRESENTATION FORM FOR VERTICAL LEFT WHITE CORNER BRACKET",
    "PRESENTATION FORM FOR VERTICAL RIGHT WHITE CORNER BRACKET;SESAME DOT;WHITE SESAME DOT",
    "PRESENTATION FORM FOR VERTICAL LEFT SQUARE BRACKET",
    "PRESENTATION FORM FOR VERTICAL RIGHT SQUARE BRACKET;DASHED OVERLINE;CENTRELINE OVERLINE",
    "WAVY OVERLINE;DOUBLE WAVY OVERLINE;DASHED LOW LINE;CENTRELINE LOW LINE;WAVY LOW LINE",
    "SMALL COMMA;SMALL IDEOGRAPHIC COMMA;SMALL FULL STOP"]⟩,
  ⟨0xfe54, 1, "", [
    "SMALL SEMICOLON;SMALL COLON;SMALL QUESTION MARK;SMALL EXCLAMATION MARK;SMALL EM DASH",
    "SMALL LEFT PARENTHESIS;SMALL RIGHT PARENTHESIS;SMALL LEFT CURLY BRACKET",
    "SMALL RIGHT CURLY BRACKET;SMALL LEFT TORTOISE SHELL BRACKET",
    "SMALL RIGHT TORTOISE SHELL BRACKET;SMALL NUMBER SIGN;SMALL AMPERSAND;SMALL ASTERISK",
    "SMALL PLUS SIGN;SMALL HYPHEN-MINUS;SMALL LESS-THAN SIGN;SMALL GREATER-THAN SIGN",
    "SMALL EQUALS SIGN"]⟩,
  ⟨0xfe68, 1, "", [
    "SMALL REVERSE SOLIDUS;SMALL DOLLAR SIGN;SMALL PERCENT SIGN;SMALL COMMERCIAL AT"]⟩,
  ⟨0xfeff, 1, "", ["ZERO WIDTH NO-BREAK SPACE"]⟩,
  ⟨0xff01, 1, "FULLWIDTH ", [
    "EXCLAMATION MARK;QUOTATION MARK;NUMBER SIGN;DOLLAR SIGN;PERCENT SIGN;AMPERSAND",
    "APOSTROPHE;LEFT PARENTHESIS;RIGHT PARENTHESIS;ASTERISK;PLUS SIGN;COMMA;HYPHEN-MINUS",
    "FULL STOP;SOLIDUS"]⟩,
  ⟨0xff10, 1, "FULLWIDTH DIGIT ", ["ZERO;ONE;TWO;THREE;FOUR;FIVE;SIX;SEVEN;EIGHT;NINE"]⟩,
  ⟨0xff1a, 1, "FULLWIDTH ", [
    "COLON;SEMICOLON;LESS-THAN SIGN;EQUALS SIGN;GREATER-THAN SIGN;QUESTION MARK;COMMERCIAL AT"]⟩,
  ⟨0xff21, 1, "FULLWIDTH LATIN CAPITAL LETTER ", [
    "A;B;C;D;E;F;G;H;I;J;K;L;M;N;O;P;Q;R;S;T;U;V;W;X;Y;Z"]⟩,
  ⟨0xff3b, 1, "FULLWIDTH ", [
    "LEFT SQUARE BRACKET;REVERSE SOLIDUS;RIGHT SQUARE BRACKET;CIRCUMFLEX ACCENT;LOW LINE",
    "GRAVE ACCENT"]⟩,
  ⟨0xff41, 1, "FULLWIDTH LATIN SMALL LETTER ", [
    "A;B;C;D;E;F;G;H;I;J;K;L;M;N;O;P;Q;R;S;T;U;V;W;X;Y;Z"]⟩,
  ⟨0xff5b, 1, "FULLWIDTH ", [
    "LEFT CURLY BRACKET;VERTICAL LINE;RIGHT CURLY BRACKET;TILDE;LEFT WHITE PARENTHESIS",
    "RIGHT WHITE PARENTHESIS"]⟩,
  ⟨0xff61, 1, "HALFWIDTH ", [
    "IDEOGRAPHIC FULL STOP;LEFT CORNER BRACKET;RIGHT CORNER BRACKET;IDEOGRAPHIC COMMA",
    "KATAKANA MIDDLE DOT"]⟩,
  ⟨0xff66, 1, "HALFWIDTH KATAKANA LETTER ", ["WO"]⟩,
  ⟨0xff67, 1, "HALFWIDTH KATAKANA LETTER SMALL ", ["A;I;U;E;O;YA;YU;YO;TU"]⟩,
  ⟨0xff70, 1, "HALFWIDTH ", ["KATAKANA-HIRAGANA PROLONGED SOUND MARK"]⟩,
  ⟨0xff71, 1, "HALFWIDTH KATAKANA LETTER ", [
    "A;I;U;E;O;KA;KI;KU;KE;KO;SA;SI;SU;SE;SO;TA;TI;TU;TE;TO;NA;NI;NU;NE;NO;HA;HI;HU;HE;HO;MA",
    "MI;MU;ME;MO;YA;YU;YO;RA;RI;RU;RE;RO;WA;N"]⟩,
  ⟨0xff9e, 1, "HALFWIDTH ", [
    "KATAKANA VOICED SOUND MARK;KATAKANA SEMI-VOICED SOUND MARK;HANGUL FILLER"]⟩,
  ⟨0xffa1, 1, "HALFWIDTH HANGUL LETTER ", [
    "KIYEOK;SSANGKIYEOK;KIYEOK-SIOS;NIEUN;NIEUN-CIEUC;NIEUN-HIEUH;TIKEUT;SSANGTIKEUT;RIEUL",
    "RIEUL-KIYEOK;RIEUL-MIEUM;RIEUL-PIEUP;RIEUL-SIOS;RIEUL-THIEUTH;RIEUL-PHIEUPH;RIEUL-HIEUH",
    "MIEUM;PIEUP;SSANGPIEUP;PIEUP-SIOS;SIOS;SSANGSIOS;IEUNG;CIEUC;SSANGCIEUC;CHIEUCH;KHIEUKH",
    "THIEUTH;PHIEUPH;HIEUH"]⟩,
  ⟨0xffc2, 1, "HALFWIDTH HANGUL LETTER ", ["A;AE;YA;YAE;EO;E"]⟩,
  ⟨0xffca, 1, "HALFWIDTH HANGUL LETTER ", ["YEO;YE;O;WA;WAE;OE"]⟩,
  ⟨0xffd2, 1, "HALFWIDTH HANGUL LETTER ", ["YO;U;WEO;WE;WI;YU"]⟩,
  ⟨0xffda, 1, "HALFWIDTH HANGUL LETTER ", ["EU;YI;I"]⟩,
  ⟨0xffe0, 1, "FULLWIDTH ", ["CENT SIGN;POUND SIGN;NOT SIGN;MACRON;BROKEN BAR;YEN SIGN;WON SIGN"]⟩,
  ⟨0xffe8, 1, "HALFWIDTH ", [
    "FORMS LIGHT VERTICAL;LEFTWARDS ARROW;UPWARDS ARROW;RIGHTWARDS ARROW;DOWNWARDS ARROW",
    "BLACK SQUARE;WHITE CIRCLE"]⟩,
  ⟨0xfff9, 1, "", [
    "INTERLINEAR ANNOTATION ANCHOR;INTERLINEAR ANNOTATION SEPARATOR",
    "INTERLINEAR ANNOTATION TERMINATOR;OBJECT REPLACEMENT CHARACTER;REPLACEMENT CHARACTER"]⟩]

end Dialogue.Text.Name

/-!
Names of Greek and Cyrillic letters.
-/
namespace Dialogue.Text.Name

def greek : List Run := [
  ⟨0x370, 2, "GREEK CAPITAL LETTER ", ["HETA;ARCHAIC SAMPI"]⟩,
  ⟨0x371, 2, "GREEK SMALL LETTER ", ["HETA;ARCHAIC SAMPI"]⟩,
  ⟨0x374, 1, "GREEK ", ["NUMERAL SIGN;LOWER NUMERAL SIGN"]⟩,
  ⟨0x376, 1, "GREEK CAPITAL LETTER ", ["PAMPHYLIAN DIGAMMA"]⟩,
  ⟨0x377, 1, "GREEK SMALL LETTER ", ["PAMPHYLIAN DIGAMMA"]⟩,
  ⟨0x37a, 1, "GREEK ", [
    "YPOGEGRAMMENI;SMALL REVERSED LUNATE SIGMA SYMBOL;SMALL DOTTED LUNATE SIGMA SYMBOL",
    "SMALL REVERSED DOTTED LUNATE SIGMA SYMBOL;QUESTION MARK"]⟩,
  ⟨0x37f, 1, "GREEK CAPITAL LETTER ", ["YOT"]⟩,
  ⟨0x384, 1, "GREEK ", ["TONOS;DIALYTIKA TONOS"]⟩,
  ⟨0x386, 1, "GREEK CAPITAL LETTER ", ["ALPHA WITH TONOS"]⟩,
  ⟨0x387, 1, "GREEK ", ["ANO TELEIA"]⟩,
  ⟨0x388, 1, "GREEK CAPITAL LETTER ", ["EPSILON WITH TONOS;ETA WITH TONOS;IOTA WITH TONOS"]⟩,
  ⟨0x38c, 1, "GREEK CAPITAL LETTER ", ["OMICRON WITH TONOS"]⟩,
  ⟨0x38e, 1, "GREEK CAPITAL LETTER ", ["UPSILON WITH TONOS;OMEGA WITH TONOS"]⟩,
  ⟨0x390, 1, "GREEK SMALL LETTER ", ["IOTA WITH DIALYTIKA AND TONOS"]⟩,
  ⟨0x391, 1, "GREEK CAPITAL LETTER ", [
    "ALPHA;BETA;GAMMA;DELTA;EPSILON;ZETA;ETA;THETA;IOTA;KAPPA;LAMDA;MU;NU;XI;OMICRON;PI;RHO"]⟩,
  ⟨0x3a3, 1, "GREEK CAPITAL LETTER ", [
    "SIGMA;TAU;UPSILON;PHI;CHI;PSI;OMEGA;IOTA WITH DIALYTIKA;UPSILON WITH DIALYTIKA"]⟩,
  ⟨0x3ac, 1, "GREEK SMALL LETTER ", [
    "ALPHA WITH TONOS;EPSILON WITH TONOS;ETA WITH TONOS;IOTA WITH TONOS",
    "UPSILON WITH DIALYTIKA AND TONOS;ALPHA;BETA;GAMMA;DELTA;EPSILON;ZETA;ETA;THETA;IOTA",
    "KAPPA;LAMDA;MU;NU;XI;OMICRON;PI;RHO;FINAL SIGMA;SIGMA;TAU;UPSILON;PHI;CHI;PSI;OMEGA",
    "IOTA WITH DIALYTIKA;UPSILON WITH DIALYTIKA;OMICRON WITH TONOS;UPSILON WITH TONOS",
    "OMEGA WITH TONOS"]⟩,
  ⟨0x3cf, 1, "GREEK ", [
    "CAPITAL KAI SYMBOL;BETA SYMBOL;THETA SYMBOL;UPSILON WITH HOOK SYMBOL",
    "UPSILON WITH ACUTE AND HOOK SYMBOL;UPSILON WITH DIAERESIS AND HOOK SYMBOL;PHI SYMBOL",
    "PI SYMBOL;KAI SYMBOL;LETTER ARCHAIC KOPPA"]⟩,
  ⟨0x3d9, 2, "GREEK SMALL LETTER ", ["ARCHAIC KOPPA;STIGMA;DIGAMMA;KOPPA;SAMPI"]⟩,
  ⟨0x3da, 2, "GREEK ", ["LETTER STIGMA;LETTER DIGAMMA;LETTER KOPPA;LETTER SAMPI"]⟩,
  ⟨0x3e2, 2, "COPTIC CAPITAL LETTER ", ["SHEI;FEI;KHEI;HORI;GANGIA;SHIMA;DEI"]⟩,
  ⟨0x3e3, 2, "COPTIC SMALL LETTER ", ["SHEI;FEI;KHEI;HORI;GANGIA;SHIMA;DEI"]⟩,
  ⟨0x3f0, 1, "GREEK ", [
    "KAPPA SYMBOL;RHO SYMBOL;LUNATE SIGMA SYMBOL;LETTER YOT;CAPITAL THETA SYMBOL",
    "LUNATE EPSILON SYMBOL;REVERSED LUNATE EPSILON SYMBOL"]⟩,
  ⟨0x3f7, 1, "GREEK CAPITAL LETTER ", ["SHO"]⟩,
  ⟨0x3f8, 1, "GREEK SMALL LETTER ", ["SHO"]⟩,
  ⟨0x3f9, 1, "GREEK ", ["CAPITAL LUNATE SIGMA SYMBOL"]⟩,
  ⟨0x3fa, 1, "GREEK CAPITAL LETTER ", ["SAN"]⟩,
  ⟨0x3fb, 1, "GREEK SMALL LETTER ", ["SAN"]⟩,
  ⟨0x3fc, 1, "GREEK ", [
    "RHO WITH STROKE SYMBOL;CAPITAL REVERSED LUNATE SIGMA SYMBOL",
    "CAPITAL DOTTED LUNATE SIGMA SYMBOL;CAPITAL REVERSED DOTTED LUNATE SIGMA SYMBOL"]⟩,
  ⟨0x1f00, 1, "GREEK SMALL LETTER ", [
    "ALPHA WITH PSILI;ALPHA WITH DASIA;ALPHA WITH PSILI AND VARIA;ALPHA WITH DASIA AND VARIA",
    "ALPHA WITH PSILI AND OXIA;ALPHA WITH DASIA AND OXIA;ALPHA WITH PSILI AND PERISPOMENI",
    "ALPHA WITH DASIA AND PERISPOMENI"]⟩,
  ⟨0x1f08, 1, "GREEK CAPITAL LETTER ", [
    "ALPHA WITH PSILI;ALPHA WITH DASIA;ALPHA WITH PSILI AND VARIA;ALPHA WITH DASIA AND VARIA",
    "ALPHA WITH PSILI AND OXIA;ALPHA WITH DASIA AND OXIA;ALPHA WITH PSILI AND PERISPOMENI",
    "ALPHA WITH DASIA AND PERISPOMENI"]⟩,
  ⟨0x1f10, 1, "GREEK SMALL LETTER ", [
    "EPSILON WITH PSILI;EPSILON WITH DASIA;EPSILON WITH PSILI AND VARIA",
    "EPSILON WITH DASIA AND VARIA;EPSILON WITH PSILI AND OXIA;EPSILON WITH DASIA AND OXIA"]⟩,
  ⟨0x1f18, 1, "GREEK CAPITAL LETTER ", [
    "EPSILON WITH PSILI;EPSILON WITH DASIA;EPSILON WITH PSILI AND VARIA",
    "EPSILON WITH DASIA AND VARIA;EPSILON WITH PSILI AND OXIA;EPSILON WITH DASIA AND OXIA"]⟩,
  ⟨0x1f20, 1, "GREEK SMALL LETTER ", [
    "ETA WITH PSILI;ETA WITH DASIA;ETA WITH PSILI AND VARIA;ETA WITH DASIA AND VARIA",
    "ETA WITH PSILI AND OXIA;ETA WITH DASIA AND OXIA;ETA WITH PSILI AND PERISPOMENI",
    "ETA WITH DASIA AND PERISPOMENI"]⟩,
  ⟨0x1f28, 1, "GREEK CAPITAL LETTER ", [
    "ETA WITH PSILI;ETA WITH DASIA;ETA WITH PSILI AND VARIA;ETA WITH DASIA AND VARIA",
    "ETA WITH PSILI AND OXIA;ETA WITH DASIA AND OXIA;ETA WITH PSILI AND PERISPOMENI",
    "ETA WITH DASIA AND PERISPOMENI"]⟩,
  ⟨0x1f30, 1, "GREEK SMALL LETTER ", [
    "IOTA WITH PSILI;IOTA WITH DASIA;IOTA WITH PSILI AND VARIA;IOTA WITH DASIA AND VARIA",
    "IOTA WITH PSILI AND OXIA;IOTA WITH DASIA AND OXIA;IOTA WITH PSILI AND PERISPOMENI",
    "IOTA WITH DASIA AND PERISPOMENI"]⟩,
  ⟨0x1f38, 1, "GREEK CAPITAL LETTER ", [
    "IOTA WITH PSILI;IOTA WITH DASIA;IOTA WITH PSILI AND VARIA;IOTA WITH DASIA AND VARIA",
    "IOTA WITH PSILI AND OXIA;IOTA WITH DASIA AND OXIA;IOTA WITH PSILI AND PERISPOMENI",
    "IOTA WITH DASIA AND PERISPOMENI"]⟩,
  ⟨0x1f40, 1, "GREEK SMALL LETTER ", [
    "OMICRON WITH PSILI;OMICRON WITH DASIA;OMICRON WITH PSILI AND VARIA",
    "OMICRON WITH DASIA AND VARIA;OMICRON WITH PSILI AND OXIA;OMICRON WITH DASIA AND OXIA"]⟩,
  ⟨0x1f48, 1, "GREEK CAPITAL LETTER ", [
    "OMICRON WITH PSILI;OMICRON WITH DASIA;OMICRON WITH PSILI AND VARIA",
    "OMICRON WITH DASIA AND VARIA;OMICRON WITH PSILI AND OXIA;OMICRON WITH DASIA AND OXIA"]⟩,
  ⟨0x1f50, 1, "GREEK SMALL LETTER ", [
    "UPSILON WITH PSILI;UPSILON WITH DASIA;UPSILON WITH PSILI AND VARIA",
    "UPSILON WITH DASIA AND VARIA;UPSILON WITH PSILI AND OXIA;UPSILON WITH DASIA AND OXIA",
    "UPSILON WITH PSILI AND PERISPOMENI;UPSILON WITH DASIA AND PERISPOMENI"]⟩,
  ⟨0x1f59, 2, "GREEK CAPITAL LETTER ", [
    "UPSILON WITH DASIA;UPSILON WITH DASIA AND VARIA;UPSILON WITH DASIA AND OXIA",
    "UPSILON WITH DASIA AND PERISPOMENI"]⟩,
  ⟨0x1f60, 1, "GREEK SMALL LETTER ", [
    "OMEGA WITH PSILI;OMEGA WITH DASIA;OMEGA WITH PSILI AND VARIA;OMEGA WITH DASIA AND VARIA",
    "OMEGA WITH PSILI AND OXIA;OMEGA WITH DASIA AND OXIA;OMEGA WITH PSILI AND PERISPOMENI",
    "OMEGA WITH DASIA AND PERISPOMENI"]⟩,
  ⟨0x1f68, 1, "GREEK CAPITAL LETTER ", [
    "OMEGA WITH PSILI;OMEGA WITH DASIA;OMEGA WITH PSILI AND VARIA;OMEGA WITH DASIA AND VARIA",
    "OMEGA WITH PSILI AND OXIA;OMEGA WITH DASIA AND OXIA;OMEGA WITH PSILI AND PERISPOMENI",
    "OMEGA WITH DASIA AND PERISPOMENI"]⟩,
  ⟨0x1f70, 1, "GREEK SMALL LETTER ", [
    "ALPHA WITH VARIA;ALPHA WITH OXIA;EPSILON WITH VARIA;EPSILON WITH OXIA;ETA WITH VARIA",
    "ETA WITH OXIA;IOTA WITH VARIA;IOTA WITH OXIA;OMICRON WITH VARIA;OMICRON WITH OXIA",
    "UPSILON WITH VARIA;UPSILON WITH OXIA;OMEGA WITH VARIA;OMEGA WITH OXIA"]⟩,
  ⟨0x1f80, 1, "GREEK SMALL LETTER ", [
    "ALPHA WITH PSILI AND YPOGEGRAMMENI;ALPHA WITH DASIA AND YPOGEGRAMMENI",
    "ALPHA WITH PSILI AND VARIA AND YPOGEGRAMMENI",
    "ALPHA WITH DASIA AND VARIA AND YPOGEGRAMMENI;ALPHA WITH PSILI AND OXIA AND YPOGEGRAMMENI",
    "ALPHA WITH DASIA AND OXIA AND YPOGEGRAMMENI",
    "ALPHA WITH PSILI AND PERISPOMENI AND YPOGEGRAMMENI",
    "ALPHA WITH DASIA AND PERISPOMENI AND YPOGEGRAMMENI"]⟩,
  ⟨0x1f88, 1, "GREEK CAPITAL LETTER ", [
    "ALPHA WITH PSILI AND PROSGEGRAMMENI;ALPHA WITH DASIA AND PROSGEGRAMMENI",
    "ALPHA WITH PSILI AND VARIA AND PROSGEGRAMMENI",
    "ALPHA WITH DASIA AND VARIA AND PROSGEGRAMMENI",
    "ALPHA WITH PSILI AND OXIA AND PROSGEGRAMMENI",
    "ALPHA WITH DASIA AND OXIA AND PROSGEGRAMMENI",
    "ALPHA WITH PSILI AND PERISPOMENI AND PROSGEGRAMMENI",
    "ALPHA WITH DASIA AND PERISPOMENI AND PROSGEGRAMMENI"]⟩,
  ⟨0x1f90, 1, "GREEK SMALL LETTER ", [
    "ETA WITH PSILI AND YPOGEGRAMMENI;ETA WITH DASIA AND YPOGEGRAMMENI",
    "ETA WITH PSILI AND VARIA AND YPOGEGRAMMENI;ETA WITH DASIA AND VARIA AND YPOGEGRAMMENI",
    "ETA WITH PSILI AND OXIA AND YPOGEGRAMMENI;ETA WITH DASIA AND OXIA AND YPOGEGRAMMENI",
    "ETA WITH PSILI AND PERISPOMENI AND YPOGEGRAMMENI",
    "ETA WITH DASIA AND PERISPOMENI AND YPOGEGRAMMENI"]⟩,
  ⟨0x1f98, 1, "GREEK CAPITAL LETTER ", [
    "ETA WITH PSILI AND PROSGEGRAMMENI;ETA WITH DASIA AND PROSGEGRAMMENI",
    "ETA WITH PSILI AND VARIA AND PROSGEGRAMMENI;ETA WITH DASIA AND VARIA AND PROSGEGRAMMENI",
    "ETA WITH PSILI AND OXIA AND PROSGEGRAMMENI;ETA WITH DASIA AND OXIA AND PROSGEGRAMMENI",
    "ETA WITH PSILI AND PERISPOMENI AND PROSGEGRAMMENI",
    "ETA WITH DASIA AND PERISPOMENI AND PROSGEGRAMMENI"]⟩,
  ⟨0x1fa0, 1, "GREEK SMALL LETTER ", [
    "OMEGA WITH PSILI AND YPOGEGRAMMENI;OMEGA WITH DASIA AND YPOGEGRAMMENI",
    "OMEGA WITH PSILI AND VARIA AND YPOGEGRAMMENI",
    "OMEGA WITH DASIA AND VARIA AND YPOGEGRAMMENI;OMEGA WITH PSILI AND OXIA AND YPOGEGRAMMENI",
    "OMEGA WITH DASIA AND OXIA AND YPOGEGRAMMENI",
    "OMEGA WITH PSILI AND PERISPOMENI AND YPOGEGRAMMENI",
    "OMEGA WITH DASIA AND PERISPOMENI AND YPOGEGRAMMENI"]⟩,
  ⟨0x1fa8, 1, "GREEK CAPITAL LETTER ", [
    "OMEGA WITH PSILI AND PROSGEGRAMMENI;OMEGA WITH DASIA AND PROSGEGRAMMENI",
    "OMEGA WITH PSILI AND VARIA AND PROSGEGRAMMENI",
    "OMEGA WITH DASIA AND VARIA AND PROSGEGRAMMENI",
    "OMEGA WITH PSILI AND OXIA AND PROSGEGRAMMENI",
    "OMEGA WITH DASIA AND OXIA AND PROSGEGRAMMENI",
    "OMEGA WITH PSILI AND PERISPOMENI AND PROSGEGRAMMENI",
    "OMEGA WITH DASIA AND PERISPOMENI AND PROSGEGRAMMENI"]⟩,
  ⟨0x1fb0, 1, "GREEK SMALL LETTER ", [
    "ALPHA WITH VRACHY;ALPHA WITH MACRON;ALPHA WITH VARIA AND YPOGEGRAMMENI",
    "ALPHA WITH YPOGEGRAMMENI;ALPHA WITH OXIA AND YPOGEGRAMMENI"]⟩,
  ⟨0x1fb6, 1, "GREEK SMALL LETTER ", [
    "ALPHA WITH PERISPOMENI;ALPHA WITH PERISPOMENI AND YPOGEGRAMMENI"]⟩,
  ⟨0x1fb8, 1, "GREEK CAPITAL LETTER ", [
    "ALPHA WITH VRACHY;ALPHA WITH MACRON;ALPHA WITH VARIA;ALPHA WITH OXIA",
    "ALPHA WITH PROSGEGRAMMENI"]⟩,
  ⟨0x1fbd, 1, "GREEK ", ["KORONIS;PROSGEGRAMMENI;PSILI;PERISPOMENI;DIALYTIKA AND PERISPOMENI"]⟩,
  ⟨0x1fc2, 1, "GREEK SMALL LETTER ", [
    "ETA WITH VARIA AND YPOGEGRAMMENI;ETA WITH YPOGEGRAMMENI;ETA WITH OXIA AND YPOGEGRAMMENI"]⟩,
  ⟨0x1fc6, 1, "GREEK SMALL LETTER ", [
    "ETA WITH PERISPOMENI;ETA WITH PERISPOMENI AND YPOGEGRAMMENI"]⟩,
  ⟨0x1fc8, 1, "GREEK CAPITAL LETTER ", [
    "EPSILON WITH VARIA;EPSILON WITH OXIA;ETA WITH VARIA;ETA WITH OXIA",
    "ETA WITH PROSGEGRAMMENI"]⟩,
  ⟨0x1fcd, 1, "GREEK ", ["PSILI AND VARIA;PSILI AND OXIA;PSILI AND PERISPOMENI"]⟩,
  ⟨0x1fd0, 1, "GREEK SMALL LETTER ", [
    "IOTA WITH VRACHY;IOTA WITH MACRON;IOTA WITH DIALYTIKA AND VARIA",
    "IOTA WITH DIALYTIKA AND OXIA"]⟩,
  ⟨0x1fd6, 1, "GREEK SMALL LETTER ", ["IOTA WITH PERISPOMENI;IOTA WITH DIALYTIKA AND PERISPOMENI"]⟩,
  ⟨0x1fd8, 1, "GREEK CAPITAL LETTER ", [
    "IOTA WITH VRACHY;IOTA WITH MACRON;IOTA WITH VARIA;IOTA WITH OXIA"]⟩,
  ⟨0x1fdd, 1, "GREEK ", ["DASIA AND VARIA;DASIA AND OXIA;DASIA AND PERISPOMENI"]⟩,
  ⟨0x1fe0, 1, "GREEK SMALL LETTER ", [
    "UPSILON WITH VRACHY;UPSILON WITH MACRON;UPSILON WITH DIALYTIKA AND VARIA",
    "UPSILON WITH DIALYTIKA AND OXIA;RHO WITH PSILI;RHO WITH DASIA;UPSILON WITH PERISPOMENI",
    "UPSILON WITH DIALYTIKA AND PERISPOMENI"]⟩,
  ⟨0x1fe8, 1, "GREEK CAPITAL LETTER ", [
    "UPSILON WITH VRACHY;UPSILON WITH MACRON;UPSILON WITH VARIA;UPSILON WITH OXIA",
    "RHO WITH DASIA"]⟩,
  ⟨0x1fed, 1, "GREEK ", ["DIALYTIKA AND VARIA;DIALYTIKA AND OXIA;VARIA"]⟩,
  ⟨0x1ff2, 1, "GREEK SMALL LETTER ", [
    "OMEGA WITH VARIA AND YPOGEGRAMMENI;OMEGA WITH YPOGEGRAMMENI",
    "OMEGA WITH OXIA AND YPOGEGRAMMENI"]⟩,
  ⟨0x1ff6, 1, "GREEK SMALL LETTER ", [
    "OMEGA WITH PERISPOMENI;OMEGA WITH PERISPOMENI AND YPOGEGRAMMENI"]⟩,
  ⟨0x1ff8, 1, "GREEK CAPITAL LETTER ", [
    "OMICRON WITH VARIA;OMICRON WITH OXIA;OMEGA WITH VARIA;OMEGA WITH OXIA",
    "OMEGA WITH PROSGEGRAMMENI"]⟩,
  ⟨0x1ffd, 1, "GREEK ", ["OXIA;DASIA"]⟩]

def cyrillic : List Run := [
  ⟨0x400, 1, "CYRILLIC CAPITAL LETTER ", [
    "IE WITH GRAVE;IO;DJE;GJE;UKRAINIAN IE;DZE;BYELORUSSIAN-UKRAINIAN I;YI;JE;LJE;NJE;TSHE",
    "KJE;I WITH GRAVE;SHORT U;DZHE;A;BE;VE;GHE;DE;IE;ZHE;ZE;I;SHORT I;KA;EL;EM;EN;O;PE;ER;ES",
    "TE;U;EF;HA;TSE;CHE;SHA;SHCHA;HARD SIGN;YERU;SOFT SIGN;E;YU;YA"]⟩,
  ⟨0x430, 1, "CYRILLIC SMALL LETTER ", [
    "A;BE;VE;GHE;DE;IE;ZHE;ZE;I;SHORT I;KA;EL;EM;EN;O;PE;ER;ES;TE;U;EF;HA;TSE;CHE;SHA;SHCHA",
    "HARD SIGN;YERU;SOFT SIGN;E;YU;YA;IE WITH GRAVE;IO;DJE;GJE;UKRAINIAN IE;DZE",
    "BYELORUSSIAN-UKRAINIAN I;YI;JE;LJE;NJE;TSHE;KJE;I WITH GRAVE;SHORT U;DZHE"]⟩,
  ⟨0x460, 2, "CYRILLIC CAPITAL LETTER ", [
    "OMEGA;YAT;IOTIFIED E;LITTLE YUS;IOTIFIED LITTLE YUS;BIG YUS;IOTIFIED BIG YUS;KSI;PSI",
    "FITA;IZHITSA;IZHITSA WITH DOUBLE GRAVE ACCENT;UK;ROUND OMEGA;OMEGA WITH TITLO;OT;KOPPA"]⟩,
  ⟨0x461, 2, "CYRILLIC SMALL LETTER ", [
    "OMEGA;YAT;IOTIFIED E;LITTLE YUS;IOTIFIED LITTLE YUS;BIG YUS;IOTIFIED BIG YUS;KSI;PSI",
    "FITA;IZHITSA;IZHITSA WITH DOUBLE GRAVE ACCENT;UK;ROUND OMEGA;OMEGA WITH TITLO;OT;KOPPA"]⟩,
  ⟨0x482, 1, "CYRILLIC ", ["THOUSANDS SIGN"]⟩,
  ⟨0x483, 1, "COMBINING ", [
    "CYRILLIC TITLO;CYRILLIC PALATALIZATION;CYRILLIC DASIA PNEUMATA;CYRILLIC PSILI PNEUMATA",
    "CYRILLIC POKRYTIE;CYRILLIC HUNDRED THOUSANDS SIGN;CYRILLIC MILLIONS SIGN"]⟩,
  ⟨0x48a, 2, "CYRILLIC CAPITAL LETTER ", [
    "SHORT I WITH TAIL;SEMISOFT SIGN;ER WITH TICK;GHE WITH UPTURN;GHE WITH STROKE",
    "GHE WITH MIDDLE HOOK;ZHE WITH DESCENDER;ZE WITH DESCENDER;KA WITH DESCENDER",
    "KA WITH VERTICAL STROKE;KA WITH STROKE;BASHKIR KA;EN WITH DESCENDER"]⟩,
  ⟨0x48b, 2, "CYRILLIC SMALL LETTER ", [
    "SHORT I WITH TAIL;SEMISOFT SIGN;ER WITH TICK;GHE WITH UPTURN;GHE WITH STROKE",
    "GHE WITH MIDDLE HOOK;ZHE WITH DESCENDER;ZE WITH DESCENDER;KA WITH DESCENDER",
    "KA WITH VERTICAL STROKE;KA WITH STROKE;BASHKIR KA;EN WITH DESCENDER"]⟩,
  ⟨0x4a4, 1, "CYRILLIC ", ["CAPITAL LIGATURE EN GHE;SMALL LIGATURE EN GHE"]⟩,
  ⟨0x4a6, 2, "CYRILLIC CAPITAL LETTER ", [
    "PE WITH MIDDLE HOOK;ABKHASIAN HA;ES WITH DESCENDER;TE WITH DESCENDER;STRAIGHT U",
    "STRAIGHT U WITH STROKE;HA WITH DESCENDER"]⟩,
  ⟨0x4a7, 2, "CYRILLIC SMALL LETTER ", [
    "PE WITH MIDDLE HOOK;ABKHASIAN HA;ES WITH DESCENDER;TE WITH DESCENDER;STRAIGHT U",
    "STRAIGHT U WITH STROKE;HA WITH DESCENDER"]⟩,
  ⟨0x4b4, 1, "CYRILLIC ", ["CAPITAL LIGATURE TE TSE;SMALL LIGATURE TE TSE"]⟩,
  ⟨0x4b6, 2, "CYRILLIC CAPITAL LETTER ", [
    "CHE WITH DESCENDER;CHE WITH VERTICAL STROKE;SHHA;ABKHASIAN CHE",
    "ABKHASIAN CHE WITH DESCENDER"]⟩,
  ⟨0x4b7, 2, "CYRILLIC SMALL LETTER ", [
    "CHE WITH DESCENDER;CHE WITH VERTICAL STROKE;SHHA;ABKHASIAN CHE",
    "ABKHASIAN CHE WITH DESCENDER"]⟩,
  ⟨0x4c0, 1, "CYRILLIC ", ["LETTER PALOCHKA"]⟩,
  ⟨0x4c1, 2, "CYRILLIC CAPITAL LETTER ", [
    "ZHE WITH BREVE;KA WITH HOOK;EL WITH TAIL;EN WITH HOOK;EN WITH TAIL;KHAKASSIAN CHE",
    "EM WITH TAIL"]⟩,
  ⟨0x4c2, 2, "CYRILLIC SMALL LETTER ", [
    "ZHE WITH BREVE;KA WITH HOOK;EL WITH TAIL;EN WITH HOOK;EN WITH TAIL;KHAKASSIAN CHE",
    "EM WITH TAIL"]⟩,
  ⟨0x4cf, 2, "CYRILLIC SMALL LETTER ", ["PALOCHKA;A WITH BREVE;A WITH DIAERESIS"]⟩,
  ⟨0x4d0, 2, "CYRILLIC CAPITAL LETTER ", ["A WITH BREVE;A WITH DIAERESIS"]⟩,
  ⟨0x4d4, 1, "CYRILLIC ", ["CAPITAL LIGATURE A IE;SMALL LIGATURE A IE"]⟩,
  ⟨0x4d6, 2, "CYRILLIC CAPITAL LETTER ", [
    "IE WITH BREVE;SCHWA;SCHWA WITH DIAERESIS;ZHE WITH DIAERESIS;ZE WITH DIAERESIS",
    "ABKHASIAN DZE;I WITH MACRON;I WITH DIAERESIS;O WITH DIAERESIS;BARRED O",
    "BARRED O WITH DIAERESIS;E WITH DIAERESIS;U WITH MACRON;U WITH DIAERESIS",
    "U WITH DOUBLE ACUTE;CHE WITH DIAERESIS;GHE WITH DESCENDER;YERU WITH DIAERESIS",
    "GHE WITH STROKE AND HOOK;HA WITH HOOK;HA WITH STROKE;KOMI DE;KOMI DJE;KOMI ZJE;KOMI DZJE",
    "KOMI LJE;KOMI NJE;KOMI SJE;KOMI TJE;REVERSED ZE;EL WITH HOOK;LHA;RHA;YAE;QA;WE;ALEUT KA",
    "EL WITH MIDDLE HOOK;EN WITH MIDDLE HOOK;PE WITH DESCENDER;SHHA WITH DESCENDER",
    "EN WITH LEFT HOOK;DZZHE;DCHE;EL WITH DESCENDER"]⟩,
  ⟨0x4d7, 2, "CYRILLIC SMALL LETTER ", [
    "IE WITH BREVE;SCHWA;SCHWA WITH DIAERESIS;ZHE WITH DIAERESIS;ZE WITH DIAERESIS",
    "ABKHASIAN DZE;I WITH MACRON;I WITH DIAERESIS;O WITH DIAERESIS;BARRED O",
    "BARRED O WITH DIAERESIS;E WITH DIAERESIS;U WITH MACRON;U WITH DIAERESIS",
    "U WITH DOUBLE ACUTE;CHE WITH DIAERESIS;GHE WITH DESCENDER;YERU WITH DIAERESIS",
    "GHE WITH STROKE AND HOOK;HA WITH HOOK;HA WITH STROKE;KOMI DE;KOMI DJE;KOMI ZJE;KOMI DZJE",
    "KOMI LJE;KOMI NJE;KOMI SJE;KOMI TJE;REVERSED ZE;EL WITH HOOK;LHA;RHA;YAE;QA;WE;ALEUT KA",
    "EL WITH MIDDLE HOOK;EN WITH MIDDLE HOOK;PE WITH DESCENDER;SHHA WITH DESCENDER",
    "EN WITH LEFT HOOK;DZZHE;DCHE;EL WITH DESCENDER"]⟩]

end Dialogue.Text.Name
