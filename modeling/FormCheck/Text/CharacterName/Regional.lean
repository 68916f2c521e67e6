/-! # Regional scripts

The names of scripts from Myanmar to the Philippines, of Ethiopia, Georgia and North America, and
additions to Latin and Greek, in code order.
-/

namespace FormCheck.Text.CharacterName

def regional : List String := [
  "1000 0MYANMAR LETTER KA;2KHA;2GA;2GHA;2NGA;2CA;2CHA;2JA;2JHA;2NYA;2NNYA;2TTA;2TTHA;2DDA;2DDHA",
  "100F 2NNA;2TA;2THA;2DA;2DHA;2NA;2PA;2PHA;2BA;2BHA;2MA;2YA;2RA;2LA;2WA;2SA;2HA;2LLA;2A;2SHAN A",
  "1023 2I;2II;2U;2UU;2E;2MON E;2O;2AU;1VOWEL SIGN TALL AA;3AA;3I;3II;3U;3UU;3E;3AI;3MON II;4O",
  "1035 3E ABOVE;1SIGN ANUSVARA;2DOT BELOW;2VISARGA;2VIRAMA;2ASAT;1CONSONANT SIGN MEDIAL YA;4RA",
  "103D 4WA;4HA;1LETTER GREAT SA;1DIGIT ZERO;2ONE;2TWO;2THREE;2FOUR;2FIVE;2SIX;2SEVEN;2EIGHT;2NINE",
  "104A 1SIGN LITTLE SECTION;2SECTION;1SYMBOL LOCATIVE;2COMPLETED;2AFOREMENTIONED;2GENITIVE",
  "1050 1LETTER SHA;2SSA;2VOCALIC R;3RR;3L;3LL;1VOWEL SIGN VOCALIC R;4RR;4L;4LL;1LETTER MON NGA",
  "105B 3JHA;3BBA;3BBE;1CONSONANT SIGN MON MEDIAL NA;5MA;5LA;1LETTER SGAW KAREN SHA",
  "1062 1VOWEL SIGN SGAW KAREN EU;1TONE MARK SGAW KAREN HATHI;5KE PHO",
  "1065 1LETTER WESTERN PWO KAREN THA;5PWA;1VOWEL SIGN WESTERN PWO KAREN EU;6UE",
  "1069 1SIGN WESTERN PWO KAREN TONE-1;62;63;64;65;1LETTER EASTERN PWO KAREN NNA;5YWA;5GHWA",
  "1071 1VOWEL SIGN GEBA KAREN I;3KAYAH OE;4U;4EE;1LETTER SHAN KA;3KHA;3GA;3CA;3ZA;3NYA;3DA;3NA",
  "107D 3PHA;3FA;3BA;3THA;3HA;1CONSONANT SIGN SHAN MEDIAL WA;1VOWEL SIGN SHAN AA;4E;4E ABOVE",
  "1086 4FINAL Y;1SIGN SHAN TONE-2;43;45;46;3COUNCIL TONE-2;53;4EMPHATIC TONE",
  "108E 1LETTER RUMAI PALAUNG FA;1SIGN RUMAI PALAUNG TONE-5;1SHAN DIGIT ZERO;3ONE;3TWO;3THREE",
  "1094 3FOUR;3FIVE;3SIX;3SEVEN;3EIGHT;3NINE;1SIGN KHAMTI TONE-1;43;1VOWEL SIGN AITON A;4AI",
  "109E 1SYMBOL SHAN ONE;3EXCLAMATION;0GEORGIAN CAPITAL LETTER AN;3BAN;3GAN;3DON;3EN;3VIN;3ZEN",
  "10A7 3TAN;3IN;3KAN;3LAS;3MAN;3NAR;3ON;3PAR;3ZHAR;3RAE;3SAN;3TAR;3UN;3PHAR;3KHAR;3GHAN;3QAR",
  "10B8 3SHIN;3CHIN;3CAN;3JIL;3CIL;3CHAR;3XAN;3JHAN;3HAE;3HE;3HIE;3WE;3HAR;3HOE",
  "10C7 3YN",
  "10CD 3AEN",
  "10D0 1LETTER AN;2BAN;2GAN;2DON;2EN;2VIN;2ZEN;2TAN;2IN;2KAN;2LAS;2MAN;2NAR;2ON;2PAR;2ZHAR;2RAE",
  "10E1 2SAN;2TAR;2UN;2PHAR;2KHAR;2GHAN;2QAR;2SHIN;2CHIN;2CAN;2JIL;2CIL;2CHAR;2XAN;2JHAN;2HAE;2HE",
  "10F2 2HIE;2WE;2HAR;2HOE;2FI;2YN;2ELIFI;2TURNED GAN;2AIN;1PARAGRAPH SEPARATOR",
  "10FC 0MODIFIER LETTER GEORGIAN NAR;0GEORGIAN LETTER AEN;2HARD SIGN;2LABIAL SIGN",
  "1100 0HANGUL CHOSEONG KIYEOK;2SSANGKIYEOK;2NIEUN;2TIKEUT;2SSANGTIKEUT;2RIEUL;2MIEUM;2PIEUP",
  "1108 2SSANGPIEUP;2SIOS;2SSANGSIOS;2IEUNG;2CIEUC;2SSANGCIEUC;2CHIEUCH;2KHIEUKH;2THIEUTH;2PHIEUPH",
  "1112 2HIEUH;2NIEUN-KIYEOK;2SSANGNIEUN;2NIEUN-TIKEUT;3PIEUP;2TIKEUT-KIYEOK;2RIEUL-NIEUN",
  "1119 2SSANGRIEUL;2RIEUL-HIEUH;2KAPYEOUNRIEUL;2MIEUM-PIEUP;2KAPYEOUNMIEUM;2PIEUP-KIYEOK;3NIEUN",
  "1120 3TIKEUT;3SIOS;3SIOS-KIYEOK;4TIKEUT;4PIEUP;3SSANGSIOS;3SIOS-CIEUC;3CIEUC;3CHIEUCH;3THIEUTH",
  "112A 3PHIEUPH;2KAPYEOUNPIEUP;2KAPYEOUNSSANGPIEUP;2SIOS-KIYEOK;3NIEUN;3TIKEUT;3RIEUL;3MIEUM",
  "1132 3PIEUP;3PIEUP-KIYEOK;3SSANGSIOS;3IEUNG;3CIEUC;3CHIEUCH;3KHIEUKH;3THIEUTH;3PHIEUPH;3HIEUH",
  "113C 2CHITUEUMSIOS;2CHITUEUMSSANGSIOS;2CEONGCHIEUMSIOS;2CEONGCHIEUMSSANGSIOS;2PANSIOS",
  "1141 2IEUNG-KIYEOK;3TIKEUT;3MIEUM;3PIEUP;3SIOS;3PANSIOS;2SSANGIEUNG;2IEUNG-CIEUC;3CHIEUCH",
  "114A 3THIEUTH;3PHIEUPH;2YESIEUNG;2CIEUC-IEUNG;2CHITUEUMCIEUC;2CHITUEUMSSANGCIEUC",
  "1150 2CEONGCHIEUMCIEUC;2CEONGCHIEUMSSANGCIEUC;2CHIEUCH-KHIEUKH;3HIEUH;2CHITUEUMCHIEUCH",
  "1155 2CEONGCHIEUMCHIEUCH;2PHIEUPH-PIEUP;2KAPYEOUNPHIEUPH;2SSANGHIEUH;2YEORINHIEUH",
  "115A 2KIYEOK-TIKEUT;2NIEUN-SIOS;3CIEUC;3HIEUH;2TIKEUT-RIEUL;2FILLER;1JUNGSEONG FILLER;2A;2AE",
  "1163 2YA;2YAE;2EO;2E;2YEO;2YE;2O;2WA;2WAE;2OE;2YO;2U;2WEO;2WE;2WI;2YU;2EU;2YI;2I;2A-O;3U;2YA-O",
  "1179 3YO;2EO-O;3U;3EU;2YEO-O;3U;2O-EO;3E;3YE;3O;3U;2YO-YA;3YAE;3YEO;3O;3I;2U-A;3AE;3EO-EU;3YE",
  "118D 3U;2YU-A;3EO;3E;3YEO;3YE;3U;3I;2EU-U;3EU;2YI-U;2I-A;3YA;3O;3U;3EU;3ARAEA;2ARAEA;2ARAEA-EO",
  "11A0 3U;3I;2SSANGARAEA;2A-EU;2YA-U;2YEO-YA;2O-YA;3YAE;1JONGSEONG KIYEOK;2SSANGKIYEOK",
  "11AA 2KIYEOK-SIOS;2NIEUN;2NIEUN-CIEUC;3HIEUH;2TIKEUT;2RIEUL;2RIEUL-KIYEOK;3MIEUM;3PIEUP;3SIOS",
  "11B4 3THIEUTH;3PHIEUPH;3HIEUH;2MIEUM;2PIEUP;2PIEUP-SIOS;2SIOS;2SSANGSIOS;2IEUNG;2CIEUC;2CHIEUCH",
  "11BF 2KHIEUKH;2THIEUTH;2PHIEUPH;2HIEUH;2KIYEOK-RIEUL;3SIOS-KIYEOK;2NIEUN-KIYEOK;3TIKEUT;3SIOS",
  "11C8 3PANSIOS;3THIEUTH;2TIKEUT-KIYEOK;3RIEUL;2RIEUL-KIYEOK-SIOS;3NIEUN;3TIKEUT;3TIKEUT-HIEUH",
  "11D0 2SSANGRIEUL;2RIEUL-MIEUM-KIYEOK;4SIOS;3PIEUP-SIOS;4HIEUH;3KAPYEOUNPIEUP;3SSANGSIOS",
  "11D7 3PANSIOS;3KHIEUKH;3YEORINHIEUH;2MIEUM-KIYEOK;3RIEUL;3PIEUP;3SIOS;3SSANGSIOS;3PANSIOS",
  "11E0 3CHIEUCH;3HIEUH;2KAPYEOUNMIEUM;2PIEUP-RIEUL;3PHIEUPH;3HIEUH;2KAPYEOUNPIEUP;2SIOS-KIYEOK",
  "11E8 3TIKEUT;3RIEUL;3PIEUP;2PANSIOS;2IEUNG-KIYEOK;3SSANGKIYEOK;2SSANGIEUNG;2IEUNG-KHIEUKH",
  "11F0 2YESIEUNG;2YESIEUNG-SIOS;3PANSIOS;2PHIEUPH-PIEUP;2KAPYEOUNPHIEUPH;2HIEUH-NIEUN;3RIEUL",
  "11F7 3MIEUM;3PIEUP;2YEORINHIEUH;2KIYEOK-NIEUN;3PIEUP;3CHIEUCH;3KHIEUKH;3HIEUH;2SSANGNIEUN",
  "1200 0ETHIOPIC SYLLABLE HA;2HU;2HI;2HAA;2HEE;2HE;2HO;2HOA;2LA;2LU;2LI;2LAA;2LEE;2LE;2LO;2LWA",
  "1210 2HHA;2HHU;2HHI;2HHAA;2HHEE;2HHE;2HHO;2HHWA;2MA;2MU;2MI;2MAA;2MEE;2ME;2MO;2MWA;2SZA;2SZU",
  "1222 2SZI;2SZAA;2SZEE;2SZE;2SZO;2SZWA;2RA;2RU;2RI;2RAA;2REE;2RE;2RO;2RWA;2SA;2SU;2SI;2SAA;2SEE",
  "1235 2SE;2SO;2SWA;2SHA;2SHU;2SHI;2SHAA;2SHEE;2SHE;2SHO;2SHWA;2QA;2QU;2QI;2QAA;2QEE;2QE;2QO;2QOA",
  "1248 2QWA",
  "124A 2QWI;2QWAA;2QWEE;2QWE",
  "1250 2QHA;2QHU;2QHI;2QHAA;2QHEE;2QHE;2QHO",
  "1258 2QHWA",
  "125A 2QHWI;2QHWAA;2QHWEE;2QHWE",
  "1260 2BA;2BU;2BI;2BAA;2BEE;2BE;2BO;2BWA;2VA;2VU;2VI;2VAA;2VEE;2VE;2VO;2VWA;2TA;2TU;2TI;2TAA",
  "1274 2TEE;2TE;2TO;2TWA;2CA;2CU;2CI;2CAA;2CEE;2CE;2CO;2CWA;2XA;2XU;2XI;2XAA;2XEE;2XE;2XO;2XOA",
  "1288 2XWA",
  "128A 2XWI;2XWAA;2XWEE;2XWE",
  "1290 2NA;2NU;2NI;2NAA;2NEE;2NE;2NO;2NWA;2NYA;2NYU;2NYI;2NYAA;2NYEE;2NYE;2NYO;2NYWA;2GLOTTAL A",
  "12A1 3U;3I;3AA;3EE;3E;3O;3WA;2KA;2KU;2KI;2KAA;2KEE;2KE;2KO;2KOA;2KWA",
  "12B2 2KWI;2KWAA;2KWEE;2KWE",
  "12B8 2KXA;2KXU;2KXI;2KXAA;2KXEE;2KXE;2KXO",
  "12C0 2KXWA",
  "12C2 2KXWI;2KXWAA;2KXWEE;2KXWE",
  "12C8 2WA;2WU;2WI;2WAA;2WEE;2WE;2WO;2WOA;2PHARYNGEAL A;3U;3I;3AA;3EE;3E;3O",
  "12D8 2ZA;2ZU;2ZI;2ZAA;2ZEE;2ZE;2ZO;2ZWA;2ZHA;2ZHU;2ZHI;2ZHAA;2ZHEE;2ZHE;2ZHO;2ZHWA;2YA;2YU;2YI",
  "12EB 2YAA;2YEE;2YE;2YO;2YOA;2DA;2DU;2DI;2DAA;2DEE;2DE;2DO;2DWA;2DDA;2DDU;2DDI;2DDAA;2DDEE;2DDE",
  "12FE 2DDO;2DDWA;2JA;2JU;2JI;2JAA;2JEE;2JE;2JO;2JWA;2GA;2GU;2GI;2GAA;2GEE;2GE;2GO;2GOA;2GWA",
  "1312 2GWI;2GWAA;2GWEE;2GWE",
  "1318 2GGA;2GGU;2GGI;2GGAA;2GGEE;2GGE;2GGO;2GGWAA;2THA;2THU;2THI;2THAA;2THEE;2THE;2THO;2THWA",
  "1328 2CHA;2CHU;2CHI;2CHAA;2CHEE;2CHE;2CHO;2CHWA;2PHA;2PHU;2PHI;2PHAA;2PHEE;2PHE;2PHO;2PHWA;2TSA",
  "1339 2TSU;2TSI;2TSAA;2TSEE;2TSE;2TSO;2TSWA;2TZA;2TZU;2TZI;2TZAA;2TZEE;2TZE;2TZO;2TZOA;2FA;2FU",
  "134A 2FI;2FAA;2FEE;2FE;2FO;2FWA;2PA;2PU;2PI;2PAA;2PEE;2PE;2PO;2PWA;2RYA;2MYA;2FYA",
  "135D 1COMBINING GEMINATION AND VOWEL LENGTH MARK;2VOWEL LENGTH MARK;2GEMINATION MARK",
  "1360 1SECTION MARK;1WORDSPACE;1FULL STOP;1COMMA;1SEMICOLON;1COLON;1PREFACE COLON;1QUESTION MARK",
  "1368 1PARAGRAPH SEPARATOR;1DIGIT ONE;2TWO;2THREE;2FOUR;2FIVE;2SIX;2SEVEN;2EIGHT;2NINE",
  "1372 1NUMBER TEN;2TWENTY;2THIRTY;2FORTY;2FIFTY;2SIXTY;2SEVENTY;2EIGHTY;2NINETY;2HUNDRED",
  "137C 2TEN THOUSAND",
  "1380 1SYLLABLE SEBATBEIT MWA;2MWI;2MWEE;2MWE;2SEBATBEIT BWA;2BWI;2BWEE;2BWE;2SEBATBEIT FWA;2FWI",
  "138A 2FWEE;2FWE;2SEBATBEIT PWA;2PWI;2PWEE;2PWE;1TONAL MARK YIZET;3DERET;3RIKRIK;3SHORT RIKRIK",
  "1394 3DIFAT;3KENAT;3CHIRET;3HIDET;3DERET-HIDET;3KURT",
  "13A0 0CHEROKEE LETTER A;2E;2I;2O;2U;2V;2GA;2KA;2GE;2GI;2GO;2GU;2GV;2HA;2HE;2HI;2HO;2HU;2HV;2LA",
  "13B4 2LE;2LI;2LO;2LU;2LV;2MA;2ME;2MI;2MO;2MU;2NA;2HNA;2NAH;2NE;2NI;2NO;2NU;2NV;2QUA;2QUE;2QUI",
  "13C9 2QUO;2QUU;2QUV;2SA;2S;2SE;2SI;2SO;2SU;2SV;2DA;2TA;2DE;2TE;2DI;2TI;2DO;2DU;2DV;2DLA;2TLA",
  "13DE 2TLE;2TLI;2TLO;2TLU;2TLV;2TSA;2TSE;2TSI;2TSO;2TSU;2TSV;2WA;2WE;2WI;2WO;2WU;2WV;2YA;2YE;2YI",
  "13F2 2YO;2YU;2YV;2MV",
  "13F8 1SMALL LETTER YE;3YI;3YO;3YU;3YV;3MV",
  "1400 0CANADIAN SYLLABICS HYPHEN;2E;2AAI;2I;2II;2O;2OO;2Y-CREE OO;2CARRIER EE;3I;2A;2AA;2WE",
  "140D 2WEST-CREE WE;2WI;2WEST-CREE WI;2WII;2WEST-CREE WII;2WO;2WEST-CREE WO;2WOO;2WEST-CREE WOO",
  "1416 2NASKAPI WOO;2WA;2WEST-CREE WA;2WAA;2WEST-CREE WAA;2NASKAPI WAA;2AI;2Y-CREE W",
  "141E 2GLOTTAL STOP;2FINAL ACUTE;3GRAVE;3BOTTOM HALF RING;3TOP HALF RING;3RIGHT HALF RING;3RING",
  "1425 3DOUBLE ACUTE;4SHORT VERTICAL STROKES;3MIDDLE DOT;3SHORT HORIZONTAL STROKE;3PLUS",
  "142A 3DOWN TACK;2EN;2IN;2ON;2AN;2PE;2PAAI;2PI;2PII;2PO;2POO;2Y-CREE POO;2CARRIER HEE;3HI;2PA",
  "1439 2PAA;2PWE;2WEST-CREE PWE;2PWI;2WEST-CREE PWI;2PWII;2WEST-CREE PWII;2PWO;2WEST-CREE PWO",
  "1442 2PWOO;2WEST-CREE PWOO;2PWA;2WEST-CREE PWA;2PWAA;2WEST-CREE PWAA;2Y-CREE PWAA;2P",
  "144A 2WEST-CREE P;2CARRIER H;2TE;2TAAI;2TI;2TII;2TO;2TOO;2Y-CREE TOO;2CARRIER DEE;3DI;2TA;2TAA",
  "1457 2TWE;2WEST-CREE TWE;2TWI;2WEST-CREE TWI;2TWII;2WEST-CREE TWII;2TWO;2WEST-CREE TWO;2TWOO",
  "1460 2WEST-CREE TWOO;2TWA;2WEST-CREE TWA;2TWAA;2WEST-CREE TWAA;2NASKAPI TWAA;2T;2TTE;2TTI;2TTO",
  "146A 2TTA;2KE;2KAAI;2KI;2KII;2KO;2KOO;2Y-CREE KOO;2KA;2KAA;2KWE;2WEST-CREE KWE;2KWI",
  "1477 2WEST-CREE KWI;2KWII;2WEST-CREE KWII;2KWO;2WEST-CREE KWO;2KWOO;2WEST-CREE KWOO;2KWA",
  "147F 2WEST-CREE KWA;2KWAA;2WEST-CREE KWAA;2NASKAPI KWAA;2K;2KW;2SOUTH-SLAVEY KEH;4KIH;4KOH;4KAH",
  "1489 2CE;2CAAI;2CI;2CII;2CO;2COO;2Y-CREE COO;2CA;2CAA;2CWE;2WEST-CREE CWE;2CWI;2WEST-CREE CWI",
  "1496 2CWII;2WEST-CREE CWII;2CWO;2WEST-CREE CWO;2CWOO;2WEST-CREE CWOO;2CWA;2WEST-CREE CWA;2CWAA",
  "149F 2WEST-CREE CWAA;2NASKAPI CWAA;2C;2SAYISI TH;2ME;2MAAI;2MI;2MII;2MO;2MOO;2Y-CREE MOO;2MA",
  "14AB 2MAA;2MWE;2WEST-CREE MWE;2MWI;2WEST-CREE MWI;2MWII;2WEST-CREE MWII;2MWO;2WEST-CREE MWO",
  "14B4 2MWOO;2WEST-CREE MWOO;2MWA;2WEST-CREE MWA;2MWAA;2WEST-CREE MWAA;2NASKAPI MWAA;2M",
  "14BC 2WEST-CREE M;2MH;2ATHAPASCAN M;2SAYISI M;2NE;2NAAI;2NI;2NII;2NO;2NOO;2Y-CREE NOO;2NA;2NAA",
  "14C9 2NWE;2WEST-CREE NWE;2NWA;2WEST-CREE NWA;2NWAA;2WEST-CREE NWAA;2NASKAPI NWAA;2N;2CARRIER NG",
  "14D2 2NH;2LE;2LAAI;2LI;2LII;2LO;2LOO;2Y-CREE LOO;2LA;2LAA;2LWE;2WEST-CREE LWE;2LWI",
  "14DF 2WEST-CREE LWI;2LWII;2WEST-CREE LWII;2LWO;2WEST-CREE LWO;2LWOO;2WEST-CREE LWOO;2LWA",
  "14E7 2WEST-CREE LWA;2LWAA;2WEST-CREE LWAA;2L;2WEST-CREE L;2MEDIAL L;2SE;2SAAI;2SI;2SII;2SO;2SOO",
  "14F3 2Y-CREE SOO;2SA;2SAA;2SWE;2WEST-CREE SWE;2SWI;2WEST-CREE SWI;2SWII;2WEST-CREE SWII;2SWO",
  "14FD 2WEST-CREE SWO;2SWOO;2WEST-CREE SWOO;2SWA;2WEST-CREE SWA;2SWAA;2WEST-CREE SWAA",
  "1504 2NASKAPI SWAA;2S;2ATHAPASCAN S;2SW;2BLACKFOOT S;2MOOSE-CREE SK;2NASKAPI SKW;3S-W;3SPWA",
  "150D 3STWA;3SKWA;3SCWA;2SHE;2SHI;2SHII;2SHO;2SHOO;2SHA;2SHAA;2SHWE;2WEST-CREE SHWE;2SHWI",
  "151A 2WEST-CREE SHWI;2SHWII;2WEST-CREE SHWII;2SHWO;2WEST-CREE SHWO;2SHWOO;2WEST-CREE SHWOO",
  "1521 2SHWA;2WEST-CREE SHWA;2SHWAA;2WEST-CREE SHWAA;2SH;2YE;2YAAI;2YI;2YII;2YO;2YOO;2Y-CREE YOO",
  "152D 2YA;2YAA;2YWE;2WEST-CREE YWE;2YWI;2WEST-CREE YWI;2YWII;2WEST-CREE YWII;2YWO;2WEST-CREE YWO",
  "1537 2YWOO;2WEST-CREE YWOO;2YWA;2WEST-CREE YWA;2YWAA;2WEST-CREE YWAA;2NASKAPI YWAA;2Y",
  "153F 2BIBLE-CREE Y;2WEST-CREE Y;2SAYISI YI;2RE;2R-CREE RE;2WEST-CREE LE;2RAAI;2RI;2RII;2RO;2ROO",
  "154A 2WEST-CREE LO;2RA;2RAA;2WEST-CREE LA;2RWAA;2WEST-CREE RWAA;2R;2WEST-CREE R;2MEDIAL R;2FE",
  "1554 2FAAI;2FI;2FII;2FO;2FOO;2FA;2FAA;2FWAA;2WEST-CREE FWAA;2F;2THE;2N-CREE THE;2THI",
  "1561 2N-CREE THI;2THII;2N-CREE THII;2THO;2THOO;2THA;2THAA;2THWAA;2WEST-CREE THWAA;2TH;2TTHE",
  "156C 2TTHI;2TTHO;2TTHA;2TTH;2TYE;2TYI;2TYO;2TYA;2NUNAVIK HE;3HI;3HII;3HO;3HOO;3HA;3HAA;3H",
  "157C 2NUNAVUT H;2HK;2QAAI;2QI;2QII;2QO;2QOO;2QA;2QAA;2Q;2TLHE;2TLHI;2TLHO;2TLHA;2WEST-CREE RE",
  "158B 4RI;4RO;4RA;2NGAAI;2NGI;2NGII;2NGO;2NGOO;2NGA;2NGAA;2NG;2NNG;2SAYISI SHE;3SHI;3SHO;3SHA",
  "159B 2WOODS-CREE THE;4THI;4THO;4THA;4TH;2LHI;2LHII;2LHO;2LHOO;2LHA;2LHAA;2LH;2TH-CREE THE;4THI",
  "15A9 4THII;4THO;4THOO;4THA;4THAA;4TH;2AIVILIK B;2BLACKFOOT E;3I;3O;3A;3WE;3WI;3WO;3WA;3NE;3NI",
  "15BA 3NO;3NA;3KE;3KI;3KO;3KA;2SAYISI HE;3HI;3HO;3HA;2CARRIER GHU;3GHO;3GHE;3GHEE;3GHI;3GHA;3RU",
  "15CB 3RO;3RE;3REE;3RI;3RA;3WU;3WO;3WE;3WEE;3WI;3WA;3HWU;3HWO;3HWE;3HWEE;3HWI;3HWA;3THU;3THO",
  "15DE 3THE;3THEE;3THI;3THA;3TTU;3TTO;3TTE;3TTEE;3TTI;3TTA;3PU;3PO;3PE;3PEE;3PI;3PA;3P;3GU;3GO",
  "15F1 3GE;3GEE;3GI;3GA;3KHU;3KHO;3KHE;3KHEE;3KHI;3KHA;3KKU;3KKO;3KKE;3KKEE;3KKI;3KKA;3KK;3NU;3NO",
  "1604 3NE;3NEE;3NI;3NA;3MU;3MO;3ME;3MEE;3MI;3MA;3YU;3YO;3YE;3YEE;3YI;3YA;3JU;2SAYISI JU",
  "1616 2CARRIER JO;3JE;3JEE;3JI;2SAYISI JI;2CARRIER JA;3JJU;3JJO;3JJE;3JJEE;3JJI;3JJA;3LU;3LO;3LE",
  "1625 3LEE;3LI;3LA;3DLU;3DLO;3DLE;3DLEE;3DLI;3DLA;3LHU;3LHO;3LHE;3LHEE;3LHI;3LHA;3TLHU;3TLHO",
  "1636 3TLHE;3TLHEE;3TLHI;3TLHA;3TLU;3TLO;3TLE;3TLEE;3TLI;3TLA;3ZU;3ZO;3ZE;3ZEE;3ZI;3ZA;3Z",
  "1647 3INITIAL Z;3DZU;3DZO;3DZE;3DZEE;3DZI;3DZA;3SU;3SO;3SE;3SEE;3SI;3SA;3SHU;3SHO;3SHE;3SHEE",
  "1658 3SHI;3SHA;3SH;3TSU;3TSO;3TSE;3TSEE;3TSI;3TSA;3CHU;3CHO;3CHE;3CHEE;3CHI;3CHA;3TTSU;3TTSO",
  "1669 3TTSE;3TTSEE;3TTSI;3TTSA;2CHI SIGN;2FULL STOP;2QAI;2NGAI;2NNGI;2NNGII;2NNGO;2NNGOO;2NNGA",
  "1676 2NNGAA;2WOODS-CREE THWEE;4THWI;4THWII;4THWO;4THWOO;4THWA;4THWAA;4FINAL TH;2BLACKFOOT W",
  "1680 0OGHAM SPACE MARK;1LETTER BEITH;2LUIS;2FEARN;2SAIL;2NION;2UATH;2DAIR;2TINNE;2COLL;2CEIRT",
  "168B 2MUIN;2GORT;2NGEADAL;2STRAIF;2RUIS;2AILM;2ONN;2UR;2EADHADH;2IODHADH;2EABHADH;2OR;2UILLEANN",
  "1698 2IFIN;2EAMHANCHOLL;2PEITH;1FEATHER MARK;1REVERSED FEATHER MARK",
  "16A0 0RUNIC LETTER FEHU FEOH FE F;2V;2URUZ UR U;2YR;2Y;2W;2THURISAZ THURS THORN;2ETH;2ANSUZ A",
  "16A9 2OS O;2AC A;2AESC;2LONG-BRANCH-OSS O;2SHORT-TWIG-OSS O;2O;2OE;2ON;2RAIDO RAD REID R;2KAUNA",
  "16B3 2CEN;2KAUN K;2G;2ENG;2GEBO GYFU G;2GAR;2WUNJO WYNN W;2HAGLAZ H;2HAEGL H",
  "16BC 2LONG-BRANCH-HAGALL H;2SHORT-TWIG-HAGALL H;2NAUDIZ NYD NAUD N;2SHORT-TWIG-NAUD N;2DOTTED-N",
  "16C1 2ISAZ IS ISS I;2E;2JERAN J;2GER;2LONG-BRANCH-AR AE;2SHORT-TWIG-AR A;2IWAZ EOH",
  "16C8 2PERTHO PEORTH P;2ALGIZ EOLHX;2SOWILO S;2SIGEL LONG-BRANCH-SOL S;2SHORT-TWIG-SOL S;2C;2Z",
  "16CF 2TIWAZ TIR TYR T;2SHORT-TWIG-TYR T;2D;2BERKANAN BEORC BJARKAN B;2SHORT-TWIG-BJARKAN B",
  "16D4 2DOTTED-P;2OPEN-P;2EHWAZ EH E;2MANNAZ MAN M;2LONG-BRANCH-MADR M;2SHORT-TWIG-MADR M",
  "16DA 2LAUKAZ LAGU LOGR L;2DOTTED-L;2INGWAZ;2ING;2DAGAZ DAEG D;2OTHALAN ETHEL O;2EAR;2IOR",
  "16E2 2CWEORTH;2CALC;2CEALC;2STAN;2LONG-BRANCH-YR;2SHORT-TWIG-YR;2ICELANDIC-YR;2Q;2X",
  "16EB 1SINGLE PUNCTUATION;1MULTIPLE PUNCTUATION;1CROSS PUNCTUATION;1ARLAUG SYMBOL",
  "16EF 1TVIMADUR SYMBOL;1BELGTHOR SYMBOL;1LETTER K;2SH;2OO;2FRANKS CASKET OS;4IS;4EH;4AC;4AESC",
  "1700 0TAGALOG LETTER A;2I;2U;2KA;2GA;2NGA;2TA;2DA;2NA;2PA;2BA;2MA;2YA;2RA;2LA;2WA;2SA;2HA",
  "1712 1VOWEL SIGN I;3U;1SIGN VIRAMA;2PAMUDPOD",
  "171F 1LETTER ARCHAIC RA;0HANUNOO LETTER A;2I;2U;2KA;2GA;2NGA;2TA;2DA;2NA;2PA;2BA;2MA;2YA;2RA",
  "172E 2LA;2WA;2SA;2HA;1VOWEL SIGN I;3U;1SIGN PAMUDPOD;0PHILIPPINE SINGLE PUNCTUATION",
  "1736 1DOUBLE PUNCTUATION",
  "1740 0BUHID LETTER A;2I;2U;2KA;2GA;2NGA;2TA;2DA;2NA;2PA;2BA;2MA;2YA;2RA;2LA;2WA;2SA;2HA",
  "1752 1VOWEL SIGN I;3U",
  "1760 0TAGBANWA LETTER A;2I;2U;2KA;2GA;2NGA;2TA;2DA;2NA;2PA;2BA;2MA;2YA",
  "176E 2LA;2WA;2SA",
  "1772 1VOWEL SIGN I;3U",
  "1780 0KHMER LETTER KA;2KHA;2KO;2KHO;2NGO;2CA;2CHA;2CO;2CHO;2NYO;2DA;2TTHA;2DO;2TTHO;2NNO;2TA",
  "1790 2THA;2TO;2THO;2NO;2BA;2PHA;2PO;2PHO;2MO;2YO;2RO;2LO;2VO;2SHA;2SSO;2SA;2HA;2LA;2QA",
  "17A3 1INDEPENDENT VOWEL QAQ;3QAA;3QI;3QII;3QU;3QUK;3QUU;3QUUV;3RY;3RYY;3LY;3LYY;3QE;3QAI",
  "17B1 3QOO TYPE ONE;5TWO;3QAU;1VOWEL INHERENT AQ;3AA;2SIGN AA;3I;3II;3Y;3YY;3U;3UU;3UA;3OE;3YA",
  "17C0 3IE;3E;3AE;3AI;3OO;3AU;1SIGN NIKAHIT;2REAHMUK;2YUUKALEAPINTU;2MUUSIKATOAN;2TRIISAP;2BANTOC",
  "17CC 2ROBAT;2TOANDAKHIAT;2KAKABAT;2AHSDA;2SAMYOK SANNYA;2VIRIAM;2COENG;2BATHAMASAT;2KHAN",
  "17D5 2BARIYOOSAN;2CAMNUC PII KUUH;2LEK TOO;2BEYYAL;2PHNAEK MUAN;2KOOMUUT;1CURRENCY SYMBOL RIEL",
  "17DC 1SIGN AVAKRAHASANYA;2ATTHACAN",
  "17E0 1DIGIT ZERO;2ONE;2TWO;2THREE;2FOUR;2FIVE;2SIX;2SEVEN;2EIGHT;2NINE",
  "17F0 1SYMBOL LEK ATTAK SON;4MUOY;4PII;4BEI;4BUON;4PRAM;4PRAM-MUOY;5PII;5BEI;5BUON",
  "1800 0MONGOLIAN BIRGA;1ELLIPSIS;1COMMA;1FULL STOP;1COLON;1FOUR DOTS;1TODO SOFT HYPHEN",
  "1807 1SIBE SYLLABLE BOUNDARY MARKER;1MANCHU COMMA;2FULL STOP;1NIRUGU",
  "180B 1FREE VARIATION SELECTOR ONE;4TWO;4THREE;1VOWEL SEPARATOR;1FREE VARIATION SELECTOR FOUR",
  "1810 1DIGIT ZERO;2ONE;2TWO;2THREE;2FOUR;2FIVE;2SIX;2SEVEN;2EIGHT;2NINE",
  "1820 1LETTER A;2E;2I;2O;2U;2OE;2UE;2EE;2NA;2ANG;2BA;2PA;2QA;2GA;2MA;2LA;2SA;2SHA;2TA;2DA;2CHA",
  "1835 2JA;2YA;2RA;2WA;2FA;2KA;2KHA;2TSA;2ZA;2HAA;2ZRA;2LHA;2ZHI;2CHI;2TODO LONG VOWEL SIGN;3E;3I",
  "1846 3O;3U;3OE;3UE;3ANG;3BA;3PA;3QA;3GA;3MA;3TA;3DA;3CHA;3JA;3TSA;3YA;3WA;3KA;3GAA;3HAA;3JIA",
  "185B 3NIA;3DZA;2SIBE E;3I;3IY;3UE;3U;3ANG;3KA;3GA;3HA;3PA;3SHA;3TA;3DA;3JA;3FA;3GAA;3HAA;3TSA",
  "186F 3ZA;3RAA;3CHA;3ZHA;2MANCHU I;3KA;3RA;3FA;3ZHA;2CHA WITH TWO DOTS",
  "1880 2ALI GALI ANUSVARA ONE;4VISARGA ONE;4DAMARU;4UBADAMA;4INVERTED UBADAMA;4BALUDA",
  "1886 4THREE BALUDA;4A;4I;4KA;4NGA;4CA;4TTA;4TTHA;4DDA;4NNA;4TA;4DA;4PA;4PHA;4SSA;4ZHA;4ZA;4AH",
  "1898 2TODO ALI GALI TA;5ZHA;2MANCHU ALI GALI GHA;5NGA;5CA;5JHA;5TTA;5DDHA;5TA;5DHA;5SSA;5CYA",
  "18A4 5ZHA;5ZA;2ALI GALI HALF U;5YA;2MANCHU ALI GALI BHA;2ALI GALI DAGALGA;2MANCHU ALI GALI LHA",
  "18B0 0CANADIAN SYLLABICS OY;2AY;2AAY;2WAY;2POY;2PAY;2PWOY;2TAY;2KAY;2KWAY;2MAY;2NOY;2NAY;2LAY",
  "18BE 2SOY;2SAY;2SHOY;2SHAY;2SHWOY;2YOY;2YAY;2RAY;2NWI;2OJIBWAY NWI;2NWII;2OJIBWAY NWII;2NWO",
  "18CB 2OJIBWAY NWO;2NWOO;2OJIBWAY NWOO;2RWEE;2RWI;2RWII;2RWO;2RWOO;2RWA;2OJIBWAY P;3T;3K;3C;3M",
  "18D9 3N;3S;3SH;2EASTERN W;2WESTERN W;2FINAL SMALL RING;3RAISED DOT;2R-CREE RWE;2WEST-CREE LOO",
  "18E2 4LAA;2THWE;2THWA;2TTHWE;2TTHOO;2TTHAA;2TLHWE;2TLHOO;2SAYISI SHWE;3SHOO;3HOO;2CARRIER GWU",
  "18EE 3DENE GEE;3GAA;3GWA;2SAYISI JUU;2CARRIER JWA;2BEAVER DENE L;4R;2CARRIER DENTAL S",
  "1900 0LIMBU VOWEL-CARRIER LETTER;1LETTER KA;2KHA;2GA;2GHA;2NGA;2CA;2CHA;2JA;2JHA;2YAN;2TA;2THA",
  "190D 2DA;2DHA;2NA;2PA;2PHA;2BA;2BHA;2MA;2YA;2RA;2LA;2WA;2SHA;2SSA;2SA;2HA;2GYAN;2TRA",
  "1920 1VOWEL SIGN A;3I;3U;3EE;3AI;3OO;3AU;3E;3O;1SUBJOINED LETTER YA;3RA;3WA",
  "1930 1SMALL LETTER KA;3NGA;3ANUSVARA;3TA;3NA;3PA;3MA;3RA;3LA;1SIGN MUKPHRENG;2KEMPHRENG;2SA-I",
  "1940 2LOO",
  "1944 1EXCLAMATION MARK;1QUESTION MARK;1DIGIT ZERO;2ONE;2TWO;2THREE;2FOUR;2FIVE;2SIX;2SEVEN",
  "194E 2EIGHT;2NINE;0TAI LE LETTER KA;3XA;3NGA;3TSA;3SA;3YA;3TA;3THA;3LA;3PA;3PHA;3MA;3FA;3VA;3HA",
  "195F 3QA;3KHA;3TSHA;3NA;3A;3I;3EE;3EH;3U;3OO;3O;3UE;3E;3AUE;3AI",
  "1970 3TONE-2;43;44;45;46",
  "1980 0NEW TAI LUE LETTER HIGH QA;4LOW QA;4HIGH KA;5XA;5NGA;4LOW KA;5XA;5NGA;4HIGH TSA;5SA;5YA",
  "198B 4LOW TSA;5SA;5YA;4HIGH TA;5THA;5NA;4LOW TA;5THA;5NA;4HIGH PA;5PHA;5MA;4LOW PA;5PHA;5MA",
  "199A 4HIGH FA;5VA;5LA;4LOW FA;5VA;5LA;4HIGH HA;5DA;5BA;4LOW HA;5DA;5BA;4HIGH KVA;5XVA;4LOW KVA",
  "19A9 5XVA;4HIGH SUA;4LOW SUA",
  "19B0 3VOWEL SIGN VOWEL SHORTENER;5AA;5II;5U;5UU;5E;5AE;5O;5OA;5UE;5AY;5AAY;5UY;5OY;5OAY;5UEY",
  "19C0 5IY;3LETTER FINAL V;5NG;5N;5M;5K;5D;5B;3TONE MARK-1;52",
  "19D0 3DIGIT ZERO;4ONE;4TWO;4THREE;4FOUR;4FIVE;4SIX;4SEVEN;4EIGHT;4NINE;3THAM DIGIT ONE",
  "19DE 3SIGN LAE;4LAEV;0KHMER SYMBOL PATHAMASAT;2MUOY KOET;2PII KOET;2BEI KOET;2BUON KOET",
  "19E5 2PRAM KOET;2PRAM-MUOY KOET;3PII KOET;3BEI KOET;3BUON KOET;2DAP KOET;2DAP-MUOY KOET",
  "19EC 3PII KOET;3BEI KOET;3BUON KOET;3PRAM KOET;2TUTEYASAT;2MUOY ROC;2PII ROC;2BEI ROC;2BUON ROC",
  "19F5 2PRAM ROC;2PRAM-MUOY ROC;3PII ROC;3BEI ROC;3BUON ROC;2DAP ROC;2DAP-MUOY ROC;3PII ROC",
  "19FD 3BEI ROC;3BUON ROC;3PRAM ROC;0BUGINESE LETTER KA;2GA;2NGA;2NGKA;2PA;2BA;2MA;2MPA;2TA;2DA",
  "1A0A 2NA;2NRA;2CA;2JA;2NYA;2NYCA;2YA;2RA;2LA;2VA;2SA;2A;2HA;1VOWEL SIGN I;3U;3E;3O;3AE",
  "1A1E 1PALLAWA;1END OF SECTION;0TAI THAM LETTER HIGH KA;4KHA;4KXA;3LOW KA;4KXA;4KHA;3NGA",
  "1A27 3HIGH CA;4CHA;3LOW CA;4SA;4CHA;3NYA;3RATA;3HIGH RATHA;3DA;3LOW RATHA;3RANA;3HIGH TA;4THA",
  "1A34 3LOW TA;4THA;3NA;3BA;3HIGH PA;4PHA;4FA;3LOW PA;4FA;4PHA;3MA;3LOW YA;3HIGH YA;3RA;3RUE;3LA",
  "1A44 3LUE;3WA;3HIGH SHA;4SSA;4SA;4HA;3LLA;3A;3LOW HA;3I;3II;3U;3UU;3EE;3OO;3LAE;3GREAT SA",
  "1A55 2CONSONANT SIGN MEDIAL RA;5LA;4LA TANG LAI;2SIGN MAI KANG LAI;2CONSONANT SIGN FINAL NGA",
  "1A5A 4LOW PA;4HIGH RATHA OR LOW PA;4MA;4BA;4SA",
  "1A60 2SIGN SAKOT;2VOWEL SIGN A;4MAI SAT;4AA;4TALL AA;4I;4II;4UE;4UUE;4U;4UU;4O;4OA BELOW;4OY;4E",
  "1A6F 4AE;4OO;4AI;4THAM AI;4OA ABOVE;2SIGN MAI KANG;3TONE-1;42;3KHUEN TONE-3;54;55;3RA HAAM",
  "1A7B 3MAI SAM;3KHUEN-LUE KARAN",
  "1A7F 2COMBINING CRYPTOGRAMMIC DOT;2HORA DIGIT ZERO;4ONE;4TWO;4THREE;4FOUR;4FIVE;4SIX;4SEVEN",
  "1A88 4EIGHT;4NINE",
  "1A90 2THAM DIGIT ZERO;4ONE;4TWO;4THREE;4FOUR;4FIVE;4SIX;4SEVEN;4EIGHT;4NINE",
  "1AA0 2SIGN WIANG;3WIANGWAAK;3SAWAN;3KEOW;3HOY;3DOKMAI;3REVERSED ROTATED RANA;3MAI YAMOK;3KAAN",
  "1AA9 3KAANKUU;3SATKAAN;3SATKAANKUU;3HANG;3CAANG",
  "1AB0 0COMBINING DOUBLED CIRCUMFLEX ACCENT;1DIAERESIS-RING;1INFINITY;1DOWNWARDS ARROW",
  "1AB4 1TRIPLE DOT;1X-X BELOW;1WIGGLY LINE BELOW;1OPEN MARK BELOW;1DOUBLE OPEN MARK BELOW",
  "1AB9 1LIGHT CENTRALIZATION STROKE BELOW;1STRONG CENTRALIZATION STROKE BELOW;1PARENTHESES ABOVE",
  "1ABC 1DOUBLE PARENTHESES ABOVE;1PARENTHESES BELOW;2OVERLAY;1LATIN SMALL LETTER W BELOW",
  "1AC0 4TURNED W BELOW;1LEFT PARENTHESIS ABOVE LEFT;1RIGHT PARENTHESIS ABOVE RIGHT",
  "1AC3 1LEFT PARENTHESIS BELOW LEFT;1RIGHT PARENTHESIS BELOW RIGHT;1SQUARE BRACKETS ABOVE",
  "1AC6 1NUMBER SIGN ABOVE;1INVERTED DOUBLE ARCH ABOVE;1PLUS SIGN ABOVE;1DOUBLE PLUS SIGN ABOVE",
  "1ACA 4BELOW;1TRIPLE ACUTE ACCENT;1LATIN SMALL LETTER INSULAR G;5R;5T",
  "1B00 0BALINESE SIGN ULU RICEM;3CANDRA;2CECEK;2SURANG;2BISAH;1LETTER AKARA;2AKARA TEDUNG;2IKARA",
  "1B08 2IKARA TEDUNG;2UKARA;2UKARA TEDUNG;2RA REPA;3REPA TEDUNG;2LA LENGA;3LENGA TEDUNG;2EKARA",
  "1B10 2AIKARA;2OKARA;2OKARA TEDUNG;2KA;2KA MAHAPRANA;2GA;2GA GORA;2NGA;2CA;2CA LACA;2JA;2JA JERA",
  "1B1C 2NYA;2TA LATIK;3MURDA MAHAPRANA;2DA MURDA ALPAPRANA;4MAHAPRANA;2NA RAMBAT;2TA;2TA TAWA;2DA",
  "1B25 2DA MADU;2NA;2PA;2PA KAPAL;2BA;2BA KEMBANG;2MA;2YA;2RA;2LA;2WA;2SA SAGA;3SAPA;2SA;2HA",
  "1B34 1SIGN REREKAN;1VOWEL SIGN TEDUNG;3ULU;3ULU SARI;3SUKU;3SUKU ILUT;3RA REPA;4REPA TEDUNG",
  "1B3C 3LA LENGA;4LENGA TEDUNG;3TALING;3TALING REPA;4TEDUNG;4REPA TEDUNG;3PEPET;3PEPET TEDUNG",
  "1B44 1ADEG ADEG;1LETTER KAF SASAK;2KHOT SASAK;2TZIR SASAK;2EF SASAK;2VE SASAK;2ZAL SASAK",
  "1B4B 2ASYURA SASAK;2ARCHAIC JNYA",
  "1B50 1DIGIT ZERO;2ONE;2TWO;2THREE;2FOUR;2FIVE;2SIX;2SEVEN;2EIGHT;2NINE;1PANTI;1PAMADA;1WINDU",
  "1B5D 1CARIK PAMUNGKAH;2SIKI;2PAREREN;1PAMENENG;1MUSICAL SYMBOL DONG;3DENG;3DUNG;3DANG",
  "1B65 3DANG SURANG;3DING;3DAENG;3DEUNG;3DAING;3DANG GEDE;3COMBINING TEGEH;4ENDEP;4KEMPUL;4KEMPLI",
  "1B6F 4JEGOGAN;4KEMPUL WITH JEGOGAN;4KEMPLI WITH JEGOGAN;4BENDE;4GONG;3RIGHT-HAND OPEN DUG;6DAG",
  "1B76 5CLOSED TUK;6TAK;3LEFT-HAND OPEN PANG;6PUNG;5CLOSED PLAK;6PLUK;5OPEN PING;1PANTI LANTANG",
  "1B7E 1PAMADA LANTANG",
  "1B80 0SUNDANESE SIGN PANYECEK;2PANGLAYAR;2PANGWISAD;1LETTER A;2I;2U;2AE;2O;2E;2EU;2KA;2QA;2GA",
  "1B8D 2NGA;2CA;2JA;2ZA;2NYA;2TA;2DA;2NA;2PA;2FA;2VA;2BA;2MA;2YA;2RA;2LA;2WA;2SA;2XA;2HA",
  "1BA1 1CONSONANT SIGN PAMINGKAL;3PANYAKRA;3PANYIKU;1VOWEL SIGN PANGHULU;3PANYUKU;3PANAELAENG",
  "1BA7 3PANOLONG;3PAMEPET;3PANEULEUNG;1SIGN PAMAAEH;2VIRAMA;1CONSONANT SIGN PASANGAN MA;4WA",
  "1BAE 1LETTER KHA;2SYA;1DIGIT ZERO;2ONE;2TWO;2THREE;2FOUR;2FIVE;2SIX;2SEVEN;2EIGHT;2NINE",
  "1BBA 1AVAGRAHA;1LETTER REU;2LEU;2BHA;2FINAL K;3M;0BATAK LETTER A;2SIMALUNGUN A;2HA",
  "1BC3 2SIMALUNGUN HA;2MANDAILING HA;2BA;2KARO BA;2PA;2SIMALUNGUN PA;2NA;2MANDAILING NA;2WA",
  "1BCC 2SIMALUNGUN WA;2PAKPAK WA;2GA;2SIMALUNGUN GA;2JA;2DA;2RA;2SIMALUNGUN RA;2MA;2SIMALUNGUN MA",
  "1BD6 2SOUTHERN TA;2NORTHERN TA;2SA;2SIMALUNGUN SA;2MANDAILING SA;2YA;2SIMALUNGUN YA;2NGA;2LA",
  "1BDF 2SIMALUNGUN LA;2NYA;2CA;2NDA;2MBA;2I;2U;1SIGN TOMPI;1VOWEL SIGN E;3PAKPAK E;3EE;3I;3KARO I",
  "1BEC 3O;3KARO O;3U;3U FOR SIMALUNGUN SA;1CONSONANT SIGN NG;3H;1PANGOLAT;1PANONGONAN",
  "1BFC 1SYMBOL BINDU NA METEK;3PINARBORAS;3JUDUL;3PANGOLAT;0LEPCHA LETTER KA;2KLA;2KHA;2GA;2GLA",
  "1C05 2NGA;2CA;2CHA;2JA;2NYA;2TA;2THA;2DA;2NA;2PA;2PLA;2PHA;2FA;2FLA;2BA;2BLA;2MA;2MLA;2TSA",
  "1C18 2TSHA;2DZA;2YA;2RA;2LA;2HA;2HLA;2VA;2SA;2SHA;2WA;2A;1SUBJOINED LETTER YA;3RA",
  "1C26 1VOWEL SIGN AA;3I;3O;3OO;3U;3UU;3E;1CONSONANT SIGN K;3M;3L;3N;3P;3R;3T;3NYIN-DO;3KANG",
  "1C36 1SIGN RAN;2NUKTA",
  "1C3B 1PUNCTUATION TA-ROL;2NYET THYOOM TA-ROL;2CER-WA;2TSHOOK CER-WA;2TSHOOK;1DIGIT ZERO;2ONE",
  "1C42 2TWO;2THREE;2FOUR;2FIVE;2SIX;2SEVEN;2EIGHT;2NINE",
  "1C4D 1LETTER TTA;2TTHA;2DDA;0OL CHIKI DIGIT ZERO;3ONE;3TWO;3THREE;3FOUR;3FIVE;3SIX;3SEVEN",
  "1C58 3EIGHT;3NINE;2LETTER LA;3AT;3AG;3ANG;3AL;3LAA;3AAK;3AAJ;3AAM;3AAW;3LI;3IS;3IH;3INY;3IR;3LU",
  "1C6A 3UC;3UD;3UNN;3UY;3LE;3EP;3EDD;3EN;3ERR;3LO;3OTT;3OB;3OV;3OH;2MU TTUDDAG;2GAAHLAA TTUDDAAG",
  "1C7A 2MU-GAAHLAA TTUDDAAG;2RELAA;2PHAARKAA;2AHAD;2PUNCTUATION MUCAAD;3DOUBLE MUCAAD",
  "1C80 0CYRILLIC SMALL LETTER ROUNDED VE;3LONG-LEGGED DE;3NARROW O;3WIDE ES;3TALL TE",
  "1C85 3THREE-LEGGED TE;3TALL HARD SIGN;4YAT;3UNBLENDED UK",
  "1C90 0GEORGIAN MTAVRULI CAPITAL LETTER AN;4BAN;4GAN;4DON;4EN;4VIN;4ZEN;4TAN;4IN;4KAN;4LAS;4MAN",
  "1C9C 4NAR;4ON;4PAR;4ZHAR;4RAE;4SAN;4TAR;4UN;4PHAR;4KHAR;4GHAN;4QAR;4SHIN;4CHIN;4CAN;4JIL;4CIL",
  "1CAD 4CHAR;4XAN;4JHAN;4HAE;4HE;4HIE;4WE;4HAR;4HOE;4FI;4YN;4ELIFI;4TURNED GAN;4AIN",
  "1CBD 4AEN;4HARD SIGN;4LABIAL SIGN;0SUNDANESE PUNCTUATION BINDU SURYA;3PANGLONG;3PURNAMA;3CAKRA",
  "1CC4 3LEU SATANGA;3KA SATANGA;3DA SATANGA;3BA SATANGA",
  "1CD0 0VEDIC TONE KARSHANA;2SHARA;2PRENKHA;1SIGN NIHSHVASA;2YAJURVEDIC MIDLINE SVARITA",
  "1CD5 1TONE YAJURVEDIC AGGRAVATED INDEPENDENT SVARITA;3INDEPENDENT SVARITA",
  "1CD7 3KATHAKA INDEPENDENT SVARITA;2CANDRA BELOW",
  "1CD9 2YAJURVEDIC KATHAKA INDEPENDENT SVARITA SCHROEDER;2DOUBLE SVARITA;2TRIPLE SVARITA",
  "1CDC 2KATHAKA ANUDATTA;2DOT BELOW;2TWO DOTS BELOW;2THREE DOTS BELOW",
  "1CE0 2RIGVEDIC KASHMIRI INDEPENDENT SVARITA;2ATHARVAVEDIC INDEPENDENT SVARITA",
  "1CE2 1SIGN VISARGA SVARITA;3UDATTA;2REVERSED VISARGA UDATTA;2VISARGA ANUDATTA",
  "1CE6 2REVERSED VISARGA ANUDATTA;2VISARGA UDATTA WITH TAIL;3ANUDATTA WITH TAIL",
  "1CE9 2ANUSVARA ANTARGOMUKHA;3BAHIRGOMUKHA;3VAMAGOMUKHA;3VAMAGOMUKHA WITH TAIL;2TIRYAK",
  "1CEE 2HEXIFORM LONG ANUSVARA;2LONG ANUSVARA;2RTHANG LONG ANUSVARA;2ANUSVARA UBHAYATO MUKHA",
  "1CF2 2ARDHAVISARGA;2ROTATED ARDHAVISARGA;1TONE CANDRA ABOVE;1SIGN JIHVAMULIYA;2UPADHMANIYA",
  "1CF7 2ATIKRAMA;1TONE RING ABOVE;2DOUBLE RING ABOVE;1SIGN DOUBLE ANUSVARA ANTARGOMUKHA",
  "1D00 0LATIN LETTER SMALL CAPITAL A;4AE;1SMALL LETTER TURNED AE;1LETTER SMALL CAPITAL BARRED B",
  "1D04 4C;4D;4ETH;4E;1SMALL LETTER TURNED OPEN E;4I;1LETTER SMALL CAPITAL J;4K;4L WITH STROKE;4M",
  "1D0E 4REVERSED N;4O;4OPEN O;1SMALL LETTER SIDEWAYS O;4OPEN O;4O WITH STROKE;3TURNED OE",
  "1D15 1LETTER SMALL CAPITAL OU;1SMALL LETTER TOP HALF O;3BOTTOM HALF O;1LETTER SMALL CAPITAL P",
  "1D19 4REVERSED R;4TURNED R;4T;4U;1SMALL LETTER SIDEWAYS U;4DIAERESIZED U;4TURNED M",
  "1D20 1LETTER SMALL CAPITAL V;4W;4Z;4EZH;2VOICED LARYNGEAL SPIRANT;2AIN",
  "1D26 0GREEK LETTER SMALL CAPITAL GAMMA;4LAMDA;4PI;4RHO;4PSI;0CYRILLIC LETTER SMALL CAPITAL EL",
  "1D2C 0MODIFIER LETTER CAPITAL A;3AE;3B;3BARRED B;3D;3E;3REVERSED E;3G;3H;3I;3J;3K;3L;3M;3N",
  "1D3B 3REVERSED N;3O;3OU;3P;3R;3T;3U;3W;2SMALL A;3TURNED A;3ALPHA;3TURNED AE;3B;3D;3E;3SCHWA",
  "1D4B 3OPEN E;3TURNED OPEN E;3G;3TURNED I;3K;3M;3ENG;3O;3OPEN O;3TOP HALF O;3BOTTOM HALF O;3P;3T",
  "1D58 3U;3SIDEWAYS U;3TURNED M;3V;3AIN;3BETA;3GREEK GAMMA;3DELTA;3GREEK PHI;3CHI",
  "1D62 0LATIN SUBSCRIPT SMALL LETTER I;4R;4U;4V;0GREEK SUBSCRIPT SMALL LETTER BETA;4GAMMA;4RHO",
  "1D69 4PHI;4CHI;0LATIN SMALL LETTER UE;3B WITH MIDDLE TILDE;3D WITH MIDDLE TILDE",
  "1D6E 3F WITH MIDDLE TILDE;3M WITH MIDDLE TILDE;3N WITH MIDDLE TILDE;3P WITH MIDDLE TILDE",
  "1D72 3R WITH MIDDLE TILDE;5FISHHOOK AND MIDDLE TILDE;3S WITH MIDDLE TILDE;3T WITH MIDDLE TILDE",
  "1D76 3Z WITH MIDDLE TILDE;3TURNED G;0MODIFIER LETTER CYRILLIC EN;0LATIN SMALL LETTER INSULAR G",
  "1D7A 3TH WITH STRIKETHROUGH;2CAPITAL LETTER I WITH STROKE;2LETTER IOTA WITH STROKE",
  "1D7D 3P WITH STROKE;2CAPITAL LETTER U WITH STROKE;2LETTER UPSILON WITH STROKE",
  "1D80 3B WITH PALATAL HOOK;3D WITH PALATAL HOOK;3F WITH PALATAL HOOK;3G WITH PALATAL HOOK",
  "1D84 3K WITH PALATAL HOOK;3L WITH PALATAL HOOK;3M WITH PALATAL HOOK;3N WITH PALATAL HOOK",
  "1D88 3P WITH PALATAL HOOK;3R WITH PALATAL HOOK;3S WITH PALATAL HOOK;3ESH WITH PALATAL HOOK",
  "1D8C 3V WITH PALATAL HOOK;3X WITH PALATAL HOOK;3Z WITH PALATAL HOOK;3A WITH RETROFLEX HOOK",
  "1D90 3ALPHA WITH RETROFLEX HOOK;3D WITH HOOK AND TAIL;3E WITH RETROFLEX HOOK",
  "1D93 3OPEN E WITH RETROFLEX HOOK;3REVERSED OPEN E WITH RETROFLEX HOOK",
  "1D95 3SCHWA WITH RETROFLEX HOOK;3I WITH RETROFLEX HOOK;3OPEN O WITH RETROFLEX HOOK",
  "1D98 3ESH WITH RETROFLEX HOOK;3U WITH RETROFLEX HOOK;3EZH WITH RETROFLEX HOOK",
  "1D9B 0MODIFIER LETTER SMALL TURNED ALPHA;3C;3C WITH CURL;3ETH;3REVERSED OPEN E;3F",
  "1DA1 3DOTLESS J WITH STROKE;3SCRIPT G;3TURNED H;3I WITH STROKE;3IOTA;3CAPITAL I;4I WITH STROKE",
  "1DA8 3J WITH CROSSED-TAIL;3L WITH RETROFLEX HOOK;5PALATAL HOOK;3CAPITAL L;3M WITH HOOK",
  "1DAD 3TURNED M WITH LONG LEG;3N WITH LEFT HOOK;5RETROFLEX HOOK;3CAPITAL N;3BARRED O;3PHI",
  "1DB3 3S WITH HOOK;3ESH;3T WITH PALATAL HOOK;3U BAR;3UPSILON;3CAPITAL U;3V WITH HOOK;3TURNED V",
  "1DBB 3Z;3Z WITH RETROFLEX HOOK;5CURL;3EZH;3THETA;0COMBINING DOTTED GRAVE ACCENT;2ACUTE ACCENT",
  "1DC2 1SNAKE BELOW;1SUSPENSION MARK;1MACRON-ACUTE;1GRAVE-MACRON;1MACRON-GRAVE;1ACUTE-MACRON",
  "1DC8 1GRAVE-ACUTE-GRAVE;1ACUTE-GRAVE-ACUTE;1LATIN SMALL LETTER R BELOW;1BREVE-MACRON",
  "1DCC 1MACRON-BREVE;1DOUBLE CIRCUMFLEX ABOVE;1OGONEK ABOVE;1ZIGZAG BELOW;1IS BELOW;1UR ABOVE",
  "1DD2 1US ABOVE;1LATIN SMALL LETTER FLATTENED OPEN A ABOVE;4AE;4AO;4AV;4C CEDILLA;4INSULAR D",
  "1DD9 4ETH;4G;2LETTER SMALL CAPITAL G;2SMALL LETTER K;4L;2LETTER SMALL CAPITAL L;5M",
  "1DE0 2SMALL LETTER N;2LETTER SMALL CAPITAL N;5R;2SMALL LETTER R ROTUNDA;4S;4LONG S;4Z;4ALPHA;4B",
  "1DE9 4BETA;4SCHWA;4F;4L WITH DOUBLE MIDDLE TILDE;4O WITH LIGHT CENTRALIZATION STROKE;4P;4ESH",
  "1DF0 4U WITH LIGHT CENTRALIZATION STROKE;4W;4A WITH DIAERESIS;4O WITH DIAERESIS",
  "1DF4 4U WITH DIAERESIS;1UP TACK ABOVE;1KAVYKA ABOVE RIGHT;3LEFT;1DOT ABOVE LEFT",
  "1DF9 1WIDE INVERTED BRIDGE BELOW;1DOT BELOW LEFT;1DELETION MARK;1DOUBLE INVERTED BREVE BELOW",
  "1DFD 1ALMOST EQUAL TO BELOW;1LEFT ARROWHEAD ABOVE;1RIGHT ARROWHEAD AND DOWN ARROWHEAD BELOW",
  "1E00 0LATIN CAPITAL LETTER A WITH RING BELOW;1SMALL LETTER A WITH RING BELOW",
  "1E02 1CAPITAL LETTER B WITH DOT ABOVE;1SMALL LETTER B WITH DOT ABOVE",
  "1E04 1CAPITAL LETTER B WITH DOT BELOW;1SMALL LETTER B WITH DOT BELOW",
  "1E06 1CAPITAL LETTER B WITH LINE BELOW;1SMALL LETTER B WITH LINE BELOW",
  "1E08 1CAPITAL LETTER C WITH CEDILLA AND ACUTE;1SMALL LETTER C WITH CEDILLA AND ACUTE",
  "1E0A 1CAPITAL LETTER D WITH DOT ABOVE;1SMALL LETTER D WITH DOT ABOVE",
  "1E0C 1CAPITAL LETTER D WITH DOT BELOW;1SMALL LETTER D WITH DOT BELOW",
  "1E0E 1CAPITAL LETTER D WITH LINE BELOW;1SMALL LETTER D WITH LINE BELOW",
  "1E10 1CAPITAL LETTER D WITH CEDILLA;1SMALL LETTER D WITH CEDILLA",
  "1E12 1CAPITAL LETTER D WITH CIRCUMFLEX BELOW;1SMALL LETTER D WITH CIRCUMFLEX BELOW",
  "1E14 1CAPITAL LETTER E WITH MACRON AND GRAVE;1SMALL LETTER E WITH MACRON AND GRAVE",
  "1E16 1CAPITAL LETTER E WITH MACRON AND ACUTE;1SMALL LETTER E WITH MACRON AND ACUTE",
  "1E18 1CAPITAL LETTER E WITH CIRCUMFLEX BELOW;1SMALL LETTER E WITH CIRCUMFLEX BELOW",
  "1E1A 1CAPITAL LETTER E WITH TILDE BELOW;1SMALL LETTER E WITH TILDE BELOW",
  "1E1C 1CAPITAL LETTER E WITH CEDILLA AND BREVE;1SMALL LETTER E WITH CEDILLA AND BREVE",
  "1E1E 1CAPITAL LETTER F WITH DOT ABOVE;1SMALL LETTER F WITH DOT ABOVE",
  "1E20 1CAPITAL LETTER G WITH MACRON;1SMALL LETTER G WITH MACRON;1CAPITAL LETTER H WITH DOT ABOVE",
  "1E23 1SMALL LETTER H WITH DOT ABOVE;1CAPITAL LETTER H WITH DOT BELOW",
  "1E25 1SMALL LETTER H WITH DOT BELOW;1CAPITAL LETTER H WITH DIAERESIS",
  "1E27 1SMALL LETTER H WITH DIAERESIS;1CAPITAL LETTER H WITH CEDILLA;1SMALL LETTER H WITH CEDILLA",
  "1E2A 1CAPITAL LETTER H WITH BREVE BELOW;1SMALL LETTER H WITH BREVE BELOW",
  "1E2C 1CAPITAL LETTER I WITH TILDE BELOW;1SMALL LETTER I WITH TILDE BELOW",
  "1E2E 1CAPITAL LETTER I WITH DIAERESIS AND ACUTE;1SMALL LETTER I WITH DIAERESIS AND ACUTE",
  "1E30 1CAPITAL LETTER K WITH ACUTE;1SMALL LETTER K WITH ACUTE;1CAPITAL LETTER K WITH DOT BELOW",
  "1E33 1SMALL LETTER K WITH DOT BELOW;1CAPITAL LETTER K WITH LINE BELOW",
  "1E35 1SMALL LETTER K WITH LINE BELOW;1CAPITAL LETTER L WITH DOT BELOW",
  "1E37 1SMALL LETTER L WITH DOT BELOW;1CAPITAL LETTER L WITH DOT BELOW AND MACRON",
  "1E39 1SMALL LETTER L WITH DOT BELOW AND MACRON;1CAPITAL LETTER L WITH LINE BELOW",
  "1E3B 1SMALL LETTER L WITH LINE BELOW;1CAPITAL LETTER L WITH CIRCUMFLEX BELOW",
  "1E3D 1SMALL LETTER L WITH CIRCUMFLEX BELOW;1CAPITAL LETTER M WITH ACUTE",
  "1E3F 1SMALL LETTER M WITH ACUTE;1CAPITAL LETTER M WITH DOT ABOVE;1SMALL LETTER M WITH DOT ABOVE",
  "1E42 1CAPITAL LETTER M WITH DOT BELOW;1SMALL LETTER M WITH DOT BELOW",
  "1E44 1CAPITAL LETTER N WITH DOT ABOVE;1SMALL LETTER N WITH DOT ABOVE",
  "1E46 1CAPITAL LETTER N WITH DOT BELOW;1SMALL LETTER N WITH DOT BELOW",
  "1E48 1CAPITAL LETTER N WITH LINE BELOW;1SMALL LETTER N WITH LINE BELOW",
  "1E4A 1CAPITAL LETTER N WITH CIRCUMFLEX BELOW;1SMALL LETTER N WITH CIRCUMFLEX BELOW",
  "1E4C 1CAPITAL LETTER O WITH TILDE AND ACUTE;1SMALL LETTER O WITH TILDE AND ACUTE",
  "1E4E 1CAPITAL LETTER O WITH TILDE AND DIAERESIS;1SMALL LETTER O WITH TILDE AND DIAERESIS",
  "1E50 1CAPITAL LETTER O WITH MACRON AND GRAVE;1SMALL LETTER O WITH MACRON AND GRAVE",
  "1E52 1CAPITAL LETTER O WITH MACRON AND ACUTE;1SMALL LETTER O WITH MACRON AND ACUTE",
  "1E54 1CAPITAL LETTER P WITH ACUTE;1SMALL LETTER P WITH ACUTE;1CAPITAL LETTER P WITH DOT ABOVE",
  "1E57 1SMALL LETTER P WITH DOT ABOVE;1CAPITAL LETTER R WITH DOT ABOVE",
  "1E59 1SMALL LETTER R WITH DOT ABOVE;1CAPITAL LETTER R WITH DOT BELOW",
  "1E5B 1SMALL LETTER R WITH DOT BELOW;1CAPITAL LETTER R WITH DOT BELOW AND MACRON",
  "1E5D 1SMALL LETTER R WITH DOT BELOW AND MACRON;1CAPITAL LETTER R WITH LINE BELOW",
  "1E5F 1SMALL LETTER R WITH LINE BELOW;1CAPITAL LETTER S WITH DOT ABOVE",
  "1E61 1SMALL LETTER S WITH DOT ABOVE;1CAPITAL LETTER S WITH DOT BELOW",
  "1E63 1SMALL LETTER S WITH DOT BELOW;1CAPITAL LETTER S WITH ACUTE AND DOT ABOVE",
  "1E65 1SMALL LETTER S WITH ACUTE AND DOT ABOVE;1CAPITAL LETTER S WITH CARON AND DOT ABOVE",
  "1E67 1SMALL LETTER S WITH CARON AND DOT ABOVE;1CAPITAL LETTER S WITH DOT BELOW AND DOT ABOVE",
  "1E69 1SMALL LETTER S WITH DOT BELOW AND DOT ABOVE;1CAPITAL LETTER T WITH DOT ABOVE",
  "1E6B 1SMALL LETTER T WITH DOT ABOVE;1CAPITAL LETTER T WITH DOT BELOW",
  "1E6D 1SMALL LETTER T WITH DOT BELOW;1CAPITAL LETTER T WITH LINE BELOW",
  "1E6F 1SMALL LETTER T WITH LINE BELOW;1CAPITAL LETTER T WITH CIRCUMFLEX BELOW",
  "1E71 1SMALL LETTER T WITH CIRCUMFLEX BELOW;1CAPITAL LETTER U WITH DIAERESIS BELOW",
  "1E73 1SMALL LETTER U WITH DIAERESIS BELOW;1CAPITAL LETTER U WITH TILDE BELOW",
  "1E75 1SMALL LETTER U WITH TILDE BELOW;1CAPITAL LETTER U WITH CIRCUMFLEX BELOW",
  "1E77 1SMALL LETTER U WITH CIRCUMFLEX BELOW;1CAPITAL LETTER U WITH TILDE AND ACUTE",
  "1E79 1SMALL LETTER U WITH TILDE AND ACUTE;1CAPITAL LETTER U WITH MACRON AND DIAERESIS",
  "1E7B 1SMALL LETTER U WITH MACRON AND DIAERESIS;1CAPITAL LETTER V WITH TILDE",
  "1E7D 1SMALL LETTER V WITH TILDE;1CAPITAL LETTER V WITH DOT BELOW;1SMALL LETTER V WITH DOT BELOW",
  "1E80 1CAPITAL LETTER W WITH GRAVE;1SMALL LETTER W WITH GRAVE;1CAPITAL LETTER W WITH ACUTE",
  "1E83 1SMALL LETTER W WITH ACUTE;1CAPITAL LETTER W WITH DIAERESIS;1SMALL LETTER W WITH DIAERESIS",
  "1E86 1CAPITAL LETTER W WITH DOT ABOVE;1SMALL LETTER W WITH DOT ABOVE",
  "1E88 1CAPITAL LETTER W WITH DOT BELOW;1SMALL LETTER W WITH DOT BELOW",
  "1E8A 1CAPITAL LETTER X WITH DOT ABOVE;1SMALL LETTER X WITH DOT ABOVE",
  "1E8C 1CAPITAL LETTER X WITH DIAERESIS;1SMALL LETTER X WITH DIAERESIS",
  "1E8E 1CAPITAL LETTER Y WITH DOT ABOVE;1SMALL LETTER Y WITH DOT ABOVE",
  "1E90 1CAPITAL LETTER Z WITH CIRCUMFLEX;1SMALL LETTER Z WITH CIRCUMFLEX",
  "1E92 1CAPITAL LETTER Z WITH DOT BELOW;1SMALL LETTER Z WITH DOT BELOW",
  "1E94 1CAPITAL LETTER Z WITH LINE BELOW;1SMALL LETTER Z WITH LINE BELOW;3H WITH LINE BELOW",
  "1E97 3T WITH DIAERESIS;3W WITH RING ABOVE;3Y WITH RING ABOVE;3A WITH RIGHT HALF RING",
  "1E9B 3LONG S WITH DOT ABOVE;6DIAGONAL STROKE;6HIGH STROKE;1CAPITAL LETTER SHARP S",
  "1E9F 1SMALL LETTER DELTA;1CAPITAL LETTER A WITH DOT BELOW;1SMALL LETTER A WITH DOT BELOW",
  "1EA2 1CAPITAL LETTER A WITH HOOK ABOVE;1SMALL LETTER A WITH HOOK ABOVE",
  "1EA4 1CAPITAL LETTER A WITH CIRCUMFLEX AND ACUTE;1SMALL LETTER A WITH CIRCUMFLEX AND ACUTE",
  "1EA6 1CAPITAL LETTER A WITH CIRCUMFLEX AND GRAVE;1SMALL LETTER A WITH CIRCUMFLEX AND GRAVE",
  "1EA8 1CAPITAL LETTER A WITH CIRCUMFLEX AND HOOK ABOVE",
  "1EA9 1SMALL LETTER A WITH CIRCUMFLEX AND HOOK ABOVE;1CAPITAL LETTER A WITH CIRCUMFLEX AND TILDE",
  "1EAB 1SMALL LETTER A WITH CIRCUMFLEX AND TILDE;1CAPITAL LETTER A WITH CIRCUMFLEX AND DOT BELOW",
  "1EAD 1SMALL LETTER A WITH CIRCUMFLEX AND DOT BELOW;1CAPITAL LETTER A WITH BREVE AND ACUTE",
  "1EAF 1SMALL LETTER A WITH BREVE AND ACUTE;1CAPITAL LETTER A WITH BREVE AND GRAVE",
  "1EB1 1SMALL LETTER A WITH BREVE AND GRAVE;1CAPITAL LETTER A WITH BREVE AND HOOK ABOVE",
  "1EB3 1SMALL LETTER A WITH BREVE AND HOOK ABOVE;1CAPITAL LETTER A WITH BREVE AND TILDE",
  "1EB5 1SMALL LETTER A WITH BREVE AND TILDE;1CAPITAL LETTER A WITH BREVE AND DOT BELOW",
  "1EB7 1SMALL LETTER A WITH BREVE AND DOT BELOW;1CAPITAL LETTER E WITH DOT BELOW",
  "1EB9 1SMALL LETTER E WITH DOT BELOW;1CAPITAL LETTER E WITH HOOK ABOVE",
  "1EBB 1SMALL LETTER E WITH HOOK ABOVE;1CAPITAL LETTER E WITH TILDE;1SMALL LETTER E WITH TILDE",
  "1EBE 1CAPITAL LETTER E WITH CIRCUMFLEX AND ACUTE;1SMALL LETTER E WITH CIRCUMFLEX AND ACUTE",
  "1EC0 1CAPITAL LETTER E WITH CIRCUMFLEX AND GRAVE;1SMALL LETTER E WITH CIRCUMFLEX AND GRAVE",
  "1EC2 1CAPITAL LETTER E WITH CIRCUMFLEX AND HOOK ABOVE",
  "1EC3 1SMALL LETTER E WITH CIRCUMFLEX AND HOOK ABOVE;1CAPITAL LETTER E WITH CIRCUMFLEX AND TILDE",
  "1EC5 1SMALL LETTER E WITH CIRCUMFLEX AND TILDE;1CAPITAL LETTER E WITH CIRCUMFLEX AND DOT BELOW",
  "1EC7 1SMALL LETTER E WITH CIRCUMFLEX AND DOT BELOW;1CAPITAL LETTER I WITH HOOK ABOVE",
  "1EC9 1SMALL LETTER I WITH HOOK ABOVE;1CAPITAL LETTER I WITH DOT BELOW",
  "1ECB 1SMALL LETTER I WITH DOT BELOW;1CAPITAL LETTER O WITH DOT BELOW",
  "1ECD 1SMALL LETTER O WITH DOT BELOW;1CAPITAL LETTER O WITH HOOK ABOVE",
  "1ECF 1SMALL LETTER O WITH HOOK ABOVE;1CAPITAL LETTER O WITH CIRCUMFLEX AND ACUTE",
  "1ED1 1SMALL LETTER O WITH CIRCUMFLEX AND ACUTE;1CAPITAL LETTER O WITH CIRCUMFLEX AND GRAVE",
  "1ED3 1SMALL LETTER O WITH CIRCUMFLEX AND GRAVE;1CAPITAL LETTER O WITH CIRCUMFLEX AND HOOK ABOVE",
  "1ED5 1SMALL LETTER O WITH CIRCUMFLEX AND HOOK ABOVE;1CAPITAL LETTER O WITH CIRCUMFLEX AND TILDE",
  "1ED7 1SMALL LETTER O WITH CIRCUMFLEX AND TILDE;1CAPITAL LETTER O WITH CIRCUMFLEX AND DOT BELOW",
  "1ED9 1SMALL LETTER O WITH CIRCUMFLEX AND DOT BELOW;1CAPITAL LETTER O WITH HORN AND ACUTE",
  "1EDB 1SMALL LETTER O WITH HORN AND ACUTE;1CAPITAL LETTER O WITH HORN AND GRAVE",
  "1EDD 1SMALL LETTER O WITH HORN AND GRAVE;1CAPITAL LETTER O WITH HORN AND HOOK ABOVE",
  "1EDF 1SMALL LETTER O WITH HORN AND HOOK ABOVE;1CAPITAL LETTER O WITH HORN AND TILDE",
  "1EE1 1SMALL LETTER O WITH HORN AND TILDE;1CAPITAL LETTER O WITH HORN AND DOT BELOW",
  "1EE3 1SMALL LETTER O WITH HORN AND DOT BELOW;1CAPITAL LETTER U WITH DOT BELOW",
  "1EE5 1SMALL LETTER U WITH DOT BELOW;1CAPITAL LETTER U WITH HOOK ABOVE",
  "1EE7 1SMALL LETTER U WITH HOOK ABOVE;1CAPITAL LETTER U WITH HORN AND ACUTE",
  "1EE9 1SMALL LETTER U WITH HORN AND ACUTE;1CAPITAL LETTER U WITH HORN AND GRAVE",
  "1EEB 1SMALL LETTER U WITH HORN AND GRAVE;1CAPITAL LETTER U WITH HORN AND HOOK ABOVE",
  "1EED 1SMALL LETTER U WITH HORN AND HOOK ABOVE;1CAPITAL LETTER U WITH HORN AND TILDE",
  "1EEF 1SMALL LETTER U WITH HORN AND TILDE;1CAPITAL LETTER U WITH HORN AND DOT BELOW",
  "1EF1 1SMALL LETTER U WITH HORN AND DOT BELOW;1CAPITAL LETTER Y WITH GRAVE",
  "1EF3 1SMALL LETTER Y WITH GRAVE;1CAPITAL LETTER Y WITH DOT BELOW;1SMALL LETTER Y WITH DOT BELOW",
  "1EF6 1CAPITAL LETTER Y WITH HOOK ABOVE;1SMALL LETTER Y WITH HOOK ABOVE",
  "1EF8 1CAPITAL LETTER Y WITH TILDE;1SMALL LETTER Y WITH TILDE;1CAPITAL LETTER MIDDLE-WELSH LL",
  "1EFB 1SMALL LETTER MIDDLE-WELSH LL;1CAPITAL LETTER MIDDLE-WELSH V;1SMALL LETTER MIDDLE-WELSH V",
  "1EFE 1CAPITAL LETTER Y WITH LOOP;1SMALL LETTER Y WITH LOOP;0GREEK SMALL LETTER ALPHA WITH PSILI",
  "1F01 5DASIA;5PSILI AND VARIA;5DASIA AND VARIA;5PSILI AND OXIA;5DASIA AND OXIA",
  "1F06 5PSILI AND PERISPOMENI;5DASIA AND PERISPOMENI;1CAPITAL LETTER ALPHA WITH PSILI;5DASIA",
  "1F0A 5PSILI AND VARIA;5DASIA AND VARIA;5PSILI AND OXIA;5DASIA AND OXIA;5PSILI AND PERISPOMENI",
  "1F0F 5DASIA AND PERISPOMENI;1SMALL LETTER EPSILON WITH PSILI;5DASIA;5PSILI AND VARIA",
  "1F13 5DASIA AND VARIA;5PSILI AND OXIA;5DASIA AND OXIA",
  "1F18 1CAPITAL LETTER EPSILON WITH PSILI;5DASIA;5PSILI AND VARIA;5DASIA AND VARIA",
  "1F1C 5PSILI AND OXIA;5DASIA AND OXIA",
  "1F20 1SMALL LETTER ETA WITH PSILI;5DASIA;5PSILI AND VARIA;5DASIA AND VARIA;5PSILI AND OXIA",
  "1F25 5DASIA AND OXIA;5PSILI AND PERISPOMENI;5DASIA AND PERISPOMENI",
  "1F28 1CAPITAL LETTER ETA WITH PSILI;5DASIA;5PSILI AND VARIA;5DASIA AND VARIA;5PSILI AND OXIA",
  "1F2D 5DASIA AND OXIA;5PSILI AND PERISPOMENI;5DASIA AND PERISPOMENI",
  "1F30 1SMALL LETTER IOTA WITH PSILI;5DASIA;5PSILI AND VARIA;5DASIA AND VARIA;5PSILI AND OXIA",
  "1F35 5DASIA AND OXIA;5PSILI AND PERISPOMENI;5DASIA AND PERISPOMENI",
  "1F38 1CAPITAL LETTER IOTA WITH PSILI;5DASIA;5PSILI AND VARIA;5DASIA AND VARIA;5PSILI AND OXIA",
  "1F3D 5DASIA AND OXIA;5PSILI AND PERISPOMENI;5DASIA AND PERISPOMENI",
  "1F40 1SMALL LETTER OMICRON WITH PSILI;5DASIA;5PSILI AND VARIA;5DASIA AND VARIA;5PSILI AND OXIA",
  "1F45 5DASIA AND OXIA",
  "1F48 1CAPITAL LETTER OMICRON WITH PSILI;5DASIA;5PSILI AND VARIA;5DASIA AND VARIA",
  "1F4C 5PSILI AND OXIA;5DASIA AND OXIA",
  "1F50 1SMALL LETTER UPSILON WITH PSILI;5DASIA;5PSILI AND VARIA;5DASIA AND VARIA;5PSILI AND OXIA",
  "1F55 5DASIA AND OXIA;5PSILI AND PERISPOMENI;5DASIA AND PERISPOMENI",
  "1F59 1CAPITAL LETTER UPSILON WITH DASIA",
  "1F5B 5DASIA AND VARIA",
  "1F5D 7OXIA",
  "1F5F 7PERISPOMENI;1SMALL LETTER OMEGA WITH PSILI;5DASIA;5PSILI AND VARIA;5DASIA AND VARIA",
  "1F64 5PSILI AND OXIA;5DASIA AND OXIA;5PSILI AND PERISPOMENI;5DASIA AND PERISPOMENI",
  "1F68 1CAPITAL LETTER OMEGA WITH PSILI;5DASIA;5PSILI AND VARIA;5DASIA AND VARIA;5PSILI AND OXIA",
  "1F6D 5DASIA AND OXIA;5PSILI AND PERISPOMENI;5DASIA AND PERISPOMENI",
  "1F70 1SMALL LETTER ALPHA WITH VARIA;5OXIA;3EPSILON WITH VARIA;5OXIA;3ETA WITH VARIA;5OXIA",
  "1F76 3IOTA WITH VARIA;5OXIA;3OMICRON WITH VARIA;5OXIA;3UPSILON WITH VARIA;5OXIA",
  "1F7C 3OMEGA WITH VARIA;5OXIA",
  "1F80 3ALPHA WITH PSILI AND YPOGEGRAMMENI;5DASIA AND YPOGEGRAMMENI",
  "1F82 5PSILI AND VARIA AND YPOGEGRAMMENI;5DASIA AND VARIA AND YPOGEGRAMMENI",
  "1F84 5PSILI AND OXIA AND YPOGEGRAMMENI;5DASIA AND OXIA AND YPOGEGRAMMENI",
  "1F86 5PSILI AND PERISPOMENI AND YPOGEGRAMMENI;5DASIA AND PERISPOMENI AND YPOGEGRAMMENI",
  "1F88 1CAPITAL LETTER ALPHA WITH PSILI AND PROSGEGRAMMENI;5DASIA AND PROSGEGRAMMENI",
  "1F8A 5PSILI AND VARIA AND PROSGEGRAMMENI;5DASIA AND VARIA AND PROSGEGRAMMENI",
  "1F8C 5PSILI AND OXIA AND PROSGEGRAMMENI;5DASIA AND OXIA AND PROSGEGRAMMENI",
  "1F8E 5PSILI AND PERISPOMENI AND PROSGEGRAMMENI;5DASIA AND PERISPOMENI AND PROSGEGRAMMENI",
  "1F90 1SMALL LETTER ETA WITH PSILI AND YPOGEGRAMMENI;5DASIA AND YPOGEGRAMMENI",
  "1F92 5PSILI AND VARIA AND YPOGEGRAMMENI;5DASIA AND VARIA AND YPOGEGRAMMENI",
  "1F94 5PSILI AND OXIA AND YPOGEGRAMMENI;5DASIA AND OXIA AND YPOGEGRAMMENI",
  "1F96 5PSILI AND PERISPOMENI AND YPOGEGRAMMENI;5DASIA AND PERISPOMENI AND YPOGEGRAMMENI",
  "1F98 1CAPITAL LETTER ETA WITH PSILI AND PROSGEGRAMMENI;5DASIA AND PROSGEGRAMMENI",
  "1F9A 5PSILI AND VARIA AND PROSGEGRAMMENI;5DASIA AND VARIA AND PROSGEGRAMMENI",
  "1F9C 5PSILI AND OXIA AND PROSGEGRAMMENI;5DASIA AND OXIA AND PROSGEGRAMMENI",
  "1F9E 5PSILI AND PERISPOMENI AND PROSGEGRAMMENI;5DASIA AND PERISPOMENI AND PROSGEGRAMMENI",
  "1FA0 1SMALL LETTER OMEGA WITH PSILI AND YPOGEGRAMMENI;5DASIA AND YPOGEGRAMMENI",
  "1FA2 5PSILI AND VARIA AND YPOGEGRAMMENI;5DASIA AND VARIA AND YPOGEGRAMMENI",
  "1FA4 5PSILI AND OXIA AND YPOGEGRAMMENI;5DASIA AND OXIA AND YPOGEGRAMMENI",
  "1FA6 5PSILI AND PERISPOMENI AND YPOGEGRAMMENI;5DASIA AND PERISPOMENI AND YPOGEGRAMMENI",
  "1FA8 1CAPITAL LETTER OMEGA WITH PSILI AND PROSGEGRAMMENI;5DASIA AND PROSGEGRAMMENI",
  "1FAA 5PSILI AND VARIA AND PROSGEGRAMMENI;5DASIA AND VARIA AND PROSGEGRAMMENI",
  "1FAC 5PSILI AND OXIA AND PROSGEGRAMMENI;5DASIA AND OXIA AND PROSGEGRAMMENI",
  "1FAE 5PSILI AND PERISPOMENI AND PROSGEGRAMMENI;5DASIA AND PERISPOMENI AND PROSGEGRAMMENI",
  "1FB0 1SMALL LETTER ALPHA WITH VRACHY;5MACRON;5VARIA AND YPOGEGRAMMENI;5YPOGEGRAMMENI",
  "1FB4 5OXIA AND YPOGEGRAMMENI",
  "1FB6 5PERISPOMENI;5PERISPOMENI AND YPOGEGRAMMENI;1CAPITAL LETTER ALPHA WITH VRACHY;5MACRON",
  "1FBA 5VARIA;5OXIA;5PROSGEGRAMMENI;1KORONIS;1PROSGEGRAMMENI;1PSILI;1PERISPOMENI",
  "1FC1 1DIALYTIKA AND PERISPOMENI;1SMALL LETTER ETA WITH VARIA AND YPOGEGRAMMENI;5YPOGEGRAMMENI",
  "1FC4 5OXIA AND YPOGEGRAMMENI",
  "1FC6 5PERISPOMENI;5PERISPOMENI AND YPOGEGRAMMENI;1CAPITAL LETTER EPSILON WITH VARIA;5OXIA",
  "1FCA 3ETA WITH VARIA;5OXIA;5PROSGEGRAMMENI;1PSILI AND VARIA;3OXIA;3PERISPOMENI",
  "1FD0 1SMALL LETTER IOTA WITH VRACHY;5MACRON;5DIALYTIKA AND VARIA;7OXIA",
  "1FD6 5PERISPOMENI;5DIALYTIKA AND PERISPOMENI;1CAPITAL LETTER IOTA WITH VRACHY;5MACRON;5VARIA",
  "1FDB 5OXIA",
  "1FDD 1DASIA AND VARIA;3OXIA;3PERISPOMENI;1SMALL LETTER UPSILON WITH VRACHY;5MACRON",
  "1FE2 5DIALYTIKA AND VARIA;7OXIA;3RHO WITH PSILI;5DASIA;3UPSILON WITH PERISPOMENI",
  "1FE7 5DIALYTIKA AND PERISPOMENI;1CAPITAL LETTER UPSILON WITH VRACHY;5MACRON;5VARIA;5OXIA",
  "1FEC 3RHO WITH DASIA;1DIALYTIKA AND VARIA;3OXIA;1VARIA",
  "1FF2 1SMALL LETTER OMEGA WITH VARIA AND YPOGEGRAMMENI;5YPOGEGRAMMENI;5OXIA AND YPOGEGRAMMENI",
  "1FF6 5PERISPOMENI;5PERISPOMENI AND YPOGEGRAMMENI;1CAPITAL LETTER OMICRON WITH VARIA;5OXIA",
  "1FFA 3OMEGA WITH VARIA;5OXIA;5PROSGEGRAMMENI;1OXIA;1DASIA"]

end FormCheck.Text.CharacterName
