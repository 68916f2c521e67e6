/-! # Compatibility characters

The names of the rest of the basic plane, in code order.
-/

namespace FormCheck.Text.CharacterName

def compatibility : List String := [
  "A960 0HANGUL CHOSEONG TIKEUT-MIEUM;3PIEUP;3SIOS;3CIEUC;2RIEUL-KIYEOK;3SSANGKIYEOK;3TIKEUT",
  "A967 3SSANGTIKEUT;3MIEUM;3PIEUP;3SSANGPIEUP;3KAPYEOUNPIEUP;3SIOS;3CIEUC;3KHIEUKH;2MIEUM-KIYEOK",
  "A970 3TIKEUT;3SIOS;2PIEUP-SIOS-THIEUTH;3KHIEUKH;3HIEUH;2SSANGSIOS-PIEUP;2IEUNG-RIEUL;3HIEUH",
  "A978 2SSANGCIEUC-HIEUH;2SSANGTHIEUTH;2PHIEUPH-HIEUH;2HIEUH-SIOS;2SSANGYEORINHIEUH",
  "A980 0JAVANESE SIGN PANYANGGA;2CECAK;2LAYAR;2WIGNYAN;1LETTER A;2I KAWI;2I;2II;2U;2PA CEREK",
  "A98A 2NGA LELET;3LELET RASWADI;2E;2AI;2O;2KA;2KA SASAK;3MURDA;2GA;2GA MURDA;2NGA;2CA;2CA MURDA",
  "A997 2JA;2NYA MURDA;2JA MAHAPRANA;2NYA;2TTA;2TTA MAHAPRANA;2DDA;2DDA MAHAPRANA;2NA MURDA;2TA",
  "A9A1 2TA MURDA;2DA;2DA MAHAPRANA;2NA;2PA;2PA MURDA;2BA;2BA MURDA;2MA;2YA;2RA;2RA AGUNG;2LA;2WA",
  "A9AF 2SA MURDA;3MAHAPRANA;2SA;2HA;1SIGN CECAK TELU;1VOWEL SIGN TARUNG;3TOLONG;3WULU;3WULU MELIK",
  "A9B8 3SUKU;3SUKU MENDUT;3TALING;3DIRGA MURE;3PEPET;1CONSONANT SIGN KERET;3PENGKAL;3CAKRA",
  "A9C0 1PANGKON;1LEFT RERENGGAN;1RIGHT RERENGGAN;1PADA ANDAP;2MADYA;2LUHUR;2WINDU;2PANGKAT",
  "A9C8 2LINGSA;2LUNGSI;2ADEG;2ADEG ADEG;2PISELEH;1TURNED PADA PISELEH",
  "A9CF 1PANGRANGKEP;1DIGIT ZERO;2ONE;2TWO;2THREE;2FOUR;2FIVE;2SIX;2SEVEN;2EIGHT;2NINE",
  "A9DE 1PADA TIRTA TUMETES;2ISEN-ISEN;0MYANMAR LETTER SHAN GHA;3CHA;3JHA;3NNA;3BHA;1SIGN SHAN SAW",
  "A9E6 1MODIFIER LETTER SHAN REDUPLICATION;1LETTER TAI LAING NYA;4FA;4GA;4GHA;4JA;4JHA;4DDA;4DDHA",
  "A9EF 4NNA;1TAI LAING DIGIT ZERO;4ONE;4TWO;4THREE;4FOUR;4FIVE;4SIX;4SEVEN;4EIGHT;4NINE",
  "A9FA 1LETTER TAI LAING LLA;4DA;4DHA;4BA;4BHA",
  "AA00 0CHAM LETTER A;2I;2U;2E;2AI;2O;2KA;2KHA;2GA;2GHA;2NGUE;2NGA;2CHA;2CHHA;2JA;2JHA;2NHUE;2NHA",
  "AA12 2NHJA;2TA;2THA;2DA;2DHA;2NUE;2NA;2DDA;2PA;2PPA;2PHA;2BA;2BHA;2MUE;2MA;2BBA;2YA;2RA;2LA;2VA",
  "AA26 2SSA;2SA;2HA;1VOWEL SIGN AA;3I;3II;3EI;3U;3OE;3O;3AI;3AU;3UE;1CONSONANT SIGN YA;3RA;3LA",
  "AA36 3WA",
  "AA40 1LETTER FINAL K;3G;3NG;1CONSONANT SIGN FINAL NG;1LETTER FINAL CH;3T;3N;3P;3Y;3R;3L;3SS",
  "AA4C 1CONSONANT SIGN FINAL M;4H",
  "AA50 1DIGIT ZERO;2ONE;2TWO;2THREE;2FOUR;2FIVE;2SIX;2SEVEN;2EIGHT;2NINE",
  "AA5C 1PUNCTUATION SPIRAL;2DANDA;2DOUBLE DANDA;2TRIPLE DANDA;0MYANMAR LETTER KHAMTI GA;3CA;3CHA",
  "AA63 3JA;3JHA;3NYA;3TTA;3TTHA;3DDA;3DDHA;3DHA;3NA;3SA;3HA;3HHA;3FA",
  "AA70 1MODIFIER LETTER KHAMTI REDUPLICATION;1LETTER KHAMTI XA;3ZA;3RA;1LOGOGRAM KHAMTI OAY;3QN",
  "AA76 3HM;1SYMBOL AITON EXCLAMATION;3ONE;3TWO;1LETTER AITON RA;1SIGN PAO KAREN TONE",
  "AA7C 2TAI LAING TONE-2;55;1LETTER SHWE PALAUNG CHA;4SHA;0TAI VIET LETTER LOW KO;3HIGH KO",
  "AA82 3LOW KHO;3HIGH KHO;3LOW KHHO;3HIGH KHHO;3LOW GO;3HIGH GO;3LOW NGO;3HIGH NGO;3LOW CO",
  "AA8B 3HIGH CO;3LOW CHO;3HIGH CHO;3LOW SO;3HIGH SO;3LOW NYO;3HIGH NYO;3LOW DO;3HIGH DO;3LOW TO",
  "AA95 3HIGH TO;3LOW THO;3HIGH THO;3LOW NO;3HIGH NO;3LOW BO;3HIGH BO;3LOW PO;3HIGH PO;3LOW PHO",
  "AA9F 3HIGH PHO;3LOW FO;3HIGH FO;3LOW MO;3HIGH MO;3LOW YO;3HIGH YO;3LOW RO;3HIGH RO;3LOW LO",
  "AAA9 3HIGH LO;3LOW VO;3HIGH VO;3LOW HO;3HIGH HO;3LOW O;3HIGH O;2MAI KANG;2VOWEL AA;3I;3UE;3U;3E",
  "AAB6 3O;2MAI KHIT;2VOWEL IA;3UEA;3UA;3AUE;3AY;3AN;3AM;2TONE MAI EK;4NUENG;4THO;4SONG",
  "AADB 2SYMBOL KON;3NUENG;3SAM;3HO HOI;3KOI KOI;0MEETEI MAYEK LETTER E;3O;3CHA;3NYA;3TTA;3TTHA",
  "AAE6 3DDA;3DDHA;3NNA;3SHA;3SSA;2VOWEL SIGN II;4UU;4AAI;4AU;4AAU;2CHEIKHAN;2AHANG KHUDAM;2ANJI",
  "AAF3 2SYLLABLE REPETITION MARK;2WORD REPETITION MARK;2VOWEL SIGN VISARGA;2VIRAMA",
  "AB01 0ETHIOPIC SYLLABLE TTHU;2TTHI;2TTHAA;2TTHEE;2TTHE;2TTHO",
  "AB09 2DDHU;2DDHI;2DDHAA;2DDHEE;2DDHE;2DDHO",
  "AB11 2DZU;2DZI;2DZAA;2DZEE;2DZE;2DZO",
  "AB20 2CCHHA;2CCHHU;2CCHHI;2CCHHAA;2CCHHEE;2CCHHE;2CCHHO",
  "AB28 2BBA;2BBU;2BBI;2BBAA;2BBEE;2BBE;2BBO",
  "AB30 0LATIN SMALL LETTER BARRED ALPHA;3A REVERSED-SCHWA;3BLACKLETTER E;3BARRED E",
  "AB34 3E WITH FLOURISH;3LENIS F;3SCRIPT G WITH CROSSED-TAIL;3L WITH INVERTED LAZY S",
  "AB38 5DOUBLE MIDDLE TILDE;5MIDDLE RING;3M WITH CROSSED-TAIL;3N WITH CROSSED-TAIL",
  "AB3C 3ENG WITH CROSSED-TAIL;3BLACKLETTER O;4O WITH STROKE;3OPEN O WITH STROKE;3INVERTED OE",
  "AB41 3TURNED OE WITH STROKE;6HORIZONTAL STROKE;4O OPEN-O;6O WITH STROKE;3STIRRUP R",
  "AB46 1LETTER SMALL CAPITAL R WITH RIGHT LEG;1SMALL LETTER R WITHOUT HANDLE;3DOUBLE R",
  "AB49 3R WITH CROSSED-TAIL;3DOUBLE R WITH CROSSED-TAIL;3SCRIPT R;4R WITH RING;3BASELINE ESH",
  "AB4E 3U WITH SHORT RIGHT LEG;4BAR WITH SHORT RIGHT LEG;3UI;3TURNED UI;3U WITH LEFT HOOK;3CHI",
  "AB54 3CHI WITH LOW RIGHT RING;6LEFT SERIF;3X WITH LOW RIGHT RING;5LONG LEFT LEG",
  "AB58 7LEG AND LOW RIGHT RING;8WITH SERIF;3Y WITH SHORT RIGHT LEG",
  "AB5B 0MODIFIER BREVE WITH INVERTED BREVE;1LETTER SMALL HENG;3L WITH INVERTED LAZY S",
  "AB5E 5MIDDLE TILDE;3U WITH LEFT HOOK;0LATIN SMALL LETTER SAKHA YAT;3IOTIFIED E;3OPEN OE;3UO",
  "AB64 3INVERTED ALPHA;0GREEK LETTER SMALL CAPITAL OMEGA",
  "AB66 0LATIN SMALL LETTER DZ DIGRAPH WITH RETROFLEX HOOK;3TS DIGRAPH WITH RETROFLEX HOOK",
  "AB68 3TURNED R WITH MIDDLE TILDE;0MODIFIER LETTER SMALL TURNED W;2LEFT TACK;2RIGHT TACK",
  "AB70 0CHEROKEE SMALL LETTER A;3E;3I;3O;3U;3V;3GA;3KA;3GE;3GI;3GO;3GU;3GV;3HA;3HE;3HI;3HO;3HU",
  "AB82 3HV;3LA;3LE;3LI;3LO;3LU;3LV;3MA;3ME;3MI;3MO;3MU;3NA;3HNA;3NAH;3NE;3NI;3NO;3NU;3NV;3QUA",
  "AB97 3QUE;3QUI;3QUO;3QUU;3QUV;3SA;3S;3SE;3SI;3SO;3SU;3SV;3DA;3TA;3DE;3TE;3DI;3TI;3DO;3DU;3DV",
  "ABAC 3DLA;3TLA;3TLE;3TLI;3TLO;3TLU;3TLV;3TSA;3TSE;3TSI;3TSO;3TSU;3TSV;3WA;3WE;3WI;3WO;3WU;3WV",
  "ABBF 3YA;0MEETEI MAYEK LETTER KOK;3SAM;3LAI;3MIT;3PA;3NA;3CHIL;3TIL;3KHOU;3NGOU;3THOU;3WAI",
  "ABCC 3YANG;3HUK;3UN;3I;3PHAM;3ATIYA;3GOK;3JHAM;3RAI;3BA;3JIL;3DIL;3GHOU;3DHOU;3BHAM;3KOK LONSUM",
  "ABDC 3LAI LONSUM;3MIT LONSUM;3PA LONSUM;3NA LONSUM;3TIL LONSUM;3NGOU LONSUM;3I LONSUM",
  "ABE3 2VOWEL SIGN ONAP;4INAP;4ANAP;4YENAP;4SOUNAP;4UNAP;4CHEINAP;4NUNG;2CHEIKHEI;2LUM IYEK",
  "ABED 2APUN IYEK",
  "ABF0 2DIGIT ZERO;3ONE;3TWO;3THREE;3FOUR;3FIVE;3SIX;3SEVEN;3EIGHT;3NINE",
  "D7B0 0HANGUL JUNGSEONG O-YEO;3O-I;2YO-A;3AE;3EO;2U-YEO;3I-I;2YU-AE;3O;2EU-A;3EO;3E;3O;2I-YA-O",
  "D7BE 3YAE;3YEO;3YE;3O-I;3YO;3YU;3I;2ARAEA-A;3E",
  "D7CB 1JONGSEONG NIEUN-RIEUL;3CHIEUCH;2SSANGTIKEUT;2SSANGTIKEUT-PIEUP;2TIKEUT-PIEUP;3SIOS",
  "D7D1 3SIOS-KIYEOK;3CIEUC;3CHIEUCH;3THIEUTH;2RIEUL-SSANGKIYEOK;3KIYEOK-HIEUH;2SSANGRIEUL-KHIEUKH",
  "D7D8 2RIEUL-MIEUM-HIEUH;3PIEUP-TIKEUT;4PHIEUPH;3YESIEUNG;3YEORINHIEUH-HIEUH;2KAPYEOUNRIEUL",
  "D7DE 2MIEUM-NIEUN;3SSANGNIEUN;2SSANGMIEUM;2MIEUM-PIEUP-SIOS;3CIEUC;2PIEUP-TIKEUT;3RIEUL-PHIEUPH",
  "D7E5 3MIEUM;2SSANGPIEUP;2PIEUP-SIOS-TIKEUT;3CIEUC;3CHIEUCH;2SIOS-MIEUM;3KAPYEOUNPIEUP",
  "D7EC 2SSANGSIOS-KIYEOK;3TIKEUT;2SIOS-PANSIOS;3CIEUC;3CHIEUCH;3THIEUTH;3HIEUH;2PANSIOS-PIEUP",
  "D7F4 3KAPYEOUNPIEUP;2YESIEUNG-MIEUM;3HIEUH;2CIEUC-PIEUP;3SSANGPIEUP;2SSANGCIEUC;2PHIEUPH-SIOS",
  "D7FB 3THIEUTH",
  "FB00 0LATIN SMALL LIGATURE FF;3FI;3FL;3FFI;3FFL;3LONG S T;3ST",
  "FB13 0ARMENIAN SMALL LIGATURE MEN NOW;4ECH;4INI;3VEW NOW;3MEN XEH",
  "FB1D 0HEBREW LETTER YOD WITH HIRIQ;1POINT JUDEO-SPANISH VARIKA;1LIGATURE YIDDISH YOD YOD PATAH",
  "FB20 1LETTER ALTERNATIVE AYIN;2WIDE ALEF;3DALET;3HE;3KAF;3LAMED;3FINAL MEM;3RESH;3TAV",
  "FB29 2ALTERNATIVE PLUS SIGN;2SHIN WITH SHIN DOT;4SIN DOT;4DAGESH AND SHIN DOT;6SIN DOT",
  "FB2E 2ALEF WITH PATAH;4QAMATS;4MAPIQ;2BET WITH DAGESH;2GIMEL WITH DAGESH;2DALET WITH DAGESH",
  "FB34 2HE WITH MAPIQ;2VAV WITH DAGESH;2ZAYIN WITH DAGESH",
  "FB38 2TET WITH DAGESH;2YOD WITH DAGESH;2FINAL KAF WITH DAGESH;2KAF WITH DAGESH",
  "FB3C 2LAMED WITH DAGESH",
  "FB3E 2MEM WITH DAGESH",
  "FB40 2NUN WITH DAGESH;2SAMEKH WITH DAGESH",
  "FB43 2FINAL PE WITH DAGESH;2PE WITH DAGESH",
  "FB46 2TSADI WITH DAGESH;2QOF WITH DAGESH;2RESH WITH DAGESH;2SHIN WITH DAGESH;2TAV WITH DAGESH",
  "FB4B 2VAV WITH HOLAM;2BET WITH RAFE;2KAF WITH RAFE;2PE WITH RAFE;1LIGATURE ALEF LAMED",
  "FB50 0ARABIC LETTER ALEF WASLA ISOLATED FORM;4FINAL FORM;2BEEH ISOLATED FORM;3FINAL FORM",
  "FB54 3INITIAL FORM;3MEDIAL FORM;2PEH ISOLATED FORM;3FINAL FORM;3INITIAL FORM;3MEDIAL FORM",
  "FB5A 2BEHEH ISOLATED FORM;3FINAL FORM;3INITIAL FORM;3MEDIAL FORM;2TTEHEH ISOLATED FORM",
  "FB5F 3FINAL FORM;3INITIAL FORM;3MEDIAL FORM;2TEHEH ISOLATED FORM;3FINAL FORM;3INITIAL FORM",
  "FB65 3MEDIAL FORM;2TTEH ISOLATED FORM;3FINAL FORM;3INITIAL FORM;3MEDIAL FORM;2VEH ISOLATED FORM",
  "FB6B 3FINAL FORM;3INITIAL FORM;3MEDIAL FORM;2PEHEH ISOLATED FORM;3FINAL FORM;3INITIAL FORM",
  "FB71 3MEDIAL FORM;2DYEH ISOLATED FORM;3FINAL FORM;3INITIAL FORM;3MEDIAL FORM",
  "FB76 2NYEH ISOLATED FORM;3FINAL FORM;3INITIAL FORM;3MEDIAL FORM;2TCHEH ISOLATED FORM",
  "FB7B 3FINAL FORM;3INITIAL FORM;3MEDIAL FORM;2TCHEHEH ISOLATED FORM;3FINAL FORM;3INITIAL FORM",
  "FB81 3MEDIAL FORM;2DDAHAL ISOLATED FORM;3FINAL FORM;2DAHAL ISOLATED FORM;3FINAL FORM",
  "FB86 2DUL ISOLATED FORM;3FINAL FORM;2DDAL ISOLATED FORM;3FINAL FORM;2JEH ISOLATED FORM",
  "FB8B 3FINAL FORM;2RREH ISOLATED FORM;3FINAL FORM;2KEHEH ISOLATED FORM;3FINAL FORM;3INITIAL FORM",
  "FB91 3MEDIAL FORM;2GAF ISOLATED FORM;3FINAL FORM;3INITIAL FORM;3MEDIAL FORM;2GUEH ISOLATED FORM",
  "FB97 3FINAL FORM;3INITIAL FORM;3MEDIAL FORM;2NGOEH ISOLATED FORM;3FINAL FORM;3INITIAL FORM",
  "FB9D 3MEDIAL FORM;2NOON GHUNNA ISOLATED FORM;4FINAL FORM;2RNOON ISOLATED FORM;3FINAL FORM",
  "FBA2 3INITIAL FORM;3MEDIAL FORM;2HEH WITH YEH ABOVE ISOLATED FORM;6FINAL FORM",
  "FBA6 3GOAL ISOLATED FORM;4FINAL FORM;4INITIAL FORM;4MEDIAL FORM;3DOACHASHMEE ISOLATED FORM",
  "FBAB 4FINAL FORM;4INITIAL FORM;4MEDIAL FORM;2YEH BARREE ISOLATED FORM;4FINAL FORM",
  "FBB0 4WITH HAMZA ABOVE ISOLATED FORM;7FINAL FORM;1SYMBOL DOT ABOVE;3BELOW;2TWO DOTS ABOVE",
  "FBB5 4BELOW;2THREE DOTS ABOVE;4BELOW;4POINTING DOWNWARDS ABOVE;6BELOW;2FOUR DOTS ABOVE;4BELOW",
  "FBBC 2DOUBLE VERTICAL BAR BELOW;2TWO DOTS VERTICALLY ABOVE;5BELOW;2RING;2SMALL TAH ABOVE;4BELOW",
  "FBC2 2WASLA ABOVE",
  "FBD3 1LETTER NG ISOLATED FORM;3FINAL FORM;3INITIAL FORM;3MEDIAL FORM;2U ISOLATED FORM",
  "FBD8 3FINAL FORM;2OE ISOLATED FORM;3FINAL FORM;2YU ISOLATED FORM;3FINAL FORM",
  "FBDD 2U WITH HAMZA ABOVE ISOLATED FORM;2VE ISOLATED FORM;3FINAL FORM;2KIRGHIZ OE ISOLATED FORM",
  "FBE1 4FINAL FORM;3YU ISOLATED FORM;4FINAL FORM;2E ISOLATED FORM;3FINAL FORM;3INITIAL FORM",
  "FBE7 3MEDIAL FORM;2UIGHUR KAZAKH KIRGHIZ ALEF MAKSURA INITIAL FORM;7MEDIAL FORM",
  "FBEA 1LIGATURE YEH WITH HAMZA ABOVE WITH ALEF ISOLATED FORM;8FINAL FORM;7AE ISOLATED FORM",
  "FBED 8FINAL FORM;7WAW ISOLATED FORM;8FINAL FORM;7U ISOLATED FORM;8FINAL FORM;7OE ISOLATED FORM",
  "FBF3 8FINAL FORM;7YU ISOLATED FORM;8FINAL FORM;7E ISOLATED FORM;8FINAL FORM;8INITIAL FORM",
  "FBF9 2UIGHUR KIRGHIZ YEH WITH HAMZA ABOVE WITH ALEF MAKSURA ISOLATED FORM",
  "FBFA 9ALEF MAKSURA FINAL FORM;9ALEF MAKSURA INITIAL FORM;1LETTER FARSI YEH ISOLATED FORM",
  "FBFD 4FINAL FORM;4INITIAL FORM;4MEDIAL FORM",
  "FC00 1LIGATURE YEH WITH HAMZA ABOVE WITH JEEM ISOLATED FORM;7HAH ISOLATED FORM",
  "FC02 7MEEM ISOLATED FORM;7ALEF MAKSURA ISOLATED FORM;7YEH ISOLATED FORM",
  "FC05 2BEH WITH JEEM ISOLATED FORM;4HAH ISOLATED FORM;4KHAH ISOLATED FORM;4MEEM ISOLATED FORM",
  "FC09 4ALEF MAKSURA ISOLATED FORM;4YEH ISOLATED FORM;2TEH WITH JEEM ISOLATED FORM",
  "FC0C 4HAH ISOLATED FORM;4KHAH ISOLATED FORM;4MEEM ISOLATED FORM;4ALEF MAKSURA ISOLATED FORM",
  "FC10 4YEH ISOLATED FORM;2THEH WITH JEEM ISOLATED FORM;4MEEM ISOLATED FORM",
  "FC13 4ALEF MAKSURA ISOLATED FORM;4YEH ISOLATED FORM;2JEEM WITH HAH ISOLATED FORM",
  "FC16 4MEEM ISOLATED FORM;2HAH WITH JEEM ISOLATED FORM;4MEEM ISOLATED FORM",
  "FC19 2KHAH WITH JEEM ISOLATED FORM;4HAH ISOLATED FORM;4MEEM ISOLATED FORM",
  "FC1C 2SEEN WITH JEEM ISOLATED FORM;4HAH ISOLATED FORM;4KHAH ISOLATED FORM;4MEEM ISOLATED FORM",
  "FC20 2SAD WITH HAH ISOLATED FORM;4MEEM ISOLATED FORM;2DAD WITH JEEM ISOLATED FORM",
  "FC23 4HAH ISOLATED FORM;4KHAH ISOLATED FORM;4MEEM ISOLATED FORM;2TAH WITH HAH ISOLATED FORM",
  "FC27 4MEEM ISOLATED FORM;2ZAH WITH MEEM ISOLATED FORM;2AIN WITH JEEM ISOLATED FORM",
  "FC2A 4MEEM ISOLATED FORM;2GHAIN WITH JEEM ISOLATED FORM;4MEEM ISOLATED FORM",
  "FC2D 2FEH WITH JEEM ISOLATED FORM;4HAH ISOLATED FORM;4KHAH ISOLATED FORM;4MEEM ISOLATED FORM",
  "FC31 4ALEF MAKSURA ISOLATED FORM;4YEH ISOLATED FORM;2QAF WITH HAH ISOLATED FORM",
  "FC34 4MEEM ISOLATED FORM;4ALEF MAKSURA ISOLATED FORM;4YEH ISOLATED FORM",
  "FC37 2KAF WITH ALEF ISOLATED FORM;4JEEM ISOLATED FORM;4HAH ISOLATED FORM;4KHAH ISOLATED FORM",
  "FC3B 4LAM ISOLATED FORM;4MEEM ISOLATED FORM;4ALEF MAKSURA ISOLATED FORM;4YEH ISOLATED FORM",
  "FC3F 2LAM WITH JEEM ISOLATED FORM;4HAH ISOLATED FORM;4KHAH ISOLATED FORM;4MEEM ISOLATED FORM",
  "FC43 4ALEF MAKSURA ISOLATED FORM;4YEH ISOLATED FORM;2MEEM WITH JEEM ISOLATED FORM",
  "FC46 4HAH ISOLATED FORM;4KHAH ISOLATED FORM;4MEEM ISOLATED FORM;4ALEF MAKSURA ISOLATED FORM",
  "FC4A 4YEH ISOLATED FORM;2NOON WITH JEEM ISOLATED FORM;4HAH ISOLATED FORM;4KHAH ISOLATED FORM",
  "FC4E 4MEEM ISOLATED FORM;4ALEF MAKSURA ISOLATED FORM;4YEH ISOLATED FORM",
  "FC51 2HEH WITH JEEM ISOLATED FORM;4MEEM ISOLATED FORM;4ALEF MAKSURA ISOLATED FORM",
  "FC54 4YEH ISOLATED FORM;2YEH WITH JEEM ISOLATED FORM;4HAH ISOLATED FORM;4KHAH ISOLATED FORM",
  "FC58 4MEEM ISOLATED FORM;4ALEF MAKSURA ISOLATED FORM;4YEH ISOLATED FORM",
  "FC5B 2THAL WITH SUPERSCRIPT ALEF ISOLATED FORM;2REH WITH SUPERSCRIPT ALEF ISOLATED FORM",
  "FC5D 2ALEF MAKSURA WITH SUPERSCRIPT ALEF ISOLATED FORM;2SHADDA WITH DAMMATAN ISOLATED FORM",
  "FC5F 4KASRATAN ISOLATED FORM;4FATHA ISOLATED FORM;4DAMMA ISOLATED FORM;4KASRA ISOLATED FORM",
  "FC63 4SUPERSCRIPT ALEF ISOLATED FORM;2YEH WITH HAMZA ABOVE WITH REH FINAL FORM;7ZAIN FINAL FORM",
  "FC66 7MEEM FINAL FORM;7NOON FINAL FORM;7ALEF MAKSURA FINAL FORM;7YEH FINAL FORM",
  "FC6A 2BEH WITH REH FINAL FORM;4ZAIN FINAL FORM;4MEEM FINAL FORM;4NOON FINAL FORM",
  "FC6E 4ALEF MAKSURA FINAL FORM;4YEH FINAL FORM;2TEH WITH REH FINAL FORM;4ZAIN FINAL FORM",
  "FC72 4MEEM FINAL FORM;4NOON FINAL FORM;4ALEF MAKSURA FINAL FORM;4YEH FINAL FORM",
  "FC76 2THEH WITH REH FINAL FORM;4ZAIN FINAL FORM;4MEEM FINAL FORM;4NOON FINAL FORM",
  "FC7A 4ALEF MAKSURA FINAL FORM;4YEH FINAL FORM;2FEH WITH ALEF MAKSURA FINAL FORM;4YEH FINAL FORM",
  "FC7E 2QAF WITH ALEF MAKSURA FINAL FORM;4YEH FINAL FORM;2KAF WITH ALEF FINAL FORM",
  "FC81 4LAM FINAL FORM;4MEEM FINAL FORM;4ALEF MAKSURA FINAL FORM;4YEH FINAL FORM",
  "FC85 2LAM WITH MEEM FINAL FORM;4ALEF MAKSURA FINAL FORM;4YEH FINAL FORM",
  "FC88 2MEEM WITH ALEF FINAL FORM;4MEEM FINAL FORM;2NOON WITH REH FINAL FORM;4ZAIN FINAL FORM",
  "FC8C 4MEEM FINAL FORM;4NOON FINAL FORM;4ALEF MAKSURA FINAL FORM;4YEH FINAL FORM",
  "FC90 2ALEF MAKSURA WITH SUPERSCRIPT ALEF FINAL FORM;2YEH WITH REH FINAL FORM;4ZAIN FINAL FORM",
  "FC93 4MEEM FINAL FORM;4NOON FINAL FORM;4ALEF MAKSURA FINAL FORM;4YEH FINAL FORM",
  "FC97 4HAMZA ABOVE WITH JEEM INITIAL FORM;7HAH INITIAL FORM;7KHAH INITIAL FORM",
  "FC9A 7MEEM INITIAL FORM;7HEH INITIAL FORM;2BEH WITH JEEM INITIAL FORM;4HAH INITIAL FORM",
  "FC9E 4KHAH INITIAL FORM;4MEEM INITIAL FORM;4HEH INITIAL FORM;2TEH WITH JEEM INITIAL FORM",
  "FCA2 4HAH INITIAL FORM;4KHAH INITIAL FORM;4MEEM INITIAL FORM;4HEH INITIAL FORM",
  "FCA6 2THEH WITH MEEM INITIAL FORM;2JEEM WITH HAH INITIAL FORM;4MEEM INITIAL FORM",
  "FCA9 2HAH WITH JEEM INITIAL FORM;4MEEM INITIAL FORM;2KHAH WITH JEEM INITIAL FORM",
  "FCAC 4MEEM INITIAL FORM;2SEEN WITH JEEM INITIAL FORM;4HAH INITIAL FORM;4KHAH INITIAL FORM",
  "FCB0 4MEEM INITIAL FORM;2SAD WITH HAH INITIAL FORM;4KHAH INITIAL FORM;4MEEM INITIAL FORM",
  "FCB4 2DAD WITH JEEM INITIAL FORM;4HAH INITIAL FORM;4KHAH INITIAL FORM;4MEEM INITIAL FORM",
  "FCB8 2TAH WITH HAH INITIAL FORM;2ZAH WITH MEEM INITIAL FORM;2AIN WITH JEEM INITIAL FORM",
  "FCBB 4MEEM INITIAL FORM;2GHAIN WITH JEEM INITIAL FORM;4MEEM INITIAL FORM",
  "FCBE 2FEH WITH JEEM INITIAL FORM;4HAH INITIAL FORM;4KHAH INITIAL FORM;4MEEM INITIAL FORM",
  "FCC2 2QAF WITH HAH INITIAL FORM;4MEEM INITIAL FORM;2KAF WITH JEEM INITIAL FORM",
  "FCC5 4HAH INITIAL FORM;4KHAH INITIAL FORM;4LAM INITIAL FORM;4MEEM INITIAL FORM",
  "FCC9 2LAM WITH JEEM INITIAL FORM;4HAH INITIAL FORM;4KHAH INITIAL FORM;4MEEM INITIAL FORM",
  "FCCD 4HEH INITIAL FORM;2MEEM WITH JEEM INITIAL FORM;4HAH INITIAL FORM;4KHAH INITIAL FORM",
  "FCD1 4MEEM INITIAL FORM;2NOON WITH JEEM INITIAL FORM;4HAH INITIAL FORM;4KHAH INITIAL FORM",
  "FCD5 4MEEM INITIAL FORM;4HEH INITIAL FORM;2HEH WITH JEEM INITIAL FORM;4MEEM INITIAL FORM",
  "FCD9 4SUPERSCRIPT ALEF INITIAL FORM;2YEH WITH JEEM INITIAL FORM;4HAH INITIAL FORM",
  "FCDC 4KHAH INITIAL FORM;4MEEM INITIAL FORM;4HEH INITIAL FORM;4HAMZA ABOVE WITH MEEM MEDIAL FORM",
  "FCE0 7HEH MEDIAL FORM;2BEH WITH MEEM MEDIAL FORM;4HEH MEDIAL FORM;2TEH WITH MEEM MEDIAL FORM",
  "FCE4 4HEH MEDIAL FORM;2THEH WITH MEEM MEDIAL FORM;4HEH MEDIAL FORM;2SEEN WITH MEEM MEDIAL FORM",
  "FCE8 4HEH MEDIAL FORM;2SHEEN WITH MEEM MEDIAL FORM;4HEH MEDIAL FORM;2KAF WITH LAM MEDIAL FORM",
  "FCEC 4MEEM MEDIAL FORM;2LAM WITH MEEM MEDIAL FORM;2NOON WITH MEEM MEDIAL FORM;4HEH MEDIAL FORM",
  "FCF0 2YEH WITH MEEM MEDIAL FORM;4HEH MEDIAL FORM;2SHADDA WITH FATHA MEDIAL FORM",
  "FCF3 4DAMMA MEDIAL FORM;4KASRA MEDIAL FORM;2TAH WITH ALEF MAKSURA ISOLATED FORM",
  "FCF6 4YEH ISOLATED FORM;2AIN WITH ALEF MAKSURA ISOLATED FORM;4YEH ISOLATED FORM",
  "FCF9 2GHAIN WITH ALEF MAKSURA ISOLATED FORM;4YEH ISOLATED FORM",
  "FCFB 2SEEN WITH ALEF MAKSURA ISOLATED FORM;4YEH ISOLATED FORM",
  "FCFD 2SHEEN WITH ALEF MAKSURA ISOLATED FORM;4YEH ISOLATED FORM",
  "FCFF 2HAH WITH ALEF MAKSURA ISOLATED FORM;4YEH ISOLATED FORM",
  "FD01 2JEEM WITH ALEF MAKSURA ISOLATED FORM;4YEH ISOLATED FORM",
  "FD03 2KHAH WITH ALEF MAKSURA ISOLATED FORM;4YEH ISOLATED FORM",
  "FD05 2SAD WITH ALEF MAKSURA ISOLATED FORM;4YEH ISOLATED FORM",
  "FD07 2DAD WITH ALEF MAKSURA ISOLATED FORM;4YEH ISOLATED FORM;2SHEEN WITH JEEM ISOLATED FORM",
  "FD0A 4HAH ISOLATED FORM;4KHAH ISOLATED FORM;4MEEM ISOLATED FORM;4REH ISOLATED FORM",
  "FD0E 2SEEN WITH REH ISOLATED FORM;2SAD WITH REH ISOLATED FORM;2DAD WITH REH ISOLATED FORM",
  "FD11 2TAH WITH ALEF MAKSURA FINAL FORM;4YEH FINAL FORM;2AIN WITH ALEF MAKSURA FINAL FORM",
  "FD14 4YEH FINAL FORM;2GHAIN WITH ALEF MAKSURA FINAL FORM;4YEH FINAL FORM",
  "FD17 2SEEN WITH ALEF MAKSURA FINAL FORM;4YEH FINAL FORM;2SHEEN WITH ALEF MAKSURA FINAL FORM",
  "FD1A 4YEH FINAL FORM;2HAH WITH ALEF MAKSURA FINAL FORM;4YEH FINAL FORM",
  "FD1D 2JEEM WITH ALEF MAKSURA FINAL FORM;4YEH FINAL FORM;2KHAH WITH ALEF MAKSURA FINAL FORM",
  "FD20 4YEH FINAL FORM;2SAD WITH ALEF MAKSURA FINAL FORM;4YEH FINAL FORM",
  "FD23 2DAD WITH ALEF MAKSURA FINAL FORM;4YEH FINAL FORM;2SHEEN WITH JEEM FINAL FORM",
  "FD26 4HAH FINAL FORM;4KHAH FINAL FORM;4MEEM FINAL FORM;4REH FINAL FORM",
  "FD2A 2SEEN WITH REH FINAL FORM;2SAD WITH REH FINAL FORM;2DAD WITH REH FINAL FORM",
  "FD2D 2SHEEN WITH JEEM INITIAL FORM;4HAH INITIAL FORM;4KHAH INITIAL FORM;4MEEM INITIAL FORM",
  "FD31 2SEEN WITH HEH INITIAL FORM;2SHEEN WITH HEH INITIAL FORM;2TAH WITH MEEM INITIAL FORM",
  "FD34 2SEEN WITH JEEM MEDIAL FORM;4HAH MEDIAL FORM;4KHAH MEDIAL FORM",
  "FD37 2SHEEN WITH JEEM MEDIAL FORM;4HAH MEDIAL FORM;4KHAH MEDIAL FORM;2TAH WITH MEEM MEDIAL FORM",
  "FD3B 2ZAH WITH MEEM MEDIAL FORM;2ALEF WITH FATHATAN FINAL FORM;5ISOLATED FORM",
  "FD3E 0ORNATE LEFT PARENTHESIS;1RIGHT PARENTHESIS;0ARABIC LIGATURE RAHIMAHU ALLAAH",
  "FD41 2RADI ALLAAHU ANH;4ANHAA;4ANHUM;4ANHUMAA;4ANHUNNA;2SALLALLAAHU ALAYHI WA-AALIH",
  "FD47 2ALAYHI AS-SALAAM;2ALAYHIM AS-SALAAM;2ALAYHIMAA AS-SALAAM;2ALAYHI AS-SALAATU WAS-SALAAM",
  "FD4B 2QUDDISA SIRRAH;2SALLALLAHU ALAYHI WAAALIHEE WA-SALLAM;2ALAYHAA AS-SALAAM",
  "FD4E 2TABAARAKA WA-TAAALAA;2RAHIMAHUM ALLAAH;2TEH WITH JEEM WITH MEEM INITIAL FORM",
  "FD51 4HAH WITH JEEM FINAL FORM;7INITIAL FORM;6MEEM INITIAL FORM;4KHAH WITH MEEM INITIAL FORM",
  "FD55 4MEEM WITH JEEM INITIAL FORM;6HAH INITIAL FORM;6KHAH INITIAL FORM",
  "FD58 2JEEM WITH MEEM WITH HAH FINAL FORM;7INITIAL FORM;2HAH WITH MEEM WITH YEH FINAL FORM",
  "FD5B 6ALEF MAKSURA FINAL FORM;2SEEN WITH HAH WITH JEEM INITIAL FORM;4JEEM WITH HAH INITIAL FORM",
  "FD5E 6ALEF MAKSURA FINAL FORM;4MEEM WITH HAH FINAL FORM;7INITIAL FORM;6JEEM INITIAL FORM",
  "FD62 6MEEM FINAL FORM;7INITIAL FORM;2SAD WITH HAH WITH HAH FINAL FORM;7INITIAL FORM",
  "FD66 4MEEM WITH MEEM FINAL FORM;2SHEEN WITH HAH WITH MEEM FINAL FORM;7INITIAL FORM",
  "FD69 4JEEM WITH YEH FINAL FORM;4MEEM WITH KHAH FINAL FORM;7INITIAL FORM;6MEEM FINAL FORM",
  "FD6D 7INITIAL FORM;2DAD WITH HAH WITH ALEF MAKSURA FINAL FORM;4KHAH WITH MEEM FINAL FORM",
  "FD70 7INITIAL FORM;2TAH WITH MEEM WITH HAH FINAL FORM;7INITIAL FORM;6MEEM INITIAL FORM",
  "FD74 6YEH FINAL FORM;2AIN WITH JEEM WITH MEEM FINAL FORM;4MEEM WITH MEEM FINAL FORM",
  "FD77 7INITIAL FORM;6ALEF MAKSURA FINAL FORM;2GHAIN WITH MEEM WITH MEEM FINAL FORM",
  "FD7A 6YEH FINAL FORM;6ALEF MAKSURA FINAL FORM;2FEH WITH KHAH WITH MEEM FINAL FORM;7INITIAL FORM",
  "FD7E 2QAF WITH MEEM WITH HAH FINAL FORM;6MEEM FINAL FORM;2LAM WITH HAH WITH MEEM FINAL FORM",
  "FD81 6YEH FINAL FORM;6ALEF MAKSURA FINAL FORM;4JEEM WITH JEEM INITIAL FORM;7FINAL FORM",
  "FD85 4KHAH WITH MEEM FINAL FORM;7INITIAL FORM;4MEEM WITH HAH FINAL FORM;7INITIAL FORM",
  "FD89 2MEEM WITH HAH WITH JEEM INITIAL FORM;6MEEM INITIAL FORM;6YEH FINAL FORM",
  "FD8C 4JEEM WITH HAH INITIAL FORM;6MEEM INITIAL FORM;4KHAH WITH JEEM INITIAL FORM",
  "FD8F 6MEEM INITIAL FORM",
  "FD92 4JEEM WITH KHAH INITIAL FORM;2HEH WITH MEEM WITH JEEM INITIAL FORM;6MEEM INITIAL FORM",
  "FD95 2NOON WITH HAH WITH MEEM INITIAL FORM;6ALEF MAKSURA FINAL FORM;4JEEM WITH MEEM FINAL FORM",
  "FD98 7INITIAL FORM;6ALEF MAKSURA FINAL FORM;4MEEM WITH YEH FINAL FORM;6ALEF MAKSURA FINAL FORM",
  "FD9C 2YEH WITH MEEM WITH MEEM FINAL FORM;7INITIAL FORM;2BEH WITH KHAH WITH YEH FINAL FORM",
  "FD9F 2TEH WITH JEEM WITH YEH FINAL FORM;6ALEF MAKSURA FINAL FORM;4KHAH WITH YEH FINAL FORM",
  "FDA2 6ALEF MAKSURA FINAL FORM;4MEEM WITH YEH FINAL FORM;6ALEF MAKSURA FINAL FORM",
  "FDA5 2JEEM WITH MEEM WITH YEH FINAL FORM;4HAH WITH ALEF MAKSURA FINAL FORM",
  "FDA7 4MEEM WITH ALEF MAKSURA FINAL FORM;2SEEN WITH KHAH WITH ALEF MAKSURA FINAL FORM",
  "FDA9 2SAD WITH HAH WITH YEH FINAL FORM;2SHEEN WITH HAH WITH YEH FINAL FORM",
  "FDAB 2DAD WITH HAH WITH YEH FINAL FORM;2LAM WITH JEEM WITH YEH FINAL FORM",
  "FDAD 4MEEM WITH YEH FINAL FORM;2YEH WITH HAH WITH YEH FINAL FORM;4JEEM WITH YEH FINAL FORM",
  "FDB0 4MEEM WITH YEH FINAL FORM;2MEEM WITH MEEM WITH YEH FINAL FORM",
  "FDB2 2QAF WITH MEEM WITH YEH FINAL FORM;2NOON WITH HAH WITH YEH FINAL FORM",
  "FDB4 2QAF WITH MEEM WITH HAH INITIAL FORM;2LAM WITH HAH WITH MEEM INITIAL FORM",
  "FDB6 2AIN WITH MEEM WITH YEH FINAL FORM;2KAF WITH MEEM WITH YEH FINAL FORM",
  "FDB8 2NOON WITH JEEM WITH HAH INITIAL FORM;2MEEM WITH KHAH WITH YEH FINAL FORM",
  "FDBA 2LAM WITH JEEM WITH MEEM INITIAL FORM;2KAF WITH MEEM WITH MEEM FINAL FORM",
  "FDBC 2LAM WITH JEEM WITH MEEM FINAL FORM;2NOON WITH JEEM WITH HAH FINAL FORM",
  "FDBE 2JEEM WITH HAH WITH YEH FINAL FORM;2HAH WITH JEEM WITH YEH FINAL FORM",
  "FDC0 2MEEM WITH JEEM WITH YEH FINAL FORM;2FEH WITH MEEM WITH YEH FINAL FORM",
  "FDC2 2BEH WITH HAH WITH YEH FINAL FORM;2KAF WITH MEEM WITH MEEM INITIAL FORM",
  "FDC4 2AIN WITH JEEM WITH MEEM INITIAL FORM;2SAD WITH MEEM WITH MEEM INITIAL FORM",
  "FDC6 2SEEN WITH KHAH WITH YEH FINAL FORM;2NOON WITH JEEM WITH YEH FINAL FORM",
  "FDCF 2SALAAMUHU ALAYNAA",
  "FDF0 2SALLA USED AS KORANIC STOP SIGN ISOLATED FORM",
  "FDF1 2QALA USED AS KORANIC STOP SIGN ISOLATED FORM;2ALLAH ISOLATED FORM;2AKBAR ISOLATED FORM",
  "FDF4 2MOHAMMAD ISOLATED FORM;2SALAM ISOLATED FORM;2RASOUL ISOLATED FORM;2ALAYHE ISOLATED FORM",
  "FDF8 2WASALLAM ISOLATED FORM;2SALLA ISOLATED FORM;2SALLALLAHOU ALAYHE WASALLAM;2JALLAJALALOUHOU",
  "FDFC 0RIAL SIGN;0ARABIC LIGATURE BISMILLAH AR-RAHMAN AR-RAHEEM;2SUBHAANAHU WA TAAALAA",
  "FDFF 2AZZA WA JALL;0VARIATION SELECTOR-1;22;23;24;25;26;27;28;29;210;211;212;213;214;215;216",
  "FE10 0PRESENTATION FORM FOR VERTICAL COMMA;4IDEOGRAPHIC COMMA;5FULL STOP;4COLON;4SEMICOLON",
  "FE15 4EXCLAMATION MARK;4QUESTION MARK;4LEFT WHITE LENTICULAR BRACKET",
  "FE18 4RIGHT WHITE LENTICULAR BRAKCET;4HORIZONTAL ELLIPSIS",
  "FE20 0COMBINING LIGATURE LEFT HALF;2RIGHT HALF;1DOUBLE TILDE LEFT HALF;3RIGHT HALF",
  "FE24 1MACRON LEFT HALF;2RIGHT HALF;1CONJOINING MACRON;1LIGATURE LEFT HALF BELOW",
  "FE28 2RIGHT HALF BELOW;1TILDE LEFT HALF BELOW;2RIGHT HALF BELOW;1MACRON LEFT HALF BELOW",
  "FE2C 2RIGHT HALF BELOW;1CONJOINING MACRON BELOW;1CYRILLIC TITLO LEFT HALF;3RIGHT HALF",
  "FE30 0PRESENTATION FORM FOR VERTICAL TWO DOT LEADER;4EM DASH;4EN DASH;4LOW LINE;4WAVY LOW LINE",
  "FE35 4LEFT PARENTHESIS;4RIGHT PARENTHESIS;4LEFT CURLY BRACKET;4RIGHT CURLY BRACKET",
  "FE39 4LEFT TORTOISE SHELL BRACKET;4RIGHT TORTOISE SHELL BRACKET;4LEFT BLACK LENTICULAR BRACKET",
  "FE3C 4RIGHT BLACK LENTICULAR BRACKET;4LEFT DOUBLE ANGLE BRACKET;4RIGHT DOUBLE ANGLE BRACKET",
  "FE3F 4LEFT ANGLE BRACKET;4RIGHT ANGLE BRACKET;4LEFT CORNER BRACKET;4RIGHT CORNER BRACKET",
  "FE43 4LEFT WHITE CORNER BRACKET;4RIGHT WHITE CORNER BRACKET;0SESAME DOT;0WHITE SESAME DOT",
  "FE47 0PRESENTATION FORM FOR VERTICAL LEFT SQUARE BRACKET;4RIGHT SQUARE BRACKET;0DASHED OVERLINE",
  "FE4A 0CENTRELINE OVERLINE;0WAVY OVERLINE;0DOUBLE WAVY OVERLINE;0DASHED LOW LINE",
  "FE4E 0CENTRELINE LOW LINE;0WAVY LOW LINE;0SMALL COMMA;1IDEOGRAPHIC COMMA;1FULL STOP",
  "FE54 1SEMICOLON;1COLON;1QUESTION MARK;1EXCLAMATION MARK;1EM DASH;1LEFT PARENTHESIS",
  "FE5A 1RIGHT PARENTHESIS;1LEFT CURLY BRACKET;1RIGHT CURLY BRACKET;1LEFT TORTOISE SHELL BRACKET",
  "FE5E 1RIGHT TORTOISE SHELL BRACKET;1NUMBER SIGN;1AMPERSAND;1ASTERISK;1PLUS SIGN;1HYPHEN-MINUS",
  "FE64 1LESS-THAN SIGN;1GREATER-THAN SIGN;1EQUALS SIGN",
  "FE68 1REVERSE SOLIDUS;1DOLLAR SIGN;1PERCENT SIGN;1COMMERCIAL AT",
  "FE70 0ARABIC FATHATAN ISOLATED FORM;1TATWEEL WITH FATHATAN ABOVE;1DAMMATAN ISOLATED FORM",
  "FE73 1TAIL FRAGMENT;1KASRATAN ISOLATED FORM",
  "FE76 1FATHA ISOLATED FORM;2MEDIAL FORM;1DAMMA ISOLATED FORM;2MEDIAL FORM;1KASRA ISOLATED FORM",
  "FE7B 2MEDIAL FORM;1SHADDA ISOLATED FORM;2MEDIAL FORM;1SUKUN ISOLATED FORM;2MEDIAL FORM",
  "FE80 1LETTER HAMZA ISOLATED FORM;2ALEF WITH MADDA ABOVE ISOLATED FORM;6FINAL FORM",
  "FE83 4HAMZA ABOVE ISOLATED FORM;6FINAL FORM;2WAW WITH HAMZA ABOVE ISOLATED FORM;6FINAL FORM",
  "FE87 2ALEF WITH HAMZA BELOW ISOLATED FORM;6FINAL FORM;2YEH WITH HAMZA ABOVE ISOLATED FORM",
  "FE8A 6FINAL FORM;6INITIAL FORM;6MEDIAL FORM;2ALEF ISOLATED FORM;3FINAL FORM;2BEH ISOLATED FORM",
  "FE90 3FINAL FORM;3INITIAL FORM;3MEDIAL FORM;2TEH MARBUTA ISOLATED FORM;4FINAL FORM",
  "FE95 3ISOLATED FORM;3FINAL FORM;3INITIAL FORM;3MEDIAL FORM;2THEH ISOLATED FORM;3FINAL FORM",
  "FE9B 3INITIAL FORM;3MEDIAL FORM;2JEEM ISOLATED FORM;3FINAL FORM;3INITIAL FORM;3MEDIAL FORM",
  "FEA1 2HAH ISOLATED FORM;3FINAL FORM;3INITIAL FORM;3MEDIAL FORM;2KHAH ISOLATED FORM;3FINAL FORM",
  "FEA7 3INITIAL FORM;3MEDIAL FORM;2DAL ISOLATED FORM;3FINAL FORM;2THAL ISOLATED FORM;3FINAL FORM",
  "FEAD 2REH ISOLATED FORM;3FINAL FORM;2ZAIN ISOLATED FORM;3FINAL FORM;2SEEN ISOLATED FORM",
  "FEB2 3FINAL FORM;3INITIAL FORM;3MEDIAL FORM;2SHEEN ISOLATED FORM;3FINAL FORM;3INITIAL FORM",
  "FEB8 3MEDIAL FORM;2SAD ISOLATED FORM;3FINAL FORM;3INITIAL FORM;3MEDIAL FORM;2DAD ISOLATED FORM",
  "FEBE 3FINAL FORM;3INITIAL FORM;3MEDIAL FORM;2TAH ISOLATED FORM;3FINAL FORM;3INITIAL FORM",
  "FEC4 3MEDIAL FORM;2ZAH ISOLATED FORM;3FINAL FORM;3INITIAL FORM;3MEDIAL FORM;2AIN ISOLATED FORM",
  "FECA 3FINAL FORM;3INITIAL FORM;3MEDIAL FORM;2GHAIN ISOLATED FORM;3FINAL FORM;3INITIAL FORM",
  "FED0 3MEDIAL FORM;2FEH ISOLATED FORM;3FINAL FORM;3INITIAL FORM;3MEDIAL FORM;2QAF ISOLATED FORM",
  "FED6 3FINAL FORM;3INITIAL FORM;3MEDIAL FORM;2KAF ISOLATED FORM;3FINAL FORM;3INITIAL FORM",
  "FEDC 3MEDIAL FORM;2LAM ISOLATED FORM;3FINAL FORM;3INITIAL FORM;3MEDIAL FORM;2MEEM ISOLATED FORM",
  "FEE2 3FINAL FORM;3INITIAL FORM;3MEDIAL FORM;2NOON ISOLATED FORM;3FINAL FORM;3INITIAL FORM",
  "FEE8 3MEDIAL FORM;2HEH ISOLATED FORM;3FINAL FORM;3INITIAL FORM;3MEDIAL FORM;2WAW ISOLATED FORM",
  "FEEE 3FINAL FORM;2ALEF MAKSURA ISOLATED FORM;4FINAL FORM;2YEH ISOLATED FORM;3FINAL FORM",
  "FEF3 3INITIAL FORM;3MEDIAL FORM;1LIGATURE LAM WITH ALEF WITH MADDA ABOVE ISOLATED FORM",
  "FEF6 8FINAL FORM;6HAMZA ABOVE ISOLATED FORM;8FINAL FORM;7BELOW ISOLATED FORM;8FINAL FORM",
  "FEFB 5ISOLATED FORM;5FINAL FORM",
  "FEFF 0ZERO WIDTH NO-BREAK SPACE",
  "FF01 0FULLWIDTH EXCLAMATION MARK;1QUOTATION MARK;1NUMBER SIGN;1DOLLAR SIGN;1PERCENT SIGN",
  "FF06 1AMPERSAND;1APOSTROPHE;1LEFT PARENTHESIS;1RIGHT PARENTHESIS;1ASTERISK;1PLUS SIGN;1COMMA",
  "FF0D 1HYPHEN-MINUS;1FULL STOP;1SOLIDUS;1DIGIT ZERO;2ONE;2TWO;2THREE;2FOUR;2FIVE;2SIX;2SEVEN",
  "FF18 2EIGHT;2NINE;1COLON;1SEMICOLON;1LESS-THAN SIGN;1EQUALS SIGN;1GREATER-THAN SIGN",
  "FF1F 1QUESTION MARK;1COMMERCIAL AT;1LATIN CAPITAL LETTER A;4B;4C;4D;4E;4F;4G;4H;4I;4J;4K;4L;4M",
  "FF2E 4N;4O;4P;4Q;4R;4S;4T;4U;4V;4W;4X;4Y;4Z;1LEFT SQUARE BRACKET;1REVERSE SOLIDUS",
  "FF3D 1RIGHT SQUARE BRACKET;1CIRCUMFLEX ACCENT;1LOW LINE;1GRAVE ACCENT;1LATIN SMALL LETTER A;4B",
  "FF43 4C;4D;4E;4F;4G;4H;4I;4J;4K;4L;4M;4N;4O;4P;4Q;4R;4S;4T;4U;4V;4W;4X;4Y;4Z",
  "FF5B 1LEFT CURLY BRACKET;1VERTICAL LINE;1RIGHT CURLY BRACKET;1TILDE;1LEFT WHITE PARENTHESIS",
  "FF60 1RIGHT WHITE PARENTHESIS;0HALFWIDTH IDEOGRAPHIC FULL STOP;1LEFT CORNER BRACKET",
  "FF63 1RIGHT CORNER BRACKET;1IDEOGRAPHIC COMMA;1KATAKANA MIDDLE DOT;2LETTER WO;3SMALL A;4I;4U;4E",
  "FF6B 4O;4YA;4YU;4YO;4TU;1KATAKANA-HIRAGANA PROLONGED SOUND MARK;1KATAKANA LETTER A;3I;3U;3E;3O",
  "FF76 3KA;3KI;3KU;3KE;3KO;3SA;3SI;3SU;3SE;3SO;3TA;3TI;3TU;3TE;3TO;3NA;3NI;3NU;3NE;3NO;3HA;3HI",
  "FF8C 3HU;3HE;3HO;3MA;3MI;3MU;3ME;3MO;3YA;3YU;3YO;3RA;3RI;3RU;3RE;3RO;3WA;3N;2VOICED SOUND MARK",
  "FF9F 2SEMI-VOICED SOUND MARK;1HANGUL FILLER;2LETTER KIYEOK;3SSANGKIYEOK;3KIYEOK-SIOS;3NIEUN",
  "FFA5 3NIEUN-CIEUC;4HIEUH;3TIKEUT;3SSANGTIKEUT;3RIEUL;3RIEUL-KIYEOK;4MIEUM;4PIEUP;4SIOS;4THIEUTH",
  "FFAF 4PHIEUPH;4HIEUH;3MIEUM;3PIEUP;3SSANGPIEUP;3PIEUP-SIOS;3SIOS;3SSANGSIOS;3IEUNG;3CIEUC",
  "FFB9 3SSANGCIEUC;3CHIEUCH;3KHIEUKH;3THIEUTH;3PHIEUPH;3HIEUH",
  "FFC2 3A;3AE;3YA;3YAE;3EO;3E",
  "FFCA 3YEO;3YE;3O;3WA;3WAE;3OE",
  "FFD2 3YO;3U;3WEO;3WE;3WI;3YU",
  "FFDA 3EU;3YI;3I",
  "FFE0 0FULLWIDTH CENT SIGN;1POUND SIGN;1NOT SIGN;1MACRON;1BROKEN BAR;1YEN SIGN;1WON SIGN",
  "FFE8 0HALFWIDTH FORMS LIGHT VERTICAL;1LEFTWARDS ARROW;1UPWARDS ARROW;1RIGHTWARDS ARROW",
  "FFEC 1DOWNWARDS ARROW;1BLACK SQUARE;1WHITE CIRCLE",
  "FFF9 0INTERLINEAR ANNOTATION ANCHOR;2SEPARATOR;2TERMINATOR;0OBJECT REPLACEMENT CHARACTER",
  "FFFD 0REPLACEMENT CHARACTER"]

end FormCheck.Text.CharacterName
