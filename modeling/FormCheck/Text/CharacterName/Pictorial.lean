/-! # Pictographs

The names of pictographs, game pieces and enclosed letters, in code order.
-/

namespace FormCheck.Text.CharacterName

def pictorial : List String := [
  "1E000 0COMBINING GLAGOLITIC LETTER AZU;3BUKY;3VEDE;3GLAGOLI;3DOBRO;3YESTU;3ZHIVETE",
  "1E008 3ZEMLJA;3IZHE;3INITIAL IZHE;3I;3DJERVI;3KAKO;3LJUDIJE;3MYSLITE;3NASHI;3ONU;3POKOJI;3RITSI",
  "1E014 3SLOVO;3TVRIDO;3UKU;3FRITU;3HERU",
  "1E01B 3SHTA;3TSI;3CHRIVI;3SHA;3YERU;3YERI;3YATI",
  "1E023 3YU;3SMALL YUS",
  "1E026 3YO;3IOTATED SMALL YUS;3BIG YUS;3IOTATED BIG YUS;3FITA",
  "1E100 0NYIAKENG PUACHUE HMONG LETTER MA;4TSA;4NTA;4TA;4HA;4NA;4XA;4NKA;4CA;4LA;4SA;4ZA;4NCA",
  "1E10D 4NTSA;4KA;4DA;4NYA;4NRA;4VA;4NTXA;4TXA;4FA;4RA;4QA;4YA;4NQA;4PA;4XYA;4NPA;4DLA;4NPLA;4HAH",
  "1E120 4MLA;4PLA;4GA;4RRA;4A;4AA;4I;4U;4O;4OO;4E;4EE;4W",
  "1E130 3TONE-B;4M;4J;4V;4S;4G;4D;3SIGN FOR PERSON;5THING;5LOCATION;5ANIMAL;5INVERTEBRATE;4XW XW",
  "1E13D 3SYLLABLE LENGTHENER",
  "1E140 3DIGIT ZERO;4ONE;4TWO;4THREE;4FOUR;4FIVE;4SIX;4SEVEN;4EIGHT;4NINE",
  "1E14E 3LOGOGRAM NYAJ;3CIRCLED CA",
  "1E290 0TOTO LETTER PA;2BA;2TA;2DA;2KA;2GA;2MA;2NA;2NGA;2SA;2CHA;2YA;2WA;2JA;2HA;2RA;2LA;2I",
  "1E2A2 2BREATHY I;2IU;2BREATHY IU;2U;2E;2BREATHY E;2EO;2BREATHY EO;2O;2AE;2BREATHY AE;2A",
  "1E2AE 1SIGN RISING TONE",
  "1E2C0 0WANCHO LETTER AA;2A;2BA;2CA;2DA;2GA;2YA;2PHA;2LA;2NA;2PA;2TA;2THA;2FA;2SA;2SHA;2JA;2ZA",
  "1E2D2 2WA;2VA;2KA;2O;2AU;2RA;2MA;2KHA;2HA;2E;2I;2NGA;2U;2LLHA;2TSA;2TRA;2ONG;2AANG;2ANG;2ING",
  "1E2E6 2ON;2EN;2AAN;2NYA;2UEN;2YIH;1TONE TUP;2TUPNI;2KOI;2KOINI;1DIGIT ZERO;2ONE;2TWO;2THREE",
  "1E2F4 2FOUR;2FIVE;2SIX;2SEVEN;2EIGHT;2NINE",
  "1E2FF 1NGUN SIGN",
  "1E7E0 0ETHIOPIC SYLLABLE HHYA;2HHYU;2HHYI;2HHYAA;2HHYEE;2HHYE;2HHYO",
  "1E7E8 2GURAGE HHWA;2HHWI;2HHWEE;2HHWE",
  "1E7ED 2GURAGE MWI;3MWEE",
  "1E7F0 3QWI;3QWEE;3QWE;3BWI;3BWEE;3KWI;3KWEE;3KWE;3GWI;3GWEE;3GWE;3FWI;3FWEE;3PWI;3PWEE",
  "1E800 0MENDE KIKAKUI SYLLABLE M001 KI;3M002 KA;3M003 KU;3M065 KEE;3M095 KE;3M076 KOO;3M048 KO",
  "1E807 3M179 KUA;3M004 WI;3M005 WA;3M006 WU;3M126 WEE;3M118 WE;3M114 WOO;3M045 WO;3M194 WUI",
  "1E810 3M143 WEI;3M061 WVI;3M049 WVA;3M139 WVE;3M007 MIN;3M008 MAN;3M009 MUN;3M059 MEN;3M094 MON",
  "1E819 3M154 MUAN;3M189 MUEN;3M010 BI;3M011 BA;3M012 BU;3M150 BEE;3M097 BE;3M103 BOO;3M138 BO",
  "1E822 3M013 I;3M014 A;3M015 U;3M163 EE;3M100 E;3M165 OO;3M147 O;3M137 EI;3M131 IN;3M135 IN",
  "1E82C 3M195 AN;3M178 EN;3M019 SI;3M020 SA;3M021 SU;3M162 SEE;3M116 SE;3M136 SOO;3M079 SO",
  "1E835 3M196 SIA;3M025 LI;3M026 LA;3M027 LU;3M084 LEE;3M073 LE;3M054 LOO;3M153 LO;3M110 LONG LE",
  "1E83E 3M016 DI;3M017 DA;3M018 DU;3M089 DEE;3M180 DOO;3M181 DO;3M022 TI;3M023 TA;3M024 TU",
  "1E847 3M091 TEE;3M055 TE;3M104 TOO;3M069 TO;3M028 JI;3M029 JA;3M030 JU;3M157 JEE;3M113 JE",
  "1E850 3M160 JOO;3M063 JO;3M175 LONG JO;3M031 YI;3M032 YA;3M033 YU;3M109 YEE;3M080 YE;3M141 YOO",
  "1E859 3M121 YO;3M034 FI;3M035 FA;3M036 FU;3M078 FEE;3M075 FE;3M133 FOO;3M088 FO;3M197 FUA",
  "1E862 3M101 FAN;3M037 NIN;3M038 NAN;3M039 NUN;3M117 NEN;3M169 NON;3M176 HI;3M041 HA;3M186 HU",
  "1E86B 3M040 HEE;3M096 HE;3M042 HOO;3M140 HO;3M083 HEEI;3M128 HOOU;3M053 HIN;3M130 HAN;3M087 HUN",
  "1E874 3M052 HEN;3M193 HON;3M046 HUAN;3M090 NGGI;3M043 NGGA;3M082 NGGU;3M115 NGGEE;3M146 NGGE",
  "1E87C 3M156 NGGOO;3M120 NGGO;3M159 NGGAA;3M127 NGGUA;3M086 LONG NGGE;3M106 LONG NGGOO",
  "1E882 3M183 LONG NGGO;3M155 GI;3M111 GA;3M168 GU;3M190 GEE;3M166 GUEI;3M167 GUAN;3M184 NGEN",
  "1E88A 3M057 NGON;3M177 NGUAN;3M068 PI;3M099 PA;3M050 PU;3M081 PEE;3M051 PE;3M102 POO;3M066 PO",
  "1E893 3M145 MBI;3M062 MBA;3M122 MBU;3M047 MBEE;3M188 MBEE;3M072 MBE;3M172 MBOO;3M174 MBO",
  "1E89B 3M187 MBUU;3M161 LONG MBE;3M105 LONG MBOO;3M142 LONG MBO;3M132 KPI;3M092 KPA;3M074 KPU",
  "1E8A2 3M044 KPEE;3M108 KPE;3M112 KPOO;3M158 KPO;3M124 GBI;3M056 GBA;3M148 GBU;3M093 GBEE",
  "1E8AA 3M107 GBE;3M071 GBOO;3M070 GBO;3M171 RA;3M123 NDI;3M129 NDA;3M125 NDU;3M191 NDEE",
  "1E8B2 3M119 NDE;3M067 NDOO;3M064 NDO;3M152 NJA;3M192 NJU;3M149 NJEE;3M134 NJOO;3M182 VI",
  "1E8BA 3M185 VA;3M151 VU;3M173 VEE;3M085 VE;3M144 VOO;3M077 VO;3M164 NYIN;3M058 NYAN;3M170 NYUN",
  "1E8C3 3M098 NYEN;3M060 NYON",
  "1E8C7 2DIGIT ONE;3TWO;3THREE;3FOUR;3FIVE;3SIX;3SEVEN;3EIGHT;3NINE;2COMBINING NUMBER TEENS;4TENS",
  "1E8D2 4HUNDREDS;4THOUSANDS;4TEN THOUSANDS;4HUNDRED THOUSANDS;4MILLIONS",
  "1E900 0ADLAM CAPITAL LETTER ALIF;3DAALI;3LAAM;3MIIM;3BA;3SINNYIIYHE;3PE;3BHE;3RA;3E;3FA;3I;3O",
  "1E90D 3DHA;3YHE;3WAW;3NUN;3KAF;3YA;3U;3JIIM;3CHI;3HA;3QAAF;3GA;3NYA;3TU;3NHA;3VA;3KHA;3GBE;3ZAL",
  "1E920 3KPO;3SHA;1SMALL LETTER ALIF;3DAALI;3LAAM;3MIIM;3BA;3SINNYIIYHE;3PE;3BHE;3RA;3E;3FA;3I;3O",
  "1E92F 3DHA;3YHE;3WAW;3NUN;3KAF;3YA;3U;3JIIM;3CHI;3HA;3QAAF;3GA;3NYA;3TU;3NHA;3VA;3KHA;3GBE;3ZAL",
  "1E942 3KPO;3SHA;1ALIF LENGTHENER;1VOWEL LENGTHENER;1GEMINATION MARK;1HAMZA;1CONSONANT MODIFIER",
  "1E949 1GEMINATE CONSONANT MODIFIER;1NUKTA;1NASALIZATION MARK",
  "1E950 1DIGIT ZERO;2ONE;2TWO;2THREE;2FOUR;2FIVE;2SIX;2SEVEN;2EIGHT;2NINE",
  "1E95E 1INITIAL EXCLAMATION MARK;2QUESTION MARK",
  "1EC71 0INDIC SIYAQ NUMBER ONE;3TWO;3THREE;3FOUR;3FIVE;3SIX;3SEVEN;3EIGHT;3NINE;3TEN;3TWENTY",
  "1EC7C 3THIRTY;3FORTY;3FIFTY;3SIXTY;3SEVENTY;3EIGHTY;3NINETY;3ONE HUNDRED;3TWO HUNDRED",
  "1EC85 3THREE HUNDRED;3FOUR HUNDRED;3FIVE HUNDRED;3SIX HUNDRED;3SEVEN HUNDRED;3EIGHT HUNDRED",
  "1EC8B 3NINE HUNDRED;3ONE THOUSAND;3TWO THOUSAND;3THREE THOUSAND;3FOUR THOUSAND;3FIVE THOUSAND",
  "1EC91 3SIX THOUSAND;3SEVEN THOUSAND;3EIGHT THOUSAND;3NINE THOUSAND;3TEN THOUSAND",
  "1EC96 3TWENTY THOUSAND;3THIRTY THOUSAND;3FORTY THOUSAND;3FIFTY THOUSAND;3SIXTY THOUSAND",
  "1EC9B 3SEVENTY THOUSAND;3EIGHTY THOUSAND;3NINETY THOUSAND;3LAKH;3LAKHAN;2LAKH MARK",
  "1ECA1 2NUMBER KAROR;3KARORAN;3PREFIXED ONE;4TWO;4THREE;4FOUR;4FIVE;4SIX;4SEVEN;4EIGHT;4NINE",
  "1ECAC 2PLACEHOLDER;2FRACTION ONE QUARTER;4HALF;3THREE QUARTERS;2RUPEE MARK",
  "1ECB1 2NUMBER ALTERNATE ONE;4TWO;4TEN THOUSAND;2ALTERNATE LAKH MARK",
  "1ED01 0OTTOMAN SIYAQ NUMBER ONE;3TWO;3THREE;3FOUR;3FIVE;3SIX;3SEVEN;3EIGHT;3NINE;3TEN;3TWENTY",
  "1ED0C 3THIRTY;3FORTY;3FIFTY;3SIXTY;3SEVENTY;3EIGHTY;3NINETY;3ONE HUNDRED;3TWO HUNDRED",
  "1ED15 3THREE HUNDRED;3FOUR HUNDRED;3FIVE HUNDRED;3SIX HUNDRED;3SEVEN HUNDRED;3EIGHT HUNDRED",
  "1ED1B 3NINE HUNDRED;3ONE THOUSAND;3TWO THOUSAND;3THREE THOUSAND;3FOUR THOUSAND;3FIVE THOUSAND",
  "1ED21 3SIX THOUSAND;3SEVEN THOUSAND;3EIGHT THOUSAND;3NINE THOUSAND;3TEN THOUSAND",
  "1ED26 3TWENTY THOUSAND;3THIRTY THOUSAND;3FORTY THOUSAND;3FIFTY THOUSAND;3SIXTY THOUSAND",
  "1ED2B 3SEVENTY THOUSAND;3EIGHTY THOUSAND;3NINETY THOUSAND;2MARRATAN;2ALTERNATE NUMBER TWO",
  "1ED30 4THREE;4FOUR;4FIVE;4SIX;4SEVEN;4EIGHT;4NINE;4TEN;4FOUR HUNDRED;4SIX HUNDRED;4TWO THOUSAND",
  "1ED3B 4TEN THOUSAND;2FRACTION ONE HALF;4SIXTH",
  "1EE00 0ARABIC MATHEMATICAL ALEF;2BEH;2JEEM;2DAL",
  "1EE05 2WAW;2ZAIN;2HAH;2TAH;2YEH;2KAF;2LAM;2MEEM;2NOON;2SEEN;2AIN;2FEH;2SAD;2QAF;2REH;2SHEEN",
  "1EE15 2TEH;2THEH;2KHAH;2THAL;2DAD;2ZAH;2GHAIN;2DOTLESS BEH;3NOON;3FEH;3QAF",
  "1EE21 2INITIAL BEH;3JEEM",
  "1EE24 3HEH",
  "1EE27 3HAH",
  "1EE29 3YEH;3KAF;3LAM;3MEEM;3NOON;3SEEN;3AIN;3FEH;3SAD;3QAF",
  "1EE34 3SHEEN;3TEH;3THEH;3KHAH",
  "1EE39 3DAD",
  "1EE3B 3GHAIN",
  "1EE42 2TAILED JEEM",
  "1EE47 3HAH",
  "1EE49 3YEH",
  "1EE4B 3LAM",
  "1EE4D 3NOON;3SEEN;3AIN",
  "1EE51 3SAD;3QAF",
  "1EE54 3SHEEN",
  "1EE57 3KHAH",
  "1EE59 3DAD",
  "1EE5B 3GHAIN",
  "1EE5D 3DOTLESS NOON",
  "1EE5F 4QAF",
  "1EE61 2STRETCHED BEH;3JEEM",
  "1EE64 3HEH",
  "1EE67 3HAH;3TAH;3YEH;3KAF",
  "1EE6C 3MEEM;3NOON;3SEEN;3AIN;3FEH;3SAD;3QAF",
  "1EE74 3SHEEN;3TEH;3THEH;3KHAH",
  "1EE79 3DAD;3ZAH;3GHAIN;3DOTLESS BEH",
  "1EE7E 4FEH",
  "1EE80 2LOOPED ALEF;3BEH;3JEEM;3DAL;3HEH;3WAW;3ZAIN;3HAH;3TAH;3YEH",
  "1EE8B 3LAM;3MEEM;3NOON;3SEEN;3AIN;3FEH;3SAD;3QAF;3REH;3SHEEN;3TEH;3THEH;3KHAH;3THAL;3DAD;3ZAH",
  "1EE9B 3GHAIN",
  "1EEA1 2DOUBLE-STRUCK BEH;4JEEM;4DAL",
  "1EEA5 4WAW;4ZAIN;4HAH;4TAH;4YEH",
  "1EEAB 4LAM;4MEEM;4NOON;4SEEN;4AIN;4FEH;4SAD;4QAF;4REH;4SHEEN;4TEH;4THEH;4KHAH;4THAL;4DAD;4ZAH",
  "1EEBB 4GHAIN",
  "1EEF0 2OPERATOR MEEM WITH HAH WITH TATWEEL;3HAH WITH DAL",
  "1F000 0MAHJONG TILE EAST WIND;2SOUTH WIND;2WEST WIND;2NORTH WIND;2RED DRAGON;2GREEN DRAGON",
  "1F006 2WHITE DRAGON;2ONE OF CHARACTERS;2TWO OF CHARACTERS;2THREE OF CHARACTERS",
  "1F00A 2FOUR OF CHARACTERS;2FIVE OF CHARACTERS;2SIX OF CHARACTERS;2SEVEN OF CHARACTERS",
  "1F00E 2EIGHT OF CHARACTERS;2NINE OF CHARACTERS;2ONE OF BAMBOOS;2TWO OF BAMBOOS",
  "1F012 2THREE OF BAMBOOS;2FOUR OF BAMBOOS;2FIVE OF BAMBOOS;2SIX OF BAMBOOS;2SEVEN OF BAMBOOS",
  "1F017 2EIGHT OF BAMBOOS;2NINE OF BAMBOOS;2ONE OF CIRCLES;2TWO OF CIRCLES;2THREE OF CIRCLES",
  "1F01C 2FOUR OF CIRCLES;2FIVE OF CIRCLES;2SIX OF CIRCLES;2SEVEN OF CIRCLES;2EIGHT OF CIRCLES",
  "1F021 2NINE OF CIRCLES;2PLUM;2ORCHID;2BAMBOO;2CHRYSANTHEMUM;2SPRING;2SUMMER;2AUTUMN;2WINTER",
  "1F02A 2JOKER;2BACK",
  "1F030 0DOMINO TILE HORIZONTAL BACK;2HORIZONTAL-00-00;401;402;403;404;405;406;301-00;401;402;403",
  "1F03C 404;405;406;302-00;401;402;403;404;405;406;303-00;401;402;403;404;405;406;304-00;401;402",
  "1F050 403;404;405;406;305-00;401;402;403;404;405;406;306-00;401;402;403;404;405;406",
  "1F062 2VERTICAL BACK;2VERTICAL-00-00;401;402;403;404;405;406;301-00;401;402;403;404;405;406",
  "1F071 302-00;401;402;403;404;405;406;303-00;401;402;403;404;405;406;304-00;401;402;403;404;405",
  "1F085 406;305-00;401;402;403;404;405;406;306-00;401;402;403;404;405;406",
  "1F0A0 0PLAYING CARD BACK;2ACE OF SPADES;2TWO OF SPADES;2THREE OF SPADES;2FOUR OF SPADES",
  "1F0A5 2FIVE OF SPADES;2SIX OF SPADES;2SEVEN OF SPADES;2EIGHT OF SPADES;2NINE OF SPADES",
  "1F0AA 2TEN OF SPADES;2JACK OF SPADES;2KNIGHT OF SPADES;2QUEEN OF SPADES;2KING OF SPADES",
  "1F0B1 2ACE OF HEARTS;2TWO OF HEARTS;2THREE OF HEARTS;2FOUR OF HEARTS;2FIVE OF HEARTS",
  "1F0B6 2SIX OF HEARTS;2SEVEN OF HEARTS;2EIGHT OF HEARTS;2NINE OF HEARTS;2TEN OF HEARTS",
  "1F0BB 2JACK OF HEARTS;2KNIGHT OF HEARTS;2QUEEN OF HEARTS;2KING OF HEARTS;2RED JOKER",
  "1F0C1 2ACE OF DIAMONDS;2TWO OF DIAMONDS;2THREE OF DIAMONDS;2FOUR OF DIAMONDS;2FIVE OF DIAMONDS",
  "1F0C6 2SIX OF DIAMONDS;2SEVEN OF DIAMONDS;2EIGHT OF DIAMONDS;2NINE OF DIAMONDS;2TEN OF DIAMONDS",
  "1F0CB 2JACK OF DIAMONDS;2KNIGHT OF DIAMONDS;2QUEEN OF DIAMONDS;2KING OF DIAMONDS;2BLACK JOKER",
  "1F0D1 2ACE OF CLUBS;2TWO OF CLUBS;2THREE OF CLUBS;2FOUR OF CLUBS;2FIVE OF CLUBS;2SIX OF CLUBS",
  "1F0D7 2SEVEN OF CLUBS;2EIGHT OF CLUBS;2NINE OF CLUBS;2TEN OF CLUBS;2JACK OF CLUBS",
  "1F0DC 2KNIGHT OF CLUBS;2QUEEN OF CLUBS;2KING OF CLUBS;2WHITE JOKER;2FOOL;2TRUMP-1;32;33;34;35",
  "1F0E6 36;37;38;39;310;311;312;313;314;315;316;317;318;319;320;321",
  "1F100 0DIGIT ZERO FULL STOP;2COMMA;1ONE COMMA;1TWO COMMA;1THREE COMMA;1FOUR COMMA;1FIVE COMMA",
  "1F107 1SIX COMMA;1SEVEN COMMA;1EIGHT COMMA;1NINE COMMA;0DINGBAT CIRCLED SANS-SERIF DIGIT ZERO",
  "1F10C 1NEGATIVE CIRCLED SANS-SERIF DIGIT ZERO;0CIRCLED ZERO WITH SLASH;1ANTICLOCKWISE ARROW",
  "1F10F 1DOLLAR SIGN WITH OVERLAID BACKSLASH;0PARENTHESIZED LATIN CAPITAL LETTER A;4B;4C;4D;4E;4F",
  "1F116 4G;4H;4I;4J;4K;4L;4M;4N;4O;4P;4Q;4R;4S;4T;4U;4V;4W;4X;4Y;4Z",
  "1F12A 0TORTOISE SHELL BRACKETED LATIN CAPITAL LETTER S;0CIRCLED ITALIC LATIN CAPITAL LETTER C",
  "1F12C 5R;1CD;1WZ;0COPYLEFT SYMBOL;0SQUARED LATIN CAPITAL LETTER A;4B;4C;4D;4E;4F;4G;4H;4I;4J;4K",
  "1F13B 4L;4M;4N;4O;4P;4Q;4R;4S;4T;4U;4V;4W;4X;4Y;4Z;1HV;1MV;1SD;1SS;1PPV;1WC",
  "1F150 0NEGATIVE CIRCLED LATIN CAPITAL LETTER A;5B;5C;5D;5E;5F;5G;5H;5I;5J;5K;5L;5M;5N;5O;5P;5Q",
  "1F161 5R;5S;5T;5U;5V;5W;5X;5Y;5Z;0RAISED MC SIGN;1MD SIGN;1MR SIGN;0CIRCLED CC",
  "1F16E 1C WITH OVERLAID BACKSLASH;1HUMAN FIGURE;0NEGATIVE SQUARED LATIN CAPITAL LETTER A;5B;5C",
  "1F173 5D;5E;5F;5G;5H;5I;5J;5K;5L;5M;5N;5O;5P;5Q;5R;5S;5T;5U;5V;5W;5X;5Y;5Z",
  "1F18A 0CROSSED NEGATIVE SQUARED LATIN CAPITAL LETTER P;0NEGATIVE SQUARED IC;2PA;2SA;2AB;2WC",
  "1F190 0SQUARE DJ;0SQUARED CL;1COOL;1FREE;1ID;1NEW;1NG;1OK;1SOS;1UP WITH EXCLAMATION MARK;1VS",
  "1F19B 1THREE D;1SECOND SCREEN;1TWO K;1FOUR K;1EIGHT K;1FIVE POINT ONE;1SEVEN POINT ONE",
  "1F1A2 1TWENTY-TWO POINT TWO;1SIXTY P;1ONE HUNDRED TWENTY P;1LATIN SMALL LETTER D;1HC;1HDR",
  "1F1A8 1HI-RES;1LOSSLESS;1SHV;1UHD;1VOD;0MASK WORK SYMBOL",
  "1F1E6 0REGIONAL INDICATOR SYMBOL LETTER A;4B;4C;4D;4E;4F;4G;4H;4I;4J;4K;4L;4M;4N;4O;4P;4Q;4R;4S",
  "1F1F9 4T;4U;4V;4W;4X;4Y;4Z;0SQUARE HIRAGANA HOKA;0SQUARED KATAKANA KOKO;2SA",
  "1F210 1CJK UNIFIED IDEOGRAPH-624B;45B57;453CC;1KATAKANA DE;1CJK UNIFIED IDEOGRAPH-4E8C;4591A",
  "1F216 489E3;45929;44EA4;46620;47121;46599;4524D;45F8C;4518D;465B0;4521D;47D42;4751F;48CA9;458F0",
  "1F225 45439;46F14;46295;46355;44E00;44E09;4904A;45DE6;44E2D;453F3;46307;48D70;46253;47981;47A7A",
  "1F234 45408;46E80;46709;46708;47533;45272;455B6;4914D",
  "1F240 0TORTOISE SHELL BRACKETED CJK UNIFIED IDEOGRAPH-672C;64E09;64E8C;65B89;670B9;66253;676D7",
  "1F247 652DD;66557",
  "1F250 0CIRCLED IDEOGRAPH ADVANTAGE;2ACCEPT",
  "1F260 0ROUNDED SYMBOL FOR FU;3LU;3SHOU;3XI;3SHUANGXI;3CAI",
  "1F300 0CYCLONE;0FOGGY;0CLOSED UMBRELLA;0NIGHT WITH STARS;0SUNRISE OVER MOUNTAINS;0SUNRISE",
  "1F306 0CITYSCAPE AT DUSK;0SUNSET OVER BUILDINGS;0RAINBOW;0BRIDGE AT NIGHT;0WATER WAVE;0VOLCANO",
  "1F30C 0MILKY WAY;0EARTH GLOBE EUROPE-AFRICA;2AMERICAS;2ASIA-AUSTRALIA;0GLOBE WITH MERIDIANS",
  "1F311 0NEW MOON SYMBOL;0WAXING CRESCENT MOON SYMBOL;0FIRST QUARTER MOON SYMBOL",
  "1F314 0WAXING GIBBOUS MOON SYMBOL;0FULL MOON SYMBOL;0WANING GIBBOUS MOON SYMBOL",
  "1F317 0LAST QUARTER MOON SYMBOL;0WANING CRESCENT MOON SYMBOL;0CRESCENT MOON;0NEW MOON WITH FACE",
  "1F31B 0FIRST QUARTER MOON WITH FACE;0LAST QUARTER MOON WITH FACE;0FULL MOON WITH FACE",
  "1F31E 0SUN WITH FACE;0GLOWING STAR;0SHOOTING STAR;0THERMOMETER;0BLACK DROPLET;0WHITE SUN",
  "1F324 1SUN WITH SMALL CLOUD;2BEHIND CLOUD;3CLOUD WITH RAIN;0CLOUD WITH RAIN;2SNOW;2LIGHTNING",
  "1F32A 2TORNADO;0FOG;0WIND BLOWING FACE;0HOT DOG;0TACO;0BURRITO;0CHESTNUT;0SEEDLING",
  "1F332 0EVERGREEN TREE;0DECIDUOUS TREE;0PALM TREE;0CACTUS;0HOT PEPPER;0TULIP;0CHERRY BLOSSOM",
  "1F339 0ROSE;0HIBISCUS;0SUNFLOWER;0BLOSSOM;0EAR OF MAIZE;2RICE;0HERB;0FOUR LEAF CLOVER",
  "1F341 0MAPLE LEAF;0FALLEN LEAF;0LEAF FLUTTERING IN WIND;0MUSHROOM;0TOMATO;0AUBERGINE;0GRAPES",
  "1F348 0MELON;0WATERMELON;0TANGERINE;0LEMON;0BANANA;0PINEAPPLE;0RED APPLE;0GREEN APPLE;0PEAR",
  "1F351 0PEACH;0CHERRIES;0STRAWBERRY;0HAMBURGER;0SLICE OF PIZZA;0MEAT ON BONE;0POULTRY LEG",
  "1F358 0RICE CRACKER;1BALL;0COOKED RICE;0CURRY AND RICE;0STEAMING BOWL;0SPAGHETTI;0BREAD",
  "1F35F 0FRENCH FRIES;0ROASTED SWEET POTATO;0DANGO;0ODEN;0SUSHI;0FRIED SHRIMP",
  "1F365 0FISH CAKE WITH SWIRL DESIGN;0SOFT ICE CREAM;0SHAVED ICE;0ICE CREAM;0DOUGHNUT;0COOKIE",
  "1F36B 0CHOCOLATE BAR;0CANDY;0LOLLIPOP;0CUSTARD;0HONEY POT;0SHORTCAKE;0BENTO BOX;0POT OF FOOD",
  "1F373 0COOKING;0FORK AND KNIFE;0TEACUP WITHOUT HANDLE;0SAKE BOTTLE AND CUP;0WINE GLASS",
  "1F378 0COCKTAIL GLASS;0TROPICAL DRINK;0BEER MUG;0CLINKING BEER MUGS;0BABY BOTTLE",
  "1F37D 0FORK AND KNIFE WITH PLATE;0BOTTLE WITH POPPING CORK;0POPCORN;0RIBBON;0WRAPPED PRESENT",
  "1F382 0BIRTHDAY CAKE;0JACK-O-LANTERN;0CHRISTMAS TREE;0FATHER CHRISTMAS;0FIREWORKS",
  "1F387 0FIREWORK SPARKLER;0BALLOON;0PARTY POPPER;0CONFETTI BALL;0TANABATA TREE;0CROSSED FLAGS",
  "1F38D 0PINE DECORATION;0JAPANESE DOLLS;0CARP STREAMER;0WIND CHIME;0MOON VIEWING CEREMONY",
  "1F392 0SCHOOL SATCHEL;0GRADUATION CAP;0HEART WITH TIP ON THE LEFT;0BOUQUET OF FLOWERS",
  "1F396 0MILITARY MEDAL;0REMINDER RIBBON;0MUSICAL KEYBOARD WITH JACKS;0STUDIO MICROPHONE",
  "1F39A 0LEVEL SLIDER;0CONTROL KNOBS;0BEAMED ASCENDING MUSICAL NOTES;1DESCENDING MUSICAL NOTES",
  "1F39E 0FILM FRAMES;0ADMISSION TICKETS;0CAROUSEL HORSE;0FERRIS WHEEL;0ROLLER COASTER",
  "1F3A3 0FISHING POLE AND FISH;0MICROPHONE;0MOVIE CAMERA;0CINEMA;0HEADPHONE;0ARTIST PALETTE",
  "1F3A9 0TOP HAT;0CIRCUS TENT;0TICKET;0CLAPPER BOARD;0PERFORMING ARTS;0VIDEO GAME;0DIRECT HIT",
  "1F3B0 0SLOT MACHINE;0BILLIARDS;0GAME DIE;0BOWLING;0FLOWER PLAYING CARDS;0MUSICAL NOTE",
  "1F3B6 0MULTIPLE MUSICAL NOTES;0SAXOPHONE;0GUITAR;0MUSICAL KEYBOARD;0TRUMPET;0VIOLIN",
  "1F3BC 0MUSICAL SCORE;0RUNNING SHIRT WITH SASH;0TENNIS RACQUET AND BALL;0SKI AND SKI BOOT",
  "1F3C0 0BASKETBALL AND HOOP;0CHEQUERED FLAG;0SNOWBOARDER;0RUNNER;0SURFER;0SPORTS MEDAL;0TROPHY",
  "1F3C7 0HORSE RACING;0AMERICAN FOOTBALL;0RUGBY FOOTBALL;0SWIMMER;0WEIGHT LIFTER;0GOLFER",
  "1F3CD 0RACING MOTORCYCLE;1CAR;0CRICKET BAT AND BALL;0VOLLEYBALL;0FIELD HOCKEY STICK AND BALL",
  "1F3D2 0ICE HOCKEY STICK AND PUCK;0TABLE TENNIS PADDLE AND BALL;0SNOW CAPPED MOUNTAIN;0CAMPING",
  "1F3D6 0BEACH WITH UMBRELLA;0BUILDING CONSTRUCTION;0HOUSE BUILDINGS;0CITYSCAPE",
  "1F3DA 0DERELICT HOUSE BUILDING;0CLASSICAL BUILDING;0DESERT;0DESERT ISLAND;0NATIONAL PARK",
  "1F3DF 0STADIUM;0HOUSE BUILDING;1WITH GARDEN;0OFFICE BUILDING;0JAPANESE POST OFFICE",
  "1F3E4 0EUROPEAN POST OFFICE;0HOSPITAL;0BANK;0AUTOMATED TELLER MACHINE;0HOTEL;0LOVE HOTEL",
  "1F3EA 0CONVENIENCE STORE;0SCHOOL;0DEPARTMENT STORE;0FACTORY;0IZAKAYA LANTERN;0JAPANESE CASTLE",
  "1F3F0 0EUROPEAN CASTLE;0WHITE PENNANT;0BLACK PENNANT;0WAVING WHITE FLAG;1BLACK FLAG;0ROSETTE",
  "1F3F6 0BLACK ROSETTE;0LABEL;0BADMINTON RACQUET AND SHUTTLECOCK;0BOW AND ARROW;0AMPHORA",
  "1F3FB 0EMOJI MODIFIER FITZPATRICK TYPE-1-2;43;44;45;46;0RAT;0MOUSE;0OX;0WATER BUFFALO;0COW",
  "1F405 0TIGER;0LEOPARD;0RABBIT;0CAT;0DRAGON;0CROCODILE;0WHALE;0SNAIL;0SNAKE;0HORSE;0RAM;0GOAT",
  "1F411 0SHEEP;0MONKEY;0ROOSTER;0CHICKEN;0DOG;0PIG;0BOAR;0ELEPHANT;0OCTOPUS;0SPIRAL SHELL;0BUG",
  "1F41C 0ANT;0HONEYBEE;0LADY BEETLE;0FISH;0TROPICAL FISH;0BLOWFISH;0TURTLE;0HATCHING CHICK",
  "1F424 0BABY CHICK;0FRONT-FACING BABY CHICK;0BIRD;0PENGUIN;0KOALA;0POODLE;0DROMEDARY CAMEL",
  "1F42B 0BACTRIAN CAMEL;0DOLPHIN;0MOUSE FACE;0COW FACE;0TIGER FACE;0RABBIT FACE;0CAT FACE",
  "1F432 0DRAGON FACE;0SPOUTING WHALE;0HORSE FACE;0MONKEY FACE;0DOG FACE;0PIG FACE;0FROG FACE",
  "1F439 0HAMSTER FACE;0WOLF FACE;0BEAR FACE;0PANDA FACE;0PIG NOSE;0PAW PRINTS;0CHIPMUNK;0EYES",
  "1F441 0EYE;0EAR;0NOSE;0MOUTH;0TONGUE;0WHITE UP POINTING BACKHAND INDEX",
  "1F447 1DOWN POINTING BACKHAND INDEX;1LEFT POINTING BACKHAND INDEX",
  "1F449 1RIGHT POINTING BACKHAND INDEX;0FISTED HAND SIGN;0WAVING HAND SIGN;0OK HAND SIGN",
  "1F44D 0THUMBS UP SIGN;1DOWN SIGN;0CLAPPING HANDS SIGN;0OPEN HANDS SIGN;0CROWN;0WOMANS HAT",
  "1F453 0EYEGLASSES;0NECKTIE;0T-SHIRT;0JEANS;0DRESS;0KIMONO;0BIKINI;0WOMANS CLOTHES;0PURSE",
  "1F45C 0HANDBAG;0POUCH;0MANS SHOE;0ATHLETIC SHOE;0HIGH-HEELED SHOE;0WOMANS SANDAL;1BOOTS",
  "1F463 0FOOTPRINTS;0BUST IN SILHOUETTE;0BUSTS IN SILHOUETTE;0BOY;0GIRL;0MAN;0WOMAN;0FAMILY",
  "1F46B 0MAN AND WOMAN HOLDING HANDS;0TWO MEN HOLDING HANDS;1WOMEN HOLDING HANDS;0POLICE OFFICER",
  "1F46F 0WOMAN WITH BUNNY EARS;0BRIDE WITH VEIL;0PERSON WITH BLOND HAIR;0MAN WITH GUA PI MAO",
  "1F473 2TURBAN;0OLDER MAN;1WOMAN;0BABY;0CONSTRUCTION WORKER;0PRINCESS;0JAPANESE OGRE;1GOBLIN",
  "1F47B 0GHOST;0BABY ANGEL;0EXTRATERRESTRIAL ALIEN;0ALIEN MONSTER;0IMP;0SKULL",
  "1F481 0INFORMATION DESK PERSON;0GUARDSMAN;0DANCER;0LIPSTICK;0NAIL POLISH;0FACE MASSAGE;0HAIRCUT",
  "1F488 0BARBER POLE;0SYRINGE;0PILL;0KISS MARK;0LOVE LETTER;0RING;0GEM STONE;0KISS;0BOUQUET",
  "1F491 0COUPLE WITH HEART;0WEDDING;0BEATING HEART;0BROKEN HEART;0TWO HEARTS;0SPARKLING HEART",
  "1F497 0GROWING HEART;0HEART WITH ARROW;0BLUE HEART;0GREEN HEART;0YELLOW HEART;0PURPLE HEART",
  "1F49D 0HEART WITH RIBBON;0REVOLVING HEARTS;0HEART DECORATION;0DIAMOND SHAPE WITH A DOT INSIDE",
  "1F4A1 0ELECTRIC LIGHT BULB;0ANGER SYMBOL;0BOMB;0SLEEPING SYMBOL;0COLLISION SYMBOL",
  "1F4A6 0SPLASHING SWEAT SYMBOL;0DROPLET;0DASH SYMBOL;0PILE OF POO;0FLEXED BICEPS;0DIZZY SYMBOL",
  "1F4AC 0SPEECH BALLOON;0THOUGHT BALLOON;0WHITE FLOWER;0HUNDRED POINTS SYMBOL;0MONEY BAG",
  "1F4B1 0CURRENCY EXCHANGE;0HEAVY DOLLAR SIGN;0CREDIT CARD;0BANKNOTE WITH YEN SIGN;2DOLLAR SIGN",
  "1F4B6 2EURO SIGN;2POUND SIGN;0MONEY WITH WINGS;0CHART WITH UPWARDS TREND AND YEN SIGN;0SEAT",
  "1F4BB 0PERSONAL COMPUTER;0BRIEFCASE;0MINIDISC;0FLOPPY DISK;0OPTICAL DISC;0DVD;0FILE FOLDER",
  "1F4C2 0OPEN FILE FOLDER;0PAGE WITH CURL;1FACING UP;0CALENDAR;0TEAR-OFF CALENDAR;0CARD INDEX",
  "1F4C8 0CHART WITH UPWARDS TREND;2DOWNWARDS TREND;0BAR CHART;0CLIPBOARD;0PUSHPIN;0ROUND PUSHPIN",
  "1F4CE 0PAPERCLIP;0STRAIGHT RULER;0TRIANGULAR RULER;0BOOKMARK TABS;0LEDGER;0NOTEBOOK",
  "1F4D4 0NOTEBOOK WITH DECORATIVE COVER;0CLOSED BOOK;0OPEN BOOK;0GREEN BOOK;0BLUE BOOK",
  "1F4D9 0ORANGE BOOK;0BOOKS;0NAME BADGE;0SCROLL;0MEMO;0TELEPHONE RECEIVER;0PAGER;0FAX MACHINE",
  "1F4E1 0SATELLITE ANTENNA;0PUBLIC ADDRESS LOUDSPEAKER;0CHEERING MEGAPHONE;0OUTBOX TRAY",
  "1F4E5 0INBOX TRAY;0PACKAGE;0E-MAIL SYMBOL;0INCOMING ENVELOPE",
  "1F4E9 0ENVELOPE WITH DOWNWARDS ARROW ABOVE;0CLOSED MAILBOX WITH LOWERED FLAG;3RAISED FLAG",
  "1F4EC 0OPEN MAILBOX WITH RAISED FLAG;3LOWERED FLAG;0POSTBOX;0POSTAL HORN;0NEWSPAPER",
  "1F4F1 0MOBILE PHONE;1PHONE WITH RIGHTWARDS ARROW AT LEFT;0VIBRATION MODE;0MOBILE PHONE OFF",
  "1F4F5 0NO MOBILE PHONES;0ANTENNA WITH BARS;0CAMERA;0CAMERA WITH FLASH;0VIDEO CAMERA;0TELEVISION",
  "1F4FB 0RADIO;0VIDEOCASSETTE;0FILM PROJECTOR;0PORTABLE STEREO;0PRAYER BEADS",
  "1F500 0TWISTED RIGHTWARDS ARROWS;0CLOCKWISE RIGHTWARDS AND LEFTWARDS OPEN CIRCLE ARROWS",
  "1F502 6ARROWS WITH CIRCLED ONE OVERLAY;1DOWNWARDS AND UPWARDS OPEN CIRCLE ARROWS",
  "1F504 0ANTICLOCKWISE DOWNWARDS AND UPWARDS OPEN CIRCLE ARROWS;0LOW BRIGHTNESS SYMBOL",
  "1F506 0HIGH BRIGHTNESS SYMBOL;0SPEAKER WITH CANCELLATION STROKE;0SPEAKER",
  "1F509 0SPEAKER WITH ONE SOUND WAVE;2THREE SOUND WAVES;0BATTERY;0ELECTRIC PLUG",
  "1F50D 0LEFT-POINTING MAGNIFYING GLASS;0RIGHT-POINTING MAGNIFYING GLASS;0LOCK WITH INK PEN",
  "1F510 0CLOSED LOCK WITH KEY;0KEY;0LOCK;0OPEN LOCK;0BELL;0BELL WITH CANCELLATION STROKE",
  "1F516 0BOOKMARK;0LINK SYMBOL;0RADIO BUTTON;0BACK WITH LEFTWARDS ARROW ABOVE",
  "1F51A 0END WITH LEFTWARDS ARROW ABOVE;0ON WITH EXCLAMATION MARK WITH LEFT RIGHT ARROW ABOVE",
  "1F51C 0SOON WITH RIGHTWARDS ARROW ABOVE;0TOP WITH UPWARDS ARROW ABOVE",
  "1F51E 0NO ONE UNDER EIGHTEEN SYMBOL;0KEYCAP TEN;0INPUT SYMBOL FOR LATIN CAPITAL LETTERS",
  "1F521 4SMALL LETTERS;3NUMBERS;3SYMBOLS;3LATIN LETTERS;0FIRE;0ELECTRIC TORCH;0WRENCH;0HAMMER",
  "1F529 0NUT AND BOLT;0HOCHO;0PISTOL;0MICROSCOPE;0TELESCOPE;0CRYSTAL BALL",
  "1F52F 0SIX POINTED STAR WITH MIDDLE DOT;0JAPANESE SYMBOL FOR BEGINNER;0TRIDENT EMBLEM",
  "1F532 0BLACK SQUARE BUTTON;0WHITE SQUARE BUTTON;0LARGE RED CIRCLE;1BLUE CIRCLE;1ORANGE DIAMOND",
  "1F537 1BLUE DIAMOND;0SMALL ORANGE DIAMOND;1BLUE DIAMOND;0UP-POINTING RED TRIANGLE",
  "1F53B 0DOWN-POINTING RED TRIANGLE;0UP-POINTING SMALL RED TRIANGLE",
  "1F53D 0DOWN-POINTING SMALL RED TRIANGLE;0LOWER RIGHT SHADOWED WHITE CIRCLE",
  "1F53F 0UPPER RIGHT SHADOWED WHITE CIRCLE;0CIRCLED CROSS POMMEE",
  "1F541 0CROSS POMMEE WITH HALF-CIRCLE BELOW;1POMMEE;0NOTCHED LEFT SEMICIRCLE WITH THREE DOTS",
  "1F544 1RIGHT SEMICIRCLE WITH THREE DOTS;0SYMBOL FOR MARKS CHAPTER;0WHITE LATIN CROSS",
  "1F547 0HEAVY LATIN CROSS;0CELTIC CROSS;0OM SYMBOL;0DOVE OF PEACE;0KAABA;0MOSQUE;0SYNAGOGUE",
  "1F54E 0MENORAH WITH NINE BRANCHES;0BOWL OF HYGIEIA;0CLOCK FACE ONE OCLOCK;2TWO OCLOCK",
  "1F552 2THREE OCLOCK;2FOUR OCLOCK;2FIVE OCLOCK;2SIX OCLOCK;2SEVEN OCLOCK;2EIGHT OCLOCK",
  "1F558 2NINE OCLOCK;2TEN OCLOCK;2ELEVEN OCLOCK;2TWELVE OCLOCK;2ONE-THIRTY;2TWO-THIRTY",
  "1F55E 2THREE-THIRTY;2FOUR-THIRTY;2FIVE-THIRTY;2SIX-THIRTY;2SEVEN-THIRTY;2EIGHT-THIRTY",
  "1F564 2NINE-THIRTY;2TEN-THIRTY;2ELEVEN-THIRTY;2TWELVE-THIRTY;0RIGHT SPEAKER",
  "1F569 1SPEAKER WITH ONE SOUND WAVE;3THREE SOUND WAVES;0BULLHORN;0BULLHORN WITH SOUND WAVES",
  "1F56D 0RINGING BELL;0BOOK;0CANDLE;0MANTELPIECE CLOCK;0BLACK SKULL AND CROSSBONES;0NO PIRACY",
  "1F573 0HOLE;0MAN IN BUSINESS SUIT LEVITATING;0SLEUTH OR SPY;0DARK SUNGLASSES;0SPIDER",
  "1F578 0SPIDER WEB;0JOYSTICK;0MAN DANCING;0LEFT HAND TELEPHONE RECEIVER",
  "1F57C 0TELEPHONE RECEIVER WITH PAGE;0RIGHT HAND TELEPHONE RECEIVER;0WHITE TOUCHTONE TELEPHONE",
  "1F57F 0BLACK TOUCHTONE TELEPHONE;0TELEPHONE ON TOP OF MODEM;0CLAMSHELL MOBILE PHONE",
  "1F582 0BACK OF ENVELOPE;0STAMPED ENVELOPE;0ENVELOPE WITH LIGHTNING;0FLYING ENVELOPE",
  "1F586 0PEN OVER STAMPED ENVELOPE;0LINKED PAPERCLIPS;0BLACK PUSHPIN;0LOWER LEFT PENCIL",
  "1F58A 2BALLPOINT PEN;2FOUNTAIN PEN;2PAINTBRUSH;2CRAYON;0LEFT WRITING HAND;0TURNED OK HAND SIGN",
  "1F590 0RAISED HAND WITH FINGERS SPLAYED;0REVERSED RAISED HAND WITH FINGERS SPLAYED",
  "1F592 1THUMBS UP SIGN;2DOWN SIGN;1VICTORY HAND;1HAND WITH MIDDLE FINGER EXTENDED",
  "1F596 0RAISED HAND WITH PART BETWEEN MIDDLE AND RING FINGERS",
  "1F597 0WHITE DOWN POINTING LEFT HAND INDEX;0SIDEWAYS WHITE LEFT POINTING INDEX",
  "1F599 2RIGHT POINTING INDEX;1BLACK LEFT POINTING INDEX;2RIGHT POINTING INDEX",
  "1F59C 0BLACK LEFT POINTING BACKHAND INDEX;1RIGHT POINTING BACKHAND INDEX",
  "1F59E 0SIDEWAYS WHITE UP POINTING INDEX;2DOWN POINTING INDEX;1BLACK UP POINTING INDEX",
  "1F5A1 2DOWN POINTING INDEX;0BLACK UP POINTING BACKHAND INDEX;1DOWN POINTING BACKHAND INDEX",
  "1F5A4 1HEART;0DESKTOP COMPUTER;0KEYBOARD AND MOUSE;0THREE NETWORKED COMPUTERS;0PRINTER",
  "1F5A9 0POCKET CALCULATOR;0BLACK HARD SHELL FLOPPY DISK;0WHITE HARD SHELL FLOPPY DISK",
  "1F5AC 0SOFT SHELL FLOPPY DISK;0TAPE CARTRIDGE;0WIRED KEYBOARD;0ONE BUTTON MOUSE",
  "1F5B0 0TWO BUTTON MOUSE;0THREE BUTTON MOUSE;0TRACKBALL;0OLD PERSONAL COMPUTER;0HARD DISK",
  "1F5B5 0SCREEN;0PRINTER ICON;0FAX ICON;0OPTICAL DISC ICON;0DOCUMENT WITH TEXT;2TEXT AND PICTURE",
  "1F5BB 2PICTURE;0FRAME WITH PICTURE;2TILES;2AN X;0BLACK FOLDER;0FOLDER;0OPEN FOLDER",
  "1F5C2 0CARD INDEX DIVIDERS;1FILE BOX;0FILE CABINET;0EMPTY NOTE;1NOTE PAGE;2PAD;0NOTE;0NOTE PAGE",
  "1F5CA 1PAD;0EMPTY DOCUMENT;1PAGE;1PAGES;0DOCUMENT;0PAGE;0PAGES;0WASTEBASKET;0SPIRAL NOTE PAD",
  "1F5D3 1CALENDAR PAD;0DESKTOP WINDOW;0MINIMIZE;0MAXIMIZE;0OVERLAP",
  "1F5D8 0CLOCKWISE RIGHT AND LEFT SEMICIRCLE ARROWS;0CANCELLATION X;0INCREASE FONT SIZE SYMBOL",
  "1F5DB 0DECREASE FONT SIZE SYMBOL;0COMPRESSION;0OLD KEY;0ROLLED-UP NEWSPAPER",
  "1F5DF 0PAGE WITH CIRCLED TEXT;0STOCK CHART;0DAGGER KNIFE;0LIPS;0SPEAKING HEAD IN SILHOUETTE",
  "1F5E4 0THREE RAYS ABOVE;2BELOW;2LEFT;2RIGHT;0LEFT SPEECH BUBBLE;0RIGHT SPEECH BUBBLE",
  "1F5EA 0TWO SPEECH BUBBLES;0THREE SPEECH BUBBLES;0LEFT THOUGHT BUBBLE;0RIGHT THOUGHT BUBBLE",
  "1F5EE 0LEFT ANGER BUBBLE;0RIGHT ANGER BUBBLE;0MOOD BUBBLE;0LIGHTNING MOOD BUBBLE;1MOOD",
  "1F5F3 0BALLOT BOX WITH BALLOT;1SCRIPT X;1BOX WITH SCRIPT X;1BOLD SCRIPT X",
  "1F5F7 1BOX WITH BOLD SCRIPT X;0LIGHT CHECK MARK;0BALLOT BOX WITH BOLD CHECK;0WORLD MAP",
  "1F5FB 0MOUNT FUJI;0TOKYO TOWER;0STATUE OF LIBERTY;0SILHOUETTE OF JAPAN;0MOYAI;0GRINNING FACE",
  "1F601 1FACE WITH SMILING EYES;0FACE WITH TEARS OF JOY;0SMILING FACE WITH OPEN MOUTH",
  "1F604 4MOUTH AND SMILING EYES;6COLD SWEAT;6TIGHTLY-CLOSED EYES;3HALO;3HORNS;0WINKING FACE",
  "1F60A 0SMILING FACE WITH SMILING EYES;0FACE SAVOURING DELICIOUS FOOD;0RELIEVED FACE",
  "1F60D 0SMILING FACE WITH HEART-SHAPED EYES;3SUNGLASSES;0SMIRKING FACE;0NEUTRAL FACE",
  "1F611 0EXPRESSIONLESS FACE;0UNAMUSED FACE;0FACE WITH COLD SWEAT;0PENSIVE FACE;0CONFUSED FACE",
  "1F616 0CONFOUNDED FACE;0KISSING FACE;0FACE THROWING A KISS;0KISSING FACE WITH SMILING EYES",
  "1F61A 3CLOSED EYES;0FACE WITH STUCK-OUT TONGUE;4TONGUE AND WINKING EYE;6TIGHTLY-CLOSED EYES",
  "1F61E 0DISAPPOINTED FACE;0WORRIED FACE;0ANGRY FACE;0POUTING FACE;0CRYING FACE;0PERSEVERING FACE",
  "1F624 0FACE WITH LOOK OF TRIUMPH;0DISAPPOINTED BUT RELIEVED FACE;0FROWNING FACE WITH OPEN MOUTH",
  "1F627 0ANGUISHED FACE;0FEARFUL FACE;0WEARY FACE;0SLEEPY FACE;0TIRED FACE;0GRIMACING FACE",
  "1F62D 0LOUDLY CRYING FACE;0FACE WITH OPEN MOUTH;0HUSHED FACE",
  "1F630 0FACE WITH OPEN MOUTH AND COLD SWEAT;1SCREAMING IN FEAR;0ASTONISHED FACE;0FLUSHED FACE",
  "1F634 0SLEEPING FACE;0DIZZY FACE;0FACE WITHOUT MOUTH;1WITH MEDICAL MASK",
  "1F638 0GRINNING CAT FACE WITH SMILING EYES;0CAT FACE WITH TEARS OF JOY",
  "1F63A 0SMILING CAT FACE WITH OPEN MOUTH;4HEART-SHAPED EYES;0CAT FACE WITH WRY SMILE",
  "1F63D 0KISSING CAT FACE WITH CLOSED EYES;0POUTING CAT FACE;0CRYING CAT FACE;0WEARY CAT FACE",
  "1F641 0SLIGHTLY FROWNING FACE;1SMILING FACE;0UPSIDE-DOWN FACE;0FACE WITH ROLLING EYES",
  "1F645 2NO GOOD GESTURE;2OK GESTURE;0PERSON BOWING DEEPLY;0SEE-NO-EVIL MONKEY",
  "1F649 0HEAR-NO-EVIL MONKEY;0SPEAK-NO-EVIL MONKEY;0HAPPY PERSON RAISING ONE HAND",
  "1F64C 0PERSON RAISING BOTH HANDS IN CELEBRATION;1FROWNING;1WITH POUTING FACE;2FOLDED HANDS",
  "1F650 0NORTH WEST POINTING LEAF;0SOUTH WEST POINTING LEAF;0NORTH EAST POINTING LEAF",
  "1F653 0SOUTH EAST POINTING LEAF;0TURNED NORTH WEST POINTING LEAF;1SOUTH WEST POINTING LEAF",
  "1F656 1NORTH EAST POINTING LEAF;1SOUTH EAST POINTING LEAF;0NORTH WEST POINTING VINE LEAF",
  "1F659 0SOUTH WEST POINTING VINE LEAF;0NORTH EAST POINTING VINE LEAF",
  "1F65B 0SOUTH EAST POINTING VINE LEAF;0HEAVY NORTH WEST POINTING VINE LEAF",
  "1F65D 1SOUTH WEST POINTING VINE LEAF;1NORTH EAST POINTING VINE LEAF",
  "1F65F 1SOUTH EAST POINTING VINE LEAF;0NORTH WEST POINTING BUD;0SOUTH WEST POINTING BUD",
  "1F662 0NORTH EAST POINTING BUD;0SOUTH EAST POINTING BUD;0HEAVY NORTH WEST POINTING BUD",
  "1F665 1SOUTH WEST POINTING BUD;1NORTH EAST POINTING BUD;1SOUTH EAST POINTING BUD",
  "1F668 0HOLLOW QUILT SQUARE ORNAMENT;3ORNAMENT IN BLACK SQUARE;0SOLID QUILT SQUARE ORNAMENT",
  "1F66B 3ORNAMENT IN BLACK SQUARE;0LEFTWARDS ROCKET;0UPWARDS ROCKET;0RIGHTWARDS ROCKET",
  "1F66F 0DOWNWARDS ROCKET;0SCRIPT LIGATURE ET ORNAMENT;0HEAVY SCRIPT LIGATURE ET ORNAMENT",
  "1F672 0LIGATURE OPEN ET ORNAMENT;0HEAVY LIGATURE OPEN ET ORNAMENT;1AMPERSAND ORNAMENT",
  "1F675 0SWASH AMPERSAND ORNAMENT;0SANS-SERIF HEAVY DOUBLE TURNED COMMA QUOTATION MARK ORNAMENT",
  "1F677 4COMMA QUOTATION MARK ORNAMENT;3LOW DOUBLE COMMA QUOTATION MARK ORNAMENT",
  "1F679 0HEAVY INTERROBANG ORNAMENT;0SANS-SERIF INTERROBANG ORNAMENT",
  "1F67B 0HEAVY SANS-SERIF INTERROBANG ORNAMENT;0VERY HEAVY SOLIDUS;2REVERSE SOLIDUS",
  "1F67E 0CHECKER BOARD;0REVERSE CHECKER BOARD;0ROCKET;0HELICOPTER;0STEAM LOCOMOTIVE;0RAILWAY CAR",
  "1F684 0HIGH-SPEED TRAIN;2TRAIN WITH BULLET NOSE;0TRAIN;0METRO;0LIGHT RAIL;0STATION;0TRAM",
  "1F68B 0TRAM CAR;0BUS;0ONCOMING BUS;0TROLLEYBUS;0BUS STOP;0MINIBUS;0AMBULANCE;0FIRE ENGINE",
  "1F693 0POLICE CAR;0ONCOMING POLICE CAR;0TAXI;0ONCOMING TAXI;0AUTOMOBILE;0ONCOMING AUTOMOBILE",
  "1F699 0RECREATIONAL VEHICLE;0DELIVERY TRUCK;0ARTICULATED LORRY;0TRACTOR;0MONORAIL",
  "1F69E 0MOUNTAIN RAILWAY;0SUSPENSION RAILWAY;0MOUNTAIN CABLEWAY;0AERIAL TRAMWAY;0SHIP;0ROWBOAT",
  "1F6A4 0SPEEDBOAT;0HORIZONTAL TRAFFIC LIGHT;0VERTICAL TRAFFIC LIGHT;0CONSTRUCTION SIGN",
  "1F6A8 0POLICE CARS REVOLVING LIGHT;0TRIANGULAR FLAG ON POST;0DOOR;0NO ENTRY SIGN",
  "1F6AC 0SMOKING SYMBOL;0NO SMOKING SYMBOL;0PUT LITTER IN ITS PLACE SYMBOL;0DO NOT LITTER SYMBOL",
  "1F6B0 0POTABLE WATER SYMBOL;0NON-POTABLE WATER SYMBOL;0BICYCLE;0NO BICYCLES;0BICYCLIST",
  "1F6B5 0MOUNTAIN BICYCLIST;0PEDESTRIAN;0NO PEDESTRIANS;0CHILDREN CROSSING;0MENS SYMBOL",
  "1F6BA 0WOMENS SYMBOL;0RESTROOM;0BABY SYMBOL;0TOILET;0WATER CLOSET;0SHOWER;0BATH;0BATHTUB",
  "1F6C2 0PASSPORT CONTROL;0CUSTOMS;0BAGGAGE CLAIM;0LEFT LUGGAGE;0TRIANGLE WITH ROUNDED CORNERS",
  "1F6C7 0PROHIBITED SIGN;0CIRCLED INFORMATION SOURCE;0BOYS SYMBOL;0GIRLS SYMBOL;0COUCH AND LAMP",
  "1F6CC 0SLEEPING ACCOMMODATION;0SHOPPING BAGS;0BELLHOP BELL;0BED;0PLACE OF WORSHIP",
  "1F6D1 0OCTAGONAL SIGN;0SHOPPING TROLLEY;0STUPA;0PAGODA;0HINDU TEMPLE;0HUT;0ELEVATOR",
  "1F6DD 0PLAYGROUND SLIDE;0WHEEL;0RING BUOY;0HAMMER AND WRENCH;0SHIELD;0OIL DRUM;0MOTORWAY",
  "1F6E4 0RAILWAY TRACK;0MOTOR BOAT;0UP-POINTING MILITARY AIRPLANE;2AIRPLANE;2SMALL AIRPLANE",
  "1F6E9 0SMALL AIRPLANE;0NORTHEAST-POINTING AIRPLANE;0AIRPLANE DEPARTURE;1ARRIVING",
  "1F6F0 0SATELLITE;0ONCOMING FIRE ENGINE;0DIESEL LOCOMOTIVE;0PASSENGER SHIP;0SCOOTER",
  "1F6F5 0MOTOR SCOOTER;0CANOE;0SLED;0FLYING SAUCER;0SKATEBOARD;0AUTO RICKSHAW;0PICKUP TRUCK",
  "1F6FC 0ROLLER SKATE",
  "1F700 0ALCHEMICAL SYMBOL FOR QUINTESSENCE;3AIR;3FIRE;3EARTH;3WATER;3AQUAFORTIS;3AQUA REGIA",
  "1F707 4REGIA-2;4VITAE;4VITAE-2;3VINEGAR;3VINEGAR-2;43;3SULFUR;3PHILOSOPHERS SULFUR",
  "1F70F 3BLACK SULFUR;3MERCURY SUBLIMATE;4SUBLIMATE-2;53;3CINNABAR;3SALT;3NITRE;3VITRIOL",
  "1F717 3VITRIOL-2;3ROCK SALT;4SALT-2;3GOLD;3SILVER;3IRON ORE;4ORE-2;3CROCUS OF IRON",
  "1F71F 3REGULUS OF IRON;3COPPER ORE;3IRON-COPPER ORE;3SUBLIMATE OF COPPER;3CROCUS OF COPPER",
  "1F724 5COPPER-2;3COPPER ANTIMONIATE;3SALT OF COPPER ANTIMONIATE;3SUBLIMATE OF SALT OF COPPER",
  "1F728 3VERDIGRIS;3TIN ORE;3LEAD ORE;3ANTIMONY ORE;3SUBLIMATE OF ANTIMONY;3SALT OF ANTIMONY",
  "1F72E 3SUBLIMATE OF SALT OF ANTIMONY;3VINEGAR OF ANTIMONY;3REGULUS OF ANTIMONY;5ANTIMONY-2",
  "1F732 3REGULUS;3REGULUS-2;43;44;3ALKALI;3ALKALI-2;3MARCASITE;3SAL-AMMONIAC;3ARSENIC;3REALGAR",
  "1F73C 3REALGAR-2;3AURIPIGMENT;3BISMUTH ORE;3TARTAR;3TARTAR-2;3QUICK LIME;3BORAX;3BORAX-2;43",
  "1F745 3ALUM;3OIL;3SPIRIT;3TINCTURE;3GUM;3WAX;3POWDER;3CALX;3TUTTY;3CAPUT MORTUUM",
  "1F74F 3SCEPTER OF JOVE;3CADUCEUS;3TRIDENT;3STARRED TRIDENT;3LODESTONE;3SOAP;3URINE;3HORSE DUNG",
  "1F757 3ASHES;3POT ASHES;3BRICK;3POWDERED BRICK;3AMALGAM;3STRATUM SUPER STRATUM;5STRATUM-2",
  "1F75E 3SUBLIMATION;3PRECIPITATE;3DISTILL;3DISSOLVE;3DISSOLVE-2;3PURIFY;3PUTREFACTION;3CRUCIBLE",
  "1F766 3CRUCIBLE-2;43;44;45;3ALEMBIC;3BATH OF MARY;5VAPOURS;3RETORT;3HOUR;3NIGHT;3DAY-NIGHT",
  "1F771 3MONTH;3HALF DRAM;4OUNCE",
  "1F780 0BLACK LEFT-POINTING ISOSCELES RIGHT TRIANGLE;1UP-POINTING ISOSCELES RIGHT TRIANGLE",
  "1F782 1RIGHT-POINTING ISOSCELES RIGHT TRIANGLE;1DOWN-POINTING ISOSCELES RIGHT TRIANGLE",
  "1F784 1SLIGHTLY SMALL CIRCLE;0MEDIUM BOLD WHITE CIRCLE;0BOLD WHITE CIRCLE;0HEAVY WHITE CIRCLE",
  "1F788 0VERY HEAVY WHITE CIRCLE;0EXTREMELY HEAVY WHITE CIRCLE",
  "1F78A 0WHITE CIRCLE CONTAINING BLACK SMALL CIRCLE;0ROUND TARGET;0BLACK TINY SQUARE",
  "1F78D 1SLIGHTLY SMALL SQUARE;0LIGHT WHITE SQUARE;0MEDIUM WHITE SQUARE;0BOLD WHITE SQUARE",
  "1F791 0HEAVY WHITE SQUARE;0VERY HEAVY WHITE SQUARE;0EXTREMELY HEAVY WHITE SQUARE",
  "1F794 0WHITE SQUARE CONTAINING BLACK VERY SMALL SQUARE;4MEDIUM SQUARE;0SQUARE TARGET",
  "1F797 0BLACK TINY DIAMOND;1VERY SMALL DIAMOND;1MEDIUM SMALL DIAMOND",
  "1F79A 0WHITE DIAMOND CONTAINING BLACK VERY SMALL DIAMOND;4MEDIUM DIAMOND;0DIAMOND TARGET",
  "1F79D 0BLACK TINY LOZENGE;1VERY SMALL LOZENGE;1MEDIUM SMALL LOZENGE",
  "1F7A0 0WHITE LOZENGE CONTAINING BLACK SMALL LOZENGE;0THIN GREEK CROSS;0LIGHT GREEK CROSS",
  "1F7A3 0MEDIUM GREEK CROSS;0BOLD GREEK CROSS;0VERY BOLD GREEK CROSS;1HEAVY GREEK CROSS",
  "1F7A7 0EXTREMELY HEAVY GREEK CROSS;0THIN SALTIRE;0LIGHT SALTIRE;0MEDIUM SALTIRE;0BOLD SALTIRE",
  "1F7AC 0HEAVY SALTIRE;0VERY HEAVY SALTIRE;0EXTREMELY HEAVY SALTIRE;0LIGHT FIVE SPOKED ASTERISK",
  "1F7B0 0MEDIUM FIVE SPOKED ASTERISK;0BOLD FIVE SPOKED ASTERISK;0HEAVY FIVE SPOKED ASTERISK",
  "1F7B3 0VERY HEAVY FIVE SPOKED ASTERISK;0EXTREMELY HEAVY FIVE SPOKED ASTERISK",
  "1F7B5 0LIGHT SIX SPOKED ASTERISK;0MEDIUM SIX SPOKED ASTERISK;0BOLD SIX SPOKED ASTERISK",
  "1F7B8 0HEAVY SIX SPOKED ASTERISK;0VERY HEAVY SIX SPOKED ASTERISK",
  "1F7BA 0EXTREMELY HEAVY SIX SPOKED ASTERISK;0LIGHT EIGHT SPOKED ASTERISK",
  "1F7BC 0MEDIUM EIGHT SPOKED ASTERISK;0BOLD EIGHT SPOKED ASTERISK;0HEAVY EIGHT SPOKED ASTERISK",
  "1F7BF 0VERY HEAVY EIGHT SPOKED ASTERISK;0LIGHT THREE POINTED BLACK STAR",
  "1F7C1 0MEDIUM THREE POINTED BLACK STAR;0THREE POINTED BLACK STAR",
  "1F7C3 0MEDIUM THREE POINTED PINWHEEL STAR;0LIGHT FOUR POINTED BLACK STAR",
  "1F7C5 0MEDIUM FOUR POINTED BLACK STAR;0FOUR POINTED BLACK STAR",
  "1F7C7 0MEDIUM FOUR POINTED PINWHEEL STAR;0REVERSE LIGHT FOUR POINTED PINWHEEL STAR",
  "1F7C9 0LIGHT FIVE POINTED BLACK STAR;0HEAVY FIVE POINTED BLACK STAR",
  "1F7CB 0MEDIUM SIX POINTED BLACK STAR;0HEAVY SIX POINTED BLACK STAR;0SIX POINTED PINWHEEL STAR",
  "1F7CE 0MEDIUM EIGHT POINTED BLACK STAR;0HEAVY EIGHT POINTED BLACK STAR",
  "1F7D0 0VERY HEAVY EIGHT POINTED BLACK STAR;0HEAVY EIGHT POINTED PINWHEEL STAR",
  "1F7D2 0LIGHT TWELVE POINTED BLACK STAR;0HEAVY TWELVE POINTED BLACK STAR;3PINWHEEL STAR",
  "1F7D5 0CIRCLED TRIANGLE;0NEGATIVE CIRCLED TRIANGLE;0CIRCLED SQUARE;0NEGATIVE CIRCLED SQUARE",
  "1F7E0 0LARGE ORANGE CIRCLE;1YELLOW CIRCLE;1GREEN CIRCLE;1PURPLE CIRCLE;1BROWN CIRCLE",
  "1F7E5 1RED SQUARE;1BLUE SQUARE;1ORANGE SQUARE;1YELLOW SQUARE;1GREEN SQUARE;1PURPLE SQUARE",
  "1F7EB 1BROWN SQUARE",
  "1F7F0 0HEAVY EQUALS SIGN",
  "1F800 0LEFTWARDS ARROW WITH SMALL TRIANGLE ARROWHEAD",
  "1F801 0UPWARDS ARROW WITH SMALL TRIANGLE ARROWHEAD",
  "1F802 0RIGHTWARDS ARROW WITH SMALL TRIANGLE ARROWHEAD",
  "1F803 0DOWNWARDS ARROW WITH SMALL TRIANGLE ARROWHEAD",
  "1F804 0LEFTWARDS ARROW WITH MEDIUM TRIANGLE ARROWHEAD",
  "1F805 0UPWARDS ARROW WITH MEDIUM TRIANGLE ARROWHEAD",
  "1F806 0RIGHTWARDS ARROW WITH MEDIUM TRIANGLE ARROWHEAD",
  "1F807 0DOWNWARDS ARROW WITH MEDIUM TRIANGLE ARROWHEAD",
  "1F808 0LEFTWARDS ARROW WITH LARGE TRIANGLE ARROWHEAD",
  "1F809 0UPWARDS ARROW WITH LARGE TRIANGLE ARROWHEAD",
  "1F80A 0RIGHTWARDS ARROW WITH LARGE TRIANGLE ARROWHEAD",
  "1F80B 0DOWNWARDS ARROW WITH LARGE TRIANGLE ARROWHEAD",
  "1F810 0LEFTWARDS ARROW WITH SMALL EQUILATERAL ARROWHEAD",
  "1F811 0UPWARDS ARROW WITH SMALL EQUILATERAL ARROWHEAD",
  "1F812 0RIGHTWARDS ARROW WITH SMALL EQUILATERAL ARROWHEAD",
  "1F813 0DOWNWARDS ARROW WITH SMALL EQUILATERAL ARROWHEAD",
  "1F814 0LEFTWARDS ARROW WITH EQUILATERAL ARROWHEAD;0UPWARDS ARROW WITH EQUILATERAL ARROWHEAD",
  "1F816 0RIGHTWARDS ARROW WITH EQUILATERAL ARROWHEAD;0DOWNWARDS ARROW WITH EQUILATERAL ARROWHEAD",
  "1F818 0HEAVY LEFTWARDS ARROW WITH EQUILATERAL ARROWHEAD",
  "1F819 1UPWARDS ARROW WITH EQUILATERAL ARROWHEAD;1RIGHTWARDS ARROW WITH EQUILATERAL ARROWHEAD",
  "1F81B 1DOWNWARDS ARROW WITH EQUILATERAL ARROWHEAD",
  "1F81C 1LEFTWARDS ARROW WITH LARGE EQUILATERAL ARROWHEAD",
  "1F81D 1UPWARDS ARROW WITH LARGE EQUILATERAL ARROWHEAD",
  "1F81E 1RIGHTWARDS ARROW WITH LARGE EQUILATERAL ARROWHEAD",
  "1F81F 1DOWNWARDS ARROW WITH LARGE EQUILATERAL ARROWHEAD",
  "1F820 0LEFTWARDS TRIANGLE-HEADED ARROW WITH NARROW SHAFT",
  "1F821 0UPWARDS TRIANGLE-HEADED ARROW WITH NARROW SHAFT",
  "1F822 0RIGHTWARDS TRIANGLE-HEADED ARROW WITH NARROW SHAFT",
  "1F823 0DOWNWARDS TRIANGLE-HEADED ARROW WITH NARROW SHAFT",
  "1F824 0LEFTWARDS TRIANGLE-HEADED ARROW WITH MEDIUM SHAFT",
  "1F825 0UPWARDS TRIANGLE-HEADED ARROW WITH MEDIUM SHAFT",
  "1F826 0RIGHTWARDS TRIANGLE-HEADED ARROW WITH MEDIUM SHAFT",
  "1F827 0DOWNWARDS TRIANGLE-HEADED ARROW WITH MEDIUM SHAFT",
  "1F828 0LEFTWARDS TRIANGLE-HEADED ARROW WITH BOLD SHAFT",
  "1F829 0UPWARDS TRIANGLE-HEADED ARROW WITH BOLD SHAFT",
  "1F82A 0RIGHTWARDS TRIANGLE-HEADED ARROW WITH BOLD SHAFT",
  "1F82B 0DOWNWARDS TRIANGLE-HEADED ARROW WITH BOLD SHAFT",
  "1F82C 0LEFTWARDS TRIANGLE-HEADED ARROW WITH HEAVY SHAFT",
  "1F82D 0UPWARDS TRIANGLE-HEADED ARROW WITH HEAVY SHAFT",
  "1F82E 0RIGHTWARDS TRIANGLE-HEADED ARROW WITH HEAVY SHAFT",
  "1F82F 0DOWNWARDS TRIANGLE-HEADED ARROW WITH HEAVY SHAFT",
  "1F830 0LEFTWARDS TRIANGLE-HEADED ARROW WITH VERY HEAVY SHAFT",
  "1F831 0UPWARDS TRIANGLE-HEADED ARROW WITH VERY HEAVY SHAFT",
  "1F832 0RIGHTWARDS TRIANGLE-HEADED ARROW WITH VERY HEAVY SHAFT",
  "1F833 0DOWNWARDS TRIANGLE-HEADED ARROW WITH VERY HEAVY SHAFT;0LEFTWARDS FINGER-POST ARROW",
  "1F835 0UPWARDS FINGER-POST ARROW;0RIGHTWARDS FINGER-POST ARROW;0DOWNWARDS FINGER-POST ARROW",
  "1F838 0LEFTWARDS SQUARED ARROW;0UPWARDS SQUARED ARROW;0RIGHTWARDS SQUARED ARROW",
  "1F83B 0DOWNWARDS SQUARED ARROW;0LEFTWARDS COMPRESSED ARROW;0UPWARDS COMPRESSED ARROW",
  "1F83E 0RIGHTWARDS COMPRESSED ARROW;0DOWNWARDS COMPRESSED ARROW",
  "1F840 0LEFTWARDS HEAVY COMPRESSED ARROW;0UPWARDS HEAVY COMPRESSED ARROW",
  "1F842 0RIGHTWARDS HEAVY COMPRESSED ARROW;0DOWNWARDS HEAVY COMPRESSED ARROW",
  "1F844 0LEFTWARDS HEAVY ARROW;0UPWARDS HEAVY ARROW;0RIGHTWARDS HEAVY ARROW",
  "1F847 0DOWNWARDS HEAVY ARROW",
  "1F850 0LEFTWARDS SANS-SERIF ARROW;0UPWARDS SANS-SERIF ARROW;0RIGHTWARDS SANS-SERIF ARROW",
  "1F853 0DOWNWARDS SANS-SERIF ARROW;0NORTH WEST SANS-SERIF ARROW;1EAST SANS-SERIF ARROW",
  "1F856 0SOUTH EAST SANS-SERIF ARROW;1WEST SANS-SERIF ARROW;0LEFT RIGHT SANS-SERIF ARROW",
  "1F859 0UP DOWN SANS-SERIF ARROW",
  "1F860 0WIDE-HEADED LEFTWARDS LIGHT BARB ARROW;2UPWARDS LIGHT BARB ARROW",
  "1F862 2RIGHTWARDS LIGHT BARB ARROW;2DOWNWARDS LIGHT BARB ARROW;2NORTH WEST LIGHT BARB ARROW",
  "1F865 3EAST LIGHT BARB ARROW;2SOUTH EAST LIGHT BARB ARROW;3WEST LIGHT BARB ARROW",
  "1F868 2LEFTWARDS BARB ARROW;2UPWARDS BARB ARROW;2RIGHTWARDS BARB ARROW;2DOWNWARDS BARB ARROW",
  "1F86C 2NORTH WEST BARB ARROW;3EAST BARB ARROW;2SOUTH EAST BARB ARROW;3WEST BARB ARROW",
  "1F870 2LEFTWARDS MEDIUM BARB ARROW;2UPWARDS MEDIUM BARB ARROW;2RIGHTWARDS MEDIUM BARB ARROW",
  "1F873 2DOWNWARDS MEDIUM BARB ARROW;2NORTH WEST MEDIUM BARB ARROW;3EAST MEDIUM BARB ARROW",
  "1F876 2SOUTH EAST MEDIUM BARB ARROW;3WEST MEDIUM BARB ARROW;2LEFTWARDS HEAVY BARB ARROW",
  "1F879 2UPWARDS HEAVY BARB ARROW;2RIGHTWARDS HEAVY BARB ARROW;2DOWNWARDS HEAVY BARB ARROW",
  "1F87C 2NORTH WEST HEAVY BARB ARROW;3EAST HEAVY BARB ARROW;2SOUTH EAST HEAVY BARB ARROW",
  "1F87F 3WEST HEAVY BARB ARROW;2LEFTWARDS VERY HEAVY BARB ARROW;2UPWARDS VERY HEAVY BARB ARROW",
  "1F882 2RIGHTWARDS VERY HEAVY BARB ARROW;2DOWNWARDS VERY HEAVY BARB ARROW",
  "1F884 2NORTH WEST VERY HEAVY BARB ARROW;3EAST VERY HEAVY BARB ARROW",
  "1F886 2SOUTH EAST VERY HEAVY BARB ARROW;3WEST VERY HEAVY BARB ARROW",
  "1F890 0LEFTWARDS TRIANGLE ARROWHEAD;0UPWARDS TRIANGLE ARROWHEAD;0RIGHTWARDS TRIANGLE ARROWHEAD",
  "1F893 0DOWNWARDS TRIANGLE ARROWHEAD;0LEFTWARDS WHITE ARROW WITHIN TRIANGLE ARROWHEAD",
  "1F895 0UPWARDS WHITE ARROW WITHIN TRIANGLE ARROWHEAD",
  "1F896 0RIGHTWARDS WHITE ARROW WITHIN TRIANGLE ARROWHEAD",
  "1F897 0DOWNWARDS WHITE ARROW WITHIN TRIANGLE ARROWHEAD;0LEFTWARDS ARROW WITH NOTCHED TAIL",
  "1F899 0UPWARDS ARROW WITH NOTCHED TAIL;0RIGHTWARDS ARROW WITH NOTCHED TAIL",
  "1F89B 0DOWNWARDS ARROW WITH NOTCHED TAIL;0HEAVY ARROW SHAFT WIDTH ONE;4TWO THIRDS;4ONE HALF",
  "1F89F 5THIRD;0LEFTWARDS BOTTOM-SHADED WHITE ARROW;0RIGHTWARDS BOTTOM SHADED WHITE ARROW",
  "1F8A2 0LEFTWARDS TOP SHADED WHITE ARROW;0RIGHTWARDS TOP SHADED WHITE ARROW",
  "1F8A4 0LEFTWARDS LEFT-SHADED WHITE ARROW;0RIGHTWARDS RIGHT-SHADED WHITE ARROW",
  "1F8A6 0LEFTWARDS RIGHT-SHADED WHITE ARROW;0RIGHTWARDS LEFT-SHADED WHITE ARROW",
  "1F8A8 0LEFTWARDS BACK-TILTED SHADOWED WHITE ARROW;0RIGHTWARDS BACK-TILTED SHADOWED WHITE ARROW",
  "1F8AA 0LEFTWARDS FRONT-TILTED SHADOWED WHITE ARROW",
  "1F8AB 0RIGHTWARDS FRONT-TILTED SHADOWED WHITE ARROW;0WHITE ARROW SHAFT WIDTH ONE;4TWO THIRDS",
  "1F8B0 0ARROW POINTING UPWARDS THEN NORTH WEST;2RIGHTWARDS THEN CURVING SOUTH WEST",
  "1F900 0CIRCLED CROSS FORMEE WITH FOUR DOTS;4TWO DOTS;2FORMEE;0LEFT HALF CIRCLE WITH FOUR DOTS",
  "1F904 4THREE DOTS;4TWO DOTS;4DOT;2CIRCLE;0DOWNWARD FACING HOOK;2NOTCHED HOOK;2HOOK WITH DOT",
  "1F90B 2NOTCHED HOOK WITH DOT;0PINCHED FINGERS;0WHITE HEART;0BROWN HEART;0PINCHING HAND",
  "1F910 0ZIPPER-MOUTH FACE;0MONEY-MOUTH FACE;0FACE WITH THERMOMETER;0NERD FACE;0THINKING FACE",
  "1F915 0FACE WITH HEAD-BANDAGE;0ROBOT FACE;0HUGGING FACE;0SIGN OF THE HORNS;0CALL ME HAND",
  "1F91A 0RAISED BACK OF HAND;0LEFT-FACING FIST;0RIGHT-FACING FIST;0HANDSHAKE",
  "1F91E 0HAND WITH INDEX AND MIDDLE FINGERS CROSSED;0I LOVE YOU HAND SIGN;0FACE WITH COWBOY HAT",
  "1F921 0CLOWN FACE;0NAUSEATED FACE;0ROLLING ON THE FLOOR LAUGHING;0DROOLING FACE;0LYING FACE",
  "1F926 0FACE PALM;0SNEEZING FACE;0FACE WITH ONE EYEBROW RAISED;0GRINNING FACE WITH STAR EYES",
  "1F92A 3ONE LARGE AND ONE SMALL EYE;0FACE WITH FINGER COVERING CLOSED LIPS",
  "1F92C 0SERIOUS FACE WITH SYMBOLS COVERING MOUTH",
  "1F92D 0SMILING FACE WITH SMILING EYES AND HAND COVERING MOUTH;0FACE WITH OPEN MOUTH VOMITING",
  "1F92F 0SHOCKED FACE WITH EXPLODING HEAD;0PREGNANT WOMAN;0BREAST-FEEDING;0PALMS UP TOGETHER",
  "1F933 0SELFIE;0PRINCE;0MAN IN TUXEDO;0MOTHER CHRISTMAS;0SHRUG;0PERSON DOING CARTWHEEL;0JUGGLING",
  "1F93A 0FENCER;0MODERN PENTATHLON;0WRESTLERS;0WATER POLO;0HANDBALL;0DIVING MASK;0WILTED FLOWER",
  "1F941 0DRUM WITH DRUMSTICKS;0CLINKING GLASSES;0TUMBLER GLASS;0SPOON;0GOAL NET;0RIFLE",
  "1F947 0FIRST PLACE MEDAL;0SECOND PLACE MEDAL;0THIRD PLACE MEDAL;0BOXING GLOVE",
  "1F94B 0MARTIAL ARTS UNIFORM;0CURLING STONE;0LACROSSE STICK AND BALL;0SOFTBALL;0FLYING DISC",
  "1F950 0CROISSANT;0AVOCADO;0CUCUMBER;0BACON;0POTATO;0CARROT;0BAGUETTE BREAD;0GREEN SALAD",
  "1F958 0SHALLOW PAN OF FOOD;0STUFFED FLATBREAD;0EGG;0GLASS OF MILK;0PEANUTS;0KIWIFRUIT;0PANCAKES",
  "1F95F 0DUMPLING;0FORTUNE COOKIE;0TAKEOUT BOX;0CHOPSTICKS;0BOWL WITH SPOON;0CUP WITH STRAW",
  "1F965 0COCONUT;0BROCCOLI;0PIE;0PRETZEL;0CUT OF MEAT;0SANDWICH;0CANNED FOOD;0LEAFY GREEN;0MANGO",
  "1F96E 0MOON CAKE;0BAGEL;0SMILING FACE WITH SMILING EYES AND THREE HEARTS;0YAWNING FACE",
  "1F972 0SMILING FACE WITH TEAR;0FACE WITH PARTY HORN AND PARTY HAT;2UNEVEN EYES AND WAVY MOUTH",
  "1F975 0OVERHEATED FACE;0FREEZING FACE;0NINJA;0DISGUISED FACE;0FACE HOLDING BACK TEARS",
  "1F97A 1WITH PLEADING EYES;0SARI;0LAB COAT;0GOGGLES;0HIKING BOOT;0FLAT SHOE;0CRAB;0LION FACE",
  "1F982 0SCORPION;0TURKEY;0UNICORN FACE;0EAGLE;0DUCK;0BAT;0SHARK;0OWL;0FOX FACE;0BUTTERFLY;0DEER",
  "1F98D 0GORILLA;0LIZARD;0RHINOCEROS;0SHRIMP;0SQUID;0GIRAFFE FACE;0ZEBRA FACE;0HEDGEHOG;0SAUROPOD",
  "1F996 0T-REX;0CRICKET;0KANGAROO;0LLAMA;0PEACOCK;0HIPPOPOTAMUS;0PARROT;0RACCOON;0LOBSTER",
  "1F99F 0MOSQUITO;0MICROBE;0BADGER;0SWAN;0MAMMOTH;0DODO;0SLOTH;0OTTER;0ORANGUTAN;0SKUNK;0FLAMINGO",
  "1F9AA 0OYSTER;0BEAVER;0BISON;0SEAL;0GUIDE DOG;0PROBING CANE;0EMOJI COMPONENT RED HAIR",
  "1F9B1 2CURLY HAIR;2BALD;2WHITE HAIR;0BONE;0LEG;0FOOT;0TOOTH;0SUPERHERO;0SUPERVILLAIN",
  "1F9BA 0SAFETY VEST;0EAR WITH HEARING AID;0MOTORIZED WHEELCHAIR;0MANUAL WHEELCHAIR",
  "1F9BE 0MECHANICAL ARM;1LEG;0CHEESE WEDGE;0CUPCAKE;0SALT SHAKER;0BEVERAGE BOX;0GARLIC;0ONION",
  "1F9C6 0FALAFEL;0WAFFLE;0BUTTER;0MATE DRINK;0ICE CUBE;0BUBBLE TEA;0TROLL;0STANDING PERSON",
  "1F9CE 0KNEELING PERSON;0DEAF PERSON;0FACE WITH MONOCLE;0ADULT;0CHILD;0OLDER ADULT",
  "1F9D4 0BEARDED PERSON;0PERSON WITH HEADSCARF;1IN STEAMY ROOM;1CLIMBING;1IN LOTUS POSITION;0MAGE",
  "1F9DA 0FAIRY;0VAMPIRE;0MERPERSON;0ELF;0GENIE;0ZOMBIE;0BRAIN;0ORANGE HEART;0BILLED CAP;0SCARF",
  "1F9E4 0GLOVES;0COAT;0SOCKS;0RED GIFT ENVELOPE;0FIRECRACKER;0JIGSAW PUZZLE PIECE;0TEST TUBE",
  "1F9EB 0PETRI DISH;0DNA DOUBLE HELIX;0COMPASS;0ABACUS;0FIRE EXTINGUISHER;0TOOLBOX;0BRICK;0MAGNET",
  "1F9F3 0LUGGAGE;0LOTION BOTTLE;0SPOOL OF THREAD;0BALL OF YARN;0SAFETY PIN;0TEDDY BEAR;0BROOM",
  "1F9FA 0BASKET;0ROLL OF PAPER;0BAR OF SOAP;0SPONGE;0RECEIPT;0NAZAR AMULET;0NEUTRAL CHESS KING",
  "1FA01 2QUEEN;2ROOK;2BISHOP;2KNIGHT;2PAWN;0WHITE CHESS KNIGHT ROTATED FORTY-FIVE DEGREES",
  "1FA07 0BLACK CHESS KNIGHT ROTATED FORTY-FIVE DEGREES",
  "1FA08 0NEUTRAL CHESS KNIGHT ROTATED FORTY-FIVE DEGREES;0WHITE CHESS KING ROTATED NINETY DEGREES",
  "1FA0A 2QUEEN ROTATED NINETY DEGREES;2ROOK ROTATED NINETY DEGREES;2BISHOP ROTATED NINETY DEGREES",
  "1FA0D 2KNIGHT ROTATED NINETY DEGREES;2PAWN ROTATED NINETY DEGREES",
  "1FA0F 0BLACK CHESS KING ROTATED NINETY DEGREES;2QUEEN ROTATED NINETY DEGREES",
  "1FA11 2ROOK ROTATED NINETY DEGREES;2BISHOP ROTATED NINETY DEGREES",
  "1FA13 2KNIGHT ROTATED NINETY DEGREES;2PAWN ROTATED NINETY DEGREES",
  "1FA15 0NEUTRAL CHESS KING ROTATED NINETY DEGREES;2QUEEN ROTATED NINETY DEGREES",
  "1FA17 2ROOK ROTATED NINETY DEGREES;2BISHOP ROTATED NINETY DEGREES",
  "1FA19 2KNIGHT ROTATED NINETY DEGREES;2PAWN ROTATED NINETY DEGREES",
  "1FA1B 0WHITE CHESS KNIGHT ROTATED ONE HUNDRED THIRTY-FIVE DEGREES",
  "1FA1C 0BLACK CHESS KNIGHT ROTATED ONE HUNDRED THIRTY-FIVE DEGREES",
  "1FA1D 0NEUTRAL CHESS KNIGHT ROTATED ONE HUNDRED THIRTY-FIVE DEGREES;0WHITE CHESS TURNED KING",
  "1FA1F 3QUEEN;3ROOK;3BISHOP;3KNIGHT;3PAWN;0BLACK CHESS TURNED KING;3QUEEN;3ROOK;3BISHOP;3KNIGHT",
  "1FA29 3PAWN;0NEUTRAL CHESS TURNED KING;3QUEEN;3ROOK;3BISHOP;3KNIGHT;3PAWN",
  "1FA30 0WHITE CHESS KNIGHT ROTATED TWO HUNDRED TWENTY-FIVE DEGREES",
  "1FA31 0BLACK CHESS KNIGHT ROTATED TWO HUNDRED TWENTY-FIVE DEGREES",
  "1FA32 0NEUTRAL CHESS KNIGHT ROTATED TWO HUNDRED TWENTY-FIVE DEGREES",
  "1FA33 0WHITE CHESS KING ROTATED TWO HUNDRED SEVENTY DEGREES",
  "1FA34 2QUEEN ROTATED TWO HUNDRED SEVENTY DEGREES;2ROOK ROTATED TWO HUNDRED SEVENTY DEGREES",
  "1FA36 2BISHOP ROTATED TWO HUNDRED SEVENTY DEGREES;2KNIGHT ROTATED TWO HUNDRED SEVENTY DEGREES",
  "1FA38 2PAWN ROTATED TWO HUNDRED SEVENTY DEGREES",
  "1FA39 0BLACK CHESS KING ROTATED TWO HUNDRED SEVENTY DEGREES",
  "1FA3A 2QUEEN ROTATED TWO HUNDRED SEVENTY DEGREES;2ROOK ROTATED TWO HUNDRED SEVENTY DEGREES",
  "1FA3C 2BISHOP ROTATED TWO HUNDRED SEVENTY DEGREES;2KNIGHT ROTATED TWO HUNDRED SEVENTY DEGREES",
  "1FA3E 2PAWN ROTATED TWO HUNDRED SEVENTY DEGREES",
  "1FA3F 0NEUTRAL CHESS KING ROTATED TWO HUNDRED SEVENTY DEGREES",
  "1FA40 2QUEEN ROTATED TWO HUNDRED SEVENTY DEGREES;2ROOK ROTATED TWO HUNDRED SEVENTY DEGREES",
  "1FA42 2BISHOP ROTATED TWO HUNDRED SEVENTY DEGREES;2KNIGHT ROTATED TWO HUNDRED SEVENTY DEGREES",
  "1FA44 2PAWN ROTATED TWO HUNDRED SEVENTY DEGREES",
  "1FA45 0WHITE CHESS KNIGHT ROTATED THREE HUNDRED FIFTEEN DEGREES",
  "1FA46 0BLACK CHESS KNIGHT ROTATED THREE HUNDRED FIFTEEN DEGREES",
  "1FA47 0NEUTRAL CHESS KNIGHT ROTATED THREE HUNDRED FIFTEEN DEGREES;0WHITE CHESS EQUIHOPPER",
  "1FA49 0BLACK CHESS EQUIHOPPER;0NEUTRAL CHESS EQUIHOPPER",
  "1FA4B 0WHITE CHESS EQUIHOPPER ROTATED NINETY DEGREES",
  "1FA4C 0BLACK CHESS EQUIHOPPER ROTATED NINETY DEGREES",
  "1FA4D 0NEUTRAL CHESS EQUIHOPPER ROTATED NINETY DEGREES;0WHITE CHESS KNIGHT-QUEEN;3ROOK;3BISHOP",
  "1FA51 0BLACK CHESS KNIGHT-QUEEN;3ROOK;3BISHOP",
  "1FA60 0XIANGQI RED GENERAL;2MANDARIN;2ELEPHANT;2HORSE;2CHARIOT;2CANNON;2SOLDIER;1BLACK GENERAL",
  "1FA68 2MANDARIN;2ELEPHANT;2HORSE;2CHARIOT;2CANNON;2SOLDIER",
  "1FA70 0BALLET SHOES;0ONE-PIECE SWIMSUIT;0BRIEFS;0SHORTS;0THONG SANDAL",
  "1FA78 0DROP OF BLOOD;0ADHESIVE BANDAGE;0STETHOSCOPE;0X-RAY;0CRUTCH",
  "1FA80 0YO-YO;0KITE;0PARACHUTE;0BOOMERANG;0MAGIC WAND;0PINATA;0NESTING DOLLS",
  "1FA90 0RINGED PLANET;0CHAIR;0RAZOR;0AXE;0DIYA LAMP;0BANJO;0MILITARY HELMET;0ACCORDION",
  "1FA98 0LONG DRUM;0COIN;0CARPENTRY SAW;0SCREWDRIVER;0LADDER;0HOOK;0MIRROR;0WINDOW;0PLUNGER",
  "1FAA1 0SEWING NEEDLE;0KNOT;0BUCKET;0MOUSE TRAP;0TOOTHBRUSH;0HEADSTONE;0PLACARD;0ROCK",
  "1FAA9 0MIRROR BALL;0IDENTIFICATION CARD;0LOW BATTERY;0HAMSA",
  "1FAB0 0FLY;0WORM;0BEETLE;0COCKROACH;0POTTED PLANT;0WOOD;0FEATHER;0LOTUS;0CORAL;0EMPTY NEST",
  "1FABA 0NEST WITH EGGS",
  "1FAC0 0ANATOMICAL HEART;0LUNGS;0PEOPLE HUGGING;0PREGNANT MAN;1PERSON;0PERSON WITH CROWN",
  "1FAD0 0BLUEBERRIES;0BELL PEPPER;0OLIVE;0FLATBREAD;0TAMALE;0FONDUE;0TEAPOT;0POURING LIQUID",
  "1FAD8 0BEANS;0JAR",
  "1FAE0 0MELTING FACE;0SALUTING FACE;0FACE WITH OPEN EYES AND HAND OVER MOUTH;2PEEKING EYE",
  "1FAE4 2DIAGONAL MOUTH;0DOTTED LINE FACE;0BITING LIP;0BUBBLES",
  "1FAF0 0HAND WITH INDEX FINGER AND THUMB CROSSED;0RIGHTWARDS HAND;0LEFTWARDS HAND",
  "1FAF3 0PALM DOWN HAND;1UP HAND;0INDEX POINTING AT THE VIEWER;0HEART HANDS",
  "1FB00 0BLOCK SEXTANT-1;22;212;23;213;223;2123;24;214;224;2124;234;2134;2234;21234;25;215;225",
  "1FB12 2125;235;2235;21235;245;2145;2245;21245;2345;21345;22345;212345;26;216;226;2126;236;2136",
  "1FB24 2236;21236;246;2146;21246;2346;21346;22346;212346;256;2156;2256;21256;2356;21356;22356",
  "1FB34 212356;2456;21456;22456;212456;23456;213456;223456",
  "1FB3C 0LOWER LEFT BLOCK DIAGONAL LOWER MIDDLE LEFT TO LOWER CENTRE;9RIGHT",
  "1FB3E 4UPPER MIDDLE LEFT TO LOWER CENTRE;9RIGHT;5LEFT TO LOWER CENTRE",
  "1FB41 1RIGHT BLOCK DIAGONAL UPPER MIDDLE LEFT TO UPPER CENTRE;9RIGHT",
  "1FB43 4LOWER MIDDLE LEFT TO UPPER CENTRE;9RIGHT;5LEFT TO UPPER CENTRE",
  "1FB46 5MIDDLE LEFT TO UPPER MIDDLE RIGHT;5CENTRE TO LOWER MIDDLE RIGHT",
  "1FB48 5LEFT TO LOWER MIDDLE RIGHT;5CENTRE TO UPPER MIDDLE RIGHT;5LEFT TO UPPER MIDDLE RIGHT",
  "1FB4B 5CENTRE TO UPPER RIGHT;1LEFT BLOCK DIAGONAL UPPER CENTRE TO UPPER MIDDLE RIGHT",
  "1FB4D 5LEFT TO UPPER MIDDLE RIGHT;5CENTRE TO LOWER MIDDLE RIGHT;5LEFT TO LOWER MIDDLE RIGHT",
  "1FB50 5CENTRE TO LOWER RIGHT;5MIDDLE LEFT TO LOWER MIDDLE RIGHT",
  "1FB52 0UPPER RIGHT BLOCK DIAGONAL LOWER MIDDLE LEFT TO LOWER CENTRE;9RIGHT",
  "1FB54 4UPPER MIDDLE LEFT TO LOWER CENTRE;9RIGHT;5LEFT TO LOWER CENTRE",
  "1FB57 1LEFT BLOCK DIAGONAL UPPER MIDDLE LEFT TO UPPER CENTRE;9RIGHT",
  "1FB59 4LOWER MIDDLE LEFT TO UPPER CENTRE;9RIGHT;5LEFT TO UPPER CENTRE",
  "1FB5C 5MIDDLE LEFT TO UPPER MIDDLE RIGHT;5CENTRE TO LOWER MIDDLE RIGHT",
  "1FB5E 5LEFT TO LOWER MIDDLE RIGHT;5CENTRE TO UPPER MIDDLE RIGHT;5LEFT TO UPPER MIDDLE RIGHT",
  "1FB61 5CENTRE TO UPPER RIGHT;1RIGHT BLOCK DIAGONAL UPPER CENTRE TO UPPER MIDDLE RIGHT",
  "1FB63 5LEFT TO UPPER MIDDLE RIGHT;5CENTRE TO LOWER MIDDLE RIGHT;5LEFT TO LOWER MIDDLE RIGHT",
  "1FB66 5CENTRE TO LOWER RIGHT;5MIDDLE LEFT TO LOWER MIDDLE RIGHT",
  "1FB68 1AND RIGHT AND LOWER TRIANGULAR THREE QUARTERS BLOCK",
  "1FB69 0LEFT AND LOWER AND RIGHT TRIANGULAR THREE QUARTERS BLOCK",
  "1FB6A 0UPPER AND LEFT AND LOWER TRIANGULAR THREE QUARTERS BLOCK",
  "1FB6B 0LEFT AND UPPER AND RIGHT TRIANGULAR THREE QUARTERS BLOCK;1TRIANGULAR ONE QUARTER BLOCK",
  "1FB6D 0UPPER TRIANGULAR ONE QUARTER BLOCK;0RIGHT TRIANGULAR ONE QUARTER BLOCK",
  "1FB6F 0LOWER TRIANGULAR ONE QUARTER BLOCK;0VERTICAL ONE EIGHTH BLOCK-2;43;44;45;46;47",
  "1FB76 0HORIZONTAL ONE EIGHTH BLOCK-2;43;44;45;46;47;0LEFT AND LOWER ONE EIGHTH BLOCK",
  "1FB7D 2UPPER ONE EIGHTH BLOCK;0RIGHT AND UPPER ONE EIGHTH BLOCK;2LOWER ONE EIGHTH BLOCK",
  "1FB80 0UPPER AND LOWER ONE EIGHTH BLOCK;0HORIZONTAL ONE EIGHTH BLOCK-1358",
  "1FB82 0UPPER ONE QUARTER BLOCK;1THREE EIGHTHS BLOCK;1FIVE EIGHTHS BLOCK;1THREE QUARTERS BLOCK",
  "1FB86 1SEVEN EIGHTHS BLOCK;0RIGHT ONE QUARTER BLOCK;1THREE EIGHTHS BLOCK;1FIVE EIGHTHS BLOCK",
  "1FB8A 1THREE QUARTERS BLOCK;1SEVEN EIGHTHS BLOCK;0LEFT HALF MEDIUM SHADE",
  "1FB8D 0RIGHT HALF MEDIUM SHADE;0UPPER HALF MEDIUM SHADE;0LOWER HALF MEDIUM SHADE",
  "1FB90 0INVERSE MEDIUM SHADE;0UPPER HALF BLOCK AND LOWER HALF INVERSE MEDIUM SHADE",
  "1FB92 2INVERSE MEDIUM SHADE AND LOWER HALF BLOCK",
  "1FB94 0LEFT HALF INVERSE MEDIUM SHADE AND RIGHT HALF BLOCK;0CHECKER BOARD FILL",
  "1FB96 0INVERSE CHECKER BOARD FILL;0HEAVY HORIZONTAL FILL;0UPPER LEFT TO LOWER RIGHT FILL",
  "1FB99 1RIGHT TO LOWER LEFT FILL;1AND LOWER TRIANGULAR HALF BLOCK",
  "1FB9B 0LEFT AND RIGHT TRIANGULAR HALF BLOCK;0UPPER LEFT TRIANGULAR MEDIUM SHADE",
  "1FB9D 1RIGHT TRIANGULAR MEDIUM SHADE;0LOWER RIGHT TRIANGULAR MEDIUM SHADE",
  "1FB9F 1LEFT TRIANGULAR MEDIUM SHADE;0BOX DRAWINGS LIGHT DIAGONAL UPPER CENTRE TO MIDDLE LEFT",
  "1FBA1 8RIGHT;4MIDDLE LEFT TO LOWER CENTRE;5RIGHT TO LOWER CENTRE",
  "1FBA4 4UPPER CENTRE TO MIDDLE LEFT TO LOWER CENTRE;8RIGHT TO LOWER CENTRE",
  "1FBA6 4MIDDLE LEFT TO LOWER CENTRE TO MIDDLE RIGHT;7UPPER CENTRE TO MIDDLE RIGHT",
  "1FBA8 4UPPER CENTRE TO MIDDLE LEFT AND MIDDLE RIGHT TO LOWER CENTRE",
  "1FBA9 8RIGHT AND MIDDLE LEFT TO LOWER CENTRE;9TO LOWER CENTRE TO MIDDLE LEFT",
  "1FBAB 8LEFT TO LOWER CENTRE TO MIDDLE RIGHT",
  "1FBAC 4MIDDLE LEFT TO UPPER CENTRE TO MIDDLE RIGHT TO LOWER CENTRE",
  "1FBAD 5RIGHT TO UPPER CENTRE TO MIDDLE LEFT TO LOWER CENTRE;4DIAMOND",
  "1FBAF 3HORIZONTAL WITH VERTICAL STROKE;0ARROWHEAD-SHAPED POINTER;0INVERSE CHECK MARK",
  "1FBB2 0LEFT HALF RUNNING MAN;0RIGHT HALF RUNNING MAN",
  "1FBB4 0INVERSE DOWNWARDS ARROW WITH TIP LEFTWARDS",
  "1FBB5 0LEFTWARDS ARROW AND UPPER AND LOWER ONE EIGHTH BLOCK",
  "1FBB6 0RIGHTWARDS ARROW AND UPPER AND LOWER ONE EIGHTH BLOCK",
  "1FBB7 0DOWNWARDS ARROW AND RIGHT ONE EIGHTH BLOCK;0UPWARDS ARROW AND RIGHT ONE EIGHTH BLOCK",
  "1FBB9 0LEFT HALF FOLDER;0RIGHT HALF FOLDER;0VOIDED GREEK CROSS;0RIGHT OPEN SQUARED DOT",
  "1FBBD 0NEGATIVE DIAGONAL CROSS;2MIDDLE RIGHT TO LOWER CENTRE;2DIAMOND",
  "1FBC0 0WHITE HEAVY SALTIRE WITH ROUNDED CORNERS;0LEFT THIRD WHITE RIGHT POINTING INDEX",
  "1FBC2 0MIDDLE THIRD WHITE RIGHT POINTING INDEX;0RIGHT THIRD WHITE RIGHT POINTING INDEX",
  "1FBC4 0NEGATIVE SQUARED QUESTION MARK;0STICK FIGURE;1FIGURE WITH ARMS RAISED;2LEANING LEFT",
  "1FBC8 3RIGHT;2WITH DRESS;0WHITE UP-POINTING CHEVRON",
  "1FBF0 0SEGMENTED DIGIT ZERO;2ONE;2TWO;2THREE;2FOUR;2FIVE;2SIX;2SEVEN;2EIGHT;2NINE",
  "E0001 0LANGUAGE TAG",
  "E0020 0TAG SPACE;1EXCLAMATION MARK;1QUOTATION MARK;1NUMBER SIGN;1DOLLAR SIGN;1PERCENT SIGN",
  "E0026 1AMPERSAND;1APOSTROPHE;1LEFT PARENTHESIS;1RIGHT PARENTHESIS;1ASTERISK;1PLUS SIGN;1COMMA",
  "E002D 1HYPHEN-MINUS;1FULL STOP;1SOLIDUS;1DIGIT ZERO;2ONE;2TWO;2THREE;2FOUR;2FIVE;2SIX;2SEVEN",
  "E0038 2EIGHT;2NINE;1COLON;1SEMICOLON;1LESS-THAN SIGN;1EQUALS SIGN;1GREATER-THAN SIGN",
  "E003F 1QUESTION MARK;1COMMERCIAL AT;1LATIN CAPITAL LETTER A;4B;4C;4D;4E;4F;4G;4H;4I;4J;4K;4L;4M",
  "E004E 4N;4O;4P;4Q;4R;4S;4T;4U;4V;4W;4X;4Y;4Z;1LEFT SQUARE BRACKET;1REVERSE SOLIDUS",
  "E005D 1RIGHT SQUARE BRACKET;1CIRCUMFLEX ACCENT;1LOW LINE;1GRAVE ACCENT;1LATIN SMALL LETTER A;4B",
  "E0063 4C;4D;4E;4F;4G;4H;4I;4J;4K;4L;4M;4N;4O;4P;4Q;4R;4S;4T;4U;4V;4W;4X;4Y;4Z",
  "E007B 1LEFT CURLY BRACKET;1VERTICAL LINE;1RIGHT CURLY BRACKET;1TILDE;0CANCEL TAG",
  "E0100 0VARIATION SELECTOR-17;218;219;220;221;222;223;224;225;226;227;228;229;230;231;232;233",
  "E0111 234;235;236;237;238;239;240;241;242;243;244;245;246;247;248;249;250;251;252;253;254;255",
  "E0127 256;257;258;259;260;261;262;263;264;265;266;267;268;269;270;271;272;273;274;275;276;277",
  "E013D 278;279;280;281;282;283;284;285;286;287;288;289;290;291;292;293;294;295;296;297;298;299",
  "E0153 2100;2101;2102;2103;2104;2105;2106;2107;2108;2109;2110;2111;2112;2113;2114;2115;2116;2117",
  "E0165 2118;2119;2120;2121;2122;2123;2124;2125;2126;2127;2128;2129;2130;2131;2132;2133;2134;2135",
  "E0177 2136;2137;2138;2139;2140;2141;2142;2143;2144;2145;2146;2147;2148;2149;2150;2151;2152;2153",
  "E0189 2154;2155;2156;2157;2158;2159;2160;2161;2162;2163;2164;2165;2166;2167;2168;2169;2170;2171",
  "E019B 2172;2173;2174;2175;2176;2177;2178;2179;2180;2181;2182;2183;2184;2185;2186;2187;2188;2189",
  "E01AD 2190;2191;2192;2193;2194;2195;2196;2197;2198;2199;2200;2201;2202;2203;2204;2205;2206;2207",
  "E01BF 2208;2209;2210;2211;2212;2213;2214;2215;2216;2217;2218;2219;2220;2221;2222;2223;2224;2225",
  "E01D1 2226;2227;2228;2229;2230;2231;2232;2233;2234;2235;2236;2237;2238;2239;2240;2241;2242;2243",
  "E01E3 2244;2245;2246;2247;2248;2249;2250;2251;2252;2253;2254;2255;2256"]

end FormCheck.Text.CharacterName
