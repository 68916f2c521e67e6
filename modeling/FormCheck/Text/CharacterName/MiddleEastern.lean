/-! # Middle Eastern scripts

The names of the scripts of the Middle East, in code order.
-/

namespace FormCheck.Text.CharacterName

def middleEastern : List String := [
  "591 0HEBREW ACCENT ETNAHTA;2SEGOL;2SHALSHELET;2ZAQEF QATAN;3GADOL;2TIPEHA;2REVIA;2ZARQA;2PASHTA",
  "59A 2YETIV;2TEVIR;2GERESH;2GERESH MUQDAM;2GERSHAYIM;2QARNEY PARA;2TELISHA GEDOLA;2PAZER",
  "5A2 2ATNAH HAFUKH;2MUNAH;2MAHAPAKH;2MERKHA;2MERKHA KEFULA;2DARGA;2QADMA;2TELISHA QETANA",
  "5AA 2YERAH BEN YOMO;2OLE;2ILUY;2DEHI;2ZINOR;1MARK MASORA CIRCLE;1POINT SHEVA;2HATAF SEGOL",
  "5B2 3PATAH;3QAMATS;2HIRIQ;2TSERE;2SEGOL;2PATAH;2QAMATS;2HOLAM;2HOLAM HASER FOR VAV;2QUBUTS",
  "5BC 2DAGESH OR MAPIQ;2METEG;1PUNCTUATION MAQAF;1POINT RAFE;1PUNCTUATION PASEQ;1POINT SHIN DOT",
  "5C2 2SIN DOT;1PUNCTUATION SOF PASUQ;1MARK UPPER DOT;2LOWER DOT;1PUNCTUATION NUN HAFUKHA",
  "5C7 1POINT QAMATS QATAN",
  "5D0 1LETTER ALEF;2BET;2GIMEL;2DALET;2HE;2VAV;2ZAYIN;2HET;2TET;2YOD;2FINAL KAF;2KAF;2LAMED",
  "5DD 2FINAL MEM;2MEM;2FINAL NUN;2NUN;2SAMEKH;2AYIN;2FINAL PE;2PE;2FINAL TSADI;2TSADI;2QOF;2RESH",
  "5E9 2SHIN;2TAV",
  "5EF 1YOD TRIANGLE;1LIGATURE YIDDISH DOUBLE VAV;3VAV YOD;3DOUBLE YOD;1PUNCTUATION GERESH",
  "5F4 2GERSHAYIM",
  "600 0ARABIC NUMBER SIGN;1SIGN SANAH;1FOOTNOTE MARKER;1SIGN SAFHA;2SAMVAT;1NUMBER MARK ABOVE",
  "606 0ARABIC-INDIC CUBE ROOT;2FOURTH ROOT;0ARABIC RAY;0ARABIC-INDIC PER MILLE SIGN",
  "60A 3TEN THOUSAND SIGN;0AFGHANI SIGN;0ARABIC COMMA;1DATE SEPARATOR;1POETIC VERSE SIGN",
  "60F 1SIGN MISRA;2SALLALLAHOU ALAYHE WASSALLAM;2ALAYHE ASSALLAM;2RAHMATULLAH ALAYHE",
  "613 2RADI ALLAHOU ANHU;2TAKHALLUS;1SMALL HIGH TAH;3LIGATURE ALEF WITH LAM WITH YEH;3ZAIN;2FATHA",
  "619 2DAMMA;2KASRA;1SEMICOLON;1LETTER MARK;1END OF TEXT MARK;1TRIPLE DOT PUNCTUATION MARK",
  "61F 1QUESTION MARK;1LETTER KASHMIRI YEH;2HAMZA;2ALEF WITH MADDA ABOVE;4HAMZA ABOVE",
  "624 2WAW WITH HAMZA ABOVE;2ALEF WITH HAMZA BELOW;2YEH WITH HAMZA ABOVE;2ALEF;2BEH;2TEH MARBUTA",
  "62A 2TEH;2THEH;2JEEM;2HAH;2KHAH;2DAL;2THAL;2REH;2ZAIN;2SEEN;2SHEEN;2SAD;2DAD;2TAH;2ZAH;2AIN",
  "63A 2GHAIN;2KEHEH WITH TWO DOTS ABOVE;4THREE DOTS BELOW;2FARSI YEH WITH INVERTED V",
  "63E 5TWO DOTS ABOVE;5THREE DOTS ABOVE;1TATWEEL;1LETTER FEH;2QAF;2KAF;2LAM;2MEEM;2NOON;2HEH;2WAW",
  "649 2ALEF MAKSURA;2YEH;1FATHATAN;1DAMMATAN;1KASRATAN;1FATHA;1DAMMA;1KASRA;1SHADDA;1SUKUN",
  "653 1MADDAH ABOVE;1HAMZA ABOVE;2BELOW;1SUBSCRIPT ALEF;1INVERTED DAMMA;1MARK NOON GHUNNA",
  "659 1ZWARAKAY;1VOWEL SIGN SMALL V ABOVE;3INVERTED SMALL V ABOVE;3DOT BELOW;1REVERSED DAMMA",
  "65E 1FATHA WITH TWO DOTS;1WAVY HAMZA BELOW;0ARABIC-INDIC DIGIT ZERO;3ONE;3TWO;3THREE;3FOUR",
  "665 3FIVE;3SIX;3SEVEN;3EIGHT;3NINE;0ARABIC PERCENT SIGN;1DECIMAL SEPARATOR;1THOUSANDS SEPARATOR",
  "66D 1FIVE POINTED STAR;1LETTER DOTLESS BEH;3QAF;2SUPERSCRIPT ALEF;2ALEF WASLA",
  "672 3WITH WAVY HAMZA ABOVE;6BELOW;2HIGH HAMZA;3HAMZA ALEF;4WAW;2U WITH HAMZA ABOVE",
  "678 2HIGH HAMZA YEH;2TTEH;2TTEHEH;2BEEH;2TEH WITH RING;4THREE DOTS ABOVE DOWNWARDS;2PEH;2TEHEH",
  "680 2BEHEH;2HAH WITH HAMZA ABOVE;4TWO DOTS VERTICAL ABOVE;2NYEH;2DYEH",
  "685 2HAH WITH THREE DOTS ABOVE;2TCHEH;2TCHEHEH;2DDAL;2DAL WITH RING;4DOT BELOW",
  "68B 5BELOW AND SMALL TAH;2DAHAL;2DDAHAL;2DUL;2DAL WITH THREE DOTS ABOVE DOWNWARDS",
  "690 4FOUR DOTS ABOVE;2RREH;2REH WITH SMALL V;4RING;4DOT BELOW;4SMALL V BELOW",
  "696 4DOT BELOW AND DOT ABOVE;4TWO DOTS ABOVE;2JEH;2REH WITH FOUR DOTS ABOVE",
  "69A 2SEEN WITH DOT BELOW AND DOT ABOVE;4THREE DOTS BELOW;6BELOW AND THREE DOTS ABOVE",
  "69D 2SAD WITH TWO DOTS BELOW;4THREE DOTS ABOVE;2TAH WITH THREE DOTS ABOVE",
  "6A0 2AIN WITH THREE DOTS ABOVE;2DOTLESS FEH;2FEH WITH DOT MOVED BELOW;5BELOW;2VEH",
  "6A5 2FEH WITH THREE DOTS BELOW;2PEHEH;2QAF WITH DOT ABOVE;4THREE DOTS ABOVE;2KEHEH;2SWASH KAF",
  "6AB 2KAF WITH RING;4DOT ABOVE;2NG;2KAF WITH THREE DOTS BELOW;2GAF;2GAF WITH RING;2NGOEH",
  "6B2 2GAF WITH TWO DOTS BELOW;2GUEH;2GAF WITH THREE DOTS ABOVE;2LAM WITH SMALL V;4DOT ABOVE",
  "6B7 4THREE DOTS ABOVE;6BELOW;2NOON WITH DOT BELOW;3GHUNNA;2RNOON;2NOON WITH RING",
  "6BD 4THREE DOTS ABOVE;2HEH DOACHASHMEE;2TCHEH WITH DOT ABOVE;2HEH WITH YEH ABOVE;3GOAL",
  "6C2 3GOAL WITH HAMZA ABOVE;2TEH MARBUTA GOAL;2WAW WITH RING;2KIRGHIZ OE;2OE;2U;2YU;2KIRGHIZ YU",
  "6CA 2WAW WITH TWO DOTS ABOVE;2VE;2FARSI YEH;2YEH WITH TAIL;4SMALL V;2WAW WITH DOT ABOVE;2E",
  "6D1 2YEH WITH THREE DOTS BELOW;3BARREE;3BARREE WITH HAMZA ABOVE;1FULL STOP;1LETTER AE",
  "6D6 1SMALL HIGH LIGATURE SAD WITH LAM WITH ALEF MAKSURA;4QAF WITH LAM WITH ALEF MAKSURA",
  "6D8 3MEEM INITIAL FORM;3LAM ALEF;3JEEM;3THREE DOTS;3SEEN;1END OF AYAH;1START OF RUB EL HIZB",
  "6DF 1SMALL HIGH ROUNDED ZERO;3UPRIGHT RECTANGULAR ZERO;3DOTLESS HEAD OF KHAH",
  "6E2 3MEEM ISOLATED FORM;2LOW SEEN;2HIGH MADDA;2WAW;2YEH;2HIGH YEH;3NOON;1PLACE OF SAJDAH",
  "6EA 1EMPTY CENTRE LOW STOP;3HIGH STOP;1ROUNDED HIGH STOP WITH FILLED CENTRE;1SMALL LOW MEEM",
  "6EE 1LETTER DAL WITH INVERTED V;2REH WITH INVERTED V;0EXTENDED ARABIC-INDIC DIGIT ZERO;4ONE",
  "6F2 4TWO;4THREE;4FOUR;4FIVE;4SIX;4SEVEN;4EIGHT;4NINE;0ARABIC LETTER SHEEN WITH DOT BELOW",
  "6FB 2DAD WITH DOT BELOW;2GHAIN WITH DOT BELOW;1SIGN SINDHI AMPERSAND;3POSTPOSITION MEN",
  "6FF 1LETTER HEH WITH INVERTED V;0SYRIAC END OF PARAGRAPH;1SUPRALINEAR FULL STOP",
  "702 1SUBLINEAR FULL STOP;1SUPRALINEAR COLON;1SUBLINEAR COLON;1HORIZONTAL COLON",
  "706 1COLON SKEWED LEFT;3RIGHT;1SUPRALINEAR COLON SKEWED LEFT;1SUBLINEAR COLON SKEWED RIGHT",
  "70A 1CONTRACTION;1HARKLEAN OBELUS;2METOBELUS;2ASTERISCUS",
  "70F 1ABBREVIATION MARK;1LETTER ALAPH;2SUPERSCRIPT ALAPH;2BETH;2GAMAL;2GAMAL GARSHUNI;2DALATH",
  "716 2DOTLESS DALATH RISH;2HE;2WAW;2ZAIN;2HETH;2TETH;2TETH GARSHUNI;2YUDH;2YUDH HE;2KAPH;2LAMADH",
  "721 2MIM;2NUN;2SEMKATH;2FINAL SEMKATH;2E;2PE;2REVERSED PE;2SADHE;2QAPH;2RISH;2SHIN;2TAW",
  "72D 2PERSIAN BHETH;3GHAMAL;3DHALATH;1PTHAHA ABOVE;2BELOW;2DOTTED;1ZQAPHA ABOVE;2BELOW;2DOTTED",
  "736 1RBASA ABOVE;2BELOW;1DOTTED ZLAMA HORIZONTAL;3ANGULAR;1HBASA ABOVE;2BELOW",
  "73C 1HBASA-ESASA DOTTED;1ESASA ABOVE;2BELOW;1RWAHA;1FEMININE DOT;1QUSHSHAYA;1RUKKAKHA",
  "743 1TWO VERTICAL DOTS ABOVE;4BELOW;1THREE DOTS ABOVE;3BELOW;1OBLIQUE LINE ABOVE;3BELOW;1MUSIC",
  "74A 1BARREKH",
  "74D 1LETTER SOGDIAN ZHAIN;3KHAPH;3FE;0ARABIC LETTER BEH WITH THREE DOTS HORIZONTALLY BELOW",
  "751 4DOT BELOW AND THREE DOTS ABOVE;4THREE DOTS POINTING UPWARDS BELOW",
  "753 8BELOW AND TWO DOTS ABOVE;4TWO DOTS BELOW AND DOT ABOVE;4INVERTED SMALL V BELOW;4SMALL V",
  "757 2HAH WITH TWO DOTS ABOVE;4THREE DOTS POINTING UPWARDS BELOW",
  "759 2DAL WITH TWO DOTS VERTICALLY BELOW AND SMALL TAH;4INVERTED SMALL V BELOW;2REH WITH STROKE",
  "75C 2SEEN WITH FOUR DOTS ABOVE;2AIN WITH TWO DOTS ABOVE;4THREE DOTS POINTING DOWNWARDS ABOVE",
  "75F 4TWO DOTS VERTICALLY ABOVE;2FEH WITH TWO DOTS BELOW;4THREE DOTS POINTING UPWARDS BELOW",
  "762 2KEHEH WITH DOT ABOVE;4THREE DOTS ABOVE;6POINTING UPWARDS BELOW;2MEEM WITH DOT ABOVE;5BELOW",
  "767 2NOON WITH TWO DOTS BELOW;4SMALL TAH;5V;2LAM WITH BAR;2REH WITH TWO DOTS VERTICALLY ABOVE",
  "76C 4HAMZA ABOVE;2SEEN WITH TWO DOTS VERTICALLY ABOVE;2HAH WITH SMALL ARABIC LETTER TAH BELOW",
  "76F 8AND TWO DOTS;2SEEN WITH SMALL ARABIC LETTER TAH AND TWO DOTS",
  "771 2REH WITH SMALL ARABIC LETTER TAH AND TWO DOTS;2HAH WITH SMALL ARABIC LETTER TAH ABOVE",
  "773 2ALEF WITH EXTENDED ARABIC-INDIC DIGIT TWO ABOVE;8THREE ABOVE",
  "775 2FARSI YEH WITH EXTENDED ARABIC-INDIC DIGIT TWO ABOVE;9THREE ABOVE;9FOUR BELOW",
  "778 2WAW WITH EXTENDED ARABIC-INDIC DIGIT TWO ABOVE;8THREE ABOVE",
  "77A 2YEH BARREE WITH EXTENDED ARABIC-INDIC DIGIT TWO ABOVE;9THREE ABOVE",
  "77C 2HAH WITH EXTENDED ARABIC-INDIC DIGIT FOUR BELOW",
  "77D 2SEEN WITH EXTENDED ARABIC-INDIC DIGIT FOUR ABOVE;4INVERTED V;2KAF WITH TWO DOTS ABOVE",
  "780 0THAANA LETTER HAA;2SHAVIYANI;2NOONU;2RAA;2BAA;2LHAVIYANI;2KAAFU;2ALIFU;2VAAVU;2MEEMU",
  "78A 2FAAFU;2DHAALU;2THAA;2LAAMU;2GAAFU;2GNAVIYANI;2SEENU;2DAVIYANI;2ZAVIYANI;2TAVIYANI;2YAA",
  "795 2PAVIYANI;2JAVIYANI;2CHAVIYANI;2TTAA;2HHAA;2KHAA;2THAALU;2ZAA;2SHEENU;2SAADHU;2DAADHU;2TO",
  "7A1 2ZO;2AINU;2GHAINU;2QAAFU;2WAAVU;1ABAFILI;1AABAAFILI;1IBIFILI;1EEBEEFILI;1UBUFILI;1OOBOOFILI",
  "7AC 1EBEFILI;1EYBEYFILI;1OBOFILI;1OABOAFILI;1SUKUN;1LETTER NAA",
  "7C0 0NKO DIGIT ZERO;2ONE;2TWO;2THREE;2FOUR;2FIVE;2SIX;2SEVEN;2EIGHT;2NINE;1LETTER A;2EE;2I;2E",
  "7CE 2U;2OO;2O;2DAGBASINNA;2N;2BA;2PA;2TA;2JA;2CHA;2DA;2RA;2RRA;2SA;2GBA;2FA;2KA;2LA;2NA WOLOSO",
  "7E1 2MA;2NYA;2NA;2HA;2WA;2YA;2NYA WOLOSO;2JONA JA;3CHA;3RA;1COMBINING SHORT HIGH TONE;3LOW TONE",
  "7ED 3RISING TONE;2LONG DESCENDING TONE;3HIGH TONE;3LOW TONE;3RISING TONE;2NASALIZATION MARK",
  "7F3 2DOUBLE DOT ABOVE;1HIGH TONE APOSTROPHE;1LOW TONE APOSTROPHE;1SYMBOL OO DENNEN;2GBAKURUNEN",
  "7F8 1COMMA;1EXCLAMATION MARK;1LAJANYALAN",
  "7FD 1DANTAYALAN;1DOROME SIGN;1TAMAN SIGN;0SAMARITAN LETTER ALAF;2BIT;2GAMAN;2DALAT;2IY;2BAA",
  "806 2ZEN;2IT;2TIT;2YUT;2KAAF;2LABAT;2MIM;2NUN;2SINGAAT;2IN;2FI;2TSAADIY;2QUF;2RISH;2SHAN;2TAAF",
  "816 1MARK IN;2IN-ALAF;2OCCLUSION;2DAGESH;1MODIFIER LETTER EPENTHETIC YUT;1MARK EPENTHETIC YUT",
  "81C 1VOWEL SIGN LONG E;3E;3OVERLONG AA;3LONG AA;3AA;3OVERLONG A;3LONG A;3A",
  "824 1MODIFIER LETTER SHORT A;1VOWEL SIGN SHORT A;3LONG U;3U;1MODIFIER LETTER I",
  "829 1VOWEL SIGN LONG I;3I;3O;3SUKUN;1MARK NEQUDAA",
  "830 1PUNCTUATION NEQUDAA;2AFSAAQ;2ANGED;2BAU;2ATMAAU;2SHIYYAALAA;1ABBREVIATION MARK",
  "837 1PUNCTUATION MELODIC QITSA;2ZIQAA;2QITSA;2ZAEF;2TURU;2ARKAANU;2SOF MASHFAAT;2ANNAAU",
  "840 0MANDAIC LETTER HALQA;2AB;2AG;2AD;2AH;2USHENNA;2AZ;2IT;2ATT;2AKSA;2AK;2AL;2AM;2AN;2AS;2IN",
  "850 2AP;2ASZ;2AQ;2AR;2ASH;2AT;2DUSHENNA;2KAD;2AIN;1AFFRICATION MARK;1VOCALIZATION MARK",
  "85B 1GEMINATION MARK",
  "85E 1PUNCTUATION",
  "860 0SYRIAC LETTER MALAYALAM NGA;3JA;3NYA;3TTA;3NNA;3NNNA;3BHA;3RA;3LLA;3LLLA;3SSA",
  "870 0ARABIC LETTER ALEF WITH ATTACHED FATHA;5TOP RIGHT FATHA;4RIGHT MIDDLE STROKE",
  "873 4LEFT MIDDLE STROKE;4ATTACHED KASRA;5BOTTOM RIGHT KASRA;5ROUND DOT ABOVE;5RIGHT ROUND DOT",
  "878 5LEFT ROUND DOT;5ROUND DOT BELOW;4DOT ABOVE;4ATTACHED TOP RIGHT FATHA AND DOT ABOVE",
  "87C 4RIGHT MIDDLE STROKE AND DOT ABOVE;4ATTACHED BOTTOM RIGHT KASRA AND DOT ABOVE",
  "87E 5TOP RIGHT FATHA AND LEFT RING;4RIGHT MIDDLE STROKE AND LEFT RING",
  "880 4ATTACHED BOTTOM RIGHT KASRA AND LEFT RING;5RIGHT HAMZA;5LEFT HAMZA",
  "883 1TATWEEL WITH OVERSTRUCK HAMZA;4WAW;3TWO DOTS BELOW;1LETTER THIN YEH;1BASELINE ROUND DOT",
  "888 1RAISED ROUND DOT;1LETTER NOON WITH INVERTED SMALL V;2HAH WITH INVERTED SMALL V BELOW",
  "88B 2TAH WITH DOT BELOW;4THREE DOTS BELOW;2KEHEH WITH TWO DOTS VERTICALLY BELOW;1VERTICAL TAIL",
  "890 1POUND MARK ABOVE;1PIASTRE MARK ABOVE",
  "898 1SMALL HIGH WORD AL-JUZ;2LOW WORD ISHMAAM;4IMAALA;4TASHEEL;1MADDA WAAJIB",
  "89D 1SUPERSCRIPT ALEF MOKHASSAS;1DOUBLED MADDA;1HALF MADDA OVER MADDA",
  "8A0 1LETTER BEH WITH SMALL V BELOW;4HAMZA ABOVE;2JEEM WITH TWO DOTS ABOVE",
  "8A3 2TAH WITH TWO DOTS ABOVE;2FEH WITH DOT BELOW AND THREE DOTS ABOVE;2QAF WITH DOT BELOW",
  "8A6 2LAM WITH DOUBLE BAR;2MEEM WITH THREE DOTS ABOVE;2YEH WITH TWO DOTS BELOW AND HAMZA ABOVE",
  "8A9 8DOT ABOVE;2REH WITH LOOP;2WAW WITH DOT WITHIN;2ROHINGYA YEH;2LOW ALEF",
  "8AE 2DAL WITH THREE DOTS BELOW;2SAD WITH THREE DOTS BELOW;2GAF WITH INVERTED STROKE",
  "8B1 2STRAIGHT WAW;2ZAIN WITH INVERTED V ABOVE;2AIN WITH THREE DOTS BELOW;2KAF WITH DOT BELOW",
  "8B5 2QAF WITH DOT BELOW AND NO DOTS ABOVE;2BEH WITH SMALL MEEM ABOVE;2PEH WITH SMALL MEEM ABOVE",
  "8B8 2TEH WITH SMALL TEH ABOVE;2REH WITH SMALL NOON ABOVE",
  "8BA 2YEH WITH TWO DOTS BELOW AND SMALL NOON ABOVE;2AFRICAN FEH;3QAF;3NOON;2PEH WITH SMALL V",
  "8BF 2TEH WITH SMALL V;2TTEH WITH SMALL V;2TCHEH WITH SMALL V;2KEHEH WITH SMALL V",
  "8C3 2GHAIN WITH THREE DOTS ABOVE;2AFRICAN QAF WITH THREE DOTS ABOVE;2JEEM WITH THREE DOTS ABOVE",
  "8C6 6BELOW;2LAM WITH SMALL ARABIC LETTER TAH ABOVE;2GRAF;1SMALL FARSI YEH;2HIGH FARSI YEH",
  "8CB 3YEH BARREE WITH TWO DOTS BELOW;3WORD SAH;3ZAH;1LARGE ROUND DOT ABOVE;4BELOW;1SUKUN BELOW",
  "8D1 1LARGE CIRCLE BELOW;2ROUND DOT INSIDE CIRCLE BELOW;1SMALL LOW WAW;2HIGH WORD AR-RUB;3SAD",
  "8D6 3AIN;3QAF;3NOON WITH KASRA;2LOW NOON WITH KASRA;2HIGH WORD ATH-THALATHA;4AS-SAJDA;4AN-NISF",
  "8DD 4SAKTA;4QIF;4WAQFA;3FOOTNOTE MARKER;3SIGN SAFHA;1DISPUTED END OF AYAH;1TURNED DAMMA BELOW",
  "8E4 1CURLY FATHA;2DAMMA;2KASRA;2FATHATAN;2DAMMATAN;2KASRATAN;1TONE ONE DOT ABOVE",
  "8EB 2TWO DOTS ABOVE;2LOOP ABOVE;2ONE DOT BELOW;2TWO DOTS BELOW;2LOOP BELOW;1OPEN FATHATAN",
  "8F1 2DAMMATAN;2KASRATAN;1SMALL HIGH WAW;1FATHA WITH RING;3DOT ABOVE;1KASRA WITH DOT BELOW",
  "8F7 1LEFT ARROWHEAD ABOVE;1RIGHT ARROWHEAD ABOVE;1LEFT ARROWHEAD BELOW;1RIGHT ARROWHEAD BELOW",
  "8FB 1DOUBLE RIGHT ARROWHEAD ABOVE;4ABOVE WITH DOT;1RIGHT ARROWHEAD ABOVE WITH DOT",
  "8FE 1DAMMA WITH DOT;1MARK SIDEWAYS NOON GHUNNA"]

end FormCheck.Text.CharacterName
