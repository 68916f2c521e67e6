/-! # Signs

The names of punctuation, arrows, operators and other signs, in code order.
-/

namespace FormCheck.Text.CharacterName

def sign : List String := [
  "2000 0EN QUAD;0EM QUAD;0EN SPACE;0EM SPACE;0THREE-PER-EM SPACE;0FOUR-PER-EM SPACE",
  "2006 0SIX-PER-EM SPACE;0FIGURE SPACE;0PUNCTUATION SPACE;0THIN SPACE;0HAIR SPACE",
  "200B 0ZERO WIDTH SPACE;2NON-JOINER;2JOINER;0LEFT-TO-RIGHT MARK;0RIGHT-TO-LEFT MARK;0HYPHEN",
  "2011 0NON-BREAKING HYPHEN;0FIGURE DASH;0EN DASH;0EM DASH;0HORIZONTAL BAR;0DOUBLE VERTICAL LINE",
  "2017 1LOW LINE;0LEFT SINGLE QUOTATION MARK;0RIGHT SINGLE QUOTATION MARK",
  "201A 0SINGLE LOW-9 QUOTATION MARK;1HIGH-REVERSED-9 QUOTATION MARK;0LEFT DOUBLE QUOTATION MARK",
  "201D 0RIGHT DOUBLE QUOTATION MARK;0DOUBLE LOW-9 QUOTATION MARK;1HIGH-REVERSED-9 QUOTATION MARK",
  "2020 0DAGGER;0DOUBLE DAGGER;0BULLET;0TRIANGULAR BULLET;0ONE DOT LEADER;0TWO DOT LEADER",
  "2026 0HORIZONTAL ELLIPSIS;0HYPHENATION POINT;0LINE SEPARATOR;0PARAGRAPH SEPARATOR",
  "202A 0LEFT-TO-RIGHT EMBEDDING;0RIGHT-TO-LEFT EMBEDDING;0POP DIRECTIONAL FORMATTING",
  "202D 0LEFT-TO-RIGHT OVERRIDE;0RIGHT-TO-LEFT OVERRIDE;0NARROW NO-BREAK SPACE;0PER MILLE SIGN",
  "2031 1TEN THOUSAND SIGN;0PRIME;0DOUBLE PRIME;0TRIPLE PRIME;0REVERSED PRIME;1DOUBLE PRIME",
  "2037 1TRIPLE PRIME;0CARET;0SINGLE LEFT-POINTING ANGLE QUOTATION MARK",
  "203A 1RIGHT-POINTING ANGLE QUOTATION MARK;0REFERENCE MARK;0DOUBLE EXCLAMATION MARK;0INTERROBANG",
  "203E 0OVERLINE;0UNDERTIE;0CHARACTER TIE;0CARET INSERTION POINT;0ASTERISM;0HYPHEN BULLET",
  "2044 0FRACTION SLASH;0LEFT SQUARE BRACKET WITH QUILL;0RIGHT SQUARE BRACKET WITH QUILL",
  "2047 0DOUBLE QUESTION MARK;0QUESTION EXCLAMATION MARK;0EXCLAMATION QUESTION MARK",
  "204A 0TIRONIAN SIGN ET;0REVERSED PILCROW SIGN;0BLACK LEFTWARDS BULLET;1RIGHTWARDS BULLET",
  "204E 0LOW ASTERISK;0REVERSED SEMICOLON;0CLOSE UP;0TWO ASTERISKS ALIGNED VERTICALLY",
  "2052 0COMMERCIAL MINUS SIGN;0SWUNG DASH;0INVERTED UNDERTIE;0FLOWER PUNCTUATION MARK",
  "2056 0THREE DOT PUNCTUATION;0QUADRUPLE PRIME;0FOUR DOT PUNCTUATION;0FIVE DOT PUNCTUATION",
  "205A 0TWO DOT PUNCTUATION;0FOUR DOT MARK;0DOTTED CROSS;0TRICOLON;0VERTICAL FOUR DOTS",
  "205F 0MEDIUM MATHEMATICAL SPACE;0WORD JOINER;0FUNCTION APPLICATION;0INVISIBLE TIMES;1SEPARATOR",
  "2064 1PLUS",
  "2066 0LEFT-TO-RIGHT ISOLATE;0RIGHT-TO-LEFT ISOLATE;0FIRST STRONG ISOLATE",
  "2069 0POP DIRECTIONAL ISOLATE;0INHIBIT SYMMETRIC SWAPPING;0ACTIVATE SYMMETRIC SWAPPING",
  "206C 0INHIBIT ARABIC FORM SHAPING;0ACTIVATE ARABIC FORM SHAPING;0NATIONAL DIGIT SHAPES",
  "206F 0NOMINAL DIGIT SHAPES;0SUPERSCRIPT ZERO;1LATIN SMALL LETTER I",
  "2074 1FOUR;1FIVE;1SIX;1SEVEN;1EIGHT;1NINE;1PLUS SIGN;1MINUS;1EQUALS SIGN;1LEFT PARENTHESIS",
  "207E 1RIGHT PARENTHESIS;1LATIN SMALL LETTER N;0SUBSCRIPT ZERO;1ONE;1TWO;1THREE;1FOUR;1FIVE;1SIX",
  "2087 1SEVEN;1EIGHT;1NINE;1PLUS SIGN;1MINUS;1EQUALS SIGN;1LEFT PARENTHESIS;1RIGHT PARENTHESIS",
  "2090 0LATIN SUBSCRIPT SMALL LETTER A;4E;4O;4X;4SCHWA;4H;4K;4L;4M;4N;4P;4S;4T",
  "20A0 0EURO-CURRENCY SIGN;0COLON SIGN;0CRUZEIRO SIGN;0FRENCH FRANC SIGN;0LIRA SIGN;0MILL SIGN",
  "20A6 0NAIRA SIGN;0PESETA SIGN;0RUPEE SIGN;0WON SIGN;0NEW SHEQEL SIGN;0DONG SIGN;0EURO SIGN",
  "20AD 0KIP SIGN;0TUGRIK SIGN;0DRACHMA SIGN;0GERMAN PENNY SIGN;0PESO SIGN;0GUARANI SIGN",
  "20B3 0AUSTRAL SIGN;0HRYVNIA SIGN;0CEDI SIGN;0LIVRE TOURNOIS SIGN;0SPESMILO SIGN;0TENGE SIGN",
  "20B9 0INDIAN RUPEE SIGN;0TURKISH LIRA SIGN;0NORDIC MARK SIGN;0MANAT SIGN;0RUBLE SIGN;0LARI SIGN",
  "20BF 0BITCOIN SIGN;0SOM SIGN",
  "20D0 0COMBINING LEFT HARPOON ABOVE;1RIGHT HARPOON ABOVE;1LONG VERTICAL LINE OVERLAY",
  "20D3 1SHORT VERTICAL LINE OVERLAY;1ANTICLOCKWISE ARROW ABOVE;1CLOCKWISE ARROW ABOVE",
  "20D6 1LEFT ARROW ABOVE;1RIGHT ARROW ABOVE;1RING OVERLAY;1CLOCKWISE RING OVERLAY",
  "20DA 1ANTICLOCKWISE RING OVERLAY;1THREE DOTS ABOVE;1FOUR DOTS ABOVE;1ENCLOSING CIRCLE;2SQUARE",
  "20DF 2DIAMOND;2CIRCLE BACKSLASH;1LEFT RIGHT ARROW ABOVE;1ENCLOSING SCREEN;2KEYCAP",
  "20E4 2UPWARD POINTING TRIANGLE;1REVERSE SOLIDUS OVERLAY;1DOUBLE VERTICAL STROKE OVERLAY",
  "20E7 1ANNUITY SYMBOL;1TRIPLE UNDERDOT;1WIDE BRIDGE ABOVE;1LEFTWARDS ARROW OVERLAY",
  "20EB 1LONG DOUBLE SOLIDUS OVERLAY;1RIGHTWARDS HARPOON WITH BARB DOWNWARDS",
  "20ED 1LEFTWARDS HARPOON WITH BARB DOWNWARDS;1LEFT ARROW BELOW;1RIGHT ARROW BELOW",
  "20F0 1ASTERISK ABOVE",
  "2100 0ACCOUNT OF;0ADDRESSED TO THE SUBJECT;0DOUBLE-STRUCK CAPITAL C;0DEGREE CELSIUS",
  "2104 0CENTRE LINE SYMBOL;0CARE OF;0CADA UNA;0EULER CONSTANT;0SCRUPLE;0DEGREE FAHRENHEIT",
  "210A 0SCRIPT SMALL G;1CAPITAL H;0BLACK-LETTER CAPITAL H;0DOUBLE-STRUCK CAPITAL H",
  "210E 0PLANCK CONSTANT;1CONSTANT OVER TWO PI;0SCRIPT CAPITAL I;0BLACK-LETTER CAPITAL I",
  "2112 0SCRIPT CAPITAL L;1SMALL L;0L B BAR SYMBOL;0DOUBLE-STRUCK CAPITAL N;0NUMERO SIGN",
  "2117 0SOUND RECORDING COPYRIGHT;0SCRIPT CAPITAL P;0DOUBLE-STRUCK CAPITAL P;3Q;0SCRIPT CAPITAL R",
  "211C 0BLACK-LETTER CAPITAL R;0DOUBLE-STRUCK CAPITAL R;0PRESCRIPTION TAKE;0RESPONSE",
  "2120 0SERVICE MARK;0TELEPHONE SIGN;0TRADE MARK SIGN;0VERSICLE;0DOUBLE-STRUCK CAPITAL Z",
  "2125 0OUNCE SIGN;0OHM SIGN;0INVERTED OHM SIGN;0BLACK-LETTER CAPITAL Z",
  "2129 0TURNED GREEK SMALL LETTER IOTA;0KELVIN SIGN;0ANGSTROM SIGN;0SCRIPT CAPITAL B",
  "212D 0BLACK-LETTER CAPITAL C;0ESTIMATED SYMBOL;0SCRIPT SMALL E;1CAPITAL E;2F;0TURNED CAPITAL F",
  "2133 0SCRIPT CAPITAL M;1SMALL O;0ALEF SYMBOL;0BET SYMBOL;0GIMEL SYMBOL;0DALET SYMBOL",
  "2139 0INFORMATION SOURCE;0ROTATED CAPITAL Q;0FACSIMILE SIGN;0DOUBLE-STRUCK SMALL PI;3GAMMA",
  "213E 2CAPITAL GAMMA;3PI;2N-ARY SUMMATION;0TURNED SANS-SERIF CAPITAL G;4L",
  "2143 0REVERSED SANS-SERIF CAPITAL L;0TURNED SANS-SERIF CAPITAL Y",
  "2145 0DOUBLE-STRUCK ITALIC CAPITAL D;3SMALL D;4E;4I;4J;0PROPERTY LINE;0TURNED AMPERSAND",
  "214C 0PER SIGN;0AKTIESELSKAB;0TURNED SMALL F;0SYMBOL FOR SAMARITAN SOURCE",
  "2150 0VULGAR FRACTION ONE SEVENTH;3NINTH;3TENTH;3THIRD;2TWO THIRDS;2ONE FIFTH;2TWO FIFTHS",
  "2157 2THREE FIFTHS;2FOUR FIFTHS;2ONE SIXTH;2FIVE SIXTHS;2ONE EIGHTH;2THREE EIGHTHS",
  "215D 2FIVE EIGHTHS;2SEVEN EIGHTHS;0FRACTION NUMERATOR ONE;0ROMAN NUMERAL ONE;2TWO;2THREE;2FOUR",
  "2164 2FIVE;2SIX;2SEVEN;2EIGHT;2NINE;2TEN;2ELEVEN;2TWELVE;2FIFTY;2ONE HUNDRED;2FIVE HUNDRED",
  "216F 2ONE THOUSAND;0SMALL ROMAN NUMERAL ONE;3TWO;3THREE;3FOUR;3FIVE;3SIX;3SEVEN;3EIGHT;3NINE",
  "2179 3TEN;3ELEVEN;3TWELVE;3FIFTY;3ONE HUNDRED;3FIVE HUNDRED;3ONE THOUSAND",
  "2180 0ROMAN NUMERAL ONE THOUSAND C D;2FIVE THOUSAND;2TEN THOUSAND;2REVERSED ONE HUNDRED",
  "2184 0LATIN SMALL LETTER REVERSED C;0ROMAN NUMERAL SIX LATE FORM;2FIFTY EARLY FORM;3THOUSAND",
  "2188 2ONE HUNDRED THOUSAND;0VULGAR FRACTION ZERO THIRDS;0TURNED DIGIT TWO;2THREE",
  "2190 0LEFTWARDS ARROW;0UPWARDS ARROW;0RIGHTWARDS ARROW;0DOWNWARDS ARROW;0LEFT RIGHT ARROW",
  "2195 0UP DOWN ARROW;0NORTH WEST ARROW;1EAST ARROW;0SOUTH EAST ARROW;1WEST ARROW",
  "219A 0LEFTWARDS ARROW WITH STROKE;0RIGHTWARDS ARROW WITH STROKE;0LEFTWARDS WAVE ARROW",
  "219D 0RIGHTWARDS WAVE ARROW;0LEFTWARDS TWO HEADED ARROW;0UPWARDS TWO HEADED ARROW",
  "21A0 0RIGHTWARDS TWO HEADED ARROW;0DOWNWARDS TWO HEADED ARROW;0LEFTWARDS ARROW WITH TAIL",
  "21A3 0RIGHTWARDS ARROW WITH TAIL;0LEFTWARDS ARROW FROM BAR;0UPWARDS ARROW FROM BAR",
  "21A6 0RIGHTWARDS ARROW FROM BAR;0DOWNWARDS ARROW FROM BAR;0UP DOWN ARROW WITH BASE",
  "21A9 0LEFTWARDS ARROW WITH HOOK;0RIGHTWARDS ARROW WITH HOOK;0LEFTWARDS ARROW WITH LOOP",
  "21AC 0RIGHTWARDS ARROW WITH LOOP;0LEFT RIGHT WAVE ARROW;2ARROW WITH STROKE",
  "21AF 0DOWNWARDS ZIGZAG ARROW;0UPWARDS ARROW WITH TIP LEFTWARDS;4RIGHTWARDS",
  "21B2 0DOWNWARDS ARROW WITH TIP LEFTWARDS;4RIGHTWARDS;0RIGHTWARDS ARROW WITH CORNER DOWNWARDS",
  "21B5 0DOWNWARDS ARROW WITH CORNER LEFTWARDS;0ANTICLOCKWISE TOP SEMICIRCLE ARROW",
  "21B7 0CLOCKWISE TOP SEMICIRCLE ARROW;0NORTH WEST ARROW TO LONG BAR",
  "21B9 0LEFTWARDS ARROW TO BAR OVER RIGHTWARDS ARROW TO BAR;0ANTICLOCKWISE OPEN CIRCLE ARROW",
  "21BB 0CLOCKWISE OPEN CIRCLE ARROW;0LEFTWARDS HARPOON WITH BARB UPWARDS;4DOWNWARDS",
  "21BE 0UPWARDS HARPOON WITH BARB RIGHTWARDS;4LEFTWARDS;0RIGHTWARDS HARPOON WITH BARB UPWARDS",
  "21C1 4DOWNWARDS;0DOWNWARDS HARPOON WITH BARB RIGHTWARDS;4LEFTWARDS",
  "21C4 0RIGHTWARDS ARROW OVER LEFTWARDS ARROW;0UPWARDS ARROW LEFTWARDS OF DOWNWARDS ARROW",
  "21C6 0LEFTWARDS ARROW OVER RIGHTWARDS ARROW;1PAIRED ARROWS;0UPWARDS PAIRED ARROWS",
  "21C9 0RIGHTWARDS PAIRED ARROWS;0DOWNWARDS PAIRED ARROWS",
  "21CB 0LEFTWARDS HARPOON OVER RIGHTWARDS HARPOON;0RIGHTWARDS HARPOON OVER LEFTWARDS HARPOON",
  "21CD 0LEFTWARDS DOUBLE ARROW WITH STROKE;0LEFT RIGHT DOUBLE ARROW WITH STROKE",
  "21CF 0RIGHTWARDS DOUBLE ARROW WITH STROKE;0LEFTWARDS DOUBLE ARROW;0UPWARDS DOUBLE ARROW",
  "21D2 0RIGHTWARDS DOUBLE ARROW;0DOWNWARDS DOUBLE ARROW;0LEFT RIGHT DOUBLE ARROW",
  "21D5 0UP DOWN DOUBLE ARROW;0NORTH WEST DOUBLE ARROW;1EAST DOUBLE ARROW;0SOUTH EAST DOUBLE ARROW",
  "21D9 1WEST DOUBLE ARROW;0LEFTWARDS TRIPLE ARROW;0RIGHTWARDS TRIPLE ARROW",
  "21DC 0LEFTWARDS SQUIGGLE ARROW;0RIGHTWARDS SQUIGGLE ARROW;0UPWARDS ARROW WITH DOUBLE STROKE",
  "21DF 0DOWNWARDS ARROW WITH DOUBLE STROKE;0LEFTWARDS DASHED ARROW;0UPWARDS DASHED ARROW",
  "21E2 0RIGHTWARDS DASHED ARROW;0DOWNWARDS DASHED ARROW;0LEFTWARDS ARROW TO BAR",
  "21E5 0RIGHTWARDS ARROW TO BAR;0LEFTWARDS WHITE ARROW;0UPWARDS WHITE ARROW",
  "21E8 0RIGHTWARDS WHITE ARROW;0DOWNWARDS WHITE ARROW;0UPWARDS WHITE ARROW FROM BAR;3ON PEDESTAL",
  "21EC 4PEDESTAL WITH HORIZONTAL BAR;6VERTICAL BAR;2DOUBLE ARROW;3ARROW ON PEDESTAL",
  "21F0 0RIGHTWARDS WHITE ARROW FROM WALL;0NORTH WEST ARROW TO CORNER;0SOUTH EAST ARROW TO CORNER",
  "21F3 0UP DOWN WHITE ARROW;0RIGHT ARROW WITH SMALL CIRCLE",
  "21F5 0DOWNWARDS ARROW LEFTWARDS OF UPWARDS ARROW;0THREE RIGHTWARDS ARROWS",
  "21F7 0LEFTWARDS ARROW WITH VERTICAL STROKE;0RIGHTWARDS ARROW WITH VERTICAL STROKE",
  "21F9 0LEFT RIGHT ARROW WITH VERTICAL STROKE;0LEFTWARDS ARROW WITH DOUBLE VERTICAL STROKE",
  "21FB 0RIGHTWARDS ARROW WITH DOUBLE VERTICAL STROKE",
  "21FC 0LEFT RIGHT ARROW WITH DOUBLE VERTICAL STROKE;0LEFTWARDS OPEN-HEADED ARROW",
  "21FE 0RIGHTWARDS OPEN-HEADED ARROW;0LEFT RIGHT OPEN-HEADED ARROW;0FOR ALL;0COMPLEMENT",
  "2202 0PARTIAL DIFFERENTIAL;0THERE EXISTS;1DOES NOT EXIST;0EMPTY SET;0INCREMENT;0NABLA",
  "2208 0ELEMENT OF;0NOT AN ELEMENT OF;0SMALL ELEMENT OF;0CONTAINS AS MEMBER",
  "220C 0DOES NOT CONTAIN AS MEMBER;0SMALL CONTAINS AS MEMBER;0END OF PROOF;0N-ARY PRODUCT",
  "2210 2COPRODUCT;2SUMMATION;0MINUS SIGN;0MINUS-OR-PLUS SIGN;0DOT PLUS;0DIVISION SLASH;0SET MINUS",
  "2217 0ASTERISK OPERATOR;0RING OPERATOR;0BULLET OPERATOR;0SQUARE ROOT;0CUBE ROOT;0FOURTH ROOT",
  "221D 0PROPORTIONAL TO;0INFINITY;0RIGHT ANGLE;0ANGLE;0MEASURED ANGLE;0SPHERICAL ANGLE;0DIVIDES",
  "2224 0DOES NOT DIVIDE;0PARALLEL TO;0NOT PARALLEL TO;0LOGICAL AND;1OR;0INTERSECTION;0UNION",
  "222B 0INTEGRAL;0DOUBLE INTEGRAL;0TRIPLE INTEGRAL;0CONTOUR INTEGRAL;0SURFACE INTEGRAL",
  "2230 0VOLUME INTEGRAL;0CLOCKWISE INTEGRAL;1CONTOUR INTEGRAL;0ANTICLOCKWISE CONTOUR INTEGRAL",
  "2234 0THEREFORE;0BECAUSE;0RATIO;0PROPORTION;0DOT MINUS;0EXCESS;0GEOMETRIC PROPORTION",
  "223B 0HOMOTHETIC;0TILDE OPERATOR;0REVERSED TILDE;0INVERTED LAZY S;0SINE WAVE;0WREATH PRODUCT",
  "2241 0NOT TILDE;0MINUS TILDE;0ASYMPTOTICALLY EQUAL TO;0NOT ASYMPTOTICALLY EQUAL TO",
  "2245 0APPROXIMATELY EQUAL TO;1BUT NOT ACTUALLY EQUAL TO",
  "2247 0NEITHER APPROXIMATELY NOR ACTUALLY EQUAL TO;0ALMOST EQUAL TO;0NOT ALMOST EQUAL TO",
  "224A 0ALMOST EQUAL OR EQUAL TO;0TRIPLE TILDE;0ALL EQUAL TO;0EQUIVALENT TO",
  "224E 0GEOMETRICALLY EQUIVALENT TO;0DIFFERENCE BETWEEN;0APPROACHES THE LIMIT",
  "2251 0GEOMETRICALLY EQUAL TO;0APPROXIMATELY EQUAL TO OR THE IMAGE OF",
  "2253 0IMAGE OF OR APPROXIMATELY EQUAL TO;0COLON EQUALS;0EQUALS COLON;0RING IN EQUAL TO",
  "2257 1EQUAL TO;0CORRESPONDS TO;0ESTIMATES;0EQUIANGULAR TO;0STAR EQUALS;0DELTA EQUAL TO",
  "225D 0EQUAL TO BY DEFINITION;0MEASURED BY;0QUESTIONED EQUAL TO;0NOT EQUAL TO;0IDENTICAL TO",
  "2262 0NOT IDENTICAL TO;0STRICTLY EQUIVALENT TO;0LESS-THAN OR EQUAL TO;0GREATER-THAN OR EQUAL TO",
  "2266 0LESS-THAN OVER EQUAL TO;0GREATER-THAN OVER EQUAL TO;0LESS-THAN BUT NOT EQUAL TO",
  "2269 0GREATER-THAN BUT NOT EQUAL TO;0MUCH LESS-THAN;1GREATER-THAN;0BETWEEN;0NOT EQUIVALENT TO",
  "226E 1LESS-THAN;1GREATER-THAN;0NEITHER LESS-THAN NOR EQUAL TO;1GREATER-THAN NOR EQUAL TO",
  "2272 0LESS-THAN OR EQUIVALENT TO;0GREATER-THAN OR EQUIVALENT TO",
  "2274 0NEITHER LESS-THAN NOR EQUIVALENT TO;1GREATER-THAN NOR EQUIVALENT TO",
  "2276 0LESS-THAN OR GREATER-THAN;0GREATER-THAN OR LESS-THAN;0NEITHER LESS-THAN NOR GREATER-THAN",
  "2279 1GREATER-THAN NOR LESS-THAN;0PRECEDES;0SUCCEEDS;0PRECEDES OR EQUAL TO",
  "227D 0SUCCEEDS OR EQUAL TO;0PRECEDES OR EQUIVALENT TO;0SUCCEEDS OR EQUIVALENT TO",
  "2280 0DOES NOT PRECEDE;2SUCCEED;0SUBSET OF;0SUPERSET OF;0NOT A SUBSET OF;2SUPERSET OF",
  "2286 0SUBSET OF OR EQUAL TO;0SUPERSET OF OR EQUAL TO;0NEITHER A SUBSET OF NOR EQUAL TO",
  "2289 2SUPERSET OF NOR EQUAL TO;0SUBSET OF WITH NOT EQUAL TO;0SUPERSET OF WITH NOT EQUAL TO",
  "228C 0MULTISET;0MULTISET MULTIPLICATION;1UNION;0SQUARE IMAGE OF;1ORIGINAL OF",
  "2291 1IMAGE OF OR EQUAL TO;1ORIGINAL OF OR EQUAL TO;1CAP;1CUP;0CIRCLED PLUS;1MINUS;1TIMES",
  "2298 1DIVISION SLASH;1DOT OPERATOR;1RING OPERATOR;1ASTERISK OPERATOR;1EQUALS;1DASH",
  "229E 0SQUARED PLUS;1MINUS;1TIMES;1DOT OPERATOR;0RIGHT TACK;0LEFT TACK;0DOWN TACK;0UP TACK",
  "22A6 0ASSERTION;0MODELS;0TRUE;0FORCES;0TRIPLE VERTICAL BAR RIGHT TURNSTILE",
  "22AB 0DOUBLE VERTICAL BAR DOUBLE RIGHT TURNSTILE;0DOES NOT PROVE;0NOT TRUE;0DOES NOT FORCE",
  "22AF 0NEGATED DOUBLE VERTICAL BAR DOUBLE RIGHT TURNSTILE;0PRECEDES UNDER RELATION",
  "22B1 0SUCCEEDS UNDER RELATION;0NORMAL SUBGROUP OF;0CONTAINS AS NORMAL SUBGROUP",
  "22B4 0NORMAL SUBGROUP OF OR EQUAL TO;0CONTAINS AS NORMAL SUBGROUP OR EQUAL TO;0ORIGINAL OF",
  "22B7 0IMAGE OF;0MULTIMAP;0HERMITIAN CONJUGATE MATRIX;0INTERCALATE;0XOR;0NAND;0NOR",
  "22BE 0RIGHT ANGLE WITH ARC;1TRIANGLE;0N-ARY LOGICAL AND;3OR;2INTERSECTION;2UNION",
  "22C4 0DIAMOND OPERATOR;0DOT OPERATOR;0STAR OPERATOR;0DIVISION TIMES;0BOWTIE",
  "22C9 0LEFT NORMAL FACTOR SEMIDIRECT PRODUCT;0RIGHT NORMAL FACTOR SEMIDIRECT PRODUCT",
  "22CB 0LEFT SEMIDIRECT PRODUCT;0RIGHT SEMIDIRECT PRODUCT;0REVERSED TILDE EQUALS",
  "22CE 0CURLY LOGICAL OR;2AND;0DOUBLE SUBSET;1SUPERSET;1INTERSECTION;1UNION;0PITCHFORK",
  "22D5 0EQUAL AND PARALLEL TO;0LESS-THAN WITH DOT;0GREATER-THAN WITH DOT;0VERY MUCH LESS-THAN",
  "22D9 2GREATER-THAN;0LESS-THAN EQUAL TO OR GREATER-THAN;0GREATER-THAN EQUAL TO OR LESS-THAN",
  "22DC 0EQUAL TO OR LESS-THAN;3GREATER-THAN;3PRECEDES;3SUCCEEDS;0DOES NOT PRECEDE OR EQUAL",
  "22E1 2SUCCEED OR EQUAL;0NOT SQUARE IMAGE OF OR EQUAL TO;2ORIGINAL OF OR EQUAL TO",
  "22E4 0SQUARE IMAGE OF OR NOT EQUAL TO;1ORIGINAL OF OR NOT EQUAL TO",
  "22E6 0LESS-THAN BUT NOT EQUIVALENT TO;0GREATER-THAN BUT NOT EQUIVALENT TO",
  "22E8 0PRECEDES BUT NOT EQUIVALENT TO;0SUCCEEDS BUT NOT EQUIVALENT TO;0NOT NORMAL SUBGROUP OF",
  "22EB 0DOES NOT CONTAIN AS NORMAL SUBGROUP;0NOT NORMAL SUBGROUP OF OR EQUAL TO",
  "22ED 0DOES NOT CONTAIN AS NORMAL SUBGROUP OR EQUAL;0VERTICAL ELLIPSIS",
  "22EF 0MIDLINE HORIZONTAL ELLIPSIS;0UP RIGHT DIAGONAL ELLIPSIS;0DOWN RIGHT DIAGONAL ELLIPSIS",
  "22F2 0ELEMENT OF WITH LONG HORIZONTAL STROKE;3VERTICAL BAR AT END OF HORIZONTAL STROKE",
  "22F4 0SMALL ELEMENT OF WITH VERTICAL BAR AT END OF HORIZONTAL STROKE;0ELEMENT OF WITH DOT ABOVE",
  "22F6 3OVERBAR;0SMALL ELEMENT OF WITH OVERBAR;0ELEMENT OF WITH UNDERBAR;3TWO HORIZONTAL STROKES",
  "22FA 0CONTAINS WITH LONG HORIZONTAL STROKE;2VERTICAL BAR AT END OF HORIZONTAL STROKE",
  "22FC 0SMALL CONTAINS WITH VERTICAL BAR AT END OF HORIZONTAL STROKE;0CONTAINS WITH OVERBAR",
  "22FE 0SMALL CONTAINS WITH OVERBAR;0Z NOTATION BAG MEMBERSHIP;0DIAMETER SIGN;0ELECTRIC ARROW",
  "2302 0HOUSE;0UP ARROWHEAD;0DOWN ARROWHEAD;0PROJECTIVE;0PERSPECTIVE;0WAVY LINE;0LEFT CEILING",
  "2309 0RIGHT CEILING;0LEFT FLOOR;0RIGHT FLOOR;0BOTTOM RIGHT CROP;1LEFT CROP;0TOP RIGHT CROP",
  "230F 1LEFT CROP;0REVERSED NOT SIGN;0SQUARE LOZENGE;0ARC;0SEGMENT;0SECTOR;0TELEPHONE RECORDER",
  "2316 0POSITION INDICATOR;0VIEWDATA SQUARE;0PLACE OF INTEREST SIGN;0TURNED NOT SIGN;0WATCH",
  "231B 0HOURGLASS;0TOP LEFT CORNER;1RIGHT CORNER;0BOTTOM LEFT CORNER;1RIGHT CORNER",
  "2320 0TOP HALF INTEGRAL;0BOTTOM HALF INTEGRAL;0FROWN;0SMILE",
  "2324 0UP ARROWHEAD BETWEEN TWO HORIZONTAL BARS;0OPTION KEY;0ERASE TO THE RIGHT",
  "2327 0X IN A RECTANGLE BOX;0KEYBOARD;0LEFT-POINTING ANGLE BRACKET;0RIGHT-POINTING ANGLE BRACKET",
  "232B 0ERASE TO THE LEFT;0BENZENE RING;0CYLINDRICITY;0ALL AROUND-PROFILE;0SYMMETRY;0TOTAL RUNOUT",
  "2331 0DIMENSION ORIGIN;0CONICAL TAPER;0SLOPE;0COUNTERBORE;0COUNTERSINK",
  "2336 0APL FUNCTIONAL SYMBOL I-BEAM;3SQUISH QUAD;3QUAD EQUAL;4DIVIDE;4DIAMOND;4JOT;4CIRCLE",
  "233D 3CIRCLE STILE;4JOT;3SLASH BAR;3BACKSLASH BAR;3QUAD SLASH;4BACKSLASH;4LESS-THAN",
  "2344 4GREATER-THAN;3LEFTWARDS VANE;3RIGHTWARDS VANE;3QUAD LEFTWARDS ARROW;4RIGHTWARDS ARROW",
  "2349 3CIRCLE BACKSLASH;3DOWN TACK UNDERBAR;3DELTA STILE;3QUAD DOWN CARET;4DELTA;3DOWN TACK JOT",
  "234F 3UPWARDS VANE;3QUAD UPWARDS ARROW;3UP TACK OVERBAR;3DEL STILE;3QUAD UP CARET;4DEL",
  "2355 3UP TACK JOT;3DOWNWARDS VANE;3QUAD DOWNWARDS ARROW;3QUOTE UNDERBAR;3DELTA UNDERBAR",
  "235A 3DIAMOND UNDERBAR;3JOT UNDERBAR;3CIRCLE UNDERBAR;3UP SHOE JOT;3QUOTE QUAD;3CIRCLE STAR",
  "2360 3QUAD COLON;3UP TACK DIAERESIS;3DEL DIAERESIS;3STAR DIAERESIS;3JOT DIAERESIS",
  "2365 3CIRCLE DIAERESIS;3DOWN SHOE STILE;3LEFT SHOE STILE;3TILDE DIAERESIS",
  "2369 3GREATER-THAN DIAERESIS;3COMMA BAR;3DEL TILDE;3ZILDE;3STILE TILDE;3SEMICOLON UNDERBAR",
  "236F 3QUAD NOT EQUAL;4QUESTION;3DOWN CARET TILDE;3UP CARET TILDE;3IOTA;3RHO;3OMEGA",
  "2376 3ALPHA UNDERBAR;3EPSILON UNDERBAR;3IOTA UNDERBAR;3OMEGA UNDERBAR;3ALPHA;0NOT CHECK MARK",
  "237C 0RIGHT ANGLE WITH DOWNWARDS ZIGZAG ARROW;0SHOULDERED OPEN BOX;0BELL SYMBOL",
  "237F 0VERTICAL LINE WITH MIDDLE DOT;0INSERTION SYMBOL;0CONTINUOUS UNDERLINE SYMBOL",
  "2382 0DISCONTINUOUS UNDERLINE SYMBOL;0EMPHASIS SYMBOL;0COMPOSITION SYMBOL",
  "2385 0WHITE SQUARE WITH CENTRE VERTICAL LINE;0ENTER SYMBOL;0ALTERNATIVE KEY SYMBOL;0HELM SYMBOL",
  "2389 0CIRCLED HORIZONTAL BAR WITH NOTCH;1TRIANGLE DOWN;0BROKEN CIRCLE WITH NORTHWEST ARROW",
  "238C 0UNDO SYMBOL;0MONOSTABLE SYMBOL;0HYSTERESIS SYMBOL;0OPEN-CIRCUIT-OUTPUT H-TYPE SYMBOL",
  "2390 3L-TYPE SYMBOL;0PASSIVE-PULL-DOWN-OUTPUT SYMBOL;2UP-OUTPUT SYMBOL",
  "2393 0DIRECT CURRENT SYMBOL FORM TWO;0SOFTWARE-FUNCTION SYMBOL;0APL FUNCTIONAL SYMBOL QUAD",
  "2396 0DECIMAL SEPARATOR KEY SYMBOL;0PREVIOUS PAGE;0NEXT PAGE;0PRINT SCREEN SYMBOL",
  "239A 0CLEAR SCREEN SYMBOL;0LEFT PARENTHESIS UPPER HOOK;2EXTENSION;2LOWER HOOK",
  "239E 0RIGHT PARENTHESIS UPPER HOOK;2EXTENSION;2LOWER HOOK;0LEFT SQUARE BRACKET UPPER CORNER",
  "23A2 3EXTENSION;3LOWER CORNER;0RIGHT SQUARE BRACKET UPPER CORNER;3EXTENSION;3LOWER CORNER",
  "23A7 0LEFT CURLY BRACKET UPPER HOOK;3MIDDLE PIECE;3LOWER HOOK;0CURLY BRACKET EXTENSION",
  "23AB 0RIGHT CURLY BRACKET UPPER HOOK;3MIDDLE PIECE;3LOWER HOOK;0INTEGRAL EXTENSION",
  "23AF 0HORIZONTAL LINE EXTENSION;0UPPER LEFT OR LOWER RIGHT CURLY BRACKET SECTION",
  "23B1 1RIGHT OR LOWER LEFT CURLY BRACKET SECTION;0SUMMATION TOP;1BOTTOM;0TOP SQUARE BRACKET",
  "23B5 0BOTTOM SQUARE BRACKET;2BRACKET OVER TOP SQUARE BRACKET;0RADICAL SYMBOL BOTTOM",
  "23B8 0LEFT VERTICAL BOX LINE;0RIGHT VERTICAL BOX LINE;0HORIZONTAL SCAN LINE-1;33;37;39",
  "23BE 0DENTISTRY SYMBOL LIGHT VERTICAL AND TOP RIGHT;5BOTTOM RIGHT;4WITH CIRCLE",
  "23C1 3DOWN AND HORIZONTAL WITH CIRCLE;3UP AND HORIZONTAL WITH CIRCLE;3VERTICAL WITH TRIANGLE",
  "23C4 3DOWN AND HORIZONTAL WITH TRIANGLE;3UP AND HORIZONTAL WITH TRIANGLE;3VERTICAL AND WAVE",
  "23C7 3DOWN AND HORIZONTAL WITH WAVE;3UP AND HORIZONTAL WITH WAVE;3DOWN AND HORIZONTAL",
  "23CA 3UP AND HORIZONTAL;3VERTICAL AND TOP LEFT;5BOTTOM LEFT;0SQUARE FOOT;0RETURN SYMBOL",
  "23CF 0EJECT SYMBOL;0VERTICAL LINE EXTENSION;0METRICAL BREVE;1LONG OVER SHORT;1SHORT OVER LONG",
  "23D4 1LONG OVER TWO SHORTS;1TWO SHORTS OVER LONG;3JOINED;1TRISEME;1TETRASEME;1PENTASEME",
  "23DA 0EARTH GROUND;0FUSE;0TOP PARENTHESIS;0BOTTOM PARENTHESIS;0TOP CURLY BRACKET",
  "23DF 0BOTTOM CURLY BRACKET;0TOP TORTOISE SHELL BRACKET;0BOTTOM TORTOISE SHELL BRACKET",
  "23E2 0WHITE TRAPEZIUM;0BENZENE RING WITH CIRCLE;0STRAIGHTNESS;0FLATNESS;0AC CURRENT",
  "23E7 0ELECTRICAL INTERSECTION;0DECIMAL EXPONENT SYMBOL;0BLACK RIGHT-POINTING DOUBLE TRIANGLE",
  "23EA 1LEFT-POINTING DOUBLE TRIANGLE;1UP-POINTING DOUBLE TRIANGLE;1DOWN-POINTING DOUBLE TRIANGLE",
  "23ED 1RIGHT-POINTING DOUBLE TRIANGLE WITH VERTICAL BAR",
  "23EE 1LEFT-POINTING DOUBLE TRIANGLE WITH VERTICAL BAR",
  "23EF 1RIGHT-POINTING TRIANGLE WITH DOUBLE VERTICAL BAR;0ALARM CLOCK;0STOPWATCH;0TIMER CLOCK",
  "23F3 0HOURGLASS WITH FLOWING SAND;0BLACK MEDIUM LEFT-POINTING TRIANGLE;2RIGHT-POINTING TRIANGLE",
  "23F6 2UP-POINTING TRIANGLE;2DOWN-POINTING TRIANGLE;0DOUBLE VERTICAL BAR;0BLACK SQUARE FOR STOP",
  "23FA 1CIRCLE FOR RECORD;0POWER SYMBOL;1ON-OFF SYMBOL;1ON SYMBOL;1SLEEP SYMBOL",
  "23FF 0OBSERVER EYE SYMBOL;0SYMBOL FOR NULL;2START OF HEADING;4TEXT;2END OF TEXT;4TRANSMISSION",
  "2405 2ENQUIRY;2ACKNOWLEDGE;2BELL;2BACKSPACE;2HORIZONTAL TABULATION;2LINE FEED",
  "240B 2VERTICAL TABULATION;2FORM FEED;2CARRIAGE RETURN;2SHIFT OUT;3IN;2DATA LINK ESCAPE",
  "2411 2DEVICE CONTROL ONE;4TWO;4THREE;4FOUR;2NEGATIVE ACKNOWLEDGE;2SYNCHRONOUS IDLE",
  "2417 2END OF TRANSMISSION BLOCK;2CANCEL;2END OF MEDIUM;2SUBSTITUTE;2ESCAPE;2FILE SEPARATOR",
  "241D 2GROUP SEPARATOR;2RECORD SEPARATOR;2UNIT SEPARATOR;2SPACE;2DELETE;0BLANK SYMBOL;0OPEN BOX",
  "2424 0SYMBOL FOR NEWLINE;2DELETE FORM TWO;2SUBSTITUTE FORM TWO",
  "2440 0OCR HOOK;1CHAIR;1FORK;1INVERTED FORK;1BELT BUCKLE;1BOW TIE;1BRANCH BANK IDENTIFICATION",
  "2447 1AMOUNT OF CHECK;1DASH;1CUSTOMER ACCOUNT NUMBER;1DOUBLE BACKSLASH",
  "2460 0CIRCLED DIGIT ONE;2TWO;2THREE;2FOUR;2FIVE;2SIX;2SEVEN;2EIGHT;2NINE;1NUMBER TEN;2ELEVEN",
  "246B 2TWELVE;2THIRTEEN;2FOURTEEN;2FIFTEEN;2SIXTEEN;2SEVENTEEN;2EIGHTEEN;2NINETEEN;2TWENTY",
  "2474 0PARENTHESIZED DIGIT ONE;2TWO;2THREE;2FOUR;2FIVE;2SIX;2SEVEN;2EIGHT;2NINE;1NUMBER TEN",
  "247E 2ELEVEN;2TWELVE;2THIRTEEN;2FOURTEEN;2FIFTEEN;2SIXTEEN;2SEVENTEEN;2EIGHTEEN;2NINETEEN",
  "2487 2TWENTY;0DIGIT ONE FULL STOP;1TWO FULL STOP;1THREE FULL STOP;1FOUR FULL STOP",
  "248C 1FIVE FULL STOP;1SIX FULL STOP;1SEVEN FULL STOP;1EIGHT FULL STOP;1NINE FULL STOP",
  "2491 0NUMBER TEN FULL STOP;1ELEVEN FULL STOP;1TWELVE FULL STOP;1THIRTEEN FULL STOP",
  "2495 1FOURTEEN FULL STOP;1FIFTEEN FULL STOP;1SIXTEEN FULL STOP;1SEVENTEEN FULL STOP",
  "2499 1EIGHTEEN FULL STOP;1NINETEEN FULL STOP;1TWENTY FULL STOP",
  "249C 0PARENTHESIZED LATIN SMALL LETTER A;4B;4C;4D;4E;4F;4G;4H;4I;4J;4K;4L;4M;4N;4O;4P;4Q;4R;4S",
  "24AF 4T;4U;4V;4W;4X;4Y;4Z;0CIRCLED LATIN CAPITAL LETTER A;4B;4C;4D;4E;4F;4G;4H;4I;4J;4K;4L;4M",
  "24C3 4N;4O;4P;4Q;4R;4S;4T;4U;4V;4W;4X;4Y;4Z;2SMALL LETTER A;4B;4C;4D;4E;4F;4G;4H;4I;4J;4K;4L;4M",
  "24DD 4N;4O;4P;4Q;4R;4S;4T;4U;4V;4W;4X;4Y;4Z;1DIGIT ZERO;0NEGATIVE CIRCLED NUMBER ELEVEN;3TWELVE",
  "24ED 3THIRTEEN;3FOURTEEN;3FIFTEEN;3SIXTEEN;3SEVENTEEN;3EIGHTEEN;3NINETEEN;3TWENTY",
  "24F5 0DOUBLE CIRCLED DIGIT ONE;3TWO;3THREE;3FOUR;3FIVE;3SIX;3SEVEN;3EIGHT;3NINE;2NUMBER TEN",
  "24FF 0NEGATIVE CIRCLED DIGIT ZERO;0BOX DRAWINGS LIGHT HORIZONTAL;2HEAVY HORIZONTAL",
  "2502 2LIGHT VERTICAL;2HEAVY VERTICAL;2LIGHT TRIPLE DASH HORIZONTAL",
  "2505 2HEAVY TRIPLE DASH HORIZONTAL;2LIGHT TRIPLE DASH VERTICAL;2HEAVY TRIPLE DASH VERTICAL",
  "2508 2LIGHT QUADRUPLE DASH HORIZONTAL;2HEAVY QUADRUPLE DASH HORIZONTAL",
  "250A 2LIGHT QUADRUPLE DASH VERTICAL;2HEAVY QUADRUPLE DASH VERTICAL;2LIGHT DOWN AND RIGHT",
  "250D 2DOWN LIGHT AND RIGHT HEAVY;3HEAVY AND RIGHT LIGHT;2HEAVY DOWN AND RIGHT",
  "2510 2LIGHT DOWN AND LEFT;2DOWN LIGHT AND LEFT HEAVY;3HEAVY AND LEFT LIGHT;2HEAVY DOWN AND LEFT",
  "2514 2LIGHT UP AND RIGHT;2UP LIGHT AND RIGHT HEAVY;3HEAVY AND RIGHT LIGHT;2HEAVY UP AND RIGHT",
  "2518 2LIGHT UP AND LEFT;2UP LIGHT AND LEFT HEAVY;3HEAVY AND LEFT LIGHT;2HEAVY UP AND LEFT",
  "251C 2LIGHT VERTICAL AND RIGHT;2VERTICAL LIGHT AND RIGHT HEAVY;2UP HEAVY AND RIGHT DOWN LIGHT",
  "251F 2DOWN HEAVY AND RIGHT UP LIGHT;2VERTICAL HEAVY AND RIGHT LIGHT",
  "2521 2DOWN LIGHT AND RIGHT UP HEAVY;2UP LIGHT AND RIGHT DOWN HEAVY;2HEAVY VERTICAL AND RIGHT",
  "2524 2LIGHT VERTICAL AND LEFT;2VERTICAL LIGHT AND LEFT HEAVY;2UP HEAVY AND LEFT DOWN LIGHT",
  "2527 2DOWN HEAVY AND LEFT UP LIGHT;2VERTICAL HEAVY AND LEFT LIGHT;2DOWN LIGHT AND LEFT UP HEAVY",
  "252A 2UP LIGHT AND LEFT DOWN HEAVY;2HEAVY VERTICAL AND LEFT;2LIGHT DOWN AND HORIZONTAL",
  "252D 2LEFT HEAVY AND RIGHT DOWN LIGHT;2RIGHT HEAVY AND LEFT DOWN LIGHT",
  "252F 2DOWN LIGHT AND HORIZONTAL HEAVY;3HEAVY AND HORIZONTAL LIGHT",
  "2531 2RIGHT LIGHT AND LEFT DOWN HEAVY;2LEFT LIGHT AND RIGHT DOWN HEAVY",
  "2533 2HEAVY DOWN AND HORIZONTAL;2LIGHT UP AND HORIZONTAL;2LEFT HEAVY AND RIGHT UP LIGHT",
  "2536 2RIGHT HEAVY AND LEFT UP LIGHT;2UP LIGHT AND HORIZONTAL HEAVY;3HEAVY AND HORIZONTAL LIGHT",
  "2539 2RIGHT LIGHT AND LEFT UP HEAVY;2LEFT LIGHT AND RIGHT UP HEAVY;2HEAVY UP AND HORIZONTAL",
  "253C 2LIGHT VERTICAL AND HORIZONTAL;2LEFT HEAVY AND RIGHT VERTICAL LIGHT",
  "253E 2RIGHT HEAVY AND LEFT VERTICAL LIGHT;2VERTICAL LIGHT AND HORIZONTAL HEAVY",
  "2540 2UP HEAVY AND DOWN HORIZONTAL LIGHT;2DOWN HEAVY AND UP HORIZONTAL LIGHT",
  "2542 2VERTICAL HEAVY AND HORIZONTAL LIGHT;2LEFT UP HEAVY AND RIGHT DOWN LIGHT",
  "2544 2RIGHT UP HEAVY AND LEFT DOWN LIGHT;2LEFT DOWN HEAVY AND RIGHT UP LIGHT",
  "2546 2RIGHT DOWN HEAVY AND LEFT UP LIGHT;2DOWN LIGHT AND UP HORIZONTAL HEAVY",
  "2548 2UP LIGHT AND DOWN HORIZONTAL HEAVY;2RIGHT LIGHT AND LEFT VERTICAL HEAVY",
  "254A 2LEFT LIGHT AND RIGHT VERTICAL HEAVY;2HEAVY VERTICAL AND HORIZONTAL",
  "254C 2LIGHT DOUBLE DASH HORIZONTAL;2HEAVY DOUBLE DASH HORIZONTAL;2LIGHT DOUBLE DASH VERTICAL",
  "254F 2HEAVY DOUBLE DASH VERTICAL;2DOUBLE HORIZONTAL;3VERTICAL;2DOWN SINGLE AND RIGHT DOUBLE",
  "2553 3DOUBLE AND RIGHT SINGLE;2DOUBLE DOWN AND RIGHT;2DOWN SINGLE AND LEFT DOUBLE",
  "2556 3DOUBLE AND LEFT SINGLE;2DOUBLE DOWN AND LEFT;2UP SINGLE AND RIGHT DOUBLE",
  "2559 3DOUBLE AND RIGHT SINGLE;2DOUBLE UP AND RIGHT;2UP SINGLE AND LEFT DOUBLE",
  "255C 3DOUBLE AND LEFT SINGLE;2DOUBLE UP AND LEFT;2VERTICAL SINGLE AND RIGHT DOUBLE",
  "255F 3DOUBLE AND RIGHT SINGLE;2DOUBLE VERTICAL AND RIGHT;2VERTICAL SINGLE AND LEFT DOUBLE",
  "2562 3DOUBLE AND LEFT SINGLE;2DOUBLE VERTICAL AND LEFT;2DOWN SINGLE AND HORIZONTAL DOUBLE",
  "2565 3DOUBLE AND HORIZONTAL SINGLE;2DOUBLE DOWN AND HORIZONTAL;2UP SINGLE AND HORIZONTAL DOUBLE",
  "2568 3DOUBLE AND HORIZONTAL SINGLE;2DOUBLE UP AND HORIZONTAL",
  "256A 2VERTICAL SINGLE AND HORIZONTAL DOUBLE;3DOUBLE AND HORIZONTAL SINGLE",
  "256C 2DOUBLE VERTICAL AND HORIZONTAL;2LIGHT ARC DOWN AND RIGHT;6LEFT;4UP AND LEFT;6RIGHT",
  "2571 3DIAGONAL UPPER RIGHT TO LOWER LEFT;5LEFT TO LOWER RIGHT;4CROSS;3LEFT;3UP;3RIGHT;3DOWN",
  "2578 2HEAVY LEFT;3UP;3RIGHT;3DOWN;2LIGHT LEFT AND HEAVY RIGHT;3UP AND HEAVY DOWN",
  "257E 2HEAVY LEFT AND LIGHT RIGHT;3UP AND LIGHT DOWN;0UPPER HALF BLOCK;0LOWER ONE EIGHTH BLOCK",
  "2582 2QUARTER BLOCK;1THREE EIGHTHS BLOCK;1HALF BLOCK;1FIVE EIGHTHS BLOCK;1THREE QUARTERS BLOCK",
  "2587 1SEVEN EIGHTHS BLOCK;0FULL BLOCK;0LEFT SEVEN EIGHTHS BLOCK;1THREE QUARTERS BLOCK",
  "258B 1FIVE EIGHTHS BLOCK;1HALF BLOCK;1THREE EIGHTHS BLOCK;1ONE QUARTER BLOCK;2EIGHTH BLOCK",
  "2590 0RIGHT HALF BLOCK;0LIGHT SHADE;0MEDIUM SHADE;0DARK SHADE;0UPPER ONE EIGHTH BLOCK",
  "2595 0RIGHT ONE EIGHTH BLOCK;0QUADRANT LOWER LEFT;2RIGHT;1UPPER LEFT",
  "2599 2LEFT AND LOWER LEFT AND LOWER RIGHT;5RIGHT;4UPPER RIGHT AND LOWER LEFT;8RIGHT;2RIGHT",
  "259E 2RIGHT AND LOWER LEFT;5LEFT AND LOWER RIGHT;0BLACK SQUARE;0WHITE SQUARE",
  "25A2 1SQUARE WITH ROUNDED CORNERS;2CONTAINING BLACK SMALL SQUARE;0SQUARE WITH HORIZONTAL FILL",
  "25A5 2VERTICAL FILL;2ORTHOGONAL CROSSHATCH FILL;2UPPER LEFT TO LOWER RIGHT FILL",
  "25A8 3RIGHT TO LOWER LEFT FILL;2DIAGONAL CROSSHATCH FILL;0BLACK SMALL SQUARE",
  "25AB 0WHITE SMALL SQUARE;0BLACK RECTANGLE;0WHITE RECTANGLE;0BLACK VERTICAL RECTANGLE",
  "25AF 0WHITE VERTICAL RECTANGLE;0BLACK PARALLELOGRAM;0WHITE PARALLELOGRAM",
  "25B2 0BLACK UP-POINTING TRIANGLE;0WHITE UP-POINTING TRIANGLE;0BLACK UP-POINTING SMALL TRIANGLE",
  "25B5 0WHITE UP-POINTING SMALL TRIANGLE;0BLACK RIGHT-POINTING TRIANGLE",
  "25B7 0WHITE RIGHT-POINTING TRIANGLE;0BLACK RIGHT-POINTING SMALL TRIANGLE",
  "25B9 0WHITE RIGHT-POINTING SMALL TRIANGLE;0BLACK RIGHT-POINTING POINTER",
  "25BB 0WHITE RIGHT-POINTING POINTER;0BLACK DOWN-POINTING TRIANGLE;0WHITE DOWN-POINTING TRIANGLE",
  "25BE 0BLACK DOWN-POINTING SMALL TRIANGLE;0WHITE DOWN-POINTING SMALL TRIANGLE",
  "25C0 0BLACK LEFT-POINTING TRIANGLE;0WHITE LEFT-POINTING TRIANGLE",
  "25C2 0BLACK LEFT-POINTING SMALL TRIANGLE;0WHITE LEFT-POINTING SMALL TRIANGLE",
  "25C4 0BLACK LEFT-POINTING POINTER;0WHITE LEFT-POINTING POINTER;0BLACK DIAMOND;0WHITE DIAMOND",
  "25C8 1DIAMOND CONTAINING BLACK SMALL DIAMOND;0FISHEYE;0LOZENGE;0WHITE CIRCLE;0DOTTED CIRCLE",
  "25CD 0CIRCLE WITH VERTICAL FILL;0BULLSEYE;0BLACK CIRCLE;0CIRCLE WITH LEFT HALF BLACK",
  "25D1 2RIGHT HALF BLACK;2LOWER HALF BLACK;2UPPER HALF BLACK;3RIGHT QUADRANT BLACK",
  "25D5 2ALL BUT UPPER LEFT QUADRANT BLACK;0LEFT HALF BLACK CIRCLE;0RIGHT HALF BLACK CIRCLE",
  "25D8 0INVERSE BULLET;1WHITE CIRCLE;0UPPER HALF INVERSE WHITE CIRCLE",
  "25DB 0LOWER HALF INVERSE WHITE CIRCLE;0UPPER LEFT QUADRANT CIRCULAR ARC",
  "25DD 1RIGHT QUADRANT CIRCULAR ARC;0LOWER RIGHT QUADRANT CIRCULAR ARC",
  "25DF 1LEFT QUADRANT CIRCULAR ARC;0UPPER HALF CIRCLE;0LOWER HALF CIRCLE",
  "25E2 0BLACK LOWER RIGHT TRIANGLE;2LEFT TRIANGLE;1UPPER LEFT TRIANGLE;2RIGHT TRIANGLE",
  "25E6 0WHITE BULLET;0SQUARE WITH LEFT HALF BLACK;2RIGHT HALF BLACK",
  "25E9 2UPPER LEFT DIAGONAL HALF BLACK;2LOWER RIGHT DIAGONAL HALF BLACK",
  "25EB 0WHITE SQUARE WITH VERTICAL BISECTING LINE;1UP-POINTING TRIANGLE WITH DOT",
  "25ED 0UP-POINTING TRIANGLE WITH LEFT HALF BLACK;4RIGHT HALF BLACK;0LARGE CIRCLE",
  "25F0 0WHITE SQUARE WITH UPPER LEFT QUADRANT;3LOWER LEFT QUADRANT;4RIGHT QUADRANT",
  "25F3 3UPPER RIGHT QUADRANT;1CIRCLE WITH UPPER LEFT QUADRANT;3LOWER LEFT QUADRANT",
  "25F6 4RIGHT QUADRANT;3UPPER RIGHT QUADRANT;0UPPER LEFT TRIANGLE;1RIGHT TRIANGLE",
  "25FA 0LOWER LEFT TRIANGLE;0WHITE MEDIUM SQUARE;0BLACK MEDIUM SQUARE;0WHITE MEDIUM SMALL SQUARE",
  "25FE 0BLACK MEDIUM SMALL SQUARE;0LOWER RIGHT TRIANGLE;0BLACK SUN WITH RAYS;0CLOUD;0UMBRELLA",
  "2603 0SNOWMAN;0COMET;0BLACK STAR;0WHITE STAR;0LIGHTNING;0THUNDERSTORM;0SUN;0ASCENDING NODE",
  "260B 0DESCENDING NODE;0CONJUNCTION;0OPPOSITION;0BLACK TELEPHONE;0WHITE TELEPHONE;0BALLOT BOX",
  "2611 1BOX WITH CHECK;3X;0SALTIRE;0UMBRELLA WITH RAIN DROPS;0HOT BEVERAGE;0WHITE SHOGI PIECE",
  "2617 0BLACK SHOGI PIECE;0SHAMROCK;0REVERSED ROTATED FLORAL HEART BULLET",
  "261A 0BLACK LEFT POINTING INDEX;1RIGHT POINTING INDEX;0WHITE LEFT POINTING INDEX",
  "261D 1UP POINTING INDEX;1RIGHT POINTING INDEX;1DOWN POINTING INDEX;0SKULL AND CROSSBONES",
  "2621 0CAUTION SIGN;0RADIOACTIVE SIGN;0BIOHAZARD SIGN;0CADUCEUS;0ANKH;0ORTHODOX CROSS;0CHI RHO",
  "2628 0CROSS OF LORRAINE;2JERUSALEM;0STAR AND CRESCENT;0FARSI SYMBOL;0ADI SHAKTI",
  "262D 0HAMMER AND SICKLE;0PEACE SYMBOL;0YIN YANG;0TRIGRAM FOR HEAVEN;2LAKE;2FIRE;2THUNDER;2WIND",
  "2635 2WATER;2MOUNTAIN;2EARTH;0WHEEL OF DHARMA;0WHITE FROWNING FACE;1SMILING FACE",
  "263B 0BLACK SMILING FACE;0WHITE SUN WITH RAYS;0FIRST QUARTER MOON;0LAST QUARTER MOON;0MERCURY",
  "2640 0FEMALE SIGN;0EARTH;0MALE SIGN;0JUPITER;0SATURN;0URANUS;0NEPTUNE;0PLUTO;0ARIES;0TAURUS",
  "264A 0GEMINI;0CANCER;0LEO;0VIRGO;0LIBRA;0SCORPIUS;0SAGITTARIUS;0CAPRICORN;0AQUARIUS;0PISCES",
  "2654 0WHITE CHESS KING;2QUEEN;2ROOK;2BISHOP;2KNIGHT;2PAWN;0BLACK CHESS KING;2QUEEN;2ROOK",
  "265D 2BISHOP;2KNIGHT;2PAWN;1SPADE SUIT;0WHITE HEART SUIT;1DIAMOND SUIT;0BLACK CLUB SUIT",
  "2664 0WHITE SPADE SUIT;0BLACK HEART SUIT;1DIAMOND SUIT;0WHITE CLUB SUIT;0HOT SPRINGS",
  "2669 0QUARTER NOTE;0EIGHTH NOTE;0BEAMED EIGHTH NOTES;1SIXTEENTH NOTES;0MUSIC FLAT SIGN",
  "266E 1NATURAL SIGN;1SHARP SIGN;0WEST SYRIAC CROSS;0EAST SYRIAC CROSS",
  "2672 0UNIVERSAL RECYCLING SYMBOL;0RECYCLING SYMBOL FOR TYPE-1 PLASTICS;42 PLASTICS;43 PLASTICS",
  "2676 44 PLASTICS;45 PLASTICS;46 PLASTICS;47 PLASTICS;3GENERIC MATERIALS",
  "267B 0BLACK UNIVERSAL RECYCLING SYMBOL;0RECYCLED PAPER SYMBOL;0PARTIALLY-RECYCLED PAPER SYMBOL",
  "267E 0PERMANENT PAPER SIGN;0WHEELCHAIR SYMBOL;0DIE FACE-1;22;23;24;25;26",
  "2686 0WHITE CIRCLE WITH DOT RIGHT;3TWO DOTS;0BLACK CIRCLE WITH WHITE DOT RIGHT;3TWO WHITE DOTS",
  "268A 0MONOGRAM FOR YANG;2YIN;0DIGRAM FOR GREATER YANG;2LESSER YIN;3YANG;2GREATER YIN",
  "2690 0WHITE FLAG;0BLACK FLAG;0HAMMER AND PICK;0ANCHOR;0CROSSED SWORDS;0STAFF OF AESCULAPIUS",
  "2696 0SCALES;0ALEMBIC;0FLOWER;0GEAR;0STAFF OF HERMES;0ATOM SYMBOL;0FLEUR-DE-LIS",
  "269D 0OUTLINED WHITE STAR;0THREE LINES CONVERGING RIGHT;3LEFT;0WARNING SIGN;0HIGH VOLTAGE SIGN",
  "26A2 0DOUBLED FEMALE SIGN;1MALE SIGN;0INTERLOCKED FEMALE AND MALE SIGN;0MALE AND FEMALE SIGN",
  "26A6 1WITH STROKE SIGN;3AND MALE AND FEMALE SIGN;0VERTICAL MALE WITH STROKE SIGN",
  "26A9 0HORIZONTAL MALE WITH STROKE SIGN;0MEDIUM WHITE CIRCLE;1BLACK CIRCLE;1SMALL WHITE CIRCLE",
  "26AD 0MARRIAGE SYMBOL;0DIVORCE SYMBOL;0UNMARRIED PARTNERSHIP SYMBOL;0COFFIN;0FUNERAL URN",
  "26B2 0NEUTER;0CERES;0PALLAS;0JUNO;0VESTA;0CHIRON;0BLACK MOON LILITH;0SEXTILE;0SEMISEXTILE",
  "26BB 0QUINCUNX;0SESQUIQUADRATE;0SOCCER BALL;0BASEBALL;0SQUARED KEY;0WHITE DRAUGHTS MAN;2KING",
  "26C2 0BLACK DRAUGHTS MAN;2KING;0SNOWMAN WITHOUT SNOW;0SUN BEHIND CLOUD;0RAIN;0BLACK SNOWMAN",
  "26C8 0THUNDER CLOUD AND RAIN;0TURNED WHITE SHOGI PIECE;1BLACK SHOGI PIECE",
  "26CB 0WHITE DIAMOND IN SQUARE;0CROSSING LANES;0DISABLED CAR;0OPHIUCHUS;0PICK;0CAR SLIDING",
  "26D1 0HELMET WITH WHITE CROSS;0CIRCLED CROSSING LANES;0CHAINS;0NO ENTRY",
  "26D5 0ALTERNATE ONE-WAY LEFT WAY TRAFFIC;0BLACK TWO-WAY LEFT WAY TRAFFIC",
  "26D7 0WHITE TWO-WAY LEFT WAY TRAFFIC;0BLACK LEFT LANE MERGE;0WHITE LEFT LANE MERGE",
  "26DA 0DRIVE SLOW SIGN;0HEAVY WHITE DOWN-POINTING TRIANGLE;0LEFT CLOSED ENTRY;0SQUARED SALTIRE",
  "26DE 0FALLING DIAGONAL IN WHITE CIRCLE IN BLACK SQUARE;0BLACK TRUCK;0RESTRICTED LEFT ENTRY-1;32",
  "26E2 0ASTRONOMICAL SYMBOL FOR URANUS;0HEAVY CIRCLE WITH STROKE AND TWO DOTS ABOVE;0PENTAGRAM",
  "26E5 0RIGHT-HANDED INTERLACED PENTAGRAM;0LEFT-HANDED INTERLACED PENTAGRAM;0INVERTED PENTAGRAM",
  "26E8 0BLACK CROSS ON SHIELD;0SHINTO SHRINE;0CHURCH;0CASTLE;0HISTORIC SITE;0GEAR WITHOUT HUB",
  "26EE 1WITH HANDLES;0MAP SYMBOL FOR LIGHTHOUSE;0MOUNTAIN;0UMBRELLA ON GROUND;0FOUNTAIN",
  "26F3 0FLAG IN HOLE;0FERRY;0SAILBOAT;0SQUARE FOUR CORNERS;0SKIER;0ICE SKATE;0PERSON WITH BALL",
  "26FA 0TENT;0JAPANESE BANK SYMBOL;0HEADSTONE GRAVEYARD SYMBOL;0FUEL PUMP;0CUP ON BLACK SQUARE",
  "26FF 0WHITE FLAG WITH HORIZONTAL MIDDLE BLACK STRIPE;0BLACK SAFETY SCISSORS",
  "2701 0UPPER BLADE SCISSORS;0BLACK SCISSORS;0LOWER BLADE SCISSORS;0WHITE SCISSORS",
  "2705 1HEAVY CHECK MARK;0TELEPHONE LOCATION SIGN;0TAPE DRIVE;0AIRPLANE;0ENVELOPE;0RAISED FIST",
  "270B 1HAND;0VICTORY HAND;0WRITING HAND;0LOWER RIGHT PENCIL;0PENCIL;0UPPER RIGHT PENCIL",
  "2711 0WHITE NIB;0BLACK NIB;0CHECK MARK;0HEAVY CHECK MARK;0MULTIPLICATION X",
  "2716 0HEAVY MULTIPLICATION X;0BALLOT X;0HEAVY BALLOT X;0OUTLINED GREEK CROSS;0HEAVY GREEK CROSS",
  "271B 0OPEN CENTRE CROSS;0HEAVY OPEN CENTRE CROSS;0LATIN CROSS;0SHADOWED WHITE LATIN CROSS",
  "271F 0OUTLINED LATIN CROSS;0MALTESE CROSS;0STAR OF DAVID;0FOUR TEARDROP-SPOKED ASTERISK",
  "2723 1BALLOON-SPOKED ASTERISK;0HEAVY FOUR BALLOON-SPOKED ASTERISK;0FOUR CLUB-SPOKED ASTERISK",
  "2726 0BLACK FOUR POINTED STAR;0WHITE FOUR POINTED STAR;0SPARKLES;0STRESS OUTLINED WHITE STAR",
  "272A 0CIRCLED WHITE STAR;0OPEN CENTRE BLACK STAR;0BLACK CENTRE WHITE STAR;0OUTLINED BLACK STAR",
  "272E 0HEAVY OUTLINED BLACK STAR;0PINWHEEL STAR;0SHADOWED WHITE STAR;0HEAVY ASTERISK",
  "2732 0OPEN CENTRE ASTERISK;0EIGHT SPOKED ASTERISK;1POINTED BLACK STAR;2PINWHEEL STAR",
  "2736 0SIX POINTED BLACK STAR;0EIGHT POINTED RECTILINEAR BLACK STAR",
  "2738 0HEAVY EIGHT POINTED RECTILINEAR BLACK STAR;0TWELVE POINTED BLACK STAR",
  "273A 0SIXTEEN POINTED ASTERISK;0TEARDROP-SPOKED ASTERISK;0OPEN CENTRE TEARDROP-SPOKED ASTERISK",
  "273D 0HEAVY TEARDROP-SPOKED ASTERISK;0SIX PETALLED BLACK AND WHITE FLORETTE;0BLACK FLORETTE",
  "2740 0WHITE FLORETTE;0EIGHT PETALLED OUTLINED BLACK FLORETTE",
  "2742 0CIRCLED OPEN CENTRE EIGHT POINTED STAR;0HEAVY TEARDROP-SPOKED PINWHEEL ASTERISK",
  "2744 0SNOWFLAKE;0TIGHT TRIFOLIATE SNOWFLAKE;0HEAVY CHEVRON SNOWFLAKE;0SPARKLE;0HEAVY SPARKLE",
  "2749 0BALLOON-SPOKED ASTERISK;0EIGHT TEARDROP-SPOKED PROPELLER ASTERISK",
  "274B 0HEAVY EIGHT TEARDROP-SPOKED PROPELLER ASTERISK;0CROSS MARK;0SHADOWED WHITE CIRCLE",
  "274E 0NEGATIVE SQUARED CROSS MARK;0LOWER RIGHT DROP-SHADOWED WHITE SQUARE",
  "2750 0UPPER RIGHT DROP-SHADOWED WHITE SQUARE;0LOWER RIGHT SHADOWED WHITE SQUARE",
  "2752 0UPPER RIGHT SHADOWED WHITE SQUARE;0BLACK QUESTION MARK ORNAMENT",
  "2754 0WHITE QUESTION MARK ORNAMENT;1EXCLAMATION MARK ORNAMENT;0BLACK DIAMOND MINUS WHITE X",
  "2757 0HEAVY EXCLAMATION MARK SYMBOL;0LIGHT VERTICAL BAR;0MEDIUM VERTICAL BAR",
  "275A 0HEAVY VERTICAL BAR;1SINGLE TURNED COMMA QUOTATION MARK ORNAMENT",
  "275C 2COMMA QUOTATION MARK ORNAMENT;1DOUBLE TURNED COMMA QUOTATION MARK ORNAMENT",
  "275E 2COMMA QUOTATION MARK ORNAMENT;1LOW SINGLE COMMA QUOTATION MARK ORNAMENT",
  "2760 2DOUBLE COMMA QUOTATION MARK ORNAMENT;0CURVED STEM PARAGRAPH SIGN ORNAMENT",
  "2762 0HEAVY EXCLAMATION MARK ORNAMENT;1HEART EXCLAMATION MARK ORNAMENT;1BLACK HEART",
  "2765 0ROTATED HEAVY BLACK HEART BULLET;0FLORAL HEART;0ROTATED FLORAL HEART BULLET",
  "2768 0MEDIUM LEFT PARENTHESIS ORNAMENT;1RIGHT PARENTHESIS ORNAMENT",
  "276A 1FLATTENED LEFT PARENTHESIS ORNAMENT;2RIGHT PARENTHESIS ORNAMENT",
  "276C 1LEFT-POINTING ANGLE BRACKET ORNAMENT;1RIGHT-POINTING ANGLE BRACKET ORNAMENT",
  "276E 0HEAVY LEFT-POINTING ANGLE QUOTATION MARK ORNAMENT",
  "276F 1RIGHT-POINTING ANGLE QUOTATION MARK ORNAMENT;1LEFT-POINTING ANGLE BRACKET ORNAMENT",
  "2771 1RIGHT-POINTING ANGLE BRACKET ORNAMENT;0LIGHT LEFT TORTOISE SHELL BRACKET ORNAMENT",
  "2773 1RIGHT TORTOISE SHELL BRACKET ORNAMENT;0MEDIUM LEFT CURLY BRACKET ORNAMENT",
  "2775 1RIGHT CURLY BRACKET ORNAMENT;0DINGBAT NEGATIVE CIRCLED DIGIT ONE;4TWO;4THREE;4FOUR;4FIVE",
  "277B 4SIX;4SEVEN;4EIGHT;4NINE;3NUMBER TEN;1CIRCLED SANS-SERIF DIGIT ONE;5TWO;5THREE;5FOUR;5FIVE",
  "2785 5SIX;5SEVEN;5EIGHT;5NINE;4NUMBER TEN;1NEGATIVE CIRCLED SANS-SERIF DIGIT ONE;6TWO;6THREE",
  "278D 6FOUR;6FIVE;6SIX;6SEVEN;6EIGHT;6NINE;5NUMBER TEN;0HEAVY WIDE-HEADED RIGHTWARDS ARROW",
  "2795 1PLUS SIGN;1MINUS SIGN;1DIVISION SIGN;1SOUTH EAST ARROW;1RIGHTWARDS ARROW",
  "279A 1NORTH EAST ARROW;0DRAFTING POINT RIGHTWARDS ARROW;0HEAVY ROUND-TIPPED RIGHTWARDS ARROW",
  "279D 0TRIANGLE-HEADED RIGHTWARDS ARROW;0HEAVY TRIANGLE-HEADED RIGHTWARDS ARROW",
  "279F 0DASHED TRIANGLE-HEADED RIGHTWARDS ARROW;0HEAVY DASHED TRIANGLE-HEADED RIGHTWARDS ARROW",
  "27A1 0BLACK RIGHTWARDS ARROW;0THREE-D TOP-LIGHTED RIGHTWARDS ARROWHEAD",
  "27A3 2BOTTOM-LIGHTED RIGHTWARDS ARROWHEAD;0BLACK RIGHTWARDS ARROWHEAD",
  "27A5 0HEAVY BLACK CURVED DOWNWARDS AND RIGHTWARDS ARROW;3UPWARDS AND RIGHTWARDS ARROW",
  "27A7 0SQUAT BLACK RIGHTWARDS ARROW;0HEAVY CONCAVE-POINTED BLACK RIGHTWARDS ARROW",
  "27A9 0RIGHT-SHADED WHITE RIGHTWARDS ARROW;0LEFT-SHADED WHITE RIGHTWARDS ARROW",
  "27AB 0BACK-TILTED SHADOWED WHITE RIGHTWARDS ARROW;0FRONT-TILTED SHADOWED WHITE RIGHTWARDS ARROW",
  "27AD 0HEAVY LOWER RIGHT-SHADOWED WHITE RIGHTWARDS ARROW",
  "27AE 1UPPER RIGHT-SHADOWED WHITE RIGHTWARDS ARROW",
  "27AF 0NOTCHED LOWER RIGHT-SHADOWED WHITE RIGHTWARDS ARROW;0CURLY LOOP",
  "27B1 0NOTCHED UPPER RIGHT-SHADOWED WHITE RIGHTWARDS ARROW;0CIRCLED HEAVY WHITE RIGHTWARDS ARROW",
  "27B3 0WHITE-FEATHERED RIGHTWARDS ARROW;0BLACK-FEATHERED SOUTH EAST ARROW;2RIGHTWARDS ARROW",
  "27B6 2NORTH EAST ARROW;0HEAVY BLACK-FEATHERED SOUTH EAST ARROW;3RIGHTWARDS ARROW",
  "27B9 3NORTH EAST ARROW;0TEARDROP-BARBED RIGHTWARDS ARROW",
  "27BB 0HEAVY TEARDROP-SHANKED RIGHTWARDS ARROW;0WEDGE-TAILED RIGHTWARDS ARROW",
  "27BD 0HEAVY WEDGE-TAILED RIGHTWARDS ARROW;0OPEN-OUTLINED RIGHTWARDS ARROW;0DOUBLE CURLY LOOP",
  "27C0 0THREE DIMENSIONAL ANGLE;0WHITE TRIANGLE CONTAINING SMALL WHITE TRIANGLE;0PERPENDICULAR",
  "27C3 0OPEN SUBSET;1SUPERSET;0LEFT S-SHAPED BAG DELIMITER;0RIGHT S-SHAPED BAG DELIMITER",
  "27C7 0OR WITH DOT INSIDE;0REVERSE SOLIDUS PRECEDING SUBSET;0SUPERSET PRECEDING SOLIDUS",
  "27CA 0VERTICAL BAR WITH HORIZONTAL STROKE;0MATHEMATICAL RISING DIAGONAL;0LONG DIVISION",
  "27CD 0MATHEMATICAL FALLING DIAGONAL;0SQUARED LOGICAL AND;2OR;0WHITE DIAMOND WITH CENTRED DOT",
  "27D1 0AND WITH DOT;0ELEMENT OF OPENING UPWARDS;0LOWER RIGHT CORNER WITH DOT",
  "27D4 0UPPER LEFT CORNER WITH DOT;0LEFT OUTER JOIN;0RIGHT OUTER JOIN;0FULL OUTER JOIN",
  "27D8 0LARGE UP TACK;1DOWN TACK;0LEFT AND RIGHT DOUBLE TURNSTILE;3TACK;1MULTIMAP",
  "27DD 0LONG RIGHT TACK;1LEFT TACK;0UP TACK WITH CIRCLE ABOVE;0LOZENGE DIVIDED BY HORIZONTAL RULE",
  "27E1 0WHITE CONCAVE-SIDED DIAMOND;3DIAMOND WITH LEFTWARDS TICK;5RIGHTWARDS TICK",
  "27E4 1SQUARE WITH LEFTWARDS TICK;3RIGHTWARDS TICK;0MATHEMATICAL LEFT WHITE SQUARE BRACKET",
  "27E7 1RIGHT WHITE SQUARE BRACKET;1LEFT ANGLE BRACKET;1RIGHT ANGLE BRACKET",
  "27EA 1LEFT DOUBLE ANGLE BRACKET;1RIGHT DOUBLE ANGLE BRACKET;1LEFT WHITE TORTOISE SHELL BRACKET",
  "27ED 1RIGHT WHITE TORTOISE SHELL BRACKET;1LEFT FLATTENED PARENTHESIS",
  "27EF 1RIGHT FLATTENED PARENTHESIS;0UPWARDS QUADRUPLE ARROW;0DOWNWARDS QUADRUPLE ARROW",
  "27F2 0ANTICLOCKWISE GAPPED CIRCLE ARROW;0CLOCKWISE GAPPED CIRCLE ARROW",
  "27F4 0RIGHT ARROW WITH CIRCLED PLUS;0LONG LEFTWARDS ARROW;1RIGHTWARDS ARROW;1LEFT RIGHT ARROW",
  "27F8 1LEFTWARDS DOUBLE ARROW;1RIGHTWARDS DOUBLE ARROW;1LEFT RIGHT DOUBLE ARROW",
  "27FB 1LEFTWARDS ARROW FROM BAR;1RIGHTWARDS ARROW FROM BAR;1LEFTWARDS DOUBLE ARROW FROM BAR",
  "27FE 1RIGHTWARDS DOUBLE ARROW FROM BAR;2SQUIGGLE ARROW;0BRAILLE PATTERN BLANK;2DOTS-1;32;312;33",
  "2805 313;323;3123;34;314;324;3124;334;3134;3234;31234;35;315;325;3125;335;3135;3235;31235;345",
  "2819 3145;3245;31245;3345;31345;32345;312345;36;316;326;3126;336;3136;3236;31236;346;3146;3246",
  "282B 31246;3346;31346;32346;312346;356;3156;3256;31256;3356;31356;32356;312356;3456;31456;32456",
  "283B 312456;33456;313456;323456;3123456;37;317;327;3127;337;3137;3237;31237;347;3147;3247;31247",
  "284C 3347;31347;32347;312347;357;3157;3257;31257;3357;31357;32357;312357;3457;31457;32457",
  "285B 312457;33457;313457;323457;3123457;367;3167;3267;31267;3367;31367;32367;312367;3467;31467",
  "286A 32467;312467;33467;313467;323467;3123467;3567;31567;32567;312567;33567;313567;323567",
  "2877 3123567;34567;314567;324567;3124567;334567;3134567;3234567;31234567;38;318;328;3128;338",
  "2885 3138;3238;31238;348;3148;3248;31248;3348;31348;32348;312348;358;3158;3258;31258;3358;31358",
  "2896 32358;312358;3458;31458;32458;312458;33458;313458;323458;3123458;368;3168;3268;31268;3368",
  "28A5 31368;32368;312368;3468;31468;32468;312468;33468;313468;323468;3123468;3568;31568;32568",
  "28B3 312568;33568;313568;323568;3123568;34568;314568;324568;3124568;334568;3134568;3234568",
  "28BF 31234568;378;3178;3278;31278;3378;31378;32378;312378;3478;31478;32478;312478;33478;313478",
  "28CE 323478;3123478;3578;31578;32578;312578;33578;313578;323578;3123578;34578;314578;324578",
  "28DB 3124578;334578;3134578;3234578;31234578;3678;31678;32678;312678;33678;313678;323678",
  "28E7 3123678;34678;314678;324678;3124678;334678;3134678;3234678;31234678;35678;315678;325678",
  "28F3 3125678;335678;3135678;3235678;31235678;345678;3145678;3245678;31245678;3345678;31345678",
  "28FE 32345678;312345678;0RIGHTWARDS TWO-HEADED ARROW WITH VERTICAL STROKE",
  "2901 5DOUBLE VERTICAL STROKE;0LEFTWARDS DOUBLE ARROW WITH VERTICAL STROKE",
  "2903 0RIGHTWARDS DOUBLE ARROW WITH VERTICAL STROKE",
  "2904 0LEFT RIGHT DOUBLE ARROW WITH VERTICAL STROKE;0RIGHTWARDS TWO-HEADED ARROW FROM BAR",
  "2906 0LEFTWARDS DOUBLE ARROW FROM BAR;0RIGHTWARDS DOUBLE ARROW FROM BAR",
  "2908 0DOWNWARDS ARROW WITH HORIZONTAL STROKE;0UPWARDS ARROW WITH HORIZONTAL STROKE",
  "290A 1TRIPLE ARROW;0DOWNWARDS TRIPLE ARROW;0LEFTWARDS DOUBLE DASH ARROW",
  "290D 0RIGHTWARDS DOUBLE DASH ARROW;0LEFTWARDS TRIPLE DASH ARROW;0RIGHTWARDS TRIPLE DASH ARROW",
  "2910 1TWO-HEADED TRIPLE DASH ARROW;1ARROW WITH DOTTED STEM;0UPWARDS ARROW TO BAR",
  "2913 0DOWNWARDS ARROW TO BAR;0RIGHTWARDS ARROW WITH TAIL WITH VERTICAL STROKE",
  "2915 5DOUBLE VERTICAL STROKE;1TWO-HEADED ARROW WITH TAIL;5TAIL WITH VERTICAL STROKE",
  "2918 7DOUBLE VERTICAL STROKE;0LEFTWARDS ARROW-TAIL;0RIGHTWARDS ARROW-TAIL",
  "291B 0LEFTWARDS DOUBLE ARROW-TAIL;0RIGHTWARDS DOUBLE ARROW-TAIL",
  "291D 0LEFTWARDS ARROW TO BLACK DIAMOND;0RIGHTWARDS ARROW TO BLACK DIAMOND",
  "291F 0LEFTWARDS ARROW FROM BAR TO BLACK DIAMOND;0RIGHTWARDS ARROW FROM BAR TO BLACK DIAMOND",
  "2921 0NORTH WEST AND SOUTH EAST ARROW;1EAST AND SOUTH WEST ARROW;1WEST ARROW WITH HOOK",
  "2924 1EAST ARROW WITH HOOK;0SOUTH EAST ARROW WITH HOOK;1WEST ARROW WITH HOOK",
  "2927 0NORTH WEST ARROW AND NORTH EAST ARROW;1EAST ARROW AND SOUTH EAST ARROW",
  "2929 0SOUTH EAST ARROW AND SOUTH WEST ARROW;1WEST ARROW AND NORTH WEST ARROW",
  "292B 0RISING DIAGONAL CROSSING FALLING DIAGONAL;0FALLING DIAGONAL CROSSING RISING DIAGONAL",
  "292D 0SOUTH EAST ARROW CROSSING NORTH EAST ARROW;0NORTH EAST ARROW CROSSING SOUTH EAST ARROW",
  "292F 0FALLING DIAGONAL CROSSING NORTH EAST ARROW;0RISING DIAGONAL CROSSING SOUTH EAST ARROW",
  "2931 0NORTH EAST ARROW CROSSING NORTH WEST ARROW;1WEST ARROW CROSSING NORTH EAST ARROW",
  "2933 0WAVE ARROW POINTING DIRECTLY RIGHT;0ARROW POINTING RIGHTWARDS THEN CURVING UPWARDS",
  "2935 5DOWNWARDS;2DOWNWARDS THEN CURVING LEFTWARDS;5RIGHTWARDS;0RIGHT-SIDE ARC CLOCKWISE ARROW",
  "2939 0LEFT-SIDE ARC ANTICLOCKWISE ARROW;0TOP ARC ANTICLOCKWISE ARROW",
  "293B 0BOTTOM ARC ANTICLOCKWISE ARROW;0TOP ARC CLOCKWISE ARROW WITH MINUS",
  "293D 2ANTICLOCKWISE ARROW WITH PLUS;0LOWER RIGHT SEMICIRCULAR CLOCKWISE ARROW",
  "293F 1LEFT SEMICIRCULAR ANTICLOCKWISE ARROW;0ANTICLOCKWISE CLOSED CIRCLE ARROW",
  "2941 0CLOCKWISE CLOSED CIRCLE ARROW;0RIGHTWARDS ARROW ABOVE SHORT LEFTWARDS ARROW",
  "2943 0LEFTWARDS ARROW ABOVE SHORT RIGHTWARDS ARROW",
  "2944 0SHORT RIGHTWARDS ARROW ABOVE LEFTWARDS ARROW;0RIGHTWARDS ARROW WITH PLUS BELOW",
  "2946 0LEFTWARDS ARROW WITH PLUS BELOW;0RIGHTWARDS ARROW THROUGH X",
  "2948 0LEFT RIGHT ARROW THROUGH SMALL CIRCLE;0UPWARDS TWO-HEADED ARROW FROM SMALL CIRCLE",
  "294A 0LEFT BARB UP RIGHT BARB DOWN HARPOON;2DOWN RIGHT BARB UP HARPOON",
  "294C 0UP BARB RIGHT DOWN BARB LEFT HARPOON;2LEFT DOWN BARB RIGHT HARPOON",
  "294E 0LEFT BARB UP RIGHT BARB UP HARPOON;0UP BARB RIGHT DOWN BARB RIGHT HARPOON",
  "2950 0LEFT BARB DOWN RIGHT BARB DOWN HARPOON;0UP BARB LEFT DOWN BARB LEFT HARPOON",
  "2952 0LEFTWARDS HARPOON WITH BARB UP TO BAR;0RIGHTWARDS HARPOON WITH BARB UP TO BAR",
  "2954 0UPWARDS HARPOON WITH BARB RIGHT TO BAR;0DOWNWARDS HARPOON WITH BARB RIGHT TO BAR",
  "2956 0LEFTWARDS HARPOON WITH BARB DOWN TO BAR;0RIGHTWARDS HARPOON WITH BARB DOWN TO BAR",
  "2958 0UPWARDS HARPOON WITH BARB LEFT TO BAR;0DOWNWARDS HARPOON WITH BARB LEFT TO BAR",
  "295A 0LEFTWARDS HARPOON WITH BARB UP FROM BAR;0RIGHTWARDS HARPOON WITH BARB UP FROM BAR",
  "295C 0UPWARDS HARPOON WITH BARB RIGHT FROM BAR;0DOWNWARDS HARPOON WITH BARB RIGHT FROM BAR",
  "295E 0LEFTWARDS HARPOON WITH BARB DOWN FROM BAR;0RIGHTWARDS HARPOON WITH BARB DOWN FROM BAR",
  "2960 0UPWARDS HARPOON WITH BARB LEFT FROM BAR;0DOWNWARDS HARPOON WITH BARB LEFT FROM BAR",
  "2962 0LEFTWARDS HARPOON WITH BARB UP ABOVE LEFTWARDS HARPOON WITH BARB DOWN",
  "2963 0UPWARDS HARPOON WITH BARB LEFT BESIDE UPWARDS HARPOON WITH BARB RIGHT",
  "2964 0RIGHTWARDS HARPOON WITH BARB UP ABOVE RIGHTWARDS HARPOON WITH BARB DOWN",
  "2965 0DOWNWARDS HARPOON WITH BARB LEFT BESIDE DOWNWARDS HARPOON WITH BARB RIGHT",
  "2966 0LEFTWARDS HARPOON WITH BARB UP ABOVE RIGHTWARDS HARPOON WITH BARB UP",
  "2967 4DOWN ABOVE RIGHTWARDS HARPOON WITH BARB DOWN",
  "2968 0RIGHTWARDS HARPOON WITH BARB UP ABOVE LEFTWARDS HARPOON WITH BARB UP",
  "2969 4DOWN ABOVE LEFTWARDS HARPOON WITH BARB DOWN",
  "296A 0LEFTWARDS HARPOON WITH BARB UP ABOVE LONG DASH;4DOWN BELOW LONG DASH",
  "296C 0RIGHTWARDS HARPOON WITH BARB UP ABOVE LONG DASH;4DOWN BELOW LONG DASH",
  "296E 0UPWARDS HARPOON WITH BARB LEFT BESIDE DOWNWARDS HARPOON WITH BARB RIGHT",
  "296F 0DOWNWARDS HARPOON WITH BARB LEFT BESIDE UPWARDS HARPOON WITH BARB RIGHT",
  "2970 0RIGHT DOUBLE ARROW WITH ROUNDED HEAD;0EQUALS SIGN ABOVE RIGHTWARDS ARROW",
  "2972 0TILDE OPERATOR ABOVE RIGHTWARDS ARROW;0LEFTWARDS ARROW ABOVE TILDE OPERATOR",
  "2974 0RIGHTWARDS ARROW ABOVE TILDE OPERATOR;3ALMOST EQUAL TO;0LESS-THAN ABOVE LEFTWARDS ARROW",
  "2977 0LEFTWARDS ARROW THROUGH LESS-THAN;0GREATER-THAN ABOVE RIGHTWARDS ARROW",
  "2979 0SUBSET ABOVE RIGHTWARDS ARROW;0LEFTWARDS ARROW THROUGH SUBSET",
  "297B 0SUPERSET ABOVE LEFTWARDS ARROW;0LEFT FISH TAIL;0RIGHT FISH TAIL;0UP FISH TAIL",
  "297F 0DOWN FISH TAIL;0TRIPLE VERTICAL BAR DELIMITER;0Z NOTATION SPOT;2TYPE COLON",
  "2983 0LEFT WHITE CURLY BRACKET;0RIGHT WHITE CURLY BRACKET;0LEFT WHITE PARENTHESIS",
  "2986 0RIGHT WHITE PARENTHESIS;0Z NOTATION LEFT IMAGE BRACKET;2RIGHT IMAGE BRACKET",
  "2989 2LEFT BINDING BRACKET;2RIGHT BINDING BRACKET;0LEFT SQUARE BRACKET WITH UNDERBAR",
  "298C 0RIGHT SQUARE BRACKET WITH UNDERBAR;0LEFT SQUARE BRACKET WITH TICK IN TOP CORNER",
  "298E 0RIGHT SQUARE BRACKET WITH TICK IN BOTTOM CORNER",
  "298F 0LEFT SQUARE BRACKET WITH TICK IN BOTTOM CORNER",
  "2990 0RIGHT SQUARE BRACKET WITH TICK IN TOP CORNER;0LEFT ANGLE BRACKET WITH DOT",
  "2992 0RIGHT ANGLE BRACKET WITH DOT;0LEFT ARC LESS-THAN BRACKET;0RIGHT ARC GREATER-THAN BRACKET",
  "2995 0DOUBLE LEFT ARC GREATER-THAN BRACKET;1RIGHT ARC LESS-THAN BRACKET",
  "2997 0LEFT BLACK TORTOISE SHELL BRACKET;0RIGHT BLACK TORTOISE SHELL BRACKET;0DOTTED FENCE",
  "299A 0VERTICAL ZIGZAG LINE;0MEASURED ANGLE OPENING LEFT;0RIGHT ANGLE VARIANT WITH SQUARE",
  "299D 0MEASURED RIGHT ANGLE WITH DOT;0ANGLE WITH S INSIDE;0ACUTE ANGLE",
  "29A0 0SPHERICAL ANGLE OPENING LEFT;3UP;0TURNED ANGLE;0REVERSED ANGLE;0ANGLE WITH UNDERBAR",
  "29A5 0REVERSED ANGLE WITH UNDERBAR;0OBLIQUE ANGLE OPENING UP;3DOWN",
  "29A8 0MEASURED ANGLE WITH OPEN ARM ENDING IN ARROW POINTING UP AND RIGHT;9UP AND LEFT",
  "29AA 9DOWN AND RIGHT;9DOWN AND LEFT;9RIGHT AND UP;9LEFT AND UP;9RIGHT AND DOWN;9LEFT AND DOWN",
  "29B0 0REVERSED EMPTY SET;0EMPTY SET WITH OVERBAR;3SMALL CIRCLE ABOVE;3RIGHT ARROW ABOVE",
  "29B4 3LEFT ARROW ABOVE;0CIRCLE WITH HORIZONTAL BAR;0CIRCLED VERTICAL BAR;1PARALLEL",
  "29B8 1REVERSE SOLIDUS;1PERPENDICULAR",
  "29BA 0CIRCLE DIVIDED BY HORIZONTAL BAR AND TOP HALF DIVIDED BY VERTICAL BAR",
  "29BB 1WITH SUPERIMPOSED X;0CIRCLED ANTICLOCKWISE-ROTATED DIVISION SIGN;0UP ARROW THROUGH CIRCLE",
  "29BE 0CIRCLED WHITE BULLET;1BULLET;1LESS-THAN;1GREATER-THAN",
  "29C2 0CIRCLE WITH SMALL CIRCLE TO THE RIGHT;2TWO HORIZONTAL STROKES TO THE RIGHT",
  "29C4 0SQUARED RISING DIAGONAL SLASH;1FALLING DIAGONAL SLASH;1ASTERISK;1SMALL CIRCLE;1SQUARE",
  "29C9 0TWO JOINED SQUARES;0TRIANGLE WITH DOT ABOVE;2UNDERBAR;0S IN TRIANGLE",
  "29CD 0TRIANGLE WITH SERIFS AT BOTTOM;0RIGHT TRIANGLE ABOVE LEFT TRIANGLE",
  "29CF 0LEFT TRIANGLE BESIDE VERTICAL BAR;0VERTICAL BAR BESIDE RIGHT TRIANGLE",
  "29D1 0BOWTIE WITH LEFT HALF BLACK;2RIGHT HALF BLACK;0BLACK BOWTIE;0TIMES WITH LEFT HALF BLACK",
  "29D5 2RIGHT HALF BLACK;0WHITE HOURGLASS;0BLACK HOURGLASS;0LEFT WIGGLY FENCE;0RIGHT WIGGLY FENCE",
  "29DA 0LEFT DOUBLE WIGGLY FENCE;0RIGHT DOUBLE WIGGLY FENCE;0INCOMPLETE INFINITY",
  "29DD 0TIE OVER INFINITY;0INFINITY NEGATED WITH VERTICAL BAR;0DOUBLE-ENDED MULTIMAP",
  "29E0 0SQUARE WITH CONTOURED OUTLINE;0INCREASES AS;0SHUFFLE PRODUCT",
  "29E3 0EQUALS SIGN AND SLANTED PARALLEL;4PARALLEL WITH TILDE ABOVE",
  "29E5 0IDENTICAL TO AND SLANTED PARALLEL;0GLEICH STARK;0THERMODYNAMIC",
  "29E8 0DOWN-POINTING TRIANGLE WITH LEFT HALF BLACK;4RIGHT HALF BLACK",
  "29EA 0BLACK DIAMOND WITH DOWN ARROW;1LOZENGE;0WHITE CIRCLE WITH DOWN ARROW",
  "29ED 0BLACK CIRCLE WITH DOWN ARROW;0ERROR-BARRED WHITE SQUARE;2BLACK SQUARE;2WHITE DIAMOND",
  "29F1 2BLACK DIAMOND;2WHITE CIRCLE;2BLACK CIRCLE;0RULE-DELAYED;0REVERSE SOLIDUS OPERATOR",
  "29F6 0SOLIDUS WITH OVERBAR;0REVERSE SOLIDUS WITH HORIZONTAL STROKE;0BIG SOLIDUS",
  "29F9 1REVERSE SOLIDUS;0DOUBLE PLUS;0TRIPLE PLUS;0LEFT-POINTING CURVED ANGLE BRACKET",
  "29FD 0RIGHT-POINTING CURVED ANGLE BRACKET;0TINY;0MINY;0N-ARY CIRCLED DOT OPERATOR",
  "2A01 3PLUS OPERATOR;3TIMES OPERATOR;2UNION OPERATOR WITH DOT;5PLUS",
  "2A05 2SQUARE INTERSECTION OPERATOR;3UNION OPERATOR;0TWO LOGICAL AND OPERATOR;2OR OPERATOR",
  "2A09 0N-ARY TIMES OPERATOR;0MODULO TWO SUM;0SUMMATION WITH INTEGRAL",
  "2A0C 0QUADRUPLE INTEGRAL OPERATOR;0FINITE PART INTEGRAL;0INTEGRAL WITH DOUBLE STROKE",
  "2A0F 1AVERAGE WITH SLASH;0CIRCULATION FUNCTION;0ANTICLOCKWISE INTEGRATION",
  "2A12 0LINE INTEGRATION WITH RECTANGULAR PATH AROUND POLE;3SEMICIRCULAR PATH AROUND POLE",
  "2A14 2NOT INCLUDING THE POLE;0INTEGRAL AROUND A POINT OPERATOR;0QUATERNION INTEGRAL OPERATOR",
  "2A17 0INTEGRAL WITH LEFTWARDS ARROW WITH HOOK;2TIMES SIGN;2INTERSECTION;2UNION;2OVERBAR",
  "2A1C 2UNDERBAR;0JOIN;0LARGE LEFT TRIANGLE OPERATOR;0Z NOTATION SCHEMA COMPOSITION;3PIPING",
  "2A21 3PROJECTION;0PLUS SIGN WITH SMALL CIRCLE ABOVE;3CIRCUMFLEX ACCENT ABOVE;3TILDE ABOVE",
  "2A25 3DOT BELOW;3TILDE BELOW;3SUBSCRIPT TWO;3BLACK TRIANGLE;0MINUS SIGN WITH COMMA ABOVE",
  "2A2A 3DOT BELOW;3FALLING DOTS;3RISING DOTS;0PLUS SIGN IN LEFT HALF CIRCLE;3RIGHT HALF CIRCLE",
  "2A2F 0VECTOR OR CROSS PRODUCT;0MULTIPLICATION SIGN WITH DOT ABOVE;3UNDERBAR",
  "2A32 0SEMIDIRECT PRODUCT WITH BOTTOM CLOSED;0SMASH PRODUCT",
  "2A34 0MULTIPLICATION SIGN IN LEFT HALF CIRCLE;3RIGHT HALF CIRCLE",
  "2A36 0CIRCLED MULTIPLICATION SIGN WITH CIRCUMFLEX ACCENT;0MULTIPLICATION SIGN IN DOUBLE CIRCLE",
  "2A38 0CIRCLED DIVISION SIGN;0PLUS SIGN IN TRIANGLE;0MINUS SIGN IN TRIANGLE",
  "2A3B 0MULTIPLICATION SIGN IN TRIANGLE;0INTERIOR PRODUCT;0RIGHTHAND INTERIOR PRODUCT",
  "2A3E 0Z NOTATION RELATIONAL COMPOSITION;0AMALGAMATION OR COPRODUCT;0INTERSECTION WITH DOT",
  "2A41 0UNION WITH MINUS SIGN;2OVERBAR;0INTERSECTION WITH OVERBAR;2LOGICAL AND",
  "2A45 0UNION WITH LOGICAL OR;1ABOVE INTERSECTION;0INTERSECTION ABOVE UNION",
  "2A48 0UNION ABOVE BAR ABOVE INTERSECTION;0INTERSECTION ABOVE BAR ABOVE UNION",
  "2A4A 0UNION BESIDE AND JOINED WITH UNION;0INTERSECTION BESIDE AND JOINED WITH INTERSECTION",
  "2A4C 0CLOSED UNION WITH SERIFS;1INTERSECTION WITH SERIFS;0DOUBLE SQUARE INTERSECTION;2UNION",
  "2A50 0CLOSED UNION WITH SERIFS AND SMASH PRODUCT;0LOGICAL AND WITH DOT ABOVE;1OR WITH DOT ABOVE",
  "2A53 0DOUBLE LOGICAL AND;2OR;0TWO INTERSECTING LOGICAL AND;3OR;0SLOPING LARGE OR;2AND",
  "2A59 0LOGICAL OR OVERLAPPING LOGICAL AND;1AND WITH MIDDLE STEM;1OR WITH MIDDLE STEM",
  "2A5C 1AND WITH HORIZONTAL DASH;1OR WITH HORIZONTAL DASH;1AND WITH DOUBLE OVERBAR;3UNDERBAR",
  "2A60 3DOUBLE UNDERBAR;0SMALL VEE WITH UNDERBAR;0LOGICAL OR WITH DOUBLE OVERBAR;4UNDERBAR",
  "2A64 0Z NOTATION DOMAIN ANTIRESTRICTION;2RANGE ANTIRESTRICTION;0EQUALS SIGN WITH DOT BELOW",
  "2A67 0IDENTICAL WITH DOT ABOVE;0TRIPLE HORIZONTAL BAR WITH DOUBLE VERTICAL STROKE",
  "2A69 4TRIPLE VERTICAL STROKE;0TILDE OPERATOR WITH DOT ABOVE;3RISING DOTS;0SIMILAR MINUS SIMILAR",
  "2A6D 0CONGRUENT WITH DOT ABOVE;0EQUALS WITH ASTERISK;0ALMOST EQUAL TO WITH CIRCUMFLEX ACCENT",
  "2A70 0APPROXIMATELY EQUAL OR EQUAL TO;0EQUALS SIGN ABOVE PLUS SIGN;0PLUS SIGN ABOVE EQUALS SIGN",
  "2A73 0EQUALS SIGN ABOVE TILDE OPERATOR;0DOUBLE COLON EQUAL;0TWO CONSECUTIVE EQUALS SIGNS",
  "2A76 0THREE CONSECUTIVE EQUALS SIGNS;0EQUALS SIGN WITH TWO DOTS ABOVE AND TWO DOTS BELOW",
  "2A78 0EQUIVALENT WITH FOUR DOTS ABOVE;0LESS-THAN WITH CIRCLE INSIDE",
  "2A7A 0GREATER-THAN WITH CIRCLE INSIDE;0LESS-THAN WITH QUESTION MARK ABOVE",
  "2A7C 0GREATER-THAN WITH QUESTION MARK ABOVE;0LESS-THAN OR SLANTED EQUAL TO",
  "2A7E 0GREATER-THAN OR SLANTED EQUAL TO;0LESS-THAN OR SLANTED EQUAL TO WITH DOT INSIDE",
  "2A80 0GREATER-THAN OR SLANTED EQUAL TO WITH DOT INSIDE",
  "2A81 0LESS-THAN OR SLANTED EQUAL TO WITH DOT ABOVE",
  "2A82 0GREATER-THAN OR SLANTED EQUAL TO WITH DOT ABOVE",
  "2A83 0LESS-THAN OR SLANTED EQUAL TO WITH DOT ABOVE RIGHT",
  "2A84 0GREATER-THAN OR SLANTED EQUAL TO WITH DOT ABOVE LEFT;0LESS-THAN OR APPROXIMATE",
  "2A86 0GREATER-THAN OR APPROXIMATE;0LESS-THAN AND SINGLE-LINE NOT EQUAL TO",
  "2A88 0GREATER-THAN AND SINGLE-LINE NOT EQUAL TO;0LESS-THAN AND NOT APPROXIMATE",
  "2A8A 0GREATER-THAN AND NOT APPROXIMATE;0LESS-THAN ABOVE DOUBLE-LINE EQUAL ABOVE GREATER-THAN",
  "2A8C 0GREATER-THAN ABOVE DOUBLE-LINE EQUAL ABOVE LESS-THAN;0LESS-THAN ABOVE SIMILAR OR EQUAL",
  "2A8E 0GREATER-THAN ABOVE SIMILAR OR EQUAL;0LESS-THAN ABOVE SIMILAR ABOVE GREATER-THAN",
  "2A90 0GREATER-THAN ABOVE SIMILAR ABOVE LESS-THAN",
  "2A91 0LESS-THAN ABOVE GREATER-THAN ABOVE DOUBLE-LINE EQUAL",
  "2A92 0GREATER-THAN ABOVE LESS-THAN ABOVE DOUBLE-LINE EQUAL",
  "2A93 0LESS-THAN ABOVE SLANTED EQUAL ABOVE GREATER-THAN ABOVE SLANTED EQUAL",
  "2A94 0GREATER-THAN ABOVE SLANTED EQUAL ABOVE LESS-THAN ABOVE SLANTED EQUAL",
  "2A95 0SLANTED EQUAL TO OR LESS-THAN;4GREATER-THAN;4LESS-THAN WITH DOT INSIDE",
  "2A98 4GREATER-THAN WITH DOT INSIDE;0DOUBLE-LINE EQUAL TO OR LESS-THAN;5GREATER-THAN",
  "2A9B 2SLANTED EQUAL TO OR LESS-THAN;6GREATER-THAN;0SIMILAR OR LESS-THAN;2GREATER-THAN",
  "2A9F 1ABOVE LESS-THAN ABOVE EQUALS SIGN;2GREATER-THAN ABOVE EQUALS SIGN",
  "2AA1 0DOUBLE NESTED LESS-THAN;2GREATER-THAN;2LESS-THAN WITH UNDERBAR",
  "2AA4 0GREATER-THAN OVERLAPPING LESS-THAN;2BESIDE LESS-THAN;0LESS-THAN CLOSED BY CURVE",
  "2AA7 0GREATER-THAN CLOSED BY CURVE;0LESS-THAN CLOSED BY CURVE ABOVE SLANTED EQUAL",
  "2AA9 0GREATER-THAN CLOSED BY CURVE ABOVE SLANTED EQUAL;0SMALLER THAN;0LARGER THAN",
  "2AAC 0SMALLER THAN OR EQUAL TO;0LARGER THAN OR EQUAL TO;0EQUALS SIGN WITH BUMPY ABOVE",
  "2AAF 0PRECEDES ABOVE SINGLE-LINE EQUALS SIGN;0SUCCEEDS ABOVE SINGLE-LINE EQUALS SIGN",
  "2AB1 0PRECEDES ABOVE SINGLE-LINE NOT EQUAL TO;0SUCCEEDS ABOVE SINGLE-LINE NOT EQUAL TO",
  "2AB3 0PRECEDES ABOVE EQUALS SIGN;0SUCCEEDS ABOVE EQUALS SIGN;0PRECEDES ABOVE NOT EQUAL TO",
  "2AB6 0SUCCEEDS ABOVE NOT EQUAL TO;0PRECEDES ABOVE ALMOST EQUAL TO",
  "2AB8 0SUCCEEDS ABOVE ALMOST EQUAL TO;0PRECEDES ABOVE NOT ALMOST EQUAL TO",
  "2ABA 0SUCCEEDS ABOVE NOT ALMOST EQUAL TO;0DOUBLE PRECEDES;1SUCCEEDS;0SUBSET WITH DOT",
  "2ABE 0SUPERSET WITH DOT;0SUBSET WITH PLUS SIGN BELOW;0SUPERSET WITH PLUS SIGN BELOW",
  "2AC1 0SUBSET WITH MULTIPLICATION SIGN BELOW;0SUPERSET WITH MULTIPLICATION SIGN BELOW",
  "2AC3 0SUBSET OF OR EQUAL TO WITH DOT ABOVE;0SUPERSET OF OR EQUAL TO WITH DOT ABOVE",
  "2AC5 0SUBSET OF ABOVE EQUALS SIGN;0SUPERSET OF ABOVE EQUALS SIGN",
  "2AC7 0SUBSET OF ABOVE TILDE OPERATOR;0SUPERSET OF ABOVE TILDE OPERATOR",
  "2AC9 0SUBSET OF ABOVE ALMOST EQUAL TO;0SUPERSET OF ABOVE ALMOST EQUAL TO",
  "2ACB 0SUBSET OF ABOVE NOT EQUAL TO;0SUPERSET OF ABOVE NOT EQUAL TO",
  "2ACD 0SQUARE LEFT OPEN BOX OPERATOR;1RIGHT OPEN BOX OPERATOR;0CLOSED SUBSET;1SUPERSET",
  "2AD1 1SUBSET OR EQUAL TO;1SUPERSET OR EQUAL TO;0SUBSET ABOVE SUPERSET;0SUPERSET ABOVE SUBSET",
  "2AD5 0SUBSET ABOVE SUBSET;0SUPERSET ABOVE SUPERSET;1BESIDE SUBSET",
  "2AD8 2AND JOINED BY DASH WITH SUBSET;0ELEMENT OF OPENING DOWNWARDS;0PITCHFORK WITH TEE TOP",
  "2ADB 0TRANSVERSAL INTERSECTION;0FORKING;0NONFORKING;0SHORT LEFT TACK;1DOWN TACK;1UP TACK",
  "2AE1 0PERPENDICULAR WITH S;0VERTICAL BAR TRIPLE RIGHT TURNSTILE",
  "2AE3 0DOUBLE VERTICAL BAR LEFT TURNSTILE;0VERTICAL BAR DOUBLE LEFT TURNSTILE",
  "2AE5 0DOUBLE VERTICAL BAR DOUBLE LEFT TURNSTILE;0LONG DASH FROM LEFT MEMBER OF DOUBLE VERTICAL",
  "2AE7 0SHORT DOWN TACK WITH OVERBAR;1UP TACK WITH UNDERBAR;3ABOVE SHORT DOWN TACK",
  "2AEA 0DOUBLE DOWN TACK;1UP TACK;1STROKE NOT SIGN;0REVERSED DOUBLE STROKE NOT SIGN",
  "2AEE 0DOES NOT DIVIDE WITH REVERSED NEGATION SLASH;0VERTICAL LINE WITH CIRCLE ABOVE;4BELOW",
  "2AF1 0DOWN TACK WITH CIRCLE BELOW;0PARALLEL WITH HORIZONTAL STROKE;2TILDE OPERATOR",
  "2AF4 0TRIPLE VERTICAL BAR BINARY RELATION;3WITH HORIZONTAL STROKE;1COLON OPERATOR",
  "2AF7 1NESTED LESS-THAN;2GREATER-THAN;0DOUBLE-LINE SLANTED LESS-THAN OR EQUAL TO",
  "2AFA 3GREATER-THAN OR EQUAL TO;0TRIPLE SOLIDUS BINARY RELATION",
  "2AFC 0LARGE TRIPLE VERTICAL BAR OPERATOR;0DOUBLE SOLIDUS OPERATOR;0WHITE VERTICAL BAR",
  "2AFF 0N-ARY WHITE VERTICAL BAR;0NORTH EAST WHITE ARROW;1WEST WHITE ARROW",
  "2B02 0SOUTH EAST WHITE ARROW;1WEST WHITE ARROW;0LEFT RIGHT WHITE ARROW;0LEFTWARDS BLACK ARROW",
  "2B06 0UPWARDS BLACK ARROW;0DOWNWARDS BLACK ARROW;0NORTH EAST BLACK ARROW;1WEST BLACK ARROW",
  "2B0A 0SOUTH EAST BLACK ARROW;1WEST BLACK ARROW;0LEFT RIGHT BLACK ARROW;0UP DOWN BLACK ARROW",
  "2B0E 0RIGHTWARDS ARROW WITH TIP DOWNWARDS;4UPWARDS;0LEFTWARDS ARROW WITH TIP DOWNWARDS;4UPWARDS",
  "2B12 0SQUARE WITH TOP HALF BLACK;2BOTTOM HALF BLACK;2UPPER RIGHT DIAGONAL HALF BLACK",
  "2B15 2LOWER LEFT DIAGONAL HALF BLACK;0DIAMOND WITH LEFT HALF BLACK;2RIGHT HALF BLACK",
  "2B18 2TOP HALF BLACK;2BOTTOM HALF BLACK;0DOTTED SQUARE;0BLACK LARGE SQUARE;0WHITE LARGE SQUARE",
  "2B1D 0BLACK VERY SMALL SQUARE;0WHITE VERY SMALL SQUARE;0BLACK PENTAGON;0WHITE PENTAGON;1HEXAGON",
  "2B22 0BLACK HEXAGON;0HORIZONTAL BLACK HEXAGON;0BLACK LARGE CIRCLE;1MEDIUM DIAMOND",
  "2B26 0WHITE MEDIUM DIAMOND;0BLACK MEDIUM LOZENGE;0WHITE MEDIUM LOZENGE;0BLACK SMALL DIAMOND",
  "2B2A 2LOZENGE;0WHITE SMALL LOZENGE;0BLACK HORIZONTAL ELLIPSE;0WHITE HORIZONTAL ELLIPSE",
  "2B2E 0BLACK VERTICAL ELLIPSE;0WHITE VERTICAL ELLIPSE;0LEFT ARROW WITH SMALL CIRCLE",
  "2B31 0THREE LEFTWARDS ARROWS;0LEFT ARROW WITH CIRCLED PLUS;0LONG LEFTWARDS SQUIGGLE ARROW",
  "2B34 0LEFTWARDS TWO-HEADED ARROW WITH VERTICAL STROKE;5DOUBLE VERTICAL STROKE;4FROM BAR",
  "2B37 3TRIPLE DASH ARROW;1ARROW WITH DOTTED STEM;3TAIL WITH VERTICAL STROKE",
  "2B3A 5DOUBLE VERTICAL STROKE;1TWO-HEADED ARROW WITH TAIL;5TAIL WITH VERTICAL STROKE",
  "2B3D 7DOUBLE VERTICAL STROKE;1ARROW THROUGH X;0WAVE ARROW POINTING DIRECTLY LEFT",
  "2B40 0EQUALS SIGN ABOVE LEFTWARDS ARROW;0REVERSE TILDE OPERATOR ABOVE LEFTWARDS ARROW",
  "2B42 0LEFTWARDS ARROW ABOVE REVERSE ALMOST EQUAL TO;0RIGHTWARDS ARROW THROUGH GREATER-THAN",
  "2B44 3SUPERSET;0LEFTWARDS QUADRUPLE ARROW;0RIGHTWARDS QUADRUPLE ARROW",
  "2B47 0REVERSE TILDE OPERATOR ABOVE RIGHTWARDS ARROW",
  "2B48 0RIGHTWARDS ARROW ABOVE REVERSE ALMOST EQUAL TO;0TILDE OPERATOR ABOVE LEFTWARDS ARROW",
  "2B4A 0LEFTWARDS ARROW ABOVE ALMOST EQUAL TO;3REVERSE TILDE OPERATOR",
  "2B4C 0RIGHTWARDS ARROW ABOVE REVERSE TILDE OPERATOR;0DOWNWARDS TRIANGLE-HEADED ZIGZAG ARROW",
  "2B4E 0SHORT SLANTED NORTH ARROW;1BACKSLANTED SOUTH ARROW;0WHITE MEDIUM STAR;0BLACK SMALL STAR",
  "2B52 0WHITE SMALL STAR;0BLACK RIGHT-POINTING PENTAGON;0WHITE RIGHT-POINTING PENTAGON",
  "2B55 0HEAVY LARGE CIRCLE;1OVAL WITH OVAL INSIDE;1CIRCLE WITH CIRCLE INSIDE;1CIRCLE",
  "2B59 1CIRCLED SALTIRE;0SLANTED NORTH ARROW WITH HOOKED HEAD",
  "2B5B 0BACKSLANTED SOUTH ARROW WITH HOOKED TAIL;0SLANTED NORTH ARROW WITH HORIZONTAL TAIL",
  "2B5D 0BACKSLANTED SOUTH ARROW WITH HORIZONTAL TAIL",
  "2B5E 0BENT ARROW POINTING DOWNWARDS THEN NORTH EAST",
  "2B5F 0SHORT BENT ARROW POINTING DOWNWARDS THEN NORTH EAST;0LEFTWARDS TRIANGLE-HEADED ARROW",
  "2B61 0UPWARDS TRIANGLE-HEADED ARROW;0RIGHTWARDS TRIANGLE-HEADED ARROW",
  "2B63 0DOWNWARDS TRIANGLE-HEADED ARROW;0LEFT RIGHT TRIANGLE-HEADED ARROW",
  "2B65 0UP DOWN TRIANGLE-HEADED ARROW;0NORTH WEST TRIANGLE-HEADED ARROW",
  "2B67 1EAST TRIANGLE-HEADED ARROW;0SOUTH EAST TRIANGLE-HEADED ARROW;1WEST TRIANGLE-HEADED ARROW",
  "2B6A 0LEFTWARDS TRIANGLE-HEADED DASHED ARROW;0UPWARDS TRIANGLE-HEADED DASHED ARROW",
  "2B6C 0RIGHTWARDS TRIANGLE-HEADED DASHED ARROW;0DOWNWARDS TRIANGLE-HEADED DASHED ARROW",
  "2B6E 0CLOCKWISE TRIANGLE-HEADED OPEN CIRCLE ARROW",
  "2B6F 0ANTICLOCKWISE TRIANGLE-HEADED OPEN CIRCLE ARROW;0LEFTWARDS TRIANGLE-HEADED ARROW TO BAR",
  "2B71 0UPWARDS TRIANGLE-HEADED ARROW TO BAR;0RIGHTWARDS TRIANGLE-HEADED ARROW TO BAR",
  "2B73 0DOWNWARDS TRIANGLE-HEADED ARROW TO BAR",
  "2B76 0NORTH WEST TRIANGLE-HEADED ARROW TO BAR;1EAST TRIANGLE-HEADED ARROW TO BAR",
  "2B78 0SOUTH EAST TRIANGLE-HEADED ARROW TO BAR;1WEST TRIANGLE-HEADED ARROW TO BAR",
  "2B7A 0LEFTWARDS TRIANGLE-HEADED ARROW WITH DOUBLE HORIZONTAL STROKE",
  "2B7B 0UPWARDS TRIANGLE-HEADED ARROW WITH DOUBLE HORIZONTAL STROKE",
  "2B7C 0RIGHTWARDS TRIANGLE-HEADED ARROW WITH DOUBLE HORIZONTAL STROKE",
  "2B7D 0DOWNWARDS TRIANGLE-HEADED ARROW WITH DOUBLE HORIZONTAL STROKE;0HORIZONTAL TAB KEY",
  "2B7F 0VERTICAL TAB KEY;0LEFTWARDS TRIANGLE-HEADED ARROW OVER RIGHTWARDS TRIANGLE-HEADED ARROW",
  "2B81 0UPWARDS TRIANGLE-HEADED ARROW LEFTWARDS OF DOWNWARDS TRIANGLE-HEADED ARROW",
  "2B82 0RIGHTWARDS TRIANGLE-HEADED ARROW OVER LEFTWARDS TRIANGLE-HEADED ARROW",
  "2B83 0DOWNWARDS TRIANGLE-HEADED ARROW LEFTWARDS OF UPWARDS TRIANGLE-HEADED ARROW",
  "2B84 0LEFTWARDS TRIANGLE-HEADED PAIRED ARROWS;0UPWARDS TRIANGLE-HEADED PAIRED ARROWS",
  "2B86 0RIGHTWARDS TRIANGLE-HEADED PAIRED ARROWS;0DOWNWARDS TRIANGLE-HEADED PAIRED ARROWS",
  "2B88 0LEFTWARDS BLACK CIRCLED WHITE ARROW;0UPWARDS BLACK CIRCLED WHITE ARROW",
  "2B8A 0RIGHTWARDS BLACK CIRCLED WHITE ARROW;0DOWNWARDS BLACK CIRCLED WHITE ARROW",
  "2B8C 0ANTICLOCKWISE TRIANGLE-HEADED RIGHT U-SHAPED ARROW;3BOTTOM U-SHAPED ARROW",
  "2B8E 3LEFT U-SHAPED ARROW;3TOP U-SHAPED ARROW;0RETURN LEFT;1RIGHT;0NEWLINE LEFT;1RIGHT",
  "2B94 0FOUR CORNER ARROWS CIRCLING ANTICLOCKWISE;0RIGHTWARDS BLACK ARROW",
  "2B97 0SYMBOL FOR TYPE A ELECTRONICS;0THREE-D TOP-LIGHTED LEFTWARDS EQUILATERAL ARROWHEAD",
  "2B99 2RIGHT-LIGHTED UPWARDS EQUILATERAL ARROWHEAD;2TOP-LIGHTED RIGHTWARDS EQUILATERAL ARROWHEAD",
  "2B9B 2LEFT-LIGHTED DOWNWARDS EQUILATERAL ARROWHEAD;0BLACK LEFTWARDS EQUILATERAL ARROWHEAD",
  "2B9D 1UPWARDS EQUILATERAL ARROWHEAD;1RIGHTWARDS EQUILATERAL ARROWHEAD",
  "2B9F 1DOWNWARDS EQUILATERAL ARROWHEAD;0DOWNWARDS TRIANGLE-HEADED ARROW WITH LONG TIP LEFTWARDS",
  "2BA1 7RIGHTWARDS;0UPWARDS TRIANGLE-HEADED ARROW WITH LONG TIP LEFTWARDS;7RIGHTWARDS",
  "2BA4 0LEFTWARDS TRIANGLE-HEADED ARROW WITH LONG TIP UPWARDS",
  "2BA5 0RIGHTWARDS TRIANGLE-HEADED ARROW WITH LONG TIP UPWARDS",
  "2BA6 0LEFTWARDS TRIANGLE-HEADED ARROW WITH LONG TIP DOWNWARDS",
  "2BA7 0RIGHTWARDS TRIANGLE-HEADED ARROW WITH LONG TIP DOWNWARDS",
  "2BA8 0BLACK CURVED DOWNWARDS AND LEFTWARDS ARROW;4RIGHTWARDS ARROW;2UPWARDS AND LEFTWARDS ARROW",
  "2BAB 4RIGHTWARDS ARROW;2LEFTWARDS AND UPWARDS ARROW;2RIGHTWARDS AND UPWARDS ARROW",
  "2BAE 2LEFTWARDS AND DOWNWARDS ARROW;2RIGHTWARDS AND DOWNWARDS ARROW;0RIBBON ARROW DOWN LEFT",
  "2BB1 3RIGHT;2UP LEFT;3RIGHT;2LEFT UP;2RIGHT UP;2LEFT DOWN;2RIGHT DOWN",
  "2BB8 0UPWARDS WHITE ARROW FROM BAR WITH HORIZONTAL BAR;0UP ARROWHEAD IN A RECTANGLE BOX",
  "2BBA 0OVERLAPPING WHITE SQUARES;2AND BLACK SQUARES;1BLACK SQUARES;0BALLOT BOX WITH LIGHT X",
  "2BBE 0CIRCLED X;1BOLD X;0BLACK SQUARE CENTRED;1DIAMOND CENTRED;0TURNED BLACK PENTAGON",
  "2BC3 0HORIZONTAL BLACK OCTAGON;0BLACK OCTAGON;1MEDIUM UP-POINTING TRIANGLE CENTRED",
  "2BC6 2DOWN-POINTING TRIANGLE CENTRED;2LEFT-POINTING TRIANGLE CENTRED",
  "2BC8 2RIGHT-POINTING TRIANGLE CENTRED;0NEPTUNE FORM TWO;0TOP HALF BLACK CIRCLE",
  "2BCB 0BOTTOM HALF BLACK CIRCLE;0LIGHT FOUR POINTED BLACK CUSP",
  "2BCD 0ROTATED LIGHT FOUR POINTED BLACK CUSP;0WHITE FOUR POINTED CUSP",
  "2BCF 0ROTATED WHITE FOUR POINTED CUSP;0SQUARE POSITION INDICATOR;0UNCERTAINTY SIGN;0GROUP MARK",
  "2BD3 0PLUTO FORM TWO;2THREE;2FOUR;2FIVE;0TRANSPLUTO;0PROSERPINA;0ASTRAEA;0HYGIEA;0PHOLUS",
  "2BDC 0NESSUS;0WHITE MOON SELENA;0BLACK DIAMOND ON CROSS;0TRUE LIGHT MOON ARTA;0CUPIDO;0HADES",
  "2BE2 0ZEUS;0KRONOS;0APOLLON;0ADMETOS;0VULCANUS;0POSEIDON;0LEFT HALF BLACK STAR",
  "2BE9 0RIGHT HALF BLACK STAR;0STAR WITH LEFT HALF BLACK;2RIGHT HALF BLACK",
  "2BEC 0LEFTWARDS TWO-HEADED ARROW WITH TRIANGLE ARROWHEADS",
  "2BED 0UPWARDS TWO-HEADED ARROW WITH TRIANGLE ARROWHEADS",
  "2BEE 0RIGHTWARDS TWO-HEADED ARROW WITH TRIANGLE ARROWHEADS",
  "2BEF 0DOWNWARDS TWO-HEADED ARROW WITH TRIANGLE ARROWHEADS;0ERIS FORM ONE;2TWO;0SEDNA",
  "2BF3 0RUSSIAN ASTROLOGICAL SYMBOL VIGINTILE;3NOVILE;3QUINTILE;3BINOVILE;3SENTAGON;3TREDECILE",
  "2BF9 0EQUALS SIGN WITH INFINITY BELOW;0UNITED SYMBOL;0SEPARATED SYMBOL;0DOUBLED SYMBOL",
  "2BFD 0PASSED SYMBOL;0REVERSED RIGHT ANGLE;0HELLSCHREIBER PAUSE SYMBOL"]

end FormCheck.Text.CharacterName
