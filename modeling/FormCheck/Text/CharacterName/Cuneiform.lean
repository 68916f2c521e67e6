/-! # Cuneiform and hieroglyphs

The names of cuneiform, hieroglyphs and other large scripts, in code order.
-/

namespace FormCheck.Text.CharacterName

def cuneiform : List String := [
  "12000 0CUNEIFORM SIGN A;2A TIMES A;4BAD;4GAN2 TENU;4HA;4IGI;4LAGAR GUNU;4MUSH;4SAG;2A2;2AB",
  "1200B 2AB TIMES ASH2;4DUN3 GUNU;4GAL;4GAN2 TENU;4HA;4IGI GUNU;4IMIN;4LAGAB;4SHESH",
  "12014 4U PLUS U PLUS U;3GUNU;2AB2;2AB2 TIMES BALAG;4GAN2 TENU;4ME PLUS EN;4SHA3;4TAK4;2AD;2AK",
  "1201E 2AK TIMES ERIN2;4SHITA PLUS GISH;2AL;2AL TIMES AL;4DIM2;4GISH;4HA;4KAD3;4KI;4SHE;4USH",
  "12029 2ALAN;2ALEPH;2AMAR;2AMAR TIMES SHE;2AN;2AN OVER AN;3THREE TIMES",
  "12030 3PLUS NAGA OPPOSING AN PLUS NAGA;5SQUARED;2ANSHE;2APIN;2ARAD;2ARAD TIMES KUR;2ARKAB",
  "12037 2ASAL2;2ASH;2ASH ZIDA TENU;3KABA TENU;3OVER ASH TUG2 OVER TUG2 TUG2 OVER TUG2 PAP",
  "1203C 5OVER ASH;6ASH CROSSING ASH OVER ASH OVER ASH;2ASH2;2ASHGAB;2BA;2BAD;2BAG3;2BAHAR2;2BAL",
  "12045 2BAL OVER BAL;2BALAG;2BAR;2BARA2;2BI;2BI TIMES A;4GAR;4IGI GUNU;2BU;2BU OVER BU AB;5UN",
  "12050 3CROSSING BU;2BULUG;2BULUG OVER BULUG;2BUR;2BUR2;2DA;2DAG;2DAG KISIM5 TIMES A PLUS MASH",
  "12058 5AMAR;5BALAG;5BI;5GA;5GA PLUS MASH;5GI;5GIR2;5GUD;5HA;5IR;5IR PLUS LU;5KAK;5LA;5LU",
  "12066 5LU PLUS MASH2;5LUM;5NE;5PAP PLUS PAP;5SI;5TAK4;5U2 PLUS GIR2;5USH;2DAM;2DAR;2DARA3",
  "12071 2DARA4;2DI;2DIB;2DIM;2DIM TIMES SHE;2DIM2;2DIN;2DIN KASKAL U GUNU DISH;2DISH;2DU",
  "1207B 2DU OVER DU;3GUNU;3SHESHIG;2DUB;2DUB TIMES ESH2;2DUB2;2DUG;2DUGUD;2DUH;2DUN;2DUN3",
  "12086 2DUN3 GUNU;3GUNU GUNU;2DUN4;2DUR2;2E;2E TIMES PAP;3OVER E NUN OVER NUN;2E2",
  "1208E 2E2 TIMES A PLUS HA PLUS DA;4GAR;4MI;4SAL;4SHE;4U;2EDIN;2EGIR;2EL;2EN;2EN TIMES GAN2",
  "12099 4GAN2 TENU;4ME;3CROSSING EN;3OPPOSING EN;3SQUARED;2EREN;2ERIN2;2ESH2;2EZEN;2EZEN TIMES A",
  "120A3 4A PLUS LAL;6LAL TIMES LAL;4AN;4BAD;4DUN3 GUNU;5GUNU GUNU;4HA;4HA GUNU;4IGI GUNU;4KASKAL",
  "120AD 4KASKAL SQUARED;4KU3;4LA;4LAL TIMES LAL;4LI;4LU;4U2;4UD;2GA;2GA GUNU;2GA2",
  "120B8 2GA2 TIMES A PLUS DA PLUS HA;6HA;6IGI;4AB2 TENU PLUS TAB;4AN;4ASH;4ASH2 PLUS GAL;4BAD",
  "120C0 4BAR PLUS RA;4BUR;4BUR PLUS RA;4DA;4DI;4DIM TIMES SHE;4DUB;4EL;4EL PLUS LA;4EN",
  "120CA 4EN TIMES GAN2 TENU;4GAN2 TENU;4GAR;4GI;4GI4;4GI4 PLUS A;4GIR2 PLUS SU",
  "120D1 4HA PLUS LU PLUS ESH2;4HAL;4HAL PLUS LA;4HI PLUS LI;4HUB2;4IGI GUNU;4ISH PLUS HU PLUS ASH",
  "120D8 4KAK;4KASKAL;4KID;4KID PLUS LAL;4KU3 PLUS AN;4LA;4ME PLUS EN;4MI;4NUN;4NUN OVER NUN;4PA",
  "120E3 4SAL;4SAR;4SHE;4SHE PLUS TUR;4SHID;4SUM;4TAK4;4U;4UD;4UD PLUS DU;3OVER GA2;2GABA",
  "120EF 2GABA CROSSING GABA;2GAD;2GAD OVER GAD GAR OVER GAR;2GAL;2GAL GAD OVER GAD GAR OVER GAR",
  "120F4 2GALAM;2GAM;2GAN;2GAN2;2GAN2 TENU;3OVER GAN2;3CROSSING GAN2;2GAR;2GAR3;2GASHAN;2GESHTIN",
  "120FF 2GESHTIN TIMES KUR;2GI;2GI TIMES E;4U;3CROSSING GI;2GI4;2GI4 OVER GI4;3CROSSING GI4",
  "12107 2GIDIM;2GIR2;2GIR2 GUNU;2GIR3;2GIR3 TIMES A PLUS IGI;4GAN2 TENU;4IGI;4LU PLUS IGI;4PA",
  "12110 2GISAL;2GISH;2GISH CROSSING GISH;3TIMES BAD;4TAK4;3TENU;2GU;2GU CROSSING GU;2GU2",
  "12119 2GU2 TIMES KAK;4KAK TIMES IGI GUNU;4NUN;4SAL PLUS TUG2;3GUNU;2GUD;2GUD TIMES A PLUS KUR",
  "12120 4KUR;3OVER GUD LUGAL;2GUL;2GUM;2GUM TIMES SHE;2GUR;2GUR7;2GURUN;2GURUSH;2HA;2HA TENU",
  "1212B 3GUNU;2HAL;2HI;2HI TIMES ASH;4ASH2;4BAD;4DISH;4GAD;4KIN;4NUN;4SHE;4U;2HU;2HUB2",
  "12139 2HUB2 TIMES AN;4HAL;4KASKAL;4LISH;4UD;2HUL2;2I;2I A;2IB;2IDIM;2IDIM OVER IDIM BUR",
  "12144 5SQUARED;2IG;2IGI;2IGI DIB;3RI;3OVER IGI SHIR OVER SHIR UD OVER UD;3GUNU;2IL",
  "1214C 2IL TIMES GAN2 TENU;2IL2;2IM;2IM TIMES TAK4;3CROSSING IM;3OPPOSING IM;3SQUARED;2IMIN;2IN",
  "12155 2IR;2ISH;2KA;2KA TIMES A;4AD;4AD PLUS KU3;4ASH2;4BAD;4BALAG;4BAR;4BI;4ERIN2;4ESH2;4GA",
  "12163 4GAL;4GAN2 TENU;4GAR;4GAR PLUS SHA3 PLUS A;4GI;4GIR2;4GISH PLUS SAR;5CROSSING GISH;4GU",
  "1216C 4GUR7;4IGI;4IM;4KAK;4KI;4KID;4LI;4LU;4ME;4ME PLUS DU;6GI;6TE;4MI;4MI PLUS NUNUZ;4NE;4NUN",
  "1217C 4PI;4RU;4SA;4SAR;4SHA;4SHE;4SHID;4SHU;4SIG;4SUHUR;4TAR;4U;4U2;4UD;4UMUM TIMES PA;4USH;4ZI",
  "1218D 2KA2;2KA2 CROSSING KA2;2KAB;2KAD2;2KAD3;2KAD4;2KAD5;2KAD5 OVER KAD5;2KAK",
  "12196 2KAK TIMES IGI GUNU;2KAL;2KAL TIMES BAD;3CROSSING KAL;2KAM2;2KAM4;2KASKAL",
  "1219D 2KASKAL LAGAB TIMES U OVER LAGAB TIMES U;3OVER KASKAL LAGAB TIMES U OVER LAGAB TIMES U",
  "1219F 2KESH2;2KI;2KI TIMES BAD;4U;4UD;2KID;2KIN;2KISAL;2KISH;2KISIM5;2KISIM5 OVER KISIM5;2KU",
  "121AB 2KU OVER HI TIMES ASH2 KU OVER HI TIMES ASH2;2KU3;2KU4;2KU4 VARIANT FORM;2KU7;2KUL",
  "121B1 2KUL GUNU;2KUN;2KUR;2KUR OPPOSING KUR;2KUSHU2;2KWU318;2LA;2LAGAB;2LAGAB TIMES A",
  "121BA 4A PLUS DA PLUS HA;6GAR;6LAL;4AL;4AN;4ASH ZIDA TENU;4BAD;4BI;4DAR;4EN;4GA;4GAR;4GUD",
  "121C7 4GUD PLUS GUD;4HA;4HAL;4HI TIMES NUN;4IGI GUNU;4IM;4IM PLUS HA;6LU;4KI;4KIN;4KU3;4KUL",
  "121D3 4KUL PLUS HI PLUS A;4LAGAB;4LISH;4LU;4LUL;4ME;4ME PLUS EN;4MUSH;4NE;4SHE PLUS SUM",
  "121DD 4SHITA PLUS GISH PLUS ERIN2;7TENU;4SHU2;4SHU2 PLUS SHU2;4SUM;4TAG;4TAK4",
  "121E4 4TE PLUS A PLUS SU PLUS NA;4U;4U PLUS A;6U PLUS U;4U2 PLUS ASH;4UD;4USH;3SQUARED;2LAGAR",
  "121ED 2LAGAR TIMES SHE;4SHE PLUS SUM;3GUNU;3GUNU OVER LAGAR GUNU SHE;2LAHSHU;2LAL",
  "121F3 2LAL TIMES LAL;2LAM;2LAM TIMES KUR;4KUR PLUS RU;2LI;2LIL;2LIMMU2;2LISH;2LU;2LU TIMES BAD",
  "121FD 2LU2;2LU2 TIMES AL;4BAD;4ESH2;4ESH2 TENU;4GAN2 TENU;4HI TIMES BAD;4IM;4KAD2;4KAD3",
  "12207 4KAD3 PLUS ASH;4KI;4LA PLUS ASH;4LAGAB;4ME PLUS EN;4NE;4NU;4SI PLUS ASH;4SIK2 PLUS BU",
  "12210 4TUG2;3TENU;3CROSSING LU2;3OPPOSING LU2;3SQUARED;3SHESHIG;2LU3;2LUGAL;2LUGAL OVER LUGAL",
  "12219 3OPPOSING LUGAL;3SHESHIG;2LUH;2LUL;2LUM;2LUM OVER LUM;4LUM GAR OVER GAR;2MA",
  "12221 2MA TIMES TAK4;3GUNU;2MA2;2MAH;2MAR;2MASH;2MASH2;2ME;2MES;2MI;2MIN;2MU;2MU OVER MU;2MUG",
  "1222F 2MUG GUNU;2MUNSUB;2MURGU2;2MUSH;2MUSH TIMES A;4KUR;4ZA;3OVER MUSH;4MUSH TIMES A PLUS NA",
  "12238 3CROSSING MUSH;2MUSH3;2MUSH3 TIMES A;4A PLUS DI;4DI;3GUNU;2NA;2NA2;2NAGA;2NAGA INVERTED",
  "12242 3TIMES SHU TENU;3OPPOSING NAGA;2NAGAR;2NAM NUTILLU;2NAM;2NAM2;2NE;2NE TIMES A;4UD",
  "1224B 3SHESHIG;2NI;2NI TIMES E;2NI2;2NIM;2NIM TIMES GAN2 TENU;4GAR PLUS GAN2 TENU;2NINDA2",
  "12253 2NINDA2 TIMES AN;4ASH;4ASH PLUS ASH;4GUD;4ME PLUS GAN2 TENU;4NE;4NUN;4SHE;4SHE PLUS A AN",
  "1225C 6ASH;6ASH PLUS ASH;4U2 PLUS ASH;4USH;2NISAG;2NU;2NU11;2NUN;2NUN LAGAR TIMES GAR;5MASH",
  "12266 5SAL;5SAL OVER NUN LAGAR TIMES SAL;5USH;3TENU;3OVER NUN;3CROSSING NUN",
  "1226C 4NUN LAGAR OVER LAGAR;2NUNUZ;2NUNUZ AB2 TIMES ASHGAB;5BI;5DUG;5GUD;5IGI GUNU;5KAD3;5LA",
  "12275 5NE;5SILA3;5U2;3KISIM5 TIMES BI;5BI U;2PA;2PAD;2PAN;2PAP;2PESH2;2PI;2PI TIMES A;4AB;4BI",
  "12283 4BU;4E;4I;4IB;4U;4U2;3CROSSING PI;2PIRIG;2PIRIG TIMES KAL;4UD;4ZA;3OPPOSING PIRIG;2RA",
  "12290 2RAB;2RI;2RU;2SA;2SAG NUTILLU;2SAG;2SAG TIMES A;4DU;4DUB;4HA;4KAK;4KUR;4LUM;4MI;4NUN;4SAL",
  "122A0 4SHID;4TAB;4U2;4UB;4UM;4UR;4USH;3OVER SAG;3GUNU;2SAL;2SAL LAGAB TIMES ASH2;2SANGA2;2SAR",
  "122AD 2SHA;2SHA3;2SHA3 TIMES A;4BAD;4GISH;4NE;4SHU2;4TUR;4U;4U PLUS A;2SHA6;2SHAB6;2SHAR2;2SHE",
  "122BB 2SHE HU;3OVER SHE GAD OVER GAD GAR OVER GAR;5TAB OVER TAB GAR OVER GAR;2SHEG9;2SHEN",
  "122C0 2SHESH;2SHESH2;2SHESHLAM;2SHID;2SHID TIMES A;4IM;2SHIM;2SHIM TIMES A;4BAL;4BULUG;4DIN",
  "122CB 4GAR;4IGI;4IGI GUNU;4KUSHU2;4LUL;4MUG;4SAL;2SHINIG;2SHIR;2SHIR TENU",
  "122D5 3OVER SHIR BUR OVER BUR;2SHITA;2SHU;2SHU OVER INVERTED SHU;2SHU2;2SHUBUR;2SI;2SI GUNU",
  "122DD 2SIG;2SIG4;2SIG4 OVER SIG4 SHU2;2SIK2;2SILA3;2SU;2SU OVER SU;2SUD;2SUD2;2SUHUR;2SUM",
  "122E8 2SUMASH;2SUR;2SUR9;2TA;2TA ASTERISK;3TIMES HI;4MI;3GUNU;2TAB",
  "122F1 2TAB OVER TAB NI OVER NI DISH OVER DISH;3SQUARED;2TAG;2TAG TIMES BI;4GUD;4SHE;4SHU;4TUG2",
  "122F9 4UD;2TAK4;2TAR;2TE;2TE GUNU;2TI;2TI TENU;2TIL;2TIR;2TIR TIMES TAK4;3OVER TIR",
  "12304 4TIR GAD OVER GAD GAR OVER GAR;2TU;2TUG2;2TUK;2TUM;2TUR;2TUR OVER TUR ZA OVER ZA;2U",
  "1230C 2U GUD;3U U;3OVER U PA OVER PA GAR OVER GAR;5SUR OVER SUR;5U REVERSED OVER U REVERSED;2U2",
  "12312 2UB;2UD;2UD KUSHU2;3TIMES BAD;4MI;4U PLUS U PLUS U;8U GUNU;3GUNU;3SHESHIG",
  "1231B 3SHESHIG TIMES BAD;2UDUG;2UM;2UM TIMES LAGAB;4ME PLUS DA;4SHA3;4U;2UMBIN;2UMUM",
  "12324 2UMUM TIMES KASKAL;4PA;2UN;2UN GUNU;2UR;2UR CROSSING UR;3SHESHIG;2UR2",
  "1232C 2UR2 TIMES A PLUS HA;6NA;4AL;4HA;4NUN;4U2;4U2 PLUS ASH;6BI;2UR4;2URI;2URI3;2URU",
  "12338 2URU TIMES A;4ASHGAB;4BAR;4DUN;4GA;4GAL;4GAN2 TENU;4GAR;4GU;4HA;4IGI;4IM;4ISH;4KI;4LUM",
  "12347 4MIN;4PA;4SHE;4SIG4;4TU;4U PLUS GUD;4UD;4URUDA;2URUDA;2URUDA TIMES U;2USH;2USH TIMES A",
  "12353 4KU;4KUR;4TAK4;2USHX;2USH2;2USHUMX;2UTUKI;2UZ3;2UZ3 TIMES KASKAL;2UZU;2ZA;2ZA TENU",
  "1235F 3SQUARED TIMES KUR;2ZAG;2ZAMX;2ZE2;2ZI;2ZI OVER ZI;2ZI3;2ZIB;2ZIB KABA TENU;2ZIG;2ZIZ2",
  "1236A 2ZU;2ZU5;2ZU5 TIMES A;2ZUBUR;2ZUM;2KAP ELAMITE;2AB TIMES NUN;2AB2 TIMES A;2AMAR TIMES KUG",
  "12373 2DAG KISIM5 TIMES U2 PLUS MASH;2DAG3;2DISH PLUS SHU;2DUB TIMES SHE;2EZEN TIMES GUD;4SHE",
  "12379 2GA2 TIMES AN PLUS KAK PLUS A;4ASH2;2GE22;2GIG;2HUSH;2KA TIMES ANSHE;4ASH3;4GISH;4GUD",
  "12382 4HI TIMES ASH2;4LUM;4PA;4SHUL;4TU;4UR2;2LAGAB TIMES GI;2LU2 SHESHIG TIMES BAD",
  "1238A 3TIMES ESH2 PLUS LAL;4SHU;2MESH;2MUSH3 TIMES ZA;2NA4;2NIN;2NIN9;2NINDA2 TIMES BAL;4GI",
  "12393 2NU11 ROTATED NINETY DEGREES;2PESH2 ASTERISK;2PIR2;2SAG TIMES IGI GUNU;2TI2;2UM TIMES ME",
  "12399 2U U",
  "12400 1NUMERIC SIGN TWO ASH;3THREE ASH;3FOUR ASH;3FIVE ASH;3SIX ASH;3SEVEN ASH;3EIGHT ASH",
  "12407 3NINE ASH;3THREE DISH;3FOUR DISH;3FIVE DISH;3SIX DISH;3SEVEN DISH;3EIGHT DISH;3NINE DISH",
  "1240F 3FOUR U;3FIVE U;3SIX U;3SEVEN U;3EIGHT U;3NINE U;3ONE GESH2;3TWO GESH2;3THREE GESH2",
  "12418 3FOUR GESH2;3FIVE GESH2;3SIX GESH2;3SEVEN GESH2;3EIGHT GESH2;3NINE GESH2;3ONE GESHU",
  "1241F 3TWO GESHU;3THREE GESHU;3FOUR GESHU;3FIVE GESHU;3TWO SHAR2;3THREE SHAR2",
  "12425 4SHAR2 VARIANT FORM;3FOUR SHAR2;3FIVE SHAR2;3SIX SHAR2;3SEVEN SHAR2;3EIGHT SHAR2",
  "1242B 3NINE SHAR2;3ONE SHARU;3TWO SHARU;3THREE SHARU;4SHARU VARIANT FORM;3FOUR SHARU",
  "12431 3FIVE SHARU;3SHAR2 TIMES GAL PLUS DISH;7MIN;3ONE BURU;3TWO BURU;3THREE BURU",
  "12437 4BURU VARIANT FORM;3FOUR BURU;3FIVE BURU;3THREE VARIANT FORM ESH16;6ESH21",
  "1243C 3FOUR VARIANT FORM LIMMU;6LIMMU4;6LIMMU A;7B;3SIX VARIANT FORM ASH9",
  "12441 3SEVEN VARIANT FORM IMIN3;6IMIN A;7B;3EIGHT VARIANT FORM USSU;6USSU3",
  "12446 3NINE VARIANT FORM ILIMMU;6ILIMMU3;6ILIMMU4;6ILIMMU A;3TWO ASH TENU;3THREE ASH TENU",
  "1244C 3FOUR ASH TENU;3FIVE ASH TENU;3SIX ASH TENU;3ONE BAN2;3TWO BAN2;3THREE BAN2;3FOUR BAN2",
  "12453 4BAN2 VARIANT FORM;3FIVE BAN2;4BAN2 VARIANT FORM;3NIGIDAMIN;3NIGIDAESH;3ONE ESHE3",
  "12459 3TWO ESHE3;3ONE THIRD DISH;3TWO THIRDS DISH;3FIVE SIXTHS DISH;3ONE THIRD VARIANT FORM A",
  "1245E 3TWO THIRDS VARIANT FORM A;3ONE EIGHTH ASH;4QUARTER ASH;3OLD ASSYRIAN ONE SIXTH;6QUARTER",
  "12463 3ONE QUARTER GUR;4HALF GUR;3ELAMITE ONE THIRD;4TWO THIRDS;4FORTY;4FIFTY",
  "12469 3FOUR U VARIANT FORM;3FIVE U VARIANT FORM;3SIX U VARIANT FORM;3SEVEN U VARIANT FORM",
  "1246D 3EIGHT U VARIANT FORM;3NINE U VARIANT FORM",
  "12470 1PUNCTUATION SIGN OLD ASSYRIAN WORD DIVIDER;3VERTICAL COLON;3DIAGONAL COLON;4TRICOLON",
  "12474 4QUADCOLON",
  "12480 1SIGN AB TIMES NUN TENU;4SHU2;2AD TIMES ESH2;2BAD TIMES DISH TENU;2BAHAR2 TIMES AB2;4NI",
  "12486 4ZA;2BU OVER BU TIMES NA2;2DA TIMES TAK4;2DAG TIMES KUR;2DIM TIMES IGI;4U U U",
  "1248C 2DIM2 TIMES UD;2DUG TIMES ANSHE;4ASH;4ASH AT LEFT;4DIN;4DUN;4ERIN2;4GA;4GI;4GIR2 GUNU",
  "12496 4GISH;4HA;4HI;4IGI GUNU;4KASKAL;4KUR;4KUSHU2;4KUSHU2 PLUS KASKAL;4LAK-020;4LAM",
  "124A0 4LAM TIMES KUR;4LUH PLUS GISH;4MASH;4MES;4MI;4NI;4PI;4SHE;4SI GUNU;2E2 TIMES KUR;4PAP",
  "124AB 2ERIN2 X;2ESH2 CROSSING ESH2;2EZEN SHESHIG TIMES ASH;5HI;5IGI GUNU;5LA;5LAL;5ME;5MES;5SU",
  "124B5 3TIMES SU;2GA2 TIMES BAHAR2;4DIM GUNU;4DUG TIMES IGI GUNU;6KASKAL;4EREN;4GA;4GAR PLUS DI",
  "124BD 6NE;4HA PLUS A;4KUSHU2 PLUS KASKAL;4LAM;4LAM TIMES KUR;4LUH;4MUSH;4NE;4NE PLUS E2;6GI",
  "124C7 4SHIM;4ZIZ2;2GABA ROTATED NINETY DEGREES;2GESHTIN TIMES U;2GISH TIMES GISH CROSSING GISH",
  "124CC 2GU2 TIMES IGI GUNU;2GUD PLUS GISH TIMES TAK4;2HA TENU GUNU",
  "124CF 2HI TIMES ASH OVER HI TIMES ASH;2KA TIMES BU;4KA;4U U U;4UR;2LAGAB TIMES ZU OVER ZU",
  "124D5 2LAK-003;3021;3025;3030;3050;3051;3062;3079 OVER LAK-079 GUNU;3080;3081 OVER LAK-081;3092",
  "124E0 3130;3142;3210;3219;3220;3225;3228;3238;3265;3266;3343;3347;3348;3383;3384;3390;3441;3449",
  "124F2 3449 TIMES GU;5IGI;5PAP PLUS LU3;7PAP PLUS LU3;5U2 PLUS BA;3450;3457;3470;3483;3490;3492",
  "124FD 3493;3495;3550;3608;3617;3617 TIMES ASH;5BAD;5DUN3 GUNU GUNU;5KU3;5LA;5TAR;5TE;5U2;5UD",
  "1250B 5URUDA;3636;3648;3648 TIMES DUB;5GA;5IGI;5IGI GUNU;5NI;5PAP PLUS PAP PLUS LU3",
  "12514 5SHESH PLUS KI;5UD;5URUDA;3724;3749;2LU2 GUNU TIMES ASH;3TIMES DISH;4HAL;4PAP",
  "1251D 4PAP PLUS PAP PLUS LU3;4TAK4;2MI PLUS ZA7;2MUSH OVER MUSH TIMES GA;6KAK",
  "12522 2NINDA2 TIMES DIM GUNU;4GISH;4GUL;4HI;4KESH2;4LAK-050;4MASH;4PAP PLUS PAP;4U;4U PLUS U",
  "1252C 4URUDA;2SAG GUNU TIMES HA;3TIMES EN;4SHE AT LEFT;4TAK4;2SHA6 TENU;2SHE OVER SHE",
  "12533 3PLUS HUB2;4NAM2;4SAR;2SHU2 PLUS DUG TIMES NI;4E2 TIMES AN;2SI TIMES TAK4;2TAK4 PLUS SAG",
  "1253A 2TUM TIMES GAN2 TENU;4THREE DISH;2UR2 INVERTED;3TIMES UD;2URU TIMES DARA3;4LAK-668;4LU3",
  "12541 2ZA7;2ZU OVER ZU PLUS SAR;2ZU5 TIMES THREE DISH TENU",
  "12F90 0CYPRO-MINOAN SIGN CM001;3CM002;3CM004;3CM005;3CM006;3CM007;3CM008;3CM009;3CM010;3CM011",
  "12F9A 3CM012;3CM012B;3CM013;3CM015;3CM017;3CM019;3CM021;3CM023;3CM024;3CM025;3CM026;3CM027",
  "12FA6 3CM028;3CM029;3CM030;3CM033;3CM034;3CM035;3CM036;3CM037;3CM038;3CM039;3CM040;3CM041",
  "12FB2 3CM044;3CM046;3CM047;3CM049;3CM050;3CM051;3CM052;3CM053;3CM054;3CM055;3CM056;3CM058",
  "12FBE 3CM059;3CM060;3CM061;3CM062;3CM063;3CM064;3CM066;3CM067;3CM068;3CM069;3CM070;3CM071",
  "12FCA 3CM072;3CM073;3CM074;3CM075;3CM075B;3CM076;3CM078;3CM079;3CM080;3CM081;3CM082;3CM083",
  "12FD6 3CM084;3CM085;3CM086;3CM087;3CM088;3CM089;3CM090;3CM091;3CM092;3CM094;3CM095;3CM096",
  "12FE2 3CM097;3CM098;3CM099;3CM100;3CM101;3CM102;3CM103;3CM104;3CM105;3CM107;3CM108;3CM109",
  "12FEE 3CM110;3CM112;3CM114;3CM301;3CM302",
  "13000 0EGYPTIAN HIEROGLYPH A001;2A002;2A003;2A004;2A005;2A005A;2A006;2A006A;2A006B;2A007;2A008",
  "1300B 2A009;2A010;2A011;2A012;2A013;2A014;2A014A;2A015;2A016;2A017;2A017A;2A018;2A019;2A020",
  "13019 2A021;2A022;2A023;2A024;2A025;2A026;2A027;2A028;2A029;2A030;2A031;2A032;2A032A;2A033",
  "13027 2A034;2A035;2A036;2A037;2A038;2A039;2A040;2A040A;2A041;2A042;2A042A;2A043;2A043A;2A044",
  "13035 2A045;2A045A;2A046;2A047;2A048;2A049;2A050;2A051;2A052;2A053;2A054;2A055;2A056;2A057",
  "13043 2A058;2A059;2A060;2A061;2A062;2A063;2A064;2A065;2A066;2A067;2A068;2A069;2A070;2B001;2B002",
  "13052 2B003;2B004;2B005;2B005A;2B006;2B007;2B008;2B009;2C001;2C002;2C002A;2C002B;2C002C;2C003",
  "13060 2C004;2C005;2C006;2C007;2C008;2C009;2C010;2C010A;2C011;2C012;2C013;2C014;2C015;2C016",
  "1306E 2C017;2C018;2C019;2C020;2C021;2C022;2C023;2C024;2D001;2D002;2D003;2D004;2D005;2D006;2D007",
  "1307D 2D008;2D008A;2D009;2D010;2D011;2D012;2D013;2D014;2D015;2D016;2D017;2D018;2D019;2D020",
  "1308B 2D021;2D022;2D023;2D024;2D025;2D026;2D027;2D027A;2D028;2D029;2D030;2D031;2D031A;2D032",
  "13099 2D033;2D034;2D034A;2D035;2D036;2D037;2D038;2D039;2D040;2D041;2D042;2D043;2D044;2D045",
  "130A7 2D046;2D046A;2D047;2D048;2D048A;2D049;2D050;2D050A;2D050B;2D050C;2D050D;2D050E;2D050F",
  "130B4 2D050G;2D050H;2D050I;2D051;2D052;2D052A;2D053;2D054;2D054A;2D055;2D056;2D057;2D058;2D059",
  "130C2 2D060;2D061;2D062;2D063;2D064;2D065;2D066;2D067;2D067A;2D067B;2D067C;2D067D;2D067E;2D067F",
  "130D0 2D067G;2D067H;2E001;2E002;2E003;2E004;2E005;2E006;2E007;2E008;2E008A;2E009;2E009A;2E010",
  "130DE 2E011;2E012;2E013;2E014;2E015;2E016;2E016A;2E017;2E017A;2E018;2E019;2E020;2E020A;2E021",
  "130EC 2E022;2E023;2E024;2E025;2E026;2E027;2E028;2E028A;2E029;2E030;2E031;2E032;2E033;2E034",
  "130FA 2E034A;2E036;2E037;2E038;2F001;2F001A;2F002;2F003;2F004;2F005;2F006;2F007;2F008;2F009",
  "13108 2F010;2F011;2F012;2F013;2F013A;2F014;2F015;2F016;2F017;2F018;2F019;2F020;2F021;2F021A",
  "13116 2F022;2F023;2F024;2F025;2F026;2F027;2F028;2F029;2F030;2F031;2F031A;2F032;2F033;2F034",
  "13124 2F035;2F036;2F037;2F037A;2F038;2F038A;2F039;2F040;2F041;2F042;2F043;2F044;2F045;2F045A",
  "13132 2F046;2F046A;2F047;2F047A;2F048;2F049;2F050;2F051;2F051A;2F051B;2F051C;2F052;2F053;2G001",
  "13140 2G002;2G003;2G004;2G005;2G006;2G006A;2G007;2G007A;2G007B;2G008;2G009;2G010;2G011;2G011A",
  "1314E 2G012;2G013;2G014;2G015;2G016;2G017;2G018;2G019;2G020;2G020A;2G021;2G022;2G023;2G024",
  "1315C 2G025;2G026;2G026A;2G027;2G028;2G029;2G030;2G031;2G032;2G033;2G034;2G035;2G036;2G036A",
  "1316A 2G037;2G037A;2G038;2G039;2G040;2G041;2G042;2G043;2G043A;2G044;2G045;2G045A;2G046;2G047",
  "13178 2G048;2G049;2G050;2G051;2G052;2G053;2G054;2H001;2H002;2H003;2H004;2H005;2H006;2H006A",
  "13186 2H007;2H008;2I001;2I002;2I003;2I004;2I005;2I005A;2I006;2I007;2I008;2I009;2I009A;2I010",
  "13194 2I010A;2I011;2I011A;2I012;2I013;2I014;2I015;2K001;2K002;2K003;2K004;2K005;2K006;2K007",
  "131A2 2K008;2L001;2L002;2L002A;2L003;2L004;2L005;2L006;2L006A;2L007;2L008;2M001;2M001A;2M001B",
  "131B0 2M002;2M003;2M003A;2M004;2M005;2M006;2M007;2M008;2M009;2M010;2M010A;2M011;2M012;2M012A",
  "131BE 2M012B;2M012C;2M012D;2M012E;2M012F;2M012G;2M012H;2M013;2M014;2M015;2M015A;2M016;2M016A",
  "131CB 2M017;2M017A;2M018;2M019;2M020;2M021;2M022;2M022A;2M023;2M024;2M024A;2M025;2M026;2M027",
  "131D9 2M028;2M028A;2M029;2M030;2M031;2M031A;2M032;2M033;2M033A;2M033B;2M034;2M035;2M036;2M037",
  "131E7 2M038;2M039;2M040;2M040A;2M041;2M042;2M043;2M044;2N001;2N002;2N003;2N004;2N005;2N006",
  "131F5 2N007;2N008;2N009;2N010;2N011;2N012;2N013;2N014;2N015;2N016;2N017;2N018;2N018A;2N018B",
  "13203 2N019;2N020;2N021;2N022;2N023;2N024;2N025;2N025A;2N026;2N027;2N028;2N029;2N030;2N031",
  "13211 2N032;2N033;2N033A;2N034;2N034A;2N035;2N035A;2N036;2N037;2N037A;2N038;2N039;2N040;2N041",
  "1321F 2N042;2NL001;2NL002;2NL003;2NL004;2NL005;2NL005A;2NL006;2NL007;2NL008;2NL009;2NL010",
  "1322B 2NL011;2NL012;2NL013;2NL014;2NL015;2NL016;2NL017;2NL017A;2NL018;2NL019;2NL020;2NU001",
  "13237 2NU002;2NU003;2NU004;2NU005;2NU006;2NU007;2NU008;2NU009;2NU010;2NU010A;2NU011;2NU011A",
  "13243 2NU012;2NU013;2NU014;2NU015;2NU016;2NU017;2NU018;2NU018A;2NU019;2NU020;2NU021;2NU022",
  "1324F 2NU022A;2O001;2O001A;2O002;2O003;2O004;2O005;2O005A;2O006;2O006A;2O006B;2O006C;2O006D",
  "1325C 2O006E;2O006F;2O007;2O008;2O009;2O010;2O010A;2O010B;2O010C;2O011;2O012;2O013;2O014;2O015",
  "1326A 2O016;2O017;2O018;2O019;2O019A;2O020;2O020A;2O021;2O022;2O023;2O024;2O024A;2O025;2O025A",
  "13278 2O026;2O027;2O028;2O029;2O029A;2O030;2O030A;2O031;2O032;2O033;2O033A;2O034;2O035;2O036",
  "13286 2O036A;2O036B;2O036C;2O036D;2O037;2O038;2O039;2O040;2O041;2O042;2O043;2O044;2O045;2O046",
  "13294 2O047;2O048;2O049;2O050;2O050A;2O050B;2O051;2P001;2P001A;2P002;2P003;2P003A;2P004;2P005",
  "132A2 2P006;2P007;2P008;2P009;2P010;2P011;2Q001;2Q002;2Q003;2Q004;2Q005;2Q006;2Q007;2R001;2R002",
  "132B1 2R002A;2R003;2R003A;2R003B;2R004;2R005;2R006;2R007;2R008;2R009;2R010;2R010A;2R011;2R012",
  "132BF 2R013;2R014;2R015;2R016;2R016A;2R017;2R018;2R019;2R020;2R021;2R022;2R023;2R024;2R025",
  "132CD 2R026;2R027;2R028;2R029;2S001;2S002;2S002A;2S003;2S004;2S005;2S006;2S006A;2S007;2S008",
  "132DB 2S009;2S010;2S011;2S012;2S013;2S014;2S014A;2S014B;2S015;2S016;2S017;2S017A;2S018;2S019",
  "132E9 2S020;2S021;2S022;2S023;2S024;2S025;2S026;2S026A;2S026B;2S027;2S028;2S029;2S030;2S031",
  "132F7 2S032;2S033;2S034;2S035;2S035A;2S036;2S037;2S038;2S039;2S040;2S041;2S042;2S043;2S044",
  "13305 2S045;2S046;2T001;2T002;2T003;2T003A;2T004;2T005;2T006;2T007;2T007A;2T008;2T008A;2T009",
  "13313 2T009A;2T010;2T011;2T011A;2T012;2T013;2T014;2T015;2T016;2T016A;2T017;2T018;2T019;2T020",
  "13321 2T021;2T022;2T023;2T024;2T025;2T026;2T027;2T028;2T029;2T030;2T031;2T032;2T032A;2T033",
  "1332F 2T033A;2T034;2T035;2T036;2U001;2U002;2U003;2U004;2U005;2U006;2U006A;2U006B;2U007;2U008",
  "1333D 2U009;2U010;2U011;2U012;2U013;2U014;2U015;2U016;2U017;2U018;2U019;2U020;2U021;2U022;2U023",
  "1334C 2U023A;2U024;2U025;2U026;2U027;2U028;2U029;2U029A;2U030;2U031;2U032;2U032A;2U033;2U034",
  "1335A 2U035;2U036;2U037;2U038;2U039;2U040;2U041;2U042;2V001;2V001A;2V001B;2V001C;2V001D;2V001E",
  "13368 2V001F;2V001G;2V001H;2V001I;2V002;2V002A;2V003;2V004;2V005;2V006;2V007;2V007A;2V007B",
  "13375 2V008;2V009;2V010;2V011;2V011A;2V011B;2V011C;2V012;2V012A;2V012B;2V013;2V014;2V015;2V016",
  "13383 2V017;2V018;2V019;2V020;2V020A;2V020B;2V020C;2V020D;2V020E;2V020F;2V020G;2V020H;2V020I",
  "13390 2V020J;2V020K;2V020L;2V021;2V022;2V023;2V023A;2V024;2V025;2V026;2V027;2V028;2V028A;2V029",
  "1339E 2V029A;2V030;2V030A;2V031;2V031A;2V032;2V033;2V033A;2V034;2V035;2V036;2V037;2V037A;2V038",
  "133AC 2V039;2V040;2V040A;2W001;2W002;2W003;2W003A;2W004;2W005;2W006;2W007;2W008;2W009;2W009A",
  "133BA 2W010;2W010A;2W011;2W012;2W013;2W014;2W014A;2W015;2W016;2W017;2W017A;2W018;2W018A;2W019",
  "133C8 2W020;2W021;2W022;2W023;2W024;2W024A;2W025;2X001;2X002;2X003;2X004;2X004A;2X004B;2X005",
  "133D6 2X006;2X006A;2X007;2X008;2X008A;2Y001;2Y001A;2Y002;2Y003;2Y004;2Y005;2Y006;2Y007;2Y008",
  "133E4 2Z001;2Z002;2Z002A;2Z002B;2Z002C;2Z002D;2Z003;2Z003A;2Z003B;2Z004;2Z004A;2Z005;2Z005A",
  "133F1 2Z006;2Z007;2Z008;2Z009;2Z010;2Z011;2Z012;2Z013;2Z014;2Z015;2Z015A;2Z015B;2Z015C;2Z015D",
  "133FF 2Z015E;2Z015F;2Z015G;2Z015H;2Z015I;2Z016;2Z016A;2Z016B;2Z016C;2Z016D;2Z016E;2Z016F;2Z016G",
  "1340C 2Z016H;2AA001;2AA002;2AA003;2AA004;2AA005;2AA006;2AA007;2AA007A;2AA007B;2AA008;2AA009",
  "13418 2AA010;2AA011;2AA012;2AA013;2AA014;2AA015;2AA016;2AA017;2AA018;2AA019;2AA020;2AA021",
  "13424 2AA022;2AA023;2AA024;2AA025;2AA026;2AA027;2AA028;2AA029;2AA030;2AA031;2AA032",
  "13430 2VERTICAL JOINER;2HORIZONTAL JOINER;2INSERT AT TOP START;4BOTTOM START;4TOP END",
  "13435 4BOTTOM END;2OVERLAY MIDDLE;2BEGIN SEGMENT;2END SEGMENT",
  "14400 0ANATOLIAN HIEROGLYPH A001;2A002;2A003;2A004;2A005;2A006;2A007;2A008;2A009;2A010;2A010A",
  "1440B 2A011;2A012;2A013;2A014;2A015;2A016;2A017;2A018;2A019;2A020;2A021;2A022;2A023;2A024;2A025",
  "1441A 2A026;2A026A;2A027;2A028;2A029;2A030;2A031;2A032;2A033;2A034;2A035;2A036;2A037;2A038",
  "14428 2A039;2A039A;2A040;2A041;2A041A;2A042;2A043;2A044;2A045;2A045A;2A046;2A046A;2A046B;2A047",
  "14436 2A048;2A049;2A050;2A051;2A052;2A053;2A054;2A055;2A056;2A057;2A058;2A059;2A060;2A061;2A062",
  "14445 2A063;2A064;2A065;2A066;2A066A;2A066B;2A066C;2A067;2A068;2A069;2A070;2A071;2A072;2A073",
  "14453 2A074;2A075;2A076;2A077;2A078;2A079;2A080;2A081;2A082;2A083;2A084;2A085;2A086;2A087;2A088",
  "14462 2A089;2A090;2A091;2A092;2A093;2A094;2A095;2A096;2A097;2A097A;2A098;2A098A;2A099;2A100",
  "14470 2A100A;2A101;2A101A;2A102;2A102A;2A103;2A104;2A104A;2A104B;2A104C;2A105;2A105A;2A105B",
  "1447D 2A106;2A107;2A107A;2A107B;2A107C;2A108;2A109;2A110;2A110A;2A110B;2A111;2A112;2A113;2A114",
  "1448B 2A115;2A115A;2A116;2A117;2A118;2A119;2A120;2A121;2A122;2A123;2A124;2A125;2A125A;2A126",
  "14499 2A127;2A128;2A129;2A130;2A131;2A132;2A133;2A134;2A135;2A135A;2A136;2A137;2A138;2A139",
  "144A7 2A140;2A141;2A142;2A143;2A144;2A145;2A146;2A147;2A148;2A149;2A150;2A151;2A152;2A153;2A154",
  "144B6 2A155;2A156;2A157;2A158;2A159;2A160;2A161;2A162;2A163;2A164;2A165;2A166;2A167;2A168;2A169",
  "144C5 2A170;2A171;2A172;2A173;2A174;2A175;2A176;2A177;2A178;2A179;2A180;2A181;2A182;2A183;2A184",
  "144D4 2A185;2A186;2A187;2A188;2A189;2A190;2A191;2A192;2A193;2A194;2A195;2A196;2A197;2A198;2A199",
  "144E3 2A200;2A201;2A202;2A202A;2A202B;2A203;2A204;2A205;2A206;2A207;2A207A;2A208;2A209;2A209A",
  "144F1 2A210;2A211;2A212;2A213;2A214;2A215;2A215A;2A216;2A216A;2A217;2A218;2A219;2A220;2A221",
  "144FF 2A222;2A223;2A224;2A225;2A226;2A227;2A227A;2A228;2A229;2A230;2A231;2A232;2A233;2A234",
  "1450D 2A235;2A236;2A237;2A238;2A239;2A240;2A241;2A242;2A243;2A244;2A245;2A246;2A247;2A248;2A249",
  "1451C 2A250;2A251;2A252;2A253;2A254;2A255;2A256;2A257;2A258;2A259;2A260;2A261;2A262;2A263;2A264",
  "1452B 2A265;2A266;2A267;2A267A;2A268;2A269;2A270;2A271;2A272;2A273;2A274;2A275;2A276;2A277",
  "14539 2A278;2A279;2A280;2A281;2A282;2A283;2A284;2A285;2A286;2A287;2A288;2A289;2A289A;2A290",
  "14547 2A291;2A292;2A293;2A294;2A294A;2A295;2A296;2A297;2A298;2A299;2A299A;2A300;2A301;2A302",
  "14555 2A303;2A304;2A305;2A306;2A307;2A308;2A309;2A309A;2A310;2A311;2A312;2A313;2A314;2A315",
  "14563 2A316;2A317;2A318;2A319;2A320;2A321;2A322;2A323;2A324;2A325;2A326;2A327;2A328;2A329",
  "14571 2A329A;2A330;2A331;2A332A;2A332B;2A332C;2A333;2A334;2A335;2A336;2A336A;2A336B;2A336C",
  "1457E 2A337;2A338;2A339;2A340;2A341;2A342;2A343;2A344;2A345;2A346;2A347;2A348;2A349;2A350;2A351",
  "1458D 2A352;2A353;2A354;2A355;2A356;2A357;2A358;2A359;2A359A;2A360;2A361;2A362;2A363;2A364",
  "1459B 2A364A;2A365;2A366;2A367;2A368;2A368A;2A369;2A370;2A371;2A371A;2A372;2A373;2A374;2A375",
  "145A9 2A376;2A377;2A378;2A379;2A380;2A381;2A381A;2A382;2A383 RA OR RI;2A383A;2A384;2A385;2A386",
  "145B6 2A386A;2A387;2A388;2A389;2A390;2A391;2A392;2A393 EIGHT;2A394;2A395;2A396;2A397;2A398",
  "145C3 2A399;2A400;2A401;2A402;2A403;2A404;2A405;2A406;2A407;2A408;2A409",
  "145CE 2A410 BEGIN LOGOGRAM MARK;2A410A END LOGOGRAM MARK;2A411;2A412;2A413;2A414;2A415;2A416",
  "145D6 2A417;2A418;2A419;2A420;2A421;2A422;2A423;2A424;2A425;2A426;2A427;2A428;2A429;2A430;2A431",
  "145E5 2A432;2A433;2A434;2A435;2A436;2A437;2A438;2A439;2A440;2A441;2A442;2A443;2A444;2A445;2A446",
  "145F4 2A447;2A448;2A449;2A450;2A450A;2A451;2A452;2A453;2A454;2A455;2A456;2A457;2A457A;2A458",
  "14602 2A459;2A460;2A461;2A462;2A463;2A464;2A465;2A466;2A467;2A468;2A469;2A470;2A471;2A472;2A473",
  "14611 2A474;2A475;2A476;2A477;2A478;2A479;2A480;2A481;2A482;2A483;2A484;2A485;2A486;2A487;2A488",
  "14620 2A489;2A490;2A491;2A492;2A493;2A494;2A495;2A496;2A497;2A501;2A502;2A503;2A504;2A505;2A506",
  "1462F 2A507;2A508;2A509;2A510;2A511;2A512;2A513;2A514;2A515;2A516;2A517;2A518;2A519;2A520;2A521",
  "1463E 2A522;2A523;2A524;2A525;2A526;2A527;2A528;2A529;2A530",
  "16800 0BAMUM LETTER PHASE-A NGKUE MFON;4GBIEE FON;4PON MFON PIPAEMGBIEE;6PIPAEMBA;4NAA MFON",
  "16805 4SHUENSHUET;4TITA MFON;4NZA MFON;4SHINDA PA NJI;4PON PA NJI PIPAEMGBIEE;7PIPAEMBA",
  "1680B 4MAEMBGBIEE;4TU MAEMBA;4NGANGU;4MAEMVEUX;4MANSUAE;4MVEUAENGAM;4SEUNYAM;4NTOQPEN",
  "16813 4KEUKEUTNDA;4NKINDI;4SUU;4NGKUENZEUM;4LAPAQ;4LET KUT;4NTAP MFAA;4MAEKEUP;4PASHAE",
  "1681C 4GHEUAERAE;4PAMSHAE;4MON NGGEUAET;4NZUN MEUT;4U YUQ NAE;4GHEUAEGHEUAE;4NTAP NTAA;4SISA",
  "16824 4MGBASA;4MEUNJOMNDEUQ;4MOOMPUQ;4KAFA;4PA LEERAEWA;4NDA LEERAEWA;4PET;4MAEMKPEN;4NIKA;4PUP",
  "1682E 4TUAEP;4LUAEP;4SONJAM;4TEUTEUWEN;4MAENYI;4KET;4NDAANGGEUAET;4KUOQ;4MOOMEUT;4SHUM;4LOMMAE",
  "16839 4FIRI;4ROM;4KPOQ;4SOQ;4MAP PIEET;4SHIRAE;4NTAP;4SHOQ NSHUT YUM;4NYIT MONGKEUAEQ;4PAARAE",
  "16843 4NKAARAE;4UNKNOWN;4NGGEN;4MAESI;4NJAM;4MBANYI;4NYET;4TEUAEN;4SOT;4PAAM;4NSHIEE;4MAEM;4NYI",
  "16850 4KAQ;4NSHA;4VEE;4LU;4NEN;4NAQ;4MBAQ;3B NSHUET;4TU MAEMGBIEE;4SIEE;4SET TU;4LOM NTEUM",
  "1685C 4MBA MAELEE;4KIEEM;4YEURAE;4MBAARAE;4KAM;4PEESHI;4YAFU LEERAEWA;4LAM NSHUT NYAM",
  "16864 4NTIEE SHEUOQ;4NDU NJAA;4GHEUGHEUAEM;4PIT;4TU NSIEE;4SHET NJAQ;4SHEUAEQTU;4MFON TEUAEQ",
  "1686C 4MBIT MBAAKET;4NYI NTEUM;4KEUPUQ;4GHEUGHEN;4KEUYEUX;4LAANAE;4PARUM;4VEUM;4NGKINDI MVOP",
  "16875 4NGGEU MBU;4WUAET;4SAKEUAE;4TAAM;4MEUQ;4NGGUOQ;4NGGUOQ LARGE;4MFIYAQ;4SUE;4MBEURI",
  "1687F 4MONTIEEN;4NYAEMAE;4PUNGAAM;4MEUT NGGEET;4FEUX;4MBUOQ;4FEE;4KEUAEM;4MA NJEUAENA;5NJUQA",
  "16889 4LET;4NGGAAM;4NSEN;4MA;4KIQ;4NGOM;3C NGKUE MAEMBA;4NZA;4YUM;4WANGKUOQ;4NGGEN;4NDEUAEREE",
  "16895 4NGKAQ;4GHARAE;4MBEEKEET;4GBAYI;4NYIR MKPARAQ MEUN;4NTU MBIT;4MBEUM;4PIRIEEN;4NDOMBU",
  "1689E 4MBAA CABBAGE-TREE;4KEUSHEUAEP;4GHAP;4KEUKAQ;4YU MUOMAE;4NZEUM;4MBUE;4NSEUAEN;4MBIT;4YEUQ",
  "168A8 4KPARAQ;4KAA;4SEUX;4NDIDA;4TAASHAE;4NJUEQ;4TITA YUE;4SUAET;4NGGUAEN NYAM;4VEUX;4NANSANAQ",
  "168B3 4MA KEUAERI;4NTAA;4NGGUON;4LAP;4MBIRIEEN;4MGBASAQ;4NTEUNGBA;4TEUTEUX;4NGGUM;4FUE;4NDEUT",
  "168BE 4NSA;4NSHAQ;4BUNG;4VEUAEPEN;4MBERAE;4RU;4NJAEM;4LAM;4TITUAEP;4NSUOT NGOM;4NJEEEE;4KET",
  "168CA 4NGGU;4MAESI;4MBUAEM;4LU;4KUT;4NJAM;4NGOM;4WUP;4NGGUEET;4NSOM;4NTEN;4KUOP NKAARAE;4NSUN",
  "168D7 4NDAM;4MA NSIEE;4YAA;4NDAP;4SHUEQ;4SETFON;4MBI;4MAEMBA;4MBANYI;4KEUSEUX;4MBEUX;4KEUM",
  "168E3 4MBAA PICKET;4YUWOQ;4NJEUX;4MIEE;4MUAE;4SHIQ;4KEN LAW;5FATIGUE;4NGAQ;4NAQ;4LIQ;4PIN;4PEN",
  "168F0 4TET;3D MBUO;4WAP;4NJI;4MFON;4NJIEE;4LIEE;4NJEUT;4NSHEE;4NGGAAMAE;4NYAM;4WUAEN;4NGKUN",
  "168FD 4SHEE;4NGKAP;4KEUAETMEUN;4TEUT;4SHEUAE;4NJAP;4SUE;4KET;4YAEMMAE;4KUOM;4SAP;4MFEUT;4NDEUX",
  "1690A 4MALEERI;4MEUT;4SEUAEQ;4YEN;4NJEUAEM;4KEUOT MBUAE;4NGKEURI;4TU;4GHAA;4NGKYEE;4FEUFEUAET",
  "16915 4NDEE;4MGBOFUM;4LEUAEP;4NDON;4MONI;4MGBEUN;4PUUT;4MGBIEE;4MFO;4LUM;4NSIEEP;4MBAA;4KWAET",
  "16922 4NYET;4TEUAEN;4SOT;4YUWOQ;4KEUM;4RAEM;4TEEEE;4NGKEUAEQ;4MFEUAE;4NSIEET;4KEUP;4PIP;4PEUTAE",
  "1692F 4NYUE;4LET;4NGGAAM;4MFIEE;4NGGWAEN;4YUOM;4PAP;4YUOP;4NDAM;4NTEUM;4SUAE;4KUN;4NGGEUX",
  "1693C 4NGKIEE;4TUOT;4MEUN;4KUQ;4NSUM;4TEUN;4MAENJET;4NGGAP;4LEUM;4NGGUOM;4NSHUT;4NJUEQ;4GHEUAE",
  "16949 4KU;4REN OLD;4TAE;4TOQ;4NYI;4RII;4LEEEE;4MEEEE;4M;4SUU;4MU;4SHII;4SHEUX;4KYEE;4NU;4SHU",
  "16959 4NTEE;4PEE;4NI;4SHOQ;4PUQ;4MVOP;4LOQ;4REN MUCH;4TI;4NTUU;4MBAA SEVEN;4SAQ;4FAA;3E NDAP",
  "16967 4TOON;4MBEUM;4LAP;4VOM;4LOON;4PAA;4SOM;4RAQ;4NSHUOP;4NDUN;4PUAE;4TAM;4NGKA;4KPEUX;4WUO",
  "16976 4SEE;4NGGEUAET;4PAAM;4TOO;4KUOP;4LOM;4NSHIEE;4NGOP;4MAEM;4NGKEUX;4NGOQ;4NSHUE;4RIMGBA",
  "16983 4NJEUX;4PEEM;4SAA;4NGGURAE;4MGBA;4GHEUX;4NGKEUAEM;4NJAEMLI;4MAP;4LOOT;4NGGEEEE;4NDIQ",
  "1698F 4TAEN NTEUM;4SET;4PUM;4NDAA SOFTNESS;4NGGUAESHAE NYAM;4YIEE;4GHEUN;4TUAE;4YEUAE;4PO",
  "16999 4TUMAE;4KEUAE;4SUAEN;4TEUAEQ;4VEUAE;4WEUX;4LAAM;4PU;4TAAQ;4GHAAMAE;4NGEUREUT;4SHEUAEQ",
  "169A5 4MGBEN;4MBEE;4NZAQ;4NKOM;4GBET;4TUM;4KUET;4YAP;4NYI CLEAVER;4YIT;4MFEUQ;4NDIAQ;4PIEEQ",
  "169B2 4YUEQ;4LEUAEM;4FUE;4GBEUX;4NGKUP;4KET;4MAE;4NGKAAMI;4GHET;4FA;4NTUM;4PEUT;4YEUM;4NGGEUAE",
  "169C0 4NYI BETWEEN;4NZUQ;4POON;4MIEE;4FUET;4NAE;4MUAE;4GHEUAE;4FU I;4MVI;4PUAQ;4NGKUM;4KUT",
  "169CD 4PIET;4NTAP;4YEUAET;4NGGUP;4PA PEOPLE;4FU CALL;4FOM;4NJEE;4A;4TOQ;4O;4I;4LAQ;4PA PLURAL",
  "169DB 4TAA;4TAQ;4NDAA MY HOUSE;4SHIQ;4YEUX;4NGUAE;4YUAEN;4YOQ SWIMMING;5COVER;4YUQ;4YUN;4KEUX",
  "169E7 4PEUX;4NJEE EPOCH;4PUE;4WUE;4FEE;4VEE;4LU;4MI;4REUX;4RAE;4NGUAET;4NGA;4SHO;4SHOQ",
  "169F5 4FU REMEDY;4NA;4PI;4LOQ;4KO;4MEN;4MA;4MAQ;4TEU;4KI;4MON;4TEN;4FAQ;4GHOM;3F KA;4U;4KU;4EE",
  "16A07 4REE;4TAE;4NYI;4LA;4RII;4RIEE;4MEEEE;4TAA;4NDAA;4NJAEM;4M;4SUU;4SHII;4SI;4SEUX;4KYEE;4KET",
  "16A18 4NUAE;4NU;4NJUAE;4YOQ;4SHU;4YA;4NSHA;4PEUX;4NTEE;4WUE;4PEE;4RU;4NI;4REUX;4KEN;4NGKWAEN",
  "16A28 4NGGA;4SHO;4PUAE;4FOM;4WA;4LI;4LOQ;4KO;4MBEN;4REN;4MA;4MO;4MBAA;4TET;4KPA;4SAMBA;4VUEQ",
  "16A40 0MRO LETTER TA;2NGI;2YO;2MIM;2BA;2DA;2A;2PHI;2KHAI;2HAO;2DAI;2CHU;2KEAAE;2OL;2MAEM;2NIN",
  "16A50 2PA;2OO;2O;2RO;2SHI;2THEA;2EA;2WA;2E;2KO;2LAN;2LA;2HAI;2RI;2TEK",
  "16A60 1DIGIT ZERO;2ONE;2TWO;2THREE;2FOUR;2FIVE;2SIX;2SEVEN;2EIGHT;2NINE",
  "16A6E 1DANDA;1DOUBLE DANDA;0TANGSA LETTER OZ;2OC;2OQ;2OX;2AZ;2AC;2AQ;2AX;2VZ;2VC;2VQ;2VX;2EZ",
  "16A7D 2EC;2EQ;2EX;2IZ;2IC;2IQ;2IX;2UZ;2UC;2UQ;2UX;2AWZ;2AWC;2AWQ;2AWX;2UIZ;2UIC;2UIQ;2UIX",
  "16A90 2FINAL NG;2LONG UEX;2SHORT UEZ;3AWX;2UEC;2UEZ;2UEQ;2UEX;2UIUZ;2UIUC;2UIUQ;2UIUX;2MZ;2MC",
  "16A9E 2MQ;2MX;2KA;2KHA;2GA;2NGA;2SA;2YA;2WA;2PA;2NYA;2PHA;2BA;2MA;2NA;2HA;2LA;2HTA;2TA;2DA;2RA",
  "16AB3 2NHA;2SHA;2CA;2TSA;2GHA;2HTTA;2THA;2XA;2FA;2DHA;2CHA;2ZA",
  "16AC0 1DIGIT ZERO;2ONE;2TWO;2THREE;2FOUR;2FIVE;2SIX;2SEVEN;2EIGHT;2NINE",
  "16AD0 0BASSA VAH LETTER ENNI;3KA;3SE;3FA;3MBE;3YIE;3GAH;3DHII;3KPAH;3JO;3HWAH;3WA;3ZO;3GBU;3DO",
  "16ADF 3CE;3UWU;3TO;3BA;3VU;3YEIN;3PA;3WADDA;3A;3O;3OO;3U;3EE;3E;3I",
  "16AF0 2COMBINING HIGH TONE;3LOW TONE;3MID TONE;3LOW-MID TONE;3HIGH-LOW TONE;2FULL STOP",
  "16B00 0PAHAWH HMONG VOWEL KEEB;3KEEV;3KIB;3KIV;3KAUB;3KAUV;3KUB;3KUV;3KEB;3KEV;3KAIB;3KAIV",
  "16B0C 3KOOB;3KOOV;3KAWB;3KAWV;3KUAB;3KUAV;3KOB;3KOV;3KIAB;3KIAV;3KAB;3KAV;3KWB;3KWV;3KAAB;3KAAV",
  "16B1C 2CONSONANT VAU;3NTSAU;3LAU;3HAU;3NLAU;3RAU;3NKAU;3QHAU;3YAU;3HLAU;3MAU;3CHAU;3NCHAU;3HNAU",
  "16B2A 3PLHAU;3NTHAU;3NAU;3AU;3XAU;3CAU;2MARK CIM TUB;4SO;4KES;4KHAV;4SUAM;4HOM;4TAUM",
  "16B37 2SIGN VOS THOM;4TSHAB CEEB;3CIM CHEEM;3VOS THIAB;4FEEM;3XYEEM NTXIV;4RHO;4TOV;4FAIB",
  "16B40 3VOS SEEV;3MEEJ SUAB;3VOS NRUA;3IB YAM;3XAUS;3CIM TSOV ROG",
  "16B50 2DIGIT ZERO;3ONE;3TWO;3THREE;3FOUR;3FIVE;3SIX;3SEVEN;3EIGHT;3NINE",
  "16B5B 2NUMBER TENS;3HUNDREDS;3TEN THOUSANDS;3MILLIONS;3HUNDRED MILLIONS;3TEN BILLIONS",
  "16B61 3TRILLIONS",
  "16B63 2SIGN VOS LUB;3XYOO;3HLI;3THIRD-STAGE HLI;3ZWJ THAJ;3HNUB;3NQIG;3XIAB;3NTUJ;3AV",
  "16B6D 3TXHEEJ CEEV;3MEEJ TSEEB;3TAU;3LOS;3MUS;3CIM HAIS LUS NTOG NTOG;4CUAM TSHOOJ;4TXWV",
  "16B75 4TXWV CHWV;4PUB DAWB;4NRES TOS",
  "16B7D 2CLAN SIGN TSHEEJ;4YEEG;4LIS;4LAUJ;4XYOOJ;4KOO;4HAWJ;4MUAS;4THOJ;4TSAB;4PHAB;4KHAB;4HAM",
  "16B8A 4VAJ;4FAJ;4YAJ;4TSWB;4KWM;4VWJ",
  "16E40 0MEDEFAIDRIN CAPITAL LETTER M;3S;3V;3W;3ATIU;3Z;3KP;3P;3T;3G;3F;3I;3K;3A;3J;3E;3B;3C;3U",
  "16E53 3YU;3L;3Q;3HP;3NY;3X;3D;3OE;3N;3R;3O;3AI;3Y;1SMALL LETTER M;3S;3V;3W;3ATIU;3Z;3KP;3P;3T",
  "16E69 3G;3F;3I;3K;3A;3J;3E;3B;3C;3U;3YU;3L;3Q;3HP;3NY;3X;3D;3OE;3N;3R;3O;3AI;3Y;1DIGIT ZERO",
  "16E81 2ONE;2TWO;2THREE;2FOUR;2FIVE;2SIX;2SEVEN;2EIGHT;2NINE;1NUMBER TEN;2ELEVEN;2TWELVE",
  "16E8D 2THIRTEEN;2FOURTEEN;2FIFTEEN;2SIXTEEN;2SEVENTEEN;2EIGHTEEN;2NINETEEN",
  "16E94 1DIGIT ONE ALTERNATE FORM;2TWO ALTERNATE FORM;2THREE ALTERNATE FORM;1COMMA;1FULL STOP",
  "16E99 1SYMBOL AIVA;1EXCLAMATION OH",
  "16F00 0MIAO LETTER PA;2BA;2YI PA;2PLA;2MA;2MHA;2ARCHAIC MA;2FA;2VA;2VFA;2TA;2DA;2YI TTA;3TA",
  "16F0E 2TTA;2DDA;2NA;2NHA;2YI NNA;2ARCHAIC NA;2NNA;2NNHA;2LA;2LYA;2LHA;2LHYA;2TLHA;2DLHA;2TLHYA",
  "16F1D 2DLHYA;2KA;2GA;2YI KA;2QA;2QGA;2NGA;2NGHA;2ARCHAIC NGA;2HA;2XA;2GHA;2GHHA;2TSSA;2DZZA",
  "16F2C 2NYA;2NYHA;2TSHA;2DZHA;2YI TSHA;3DZHA;2REFORMED TSHA;2SHA;2SSA;2ZHA;2ZSHA;2TSA;2DZA",
  "16F39 2YI TSA;2SA;2ZA;2ZSA;2ZZA;2ZZSA;2ARCHAIC ZZA;2ZZYA;2ZZSYA;2WA;2AH;2HHA;2BRI;2SYI;2DZYI",
  "16F48 2TE;2TSE;2RTE",
  "16F4F 1SIGN CONSONANT MODIFIER BAR;1LETTER NASALIZATION;1SIGN ASPIRATION;2REFORMED VOICING",
  "16F53 3ASPIRATION;1VOWEL SIGN A;3AA;3AHH;3AN;3ANG;3O;3OO;3WO;3W;3E;3EN;3ENG;3OEY;3I;3IA;3IAN",
  "16F64 3IANG;3IO;3IE;3II;3IU;3ING;3U;3UA;3UAN;3UANG;3UU;3UEI;3UNG;3Y;3YI;3AE;3AEE;3ERR",
  "16F76 3ROUNDED ERR;3ER;3ROUNDED ER;3AI;3EI;3AU;3OU;3N;3NG;3UOG;3YUI;3OG;3OER;3VW;3IG;3EA;3IONG",
  "16F87 3UI",
  "16F8F 1TONE RIGHT;2TOP RIGHT;2ABOVE;2BELOW;1LETTER TONE-2;33;34;35;36;37;38;2REFORMED TONE-1;42",
  "16F9C 44;45;46;48",
  "16FE0 0TANGUT ITERATION MARK;0NUSHU ITERATION MARK;0OLD CHINESE HOOK MARK;2ITERATION MARK",
  "16FE4 0KHITAN SMALL SCRIPT FILLER",
  "16FF0 0VIETNAMESE ALTERNATE READING MARK CA;4NHAY"]

end FormCheck.Text.CharacterName
