/-! # Supplementary scripts and symbols

The names of Tangut components, kana, notation of music, mathematics and signed languages, in code
order.
-/

namespace FormCheck.Text.CharacterName

def supplementary : List String := [
  "18800 0TANGUT COMPONENT-001;2002;2003;2004;2005;2006;2007;2008;2009;2010;2011;2012;2013;2014",
  "1880E 2015;2016;2017;2018;2019;2020;2021;2022;2023;2024;2025;2026;2027;2028;2029;2030;2031;2032",
  "18820 2033;2034;2035;2036;2037;2038;2039;2040;2041;2042;2043;2044;2045;2046;2047;2048;2049;2050",
  "18832 2051;2052;2053;2054;2055;2056;2057;2058;2059;2060;2061;2062;2063;2064;2065;2066;2067;2068",
  "18844 2069;2070;2071;2072;2073;2074;2075;2076;2077;2078;2079;2080;2081;2082;2083;2084;2085;2086",
  "18856 2087;2088;2089;2090;2091;2092;2093;2094;2095;2096;2097;2098;2099;2100;2101;2102;2103;2104",
  "18868 2105;2106;2107;2108;2109;2110;2111;2112;2113;2114;2115;2116;2117;2118;2119;2120;2121;2122",
  "1887A 2123;2124;2125;2126;2127;2128;2129;2130;2131;2132;2133;2134;2135;2136;2137;2138;2139;2140",
  "1888C 2141;2142;2143;2144;2145;2146;2147;2148;2149;2150;2151;2152;2153;2154;2155;2156;2157;2158",
  "1889E 2159;2160;2161;2162;2163;2164;2165;2166;2167;2168;2169;2170;2171;2172;2173;2174;2175;2176",
  "188B0 2177;2178;2179;2180;2181;2182;2183;2184;2185;2186;2187;2188;2189;2190;2191;2192;2193;2194",
  "188C2 2195;2196;2197;2198;2199;2200;2201;2202;2203;2204;2205;2206;2207;2208;2209;2210;2211;2212",
  "188D4 2213;2214;2215;2216;2217;2218;2219;2220;2221;2222;2223;2224;2225;2226;2227;2228;2229;2230",
  "188E6 2231;2232;2233;2234;2235;2236;2237;2238;2239;2240;2241;2242;2243;2244;2245;2246;2247;2248",
  "188F8 2249;2250;2251;2252;2253;2254;2255;2256;2257;2258;2259;2260;2261;2262;2263;2264;2265;2266",
  "1890A 2267;2268;2269;2270;2271;2272;2273;2274;2275;2276;2277;2278;2279;2280;2281;2282;2283;2284",
  "1891C 2285;2286;2287;2288;2289;2290;2291;2292;2293;2294;2295;2296;2297;2298;2299;2300;2301;2302",
  "1892E 2303;2304;2305;2306;2307;2308;2309;2310;2311;2312;2313;2314;2315;2316;2317;2318;2319;2320",
  "18940 2321;2322;2323;2324;2325;2326;2327;2328;2329;2330;2331;2332;2333;2334;2335;2336;2337;2338",
  "18952 2339;2340;2341;2342;2343;2344;2345;2346;2347;2348;2349;2350;2351;2352;2353;2354;2355;2356",
  "18964 2357;2358;2359;2360;2361;2362;2363;2364;2365;2366;2367;2368;2369;2370;2371;2372;2373;2374",
  "18976 2375;2376;2377;2378;2379;2380;2381;2382;2383;2384;2385;2386;2387;2388;2389;2390;2391;2392",
  "18988 2393;2394;2395;2396;2397;2398;2399;2400;2401;2402;2403;2404;2405;2406;2407;2408;2409;2410",
  "1899A 2411;2412;2413;2414;2415;2416;2417;2418;2419;2420;2421;2422;2423;2424;2425;2426;2427;2428",
  "189AC 2429;2430;2431;2432;2433;2434;2435;2436;2437;2438;2439;2440;2441;2442;2443;2444;2445;2446",
  "189BE 2447;2448;2449;2450;2451;2452;2453;2454;2455;2456;2457;2458;2459;2460;2461;2462;2463;2464",
  "189D0 2465;2466;2467;2468;2469;2470;2471;2472;2473;2474;2475;2476;2477;2478;2479;2480;2481;2482",
  "189E2 2483;2484;2485;2486;2487;2488;2489;2490;2491;2492;2493;2494;2495;2496;2497;2498;2499;2500",
  "189F4 2501;2502;2503;2504;2505;2506;2507;2508;2509;2510;2511;2512;2513;2514;2515;2516;2517;2518",
  "18A06 2519;2520;2521;2522;2523;2524;2525;2526;2527;2528;2529;2530;2531;2532;2533;2534;2535;2536",
  "18A18 2537;2538;2539;2540;2541;2542;2543;2544;2545;2546;2547;2548;2549;2550;2551;2552;2553;2554",
  "18A2A 2555;2556;2557;2558;2559;2560;2561;2562;2563;2564;2565;2566;2567;2568;2569;2570;2571;2572",
  "18A3C 2573;2574;2575;2576;2577;2578;2579;2580;2581;2582;2583;2584;2585;2586;2587;2588;2589;2590",
  "18A4E 2591;2592;2593;2594;2595;2596;2597;2598;2599;2600;2601;2602;2603;2604;2605;2606;2607;2608",
  "18A60 2609;2610;2611;2612;2613;2614;2615;2616;2617;2618;2619;2620;2621;2622;2623;2624;2625;2626",
  "18A72 2627;2628;2629;2630;2631;2632;2633;2634;2635;2636;2637;2638;2639;2640;2641;2642;2643;2644",
  "18A84 2645;2646;2647;2648;2649;2650;2651;2652;2653;2654;2655;2656;2657;2658;2659;2660;2661;2662",
  "18A96 2663;2664;2665;2666;2667;2668;2669;2670;2671;2672;2673;2674;2675;2676;2677;2678;2679;2680",
  "18AA8 2681;2682;2683;2684;2685;2686;2687;2688;2689;2690;2691;2692;2693;2694;2695;2696;2697;2698",
  "18ABA 2699;2700;2701;2702;2703;2704;2705;2706;2707;2708;2709;2710;2711;2712;2713;2714;2715;2716",
  "18ACC 2717;2718;2719;2720;2721;2722;2723;2724;2725;2726;2727;2728;2729;2730;2731;2732;2733;2734",
  "18ADE 2735;2736;2737;2738;2739;2740;2741;2742;2743;2744;2745;2746;2747;2748;2749;2750;2751;2752",
  "18AF0 2753;2754;2755;2756;2757;2758;2759;2760;2761;2762;2763;2764;2765;2766;2767;2768",
  "1AFF0 0KATAKANA LETTER MINNAN TONE-2;43;44;45",
  "1AFF5 47;48;3NASALIZED TONE-1;52;53;54;55",
  "1AFFD 57;58",
  "1B000 2ARCHAIC E;0HIRAGANA LETTER ARCHAIC YE;0HENTAIGANA LETTER A-1;32;33;3WO;2I-1;32;33;34",
  "1B00A 2U-1;32;33;34;35;2E-2;33;34;35;36;2O-1;32;33;2KA-1;32;33;34;35;36;37;38;39;310;311;3KE",
  "1B023 2KI-1;32;33;34;35;36;37;38;2KU-1;32;33;34;35;36;37;2KE-1;32;33;34;35;36;2KO-1;32;33;3KI",
  "1B03C 2SA-1;32;33;34;35;36;37;38;2SI-1;32;33;34;35;36;2SU-1;32;33;34;35;36;37;38;2SE-1;32;33;34",
  "1B056 35;2SO-1;32;33;34;35;36;37;2TA-1;32;33;34;2TI-1;32;33;34;35;36;37;2TU-1;32;33;34;3TO",
  "1B06E 2TE-1;32;33;34;35;36;37;38;39;2TO-1;32;33;34;35;36;3RA;2NA-1;32;33;34;35;36;37;38;39",
  "1B087 2NI-1;32;33;34;35;36;37;3TE;2NU-1;32;33;2NE-1;32;33;34;35;36;3KO;2NO-1;32;33;34;35;2HA-1",
  "1B09F 32;33;34;35;36;37;38;39;310;311;2HI-1;32;33;34;35;36;37;2HU-1;32;33;2HE-1;32;33;34;35;36",
  "1B0B9 37;2HO-1;32;33;34;35;36;37;38;2MA-1;32;33;34;35;36;37;2MI-1;32;33;34;35;36;37;2MU-1;32;33",
  "1B0D3 34;2ME-1;32;3MA;2MO-1;32;33;34;35;36;2YA-1;32;33;34;35;3YO;2YU-1;32;33;34;2YO-1;32;33;34",
  "1B0EB 35;36;2RA-1;32;33;34;2RI-1;32;33;34;35;36;37;2RU-1;32;33;34;35;36;2RE-1;32;33;34;2RO-1;32",
  "1B104 33;34;35;36;2WA-1;32;33;34;35;2WI-1;32;33;34;35;2WE-1;32;33;34;2WO-1;32;33;34;35;36;37",
  "1B11D 2N-MU-MO-1;52;0HIRAGANA LETTER ARCHAIC WU;0KATAKANA LETTER ARCHAIC YI;3YE;3WU",
  "1B150 0HIRAGANA LETTER SMALL WI;3WE;3WO",
  "1B164 0KATAKANA LETTER SMALL WI;3WE;3WO;3N",
  "1BC00 0DUPLOYAN LETTER H;2X;2P;2T;2F;2K;2L;2B;2D;2V;2G;2R;2P N;2D S;2F N;2K M;2R S;2TH",
  "1BC12 2SLOAN DH;2DH;2KK;2SLOAN J;2HL;2LH;2RH;2M;2N;2J;2S;2M N;2N M;2J M;2S J;2M WITH DOT",
  "1BC22 2N WITH DOT;2J WITH DOT;4DOTS INSIDE AND ABOVE;2S WITH DOT;4DOT BELOW;2M S;2N S;2J S;2S S",
  "1BC2B 2M N S;2N M S;2J M S;2S J S;2J S WITH DOT;3N;3N S;2S T;3T R;3P;3P R;2T S;3R S;2W;2WH;2W R",
  "1BC3B 2S N;3M;2K R S;2G R S;2S K;3K R;2A;2SLOAN OW;2OA;2O;2AOU;2I;2E;2IE;2SHORT I;2UI;2EE",
  "1BC4C 2SLOAN EH;2ROMANIAN I;2SLOAN EE;2LONG I;2YE;2U;2EU;2XW;2U N;2LONG U;2ROMANIAN U;2UH",
  "1BC58 2SLOAN U;2OOH;2OW;2OU;2WA;2WO;2WI;2WEI;2WOW;2NASAL U;3O;3I;3A;2PERNIN AN;3AM;2SLOAN EN",
  "1BC68 3AN;3ON;2VOCALIC M",
  "1BC70 1AFFIX LEFT HORIZONTAL SECANT;2MID HORIZONTAL SECANT;2RIGHT HORIZONTAL SECANT",
  "1BC73 2LOW VERTICAL SECANT;2MID VERTICAL SECANT;2HIGH VERTICAL SECANT;2ATTACHED SECANT",
  "1BC77 3LEFT-TO-RIGHT SECANT;3TANGENT;3TAIL;3E HOOK;3I HOOK;3TANGENT HOOK",
  "1BC80 2HIGH ACUTE;3TIGHT ACUTE;3GRAVE;3LONG GRAVE;3DOT;3CIRCLE;3LINE;3WAVE;3VERTICAL",
  "1BC90 2LOW ACUTE;3TIGHT ACUTE;3GRAVE;3LONG GRAVE;3DOT;3CIRCLE;3LINE;3WAVE;3VERTICAL;3ARROW",
  "1BC9C 1SIGN O WITH CROSS;1THICK LETTER SELECTOR;1DOUBLE MARK;1PUNCTUATION CHINOOK FULL STOP",
  "1BCA0 0SHORTHAND FORMAT LETTER OVERLAP;2CONTINUING OVERLAP;2DOWN STEP;2UP STEP",
  "1CF00 0ZNAMENNY COMBINING MARK GORAZDO NIZKO S KRYZHEM ON LEFT;3NIZKO S KRYZHEM ON LEFT",
  "1CF02 3TSATA ON LEFT;3GORAZDO NIZKO ON LEFT;3NIZKO ON LEFT;3SREDNE ON LEFT",
  "1CF06 3MALO POVYSHE ON LEFT;3POVYSHE ON LEFT;3VYSOKO ON LEFT;3MALO POVYSHE S KHOKHLOM ON LEFT",
  "1CF0A 3POVYSHE S KHOKHLOM ON LEFT;3VYSOKO S KHOKHLOM ON LEFT;3GORAZDO NIZKO S KRYZHEM ON RIGHT",
  "1CF0D 3NIZKO S KRYZHEM ON RIGHT;3TSATA ON RIGHT;3GORAZDO NIZKO ON RIGHT;3NIZKO ON RIGHT",
  "1CF11 3SREDNE ON RIGHT;3MALO POVYSHE ON RIGHT;3POVYSHE ON RIGHT;3VYSOKO ON RIGHT",
  "1CF15 3MALO POVYSHE S KHOKHLOM ON RIGHT;3POVYSHE S KHOKHLOM ON RIGHT",
  "1CF17 3VYSOKO S KHOKHLOM ON RIGHT;3TSATA S KRYZHEM;3MALO POVYSHE S KRYZHEM",
  "1CF1A 3STRANNO MALO POVYSHE;3POVYSHE S KRYZHEM;4STRANNO;3VYSOKO S KRYZHEM;3MALO POVYSHE STRANNO",
  "1CF1F 3GORAZDO VYSOKO;3ZELO;3ON;3RAVNO;3TIKHAYA;3BORZAYA;3UDARKA;3PODVERTKA;3LOMKA;3KUPNAYA",
  "1CF29 3KACHKA;3ZEVOK;3SKOBA;3RAZSEKA;3KRYZH ON LEFT",
  "1CF30 2TONAL RANGE MARK MRACHNO;5SVETLO;5TRESVETLO;2MARK ZADERZHKA;3DEMESTVENNY ZADERZHKA",
  "1CF35 3OTSECHKA;3PODCHASHIE;3PODCHASHIE WITH VERTICAL STROKE;3CHASHKA;3CHASHKA POLNAYA",
  "1CF3A 3OBLACHKO;3SOROCHYA NOZHKA;3TOCHKA;3DVOETOCHIE;2ATTACHING VERTICAL OMET;2MARK CURVED OMET",
  "1CF40 3KRYZH;2LOWER TONAL RANGE INDICATOR;1PRIZNAK MODIFIER LEVEL-2;43;3DIRECTION FLIP;3KRYZH",
  "1CF46 3ROG",
  "1CF50 1NEUME KRYUK;2KRYUK TIKHY;2PARAKLIT;2DVA V CHELNU;2KLYUCH;2ZANOZHEK;2STOPITSA",
  "1CF57 2STOPITSA S OCHKOM;2PEREVODKA;2PEREVODKA NEPOSTOYANNAYA;2STOPITSA WITH SOROCHYA NOZHKA",
  "1CF5B 2CHELYUSTKA;2PALKA;2ZAPYATAYA;2GOLUBCHIK BORZY;3TIKHY;3MRACHNY;3SVETLY;3TRESVETLY",
  "1CF63 2VRAKHIYA PROSTAYA;3MRACHNAYA;3SVETLAYA;3TRESVETLAYA;3KLYUCHEVAYA PROSTAYA;4MRACHNAYA",
  "1CF69 4SVETLAYA;4TRESVETLAYA;2DOUBLE ZAPYATAYA;2REVERSED CHELYUSTKA;2DERBITSA;2KHAMILO;2CHASHKA",
  "1CF70 2PODCHASHIE;2SKAMEYTSA MRACHNAYA;3SVETLAYA;3TRESVETLAYA;3TIKHAYA;2DEMESTVENNY KLYUCH",
  "1CF76 2SKAMEYTSA KLYUCHEVAYA SVETLAYA;3KLYUCHENEPOSTOYANNAYA;3KLYUCHEVAYA TIKHAYA",
  "1CF79 3DVOECHELNAYA PROSTAYA;4SVETLAYA;4NEPOSTOYANNAYA;4KLYUCHEVAYA;2SLOZHITIE",
  "1CF7E 2SLOZHITIE S ZAPYATOY;3ZAKRYTOE;3S KRYZHEM;2KRYZH;2ROG;2FITA;2KOBYLA;2ZMEYTSA;2STATYA",
  "1CF87 2STATYA S ZAPYATOY;4KRYZHEM;4ZAPYATOY I KRYZHEM;4KRYZHEM I ZAPYATOY;3ZAKRYTAYA",
  "1CF8C 3ZAKRYTAYA S ZAPYATOY;3S ROGOM;4DVUMYA ZAPYATYMI;4ZAPYATOY I PODCHASHIEM;2POLKULIZMY",
  "1CF91 2STATYA NEPOSTOYANNAYA;2STRELA PROSTAYA;3MRACHNOTIKHAYA;3KRYZHEVAYA;3POLUPOVODNAYA",
  "1CF96 3POVODNAYA;3NEPOSTOYANNAYA;3KLYUCHEPOVODNAYA;3KLYUCHENEPOSTOYANNAYA;3TIKHAYA PUTNAYA",
  "1CF9B 3DVOECHELNAYA;3DVOECHELNOKRYZHEVAYA;3DVOECHELNOPOVODNAYA;3DVOECHELNAYA KLYUCHEVAYA",
  "1CF9F 3DVOECHELNOPOVODNAYA KLYUCHEVAYA;3GROMNAYA WITH SINGLE ZAPYATAYA",
  "1CFA1 3GROMOPOVODNAYA WITH SINGLE ZAPYATAYA;3GROMNAYA;3GROMOPOVODNAYA",
  "1CFA4 3GROMOPOVODNAYA WITH DOUBLE ZAPYATAYA;3GROMOKRYZHEVAYA;3GROMOKRYZHEVAYA POVODNAYA;2MECHIK",
  "1CFA8 2MECHIK POVODNY;3KLYUCHEVOY;3KLYUCHEPOVODNY;3KLYUCHENEPOSTOYANNY;2STRELA TRYASOGLASNAYA",
  "1CFAD 3TRYASOPOVODNAYA;3TRYASOSTRELNAYA;2OSOKA;2OSOKA SVETLAYA;3TRESVETLAYA",
  "1CFB2 3KRYUKOVAYA SVETLAYA;3KLYUCHEVAYA SVETLAYA;4NEPOSTOYANNAYA;2STRELA KRYUKOVAYA",
  "1CFB6 3KRYUKOVAYA POVODNAYA;4GROMNAYA WITH SINGLE ZAPYATAYA",
  "1CFB8 4GROMOPOVODNAYA WITH SINGLE ZAPYATAYA;4GROMNAYA;4GROMOPOVODNAYA",
  "1CFBB 4GROMOPOVODNAYA WITH DOUBLE ZAPYATAYA;4GROMOKRYZHEVAYA;4GROMOKRYZHEVAYA POVODNAYA",
  "1CFBE 4TRYASKA;2KUFISMA;2OBLAKO;2DUDA;2NEMKA;2PAUK",
  "1D000 0BYZANTINE MUSICAL SYMBOL PSILI;3DASEIA;3PERISPOMENI;3OXEIA EKFONITIKON;4DIPLI",
  "1D005 3VAREIA EKFONITIKON;4DIPLI;3KATHISTI;3SYRMATIKI;3PARAKLITIKI;3YPOKRISIS;3YPOKRISIS DIPLI",
  "1D00C 3KREMASTI;3APESO EKFONITIKON;3EXO EKFONITIKON;3TELEIA;3KENTIMATA;3APOSTROFOS",
  "1D012 3APOSTROFOS DIPLI;3SYNEVMA;3THITA;3OLIGON ARCHAION;3GORGON ARCHAION;3PSILON;3CHAMILON",
  "1D019 3VATHY;3ISON ARCHAION;3KENTIMA ARCHAION;3KENTIMATA ARCHAION;3SAXIMATA;3PARICHON",
  "1D01F 3STAVROS APODEXIA;3OXEIAI ARCHAION;3VAREIAI ARCHAION;3APODERMA ARCHAION;3APOTHEMA;3KLASMA",
  "1D025 3REVMA;3PIASMA ARCHAION;3TINAGMA;3ANATRICHISMA;3SEISMA;3SYNAGMA ARCHAION;4META STAVROU",
  "1D02C 3OYRANISMA ARCHAION;3THEMA;3LEMOI;3DYO;3TRIA;3TESSERA;3KRATIMATA;3APESO EXO NEO",
  "1D034 3FTHORA ARCHAION;3IMIFTHORA;3TROMIKON ARCHAION;3KATAVA TROMIKON;3PELASTON;3PSIFISTON",
  "1D03A 3KONTEVMA;3CHOREVMA ARCHAION;3RAPISMA;3PARAKALESMA ARCHAION;3PARAKLITIKI ARCHAION",
  "1D03F 3ICHADIN;3NANA;3PETASMA;3KONTEVMA ALLO;3TROMIKON ALLO;3STRAGGISMATA;3GRONTHISMATA",
  "1D046 3ISON NEO;3OLIGON NEO;3OXEIA NEO;3PETASTI;3KOUFISMA;3PETASTOKOUFISMA;3KRATIMOKOUFISMA",
  "1D04D 3PELASTON NEO;3KENTIMATA NEO ANO;3KENTIMA NEO ANO;3YPSILI;3APOSTROFOS NEO",
  "1D052 3APOSTROFOI SYNDESMOS NEO;3YPORROI;3KRATIMOYPORROON;3ELAFRON;3CHAMILI;3MIKRON ISON",
  "1D058 3VAREIA NEO;3PIASMA NEO;3PSIFISTON NEO;3OMALON;3ANTIKENOMA;3LYGISMA;3PARAKLITIKI NEO",
  "1D05F 3PARAKALESMA NEO;3ETERON PARAKALESMA;3KYLISMA;3ANTIKENOKYLISMA;3TROMIKON NEO;3EKSTREPTON",
  "1D065 3SYNAGMA NEO;3SYRMA;3CHOREVMA NEO;3EPEGERMA;3SEISMA NEO;3XIRON KLASMA;3TROMIKOPSIFISTON",
  "1D06C 3PSIFISTOLYGISMA;3TROMIKOLYGISMA;3TROMIKOPARAKALESMA;3PSIFISTOPARAKALESMA;3TROMIKOSYNAGMA",
  "1D071 3PSIFISTOSYNAGMA;3GORGOSYNTHETON;3ARGOSYNTHETON;3ETERON ARGOSYNTHETON;3OYRANISMA NEO",
  "1D076 3THEMATISMOS ESO;4EXO;3THEMA APLOUN;3THES KAI APOTHES;3KATAVASMA;3ENDOFONON;3YFEN KATO",
  "1D07D 4ANO;3STAVROS;3KLASMA ANO;3DIPLI ARCHAION;3KRATIMA ARCHAION;4ALLO;4NEO;3APODERMA NEO",
  "1D085 3APLI;3DIPLI;3TRIPLI;3TETRAPLI;3KORONIS;3LEIMMA ENOS CHRONOU;4DYO CHRONON;4TRION CHRONON",
  "1D08D 4TESSARON CHRONON;4IMISEOS CHRONOU;3GORGON NEO ANO;4PARESTIGMENON ARISTERA;5DEXIA",
  "1D092 3DIGORGON;3DIGORGON PARESTIGMENON ARISTERA KATO;6ANO;5DEXIA;3TRIGORGON;3ARGON;3IMIDIARGON",
  "1D099 3DIARGON;3AGOGI POLI ARGI;4ARGOTERI;4ARGI;4METRIA;4MESI;4GORGI;4GORGOTERI;4POLI GORGI",
  "1D0A2 3MARTYRIA PROTOS ICHOS;4ALLI PROTOS ICHOS;4DEYTEROS ICHOS;4ALLI DEYTEROS ICHOS",
  "1D0A6 4TRITOS ICHOS;4TRIFONIAS;4TETARTOS ICHOS;5LEGETOS ICHOS;4LEGETOS ICHOS;4PLAGIOS ICHOS",
  "1D0AC 3ISAKIA TELOUS ICHIMATOS;3APOSTROFOI TELOUS ICHIMATOS;3FANEROSIS TETRAFONIAS;4MONOFONIAS",
  "1D0B0 4DIFONIAS;3MARTYRIA VARYS ICHOS;4PROTOVARYS ICHOS;4PLAGIOS TETARTOS ICHOS",
  "1D0B4 3GORTHMIKON N APLOUN;5DIPLOUN;3ENARXIS KAI FTHORA VOU;3IMIFONON;3IMIFTHORON",
  "1D0B9 3FTHORA ARCHAION DEYTEROU ICHOU;4DIATONIKI PA;5NANA;4NAOS ICHOS;4DIATONIKI DI",
  "1D0BE 4SKLIRON DIATONON DI;4DIATONIKI KE;5ZO;5NI KATO;6ANO;4MALAKON CHROMA DIFONIAS;6MONOFONIAS",
  "1D0C5 3FHTORA SKLIRON CHROMA VASIS;3FTHORA SKLIRON CHROMA SYNAFI;4NENANO;3CHROA ZYGOS;4KLITON",
  "1D0CA 4SPATHI;3FTHORA I YFESIS TETARTIMORION;4ENARMONIOS ANTIFONIA;3YFESIS TRITIMORION",
  "1D0CE 3DIESIS TRITIMORION;4TETARTIMORION;4APLI DYO DODEKATA;4MONOGRAMMOS TESSERA DODEKATA",
  "1D0D2 4DIGRAMMOS EX DODEKATA;4TRIGRAMMOS OKTO DODEKATA;3YFESIS APLI DYO DODEKATA",
  "1D0D5 4MONOGRAMMOS TESSERA DODEKATA;4DIGRAMMOS EX DODEKATA;4TRIGRAMMOS OKTO DODEKATA",
  "1D0D8 3GENIKI DIESIS;4YFESIS;3DIASTOLI APLI MIKRI;5MEGALI;4DIPLI;4THESEOS;3SIMANSIS THESEOS",
  "1D0DF 4THESEOS DISIMOU;5TRISIMOU;5TETRASIMOU;4ARSEOS;4ARSEOS DISIMOU;5TRISIMOU;5TETRASIMOU",
  "1D0E6 3DIGRAMMA GG;3DIFTOGGOS OU;3STIGMA;3ARKTIKO PA;4VOU;4GA;4DI;4KE;4ZO;4NI",
  "1D0F0 3KENTIMATA NEO MESO;3KENTIMA NEO MESO;3KENTIMATA NEO KATO;3KENTIMA NEO KATO;3KLASMA KATO",
  "1D0F5 3GORGON NEO KATO",
  "1D100 0MUSICAL SYMBOL SINGLE BARLINE;2DOUBLE BARLINE;2FINAL BARLINE;2REVERSE FINAL BARLINE",
  "1D104 2DASHED BARLINE;2SHORT BARLINE;2LEFT REPEAT SIGN;2RIGHT REPEAT SIGN;2REPEAT DOTS",
  "1D109 2DAL SEGNO;2DA CAPO;2SEGNO;2CODA;2REPEATED FIGURE-1;42;43;2FERMATA;2FERMATA BELOW",
  "1D112 2BREATH MARK;2CAESURA;2BRACE;2BRACKET;2ONE-LINE STAFF;2TWO-LINE STAFF;2THREE-LINE STAFF",
  "1D119 2FOUR-LINE STAFF;2FIVE-LINE STAFF;2SIX-LINE STAFF;3STRING FRETBOARD",
  "1D11D 2FOUR-STRING FRETBOARD;2G CLEF;3CLEF OTTAVA ALTA;5BASSA;2C CLEF;2F CLEF;3CLEF OTTAVA ALTA",
  "1D124 5BASSA;2DRUM CLEF-1;42",
  "1D129 2MULTIPLE MEASURE REST;2DOUBLE SHARP;3FLAT;2FLAT UP;3DOWN;2NATURAL UP;3DOWN;2SHARP UP",
  "1D131 3DOWN;2QUARTER TONE SHARP;4FLAT;2COMMON TIME;2CUT TIME;2OTTAVA ALTA;3BASSA",
  "1D138 2QUINDICESIMA ALTA;3BASSA;2MULTI REST;2WHOLE REST;2HALF REST;2QUARTER REST;2EIGHTH REST",
  "1D13F 2SIXTEENTH REST;2THIRTY-SECOND REST;2SIXTY-FOURTH REST;2ONE HUNDRED TWENTY-EIGHTH REST",
  "1D143 2X NOTEHEAD;2PLUS NOTEHEAD;2CIRCLE X NOTEHEAD;2SQUARE NOTEHEAD WHITE;4BLACK",
  "1D148 2TRIANGLE NOTEHEAD UP WHITE;5BLACK;4LEFT WHITE;5BLACK;4RIGHT WHITE;5BLACK;4DOWN WHITE",
  "1D14F 5BLACK;4UP RIGHT WHITE;6BLACK;2MOON NOTEHEAD WHITE;4BLACK",
  "1D154 2TRIANGLE-ROUND NOTEHEAD DOWN WHITE;6BLACK;2PARENTHESIS NOTEHEAD;2VOID NOTEHEAD",
  "1D158 2NOTEHEAD BLACK;2NULL NOTEHEAD;2CLUSTER NOTEHEAD WHITE;4BLACK;2BREVE;2WHOLE NOTE",
  "1D15E 2HALF NOTE;2QUARTER NOTE;2EIGHTH NOTE;2SIXTEENTH NOTE;2THIRTY-SECOND NOTE",
  "1D163 2SIXTY-FOURTH NOTE;2ONE HUNDRED TWENTY-EIGHTH NOTE;2COMBINING STEM;3SPRECHGESANG STEM",
  "1D167 3TREMOLO-1;42;43;2FINGERED TREMOLO-1;42;43;2COMBINING AUGMENTATION DOT;3FLAG-1;42;43;44",
  "1D172 45;2BEGIN BEAM;2END BEAM;2BEGIN TIE;2END TIE;2BEGIN SLUR;2END SLUR;2BEGIN PHRASE",
  "1D17A 2END PHRASE;2COMBINING ACCENT;3STACCATO;3TENUTO;3STACCATISSIMO;3MARCATO;3MARCATO-STACCATO",
  "1D181 3ACCENT-STACCATO;3LOURE;2ARPEGGIATO UP;3DOWN;2COMBINING DOIT;3RIP;3FLIP;3SMEAR;3BEND",
  "1D18A 3DOUBLE TONGUE;3TRIPLE TONGUE;2RINFORZANDO;2SUBITO;2Z;2PIANO;2MEZZO;2FORTE;2CRESCENDO",
  "1D193 2DECRESCENDO;2GRACE NOTE SLASH;4NO SLASH;2TR;2TURN;2INVERTED TURN;2TURN SLASH;3UP",
  "1D19B 2ORNAMENT STROKE-1;42;43;44;45;46;47;48;49;410;411;2HAUPTSTIMME;2NEBENSTIMME",
  "1D1A8 2END OF STIMME;2DEGREE SLASH;2COMBINING DOWN BOW;3UP BOW;3HARMONIC;3SNAP PIZZICATO",
  "1D1AE 2PEDAL MARK;3UP MARK;2HALF PEDAL MARK;2GLISSANDO UP;3DOWN;2WITH FINGERNAILS;2DAMP",
  "1D1B5 2DAMP ALL;2MAXIMA;2LONGA;2BREVIS;2SEMIBREVIS WHITE;3BLACK;2MINIMA;2MINIMA BLACK",
  "1D1BD 2SEMIMINIMA WHITE;3BLACK;2FUSA WHITE;3BLACK;2LONGA PERFECTA REST;3IMPERFECTA REST",
  "1D1C3 2BREVIS REST;2SEMIBREVIS REST;2MINIMA REST;2SEMIMINIMA REST",
  "1D1C7 2TEMPUS PERFECTUM CUM PROLATIONE PERFECTA;6IMPERFECTA;6PERFECTA DIMINUTION-1",
  "1D1CA 3IMPERFECTUM CUM PROLATIONE PERFECTA;6IMPERFECTA;6IMPERFECTA DIMINUTION-1;82;83;2CROIX",
  "1D1D0 2GREGORIAN C CLEF;3F CLEF;2SQUARE B;2VIRGA;2PODATUS;2CLIVIS;2SCANDICUS;2CLIMACUS",
  "1D1D8 2TORCULUS;2PORRECTUS;2PORRECTUS FLEXUS;2SCANDICUS FLEXUS;2TORCULUS RESUPINUS",
  "1D1DD 2PES SUBPUNCTIS;2KIEVAN C CLEF;3END OF PIECE;3FINAL NOTE;3RECITATIVE MARK;3WHOLE NOTE",
  "1D1E3 3HALF NOTE;3QUARTER NOTE STEM DOWN;6UP;3EIGHTH NOTE STEM DOWN;6UP;3FLAT SIGN;2SORI;2KORON",
  "1D200 0GREEK VOCAL NOTATION SYMBOL-1;42;43;44;45;46;47;48;49;410;411;412;413;414;415;416;417",
  "1D211 418;419;420;421;422;423;424;450;451;452;453;454;1INSTRUMENTAL NOTATION SYMBOL-1;42;44;45",
  "1D221 47;48;411;412;413;414;417;418;419;423;424;425;426;427;429;430;432;436;437;438;439;440;442",
  "1D238 443;445;447;448;449;450;451;452;453;454;0COMBINING GREEK MUSICAL TRISEME;3TETRASEME",
  "1D244 3PENTASEME;0GREEK MUSICAL LEIMMA",
  "1D2E0 0MAYAN NUMERAL ZERO;2ONE;2TWO;2THREE;2FOUR;2FIVE;2SIX;2SEVEN;2EIGHT;2NINE;2TEN;2ELEVEN",
  "1D2EC 2TWELVE;2THIRTEEN;2FOURTEEN;2FIFTEEN;2SIXTEEN;2SEVENTEEN;2EIGHTEEN;2NINETEEN",
  "1D300 0MONOGRAM FOR EARTH;0DIGRAM FOR HEAVENLY EARTH;2HUMAN EARTH;2EARTHLY HEAVEN;3HUMAN;2EARTH",
  "1D306 0TETRAGRAM FOR CENTRE;2FULL CIRCLE;2MIRED;2BARRIER;2KEEPING SMALL;2CONTRARIETY;2ASCENT",
  "1D30D 2OPPOSITION;2BRANCHING OUT;2DEFECTIVENESS OR DISTORTION;2DIVERGENCE;2YOUTHFULNESS",
  "1D312 2INCREASE;2PENETRATION;2REACH;2CONTACT;2HOLDING BACK;2WAITING;2FOLLOWING;2ADVANCE",
  "1D31A 2RELEASE;2RESISTANCE;2EASE;2JOY;2CONTENTION;2ENDEAVOUR;2DUTIES;2CHANGE;2DECISIVENESS",
  "1D323 2BOLD RESOLUTION;2PACKING;2LEGION;2CLOSENESS;2KINSHIP;2GATHERING;2STRENGTH;2PURITY",
  "1D32B 2FULLNESS;2RESIDENCE;2LAW OR MODEL;2RESPONSE;2GOING TO MEET;2ENCOUNTERS;2STOVE;2GREATNESS",
  "1D333 2ENLARGEMENT;2PATTERN;2RITUAL;2FLIGHT;2VASTNESS OR WASTING;2CONSTANCY;2MEASURE;2ETERNITY",
  "1D33B 2UNITY;2DIMINISHMENT;2CLOSED MOUTH;2GUARDEDNESS;2GATHERING IN;2MASSING;2ACCUMULATION",
  "1D342 2EMBELLISHMENT;2DOUBT;2WATCH;2SINKING;2INNER;2DEPARTURE;2DARKENING;2DIMMING;2EXHAUSTION",
  "1D34B 2SEVERANCE;2STOPPAGE;2HARDNESS;2COMPLETION;2CLOSURE;2FAILURE;2AGGRAVATION;2COMPLIANCE",
  "1D353 2ON THE VERGE;2DIFFICULTIES;2LABOURING;2FOSTERING",
  "1D360 0COUNTING ROD UNIT DIGIT ONE;4TWO;4THREE;4FOUR;4FIVE;4SIX;4SEVEN;4EIGHT;4NINE",
  "1D369 2TENS DIGIT ONE;4TWO;4THREE;4FOUR;4FIVE;4SIX;4SEVEN;4EIGHT;4NINE",
  "1D372 0IDEOGRAPHIC TALLY MARK ONE;3TWO;3THREE;3FOUR;3FIVE;0TALLY MARK ONE;2FIVE",
  "1D400 0MATHEMATICAL BOLD CAPITAL A;3B;3C;3D;3E;3F;3G;3H;3I;3J;3K;3L;3M;3N;3O;3P;3Q;3R;3S;3T;3U",
  "1D415 3V;3W;3X;3Y;3Z;2SMALL A;3B;3C;3D;3E;3F;3G;3H;3I;3J;3K;3L;3M;3N;3O;3P;3Q;3R;3S;3T;3U;3V;3W",
  "1D431 3X;3Y;3Z;1ITALIC CAPITAL A;3B;3C;3D;3E;3F;3G;3H;3I;3J;3K;3L;3M;3N;3O;3P;3Q;3R;3S;3T;3U;3V",
  "1D44A 3W;3X;3Y;3Z;2SMALL A;3B;3C;3D;3E;3F;3G",
  "1D456 3I;3J;3K;3L;3M;3N;3O;3P;3Q;3R;3S;3T;3U;3V;3W;3X;3Y;3Z;1BOLD ITALIC CAPITAL A;4B;4C;4D;4E",
  "1D46D 4F;4G;4H;4I;4J;4K;4L;4M;4N;4O;4P;4Q;4R;4S;4T;4U;4V;4W;4X;4Y;4Z;3SMALL A;4B;4C;4D;4E;4F;4G",
  "1D489 4H;4I;4J;4K;4L;4M;4N;4O;4P;4Q;4R;4S;4T;4U;4V;4W;4X;4Y;4Z;1SCRIPT CAPITAL A",
  "1D49E 3C;3D",
  "1D4A2 3G",
  "1D4A5 3J;3K",
  "1D4A9 3N;3O;3P;3Q",
  "1D4AE 3S;3T;3U;3V;3W;3X;3Y;3Z;2SMALL A;3B;3C;3D",
  "1D4BB 3F",
  "1D4BD 3H;3I;3J;3K;3L;3M;3N",
  "1D4C5 3P;3Q;3R;3S;3T;3U;3V;3W;3X;3Y;3Z;1BOLD SCRIPT CAPITAL A;4B;4C;4D;4E;4F;4G;4H;4I;4J;4K;4L",
  "1D4DC 4M;4N;4O;4P;4Q;4R;4S;4T;4U;4V;4W;4X;4Y;4Z;3SMALL A;4B;4C;4D;4E;4F;4G;4H;4I;4J;4K;4L;4M;4N",
  "1D4F8 4O;4P;4Q;4R;4S;4T;4U;4V;4W;4X;4Y;4Z;1FRAKTUR CAPITAL A;3B",
  "1D507 3D;3E;3F;3G",
  "1D50D 3J;3K;3L;3M;3N;3O;3P;3Q",
  "1D516 3S;3T;3U;3V;3W;3X;3Y",
  "1D51E 2SMALL A;3B;3C;3D;3E;3F;3G;3H;3I;3J;3K;3L;3M;3N;3O;3P;3Q;3R;3S;3T;3U;3V;3W;3X;3Y;3Z",
  "1D538 1DOUBLE-STRUCK CAPITAL A;4B",
  "1D53B 4D;4E;4F;4G",
  "1D540 4I;4J;4K;4L;4M",
  "1D546 4O",
  "1D54A 4S;4T;4U;4V;4W;4X;4Y",
  "1D552 3SMALL A;4B;4C;4D;4E;4F;4G;4H;4I;4J;4K;4L;4M;4N;4O;4P;4Q;4R;4S;4T;4U;4V;4W;4X;4Y;4Z",
  "1D56C 1BOLD FRAKTUR CAPITAL A;4B;4C;4D;4E;4F;4G;4H;4I;4J;4K;4L;4M;4N;4O;4P;4Q;4R;4S;4T;4U;4V;4W",
  "1D583 4X;4Y;4Z;3SMALL A;4B;4C;4D;4E;4F;4G;4H;4I;4J;4K;4L;4M;4N;4O;4P;4Q;4R;4S;4T;4U;4V;4W;4X;4Y",
  "1D59F 4Z;1SANS-SERIF CAPITAL A;4B;4C;4D;4E;4F;4G;4H;4I;4J;4K;4L;4M;4N;4O;4P;4Q;4R;4S;4T;4U;4V",
  "1D5B6 4W;4X;4Y;4Z;3SMALL A;4B;4C;4D;4E;4F;4G;4H;4I;4J;4K;4L;4M;4N;4O;4P;4Q;4R;4S;4T;4U;4V;4W;4X",
  "1D5D2 4Y;4Z;3BOLD CAPITAL A;5B;5C;5D;5E;5F;5G;5H;5I;5J;5K;5L;5M;5N;5O;5P;5Q;5R;5S;5T;5U;5V;5W",
  "1D5EB 5X;5Y;5Z;4SMALL A;5B;5C;5D;5E;5F;5G;5H;5I;5J;5K;5L;5M;5N;5O;5P;5Q;5R;5S;5T;5U;5V;5W;5X;5Y",
  "1D607 5Z;3ITALIC CAPITAL A;5B;5C;5D;5E;5F;5G;5H;5I;5J;5K;5L;5M;5N;5O;5P;5Q;5R;5S;5T;5U;5V;5W;5X",
  "1D620 5Y;5Z;4SMALL A;5B;5C;5D;5E;5F;5G;5H;5I;5J;5K;5L;5M;5N;5O;5P;5Q;5R;5S;5T;5U;5V;5W;5X;5Y;5Z",
  "1D63C 3BOLD ITALIC CAPITAL A;6B;6C;6D;6E;6F;6G;6H;6I;6J;6K;6L;6M;6N;6O;6P;6Q;6R;6S;6T;6U;6V;6W",
  "1D653 6X;6Y;6Z;5SMALL A;6B;6C;6D;6E;6F;6G;6H;6I;6J;6K;6L;6M;6N;6O;6P;6Q;6R;6S;6T;6U;6V;6W;6X;6Y",
  "1D66F 6Z;1MONOSPACE CAPITAL A;3B;3C;3D;3E;3F;3G;3H;3I;3J;3K;3L;3M;3N;3O;3P;3Q;3R;3S;3T;3U;3V;3W",
  "1D687 3X;3Y;3Z;2SMALL A;3B;3C;3D;3E;3F;3G;3H;3I;3J;3K;3L;3M;3N;3O;3P;3Q;3R;3S;3T;3U;3V;3W;3X;3Y",
  "1D6A3 3Z;1ITALIC SMALL DOTLESS I;4J",
  "1D6A8 1BOLD CAPITAL ALPHA;3BETA;3GAMMA;3DELTA;3EPSILON;3ZETA;3ETA;3THETA;3IOTA;3KAPPA;3LAMDA",
  "1D6B3 3MU;3NU;3XI;3OMICRON;3PI;3RHO;3THETA SYMBOL;3SIGMA;3TAU;3UPSILON;3PHI;3CHI;3PSI;3OMEGA",
  "1D6C1 2NABLA;2SMALL ALPHA;3BETA;3GAMMA;3DELTA;3EPSILON;3ZETA;3ETA;3THETA;3IOTA;3KAPPA;3LAMDA",
  "1D6CD 3MU;3NU;3XI;3OMICRON;3PI;3RHO;3FINAL SIGMA;3SIGMA;3TAU;3UPSILON;3PHI;3CHI;3PSI;3OMEGA",
  "1D6DB 2PARTIAL DIFFERENTIAL;2EPSILON SYMBOL;2THETA SYMBOL;2KAPPA SYMBOL;2PHI SYMBOL;2RHO SYMBOL",
  "1D6E1 2PI SYMBOL;1ITALIC CAPITAL ALPHA;3BETA;3GAMMA;3DELTA;3EPSILON;3ZETA;3ETA;3THETA;3IOTA",
  "1D6EB 3KAPPA;3LAMDA;3MU;3NU;3XI;3OMICRON;3PI;3RHO;3THETA SYMBOL;3SIGMA;3TAU;3UPSILON;3PHI;3CHI",
  "1D6F9 3PSI;3OMEGA;2NABLA;2SMALL ALPHA;3BETA;3GAMMA;3DELTA;3EPSILON;3ZETA;3ETA;3THETA;3IOTA",
  "1D705 3KAPPA;3LAMDA;3MU;3NU;3XI;3OMICRON;3PI;3RHO;3FINAL SIGMA;3SIGMA;3TAU;3UPSILON;3PHI;3CHI",
  "1D713 3PSI;3OMEGA;2PARTIAL DIFFERENTIAL;2EPSILON SYMBOL;2THETA SYMBOL;2KAPPA SYMBOL;2PHI SYMBOL",
  "1D71A 2RHO SYMBOL;2PI SYMBOL;1BOLD ITALIC CAPITAL ALPHA;4BETA;4GAMMA;4DELTA;4EPSILON;4ZETA;4ETA",
  "1D723 4THETA;4IOTA;4KAPPA;4LAMDA;4MU;4NU;4XI;4OMICRON;4PI;4RHO;4THETA SYMBOL;4SIGMA;4TAU",
  "1D730 4UPSILON;4PHI;4CHI;4PSI;4OMEGA;3NABLA;3SMALL ALPHA;4BETA;4GAMMA;4DELTA;4EPSILON;4ZETA",
  "1D73C 4ETA;4THETA;4IOTA;4KAPPA;4LAMDA;4MU;4NU;4XI;4OMICRON;4PI;4RHO;4FINAL SIGMA;4SIGMA;4TAU",
  "1D74A 4UPSILON;4PHI;4CHI;4PSI;4OMEGA;3PARTIAL DIFFERENTIAL;3EPSILON SYMBOL;3THETA SYMBOL",
  "1D752 3KAPPA SYMBOL;3PHI SYMBOL;3RHO SYMBOL;3PI SYMBOL;1SANS-SERIF BOLD CAPITAL ALPHA;5BETA",
  "1D758 5GAMMA;5DELTA;5EPSILON;5ZETA;5ETA;5THETA;5IOTA;5KAPPA;5LAMDA;5MU;5NU;5XI;5OMICRON;5PI",
  "1D766 5RHO;5THETA SYMBOL;5SIGMA;5TAU;5UPSILON;5PHI;5CHI;5PSI;5OMEGA;4NABLA;4SMALL ALPHA;5BETA",
  "1D772 5GAMMA;5DELTA;5EPSILON;5ZETA;5ETA;5THETA;5IOTA;5KAPPA;5LAMDA;5MU;5NU;5XI;5OMICRON;5PI",
  "1D780 5RHO;5FINAL SIGMA;5SIGMA;5TAU;5UPSILON;5PHI;5CHI;5PSI;5OMEGA;4PARTIAL DIFFERENTIAL",
  "1D78A 4EPSILON SYMBOL;4THETA SYMBOL;4KAPPA SYMBOL;4PHI SYMBOL;4RHO SYMBOL;4PI SYMBOL",
  "1D790 4ITALIC CAPITAL ALPHA;6BETA;6GAMMA;6DELTA;6EPSILON;6ZETA;6ETA;6THETA;6IOTA;6KAPPA;6LAMDA",
  "1D79B 6MU;6NU;6XI;6OMICRON;6PI;6RHO;6THETA SYMBOL;6SIGMA;6TAU;6UPSILON;6PHI;6CHI;6PSI;6OMEGA",
  "1D7A9 5NABLA;5SMALL ALPHA;6BETA;6GAMMA;6DELTA;6EPSILON;6ZETA;6ETA;6THETA;6IOTA;6KAPPA;6LAMDA",
  "1D7B5 6MU;6NU;6XI;6OMICRON;6PI;6RHO;6FINAL SIGMA;6SIGMA;6TAU;6UPSILON;6PHI;6CHI;6PSI;6OMEGA",
  "1D7C3 5PARTIAL DIFFERENTIAL;5EPSILON SYMBOL;5THETA SYMBOL;5KAPPA SYMBOL;5PHI SYMBOL;5RHO SYMBOL",
  "1D7C9 5PI SYMBOL;1BOLD CAPITAL DIGAMMA;2SMALL DIGAMMA",
  "1D7CE 2DIGIT ZERO;3ONE;3TWO;3THREE;3FOUR;3FIVE;3SIX;3SEVEN;3EIGHT;3NINE",
  "1D7D8 1DOUBLE-STRUCK DIGIT ZERO;4ONE;4TWO;4THREE;4FOUR;4FIVE;4SIX;4SEVEN;4EIGHT;4NINE",
  "1D7E2 1SANS-SERIF DIGIT ZERO;4ONE;4TWO;4THREE;4FOUR;4FIVE;4SIX;4SEVEN;4EIGHT;4NINE",
  "1D7EC 3BOLD DIGIT ZERO;5ONE;5TWO;5THREE;5FOUR;5FIVE;5SIX;5SEVEN;5EIGHT;5NINE",
  "1D7F6 1MONOSPACE DIGIT ZERO;3ONE;3TWO;3THREE;3FOUR;3FIVE;3SIX;3SEVEN;3EIGHT;3NINE",
  "1D800 0SIGNWRITING HAND-FIST INDEX;2CIRCLE INDEX;2CUP INDEX;2OVAL INDEX;2HINGE INDEX",
  "1D805 2ANGLE INDEX;2FIST INDEX BENT;2CIRCLE INDEX BENT;2FIST THUMB UNDER INDEX BENT",
  "1D809 3INDEX RAISED KNUCKLE;4CUPPED;4HINGED;4HINGED LOW;2CIRCLE INDEX HINGE;2FIST INDEX MIDDLE",
  "1D80F 2CIRCLE INDEX MIDDLE;2FIST INDEX MIDDLE BENT;5RAISED KNUCKLES;5HINGED;4UP MIDDLE HINGED",
  "1D814 4HINGED MIDDLE UP;4MIDDLE CONJOINED;5CONJOINED INDEX BENT;6MIDDLE BENT;6CUPPED;6HINGED",
  "1D81A 5CROSSED;2CIRCLE INDEX MIDDLE CROSSED;2FIST MIDDLE BENT OVER INDEX",
  "1D81D 3INDEX BENT OVER MIDDLE;4MIDDLE THUMB;2CIRCLE INDEX MIDDLE THUMB",
  "1D820 2FIST INDEX MIDDLE STRAIGHT THUMB BENT;5BENT THUMB STRAIGHT;5THUMB BENT",
  "1D823 5HINGED SPREAD THUMB SIDE;4UP MIDDLE HINGED THUMB SIDE;8CONJOINED",
  "1D826 4HINGED MIDDLE UP THUMB SIDE;4MIDDLE UP SPREAD THUMB FORWARD;5THUMB CUPPED;6CIRCLED",
  "1D82A 6HOOKED;6HINGED;3THUMB BETWEEN INDEX MIDDLE STRAIGHT;3INDEX MIDDLE CONJOINED THUMB SIDE",
  "1D82E 7SIDE CONJOINED;8BENT;3MIDDLE THUMB HOOKED INDEX UP;3INDEX THUMB HOOKED MIDDLE UP",
  "1D832 4MIDDLE CONJOINED HINGED THUMB SIDE;5CROSSED THUMB SIDE;5CONJOINED THUMB FORWARD",
  "1D835 6CUPPED THUMB FORWARD;3MIDDLE THUMB CUPPED INDEX UP;3INDEX THUMB CUPPED MIDDLE UP",
  "1D838 3MIDDLE THUMB CIRCLED INDEX UP;7HINGED;3INDEX THUMB ANGLED OUT MIDDLE UP;6IN MIDDLE UP",
  "1D83C 5CIRCLED MIDDLE UP;4MIDDLE THUMB CONJOINED HINGED;6ANGLED OUT;6ANGLED",
  "1D840 3MIDDLE THUMB ANGLED OUT INDEX UP;8CROSSED;6INDEX UP;3INDEX THUMB HOOKED MIDDLE HINGED",
  "1D844 2FLAT FOUR FINGERS;4FINGERS BENT;5HINGED;5CONJOINED;5CONJOINED SPLIT",
  "1D849 2CLAW FOUR FINGERS CONJOINED;2FIST FOUR FINGERS CONJOINED BENT",
  "1D84B 2HINGE FOUR FINGERS CONJOINED;2FLAT FIVE FINGERS SPREAD;3HEEL FIVE FINGERS SPREAD",
  "1D84E 3FIVE FINGERS SPREAD FOUR BENT;3HEEL FIVE FINGERS SPREAD FOUR BENT",
  "1D850 3FIVE FINGERS SPREAD BENT;3HEEL FIVE FINGERS SPREAD BENT",
  "1D852 3FIVE FINGERS SPREAD THUMB FORWARD;2CUP FIVE FINGERS SPREAD;5SPREAD OPEN",
  "1D855 2HINGE FIVE FINGERS SPREAD OPEN;2OVAL FIVE FINGERS SPREAD",
  "1D857 2FLAT FIVE FINGERS SPREAD HINGED;6HINGED THUMB SIDE;7NO THUMB;2FLAT",
  "1D85B 2FLAT BETWEEN PALM FACINGS;3HEEL;3THUMB SIDE;3HEEL THUMB SIDE;3THUMB BENT;4FORWARD",
  "1D861 3SPLIT INDEX THUMB SIDE;4CENTRE;4CENTRE THUMB SIDE;6SIDE BENT;4LITTLE;2CLAW",
  "1D867 2CLAW THUMB SIDE;3NO THUMB;3THUMB FORWARD;2HOOK CURLICUE;2HOOK;2CUP OPEN;2CUP",
  "1D86E 2CUP OPEN THUMB SIDE;3THUMB SIDE;3OPEN NO THUMB;3NO THUMB;3OPEN THUMB FORWARD",
  "1D873 3THUMB FORWARD;2CURLICUE OPEN;2CURLICUE;2CIRCLE;2OVAL;2OVAL THUMB SIDE;3NO THUMB",
  "1D87A 3THUMB FORWARD;2HINGE OPEN;3OPEN THUMB FORWARD;2HINGE;2HINGE SMALL;3OPEN THUMB SIDE",
  "1D880 3THUMB SIDE;3OPEN NO THUMB;3NO THUMB;3THUMB SIDE TOUCHING INDEX;4BETWEEN MIDDLE RING",
  "1D885 2ANGLE;2FIST INDEX MIDDLE RING;2CIRCLE INDEX MIDDLE RING;2HINGE INDEX MIDDLE RING",
  "1D889 2ANGLE INDEX MIDDLE RING;2HINGE LITTLE;2FIST INDEX MIDDLE RING BENT;6CONJOINED",
  "1D88D 2HINGE INDEX MIDDLE RING CONJOINED;2FIST LITTLE DOWN;4DOWN RIPPLE STRAIGHT;6CURVED",
  "1D891 5OTHERS CIRCLED;4UP;3THUMB UNDER LITTLE UP;2CIRCLE LITTLE UP;2OVAL LITTLE UP",
  "1D896 2ANGLE LITTLE UP;2FIST LITTLE RAISED KNUCKLE;4BENT;4TOUCHES THUMB;4THUMB",
  "1D89B 2HINGE LITTLE THUMB;2FIST LITTLE INDEX THUMB;2HINGE LITTLE INDEX THUMB",
  "1D89E 2ANGLE LITTLE INDEX THUMB INDEX THUMB OUT;7THUMB;2FIST LITTLE INDEX;2CIRCLE LITTLE INDEX",
  "1D8A2 2HINGE LITTLE INDEX;2ANGLE LITTLE INDEX;2FIST INDEX MIDDLE LITTLE",
  "1D8A5 2CIRCLE INDEX MIDDLE LITTLE;2HINGE INDEX MIDDLE LITTLE;3RING;2ANGLE INDEX MIDDLE LITTLE",
  "1D8A9 2FIST INDEX MIDDLE CROSS LITTLE;2CIRCLE INDEX MIDDLE CROSS LITTLE;2FIST RING DOWN",
  "1D8AC 2HINGE RING DOWN INDEX THUMB HOOK MIDDLE;2ANGLE RING DOWN MIDDLE THUMB INDEX CROSS",
  "1D8AE 2FIST RING UP;4RAISED KNUCKLE;4LITTLE;2CIRCLE RING LITTLE;2OVAL RING LITTLE",
  "1D8B3 2ANGLE RING LITTLE;2FIST RING MIDDLE;4MIDDLE CONJOINED;5RAISED KNUCKLES;4INDEX;4THUMB",
  "1D8B9 2HOOK RING THUMB;2FIST INDEX RING LITTLE;2CIRCLE INDEX RING LITTLE",
  "1D8BC 2CURLICUE INDEX RING LITTLE ON;2HOOK INDEX RING LITTLE OUT;6IN;6UNDER",
  "1D8C0 2CUP INDEX RING LITTLE;2HINGE INDEX RING LITTLE;2ANGLE INDEX RING LITTLE OUT;5LITTLE",
  "1D8C4 2FIST MIDDLE DOWN;2HINGE MIDDLE;2FIST MIDDLE UP;2CIRCLE MIDDLE UP",
  "1D8C8 2FIST MIDDLE RAISED KNUCKLE;4UP THUMB SIDE;2HOOK MIDDLE THUMB;2FIST MIDDLE THUMB LITTLE",
  "1D8CC 4LITTLE;4RING LITTLE;2CIRCLE MIDDLE RING LITTLE;2CURLICUE MIDDLE RING LITTLE ON",
  "1D8D0 2CUP MIDDLE RING LITTLE;2HINGE MIDDLE RING LITTLE;2ANGLE MIDDLE RING LITTLE OUT;6IN",
  "1D8D4 5LITTLE;2CIRCLE MIDDLE RING LITTLE BENT;2CLAW MIDDLE RING LITTLE CONJOINED",
  "1D8D7 6CONJOINED SIDE;2HOOK MIDDLE RING LITTLE CONJOINED OUT;7IN;6CONJOINED;2HINGE INDEX HINGED",
  "1D8DC 2FIST INDEX THUMB SIDE;2HINGE INDEX THUMB SIDE;2FIST INDEX THUMB SIDE THUMB DIAGONAL",
  "1D8DF 7CONJOINED;7BENT;6INDEX BENT;6BOTH BENT;6INDEX HINGE;5FORWARD INDEX STRAIGHT;7BENT;5HOOK",
  "1D8E7 5CURLICUE;5CURVE THUMB INSIDE;2CLAW INDEX THUMB CURVE THUMB INSIDE",
  "1D8EA 2FIST INDEX THUMB CURVE THUMB UNDER;5CIRCLE;2CUP INDEX THUMB;4THUMB OPEN",
  "1D8EE 2HINGE INDEX THUMB OPEN;5LARGE;4THUMB;4THUMB SMALL;2ANGLE INDEX THUMB OUT;5IN;4THUMB",
  "1D8F5 2FIST THUMB;3THUMB HEEL;4SIDE DIAGONAL;5CONJOINED;5BENT;4FORWARD;4BETWEEN INDEX MIDDLE",
  "1D8FC 5MIDDLE RING;5RING LITTLE;4UNDER TWO FINGERS;4OVER TWO FINGERS;4UNDER THREE FINGERS",
  "1D901 5FOUR FINGERS;4OVER FOUR RAISED KNUCKLES;2FIST;2FIST HEEL;1TOUCH SINGLE;2MULTIPLE",
  "1D907 2BETWEEN;1GRASP SINGLE;2MULTIPLE;2BETWEEN;1STRIKE SINGLE;2MULTIPLE;2BETWEEN;1BRUSH SINGLE",
  "1D90F 2MULTIPLE;2BETWEEN;1RUB SINGLE;2MULTIPLE;2BETWEEN;1SURFACE SYMBOLS;2BETWEEN",
  "1D916 1SQUEEZE LARGE SINGLE;2SMALL SINGLE;2LARGE MULTIPLE;2SMALL MULTIPLE;2SEQUENTIAL",
  "1D91B 1FLICK LARGE SINGLE;2SMALL SINGLE;2LARGE MULTIPLE;2SMALL MULTIPLE;2SEQUENTIAL",
  "1D920 1SQUEEZE FLICK ALTERNATING;1MOVEMENT-HINGE UP DOWN LARGE;5SMALL;4SEQUENTIAL",
  "1D924 3DOWN SEQUENTIAL;3UP DOWN ALTERNATING LARGE;6SMALL;3SIDE TO SIDE SCISSORS",
  "1D928 2WALLPLANE FINGER CONTACT;2FLOORPLANE FINGER CONTACT;2WALLPLANE SINGLE STRAIGHT SMALL",
  "1D92B 5MEDIUM;5LARGE;5LARGEST;4WRIST FLEX;3DOUBLE STRAIGHT;4WRIST FLEX;4ALTERNATING",
  "1D932 4ALTERNATING WRIST FLEX;3CROSS;3TRIPLE STRAIGHT MOVEMENT;4WRIST FLEX;4ALTERNATING",
  "1D937 4ALTERNATING WRIST FLEX;3BEND SMALL;4MEDIUM;4LARGE;3CORNER SMALL;4MEDIUM;4LARGE;4ROTATION",
  "1D93F 3CHECK SMALL;4MEDIUM;4LARGE;3BOX SMALL;4MEDIUM;4LARGE;3ZIGZAG SMALL;4MEDIUM;4LARGE",
  "1D948 3PEAKS SMALL;4MEDIUM;4LARGE;1TRAVEL-WALLPLANE ROTATION-WALLPLANE SINGLE;5DOUBLE",
  "1D94D 5ALTERNATING;4FLOORPLANE SINGLE;5DOUBLE;5ALTERNATING;3SHAKING;3ARM SPIRAL SINGLE;5DOUBLE",
  "1D954 5TRIPLE;1MOVEMENT-DIAGONAL AWAY SMALL;4MEDIUM;4LARGE;4LARGEST;3TOWARDS SMALL;4MEDIUM",
  "1D95B 4LARGE;4LARGEST;3BETWEEN AWAY SMALL;5MEDIUM;5LARGE;5LARGEST;4TOWARDS SMALL;5MEDIUM;5LARGE",
  "1D964 5LARGEST;2FLOORPLANE SINGLE STRAIGHT SMALL;5MEDIUM;5LARGE;5LARGEST;4WRIST FLEX",
  "1D96A 3DOUBLE STRAIGHT;4WRIST FLEX;4ALTERNATING;4ALTERNATING WRIST FLEX;3CROSS",
  "1D96F 3TRIPLE STRAIGHT MOVEMENT;4WRIST FLEX;4ALTERNATING MOVEMENT;5WRIST FLEX;3BEND",
  "1D974 3CORNER SMALL;4MEDIUM;4LARGE;3CHECK;3BOX SMALL;4MEDIUM;4LARGE;3ZIGZAG SMALL;4MEDIUM",
  "1D97D 4LARGE;3PEAKS SMALL;4MEDIUM;4LARGE;1TRAVEL-FLOORPLANE ROTATION-FLOORPLANE SINGLE;5DOUBLE",
  "1D983 5ALTERNATING;4WALLPLANE SINGLE;5DOUBLE;5ALTERNATING;3SHAKING",
  "1D988 1MOVEMENT-WALLPLANE CURVE QUARTER SMALL;5MEDIUM;5LARGE;5LARGEST;4HALF-CIRCLE SMALL",
  "1D98D 6MEDIUM;6LARGE;6LARGEST;4THREE-QUARTER CIRCLE SMALL;7MEDIUM;3HUMP SMALL;4MEDIUM;4LARGE",
  "1D995 3LOOP SMALL;4MEDIUM;4LARGE;4SMALL DOUBLE;3WAVE CURVE DOUBLE SMALL;6MEDIUM;6LARGE",
  "1D99C 5TRIPLE SMALL;6MEDIUM;6LARGE;3CURVE THEN STRAIGHT;3CURVED CROSS SMALL;5MEDIUM",
  "1D9A2 1ROTATION-WALLPLANE SINGLE;3DOUBLE;3ALTERNATE;1MOVEMENT-WALLPLANE SHAKING",
  "1D9A6 3CURVE HITTING FRONT WALL;3HUMP HITTING FRONT WALL;3LOOP HITTING FRONT WALL",
  "1D9A9 3WAVE HITTING FRONT WALL;1ROTATION-WALLPLANE SINGLE HITTING FRONT WALL",
  "1D9AB 3DOUBLE HITTING FRONT WALL;3ALTERNATING HITTING FRONT WALL",
  "1D9AD 1MOVEMENT-WALLPLANE CURVE HITTING CHEST;3HUMP HITTING CHEST;3LOOP HITTING CHEST",
  "1D9B0 3WAVE HITTING CHEST;1ROTATION-WALLPLANE SINGLE HITTING CHEST;3DOUBLE HITTING CHEST",
  "1D9B3 3ALTERNATING HITTING CHEST;1MOVEMENT-WALLPLANE WAVE DIAGONAL PATH SMALL;6MEDIUM;6LARGE",
  "1D9B7 2FLOORPLANE CURVE HITTING CEILING SMALL;6LARGE;3HUMP HITTING CEILING SMALL DOUBLE",
  "1D9BA 6LARGE DOUBLE;6SMALL TRIPLE;6LARGE TRIPLE;3LOOP HITTING CEILING SMALL SINGLE",
  "1D9BE 6LARGE SINGLE;6SMALL DOUBLE;6LARGE DOUBLE;3WAVE HITTING CEILING SMALL;6LARGE",
  "1D9C3 1ROTATION-FLOORPLANE SINGLE HITTING CEILING;3DOUBLE HITTING CEILING",
  "1D9C5 3ALTERNATING HITTING CEILING;1MOVEMENT-FLOORPLANE CURVE HITTING FLOOR SMALL;6LARGE",
  "1D9C8 3HUMP HITTING FLOOR SMALL DOUBLE;6LARGE DOUBLE;6TRIPLE SMALL TRIPLE;7LARGE TRIPLE",
  "1D9CC 3LOOP HITTING FLOOR SMALL SINGLE;6LARGE SINGLE;6SMALL DOUBLE;6LARGE DOUBLE",
  "1D9D0 3WAVE HITTING FLOOR SMALL;6LARGE;1ROTATION-FLOORPLANE SINGLE HITTING FLOOR",
  "1D9D3 3DOUBLE HITTING FLOOR;3ALTERNATING HITTING FLOOR;1MOVEMENT-FLOORPLANE CURVE SMALL;4MEDIUM",
  "1D9D7 4LARGE;4LARGEST;4COMBINED;3HUMP SMALL;3LOOP SMALL;3WAVE SNAKE;4SMALL;4LARGE",
  "1D9DF 1ROTATION-FLOORPLANE SINGLE;3DOUBLE;3ALTERNATING;1MOVEMENT-FLOORPLANE SHAKING PARALLEL",
  "1D9E3 2WALLPLANE ARM CIRCLE SMALL SINGLE;5MEDIUM SINGLE;5SMALL DOUBLE;5MEDIUM DOUBLE",
  "1D9E7 2FLOORPLANE ARM CIRCLE HITTING WALL SMALL SINGLE;7MEDIUM SINGLE;7LARGE SINGLE",
  "1D9EA 7SMALL DOUBLE;7MEDIUM DOUBLE;7LARGE DOUBLE;2WALLPLANE WRIST CIRCLE FRONT SINGLE;6DOUBLE",
  "1D9EF 2FLOORPLANE WRIST CIRCLE HITTING WALL SINGLE;7DOUBLE;2WALLPLANE FINGER CIRCLES SINGLE",
  "1D9F2 5DOUBLE;2FLOORPLANE FINGER CIRCLES HITTING WALL SINGLE;7DOUBLE;1DYNAMIC ARROWHEAD SMALL",
  "1D9F6 3LARGE;2FAST;2SLOW;2TENSE;2RELAXED;2SIMULTANEOUS;2SIMULTANEOUS ALTERNATING",
  "1D9FD 2EVERY OTHER TIME;2GRADUAL;1HEAD;1HEAD RIM;2MOVEMENT-WALLPLANE STRAIGHT;4TILT",
  "1DA03 3FLOORPLANE STRAIGHT;3WALLPLANE CURVE;3FLOORPLANE CURVE;2MOVEMENT CIRCLE",
  "1DA07 1FACE DIRECTION POSITION NOSE FORWARD TILTING;5UP OR DOWN;7DOWN TILTING",
  "1DA0A 1EYEBROWS STRAIGHT UP;3NEUTRAL;3DOWN;1DREAMY EYEBROWS NEUTRAL DOWN;3DOWN NEUTRAL",
  "1DA0F 3UP NEUTRAL;3NEUTRAL UP;1FOREHEAD NEUTRAL;2CONTACT;2WRINKLED;1EYES OPEN;2SQUEEZED;2CLOSED",
  "1DA17 1EYE BLINK SINGLE;3MULTIPLE;1EYES HALF OPEN;2WIDE OPEN;2HALF CLOSED;2WIDENING MOVEMENT",
  "1DA1D 1EYE WINK;1EYELASHES UP;2DOWN;2FLUTTERING;1EYEGAZE-WALLPLANE STRAIGHT;3STRAIGHT DOUBLE",
  "1DA23 4ALTERNATING;2FLOORPLANE STRAIGHT;3STRAIGHT DOUBLE;4ALTERNATING;2WALLPLANE CURVED",
  "1DA28 2FLOORPLANE CURVED;2WALLPLANE CIRCLING;1CHEEKS PUFFED;2NEUTRAL;2SUCKED;1TENSE CHEEKS HIGH",
  "1DA2E 3MIDDLE;3LOW;1EARS;1NOSE NEUTRAL;2CONTACT;2WRINKLES;2WIGGLES;1AIR BLOWING OUT;2SUCKING IN",
  "1DA37 2BLOW SMALL ROTATIONS;2SUCK SMALL ROTATIONS;1BREATH INHALE;2EXHALE;1MOUTH CLOSED NEUTRAL",
  "1DA3C 3FORWARD;3CONTACT;2SMILE;2SMILE WRINKLED;3OPEN;2FROWN;2FROWN WRINKLED;3OPEN;2OPEN CIRCLE",
  "1DA45 3FORWARD;3WRINKLED;3OVAL;3OVAL WRINKLED;4YAWN;3RECTANGLE;3RECTANGLE WRINKLED;4YAWN;2KISS",
  "1DA4E 2KISS FORWARD;3WRINKLED;2TENSE;2TENSE FORWARD;3SUCKED;1LIPS PRESSED TOGETHER",
  "1DA54 1LIP LOWER OVER UPPER;2UPPER OVER LOWER;1MOUTH CORNERS;2WRINKLES SINGLE;3DOUBLE",
  "1DA59 1TONGUE STICKING OUT FAR;2LICKING LIPS;2TIP BETWEEN LIPS;3TOUCHING INSIDE MOUTH",
  "1DA5D 2INSIDE MOUTH RELAXED;2MOVES AGAINST CHEEK;2CENTRE STICKING OUT;3INSIDE MOUTH;1TEETH",
  "1DA62 1TEETH MOVEMENT;2ON TONGUE;3TONGUE MOVEMENT;3LIPS;3LIPS MOVEMENT;2BITE LIPS",
  "1DA68 1MOVEMENT-WALLPLANE JAW;2FLOORPLANE JAW;1NECK;1HAIR;1EXCITEMENT;1SHOULDER HIP SPINE",
  "1DA6E 3POSITIONS;1WALLPLANE SHOULDER HIP MOVE;1FLOORPLANE SHOULDER HIP MOVE",
  "1DA71 1SHOULDER TILTING FROM WAIST;1TORSO-WALLPLANE STRAIGHT STRETCH;3CURVED BEND",
  "1DA74 2FLOORPLANE TWISTING;1UPPER BODY TILTING FROM HIP JOINTS;1LIMB COMBINATION;2LENGTH-1;32",
  "1DA79 33;34;35;36;37;1FINGER;1LOCATION-WALLPLANE SPACE;2FLOORPLANE SPACE;1LOCATION HEIGHT",
  "1DA82 2WIDTH;2DEPTH;2HEAD NECK;2TORSO;2LIMBS DIGITS;1COMMA;1FULL STOP;1SEMICOLON;1COLON",
  "1DA8B 1PARENTHESIS",
  "1DA9B 1FILL MODIFIER-2;33;34;35;36",
  "1DAA1 1ROTATION MODIFIER-2;33;34;35;36;37;38;39;310;311;312;313;314;315;316",
  "1DF00 0LATIN SMALL LETTER FENG DIGRAPH WITH TRILL;3REVERSED SCRIPT G",
  "1DF02 1LETTER SMALL CAPITAL TURNED G;1SMALL LETTER REVERSED K;1LETTER SMALL CAPITAL L WITH BELT",
  "1DF05 1SMALL LETTER LEZH WITH RETROFLEX HOOK;3TURNED Y WITH BELT;3REVERSED ENG",
  "1DF08 3TURNED R WITH LONG LEG AND RETROFLEX HOOK;3T WITH HOOK AND RETROFLEX HOOK",
  "1DF0A 1LETTER RETROFLEX CLICK WITH RETROFLEX HOOK;1SMALL LETTER ESH WITH DOUBLE BAR",
  "1DF0C 6BAR AND CURL;3TURNED T WITH CURL;1LETTER INVERTED GLOTTAL STOP WITH CURL",
  "1DF0F 2STRETCHED C WITH CURL;2SMALL CAPITAL TURNED K;1SMALL LETTER L WITH FISHHOOK",
  "1DF12 3DEZH DIGRAPH WITH PALATAL HOOK;3L WITH BELT AND PALATAL HOOK;3ENG WITH PALATAL HOOK",
  "1DF15 3TURNED R WITH PALATAL HOOK;3R WITH FISHHOOK AND PALATAL HOOK",
  "1DF17 3TESH DIGRAPH WITH PALATAL HOOK;3EZH WITH PALATAL HOOK;3DEZH DIGRAPH WITH RETROFLEX HOOK",
  "1DF1A 3I WITH STROKE AND RETROFLEX HOOK;3O WITH RETROFLEX HOOK",
  "1DF1C 3TESH DIGRAPH WITH RETROFLEX HOOK;3C WITH RETROFLEX HOOK;3S WITH CURL"]

end FormCheck.Text.CharacterName
