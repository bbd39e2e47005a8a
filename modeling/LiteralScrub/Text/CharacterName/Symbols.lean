/-!
# Names of the characters from U+2000 to U+2FFF: punctuation and symbols
-/
namespace LiteralScrub.CharacterName

/-- Each line begins with the code of its first character. Then come the names of this character
and of those that follow, each one as the number of words that it shares with the name before it,
be it in the line before, and its other words. -/
def symbols : String := "
  2000 0EN QUAD;0EM QUAD;0EN SPACE;0EM SPACE;0THREE-PER-EM SPACE;0FOUR-PER-EM SPACE
  2006 0SIX-PER-EM SPACE;0FIGURE SPACE;0PUNCTUATION SPACE;0THIN SPACE;0HAIR SPACE;0ZERO WIDTH SPACE
  200C 2NON-JOINER;2JOINER;0LEFT-TO-RIGHT MARK;0RIGHT-TO-LEFT MARK;0HYPHEN;0NON-BREAKING HYPHEN
  2012 0FIGURE DASH;0EN DASH;0EM DASH;0HORIZONTAL BAR;0DOUBLE VERTICAL LINE;1LOW LINE
  2018 0LEFT SINGLE QUOTATION MARK;0RIGHT SINGLE QUOTATION MARK;0SINGLE LOW-9 QUOTATION MARK
  201B 1HIGH-REVERSED-9 QUOTATION MARK;0LEFT DOUBLE QUOTATION MARK;0RIGHT DOUBLE QUOTATION MARK
  201E 0DOUBLE LOW-9 QUOTATION MARK;1HIGH-REVERSED-9 QUOTATION MARK;0DAGGER;0DOUBLE DAGGER;0BULLET
  2023 0TRIANGULAR BULLET;0ONE DOT LEADER;0TWO DOT LEADER;0HORIZONTAL ELLIPSIS;0HYPHENATION POINT
  2028 0LINE SEPARATOR;0PARAGRAPH SEPARATOR;0LEFT-TO-RIGHT EMBEDDING;0RIGHT-TO-LEFT EMBEDDING
  202C 0POP DIRECTIONAL FORMATTING;0LEFT-TO-RIGHT OVERRIDE;0RIGHT-TO-LEFT OVERRIDE
  202F 0NARROW NO-BREAK SPACE;0PER MILLE SIGN;1TEN THOUSAND SIGN;0PRIME;0DOUBLE PRIME;0TRIPLE PRIME
  2035 0REVERSED PRIME;1DOUBLE PRIME;1TRIPLE PRIME;0CARET;0SINGLE LEFT-POINTING ANGLE QUOTATION MARK
  203A 1RIGHT-POINTING ANGLE QUOTATION MARK;0REFERENCE MARK;0DOUBLE EXCLAMATION MARK;0INTERROBANG
  203E 0OVERLINE;0UNDERTIE;0CHARACTER TIE;0CARET INSERTION POINT;0ASTERISM;0HYPHEN BULLET
  2044 0FRACTION SLASH;0LEFT SQUARE BRACKET WITH QUILL;0RIGHT SQUARE BRACKET WITH QUILL
  2047 0DOUBLE QUESTION MARK;0QUESTION EXCLAMATION MARK;0EXCLAMATION QUESTION MARK;0TIRONIAN SIGN ET
  204B 0REVERSED PILCROW SIGN;0BLACK LEFTWARDS BULLET;1RIGHTWARDS BULLET;0LOW ASTERISK
  204F 0REVERSED SEMICOLON;0CLOSE UP;0TWO ASTERISKS ALIGNED VERTICALLY;0COMMERCIAL MINUS SIGN
  2053 0SWUNG DASH;0INVERTED UNDERTIE;0FLOWER PUNCTUATION MARK;0THREE DOT PUNCTUATION
  2057 0QUADRUPLE PRIME;0FOUR DOT PUNCTUATION;0FIVE DOT PUNCTUATION;0TWO DOT PUNCTUATION
  205B 0FOUR DOT MARK;0DOTTED CROSS;0TRICOLON;0VERTICAL FOUR DOTS;0MEDIUM MATHEMATICAL SPACE
  2060 0WORD JOINER;0FUNCTION APPLICATION;0INVISIBLE TIMES;1SEPARATOR;1PLUS
  2066 0LEFT-TO-RIGHT ISOLATE;0RIGHT-TO-LEFT ISOLATE;0FIRST STRONG ISOLATE;0POP DIRECTIONAL ISOLATE
  206A 0INHIBIT SYMMETRIC SWAPPING;0ACTIVATE SYMMETRIC SWAPPING;0INHIBIT ARABIC FORM SHAPING
  206D 0ACTIVATE ARABIC FORM SHAPING;0NATIONAL DIGIT SHAPES;0NOMINAL DIGIT SHAPES;0SUPERSCRIPT ZERO
  2071 1LATIN SMALL LETTER I
  2074 1FOUR;1FIVE;1SIX;1SEVEN;1EIGHT;1NINE;1PLUS SIGN;1MINUS;1EQUALS SIGN;1LEFT PARENTHESIS
  207E 1RIGHT PARENTHESIS;1LATIN SMALL LETTER N;0SUBSCRIPT ZERO;1ONE;1TWO;1THREE;1FOUR;1FIVE;1SIX
  2087 1SEVEN;1EIGHT;1NINE;1PLUS SIGN;1MINUS;1EQUALS SIGN;1LEFT PARENTHESIS;1RIGHT PARENTHESIS
  2090 0LATIN SUBSCRIPT SMALL LETTER A;4E;4O;4X;4SCHWA;4H;4K;4L;4M;4N;4P;4S;4T
  20A0 0EURO-CURRENCY SIGN;0COLON SIGN;0CRUZEIRO SIGN;0FRENCH FRANC SIGN;0LIRA SIGN;0MILL SIGN
  20A6 0NAIRA SIGN;0PESETA SIGN;0RUPEE SIGN;0WON SIGN;0NEW SHEQEL SIGN;0DONG SIGN;0EURO SIGN
  20AD 0KIP SIGN;0TUGRIK SIGN;0DRACHMA SIGN;0GERMAN PENNY SIGN;0PESO SIGN;0GUARANI SIGN
  20B3 0AUSTRAL SIGN;0HRYVNIA SIGN;0CEDI SIGN;0LIVRE TOURNOIS SIGN;0SPESMILO SIGN;0TENGE SIGN
  20B9 0INDIAN RUPEE SIGN;0TURKISH LIRA SIGN;0NORDIC MARK SIGN;0MANAT SIGN;0RUBLE SIGN;0LARI SIGN
  20BF 0BITCOIN SIGN;0SOM SIGN
  20D0 0COMBINING LEFT HARPOON ABOVE;1RIGHT HARPOON ABOVE;1LONG VERTICAL LINE OVERLAY
  20D3 1SHORT VERTICAL LINE OVERLAY;1ANTICLOCKWISE ARROW ABOVE;1CLOCKWISE ARROW ABOVE
  20D6 1LEFT ARROW ABOVE;1RIGHT ARROW ABOVE;1RING OVERLAY;1CLOCKWISE RING OVERLAY
  20DA 1ANTICLOCKWISE RING OVERLAY;1THREE DOTS ABOVE;1FOUR DOTS ABOVE;1ENCLOSING CIRCLE;2SQUARE
  20DF 2DIAMOND;2CIRCLE BACKSLASH;1LEFT RIGHT ARROW ABOVE;1ENCLOSING SCREEN;2KEYCAP
  20E4 2UPWARD POINTING TRIANGLE;1REVERSE SOLIDUS OVERLAY;1DOUBLE VERTICAL STROKE OVERLAY
  20E7 1ANNUITY SYMBOL;1TRIPLE UNDERDOT;1WIDE BRIDGE ABOVE;1LEFTWARDS ARROW OVERLAY
  20EB 1LONG DOUBLE SOLIDUS OVERLAY;1RIGHTWARDS HARPOON WITH BARB DOWNWARDS
  20ED 1LEFTWARDS HARPOON WITH BARB DOWNWARDS;1LEFT ARROW BELOW;1RIGHT ARROW BELOW;1ASTERISK ABOVE
  2100 0ACCOUNT OF;0ADDRESSED TO THE SUBJECT;0DOUBLE-STRUCK CAPITAL C;0DEGREE CELSIUS
  2104 0CENTRE LINE SYMBOL;0CARE OF;0CADA UNA;0EULER CONSTANT;0SCRUPLE;0DEGREE FAHRENHEIT
  210A 0SCRIPT SMALL G;1CAPITAL H;0BLACK-LETTER CAPITAL H;0DOUBLE-STRUCK CAPITAL H;0PLANCK CONSTANT
  210F 2OVER TWO PI;0SCRIPT CAPITAL I;0BLACK-LETTER CAPITAL I;0SCRIPT CAPITAL L;1SMALL L
  2114 0L B BAR SYMBOL;0DOUBLE-STRUCK CAPITAL N;0NUMERO SIGN;0SOUND RECORDING COPYRIGHT
  2118 0SCRIPT CAPITAL P;0DOUBLE-STRUCK CAPITAL P;2Q;0SCRIPT CAPITAL R;0BLACK-LETTER CAPITAL R
  211D 0DOUBLE-STRUCK CAPITAL R;0PRESCRIPTION TAKE;0RESPONSE;0SERVICE MARK;0TELEPHONE SIGN
  2122 0TRADE MARK SIGN;0VERSICLE;0DOUBLE-STRUCK CAPITAL Z;0OUNCE SIGN;0OHM SIGN;0INVERTED OHM SIGN
  2128 0BLACK-LETTER CAPITAL Z;0TURNED GREEK SMALL LETTER IOTA;0KELVIN SIGN;0ANGSTROM SIGN
  212C 0SCRIPT CAPITAL B;0BLACK-LETTER CAPITAL C;0ESTIMATED SYMBOL;0SCRIPT SMALL E;1CAPITAL E;2F
  2132 0TURNED CAPITAL F;0SCRIPT CAPITAL M;1SMALL O;0ALEF SYMBOL;0BET SYMBOL;0GIMEL SYMBOL
  2138 0DALET SYMBOL;0INFORMATION SOURCE;0ROTATED CAPITAL Q;0FACSIMILE SIGN;0DOUBLE-STRUCK SMALL PI
  213D 2GAMMA;1CAPITAL GAMMA;2PI;1N-ARY SUMMATION;0TURNED SANS-SERIF CAPITAL G;3L
  2143 0REVERSED SANS-SERIF CAPITAL L;0TURNED SANS-SERIF CAPITAL Y;0DOUBLE-STRUCK ITALIC CAPITAL D
  2146 2SMALL D;3E;3I;3J;0PROPERTY LINE;0TURNED AMPERSAND;0PER SIGN;0AKTIESELSKAB;0TURNED SMALL F
  214F 0SYMBOL FOR SAMARITAN SOURCE;0VULGAR FRACTION ONE SEVENTH;3NINTH;3TENTH;3THIRD;2TWO THIRDS
  2155 2ONE FIFTH;2TWO FIFTHS;2THREE FIFTHS;2FOUR FIFTHS;2ONE SIXTH;2FIVE SIXTHS;2ONE EIGHTH
  215C 2THREE EIGHTHS;2FIVE EIGHTHS;2SEVEN EIGHTHS;0FRACTION NUMERATOR ONE;0ROMAN NUMERAL ONE;2TWO
  2162 2THREE;2FOUR;2FIVE;2SIX;2SEVEN;2EIGHT;2NINE;2TEN;2ELEVEN;2TWELVE;2FIFTY;2ONE HUNDRED
  216E 2FIVE HUNDRED;2ONE THOUSAND;0SMALL ROMAN NUMERAL ONE;3TWO;3THREE;3FOUR;3FIVE;3SIX;3SEVEN
  2177 3EIGHT;3NINE;3TEN;3ELEVEN;3TWELVE;3FIFTY;3ONE HUNDRED;3FIVE HUNDRED;3ONE THOUSAND
  2180 0ROMAN NUMERAL ONE THOUSAND C D;2FIVE THOUSAND;2TEN THOUSAND;2REVERSED ONE HUNDRED
  2184 0LATIN SMALL LETTER REVERSED C;0ROMAN NUMERAL SIX LATE FORM;2FIFTY EARLY FORM;3THOUSAND
  2188 2ONE HUNDRED THOUSAND;0VULGAR FRACTION ZERO THIRDS;0TURNED DIGIT TWO;2THREE
  2190 0LEFTWARDS ARROW;0UPWARDS ARROW;0RIGHTWARDS ARROW;0DOWNWARDS ARROW;0LEFT RIGHT ARROW
  2195 0UP DOWN ARROW;0NORTH WEST ARROW;1EAST ARROW;0SOUTH EAST ARROW;1WEST ARROW
  219A 0LEFTWARDS ARROW WITH STROKE;0RIGHTWARDS ARROW WITH STROKE;0LEFTWARDS WAVE ARROW
  219D 0RIGHTWARDS WAVE ARROW;0LEFTWARDS TWO HEADED ARROW;0UPWARDS TWO HEADED ARROW
  21A0 0RIGHTWARDS TWO HEADED ARROW;0DOWNWARDS TWO HEADED ARROW;0LEFTWARDS ARROW WITH TAIL
  21A3 0RIGHTWARDS ARROW WITH TAIL;0LEFTWARDS ARROW FROM BAR;0UPWARDS ARROW FROM BAR
  21A6 0RIGHTWARDS ARROW FROM BAR;0DOWNWARDS ARROW FROM BAR;0UP DOWN ARROW WITH BASE
  21A9 0LEFTWARDS ARROW WITH HOOK;0RIGHTWARDS ARROW WITH HOOK;0LEFTWARDS ARROW WITH LOOP
  21AC 0RIGHTWARDS ARROW WITH LOOP;0LEFT RIGHT WAVE ARROW;2ARROW WITH STROKE;0DOWNWARDS ZIGZAG ARROW
  21B0 0UPWARDS ARROW WITH TIP LEFTWARDS;4RIGHTWARDS;0DOWNWARDS ARROW WITH TIP LEFTWARDS;4RIGHTWARDS
  21B4 0RIGHTWARDS ARROW WITH CORNER DOWNWARDS;0DOWNWARDS ARROW WITH CORNER LEFTWARDS
  21B6 0ANTICLOCKWISE TOP SEMICIRCLE ARROW;0CLOCKWISE TOP SEMICIRCLE ARROW
  21B8 0NORTH WEST ARROW TO LONG BAR;0LEFTWARDS ARROW TO BAR OVER RIGHTWARDS ARROW TO BAR
  21BA 0ANTICLOCKWISE OPEN CIRCLE ARROW;0CLOCKWISE OPEN CIRCLE ARROW
  21BC 0LEFTWARDS HARPOON WITH BARB UPWARDS;4DOWNWARDS;0UPWARDS HARPOON WITH BARB RIGHTWARDS
  21BF 4LEFTWARDS;0RIGHTWARDS HARPOON WITH BARB UPWARDS;4DOWNWARDS
  21C2 0DOWNWARDS HARPOON WITH BARB RIGHTWARDS;4LEFTWARDS;0RIGHTWARDS ARROW OVER LEFTWARDS ARROW
  21C5 0UPWARDS ARROW LEFTWARDS OF DOWNWARDS ARROW;0LEFTWARDS ARROW OVER RIGHTWARDS ARROW
  21C7 1PAIRED ARROWS;0UPWARDS PAIRED ARROWS;0RIGHTWARDS PAIRED ARROWS;0DOWNWARDS PAIRED ARROWS
  21CB 0LEFTWARDS HARPOON OVER RIGHTWARDS HARPOON;0RIGHTWARDS HARPOON OVER LEFTWARDS HARPOON
  21CD 0LEFTWARDS DOUBLE ARROW WITH STROKE;0LEFT RIGHT DOUBLE ARROW WITH STROKE
  21CF 0RIGHTWARDS DOUBLE ARROW WITH STROKE;0LEFTWARDS DOUBLE ARROW;0UPWARDS DOUBLE ARROW
  21D2 0RIGHTWARDS DOUBLE ARROW;0DOWNWARDS DOUBLE ARROW;0LEFT RIGHT DOUBLE ARROW
  21D5 0UP DOWN DOUBLE ARROW;0NORTH WEST DOUBLE ARROW;1EAST DOUBLE ARROW;0SOUTH EAST DOUBLE ARROW
  21D9 1WEST DOUBLE ARROW;0LEFTWARDS TRIPLE ARROW;0RIGHTWARDS TRIPLE ARROW;0LEFTWARDS SQUIGGLE ARROW
  21DD 0RIGHTWARDS SQUIGGLE ARROW;0UPWARDS ARROW WITH DOUBLE STROKE
  21DF 0DOWNWARDS ARROW WITH DOUBLE STROKE;0LEFTWARDS DASHED ARROW;0UPWARDS DASHED ARROW
  21E2 0RIGHTWARDS DASHED ARROW;0DOWNWARDS DASHED ARROW;0LEFTWARDS ARROW TO BAR
  21E5 0RIGHTWARDS ARROW TO BAR;0LEFTWARDS WHITE ARROW;0UPWARDS WHITE ARROW;0RIGHTWARDS WHITE ARROW
  21E9 0DOWNWARDS WHITE ARROW;0UPWARDS WHITE ARROW FROM BAR;3ON PEDESTAL;5WITH HORIZONTAL BAR
  21ED 6VERTICAL BAR;2DOUBLE ARROW;4ON PEDESTAL;0RIGHTWARDS WHITE ARROW FROM WALL
  21F1 0NORTH WEST ARROW TO CORNER;0SOUTH EAST ARROW TO CORNER;0UP DOWN WHITE ARROW
  21F4 0RIGHT ARROW WITH SMALL CIRCLE;0DOWNWARDS ARROW LEFTWARDS OF UPWARDS ARROW
  21F6 0THREE RIGHTWARDS ARROWS;0LEFTWARDS ARROW WITH VERTICAL STROKE
  21F8 0RIGHTWARDS ARROW WITH VERTICAL STROKE;0LEFT RIGHT ARROW WITH VERTICAL STROKE
  21FA 0LEFTWARDS ARROW WITH DOUBLE VERTICAL STROKE;0RIGHTWARDS ARROW WITH DOUBLE VERTICAL STROKE
  21FC 0LEFT RIGHT ARROW WITH DOUBLE VERTICAL STROKE;0LEFTWARDS OPEN-HEADED ARROW
  21FE 0RIGHTWARDS OPEN-HEADED ARROW;0LEFT RIGHT OPEN-HEADED ARROW;0FOR ALL;0COMPLEMENT
  2202 0PARTIAL DIFFERENTIAL;0THERE EXISTS;1DOES NOT EXIST;0EMPTY SET;0INCREMENT;0NABLA;0ELEMENT OF
  2209 0NOT AN ELEMENT OF;0SMALL ELEMENT OF;0CONTAINS AS MEMBER;0DOES NOT CONTAIN AS MEMBER
  220D 0SMALL CONTAINS AS MEMBER;0END OF PROOF;0N-ARY PRODUCT;1COPRODUCT;1SUMMATION;0MINUS SIGN
  2213 0MINUS-OR-PLUS SIGN;0DOT PLUS;0DIVISION SLASH;0SET MINUS;0ASTERISK OPERATOR;0RING OPERATOR
  2219 0BULLET OPERATOR;0SQUARE ROOT;0CUBE ROOT;0FOURTH ROOT;0PROPORTIONAL TO;0INFINITY;0RIGHT ANGLE
  2220 0ANGLE;0MEASURED ANGLE;0SPHERICAL ANGLE;0DIVIDES;0DOES NOT DIVIDE;0PARALLEL TO
  2226 0NOT PARALLEL TO;0LOGICAL AND;1OR;0INTERSECTION;0UNION;0INTEGRAL;0DOUBLE INTEGRAL
  222D 0TRIPLE INTEGRAL;0CONTOUR INTEGRAL;0SURFACE INTEGRAL;0VOLUME INTEGRAL;0CLOCKWISE INTEGRAL
  2232 1CONTOUR INTEGRAL;0ANTICLOCKWISE CONTOUR INTEGRAL;0THEREFORE;0BECAUSE;0RATIO;0PROPORTION
  2238 0DOT MINUS;0EXCESS;0GEOMETRIC PROPORTION;0HOMOTHETIC;0TILDE OPERATOR;0REVERSED TILDE
  223E 0INVERTED LAZY S;0SINE WAVE;0WREATH PRODUCT;0NOT TILDE;0MINUS TILDE;0ASYMPTOTICALLY EQUAL TO
  2244 0NOT ASYMPTOTICALLY EQUAL TO;0APPROXIMATELY EQUAL TO;1BUT NOT ACTUALLY EQUAL TO
  2247 0NEITHER APPROXIMATELY NOR ACTUALLY EQUAL TO;0ALMOST EQUAL TO;0NOT ALMOST EQUAL TO
  224A 0ALMOST EQUAL OR EQUAL TO;0TRIPLE TILDE;0ALL EQUAL TO;0EQUIVALENT TO
  224E 0GEOMETRICALLY EQUIVALENT TO;0DIFFERENCE BETWEEN;0APPROACHES THE LIMIT
  2251 0GEOMETRICALLY EQUAL TO;0APPROXIMATELY EQUAL TO OR THE IMAGE OF
  2253 0IMAGE OF OR APPROXIMATELY EQUAL TO;0COLON EQUALS;0EQUALS COLON;0RING IN EQUAL TO;1EQUAL TO
  2258 0CORRESPONDS TO;0ESTIMATES;0EQUIANGULAR TO;0STAR EQUALS;0DELTA EQUAL TO
  225D 0EQUAL TO BY DEFINITION;0MEASURED BY;0QUESTIONED EQUAL TO;0NOT EQUAL TO;0IDENTICAL TO
  2262 0NOT IDENTICAL TO;0STRICTLY EQUIVALENT TO;0LESS-THAN OR EQUAL TO;0GREATER-THAN OR EQUAL TO
  2266 0LESS-THAN OVER EQUAL TO;0GREATER-THAN OVER EQUAL TO;0LESS-THAN BUT NOT EQUAL TO
  2269 0GREATER-THAN BUT NOT EQUAL TO;0MUCH LESS-THAN;1GREATER-THAN;0BETWEEN;0NOT EQUIVALENT TO
  226E 1LESS-THAN;1GREATER-THAN;0NEITHER LESS-THAN NOR EQUAL TO;1GREATER-THAN NOR EQUAL TO
  2272 0LESS-THAN OR EQUIVALENT TO;0GREATER-THAN OR EQUIVALENT TO
  2274 0NEITHER LESS-THAN NOR EQUIVALENT TO;1GREATER-THAN NOR EQUIVALENT TO
  2276 0LESS-THAN OR GREATER-THAN;0GREATER-THAN OR LESS-THAN;0NEITHER LESS-THAN NOR GREATER-THAN
  2279 1GREATER-THAN NOR LESS-THAN;0PRECEDES;0SUCCEEDS;0PRECEDES OR EQUAL TO;0SUCCEEDS OR EQUAL TO
  227E 0PRECEDES OR EQUIVALENT TO;0SUCCEEDS OR EQUIVALENT TO;0DOES NOT PRECEDE;2SUCCEED;0SUBSET OF
  2283 0SUPERSET OF;0NOT A SUBSET OF;2SUPERSET OF;0SUBSET OF OR EQUAL TO;0SUPERSET OF OR EQUAL TO
  2288 0NEITHER A SUBSET OF NOR EQUAL TO;2SUPERSET OF NOR EQUAL TO;0SUBSET OF WITH NOT EQUAL TO
  228B 0SUPERSET OF WITH NOT EQUAL TO;0MULTISET;1MULTIPLICATION;1UNION;0SQUARE IMAGE OF;1ORIGINAL OF
  2291 1IMAGE OF OR EQUAL TO;1ORIGINAL OF OR EQUAL TO;1CAP;1CUP;0CIRCLED PLUS;1MINUS;1TIMES
  2298 1DIVISION SLASH;1DOT OPERATOR;1RING OPERATOR;1ASTERISK OPERATOR;1EQUALS;1DASH;0SQUARED PLUS
  229F 1MINUS;1TIMES;1DOT OPERATOR;0RIGHT TACK;0LEFT TACK;0DOWN TACK;0UP TACK;0ASSERTION;0MODELS
  22A8 0TRUE;0FORCES;0TRIPLE VERTICAL BAR RIGHT TURNSTILE
  22AB 0DOUBLE VERTICAL BAR DOUBLE RIGHT TURNSTILE;0DOES NOT PROVE;0NOT TRUE;0DOES NOT FORCE
  22AF 0NEGATED DOUBLE VERTICAL BAR DOUBLE RIGHT TURNSTILE;0PRECEDES UNDER RELATION
  22B1 0SUCCEEDS UNDER RELATION;0NORMAL SUBGROUP OF;0CONTAINS AS NORMAL SUBGROUP
  22B4 0NORMAL SUBGROUP OF OR EQUAL TO;0CONTAINS AS NORMAL SUBGROUP OR EQUAL TO;0ORIGINAL OF
  22B7 0IMAGE OF;0MULTIMAP;0HERMITIAN CONJUGATE MATRIX;0INTERCALATE;0XOR;0NAND;0NOR
  22BE 0RIGHT ANGLE WITH ARC;1TRIANGLE;0N-ARY LOGICAL AND;2OR;1INTERSECTION;1UNION;0DIAMOND OPERATOR
  22C5 0DOT OPERATOR;0STAR OPERATOR;0DIVISION TIMES;0BOWTIE;0LEFT NORMAL FACTOR SEMIDIRECT PRODUCT
  22CA 0RIGHT NORMAL FACTOR SEMIDIRECT PRODUCT;0LEFT SEMIDIRECT PRODUCT;0RIGHT SEMIDIRECT PRODUCT
  22CD 0REVERSED TILDE EQUALS;0CURLY LOGICAL OR;2AND;0DOUBLE SUBSET;1SUPERSET;1INTERSECTION;1UNION
  22D4 0PITCHFORK;0EQUAL AND PARALLEL TO;0LESS-THAN WITH DOT;0GREATER-THAN WITH DOT
  22D8 0VERY MUCH LESS-THAN;2GREATER-THAN;0LESS-THAN EQUAL TO OR GREATER-THAN
  22DB 0GREATER-THAN EQUAL TO OR LESS-THAN;0EQUAL TO OR LESS-THAN;3GREATER-THAN;3PRECEDES;3SUCCEEDS
  22E0 0DOES NOT PRECEDE OR EQUAL;2SUCCEED OR EQUAL;0NOT SQUARE IMAGE OF OR EQUAL TO
  22E3 2ORIGINAL OF OR EQUAL TO;0SQUARE IMAGE OF OR NOT EQUAL TO;1ORIGINAL OF OR NOT EQUAL TO
  22E6 0LESS-THAN BUT NOT EQUIVALENT TO;0GREATER-THAN BUT NOT EQUIVALENT TO
  22E8 0PRECEDES BUT NOT EQUIVALENT TO;0SUCCEEDS BUT NOT EQUIVALENT TO;0NOT NORMAL SUBGROUP OF
  22EB 0DOES NOT CONTAIN AS NORMAL SUBGROUP;0NOT NORMAL SUBGROUP OF OR EQUAL TO
  22ED 0DOES NOT CONTAIN AS NORMAL SUBGROUP OR EQUAL;0VERTICAL ELLIPSIS;0MIDLINE HORIZONTAL ELLIPSIS
  22F0 0UP RIGHT DIAGONAL ELLIPSIS;0DOWN RIGHT DIAGONAL ELLIPSIS
  22F2 0ELEMENT OF WITH LONG HORIZONTAL STROKE;3VERTICAL BAR AT END OF HORIZONTAL STROKE
  22F4 0SMALL ELEMENT OF WITH VERTICAL BAR AT END OF HORIZONTAL STROKE;0ELEMENT OF WITH DOT ABOVE
  22F6 3OVERBAR;0SMALL ELEMENT OF WITH OVERBAR;0ELEMENT OF WITH UNDERBAR;3TWO HORIZONTAL STROKES
  22FA 0CONTAINS WITH LONG HORIZONTAL STROKE;2VERTICAL BAR AT END OF HORIZONTAL STROKE
  22FC 0SMALL CONTAINS WITH VERTICAL BAR AT END OF HORIZONTAL STROKE;0CONTAINS WITH OVERBAR
  22FE 0SMALL CONTAINS WITH OVERBAR;0Z NOTATION BAG MEMBERSHIP;0DIAMETER SIGN;0ELECTRIC ARROW;0HOUSE
  2303 0UP ARROWHEAD;0DOWN ARROWHEAD;0PROJECTIVE;0PERSPECTIVE;0WAVY LINE;0LEFT CEILING
  2309 0RIGHT CEILING;0LEFT FLOOR;0RIGHT FLOOR;0BOTTOM RIGHT CROP;1LEFT CROP;0TOP RIGHT CROP
  230F 1LEFT CROP;0REVERSED NOT SIGN;0SQUARE LOZENGE;0ARC;0SEGMENT;0SECTOR;0TELEPHONE RECORDER
  2316 0POSITION INDICATOR;0VIEWDATA SQUARE;0PLACE OF INTEREST SIGN;0TURNED NOT SIGN;0WATCH
  231B 0HOURGLASS;0TOP LEFT CORNER;1RIGHT CORNER;0BOTTOM LEFT CORNER;1RIGHT CORNER
  2320 0TOP HALF INTEGRAL;0BOTTOM HALF INTEGRAL;0FROWN;0SMILE
  2324 0UP ARROWHEAD BETWEEN TWO HORIZONTAL BARS;0OPTION KEY;0ERASE TO THE RIGHT
  2327 0X IN A RECTANGLE BOX;0KEYBOARD;0LEFT-POINTING ANGLE BRACKET;0RIGHT-POINTING ANGLE BRACKET
  232B 0ERASE TO THE LEFT;0BENZENE RING;0CYLINDRICITY;0ALL AROUND-PROFILE;0SYMMETRY;0TOTAL RUNOUT
  2331 0DIMENSION ORIGIN;0CONICAL TAPER;0SLOPE;0COUNTERBORE;0COUNTERSINK
  2336 0APL FUNCTIONAL SYMBOL I-BEAM;3SQUISH QUAD;3QUAD EQUAL;4DIVIDE;4DIAMOND;4JOT;4CIRCLE
  233D 3CIRCLE STILE;4JOT;3SLASH BAR;3BACKSLASH BAR;3QUAD SLASH;4BACKSLASH;4LESS-THAN;4GREATER-THAN
  2345 3LEFTWARDS VANE;3RIGHTWARDS VANE;3QUAD LEFTWARDS ARROW;4RIGHTWARDS ARROW;3CIRCLE BACKSLASH
  234A 3DOWN TACK UNDERBAR;3DELTA STILE;3QUAD DOWN CARET;4DELTA;3DOWN TACK JOT;3UPWARDS VANE
  2350 3QUAD UPWARDS ARROW;3UP TACK OVERBAR;3DEL STILE;3QUAD UP CARET;4DEL;3UP TACK JOT
  2356 3DOWNWARDS VANE;3QUAD DOWNWARDS ARROW;3QUOTE UNDERBAR;3DELTA UNDERBAR;3DIAMOND UNDERBAR
  235B 3JOT UNDERBAR;3CIRCLE UNDERBAR;3UP SHOE JOT;3QUOTE QUAD;3CIRCLE STAR;3QUAD COLON
  2361 3UP TACK DIAERESIS;3DEL DIAERESIS;3STAR DIAERESIS;3JOT DIAERESIS;3CIRCLE DIAERESIS
  2366 3DOWN SHOE STILE;3LEFT SHOE STILE;3TILDE DIAERESIS;3GREATER-THAN DIAERESIS;3COMMA BAR
  236B 3DEL TILDE;3ZILDE;3STILE TILDE;3SEMICOLON UNDERBAR;3QUAD NOT EQUAL;4QUESTION
  2371 3DOWN CARET TILDE;3UP CARET TILDE;3IOTA;3RHO;3OMEGA;3ALPHA UNDERBAR;3EPSILON UNDERBAR
  2378 3IOTA UNDERBAR;3OMEGA UNDERBAR;3ALPHA;0NOT CHECK MARK
  237C 0RIGHT ANGLE WITH DOWNWARDS ZIGZAG ARROW;0SHOULDERED OPEN BOX;0BELL SYMBOL
  237F 0VERTICAL LINE WITH MIDDLE DOT;0INSERTION SYMBOL;0CONTINUOUS UNDERLINE SYMBOL
  2382 0DISCONTINUOUS UNDERLINE SYMBOL;0EMPHASIS SYMBOL;0COMPOSITION SYMBOL
  2385 0WHITE SQUARE WITH CENTRE VERTICAL LINE;0ENTER SYMBOL;0ALTERNATIVE KEY SYMBOL;0HELM SYMBOL
  2389 0CIRCLED HORIZONTAL BAR WITH NOTCH;1TRIANGLE DOWN;0BROKEN CIRCLE WITH NORTHWEST ARROW
  238C 0UNDO SYMBOL;0MONOSTABLE SYMBOL;0HYSTERESIS SYMBOL;0OPEN-CIRCUIT-OUTPUT H-TYPE SYMBOL
  2390 1L-TYPE SYMBOL;0PASSIVE-PULL-DOWN-OUTPUT SYMBOL;0PASSIVE-PULL-UP-OUTPUT SYMBOL
  2393 0DIRECT CURRENT SYMBOL FORM TWO;0SOFTWARE-FUNCTION SYMBOL;0APL FUNCTIONAL SYMBOL QUAD
  2396 0DECIMAL SEPARATOR KEY SYMBOL;0PREVIOUS PAGE;0NEXT PAGE;0PRINT SCREEN SYMBOL
  239A 0CLEAR SCREEN SYMBOL;0LEFT PARENTHESIS UPPER HOOK;2EXTENSION;2LOWER HOOK
  239E 0RIGHT PARENTHESIS UPPER HOOK;2EXTENSION;2LOWER HOOK;0LEFT SQUARE BRACKET UPPER CORNER
  23A2 3EXTENSION;3LOWER CORNER;0RIGHT SQUARE BRACKET UPPER CORNER;3EXTENSION;3LOWER CORNER
  23A7 0LEFT CURLY BRACKET UPPER HOOK;3MIDDLE PIECE;3LOWER HOOK;0CURLY BRACKET EXTENSION
  23AB 0RIGHT CURLY BRACKET UPPER HOOK;3MIDDLE PIECE;3LOWER HOOK;0INTEGRAL EXTENSION
  23AF 0HORIZONTAL LINE EXTENSION;0UPPER LEFT OR LOWER RIGHT CURLY BRACKET SECTION
  23B1 1RIGHT OR LOWER LEFT CURLY BRACKET SECTION;0SUMMATION TOP;1BOTTOM;0TOP SQUARE BRACKET
  23B5 0BOTTOM SQUARE BRACKET;3OVER TOP SQUARE BRACKET;0RADICAL SYMBOL BOTTOM
  23B8 0LEFT VERTICAL BOX LINE;0RIGHT VERTICAL BOX LINE;0HORIZONTAL SCAN LINE-1;2LINE-3;2LINE-7
  23BD 2LINE-9;0DENTISTRY SYMBOL LIGHT VERTICAL AND TOP RIGHT;5BOTTOM RIGHT;4WITH CIRCLE
  23C1 3DOWN AND HORIZONTAL WITH CIRCLE;3UP AND HORIZONTAL WITH CIRCLE;3VERTICAL WITH TRIANGLE
  23C4 3DOWN AND HORIZONTAL WITH TRIANGLE;3UP AND HORIZONTAL WITH TRIANGLE;3VERTICAL AND WAVE
  23C7 3DOWN AND HORIZONTAL WITH WAVE;3UP AND HORIZONTAL WITH WAVE;3DOWN AND HORIZONTAL
  23CA 3UP AND HORIZONTAL;3VERTICAL AND TOP LEFT;5BOTTOM LEFT;0SQUARE FOOT;0RETURN SYMBOL
  23CF 0EJECT SYMBOL;0VERTICAL LINE EXTENSION;0METRICAL BREVE;1LONG OVER SHORT;1SHORT OVER LONG
  23D4 1LONG OVER TWO SHORTS;1TWO SHORTS OVER LONG;3JOINED;1TRISEME;1TETRASEME;1PENTASEME
  23DA 0EARTH GROUND;0FUSE;0TOP PARENTHESIS;0BOTTOM PARENTHESIS;0TOP CURLY BRACKET
  23DF 0BOTTOM CURLY BRACKET;0TOP TORTOISE SHELL BRACKET;0BOTTOM TORTOISE SHELL BRACKET
  23E2 0WHITE TRAPEZIUM;0BENZENE RING WITH CIRCLE;0STRAIGHTNESS;0FLATNESS;0AC CURRENT
  23E7 0ELECTRICAL INTERSECTION;0DECIMAL EXPONENT SYMBOL;0BLACK RIGHT-POINTING DOUBLE TRIANGLE
  23EA 1LEFT-POINTING DOUBLE TRIANGLE;1UP-POINTING DOUBLE TRIANGLE;1DOWN-POINTING DOUBLE TRIANGLE
  23ED 1RIGHT-POINTING DOUBLE TRIANGLE WITH VERTICAL BAR
  23EE 1LEFT-POINTING DOUBLE TRIANGLE WITH VERTICAL BAR
  23EF 1RIGHT-POINTING TRIANGLE WITH DOUBLE VERTICAL BAR;0ALARM CLOCK;0STOPWATCH;0TIMER CLOCK
  23F3 0HOURGLASS WITH FLOWING SAND;0BLACK MEDIUM LEFT-POINTING TRIANGLE;2RIGHT-POINTING TRIANGLE
  23F6 2UP-POINTING TRIANGLE;2DOWN-POINTING TRIANGLE;0DOUBLE VERTICAL BAR;0BLACK SQUARE FOR STOP
  23FA 1CIRCLE FOR RECORD;0POWER SYMBOL;1ON-OFF SYMBOL;1ON SYMBOL;1SLEEP SYMBOL;0OBSERVER EYE SYMBOL
  2400 0SYMBOL FOR NULL;2START OF HEADING;4TEXT;2END OF TEXT;4TRANSMISSION;2ENQUIRY;2ACKNOWLEDGE
  2407 2BELL;2BACKSPACE;2HORIZONTAL TABULATION;2LINE FEED;2VERTICAL TABULATION;2FORM FEED
  240D 2CARRIAGE RETURN;2SHIFT OUT;3IN;2DATA LINK ESCAPE;2DEVICE CONTROL ONE;4TWO;4THREE;4FOUR
  2415 2NEGATIVE ACKNOWLEDGE;2SYNCHRONOUS IDLE;2END OF TRANSMISSION BLOCK;2CANCEL;2END OF MEDIUM
  241A 2SUBSTITUTE;2ESCAPE;2FILE SEPARATOR;2GROUP SEPARATOR;2RECORD SEPARATOR;2UNIT SEPARATOR;2SPACE
  2421 2DELETE;0BLANK SYMBOL;0OPEN BOX;0SYMBOL FOR NEWLINE;2DELETE FORM TWO;2SUBSTITUTE FORM TWO
  2440 0OCR HOOK;1CHAIR;1FORK;1INVERTED FORK;1BELT BUCKLE;1BOW TIE;1BRANCH BANK IDENTIFICATION
  2447 1AMOUNT OF CHECK;1DASH;1CUSTOMER ACCOUNT NUMBER;1DOUBLE BACKSLASH
  2460 0CIRCLED DIGIT ONE;2TWO;2THREE;2FOUR;2FIVE;2SIX;2SEVEN;2EIGHT;2NINE;1NUMBER TEN;2ELEVEN
  246B 2TWELVE;2THIRTEEN;2FOURTEEN;2FIFTEEN;2SIXTEEN;2SEVENTEEN;2EIGHTEEN;2NINETEEN;2TWENTY
  2474 0PARENTHESIZED DIGIT ONE;2TWO;2THREE;2FOUR;2FIVE;2SIX;2SEVEN;2EIGHT;2NINE;1NUMBER TEN;2ELEVEN
  247F 2TWELVE;2THIRTEEN;2FOURTEEN;2FIFTEEN;2SIXTEEN;2SEVENTEEN;2EIGHTEEN;2NINETEEN;2TWENTY
  2488 0DIGIT ONE FULL STOP;1TWO FULL STOP;1THREE FULL STOP;1FOUR FULL STOP;1FIVE FULL STOP
  248D 1SIX FULL STOP;1SEVEN FULL STOP;1EIGHT FULL STOP;1NINE FULL STOP;0NUMBER TEN FULL STOP
  2492 1ELEVEN FULL STOP;1TWELVE FULL STOP;1THIRTEEN FULL STOP;1FOURTEEN FULL STOP
  2496 1FIFTEEN FULL STOP;1SIXTEEN FULL STOP;1SEVENTEEN FULL STOP;1EIGHTEEN FULL STOP
  249A 1NINETEEN FULL STOP;1TWENTY FULL STOP;0PARENTHESIZED LATIN SMALL LETTER A;4B;4C;4D;4E;4F;4G
  24A3 4H;4I;4J;4K;4L;4M;4N;4O;4P;4Q;4R;4S;4T;4U;4V;4W;4X;4Y;4Z;0CIRCLED LATIN CAPITAL LETTER A;4B
  24B8 4C;4D;4E;4F;4G;4H;4I;4J;4K;4L;4M;4N;4O;4P;4Q;4R;4S;4T;4U;4V;4W;4X;4Y;4Z;2SMALL LETTER A;4B;4C
  24D3 4D;4E;4F;4G;4H;4I;4J;4K;4L;4M;4N;4O;4P;4Q;4R;4S;4T;4U;4V;4W;4X;4Y;4Z;1DIGIT ZERO
  24EB 0NEGATIVE CIRCLED NUMBER ELEVEN;3TWELVE;3THIRTEEN;3FOURTEEN;3FIFTEEN;3SIXTEEN;3SEVENTEEN
  24F2 3EIGHTEEN;3NINETEEN;3TWENTY;0DOUBLE CIRCLED DIGIT ONE;3TWO;3THREE;3FOUR;3FIVE;3SIX;3SEVEN
  24FC 3EIGHT;3NINE;2NUMBER TEN;0NEGATIVE CIRCLED DIGIT ZERO;0BOX DRAWINGS LIGHT HORIZONTAL
  2501 2HEAVY HORIZONTAL;2LIGHT VERTICAL;2HEAVY VERTICAL;2LIGHT TRIPLE DASH HORIZONTAL
  2505 2HEAVY TRIPLE DASH HORIZONTAL;2LIGHT TRIPLE DASH VERTICAL;2HEAVY TRIPLE DASH VERTICAL
  2508 2LIGHT QUADRUPLE DASH HORIZONTAL;2HEAVY QUADRUPLE DASH HORIZONTAL
  250A 2LIGHT QUADRUPLE DASH VERTICAL;2HEAVY QUADRUPLE DASH VERTICAL;2LIGHT DOWN AND RIGHT
  250D 2DOWN LIGHT AND RIGHT HEAVY;3HEAVY AND RIGHT LIGHT;2HEAVY DOWN AND RIGHT;2LIGHT DOWN AND LEFT
  2511 2DOWN LIGHT AND LEFT HEAVY;3HEAVY AND LEFT LIGHT;2HEAVY DOWN AND LEFT;2LIGHT UP AND RIGHT
  2515 2UP LIGHT AND RIGHT HEAVY;3HEAVY AND RIGHT LIGHT;2HEAVY UP AND RIGHT;2LIGHT UP AND LEFT
  2519 2UP LIGHT AND LEFT HEAVY;3HEAVY AND LEFT LIGHT;2HEAVY UP AND LEFT;2LIGHT VERTICAL AND RIGHT
  251D 2VERTICAL LIGHT AND RIGHT HEAVY;2UP HEAVY AND RIGHT DOWN LIGHT;2DOWN HEAVY AND RIGHT UP LIGHT
  2520 2VERTICAL HEAVY AND RIGHT LIGHT;2DOWN LIGHT AND RIGHT UP HEAVY;2UP LIGHT AND RIGHT DOWN HEAVY
  2523 2HEAVY VERTICAL AND RIGHT;2LIGHT VERTICAL AND LEFT;2VERTICAL LIGHT AND LEFT HEAVY
  2526 2UP HEAVY AND LEFT DOWN LIGHT;2DOWN HEAVY AND LEFT UP LIGHT;2VERTICAL HEAVY AND LEFT LIGHT
  2529 2DOWN LIGHT AND LEFT UP HEAVY;2UP LIGHT AND LEFT DOWN HEAVY;2HEAVY VERTICAL AND LEFT
  252C 2LIGHT DOWN AND HORIZONTAL;2LEFT HEAVY AND RIGHT DOWN LIGHT;2RIGHT HEAVY AND LEFT DOWN LIGHT
  252F 2DOWN LIGHT AND HORIZONTAL HEAVY;3HEAVY AND HORIZONTAL LIGHT;2RIGHT LIGHT AND LEFT DOWN HEAVY
  2532 2LEFT LIGHT AND RIGHT DOWN HEAVY;2HEAVY DOWN AND HORIZONTAL;2LIGHT UP AND HORIZONTAL
  2535 2LEFT HEAVY AND RIGHT UP LIGHT;2RIGHT HEAVY AND LEFT UP LIGHT;2UP LIGHT AND HORIZONTAL HEAVY
  2538 3HEAVY AND HORIZONTAL LIGHT;2RIGHT LIGHT AND LEFT UP HEAVY;2LEFT LIGHT AND RIGHT UP HEAVY
  253B 2HEAVY UP AND HORIZONTAL;2LIGHT VERTICAL AND HORIZONTAL;2LEFT HEAVY AND RIGHT VERTICAL LIGHT
  253E 2RIGHT HEAVY AND LEFT VERTICAL LIGHT;2VERTICAL LIGHT AND HORIZONTAL HEAVY
  2540 2UP HEAVY AND DOWN HORIZONTAL LIGHT;2DOWN HEAVY AND UP HORIZONTAL LIGHT
  2542 2VERTICAL HEAVY AND HORIZONTAL LIGHT;2LEFT UP HEAVY AND RIGHT DOWN LIGHT
  2544 2RIGHT UP HEAVY AND LEFT DOWN LIGHT;2LEFT DOWN HEAVY AND RIGHT UP LIGHT
  2546 2RIGHT DOWN HEAVY AND LEFT UP LIGHT;2DOWN LIGHT AND UP HORIZONTAL HEAVY
  2548 2UP LIGHT AND DOWN HORIZONTAL HEAVY;2RIGHT LIGHT AND LEFT VERTICAL HEAVY
  254A 2LEFT LIGHT AND RIGHT VERTICAL HEAVY;2HEAVY VERTICAL AND HORIZONTAL
  254C 2LIGHT DOUBLE DASH HORIZONTAL;2HEAVY DOUBLE DASH HORIZONTAL;2LIGHT DOUBLE DASH VERTICAL
  254F 2HEAVY DOUBLE DASH VERTICAL;2DOUBLE HORIZONTAL;3VERTICAL;2DOWN SINGLE AND RIGHT DOUBLE
  2553 3DOUBLE AND RIGHT SINGLE;2DOUBLE DOWN AND RIGHT;2DOWN SINGLE AND LEFT DOUBLE
  2556 3DOUBLE AND LEFT SINGLE;2DOUBLE DOWN AND LEFT;2UP SINGLE AND RIGHT DOUBLE
  2559 3DOUBLE AND RIGHT SINGLE;2DOUBLE UP AND RIGHT;2UP SINGLE AND LEFT DOUBLE
  255C 3DOUBLE AND LEFT SINGLE;2DOUBLE UP AND LEFT;2VERTICAL SINGLE AND RIGHT DOUBLE
  255F 3DOUBLE AND RIGHT SINGLE;2DOUBLE VERTICAL AND RIGHT;2VERTICAL SINGLE AND LEFT DOUBLE
  2562 3DOUBLE AND LEFT SINGLE;2DOUBLE VERTICAL AND LEFT;2DOWN SINGLE AND HORIZONTAL DOUBLE
  2565 3DOUBLE AND HORIZONTAL SINGLE;2DOUBLE DOWN AND HORIZONTAL;2UP SINGLE AND HORIZONTAL DOUBLE
  2568 3DOUBLE AND HORIZONTAL SINGLE;2DOUBLE UP AND HORIZONTAL
  256A 2VERTICAL SINGLE AND HORIZONTAL DOUBLE;3DOUBLE AND HORIZONTAL SINGLE
  256C 2DOUBLE VERTICAL AND HORIZONTAL;2LIGHT ARC DOWN AND RIGHT;6LEFT;4UP AND LEFT;6RIGHT
  2571 3DIAGONAL UPPER RIGHT TO LOWER LEFT;5LEFT TO LOWER RIGHT;4CROSS;3LEFT;3UP;3RIGHT;3DOWN
  2578 2HEAVY LEFT;3UP;3RIGHT;3DOWN;2LIGHT LEFT AND HEAVY RIGHT;3UP AND HEAVY DOWN
  257E 2HEAVY LEFT AND LIGHT RIGHT;3UP AND LIGHT DOWN;0UPPER HALF BLOCK;0LOWER ONE EIGHTH BLOCK
  2582 2QUARTER BLOCK;1THREE EIGHTHS BLOCK;1HALF BLOCK;1FIVE EIGHTHS BLOCK;1THREE QUARTERS BLOCK
  2587 1SEVEN EIGHTHS BLOCK;0FULL BLOCK;0LEFT SEVEN EIGHTHS BLOCK;1THREE QUARTERS BLOCK
  258B 1FIVE EIGHTHS BLOCK;1HALF BLOCK;1THREE EIGHTHS BLOCK;1ONE QUARTER BLOCK;2EIGHTH BLOCK
  2590 0RIGHT HALF BLOCK;0LIGHT SHADE;0MEDIUM SHADE;0DARK SHADE;0UPPER ONE EIGHTH BLOCK
  2595 0RIGHT ONE EIGHTH BLOCK;0QUADRANT LOWER LEFT;2RIGHT;1UPPER LEFT
  2599 3AND LOWER LEFT AND LOWER RIGHT;5RIGHT;4UPPER RIGHT AND LOWER LEFT;8RIGHT;2RIGHT
  259E 3AND LOWER LEFT;6AND LOWER RIGHT;0BLACK SQUARE;0WHITE SQUARE;2WITH ROUNDED CORNERS
  25A3 2CONTAINING BLACK SMALL SQUARE;0SQUARE WITH HORIZONTAL FILL;2VERTICAL FILL
  25A6 2ORTHOGONAL CROSSHATCH FILL;2UPPER LEFT TO LOWER RIGHT FILL;3RIGHT TO LOWER LEFT FILL
  25A9 2DIAGONAL CROSSHATCH FILL;0BLACK SMALL SQUARE;0WHITE SMALL SQUARE;0BLACK RECTANGLE
  25AD 0WHITE RECTANGLE;0BLACK VERTICAL RECTANGLE;0WHITE VERTICAL RECTANGLE;0BLACK PARALLELOGRAM
  25B1 0WHITE PARALLELOGRAM;0BLACK UP-POINTING TRIANGLE;0WHITE UP-POINTING TRIANGLE
  25B4 0BLACK UP-POINTING SMALL TRIANGLE;0WHITE UP-POINTING SMALL TRIANGLE
  25B6 0BLACK RIGHT-POINTING TRIANGLE;0WHITE RIGHT-POINTING TRIANGLE
  25B8 0BLACK RIGHT-POINTING SMALL TRIANGLE;0WHITE RIGHT-POINTING SMALL TRIANGLE
  25BA 0BLACK RIGHT-POINTING POINTER;0WHITE RIGHT-POINTING POINTER;0BLACK DOWN-POINTING TRIANGLE
  25BD 0WHITE DOWN-POINTING TRIANGLE;0BLACK DOWN-POINTING SMALL TRIANGLE
  25BF 0WHITE DOWN-POINTING SMALL TRIANGLE;0BLACK LEFT-POINTING TRIANGLE
  25C1 0WHITE LEFT-POINTING TRIANGLE;0BLACK LEFT-POINTING SMALL TRIANGLE
  25C3 0WHITE LEFT-POINTING SMALL TRIANGLE;0BLACK LEFT-POINTING POINTER;0WHITE LEFT-POINTING POINTER
  25C6 0BLACK DIAMOND;0WHITE DIAMOND;2CONTAINING BLACK SMALL DIAMOND;0FISHEYE;0LOZENGE;0WHITE CIRCLE
  25CC 0DOTTED CIRCLE;0CIRCLE WITH VERTICAL FILL;0BULLSEYE;0BLACK CIRCLE
  25D0 0CIRCLE WITH LEFT HALF BLACK;2RIGHT HALF BLACK;2LOWER HALF BLACK;2UPPER HALF BLACK
  25D4 3RIGHT QUADRANT BLACK;2ALL BUT UPPER LEFT QUADRANT BLACK;0LEFT HALF BLACK CIRCLE
  25D7 0RIGHT HALF BLACK CIRCLE;0INVERSE BULLET;1WHITE CIRCLE;0UPPER HALF INVERSE WHITE CIRCLE
  25DB 0LOWER HALF INVERSE WHITE CIRCLE;0UPPER LEFT QUADRANT CIRCULAR ARC
  25DD 1RIGHT QUADRANT CIRCULAR ARC;0LOWER RIGHT QUADRANT CIRCULAR ARC;1LEFT QUADRANT CIRCULAR ARC
  25E0 0UPPER HALF CIRCLE;0LOWER HALF CIRCLE;0BLACK LOWER RIGHT TRIANGLE;2LEFT TRIANGLE
  25E4 1UPPER LEFT TRIANGLE;2RIGHT TRIANGLE;0WHITE BULLET;0SQUARE WITH LEFT HALF BLACK
  25E8 2RIGHT HALF BLACK;2UPPER LEFT DIAGONAL HALF BLACK;2LOWER RIGHT DIAGONAL HALF BLACK
  25EB 0WHITE SQUARE WITH VERTICAL BISECTING LINE;1UP-POINTING TRIANGLE WITH DOT
  25ED 0UP-POINTING TRIANGLE WITH LEFT HALF BLACK;3RIGHT HALF BLACK;0LARGE CIRCLE
  25F0 0WHITE SQUARE WITH UPPER LEFT QUADRANT;3LOWER LEFT QUADRANT;4RIGHT QUADRANT
  25F3 3UPPER RIGHT QUADRANT;1CIRCLE WITH UPPER LEFT QUADRANT;3LOWER LEFT QUADRANT;4RIGHT QUADRANT
  25F7 3UPPER RIGHT QUADRANT;0UPPER LEFT TRIANGLE;1RIGHT TRIANGLE;0LOWER LEFT TRIANGLE
  25FB 0WHITE MEDIUM SQUARE;0BLACK MEDIUM SQUARE;0WHITE MEDIUM SMALL SQUARE
  25FE 0BLACK MEDIUM SMALL SQUARE;0LOWER RIGHT TRIANGLE;0BLACK SUN WITH RAYS;0CLOUD;0UMBRELLA
  2603 0SNOWMAN;0COMET;0BLACK STAR;0WHITE STAR;0LIGHTNING;0THUNDERSTORM;0SUN;0ASCENDING NODE
  260B 0DESCENDING NODE;0CONJUNCTION;0OPPOSITION;0BLACK TELEPHONE;0WHITE TELEPHONE;0BALLOT BOX
  2611 2WITH CHECK;3X;0SALTIRE;0UMBRELLA WITH RAIN DROPS;0HOT BEVERAGE;0WHITE SHOGI PIECE
  2617 0BLACK SHOGI PIECE;0SHAMROCK;0REVERSED ROTATED FLORAL HEART BULLET;0BLACK LEFT POINTING INDEX
  261B 1RIGHT POINTING INDEX;0WHITE LEFT POINTING INDEX;1UP POINTING INDEX;1RIGHT POINTING INDEX
  261F 1DOWN POINTING INDEX;0SKULL AND CROSSBONES;0CAUTION SIGN;0RADIOACTIVE SIGN;0BIOHAZARD SIGN
  2624 0CADUCEUS;0ANKH;0ORTHODOX CROSS;0CHI RHO;0CROSS OF LORRAINE;2JERUSALEM;0STAR AND CRESCENT
  262B 0FARSI SYMBOL;0ADI SHAKTI;0HAMMER AND SICKLE;0PEACE SYMBOL;0YIN YANG;0TRIGRAM FOR HEAVEN
  2631 2LAKE;2FIRE;2THUNDER;2WIND;2WATER;2MOUNTAIN;2EARTH;0WHEEL OF DHARMA;0WHITE FROWNING FACE
  263A 1SMILING FACE;0BLACK SMILING FACE;0WHITE SUN WITH RAYS;0FIRST QUARTER MOON;0LAST QUARTER MOON
  263F 0MERCURY;0FEMALE SIGN;0EARTH;0MALE SIGN;0JUPITER;0SATURN;0URANUS;0NEPTUNE;0PLUTO;0ARIES
  2649 0TAURUS;0GEMINI;0CANCER;0LEO;0VIRGO;0LIBRA;0SCORPIUS;0SAGITTARIUS;0CAPRICORN;0AQUARIUS
  2653 0PISCES;0WHITE CHESS KING;2QUEEN;2ROOK;2BISHOP;2KNIGHT;2PAWN;0BLACK CHESS KING;2QUEEN;2ROOK
  265D 2BISHOP;2KNIGHT;2PAWN;1SPADE SUIT;0WHITE HEART SUIT;1DIAMOND SUIT;0BLACK CLUB SUIT
  2664 0WHITE SPADE SUIT;0BLACK HEART SUIT;1DIAMOND SUIT;0WHITE CLUB SUIT;0HOT SPRINGS;0QUARTER NOTE
  266A 0EIGHTH NOTE;0BEAMED EIGHTH NOTES;1SIXTEENTH NOTES;0MUSIC FLAT SIGN;1NATURAL SIGN;1SHARP SIGN
  2670 0WEST SYRIAC CROSS;0EAST SYRIAC CROSS;0UNIVERSAL RECYCLING SYMBOL
  2673 0RECYCLING SYMBOL FOR TYPE-1 PLASTICS;3TYPE-2 PLASTICS;3TYPE-3 PLASTICS;3TYPE-4 PLASTICS
  2677 3TYPE-5 PLASTICS;3TYPE-6 PLASTICS;3TYPE-7 PLASTICS;3GENERIC MATERIALS
  267B 0BLACK UNIVERSAL RECYCLING SYMBOL;0RECYCLED PAPER SYMBOL;0PARTIALLY-RECYCLED PAPER SYMBOL
  267E 0PERMANENT PAPER SIGN;0WHEELCHAIR SYMBOL;0DIE FACE-1;1FACE-2;1FACE-3;1FACE-4;1FACE-5;1FACE-6
  2686 0WHITE CIRCLE WITH DOT RIGHT;3TWO DOTS;0BLACK CIRCLE WITH WHITE DOT RIGHT;3TWO WHITE DOTS
  268A 0MONOGRAM FOR YANG;2YIN;0DIGRAM FOR GREATER YANG;2LESSER YIN;3YANG;2GREATER YIN;0WHITE FLAG
  2691 0BLACK FLAG;0HAMMER AND PICK;0ANCHOR;0CROSSED SWORDS;0STAFF OF AESCULAPIUS;0SCALES;0ALEMBIC
  2698 0FLOWER;0GEAR;0STAFF OF HERMES;0ATOM SYMBOL;0FLEUR-DE-LIS;0OUTLINED WHITE STAR
  269E 0THREE LINES CONVERGING RIGHT;3LEFT;0WARNING SIGN;0HIGH VOLTAGE SIGN;0DOUBLED FEMALE SIGN
  26A3 1MALE SIGN;0INTERLOCKED FEMALE AND MALE SIGN;0MALE AND FEMALE SIGN;1WITH STROKE SIGN
  26A7 3AND MALE AND FEMALE SIGN;0VERTICAL MALE WITH STROKE SIGN;0HORIZONTAL MALE WITH STROKE SIGN
  26AA 0MEDIUM WHITE CIRCLE;1BLACK CIRCLE;1SMALL WHITE CIRCLE;0MARRIAGE SYMBOL;0DIVORCE SYMBOL
  26AF 0UNMARRIED PARTNERSHIP SYMBOL;0COFFIN;0FUNERAL URN;0NEUTER;0CERES;0PALLAS;0JUNO;0VESTA
  26B7 0CHIRON;0BLACK MOON LILITH;0SEXTILE;0SEMISEXTILE;0QUINCUNX;0SESQUIQUADRATE;0SOCCER BALL
  26BE 0BASEBALL;0SQUARED KEY;0WHITE DRAUGHTS MAN;2KING;0BLACK DRAUGHTS MAN;2KING
  26C4 0SNOWMAN WITHOUT SNOW;0SUN BEHIND CLOUD;0RAIN;0BLACK SNOWMAN;0THUNDER CLOUD AND RAIN
  26C9 0TURNED WHITE SHOGI PIECE;1BLACK SHOGI PIECE;0WHITE DIAMOND IN SQUARE;0CROSSING LANES
  26CD 0DISABLED CAR;0OPHIUCHUS;0PICK;0CAR SLIDING;0HELMET WITH WHITE CROSS;0CIRCLED CROSSING LANES
  26D3 0CHAINS;0NO ENTRY;0ALTERNATE ONE-WAY LEFT WAY TRAFFIC;0BLACK TWO-WAY LEFT WAY TRAFFIC
  26D7 0WHITE TWO-WAY LEFT WAY TRAFFIC;0BLACK LEFT LANE MERGE;0WHITE LEFT LANE MERGE
  26DA 0DRIVE SLOW SIGN;0HEAVY WHITE DOWN-POINTING TRIANGLE;0LEFT CLOSED ENTRY;0SQUARED SALTIRE
  26DE 0FALLING DIAGONAL IN WHITE CIRCLE IN BLACK SQUARE;0BLACK TRUCK;0RESTRICTED LEFT ENTRY-1
  26E1 2ENTRY-2;0ASTRONOMICAL SYMBOL FOR URANUS;0HEAVY CIRCLE WITH STROKE AND TWO DOTS ABOVE
  26E4 0PENTAGRAM;0RIGHT-HANDED INTERLACED PENTAGRAM;0LEFT-HANDED INTERLACED PENTAGRAM
  26E7 0INVERTED PENTAGRAM;0BLACK CROSS ON SHIELD;0SHINTO SHRINE;0CHURCH;0CASTLE;0HISTORIC SITE
  26ED 0GEAR WITHOUT HUB;1WITH HANDLES;0MAP SYMBOL FOR LIGHTHOUSE;0MOUNTAIN;0UMBRELLA ON GROUND
  26F2 0FOUNTAIN;0FLAG IN HOLE;0FERRY;0SAILBOAT;0SQUARE FOUR CORNERS;0SKIER;0ICE SKATE
  26F9 0PERSON WITH BALL;0TENT;0JAPANESE BANK SYMBOL;0HEADSTONE GRAVEYARD SYMBOL;0FUEL PUMP
  26FE 0CUP ON BLACK SQUARE;0WHITE FLAG WITH HORIZONTAL MIDDLE BLACK STRIPE;0BLACK SAFETY SCISSORS
  2701 0UPPER BLADE SCISSORS;0BLACK SCISSORS;0LOWER BLADE SCISSORS;0WHITE SCISSORS;1HEAVY CHECK MARK
  2706 0TELEPHONE LOCATION SIGN;0TAPE DRIVE;0AIRPLANE;0ENVELOPE;0RAISED FIST;1HAND;0VICTORY HAND
  270D 0WRITING HAND;0LOWER RIGHT PENCIL;0PENCIL;0UPPER RIGHT PENCIL;0WHITE NIB;0BLACK NIB
  2713 0CHECK MARK;0HEAVY CHECK MARK;0MULTIPLICATION X;0HEAVY MULTIPLICATION X;0BALLOT X
  2718 0HEAVY BALLOT X;0OUTLINED GREEK CROSS;0HEAVY GREEK CROSS;0OPEN CENTRE CROSS
  271C 0HEAVY OPEN CENTRE CROSS;0LATIN CROSS;0SHADOWED WHITE LATIN CROSS;0OUTLINED LATIN CROSS
  2720 0MALTESE CROSS;0STAR OF DAVID;0FOUR TEARDROP-SPOKED ASTERISK;1BALLOON-SPOKED ASTERISK
  2724 0HEAVY FOUR BALLOON-SPOKED ASTERISK;0FOUR CLUB-SPOKED ASTERISK;0BLACK FOUR POINTED STAR
  2727 0WHITE FOUR POINTED STAR;0SPARKLES;0STRESS OUTLINED WHITE STAR;0CIRCLED WHITE STAR
  272B 0OPEN CENTRE BLACK STAR;0BLACK CENTRE WHITE STAR;0OUTLINED BLACK STAR
  272E 0HEAVY OUTLINED BLACK STAR;0PINWHEEL STAR;0SHADOWED WHITE STAR;0HEAVY ASTERISK
  2732 0OPEN CENTRE ASTERISK;0EIGHT SPOKED ASTERISK;1POINTED BLACK STAR;2PINWHEEL STAR
  2736 0SIX POINTED BLACK STAR;0EIGHT POINTED RECTILINEAR BLACK STAR
  2738 0HEAVY EIGHT POINTED RECTILINEAR BLACK STAR;0TWELVE POINTED BLACK STAR
  273A 0SIXTEEN POINTED ASTERISK;0TEARDROP-SPOKED ASTERISK;0OPEN CENTRE TEARDROP-SPOKED ASTERISK
  273D 0HEAVY TEARDROP-SPOKED ASTERISK;0SIX PETALLED BLACK AND WHITE FLORETTE;0BLACK FLORETTE
  2740 0WHITE FLORETTE;0EIGHT PETALLED OUTLINED BLACK FLORETTE
  2742 0CIRCLED OPEN CENTRE EIGHT POINTED STAR;0HEAVY TEARDROP-SPOKED PINWHEEL ASTERISK;0SNOWFLAKE
  2745 0TIGHT TRIFOLIATE SNOWFLAKE;0HEAVY CHEVRON SNOWFLAKE;0SPARKLE;0HEAVY SPARKLE
  2749 0BALLOON-SPOKED ASTERISK;0EIGHT TEARDROP-SPOKED PROPELLER ASTERISK
  274B 0HEAVY EIGHT TEARDROP-SPOKED PROPELLER ASTERISK;0CROSS MARK;0SHADOWED WHITE CIRCLE
  274E 0NEGATIVE SQUARED CROSS MARK;0LOWER RIGHT DROP-SHADOWED WHITE SQUARE
  2750 0UPPER RIGHT DROP-SHADOWED WHITE SQUARE;0LOWER RIGHT SHADOWED WHITE SQUARE
  2752 0UPPER RIGHT SHADOWED WHITE SQUARE;0BLACK QUESTION MARK ORNAMENT
  2754 0WHITE QUESTION MARK ORNAMENT;1EXCLAMATION MARK ORNAMENT;0BLACK DIAMOND MINUS WHITE X
  2757 0HEAVY EXCLAMATION MARK SYMBOL;0LIGHT VERTICAL BAR;0MEDIUM VERTICAL BAR;0HEAVY VERTICAL BAR
  275B 1SINGLE TURNED COMMA QUOTATION MARK ORNAMENT;2COMMA QUOTATION MARK ORNAMENT
  275D 1DOUBLE TURNED COMMA QUOTATION MARK ORNAMENT;2COMMA QUOTATION MARK ORNAMENT
  275F 1LOW SINGLE COMMA QUOTATION MARK ORNAMENT;2DOUBLE COMMA QUOTATION MARK ORNAMENT
  2761 0CURVED STEM PARAGRAPH SIGN ORNAMENT;0HEAVY EXCLAMATION MARK ORNAMENT
  2763 1HEART EXCLAMATION MARK ORNAMENT;1BLACK HEART;0ROTATED HEAVY BLACK HEART BULLET;0FLORAL HEART
  2767 0ROTATED FLORAL HEART BULLET;0MEDIUM LEFT PARENTHESIS ORNAMENT;1RIGHT PARENTHESIS ORNAMENT
  276A 1FLATTENED LEFT PARENTHESIS ORNAMENT;2RIGHT PARENTHESIS ORNAMENT
  276C 1LEFT-POINTING ANGLE BRACKET ORNAMENT;1RIGHT-POINTING ANGLE BRACKET ORNAMENT
  276E 0HEAVY LEFT-POINTING ANGLE QUOTATION MARK ORNAMENT
  276F 1RIGHT-POINTING ANGLE QUOTATION MARK ORNAMENT;1LEFT-POINTING ANGLE BRACKET ORNAMENT
  2771 1RIGHT-POINTING ANGLE BRACKET ORNAMENT;0LIGHT LEFT TORTOISE SHELL BRACKET ORNAMENT
  2773 1RIGHT TORTOISE SHELL BRACKET ORNAMENT;0MEDIUM LEFT CURLY BRACKET ORNAMENT
  2775 1RIGHT CURLY BRACKET ORNAMENT;0DINGBAT NEGATIVE CIRCLED DIGIT ONE;4TWO;4THREE;4FOUR;4FIVE
  277B 4SIX;4SEVEN;4EIGHT;4NINE;3NUMBER TEN;1CIRCLED SANS-SERIF DIGIT ONE;4TWO;4THREE;4FOUR;4FIVE
  2785 4SIX;4SEVEN;4EIGHT;4NINE;3NUMBER TEN;1NEGATIVE CIRCLED SANS-SERIF DIGIT ONE;5TWO;5THREE;5FOUR
  278E 5FIVE;5SIX;5SEVEN;5EIGHT;5NINE;4NUMBER TEN;0HEAVY WIDE-HEADED RIGHTWARDS ARROW;1PLUS SIGN
  2796 1MINUS SIGN;1DIVISION SIGN;1SOUTH EAST ARROW;1RIGHTWARDS ARROW;1NORTH EAST ARROW
  279B 0DRAFTING POINT RIGHTWARDS ARROW;0HEAVY ROUND-TIPPED RIGHTWARDS ARROW
  279D 0TRIANGLE-HEADED RIGHTWARDS ARROW;0HEAVY TRIANGLE-HEADED RIGHTWARDS ARROW
  279F 0DASHED TRIANGLE-HEADED RIGHTWARDS ARROW;0HEAVY DASHED TRIANGLE-HEADED RIGHTWARDS ARROW
  27A1 0BLACK RIGHTWARDS ARROW;0THREE-D TOP-LIGHTED RIGHTWARDS ARROWHEAD
  27A3 1BOTTOM-LIGHTED RIGHTWARDS ARROWHEAD;0BLACK RIGHTWARDS ARROWHEAD
  27A5 0HEAVY BLACK CURVED DOWNWARDS AND RIGHTWARDS ARROW;3UPWARDS AND RIGHTWARDS ARROW
  27A7 0SQUAT BLACK RIGHTWARDS ARROW;0HEAVY CONCAVE-POINTED BLACK RIGHTWARDS ARROW
  27A9 0RIGHT-SHADED WHITE RIGHTWARDS ARROW;0LEFT-SHADED WHITE RIGHTWARDS ARROW
  27AB 0BACK-TILTED SHADOWED WHITE RIGHTWARDS ARROW;0FRONT-TILTED SHADOWED WHITE RIGHTWARDS ARROW
  27AD 0HEAVY LOWER RIGHT-SHADOWED WHITE RIGHTWARDS ARROW
  27AE 1UPPER RIGHT-SHADOWED WHITE RIGHTWARDS ARROW
  27AF 0NOTCHED LOWER RIGHT-SHADOWED WHITE RIGHTWARDS ARROW;0CURLY LOOP
  27B1 0NOTCHED UPPER RIGHT-SHADOWED WHITE RIGHTWARDS ARROW;0CIRCLED HEAVY WHITE RIGHTWARDS ARROW
  27B3 0WHITE-FEATHERED RIGHTWARDS ARROW;0BLACK-FEATHERED SOUTH EAST ARROW;1RIGHTWARDS ARROW
  27B6 1NORTH EAST ARROW;0HEAVY BLACK-FEATHERED SOUTH EAST ARROW;2RIGHTWARDS ARROW;2NORTH EAST ARROW
  27BA 0TEARDROP-BARBED RIGHTWARDS ARROW;0HEAVY TEARDROP-SHANKED RIGHTWARDS ARROW
  27BC 0WEDGE-TAILED RIGHTWARDS ARROW;0HEAVY WEDGE-TAILED RIGHTWARDS ARROW
  27BE 0OPEN-OUTLINED RIGHTWARDS ARROW;0DOUBLE CURLY LOOP;0THREE DIMENSIONAL ANGLE
  27C1 0WHITE TRIANGLE CONTAINING SMALL WHITE TRIANGLE;0PERPENDICULAR;0OPEN SUBSET;1SUPERSET
  27C5 0LEFT S-SHAPED BAG DELIMITER;0RIGHT S-SHAPED BAG DELIMITER;0OR WITH DOT INSIDE
  27C8 0REVERSE SOLIDUS PRECEDING SUBSET;0SUPERSET PRECEDING SOLIDUS
  27CA 0VERTICAL BAR WITH HORIZONTAL STROKE;0MATHEMATICAL RISING DIAGONAL;0LONG DIVISION
  27CD 0MATHEMATICAL FALLING DIAGONAL;0SQUARED LOGICAL AND;2OR;0WHITE DIAMOND WITH CENTRED DOT
  27D1 0AND WITH DOT;0ELEMENT OF OPENING UPWARDS;0LOWER RIGHT CORNER WITH DOT
  27D4 0UPPER LEFT CORNER WITH DOT;0LEFT OUTER JOIN;0RIGHT OUTER JOIN;0FULL OUTER JOIN
  27D8 0LARGE UP TACK;1DOWN TACK;0LEFT AND RIGHT DOUBLE TURNSTILE;3TACK;1MULTIMAP;0LONG RIGHT TACK
  27DE 1LEFT TACK;0UP TACK WITH CIRCLE ABOVE;0LOZENGE DIVIDED BY HORIZONTAL RULE
  27E1 0WHITE CONCAVE-SIDED DIAMOND;3WITH LEFTWARDS TICK;4RIGHTWARDS TICK
  27E4 1SQUARE WITH LEFTWARDS TICK;3RIGHTWARDS TICK;0MATHEMATICAL LEFT WHITE SQUARE BRACKET
  27E7 1RIGHT WHITE SQUARE BRACKET;1LEFT ANGLE BRACKET;1RIGHT ANGLE BRACKET
  27EA 1LEFT DOUBLE ANGLE BRACKET;1RIGHT DOUBLE ANGLE BRACKET;1LEFT WHITE TORTOISE SHELL BRACKET
  27ED 1RIGHT WHITE TORTOISE SHELL BRACKET;1LEFT FLATTENED PARENTHESIS;1RIGHT FLATTENED PARENTHESIS
  27F0 0UPWARDS QUADRUPLE ARROW;0DOWNWARDS QUADRUPLE ARROW;0ANTICLOCKWISE GAPPED CIRCLE ARROW
  27F3 0CLOCKWISE GAPPED CIRCLE ARROW;0RIGHT ARROW WITH CIRCLED PLUS;0LONG LEFTWARDS ARROW
  27F6 1RIGHTWARDS ARROW;1LEFT RIGHT ARROW;1LEFTWARDS DOUBLE ARROW;1RIGHTWARDS DOUBLE ARROW
  27FA 1LEFT RIGHT DOUBLE ARROW;1LEFTWARDS ARROW FROM BAR;1RIGHTWARDS ARROW FROM BAR
  27FD 1LEFTWARDS DOUBLE ARROW FROM BAR;1RIGHTWARDS DOUBLE ARROW FROM BAR;2SQUIGGLE ARROW
  2800 0BRAILLE PATTERN BLANK;2DOTS-1;2DOTS-2;2DOTS-12;2DOTS-3;2DOTS-13;2DOTS-23;2DOTS-123;2DOTS-4
  2809 2DOTS-14;2DOTS-24;2DOTS-124;2DOTS-34;2DOTS-134;2DOTS-234;2DOTS-1234;2DOTS-5;2DOTS-15;2DOTS-25
  2813 2DOTS-125;2DOTS-35;2DOTS-135;2DOTS-235;2DOTS-1235;2DOTS-45;2DOTS-145;2DOTS-245;2DOTS-1245
  281C 2DOTS-345;2DOTS-1345;2DOTS-2345;2DOTS-12345;2DOTS-6;2DOTS-16;2DOTS-26;2DOTS-126;2DOTS-36
  2825 2DOTS-136;2DOTS-236;2DOTS-1236;2DOTS-46;2DOTS-146;2DOTS-246;2DOTS-1246;2DOTS-346;2DOTS-1346
  282E 2DOTS-2346;2DOTS-12346;2DOTS-56;2DOTS-156;2DOTS-256;2DOTS-1256;2DOTS-356;2DOTS-1356
  2836 2DOTS-2356;2DOTS-12356;2DOTS-456;2DOTS-1456;2DOTS-2456;2DOTS-12456;2DOTS-3456;2DOTS-13456
  283E 2DOTS-23456;2DOTS-123456;2DOTS-7;2DOTS-17;2DOTS-27;2DOTS-127;2DOTS-37;2DOTS-137;2DOTS-237
  2847 2DOTS-1237;2DOTS-47;2DOTS-147;2DOTS-247;2DOTS-1247;2DOTS-347;2DOTS-1347;2DOTS-2347
  284F 2DOTS-12347;2DOTS-57;2DOTS-157;2DOTS-257;2DOTS-1257;2DOTS-357;2DOTS-1357;2DOTS-2357
  2857 2DOTS-12357;2DOTS-457;2DOTS-1457;2DOTS-2457;2DOTS-12457;2DOTS-3457;2DOTS-13457;2DOTS-23457
  285F 2DOTS-123457;2DOTS-67;2DOTS-167;2DOTS-267;2DOTS-1267;2DOTS-367;2DOTS-1367;2DOTS-2367
  2867 2DOTS-12367;2DOTS-467;2DOTS-1467;2DOTS-2467;2DOTS-12467;2DOTS-3467;2DOTS-13467;2DOTS-23467
  286F 2DOTS-123467;2DOTS-567;2DOTS-1567;2DOTS-2567;2DOTS-12567;2DOTS-3567;2DOTS-13567;2DOTS-23567
  2877 2DOTS-123567;2DOTS-4567;2DOTS-14567;2DOTS-24567;2DOTS-124567;2DOTS-34567;2DOTS-134567
  287E 2DOTS-234567;2DOTS-1234567;2DOTS-8;2DOTS-18;2DOTS-28;2DOTS-128;2DOTS-38;2DOTS-138;2DOTS-238
  2887 2DOTS-1238;2DOTS-48;2DOTS-148;2DOTS-248;2DOTS-1248;2DOTS-348;2DOTS-1348;2DOTS-2348
  288F 2DOTS-12348;2DOTS-58;2DOTS-158;2DOTS-258;2DOTS-1258;2DOTS-358;2DOTS-1358;2DOTS-2358
  2897 2DOTS-12358;2DOTS-458;2DOTS-1458;2DOTS-2458;2DOTS-12458;2DOTS-3458;2DOTS-13458;2DOTS-23458
  289F 2DOTS-123458;2DOTS-68;2DOTS-168;2DOTS-268;2DOTS-1268;2DOTS-368;2DOTS-1368;2DOTS-2368
  28A7 2DOTS-12368;2DOTS-468;2DOTS-1468;2DOTS-2468;2DOTS-12468;2DOTS-3468;2DOTS-13468;2DOTS-23468
  28AF 2DOTS-123468;2DOTS-568;2DOTS-1568;2DOTS-2568;2DOTS-12568;2DOTS-3568;2DOTS-13568;2DOTS-23568
  28B7 2DOTS-123568;2DOTS-4568;2DOTS-14568;2DOTS-24568;2DOTS-124568;2DOTS-34568;2DOTS-134568
  28BE 2DOTS-234568;2DOTS-1234568;2DOTS-78;2DOTS-178;2DOTS-278;2DOTS-1278;2DOTS-378;2DOTS-1378
  28C6 2DOTS-2378;2DOTS-12378;2DOTS-478;2DOTS-1478;2DOTS-2478;2DOTS-12478;2DOTS-3478;2DOTS-13478
  28CE 2DOTS-23478;2DOTS-123478;2DOTS-578;2DOTS-1578;2DOTS-2578;2DOTS-12578;2DOTS-3578;2DOTS-13578
  28D6 2DOTS-23578;2DOTS-123578;2DOTS-4578;2DOTS-14578;2DOTS-24578;2DOTS-124578;2DOTS-34578
  28DD 2DOTS-134578;2DOTS-234578;2DOTS-1234578;2DOTS-678;2DOTS-1678;2DOTS-2678;2DOTS-12678
  28E4 2DOTS-3678;2DOTS-13678;2DOTS-23678;2DOTS-123678;2DOTS-4678;2DOTS-14678;2DOTS-24678
  28EB 2DOTS-124678;2DOTS-34678;2DOTS-134678;2DOTS-234678;2DOTS-1234678;2DOTS-5678;2DOTS-15678
  28F2 2DOTS-25678;2DOTS-125678;2DOTS-35678;2DOTS-135678;2DOTS-235678;2DOTS-1235678;2DOTS-45678
  28F9 2DOTS-145678;2DOTS-245678;2DOTS-1245678;2DOTS-345678;2DOTS-1345678;2DOTS-2345678
  28FF 2DOTS-12345678;0RIGHTWARDS TWO-HEADED ARROW WITH VERTICAL STROKE;4DOUBLE VERTICAL STROKE
  2902 0LEFTWARDS DOUBLE ARROW WITH VERTICAL STROKE;0RIGHTWARDS DOUBLE ARROW WITH VERTICAL STROKE
  2904 0LEFT RIGHT DOUBLE ARROW WITH VERTICAL STROKE;0RIGHTWARDS TWO-HEADED ARROW FROM BAR
  2906 0LEFTWARDS DOUBLE ARROW FROM BAR;0RIGHTWARDS DOUBLE ARROW FROM BAR
  2908 0DOWNWARDS ARROW WITH HORIZONTAL STROKE;0UPWARDS ARROW WITH HORIZONTAL STROKE;1TRIPLE ARROW
  290B 0DOWNWARDS TRIPLE ARROW;0LEFTWARDS DOUBLE DASH ARROW;0RIGHTWARDS DOUBLE DASH ARROW
  290E 0LEFTWARDS TRIPLE DASH ARROW;0RIGHTWARDS TRIPLE DASH ARROW;1TWO-HEADED TRIPLE DASH ARROW
  2911 1ARROW WITH DOTTED STEM;0UPWARDS ARROW TO BAR;0DOWNWARDS ARROW TO BAR
  2914 0RIGHTWARDS ARROW WITH TAIL WITH VERTICAL STROKE;5DOUBLE VERTICAL STROKE
  2916 1TWO-HEADED ARROW WITH TAIL;5WITH VERTICAL STROKE;6DOUBLE VERTICAL STROKE
  2919 0LEFTWARDS ARROW-TAIL;0RIGHTWARDS ARROW-TAIL;0LEFTWARDS DOUBLE ARROW-TAIL
  291C 0RIGHTWARDS DOUBLE ARROW-TAIL;0LEFTWARDS ARROW TO BLACK DIAMOND
  291E 0RIGHTWARDS ARROW TO BLACK DIAMOND;0LEFTWARDS ARROW FROM BAR TO BLACK DIAMOND
  2920 0RIGHTWARDS ARROW FROM BAR TO BLACK DIAMOND;0NORTH WEST AND SOUTH EAST ARROW
  2922 1EAST AND SOUTH WEST ARROW;1WEST ARROW WITH HOOK;1EAST ARROW WITH HOOK
  2925 0SOUTH EAST ARROW WITH HOOK;1WEST ARROW WITH HOOK;0NORTH WEST ARROW AND NORTH EAST ARROW
  2928 1EAST ARROW AND SOUTH EAST ARROW;0SOUTH EAST ARROW AND SOUTH WEST ARROW
  292A 1WEST ARROW AND NORTH WEST ARROW;0RISING DIAGONAL CROSSING FALLING DIAGONAL
  292C 0FALLING DIAGONAL CROSSING RISING DIAGONAL;0SOUTH EAST ARROW CROSSING NORTH EAST ARROW
  292E 0NORTH EAST ARROW CROSSING SOUTH EAST ARROW;0FALLING DIAGONAL CROSSING NORTH EAST ARROW
  2930 0RISING DIAGONAL CROSSING SOUTH EAST ARROW;0NORTH EAST ARROW CROSSING NORTH WEST ARROW
  2932 1WEST ARROW CROSSING NORTH EAST ARROW;0WAVE ARROW POINTING DIRECTLY RIGHT
  2934 0ARROW POINTING RIGHTWARDS THEN CURVING UPWARDS;5DOWNWARDS;2DOWNWARDS THEN CURVING LEFTWARDS
  2937 5RIGHTWARDS;0RIGHT-SIDE ARC CLOCKWISE ARROW;0LEFT-SIDE ARC ANTICLOCKWISE ARROW
  293A 0TOP ARC ANTICLOCKWISE ARROW;0BOTTOM ARC ANTICLOCKWISE ARROW
  293C 0TOP ARC CLOCKWISE ARROW WITH MINUS;2ANTICLOCKWISE ARROW WITH PLUS
  293E 0LOWER RIGHT SEMICIRCULAR CLOCKWISE ARROW;1LEFT SEMICIRCULAR ANTICLOCKWISE ARROW
  2940 0ANTICLOCKWISE CLOSED CIRCLE ARROW;0CLOCKWISE CLOSED CIRCLE ARROW
  2942 0RIGHTWARDS ARROW ABOVE SHORT LEFTWARDS ARROW;0LEFTWARDS ARROW ABOVE SHORT RIGHTWARDS ARROW
  2944 0SHORT RIGHTWARDS ARROW ABOVE LEFTWARDS ARROW;0RIGHTWARDS ARROW WITH PLUS BELOW
  2946 0LEFTWARDS ARROW WITH PLUS BELOW;0RIGHTWARDS ARROW THROUGH X
  2948 0LEFT RIGHT ARROW THROUGH SMALL CIRCLE;0UPWARDS TWO-HEADED ARROW FROM SMALL CIRCLE
  294A 0LEFT BARB UP RIGHT BARB DOWN HARPOON;2DOWN RIGHT BARB UP HARPOON
  294C 0UP BARB RIGHT DOWN BARB LEFT HARPOON;2LEFT DOWN BARB RIGHT HARPOON
  294E 0LEFT BARB UP RIGHT BARB UP HARPOON;0UP BARB RIGHT DOWN BARB RIGHT HARPOON
  2950 0LEFT BARB DOWN RIGHT BARB DOWN HARPOON;0UP BARB LEFT DOWN BARB LEFT HARPOON
  2952 0LEFTWARDS HARPOON WITH BARB UP TO BAR;0RIGHTWARDS HARPOON WITH BARB UP TO BAR
  2954 0UPWARDS HARPOON WITH BARB RIGHT TO BAR;0DOWNWARDS HARPOON WITH BARB RIGHT TO BAR
  2956 0LEFTWARDS HARPOON WITH BARB DOWN TO BAR;0RIGHTWARDS HARPOON WITH BARB DOWN TO BAR
  2958 0UPWARDS HARPOON WITH BARB LEFT TO BAR;0DOWNWARDS HARPOON WITH BARB LEFT TO BAR
  295A 0LEFTWARDS HARPOON WITH BARB UP FROM BAR;0RIGHTWARDS HARPOON WITH BARB UP FROM BAR
  295C 0UPWARDS HARPOON WITH BARB RIGHT FROM BAR;0DOWNWARDS HARPOON WITH BARB RIGHT FROM BAR
  295E 0LEFTWARDS HARPOON WITH BARB DOWN FROM BAR;0RIGHTWARDS HARPOON WITH BARB DOWN FROM BAR
  2960 0UPWARDS HARPOON WITH BARB LEFT FROM BAR;0DOWNWARDS HARPOON WITH BARB LEFT FROM BAR
  2962 0LEFTWARDS HARPOON WITH BARB UP ABOVE LEFTWARDS HARPOON WITH BARB DOWN
  2963 0UPWARDS HARPOON WITH BARB LEFT BESIDE UPWARDS HARPOON WITH BARB RIGHT
  2964 0RIGHTWARDS HARPOON WITH BARB UP ABOVE RIGHTWARDS HARPOON WITH BARB DOWN
  2965 0DOWNWARDS HARPOON WITH BARB LEFT BESIDE DOWNWARDS HARPOON WITH BARB RIGHT
  2966 0LEFTWARDS HARPOON WITH BARB UP ABOVE RIGHTWARDS HARPOON WITH BARB UP
  2967 4DOWN ABOVE RIGHTWARDS HARPOON WITH BARB DOWN
  2968 0RIGHTWARDS HARPOON WITH BARB UP ABOVE LEFTWARDS HARPOON WITH BARB UP
  2969 4DOWN ABOVE LEFTWARDS HARPOON WITH BARB DOWN;0LEFTWARDS HARPOON WITH BARB UP ABOVE LONG DASH
  296B 4DOWN BELOW LONG DASH;0RIGHTWARDS HARPOON WITH BARB UP ABOVE LONG DASH;4DOWN BELOW LONG DASH
  296E 0UPWARDS HARPOON WITH BARB LEFT BESIDE DOWNWARDS HARPOON WITH BARB RIGHT
  296F 0DOWNWARDS HARPOON WITH BARB LEFT BESIDE UPWARDS HARPOON WITH BARB RIGHT
  2970 0RIGHT DOUBLE ARROW WITH ROUNDED HEAD;0EQUALS SIGN ABOVE RIGHTWARDS ARROW
  2972 0TILDE OPERATOR ABOVE RIGHTWARDS ARROW;0LEFTWARDS ARROW ABOVE TILDE OPERATOR
  2974 0RIGHTWARDS ARROW ABOVE TILDE OPERATOR;3ALMOST EQUAL TO;0LESS-THAN ABOVE LEFTWARDS ARROW
  2977 0LEFTWARDS ARROW THROUGH LESS-THAN;0GREATER-THAN ABOVE RIGHTWARDS ARROW
  2979 0SUBSET ABOVE RIGHTWARDS ARROW;0LEFTWARDS ARROW THROUGH SUBSET
  297B 0SUPERSET ABOVE LEFTWARDS ARROW;0LEFT FISH TAIL;0RIGHT FISH TAIL;0UP FISH TAIL
  297F 0DOWN FISH TAIL;0TRIPLE VERTICAL BAR DELIMITER;0Z NOTATION SPOT;2TYPE COLON
  2983 0LEFT WHITE CURLY BRACKET;0RIGHT WHITE CURLY BRACKET;0LEFT WHITE PARENTHESIS
  2986 0RIGHT WHITE PARENTHESIS;0Z NOTATION LEFT IMAGE BRACKET;2RIGHT IMAGE BRACKET
  2989 2LEFT BINDING BRACKET;2RIGHT BINDING BRACKET;0LEFT SQUARE BRACKET WITH UNDERBAR
  298C 0RIGHT SQUARE BRACKET WITH UNDERBAR;0LEFT SQUARE BRACKET WITH TICK IN TOP CORNER
  298E 0RIGHT SQUARE BRACKET WITH TICK IN BOTTOM CORNER
  298F 0LEFT SQUARE BRACKET WITH TICK IN BOTTOM CORNER;0RIGHT SQUARE BRACKET WITH TICK IN TOP CORNER
  2991 0LEFT ANGLE BRACKET WITH DOT;0RIGHT ANGLE BRACKET WITH DOT;0LEFT ARC LESS-THAN BRACKET
  2994 0RIGHT ARC GREATER-THAN BRACKET;0DOUBLE LEFT ARC GREATER-THAN BRACKET
  2996 1RIGHT ARC LESS-THAN BRACKET;0LEFT BLACK TORTOISE SHELL BRACKET
  2998 0RIGHT BLACK TORTOISE SHELL BRACKET;0DOTTED FENCE;0VERTICAL ZIGZAG LINE
  299B 0MEASURED ANGLE OPENING LEFT;0RIGHT ANGLE VARIANT WITH SQUARE;0MEASURED RIGHT ANGLE WITH DOT
  299E 0ANGLE WITH S INSIDE;0ACUTE ANGLE;0SPHERICAL ANGLE OPENING LEFT;3UP;0TURNED ANGLE
  29A3 0REVERSED ANGLE;0ANGLE WITH UNDERBAR;0REVERSED ANGLE WITH UNDERBAR;0OBLIQUE ANGLE OPENING UP
  29A7 3DOWN;0MEASURED ANGLE WITH OPEN ARM ENDING IN ARROW POINTING UP AND RIGHT;9UP AND LEFT
  29AA 9DOWN AND RIGHT;9DOWN AND LEFT;9RIGHT AND UP;9LEFT AND UP;9RIGHT AND DOWN;9LEFT AND DOWN
  29B0 0REVERSED EMPTY SET;0EMPTY SET WITH OVERBAR;3SMALL CIRCLE ABOVE;3RIGHT ARROW ABOVE
  29B4 3LEFT ARROW ABOVE;0CIRCLE WITH HORIZONTAL BAR;0CIRCLED VERTICAL BAR;1PARALLEL
  29B8 1REVERSE SOLIDUS;1PERPENDICULAR
  29BA 0CIRCLE DIVIDED BY HORIZONTAL BAR AND TOP HALF DIVIDED BY VERTICAL BAR;1WITH SUPERIMPOSED X
  29BC 0CIRCLED ANTICLOCKWISE-ROTATED DIVISION SIGN;0UP ARROW THROUGH CIRCLE;0CIRCLED WHITE BULLET
  29BF 1BULLET;1LESS-THAN;1GREATER-THAN;0CIRCLE WITH SMALL CIRCLE TO THE RIGHT
  29C3 2TWO HORIZONTAL STROKES TO THE RIGHT;0SQUARED RISING DIAGONAL SLASH;1FALLING DIAGONAL SLASH
  29C6 1ASTERISK;1SMALL CIRCLE;1SQUARE;0TWO JOINED SQUARES;0TRIANGLE WITH DOT ABOVE;2UNDERBAR
  29CC 0S IN TRIANGLE;0TRIANGLE WITH SERIFS AT BOTTOM;0RIGHT TRIANGLE ABOVE LEFT TRIANGLE
  29CF 0LEFT TRIANGLE BESIDE VERTICAL BAR;0VERTICAL BAR BESIDE RIGHT TRIANGLE
  29D1 0BOWTIE WITH LEFT HALF BLACK;2RIGHT HALF BLACK;0BLACK BOWTIE;0TIMES WITH LEFT HALF BLACK
  29D5 2RIGHT HALF BLACK;0WHITE HOURGLASS;0BLACK HOURGLASS;0LEFT WIGGLY FENCE;0RIGHT WIGGLY FENCE
  29DA 0LEFT DOUBLE WIGGLY FENCE;0RIGHT DOUBLE WIGGLY FENCE;0INCOMPLETE INFINITY;0TIE OVER INFINITY
  29DE 0INFINITY NEGATED WITH VERTICAL BAR;0DOUBLE-ENDED MULTIMAP;0SQUARE WITH CONTOURED OUTLINE
  29E1 0INCREASES AS;0SHUFFLE PRODUCT;0EQUALS SIGN AND SLANTED PARALLEL;5WITH TILDE ABOVE
  29E5 0IDENTICAL TO AND SLANTED PARALLEL;0GLEICH STARK;0THERMODYNAMIC
  29E8 0DOWN-POINTING TRIANGLE WITH LEFT HALF BLACK;3RIGHT HALF BLACK;0BLACK DIAMOND WITH DOWN ARROW
  29EB 1LOZENGE;0WHITE CIRCLE WITH DOWN ARROW;0BLACK CIRCLE WITH DOWN ARROW
  29EE 0ERROR-BARRED WHITE SQUARE;1BLACK SQUARE;1WHITE DIAMOND;1BLACK DIAMOND;1WHITE CIRCLE
  29F3 1BLACK CIRCLE;0RULE-DELAYED;0REVERSE SOLIDUS OPERATOR;0SOLIDUS WITH OVERBAR
  29F7 0REVERSE SOLIDUS WITH HORIZONTAL STROKE;0BIG SOLIDUS;1REVERSE SOLIDUS;0DOUBLE PLUS
  29FB 0TRIPLE PLUS;0LEFT-POINTING CURVED ANGLE BRACKET;0RIGHT-POINTING CURVED ANGLE BRACKET;0TINY
  29FF 0MINY;0N-ARY CIRCLED DOT OPERATOR;2PLUS OPERATOR;2TIMES OPERATOR;1UNION OPERATOR WITH DOT
  2A04 4PLUS;1SQUARE INTERSECTION OPERATOR;2UNION OPERATOR;0TWO LOGICAL AND OPERATOR;2OR OPERATOR
  2A09 0N-ARY TIMES OPERATOR;0MODULO TWO SUM;0SUMMATION WITH INTEGRAL;0QUADRUPLE INTEGRAL OPERATOR
  2A0D 0FINITE PART INTEGRAL;0INTEGRAL WITH DOUBLE STROKE;1AVERAGE WITH SLASH;0CIRCULATION FUNCTION
  2A11 0ANTICLOCKWISE INTEGRATION;0LINE INTEGRATION WITH RECTANGULAR PATH AROUND POLE
  2A13 3SEMICIRCULAR PATH AROUND POLE;2NOT INCLUDING THE POLE;0INTEGRAL AROUND A POINT OPERATOR
  2A16 0QUATERNION INTEGRAL OPERATOR;0INTEGRAL WITH LEFTWARDS ARROW WITH HOOK;2TIMES SIGN
  2A19 2INTERSECTION;2UNION;2OVERBAR;2UNDERBAR;0JOIN;0LARGE LEFT TRIANGLE OPERATOR
  2A1F 0Z NOTATION SCHEMA COMPOSITION;3PIPING;3PROJECTION;0PLUS SIGN WITH SMALL CIRCLE ABOVE
  2A23 3CIRCUMFLEX ACCENT ABOVE;3TILDE ABOVE;3DOT BELOW;3TILDE BELOW;3SUBSCRIPT TWO;3BLACK TRIANGLE
  2A29 0MINUS SIGN WITH COMMA ABOVE;3DOT BELOW;3FALLING DOTS;3RISING DOTS
  2A2D 0PLUS SIGN IN LEFT HALF CIRCLE;3RIGHT HALF CIRCLE;0VECTOR OR CROSS PRODUCT
  2A30 0MULTIPLICATION SIGN WITH DOT ABOVE;3UNDERBAR;0SEMIDIRECT PRODUCT WITH BOTTOM CLOSED
  2A33 0SMASH PRODUCT;0MULTIPLICATION SIGN IN LEFT HALF CIRCLE;3RIGHT HALF CIRCLE
  2A36 0CIRCLED MULTIPLICATION SIGN WITH CIRCUMFLEX ACCENT;0MULTIPLICATION SIGN IN DOUBLE CIRCLE
  2A38 0CIRCLED DIVISION SIGN;0PLUS SIGN IN TRIANGLE;0MINUS SIGN IN TRIANGLE
  2A3B 0MULTIPLICATION SIGN IN TRIANGLE;0INTERIOR PRODUCT;0RIGHTHAND INTERIOR PRODUCT
  2A3E 0Z NOTATION RELATIONAL COMPOSITION;0AMALGAMATION OR COPRODUCT;0INTERSECTION WITH DOT
  2A41 0UNION WITH MINUS SIGN;2OVERBAR;0INTERSECTION WITH OVERBAR;2LOGICAL AND
  2A45 0UNION WITH LOGICAL OR;1ABOVE INTERSECTION;0INTERSECTION ABOVE UNION
  2A48 0UNION ABOVE BAR ABOVE INTERSECTION;0INTERSECTION ABOVE BAR ABOVE UNION
  2A4A 0UNION BESIDE AND JOINED WITH UNION;0INTERSECTION BESIDE AND JOINED WITH INTERSECTION
  2A4C 0CLOSED UNION WITH SERIFS;1INTERSECTION WITH SERIFS;0DOUBLE SQUARE INTERSECTION;2UNION
  2A50 0CLOSED UNION WITH SERIFS AND SMASH PRODUCT;0LOGICAL AND WITH DOT ABOVE;1OR WITH DOT ABOVE
  2A53 0DOUBLE LOGICAL AND;2OR;0TWO INTERSECTING LOGICAL AND;3OR;0SLOPING LARGE OR;2AND
  2A59 0LOGICAL OR OVERLAPPING LOGICAL AND;1AND WITH MIDDLE STEM;1OR WITH MIDDLE STEM
  2A5C 1AND WITH HORIZONTAL DASH;1OR WITH HORIZONTAL DASH;1AND WITH DOUBLE OVERBAR;3UNDERBAR
  2A60 3DOUBLE UNDERBAR;0SMALL VEE WITH UNDERBAR;0LOGICAL OR WITH DOUBLE OVERBAR;4UNDERBAR
  2A64 0Z NOTATION DOMAIN ANTIRESTRICTION;2RANGE ANTIRESTRICTION;0EQUALS SIGN WITH DOT BELOW
  2A67 0IDENTICAL WITH DOT ABOVE;0TRIPLE HORIZONTAL BAR WITH DOUBLE VERTICAL STROKE
  2A69 4TRIPLE VERTICAL STROKE;0TILDE OPERATOR WITH DOT ABOVE;3RISING DOTS;0SIMILAR MINUS SIMILAR
  2A6D 0CONGRUENT WITH DOT ABOVE;0EQUALS WITH ASTERISK;0ALMOST EQUAL TO WITH CIRCUMFLEX ACCENT
  2A70 0APPROXIMATELY EQUAL OR EQUAL TO;0EQUALS SIGN ABOVE PLUS SIGN;0PLUS SIGN ABOVE EQUALS SIGN
  2A73 0EQUALS SIGN ABOVE TILDE OPERATOR;0DOUBLE COLON EQUAL;0TWO CONSECUTIVE EQUALS SIGNS
  2A76 0THREE CONSECUTIVE EQUALS SIGNS;0EQUALS SIGN WITH TWO DOTS ABOVE AND TWO DOTS BELOW
  2A78 0EQUIVALENT WITH FOUR DOTS ABOVE;0LESS-THAN WITH CIRCLE INSIDE
  2A7A 0GREATER-THAN WITH CIRCLE INSIDE;0LESS-THAN WITH QUESTION MARK ABOVE
  2A7C 0GREATER-THAN WITH QUESTION MARK ABOVE;0LESS-THAN OR SLANTED EQUAL TO
  2A7E 0GREATER-THAN OR SLANTED EQUAL TO;0LESS-THAN OR SLANTED EQUAL TO WITH DOT INSIDE
  2A80 0GREATER-THAN OR SLANTED EQUAL TO WITH DOT INSIDE
  2A81 0LESS-THAN OR SLANTED EQUAL TO WITH DOT ABOVE
  2A82 0GREATER-THAN OR SLANTED EQUAL TO WITH DOT ABOVE
  2A83 0LESS-THAN OR SLANTED EQUAL TO WITH DOT ABOVE RIGHT
  2A84 0GREATER-THAN OR SLANTED EQUAL TO WITH DOT ABOVE LEFT;0LESS-THAN OR APPROXIMATE
  2A86 0GREATER-THAN OR APPROXIMATE;0LESS-THAN AND SINGLE-LINE NOT EQUAL TO
  2A88 0GREATER-THAN AND SINGLE-LINE NOT EQUAL TO;0LESS-THAN AND NOT APPROXIMATE
  2A8A 0GREATER-THAN AND NOT APPROXIMATE;0LESS-THAN ABOVE DOUBLE-LINE EQUAL ABOVE GREATER-THAN
  2A8C 0GREATER-THAN ABOVE DOUBLE-LINE EQUAL ABOVE LESS-THAN;0LESS-THAN ABOVE SIMILAR OR EQUAL
  2A8E 0GREATER-THAN ABOVE SIMILAR OR EQUAL;0LESS-THAN ABOVE SIMILAR ABOVE GREATER-THAN
  2A90 0GREATER-THAN ABOVE SIMILAR ABOVE LESS-THAN
  2A91 0LESS-THAN ABOVE GREATER-THAN ABOVE DOUBLE-LINE EQUAL
  2A92 0GREATER-THAN ABOVE LESS-THAN ABOVE DOUBLE-LINE EQUAL
  2A93 0LESS-THAN ABOVE SLANTED EQUAL ABOVE GREATER-THAN ABOVE SLANTED EQUAL
  2A94 0GREATER-THAN ABOVE SLANTED EQUAL ABOVE LESS-THAN ABOVE SLANTED EQUAL
  2A95 0SLANTED EQUAL TO OR LESS-THAN;4GREATER-THAN;4LESS-THAN WITH DOT INSIDE
  2A98 4GREATER-THAN WITH DOT INSIDE;0DOUBLE-LINE EQUAL TO OR LESS-THAN;4GREATER-THAN
  2A9B 1SLANTED EQUAL TO OR LESS-THAN;5GREATER-THAN;0SIMILAR OR LESS-THAN;2GREATER-THAN
  2A9F 1ABOVE LESS-THAN ABOVE EQUALS SIGN;2GREATER-THAN ABOVE EQUALS SIGN;0DOUBLE NESTED LESS-THAN
  2AA2 2GREATER-THAN;2LESS-THAN WITH UNDERBAR;0GREATER-THAN OVERLAPPING LESS-THAN;1BESIDE LESS-THAN
  2AA6 0LESS-THAN CLOSED BY CURVE;0GREATER-THAN CLOSED BY CURVE
  2AA8 0LESS-THAN CLOSED BY CURVE ABOVE SLANTED EQUAL
  2AA9 0GREATER-THAN CLOSED BY CURVE ABOVE SLANTED EQUAL;0SMALLER THAN;0LARGER THAN
  2AAC 0SMALLER THAN OR EQUAL TO;0LARGER THAN OR EQUAL TO;0EQUALS SIGN WITH BUMPY ABOVE
  2AAF 0PRECEDES ABOVE SINGLE-LINE EQUALS SIGN;0SUCCEEDS ABOVE SINGLE-LINE EQUALS SIGN
  2AB1 0PRECEDES ABOVE SINGLE-LINE NOT EQUAL TO;0SUCCEEDS ABOVE SINGLE-LINE NOT EQUAL TO
  2AB3 0PRECEDES ABOVE EQUALS SIGN;0SUCCEEDS ABOVE EQUALS SIGN;0PRECEDES ABOVE NOT EQUAL TO
  2AB6 0SUCCEEDS ABOVE NOT EQUAL TO;0PRECEDES ABOVE ALMOST EQUAL TO;0SUCCEEDS ABOVE ALMOST EQUAL TO
  2AB9 0PRECEDES ABOVE NOT ALMOST EQUAL TO;0SUCCEEDS ABOVE NOT ALMOST EQUAL TO;0DOUBLE PRECEDES
  2ABC 1SUCCEEDS;0SUBSET WITH DOT;0SUPERSET WITH DOT;0SUBSET WITH PLUS SIGN BELOW
  2AC0 0SUPERSET WITH PLUS SIGN BELOW;0SUBSET WITH MULTIPLICATION SIGN BELOW
  2AC2 0SUPERSET WITH MULTIPLICATION SIGN BELOW;0SUBSET OF OR EQUAL TO WITH DOT ABOVE
  2AC4 0SUPERSET OF OR EQUAL TO WITH DOT ABOVE;0SUBSET OF ABOVE EQUALS SIGN
  2AC6 0SUPERSET OF ABOVE EQUALS SIGN;0SUBSET OF ABOVE TILDE OPERATOR
  2AC8 0SUPERSET OF ABOVE TILDE OPERATOR;0SUBSET OF ABOVE ALMOST EQUAL TO
  2ACA 0SUPERSET OF ABOVE ALMOST EQUAL TO;0SUBSET OF ABOVE NOT EQUAL TO
  2ACC 0SUPERSET OF ABOVE NOT EQUAL TO;0SQUARE LEFT OPEN BOX OPERATOR;1RIGHT OPEN BOX OPERATOR
  2ACF 0CLOSED SUBSET;1SUPERSET;1SUBSET OR EQUAL TO;1SUPERSET OR EQUAL TO;0SUBSET ABOVE SUPERSET
  2AD4 0SUPERSET ABOVE SUBSET;0SUBSET ABOVE SUBSET;0SUPERSET ABOVE SUPERSET;1BESIDE SUBSET
  2AD8 2AND JOINED BY DASH WITH SUBSET;0ELEMENT OF OPENING DOWNWARDS;0PITCHFORK WITH TEE TOP
  2ADB 0TRANSVERSAL INTERSECTION;0FORKING;0NONFORKING;0SHORT LEFT TACK;1DOWN TACK;1UP TACK
  2AE1 0PERPENDICULAR WITH S;0VERTICAL BAR TRIPLE RIGHT TURNSTILE
  2AE3 0DOUBLE VERTICAL BAR LEFT TURNSTILE;0VERTICAL BAR DOUBLE LEFT TURNSTILE
  2AE5 0DOUBLE VERTICAL BAR DOUBLE LEFT TURNSTILE;0LONG DASH FROM LEFT MEMBER OF DOUBLE VERTICAL
  2AE7 0SHORT DOWN TACK WITH OVERBAR;1UP TACK WITH UNDERBAR;3ABOVE SHORT DOWN TACK;0DOUBLE DOWN TACK
  2AEB 1UP TACK;1STROKE NOT SIGN;0REVERSED DOUBLE STROKE NOT SIGN
  2AEE 0DOES NOT DIVIDE WITH REVERSED NEGATION SLASH;0VERTICAL LINE WITH CIRCLE ABOVE;4BELOW
  2AF1 0DOWN TACK WITH CIRCLE BELOW;0PARALLEL WITH HORIZONTAL STROKE;2TILDE OPERATOR
  2AF4 0TRIPLE VERTICAL BAR BINARY RELATION;3WITH HORIZONTAL STROKE;1COLON OPERATOR
  2AF7 1NESTED LESS-THAN;2GREATER-THAN;0DOUBLE-LINE SLANTED LESS-THAN OR EQUAL TO
  2AFA 2GREATER-THAN OR EQUAL TO;0TRIPLE SOLIDUS BINARY RELATION;0LARGE TRIPLE VERTICAL BAR OPERATOR
  2AFD 0DOUBLE SOLIDUS OPERATOR;0WHITE VERTICAL BAR;0N-ARY WHITE VERTICAL BAR
  2B00 0NORTH EAST WHITE ARROW;1WEST WHITE ARROW;0SOUTH EAST WHITE ARROW;1WEST WHITE ARROW
  2B04 0LEFT RIGHT WHITE ARROW;0LEFTWARDS BLACK ARROW;0UPWARDS BLACK ARROW;0DOWNWARDS BLACK ARROW
  2B08 0NORTH EAST BLACK ARROW;1WEST BLACK ARROW;0SOUTH EAST BLACK ARROW;1WEST BLACK ARROW
  2B0C 0LEFT RIGHT BLACK ARROW;0UP DOWN BLACK ARROW;0RIGHTWARDS ARROW WITH TIP DOWNWARDS;4UPWARDS
  2B10 0LEFTWARDS ARROW WITH TIP DOWNWARDS;4UPWARDS;0SQUARE WITH TOP HALF BLACK;2BOTTOM HALF BLACK
  2B14 2UPPER RIGHT DIAGONAL HALF BLACK;2LOWER LEFT DIAGONAL HALF BLACK
  2B16 0DIAMOND WITH LEFT HALF BLACK;2RIGHT HALF BLACK;2TOP HALF BLACK;2BOTTOM HALF BLACK
  2B1A 0DOTTED SQUARE;0BLACK LARGE SQUARE;0WHITE LARGE SQUARE;0BLACK VERY SMALL SQUARE
  2B1E 0WHITE VERY SMALL SQUARE;0BLACK PENTAGON;0WHITE PENTAGON;1HEXAGON;0BLACK HEXAGON
  2B23 0HORIZONTAL BLACK HEXAGON;0BLACK LARGE CIRCLE;1MEDIUM DIAMOND;0WHITE MEDIUM DIAMOND
  2B27 0BLACK MEDIUM LOZENGE;0WHITE MEDIUM LOZENGE;0BLACK SMALL DIAMOND;2LOZENGE
  2B2B 0WHITE SMALL LOZENGE;0BLACK HORIZONTAL ELLIPSE;0WHITE HORIZONTAL ELLIPSE
  2B2E 0BLACK VERTICAL ELLIPSE;0WHITE VERTICAL ELLIPSE;0LEFT ARROW WITH SMALL CIRCLE
  2B31 0THREE LEFTWARDS ARROWS;0LEFT ARROW WITH CIRCLED PLUS;0LONG LEFTWARDS SQUIGGLE ARROW
  2B34 0LEFTWARDS TWO-HEADED ARROW WITH VERTICAL STROKE;4DOUBLE VERTICAL STROKE;3FROM BAR
  2B37 2TRIPLE DASH ARROW;1ARROW WITH DOTTED STEM;3TAIL WITH VERTICAL STROKE;5DOUBLE VERTICAL STROKE
  2B3B 1TWO-HEADED ARROW WITH TAIL;5WITH VERTICAL STROKE;6DOUBLE VERTICAL STROKE;1ARROW THROUGH X
  2B3F 0WAVE ARROW POINTING DIRECTLY LEFT;0EQUALS SIGN ABOVE LEFTWARDS ARROW
  2B41 0REVERSE TILDE OPERATOR ABOVE LEFTWARDS ARROW;0LEFTWARDS ARROW ABOVE REVERSE ALMOST EQUAL TO
  2B43 0RIGHTWARDS ARROW THROUGH GREATER-THAN;3SUPERSET;0LEFTWARDS QUADRUPLE ARROW
  2B46 0RIGHTWARDS QUADRUPLE ARROW;0REVERSE TILDE OPERATOR ABOVE RIGHTWARDS ARROW
  2B48 0RIGHTWARDS ARROW ABOVE REVERSE ALMOST EQUAL TO;0TILDE OPERATOR ABOVE LEFTWARDS ARROW
  2B4A 0LEFTWARDS ARROW ABOVE ALMOST EQUAL TO;3REVERSE TILDE OPERATOR
  2B4C 0RIGHTWARDS ARROW ABOVE REVERSE TILDE OPERATOR;0DOWNWARDS TRIANGLE-HEADED ZIGZAG ARROW
  2B4E 0SHORT SLANTED NORTH ARROW;1BACKSLANTED SOUTH ARROW;0WHITE MEDIUM STAR;0BLACK SMALL STAR
  2B52 0WHITE SMALL STAR;0BLACK RIGHT-POINTING PENTAGON;0WHITE RIGHT-POINTING PENTAGON
  2B55 0HEAVY LARGE CIRCLE;1OVAL WITH OVAL INSIDE;1CIRCLE WITH CIRCLE INSIDE;2;1CIRCLED SALTIRE
  2B5A 0SLANTED NORTH ARROW WITH HOOKED HEAD;0BACKSLANTED SOUTH ARROW WITH HOOKED TAIL
  2B5C 0SLANTED NORTH ARROW WITH HORIZONTAL TAIL;0BACKSLANTED SOUTH ARROW WITH HORIZONTAL TAIL
  2B5E 0BENT ARROW POINTING DOWNWARDS THEN NORTH EAST
  2B5F 0SHORT BENT ARROW POINTING DOWNWARDS THEN NORTH EAST;0LEFTWARDS TRIANGLE-HEADED ARROW
  2B61 0UPWARDS TRIANGLE-HEADED ARROW;0RIGHTWARDS TRIANGLE-HEADED ARROW
  2B63 0DOWNWARDS TRIANGLE-HEADED ARROW;0LEFT RIGHT TRIANGLE-HEADED ARROW
  2B65 0UP DOWN TRIANGLE-HEADED ARROW;0NORTH WEST TRIANGLE-HEADED ARROW;1EAST TRIANGLE-HEADED ARROW
  2B68 0SOUTH EAST TRIANGLE-HEADED ARROW;1WEST TRIANGLE-HEADED ARROW
  2B6A 0LEFTWARDS TRIANGLE-HEADED DASHED ARROW;0UPWARDS TRIANGLE-HEADED DASHED ARROW
  2B6C 0RIGHTWARDS TRIANGLE-HEADED DASHED ARROW;0DOWNWARDS TRIANGLE-HEADED DASHED ARROW
  2B6E 0CLOCKWISE TRIANGLE-HEADED OPEN CIRCLE ARROW;0ANTICLOCKWISE TRIANGLE-HEADED OPEN CIRCLE ARROW
  2B70 0LEFTWARDS TRIANGLE-HEADED ARROW TO BAR;0UPWARDS TRIANGLE-HEADED ARROW TO BAR
  2B72 0RIGHTWARDS TRIANGLE-HEADED ARROW TO BAR;0DOWNWARDS TRIANGLE-HEADED ARROW TO BAR
  2B76 0NORTH WEST TRIANGLE-HEADED ARROW TO BAR;1EAST TRIANGLE-HEADED ARROW TO BAR
  2B78 0SOUTH EAST TRIANGLE-HEADED ARROW TO BAR;1WEST TRIANGLE-HEADED ARROW TO BAR
  2B7A 0LEFTWARDS TRIANGLE-HEADED ARROW WITH DOUBLE HORIZONTAL STROKE
  2B7B 0UPWARDS TRIANGLE-HEADED ARROW WITH DOUBLE HORIZONTAL STROKE
  2B7C 0RIGHTWARDS TRIANGLE-HEADED ARROW WITH DOUBLE HORIZONTAL STROKE
  2B7D 0DOWNWARDS TRIANGLE-HEADED ARROW WITH DOUBLE HORIZONTAL STROKE;0HORIZONTAL TAB KEY
  2B7F 0VERTICAL TAB KEY;0LEFTWARDS TRIANGLE-HEADED ARROW OVER RIGHTWARDS TRIANGLE-HEADED ARROW
  2B81 0UPWARDS TRIANGLE-HEADED ARROW LEFTWARDS OF DOWNWARDS TRIANGLE-HEADED ARROW
  2B82 0RIGHTWARDS TRIANGLE-HEADED ARROW OVER LEFTWARDS TRIANGLE-HEADED ARROW
  2B83 0DOWNWARDS TRIANGLE-HEADED ARROW LEFTWARDS OF UPWARDS TRIANGLE-HEADED ARROW
  2B84 0LEFTWARDS TRIANGLE-HEADED PAIRED ARROWS;0UPWARDS TRIANGLE-HEADED PAIRED ARROWS
  2B86 0RIGHTWARDS TRIANGLE-HEADED PAIRED ARROWS;0DOWNWARDS TRIANGLE-HEADED PAIRED ARROWS
  2B88 0LEFTWARDS BLACK CIRCLED WHITE ARROW;0UPWARDS BLACK CIRCLED WHITE ARROW
  2B8A 0RIGHTWARDS BLACK CIRCLED WHITE ARROW;0DOWNWARDS BLACK CIRCLED WHITE ARROW
  2B8C 0ANTICLOCKWISE TRIANGLE-HEADED RIGHT U-SHAPED ARROW;2BOTTOM U-SHAPED ARROW
  2B8E 2LEFT U-SHAPED ARROW;2TOP U-SHAPED ARROW;0RETURN LEFT;1RIGHT;0NEWLINE LEFT;1RIGHT
  2B94 0FOUR CORNER ARROWS CIRCLING ANTICLOCKWISE;0RIGHTWARDS BLACK ARROW
  2B97 0SYMBOL FOR TYPE A ELECTRONICS;0THREE-D TOP-LIGHTED LEFTWARDS EQUILATERAL ARROWHEAD
  2B99 1RIGHT-LIGHTED UPWARDS EQUILATERAL ARROWHEAD;1TOP-LIGHTED RIGHTWARDS EQUILATERAL ARROWHEAD
  2B9B 1LEFT-LIGHTED DOWNWARDS EQUILATERAL ARROWHEAD;0BLACK LEFTWARDS EQUILATERAL ARROWHEAD
  2B9D 1UPWARDS EQUILATERAL ARROWHEAD;1RIGHTWARDS EQUILATERAL ARROWHEAD
  2B9F 1DOWNWARDS EQUILATERAL ARROWHEAD;0DOWNWARDS TRIANGLE-HEADED ARROW WITH LONG TIP LEFTWARDS
  2BA1 6RIGHTWARDS;0UPWARDS TRIANGLE-HEADED ARROW WITH LONG TIP LEFTWARDS;6RIGHTWARDS
  2BA4 0LEFTWARDS TRIANGLE-HEADED ARROW WITH LONG TIP UPWARDS
  2BA5 0RIGHTWARDS TRIANGLE-HEADED ARROW WITH LONG TIP UPWARDS
  2BA6 0LEFTWARDS TRIANGLE-HEADED ARROW WITH LONG TIP DOWNWARDS
  2BA7 0RIGHTWARDS TRIANGLE-HEADED ARROW WITH LONG TIP DOWNWARDS
  2BA8 0BLACK CURVED DOWNWARDS AND LEFTWARDS ARROW;4RIGHTWARDS ARROW;2UPWARDS AND LEFTWARDS ARROW
  2BAB 4RIGHTWARDS ARROW;2LEFTWARDS AND UPWARDS ARROW;2RIGHTWARDS AND UPWARDS ARROW
  2BAE 2LEFTWARDS AND DOWNWARDS ARROW;2RIGHTWARDS AND DOWNWARDS ARROW;0RIBBON ARROW DOWN LEFT;3RIGHT
  2BB2 2UP LEFT;3RIGHT;2LEFT UP;2RIGHT UP;2LEFT DOWN;2RIGHT DOWN
  2BB8 0UPWARDS WHITE ARROW FROM BAR WITH HORIZONTAL BAR;0UP ARROWHEAD IN A RECTANGLE BOX
  2BBA 0OVERLAPPING WHITE SQUARES;2AND BLACK SQUARES;1BLACK SQUARES;0BALLOT BOX WITH LIGHT X
  2BBE 0CIRCLED X;1BOLD X;0BLACK SQUARE CENTRED;1DIAMOND CENTRED;0TURNED BLACK PENTAGON
  2BC3 0HORIZONTAL BLACK OCTAGON;0BLACK OCTAGON;1MEDIUM UP-POINTING TRIANGLE CENTRED
  2BC6 2DOWN-POINTING TRIANGLE CENTRED;2LEFT-POINTING TRIANGLE CENTRED
  2BC8 2RIGHT-POINTING TRIANGLE CENTRED;0NEPTUNE FORM TWO;0TOP HALF BLACK CIRCLE
  2BCB 0BOTTOM HALF BLACK CIRCLE;0LIGHT FOUR POINTED BLACK CUSP
  2BCD 0ROTATED LIGHT FOUR POINTED BLACK CUSP;0WHITE FOUR POINTED CUSP
  2BCF 0ROTATED WHITE FOUR POINTED CUSP;0SQUARE POSITION INDICATOR;0UNCERTAINTY SIGN;0GROUP MARK
  2BD3 0PLUTO FORM TWO;2THREE;2FOUR;2FIVE;0TRANSPLUTO;0PROSERPINA;0ASTRAEA;0HYGIEA;0PHOLUS;0NESSUS
  2BDD 0WHITE MOON SELENA;0BLACK DIAMOND ON CROSS;0TRUE LIGHT MOON ARTA;0CUPIDO;0HADES;0ZEUS;0KRONOS
  2BE4 0APOLLON;0ADMETOS;0VULCANUS;0POSEIDON;0LEFT HALF BLACK STAR;0RIGHT HALF BLACK STAR
  2BEA 0STAR WITH LEFT HALF BLACK;2RIGHT HALF BLACK
  2BEC 0LEFTWARDS TWO-HEADED ARROW WITH TRIANGLE ARROWHEADS
  2BED 0UPWARDS TWO-HEADED ARROW WITH TRIANGLE ARROWHEADS
  2BEE 0RIGHTWARDS TWO-HEADED ARROW WITH TRIANGLE ARROWHEADS
  2BEF 0DOWNWARDS TWO-HEADED ARROW WITH TRIANGLE ARROWHEADS;0ERIS FORM ONE;2TWO;0SEDNA
  2BF3 0RUSSIAN ASTROLOGICAL SYMBOL VIGINTILE;3NOVILE;3QUINTILE;3BINOVILE;3SENTAGON;3TREDECILE
  2BF9 0EQUALS SIGN WITH INFINITY BELOW;0UNITED SYMBOL;0SEPARATED SYMBOL;0DOUBLED SYMBOL
  2BFD 0PASSED SYMBOL;0REVERSED RIGHT ANGLE;0HELLSCHREIBER PAUSE SYMBOL
  2C00 0GLAGOLITIC CAPITAL LETTER AZU;3BUKY;3VEDE;3GLAGOLI;3DOBRO;3YESTU;3ZHIVETE;3DZELO;3ZEMLJA
  2C09 3IZHE;3INITIAL IZHE;3I;3DJERVI;3KAKO;3LJUDIJE;3MYSLITE;3NASHI;3ONU;3POKOJI;3RITSI;3SLOVO
  2C15 3TVRIDO;3UKU;3FRITU;3HERU;3OTU;3PE;3SHTA;3TSI;3CHRIVI;3SHA;3YERU;3YERI;3YATI;3SPIDERY HA;3YU
  2C24 3SMALL YUS;5WITH TAIL;3YO;3IOTATED SMALL YUS;3BIG YUS;3IOTATED BIG YUS;3FITA;3IZHITSA
  2C2C 3SHTAPIC;3TROKUTASTI A;3LATINATE MYSLITE;3CAUDATE CHRIVI;1SMALL LETTER AZU;3BUKY;3VEDE
  2C33 3GLAGOLI;3DOBRO;3YESTU;3ZHIVETE;3DZELO;3ZEMLJA;3IZHE;3INITIAL IZHE;3I;3DJERVI;3KAKO;3LJUDIJE
  2C3F 3MYSLITE;3NASHI;3ONU;3POKOJI;3RITSI;3SLOVO;3TVRIDO;3UKU;3FRITU;3HERU;3OTU;3PE;3SHTA;3TSI
  2C4D 3CHRIVI;3SHA;3YERU;3YERI;3YATI;3SPIDERY HA;3YU;3SMALL YUS;5WITH TAIL;3YO;3IOTATED SMALL YUS
  2C58 3BIG YUS;3IOTATED BIG YUS;3FITA;3IZHITSA;3SHTAPIC;3TROKUTASTI A;3LATINATE MYSLITE
  2C5F 3CAUDATE CHRIVI;0LATIN CAPITAL LETTER L WITH DOUBLE BAR;1SMALL LETTER L WITH DOUBLE BAR
  2C62 1CAPITAL LETTER L WITH MIDDLE TILDE;3P WITH STROKE;3R WITH TAIL;1SMALL LETTER A WITH STROKE
  2C66 3T WITH DIAGONAL STROKE;1CAPITAL LETTER H WITH DESCENDER;1SMALL LETTER H WITH DESCENDER
  2C69 1CAPITAL LETTER K WITH DESCENDER;1SMALL LETTER K WITH DESCENDER
  2C6B 1CAPITAL LETTER Z WITH DESCENDER;1SMALL LETTER Z WITH DESCENDER;1CAPITAL LETTER ALPHA
  2C6E 3M WITH HOOK;3TURNED A;4ALPHA;1SMALL LETTER V WITH RIGHT HOOK;1CAPITAL LETTER W WITH HOOK
  2C73 1SMALL LETTER W WITH HOOK;3V WITH CURL;1CAPITAL LETTER HALF H;1SMALL LETTER HALF H
  2C77 3TAILLESS PHI;3E WITH NOTCH;3TURNED R WITH TAIL;3O WITH LOW RING INSIDE
  2C7B 1LETTER SMALL CAPITAL TURNED E;1SUBSCRIPT SMALL LETTER J;0MODIFIER LETTER CAPITAL V
  2C7E 0LATIN CAPITAL LETTER S WITH SWASH TAIL;3Z WITH SWASH TAIL;0COPTIC CAPITAL LETTER ALFA
  2C81 1SMALL LETTER ALFA;1CAPITAL LETTER VIDA;1SMALL LETTER VIDA;1CAPITAL LETTER GAMMA
  2C85 1SMALL LETTER GAMMA;1CAPITAL LETTER DALDA;1SMALL LETTER DALDA;1CAPITAL LETTER EIE
  2C89 1SMALL LETTER EIE;1CAPITAL LETTER SOU;1SMALL LETTER SOU;1CAPITAL LETTER ZATA
  2C8D 1SMALL LETTER ZATA;1CAPITAL LETTER HATE;1SMALL LETTER HATE;1CAPITAL LETTER THETHE
  2C91 1SMALL LETTER THETHE;1CAPITAL LETTER IAUDA;1SMALL LETTER IAUDA;1CAPITAL LETTER KAPA
  2C95 1SMALL LETTER KAPA;1CAPITAL LETTER LAULA;1SMALL LETTER LAULA;1CAPITAL LETTER MI
  2C99 1SMALL LETTER MI;1CAPITAL LETTER NI;1SMALL LETTER NI;1CAPITAL LETTER KSI;1SMALL LETTER KSI
  2C9E 1CAPITAL LETTER O;1SMALL LETTER O;1CAPITAL LETTER PI;1SMALL LETTER PI;1CAPITAL LETTER RO
  2CA3 1SMALL LETTER RO;1CAPITAL LETTER SIMA;1SMALL LETTER SIMA;1CAPITAL LETTER TAU
  2CA7 1SMALL LETTER TAU;1CAPITAL LETTER UA;1SMALL LETTER UA;1CAPITAL LETTER FI;1SMALL LETTER FI
  2CAC 1CAPITAL LETTER KHI;1SMALL LETTER KHI;1CAPITAL LETTER PSI;1SMALL LETTER PSI
  2CB0 1CAPITAL LETTER OOU;1SMALL LETTER OOU;1CAPITAL LETTER DIALECT-P ALEF
  2CB3 1SMALL LETTER DIALECT-P ALEF;1CAPITAL LETTER OLD COPTIC AIN;1SMALL LETTER OLD COPTIC AIN
  2CB6 1CAPITAL LETTER CRYPTOGRAMMIC EIE;1SMALL LETTER CRYPTOGRAMMIC EIE
  2CB8 1CAPITAL LETTER DIALECT-P KAPA;1SMALL LETTER DIALECT-P KAPA;1CAPITAL LETTER DIALECT-P NI
  2CBB 1SMALL LETTER DIALECT-P NI;1CAPITAL LETTER CRYPTOGRAMMIC NI;1SMALL LETTER CRYPTOGRAMMIC NI
  2CBE 1CAPITAL LETTER OLD COPTIC OOU;1SMALL LETTER OLD COPTIC OOU;1CAPITAL LETTER SAMPI
  2CC1 1SMALL LETTER SAMPI;1CAPITAL LETTER CROSSED SHEI;1SMALL LETTER CROSSED SHEI
  2CC4 1CAPITAL LETTER OLD COPTIC SHEI;1SMALL LETTER OLD COPTIC SHEI;1CAPITAL LETTER OLD COPTIC ESH
  2CC7 1SMALL LETTER OLD COPTIC ESH;1CAPITAL LETTER AKHMIMIC KHEI;1SMALL LETTER AKHMIMIC KHEI
  2CCA 1CAPITAL LETTER DIALECT-P HORI;1SMALL LETTER DIALECT-P HORI;1CAPITAL LETTER OLD COPTIC HORI
  2CCD 1SMALL LETTER OLD COPTIC HORI;1CAPITAL LETTER OLD COPTIC HA;1SMALL LETTER OLD COPTIC HA
  2CD0 1CAPITAL LETTER L-SHAPED HA;1SMALL LETTER L-SHAPED HA;1CAPITAL LETTER OLD COPTIC HEI
  2CD3 1SMALL LETTER OLD COPTIC HEI;1CAPITAL LETTER OLD COPTIC HAT;1SMALL LETTER OLD COPTIC HAT
  2CD6 1CAPITAL LETTER OLD COPTIC GANGIA;1SMALL LETTER OLD COPTIC GANGIA
  2CD8 1CAPITAL LETTER OLD COPTIC DJA;1SMALL LETTER OLD COPTIC DJA;1CAPITAL LETTER OLD COPTIC SHIMA
  2CDB 1SMALL LETTER OLD COPTIC SHIMA;1CAPITAL LETTER OLD NUBIAN SHIMA
  2CDD 1SMALL LETTER OLD NUBIAN SHIMA;1CAPITAL LETTER OLD NUBIAN NGI;1SMALL LETTER OLD NUBIAN NGI
  2CE0 1CAPITAL LETTER OLD NUBIAN NYI;1SMALL LETTER OLD NUBIAN NYI;1CAPITAL LETTER OLD NUBIAN WAU
  2CE3 1SMALL LETTER OLD NUBIAN WAU;1SYMBOL KAI;2MI RO;2PI RO;2STAUROS;2TAU RO;2KHI RO;2SHIMA SIMA
  2CEB 1CAPITAL LETTER CRYPTOGRAMMIC SHEI;1SMALL LETTER CRYPTOGRAMMIC SHEI
  2CED 1CAPITAL LETTER CRYPTOGRAMMIC GANGIA;1SMALL LETTER CRYPTOGRAMMIC GANGIA;1COMBINING NI ABOVE
  2CF0 2SPIRITUS ASPER;3LENIS;1CAPITAL LETTER BOHAIRIC KHEI;1SMALL LETTER BOHAIRIC KHEI
  2CF9 1OLD NUBIAN FULL STOP;3DIRECT QUESTION MARK;3INDIRECT QUESTION MARK;3VERSE DIVIDER
  2CFD 1FRACTION ONE HALF;1FULL STOP;1MORPHOLOGICAL DIVIDER;0GEORGIAN SMALL LETTER AN;3BAN;3GAN;3DON
  2D04 3EN;3VIN;3ZEN;3TAN;3IN;3KAN;3LAS;3MAN;3NAR;3ON;3PAR;3ZHAR;3RAE;3SAN;3TAR;3UN;3PHAR;3KHAR
  2D16 3GHAN;3QAR;3SHIN;3CHIN;3CAN;3JIL;3CIL;3CHAR;3XAN;3JHAN;3HAE;3HE;3HIE;3WE;3HAR;3HOE
  2D27 3YN
  2D2D 3AEN
  2D30 0TIFINAGH LETTER YA;2YAB;2YABH;2YAG;2YAGHH;2BERBER ACADEMY YAJ;2YAJ;2YAD;2YADH;2YADD;2YADDH
  2D3B 2YEY;2YAF;2YAK;2TUAREG YAK;2YAKHH;2YAH;2BERBER ACADEMY YAH;2TUAREG YAH;2YAHH;2YAA;2YAKH
  2D46 2TUAREG YAKH;2YAQ;2TUAREG YAQ;2YI;2YAZH;2AHAGGAR YAZH;2TUAREG YAZH;2YAL;2YAM;2YAN
  2D50 2TUAREG YAGN;3YANG;2YAP;2YU;2YAR;2YARR;2YAGH;2TUAREG YAGH;2AYER YAGH;2YAS;2YASS;2YASH;2YAT
  2D5D 2YATH;2YACH;2YATT;2YAV;2YAW;2YAY;2YAZ;2TAWELLEMET YAZ;2YAZZ;2YE;2YO
  2D6F 1MODIFIER LETTER LABIALIZATION MARK;1SEPARATOR MARK
  2D7F 1CONSONANT JOINER;0ETHIOPIC SYLLABLE LOA;2MOA;2ROA;2SOA;2SHOA;2BOA;2TOA;2COA;2NOA;2NYOA
  2D8A 2GLOTTAL OA;2ZOA;2DOA;2DDOA;2JOA;2THOA;2CHOA;2PHOA;2POA;2GGWA;2GGWI;2GGWEE;2GGWE
  2DA0 2SSA;2SSU;2SSI;2SSAA;2SSEE;2SSE;2SSO
  2DA8 2CCA;2CCU;2CCI;2CCAA;2CCEE;2CCE;2CCO
  2DB0 2ZZA;2ZZU;2ZZI;2ZZAA;2ZZEE;2ZZE;2ZZO
  2DB8 2CCHA;2CCHU;2CCHI;2CCHAA;2CCHEE;2CCHE;2CCHO
  2DC0 2QYA;2QYU;2QYI;2QYAA;2QYEE;2QYE;2QYO
  2DC8 2KYA;2KYU;2KYI;2KYAA;2KYEE;2KYE;2KYO
  2DD0 2XYA;2XYU;2XYI;2XYAA;2XYEE;2XYE;2XYO
  2DD8 2GYA;2GYU;2GYI;2GYAA;2GYEE;2GYE;2GYO
  2DE0 0COMBINING CYRILLIC LETTER BE;3VE;3GHE;3DE;3ZHE;3ZE;3KA;3EL;3EM;3EN;3O;3PE;3ER;3ES;3TE;3HA
  2DF0 3TSE;3CHE;3SHA;3SHCHA;3FITA;3ES-TE;3A;3IE;3DJERV;3MONOGRAPH UK;3YAT;3YU;3IOTIFIED A
  2DFD 3LITTLE YUS;3BIG YUS;3IOTIFIED BIG YUS;0RIGHT ANGLE SUBSTITUTION MARKER
  2E01 2DOTTED SUBSTITUTION MARKER;0LEFT SUBSTITUTION BRACKET;0RIGHT SUBSTITUTION BRACKET
  2E04 0LEFT DOTTED SUBSTITUTION BRACKET;0RIGHT DOTTED SUBSTITUTION BRACKET
  2E06 0RAISED INTERPOLATION MARKER;1DOTTED INTERPOLATION MARKER;0DOTTED TRANSPOSITION MARKER
  2E09 0LEFT TRANSPOSITION BRACKET;0RIGHT TRANSPOSITION BRACKET;0RAISED SQUARE
  2E0C 0LEFT RAISED OMISSION BRACKET;0RIGHT RAISED OMISSION BRACKET;0EDITORIAL CORONIS;0PARAGRAPHOS
  2E10 0FORKED PARAGRAPHOS;0REVERSED FORKED PARAGRAPHOS;0HYPODIASTOLE;0DOTTED OBELOS
  2E14 0DOWNWARDS ANCORA;0UPWARDS ANCORA;0DOTTED RIGHT-POINTING ANGLE;0DOUBLE OBLIQUE HYPHEN
  2E18 0INVERTED INTERROBANG;0PALM BRANCH;0HYPHEN WITH DIAERESIS;0TILDE WITH RING ABOVE
  2E1C 0LEFT LOW PARAPHRASE BRACKET;0RIGHT LOW PARAPHRASE BRACKET;0TILDE WITH DOT ABOVE;3BELOW
  2E20 0LEFT VERTICAL BAR WITH QUILL;0RIGHT VERTICAL BAR WITH QUILL;0TOP LEFT HALF BRACKET
  2E23 1RIGHT HALF BRACKET;0BOTTOM LEFT HALF BRACKET;1RIGHT HALF BRACKET;0LEFT SIDEWAYS U BRACKET
  2E27 0RIGHT SIDEWAYS U BRACKET;0LEFT DOUBLE PARENTHESIS;0RIGHT DOUBLE PARENTHESIS
  2E2A 0TWO DOTS OVER ONE DOT PUNCTUATION;0ONE DOT OVER TWO DOTS PUNCTUATION
  2E2C 0SQUARED FOUR DOT PUNCTUATION;0FIVE DOT MARK;0REVERSED QUESTION MARK;0VERTICAL TILDE
  2E30 0RING POINT;0WORD SEPARATOR MIDDLE DOT;0TURNED COMMA;0RAISED DOT;1COMMA;0TURNED SEMICOLON
  2E36 0DAGGER WITH LEFT GUARD;2RIGHT GUARD;0TURNED DAGGER;0TOP HALF SECTION SIGN;0TWO-EM DASH
  2E3B 0THREE-EM DASH;0STENOGRAPHIC FULL STOP;0VERTICAL SIX DOTS;0WIGGLY VERTICAL LINE;0CAPITULUM
  2E40 0DOUBLE HYPHEN;0REVERSED COMMA;0DOUBLE LOW-REVERSED-9 QUOTATION MARK;0DASH WITH LEFT UPTURN
  2E44 0DOUBLE SUSPENSION MARK;0INVERTED LOW KAVYKA;3WITH KAVYKA ABOVE;0LOW KAVYKA;2WITH DOT
  2E49 0DOUBLE STACKED COMMA;0DOTTED SOLIDUS;0TRIPLE DAGGER;0MEDIEVAL COMMA;0PARAGRAPHUS MARK
  2E4E 0PUNCTUS ELEVATUS MARK;0CORNISH VERSE DIVIDER;0CROSS PATTY WITH RIGHT CROSSBAR;3LEFT CROSSBAR
  2E52 0TIRONIAN SIGN CAPITAL ET;0MEDIEVAL EXCLAMATION MARK;1QUESTION MARK
  2E55 0LEFT SQUARE BRACKET WITH STROKE;0RIGHT SQUARE BRACKET WITH STROKE
  2E57 0LEFT SQUARE BRACKET WITH DOUBLE STROKE;0RIGHT SQUARE BRACKET WITH DOUBLE STROKE
  2E59 0TOP HALF LEFT PARENTHESIS;2RIGHT PARENTHESIS;0BOTTOM HALF LEFT PARENTHESIS
  2E5C 2RIGHT PARENTHESIS;0OBLIQUE HYPHEN
  2E80 0CJK RADICAL REPEAT;2CLIFF;2SECOND ONE;3TWO;3THREE;2PERSON;2BOX;2TABLE;2KNIFE ONE;3TWO
  2E8A 2DIVINATION;2SEAL;2SMALL ONE;3TWO;2LAME ONE;3TWO;3THREE;3FOUR;2SNAKE;2THREAD;2SNOUT ONE;3TWO
  2E96 2HEART ONE;3TWO;2HAND;2RAP
  2E9B 2CHOKE;2SUN;2MOON;2DEATH;2MOTHER;2CIVILIAN;2WATER ONE;3TWO;2FIRE;2PAW ONE;3TWO
  2EA6 2SIMPLIFIED HALF TREE TRUNK;2COW;2DOG;2JADE;2BOLT OF CLOTH;2EYE;2SPIRIT ONE;3TWO;2BAMBOO
  2EAF 2SILK;2C-SIMPLIFIED SILK;2NET ONE;3TWO;3THREE;3FOUR;2MESH;2SHEEP;2RAM;2EWE;2OLD;2BRUSH ONE
  2EBB 3TWO;2MEAT;2MORTAR;2GRASS ONE;3TWO;3THREE;2TIGER;2CLOTHES;2WEST ONE;3TWO;2C-SIMPLIFIED SEE
  2EC6 2SIMPLIFIED HORN;2HORN;2C-SIMPLIFIED SPEECH;3SHELL;2FOOT;2C-SIMPLIFIED CART;2SIMPLIFIED WALK
  2ECD 2WALK ONE;3TWO;2CITY;2C-SIMPLIFIED GOLD;2LONG ONE;3TWO;2C-SIMPLIFIED LONG;3GATE;2MOUND ONE
  2ED6 3TWO;2RAIN;2BLUE;2C-SIMPLIFIED TANNED LEATHER;3LEAF;3WIND;3FLY;2EAT ONE;3TWO;3THREE
  2EE0 2C-SIMPLIFIED EAT;2HEAD;2C-SIMPLIFIED HORSE;2BONE;2GHOST;2C-SIMPLIFIED FISH;3BIRD;3SALT
  2EE8 2SIMPLIFIED WHEAT;3YELLOW;2C-SIMPLIFIED FROG;2J-SIMPLIFIED EVEN;2C-SIMPLIFIED EVEN
  2EED 2J-SIMPLIFIED TOOTH;2C-SIMPLIFIED TOOTH;2J-SIMPLIFIED DRAGON;2C-SIMPLIFIED DRAGON;2TURTLE
  2EF2 2J-SIMPLIFIED TURTLE;2C-SIMPLIFIED TURTLE
  2F00 0KANGXI RADICAL ONE;2LINE;2DOT;2SLASH;2SECOND;2HOOK;2TWO;2LID;2MAN;2LEGS;2ENTER;2EIGHT
  2F0C 2DOWN BOX;2COVER;2ICE;2TABLE;2OPEN BOX;2KNIFE;2POWER;2WRAP;2SPOON;2RIGHT OPEN BOX
  2F16 2HIDING ENCLOSURE;2TEN;2DIVINATION;2SEAL;2CLIFF;2PRIVATE;2AGAIN;2MOUTH;2ENCLOSURE;2EARTH
  2F20 2SCHOLAR;2GO;3SLOWLY;2EVENING;2BIG;2WOMAN;2CHILD;2ROOF;2INCH;2SMALL;2LAME;2CORPSE;2SPROUT
  2F2D 2MOUNTAIN;2RIVER;2WORK;2ONESELF;2TURBAN;2DRY;2SHORT THREAD;2DOTTED CLIFF;2LONG STRIDE
  2F36 2TWO HANDS;2SHOOT;2BOW;2SNOUT;2BRISTLE;2STEP;2HEART;2HALBERD;2DOOR;2HAND;2BRANCH;2RAP;2SCRIPT
  2F43 2DIPPER;2AXE;2SQUARE;2NOT;2SUN;2SAY;2MOON;2TREE;2LACK;2STOP;2DEATH;2WEAPON;2DO NOT;2COMPARE
  2F51 2FUR;2CLAN;2STEAM;2WATER;2FIRE;2CLAW;2FATHER;2DOUBLE X;2HALF TREE TRUNK;2SLICE;2FANG;2COW
  2F5D 2DOG;2PROFOUND;2JADE;2MELON;2TILE;2SWEET;2LIFE;2USE;2FIELD;2BOLT OF CLOTH;2SICKNESS
  2F68 2DOTTED TENT;2WHITE;2SKIN;2DISH;2EYE;2SPEAR;2ARROW;2STONE;2SPIRIT;2TRACK;2GRAIN;2CAVE;2STAND
  2F75 2BAMBOO;2RICE;2SILK;2JAR;2NET;2SHEEP;2FEATHER;2OLD;2AND;2PLOW;2EAR;2BRUSH;2MEAT;2MINISTER
  2F83 2SELF;2ARRIVE;2MORTAR;2TONGUE;2OPPOSE;2BOAT;2STOPPING;2COLOR;2GRASS;2TIGER;2INSECT;2BLOOD
  2F8F 2WALK ENCLOSURE;2CLOTHES;2WEST;2SEE;2HORN;2SPEECH;2VALLEY;2BEAN;2PIG;2BADGER;2SHELL;2RED;2RUN
  2F9C 2FOOT;2BODY;2CART;2BITTER;2MORNING;2WALK;2CITY;2WINE;2DISTINGUISH;2VILLAGE;2GOLD;2LONG;2GATE
  2FA9 2MOUND;2SLAVE;2SHORT TAILED BIRD;2RAIN;2BLUE;2WRONG;2FACE;2LEATHER;2TANNED LEATHER;2LEEK
  2FB3 2SOUND;2LEAF;2WIND;2FLY;2EAT;2HEAD;2FRAGRANT;2HORSE;2BONE;2TALL;2HAIR;2FIGHT
  2FBF 2SACRIFICIAL WINE;2CAULDRON;2GHOST;2FISH;2BIRD;2SALT;2DEER;2WHEAT;2HEMP;2YELLOW;2MILLET
  2FCA 2BLACK;2EMBROIDERY;2FROG;2TRIPOD;2DRUM;2RAT;2NOSE;2EVEN;2TOOTH;2DRAGON;2TURTLE;2FLUTE
  2FF0 0IDEOGRAPHIC DESCRIPTION CHARACTER LEFT TO RIGHT;3ABOVE TO BELOW;3LEFT TO MIDDLE AND RIGHT
  2FF3 3ABOVE TO MIDDLE AND BELOW;3FULL SURROUND;3SURROUND FROM ABOVE;5BELOW;5LEFT;5UPPER LEFT
  2FF9 6RIGHT;5LOWER LEFT;3OVERLAID
"

end LiteralScrub.CharacterName
