/-!
# Names of symbols

The names of punctuation, currency signs, arrows, operators, shapes and other symbols, in rows as the look-up reads
them.
-/

namespace SchemaLint

namespace CharacterName

/-- Punctuation, currency signs and signs made from letters. -/
def punctuation : String := "
2000 |EN QUAD,EM QUAD,EN SPACE,EM SPACE
2004 |THREE-PER-EM SPACE,FOUR-PER-EM SPACE,SIX-PER-EM SPACE,FIGURE SPACE,PUNCTUATION SPACE,THIN SPACE,HAIR SPACE
200B ZERO WIDTH |SPACE,NON-JOINER,JOINER
200E |LEFT-TO-RIGHT MARK,RIGHT-TO-LEFT MARK,HYPHEN,NON-BREAKING HYPHEN,FIGURE DASH,EN DASH,EM DASH,HORIZONTAL BAR
2016 DOUBLE |VERTICAL LINE,LOW LINE
2018 |LEFT SINGLE QUOTATION MARK,RIGHT SINGLE QUOTATION MARK,SINGLE LOW-9 QUOTATION MARK
201B |SINGLE HIGH-REVERSED-9 QUOTATION MARK,LEFT DOUBLE QUOTATION MARK,RIGHT DOUBLE QUOTATION MARK
201E DOUBLE |LOW-9 QUOTATION MARK,HIGH-REVERSED-9 QUOTATION MARK
2020 |DAGGER,DOUBLE DAGGER,BULLET,TRIANGULAR BULLET,ONE DOT LEADER,TWO DOT LEADER
2026 |HORIZONTAL ELLIPSIS,HYPHENATION POINT,LINE SEPARATOR,PARAGRAPH SEPARATOR,LEFT-TO-RIGHT EMBEDDING
202B |RIGHT-TO-LEFT EMBEDDING,POP DIRECTIONAL FORMATTING,LEFT-TO-RIGHT OVERRIDE,RIGHT-TO-LEFT OVERRIDE
202F |NARROW NO-BREAK SPACE,PER MILLE SIGN,PER TEN THOUSAND SIGN,PRIME,DOUBLE PRIME,TRIPLE PRIME
2035 REVERSED |PRIME,DOUBLE PRIME,TRIPLE PRIME
2038 |CARET,SINGLE LEFT-POINTING ANGLE QUOTATION MARK
203A |SINGLE RIGHT-POINTING ANGLE QUOTATION MARK,REFERENCE MARK,DOUBLE EXCLAMATION MARK
203D |INTERROBANG,OVERLINE,UNDERTIE,CHARACTER TIE,CARET INSERTION POINT,ASTERISM,HYPHEN BULLET,FRACTION SLASH
2045 |LEFT SQUARE BRACKET WITH QUILL,RIGHT SQUARE BRACKET WITH QUILL,DOUBLE QUESTION MARK,QUESTION EXCLAMATION MARK
2049 |EXCLAMATION QUESTION MARK,TIRONIAN SIGN ET,REVERSED PILCROW SIGN,BLACK LEFTWARDS BULLET
204D |BLACK RIGHTWARDS BULLET,LOW ASTERISK,REVERSED SEMICOLON,CLOSE UP,TWO ASTERISKS ALIGNED VERTICALLY
2052 |COMMERCIAL MINUS SIGN,SWUNG DASH,INVERTED UNDERTIE,FLOWER PUNCTUATION MARK,THREE DOT PUNCTUATION
2057 |QUADRUPLE PRIME,FOUR DOT PUNCTUATION,FIVE DOT PUNCTUATION,TWO DOT PUNCTUATION,FOUR DOT MARK
205C |DOTTED CROSS,TRICOLON,VERTICAL FOUR DOTS,MEDIUM MATHEMATICAL SPACE,WORD JOINER,FUNCTION APPLICATION
2062 INVISIBLE |TIMES,SEPARATOR,PLUS
2066 |LEFT-TO-RIGHT ISOLATE,RIGHT-TO-LEFT ISOLATE
2068 |FIRST STRONG ISOLATE,POP DIRECTIONAL ISOLATE,INHIBIT SYMMETRIC SWAPPING,ACTIVATE SYMMETRIC SWAPPING
206C |INHIBIT ARABIC FORM SHAPING,ACTIVATE ARABIC FORM SHAPING,NATIONAL DIGIT SHAPES,NOMINAL DIGIT SHAPES
2070 SUPERSCRIPT |ZERO,LATIN SMALL LETTER I
2074 SUPERSCRIPT |FOUR,FIVE,SIX,SEVEN
2078 SUPERSCRIPT |EIGHT,NINE,PLUS SIGN,MINUS,EQUALS SIGN,LEFT PARENTHESIS,RIGHT PARENTHESIS,LATIN SMALL LETTER N
2080 SUBSCRIPT |ZERO,ONE,TWO
2083 SUBSCRIPT |THREE,FOUR,FIVE,SIX,SEVEN,EIGHT,NINE,PLUS SIGN,MINUS,EQUALS SIGN,LEFT PARENTHESIS,RIGHT PARENTHESIS
2090 LATIN SUBSCRIPT SMALL LETTER |A,E,O,X,SCHWA,H,K,L,M,N,P,S,T
20A0 |EURO-CURRENCY SIGN,COLON SIGN,CRUZEIRO SIGN,FRENCH FRANC SIGN,LIRA SIGN,MILL SIGN,NAIRA SIGN,PESETA SIGN
20A8 |RUPEE SIGN,WON SIGN,NEW SHEQEL SIGN,DONG SIGN,EURO SIGN,KIP SIGN,TUGRIK SIGN,DRACHMA SIGN,GERMAN PENNY SIGN
20B1 |PESO SIGN,GUARANI SIGN,AUSTRAL SIGN,HRYVNIA SIGN,CEDI SIGN,LIVRE TOURNOIS SIGN,SPESMILO SIGN,TENGE SIGN
20B9 |INDIAN RUPEE SIGN,TURKISH LIRA SIGN,NORDIC MARK SIGN,MANAT SIGN,RUBLE SIGN,LARI SIGN,BITCOIN SIGN,SOM SIGN
20D0 COMBINING |LEFT HARPOON ABOVE,RIGHT HARPOON ABOVE,LONG VERTICAL LINE OVERLAY,SHORT VERTICAL LINE OVERLAY
20D4 COMBINING |ANTICLOCKWISE ARROW ABOVE,CLOCKWISE ARROW ABOVE,LEFT ARROW ABOVE,RIGHT ARROW ABOVE
20D8 COMBINING |RING OVERLAY,CLOCKWISE RING OVERLAY,ANTICLOCKWISE RING OVERLAY,THREE DOTS ABOVE,FOUR DOTS ABOVE
20DD COMBINING ENCLOSING |CIRCLE,SQUARE,DIAMOND,CIRCLE BACKSLASH
20E1 COMBINING LEFT RIGHT ARROW |ABOVE
20E2 COMBINING ENCLOSING |SCREEN,KEYCAP,UPWARD POINTING TRIANGLE
20E5 COMBINING REVERSE SOLIDUS |OVERLAY
20E6 COMBINING |DOUBLE VERTICAL STROKE OVERLAY,ANNUITY SYMBOL,TRIPLE UNDERDOT,WIDE BRIDGE ABOVE
20EA COMBINING |LEFTWARDS ARROW OVERLAY,LONG DOUBLE SOLIDUS OVERLAY,RIGHTWARDS HARPOON WITH BARB DOWNWARDS
20ED COMBINING |LEFTWARDS HARPOON WITH BARB DOWNWARDS,LEFT ARROW BELOW,RIGHT ARROW BELOW,ASTERISK ABOVE
2100 |ACCOUNT OF,ADDRESSED TO THE SUBJECT,DOUBLE-STRUCK CAPITAL C,DEGREE CELSIUS,CENTRE LINE SYMBOL,CARE OF
2106 |CADA UNA,EULER CONSTANT,SCRUPLE,DEGREE FAHRENHEIT,SCRIPT SMALL G,SCRIPT CAPITAL H,BLACK-LETTER CAPITAL H
210D |DOUBLE-STRUCK CAPITAL H,PLANCK CONSTANT,PLANCK CONSTANT OVER TWO PI,SCRIPT CAPITAL I,BLACK-LETTER CAPITAL I
2112 SCRIPT |CAPITAL L,SMALL L
2114 |L B BAR SYMBOL,DOUBLE-STRUCK CAPITAL N,NUMERO SIGN,SOUND RECORDING COPYRIGHT,SCRIPT CAPITAL P
2119 DOUBLE-STRUCK CAPITAL |P,Q
211B |SCRIPT CAPITAL R,BLACK-LETTER CAPITAL R,DOUBLE-STRUCK CAPITAL R
211E |PRESCRIPTION TAKE,RESPONSE,SERVICE MARK,TELEPHONE SIGN,TRADE MARK SIGN,VERSICLE,DOUBLE-STRUCK CAPITAL Z
2125 |OUNCE SIGN,OHM SIGN,INVERTED OHM SIGN,BLACK-LETTER CAPITAL Z,TURNED GREEK SMALL LETTER IOTA
212A |KELVIN SIGN,ANGSTROM SIGN,SCRIPT CAPITAL B,BLACK-LETTER CAPITAL C,ESTIMATED SYMBOL,SCRIPT SMALL E
2130 SCRIPT CAPITAL |E,F
2132 |TURNED CAPITAL F,SCRIPT CAPITAL M,SCRIPT SMALL O
2135 |ALEF SYMBOL,BET SYMBOL,GIMEL SYMBOL,DALET SYMBOL,INFORMATION SOURCE,ROTATED CAPITAL Q,FACSIMILE SIGN
213C DOUBLE-STRUCK |SMALL PI,SMALL GAMMA,CAPITAL GAMMA,CAPITAL PI,N-ARY SUMMATION
2141 TURNED SANS-SERIF CAPITAL |G,L
2143 |REVERSED SANS-SERIF CAPITAL L,TURNED SANS-SERIF CAPITAL Y
2145 DOUBLE-STRUCK ITALIC |CAPITAL D,SMALL D,SMALL E,SMALL I,SMALL J
214A |PROPERTY LINE,TURNED AMPERSAND,PER SIGN,AKTIESELSKAB,TURNED SMALL F,SYMBOL FOR SAMARITAN SOURCE
2150 VULGAR FRACTION |ONE SEVENTH,ONE NINTH,ONE TENTH,ONE THIRD,TWO THIRDS,ONE FIFTH,TWO FIFTHS,THREE FIFTHS
2158 VULGAR FRACTION |FOUR FIFTHS,ONE SIXTH,FIVE SIXTHS,ONE EIGHTH,THREE EIGHTHS,FIVE EIGHTHS,SEVEN EIGHTHS
215F FRACTION NUMERATOR |ONE
2160 ROMAN NUMERAL |ONE,TWO,THREE
2163 ROMAN NUMERAL |FOUR,FIVE,SIX,SEVEN,EIGHT,NINE,TEN,ELEVEN,TWELVE,FIFTY,ONE HUNDRED,FIVE HUNDRED,ONE THOUSAND
2170 SMALL ROMAN NUMERAL |ONE,TWO,THREE,FOUR
2174 SMALL ROMAN NUMERAL |FIVE,SIX,SEVEN,EIGHT,NINE,TEN,ELEVEN,TWELVE,FIFTY,ONE HUNDRED,FIVE HUNDRED,ONE THOUSAND
2180 ROMAN NUMERAL |ONE THOUSAND C D,FIVE THOUSAND,TEN THOUSAND,REVERSED ONE HUNDRED
2184 LATIN SMALL LETTER REVERSED |C
2185 ROMAN NUMERAL |SIX LATE FORM,FIFTY EARLY FORM,FIFTY THOUSAND,ONE HUNDRED THOUSAND
2189 VULGAR FRACTION ZERO |THIRDS
218A TURNED DIGIT |TWO,THREE
2E00 RIGHT ANGLE |SUBSTITUTION MARKER,DOTTED SUBSTITUTION MARKER
2E02 |LEFT SUBSTITUTION BRACKET,RIGHT SUBSTITUTION BRACKET,LEFT DOTTED SUBSTITUTION BRACKET
2E05 |RIGHT DOTTED SUBSTITUTION BRACKET,RAISED INTERPOLATION MARKER,RAISED DOTTED INTERPOLATION MARKER
2E08 |DOTTED TRANSPOSITION MARKER,LEFT TRANSPOSITION BRACKET,RIGHT TRANSPOSITION BRACKET
2E0B |RAISED SQUARE,LEFT RAISED OMISSION BRACKET,RIGHT RAISED OMISSION BRACKET,EDITORIAL CORONIS
2E0F |PARAGRAPHOS,FORKED PARAGRAPHOS,REVERSED FORKED PARAGRAPHOS,HYPODIASTOLE,DOTTED OBELOS,DOWNWARDS ANCORA
2E15 |UPWARDS ANCORA,DOTTED RIGHT-POINTING ANGLE,DOUBLE OBLIQUE HYPHEN,INVERTED INTERROBANG,PALM BRANCH
2E1A |HYPHEN WITH DIAERESIS,TILDE WITH RING ABOVE,LEFT LOW PARAPHRASE BRACKET,RIGHT LOW PARAPHRASE BRACKET
2E1E TILDE WITH DOT |ABOVE,BELOW
2E20 |LEFT VERTICAL BAR WITH QUILL,RIGHT VERTICAL BAR WITH QUILL,TOP LEFT HALF BRACKET,TOP RIGHT HALF BRACKET
2E24 BOTTOM |LEFT HALF BRACKET,RIGHT HALF BRACKET
2E26 |LEFT SIDEWAYS U BRACKET,RIGHT SIDEWAYS U BRACKET,LEFT DOUBLE PARENTHESIS,RIGHT DOUBLE PARENTHESIS
2E2A |TWO DOTS OVER ONE DOT PUNCTUATION,ONE DOT OVER TWO DOTS PUNCTUATION,SQUARED FOUR DOT PUNCTUATION
2E2D |FIVE DOT MARK,REVERSED QUESTION MARK,VERTICAL TILDE,RING POINT,WORD SEPARATOR MIDDLE DOT,TURNED COMMA
2E33 RAISED |DOT,COMMA
2E35 |TURNED SEMICOLON,DAGGER WITH LEFT GUARD,DAGGER WITH RIGHT GUARD,TURNED DAGGER,TOP HALF SECTION SIGN
2E3A |TWO-EM DASH,THREE-EM DASH,STENOGRAPHIC FULL STOP,VERTICAL SIX DOTS,WIGGLY VERTICAL LINE,CAPITULUM
2E40 |DOUBLE HYPHEN,REVERSED COMMA,DOUBLE LOW-REVERSED-9 QUOTATION MARK,DASH WITH LEFT UPTURN,DOUBLE SUSPENSION MARK
2E45 INVERTED LOW |KAVYKA,KAVYKA WITH KAVYKA ABOVE
2E47 |LOW KAVYKA,LOW KAVYKA WITH DOT,DOUBLE STACKED COMMA
2E4A |DOTTED SOLIDUS,TRIPLE DAGGER,MEDIEVAL COMMA,PARAGRAPHUS MARK,PUNCTUS ELEVATUS MARK,CORNISH VERSE DIVIDER
2E50 CROSS PATTY WITH |RIGHT CROSSBAR,LEFT CROSSBAR
2E52 TIRONIAN SIGN CAPITAL |ET
2E53 MEDIEVAL |EXCLAMATION MARK,QUESTION MARK
2E55 |LEFT SQUARE BRACKET WITH STROKE,RIGHT SQUARE BRACKET WITH STROKE
2E57 |LEFT SQUARE BRACKET WITH DOUBLE STROKE,RIGHT SQUARE BRACKET WITH DOUBLE STROKE
2E59 TOP HALF |LEFT PARENTHESIS,RIGHT PARENTHESIS
2E5B BOTTOM HALF |LEFT PARENTHESIS,RIGHT PARENTHESIS
2E5D OBLIQUE |HYPHEN"

def operators : String := "
2190 |LEFTWARDS ARROW,UPWARDS ARROW,RIGHTWARDS ARROW,DOWNWARDS ARROW,LEFT RIGHT ARROW,UP DOWN ARROW
2196 NORTH |WEST ARROW,EAST ARROW
2198 SOUTH |EAST ARROW,WEST ARROW
219A |LEFTWARDS ARROW WITH STROKE,RIGHTWARDS ARROW WITH STROKE,LEFTWARDS WAVE ARROW
219D |RIGHTWARDS WAVE ARROW,LEFTWARDS TWO HEADED ARROW,UPWARDS TWO HEADED ARROW,RIGHTWARDS TWO HEADED ARROW
21A1 |DOWNWARDS TWO HEADED ARROW,LEFTWARDS ARROW WITH TAIL,RIGHTWARDS ARROW WITH TAIL,LEFTWARDS ARROW FROM BAR
21A5 |UPWARDS ARROW FROM BAR,RIGHTWARDS ARROW FROM BAR,DOWNWARDS ARROW FROM BAR,UP DOWN ARROW WITH BASE
21A9 |LEFTWARDS ARROW WITH HOOK,RIGHTWARDS ARROW WITH HOOK,LEFTWARDS ARROW WITH LOOP,RIGHTWARDS ARROW WITH LOOP
21AD LEFT RIGHT |WAVE ARROW,ARROW WITH STROKE
21AF DOWNWARDS ZIGZAG |ARROW
21B0 UPWARDS ARROW WITH TIP |LEFTWARDS,RIGHTWARDS
21B2 DOWNWARDS ARROW WITH TIP |LEFTWARDS,RIGHTWARDS
21B4 RIGHTWARDS ARROW WITH CORNER |DOWNWARDS
21B5 |DOWNWARDS ARROW WITH CORNER LEFTWARDS,ANTICLOCKWISE TOP SEMICIRCLE ARROW,CLOCKWISE TOP SEMICIRCLE ARROW
21B8 |NORTH WEST ARROW TO LONG BAR,LEFTWARDS ARROW TO BAR OVER RIGHTWARDS ARROW TO BAR
21BA |ANTICLOCKWISE OPEN CIRCLE ARROW,CLOCKWISE OPEN CIRCLE ARROW
21BC LEFTWARDS HARPOON WITH BARB |UPWARDS,DOWNWARDS
21BE UPWARDS HARPOON WITH BARB |RIGHTWARDS,LEFTWARDS
21C0 RIGHTWARDS HARPOON WITH BARB |UPWARDS,DOWNWARDS
21C2 DOWNWARDS HARPOON WITH BARB |RIGHTWARDS,LEFTWARDS
21C4 |RIGHTWARDS ARROW OVER LEFTWARDS ARROW,UPWARDS ARROW LEFTWARDS OF DOWNWARDS ARROW
21C6 LEFTWARDS |ARROW OVER RIGHTWARDS ARROW,PAIRED ARROWS
21C8 |UPWARDS PAIRED ARROWS,RIGHTWARDS PAIRED ARROWS
21CA |DOWNWARDS PAIRED ARROWS,LEFTWARDS HARPOON OVER RIGHTWARDS HARPOON,RIGHTWARDS HARPOON OVER LEFTWARDS HARPOON
21CD |LEFTWARDS DOUBLE ARROW WITH STROKE,LEFT RIGHT DOUBLE ARROW WITH STROKE,RIGHTWARDS DOUBLE ARROW WITH STROKE
21D0 |LEFTWARDS DOUBLE ARROW,UPWARDS DOUBLE ARROW,RIGHTWARDS DOUBLE ARROW,DOWNWARDS DOUBLE ARROW
21D4 |LEFT RIGHT DOUBLE ARROW,UP DOWN DOUBLE ARROW,NORTH WEST DOUBLE ARROW,NORTH EAST DOUBLE ARROW
21D8 SOUTH |EAST DOUBLE ARROW,WEST DOUBLE ARROW
21DA |LEFTWARDS TRIPLE ARROW,RIGHTWARDS TRIPLE ARROW,LEFTWARDS SQUIGGLE ARROW,RIGHTWARDS SQUIGGLE ARROW
21DE |UPWARDS ARROW WITH DOUBLE STROKE,DOWNWARDS ARROW WITH DOUBLE STROKE,LEFTWARDS DASHED ARROW
21E1 |UPWARDS DASHED ARROW,RIGHTWARDS DASHED ARROW,DOWNWARDS DASHED ARROW,LEFTWARDS ARROW TO BAR
21E5 |RIGHTWARDS ARROW TO BAR,LEFTWARDS WHITE ARROW,UPWARDS WHITE ARROW,RIGHTWARDS WHITE ARROW,DOWNWARDS WHITE ARROW
21EA UPWARDS WHITE ARROW |FROM BAR,ON PEDESTAL,ON PEDESTAL WITH HORIZONTAL BAR,ON PEDESTAL WITH VERTICAL BAR
21EE UPWARDS WHITE DOUBLE |ARROW,ARROW ON PEDESTAL
21F0 |RIGHTWARDS WHITE ARROW FROM WALL,NORTH WEST ARROW TO CORNER,SOUTH EAST ARROW TO CORNER
21F3 |UP DOWN WHITE ARROW,RIGHT ARROW WITH SMALL CIRCLE,DOWNWARDS ARROW LEFTWARDS OF UPWARDS ARROW
21F6 |THREE RIGHTWARDS ARROWS,LEFTWARDS ARROW WITH VERTICAL STROKE,RIGHTWARDS ARROW WITH VERTICAL STROKE
21F9 |LEFT RIGHT ARROW WITH VERTICAL STROKE,LEFTWARDS ARROW WITH DOUBLE VERTICAL STROKE
21FB |RIGHTWARDS ARROW WITH DOUBLE VERTICAL STROKE,LEFT RIGHT ARROW WITH DOUBLE VERTICAL STROKE
21FD |LEFTWARDS OPEN-HEADED ARROW,RIGHTWARDS OPEN-HEADED ARROW,LEFT RIGHT OPEN-HEADED ARROW,FOR ALL,COMPLEMENT
2202 |PARTIAL DIFFERENTIAL,THERE EXISTS,THERE DOES NOT EXIST,EMPTY SET,INCREMENT,NABLA,ELEMENT OF,NOT AN ELEMENT OF
220A |SMALL ELEMENT OF,CONTAINS AS MEMBER,DOES NOT CONTAIN AS MEMBER,SMALL CONTAINS AS MEMBER,END OF PROOF
220F N-ARY |PRODUCT,COPRODUCT,SUMMATION
2212 |MINUS SIGN,MINUS-OR-PLUS SIGN,DOT PLUS,DIVISION SLASH
2216 |SET MINUS,ASTERISK OPERATOR,RING OPERATOR,BULLET OPERATOR,SQUARE ROOT,CUBE ROOT,FOURTH ROOT,PROPORTIONAL TO
221E |INFINITY,RIGHT ANGLE,ANGLE,MEASURED ANGLE,SPHERICAL ANGLE,DIVIDES,DOES NOT DIVIDE,PARALLEL TO,NOT PARALLEL TO
2227 LOGICAL |AND,OR
2229 |INTERSECTION,UNION,INTEGRAL,DOUBLE INTEGRAL,TRIPLE INTEGRAL,CONTOUR INTEGRAL,SURFACE INTEGRAL,VOLUME INTEGRAL
2231 CLOCKWISE |INTEGRAL,CONTOUR INTEGRAL
2233 |ANTICLOCKWISE CONTOUR INTEGRAL,THEREFORE,BECAUSE,RATIO
2237 |PROPORTION,DOT MINUS,EXCESS,GEOMETRIC PROPORTION,HOMOTHETIC,TILDE OPERATOR,REVERSED TILDE,INVERTED LAZY S
223F |SINE WAVE,WREATH PRODUCT,NOT TILDE,MINUS TILDE,ASYMPTOTICALLY EQUAL TO,NOT ASYMPTOTICALLY EQUAL TO
2245 APPROXIMATELY |EQUAL TO,BUT NOT ACTUALLY EQUAL TO
2247 |NEITHER APPROXIMATELY NOR ACTUALLY EQUAL TO,ALMOST EQUAL TO,NOT ALMOST EQUAL TO
224A |ALMOST EQUAL OR EQUAL TO,TRIPLE TILDE,ALL EQUAL TO,EQUIVALENT TO,GEOMETRICALLY EQUIVALENT TO
224F |DIFFERENCE BETWEEN,APPROACHES THE LIMIT,GEOMETRICALLY EQUAL TO,APPROXIMATELY EQUAL TO OR THE IMAGE OF
2253 |IMAGE OF OR APPROXIMATELY EQUAL TO,COLON EQUALS,EQUALS COLON,RING IN EQUAL TO
2257 |RING EQUAL TO,CORRESPONDS TO,ESTIMATES,EQUIANGULAR TO,STAR EQUALS,DELTA EQUAL TO,EQUAL TO BY DEFINITION
225E |MEASURED BY,QUESTIONED EQUAL TO,NOT EQUAL TO,IDENTICAL TO,NOT IDENTICAL TO,STRICTLY EQUIVALENT TO
2264 |LESS-THAN OR EQUAL TO,GREATER-THAN OR EQUAL TO,LESS-THAN OVER EQUAL TO,GREATER-THAN OVER EQUAL TO
2268 |LESS-THAN BUT NOT EQUAL TO,GREATER-THAN BUT NOT EQUAL TO,MUCH LESS-THAN,MUCH GREATER-THAN,BETWEEN
226D NOT |EQUIVALENT TO,LESS-THAN,GREATER-THAN
2270 NEITHER |LESS-THAN NOR EQUAL TO,GREATER-THAN NOR EQUAL TO
2272 |LESS-THAN OR EQUIVALENT TO,GREATER-THAN OR EQUIVALENT TO
2274 NEITHER |LESS-THAN NOR EQUIVALENT TO,GREATER-THAN NOR EQUIVALENT TO
2276 |LESS-THAN OR GREATER-THAN,GREATER-THAN OR LESS-THAN
2278 NEITHER |LESS-THAN NOR GREATER-THAN,GREATER-THAN NOR LESS-THAN
227A |PRECEDES
227B |SUCCEEDS,PRECEDES OR EQUAL TO,SUCCEEDS OR EQUAL TO,PRECEDES OR EQUIVALENT TO,SUCCEEDS OR EQUIVALENT TO
2280 DOES NOT |PRECEDE,SUCCEED
2282 |SUBSET OF,SUPERSET OF,NOT A SUBSET OF,NOT A SUPERSET OF,SUBSET OF OR EQUAL TO,SUPERSET OF OR EQUAL TO
2288 NEITHER A |SUBSET OF NOR EQUAL TO,SUPERSET OF NOR EQUAL TO
228A |SUBSET OF WITH NOT EQUAL TO,SUPERSET OF WITH NOT EQUAL TO,MULTISET
228D MULTISET |MULTIPLICATION,UNION
228F SQUARE |IMAGE OF,ORIGINAL OF,IMAGE OF OR EQUAL TO,ORIGINAL OF OR EQUAL TO,CAP,CUP
2295 CIRCLED |PLUS,MINUS,TIMES,DIVISION SLASH,DOT OPERATOR,RING OPERATOR,ASTERISK OPERATOR,EQUALS,DASH
229E SQUARED |PLUS,MINUS,TIMES,DOT OPERATOR
22A2 |RIGHT TACK,LEFT TACK,DOWN TACK,UP TACK
22A6 |ASSERTION,MODELS,TRUE,FORCES,TRIPLE VERTICAL BAR RIGHT TURNSTILE,DOUBLE VERTICAL BAR DOUBLE RIGHT TURNSTILE
22AC |DOES NOT PROVE,NOT TRUE,DOES NOT FORCE,NEGATED DOUBLE VERTICAL BAR DOUBLE RIGHT TURNSTILE
22B0 |PRECEDES UNDER RELATION,SUCCEEDS UNDER RELATION,NORMAL SUBGROUP OF
22B3 |CONTAINS AS NORMAL SUBGROUP,NORMAL SUBGROUP OF OR EQUAL TO,CONTAINS AS NORMAL SUBGROUP OR EQUAL TO,ORIGINAL OF
22B7 |IMAGE OF,MULTIMAP,HERMITIAN CONJUGATE MATRIX,INTERCALATE,XOR,NAND,NOR,RIGHT ANGLE WITH ARC,RIGHT TRIANGLE
22C0 N-ARY |LOGICAL AND,LOGICAL OR,INTERSECTION,UNION
22C4 |DIAMOND OPERATOR,DOT OPERATOR,STAR OPERATOR,DIVISION TIMES,BOWTIE,LEFT NORMAL FACTOR SEMIDIRECT PRODUCT
22CA |RIGHT NORMAL FACTOR SEMIDIRECT PRODUCT,LEFT SEMIDIRECT PRODUCT,RIGHT SEMIDIRECT PRODUCT,REVERSED TILDE EQUALS
22CE CURLY LOGICAL |OR,AND
22D0 DOUBLE |SUBSET,SUPERSET,INTERSECTION,UNION
22D4 |PITCHFORK,EQUAL AND PARALLEL TO,LESS-THAN WITH DOT,GREATER-THAN WITH DOT
22D8 VERY MUCH |LESS-THAN,GREATER-THAN
22DA |LESS-THAN EQUAL TO OR GREATER-THAN,GREATER-THAN EQUAL TO OR LESS-THAN
22DC EQUAL TO OR |LESS-THAN,GREATER-THAN,PRECEDES,SUCCEEDS
22E0 DOES NOT |PRECEDE OR EQUAL,SUCCEED OR EQUAL
22E2 NOT SQUARE |IMAGE OF OR EQUAL TO,ORIGINAL OF OR EQUAL TO
22E4 SQUARE |IMAGE OF OR NOT EQUAL TO,ORIGINAL OF OR NOT EQUAL TO
22E6 |LESS-THAN BUT NOT EQUIVALENT TO,GREATER-THAN BUT NOT EQUIVALENT TO,PRECEDES BUT NOT EQUIVALENT TO
22E9 |SUCCEEDS BUT NOT EQUIVALENT TO,NOT NORMAL SUBGROUP OF,DOES NOT CONTAIN AS NORMAL SUBGROUP
22EC |NOT NORMAL SUBGROUP OF OR EQUAL TO,DOES NOT CONTAIN AS NORMAL SUBGROUP OR EQUAL
22EE |VERTICAL ELLIPSIS,MIDLINE HORIZONTAL ELLIPSIS,UP RIGHT DIAGONAL ELLIPSIS,DOWN RIGHT DIAGONAL ELLIPSIS
22F2 ELEMENT OF WITH |LONG HORIZONTAL STROKE,VERTICAL BAR AT END OF HORIZONTAL STROKE
22F4 SMALL ELEMENT OF WITH VERTICAL BAR AT END OF HORIZONTAL |STROKE
22F5 ELEMENT OF WITH |DOT ABOVE,OVERBAR
22F7 SMALL ELEMENT OF WITH |OVERBAR
22F8 ELEMENT OF WITH |UNDERBAR,TWO HORIZONTAL STROKES
22FA CONTAINS WITH |LONG HORIZONTAL STROKE,VERTICAL BAR AT END OF HORIZONTAL STROKE
22FC SMALL CONTAINS WITH VERTICAL BAR AT END OF HORIZONTAL |STROKE
22FD |CONTAINS WITH OVERBAR,SMALL CONTAINS WITH OVERBAR,Z NOTATION BAG MEMBERSHIP"

def technical : String := "
2300 |DIAMETER SIGN,ELECTRIC ARROW,HOUSE,UP ARROWHEAD,DOWN ARROWHEAD
2305 |PROJECTIVE,PERSPECTIVE,WAVY LINE,LEFT CEILING,RIGHT CEILING,LEFT FLOOR,RIGHT FLOOR,BOTTOM RIGHT CROP
230D |BOTTOM LEFT CROP,TOP RIGHT CROP,TOP LEFT CROP,REVERSED NOT SIGN,SQUARE LOZENGE,ARC,SEGMENT,SECTOR
2315 |TELEPHONE RECORDER,POSITION INDICATOR,VIEWDATA SQUARE,PLACE OF INTEREST SIGN,TURNED NOT SIGN,WATCH,HOURGLASS
231C |TOP LEFT CORNER,TOP RIGHT CORNER,BOTTOM LEFT CORNER,BOTTOM RIGHT CORNER,TOP HALF INTEGRAL,BOTTOM HALF INTEGRAL
2322 |FROWN,SMILE,UP ARROWHEAD BETWEEN TWO HORIZONTAL BARS,OPTION KEY,ERASE TO THE RIGHT,X IN A RECTANGLE BOX
2328 |KEYBOARD,LEFT-POINTING ANGLE BRACKET,RIGHT-POINTING ANGLE BRACKET,ERASE TO THE LEFT,BENZENE RING,CYLINDRICITY
232E |ALL AROUND-PROFILE,SYMMETRY,TOTAL RUNOUT,DIMENSION ORIGIN,CONICAL TAPER,SLOPE,COUNTERBORE,COUNTERSINK
2336 APL FUNCTIONAL SYMBOL |I-BEAM,SQUISH QUAD,QUAD EQUAL,QUAD DIVIDE,QUAD DIAMOND,QUAD JOT
233C APL FUNCTIONAL SYMBOL |QUAD CIRCLE,CIRCLE STILE,CIRCLE JOT,SLASH BAR,BACKSLASH BAR,QUAD SLASH,QUAD BACKSLASH
2343 APL FUNCTIONAL SYMBOL |QUAD LESS-THAN,QUAD GREATER-THAN,LEFTWARDS VANE,RIGHTWARDS VANE,QUAD LEFTWARDS ARROW
2348 APL FUNCTIONAL SYMBOL |QUAD RIGHTWARDS ARROW,CIRCLE BACKSLASH,DOWN TACK UNDERBAR,DELTA STILE
234C APL FUNCTIONAL SYMBOL |QUAD DOWN CARET,QUAD DELTA,DOWN TACK JOT,UPWARDS VANE,QUAD UPWARDS ARROW,UP TACK OVERBAR
2352 APL FUNCTIONAL SYMBOL |DEL STILE,QUAD UP CARET,QUAD DEL,UP TACK JOT,DOWNWARDS VANE,QUAD DOWNWARDS ARROW
2358 APL FUNCTIONAL SYMBOL |QUOTE UNDERBAR,DELTA UNDERBAR,DIAMOND UNDERBAR,JOT UNDERBAR,CIRCLE UNDERBAR
235D APL FUNCTIONAL SYMBOL |UP SHOE JOT,QUOTE QUAD,CIRCLE STAR,QUAD COLON,UP TACK DIAERESIS,DEL DIAERESIS
2363 APL FUNCTIONAL SYMBOL |STAR DIAERESIS,JOT DIAERESIS,CIRCLE DIAERESIS,DOWN SHOE STILE,LEFT SHOE STILE
2368 APL FUNCTIONAL SYMBOL |TILDE DIAERESIS,GREATER-THAN DIAERESIS,COMMA BAR,DEL TILDE,ZILDE,STILE TILDE
236E APL FUNCTIONAL SYMBOL |SEMICOLON UNDERBAR,QUAD NOT EQUAL,QUAD QUESTION,DOWN CARET TILDE,UP CARET TILDE
2373 APL FUNCTIONAL SYMBOL |IOTA,RHO,OMEGA,ALPHA UNDERBAR,EPSILON UNDERBAR,IOTA UNDERBAR,OMEGA UNDERBAR,ALPHA
237B NOT CHECK |MARK
237C |RIGHT ANGLE WITH DOWNWARDS ZIGZAG ARROW,SHOULDERED OPEN BOX,BELL SYMBOL,VERTICAL LINE WITH MIDDLE DOT
2380 |INSERTION SYMBOL,CONTINUOUS UNDERLINE SYMBOL,DISCONTINUOUS UNDERLINE SYMBOL,EMPHASIS SYMBOL
2384 |COMPOSITION SYMBOL,WHITE SQUARE WITH CENTRE VERTICAL LINE,ENTER SYMBOL,ALTERNATIVE KEY SYMBOL,HELM SYMBOL
2389 CIRCLED |HORIZONTAL BAR WITH NOTCH,TRIANGLE DOWN
238B |BROKEN CIRCLE WITH NORTHWEST ARROW,UNDO SYMBOL,MONOSTABLE SYMBOL,HYSTERESIS SYMBOL
238F OPEN-CIRCUIT-OUTPUT |H-TYPE SYMBOL,L-TYPE SYMBOL
2391 |PASSIVE-PULL-DOWN-OUTPUT SYMBOL,PASSIVE-PULL-UP-OUTPUT SYMBOL
2393 |DIRECT CURRENT SYMBOL FORM TWO,SOFTWARE-FUNCTION SYMBOL,APL FUNCTIONAL SYMBOL QUAD
2396 |DECIMAL SEPARATOR KEY SYMBOL,PREVIOUS PAGE,NEXT PAGE,PRINT SCREEN SYMBOL,CLEAR SCREEN SYMBOL
239B LEFT PARENTHESIS |UPPER HOOK,EXTENSION,LOWER HOOK
239E RIGHT PARENTHESIS |UPPER HOOK,EXTENSION,LOWER HOOK
23A1 LEFT SQUARE BRACKET |UPPER CORNER,EXTENSION,LOWER CORNER
23A4 RIGHT SQUARE BRACKET |UPPER CORNER,EXTENSION,LOWER CORNER
23A7 LEFT CURLY BRACKET |UPPER HOOK,MIDDLE PIECE,LOWER HOOK
23AA CURLY BRACKET |EXTENSION
23AB RIGHT CURLY BRACKET |UPPER HOOK,MIDDLE PIECE,LOWER HOOK
23AE |INTEGRAL EXTENSION,HORIZONTAL LINE EXTENSION
23B0 UPPER |LEFT OR LOWER RIGHT CURLY BRACKET SECTION,RIGHT OR LOWER LEFT CURLY BRACKET SECTION
23B2 SUMMATION |TOP,BOTTOM
23B4 TOP SQUARE |BRACKET
23B5 BOTTOM SQUARE |BRACKET,BRACKET OVER TOP SQUARE BRACKET
23B7 |RADICAL SYMBOL BOTTOM,LEFT VERTICAL BOX LINE,RIGHT VERTICAL BOX LINE
23BA HORIZONTAL SCAN |LINE-1,LINE-3,LINE-7,LINE-9
23BE DENTISTRY SYMBOL LIGHT VERTICAL |AND TOP RIGHT,AND BOTTOM RIGHT,WITH CIRCLE
23C1 DENTISTRY SYMBOL LIGHT |DOWN AND HORIZONTAL WITH CIRCLE,UP AND HORIZONTAL WITH CIRCLE,VERTICAL WITH TRIANGLE
23C4 DENTISTRY SYMBOL LIGHT |DOWN AND HORIZONTAL WITH TRIANGLE,UP AND HORIZONTAL WITH TRIANGLE
23C6 DENTISTRY SYMBOL LIGHT |VERTICAL AND WAVE,DOWN AND HORIZONTAL WITH WAVE,UP AND HORIZONTAL WITH WAVE
23C9 DENTISTRY SYMBOL LIGHT |DOWN AND HORIZONTAL,UP AND HORIZONTAL,VERTICAL AND TOP LEFT,VERTICAL AND BOTTOM LEFT
23CD |SQUARE FOOT,RETURN SYMBOL,EJECT SYMBOL,VERTICAL LINE EXTENSION
23D1 METRICAL |BREVE,LONG OVER SHORT,SHORT OVER LONG
23D4 METRICAL |LONG OVER TWO SHORTS,TWO SHORTS OVER LONG,TWO SHORTS JOINED,TRISEME,TETRASEME,PENTASEME
23DA |EARTH GROUND,FUSE,TOP PARENTHESIS,BOTTOM PARENTHESIS,TOP CURLY BRACKET
23DF |BOTTOM CURLY BRACKET,TOP TORTOISE SHELL BRACKET,BOTTOM TORTOISE SHELL BRACKET,WHITE TRAPEZIUM
23E3 |BENZENE RING WITH CIRCLE,STRAIGHTNESS,FLATNESS,AC CURRENT,ELECTRICAL INTERSECTION,DECIMAL EXPONENT SYMBOL
23E9 BLACK |RIGHT-POINTING DOUBLE TRIANGLE,LEFT-POINTING DOUBLE TRIANGLE,UP-POINTING DOUBLE TRIANGLE
23EC BLACK |DOWN-POINTING DOUBLE TRIANGLE,RIGHT-POINTING DOUBLE TRIANGLE WITH VERTICAL BAR
23EE BLACK |LEFT-POINTING DOUBLE TRIANGLE WITH VERTICAL BAR,RIGHT-POINTING TRIANGLE WITH DOUBLE VERTICAL BAR
23F0 |ALARM CLOCK,STOPWATCH,TIMER CLOCK,HOURGLASS WITH FLOWING SAND
23F4 BLACK MEDIUM |LEFT-POINTING TRIANGLE,RIGHT-POINTING TRIANGLE,UP-POINTING TRIANGLE,DOWN-POINTING TRIANGLE
23F8 |DOUBLE VERTICAL BAR,BLACK SQUARE FOR STOP,BLACK CIRCLE FOR RECORD
23FB POWER |SYMBOL,ON-OFF SYMBOL,ON SYMBOL,SLEEP SYMBOL
23FF OBSERVER EYE |SYMBOL
2400 SYMBOL FOR |NULL,START OF HEADING,START OF TEXT
2403 SYMBOL FOR |END OF TEXT,END OF TRANSMISSION,ENQUIRY,ACKNOWLEDGE,BELL,BACKSPACE,HORIZONTAL TABULATION
240A SYMBOL FOR |LINE FEED,VERTICAL TABULATION,FORM FEED,CARRIAGE RETURN,SHIFT OUT,SHIFT IN,DATA LINK ESCAPE
2411 SYMBOL FOR DEVICE CONTROL |ONE,TWO,THREE,FOUR
2415 SYMBOL FOR |NEGATIVE ACKNOWLEDGE,SYNCHRONOUS IDLE,END OF TRANSMISSION BLOCK,CANCEL,END OF MEDIUM
241A SYMBOL FOR |SUBSTITUTE,ESCAPE,FILE SEPARATOR,GROUP SEPARATOR,RECORD SEPARATOR,UNIT SEPARATOR,SPACE,DELETE
2422 |BLANK SYMBOL,OPEN BOX
2424 SYMBOL FOR |NEWLINE,DELETE FORM TWO,SUBSTITUTE FORM TWO
2440 OCR |HOOK,CHAIR,FORK,INVERTED FORK,BELT BUCKLE
2445 OCR |BOW TIE,BRANCH BANK IDENTIFICATION,AMOUNT OF CHECK,DASH,CUSTOMER ACCOUNT NUMBER,DOUBLE BACKSLASH
2460 CIRCLED DIGIT |ONE,TWO,THREE,FOUR,FIVE,SIX,SEVEN,EIGHT,NINE
2469 CIRCLED NUMBER |TEN,ELEVEN,TWELVE,THIRTEEN,FOURTEEN,FIFTEEN,SIXTEEN,SEVENTEEN,EIGHTEEN,NINETEEN,TWENTY
2474 PARENTHESIZED DIGIT |ONE,TWO,THREE,FOUR,FIVE,SIX,SEVEN,EIGHT,NINE
247D PARENTHESIZED NUMBER |TEN,ELEVEN,TWELVE,THIRTEEN,FOURTEEN,FIFTEEN,SIXTEEN,SEVENTEEN,EIGHTEEN,NINETEEN,TWENTY
2488 DIGIT |ONE FULL STOP,TWO FULL STOP,THREE FULL STOP
248B DIGIT |FOUR FULL STOP,FIVE FULL STOP,SIX FULL STOP,SEVEN FULL STOP,EIGHT FULL STOP,NINE FULL STOP
2491 NUMBER |TEN FULL STOP,ELEVEN FULL STOP,TWELVE FULL STOP,THIRTEEN FULL STOP,FOURTEEN FULL STOP,FIFTEEN FULL STOP
2497 NUMBER |SIXTEEN FULL STOP,SEVENTEEN FULL STOP,EIGHTEEN FULL STOP,NINETEEN FULL STOP,TWENTY FULL STOP
249C PARENTHESIZED LATIN SMALL LETTER |A,B,C,D,E,F,G,H,I,J,K,L,M,N,O,P,Q,R,S,T,U,V,W,X,Y,Z
24B6 CIRCLED LATIN CAPITAL LETTER |A,B,C,D,E,F,G,H,I,J,K,L,M,N,O,P,Q,R,S,T,U,V,W,X,Y,Z
24D0 CIRCLED LATIN SMALL LETTER |A,B,C,D,E,F,G,H,I,J,K,L,M,N,O,P,Q,R,S,T,U,V,W,X,Y,Z
24EA CIRCLED DIGIT |ZERO
24EB NEGATIVE CIRCLED NUMBER |ELEVEN,TWELVE,THIRTEEN,FOURTEEN,FIFTEEN,SIXTEEN,SEVENTEEN,EIGHTEEN,NINETEEN,TWENTY
24F5 DOUBLE CIRCLED DIGIT |ONE,TWO,THREE,FOUR,FIVE,SIX,SEVEN,EIGHT,NINE
24FE |DOUBLE CIRCLED NUMBER TEN,NEGATIVE CIRCLED DIGIT ZERO"

/-- Lines, blocks, shapes and other signs. -/
def shapes : String := "
2500 BOX DRAWINGS |LIGHT HORIZONTAL,HEAVY HORIZONTAL,LIGHT VERTICAL,HEAVY VERTICAL
2504 BOX DRAWINGS |LIGHT TRIPLE DASH HORIZONTAL,HEAVY TRIPLE DASH HORIZONTAL,LIGHT TRIPLE DASH VERTICAL
2507 BOX DRAWINGS |HEAVY TRIPLE DASH VERTICAL,LIGHT QUADRUPLE DASH HORIZONTAL,HEAVY QUADRUPLE DASH HORIZONTAL
250A BOX DRAWINGS |LIGHT QUADRUPLE DASH VERTICAL,HEAVY QUADRUPLE DASH VERTICAL,LIGHT DOWN AND RIGHT
250D BOX DRAWINGS |DOWN LIGHT AND RIGHT HEAVY,DOWN HEAVY AND RIGHT LIGHT,HEAVY DOWN AND RIGHT,LIGHT DOWN AND LEFT
2511 BOX DRAWINGS |DOWN LIGHT AND LEFT HEAVY,DOWN HEAVY AND LEFT LIGHT,HEAVY DOWN AND LEFT,LIGHT UP AND RIGHT
2515 BOX DRAWINGS |UP LIGHT AND RIGHT HEAVY,UP HEAVY AND RIGHT LIGHT,HEAVY UP AND RIGHT,LIGHT UP AND LEFT
2519 BOX DRAWINGS |UP LIGHT AND LEFT HEAVY,UP HEAVY AND LEFT LIGHT,HEAVY UP AND LEFT,LIGHT VERTICAL AND RIGHT
251D BOX DRAWINGS |VERTICAL LIGHT AND RIGHT HEAVY,UP HEAVY AND RIGHT DOWN LIGHT,DOWN HEAVY AND RIGHT UP LIGHT
2520 BOX DRAWINGS |VERTICAL HEAVY AND RIGHT LIGHT,DOWN LIGHT AND RIGHT UP HEAVY,UP LIGHT AND RIGHT DOWN HEAVY
2523 BOX DRAWINGS |HEAVY VERTICAL AND RIGHT,LIGHT VERTICAL AND LEFT,VERTICAL LIGHT AND LEFT HEAVY
2526 BOX DRAWINGS |UP HEAVY AND LEFT DOWN LIGHT,DOWN HEAVY AND LEFT UP LIGHT,VERTICAL HEAVY AND LEFT LIGHT
2529 BOX DRAWINGS |DOWN LIGHT AND LEFT UP HEAVY,UP LIGHT AND LEFT DOWN HEAVY,HEAVY VERTICAL AND LEFT
252C BOX DRAWINGS |LIGHT DOWN AND HORIZONTAL,LEFT HEAVY AND RIGHT DOWN LIGHT,RIGHT HEAVY AND LEFT DOWN LIGHT
252F BOX DRAWINGS |DOWN LIGHT AND HORIZONTAL HEAVY,DOWN HEAVY AND HORIZONTAL LIGHT,RIGHT LIGHT AND LEFT DOWN HEAVY
2532 BOX DRAWINGS |LEFT LIGHT AND RIGHT DOWN HEAVY,HEAVY DOWN AND HORIZONTAL,LIGHT UP AND HORIZONTAL
2535 BOX DRAWINGS |LEFT HEAVY AND RIGHT UP LIGHT,RIGHT HEAVY AND LEFT UP LIGHT,UP LIGHT AND HORIZONTAL HEAVY
2538 BOX DRAWINGS |UP HEAVY AND HORIZONTAL LIGHT,RIGHT LIGHT AND LEFT UP HEAVY,LEFT LIGHT AND RIGHT UP HEAVY
253B BOX DRAWINGS |HEAVY UP AND HORIZONTAL,LIGHT VERTICAL AND HORIZONTAL,LEFT HEAVY AND RIGHT VERTICAL LIGHT
253E BOX DRAWINGS |RIGHT HEAVY AND LEFT VERTICAL LIGHT,VERTICAL LIGHT AND HORIZONTAL HEAVY
2540 BOX DRAWINGS |UP HEAVY AND DOWN HORIZONTAL LIGHT,DOWN HEAVY AND UP HORIZONTAL LIGHT
2542 BOX DRAWINGS |VERTICAL HEAVY AND HORIZONTAL LIGHT,LEFT UP HEAVY AND RIGHT DOWN LIGHT
2544 BOX DRAWINGS |RIGHT UP HEAVY AND LEFT DOWN LIGHT,LEFT DOWN HEAVY AND RIGHT UP LIGHT
2546 BOX DRAWINGS |RIGHT DOWN HEAVY AND LEFT UP LIGHT,DOWN LIGHT AND UP HORIZONTAL HEAVY
2548 BOX DRAWINGS |UP LIGHT AND DOWN HORIZONTAL HEAVY,RIGHT LIGHT AND LEFT VERTICAL HEAVY
254A BOX DRAWINGS |LEFT LIGHT AND RIGHT VERTICAL HEAVY,HEAVY VERTICAL AND HORIZONTAL,LIGHT DOUBLE DASH HORIZONTAL
254D BOX DRAWINGS |HEAVY DOUBLE DASH HORIZONTAL,LIGHT DOUBLE DASH VERTICAL,HEAVY DOUBLE DASH VERTICAL
2550 BOX DRAWINGS |DOUBLE HORIZONTAL,DOUBLE VERTICAL,DOWN SINGLE AND RIGHT DOUBLE,DOWN DOUBLE AND RIGHT SINGLE
2554 BOX DRAWINGS |DOUBLE DOWN AND RIGHT,DOWN SINGLE AND LEFT DOUBLE,DOWN DOUBLE AND LEFT SINGLE
2557 BOX DRAWINGS |DOUBLE DOWN AND LEFT,UP SINGLE AND RIGHT DOUBLE,UP DOUBLE AND RIGHT SINGLE
255A BOX DRAWINGS |DOUBLE UP AND RIGHT,UP SINGLE AND LEFT DOUBLE,UP DOUBLE AND LEFT SINGLE,DOUBLE UP AND LEFT
255E BOX DRAWINGS VERTICAL |SINGLE AND RIGHT DOUBLE,DOUBLE AND RIGHT SINGLE
2560 BOX DRAWINGS |DOUBLE VERTICAL AND RIGHT,VERTICAL SINGLE AND LEFT DOUBLE
2562 BOX DRAWINGS |VERTICAL DOUBLE AND LEFT SINGLE,DOUBLE VERTICAL AND LEFT,DOWN SINGLE AND HORIZONTAL DOUBLE
2565 BOX DRAWINGS |DOWN DOUBLE AND HORIZONTAL SINGLE,DOUBLE DOWN AND HORIZONTAL,UP SINGLE AND HORIZONTAL DOUBLE
2568 BOX DRAWINGS |UP DOUBLE AND HORIZONTAL SINGLE,DOUBLE UP AND HORIZONTAL,VERTICAL SINGLE AND HORIZONTAL DOUBLE
256B BOX DRAWINGS |VERTICAL DOUBLE AND HORIZONTAL SINGLE,DOUBLE VERTICAL AND HORIZONTAL
256D BOX DRAWINGS LIGHT ARC |DOWN AND RIGHT,DOWN AND LEFT,UP AND LEFT,UP AND RIGHT
2571 BOX DRAWINGS LIGHT DIAGONAL |UPPER RIGHT TO LOWER LEFT,UPPER LEFT TO LOWER RIGHT,CROSS
2574 BOX DRAWINGS LIGHT |LEFT,UP,RIGHT,DOWN
2578 BOX DRAWINGS HEAVY |LEFT,UP,RIGHT,DOWN
257C BOX DRAWINGS LIGHT |LEFT AND HEAVY RIGHT,UP AND HEAVY DOWN
257E BOX DRAWINGS HEAVY |LEFT AND LIGHT RIGHT,UP AND LIGHT DOWN
2580 UPPER HALF |BLOCK
2581 LOWER ONE |EIGHTH BLOCK,QUARTER BLOCK
2583 LOWER |THREE EIGHTHS BLOCK,HALF BLOCK,FIVE EIGHTHS BLOCK,THREE QUARTERS BLOCK,SEVEN EIGHTHS BLOCK
2588 |FULL BLOCK,LEFT SEVEN EIGHTHS BLOCK
258A LEFT |THREE QUARTERS BLOCK,FIVE EIGHTHS BLOCK,HALF BLOCK,THREE EIGHTHS BLOCK,ONE QUARTER BLOCK,ONE EIGHTH BLOCK
2590 |RIGHT HALF BLOCK,LIGHT SHADE,MEDIUM SHADE,DARK SHADE,UPPER ONE EIGHTH BLOCK,RIGHT ONE EIGHTH BLOCK
2596 QUADRANT |LOWER LEFT,LOWER RIGHT,UPPER LEFT
2599 QUADRANT UPPER LEFT AND LOWER |LEFT AND LOWER RIGHT,RIGHT
259B QUADRANT UPPER LEFT AND UPPER RIGHT AND LOWER |LEFT,RIGHT
259D QUADRANT UPPER |RIGHT,RIGHT AND LOWER LEFT,RIGHT AND LOWER LEFT AND LOWER RIGHT
25A0 |BLACK SQUARE,WHITE SQUARE
25A2 WHITE SQUARE |WITH ROUNDED CORNERS,CONTAINING BLACK SMALL SQUARE
25A4 SQUARE WITH |HORIZONTAL FILL,VERTICAL FILL,ORTHOGONAL CROSSHATCH FILL
25A7 SQUARE WITH |UPPER LEFT TO LOWER RIGHT FILL,UPPER RIGHT TO LOWER LEFT FILL,DIAGONAL CROSSHATCH FILL
25AA |BLACK SMALL SQUARE,WHITE SMALL SQUARE,BLACK RECTANGLE,WHITE RECTANGLE,BLACK VERTICAL RECTANGLE
25AF |WHITE VERTICAL RECTANGLE,BLACK PARALLELOGRAM,WHITE PARALLELOGRAM,BLACK UP-POINTING TRIANGLE
25B3 |WHITE UP-POINTING TRIANGLE,BLACK UP-POINTING SMALL TRIANGLE,WHITE UP-POINTING SMALL TRIANGLE
25B6 |BLACK RIGHT-POINTING TRIANGLE,WHITE RIGHT-POINTING TRIANGLE,BLACK RIGHT-POINTING SMALL TRIANGLE
25B9 |WHITE RIGHT-POINTING SMALL TRIANGLE,BLACK RIGHT-POINTING POINTER,WHITE RIGHT-POINTING POINTER
25BC |BLACK DOWN-POINTING TRIANGLE,WHITE DOWN-POINTING TRIANGLE,BLACK DOWN-POINTING SMALL TRIANGLE
25BF |WHITE DOWN-POINTING SMALL TRIANGLE,BLACK LEFT-POINTING TRIANGLE,WHITE LEFT-POINTING TRIANGLE
25C2 |BLACK LEFT-POINTING SMALL TRIANGLE,WHITE LEFT-POINTING SMALL TRIANGLE,BLACK LEFT-POINTING POINTER
25C5 |WHITE LEFT-POINTING POINTER,BLACK DIAMOND,WHITE DIAMOND,WHITE DIAMOND CONTAINING BLACK SMALL DIAMOND
25C9 |FISHEYE,LOZENGE,WHITE CIRCLE,DOTTED CIRCLE,CIRCLE WITH VERTICAL FILL,BULLSEYE,BLACK CIRCLE
25D0 CIRCLE WITH |LEFT HALF BLACK,RIGHT HALF BLACK,LOWER HALF BLACK,UPPER HALF BLACK,UPPER RIGHT QUADRANT BLACK
25D5 |CIRCLE WITH ALL BUT UPPER LEFT QUADRANT BLACK,LEFT HALF BLACK CIRCLE,RIGHT HALF BLACK CIRCLE
25D8 INVERSE |BULLET,WHITE CIRCLE
25DA |UPPER HALF INVERSE WHITE CIRCLE,LOWER HALF INVERSE WHITE CIRCLE
25DC UPPER |LEFT QUADRANT CIRCULAR ARC,RIGHT QUADRANT CIRCULAR ARC
25DE |LOWER RIGHT QUADRANT CIRCULAR ARC,LOWER LEFT QUADRANT CIRCULAR ARC,UPPER HALF CIRCLE,LOWER HALF CIRCLE
25E2 BLACK |LOWER RIGHT TRIANGLE,LOWER LEFT TRIANGLE,UPPER LEFT TRIANGLE,UPPER RIGHT TRIANGLE
25E6 WHITE |BULLET
25E7 SQUARE WITH |LEFT HALF BLACK,RIGHT HALF BLACK,UPPER LEFT DIAGONAL HALF BLACK,LOWER RIGHT DIAGONAL HALF BLACK
25EB WHITE |SQUARE WITH VERTICAL BISECTING LINE,UP-POINTING TRIANGLE WITH DOT
25ED UP-POINTING TRIANGLE WITH |LEFT HALF BLACK,RIGHT HALF BLACK
25EF LARGE |CIRCLE
25F0 WHITE SQUARE WITH |UPPER LEFT QUADRANT,LOWER LEFT QUADRANT,LOWER RIGHT QUADRANT,UPPER RIGHT QUADRANT
25F4 WHITE CIRCLE WITH |UPPER LEFT QUADRANT,LOWER LEFT QUADRANT,LOWER RIGHT QUADRANT,UPPER RIGHT QUADRANT
25F8 |UPPER LEFT TRIANGLE,UPPER RIGHT TRIANGLE,LOWER LEFT TRIANGLE,WHITE MEDIUM SQUARE
25FC |BLACK MEDIUM SQUARE,WHITE MEDIUM SMALL SQUARE,BLACK MEDIUM SMALL SQUARE,LOWER RIGHT TRIANGLE
2600 |BLACK SUN WITH RAYS,CLOUD,UMBRELLA,SNOWMAN,COMET,BLACK STAR,WHITE STAR,LIGHTNING,THUNDERSTORM
2609 |SUN,ASCENDING NODE,DESCENDING NODE,CONJUNCTION,OPPOSITION,BLACK TELEPHONE,WHITE TELEPHONE,BALLOT BOX
2611 BALLOT BOX WITH |CHECK,X
2613 |SALTIRE,UMBRELLA WITH RAIN DROPS,HOT BEVERAGE,WHITE SHOGI PIECE,BLACK SHOGI PIECE
2618 |SHAMROCK,REVERSED ROTATED FLORAL HEART BULLET,BLACK LEFT POINTING INDEX,BLACK RIGHT POINTING INDEX
261C WHITE |LEFT POINTING INDEX,UP POINTING INDEX,RIGHT POINTING INDEX,DOWN POINTING INDEX
2620 |SKULL AND CROSSBONES,CAUTION SIGN,RADIOACTIVE SIGN,BIOHAZARD SIGN,CADUCEUS,ANKH,ORTHODOX CROSS,CHI RHO
2628 CROSS OF |LORRAINE,JERUSALEM
262A |STAR AND CRESCENT,FARSI SYMBOL,ADI SHAKTI,HAMMER AND SICKLE,PEACE SYMBOL,YIN YANG
2630 TRIGRAM FOR |HEAVEN,LAKE,FIRE,THUNDER,WIND,WATER,MOUNTAIN,EARTH
2638 |WHEEL OF DHARMA,WHITE FROWNING FACE,WHITE SMILING FACE,BLACK SMILING FACE
263C |WHITE SUN WITH RAYS,FIRST QUARTER MOON,LAST QUARTER MOON,MERCURY,FEMALE SIGN,EARTH,MALE SIGN,JUPITER,SATURN
2645 |URANUS,NEPTUNE,PLUTO,ARIES,TAURUS,GEMINI,CANCER,LEO,VIRGO,LIBRA,SCORPIUS,SAGITTARIUS,CAPRICORN,AQUARIUS,PISCES
2654 WHITE CHESS |KING,QUEEN,ROOK,BISHOP,KNIGHT,PAWN
265A BLACK CHESS |KING,QUEEN,ROOK,BISHOP,KNIGHT,PAWN
2660 |BLACK SPADE SUIT,WHITE HEART SUIT,WHITE DIAMOND SUIT,BLACK CLUB SUIT
2664 |WHITE SPADE SUIT,BLACK HEART SUIT,BLACK DIAMOND SUIT,WHITE CLUB SUIT,HOT SPRINGS,QUARTER NOTE,EIGHTH NOTE
266B BEAMED |EIGHTH NOTES,SIXTEENTH NOTES
266D MUSIC |FLAT SIGN,NATURAL SIGN,SHARP SIGN
2670 |WEST SYRIAC CROSS,EAST SYRIAC CROSS,UNIVERSAL RECYCLING SYMBOL
2673 RECYCLING SYMBOL FOR |TYPE-1 PLASTICS,TYPE-2 PLASTICS,TYPE-3 PLASTICS
2676 RECYCLING SYMBOL FOR |TYPE-4 PLASTICS,TYPE-5 PLASTICS,TYPE-6 PLASTICS,TYPE-7 PLASTICS,GENERIC MATERIALS
267B BLACK UNIVERSAL RECYCLING |SYMBOL
267C |RECYCLED PAPER SYMBOL,PARTIALLY-RECYCLED PAPER SYMBOL,PERMANENT PAPER SIGN,WHEELCHAIR SYMBOL
2680 DIE |FACE-1,FACE-2,FACE-3,FACE-4,FACE-5,FACE-6
2686 WHITE CIRCLE WITH |DOT RIGHT,TWO DOTS
2688 BLACK CIRCLE WITH |WHITE DOT RIGHT,TWO WHITE DOTS
268A MONOGRAM FOR |YANG,YIN
268C DIGRAM FOR |GREATER YANG,LESSER YIN,LESSER YANG,GREATER YIN
2690 |WHITE FLAG,BLACK FLAG,HAMMER AND PICK,ANCHOR,CROSSED SWORDS
2695 |STAFF OF AESCULAPIUS,SCALES,ALEMBIC,FLOWER,GEAR,STAFF OF HERMES,ATOM SYMBOL,FLEUR-DE-LIS,OUTLINED WHITE STAR
269E THREE LINES CONVERGING |RIGHT,LEFT
26A0 |WARNING SIGN,HIGH VOLTAGE SIGN
26A2 DOUBLED |FEMALE SIGN,MALE SIGN
26A4 |INTERLOCKED FEMALE AND MALE SIGN,MALE AND FEMALE SIGN
26A6 MALE WITH STROKE |SIGN,AND MALE AND FEMALE SIGN
26A8 |VERTICAL MALE WITH STROKE SIGN,HORIZONTAL MALE WITH STROKE SIGN
26AA MEDIUM |WHITE CIRCLE,BLACK CIRCLE,SMALL WHITE CIRCLE
26AD |MARRIAGE SYMBOL,DIVORCE SYMBOL,UNMARRIED PARTNERSHIP SYMBOL,COFFIN,FUNERAL URN,NEUTER,CERES,PALLAS,JUNO
26B6 |VESTA,CHIRON,BLACK MOON LILITH,SEXTILE,SEMISEXTILE,QUINCUNX,SESQUIQUADRATE,SOCCER BALL,BASEBALL,SQUARED KEY
26C0 WHITE DRAUGHTS |MAN,KING
26C2 BLACK DRAUGHTS |MAN,KING
26C4 |SNOWMAN WITHOUT SNOW,SUN BEHIND CLOUD,RAIN
26C7 |BLACK SNOWMAN,THUNDER CLOUD AND RAIN,TURNED WHITE SHOGI PIECE,TURNED BLACK SHOGI PIECE,WHITE DIAMOND IN SQUARE
26CC |CROSSING LANES,DISABLED CAR,OPHIUCHUS,PICK,CAR SLIDING,HELMET WITH WHITE CROSS,CIRCLED CROSSING LANES,CHAINS
26D4 |NO ENTRY,ALTERNATE ONE-WAY LEFT WAY TRAFFIC,BLACK TWO-WAY LEFT WAY TRAFFIC,WHITE TWO-WAY LEFT WAY TRAFFIC
26D8 |BLACK LEFT LANE MERGE,WHITE LEFT LANE MERGE,DRIVE SLOW SIGN,HEAVY WHITE DOWN-POINTING TRIANGLE
26DC |LEFT CLOSED ENTRY,SQUARED SALTIRE,FALLING DIAGONAL IN WHITE CIRCLE IN BLACK SQUARE,BLACK TRUCK
26E0 RESTRICTED LEFT |ENTRY-1,ENTRY-2
26E2 |ASTRONOMICAL SYMBOL FOR URANUS,HEAVY CIRCLE WITH STROKE AND TWO DOTS ABOVE,PENTAGRAM
26E5 |RIGHT-HANDED INTERLACED PENTAGRAM,LEFT-HANDED INTERLACED PENTAGRAM,INVERTED PENTAGRAM,BLACK CROSS ON SHIELD
26E9 |SHINTO SHRINE,CHURCH,CASTLE,HISTORIC SITE,GEAR WITHOUT HUB,GEAR WITH HANDLES,MAP SYMBOL FOR LIGHTHOUSE
26F0 |MOUNTAIN,UMBRELLA ON GROUND,FOUNTAIN,FLAG IN HOLE,FERRY,SAILBOAT,SQUARE FOUR CORNERS,SKIER
26F8 |ICE SKATE,PERSON WITH BALL,TENT,JAPANESE BANK SYMBOL,HEADSTONE GRAVEYARD SYMBOL,FUEL PUMP,CUP ON BLACK SQUARE
26FF |WHITE FLAG WITH HORIZONTAL MIDDLE BLACK STRIPE,BLACK SAFETY SCISSORS,UPPER BLADE SCISSORS,BLACK SCISSORS
2703 |LOWER BLADE SCISSORS,WHITE SCISSORS,WHITE HEAVY CHECK MARK,TELEPHONE LOCATION SIGN,TAPE DRIVE,AIRPLANE
2709 |ENVELOPE,RAISED FIST,RAISED HAND,VICTORY HAND,WRITING HAND,LOWER RIGHT PENCIL,PENCIL,UPPER RIGHT PENCIL
2711 |WHITE NIB,BLACK NIB,CHECK MARK,HEAVY CHECK MARK,MULTIPLICATION X,HEAVY MULTIPLICATION X,BALLOT X
2718 |HEAVY BALLOT X,OUTLINED GREEK CROSS,HEAVY GREEK CROSS,OPEN CENTRE CROSS,HEAVY OPEN CENTRE CROSS,LATIN CROSS
271E |SHADOWED WHITE LATIN CROSS,OUTLINED LATIN CROSS,MALTESE CROSS,STAR OF DAVID,FOUR TEARDROP-SPOKED ASTERISK
2723 |FOUR BALLOON-SPOKED ASTERISK,HEAVY FOUR BALLOON-SPOKED ASTERISK,FOUR CLUB-SPOKED ASTERISK
2726 |BLACK FOUR POINTED STAR,WHITE FOUR POINTED STAR,SPARKLES,STRESS OUTLINED WHITE STAR,CIRCLED WHITE STAR
272B |OPEN CENTRE BLACK STAR,BLACK CENTRE WHITE STAR,OUTLINED BLACK STAR,HEAVY OUTLINED BLACK STAR
272F |PINWHEEL STAR,SHADOWED WHITE STAR,HEAVY ASTERISK,OPEN CENTRE ASTERISK,EIGHT SPOKED ASTERISK
2734 EIGHT POINTED |BLACK STAR,PINWHEEL STAR
2736 |SIX POINTED BLACK STAR,EIGHT POINTED RECTILINEAR BLACK STAR,HEAVY EIGHT POINTED RECTILINEAR BLACK STAR
2739 |TWELVE POINTED BLACK STAR,SIXTEEN POINTED ASTERISK,TEARDROP-SPOKED ASTERISK
273C |OPEN CENTRE TEARDROP-SPOKED ASTERISK,HEAVY TEARDROP-SPOKED ASTERISK,SIX PETALLED BLACK AND WHITE FLORETTE
273F |BLACK FLORETTE,WHITE FLORETTE,EIGHT PETALLED OUTLINED BLACK FLORETTE,CIRCLED OPEN CENTRE EIGHT POINTED STAR
2743 |HEAVY TEARDROP-SPOKED PINWHEEL ASTERISK,SNOWFLAKE,TIGHT TRIFOLIATE SNOWFLAKE
2746 |HEAVY CHEVRON SNOWFLAKE,SPARKLE,HEAVY SPARKLE,BALLOON-SPOKED ASTERISK,EIGHT TEARDROP-SPOKED PROPELLER ASTERISK
274B |HEAVY EIGHT TEARDROP-SPOKED PROPELLER ASTERISK,CROSS MARK,SHADOWED WHITE CIRCLE
274E |NEGATIVE SQUARED CROSS MARK,LOWER RIGHT DROP-SHADOWED WHITE SQUARE,UPPER RIGHT DROP-SHADOWED WHITE SQUARE
2751 |LOWER RIGHT SHADOWED WHITE SQUARE,UPPER RIGHT SHADOWED WHITE SQUARE,BLACK QUESTION MARK ORNAMENT
2754 WHITE |QUESTION MARK ORNAMENT,EXCLAMATION MARK ORNAMENT
2756 |BLACK DIAMOND MINUS WHITE X,HEAVY EXCLAMATION MARK SYMBOL,LIGHT VERTICAL BAR,MEDIUM VERTICAL BAR
275A HEAVY |VERTICAL BAR,SINGLE TURNED COMMA QUOTATION MARK ORNAMENT,SINGLE COMMA QUOTATION MARK ORNAMENT
275D HEAVY DOUBLE |TURNED COMMA QUOTATION MARK ORNAMENT,COMMA QUOTATION MARK ORNAMENT
275F HEAVY LOW |SINGLE COMMA QUOTATION MARK ORNAMENT,DOUBLE COMMA QUOTATION MARK ORNAMENT
2761 CURVED STEM PARAGRAPH SIGN |ORNAMENT
2762 HEAVY |EXCLAMATION MARK ORNAMENT,HEART EXCLAMATION MARK ORNAMENT,BLACK HEART
2765 |ROTATED HEAVY BLACK HEART BULLET,FLORAL HEART,ROTATED FLORAL HEART BULLET
2768 MEDIUM |LEFT PARENTHESIS ORNAMENT,RIGHT PARENTHESIS ORNAMENT
276A MEDIUM FLATTENED |LEFT PARENTHESIS ORNAMENT,RIGHT PARENTHESIS ORNAMENT
276C MEDIUM |LEFT-POINTING ANGLE BRACKET ORNAMENT,RIGHT-POINTING ANGLE BRACKET ORNAMENT
276E HEAVY |LEFT-POINTING ANGLE QUOTATION MARK ORNAMENT,RIGHT-POINTING ANGLE QUOTATION MARK ORNAMENT
2770 HEAVY |LEFT-POINTING ANGLE BRACKET ORNAMENT,RIGHT-POINTING ANGLE BRACKET ORNAMENT
2772 LIGHT |LEFT TORTOISE SHELL BRACKET ORNAMENT,RIGHT TORTOISE SHELL BRACKET ORNAMENT
2774 MEDIUM |LEFT CURLY BRACKET ORNAMENT,RIGHT CURLY BRACKET ORNAMENT
2776 DINGBAT NEGATIVE CIRCLED DIGIT |ONE,TWO,THREE,FOUR,FIVE,SIX,SEVEN,EIGHT,NINE
277F DINGBAT NEGATIVE CIRCLED NUMBER |TEN
2780 DINGBAT CIRCLED SANS-SERIF DIGIT |ONE,TWO,THREE,FOUR,FIVE,SIX,SEVEN,EIGHT,NINE
2789 DINGBAT CIRCLED SANS-SERIF NUMBER |TEN
278A DINGBAT NEGATIVE CIRCLED SANS-SERIF DIGIT |ONE,TWO,THREE,FOUR,FIVE,SIX,SEVEN,EIGHT,NINE
2793 DINGBAT NEGATIVE CIRCLED SANS-SERIF NUMBER |TEN
2794 HEAVY |WIDE-HEADED RIGHTWARDS ARROW,PLUS SIGN,MINUS SIGN,DIVISION SIGN,SOUTH EAST ARROW,RIGHTWARDS ARROW
279A |HEAVY NORTH EAST ARROW,DRAFTING POINT RIGHTWARDS ARROW
279C |HEAVY ROUND-TIPPED RIGHTWARDS ARROW,TRIANGLE-HEADED RIGHTWARDS ARROW,HEAVY TRIANGLE-HEADED RIGHTWARDS ARROW
279F |DASHED TRIANGLE-HEADED RIGHTWARDS ARROW,HEAVY DASHED TRIANGLE-HEADED RIGHTWARDS ARROW,BLACK RIGHTWARDS ARROW
27A2 THREE-D |TOP-LIGHTED RIGHTWARDS ARROWHEAD,BOTTOM-LIGHTED RIGHTWARDS ARROWHEAD
27A4 BLACK RIGHTWARDS |ARROWHEAD
27A5 HEAVY BLACK CURVED |DOWNWARDS AND RIGHTWARDS ARROW,UPWARDS AND RIGHTWARDS ARROW
27A7 |SQUAT BLACK RIGHTWARDS ARROW,HEAVY CONCAVE-POINTED BLACK RIGHTWARDS ARROW,RIGHT-SHADED WHITE RIGHTWARDS ARROW
27AA |LEFT-SHADED WHITE RIGHTWARDS ARROW,BACK-TILTED SHADOWED WHITE RIGHTWARDS ARROW
27AC |FRONT-TILTED SHADOWED WHITE RIGHTWARDS ARROW,HEAVY LOWER RIGHT-SHADOWED WHITE RIGHTWARDS ARROW
27AE |HEAVY UPPER RIGHT-SHADOWED WHITE RIGHTWARDS ARROW,NOTCHED LOWER RIGHT-SHADOWED WHITE RIGHTWARDS ARROW
27B0 |CURLY LOOP,NOTCHED UPPER RIGHT-SHADOWED WHITE RIGHTWARDS ARROW
27B2 |CIRCLED HEAVY WHITE RIGHTWARDS ARROW,WHITE-FEATHERED RIGHTWARDS ARROW
27B4 BLACK-FEATHERED |SOUTH EAST ARROW,RIGHTWARDS ARROW,NORTH EAST ARROW
27B7 HEAVY BLACK-FEATHERED |SOUTH EAST ARROW,RIGHTWARDS ARROW,NORTH EAST ARROW
27BA |TEARDROP-BARBED RIGHTWARDS ARROW,HEAVY TEARDROP-SHANKED RIGHTWARDS ARROW
27BC |WEDGE-TAILED RIGHTWARDS ARROW,HEAVY WEDGE-TAILED RIGHTWARDS ARROW,OPEN-OUTLINED RIGHTWARDS ARROW
27BF |DOUBLE CURLY LOOP,THREE DIMENSIONAL ANGLE,WHITE TRIANGLE CONTAINING SMALL WHITE TRIANGLE
27C2 |PERPENDICULAR,OPEN SUBSET,OPEN SUPERSET,LEFT S-SHAPED BAG DELIMITER
27C6 |RIGHT S-SHAPED BAG DELIMITER,OR WITH DOT INSIDE,REVERSE SOLIDUS PRECEDING SUBSET,SUPERSET PRECEDING SOLIDUS
27CA |VERTICAL BAR WITH HORIZONTAL STROKE,MATHEMATICAL RISING DIAGONAL,LONG DIVISION,MATHEMATICAL FALLING DIAGONAL
27CE SQUARED LOGICAL |AND,OR
27D0 |WHITE DIAMOND WITH CENTRED DOT,AND WITH DOT,ELEMENT OF OPENING UPWARDS,LOWER RIGHT CORNER WITH DOT
27D4 |UPPER LEFT CORNER WITH DOT,LEFT OUTER JOIN,RIGHT OUTER JOIN,FULL OUTER JOIN,LARGE UP TACK,LARGE DOWN TACK
27DA LEFT AND RIGHT |DOUBLE TURNSTILE,TACK
27DC |LEFT MULTIMAP,LONG RIGHT TACK,LONG LEFT TACK,UP TACK WITH CIRCLE ABOVE,LOZENGE DIVIDED BY HORIZONTAL RULE
27E1 WHITE CONCAVE-SIDED |DIAMOND,DIAMOND WITH LEFTWARDS TICK,DIAMOND WITH RIGHTWARDS TICK
27E4 WHITE SQUARE WITH |LEFTWARDS TICK,RIGHTWARDS TICK
27E6 MATHEMATICAL |LEFT WHITE SQUARE BRACKET,RIGHT WHITE SQUARE BRACKET,LEFT ANGLE BRACKET,RIGHT ANGLE BRACKET
27EA MATHEMATICAL |LEFT DOUBLE ANGLE BRACKET,RIGHT DOUBLE ANGLE BRACKET,LEFT WHITE TORTOISE SHELL BRACKET
27ED MATHEMATICAL |RIGHT WHITE TORTOISE SHELL BRACKET,LEFT FLATTENED PARENTHESIS,RIGHT FLATTENED PARENTHESIS
27F0 |UPWARDS QUADRUPLE ARROW,DOWNWARDS QUADRUPLE ARROW,ANTICLOCKWISE GAPPED CIRCLE ARROW
27F3 |CLOCKWISE GAPPED CIRCLE ARROW,RIGHT ARROW WITH CIRCLED PLUS,LONG LEFTWARDS ARROW
27F6 LONG |RIGHTWARDS ARROW,LEFT RIGHT ARROW,LEFTWARDS DOUBLE ARROW,RIGHTWARDS DOUBLE ARROW,LEFT RIGHT DOUBLE ARROW
27FB LONG |LEFTWARDS ARROW FROM BAR,RIGHTWARDS ARROW FROM BAR,LEFTWARDS DOUBLE ARROW FROM BAR
27FE LONG RIGHTWARDS |DOUBLE ARROW FROM BAR,SQUIGGLE ARROW"

def letterlike : String := "
1D400 MATHEMATICAL BOLD CAPITAL |A,B,C,D,E,F,G,H,I,J,K,L,M,N,O,P,Q,R,S,T,U,V,W,X,Y,Z
1D41A MATHEMATICAL BOLD SMALL |A,B,C,D,E,F,G,H,I,J,K,L,M,N,O,P,Q,R,S,T,U,V,W,X,Y,Z
1D434 MATHEMATICAL ITALIC CAPITAL |A,B,C,D,E,F,G,H,I,J,K,L,M,N,O,P,Q,R,S,T,U,V,W,X,Y,Z
1D44E MATHEMATICAL ITALIC SMALL |A,B,C,D,E,F,G
1D456 MATHEMATICAL ITALIC SMALL |I,J,K,L,M,N,O,P,Q,R,S,T,U,V,W,X,Y,Z
1D468 MATHEMATICAL BOLD ITALIC CAPITAL |A,B,C,D,E,F,G,H,I,J,K,L,M,N,O,P,Q,R,S,T,U,V,W,X,Y,Z
1D482 MATHEMATICAL BOLD ITALIC SMALL |A,B,C,D,E,F,G,H,I,J,K,L,M,N,O,P,Q,R,S,T,U,V,W,X,Y,Z
1D49C MATHEMATICAL SCRIPT CAPITAL |A
1D49E MATHEMATICAL SCRIPT CAPITAL |C,D
1D4A2 MATHEMATICAL SCRIPT CAPITAL |G
1D4A5 MATHEMATICAL SCRIPT CAPITAL |J,K
1D4A9 MATHEMATICAL SCRIPT CAPITAL |N,O,P,Q
1D4AE MATHEMATICAL SCRIPT CAPITAL |S,T,U,V,W,X,Y,Z
1D4B6 MATHEMATICAL SCRIPT SMALL |A,B,C,D
1D4BB MATHEMATICAL SCRIPT SMALL |F
1D4BD MATHEMATICAL SCRIPT SMALL |H,I,J,K,L,M,N
1D4C5 MATHEMATICAL SCRIPT SMALL |P,Q,R,S,T,U,V,W,X,Y,Z
1D4D0 MATHEMATICAL BOLD SCRIPT CAPITAL |A,B,C,D,E,F,G,H,I,J,K,L,M,N,O,P,Q,R,S,T,U,V,W,X,Y,Z
1D4EA MATHEMATICAL BOLD SCRIPT SMALL |A,B,C,D,E,F,G,H,I,J,K,L,M,N,O,P,Q,R,S,T,U,V,W,X,Y,Z
1D504 MATHEMATICAL FRAKTUR CAPITAL |A,B
1D507 MATHEMATICAL FRAKTUR CAPITAL |D,E,F,G
1D50D MATHEMATICAL FRAKTUR CAPITAL |J,K,L,M,N,O,P,Q
1D516 MATHEMATICAL FRAKTUR CAPITAL |S,T,U,V,W,X,Y
1D51E MATHEMATICAL FRAKTUR SMALL |A,B,C,D,E,F,G,H,I,J,K,L,M,N,O,P,Q,R,S,T,U,V,W,X,Y,Z
1D538 MATHEMATICAL DOUBLE-STRUCK CAPITAL |A,B
1D53B MATHEMATICAL DOUBLE-STRUCK CAPITAL |D,E,F,G
1D540 MATHEMATICAL DOUBLE-STRUCK CAPITAL |I,J,K,L,M
1D546 MATHEMATICAL DOUBLE-STRUCK CAPITAL |O
1D54A MATHEMATICAL DOUBLE-STRUCK CAPITAL |S,T,U,V,W,X,Y
1D552 MATHEMATICAL DOUBLE-STRUCK SMALL |A,B,C,D,E,F,G,H,I,J,K,L,M,N,O,P,Q,R,S,T,U,V,W,X,Y,Z
1D56C MATHEMATICAL BOLD FRAKTUR CAPITAL |A,B,C,D,E,F,G,H,I,J,K,L,M,N,O,P,Q,R,S,T,U,V,W,X,Y,Z
1D586 MATHEMATICAL BOLD FRAKTUR SMALL |A,B,C,D,E,F,G,H,I,J,K,L,M,N,O,P,Q,R,S,T,U,V,W,X,Y,Z
1D5A0 MATHEMATICAL SANS-SERIF CAPITAL |A,B,C,D,E,F,G,H,I,J,K,L,M,N,O,P,Q,R,S,T,U,V,W,X,Y,Z
1D5BA MATHEMATICAL SANS-SERIF SMALL |A,B,C,D,E,F,G,H,I,J,K,L,M,N,O,P,Q,R,S,T,U,V,W,X,Y,Z
1D5D4 MATHEMATICAL SANS-SERIF BOLD CAPITAL |A,B,C,D,E,F,G,H,I,J,K,L,M,N,O,P,Q,R,S,T,U,V,W,X,Y,Z
1D5EE MATHEMATICAL SANS-SERIF BOLD SMALL |A,B,C,D,E,F,G,H,I,J,K,L,M,N,O,P,Q,R,S,T,U,V,W,X,Y,Z
1D608 MATHEMATICAL SANS-SERIF ITALIC CAPITAL |A,B,C,D,E,F,G,H,I,J,K,L,M,N,O,P,Q,R,S,T,U,V,W,X,Y,Z
1D622 MATHEMATICAL SANS-SERIF ITALIC SMALL |A,B,C,D,E,F,G,H,I,J,K,L,M,N,O,P,Q,R,S,T,U,V,W,X,Y,Z
1D63C MATHEMATICAL SANS-SERIF BOLD ITALIC CAPITAL |A,B,C,D,E,F,G,H,I,J,K,L,M,N,O,P,Q,R,S,T,U,V,W,X,Y,Z
1D656 MATHEMATICAL SANS-SERIF BOLD ITALIC SMALL |A,B,C,D,E,F,G,H,I,J,K,L,M,N,O,P,Q,R,S,T,U,V,W,X,Y,Z
1D670 MATHEMATICAL MONOSPACE CAPITAL |A,B,C,D,E,F,G,H,I,J,K,L,M,N,O,P,Q,R,S,T,U,V,W,X,Y,Z
1D68A MATHEMATICAL MONOSPACE SMALL |A,B,C,D,E,F,G,H,I,J,K,L,M,N,O,P,Q,R,S,T,U,V,W,X,Y,Z
1D6A4 MATHEMATICAL ITALIC SMALL DOTLESS |I,J
1D6A8 MATHEMATICAL BOLD CAPITAL |ALPHA,BETA,GAMMA,DELTA,EPSILON,ZETA,ETA,THETA,IOTA,KAPPA
1D6B2 MATHEMATICAL BOLD CAPITAL |LAMDA,MU,NU,XI,OMICRON,PI,RHO,THETA SYMBOL,SIGMA,TAU,UPSILON,PHI,CHI,PSI,OMEGA
1D6C1 MATHEMATICAL BOLD |NABLA
1D6C2 MATHEMATICAL BOLD SMALL |ALPHA,BETA,GAMMA,DELTA,EPSILON,ZETA,ETA,THETA,IOTA
1D6CB MATHEMATICAL BOLD SMALL |KAPPA,LAMDA,MU,NU,XI,OMICRON,PI,RHO,FINAL SIGMA,SIGMA,TAU,UPSILON,PHI,CHI,PSI,OMEGA
1D6DB MATHEMATICAL BOLD PARTIAL |DIFFERENTIAL
1D6DC MATHEMATICAL BOLD |EPSILON SYMBOL,THETA SYMBOL,KAPPA SYMBOL,PHI SYMBOL,RHO SYMBOL,PI SYMBOL
1D6E2 MATHEMATICAL ITALIC CAPITAL |ALPHA,BETA,GAMMA,DELTA,EPSILON,ZETA,ETA,THETA,IOTA,KAPPA
1D6EC MATHEMATICAL ITALIC CAPITAL |LAMDA,MU,NU,XI,OMICRON,PI,RHO,THETA SYMBOL,SIGMA,TAU,UPSILON,PHI,CHI,PSI,OMEGA
1D6FB MATHEMATICAL ITALIC |NABLA
1D6FC MATHEMATICAL ITALIC SMALL |ALPHA,BETA,GAMMA,DELTA,EPSILON,ZETA,ETA,THETA,IOTA
1D705 MATHEMATICAL ITALIC SMALL |KAPPA,LAMDA,MU,NU,XI,OMICRON,PI,RHO,FINAL SIGMA,SIGMA,TAU,UPSILON,PHI,CHI,PSI,OMEGA
1D715 MATHEMATICAL ITALIC PARTIAL |DIFFERENTIAL
1D716 MATHEMATICAL ITALIC |EPSILON SYMBOL,THETA SYMBOL,KAPPA SYMBOL,PHI SYMBOL,RHO SYMBOL,PI SYMBOL
1D71C MATHEMATICAL BOLD ITALIC CAPITAL |ALPHA,BETA,GAMMA,DELTA,EPSILON,ZETA,ETA,THETA,IOTA,KAPPA,LAMDA
1D727 MATHEMATICAL BOLD ITALIC CAPITAL |MU,NU,XI,OMICRON,PI,RHO,THETA SYMBOL,SIGMA,TAU,UPSILON,PHI,CHI,PSI,OMEGA
1D735 MATHEMATICAL BOLD ITALIC |NABLA
1D736 MATHEMATICAL BOLD ITALIC SMALL |ALPHA,BETA,GAMMA,DELTA,EPSILON,ZETA,ETA,THETA,IOTA,KAPPA
1D740 MATHEMATICAL BOLD ITALIC SMALL |LAMDA,MU,NU,XI,OMICRON,PI,RHO,FINAL SIGMA,SIGMA,TAU,UPSILON,PHI,CHI,PSI,OMEGA
1D74F MATHEMATICAL BOLD ITALIC PARTIAL |DIFFERENTIAL
1D750 MATHEMATICAL BOLD ITALIC |EPSILON SYMBOL,THETA SYMBOL,KAPPA SYMBOL,PHI SYMBOL,RHO SYMBOL,PI SYMBOL
1D756 MATHEMATICAL SANS-SERIF BOLD CAPITAL |ALPHA,BETA,GAMMA,DELTA,EPSILON,ZETA,ETA,THETA,IOTA,KAPPA,LAMDA
1D761 MATHEMATICAL SANS-SERIF BOLD CAPITAL |MU,NU,XI,OMICRON,PI,RHO,THETA SYMBOL,SIGMA,TAU,UPSILON,PHI,CHI,PSI,OMEGA
1D76F MATHEMATICAL SANS-SERIF BOLD |NABLA
1D770 MATHEMATICAL SANS-SERIF BOLD SMALL |ALPHA,BETA,GAMMA,DELTA,EPSILON,ZETA,ETA,THETA,IOTA,KAPPA,LAMDA
1D77B MATHEMATICAL SANS-SERIF BOLD SMALL |MU,NU,XI,OMICRON,PI,RHO,FINAL SIGMA,SIGMA,TAU,UPSILON,PHI,CHI,PSI,OMEGA
1D789 MATHEMATICAL SANS-SERIF BOLD PARTIAL |DIFFERENTIAL
1D78A MATHEMATICAL SANS-SERIF BOLD |EPSILON SYMBOL,THETA SYMBOL,KAPPA SYMBOL,PHI SYMBOL,RHO SYMBOL,PI SYMBOL
1D790 MATHEMATICAL SANS-SERIF BOLD ITALIC CAPITAL |ALPHA,BETA,GAMMA,DELTA,EPSILON,ZETA,ETA,THETA,IOTA,KAPPA,LAMDA,MU
1D79C MATHEMATICAL SANS-SERIF BOLD ITALIC CAPITAL |NU,XI,OMICRON,PI,RHO,THETA SYMBOL,SIGMA,TAU,UPSILON,PHI,CHI,PSI
1D7A8 MATHEMATICAL SANS-SERIF BOLD ITALIC |CAPITAL OMEGA,NABLA
1D7AA MATHEMATICAL SANS-SERIF BOLD ITALIC SMALL |ALPHA,BETA,GAMMA,DELTA,EPSILON,ZETA,ETA,THETA,IOTA,KAPPA,LAMDA
1D7B5 MATHEMATICAL SANS-SERIF BOLD ITALIC SMALL |MU,NU,XI,OMICRON,PI,RHO,FINAL SIGMA,SIGMA,TAU,UPSILON,PHI,CHI,PSI
1D7C2 MATHEMATICAL SANS-SERIF BOLD ITALIC |SMALL OMEGA,PARTIAL DIFFERENTIAL
1D7C4 MATHEMATICAL SANS-SERIF BOLD ITALIC |EPSILON SYMBOL,THETA SYMBOL,KAPPA SYMBOL,PHI SYMBOL,RHO SYMBOL,PI SYMBOL
1D7CA MATHEMATICAL BOLD |CAPITAL DIGAMMA,SMALL DIGAMMA
1D7CE MATHEMATICAL BOLD DIGIT |ZERO,ONE,TWO,THREE,FOUR,FIVE,SIX,SEVEN,EIGHT,NINE
1D7D8 MATHEMATICAL DOUBLE-STRUCK DIGIT |ZERO,ONE,TWO,THREE,FOUR,FIVE,SIX,SEVEN,EIGHT,NINE
1D7E2 MATHEMATICAL SANS-SERIF DIGIT |ZERO,ONE,TWO,THREE,FOUR,FIVE,SIX,SEVEN,EIGHT,NINE
1D7EC MATHEMATICAL SANS-SERIF BOLD DIGIT |ZERO,ONE,TWO,THREE,FOUR,FIVE,SIX,SEVEN,EIGHT,NINE
1D7F6 MATHEMATICAL MONOSPACE DIGIT |ZERO,ONE,TWO,THREE,FOUR,FIVE,SIX,SEVEN,EIGHT,NINE"

end CharacterName

end SchemaLint
