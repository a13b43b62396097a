/-!
# Names of letters

The names of the letters of living scripts, with their marks, digits and punctuation, in rows as the look-up reads
them.
-/

namespace SchemaLint

namespace CharacterName

/-- The Latin letters, the signs beside them, and the marks that combine with letters. -/
def latin : String := "
20 |SPACE,EXCLAMATION MARK,QUOTATION MARK,NUMBER SIGN,DOLLAR SIGN,PERCENT SIGN
26 |AMPERSAND,APOSTROPHE,LEFT PARENTHESIS,RIGHT PARENTHESIS,ASTERISK,PLUS SIGN,COMMA,HYPHEN-MINUS,FULL STOP,SOLIDUS
30 DIGIT |ZERO,ONE,TWO,THREE,FOUR,FIVE,SIX,SEVEN,EIGHT,NINE
3A |COLON,SEMICOLON,LESS-THAN SIGN,EQUALS SIGN,GREATER-THAN SIGN,QUESTION MARK,COMMERCIAL AT
41 LATIN CAPITAL LETTER |A,B,C,D,E,F,G,H,I,J,K,L,M,N,O,P,Q,R,S,T,U,V,W,X,Y,Z
5B |LEFT SQUARE BRACKET,REVERSE SOLIDUS,RIGHT SQUARE BRACKET,CIRCUMFLEX ACCENT,LOW LINE,GRAVE ACCENT
61 LATIN SMALL LETTER |A,B,C,D,E,F,G,H,I,J,K,L,M,N,O,P,Q,R,S,T,U,V,W,X,Y,Z
7B |LEFT CURLY BRACKET,VERTICAL LINE,RIGHT CURLY BRACKET,TILDE
A0 |NO-BREAK SPACE,INVERTED EXCLAMATION MARK,CENT SIGN,POUND SIGN,CURRENCY SIGN,YEN SIGN,BROKEN BAR
A7 |SECTION SIGN,DIAERESIS,COPYRIGHT SIGN,FEMININE ORDINAL INDICATOR,LEFT-POINTING DOUBLE ANGLE QUOTATION MARK
AC |NOT SIGN,SOFT HYPHEN,REGISTERED SIGN,MACRON,DEGREE SIGN,PLUS-MINUS SIGN
B2 SUPERSCRIPT |TWO,THREE
B4 |ACUTE ACCENT,MICRO SIGN,PILCROW SIGN
B7 |MIDDLE DOT,CEDILLA,SUPERSCRIPT ONE,MASCULINE ORDINAL INDICATOR,RIGHT-POINTING DOUBLE ANGLE QUOTATION MARK
BC VULGAR FRACTION |ONE QUARTER,ONE HALF,THREE QUARTERS
BF INVERTED QUESTION |MARK
C0 LATIN CAPITAL LETTER A WITH |GRAVE,ACUTE,CIRCUMFLEX,TILDE,DIAERESIS,RING ABOVE
C6 LATIN CAPITAL LETTER |AE,C WITH CEDILLA,E WITH GRAVE,E WITH ACUTE,E WITH CIRCUMFLEX,E WITH DIAERESIS
CC LATIN CAPITAL LETTER |I WITH GRAVE,I WITH ACUTE,I WITH CIRCUMFLEX,I WITH DIAERESIS,ETH,N WITH TILDE
D2 LATIN CAPITAL LETTER O WITH |GRAVE,ACUTE,CIRCUMFLEX,TILDE,DIAERESIS
D7 MULTIPLICATION |SIGN
D8 LATIN CAPITAL LETTER |O WITH STROKE,U WITH GRAVE,U WITH ACUTE,U WITH CIRCUMFLEX,U WITH DIAERESIS,Y WITH ACUTE
DE LATIN |CAPITAL LETTER THORN,SMALL LETTER SHARP S
E0 LATIN SMALL LETTER A WITH |GRAVE,ACUTE,CIRCUMFLEX,TILDE,DIAERESIS,RING ABOVE
E6 LATIN SMALL LETTER |AE,C WITH CEDILLA,E WITH GRAVE,E WITH ACUTE,E WITH CIRCUMFLEX,E WITH DIAERESIS
EC LATIN SMALL LETTER |I WITH GRAVE,I WITH ACUTE,I WITH CIRCUMFLEX,I WITH DIAERESIS,ETH,N WITH TILDE
F2 LATIN SMALL LETTER O WITH |GRAVE,ACUTE,CIRCUMFLEX,TILDE,DIAERESIS
F7 |DIVISION SIGN,LATIN SMALL LETTER O WITH STROKE
F9 LATIN SMALL LETTER U WITH |GRAVE,ACUTE,CIRCUMFLEX,DIAERESIS
FD LATIN SMALL LETTER |Y WITH ACUTE,THORN,Y WITH DIAERESIS
100 LATIN |CAPITAL LETTER A WITH MACRON,SMALL LETTER A WITH MACRON,CAPITAL LETTER A WITH BREVE
103 LATIN |SMALL LETTER A WITH BREVE,CAPITAL LETTER A WITH OGONEK,SMALL LETTER A WITH OGONEK
106 LATIN |CAPITAL LETTER C WITH ACUTE,SMALL LETTER C WITH ACUTE,CAPITAL LETTER C WITH CIRCUMFLEX
109 LATIN |SMALL LETTER C WITH CIRCUMFLEX,CAPITAL LETTER C WITH DOT ABOVE,SMALL LETTER C WITH DOT ABOVE
10C LATIN |CAPITAL LETTER C WITH CARON,SMALL LETTER C WITH CARON,CAPITAL LETTER D WITH CARON
10F LATIN |SMALL LETTER D WITH CARON,CAPITAL LETTER D WITH STROKE,SMALL LETTER D WITH STROKE
112 LATIN |CAPITAL LETTER E WITH MACRON,SMALL LETTER E WITH MACRON,CAPITAL LETTER E WITH BREVE
115 LATIN |SMALL LETTER E WITH BREVE,CAPITAL LETTER E WITH DOT ABOVE,SMALL LETTER E WITH DOT ABOVE
118 LATIN |CAPITAL LETTER E WITH OGONEK,SMALL LETTER E WITH OGONEK,CAPITAL LETTER E WITH CARON
11B LATIN |SMALL LETTER E WITH CARON,CAPITAL LETTER G WITH CIRCUMFLEX,SMALL LETTER G WITH CIRCUMFLEX
11E LATIN |CAPITAL LETTER G WITH BREVE,SMALL LETTER G WITH BREVE,CAPITAL LETTER G WITH DOT ABOVE
121 LATIN |SMALL LETTER G WITH DOT ABOVE,CAPITAL LETTER G WITH CEDILLA,SMALL LETTER G WITH CEDILLA
124 LATIN |CAPITAL LETTER H WITH CIRCUMFLEX,SMALL LETTER H WITH CIRCUMFLEX,CAPITAL LETTER H WITH STROKE
127 LATIN |SMALL LETTER H WITH STROKE,CAPITAL LETTER I WITH TILDE,SMALL LETTER I WITH TILDE
12A LATIN |CAPITAL LETTER I WITH MACRON,SMALL LETTER I WITH MACRON,CAPITAL LETTER I WITH BREVE
12D LATIN |SMALL LETTER I WITH BREVE,CAPITAL LETTER I WITH OGONEK,SMALL LETTER I WITH OGONEK
130 LATIN |CAPITAL LETTER I WITH DOT ABOVE,SMALL LETTER DOTLESS I,CAPITAL LIGATURE IJ,SMALL LIGATURE IJ
134 LATIN |CAPITAL LETTER J WITH CIRCUMFLEX,SMALL LETTER J WITH CIRCUMFLEX,CAPITAL LETTER K WITH CEDILLA
137 LATIN SMALL LETTER |K WITH CEDILLA,KRA
139 LATIN |CAPITAL LETTER L WITH ACUTE,SMALL LETTER L WITH ACUTE,CAPITAL LETTER L WITH CEDILLA
13C LATIN |SMALL LETTER L WITH CEDILLA,CAPITAL LETTER L WITH CARON,SMALL LETTER L WITH CARON
13F LATIN |CAPITAL LETTER L WITH MIDDLE DOT,SMALL LETTER L WITH MIDDLE DOT,CAPITAL LETTER L WITH STROKE
142 LATIN |SMALL LETTER L WITH STROKE,CAPITAL LETTER N WITH ACUTE,SMALL LETTER N WITH ACUTE
145 LATIN |CAPITAL LETTER N WITH CEDILLA,SMALL LETTER N WITH CEDILLA,CAPITAL LETTER N WITH CARON
148 LATIN SMALL LETTER N |WITH CARON,PRECEDED BY APOSTROPHE
14A LATIN |CAPITAL LETTER ENG,SMALL LETTER ENG,CAPITAL LETTER O WITH MACRON
14D LATIN |SMALL LETTER O WITH MACRON,CAPITAL LETTER O WITH BREVE,SMALL LETTER O WITH BREVE
150 LATIN |CAPITAL LETTER O WITH DOUBLE ACUTE,SMALL LETTER O WITH DOUBLE ACUTE,CAPITAL LIGATURE OE
153 LATIN |SMALL LIGATURE OE,CAPITAL LETTER R WITH ACUTE,SMALL LETTER R WITH ACUTE,CAPITAL LETTER R WITH CEDILLA
157 LATIN |SMALL LETTER R WITH CEDILLA,CAPITAL LETTER R WITH CARON,SMALL LETTER R WITH CARON
15A LATIN |CAPITAL LETTER S WITH ACUTE,SMALL LETTER S WITH ACUTE,CAPITAL LETTER S WITH CIRCUMFLEX
15D LATIN |SMALL LETTER S WITH CIRCUMFLEX,CAPITAL LETTER S WITH CEDILLA,SMALL LETTER S WITH CEDILLA
160 LATIN |CAPITAL LETTER S WITH CARON,SMALL LETTER S WITH CARON,CAPITAL LETTER T WITH CEDILLA
163 LATIN |SMALL LETTER T WITH CEDILLA,CAPITAL LETTER T WITH CARON,SMALL LETTER T WITH CARON
166 LATIN |CAPITAL LETTER T WITH STROKE,SMALL LETTER T WITH STROKE,CAPITAL LETTER U WITH TILDE
169 LATIN |SMALL LETTER U WITH TILDE,CAPITAL LETTER U WITH MACRON,SMALL LETTER U WITH MACRON
16C LATIN |CAPITAL LETTER U WITH BREVE,SMALL LETTER U WITH BREVE,CAPITAL LETTER U WITH RING ABOVE
16F LATIN |SMALL LETTER U WITH RING ABOVE,CAPITAL LETTER U WITH DOUBLE ACUTE,SMALL LETTER U WITH DOUBLE ACUTE
172 LATIN |CAPITAL LETTER U WITH OGONEK,SMALL LETTER U WITH OGONEK,CAPITAL LETTER W WITH CIRCUMFLEX
175 LATIN |SMALL LETTER W WITH CIRCUMFLEX,CAPITAL LETTER Y WITH CIRCUMFLEX,SMALL LETTER Y WITH CIRCUMFLEX
178 LATIN CAPITAL LETTER |Y WITH DIAERESIS,Z WITH ACUTE
17A LATIN SMALL LETTER Z WITH |ACUTE
17B LATIN |CAPITAL LETTER Z WITH DOT ABOVE,SMALL LETTER Z WITH DOT ABOVE,CAPITAL LETTER Z WITH CARON
17E LATIN SMALL LETTER |Z WITH CARON,LONG S,B WITH STROKE
181 LATIN CAPITAL LETTER B WITH |HOOK,TOPBAR
183 LATIN |SMALL LETTER B WITH TOPBAR,CAPITAL LETTER TONE SIX,SMALL LETTER TONE SIX
186 LATIN CAPITAL LETTER |OPEN O,C WITH HOOK
188 LATIN SMALL LETTER C WITH |HOOK
189 LATIN CAPITAL LETTER |AFRICAN D,D WITH HOOK,D WITH TOPBAR
18C LATIN SMALL LETTER |D WITH TOPBAR,TURNED DELTA
18E LATIN CAPITAL LETTER |REVERSED E,SCHWA,OPEN E,F WITH HOOK
192 LATIN |SMALL LETTER F WITH HOOK,CAPITAL LETTER G WITH HOOK,CAPITAL LETTER GAMMA,SMALL LETTER HV
196 LATIN CAPITAL LETTER |IOTA,I WITH STROKE,K WITH HOOK
199 LATIN SMALL LETTER |K WITH HOOK,L WITH BAR,LAMBDA WITH STROKE
19C LATIN CAPITAL LETTER |TURNED M,N WITH LEFT HOOK
19E LATIN SMALL LETTER N WITH LONG RIGHT |LEG
19F LATIN CAPITAL LETTER O WITH |MIDDLE TILDE,HORN
1A1 LATIN SMALL LETTER O WITH |HORN
1A2 LATIN |CAPITAL LETTER OI,SMALL LETTER OI,CAPITAL LETTER P WITH HOOK,SMALL LETTER P WITH HOOK
1A6 LATIN |LETTER YR,CAPITAL LETTER TONE TWO,SMALL LETTER TONE TWO,CAPITAL LETTER ESH,LETTER REVERSED ESH LOOP
1AB LATIN |SMALL LETTER T WITH PALATAL HOOK,CAPITAL LETTER T WITH HOOK,SMALL LETTER T WITH HOOK
1AE LATIN CAPITAL LETTER |T WITH RETROFLEX HOOK,U WITH HORN
1B0 LATIN SMALL LETTER U WITH |HORN
1B1 LATIN CAPITAL LETTER |UPSILON,V WITH HOOK,Y WITH HOOK
1B4 LATIN |SMALL LETTER Y WITH HOOK,CAPITAL LETTER Z WITH STROKE,SMALL LETTER Z WITH STROKE
1B7 LATIN CAPITAL LETTER |EZH,EZH REVERSED
1B9 LATIN SMALL LETTER EZH |REVERSED,WITH TAIL
1BB LATIN |LETTER TWO WITH STROKE,CAPITAL LETTER TONE FIVE,SMALL LETTER TONE FIVE
1BE LATIN LETTER |INVERTED GLOTTAL STOP WITH STROKE,WYNN,DENTAL CLICK,LATERAL CLICK,ALVEOLAR CLICK,RETROFLEX CLICK
1C4 LATIN CAPITAL LETTER |DZ WITH CARON,D WITH SMALL LETTER Z WITH CARON
1C6 LATIN |SMALL LETTER DZ WITH CARON,CAPITAL LETTER LJ,CAPITAL LETTER L WITH SMALL LETTER J,SMALL LETTER LJ
1CA LATIN CAPITAL LETTER |NJ,N WITH SMALL LETTER J
1CC LATIN |SMALL LETTER NJ,CAPITAL LETTER A WITH CARON,SMALL LETTER A WITH CARON,CAPITAL LETTER I WITH CARON
1D0 LATIN |SMALL LETTER I WITH CARON,CAPITAL LETTER O WITH CARON,SMALL LETTER O WITH CARON
1D3 LATIN |CAPITAL LETTER U WITH CARON,SMALL LETTER U WITH CARON,CAPITAL LETTER U WITH DIAERESIS AND MACRON
1D6 LATIN |SMALL LETTER U WITH DIAERESIS AND MACRON,CAPITAL LETTER U WITH DIAERESIS AND ACUTE
1D8 LATIN |SMALL LETTER U WITH DIAERESIS AND ACUTE,CAPITAL LETTER U WITH DIAERESIS AND CARON
1DA LATIN |SMALL LETTER U WITH DIAERESIS AND CARON,CAPITAL LETTER U WITH DIAERESIS AND GRAVE
1DC LATIN SMALL LETTER |U WITH DIAERESIS AND GRAVE,TURNED E
1DE LATIN CAPITAL LETTER A WITH DIAERESIS AND |MACRON
1DF LATIN |SMALL LETTER A WITH DIAERESIS AND MACRON,CAPITAL LETTER A WITH DOT ABOVE AND MACRON
1E1 LATIN |SMALL LETTER A WITH DOT ABOVE AND MACRON,CAPITAL LETTER AE WITH MACRON,SMALL LETTER AE WITH MACRON
1E4 LATIN |CAPITAL LETTER G WITH STROKE,SMALL LETTER G WITH STROKE,CAPITAL LETTER G WITH CARON
1E7 LATIN |SMALL LETTER G WITH CARON,CAPITAL LETTER K WITH CARON,SMALL LETTER K WITH CARON
1EA LATIN |CAPITAL LETTER O WITH OGONEK,SMALL LETTER O WITH OGONEK,CAPITAL LETTER O WITH OGONEK AND MACRON
1ED LATIN |SMALL LETTER O WITH OGONEK AND MACRON,CAPITAL LETTER EZH WITH CARON
1EF LATIN SMALL LETTER |EZH WITH CARON,J WITH CARON
1F1 LATIN CAPITAL LETTER |DZ,D WITH SMALL LETTER Z
1F3 LATIN |SMALL LETTER DZ,CAPITAL LETTER G WITH ACUTE,SMALL LETTER G WITH ACUTE
1F6 LATIN CAPITAL LETTER |HWAIR,WYNN,N WITH GRAVE
1F9 LATIN |SMALL LETTER N WITH GRAVE,CAPITAL LETTER A WITH RING ABOVE AND ACUTE
1FB LATIN |SMALL LETTER A WITH RING ABOVE AND ACUTE,CAPITAL LETTER AE WITH ACUTE
1FD LATIN |SMALL LETTER AE WITH ACUTE,CAPITAL LETTER O WITH STROKE AND ACUTE,SMALL LETTER O WITH STROKE AND ACUTE
200 LATIN |CAPITAL LETTER A WITH DOUBLE GRAVE,SMALL LETTER A WITH DOUBLE GRAVE,CAPITAL LETTER A WITH INVERTED BREVE
203 LATIN |SMALL LETTER A WITH INVERTED BREVE,CAPITAL LETTER E WITH DOUBLE GRAVE
205 LATIN |SMALL LETTER E WITH DOUBLE GRAVE,CAPITAL LETTER E WITH INVERTED BREVE,SMALL LETTER E WITH INVERTED BREVE
208 LATIN |CAPITAL LETTER I WITH DOUBLE GRAVE,SMALL LETTER I WITH DOUBLE GRAVE,CAPITAL LETTER I WITH INVERTED BREVE
20B LATIN |SMALL LETTER I WITH INVERTED BREVE,CAPITAL LETTER O WITH DOUBLE GRAVE
20D LATIN |SMALL LETTER O WITH DOUBLE GRAVE,CAPITAL LETTER O WITH INVERTED BREVE,SMALL LETTER O WITH INVERTED BREVE
210 LATIN |CAPITAL LETTER R WITH DOUBLE GRAVE,SMALL LETTER R WITH DOUBLE GRAVE,CAPITAL LETTER R WITH INVERTED BREVE
213 LATIN |SMALL LETTER R WITH INVERTED BREVE,CAPITAL LETTER U WITH DOUBLE GRAVE
215 LATIN |SMALL LETTER U WITH DOUBLE GRAVE,CAPITAL LETTER U WITH INVERTED BREVE,SMALL LETTER U WITH INVERTED BREVE
218 LATIN |CAPITAL LETTER S WITH COMMA BELOW,SMALL LETTER S WITH COMMA BELOW,CAPITAL LETTER T WITH COMMA BELOW
21B LATIN |SMALL LETTER T WITH COMMA BELOW,CAPITAL LETTER YOGH,SMALL LETTER YOGH,CAPITAL LETTER H WITH CARON
21F LATIN |SMALL LETTER H WITH CARON,CAPITAL LETTER N WITH LONG RIGHT LEG,SMALL LETTER D WITH CURL,CAPITAL LETTER OU
223 LATIN |SMALL LETTER OU,CAPITAL LETTER Z WITH HOOK,SMALL LETTER Z WITH HOOK,CAPITAL LETTER A WITH DOT ABOVE
227 LATIN |SMALL LETTER A WITH DOT ABOVE,CAPITAL LETTER E WITH CEDILLA,SMALL LETTER E WITH CEDILLA
22A LATIN |CAPITAL LETTER O WITH DIAERESIS AND MACRON,SMALL LETTER O WITH DIAERESIS AND MACRON
22C LATIN |CAPITAL LETTER O WITH TILDE AND MACRON,SMALL LETTER O WITH TILDE AND MACRON
22E LATIN |CAPITAL LETTER O WITH DOT ABOVE,SMALL LETTER O WITH DOT ABOVE,CAPITAL LETTER O WITH DOT ABOVE AND MACRON
231 LATIN |SMALL LETTER O WITH DOT ABOVE AND MACRON,CAPITAL LETTER Y WITH MACRON
233 LATIN SMALL LETTER |Y WITH MACRON,L WITH CURL,N WITH CURL,T WITH CURL,DOTLESS J,DB DIGRAPH,QP DIGRAPH
23A LATIN CAPITAL LETTER |A WITH STROKE,C WITH STROKE
23C LATIN SMALL LETTER C WITH |STROKE
23D LATIN CAPITAL LETTER |L WITH BAR,T WITH DIAGONAL STROKE
23F LATIN SMALL LETTER |S WITH SWASH TAIL,Z WITH SWASH TAIL
241 LATIN |CAPITAL LETTER GLOTTAL STOP,SMALL LETTER GLOTTAL STOP
243 LATIN CAPITAL LETTER |B WITH STROKE,U BAR,TURNED V,E WITH STROKE
247 LATIN |SMALL LETTER E WITH STROKE,CAPITAL LETTER J WITH STROKE
249 LATIN |SMALL LETTER J WITH STROKE,CAPITAL LETTER SMALL Q WITH HOOK TAIL,SMALL LETTER Q WITH HOOK TAIL
24C LATIN |CAPITAL LETTER R WITH STROKE,SMALL LETTER R WITH STROKE,CAPITAL LETTER Y WITH STROKE
24F LATIN SMALL LETTER |Y WITH STROKE,TURNED A,ALPHA,TURNED ALPHA,B WITH HOOK,OPEN O
255 LATIN SMALL LETTER |C WITH CURL,D WITH TAIL,D WITH HOOK,REVERSED E,SCHWA,SCHWA WITH HOOK,OPEN E,REVERSED OPEN E
25D LATIN SMALL LETTER |REVERSED OPEN E WITH HOOK,CLOSED REVERSED OPEN E,DOTLESS J WITH STROKE,G WITH HOOK,SCRIPT G
262 LATIN LETTER SMALL CAPITAL |G
263 LATIN SMALL LETTER |GAMMA,RAMS HORN,TURNED H,H WITH HOOK,HENG WITH HOOK,I WITH STROKE,IOTA
26A LATIN LETTER SMALL CAPITAL |I
26B LATIN SMALL LETTER L WITH |MIDDLE TILDE,BELT,RETROFLEX HOOK
26E LATIN SMALL LETTER |LEZH,TURNED M,TURNED M WITH LONG LEG,M WITH HOOK,N WITH LEFT HOOK,N WITH RETROFLEX HOOK
274 LATIN |LETTER SMALL CAPITAL N,SMALL LETTER BARRED O,LETTER SMALL CAPITAL OE
277 LATIN SMALL LETTER |CLOSED OMEGA,PHI,TURNED R,TURNED R WITH LONG LEG
27B LATIN SMALL LETTER |TURNED R WITH HOOK,R WITH LONG LEG,R WITH TAIL,R WITH FISHHOOK,REVERSED R WITH FISHHOOK
280 LATIN LETTER SMALL CAPITAL |R,INVERTED R
282 LATIN SMALL LETTER |S WITH HOOK,ESH,DOTLESS J WITH STROKE AND HOOK,SQUAT REVERSED ESH,ESH WITH CURL
287 LATIN SMALL LETTER |TURNED T,T WITH RETROFLEX HOOK,U BAR,UPSILON,V WITH HOOK,TURNED V,TURNED W,TURNED Y
28F LATIN LETTER SMALL CAPITAL |Y
290 LATIN SMALL LETTER |Z WITH RETROFLEX HOOK,Z WITH CURL,EZH,EZH WITH CURL
294 LATIN LETTER |GLOTTAL STOP,PHARYNGEAL VOICED FRICATIVE,INVERTED GLOTTAL STOP,STRETCHED C,BILABIAL CLICK
299 LATIN |LETTER SMALL CAPITAL B,SMALL LETTER CLOSED OPEN E
29B LATIN LETTER SMALL CAPITAL |G WITH HOOK,H
29D LATIN SMALL LETTER |J WITH CROSSED-TAIL,TURNED K
29F LATIN |LETTER SMALL CAPITAL L,SMALL LETTER Q WITH HOOK
2A1 LATIN LETTER |GLOTTAL STOP WITH STROKE,REVERSED GLOTTAL STOP WITH STROKE
2A3 LATIN SMALL LETTER |DZ DIGRAPH,DEZH DIGRAPH,DZ DIGRAPH WITH CURL
2A6 LATIN SMALL LETTER |TS DIGRAPH,TESH DIGRAPH,TC DIGRAPH WITH CURL,FENG DIGRAPH,LS DIGRAPH,LZ DIGRAPH
2AC LATIN LETTER |BILABIAL PERCUSSIVE,BIDENTAL PERCUSSIVE
2AE LATIN SMALL LETTER TURNED H WITH |FISHHOOK,FISHHOOK AND TAIL
2B0 MODIFIER LETTER SMALL |H,H WITH HOOK,J,R,TURNED R,TURNED R WITH HOOK,CAPITAL INVERTED R,W,Y
2B9 MODIFIER LETTER |PRIME,DOUBLE PRIME,TURNED COMMA,APOSTROPHE,REVERSED COMMA,RIGHT HALF RING,LEFT HALF RING
2C0 MODIFIER LETTER |GLOTTAL STOP,REVERSED GLOTTAL STOP,LEFT ARROWHEAD,RIGHT ARROWHEAD,UP ARROWHEAD,DOWN ARROWHEAD
2C6 |MODIFIER LETTER CIRCUMFLEX ACCENT,CARON
2C8 MODIFIER LETTER |VERTICAL LINE,MACRON,ACUTE ACCENT,GRAVE ACCENT,LOW VERTICAL LINE
2CD MODIFIER LETTER |LOW MACRON,LOW GRAVE ACCENT,LOW ACUTE ACCENT,TRIANGULAR COLON,HALF TRIANGULAR COLON
2D2 MODIFIER LETTER |CENTRED RIGHT HALF RING,CENTRED LEFT HALF RING,UP TACK,DOWN TACK,PLUS SIGN,MINUS SIGN
2D8 |BREVE,DOT ABOVE,RING ABOVE,OGONEK,SMALL TILDE,DOUBLE ACUTE ACCENT
2DE MODIFIER LETTER |RHOTIC HOOK,CROSS ACCENT
2E0 MODIFIER LETTER SMALL |GAMMA,L,S,X,REVERSED GLOTTAL STOP
2E5 MODIFIER LETTER |EXTRA-HIGH TONE BAR,HIGH TONE BAR,MID TONE BAR,LOW TONE BAR,EXTRA-LOW TONE BAR
2EA MODIFIER LETTER |YIN DEPARTING TONE MARK,YANG DEPARTING TONE MARK,VOICING,UNASPIRATED,DOUBLE APOSTROPHE
2EF MODIFIER LETTER LOW |DOWN ARROWHEAD,UP ARROWHEAD,LEFT ARROWHEAD,RIGHT ARROWHEAD,RING
2F4 MODIFIER LETTER MIDDLE |GRAVE ACCENT,DOUBLE GRAVE ACCENT,DOUBLE ACUTE ACCENT
2F7 MODIFIER LETTER |LOW TILDE,RAISED COLON
2F9 MODIFIER LETTER |BEGIN HIGH TONE,END HIGH TONE,BEGIN LOW TONE,END LOW TONE,SHELF,OPEN SHELF,LOW LEFT ARROW
300 COMBINING |GRAVE ACCENT,ACUTE ACCENT,CIRCUMFLEX ACCENT,TILDE,MACRON,OVERLINE,BREVE,DOT ABOVE,DIAERESIS
309 COMBINING |HOOK ABOVE,RING ABOVE,DOUBLE ACUTE ACCENT,CARON,VERTICAL LINE ABOVE,DOUBLE VERTICAL LINE ABOVE
30F COMBINING |DOUBLE GRAVE ACCENT,CANDRABINDU,INVERTED BREVE,TURNED COMMA ABOVE,COMMA ABOVE,REVERSED COMMA ABOVE
315 COMBINING |COMMA ABOVE RIGHT,GRAVE ACCENT BELOW,ACUTE ACCENT BELOW,LEFT TACK BELOW,RIGHT TACK BELOW
31A COMBINING |LEFT ANGLE ABOVE,HORN,LEFT HALF RING BELOW,UP TACK BELOW,DOWN TACK BELOW,PLUS SIGN BELOW
320 COMBINING |MINUS SIGN BELOW,PALATALIZED HOOK BELOW,RETROFLEX HOOK BELOW,DOT BELOW,DIAERESIS BELOW
325 COMBINING |RING BELOW,COMMA BELOW,CEDILLA,OGONEK,VERTICAL LINE BELOW,BRIDGE BELOW,INVERTED DOUBLE ARCH BELOW
32C COMBINING |CARON BELOW,CIRCUMFLEX ACCENT BELOW,BREVE BELOW,INVERTED BREVE BELOW,TILDE BELOW
331 COMBINING |MACRON BELOW,LOW LINE,DOUBLE LOW LINE,TILDE OVERLAY,SHORT STROKE OVERLAY,LONG STROKE OVERLAY
337 COMBINING |SHORT SOLIDUS OVERLAY,LONG SOLIDUS OVERLAY,RIGHT HALF RING BELOW,INVERTED BRIDGE BELOW
33B COMBINING |SQUARE BELOW,SEAGULL BELOW,X ABOVE,VERTICAL TILDE,DOUBLE OVERLINE,GRAVE TONE MARK,ACUTE TONE MARK
342 COMBINING GREEK |PERISPOMENI,KORONIS,DIALYTIKA TONOS,YPOGEGRAMMENI
346 COMBINING |BRIDGE ABOVE,EQUALS SIGN BELOW,DOUBLE VERTICAL LINE BELOW,LEFT ANGLE BELOW
34A COMBINING |NOT TILDE ABOVE,HOMOTHETIC ABOVE,ALMOST EQUAL TO ABOVE,LEFT RIGHT ARROW BELOW,UPWARDS ARROW BELOW
34F COMBINING |GRAPHEME JOINER,RIGHT ARROWHEAD ABOVE,LEFT HALF RING ABOVE,FERMATA,X BELOW,LEFT ARROWHEAD BELOW
355 COMBINING RIGHT ARROWHEAD |BELOW,AND UP ARROWHEAD BELOW
357 COMBINING |RIGHT HALF RING ABOVE,DOT ABOVE RIGHT,ASTERISK BELOW,DOUBLE RING BELOW,ZIGZAG ABOVE
35C COMBINING DOUBLE |BREVE BELOW,BREVE,MACRON,MACRON BELOW,TILDE,INVERTED BREVE,RIGHTWARDS ARROW BELOW
363 COMBINING LATIN SMALL LETTER |A,E,I,O,U,C,D,H,M,R,T,V,X
1E00 LATIN |CAPITAL LETTER A WITH RING BELOW,SMALL LETTER A WITH RING BELOW
1E02 LATIN |CAPITAL LETTER B WITH DOT ABOVE,SMALL LETTER B WITH DOT ABOVE,CAPITAL LETTER B WITH DOT BELOW
1E05 LATIN |SMALL LETTER B WITH DOT BELOW,CAPITAL LETTER B WITH LINE BELOW,SMALL LETTER B WITH LINE BELOW
1E08 LATIN |CAPITAL LETTER C WITH CEDILLA AND ACUTE,SMALL LETTER C WITH CEDILLA AND ACUTE
1E0A LATIN |CAPITAL LETTER D WITH DOT ABOVE,SMALL LETTER D WITH DOT ABOVE,CAPITAL LETTER D WITH DOT BELOW
1E0D LATIN |SMALL LETTER D WITH DOT BELOW,CAPITAL LETTER D WITH LINE BELOW,SMALL LETTER D WITH LINE BELOW
1E10 LATIN |CAPITAL LETTER D WITH CEDILLA,SMALL LETTER D WITH CEDILLA,CAPITAL LETTER D WITH CIRCUMFLEX BELOW
1E13 LATIN |SMALL LETTER D WITH CIRCUMFLEX BELOW,CAPITAL LETTER E WITH MACRON AND GRAVE
1E15 LATIN |SMALL LETTER E WITH MACRON AND GRAVE,CAPITAL LETTER E WITH MACRON AND ACUTE
1E17 LATIN |SMALL LETTER E WITH MACRON AND ACUTE,CAPITAL LETTER E WITH CIRCUMFLEX BELOW
1E19 LATIN |SMALL LETTER E WITH CIRCUMFLEX BELOW,CAPITAL LETTER E WITH TILDE BELOW
1E1B LATIN |SMALL LETTER E WITH TILDE BELOW,CAPITAL LETTER E WITH CEDILLA AND BREVE
1E1D LATIN |SMALL LETTER E WITH CEDILLA AND BREVE,CAPITAL LETTER F WITH DOT ABOVE
1E1F LATIN |SMALL LETTER F WITH DOT ABOVE,CAPITAL LETTER G WITH MACRON,SMALL LETTER G WITH MACRON
1E22 LATIN |CAPITAL LETTER H WITH DOT ABOVE,SMALL LETTER H WITH DOT ABOVE,CAPITAL LETTER H WITH DOT BELOW
1E25 LATIN |SMALL LETTER H WITH DOT BELOW,CAPITAL LETTER H WITH DIAERESIS,SMALL LETTER H WITH DIAERESIS
1E28 LATIN |CAPITAL LETTER H WITH CEDILLA,SMALL LETTER H WITH CEDILLA,CAPITAL LETTER H WITH BREVE BELOW
1E2B LATIN |SMALL LETTER H WITH BREVE BELOW,CAPITAL LETTER I WITH TILDE BELOW,SMALL LETTER I WITH TILDE BELOW
1E2E LATIN |CAPITAL LETTER I WITH DIAERESIS AND ACUTE,SMALL LETTER I WITH DIAERESIS AND ACUTE
1E30 LATIN |CAPITAL LETTER K WITH ACUTE,SMALL LETTER K WITH ACUTE,CAPITAL LETTER K WITH DOT BELOW
1E33 LATIN |SMALL LETTER K WITH DOT BELOW,CAPITAL LETTER K WITH LINE BELOW,SMALL LETTER K WITH LINE BELOW
1E36 LATIN |CAPITAL LETTER L WITH DOT BELOW,SMALL LETTER L WITH DOT BELOW,CAPITAL LETTER L WITH DOT BELOW AND MACRON
1E39 LATIN |SMALL LETTER L WITH DOT BELOW AND MACRON,CAPITAL LETTER L WITH LINE BELOW,SMALL LETTER L WITH LINE BELOW
1E3C LATIN |CAPITAL LETTER L WITH CIRCUMFLEX BELOW,SMALL LETTER L WITH CIRCUMFLEX BELOW,CAPITAL LETTER M WITH ACUTE
1E3F LATIN |SMALL LETTER M WITH ACUTE,CAPITAL LETTER M WITH DOT ABOVE,SMALL LETTER M WITH DOT ABOVE
1E42 LATIN |CAPITAL LETTER M WITH DOT BELOW,SMALL LETTER M WITH DOT BELOW,CAPITAL LETTER N WITH DOT ABOVE
1E45 LATIN |SMALL LETTER N WITH DOT ABOVE,CAPITAL LETTER N WITH DOT BELOW,SMALL LETTER N WITH DOT BELOW
1E48 LATIN |CAPITAL LETTER N WITH LINE BELOW,SMALL LETTER N WITH LINE BELOW,CAPITAL LETTER N WITH CIRCUMFLEX BELOW
1E4B LATIN |SMALL LETTER N WITH CIRCUMFLEX BELOW,CAPITAL LETTER O WITH TILDE AND ACUTE
1E4D LATIN |SMALL LETTER O WITH TILDE AND ACUTE,CAPITAL LETTER O WITH TILDE AND DIAERESIS
1E4F LATIN |SMALL LETTER O WITH TILDE AND DIAERESIS,CAPITAL LETTER O WITH MACRON AND GRAVE
1E51 LATIN |SMALL LETTER O WITH MACRON AND GRAVE,CAPITAL LETTER O WITH MACRON AND ACUTE
1E53 LATIN |SMALL LETTER O WITH MACRON AND ACUTE,CAPITAL LETTER P WITH ACUTE,SMALL LETTER P WITH ACUTE
1E56 LATIN |CAPITAL LETTER P WITH DOT ABOVE,SMALL LETTER P WITH DOT ABOVE,CAPITAL LETTER R WITH DOT ABOVE
1E59 LATIN |SMALL LETTER R WITH DOT ABOVE,CAPITAL LETTER R WITH DOT BELOW,SMALL LETTER R WITH DOT BELOW
1E5C LATIN |CAPITAL LETTER R WITH DOT BELOW AND MACRON,SMALL LETTER R WITH DOT BELOW AND MACRON
1E5E LATIN |CAPITAL LETTER R WITH LINE BELOW,SMALL LETTER R WITH LINE BELOW,CAPITAL LETTER S WITH DOT ABOVE
1E61 LATIN |SMALL LETTER S WITH DOT ABOVE,CAPITAL LETTER S WITH DOT BELOW,SMALL LETTER S WITH DOT BELOW
1E64 LATIN |CAPITAL LETTER S WITH ACUTE AND DOT ABOVE,SMALL LETTER S WITH ACUTE AND DOT ABOVE
1E66 LATIN |CAPITAL LETTER S WITH CARON AND DOT ABOVE,SMALL LETTER S WITH CARON AND DOT ABOVE
1E68 LATIN |CAPITAL LETTER S WITH DOT BELOW AND DOT ABOVE,SMALL LETTER S WITH DOT BELOW AND DOT ABOVE
1E6A LATIN |CAPITAL LETTER T WITH DOT ABOVE,SMALL LETTER T WITH DOT ABOVE,CAPITAL LETTER T WITH DOT BELOW
1E6D LATIN |SMALL LETTER T WITH DOT BELOW,CAPITAL LETTER T WITH LINE BELOW,SMALL LETTER T WITH LINE BELOW
1E70 LATIN |CAPITAL LETTER T WITH CIRCUMFLEX BELOW,SMALL LETTER T WITH CIRCUMFLEX BELOW
1E72 LATIN |CAPITAL LETTER U WITH DIAERESIS BELOW,SMALL LETTER U WITH DIAERESIS BELOW
1E74 LATIN |CAPITAL LETTER U WITH TILDE BELOW,SMALL LETTER U WITH TILDE BELOW,CAPITAL LETTER U WITH CIRCUMFLEX BELOW
1E77 LATIN |SMALL LETTER U WITH CIRCUMFLEX BELOW,CAPITAL LETTER U WITH TILDE AND ACUTE
1E79 LATIN |SMALL LETTER U WITH TILDE AND ACUTE,CAPITAL LETTER U WITH MACRON AND DIAERESIS
1E7B LATIN |SMALL LETTER U WITH MACRON AND DIAERESIS,CAPITAL LETTER V WITH TILDE
1E7D LATIN |SMALL LETTER V WITH TILDE,CAPITAL LETTER V WITH DOT BELOW,SMALL LETTER V WITH DOT BELOW
1E80 LATIN |CAPITAL LETTER W WITH GRAVE,SMALL LETTER W WITH GRAVE,CAPITAL LETTER W WITH ACUTE
1E83 LATIN |SMALL LETTER W WITH ACUTE,CAPITAL LETTER W WITH DIAERESIS,SMALL LETTER W WITH DIAERESIS
1E86 LATIN |CAPITAL LETTER W WITH DOT ABOVE,SMALL LETTER W WITH DOT ABOVE,CAPITAL LETTER W WITH DOT BELOW
1E89 LATIN |SMALL LETTER W WITH DOT BELOW,CAPITAL LETTER X WITH DOT ABOVE,SMALL LETTER X WITH DOT ABOVE
1E8C LATIN |CAPITAL LETTER X WITH DIAERESIS,SMALL LETTER X WITH DIAERESIS,CAPITAL LETTER Y WITH DOT ABOVE
1E8F LATIN |SMALL LETTER Y WITH DOT ABOVE,CAPITAL LETTER Z WITH CIRCUMFLEX,SMALL LETTER Z WITH CIRCUMFLEX
1E92 LATIN |CAPITAL LETTER Z WITH DOT BELOW,SMALL LETTER Z WITH DOT BELOW,CAPITAL LETTER Z WITH LINE BELOW
1E95 LATIN SMALL LETTER |Z WITH LINE BELOW,H WITH LINE BELOW
1E97 LATIN SMALL LETTER |T WITH DIAERESIS,W WITH RING ABOVE,Y WITH RING ABOVE,A WITH RIGHT HALF RING
1E9B LATIN SMALL LETTER LONG S WITH |DOT ABOVE,DIAGONAL STROKE,HIGH STROKE
1E9E LATIN |CAPITAL LETTER SHARP S,SMALL LETTER DELTA
1EA0 LATIN |CAPITAL LETTER A WITH DOT BELOW,SMALL LETTER A WITH DOT BELOW,CAPITAL LETTER A WITH HOOK ABOVE
1EA3 LATIN |SMALL LETTER A WITH HOOK ABOVE,CAPITAL LETTER A WITH CIRCUMFLEX AND ACUTE
1EA5 LATIN |SMALL LETTER A WITH CIRCUMFLEX AND ACUTE,CAPITAL LETTER A WITH CIRCUMFLEX AND GRAVE
1EA7 LATIN |SMALL LETTER A WITH CIRCUMFLEX AND GRAVE,CAPITAL LETTER A WITH CIRCUMFLEX AND HOOK ABOVE
1EA9 LATIN |SMALL LETTER A WITH CIRCUMFLEX AND HOOK ABOVE,CAPITAL LETTER A WITH CIRCUMFLEX AND TILDE
1EAB LATIN |SMALL LETTER A WITH CIRCUMFLEX AND TILDE,CAPITAL LETTER A WITH CIRCUMFLEX AND DOT BELOW
1EAD LATIN |SMALL LETTER A WITH CIRCUMFLEX AND DOT BELOW,CAPITAL LETTER A WITH BREVE AND ACUTE
1EAF LATIN |SMALL LETTER A WITH BREVE AND ACUTE,CAPITAL LETTER A WITH BREVE AND GRAVE
1EB1 LATIN |SMALL LETTER A WITH BREVE AND GRAVE,CAPITAL LETTER A WITH BREVE AND HOOK ABOVE
1EB3 LATIN |SMALL LETTER A WITH BREVE AND HOOK ABOVE,CAPITAL LETTER A WITH BREVE AND TILDE
1EB5 LATIN |SMALL LETTER A WITH BREVE AND TILDE,CAPITAL LETTER A WITH BREVE AND DOT BELOW
1EB7 LATIN |SMALL LETTER A WITH BREVE AND DOT BELOW,CAPITAL LETTER E WITH DOT BELOW
1EB9 LATIN |SMALL LETTER E WITH DOT BELOW,CAPITAL LETTER E WITH HOOK ABOVE,SMALL LETTER E WITH HOOK ABOVE
1EBC LATIN |CAPITAL LETTER E WITH TILDE,SMALL LETTER E WITH TILDE,CAPITAL LETTER E WITH CIRCUMFLEX AND ACUTE
1EBF LATIN |SMALL LETTER E WITH CIRCUMFLEX AND ACUTE,CAPITAL LETTER E WITH CIRCUMFLEX AND GRAVE
1EC1 LATIN |SMALL LETTER E WITH CIRCUMFLEX AND GRAVE,CAPITAL LETTER E WITH CIRCUMFLEX AND HOOK ABOVE
1EC3 LATIN |SMALL LETTER E WITH CIRCUMFLEX AND HOOK ABOVE,CAPITAL LETTER E WITH CIRCUMFLEX AND TILDE
1EC5 LATIN |SMALL LETTER E WITH CIRCUMFLEX AND TILDE,CAPITAL LETTER E WITH CIRCUMFLEX AND DOT BELOW
1EC7 LATIN |SMALL LETTER E WITH CIRCUMFLEX AND DOT BELOW,CAPITAL LETTER I WITH HOOK ABOVE
1EC9 LATIN |SMALL LETTER I WITH HOOK ABOVE,CAPITAL LETTER I WITH DOT BELOW,SMALL LETTER I WITH DOT BELOW
1ECC LATIN |CAPITAL LETTER O WITH DOT BELOW,SMALL LETTER O WITH DOT BELOW,CAPITAL LETTER O WITH HOOK ABOVE
1ECF LATIN |SMALL LETTER O WITH HOOK ABOVE,CAPITAL LETTER O WITH CIRCUMFLEX AND ACUTE
1ED1 LATIN |SMALL LETTER O WITH CIRCUMFLEX AND ACUTE,CAPITAL LETTER O WITH CIRCUMFLEX AND GRAVE
1ED3 LATIN |SMALL LETTER O WITH CIRCUMFLEX AND GRAVE,CAPITAL LETTER O WITH CIRCUMFLEX AND HOOK ABOVE
1ED5 LATIN |SMALL LETTER O WITH CIRCUMFLEX AND HOOK ABOVE,CAPITAL LETTER O WITH CIRCUMFLEX AND TILDE
1ED7 LATIN |SMALL LETTER O WITH CIRCUMFLEX AND TILDE,CAPITAL LETTER O WITH CIRCUMFLEX AND DOT BELOW
1ED9 LATIN |SMALL LETTER O WITH CIRCUMFLEX AND DOT BELOW,CAPITAL LETTER O WITH HORN AND ACUTE
1EDB LATIN |SMALL LETTER O WITH HORN AND ACUTE,CAPITAL LETTER O WITH HORN AND GRAVE
1EDD LATIN |SMALL LETTER O WITH HORN AND GRAVE,CAPITAL LETTER O WITH HORN AND HOOK ABOVE
1EDF LATIN |SMALL LETTER O WITH HORN AND HOOK ABOVE,CAPITAL LETTER O WITH HORN AND TILDE
1EE1 LATIN |SMALL LETTER O WITH HORN AND TILDE,CAPITAL LETTER O WITH HORN AND DOT BELOW
1EE3 LATIN |SMALL LETTER O WITH HORN AND DOT BELOW,CAPITAL LETTER U WITH DOT BELOW,SMALL LETTER U WITH DOT BELOW
1EE6 LATIN |CAPITAL LETTER U WITH HOOK ABOVE,SMALL LETTER U WITH HOOK ABOVE,CAPITAL LETTER U WITH HORN AND ACUTE
1EE9 LATIN |SMALL LETTER U WITH HORN AND ACUTE,CAPITAL LETTER U WITH HORN AND GRAVE
1EEB LATIN |SMALL LETTER U WITH HORN AND GRAVE,CAPITAL LETTER U WITH HORN AND HOOK ABOVE
1EED LATIN |SMALL LETTER U WITH HORN AND HOOK ABOVE,CAPITAL LETTER U WITH HORN AND TILDE
1EEF LATIN |SMALL LETTER U WITH HORN AND TILDE,CAPITAL LETTER U WITH HORN AND DOT BELOW
1EF1 LATIN |SMALL LETTER U WITH HORN AND DOT BELOW,CAPITAL LETTER Y WITH GRAVE,SMALL LETTER Y WITH GRAVE
1EF4 LATIN |CAPITAL LETTER Y WITH DOT BELOW,SMALL LETTER Y WITH DOT BELOW,CAPITAL LETTER Y WITH HOOK ABOVE
1EF7 LATIN |SMALL LETTER Y WITH HOOK ABOVE,CAPITAL LETTER Y WITH TILDE,SMALL LETTER Y WITH TILDE
1EFA LATIN |CAPITAL LETTER MIDDLE-WELSH LL,SMALL LETTER MIDDLE-WELSH LL,CAPITAL LETTER MIDDLE-WELSH V
1EFD LATIN |SMALL LETTER MIDDLE-WELSH V,CAPITAL LETTER Y WITH LOOP,SMALL LETTER Y WITH LOOP
FB00 LATIN SMALL LIGATURE |FF,FI,FL,FFI,FFL,LONG S T,ST"

def greek : String := "
370 GREEK |CAPITAL LETTER HETA,SMALL LETTER HETA,CAPITAL LETTER ARCHAIC SAMPI,SMALL LETTER ARCHAIC SAMPI
374 GREEK |NUMERAL SIGN,LOWER NUMERAL SIGN,CAPITAL LETTER PAMPHYLIAN DIGAMMA,SMALL LETTER PAMPHYLIAN DIGAMMA
37A GREEK |YPOGEGRAMMENI,SMALL REVERSED LUNATE SIGMA SYMBOL,SMALL DOTTED LUNATE SIGMA SYMBOL
37D GREEK |SMALL REVERSED DOTTED LUNATE SIGMA SYMBOL,QUESTION MARK,CAPITAL LETTER YOT
384 GREEK |TONOS,DIALYTIKA TONOS,CAPITAL LETTER ALPHA WITH TONOS,ANO TELEIA
388 GREEK CAPITAL LETTER |EPSILON WITH TONOS,ETA WITH TONOS,IOTA WITH TONOS
38C GREEK CAPITAL LETTER OMICRON WITH |TONOS
38E GREEK CAPITAL LETTER |UPSILON WITH TONOS,OMEGA WITH TONOS
390 GREEK SMALL LETTER IOTA WITH DIALYTIKA AND |TONOS
391 GREEK CAPITAL LETTER |ALPHA,BETA,GAMMA,DELTA,EPSILON,ZETA,ETA,THETA,IOTA,KAPPA,LAMDA,MU,NU,XI,OMICRON,PI,RHO
3A3 GREEK CAPITAL LETTER |SIGMA,TAU,UPSILON,PHI,CHI,PSI,OMEGA,IOTA WITH DIALYTIKA,UPSILON WITH DIALYTIKA
3AC GREEK SMALL LETTER |ALPHA WITH TONOS,EPSILON WITH TONOS,ETA WITH TONOS
3AF GREEK SMALL LETTER |IOTA WITH TONOS,UPSILON WITH DIALYTIKA AND TONOS,ALPHA,BETA,GAMMA,DELTA,EPSILON,ZETA
3B7 GREEK SMALL LETTER |ETA,THETA,IOTA,KAPPA,LAMDA,MU,NU,XI,OMICRON,PI,RHO,FINAL SIGMA,SIGMA,TAU,UPSILON,PHI,CHI
3C8 GREEK SMALL LETTER |PSI,OMEGA,IOTA WITH DIALYTIKA,UPSILON WITH DIALYTIKA,OMICRON WITH TONOS,UPSILON WITH TONOS
3CE GREEK |SMALL LETTER OMEGA WITH TONOS,CAPITAL KAI SYMBOL,BETA SYMBOL,THETA SYMBOL
3D2 GREEK UPSILON WITH |HOOK SYMBOL,ACUTE AND HOOK SYMBOL,DIAERESIS AND HOOK SYMBOL
3D5 GREEK PHI |SYMBOL
3D6 GREEK |PI SYMBOL,KAI SYMBOL,LETTER ARCHAIC KOPPA,SMALL LETTER ARCHAIC KOPPA,LETTER STIGMA,SMALL LETTER STIGMA
3DC GREEK |LETTER DIGAMMA,SMALL LETTER DIGAMMA,LETTER KOPPA,SMALL LETTER KOPPA,LETTER SAMPI,SMALL LETTER SAMPI
3E2 COPTIC |CAPITAL LETTER SHEI,SMALL LETTER SHEI,CAPITAL LETTER FEI,SMALL LETTER FEI
3E6 COPTIC |CAPITAL LETTER KHEI,SMALL LETTER KHEI,CAPITAL LETTER HORI,SMALL LETTER HORI,CAPITAL LETTER GANGIA
3EB COPTIC |SMALL LETTER GANGIA,CAPITAL LETTER SHIMA,SMALL LETTER SHIMA,CAPITAL LETTER DEI,SMALL LETTER DEI
3F0 GREEK |KAPPA SYMBOL,RHO SYMBOL,LUNATE SIGMA SYMBOL
3F3 GREEK |LETTER YOT,CAPITAL THETA SYMBOL,LUNATE EPSILON SYMBOL,REVERSED LUNATE EPSILON SYMBOL,CAPITAL LETTER SHO
3F8 GREEK |SMALL LETTER SHO,CAPITAL LUNATE SIGMA SYMBOL,CAPITAL LETTER SAN,SMALL LETTER SAN,RHO WITH STROKE SYMBOL
3FD GREEK CAPITAL |REVERSED LUNATE SIGMA SYMBOL,DOTTED LUNATE SIGMA SYMBOL,REVERSED DOTTED LUNATE SIGMA SYMBOL
1F00 GREEK SMALL LETTER ALPHA WITH |PSILI,DASIA,PSILI AND VARIA,DASIA AND VARIA
1F04 GREEK SMALL LETTER ALPHA WITH |PSILI AND OXIA,DASIA AND OXIA,PSILI AND PERISPOMENI,DASIA AND PERISPOMENI
1F08 GREEK CAPITAL LETTER ALPHA WITH |PSILI,DASIA,PSILI AND VARIA,DASIA AND VARIA
1F0C GREEK CAPITAL LETTER ALPHA WITH |PSILI AND OXIA,DASIA AND OXIA,PSILI AND PERISPOMENI,DASIA AND PERISPOMENI
1F10 GREEK SMALL LETTER EPSILON WITH |PSILI,DASIA,PSILI AND VARIA,DASIA AND VARIA,PSILI AND OXIA,DASIA AND OXIA
1F18 GREEK CAPITAL LETTER EPSILON WITH |PSILI,DASIA,PSILI AND VARIA,DASIA AND VARIA,PSILI AND OXIA,DASIA AND OXIA
1F20 GREEK SMALL LETTER ETA WITH |PSILI,DASIA,PSILI AND VARIA,DASIA AND VARIA
1F24 GREEK SMALL LETTER ETA WITH |PSILI AND OXIA,DASIA AND OXIA,PSILI AND PERISPOMENI,DASIA AND PERISPOMENI
1F28 GREEK CAPITAL LETTER ETA WITH |PSILI,DASIA,PSILI AND VARIA,DASIA AND VARIA
1F2C GREEK CAPITAL LETTER ETA WITH |PSILI AND OXIA,DASIA AND OXIA,PSILI AND PERISPOMENI,DASIA AND PERISPOMENI
1F30 GREEK SMALL LETTER IOTA WITH |PSILI,DASIA,PSILI AND VARIA,DASIA AND VARIA
1F34 GREEK SMALL LETTER IOTA WITH |PSILI AND OXIA,DASIA AND OXIA,PSILI AND PERISPOMENI,DASIA AND PERISPOMENI
1F38 GREEK CAPITAL LETTER IOTA WITH |PSILI,DASIA,PSILI AND VARIA,DASIA AND VARIA
1F3C GREEK CAPITAL LETTER IOTA WITH |PSILI AND OXIA,DASIA AND OXIA,PSILI AND PERISPOMENI,DASIA AND PERISPOMENI
1F40 GREEK SMALL LETTER OMICRON WITH |PSILI,DASIA,PSILI AND VARIA,DASIA AND VARIA,PSILI AND OXIA,DASIA AND OXIA
1F48 GREEK CAPITAL LETTER OMICRON WITH |PSILI,DASIA,PSILI AND VARIA,DASIA AND VARIA,PSILI AND OXIA,DASIA AND OXIA
1F50 GREEK SMALL LETTER UPSILON WITH |PSILI,DASIA,PSILI AND VARIA,DASIA AND VARIA
1F54 GREEK SMALL LETTER UPSILON WITH |PSILI AND OXIA,DASIA AND OXIA,PSILI AND PERISPOMENI,DASIA AND PERISPOMENI
1F59 GREEK CAPITAL LETTER UPSILON WITH |DASIA
1F5B GREEK CAPITAL LETTER UPSILON WITH DASIA AND |VARIA
1F5D GREEK CAPITAL LETTER UPSILON WITH DASIA AND |OXIA
1F5F GREEK CAPITAL LETTER UPSILON WITH DASIA AND |PERISPOMENI
1F60 GREEK SMALL LETTER OMEGA WITH |PSILI,DASIA,PSILI AND VARIA,DASIA AND VARIA
1F64 GREEK SMALL LETTER OMEGA WITH |PSILI AND OXIA,DASIA AND OXIA,PSILI AND PERISPOMENI,DASIA AND PERISPOMENI
1F68 GREEK CAPITAL LETTER OMEGA WITH |PSILI,DASIA,PSILI AND VARIA,DASIA AND VARIA
1F6C GREEK CAPITAL LETTER OMEGA WITH |PSILI AND OXIA,DASIA AND OXIA,PSILI AND PERISPOMENI,DASIA AND PERISPOMENI
1F70 GREEK SMALL LETTER |ALPHA WITH VARIA,ALPHA WITH OXIA,EPSILON WITH VARIA,EPSILON WITH OXIA
1F74 GREEK SMALL LETTER |ETA WITH VARIA,ETA WITH OXIA,IOTA WITH VARIA,IOTA WITH OXIA,OMICRON WITH VARIA
1F79 GREEK SMALL LETTER |OMICRON WITH OXIA,UPSILON WITH VARIA,UPSILON WITH OXIA,OMEGA WITH VARIA,OMEGA WITH OXIA
1F80 GREEK SMALL LETTER ALPHA WITH |PSILI AND YPOGEGRAMMENI,DASIA AND YPOGEGRAMMENI
1F82 GREEK SMALL LETTER ALPHA WITH |PSILI AND VARIA AND YPOGEGRAMMENI,DASIA AND VARIA AND YPOGEGRAMMENI
1F84 GREEK SMALL LETTER ALPHA WITH |PSILI AND OXIA AND YPOGEGRAMMENI,DASIA AND OXIA AND YPOGEGRAMMENI
1F86 GREEK SMALL LETTER ALPHA WITH |PSILI AND PERISPOMENI AND YPOGEGRAMMENI,DASIA AND PERISPOMENI AND YPOGEGRAMMENI
1F88 GREEK CAPITAL LETTER ALPHA WITH PSILI AND |PROSGEGRAMMENI
1F89 GREEK CAPITAL LETTER ALPHA WITH |DASIA AND PROSGEGRAMMENI,PSILI AND VARIA AND PROSGEGRAMMENI
1F8B GREEK CAPITAL LETTER ALPHA WITH |DASIA AND VARIA AND PROSGEGRAMMENI,PSILI AND OXIA AND PROSGEGRAMMENI
1F8D GREEK CAPITAL LETTER ALPHA WITH |DASIA AND OXIA AND PROSGEGRAMMENI,PSILI AND PERISPOMENI AND PROSGEGRAMMENI
1F8F GREEK CAPITAL LETTER ALPHA WITH DASIA AND PERISPOMENI AND |PROSGEGRAMMENI
1F90 GREEK SMALL LETTER ETA WITH |PSILI AND YPOGEGRAMMENI,DASIA AND YPOGEGRAMMENI
1F92 GREEK SMALL LETTER ETA WITH |PSILI AND VARIA AND YPOGEGRAMMENI,DASIA AND VARIA AND YPOGEGRAMMENI
1F94 GREEK SMALL LETTER ETA WITH |PSILI AND OXIA AND YPOGEGRAMMENI,DASIA AND OXIA AND YPOGEGRAMMENI
1F96 GREEK SMALL LETTER ETA WITH |PSILI AND PERISPOMENI AND YPOGEGRAMMENI,DASIA AND PERISPOMENI AND YPOGEGRAMMENI
1F98 GREEK CAPITAL LETTER ETA WITH PSILI AND |PROSGEGRAMMENI
1F99 GREEK CAPITAL LETTER ETA WITH |DASIA AND PROSGEGRAMMENI,PSILI AND VARIA AND PROSGEGRAMMENI
1F9B GREEK CAPITAL LETTER ETA WITH |DASIA AND VARIA AND PROSGEGRAMMENI,PSILI AND OXIA AND PROSGEGRAMMENI
1F9D GREEK CAPITAL LETTER ETA WITH |DASIA AND OXIA AND PROSGEGRAMMENI,PSILI AND PERISPOMENI AND PROSGEGRAMMENI
1F9F GREEK CAPITAL LETTER ETA WITH DASIA AND PERISPOMENI AND |PROSGEGRAMMENI
1FA0 GREEK SMALL LETTER OMEGA WITH |PSILI AND YPOGEGRAMMENI,DASIA AND YPOGEGRAMMENI
1FA2 GREEK SMALL LETTER OMEGA WITH |PSILI AND VARIA AND YPOGEGRAMMENI,DASIA AND VARIA AND YPOGEGRAMMENI
1FA4 GREEK SMALL LETTER OMEGA WITH |PSILI AND OXIA AND YPOGEGRAMMENI,DASIA AND OXIA AND YPOGEGRAMMENI
1FA6 GREEK SMALL LETTER OMEGA WITH |PSILI AND PERISPOMENI AND YPOGEGRAMMENI,DASIA AND PERISPOMENI AND YPOGEGRAMMENI
1FA8 GREEK CAPITAL LETTER OMEGA WITH PSILI AND |PROSGEGRAMMENI
1FA9 GREEK CAPITAL LETTER OMEGA WITH |DASIA AND PROSGEGRAMMENI,PSILI AND VARIA AND PROSGEGRAMMENI
1FAB GREEK CAPITAL LETTER OMEGA WITH |DASIA AND VARIA AND PROSGEGRAMMENI,PSILI AND OXIA AND PROSGEGRAMMENI
1FAD GREEK CAPITAL LETTER OMEGA WITH |DASIA AND OXIA AND PROSGEGRAMMENI,PSILI AND PERISPOMENI AND PROSGEGRAMMENI
1FAF GREEK CAPITAL LETTER OMEGA WITH DASIA AND PERISPOMENI AND |PROSGEGRAMMENI
1FB0 GREEK SMALL LETTER ALPHA WITH |VRACHY,MACRON,VARIA AND YPOGEGRAMMENI,YPOGEGRAMMENI,OXIA AND YPOGEGRAMMENI
1FB6 GREEK SMALL LETTER ALPHA WITH |PERISPOMENI,PERISPOMENI AND YPOGEGRAMMENI
1FB8 GREEK CAPITAL LETTER ALPHA WITH |VRACHY,MACRON,VARIA,OXIA,PROSGEGRAMMENI
1FBD GREEK |KORONIS,PROSGEGRAMMENI,PSILI,PERISPOMENI,DIALYTIKA AND PERISPOMENI
1FC2 GREEK SMALL LETTER ETA WITH |VARIA AND YPOGEGRAMMENI,YPOGEGRAMMENI,OXIA AND YPOGEGRAMMENI
1FC6 GREEK SMALL LETTER ETA WITH |PERISPOMENI,PERISPOMENI AND YPOGEGRAMMENI
1FC8 GREEK CAPITAL LETTER EPSILON WITH |VARIA,OXIA
1FCA GREEK CAPITAL LETTER ETA WITH |VARIA,OXIA,PROSGEGRAMMENI
1FCD GREEK PSILI AND |VARIA,OXIA,PERISPOMENI
1FD0 GREEK SMALL LETTER IOTA WITH |VRACHY,MACRON,DIALYTIKA AND VARIA,DIALYTIKA AND OXIA
1FD6 GREEK SMALL LETTER IOTA WITH |PERISPOMENI,DIALYTIKA AND PERISPOMENI
1FD8 GREEK CAPITAL LETTER IOTA WITH |VRACHY,MACRON,VARIA,OXIA
1FDD GREEK DASIA AND |VARIA,OXIA,PERISPOMENI
1FE0 GREEK SMALL LETTER UPSILON WITH |VRACHY,MACRON,DIALYTIKA AND VARIA,DIALYTIKA AND OXIA
1FE4 GREEK SMALL LETTER RHO WITH |PSILI,DASIA
1FE6 GREEK SMALL LETTER UPSILON WITH |PERISPOMENI,DIALYTIKA AND PERISPOMENI
1FE8 GREEK CAPITAL LETTER UPSILON WITH |VRACHY,MACRON,VARIA,OXIA
1FEC GREEK |CAPITAL LETTER RHO WITH DASIA,DIALYTIKA AND VARIA,DIALYTIKA AND OXIA,VARIA
1FF2 GREEK SMALL LETTER OMEGA WITH |VARIA AND YPOGEGRAMMENI,YPOGEGRAMMENI,OXIA AND YPOGEGRAMMENI
1FF6 GREEK SMALL LETTER OMEGA WITH |PERISPOMENI,PERISPOMENI AND YPOGEGRAMMENI
1FF8 GREEK CAPITAL LETTER OMICRON WITH |VARIA,OXIA
1FFA GREEK CAPITAL LETTER OMEGA WITH |VARIA,OXIA,PROSGEGRAMMENI
1FFD GREEK |OXIA,DASIA"

def cyrillic : String := "
400 CYRILLIC CAPITAL LETTER |IE WITH GRAVE,IO,DJE,GJE,UKRAINIAN IE,DZE,BYELORUSSIAN-UKRAINIAN I
407 CYRILLIC CAPITAL LETTER |YI,JE,LJE,NJE,TSHE,KJE,I WITH GRAVE,SHORT U,DZHE,A,BE,VE,GHE,DE,IE,ZHE,ZE,I,SHORT I
41A CYRILLIC CAPITAL LETTER |KA,EL,EM,EN,O,PE,ER,ES,TE,U,EF,HA,TSE,CHE,SHA,SHCHA,HARD SIGN,YERU,SOFT SIGN,E,YU,YA
430 CYRILLIC SMALL LETTER |A,BE,VE,GHE,DE,IE,ZHE,ZE,I,SHORT I,KA,EL,EM,EN,O,PE,ER,ES,TE,U,EF,HA
446 CYRILLIC SMALL LETTER |TSE,CHE,SHA,SHCHA,HARD SIGN,YERU,SOFT SIGN,E,YU,YA,IE WITH GRAVE,IO,DJE,GJE,UKRAINIAN IE
455 CYRILLIC SMALL LETTER |DZE,BYELORUSSIAN-UKRAINIAN I,YI,JE,LJE,NJE,TSHE,KJE,I WITH GRAVE,SHORT U,DZHE
460 CYRILLIC |CAPITAL LETTER OMEGA,SMALL LETTER OMEGA,CAPITAL LETTER YAT
463 CYRILLIC |SMALL LETTER YAT,CAPITAL LETTER IOTIFIED E,SMALL LETTER IOTIFIED E,CAPITAL LETTER LITTLE YUS
467 CYRILLIC |SMALL LETTER LITTLE YUS,CAPITAL LETTER IOTIFIED LITTLE YUS,SMALL LETTER IOTIFIED LITTLE YUS
46A CYRILLIC |CAPITAL LETTER BIG YUS,SMALL LETTER BIG YUS,CAPITAL LETTER IOTIFIED BIG YUS
46D CYRILLIC |SMALL LETTER IOTIFIED BIG YUS,CAPITAL LETTER KSI,SMALL LETTER KSI,CAPITAL LETTER PSI
471 CYRILLIC |SMALL LETTER PSI,CAPITAL LETTER FITA,SMALL LETTER FITA,CAPITAL LETTER IZHITSA,SMALL LETTER IZHITSA
476 CYRILLIC |CAPITAL LETTER IZHITSA WITH DOUBLE GRAVE ACCENT,SMALL LETTER IZHITSA WITH DOUBLE GRAVE ACCENT
478 CYRILLIC |CAPITAL LETTER UK,SMALL LETTER UK,CAPITAL LETTER ROUND OMEGA
47B CYRILLIC |SMALL LETTER ROUND OMEGA,CAPITAL LETTER OMEGA WITH TITLO,SMALL LETTER OMEGA WITH TITLO
47E CYRILLIC |CAPITAL LETTER OT,SMALL LETTER OT,CAPITAL LETTER KOPPA,SMALL LETTER KOPPA,THOUSANDS SIGN
483 COMBINING CYRILLIC |TITLO
484 COMBINING CYRILLIC |PALATALIZATION,DASIA PNEUMATA,PSILI PNEUMATA,POKRYTIE,HUNDRED THOUSANDS SIGN,MILLIONS SIGN
48A CYRILLIC |CAPITAL LETTER SHORT I WITH TAIL,SMALL LETTER SHORT I WITH TAIL
48C CYRILLIC |CAPITAL LETTER SEMISOFT SIGN,SMALL LETTER SEMISOFT SIGN,CAPITAL LETTER ER WITH TICK
48F CYRILLIC |SMALL LETTER ER WITH TICK,CAPITAL LETTER GHE WITH UPTURN,SMALL LETTER GHE WITH UPTURN
492 CYRILLIC |CAPITAL LETTER GHE WITH STROKE,SMALL LETTER GHE WITH STROKE,CAPITAL LETTER GHE WITH MIDDLE HOOK
495 CYRILLIC |SMALL LETTER GHE WITH MIDDLE HOOK,CAPITAL LETTER ZHE WITH DESCENDER
497 CYRILLIC |SMALL LETTER ZHE WITH DESCENDER,CAPITAL LETTER ZE WITH DESCENDER,SMALL LETTER ZE WITH DESCENDER
49A CYRILLIC |CAPITAL LETTER KA WITH DESCENDER,SMALL LETTER KA WITH DESCENDER,CAPITAL LETTER KA WITH VERTICAL STROKE
49D CYRILLIC |SMALL LETTER KA WITH VERTICAL STROKE,CAPITAL LETTER KA WITH STROKE
49F CYRILLIC |SMALL LETTER KA WITH STROKE,CAPITAL LETTER BASHKIR KA,SMALL LETTER BASHKIR KA
4A2 CYRILLIC |CAPITAL LETTER EN WITH DESCENDER,SMALL LETTER EN WITH DESCENDER,CAPITAL LIGATURE EN GHE
4A5 CYRILLIC |SMALL LIGATURE EN GHE,CAPITAL LETTER PE WITH MIDDLE HOOK,SMALL LETTER PE WITH MIDDLE HOOK
4A8 CYRILLIC |CAPITAL LETTER ABKHASIAN HA,SMALL LETTER ABKHASIAN HA,CAPITAL LETTER ES WITH DESCENDER
4AB CYRILLIC |SMALL LETTER ES WITH DESCENDER,CAPITAL LETTER TE WITH DESCENDER,SMALL LETTER TE WITH DESCENDER
4AE CYRILLIC |CAPITAL LETTER STRAIGHT U,SMALL LETTER STRAIGHT U,CAPITAL LETTER STRAIGHT U WITH STROKE
4B1 CYRILLIC |SMALL LETTER STRAIGHT U WITH STROKE,CAPITAL LETTER HA WITH DESCENDER,SMALL LETTER HA WITH DESCENDER
4B4 CYRILLIC |CAPITAL LIGATURE TE TSE,SMALL LIGATURE TE TSE,CAPITAL LETTER CHE WITH DESCENDER
4B7 CYRILLIC |SMALL LETTER CHE WITH DESCENDER,CAPITAL LETTER CHE WITH VERTICAL STROKE
4B9 CYRILLIC |SMALL LETTER CHE WITH VERTICAL STROKE,CAPITAL LETTER SHHA,SMALL LETTER SHHA
4BC CYRILLIC |CAPITAL LETTER ABKHASIAN CHE,SMALL LETTER ABKHASIAN CHE,CAPITAL LETTER ABKHASIAN CHE WITH DESCENDER
4BF CYRILLIC |SMALL LETTER ABKHASIAN CHE WITH DESCENDER,LETTER PALOCHKA,CAPITAL LETTER ZHE WITH BREVE
4C2 CYRILLIC |SMALL LETTER ZHE WITH BREVE,CAPITAL LETTER KA WITH HOOK,SMALL LETTER KA WITH HOOK
4C5 CYRILLIC |CAPITAL LETTER EL WITH TAIL,SMALL LETTER EL WITH TAIL,CAPITAL LETTER EN WITH HOOK
4C8 CYRILLIC |SMALL LETTER EN WITH HOOK,CAPITAL LETTER EN WITH TAIL,SMALL LETTER EN WITH TAIL
4CB CYRILLIC |CAPITAL LETTER KHAKASSIAN CHE,SMALL LETTER KHAKASSIAN CHE,CAPITAL LETTER EM WITH TAIL
4CE CYRILLIC |SMALL LETTER EM WITH TAIL,SMALL LETTER PALOCHKA,CAPITAL LETTER A WITH BREVE,SMALL LETTER A WITH BREVE
4D2 CYRILLIC |CAPITAL LETTER A WITH DIAERESIS,SMALL LETTER A WITH DIAERESIS,CAPITAL LIGATURE A IE
4D5 CYRILLIC |SMALL LIGATURE A IE,CAPITAL LETTER IE WITH BREVE,SMALL LETTER IE WITH BREVE,CAPITAL LETTER SCHWA
4D9 CYRILLIC |SMALL LETTER SCHWA,CAPITAL LETTER SCHWA WITH DIAERESIS,SMALL LETTER SCHWA WITH DIAERESIS
4DC CYRILLIC |CAPITAL LETTER ZHE WITH DIAERESIS,SMALL LETTER ZHE WITH DIAERESIS,CAPITAL LETTER ZE WITH DIAERESIS
4DF CYRILLIC |SMALL LETTER ZE WITH DIAERESIS,CAPITAL LETTER ABKHASIAN DZE,SMALL LETTER ABKHASIAN DZE
4E2 CYRILLIC |CAPITAL LETTER I WITH MACRON,SMALL LETTER I WITH MACRON,CAPITAL LETTER I WITH DIAERESIS
4E5 CYRILLIC |SMALL LETTER I WITH DIAERESIS,CAPITAL LETTER O WITH DIAERESIS,SMALL LETTER O WITH DIAERESIS
4E8 CYRILLIC |CAPITAL LETTER BARRED O,SMALL LETTER BARRED O,CAPITAL LETTER BARRED O WITH DIAERESIS
4EB CYRILLIC |SMALL LETTER BARRED O WITH DIAERESIS,CAPITAL LETTER E WITH DIAERESIS
4ED CYRILLIC |SMALL LETTER E WITH DIAERESIS,CAPITAL LETTER U WITH MACRON,SMALL LETTER U WITH MACRON
4F0 CYRILLIC |CAPITAL LETTER U WITH DIAERESIS,SMALL LETTER U WITH DIAERESIS,CAPITAL LETTER U WITH DOUBLE ACUTE
4F3 CYRILLIC |SMALL LETTER U WITH DOUBLE ACUTE,CAPITAL LETTER CHE WITH DIAERESIS,SMALL LETTER CHE WITH DIAERESIS
4F6 CYRILLIC |CAPITAL LETTER GHE WITH DESCENDER,SMALL LETTER GHE WITH DESCENDER,CAPITAL LETTER YERU WITH DIAERESIS
4F9 CYRILLIC |SMALL LETTER YERU WITH DIAERESIS,CAPITAL LETTER GHE WITH STROKE AND HOOK
4FB CYRILLIC |SMALL LETTER GHE WITH STROKE AND HOOK,CAPITAL LETTER HA WITH HOOK,SMALL LETTER HA WITH HOOK
4FE CYRILLIC |CAPITAL LETTER HA WITH STROKE,SMALL LETTER HA WITH STROKE,CAPITAL LETTER KOMI DE,SMALL LETTER KOMI DE
502 CYRILLIC |CAPITAL LETTER KOMI DJE,SMALL LETTER KOMI DJE,CAPITAL LETTER KOMI ZJE,SMALL LETTER KOMI ZJE
506 CYRILLIC |CAPITAL LETTER KOMI DZJE,SMALL LETTER KOMI DZJE,CAPITAL LETTER KOMI LJE,SMALL LETTER KOMI LJE
50A CYRILLIC |CAPITAL LETTER KOMI NJE,SMALL LETTER KOMI NJE,CAPITAL LETTER KOMI SJE,SMALL LETTER KOMI SJE
50E CYRILLIC |CAPITAL LETTER KOMI TJE,SMALL LETTER KOMI TJE,CAPITAL LETTER REVERSED ZE,SMALL LETTER REVERSED ZE
512 CYRILLIC |CAPITAL LETTER EL WITH HOOK,SMALL LETTER EL WITH HOOK,CAPITAL LETTER LHA,SMALL LETTER LHA
516 CYRILLIC |CAPITAL LETTER RHA,SMALL LETTER RHA,CAPITAL LETTER YAE,SMALL LETTER YAE,CAPITAL LETTER QA
51B CYRILLIC |SMALL LETTER QA,CAPITAL LETTER WE,SMALL LETTER WE,CAPITAL LETTER ALEUT KA,SMALL LETTER ALEUT KA
520 CYRILLIC |CAPITAL LETTER EL WITH MIDDLE HOOK,SMALL LETTER EL WITH MIDDLE HOOK,CAPITAL LETTER EN WITH MIDDLE HOOK
523 CYRILLIC |SMALL LETTER EN WITH MIDDLE HOOK,CAPITAL LETTER PE WITH DESCENDER,SMALL LETTER PE WITH DESCENDER
526 CYRILLIC |CAPITAL LETTER SHHA WITH DESCENDER,SMALL LETTER SHHA WITH DESCENDER,CAPITAL LETTER EN WITH LEFT HOOK
529 CYRILLIC |SMALL LETTER EN WITH LEFT HOOK,CAPITAL LETTER DZZHE,SMALL LETTER DZZHE
52C CYRILLIC |CAPITAL LETTER DCHE,SMALL LETTER DCHE,CAPITAL LETTER EL WITH DESCENDER,SMALL LETTER EL WITH DESCENDER"

/-- The Armenian, Hebrew and Arabic letters. -/
def neighbours : String := "
531 ARMENIAN CAPITAL LETTER |AYB,BEN,GIM,DA,ECH,ZA,EH,ET,TO,ZHE,INI,LIWN,XEH,CA,KEN,HO
541 ARMENIAN CAPITAL LETTER |JA,GHAD,CHEH,MEN,YI,NOW,SHA,VO,CHA,PEH,JHEH,RA,SEH,VEW,TIWN,REH,CO,YIWN,PIWR,KEH,OH,FEH
559 ARMENIAN MODIFIER LETTER LEFT HALF |RING
55A ARMENIAN |APOSTROPHE,EMPHASIS MARK,EXCLAMATION MARK,COMMA,QUESTION MARK,ABBREVIATION MARK
560 ARMENIAN SMALL LETTER |TURNED AYB,AYB,BEN,GIM,DA,ECH,ZA,EH,ET,TO,ZHE,INI,LIWN,XEH,CA,KEN,HO
571 ARMENIAN SMALL LETTER |JA,GHAD,CHEH,MEN,YI,NOW,SHA,VO,CHA,PEH,JHEH,RA,SEH,VEW,TIWN,REH,CO,YIWN,PIWR,KEH,OH,FEH
587 ARMENIAN |SMALL LIGATURE ECH YIWN,SMALL LETTER YI WITH STROKE,FULL STOP,HYPHEN
58D |RIGHT-FACING ARMENIAN ETERNITY SIGN,LEFT-FACING ARMENIAN ETERNITY SIGN,ARMENIAN DRAM SIGN
591 HEBREW ACCENT |ETNAHTA,SEGOL,SHALSHELET,ZAQEF QATAN,ZAQEF GADOL,TIPEHA,REVIA,ZARQA
599 HEBREW ACCENT |PASHTA,YETIV,TEVIR,GERESH,GERESH MUQDAM,GERSHAYIM,QARNEY PARA,TELISHA GEDOLA,PAZER,ATNAH HAFUKH
5A3 HEBREW ACCENT |MUNAH,MAHAPAKH,MERKHA,MERKHA KEFULA,DARGA,QADMA,TELISHA QETANA,YERAH BEN YOMO,OLE,ILUY,DEHI,ZINOR
5AF HEBREW |MARK MASORA CIRCLE,POINT SHEVA
5B1 HEBREW POINT HATAF |SEGOL,PATAH,QAMATS
5B4 HEBREW POINT |HIRIQ,TSERE,SEGOL,PATAH,QAMATS,HOLAM,HOLAM HASER FOR VAV,QUBUTS,DAGESH OR MAPIQ,METEG
5BE HEBREW |PUNCTUATION MAQAF,POINT RAFE,PUNCTUATION PASEQ,POINT SHIN DOT,POINT SIN DOT
5C3 HEBREW |PUNCTUATION SOF PASUQ,MARK UPPER DOT,MARK LOWER DOT,PUNCTUATION NUN HAFUKHA,POINT QAMATS QATAN
5D0 HEBREW LETTER |ALEF,BET,GIMEL,DALET,HE,VAV,ZAYIN,HET,TET,YOD,FINAL KAF
5DB HEBREW LETTER |KAF,LAMED,FINAL MEM,MEM,FINAL NUN,NUN,SAMEKH,AYIN,FINAL PE,PE,FINAL TSADI,TSADI,QOF,RESH,SHIN,TAV
5EF HEBREW YOD |TRIANGLE
5F0 HEBREW LIGATURE YIDDISH |DOUBLE VAV,VAV YOD,DOUBLE YOD
5F3 HEBREW PUNCTUATION |GERESH,GERSHAYIM
600 ARABIC |NUMBER SIGN,SIGN SANAH,FOOTNOTE MARKER,SIGN SAFHA,SIGN SAMVAT,NUMBER MARK ABOVE
606 ARABIC-INDIC |CUBE ROOT,FOURTH ROOT
608 ARABIC |RAY
609 ARABIC-INDIC PER |MILLE SIGN,TEN THOUSAND SIGN
60B AFGHANI |SIGN
60C ARABIC |COMMA,DATE SEPARATOR,POETIC VERSE SIGN
60F ARABIC SIGN |MISRA,SALLALLAHOU ALAYHE WASSALLAM,ALAYHE ASSALLAM,RAHMATULLAH ALAYHE,RADI ALLAHOU ANHU,TAKHALLUS
615 ARABIC SMALL |HIGH TAH,HIGH LIGATURE ALEF WITH LAM WITH YEH,HIGH ZAIN,FATHA,DAMMA,KASRA
61B ARABIC |SEMICOLON,LETTER MARK,END OF TEXT MARK,TRIPLE DOT PUNCTUATION MARK,QUESTION MARK,LETTER KASHMIRI YEH
621 ARABIC LETTER |HAMZA,ALEF WITH MADDA ABOVE,ALEF WITH HAMZA ABOVE,WAW WITH HAMZA ABOVE,ALEF WITH HAMZA BELOW
626 ARABIC LETTER |YEH WITH HAMZA ABOVE,ALEF,BEH,TEH MARBUTA,TEH,THEH,JEEM,HAH,KHAH,DAL,THAL,REH
632 ARABIC LETTER |ZAIN,SEEN,SHEEN,SAD,DAD,TAH,ZAH,AIN,GHAIN,KEHEH WITH TWO DOTS ABOVE,KEHEH WITH THREE DOTS BELOW
63D ARABIC LETTER FARSI YEH WITH |INVERTED V,TWO DOTS ABOVE,THREE DOTS ABOVE
640 ARABIC |TATWEEL
641 ARABIC LETTER |FEH,QAF,KAF,LAM,MEEM,NOON,HEH,WAW,ALEF MAKSURA,YEH
64B ARABIC |FATHATAN,DAMMATAN,KASRATAN,FATHA,DAMMA,KASRA,SHADDA
652 ARABIC |SUKUN,MADDAH ABOVE,HAMZA ABOVE,HAMZA BELOW,SUBSCRIPT ALEF,INVERTED DAMMA,MARK NOON GHUNNA,ZWARAKAY
65A ARABIC VOWEL SIGN |SMALL V ABOVE,INVERTED SMALL V ABOVE,DOT BELOW
65D ARABIC |REVERSED DAMMA,FATHA WITH TWO DOTS,WAVY HAMZA BELOW
660 ARABIC-INDIC DIGIT |ZERO,ONE,TWO,THREE,FOUR,FIVE,SIX,SEVEN,EIGHT,NINE
66A ARABIC |PERCENT SIGN,DECIMAL SEPARATOR,THOUSANDS SEPARATOR,FIVE POINTED STAR
66E ARABIC LETTER |DOTLESS BEH,DOTLESS QAF,SUPERSCRIPT ALEF,ALEF WASLA
672 ARABIC LETTER ALEF WITH WAVY HAMZA |ABOVE,BELOW
674 ARABIC LETTER |HIGH HAMZA,HIGH HAMZA ALEF,HIGH HAMZA WAW,U WITH HAMZA ABOVE,HIGH HAMZA YEH,TTEH,TTEHEH
67B ARABIC LETTER |BEEH,TEH WITH RING,TEH WITH THREE DOTS ABOVE DOWNWARDS,PEH,TEHEH,BEHEH,HAH WITH HAMZA ABOVE
682 ARABIC LETTER |HAH WITH TWO DOTS VERTICAL ABOVE,NYEH,DYEH,HAH WITH THREE DOTS ABOVE,TCHEH,TCHEHEH,DDAL
689 ARABIC LETTER DAL WITH |RING,DOT BELOW,DOT BELOW AND SMALL TAH
68C ARABIC LETTER |DAHAL,DDAHAL,DUL,DAL WITH THREE DOTS ABOVE DOWNWARDS,DAL WITH FOUR DOTS ABOVE,RREH
692 ARABIC LETTER REH WITH |SMALL V,RING,DOT BELOW,SMALL V BELOW,DOT BELOW AND DOT ABOVE,TWO DOTS ABOVE
698 ARABIC LETTER |JEH,REH WITH FOUR DOTS ABOVE,SEEN WITH DOT BELOW AND DOT ABOVE
69B ARABIC LETTER SEEN WITH THREE DOTS |BELOW,BELOW AND THREE DOTS ABOVE
69D ARABIC LETTER SAD WITH |TWO DOTS BELOW,THREE DOTS ABOVE
69F ARABIC LETTER |TAH WITH THREE DOTS ABOVE,AIN WITH THREE DOTS ABOVE,DOTLESS FEH
6A2 ARABIC LETTER FEH WITH DOT |MOVED BELOW,BELOW
6A4 ARABIC LETTER |VEH,FEH WITH THREE DOTS BELOW,PEHEH,QAF WITH DOT ABOVE,QAF WITH THREE DOTS ABOVE
6A9 ARABIC LETTER |KEHEH,SWASH KAF,KAF WITH RING,KAF WITH DOT ABOVE,NG,KAF WITH THREE DOTS BELOW
6AF ARABIC LETTER |GAF,GAF WITH RING,NGOEH,GAF WITH TWO DOTS BELOW,GUEH,GAF WITH THREE DOTS ABOVE
6B5 ARABIC LETTER LAM WITH |SMALL V,DOT ABOVE,THREE DOTS ABOVE,THREE DOTS BELOW
6B9 ARABIC LETTER |NOON WITH DOT BELOW,NOON GHUNNA,RNOON,NOON WITH RING,NOON WITH THREE DOTS ABOVE
6BE ARABIC LETTER |HEH DOACHASHMEE,TCHEH WITH DOT ABOVE,HEH WITH YEH ABOVE,HEH GOAL,HEH GOAL WITH HAMZA ABOVE
6C3 ARABIC LETTER |TEH MARBUTA GOAL,WAW WITH RING,KIRGHIZ OE,OE,U,YU,KIRGHIZ YU,WAW WITH TWO DOTS ABOVE,VE,FARSI YEH
6CD ARABIC LETTER YEH WITH |TAIL,SMALL V
6CF ARABIC LETTER |WAW WITH DOT ABOVE,E,YEH WITH THREE DOTS BELOW,YEH BARREE,YEH BARREE WITH HAMZA ABOVE
6D4 ARABIC |FULL STOP,LETTER AE,SMALL HIGH LIGATURE SAD WITH LAM WITH ALEF MAKSURA
6D7 ARABIC SMALL HIGH |LIGATURE QAF WITH LAM WITH ALEF MAKSURA,MEEM INITIAL FORM,LAM ALEF,JEEM,THREE DOTS,SEEN
6DD ARABIC |END OF AYAH,START OF RUB EL HIZB
6DF ARABIC SMALL HIGH |ROUNDED ZERO,UPRIGHT RECTANGULAR ZERO,DOTLESS HEAD OF KHAH,MEEM ISOLATED FORM
6E3 ARABIC SMALL |LOW SEEN,HIGH MADDA,WAW,YEH,HIGH YEH,HIGH NOON
6E9 ARABIC |PLACE OF SAJDAH,EMPTY CENTRE LOW STOP,EMPTY CENTRE HIGH STOP,ROUNDED HIGH STOP WITH FILLED CENTRE
6ED ARABIC |SMALL LOW MEEM,LETTER DAL WITH INVERTED V,LETTER REH WITH INVERTED V
6F0 EXTENDED ARABIC-INDIC DIGIT |ZERO,ONE,TWO,THREE,FOUR,FIVE,SIX,SEVEN,EIGHT,NINE
6FA ARABIC LETTER |SHEEN WITH DOT BELOW,DAD WITH DOT BELOW,GHAIN WITH DOT BELOW
6FD ARABIC |SIGN SINDHI AMPERSAND,SIGN SINDHI POSTPOSITION MEN,LETTER HEH WITH INVERTED V"

/-- The Japanese syllables, and the punctuation of East Asia. -/
def kana : String := "
3000 IDEOGRAPHIC |SPACE,COMMA,FULL STOP
3003 |DITTO MARK,JAPANESE INDUSTRIAL STANDARD SYMBOL
3005 IDEOGRAPHIC |ITERATION MARK,CLOSING MARK,NUMBER ZERO
3008 |LEFT ANGLE BRACKET,RIGHT ANGLE BRACKET,LEFT DOUBLE ANGLE BRACKET
300B |RIGHT DOUBLE ANGLE BRACKET,LEFT CORNER BRACKET,RIGHT CORNER BRACKET,LEFT WHITE CORNER BRACKET
300F |RIGHT WHITE CORNER BRACKET,LEFT BLACK LENTICULAR BRACKET,RIGHT BLACK LENTICULAR BRACKET
3012 |POSTAL MARK,GETA MARK,LEFT TORTOISE SHELL BRACKET,RIGHT TORTOISE SHELL BRACKET,LEFT WHITE LENTICULAR BRACKET
3017 |RIGHT WHITE LENTICULAR BRACKET,LEFT WHITE TORTOISE SHELL BRACKET,RIGHT WHITE TORTOISE SHELL BRACKET
301A |LEFT WHITE SQUARE BRACKET,RIGHT WHITE SQUARE BRACKET,WAVE DASH,REVERSED DOUBLE PRIME QUOTATION MARK
301E |DOUBLE PRIME QUOTATION MARK,LOW DOUBLE PRIME QUOTATION MARK,POSTAL MARK FACE
3021 HANGZHOU NUMERAL |ONE,TWO,THREE,FOUR,FIVE,SIX,SEVEN,EIGHT,NINE
302A IDEOGRAPHIC |LEVEL TONE MARK,RISING TONE MARK,DEPARTING TONE MARK,ENTERING TONE MARK
302E |HANGUL SINGLE DOT TONE MARK,HANGUL DOUBLE DOT TONE MARK,WAVY DASH
3031 VERTICAL KANA REPEAT |MARK,WITH VOICED SOUND MARK,MARK UPPER HALF,WITH VOICED SOUND MARK UPPER HALF
3035 |VERTICAL KANA REPEAT MARK LOWER HALF,CIRCLED POSTAL MARK,IDEOGRAPHIC TELEGRAPH LINE FEED SEPARATOR SYMBOL
3038 HANGZHOU NUMERAL |TEN,TWENTY,THIRTY
303B |VERTICAL IDEOGRAPHIC ITERATION MARK,MASU MARK,PART ALTERNATION MARK
303E IDEOGRAPHIC |VARIATION INDICATOR,HALF FILL SPACE
3041 HIRAGANA LETTER |SMALL A,A,SMALL I,I,SMALL U,U,SMALL E
3048 HIRAGANA LETTER |E,SMALL O,O,KA,GA,KI,GI,KU,GU,KE,GE,KO,GO,SA,ZA,SI,ZI,SU,ZU,SE,ZE,SO,ZO,TA,DA,TI,DI,SMALL TU
3064 HIRAGANA LETTER |TU,DU,TE,DE,TO,DO,NA,NI,NU,NE,NO,HA,BA,PA,HI,BI,PI,HU,BU,PU,HE,BE,PE,HO,BO,PO,MA,MI,MU,ME,MO
3083 HIRAGANA LETTER |SMALL YA,YA,SMALL YU,YU,SMALL YO,YO,RA,RI,RU,RE,RO,SMALL WA,WA,WI,WE,WO,N,VU,SMALL KA,SMALL KE
3099 COMBINING KATAKANA-HIRAGANA |VOICED SOUND MARK,SEMI-VOICED SOUND MARK
309B KATAKANA-HIRAGANA |VOICED SOUND MARK,SEMI-VOICED SOUND MARK
309D HIRAGANA |ITERATION MARK,VOICED ITERATION MARK,DIGRAPH YORI
30A0 KATAKANA-HIRAGANA DOUBLE |HYPHEN
30A1 KATAKANA LETTER |SMALL A,A,SMALL I,I,SMALL U,U,SMALL E,E,SMALL O
30AA KATAKANA LETTER |O,KA,GA,KI,GI,KU,GU,KE,GE,KO,GO,SA,ZA,SI,ZI,SU,ZU,SE,ZE,SO,ZO,TA,DA,TI,DI,SMALL TU,TU,DU,TE,DE
30C8 KATAKANA LETTER |TO,DO,NA,NI,NU,NE,NO,HA,BA,PA,HI,BI,PI,HU,BU,PU,HE,BE,PE,HO,BO,PO,MA,MI,MU,ME,MO,SMALL YA,YA
30E5 KATAKANA LETTER |SMALL YU,YU,SMALL YO,YO,RA,RI,RU,RE,RO,SMALL WA,WA,WI,WE,WO,N,VU,SMALL KA,SMALL KE,VA,VI,VE,VO
30FB |KATAKANA MIDDLE DOT,KATAKANA-HIRAGANA PROLONGED SOUND MARK
30FD KATAKANA |ITERATION MARK,VOICED ITERATION MARK,DIGRAPH KOTO"

/-- The forms for vertical and small print, and those of full and half width. -/
def wide : String := "
FE10 PRESENTATION FORM FOR VERTICAL |COMMA,IDEOGRAPHIC COMMA,IDEOGRAPHIC FULL STOP
FE13 PRESENTATION FORM FOR VERTICAL |COLON,SEMICOLON,EXCLAMATION MARK,QUESTION MARK,LEFT WHITE LENTICULAR BRACKET
FE18 PRESENTATION FORM FOR VERTICAL |RIGHT WHITE LENTICULAR BRAKCET,HORIZONTAL ELLIPSIS
FE20 COMBINING LIGATURE |LEFT HALF,RIGHT HALF
FE22 COMBINING DOUBLE TILDE |LEFT HALF,RIGHT HALF
FE24 COMBINING MACRON |LEFT HALF,RIGHT HALF
FE26 COMBINING |CONJOINING MACRON,LIGATURE LEFT HALF BELOW,LIGATURE RIGHT HALF BELOW,TILDE LEFT HALF BELOW
FE2A COMBINING |TILDE RIGHT HALF BELOW,MACRON LEFT HALF BELOW,MACRON RIGHT HALF BELOW,CONJOINING MACRON BELOW
FE2E COMBINING CYRILLIC TITLO |LEFT HALF,RIGHT HALF
FE30 PRESENTATION FORM FOR VERTICAL |TWO DOT LEADER,EM DASH,EN DASH
FE33 PRESENTATION FORM FOR VERTICAL |LOW LINE,WAVY LOW LINE,LEFT PARENTHESIS,RIGHT PARENTHESIS,LEFT CURLY BRACKET
FE38 PRESENTATION FORM FOR VERTICAL |RIGHT CURLY BRACKET,LEFT TORTOISE SHELL BRACKET,RIGHT TORTOISE SHELL BRACKET
FE3B PRESENTATION FORM FOR VERTICAL |LEFT BLACK LENTICULAR BRACKET,RIGHT BLACK LENTICULAR BRACKET
FE3D PRESENTATION FORM FOR VERTICAL |LEFT DOUBLE ANGLE BRACKET,RIGHT DOUBLE ANGLE BRACKET
FE3F PRESENTATION FORM FOR VERTICAL |LEFT ANGLE BRACKET,RIGHT ANGLE BRACKET,LEFT CORNER BRACKET
FE42 PRESENTATION FORM FOR VERTICAL |RIGHT CORNER BRACKET,LEFT WHITE CORNER BRACKET,RIGHT WHITE CORNER BRACKET
FE45 |SESAME DOT,WHITE SESAME DOT
FE47 PRESENTATION FORM FOR VERTICAL |LEFT SQUARE BRACKET,RIGHT SQUARE BRACKET
FE49 DASHED |OVERLINE
FE4A |CENTRELINE OVERLINE,WAVY OVERLINE,DOUBLE WAVY OVERLINE,DASHED LOW LINE,CENTRELINE LOW LINE,WAVY LOW LINE
FE50 SMALL |COMMA,IDEOGRAPHIC COMMA,FULL STOP
FE54 SMALL |SEMICOLON,COLON,QUESTION MARK,EXCLAMATION MARK,EM DASH,LEFT PARENTHESIS,RIGHT PARENTHESIS
FE5B SMALL |LEFT CURLY BRACKET,RIGHT CURLY BRACKET,LEFT TORTOISE SHELL BRACKET,RIGHT TORTOISE SHELL BRACKET
FE5F SMALL |NUMBER SIGN,AMPERSAND,ASTERISK,PLUS SIGN,HYPHEN-MINUS,LESS-THAN SIGN,GREATER-THAN SIGN,EQUALS SIGN
FE68 SMALL |REVERSE SOLIDUS,DOLLAR SIGN,PERCENT SIGN,COMMERCIAL AT
FF01 FULLWIDTH |EXCLAMATION MARK,QUOTATION MARK,NUMBER SIGN,DOLLAR SIGN,PERCENT SIGN,AMPERSAND,APOSTROPHE
FF08 FULLWIDTH |LEFT PARENTHESIS,RIGHT PARENTHESIS,ASTERISK,PLUS SIGN,COMMA,HYPHEN-MINUS,FULL STOP,SOLIDUS
FF10 FULLWIDTH DIGIT |ZERO,ONE,TWO,THREE,FOUR,FIVE,SIX,SEVEN,EIGHT,NINE
FF1A FULLWIDTH |COLON,SEMICOLON,LESS-THAN SIGN,EQUALS SIGN,GREATER-THAN SIGN,QUESTION MARK,COMMERCIAL AT
FF21 FULLWIDTH LATIN CAPITAL LETTER |A,B,C,D,E,F,G,H,I,J,K,L,M,N,O,P,Q,R,S,T,U,V,W,X,Y,Z
FF3B FULLWIDTH |LEFT SQUARE BRACKET,REVERSE SOLIDUS,RIGHT SQUARE BRACKET,CIRCUMFLEX ACCENT,LOW LINE,GRAVE ACCENT
FF41 FULLWIDTH LATIN SMALL LETTER |A,B,C,D,E,F,G,H,I,J,K,L,M,N,O,P,Q,R,S,T,U,V,W,X,Y,Z
FF5B FULLWIDTH LEFT CURLY |BRACKET
FF5C FULLWIDTH |VERTICAL LINE,RIGHT CURLY BRACKET,TILDE,LEFT WHITE PARENTHESIS,RIGHT WHITE PARENTHESIS
FF61 HALFWIDTH |IDEOGRAPHIC FULL STOP,LEFT CORNER BRACKET,RIGHT CORNER BRACKET,IDEOGRAPHIC COMMA
FF65 HALFWIDTH KATAKANA |MIDDLE DOT,LETTER WO
FF67 HALFWIDTH KATAKANA LETTER SMALL |A,I,U,E,O,YA,YU,YO,TU
FF70 HALFWIDTH KATAKANA-HIRAGANA PROLONGED SOUND |MARK
FF71 HALFWIDTH KATAKANA LETTER |A,I,U,E,O,KA,KI,KU,KE,KO,SA,SI,SU,SE,SO,TA,TI
FF82 HALFWIDTH KATAKANA LETTER |TU,TE,TO,NA,NI,NU,NE,NO,HA,HI,HU,HE,HO,MA,MI,MU,ME,MO,YA,YU,YO,RA,RI,RU,RE,RO,WA,N
FF9E HALFWIDTH KATAKANA |VOICED SOUND MARK,SEMI-VOICED SOUND MARK
FFA0 HALFWIDTH HANGUL |FILLER,LETTER KIYEOK,LETTER SSANGKIYEOK,LETTER KIYEOK-SIOS
FFA4 HALFWIDTH HANGUL LETTER |NIEUN,NIEUN-CIEUC,NIEUN-HIEUH,TIKEUT,SSANGTIKEUT,RIEUL,RIEUL-KIYEOK,RIEUL-MIEUM
FFAC HALFWIDTH HANGUL LETTER |RIEUL-PIEUP,RIEUL-SIOS,RIEUL-THIEUTH,RIEUL-PHIEUPH,RIEUL-HIEUH,MIEUM,PIEUP,SSANGPIEUP
FFB4 HALFWIDTH HANGUL LETTER |PIEUP-SIOS,SIOS,SSANGSIOS,IEUNG,CIEUC,SSANGCIEUC,CHIEUCH,KHIEUKH,THIEUTH,PHIEUPH,HIEUH
FFC2 HALFWIDTH HANGUL LETTER |A,AE,YA,YAE,EO,E
FFCA HALFWIDTH HANGUL LETTER |YEO,YE,O,WA,WAE,OE
FFD2 HALFWIDTH HANGUL LETTER |YO,U,WEO,WE,WI,YU
FFDA HALFWIDTH HANGUL LETTER |EU,YI,I
FFE0 FULLWIDTH |CENT SIGN,POUND SIGN,NOT SIGN,MACRON,BROKEN BAR,YEN SIGN,WON SIGN
FFE8 HALFWIDTH FORMS LIGHT |VERTICAL
FFE9 HALFWIDTH |LEFTWARDS ARROW,UPWARDS ARROW,RIGHTWARDS ARROW,DOWNWARDS ARROW,BLACK SQUARE,WHITE CIRCLE
FFF9 INTERLINEAR ANNOTATION |ANCHOR,SEPARATOR,TERMINATOR
FFFC |OBJECT REPLACEMENT CHARACTER,REPLACEMENT CHARACTER"

end CharacterName

end SchemaLint
