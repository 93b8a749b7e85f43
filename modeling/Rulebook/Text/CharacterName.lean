/-!
Characters by name: the names of the Latin, Greek and Cyrillic letters, of common punctuation, signs
and faces and of control characters, in a table, and the names of ideographs, which hold their number.
-/

namespace Rulebook

/-- A line for each name: the code point in hexadecimal, a space, the name. -/
def characterNames : String := "20 SPACE
21 EXCLAMATION MARK
22 QUOTATION MARK
23 NUMBER SIGN
24 DOLLAR SIGN
25 PERCENT SIGN
26 AMPERSAND
27 APOSTROPHE
28 LEFT PARENTHESIS
29 RIGHT PARENTHESIS
2A ASTERISK
2B PLUS SIGN
2C COMMA
2D HYPHEN-MINUS
2E FULL STOP
2F SOLIDUS
30 DIGIT ZERO
31 DIGIT ONE
32 DIGIT TWO
33 DIGIT THREE
34 DIGIT FOUR
35 DIGIT FIVE
36 DIGIT SIX
37 DIGIT SEVEN
38 DIGIT EIGHT
39 DIGIT NINE
3A COLON
3B SEMICOLON
3C LESS-THAN SIGN
3D EQUALS SIGN
3E GREATER-THAN SIGN
3F QUESTION MARK
40 COMMERCIAL AT
41 LATIN CAPITAL LETTER A
42 LATIN CAPITAL LETTER B
43 LATIN CAPITAL LETTER C
44 LATIN CAPITAL LETTER D
45 LATIN CAPITAL LETTER E
46 LATIN CAPITAL LETTER F
47 LATIN CAPITAL LETTER G
48 LATIN CAPITAL LETTER H
49 LATIN CAPITAL LETTER I
4A LATIN CAPITAL LETTER J
4B LATIN CAPITAL LETTER K
4C LATIN CAPITAL LETTER L
4D LATIN CAPITAL LETTER M
4E LATIN CAPITAL LETTER N
4F LATIN CAPITAL LETTER O
50 LATIN CAPITAL LETTER P
51 LATIN CAPITAL LETTER Q
52 LATIN CAPITAL LETTER R
53 LATIN CAPITAL LETTER S
54 LATIN CAPITAL LETTER T
55 LATIN CAPITAL LETTER U
56 LATIN CAPITAL LETTER V
57 LATIN CAPITAL LETTER W
58 LATIN CAPITAL LETTER X
59 LATIN CAPITAL LETTER Y
5A LATIN CAPITAL LETTER Z
5B LEFT SQUARE BRACKET
5C REVERSE SOLIDUS
5D RIGHT SQUARE BRACKET
5E CIRCUMFLEX ACCENT
5F LOW LINE
60 GRAVE ACCENT
61 LATIN SMALL LETTER A
62 LATIN SMALL LETTER B
63 LATIN SMALL LETTER C
64 LATIN SMALL LETTER D
65 LATIN SMALL LETTER E
66 LATIN SMALL LETTER F
67 LATIN SMALL LETTER G
68 LATIN SMALL LETTER H
69 LATIN SMALL LETTER I
6A LATIN SMALL LETTER J
6B LATIN SMALL LETTER K
6C LATIN SMALL LETTER L
6D LATIN SMALL LETTER M
6E LATIN SMALL LETTER N
6F LATIN SMALL LETTER O
70 LATIN SMALL LETTER P
71 LATIN SMALL LETTER Q
72 LATIN SMALL LETTER R
73 LATIN SMALL LETTER S
74 LATIN SMALL LETTER T
75 LATIN SMALL LETTER U
76 LATIN SMALL LETTER V
77 LATIN SMALL LETTER W
78 LATIN SMALL LETTER X
79 LATIN SMALL LETTER Y
7A LATIN SMALL LETTER Z
7B LEFT CURLY BRACKET
7C VERTICAL LINE
7D RIGHT CURLY BRACKET
7E TILDE
A0 NO-BREAK SPACE
A1 INVERTED EXCLAMATION MARK
A2 CENT SIGN
A3 POUND SIGN
A4 CURRENCY SIGN
A5 YEN SIGN
A6 BROKEN BAR
A7 SECTION SIGN
A8 DIAERESIS
A9 COPYRIGHT SIGN
AA FEMININE ORDINAL INDICATOR
AB LEFT-POINTING DOUBLE ANGLE QUOTATION MARK
AC NOT SIGN
AD SOFT HYPHEN
AE REGISTERED SIGN
AF MACRON
B0 DEGREE SIGN
B1 PLUS-MINUS SIGN
B2 SUPERSCRIPT TWO
B3 SUPERSCRIPT THREE
B4 ACUTE ACCENT
B5 MICRO SIGN
B6 PILCROW SIGN
B7 MIDDLE DOT
B8 CEDILLA
B9 SUPERSCRIPT ONE
BA MASCULINE ORDINAL INDICATOR
BB RIGHT-POINTING DOUBLE ANGLE QUOTATION MARK
BC VULGAR FRACTION ONE QUARTER
BD VULGAR FRACTION ONE HALF
BE VULGAR FRACTION THREE QUARTERS
BF INVERTED QUESTION MARK
C0 LATIN CAPITAL LETTER A WITH GRAVE
C1 LATIN CAPITAL LETTER A WITH ACUTE
C2 LATIN CAPITAL LETTER A WITH CIRCUMFLEX
C3 LATIN CAPITAL LETTER A WITH TILDE
C4 LATIN CAPITAL LETTER A WITH DIAERESIS
C5 LATIN CAPITAL LETTER A WITH RING ABOVE
C6 LATIN CAPITAL LETTER AE
C7 LATIN CAPITAL LETTER C WITH CEDILLA
C8 LATIN CAPITAL LETTER E WITH GRAVE
C9 LATIN CAPITAL LETTER E WITH ACUTE
CA LATIN CAPITAL LETTER E WITH CIRCUMFLEX
CB LATIN CAPITAL LETTER E WITH DIAERESIS
CC LATIN CAPITAL LETTER I WITH GRAVE
CD LATIN CAPITAL LETTER I WITH ACUTE
CE LATIN CAPITAL LETTER I WITH CIRCUMFLEX
CF LATIN CAPITAL LETTER I WITH DIAERESIS
D0 LATIN CAPITAL LETTER ETH
D1 LATIN CAPITAL LETTER N WITH TILDE
D2 LATIN CAPITAL LETTER O WITH GRAVE
D3 LATIN CAPITAL LETTER O WITH ACUTE
D4 LATIN CAPITAL LETTER O WITH CIRCUMFLEX
D5 LATIN CAPITAL LETTER O WITH TILDE
D6 LATIN CAPITAL LETTER O WITH DIAERESIS
D7 MULTIPLICATION SIGN
D8 LATIN CAPITAL LETTER O WITH STROKE
D9 LATIN CAPITAL LETTER U WITH GRAVE
DA LATIN CAPITAL LETTER U WITH ACUTE
DB LATIN CAPITAL LETTER U WITH CIRCUMFLEX
DC LATIN CAPITAL LETTER U WITH DIAERESIS
DD LATIN CAPITAL LETTER Y WITH ACUTE
DE LATIN CAPITAL LETTER THORN
DF LATIN SMALL LETTER SHARP S
E0 LATIN SMALL LETTER A WITH GRAVE
E1 LATIN SMALL LETTER A WITH ACUTE
E2 LATIN SMALL LETTER A WITH CIRCUMFLEX
E3 LATIN SMALL LETTER A WITH TILDE
E4 LATIN SMALL LETTER A WITH DIAERESIS
E5 LATIN SMALL LETTER A WITH RING ABOVE
E6 LATIN SMALL LETTER AE
E7 LATIN SMALL LETTER C WITH CEDILLA
E8 LATIN SMALL LETTER E WITH GRAVE
E9 LATIN SMALL LETTER E WITH ACUTE
EA LATIN SMALL LETTER E WITH CIRCUMFLEX
EB LATIN SMALL LETTER E WITH DIAERESIS
EC LATIN SMALL LETTER I WITH GRAVE
ED LATIN SMALL LETTER I WITH ACUTE
EE LATIN SMALL LETTER I WITH CIRCUMFLEX
EF LATIN SMALL LETTER I WITH DIAERESIS
F0 LATIN SMALL LETTER ETH
F1 LATIN SMALL LETTER N WITH TILDE
F2 LATIN SMALL LETTER O WITH GRAVE
F3 LATIN SMALL LETTER O WITH ACUTE
F4 LATIN SMALL LETTER O WITH CIRCUMFLEX
F5 LATIN SMALL LETTER O WITH TILDE
F6 LATIN SMALL LETTER O WITH DIAERESIS
F7 DIVISION SIGN
F8 LATIN SMALL LETTER O WITH STROKE
F9 LATIN SMALL LETTER U WITH GRAVE
FA LATIN SMALL LETTER U WITH ACUTE
FB LATIN SMALL LETTER U WITH CIRCUMFLEX
FC LATIN SMALL LETTER U WITH DIAERESIS
FD LATIN SMALL LETTER Y WITH ACUTE
FE LATIN SMALL LETTER THORN
FF LATIN SMALL LETTER Y WITH DIAERESIS
100 LATIN CAPITAL LETTER A WITH MACRON
101 LATIN SMALL LETTER A WITH MACRON
102 LATIN CAPITAL LETTER A WITH BREVE
103 LATIN SMALL LETTER A WITH BREVE
104 LATIN CAPITAL LETTER A WITH OGONEK
105 LATIN SMALL LETTER A WITH OGONEK
106 LATIN CAPITAL LETTER C WITH ACUTE
107 LATIN SMALL LETTER C WITH ACUTE
108 LATIN CAPITAL LETTER C WITH CIRCUMFLEX
109 LATIN SMALL LETTER C WITH CIRCUMFLEX
10A LATIN CAPITAL LETTER C WITH DOT ABOVE
10B LATIN SMALL LETTER C WITH DOT ABOVE
10C LATIN CAPITAL LETTER C WITH CARON
10D LATIN SMALL LETTER C WITH CARON
10E LATIN CAPITAL LETTER D WITH CARON
10F LATIN SMALL LETTER D WITH CARON
110 LATIN CAPITAL LETTER D WITH STROKE
111 LATIN SMALL LETTER D WITH STROKE
112 LATIN CAPITAL LETTER E WITH MACRON
113 LATIN SMALL LETTER E WITH MACRON
114 LATIN CAPITAL LETTER E WITH BREVE
115 LATIN SMALL LETTER E WITH BREVE
116 LATIN CAPITAL LETTER E WITH DOT ABOVE
117 LATIN SMALL LETTER E WITH DOT ABOVE
118 LATIN CAPITAL LETTER E WITH OGONEK
119 LATIN SMALL LETTER E WITH OGONEK
11A LATIN CAPITAL LETTER E WITH CARON
11B LATIN SMALL LETTER E WITH CARON
11C LATIN CAPITAL LETTER G WITH CIRCUMFLEX
11D LATIN SMALL LETTER G WITH CIRCUMFLEX
11E LATIN CAPITAL LETTER G WITH BREVE
11F LATIN SMALL LETTER G WITH BREVE
120 LATIN CAPITAL LETTER G WITH DOT ABOVE
121 LATIN SMALL LETTER G WITH DOT ABOVE
122 LATIN CAPITAL LETTER G WITH CEDILLA
123 LATIN SMALL LETTER G WITH CEDILLA
124 LATIN CAPITAL LETTER H WITH CIRCUMFLEX
125 LATIN SMALL LETTER H WITH CIRCUMFLEX
126 LATIN CAPITAL LETTER H WITH STROKE
127 LATIN SMALL LETTER H WITH STROKE
128 LATIN CAPITAL LETTER I WITH TILDE
129 LATIN SMALL LETTER I WITH TILDE
12A LATIN CAPITAL LETTER I WITH MACRON
12B LATIN SMALL LETTER I WITH MACRON
12C LATIN CAPITAL LETTER I WITH BREVE
12D LATIN SMALL LETTER I WITH BREVE
12E LATIN CAPITAL LETTER I WITH OGONEK
12F LATIN SMALL LETTER I WITH OGONEK
130 LATIN CAPITAL LETTER I WITH DOT ABOVE
131 LATIN SMALL LETTER DOTLESS I
132 LATIN CAPITAL LIGATURE IJ
133 LATIN SMALL LIGATURE IJ
134 LATIN CAPITAL LETTER J WITH CIRCUMFLEX
135 LATIN SMALL LETTER J WITH CIRCUMFLEX
136 LATIN CAPITAL LETTER K WITH CEDILLA
137 LATIN SMALL LETTER K WITH CEDILLA
138 LATIN SMALL LETTER KRA
139 LATIN CAPITAL LETTER L WITH ACUTE
13A LATIN SMALL LETTER L WITH ACUTE
13B LATIN CAPITAL LETTER L WITH CEDILLA
13C LATIN SMALL LETTER L WITH CEDILLA
13D LATIN CAPITAL LETTER L WITH CARON
13E LATIN SMALL LETTER L WITH CARON
13F LATIN CAPITAL LETTER L WITH MIDDLE DOT
140 LATIN SMALL LETTER L WITH MIDDLE DOT
141 LATIN CAPITAL LETTER L WITH STROKE
142 LATIN SMALL LETTER L WITH STROKE
143 LATIN CAPITAL LETTER N WITH ACUTE
144 LATIN SMALL LETTER N WITH ACUTE
145 LATIN CAPITAL LETTER N WITH CEDILLA
146 LATIN SMALL LETTER N WITH CEDILLA
147 LATIN CAPITAL LETTER N WITH CARON
148 LATIN SMALL LETTER N WITH CARON
149 LATIN SMALL LETTER N PRECEDED BY APOSTROPHE
14A LATIN CAPITAL LETTER ENG
14B LATIN SMALL LETTER ENG
14C LATIN CAPITAL LETTER O WITH MACRON
14D LATIN SMALL LETTER O WITH MACRON
14E LATIN CAPITAL LETTER O WITH BREVE
14F LATIN SMALL LETTER O WITH BREVE
150 LATIN CAPITAL LETTER O WITH DOUBLE ACUTE
151 LATIN SMALL LETTER O WITH DOUBLE ACUTE
152 LATIN CAPITAL LIGATURE OE
153 LATIN SMALL LIGATURE OE
154 LATIN CAPITAL LETTER R WITH ACUTE
155 LATIN SMALL LETTER R WITH ACUTE
156 LATIN CAPITAL LETTER R WITH CEDILLA
157 LATIN SMALL LETTER R WITH CEDILLA
158 LATIN CAPITAL LETTER R WITH CARON
159 LATIN SMALL LETTER R WITH CARON
15A LATIN CAPITAL LETTER S WITH ACUTE
15B LATIN SMALL LETTER S WITH ACUTE
15C LATIN CAPITAL LETTER S WITH CIRCUMFLEX
15D LATIN SMALL LETTER S WITH CIRCUMFLEX
15E LATIN CAPITAL LETTER S WITH CEDILLA
15F LATIN SMALL LETTER S WITH CEDILLA
160 LATIN CAPITAL LETTER S WITH CARON
161 LATIN SMALL LETTER S WITH CARON
162 LATIN CAPITAL LETTER T WITH CEDILLA
163 LATIN SMALL LETTER T WITH CEDILLA
164 LATIN CAPITAL LETTER T WITH CARON
165 LATIN SMALL LETTER T WITH CARON
166 LATIN CAPITAL LETTER T WITH STROKE
167 LATIN SMALL LETTER T WITH STROKE
168 LATIN CAPITAL LETTER U WITH TILDE
169 LATIN SMALL LETTER U WITH TILDE
16A LATIN CAPITAL LETTER U WITH MACRON
16B LATIN SMALL LETTER U WITH MACRON
16C LATIN CAPITAL LETTER U WITH BREVE
16D LATIN SMALL LETTER U WITH BREVE
16E LATIN CAPITAL LETTER U WITH RING ABOVE
16F LATIN SMALL LETTER U WITH RING ABOVE
170 LATIN CAPITAL LETTER U WITH DOUBLE ACUTE
171 LATIN SMALL LETTER U WITH DOUBLE ACUTE
172 LATIN CAPITAL LETTER U WITH OGONEK
173 LATIN SMALL LETTER U WITH OGONEK
174 LATIN CAPITAL LETTER W WITH CIRCUMFLEX
175 LATIN SMALL LETTER W WITH CIRCUMFLEX
176 LATIN CAPITAL LETTER Y WITH CIRCUMFLEX
177 LATIN SMALL LETTER Y WITH CIRCUMFLEX
178 LATIN CAPITAL LETTER Y WITH DIAERESIS
179 LATIN CAPITAL LETTER Z WITH ACUTE
17A LATIN SMALL LETTER Z WITH ACUTE
17B LATIN CAPITAL LETTER Z WITH DOT ABOVE
17C LATIN SMALL LETTER Z WITH DOT ABOVE
17D LATIN CAPITAL LETTER Z WITH CARON
17E LATIN SMALL LETTER Z WITH CARON
17F LATIN SMALL LETTER LONG S
391 GREEK CAPITAL LETTER ALPHA
392 GREEK CAPITAL LETTER BETA
393 GREEK CAPITAL LETTER GAMMA
394 GREEK CAPITAL LETTER DELTA
395 GREEK CAPITAL LETTER EPSILON
396 GREEK CAPITAL LETTER ZETA
397 GREEK CAPITAL LETTER ETA
398 GREEK CAPITAL LETTER THETA
399 GREEK CAPITAL LETTER IOTA
39A GREEK CAPITAL LETTER KAPPA
39B GREEK CAPITAL LETTER LAMDA
39C GREEK CAPITAL LETTER MU
39D GREEK CAPITAL LETTER NU
39E GREEK CAPITAL LETTER XI
39F GREEK CAPITAL LETTER OMICRON
3A0 GREEK CAPITAL LETTER PI
3A1 GREEK CAPITAL LETTER RHO
3A3 GREEK CAPITAL LETTER SIGMA
3A4 GREEK CAPITAL LETTER TAU
3A5 GREEK CAPITAL LETTER UPSILON
3A6 GREEK CAPITAL LETTER PHI
3A7 GREEK CAPITAL LETTER CHI
3A8 GREEK CAPITAL LETTER PSI
3A9 GREEK CAPITAL LETTER OMEGA
3AA GREEK CAPITAL LETTER IOTA WITH DIALYTIKA
3AB GREEK CAPITAL LETTER UPSILON WITH DIALYTIKA
3AC GREEK SMALL LETTER ALPHA WITH TONOS
3AD GREEK SMALL LETTER EPSILON WITH TONOS
3AE GREEK SMALL LETTER ETA WITH TONOS
3AF GREEK SMALL LETTER IOTA WITH TONOS
3B0 GREEK SMALL LETTER UPSILON WITH DIALYTIKA AND TONOS
3B1 GREEK SMALL LETTER ALPHA
3B2 GREEK SMALL LETTER BETA
3B3 GREEK SMALL LETTER GAMMA
3B4 GREEK SMALL LETTER DELTA
3B5 GREEK SMALL LETTER EPSILON
3B6 GREEK SMALL LETTER ZETA
3B7 GREEK SMALL LETTER ETA
3B8 GREEK SMALL LETTER THETA
3B9 GREEK SMALL LETTER IOTA
3BA GREEK SMALL LETTER KAPPA
3BB GREEK SMALL LETTER LAMDA
3BC GREEK SMALL LETTER MU
3BD GREEK SMALL LETTER NU
3BE GREEK SMALL LETTER XI
3BF GREEK SMALL LETTER OMICRON
3C0 GREEK SMALL LETTER PI
3C1 GREEK SMALL LETTER RHO
3C2 GREEK SMALL LETTER FINAL SIGMA
3C3 GREEK SMALL LETTER SIGMA
3C4 GREEK SMALL LETTER TAU
3C5 GREEK SMALL LETTER UPSILON
3C6 GREEK SMALL LETTER PHI
3C7 GREEK SMALL LETTER CHI
3C8 GREEK SMALL LETTER PSI
3C9 GREEK SMALL LETTER OMEGA
410 CYRILLIC CAPITAL LETTER A
411 CYRILLIC CAPITAL LETTER BE
412 CYRILLIC CAPITAL LETTER VE
413 CYRILLIC CAPITAL LETTER GHE
414 CYRILLIC CAPITAL LETTER DE
415 CYRILLIC CAPITAL LETTER IE
416 CYRILLIC CAPITAL LETTER ZHE
417 CYRILLIC CAPITAL LETTER ZE
418 CYRILLIC CAPITAL LETTER I
419 CYRILLIC CAPITAL LETTER SHORT I
41A CYRILLIC CAPITAL LETTER KA
41B CYRILLIC CAPITAL LETTER EL
41C CYRILLIC CAPITAL LETTER EM
41D CYRILLIC CAPITAL LETTER EN
41E CYRILLIC CAPITAL LETTER O
41F CYRILLIC CAPITAL LETTER PE
420 CYRILLIC CAPITAL LETTER ER
421 CYRILLIC CAPITAL LETTER ES
422 CYRILLIC CAPITAL LETTER TE
423 CYRILLIC CAPITAL LETTER U
424 CYRILLIC CAPITAL LETTER EF
425 CYRILLIC CAPITAL LETTER HA
426 CYRILLIC CAPITAL LETTER TSE
427 CYRILLIC CAPITAL LETTER CHE
428 CYRILLIC CAPITAL LETTER SHA
429 CYRILLIC CAPITAL LETTER SHCHA
42A CYRILLIC CAPITAL LETTER HARD SIGN
42B CYRILLIC CAPITAL LETTER YERU
42C CYRILLIC CAPITAL LETTER SOFT SIGN
42D CYRILLIC CAPITAL LETTER E
42E CYRILLIC CAPITAL LETTER YU
42F CYRILLIC CAPITAL LETTER YA
430 CYRILLIC SMALL LETTER A
431 CYRILLIC SMALL LETTER BE
432 CYRILLIC SMALL LETTER VE
433 CYRILLIC SMALL LETTER GHE
434 CYRILLIC SMALL LETTER DE
435 CYRILLIC SMALL LETTER IE
436 CYRILLIC SMALL LETTER ZHE
437 CYRILLIC SMALL LETTER ZE
438 CYRILLIC SMALL LETTER I
439 CYRILLIC SMALL LETTER SHORT I
43A CYRILLIC SMALL LETTER KA
43B CYRILLIC SMALL LETTER EL
43C CYRILLIC SMALL LETTER EM
43D CYRILLIC SMALL LETTER EN
43E CYRILLIC SMALL LETTER O
43F CYRILLIC SMALL LETTER PE
440 CYRILLIC SMALL LETTER ER
441 CYRILLIC SMALL LETTER ES
442 CYRILLIC SMALL LETTER TE
443 CYRILLIC SMALL LETTER U
444 CYRILLIC SMALL LETTER EF
445 CYRILLIC SMALL LETTER HA
446 CYRILLIC SMALL LETTER TSE
447 CYRILLIC SMALL LETTER CHE
448 CYRILLIC SMALL LETTER SHA
449 CYRILLIC SMALL LETTER SHCHA
44A CYRILLIC SMALL LETTER HARD SIGN
44B CYRILLIC SMALL LETTER YERU
44C CYRILLIC SMALL LETTER SOFT SIGN
44D CYRILLIC SMALL LETTER E
44E CYRILLIC SMALL LETTER YU
44F CYRILLIC SMALL LETTER YA
2000 EN QUAD
2001 EM QUAD
2002 EN SPACE
2003 EM SPACE
2004 THREE-PER-EM SPACE
2005 FOUR-PER-EM SPACE
2006 SIX-PER-EM SPACE
2007 FIGURE SPACE
2008 PUNCTUATION SPACE
2009 THIN SPACE
200A HAIR SPACE
200B ZERO WIDTH SPACE
200C ZERO WIDTH NON-JOINER
200D ZERO WIDTH JOINER
200E LEFT-TO-RIGHT MARK
200F RIGHT-TO-LEFT MARK
2010 HYPHEN
2011 NON-BREAKING HYPHEN
2012 FIGURE DASH
2013 EN DASH
2014 EM DASH
2015 HORIZONTAL BAR
2016 DOUBLE VERTICAL LINE
2017 DOUBLE LOW LINE
2018 LEFT SINGLE QUOTATION MARK
2019 RIGHT SINGLE QUOTATION MARK
201A SINGLE LOW-9 QUOTATION MARK
201B SINGLE HIGH-REVERSED-9 QUOTATION MARK
201C LEFT DOUBLE QUOTATION MARK
201D RIGHT DOUBLE QUOTATION MARK
201E DOUBLE LOW-9 QUOTATION MARK
201F DOUBLE HIGH-REVERSED-9 QUOTATION MARK
2020 DAGGER
2021 DOUBLE DAGGER
2022 BULLET
2023 TRIANGULAR BULLET
2024 ONE DOT LEADER
2025 TWO DOT LEADER
2026 HORIZONTAL ELLIPSIS
2027 HYPHENATION POINT
2028 LINE SEPARATOR
2029 PARAGRAPH SEPARATOR
202A LEFT-TO-RIGHT EMBEDDING
202B RIGHT-TO-LEFT EMBEDDING
202C POP DIRECTIONAL FORMATTING
202D LEFT-TO-RIGHT OVERRIDE
202E RIGHT-TO-LEFT OVERRIDE
202F NARROW NO-BREAK SPACE
2030 PER MILLE SIGN
2031 PER TEN THOUSAND SIGN
2032 PRIME
2033 DOUBLE PRIME
2034 TRIPLE PRIME
2035 REVERSED PRIME
2036 REVERSED DOUBLE PRIME
2037 REVERSED TRIPLE PRIME
2038 CARET
2039 SINGLE LEFT-POINTING ANGLE QUOTATION MARK
203A SINGLE RIGHT-POINTING ANGLE QUOTATION MARK
203B REFERENCE MARK
203C DOUBLE EXCLAMATION MARK
203D INTERROBANG
203E OVERLINE
203F UNDERTIE
2040 CHARACTER TIE
2041 CARET INSERTION POINT
2042 ASTERISM
2043 HYPHEN BULLET
2044 FRACTION SLASH
2045 LEFT SQUARE BRACKET WITH QUILL
2046 RIGHT SQUARE BRACKET WITH QUILL
2047 DOUBLE QUESTION MARK
2048 QUESTION EXCLAMATION MARK
2049 EXCLAMATION QUESTION MARK
204A TIRONIAN SIGN ET
204B REVERSED PILCROW SIGN
204C BLACK LEFTWARDS BULLET
204D BLACK RIGHTWARDS BULLET
204E LOW ASTERISK
204F REVERSED SEMICOLON
2050 CLOSE UP
2051 TWO ASTERISKS ALIGNED VERTICALLY
2052 COMMERCIAL MINUS SIGN
2053 SWUNG DASH
2054 INVERTED UNDERTIE
2055 FLOWER PUNCTUATION MARK
2056 THREE DOT PUNCTUATION
2057 QUADRUPLE PRIME
2058 FOUR DOT PUNCTUATION
2059 FIVE DOT PUNCTUATION
205A TWO DOT PUNCTUATION
205B FOUR DOT MARK
205C DOTTED CROSS
205D TRICOLON
205E VERTICAL FOUR DOTS
205F MEDIUM MATHEMATICAL SPACE
2060 WORD JOINER
2061 FUNCTION APPLICATION
2062 INVISIBLE TIMES
2063 INVISIBLE SEPARATOR
2064 INVISIBLE PLUS
20A0 EURO-CURRENCY SIGN
20A1 COLON SIGN
20A2 CRUZEIRO SIGN
20A3 FRENCH FRANC SIGN
20A4 LIRA SIGN
20A5 MILL SIGN
20A6 NAIRA SIGN
20A7 PESETA SIGN
20A8 RUPEE SIGN
20A9 WON SIGN
20AA NEW SHEQEL SIGN
20AB DONG SIGN
20AC EURO SIGN
20AD KIP SIGN
20AE TUGRIK SIGN
20AF DRACHMA SIGN
20B0 GERMAN PENNY SIGN
20B1 PESO SIGN
20B2 GUARANI SIGN
20B3 AUSTRAL SIGN
20B4 HRYVNIA SIGN
20B5 CEDI SIGN
20B6 LIVRE TOURNOIS SIGN
20B7 SPESMILO SIGN
20B8 TENGE SIGN
20B9 INDIAN RUPEE SIGN
20BA TURKISH LIRA SIGN
20BB NORDIC MARK SIGN
20BC MANAT SIGN
20BD RUBLE SIGN
20BE LARI SIGN
20BF BITCOIN SIGN
20C0 SOM SIGN
2122 TRADE MARK SIGN
2190 LEFTWARDS ARROW
2191 UPWARDS ARROW
2192 RIGHTWARDS ARROW
2193 DOWNWARDS ARROW
2194 LEFT RIGHT ARROW
2195 UP DOWN ARROW
2196 NORTH WEST ARROW
2197 NORTH EAST ARROW
2198 SOUTH EAST ARROW
2199 SOUTH WEST ARROW
2200 FOR ALL
2201 COMPLEMENT
2202 PARTIAL DIFFERENTIAL
2203 THERE EXISTS
2204 THERE DOES NOT EXIST
2205 EMPTY SET
2206 INCREMENT
2207 NABLA
2208 ELEMENT OF
2209 NOT AN ELEMENT OF
220A SMALL ELEMENT OF
220B CONTAINS AS MEMBER
220C DOES NOT CONTAIN AS MEMBER
220D SMALL CONTAINS AS MEMBER
220E END OF PROOF
220F N-ARY PRODUCT
221E INFINITY
2260 NOT EQUAL TO
2261 IDENTICAL TO
2262 NOT IDENTICAL TO
2263 STRICTLY EQUIVALENT TO
2264 LESS-THAN OR EQUAL TO
2265 GREATER-THAN OR EQUAL TO
2600 BLACK SUN WITH RAYS
2601 CLOUD
2602 UMBRELLA
2603 SNOWMAN
2604 COMET
2605 BLACK STAR
2606 WHITE STAR
2660 BLACK SPADE SUIT
2661 WHITE HEART SUIT
2662 WHITE DIAMOND SUIT
2663 BLACK CLUB SUIT
2664 WHITE SPADE SUIT
2665 BLACK HEART SUIT
2666 BLACK DIAMOND SUIT
2667 WHITE CLUB SUIT
2713 CHECK MARK
2714 HEAVY CHECK MARK
2715 MULTIPLICATION X
2716 HEAVY MULTIPLICATION X
2717 BALLOT X
2718 HEAVY BALLOT X
3001 IDEOGRAPHIC COMMA
3002 IDEOGRAPHIC FULL STOP
FEFF ZERO WIDTH NO-BREAK SPACE
FFFD REPLACEMENT CHARACTER
1F600 GRINNING FACE
1F601 GRINNING FACE WITH SMILING EYES
1F602 FACE WITH TEARS OF JOY
1F603 SMILING FACE WITH OPEN MOUTH
1F604 SMILING FACE WITH OPEN MOUTH AND SMILING EYES
1F605 SMILING FACE WITH OPEN MOUTH AND COLD SWEAT
1F606 SMILING FACE WITH OPEN MOUTH AND TIGHTLY-CLOSED EYES
1F607 SMILING FACE WITH HALO
1F608 SMILING FACE WITH HORNS
1F609 WINKING FACE
1F60A SMILING FACE WITH SMILING EYES
1F60B FACE SAVOURING DELICIOUS FOOD
1F60C RELIEVED FACE
1F60D SMILING FACE WITH HEART-SHAPED EYES
1F60E SMILING FACE WITH SUNGLASSES
1F60F SMIRKING FACE
1F610 NEUTRAL FACE
1F611 EXPRESSIONLESS FACE
1F612 UNAMUSED FACE
1F613 FACE WITH COLD SWEAT
1F614 PENSIVE FACE
1F615 CONFUSED FACE
1F616 CONFOUNDED FACE
1F617 KISSING FACE
1F618 FACE THROWING A KISS
1F619 KISSING FACE WITH SMILING EYES
1F61A KISSING FACE WITH CLOSED EYES
1F61B FACE WITH STUCK-OUT TONGUE
1F61C FACE WITH STUCK-OUT TONGUE AND WINKING EYE
1F61D FACE WITH STUCK-OUT TONGUE AND TIGHTLY-CLOSED EYES
1F61E DISAPPOINTED FACE
1F61F WORRIED FACE
1F620 ANGRY FACE
1F621 POUTING FACE
1F622 CRYING FACE
1F623 PERSEVERING FACE
1F624 FACE WITH LOOK OF TRIUMPH
1F625 DISAPPOINTED BUT RELIEVED FACE
1F626 FROWNING FACE WITH OPEN MOUTH
1F627 ANGUISHED FACE
1F628 FEARFUL FACE
1F629 WEARY FACE
1F62A SLEEPY FACE
1F62B TIRED FACE
1F62C GRIMACING FACE
1F62D LOUDLY CRYING FACE
1F62E FACE WITH OPEN MOUTH
1F62F HUSHED FACE
1F630 FACE WITH OPEN MOUTH AND COLD SWEAT
1F631 FACE SCREAMING IN FEAR
1F632 ASTONISHED FACE
1F633 FLUSHED FACE
1F634 SLEEPING FACE
1F635 DIZZY FACE
1F636 FACE WITHOUT MOUTH
1F637 FACE WITH MEDICAL MASK
1F638 GRINNING CAT FACE WITH SMILING EYES
1F639 CAT FACE WITH TEARS OF JOY
1F63A SMILING CAT FACE WITH OPEN MOUTH
1F63B SMILING CAT FACE WITH HEART-SHAPED EYES
1F63C CAT FACE WITH WRY SMILE
1F63D KISSING CAT FACE WITH CLOSED EYES
1F63E POUTING CAT FACE
1F63F CRYING CAT FACE
1F640 WEARY CAT FACE
1F641 SLIGHTLY FROWNING FACE
1F642 SLIGHTLY SMILING FACE
1F643 UPSIDE-DOWN FACE
1F644 FACE WITH ROLLING EYES
1F645 FACE WITH NO GOOD GESTURE
1F646 FACE WITH OK GESTURE
1F647 PERSON BOWING DEEPLY
1F648 SEE-NO-EVIL MONKEY
1F649 HEAR-NO-EVIL MONKEY
1F64A SPEAK-NO-EVIL MONKEY
1F64B HAPPY PERSON RAISING ONE HAND
1F64C PERSON RAISING BOTH HANDS IN CELEBRATION
1F64D PERSON FROWNING
1F64E PERSON WITH POUTING FACE
1F64F PERSON WITH FOLDED HANDS
1F4A9 PILE OF POO
0 NULL
1F514 BELL
7 ALERT
8 BACKSPACE
9 CHARACTER TABULATION
9 HORIZONTAL TABULATION
9 TAB
9 HT
A LINE FEED
A NEW LINE
A LF
A NL
B LINE TABULATION
B VERTICAL TABULATION
B VT
C FORM FEED
C FF
D CARRIAGE RETURN
D CR
1B ESCAPE
1B ESC
7F DELETE
7F DEL
0 NUL
85 NEXT LINE
85 NEL
A0 NBSP
AD SHY
200B ZWSP
200C ZWNJ
200D ZWJ
200E LRM
200F RLM
FEFF BYTE ORDER MARK
FEFF BOM
20 SP"

/-- A number in hexadecimal digits. -/
def hexNumber? (cs : List Char) : Option Nat :=
  cs.foldl (fun n c => do
    let n ← n
    let d ← if '0' ≤ c ∧ c ≤ '9' then some (c.toNat - 48)
      else if 'A' ≤ c ∧ c ≤ 'F' then some (c.toNat - 55) else none
    return 16 * n + d) (if cs.isEmpty then none else some 0)

/-- The number in the name of an ideograph. -/
def ideographNamed? (name : String) : Option Nat := do
  let stem := "CJK UNIFIED IDEOGRAPH-".toList
  if !stem.isPrefixOf name.toList then none
  let n ← hexNumber? (name.toList.drop stem.length)
  if (0x4E00 ≤ n ∧ n ≤ 0x9FFF) ∨ (0x3400 ≤ n ∧ n ≤ 0x4DBF) ∨ (0x20000 ≤ n ∧ n ≤ 0x2A6DF) then some n
  else none

/-- The code point of a name, in any letter case. -/
def characterNamed? (name : String) : Option Nat :=
  let name := String.ofList (name.toList.map Char.toUpper)
  (ideographNamed? name).orElse fun _ =>
    (characterNames.splitOn "\n").findSome? fun line =>
      let (code, rest) := line.toList.span (· != ' ')
      if String.ofList (rest.drop 1) == name then hexNumber? code else none

end Rulebook
