/-!
# Names beside the proper ones

Control characters have no names but go by others, and some characters have abbreviations or corrected names.  The
digits of many scripts are named alike.
-/

namespace SchemaLint

namespace CharacterName

/-- The other names of characters: in a row, those of one code point. -/
def others : String := "
0 |NULL,NUL
1 |START OF HEADING,SOH
2 |START OF TEXT,STX
3 |END OF TEXT,ETX
4 |END OF TRANSMISSION,EOT
5 |ENQUIRY,ENQ
6 |ACKNOWLEDGE,ACK
7 |ALERT,BEL
8 |BACKSPACE,BS
9 |CHARACTER TABULATION,HORIZONTAL TABULATION,HT,TAB
A |LINE FEED,NEW LINE,END OF LINE,EOL,LF,NL
B |LINE TABULATION,VERTICAL TABULATION,VT
C |FORM FEED,FF
D |CARRIAGE RETURN,CR
E |SHIFT OUT,LOCKING-SHIFT ONE,SO
F |SHIFT IN,LOCKING-SHIFT ZERO,SI
10 |DATA LINK ESCAPE,DLE
11 |DEVICE CONTROL ONE,DC1
12 |DEVICE CONTROL TWO,DC2
13 |DEVICE CONTROL THREE,DC3
14 |DEVICE CONTROL FOUR,DC4
15 |NEGATIVE ACKNOWLEDGE,NAK
16 |SYNCHRONOUS IDLE,SYN
17 |END OF TRANSMISSION BLOCK,ETB
18 |CANCEL,CAN
19 |END OF MEDIUM,EOM
1A |SUBSTITUTE,SUB
1B |ESCAPE,ESC
1C |INFORMATION SEPARATOR FOUR,FILE SEPARATOR,FS
1D |INFORMATION SEPARATOR THREE,GROUP SEPARATOR,GS
1E |INFORMATION SEPARATOR TWO,RECORD SEPARATOR,RS
1F |INFORMATION SEPARATOR ONE,UNIT SEPARATOR,US
20 |SP
7F |DELETE,DEL
80 |PADDING CHARACTER,PAD
81 |HIGH OCTET PRESET,HOP
82 |BREAK PERMITTED HERE,BPH
83 |NO BREAK HERE,NBH
84 |INDEX,IND
85 |NEXT LINE,NEL
86 |START OF SELECTED AREA,SSA
87 |END OF SELECTED AREA,ESA
88 |CHARACTER TABULATION SET,HORIZONTAL TABULATION SET,HTS
89 |CHARACTER TABULATION WITH JUSTIFICATION,HORIZONTAL TABULATION WITH JUSTIFICATION,HTJ
8A |LINE TABULATION SET,VERTICAL TABULATION SET,VTS
8B |PARTIAL LINE FORWARD,PARTIAL LINE DOWN,PLD
8C |PARTIAL LINE BACKWARD,PARTIAL LINE UP,PLU
8D |REVERSE LINE FEED,REVERSE INDEX,RI
8E |SINGLE SHIFT TWO,SINGLE-SHIFT-2,SS2
8F |SINGLE SHIFT THREE,SINGLE-SHIFT-3,SS3
90 |DEVICE CONTROL STRING,DCS
91 |PRIVATE USE ONE,PRIVATE USE-1,PU1
92 |PRIVATE USE TWO,PRIVATE USE-2,PU2
93 |SET TRANSMIT STATE,STS
94 |CANCEL CHARACTER,CCH
95 |MESSAGE WAITING,MW
96 |START OF GUARDED AREA,START OF PROTECTED AREA,SPA
97 |END OF GUARDED AREA,END OF PROTECTED AREA,EPA
98 |START OF STRING,SOS
99 |SINGLE GRAPHIC CHARACTER INTRODUCER,SGC
9A |SINGLE CHARACTER INTRODUCER,SCI
9B |CONTROL SEQUENCE INTRODUCER,CSI
9C |STRING TERMINATOR,ST
9D |OPERATING SYSTEM COMMAND,OSC
9E |PRIVACY MESSAGE,PM
9F |APPLICATION PROGRAM COMMAND,APC
A0 |NBSP
AD |SHY
1A2 |LATIN CAPITAL LETTER GHA
1A3 |LATIN SMALL LETTER GHA
34F |CGJ
61C |ALM
709 |SYRIAC SUBLINEAR COLON SKEWED LEFT
CDE |KANNADA LETTER LLLA
E9D |LAO LETTER FO FON
E9F |LAO LETTER FO FAY
EA3 |LAO LETTER RO
EA5 |LAO LETTER LO
FD0 |TIBETAN MARK BKA- SHOG GI MGO RGYAN
11EC |HANGUL JONGSEONG YESIEUNG-KIYEOK
11ED |HANGUL JONGSEONG YESIEUNG-SSANGKIYEOK
11EE |HANGUL JONGSEONG SSANGYESIEUNG
11EF |HANGUL JONGSEONG YESIEUNG-KHIEUKH
180B |FVS1
180C |FVS2
180D |FVS3
180E |MVS
180F |FVS4
200B |ZWSP
200C |ZWNJ
200D |ZWJ
200E |LRM
200F |RLM
202A |LRE
202B |RLE
202C |PDF
202D |LRO
202E |RLO
202F |NNBSP
205F |MMSP
2060 |WJ
2066 |LRI
2067 |RLI
2068 |FSI
2069 |PDI
2118 |WEIERSTRASS ELLIPTIC FUNCTION
2448 |MICR ON US SYMBOL
2449 |MICR DASH SYMBOL
2B7A |LEFTWARDS TRIANGLE-HEADED ARROW WITH DOUBLE VERTICAL STROKE
2B7C |RIGHTWARDS TRIANGLE-HEADED ARROW WITH DOUBLE VERTICAL STROKE
A015 |YI SYLLABLE ITERATION MARK
AA6E |MYANMAR LETTER KHAMTI LLA
FE18 |PRESENTATION FORM FOR VERTICAL RIGHT WHITE LENTICULAR BRACKET
FEFF |BYTE ORDER MARK,BOM,ZWNBSP
122D4 |CUNEIFORM SIGN NU11 TENU
122D5 |CUNEIFORM SIGN NU11 OVER NU11 BUR OVER BUR
16E56 |MEDEFAIDRIN CAPITAL LETTER H
16E57 |MEDEFAIDRIN CAPITAL LETTER NG
16E76 |MEDEFAIDRIN SMALL LETTER H
16E77 |MEDEFAIDRIN SMALL LETTER NG
1B001 |HENTAIGANA LETTER E-1
1D0C5 |BYZANTINE MUSICAL SYMBOL FTHORA SKLIRON CHROMA VASIS"

/-- The scripts whose digits are not in a table, with the code points of their zeros. -/
def scriptsWithDigits : List (Nat × String) :=
  [(0x7C0, "NKO"), (0x966, "DEVANAGARI"), (0x9E6, "BENGALI"), (0xA66, "GURMUKHI"), (0xAE6, "GUJARATI"),
    (0xB66, "ORIYA"), (0xBE6, "TAMIL"), (0xC66, "TELUGU"), (0xCE6, "KANNADA"), (0xD66, "MALAYALAM"),
    (0xDE6, "SINHALA LITH"), (0xE50, "THAI"), (0xED0, "LAO"), (0xF20, "TIBETAN"), (0x1040, "MYANMAR"),
    (0x1090, "MYANMAR SHAN"), (0x17E0, "KHMER"), (0x1810, "MONGOLIAN"), (0x1946, "LIMBU"), (0x19D0, "NEW TAI LUE"),
    (0x1A80, "TAI THAM HORA"), (0x1A90, "TAI THAM THAM"), (0x1B50, "BALINESE"), (0x1BB0, "SUNDANESE"),
    (0x1C40, "LEPCHA"), (0x1C50, "OL CHIKI"), (0xA620, "VAI"), (0xA8D0, "SAURASHTRA"), (0xA900, "KAYAH LI"),
    (0xA9D0, "JAVANESE"), (0xA9F0, "MYANMAR TAI LAING"), (0xAA50, "CHAM"), (0xABF0, "MEETEI MAYEK"),
    (0x104A0, "OSMANYA"), (0x10D30, "HANIFI ROHINGYA"), (0x11066, "BRAHMI"), (0x110F0, "SORA SOMPENG"),
    (0x11136, "CHAKMA"), (0x111D0, "SHARADA"), (0x112F0, "KHUDAWADI"), (0x11450, "NEWA"), (0x114D0, "TIRHUTA"),
    (0x11650, "MODI"), (0x116C0, "TAKRI"), (0x11730, "AHOM"), (0x118E0, "WARANG CITI"), (0x11950, "DIVES AKURU"),
    (0x11C50, "BHAIKSUKI"), (0x11D50, "MASARAM GONDI"), (0x11DA0, "GUNJALA GONDI"), (0x16A60, "MRO"),
    (0x16AC0, "TANGSA"), (0x16B50, "PAHAWH HMONG"), (0x1E140, "NYIAKENG PUACHUE HMONG"), (0x1E2F0, "WANCHO"),
    (0x1E950, "ADLAM"), (0x1FBF0, "SEGMENTED")]

def digitWords : List String :=
  ["ZERO", "ONE", "TWO", "THREE", "FOUR", "FIVE", "SIX", "SEVEN", "EIGHT", "NINE"]

end CharacterName

end SchemaLint
