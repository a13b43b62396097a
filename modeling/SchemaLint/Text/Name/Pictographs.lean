/-!
# Names of pictographs

The names of tiles, cards, enclosed letters and pictographs, in rows as the look-up reads them.
-/

namespace SchemaLint

namespace CharacterName

/-- Tiles, cards and enclosed letters. -/
def tiles : String := "
1F000 MAHJONG TILE |EAST WIND,SOUTH WIND,WEST WIND,NORTH WIND,RED DRAGON,GREEN DRAGON
1F006 MAHJONG TILE |WHITE DRAGON,ONE OF CHARACTERS,TWO OF CHARACTERS,THREE OF CHARACTERS,FOUR OF CHARACTERS
1F00B MAHJONG TILE |FIVE OF CHARACTERS,SIX OF CHARACTERS,SEVEN OF CHARACTERS,EIGHT OF CHARACTERS,NINE OF CHARACTERS
1F010 MAHJONG TILE |ONE OF BAMBOOS,TWO OF BAMBOOS,THREE OF BAMBOOS,FOUR OF BAMBOOS,FIVE OF BAMBOOS,SIX OF BAMBOOS
1F016 MAHJONG TILE |SEVEN OF BAMBOOS,EIGHT OF BAMBOOS,NINE OF BAMBOOS,ONE OF CIRCLES,TWO OF CIRCLES,THREE OF CIRCLES
1F01C MAHJONG TILE |FOUR OF CIRCLES,FIVE OF CIRCLES,SIX OF CIRCLES,SEVEN OF CIRCLES,EIGHT OF CIRCLES
1F021 MAHJONG TILE |NINE OF CIRCLES,PLUM,ORCHID,BAMBOO,CHRYSANTHEMUM,SPRING,SUMMER,AUTUMN,WINTER,JOKER,BACK
1F030 DOMINO TILE HORIZONTAL |BACK
1F031 DOMINO TILE |HORIZONTAL-00-00,HORIZONTAL-00-01,HORIZONTAL-00-02,HORIZONTAL-00-03,HORIZONTAL-00-04
1F036 DOMINO TILE |HORIZONTAL-00-05,HORIZONTAL-00-06,HORIZONTAL-01-00,HORIZONTAL-01-01,HORIZONTAL-01-02
1F03B DOMINO TILE |HORIZONTAL-01-03,HORIZONTAL-01-04,HORIZONTAL-01-05,HORIZONTAL-01-06,HORIZONTAL-02-00
1F040 DOMINO TILE |HORIZONTAL-02-01,HORIZONTAL-02-02,HORIZONTAL-02-03,HORIZONTAL-02-04,HORIZONTAL-02-05
1F045 DOMINO TILE |HORIZONTAL-02-06,HORIZONTAL-03-00,HORIZONTAL-03-01,HORIZONTAL-03-02,HORIZONTAL-03-03
1F04A DOMINO TILE |HORIZONTAL-03-04,HORIZONTAL-03-05,HORIZONTAL-03-06,HORIZONTAL-04-00,HORIZONTAL-04-01
1F04F DOMINO TILE |HORIZONTAL-04-02,HORIZONTAL-04-03,HORIZONTAL-04-04,HORIZONTAL-04-05,HORIZONTAL-04-06
1F054 DOMINO TILE |HORIZONTAL-05-00,HORIZONTAL-05-01,HORIZONTAL-05-02,HORIZONTAL-05-03,HORIZONTAL-05-04
1F059 DOMINO TILE |HORIZONTAL-05-05,HORIZONTAL-05-06,HORIZONTAL-06-00,HORIZONTAL-06-01,HORIZONTAL-06-02
1F05E DOMINO TILE |HORIZONTAL-06-03,HORIZONTAL-06-04,HORIZONTAL-06-05,HORIZONTAL-06-06,VERTICAL BACK,VERTICAL-00-00
1F064 DOMINO TILE |VERTICAL-00-01,VERTICAL-00-02,VERTICAL-00-03,VERTICAL-00-04,VERTICAL-00-05,VERTICAL-00-06
1F06A DOMINO TILE |VERTICAL-01-00,VERTICAL-01-01,VERTICAL-01-02,VERTICAL-01-03,VERTICAL-01-04,VERTICAL-01-05
1F070 DOMINO TILE |VERTICAL-01-06,VERTICAL-02-00,VERTICAL-02-01,VERTICAL-02-02,VERTICAL-02-03,VERTICAL-02-04
1F076 DOMINO TILE |VERTICAL-02-05,VERTICAL-02-06,VERTICAL-03-00,VERTICAL-03-01,VERTICAL-03-02,VERTICAL-03-03
1F07C DOMINO TILE |VERTICAL-03-04,VERTICAL-03-05,VERTICAL-03-06,VERTICAL-04-00,VERTICAL-04-01,VERTICAL-04-02
1F082 DOMINO TILE |VERTICAL-04-03,VERTICAL-04-04,VERTICAL-04-05,VERTICAL-04-06,VERTICAL-05-00,VERTICAL-05-01
1F088 DOMINO TILE |VERTICAL-05-02,VERTICAL-05-03,VERTICAL-05-04,VERTICAL-05-05,VERTICAL-05-06,VERTICAL-06-00
1F08E DOMINO TILE |VERTICAL-06-01,VERTICAL-06-02,VERTICAL-06-03,VERTICAL-06-04,VERTICAL-06-05,VERTICAL-06-06
1F0A0 PLAYING CARD |BACK,ACE OF SPADES,TWO OF SPADES
1F0A3 PLAYING CARD |THREE OF SPADES,FOUR OF SPADES,FIVE OF SPADES,SIX OF SPADES,SEVEN OF SPADES,EIGHT OF SPADES
1F0A9 PLAYING CARD |NINE OF SPADES,TEN OF SPADES,JACK OF SPADES,KNIGHT OF SPADES,QUEEN OF SPADES,KING OF SPADES
1F0B1 PLAYING CARD |ACE OF HEARTS,TWO OF HEARTS,THREE OF HEARTS
1F0B4 PLAYING CARD |FOUR OF HEARTS,FIVE OF HEARTS,SIX OF HEARTS,SEVEN OF HEARTS,EIGHT OF HEARTS,NINE OF HEARTS
1F0BA PLAYING CARD |TEN OF HEARTS,JACK OF HEARTS,KNIGHT OF HEARTS,QUEEN OF HEARTS,KING OF HEARTS,RED JOKER
1F0C1 PLAYING CARD |ACE OF DIAMONDS,TWO OF DIAMONDS,THREE OF DIAMONDS,FOUR OF DIAMONDS,FIVE OF DIAMONDS
1F0C6 PLAYING CARD |SIX OF DIAMONDS,SEVEN OF DIAMONDS,EIGHT OF DIAMONDS,NINE OF DIAMONDS,TEN OF DIAMONDS
1F0CB PLAYING CARD |JACK OF DIAMONDS,KNIGHT OF DIAMONDS,QUEEN OF DIAMONDS,KING OF DIAMONDS,BLACK JOKER
1F0D1 PLAYING CARD |ACE OF CLUBS,TWO OF CLUBS,THREE OF CLUBS
1F0D4 PLAYING CARD |FOUR OF CLUBS,FIVE OF CLUBS,SIX OF CLUBS,SEVEN OF CLUBS,EIGHT OF CLUBS,NINE OF CLUBS
1F0DA PLAYING CARD |TEN OF CLUBS,JACK OF CLUBS,KNIGHT OF CLUBS,QUEEN OF CLUBS,KING OF CLUBS,WHITE JOKER
1F0E0 PLAYING CARD |FOOL,TRUMP-1,TRUMP-2,TRUMP-3,TRUMP-4,TRUMP-5,TRUMP-6,TRUMP-7,TRUMP-8,TRUMP-9,TRUMP-10,TRUMP-11
1F0EC PLAYING CARD |TRUMP-12,TRUMP-13,TRUMP-14,TRUMP-15,TRUMP-16,TRUMP-17,TRUMP-18,TRUMP-19,TRUMP-20,TRUMP-21
1F100 DIGIT ZERO |FULL STOP,COMMA
1F102 DIGIT |ONE COMMA,TWO COMMA,THREE COMMA,FOUR COMMA,FIVE COMMA,SIX COMMA,SEVEN COMMA,EIGHT COMMA,NINE COMMA
1F10B DINGBAT |CIRCLED SANS-SERIF DIGIT ZERO,NEGATIVE CIRCLED SANS-SERIF DIGIT ZERO
1F10D CIRCLED |ZERO WITH SLASH,ANTICLOCKWISE ARROW,DOLLAR SIGN WITH OVERLAID BACKSLASH
1F110 PARENTHESIZED LATIN CAPITAL LETTER |A,B,C,D,E,F,G,H,I,J,K,L,M,N,O,P,Q,R,S,T,U,V,W,X,Y,Z
1F12A TORTOISE SHELL BRACKETED LATIN CAPITAL LETTER |S
1F12B CIRCLED ITALIC LATIN CAPITAL LETTER |C,R
1F12D |CIRCLED CD,CIRCLED WZ,COPYLEFT SYMBOL
1F130 SQUARED LATIN CAPITAL LETTER |A,B,C,D,E,F,G,H,I,J,K,L,M,N,O,P,Q,R,S,T,U,V,W,X,Y,Z
1F14A SQUARED |HV,MV,SD,SS,PPV,WC
1F150 NEGATIVE CIRCLED LATIN CAPITAL LETTER |A,B,C,D,E,F,G,H,I,J,K,L,M,N,O,P,Q,R,S,T,U,V,W,X,Y,Z
1F16A RAISED |MC SIGN,MD SIGN,MR SIGN
1F16D CIRCLED |CC,C WITH OVERLAID BACKSLASH,HUMAN FIGURE
1F170 NEGATIVE SQUARED LATIN CAPITAL LETTER |A,B,C,D,E,F,G,H,I,J,K,L,M,N,O,P,Q,R,S,T,U,V,W,X,Y,Z
1F18A CROSSED NEGATIVE SQUARED LATIN CAPITAL LETTER |P
1F18B NEGATIVE SQUARED |IC,PA,SA,AB,WC
1F190 SQUARE |DJ
1F191 SQUARED |CL,COOL,FREE,ID,NEW,NG,OK,SOS,UP WITH EXCLAMATION MARK
1F19A SQUARED |VS,THREE D,SECOND SCREEN,TWO K,FOUR K,EIGHT K,FIVE POINT ONE,SEVEN POINT ONE,TWENTY-TWO POINT TWO
1F1A3 SQUARED |SIXTY P,ONE HUNDRED TWENTY P,LATIN SMALL LETTER D,HC,HDR,HI-RES,LOSSLESS,SHV,UHD,VOD
1F1AD MASK WORK |SYMBOL
1F1E6 REGIONAL INDICATOR SYMBOL LETTER |A,B,C,D,E,F,G,H,I,J,K,L,M,N,O,P,Q,R,S,T,U,V,W,X,Y,Z
1F200 SQUARE HIRAGANA |HOKA
1F201 SQUARED KATAKANA |KOKO,SA
1F210 SQUARED CJK UNIFIED |IDEOGRAPH-624B,IDEOGRAPH-5B57,IDEOGRAPH-53CC
1F213 SQUARED KATAKANA |DE
1F214 SQUARED CJK UNIFIED |IDEOGRAPH-4E8C,IDEOGRAPH-591A,IDEOGRAPH-89E3,IDEOGRAPH-5929
1F218 SQUARED CJK UNIFIED |IDEOGRAPH-4EA4,IDEOGRAPH-6620,IDEOGRAPH-7121,IDEOGRAPH-6599,IDEOGRAPH-524D,IDEOGRAPH-5F8C
1F21E SQUARED CJK UNIFIED |IDEOGRAPH-518D,IDEOGRAPH-65B0,IDEOGRAPH-521D,IDEOGRAPH-7D42,IDEOGRAPH-751F,IDEOGRAPH-8CA9
1F224 SQUARED CJK UNIFIED |IDEOGRAPH-58F0,IDEOGRAPH-5439,IDEOGRAPH-6F14,IDEOGRAPH-6295,IDEOGRAPH-6355,IDEOGRAPH-4E00
1F22A SQUARED CJK UNIFIED |IDEOGRAPH-4E09,IDEOGRAPH-904A,IDEOGRAPH-5DE6,IDEOGRAPH-4E2D,IDEOGRAPH-53F3,IDEOGRAPH-6307
1F230 SQUARED CJK UNIFIED |IDEOGRAPH-8D70,IDEOGRAPH-6253,IDEOGRAPH-7981,IDEOGRAPH-7A7A,IDEOGRAPH-5408,IDEOGRAPH-6E80
1F236 SQUARED CJK UNIFIED |IDEOGRAPH-6709,IDEOGRAPH-6708,IDEOGRAPH-7533,IDEOGRAPH-5272,IDEOGRAPH-55B6,IDEOGRAPH-914D
1F240 TORTOISE SHELL BRACKETED CJK UNIFIED |IDEOGRAPH-672C
1F241 TORTOISE SHELL BRACKETED CJK UNIFIED |IDEOGRAPH-4E09,IDEOGRAPH-4E8C,IDEOGRAPH-5B89,IDEOGRAPH-70B9
1F245 TORTOISE SHELL BRACKETED CJK UNIFIED |IDEOGRAPH-6253,IDEOGRAPH-76D7,IDEOGRAPH-52DD,IDEOGRAPH-6557
1F250 CIRCLED IDEOGRAPH |ADVANTAGE,ACCEPT
1F260 ROUNDED SYMBOL FOR |FU,LU,SHOU,XI,SHUANGXI,CAI"

def pictographs : String := "
1F300 |CYCLONE,FOGGY,CLOSED UMBRELLA,NIGHT WITH STARS,SUNRISE OVER MOUNTAINS
1F305 |SUNRISE,CITYSCAPE AT DUSK,SUNSET OVER BUILDINGS,RAINBOW,BRIDGE AT NIGHT,WATER WAVE,VOLCANO,MILKY WAY
1F30D EARTH GLOBE |EUROPE-AFRICA,AMERICAS,ASIA-AUSTRALIA
1F310 GLOBE WITH |MERIDIANS
1F311 |NEW MOON SYMBOL,WAXING CRESCENT MOON SYMBOL,FIRST QUARTER MOON SYMBOL,WAXING GIBBOUS MOON SYMBOL
1F315 |FULL MOON SYMBOL,WANING GIBBOUS MOON SYMBOL,LAST QUARTER MOON SYMBOL,WANING CRESCENT MOON SYMBOL
1F319 |CRESCENT MOON,NEW MOON WITH FACE,FIRST QUARTER MOON WITH FACE,LAST QUARTER MOON WITH FACE
1F31D |FULL MOON WITH FACE,SUN WITH FACE,GLOWING STAR,SHOOTING STAR,THERMOMETER,BLACK DROPLET,WHITE SUN
1F324 WHITE SUN |WITH SMALL CLOUD,BEHIND CLOUD,BEHIND CLOUD WITH RAIN
1F327 CLOUD WITH |RAIN,SNOW,LIGHTNING,TORNADO
1F32B |FOG,WIND BLOWING FACE,HOT DOG,TACO,BURRITO,CHESTNUT,SEEDLING,EVERGREEN TREE,DECIDUOUS TREE
1F334 |PALM TREE,CACTUS,HOT PEPPER,TULIP,CHERRY BLOSSOM,ROSE,HIBISCUS,SUNFLOWER,BLOSSOM,EAR OF MAIZE,EAR OF RICE
1F33F |HERB,FOUR LEAF CLOVER,MAPLE LEAF,FALLEN LEAF,LEAF FLUTTERING IN WIND,MUSHROOM,TOMATO,AUBERGINE,GRAPES,MELON
1F349 |WATERMELON,TANGERINE,LEMON,BANANA,PINEAPPLE,RED APPLE,GREEN APPLE,PEAR,PEACH,CHERRIES,STRAWBERRY,HAMBURGER
1F355 |SLICE OF PIZZA,MEAT ON BONE,POULTRY LEG,RICE CRACKER,RICE BALL,COOKED RICE,CURRY AND RICE,STEAMING BOWL
1F35D |SPAGHETTI,BREAD,FRENCH FRIES,ROASTED SWEET POTATO,DANGO,ODEN,SUSHI,FRIED SHRIMP,FISH CAKE WITH SWIRL DESIGN
1F366 |SOFT ICE CREAM,SHAVED ICE,ICE CREAM,DOUGHNUT,COOKIE,CHOCOLATE BAR,CANDY,LOLLIPOP,CUSTARD
1F36F |HONEY POT,SHORTCAKE,BENTO BOX,POT OF FOOD,COOKING,FORK AND KNIFE,TEACUP WITHOUT HANDLE,SAKE BOTTLE AND CUP
1F377 |WINE GLASS,COCKTAIL GLASS,TROPICAL DRINK,BEER MUG,CLINKING BEER MUGS,BABY BOTTLE,FORK AND KNIFE WITH PLATE
1F37E |BOTTLE WITH POPPING CORK,POPCORN,RIBBON,WRAPPED PRESENT,BIRTHDAY CAKE,JACK-O-LANTERN,CHRISTMAS TREE
1F385 |FATHER CHRISTMAS,FIREWORKS,FIREWORK SPARKLER,BALLOON,PARTY POPPER,CONFETTI BALL,TANABATA TREE,CROSSED FLAGS
1F38D |PINE DECORATION,JAPANESE DOLLS,CARP STREAMER,WIND CHIME,MOON VIEWING CEREMONY,SCHOOL SATCHEL,GRADUATION CAP
1F394 |HEART WITH TIP ON THE LEFT,BOUQUET OF FLOWERS,MILITARY MEDAL,REMINDER RIBBON,MUSICAL KEYBOARD WITH JACKS
1F399 |STUDIO MICROPHONE,LEVEL SLIDER,CONTROL KNOBS,BEAMED ASCENDING MUSICAL NOTES,BEAMED DESCENDING MUSICAL NOTES
1F39E |FILM FRAMES,ADMISSION TICKETS,CAROUSEL HORSE,FERRIS WHEEL,ROLLER COASTER,FISHING POLE AND FISH,MICROPHONE
1F3A5 |MOVIE CAMERA,CINEMA,HEADPHONE,ARTIST PALETTE,TOP HAT,CIRCUS TENT,TICKET,CLAPPER BOARD,PERFORMING ARTS
1F3AE |VIDEO GAME,DIRECT HIT,SLOT MACHINE,BILLIARDS,GAME DIE,BOWLING,FLOWER PLAYING CARDS,MUSICAL NOTE
1F3B6 |MULTIPLE MUSICAL NOTES,SAXOPHONE,GUITAR,MUSICAL KEYBOARD,TRUMPET,VIOLIN,MUSICAL SCORE,RUNNING SHIRT WITH SASH
1F3BE |TENNIS RACQUET AND BALL,SKI AND SKI BOOT,BASKETBALL AND HOOP,CHEQUERED FLAG,SNOWBOARDER
1F3C3 |RUNNER,SURFER,SPORTS MEDAL,TROPHY,HORSE RACING,AMERICAN FOOTBALL,RUGBY FOOTBALL,SWIMMER,WEIGHT LIFTER,GOLFER
1F3CD RACING |MOTORCYCLE,CAR
1F3CF |CRICKET BAT AND BALL,VOLLEYBALL,FIELD HOCKEY STICK AND BALL,ICE HOCKEY STICK AND PUCK
1F3D3 |TABLE TENNIS PADDLE AND BALL,SNOW CAPPED MOUNTAIN,CAMPING,BEACH WITH UMBRELLA,BUILDING CONSTRUCTION
1F3D8 |HOUSE BUILDINGS,CITYSCAPE,DERELICT HOUSE BUILDING,CLASSICAL BUILDING,DESERT,DESERT ISLAND,NATIONAL PARK
1F3DF |STADIUM,HOUSE BUILDING,HOUSE WITH GARDEN,OFFICE BUILDING,JAPANESE POST OFFICE,EUROPEAN POST OFFICE
1F3E5 |HOSPITAL,BANK,AUTOMATED TELLER MACHINE,HOTEL,LOVE HOTEL,CONVENIENCE STORE,SCHOOL,DEPARTMENT STORE
1F3ED |FACTORY,IZAKAYA LANTERN,JAPANESE CASTLE,EUROPEAN CASTLE,WHITE PENNANT,BLACK PENNANT,WAVING WHITE FLAG
1F3F4 |WAVING BLACK FLAG,ROSETTE,BLACK ROSETTE,LABEL,BADMINTON RACQUET AND SHUTTLECOCK,BOW AND ARROW,AMPHORA
1F3FB EMOJI MODIFIER FITZPATRICK |TYPE-1-2,TYPE-3,TYPE-4,TYPE-5,TYPE-6
1F400 |RAT,MOUSE,OX,WATER BUFFALO,COW,TIGER,LEOPARD,RABBIT,CAT,DRAGON,CROCODILE,WHALE,SNAIL,SNAKE,HORSE
1F40F |RAM,GOAT,SHEEP,MONKEY,ROOSTER,CHICKEN,DOG,PIG,BOAR,ELEPHANT,OCTOPUS,SPIRAL SHELL,BUG,ANT,HONEYBEE,LADY BEETLE
1F41F |FISH,TROPICAL FISH,BLOWFISH,TURTLE,HATCHING CHICK,BABY CHICK,FRONT-FACING BABY CHICK,BIRD,PENGUIN,KOALA
1F429 |POODLE,DROMEDARY CAMEL,BACTRIAN CAMEL,DOLPHIN,MOUSE FACE,COW FACE,TIGER FACE,RABBIT FACE,CAT FACE,DRAGON FACE
1F433 |SPOUTING WHALE,HORSE FACE,MONKEY FACE,DOG FACE,PIG FACE,FROG FACE,HAMSTER FACE,WOLF FACE,BEAR FACE
1F43C |PANDA FACE,PIG NOSE,PAW PRINTS,CHIPMUNK,EYES,EYE,EAR,NOSE,MOUTH,TONGUE,WHITE UP POINTING BACKHAND INDEX
1F447 WHITE |DOWN POINTING BACKHAND INDEX,LEFT POINTING BACKHAND INDEX,RIGHT POINTING BACKHAND INDEX
1F44A |FISTED HAND SIGN,WAVING HAND SIGN,OK HAND SIGN,THUMBS UP SIGN,THUMBS DOWN SIGN
1F44F |CLAPPING HANDS SIGN,OPEN HANDS SIGN,CROWN,WOMANS HAT,EYEGLASSES,NECKTIE,T-SHIRT,JEANS,DRESS,KIMONO
1F459 |BIKINI,WOMANS CLOTHES,PURSE,HANDBAG,POUCH,MANS SHOE,ATHLETIC SHOE,HIGH-HEELED SHOE,WOMANS SANDAL,WOMANS BOOTS
1F463 |FOOTPRINTS,BUST IN SILHOUETTE,BUSTS IN SILHOUETTE,BOY,GIRL,MAN,WOMAN,FAMILY,MAN AND WOMAN HOLDING HANDS
1F46C TWO |MEN HOLDING HANDS,WOMEN HOLDING HANDS
1F46E |POLICE OFFICER,WOMAN WITH BUNNY EARS,BRIDE WITH VEIL,PERSON WITH BLOND HAIR
1F472 MAN WITH |GUA PI MAO,TURBAN
1F474 OLDER |MAN,WOMAN
1F476 |BABY,CONSTRUCTION WORKER,PRINCESS,JAPANESE OGRE,JAPANESE GOBLIN,GHOST,BABY ANGEL,EXTRATERRESTRIAL ALIEN
1F47E |ALIEN MONSTER,IMP,SKULL,INFORMATION DESK PERSON,GUARDSMAN,DANCER,LIPSTICK,NAIL POLISH,FACE MASSAGE
1F487 |HAIRCUT,BARBER POLE,SYRINGE,PILL,KISS MARK,LOVE LETTER,RING,GEM STONE,KISS,BOUQUET,COUPLE WITH HEART
1F492 |WEDDING,BEATING HEART,BROKEN HEART,TWO HEARTS,SPARKLING HEART,GROWING HEART,HEART WITH ARROW
1F499 |BLUE HEART,GREEN HEART,YELLOW HEART,PURPLE HEART,HEART WITH RIBBON,REVOLVING HEARTS,HEART DECORATION
1F4A0 |DIAMOND SHAPE WITH A DOT INSIDE,ELECTRIC LIGHT BULB,ANGER SYMBOL,BOMB,SLEEPING SYMBOL,COLLISION SYMBOL
1F4A6 |SPLASHING SWEAT SYMBOL,DROPLET,DASH SYMBOL,PILE OF POO,FLEXED BICEPS,DIZZY SYMBOL,SPEECH BALLOON
1F4AD |THOUGHT BALLOON,WHITE FLOWER,HUNDRED POINTS SYMBOL,MONEY BAG,CURRENCY EXCHANGE,HEAVY DOLLAR SIGN,CREDIT CARD
1F4B4 BANKNOTE WITH |YEN SIGN,DOLLAR SIGN,EURO SIGN,POUND SIGN
1F4B8 |MONEY WITH WINGS,CHART WITH UPWARDS TREND AND YEN SIGN,SEAT,PERSONAL COMPUTER
1F4BC |BRIEFCASE,MINIDISC,FLOPPY DISK,OPTICAL DISC,DVD,FILE FOLDER,OPEN FILE FOLDER,PAGE WITH CURL,PAGE FACING UP
1F4C5 |CALENDAR,TEAR-OFF CALENDAR,CARD INDEX,CHART WITH UPWARDS TREND,CHART WITH DOWNWARDS TREND,BAR CHART
1F4CB |CLIPBOARD,PUSHPIN,ROUND PUSHPIN,PAPERCLIP,STRAIGHT RULER,TRIANGULAR RULER,BOOKMARK TABS,LEDGER,NOTEBOOK
1F4D4 |NOTEBOOK WITH DECORATIVE COVER,CLOSED BOOK,OPEN BOOK,GREEN BOOK,BLUE BOOK,ORANGE BOOK,BOOKS,NAME BADGE,SCROLL
1F4DD |MEMO,TELEPHONE RECEIVER,PAGER,FAX MACHINE,SATELLITE ANTENNA,PUBLIC ADDRESS LOUDSPEAKER,CHEERING MEGAPHONE
1F4E4 |OUTBOX TRAY,INBOX TRAY,PACKAGE,E-MAIL SYMBOL,INCOMING ENVELOPE,ENVELOPE WITH DOWNWARDS ARROW ABOVE
1F4EA CLOSED MAILBOX WITH |LOWERED FLAG,RAISED FLAG
1F4EC OPEN MAILBOX WITH |RAISED FLAG,LOWERED FLAG
1F4EE |POSTBOX,POSTAL HORN,NEWSPAPER,MOBILE PHONE,MOBILE PHONE WITH RIGHTWARDS ARROW AT LEFT
1F4F3 |VIBRATION MODE,MOBILE PHONE OFF,NO MOBILE PHONES,ANTENNA WITH BARS,CAMERA,CAMERA WITH FLASH,VIDEO CAMERA
1F4FA |TELEVISION,RADIO,VIDEOCASSETTE,FILM PROJECTOR,PORTABLE STEREO,PRAYER BEADS,TWISTED RIGHTWARDS ARROWS
1F501 CLOCKWISE RIGHTWARDS AND LEFTWARDS OPEN CIRCLE |ARROWS,ARROWS WITH CIRCLED ONE OVERLAY
1F503 |CLOCKWISE DOWNWARDS AND UPWARDS OPEN CIRCLE ARROWS,ANTICLOCKWISE DOWNWARDS AND UPWARDS OPEN CIRCLE ARROWS
1F505 |LOW BRIGHTNESS SYMBOL,HIGH BRIGHTNESS SYMBOL,SPEAKER WITH CANCELLATION STROKE,SPEAKER
1F509 SPEAKER WITH |ONE SOUND WAVE,THREE SOUND WAVES
1F50B |BATTERY,ELECTRIC PLUG,LEFT-POINTING MAGNIFYING GLASS
1F50E |RIGHT-POINTING MAGNIFYING GLASS,LOCK WITH INK PEN,CLOSED LOCK WITH KEY,KEY,LOCK,OPEN LOCK
1F514 |BELL,BELL WITH CANCELLATION STROKE,BOOKMARK,LINK SYMBOL,RADIO BUTTON,BACK WITH LEFTWARDS ARROW ABOVE
1F51A |END WITH LEFTWARDS ARROW ABOVE,ON WITH EXCLAMATION MARK WITH LEFT RIGHT ARROW ABOVE
1F51C |SOON WITH RIGHTWARDS ARROW ABOVE,TOP WITH UPWARDS ARROW ABOVE,NO ONE UNDER EIGHTEEN SYMBOL,KEYCAP TEN
1F520 INPUT SYMBOL FOR |LATIN CAPITAL LETTERS,LATIN SMALL LETTERS,NUMBERS,SYMBOLS,LATIN LETTERS
1F525 |FIRE,ELECTRIC TORCH
1F527 |WRENCH,HAMMER,NUT AND BOLT,HOCHO,PISTOL,MICROSCOPE,TELESCOPE,CRYSTAL BALL,SIX POINTED STAR WITH MIDDLE DOT
1F530 |JAPANESE SYMBOL FOR BEGINNER,TRIDENT EMBLEM,BLACK SQUARE BUTTON,WHITE SQUARE BUTTON
1F534 LARGE |RED CIRCLE,BLUE CIRCLE,ORANGE DIAMOND,BLUE DIAMOND
1F538 |SMALL ORANGE DIAMOND,SMALL BLUE DIAMOND,UP-POINTING RED TRIANGLE,DOWN-POINTING RED TRIANGLE
1F53C |UP-POINTING SMALL RED TRIANGLE,DOWN-POINTING SMALL RED TRIANGLE,LOWER RIGHT SHADOWED WHITE CIRCLE
1F53F |UPPER RIGHT SHADOWED WHITE CIRCLE,CIRCLED CROSS POMMEE,CROSS POMMEE WITH HALF-CIRCLE BELOW,CROSS POMMEE
1F543 NOTCHED |LEFT SEMICIRCLE WITH THREE DOTS,RIGHT SEMICIRCLE WITH THREE DOTS
1F545 |SYMBOL FOR MARKS CHAPTER,WHITE LATIN CROSS,HEAVY LATIN CROSS,CELTIC CROSS,OM SYMBOL
1F54A |DOVE OF PEACE,KAABA,MOSQUE,SYNAGOGUE,MENORAH WITH NINE BRANCHES,BOWL OF HYGIEIA,CLOCK FACE ONE OCLOCK
1F551 CLOCK FACE |TWO OCLOCK,THREE OCLOCK,FOUR OCLOCK,FIVE OCLOCK,SIX OCLOCK,SEVEN OCLOCK,EIGHT OCLOCK,NINE OCLOCK
1F559 CLOCK FACE |TEN OCLOCK,ELEVEN OCLOCK,TWELVE OCLOCK,ONE-THIRTY,TWO-THIRTY,THREE-THIRTY,FOUR-THIRTY,FIVE-THIRTY
1F561 CLOCK FACE |SIX-THIRTY,SEVEN-THIRTY,EIGHT-THIRTY,NINE-THIRTY,TEN-THIRTY,ELEVEN-THIRTY,TWELVE-THIRTY
1F568 RIGHT |SPEAKER,SPEAKER WITH ONE SOUND WAVE,SPEAKER WITH THREE SOUND WAVES
1F56B |BULLHORN,BULLHORN WITH SOUND WAVES,RINGING BELL
1F56E |BOOK,CANDLE,MANTELPIECE CLOCK,BLACK SKULL AND CROSSBONES,NO PIRACY,HOLE,MAN IN BUSINESS SUIT LEVITATING
1F575 |SLEUTH OR SPY,DARK SUNGLASSES,SPIDER,SPIDER WEB,JOYSTICK,MAN DANCING,LEFT HAND TELEPHONE RECEIVER
1F57C |TELEPHONE RECEIVER WITH PAGE,RIGHT HAND TELEPHONE RECEIVER,WHITE TOUCHTONE TELEPHONE
1F57F |BLACK TOUCHTONE TELEPHONE,TELEPHONE ON TOP OF MODEM,CLAMSHELL MOBILE PHONE,BACK OF ENVELOPE,STAMPED ENVELOPE
1F584 |ENVELOPE WITH LIGHTNING,FLYING ENVELOPE,PEN OVER STAMPED ENVELOPE,LINKED PAPERCLIPS,BLACK PUSHPIN
1F589 LOWER LEFT |PENCIL,BALLPOINT PEN,FOUNTAIN PEN,PAINTBRUSH,CRAYON
1F58E LEFT WRITING |HAND
1F58F |TURNED OK HAND SIGN,RAISED HAND WITH FINGERS SPLAYED,REVERSED RAISED HAND WITH FINGERS SPLAYED
1F592 REVERSED |THUMBS UP SIGN,THUMBS DOWN SIGN,VICTORY HAND,HAND WITH MIDDLE FINGER EXTENDED
1F596 |RAISED HAND WITH PART BETWEEN MIDDLE AND RING FINGERS,WHITE DOWN POINTING LEFT HAND INDEX
1F598 SIDEWAYS WHITE |LEFT POINTING INDEX,RIGHT POINTING INDEX
1F59A SIDEWAYS BLACK |LEFT POINTING INDEX,RIGHT POINTING INDEX
1F59C BLACK |LEFT POINTING BACKHAND INDEX,RIGHT POINTING BACKHAND INDEX
1F59E SIDEWAYS |WHITE UP POINTING INDEX,WHITE DOWN POINTING INDEX,BLACK UP POINTING INDEX,BLACK DOWN POINTING INDEX
1F5A2 BLACK |UP POINTING BACKHAND INDEX,DOWN POINTING BACKHAND INDEX,HEART
1F5A5 |DESKTOP COMPUTER,KEYBOARD AND MOUSE
1F5A7 |THREE NETWORKED COMPUTERS,PRINTER,POCKET CALCULATOR,BLACK HARD SHELL FLOPPY DISK,WHITE HARD SHELL FLOPPY DISK
1F5AC |SOFT SHELL FLOPPY DISK,TAPE CARTRIDGE,WIRED KEYBOARD,ONE BUTTON MOUSE,TWO BUTTON MOUSE
1F5B1 |THREE BUTTON MOUSE,TRACKBALL,OLD PERSONAL COMPUTER,HARD DISK,SCREEN,PRINTER ICON,FAX ICON,OPTICAL DISC ICON
1F5B9 DOCUMENT WITH |TEXT,TEXT AND PICTURE,PICTURE
1F5BC FRAME WITH |PICTURE,TILES,AN X
1F5BF |BLACK FOLDER,FOLDER,OPEN FOLDER,CARD INDEX DIVIDERS,CARD FILE BOX,FILE CABINET
1F5C5 EMPTY |NOTE,NOTE PAGE,NOTE PAD
1F5C8 |NOTE,NOTE PAGE,NOTE PAD,EMPTY DOCUMENT,EMPTY PAGE,EMPTY PAGES,DOCUMENT,PAGE,PAGES,WASTEBASKET,SPIRAL NOTE PAD
1F5D3 |SPIRAL CALENDAR PAD,DESKTOP WINDOW,MINIMIZE,MAXIMIZE,OVERLAP,CLOCKWISE RIGHT AND LEFT SEMICIRCLE ARROWS
1F5D9 |CANCELLATION X,INCREASE FONT SIZE SYMBOL,DECREASE FONT SIZE SYMBOL,COMPRESSION
1F5DD |OLD KEY,ROLLED-UP NEWSPAPER,PAGE WITH CIRCLED TEXT,STOCK CHART,DAGGER KNIFE,LIPS,SPEAKING HEAD IN SILHOUETTE
1F5E4 THREE RAYS |ABOVE,BELOW,LEFT,RIGHT
1F5E8 |LEFT SPEECH BUBBLE,RIGHT SPEECH BUBBLE,TWO SPEECH BUBBLES,THREE SPEECH BUBBLES
1F5EC |LEFT THOUGHT BUBBLE,RIGHT THOUGHT BUBBLE,LEFT ANGER BUBBLE,RIGHT ANGER BUBBLE,MOOD BUBBLE
1F5F1 LIGHTNING |MOOD BUBBLE,MOOD
1F5F3 BALLOT |BOX WITH BALLOT,SCRIPT X,BOX WITH SCRIPT X,BOLD SCRIPT X,BOX WITH BOLD SCRIPT X
1F5F8 |LIGHT CHECK MARK,BALLOT BOX WITH BOLD CHECK,WORLD MAP,MOUNT FUJI,TOKYO TOWER,STATUE OF LIBERTY
1F5FE |SILHOUETTE OF JAPAN,MOYAI,GRINNING FACE,GRINNING FACE WITH SMILING EYES,FACE WITH TEARS OF JOY
1F603 SMILING FACE WITH OPEN |MOUTH,MOUTH AND SMILING EYES,MOUTH AND COLD SWEAT,MOUTH AND TIGHTLY-CLOSED EYES
1F607 SMILING FACE WITH |HALO,HORNS
1F609 |WINKING FACE,SMILING FACE WITH SMILING EYES,FACE SAVOURING DELICIOUS FOOD,RELIEVED FACE
1F60D SMILING FACE WITH |HEART-SHAPED EYES,SUNGLASSES
1F60F |SMIRKING FACE,NEUTRAL FACE,EXPRESSIONLESS FACE,UNAMUSED FACE
1F613 |FACE WITH COLD SWEAT,PENSIVE FACE,CONFUSED FACE,CONFOUNDED FACE,KISSING FACE,FACE THROWING A KISS
1F619 KISSING FACE WITH |SMILING EYES,CLOSED EYES
1F61B FACE WITH STUCK-OUT |TONGUE,TONGUE AND WINKING EYE,TONGUE AND TIGHTLY-CLOSED EYES
1F61E |DISAPPOINTED FACE,WORRIED FACE,ANGRY FACE,POUTING FACE,CRYING FACE,PERSEVERING FACE,FACE WITH LOOK OF TRIUMPH
1F625 |DISAPPOINTED BUT RELIEVED FACE,FROWNING FACE WITH OPEN MOUTH,ANGUISHED FACE,FEARFUL FACE
1F629 |WEARY FACE,SLEEPY FACE,TIRED FACE,GRIMACING FACE,LOUDLY CRYING FACE,FACE WITH OPEN MOUTH,HUSHED FACE
1F630 FACE |WITH OPEN MOUTH AND COLD SWEAT,SCREAMING IN FEAR
1F632 |ASTONISHED FACE,FLUSHED FACE,SLEEPING FACE,DIZZY FACE
1F636 |FACE WITHOUT MOUTH,FACE WITH MEDICAL MASK,GRINNING CAT FACE WITH SMILING EYES,CAT FACE WITH TEARS OF JOY
1F63A SMILING CAT FACE WITH |OPEN MOUTH,HEART-SHAPED EYES
1F63C |CAT FACE WITH WRY SMILE,KISSING CAT FACE WITH CLOSED EYES,POUTING CAT FACE,CRYING CAT FACE,WEARY CAT FACE
1F641 SLIGHTLY |FROWNING FACE,SMILING FACE
1F643 UPSIDE-DOWN |FACE
1F644 FACE WITH |ROLLING EYES,NO GOOD GESTURE,OK GESTURE
1F647 PERSON BOWING |DEEPLY
1F648 |SEE-NO-EVIL MONKEY,HEAR-NO-EVIL MONKEY,SPEAK-NO-EVIL MONKEY,HAPPY PERSON RAISING ONE HAND
1F64C PERSON |RAISING BOTH HANDS IN CELEBRATION,FROWNING,WITH POUTING FACE,WITH FOLDED HANDS
1F650 |NORTH WEST POINTING LEAF,SOUTH WEST POINTING LEAF,NORTH EAST POINTING LEAF,SOUTH EAST POINTING LEAF
1F654 TURNED |NORTH WEST POINTING LEAF,SOUTH WEST POINTING LEAF,NORTH EAST POINTING LEAF,SOUTH EAST POINTING LEAF
1F658 |NORTH WEST POINTING VINE LEAF,SOUTH WEST POINTING VINE LEAF
1F65A |NORTH EAST POINTING VINE LEAF,SOUTH EAST POINTING VINE LEAF,HEAVY NORTH WEST POINTING VINE LEAF
1F65D HEAVY |SOUTH WEST POINTING VINE LEAF,NORTH EAST POINTING VINE LEAF,SOUTH EAST POINTING VINE LEAF
1F660 |NORTH WEST POINTING BUD,SOUTH WEST POINTING BUD,NORTH EAST POINTING BUD,SOUTH EAST POINTING BUD
1F664 HEAVY |NORTH WEST POINTING BUD,SOUTH WEST POINTING BUD,NORTH EAST POINTING BUD,SOUTH EAST POINTING BUD
1F668 HOLLOW QUILT SQUARE |ORNAMENT,ORNAMENT IN BLACK SQUARE
1F66A SOLID QUILT SQUARE |ORNAMENT,ORNAMENT IN BLACK SQUARE
1F66C |LEFTWARDS ROCKET,UPWARDS ROCKET
1F66E |RIGHTWARDS ROCKET,DOWNWARDS ROCKET,SCRIPT LIGATURE ET ORNAMENT,HEAVY SCRIPT LIGATURE ET ORNAMENT
1F672 |LIGATURE OPEN ET ORNAMENT,HEAVY LIGATURE OPEN ET ORNAMENT,HEAVY AMPERSAND ORNAMENT,SWASH AMPERSAND ORNAMENT
1F676 SANS-SERIF HEAVY DOUBLE |TURNED COMMA QUOTATION MARK ORNAMENT,COMMA QUOTATION MARK ORNAMENT
1F678 SANS-SERIF HEAVY LOW DOUBLE COMMA QUOTATION MARK |ORNAMENT
1F679 |HEAVY INTERROBANG ORNAMENT,SANS-SERIF INTERROBANG ORNAMENT,HEAVY SANS-SERIF INTERROBANG ORNAMENT
1F67C VERY HEAVY |SOLIDUS,REVERSE SOLIDUS
1F67E |CHECKER BOARD,REVERSE CHECKER BOARD,ROCKET,HELICOPTER,STEAM LOCOMOTIVE,RAILWAY CAR
1F684 HIGH-SPEED |TRAIN,TRAIN WITH BULLET NOSE
1F686 |TRAIN,METRO,LIGHT RAIL,STATION,TRAM,TRAM CAR,BUS,ONCOMING BUS,TROLLEYBUS,BUS STOP,MINIBUS
1F691 |AMBULANCE,FIRE ENGINE,POLICE CAR,ONCOMING POLICE CAR,TAXI,ONCOMING TAXI,AUTOMOBILE,ONCOMING AUTOMOBILE
1F699 |RECREATIONAL VEHICLE,DELIVERY TRUCK,ARTICULATED LORRY,TRACTOR,MONORAIL,MOUNTAIN RAILWAY,SUSPENSION RAILWAY
1F6A0 |MOUNTAIN CABLEWAY,AERIAL TRAMWAY,SHIP,ROWBOAT,SPEEDBOAT,HORIZONTAL TRAFFIC LIGHT,VERTICAL TRAFFIC LIGHT
1F6A7 |CONSTRUCTION SIGN,POLICE CARS REVOLVING LIGHT,TRIANGULAR FLAG ON POST,DOOR,NO ENTRY SIGN
1F6AC |SMOKING SYMBOL,NO SMOKING SYMBOL,PUT LITTER IN ITS PLACE SYMBOL,DO NOT LITTER SYMBOL,POTABLE WATER SYMBOL
1F6B1 |NON-POTABLE WATER SYMBOL,BICYCLE,NO BICYCLES,BICYCLIST,MOUNTAIN BICYCLIST,PEDESTRIAN,NO PEDESTRIANS
1F6B8 |CHILDREN CROSSING,MENS SYMBOL,WOMENS SYMBOL,RESTROOM,BABY SYMBOL,TOILET,WATER CLOSET,SHOWER,BATH
1F6C1 |BATHTUB,PASSPORT CONTROL,CUSTOMS,BAGGAGE CLAIM,LEFT LUGGAGE,TRIANGLE WITH ROUNDED CORNERS,PROHIBITED SIGN
1F6C8 |CIRCLED INFORMATION SOURCE,BOYS SYMBOL,GIRLS SYMBOL,COUCH AND LAMP,SLEEPING ACCOMMODATION,SHOPPING BAGS
1F6CE |BELLHOP BELL,BED,PLACE OF WORSHIP,OCTAGONAL SIGN,SHOPPING TROLLEY,STUPA,PAGODA,HINDU TEMPLE,HUT,ELEVATOR
1F6DD |PLAYGROUND SLIDE,WHEEL,RING BUOY,HAMMER AND WRENCH,SHIELD,OIL DRUM,MOTORWAY,RAILWAY TRACK,MOTOR BOAT
1F6E6 UP-POINTING |MILITARY AIRPLANE,AIRPLANE,SMALL AIRPLANE
1F6E9 |SMALL AIRPLANE,NORTHEAST-POINTING AIRPLANE
1F6EB AIRPLANE |DEPARTURE,ARRIVING
1F6F0 |SATELLITE,ONCOMING FIRE ENGINE,DIESEL LOCOMOTIVE,PASSENGER SHIP
1F6F4 |SCOOTER,MOTOR SCOOTER,CANOE,SLED,FLYING SAUCER,SKATEBOARD,AUTO RICKSHAW,PICKUP TRUCK,ROLLER SKATE
1F900 CIRCLED CROSS |FORMEE WITH FOUR DOTS,FORMEE WITH TWO DOTS,FORMEE
1F903 LEFT HALF CIRCLE WITH |FOUR DOTS,THREE DOTS,TWO DOTS,DOT
1F907 LEFT HALF |CIRCLE
1F908 DOWNWARD FACING |HOOK,NOTCHED HOOK,HOOK WITH DOT,NOTCHED HOOK WITH DOT
1F90C PINCHED |FINGERS
1F90D |WHITE HEART,BROWN HEART,PINCHING HAND,ZIPPER-MOUTH FACE,MONEY-MOUTH FACE,FACE WITH THERMOMETER
1F913 |NERD FACE,THINKING FACE,FACE WITH HEAD-BANDAGE,ROBOT FACE,HUGGING FACE,SIGN OF THE HORNS,CALL ME HAND
1F91A |RAISED BACK OF HAND,LEFT-FACING FIST,RIGHT-FACING FIST,HANDSHAKE,HAND WITH INDEX AND MIDDLE FINGERS CROSSED
1F91F |I LOVE YOU HAND SIGN,FACE WITH COWBOY HAT,CLOWN FACE,NAUSEATED FACE
1F923 |ROLLING ON THE FLOOR LAUGHING,DROOLING FACE,LYING FACE,FACE PALM,SNEEZING FACE,FACE WITH ONE EYEBROW RAISED
1F929 GRINNING FACE WITH |STAR EYES,ONE LARGE AND ONE SMALL EYE
1F92B FACE WITH FINGER COVERING CLOSED |LIPS
1F92C |SERIOUS FACE WITH SYMBOLS COVERING MOUTH,SMILING FACE WITH SMILING EYES AND HAND COVERING MOUTH
1F92E |FACE WITH OPEN MOUTH VOMITING,SHOCKED FACE WITH EXPLODING HEAD,PREGNANT WOMAN
1F931 |BREAST-FEEDING,PALMS UP TOGETHER,SELFIE,PRINCE,MAN IN TUXEDO,MOTHER CHRISTMAS,SHRUG,PERSON DOING CARTWHEEL
1F939 |JUGGLING,FENCER,MODERN PENTATHLON,WRESTLERS,WATER POLO,HANDBALL,DIVING MASK,WILTED FLOWER
1F941 |DRUM WITH DRUMSTICKS,CLINKING GLASSES,TUMBLER GLASS,SPOON,GOAL NET,RIFLE,FIRST PLACE MEDAL,SECOND PLACE MEDAL
1F949 |THIRD PLACE MEDAL,BOXING GLOVE,MARTIAL ARTS UNIFORM,CURLING STONE,LACROSSE STICK AND BALL,SOFTBALL
1F94F |FLYING DISC,CROISSANT,AVOCADO,CUCUMBER,BACON,POTATO,CARROT,BAGUETTE BREAD,GREEN SALAD,SHALLOW PAN OF FOOD
1F959 |STUFFED FLATBREAD,EGG,GLASS OF MILK,PEANUTS,KIWIFRUIT,PANCAKES,DUMPLING,FORTUNE COOKIE,TAKEOUT BOX,CHOPSTICKS
1F963 |BOWL WITH SPOON,CUP WITH STRAW,COCONUT,BROCCOLI,PIE,PRETZEL,CUT OF MEAT,SANDWICH,CANNED FOOD,LEAFY GREEN
1F96D |MANGO,MOON CAKE,BAGEL,SMILING FACE WITH SMILING EYES AND THREE HEARTS,YAWNING FACE,SMILING FACE WITH TEAR
1F973 FACE WITH |PARTY HORN AND PARTY HAT,UNEVEN EYES AND WAVY MOUTH
1F975 |OVERHEATED FACE,FREEZING FACE,NINJA,DISGUISED FACE,FACE HOLDING BACK TEARS,FACE WITH PLEADING EYES
1F97B |SARI,LAB COAT,GOGGLES,HIKING BOOT,FLAT SHOE,CRAB,LION FACE,SCORPION,TURKEY,UNICORN FACE,EAGLE
1F986 |DUCK,BAT,SHARK,OWL,FOX FACE,BUTTERFLY,DEER,GORILLA,LIZARD,RHINOCEROS,SHRIMP,SQUID,GIRAFFE FACE,ZEBRA FACE
1F994 |HEDGEHOG,SAUROPOD,T-REX,CRICKET,KANGAROO,LLAMA,PEACOCK,HIPPOPOTAMUS,PARROT,RACCOON,LOBSTER,MOSQUITO,MICROBE
1F9A1 |BADGER,SWAN,MAMMOTH,DODO,SLOTH,OTTER,ORANGUTAN,SKUNK,FLAMINGO,OYSTER,BEAVER,BISON,SEAL,GUIDE DOG,PROBING CANE
1F9B0 EMOJI COMPONENT |RED HAIR,CURLY HAIR,BALD,WHITE HAIR
1F9B4 |BONE,LEG,FOOT,TOOTH,SUPERHERO,SUPERVILLAIN,SAFETY VEST
1F9BB |EAR WITH HEARING AID,MOTORIZED WHEELCHAIR,MANUAL WHEELCHAIR,MECHANICAL ARM,MECHANICAL LEG,CHEESE WEDGE
1F9C1 |CUPCAKE,SALT SHAKER,BEVERAGE BOX,GARLIC,ONION,FALAFEL,WAFFLE,BUTTER,MATE DRINK,ICE CUBE,BUBBLE TEA
1F9CC |TROLL,STANDING PERSON,KNEELING PERSON,DEAF PERSON,FACE WITH MONOCLE,ADULT,CHILD,OLDER ADULT,BEARDED PERSON
1F9D5 PERSON |WITH HEADSCARF,IN STEAMY ROOM,CLIMBING,IN LOTUS POSITION
1F9D9 |MAGE,FAIRY,VAMPIRE,MERPERSON,ELF,GENIE,ZOMBIE,BRAIN,ORANGE HEART
1F9E2 |BILLED CAP,SCARF,GLOVES,COAT,SOCKS,RED GIFT ENVELOPE,FIRECRACKER,JIGSAW PUZZLE PIECE,TEST TUBE,PETRI DISH
1F9EC |DNA DOUBLE HELIX,COMPASS,ABACUS,FIRE EXTINGUISHER,TOOLBOX,BRICK,MAGNET,LUGGAGE,LOTION BOTTLE,SPOOL OF THREAD
1F9F6 |BALL OF YARN,SAFETY PIN,TEDDY BEAR,BROOM,BASKET,ROLL OF PAPER,BAR OF SOAP,SPONGE,RECEIPT,NAZAR AMULET
1FA00 NEUTRAL CHESS |KING,QUEEN,ROOK,BISHOP,KNIGHT,PAWN
1FA06 WHITE CHESS KNIGHT ROTATED FORTY-FIVE |DEGREES
1FA07 |BLACK CHESS KNIGHT ROTATED FORTY-FIVE DEGREES,NEUTRAL CHESS KNIGHT ROTATED FORTY-FIVE DEGREES
1FA09 WHITE CHESS |KING ROTATED NINETY DEGREES,QUEEN ROTATED NINETY DEGREES,ROOK ROTATED NINETY DEGREES
1FA0C WHITE CHESS |BISHOP ROTATED NINETY DEGREES,KNIGHT ROTATED NINETY DEGREES,PAWN ROTATED NINETY DEGREES
1FA0F BLACK CHESS |KING ROTATED NINETY DEGREES,QUEEN ROTATED NINETY DEGREES,ROOK ROTATED NINETY DEGREES
1FA12 BLACK CHESS |BISHOP ROTATED NINETY DEGREES,KNIGHT ROTATED NINETY DEGREES,PAWN ROTATED NINETY DEGREES
1FA15 NEUTRAL CHESS |KING ROTATED NINETY DEGREES,QUEEN ROTATED NINETY DEGREES,ROOK ROTATED NINETY DEGREES
1FA18 NEUTRAL CHESS |BISHOP ROTATED NINETY DEGREES,KNIGHT ROTATED NINETY DEGREES,PAWN ROTATED NINETY DEGREES
1FA1B WHITE CHESS KNIGHT ROTATED ONE HUNDRED THIRTY-FIVE |DEGREES
1FA1C BLACK CHESS KNIGHT ROTATED ONE HUNDRED THIRTY-FIVE |DEGREES
1FA1D NEUTRAL CHESS KNIGHT ROTATED ONE HUNDRED THIRTY-FIVE |DEGREES
1FA1E WHITE CHESS TURNED |KING,QUEEN,ROOK,BISHOP,KNIGHT,PAWN
1FA24 BLACK CHESS TURNED |KING,QUEEN,ROOK,BISHOP,KNIGHT,PAWN
1FA2A NEUTRAL CHESS TURNED |KING,QUEEN,ROOK,BISHOP,KNIGHT,PAWN
1FA30 WHITE CHESS KNIGHT ROTATED TWO HUNDRED TWENTY-FIVE |DEGREES
1FA31 BLACK CHESS KNIGHT ROTATED TWO HUNDRED TWENTY-FIVE |DEGREES
1FA32 NEUTRAL CHESS KNIGHT ROTATED TWO HUNDRED TWENTY-FIVE |DEGREES
1FA33 WHITE CHESS |KING ROTATED TWO HUNDRED SEVENTY DEGREES,QUEEN ROTATED TWO HUNDRED SEVENTY DEGREES
1FA35 WHITE CHESS |ROOK ROTATED TWO HUNDRED SEVENTY DEGREES,BISHOP ROTATED TWO HUNDRED SEVENTY DEGREES
1FA37 WHITE CHESS |KNIGHT ROTATED TWO HUNDRED SEVENTY DEGREES,PAWN ROTATED TWO HUNDRED SEVENTY DEGREES
1FA39 BLACK CHESS |KING ROTATED TWO HUNDRED SEVENTY DEGREES,QUEEN ROTATED TWO HUNDRED SEVENTY DEGREES
1FA3B BLACK CHESS |ROOK ROTATED TWO HUNDRED SEVENTY DEGREES,BISHOP ROTATED TWO HUNDRED SEVENTY DEGREES
1FA3D BLACK CHESS |KNIGHT ROTATED TWO HUNDRED SEVENTY DEGREES,PAWN ROTATED TWO HUNDRED SEVENTY DEGREES
1FA3F NEUTRAL CHESS |KING ROTATED TWO HUNDRED SEVENTY DEGREES,QUEEN ROTATED TWO HUNDRED SEVENTY DEGREES
1FA41 NEUTRAL CHESS |ROOK ROTATED TWO HUNDRED SEVENTY DEGREES,BISHOP ROTATED TWO HUNDRED SEVENTY DEGREES
1FA43 NEUTRAL CHESS |KNIGHT ROTATED TWO HUNDRED SEVENTY DEGREES,PAWN ROTATED TWO HUNDRED SEVENTY DEGREES
1FA45 WHITE CHESS KNIGHT ROTATED THREE HUNDRED FIFTEEN |DEGREES
1FA46 BLACK CHESS KNIGHT ROTATED THREE HUNDRED FIFTEEN |DEGREES
1FA47 |NEUTRAL CHESS KNIGHT ROTATED THREE HUNDRED FIFTEEN DEGREES,WHITE CHESS EQUIHOPPER
1FA49 |BLACK CHESS EQUIHOPPER,NEUTRAL CHESS EQUIHOPPER,WHITE CHESS EQUIHOPPER ROTATED NINETY DEGREES
1FA4C |BLACK CHESS EQUIHOPPER ROTATED NINETY DEGREES,NEUTRAL CHESS EQUIHOPPER ROTATED NINETY DEGREES
1FA4E WHITE CHESS |KNIGHT-QUEEN,KNIGHT-ROOK,KNIGHT-BISHOP
1FA51 BLACK CHESS |KNIGHT-QUEEN,KNIGHT-ROOK,KNIGHT-BISHOP
1FA60 XIANGQI RED |GENERAL,MANDARIN,ELEPHANT,HORSE,CHARIOT,CANNON,SOLDIER
1FA67 XIANGQI BLACK |GENERAL,MANDARIN,ELEPHANT,HORSE,CHARIOT,CANNON,SOLDIER
1FA70 |BALLET SHOES,ONE-PIECE SWIMSUIT,BRIEFS,SHORTS,THONG SANDAL
1FA78 |DROP OF BLOOD,ADHESIVE BANDAGE,STETHOSCOPE,X-RAY,CRUTCH
1FA80 |YO-YO,KITE,PARACHUTE,BOOMERANG,MAGIC WAND,PINATA,NESTING DOLLS
1FA90 |RINGED PLANET,CHAIR,RAZOR,AXE,DIYA LAMP,BANJO,MILITARY HELMET
1FA97 |ACCORDION,LONG DRUM,COIN,CARPENTRY SAW,SCREWDRIVER,LADDER,HOOK,MIRROR,WINDOW,PLUNGER,SEWING NEEDLE
1FAA2 |KNOT,BUCKET,MOUSE TRAP,TOOTHBRUSH,HEADSTONE,PLACARD,ROCK,MIRROR BALL,IDENTIFICATION CARD,LOW BATTERY,HAMSA
1FAB0 |FLY,WORM,BEETLE,COCKROACH,POTTED PLANT,WOOD,FEATHER,LOTUS,CORAL,EMPTY NEST,NEST WITH EGGS
1FAC0 |ANATOMICAL HEART,LUNGS,PEOPLE HUGGING,PREGNANT MAN,PREGNANT PERSON,PERSON WITH CROWN
1FAD0 |BLUEBERRIES,BELL PEPPER,OLIVE,FLATBREAD,TAMALE,FONDUE,TEAPOT,POURING LIQUID,BEANS,JAR
1FAE0 |MELTING FACE,SALUTING FACE
1FAE2 FACE WITH |OPEN EYES AND HAND OVER MOUTH,PEEKING EYE,DIAGONAL MOUTH
1FAE5 |DOTTED LINE FACE,BITING LIP,BUBBLES
1FAF0 HAND WITH INDEX FINGER AND THUMB |CROSSED
1FAF1 |RIGHTWARDS HAND,LEFTWARDS HAND,PALM DOWN HAND,PALM UP HAND,INDEX POINTING AT THE VIEWER,HEART HANDS"

end CharacterName

end SchemaLint
