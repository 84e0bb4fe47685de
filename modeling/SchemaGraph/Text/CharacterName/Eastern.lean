import SchemaGraph.Text.CharacterName.Table

/-! Names of the characters from U+3000 to U+FFFF: the scripts of East Asia, and compatible
forms of Arabic and other letters. -/
namespace SchemaGraph.Text.CharacterName

/-- The names from U+3000 to U+FFFF. -/
def eastern : Table where
  shorthand := ["LETTER", "WITH", "CAPITAL", "SMALL", "ISOLATED", "FINAL", "INITIAL", "MEEM",
    "MAKSURA", "ALEF", "MEDIAL", "JEEM", "RIGHT", "YEH", "HAH", "SIGN", "KHAH", "LEFT",
    "IDEOGRAPHIC", "ABOVE", "HIGH", "DOUBLE", "MARK", "LOW", "STROKE", "THREE"]
  names := "
  =3000,sSPACE,1COMMA,FULL STOP,0DITTOw,JAPANESE INDUSTRIAL STANDARD SYMBOL,sITERATIONw,1CLOSING+1
  NUMBER ZERO,0rANGLE BRACKET,m+2,rv+2,m+3,rCORNER+1,m+2,rWHITE+2,m+3,rBLACK LENTICULAR+1,m+3
  POSTALw,GETA+1,rTORTOISE SHELL BRACKET,m+3,rWHITE LENTICULAR+1,m+3,rWHITE TORTOISE SHELL+1,m+4
  rWHITE SQUARE+1,m+3,WAVE DASH,REVERSEDvPRIME QUOTATIONw,v+3,x+4,POSTALwFACE,HANGZHOU NUMERAL ONE
  2TWO,z,FOUR,FIVE,SIX,SEVEN,EIGHT,NINE,0sLEVEL TONEw,1RISING+2,DEPARTING+2,ENTERING+2
  0HANGUL SINGLE DOT+2,1v+3,0WAVY DASH,VERTICAL KANA REPEATw,3bVOICED SOUND+1,wUPPER HALF
  bVOICED SOUND+3,wLOWER+1,0CIRCLED POSTALw,sTELEGRAPH LINE FEED SEPARATOR SYMBOL
  HANGZHOU NUMERAL TEN,2TWENTY,THIRTY,0VERTICALsITERATIONw,MASU+1,PART ALTERNATION+1
  sVARIATION INDICATOR,1HALF FILL SPACE,=3041,0HIRAGANAadA,2A,dI,I,dU,U,dE,E,dO,O,KA,GA,KI,GI,KU,GU
  KE,GE,KO,GO,SA,ZA,SI,ZI,SU,ZU,SE,ZE,SO,ZO,TA,DA,TI,DI,dTU,TU,DU,TE,DE,TO,DO,NA,NI,NU,NE,NO,HA,BA
  PA,HI,BI,PI,HU,BU,PU,HE,BE,PE,HO,BO,PO,MA,MI,MU,ME,MO,dYA,YA,dYU,YU,dYO,YO,RA,RI,RU,RE,RO,dWA,WA
  WI,WE,WO,N,VU,dKA,3KE,=3099,0COMBINING KATAKANA-HIRAGANA VOICED SOUNDw,2SEMI-VOICED+2
  0KATAKANA-HIRAGANA VOICED+2,1SEMI-VOICED+2,0HIRAGANA ITERATION+1,1VOICED+2,DIGRAPH YORI
  0KATAKANA-HIRAGANAvHYPHEN,KATAKANAadA,2A,dI,I,dU,U,dE,E,dO,O,KA,GA,KI,GI,KU,GU,KE,GE,KO,GO,SA,ZA
  SI,ZI,SU,ZU,SE,ZE,SO,ZO,TA,DA,TI,DI,dTU,TU,DU,TE,DE,TO,DO,NA,NI,NU,NE,NO,HA,BA,PA,HI,BI,PI,HU,BU
  PU,HE,BE,PE,HO,BO,PO,MA,MI,MU,ME,MO,dYA,YA,dYU,YU,dYO,YO,RA,RI,RU,RE,RO,dWA,WA,WI,WE,WO,N,VU,dKA
  3KE,2VA,VI,VE,VO,1MIDDLE DOT,0KATAKANA-HIRAGANA PROLONGED SOUNDw,KATAKANA ITERATION+1,1VOICED+2
  DIGRAPH KOTO,=3105,0BOPOMOFOaB,2P,M,F,D,T,N,L,G,K,H,J,Q,X,ZH,CH,SH,R,Z,C,S,A,O,E,EH,AI,EI,AU,OU,AN
  EN,ANG,ENG,ER,I,U,IU,V,NG,GN,IH,ObDOTt,NN,=3131,0HANGULaKIYEOK,2SSANGKIYEOK,KIYEOK-SIOS,NIEUN
  NIEUN-CIEUC,NIEUN-HIEUH,TIKEUT,SSANGTIKEUT,RIEUL,RIEUL-KIYEOK,RIEUL-MIEUM,RIEUL-PIEUP,RIEUL-SIOS
  RIEUL-THIEUTH,RIEUL-PHIEUPH,RIEUL-HIEUH,MIEUM,PIEUP,SSANGPIEUP,PIEUP-SIOS,SIOS,SSANGSIOS,IEUNG
  CIEUC,SSANGCIEUC,CHIEUCH,KHIEUKH,THIEUTH,PHIEUPH,HIEUH,A,AE,YA,YAE,EO,E,YEO,YE,O,WA,WAE,OE,YO,U
  WEO,WE,WI,YU,EU,YI,I,1FILLER,aSSANGNIEUN,2NIEUN-TIKEUT,NIEUN-SIOS,NIEUN-PANSIOS,RIEUL-KIYEOK-SIOS
  RIEUL-TIKEUT,RIEUL-PIEUP-SIOS,RIEUL-PANSIOS,RIEUL-YEORINHIEUH,MIEUM-PIEUP,MIEUM-SIOS,MIEUM-PANSIOS
  KAPYEOUNMIEUM,PIEUP-KIYEOK,PIEUP-TIKEUT,PIEUP-SIOS-KIYEOK,PIEUP-SIOS-TIKEUT,PIEUP-CIEUC
  PIEUP-THIEUTH,KAPYEOUNPIEUP,KAPYEOUNSSANGPIEUP,SIOS-KIYEOK,SIOS-NIEUN,SIOS-TIKEUT,SIOS-PIEUP
  SIOS-CIEUC,PANSIOS,SSANGIEUNG,YESIEUNG,YESIEUNG-SIOS,YESIEUNG-PANSIOS,KAPYEOUNPHIEUPH,SSANGHIEUH
  YEORINHIEUH,YO-YA,YO-YAE,YO-I,YU-YEO,YU-YE,YU-I,ARAEA,ARAEAE,=3190,0sANNOTATION LINKINGw
  2REVERSE+1,ONE+1,TWO+1,z+1,FOUR+1,TOP+1,MIDDLE+1,BOTTOM+1,FIRST+1,SECOND+1,THIRD+1,FOURTH+1
  HEAVEN+1,EARTH+1,MAN+1,0BOPOMOFOaBU,2ZI,JI,GU,EE,ENN,OO,ONN,IR,ANN,INN,UNN,IM,NGG,AINN,AUNN,AM,OM
  ONG,INNN,1faP,3T,K,H,1aGH,2LH,ZY,1faG,aGW,2KW,OE,AH,0CJKyT,2WG,XG,BXG,SW,HZZ,HZG,HP,HZWG,SZWG,HZT
  HZZP,HPWG,HZW,HZZZ,N,H,S,P,SP,D,HZ,HG,SZ,SWZ,ST,SG,PD,PZ,TN,SZZ,SWG,HXWG,HZZZG,PG,Q,=31F0
  0KATAKANAadKU,3SI,SU,TO,NU,HA,HI,HU,HE,HO,MU,RA,RI,RU,RE,RO,0PARENTHESIZED HANGUL KIYEOK,2NIEUN
  TIKEUT,RIEUL,MIEUM,PIEUP,SIOS,IEUNG,CIEUC,CHIEUCH,KHIEUKH,THIEUTH,PHIEUPH,HIEUH,KIYEOK A,NIEUN A
  TIKEUT A,RIEUL A,MIEUM A,PIEUP A,SIOS A,IEUNG A,CIEUC A,CHIEUCH A,KHIEUKH A,THIEUTH A,PHIEUPH A
  HIEUH A,CIEUC U,1KOREAN CHARACTER OJEON,3O HU,=3220,1IDEOGRAPH ONE,2TWO,z,FOUR,FIVE,SIX,SEVEN
  EIGHT,NINE,TEN,MOON,FIRE,WATER,WOOD,METAL,EARTH,SUN,STOCK,HAVE,SOCIETY,NAME,SPECIAL,FINANCIAL
  CONGRATULATION,LABOR,REPRESENT,CALL,STUDY,SUPERVISE,ENTERPRISE,RESOURCE,ALLIANCE,FESTIVAL,REST
  SELF,REACH,0CIRCLED IDEOGRAPH QUESTION,2KINDERGARTEN,SCHOOL,KOTO,1NUMBER TEN ON BLACK SQUARE
  2TWENTY+3,THIRTY+3,FORTY+3,FIFTY+3,SIXTY+3,SEVENTY+3,EIGHTY+3,0PARTNERSHIPp
  CIRCLED NUMBER TWENTY ONE,3TWO,z,FOUR,FIVE,SIX,SEVEN,EIGHT,NINE,2THIRTY,3ONE,TWO,z,FOUR,FIVE
  1HANGUL KIYEOK,2NIEUN,TIKEUT,RIEUL,MIEUM,PIEUP,SIOS,IEUNG,CIEUC,CHIEUCH,KHIEUKH,THIEUTH,PHIEUPH
  HIEUH,KIYEOK A,NIEUN A,TIKEUT A,RIEUL A,MIEUM A,PIEUP A,SIOS A,IEUNG A,CIEUC A,CHIEUCH A,KHIEUKH A
  THIEUTH A,PHIEUPH A,HIEUH A,1KOREAN CHARACTER CHAMKO,3JUEUI,1HANGUL IEUNG U
  0KOREAN STANDARD SYMBOL,CIRCLED IDEOGRAPH ONE,2TWO,z,FOUR,FIVE,SIX,SEVEN,EIGHT,NINE,TEN,MOON,FIRE
  WATER,WOOD,METAL,EARTH,SUN,STOCK,HAVE,SOCIETY,NAME,SPECIAL,FINANCIAL,CONGRATULATION,LABOR,SECRET
  MALE,FEMALE,SUITABLE,EXCELLENT,PRINT,ATTENTION,ITEM,REST,COPY,CORRECT,u,CENTRE,x,r,m,MEDICINE
  RELIGION,STUDY,SUPERVISE,ENTERPRISE,RESOURCE,ALLIANCE,NIGHT,1NUMBER THIRTY SIX,3SEVEN,EIGHT,NINE
  2FORTY,3ONE,TWO,z,FOUR,FIVE,SIX,SEVEN,EIGHT,NINE,2FIFTY,0sTELEGRAPH SYMBOL FOR JANUARY,4FEBRUARY
  MARCH,APRIL,MAY,JUNE,JULY,AUGUST,SEPTEMBER,OCTOBER,NOVEMBER,DECEMBER,0SQUARE HG,1ERG,EV
  0LIMITED LIABILITYp,CIRCLED KATAKANA A,2I,U,E,O,KA,KI,KU,KE,KO,SA,SI,SU,SE,SO,TA,TI,TU,TE,TO,NA,NI
  NU,NE,NO,HA,HI,HU,HE,HO,MA,MI,MU,ME,MO,YA,YU,YO,RA,RI,RU,RE,RO,WA,WI,WE,WO,0SQUARE ERA NAME REIWA
  1APAATO,ARUHUA,ANPEA,AARU,ININGU,INTI,UON,ESUKUUDO,EEKAA,ONSU,OOMU,KAIRI,KARATTO,KARORII,GARON
  GANMA,GIGA,GINII,KYURII,GIRUDAA,KIRO,KIROGURAMU,KIROMEETORU,KIROWATTO,GURAMU,GURAMUTON,KURUZEIRO
  KUROONE,KEESU,KORUNA,KOOPO,SAIKURU,SANTIIMU,SIRINGU,SENTI,SENTO,DAASU,DESI,DORU,TON,NANO,NOTTO
  HAITU,PAASENTO,PAATU,BAARERU,PIASUTORU,PIKURU,PIKO,BIRU,HUARADDO,HUIITO,BUSSYERU,HURAN,HEKUTAARU
  PESO,PENIHI,HERUTU,PENSU,PEEZI,BEETA,POINTO,BORUTO,HON,PONDO,HOORU,HOON,MAIKURO,MAIRU,MAHHA,MARUKU
  MANSYON,MIKURON,MIRI,MIRIBAARU,MEGA,MEGATON,MEETORU,YAADO,YAARU,YUAN,RITTORU,RIRA,RUPII,RUUBURU
  REMU,RENTOGEN,WATTO,0sTELEGRAPH SYMBOL FOR HOUR ZERO,5ONE,TWO,z,FOUR,FIVE,SIX,SEVEN,EIGHT,NINE,TEN
  ELEVEN,TWELVE,THIRTEEN,FOURTEEN,FIFTEEN,SIXTEEN,SEVENTEEN,EIGHTEEN,NINETEEN,TWENTY,TWENTY-ONE
  TWENTY-TWO,TWENTY-THREE,TWENTY-FOUR,0SQUARE HPA,1DA,AU,BAR,OV,PC,DM,2SQUARED,CUBED,1IU
  ERA NAME HEISEI,3SYOUWA,TAISYOU,MEIZI,1CORPORATION,PA AMPS,NA,MU A,MA,KA,KB,MB,GB,CAL,KCAL,PF,NF
  MU F,2G,1MG,KG,HZ,KHZ,MHZ,GHZ,THZ,MU L,ML,DL,KL,FM,NM,MU M,MM,CM,KM,MM SQUARED,CM+1,M+1,KM+1
  MM CUBED,CM+1,M+1,KM+1,M OVER S,4SQUARED,1PA,KPA,MPA,GPA,RAD,2OVER S,4SQUARED,1PS,NS,MU S,MS,PV,NV
  MU V,MV,KV,MV MEGA,PW,NW,MU W,MW,KW,MW MEGA,K OHM,M+1,AM,BQ,CC,CD,C OVER KG,CO,DB,GY,HA,HP,IN,KK
  KMc,KT,LM,LN,LOG,LX,MBd,MIL,MOL,PH,PM,PPM,PR,SR,SV,WB,V OVER M,A+2,0sTELEGRAPH SYMBOL FOR DAY ONE
  5TWO,z,FOUR,FIVE,SIX,SEVEN,EIGHT,NINE,TEN,ELEVEN,TWELVE,THIRTEEN,FOURTEEN,FIFTEEN,SIXTEEN
  SEVENTEEN,EIGHTEEN,NINETEEN,TWENTY,TWENTY-ONE,TWENTY-TWO,TWENTY-THREE,TWENTY-FOUR,TWENTY-FIVE
  TWENTY-SIX,TWENTY-SEVEN,TWENTY-EIGHT,TWENTY-NINE,THIRTY,THIRTY-ONE,0SQUARE GAL,=4DC0
  HEXAGRAM FOR THE CREATIVE HEAVEN,3RECEPTIVE EARTH,2DIFFICULTY AT THE BEGINNING,YOUTHFUL FOLLY
  WAITING,CONFLICT,THE ARMY,HOLDING TOGETHER,dTAMING,TREADING,PEACE,STANDSTILL,FELLOWSHIP
  GREAT POSSESSION,MODESTY,ENTHUSIASM,FOLLOWING,WORK ON THE DECAYED,APPROACH,CONTEMPLATION
  BITING THROUGH,GRACE,SPLITTING APART,RETURN,INNOCENCE,GREAT TAMING,MOUTH CORNERS
  GREAT PREPONDERANCE,THE ABYSMAL WATER,3CLINGING FIRE,2INFLUENCE,DURATION,RETREAT,GREAT POWER
  PROGRESS,DARKENING OF THE LIGHT,THE FAMILY,OPPOSITION,OBSTRUCTION,DELIVERANCE,DECREASE,INCREASE
  BREAKTHROUGH,COMING TO MEET,GATHERING TOGETHER,PUSHING UPWARD,OPPRESSION,THE WELL,REVOLUTION
  THE CAULDRON,3AROUSING THUNDER,KEEPING STILL MOUNTAIN,2DEVELOPMENT,THE MARRYING MAIDEN,ABUNDANCE
  THE WANDERER,3GENTLE WIND,JOYOUS LAKE,2DISPERSION,LIMITATION,INNER TRUTH,dPREPONDERANCE
  AFTER COMPLETION,BEFORE+1,=A000,0YI SYLLABLE IT,2IX,I,IP,IET,IEX,IE,IEP,AT,AX,A,AP,UOX,UO,UOP,OT
  OX,O,OP,EX,E,WU,BIT,BIX,BI,BIP,BIET,BIEX,BIE,BIEP,BAT,BAX,BA,BAP,BUOX,BUO,BUOP,BOT,BOX,BO,BOP,BEX
  BE,BEP,BUT,BUX,BU,BUP,BURX,BUR,BYT,BYX,BY,BYP,BYRX,BYR,PIT,PIX,PI,PIP,PIEX,PIE,PIEP,PAT,PAX,PA,PAP
  PUOX,PUO,PUOP,POT,POX,PO,POP,PUT,PUX,PU,PUP,PURX,PUR,PYT,PYX,PY,PYP,PYRX,PYR,BBIT,BBIX,BBI,BBIP
  BBIET,BBIEX,BBIE,BBIEP,BBAT,BBAX,BBA,BBAP,BBUOX,BBUO,BBUOP,BBOT,BBOX,BBO,BBOP,BBEX,BBE,BBEP,BBUT
  BBUX,BBU,BBUP,BBURX,BBUR,BBYT,BBYX,BBY,BBYP,NBIT,NBIX,NBI,NBIP,NBIEX,NBIE,NBIEP,NBAT,NBAX,NBA,NBAP
  NBOT,NBOX,NBO,NBOP,NBUT,NBUX,NBU,NBUP,NBURX,NBUR,NBYT,NBYX,NBY,NBYP,NBYRX,NBYR,HMIT,HMIX,HMI,HMIP
  HMIEX,HMIE,HMIEP,HMAT,HMAX,HMA,HMAP,HMUOX,HMUO,HMUOP,HMOT,HMOX,HMO,HMOP,HMUT,HMUX,HMU,HMUP,HMURX
  HMUR,HMYX,HMY,HMYP,HMYRX,HMYR,MIT,MIX,MI,MIP,MIEX,MIE,MIEP,MAT,MAX,MA,MAP,MUOT,MUOX,MUO,MUOP,MOT
  MOX,MO,MOP,MEX,ME,MUT,MUX,MU,MUP,MURX,MUR,MYT,MYX,MY,MYP,FIT,FIX,FI,FIP,FAT,FAX,FA,FAP,FOX,FO,FOP
  FUT,FUX,FU,FUP,FURX,FUR,FYT,FYX,FY,FYP,VIT,VIX,VI,VIP,VIET,VIEX,VIE,VIEP,VAT,VAX,VA,VAP,VOT,VOX,VO
  VOP,VEX,VEP,VUT,VUX,VU,VUP,VURX,VUR,VYT,VYX,VY,VYP,VYRX,VYR,DIT,DIX,DI,DIP,DIEX,DIE,DIEP,DAT,DAX
  DA,DAP,DUOX,DUO,DOT,DOX,DO,DOP,DEX,DE,DEP,DUT,DUX,DU,DUP,DURX,DUR,TIT,TIX,TI,TIP,TIEX,TIE,TIEP,TAT
  TAX,TA,TAP,TUOT,TUOX,TUO,TUOP,TOT,TOX,TO,TOP,TEX,TE,TEP,TUT,TUX,TU,TUP,TURX,TUR,DDIT,DDIX,DDI,DDIP
  DDIEX,DDIE,DDIEP,DDAT,DDAX,DDA,DDAP,DDUOX,DDUO,DDUOP,DDOT,DDOX,DDO,DDOP,DDEX,DDE,DDEP,DDUT,DDUX
  DDU,DDUP,DDURX,DDUR,NDIT,NDIX,NDI,NDIP,NDIEX,NDIE,NDAT,NDAX,NDA,NDAP,NDOT,NDOX,NDO,NDOP,NDEX,NDE
  NDEP,NDUT,NDUX,NDU,NDUP,NDURX,NDUR,HNIT,HNIX,HNI,HNIP,HNIET,HNIEX,HNIE,HNIEP,HNAT,HNAX,HNA,HNAP
  HNUOX,HNUO,HNOT,HNOX,HNOP,HNEX,HNE,HNEP,HNUT,NIT,NIX,NI,NIP,NIEX,NIE,NIEP,NAX,NA,NAP,NUOX,NUO,NUOP
  NOT,NOX,NO,NOP,NEX,NE,NEP,NUT,NUX,NU,NUP,NURX,NUR,HLIT,HLIX,HLI,HLIP,HLIEX,HLIE,HLIEP,HLAT,HLAX
  HLA,HLAP,HLUOX,HLUO,HLUOP,HLOX,HLO,HLOP,HLEX,HLE,HLEP,HLUT,HLUX,HLU,HLUP,HLURX,HLUR,HLYT,HLYX,HLY
  HLYP,HLYRX,HLYR,LIT,LIX,LI,LIP,LIET,LIEX,LIE,LIEP,LAT,LAX,LA,LAP,LUOT,LUOX,LUO,LUOP,LOT,LOX,LO,LOP
  LEX,LE,LEP,LUT,LUX,LU,LUP,LURX,LUR,LYT,LYX,LY,LYP,LYRX,LYR,GIT,GIX,GI,GIP,GIET,GIEX,GIE,GIEP,GAT
  GAX,GA,GAP,GUOT,GUOX,GUO,GUOP,GOT,GOX,GO,GOP,GET,GEX,GE,GEP,GUT,GUX,GU,GUP,GURX,GUR,KIT,KIX,KI,KIP
  KIEX,KIE,KIEP,KAT,KAX,KA,KAP,KUOX,KUO,KUOP,KOT,KOX,KO,KOP,KET,KEX,KE,KEP,KUT,KUX,KU,KUP,KURX,KUR
  GGIT,GGIX,GGI,GGIEX,GGIE,GGIEP,GGAT,GGAX,GGA,GGAP,GGUOT,GGUOX,GGUO,GGUOP,GGOT,GGOX,GGO,GGOP,GGET
  GGEX,GGE,GGEP,GGUT,GGUX,GGU,GGUP,GGURX,GGUR,MGIEX,MGIE,MGAT,MGAX,MGA,MGAP,MGUOX,MGUO,MGUOP,MGOT
  MGOX,MGO,MGOP,MGEX,MGE,MGEP,MGUT,MGUX,MGU,MGUP,MGURX,MGUR,HXIT,HXIX,HXI,HXIP,HXIET,HXIEX,HXIE
  HXIEP,HXAT,HXAX,HXA,HXAP,HXUOT,HXUOX,HXUO,HXUOP,HXOT,HXOX,HXO,HXOP,HXEX,HXE,HXEP,NGIEX,NGIE,NGIEP
  NGAT,NGAX,NGA,NGAP,NGUOT,NGUOX,NGUO,NGOT,NGOX,NGO,NGOP,NGEX,NGE,NGEP,HIT,HIEX,HIE,HAT,HAX,HA,HAP
  HUOT,HUOX,HUO,HUOP,HOT,HOX,HO,HOP,HEX,HE,HEP,WAT,WAX,WA,WAP,WUOX,WUO,WUOP,WOX,WO,WOP,WEX,WE,WEP
  ZIT,ZIX,ZI,ZIP,ZIEX,ZIE,ZIEP,ZAT,ZAX,ZA,ZAP,ZUOX,ZUO,ZUOP,ZOT,ZOX,ZO,ZOP,ZEX,ZE,ZEP,ZUT,ZUX,ZU,ZUP
  ZURX,ZUR,ZYT,ZYX,ZY,ZYP,ZYRX,ZYR,CIT,CIX,CI,CIP,CIET,CIEX,CIE,CIEP,CAT,CAX,CA,CAP,CUOX,CUO,CUOP
  COT,COX,CO,COP,CEX,CE,CEP,CUT,CUX,CU,CUP,CURX,CUR,CYT,CYX,CY,CYP,CYRX,CYR,ZZIT,ZZIX,ZZI,ZZIP,ZZIET
  ZZIEX,ZZIE,ZZIEP,ZZAT,ZZAX,ZZA,ZZAP,ZZOX,ZZO,ZZOP,ZZEX,ZZE,ZZEP,ZZUX,ZZU,ZZUP,ZZURX,ZZUR,ZZYT,ZZYX
  ZZY,ZZYP,ZZYRX,ZZYR,NZIT,NZIX,NZI,NZIP,NZIEX,NZIE,NZIEP,NZAT,NZAX,NZA,NZAP,NZUOX,NZUO,NZOX,NZOP
  NZEX,NZE,NZUX,NZU,NZUP,NZURX,NZUR,NZYT,NZYX,NZY,NZYP,NZYRX,NZYR,SIT,SIX,SI,SIP,SIEX,SIE,SIEP,SAT
  SAX,SA,SAP,SUOX,SUO,SUOP,SOT,SOX,SO,SOP,SEX,SE,SEP,SUT,SUX,SU,SUP,SURX,SUR,SYT,SYX,SY,SYP,SYRX,SYR
  SSIT,SSIX,SSI,SSIP,SSIEX,SSIE,SSIEP,SSAT,SSAX,SSA,SSAP,SSOT,SSOX,SSO,SSOP,SSEX,SSE,SSEP,SSUT,SSUX
  SSU,SSUP,SSYT,SSYX,SSY,SSYP,SSYRX,SSYR,ZHAT,ZHAX,ZHA,ZHAP,ZHUOX,ZHUO,ZHUOP,ZHOT,ZHOX,ZHO,ZHOP,ZHET
  ZHEX,ZHE,ZHEP,ZHUT,ZHUX,ZHU,ZHUP,ZHURX,ZHUR,ZHYT,ZHYX,ZHY,ZHYP,ZHYRX,ZHYR,CHAT,CHAX,CHA,CHAP,CHUOT
  CHUOX,CHUO,CHUOP,CHOT,CHOX,CHO,CHOP,CHET,CHEX,CHE,CHEP,CHUX,CHU,CHUP,CHURX,CHUR,CHYT,CHYX,CHY,CHYP
  CHYRX,CHYR,RRAX,RRA,RRUOX,RRUO,RROT,RROX,RRO,RROP,RRET,RREX,RRE,RREP,RRUT,RRUX,RRU,RRUP,RRURX,RRUR
  RRYT,RRYX,RRY,RRYP,RRYRX,RRYR,NRAT,NRAX,NRA,NRAP,NROX,NRO,NROP,NRET,NREX,NRE,NREP,NRUT,NRUX,NRU
  NRUP,NRURX,NRUR,NRYT,NRYX,NRY,NRYP,NRYRX,NRYR,SHAT,SHAX,SHA,SHAP,SHUOX,SHUO,SHUOP,SHOT,SHOX,SHO
  SHOP,SHET,SHEX,SHE,SHEP,SHUT,SHUX,SHU,SHUP,SHURX,SHUR,SHYT,SHYX,SHY,SHYP,SHYRX,SHYR,RAT,RAX,RA,RAP
  RUOX,RUO,RUOP,ROT,ROX,RO,ROP,REX,RE,REP,RUT,RUX,RU,RUP,RURX,RUR,RYT,RYX,RY,RYP,RYRX,RYR,JIT,JIX,JI
  JIP,JIET,JIEX,JIE,JIEP,JUOT,JUOX,JUO,JUOP,JOT,JOX,JO,JOP,JUT,JUX,JU,JUP,JURX,JUR,JYT,JYX,JY,JYP
  JYRX,JYR,QIT,QIX,QI,QIP,QIET,QIEX,QIE,QIEP,QUOT,QUOX,QUO,QUOP,QOT,QOX,QO,QOP,QUT,QUX,QU,QUP,QURX
  QUR,QYT,QYX,QY,QYP,QYRX,QYR,JJIT,JJIX,JJI,JJIP,JJIET,JJIEX,JJIE,JJIEP,JJUOX,JJUO,JJUOP,JJOT,JJOX
  JJO,JJOP,JJUT,JJUX,JJU,JJUP,JJURX,JJUR,JJYT,JJYX,JJY,JJYP,NJIT,NJIX,NJI,NJIP,NJIET,NJIEX,NJIE
  NJIEP,NJUOX,NJUO,NJOT,NJOX,NJO,NJOP,NJUX,NJU,NJUP,NJURX,NJUR,NJYT,NJYX,NJY,NJYP,NJYRX,NJYR,NYIT
  NYIX,NYI,NYIP,NYIET,NYIEX,NYIE,NYIEP,NYUOX,NYUO,NYUOP,NYOT,NYOX,NYO,NYOP,NYUT,NYUX,NYU,NYUP,XIT
  XIX,XI,XIP,XIET,XIEX,XIE,XIEP,XUOX,XUO,XOT,XOX,XO,XOP,XYT,XYX,XY,XYP,XYRX,XYR,YIT,YIX,YI,YIP,YIET
  YIEX,YIE,YIEP,YUOT,YUOX,YUO,YUOP,YOT,YOX,YO,YOP,YUT,YUX,YU,YUP,YURX,YUR,YYT,YYX,YY,YYP,YYRX,YYR
  =A490,1RADICAL QOT,2LI,KIT,NYIP,CYP,SSI,GGOP,GEP,MI,HXIT,LYR,BBUT,MOP,YO,PUT,HXUO,TAT,GA,ZUP,CYT
  DDUR,BUR,GGUO,NYOP,TU,OP,JJUT,ZOT,PYT,HMO,YIT,VUR,SHY,VEP,ZA,JO,NZUP,JJY,GOT,JJIE,WO,DU,SHUR,LIE
  CY,CUOP,CIP,HXOP,SHAT,ZUR,SHOP,CHE,ZZIET,NBIE,KE,=A4D0,0LISUaBA,2PA,PHA,DA,TA,THA,GA,KA,KHA,JA,CA
  CHA,DZA,TSA,TSHA,MA,NA,LA,SA,ZHA,ZA,NGA,HA,XA,HHA,FA,WA,SHA,YA,GHA,A,AE,E,EU,I,O,U,UE,UH,OE
  TONE MYA TI,3NA PO,MYA CYA,4BO,NA,JEU,1PUNCTUATION COMMA,2FULL STOP,0VAI SYLLABLE EE,2EEN,HEE,WEE
  WEEN,PEE,BHEE,BEE,MBEE,KPEE,MGBEE,GBEE,FEE,VEE,TEE,THEE,DHEE,DHHEE,LEE,REE,DEE,NDEE,SEE,SHEE,ZEE
  ZHEE,CEE,JEE,NJEE,YEE,KEE,NGGEE,GEE,MEE,NEE,NYEE,I,IN,HI,HIN,WI,WIN,PI,BHI,BI,MBI,KPI,MGBI,GBI,FI
  VI,TI,THI,DHI,DHHI,LI,RI,DI,NDI,SI,SHI,ZI,ZHI,CI,JI,NJI,YI,KI,NGGI,GI,MI,NI,NYI,A,AN,NGAN,HA,HAN
  WA,WAN,PA,BHA,BA,MBA,KPA,KPAN,MGBA,GBA,FA,VA,TA,THA,DHA,DHHA,LA,RA,DA,NDA,SA,SHA,ZA,ZHA,CA,JA,NJA
  YA,KA,KAN,NGGA,GA,MA,NA,NYA,OO,OON,HOO,WOO,WOON,POO,BHOO,BOO,MBOO,KPOO,MGBOO,GBOO,FOO,VOO,TOO,THOO
  DHOO,DHHOO,LOO,ROO,DOO,NDOO,SOO,SHOO,ZOO,ZHOO,COO,JOO,NJOO,YOO,KOO,NGGOO,GOO,MOO,NOO,NYOO,U,UN,HU
  HUN,WU,WUN,PU,BHU,BU,MBU,KPU,MGBU,GBU,FU,VU,TU,THU,DHU,DHHU,LU,RU,DU,NDU,SU,SHU,ZU,ZHU,CU,JU,NJU
  YU,KU,NGGU,GU,MU,NU,NYU,O,ON,NGON,HO,HON,WO,WON,PO,BHO,BO,MBO,KPO,MGBO,GBO,GBON,FO,VO,TO,THO,DHO
  DHHO,LO,RO,DO,NDO,SO,SHO,ZO,ZHO,CO,JO,NJO,YO,KO,NGGO,GO,MO,NO,NYO,E,EN,NGEN,HE,HEN,WE,WEN,PE,BHE
  BE,MBE,KPE,KPEN,MGBE,GBE,GBEN,FE,VE,TE,THE,DHE,DHHE,LE,RE,DE,NDE,SE,SHE,ZE,ZHE,CE,JE,NJE,YE,KE
  NGGE,NGGEN,GE,GEN,ME,NE,NYE,NG,LENGTHENER,1COMMA,FULL STOP,QUESTIONw,SYLLABLE NDOLE FA,3KA,SOO
  1SYMBOL FEENG,2KEENG,TING,NII,BANG,FAA,TAA,DANG,DOONG,KUNG,TONG,DO-O,JONG,1DIGIT ZERO,2ONE,TWO,z
  FOUR,FIVE,SIX,SEVEN,EIGHT,NINE,1SYLLABLE NDOLE MA,3DO,=A640,0CYRILLICcaZEMLYA,1d+2,caDZELO,d+2
  caREVERSED DZE,d+3,caIOTA,d+2,caDJERV,d+2,caMONOGRAPH UK,d+3,caBROAD OMEGA,d+3,caNEUTRAL YER,d+3
  caYERUbBACK+1,d+5,caIOTIFIED YAT,d+3,caREVERSED YU,d+3,caIOTIFIED A,d+3,caCLOSED LITTLE YUS,d+4
  caBLENDED+1,d+3,caIOTIFIED CLOSED LITTLE+1,d+5,caYN,d+2,caREVERSED TSE,d+3,caSOFT DE,d+3,caSOFT EL
  d+3,caSOFT EM,d+3,caMONOCULAR O,d+3,caBINOCULAR O,d+3,cavMONOCULAR O,d+4,aMULTIOCULAR O
  0COMBINING CYRILLIC VZMET,2TEN MILLIONSp,HUNDRED+2,THOUSAND+2,0SLAVONIC ASTERISK
  COMBINING CYRILLICaUKRAINIAN IE,3I,YI,U,HARDp,YERU,SOFTp,OMEGA,2KAVYKA,PAYEROK,0CYRILLIC KAVYKA
  1PAYEROK,caDWE,d+2,caDZWE,d+2,caZHWE,d+2,caCCHE,d+2,caDZZE,d+2,caTEbMIDDLE HOOK,d+5,caTWE,d+2
  caTSWE,d+2,caTSSE,d+2,caTCHE,d+2,caHWE,d+2,caSHWE,d+2,cavO,d+3,caCROSSED O,d+3
  0MODIFIERaCYRILLIC HARDp,3SOFT+1,0COMBINING CYRILLICaEF,3IOTIFIED E,0BAMUMaA,2KA,U,KU,EE,REE,TAE,O
  NYI,I,LA,PA,RII,RIEE,LEEEE,MEEEE,TAA,NDAA,NJAEM,M,SUU,MU,SHII,SI,SHEUX,SEUX,KYEE,KET,NUAE,NU,NJUAE
  YOQ,SHU,YUQ,YA,NSHA,KEUX,PEUX,NJEE,NTEE,PUE,WUE,PEE,FEE,RU,LU,MI,NI,REUX,RAE,KEN,NGKWAEN,NGGA,NGA
  SHO,PUAE,FU,FOM,WA,NA,LI,PI,LOQ,KO,MBEN,REN,MEN,MA,TI,KI,MO,MBAA,TET,KPA,TEN,NTUU,SAMBA,FAAMAE
  KOVUU,KOGHOM,1COMBININGwKOQNDON,3TUKWENTIS,1NJAEMLI,FULL STOP,COLON,COMMA,SEMICOLON,QUESTIONw
  =A700,0MODIFIERaCHINESE TONE YIN PING,4YANG+1,YIN SHANG,YANG+1,YIN QU,YANG+1,YIN RU,YANG+1
  2EXTRA-HIGH DOTTED TONE BAR,u+3,MID+3,x+3,EXTRA-LOW+3,EXTRA-HIGH DOTTED LEFT-STEM+2,u+4,MID+4,x+4
  EXTRA-LOW+4,EXTRA-HIGH+3,u+3,MID+3,x+3,EXTRA-LOW+3,DOT VERTICAL+1,3SLASH,HORIZONTAL BAR
  2LOWERmCORNER ANGLE,RAISED UP ARROW,3DOWN+1,EXCLAMATIONw,INVERTED+2,2x+3,STRESS ANDuTONE,4x+1
  0LATINcaEGYPTOLOGICALj,1d+3,caEGYPTOLOGICAL AIN,d+3,caHENG,d+2,caTZ,d+2,caTRESILLO,d+2,caCUATRILLO
  d+2,caCUATRILLObCOMMA,d+4,adcF,4S,1caAA,d+2,caAO,d+2,caAU,d+2,caAV,d+2,caAVbHORIZONTAL BAR,d+5
  caAY,d+2,caREVERSED CbDOT,d+5,caKby,d+4,caKbDIAGONAL+1,d+5,caKbyAND+2,d+7,caBROKEN L,d+3,caLbuy
  d+5,caObLONGyOVERLAY,d+6,caObLOOP,d+4,caOO,d+2,caPbyTHROUGH DESCENDER,d+6,caPbFLOURISH,d+4
  caPbSQUIRREL TAIL,d+5,caQbyTHROUGH DESCENDER,d+6,caQbDIAGONALy,d+5,caR ROTUNDA,d+3,caRUM+1,d+3
  caVbDIAGONALy,d+5,caVY,d+2,caVISIGOTHIC Z,d+3,caTHORNby,d+4,caTHORNbyTHROUGH DESCENDER,d+6,caVEND
  d+2,caET,d+2,caIS,d+2,caCON,d+2,0MODIFIERaUS,LATINdaDUM,3LUM,MUM,NUM,RUM,1adc+1,daTUM,3UM
  1caINSULAR D,d+3,caINSULAR F,d+3,caINSULAR G,3TURNED+2,1d+4,caTURNED L,d+3,caINSULAR R,d+3
  caINSULAR S,d+3,caINSULAR T,d+3,0MODIFIERaxCIRCUMFLEX ACCENT,2COLON,SHORT EQUALSp,0LATINcaSALTILLO
  1d+2,caTURNED H,daLbRETROFLEX HOOK AND BELT,aSINOLOGICAL DOT,caNbDESCENDER,d+4,caCbBAR,d+4
  5PALATAL HOOK,3H+3,1caBbFLOURISH,d+4,caFby,d+4,caVOLAPUK AE,d+3,caVOLAPUK OE,d+3,caVOLAPUK UE,d+3
  caGbOBLIQUEy,d+5,caK+3,d+5,caN+3,d+5,caR+3,d+5,caS+3,d+5,caHbHOOK,3REVERSED OPEN E,SCRIPT G,LbBELT
  dcI,1adcQ,caTURNED K,4T,3JbCROSSED-TAIL,CHI,BETA,1d+2,caOMEGA,d+2,caUby,d+4,caGLOTTAL A,d+3
  caGLOTTAL I,d+3,caGLOTTAL U,d+3,caOLD POLISH O,d+4,caANGLICANA W,d+3,caCbPALATAL HOOK,3Sb+1
  ZbPALATAL+1,DbSHORTyOVERLAY,1d+6,caS+4,d+6,=A7D0,caCLOSED INSULAR G,d+4,=A7D3,3vTHORN,=A7D5,4WYNN
  1caMIDDLE SCOTS S,d+4,caSIGMOID S,d+3,=A7F2,0MODIFIERacC,3F,Q,0LATINcaREVERSED HALF H,1d+4
  EPIGRAPHICaSIDEWAYS I,0MODIFIERacHby,2dLIGATURE OE,0LATINadcTURNED M,1EPIGRAPHICaREVERSED F,4P
  3INVERTED M,I LONGA,ARCHAIC M,0SYLOTI NAGRIaA,3I,2pDVISVARA,aU,3E,O,2pHASANTA,aKO,3KHO,GO,GHO
  2pANUSVARA,aCO,3CHO,JO,JHO,TTO,TTHO,DDO,DDHO,TO,THO,DO,DHO,NO,PO,PHO,BO,BHO,MO,RO,LO,RRO,SO,HO
  2VOWELpA,4I,U,E,OO,2POETRY MARK-1*4,pALTERNATE HASANTA,=A830,0NORTH INDIC FRACTION ONE QUARTER
  4HALF,3zQUARTERS,ONE SIXTEENTH,4EIGHTH,3zSIXTEENTHS,2QUARTERw,PLACEHOLDER+1,RUPEE+1,QUANTITY+1
  =A840,0PHAGS-PAaKA,2KHA,GA,NGA,CA,CHA,JA,NYA,TA,THA,DA,NA,PA,PHA,BA,MA,TSA,TSHA,DZA,WA,ZHA,ZA,dA
  YA,RA,LA,SHA,SA,HA,A,I,U,E,O,QA,XA,FA,GGA,EE,1SUBJOINEDaWA,3YA,1aTTA,2TTHA,DDA,NNA,ALTERNATE YA
  VOICELESS SHA,VOICED HA,ASPIRATED FA,1SUBJOINEDaRA,SUPERFIXED+2,aCANDRABINDU,SINGLE HEADw,v+2
  wSHAD,2v+1,=A880,0SAURASHTRApANUSVARA,2VISARGA,1aA,2AA,I,II,U,UU,VOCALIC R,3RR,L,LL,2E,EE,AI,O,OO
  AU,KA,KHA,GA,GHA,NGA,CA,CHA,JA,JHA,NYA,TTA,TTHA,DDA,DDHA,NNA,TA,THA,DA,DHA,NA,PA,PHA,BA,BHA,MA,YA
  RA,LA,VA,SHA,SSA,SA,HA,LLA,1CONSONANTpHAARU,VOWELpAA,3I,II,U,UU,VOCALIC R,4RR,L,LL,3E,EE,AI,O,OO
  AU,1pVIRAMA,2CANDRABINDU,=A8CE,1DANDA,v+1,DIGIT ZERO,2ONE,TWO,z,FOUR,FIVE,SIX,SEVEN,EIGHT,NINE
  =A8E0,0COMBINING DEVANAGARI DIGIT ZERO,3ONE,TWO,z,FOUR,FIVE,SIX,SEVEN,EIGHT,NINE,2aA,3U,KA,NA,PA
  RA,VI,2pAVAGRAHA,0DEVANAGARIpSPACING CANDRABINDU,2CANDRABINDU VIRAMA,v+2,CANDRABINDU TWO,3z
  AVAGRAHA,2PUSHPIKA,1GAP FILLER,CARET,HEADSTROKE,pSIDDHAM,JAIN OM,aAY,VOWELp+1,0KAYAH LI DIGIT ZERO
  3ONE,TWO,z,FOUR,FIVE,SIX,SEVEN,EIGHT,NINE,2aKA,3KHA,GA,NGA,SA,SHA,ZA,NYA,TA,HTA,NA,PA,PHA,MA,DA,BA
  RA,YA,LA,WA,THA,HA,VA,CA,A,OE,I,OO,2VOWEL UE,3E,U,EE,O,2TONE PLOPHU,3CALYA,4PLOPHU,2pCWI,3SHYA
  0REJANGaKA,2GA,NGA,TA,DA,NA,PA,BA,MA,CA,JA,NYA,SA,RA,LA,YA,WA,HA,MBA,NGGA,NDA,NYJA,A,1VOWELpI,3U,E
  AI,O,AU,EU,EA,1CONSONANTpNG,3N,R,H,1VIRAMA,=A95F,SECTIONw,0HANGUL CHOSEONG TIKEUT-MIEUM
  2TIKEUT-PIEUP,TIKEUT-SIOS,TIKEUT-CIEUC,RIEUL-KIYEOK,RIEUL-SSANGKIYEOK,RIEUL-TIKEUT
  RIEUL-SSANGTIKEUT,RIEUL-MIEUM,RIEUL-PIEUP,RIEUL-SSANGPIEUP,RIEUL-KAPYEOUNPIEUP,RIEUL-SIOS
  RIEUL-CIEUC,RIEUL-KHIEUKH,MIEUM-KIYEOK,MIEUM-TIKEUT,MIEUM-SIOS,PIEUP-SIOS-THIEUTH,PIEUP-KHIEUKH
  PIEUP-HIEUH,SSANGSIOS-PIEUP,IEUNG-RIEUL,IEUNG-HIEUH,SSANGCIEUC-HIEUH,SSANGTHIEUTH,PHIEUPH-HIEUH
  HIEUH-SIOS,SSANGYEORINHIEUH,=A980,0JAVANESEpPANYANGGA,2CECAK,LAYAR,WIGNYAN,1aA,2I KAWI,I,II,U
  PA CEREK,NGA LELET,4RASWADI,2E,AI,O,KA,3SASAK,MURDA,2GA,3MURDA,2NGA,CA,3MURDA,2JA,NYA MURDA
  JA MAHAPRANA,NYA,TTA,3MAHAPRANA,2DDA,3MAHAPRANA,2NA MURDA,TA,3MURDA,2DA,3MAHAPRANA,2NA,PA,3MURDA
  2BA,3MURDA,2MA,YA,RA,3AGUNG,2LA,WA,SA MURDA,3MAHAPRANA,2SA,HA,1pCECAK TELU,VOWELpTARUNG,3TOLONG
  WULU,4MELIK,3SUKU,4MENDUT,3TALING,DIRGA MURE,PEPET,1CONSONANTpKERET,3PENGKAL,CAKRA,1PANGKON
  rRERENGGAN,m+1,PADA ANDAP,2MADYA,LUHUR,WINDU,PANGKAT,LINGSA,LUNGSI,ADEG,3ADEG,2PISELEH,1TURNED+2
  =A9CF,PANGRANGKEP,DIGIT ZERO,2ONE,TWO,z,FOUR,FIVE,SIX,SEVEN,EIGHT,NINE,=A9DE,1PADA TIRTA TUMETES
  2ISEN-ISEN,0MYANMARaSHAN GHA,3CHA,JHA,NNA,BHA,1pSHAN SAW,MODIFIERaSHAN REDUPLICATION
  aTAI LAING NYA,4FA,GA,GHA,JA,JHA,DDA,DDHA,NNA,1TAI LAING DIGIT ZERO,4ONE,TWO,z,FOUR,FIVE,SIX,SEVEN
  EIGHT,NINE,1aTAI LAING LLA,4DA,DHA,BA,BHA,=AA00,0CHAMaA,2I,U,E,AI,O,KA,KHA,GA,GHA,NGUE,NGA,CHA
  CHHA,JA,JHA,NHUE,NHA,NHJA,TA,THA,DA,DHA,NUE,NA,DDA,PA,PPA,PHA,BA,BHA,MUE,MA,BBA,YA,RA,LA,VA,SSA,SA
  HA,1VOWELpAA,3I,II,EI,U,OE,O,AI,AU,UE,1CONSONANTpYA,3RA,LA,WA,=AA40,1afK,3G,NG,1CONSONANTp+2,afCH
  3T,N,P,Y,R,L,SS,1CONSONANTpfM,4H,=AA50,1DIGIT ZERO,2ONE,TWO,z,FOUR,FIVE,SIX,SEVEN,EIGHT,NINE,=AA5C
  1PUNCTUATION SPIRAL,2DANDA,v+1,TRIPLE+1,0MYANMARaKHAMTI GA,3CA,CHA,JA,JHA,NYA,TTA,TTHA,DDA,DDHA
  DHA,NA,SA,HA,HHA,FA,1MODIFIERaKHAMTI REDUPLICATION,aKHAMTI XA,3ZA,RA,1LOGOGRAM KHAMTI OAY,3QN,HM
  1SYMBOL AITON EXCLAMATION,3ONE,TWO,1aAITON RA,pPAO KAREN TONE,2TAI LAING TONE-2,4TONE-5
  1aSHWE PALAUNG CHA,4SHA,0TAI VIETaxKO,3u+1,xKHO,u+1,xKHHO,u+1,xGO,u+1,xNGO,u+1,xCO,u+1,xCHO,u+1
  xSO,u+1,xNYO,u+1,xDO,u+1,xTO,u+1,xTHO,u+1,xNO,u+1,xBO,u+1,xPO,u+1,xPHO,u+1,xFO,u+1,xMO,u+1,xYO,u+1
  xRO,u+1,xLO,u+1,xVO,u+1,xHO,u+1,xO,uO,2MAI KANG,VOWEL AA,3I,UE,U,E,O,2MAI KHIT,VOWEL IA,3UEA,UA
  AUE,AY,AN,AM,2TONE MAI EK,4NUENG,THO,SONG,=AADB,2SYMBOL KON,3NUENG,SAM,HO HOI,KOI KOI
  0MEETEI MAYEKaE,3O,CHA,NYA,TTA,TTHA,DDA,DDHA,NNA,SHA,SSA,2VOWELpII,4UU,AAI,AU,AAU,2CHEIKHAN
  AHANG KHUDAM,ANJI,SYLLABLE REPETITIONw,WORD+2,VOWELpVISARGA,VIRAMA,=AB01,0ETHIOPIC SYLLABLE TTHU
  2TTHI,TTHAA,TTHEE,TTHE,TTHO,=AB09,DDHU,DDHI,DDHAA,DDHEE,DDHE,DDHO,=AB11,DZU,DZI,DZAA,DZEE,DZE,DZO
  =AB20,CCHHA,CCHHU,CCHHI,CCHHAA,CCHHEE,CCHHE,CCHHO,=AB28,BBA,BBU,BBI,BBAA,BBEE,BBE,BBO,=AB30
  0LATINdaBARRED ALPHA,3A REVERSED-SCHWA,BLACKLETTER E,BARRED E,EbFLOURISH,LENIS F
  SCRIPT GbCROSSED-TAIL,LbINVERTED LAZY S,5vMIDDLE TILDE,MIDDLE RING,3MbCROSSED-TAIL,N+2,ENG+2
  BLACKLETTER O,5by,3OPEN+3,INVERTED OE,TURNED OEby,6HORIZONTAL+1,4O OPEN-O,6by,3STIRRUP R
  1adcRbmLEG,daR WITHOUT HANDLE,3vR,RbCROSSED-TAIL,v+3,SCRIPT R,5bRING,3BASELINE ESH,UbSHORTmLEG
  4BAR+4,3UI,TURNED+1,UbrHOOK,CHI,4bxmRING,6rSERIF,3XbxmRING,5LONGrLEG,8ANDxmRING,bSERIF
  3YbSHORTmLEG,0MODIFIER BREVEbINVERTED BREVE,1adHENG,3LbINVERTED LAZY S,5MIDDLE TILDE,3UbrHOOK
  0LATINdaSAKHA YAT,3IOTIFIED E,OPEN OE,UO,INVERTED ALPHA,0GREEKadcOMEGA
  LATINdaDZ DIGRAPHbRETROFLEX HOOK,3TS+4,TURNED RbMIDDLE TILDE,0MODIFIERadTURNED W,2rTACK,m+1,=AB70
  0CHEROKEEdaA,3E,I,O,U,V,GA,KA,GE,GI,GO,GU,GV,HA,HE,HI,HO,HU,HV,LA,LE,LI,LO,LU,LV,MA,ME,MI,MO,MU,NA
  HNA,NAH,NE,NI,NO,NU,NV,QUA,QUE,QUI,QUO,QUU,QUV,SA,S,SE,SI,SO,SU,SV,DA,TA,DE,TE,DI,TI,DO,DU,DV,DLA
  TLA,TLE,TLI,TLO,TLU,TLV,TSA,TSE,TSI,TSO,TSU,TSV,WA,WE,WI,WO,WU,WV,YA,0MEETEI MAYEKaKOK,3SAM,LAI
  MIT,PA,NA,CHIL,TIL,KHOU,NGOU,THOU,WAI,YANG,HUK,UN,I,PHAM,ATIYA,GOK,JHAM,RAI,BA,JIL,DIL,GHOU,DHOU
  BHAM,KOK LONSUM,LAI+1,MIT+1,PA+1,NA+1,TIL+1,NGOU+1,I+1,2VOWELpONAP,4INAP,ANAP,YENAP,SOUNAP,UNAP
  CHEINAP,NUNG,2CHEIKHEI,LUM IYEK,APUN+1,=ABF0,DIGIT ZERO,3ONE,TWO,z,FOUR,FIVE,SIX,SEVEN,EIGHT,NINE
  =D7B0,0HANGUL JUNGSEONG O-YEO,2O-O-I,YO-A,YO-AE,YO-EO,U-YEO,U-I-I,YU-AE,YU-O,EU-A,EU-EO,EU-E,EU-O
  I-YA-O,I-YAE,I-YEO,I-YE,I-O-I,I-YO,I-YU,I-I,ARAEA-A,ARAEA-E,=D7CB,1JONGSEONG NIEUN-RIEUL
  2NIEUN-CHIEUCH,SSANGTIKEUT,SSANGTIKEUT-PIEUP,TIKEUT-PIEUP,TIKEUT-SIOS,TIKEUT-SIOS-KIYEOK
  TIKEUT-CIEUC,TIKEUT-CHIEUCH,TIKEUT-THIEUTH,RIEUL-SSANGKIYEOK,RIEUL-KIYEOK-HIEUH,SSANGRIEUL-KHIEUKH
  RIEUL-MIEUM-HIEUH,RIEUL-PIEUP-TIKEUT,RIEUL-PIEUP-PHIEUPH,RIEUL-YESIEUNG,RIEUL-YEORINHIEUH-HIEUH
  KAPYEOUNRIEUL,MIEUM-NIEUN,MIEUM-SSANGNIEUN,SSANGMIEUM,MIEUM-PIEUP-SIOS,MIEUM-CIEUC,PIEUP-TIKEUT
  PIEUP-RIEUL-PHIEUPH,PIEUP-MIEUM,SSANGPIEUP,PIEUP-SIOS-TIKEUT,PIEUP-CIEUC,PIEUP-CHIEUCH,SIOS-MIEUM
  SIOS-KAPYEOUNPIEUP,SSANGSIOS-KIYEOK,SSANGSIOS-TIKEUT,SIOS-PANSIOS,SIOS-CIEUC,SIOS-CHIEUCH
  SIOS-THIEUTH,SIOS-HIEUH,PANSIOS-PIEUP,PANSIOS-KAPYEOUNPIEUP,YESIEUNG-MIEUM,YESIEUNG-HIEUH
  CIEUC-PIEUP,CIEUC-SSANGPIEUP,SSANGCIEUC,PHIEUPH-SIOS,PHIEUPH-THIEUTH,=FB00,0LATINdLIGATURE FF,3FI
  FL,FFI,FFL,LONG S T,ST,=FB13,0ARMENIANdLIGATURE MEN NOW,4ECH,INI,3VEW NOW,MEN XEH,=FB1D
  0HEBREWaYODbHIRIQ,1POINT JUDEO-SPANISH VARIKA,LIGATURE YIDDISH YOD YOD PATAH,aALTERNATIVE AYIN
  2WIDEj,3DALET,HE,KAF,LAMED,fMEM,RESH,TAV,2ALTERNATIVE PLUSp,SHINbSHIN DOT,4SIN+1,DAGESH AND SHIN+1
  6SIN+1,2jbPATAH,4QAMATS,MAPIQ,2BETbDAGESH,GIMEL+2,DALET+2,HEbMAPIQ,VAVbDAGESH,ZAYIN+2,=FB38,TET+2
  YOD+2,fKAF+2,KAF+2,LAMED+2,=FB3E,MEM+2,=FB40,NUN+2,SAMEKH+2,=FB43,fPE+2,PE+2,=FB46,TSADI+2,QOF+2
  RESH+2,SHIN+2,TAV+2,VAVbHOLAM,BETbRAFE,KAF+2,PE+2,1LIGATUREjLAMED,0ARABICajWASLAeFORM,4f+1
  2BEEHe+1,3f+1,g+1,k+1,2PEHe+1,3f+1,g+1,k+1,2BEHEHe+1,3f+1,g+1,k+1,2TTEHEHe+1,3f+1,g+1,k+1
  2TEHEHe+1,3f+1,g+1,k+1,2TTEHe+1,3f+1,g+1,k+1,2VEHe+1,3f+1,g+1,k+1,2PEHEHe+1,3f+1,g+1,k+1,2DYEHe+1
  3f+1,g+1,k+1,2NYEHe+1,3f+1,g+1,k+1,2TCHEHe+1,3f+1,g+1,k+1,2TCHEHEHe+1,3f+1,g+1,k+1,2DDAHALe+1,3f+1
  2DAHALe+1,3f+1,2DULe+1,3f+1,2DDALe+1,3f+1,2JEHe+1,3f+1,2RREHe+1,3f+1,2KEHEHe+1,3f+1,g+1,k+1
  2GAFe+1,3f+1,g+1,k+1,2GUEHe+1,3f+1,g+1,k+1,2NGOEHe+1,3f+1,g+1,k+1,2NOON GHUNNAe+1,4f+1,2RNOONe+1
  3f+1,g+1,k+1,2HEHbnte+1,6f+1,3GOALe+1,4f+1,g+1,k+1,3DOACHASHMEEe+1,4f+1,g+1,k+1,2nBARREEe+1,4f+1
  bHAMZAte+1,7f+1,1SYMBOL DOTt,3BELOW,2TWO DOTSt,4BELOW,2zDOTSt,4BELOW,POINTING DOWNWARDSt,6BELOW
  2FOUR DOTSt,4BELOW,2vVERTICAL BAR+1,TWO DOTS VERTICALLYt,5BELOW,2RING,dTAHt,4BELOW,2WASLAt,=FBD3
  1aNGeFORM,3f+1,g+1,k+1,2Ue+1,3f+1,2OEe+1,3f+1,2YUe+1,3f+1,2UbHAMZAte+1,VE+2,3f+1,2KIRGHIZ OEe+1
  4f+1,3YUe+1,4f+1,2Ee+1,3f+1,g+1,k+1,2UIGHUR KAZAKH KIRGHIZjig+1,7k+1,1LIGATUREnbHAMZAtbje+1,8f+1
  7AEe+1,8f+1,7WAWe+1,8f+1,7Ue+1,8f+1,7OEe+1,8f+1,7YUe+1,8f+1,7Ee+1,8f+1,g+1
  2UIGHUR KIRGHIZnbHAMZAtbjie+1,9jif+1,jig+1,1aFARSIne+1,4f+1,g+1,k+1,1LIGATUREnbHAMZAtble+1,7o+2
  h+2,ji+2,n+2,2BEHbl+2,4o+2,q+2,h+2,ji+2,n+2,2TEHbl+2,4o+2,q+2,h+2,ji+2,n+2,2THEHbl+2,4h+2,ji+2,n+2
  2lbo+2,4h+2,2obl+2,4h+2,2qbl+2,4o+2,h+2,2SEENbl+2,4o+2,q+2,h+2,2SADbo+2,4h+2,2DADbl+2,4o+2,q+2,h+2
  2TAHbo+2,4h+2,2ZAH+4,AINbl+2,4h+2,2GHAINbl+2,4h+2,2FEHbl+2,4o+2,q+2,h+2,ji+2,n+2,2QAFbo+2,4h+2
  ji+2,n+2,2KAFbj+2,4l+2,o+2,q+2,LAM+2,h+2,ji+2,n+2,2LAMbl+2,4o+2,q+2,h+2,ji+2,n+2,2hbl+2,4o+2,q+2
  h+2,ji+2,n+2,2NOONbl+2,4o+2,q+2,h+2,ji+2,n+2,2HEHbl+2,4h+2,ji+2,n+2,2nbl+2,4o+2,q+2,h+2,ji+2,n+2
  2THALbSUPERSCRIPTj+2,REH+5,ji+5,SHADDAbDAMMATAN+2,4KASRATAN+2,FATHA+2,DAMMA+2,KASRA+2
  SUPERSCRIPTj+2,2nbHAMZAtbREHf+1,7ZAIN+2,h+2,NOON+2,ji+2,n+2,2BEHbREH+2,4ZAIN+2,h+2,NOON+2,ji+2,n+2
  2TEHbREH+2,4ZAIN+2,h+2,NOON+2,ji+2,n+2,2THEHbREH+2,4ZAIN+2,h+2,NOON+2,ji+2,n+2,2FEHbji+2,4n+2
  2QAFbji+2,4n+2,2KAFbj+2,4LAM+2,h+2,ji+2,n+2,2LAMbh+2,4ji+2,n+2,2hbj+2,4h+2,2NOONbREH+2,4ZAIN+2,h+2
  NOON+2,ji+2,n+2,2jibSUPERSCRIPTj+2,nbREH+2,4ZAIN+2,h+2,NOON+2,ji+2,n+2,HAMZAtblg+1,7o+2,q+2,h+2
  HEH+2,2BEHbl+2,4o+2,q+2,h+2,HEH+2,2TEHbl+2,4o+2,q+2,h+2,HEH+2,2THEHbh+2,lbo+2,4h+2,2obl+2,4h+2
  2qbl+2,4h+2,2SEENbl+2,4o+2,q+2,h+2,2SADbo+2,4q+2,h+2,2DADbl+2,4o+2,q+2,h+2,2TAHbo+2,ZAHbh+2
  AINbl+2,4h+2,2GHAINbl+2,4h+2,2FEHbl+2,4o+2,q+2,h+2,2QAFbo+2,4h+2,2KAFbl+2,4o+2,q+2,LAM+2,h+2
  2LAMbl+2,4o+2,q+2,h+2,HEH+2,2hbl+2,4o+2,q+2,h+2,2NOONbl+2,4o+2,q+2,h+2,HEH+2,2HEHbl+2,4h+2
  SUPERSCRIPTj+2,2nbl+2,4o+2,q+2,h+2,HEH+2,HAMZAtbhk+1,7HEH+2,2BEHbh+2,4HEH+2,2TEHbh+2,4HEH+2
  2THEHbh+2,4HEH+2,2SEENbh+2,4HEH+2,2SHEENbh+2,4HEH+2,2KAFbLAM+2,4h+2,2LAM+4,NOON+4,4HEH+2,2nbh+2
  4HEH+2,2SHADDAbFATHA+2,4DAMMA+2,KASRA+2,2TAHbjie+1,4n+2,2AINbji+2,4n+2,2GHAINbji+2,4n+2,2SEENbji+2
  4n+2,2SHEENbji+2,4n+2,2obji+2,4n+2,2lbji+2,4n+2,2qbji+2,4n+2,2SADbji+2,4n+2,2DADbji+2,4n+2
  2SHEENbl+2,4o+2,q+2,h+2,REH+2,2SEEN+4,SAD+4,DAD+4,TAHbjif+1,4n+2,2AINbji+2,4n+2,2GHAINbji+2,4n+2
  2SEENbji+2,4n+2,2SHEENbji+2,4n+2,2obji+2,4n+2,2lbji+2,4n+2,2qbji+2,4n+2,2SADbji+2,4n+2,2DADbji+2
  4n+2,2SHEENbl+2,4o+2,q+2,h+2,REH+2,2SEEN+4,SAD+4,DAD+4,SHEENblg+1,4o+2,q+2,h+2,2SEENbHEH+2,SHEEN+4
  TAHbh+2,SEENblk+1,4o+2,q+2,2SHEENbl+2,4o+2,q+2,2TAHbh+2,ZAH+4,jbFATHATANf+1,5e+1
  0ORNATErPARENTHESIS,1m+1,0ARABIC LIGATURE RAHIMAHU ALLAAH,2RADI ALLAAHU ANH,4ANHAA,ANHUM,ANHUMAA
  ANHUNNA,2SALLALLAAHU ALAYHI WA-AALIH,ALAYHI AS-SALAAM,ALAYHIM+1,ALAYHIMAA+1
  ALAYHI AS-SALAATU WAS-SALAAM,QUDDISA SIRRAH,SALLALLAHU ALAYHI WAAALIHEE WA-SALLAM
  ALAYHAA AS-SALAAM,TABAARAKA WA-TAAALAA,RAHIMAHUM ALLAAH,TEHblbhgFORM,4oblf+1,7g+1,6h+2,4q+4,hbl+2
  6o+2,q+2,2lbhbof+1,7g+1,2obhbnf+1,6ji+2,2SEENboblg+1,4lbo+2,6jif+1,4hbo+2,7g+1,6l+2,hf+1,7g+1
  2SADbobof+1,7g+1,4hbhf+1,2SHEENbo+4,7g+1,4lbnf+1,hbq+2,7g+1,6hf+1,7g+1,2DADbobjif+1,4qbh+2,7g+1
  2TAHbhbof+1,7g+1,6h+2,nf+1,2AINblbh+2,4h+4,7g+1,6jif+1,2GHAINbhbh+2,6n+2,ji+2,2FEHbqbh+2,7g+1
  2QAFbhbof+1,6h+2,2LAMbo+4,6n+2,ji+2,4lblg+1,7f+1,4qbh+2,7g+1,4hbof+1,7g+1,2hbobl+2,6h+2,nf+1
  4lbog+1,6h+2,4qbl+2,6h+2,=FD92,4lbq+2,2HEHbhbl+2,6h+2,2NOONbo+4,6jif+1,4lbh+2,7g+1,6jif+1,4hbn+2
  6ji+2,2nbhbh+2,7g+1,2BEHbqbnf+1,TEHbl+4,6ji+2,4qbn+2,6ji+2,4hbn+2,6ji+2,2lbhbn+2,4obji+2,h+5
  2SEENbq+5,SADbobn+2,SHEEN+6,DAD+6,LAMbl+4,4h+4,2nbo+4,4l+4,h+4,2h+6,QAF+6,NOONbo+4,QAFbhbog+1
  LAMbobh+2,AINbhbnf+1,KAF+6,NOONblbog+1,hbqbnf+1,LAMblbhg+1,KAFbhbhf+1,LAMbl+4,NOONblbo+2,lbobn+2
  obl+4,h+6,FEHbh+4,BEHbo+4,KAFbhbhg+1,AINbl+4,SADbh+4,SEENbqbnf+1,NOONbl+4,=FDCF,SALAAMUHU ALAYNAA
  =FDF0,SALLA USED AS KORANIC STOPpeFORM,QALA+7,ALLAH+2,AKBAR+2,MOHAMMAD+2,SALAM+2,RASOUL+2,ALAYHE+2
  WASALLAM+2,SALLA+2,SALLALLAHOU ALAYHE WASALLAM,JALLAJALALOUHOU,0RIALp
  ARABIC LIGATURE BISMILLAH AR-RAHMAN AR-RAHEEM,2SUBHAANAHU WA TAAALAA,AZZA WA JALL
  0VARIATION SELECTOR-1*9,1SELECTOR-10*7,0PRESENTATION FORM FOR VERTICAL COMMA,4s+1,5FULL STOP
  4COLON,SEMICOLON,EXCLAMATIONw,QUESTION+1,rWHITE LENTICULAR BRACKET,mWHITE LENTICULAR BRAKCET
  HORIZONTAL ELLIPSIS,=FE20,0COMBINING LIGATURErHALF,2m+1,1vTILDEr+1,3m+1,1MACRONr+1,2m+1
  1CONJOINING MACRON,LIGATURErHALF BELOW,2m+2,1TILDEr+2,2m+2,1MACRONr+2,2m+2,1CONJOINING MACRON+1
  CYRILLIC TITLOrHALF,3m+1,0PRESENTATION FORM FOR VERTICAL TWO DOT LEADER,4EM DASH,EN+1,xLINE,WAVY+2
  rPARENTHESIS,m+1,rCURLY BRACKET,m+2,rTORTOISE SHELL+1,m+3,rBLACK LENTICULAR+1,m+3,rvANGLE+1,m+3
  r+2,m+2,rCORNER+1,m+2,rWHITE+2,m+3,0SESAME DOT,WHITE+2
  PRESENTATION FORM FOR VERTICALrSQUARE BRACKET,4m+2,0DASHED OVERLINE,CENTRELINE+1,WAVY+1,v+2
  DASHEDxLINE,CENTRELINE+2,WAVY+2,dCOMMA,1s+1,FULL STOP,=FE54,SEMICOLON,COLON,QUESTIONw
  EXCLAMATION+1,EM DASH,rPARENTHESIS,m+1,rCURLY BRACKET,m+2,rTORTOISE SHELL+1,m+3,NUMBERp,AMPERSAND
  ASTERISK,PLUSp,HYPHEN-MINUS,LESS-THANp,GREATER-THAN+1,EQUALS+1,=FE68,REVERSE SOLIDUS,DOLLARp
  PERCENT+1,COMMERCIAL AT,=FE70,0ARABIC FATHATANeFORM,1TATWEELbFATHATANt,DAMMATANeFORM,TAIL FRAGMENT
  KASRATANeFORM,=FE76,FATHA+2,2k+1,1DAMMAe+1,2k+1,1KASRAe+1,2k+1,1SHADDAe+1,2k+1,1SUKUNe+1,2k+1
  1aHAMZAe+1,2jbMADDAt+2,6f+1,4HAMZAte+1,6f+1,2WAWbHAMZAte+1,6f+1,2jbHAMZA BELOWe+1,6f+1
  2nbHAMZAte+1,6f+1,g+1,k+1,2je+1,3f+1,2BEHe+1,3f+1,g+1,k+1,2TEH MARBUTAe+1,4f+1,3e+1,f+1,g+1,k+1
  2THEHe+1,3f+1,g+1,k+1,2le+1,3f+1,g+1,k+1,2oe+1,3f+1,g+1,k+1,2qe+1,3f+1,g+1,k+1,2DALe+1,3f+1
  2THALe+1,3f+1,2REHe+1,3f+1,2ZAINe+1,3f+1,2SEENe+1,3f+1,g+1,k+1,2SHEENe+1,3f+1,g+1,k+1,2SADe+1,3f+1
  g+1,k+1,2DADe+1,3f+1,g+1,k+1,2TAHe+1,3f+1,g+1,k+1,2ZAHe+1,3f+1,g+1,k+1,2AINe+1,3f+1,g+1,k+1
  2GHAINe+1,3f+1,g+1,k+1,2FEHe+1,3f+1,g+1,k+1,2QAFe+1,3f+1,g+1,k+1,2KAFe+1,3f+1,g+1,k+1,2LAMe+1,3f+1
  g+1,k+1,2he+1,3f+1,g+1,k+1,2NOONe+1,3f+1,g+1,k+1,2HEHe+1,3f+1,g+1,k+1,2WAWe+1,3f+1,2jie+1,4f+1
  2ne+1,3f+1,g+1,k+1,1LIGATURE LAMbjbMADDAte+1,8f+1,6HAMZAte+1,8f+1,7BELOWe+1,8f+1,5e+1,f+1,=FEFF
  0ZERO WIDTH NO-BREAK SPACE,=FF01,FULLWIDTH EXCLAMATIONw,1QUOTATION+1,NUMBERp,DOLLAR+1,PERCENT+1
  AMPERSAND,APOSTROPHE,rPARENTHESIS,m+1,ASTERISK,PLUSp,COMMA,HYPHEN-MINUS,FULL STOP,SOLIDUS
  DIGIT ZERO,2ONE,TWO,z,FOUR,FIVE,SIX,SEVEN,EIGHT,NINE,1COLON,SEMICOLON,LESS-THANp,EQUALS+1
  GREATER-THAN+1,QUESTIONw,COMMERCIAL AT,LATINcaA*1A,rSQUARE BRACKET,REVERSE SOLIDUS,mSQUARE BRACKET
  CIRCUMFLEX ACCENT,xLINE,GRAVE ACCENT,LATINdaA*1A,rCURLY BRACKET,VERTICAL LINE,mCURLY BRACKET,TILDE
  rWHITE PARENTHESIS,m+2,0HALFWIDTHsFULL STOP,1rCORNER BRACKET,m+2,sCOMMA,KATAKANA MIDDLE DOT,2aWO
  3dA,4I,U,E,O,YA,YU,YO,TU,1KATAKANA-HIRAGANA PROLONGED SOUNDw,KATAKANAaA,3I,U,E,O,KA,KI,KU,KE,KO,SA
  SI,SU,SE,SO,TA,TI,TU,TE,TO,NA,NI,NU,NE,NO,HA,HI,HU,HE,HO,MA,MI,MU,ME,MO,YA,YU,YO,RA,RI,RU,RE,RO,WA
  N,2VOICED SOUNDw,SEMI-VOICED+2,1HANGUL FILLER,2aKIYEOK,3SSANGKIYEOK,KIYEOK-SIOS,NIEUN,NIEUN-CIEUC
  NIEUN-HIEUH,TIKEUT,SSANGTIKEUT,RIEUL,RIEUL-KIYEOK,RIEUL-MIEUM,RIEUL-PIEUP,RIEUL-SIOS,RIEUL-THIEUTH
  RIEUL-PHIEUPH,RIEUL-HIEUH,MIEUM,PIEUP,SSANGPIEUP,PIEUP-SIOS,SIOS,SSANGSIOS,IEUNG,CIEUC,SSANGCIEUC
  CHIEUCH,KHIEUKH,THIEUTH,PHIEUPH,HIEUH,=FFC2,A,AE,YA,YAE,EO,E,=FFCA,YEO,YE,O,WA,WAE,OE,=FFD2,YO,U
  WEO,WE,WI,YU,=FFDA,EU,YI,I,=FFE0,0FULLWIDTH CENTp,1POUND+1,NOT+1,MACRON,BROKEN BAR,YENp,WON+1
  =FFE8,0HALFWIDTH FORMS LIGHT VERTICAL,1LEFTWARDS ARROW,UPWARDS+1,RIGHTWARDS+1,DOWNWARDS+1
  BLACK SQUARE,WHITE CIRCLE,=FFF9,0INTERLINEAR ANNOTATION ANCHOR,2SEPARATOR,TERMINATOR
  0OBJECT REPLACEMENT CHARACTER,REPLACEMENT+1"

end SchemaGraph.Text.CharacterName
