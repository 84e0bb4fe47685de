import SchemaGraph.Text.CharacterName.Table

/-! Names of the characters from U+10000 to U+1CFFF: ancient and less common scripts,
cuneiform and hieroglyphs. -/
namespace SchemaGraph.Text.CharacterName

/-- The names from U+10000 to U+1CFFF. -/
def ancient : Table where
  shorthand := ["TIMES", "LETTER", "SIGN", "PLUS", "THREE", "ONE", "OVER", "FIVE", "FOUR", "TWO",
    "EIGHT", "SEVEN", "WITH", "ANUSVARA", "GUNU", "DOUBLE", "NUMBER", "YENISEI", "HUNDRED", "MARK",
    "VOCALIC", "VOWEL", "NINE", "ORKHON", "CROSSING", "TWENTY"]
  names := "
  =10000,LINEAR B SYLLABLE B008 A,3B038 E,B028 I,B061 O,B010 U,B001 DA,B045 DE,B007 DI,B014 DO
  B051 DU,B057 JA,B046 JE,=1000D,B036 JO,B065 JU,B077 KA,B044 KE,B067 KI,B070 KO,B081 KU,B080 MA
  B013 ME,B073 MI,B015 MO,B023 MU,B006 NA,B024 NE,B030 NI,B052 NO,B055 NU,B003 PA,B072 PE,B039 PI
  B011 PO,B050 PU,B016 QA,B078 QE,B021 QI,B032 QO,=10028,B060 RA,B027 RE,B053 RI,B002 RO,B026 RU
  B031 SA,B009 SE,B041 SI,B012 SO,B058 SU,B059 TA,B004 TE,B037 TI,B005 TO,B069 TU,B054 WA,B075 WE
  B040 WI,B042 WO,=1003C,B017 ZA,B074 ZE,=1003F,B020 ZO,B025 A2,B043 A3,B085 AU,B071 DWE,B090 DWO
  B048 NWA,B029 PU2,B062 PTE,B076 RA2,B033 RA3,B068 RO2,B066 TA2,B087 TWE,B091j,=10050,2SYMBOL B018
  3B019,B022,B034,B047,B049,B056,B063,B064,B079,B082,B083,B086,B089,=10080,2IDEOGRAM B100 MAN
  3B102 WOMAN,B104 DEER,B105 EQUID,B105F MARE,B105M STALLION,B106F EWE,B106M RAM,B107F SHE-GOAT
  B107M HE-GOAT,B108F SOW,B108M BOAR,B109F COW,B109M BULL,B120 WHEAT,B121 BARLEY,B122 OLIVE
  B123 SPICE,B125 CYPERUS,2MONOGRAM B127 KAPO,3B128 KANAKO,2IDEOGRAM B130 OIL,3B131 WINE,B132
  2MONOGRAM B133 AREPA,3B135 MERI,2IDEOGRAM B140 BRONZE,3B141 GOLD,B142,B145 WOOL,B146,B150
  B151 HORN,B152*3,2MONOGRAM B156 TURO2,IDEOGRAM B157,3B158,B159 CLOTH,B160,B161,B162 GARMENT
  B163 ARMOUR,B164*9,B173 MONTH,B174,B176 TREE,B177*9,B189,B190,B191 HELMET,B220 FOOTSTOOL
  B225 BATHTUB,B230 SPEAR,B231 ARROW,B232,B233 SWORD,B234,B236,B240 WHEELED CHARIOT,B241+1
  B242 CHARIOT FRAME,B243 WHEEL,B245,B246,2MONOGRAM B247 DIPTE,IDEOGRAM B248,3B249,B251*3,B254 DART
  B255*5,VESSEL B155,4B200*14,B221,B222,B226*4,B250,B305,=10100,0AEGEAN WORD SEPARATOR LINE,3DOT
  1CHECKt,=10107,qf,2j,e,i,h,SIX,l,k,w,TEN,z,THIRTY,FORTY,FIFTY,SIXTY,SEVENTY,EIGHTY,NINETY,fs,j+1
  e+1,i+1,h+1,SIX+1,l+1,k+1,w+1,fTHOUSAND,j+1,e+1,i+1,h+1,SIX+1,l+1,k+1,w+1,TEN+1,z+1,THIRTY+1
  FORTY+1,FIFTY+1,SIXTY+1,SEVENTY+1,EIGHTY+1,NINETY+1,=10137,1WEIGHT BASE UNIT,2FIRST SUBUNIT
  SECOND+1,THIRD+1,FOURTH+1,1DRY MEASURE FIRST+1,LIQUID+3,MEASURE SECOND+1,2THIRD+1
  0GREEK ACROPHONIC ATTICfQUARTER,4HALF,DRACHMA,3h,FIFTY,hs,4THOUSAND,3FIFTY+1,hTALENTS,TEN+1
  FIFTY+1,fs+1,h+2,fTHOUSAND+1,h+2,4STATERS,3TEN+1,FIFTY+1,fs+1,h+2,fTHOUSAND+1,TEN+2,FIFTY+2
  TEN MNAS,2HERAEUMfPLETHRON,THESPIANf,HERMIONIAN+1,EPIDAUREANj,THESPIAN+1,CYRENAICjDRACHMAS
  EPIDAUREAN+2,TROEZENIANh,3TEN,4ALTERNATE FORM,2HERMIONIAN TEN,MESSENIAN+1,THESPIAN+1,3THIRTY
  2TROEZENIAN FIFTY,4ALTERNATE FORM,2HERMIONIAN FIFTY,THESPIAN+1,3fs,e+1,2EPIDAUREANh+1,TROEZENIAN+2
  THESPIAN+2,CARYSTIAN+2,NAXIAN+2,THESPIANfTHOUSAND,3h+1,2DELPHIChMNAS,STRATIAN FIFTY+1,1fHALFc
  4ALTERNATE FORM,1jTHIRDSc,eQUARTERS+1,YEAR+1,TALENT+1,DRACHMA+1,OBOL+1,jOBOLS+1,e+2,i+2,h+2
  METRETES+1,KYATHOS BASE+1,LITRA+1,OUNKIA+1,XESTES+1,ARTABE+1,AROURA+1,GRAMMA+1,TRYBLION BASE+1
  ZERO+1,fQUARTER+1,SINUSOID+1,INDICTION+1,0NOMISMA+1,=10190,ROMAN SEXTANS+1,1UNCIA+1,SEMUNCIA+1
  SEXTULA+1,DIMIDIA+2,SILIQUA+1,DENARIUS+1,QUINARIUS+1,SESTERTIUS+1,DUPONDIUS+1,AS+1,CENTURIAL+1
  0ASCIA SYMBOL,=101A0,GREEK SYMBOL TAU RHO,=101D0,PHAISTOS DISCcPEDESTRIAN,3PLUMED HEAD,TATTOOED+1
  CAPTIVE,CHILD,WOMAN,HELMET,GAUNTLET,TIARA,ARROW,BOW,SHIELD,CLUB,MANACLES,MATTOCK,SAW,LID,BOOMERANG
  CARPENTRY PLANE,DOLIUM,COMB,SLING,COLUMN,BEEHIVE,SHIP,HORN,HIDE,BULLS LEG,CAT,RAM,EAGLE,DOVE,TUNNY
  BEE,PLANE TREE,VINE,PAPYRUS,ROSETTE,LILY,OX BACK,FLUTE,GRATER,STRAINER,SMALL AXE,WAVY BAND
  COMBINING OBLIQUE STROKE,=10280,0LYCIANbA,2E,B,BH,G,D,I,W,Z,TH,J,K,Q,L*3,MM,NN,U,P,KK,R*3,TT,AN,EN
  H,X,=102A0,0CARIANbA,2P2,D,L,UUU,R,LD,A2,Q,B,M,O,D2,T,SH,SH2,S,C-18,U,NN,X,N,TT2,P,SS,I,E,UUUU,K
  K2,ND,UU,G,G2,ST,ST2,NG,II,C-39,TT,UUU2,RR,MB,MB2*3,LD2,E2,UUU3,=102E0,0COPTIC EPACT THOUSANDSt
  2DIGITf,3j,e,i,h,SIX,l,k,w,2qTEN,3z,THIRTY,FORTY,FIFTY,SIXTY,SEVENTY,EIGHTY,NINETY,fs,j+1,e+1,i+1
  h+1,SIX+1,l+1,k+1,w+1,=10300,0OLD ITALICbA,3BE,KE,DE,E,VE,ZE,HE,THE,I,KA,EL*3,ESH,O,PE,SHE,KU,ER
  ES,TE,U,EKS,PHE,KHE,EF,ERS,CHE,II,UU,ESS,2NUMERALf,3h,TEN,FIFTY,=1032D,2bYE,3NORTHERN TSE
  SOUTHERN+1,0GOTHICbAHSA,2BAIRKAN,GIBA,DAGS,AIHVUS,QAIRTHRA,IUJA,HAGL,THIUTH,EIS,KUSMA,LAGUS,MANNA
  NAUTHS,JER,URUS,PAIRTHRA,NINETY,RAIDA,SAUIL,TEIWS,WINJA,FAIHU,IGGWS,HWAIR,OTHAL,ws,=10350
  0OLD PERMICbAN,3BUR,GAI,DOI,E,ZHOI,DZHOI,ZATA,DZITA,I,KOKE,LEI,MENOE,NENOE,VOOI,PEEI,REI,SII,TAI,U
  CHERY,SHOOI,SHCHOOI,YRY,YERU,O,OO,EF,HA,TSIU,VER,YER,YERI,YAT,IE,YU,YA,IA,0COMBINING OLD PERMICbAN
  4DOI,ZATA,NENOE,SII,=10380,0UGARITICbALPA,2BETA,GAMLA,KHA,DELTA,HO,WO,ZETA,HOTA,TET,YOD,KAF,SHIN
  LAMDA,MEM,DHAL,NUN,ZU,SAMKA,AIN,PU,SADE,QOPA,RASHA,THANNA,GHAIN,TO,I,U,SSU,=1039F,1WORD DIVIDER
  0OLD PERSIANcA,3I,U,KA,KU,GA,GU,XA,CA,JA,JI,TA,TU,DA,DI,DU,THA,PA,BA,FA,NA,NU,MA,MI,MU,YA,VA,VI,RA
  RU,LA,SA,ZA,SHA,SSA,HA,=103C8,AURAMAZDAA,AURAMAZDAA-2,AURAMAZDAAHA,XSHAAYATHIYA,DAHYAAUSH
  DAHYAAUSH-2,BAGA,BUUMISH,2WORD DIVIDER,qf,3j,TEN,z,s,=10400,0DESERET CAPITALbLONG I,4E,A,AH,O,OO
  3SHORT I,4E,A,AH,O,OO,3AY,OW,WU,YEE,H,PEE,BEE,TEE,DEE,CHEE,JEE,KAY,GAY,EF,VEE,ETH,THEE,ES,ZEE,ESH
  ZHEE,ER,EL*3,ENG,OI,EW,1SMALLbLONG I,4E,A,AH,O,OO,3SHORT I,4E,A,AH,O,OO,3AY,OW,WU,YEE,H,PEE,BEE
  TEE,DEE,CHEE,JEE,KAY,GAY,EF,VEE,ETH,THEE,ES,ZEE,ESH,ZHEE,ER,EL*3,ENG,OI,EW,0SHAVIANbPEEP,2TOT,KICK
  FEE,THIGH,SO,SURE,CHURCH,YEA,HUNG,BIB,DEAD,GAG,VOW,THEY,ZOO,MEASURE,JUDGE,WOE,HA-HA,LOLL,MIME,IF
  EGG,ASH,ADO,ON,WOOL,OUT,AH,ROAR,NUN,EAT,AGE,ICE,UP,OAK,OOZE,OIL,AWE,ARE,OR,AIR,ERR,ARRAY,EAR,IAN
  YEW,0OSMANYAbALEF,2BA,TA,JA,XA,KHA,DEEL,RA,SA,SHIIN,DHA,CAYN,GA,FA,QAAF,KAAF,LAAN,MIIN,NUUN,WAW,HA
  YA,A,E,I,O,U,AA,EE,OO,=104A0,1DIGIT ZERO,2f,j,e,i,h,SIX,l,k,w,=104B0,0OSAGE CAPITALbA,3AI,AIN,AH
  BRA,CHA,EHCHA,E,EIN,HA,HYA,I,KA,EHKA,KYA,LA,MA,NA,O,OIN,PA,EHPA,SA,SHA,TA,EHTA,TSA,EHTSA,TSHA,DHA
  U,WA,KHA,GHA,ZA,ZHA,=104D8,1SMALLbA,3AI,AIN,AH,BRA,CHA,EHCHA,E,EIN,HA,HYA,I,KA,EHKA,KYA,LA,MA,NA,O
  OIN,PA,EHPA,SA,SHA,TA,EHTA,TSA,EHTSA,TSHA,DHA,U,WA,KHA,GHA,ZA,ZHA,=10500,0ELBASANbA,2BE,CE,CHE,DE
  NDE,DHE,EI,E,FE,GE,GJE,HE,I,JE,KE,LE,LLE,ME,NE,NA,NJE,O,PE,QE,RE,RRE,SE,SHE,TE,THE,U,VE,XE,Y,ZE
  ZHE,GHE,GHAMMA,KHE,=10530,0CAUCASIAN ALBANIANbALT,3BET,GIM,DAT,EB,ZARL,EYN,ZHIL,TAS,CHA,YOWD,ZHA
  IRB,SHA,LAN,INYA,XEYN,DYAN,CAR,JHOX,KAR,LYIT,HEYT,QAY,AOR,CHOY,CHI,CYAY,MAQ,QAR,NOWC,DZYAY,SHAK
  JAYN,ON,TYAY,FAM,DZAY,CHAT,PEN,GHEYS,RAT,SEYK,VEYZ,TIWR,SHOY,IWN,CYAW,CAYN,YAYD,PIWR,KIW,=1056F
  2CITATIONt,0VITHKUQI CAPITALbA,3BBE,BE,CE,CHE,DE,DHE,EI,E,FE,GA,=1057C,HA,HHA,I,IJE,JE,KA,LA,LLA
  ME,NE,NJE,O,PE,QA,RE,=1058C,SE,SHE,TE,THE,U,VE,XE,=10594,Y,ZE,=10597,1SMALLbA,3BBE,BE,CE,CHE,DE
  DHE,EI,E,FE,GA,=105A3,HA,HHA,I,IJE,JE,KA,LA,LLA,ME,NE,NJE,O,PE,QA,RE,=105B3,SE,SHE,TE,THE,U,VE,XE
  =105BB,Y,ZE,=10600,0LINEAR AcAB001*B,3AB013,AB016,AB017,AB020,AB021,AB021F,AB021M,AB022,AB022F
  AB022M,AB023,AB023M,AB024,AB026*3,A028B,AB029*3,AB034,AB037*5,AB044*8,AB053*9,AB065*3,AB069,AB070
  AB073,AB074,AB076*7,AB085*3,A100-102,AB118,AB120,A120B,AB122,AB123,AB131A,AB131B,A131C,AB164,AB171
  AB180,AB188,AB191,A301*8,A309A*3,A310*3,A313A*3,A314*3A,A400-VAS,A401-VAS,A402-VAS,A403-VAS
  A404-VAS,A405-VAS,A406-VAS,A407-VAS,A408-VAS,A409-VAS,A410-VAS,A411-VAS,A412-VAS,A413-VAS,A414-VAS
  A415-VAS,A416-VAS,A417-VAS,A418-VAS,A501*6,A508*6,A515,A516,A520,A521,A523*A,A534*9,A545,A547*B
  A559,A563*4,A568*16,A591,A592,A594*3,A598,A600*5,A606,A608*11,A626*4,A634,A637,A638,A640,A642*5
  A648,A649,A651*E,=10740,A701 A,A702 B,A703 D,A704 E,A705 F,A706 H,A707 J,A708 K,A709 L,A709-2 L2
  A709-3 L3,A709-4 L4,A709-6 L6,A710 W,A711 X,A712 Y,A713 OMEGA,A714 ABB,A715 BB,A717 DD,A726 EYYY
  A732 JE,=10760,A800*8,=10780,0MODIFIERbSMALL CAPITAL AA,2SUPERSCRIPT TRIANGULAR COLON,3HALF+2
  2SMALL AE,3CAPITAL B,BmHOOK,=10787,DZ DIGRAPH,5mRETROFLEX HOOK,6CURL,3DEZH DIGRAPH,DmTAIL,5HOOK
  6AND TAIL,3REVERSED E,CLOSED REVERSED OPEN E,FENG DIGRAPH,RAMS HORN,CAPITAL G,GmHOOK,CAPITAL+3
  HmSTROKE,CAPITAL H,HENGmHOOK,DOTLESS JmSTROKE AND+1,LS DIGRAPH,LZ+1,LmBELT,CAPITAL+3
  LmRETROFLEX HOOK AND+1,LEZH,4mRETROFLEX HOOK,3TURNED Y,5mBELT,3OmSTROKE,CAPITAL OE,CLOSED OMEGA,Q
  TURNED RmLONG LEG,8AND RETROFLEX HOOK,3RmTAIL,5FISHHOOK,3CAPITAL R,TC DIGRAPHmCURL,TS DIGRAPH
  5mRETROFLEX HOOK,3TESH DIGRAPH,TmRETROFLEX HOOK,VmRIGHT+1,=107B2,CAPITAL Y,2GLOTTAL STOPmSTROKE
  REVERSED+4,BILABIAL CLICK,DENTAL+1,LATERAL+1,ALVEOLAR+1,RETROFLEX CLICKmRETROFLEX HOOK
  SMALL SmCURL,=10800,0CYPRIOT SYLLABLE A,2E,I,O,U,JA,=10808,JO,=1080A,KA,KE,KI,KO,KU,LA,LE,LI,LO,LU
  MA,ME,MI,MO,MU,NA,NE,NI,NO,NU,PA,PE,PI,PO,PU,RA,RE,RI,RO,RU,SA,SE,SI,SO,SU,TA,TE,TI,TO,TU,WA,WE,WI
  WO,=10837,XA,XE,=1083C,ZA,=1083F,ZO,0IMPERIAL ARAMAICbALEPH,3BETH,GIMEL,DALETH,HE,WAW,ZAYIN,HETH
  TETH,YODH,KAPH,LAMEDH,MEM,NUN,SAMEKH,AYIN,PE,SADHE,QOPH,RESH,SHIN,TAW,=10857,2SECTIONc,qf,3j,e,TEN
  z,fs,4THOUSAND,3TEN+1,0PALMYRENEbALEPH,2BETH,GIMEL,DALETH,HE,WAW,ZAYIN,HETH,TETH,YODH,KAPH,LAMEDH
  MEM,FINAL NUN,NUN,SAMEKH,AYIN,PE,SADHE,QOPH,RESH,SHIN,TAW,1LEFT-POINTING FLEURON,RIGHT-POINTING+1
  qf,2j,e,i,h,TEN,z,0NABATAEANbFINAL ALEPH,2ALEPH,FINAL BETH,BETH,GIMEL,DALETH,FINAL HE,HE,WAW,ZAYIN
  HETH,TETH,FINAL YODH,YODH,FINAL KAPH,KAPH,FINAL LAMEDH,LAMEDH,FINAL MEM,MEM,FINAL NUN,NUN,SAMEKH
  AYIN,PE,SADHE,QOPH,RESH,FINAL SHIN,SHIN,TAW,=108A7,1qf,2j,e,i,1CRUCIFORM+2,qh,2TEN,z,fs,=108E0
  0HATRANbALEPH,2BETH,GIMEL,DALETH-RESH,HE,WAW,ZAYN,HETH,TETH,YODH,KAPH,LAMEDH,MEM,NUN,SAMEKH,AYN,PE
  SADHE,QOPH,=108F4,SHIN,TAW,=108FB,1qf,2h,TEN,z,fs,0PHOENICIANbALF,2BET,GAML,DELT,HE,WAU,ZAI,HET
  TET,YOD,KAF,LAMD,MEM,NUN,SEMK,AIN,PE,SADE,QOF,ROSH,SHIN,TAU,1qf,2TEN,z,fs,j,e,=1091F
  1WORD SEPARATOR,0LYDIANbA,2B,G,D,E,V,I,Y,K*5,R,SS,T,U,F,Q,S,TT,AN,EN,LY,NN,C,=1093F,1TRIANGULARt
  =10980,0MEROITIC HIEROGLYPHICbA,3E,I,O,YA,WA,BA,BA-2,PA,MA,NA,NA-2,NE,NE-2,RA,RA-2,LA,KHA,HHA,SA
  SA-2,SE,KA,QA,TA,TA-2,TE,TE-2,TO,DA,2SYMBOL VIDJ,3VIDJ-2,1CURSIVEbA,3E,I,O,YA,WA,BA,PA,MA,NA,NE,RA
  LA,KHA,HHA,SA,ARCHAIC+1,SE,KA,QA,TA,TE,TO,DA,=109BC,2FRACTION ELEVEN TWELFTHS,3fHALF,2LOGOGRAM RMT
  3IMN,2qf,3j,e,i,h,SIX,l,k,w,TEN,z,THIRTY,FORTY,FIFTY,SIXTY,SEVENTY,=109D2,fs,j+1,e+1,i+1,h+1,SIX+1
  l+1,k+1,w+1,fTHOUSAND,j+1,e+1,i+1,h+1,SIX+1,l+1,k+1,w+1,TEN+1,z+1,THIRTY+1,FORTY+1,FIFTY+1,SIXTY+1
  SEVENTY+1,EIGHTY+1,NINETY+1,fs+1,j+2,e+2,i+2,h+2,SIX+2,l+2,k+2,w+2,2FRACTIONfTWELFTH,3jTWELFTHS
  e+1,i+1,h+1,SIX+1,l+1,k+1,w+1,TEN+1,0KHAROSHTHIbA,1vcI,3U,uR,=10A05,E,O,=10A0C,2LENGTHt
  1cpRING BELOW,2n,VISARGA,1bKA,2KHA,GA,GHA,=10A15,CA,CHA,JA,=10A19,NYA,TTA,TTHA,DDA,DDHA,NNA,TA,THA
  DA,DHA,NA,PA,PHA,BA,BHA,MA,YA,RA,LA,VA,SHA,SSA,SA,ZA,HA,KKA,TTTHA,TTTA,VHA,=10A38,1cBAR ABOVE
  2CAUDA,DOT BELOW,=10A3F,1VIRAMA,DIGITf,2j,e,i,1qTEN,2z,fs,3THOUSAND,1FRACTIONfHALF,=10A50
  PUNCTUATION DOT,2SMALL CIRCLE,CIRCLE,CRESCENT BAR,MANGALAM,LOTUS,DANDA,p+1,LINES,=10A60
  0OLD SOUTH ARABIANbHE,4LAMEDH,HETH,MEM,QOPH,WAW,SHIN,RESH,BETH,TAW,SAT,KAPH,NUN,KHETH,SADHE,SAMEKH
  FE,ALEF,AYN,DHADHE,GIMEL,DALETH,GHAYN,TETH,ZAYN,DHALETH,YODH,THAW,THETH,3qf,4FIFTY
  3NUMERIC INDICATOR,1NORTH ARABIANbHEH,4LAM,HAH,MEEM,QAF,WAW,ES-2,REH,BEH,TEH,ES-1,KAF,NOON,KHAH
  SAD,ES-3,FEH,ALEF,AIN,DAD,GEEM,DAL,GHAIN,TAH,ZAIN,THAL,YEH,THEH,ZAH,3qf,4TEN,z,=10AC0
  0MANICHAEANbALEPH,2BETH,BHETH,GIMEL,GHIMEL,DALETH,HE,WAW,1cUD,bZAYIN,2ZHAYIN,JAYIN,JHAYIN,HETH
  TETH,YODH,KAPH,XAPH,KHAPH,LAMEDH,DHAMEDH,THAMEDH,MEM,NUN,SAMEKH,AYIN,AAYIN,PE,FE,SADHE,QOPH,XOPH
  QHOPH,RESH,SHIN,SSHIN,TAW,1ABBREVIATIONtABOVE,3BELOW,=10AEB,1qf,2h,TEN,z,fs,1PUNCTUATION STAR
  2FLEURON,pDOT WITHIN DOT,DOT+2,DOT,jDOTS,LINE FILLER,=10B00,0AVESTANbA,2AA,AO,AAO,AN,AAN,AE,AEE,E
  EE,O,OO,I,II,U,UU,KE,XE,XYE,XVE,GE,GGE,GHE,CE,JE,TE,THE,DE,DHE,TTE,PE,FE,BE,BHE,NGE,NGYE,NGVE,NE
  NYE,NNE,ME,HME,YYE,YE,VE,RE,LE,SE,ZE,SHE,ZHE,SHYE,SSHE,HE,=10B39,1ABBREVIATIONt
  0TINYjDOTSgfDOT PUNCTUATION,SMALL+6,LARGE+6,1fDOTgjDOTS+1,jRINGSgfRING+1,fRINGgjRINGS+1
  0INSCRIPTIONAL PARTHIANbALEPH,3BETH,GIMEL,DALETH,HE,WAW,ZAYIN,HETH,TETH,YODH,KAPH,LAMEDH,MEM,NUN
  SAMEKH,AYIN,PE,SADHE,QOPH,RESH,SHIN,TAW,=10B58,2qf,3j,e,i,TEN,z,fs,4THOUSAND,1PAHLAVIbALEPH,3BETH
  GIMEL,DALETH,HE,WAW-AYIN-RESH,ZAYIN,HETH,TETH,YODH,KAPH,LAMEDH,MEM-QOPH,NUN,SAMEKH,PE,SADHE,SHIN
  TAW,=10B78,2qf,3j,e,i,TEN,z,fs,4THOUSAND,0PSALTER PAHLAVIbALEPH,3BETH,GIMEL,DALETH,HE
  WAW-AYIN-RESH,ZAYIN,HETH,YODH,KAPH,LAMEDH,MEM-QOPH,NUN,SAMEKH,PE,SADHE,SHIN,TAW,=10B99,2SECTIONt
  TURNED+2,iDOTSmCROSS,5DOT,=10BA9,2qf,3j,e,i,TEN,z,fs,=10C00,0OLD TURKICbxA,3rA,4AE,3xI,rI,4E,3xO
  4OE,3r+1,xAB,r+1,xAEB,r+1,xAG,r+1,xAEG,r+1,xAD,r+1,xAED,4EZ,3r+1,xAY,r+1,xAEY,r+1,xAEK,r+1,xOEK
  r+1,xAL,r+1,xAEL,4ELT,EM,AN,AEN,3r+1,xENT,r+1,xENC,r+1,xENY,r+1,4ANG,3xENG,rAENG,xEP,4OP,IC,EC
  3r+1,xAQ,r+1,xIQ,r+1,xOQ,r+1,xAR,r+1,xAER,4AS,AES,ASH,3r+1,xESH,r+1,xAT,r+1,xAET,r+1,xOT,4BASH
  =10C80,1HUNGARIAN CAPITALbA,4AA,EB,AMB,EC,ENC,ECS,ED,AND,E,CLOSE E,EE*3,EGY,EH,I,II,EJ,EK,AK,UNK
  EL,ELY,EM,EN,ENY,O,OO,NIKOLSBURG OE,RUDIMENTA+1,OEE,EP,EMP,ER,SHORT+1,ES,ESZ,ET,ENT,ETY,ECH,U,UU
  NIKOLSBURG UE,RUDIMENTA+1,EV,EZ,EZS,ENT-SHAPEDc,US,=10CC0,2SMALLbA,4AA,EB,AMB,EC,ENC,ECS,ED,AND,E
  CLOSE E,EE*3,EGY,EH,I,II,EJ,EK,AK,UNK,EL,ELY,EM,EN,ENY,O,OO,NIKOLSBURG OE,RUDIMENTA+1,OEE,EP,EMP
  ER,SHORT+1,ES,ESZ,ET,ENT,ETY,ECH,U,UU,NIKOLSBURG UE,RUDIMENTA+1,EV,EZ,EZS,ENT-SHAPEDc,US,=10CFA
  2qf,3h,TEN,FIFTY,fs,4THOUSAND,0HANIFI ROHINGYAbA,3BA,PA,TA,TTA,JA,CA,HA,KHA,FA,DA,DDA,RA,RRA,ZA,SA
  SHA,KA,GA,LA,MA,NA,WA,KINNA+1,YA,KINNA+1,NGA,NYA,VA,2vA,3I,U,E,O,2tSAKIN,3NA KHONNA,2cHARBAHAY
  3TAHALA,TANA,TASSI,=10D30,2DIGIT ZERO,3f,j,e,i,h,SIX,l,k,w,=10E60,0RUMI DIGITf,2j,e,i,h,SIX,l,k,w
  1qTEN,2z,THIRTY,FORTY,FIFTY,SIXTY,SEVENTY,EIGHTY,NINETY,fs,j+1,e+1,i+1,h+1,SIX+1,l+1,k+1,w+1
  1FRACTIONfHALF,3QUARTER,THIRD,2jTHIRDS,=10E80,0YEZIDIbELIF,2BE,PE,PHE,THE,SE,CIM,CHIM,CHHIM,HHA,XA
  DAL,ZAL,RA,RHA,ZA,JA,SIN,SHIN,SAD,DAD,TA,ZE,EYN,XHEYN,FA,VA,3ALTERNATE FORM,2QAF,KAF,KHAF,GAF,LAM
  MIM,NUN,UM,WAW,OW,EW,HAY,YOT,ET,=10EAB,1COMBINING HAMZAt,2MADDA+1,1HYPHENATION+1,=10EB0
  bLAMmDOT ABOVE,2YOTmCIRCUMFLEX+1,=10F00,0OLD SOGDIANbALEPH,3FINAL+1,BETH,FINAL+1,GIMEL,HE,FINAL+1
  WAW,ZAYIN,HETH,YODH,KAPH,LAMEDH,MEM,NUN,FINAL+1,5mVERTICAL TAIL,3SAMEKH,AYIN,ALTERNATE+1,PE,SADHE
  FINAL+1,5mVERTICAL TAIL,3RESH-AYIN-DALETH,SHIN,TAW,FINAL+1,5mVERTICAL TAIL,2qf,3j,e,i,h,TEN,z
  THIRTY,fs,2FRACTIONfHALF,LIGATURE AYIN-DALETH,=10F30,0SOGDIANbALEPH,2BETH,GIMEL,HE,WAW,ZAYIN,HETH
  YODH,KAPH,LAMEDH,MEM,NUN,SAMEKH,AYIN,PE,SADHE,RESH-AYIN,SHIN,TAW,FETH,LESH,1INDEPENDENT SHIN
  COMBINING DOT BELOW,2jDOTS+1,DOT ABOVE,jDOTS+1,CURVE+1,3BELOW,2HOOK ABOVE,3BELOW,2LONG+2,RESH+1
  STROKE+1,1qf,2TEN,z,fs,1PUNCTUATIONjVERTICAL BARS,5mDOTS,2CIRCLEmDOT,jCIRCLESmDOTS,HALF CIRCLEmDOT
  =10F70,0OLD UYGHURbALEPH,3BETH,GIMEL-HETH,WAW,ZAYIN,FINAL HETH,YODH,KAPH,LAMEDH,MEM,NUN,SAMEKH,PE
  SADHE,RESH,SHIN,TAW,LESH,2COMBINING DOT ABOVE,4BELOW,3jDOTS ABOVE,5BELOW,2PUNCTUATION BAR,3jBARS
  4DOTS,3i+1,=10FB0,0CHORASMIANbALEPH,2SMALL+1,BETH,GIMEL,DALETH,HE,WAW,CURLED+1,ZAYIN,HETH,YODH
  KAPH,LAMEDH,MEM,NUN,SAMEKH,AYIN,PE,RESH,SHIN,TAW,1qf,2j,e,i,TEN,z,fs,=10FE0,0ELYMAICbALEPH,2BETH
  GIMEL,DALETH,HE,WAW,ZAYIN,HETH,TETH,YODH,KAPH,LAMEDH,MEM,NUN,SAMEKH,AYIN,PE,SADHE,QOPH,RESH,SHIN
  TAW,1LIGATURE ZAYIN-YODH,=11000,0BRAHMIcCANDRABINDU,2n,VISARGA,JIHVAMULIYA,UPADHMANIYA,1bA,2AA,I
  II,U,UU,uR,3RR,L,LL,2E,AI,O,AU,KA,KHA,GA,GHA,NGA,CA,CHA,JA,JHA,NYA,TTA,TTHA,DDA,DDHA,NNA,TA,THA,DA
  DHA,NA,PA,PHA,BA,BHA,MA,YA,RA,LA,VA,SHA,SSA,SA,HA,LLA,OLD TAMIL LLLA,4RRA,NNNA,1vcAA
  3BHATTIPROLU+1,I,II,U,UU,uR,4RR,L,LL,3E,AI,O,AU,1VIRAMA,DANDA,p+1,PUNCTUATION DOT,2p+1,LINE
  CRESCENT BAR,LOTUS,=11052,1qf,2j,e,i,h,SIX,l,k,w,TEN,z,THIRTY,FORTY,FIFTY,SIXTY,SEVENTY,EIGHTY
  NINETY,fs,3THOUSAND,1DIGIT ZERO,2f,j,e,i,h,SIX,l,k,w,1cOLD TAMIL VIRAMA,bOLD TAMIL SHORT E,5O
  1vcOLD TAMIL SHORT E,6O,1bOLD TAMIL LLA,=1107F,qJOINER,0KAITHIcCANDRABINDU,2n,VISARGA,1bA,2AA,I,II
  U,UU,E,AI,O,AU,KA,KHA,GA,GHA,NGA,CA,CHA,JA,JHA,NYA,TTA,TTHA,DDA,DDDHA,DDHA,RHA,NNA,TA,THA,DA,DHA
  NA,PA,PHA,BA,BHA,MA,YA,RA,LA,VA,SHA,SSA,SA,HA,1vcAA,3I,II,U,UU,E,AI,O,AU,1cVIRAMA,2NUKTA
  1ABBREVIATIONc,ENUMERATION+1,q+1,SECTIONt,p+2,DANDA,p+1,vcuR,=110CD,qcABOVE,=110D0
  0SORA SOMPENGbSAH,3TAH,BAH,CAH,DAH,GAH,MAH,NGAH,LAH,NAH,VAH,PAH,YAH,RAH,HAH,KAH,JAH,NYAH,AH,EEH,IH
  UH,OH,EH,MAE,=110F0,2DIGIT ZERO,3f,j,e,i,h,SIX,l,k,w,=11100,0CHAKMAcCANDRABINDU,2n,VISARGA,1bAA,2I
  U,E,KAA,KHAA,GAA,GHAA,NGAA,CAA,CHAA,JAA,JHAA,NYAA,TTAA,TTHAA,DDAA,DDHAA,NNAA,TAA,THAA,DAA,DHAA,NAA
  PAA,PHAA,BAA,BHAA,MAA,YYAA,YAA,RAA,LAA,WAA,SAA,HAA,1vcA,3I,II,U,UU,E,AI,O,AU,OI,1Ot,AU+1,VIRAMA
  MAAYYAA,=11136,DIGIT ZERO,2f,j,e,i,h,SIX,l,k,w,1SECTIONt,DANDA,p+1,QUESTIONt,bLHAA,vcAA,3EI,1bVAA
  =11150,0MAHAJANIbA,2I,U,E,O,KA,KHA,GA,GHA,CA,CHA,JA,JHA,NYA,TTA,TTHA,DDA,DDHA,NNA,TA,THA,DA,DHA,NA
  PA,PHA,BA,BHA,MA,RA,LA,VA,SA,HA,RRA,1cNUKTA,ABBREVIATIONc,SECTIONt,LIGATURE SHRI,=11180
  0SHARADAcCANDRABINDU,2n,VISARGA,1bA,2AA,I,II,U,UU,uR,3RR,L,LL,2E,AI,O,AU,KA,KHA,GA,GHA,NGA,CA,CHA
  JA,JHA,NYA,TTA,TTHA,DDA,DDHA,NNA,TA,THA,DA,DHA,NA,PA,PHA,BA,BHA,MA,YA,RA,LA,LLA,VA,SHA,SSA,SA,HA
  1vcAA,3I,II,U,UU,uR,4RR,L,LL,3E,AI,O,AU,1cVIRAMA,2AVAGRAHA,JIHVAMULIYA,UPADHMANIYA,1OM,DANDA,p+1
  ABBREVIATIONc,SEPARATOR,SANDHIt,cNUKTA,vMODIFIERt,EXTRA SHORTv+1,SUTRA+1,vcPRISHTHAMATRA E
  cINVERTED CANDRABINDU,DIGIT ZERO,2f,j,e,i,h,SIX,l,k,w,1EKAM,cSIDDHAM,HEADSTROKE,CONTINUATIONc
  SECTION MARK-1,2MARK-2,=111E1,0SINHALA ARCHAIC DIGITf,3j,e,i,h,SIX,l,k,w,2qTEN,3z,THIRTY,FORTY
  FIFTY,SIXTY,SEVENTY,EIGHTY,NINETY,fs,4THOUSAND,=11200,0KHOJKIbA,2AA,I,U,E,AI,O,AU,KA,KHA,GA,GGA
  GHA,NGA,CA,CHA,JA,JJA,=11213,NYA,TTA,TTHA,DDA,DDHA,NNA,TA,THA,DA,DDDA,DHA,NA,PA,PHA,BA,BBA,BHA,MA
  YA,RA,LA,VA,SA,HA,LLA,1vcAA,3I,II,U,E,AI,O,AU,1cn,2VIRAMA,NUKTA,SHADDA,1DANDA,p+1,WORD SEPARATOR
  SECTIONt,p+2,ABBREVIATIONc,cSUKUN,=11280,0MULTANIbA,2I,U,E,KA,KHA,GA,=11288,GHA,=1128A,CA,CHA,JA
  JJA,=1128F,NYA,TTA,TTHA,DDA,DDDA,DDHA,NNA,TA,THA,DA,DHA,NA,PA,PHA,BA,=1129F,BHA,MA,YA,RA,LA,VA,SA
  HA,RRA,RHA,1SECTIONt,=112B0,0KHUDAWADIbA,2AA,I,II,U,UU,E,AI,O,AU,KA,KHA,GA,GGA,GHA,NGA,CA,CHA,JA
  JJA,JHA,NYA,TTA,TTHA,DDA,DDDA,RRA,DDHA,NNA,TA,THA,DA,DHA,NA,PA,PHA,BA,BBA,BHA,MA,YA,RA,LA,VA,SHA
  SA,HA,1cn,vcAA,3I,II,U,UU,E,AI,O,AU,1cNUKTA,2VIRAMA,=112F0,1DIGIT ZERO,2f,j,e,i,h,SIX,l,k,w,=11300
  0GRANTHAcCOMBININGnABOVE,2CANDRABINDU,n,VISARGA,=11305,1bA,2AA,I,II,U,UU,uR,3L,=1130F,2EE,AI
  =11313,OO,AU,KA,KHA,GA,GHA,NGA,CA,CHA,JA,JHA,NYA,TTA,TTHA,DDA,DDHA,NNA,TA,THA,DA,DHA,NA,=1132A,PA
  PHA,BA,BHA,MA,YA,RA,=11332,LA,LLA,=11335,VA,SHA,SSA,SA,HA,=1133B,0COMBINING BINDU BELOW
  GRANTHAcNUKTA,2AVAGRAHA,1vcAA,3I,II,U,UU,uR,4RR,=11347,3EE,AI,=1134B,OO,AU,1cVIRAMA,=11350,OM
  =11357,AU LENGTHt,=1135D,cPLUTA,bVEDICn,3p+1,2uRR,3LL,1vcuL,4LL,=11366
  0COMBINING GRANTHA DIGIT ZERO,3f,j,e,i,h,SIX,=11370,2bA,3KA,NA,VI,PA,=11400,0NEWAbA,2AA,I,II,U,UU
  uR,3RR,L,LL,2E,AI,O,AU,KA,KHA,GA,GHA,NGA,NGHA,CA,CHA,JA,JHA,NYA,NYHA,TTA,TTHA,DDA,DDHA,NNA,TA,THA
  DA,DHA,NA,NHA,PA,PHA,BA,BHA,MA,MHA,YA,RA,RHA,LA,LHA,WA,SHA,SSA,SA,HA,1vcAA,3I,II,U,UU,uR,4RR,L,LL
  3E,AI,O,AU,1cVIRAMA,2CANDRABINDU,n,VISARGA,NUKTA,AVAGRAHA,FINALn,1OM,SIDDHI,DANDA,p+1,COMMA
  GAP FILLER,ABBREVIATIONc,DIGIT ZERO,2f,j,e,i,h,SIX,l,k,w,1pCOMMA,PLACEHOLDERt,=1145D,INSERTIONc
  SANDHIt,bVEDICn,cJIHVAMULIYA,2UPADHMANIYA,=11480,0TIRHUTA ANJI,1bA,2AA,I,II,U,UU,uR,3RR,L,LL,2E,AI
  O,AU,KA,KHA,GA,GHA,NGA,CA,CHA,JA,JHA,NYA,TTA,TTHA,DDA,DDHA,NNA,TA,THA,DA,DHA,NA,PA,PHA,BA,BHA,MA
  YA,RA,LA,VA,SHA,SSA,SA,HA,1vcAA,3I,II,U,UU,uR,4RR,L,LL,3E,SHORT E,AI,O,SHORT O,AU,1cCANDRABINDU,2n
  VISARGA,VIRAMA,NUKTA,AVAGRAHA,1GVANG,ABBREVIATIONc,OM,=114D0,DIGIT ZERO,2f,j,e,i,h,SIX,l,k,w
  =11580,0SIDDHAMbA,2AA,I,II,U,UU,uR,3RR,L,LL,2E,AI,O,AU,KA,KHA,GA,GHA,NGA,CA,CHA,JA,JHA,NYA,TTA
  TTHA,DDA,DDHA,NNA,TA,THA,DA,DHA,NA,PA,PHA,BA,BHA,MA,YA,RA,LA,VA,SHA,SSA,SA,HA,1vcAA,3I,II,U,UU,uR
  4RR,=115B8,3E,AI,O,AU,1cCANDRABINDU,2n,VISARGA,VIRAMA,NUKTA,SIDDHAM,1DANDA,p+1,SEPARATOR DOT,2BAR
  1REPETITION MARK-1*3,END OF TEXTt,SECTIONtmTRIDENT AND U-SHAPED ORNAMENTS,6DOTTED CRESCENTS
  4RAYS+3,7p+1,TRIPLE+1,3pRING,5mRAYS,3mpCRESCENTS,4TRIPLE+1,QUADRUPLE+1,SEPTUPLE+1,CIRCLES AND RAYS
  6jENCLOSURES,i+1,1bTHREE-CIRCLE ALTERNATE I,2TWO-CIRCLE+2,4II,2ALTERNATE U,1vc+2,4UU,=11600
  0MODIbA,2AA,I,II,U,UU,uR,3RR,L,LL,2E,AI,O,AU,KA,KHA,GA,GHA,NGA,CA,CHA,JA,JHA,NYA,TTA,TTHA,DDA,DDHA
  NNA,TA,THA,DA,DHA,NA,PA,PHA,BA,BHA,MA,YA,RA,LA,VA,SHA,SSA,SA,HA,LLA,1vcAA,3I,II,U,UU,uR,4RR,L,LL
  3E,AI,O,AU,1cn,2VISARGA,VIRAMA,ARDHACANDRA,1DANDA,p+1,ABBREVIATIONc,cHUVA,=11650,DIGIT ZERO,2f,j,e
  i,h,SIX,l,k,w,=11660,0MONGOLIAN BIRGAmORNAMENT,1ROTATED BIRGA,pBIRGAmORNAMENT,TRIPLE+3,BIRGAmp+1
  ROTATED BIRGAm+1,4p+1,1INVERTED BIRGA,3mpORNAMENT,1SWIRL BIRGA,3mORNAMENT,4p+1,1TURNED+5,=11680
  0TAKRIbA,2AA,I,II,U,UU,E,AI,O,AU,KA,KHA,GA,GHA,NGA,CA,CHA,JA,JHA,NYA,TTA,TTHA,DDA,DDHA,NNA,TA,THA
  DA,DHA,NA,PA,PHA,BA,BHA,MA,YA,RA,LA,VA,SHA,SA,HA,RRA,1cn,2VISARGA,1vcAA,3I,II,U,UU,E,AI,O,AU
  1cVIRAMA,2NUKTA,1bARCHAIC KHA,ABBREVIATIONc,=116C0,DIGIT ZERO,2f,j,e,i,h,SIX,l,k,w,=11700,0AHOMbKA
  2KHA,NGA,NA,TA,ALTERNATE+1,PA,PHA,BA,MA,JA,CHA,THA,RA,LA,SA,NYA,HA,A,DA,DHA,GA,ALTERNATE+1,GHA,BHA
  JHA,ALTERNATE BA,=1171D,1CONSONANTcMEDIAL LA,4RA,LIGATING+1,1vcA,3AA,I,II,U,UU,E,AW,O,AI,AM
  1cKILLER,=11730,DIGIT ZERO,2f,j,e,i,h,SIX,l,k,w,1qTEN,2z,1cSMALL SECTION,2SECTION,RULAI,1SYMBOL VI
  bCA,2TTA,TTHA,DDA,DDHA,NNA,LLA,=11800,0DOGRAbA,2AA,I,II,U,UU,E,AI,O,AU,KA,KHA,GA,GHA,NGA,CA,CHA,JA
  JHA,NYA,TTA,TTHA,DDA,DDHA,NNA,TA,THA,DA,DHA,NA,PA,PHA,BA,BHA,MA,YA,RA,LA,VA,SHA,SSA,SA,HA,RRA
  1vcAA,3I,II,U,UU,uR,4RR,3E,AI,O,AU,1cn,2VISARGA,VIRAMA,NUKTA,1ABBREVIATIONc,=118A0
  0WARANG CITI CAPITALbNGAA,4A,WI,YU,YA,YO,II,UU,E,O,ANG,GA,KO,ENY,YUJ,UC,ENN,ODD,TTE,NUNG,DA,AT,AM
  BU,PU,HIYO,HOLO,HORR,HAR,SSUU,SII,VIYO,2SMALLbNGAA,4A,WI,YU,YA,YO,II,UU,E,O,ANG,GA,KO,ENY,YUJ,UC
  ENN,ODD,TTE,NUNG,DA,AT,AM,BU,PU,HIYO,HOLO,HORR,HAR,SSUU,SII,VIYO,2DIGIT ZERO,3f,j,e,i,h,SIX,l,k,w
  2qTEN,3z,THIRTY,FORTY,FIFTY,SIXTY,SEVENTY,EIGHTY,NINETY,=118FF,2OM,0DIVES AKURUbA,3AA,I,II,U,UU,E
  =11909,O,=1190C,KA,KHA,GA,GHA,NGA,CA,CHA,JA,=11915,NYA,TTA,=11918,DDA,DDHA,NNA,TA,THA,DA,DHA,NA,PA
  PHA,BA,BHA,MA,YA,YYA,RA,LA,VA,SHA,SSA,SA,HA,LLA,ZA,2vcAA,4I,II,U,UU,E,=11937,AI,O,=1193B,2cn
  3CANDRABINDU,HALANTA,2VIRAMA,PREFIXED NASALc,MEDIAL YA,INITIAL RA,MEDIAL+1,cNUKTA,pDANDA
  GAP FILLER,END OF TEXTt,=11950,DIGIT ZERO,3f,j,e,i,h,SIX,l,k,w,=119A0,0NANDINAGARIbA,2AA,I,II,U,UU
  uR,3RR,=119AA,2E,AI,O,AU,KA,KHA,GA,GHA,NGA,CA,CHA,JA,JHA,NYA,TTA,TTHA,DDA,DDHA,NNA,TA,THA,DA,DHA
  NA,PA,PHA,BA,BHA,MA,YA,RA,LA,VA,SHA,SSA,SA,HA,LLA,RRA,1vcAA,3I,II,U,UU,uR,4RR,=119DA,3E,AI,O,AU
  1cn,2VISARGA,VIRAMA,AVAGRAHA,SIDDHAM,1HEADSTROKE,vcPRISHTHAMATRA E,=11A00,0ZANABAZAR SQUAREbA,2vcI
  4UE,U,E,OE,O,AI,AU,REVERSED I,3LENGTHt,2bKA,3KHA,GA,GHA,NGA,CA,CHA,JA,NYA,TTA,TTHA,DDA,DDHA,NNA,TA
  THA,DA,DHA,NA,PA,PHA,BA,BHA,MA,TSA,TSHA,DZA,DZHA,ZHA,ZA,-A,YA,RA,LA,VA,SHA,SSA,SA,HA,KSSA
  2FINAL CONSONANTt,cVIRAMA,3CANDRABINDU,4mORNAMENT,3CANDRA+2,n,VISARGA,2CLUSTER-INITIALbRA
  CLUSTER-FINALbYA,4RA,LA,VA,2INITIAL HEADt,CLOSING+2,tTSHEG,3SHAD,p+1,LONG TSHEG
  2INITIAL DOUBLE-LINED HEADt,CLOSING+3,SUBJOINER,=11A50,0SOYOMBObA,1vcI,3UE,U,E,O,OE,AI,AU,uR,4L
  2LENGTHt,1bKA,2KHA,GA,GHA,NGA,CA,CHA,JA,JHA,NYA,TTA,TTHA,DDA,DDHA,NNA,TA,THA,DA,DHA,NA,PA,PHA,BA
  BHA,MA,TSA,TSHA,DZA,ZHA,ZA,-A,YA,RA,LA,VA,SHA,SSA,SA,HA,KSSA,1cJIHVAMULIYA,2UPADHMANIYA
  1CLUSTER-INITIALbRA,3LA,SHA,SA,1FINAL CONSONANTcG,4K,NG,D,N,B,M,R,L,SH,S,-A,1cn,2VISARGA
  1GEMINATIONt,SUBJOINER,tTSHEG,2SHAD,p+1,PLUTA,1HEADtmMOON AND SUN AND TRIPLE FLAME,8FLAME,6SUN
  1TERMINAL MARK-1,2MARK-2,=11AB0,0CANADIAN SYLLABICS NATTILIK HI,3HII,HO,HOO,HA,HAA,SHRI,SHRII,SHRO
  SHROO,SHRA,SHRAA,2SPE,SPI,SPO,SPA,0PAU CIN HAUbPA,4KA,LA,MA,DA,ZA,VA,NGA,HA,GA,KHA,SA,BA,CA,TA,THA
  NA,PHA,RA,FA,CHA,A,E,I,O,U,UA,IA,FINAL P,5K,T,M,N,L,W,NG,Y,3RISING TONE LONG,4TONE
  3SANDHI GLOTTAL STOP,RISING TONE LONG FINAL,5FINAL,3SANDHI GLOTTAL STOP+1,4TONE LONG,TONE
  5LONG FINAL,FINAL,3MID-LEVEL TONE,GLOTTAL STOP VARIANT,MID-LEVEL TONE LONG FINAL,5FINAL
  3LOW-FALLING TONE LONG,4TONE,3GLOTTAL STOP,LOW-FALLING TONE LONG FINAL,5FINAL,3GLOTTAL STOP+1
  =11C00,0BHAIKSUKIbA,2AA,I,II,U,UU,uR,3RR,L,=11C0A,2E,AI,O,AU,KA,KHA,GA,GHA,NGA,CA,CHA,JA,JHA,NYA
  TTA,TTHA,DDA,DDHA,NNA,TA,THA,DA,DHA,NA,PA,PHA,BA,BHA,MA,YA,RA,LA,VA,SHA,SSA,SA,HA,1vcAA,3I,II,U,UU
  uR,4RR,L,=11C38,3E,AI,O,AU,1cCANDRABINDU,2n,VISARGA,VIRAMA,AVAGRAHA,1DANDA,p+1,WORD SEPARATOR
  GAP FILLER-1,2FILLER-2,=11C50,1DIGIT ZERO,2f,j,e,i,h,SIX,l,k,w,1qf,2j,e,i,h,SIX,l,k,w,TEN,z,THIRTY
  FORTY,FIFTY,SIXTY,SEVENTY,EIGHTY,NINETY,1HUNDREDS UNITt,=11C70,0MARCHEN HEAD+1,1tSHAD,bKA,2KHA,GA
  NGA,CA,CHA,JA,NYA,TA,THA,DA,NA,PA,PHA,BA,MA,TSA,TSHA,DZA,WA,ZHA,ZA,-A,YA,RA,LA,SHA,SA,HA,A,=11C92
  1SUBJOINEDbKA,3KHA,GA,NGA,CA,CHA,JA,NYA,TA,THA,DA,NA,PA,PHA,BA,MA,TSA,TSHA,DZA,WA,ZHA,ZA,=11CA9,YA
  RA,LA,SHA,SA,HA,A,1vcAA,3I,U,E,O,1cn,2CANDRABINDU,=11D00,0MASARAM GONDIbA,3AA,I,II,U,UU,E,=11D08
  AI,O,=11D0B,AU,KA,KHA,GA,GHA,NGA,CA,CHA,JA,JHA,NYA,TTA,TTHA,DDA,DDHA,NNA,TA,THA,DA,DHA,NA,PA,PHA
  BA,BHA,MA,YA,RA,LA,VA,SHA,SSA,SA,HA,LLA,KSSA,JNYA,TRA,2vcAA,4I,II,U,UU,uR,=11D3A,E,=11D3C,AI,O
  =11D3F,AU,2cn,3VISARGA,NUKTA,CANDRA,HALANTA,2VIRAMA,REPHA,RA-KARA,=11D50,DIGIT ZERO,3f,j,e,i,h,SIX
  l,k,w,=11D60,0GUNJALA GONDIbA,3AA,I,II,U,UU,=11D67,EE,AI,=11D6A,OO,AU,YA,VA,BA,BHA,MA,KA,KHA,TA
  THA,LA,GA,GHA,DA,DHA,NA,CA,CHA,TTA,TTHA,LLA,JA,JHA,DDA,DDHA,NGA,PA,PHA,HA,RA,SA,2vcAA,4I,II,U,UU
  =11D90,EE,AI,=11D93,OO,AU,2cn,3VISARGA,2VIRAMA,OM,=11DA0,DIGIT ZERO,3f,j,e,i,h,SIX,l,k,w,=11EE0
  0MAKASARbKA,2GA,NGA,PA,BA,MA,TA,DA,NA,CA,JA,NYA,YA,RA,LA,VA,SA,A,1ANGKA,vcI,3U,E,O,1PASSIMBANG
  END OF SECTION,=11FB0,0LISUbYHA,=11FC0,TAMIL FRACTIONfTHREE-HUNDRED-AND-TWENTIETH
  3ONE-HUNDRED-AND-SIXTIETH,EIGHTIETH,SIXTY-FOURTH,FORTIETH,THIRTY-SECOND,2eEIGHTIETHS
  3SIXTY-FOURTHS,2fTWENTIETH,3SIXTEENTH-1,SIXTEENTH-2,TENTH,EIGHTH,2eTWENTIETHS,3SIXTEENTHS,2fFIFTH
  3QUARTER,HALF-1,HALF-2,2eQUARTERS,DOWNSCALING FACTOR KIIZH,1cNEL,2CEVITU,AAZHAAKKU,UZHAKKU
  MUUVUZHAKKU,KURUNI,PATHAKKU,MUKKURUNI,KAACU,PANAM,PON,VARAAKAN,PAARAM,KUZHI,VELI,1WET CULTIVATIONc
  DRY+2,LAND+1,SALT PAN+1,TRADITIONAL CREDIT+1,2q+1,1CURRENT+1,AND ODD+1,SPENT+1,TOTAL+1
  IN POSSESSION+1,STARTING FROM+1,cMUTHALIYA,2VAKAIYARAA,=11FFF,1PUNCTUATION END OF TEXT
  0CUNEIFORMcA,3aA,4BAD,GAN2 TENU,HA,IGI,LAGARo,MUSH,SAG,2A2,AB,3aASH2,4DUN3o,GAL,GAN2 TENU,HA,IGIo
  IMIN,LAGAB,SHESH,UdUdU,3o,2AB2,3aBALAG,4GAN2 TENU,MEdEN,SHA3,TAK4,2AD,AK,3aERIN2,4SHITAdGISH,2AL
  3aAL,4DIM2,GISH,HA,KAD3,KI,SHE,USH,2ALAN,ALEPH,AMAR,3aSHE,2AN,3gAN,ea,dNAGA OPPOSING ANdNAGA
  5SQUARED,2ANSHE,APIN,ARAD,3aKUR,2ARKAB,ASAL2,ASH,3ZIDA TENU,KABA+1,gASH TUG2gTUG2 TUG2gTUG2 PAP
  5gASH,7yASHgASHgASH,2ASH2,ASHGAB,BA,BAD,BAG3,BAHAR2,BAL,3gBAL,2BALAG,BAR,BARA2,BI,3aA,4GAR,IGIo
  2BU,3gBU AB,5UN,3yBU,2BULUG,3gBULUG,2BUR,BUR2,DA,DAG,3KISIM5aAdMASH,5AMAR,BALAG,BI,GA,6dMASH,5GI
  GIR2,GUD,HA,IR,6dLU,5KAK,LA,LU,6dMASH2,5LUM,NE,PAPdPAP,SI,TAK4,U2dGIR2,USH,2DAM,DAR,DARA3,DARA4,DI
  DIB,DIM,3aSHE,2DIM2,DIN,3KASKAL UoDISH,2DISH,DU,3gDU,o,SHESHIG,2DUB,3aESH2,2DUB2,DUG,DUGUD,DUH,DUN
  DUN3,3o,4o,2DUN4,DUR2,E,3aPAP,gE NUNgNUN,2E2,3aAdHAdDA,4GAR,MI,SAL,SHE,U,2EDIN,EGIR,EL,EN,3aGAN2
  5TENU,4ME,3yEN,OPPOSING+1,SQUARED,2EREN,ERIN2,ESH2,EZEN,3aA,5dLAL,7aLAL,4AN,BAD,DUN3o,6o,4HA,5o
  4IGI+1,KASKAL,5SQUARED,4KU3,LA,LALaLAL,LI,LU,U2,UD,2GA,3o,2GA2,3aAdDAdHA,6HA,IGI,4AB2 TENUdTAB,AN
  ASH,ASH2dGAL,BAD,BARdRA,BUR,5dRA,4DA,DI,DIMaSHE,DUB,EL,5dLA,4EN,5aGAN2 TENU,4GAN2+1,GAR,GI,GI4,5dA
  4GIR2dSU,HAdLUdESH2,HAL,5dLA,4HIdLI,HUB2,IGIo,ISHdHUdASH,KAK,KASKAL,KID,5dLAL,4KU3dAN,LA,MEdEN,MI
  NUN,5gNUN,4PA,SAL,SAR,SHE,5dTUR,4SHID,SUM,TAK4,U,UD,5dDU,3gGA2,2GABA,3yGABA,2GAD,3gGAD GARgGAR
  2GAL,3GADgGAD GARgGAR,2GALAM,GAM,GAN,GAN2,3TENU,gGAN2,y+1,2GAR,GAR3,GASHAN,GESHTIN,3aKUR,2GI,3aE
  4U,3yGI,2GI4,3gGI4,y+1,2GIDIM,GIR2,3o,2GIR3,3aAdIGI,4GAN2 TENU,IGI,LUd+1,PA,2GISAL,GISH,3yGISH
  aBAD,4TAK4,3TENU,2GU,3yGU,2GU2,3aKAK,5aIGIo,4NUN,SALdTUG2,3o,2GUD,3aAdKUR,4KUR,3gGUD LUGAL,2GUL
  GUM,3aSHE,2GUR,GUR7,GURUN,GURUSH,HA,3TENU,o,2HAL,HI,3aASH,4ASH2,BAD,DISH,GAD,KIN,NUN,SHE,U,2HU
  HUB2,3aAN,4HAL,KASKAL,LISH,UD,2HUL2,I,3A,2IB,IDIM,3gIDIM BUR,5SQUARED,2IG,IGI,3DIB,RI
  gIGI SHIRgSHIR UDgUD,o,2IL,3aGAN2 TENU,2IL2,IM,3aTAK4,yIM,OPPOSING+1,SQUARED,2IMIN,IN,IR,ISH,KA
  3aA,4AD,5dKU3,4ASH2,BAD,BALAG,BAR,BI,ERIN2,ESH2,GA,GAL,GAN2 TENU,GAR,5dSHA3dA,4GI,GIR2,GISHdSAR
  5yGISH,4GU,GUR7,IGI,IM,KAK,KI,KID,LI,LU,ME,5dDU,6GI,TE,4MI,5dNUNUZ,4NE,NUN,PI,RU,SA,SAR,SHA,SHE
  SHID,SHU,SIG,SUHUR,TAR,U,U2,UD,UMUMaPA,USH,ZI,2KA2,3yKA2,2KAB,KAD2*4,3gKAD5,2KAK,3aIGIo,2KAL,3aBAD
  yKAL,2KAM2,KAM4,KASKAL,3LAGABaUgLAGABaU,gKASKAL+7,2KESH2,KI,3aBAD,4U,UD,2KID,KIN,KISAL,KISH,KISIM5
  3gKISIM5,2KU,3gHIaASH2 KUgHIaASH2,2KU3,KU4,3VARIANT FORM,2KU7,KUL,3o,2KUN,KUR,3OPPOSING KUR
  2KUSHU2,KWU318,LA,LAGAB,3aA,5dDAdHA,6GAR,LAL,4AL,AN,ASH ZIDA TENU,BAD,BI,DAR,EN,GA,GAR,GUD,5dGUD
  4HA,HAL,HIaNUN,IGIo,IM,5dHA,6LU,4KI,KIN,KU3,KUL,5dHIdA,4LAGAB,LISH,LU,LUL,ME,5dEN,4MUSH,NE,SHEdSUM
  SHITAdGISHdERIN2,7TENU,4SHU2,5dSHU2,4SUM,TAG,TAK4,TEdAdSUdNA,U,5dA,6UdU,4U2dASH,UD,USH,3SQUARED
  2LAGAR,3aSHE,5dSUM,3o,4gLAGARoSHE,2LAHSHU,LAL,3aLAL,2LAM,3aKUR,5dRU,2LI,LIL,LIMMU2,LISH,LU,3aBAD
  2LU2,3aAL,4BAD,ESH2,5TENU,4GAN2+1,HIaBAD,IM,KAD2,KAD3,5dASH,4KI,LAdASH,LAGAB,MEdEN,NE,NU,SIdASH
  SIK2dBU,TUG2,3TENU,yLU2,OPPOSING+1,SQUARED,SHESHIG,2LU3,LUGAL,3gLUGAL,OPPOSING+1,SHESHIG,2LUH,LUL
  LUM,3gLUM,5GARgGAR,2MA,3aTAK4,o,2MA2,MAH,MAR,MASH,MASH2,ME,MES,MI,MIN,MU,3gMU,2MUG,3o,2MUNSUB
  MURGU2,MUSH,3aA,4KUR,ZA,3gMUSH,5aAdNA,3yMUSH,2MUSH3,3aA,5dDI,4DI,3o,2NA,NA2,NAGA,3INVERTED
  aSHU TENU,OPPOSING NAGA,2NAGAR,NAM NUTILLU,NAM,NAM2,NE,3aA,4UD,3SHESHIG,2NI,3aE,2NI2,NIM
  3aGAN2 TENU,4GARd+2,2NINDA2,3aAN,4ASH,5dASH,4GUD,MEdGAN2 TENU,NE,NUN,SHE,5dA AN,6ASH,7dASH,4U2+2
  USH,2NISAG,NU,NU11,NUN,3LAGARaGAR,5MASH,SAL,6gNUN LAGARaSAL,5USH,3TENU,gNUN,y+1,5LAGARgLAGAR
  2NUNUZ,3AB2aASHGAB,5BI,DUG,GUD,IGIo,KAD3,LA,NE,SILA3,U2,3KISIM5aBI,6U,2PA,PAD,PAN,PAP,PESH2,PI,3aA
  4AB,BI,BU,E,I,IB,U,U2,3yPI,2PIRIG,3aKAL,4UD,ZA,3OPPOSING PIRIG,2RA,RAB,RI,RU,SA,SAG NUTILLU,SAG
  3aA,4DU,DUB,HA,KAK,KUR,LUM,MI,NUN,SAL,SHID,TAB,U2,UB,UM,UR,USH,3gSAG,o,2SAL,3LAGABaASH2,2SANGA2
  SAR,SHA,SHA3,3aA,4BAD,GISH,NE,SHU2,TUR,U,5dA,2SHA6,SHAB6,SHAR2,SHE,3HU,gSHE GADgGAD GARgGAR
  5TABgTAB+3,2SHEG9,SHEN,SHESH,SHESH2,SHESHLAM,SHID,3aA,4IM,2SHIM,3aA,4BAL,BULUG,DIN,GAR,IGI,5o
  4KUSHU2,LUL,MUG,SAL,2SHINIG,SHIR,3TENU,gSHIR BURgBUR,2SHITA,SHU,3gINVERTED SHU,2SHU2,SHUBUR,SI,3o
  2SIG,SIG4,3gSIG4 SHU2,2SIK2,SILA3,SU,3gSU,2SUD,SUD2,SUHUR,SUM,SUMASH,SUR,SUR9,TA,3ASTERISK,aHI,4MI
  3o,2TAB,3gTAB NIgNI DISHgDISH,SQUARED,2TAG,3aBI,4GUD,SHE,SHU,TUG2,UD,2TAK4,TAR,TE,3o,2TI,3TENU
  2TIL,TIR,3aTAK4,gTIR,5GADgGAD GARgGAR,2TU,TUG2,TUK,TUM,TUR,3gTUR ZAgZA,2U,3GUD,U U
  gU PAgPA GARgGAR,5SURgSUR,U REVERSEDgU REVERSED,2U2,UB,UD,3KUSHU2,aBAD,4MI,UdUdU,9o,3o,SHESHIG
  4aBAD,2UDUG,UM,3aLAGAB,4MEdDA,SHA3,U,2UMBIN,UMUM,3aKASKAL,4PA,2UN,3o,2UR,3yUR,SHESHIG,2UR2,3aAdHA
  6NA,4AL,HA,NUN,U2,5dASH,6BI,2UR4,URI,URI3,URU,3aA,4ASHGAB,BAR,DUN,GA,GAL,GAN2 TENU,GAR,GU,HA,IGI
  IM,ISH,KI,LUM,MIN,PA,SHE,SIG4,TU,UdGUD,UD,URUDA,2URUDA,3aU,2USH,3aA,4KU,KUR,TAK4,2USHX,USH2,USHUMX
  UTUKI,UZ3,3aKASKAL,2UZU,ZA,3TENU,SQUAREDaKUR,2ZAG,ZAMX,ZE2,ZI,3gZI,2ZI3,ZIB,3KABA TENU,2ZIG,ZIZ2
  ZU,ZU5,3aA,2ZUBUR,ZUM,KAP ELAMITE,ABaNUN,AB2aA,AMARaKUG,DAG KISIM5aU2dMASH,DAG3,DISHdSHU,DUBaSHE
  EZENaGUD,4SHE,2GA2aANdKAKdA,4ASH2,2GE22,GIG,HUSH,KAaANSHE,4ASH3,GISH,GUD,HIaASH2,LUM,PA,SHUL,TU
  UR2,2LAGABaGI,LU2 SHESHIGaBAD,3aESH2dLAL,4SHU,2MESH,MUSH3aZA,NA4,NIN,NIN9,NINDA2aBAL,4GI
  2NU11 ROTATED NINETY DEGREES,PESH2 ASTERISK,PIR2,SAGaIGIo,TI2,UMaME,U U,=12400,1NUMERICcjASH,3e+1
  i+1,h+1,SIX+1,l+1,k+1,w+1,eDISH,i+1,h+1,SIX+1,l+1,k+1,w+1,iU,hU,SIX U,lU,kU,wU,fGESH2,j+1,e+1,i+1
  h+1,SIX+1,l+1,k+1,w+1,fGESHU,j+1,e+1,i+1,h+1,jSHAR2,e+1,5VARIANT FORM,3iSHAR2,h+1,SIX+1,l+1,k+1
  w+1,fSHARU,j+1,e+1,5VARIANT FORM,3iSHARU,h+1,SHAR2aGALdDISH,7MIN,3fBURU,j+1,e+1,5VARIANT FORM
  3iBURU,h+1,eVARIANT FORM ESH16,6ESH21,3iVARIANT FORM LIMMU,6LIMMU4,LIMMU A,7B
  3SIX VARIANT FORM ASH9,lVARIANT FORM IMIN3,6IMIN A,7B,3kVARIANT FORM USSU,6USSU3
  3wVARIANT FORM ILIMMU,6ILIMMU3,ILIMMU4,ILIMMU A,3jASH TENU,e+2,i+2,h+2,SIX+2,fBAN2,j+1,e+1,i+1
  5VARIANT FORM,3hBAN2,5VARIANT FORM,3NIGIDAMIN,NIGIDAESH,fESHE3,j+1,fTHIRD DISH,jTHIRDS+1,hSIXTHS+1
  fTHIRD VARIANT FORM A,jTHIRDS+3,fEIGHTH ASH,4QUARTER+1,3OLD ASSYRIANfSIXTH,6QUARTER,3fQUARTER GUR
  4HALF+1,3ELAMITEfTHIRD,4jTHIRDS,FORTY,FIFTY,3iU VARIANT FORM,h+3,SIX+3,l+3,k+3,w+3,=12470
  1PUNCTUATIONcOLD ASSYRIAN WORD DIVIDER,3VERTICAL COLON,DIAGONAL+1,4TRICOLON,QUADCOLON,=12480
  1cABaNUN TENU,4SHU2,2ADaESH2,BADaDISH TENU,BAHAR2aAB2,4NI,ZA,2BUgBUaNA2,DAaTAK4,DAGaKUR,DIMaIGI
  4U U U,2DIM2aUD,DUGaANSHE,4ASH,5AT LEFT,4DIN,DUN,ERIN2,GA,GI,GIR2o,GISH,HA,HI,IGIo,KASKAL,KUR
  KUSHU2,5dKASKAL,4LAK-020,LAM,5aKUR,4LUHdGISH,MASH,MES,MI,NI,PI,SHE,SIo,2E2aKUR,4PAP,2ERIN2 X
  ESH2yESH2,EZEN SHESHIGaASH,5HI,IGIo,LA,LAL,ME,MES,SU,3a+1,2GA2aBAHAR2,4DIMo,DUGaIGI+1,6KASKAL
  4EREN,GA,GARdDI,6NE,4HAdA,KUSHU2dKASKAL,LAM,5aKUR,4LUH,MUSH,NE,5dE2,6GI,4SHIM,ZIZ2
  2GABA ROTATED NINETY DEGREES,GESHTINaU,GISHaGISHyGISH,GU2aIGIo,GUDdGISHaTAK4,HA TENUo
  HIaASHgHIaASH,KAaBU,4KA,U U U,UR,2LAGABaZUgZU,LAK-003,LAK-021,LAK-025,LAK-030,LAK-050,LAK-051
  LAK-062,LAK-079gLAK-079o,LAK-080,LAK-081gLAK-081,LAK-092,LAK-130,LAK-142,LAK-210,LAK-219,LAK-220
  LAK-225,LAK-228,LAK-238,LAK-265,LAK-266,LAK-343,LAK-347,LAK-348,LAK-383,LAK-384,LAK-390,LAK-441
  LAK-449,3aGU,4IGI,PAPdLU3,6PAPd+1,4U2dBA,2LAK-450,LAK-457,LAK-470,LAK-483,LAK-490,LAK-492,LAK-493
  LAK-495,LAK-550,LAK-608,LAK-617,3aASH,4BAD,DUN3oo,KU3,LA,TAR,TE,U2,UD,URUDA,2LAK-636,LAK-648,3aDUB
  4GA,IGI,5o,4NI,PAPdPAPdLU3,SHESHdKI,UD,URUDA,2LAK-724,LAK-749,LU2oaASH,3aDISH,4HAL,PAP,5dPAPdLU3
  4TAK4,2MIdZA7,MUSHgMUSHaGA,6KAK,2NINDA2aDIMo,4GISH,GUL,HI,KESH2,LAK-050,MASH,PAPdPAP,U,5dU,4URUDA
  2SAGoaHA,3aEN,4SHE AT LEFT,TAK4,2SHA6 TENU,SHEgSHE,3dHUB2,4NAM2,SAR,2SHU2dDUGaNI,4E2aAN,2SIaTAK4
  TAK4dSAG,TUMaGAN2 TENU,4eDISH,2UR2 INVERTED,3aUD,2URUaDARA3,4LAK-668,LU3,2ZA7,ZUgZUdSAR
  ZU5aeDISH TENU,=12F90,0CYPRO-MINOANcCM001,2CM002,CM004*9,CM012B,CM013,CM015,CM017,CM019,CM021
  CM023*8,CM033*9,CM044,CM046,CM047,CM049*8,CM058*7,CM066*A,CM075B,CM076,CM078*F,CM094*C,CM107*4
  CM112,CM114,CM301,CM302,=13000,0EGYPTIAN HIEROGLYPH A001*5,2A005A,A006,A006A,A006B,A007*8,A014A
  A015*3,A017A,A018*F,A032A,A033*8,A040A,A041,A042,A042A,A043,A043A,A044,A045,A045A,A046*19,B001*5
  B005A,B006*4,C001,C002,C002A*3,C003*8,C010A,C011*E,D001*8,D008A,D009*13,D027A,D028*4,D031A,D032*3
  D034A,D035*C,D046A,D047,D048,D048A,D049,D050,D050A*9,D051,D052,D052A,D053,D054,D054A,D055*D
  D067A*8,E001*8,E008A,E009,E009A,E010*7,E016A,E017,E017A,E018*3,E020A,E021*8,E028A,E029*6,E034A
  E036*3,F001,F001A,F002*C,F013A,F014*8,F021A,F022*A,F031A,F032*6,F037A,F038,F038A,F039*7,F045A,F046
  F046A,F047,F047A,F048*4,F051A*3,F052,F053,G001*6,G006A,G007,G007A,G007B,G008*4,G011A,G012*9,G020A
  G021*6,G026A,G027*A,G036A,G037,G037A,G038*6,G043A,G044,G045,G045A,G046*9,H001*6,H006A,H007,H008
  I001*5,I005A,I006*4,I009A,I010,I010A,I011,I011A,I012*4,K001*8,L001,L002,L002A,L003*4,L006A,L007
  L008,M001,M001A,M001B,M002,M003,M003A,M004*7,M010A,M011,M012,M012A*8,M013*3,M015A,M016,M016A,M017
  M017A,M018*5,M022A,M023,M024,M024A,M025*4,M028A,M029*3,M031A,M032,M033,M033A,M033B,M034*7,M040A
  M041*4,N001*12,N018A,N018B,N019*7,N025A,N026*8,N033A,N034,N034A,N035,N035A,N036,N037,N037A,N038*5
  NL001*5,NL005A,NL006*C,NL017A,NL018*3,NU001*A,NU010A,NU011,NU011A,NU012*7,NU018A,NU019*4,NU022A
  O001,O001A,O002*4,O005A,O006,O006A*6,O007*4,O010A*3,O011*9,O019A,O020,O020A,O021*4,O024A,O025
  O025A,O026*4,O029A,O030,O030A,O031*3,O033A,O034*3,O036A*4,O037*E,O050A,O050B,O051,P001,P001A,P002
  P003,P003A,P004*8,Q001*7,R001,R002,R002A,R003,R003A,R003B,R004*7,R010A,R011*6,R016A,R017*D,S001
  S002,S002A,S003*4,S006A,S007*8,S014A,S014B,S015*3,S017A,S018*9,S026A,S026B,S027*9,S035A,S036*B
  T001*3,T003A,T004*4,T007A,T008,T008A,T009,T009A,T010,T011,T011A,T012*5,T016A,T017*10,T032A,T033
  T033A,T034*3,U001*6,U006A,U006B,U007*11,U023A,U024*6,U029A,U030*3,U032A,U033*A,V001,V001A*9,V002
  V002A,V003*5,V007A,V007B,V008*4,V011A*3,V012,V012A,V012B,V013*8,V020A*C,V021*3,V023A,V024*5,V028A
  V029,V029A,V030,V030A,V031,V031A,V032,V033,V033A,V034*4,V037A,V038*3,V040A,W001*3,W003A,W004*6
  W009A,W010,W010A,W011*4,W014A,W015*3,W017A,W018,W018A,W019*6,W024A,W025,X001*4,X004A,X004B,X005
  X006,X006A,X007,X008,X008A,Y001,Y001A,Y002*7,Z001,Z002,Z002A*4,Z003,Z003A,Z003B,Z004,Z004A,Z005
  Z005A,Z006*A,Z015A*9,Z016,Z016A*8,AA001*7,AA007A,AA007B,AA008*19,=13430,VERTICAL JOINER
  HORIZONTAL+1,INSERT AT TOP START,4BOTTOM+1,TOP END,BOTTOM+1,2OVERLAY MIDDLE,BEGIN SEGMENT,END+1
  =14400,0ANATOLIAN HIEROGLYPH A001*A,2A010A,A011*10,A026A,A027*D,A039A,A040,A041,A041A,A042*4,A045A
  A046,A046A,A046B,A047*14,A066A*3,A067*1F,A097A,A098,A098A,A099,A100,A100A,A101,A101A,A102,A102A
  A103,A104,A104A*3,A105,A105A,A105B,A106,A107,A107A*3,A108*3,A110A,A110B,A111*5,A115A,A116*A,A125A
  A126*A,A135A,A136*43,A202A,A202B,A203*5,A207A,A208,A209,A209A,A210*6,A215A,A216,A216A,A217*B,A227A
  A228*28,A267A,A268*16,A289A,A290*5,A294A,A295*5,A299A,A300*A,A309A,A310*14,A329A,A330,A331,A332A*3
  A333*4,A336A*3,A337*17,A359A,A360*5,A364A,A365*4,A368A,A369*3,A371A,A372*A,A381A,A382
  A383 RA OR RI,A383A,A384*3,A386A,A387*6,A393k,A394*10,A410 BEGIN LOGOGRAMt,A410A END+2,A411*28
  A450A,A451*7,A457A,A458*28,A501*1E,=16800,0BAMUMbPHASE-A NGKUE MFON,3GBIEE FON
  PON MFON PIPAEMGBIEE,5PIPAEMBA,3NAA MFON,SHUENSHUET,TITA MFON,NZA+1,SHINDA PA NJI
  PON PA NJI PIPAEMGBIEE,6PIPAEMBA,3MAEMBGBIEE,TU MAEMBA,NGANGU,MAEMVEUX,MANSUAE,MVEUAENGAM,SEUNYAM
  NTOQPEN,KEUKEUTNDA,NKINDI,SUU,NGKUENZEUM,LAPAQ,LET KUT,NTAP MFAA,MAEKEUP,PASHAE,GHEUAERAE,PAMSHAE
  MON NGGEUAET,NZUN MEUT,U YUQ NAE,GHEUAEGHEUAE,NTAP NTAA,SISA,MGBASA,MEUNJOMNDEUQ,MOOMPUQ,KAFA
  PA LEERAEWA,NDA+1,PET,MAEMKPEN,NIKA,PUP,TUAEP,LUAEP,SONJAM,TEUTEUWEN,MAENYI,KET,NDAANGGEUAET,KUOQ
  MOOMEUT,SHUM,LOMMAE,FIRI,ROM,KPOQ,SOQ,MAP PIEET,SHIRAE,NTAP,SHOQ NSHUT YUM,NYIT MONGKEUAEQ,PAARAE
  NKAARAE,UNKNOWN,NGGEN,MAESI,NJAM,MBANYI,NYET,TEUAEN,SOT,PAAM,NSHIEE,MAEM,NYI,KAQ,NSHA,VEE,LU,NEN
  NAQ,MBAQ,2PHASE-B NSHUET,3TU MAEMGBIEE,SIEE,SET TU,LOM NTEUM,MBA MAELEE,KIEEM,YEURAE,MBAARAE,KAM
  PEESHI,YAFU LEERAEWA,LAM NSHUT NYAM,NTIEE SHEUOQ,NDU NJAA,GHEUGHEUAEM,PIT,TU NSIEE,SHET NJAQ
  SHEUAEQTU,MFON TEUAEQ,MBIT MBAAKET,NYI NTEUM,KEUPUQ,GHEUGHEN,KEUYEUX,LAANAE,PARUM,VEUM
  NGKINDI MVOP,NGGEU MBU,WUAET,SAKEUAE,TAAM,MEUQ,NGGUOQ,4LARGE,3MFIYAQ,SUE,MBEURI,MONTIEEN,NYAEMAE
  PUNGAAM,MEUT NGGEET,FEUX,MBUOQ,FEE,KEUAEM,MA NJEUAENA,4NJUQA,3LET,NGGAAM,NSEN,MA,KIQ,NGOM
  2PHASE-C NGKUE MAEMBA,3NZA,YUM,WANGKUOQ,NGGEN,NDEUAEREE,NGKAQ,GHARAE,MBEEKEET,GBAYI
  NYIR MKPARAQ MEUN,NTU MBIT,MBEUM,PIRIEEN,NDOMBU,MBAA CABBAGE-TREE,KEUSHEUAEP,GHAP,KEUKAQ,YU MUOMAE
  NZEUM,MBUE,NSEUAEN,MBIT,YEUQ,KPARAQ,KAA,SEUX,NDIDA,TAASHAE,NJUEQ,TITA YUE,SUAET,NGGUAEN NYAM,VEUX
  NANSANAQ,MA KEUAERI,NTAA,NGGUON,LAP,MBIRIEEN,MGBASAQ,NTEUNGBA,TEUTEUX,NGGUM,FUE,NDEUT,NSA,NSHAQ
  BUNG,VEUAEPEN,MBERAE,RU,NJAEM,LAM,TITUAEP,NSUOT NGOM,NJEEEE,KET,NGGU,MAESI,MBUAEM,LU,KUT,NJAM,NGOM
  WUP,NGGUEET,NSOM,NTEN,KUOP NKAARAE,NSUN,NDAM,MA NSIEE,YAA,NDAP,SHUEQ,SETFON,MBI,MAEMBA,MBANYI
  KEUSEUX,MBEUX,KEUM,MBAA PICKET,YUWOQ,NJEUX,MIEE,MUAE,SHIQ,KEN LAW,4FATIGUE,3NGAQ,NAQ,LIQ,PIN,PEN
  TET,2PHASE-D MBUO,3WAP,NJI,MFON,NJIEE,LIEE,NJEUT,NSHEE,NGGAAMAE,NYAM,WUAEN,NGKUN,SHEE,NGKAP
  KEUAETMEUN,TEUT,SHEUAE,NJAP,SUE,KET,YAEMMAE,KUOM,SAP,MFEUT,NDEUX,MALEERI,MEUT,SEUAEQ,YEN,NJEUAEM
  KEUOT MBUAE,NGKEURI,TU,GHAA,NGKYEE,FEUFEUAET,NDEE,MGBOFUM,LEUAEP,NDON,MONI,MGBEUN,PUUT,MGBIEE,MFO
  LUM,NSIEEP,MBAA,KWAET,NYET,TEUAEN,SOT,YUWOQ,KEUM,RAEM,TEEEE,NGKEUAEQ,MFEUAE,NSIEET,KEUP,PIP,PEUTAE
  NYUE,LET,NGGAAM,MFIEE,NGGWAEN,YUOM,PAP,YUOP,NDAM,NTEUM,SUAE,KUN,NGGEUX,NGKIEE,TUOT,MEUN,KUQ,NSUM
  TEUN,MAENJET,NGGAP,LEUM,NGGUOM,NSHUT,NJUEQ,GHEUAE,KU,REN OLD,TAE,TOQ,NYI,RII,LEEEE,MEEEE,M,SUU,MU
  SHII,SHEUX,KYEE,NU,SHU,NTEE,PEE,NI,SHOQ,PUQ,MVOP,LOQ,REN MUCH,TI,NTUU,MBAAl,SAQ,FAA,2PHASE-E NDAP
  3TOON,MBEUM,LAP,VOM,LOON,PAA,SOM,RAQ,NSHUOP,NDUN,PUAE,TAM,NGKA,KPEUX,WUO,SEE,NGGEUAET,PAAM,TOO
  KUOP,LOM,NSHIEE,NGOP,MAEM,NGKEUX,NGOQ,NSHUE,RIMGBA,NJEUX,PEEM,SAA,NGGURAE,MGBA,GHEUX,NGKEUAEM
  NJAEMLI,MAP,LOOT,NGGEEEE,NDIQ,TAEN NTEUM,SET,PUM,NDAA SOFTNESS,NGGUAESHAE NYAM,YIEE,GHEUN,TUAE
  YEUAE,PO,TUMAE,KEUAE,SUAEN,TEUAEQ,VEUAE,WEUX,LAAM,PU,TAAQ,GHAAMAE,NGEUREUT,SHEUAEQ,MGBEN,MBEE,NZAQ
  NKOM,GBET,TUM,KUET,YAP,NYI CLEAVER,YIT,MFEUQ,NDIAQ,PIEEQ,YUEQ,LEUAEM,FUE,GBEUX,NGKUP,KET,MAE
  NGKAAMI,GHET,FA,NTUM,PEUT,YEUM,NGGEUAE,NYI BETWEEN,NZUQ,POON,MIEE,FUET,NAE,MUAE,GHEUAE,FU I,MVI
  PUAQ,NGKUM,KUT,PIET,NTAP,YEUAET,NGGUP,PA PEOPLE,FU CALL,FOM,NJEE,A,TOQ,O,I,LAQ,PA PLURAL,TAA,TAQ
  NDAA MY HOUSE,SHIQ,YEUX,NGUAE,YUAEN,YOQ SWIMMING,4COVER,3YUQ,YUN,KEUX,PEUX,NJEE EPOCH,PUE,WUE,FEE
  VEE,LU,MI,REUX,RAE,NGUAET,NGA,SHO,SHOQ,FU REMEDY,NA,PI,LOQ,KO,MEN,MA,MAQ,TEU,KI,MON,TEN,FAQ,GHOM
  2PHASE-F KA,3U,KU,EE,REE,TAE,NYI,LA,RII,RIEE,MEEEE,TAA,NDAA,NJAEM,M,SUU,SHII,SI,SEUX,KYEE,KET,NUAE
  NU,NJUAE,YOQ,SHU,YA,NSHA,PEUX,NTEE,WUE,PEE,RU,NI,REUX,KEN,NGKWAEN,NGGA,SHO,PUAE,FOM,WA,LI,LOQ,KO
  MBEN,REN,MA,MO,MBAA,TET,KPA,SAMBA,VUEQ,=16A40,0MRObTA,2NGI,YO,MIM,BA,DA,A,PHI,KHAI,HAO,DAI,CHU
  KEAAE,OL,MAEM,NIN,PA,OO,O,RO,SHI,THEA,EA,WA,E,KO,LAN,LA,HAI,RI,TEK,=16A60,1DIGIT ZERO,2f,j,e,i,h
  SIX,l,k,w,=16A6E,1DANDA,p+1,0TANGSAbOZ,2OC,OQ,OX,AZ,AC,AQ,AX,VZ,VC,VQ,VX,EZ,EC,EQ,EX,IZ,IC,IQ,IX
  UZ,UC,UQ,UX,AWZ,AWC,AWQ,AWX,UIZ,UIC,UIQ,UIX,FINAL NG,LONG UEX,SHORT UEZ,3AWX,2UEC,UEZ,UEQ,UEX,UIUZ
  UIUC,UIUQ,UIUX,MZ,MC,MQ,MX,KA,KHA,GA,NGA,SA,YA,WA,PA,NYA,PHA,BA,MA,NA,HA,LA,HTA,TA,DA,RA,NHA,SHA
  CA,TSA,GHA,HTTA,THA,XA,FA,DHA,CHA,ZA,=16AC0,1DIGIT ZERO,2f,j,e,i,h,SIX,l,k,w,=16AD0
  0BASSA VAHbENNI,3KA,SE,FA,MBE,YIE,GAH,DHII,KPAH,JO,HWAH,WA,ZO,GBU,DO,CE,UWU,TO,BA,VU,YEIN,PA,WADDA
  A,O,OO,U,EE,E,I,=16AF0,2COMBINING HIGH TONE,3LOW+1,MID+1,LOW-MID+1,HIGH-LOW+1,2FULL STOP,=16B00
  0PAHAWH HMONGvKEEB,3KEEV,KIB,KIV,KAUB,KAUV,KUB,KUV,KEB,KEV,KAIB,KAIV,KOOB,KOOV,KAWB,KAWV,KUAB,KUAV
  KOB,KOV,KIAB,KIAV,KAB,KAV,KWB,KWV,KAAB,KAAV,2CONSONANT VAU,3NTSAU,LAU,HAU,NLAU,RAU,NKAU,QHAU,YAU
  HLAU,MAU,CHAU,NCHAU,HNAU,PLHAU,NTHAU,NAU,AU,XAU,CAU,2tCIM TUB,4SO,KES,KHAV,SUAM,HOM,TAUM
  2cVOS THOM,4TSHAB CEEB,3CIM CHEEM,VOS THIAB,4FEEM,3XYEEM NTXIV,4RHO,TOV,FAIB,3VOS SEEV,MEEJ SUAB
  VOS NRUA,IB YAM,XAUS,CIM TSOV ROG,=16B50,2DIGIT ZERO,3f,j,e,i,h,SIX,l,k,w,=16B5B,2qTENS,3HUNDREDS
  TEN THOUSANDS,MILLIONS,s+1,TEN BILLIONS,TRILLIONS,=16B63,2cVOS LUB,3XYOO,HLI,THIRD-STAGE+1
  ZWJ THAJ,HNUB,NQIG,XIAB,NTUJ,AV,TXHEEJ CEEV,MEEJ TSEEB,TAU,LOS,MUS,CIM HAIS LUS NTOG NTOG
  4CUAM TSHOOJ,TXWV,5CHWV,4PUB DAWB,NRES TOS,=16B7D,2CLANcTSHEEJ,4YEEG,LIS,LAUJ,XYOOJ,KOO,HAWJ,MUAS
  THOJ,TSAB,PHAB,KHAB,HAM,VAJ,FAJ,YAJ,TSWB,KWM,VWJ,=16E40,0MEDEFAIDRIN CAPITALbM,3S,V,W,ATIU,Z,KP,P
  T,G,F,I,K,A,J,E,B,C,U,YU,L,Q,HP,NY,X,D,OE,N,R,O,AI,Y,1SMALLbM,3S,V,W,ATIU,Z,KP,P,T,G,F,I,K,A,J,E,B
  C,U,YU,L,Q,HP,NY,X,D,OE,N,R,O,AI,Y,1DIGIT ZERO,2f,j,e,i,h,SIX,l,k,w,1qTEN,2ELEVEN,TWELVE,THIRTEEN
  FOURTEEN,FIFTEEN,SIXTEEN,SEVENTEEN,EIGHTEEN,NINETEEN,1DIGITfALTERNATE FORM,2j+2,e+2,1COMMA
  FULL STOP,SYMBOL AIVA,EXCLAMATION OH,=16F00,0MIAObPA,2BA,YI PA,PLA,MA,MHA,ARCHAIC MA,FA,VA,VFA,TA
  DA,YI TTA,3TA,2TTA,DDA,NA,NHA,YI NNA,ARCHAIC NA,NNA,NNHA,LA,LYA,LHA,LHYA,TLHA,DLHA,TLHYA,DLHYA,KA
  GA,YI KA,QA,QGA,NGA,NGHA,ARCHAIC NGA,HA,XA,GHA,GHHA,TSSA,DZZA,NYA,NYHA,TSHA,DZHA,YI TSHA,3DZHA
  2REFORMED TSHA,SHA,SSA,ZHA,ZSHA,TSA,DZA,YI TSA,SA,ZA,ZSA,ZZA,ZZSA,ARCHAIC ZZA,ZZYA,ZZSYA,WA,AH,HHA
  BRI,SYI,DZYI,TE,TSE,RTE,=16F4F,1cCONSONANT MODIFIER BAR,bNASALIZATION,cASPIRATION
  2REFORMED VOICING,3ASPIRATION,1vcA,3AA,AHH,AN,ANG,O,OO,WO,W,E,EN,ENG,OEY,I,IA,IAN,IANG,IO,IE,II,IU
  ING,U,UA,UAN,UANG,UU,UEI,UNG,Y,YI,AE,AEE,ERR,ROUNDED+1,ER,ROUNDED+1,AI,EI,AU,OU,N,NG,UOG,YUI,OG
  OER,VW,IG,EA,IONG,UI,=16F8F,1TONE RIGHT,2TOP+1,ABOVE,BELOW,1bTONE-2*7,2REFORMED TONE-1,3TONE-2
  TONE-4*3,TONE-8,=16FE0,0TANGUT ITERATIONt,NUSHU+2,OLD CHINESE HOOK+1,2ITERATION+1
  0KHITAN SMALL SCRIPT FILLER,=16FF0,VIETNAMESE ALTERNATE READINGtCA,4NHAY,=18800
  0TANGUT COMPONENT-001*300,=1AFF0,KATAKANAbMINNAN TONE-2*4,=1AFF5,3TONE-7,TONE-8,NASALIZED TONE-1*5
  =1AFFD,4TONE-7,TONE-8,=1B000,2ARCHAIC E,0HIRAGANAbARCHAIC YE,HENTAIGANAbA-1*3,2A-WO,I-1*4,U-1*5
  E-2*5,O-1*3,KA-1*9,KA-10,KA-11,KA-KE,KI-1*8,KU-1*7,KE-1*6,KO-1*3,KO-KI,SA-1*8,SI-1*6,SU-1*8,SE-1*5
  SO-1*7,TA-1*4,TI-1*7,TU-1*4,TU-TO,TE-1*9,TO-1*6,TO-RA,NA-1*9,NI-1*7,NI-TE,NU-1*3,NE-1*6,NE-KO
  NO-1*5,HA-1*9,HA-10,HA-11,HI-1*7,HU-1*3,HE-1*7,HO-1*8,MA-1*7,MI-1*7,MU-1*4,ME-1,ME-2,ME-MA,MO-1*6
  YA-1*5,YA-YO,YU-1*4,YO-1*6,RA-1*4,RI-1*7,RU-1*6,RE-1*4,RO-1*6,WA-1*5,WI-1*5,WE-1*4,WO-1*7
  N-MU-MO-1,N-MU-MO-2,0HIRAGANAbARCHAIC WU,KATAKANAbARCHAIC YI,3YE,WU,=1B150,0HIRAGANAbSMALL WI,3WE
  WO,=1B164,0KATAKANAbSMALL WI,3WE,WO,N,=1BC00,0DUPLOYANbH,2X,P,T,F,K,L,B,D,V,G,R,P N,D S,F N,K M
  R S,TH,SLOAN DH,DH,KK,SLOAN J,HL,LH,RH,M,N,J,S,M N,N M,J M,S J,MmDOT,N+2,J+2
  4DOTS INSIDE AND ABOVE,2SmDOT,5BELOW,2M S,N S,J S,S S,M N S,N M S,J+2,S J S,J SmDOT,3N,4S,2S T,4R
  3P,4R,2T S,3R S,2W,WH,W R,S N,3M,2K R S,G+2,S K,4R,2A,SLOAN OW,OA,O,AOU,I,E,IE,SHORT I,UI,EE
  SLOAN EH,ROMANIAN I,SLOAN EE,LONG I,YE,U,EU,XW,U N,LONG U,ROMANIAN U,UH,SLOAN U,OOH,OW,OU,WA,WO,WI
  WEI,WOW,NASAL U,3O,I,A,2PERNIN AN,3AM,2SLOAN EN,3AN,ON,2uM,=1BC70,1AFFIX LEFT HORIZONTAL SECANT
  2MID+2,RIGHT+2,LOW VERTICAL+1,MID+2,HIGH+2,ATTACHED+1,3LEFT-TO-RIGHT+1,TANGENT,TAIL,E HOOK,I+1
  TANGENT+1,=1BC80,2HIGH ACUTE,3TIGHT+1,GRAVE,LONG+1,DOT,CIRCLE,LINE,WAVE,VERTICAL,=1BC90,2LOW ACUTE
  3TIGHT+1,GRAVE,LONG+1,DOT,CIRCLE,LINE,WAVE,VERTICAL,ARROW,=1BC9C,1cOmCROSS,THICKbSELECTOR,pt
  PUNCTUATION CHINOOK FULL STOP,0SHORTHAND FORMATbOVERLAP,2CONTINUING+1,DOWN STEP,UP+1,=1CF00
  0ZNAMENNY COMBININGtGORAZDO NIZKO S KRYZHEM ON LEFT,3NIZKO+4,TSATA+2,GORAZDO NIZKO+2,NIZKO+2
  SREDNE+2,MALO POVYSHE+2,POVYSHE+2,VYSOKO+2,MALO POVYSHE S KHOKHLOM+2,POVYSHE+4,VYSOKO+4
  GORAZDO NIZKO S KRYZHEM ON RIGHT,NIZKO+4,TSATA+2,GORAZDO NIZKO+2,NIZKO+2,SREDNE+2,MALO POVYSHE+2
  POVYSHE+2,VYSOKO+2,MALO POVYSHE S KHOKHLOM+2,POVYSHE+4,VYSOKO+4,TSATA S KRYZHEM,MALO POVYSHE+2
  STRANNO MALO POVYSHE,POVYSHE S KRYZHEM,4STRANNO,3VYSOKO S KRYZHEM,MALO POVYSHE STRANNO
  GORAZDO VYSOKO,ZELO,ON,RAVNO,TIKHAYA,BORZAYA,UDARKA,PODVERTKA,LOMKA,KUPNAYA,KACHKA,ZEVOK,SKOBA
  RAZSEKA,KRYZH ON LEFT,=1CF30,2TONAL RANGEtMRACHNO,5SVETLO,TRESVETLO,2tZADERZHKA,3DEMESTVENNY+1
  OTSECHKA,PODCHASHIE,4mVERTICAL STROKE,3CHASHKA,4POLNAYA,3OBLACHKO,SOROCHYA NOZHKA,TOCHKA
  DVOETOCHIE,2ATTACHING VERTICAL OMET,tCURVED+1,3KRYZH,2LOWER TONAL RANGE INDICATOR
  1PRIZNAK MODIFIER LEVEL-2,3LEVEL-3,DIRECTION FLIP,KRYZH,ROG,=1CF50,1NEUME KRYUK,3TIKHY,2PARAKLIT
  DVA V CHELNU,KLYUCH,ZANOZHEK,STOPITSA,3S OCHKOM,2PEREVODKA,3NEPOSTOYANNAYA
  2STOPITSAmSOROCHYA NOZHKA,CHELYUSTKA,PALKA,ZAPYATAYA,GOLUBCHIK BORZY,3TIKHY,MRACHNY,SVETLY
  TRESVETLY,2VRAKHIYA PROSTAYA,3MRACHNAYA,SVETLAYA,TRESVETLAYA,KLYUCHEVAYA PROSTAYA,4MRACHNAYA
  SVETLAYA,TRESVETLAYA,2pZAPYATAYA,REVERSED CHELYUSTKA,DERBITSA,KHAMILO,CHASHKA,PODCHASHIE
  SKAMEYTSA MRACHNAYA,3SVETLAYA,TRESVETLAYA,TIKHAYA,2DEMESTVENNY KLYUCH
  SKAMEYTSA KLYUCHEVAYA SVETLAYA,3KLYUCHENEPOSTOYANNAYA,KLYUCHEVAYA TIKHAYA,DVOECHELNAYA PROSTAYA
  4SVETLAYA,NEPOSTOYANNAYA,KLYUCHEVAYA,2SLOZHITIE,3S ZAPYATOY,ZAKRYTOE,S KRYZHEM,2KRYZH,ROG,FITA
  KOBYLA,ZMEYTSA,STATYA,3S ZAPYATOY,4KRYZHEM,ZAPYATOY I+1,KRYZHEM I ZAPYATOY,3ZAKRYTAYA,4S ZAPYATOY
  3S ROGOM,4DVUMYA ZAPYATYMI,ZAPYATOY I PODCHASHIEM,2POLKULIZMY,STATYA NEPOSTOYANNAYA
  STRELA PROSTAYA,3MRACHNOTIKHAYA,KRYZHEVAYA,POLUPOVODNAYA,POVODNAYA,NEPOSTOYANNAYA,KLYUCHEPOVODNAYA
  KLYUCHENEPOSTOYANNAYA,TIKHAYA PUTNAYA,DVOECHELNAYA,DVOECHELNOKRYZHEVAYA,DVOECHELNOPOVODNAYA
  DVOECHELNAYA KLYUCHEVAYA,DVOECHELNOPOVODNAYA+1,GROMNAYAmSINGLE ZAPYATAYA,GROMOPOVODNAYA+3,GROMNAYA
  GROMOPOVODNAYA,4mpZAPYATAYA,3GROMOKRYZHEVAYA,4POVODNAYA,2MECHIK,3POVODNY,KLYUCHEVOY,KLYUCHEPOVODNY
  KLYUCHENEPOSTOYANNY,2STRELA TRYASOGLASNAYA,3TRYASOPOVODNAYA,TRYASOSTRELNAYA,2OSOKA,3SVETLAYA
  TRESVETLAYA,KRYUKOVAYA SVETLAYA,KLYUCHEVAYA+1,4NEPOSTOYANNAYA,2STRELA KRYUKOVAYA,4POVODNAYA
  GROMNAYAmSINGLE ZAPYATAYA,GROMOPOVODNAYA+3,GROMNAYA,GROMOPOVODNAYA,5mpZAPYATAYA,4GROMOKRYZHEVAYA
  5POVODNAYA,4TRYASKA,2KUFISMA,OBLAKO,DUDA,NEMKA,PAUK"

end SchemaGraph.Text.CharacterName
