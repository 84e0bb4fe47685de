import SchemaGraph.Text.CharacterName.Table

/-! Names of the characters from U+0000 to U+1FFF: the alphabets of Europe, Africa and the
Near East, and the scripts of South and Southeast Asia. -/
namespace SchemaGraph.Text.CharacterName

/-- The names from U+0000 to U+1FFF. -/
def alphabets : Table where
  shorthand := ["LETTER", "CAPITAL", "SMALL", "WITH", "WEST-CREE", "SIGN", "ABOVE", "BELOW", "AND",
    "CIRCUMFLEX", "THREE", "DASIA", "PSILI", "DIAERESIS", "DOT", "VOWEL", "STROKE", "INVERTED",
    "ACUTE", "PERISPOMENI", "DOTS", "DOUBLE", "HOOK", "REVERSED", "TWO", "GRAVE"]
  names := "
  =20,SPACE,EXCLAMATION MARK,QUOTATION+1,NUMBERf,DOLLAR+1,PERCENT+1,AMPERSAND,APOSTROPHE
  LEFT PARENTHESIS,RIGHT+1,ASTERISK,PLUSf,COMMA,HYPHEN-MINUS,FULL STOP,SOLIDUS,DIGIT ZERO,1ONE,y,k
  FOUR,FIVE,SIX,SEVEN,EIGHT,NINE,0COLON,SEMICOLON,LESS-THANf,EQUALS+1,GREATER-THAN+1,QUESTION MARK
  COMMERCIAL AT,LATINbaA*1A,LEFT SQUARE BRACKET,REVERSE SOLIDUS,RIGHT SQUARE BRACKET,jACCENT
  LOW LINE,zACCENT,LATINcaA*1A,LEFT CURLY BRACKET,VERTICAL LINE,RIGHT CURLY BRACKET,TILDE,=A0
  NO-BREAK SPACE,rEXCLAMATION MARK,CENTf,POUND+1,CURRENCY+1,YEN+1,BROKEN BAR,SECTIONf,n,COPYRIGHTf
  FEMININE ORDINAL INDICATOR,LEFT-POINTINGvANGLE QUOTATION MARK,NOTf,SOFT HYPHEN,REGISTEREDf,MACRON
  DEGREEf,PLUS-MINUS+1,SUPERSCRIPTy,1k,0sACCENT,MICROf,PILCROW+1,MIDDLEo,CEDILLA,SUPERSCRIPT ONE
  MASCULINE ORDINAL INDICATOR,RIGHT-POINTINGvANGLE QUOTATION MARK,VULGAR FRACTION ONE QUARTER,3HALF
  2kQUARTERS,0rQUESTION MARK,LATINbaAdz,5s,j,TILDE,n,RINGg,3AE,CdCEDILLA,Edz,5s,j,n,3Idz,5s,j,n,3ETH
  NdTILDE,Odz,5s,j,TILDE,n,0MULTIPLICATIONf,LATINbaOdq,3Udz,5s,j,n,3Yds,THORN,1caSHARP S,3Adz,5s,j
  TILDE,n,RINGg,3AE,CdCEDILLA,Edz,5s,j,n,3Idz,5s,j,n,3ETH,NdTILDE,Odz,5s,j,TILDE,n,0DIVISIONf
  LATINcaOdq,3Udz,5s,j,n,3Yds,THORN,Ydn,1baAdMACRON,c+4,baAdBREVE,c+4,baAdOGONEK,c+4,baCds,c+4,baCdj
  c+4,baCdog,c+5,baCdCARON,c+4,baD+2,c+4,baDdq,c+4,baEdMACRON,c+4,baEdBREVE,c+4,baEdog,c+5
  baEdOGONEK,c+4,baEdCARON,c+4,baGdj,c+4,baGdBREVE,c+4,baGdog,c+5,baGdCEDILLA,c+4,baHdj,c+4,baHdq
  c+4,baIdTILDE,c+4,baIdMACRON,c+4,baIdBREVE,c+4,baIdOGONEK,c+4,baIdog,caDOTLESS I,bLIGATURE IJ,c+2
  baJdj,c+4,baKdCEDILLA,c+4,3KRA,1baLds,c+4,baLdCEDILLA,c+4,baLdCARON,c+4,baLdMIDDLEo,c+5,baLdq,c+4
  baNds,c+4,baNdCEDILLA,c+4,baNdCARON,c+4,4PRECEDED BY APOSTROPHE,1baENG,c+2,baOdMACRON,c+4
  baOdBREVE,c+4,baOdvs,c+5,bLIGATURE OE,c+2,baRds,c+4,baRdCEDILLA,c+4,baRdCARON,c+4,baSds,c+4,baSdj
  c+4,baSdCEDILLA,c+4,baSdCARON,c+4,baTdCEDILLA,c+4,baTdCARON,c+4,baTdq,c+4,baUdTILDE,c+4,baUdMACRON
  c+4,baUdBREVE,c+4,baUdRINGg,c+5,baUdvs,c+5,baUdOGONEK,c+4,baWdj,c+4,baY+2,c+4,baYdn,3Zds,1c+4
  baZdog,c+5,baZdCARON,c+4,3LONG S,Bdq,1baBdw,5TOPBAR,1c+4,baTONE SIX,c+3,baOPEN O,3Cdw,1c+4
  baAFRICAN D,3Ddw,5TOPBAR,1c+4,3TURNED DELTA,1baxE,3SCHWA,OPEN E,Fdw,1c+4,baG+2,3GAMMA,1caHV,baIOTA
  3Idq,Kdw,1c+4,3LdBAR,LAMBDAdq,1baTURNED M,3NdLEFTw,1caNdLONG RIGHT LEG,baOdMIDDLE TILDE,5HORN,1c+4
  baOI,c+2,baPdw,c+4,aYR,baTONEy,c+3,baESH,axESH LOOP,caTdPALATALw,baTd+1,c+4,baTdRETROFLEX+1
  3UdHORN,1c+4,baUPSILON,3Vdw,Y+2,1c+4,baZdq,c+4,baEZH,4x,1c+3,4dTAIL,1aydq,baTONE FIVE,c+3
  arGLOTTAL STOPdq,2WYNN,DENTAL CLICK,LATERAL+1,ALVEOLAR+1,RETROFLEX+1,1baDZdCARON,3DdcaZ+2,1caDZ+2
  baLJ,3LdcaJ,1caLJ,baNJ,3NdcaJ,1caNJ,baAdCARON,c+4,baI+2,c+4,baO+2,c+4,baU+2,c+4,baUdniMACRON,c+6
  baUdnis,c+6,baUdniCARON,c+6,baUdniz,c+6,3TURNED E,1baAdniMACRON,c+6,baAdog+2,c+7,baAEd+1,c+4,baGdq
  c+4,baGdCARON,c+4,baK+2,c+4,baOdOGONEK,c+4,baOdOGONEKiMACRON,c+6,baEZHdCARON,c+4,3J+2,1baDZ,3DdcaZ
  1caDZ,baGds,c+4,baHWAIR,3WYNN,Ndz,1c+4,baAdRINGgis,c+7,baAEd+1,c+4,baOdqi+1,c+6,baAdvz,c+5
  baAdrBREVE,c+5,baEdvz,c+5,baEdrBREVE,c+5,baIdvz,c+5,baIdrBREVE,c+5,baOdvz,c+5,baOdrBREVE,c+5
  baRdvz,c+5,baRdrBREVE,c+5,baUdvz,c+5,baUdrBREVE,c+5,baSdCOMMAh,c+5,baT+3,c+5,baYOGH,c+2,baHdCARON
  c+4,baNdLONG RIGHT LEG,caDdCURL,baOU,c+2,baZdw,c+4,baAdog,c+5,baEdCEDILLA,c+4,baOdniMACRON,c+6
  baOdTILDE+2,c+6,baOdog,c+5,baOdogiMACRON,c+7,baYd+1,c+4,3LdCURL,N+2,T+2,DOTLESS J,DB DIGRAPH,QP+1
  1baAdq,3C+2,1c+4,baLdBAR,3TdDIAGONALq,1caSdSWASH TAIL,3Z+3,1baGLOTTAL STOP,c+3,baBdq,3U BAR
  TURNED V,Edq,1c+4,baJ+2,c+4,bacQdwTAIL,ca+4,baRdq,c+4,baY+2,c+4,3TURNED A,ALPHA,TURNED+1,Bdw
  OPEN O,CdCURL,DdTAIL,5w,3xE,SCHWA,4dw,3OPEN E,x+2,6dw,3CLOSEDxOPEN E,DOTLESS Jdq,Gdw,SCRIPT G
  1acbG,caGAMMA,3RAMS HORN,TURNED H,Hdw,HENG+2,Idq,IOTA,1acbI,caLdMIDDLE TILDE,5BELT,RETROFLEXw
  3LEZH,TURNED M,5dLONG LEG,3Mdw,NdLEFT+1,5RETROFLEX+1,1acbN,caBARRED O,acbOE,caCLOSED OMEGA,3PHI
  TURNED R,5dLONG LEG,6w,3RdLONG LEG,5TAIL,FISHHOOK,3x+3,1acbR,4rR,1caSdw,3ESH,DOTLESS Jdqiw
  SQUATxESH,ESHdCURL,TURNED T,TdRETROFLEXw,U BAR,UPSILON,Vdw,TURNED V,4W,Y,1acbY,caZdRETROFLEXw
  5CURL,3EZH,4dCURL,1aGLOTTAL STOP,2PHARYNGEAL VOICED FRICATIVE,rGLOTTAL STOP,STRETCHED C
  BILABIAL CLICK,cbB,1caCLOSED OPEN E,acbGdw,4H,1caJdCROSSED-TAIL,3TURNED K,1acbL,caQdw
  aGLOTTAL STOPdq,2x+4,1caDZ DIGRAPH,3DEZH+1,DZ DIGRAPHdCURL,TS DIGRAPH,TESH+1,TC DIGRAPHdCURL
  FENG DIGRAPH,LS+1,LZ+1,1aBILABIAL PERCUSSIVE,2BIDENTAL+1,1caTURNED HdFISHHOOK,7iTAIL,0MODIFIERacH
  4dw,3J,R,TURNED R,5dw,3brR,W,Y,2PRIME,v+1,TURNED COMMA,APOSTROPHE,xCOMMA,RIGHT HALF RING,LEFT+2
  GLOTTAL STOP,x+2,LEFT ARROWHEAD,RIGHT+1,UP+1,DOWN+1,jACCENT,0CARON,MODIFIERaVERTICAL LINE,2MACRON
  sACCENT,z+1,LOW VERTICAL LINE,3MACRON,zACCENT,s+1,2TRIANGULAR COLON,HALF+2,CENTRED RIGHT HALF RING
  3LEFT+2,2UP TACK,DOWN+1,PLUSf,MINUS+1,0BREVE,og,RING+1,OGONEK,cTILDE,vsACCENT,MODIFIERaRHOTICw
  2CROSS ACCENT,cGAMMA,3L,S,X,xGLOTTAL STOP,2EXTRA-HIGH TONE BAR,HIGH+2,MID+2,LOW+2,EXTRA-LOW+2
  YIN DEPARTING TONE MARK,YANG+3,VOICING,UNASPIRATED,vAPOSTROPHE,LOW DOWN ARROWHEAD,3UP+1,LEFT+1
  RIGHT+1,RING,2MIDDLEzACCENT,3v+2,4s+1,2LOW TILDE,RAISED COLON,BEGIN HIGH TONE,END+2,BEGIN LOW+1
  END+2,SHELF,OPEN+1,LOW LEFT ARROW,0COMBININGzACCENT,1s+1,j+1,TILDE,MACRON,OVERLINE,BREVE,og,n,wg
  RING+1,vsACCENT,CARON,VERTICAL LINEg,v+3,2zACCENT,1CANDRABINDU,rBREVE,TURNED COMMAg,COMMA+1,x+2
  COMMAgRIGHT,zACCENTh,s+2,LEFT TACK+1,RIGHT+2,LEFT ANGLEg,HORN,LEFT HALF RINGh,UP TACK+1,DOWN+2
  PLUSf+1,MINUS+2,PALATALIZEDw+1,RETROFLEX+2,o+1,n+1,RING+1,COMMA+1,CEDILLA,OGONEK,VERTICAL LINEh
  BRIDGE+1,rvARCH+1,CARON+1,jACCENT+1,BREVE+1,r+2,TILDE+1,MACRON+1,LOW LINE,v+2,TILDE OVERLAY
  SHORTq+1,LONG+2,SHORT SOLIDUS+1,LONG+2,RIGHT HALF RINGh,rBRIDGE+1,SQUARE+1,SEAGULL+1,Xg
  VERTICAL TILDE,vOVERLINE,zTONE MARK,s+2,GREEKt,2KORONIS,DIALYTIKA TONOS,YPOGEGRAMMENI,1BRIDGEg
  EQUALSfh,vVERTICAL LINE+1,LEFT ANGLE+1,NOT TILDEg,HOMOTHETIC+1,ALMOST EQUAL TO+1,LEFT RIGHT ARROWh
  UPWARDS+2,GRAPHEME JOINER,RIGHT ARROWHEADg,LEFT HALF RING+1,FERMATA,Xh,LEFT ARROWHEAD+1,RIGHT+2
  3iUP ARROWHEAD+1,2HALF RINGg,1ogRIGHT,ASTERISKh,vRING+1,ZIGZAGg,vBREVEh,2BREVE,MACRON,3h,2TILDE
  rBREVE,RIGHTWARDS ARROWh,1LATINcaA,4E,I,O,U,C,D,H,M,R,T,V,X,0GREEKbaHETA,1c+2,baARCHAIC SAMPI,c+3
  NUMERALf,LOWER+2,baPAMPHYLIAN DIGAMMA,c+3,=37A,YPOGEGRAMMENI,cxLUNATE SIGMA SYMBOL,2DOTTED+3,x+4
  1QUESTION MARK,baYOT,=384,TONOS,DIALYTIKA+1,baALPHAd+1,ANO TELEIA,baEPSILONdTONOS,3ETA+2,IOTA+2
  =38C,OMICRON+2,=38E,UPSILON+2,OMEGA+2,1caIOTAdDIALYTIKAi+1,baALPHA,3BETA,GAMMA,DELTA,EPSILON,ZETA
  ETA,THETA,IOTA,KAPPA,LAMDA,MU,NU,XI,OMICRON,PI,RHO,=3A3,SIGMA,TAU,UPSILON,PHI,CHI,PSI,OMEGA
  IOTAdDIALYTIKA,UPSILON+2,1caALPHAdTONOS,3EPSILON+2,ETA+2,IOTA+2,UPSILONdDIALYTIKAi+1,ALPHA,BETA
  GAMMA,DELTA,EPSILON,ZETA,ETA,THETA,IOTA,KAPPA,LAMDA,MU,NU,XI,OMICRON,PI,RHO,FINAL SIGMA,SIGMA,TAU
  UPSILON,PHI,CHI,PSI,OMEGA,IOTAdDIALYTIKA,UPSILON+2,OMICRONdTONOS,UPSILON+2,OMEGA+2,1bKAI SYMBOL
  BETA+1,THETA+1,UPSILONdw+1,3si+2,n+3,1PHI+1,PI+1,KAI+1,aARCHAIC KOPPA,c+3,aSTIGMA,c+2,aDIGAMMA,c+2
  aKOPPA,c+2,aSAMPI,c+2,0COPTICbaSHEI,1c+2,baFEI,c+2,baKHEI,c+2,baHORI,c+2,baGANGIA,c+2,baSHIMA,c+2
  baDEI,c+2,0GREEK KAPPA SYMBOL,1RHO+1,LUNATE SIGMA+1,aYOT,bTHETA SYMBOL,LUNATE EPSILON+1,x+3,baSHO
  c+2,bLUNATE SIGMA SYMBOL,2aSAN,1c+2,RHOdqSYMBOL,bxLUNATE SIGMA+1,2DOTTED+3,x+4,0CYRILLICbaIEdz,3IO
  DJE,GJE,UKRAINIAN IE,DZE,BYELORUSSIAN-UKRAINIAN I,YI,JE,LJE,NJE,TSHE,KJE,Idz,SHORT U,DZHE,A,BE,VE
  GHE,DE,IE,ZHE,ZE,I,SHORT I,KA,EL*3,O,PE,ER,ES,TE,U,EF,HA,TSE,CHE,SHA,SHCHA,HARDf,YERU,SOFTf,E,YU
  YA,1caA,3BE,VE,GHE,DE,IE,ZHE,ZE,I,SHORT I,KA,EL*3,O,PE,ER,ES,TE,U,EF,HA,TSE,CHE,SHA,SHCHA,HARDf
  YERU,SOFTf,E,YU,YA,IEdz,IO,DJE,GJE,UKRAINIAN IE,DZE,BYELORUSSIAN-UKRAINIAN I,YI,JE,LJE,NJE,TSHE
  KJE,Idz,SHORT U,DZHE,1baOMEGA,c+2,baYAT,c+2,baIOTIFIED E,c+3,baLITTLE YUS,c+3,baIOTIFIED+2,c+4
  baBIG+1,c+3,baIOTIFIED+2,c+4,baKSI,c+2,baPSI,c+2,baFITA,c+2,baIZHITSA,c+2,baIZHITSAdvzACCENT,c+6
  baUK,c+2,baROUND OMEGA,c+3,baOMEGAdTITLO,c+4,baOT,c+2,baKOPPA,c+2,THOUSANDSf
  0COMBINING CYRILLIC TITLO,2PALATALIZATION,lPNEUMATA,m+1,POKRYTIE,HUNDRED THOUSANDSf,MILLIONS+1
  0CYRILLICbaSHORT IdTAIL,1c+5,baSEMISOFTf,c+3,baERdTICK,c+4,baGHEdUPTURN,c+4,baGHEdq,c+4
  baGHEdMIDDLEw,c+5,baZHEdDESCENDER,c+4,baZE+2,c+4,baKA+2,c+4,baKAdVERTICALq,c+5,baKAd+1,c+4
  baBASHKIR KA,c+3,baENdDESCENDER,c+4,bLIGATURE EN GHE,c+3,baPEdMIDDLEw,c+5,baABKHASIAN HA,c+3
  baESdDESCENDER,c+4,baTE+2,c+4,baSTRAIGHT U,c+3,baSTRAIGHT Udq,c+5,baHAdDESCENDER,c+4
  bLIGATURE TE TSE,c+3,baCHEdDESCENDER,c+4,baCHEdVERTICALq,c+5,baSHHA,c+2,baABKHASIAN CHE,c+3
  baABKHASIAN CHEdDESCENDER,c+5,aPALOCHKA,baZHEdBREVE,c+4,baKAdw,c+4,baELdTAIL,c+4,baENdw,c+4
  baENdTAIL,c+4,baKHAKASSIAN CHE,c+3,baEMdTAIL,c+4,3PALOCHKA,1baAdBREVE,c+4,baAdn,c+4,bLIGATURE A IE
  c+3,baIEdBREVE,c+4,baSCHWA,c+2,baSCHWAdn,c+4,baZHE+2,c+4,baZE+2,c+4,baABKHASIAN DZE,c+3,baIdMACRON
  c+4,baIdn,c+4,baO+2,c+4,baBARRED O,c+3,baBARRED Odn,c+5,baE+2,c+4,baUdMACRON,c+4,baUdn,c+4,baUdvs
  c+5,baCHEdn,c+4,baGHEdDESCENDER,c+4,baYERUdn,c+4,baGHEdqiw,c+6,baHAd+1,c+4,baHAdq,c+4,baKOMI DE
  c+3,baKOMI DJE,c+3,baKOMI ZJE,c+3,baKOMI DZJE,c+3,baKOMI LJE,c+3,baKOMI NJE,c+3,baKOMI SJE,c+3
  baKOMI TJE,c+3,baxZE,c+3,baELdw,c+4,baLHA,c+2,baRHA,c+2,baYAE,c+2,baQA,c+2,baWE,c+2,baALEUT KA,c+3
  baELdMIDDLEw,c+5,baEN+3,c+5,baPEdDESCENDER,c+4,baSHHA+2,c+4,baENdLEFTw,c+5,baDZZHE,c+2,baDCHE,c+2
  baELdDESCENDER,c+4,=531,0ARMENIANbaAYB,3BEN,GIM,DA,ECH,ZA,EH,ET,TO,ZHE,INI,LIWN,XEH,CA,KEN,HO,JA
  GHAD,CHEH,MEN,YI,NOW,SHA,VO,CHA,PEH,JHEH,RA,SEH,VEW,TIWN,REH,CO,YIWN,PIWR,KEH,OH,FEH,=559
  1MODIFIERaLEFT HALF RING,APOSTROPHE,EMPHASIS MARK,EXCLAMATION+1,COMMA,QUESTION MARK,ABBREVIATION+1
  caTURNED AYB,3AYB,BEN,GIM,DA,ECH,ZA,EH,ET,TO,ZHE,INI,LIWN,XEH,CA,KEN,HO,JA,GHAD,CHEH,MEN,YI,NOW
  SHA,VO,CHA,PEH,JHEH,RA,SEH,VEW,TIWN,REH,CO,YIWN,PIWR,KEH,OH,FEH,2LIGATURE ECH YIWN,aYIdq
  1FULL STOP,HYPHEN,=58D,0RIGHT-FACING ARMENIAN ETERNITYf,LEFT-FACING+3,ARMENIAN DRAM+1,=591
  HEBREW ACCENT ETNAHTA,2SEGOL,SHALSHELET,ZAQEF QATAN,3GADOL,2TIPEHA,REVIA,ZARQA,PASHTA,YETIV,TEVIR
  GERESH,3MUQDAM,2GERSHAYIM,QARNEY PARA,TELISHA GEDOLA,PAZER,ATNAH HAFUKH,MUNAH,MAHAPAKH,MERKHA
  3KEFULA,2DARGA,QADMA,TELISHA QETANA,YERAH BEN YOMO,OLE,ILUY,DEHI,ZINOR,1MARK MASORA CIRCLE
  POINT SHEVA,2HATAF SEGOL,3PATAH,QAMATS,2HIRIQ,TSERE,SEGOL,PATAH,QAMATS,HOLAM,3HASER FOR VAV
  2QUBUTS,DAGESH OR MAPIQ,METEG,1PUNCTUATION MAQAF,POINT RAFE,PUNCTUATION PASEQ,POINT SHINo,2SIN+1
  1PUNCTUATION SOF PASUQ,MARK UPPERo,2LOWER+1,1PUNCTUATION NUN HAFUKHA,POINT QAMATS QATAN,=5D0,aALEF
  2BET,GIMEL,DALET,HE,VAV,ZAYIN,HET,TET,YOD,FINAL KAF,KAF,LAMED,FINAL MEM,MEM,FINAL NUN,NUN,SAMEKH
  AYIN,FINAL PE,PE,FINAL TSADI,TSADI,QOF,RESH,SHIN,TAV,=5EF,1YOD TRIANGLE,LIGATURE YIDDISHvVAV
  3VAV YOD,v+1,1PUNCTUATION GERESH,2GERSHAYIM,=600,0ARABIC NUMBERf,1fSANAH,FOOTNOTE MARKER,fSAFHA
  2SAMVAT,1NUMBER MARKg,0ARABIC-INDIC CUBE ROOT,1FOURTH+1,0ARABIC RAY,ARABIC-INDIC PER MILLEf
  2TEN THOUSAND+1,0AFGHANI+1,ARABIC COMMA,1DATE SEPARATOR,POETIC VERSEf,fMISRA
  2SALLALLAHOU ALAYHE WASSALLAM,ALAYHE ASSALLAM,RAHMATULLAH ALAYHE,RADI ALLAHOU ANHU,TAKHALLUS
  1cHIGH TAH,3LIGATURE ALEFdLAMdYEH,ZAIN,2FATHA,DAMMA,KASRA,1SEMICOLON,aMARK,END OF TEXT+1
  TRIPLEoPUNCTUATION+1,QUESTION+1,aKASHMIRI YEH,2HAMZA,ALEFdMADDAg,4HAMZA+1,2WAW+3,ALEFdHAMZAh
  YEHdHAMZAg,ALEF,BEH,TEH MARBUTA,TEH,THEH,JEEM,HAH,KHAH,DAL,THAL,REH,ZAIN,SEEN,SHEEN,SAD,DAD,TAH
  ZAH,AIN,GHAIN,KEHEHdyug,4kuh,2FARSI YEHdrV,5yug,k+2,1TATWEEL,aFEH,2QAF,KAF,LAM,MEEM,NOON,HEH,WAW
  ALEF MAKSURA,YEH,1FATHATAN,DAMMATAN,KASRATAN,FATHA,DAMMA,KASRA,SHADDA,SUKUN,MADDAHg,HAMZA+1,2h
  1SUBSCRIPT ALEF,rDAMMA,MARK NOON GHUNNA,ZWARAKAY,pfcVg,3r+3,oh,1xDAMMA,FATHAdyu,WAVY HAMZAh
  0ARABIC-INDIC DIGIT ZERO,2ONE,y,k,FOUR,FIVE,SIX,SEVEN,EIGHT,NINE,0ARABIC PERCENTf
  1DECIMAL SEPARATOR,THOUSANDS+1,FIVE POINTED STAR,aDOTLESS BEH,3QAF,2SUPERSCRIPT ALEF,ALEF WASLA
  3dWAVY HAMZAg,6h,2HIGH HAMZA,4ALEF,WAW,2UdHAMZAg,HIGH HAMZA YEH,TTEH,TTEHEH,BEEH,TEHdRING
  4kugDOWNWARDS,2PEH,TEHEH,BEHEH,HAHdHAMZAg,4yuVERTICAL+1,2NYEH,DYEH,HAHdkug,TCHEH,TCHEHEH,DDAL
  DALdRING,4oh,6icTAH,2DAHAL,DDAHAL,DUL,DALdkugDOWNWARDS,4FOURug,2RREH,REHdcV,4RING,oh,cV+1,ohiog
  yu+1,2JEH,REHdFOURug,SEENdohio+1,4kuh,7ikug,2SADdyuh,4kug,2TAH+4,AIN+4,DOTLESS FEH,FEHdoMOVEDh,5h
  2VEH,FEHdkuh,PEHEH,QAFdog,4ku+1,2KEHEH,SWASH KAF,KAFdRING,4og,2NG,KAFdkuh,GAF,3dRING,2NGOEH
  GAFdyuh,GUEH,GAFdkug,LAMdcV,4og,ku+1,6h,2NOONdo+1,3GHUNNA,2RNOON,NOONdRING,4kug,2HEH DOACHASHMEE
  TCHEHdog,HEHdYEH+1,3GOAL,4dHAMZAg,2TEH MARBUTA GOAL,WAWdRING,KIRGHIZ OE,OE,U,YU,KIRGHIZ+1,WAWdyug
  VE,FARSI YEH,YEHdTAIL,4cV,2WAWdog,E,YEHdkuh,3BARREE,4dHAMZAg,1FULL STOP,aAE
  cHIGH LIGATURE SADdLAMdALEF MAKSURA,4QAF+5,3MEEM INITIAL FORM,LAM ALEF,JEEM,ku,SEEN,1END OF AYAH
  START OF RUB EL HIZB,cHIGH ROUNDED ZERO,3UPRIGHT RECTANGULAR+1,DOTLESS HEAD OF KHAH
  MEEM ISOLATED FORM,2LOW SEEN,HIGH MADDA,WAW,YEH,HIGH+1,3NOON,1PLACE OF SAJDAH
  EMPTY CENTRE LOW STOP,3HIGH+1,1ROUNDED HIGH STOPdFILLED CENTRE,cLOW MEEM,aDALdrV,2REH+3
  0EXTENDED ARABIC-INDIC DIGIT ZERO,3ONE,y,k,FOUR,FIVE,SIX,SEVEN,EIGHT,NINE,0ARABICaSHEENdoh,2DAD+3
  GHAIN+3,1fSINDHI AMPERSAND,3POSTPOSITION MEN,1aHEHdrV,0SYRIAC END OF PARAGRAPH
  1SUPRALINEAR FULL STOP,SUBLINEAR+2,SUPRALINEAR COLON,SUBLINEAR+1,HORIZONTAL+1,COLON SKEWED LEFT
  3RIGHT,1SUPRALINEAR COLON SKEWED LEFT,SUBLINEAR COLON SKEWED RIGHT,CONTRACTION,HARKLEAN OBELUS
  2METOBELUS,ASTERISCUS,=70F,1ABBREVIATION MARK,aALAPH,2SUPERSCRIPT+1,BETH,GAMAL,3GARSHUNI,2DALATH
  DOTLESS DALATH RISH,HE,WAW,ZAIN,HETH,TETH,3GARSHUNI,2YUDH,3HE,2KAPH,LAMADH,MIM,NUN,SEMKATH,FINAL+1
  E,PE,x+1,SADHE,QAPH,RISH,SHIN,TAW,PERSIAN BHETH,3GHAMAL,DHALATH,1PTHAHAg,2h,DOTTED,1ZQAPHAg,2h
  DOTTED,1RBASAg,2h,1DOTTED ZLAMA HORIZONTAL,3ANGULAR,1HBASAg,2h,1HBASA-ESASA DOTTED,ESASAg,2h
  1RWAHA,FEMININEo,QUSHSHAYA,RUKKAKHA,yVERTICALug,4h,1kug,3h,1OBLIQUE LINEg,3h,1MUSIC,BARREKH,=74D
  aSOGDIAN ZHAIN,3KHAPH,FE,0ARABICaBEHdkuHORIZONTALLYh,4ohikug,kuPOINTING UPWARDSh,9iyug,4yuhio+1
  rcVh,cV,2HAHdyug,4kuPOINTING UPWARDSh,2DALdyuVERTICALLYhicTAH,4rcVh,2REHdq,SEENdFOURug,AINdy+2
  4kuPOINTING DOWNWARDS+1,yuVERTICALLY+1,2FEHdyuh,4kuPOINTING UPWARDS+1,2KEHEHdog,4ku+1
  6POINTING UPWARDSh,2MEEMdog,5h,2NOONdyu+1,4cTAH,5V,2LAMdBAR,REHdyuVERTICALLYg,4HAMZA+1
  2SEENdyuVERTICALLY+1,HAHdcARABICaTAHh,8iyu,2SEEN+8,REH+8,HAHdcARABICaTAHg
  ALEFdEXTENDED ARABIC-INDIC DIGITy+1,7k+1,2FARSI YEHdEXTENDED ARABIC-INDIC DIGITy+1,8k+1,FOURh
  2WAWdEXTENDED ARABIC-INDIC DIGITyg,7k+1,2YEH BARREEdEXTENDED ARABIC-INDIC DIGITy+1,8k+1
  2HAHdEXTENDED ARABIC-INDIC DIGIT FOURh,SEENdEXTENDED ARABIC-INDIC DIGIT FOURg,4rV,2KAFdyug
  0THAANAaHAA,2SHAVIYANI,NOONU,RAA,BAA,LHAVIYANI,KAAFU,ALIFU,VAAVU,MEEMU,FAAFU,DHAALU,THAA,LAAMU
  GAAFU,GNAVIYANI,SEENU,DAVIYANI,ZAVIYANI,TAVIYANI,YAA,PAVIYANI,JAVIYANI,CHAVIYANI,TTAA,HHAA,KHAA
  THAALU,ZAA,SHEENU,SAADHU,DAADHU,TO,ZO,AINU,GHAINU,QAAFU,WAAVU,1ABAFILI,AABAAFILI,IBIFILI,EEBEEFILI
  UBUFILI,OOBOOFILI,EBEFILI,EYBEYFILI,OBOFILI,OABOAFILI,SUKUN,aNAA,=7C0,0NKO DIGIT ZERO,2ONE,y,k
  FOUR,FIVE,SIX,SEVEN,EIGHT,NINE,1aA,2EE,I,E,U,OO,O,DAGBASINNA,N,BA,PA,TA,JA,CHA,DA,RA,RRA,SA,GBA,FA
  KA,LA,NA WOLOSO,MA,NYA,NA,HA,WA,YA,NYA WOLOSO,JONA JA,3CHA,RA,1COMBINING SHORT HIGH TONE,3LOW+1
  RISING+1,2LONG DESCENDING+1,3HIGH+1,LOW+1,RISING+1,2NASALIZATION MARK,vog,1HIGH TONE APOSTROPHE
  LOW+2,SYMBOL OO DENNEN,2GBAKURUNEN,1COMMA,EXCLAMATION MARK,LAJANYALAN,=7FD,DANTAYALAN,DOROMEf
  TAMAN+1,0SAMARITANaALAF,2BIT,GAMAN,DALAT,IY,BAA,ZEN,IT,TIT,YUT,KAAF,LABAT,MIM,NUN,SINGAAT,IN,FI
  TSAADIY,QUF,RISH,SHAN,TAAF,1MARK IN,2IN-ALAF,OCCLUSION,DAGESH,1MODIFIERaEPENTHETIC YUT,MARK+2
  pfLONG E,3E,OVERLONG AA,LONG+1,AA,OVERLONG A,LONG A,A,1MODIFIERaSHORT A,pf+2,3LONG U,U,1MODIFIERaI
  pfLONG I,3I,O,SUKUN,1MARK NEQUDAA,=830,PUNCTUATION+1,2AFSAAQ,ANGED,BAU,ATMAAU,SHIYYAALAA
  1ABBREVIATION MARK,PUNCTUATION MELODIC QITSA,2ZIQAA,QITSA,ZAEF,TURU,ARKAANU,SOF MASHFAAT,ANNAAU
  =840,0MANDAICaHALQA,2AB,AG,AD,AH,USHENNA,AZ,IT,ATT,AKSA,AK*4,AS,IN,AP,ASZ,AQ,AR,ASH,AT,DUSHENNA
  KAD,AIN,1AFFRICATION MARK,VOCALIZATION+1,GEMINATION+1,=85E,PUNCTUATION,=860,0SYRIACaMALAYALAM NGA
  3JA,NYA,TTA,NNA,NNNA,BHA,RA,LLA,LLLA,SSA,=870,0ARABICaALEFdATTACHED FATHA,5TOP RIGHT+1
  4RIGHT MIDDLEq,LEFT+2,ATTACHED KASRA,5BOTTOM RIGHT+1,ROUNDog,RIGHT ROUNDo,LEFT+2,ROUNDoh,4og
  ATTACHED TOP RIGHT FATHAi+2,RIGHT MIDDLEq+3,ATTACHED BOTTOM RIGHT KASRA+3
  5TOP RIGHT FATHAiLEFT RING,4RIGHT MIDDLEq+3,ATTACHED BOTTOM RIGHT KASRA+3,5RIGHT HAMZA,LEFT+1
  1TATWEELdOVERSTRUCK+1,4WAW,3yuh,1aTHIN YEH,BASELINE ROUNDo,RAISED+2,aNOONdrcV,2HAHdrcVh,TAHdo+1
  4ku+1,2KEHEHdyuVERTICALLY+1,1VERTICAL TAIL,=890,POUND MARKg,PIASTRE+2,=898,cHIGH WORD AL-JUZ
  2LOW WORD ISHMAAM,4IMAALA,TASHEEL,1MADDA WAAJIB,SUPERSCRIPT ALEF MOKHASSAS,DOUBLED MADDA
  HALF MADDA OVER+1,aBEHdcVh,4HAMZAg,2JEEMdyu+1,TAH+4,FEHdohik+2,QAFdoh,LAMdvBAR,MEEMdkug
  YEHdyuhiHAMZA+1,8o+1,2REHdLOOP,WAWdoWITHIN,ROHINGYA YEH,LOW ALEF,DALdkuh,SAD+4,GAFdrq,STRAIGHT WAW
  ZAINdrVg,AINdkuh,KAFdo+1,QAFdohiNOug,BEHdcMEEM+1,PEH+4,TEHdcTEH+1,REHdcNOON+1,YEHdyuhi+3
  AFRICAN FEH,3QAF,NOON,2PEHdcV,TEH+3,TTEH+3,TCHEH+3,KEHEH+3,GHAINdkug,AFRICAN QAF+4,JEEM+4,6h
  2LAMdcARABICaTAHg,GRAF,1cFARSI YEH,2HIGH+2,3YEH BARREEdyuh,WORD SAH,ZAH,1LARGE ROUNDog,4h,1SUKUN+1
  LARGE CIRCLE+1,2ROUNDoINSIDE+2,1cLOW WAW,2HIGH WORD AR-RUB,3SAD,AIN,QAF,NOONdKASRA,2LOW+3
  HIGH WORD ATH-THALATHA,4AS-SAJDA,AN-NISF,SAKTA,QIF,WAQFA,3FOOTNOTE MARKER,fSAFHA
  1DISPUTED END OF AYAH,TURNED DAMMAh,CURLY FATHA,2DAMMA,KASRA,FATHATAN,DAMMATAN,KASRATAN
  1TONE ONEog,2yu+1,LOOP+1,ONEoh,yu+1,LOOP+1,1OPEN FATHATAN,2DAMMATAN,KASRATAN,1cHIGH WAW,FATHAdRING
  3og,1KASRAdoh,LEFT ARROWHEADg,RIGHT+2,LEFT ARROWHEADh,RIGHT+2,vRIGHT ARROWHEADg,5do,1RIGHT+4
  DAMMA+2,MARK SIDEWAYS NOON GHUNNA,0DEVANAGARIfrCANDRABINDU,2CANDRABINDU,ANUSVARA,VISARGA,1aSHORT A
  2A,AA,I,II,U,UU,VOCALIC R,3L,2CANDRA E,SHORT E,E,AI,CANDRA O,SHORT O,O,AU,KA,KHA,GA,GHA,NGA,CA,CHA
  JA,JHA,NYA,TTA,TTHA,DDA,DDHA,NNA,TA,THA,DA,DHA,NA,NNNA,PA,PHA,BA,BHA,MA,YA,RA,RRA,LA,LLA,LLLA,VA
  SHA,SSA,SA,HA,1pfOE,3OOE,1fNUKTA,2AVAGRAHA,1pfAA,3I,II,U,UU,VOCALIC R,4RR,3CANDRA E,SHORT E,E,AI
  CANDRA O,SHORT O,O,AU,1fVIRAMA,pfPRISHTHAMATRA E,3AW,1OM,STRESSfUDATTA,3ANUDATTA,1zACCENT,s+1
  pfCANDRA LONG E,3UE,UUE,1aQA,2KHHA,GHHA,ZA,DDDHA,RHA,FA,YYA,VOCALIC RR,3LL,1pfVOCALIC L,4LL,1DANDA
  v+1,DIGIT ZERO,2ONE,y,k,FOUR,FIVE,SIX,SEVEN,EIGHT,NINE,1ABBREVIATIONf,fHIGH SPACINGo,aCANDRA A,2OE
  OOE,AW,UE,UUE,MARWARI DDA,ZHA,HEAVY YA,GGA,JJA,GLOTTAL STOP,DDDA,BBA,0BENGALI ANJI,1fCANDRABINDU
  2ANUSVARA,VISARGA,=985,1aA,2AA,I,II,U,UU,VOCALIC R,3L,=98F,2E,AI,=993,O,AU,KA,KHA,GA,GHA,NGA,CA
  CHA,JA,JHA,NYA,TTA,TTHA,DDA,DDHA,NNA,TA,THA,DA,DHA,NA,=9AA,PA,PHA,BA,BHA,MA,YA,RA,=9B2,LA,=9B6,SHA
  SSA,SA,HA,=9BC,1fNUKTA,2AVAGRAHA,1pfAA,3I,II,U,UU,VOCALIC R,4RR,=9C7,3E,AI,=9CB,O,AU,1fVIRAMA
  aKHANDA TA,=9D7,AU LENGTH MARK,=9DC,aRRA,2RHA,=9DF,YYA,VOCALIC RR,3LL,1pfVOCALIC L,4LL,=9E6
  1DIGIT ZERO,2ONE,y,k,FOUR,FIVE,SIX,SEVEN,EIGHT,NINE,1aRAdMIDDLE DIAGONAL,4LOWER+1,1RUPEE MARK,2f
  1CURRENCY NUMERATOR ONE,3y,k,FOUR,ONE LESS THAN THE DENOMINATOR,2DENOMINATOR SIXTEEN,1ISSHAR
  GANDA MARK,aVEDIC ANUSVARA,ABBREVIATIONf,SANDHI MARK,=A01,0GURMUKHIfADAK BINDI,2BINDI,VISARGA,=A05
  1aA,2AA,I,II,U,UU,=A0F,EE,AI,=A13,OO,AU,KA,KHA,GA,GHA,NGA,CA,CHA,JA,JHA,NYA,TTA,TTHA,DDA,DDHA,NNA
  TA,THA,DA,DHA,NA,=A2A,PA,PHA,BA,BHA,MA,YA,RA,=A32,LA,LLA,=A35,VA,SHA,=A38,SA,HA,=A3C,1fNUKTA,=A3E
  pfAA,3I,II,U,UU,=A47,EE,AI,=A4B,OO,AU,1fVIRAMA,=A51,2UDAAT,=A59,1aKHHA,2GHHA,ZA,RRA,=A5E,FA,=A66
  1DIGIT ZERO,2ONE,y,k,FOUR,FIVE,SIX,SEVEN,EIGHT,NINE,1TIPPI,ADDAK,IRI,URA,EK ONKAR,fYAKASH
  ABBREVIATIONf,=A81,0GUJARATIfCANDRABINDU,2ANUSVARA,VISARGA,=A85,1aA,2AA,I,II,U,UU,VOCALIC R,3L
  1pCANDRA E,=A8F,aE,2AI,1pCANDRA O,=A93,aO,2AU,KA,KHA,GA,GHA,NGA,CA,CHA,JA,JHA,NYA,TTA,TTHA,DDA
  DDHA,NNA,TA,THA,DA,DHA,NA,=AAA,PA,PHA,BA,BHA,MA,YA,RA,=AB2,LA,LLA,=AB5,VA,SHA,SSA,SA,HA,=ABC
  1fNUKTA,2AVAGRAHA,1pfAA,3I,II,U,UU,VOCALIC R,4RR,3CANDRA E,=AC7,E,AI,CANDRA O,=ACB,O,AU,1fVIRAMA
  =AD0,OM,=AE0,aVOCALIC RR,3LL,1pfVOCALIC L,4LL,=AE6,1DIGIT ZERO,2ONE,y,k,FOUR,FIVE,SIX,SEVEN,EIGHT
  NINE,1ABBREVIATIONf,RUPEE+1,=AF9,aZHA,fSUKUN,2SHADDA,MADDAH,THREE-DOT NUKTAg,CIRCLE+2,TWO-CIRCLE+2
  =B01,0ORIYAfCANDRABINDU,2ANUSVARA,VISARGA,=B05,1aA,2AA,I,II,U,UU,VOCALIC R,3L,=B0F,2E,AI,=B13,O,AU
  KA,KHA,GA,GHA,NGA,CA,CHA,JA,JHA,NYA,TTA,TTHA,DDA,DDHA,NNA,TA,THA,DA,DHA,NA,=B2A,PA,PHA,BA,BHA,MA
  YA,RA,=B32,LA,LLA,=B35,VA,SHA,SSA,SA,HA,=B3C,1fNUKTA,2AVAGRAHA,1pfAA,3I,II,U,UU,VOCALIC R,4RR,=B47
  3E,AI,=B4B,O,AU,1fVIRAMA,=B55,2OVERLINE,1AI LENGTH MARK,AU+2,=B5C,aRRA,2RHA,=B5F,YYA,VOCALIC RR
  3LL,1pfVOCALIC L,4LL,=B66,1DIGIT ZERO,2ONE,y,k,FOUR,FIVE,SIX,SEVEN,EIGHT,NINE,1ISSHAR,aWA
  FRACTION ONE QUARTER,3HALF,2kQUARTERS,ONE SIXTEENTH,3EIGHTH,2kSIXTEENTHS,=B82,0TAMILfANUSVARA
  2VISARGA,=B85,1aA,2AA,I,II,U,UU,=B8E,E,EE,AI,=B92,O,OO,AU,KA,=B99,NGA,CA,=B9C,JA,=B9E,NYA,TTA,=BA3
  NNA,TA,=BA8,NA,NNNA,PA,=BAE,MA,YA,RA,RRA,LA,LLA,LLLA,VA,SHA,SSA,SA,HA,=BBE,1pfAA,3I,II,U,UU,=BC6,E
  EE,AI,=BCA,O,OO,AU,1fVIRAMA,=BD0,OM,=BD7,AU LENGTH MARK,=BE6,DIGIT ZERO,2ONE,y,k,FOUR,FIVE,SIX
  SEVEN,EIGHT,NINE,1NUMBER TEN,2ONE HUNDRED,3THOUSAND,1DAYf,MONTH+1,YEAR+1,DEBIT+1,CREDIT+1,ASg+1
  RUPEE+1,NUMBER+1,=C00,0TELUGUfCOMBINING CANDRABINDUg,2CANDRABINDU,ANUSVARA,VISARGA
  COMBINING ANUSVARAg,1aA,2AA,I,II,U,UU,VOCALIC R,3L,=C0E,2E,EE,AI,=C12,O,OO,AU,KA,KHA,GA,GHA,NGA,CA
  CHA,JA,JHA,NYA,TTA,TTHA,DDA,DDHA,NNA,TA,THA,DA,DHA,NA,=C2A,PA,PHA,BA,BHA,MA,YA,RA,RRA,LA,LLA,LLLA
  VA,SHA,SSA,SA,HA,=C3C,1fNUKTA,2AVAGRAHA,1pfAA,3I,II,U,UU,VOCALIC R,4RR,=C46,3E,EE,AI,=C4A,O,OO,AU
  1fVIRAMA,=C55,LENGTH MARK,AI+2,=C58,aTSA,2DZA,RRRA,=C5D,NAKAARA POLLU,=C60,VOCALIC RR,3LL
  1pfVOCALIC L,4LL,=C66,1DIGIT ZERO,2ONE,y,k,FOUR,FIVE,SIX,SEVEN,EIGHT,NINE,=C77,1fSIDDHAM
  FRACTION DIGIT ZERO FOR ODD POWERS OF FOUR,3ONE+5,y+5,k+5,ONE FOR EVEN+3,y+5,k+5,1fTUUMU
  0KANNADAfSPACING CANDRABINDU,2CANDRABINDU,ANUSVARA,VISARGA,SIDDHAM,1aA,2AA,I,II,U,UU,VOCALIC R,3L
  =C8E,2E,EE,AI,=C92,O,OO,AU,KA,KHA,GA,GHA,NGA,CA,CHA,JA,JHA,NYA,TTA,TTHA,DDA,DDHA,NNA,TA,THA,DA,DHA
  NA,=CAA,PA,PHA,BA,BHA,MA,YA,RA,RRA,LA,LLA,=CB5,VA,SHA,SSA,SA,HA,=CBC,1fNUKTA,2AVAGRAHA,1pfAA,3I,II
  U,UU,VOCALIC R,4RR,=CC6,3E,EE,AI,=CCA,O,OO,AU,1fVIRAMA,=CD5,LENGTH MARK,AI+2,=CDD,aNAKAARA POLLU
  2FA,=CE0,VOCALIC RR,3LL,1pfVOCALIC L,4LL,=CE6,1DIGIT ZERO,2ONE,y,k,FOUR,FIVE,SIX,SEVEN,EIGHT,NINE
  =CF1,1fJIHVAMULIYA,2UPADHMANIYA,=D00,0MALAYALAMfCOMBINING ANUSVARAg,2CANDRABINDU,ANUSVARA,VISARGA
  1aVEDIC ANUSVARA,2A,AA,I,II,U,UU,VOCALIC R,3L,=D0E,2E,EE,AI,=D12,O,OO,AU,KA,KHA,GA,GHA,NGA,CA,CHA
  JA,JHA,NYA,TTA,TTHA,DDA,DDHA,NNA,TA,THA,DA,DHA,NA,NNNA,PA,PHA,BA,BHA,MA,YA,RA,RRA,LA,LLA,LLLA,VA
  SHA,SSA,SA,HA,TTTA,1fVERTICAL BAR VIRAMA,2CIRCULAR+1,AVAGRAHA,1pfAA,3I,II,U,UU,VOCALIC R,4RR,=D46
  3E,EE,AI,=D4A,O,OO,AU,1fVIRAMA,aoREPH,fPARA,=D54,aCHILLU M,3Y,LLL,1AU LENGTH MARK
  FRACTION ONE ONE-HUNDRED-AND-SIXTIETH,3FORTIETH,2kEIGHTIETHS,ONE TWENTIETH,3TENTH,2kTWENTIETHS
  ONE FIFTH,1aARCHAIC II,2VOCALIC RR,3LL,1pfVOCALIC L,4LL,=D66,1DIGIT ZERO,2ONE,y,k,FOUR,FIVE,SIX
  SEVEN,EIGHT,NINE,1NUMBER TEN,2ONE HUNDRED,3THOUSAND,1FRACTION ONE QUARTER,3HALF,2kQUARTERS
  ONE SIXTEENTH,3EIGHTH,2kSIXTEENTHS,1DATE MARK,aCHILLU NN,3N,RR,L,LL,K,=D81,0SINHALAfCANDRABINDU
  2ANUSVARAYA,VISARGAYA,=D85,1aAYANNA,2AAYANNA,AEYANNA,AEEYANNA,IYANNA,IIYANNA,UYANNA,UUYANNA
  IRUYANNA,IRUUYANNA,ILUYANNA,ILUUYANNA,EYANNA,EEYANNA,AIYANNA,OYANNA,OOYANNA,AUYANNA,=D9A
  ALPAPRAANA KAYANNA,MAHAAPRAANA+1,ALPAPRAANA GAYANNA,MAHAAPRAANA+1,KANTAJA NAASIKYAYA
  SANYAKA GAYANNA,ALPAPRAANA CAYANNA,MAHAAPRAANA+1,ALPAPRAANA JAYANNA,MAHAAPRAANA+1
  TAALUJA NAASIKYAYA,3SANYOOGA NAAKSIKYAYA,2SANYAKA JAYANNA,ALPAPRAANA TTAYANNA,MAHAAPRAANA+1
  ALPAPRAANA DDAYANNA,MAHAAPRAANA+1,MUURDHAJA NAYANNA,SANYAKA DDAYANNA,ALPAPRAANA TAYANNA
  MAHAAPRAANA+1,ALPAPRAANA DAYANNA,MAHAAPRAANA+1,DANTAJA NAYANNA,=DB3,SANYAKA DAYANNA
  ALPAPRAANA PAYANNA,MAHAAPRAANA+1,ALPAPRAANA BAYANNA,MAHAAPRAANA+1,MAYANNA,AMBA BAYANNA,YAYANNA
  RAYANNA,=DBD,DANTAJA LAYANNA,=DC0,VAYANNA,TAALUJA SAYANNA,MUURDHAJA+1,DANTAJA+1,HAYANNA
  MUURDHAJA LAYANNA,FAYANNA,=DCA,1fAL-LAKUNA,=DCF,pfAELA-PILLA,3KETTI AEDA-PILLA,DIGA+1
  KETTI IS-PILLA,DIGA+1,KETTI PAA-PILLA,=DD6,DIGA+1,=DD8,GAETTA-PILLA,KOMBUVA,DIGA+1,KOMBU DEKA
  KOMBUVA HAA AELA-PILLA,5DIGA+1,GAYANUKITTA,3GAYANUKITTA,=DE6,1LITH DIGIT ZERO,3ONE,y,k,FOUR,FIVE
  SIX,SEVEN,EIGHT,NINE,=DF2,1pfDIGA GAETTA-PILLA,4GAYANUKITTA,1PUNCTUATION KUNDDALIYA,=E01
  0THAI CHARACTER KO KAI,2KHO KHAI,3KHUAT,KHWAI,KHON,RAKHANG,2NGO NGU,CHO CHAN,3CHING,CHANG,2SO SO
  CHO CHOE,YO YING,DO CHADA,TO PATAK,THO THAN,3NANGMONTHO,PHUTHAO,2NO NEN,DO DEK,TO TAO,THO THUNG
  3THAHAN,THONG,2NO NU,BO BAIMAI,PO PLA,PHO PHUNG,FO FA,PHO PHAN,FO FAN,PHO SAMPHAO,MO MA,YO YAK
  RO RUA,RU,LO LING,LU,WO WAEN,SO SALA,3RUSI,SUA,2HO HIP,LO CHULA,O ANG,HO NOKHUK,PAIYANNOI,SARA A
  MAI HAN-AKAT,SARA AA,3AM,I,II,UE,UEE,U,UU,2PHINTHU,=E3F,1CURRENCY SYMBOL BAHT,CHARACTER SARA E,3AE
  O,AI MAIMUAN,4MAIMALAI,2LAKKHANGYAO,MAIYAMOK,MAITAIKHU,MAI EK,3THO,TRI,CHATTAWA,2THANTHAKHAT
  NIKHAHIT,YAMAKKAN,FONGMAN,1DIGIT ZERO,2ONE,y,k,FOUR,FIVE,SIX,SEVEN,EIGHT,NINE
  1CHARACTER ANGKHANKHU,2KHOMUT,=E81,0LAOaKO,2KHO SUNG,=E84,3TAM,=E86,2PALI GHA,NGO,CO,PALI CHA
  SO TAM,=E8C,PALI JHA,NYO,PALI NYA,3TTA,TTHA,DDA,DDHA,NNA,2DO,TO,THO SUNG,3TAM,2PALI DHA,NO,BO,PO
  PHO SUNG,FO TAM,PHO+1,FO SUNG,PALI BHA,MO,YO,LO LING,=EA5,3LOOT,=EA7,2WO,SANSKRIT SHA,3SSA
  2SO SUNG,HO+1,PALI LLA,O,HO TAM,1ELLIPSIS,pfA,3MAI KAN,AA,AM,I,II,Y,YY,U,UU,1fPALI VIRAMA
  pfMAI KON,SEMIVOWELfLO,3NYO,=EC0,1pfE,3EI,O,AY,AI,=EC6,1KO LA,=EC8,TONE MAI EK,3THO,TI,CATAWA
  1CANCELLATION MARK,NIGGAHITA,=ED0,DIGIT ZERO,2ONE,y,k,FOUR,FIVE,SIX,SEVEN,EIGHT,NINE,=EDC,1HO NO
  2MO,1aKHMU GO,3NYO,=F00,0TIBETAN SYLLABLE OM,1MARK GTER YIG MGO TRUNCATED A,5-UM RNAM BCAD MA
  6GTER TSHEG+1,2INITIAL YIG MGO MDUN+1,CLOSING YIG MGO SGAB+1,CARET YIG MGO PHUR SHAD+1
  YIG MGO TSHEG+2,SBRUL SHAD,BSKUR YIG MGO,BKA- SHOG+2,INTERSYLLABIC TSHEG,DELIMITER TSHEG BSTAR
  SHAD,NYIS+1,TSHEG+1,NYIS+2,RIN CHEN SPUNGS+1,RGYA GRAM+1,CARET -DZUD RTAGS ME LONG CAN,GTER TSHEG
  1LOGOTYPEfCHAD RTAGS,3LHAG+1,1ASTROLOGICALfSGRA GCAN -CHAR+1,3-KHYUD PA,SDONG TSHUGS
  1fRDEL DKAR GCIG,4GNYIS,GSUM,3NAG GCIG,4GNYIS,3DKAR RDEL NAG,1DIGIT ZERO,2ONE,y,k,FOUR,FIVE,SIX
  SEVEN,EIGHT,NINE,HALF ONE,3y,k,FOUR,FIVE,SIX,SEVEN,EIGHT,NINE,ZERO,1MARK BSDUS RTAGS
  2NGAS BZUNG NYI ZLA,CARET -DZUD RTAGS BZHI MIG CAN,NGAS BZUNG SGOR RTAGS,CHE MGO,TSA -PHRU
  GUG RTAGS GYON,4GYAS,2ANG KHANG GYON,4GYAS,1fYAR TSHES,2MAR+1,1aKA,2KHA,GA,GHA,NGA,CA,CHA,JA,=F49
  NYA,TTA,TTHA,DDA,DDHA,NNA,TA,THA,DA,DHA,NA,PA,PHA,BA,BHA,MA,TSA,TSHA,DZA,DZHA,WA,ZHA,ZA,-A,YA,RA
  LA,SHA,SSA,SA,HA,A,KSSA,FIXED-FORM RA,KKA,RRA,=F71,1pfAA,3I,II,U,UU,VOCALIC R,4RR,L,LL,3E,EE,O,OO
  1fRJES SU NGA RO,2RNAM BCAD,1pfxI,4II,1fNYI ZLA NAA DA,2SNA LDAN,1MARK HALANTA,2PALUTA,1fLCI RTAGS
  2YANG+1,LCE TSA CAN,MCHU+1,GRU CAN RGYINGS,3MED+1,2rMCHU CAN,1SUBJOINEDfLCE TSA+1,3MCHU+1,r+2,2aKA
  3KHA,GA,GHA,NGA,CA,CHA,JA,=F99,NYA,TTA,TTHA,DDA,DDHA,NNA,TA,THA,DA,DHA,NA,PA,PHA,BA,BHA,MA,TSA
  TSHA,DZA,DZHA,WA,ZHA,ZA,-A,YA,RA,LA,SHA,SSA,SA,HA,A,KSSA,FIXED-FORM WA,4YA,RA,=FBE,1KU RU KHA
  4BZHI MIG CAN,1CANTILLATIONfHEAVY BEAT,3LIGHT+1,CANG TE-U,SBUB -CHAL,1SYMBOL DRIL BU,2RDO RJE
  PADMA GDAN,RDO RJE RGYA GRAM,PHUR PA,NOR BU,4NYIS -KHYIL,GSUM+1,BZHI+1,=FCE,1fRDEL NAG RDEL DKAR
  4GSUM,1MARK BSKA- SHOG GI MGO RGYAN,2MNYAM YIG+3,NYIS TSHEG,INITIAL BRDA RNYING YIG MGO MDUN MA
  CLOSING BRDA RNYING YIG MGO SGAB+1,0RIGHT-FACING SVASTIf,LEFT-FACING+2,RIGHT-FACING SVASTIfdu
  LEFT-FACING+4,TIBETAN MARK LEADING MCHAN RTAGS,2TRAILING+2,=1000,0MYANMARaKA,2KHA,GA,GHA,NGA,CA
  CHA,JA,JHA,NYA,NNYA,TTA,TTHA,DDA,DDHA,NNA,TA,THA,DA,DHA,NA,PA,PHA,BA,BHA,MA,YA,RA,LA,WA,SA,HA,LLA
  A,SHAN A,I,II,U,UU,E,MON E,O,AU,1pfTALL AA,3AA,I,II,U,UU,E,AI,MON II,4O,3Eg,1fANUSVARA,2oh,VISARGA
  VIRAMA,ASAT,1CONSONANTfMEDIAL YA,4RA,WA,HA,1aGREAT SA,DIGIT ZERO,2ONE,y,k,FOUR,FIVE,SIX,SEVEN
  EIGHT,NINE,1fLITTLE SECTION,2SECTION,1SYMBOL LOCATIVE,2COMPLETED,AFOREMENTIONED,GENITIVE,1aSHA
  2SSA,VOCALIC R,3RR,L,LL,1pfVOCALIC R,4RR,L,LL,1aMON NGA,3JHA,BBA,BBE,1CONSONANTfMON MEDIAL NA,5MA
  LA,1aSGAW KAREN SHA,pfSGAW KAREN EU,TONE MARK SGAW KAREN HATHI,5KE PHO,1aWESTERN PWO KAREN THA
  5PWA,1pfWESTERN PWO KAREN EU,6UE,1fWESTERN PWO KAREN TONE-1*5,aEASTERN PWO KAREN NNA,5YWA,GHWA
  1pfGEBA KAREN I,3KAYAH OE,4U,EE,1aSHAN KA,3KHA,GA,CA,ZA,NYA,DA,NA,PHA,FA,BA,THA,HA
  1CONSONANTfSHAN MEDIAL WA,pfSHAN AA,4E,5g,4FINAL Y,1fSHAN TONE-2,3TONE-3,TONE-5,TONE-6
  COUNCIL TONE-2,4TONE-3,EMPHATIC TONE,1aRUMAI PALAUNG FA,fRUMAI PALAUNG TONE-5,SHAN DIGIT ZERO,3ONE
  y,k,FOUR,FIVE,SIX,SEVEN,EIGHT,NINE,1fKHAMTI TONE-1,3TONE-3,1pfAITON A,4AI,1SYMBOL SHAN ONE
  3EXCLAMATION,0GEORGIANbaAN,3BAN,GAN,DON,EN,VIN,ZEN,TAN,IN,KAN,LAS,MAN,NAR,ON,PAR,ZHAR,RAE,SAN,TAR
  UN,PHAR,KHAR,GHAN,QAR,SHIN,CHIN,CAN,JIL,CIL,CHAR,XAN,JHAN,HAE,HE,HIE,WE,HAR,HOE,=10C7,YN,=10CD,AEN
  =10D0,1aAN,2BAN,GAN,DON,EN,VIN,ZEN,TAN,IN,KAN,LAS,MAN,NAR,ON,PAR,ZHAR,RAE,SAN,TAR,UN,PHAR,KHAR
  GHAN,QAR,SHIN,CHIN,CAN,JIL,CIL,CHAR,XAN,JHAN,HAE,HE,HIE,WE,HAR,HOE,FI,YN,ELIFI,TURNED GAN,AIN
  1PARAGRAPH SEPARATOR,0MODIFIERaGEORGIAN NAR,GEORGIANaAEN,2HARDf,LABIAL+1,0HANGUL CHOSEONG KIYEOK
  2SSANGKIYEOK,NIEUN,TIKEUT,SSANGTIKEUT,RIEUL,MIEUM,PIEUP,SSANGPIEUP,SIOS,SSANGSIOS,IEUNG,CIEUC
  SSANGCIEUC,CHIEUCH,KHIEUKH,THIEUTH,PHIEUPH,HIEUH,NIEUN-KIYEOK,SSANGNIEUN,NIEUN-TIKEUT,NIEUN-PIEUP
  TIKEUT-KIYEOK,RIEUL-NIEUN,SSANGRIEUL,RIEUL-HIEUH,KAPYEOUNRIEUL,MIEUM-PIEUP,KAPYEOUNMIEUM
  PIEUP-KIYEOK,PIEUP-NIEUN,PIEUP-TIKEUT,PIEUP-SIOS,PIEUP-SIOS-KIYEOK,PIEUP-SIOS-TIKEUT
  PIEUP-SIOS-PIEUP,PIEUP-SSANGSIOS,PIEUP-SIOS-CIEUC,PIEUP-CIEUC,PIEUP-CHIEUCH,PIEUP-THIEUTH
  PIEUP-PHIEUPH,KAPYEOUNPIEUP,KAPYEOUNSSANGPIEUP,SIOS-KIYEOK,SIOS-NIEUN,SIOS-TIKEUT,SIOS-RIEUL
  SIOS-MIEUM,SIOS-PIEUP,SIOS-PIEUP-KIYEOK,SIOS-SSANGSIOS,SIOS-IEUNG,SIOS-CIEUC,SIOS-CHIEUCH
  SIOS-KHIEUKH,SIOS-THIEUTH,SIOS-PHIEUPH,SIOS-HIEUH,CHITUEUMSIOS,CHITUEUMSSANGSIOS,CEONGCHIEUMSIOS
  CEONGCHIEUMSSANGSIOS,PANSIOS,IEUNG-KIYEOK,IEUNG-TIKEUT,IEUNG-MIEUM,IEUNG-PIEUP,IEUNG-SIOS
  IEUNG-PANSIOS,SSANGIEUNG,IEUNG-CIEUC,IEUNG-CHIEUCH,IEUNG-THIEUTH,IEUNG-PHIEUPH,YESIEUNG
  CIEUC-IEUNG,CHITUEUMCIEUC,CHITUEUMSSANGCIEUC,CEONGCHIEUMCIEUC,CEONGCHIEUMSSANGCIEUC
  CHIEUCH-KHIEUKH,CHIEUCH-HIEUH,CHITUEUMCHIEUCH,CEONGCHIEUMCHIEUCH,PHIEUPH-PIEUP,KAPYEOUNPHIEUPH
  SSANGHIEUH,YEORINHIEUH,KIYEOK-TIKEUT,NIEUN-SIOS,NIEUN-CIEUC,NIEUN-HIEUH,TIKEUT-RIEUL,FILLER
  1JUNGSEONG+1,2A,AE,YA,YAE,EO,E,YEO,YE,O,WA,WAE,OE,YO,U,WEO,WE,WI,YU,EU,YI,I,A-O,A-U,YA-O,YA-YO
  EO-O,EO-U,EO-EU,YEO-O,YEO-U,O-EO,O-E,O-YE,O-O,O-U,YO-YA,YO-YAE,YO-YEO,YO-O,YO-I,U-A,U-AE,U-EO-EU
  U-YE,U-U,YU-A,YU-EO,YU-E,YU-YEO,YU-YE,YU-U,YU-I,EU-U,EU-EU,YI-U,I-A,I-YA,I-O,I-U,I-EU,I-ARAEA
  ARAEA,ARAEA-EO,ARAEA-U,ARAEA-I,SSANGARAEA,A-EU,YA-U,YEO-YA,O-YA,O-YAE,1JONGSEONG KIYEOK
  2SSANGKIYEOK,KIYEOK-SIOS,NIEUN,NIEUN-CIEUC,NIEUN-HIEUH,TIKEUT,RIEUL,RIEUL-KIYEOK,RIEUL-MIEUM
  RIEUL-PIEUP,RIEUL-SIOS,RIEUL-THIEUTH,RIEUL-PHIEUPH,RIEUL-HIEUH,MIEUM,PIEUP,PIEUP-SIOS,SIOS
  SSANGSIOS,IEUNG,CIEUC,CHIEUCH,KHIEUKH,THIEUTH,PHIEUPH,HIEUH,KIYEOK-RIEUL,KIYEOK-SIOS-KIYEOK
  NIEUN-KIYEOK,NIEUN-TIKEUT,NIEUN-SIOS,NIEUN-PANSIOS,NIEUN-THIEUTH,TIKEUT-KIYEOK,TIKEUT-RIEUL
  RIEUL-KIYEOK-SIOS,RIEUL-NIEUN,RIEUL-TIKEUT,RIEUL-TIKEUT-HIEUH,SSANGRIEUL,RIEUL-MIEUM-KIYEOK
  RIEUL-MIEUM-SIOS,RIEUL-PIEUP-SIOS,RIEUL-PIEUP-HIEUH,RIEUL-KAPYEOUNPIEUP,RIEUL-SSANGSIOS
  RIEUL-PANSIOS,RIEUL-KHIEUKH,RIEUL-YEORINHIEUH,MIEUM-KIYEOK,MIEUM-RIEUL,MIEUM-PIEUP,MIEUM-SIOS
  MIEUM-SSANGSIOS,MIEUM-PANSIOS,MIEUM-CHIEUCH,MIEUM-HIEUH,KAPYEOUNMIEUM,PIEUP-RIEUL,PIEUP-PHIEUPH
  PIEUP-HIEUH,KAPYEOUNPIEUP,SIOS-KIYEOK,SIOS-TIKEUT,SIOS-RIEUL,SIOS-PIEUP,PANSIOS,IEUNG-KIYEOK
  IEUNG-SSANGKIYEOK,SSANGIEUNG,IEUNG-KHIEUKH,YESIEUNG,YESIEUNG-SIOS,YESIEUNG-PANSIOS,PHIEUPH-PIEUP
  KAPYEOUNPHIEUPH,HIEUH-NIEUN,HIEUH-RIEUL,HIEUH-MIEUM,HIEUH-PIEUP,YEORINHIEUH,KIYEOK-NIEUN
  KIYEOK-PIEUP,KIYEOK-CHIEUCH,KIYEOK-KHIEUKH,KIYEOK-HIEUH,SSANGNIEUN,0ETHIOPIC SYLLABLE HA,2HU,HI
  HAA,HEE,HE,HO,HOA,LA,LU,LI,LAA,LEE,LE,LO,LWA,HHA,HHU,HHI,HHAA,HHEE,HHE,HHO,HHWA,MA,MU,MI,MAA,MEE
  ME,MO,MWA,SZA,SZU,SZI,SZAA,SZEE,SZE,SZO,SZWA,RA,RU,RI,RAA,REE,RE,RO,RWA,SA,SU,SI,SAA,SEE,SE,SO,SWA
  SHA,SHU,SHI,SHAA,SHEE,SHE,SHO,SHWA,QA,QU,QI,QAA,QEE,QE,QO,QOA,QWA,=124A,QWI,QWAA,QWEE,QWE,=1250
  QHA,QHU,QHI,QHAA,QHEE,QHE,QHO,=1258,QHWA,=125A,QHWI,QHWAA,QHWEE,QHWE,=1260,BA,BU,BI,BAA,BEE,BE,BO
  BWA,VA,VU,VI,VAA,VEE,VE,VO,VWA,TA,TU,TI,TAA,TEE,TE,TO,TWA,CA,CU,CI,CAA,CEE,CE,CO,CWA,XA,XU,XI,XAA
  XEE,XE,XO,XOA,XWA,=128A,XWI,XWAA,XWEE,XWE,=1290,NA,NU,NI,NAA,NEE,NE,NO,NWA,NYA,NYU,NYI,NYAA,NYEE
  NYE,NYO,NYWA,GLOTTAL A,3U,I,AA,EE,E,O,WA,2KA,KU,KI,KAA,KEE,KE,KO,KOA,KWA,=12B2,KWI,KWAA,KWEE,KWE
  =12B8,KXA,KXU,KXI,KXAA,KXEE,KXE,KXO,=12C0,KXWA,=12C2,KXWI,KXWAA,KXWEE,KXWE,=12C8,WA,WU,WI,WAA,WEE
  WE,WO,WOA,PHARYNGEAL A,3U,I,AA,EE,E,O,=12D8,2ZA,ZU,ZI,ZAA,ZEE,ZE,ZO,ZWA,ZHA,ZHU,ZHI,ZHAA,ZHEE,ZHE
  ZHO,ZHWA,YA,YU,YI,YAA,YEE,YE,YO,YOA,DA,DU,DI,DAA,DEE,DE,DO,DWA,DDA,DDU,DDI,DDAA,DDEE,DDE,DDO,DDWA
  JA,JU,JI,JAA,JEE,JE,JO,JWA,GA,GU,GI,GAA,GEE,GE,GO,GOA,GWA,=1312,GWI,GWAA,GWEE,GWE,=1318,GGA,GGU
  GGI,GGAA,GGEE,GGE,GGO,GGWAA,THA,THU,THI,THAA,THEE,THE,THO,THWA,CHA,CHU,CHI,CHAA,CHEE,CHE,CHO,CHWA
  PHA,PHU,PHI,PHAA,PHEE,PHE,PHO,PHWA,TSA,TSU,TSI,TSAA,TSEE,TSE,TSO,TSWA,TZA,TZU,TZI,TZAA,TZEE,TZE
  TZO,TZOA,FA,FU,FI,FAA,FEE,FE,FO,FWA,PA,PU,PI,PAA,PEE,PE,PO,PWA,RYA,MYA,FYA,=135D
  1COMBINING GEMINATIONipLENGTH MARK,2p+2,GEMINATION+1,1SECTION+1,WORDSPACE,FULL STOP,COMMA
  SEMICOLON,COLON,PREFACE+1,QUESTION MARK,PARAGRAPH SEPARATOR,DIGIT ONE,2y,k,FOUR,FIVE,SIX,SEVEN
  EIGHT,NINE,1NUMBER TEN,2TWENTY,THIRTY,FORTY,FIFTY,SIXTY,SEVENTY,EIGHTY,NINETY,HUNDRED,TEN THOUSAND
  =1380,1SYLLABLE SEBATBEIT MWA,2MWI,MWEE,MWE,SEBATBEIT BWA,BWI,BWEE,BWE,SEBATBEIT FWA,FWI,FWEE,FWE
  SEBATBEIT PWA,PWI,PWEE,PWE,1TONAL MARK YIZET,3DERET,RIKRIK,SHORT+1,DIFAT,KENAT,CHIRET,HIDET
  DERET-HIDET,KURT,=13A0,0CHEROKEEaA,2E,I,O,U,V,GA,KA,GE,GI,GO,GU,GV,HA,HE,HI,HO,HU,HV,LA,LE,LI,LO
  LU,LV,MA,ME,MI,MO,MU,NA,HNA,NAH,NE,NI,NO,NU,NV,QUA,QUE,QUI,QUO,QUU,QUV,SA,S,SE,SI,SO,SU,SV,DA,TA
  DE,TE,DI,TI,DO,DU,DV,DLA,TLA,TLE,TLI,TLO,TLU,TLV,TSA,TSE,TSI,TSO,TSU,TSV,WA,WE,WI,WO,WU,WV,YA,YE
  YI,YO,YU,YV,MV,=13F8,1caYE,3YI,YO,YU,YV,MV,=1400,0CANADIAN SYLLABICS HYPHEN,2E,AAI,I,II,O,OO
  Y-CREE+1,CARRIER EE,3I,2A,AA,WE,e+1,WI,e+1,WII,e+1,WO,e+1,WOO,e+1,NASKAPI+1,WA,e+1,WAA,e+1
  NASKAPI+1,AI,Y-CREE W,GLOTTAL STOP,FINALs,3z,BOTTOM HALF RING,TOP+2,RIGHT+2,RING,vs
  4SHORT VERTICAL STROKES,3MIDDLEo,SHORT HORIZONTALq,PLUS,DOWN TACK,2EN,IN,ON,AN,PE,PAAI,PI,PII,PO
  POO,Y-CREE+1,CARRIER HEE,3HI,2PA,PAA,PWE,e+1,PWI,e+1,PWII,e+1,PWO,e+1,PWOO,e+1,PWA,e+1,PWAA,e+1
  Y-CREE+1,P,eP,CARRIER H,TE,TAAI,TI,TII,TO,TOO,Y-CREE+1,CARRIER DEE,3DI,2TA,TAA,TWE,e+1,TWI,e+1
  TWII,e+1,y,e+1,TWOO,e+1,TWA,e+1,TWAA,e+1,NASKAPI+1,T,TTE,TTI,TTO,TTA,KE,KAAI,KI,KII,KO,KOO
  Y-CREE+1,KA,KAA,KWE,e+1,KWI,e+1,KWII,e+1,KWO,e+1,KWOO,e+1,KWA,e+1,KWAA,e+1,NASKAPI+1,K,KW
  SOUTH-SLAVEY KEH,3KIH,KOH,KAH,2CE,CAAI,CI,CII,CO,COO,Y-CREE+1,CA,CAA,CWE,e+1,CWI,e+1,CWII,e+1,CWO
  e+1,CWOO,e+1,CWA,e+1,CWAA,e+1,NASKAPI+1,C,SAYISI TH,ME,MAAI,MI,MII,MO,MOO,Y-CREE+1,MA,MAA,MWE,e+1
  MWI,e+1,MWII,e+1,MWO,e+1,MWOO,e+1,MWA,e+1,MWAA,e+1,NASKAPI+1,M,eM,MH,ATHAPASCAN M,SAYISI M,NE,NAAI
  NI,NII,NO,NOO,Y-CREE+1,NA,NAA,NWE,e+1,NWA,e+1,NWAA,e+1,NASKAPI+1,N,CARRIER NG,NH,LE,LAAI,LI,LII,LO
  LOO,Y-CREE+1,LA,LAA,LWE,e+1,LWI,e+1,LWII,e+1,LWO,e+1,LWOO,e+1,LWA,e+1,LWAA,e+1,L,eL,MEDIAL L,SE
  SAAI,SI,SII,SO,SOO,Y-CREE+1,SA,SAA,SWE,e+1,SWI,e+1,SWII,e+1,SWO,e+1,SWOO,e+1,SWA,e+1,SWAA,e+1
  NASKAPI+1,S,ATHAPASCAN S,SW,BLACKFOOT S,MOOSE-CREE SK,NASKAPI SKW,3S-W,SPWA,STWA,SKWA,SCWA,2SHE
  SHI,SHII,SHO,SHOO,SHA,SHAA,SHWE,e+1,SHWI,e+1,SHWII,e+1,SHWO,e+1,SHWOO,e+1,SHWA,e+1,SHWAA,e+1,SH,YE
  YAAI,YI,YII,YO,YOO,Y-CREE+1,YA,YAA,YWE,e+1,YWI,e+1,YWII,e+1,YWO,e+1,YWOO,e+1,YWA,e+1,YWAA,e+1
  NASKAPI+1,Y,BIBLE-CREE Y,eY,SAYISI YI,RE,R-CREE+1,eLE,RAAI,RI,RII,RO,ROO,eLO,RA,RAA,eLA,RWAA,e+1,R
  eR,MEDIAL R,FE,FAAI,FI,FII,FO,FOO,FA,FAA,FWAA,e+1,F,THE,N-CREE+1,THI,N-CREE+1,THII,N-CREE+1,THO
  THOO,THA,THAA,THWAA,e+1,TH,TTHE,TTHI,TTHO,TTHA,TTH,TYE,TYI,TYO,TYA,NUNAVIK HE,3HI,HII,HO,HOO,HA
  HAA,H,2NUNAVUT H,HK,QAAI,QI,QII,QO,QOO,QA,QAA,Q,TLHE,TLHI,TLHO,TLHA,eRE,3RI,RO,RA,2NGAAI,NGI,NGII
  NGO,NGOO,NGA,NGAA,NG,NNG,SAYISI SHE,3SHI,SHO,SHA,2WOODS-CREE THE,3THI,THO,THA,TH,2LHI,LHII,LHO
  LHOO,LHA,LHAA,LH,TH-CREE THE,3THI,THII,THO,THOO,THA,THAA,TH,2AIVILIK B,BLACKFOOT E,3I,O,A,WE,WI,WO
  WA,NE,NI,NO,NA,KE,KI,KO,KA,2SAYISI HE,3HI,HO,HA,2CARRIER GHU,3GHO,GHE,GHEE,GHI,GHA,RU,RO,RE,REE,RI
  RA,WU,WO,WE,WEE,WI,WA,HWU,HWO,HWE,HWEE,HWI,HWA,THU,THO,THE,THEE,THI,THA,TTU,TTO,TTE,TTEE,TTI,TTA
  PU,PO,PE,PEE,PI,PA,P,GU,GO,GE,GEE,GI,GA,KHU,KHO,KHE,KHEE,KHI,KHA,KKU,KKO,KKE,KKEE,KKI,KKA,KK,NU,NO
  NE,NEE,NI,NA,MU,MO,ME,MEE,MI,MA,YU,YO,YE,YEE,YI,YA,JU,2SAYISI+1,CARRIER JO,3JE,JEE,JI,2SAYISI+1
  CARRIER JA,3JJU,JJO,JJE,JJEE,JJI,JJA,LU,LO,LE,LEE,LI,LA,DLU,DLO,DLE,DLEE,DLI,DLA,LHU,LHO,LHE,LHEE
  LHI,LHA,TLHU,TLHO,TLHE,TLHEE,TLHI,TLHA,TLU,TLO,TLE,TLEE,TLI,TLA,ZU,ZO,ZE,ZEE,ZI,ZA,Z,INITIAL Z,DZU
  DZO,DZE,DZEE,DZI,DZA,SU,SO,SE,SEE,SI,SA,SHU,SHO,SHE,SHEE,SHI,SHA,SH,TSU,TSO,TSE,TSEE,TSI,TSA,CHU
  CHO,CHE,CHEE,CHI,CHA,TTSU,TTSO,TTSE,TTSEE,TTSI,TTSA,2CHIf,FULL STOP,QAI,NGAI,NNGI,NNGII,NNGO,NNGOO
  NNGA,NNGAA,WOODS-CREE THWEE,3THWI,THWII,THWO,THWOO,THWA,THWAA,FINAL TH,2BLACKFOOT W
  0OGHAM SPACE MARK,1aBEITH,2LUIS,FEARN,SAIL,NION,UATH,DAIR,TINNE,COLL,CEIRT,MUIN,GORT,NGEADAL
  STRAIF,RUIS,AILM,ONN,UR,EADHADH,IODHADH,EABHADH,OR,UILLEANN,IFIN,EAMHANCHOLL,PEITH,1FEATHER MARK
  x+2,=16A0,0RUNICaFEHU FEOH FE F,2V,URUZ UR U,YR,Y,W,THURISAZ THURS THORN,ETH,ANSUZ A,OS O,AC A
  AESC,LONG-BRANCH-OSS O,SHORT-TWIG-OSS O,O,OE,ON,RAIDO RAD REID R,KAUNA,CEN,KAUN K,G,ENG
  GEBO GYFU G,GAR,WUNJO WYNN W,HAGLAZ H,HAEGL H,LONG-BRANCH-HAGALL H,SHORT-TWIG-HAGALL H
  NAUDIZ NYD NAUD N,SHORT-TWIG-NAUD N,DOTTED-N,ISAZ IS ISS I,E,JERAN J,GER,LONG-BRANCH-AR AE
  SHORT-TWIG-AR A,IWAZ EOH,PERTHO PEORTH P,ALGIZ EOLHX,SOWILO S,SIGEL LONG-BRANCH-SOL S
  SHORT-TWIG-SOL S,C,Z,TIWAZ TIR TYR T,SHORT-TWIG-TYR T,D,BERKANAN BEORC BJARKAN B
  SHORT-TWIG-BJARKAN B,DOTTED-P,OPEN-P,EHWAZ EH E,MANNAZ MAN M,LONG-BRANCH-MADR M,SHORT-TWIG-MADR M
  LAUKAZ LAGU LOGR L,DOTTED-L,INGWAZ,ING,DAGAZ DAEG D,OTHALAN ETHEL O,EAR,IOR,CWEORTH,CALC,CEALC
  STAN,LONG-BRANCH-YR,SHORT-TWIG-YR,ICELANDIC-YR,Q,X,1SINGLE PUNCTUATION,MULTIPLE+1,CROSS+1
  ARLAUG SYMBOL,TVIMADUR+1,BELGTHOR+1,aK,2SH,OO,FRANKS CASKET OS,4IS,EH,AC,AESC,=1700,0TAGALOGaA,2I
  U,KA,GA,NGA,TA,DA,NA,PA,BA,MA,YA,RA,LA,WA,SA,HA,1pfI,3U,1fVIRAMA,2PAMUDPOD,=171F,1aARCHAIC RA
  0HANUNOOaA,2I,U,KA,GA,NGA,TA,DA,NA,PA,BA,MA,YA,RA,LA,WA,SA,HA,1pfI,3U,1fPAMUDPOD
  0PHILIPPINE SINGLE PUNCTUATION,1v+1,=1740,0BUHIDaA,2I,U,KA,GA,NGA,TA,DA,NA,PA,BA,MA,YA,RA,LA,WA,SA
  HA,1pfI,3U,=1760,0TAGBANWAaA,2I,U,KA,GA,NGA,TA,DA,NA,PA,BA,MA,YA,=176E,LA,WA,SA,=1772,1pfI,3U
  =1780,0KHMERaKA,2KHA,KO,KHO,NGO,CA,CHA,CO,CHO,NYO,DA,TTHA,DO,TTHO,NNO,TA,THA,TO,THO,NO,BA,PHA,PO
  PHO,MO,YO,RO,LO,VO,SHA,SSO,SA,HA,LA,QA,1INDEPENDENTpQAQ,3QAA,QI,QII,QU,QUK,QUU,QUUV,RY,RYY,LY,LYY
  QE,QAI,QOO TYPE ONE,5y,3QAU,1pINHERENT AQ,3AA,2f+1,3I,II,Y,YY,U,UU,UA,OE,YA,IE,E,AE,AI,OO,AU
  1fNIKAHIT,2REAHMUK,YUUKALEAPINTU,MUUSIKATOAN,TRIISAP,BANTOC,ROBAT,TOANDAKHIAT,KAKABAT,AHSDA
  SAMYOK SANNYA,VIRIAM,COENG,BATHAMASAT,KHAN,BARIYOOSAN,CAMNUC PII KUUH,LEK TOO,BEYYAL,PHNAEK MUAN
  KOOMUUT,1CURRENCY SYMBOL RIEL,fAVAKRAHASANYA,2ATTHACAN,=17E0,1DIGIT ZERO,2ONE,y,k,FOUR,FIVE,SIX
  SEVEN,EIGHT,NINE,=17F0,1SYMBOL LEK ATTAK SON,4MUOY,PII,BEI,BUON,PRAM,PRAM-MUOY,PRAM-PII,PRAM-BEI
  PRAM-BUON,=1800,0MONGOLIAN BIRGA,1ELLIPSIS,COMMA,FULL STOP,COLON,FOURu,TODO SOFT HYPHEN
  SIBE SYLLABLE BOUNDARY MARKER,MANCHU COMMA,2FULL STOP,1NIRUGU,FREE VARIATION SELECTOR ONE,4y,k
  1pSEPARATOR,FREE VARIATION SELECTOR FOUR,DIGIT ZERO,2ONE,y,k,FOUR,FIVE,SIX,SEVEN,EIGHT,NINE,=1820
  1aA,2E,I,O,U,OE,UE,EE,NA,ANG,BA,PA,QA,GA,MA,LA,SA,SHA,TA,DA,CHA,JA,YA,RA,WA,FA,KA,KHA,TSA,ZA,HAA
  ZRA,LHA,ZHI,CHI,TODO LONGpf,3E,I,O,U,OE,UE,ANG,BA,PA,QA,GA,MA,TA,DA,CHA,JA,TSA,YA,WA,KA,GAA,HAA
  JIA,NIA,DZA,2SIBE E,3I,IY,UE,U,ANG,KA,GA,HA,PA,SHA,TA,DA,JA,FA,GAA,HAA,TSA,ZA,RAA,CHA,ZHA
  2MANCHU I,3KA,RA,FA,ZHA,2CHAdyu,=1880,ALI GALI ANUSVARA ONE,4VISARGA+1,DAMARU,UBADAMA,r+1,BALUDA
  k+1,A,I,KA,NGA,CA,TTA,TTHA,DDA,NNA,TA,DA,PA,PHA,SSA,ZHA,ZA,AH,2TODO ALI GALI TA,5ZHA
  2MANCHU ALI GALI GHA,5NGA,CA,JHA,TTA,DDHA,TA,DHA,SSA,CYA,ZHA,ZA,2ALI GALI HALF U,5YA
  2MANCHU ALI GALI BHA,ALI GALI DAGALGA,MANCHU ALI GALI LHA,=18B0,0CANADIAN SYLLABICS OY,2AY,AAY,WAY
  POY,PAY,PWOY,TAY,KAY,KWAY,MAY,NOY,NAY,LAY,SOY,SAY,SHOY,SHAY,SHWOY,YOY,YAY,RAY,NWI,OJIBWAY+1,NWII
  OJIBWAY+1,NWO,OJIBWAY+1,NWOO,OJIBWAY+1,RWEE,RWI,RWII,RWO,RWOO,RWA,OJIBWAY P,3T,K,C,M,N,S,SH
  2EASTERN W,WESTERN W,FINALcRING,3RAISEDo,2R-CREE RWE,eLOO,3LAA,2THWE,THWA,TTHWE,TTHOO,TTHAA,TLHWE
  TLHOO,SAYISI SHWE,3SHOO,HOO,2CARRIER GWU,3DENE GEE,GAA,GWA,2SAYISI JUU,CARRIER JWA,BEAVER DENE L
  4R,2CARRIER DENTAL S,=1900,0LIMBU VOWEL-CARRIERa,1aKA,2KHA,GA,GHA,NGA,CA,CHA,JA,JHA,YAN,TA,THA,DA
  DHA,NA,PA,PHA,BA,BHA,MA,YA,RA,LA,WA,SHA,SSA,SA,HA,GYAN,TRA,=1920,1pfA,3I,U,EE,AI,OO,AU,E,O
  1SUBJOINEDaYA,3RA,WA,=1930,1caKA,3NGA,ANUSVARA,TA,NA,PA,MA,RA,LA,1fMUKPHRENG,2KEMPHRENG,SA-I,=1940
  LOO,=1944,1EXCLAMATION MARK,QUESTION+1,DIGIT ZERO,2ONE,y,k,FOUR,FIVE,SIX,SEVEN,EIGHT,NINE
  0TAI LEaKA,3XA,NGA,TSA,SA,YA,TA,THA,LA,PA,PHA,MA,FA,VA,HA,QA,KHA,TSHA,NA,A,I,EE,EH,U,OO,O,UE,E,AUE
  AI,=1970,TONE-2*5,=1980,0NEW TAI LUEaHIGH QA,4LOW+1,HIGH KA,5XA,NGA,4LOW KA,5XA,NGA,4HIGH TSA,5SA
  YA,4LOW TSA,5SA,YA,4HIGH TA,5THA,NA,4LOW TA,5THA,NA,4HIGH PA,5PHA,MA,4LOW PA,5PHA,MA,4HIGH FA,5VA
  LA,4LOW FA,5VA,LA,4HIGH HA,5DA,BA,4LOW HA,5DA,BA,4HIGH KVA,5XVA,4LOW KVA,5XVA,4HIGH SUA,LOW+1
  =19B0,3pfpSHORTENER,5AA,II,U,UU,E,AE,O,OA,UE,AY,AAY,UY,OY,OAY,UEY,IY,3aFINAL V,5NG,N,M,K,D,B
  3TONE MARK-1,4MARK-2,=19D0,3DIGIT ZERO,4ONE,y,k,FOUR,FIVE,SIX,SEVEN,EIGHT,NINE,3THAM DIGIT ONE
  =19DE,fLAE,4LAEV,0KHMER SYMBOL PATHAMASAT,2MUOY KOET,PII+1,BEI+1,BUON+1,PRAM+1,PRAM-MUOY+1
  PRAM-PII+1,PRAM-BEI+1,PRAM-BUON+1,DAP+1,DAP-MUOY+1,DAP-PII+1,DAP-BEI+1,DAP-BUON+1,DAP-PRAM+1
  TUTEYASAT,MUOY ROC,PII+1,BEI+1,BUON+1,PRAM+1,PRAM-MUOY+1,PRAM-PII+1,PRAM-BEI+1,PRAM-BUON+1,DAP+1
  DAP-MUOY+1,DAP-PII+1,DAP-BEI+1,DAP-BUON+1,DAP-PRAM+1,0BUGINESEaKA,2GA,NGA,NGKA,PA,BA,MA,MPA,TA,DA
  NA,NRA,CA,JA,NYA,NYCA,YA,RA,LA,VA,SA,A,HA,1pfI,3U,E,O,AE,=1A1E,1PALLAWA,END OF SECTION
  0TAI THAMaHIGH KA,4KHA,KXA,3LOW KA,4KXA,KHA,3NGA,HIGH CA,4CHA,3LOW CA,4SA,CHA,3NYA,RATA,HIGH RATHA
  DA,LOW RATHA,RANA,HIGH TA,4THA,3LOW TA,4THA,3NA,BA,HIGH PA,4PHA,FA,3LOW PA,4FA,PHA,3MA,LOW YA
  HIGH+1,RA,RUE,LA,LUE,WA,HIGH SHA,4SSA,SA,HA,3LLA,A,LOW HA,I,II,U,UU,EE,OO,LAE,GREAT SA
  2CONSONANTfMEDIAL RA,5LA,4LA TANG LAI,2fMAI KANG+1,CONSONANTfFINAL NGA,4LOW PA,HIGH RATHA OR+2,MA
  BA,SA,=1A60,2fSAKOT,pfA,4MAI SAT,AA,TALL+1,I,II,UE,UUE,U,UU,O,OAh,OY,E,AE,OO,AI,THAM+1,OAg
  2fMAI KANG,3TONE-1,TONE-2,KHUEN TONE-3*3,RA HAAM,MAI SAM,KHUEN-LUE KARAN,=1A7F
  2COMBINING CRYPTOGRAMMICo,HORA DIGIT ZERO,4ONE,y,k,FOUR,FIVE,SIX,SEVEN,EIGHT,NINE,=1A90
  2THAM DIGIT ZERO,4ONE,y,k,FOUR,FIVE,SIX,SEVEN,EIGHT,NINE,=1AA0,2fWIANG,3WIANGWAAK,SAWAN,KEOW,HOY
  DOKMAI,xROTATED RANA,MAI YAMOK,KAAN,KAANKUU,SATKAAN,SATKAANKUU,HANG,CAANG,=1AB0
  0COMBINING DOUBLEDjACCENT,1DIAERESIS-RING,INFINITY,DOWNWARDS ARROW,TRIPLEo,X-Xh,WIGGLY LINE+1
  OPEN MARK+1,v+3,LIGHT CENTRALIZATIONq+1,STRONG+3,PARENTHESESg,v+2,PARENTHESESh,2OVERLAY,1LATINcaWh
  4TURNED+2,1LEFT PARENTHESISgLEFT,RIGHT PARENTHESISgRIGHT,LEFT PARENTHESIShLEFT
  RIGHT PARENTHESIShRIGHT,SQUARE BRACKETSg,NUMBERf+1,rvARCH+1,PLUSf+1,v+3,4h,1TRIPLEsACCENT
  LATINcaINSULAR G,5R,T,=1B00,0BALINESEfULU RICEM,3CANDRA,2CECEK,SURANG,BISAH,1aAKARA,3TEDUNG,2IKARA
  3TEDUNG,2UKARA,3TEDUNG,2RA REPA,4TEDUNG,2LA LENGA,4TEDUNG,2EKARA,AIKARA,OKARA,3TEDUNG,2KA
  3MAHAPRANA,2GA,3GORA,2NGA,CA,3LACA,2JA,3JERA,2NYA,TA LATIK,3MURDA MAHAPRANA,2DA MURDA ALPAPRANA
  4MAHAPRANA,2NA RAMBAT,TA,3TAWA,2DA,3MADU,2NA,PA,3KAPAL,2BA,3KEMBANG,2MA,YA,RA,LA,WA,SA SAGA,3SAPA
  2SA,HA,1fREREKAN,pfTEDUNG,3ULU,4SARI,3SUKU,4ILUT,3RA REPA,5TEDUNG,3LA LENGA,5TEDUNG,3TALING,4REPA
  TEDUNG,REPA+1,3PEPET,4TEDUNG,1ADEG ADEG,aKAF SASAK,2KHOT+1,TZIR+1,EF+1,VE+1,ZAL+1,ASYURA+1
  ARCHAIC JNYA,=1B50,1DIGIT ZERO,2ONE,y,k,FOUR,FIVE,SIX,SEVEN,EIGHT,NINE,1PANTI,PAMADA,WINDU
  CARIK PAMUNGKAH,2SIKI,PAREREN,1PAMENENG,MUSICAL SYMBOL DONG,3DENG,DUNG,DANG,4SURANG,3DING,DAENG
  DEUNG,DAING,DANG GEDE,COMBINING TEGEH,4ENDEP,KEMPUL,KEMPLI,JEGOGAN,KEMPULd+1,KEMPLI+2,BENDE,GONG
  3RIGHT-HAND OPEN DUG,5DAG,4CLOSED TUK,5TAK,3LEFT-HAND OPEN PANG,5PUNG,4CLOSED PLAK,5PLUK
  4OPEN PING,1PANTI LANTANG,PAMADA+1,=1B80,0SUNDANESEfPANYECEK,2PANGLAYAR,PANGWISAD,1aA,2I,U,AE,O,E
  EU,KA,QA,GA,NGA,CA,JA,ZA,NYA,TA,DA,NA,PA,FA,VA,BA,MA,YA,RA,LA,WA,SA,XA,HA,1CONSONANTfPAMINGKAL
  3PANYAKRA,PANYIKU,1pfPANGHULU,3PANYUKU,PANAELAENG,PANOLONG,PAMEPET,PANEULEUNG,1fPAMAAEH,2VIRAMA
  1CONSONANTfPASANGAN MA,4WA,1aKHA,2SYA,1DIGIT ZERO,2ONE,y,k,FOUR,FIVE,SIX,SEVEN,EIGHT,NINE
  1AVAGRAHA,aREU,2LEU,BHA,FINAL K,3M,0BATAKaA,2SIMALUNGUN A,HA,SIMALUNGUN+1,MANDAILING+1,BA,KARO+1
  PA,SIMALUNGUN+1,NA,MANDAILING+1,WA,SIMALUNGUN+1,PAKPAK+1,GA,SIMALUNGUN+1,JA,DA,RA,SIMALUNGUN+1,MA
  SIMALUNGUN+1,SOUTHERN TA,NORTHERN+1,SA,SIMALUNGUN+1,MANDAILING+1,YA,SIMALUNGUN+1,NGA,LA
  SIMALUNGUN+1,NYA,CA,NDA,MBA,I,U,1fTOMPI,pfE,3PAKPAK E,EE,I,KARO I,O,KARO O,U,4FOR SIMALUNGUN SA
  1CONSONANTfNG,3H,1PANGOLAT,PANONGONAN,=1BFC,SYMBOL BINDU NA METEK,3PINARBORAS,JUDUL,PANGOLAT
  0LEPCHAaKA,2KLA,KHA,GA,GLA,NGA,CA,CHA,JA,NYA,TA,THA,DA,NA,PA,PLA,PHA,FA,FLA,BA,BLA,MA,MLA,TSA,TSHA
  DZA,YA,RA,LA,HA,HLA,VA,SA,SHA,WA,A,1SUBJOINEDaYA,3RA,1pfAA,3I,O,OO,U,UU,E,1CONSONANTfK,3M,L,N,P,R
  T,NYIN-DO,KANG,1fRAN,2NUKTA,=1C3B,1PUNCTUATION TA-ROL,2NYET THYOOM+1,CER-WA,TSHOOK+1,TSHOOK
  1DIGIT ZERO,2ONE,y,k,FOUR,FIVE,SIX,SEVEN,EIGHT,NINE,=1C4D,1aTTA,2TTHA,DDA,0OL CHIKI DIGIT ZERO
  3ONE,y,k,FOUR,FIVE,SIX,SEVEN,EIGHT,NINE,2aLA,3AT,AG,ANG,AL,LAA,AAK,AAJ,AAM,AAW,LI,IS,IH,INY,IR,LU
  UC,UD,UNN,UY,LE,EP,EDD,EN,ERR,LO,OTT,OB,OV,OH,2MU TTUDDAG,GAAHLAA TTUDDAAG,MU-GAAHLAA+1,RELAA
  PHAARKAA,AHAD,PUNCTUATION MUCAAD,3v+1,0CYRILLICcaROUNDED VE,3LONG-LEGGED DE,NARROW O,WIDE ES
  TALL TE,THREE-LEGGED+1,TALL HARDf,4YAT,3UNBLENDED UK,=1C90,0GEORGIAN MTAVRULIbaAN,4BAN,GAN,DON,EN
  VIN,ZEN,TAN,IN,KAN,LAS,MAN,NAR,ON,PAR,ZHAR,RAE,SAN,TAR,UN,PHAR,KHAR,GHAN,QAR,SHIN,CHIN,CAN,JIL,CIL
  CHAR,XAN,JHAN,HAE,HE,HIE,WE,HAR,HOE,FI,YN,ELIFI,TURNED GAN,AIN,=1CBD,AEN,HARDf,LABIAL+1
  0SUNDANESE PUNCTUATION BINDU SURYA,3PANGLONG,PURNAMA,CAKRA,LEU SATANGA,KA+1,DA+1,BA+1,=1CD0
  0VEDIC TONE KARSHANA,2SHARA,PRENKHA,1fNIHSHVASA,2YAJURVEDIC MIDLINE SVARITA
  1TONE YAJURVEDIC AGGRAVATED INDEPENDENT+1,3INDEPENDENT+1,KATHAKA+2,2CANDRAh
  YAJURVEDIC KATHAKA INDEPENDENT SVARITA SCHROEDER,vSVARITA,TRIPLE+1,KATHAKA ANUDATTA,oh,yu+1,k+2
  RIGVEDIC KASHMIRI INDEPENDENT SVARITA,ATHARVAVEDIC+2,1fVISARGA+1,3UDATTA,2x+2,VISARGA ANUDATTA,x+2
  VISARGA UDATTAdTAIL,3ANUDATTA+2,2ANUSVARA ANTARGOMUKHA,3BAHIRGOMUKHA,VAMAGOMUKHA,4dTAIL,2TIRYAK
  HEXIFORM LONG ANUSVARA,LONG+1,RTHANG+2,ANUSVARA UBHAYATO MUKHA,ARDHAVISARGA,ROTATED+1
  1TONE CANDRAg,fJIHVAMULIYA,2UPADHMANIYA,ATIKRAMA,1TONE RINGg,2v+2,1fvANUSVARA ANTARGOMUKHA,=1D00
  0LATINacbA,4AE,1caTURNED+1,acbBARRED B,4C,D,ETH,E,1caTURNED OPEN E,4I,1acbJ,4K,Ldq,M,xN,O,OPEN O
  1caSIDEWAYS O,4OPEN O,Odq,3TURNED OE,1acbOU,caTOP HALF O,3BOTTOM+2,1acbP,4xR,TURNED R,T,U
  1caSIDEWAYS U,4DIAERESIZED U,TURNED M,1acbV,4W,Z,EZH,2VOICED LARYNGEAL SPIRANT,AIN,0GREEKacbGAMMA
  4LAMDA,PI,RHO,PSI,0CYRILLICacbEL,MODIFIERabA,3AE,B,BARRED B,D,E,xE,G*8,xN,O,OU,P,R,T,U,W,2cA
  3TURNED A,ALPHA,TURNED AE,B,D,E,SCHWA,OPEN E,TURNED+2,G,TURNED I,K,M,ENG,O,OPEN O,TOP HALF O
  BOTTOM+2,P,T,U,SIDEWAYS U,TURNED M,V,AIN,BETA,GREEK GAMMA,DELTA,GREEK PHI,CHI,0LATIN SUBSCRIPTcaI
  4R,U,V,0GREEK SUBSCRIPTcaBETA,4GAMMA,RHO,PHI,CHI,0LATINcaUE,3BdMIDDLE TILDE,D+3,F+3,M+3,N+3,P+3
  R+3,5FISHHOOKi+2,3Sd+2,T+3,Z+3,TURNED G,0MODIFIERaCYRILLIC EN,LATINcaINSULAR G,3THdSTRIKETHROUGH
  2baIdq,aIOTA+2,3P+2,2baU+2,aUPSILON+2,3BdPALATALw,D+3,F+3,G+3,K+3,L+3,M+3,N+3,P+3,R+3,S+3,ESH+3
  V+3,X+3,Z+3,AdRETROFLEX+1,ALPHA+3,DdwiTAIL,EdRETROFLEXw,OPEN+4,x+5,SCHWA+3,I+3,OPEN O+3,ESH+3,U+3
  EZH+3,0MODIFIERacTURNED ALPHA,3C,4dCURL,3ETH,xOPEN E,F,DOTLESS Jdq,SCRIPT G,TURNED H,Idq,IOTA,bI
  5dq,3JdCROSSED-TAIL,LdRETROFLEXw,5PALATAL+1,3bL,Mdw,TURNED MdLONG LEG,NdLEFTw,5RETROFLEX+1,3bN
  BARRED O,PHI,Sdw,ESH,TdPALATALw,U BAR,UPSILON,bU,Vdw,TURNED V,Z,4dRETROFLEXw,5CURL,3EZH,THETA
  0COMBINING DOTTEDzACCENT,2s+1,1SNAKEh,SUSPENSION MARK,MACRON-ACUTE,GRAVE-MACRON,MACRON-GRAVE
  ACUTE-MACRON,GRAVE-ACUTE-GRAVE,ACUTE-GRAVE-ACUTE,LATINcaRh,BREVE-MACRON,MACRON-BREVE,vjg,OGONEK+1
  ZIGZAGh,IS+1,URg,US+1,LATINcaFLATTENED OPEN A+1,4AE,AO,AV,C CEDILLA,INSULAR D,ETH,G,2acbG,caK,4L
  2acbL,5M,2caN,acbN,5R,2caR ROTUNDA,4S,LONG S,Z,ALPHA,B,BETA,SCHWA,F,LdvMIDDLE TILDE
  OdLIGHT CENTRALIZATIONq,P,ESH,UdLIGHT CENTRALIZATIONq,W,Adn,O+2,U+2,1UP TACKg,KAVYKAgRIGHT,3LEFT
  1o+2,WIDErBRIDGEh,ohLEFT,DELETION MARK,vrBREVEh,ALMOST EQUAL TO+1,LEFT ARROWHEADg
  RIGHT ARROWHEADiDOWN ARROWHEADh,0LATINbaAdRING+1,1c+5,baBdog,c+5,baBdoh,c+5,baBdLINE+1,c+5
  baCdCEDILLAis,c+6,baDdog,c+5,baDdoh,c+5,baDdLINE+1,c+5,baDdCEDILLA,c+4,baDdjh,c+5,baEdMACRONiz,c+6
  baEdMACRONis,c+6,baEdjh,c+5,baEdTILDE+1,c+5,baEdCEDILLAiBREVE,c+6,baFdog,c+5,baGdMACRON,c+4,baHdog
  c+5,baHdoh,c+5,baHdn,c+4,baHdCEDILLA,c+4,baHdBREVEh,c+5,baIdTILDE+1,c+5,baIdnis,c+6,baKd+1,c+4
  baKdoh,c+5,baKdLINE+1,c+5,baLdo+1,c+5,baLdohiMACRON,c+7,baLdLINEh,c+5,baLdj+1,c+5,baMds,c+4,baMdog
  c+5,baMdoh,c+5,baNdog,c+5,baNdoh,c+5,baNdLINE+1,c+5,baNdj+1,c+5,baOdTILDEis,c+6,baOdTILDEin,c+6
  baOdMACRONiz,c+6,baOdMACRONis,c+6,baPd+1,c+4,baPdog,c+5,baR+3,c+5,baRdoh,c+5,baRdohiMACRON,c+7
  baRdLINEh,c+5,baSdog,c+5,baSdoh,c+5,baSdsiog,c+7,baSdCARON+3,c+7,baSdoh+3,c+8,baTd+2,c+5,baTdoh
  c+5,baTdLINE+1,c+5,baTdj+1,c+5,baUdn+1,c+5,baUdTILDE+1,c+5,baUdj+1,c+5,baUdTILDEis,c+6
  baUdMACRONin,c+6,baVdTILDE,c+4,baVdoh,c+5,baWdz,c+4,baWds,c+4,baWdn,c+4,baWdog,c+5,baWdoh,c+5
  baXdog,c+5,baXdn,c+4,baYdog,c+5,baZdj,c+4,baZdoh,c+5,baZdLINE+1,c+5,3H+3,Tdn,WdRINGg,Y+3
  AdRIGHT HALF RING,LONG Sdog,6DIAGONALq,HIGH+1,1baSHARP S,caDELTA,baAdoh,c+5,baAdwg,c+5,baAdjis,c+6
  baAdjiz,c+6,baAdjiwg,c+7,baAdjiTILDE,c+6,baAdjioh,c+7,baAdBREVEis,c+6,baAdBREVEiz,c+6,baAdBREVEiwg
  c+7,baAdBREVEiTILDE,c+6,baAdBREVEioh,c+7,baEd+2,c+5,baEdwg,c+5,baEdTILDE,c+4,baEdjis,c+6,baEdjiz
  c+6,baEdjiwg,c+7,baEdjiTILDE,c+6,baEdjioh,c+7,baIdwg,c+5,baIdoh,c+5,baO+3,c+5,baOdwg,c+5,baOdjis
  c+6,baOdjiz,c+6,baOdjiwg,c+7,baOdjiTILDE,c+6,baOdjioh,c+7,baOdHORNis,c+6,baOdHORNiz,c+6
  baOdHORNiwg,c+7,baOdHORNiTILDE,c+6,baOdHORNioh,c+7,baUd+2,c+5,baUdwg,c+5,baUdHORNis,c+6,baUdHORNiz
  c+6,baUdHORNiwg,c+7,baUdHORNiTILDE,c+6,baUdHORNioh,c+7,baYdz,c+4,baYdoh,c+5,baYdwg,c+5,baYdTILDE
  c+4,baMIDDLE-WELSH LL,c+3,baMIDDLE-WELSH V,c+3,baYdLOOP,c+4,0GREEKcaALPHAdm,5l,miVARIA,l+2,miOXIA
  l+2,mit,l+2,1baALPHAdm,5l,miVARIA,l+2,miOXIA,l+2,mit,l+2,1caEPSILONdm,5l,miVARIA,l+2,miOXIA,l+2
  =1F18,1baEPSILONdm,5l,miVARIA,l+2,miOXIA,l+2,=1F20,1caETAdm,5l,miVARIA,l+2,miOXIA,l+2,mit,l+2
  1baETAdm,5l,miVARIA,l+2,miOXIA,l+2,mit,l+2,1caIOTAdm,5l,miVARIA,l+2,miOXIA,l+2,mit,l+2,1baIOTAdm
  5l,miVARIA,l+2,miOXIA,l+2,mit,l+2,1caOMICRONdm,5l,miVARIA,l+2,miOXIA,l+2,=1F48,1baOMICRONdm,5l
  miVARIA,l+2,miOXIA,l+2,=1F50,1caUPSILONdm,5l,miVARIA,l+2,miOXIA,l+2,mit,l+2,=1F59,1baUPSILONdl
  =1F5B,6iVARIA,=1F5D,7OXIA,=1F5F,t,1caOMEGAdm,5l,miVARIA,l+2,miOXIA,l+2,mit,l+2,1baOMEGAdm,5l
  miVARIA,l+2,miOXIA,l+2,mit,l+2,1caALPHAdVARIA,5OXIA,3EPSILONdVARIA,5OXIA,3ETAdVARIA,5OXIA
  3IOTAdVARIA,5OXIA,3OMICRONdVARIA,5OXIA,3UPSILONdVARIA,5OXIA,3OMEGAdVARIA,5OXIA,=1F80
  3ALPHAdmiYPOGEGRAMMENI,5l+2,miVARIA+2,l+4,miOXIA+2,l+4,mit+2,l+4,1baALPHAdmiPROSGEGRAMMENI,5l+2
  miVARIA+2,l+4,miOXIA+2,l+4,mit+2,l+4,1caETAdmiYPOGEGRAMMENI,5l+2,miVARIA+2,l+4,miOXIA+2,l+4,mit+2
  l+4,1baETAdmiPROSGEGRAMMENI,5l+2,miVARIA+2,l+4,miOXIA+2,l+4,mit+2,l+4,1caOMEGAdmiYPOGEGRAMMENI
  5l+2,miVARIA+2,l+4,miOXIA+2,l+4,mit+2,l+4,1baOMEGAdmiPROSGEGRAMMENI,5l+2,miVARIA+2,l+4,miOXIA+2
  l+4,mit+2,l+4,1caALPHAdVRACHY,5MACRON,VARIAiYPOGEGRAMMENI,YPOGEGRAMMENI,OXIAi+1,=1FB6,t
  6iYPOGEGRAMMENI,1baALPHAdVRACHY,5MACRON,VARIA,OXIA,PROSGEGRAMMENI,1KORONIS,PROSGEGRAMMENI,m,t
  DIALYTIKAi+1,caETAdVARIAiYPOGEGRAMMENI,5YPOGEGRAMMENI,OXIAi+1,=1FC6,t,6iYPOGEGRAMMENI
  1baEPSILONdVARIA,5OXIA,3ETAdVARIA,5OXIA,PROSGEGRAMMENI,1miVARIA,3OXIA,t,1caIOTAdVRACHY,5MACRON
  DIALYTIKAiVARIA,7OXIA,=1FD6,5t,DIALYTIKAi+1,1baIOTAdVRACHY,5MACRON,VARIA,OXIA,=1FDD,1liVARIA,3OXIA
  t,1caUPSILONdVRACHY,5MACRON,DIALYTIKAiVARIA,7OXIA,3RHOdm,5l,3UPSILONdt,5DIALYTIKAi+1
  1baUPSILONdVRACHY,5MACRON,VARIA,OXIA,3RHOdl,1DIALYTIKAiVARIA,3OXIA,1VARIA,=1FF2
  caOMEGAdVARIAiYPOGEGRAMMENI,5YPOGEGRAMMENI,OXIAi+1,=1FF6,t,6iYPOGEGRAMMENI,1baOMICRONdVARIA,5OXIA
  3OMEGAdVARIA,5OXIA,PROSGEGRAMMENI,1OXIA,l"

end SchemaGraph.Text.CharacterName
