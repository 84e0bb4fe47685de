import SchemaGraph.Text.CharacterName.Table

/-! Names of the characters from U+1D000 on: notation of music, mathematics and gestures,
pictographs and emoji. -/
namespace SchemaGraph.Text.CharacterName

/-- The names from U+1D000 on. -/
def pictographs : Table where
  shorthand := ["WITH", "SMALL", "MIDDLE", "RIGHTWARDS", "THUMB", "LEFTWARDS", "MEDIUM", "RIGHT",
    "LEFT", "INDEX", "FACE", "DOWNWARDS", "BLACK", "THREE", "LARGE", "HAND-FIST", "WHITE",
    "UPWARDS", "CAPITAL", "CENTRE", "LOWER", "SYMBOL", "MOVEMENT-FLOORPLANE", "UPPER", "DOUBLE",
    "MOVEMENT-WALLPLANE"]
  names := "
  =1D000,BYZANTINE MUSICALvPSILI,3DASEIA,PERISPOMENI,OXEIA EKFONITIKON,4DIPLI,3VAREIA EKFONITIKON
  4DIPLI,3KATHISTI,SYRMATIKI,PARAKLITIKI,YPOKRISIS,4DIPLI,3KREMASTI,APESO EKFONITIKON,EXO+1,TELEIA
  KENTIMATA,APOSTROFOS,4DIPLI,3SYNEVMA,THITA,OLIGON ARCHAION,GORGON+1,PSILON,CHAMILON,VATHY
  ISON ARCHAION,KENTIMA+1,KENTIMATA+1,SAXIMATA,PARICHON,STAVROS APODEXIA,OXEIAI ARCHAION,VAREIAI+1
  APODERMA+1,APOTHEMA,KLASMA,REVMA,PIASMA ARCHAION,TINAGMA,ANATRICHISMA,SEISMA,SYNAGMA ARCHAION
  4META STAVROU,3OYRANISMA ARCHAION,THEMA,LEMOI,DYO,TRIA,TESSERA,KRATIMATA,APESO EXO NEO
  FTHORA ARCHAION,IMIFTHORA,TROMIKON ARCHAION,KATAVA TROMIKON,PELASTON,PSIFISTON,KONTEVMA
  CHOREVMA ARCHAION,RAPISMA,PARAKALESMA ARCHAION,PARAKLITIKI+1,ICHADIN,NANA,PETASMA,KONTEVMA ALLO
  TROMIKON+1,STRAGGISMATA,GRONTHISMATA,ISON NEO,OLIGON+1,OXEIA+1,PETASTI,KOUFISMA,PETASTOKOUFISMA
  KRATIMOKOUFISMA,PELASTON NEO,KENTIMATA NEO ANO,KENTIMA+2,YPSILI,APOSTROFOS NEO
  APOSTROFOI SYNDESMOS+1,YPORROI,KRATIMOYPORROON,ELAFRON,CHAMILI,MIKRON ISON,VAREIA NEO,PIASMA+1
  PSIFISTON+1,OMALON,ANTIKENOMA,LYGISMA,PARAKLITIKI NEO,PARAKALESMA+1,ETERON PARAKALESMA,KYLISMA
  ANTIKENOKYLISMA,TROMIKON NEO,EKSTREPTON,SYNAGMA NEO,SYRMA,CHOREVMA NEO,EPEGERMA,SEISMA NEO
  XIRON KLASMA,TROMIKOPSIFISTON,PSIFISTOLYGISMA,TROMIKOLYGISMA,TROMIKOPARAKALESMA
  PSIFISTOPARAKALESMA,TROMIKOSYNAGMA,PSIFISTOSYNAGMA,GORGOSYNTHETON,ARGOSYNTHETON,ETERON+1
  OYRANISMA NEO,THEMATISMOS ESO,4EXO,3THEMA APLOUN,THES KAI APOTHES,KATAVASMA,ENDOFONON,YFEN KATO
  4ANO,3STAVROS,KLASMA ANO,DIPLI ARCHAION,KRATIMA+1,4ALLO,NEO,3APODERMA+1,APLI,DIPLI,TRIPLI,TETRAPLI
  KORONIS,LEIMMA ENOS CHRONOU,4DYO CHRONON,TRION+1,TESSARON+1,IMISEOS CHRONOU,3GORGON NEO ANO
  4PARESTIGMENON ARISTERA,5DEXIA,3DIGORGON,4PARESTIGMENON ARISTERA KATO,6ANO,5DEXIA,3TRIGORGON,ARGON
  IMIDIARGON,DIARGON,AGOGI POLI ARGI,4ARGOTERI,ARGI,METRIA,MESI,GORGI,GORGOTERI,POLI GORGI
  3MARTYRIA PROTOS ICHOS,4ALLI+2,DEYTEROS+1,ALLI+2,TRITOS+1,TRIFONIAS,TETARTOS ICHOS,5LEGETOS+1
  4LEGETOS+1,PLAGIOS+1,3ISAKIA TELOUS ICHIMATOS,APOSTROFOI+2,FANEROSIS TETRAFONIAS,4MONOFONIAS
  DIFONIAS,3MARTYRIA VARYS ICHOS,4PROTOVARYS+1,PLAGIOS TETARTOS+1,3GORTHMIKON N APLOUN,5DIPLOUN
  3ENARXIS KAI FTHORA VOU,IMIFONON,IMIFTHORON,FTHORA ARCHAION DEYTEROU ICHOU,4DIATONIKI PA,5NANA
  4NAOS ICHOS,DIATONIKI DI,SKLIRON DIATONON+1,DIATONIKI KE,5ZO,NI KATO,6ANO,4MALAKON CHROMA DIFONIAS
  6MONOFONIAS,3FHTORA SKLIRON CHROMA VASIS,FTHORA SKLIRON CHROMA SYNAFI,4NENANO,3CHROA ZYGOS,4KLITON
  SPATHI,3FTHORA I YFESIS TETARTIMORION,4ENARMONIOS ANTIFONIA,3YFESIS TRITIMORION,DIESIS+1
  4TETARTIMORION,APLI DYO DODEKATA,MONOGRAMMOS TESSERA+1,DIGRAMMOS EX+1,TRIGRAMMOS OKTO+1
  3YFESIS APLI DYO+1,4MONOGRAMMOS TESSERA+1,DIGRAMMOS EX+1,TRIGRAMMOS OKTO+1,3GENIKI DIESIS,4YFESIS
  3DIASTOLI APLI MIKRI,5MEGALI,4DIPLI,THESEOS,3SIMANSIS+1,5DISIMOU,TRISIMOU,TETRASIMOU,4ARSEOS
  5DISIMOU,TRISIMOU,TETRASIMOU,3DIGRAMMA GG,DIFTOGGOS OU,STIGMA,ARKTIKO PA,4VOU,GA,DI,KE,ZO,NI
  3KENTIMATA NEO MESO,KENTIMA+2,KENTIMATA NEO KATO,KENTIMA+2,KLASMA+1,GORGON NEO+1,=1D100
  0MUSICALvSINGLE BARLINE,2y+1,FINAL+1,REVERSE+2,DASHED+1,SHORT+1,iREPEAT SIGN,h+2,REPEAT DOTS
  DAL SEGNO,DA CAPO,SEGNO,CODA,REPEATED FIGURE-1*3,FERMATA,3BELOW,2BREATH MARK,CAESURA,BRACE,BRACKET
  ONE-LINE STAFF,TWO-LINE+1,THREE-LINE+1,FOUR-LINE+1,FIVE-LINE+1,SIX-LINE+1,SIX-STRING FRETBOARD
  FOUR-STRING+1,G CLEF,4OTTAVA ALTA,5BASSA,2C CLEF,F+1,4OTTAVA ALTA,5BASSA,2DRUM CLEF-1,3CLEF-2
  =1D129,2MULTIPLE MEASURE REST,ySHARP,3FLAT,2FLAT UP,3DOWN,2NATURAL UP,3DOWN,2SHARP UP,3DOWN
  2QUARTER TONE SHARP,4FLAT,2COMMON TIME,CUT+1,OTTAVA ALTA,3BASSA,2QUINDICESIMA ALTA,3BASSA
  2MULTI REST,WHOLE+1,HALF+1,QUARTER+1,EIGHTH+1,SIXTEENTH+1,THIRTY-SECOND+1,SIXTY-FOURTH+1
  ONE HUNDRED TWENTY-EIGHTH+1,X NOTEHEAD,PLUS+1,CIRCLE X+1,SQUARE NOTEHEADq,4m
  2TRIANGLE NOTEHEAD UPq,5m,4iq,5m,4hq,5m,4DOWNq,5m,4UPhq,6m,2MOON NOTEHEADq,4m
  2TRIANGLE-ROUND NOTEHEAD DOWNq,5m,2PARENTHESIS NOTEHEAD,VOID+1,NOTEHEADm,NULL NOTEHEAD
  CLUSTER NOTEHEADq,4m,2BREVE,WHOLE NOTE,HALF+1,QUARTER+1,EIGHTH+1,SIXTEENTH+1,THIRTY-SECOND+1
  SIXTY-FOURTH+1,ONE HUNDRED TWENTY-EIGHTH+1,COMBINING STEM,3SPRECHGESANG+1,TREMOLO-1*3
  2FINGERED TREMOLO-1*3,COMBINING AUGMENTATION DOT,3FLAG-1*5,2BEGIN BEAM,END+1,BEGIN TIE,END+1
  BEGIN SLUR,END+1,BEGIN PHRASE,END+1,COMBINING ACCENT,3STACCATO,TENUTO,STACCATISSIMO,MARCATO
  MARCATO-STACCATO,ACCENT-STACCATO,LOURE,2ARPEGGIATO UP,3DOWN,2COMBINING DOIT,3RIP,FLIP,SMEAR,BEND
  yTONGUE,TRIPLE+1,2RINFORZANDO,SUBITO,Z,PIANO,MEZZO,FORTE,CRESCENDO,DECRESCENDO,GRACE NOTE SLASH
  4NO+1,2TR,TURN,INVERTED+1,TURN SLASH,3UP,2ORNAMENT STROKE-1*9,3STROKE-10,STROKE-11,2HAUPTSTIMME
  NEBENSTIMME,END OF STIMME,DEGREE SLASH,COMBINING DOWN BOW,3UP+1,HARMONIC,SNAP PIZZICATO
  2PEDAL MARK,3UP+1,2HALF PEDAL+1,GLISSANDO UP,3DOWN,2aFINGERNAILS,DAMP,3ALL,2MAXIMA,LONGA,BREVIS
  SEMIBREVISq,3m,2MINIMA,3m,2SEMIMINIMAq,3m,2FUSAq,3m,2LONGA PERFECTA REST,3IMPERFECTA+1,2BREVIS+1
  SEMIBREVIS+1,MINIMA+1,SEMIMINIMA+1,TEMPUS PERFECTUM CUM PROLATIONE PERFECTA,6IMPERFECTA
  PERFECTA DIMINUTION-1,3IMPERFECTUM CUM PROLATIONE PERFECTA,6IMPERFECTA,7DIMINUTION-1*3,2CROIX
  GREGORIAN C CLEF,3F+1,2SQUARE B,VIRGA,PODATUS,CLIVIS,SCANDICUS,CLIMACUS,TORCULUS,PORRECTUS,3FLEXUS
  2SCANDICUS+1,TORCULUS RESUPINUS,PES SUBPUNCTIS,KIEVAN C CLEF,3END OF PIECE,FINAL NOTE
  RECITATIVE MARK,WHOLE NOTE,HALF+1,QUARTER NOTE STEM DOWN,6UP,3EIGHTH NOTE STEM DOWN,6UP,3FLAT SIGN
  2SORI,KORON,=1D200,0GREEK VOCAL NOTATION SYMBOL-1*9,3SYMBOL-10*F,SYMBOL-50*5
  1INSTRUMENTAL NOTATION SYMBOL-1,3SYMBOL-2,SYMBOL-4,SYMBOL-5,SYMBOL-7,SYMBOL-8,SYMBOL-11*4
  SYMBOL-17*3,SYMBOL-23*5,SYMBOL-29,SYMBOL-30,SYMBOL-32,SYMBOL-36*5,SYMBOL-42,SYMBOL-43,SYMBOL-45
  SYMBOL-47*8,0COMBINING GREEK MUSICAL TRISEME,3TETRASEME,PENTASEME,0GREEK MUSICAL LEIMMA,=1D2E0
  MAYAN NUMERAL ZERO,2ONE,TWO,n,FOUR,FIVE,SIX,SEVEN,EIGHT,NINE,TEN,ELEVEN,TWELVE,THIRTEEN,FOURTEEN
  FIFTEEN,SIXTEEN,SEVENTEEN,EIGHTEEN,NINETEEN,=1D300,0MONOGRAM FOR EARTH,DIGRAM FOR HEAVENLY+1
  2HUMAN+1,EARTHLY HEAVEN,3HUMAN,2EARTH,0TETRAGRAM FORt,2FULL CIRCLE,MIRED,BARRIER,KEEPINGb
  CONTRARIETY,ASCENT,OPPOSITION,BRANCHING OUT,DEFECTIVENESS OR DISTORTION,DIVERGENCE,YOUTHFULNESS
  INCREASE,PENETRATION,REACH,CONTACT,HOLDING BACK,WAITING,FOLLOWING,ADVANCE,RELEASE,RESISTANCE,EASE
  JOY,CONTENTION,ENDEAVOUR,DUTIES,CHANGE,DECISIVENESS,BOLD RESOLUTION,PACKING,LEGION,CLOSENESS
  KINSHIP,GATHERING,STRENGTH,PURITY,FULLNESS,RESIDENCE,LAW OR MODEL,RESPONSE,GOING TO MEET
  ENCOUNTERS,STOVE,GREATNESS,ENLARGEMENT,PATTERN,RITUAL,FLIGHT,VASTNESS OR WASTING,CONSTANCY,MEASURE
  ETERNITY,UNITY,DIMINISHMENT,CLOSED MOUTH,GUARDEDNESS,GATHERING IN,MASSING,ACCUMULATION
  EMBELLISHMENT,DOUBT,WATCH,SINKING,INNER,DEPARTURE,DARKENING,DIMMING,EXHAUSTION,SEVERANCE,STOPPAGE
  HARDNESS,COMPLETION,CLOSURE,FAILURE,AGGRAVATION,COMPLIANCE,ON THE VERGE,DIFFICULTIES,LABOURING
  FOSTERING,=1D360,0COUNTING ROD UNIT DIGIT ONE,4TWO,n,FOUR,FIVE,SIX,SEVEN,EIGHT,NINE
  2TENS DIGIT ONE,4TWO,n,FOUR,FIVE,SIX,SEVEN,EIGHT,NINE,0IDEOGRAPHIC TALLY MARK ONE,3TWO,n,FOUR,FIVE
  0TALLY MARK ONE,2FIVE,=1D400,0MATHEMATICAL BOLDsA*1A,2bA*1A,1ITALICsA*1A,2bA*7,=1D456,3I*12
  1BOLD ITALICsA*1A,3bA*1A,1SCRIPTsA,=1D49E,3C,D,=1D4A2,G,=1D4A5,J,K,=1D4A9,N*4,=1D4AE,S*8,2bA*4
  =1D4BB,3F,=1D4BD,H*7,=1D4C5,P*B,1BOLD SCRIPTsA*1A,3bA*1A,1FRAKTURsA,3B,=1D507,D*4,=1D50D,J*8
  =1D516,S*7,=1D51E,2bA*1A,1DOUBLE-STRUCKsA,3B,=1D53B,D*4,=1D540,I*5,=1D546,O,=1D54A,S*7,=1D552
  2bA*1A,1BOLD FRAKTURsA*1A,3bA*1A,1SANS-SERIFsA*1A,2bA*1A,BOLDsA*1A,3bA*1A,2ITALICsA*1A,3bA*1A
  2BOLD ITALICsA*1A,4bA*1A,1MONOSPACEsA*1A,2bA*1A,1ITALICbDOTLESS I,4J,=1D6A8,1BOLDsALPHA,3BETA
  GAMMA,DELTA,EPSILON,ZETA,ETA,THETA,IOTA,KAPPA,LAMDA,MU,NU,XI,OMICRON,PI,RHO,THETAv,SIGMA,TAU
  UPSILON,PHI,CHI,PSI,OMEGA,2NABLA,bALPHA,3BETA,GAMMA,DELTA,EPSILON,ZETA,ETA,THETA,IOTA,KAPPA,LAMDA
  MU,NU,XI,OMICRON,PI,RHO,FINAL SIGMA,SIGMA,TAU,UPSILON,PHI,CHI,PSI,OMEGA,2PARTIAL DIFFERENTIAL
  EPSILONv,THETA+1,KAPPA+1,PHI+1,RHO+1,PI+1,1ITALICsALPHA,3BETA,GAMMA,DELTA,EPSILON,ZETA,ETA,THETA
  IOTA,KAPPA,LAMDA,MU,NU,XI,OMICRON,PI,RHO,THETAv,SIGMA,TAU,UPSILON,PHI,CHI,PSI,OMEGA,2NABLA,bALPHA
  3BETA,GAMMA,DELTA,EPSILON,ZETA,ETA,THETA,IOTA,KAPPA,LAMDA,MU,NU,XI,OMICRON,PI,RHO,FINAL SIGMA
  SIGMA,TAU,UPSILON,PHI,CHI,PSI,OMEGA,2PARTIAL DIFFERENTIAL,EPSILONv,THETA+1,KAPPA+1,PHI+1,RHO+1
  PI+1,1BOLD ITALICsALPHA,4BETA,GAMMA,DELTA,EPSILON,ZETA,ETA,THETA,IOTA,KAPPA,LAMDA,MU,NU,XI,OMICRON
  PI,RHO,THETAv,SIGMA,TAU,UPSILON,PHI,CHI,PSI,OMEGA,3NABLA,bALPHA,4BETA,GAMMA,DELTA,EPSILON,ZETA,ETA
  THETA,IOTA,KAPPA,LAMDA,MU,NU,XI,OMICRON,PI,RHO,FINAL SIGMA,SIGMA,TAU,UPSILON,PHI,CHI,PSI,OMEGA
  3PARTIAL DIFFERENTIAL,EPSILONv,THETA+1,KAPPA+1,PHI+1,RHO+1,PI+1,1SANS-SERIF BOLDsALPHA,4BETA,GAMMA
  DELTA,EPSILON,ZETA,ETA,THETA,IOTA,KAPPA,LAMDA,MU,NU,XI,OMICRON,PI,RHO,THETAv,SIGMA,TAU,UPSILON,PHI
  CHI,PSI,OMEGA,3NABLA,bALPHA,4BETA,GAMMA,DELTA,EPSILON,ZETA,ETA,THETA,IOTA,KAPPA,LAMDA,MU,NU,XI
  OMICRON,PI,RHO,FINAL SIGMA,SIGMA,TAU,UPSILON,PHI,CHI,PSI,OMEGA,3PARTIAL DIFFERENTIAL,EPSILONv
  THETA+1,KAPPA+1,PHI+1,RHO+1,PI+1,ITALICsALPHA,5BETA,GAMMA,DELTA,EPSILON,ZETA,ETA,THETA,IOTA,KAPPA
  LAMDA,MU,NU,XI,OMICRON,PI,RHO,THETAv,SIGMA,TAU,UPSILON,PHI,CHI,PSI,OMEGA,4NABLA,bALPHA,5BETA,GAMMA
  DELTA,EPSILON,ZETA,ETA,THETA,IOTA,KAPPA,LAMDA,MU,NU,XI,OMICRON,PI,RHO,FINAL SIGMA,SIGMA,TAU
  UPSILON,PHI,CHI,PSI,OMEGA,4PARTIAL DIFFERENTIAL,EPSILONv,THETA+1,KAPPA+1,PHI+1,RHO+1,PI+1
  1BOLDsDIGAMMA,2b+1,=1D7CE,DIGIT ZERO,3ONE,TWO,n,FOUR,FIVE,SIX,SEVEN,EIGHT,NINE
  1DOUBLE-STRUCK DIGIT ZERO,3ONE,TWO,n,FOUR,FIVE,SIX,SEVEN,EIGHT,NINE,1SANS-SERIF DIGIT ZERO,3ONE
  TWO,n,FOUR,FIVE,SIX,SEVEN,EIGHT,NINE,2BOLD DIGIT ZERO,4ONE,TWO,n,FOUR,FIVE,SIX,SEVEN,EIGHT,NINE
  1MONOSPACE DIGIT ZERO,3ONE,TWO,n,FOUR,FIVE,SIX,SEVEN,EIGHT,NINE,0SIGNWRITINGpj,1HAND-CIRCLE+1
  HAND-CUP+1,HAND-OVAL+1,HAND-HINGE+1,HAND-ANGLE+1,pjBENT,HAND-CIRCLE+2,peUNDER+2,2jRAISED KNUCKLE
  3CUPPED,HINGED,4LOW,1HAND-CIRCLEjHINGE,pjc,HAND-CIRCLE+2,pjcBENT,4RAISED KNUCKLES,HINGED,3UP+2
  HINGEDcUP,cCONJOINED,5jBENT,c+1,CUPPED,HINGED,4CROSSED,1HAND-CIRCLE+3,pcBENT OVERj,2jBENT OVERc
  3ce,1HAND-CIRCLE+3,pjcSTRAIGHTeBENT,4BENTeSTRAIGHT,eBENT,HINGED SPREADeSIDE,3UPcHINGED+2
  7CONJOINED,3HINGEDcUPeSIDE,cUP SPREADeFORWARD,4eCUPPED,5CIRCLED,HOOKED,HINGED,2eBETWEENjcSTRAIGHT
  jcCONJOINEDeSIDE,7CONJOINED,BENT,2ceHOOKEDjUP,jeHOOKEDc+1,3cCONJOINED HINGEDeSIDE,4CROSSED+2
  CONJOINEDeFORWARD,5CUPPED+2,2ceCUPPEDjUP,jeCUPPEDc+1,ceCIRCLEDj+1,6HINGED,2jeANGLED OUTcUP,5IN+2
  4CIRCLED+2,3ceCONJOINED HINGED,5ANGLED OUT,ANGLED,2ceANGLED OUTjUP,7CROSSED,5jUP,2jeHOOKEDcHINGED
  1HAND-FLAT FOUR FINGERS,4BENT,HINGED,CONJOINED,5SPLIT,1HAND-CLAW FOUR FINGERS CONJOINED
  pFOUR FINGERS CONJOINED BENT,HAND-HINGE FOUR FINGERS CONJOINED,HAND-FLAT FIVE FINGERS SPREAD
  2HEEL+3,FIVE FINGERS SPREAD FOUR BENT,HEEL+5,FIVE FINGERS SPREAD+1,HEEL+4
  FIVE FINGERS SPREADeFORWARD,1HAND-CUP FIVE FINGERS SPREAD,5OPEN,1HAND-HINGE+4
  HAND-OVAL FIVE FINGERS SPREAD,HAND-FLAT FIVE FINGERS SPREAD HINGED,6eSIDE,NOe,1HAND-FLAT
  2BETWEEN PALM FACINGS,HEEL,eSIDE,HEEL+2,eBENT,3FORWARD,2SPLITjeSIDE,3t,4eSIDE,6BENT,3LITTLE
  1HAND-CLAW,2eSIDE,NOe,eFORWARD,1HAND-HOOK CURLICUE,HAND-HOOK,HAND-CUP OPEN,HAND-CUP,2OPENeSIDE,e+1
  OPEN NOe,NO+1,OPENeFORWARD,e+1,1HAND-CURLICUE OPEN,HAND-CURLICUE,HAND-CIRCLE,HAND-OVAL,2eSIDE,NOe
  eFORWARD,1HAND-HINGE OPEN,3eFORWARD,1HAND-HINGE,2b,OPENeSIDE,e+1,OPEN NOe,NO+1,eSIDE TOUCHINGj
  3BETWEENcRING,1HAND-ANGLE,pjcRING,HAND-CIRCLE+3,HAND-HINGE+3,HAND-ANGLE+3,HAND-HINGE LITTLE
  pjcRING BENT,5CONJOINED,1HAND-HINGE+4,pLITTLE DOWN,4RIPPLE STRAIGHT,5CURVED,4OTHERS CIRCLED,3UP
  2eUNDER+2,1HAND-CIRCLE+2,HAND-OVAL+2,HAND-ANGLE+2,pLITTLE RAISED KNUCKLE,3BENT,TOUCHESe,e
  1HAND-HINGE+2,pLITTLEj+1,HAND-HINGE+3,HAND-ANGLE LITTLEjejeOUT,6e,1pLITTLEj,HAND-CIRCLE+2
  HAND-HINGE+2,HAND-ANGLE+2,pjcLITTLE,HAND-CIRCLE+3,HAND-HINGE+3,2RING,1HAND-ANGLEjcLITTLE
  pjcCROSS+1,HAND-CIRCLE+4,pRING DOWN,HAND-HINGE RING DOWNjeHOOKc,HAND-ANGLE RING DOWNcejCROSS
  pRING UP,3RAISED KNUCKLE,LITTLE,1HAND-CIRCLE+2,HAND-OVAL+2,HAND-ANGLE+2,pRINGc,4CONJOINED
  RAISED KNUCKLES,3j,e,1HAND-HOOK+2,pjRING LITTLE,HAND-CIRCLE+3,HAND-CURLICUEjRING LITTLE ON
  HAND-HOOKjRING LITTLE OUT,5IN,UNDER,1HAND-CUPjRING LITTLE,HAND-HINGE+3,HAND-ANGLEjRING LITTLE OUT
  4LITTLE,1pcDOWN,HAND-HINGEc,pcUP,HAND-CIRCLE+2,pcRAISED KNUCKLE,3UPeSIDE,1HAND-HOOKce,pceLITTLE
  3LITTLE,RING+1,1HAND-CIRCLE+3,HAND-CURLICUEcRING LITTLE ON,HAND-CUPcRING LITTLE,HAND-HINGE+3
  HAND-ANGLEcRING LITTLE OUT,5IN,4LITTLE,1HAND-CIRCLEcRING LITTLE BENT
  HAND-CLAWcRING LITTLE CONJOINED,6SIDE,1HAND-HOOKcRING LITTLE CONJOINED OUT,6IN,5CONJOINED
  1HAND-HINGEjHINGED,pjeSIDE,HAND-HINGE+3,pjeSIDEeDIAGONAL,6CONJOINED,BENT,5j+1,BOTH+1,jHINGE
  4FORWARDjSTRAIGHT,6BENT,4HOOK,CURLICUE,CURVEeINSIDE,1HAND-CLAW+5,pjeCURVEeUNDER,4CIRCLE
  1HAND-CUPje,4OPEN,1HAND-HINGE+3,4o,3e,4b,1HAND-ANGLEjeOUT,4IN,3e,1p+1,3HEEL,SIDE DIAGONAL
  4CONJOINED,BENT,3FORWARD,BETWEENjc,4cRING,RING LITTLE,3UNDER TWO FINGERS,OVER+2,UNDERn+1,4FOUR+1
  3OVER FOUR RAISED KNUCKLES,1p,2HEEL,1TOUCH SINGLE,2MULTIPLE,BETWEEN,1GRASP SINGLE,2MULTIPLE
  BETWEEN,1STRIKE SINGLE,2MULTIPLE,BETWEEN,1BRUSH SINGLE,2MULTIPLE,BETWEEN,1RUB SINGLE,2MULTIPLE
  BETWEEN,1SURFACE SYMBOLS,2BETWEEN,1SQUEEZEoSINGLE,2b+1,oMULTIPLE,b+1,SEQUENTIAL,1FLICKoSINGLE,2b+1
  oMULTIPLE,b+1,SEQUENTIAL,1SQUEEZE FLICK ALTERNATING,MOVEMENT-HINGE UP DOWNo,4b,3SEQUENTIAL,2DOWN+1
  UP DOWN ALTERNATINGo,5b,2SIDE TO SIDE SCISSORS,1zFINGER CONTACT,w+2,zSINGLE STRAIGHTb,4g,o,LARGEST
  3WRIST FLEX,2ySTRAIGHT,3WRIST FLEX,ALTERNATING,4WRIST FLEX,2CROSS,TRIPLE STRAIGHT MOVEMENT
  3WRIST FLEX,ALTERNATING,4WRIST FLEX,2BENDb,3g,o,2CORNERb,3g,o,ROTATION,2CHECKb,3g,o,2BOXb,3g,o
  2ZIGZAGb,3g,o,2PEAKSb,3g,o,1TRAVEL-WALLPLANE ROTATION-WALLPLANE SINGLE,3y,ALTERNATING
  2ROTATION-FLOORPLANE SINGLE,3y,ALTERNATING,2SHAKING,ARM SPIRAL SINGLE,4y,TRIPLE
  1MOVEMENT-DIAGONAL AWAYb,3g,o,LARGEST,2TOWARDSb,3g,o,LARGEST,2BETWEEN AWAYb,4g,o,LARGEST,3TOWARDSb
  4g,o,LARGEST,1wSINGLE STRAIGHTb,4g,o,LARGEST,3WRIST FLEX,2ySTRAIGHT,3WRIST FLEX,ALTERNATING
  4WRIST FLEX,2CROSS,TRIPLE STRAIGHT MOVEMENT,3WRIST FLEX,ALTERNATING MOVEMENT,4WRIST FLEX,2BEND
  CORNERb,3g,o,2CHECK,BOXb,3g,o,2ZIGZAGb,3g,o,2PEAKSb,3g,o
  1TRAVEL-FLOORPLANE ROTATION-FLOORPLANE SINGLE,3y,ALTERNATING,2ROTATION-WALLPLANE SINGLE,3y
  ALTERNATING,2SHAKING,1zCURVE QUARTERb,4g,o,LARGEST,3HALF-CIRCLEb,4g,o,LARGEST
  3THREE-QUARTER CIRCLEb,5g,2HUMPb,3g,o,2LOOPb,3g,o,by,2WAVE CURVEyb,5g,o,4TRIPLEb,5g,o
  2CURVE THEN STRAIGHT,CURVED CROSSb,4g,1ROTATION-WALLPLANE SINGLE,2y,ALTERNATE,1zSHAKING
  2CURVE HITTING FRONT WALL,HUMP+3,LOOP+3,WAVE+3,1ROTATION-WALLPLANE SINGLE+3,2y+3,ALTERNATING+3
  1zCURVE HITTING CHEST,2HUMP+2,LOOP+2,WAVE+2,1ROTATION-WALLPLANE SINGLE+2,2y+2,ALTERNATING+2
  1zWAVE DIAGONAL PATHb,5g,o,1wCURVE HITTING CEILINGb,5o,2HUMP HITTING CEILINGby,5o+1,bTRIPLE,o+1
  2LOOP HITTING CEILINGbSINGLE,5o+1,by,o+1,2WAVE HITTING CEILINGb,5o
  1ROTATION-FLOORPLANE SINGLE HITTING CEILING,2y+2,ALTERNATING+2,1wCURVE HITTING FLOORb,5o
  2HUMP HITTING FLOORby,5o+1,TRIPLEbTRIPLE,6o+1,2LOOP HITTING FLOORbSINGLE,5o+1,by,o+1
  2WAVE HITTING FLOORb,5o,1ROTATION-FLOORPLANE SINGLE HITTING FLOOR,2y+2,ALTERNATING+2,1wCURVEb,3g,o
  LARGEST,COMBINED,2HUMPb,LOOP+1,WAVE SNAKE,3b,o,1ROTATION-FLOORPLANE SINGLE,2y,ALTERNATING
  1wSHAKING PARALLEL,zARM CIRCLEbSINGLE,4g+1,by,g+1,1wARM CIRCLE HITTING WALLbSINGLE,6g+1,o+1,by,g+1
  o+1,1zWRIST CIRCLE FRONT SINGLE,5y,1wWRIST CIRCLE HITTING WALL SINGLE,6y,1zFINGER CIRCLES SINGLE
  4y,1wFINGER CIRCLES HITTING WALL SINGLE,6y,1DYNAMIC ARROWHEADb,3o,2FAST,SLOW,TENSE,RELAXED
  SIMULTANEOUS,3ALTERNATING,2EVERY OTHER TIME,GRADUAL,1HEAD,2RIM,zSTRAIGHT,3TILT,2wSTRAIGHT,zCURVE
  w+1,MOVEMENT CIRCLE,1kDIRECTION POSITION NOSE FORWARD TILTING,5UP OR DOWN,8TILTING
  1EYEBROWS STRAIGHT UP,3NEUTRAL,DOWN,1DREAMY EYEBROWS NEUTRAL+1,3DOWN NEUTRAL,UP+1,NEUTRAL UP
  1FOREHEAD NEUTRAL,2CONTACT,WRINKLED,1EYES OPEN,2SQUEEZED,CLOSED,1EYE BLINK SINGLE,3MULTIPLE
  1EYES HALF OPEN,2WIDE+1,HALF CLOSED,WIDENING MOVEMENT,1EYE WINK,EYELASHES UP,2DOWN,FLUTTERING
  1EYEGAZE-WALLPLANE STRAIGHT,3y,ALTERNATING,1EYEGAZE-FLOORPLANE STRAIGHT,3y,ALTERNATING
  1EYEGAZE-WALLPLANE CURVED,EYEGAZE-FLOORPLANE+1,EYEGAZE-WALLPLANE CIRCLING,CHEEKS PUFFED,2NEUTRAL
  SUCKED,1TENSE CHEEKS HIGH,3c,LOW,1EARS,NOSE NEUTRAL,2CONTACT,WRINKLES,WIGGLES,1AIR BLOWING OUT
  2SUCKING IN,BLOWbROTATIONS,SUCK+2,1BREATH INHALE,2EXHALE,1MOUTH CLOSED NEUTRAL,3FORWARD,CONTACT
  2SMILE,3WRINKLED,OPEN,2FROWN,3WRINKLED,OPEN,2OPEN CIRCLE,3FORWARD,WRINKLED,OVAL,4WRINKLED,YAWN
  3RECTANGLE,4WRINKLED,YAWN,2KISS,3FORWARD,WRINKLED,2TENSE,3FORWARD,SUCKED,1LIPS PRESSED TOGETHER
  LIPuOVERx,2xOVERu,1MOUTH CORNERS,2WRINKLES SINGLE,3y,1TONGUE STICKING OUT FAR,2LICKING LIPS
  TIP BETWEEN+1,3TOUCHING INSIDE MOUTH,2INSIDE MOUTH RELAXED,MOVES AGAINST CHEEK,tSTICKING OUT
  3INSIDE MOUTH,1TEETH,2MOVEMENT,ON TONGUE,4MOVEMENT,3LIPS,4MOVEMENT,2BITE LIPS,1zJAW,w+1,NECK,HAIR
  EXCITEMENT,SHOULDER HIP SPINE,3POSITIONS,1WALLPLANE SHOULDER HIP MOVE,FLOORPLANE+3
  SHOULDER TILTING FROM WAIST,TORSO-WALLPLANE STRAIGHT STRETCH,2CURVED BEND
  1TORSO-FLOORPLANE TWISTING,xBODY TILTING FROM HIP JOINTS,LIMB COMBINATION,2LENGTH-1*7,1FINGER
  LOCATION-WALLPLANE SPACE,LOCATION-FLOORPLANE+1,LOCATION HEIGHT,2WIDTH,DEPTH,HEAD NECK,TORSO
  LIMBS DIGITS,1COMMA,FULL STOP,SEMICOLON,COLON,PARENTHESIS,=1DA9B,FILL MODIFIER-2*5,=1DAA1
  ROTATION MODIFIER-2*8,2MODIFIER-10*7,=1DF00,0LATINbLETTER FENG DIGRAPHaTRILL,3REVERSED SCRIPT G
  1LETTERbsTURNED G,bLETTER REVERSED K,LETTERbsLaBELT,bLETTER LEZHaRETROFLEX HOOK,3TURNED YaBELT
  REVERSED ENG,TURNED RaLONG LEG AND RETROFLEX HOOK,TaHOOK+3,1LETTER RETROFLEX CLICKa+2
  bLETTER ESHayBAR,7AND CURL,3TURNED Ta+1,1LETTER INVERTED GLOTTAL STOP+2,2STRETCHED C+2,bsTURNED K
  1bLETTER LaFISHHOOK,3DEZH DIGRAPHaPALATAL HOOK,LaBELT AND+2,ENGa+2,TURNED R+3,RaFISHHOOK AND+2
  TESH DIGRAPHa+2,EZH+3,DEZH DIGRAPHaRETROFLEX+1,IaSTROKE AND+2,Oa+2,TESH DIGRAPH+3,C+3,SaCURL
  =1E000,0COMBINING GLAGOLITIC LETTER AZU,3BUKY,VEDE,GLAGOLI,DOBRO,YESTU,ZHIVETE,=1E008,ZEMLJA,IZHE
  INITIAL+1,I,DJERVI,KAKO,LJUDIJE,MYSLITE,NASHI,ONU,POKOJI,RITSI,SLOVO,TVRIDO,UKU,FRITU,HERU,=1E01B
  SHTA,TSI,CHRIVI,SHA,YERU,YERI,YATI,=1E023,YU,bYUS,=1E026,YO,IOTATEDbYUS,BIG+1,IOTATED+2,FITA
  =1E100,0NYIAKENG PUACHUE HMONG LETTER MA,4TSA,NTA,TA,HA,NA,XA,NKA,CA,LA,SA,ZA,NCA,NTSA,KA,DA,NYA
  NRA,VA,NTXA,TXA,FA,RA,QA,YA,NQA,PA,XYA,NPA,DLA,NPLA,HAH,MLA,PLA,GA,RRA,A,AA,I,U,O,OO,E,EE,W,=1E130
  3TONE-B,TONE-M,TONE-J,TONE-V,TONE-S,TONE-G,TONE-D,SIGN FOR PERSON,5THING,LOCATION,ANIMAL
  INVERTEBRATE,4XW XW,3SYLLABLE LENGTHENER,=1E140,DIGIT ZERO,4ONE,TWO,n,FOUR,FIVE,SIX,SEVEN,EIGHT
  NINE,=1E14E,3LOGOGRAM NYAJ,CIRCLED CA,=1E290,0TOTO LETTER PA,2BA,TA,DA,KA,GA,MA,NA,NGA,SA,CHA,YA
  WA,JA,HA,RA,LA,I,BREATHY I,IU,BREATHY+1,U,E,BREATHY E,EO,BREATHY+1,O,AE,BREATHY+1,A
  1SIGN RISING TONE,=1E2C0,0WANCHO LETTER AA,2A,BA,CA,DA,GA,YA,PHA,LA,NA,PA,TA,THA,FA,SA,SHA,JA,ZA
  WA,VA,KA,O,AU,RA,MA,KHA,HA,E,I,NGA,U,LLHA,TSA,TRA,ONG,AANG,ANG,ING,ON,EN,AAN,NYA,UEN,YIH,1TONE TUP
  2TUPNI,KOI,KOINI,1DIGIT ZERO,2ONE,TWO,n,FOUR,FIVE,SIX,SEVEN,EIGHT,NINE,=1E2FF,1NGUN SIGN,=1E7E0
  0ETHIOPIC SYLLABLE HHYA,2HHYU,HHYI,HHYAA,HHYEE,HHYE,HHYO,=1E7E8,GURAGE HHWA,HHWI,HHWEE,HHWE,=1E7ED
  GURAGE MWI,3MWEE,=1E7F0,QWI,QWEE,QWE,BWI,BWEE,KWI,KWEE,KWE,GWI,GWEE,GWE,FWI,FWEE,PWI,PWEE,=1E800
  0MENDE KIKAKUI SYLLABLE M001 KI,3M002 KA,M003 KU,M065 KEE,M095 KE,M076 KOO,M048 KO,M179 KUA
  M004 WI,M005 WA,M006 WU,M126 WEE,M118 WE,M114 WOO,M045 WO,M194 WUI,M143 WEI,M061 WVI,M049 WVA
  M139 WVE,M007 MIN,M008 MAN,M009 MUN,M059 MEN,M094 MON,M154 MUAN,M189 MUEN,M010 BI,M011 BA,M012 BU
  M150 BEE,M097 BE,M103 BOO,M138 BO,M013 I,M014 A,M015 U,M163 EE,M100 E,M165 OO,M147 O,M137 EI
  M131 IN,M135+1,M195 AN,M178 EN,M019 SI,M020 SA,M021 SU,M162 SEE,M116 SE,M136 SOO,M079 SO,M196 SIA
  M025 LI,M026 LA,M027 LU,M084 LEE,M073 LE,M054 LOO,M153 LO,M110 LONG LE,M016 DI,M017 DA,M018 DU
  M089 DEE,M180 DOO,M181 DO,M022 TI,M023 TA,M024 TU,M091 TEE,M055 TE,M104 TOO,M069 TO,M028 JI
  M029 JA,M030 JU,M157 JEE,M113 JE,M160 JOO,M063 JO,M175 LONG+1,M031 YI,M032 YA,M033 YU,M109 YEE
  M080 YE,M141 YOO,M121 YO,M034 FI,M035 FA,M036 FU,M078 FEE,M075 FE,M133 FOO,M088 FO,M197 FUA
  M101 FAN,M037 NIN,M038 NAN,M039 NUN,M117 NEN,M169 NON,M176 HI,M041 HA,M186 HU,M040 HEE,M096 HE
  M042 HOO,M140 HO,M083 HEEI,M128 HOOU,M053 HIN,M130 HAN,M087 HUN,M052 HEN,M193 HON,M046 HUAN
  M090 NGGI,M043 NGGA,M082 NGGU,M115 NGGEE,M146 NGGE,M156 NGGOO,M120 NGGO,M159 NGGAA,M127 NGGUA
  M086 LONG NGGE,M106 LONG NGGOO,M183 LONG NGGO,M155 GI,M111 GA,M168 GU,M190 GEE,M166 GUEI,M167 GUAN
  M184 NGEN,M057 NGON,M177 NGUAN,M068 PI,M099 PA,M050 PU,M081 PEE,M051 PE,M102 POO,M066 PO,M145 MBI
  M062 MBA,M122 MBU,M047 MBEE,M188+1,M072 MBE,M172 MBOO,M174 MBO,M187 MBUU,M161 LONG MBE
  M105 LONG MBOO,M142 LONG MBO,M132 KPI,M092 KPA,M074 KPU,M044 KPEE,M108 KPE,M112 KPOO,M158 KPO
  M124 GBI,M056 GBA,M148 GBU,M093 GBEE,M107 GBE,M071 GBOO,M070 GBO,M171 RA,M123 NDI,M129 NDA
  M125 NDU,M191 NDEE,M119 NDE,M067 NDOO,M064 NDO,M152 NJA,M192 NJU,M149 NJEE,M134 NJOO,M182 VI
  M185 VA,M151 VU,M173 VEE,M085 VE,M144 VOO,M077 VO,M164 NYIN,M058 NYAN,M170 NYUN,M098 NYEN
  M060 NYON,=1E8C7,2DIGIT ONE,3TWO,n,FOUR,FIVE,SIX,SEVEN,EIGHT,NINE,2COMBINING NUMBER TEENS,4TENS
  HUNDREDS,THOUSANDS,TEN+1,HUNDRED+1,MILLIONS,=1E900,0ADLAMsLETTER ALIF,3DAALI,LAAM,MIIM,BA
  SINNYIIYHE,PE,BHE,RA,E,FA,I,O,DHA,YHE,WAW,NUN,KAF,YA,U,JIIM,CHI,HA,QAAF,GA,NYA,TU,NHA,VA,KHA,GBE
  ZAL,KPO,SHA,1bLETTER ALIF,3DAALI,LAAM,MIIM,BA,SINNYIIYHE,PE,BHE,RA,E,FA,I,O,DHA,YHE,WAW,NUN,KAF,YA
  U,JIIM,CHI,HA,QAAF,GA,NYA,TU,NHA,VA,KHA,GBE,ZAL,KPO,SHA,1ALIF LENGTHENER,VOWEL+1,GEMINATION MARK
  HAMZA,CONSONANT MODIFIER,GEMINATE+2,NUKTA,NASALIZATION MARK,=1E950,DIGIT ZERO,2ONE,TWO,n,FOUR,FIVE
  SIX,SEVEN,EIGHT,NINE,=1E95E,1INITIAL EXCLAMATION MARK,2QUESTION+1,=1EC71,0INDIC SIYAQ NUMBER ONE
  3TWO,n,FOUR,FIVE,SIX,SEVEN,EIGHT,NINE,TEN,TWENTY,THIRTY,FORTY,FIFTY,SIXTY,SEVENTY,EIGHTY,NINETY
  ONE HUNDRED,TWO+1,n+1,FOUR+1,FIVE+1,SIX+1,SEVEN+1,EIGHT+1,NINE+1,ONE THOUSAND,TWO+1,n+1,FOUR+1
  FIVE+1,SIX+1,SEVEN+1,EIGHT+1,NINE+1,TEN+1,TWENTY+1,THIRTY+1,FORTY+1,FIFTY+1,SIXTY+1,SEVENTY+1
  EIGHTY+1,NINETY+1,LAKH,LAKHAN,2LAKH MARK,NUMBER KAROR,3KARORAN,PREFIXED ONE,4TWO,n,FOUR,FIVE,SIX
  SEVEN,EIGHT,NINE,2PLACEHOLDER,FRACTION ONE QUARTER,4HALF,3nQUARTERS,2RUPEE MARK
  NUMBER ALTERNATE ONE,4TWO,TEN THOUSAND,2ALTERNATE LAKH MARK,=1ED01,0OTTOMAN SIYAQ NUMBER ONE,3TWO
  n,FOUR,FIVE,SIX,SEVEN,EIGHT,NINE,TEN,TWENTY,THIRTY,FORTY,FIFTY,SIXTY,SEVENTY,EIGHTY,NINETY
  ONE HUNDRED,TWO+1,n+1,FOUR+1,FIVE+1,SIX+1,SEVEN+1,EIGHT+1,NINE+1,ONE THOUSAND,TWO+1,n+1,FOUR+1
  FIVE+1,SIX+1,SEVEN+1,EIGHT+1,NINE+1,TEN+1,TWENTY+1,THIRTY+1,FORTY+1,FIFTY+1,SIXTY+1,SEVENTY+1
  EIGHTY+1,NINETY+1,2MARRATAN,ALTERNATE NUMBER TWO,4n,FOUR,FIVE,SIX,SEVEN,EIGHT,NINE,TEN
  FOUR HUNDRED,SIX+1,TWO THOUSAND,TEN+1,2FRACTION ONE HALF,4SIXTH,=1EE00,0ARABIC MATHEMATICAL ALEF
  2BEH,JEEM,DAL,=1EE05,WAW,ZAIN,HAH,TAH,YEH,KAF,LAM,MEEM,NOON,SEEN,AIN,FEH,SAD,QAF,REH,SHEEN,TEH
  THEH,KHAH,THAL,DAD,ZAH,GHAIN,DOTLESS BEH,3NOON,FEH,QAF,=1EE21,2INITIAL BEH,3JEEM,=1EE24,HEH,=1EE27
  HAH,=1EE29,YEH,KAF,LAM,MEEM,NOON,SEEN,AIN,FEH,SAD,QAF,=1EE34,SHEEN,TEH,THEH,KHAH,=1EE39,DAD,=1EE3B
  GHAIN,=1EE42,2TAILED JEEM,=1EE47,3HAH,=1EE49,YEH,=1EE4B,LAM,=1EE4D,NOON,SEEN,AIN,=1EE51,SAD,QAF
  =1EE54,SHEEN,=1EE57,KHAH,=1EE59,DAD,=1EE5B,GHAIN,=1EE5D,DOTLESS NOON,=1EE5F,4QAF,=1EE61
  2STRETCHED BEH,3JEEM,=1EE64,HEH,=1EE67,HAH,TAH,YEH,KAF,=1EE6C,MEEM,NOON,SEEN,AIN,FEH,SAD,QAF
  =1EE74,SHEEN,TEH,THEH,KHAH,=1EE79,DAD,ZAH,GHAIN,DOTLESS BEH,=1EE7E,4FEH,=1EE80,2LOOPED ALEF,3BEH
  JEEM,DAL,HEH,WAW,ZAIN,HAH,TAH,YEH,=1EE8B,LAM,MEEM,NOON,SEEN,AIN,FEH,SAD,QAF,REH,SHEEN,TEH,THEH
  KHAH,THAL,DAD,ZAH,GHAIN,=1EEA1,2DOUBLE-STRUCK BEH,3JEEM,DAL,=1EEA5,WAW,ZAIN,HAH,TAH,YEH,=1EEAB,LAM
  MEEM,NOON,SEEN,AIN,FEH,SAD,QAF,REH,SHEEN,TEH,THEH,KHAH,THAL,DAD,ZAH,GHAIN,=1EEF0
  2OPERATOR MEEMaHAHaTATWEEL,3HAHaDAL,=1F000,0MAHJONG TILE EAST WIND,2SOUTH+1,WEST+1,NORTH+1
  RED DRAGON,GREEN+1,q+1,ONE OF CHARACTERS,TWO+2,n+2,FOUR+2,FIVE+2,SIX+2,SEVEN+2,EIGHT+2,NINE+2
  ONE OF BAMBOOS,TWO+2,n+2,FOUR+2,FIVE+2,SIX+2,SEVEN+2,EIGHT+2,NINE+2,ONE OF CIRCLES,TWO+2,n+2
  FOUR+2,FIVE+2,SIX+2,SEVEN+2,EIGHT+2,NINE+2,PLUM,ORCHID,BAMBOO,CHRYSANTHEMUM,SPRING,SUMMER,AUTUMN
  WINTER,JOKER,BACK,=1F030,0DOMINO TILE HORIZONTAL+1,2HORIZONTAL-00-00*7,HORIZONTAL-01-00*7
  HORIZONTAL-02-00*7,HORIZONTAL-03-00*7,HORIZONTAL-04-00*7,HORIZONTAL-05-00*7,HORIZONTAL-06-00*7
  VERTICAL BACK,VERTICAL-00-00*7,VERTICAL-01-00*7,VERTICAL-02-00*7,VERTICAL-03-00*7,VERTICAL-04-00*7
  VERTICAL-05-00*7,VERTICAL-06-00*7,=1F0A0,0PLAYING CARD BACK,2ACE OF SPADES,TWO+2,n+2,FOUR+2,FIVE+2
  SIX+2,SEVEN+2,EIGHT+2,NINE+2,TEN+2,JACK+2,KNIGHT+2,QUEEN+2,KING+2,=1F0B1,ACE OF HEARTS,TWO+2,n+2
  FOUR+2,FIVE+2,SIX+2,SEVEN+2,EIGHT+2,NINE+2,TEN+2,JACK+2,KNIGHT+2,QUEEN+2,KING+2,RED JOKER,=1F0C1
  ACE OF DIAMONDS,TWO+2,n+2,FOUR+2,FIVE+2,SIX+2,SEVEN+2,EIGHT+2,NINE+2,TEN+2,JACK+2,KNIGHT+2,QUEEN+2
  KING+2,mJOKER,=1F0D1,ACE OF CLUBS,TWO+2,n+2,FOUR+2,FIVE+2,SIX+2,SEVEN+2,EIGHT+2,NINE+2,TEN+2
  JACK+2,KNIGHT+2,QUEEN+2,KING+2,qJOKER,FOOL,TRUMP-1*9,TRUMP-10*C,=1F100,0DIGIT ZERO FULL STOP
  2COMMA,1ONE+1,TWO+1,n+1,FOUR+1,FIVE+1,SIX+1,SEVEN+1,EIGHT+1,NINE+1
  0DINGBAT CIRCLED SANS-SERIF DIGIT ZERO,1NEGATIVE+4,0CIRCLED ZEROaSLASH,1ANTICLOCKWISE ARROW
  DOLLAR SIGNaOVERLAID BACKSLASH,0PARENTHESIZED LATINsLETTER A*1A
  TORTOISE SHELL BRACKETED LATINsLETTER S,CIRCLED ITALIC LATINsLETTER C,5R,1CD,WZ,0COPYLEFTv
  SQUARED LATINsLETTER A*1A,1HV,MV,SD,SS,PPV,WC,0NEGATIVE CIRCLED LATINsLETTER A*1A,RAISED MC SIGN
  1MD+1,MR+1,0CIRCLED CC,1CaOVERLAID BACKSLASH,HUMAN FIGURE,0NEGATIVE SQUARED LATINsLETTER A*1A
  CROSSED NEGATIVE SQUARED LATINsLETTER P,NEGATIVE SQUARED IC,2PA,SA,AB,WC,0SQUARE DJ,SQUARED CL
  1COOL,FREE,ID,NEW,NG,OK,SOS,UPaEXCLAMATION MARK,VS,nD,SECOND SCREEN,TWO K,FOUR K,EIGHT K
  FIVE POINT ONE,SEVEN+2,TWENTY-TWO POINT TWO,SIXTY P,ONE HUNDRED TWENTY P,LATINbLETTER D,HC,HDR
  HI-RES,LOSSLESS,SHV,UHD,VOD,0MASK WORKv,=1F1E6,REGIONAL INDICATORvLETTER A*1A,SQUARE HIRAGANA HOKA
  SQUARED KATAKANA KOKO,2SA,=1F210,1CJK UNIFIED IDEOGRAPH-624B,3IDEOGRAPH-5B57,IDEOGRAPH-53CC
  1KATAKANA DE,CJK UNIFIED IDEOGRAPH-4E8C,3IDEOGRAPH-591A,IDEOGRAPH-89E3,IDEOGRAPH-5929
  IDEOGRAPH-4EA4,IDEOGRAPH-6620,IDEOGRAPH-7121,IDEOGRAPH-6599,IDEOGRAPH-524D,IDEOGRAPH-5F8C
  IDEOGRAPH-518D,IDEOGRAPH-65B0,IDEOGRAPH-521D,IDEOGRAPH-7D42,IDEOGRAPH-751F,IDEOGRAPH-8CA9
  IDEOGRAPH-58F0,IDEOGRAPH-5439,IDEOGRAPH-6F14,IDEOGRAPH-6295,IDEOGRAPH-6355,IDEOGRAPH-4E00
  IDEOGRAPH-4E09,IDEOGRAPH-904A,IDEOGRAPH-5DE6,IDEOGRAPH-4E2D,IDEOGRAPH-53F3,IDEOGRAPH-6307
  IDEOGRAPH-8D70,IDEOGRAPH-6253,IDEOGRAPH-7981,IDEOGRAPH-7A7A,IDEOGRAPH-5408,IDEOGRAPH-6E80
  IDEOGRAPH-6709,IDEOGRAPH-6708,IDEOGRAPH-7533,IDEOGRAPH-5272,IDEOGRAPH-55B6,IDEOGRAPH-914D,=1F240
  0TORTOISE SHELL BRACKETED CJK UNIFIED IDEOGRAPH-672C,5IDEOGRAPH-4E09,IDEOGRAPH-4E8C,IDEOGRAPH-5B89
  IDEOGRAPH-70B9,IDEOGRAPH-6253,IDEOGRAPH-76D7,IDEOGRAPH-52DD,IDEOGRAPH-6557,=1F250
  0CIRCLED IDEOGRAPH ADVANTAGE,2ACCEPT,=1F260,0ROUNDEDvFOR FU,3LU,SHOU,XI,SHUANGXI,CAI,=1F300
  0CYCLONE,FOGGY,CLOSED UMBRELLA,NIGHTaSTARS,SUNRISE OVER MOUNTAINS,SUNRISE,CITYSCAPE AT DUSK
  SUNSET OVER BUILDINGS,RAINBOW,BRIDGE AT NIGHT,WATER WAVE,VOLCANO,MILKY WAY
  EARTH GLOBE EUROPE-AFRICA,2AMERICAS,ASIA-AUSTRALIA,0GLOBEaMERIDIANS,NEW MOONv,WAXING CRESCENT+2
  FIRST QUARTER+2,WAXING GIBBOUS+2,FULL+2,WANING GIBBOUS+2,LAST QUARTER+2,WANING CRESCENT+2
  CRESCENT MOON,NEW MOONak,FIRST QUARTER+3,LAST+4,FULL+3,SUN+2,GLOWING STAR,SHOOTING+1,THERMOMETER
  mDROPLET,qSUN,2abCLOUD,BEHIND+1,4aRAIN,0CLOUD+2,2SNOW,LIGHTNING,TORNADO,0FOG,WIND BLOWINGk,HOT DOG
  TACO,BURRITO,CHESTNUT,SEEDLING,EVERGREEN TREE,DECIDUOUS+1,PALM+1,CACTUS,HOT PEPPER,TULIP
  CHERRY BLOSSOM,ROSE,HIBISCUS,SUNFLOWER,BLOSSOM,EAR OF MAIZE,2RICE,0HERB,FOUR LEAF CLOVER
  MAPLE LEAF,FALLEN+1,LEAF FLUTTERING IN WIND,MUSHROOM,TOMATO,AUBERGINE,GRAPES,MELON,WATERMELON
  TANGERINE,LEMON,BANANA,PINEAPPLE,RED APPLE,GREEN+1,PEAR,PEACH,CHERRIES,STRAWBERRY,HAMBURGER
  SLICE OF PIZZA,MEAT ON BONE,POULTRY LEG,RICE CRACKER,1BALL,0COOKED RICE,CURRY AND+1,STEAMING BOWL
  SPAGHETTI,BREAD,FRENCH FRIES,ROASTED SWEET POTATO,DANGO,ODEN,SUSHI,FRIED SHRIMP
  FISH CAKEaSWIRL DESIGN,SOFT ICE CREAM,SHAVED ICE,ICE CREAM,DOUGHNUT,COOKIE,CHOCOLATE BAR,CANDY
  LOLLIPOP,CUSTARD,HONEY POT,SHORTCAKE,BENTO BOX,POT OF FOOD,COOKING,FORK AND KNIFE
  TEACUP WITHOUT HANDLE,SAKE BOTTLE AND CUP,WINE GLASS,COCKTAIL+1,TROPICAL DRINK,BEER MUG
  CLINKING BEER MUGS,BABY BOTTLE,FORK AND KNIFEaPLATE,BOTTLEaPOPPING CORK,POPCORN,RIBBON
  WRAPPED PRESENT,BIRTHDAY CAKE,JACK-O-LANTERN,CHRISTMAS TREE,FATHER CHRISTMAS,FIREWORKS
  FIREWORK SPARKLER,BALLOON,PARTY POPPER,CONFETTI BALL,TANABATA TREE,CROSSED FLAGS,PINE DECORATION
  JAPANESE DOLLS,CARP STREAMER,WIND CHIME,MOON VIEWING CEREMONY,SCHOOL SATCHEL,GRADUATION CAP
  HEARTaTIP ON THEi,BOUQUET OF FLOWERS,MILITARY MEDAL,REMINDER RIBBON,MUSICAL KEYBOARDaJACKS
  STUDIO MICROPHONE,LEVEL SLIDER,CONTROL KNOBS,BEAMED ASCENDING MUSICAL NOTES,1DESCENDING+2
  0FILM FRAMES,ADMISSION TICKETS,CAROUSEL HORSE,FERRIS WHEEL,ROLLER COASTER,FISHING POLE AND FISH
  MICROPHONE,MOVIE CAMERA,CINEMA,HEADPHONE,ARTIST PALETTE,TOP HAT,CIRCUS TENT,TICKET,CLAPPER BOARD
  PERFORMING ARTS,VIDEO GAME,DIRECT HIT,SLOT MACHINE,BILLIARDS,GAME DIE,BOWLING,FLOWER PLAYING CARDS
  MUSICAL NOTE,MULTIPLE MUSICAL NOTES,SAXOPHONE,GUITAR,MUSICAL KEYBOARD,TRUMPET,VIOLIN,MUSICAL SCORE
  RUNNING SHIRTaSASH,TENNIS RACQUET AND BALL,SKI AND SKI BOOT,BASKETBALL AND HOOP,CHEQUERED FLAG
  SNOWBOARDER,RUNNER,SURFER,SPORTS MEDAL,TROPHY,HORSE RACING,AMERICAN FOOTBALL,RUGBY+1,SWIMMER
  WEIGHT LIFTER,GOLFER,RACING MOTORCYCLE,1CAR,0CRICKET BAT AND BALL,VOLLEYBALL
  FIELD HOCKEY STICK AND BALL,ICE HOCKEY STICK AND PUCK,TABLE TENNIS PADDLE AND BALL
  SNOW CAPPED MOUNTAIN,CAMPING,BEACHaUMBRELLA,BUILDING CONSTRUCTION,HOUSE BUILDINGS,CITYSCAPE
  DERELICT HOUSE BUILDING,CLASSICAL+1,DESERT,1ISLAND,0NATIONAL PARK,STADIUM,HOUSE BUILDING,1aGARDEN
  0OFFICE BUILDING,JAPANESE POST OFFICE,EUROPEAN+2,HOSPITAL,BANK,AUTOMATED TELLER MACHINE,HOTEL
  LOVE+1,CONVENIENCE STORE,SCHOOL,DEPARTMENT STORE,FACTORY,IZAKAYA LANTERN,JAPANESE CASTLE
  EUROPEAN+1,qPENNANT,m+1,WAVINGqFLAG,1m+1,0ROSETTE,m+1,LABEL,BADMINTON RACQUET AND SHUTTLECOCK
  BOW AND ARROW,AMPHORA,EMOJI MODIFIER FITZPATRICK TYPE-1-2,3TYPE-3*4,0RAT,MOUSE,OX,WATER BUFFALO
  COW,TIGER,LEOPARD,RABBIT,CAT,DRAGON,CROCODILE,WHALE,SNAIL,SNAKE,HORSE,RAM,GOAT,SHEEP,MONKEY
  ROOSTER,CHICKEN,DOG,PIG,BOAR,ELEPHANT,OCTOPUS,SPIRAL SHELL,BUG,ANT,HONEYBEE,LADY BEETLE,FISH
  TROPICAL+1,BLOWFISH,TURTLE,HATCHING CHICK,BABY+1,FRONT-FACING+2,BIRD,PENGUIN,KOALA,POODLE
  DROMEDARY CAMEL,BACTRIAN+1,DOLPHIN,MOUSEk,COW+1,TIGER+1,RABBIT+1,CAT+1,DRAGON+1,SPOUTING WHALE
  HORSEk,MONKEY+1,DOG+1,PIG+1,FROG+1,HAMSTER+1,WOLF+1,BEAR+1,PANDA+1,PIG NOSE,PAW PRINTS,CHIPMUNK
  EYES,EYE,EAR,NOSE,MOUTH,TONGUE,qUP POINTING BACKHANDj,1DOWN+3,i+3,h+3,0FISTED HAND SIGN,WAVING+2
  OK+2,THUMBS UP+1,1DOWN+1,0CLAPPING HANDS+1,OPEN+2,CROWN,WOMANS HAT,EYEGLASSES,NECKTIE,T-SHIRT
  JEANS,DRESS,KIMONO,BIKINI,WOMANS CLOTHES,PURSE,HANDBAG,POUCH,MANS SHOE,ATHLETIC+1,HIGH-HEELED+1
  WOMANS SANDAL,1BOOTS,0FOOTPRINTS,BUST IN SILHOUETTE,BUSTS+2,BOY,GIRL,MAN,WOMAN,FAMILY
  MAN AND WOMAN HOLDING HANDS,TWO MEN+2,1WOMEN+2,0POLICE OFFICER,WOMANaBUNNY EARS,BRIDEaVEIL
  PERSONaBLOND HAIR,MANaGUA PI MAO,2TURBAN,0OLDER MAN,1WOMAN,0BABY,CONSTRUCTION WORKER,PRINCESS
  JAPANESE OGRE,1GOBLIN,0GHOST,BABY ANGEL,EXTRATERRESTRIAL ALIEN,ALIEN MONSTER,IMP,SKULL
  INFORMATION DESK PERSON,GUARDSMAN,DANCER,LIPSTICK,NAIL POLISH,kMASSAGE,HAIRCUT,BARBER POLE,SYRINGE
  PILL,KISS MARK,LOVE LETTER,RING,GEM STONE,KISS,BOUQUET,COUPLEaHEART,WEDDING,BEATING HEART,BROKEN+1
  TWO HEARTS,SPARKLING HEART,GROWING+1,HEARTaARROW,BLUE HEART,GREEN+1,YELLOW+1,PURPLE+1,HEARTaRIBBON
  REVOLVING HEARTS,HEART DECORATION,DIAMOND SHAPEaA DOT INSIDE,ELECTRIC LIGHT BULB,ANGERv,BOMB
  SLEEPINGv,COLLISION+1,SPLASHING SWEAT+1,DROPLET,DASHv,PILE OF POO,FLEXED BICEPS,DIZZYv
  SPEECH BALLOON,THOUGHT+1,qFLOWER,HUNDRED POINTSv,MONEY BAG,CURRENCY EXCHANGE,HEAVY DOLLAR SIGN
  CREDIT CARD,BANKNOTEaYEN SIGN,2DOLLAR+1,EURO+1,POUND+1,0MONEYaWINGS,CHARTarTREND AND YEN SIGN,SEAT
  PERSONAL COMPUTER,BRIEFCASE,MINIDISC,FLOPPY DISK,OPTICAL DISC,DVD,FILE FOLDER,OPEN+2,PAGEaCURL
  1FACING UP,0CALENDAR,TEAR-OFF+1,CARDj,CHARTarTREND,2l+1,0BAR CHART,CLIPBOARD,PUSHPIN,ROUND+1
  PAPERCLIP,STRAIGHT RULER,TRIANGULAR+1,BOOKMARK TABS,LEDGER,NOTEBOOK,1aDECORATIVE COVER
  0CLOSED BOOK,OPEN+1,GREEN+1,BLUE+1,ORANGE+1,BOOKS,NAME BADGE,SCROLL,MEMO,TELEPHONE RECEIVER,PAGER
  FAX MACHINE,SATELLITE ANTENNA,PUBLIC ADDRESS LOUDSPEAKER,CHEERING MEGAPHONE,OUTBOX TRAY,INBOX+1
  PACKAGE,E-MAILv,INCOMING ENVELOPE,ENVELOPEalARROW ABOVE,CLOSED MAILBOXaLOWERED FLAG,3RAISED+1
  0OPEN+4,3LOWERED+1,0POSTBOX,POSTAL HORN,NEWSPAPER,MOBILE PHONE,2adARROW ATi,0VIBRATION MODE
  MOBILE PHONE OFF,NO MOBILE PHONES,ANTENNAaBARS,CAMERA,1aFLASH,0VIDEO CAMERA,TELEVISION,RADIO
  VIDEOCASSETTE,FILM PROJECTOR,PORTABLE STEREO,PRAYER BEADS,TWISTEDdARROWS
  CLOCKWISEdANDfOPEN CIRCLE+1,7aCIRCLED ONE OVERLAY,1lANDrOPEN CIRCLE ARROWS,0ANTICLOCKWISE+6
  LOW BRIGHTNESSv,HIGH+2,SPEAKERaCANCELLATION STROKE,SPEAKER,1aONE SOUND WAVE,2nSOUND WAVES,0BATTERY
  ELECTRIC PLUG,LEFT-POINTING MAGNIFYING GLASS,RIGHT-POINTING+2,LOCKaINK PEN,CLOSED LOCKaKEY,KEY
  LOCK,OPEN+1,BELL,1aCANCELLATION STROKE,0BOOKMARK,LINKv,RADIO BUTTON,BACKafARROW ABOVE,END+4
  ONaEXCLAMATION MARKaih+2,SOONad+2,TOPar+2,NO ONE UNDER EIGHTEENv,KEYCAP TEN
  INPUTvFOR LATINsLETTERS,4b+1,3NUMBERS,SYMBOLS,LATIN LETTERS,0FIRE,ELECTRIC TORCH,WRENCH,HAMMER
  NUT AND BOLT,HOCHO,PISTOL,MICROSCOPE,TELESCOPE,CRYSTAL BALL,SIX POINTED STARacDOT
  JAPANESEvFOR BEGINNER,TRIDENT EMBLEM,mSQUARE BUTTON,q+2,oRED CIRCLE,1BLUE+1,ORANGE DIAMOND,BLUE+1
  0bORANGE+1,1BLUE+1,0UP-POINTING RED TRIANGLE,DOWN-POINTING+2,UP-POINTINGb+2,DOWN-POINTING+3
  uhSHADOWEDqCIRCLE,x+4,CIRCLED CROSS POMMEE,CROSS POMMEEaHALF-CIRCLE BELOW,1POMMEE
  0NOTCHEDiSEMICIRCLEanDOTS,1h+4,0vFOR MARKS CHAPTER,qLATIN CROSS,HEAVY+2,CELTIC+1,OMv,DOVE OF PEACE
  KAABA,MOSQUE,SYNAGOGUE,MENORAHaNINE BRANCHES,BOWL OF HYGIEIA,CLOCKkONE OCLOCK,2TWO+1,n+1,FOUR+1
  FIVE+1,SIX+1,SEVEN+1,EIGHT+1,NINE+1,TEN+1,ELEVEN+1,TWELVE+1,ONE-THIRTY,TWO-THIRTY,THREE-THIRTY
  FOUR-THIRTY,FIVE-THIRTY,SIX-THIRTY,SEVEN-THIRTY,EIGHT-THIRTY,NINE-THIRTY,TEN-THIRTY,ELEVEN-THIRTY
  TWELVE-THIRTY,0hSPEAKER,2aONE SOUND WAVE,3nSOUND WAVES,0BULLHORN,1aSOUND WAVES,0RINGING BELL,BOOK
  CANDLE,MANTELPIECE CLOCK,mSKULL AND CROSSBONES,NO PIRACY,HOLE,MAN IN BUSINESS SUIT LEVITATING
  SLEUTH OR SPY,DARK SUNGLASSES,SPIDER,1WEB,0JOYSTICK,MAN DANCING,iHAND TELEPHONE RECEIVER
  TELEPHONE RECEIVERaPAGE,hHAND TELEPHONE RECEIVER,qTOUCHTONE TELEPHONE,m+2
  TELEPHONE ON TOP OF MODEM,CLAMSHELL MOBILE PHONE,BACK OF ENVELOPE,STAMPED+1,ENVELOPEaLIGHTNING
  FLYING ENVELOPE,PEN OVER STAMPED+1,LINKED PAPERCLIPS,mPUSHPIN,uiPENCIL,2BALLPOINT PEN,FOUNTAIN+1
  PAINTBRUSH,CRAYON,0iWRITING HAND,TURNED OK HAND SIGN,RAISED HANDaFINGERS SPLAYED,REVERSED+5
  1THUMBS UP SIGN,2DOWN+1,1VICTORY HAND,HANDacFINGER EXTENDED
  0RAISED HANDaPART BETWEENcAND RING FINGERS,qDOWN POINTINGiHANDj,SIDEWAYSqiPOINTING+1,2h+2,1mi+2
  2h+2,0miPOINTING BACKHAND+1,1h+3,0SIDEWAYSqUP POINTING+1,2DOWN+2,1mUP+2,2DOWN+2
  0mUP POINTING BACKHAND+1,1DOWN+3,HEART,0DESKTOP COMPUTER,KEYBOARD AND MOUSE,nNETWORKED COMPUTERS
  PRINTER,POCKET CALCULATOR,mHARD SHELL FLOPPY DISK,q+4,SOFT+3,TAPE CARTRIDGE,WIRED KEYBOARD
  ONE BUTTON MOUSE,TWO+2,n+2,TRACKBALL,OLD PERSONAL COMPUTER,HARD DISK,SCREEN,PRINTER ICON,FAX+1
  OPTICAL DISC+1,DOCUMENTaTEXT,3AND PICTURE,2PICTURE,0FRAME+2,2TILES,AN X,0mFOLDER,FOLDER,OPEN+1
  CARDjDIVIDERS,1FILE BOX,0FILE CABINET,EMPTY NOTE,2PAGE,PAD,0NOTE,1PAGE,PAD,0EMPTY DOCUMENT,1PAGE
  PAGES,0DOCUMENT,PAGE,PAGES,WASTEBASKET,SPIRAL NOTE PAD,1CALENDAR+1,0DESKTOP WINDOW,MINIMIZE
  MAXIMIZE,OVERLAP,CLOCKWISEhANDiSEMICIRCLE ARROWS,CANCELLATION X,INCREASE FONT SIZEv,DECREASE+3
  COMPRESSION,OLD KEY,ROLLED-UP NEWSPAPER,PAGEaCIRCLED TEXT,STOCK CHART,DAGGER KNIFE,LIPS
  SPEAKING HEAD IN SILHOUETTE,nRAYS ABOVE,2BELOW,i,h,0iSPEECH BUBBLE,h+2,TWO SPEECH BUBBLES,n+2
  iTHOUGHT BUBBLE,h+2,iANGER+1,h+2,MOOD+1,LIGHTNING+2,1MOOD,0BALLOT BOXaBALLOT,1SCRIPT X,BOXa+2
  BOLD+2,BOXa+3,0LIGHT CHECK MARK,BALLOT BOXaBOLD CHECK,WORLD MAP,MOUNT FUJI,TOKYO TOWER
  STATUE OF LIBERTY,SILHOUETTE OF JAPAN,MOYAI,GRINNINGk,2aSMILING EYES,0kaTEARS OF JOY
  SMILINGkaOPEN MOUTH,5AND SMILING EYES,6COLD SWEAT,TIGHTLY-CLOSED EYES,3HALO,HORNS,0WINKINGk
  SMILINGkaSMILING EYES,kSAVOURING DELICIOUS FOOD,RELIEVEDk,SMILINGkaHEART-SHAPED EYES,3SUNGLASSES
  0SMIRKINGk,NEUTRAL+1,EXPRESSIONLESS+1,UNAMUSED+1,kaCOLD SWEAT,PENSIVEk,CONFUSED+1,CONFOUNDED+1
  KISSING+1,kTHROWING A KISS,KISSINGkaSMILING EYES,3CLOSED+1,0kaSTUCK-OUT TONGUE,4AND WINKING EYE
  5TIGHTLY-CLOSED EYES,0DISAPPOINTEDk,WORRIED+1,ANGRY+1,POUTING+1,CRYING+1,PERSEVERING+1
  kaLOOK OF TRIUMPH,DISAPPOINTED BUT RELIEVEDk,FROWNINGkaOPEN MOUTH,ANGUISHEDk,FEARFUL+1,WEARY+1
  SLEEPY+1,TIRED+1,GRIMACING+1,LOUDLY CRYING+1,kaOPEN MOUTH,HUSHEDk,kaOPEN MOUTH AND COLD SWEAT
  1SCREAMING IN FEAR,0ASTONISHEDk,FLUSHED+1,SLEEPING+1,DIZZY+1,kWITHOUT MOUTH,1aMEDICAL MASK
  0GRINNING CATkaSMILING EYES,CATkaTEARS OF JOY,SMILING CATkaOPEN MOUTH,4HEART-SHAPED EYES
  0CATkaWRY SMILE,KISSING CATkaCLOSED EYES,POUTING CATk,CRYING+2,WEARY+2,SLIGHTLY FROWNING+1
  1SMILING+1,0UPSIDE-DOWN+1,kaROLLING EYES,2NO GOOD GESTURE,OK+1,0PERSON BOWING DEEPLY
  SEE-NO-EVIL MONKEY,HEAR-NO-EVIL+1,SPEAK-NO-EVIL+1,HAPPY PERSON RAISING ONE HAND
  PERSON RAISING BOTH HANDS IN CELEBRATION,1FROWNING,aPOUTINGk,2FOLDED HANDS
  0NORTH WEST POINTING LEAF,SOUTH+3,NORTH EAST+2,SOUTH+3,TURNED NORTH WEST+2,1SOUTH+3,NORTH EAST+2
  SOUTH+3,0NORTH WEST POINTING VINE+1,SOUTH+4,NORTH EAST+3,SOUTH+4,HEAVY NORTH WEST+3,1SOUTH+4
  NORTH EAST+3,SOUTH+4,0NORTH WEST POINTING BUD,SOUTH+3,NORTH EAST+2,SOUTH+3,HEAVY NORTH WEST+2
  1SOUTH+3,NORTH EAST+2,SOUTH+3,0HOLLOW QUILT SQUARE ORNAMENT,4INmSQUARE
  0SOLID QUILT SQUARE ORNAMENT,4INmSQUARE,0fROCKET,r+1,d+1,l+1,SCRIPT LIGATURE ET ORNAMENT,HEAVY+4
  LIGATURE OPEN+2,HEAVY+4,1AMPERSAND+1,0SWASH+2,SANS-SERIF HEAVYyTURNED COMMA QUOTATION MARK+1
  3COMMA+3,2LOW+5,0HEAVY INTERROBANG+1,SANS-SERIF+2,HEAVY+3,VERY HEAVY SOLIDUS,2REVERSE+1
  0CHECKER BOARD,REVERSE+2,ROCKET,HELICOPTER,STEAM LOCOMOTIVE,RAILWAY CAR,HIGH-SPEED TRAIN
  2aBULLET NOSE,0TRAIN,METRO,LIGHT RAIL,STATION,TRAM,1CAR,0BUS,ONCOMING+1,TROLLEYBUS,BUS STOP
  MINIBUS,AMBULANCE,FIRE ENGINE,POLICE CAR,ONCOMING+2,TAXI,ONCOMING+1,AUTOMOBILE,ONCOMING+1
  RECREATIONAL VEHICLE,DELIVERY TRUCK,ARTICULATED LORRY,TRACTOR,MONORAIL,MOUNTAIN RAILWAY
  SUSPENSION+1,MOUNTAIN CABLEWAY,AERIAL TRAMWAY,SHIP,ROWBOAT,SPEEDBOAT,HORIZONTAL TRAFFIC LIGHT
  VERTICAL+2,CONSTRUCTION SIGN,POLICE CARS REVOLVING LIGHT,TRIANGULAR FLAG ON POST,DOOR
  NO ENTRY SIGN,SMOKINGv,NO+2,PUT LITTER IN ITS PLACE+1,DO NOT LITTER+1,POTABLE WATER+1
  NON-POTABLE+2,BICYCLE,NO BICYCLES,BICYCLIST,MOUNTAIN+1,PEDESTRIAN,NO PEDESTRIANS,CHILDREN CROSSING
  MENSv,WOMENS+1,RESTROOM,BABYv,TOILET,WATER CLOSET,SHOWER,BATH,BATHTUB,PASSPORT CONTROL,CUSTOMS
  BAGGAGE CLAIM,iLUGGAGE,TRIANGLEaROUNDED CORNERS,PROHIBITED SIGN,CIRCLED INFORMATION SOURCE,BOYSv
  GIRLS+1,COUCH AND LAMP,SLEEPING ACCOMMODATION,SHOPPING BAGS,BELLHOP BELL,BED,PLACE OF WORSHIP
  OCTAGONAL SIGN,SHOPPING TROLLEY,STUPA,PAGODA,HINDU TEMPLE,HUT,ELEVATOR,=1F6DD,PLAYGROUND SLIDE
  WHEEL,RING BUOY,HAMMER AND WRENCH,SHIELD,OIL DRUM,MOTORWAY,RAILWAY TRACK,MOTOR BOAT
  UP-POINTING MILITARY AIRPLANE,1AIRPLANE,b+1,0b+1,NORTHEAST-POINTING+1,AIRPLANE DEPARTURE,1ARRIVING
  =1F6F0,0SATELLITE,ONCOMING FIRE ENGINE,DIESEL LOCOMOTIVE,PASSENGER SHIP,SCOOTER,MOTOR+1,CANOE,SLED
  FLYING SAUCER,SKATEBOARD,AUTO RICKSHAW,PICKUP TRUCK,ROLLER SKATE,=1F700
  ALCHEMICALvFOR QUINTESSENCE,3AIR,FIRE,EARTH,WATER,AQUAFORTIS,AQUA REGIA,4REGIA-2,VITAE,VITAE-2
  3VINEGAR,VINEGAR-2,VINEGAR-3,SULFUR,PHILOSOPHERS+1,m+1,MERCURY SUBLIMATE,4SUBLIMATE-2,SUBLIMATE-3
  3CINNABAR,SALT,NITRE,VITRIOL,VITRIOL-2,ROCK SALT,4SALT-2,3GOLD,SILVER,IRON ORE,4ORE-2
  3CROCUS OF IRON,REGULUS+2,COPPER ORE,IRON-COPPER+1,SUBLIMATE OF COPPER,CROCUS+2,5COPPER-2
  3COPPER ANTIMONIATE,SALT OF+2,SUBLIMATE OF SALT OF COPPER,VERDIGRIS,TIN ORE,LEAD+1,ANTIMONY+1
  SUBLIMATE OF ANTIMONY,SALT+2,SUBLIMATE OF+3,VINEGAR+2,REGULUS+2,5ANTIMONY-2,3REGULUS,REGULUS-2*3
  ALKALI,ALKALI-2,MARCASITE,SAL-AMMONIAC,ARSENIC,REALGAR,REALGAR-2,AURIPIGMENT,BISMUTH ORE,TARTAR
  TARTAR-2,QUICK LIME,BORAX,BORAX-2,BORAX-3,ALUM,OIL,SPIRIT,TINCTURE,GUM,WAX,POWDER,CALX,TUTTY
  CAPUT MORTUUM,SCEPTER OF JOVE,CADUCEUS,TRIDENT,STARRED+1,LODESTONE,SOAP,URINE,HORSE DUNG,ASHES
  POT+1,BRICK,POWDERED+1,AMALGAM,STRATUM SUPER STRATUM,5STRATUM-2,3SUBLIMATION,PRECIPITATE,DISTILL
  DISSOLVE,DISSOLVE-2,PURIFY,PUTREFACTION,CRUCIBLE,CRUCIBLE-2*4,ALEMBIC,BATH OF MARY,5VAPOURS
  3RETORT,HOUR,NIGHT,DAY-NIGHT,MONTH,HALF DRAM,4OUNCE,=1F780,0mLEFT-POINTING ISOSCELEShTRIANGLE
  1UP-POINTING+3,RIGHT-POINTING+3,DOWN-POINTING+3,SLIGHTLYbCIRCLE,0gBOLDq+1,BOLD+2,HEAVY+2,VERY+3
  EXTREMELY+3,qCIRCLE CONTAININGmb+1,ROUND TARGET,mTINY SQUARE,1SLIGHTLYb+1,0LIGHTq+1,g+2,BOLD+2
  HEAVY+2,VERY+3,EXTREMELY+3,qSQUARE CONTAININGmVERYb+1,4g+1,0SQUARE TARGET,mTINY DIAMOND,1VERYb+1
  g+2,0qDIAMOND CONTAININGmVERY+2,4g+1,0DIAMOND TARGET,mTINY LOZENGE,1VERYb+1,g+2
  0qLOZENGE CONTAININGm+2,THIN GREEK CROSS,LIGHT+2,g+2,BOLD+2,VERY+3,1HEAVY+2,0EXTREMELY+3
  THIN SALTIRE,LIGHT+1,g+1,BOLD+1,HEAVY+1,VERY+2,EXTREMELY+2,LIGHT FIVE SPOKED ASTERISK,g+3,BOLD+3
  HEAVY+3,VERY+4,EXTREMELY+4,LIGHT SIX+2,g+3,BOLD+3,HEAVY+3,VERY+4,EXTREMELY+4,LIGHT EIGHT+2,g+3
  BOLD+3,HEAVY+3,VERY+4,LIGHTnPOINTEDmSTAR,g+4,n+3,gnPOINTED PINWHEEL+1,LIGHT FOUR POINTEDm+1,g+4
  FOUR+3,gFOUR POINTED PINWHEEL+1,REVERSE LIGHT+4,LIGHT FIVE POINTEDm+1,HEAVY+4,gSIX+3,HEAVY+4
  SIX POINTED PINWHEEL+1,gEIGHT POINTEDm+1,HEAVY+4,VERY+5,HEAVY EIGHT POINTED PINWHEEL+1
  LIGHT TWELVE POINTEDm+1,HEAVY+4,3PINWHEEL+1,0CIRCLED TRIANGLE,NEGATIVE+2,CIRCLED SQUARE,NEGATIVE+2
  =1F7E0,oORANGE CIRCLE,1YELLOW+1,GREEN+1,PURPLE+1,BROWN+1,RED SQUARE,BLUE+1,ORANGE+1,YELLOW+1
  GREEN+1,PURPLE+1,BROWN+1,=1F7F0,0HEAVY EQUALS SIGN,=1F800,fARROWabTRIANGLE ARROWHEAD,r+5,d+5,l+5
  fARROWag+2,r+5,d+5,l+5,fARROWao+2,r+5,d+5,l+5,=1F810,fARROWabEQUILATERAL+1,r+5,d+5,l+5,fARROWa+2
  r+4,d+4,l+4,HEAVYf+4,1r+4,d+4,l+4,fARROWao+2,r+5,d+5,l+5,0fTRIANGLE-HEADED ARROWaNARROW SHAFT,r+5
  d+5,l+5,fTRIANGLE-HEADED ARROWag+1,r+5,d+5,l+5,fTRIANGLE-HEADED ARROWaBOLD+1,r+5,d+5,l+5
  fTRIANGLE-HEADED ARROWaHEAVY+1,r+5,d+5,l+5,fTRIANGLE-HEADED ARROWaVERY+2,r+6,d+6,l+6
  fFINGER-POST ARROW,r+2,d+2,l+2,fSQUARED+1,r+2,d+2,l+2,fCOMPRESSED+1,r+2,d+2,l+2,fHEAVY+2,r+3,d+3
  l+3,fHEAVY+1,r+2,d+2,l+2,=1F850,fSANS-SERIF+1,r+2,d+2,l+2,NORTH WEST+2,1EAST+2,0SOUTH+3,1WEST+2
  0ih+2,UP DOWN+2,=1F860,WIDE-HEADEDfLIGHT BARB+1,1r+3,d+3,l+3,NORTH WEST+3,2EAST+3,1SOUTH+4,2WEST+3
  1f+2,r+2,d+2,l+2,NORTH WEST+2,2EAST+2,1SOUTH+3,2WEST+2,1fg+2,r+3,d+3,l+3,NORTH WEST+3,2EAST+3
  1SOUTH+4,2WEST+3,1fHEAVY+2,r+3,d+3,l+3,NORTH WEST+3,2EAST+3,1SOUTH+4,2WEST+3,1fVERY+3,r+4,d+4,l+4
  NORTH WEST+4,2EAST+4,1SOUTH+5,2WEST+4,=1F890,0fTRIANGLE ARROWHEAD,r+2,d+2,l+2,fqARROW WITHIN+2,r+5
  d+5,l+5,fARROWaNOTCHED TAIL,r+4,d+4,l+4,HEAVY ARROW SHAFT WIDTH ONE,4TWO THIRDS,ONE HALF,5THIRD
  0fBOTTOM-SHADEDqARROW,dBOTTOM SHADED+2,fTOP+3,d+4,fLEFT-SHADED+2,dRIGHT-SHADED+2,f+3
  dLEFT-SHADED+2,fBACK-TILTED SHADOWED+2,d+4,fFRONT-TILTED+3,d+4,qARROW SHAFT WIDTH ONE,4TWO THIRDS
  =1F8B0,0ARROW POINTINGrTHEN NORTH WEST,2dTHEN CURVING SOUTH+1,=1F900
  0CIRCLED CROSS FORMEEaFOUR DOTS,4TWO+1,2FORMEE,0iHALF CIRCLEaFOUR DOTS,4n+1,TWO+1,DOT,2CIRCLE
  0DOWNWARD FACING HOOK,2NOTCHED+1,HOOKaDOT,NOTCHED+3,0PINCHED FINGERS,qHEART,BROWN+1,PINCHING HAND
  ZIPPER-MOUTHk,MONEY-MOUTH+1,kaTHERMOMETER,NERDk,THINKING+1,kaHEAD-BANDAGE,ROBOTk,HUGGING+1
  SIGN OF THE HORNS,CALL ME HAND,RAISED BACK OF+1,LEFT-FACING FIST,RIGHT-FACING+1,HANDSHAKE
  HANDajANDcFINGERS CROSSED,I LOVE YOU HAND SIGN,kaCOWBOY HAT,CLOWNk,NAUSEATED+1
  ROLLING ON THE FLOOR LAUGHING,DROOLINGk,LYING+1,kPALM,SNEEZINGk,kaONE EYEBROW RAISED
  GRINNINGkaSTAR EYES,3ONEoAND ONEbEYE,0kaFINGER COVERING CLOSED LIPS
  SERIOUSkaSYMBOLS COVERING MOUTH,SMILINGkaSMILING EYES AND HAND+2,kaOPEN MOUTH VOMITING
  SHOCKEDkaEXPLODING HEAD,PREGNANT WOMAN,BREAST-FEEDING,PALMS UP TOGETHER,SELFIE,PRINCE
  MAN IN TUXEDO,MOTHER CHRISTMAS,SHRUG,PERSON DOING CARTWHEEL,JUGGLING,FENCER,MODERN PENTATHLON
  WRESTLERS,WATER POLO,HANDBALL,DIVING MASK,WILTED FLOWER,DRUMaDRUMSTICKS,CLINKING GLASSES
  TUMBLER GLASS,SPOON,GOAL NET,RIFLE,FIRST PLACE MEDAL,SECOND+2,THIRD+2,BOXING GLOVE
  MARTIAL ARTS UNIFORM,CURLING STONE,LACROSSE STICK AND BALL,SOFTBALL,FLYING DISC,CROISSANT,AVOCADO
  CUCUMBER,BACON,POTATO,CARROT,BAGUETTE BREAD,GREEN SALAD,SHALLOW PAN OF FOOD,STUFFED FLATBREAD,EGG
  GLASS OF MILK,PEANUTS,KIWIFRUIT,PANCAKES,DUMPLING,FORTUNE COOKIE,TAKEOUT BOX,CHOPSTICKS,BOWLaSPOON
  CUPaSTRAW,COCONUT,BROCCOLI,PIE,PRETZEL,CUT OF MEAT,SANDWICH,CANNED FOOD,LEAFY GREEN,MANGO
  MOON CAKE,BAGEL,SMILINGkaSMILING EYES ANDnHEARTS,YAWNINGk,SMILINGkaTEAR,kaPARTY HORN AND PARTY HAT
  2UNEVEN EYES AND WAVY MOUTH,0OVERHEATEDk,FREEZING+1,NINJA,DISGUISEDk,kHOLDING BACK TEARS
  1aPLEADING EYES,0SARI,LAB COAT,GOGGLES,HIKING BOOT,FLAT SHOE,CRAB,LIONk,SCORPION,TURKEY,UNICORNk
  EAGLE,DUCK,BAT,SHARK,OWL,FOXk,BUTTERFLY,DEER,GORILLA,LIZARD,RHINOCEROS,SHRIMP,SQUID,GIRAFFEk
  ZEBRA+1,HEDGEHOG,SAUROPOD,T-REX,CRICKET,KANGAROO,LLAMA,PEACOCK,HIPPOPOTAMUS,PARROT,RACCOON,LOBSTER
  MOSQUITO,MICROBE,BADGER,SWAN,MAMMOTH,DODO,SLOTH,OTTER,ORANGUTAN,SKUNK,FLAMINGO,OYSTER,BEAVER,BISON
  SEAL,GUIDE DOG,PROBING CANE,EMOJI COMPONENT RED HAIR,2CURLY+1,BALD,qHAIR,0BONE,LEG,FOOT,TOOTH
  SUPERHERO,SUPERVILLAIN,SAFETY VEST,EARaHEARING AID,MOTORIZED WHEELCHAIR,MANUAL+1,MECHANICAL ARM
  1LEG,0CHEESE WEDGE,CUPCAKE,SALT SHAKER,BEVERAGE BOX,GARLIC,ONION,FALAFEL,WAFFLE,BUTTER,MATE DRINK
  ICE CUBE,BUBBLE TEA,TROLL,STANDING PERSON,KNEELING+1,DEAF+1,kaMONOCLE,ADULT,CHILD,OLDER ADULT
  BEARDED PERSON,PERSONaHEADSCARF,1IN STEAMY ROOM,CLIMBING,IN LOTUS POSITION,0MAGE,FAIRY,VAMPIRE
  MERPERSON,ELF,GENIE,ZOMBIE,BRAIN,ORANGE HEART,BILLED CAP,SCARF,GLOVES,COAT,SOCKS,RED GIFT ENVELOPE
  FIRECRACKER,JIGSAW PUZZLE PIECE,TEST TUBE,PETRI DISH,DNAyHELIX,COMPASS,ABACUS,FIRE EXTINGUISHER
  TOOLBOX,BRICK,MAGNET,LUGGAGE,LOTION BOTTLE,SPOOL OF THREAD,BALL OF YARN,SAFETY PIN,TEDDY BEAR
  BROOM,BASKET,ROLL OF PAPER,BAR OF SOAP,SPONGE,RECEIPT,NAZAR AMULET,NEUTRAL CHESS KING,2QUEEN,ROOK
  BISHOP,KNIGHT,PAWN,0qCHESS KNIGHT ROTATED FORTY-FIVE DEGREES,m+5,NEUTRAL+5
  qCHESS KING ROTATED NINETY+1,2QUEEN+3,ROOK+3,BISHOP+3,KNIGHT+3,PAWN+3,0mCHESS KING+3,2QUEEN+3
  ROOK+3,BISHOP+3,KNIGHT+3,PAWN+3,0NEUTRAL CHESS KING+3,2QUEEN+3,ROOK+3,BISHOP+3,KNIGHT+3,PAWN+3
  0qCHESS KNIGHT ROTATED ONE HUNDRED THIRTY-FIVE+1,m+7,NEUTRAL+7,qCHESS TURNED KING,3QUEEN,ROOK
  BISHOP,KNIGHT,PAWN,0mCHESS TURNED KING,3QUEEN,ROOK,BISHOP,KNIGHT,PAWN,0NEUTRAL CHESS TURNED KING
  3QUEEN,ROOK,BISHOP,KNIGHT,PAWN,0qCHESS KNIGHT ROTATED TWO HUNDRED TWENTY-FIVE DEGREES,m+7
  NEUTRAL+7,qCHESS KING ROTATED TWO HUNDRED SEVENTY+1,2QUEEN+5,ROOK+5,BISHOP+5,KNIGHT+5,PAWN+5
  0mCHESS KING+5,2QUEEN+5,ROOK+5,BISHOP+5,KNIGHT+5,PAWN+5,0NEUTRAL CHESS KING+5,2QUEEN+5,ROOK+5
  BISHOP+5,KNIGHT+5,PAWN+5,0qCHESS KNIGHT ROTATEDnHUNDRED FIFTEEN+1,m+7,NEUTRAL+7,qCHESS EQUIHOPPER
  m+2,NEUTRAL+2,qCHESS EQUIHOPPER ROTATED NINETY DEGREES,m+5,NEUTRAL+5,qCHESS KNIGHT-QUEEN
  2KNIGHT-ROOK,KNIGHT-BISHOP,0mCHESS KNIGHT-QUEEN,2KNIGHT-ROOK,KNIGHT-BISHOP,=1FA60
  0XIANGQI RED GENERAL,2MANDARIN,ELEPHANT,HORSE,CHARIOT,CANNON,SOLDIER,1mGENERAL,2MANDARIN,ELEPHANT
  HORSE,CHARIOT,CANNON,SOLDIER,=1FA70,0BALLET SHOES,ONE-PIECE SWIMSUIT,BRIEFS,SHORTS,THONG SANDAL
  =1FA78,DROP OF BLOOD,ADHESIVE BANDAGE,STETHOSCOPE,X-RAY,CRUTCH,=1FA80,YO-YO,KITE,PARACHUTE
  BOOMERANG,MAGIC WAND,PINATA,NESTING DOLLS,=1FA90,RINGED PLANET,CHAIR,RAZOR,AXE,DIYA LAMP,BANJO
  MILITARY HELMET,ACCORDION,LONG DRUM,COIN,CARPENTRY SAW,SCREWDRIVER,LADDER,HOOK,MIRROR,WINDOW
  PLUNGER,SEWING NEEDLE,KNOT,BUCKET,MOUSE TRAP,TOOTHBRUSH,HEADSTONE,PLACARD,ROCK,MIRROR BALL
  IDENTIFICATION CARD,LOW BATTERY,HAMSA,=1FAB0,FLY,WORM,BEETLE,COCKROACH,POTTED PLANT,WOOD,FEATHER
  LOTUS,CORAL,EMPTY NEST,NESTaEGGS,=1FAC0,ANATOMICAL HEART,LUNGS,PEOPLE HUGGING,PREGNANT MAN,1PERSON
  0PERSONaCROWN,=1FAD0,BLUEBERRIES,BELL PEPPER,OLIVE,FLATBREAD,TAMALE,FONDUE,TEAPOT,POURING LIQUID
  BEANS,JAR,=1FAE0,MELTINGk,SALUTING+1,kaOPEN EYES AND HAND OVER MOUTH,2PEEKING EYE,DIAGONAL MOUTH
  0DOTTED LINEk,BITING LIP,BUBBLES,=1FAF0,HANDajFINGER ANDeCROSSED,dHAND,f+1,PALM DOWN+1,1UP+1
  0jPOINTING AT THE VIEWER,HEART HANDS,=1FB00,BLOCK SEXTANT-1,1SEXTANT-2,SEXTANT-12,SEXTANT-3
  SEXTANT-13,SEXTANT-23,SEXTANT-123,SEXTANT-4,SEXTANT-14,SEXTANT-24,SEXTANT-124,SEXTANT-34
  SEXTANT-134,SEXTANT-234,SEXTANT-1234,SEXTANT-5,SEXTANT-15,SEXTANT-25,SEXTANT-125,SEXTANT-35
  SEXTANT-235,SEXTANT-1235,SEXTANT-45,SEXTANT-145,SEXTANT-245,SEXTANT-1245,SEXTANT-345,SEXTANT-1345
  SEXTANT-2345,SEXTANT-12345,SEXTANT-6,SEXTANT-16,SEXTANT-26,SEXTANT-126,SEXTANT-36,SEXTANT-136
  SEXTANT-236,SEXTANT-1236,SEXTANT-46,SEXTANT-146,SEXTANT-1246,SEXTANT-346,SEXTANT-1346,SEXTANT-2346
  SEXTANT-12346,SEXTANT-56,SEXTANT-156,SEXTANT-256,SEXTANT-1256,SEXTANT-356,SEXTANT-1356
  SEXTANT-2356,SEXTANT-12356,SEXTANT-456,SEXTANT-1456,SEXTANT-2456,SEXTANT-12456,SEXTANT-3456
  SEXTANT-13456,SEXTANT-23456,0uiBLOCK DIAGONALuciTOut,9h,4xciTOut,9h,5iTOut
  1hBLOCK DIAGONALxciTOx+1,9h,4uciTOxt,9h,5iTOxt,ciTOxch,tTOu+2,i+4,tTOx+2,i+4,tTOx+1
  1iBLOCK DIAGONALxtTOxc+1,5i+4,tTOu+2,i+4,tTOu+1,ciTOuc+1,0xhBLOCK DIAGONALuciTOut,9h,4xciTOut,9h
  5iTOut,1iBLOCK DIAGONALxciTOx+1,9h,4uciTOxt,9h,5iTOxt,ciTOxch,tTOu+2,i+4,tTOx+2,i+4,tTOx+1
  1hBLOCK DIAGONALxtTOxc+1,5i+4,tTOu+2,i+4,tTOu+1,ciTOuc+1,1ANDhANDuTRIANGULARnQUARTERS BLOCK
  0iANDuANDh+4,xANDiANDu+4,iANDxANDh+4,1TRIANGULAR ONE QUARTER+1,0x+4,h+4,u+4
  VERTICAL ONE EIGHTH BLOCK-2*6,HORIZONTAL ONE EIGHTH BLOCK-2*6,iANDuONE EIGHTH BLOCK,2x+3,0h+5,2u+3
  0x+5,HORIZONTAL ONE EIGHTH BLOCK-1358,xONE QUARTER BLOCK,1nEIGHTHS+1,FIVE+2,nQUARTERS+1
  SEVEN EIGHTHS+1,0hONE QUARTER+1,1nEIGHTHS+1,FIVE+2,nQUARTERS+1,SEVEN EIGHTHS+1,0iHALFgSHADE,h+3
  x+3,u+3,INVERSE+2,xHALF BLOCK ANDuHALF+3,2INVERSEgSHADE ANDuHALF BLOCK,=1FB94
  0iHALF INVERSEgSHADE ANDh+2,CHECKER BOARD FILL,INVERSE+3,HEAVY HORIZONTAL+1,xiTOuh+1,1hTOui+1
  ANDuTRIANGULAR HALF BLOCK,0iANDh+3,xiTRIANGULARgSHADE,1h+3,0u+4,1i+3
  0BOX DRAWINGS LIGHT DIAGONALxtTOci,8h,4ciTOut,5h+3,4xtTOci+3,8h+3,4ciTOutTOch,7x+4
  4xtTOciANDchTOut,8hANDci+3,9TOutTOci,8iTOutTOch,4ciTOxtTOchTOut,5hTOxtTOci+3,4DIAMOND
  3HORIZONTALaVERTICAL STROKE,0ARROWHEAD-SHAPED POINTER,INVERSE CHECK MARK,iHALF RUNNING MAN,h+3
  INVERSElARROWaTIPf,fARROW ANDxANDuONE EIGHTH BLOCK,d+8,lARROW ANDh+3,r+6,iHALF FOLDER,h+2
  VOIDED GREEK CROSS,hOPEN SQUARED DOT,NEGATIVE DIAGONAL CROSS,2chTOut,DIAMOND
  0qHEAVY SALTIREaROUNDED CORNERS,iTHIRDqhPOINTINGj,c+5,h+5,NEGATIVE SQUARED QUESTION MARK
  STICK FIGURE,2aARMS RAISED,LEANINGi,3h,2aDRESS,0qUP-POINTING CHEVRON,=1FBF0,SEGMENTED DIGIT ZERO
  2ONE,TWO,n,FOUR,FIVE,SIX,SEVEN,EIGHT,NINE,=E0001,0LANGUAGE TAG,=E0020,TAG SPACE,1EXCLAMATION MARK
  QUOTATION+1,NUMBER SIGN,DOLLAR+1,PERCENT+1,AMPERSAND,APOSTROPHE,iPARENTHESIS,h+1,ASTERISK
  PLUS SIGN,COMMA,HYPHEN-MINUS,FULL STOP,SOLIDUS,DIGIT ZERO,2ONE,TWO,n,FOUR,FIVE,SIX,SEVEN,EIGHT
  NINE,1COLON,SEMICOLON,LESS-THAN SIGN,EQUALS+1,GREATER-THAN+1,QUESTION MARK,COMMERCIAL AT
  LATINsLETTER A*1A,iSQUARE BRACKET,REVERSE SOLIDUS,hSQUARE BRACKET,CIRCUMFLEX ACCENT,LOW LINE
  GRAVE ACCENT,LATINbLETTER A*1A,iCURLY BRACKET,VERTICAL LINE,hCURLY BRACKET,TILDE,0CANCEL TAG
  =E0100,VARIATION SELECTOR-17*53,1SELECTOR-100*9D"

end SchemaGraph.Text.CharacterName
