import SchemaGraph.Text.CharacterName.Table

/-! Names of the characters from U+2000 to U+2FFF: punctuation, arrows, the symbols of
mathematics and technology, and radicals. -/
namespace SchemaGraph.Text.CharacterName

/-- The names from U+2000 to U+2FFF. -/
def symbols : Table where
  shorthand := ["RIGHT", "RIGHTWARDS", "WITH", "LEFTWARDS", "LEFT", "ARROW", "VERTICAL", "DOUBLE",
    "GREATER-THAN", "HORIZONTAL", "CAPITAL", "BLACK", "SMALL", "DOWNWARDS", "WHITE", "ABOVE", "AND",
    "LETTER", "LESS-THAN", "HEAVY", "UPWARDS", "DOWN", "CIRCLE", "LIGHT", "SQUARE", "EQUAL"]
  names := "
  =2000,EN QUAD,EM+1,EN SPACE,EM+1,THREE-PER-EM+1,FOUR-PER-EM+1,SIX-PER-EM+1,FIGURE+1,PUNCTUATION+1
  THIN+1,HAIR+1,ZERO WIDTH+1,2NON-JOINER,JOINER,0LEFT-TO-RIGHT MARK,RIGHT-TO-LEFT+1,HYPHEN
  NON-BREAKING+1,FIGURE DASH,EN+1,EM+1,jBAR,hgLINE,1LOW+1,0eSINGLE QUOTATION MARK,a+3,SINGLE LOW-9+2
  1HIGH-REVERSED-9+2,0eh+2,a+3,hLOW-9+2,1HIGH-REVERSED-9+2,0DAGGER,h+1,BULLET,TRIANGULAR+1
  ONE DOT LEADER,TWO+2,jELLIPSIS,HYPHENATION POINT,LINE SEPARATOR,PARAGRAPH+1
  LEFT-TO-RIGHT EMBEDDING,RIGHT-TO-LEFT+1,POP DIRECTIONAL FORMATTING,LEFT-TO-RIGHT OVERRIDE
  RIGHT-TO-LEFT+1,NARROW NO-BREAK SPACE,PER MILLE SIGN,1TEN THOUSAND+1,0PRIME,h+1,TRIPLE+1
  REVERSED+1,1h+1,TRIPLE+1,0CARET,SINGLE LEFT-POINTING ANGLE QUOTATION MARK,1RIGHT-POINTING+3
  0REFERENCE+1,hEXCLAMATION+1,INTERROBANG,OVERLINE,UNDERTIE,CHARACTER TIE,CARET INSERTION POINT
  ASTERISM,HYPHEN BULLET,FRACTION SLASH,eyBRACKETcQUILL,a+4,hQUESTION MARK,QUESTION EXCLAMATION+1
  EXCLAMATION QUESTION+1,TIRONIAN SIGN ET,REVERSED PILCROW SIGN,ldBULLET,1b+1,0LOW ASTERISK
  REVERSED SEMICOLON,CLOSE UP,TWO ASTERISKS ALIGNED VERTICALLY,COMMERCIAL MINUS SIGN,SWUNG DASH
  INVERTED UNDERTIE,FLOWER PUNCTUATION MARK,THREE DOT PUNCTUATION,QUADRUPLE PRIME
  FOUR DOT PUNCTUATION,FIVE+2,TWO+2,FOUR DOT MARK,DOTTED CROSS,TRICOLON,gFOUR DOTS
  MEDIUM MATHEMATICAL SPACE,WORD JOINER,FUNCTION APPLICATION,INVISIBLE TIMES,1SEPARATOR,PLUS,=2066
  0LEFT-TO-RIGHT ISOLATE,RIGHT-TO-LEFT+1,FIRST STRONG+1,POP DIRECTIONAL+1,INHIBIT SYMMETRIC SWAPPING
  ACTIVATE+2,INHIBIT ARABIC FORM SHAPING,ACTIVATE+3,NATIONAL DIGIT SHAPES,NOMINAL+2,SUPERSCRIPT ZERO
  1LATINmrI,=2074,FOUR,FIVE,SIX,SEVEN,EIGHT,NINE,PLUS SIGN,MINUS,EQUALS SIGN,ePARENTHESIS,a+1
  LATINmrN,0SUBSCRIPT ZERO,1ONE,TWO,THREE,FOUR,FIVE,SIX,SEVEN,EIGHT,NINE,PLUS SIGN,MINUS,EQUALS SIGN
  ePARENTHESIS,a+1,=2090,0LATIN SUBSCRIPTmrA,4E,O,X,SCHWA,H,K*4,P,S,T,=20A0,0EURO-CURRENCY SIGN
  COLON+1,CRUZEIRO+1,FRENCH FRANC+1,LIRA+1,MILL+1,NAIRA+1,PESETA+1,RUPEE+1,WON+1,NEW SHEQEL+1,DONG+1
  EURO+1,KIP+1,TUGRIK+1,DRACHMA+1,GERMAN PENNY+1,PESO+1,GUARANI+1,AUSTRAL+1,HRYVNIA+1,CEDI+1
  LIVRE TOURNOIS+1,SPESMILO+1,TENGE+1,INDIAN RUPEE+1,TURKISH LIRA+1,NORDIC MARK+1,MANAT+1,RUBLE+1
  LARI+1,BITCOIN+1,SOM+1,=20D0,COMBININGeHARPOONp,1a+2,LONGgLINE OVERLAY,SHORT+3,ANTICLOCKWISEfp
  CLOCKWISE+2,e+2,a+2,RING OVERLAY,CLOCKWISE+2,ANTICLOCKWISE+2,THREE DOTSp,FOUR+2,ENCLOSINGw,2y
  DIAMOND,wBACKSLASH,1eafp,ENCLOSING SCREEN,2KEYCAP,UPWARD POINTING TRIANGLE
  1REVERSE SOLIDUS OVERLAY,hgSTROKE+1,ANNUITY SYMBOL,TRIPLE UNDERDOT,WIDE BRIDGEp,dfOVERLAY
  LONGhSOLIDUS+1,bHARPOONcBARBn,d+4,efBELOW,a+2,ASTERISKp,=2100,0ACCOUNT OF,ADDRESSED TO THE SUBJECT
  DOUBLE-STRUCKkC,DEGREE CELSIUS,CENTRE LINE SYMBOL,CARE OF,CADA UNA,EULER CONSTANT,SCRUPLE
  DEGREE FAHRENHEIT,SCRIPTmG,1kH,0BLACK-LETTER+2,DOUBLE-STRUCK+2,PLANCK CONSTANT,2OVER TWO PI
  0SCRIPTkI,BLACK-LETTER+2,SCRIPTkL,1mL,0L B BAR SYMBOL,DOUBLE-STRUCKkN,NUMERO SIGN
  SOUND RECORDING COPYRIGHT,SCRIPTkP,DOUBLE-STRUCK+2,2Q,0SCRIPTkR,BLACK-LETTER+2,DOUBLE-STRUCK+2
  PRESCRIPTION TAKE,RESPONSE,SERVICE MARK,TELEPHONE SIGN,TRADE MARK+1,VERSICLE,DOUBLE-STRUCKkZ
  OUNCE SIGN,OHM+1,INVERTED+2,BLACK-LETTERkZ,TURNED GREEKmrIOTA,KELVIN SIGN,ANGSTROM+1,SCRIPTkB
  BLACK-LETTERkC,ESTIMATED SYMBOL,SCRIPTmE,1kE,2F,0TURNED+2,SCRIPTkM,1mO,0ALEF SYMBOL,BET+1,GIMEL+1
  DALET+1,INFORMATION SOURCE,ROTATEDkQ,FACSIMILE SIGN,DOUBLE-STRUCKmPI,2GAMMA,1k+1,2PI
  1N-ARY SUMMATION,0TURNED SANS-SERIFkG,3L,0REVERSED+3,TURNED SANS-SERIFkY,DOUBLE-STRUCK ITALICkD
  2mD,3E,I,J,0PROPERTY LINE,TURNED AMPERSAND,PER SIGN,AKTIESELSKAB,TURNEDmF
  SYMBOL FOR SAMARITAN SOURCE,VULGAR FRACTION ONE SEVENTH,3NINTH,TENTH,THIRD,2TWO THIRDS,ONE FIFTH
  TWO FIFTHS,THREE+1,FOUR+1,ONE SIXTH,FIVE SIXTHS,ONE EIGHTH,THREE EIGHTHS,FIVE+1,SEVEN+1
  0FRACTION NUMERATOR ONE,ROMAN NUMERAL+1,2TWO,THREE,FOUR,FIVE,SIX,SEVEN,EIGHT,NINE,TEN,ELEVEN
  TWELVE,FIFTY,ONE HUNDRED,FIVE+1,ONE THOUSAND,0mROMAN NUMERAL ONE,3TWO,THREE,FOUR,FIVE,SIX,SEVEN
  EIGHT,NINE,TEN,ELEVEN,TWELVE,FIFTY,ONE HUNDRED,FIVE+1,ONE THOUSAND,0ROMAN NUMERAL ONE THOUSAND C D
  2FIVE THOUSAND,TEN+1,REVERSED ONE HUNDRED,0LATINmrREVERSED C,ROMAN NUMERAL SIX LATE FORM
  2FIFTY EARLY+1,3THOUSAND,2ONE HUNDRED+1,0VULGAR FRACTION ZERO THIRDS,TURNED DIGIT TWO,2THREE,=2190
  0df,u+1,b+1,n+1,ea+1,UPv+1,NORTH WEST+1,1EAST+1,0SOUTH+2,1WEST+1,0dfcSTROKE,b+3,dWAVEf,b+2
  dTWO HEADED+1,u+3,b+3,n+3,dfcTAIL,b+3,dfFROM BAR,u+3,b+3,n+3,UPvfcBASE,dfcHOOK,b+3,dfcLOOP,b+3
  eaWAVEf,2fcSTROKE,0nZIGZAGf,ufcTIPd,4b,0nfcTIPd,4b,0bfcCORNERn,nfcCORNERd
  ANTICLOCKWISE TOP SEMICIRCLEf,CLOCKWISE+3,NORTH WESTfTO LONG BAR,dfTO BAR OVERbfTO+1
  ANTICLOCKWISE OPENwf,CLOCKWISE+3,dHARPOONcBARBu,4n,0uHARPOONcBARBb,4d,0bHARPOONcBARBu,4n
  0nHARPOONcBARBb,4d,0bfOVERdf,ufdOFn+1,dfOVERb+1,1PAIRED ARROWS,0u+2,b+2,n+2,dHARPOON OVERbHARPOON
  bHARPOON OVERd+1,dhfcSTROKE,ea+4,b+4,dhf,u+2,b+2,n+2,ea+2,UPv+2,NORTH WEST+2,1EAST+2,0SOUTH+3
  1WEST+2,0dTRIPLE+1,b+2,dSQUIGGLE+1,b+2,ufchSTROKE,n+4,dDASHEDf,u+2,b+2,n+2,dfTO BAR,b+3,dof,u+2
  b+2,n+2,uofFROM BAR,3ON PEDESTAL,5cjBAR,6g+1,2hf,4ON PEDESTAL,0bofFROM WALL,NORTH WESTfTO CORNER
  SOUTH EAST+3,UPvof,afcmw,nfdOFuf,THREEbARROWS,dfcgSTROKE,b+4,ea+4,dfch+2,b+5,ea+5,dOPEN-HEADEDf
  b+2,ea+2,FOR ALL,COMPLEMENT,PARTIAL DIFFERENTIAL,THERE EXISTS,1DOES NOT EXIST,0EMPTY SET,INCREMENT
  NABLA,ELEMENT OF,NOT AN+2,m+2,CONTAINS AS MEMBER,DOES NOT CONTAIN+2,mCONTAINS+2,END OF PROOF
  N-ARY PRODUCT,1COPRODUCT,SUMMATION,0MINUS SIGN,MINUS-OR-PLUS+1,DOT PLUS,DIVISION SLASH,SET MINUS
  ASTERISK OPERATOR,RING+1,BULLET+1,yROOT,CUBE+1,FOURTH+1,PROPORTIONAL TO,INFINITY,aANGLE,ANGLE
  MEASURED+1,SPHERICAL+1,DIVIDES,DOES NOT DIVIDE,PARALLEL TO,NOT+2,LOGICALq,1OR,0INTERSECTION,UNION
  INTEGRAL,h+1,TRIPLE+1,CONTOUR+1,SURFACE+1,VOLUME+1,CLOCKWISE+1,1CONTOUR+1,0ANTICLOCKWISE+2
  THEREFORE,BECAUSE,RATIO,PROPORTION,DOT MINUS,EXCESS,GEOMETRIC PROPORTION,HOMOTHETIC,TILDE OPERATOR
  REVERSED TILDE,INVERTED LAZY S,SINE WAVE,WREATH PRODUCT,NOT TILDE,MINUS+1,ASYMPTOTICALLYzTO,NOT+3
  APPROXIMATELY+2,1BUT NOT ACTUALLY+2,0NEITHER APPROXIMATELY NOR+3,ALMOST+2,NOT+3,ALMOSTzOR+2
  TRIPLE TILDE,ALLzTO,EQUIVALENT+1,GEOMETRICALLY+2,DIFFERENCE BETWEEN,APPROACHES THE LIMIT
  GEOMETRICALLYzTO,APPROXIMATELYzTO OR THE IMAGE OF,IMAGE OF OR APPROXIMATELYzTO,COLON EQUALS
  EQUALS COLON,RING INzTO,1z+1,0CORRESPONDS+1,ESTIMATES,EQUIANGULAR TO,STAR EQUALS,DELTAzTO
  zTO BY DEFINITION,MEASURED BY,QUESTIONEDzTO,NOT+2,IDENTICAL+1,NOT+2,STRICTLY EQUIVALENT+1,sORz+1
  i+3,sOVER+2,i+3,sBUT NOT+2,i+4,MUCHs,1i,0BETWEEN,NOT EQUIVALENT TO,1s,i,0NEITHERsNORzTO,1i+3
  0sOR EQUIVALENT+1,i+3,NEITHERsNOR+2,1i+3,0sORi,iORs,NEITHERsNORi,1iNORs,0PRECEDES,SUCCEEDS
  PRECEDES ORzTO,SUCCEEDS+3,PRECEDES OR EQUIVALENT+1,SUCCEEDS+3,DOES NOT PRECEDE,2SUCCEED,0SUBSET OF
  SUPERSET+1,NOT A SUBSET+1,2SUPERSET+1,0SUBSET OF ORzTO,SUPERSET+4,NEITHER A SUBSET OF NOR+2
  2SUPERSET+4,0SUBSET OFcNOT+2,SUPERSET+5,MULTISET,1MULTIPLICATION,UNION,0yIMAGE OF,1ORIGINAL+1
  IMAGE OF ORzTO,ORIGINAL+4,CAP,CUP,0CIRCLED PLUS,1MINUS,TIMES,DIVISION SLASH,DOT OPERATOR,RING+1
  ASTERISK+1,EQUALS,DASH,0SQUARED PLUS,1MINUS,TIMES,DOT OPERATOR,0aTACK,e+1,v+1,UP+1,ASSERTION
  MODELS,TRUE,FORCES,TRIPLEgBARaTURNSTILE,hgBARh+2,DOES NOT PROVE,NOT TRUE,DOES NOT FORCE
  NEGATEDhgBARhaTURNSTILE,PRECEDES UNDER RELATION,SUCCEEDS+2,NORMAL SUBGROUP OF
  CONTAINS AS NORMAL SUBGROUP,NORMAL SUBGROUP OF ORzTO,CONTAINS AS NORMAL SUBGROUP+3,ORIGINAL OF
  IMAGE+1,MULTIMAP,HERMITIAN CONJUGATE MATRIX,INTERCALATE,XOR,NAND,NOR,aANGLEcARC,1TRIANGLE
  0N-ARY LOGICALq,2OR,1INTERSECTION,UNION,0DIAMOND OPERATOR,DOT+1,STAR+1,DIVISION TIMES,BOWTIE
  eNORMAL FACTOR SEMIDIRECT PRODUCT,a+4,e+2,a+2,REVERSED TILDE EQUALS,CURLY LOGICAL OR,2q,0hSUBSET
  1SUPERSET,INTERSECTION,UNION,0PITCHFORK,zqPARALLEL TO,scDOT,i+2,VERY MUCHs,2i,0szTO OR+1,izTO ORs
  z+3,3i,PRECEDES,SUCCEEDS,0DOES NOT PRECEDE ORz,2SUCCEED+2,0NOTyIMAGE OF ORzTO,2ORIGINAL+4
  0yIMAGE OF OR NOT+2,1ORIGINAL+5,0sBUT NOT EQUIVALENT+1,i+4,PRECEDES+4,SUCCEEDS+4
  NOT NORMAL SUBGROUP OF,DOES NOT CONTAIN AS NORMAL SUBGROUP,NOT NORMAL SUBGROUP OF ORzTO
  DOES NOT CONTAIN AS NORMAL SUBGROUP ORz,gELLIPSIS,MIDLINEj+1,UPaDIAGONAL+1,v+3
  ELEMENT OFcLONGjSTROKE,3gBAR AT END OF+2,0m+A,ELEMENT OFcDOTp,3OVERBAR,0m+4,ELEMENT OFcUNDERBAR
  3TWOjSTROKES,0CONTAINScLONGjSTROKE,2gBAR AT END OF+2,0m+9,CONTAINScOVERBAR,m+3
  Z NOTATION BAG MEMBERSHIP,DIAMETER SIGN,ELECTRICf,HOUSE,UP ARROWHEAD,v+1,PROJECTIVE,PERSPECTIVE
  WAVY LINE,eCEILING,a+1,eFLOOR,a+1,BOTTOMaCROP,1e+1,0TOPa+1,1e+1,0REVERSED NOT SIGN,yLOZENGE,ARC
  SEGMENT,SECTOR,TELEPHONE RECORDER,POSITION INDICATOR,VIEWDATAy,PLACE OF INTEREST SIGN,TURNED NOT+1
  WATCH,HOURGLASS,TOPeCORNER,1a+1,0BOTTOMe+1,1a+1,0TOP HALF INTEGRAL,BOTTOM+2,FROWN,SMILE
  UP ARROWHEAD BETWEEN TWOjBARS,OPTION KEY,ERASE TO THEa,X IN A RECTANGLE BOX,KEYBOARD
  LEFT-POINTING ANGLE BRACKET,RIGHT-POINTING+2,ERASE TO THEe,BENZENE RING,CYLINDRICITY
  ALL AROUND-PROFILE,SYMMETRY,TOTAL RUNOUT,DIMENSION ORIGIN,CONICAL TAPER,SLOPE,COUNTERBORE
  COUNTERSINK,APL FUNCTIONAL SYMBOL I-BEAM,3SQUISH QUAD,QUADz,4DIVIDE,DIAMOND,JOT,w,3wSTILE,4JOT
  3SLASH BAR,BACKSLASH+1,QUAD SLASH,4BACKSLASH,s,i,3dVANE,b+1,QUADdf,4b+1,3wBACKSLASH,vTACK UNDERBAR
  DELTA STILE,QUADvCARET,4DELTA,3vTACK JOT,uVANE,QUADuf,UP TACK OVERBAR,DEL STILE,QUAD UP CARET,4DEL
  3UP TACK JOT,nVANE,QUADnf,QUOTE UNDERBAR,DELTA+1,DIAMOND+1,JOT+1,w+1,UP SHOE JOT,QUOTE QUAD,wSTAR
  QUAD COLON,UP TACK DIAERESIS,DEL+1,STAR+1,JOT+1,w+1,vSHOE STILE,e+2,TILDE DIAERESIS,i+1,COMMA BAR
  DEL TILDE,ZILDE,STILE TILDE,SEMICOLON UNDERBAR,QUAD NOTz,4QUESTION,3vCARET TILDE,UP+2,IOTA,RHO
  OMEGA,ALPHA UNDERBAR,EPSILON+1,IOTA+1,OMEGA+1,ALPHA,0NOT CHECK MARK,aANGLEcnZIGZAGf
  SHOULDERED OPEN BOX,BELL SYMBOL,gLINEcMIDDLE DOT,INSERTION SYMBOL,CONTINUOUS UNDERLINE+1
  DISCONTINUOUS+2,EMPHASIS+1,COMPOSITION+1,oycCENTREgLINE,ENTER SYMBOL,ALTERNATIVE KEY+1,HELM+1
  CIRCLEDjBARcNOTCH,1TRIANGLEv,0BROKENwcNORTHWESTf,UNDO SYMBOL,MONOSTABLE+1,HYSTERESIS+1
  OPEN-CIRCUIT-OUTPUT H-TYPE+1,1L-TYPE+1,0PASSIVE-PULL-DOWN-OUTPUT+1,PASSIVE-PULL-UP-OUTPUT+1
  DIRECT CURRENT SYMBOL FORM TWO,SOFTWARE-FUNCTION SYMBOL,APL FUNCTIONAL SYMBOL QUAD
  DECIMAL SEPARATOR KEY SYMBOL,PREVIOUS PAGE,NEXT+1,PRINT SCREEN SYMBOL,CLEAR+2
  ePARENTHESIS UPPER HOOK,2EXTENSION,LOWER HOOK,0aPARENTHESIS UPPER+1,2EXTENSION,LOWER HOOK
  0eyBRACKET UPPER CORNER,3EXTENSION,LOWER CORNER,0ayBRACKET UPPER+1,3EXTENSION,LOWER CORNER
  0eCURLY BRACKET UPPER HOOK,3MIDDLE PIECE,LOWER HOOK,0CURLY BRACKET EXTENSION
  aCURLY BRACKET UPPER HOOK,3MIDDLE PIECE,LOWER HOOK,0INTEGRAL EXTENSION,jLINE+1
  UPPEReOR LOWERaCURLY BRACKET SECTION,1aOR LOWERe+3,0SUMMATION TOP,1BOTTOM,0TOPyBRACKET,BOTTOM+2
  3OVER TOPyBRACKET,0RADICAL SYMBOL BOTTOM,egBOX LINE,a+3,jSCAN LINE-1,2LINE-3,LINE-7,LINE-9
  0DENTISTRY SYMBOLxgqTOPa,5BOTTOM+1,4cw,3vqj+2,UP+4,gcTRIANGLE,vqj+2,UP+4,gqWAVE,vqjc+1,UP+4,vqj
  UP+2,gqTOPe,5BOTTOM+1,0yFOOT,RETURN SYMBOL,EJECT+1,gLINE EXTENSION,METRICAL BREVE,1LONG OVER SHORT
  SHORT OVER LONG,LONG OVER TWO SHORTS,TWO SHORTS OVER LONG,3JOINED,1TRISEME,TETRASEME,PENTASEME
  0EARTH GROUND,FUSE,TOP PARENTHESIS,BOTTOM+1,TOP CURLY BRACKET,BOTTOM+2,TOP TORTOISE SHELL+1
  BOTTOM+3,oTRAPEZIUM,BENZENE RINGcw,STRAIGHTNESS,FLATNESS,AC CURRENT,ELECTRICAL INTERSECTION
  DECIMAL EXPONENT SYMBOL,lRIGHT-POINTINGhTRIANGLE,1LEFT-POINTING+2,UP-POINTING+2,DOWN-POINTING+2
  RIGHT-POINTINGhTRIANGLEcgBAR,LEFT-POINTING+5,RIGHT-POINTING TRIANGLEch+2,0ALARM CLOCK,STOPWATCH
  TIMER CLOCK,HOURGLASScFLOWING SAND,lMEDIUM LEFT-POINTING TRIANGLE,2RIGHT-POINTING+1,UP-POINTING+1
  DOWN-POINTING+1,0hgBAR,lyFOR STOP,1wFOR RECORD,0POWER SYMBOL,1ON-OFF+1,ON+1,SLEEP+1
  0OBSERVER EYE+1,SYMBOL FOR NULL,2START OF HEADING,4TEXT,2END+2,4TRANSMISSION,2ENQUIRY,ACKNOWLEDGE
  BELL,BACKSPACE,jTABULATION,LINE FEED,gTABULATION,FORM FEED,CARRIAGE RETURN,SHIFT OUT,3IN
  2DATA LINK ESCAPE,DEVICE CONTROL ONE,4TWO,THREE,FOUR,2NEGATIVE ACKNOWLEDGE,SYNCHRONOUS IDLE
  END OF TRANSMISSION BLOCK,CANCEL,END OF MEDIUM,SUBSTITUTE,ESCAPE,FILE SEPARATOR,GROUP+1,RECORD+1
  UNIT+1,SPACE,DELETE,0BLANK SYMBOL,OPEN BOX,SYMBOL FOR NEWLINE,2DELETE FORM TWO,SUBSTITUTE+2,=2440
  0OCR HOOK,1CHAIR,FORK,INVERTED+1,BELT BUCKLE,BOW TIE,BRANCH BANK IDENTIFICATION,AMOUNT OF CHECK
  DASH,CUSTOMER ACCOUNT NUMBER,hBACKSLASH,=2460,0CIRCLED DIGIT ONE,2TWO,THREE,FOUR,FIVE,SIX,SEVEN
  EIGHT,NINE,1NUMBER TEN,2ELEVEN,TWELVE,THIRTEEN,FOURTEEN,FIFTEEN,SIXTEEN,SEVENTEEN,EIGHTEEN
  NINETEEN,TWENTY,0PARENTHESIZED DIGIT ONE,2TWO,THREE,FOUR,FIVE,SIX,SEVEN,EIGHT,NINE,1NUMBER TEN
  2ELEVEN,TWELVE,THIRTEEN,FOURTEEN,FIFTEEN,SIXTEEN,SEVENTEEN,EIGHTEEN,NINETEEN,TWENTY
  0DIGIT ONE FULL STOP,1TWO+2,THREE+2,FOUR+2,FIVE+2,SIX+2,SEVEN+2,EIGHT+2,NINE+2,0NUMBER TEN+2
  1ELEVEN+2,TWELVE+2,THIRTEEN+2,FOURTEEN+2,FIFTEEN+2,SIXTEEN+2,SEVENTEEN+2,EIGHTEEN+2,NINETEEN+2
  TWENTY+2,0PARENTHESIZED LATINmrA*1A,CIRCLED LATINkrA*1A,2mrA*1A,1DIGIT ZERO
  0NEGATIVE CIRCLED NUMBER ELEVEN,3TWELVE,THIRTEEN,FOURTEEN,FIFTEEN,SIXTEEN,SEVENTEEN,EIGHTEEN
  NINETEEN,TWENTY,0hCIRCLED DIGIT ONE,3TWO,THREE,FOUR,FIVE,SIX,SEVEN,EIGHT,NINE,2NUMBER TEN
  0NEGATIVE CIRCLED DIGIT ZERO,BOX DRAWINGSxj,2t+1,xg,t+1,xTRIPLE DASHj,t+3,xTRIPLE DASHg,t+3
  xQUADRUPLE DASHj,t+3,xQUADRUPLE DASHg,t+3,xvqa,vxqat,3tqax,2tvqa,xvqe,vxqet,3tqex,2tvqe,xUPqa
  UPxqat,3tqax,2tUPqa,xUPqe,UPxqet,3tqex,2tUPqe,xgqa,gxqat,UPtqavx,vtqaUP+1,gtqa+1,vxqaUPt,UPxqav+1
  tgqa,xgqe,gxqet,UPtqevx,vtqeUP+1,gtqe+1,vxqeUPt,UPxqev+1,tgqe,xvqj,etqavx,atqe+2,vxqjt,3tqjx
  2axqevt,exqa+2,tvqj,xUP+2,etqaUPx,atqe+2,UPxqjt,3tqjx,2axqeUPt,exqa+2,tUPqj,xg+2,etqagx,atqe+2
  gxqjt,UPtqvjx,vtqUP+2,gtq+2,eUPtqav+1,aUPtqe+2,evtqaUP+1,avtqe+2,vxqUPjt,UPxqv+2,axqeg+1,exqa+2
  tgqj,xhDASH+1,t+3,xhDASHg,t+3,hj,3g,2vSINGLEqah,3hqaSINGLE,2hvqa,vSINGLEqeh,3hqeSINGLE,2hvqe
  UP SINGLEqah,3hqaSINGLE,2hUPqa,UP SINGLEqeh,3hqeSINGLE,2hUPqe,gSINGLEqah,3hqaSINGLE,2hgqa
  gSINGLEqeh,3hqeSINGLE,2hgqe,vSINGLEqjh,3hqjSINGLE,2hvqj,UP SINGLEqjh,3hqjSINGLE,2hUPqj,gSINGLEqjh
  3hqjSINGLE,2hgqj,xARCvqa,6e,4UP+2,6a,3DIAGONAL UPPERaTO LOWERe,5eTO LOWERa,4CROSS,3e,UP,a,v,2te
  3UP,a,v,2xeqta,3UPqtv,2teqxa,3UPqxv,0UPPER HALF BLOCK,LOWER ONE EIGHTH+1,2QUARTER+1
  1THREE EIGHTHS+1,HALF+1,FIVE EIGHTHS+1,THREE QUARTERS+1,SEVEN EIGHTHS+1,0FULL+1,eSEVEN EIGHTHS+1
  1THREE QUARTERS+1,FIVE EIGHTHS+1,HALF+1,THREE EIGHTHS+1,ONE QUARTER+1,2EIGHTH+1,0aHALF+1,xSHADE
  MEDIUM+1,DARK+1,UPPER ONE EIGHTH BLOCK,a+3,QUADRANT LOWERe,2a,1UPPERe,3qLOWEReqLOWERa,5a
  4UPPERaqLOWERe,8a,2a,3qLOWERe,6qLOWERa,0ly,o+1,2cROUNDED CORNERS,CONTAININGlmy,0ycjFILL,2g+1
  ORTHOGONAL CROSSHATCH+1,UPPEReTO LOWERa+1,3aTO LOWERe+1,2DIAGONAL CROSSHATCH+1,0lmy,o+2,lRECTANGLE
  o+1,lg+1,o+2,lPARALLELOGRAM,o+1,lUP-POINTING TRIANGLE,o+2,lUP-POINTINGm+1,o+3,lRIGHT-POINTING+1
  o+2,lRIGHT-POINTINGm+1,o+3,lRIGHT-POINTING POINTER,o+2,lDOWN-POINTING TRIANGLE,o+2
  lDOWN-POINTINGm+1,o+3,lLEFT-POINTING+1,o+2,lLEFT-POINTINGm+1,o+3,lLEFT-POINTING POINTER,o+2
  lDIAMOND,o+1,2CONTAININGlmDIAMOND,0FISHEYE,LOZENGE,ow,DOTTED+1,wcgFILL,BULLSEYE,lw,wceHALFl,2a+2
  LOWER+2,UPPER+2,3aQUADRANT+1,2ALL BUT UPPERe+2,0eHALFlw,a+3,INVERSE BULLET,1ow,0UPPER HALF+3
  LOWER+4,UPPEReQUADRANT CIRCULAR ARC,1a+3,0LOWER+4,1e+3,0UPPER HALFw,LOWER+2,lLOWERaTRIANGLE,2e+1
  1UPPER+2,2a+1,0oBULLET,yceHALFl,2a+2,UPPEReDIAGONAL+2,LOWERa+3,0oycgBISECTING LINE
  1UP-POINTING TRIANGLEcDOT,0UP-POINTING TRIANGLEceHALFl,3a+2,0LARGEw,oycUPPEReQUADRANT,3LOWER+2
  4a+1,3UPPER+2,1wcUPPERe+1,3LOWER+2,4a+1,3UPPER+2,0UPPEReTRIANGLE,1a+1,0LOWERe+1,oMEDIUMy,l+2
  oMEDIUMm+1,l+3,LOWERaTRIANGLE,lSUNcRAYS,CLOUD,UMBRELLA,SNOWMAN,COMET,lSTAR,o+1,LIGHTNING
  THUNDERSTORM,SUN,ASCENDING NODE,DESCENDING+1,CONJUNCTION,OPPOSITION,lTELEPHONE,o+1,BALLOT BOX
  2cCHECK,3X,0SALTIRE,UMBRELLAcRAIN DROPS,HOT BEVERAGE,oSHOGI PIECE,l+2,SHAMROCK
  REVERSED ROTATED FLORAL HEART BULLET,lePOINTING INDEX,1a+2,0oe+2,1UP+2,a+2,v+2,0SKULLqCROSSBONES
  CAUTION SIGN,RADIOACTIVE+1,BIOHAZARD+1,CADUCEUS,ANKH,ORTHODOX CROSS,CHI RHO,CROSS OF LORRAINE
  2JERUSALEM,0STARqCRESCENT,FARSI SYMBOL,ADI SHAKTI,HAMMERqSICKLE,PEACE SYMBOL,YIN YANG
  TRIGRAM FOR HEAVEN,2LAKE,FIRE,THUNDER,WIND,WATER,MOUNTAIN,EARTH,0WHEEL OF DHARMA,oFROWNING FACE
  1SMILING+1,0l+2,oSUNcRAYS,FIRST QUARTER MOON,LAST+2,MERCURY,FEMALE SIGN,EARTH,MALE SIGN,JUPITER
  SATURN,URANUS,NEPTUNE,PLUTO,ARIES,TAURUS,GEMINI,CANCER,LEO,VIRGO,LIBRA,SCORPIUS,SAGITTARIUS
  CAPRICORN,AQUARIUS,PISCES,oCHESS KING,2QUEEN,ROOK,BISHOP,KNIGHT,PAWN,0lCHESS KING,2QUEEN,ROOK
  BISHOP,KNIGHT,PAWN,1SPADE SUIT,0oHEART+1,1DIAMOND+1,0lCLUB+1,oSPADE+1,lHEART+1,1DIAMOND+1,0oCLUB+1
  HOT SPRINGS,QUARTER NOTE,EIGHTH+1,BEAMED EIGHTH NOTES,1SIXTEENTH+1,0MUSIC FLAT SIGN,1NATURAL+1
  SHARP+1,0WEST SYRIAC CROSS,EAST+2,UNIVERSAL RECYCLING SYMBOL,RECYCLING SYMBOL FOR TYPE-1 PLASTICS
  3TYPE-2+1,TYPE-3+1,TYPE-4+1,TYPE-5+1,TYPE-6+1,TYPE-7+1,GENERIC MATERIALS
  0lUNIVERSAL RECYCLING SYMBOL,RECYCLED PAPER+1,PARTIALLY-RECYCLED+2,PERMANENT PAPER SIGN
  WHEELCHAIR SYMBOL,DIE FACE-1*6,owcDOTa,3TWO DOTS,0lwcoDOTa,3TWOoDOTS,0MONOGRAM FOR YANG,2YIN
  0DIGRAM FOR GREATER YANG,2LESSER YIN,3YANG,2GREATER YIN,0oFLAG,l+1,HAMMERqPICK,ANCHOR
  CROSSED SWORDS,STAFF OF AESCULAPIUS,SCALES,ALEMBIC,FLOWER,GEAR,STAFF OF HERMES,ATOM SYMBOL
  FLEUR-DE-LIS,OUTLINEDoSTAR,THREE LINES CONVERGINGa,3e,0WARNING SIGN,HIGH VOLTAGE+1
  DOUBLED FEMALE+1,1MALE+1,0INTERLOCKED FEMALEq+2,MALEqFEMALE+1,1cSTROKE+1,3qMALEqFEMALE+1
  0gMALEcSTROKE+1,j+4,MEDIUMow,1l+1,mo+1,0MARRIAGE SYMBOL,DIVORCE+1,UNMARRIED PARTNERSHIP+1,COFFIN
  FUNERAL URN,NEUTER,CERES,PALLAS,JUNO,VESTA,CHIRON,lMOON LILITH,SEXTILE,SEMISEXTILE,QUINCUNX
  SESQUIQUADRATE,SOCCER BALL,BASEBALL,SQUARED KEY,oDRAUGHTS MAN,2KING,0lDRAUGHTS MAN,2KING
  0SNOWMAN WITHOUT SNOW,SUN BEHIND CLOUD,RAIN,lSNOWMAN,THUNDER CLOUDqRAIN,TURNEDoSHOGI PIECE,1l+2
  0oDIAMOND INy,CROSSING LANES,DISABLED CAR,OPHIUCHUS,PICK,CAR SLIDING,HELMETcoCROSS
  CIRCLED CROSSING LANES,CHAINS,NO ENTRY,ALTERNATE ONE-WAYeWAY TRAFFIC,lTWO-WAY+3,o+4,leLANE MERGE
  o+3,DRIVE SLOW SIGN,toDOWN-POINTING TRIANGLE,eCLOSED ENTRY,SQUARED SALTIRE
  FALLING DIAGONAL INowINly,lTRUCK,RESTRICTEDeENTRY-1,2ENTRY-2,0ASTRONOMICAL SYMBOL FOR URANUS
  twcSTROKEqTWO DOTSp,PENTAGRAM,RIGHT-HANDED INTERLACED+1,LEFT-HANDED+2,INVERTED+1,lCROSS ON SHIELD
  SHINTO SHRINE,CHURCH,CASTLE,HISTORIC SITE,GEAR WITHOUT HUB,1cHANDLES,0MAP SYMBOL FOR LIGHTHOUSE
  MOUNTAIN,UMBRELLA ON GROUND,FOUNTAIN,FLAG IN HOLE,FERRY,SAILBOAT,yFOUR CORNERS,SKIER,ICE SKATE
  PERSONcBALL,TENT,JAPANESE BANK SYMBOL,HEADSTONE GRAVEYARD+1,FUEL PUMP,CUP ONly
  oFLAGcjMIDDLElSTRIPE,lSAFETY SCISSORS,UPPER BLADE+1,l+1,LOWER BLADE+1,o+1,1tCHECK MARK
  0TELEPHONE LOCATION SIGN,TAPE DRIVE,AIRPLANE,ENVELOPE,RAISED FIST,1HAND,0VICTORY+1,WRITING+1
  LOWERaPENCIL,PENCIL,UPPERa+1,oNIB,l+1,CHECK MARK,t+2,MULTIPLICATION X,t+2,BALLOT X,t+2
  OUTLINED GREEK CROSS,t+2,OPEN CENTRE+1,t+3,LATIN+1,SHADOWEDo+2,OUTLINED+2,MALTESE+1,STAR OF DAVID
  FOUR TEARDROP-SPOKED ASTERISK,1BALLOON-SPOKED+1,0t+3,FOUR CLUB-SPOKED+1,lFOUR POINTED STAR,o+3
  SPARKLES,STRESS OUTLINEDoSTAR,CIRCLED+2,OPEN CENTREl+1,lCENTREo+1,OUTLINEDl+1,t+3,PINWHEEL+1
  SHADOWEDo+1,tASTERISK,OPEN CENTRE+1,EIGHT SPOKED+1,1POINTEDlSTAR,2PINWHEEL+1,0SIX POINTEDl+1
  EIGHT POINTED RECTILINEAR+2,t+5,TWELVE POINTED+2,SIXTEEN POINTED ASTERISK,TEARDROP-SPOKED+1
  OPEN CENTRE+2,t+2,SIX PETALLEDlqoFLORETTE,l+1,o+1,EIGHT PETALLED OUTLINEDl+1
  CIRCLED OPEN CENTRE EIGHT POINTED STAR,tTEARDROP-SPOKED PINWHEEL ASTERISK,SNOWFLAKE
  TIGHT TRIFOLIATE+1,tCHEVRON+1,SPARKLE,t+1,BALLOON-SPOKED ASTERISK
  EIGHT TEARDROP-SPOKED PROPELLER+1,t+4,CROSS MARK,SHADOWEDow,NEGATIVE SQUARED CROSS MARK
  LOWERaDROP-SHADOWEDoy,UPPER+4,LOWERaSHADOWED+2,UPPER+4,lQUESTION MARK ORNAMENT,o+3,1EXCLAMATION+2
  0lDIAMOND MINUSoX,tEXCLAMATION MARK SYMBOL,xgBAR,MEDIUM+2,t+2
  1SINGLE TURNED COMMA QUOTATION MARK ORNAMENT,2COMMA+3,1hTURNED+4,2COMMA+3,1LOW SINGLE+4,2h+4
  0CURVED STEM PARAGRAPH SIGN+1,tEXCLAMATION MARK+1,1HEART+3,lHEART,0ROTATEDtlHEART BULLET
  FLORAL HEART,ROTATED FLORAL HEART BULLET,MEDIUMePARENTHESIS ORNAMENT,1a+2,FLATTENEDe+2,2a+2
  1LEFT-POINTING ANGLE BRACKET+1,RIGHT-POINTING+3,0tLEFT-POINTING ANGLE QUOTATION MARK+1
  1RIGHT-POINTING+4,LEFT-POINTING ANGLE BRACKET+1,RIGHT-POINTING+3,0xeTORTOISE SHELL+2,1a+4
  0MEDIUMeCURLY+2,1a+3,0DINGBAT NEGATIVE CIRCLED DIGIT ONE,4TWO,THREE,FOUR,FIVE,SIX,SEVEN,EIGHT,NINE
  3NUMBER TEN,1CIRCLED SANS-SERIF DIGIT ONE,4TWO,THREE,FOUR,FIVE,SIX,SEVEN,EIGHT,NINE,3NUMBER TEN
  1NEGATIVE CIRCLED SANS-SERIF DIGIT ONE,5TWO,THREE,FOUR,FIVE,SIX,SEVEN,EIGHT,NINE,4NUMBER TEN
  0tWIDE-HEADEDbf,1PLUS SIGN,MINUS+1,DIVISION+1,SOUTH EASTf,b+1,NORTH EAST+1,0DRAFTING POINTb+1
  tROUND-TIPPED+2,TRIANGLE-HEADED+2,t+3,DASHED+3,t+4,l+2,THREE-D TOP-LIGHTEDbARROWHEAD
  1BOTTOM-LIGHTED+2,0l+2,tlCURVEDnqbf,3u+3,0SQUATl+2,tCONCAVE-POINTED+3,RIGHT-SHADEDo+2
  LEFT-SHADED+3,BACK-TILTED SHADOWED+3,FRONT-TILTED+4,tLOWER RIGHT-SHADOWED+3,1UPPER+4
  0NOTCHED LOWER+4,CURLY LOOP,NOTCHED UPPER RIGHT-SHADOWEDobf,CIRCLEDt+3,WHITE-FEATHERED+2
  BLACK-FEATHERED SOUTH EAST+1,1b+1,NORTH EAST+1,0tBLACK-FEATHERED SOUTH+2,2b+1,NORTH EAST+1
  0TEARDROP-BARBEDb+1,tTEARDROP-SHANKED+2,WEDGE-TAILED+2,t+3,OPEN-OUTLINED+2,hCURLY LOOP
  THREE DIMENSIONAL ANGLE,oTRIANGLE CONTAININGmoTRIANGLE,PERPENDICULAR,OPEN SUBSET,1SUPERSET
  0eS-SHAPED BAG DELIMITER,a+3,ORcDOT INSIDE,REVERSE SOLIDUS PRECEDING SUBSET
  SUPERSET PRECEDING SOLIDUS,gBARcjSTROKE,MATHEMATICAL RISING DIAGONAL,LONG DIVISION
  MATHEMATICAL FALLING DIAGONAL,SQUARED LOGICALq,2OR,0oDIAMONDcCENTRED DOT,qc+1,ELEMENT OF OPENINGu
  LOWERaCORNERcDOT,UPPERe+3,eOUTER JOIN,a+2,FULL+2,LARGE UP TACK,1v+1,0eqahTURNSTILE,3TACK,1MULTIMAP
  0LONGaTACK,1e+1,0UP TACKcwp,LOZENGE DIVIDED BYjRULE,oCONCAVE-SIDED DIAMOND,3cdTICK,4b+1,1ycd+1
  3b+1,0MATHEMATICALeoyBRACKET,1a+3,eANGLE+1,a+2,eh+2,a+3,eoTORTOISE SHELL+1,a+4
  eFLATTENED PARENTHESIS,a+2,0uQUADRUPLEf,n+2,ANTICLOCKWISE GAPPEDw+1,CLOCKWISE+3,afcCIRCLED PLUS
  LONGdf,1b+1,ea+1,dh+1,b+2,ea+2,dfFROM BAR,b+3,dh+3,b+4,2SQUIGGLEf,0BRAILLE PATTERN BLANK,2DOTS-1
  DOTS-2,DOTS-12,DOTS-3,DOTS-13,DOTS-23,DOTS-123,DOTS-4,DOTS-14,DOTS-24,DOTS-124,DOTS-34,DOTS-134
  DOTS-234,DOTS-1234,DOTS-5,DOTS-15,DOTS-25,DOTS-125,DOTS-35,DOTS-135,DOTS-235,DOTS-1235,DOTS-45
  DOTS-145,DOTS-245,DOTS-1245,DOTS-345,DOTS-1345,DOTS-2345,DOTS-12345,DOTS-6,DOTS-16,DOTS-26
  DOTS-126,DOTS-36,DOTS-136,DOTS-236,DOTS-1236,DOTS-46,DOTS-146,DOTS-246,DOTS-1246,DOTS-346
  DOTS-1346,DOTS-2346,DOTS-12346,DOTS-56,DOTS-156,DOTS-256,DOTS-1256,DOTS-356,DOTS-1356,DOTS-2356
  DOTS-12356,DOTS-456,DOTS-1456,DOTS-2456,DOTS-12456,DOTS-3456,DOTS-13456,DOTS-23456,DOTS-123456
  DOTS-7,DOTS-17,DOTS-27,DOTS-127,DOTS-37,DOTS-137,DOTS-237,DOTS-1237,DOTS-47,DOTS-147,DOTS-247
  DOTS-1247,DOTS-347,DOTS-1347,DOTS-2347,DOTS-12347,DOTS-57,DOTS-157,DOTS-257,DOTS-1257,DOTS-357
  DOTS-1357,DOTS-2357,DOTS-12357,DOTS-457,DOTS-1457,DOTS-2457,DOTS-12457,DOTS-3457,DOTS-13457
  DOTS-23457,DOTS-123457,DOTS-67,DOTS-167,DOTS-267,DOTS-1267,DOTS-367,DOTS-1367,DOTS-2367,DOTS-12367
  DOTS-467,DOTS-1467,DOTS-2467,DOTS-12467,DOTS-3467,DOTS-13467,DOTS-23467,DOTS-123467,DOTS-567
  DOTS-1567,DOTS-2567,DOTS-12567,DOTS-3567,DOTS-13567,DOTS-23567,DOTS-123567,DOTS-4567,DOTS-14567
  DOTS-24567,DOTS-124567,DOTS-34567,DOTS-134567,DOTS-234567,DOTS-1234567,DOTS-8,DOTS-18,DOTS-28
  DOTS-128,DOTS-38,DOTS-138,DOTS-238,DOTS-1238,DOTS-48,DOTS-148,DOTS-248,DOTS-1248,DOTS-348
  DOTS-1348,DOTS-2348,DOTS-12348,DOTS-58,DOTS-158,DOTS-258,DOTS-1258,DOTS-358,DOTS-1358,DOTS-2358
  DOTS-12358,DOTS-458,DOTS-1458,DOTS-2458,DOTS-12458,DOTS-3458,DOTS-13458,DOTS-23458,DOTS-123458
  DOTS-68,DOTS-168,DOTS-268,DOTS-1268,DOTS-368,DOTS-1368,DOTS-2368,DOTS-12368,DOTS-468,DOTS-1468
  DOTS-2468,DOTS-12468,DOTS-3468,DOTS-13468,DOTS-23468,DOTS-123468,DOTS-568,DOTS-1568,DOTS-2568
  DOTS-12568,DOTS-3568,DOTS-13568,DOTS-23568,DOTS-123568,DOTS-4568,DOTS-14568,DOTS-24568,DOTS-124568
  DOTS-34568,DOTS-134568,DOTS-234568,DOTS-1234568,DOTS-78,DOTS-178,DOTS-278,DOTS-1278,DOTS-378
  DOTS-1378,DOTS-2378,DOTS-12378,DOTS-478,DOTS-1478,DOTS-2478,DOTS-12478,DOTS-3478,DOTS-13478
  DOTS-23478,DOTS-123478,DOTS-578,DOTS-1578,DOTS-2578,DOTS-12578,DOTS-3578,DOTS-13578,DOTS-23578
  DOTS-123578,DOTS-4578,DOTS-14578,DOTS-24578,DOTS-124578,DOTS-34578,DOTS-134578,DOTS-234578
  DOTS-1234578,DOTS-678,DOTS-1678,DOTS-2678,DOTS-12678,DOTS-3678,DOTS-13678,DOTS-23678,DOTS-123678
  DOTS-4678,DOTS-14678,DOTS-24678,DOTS-124678,DOTS-34678,DOTS-134678,DOTS-234678,DOTS-1234678
  DOTS-5678,DOTS-15678,DOTS-25678,DOTS-125678,DOTS-35678,DOTS-135678,DOTS-235678,DOTS-1235678
  DOTS-45678,DOTS-145678,DOTS-245678,DOTS-1245678,DOTS-345678,DOTS-1345678,DOTS-2345678
  DOTS-12345678,0bTWO-HEADEDfcgSTROKE,4h+2,0dhfc+2,b+5,ea+5,bTWO-HEADEDfFROM BAR,dh+3,b+4,nfcjSTROKE
  u+4,1TRIPLEf,0n+2,dhDASH+1,b+3,dTRIPLE+2,b+3,1TWO-HEADED+3,fcDOTTED STEM,0ufTO BAR,n+3
  bfcTAILcgSTROKE,5h+2,1TWO-HEADEDfcTAIL,5cgSTROKE,6h+2,0dARROW-TAIL,b+1,dh+1,b+2,dfTOlDIAMOND,b+4
  dfFROM BAR+3,b+6,NORTH WESTqSOUTH EASTf,1EASTqSOUTH WEST+1,WESTfcHOOK,EAST+3,0SOUTH+4,1WEST+3
  0NORTH WESTfqNORTH EASTf,1EASTfqSOUTH+2,0SOUTH EASTfqSOUTH WEST+1,1WESTfqNORTH+2
  0RISING DIAGONAL CROSSING FALLING DIAGONAL,FALLING DIAGONAL CROSSING RISING+1
  SOUTH EASTfCROSSING NORTH EASTf,NORTH EASTfCROSSING SOUTH+2,FALLING DIAGONAL CROSSING NORTH+2
  RISING DIAGONAL CROSSING SOUTH+2,NORTH EASTfCROSSING NORTH WEST+1,1WESTfCROSSING NORTH EAST+1
  0WAVEfPOINTING DIRECTLYa,fPOINTINGbTHEN CURVINGu,5n,2nTHEN CURVINGd,5b,0RIGHT-SIDE ARC CLOCKWISEf
  LEFT-SIDE ARC ANTICLOCKWISE+1,TOP+3,BOTTOM+3,TOP ARC CLOCKWISEfcMINUS,2ANTICLOCKWISEfcPLUS
  0LOWERaSEMICIRCULAR CLOCKWISEf,1eSEMICIRCULAR ANTICLOCKWISE+1,0ANTICLOCKWISE CLOSEDw+1,CLOCKWISE+3
  bfpSHORTd+1,dfpSHORTb+1,SHORTbfpd+1,bfcPLUS BELOW,d+4,bfTHROUGH X,eafTHROUGHmw,uTWO-HEADEDfFROM+2
  eBARB UPaBARBvHARPOON,2vaBARB UP+1,0UP BARBavBARBe+1,2evBARBa+1,0eBARB UPaBARB UP+1
  UP BARBavBARBa+1,eBARBvaBARBv+1,UP BARBevBARBe+1,dHARPOONcBARB UP TO BAR,b+6,uHARPOONcBARBa+2,n+6
  dHARPOONcBARBv+2,b+6,uHARPOONcBARBe+2,n+6,dHARPOONcBARB UP FROM+1,b+6,uHARPOONcBARBa+2,n+6
  dHARPOONcBARBv+2,b+6,uHARPOONcBARBe+2,n+6,dHARPOONcBARB UPpdHARPOONcBARBv
  uHARPOONcBARBeBESIDEuHARPOONcBARBa,bHARPOONcBARB UPpbHARPOONcBARBv
  nHARPOONcBARBeBESIDEnHARPOONcBARBa,dHARPOONcBARB UPpbHARPOONcBARB UP,4vpbHARPOONcBARBv
  0bHARPOONcBARB UPpdHARPOONcBARB UP,4vpdHARPOONcBARBv,0dHARPOONcBARB UPpLONG DASH,4vBELOW+2
  0bHARPOONcBARB UPp+2,4vBELOW+2,0uHARPOONcBARBeBESIDEnHARPOONcBARBa,nHARPOONcBARBeBESIDEu+4
  ahfcROUNDED HEAD,EQUALS SIGNpbf,TILDE OPERATOR+3,dfpTILDE OPERATOR,b+4,3ALMOSTzTO,0spdf,dfTHROUGHs
  ipbf,SUBSET+3,dfTHROUGH SUBSET,SUPERSETpdf,eFISH TAIL,a+2,UP+2,v+2,TRIPLEgBAR DELIMITER
  Z NOTATION SPOT,2TYPE COLON,0eoCURLY BRACKET,a+3,eoPARENTHESIS,a+2,Z NOTATIONeIMAGE BRACKET,2a+2
  eBINDING+1,a+2,0eyBRACKETcUNDERBAR,a+4,eyBRACKETcTICK IN TOP CORNER,ayBRACKETcTICK IN BOTTOM+1,e+7
  ayBRACKETcTICK IN TOP+1,eANGLE BRACKETcDOT,a+4,eARCsBRACKET,aARCi+1,he+3,1aARCs+1
  0elTORTOISE SHELL+1,a+4,DOTTED FENCE,gZIGZAG LINE,MEASURED ANGLE OPENINGe,aANGLE VARIANTcy
  MEASUREDaANGLEcDOT,ANGLEcS INSIDE,ACUTE ANGLE,SPHERICAL ANGLE OPENINGe,3UP,0TURNED ANGLE
  REVERSED+1,ANGLEcUNDERBAR,REVERSED+3,OBLIQUE ANGLE OPENING UP,3v
  0MEASURED ANGLEcOPEN ARM ENDING INfPOINTING UPqa,9UPqe,vqa,vqe,aqUP,e+2,aqv,e+2
  0REVERSED EMPTY SET,EMPTY SETcOVERBAR,3mwp,af+1,e+2,0wcjBAR,CIRCLEDg+1,1PARALLEL,REVERSE SOLIDUS
  PERPENDICULAR,0wDIVIDED BYjBARqTOP HALF DIVIDED BYgBAR,1cSUPERIMPOSED X
  0CIRCLED ANTICLOCKWISE-ROTATED DIVISION SIGN,UPfTHROUGHw,CIRCLEDoBULLET,1BULLET,s,i,0wcmwTO THEa
  2TWOjSTROKES+3,0SQUARED RISING DIAGONAL SLASH,1FALLING+2,ASTERISK,mw,y,0TWO JOINED SQUARES
  TRIANGLEcDOTp,2UNDERBAR,0S IN TRIANGLE,TRIANGLEcSERIFS AT BOTTOM,aTRIANGLEpeTRIANGLE
  eTRIANGLE BESIDEgBAR,gBAR BESIDEaTRIANGLE,BOWTIEceHALFl,2a+2,0lBOWTIE,TIMESceHALFl,2a+2
  0oHOURGLASS,l+1,eWIGGLY FENCE,a+2,eh+2,a+3,INCOMPLETE INFINITY,TIE OVER+1,INFINITY NEGATEDcgBAR
  DOUBLE-ENDED MULTIMAP,ycCONTOURED OUTLINE,INCREASES AS,SHUFFLE PRODUCT
  EQUALS SIGNqSLANTED PARALLEL,5cTILDEp,0IDENTICAL TOqSLANTED PARALLEL,GLEICH STARK,THERMODYNAMIC
  DOWN-POINTING TRIANGLEceHALFl,3a+2,0lDIAMONDcvf,1LOZENGE,0owcvf,l+4,ERROR-BARREDoy,1l+1,oDIAMOND
  l+1,ow,l+1,0RULE-DELAYED,REVERSE SOLIDUS OPERATOR,SOLIDUScOVERBAR,REVERSE SOLIDUScjSTROKE
  BIG SOLIDUS,1REVERSE+1,0hPLUS,TRIPLE+1,LEFT-POINTING CURVED ANGLE BRACKET,RIGHT-POINTING+3,TINY
  MINY,N-ARY CIRCLED DOT OPERATOR,2PLUS+1,TIMES+1,1UNION OPERATORcDOT,4PLUS,1yINTERSECTION OPERATOR
  2UNION+1,0TWO LOGICALq+1,2OR+1,0N-ARY TIMES+1,MODULO TWO SUM,SUMMATIONcINTEGRAL
  QUADRUPLE INTEGRAL OPERATOR,FINITE PART INTEGRAL,INTEGRALchSTROKE,1AVERAGEcSLASH
  0CIRCULATION FUNCTION,ANTICLOCKWISE INTEGRATION,LINE INTEGRATIONcRECTANGULAR PATH AROUND POLE
  3SEMICIRCULAR+3,2NOT INCLUDING THE+1,0INTEGRAL AROUND A POINT OPERATOR,QUATERNION INTEGRAL+1
  INTEGRALcdfcHOOK,2TIMES SIGN,INTERSECTION,UNION,OVERBAR,UNDERBAR,0JOIN,LARGEeTRIANGLE OPERATOR
  Z NOTATION SCHEMA COMPOSITION,3PIPING,PROJECTION,0PLUS SIGNcmwp,3CIRCUMFLEX ACCENT+1,TILDE+1
  DOT BELOW,TILDE+1,SUBSCRIPT TWO,lTRIANGLE,0MINUS SIGNcCOMMAp,3DOT BELOW,FALLING DOTS,RISING+1
  0PLUS SIGN INeHALFw,3a+2,0VECTOR OR CROSS PRODUCT,MULTIPLICATION SIGNcDOTp,3UNDERBAR
  0SEMIDIRECT PRODUCTcBOTTOM CLOSED,SMASH PRODUCT,MULTIPLICATION SIGN INeHALFw,3a+2
  0CIRCLED MULTIPLICATION SIGNcCIRCUMFLEX ACCENT,MULTIPLICATION SIGN INhw,CIRCLED DIVISION SIGN
  PLUS SIGN IN TRIANGLE,MINUS+3,MULTIPLICATION+3,INTERIOR PRODUCT,RIGHTHAND+2
  Z NOTATION RELATIONAL COMPOSITION,AMALGAMATION OR COPRODUCT,INTERSECTIONcDOT,UNIONcMINUS SIGN
  2OVERBAR,0INTERSECTION+2,2LOGICALq,0UNIONcLOGICAL OR,1pINTERSECTION,0INTERSECTIONpUNION
  UNIONpBARpINTERSECTION,INTERSECTIONpBARpUNION,UNION BESIDEqJOINEDc+1
  INTERSECTION BESIDEqJOINEDcINTERSECTION,CLOSED UNIONcSERIFS,1INTERSECTION+2,0hyINTERSECTION,2UNION
  0CLOSED UNIONcSERIFSqSMASH PRODUCT,LOGICALqcDOTp,1OR+3,0hLOGICALq,2OR,0TWO INTERSECTING LOGICALq
  3OR,0SLOPING LARGE+1,2q,0LOGICAL OR OVERLAPPING LOGICAL+1,1qcMIDDLE STEM,OR+3,qcjDASH,OR+3
  qchOVERBAR,3UNDERBAR,h+1,0mVEEc+1,LOGICAL ORchOVERBAR,4UNDERBAR,0Z NOTATION DOMAIN ANTIRESTRICTION
  2RANGE+1,0EQUALS SIGNcDOT BELOW,IDENTICALcDOTp,TRIPLEjBARchgSTROKE,4TRIPLE+2,0TILDE OPERATORcDOTp
  3RISING DOTS,0SIMILAR MINUS SIMILAR,CONGRUENTcDOTp,EQUALScASTERISK,ALMOSTzTOcCIRCUMFLEX ACCENT
  APPROXIMATELYzORzTO,EQUALS SIGNpPLUS SIGN,PLUS SIGNpEQUALS+1,EQUALS SIGNpTILDE OPERATOR,hCOLONz
  TWO CONSECUTIVE EQUALS SIGNS,THREE+3,EQUALS SIGNcTWO DOTSpqTWO DOTS BELOW,EQUIVALENTcFOUR DOTSp
  scwINSIDE,i+3,scQUESTION MARKp,i+4,sOR SLANTEDzTO,i+4,sOR SLANTEDzTOcDOT INSIDE,i+7
  sOR SLANTEDzTOcDOTp,i+7,sOR SLANTEDzTOcDOTpa,iOR SLANTEDzTOcDOTpe,sOR APPROXIMATE,i+2
  sqSINGLE-LINE NOTzTO,i+5,sqNOT APPROXIMATE,i+3,spDOUBLE-LINEzpi,ipDOUBLE-LINEzps,spSIMILAR ORz,i+4
  spSIMILARpi,ipSIMILARps,spipDOUBLE-LINEz,ips+3,spSLANTEDzpipSLANTED+1,ipSLANTEDzps+3
  SLANTEDzTO ORs,4i,scDOT INSIDE,i+3,0DOUBLE-LINEzTO ORs,4i,1SLANTEDzTO ORs,5i,0SIMILAR ORs,2i
  1pspEQUALS SIGN,2i+3,0hNESTEDs,2i,scUNDERBAR,0iOVERLAPPINGs,1BESIDE+1,0sCLOSED BY CURVE,i+3
  sCLOSED BY CURVEpSLANTEDz,i+6,SMALLER THAN,LARGER+1,SMALLER THAN ORzTO,LARGER+4,EQUALS SIGNcBUMPYp
  PRECEDESpSINGLE-LINE EQUALS SIGN,SUCCEEDS+4,PRECEDESpSINGLE-LINE NOTzTO,SUCCEEDS+5
  PRECEDESpEQUALS SIGN,SUCCEEDS+3,PRECEDESpNOTzTO,SUCCEEDS+4,PRECEDESpALMOST+2,SUCCEEDS+4
  PRECEDESpNOT+3,SUCCEEDS+5,hPRECEDES,1SUCCEEDS,0SUBSETcDOT,SUPERSET+2,SUBSETcPLUS SIGN BELOW
  SUPERSET+4,SUBSETcMULTIPLICATION+2,SUPERSET+4,SUBSET OF ORzTOcDOTp,SUPERSET+7
  SUBSET OFpEQUALS SIGN,SUPERSET+4,SUBSET OFpTILDE OPERATOR,SUPERSET+4,SUBSET OFpALMOSTzTO
  SUPERSET+5,SUBSET OFpNOT+2,SUPERSET+5,yeOPEN BOX OPERATOR,1a+3,0CLOSED SUBSET,1SUPERSET
  SUBSET ORzTO,SUPERSET+3,0SUBSETpSUPERSET,SUPERSETpSUBSET,SUBSET+2,SUPERSETpSUPERSET,1BESIDE SUBSET
  2qJOINED BY DASHc+1,0ELEMENT OF OPENINGn,PITCHFORKcTEE TOP,TRANSVERSAL INTERSECTION,FORKING
  NONFORKING,SHORTeTACK,1v+1,UP+1,0PERPENDICULARcS,gBAR TRIPLEaTURNSTILE,hgBARe+1,gBARh+2,h+5
  LONG DASH FROMeMEMBER OFhg,SHORTvTACKcOVERBAR,1UP TACKcUNDERBAR,3pSHORTvTACK,0h+2,1UP+1
  STROKE NOT SIGN,0REVERSED+4,DOES NOT DIVIDEcREVERSED NEGATION SLASH,gLINEcwp,4BELOW,0vTACK+3
  PARALLELcjSTROKE,2TILDE OPERATOR,0TRIPLEgBAR BINARY RELATION,3cjSTROKE,1COLON OPERATOR,NESTEDs,2i
  0DOUBLE-LINE SLANTEDsORzTO,2i+3,0TRIPLE SOLIDUS BINARY RELATION,LARGE TRIPLEgBAR OPERATOR
  hSOLIDUS+1,ogBAR,N-ARY+3,NORTH EASTof,1WEST+2,0SOUTH EAST+2,1WEST+2,0ea+2,dl+1,u+2,n+2
  NORTH EAST+2,1WEST+2,0SOUTH EAST+2,1WEST+2,0ea+2,UPv+2,bfcTIPn,4u,0dfcTIPn,4u,0ycTOP HALFl
  2BOTTOM+2,UPPERaDIAGONAL+2,LOWERe+3,0DIAMONDce+2,2a+2,TOP+2,BOTTOM+2,0DOTTEDy,lLARGE+1,o+2
  lVERYm+1,o+3,lPENTAGON,o+1,1HEXAGON,0l+1,j+2,lLARGEw,1MEDIUM DIAMOND,0o+2,lMEDIUM LOZENGE,o+2
  lmDIAMOND,2LOZENGE,0o+2,ljELLIPSE,o+2,lg+1,o+2,efcmw,THREEdARROWS,efcCIRCLED PLUS,LONGdSQUIGGLEf
  dTWO-HEADEDfcgSTROKE,4h+2,3FROM BAR,2TRIPLE DASHf,1fcDOTTED STEM,3TAILcgSTROKE,5h+2
  1TWO-HEADEDfcTAIL,5cgSTROKE,6h+2,1fTHROUGH X,0WAVEfPOINTING DIRECTLYe,EQUALS SIGNpdf
  REVERSE TILDE OPERATOR+3,dfpREVERSE ALMOSTzTO,bfTHROUGHi,3SUPERSET,0dQUADRUPLEf,b+2
  REVERSE TILDE OPERATORpb+1,bfpREVERSE ALMOSTzTO,TILDE OPERATORpdf,dfpALMOSTzTO
  3REVERSE TILDE OPERATOR,0b+5,nTRIANGLE-HEADED ZIGZAGf,SHORT SLANTED NORTH+1,1BACKSLANTED SOUTH+1
  0oMEDIUM STAR,lm+1,o+2,lRIGHT-POINTING PENTAGON,o+2,tLARGEw,1OVALcOVAL INSIDE,wcw+1,w
  CIRCLED SALTIRE,0SLANTED NORTHfcHOOKED HEAD,BACKSLANTED SOUTHfcHOOKED TAIL,SLANTED NORTHfcj+1
  BACKSLANTED SOUTH+4,BENTfPOINTINGnTHEN NORTH EAST,SHORT+7,dTRIANGLE-HEADEDf,u+2,b+2,n+2,ea+2,UPv+2
  NORTH WEST+2,1EAST+2,0SOUTH+3,1WEST+2,0dTRIANGLE-HEADED DASHED+1,u+3,b+3,n+3
  CLOCKWISE TRIANGLE-HEADED OPENw+1,ANTICLOCKWISE+4,dTRIANGLE-HEADEDfTO BAR,u+4,b+4,n+4,=2B76
  NORTH WEST+4,1EAST+4,0SOUTH+5,1WEST+4,0dTRIANGLE-HEADEDfchjSTROKE,u+6,b+6,n+6,jTAB KEY,g+2
  dTRIANGLE-HEADEDfOVERbTRIANGLE-HEADEDf,uTRIANGLE-HEADEDfdOFn+2,bTRIANGLE-HEADEDfOVERd+2
  nTRIANGLE-HEADEDfdOFu+2,dTRIANGLE-HEADED PAIRED ARROWS,u+3,b+3,n+3,dlCIRCLEDof,u+4,b+4,n+4
  ANTICLOCKWISE TRIANGLE-HEADEDaU-SHAPED+1,2BOTTOM+2,e+2,TOP+2,0RETURNe,1a,0NEWLINEe,1a
  0FOUR CORNER ARROWS CIRCLING ANTICLOCKWISE,blf,=2B97,SYMBOL FOR TYPE A ELECTRONICS
  THREE-D TOP-LIGHTEDdEQUILATERAL ARROWHEAD,1RIGHT-LIGHTEDu+2,TOP-LIGHTEDb+2,LEFT-LIGHTEDn+2,0ld+2
  1u+2,b+2,n+2,0nTRIANGLE-HEADEDfcLONG TIPd,6b,0uTRIANGLE-HEADEDfcLONG TIPd,6b
  0dTRIANGLE-HEADEDfcLONG TIPu,b+6,dTRIANGLE-HEADEDfcLONG TIPn,b+6,lCURVEDnqdf,4b+1,2uqd+1,4b+1
  2dqu+1,b+3,dqn+1,b+3,0RIBBONfve,3a,2UPe,3a,2eUP,a+1,ev,a+1,0uofFROM BARcjBAR
  UP ARROWHEAD IN A RECTANGLE BOX,OVERLAPPINGoSQUARES,2ql+1,1l+1,0BALLOT BOXcxX,CIRCLED X,1BOLD X
  0lyCENTRED,1DIAMOND+1,0TURNEDlPENTAGON,jlOCTAGON,l+1,1MEDIUM UP-POINTING TRIANGLE CENTRED
  2DOWN-POINTING+2,LEFT-POINTING+2,RIGHT-POINTING+2,0NEPTUNE FORM TWO,TOP HALFlw,BOTTOM+3
  xFOUR POINTEDlCUSP,ROTATED+5,oFOUR POINTED+1,ROTATED+4,yPOSITION INDICATOR,UNCERTAINTY SIGN
  GROUP MARK,PLUTO FORM TWO,2THREE,FOUR,FIVE,0TRANSPLUTO,PROSERPINA,ASTRAEA,HYGIEA,PHOLUS,NESSUS
  oMOON SELENA,lDIAMOND ON CROSS,TRUExMOON ARTA,CUPIDO,HADES,ZEUS,KRONOS,APOLLON,ADMETOS,VULCANUS
  POSEIDON,eHALFlSTAR,a+3,STARceHALFl,2a+2,0dTWO-HEADEDfcTRIANGLE ARROWHEADS,u+5,b+5,n+5
  ERIS FORM ONE,2TWO,0SEDNA,RUSSIAN ASTROLOGICAL SYMBOL VIGINTILE,3NOVILE,QUINTILE,BINOVILE,SENTAGON
  TREDECILE,0EQUALS SIGNcINFINITY BELOW,UNITED SYMBOL,SEPARATED+1,DOUBLED+1,PASSED+1,REVERSEDaANGLE
  HELLSCHREIBER PAUSE SYMBOL,GLAGOLITICkrAZU,3BUKY,VEDE,GLAGOLI,DOBRO,YESTU,ZHIVETE,DZELO,ZEMLJA
  IZHE,INITIAL+1,I,DJERVI,KAKO,LJUDIJE,MYSLITE,NASHI,ONU,POKOJI,RITSI,SLOVO,TVRIDO,UKU,FRITU,HERU
  OTU,PE,SHTA,TSI,CHRIVI,SHA,YERU,YERI,YATI,SPIDERY HA,YU,mYUS,5cTAIL,3YO,IOTATEDmYUS,BIG+1
  IOTATED+2,FITA,IZHITSA,SHTAPIC,TROKUTASTI A,LATINATE MYSLITE,CAUDATE CHRIVI,1mrAZU,3BUKY,VEDE
  GLAGOLI,DOBRO,YESTU,ZHIVETE,DZELO,ZEMLJA,IZHE,INITIAL+1,I,DJERVI,KAKO,LJUDIJE,MYSLITE,NASHI,ONU
  POKOJI,RITSI,SLOVO,TVRIDO,UKU,FRITU,HERU,OTU,PE,SHTA,TSI,CHRIVI,SHA,YERU,YERI,YATI,SPIDERY HA,YU
  mYUS,5cTAIL,3YO,IOTATEDmYUS,BIG+1,IOTATED+2,FITA,IZHITSA,SHTAPIC,TROKUTASTI A,LATINATE MYSLITE
  CAUDATE CHRIVI,0LATINkrLchBAR,1m+5,krLcMIDDLE TILDE,3PcSTROKE,RcTAIL,1mrAcSTROKE,3TcDIAGONAL+1
  1krHcDESCENDER,m+4,krK+2,m+4,krZ+2,m+4,krALPHA,3McHOOK,TURNED A,4ALPHA,1mrVcaHOOK,krWc+1,m+4
  3VcCURL,1krHALF H,m+3,3TAILLESS PHI,EcNOTCH,TURNED RcTAIL,OcLOW RING INSIDE,1rmkTURNED E
  SUBSCRIPTmrJ,0MODIFIERrkV,LATINkrScSWASH TAIL,3Z+3,0COPTICkrALFA,1m+2,krVIDA,m+2,krGAMMA,m+2
  krDALDA,m+2,krEIE,m+2,krSOU,m+2,krZATA,m+2,krHATE,m+2,krTHETHE,m+2,krIAUDA,m+2,krKAPA,m+2,krLAULA
  m+2,krMI,m+2,krNI,m+2,krKSI,m+2,krO,m+2,krPI,m+2,krRO,m+2,krSIMA,m+2,krTAU,m+2,krUA,m+2,krFI,m+2
  krKHI,m+2,krPSI,m+2,krOOU,m+2,krDIALECT-P ALEF,m+3,krOLD COPTIC AIN,m+4,krCRYPTOGRAMMIC EIE,m+3
  krDIALECT-P KAPA,m+3,krDIALECT-P NI,m+3,krCRYPTOGRAMMIC+1,m+3,krOLD COPTIC OOU,m+4,krSAMPI,m+2
  krCROSSED SHEI,m+3,krOLD COPTIC+1,m+4,krOLD COPTIC ESH,m+4,krAKHMIMIC KHEI,m+3,krDIALECT-P HORI
  m+3,krOLD COPTIC+1,m+4,krOLD COPTIC HA,m+4,krL-SHAPED+1,m+3,krOLD COPTIC HEI,m+4,krOLD COPTIC HAT
  m+4,krOLD COPTIC GANGIA,m+4,krOLD COPTIC DJA,m+4,krOLD COPTIC SHIMA,m+4,krOLD NUBIAN+1,m+4
  krOLD NUBIAN NGI,m+4,krOLD NUBIAN NYI,m+4,krOLD NUBIAN WAU,m+4,SYMBOL KAI,2MI RO,PI+1,STAUROS
  TAU RO,KHI+1,SHIMA SIMA,1krCRYPTOGRAMMIC SHEI,m+3,krCRYPTOGRAMMIC GANGIA,m+3,COMBINING NIp
  2SPIRITUS ASPER,3LENIS,1krBOHAIRIC KHEI,m+3,=2CF9,OLD NUBIAN FULL STOP,3DIRECT QUESTION MARK
  INDIRECT+2,VERSE DIVIDER,1FRACTION ONE HALF,FULL STOP,MORPHOLOGICAL DIVIDER,0GEORGIANmrAN,3BAN,GAN
  DON,EN,VIN,ZEN,TAN,IN,KAN,LAS,MAN,NAR,ON,PAR,ZHAR,RAE,SAN,TAR,UN,PHAR,KHAR,GHAN,QAR,SHIN,CHIN,CAN
  JIL,CIL,CHAR,XAN,JHAN,HAE,HE,HIE,WE,HAR,HOE,=2D27,YN,=2D2D,AEN,=2D30,0TIFINAGHrYA,2YAB,YABH,YAG
  YAGHH,BERBER ACADEMY YAJ,YAJ,YAD,YADH,YADD,YADDH,YEY,YAF,YAK,TUAREG+1,YAKHH,YAH,BERBER ACADEMY+1
  TUAREG+1,YAHH,YAA,YAKH,TUAREG+1,YAQ,TUAREG+1,YI,YAZH,AHAGGAR+1,TUAREG+1,YAL*3,TUAREG YAGN,3YANG
  2YAP,YU,YAR,YARR,YAGH,TUAREG+1,AYER+1,YAS,YASS,YASH,YAT,YATH,YACH,YATT,YAV,YAW,YAY,YAZ
  TAWELLEMET+1,YAZZ,YE,YO,=2D6F,1MODIFIERrLABIALIZATION MARK,SEPARATOR+1,=2D7F,CONSONANT JOINER
  0ETHIOPIC SYLLABLE LOA,2MOA,ROA,SOA,SHOA,BOA,TOA,COA,NOA,NYOA,GLOTTAL OA,ZOA,DOA,DDOA,JOA,THOA
  CHOA,PHOA,POA,GGWA,GGWI,GGWEE,GGWE,=2DA0,SSA,SSU,SSI,SSAA,SSEE,SSE,SSO,=2DA8,CCA,CCU,CCI,CCAA,CCEE
  CCE,CCO,=2DB0,ZZA,ZZU,ZZI,ZZAA,ZZEE,ZZE,ZZO,=2DB8,CCHA,CCHU,CCHI,CCHAA,CCHEE,CCHE,CCHO,=2DC0,QYA
  QYU,QYI,QYAA,QYEE,QYE,QYO,=2DC8,KYA,KYU,KYI,KYAA,KYEE,KYE,KYO,=2DD0,XYA,XYU,XYI,XYAA,XYEE,XYE,XYO
  =2DD8,GYA,GYU,GYI,GYAA,GYEE,GYE,GYO,=2DE0,0COMBINING CYRILLICrBE,3VE,GHE,DE,ZHE,ZE,KA,EL*3,O,PE,ER
  ES,TE,HA,TSE,CHE,SHA,SHCHA,FITA,ES-TE,A,IE,DJERV,MONOGRAPH UK,YAT,YU,IOTIFIED A,LITTLE YUS,BIG+1
  IOTIFIED+2,0aANGLE SUBSTITUTION MARKER,2DOTTED+2,0eSUBSTITUTION BRACKET,a+2,eDOTTED+2,a+3
  RAISED INTERPOLATION MARKER,1DOTTED+2,0DOTTED TRANSPOSITION+1,eTRANSPOSITION BRACKET,a+2,RAISEDy
  eRAISED OMISSION BRACKET,a+3,EDITORIAL CORONIS,PARAGRAPHOS,FORKED+1,REVERSED+2,HYPODIASTOLE
  DOTTED OBELOS,nANCORA,u+1,DOTTED RIGHT-POINTING ANGLE,hOBLIQUE HYPHEN,INVERTED INTERROBANG
  PALM BRANCH,HYPHENcDIAERESIS,TILDEcRINGp,eLOW PARAPHRASE BRACKET,a+3,TILDEcDOTp,3BELOW
  0egBARcQUILL,a+4,TOPeHALF BRACKET,1a+2,0BOTTOMe+2,1a+2,0eSIDEWAYS U+1,a+3,ehPARENTHESIS,a+2
  TWO DOTS OVER ONE DOT PUNCTUATION,ONE DOT OVER TWO DOTS+1,SQUARED FOUR DOT+1,FIVE DOT MARK
  REVERSED QUESTION+1,gTILDE,RING POINT,WORD SEPARATOR MIDDLE DOT,TURNED COMMA,RAISED DOT,1COMMA
  0TURNED SEMICOLON,DAGGERceGUARD,2a+1,0TURNED DAGGER,TOP HALF SECTION SIGN,TWO-EM DASH,THREE-EM+1
  STENOGRAPHIC FULL STOP,gSIX DOTS,WIGGLYgLINE,CAPITULUM,hHYPHEN,REVERSED COMMA
  hLOW-REVERSED-9 QUOTATION MARK,DASHceUPTURN,hSUSPENSION MARK,INVERTED LOW KAVYKA,3cKAVYKAp
  0LOW KAVYKA,2cDOT,0hSTACKED COMMA,DOTTED SOLIDUS,TRIPLE DAGGER,MEDIEVAL COMMA,PARAGRAPHUS MARK
  PUNCTUS ELEVATUS+1,CORNISH VERSE DIVIDER,CROSS PATTYcaCROSSBAR,3e+1,0TIRONIAN SIGNkET
  MEDIEVAL EXCLAMATION MARK,1QUESTION+1,0eyBRACKETcSTROKE,a+4,eyBRACKETch+1,a+5,TOP HALFePARENTHESIS
  2a+1,0BOTTOM HALFe+1,2a+1,0OBLIQUE HYPHEN,=2E80,CJK RADICAL REPEAT,2CLIFF,SECOND ONE,3TWO,THREE
  2PERSON,BOX,TABLE,KNIFE ONE,3TWO,2DIVINATION,SEAL,mONE,3TWO,2LAME ONE,3TWO,THREE,FOUR,2SNAKE
  THREAD,SNOUT ONE,3TWO,2HEART ONE,3TWO,2HAND,RAP,=2E9B,CHOKE,SUN,MOON,DEATH,MOTHER,CIVILIAN
  WATER ONE,3TWO,2FIRE,PAW ONE,3TWO,2SIMPLIFIED HALF TREE TRUNK,COW,DOG,JADE,BOLT OF CLOTH,EYE
  SPIRIT ONE,3TWO,2BAMBOO,SILK,C-SIMPLIFIED+1,NET ONE,3TWO,THREE,FOUR,2MESH,SHEEP,RAM,EWE,OLD
  BRUSH ONE,3TWO,2MEAT,MORTAR,GRASS ONE,3TWO,THREE,2TIGER,CLOTHES,WEST ONE,3TWO,2C-SIMPLIFIED SEE
  SIMPLIFIED HORN,HORN,C-SIMPLIFIED SPEECH,3SHELL,2FOOT,C-SIMPLIFIED CART,SIMPLIFIED WALK,WALK ONE
  3TWO,2CITY,C-SIMPLIFIED GOLD,LONG ONE,3TWO,2C-SIMPLIFIED LONG,3GATE,2MOUND ONE,3TWO,2RAIN,BLUE
  C-SIMPLIFIED TANNED LEATHER,3LEAF,WIND,FLY,2EAT ONE,3TWO,THREE,2C-SIMPLIFIED EAT,HEAD
  C-SIMPLIFIED HORSE,BONE,GHOST,C-SIMPLIFIED FISH,3BIRD,SALT,2SIMPLIFIED WHEAT,3YELLOW
  2C-SIMPLIFIED FROG,J-SIMPLIFIED EVEN,C-SIMPLIFIED+1,J-SIMPLIFIED TOOTH,C-SIMPLIFIED+1
  J-SIMPLIFIED DRAGON,C-SIMPLIFIED+1,TURTLE,J-SIMPLIFIED+1,C-SIMPLIFIED+1,=2F00,0KANGXI RADICAL ONE
  2LINE,DOT,SLASH,SECOND,HOOK,TWO,LID,MAN,LEGS,ENTER,EIGHT,vBOX,COVER,ICE,TABLE,OPEN BOX,KNIFE,POWER
  WRAP,SPOON,aOPEN BOX,HIDING ENCLOSURE,TEN,DIVINATION,SEAL,CLIFF,PRIVATE,AGAIN,MOUTH,ENCLOSURE
  EARTH,SCHOLAR,GO,3SLOWLY,2EVENING,BIG,WOMAN,CHILD,ROOF,INCH,m,LAME,CORPSE,SPROUT,MOUNTAIN,RIVER
  WORK,ONESELF,TURBAN,DRY,SHORT THREAD,DOTTED CLIFF,LONG STRIDE,TWO HANDS,SHOOT,BOW,SNOUT,BRISTLE
  STEP,HEART,HALBERD,DOOR,HAND,BRANCH,RAP,SCRIPT,DIPPER,AXE,y,NOT,SUN,SAY,MOON,TREE,LACK,STOP,DEATH
  WEAPON,DO NOT,COMPARE,FUR,CLAN,STEAM,WATER,FIRE,CLAW,FATHER,hX,HALF TREE TRUNK,SLICE,FANG,COW,DOG
  PROFOUND,JADE,MELON,TILE,SWEET,LIFE,USE,FIELD,BOLT OF CLOTH,SICKNESS,DOTTED TENT,o,SKIN,DISH,EYE
  SPEAR,f,STONE,SPIRIT,TRACK,GRAIN,CAVE,STAND,BAMBOO,RICE,SILK,JAR,NET,SHEEP,FEATHER,OLD,q,PLOW,EAR
  BRUSH,MEAT,MINISTER,SELF,ARRIVE,MORTAR,TONGUE,OPPOSE,BOAT,STOPPING,COLOR,GRASS,TIGER,INSECT,BLOOD
  WALK ENCLOSURE,CLOTHES,WEST,SEE,HORN,SPEECH,VALLEY,BEAN,PIG,BADGER,SHELL,RED,RUN,FOOT,BODY,CART
  BITTER,MORNING,WALK,CITY,WINE,DISTINGUISH,VILLAGE,GOLD,LONG,GATE,MOUND,SLAVE,SHORT TAILED BIRD
  RAIN,BLUE,WRONG,FACE,LEATHER,TANNED+1,LEEK,SOUND,LEAF,WIND,FLY,EAT,HEAD,FRAGRANT,HORSE,BONE,TALL
  HAIR,FIGHT,SACRIFICIAL WINE,CAULDRON,GHOST,FISH,BIRD,SALT,DEER,WHEAT,HEMP,YELLOW,MILLET,l
  EMBROIDERY,FROG,TRIPOD,DRUM,RAT,NOSE,EVEN,TOOTH,DRAGON,TURTLE,FLUTE,=2FF0
  0IDEOGRAPHIC DESCRIPTION CHARACTEReTOa,3pTO BELOW,eTO MIDDLEqa,pTO MIDDLEqBELOW,FULL SURROUND
  SURROUND FROMp,5BELOW,e,UPPER+1,6a,5LOWERe,3OVERLAID"

end SchemaGraph.Text.CharacterName
