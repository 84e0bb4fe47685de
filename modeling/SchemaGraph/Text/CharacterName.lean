import SchemaGraph.Text.CharacterName.Alphabets
import SchemaGraph.Text.CharacterName.Ancient
import SchemaGraph.Text.CharacterName.Eastern
import SchemaGraph.Text.CharacterName.Pictographs
import SchemaGraph.Text.CharacterName.Symbols

/-! Characters by name.

Every character of Unicode has a name of words in capitals, and some have further ones.
Most are in tables (`Table`) and are found in any case of letters. The names of Korean
syllables and of unified ideographs are not listed but made of their parts (`syllable?`,
`ideographs`), and these must be in capitals.

A pattern may name characters, and then whether it is a pattern at all depends on whether
there are characters of these names, and in ranges on which ones they are. So all names
are here. -/
namespace SchemaGraph.Text.CharacterName

/-! ### Tables -/

/-- Further names: controls, abbreviations and corrected names. -/
def aliases : Table where
  shorthand := ["SEPARATOR", "CHARACTER", "TABULATION", "LETTER", "CONTROL", "INFORMATION", "LINE",
    "DEVICE", "VERTICAL", "OF", "HORIZONTAL", "INTRODUCER", "START", "END", "SINGLE", "SHIFT",
    "LOCKING-SHIFT", "AREA", "STRING", "TRANSMISSION", "ACKNOWLEDGE", "THREE", "ONE", "PROTECTED",
    "TWO", "FEED"]
  names := "
  NULL,=0,NUL,mjHEADING,=1,SOH,mjTEXT,=2,STX,njTEXT,=3,ETX,njt,=4,EOT,ENQUIRY,=5,ENQ,u,=6,ACK,ALERT
  =7,BEL,BACKSPACE,=8,BS,bc,=9,k+1,=9,HT,=9,TAB,gz,=A,NEWg,=A,nj+1,=A,LF,=A,NL,=A,EOL,gc,=B,i+1,=B
  VT,FORMz,=C,FF,CARRIAGE RETURN,=D,CR,pOUT,=E,qw,=E,SO,pIN,=F,qZERO,=F,SI,DATA LINK ESCAPE,=10,DLE
  hew,=11,DC1,hey,=12,DC2,hev,=13,DC3,heFOUR,=14,DC4,NEGATIVEu,=15,NAK,SYNCHRONOUS IDLE,=16,SYN
  njtBLOCK,=17,ETB,CANCEL,=18,CAN,njMEDIUM,=19,EOM,SUBSTITUTE,=1A,SUB,ESCAPE,=1B,ESC,faFOUR,=1C
  FILEa,=1C,FS,fav,=1D,GROUPa,=1D,GS,fay,=1E,RECORDa,=1E,RS,faw,=1F,UNITa,=1F,US,SP,=7F,DELETE,=7F
  DEL,PADDINGb,=80,PAD,HIGH OCTET PRESET,=81,HOP,BREAK PERMITTED HERE,=82,BPH,NO BREAK HERE,=83,NBH
  INDEX,=84,IND,NEXTg,=85,NEL,mjSELECTEDr,=86,SSA,njSELECTEDr,=87,ESA,bcSET,=88,k+2,=88,HTS
  bcWITH JUSTIFICATION,=89,k+3,=89,HTJ,gcSET,=8A,i+2,=8A,VTS,PARTIALgFORWARD,=8B,2DOWN,=8B,0PLD
  PARTIALgBACKWARD,=8C,2UP,=8C,0PLU,REVERSEgz,=8D,1INDEX,=8D,0RI,opy,=8E,SINGLE-SHIFT-2,=8E,SS2,opv
  =8F,SINGLE-SHIFT-3,=8F,SS3,hes,=90,DCS,PRIVATE USEw,=91,1USE-1,=91,0PU1,PRIVATE USEy,=92,1USE-2
  =92,0PU2,SET TRANSMIT STATE,=93,STS,CANCELb,=94,CCH,MESSAGE WAITING,=95,MW,mjGUARDEDr,=96,2x+1,=96
  0SPA,njGUARDEDr,=97,2x+1,=97,0EPA,mjs,=98,SOS,oGRAPHICbl,=99,SGC,obl,=9A,SCI,eSEQUENCEl,=9B,CSI
  sTERMINATOR,=9C,ST,OPERATING SYSTEM COMMAND,=9D,OSC,PRIVACY MESSAGE,=9E,PM
  APPLICATION PROGRAM COMMAND,=9F,APC,NBSP,=AD,SHY,=1A2,LATIN CAPITALdGHA,1SMALL+2,=34F,0CGJ,=61C
  ALM,=709,SYRIAC SUBLINEAR COLON SKEWED LEFT,=CDE,KANNADAdLLLA,=E9D,LAOdFO FON,=E9F,3FAY,=EA3,2RO
  =EA5,LO,=FD0,0TIBETAN MARK BKA- SHOG GI MGO RGYAN,=11EC,HANGUL JONGSEONG YESIEUNG-KIYEOK
  2YESIEUNG-SSANGKIYEOK,SSANGYESIEUNG,YESIEUNG-KHIEUKH,=180B,0FVS1*3,MVS,FVS4,=200B,ZWSP,ZWNJ,ZWJ
  LRM,RLM,=202A,LRE,RLE,PDF,LRO,RLO,NNBSP,=205F,MMSP,WJ,=2066,LRI,RLI,FSI,PDI,=2118
  WEIERSTRASS ELLIPTIC FUNCTION,=2448,MICR ON US SYMBOL,1DASH+1,=2B7A
  0LEFTWARDS TRIANGLE-HEADED ARROW WITH DOUBLEiSTROKE,=2B7C,RIGHTWARDS+6,=A015
  YI SYLLABLE ITERATION MARK,=AA6E,MYANMARdKHAMTI LLA,=FE00,VS1*9,VS10*7,=FE18
  PRESENTATION FORM FORiRIGHT WHITE LENTICULAR BRACKET,=FEFF,BYTE ORDER MARK,=FEFF,BOM,=FEFF,ZWNBSP
  =122D4,CUNEIFORM SIGN NU11 TENU,3OVER NU11 BUR OVER BUR,=16E56,0MEDEFAIDRIN CAPITALdH,3NG,=16E76
  1SMALLdH,3NG,=1B001,0HENTAIGANAdE-1,=1D0C5,BYZANTINE MUSICAL SYMBOL FTHORA SKLIRON CHROMA VASIS
  =E0100,VS17*53,VS100*9D"

def tables : List Table := [alphabets, symbols, eastern, ancient, pictographs, aliases]

/-! ### Names with codes -/

/-- Names that end in the codes of their characters. -/
structure CodedNames where
  stem : String
  ranges : List (Nat × Nat)
  /-- A code of five digits may start with a zero. -/
  isPadded : Bool := false

namespace CodedNames

/-- The code that a name of this stem ends in. -/
def code? (names : CodedNames) (name : List Char) : Option Nat :=
  let digits := name.drop names.stem.length
  let isDigit (c : Char) : Bool := c.isDigit || ('A' ≤ c && c ≤ 'F')
  let code := hexadecimal digits
  let hasLength := digits.length == 4 || digits.length == 5 &&
    (names.isPadded || digits.head? != some '0')
  let inRange := names.ranges.any fun (first, last) => first ≤ code && code ≤ last
  if names.stem.toList.isPrefixOf name && hasLength && digits.all isDigit && inRange then some code
  else none

end CodedNames

def ideographs : CodedNames where
  stem := "CJK UNIFIED IDEOGRAPH-"
  ranges := [(0x3400, 0x4DBF), (0x4E00, 0x9FFF), (0x20000, 0x2A6DF), (0x2A700, 0x2B738),
    (0x2B740, 0x2B81D), (0x2B820, 0x2CEA1), (0x2CEB0, 0x2EBE0), (0x30000, 0x3134A)]
  isPadded := true

/-- Names with codes that are found in any case of letters. -/
def codedNames : List CodedNames := [
  ⟨"CJK COMPATIBILITY IDEOGRAPH-", [(0xF900, 0xFA6D), (0xFA70, 0xFAD9), (0x2F800, 0x2FA1D)], false⟩,
  ⟨"KHITAN SMALL SCRIPT CHARACTER-", [(0x18B00, 0x18CD5)], false⟩,
  ⟨"NUSHU CHARACTER-", [(0x1B170, 0x1B2FB)], false⟩]

/-! ### Korean syllables -/

def syllableStem : String := "HANGUL SYLLABLE "

def leads : List String := [
  "G", "GG", "N", "D", "DD", "R", "M", "B", "BB", "S", "SS", "", "J", "JJ", "C", "K", "T", "P", "H"]

def vowels : List String := [
  "A", "AE", "YA", "YAE", "EO", "E", "YEO", "YE", "O", "WA", "WAE", "OE", "YO", "U", "WEO", "WE",
  "WI", "YU", "EU", "YI", "I"]

def tails : List String := [
  "", "G", "GG", "GS", "N", "NJ", "NH", "D", "L", "LG", "LM", "LB", "LS", "LT", "LP", "LH", "M",
  "B", "BS", "S", "SS", "NG", "J", "C", "K", "T", "P", "H"]

/-- The longest of some sounds that a text starts with: its number, and the rest. -/
def sound? (sounds : List String) (text : List Char) : Option (Nat × List Char) :=
  let starting := sounds.zipIdx.filter fun (sound, _) => sound.toList.isPrefixOf text
  let longest := starting.foldl (fun best? (sound, index) =>
    match best? with
    | none => some (sound, index)
    | some (best, _) => if best.length < sound.length then some (sound, index) else best?) none
  longest.map fun (sound, index) => (index, text.drop sound.length)

/-- The syllable that a name's sounds make. -/
def syllable? (name : List Char) : Option Nat := do
  let (lead, rest) ← sound? leads (name.drop syllableStem.length)
  let (vowel, rest) ← sound? vowels rest
  let (tail, rest) ← sound? tails rest
  if rest.isEmpty then
    some (0xAC00 + (lead * vowels.length + vowel) * tails.length + tail)
  else none

/-! ### All names -/

/-- The code of the character that goes by a name. -/
def code? (name : List Char) : Option Nat :=
  if syllableStem.toList.isPrefixOf name then syllable? name
  else if ideographs.stem.toList.isPrefixOf name then ideographs.code? name
  else
    let capitals := name.map Char.toUpper
    let words := splitBy (· == ' ') capitals
    (codedNames.findSome? (·.code? capitals)).or (tables.findSome? (·.find? words))

end SchemaGraph.Text.CharacterName
