import ValueSpec.Text.CharacterName.Letters
import ValueSpec.Text.CharacterName.Pictures
import ValueSpec.Text.CharacterName.Signs
import ValueSpec.Text.Letter

/-!
# Names of characters

A character can be named in a pattern. The names of letters, signs and symbols stand in tables, in
which ASCII letter case does not count; control characters have other names. A Chinese ideograph
is named by its code point and a Korean syllable by its sounds, both in capitals.
-/

namespace ValueSpec.Text

/-- Other names, mostly of characters that cannot be seen. Several names of one character stand with
semicolons between them. -/
def otherNames : List (Nat × String) :=
  [(0x0, "NULL;NUL"), (0x1, "START OF HEADING;SOH"), (0x2, "START OF TEXT;STX"),
   (0x3, "END OF TEXT;ETX"), (0x4, "END OF TRANSMISSION;EOT"), (0x5, "ENQUIRY;ENQ"),
   (0x6, "ACKNOWLEDGE;ACK"), (0x7, "ALERT;BEL"), (0x8, "BACKSPACE;BS"),
   (0x9, "CHARACTER TABULATION;HORIZONTAL TABULATION;HT;TAB"),
   (0xA, "LINE FEED;NEW LINE;END OF LINE;LF;NL;EOL"),
   (0xB, "LINE TABULATION;VERTICAL TABULATION;VT"), (0xC, "FORM FEED;FF"),
   (0xD, "CARRIAGE RETURN;CR"), (0xE, "SHIFT OUT;LOCKING-SHIFT ONE;SO"),
   (0xF, "SHIFT IN;LOCKING-SHIFT ZERO;SI"), (0x10, "DATA LINK ESCAPE;DLE"),
   (0x11, "DEVICE CONTROL ONE;DC1"), (0x12, "DEVICE CONTROL TWO;DC2"),
   (0x13, "DEVICE CONTROL THREE;DC3"), (0x14, "DEVICE CONTROL FOUR;DC4"),
   (0x15, "NEGATIVE ACKNOWLEDGE;NAK"), (0x16, "SYNCHRONOUS IDLE;SYN"),
   (0x17, "END OF TRANSMISSION BLOCK;ETB"), (0x18, "CANCEL;CAN"), (0x19, "END OF MEDIUM;EOM"),
   (0x1A, "SUBSTITUTE;SUB"), (0x1B, "ESCAPE;ESC"),
   (0x1C, "INFORMATION SEPARATOR FOUR;FILE SEPARATOR;FS"),
   (0x1D, "INFORMATION SEPARATOR THREE;GROUP SEPARATOR;GS"),
   (0x1E, "INFORMATION SEPARATOR TWO;RECORD SEPARATOR;RS"),
   (0x1F, "INFORMATION SEPARATOR ONE;UNIT SEPARATOR;US"), (0x20, "SP"), (0x7F, "DELETE;DEL"),
   (0x80, "PADDING CHARACTER;PAD"), (0x81, "HIGH OCTET PRESET;HOP"),
   (0x82, "BREAK PERMITTED HERE;BPH"), (0x83, "NO BREAK HERE;NBH"), (0x84, "INDEX;IND"),
   (0x85, "NEXT LINE;NEL"), (0x86, "START OF SELECTED AREA;SSA"),
   (0x87, "END OF SELECTED AREA;ESA"),
   (0x88, "CHARACTER TABULATION SET;HORIZONTAL TABULATION SET;HTS"),
   (0x89, "CHARACTER TABULATION WITH JUSTIFICATION;HORIZONTAL TABULATION WITH JUSTIFICATION;HTJ"),
   (0x8A, "LINE TABULATION SET;VERTICAL TABULATION SET;VTS"),
   (0x8B, "PARTIAL LINE FORWARD;PARTIAL LINE DOWN;PLD"),
   (0x8C, "PARTIAL LINE BACKWARD;PARTIAL LINE UP;PLU"),
   (0x8D, "REVERSE LINE FEED;REVERSE INDEX;RI"), (0x8E, "SINGLE SHIFT TWO;SINGLE-SHIFT-2;SS2"),
   (0x8F, "SINGLE SHIFT THREE;SINGLE-SHIFT-3;SS3"), (0x90, "DEVICE CONTROL STRING;DCS"),
   (0x91, "PRIVATE USE ONE;PRIVATE USE-1;PU1"), (0x92, "PRIVATE USE TWO;PRIVATE USE-2;PU2"),
   (0x93, "SET TRANSMIT STATE;STS"), (0x94, "CANCEL CHARACTER;CCH"),
   (0x95, "MESSAGE WAITING;MW"), (0x96, "START OF GUARDED AREA;START OF PROTECTED AREA;SPA"),
   (0x97, "END OF GUARDED AREA;END OF PROTECTED AREA;EPA"), (0x98, "START OF STRING;SOS"),
   (0x99, "SINGLE GRAPHIC CHARACTER INTRODUCER;SGC"), (0x9A, "SINGLE CHARACTER INTRODUCER;SCI"),
   (0x9B, "CONTROL SEQUENCE INTRODUCER;CSI"), (0x9C, "STRING TERMINATOR;ST"),
   (0x9D, "OPERATING SYSTEM COMMAND;OSC"), (0x9E, "PRIVACY MESSAGE;PM"),
   (0x9F, "APPLICATION PROGRAM COMMAND;APC"), (0xA0, "NBSP"), (0xAD, "SHY"),
   (0x1A2, "LATIN CAPITAL LETTER GHA"), (0x1A3, "LATIN SMALL LETTER GHA"), (0x34F, "CGJ"),
   (0x61C, "ALM"), (0x200B, "ZWSP"), (0x200C, "ZWNJ"), (0x200D, "ZWJ"), (0x200E, "LRM"),
   (0x200F, "RLM"), (0x202A, "LRE"), (0x202B, "RLE"), (0x202C, "PDF"), (0x202D, "LRO"),
   (0x202E, "RLO"), (0x202F, "NNBSP"), (0x205F, "MMSP"), (0x2060, "WJ"), (0x2066, "LRI"),
   (0x2067, "RLI"), (0x2068, "FSI"), (0x2069, "PDI"), (0x2118, "WEIERSTRASS ELLIPTIC FUNCTION"),
   (0x2448, "MICR ON US SYMBOL"), (0x2449, "MICR DASH SYMBOL"),
   (0xFEFF, "BYTE ORDER MARK;BOM;ZWNBSP")]

/-- The names in a text that separates them by semicolons. -/
def separateNames (names : String) : List String := names.splitOn ";"

/-- The code point with a name in a block of names. -/
def inBlock? (name : String) (block : Nat × List String) : Option Nat :=
  ((block.2.flatMap separateNames).findIdx? (· = name)).map (block.1 + ·)

def tabulated? (name : String) : Option Nat :=
  if name = "" then none
  else
    (otherNames.find? fun e => (separateNames e.2).contains name).map (·.1) <|>
      (lettersByName ++ signsByName ++ picturesByName).findSome? (inBlock? name)

/-! ### Ideographs -/

def ideographRanges : List (Nat × Nat) :=
  [(0x3400, 0x4DBF), (0x4E00, 0x9FFF), (0x20000, 0x2A6DF), (0x2A700, 0x2B738), (0x2B740, 0x2B81D),
   (0x2B820, 0x2CEA1), (0x2CEB0, 0x2EBE0), (0x30000, 0x3134A)]

/-- A hexadecimal digit in capitals. -/
def capitalDigit? (c : Char) : Option Nat :=
  if c.isDigit then some (c.toNat - '0'.toNat)
  else if 'A' ≤ c && c ≤ 'F' then some (c.toNat - 'A'.toNat + 10)
  else none

/-- The ideograph with the given digits in its name. -/
def ideograph? (digits : List Char) : Option Nat := do
  let ds ← digits.mapM capitalDigit?
  let n := ds.foldl (fun n d => 16 * n + d) 0
  if (ds.length = 4 || ds.length = 5) && inRanges ideographRanges n then some n else none

/-! ### Syllables -/

def leadingSounds : List String :=
  ["G", "GG", "N", "D", "DD", "R", "M", "B", "BB", "S", "SS", "", "J", "JJ", "C", "K", "T", "P",
   "H"]

def vowelSounds : List String :=
  ["A", "AE", "YA", "YAE", "EO", "E", "YEO", "YE", "O", "WA", "WAE", "OE", "YO", "U", "WEO", "WE",
   "WI", "YU", "EU", "YI", "I"]

def trailingSounds : List String :=
  ["", "G", "GG", "GS", "N", "NJ", "NH", "D", "L", "LG", "LM", "LB", "LS", "LT", "LP", "LH", "M",
   "B", "BS", "S", "SS", "NG", "J", "C", "K", "T", "P", "H"]

/-- The index and the length of the longest sound that a text begins with. -/
def longestSound? (sounds : List String) (cs : List Char) : Option (Nat × Nat) :=
  sounds.zipIdx.foldl (fun best (sound, i) =>
    if sound.toList.isPrefixOf cs && best.all (·.2 < sound.length) then some (i, sound.length)
    else best) none

def syllable? (sounds : List Char) : Option Nat := do
  let (first, n) ← longestSound? leadingSounds sounds
  let (vowel, k) ← longestSound? vowelSounds (sounds.drop n)
  let (last, m) ← longestSound? trailingSounds (sounds.drop (n + k))
  if sounds.length = n + k + m then some (0xAC00 + (first * 21 + vowel) * 28 + last) else none

/-! ### Names -/

def ideographPrefix : List Char := "CJK UNIFIED IDEOGRAPH-".toList

def syllablePrefix : List Char := "HANGUL SYLLABLE ".toList

/-- The character with a given name. -/
def characterNamed? (name : String) : Option Nat :=
  let cs := name.toList
  if syllablePrefix.isPrefixOf cs then syllable? (cs.drop syllablePrefix.length)
  else if ideographPrefix.isPrefixOf cs then ideograph? (cs.drop ideographPrefix.length)
  else tabulated? (name.map Char.toUpper)

end ValueSpec.Text
