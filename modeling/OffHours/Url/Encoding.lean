import OffHours.Text.Hexadecimal

/-!
# Percent encoding

Each part of an address keeps some characters and writes the bytes of all others with a percent
sign and two hexadecimal digits. Forms keep fewer characters and write a blank as a plus sign.
-/

namespace OffHours.Url

/-- A byte with a percent sign. -/
def percentByte (byte : UInt8) : List Char :=
  ['%', Text.hexDigit (byte.toNat / 16), Text.hexDigit (byte.toNat % 16)]

/-- A character, kept or as bytes. -/
def encodeChar (keeps : Char → Bool) (c : Char) : List Char :=
  if keeps c then [c] else (String.utf8EncodeChar c).flatMap percentByte

/-- Characters, each kept or as bytes. -/
def encode (keeps : Char → Bool) (chars : List Char) : String :=
  String.ofList (chars.flatMap (encodeChar keeps))

/-- The bytes of characters in which a percent sign and two digits stand for a byte. -/
def decodeBytes : List Char → List UInt8
  | [] => []
  | [c] => String.utf8EncodeChar c
  | [c, second] => String.utf8EncodeChar c ++ decodeBytes [second]
  | c :: high :: low :: rest =>
    match decide (c = '%'), Text.hexValue? high, Text.hexValue? low with
    | true, some high, some low => UInt8.ofNat (16 * high + low) :: decodeBytes rest
    | _, _, _ => String.utf8EncodeChar c ++ decodeBytes (high :: low :: rest)

/-- Whether a character is in ASCII and no control. -/
def isPlain (c : Char) : Bool := 0x20 ≤ c.toNat && c.toNat < 0x7F

/-- Characters that paths without structure keep. -/
def opaqueKeeps (c : Char) : Bool := isPlain c

/-- Characters that fragments keep. -/
def fragmentKeeps (c : Char) : Bool := isPlain c && !([' ', '"', '<', '>', '`'].contains c)

/-- Characters that segments of paths keep. -/
def pathKeeps (c : Char) : Bool :=
  fragmentKeeps c && !(['#', '?', '\x7b', '\x7d'].contains c)

/-- Characters that names and passwords keep. -/
def credentialKeeps (c : Char) : Bool :=
  pathKeeps c && !(['/', ':', ';', '=', '@', '[', '\\', ']', '^', '|'].contains c)

/-- Characters that queries keep; those of the web write the single quote as a byte. -/
def queryKeeps (special : Bool) (c : Char) : Bool :=
  isPlain c && !([' ', '"', '#', '<', '>'].contains c) && !(special && c = '\'')

/-- Characters that forms keep. -/
def formKeeps (c : Char) : Bool := c.isAlphanum || ['*', '-', '.', '_'].contains c

/-- A text in a form. -/
def formText (text : String) : String :=
  String.ofList (text.toList.flatMap fun c => if c = ' ' then ['+'] else encodeChar formKeeps c)

/-- Pairs of name and value as a form. -/
def form (pairs : List (String × String)) : String :=
  "&".intercalate (pairs.map fun (name, value) => formText name ++ "=" ++ formText value)

end OffHours.Url
