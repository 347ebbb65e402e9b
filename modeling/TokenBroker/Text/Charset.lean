import TokenBroker.Text.DoubleByte
import TokenBroker.Text.Escaped
import TokenBroker.Text.Punycode
import TokenBroker.Text.SingleByte
import TokenBroker.Text.Utf7
import TokenBroker.Text.Utf8

/-!
# Charsets

The charsets by name and the text of bytes in one. `Charset.decode` puts a replacement character in
the place of bytes that are no character; `Charset.exactly` has no text for them. Not every charset
can be read in both ways, and some hold no text at all.

A name is compared by its label: letters in lower case, and every run of marks other than letters,
digits and dots as one underscore.
-/

namespace TokenBroker

namespace Text

/-- The charsets whose names are known. The wide ones without an order take it from a byte order
mark. -/
inductive Charset
  | utf8
  /-- UTF-8 whose byte order mark is not part of the text. -/
  | utf8Marked
  | ascii
  | latin1
  | utf16 (order : Option ByteOrder)
  | utf32 (order : Option ByteOrder)
  | utf7
  | escaped
  | rawEscaped
  | punycode
  | singleByte (s : SingleByteSet)
  | doubleByte (s : DoubleByteSet)
  /-- The charset that is defined to have no text. -/
  | undefined
  /-- Internationalised host names, in which nothing is replaced. -/
  | hostName
  /-- A form of bytes that holds no text. -/
  | binary
  /-- A form of texts that holds no bytes. -/
  | lettersOnly
  deriving DecidableEq, Repr

/-- The label of a name. -/
def canonicalLabel (name : String) : String :=
  let rec go (pending : Bool) : List Char → List Char
    | [] => []
    | c :: cs =>
      if c.isAlphanum || c == '.' then
        if pending then '_' :: c.toLower :: go false cs else c.toLower :: go false cs
      else go true cs
  match go false name.toList with
  | '_' :: cs => String.ofList cs
  | cs => String.ofList cs

namespace Charset

/-- The labels of the charsets that belong to no larger family. -/
def labels : List (Charset × List String) :=
  [
    (utf8, ["cp65001", "u8", "utf", "utf8", "utf8_ucs2", "utf8_ucs4", "utf_8"]),
    (utf8Marked, ["utf_8_sig"]),
    (ascii, ["646", "ansi_x3.4_1968", "ansi_x3.4_1986", "ansi_x3_4_1968", "ascii", "cp367",
      "csascii", "ibm367", "iso646_us", "iso_646.irv_1991", "iso_ir_6", "us", "us_ascii"]),
    (latin1, ["8859", "charmap", "cp819", "csisolatin1", "ibm819", "iso8859", "iso8859_1",
      "iso_8859_1", "iso_8859_1_1987", "iso_ir_100", "l1", "latin", "latin1", "latin_1"]),
    (utf16 none, ["u16", "utf16", "utf_16"]),
    (utf16 (some .little), ["unicodelittleunmarked", "utf_16_le", "utf_16le"]),
    (utf16 (some .big), ["unicodebigunmarked", "utf_16_be", "utf_16be"]),
    (utf32 none, ["u32", "utf32", "utf_32"]),
    (utf32 (some .little), ["utf_32_le", "utf_32le"]),
    (utf32 (some .big), ["utf_32_be", "utf_32be"]),
    (utf7, ["u7", "unicode_1_1_utf_7", "utf7", "utf_7"]),
    (escaped, ["unicode_escape"]),
    (rawEscaped, ["raw_unicode_escape"]),
    (punycode, ["punycode"]),
    (undefined, ["undefined"]),
    (hostName, ["idna"]),
    (binary, ["base64", "base64_codec", "base_64", "bz2", "bz2_codec", "hex", "hex_codec", "quopri",
      "quopri_codec", "quoted_printable", "quotedprintable", "uu", "uu_codec", "zip", "zlib",
      "zlib_codec"]),
    (lettersOnly, ["rot13", "rot_13"])
  ]

/-- The charset of a label. -/
def ofLabel? (label : String) : Option Charset :=
  ((labels.find? (·.2.contains label)).map (·.1))
    <|> (SingleByteSet.ofLabel? label).map .singleByte
    <|> (DoubleByteSet.ofLabel? label).map .doubleByte

/-- The labels with an underscore for which none with a dot can stand. -/
def undottedLabels : List String :=
  ["base64_codec", "bz2_codec", "euc_jis_2004", "euc_jisx0213", "euc_jp", "euc_kr", "hex_codec",
    "hp_roman8", "iso2022_jp", "iso2022_jp_1", "iso2022_jp_2", "iso2022_jp_2004", "iso2022_jp_3",
    "iso2022_jp_ext", "iso2022_kr", "iso8859_10", "iso8859_11", "iso8859_13", "iso8859_14",
    "iso8859_15", "iso8859_16", "iso8859_2", "iso8859_3", "iso8859_4", "iso8859_5", "iso8859_6",
    "iso8859_7", "iso8859_8", "iso8859_9", "koi8_r", "koi8_t", "koi8_u", "latin_1", "mac_arabic",
    "mac_croatian", "mac_cyrillic", "mac_farsi", "mac_greek", "mac_iceland", "mac_latin2",
    "mac_roman", "mac_romanian", "mac_turkish", "quopri_codec", "raw_unicode_escape", "rot_13",
    "shift_jis", "shift_jis_2004", "shift_jisx0213", "tis_620", "unicode_escape", "utf_16",
    "utf_16_be", "utf_16_le", "utf_32", "utf_32_be", "utf_32_le", "utf_7", "utf_8", "utf_8_sig",
    "uu_codec", "zlib_codec"]

/-- The label with underscores for dots. -/
def undotted (label : String) : String :=
  String.ofList (label.toList.map fun c => if c = '.' then '_' else c)

/-- The charset of a name. A dot may stand for an underscore in most labels. -/
def ofName? (name : String) : Option Charset :=
  let label := canonicalLabel name
  ofLabel? label <|>
    if label.contains '.' ∧ !undottedLabels.contains (undotted label) then ofLabel? (undotted label)
    else none

/-- The order of bytes that the mark at the front of two-byte units tells, and the bytes after
it. -/
def marked16? : List UInt8 → Option (ByteOrder × List UInt8)
  | 0xFF :: 0xFE :: rest => some (.little, rest)
  | 0xFE :: 0xFF :: rest => some (.big, rest)
  | _ => none

/-- The order of bytes that the mark at the front of four-byte units tells, and the bytes after
it. -/
def marked32? : List UInt8 → Option (ByteOrder × List UInt8)
  | 0xFF :: 0xFE :: 0 :: 0 :: rest => some (.little, rest)
  | 0 :: 0 :: 0xFE :: 0xFF :: rest => some (.big, rest)
  | _ => none

/-- The bytes after a byte order mark of UTF-8. -/
def unmarked8 : List UInt8 → List UInt8
  | 0xEF :: 0xBB :: 0xBF :: rest => rest
  | bytes => bytes

/-- The characters of bytes; none stands for what is no character. -/
def characters (bytes : List UInt8) : Charset → Except CharsetError (List (Option Char))
  | .utf8 => .ok (Utf8.entries bytes)
  | .utf8Marked =>
    if [[0xEF], [0xEF, 0xBB]].contains bytes then .ok [] else .ok (Utf8.entries (unmarked8 bytes))
  | .ascii => .ok (bytes.map fun b => if b < 0x80 then some (Char.ofNat b.toNat) else none)
  | .latin1 => .ok (bytes.map fun b => some (Char.ofNat b.toNat))
  | .utf16 (some order) => .ok (ofUtf16 order bytes)
  | .utf16 none =>
    match marked16? bytes with
    | some (order, rest) => .ok (ofUtf16 order rest)
    | none => if bytes.length < 2 then .ok (bytes.map fun _ => none) else .error (.noByteOrder 16)
  | .utf32 (some order) => .ok (ofUtf32 order bytes)
  | .utf32 none =>
    match marked32? bytes with
    | some (order, rest) => .ok (ofUtf32 order rest)
    | none => if bytes.length < 4 then .ok (ofUtf32 .little bytes) else .error (.noByteOrder 32)
  | .utf7 => .ok (Utf7.read (bytes.map (·.toNat)))
  | .escaped => .ok (Escaped.read (bytes.map (·.toNat)))
  | .rawEscaped => .ok (Escaped.readRaw (bytes.map (·.toNat)))
  | .punycode =>
    match Punycode.read (bytes.map (·.toNat)) with
    | .ok (cs, _) => .ok cs
    | .error (position, byte) => .error (.notAscii position byte)
  | .singleByte s => .ok (bytes.map s.char?)
  | .doubleByte s => s.read (bytes.map (·.toNat))
  | .undefined => .error .undefinedText
  | .hostName => .error .noReplacement
  | .binary => .error .notText
  | .lettersOnly => .error .notBytes

/-- The text of bytes, with a replacement character for what is no character. -/
def decode (bytes : List UInt8) (c : Charset) : Except CharsetError String :=
  (c.characters bytes).map leniently

/-- What stands before the part of a host name that is not ASCII. -/
def hostNameMark : String := "xn--"

/-- The text of bytes that are characters throughout. Wide units without a mark are little-endian
here. -/
def exactly (bytes : List UInt8) (c : Charset) : Except CharsetError (Option String) :=
  match c with
  | .utf16 none =>
    let (order, rest) := (marked16? bytes).getD (.little, bytes)
    .ok (strictly (ofUtf16 order rest))
  | .utf32 none =>
    let (order, rest) := (marked32? bytes).getD (.little, bytes)
    .ok (strictly (ofUtf32 order rest))
  | .utf8Marked => .ok (strictly (Utf8.entries (unmarked8 bytes)))
  | .punycode =>
    match Punycode.read (bytes.map (·.toNat)) with
    | .ok (cs, true) => .ok (strictly cs)
    | _ => .ok none
  | .hostName =>
    let text := (characters bytes .ascii).toOption.bind strictly
    .ok (text.filter fun s => (s.splitOn hostNameMark).length = 1)
  | c =>
    match c.characters bytes with
    | .ok cs => .ok (strictly cs)
    | .error .unusableSet => .error .unusableSet
    | .error _ => .ok none

end Charset

end Text

end TokenBroker
