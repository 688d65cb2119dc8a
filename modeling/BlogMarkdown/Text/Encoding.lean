import BlogMarkdown.Text.Blank
import BlogMarkdown.Text.CodePage
import BlogMarkdown.Text.MultiByte
import BlogMarkdown.Text.Utf16
import BlogMarkdown.Text.Utf8
/-!
# Encodings

How bytes become text: the encodings that documents on the web are known to use, the labels by which
a document names its own, and the byte order marks that name one without a label.
-/
namespace BlogMarkdown.Text

/-- An encoding. -/
inductive Encoding where
  | utf8
  | utf16 (bigEndian : Bool)
  | page (table : CodePage)
  | shiftJis
  | eucJp
  | iso2022Jp
  | eucKr
  | gb18030
  | big5
  /-- Each byte from 0x80 on is a private character of its own. -/
  | privateUse
  /-- An encoding that is refused: all of a text is one fault. -/
  | refused
  deriving Repr, DecidableEq

namespace Encoding

open MultiByte in
/-- The text of some bytes. A part that means nothing in the encoding becomes U+FFFD. -/
def decode : Encoding → List UInt8 → List Char
  | .utf8, bytes => Utf8.decodeLossy bytes
  | .utf16 bigEndian, bytes => Utf16.decode bigEndian bytes
  | .page table, bytes => table.decode bytes
  | .shiftJis, bytes => decodeBy (shiftJisFront CharacterSet.jisX0208.table) () bytes
  | .eucJp, bytes =>
    decodeBy (eucJpFront CharacterSet.jisX0208.table CharacterSet.jisX0212.table) () bytes
  | .iso2022Jp, bytes =>
    decodeBy (iso2022JpFront CharacterSet.jisX0208.table) (.ascii, false) bytes
  | .eucKr, bytes => decodeBy (koreanFront CharacterSet.ksX1001.table) () bytes
  | .gb18030, bytes =>
    let table := CharacterSet.gb18030.table
    decodeBy (gb18030Front table (fourByteTable table)) () bytes
  | .big5, bytes => decodeBy (big5Front CharacterSet.big5.table) () bytes
  | .privateUse, bytes =>
    bytes.map fun b => Char.ofNat (if b < 0x80 then b.toNat else 0xf700 + b.toNat)
  | .refused, bytes => if bytes.isEmpty then [] else ['\ufffd']

/-- The encoding that the byte order mark in front of some bytes names, and the bytes behind it. -/
def ofMark? : List UInt8 → Option (Encoding × List UInt8)
  | 0xef :: 0xbb :: 0xbf :: rest => some (.utf8, rest)
  | 0xff :: 0xfe :: rest => some (.utf16 false, rest)
  | 0xfe :: 0xff :: rest => some (.utf16 true, rest)
  | _ => none

/-- The labels of each encoding, separated by blanks. -/
def labels : List (String × Encoding) :=
  [("unicode-1-1-utf-8 unicode11utf8 unicode20utf8 utf-8 utf8 x-unicode20utf8", .utf8),
    ("866 cp866 csibm866 ibm866", .page .ibm866),
    ("csisolatin2 iso-8859-2 iso-ir-101 iso8859-2 iso88592 iso_8859-2 iso_8859-2:1987 l2 latin2",
      .page .iso8859Part2),
    ("csisolatin3 iso-8859-3 iso-ir-109 iso8859-3 iso88593 iso_8859-3 iso_8859-3:1988 l3 latin3",
      .page .iso8859Part3),
    ("csisolatin4 iso-8859-4 iso-ir-110 iso8859-4 iso88594 iso_8859-4 iso_8859-4:1988 l4 latin4",
      .page .iso8859Part4),
    ("csisolatincyrillic cyrillic iso-8859-5 iso-ir-144 iso8859-5 iso88595 iso_8859-5 " ++
      "iso_8859-5:1988", .page .iso8859Part5),
    ("arabic asmo-708 csiso88596e csiso88596i csisolatinarabic ecma-114 iso-8859-6 iso-8859-6-e " ++
      "iso-8859-6-i iso-ir-127 iso8859-6 iso88596 iso_8859-6 iso_8859-6:1987", .page .iso8859Part6),
    ("csisolatingreek ecma-118 elot_928 greek greek8 iso-8859-7 iso-ir-126 iso8859-7 iso88597 " ++
      "iso_8859-7 iso_8859-7:1987 sun_eu_greek", .page .iso8859Part7),
    ("csiso88598e csisolatinhebrew hebrew iso-8859-8 iso-8859-8-e iso-ir-138 iso8859-8 iso88598 " ++
      "iso_8859-8 iso_8859-8:1988 visual csiso88598i iso-8859-8-i logical", .page .iso8859Part8),
    ("csisolatin6 iso-8859-10 iso-ir-157 iso8859-10 iso885910 l6 latin6", .page .iso8859Part10),
    ("iso-8859-13 iso8859-13 iso885913", .page .iso8859Part13),
    ("iso-8859-14 iso8859-14 iso885914", .page .iso8859Part14),
    ("csisolatin9 iso-8859-15 iso8859-15 iso885915 iso_8859-15 l9", .page .iso8859Part15),
    ("iso-8859-16", .page .iso8859Part16),
    ("cskoi8r koi koi8 koi8-r koi8_r", .page .koi8R),
    ("koi8-ru koi8-u", .page .koi8U),
    ("csmacintosh mac macintosh x-mac-roman", .page .macRoman),
    ("dos-874 iso-8859-11 iso8859-11 iso885911 tis-620 windows-874", .page .windows874),
    ("cp1250 windows-1250 x-cp1250", .page .windows1250),
    ("cp1251 windows-1251 x-cp1251", .page .windows1251),
    ("ansi_x3.4-1968 ascii cp1252 cp819 csisolatin1 ibm819 iso-8859-1 iso-ir-100 iso8859-1 " ++
      "iso88591 iso_8859-1 iso_8859-1:1987 l1 latin1 us-ascii windows-1252 x-cp1252",
      .page .windows1252),
    ("cp1253 windows-1253 x-cp1253", .page .windows1253),
    ("cp1254 csisolatin5 iso-8859-9 iso-ir-148 iso8859-9 iso88599 iso_8859-9 iso_8859-9:1989 l5 " ++
      "latin5 windows-1254 x-cp1254", .page .windows1254),
    ("cp1255 windows-1255 x-cp1255", .page .windows1255),
    ("cp1256 windows-1256 x-cp1256", .page .windows1256),
    ("cp1257 windows-1257 x-cp1257", .page .windows1257),
    ("cp1258 windows-1258 x-cp1258", .page .windows1258),
    ("x-mac-cyrillic x-mac-ukrainian", .page .macCyrillic),
    ("chinese csgb2312 csiso58gb231280 gb2312 gb_2312 gb_2312-80 gbk iso-ir-58 x-gbk gb18030",
      .gb18030),
    ("big5 big5-hkscs cn-big5 csbig5 x-x-big5", .big5),
    ("cseucpkdfmtjapanese euc-jp x-euc-jp", .eucJp),
    ("csiso2022jp iso-2022-jp", .iso2022Jp),
    ("csshiftjis ms932 ms_kanji shift-jis shift_jis sjis windows-31j x-sjis", .shiftJis),
    ("cseuckr csksc56011987 euc-kr iso-ir-149 korean ks_c_5601-1987 ks_c_5601-1989 ksc5601 " ++
      "ksc_5601 windows-949", .eucKr),
    ("utf-16be unicodefffe", .utf16 true),
    ("csunicode iso-10646-ucs-2 ucs-2 unicode unicodefeff utf-16 utf-16le", .utf16 false),
    ("x-user-defined", .privateUse),
    ("csiso2022kr hz-gb-2312 iso-2022-cn iso-2022-cn-ext iso-2022-kr replacement", .refused)]

/-- The blanks that may stand around a label. -/
def isLabelSpace (c : Char) : Bool := c = ' ' || c = '\t' || c = '\n' || c = '\r' || c = '\x0c'

/-- The encoding of a label, in any mixture of cases and with blanks around it. -/
def ofLabel? (label : List Char) : Option Encoding :=
  let name := (dropEndWhile isLabelSpace (label.dropWhile isLabelSpace)).map Char.toLower
  (labels.find? fun (names, _) => (names.toList.splitOnP (· = ' ')).contains name).map (·.2)

end Encoding

end BlogMarkdown.Text
