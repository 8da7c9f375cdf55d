import Mailroom.Codec.Ideograph
import Mailroom.Codec.UpperHalf
import Mailroom.Codec.Utf7
import Mailroom.Codec.Utf8
import Mailroom.Codec.WholeSet

/-!
# Character sets

The character sets of message texts, under all their names.

* `Charset.named?`     the set of a name;
* `Charset.pieces`     octets as characters and stretches that are none;
* `Charset.decode`     the text, or that there is none;
* `Charset.repairing`  the text with U+FFFD for each stretch that is none;
* `Charset.keeping`    the text with undecodable octets kept as `Text.rawOctet` characters.
-/

namespace Mailroom

namespace Text

/-- an octet that has no character yet: a private character, one for each octet above 127 -/
def rawOctet (b : UInt8) : Char := Char.ofNat (0x10ff00 + b.toNat)

/-- the octet that a private character stands for -/
def rawOctet? (c : Char) : Option UInt8 :=
  if 0x10ff80 ≤ c.toNat ∧ c.toNat ≤ 0x10ffff then some (UInt8.ofNat (c.toNat - 0x10ff00)) else none

/-- octets as ASCII characters, with a private character for each octet that is none -/
def ofMail (b : Octets) : Text :=
  b.map fun x => if x < 128 then Char.ofNat x.toNat else rawOctet x

/-- the octets of a text that may hold private characters -/
def toMail (s : Text) : Octets :=
  s.flatMap fun c => match rawOctet? c with
    | some b => [b]
    | none => String.utf8EncodeChar c

/-- a text whose private characters are read as UTF-8, if it has any -/
def settle (s : Text) : Text :=
  if s.any fun c => (rawOctet? c).isSome then Utf8.repair (toMail s) else s

end Text

/-- the order of the octets of a wide character -/
inductive OctetOrder where
  | little
  | big
deriving DecidableEq, Repr

/-- a character set -/
inductive Charset where
  | ascii
  | latin1
  | utf8
  /-- UTF-8 behind an optional mark -/
  | utf8Marked
  /-- UTF-16, by a mark if no order is given -/
  | utf16 (order : Option OctetOrder)
  /-- UTF-32, by a mark if no order is given -/
  | utf32 (order : Option OctetOrder)
  /-- UTF-7 -/
  | utf7
  /-- ASCII and a table for the octets above 127 -/
  | table (upper : Text)
  /-- a table for all octets -/
  | whole (all : Text)
  /-- ASCII and characters of two or more octets -/
  | ideographs (set : IdeographSet)
  /-- ASCII and Japanese planes behind escape sequences -/
  | iso2022Jp
  /-- the set that nothing can be read with -/
  | undefined
deriving DecidableEq, Repr

/-- what reading octets with a character set gives -/
inductive Decoded where
  | text (s : Text)
  /-- some octets are no characters of the set -/
  | undecodable
  /-- the set reads nothing -/
  | refused
deriving DecidableEq, Repr

namespace Charset

/-! ## names -/

/-- the names of each character set, in the form of `plainName` -/
def names : List (List String × Charset) :=
  [(["646", "ansi_x3.4_1968", "ansi_x3.4_1986", "ansi_x3_4_1968", "ascii", "cp367", "csascii",
     "ibm367", "iso646_us", "iso_646.irv_1991", "iso_ir_6", "us", "us_ascii"], .ascii),
   (["cp65001", "u8", "utf", "utf8", "utf8_ucs2", "utf8_ucs4", "utf_8"], .utf8),
   (["utf_8_sig"], .utf8Marked),
   (["8859", "cp819", "csisolatin1", "ibm819", "iso8859", "iso8859_1", "iso_8859_1",
     "iso_8859_1_1987", "iso_ir_100", "l1", "latin", "latin1", "latin_1", "charmap"], .latin1),
   (["u16", "utf16", "utf_16"], .utf16 none),
   (["unicodelittleunmarked", "utf_16_le", "utf_16le"], .utf16 (some .little)),
   (["unicodebigunmarked", "utf_16_be", "utf_16be"], .utf16 (some .big)),
   (["u32", "utf32", "utf_32"], .utf32 none),
   (["utf_32_le", "utf_32le"], .utf32 (some .little)),
   (["utf_32_be", "utf_32be"], .utf32 (some .big)),
   (["csisolatin2", "iso8859_2", "iso_8859_2", "iso_8859_2_1987", "iso_ir_101", "l2", "latin2"],
     .table UpperHalf.iso88592),
   (["csisolatin3", "iso8859_3", "iso_8859_3", "iso_8859_3_1988", "iso_ir_109", "l3", "latin3"],
     .table UpperHalf.iso88593),
   (["csisolatin4", "iso8859_4", "iso_8859_4", "iso_8859_4_1988", "iso_ir_110", "l4", "latin4"],
     .table UpperHalf.iso88594),
   (["csisolatincyrillic", "cyrillic", "iso8859_5", "iso_8859_5", "iso_8859_5_1988",
     "iso_ir_144"], .table UpperHalf.iso88595),
   (["arabic", "asmo_708", "csisolatinarabic", "ecma_114", "iso8859_6", "iso_8859_6",
     "iso_8859_6_1987", "iso_ir_127"], .table UpperHalf.iso88596),
   (["csisolatingreek", "ecma_118", "elot_928", "greek", "greek8", "iso8859_7", "iso_8859_7",
     "iso_8859_7_1987", "iso_ir_126"], .table UpperHalf.iso88597),
   (["csisolatinhebrew", "hebrew", "iso8859_8", "iso_8859_8", "iso_8859_8_1988", "iso_ir_138"],
     .table UpperHalf.iso88598),
   (["csisolatin5", "iso8859_9", "iso_8859_9", "iso_8859_9_1989", "iso_ir_148", "l5", "latin5"],
     .table UpperHalf.iso88599),
   (["csisolatin6", "iso8859_10", "iso_8859_10", "iso_8859_10_1992", "iso_ir_157", "l6",
     "latin6"], .table UpperHalf.iso885910),
   (["iso8859_11", "iso_8859_11", "iso_8859_11_2001", "thai"], .table UpperHalf.iso885911),
   (["iso8859_13", "iso_8859_13", "l7", "latin7"], .table UpperHalf.iso885913),
   (["iso8859_14", "iso_8859_14", "iso_8859_14_1998", "iso_celtic", "iso_ir_199", "l8",
     "latin8"], .table UpperHalf.iso885914),
   (["iso8859_15", "iso_8859_15", "l9", "latin9"], .table UpperHalf.iso885915),
   (["iso8859_16", "iso_8859_16", "iso_8859_16_2001", "iso_ir_226", "l10", "latin10"], .table
     UpperHalf.iso885916),
   (["1250", "cp1250", "windows_1250"], .table UpperHalf.cp1250),
   (["1251", "cp1251", "windows_1251"], .table UpperHalf.cp1251),
   (["1252", "cp1252", "windows_1252"], .table UpperHalf.cp1252),
   (["1253", "cp1253", "windows_1253"], .table UpperHalf.cp1253),
   (["1254", "cp1254", "windows_1254"], .table UpperHalf.cp1254),
   (["1255", "cp1255", "windows_1255"], .table UpperHalf.cp1255),
   (["1256", "cp1256", "windows_1256"], .table UpperHalf.cp1256),
   (["1257", "cp1257", "windows_1257"], .table UpperHalf.cp1257),
   (["1258", "cp1258", "windows_1258"], .table UpperHalf.cp1258),
   (["cskoi8r", "koi8_r"], .table UpperHalf.koi8R),
   (["koi8_u"], .table UpperHalf.koi8U),
   (["437", "cp437", "cspc8codepage437", "ibm437"], .table UpperHalf.cp437),
   (["850", "cp850", "cspc850multilingual", "ibm850"], .table UpperHalf.cp850),
   (["852", "cp852", "cspcp852", "ibm852"], .table UpperHalf.cp852),
   (["866", "cp866", "csibm866", "ibm866"], .table UpperHalf.cp866),
   (["mac_roman", "macintosh", "macroman"], .table UpperHalf.macRoman),
   (["mac_cyrillic", "maccyrillic"], .table UpperHalf.macCyrillic),
   (["iso_ir_166", "tis620", "tis_620", "tis_620_0", "tis_620_2529_0", "tis_620_2529_1"], .table
     UpperHalf.tis620),
   (["u7", "unicode_1_1_utf_7", "utf7", "utf_7"], .utf7),
   (["cp720"], .table UpperHalf.cp720),
   (["cp737"], .table UpperHalf.cp737),
   (["775", "cp775", "cspc775baltic", "ibm775"], .table UpperHalf.cp775),
   (["855", "cp855", "csibm855", "ibm855"], .table UpperHalf.cp855),
   (["cp856"], .table UpperHalf.cp856),
   (["857", "cp857", "csibm857", "ibm857"], .table UpperHalf.cp857),
   (["858", "cp858", "csibm858", "ibm858"], .table UpperHalf.cp858),
   (["860", "cp860", "csibm860", "ibm860"], .table UpperHalf.cp860),
   (["861", "cp861", "cp_is", "csibm861", "ibm861"], .table UpperHalf.cp861),
   (["862", "cp862", "cspc862latinhebrew", "ibm862"], .table UpperHalf.cp862),
   (["863", "cp863", "csibm863", "ibm863"], .table UpperHalf.cp863),
   (["865", "cp865", "csibm865", "ibm865"], .table UpperHalf.cp865),
   (["869", "cp869", "cp_gr", "csibm869", "ibm869"], .table UpperHalf.cp869),
   (["cp874"], .table UpperHalf.cp874),
   (["cp1006"], .table UpperHalf.cp1006),
   (["1125", "cp1125", "cp866u", "ibm1125", "ruscii"], .table UpperHalf.cp1125),
   (["cp1051", "hp_roman8", "ibm1051", "r8", "roman8"], .table UpperHalf.roman8),
   (["koi8_t"], .table UpperHalf.koi8T),
   (["kz1048", "kz_1048", "rk1048", "strk1048_2002"], .table UpperHalf.kz1048),
   (["cp154", "csptcp154", "cyrillic_asian", "pt154", "ptcp154"], .table UpperHalf.pt154),
   (["palmos"], .table UpperHalf.palm),
   (["mac_arabic"], .table UpperHalf.macArabic),
   (["mac_croatian"], .table UpperHalf.macCroatian),
   (["mac_farsi"], .table UpperHalf.macFarsi),
   (["mac_greek", "macgreek"], .table UpperHalf.macGreek),
   (["mac_iceland", "maciceland"], .table UpperHalf.macIceland),
   (["mac_centeuro", "mac_latin2", "maccentraleurope", "maclatin2"], .table UpperHalf.macLatin2),
   (["mac_romanian"], .table UpperHalf.macRomanian),
   (["mac_turkish", "macturkish"], .table UpperHalf.macTurkish),
   (["037", "cp037", "csibm037", "ebcdic_cp_ca", "ebcdic_cp_nl", "ebcdic_cp_us", "ebcdic_cp_wt",
     "ibm037", "ibm039"], .whole WholeSet.cp037),
   (["273", "cp273", "csibm273", "ibm273"], .whole WholeSet.cp273),
   (["424", "cp424", "csibm424", "ebcdic_cp_he", "ibm424"], .whole WholeSet.cp424),
   (["500", "cp500", "csibm500", "ebcdic_cp_be", "ebcdic_cp_ch", "ibm500"], .whole WholeSet.cp500),
   (["864", "cp864", "csibm864", "ibm864"], .whole WholeSet.cp864),
   (["cp875"], .whole WholeSet.cp875),
   (["1026", "cp1026", "csibm1026", "ibm1026"], .whole WholeSet.cp1026),
   (["1140", "cp1140", "ibm1140"], .whole WholeSet.cp1140),
   (["csshiftjis", "s_jis", "shift_jis", "shiftjis", "sjis",
     "x_mac_japanese"], .ideographs .shiftJis),
   (["932", "cp932", "ms932", "ms_kanji", "mskanji"], .ideographs .cp932),
   (["euc_jp", "eucjp", "u_jis", "ujis"], .ideographs .eucJp),
   (["euc_kr", "euckr", "korean", "ks_c_5601", "ks_c_5601_1987", "ks_x_1001", "ksc5601", "ksx1001",
     "x_mac_korean"], .ideographs .eucKr),
   (["949", "cp949", "ms949", "uhc"], .ideographs .cp949),
   (["chinese", "csiso58gb231280", "euc_cn", "euccn", "eucgb2312_cn", "gb2312", "gb2312_1980",
     "gb2312_80", "iso_ir_58", "x_mac_simp_chinese"], .ideographs .gb2312),
   (["936", "cp936", "gbk", "ms936"], .ideographs .gbk),
   (["gb18030", "gb18030_2000"], .ideographs .gb18030),
   (["big5", "big5_tw", "csbig5", "x_mac_trad_chinese"], .ideographs .big5),
   (["950", "cp950", "ms950"], .ideographs .cp950),
   (["csiso2022jp", "iso2022_jp", "iso2022jp", "iso_2022_jp"], .iso2022Jp),
   (["undefined"], .undefined)]

/-- a name in lower case with one underscore for each run of other marks than letters, digits and
dots, none at the ends -/
def plainName (s : Text) : Text :=
  ['_'].intercalate (Text.wordsBy (fun c => !keeps c) (Text.asciiLower s))
where
  keeps (c : Char) : Bool := Text.isAsciiLetter c || (Text.asciiDigit? c).isSome || c == '.'

/-- whether a text can be a name: none holds a NUL -/
def isName (name : Text) : Bool := !name.contains '\x00'

/-- the character set of a name -/
def named? (name : Text) : Option Charset :=
  let n := plainName name
  let m := n.map fun c => if c = '.' then '_' else c
  (names.find? fun p => p.1.any fun k => k.toList == n || k.toList == m).map (·.2)

/-! ## reading -/

/-- the character of an octet above 127 in a table -/
def upperChar? (upper : Text) (x : UInt8) : Option Char :=
  if x < 128 then some (Char.ofNat x.toNat)
  else upper[x.toNat - 128]?.bind fun c => if c = '?' then none else some c

/-- the character of an octet in a table of all octets -/
def wholeChar? (all : Text) (x : UInt8) : Option Char :=
  all[x.toNat]?.bind fun c => if c = '\ufffd' then none else some c

/-- UTF-8 -/
def utf8Pieces (b : Octets) : List Piece :=
  (Utf8.pieces 0 b).map fun p => match p.2 with
    | .char c _ => .char c
    | .bad _ _ => .bad p.1

/-- the number of two octets -/
def pairValue (order : OctetOrder) (a b : UInt8) : Nat :=
  match order with
  | .little => a.toNat + 256 * b.toNat
  | .big => 256 * a.toNat + b.toNat

/-- UTF-16 in a given order -/
def utf16Pieces (order : OctetOrder) : Octets → List Piece
  | [] => []
  | [a] => [.bad [a]]
  | a :: b :: r =>
    let n := pairValue order a b
    if n < 0xd800 ∨ 0xe000 ≤ n then .char (Char.ofNat n) :: utf16Pieces order r
    else if 0xdc00 ≤ n then .bad [a, b] :: utf16Pieces order r
    else
      match r with
      | c :: d :: r2 =>
        let m := pairValue order c d
        if 0xdc00 ≤ m ∧ m < 0xe000 then
          .char (Char.ofNat (0x10000 + (n - 0xd800) * 1024 + (m - 0xdc00))) :: utf16Pieces order r2
        else .bad [a, b] :: utf16Pieces order (c :: d :: r2)
      | r => [.bad (a :: b :: r)]

/-- UTF-32 in a given order -/
def utf32Pieces (order : OctetOrder) : Octets → List Piece
  | a :: b :: c :: d :: r =>
    let n := match order with
      | .little => pairValue .little a b + 65536 * pairValue .little c d
      | .big => 65536 * pairValue .big a b + pairValue .big c d
    if n < 0x110000 ∧ ¬(0xd800 ≤ n ∧ n < 0xe000) then .char (Char.ofNat n) :: utf32Pieces order r
    else .bad [a, b, c, d] :: utf32Pieces order r
  | [] => []
  | r => [.bad r]

/-- octets as characters of the set and stretches that are none -/
def pieces : Charset → Octets → List Piece
  | ascii, b => Piece.singles (fun x => if x < 128 then some (Char.ofNat x.toNat) else none) b
  | latin1, b => Piece.singles (fun x => some (Char.ofNat x.toNat)) b
  | utf8, b => utf8Pieces b
  | utf8Marked, 0xef :: 0xbb :: 0xbf :: r => utf8Pieces r
  | utf8Marked, b => utf8Pieces b
  | utf16 (some o), b => utf16Pieces o b
  | utf16 none, 0xff :: 0xfe :: r => utf16Pieces .little r
  | utf16 none, 0xfe :: 0xff :: r => utf16Pieces .big r
  | utf16 none, b => utf16Pieces .little b
  | utf32 (some o), b => utf32Pieces o b
  | utf32 none, 0xff :: 0xfe :: 0 :: 0 :: r => utf32Pieces .little r
  | utf32 none, 0 :: 0 :: 0xfe :: 0xff :: r => utf32Pieces .big r
  | utf32 none, b => utf32Pieces .little b
  | utf7, b => Utf7.pieces b
  | table upper, b => Piece.singles (upperChar? upper) b
  | whole all, b => Piece.singles (wholeChar? all) b
  | ideographs set, b => Piece.cut set.front? b
  | iso2022Jp, b => Iso2022Jp.pieces b
  | undefined, b => [.bad b]

/-- the characters of pieces that have no bad one -/
def goodText? : List Piece → Option Text
  | [] => some []
  | .char c :: ps => (goodText? ps).map (c :: ·)
  | .bad _ :: _ => none

/-- the text of some octets; nothing is read as nothing in every set -/
def decode (cs : Charset) (b : Octets) : Decoded :=
  if b.isEmpty then .text []
  else if cs = .undefined then .refused
  else match goodText? (cs.pieces b) with
    | some s => .text s
    | none => .undecodable

/-- the text of some octets with U+FFFD in place of what is no character -/
def repairing (cs : Charset) (b : Octets) : Text :=
  (cs.pieces b).map fun p => match p with
    | .char c => c
    | .bad _ => '\ufffd'

/-- the text of some octets with private characters in place of what is no character -/
def keeping (cs : Charset) (b : Octets) : Text :=
  (cs.pieces b).flatMap fun p => match p with
    | .char c => [c]
    | .bad o => Text.ofMail o

end Charset
end Mailroom
