import Mailroom.Text.Basic

/-!
# Character sets that are no extension of ASCII

Sets of one octet for each character that differ from ASCII below 128 too, as the EBCDIC family does.
Each table has the characters of all 256 octets in order; U+FFFD stands for an octet that is no
character.
-/

namespace Mailroom.WholeSet

/-- code page 037 -/
def cp037 : Text :=
  "\x00\x01\x02\x03\x9c\x09\x86\x7f\x97\x8d\x8e\x0b\x0c\x0d\x0e\x0f\x10\x11\x12\x13\x9d\x85"
    ++ "\x08\x87\x18\x19\x92\x8f\x1c\x1d\x1e\x1f\x80\x81\x82\x83\x84\x0a\x17\x1b\x88\x89\x8a"
    ++ "\x8b\x8c\x05\x06\x07\x90\x91\x16\x93\x94\x95\x96\x04\x98\x99\x9a\x9b\x14\x15\x9e\x1a"
    ++ "\x20\xa0\xe2\xe4\xe0\xe1\xe3\xe5\xe7\xf1\xa2\x2e\x3c\x28\x2b\x7c\x26\xe9\xea\xeb\xe8"
    ++ "\xed\xee\xef\xec\xdf\x21\x24\x2a\x29\x3b\xac\x2d\x2f\xc2\xc4\xc0\xc1\xc3\xc5\xc7\xd1"
    ++ "\xa6\x2c\x25\x5f\x3e\x3f\xf8\xc9\xca\xcb\xc8\xcd\xce\xcf\xcc\x60\x3a\x23\x40\x27\x3d"
    ++ "\x22\xd8abcdefghi\xab\xbb\xf0\xfd\xfe\xb1\xb0jklmnopqr\xaa\xba\xe6\xb8\xc6\xa4\xb5"
    ++ "\x7estuvwxyz\xa1\xbf\xd0\xdd\xde\xae\x5e\xa3\xa5\xb7\xa9\xa7\xb6\xbc\xbd\xbe\x5b\x5d"
    ++ "\xaf\xa8\xb4\xd7\x7bABCDEFGHI\xad\xf4\xf6\xf2\xf3\xf5\x7dJKLMNOPQR\xb9\xfb\xfc\xf9"
    ++ "\xfa\xff\x5c\xf7STUVWXYZ\xb2\xd4\xd6\xd2\xd3\xd50123456789\xb3\xdb\xdc\xd9\xda\x9f"

/-- code page 273 -/
def cp273 : Text :=
  "\x00\x01\x02\x03\x9c\x09\x86\x7f\x97\x8d\x8e\x0b\x0c\x0d\x0e\x0f\x10\x11\x12\x13\x9d\x85"
    ++ "\x08\x87\x18\x19\x92\x8f\x1c\x1d\x1e\x1f\x80\x81\x82\x83\x84\x0a\x17\x1b\x88\x89\x8a"
    ++ "\x8b\x8c\x05\x06\x07\x90\x91\x16\x93\x94\x95\x96\x04\x98\x99\x9a\x9b\x14\x15\x9e\x1a"
    ++ "\x20\xa0\xe2\x7b\xe0\xe1\xe3\xe5\xe7\xf1\xc4\x2e\x3c\x28\x2b\x21\x26\xe9\xea\xeb\xe8"
    ++ "\xed\xee\xef\xec\x7e\xdc\x24\x2a\x29\x3b\x5e\x2d\x2f\xc2\x5b\xc0\xc1\xc3\xc5\xc7\xd1"
    ++ "\xf6\x2c\x25\x5f\x3e\x3f\xf8\xc9\xca\xcb\xc8\xcd\xce\xcf\xcc\x60\x3a\x23\xa7\x27\x3d"
    ++ "\x22\xd8abcdefghi\xab\xbb\xf0\xfd\xfe\xb1\xb0jklmnopqr\xaa\xba\xe6\xb8\xc6\xa4\xb5"
    ++ "\xdfstuvwxyz\xa1\xbf\xd0\xdd\xde\xae\xa2\xa3\xa5\xb7\xa9\x40\xb6\xbc\xbd\xbe\xac\x7c‾"
    ++ "\xa8\xb4\xd7\xe4ABCDEFGHI\xad\xf4\xa6\xf2\xf3\xf5\xfcJKLMNOPQR\xb9\xfb\x7d\xf9\xfa"
    ++ "\xff\xd6\xf7STUVWXYZ\xb2\xd4\x5c\xd2\xd3\xd50123456789\xb3\xdb\x5d\xd9\xda\x9f"

/-- code page 424 -/
def cp424 : Text :=
  "\x00\x01\x02\x03\x9c\x09\x86\x7f\x97\x8d\x8e\x0b\x0c\x0d\x0e\x0f\x10\x11\x12\x13\x9d\x85"
    ++ "\x08\x87\x18\x19\x92\x8f\x1c\x1d\x1e\x1f\x80\x81\x82\x83\x84\x0a\x17\x1b\x88\x89\x8a"
    ++ "\x8b\x8c\x05\x06\x07\x90\x91\x16\x93\x94\x95\x96\x04\x98\x99\x9a\x9b\x14\x15\x9e\x1a"
    ++ "\x20\u05d0\u05d1\u05d2\u05d3\u05d4\u05d5\u05d6\u05d7\u05d8\xa2\x2e\x3c\x28\x2b\x7c"
    ++ "\x26\u05d9\u05da\u05db\u05dc\u05dd\u05de\u05df\u05e0\u05e1\x21\x24\x2a\x29\x3b\xac"
    ++ "\x2d\x2f\u05e2\u05e3\u05e4\u05e5\u05e6\u05e7\u05e8\u05e9\xa6\x2c\x25\x5f\x3e\x3f"
    ++ "\ufffd\u05ea\ufffd\ufffd\xa0\ufffd\ufffd\ufffd‗\x60\x3a\x23\x40\x27\x3d\x22\ufffdabcd"
    ++ "efghi\xab\xbb\ufffd\ufffd\ufffd\xb1\xb0jklmnopqr\ufffd\ufffd\ufffd\xb8\ufffd\xa4\xb5"
    ++ "\x7estuvwxyz\ufffd\ufffd\ufffd\ufffd\ufffd\xae\x5e\xa3\xa5\xb7\xa9\xa7\xb6\xbc\xbd"
    ++ "\xbe\x5b\x5d\xaf\xa8\xb4\xd7\x7bABCDEFGHI\xad\ufffd\ufffd\ufffd\ufffd\ufffd\x7dJKLMNO"
    ++ "PQR\xb9\ufffd\ufffd\ufffd\ufffd\ufffd\x5c\xf7STUVWXYZ\xb2\ufffd\ufffd\ufffd\ufffd"
    ++ "\ufffd0123456789\xb3\ufffd\ufffd\ufffd\ufffd\x9f"

/-- code page 500 -/
def cp500 : Text :=
  "\x00\x01\x02\x03\x9c\x09\x86\x7f\x97\x8d\x8e\x0b\x0c\x0d\x0e\x0f\x10\x11\x12\x13\x9d\x85"
    ++ "\x08\x87\x18\x19\x92\x8f\x1c\x1d\x1e\x1f\x80\x81\x82\x83\x84\x0a\x17\x1b\x88\x89\x8a"
    ++ "\x8b\x8c\x05\x06\x07\x90\x91\x16\x93\x94\x95\x96\x04\x98\x99\x9a\x9b\x14\x15\x9e\x1a"
    ++ "\x20\xa0\xe2\xe4\xe0\xe1\xe3\xe5\xe7\xf1\x5b\x2e\x3c\x28\x2b\x21\x26\xe9\xea\xeb\xe8"
    ++ "\xed\xee\xef\xec\xdf\x5d\x24\x2a\x29\x3b\x5e\x2d\x2f\xc2\xc4\xc0\xc1\xc3\xc5\xc7\xd1"
    ++ "\xa6\x2c\x25\x5f\x3e\x3f\xf8\xc9\xca\xcb\xc8\xcd\xce\xcf\xcc\x60\x3a\x23\x40\x27\x3d"
    ++ "\x22\xd8abcdefghi\xab\xbb\xf0\xfd\xfe\xb1\xb0jklmnopqr\xaa\xba\xe6\xb8\xc6\xa4\xb5"
    ++ "\x7estuvwxyz\xa1\xbf\xd0\xdd\xde\xae\xa2\xa3\xa5\xb7\xa9\xa7\xb6\xbc\xbd\xbe\xac\x7c"
    ++ "\xaf\xa8\xb4\xd7\x7bABCDEFGHI\xad\xf4\xf6\xf2\xf3\xf5\x7dJKLMNOPQR\xb9\xfb\xfc\xf9"
    ++ "\xfa\xff\x5c\xf7STUVWXYZ\xb2\xd4\xd6\xd2\xd3\xd50123456789\xb3\xdb\xdc\xd9\xda\x9f"

/-- code page 864 -/
def cp864 : Text :=
  "\x00\x01\x02\x03\x04\x05\x06\x07\x08\x09\x0a\x0b\x0c\x0d\x0e\x0f\x10\x11\x12\x13\x14\x15"
    ++ "\x16\x17\x18\x19\x1a\x1b\x1c\x1d\x1e\x1f\x20\x21\x22\x23\x24٪\x26\x27\x28\x29\x2a\x2b"
    ++ "\x2c\x2d\x2e\x2f0123456789\x3a\x3b\x3c\x3d\x3e\x3f\x40ABCDEFGHIJKLMNOPQRSTUVWXYZ\x5b"
    ++ "\x5c\x5d\x5e\x5f\x60abcdefghijklmnopqrstuvwxyz\x7b\x7c\x7d\x7e\x7f\xb0\xb7∙√▒─│┼┤┬├┴┐"
    ++ "┌└┘β∞φ\xb1\xbd\xbc≈\xab\xbb\ufef7\ufef8\ufffd\ufffd\ufefb\ufefc\ufffd\xa0\xad\ufe82"
    ++ "\xa3\xa4\ufe84\ufffd\ufffd\ufe8e\ufe8f\ufe95\ufe99،\ufe9d\ufea1\ufea5\u0660\u0661"
    ++ "\u0662\u0663\u0664\u0665\u0666\u0667\u0668\u0669\ufed1\u061b\ufeb1\ufeb5\ufeb9\u061f"
    ++ "\xa2\ufe80\ufe81\ufe83\ufe85\ufeca\ufe8b\ufe8d\ufe91\ufe93\ufe97\ufe9b\ufe9f\ufea3"
    ++ "\ufea7\ufea9\ufeab\ufead\ufeaf\ufeb3\ufeb7\ufebb\ufebf\ufec1\ufec5\ufecb\ufecf\xa6"
    ++ "\xac\xf7\xd7\ufec9\u0640\ufed3\ufed7\ufedb\ufedf\ufee3\ufee7\ufeeb\ufeed\ufeef\ufef3"
    ++ "\ufebd\ufecc\ufece\ufecd\ufee1\ufe7d\u0651\ufee5\ufee9\ufeec\ufef0\ufef2\ufed0\ufed5"
    ++ "\ufef5\ufef6\ufedd\ufed9\ufef1■\ufffd"

/-- code page 875 -/
def cp875 : Text :=
  "\x00\x01\x02\x03\x9c\x09\x86\x7f\x97\x8d\x8e\x0b\x0c\x0d\x0e\x0f\x10\x11\x12\x13\x9d\x85"
    ++ "\x08\x87\x18\x19\x92\x8f\x1c\x1d\x1e\x1f\x80\x81\x82\x83\x84\x0a\x17\x1b\x88\x89\x8a"
    ++ "\x8b\x8c\x05\x06\x07\x90\x91\x16\x93\x94\x95\x96\x04\x98\x99\x9a\x9b\x14\x15\x9e\x1a"
    ++ "\x20ΑΒΓΔΕΖΗΘΙ\x5b\x2e\x3c\x28\x2b\x21\x26ΚΛΜΝΞΟΠΡΣ\x5d\x24\x2a\x29\x3b\x5e\x2d\x2fΤΥΦ"
    ++ "ΧΨΩΪΫ\x7c\x2c\x25\x5f\x3e\x3f\xa8ΆΈΉ\xa0ΊΌΎΏ\x60\x3a\x23\x40\x27\x3d\x22΅abcdefghiαβγ"
    ++ "δεζ\xb0jklmnopqrηθικλμ\xb4\x7estuvwxyzνξοπρσ\xa3άέήϊίόύϋώςτυφχψ\x7bABCDEFGHI\xadωΐΰ‘―"
    ++ "\x7dJKLMNOPQR\xb1\xbd\x1a·’\xa6\x5c\x1aSTUVWXYZ\xb2\xa7\x1a\x1a\xab\xac0123456789\xb3"
    ++ "\xa9\x1a\x1a\xbb\x9f"

/-- code page 1026 -/
def cp1026 : Text :=
  "\x00\x01\x02\x03\x9c\x09\x86\x7f\x97\x8d\x8e\x0b\x0c\x0d\x0e\x0f\x10\x11\x12\x13\x9d\x85"
    ++ "\x08\x87\x18\x19\x92\x8f\x1c\x1d\x1e\x1f\x80\x81\x82\x83\x84\x0a\x17\x1b\x88\x89\x8a"
    ++ "\x8b\x8c\x05\x06\x07\x90\x91\x16\x93\x94\x95\x96\x04\x98\x99\x9a\x9b\x14\x15\x9e\x1a"
    ++ "\x20\xa0\xe2\xe4\xe0\xe1\xe3\xe5\x7b\xf1\xc7\x2e\x3c\x28\x2b\x21\x26\xe9\xea\xeb\xe8"
    ++ "\xed\xee\xef\xec\xdfĞİ\x2a\x29\x3b\x5e\x2d\x2f\xc2\xc4\xc0\xc1\xc3\xc5\x5b\xd1ş\x2c"
    ++ "\x25\x5f\x3e\x3f\xf8\xc9\xca\xcb\xc8\xcd\xce\xcf\xccı\x3a\xd6Ş\x27\x3d\xdc\xd8abcdefg"
    ++ "hi\xab\xbb\x7d\x60\xa6\xb1\xb0jklmnopqr\xaa\xba\xe6\xb8\xc6\xa4\xb5\xf6stuvwxyz\xa1"
    ++ "\xbf\x5d\x24\x40\xae\xa2\xa3\xa5\xb7\xa9\xa7\xb6\xbc\xbd\xbe\xac\x7c\xaf\xa8\xb4\xd7"
    ++ "\xe7ABCDEFGHI\xad\xf4\x7e\xf2\xf3\xf5ğJKLMNOPQR\xb9\xfb\x5c\xf9\xfa\xff\xfc\xf7STUVWX"
    ++ "YZ\xb2\xd4\x23\xd2\xd3\xd50123456789\xb3\xdb\x22\xd9\xda\x9f"

/-- code page 1140 -/
def cp1140 : Text :=
  "\x00\x01\x02\x03\x9c\x09\x86\x7f\x97\x8d\x8e\x0b\x0c\x0d\x0e\x0f\x10\x11\x12\x13\x9d\x85"
    ++ "\x08\x87\x18\x19\x92\x8f\x1c\x1d\x1e\x1f\x80\x81\x82\x83\x84\x0a\x17\x1b\x88\x89\x8a"
    ++ "\x8b\x8c\x05\x06\x07\x90\x91\x16\x93\x94\x95\x96\x04\x98\x99\x9a\x9b\x14\x15\x9e\x1a"
    ++ "\x20\xa0\xe2\xe4\xe0\xe1\xe3\xe5\xe7\xf1\xa2\x2e\x3c\x28\x2b\x7c\x26\xe9\xea\xeb\xe8"
    ++ "\xed\xee\xef\xec\xdf\x21\x24\x2a\x29\x3b\xac\x2d\x2f\xc2\xc4\xc0\xc1\xc3\xc5\xc7\xd1"
    ++ "\xa6\x2c\x25\x5f\x3e\x3f\xf8\xc9\xca\xcb\xc8\xcd\xce\xcf\xcc\x60\x3a\x23\x40\x27\x3d"
    ++ "\x22\xd8abcdefghi\xab\xbb\xf0\xfd\xfe\xb1\xb0jklmnopqr\xaa\xba\xe6\xb8\xc6€\xb5\x7est"
    ++ "uvwxyz\xa1\xbf\xd0\xdd\xde\xae\x5e\xa3\xa5\xb7\xa9\xa7\xb6\xbc\xbd\xbe\x5b\x5d\xaf"
    ++ "\xa8\xb4\xd7\x7bABCDEFGHI\xad\xf4\xf6\xf2\xf3\xf5\x7dJKLMNOPQR\xb9\xfb\xfc\xf9\xfa"
    ++ "\xff\x5c\xf7STUVWXYZ\xb2\xd4\xd6\xd2\xd3\xd50123456789\xb3\xdb\xdc\xd9\xda\x9f"

end Mailroom.WholeSet
