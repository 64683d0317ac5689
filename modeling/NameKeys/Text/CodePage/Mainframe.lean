import NameKeys.Text.CodePage.Basic

/-!
# Mainframe code pages

The code pages of mainframes, in which the ASCII characters have other numbers.
-/

namespace NameKeys.CodePage

def cp037 : CodePage := .ofHalves
    ("\x00\x01\x02\x03\x9c\x09\x86\x7f\x97\x8d\x8e\x0b\x0c\x0d\x0e\x0f\x10\x11\x12\x13\x9d\x85" ++
     "\x08\x87\x18\x19\x92\x8f\x1c\x1d\x1e\x1f\x80\x81\x82\x83\x84\x0a\x17\x1b\x88\x89\x8a\x8b" ++
     "\x8c\x05\x06\x07\x90\x91\x16\x93\x94\x95\x96\x04\x98\x99\x9a\x9b\x14\x15\x9e\x1a \xa0\xe2" ++
     "\xe4\xe0\xe1\xe3\xe5\xe7\xf1\xa2.<(+|&\xe9\xea\xeb\xe8\xed\xee\xef\xec\xdf!$*);\xac-/\xc2" ++
     "\xc4\xc0\xc1\xc3\xc5\xc7\xd1\xa6,%_>?\xf8\xc9\xca\xcb\xc8\xcd\xce\xcf\xcc\x60:#@'=\"")
    ("\xd8abcdefghi\xab\xbb\xf0\xfd\xfe\xb1\xb0jklmnopqr\xaa\xba\xe6\xb8\xc6\xa4\xb5~stuvwxyz" ++
     "\xa1\xbf\xd0\xdd\xde\xae^\xa3\xa5\xb7\xa9\xa7\xb6\xbc\xbd\xbe[]\xaf\xa8\xb4\xd7\x7bABCDEFG" ++
     "HI\xad\xf4\xf6\xf2\xf3\xf5\x7dJKLMNOPQR\xb9\xfb\xfc\xf9\xfa\xff\\\xf7STUVWXYZ\xb2\xd4\xd6" ++
     "\xd2\xd3\xd50123456789\xb3\xdb\xdc\xd9\xda\x9f")

def cp273 : CodePage := .ofHalves
    ("\x00\x01\x02\x03\x9c\x09\x86\x7f\x97\x8d\x8e\x0b\x0c\x0d\x0e\x0f\x10\x11\x12\x13\x9d\x85" ++
     "\x08\x87\x18\x19\x92\x8f\x1c\x1d\x1e\x1f\x80\x81\x82\x83\x84\x0a\x17\x1b\x88\x89\x8a\x8b" ++
     "\x8c\x05\x06\x07\x90\x91\x16\x93\x94\x95\x96\x04\x98\x99\x9a\x9b\x14\x15\x9e\x1a \xa0\xe2" ++
     "\x7b\xe0\xe1\xe3\xe5\xe7\xf1\xc4.<(+!&\xe9\xea\xeb\xe8\xed\xee\xef\xec~\xdc$*);^-/\xc2[" ++
     "\xc0\xc1\xc3\xc5\xc7\xd1\xf6,%_>?\xf8\xc9\xca\xcb\xc8\xcd\xce\xcf\xcc\x60:#\xa7'=\"")
    ("\xd8abcdefghi\xab\xbb\xf0\xfd\xfe\xb1\xb0jklmnopqr\xaa\xba\xe6\xb8\xc6\xa4\xb5\xdfstuvwxyz" ++
     "\xa1\xbf\xd0\xdd\xde\xae\xa2\xa3\xa5\xb7\xa9@\xb6\xbc\xbd\xbe\xac|\u203e\xa8\xb4\xd7\xe4AB" ++
     "CDEFGHI\xad\xf4\xa6\xf2\xf3\xf5\xfcJKLMNOPQR\xb9\xfb\x7d\xf9\xfa\xff\xd6\xf7STUVWXYZ\xb2" ++
     "\xd4\\\xd2\xd3\xd50123456789\xb3\xdb]\xd9\xda\x9f")

def cp424 : CodePage := .ofHalves
    ("\x00\x01\x02\x03\x9c\x09\x86\x7f\x97\x8d\x8e\x0b\x0c\x0d\x0e\x0f\x10\x11\x12\x13\x9d\x85" ++
     "\x08\x87\x18\x19\x92\x8f\x1c\x1d\x1e\x1f\x80\x81\x82\x83\x84\x0a\x17\x1b\x88\x89\x8a\x8b" ++
     "\x8c\x05\x06\x07\x90\x91\x16\x93\x94\x95\x96\x04\x98\x99\x9a\x9b\x14\x15\x9e\x1a \u05d0" ++
     "\u05d1\u05d2\u05d3\u05d4\u05d5\u05d6\u05d7\u05d8\xa2.<(+|&\u05d9\u05da\u05db\u05dc\u05dd" ++
     "\u05de\u05df\u05e0\u05e1!$*);\xac-/\u05e2\u05e3\u05e4\u05e5\u05e6\u05e7\u05e8\u05e9\xa6,%_" ++
     ">?\ufffd\u05ea\ufffd\ufffd\xa0\ufffd\ufffd\ufffd\u2017\x60:#@'=\"")
    ("\ufffdabcdefghi\xab\xbb\ufffd\ufffd\ufffd\xb1\xb0jklmnopqr\ufffd\ufffd\ufffd\xb8\ufffd\xa4" ++
     "\xb5~stuvwxyz\ufffd\ufffd\ufffd\ufffd\ufffd\xae^\xa3\xa5\xb7\xa9\xa7\xb6\xbc\xbd\xbe[]\xaf" ++
     "\xa8\xb4\xd7\x7bABCDEFGHI\xad\ufffd\ufffd\ufffd\ufffd\ufffd\x7dJKLMNOPQR\xb9\ufffd\ufffd" ++
     "\ufffd\ufffd\ufffd\\\xf7STUVWXYZ\xb2\ufffd\ufffd\ufffd\ufffd\ufffd0123456789\xb3\ufffd" ++
     "\ufffd\ufffd\ufffd\x9f")

def cp500 : CodePage := .ofHalves
    ("\x00\x01\x02\x03\x9c\x09\x86\x7f\x97\x8d\x8e\x0b\x0c\x0d\x0e\x0f\x10\x11\x12\x13\x9d\x85" ++
     "\x08\x87\x18\x19\x92\x8f\x1c\x1d\x1e\x1f\x80\x81\x82\x83\x84\x0a\x17\x1b\x88\x89\x8a\x8b" ++
     "\x8c\x05\x06\x07\x90\x91\x16\x93\x94\x95\x96\x04\x98\x99\x9a\x9b\x14\x15\x9e\x1a \xa0\xe2" ++
     "\xe4\xe0\xe1\xe3\xe5\xe7\xf1[.<(+!&\xe9\xea\xeb\xe8\xed\xee\xef\xec\xdf]$*);^-/\xc2\xc4" ++
     "\xc0\xc1\xc3\xc5\xc7\xd1\xa6,%_>?\xf8\xc9\xca\xcb\xc8\xcd\xce\xcf\xcc\x60:#@'=\"")
    ("\xd8abcdefghi\xab\xbb\xf0\xfd\xfe\xb1\xb0jklmnopqr\xaa\xba\xe6\xb8\xc6\xa4\xb5~stuvwxyz" ++
     "\xa1\xbf\xd0\xdd\xde\xae\xa2\xa3\xa5\xb7\xa9\xa7\xb6\xbc\xbd\xbe\xac|\xaf\xa8\xb4\xd7\x7bA" ++
     "BCDEFGHI\xad\xf4\xf6\xf2\xf3\xf5\x7dJKLMNOPQR\xb9\xfb\xfc\xf9\xfa\xff\\\xf7STUVWXYZ\xb2" ++
     "\xd4\xd6\xd2\xd3\xd50123456789\xb3\xdb\xdc\xd9\xda\x9f")

def cp875 : CodePage := .ofHalves
    ("\x00\x01\x02\x03\x9c\x09\x86\x7f\x97\x8d\x8e\x0b\x0c\x0d\x0e\x0f\x10\x11\x12\x13\x9d\x85" ++
     "\x08\x87\x18\x19\x92\x8f\x1c\x1d\x1e\x1f\x80\x81\x82\x83\x84\x0a\x17\x1b\x88\x89\x8a\x8b" ++
     "\x8c\x05\x06\x07\x90\x91\x16\x93\x94\x95\x96\x04\x98\x99\x9a\x9b\x14\x15\x9e\x1a \u0391" ++
     "\u0392\u0393\u0394\u0395\u0396\u0397\u0398\u0399[.<(+!&\u039a\u039b\u039c\u039d\u039e" ++
     "\u039f\u03a0\u03a1\u03a3]$*);^-/\u03a4\u03a5\u03a6\u03a7\u03a8\u03a9\u03aa\u03ab|,%_>?\xa8" ++
     "\u0386\u0388\u0389\xa0\u038a\u038c\u038e\u038f\x60:#@'=\"")
    ("\u0385abcdefghi\u03b1\u03b2\u03b3\u03b4\u03b5\u03b6\xb0jklmnopqr\u03b7\u03b8\u03b9\u03ba" ++
     "\u03bb\u03bc\xb4~stuvwxyz\u03bd\u03be\u03bf\u03c0\u03c1\u03c3\xa3\u03ac\u03ad\u03ae\u03ca" ++
     "\u03af\u03cc\u03cd\u03cb\u03ce\u03c2\u03c4\u03c5\u03c6\u03c7\u03c8\x7bABCDEFGHI\xad\u03c9" ++
     "\u0390\u03b0\u2018\u2015\x7dJKLMNOPQR\xb1\xbd\x1a\u0387\u2019\xa6\\\x1aSTUVWXYZ\xb2\xa7" ++
     "\x1a\x1a\xab\xac0123456789\xb3\xa9\x1a\x1a\xbb\x9f")

def cp1026 : CodePage := .ofHalves
    ("\x00\x01\x02\x03\x9c\x09\x86\x7f\x97\x8d\x8e\x0b\x0c\x0d\x0e\x0f\x10\x11\x12\x13\x9d\x85" ++
     "\x08\x87\x18\x19\x92\x8f\x1c\x1d\x1e\x1f\x80\x81\x82\x83\x84\x0a\x17\x1b\x88\x89\x8a\x8b" ++
     "\x8c\x05\x06\x07\x90\x91\x16\x93\x94\x95\x96\x04\x98\x99\x9a\x9b\x14\x15\x9e\x1a \xa0\xe2" ++
     "\xe4\xe0\xe1\xe3\xe5\x7b\xf1\xc7.<(+!&\xe9\xea\xeb\xe8\xed\xee\xef\xec\xdf\u011e\u0130*);^" ++
     "-/\xc2\xc4\xc0\xc1\xc3\xc5[\xd1\u015f,%_>?\xf8\xc9\xca\xcb\xc8\xcd\xce\xcf\xcc\u0131:\xd6" ++
     "\u015e'=\xdc")
    ("\xd8abcdefghi\xab\xbb\x7d\x60\xa6\xb1\xb0jklmnopqr\xaa\xba\xe6\xb8\xc6\xa4\xb5\xf6stuvwxyz" ++
     "\xa1\xbf]$@\xae\xa2\xa3\xa5\xb7\xa9\xa7\xb6\xbc\xbd\xbe\xac|\xaf\xa8\xb4\xd7\xe7ABCDEFGHI" ++
     "\xad\xf4~\xf2\xf3\xf5\u011fJKLMNOPQR\xb9\xfb\\\xf9\xfa\xff\xfc\xf7STUVWXYZ\xb2\xd4#\xd2" ++
     "\xd3\xd50123456789\xb3\xdb\"\xd9\xda\x9f")

def cp1140 : CodePage := .ofHalves
    ("\x00\x01\x02\x03\x9c\x09\x86\x7f\x97\x8d\x8e\x0b\x0c\x0d\x0e\x0f\x10\x11\x12\x13\x9d\x85" ++
     "\x08\x87\x18\x19\x92\x8f\x1c\x1d\x1e\x1f\x80\x81\x82\x83\x84\x0a\x17\x1b\x88\x89\x8a\x8b" ++
     "\x8c\x05\x06\x07\x90\x91\x16\x93\x94\x95\x96\x04\x98\x99\x9a\x9b\x14\x15\x9e\x1a \xa0\xe2" ++
     "\xe4\xe0\xe1\xe3\xe5\xe7\xf1\xa2.<(+|&\xe9\xea\xeb\xe8\xed\xee\xef\xec\xdf!$*);\xac-/\xc2" ++
     "\xc4\xc0\xc1\xc3\xc5\xc7\xd1\xa6,%_>?\xf8\xc9\xca\xcb\xc8\xcd\xce\xcf\xcc\x60:#@'=\"")
    ("\xd8abcdefghi\xab\xbb\xf0\xfd\xfe\xb1\xb0jklmnopqr\xaa\xba\xe6\xb8\xc6\u20ac\xb5~stuvwxyz" ++
     "\xa1\xbf\xd0\xdd\xde\xae^\xa3\xa5\xb7\xa9\xa7\xb6\xbc\xbd\xbe[]\xaf\xa8\xb4\xd7\x7bABCDEFG" ++
     "HI\xad\xf4\xf6\xf2\xf3\xf5\x7dJKLMNOPQR\xb9\xfb\xfc\xf9\xfa\xff\\\xf7STUVWXYZ\xb2\xd4\xd6" ++
     "\xd2\xd3\xd50123456789\xb3\xdb\xdc\xd9\xda\x9f")

end NameKeys.CodePage
