import NameKeys.Text.Multibyte.Chinese
import NameKeys.Text.Multibyte.Korean

/-!
# Multi-byte encodings

The encodings in which no sequence of bytes depends on those before it, with their names.
-/

namespace NameKeys

/-- An encoding for Japanese, Chinese or Korean with a layout. -/
inductive Multibyte where
  | shiftJis
  | shiftJisX0213
  | shiftJis2004
  | cp932
  | eucJp
  | eucJisX0213
  | eucJis2004
  | gb2312
  | gbk
  | gb18030
  | big5
  | cp950
  | big5Hkscs
  | eucKr
  | cp949
  | johab
  deriving DecidableEq, Repr

namespace Multibyte

def layout : Multibyte → Layout
  | shiftJis => .shiftJis
  | shiftJisX0213 => .shiftJisX0213
  | shiftJis2004 => .shiftJis2004
  | cp932 => .cp932
  | eucJp => .eucJp
  | eucJisX0213 => .eucJisX0213
  | eucJis2004 => .eucJis2004
  | gb2312 => .gb2312
  | gbk => .gbk
  | gb18030 => .gb18030
  | big5 => .big5
  | cp950 => .cp950
  | big5Hkscs => .big5Hkscs
  | eucKr => .eucKr
  | cp949 => .cp949
  | johab => .johab

/-- The name of an encoding in messages. -/
def label : Multibyte → Text
  | shiftJis => "shift_jis"
  | shiftJisX0213 => "shift_jisx0213"
  | shiftJis2004 => "shift_jis_2004"
  | cp932 => "cp932"
  | eucJp => "euc_jp"
  | eucJisX0213 => "euc_jisx0213"
  | eucJis2004 => "euc_jis_2004"
  | gb2312 => "gb2312"
  | gbk => "gbk"
  | gb18030 => "gb18030"
  | big5 => "big5"
  | cp950 => "cp950"
  | big5Hkscs => "big5hkscs"
  | eucKr => "euc_kr"
  | cp949 => "cp949"
  | johab => "johab"

/-- The encodings with the names by which one can ask for them. -/
def named : List (Multibyte × List String) :=
  [(shiftJis, ["shift_jis", "csshiftjis", "shiftjis", "sjis", "s_jis", "x_mac_japanese"]),
    (shiftJisX0213, ["shift_jisx0213", "shiftjisx0213", "sjisx0213", "s_jisx0213"]),
    (shiftJis2004, ["shift_jis_2004", "shiftjis2004", "sjis_2004", "s_jis_2004"]),
    (cp932, ["cp932", "932", "ms932", "mskanji", "ms_kanji"]),
    (eucJp, ["euc_jp", "eucjp", "ujis", "u_jis"]),
    (eucJisX0213, ["euc_jisx0213", "eucjisx0213"]),
    (eucJis2004, ["euc_jis_2004", "jisx0213", "eucjis2004", "euc_jis2004"]),
    (gb2312, ["gb2312", "chinese", "csiso58gb231280", "euc_cn", "euccn", "eucgb2312_cn",
      "gb2312_1980", "gb2312_80", "iso_ir_58", "x_mac_simp_chinese"]),
    (gbk, ["gbk", "936", "cp936", "ms936"]),
    (gb18030, ["gb18030", "gb18030_2000"]),
    (big5, ["big5", "big5_tw", "csbig5", "x_mac_trad_chinese"]),
    (cp950, ["cp950", "950", "ms950"]),
    (big5Hkscs, ["big5hkscs", "big5_hkscs", "hkscs"]),
    (eucKr, ["euc_kr", "euckr", "korean", "ksc5601", "ks_c_5601", "ks_c_5601_1987", "ksx1001",
      "ks_x_1001", "x_mac_korean"]),
    (cp949, ["cp949", "949", "ms949", "uhc"]),
    (johab, ["johab", "cp1361", "ms1361"])]

end Multibyte

end NameKeys
