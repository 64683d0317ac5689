import NameKeys.Text.CodePage.Dos
import NameKeys.Text.CodePage.Iso8859
import NameKeys.Text.CodePage.Macintosh
import NameKeys.Text.CodePage.Mainframe
import NameKeys.Text.CodePage.Regional
import NameKeys.Text.CodePage.Windows

/-!
# Names of code pages

The names under which a stream can ask for a code page, in lower case and with underscores between
their words.
-/

namespace NameKeys.CodePage

/-- The names of code pages, page by page. -/
def names : List (String × CodePage) :=
  [("1250", cp1250), ("cp1250", cp1250), ("windows_1250", cp1250), ("1251", cp1251),
    ("cp1251", cp1251), ("windows_1251", cp1251), ("1252", cp1252), ("cp1252", cp1252),
    ("windows_1252", cp1252), ("1253", cp1253), ("cp1253", cp1253), ("windows_1253", cp1253),
    ("1254", cp1254), ("cp1254", cp1254), ("windows_1254", cp1254), ("1255", cp1255),
    ("cp1255", cp1255), ("windows_1255", cp1255), ("1256", cp1256), ("cp1256", cp1256),
    ("windows_1256", cp1256), ("1257", cp1257), ("cp1257", cp1257), ("windows_1257", cp1257),
    ("1258", cp1258), ("cp1258", cp1258), ("windows_1258", cp1258), ("cp720", cp720),
    ("cp874", cp874), ("csisolatin6", iso8859Part10), ("iso8859_10", iso8859Part10),
    ("iso_8859_10", iso8859Part10), ("iso_8859_10_1992", iso8859Part10),
    ("iso_ir_157", iso8859Part10), ("l6", iso8859Part10), ("latin6", iso8859Part10),
    ("iso8859_11", iso8859Part11), ("iso_8859_11", iso8859Part11),
    ("iso_8859_11_2001", iso8859Part11), ("thai", iso8859Part11), ("iso8859_13", iso8859Part13),
    ("iso_8859_13", iso8859Part13), ("l7", iso8859Part13), ("latin7", iso8859Part13),
    ("iso8859_14", iso8859Part14), ("iso_8859_14", iso8859Part14),
    ("iso_8859_14_1998", iso8859Part14), ("iso_celtic", iso8859Part14),
    ("iso_ir_199", iso8859Part14), ("l8", iso8859Part14), ("latin8", iso8859Part14),
    ("iso8859_15", iso8859Part15), ("iso_8859_15", iso8859Part15), ("l9", iso8859Part15),
    ("latin9", iso8859Part15), ("iso8859_16", iso8859Part16), ("iso_8859_16", iso8859Part16),
    ("iso_8859_16_2001", iso8859Part16), ("iso_ir_226", iso8859Part16), ("l10", iso8859Part16),
    ("latin10", iso8859Part16), ("csisolatin2", iso8859Part2), ("iso8859_2", iso8859Part2),
    ("iso_8859_2", iso8859Part2), ("iso_8859_2_1987", iso8859Part2), ("iso_ir_101", iso8859Part2),
    ("l2", iso8859Part2), ("latin2", iso8859Part2), ("csisolatin3", iso8859Part3),
    ("iso8859_3", iso8859Part3), ("iso_8859_3", iso8859Part3), ("iso_8859_3_1988", iso8859Part3),
    ("iso_ir_109", iso8859Part3), ("l3", iso8859Part3), ("latin3", iso8859Part3),
    ("csisolatin4", iso8859Part4), ("iso8859_4", iso8859Part4), ("iso_8859_4", iso8859Part4),
    ("iso_8859_4_1988", iso8859Part4), ("iso_ir_110", iso8859Part4), ("l4", iso8859Part4),
    ("latin4", iso8859Part4), ("csisolatincyrillic", iso8859Part5), ("cyrillic", iso8859Part5),
    ("iso8859_5", iso8859Part5), ("iso_8859_5", iso8859Part5), ("iso_8859_5_1988", iso8859Part5),
    ("iso_ir_144", iso8859Part5), ("arabic", iso8859Part6), ("asmo_708", iso8859Part6),
    ("csisolatinarabic", iso8859Part6), ("ecma_114", iso8859Part6), ("iso8859_6", iso8859Part6),
    ("iso_8859_6", iso8859Part6), ("iso_8859_6_1987", iso8859Part6), ("iso_ir_127", iso8859Part6),
    ("csisolatingreek", iso8859Part7), ("ecma_118", iso8859Part7), ("elot_928", iso8859Part7),
    ("greek", iso8859Part7), ("greek8", iso8859Part7), ("iso8859_7", iso8859Part7),
    ("iso_8859_7", iso8859Part7), ("iso_8859_7_1987", iso8859Part7), ("iso_ir_126", iso8859Part7),
    ("csisolatinhebrew", iso8859Part8), ("hebrew", iso8859Part8), ("iso8859_8", iso8859Part8),
    ("iso_8859_8", iso8859Part8), ("iso_8859_8_1988", iso8859Part8), ("iso_ir_138", iso8859Part8),
    ("csisolatin5", iso8859Part9), ("iso8859_9", iso8859Part9), ("iso_8859_9", iso8859Part9),
    ("iso_8859_9_1989", iso8859Part9), ("iso_ir_148", iso8859Part9), ("l5", iso8859Part9),
    ("latin5", iso8859Part9), ("iso_ir_166", tis620), ("tis620", tis620), ("tis_620", tis620),
    ("tis_620_0", tis620), ("tis_620_2529_0", tis620), ("tis_620_2529_1", tis620), ("437", cp437),
    ("cp437", cp437), ("cspc8codepage437", cp437), ("ibm437", cp437), ("cp737", cp737),
    ("775", cp775), ("cp775", cp775), ("cspc775baltic", cp775), ("ibm775", cp775), ("850", cp850),
    ("cp850", cp850), ("cspc850multilingual", cp850), ("ibm850", cp850), ("852", cp852),
    ("cp852", cp852), ("cspcp852", cp852), ("ibm852", cp852), ("855", cp855), ("cp855", cp855),
    ("csibm855", cp855), ("ibm855", cp855), ("cp856", cp856), ("857", cp857), ("cp857", cp857),
    ("csibm857", cp857), ("ibm857", cp857), ("858", cp858), ("cp858", cp858), ("csibm858", cp858),
    ("ibm858", cp858), ("860", cp860), ("cp860", cp860), ("csibm860", cp860), ("ibm860", cp860),
    ("861", cp861), ("cp861", cp861), ("cp_is", cp861), ("csibm861", cp861), ("ibm861", cp861),
    ("862", cp862), ("cp862", cp862), ("cspc862latinhebrew", cp862), ("ibm862", cp862),
    ("863", cp863), ("cp863", cp863), ("csibm863", cp863), ("ibm863", cp863), ("864", cp864),
    ("cp864", cp864), ("csibm864", cp864), ("ibm864", cp864), ("865", cp865), ("cp865", cp865),
    ("csibm865", cp865), ("ibm865", cp865), ("866", cp866), ("cp866", cp866), ("csibm866", cp866),
    ("ibm866", cp866), ("869", cp869), ("cp869", cp869), ("cp_gr", cp869), ("csibm869", cp869),
    ("ibm869", cp869), ("cp1006", cp1006), ("1125", cp1125), ("cp1125", cp1125),
    ("cp866u", cp1125), ("ibm1125", cp1125), ("ruscii", cp1125), ("037", cp037), ("cp037", cp037),
    ("csibm037", cp037), ("ebcdic_cp_ca", cp037), ("ebcdic_cp_nl", cp037),
    ("ebcdic_cp_us", cp037), ("ebcdic_cp_wt", cp037), ("ibm037", cp037), ("ibm039", cp037),
    ("273", cp273), ("cp273", cp273), ("csibm273", cp273), ("ibm273", cp273), ("424", cp424),
    ("cp424", cp424), ("csibm424", cp424), ("ebcdic_cp_he", cp424), ("ibm424", cp424),
    ("500", cp500), ("cp500", cp500), ("csibm500", cp500), ("ebcdic_cp_be", cp500),
    ("ebcdic_cp_ch", cp500), ("ibm500", cp500), ("cp875", cp875), ("1026", cp1026),
    ("cp1026", cp1026), ("csibm1026", cp1026), ("ibm1026", cp1026), ("1140", cp1140),
    ("cp1140", cp1140), ("ibm1140", cp1140), ("mac_arabic", macArabic),
    ("mac_croatian", macCroatian), ("mac_cyrillic", macCyrillic), ("maccyrillic", macCyrillic),
    ("mac_farsi", macFarsi), ("mac_greek", macGreek), ("macgreek", macGreek),
    ("mac_iceland", macIceland), ("maciceland", macIceland), ("mac_centeuro", macLatin2),
    ("mac_latin2", macLatin2), ("maccentraleurope", macLatin2), ("maclatin2", macLatin2),
    ("mac_roman", macRoman), ("macintosh", macRoman), ("macroman", macRoman),
    ("mac_romanian", macRomanian), ("mac_turkish", macTurkish), ("macturkish", macTurkish),
    ("cp1051", hpRoman8), ("hp_roman8", hpRoman8), ("ibm1051", hpRoman8), ("r8", hpRoman8),
    ("roman8", hpRoman8), ("cskoi8r", koi8R), ("koi8_r", koi8R), ("koi8_t", koi8T),
    ("koi8_u", koi8U), ("kz1048", kz1048), ("kz_1048", kz1048), ("rk1048", kz1048),
    ("strk1048_2002", kz1048), ("palmos", palmos), ("cp154", ptcp154), ("csptcp154", ptcp154),
    ("cyrillic_asian", ptcp154), ("pt154", ptcp154), ("ptcp154", ptcp154)]

def named : List (Text × CodePage) := names.map fun (name, page) => (Text.ofString name, page)

end NameKeys.CodePage
