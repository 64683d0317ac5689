import NameKeys.Unicode.SearchTree

/-!
# Quick-check properties

Ranges of code points whose occurrence in a text rules out, or leaves open, that the text is in a
canonical form. `composedNo` cannot occur in composed text, `composedMaybe` can occur in it where
nothing before it composes with it, and `decomposedNo` cannot occur in decomposed text. The data are
those of version 14.0 of the standard.
-/

namespace NameKeys.Unicode

/-- Code points that never occur in composed text. -/
def composedNoRanges : List (Nat × Nat) := [
  (0x340, 0x341), (0x343, 0x344), (0x374, 0x374), (0x37E, 0x37E), (0x387, 0x387), (0x958, 0x95F),
  (0x9DC, 0x9DD), (0x9DF, 0x9DF), (0xA33, 0xA33), (0xA36, 0xA36), (0xA59, 0xA5B), (0xA5E, 0xA5E),
  (0xB5C, 0xB5D), (0xF43, 0xF43), (0xF4D, 0xF4D), (0xF52, 0xF52), (0xF57, 0xF57), (0xF5C, 0xF5C),
  (0xF69, 0xF69), (0xF73, 0xF73), (0xF75, 0xF76), (0xF78, 0xF78), (0xF81, 0xF81), (0xF93, 0xF93),
  (0xF9D, 0xF9D), (0xFA2, 0xFA2), (0xFA7, 0xFA7), (0xFAC, 0xFAC), (0xFB9, 0xFB9),
  (0x1F71, 0x1F71), (0x1F73, 0x1F73), (0x1F75, 0x1F75), (0x1F77, 0x1F77), (0x1F79, 0x1F79),
  (0x1F7B, 0x1F7B), (0x1F7D, 0x1F7D), (0x1FBB, 0x1FBB), (0x1FBE, 0x1FBE), (0x1FC9, 0x1FC9),
  (0x1FCB, 0x1FCB), (0x1FD3, 0x1FD3), (0x1FDB, 0x1FDB), (0x1FE3, 0x1FE3), (0x1FEB, 0x1FEB),
  (0x1FEE, 0x1FEF), (0x1FF9, 0x1FF9), (0x1FFB, 0x1FFB), (0x1FFD, 0x1FFD), (0x2000, 0x2001),
  (0x2126, 0x2126), (0x212A, 0x212B), (0x2329, 0x232A), (0x2ADC, 0x2ADC), (0xF900, 0xFA0D),
  (0xFA10, 0xFA10), (0xFA12, 0xFA12), (0xFA15, 0xFA1E), (0xFA20, 0xFA20), (0xFA22, 0xFA22),
  (0xFA25, 0xFA26), (0xFA2A, 0xFA6D), (0xFA70, 0xFAD9), (0xFB1D, 0xFB1D), (0xFB1F, 0xFB1F),
  (0xFB2A, 0xFB36), (0xFB38, 0xFB3C), (0xFB3E, 0xFB3E), (0xFB40, 0xFB41), (0xFB43, 0xFB44),
  (0xFB46, 0xFB4E), (0x1D15E, 0x1D164), (0x1D1BB, 0x1D1C0), (0x2F800, 0x2FA1D)]

/-- Code points that may compose with a code point before them. -/
def composedMaybeRanges : List (Nat × Nat) := [
  (0x300, 0x304), (0x306, 0x30C), (0x30F, 0x30F), (0x311, 0x311), (0x313, 0x314), (0x31B, 0x31B),
  (0x323, 0x328), (0x32D, 0x32E), (0x330, 0x331), (0x338, 0x338), (0x342, 0x342), (0x345, 0x345),
  (0x653, 0x655), (0x93C, 0x93C), (0x9BE, 0x9BE), (0x9D7, 0x9D7), (0xB3E, 0xB3E), (0xB56, 0xB57),
  (0xBBE, 0xBBE), (0xBD7, 0xBD7), (0xC56, 0xC56), (0xCC2, 0xCC2), (0xCD5, 0xCD6), (0xD3E, 0xD3E),
  (0xD57, 0xD57), (0xDCA, 0xDCA), (0xDCF, 0xDCF), (0xDDF, 0xDDF), (0x102E, 0x102E),
  (0x1161, 0x1175), (0x11A8, 0x11C2), (0x1B35, 0x1B35), (0x3099, 0x309A), (0x110BA, 0x110BA),
  (0x11127, 0x11127), (0x1133E, 0x1133E), (0x11357, 0x11357), (0x114B0, 0x114B0),
  (0x114BA, 0x114BA), (0x114BD, 0x114BD), (0x115AF, 0x115AF), (0x11930, 0x11930)]

def decomposedNoRangesPart1 : List (Nat × Nat) := [
  (0xC0, 0xC5), (0xC7, 0xCF), (0xD1, 0xD6), (0xD9, 0xDD), (0xE0, 0xE5), (0xE7, 0xEF),
  (0xF1, 0xF6), (0xF9, 0xFD), (0xFF, 0x10F), (0x112, 0x125), (0x128, 0x130), (0x134, 0x137),
  (0x139, 0x13E), (0x143, 0x148), (0x14C, 0x151), (0x154, 0x165), (0x168, 0x17E), (0x1A0, 0x1A1),
  (0x1AF, 0x1B0), (0x1CD, 0x1DC), (0x1DE, 0x1E3), (0x1E6, 0x1F0), (0x1F4, 0x1F5), (0x1F8, 0x21B),
  (0x21E, 0x21F), (0x226, 0x233), (0x340, 0x341), (0x343, 0x344), (0x374, 0x374), (0x37E, 0x37E),
  (0x385, 0x38A), (0x38C, 0x38C), (0x38E, 0x390), (0x3AA, 0x3B0), (0x3CA, 0x3CE), (0x3D3, 0x3D4),
  (0x400, 0x401), (0x403, 0x403), (0x407, 0x407), (0x40C, 0x40E), (0x419, 0x419), (0x439, 0x439),
  (0x450, 0x451), (0x453, 0x453), (0x457, 0x457), (0x45C, 0x45E), (0x476, 0x477), (0x4C1, 0x4C2),
  (0x4D0, 0x4D3), (0x4D6, 0x4D7), (0x4DA, 0x4DF), (0x4E2, 0x4E7), (0x4EA, 0x4F5), (0x4F8, 0x4F9),
  (0x622, 0x626), (0x6C0, 0x6C0), (0x6C2, 0x6C2), (0x6D3, 0x6D3), (0x929, 0x929), (0x931, 0x931),
  (0x934, 0x934), (0x958, 0x95F), (0x9CB, 0x9CC), (0x9DC, 0x9DD), (0x9DF, 0x9DF), (0xA33, 0xA33),
  (0xA36, 0xA36), (0xA59, 0xA5B), (0xA5E, 0xA5E), (0xB48, 0xB48), (0xB4B, 0xB4C), (0xB5C, 0xB5D),
  (0xB94, 0xB94), (0xBCA, 0xBCC), (0xC48, 0xC48), (0xCC0, 0xCC0), (0xCC7, 0xCC8), (0xCCA, 0xCCB),
  (0xD4A, 0xD4C), (0xDDA, 0xDDA), (0xDDC, 0xDDE), (0xF43, 0xF43), (0xF4D, 0xF4D), (0xF52, 0xF52),
  (0xF57, 0xF57), (0xF5C, 0xF5C), (0xF69, 0xF69), (0xF73, 0xF73), (0xF75, 0xF76), (0xF78, 0xF78),
  (0xF81, 0xF81), (0xF93, 0xF93), (0xF9D, 0xF9D), (0xFA2, 0xFA2), (0xFA7, 0xFA7), (0xFAC, 0xFAC),
  (0xFB9, 0xFB9), (0x1026, 0x1026), (0x1B06, 0x1B06), (0x1B08, 0x1B08), (0x1B0A, 0x1B0A),
  (0x1B0C, 0x1B0C), (0x1B0E, 0x1B0E), (0x1B12, 0x1B12), (0x1B3B, 0x1B3B), (0x1B3D, 0x1B3D),
  (0x1B40, 0x1B41), (0x1B43, 0x1B43), (0x1E00, 0x1E99), (0x1E9B, 0x1E9B), (0x1EA0, 0x1EF9),
  (0x1F00, 0x1F15), (0x1F18, 0x1F1D), (0x1F20, 0x1F45), (0x1F48, 0x1F4D), (0x1F50, 0x1F57),
  (0x1F59, 0x1F59), (0x1F5B, 0x1F5B), (0x1F5D, 0x1F5D), (0x1F5F, 0x1F7D), (0x1F80, 0x1FB4),
  (0x1FB6, 0x1FBC), (0x1FBE, 0x1FBE), (0x1FC1, 0x1FC4), (0x1FC6, 0x1FD3), (0x1FD6, 0x1FDB),
  (0x1FDD, 0x1FEF), (0x1FF2, 0x1FF4)]

def decomposedNoRangesPart2 : List (Nat × Nat) := [
  (0x1FF6, 0x1FFD), (0x2000, 0x2001), (0x2126, 0x2126), (0x212A, 0x212B), (0x219A, 0x219B),
  (0x21AE, 0x21AE), (0x21CD, 0x21CF), (0x2204, 0x2204), (0x2209, 0x2209), (0x220C, 0x220C),
  (0x2224, 0x2224), (0x2226, 0x2226), (0x2241, 0x2241), (0x2244, 0x2244), (0x2247, 0x2247),
  (0x2249, 0x2249), (0x2260, 0x2260), (0x2262, 0x2262), (0x226D, 0x2271), (0x2274, 0x2275),
  (0x2278, 0x2279), (0x2280, 0x2281), (0x2284, 0x2285), (0x2288, 0x2289), (0x22AC, 0x22AF),
  (0x22E0, 0x22E3), (0x22EA, 0x22ED), (0x2329, 0x232A), (0x2ADC, 0x2ADC), (0x304C, 0x304C),
  (0x304E, 0x304E), (0x3050, 0x3050), (0x3052, 0x3052), (0x3054, 0x3054), (0x3056, 0x3056),
  (0x3058, 0x3058), (0x305A, 0x305A), (0x305C, 0x305C), (0x305E, 0x305E), (0x3060, 0x3060),
  (0x3062, 0x3062), (0x3065, 0x3065), (0x3067, 0x3067), (0x3069, 0x3069), (0x3070, 0x3071),
  (0x3073, 0x3074), (0x3076, 0x3077), (0x3079, 0x307A), (0x307C, 0x307D), (0x3094, 0x3094),
  (0x309E, 0x309E), (0x30AC, 0x30AC), (0x30AE, 0x30AE), (0x30B0, 0x30B0), (0x30B2, 0x30B2),
  (0x30B4, 0x30B4), (0x30B6, 0x30B6), (0x30B8, 0x30B8), (0x30BA, 0x30BA), (0x30BC, 0x30BC),
  (0x30BE, 0x30BE), (0x30C0, 0x30C0), (0x30C2, 0x30C2), (0x30C5, 0x30C5), (0x30C7, 0x30C7),
  (0x30C9, 0x30C9), (0x30D0, 0x30D1), (0x30D3, 0x30D4), (0x30D6, 0x30D7), (0x30D9, 0x30DA),
  (0x30DC, 0x30DD), (0x30F4, 0x30F4), (0x30F7, 0x30FA), (0x30FE, 0x30FE), (0xAC00, 0xD7A3),
  (0xF900, 0xFA0D), (0xFA10, 0xFA10), (0xFA12, 0xFA12), (0xFA15, 0xFA1E), (0xFA20, 0xFA20),
  (0xFA22, 0xFA22), (0xFA25, 0xFA26), (0xFA2A, 0xFA6D), (0xFA70, 0xFAD9), (0xFB1D, 0xFB1D),
  (0xFB1F, 0xFB1F), (0xFB2A, 0xFB36), (0xFB38, 0xFB3C), (0xFB3E, 0xFB3E), (0xFB40, 0xFB41),
  (0xFB43, 0xFB44), (0xFB46, 0xFB4E), (0x1109A, 0x1109A), (0x1109C, 0x1109C), (0x110AB, 0x110AB),
  (0x1112E, 0x1112F), (0x1134B, 0x1134C), (0x114BB, 0x114BC), (0x114BE, 0x114BE),
  (0x115BA, 0x115BB), (0x11938, 0x11938), (0x1D15E, 0x1D164), (0x1D1BB, 0x1D1C0),
  (0x2F800, 0x2FA1D)]

/-- Code points that never occur in decomposed text. -/
def decomposedNoRanges : List (Nat × Nat) :=
  decomposedNoRangesPart1 ++ decomposedNoRangesPart2

/-- `composedNoRanges`, arranged for look-up. -/
def composedNoTree : SearchTree Nat := .ofSorted composedNoRanges

/-- `composedMaybeRanges`, arranged for look-up. -/
def composedMaybeTree : SearchTree Nat := .ofSorted composedMaybeRanges

/-- `decomposedNoRanges`, arranged for look-up. -/
def decomposedNoTree : SearchTree Nat := .ofSorted decomposedNoRanges

/-- Whether a code point never occurs in composed text. -/
def composedNo (c : Nat) : Bool := composedNoTree.covers c

/-- Whether a code point may compose with one before it. -/
def composedMaybe (c : Nat) : Bool := composedMaybeTree.covers c

/-- Whether a code point never occurs in decomposed text. -/
def decomposedNo (c : Nat) : Bool := decomposedNoTree.covers c

end NameKeys.Unicode
