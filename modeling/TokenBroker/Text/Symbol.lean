import TokenBroker.Text.Printable

/-!
# Symbols

The signs beyond ASCII that show and yet belong to no word: punctuation, and signs of currency, of
mathematics and of the like.
-/

namespace TokenBroker

namespace Text

/-- The ranges of code points, ends included, of signs beyond ASCII, and of characters among them
that do not show. -/
def symbolRanges : List (Nat × Nat) :=
  [
    (0x00A1, 0x00A9), (0x00AB, 0x00B4), (0x00B6, 0x00B6), (0x00B8, 0x00B9), (0x00BB, 0x00BF),
    (0x00D7, 0x00D7), (0x00F7, 0x00F7), (0x02C2, 0x02C5), (0x02D2, 0x02DF), (0x02E5, 0x02EB),
    (0x02ED, 0x02ED), (0x02EF, 0x02FF), (0x0375, 0x0375), (0x037A, 0x037A), (0x037E, 0x037E),
    (0x0384, 0x0385), (0x03F6, 0x03F6), (0x0482, 0x0482), (0x0488, 0x0489), (0x055A, 0x055F),
    (0x0589, 0x058F), (0x05BE, 0x05BE), (0x05C0, 0x05C0), (0x05C3, 0x05C3), (0x05C6, 0x05C6),
    (0x05F3, 0x060F), (0x061B, 0x061F), (0x066A, 0x066D), (0x06D4, 0x06D4), (0x06DE, 0x06DE),
    (0x06E9, 0x06E9), (0x06FD, 0x06FE), (0x0700, 0x070D), (0x07F6, 0x07F9), (0x07FE, 0x07FF),
    (0x0830, 0x083E), (0x085E, 0x085E), (0x0888, 0x0888), (0x0964, 0x0965), (0x0970, 0x0970),
    (0x09F2, 0x09FB), (0x09FD, 0x09FD), (0x0A76, 0x0A76), (0x0AF0, 0x0AF1), (0x0B70, 0x0B70),
    (0x0B72, 0x0B77), (0x0BF0, 0x0BFA), (0x0C77, 0x0C7F), (0x0C84, 0x0C84), (0x0D4F, 0x0D4F),
    (0x0D58, 0x0D5E), (0x0D70, 0x0D79), (0x0DF4, 0x0DF4), (0x0E3F, 0x0E3F), (0x0E4F, 0x0E4F),
    (0x0E5A, 0x0E5B), (0x0F01, 0x0F17), (0x0F1A, 0x0F1F), (0x0F2A, 0x0F34), (0x0F36, 0x0F36),
    (0x0F38, 0x0F38), (0x0F3A, 0x0F3D), (0x0F85, 0x0F85), (0x0FBE, 0x0FC5), (0x0FC7, 0x0FDA),
    (0x104A, 0x104F), (0x109E, 0x109F), (0x10FB, 0x10FB), (0x1360, 0x1368), (0x1372, 0x137C),
    (0x1390, 0x1399), (0x1400, 0x1400), (0x166D, 0x166E), (0x169B, 0x169C), (0x16EB, 0x16ED),
    (0x1735, 0x1736), (0x17D4, 0x17D6), (0x17D8, 0x17DB), (0x17F0, 0x180A), (0x1940, 0x1945),
    (0x19DE, 0x19FF), (0x1A1E, 0x1A1F), (0x1AA0, 0x1AA6), (0x1AA8, 0x1AAD), (0x1ABE, 0x1ABE),
    (0x1B5A, 0x1B6A), (0x1B74, 0x1B7E), (0x1BFC, 0x1BFF), (0x1C3B, 0x1C3F), (0x1C7E, 0x1C7F),
    (0x1CC0, 0x1CC7), (0x1CD3, 0x1CD3), (0x1FBD, 0x1FBD), (0x1FBF, 0x1FC1), (0x1FCD, 0x1FCF),
    (0x1FDD, 0x1FDF), (0x1FED, 0x1FEF), (0x1FFD, 0x203E), (0x2041, 0x2053), (0x2055, 0x2070),
    (0x2074, 0x207E), (0x2080, 0x208E), (0x20A0, 0x20C0), (0x20DD, 0x20E0), (0x20E2, 0x20E4),
    (0x2100, 0x2101), (0x2103, 0x2106), (0x2108, 0x2109), (0x2114, 0x2114), (0x2116, 0x2117),
    (0x211E, 0x2123), (0x2125, 0x2125), (0x2127, 0x2127), (0x2129, 0x2129), (0x213A, 0x213B),
    (0x2140, 0x2144), (0x214A, 0x214D), (0x214F, 0x215F), (0x2189, 0x2BFF), (0x2CE5, 0x2CEA),
    (0x2CF9, 0x2CFF), (0x2D70, 0x2D70), (0x2E00, 0x3004), (0x3008, 0x3020), (0x3030, 0x3030),
    (0x3036, 0x3037), (0x303D, 0x303F), (0x309B, 0x309C), (0x30A0, 0x30A0), (0x30FB, 0x30FB),
    (0x3190, 0x319F), (0x31C0, 0x31E3), (0x3200, 0x33FF), (0x4DC0, 0x4DFF), (0xA490, 0xA4C6),
    (0xA4FE, 0xA4FF), (0xA60D, 0xA60F), (0xA670, 0xA673), (0xA67E, 0xA67E), (0xA6F2, 0xA716),
    (0xA720, 0xA721), (0xA789, 0xA78A), (0xA828, 0xA82B), (0xA830, 0xA839), (0xA874, 0xA877),
    (0xA8CE, 0xA8CF), (0xA8F8, 0xA8FA), (0xA8FC, 0xA8FC), (0xA92E, 0xA92F), (0xA95F, 0xA95F),
    (0xA9C1, 0xA9CD), (0xA9DE, 0xA9DF), (0xAA5C, 0xAA5F), (0xAA77, 0xAA79), (0xAADE, 0xAADF),
    (0xAAF0, 0xAAF1), (0xAB5B, 0xAB5B), (0xAB6A, 0xAB6B), (0xABEB, 0xABEB), (0xFB29, 0xFB29),
    (0xFBB2, 0xFBC2), (0xFC5E, 0xFC63), (0xFD3E, 0xFD4F), (0xFDCF, 0xFDCF), (0xFDFA, 0xFDFF),
    (0xFE10, 0xFE19), (0xFE30, 0xFE32), (0xFE35, 0xFE4C), (0xFE50, 0xFE70), (0xFE72, 0xFE72),
    (0xFE74, 0xFE76), (0xFE78, 0xFE78), (0xFE7A, 0xFE7A), (0xFE7C, 0xFE7C), (0xFE7E, 0xFE7E),
    (0xFF01, 0xFF0F), (0xFF1A, 0xFF20), (0xFF3B, 0xFF3E), (0xFF40, 0xFF40), (0xFF5B, 0xFF65),
    (0xFFE0, 0xFFFD), (0x10100, 0x1013F), (0x10175, 0x101FC), (0x102E1, 0x102FB),
    (0x10320, 0x10323), (0x1039F, 0x1039F), (0x103D0, 0x103D0), (0x1056F, 0x1056F),
    (0x10857, 0x1085F), (0x10877, 0x1087F), (0x108A7, 0x108AF), (0x108FB, 0x108FF),
    (0x10916, 0x1091F), (0x1093F, 0x1093F), (0x109BC, 0x109BD), (0x109C0, 0x109FF),
    (0x10A40, 0x10A58), (0x10A7D, 0x10A7F), (0x10A9D, 0x10A9F), (0x10AC8, 0x10AC8),
    (0x10AEB, 0x10AF6), (0x10B39, 0x10B3F), (0x10B58, 0x10B5F), (0x10B78, 0x10B7F),
    (0x10B99, 0x10BAF), (0x10CFA, 0x10CFF), (0x10E60, 0x10E7E), (0x10EAD, 0x10EAD),
    (0x10F1D, 0x10F26), (0x10F51, 0x10F59), (0x10F86, 0x10F89), (0x10FC5, 0x10FCB),
    (0x11047, 0x11065), (0x110BB, 0x110C1), (0x11140, 0x11143), (0x11174, 0x11175),
    (0x111C5, 0x111C8), (0x111CD, 0x111CD), (0x111DB, 0x111DB), (0x111DD, 0x111F4),
    (0x11238, 0x1123D), (0x112A9, 0x112A9), (0x1144B, 0x1144F), (0x1145A, 0x1145D),
    (0x114C6, 0x114C6), (0x115C1, 0x115D7), (0x11641, 0x11643), (0x11660, 0x1166C),
    (0x116B9, 0x116B9), (0x1173A, 0x1173F), (0x1183B, 0x1183B), (0x118EA, 0x118F2),
    (0x11944, 0x11946), (0x119E2, 0x119E2), (0x11A3F, 0x11A46), (0x11A9A, 0x11A9C),
    (0x11A9E, 0x11AA2), (0x11C41, 0x11C45), (0x11C5A, 0x11C71), (0x11EF7, 0x11EF8),
    (0x11FC0, 0x11FFF), (0x12470, 0x12474), (0x12FF1, 0x12FF2), (0x16A6E, 0x16A6F),
    (0x16AF5, 0x16AF5), (0x16B37, 0x16B3F), (0x16B44, 0x16B45), (0x16B5B, 0x16B61),
    (0x16E80, 0x16E9A), (0x16FE2, 0x16FE2), (0x1BC9C, 0x1BC9C), (0x1BC9F, 0x1BC9F),
    (0x1CF50, 0x1D164), (0x1D16A, 0x1D16C), (0x1D183, 0x1D184), (0x1D18C, 0x1D1A9),
    (0x1D1AE, 0x1D241), (0x1D245, 0x1D378), (0x1D6C1, 0x1D6C1), (0x1D6DB, 0x1D6DB),
    (0x1D6FB, 0x1D6FB), (0x1D715, 0x1D715), (0x1D735, 0x1D735), (0x1D74F, 0x1D74F),
    (0x1D76F, 0x1D76F), (0x1D789, 0x1D789), (0x1D7A9, 0x1D7A9), (0x1D7C3, 0x1D7C3),
    (0x1D800, 0x1D9FF), (0x1DA37, 0x1DA3A), (0x1DA6D, 0x1DA74), (0x1DA76, 0x1DA83),
    (0x1DA85, 0x1DA8B), (0x1E14F, 0x1E14F), (0x1E2FF, 0x1E2FF), (0x1E8C7, 0x1E8CF),
    (0x1E95E, 0x1ED3D), (0x1EEF0, 0x1FBCA)
  ]

/-- Whether a character beyond ASCII shows and belongs to no word. -/
def isSymbol (c : Char) : Bool :=
  isPrintable c && symbolRanges.any fun (lo, hi) => lo ≤ c.toNat && c.toNat ≤ hi

end Text

end TokenBroker
