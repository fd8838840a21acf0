/-!
Contract: characters beyond ASCII that count as several in a domain.
-/

namespace EventConsole.Url

private def domainSequencesPart1 : List (Nat × List (List Nat)) :=
  [
    (0xA8, [[0x20, 0x308]]), (0xAF, [[0x20, 0x304]]), (0xB4, [[0x20, 0x301]]),
    (0xB8, [[0x20, 0x327]]), (0xBC, [[0x31, 0x2044, 0x34], [0x31, 0x2044, 0x32],
    [0x33, 0x2044, 0x34]]), (0x132, [[0x69, 0x6A], [0x69, 0x6A]]), (0x13F, [[0x6C, 0xB7],
    [0x6C, 0xB7]]), (0x149, [[0x2BC, 0x6E]]), (0x1C4, [[0x64, 0x17E], [0x64, 0x17E], [0x64, 0x17E],
    [0x6C, 0x6A], [0x6C, 0x6A], [0x6C, 0x6A], [0x6E, 0x6A], [0x6E, 0x6A], [0x6E, 0x6A]]),
    (0x1F1, [[0x64, 0x7A], [0x64, 0x7A], [0x64, 0x7A]]), (0x2D8, [[0x20, 0x306], [0x20, 0x307],
    [0x20, 0x30A], [0x20, 0x328], [0x20, 0x303], [0x20, 0x30B]]), (0x344, [[0x308, 0x301]]),
    (0x37A, [[0x20, 0x3B9]]), (0x384, [[0x20, 0x301], [0x20, 0x308, 0x301]]),
    (0x587, [[0x565, 0x582]]), (0x675, [[0x627, 0x674], [0x648, 0x674], [0x6C7, 0x674],
    [0x64A, 0x674]]), (0x958, [[0x915, 0x93C], [0x916, 0x93C], [0x917, 0x93C], [0x91C, 0x93C],
    [0x921, 0x93C], [0x922, 0x93C], [0x92B, 0x93C], [0x92F, 0x93C]]), (0x9DC, [[0x9A1, 0x9BC],
    [0x9A2, 0x9BC]]), (0x9DF, [[0x9AF, 0x9BC]]), (0xA33, [[0xA32, 0xA3C]]),
    (0xA36, [[0xA38, 0xA3C]]), (0xA59, [[0xA16, 0xA3C], [0xA17, 0xA3C], [0xA1C, 0xA3C]]),
    (0xA5E, [[0xA2B, 0xA3C]]), (0xB5C, [[0xB21, 0xB3C], [0xB22, 0xB3C]]), (0xE33, [[0xE4D, 0xE32]]),
    (0xEB3, [[0xECD, 0xEB2]]), (0xEDC, [[0xEAB, 0xE99], [0xEAB, 0xEA1]]), (0xF43, [[0xF42, 0xFB7]]),
    (0xF4D, [[0xF4C, 0xFB7]]), (0xF52, [[0xF51, 0xFB7]]), (0xF57, [[0xF56, 0xFB7]]),
    (0xF5C, [[0xF5B, 0xFB7]]), (0xF69, [[0xF40, 0xFB5]]), (0xF73, [[0xF71, 0xF72]]),
    (0xF75, [[0xF71, 0xF74], [0xFB2, 0xF80], [0xFB2, 0xF71, 0xF80], [0xFB3, 0xF80],
    [0xFB3, 0xF71, 0xF80]]), (0xF81, [[0xF71, 0xF80]]), (0xF93, [[0xF92, 0xFB7]]),
    (0xF9D, [[0xF9C, 0xFB7]]), (0xFA2, [[0xFA1, 0xFB7]]), (0xFA7, [[0xFA6, 0xFB7]]),
    (0xFAC, [[0xFAB, 0xFB7]]), (0xFB9, [[0xF90, 0xFB5]]), (0x1E9A, [[0x61, 0x2BE]]),
    (0x1F80, [[0x1F00, 0x3B9], [0x1F01, 0x3B9], [0x1F02, 0x3B9], [0x1F03, 0x3B9], [0x1F04, 0x3B9],
    [0x1F05, 0x3B9], [0x1F06, 0x3B9], [0x1F07, 0x3B9], [0x1F00, 0x3B9], [0x1F01, 0x3B9],
    [0x1F02, 0x3B9], [0x1F03, 0x3B9], [0x1F04, 0x3B9], [0x1F05, 0x3B9], [0x1F06, 0x3B9],
    [0x1F07, 0x3B9], [0x1F20, 0x3B9], [0x1F21, 0x3B9], [0x1F22, 0x3B9], [0x1F23, 0x3B9],
    [0x1F24, 0x3B9], [0x1F25, 0x3B9], [0x1F26, 0x3B9], [0x1F27, 0x3B9]])
  ]

private def domainSequencesPart2 : List (Nat × List (List Nat)) :=
  [
    (0x1F98, [[0x1F20, 0x3B9], [0x1F21, 0x3B9], [0x1F22, 0x3B9], [0x1F23, 0x3B9], [0x1F24, 0x3B9],
    [0x1F25, 0x3B9], [0x1F26, 0x3B9], [0x1F27, 0x3B9], [0x1F60, 0x3B9], [0x1F61, 0x3B9],
    [0x1F62, 0x3B9], [0x1F63, 0x3B9], [0x1F64, 0x3B9], [0x1F65, 0x3B9], [0x1F66, 0x3B9],
    [0x1F67, 0x3B9], [0x1F60, 0x3B9], [0x1F61, 0x3B9], [0x1F62, 0x3B9], [0x1F63, 0x3B9],
    [0x1F64, 0x3B9], [0x1F65, 0x3B9], [0x1F66, 0x3B9], [0x1F67, 0x3B9]]), (0x1FB2, [[0x1F70, 0x3B9],
    [0x3B1, 0x3B9], [0x3AC, 0x3B9]]), (0x1FB7, [[0x1FB6, 0x3B9]]), (0x1FBC, [[0x3B1, 0x3B9],
    [0x20, 0x313]]), (0x1FBF, [[0x20, 0x313], [0x20, 0x342], [0x20, 0x308, 0x342], [0x1F74, 0x3B9],
    [0x3B7, 0x3B9], [0x3AE, 0x3B9]]), (0x1FC7, [[0x1FC6, 0x3B9]]), (0x1FCC, [[0x3B7, 0x3B9],
    [0x20, 0x313, 0x300], [0x20, 0x313, 0x301], [0x20, 0x313, 0x342]]),
    (0x1FDD, [[0x20, 0x314, 0x300], [0x20, 0x314, 0x301], [0x20, 0x314, 0x342]]),
    (0x1FED, [[0x20, 0x308, 0x300], [0x20, 0x308, 0x301]]), (0x1FF2, [[0x1F7C, 0x3B9],
    [0x3C9, 0x3B9], [0x3CE, 0x3B9]]), (0x1FF7, [[0x1FF6, 0x3B9]]), (0x1FFC, [[0x3C9, 0x3B9],
    [0x20, 0x301], [0x20, 0x314]]), (0x2017, [[0x20, 0x333]]), (0x2033, [[0x2032, 0x2032],
    [0x2032, 0x2032, 0x2032]]), (0x2036, [[0x2035, 0x2035], [0x2035, 0x2035, 0x2035]]),
    (0x203C, [[0x21, 0x21]]), (0x203E, [[0x20, 0x305]]), (0x2047, [[0x3F, 0x3F], [0x3F, 0x21],
    [0x21, 0x3F]]), (0x2057, [[0x2032, 0x2032, 0x2032, 0x2032]]), (0x20A8, [[0x72, 0x73]]),
    (0x2100, [[0x61, 0x2F, 0x63], [0x61, 0x2F, 0x73]]), (0x2103, [[0xB0, 0x63]]),
    (0x2105, [[0x63, 0x2F, 0x6F], [0x63, 0x2F, 0x75]]), (0x2109, [[0xB0, 0x66]]),
    (0x2116, [[0x6E, 0x6F]]), (0x2120, [[0x73, 0x6D], [0x74, 0x65, 0x6C], [0x74, 0x6D]]),
    (0x213B, [[0x66, 0x61, 0x78]]), (0x2150, [[0x31, 0x2044, 0x37], [0x31, 0x2044, 0x39],
    [0x31, 0x2044, 0x31, 0x30], [0x31, 0x2044, 0x33], [0x32, 0x2044, 0x33], [0x31, 0x2044, 0x35],
    [0x32, 0x2044, 0x35], [0x33, 0x2044, 0x35], [0x34, 0x2044, 0x35], [0x31, 0x2044, 0x36],
    [0x35, 0x2044, 0x36], [0x31, 0x2044, 0x38], [0x33, 0x2044, 0x38], [0x35, 0x2044, 0x38],
    [0x37, 0x2044, 0x38], [0x31, 0x2044]]), (0x2161, [[0x69, 0x69], [0x69, 0x69, 0x69],
    [0x69, 0x76]]), (0x2165, [[0x76, 0x69], [0x76, 0x69, 0x69], [0x76, 0x69, 0x69, 0x69],
    [0x69, 0x78]]), (0x216A, [[0x78, 0x69], [0x78, 0x69, 0x69]]), (0x2171, [[0x69, 0x69],
    [0x69, 0x69, 0x69], [0x69, 0x76]]), (0x2175, [[0x76, 0x69], [0x76, 0x69, 0x69],
    [0x76, 0x69, 0x69, 0x69], [0x69, 0x78]]), (0x217A, [[0x78, 0x69], [0x78, 0x69, 0x69]]),
    (0x2189, [[0x30, 0x2044, 0x33]]), (0x222C, [[0x222B, 0x222B], [0x222B, 0x222B, 0x222B]]),
    (0x222F, [[0x222E, 0x222E], [0x222E, 0x222E, 0x222E]])
  ]

private def domainSequencesPart3 : List (Nat × List (List Nat)) :=
  [
    (0x2469, [[0x31, 0x30], [0x31, 0x31], [0x31, 0x32], [0x31, 0x33], [0x31, 0x34], [0x31, 0x35],
    [0x31, 0x36], [0x31, 0x37], [0x31, 0x38], [0x31, 0x39], [0x32, 0x30], [0x28, 0x31, 0x29],
    [0x28, 0x32, 0x29], [0x28, 0x33, 0x29], [0x28, 0x34, 0x29], [0x28, 0x35, 0x29],
    [0x28, 0x36, 0x29], [0x28, 0x37, 0x29], [0x28, 0x38, 0x29], [0x28, 0x39, 0x29],
    [0x28, 0x31, 0x30, 0x29], [0x28, 0x31, 0x31, 0x29], [0x28, 0x31, 0x32, 0x29],
    [0x28, 0x31, 0x33, 0x29]]), (0x2481, [[0x28, 0x31, 0x34, 0x29], [0x28, 0x31, 0x35, 0x29],
    [0x28, 0x31, 0x36, 0x29], [0x28, 0x31, 0x37, 0x29], [0x28, 0x31, 0x38, 0x29],
    [0x28, 0x31, 0x39, 0x29], [0x28, 0x32, 0x30, 0x29]]), (0x249C, [[0x28, 0x61, 0x29],
    [0x28, 0x62, 0x29], [0x28, 0x63, 0x29], [0x28, 0x64, 0x29], [0x28, 0x65, 0x29],
    [0x28, 0x66, 0x29], [0x28, 0x67, 0x29], [0x28, 0x68, 0x29], [0x28, 0x69, 0x29],
    [0x28, 0x6A, 0x29], [0x28, 0x6B, 0x29], [0x28, 0x6C, 0x29], [0x28, 0x6D, 0x29],
    [0x28, 0x6E, 0x29], [0x28, 0x6F, 0x29], [0x28, 0x70, 0x29], [0x28, 0x71, 0x29],
    [0x28, 0x72, 0x29], [0x28, 0x73, 0x29], [0x28, 0x74, 0x29], [0x28, 0x75, 0x29],
    [0x28, 0x76, 0x29], [0x28, 0x77, 0x29], [0x28, 0x78, 0x29]]), (0x24B4, [[0x28, 0x79, 0x29],
    [0x28, 0x7A, 0x29]]), (0x2A0C, [[0x222B, 0x222B, 0x222B, 0x222B]]),
    (0x2A74, [[0x3A, 0x3A, 0x3D], [0x3D, 0x3D], [0x3D, 0x3D, 0x3D]]), (0x2ADC, [[0x2ADD, 0x338]]),
    (0x309B, [[0x20, 0x3099], [0x20, 0x309A]]), (0x309F, [[0x3088, 0x308A]]),
    (0x30FF, [[0x30B3, 0x30C8]]), (0x3200, [[0x28, 0x1100, 0x29], [0x28, 0x1102, 0x29],
    [0x28, 0x1103, 0x29], [0x28, 0x1105, 0x29], [0x28, 0x1106, 0x29], [0x28, 0x1107, 0x29],
    [0x28, 0x1109, 0x29], [0x28, 0x110B, 0x29], [0x28, 0x110C, 0x29], [0x28, 0x110E, 0x29],
    [0x28, 0x110F, 0x29], [0x28, 0x1110, 0x29], [0x28, 0x1111, 0x29], [0x28, 0x1112, 0x29],
    [0x28, 0xAC00, 0x29], [0x28, 0xB098, 0x29], [0x28, 0xB2E4, 0x29], [0x28, 0xB77C, 0x29],
    [0x28, 0xB9C8, 0x29], [0x28, 0xBC14, 0x29], [0x28, 0xC0AC, 0x29], [0x28, 0xC544, 0x29],
    [0x28, 0xC790, 0x29], [0x28, 0xCC28, 0x29]]), (0x3218, [[0x28, 0xCE74, 0x29],
    [0x28, 0xD0C0, 0x29], [0x28, 0xD30C, 0x29], [0x28, 0xD558, 0x29], [0x28, 0xC8FC, 0x29],
    [0x28, 0xC624, 0xC804, 0x29], [0x28, 0xC624, 0xD6C4, 0x29]])
  ]

private def domainSequencesPart4 : List (Nat × List (List Nat)) :=
  [
    (0x3220, [[0x28, 0x4E00, 0x29], [0x28, 0x4E8C, 0x29], [0x28, 0x4E09, 0x29],
    [0x28, 0x56DB, 0x29], [0x28, 0x4E94, 0x29], [0x28, 0x516D, 0x29], [0x28, 0x4E03, 0x29],
    [0x28, 0x516B, 0x29], [0x28, 0x4E5D, 0x29], [0x28, 0x5341, 0x29], [0x28, 0x6708, 0x29],
    [0x28, 0x706B, 0x29], [0x28, 0x6C34, 0x29], [0x28, 0x6728, 0x29], [0x28, 0x91D1, 0x29],
    [0x28, 0x571F, 0x29], [0x28, 0x65E5, 0x29], [0x28, 0x682A, 0x29], [0x28, 0x6709, 0x29],
    [0x28, 0x793E, 0x29], [0x28, 0x540D, 0x29], [0x28, 0x7279, 0x29], [0x28, 0x8CA1, 0x29],
    [0x28, 0x795D, 0x29]]), (0x3238, [[0x28, 0x52B4, 0x29], [0x28, 0x4EE3, 0x29],
    [0x28, 0x547C, 0x29], [0x28, 0x5B66, 0x29], [0x28, 0x76E3, 0x29], [0x28, 0x4F01, 0x29],
    [0x28, 0x8CC7, 0x29], [0x28, 0x5354, 0x29], [0x28, 0x796D, 0x29], [0x28, 0x4F11, 0x29],
    [0x28, 0x81EA, 0x29], [0x28, 0x81F3, 0x29]]), (0x3250, [[0x70, 0x74, 0x65], [0x32, 0x31],
    [0x32, 0x32], [0x32, 0x33], [0x32, 0x34], [0x32, 0x35], [0x32, 0x36], [0x32, 0x37],
    [0x32, 0x38], [0x32, 0x39], [0x33, 0x30], [0x33, 0x31], [0x33, 0x32], [0x33, 0x33],
    [0x33, 0x34], [0x33, 0x35]]), (0x327C, [[0xCC38, 0xACE0], [0xC8FC, 0xC758]]),
    (0x32B1, [[0x33, 0x36], [0x33, 0x37], [0x33, 0x38], [0x33, 0x39], [0x34, 0x30], [0x34, 0x31],
    [0x34, 0x32], [0x34, 0x33], [0x34, 0x34], [0x34, 0x35], [0x34, 0x36], [0x34, 0x37],
    [0x34, 0x38], [0x34, 0x39], [0x35, 0x30], [0x31, 0x6708], [0x32, 0x6708], [0x33, 0x6708],
    [0x34, 0x6708], [0x35, 0x6708], [0x36, 0x6708], [0x37, 0x6708], [0x38, 0x6708],
    [0x39, 0x6708]]), (0x32C9, [[0x31, 0x30, 0x6708], [0x31, 0x31, 0x6708], [0x31, 0x32, 0x6708],
    [0x68, 0x67], [0x65, 0x72, 0x67], [0x65, 0x76], [0x6C, 0x74, 0x64]]),
    (0x32FF, [[0x4EE4, 0x548C], [0x30A2, 0x30D1, 0x30FC, 0x30C8], [0x30A2, 0x30EB, 0x30D5, 0x30A1],
    [0x30A2, 0x30F3, 0x30DA, 0x30A2], [0x30A2, 0x30FC, 0x30EB], [0x30A4, 0x30CB, 0x30F3, 0x30B0],
    [0x30A4, 0x30F3, 0x30C1], [0x30A6, 0x30A9, 0x30F3], [0x30A8, 0x30B9, 0x30AF, 0x30FC, 0x30C9],
    [0x30A8, 0x30FC, 0x30AB, 0x30FC], [0x30AA, 0x30F3, 0x30B9], [0x30AA, 0x30FC, 0x30E0],
    [0x30AB, 0x30A4, 0x30EA], [0x30AB, 0x30E9, 0x30C3, 0x30C8], [0x30AB, 0x30ED, 0x30EA, 0x30FC],
    [0x30AC, 0x30ED, 0x30F3], [0x30AC, 0x30F3, 0x30DE], [0x30AE, 0x30AC], [0x30AE, 0x30CB, 0x30FC],
    [0x30AD, 0x30E5, 0x30EA, 0x30FC], [0x30AE, 0x30EB, 0x30C0, 0x30FC], [0x30AD, 0x30ED],
    [0x30AD, 0x30ED, 0x30B0, 0x30E9, 0x30E0], [0x30AD, 0x30ED, 0x30E1, 0x30FC, 0x30C8, 0x30EB]])
  ]

private def domainSequencesPart5 : List (Nat × List (List Nat)) :=
  [
    (0x3317, [[0x30AD, 0x30ED, 0x30EF, 0x30C3, 0x30C8], [0x30B0, 0x30E9, 0x30E0],
    [0x30B0, 0x30E9, 0x30E0, 0x30C8, 0x30F3], [0x30AF, 0x30EB, 0x30BC, 0x30A4, 0x30ED],
    [0x30AF, 0x30ED, 0x30FC, 0x30CD], [0x30B1, 0x30FC, 0x30B9], [0x30B3, 0x30EB, 0x30CA],
    [0x30B3, 0x30FC, 0x30DD], [0x30B5, 0x30A4, 0x30AF, 0x30EB],
    [0x30B5, 0x30F3, 0x30C1, 0x30FC, 0x30E0], [0x30B7, 0x30EA, 0x30F3, 0x30B0],
    [0x30BB, 0x30F3, 0x30C1], [0x30BB, 0x30F3, 0x30C8], [0x30C0, 0x30FC, 0x30B9], [0x30C7, 0x30B7],
    [0x30C9, 0x30EB], [0x30C8, 0x30F3], [0x30CA, 0x30CE], [0x30CE, 0x30C3, 0x30C8],
    [0x30CF, 0x30A4, 0x30C4], [0x30D1, 0x30FC, 0x30BB, 0x30F3, 0x30C8], [0x30D1, 0x30FC, 0x30C4],
    [0x30D0, 0x30FC, 0x30EC, 0x30EB], [0x30D4, 0x30A2, 0x30B9, 0x30C8, 0x30EB]]),
    (0x332F, [[0x30D4, 0x30AF, 0x30EB], [0x30D4, 0x30B3], [0x30D3, 0x30EB],
    [0x30D5, 0x30A1, 0x30E9, 0x30C3, 0x30C9], [0x30D5, 0x30A3, 0x30FC, 0x30C8],
    [0x30D6, 0x30C3, 0x30B7, 0x30A7, 0x30EB], [0x30D5, 0x30E9, 0x30F3],
    [0x30D8, 0x30AF, 0x30BF, 0x30FC, 0x30EB], [0x30DA, 0x30BD], [0x30DA, 0x30CB, 0x30D2],
    [0x30D8, 0x30EB, 0x30C4], [0x30DA, 0x30F3, 0x30B9], [0x30DA, 0x30FC, 0x30B8],
    [0x30D9, 0x30FC, 0x30BF], [0x30DD, 0x30A4, 0x30F3, 0x30C8], [0x30DC, 0x30EB, 0x30C8],
    [0x30DB, 0x30F3], [0x30DD, 0x30F3, 0x30C9], [0x30DB, 0x30FC, 0x30EB], [0x30DB, 0x30FC, 0x30F3],
    [0x30DE, 0x30A4, 0x30AF, 0x30ED], [0x30DE, 0x30A4, 0x30EB], [0x30DE, 0x30C3, 0x30CF],
    [0x30DE, 0x30EB, 0x30AF]]), (0x3347, [[0x30DE, 0x30F3, 0x30B7, 0x30E7, 0x30F3],
    [0x30DF, 0x30AF, 0x30ED, 0x30F3], [0x30DF, 0x30EA], [0x30DF, 0x30EA, 0x30D0, 0x30FC, 0x30EB],
    [0x30E1, 0x30AC], [0x30E1, 0x30AC, 0x30C8, 0x30F3], [0x30E1, 0x30FC, 0x30C8, 0x30EB],
    [0x30E4, 0x30FC, 0x30C9], [0x30E4, 0x30FC, 0x30EB], [0x30E6, 0x30A2, 0x30F3],
    [0x30EA, 0x30C3, 0x30C8, 0x30EB], [0x30EA, 0x30E9], [0x30EB, 0x30D4, 0x30FC],
    [0x30EB, 0x30FC, 0x30D6, 0x30EB], [0x30EC, 0x30E0], [0x30EC, 0x30F3, 0x30C8, 0x30B2, 0x30F3],
    [0x30EF, 0x30C3, 0x30C8], [0x30, 0x70B9], [0x31, 0x70B9], [0x32, 0x70B9], [0x33, 0x70B9],
    [0x34, 0x70B9], [0x35, 0x70B9], [0x36, 0x70B9]]), (0x335F, [[0x37, 0x70B9], [0x38, 0x70B9],
    [0x39, 0x70B9], [0x31, 0x30, 0x70B9], [0x31, 0x31, 0x70B9], [0x31, 0x32, 0x70B9],
    [0x31, 0x33, 0x70B9], [0x31, 0x34, 0x70B9], [0x31, 0x35, 0x70B9], [0x31, 0x36, 0x70B9],
    [0x31, 0x37, 0x70B9], [0x31, 0x38, 0x70B9], [0x31, 0x39, 0x70B9], [0x32, 0x30, 0x70B9],
    [0x32, 0x31, 0x70B9], [0x32, 0x32, 0x70B9], [0x32, 0x33, 0x70B9], [0x32, 0x34, 0x70B9],
    [0x68, 0x70, 0x61], [0x64, 0x61], [0x61, 0x75], [0x62, 0x61, 0x72], [0x6F, 0x76],
    [0x70, 0x63]]), (0x3377, [[0x64, 0x6D], [0x64, 0x6D, 0x32], [0x64, 0x6D, 0x33], [0x69, 0x75],
    [0x5E73, 0x6210], [0x662D, 0x548C], [0x5927, 0x6B63], [0x660E, 0x6CBB],
    [0x682A, 0x5F0F, 0x4F1A, 0x793E], [0x70, 0x61], [0x6E, 0x61], [0x3BC, 0x61], [0x6D, 0x61],
    [0x6B, 0x61], [0x6B, 0x62], [0x6D, 0x62], [0x67, 0x62], [0x63, 0x61, 0x6C],
    [0x6B, 0x63, 0x61, 0x6C], [0x70, 0x66], [0x6E, 0x66], [0x3BC, 0x66], [0x3BC, 0x67],
    [0x6D, 0x67]])
  ]

private def domainSequencesPart6 : List (Nat × List (List Nat)) :=
  [
    (0x338F, [[0x6B, 0x67], [0x68, 0x7A], [0x6B, 0x68, 0x7A], [0x6D, 0x68, 0x7A],
    [0x67, 0x68, 0x7A], [0x74, 0x68, 0x7A], [0x3BC, 0x6C], [0x6D, 0x6C], [0x64, 0x6C], [0x6B, 0x6C],
    [0x66, 0x6D], [0x6E, 0x6D], [0x3BC, 0x6D], [0x6D, 0x6D], [0x63, 0x6D], [0x6B, 0x6D],
    [0x6D, 0x6D, 0x32], [0x63, 0x6D, 0x32], [0x6D, 0x32], [0x6B, 0x6D, 0x32], [0x6D, 0x6D, 0x33],
    [0x63, 0x6D, 0x33], [0x6D, 0x33], [0x6B, 0x6D, 0x33]]), (0x33A7, [[0x6D, 0x2215, 0x73],
    [0x6D, 0x2215, 0x73, 0x32], [0x70, 0x61], [0x6B, 0x70, 0x61], [0x6D, 0x70, 0x61],
    [0x67, 0x70, 0x61], [0x72, 0x61, 0x64], [0x72, 0x61, 0x64, 0x2215, 0x73],
    [0x72, 0x61, 0x64, 0x2215, 0x73, 0x32], [0x70, 0x73], [0x6E, 0x73], [0x3BC, 0x73], [0x6D, 0x73],
    [0x70, 0x76], [0x6E, 0x76], [0x3BC, 0x76], [0x6D, 0x76], [0x6B, 0x76], [0x6D, 0x76],
    [0x70, 0x77], [0x6E, 0x77], [0x3BC, 0x77], [0x6D, 0x77], [0x6B, 0x77]]), (0x33BF, [[0x6D, 0x77],
    [0x6B, 0x3C9], [0x6D, 0x3C9]]), (0x33C3, [[0x62, 0x71], [0x63, 0x63], [0x63, 0x64],
    [0x63, 0x2215, 0x6B, 0x67]]), (0x33C8, [[0x64, 0x62], [0x67, 0x79], [0x68, 0x61], [0x68, 0x70],
    [0x69, 0x6E], [0x6B, 0x6B], [0x6B, 0x6D], [0x6B, 0x74], [0x6C, 0x6D], [0x6C, 0x6E],
    [0x6C, 0x6F, 0x67], [0x6C, 0x78], [0x6D, 0x62], [0x6D, 0x69, 0x6C], [0x6D, 0x6F, 0x6C],
    [0x70, 0x68]]), (0x33D9, [[0x70, 0x70, 0x6D], [0x70, 0x72], [0x73, 0x72], [0x73, 0x76],
    [0x77, 0x62], [0x76, 0x2215, 0x6D], [0x61, 0x2215, 0x6D], [0x31, 0x65E5], [0x32, 0x65E5],
    [0x33, 0x65E5], [0x34, 0x65E5], [0x35, 0x65E5], [0x36, 0x65E5], [0x37, 0x65E5], [0x38, 0x65E5],
    [0x39, 0x65E5], [0x31, 0x30, 0x65E5], [0x31, 0x31, 0x65E5], [0x31, 0x32, 0x65E5],
    [0x31, 0x33, 0x65E5], [0x31, 0x34, 0x65E5], [0x31, 0x35, 0x65E5], [0x31, 0x36, 0x65E5],
    [0x31, 0x37, 0x65E5]]), (0x33F1, [[0x31, 0x38, 0x65E5], [0x31, 0x39, 0x65E5],
    [0x32, 0x30, 0x65E5], [0x32, 0x31, 0x65E5], [0x32, 0x32, 0x65E5], [0x32, 0x33, 0x65E5],
    [0x32, 0x34, 0x65E5], [0x32, 0x35, 0x65E5], [0x32, 0x36, 0x65E5], [0x32, 0x37, 0x65E5],
    [0x32, 0x38, 0x65E5], [0x32, 0x39, 0x65E5], [0x33, 0x30, 0x65E5], [0x33, 0x31, 0x65E5],
    [0x67, 0x61, 0x6C]]), (0xFB00, [[0x66, 0x66], [0x66, 0x69], [0x66, 0x6C], [0x66, 0x66, 0x69],
    [0x66, 0x66, 0x6C], [0x73, 0x74], [0x73, 0x74]])
  ]

private def domainSequencesPart7 : List (Nat × List (List Nat)) :=
  [
    (0xFB13, [[0x574, 0x576], [0x574, 0x565], [0x574, 0x56B], [0x57E, 0x576], [0x574, 0x56D]]),
    (0xFB1D, [[0x5D9, 0x5B4]]), (0xFB1F, [[0x5F2, 0x5B7]]), (0xFB2A, [[0x5E9, 0x5C1],
    [0x5E9, 0x5C2], [0x5E9, 0x5BC, 0x5C1], [0x5E9, 0x5BC, 0x5C2], [0x5D0, 0x5B7], [0x5D0, 0x5B8],
    [0x5D0, 0x5BC], [0x5D1, 0x5BC], [0x5D2, 0x5BC], [0x5D3, 0x5BC], [0x5D4, 0x5BC], [0x5D5, 0x5BC],
    [0x5D6, 0x5BC]]), (0xFB38, [[0x5D8, 0x5BC], [0x5D9, 0x5BC], [0x5DA, 0x5BC], [0x5DB, 0x5BC],
    [0x5DC, 0x5BC]]), (0xFB3E, [[0x5DE, 0x5BC]]), (0xFB40, [[0x5E0, 0x5BC], [0x5E1, 0x5BC]]),
    (0xFB43, [[0x5E3, 0x5BC], [0x5E4, 0x5BC]]), (0xFB46, [[0x5E6, 0x5BC], [0x5E7, 0x5BC],
    [0x5E8, 0x5BC], [0x5E9, 0x5BC], [0x5EA, 0x5BC], [0x5D5, 0x5B9], [0x5D1, 0x5BF], [0x5DB, 0x5BF],
    [0x5E4, 0x5BF], [0x5D0, 0x5DC]]), (0xFBDD, [[0x6C7, 0x674]]), (0xFBEA, [[0x626, 0x627],
    [0x626, 0x627], [0x626, 0x6D5], [0x626, 0x6D5], [0x626, 0x648], [0x626, 0x648], [0x626, 0x6C7],
    [0x626, 0x6C7], [0x626, 0x6C6], [0x626, 0x6C6], [0x626, 0x6C8], [0x626, 0x6C8], [0x626, 0x6D0],
    [0x626, 0x6D0], [0x626, 0x6D0], [0x626, 0x649], [0x626, 0x649], [0x626, 0x649]]),
    (0xFC00, [[0x626, 0x62C], [0x626, 0x62D], [0x626, 0x645], [0x626, 0x649], [0x626, 0x64A],
    [0x628, 0x62C], [0x628, 0x62D], [0x628, 0x62E], [0x628, 0x645], [0x628, 0x649], [0x628, 0x64A],
    [0x62A, 0x62C], [0x62A, 0x62D], [0x62A, 0x62E], [0x62A, 0x645], [0x62A, 0x649], [0x62A, 0x64A],
    [0x62B, 0x62C], [0x62B, 0x645], [0x62B, 0x649], [0x62B, 0x64A], [0x62C, 0x62D], [0x62C, 0x645],
    [0x62D, 0x62C]]), (0xFC18, [[0x62D, 0x645], [0x62E, 0x62C], [0x62E, 0x62D], [0x62E, 0x645],
    [0x633, 0x62C], [0x633, 0x62D], [0x633, 0x62E], [0x633, 0x645], [0x635, 0x62D], [0x635, 0x645],
    [0x636, 0x62C], [0x636, 0x62D], [0x636, 0x62E], [0x636, 0x645], [0x637, 0x62D], [0x637, 0x645],
    [0x638, 0x645], [0x639, 0x62C], [0x639, 0x645], [0x63A, 0x62C], [0x63A, 0x645], [0x641, 0x62C],
    [0x641, 0x62D], [0x641, 0x62E]])
  ]

private def domainSequencesPart8 : List (Nat × List (List Nat)) :=
  [
    (0xFC30, [[0x641, 0x645], [0x641, 0x649], [0x641, 0x64A], [0x642, 0x62D], [0x642, 0x645],
    [0x642, 0x649], [0x642, 0x64A], [0x643, 0x627], [0x643, 0x62C], [0x643, 0x62D], [0x643, 0x62E],
    [0x643, 0x644], [0x643, 0x645], [0x643, 0x649], [0x643, 0x64A], [0x644, 0x62C], [0x644, 0x62D],
    [0x644, 0x62E], [0x644, 0x645], [0x644, 0x649], [0x644, 0x64A], [0x645, 0x62C], [0x645, 0x62D],
    [0x645, 0x62E]]), (0xFC48, [[0x645, 0x645], [0x645, 0x649], [0x645, 0x64A], [0x646, 0x62C],
    [0x646, 0x62D], [0x646, 0x62E], [0x646, 0x645], [0x646, 0x649], [0x646, 0x64A], [0x647, 0x62C],
    [0x647, 0x645], [0x647, 0x649], [0x647, 0x64A], [0x64A, 0x62C], [0x64A, 0x62D], [0x64A, 0x62E],
    [0x64A, 0x645], [0x64A, 0x649], [0x64A, 0x64A], [0x630, 0x670], [0x631, 0x670], [0x649, 0x670],
    [0x20, 0x64C, 0x651], [0x20, 0x64D, 0x651]]), (0xFC60, [[0x20, 0x64E, 0x651],
    [0x20, 0x64F, 0x651], [0x20, 0x650, 0x651], [0x20, 0x651, 0x670], [0x626, 0x631],
    [0x626, 0x632], [0x626, 0x645], [0x626, 0x646], [0x626, 0x649], [0x626, 0x64A], [0x628, 0x631],
    [0x628, 0x632], [0x628, 0x645], [0x628, 0x646], [0x628, 0x649], [0x628, 0x64A], [0x62A, 0x631],
    [0x62A, 0x632], [0x62A, 0x645], [0x62A, 0x646], [0x62A, 0x649], [0x62A, 0x64A], [0x62B, 0x631],
    [0x62B, 0x632]]), (0xFC78, [[0x62B, 0x645], [0x62B, 0x646], [0x62B, 0x649], [0x62B, 0x64A],
    [0x641, 0x649], [0x641, 0x64A], [0x642, 0x649], [0x642, 0x64A], [0x643, 0x627], [0x643, 0x644],
    [0x643, 0x645], [0x643, 0x649], [0x643, 0x64A], [0x644, 0x645], [0x644, 0x649], [0x644, 0x64A],
    [0x645, 0x627], [0x645, 0x645], [0x646, 0x631], [0x646, 0x632], [0x646, 0x645], [0x646, 0x646],
    [0x646, 0x649], [0x646, 0x64A]]), (0xFC90, [[0x649, 0x670], [0x64A, 0x631], [0x64A, 0x632],
    [0x64A, 0x645], [0x64A, 0x646], [0x64A, 0x649], [0x64A, 0x64A], [0x626, 0x62C], [0x626, 0x62D],
    [0x626, 0x62E], [0x626, 0x645], [0x626, 0x647], [0x628, 0x62C], [0x628, 0x62D], [0x628, 0x62E],
    [0x628, 0x645], [0x628, 0x647], [0x62A, 0x62C], [0x62A, 0x62D], [0x62A, 0x62E], [0x62A, 0x645],
    [0x62A, 0x647], [0x62B, 0x645], [0x62C, 0x62D]])
  ]

private def domainSequencesPart9 : List (Nat × List (List Nat)) :=
  [
    (0xFCA8, [[0x62C, 0x645], [0x62D, 0x62C], [0x62D, 0x645], [0x62E, 0x62C], [0x62E, 0x645],
    [0x633, 0x62C], [0x633, 0x62D], [0x633, 0x62E], [0x633, 0x645], [0x635, 0x62D], [0x635, 0x62E],
    [0x635, 0x645], [0x636, 0x62C], [0x636, 0x62D], [0x636, 0x62E], [0x636, 0x645], [0x637, 0x62D],
    [0x638, 0x645], [0x639, 0x62C], [0x639, 0x645], [0x63A, 0x62C], [0x63A, 0x645], [0x641, 0x62C],
    [0x641, 0x62D]]), (0xFCC0, [[0x641, 0x62E], [0x641, 0x645], [0x642, 0x62D], [0x642, 0x645],
    [0x643, 0x62C], [0x643, 0x62D], [0x643, 0x62E], [0x643, 0x644], [0x643, 0x645], [0x644, 0x62C],
    [0x644, 0x62D], [0x644, 0x62E], [0x644, 0x645], [0x644, 0x647], [0x645, 0x62C], [0x645, 0x62D],
    [0x645, 0x62E], [0x645, 0x645], [0x646, 0x62C], [0x646, 0x62D], [0x646, 0x62E], [0x646, 0x645],
    [0x646, 0x647], [0x647, 0x62C]]), (0xFCD8, [[0x647, 0x645], [0x647, 0x670], [0x64A, 0x62C],
    [0x64A, 0x62D], [0x64A, 0x62E], [0x64A, 0x645], [0x64A, 0x647], [0x626, 0x645], [0x626, 0x647],
    [0x628, 0x645], [0x628, 0x647], [0x62A, 0x645], [0x62A, 0x647], [0x62B, 0x645], [0x62B, 0x647],
    [0x633, 0x645], [0x633, 0x647], [0x634, 0x645], [0x634, 0x647], [0x643, 0x644], [0x643, 0x645],
    [0x644, 0x645], [0x646, 0x645], [0x646, 0x647]]), (0xFCF0, [[0x64A, 0x645], [0x64A, 0x647],
    [0x640, 0x64E, 0x651], [0x640, 0x64F, 0x651], [0x640, 0x650, 0x651], [0x637, 0x649],
    [0x637, 0x64A], [0x639, 0x649], [0x639, 0x64A], [0x63A, 0x649], [0x63A, 0x64A], [0x633, 0x649],
    [0x633, 0x64A], [0x634, 0x649], [0x634, 0x64A], [0x62D, 0x649], [0x62D, 0x64A], [0x62C, 0x649],
    [0x62C, 0x64A], [0x62E, 0x649], [0x62E, 0x64A], [0x635, 0x649], [0x635, 0x64A],
    [0x636, 0x649]]), (0xFD08, [[0x636, 0x64A], [0x634, 0x62C], [0x634, 0x62D], [0x634, 0x62E],
    [0x634, 0x645], [0x634, 0x631], [0x633, 0x631], [0x635, 0x631], [0x636, 0x631], [0x637, 0x649],
    [0x637, 0x64A], [0x639, 0x649], [0x639, 0x64A], [0x63A, 0x649], [0x63A, 0x64A], [0x633, 0x649],
    [0x633, 0x64A], [0x634, 0x649], [0x634, 0x64A], [0x62D, 0x649], [0x62D, 0x64A], [0x62C, 0x649],
    [0x62C, 0x64A], [0x62E, 0x649]])
  ]

private def domainSequencesPart10 : List (Nat × List (List Nat)) :=
  [
    (0xFD20, [[0x62E, 0x64A], [0x635, 0x649], [0x635, 0x64A], [0x636, 0x649], [0x636, 0x64A],
    [0x634, 0x62C], [0x634, 0x62D], [0x634, 0x62E], [0x634, 0x645], [0x634, 0x631], [0x633, 0x631],
    [0x635, 0x631], [0x636, 0x631], [0x634, 0x62C], [0x634, 0x62D], [0x634, 0x62E], [0x634, 0x645],
    [0x633, 0x647], [0x634, 0x647], [0x637, 0x645], [0x633, 0x62C], [0x633, 0x62D], [0x633, 0x62E],
    [0x634, 0x62C]]), (0xFD38, [[0x634, 0x62D], [0x634, 0x62E], [0x637, 0x645], [0x638, 0x645],
    [0x627, 0x64B], [0x627, 0x64B]]), (0xFD50, [[0x62A, 0x62C, 0x645], [0x62A, 0x62D, 0x62C],
    [0x62A, 0x62D, 0x62C], [0x62A, 0x62D, 0x645], [0x62A, 0x62E, 0x645], [0x62A, 0x645, 0x62C],
    [0x62A, 0x645, 0x62D], [0x62A, 0x645, 0x62E], [0x62C, 0x645, 0x62D], [0x62C, 0x645, 0x62D],
    [0x62D, 0x645, 0x64A], [0x62D, 0x645, 0x649], [0x633, 0x62D, 0x62C], [0x633, 0x62C, 0x62D],
    [0x633, 0x62C, 0x649], [0x633, 0x645, 0x62D], [0x633, 0x645, 0x62D], [0x633, 0x645, 0x62C],
    [0x633, 0x645, 0x645], [0x633, 0x645, 0x645], [0x635, 0x62D, 0x62D], [0x635, 0x62D, 0x62D],
    [0x635, 0x645, 0x645], [0x634, 0x62D, 0x645]]), (0xFD68, [[0x634, 0x62D, 0x645],
    [0x634, 0x62C, 0x64A], [0x634, 0x645, 0x62E], [0x634, 0x645, 0x62E], [0x634, 0x645, 0x645],
    [0x634, 0x645, 0x645], [0x636, 0x62D, 0x649], [0x636, 0x62E, 0x645], [0x636, 0x62E, 0x645],
    [0x637, 0x645, 0x62D], [0x637, 0x645, 0x62D], [0x637, 0x645, 0x645], [0x637, 0x645, 0x64A],
    [0x639, 0x62C, 0x645], [0x639, 0x645, 0x645], [0x639, 0x645, 0x645], [0x639, 0x645, 0x649],
    [0x63A, 0x645, 0x645], [0x63A, 0x645, 0x64A], [0x63A, 0x645, 0x649], [0x641, 0x62E, 0x645],
    [0x641, 0x62E, 0x645], [0x642, 0x645, 0x62D], [0x642, 0x645, 0x645]]),
    (0xFD80, [[0x644, 0x62D, 0x645], [0x644, 0x62D, 0x64A], [0x644, 0x62D, 0x649],
    [0x644, 0x62C, 0x62C], [0x644, 0x62C, 0x62C], [0x644, 0x62E, 0x645], [0x644, 0x62E, 0x645],
    [0x644, 0x645, 0x62D], [0x644, 0x645, 0x62D], [0x645, 0x62D, 0x62C], [0x645, 0x62D, 0x645],
    [0x645, 0x62D, 0x64A], [0x645, 0x62C, 0x62D], [0x645, 0x62C, 0x645], [0x645, 0x62E, 0x62C],
    [0x645, 0x62E, 0x645]]), (0xFD92, [[0x645, 0x62C, 0x62E], [0x647, 0x645, 0x62C],
    [0x647, 0x645, 0x645], [0x646, 0x62D, 0x645], [0x646, 0x62D, 0x649], [0x646, 0x62C, 0x645],
    [0x646, 0x62C, 0x645], [0x646, 0x62C, 0x649], [0x646, 0x645, 0x64A], [0x646, 0x645, 0x649],
    [0x64A, 0x645, 0x645], [0x64A, 0x645, 0x645], [0x628, 0x62E, 0x64A], [0x62A, 0x62C, 0x64A],
    [0x62A, 0x62C, 0x649], [0x62A, 0x62E, 0x64A], [0x62A, 0x62E, 0x649], [0x62A, 0x645, 0x64A],
    [0x62A, 0x645, 0x649], [0x62C, 0x645, 0x64A], [0x62C, 0x62D, 0x649], [0x62C, 0x645, 0x649],
    [0x633, 0x62E, 0x649], [0x635, 0x62D, 0x64A]])
  ]

private def domainSequencesPart11 : List (Nat × List (List Nat)) :=
  [
    (0xFDAA, [[0x634, 0x62D, 0x64A], [0x636, 0x62D, 0x64A], [0x644, 0x62C, 0x64A],
    [0x644, 0x645, 0x64A], [0x64A, 0x62D, 0x64A], [0x64A, 0x62C, 0x64A], [0x64A, 0x645, 0x64A],
    [0x645, 0x645, 0x64A], [0x642, 0x645, 0x64A], [0x646, 0x62D, 0x64A], [0x642, 0x645, 0x62D],
    [0x644, 0x62D, 0x645], [0x639, 0x645, 0x64A], [0x643, 0x645, 0x64A], [0x646, 0x62C, 0x62D],
    [0x645, 0x62E, 0x64A], [0x644, 0x62C, 0x645], [0x643, 0x645, 0x645], [0x644, 0x62C, 0x645],
    [0x646, 0x62C, 0x62D], [0x62C, 0x62D, 0x64A], [0x62D, 0x62C, 0x64A], [0x645, 0x62C, 0x64A],
    [0x641, 0x645, 0x64A]]), (0xFDC2, [[0x628, 0x62D, 0x64A], [0x643, 0x645, 0x645],
    [0x639, 0x62C, 0x645], [0x635, 0x645, 0x645], [0x633, 0x62E, 0x64A], [0x646, 0x62C, 0x64A]]),
    (0xFDF0, [[0x635, 0x644, 0x6D2], [0x642, 0x644, 0x6D2], [0x627, 0x644, 0x644, 0x647],
    [0x627, 0x643, 0x628, 0x631], [0x645, 0x62D, 0x645, 0x62F], [0x635, 0x644, 0x639, 0x645],
    [0x631, 0x633, 0x648, 0x644], [0x639, 0x644, 0x64A, 0x647], [0x648, 0x633, 0x644, 0x645],
    [0x635, 0x644, 0x649],
    [0x635, 0x644, 0x649, 0x20, 0x627, 0x644, 0x644, 0x647, 0x20, 0x639, 0x644, 0x64A, 0x647, 0x20,
    0x648, 0x633, 0x644, 0x645],
    [0x62C, 0x644, 0x20, 0x62C, 0x644, 0x627, 0x644, 0x647], [0x631, 0x6CC, 0x627, 0x644]]),
    (0xFE49, [[0x20, 0x305], [0x20, 0x305], [0x20, 0x305], [0x20, 0x305]]), (0xFE70, [[0x20, 0x64B],
    [0x640, 0x64B], [0x20, 0x64C]]), (0xFE74, [[0x20, 0x64D]]), (0xFE76, [[0x20, 0x64E],
    [0x640, 0x64E], [0x20, 0x64F], [0x640, 0x64F], [0x20, 0x650], [0x640, 0x650], [0x20, 0x651],
    [0x640, 0x651], [0x20, 0x652], [0x640, 0x652]]), (0xFEF5, [[0x644, 0x622], [0x644, 0x622],
    [0x644, 0x623], [0x644, 0x623], [0x644, 0x625], [0x644, 0x625], [0x644, 0x627],
    [0x644, 0x627]]), (0xFFE3, [[0x20, 0x304]]), (0x1D15E, [[0x1D157, 0x1D165], [0x1D158, 0x1D165],
    [0x1D158, 0x1D165, 0x1D16E], [0x1D158, 0x1D165, 0x1D16F], [0x1D158, 0x1D165, 0x1D170],
    [0x1D158, 0x1D165, 0x1D171], [0x1D158, 0x1D165, 0x1D172]]), (0x1D1BB, [[0x1D1B9, 0x1D165],
    [0x1D1BA, 0x1D165], [0x1D1B9, 0x1D165, 0x1D16E], [0x1D1BA, 0x1D165, 0x1D16E],
    [0x1D1B9, 0x1D165, 0x1D16F], [0x1D1BA, 0x1D165, 0x1D16F]]), (0x1F101, [[0x30, 0x2C],
    [0x31, 0x2C], [0x32, 0x2C], [0x33, 0x2C], [0x34, 0x2C], [0x35, 0x2C], [0x36, 0x2C],
    [0x37, 0x2C], [0x38, 0x2C], [0x39, 0x2C]]), (0x1F110, [[0x28, 0x61, 0x29], [0x28, 0x62, 0x29],
    [0x28, 0x63, 0x29], [0x28, 0x64, 0x29], [0x28, 0x65, 0x29], [0x28, 0x66, 0x29],
    [0x28, 0x67, 0x29], [0x28, 0x68, 0x29], [0x28, 0x69, 0x29], [0x28, 0x6A, 0x29],
    [0x28, 0x6B, 0x29], [0x28, 0x6C, 0x29], [0x28, 0x6D, 0x29], [0x28, 0x6E, 0x29],
    [0x28, 0x6F, 0x29], [0x28, 0x70, 0x29], [0x28, 0x71, 0x29], [0x28, 0x72, 0x29],
    [0x28, 0x73, 0x29], [0x28, 0x74, 0x29], [0x28, 0x75, 0x29], [0x28, 0x76, 0x29],
    [0x28, 0x77, 0x29], [0x28, 0x78, 0x29]]), (0x1F128, [[0x28, 0x79, 0x29], [0x28, 0x7A, 0x29],
    [0x3014, 0x73, 0x3015]])
  ]

private def domainSequencesPart12 : List (Nat × List (List Nat)) :=
  [
    (0x1F12D, [[0x63, 0x64], [0x77, 0x7A]]), (0x1F14A, [[0x68, 0x76], [0x6D, 0x76], [0x73, 0x64],
    [0x73, 0x73], [0x70, 0x70, 0x76], [0x77, 0x63]]), (0x1F16A, [[0x6D, 0x63], [0x6D, 0x64],
    [0x6D, 0x72]]), (0x1F190, [[0x64, 0x6A]]), (0x1F200, [[0x307B, 0x304B], [0x30B3, 0x30B3]]),
    (0x1F240, [[0x3014, 0x672C, 0x3015], [0x3014, 0x4E09, 0x3015], [0x3014, 0x4E8C, 0x3015],
    [0x3014, 0x5B89, 0x3015], [0x3014, 0x70B9, 0x3015], [0x3014, 0x6253, 0x3015],
    [0x3014, 0x76D7, 0x3015], [0x3014, 0x52DD, 0x3015], [0x3014, 0x6557, 0x3015]])
  ]

/-- Blocks of code points from the given one on, and what each counts as. -/
def domainSequences : List (Nat × List (List Nat)) :=
  domainSequencesPart1 ++ domainSequencesPart2 ++ domainSequencesPart3 ++ domainSequencesPart4 ++
    domainSequencesPart5 ++ domainSequencesPart6 ++ domainSequencesPart7 ++ domainSequencesPart8 ++
    domainSequencesPart9 ++ domainSequencesPart10 ++ domainSequencesPart11 ++ domainSequencesPart12

end EventConsole.Url
