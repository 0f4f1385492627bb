import ScriptAudit.Text.RangeTree

/-!
# Case variants

Two characters are case variants when they have the same simple case folding.
The table lists, for every range of characters beyond ASCII that has variants,
where they stand relative to the character itself.
-/

namespace ScriptAudit
namespace Text

/-- Where the case variants of the characters of a range stand. -/
inductive CaseRange
  /-- Every character has its variants at the same distances. -/
  | shifted (offsets : List Int)
  /-- The first and second character are variants, the third and fourth, and
  so on. -/
  | alternating

/-- The ranges beyond ASCII whose characters have case variants, in increasing
order. -/
def caseRanges : List (Nat × Nat × CaseRange) :=
  [(0xB5, 0xB5, .shifted [743, 775]), (0xC0, 0xC4, .shifted [32]),
   (0xC5, 0xC5, .shifted [32, 8294]), (0xC6, 0xD6, .shifted [32]),
   (0xD8, 0xDE, .shifted [32]), (0xDF, 0xDF, .shifted [7615]),
   (0xE0, 0xE4, .shifted [-32]), (0xE5, 0xE5, .shifted [-32, 8262]),
   (0xE6, 0xF6, .shifted [-32]), (0xF8, 0xFE, .shifted [-32]),
   (0xFF, 0xFF, .shifted [121]), (0x100, 0x12F, .alternating),
   (0x132, 0x137, .alternating), (0x139, 0x148, .alternating),
   (0x14A, 0x177, .alternating), (0x178, 0x178, .shifted [-121]),
   (0x179, 0x17E, .alternating), (0x17F, 0x17F, .shifted [-300, -268]),
   (0x180, 0x180, .shifted [195]), (0x181, 0x181, .shifted [210]),
   (0x182, 0x185, .alternating), (0x186, 0x186, .shifted [206]),
   (0x187, 0x188, .alternating), (0x189, 0x18A, .shifted [205]),
   (0x18B, 0x18C, .alternating), (0x18E, 0x18E, .shifted [79]),
   (0x18F, 0x18F, .shifted [202]), (0x190, 0x190, .shifted [203]),
   (0x191, 0x192, .alternating), (0x193, 0x193, .shifted [205]),
   (0x194, 0x194, .shifted [207]), (0x195, 0x195, .shifted [97]),
   (0x196, 0x196, .shifted [211]), (0x197, 0x197, .shifted [209]),
   (0x198, 0x199, .alternating), (0x19A, 0x19A, .shifted [163]),
   (0x19B, 0x19B, .shifted [42561]), (0x19C, 0x19C, .shifted [211]),
   (0x19D, 0x19D, .shifted [213]), (0x19E, 0x19E, .shifted [130]),
   (0x19F, 0x19F, .shifted [214]), (0x1A0, 0x1A5, .alternating),
   (0x1A6, 0x1A6, .shifted [218]), (0x1A7, 0x1A8, .alternating),
   (0x1A9, 0x1A9, .shifted [218]), (0x1AC, 0x1AD, .alternating),
   (0x1AE, 0x1AE, .shifted [218]), (0x1AF, 0x1B0, .alternating),
   (0x1B1, 0x1B2, .shifted [217]), (0x1B3, 0x1B6, .alternating),
   (0x1B7, 0x1B7, .shifted [219]), (0x1B8, 0x1B9, .alternating),
   (0x1BC, 0x1BD, .alternating), (0x1BF, 0x1BF, .shifted [56]),
   (0x1C4, 0x1C4, .shifted [1, 2]), (0x1C5, 0x1C5, .shifted [-1, 1]),
   (0x1C6, 0x1C6, .shifted [-2, -1]), (0x1C7, 0x1C7, .shifted [1, 2]),
   (0x1C8, 0x1C8, .shifted [-1, 1]), (0x1C9, 0x1C9, .shifted [-2, -1]),
   (0x1CA, 0x1CA, .shifted [1, 2]), (0x1CB, 0x1CB, .shifted [-1, 1]),
   (0x1CC, 0x1CC, .shifted [-2, -1]), (0x1CD, 0x1DC, .alternating),
   (0x1DD, 0x1DD, .shifted [-79]), (0x1DE, 0x1EF, .alternating),
   (0x1F1, 0x1F1, .shifted [1, 2]), (0x1F2, 0x1F2, .shifted [-1, 1]),
   (0x1F3, 0x1F3, .shifted [-2, -1]), (0x1F4, 0x1F5, .alternating),
   (0x1F6, 0x1F6, .shifted [-97]), (0x1F7, 0x1F7, .shifted [-56]),
   (0x1F8, 0x21F, .alternating), (0x220, 0x220, .shifted [-130]),
   (0x222, 0x233, .alternating), (0x23A, 0x23A, .shifted [10795]),
   (0x23B, 0x23C, .alternating), (0x23D, 0x23D, .shifted [-163]),
   (0x23E, 0x23E, .shifted [10792]), (0x23F, 0x240, .shifted [10815]),
   (0x241, 0x242, .alternating), (0x243, 0x243, .shifted [-195]),
   (0x244, 0x244, .shifted [69]), (0x245, 0x245, .shifted [71]),
   (0x246, 0x24F, .alternating), (0x250, 0x250, .shifted [10783]),
   (0x251, 0x251, .shifted [10780]), (0x252, 0x252, .shifted [10782]),
   (0x253, 0x253, .shifted [-210]), (0x254, 0x254, .shifted [-206]),
   (0x256, 0x257, .shifted [-205]), (0x259, 0x259, .shifted [-202]),
   (0x25B, 0x25B, .shifted [-203]), (0x25C, 0x25C, .shifted [42319]),
   (0x260, 0x260, .shifted [-205]), (0x261, 0x261, .shifted [42315]),
   (0x263, 0x263, .shifted [-207]), (0x264, 0x264, .shifted [42343]),
   (0x265, 0x265, .shifted [42280]), (0x266, 0x266, .shifted [42308]),
   (0x268, 0x268, .shifted [-209]), (0x269, 0x269, .shifted [-211]),
   (0x26A, 0x26A, .shifted [42308]), (0x26B, 0x26B, .shifted [10743]),
   (0x26C, 0x26C, .shifted [42305]), (0x26F, 0x26F, .shifted [-211]),
   (0x271, 0x271, .shifted [10749]), (0x272, 0x272, .shifted [-213]),
   (0x275, 0x275, .shifted [-214]), (0x27D, 0x27D, .shifted [10727]),
   (0x280, 0x280, .shifted [-218]), (0x282, 0x282, .shifted [42307]),
   (0x283, 0x283, .shifted [-218]), (0x287, 0x287, .shifted [42282]),
   (0x288, 0x288, .shifted [-218]), (0x289, 0x289, .shifted [-69]),
   (0x28A, 0x28B, .shifted [-217]), (0x28C, 0x28C, .shifted [-71]),
   (0x292, 0x292, .shifted [-219]), (0x29D, 0x29D, .shifted [42261]),
   (0x29E, 0x29E, .shifted [42258]), (0x345, 0x345, .shifted [84, 116, 7289]),
   (0x370, 0x373, .alternating), (0x376, 0x377, .alternating),
   (0x37B, 0x37D, .shifted [130]), (0x37F, 0x37F, .shifted [116]),
   (0x386, 0x386, .shifted [38]), (0x388, 0x38A, .shifted [37]),
   (0x38C, 0x38C, .shifted [64]), (0x38E, 0x38F, .shifted [63]),
   (0x390, 0x390, .shifted [7235]), (0x391, 0x391, .shifted [32]),
   (0x392, 0x392, .shifted [32, 62]), (0x393, 0x394, .shifted [32]),
   (0x395, 0x395, .shifted [32, 96]), (0x396, 0x397, .shifted [32]),
   (0x398, 0x398, .shifted [32, 57, 92]), (0x399, 0x399, .shifted [-84, 32, 7205]),
   (0x39A, 0x39A, .shifted [32, 86]), (0x39B, 0x39B, .shifted [32]),
   (0x39C, 0x39C, .shifted [-743, 32]), (0x39D, 0x39F, .shifted [32]),
   (0x3A0, 0x3A0, .shifted [32, 54]), (0x3A1, 0x3A1, .shifted [32, 80]),
   (0x3A3, 0x3A3, .shifted [31, 32]), (0x3A4, 0x3A5, .shifted [32]),
   (0x3A6, 0x3A6, .shifted [32, 47]), (0x3A7, 0x3A8, .shifted [32]),
   (0x3A9, 0x3A9, .shifted [32, 7549]), (0x3AA, 0x3AB, .shifted [32]),
   (0x3AC, 0x3AC, .shifted [-38]), (0x3AD, 0x3AF, .shifted [-37]),
   (0x3B0, 0x3B0, .shifted [7219]), (0x3B1, 0x3B1, .shifted [-32]),
   (0x3B2, 0x3B2, .shifted [-32, 30]), (0x3B3, 0x3B4, .shifted [-32]),
   (0x3B5, 0x3B5, .shifted [-32, 64]), (0x3B6, 0x3B7, .shifted [-32]),
   (0x3B8, 0x3B8, .shifted [-32, 25, 60]), (0x3B9, 0x3B9, .shifted [-116, -32, 7173]),
   (0x3BA, 0x3BA, .shifted [-32, 54]), (0x3BB, 0x3BB, .shifted [-32]),
   (0x3BC, 0x3BC, .shifted [-775, -32]), (0x3BD, 0x3BF, .shifted [-32]),
   (0x3C0, 0x3C0, .shifted [-32, 22]), (0x3C1, 0x3C1, .shifted [-32, 48]),
   (0x3C2, 0x3C2, .shifted [-31, 1]), (0x3C3, 0x3C3, .shifted [-32, -1]),
   (0x3C4, 0x3C5, .shifted [-32]), (0x3C6, 0x3C6, .shifted [-32, 15]),
   (0x3C7, 0x3C8, .shifted [-32]), (0x3C9, 0x3C9, .shifted [-32, 7517]),
   (0x3CA, 0x3CB, .shifted [-32]), (0x3CC, 0x3CC, .shifted [-64]),
   (0x3CD, 0x3CE, .shifted [-63]), (0x3CF, 0x3CF, .shifted [8]),
   (0x3D0, 0x3D0, .shifted [-62, -30]), (0x3D1, 0x3D1, .shifted [-57, -25, 35]),
   (0x3D5, 0x3D5, .shifted [-47, -15]), (0x3D6, 0x3D6, .shifted [-54, -22]),
   (0x3D7, 0x3D7, .shifted [-8]), (0x3D8, 0x3EF, .alternating),
   (0x3F0, 0x3F0, .shifted [-86, -54]), (0x3F1, 0x3F1, .shifted [-80, -48]),
   (0x3F2, 0x3F2, .shifted [7]), (0x3F3, 0x3F3, .shifted [-116]),
   (0x3F4, 0x3F4, .shifted [-92, -60, -35]), (0x3F5, 0x3F5, .shifted [-96, -64]),
   (0x3F7, 0x3F8, .alternating), (0x3F9, 0x3F9, .shifted [-7]),
   (0x3FA, 0x3FB, .alternating), (0x3FD, 0x3FF, .shifted [-130]),
   (0x400, 0x40F, .shifted [80]), (0x410, 0x411, .shifted [32]),
   (0x412, 0x412, .shifted [32, 6254]), (0x413, 0x413, .shifted [32]),
   (0x414, 0x414, .shifted [32, 6253]), (0x415, 0x41D, .shifted [32]),
   (0x41E, 0x41E, .shifted [32, 6244]), (0x41F, 0x420, .shifted [32]),
   (0x421, 0x421, .shifted [32, 6242]), (0x422, 0x422, .shifted [32, 6242, 6243]),
   (0x423, 0x429, .shifted [32]), (0x42A, 0x42A, .shifted [32, 6236]),
   (0x42B, 0x42F, .shifted [32]), (0x430, 0x431, .shifted [-32]),
   (0x432, 0x432, .shifted [-32, 6222]), (0x433, 0x433, .shifted [-32]),
   (0x434, 0x434, .shifted [-32, 6221]), (0x435, 0x43D, .shifted [-32]),
   (0x43E, 0x43E, .shifted [-32, 6212]), (0x43F, 0x440, .shifted [-32]),
   (0x441, 0x441, .shifted [-32, 6210]), (0x442, 0x442, .shifted [-32, 6210, 6211]),
   (0x443, 0x449, .shifted [-32]), (0x44A, 0x44A, .shifted [-32, 6204]),
   (0x44B, 0x44F, .shifted [-32]), (0x450, 0x45F, .shifted [-80]),
   (0x460, 0x461, .alternating), (0x462, 0x462, .shifted [1, 6181]),
   (0x463, 0x463, .shifted [-1, 6180]), (0x464, 0x481, .alternating),
   (0x48A, 0x4BF, .alternating), (0x4C0, 0x4C0, .shifted [15]),
   (0x4C1, 0x4CE, .alternating), (0x4CF, 0x4CF, .shifted [-15]),
   (0x4D0, 0x52F, .alternating), (0x531, 0x556, .shifted [48]),
   (0x561, 0x586, .shifted [-48]), (0x10A0, 0x10C5, .shifted [7264]),
   (0x10C7, 0x10C7, .shifted [7264]), (0x10CD, 0x10CD, .shifted [7264]),
   (0x10D0, 0x10FA, .shifted [3008]), (0x10FD, 0x10FF, .shifted [3008]),
   (0x13A0, 0x13EF, .shifted [38864]), (0x13F0, 0x13F5, .shifted [8]),
   (0x13F8, 0x13FD, .shifted [-8]), (0x1C80, 0x1C80, .shifted [-6254, -6222]),
   (0x1C81, 0x1C81, .shifted [-6253, -6221]), (0x1C82, 0x1C82, .shifted [-6244, -6212]),
   (0x1C83, 0x1C83, .shifted [-6242, -6210]),
   (0x1C84, 0x1C84, .shifted [-6242, -6210, 1]),
   (0x1C85, 0x1C85, .shifted [-6243, -6211, -1]),
   (0x1C86, 0x1C86, .shifted [-6236, -6204]), (0x1C87, 0x1C87, .shifted [-6181, -6180]),
   (0x1C88, 0x1C88, .shifted [35266, 35267]), (0x1C89, 0x1C8A, .alternating),
   (0x1C90, 0x1CBA, .shifted [-3008]), (0x1CBD, 0x1CBF, .shifted [-3008]),
   (0x1D79, 0x1D79, .shifted [35332]), (0x1D7D, 0x1D7D, .shifted [3814]),
   (0x1D8E, 0x1D8E, .shifted [35384]), (0x1E00, 0x1E5F, .alternating),
   (0x1E60, 0x1E60, .shifted [1, 59]), (0x1E61, 0x1E61, .shifted [-1, 58]),
   (0x1E62, 0x1E95, .alternating), (0x1E9B, 0x1E9B, .shifted [-59, -58]),
   (0x1E9E, 0x1E9E, .shifted [-7615]), (0x1EA0, 0x1EFF, .alternating),
   (0x1F00, 0x1F07, .shifted [8]), (0x1F08, 0x1F0F, .shifted [-8]),
   (0x1F10, 0x1F15, .shifted [8]), (0x1F18, 0x1F1D, .shifted [-8]),
   (0x1F20, 0x1F27, .shifted [8]), (0x1F28, 0x1F2F, .shifted [-8]),
   (0x1F30, 0x1F37, .shifted [8]), (0x1F38, 0x1F3F, .shifted [-8]),
   (0x1F40, 0x1F45, .shifted [8]), (0x1F48, 0x1F4D, .shifted [-8]),
   (0x1F51, 0x1F51, .shifted [8]), (0x1F53, 0x1F53, .shifted [8]),
   (0x1F55, 0x1F55, .shifted [8]), (0x1F57, 0x1F57, .shifted [8]),
   (0x1F59, 0x1F59, .shifted [-8]), (0x1F5B, 0x1F5B, .shifted [-8]),
   (0x1F5D, 0x1F5D, .shifted [-8]), (0x1F5F, 0x1F5F, .shifted [-8]),
   (0x1F60, 0x1F67, .shifted [8]), (0x1F68, 0x1F6F, .shifted [-8]),
   (0x1F70, 0x1F71, .shifted [74]), (0x1F72, 0x1F75, .shifted [86]),
   (0x1F76, 0x1F77, .shifted [100]), (0x1F78, 0x1F79, .shifted [128]),
   (0x1F7A, 0x1F7B, .shifted [112]), (0x1F7C, 0x1F7D, .shifted [126]),
   (0x1F80, 0x1F87, .shifted [8]), (0x1F88, 0x1F8F, .shifted [-8]),
   (0x1F90, 0x1F97, .shifted [8]), (0x1F98, 0x1F9F, .shifted [-8]),
   (0x1FA0, 0x1FA7, .shifted [8]), (0x1FA8, 0x1FAF, .shifted [-8]),
   (0x1FB0, 0x1FB1, .shifted [8]), (0x1FB3, 0x1FB3, .shifted [9]),
   (0x1FB8, 0x1FB9, .shifted [-8]), (0x1FBA, 0x1FBB, .shifted [-74]),
   (0x1FBC, 0x1FBC, .shifted [-9]), (0x1FBE, 0x1FBE, .shifted [-7289, -7205, -7173]),
   (0x1FC3, 0x1FC3, .shifted [9]), (0x1FC8, 0x1FCB, .shifted [-86]),
   (0x1FCC, 0x1FCC, .shifted [-9]), (0x1FD0, 0x1FD1, .shifted [8]),
   (0x1FD3, 0x1FD3, .shifted [-7235]), (0x1FD8, 0x1FD9, .shifted [-8]),
   (0x1FDA, 0x1FDB, .shifted [-100]), (0x1FE0, 0x1FE1, .shifted [8]),
   (0x1FE3, 0x1FE3, .shifted [-7219]), (0x1FE5, 0x1FE5, .shifted [7]),
   (0x1FE8, 0x1FE9, .shifted [-8]), (0x1FEA, 0x1FEB, .shifted [-112]),
   (0x1FEC, 0x1FEC, .shifted [-7]), (0x1FF3, 0x1FF3, .shifted [9]),
   (0x1FF8, 0x1FF9, .shifted [-128]), (0x1FFA, 0x1FFB, .shifted [-126]),
   (0x1FFC, 0x1FFC, .shifted [-9]), (0x2126, 0x2126, .shifted [-7549, -7517]),
   (0x212A, 0x212A, .shifted [-8415, -8383]), (0x212B, 0x212B, .shifted [-8294, -8262]),
   (0x2132, 0x2132, .shifted [28]), (0x214E, 0x214E, .shifted [-28]),
   (0x2160, 0x216F, .shifted [16]), (0x2170, 0x217F, .shifted [-16]),
   (0x2183, 0x2184, .alternating), (0x24B6, 0x24CF, .shifted [26]),
   (0x24D0, 0x24E9, .shifted [-26]), (0x2C00, 0x2C2F, .shifted [48]),
   (0x2C30, 0x2C5F, .shifted [-48]), (0x2C60, 0x2C61, .alternating),
   (0x2C62, 0x2C62, .shifted [-10743]), (0x2C63, 0x2C63, .shifted [-3814]),
   (0x2C64, 0x2C64, .shifted [-10727]), (0x2C65, 0x2C65, .shifted [-10795]),
   (0x2C66, 0x2C66, .shifted [-10792]), (0x2C67, 0x2C6C, .alternating),
   (0x2C6D, 0x2C6D, .shifted [-10780]), (0x2C6E, 0x2C6E, .shifted [-10749]),
   (0x2C6F, 0x2C6F, .shifted [-10783]), (0x2C70, 0x2C70, .shifted [-10782]),
   (0x2C72, 0x2C73, .alternating), (0x2C75, 0x2C76, .alternating),
   (0x2C7E, 0x2C7F, .shifted [-10815]), (0x2C80, 0x2CE3, .alternating),
   (0x2CEB, 0x2CEE, .alternating), (0x2CF2, 0x2CF3, .alternating),
   (0x2D00, 0x2D25, .shifted [-7264]), (0x2D27, 0x2D27, .shifted [-7264]),
   (0x2D2D, 0x2D2D, .shifted [-7264]), (0xA640, 0xA649, .alternating),
   (0xA64A, 0xA64A, .shifted [-35266, 1]), (0xA64B, 0xA64B, .shifted [-35267, -1]),
   (0xA64C, 0xA66D, .alternating), (0xA680, 0xA69B, .alternating),
   (0xA722, 0xA72F, .alternating), (0xA732, 0xA76F, .alternating),
   (0xA779, 0xA77C, .alternating), (0xA77D, 0xA77D, .shifted [-35332]),
   (0xA77E, 0xA787, .alternating), (0xA78B, 0xA78C, .alternating),
   (0xA78D, 0xA78D, .shifted [-42280]), (0xA790, 0xA793, .alternating),
   (0xA794, 0xA794, .shifted [48]), (0xA796, 0xA7A9, .alternating),
   (0xA7AA, 0xA7AA, .shifted [-42308]), (0xA7AB, 0xA7AB, .shifted [-42319]),
   (0xA7AC, 0xA7AC, .shifted [-42315]), (0xA7AD, 0xA7AD, .shifted [-42305]),
   (0xA7AE, 0xA7AE, .shifted [-42308]), (0xA7B0, 0xA7B0, .shifted [-42258]),
   (0xA7B1, 0xA7B1, .shifted [-42282]), (0xA7B2, 0xA7B2, .shifted [-42261]),
   (0xA7B3, 0xA7B3, .shifted [928]), (0xA7B4, 0xA7C3, .alternating),
   (0xA7C4, 0xA7C4, .shifted [-48]), (0xA7C5, 0xA7C5, .shifted [-42307]),
   (0xA7C6, 0xA7C6, .shifted [-35384]), (0xA7C7, 0xA7CA, .alternating),
   (0xA7CB, 0xA7CB, .shifted [-42343]), (0xA7CC, 0xA7CD, .alternating),
   (0xA7D0, 0xA7D1, .alternating), (0xA7D6, 0xA7DB, .alternating),
   (0xA7DC, 0xA7DC, .shifted [-42561]), (0xA7F5, 0xA7F6, .alternating),
   (0xAB53, 0xAB53, .shifted [-928]), (0xAB70, 0xABBF, .shifted [-38864]),
   (0xFB05, 0xFB06, .alternating), (0xFF21, 0xFF3A, .shifted [32]),
   (0xFF41, 0xFF5A, .shifted [-32]), (0x10400, 0x10427, .shifted [40]),
   (0x10428, 0x1044F, .shifted [-40]), (0x104B0, 0x104D3, .shifted [40]),
   (0x104D8, 0x104FB, .shifted [-40]), (0x10570, 0x1057A, .shifted [39]),
   (0x1057C, 0x1058A, .shifted [39]), (0x1058C, 0x10592, .shifted [39]),
   (0x10594, 0x10595, .shifted [39]), (0x10597, 0x105A1, .shifted [-39]),
   (0x105A3, 0x105B1, .shifted [-39]), (0x105B3, 0x105B9, .shifted [-39]),
   (0x105BB, 0x105BC, .shifted [-39]), (0x10C80, 0x10CB2, .shifted [64]),
   (0x10CC0, 0x10CF2, .shifted [-64]), (0x10D50, 0x10D65, .shifted [32]),
   (0x10D70, 0x10D85, .shifted [-32]), (0x118A0, 0x118BF, .shifted [32]),
   (0x118C0, 0x118DF, .shifted [-32]), (0x16E40, 0x16E5F, .shifted [32]),
   (0x16E60, 0x16E7F, .shifted [-32]), (0x1E900, 0x1E921, .shifted [34]),
   (0x1E922, 0x1E943, .shifted [-34])]

/-- The table of case variants beyond ASCII, with each range's first code. -/
def caseTree : RangeTree (Nat × CaseRange) :=
  RangeTree.ofSorted 16
    (caseRanges.map fun (low, high, range) => (low, high, low, range))

/-- The case variants of an ASCII character, itself excluded. -/
def asciiVariants (char : Char) : List Char :=
  if char = 'k' then ['K', '\u212a']
  else if char = 'K' then ['k', '\u212a']
  else if char = 's' then ['S', '\u017f']
  else if char = 'S' then ['s', '\u017f']
  else if char.isLower then [char.toUpper]
  else if char.isUpper then [char.toLower]
  else []

/-- The other characters with the same simple case folding. -/
def caseVariants (char : Char) : List Char :=
  let code := char.toNat
  if code < 128 then asciiVariants char
  else
    match caseTree.find? code with
    | none => []
    | some (_, .shifted offsets) =>
        offsets.map fun offset => Char.ofNat ((code : Int) + offset).toNat
    | some (low, .alternating) =>
        if (code - low) % 2 = 0 then [Char.ofNat (code + 1)]
        else [Char.ofNat (code - 1)]

end Text
end ScriptAudit
