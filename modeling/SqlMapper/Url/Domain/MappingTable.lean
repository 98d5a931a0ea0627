import SqlMapper.Text.Ranges

/-! What becomes of the characters beyond ASCII in a domain name: which are refused, which are
left out, and which stand for others. -/

namespace SqlMapper.Url

/-- The characters from `first` to `last` and the texts they stand for, with bars between
them. A character with no text there stands for itself. -/
structure Substitution where
  first : Nat
  last : Nat
  texts : String

def refusedRanges : List (Nat × Nat) :=
  [(0x80, 0x9f), (0x378, 0x379), (0x380, 0x383), (0x38b, 0x38b), (0x38d, 0x38d), (0x3a2, 0x3a2),
   (0x530, 0x530), (0x557, 0x558), (0x58b, 0x58c), (0x590, 0x590), (0x5c8, 0x5cf), (0x5eb, 0x5ee),
   (0x5f5, 0x605), (0x61c, 0x61c), (0x6dd, 0x6dd), (0x70e, 0x70f), (0x74b, 0x74c), (0x7b2, 0x7bf),
   (0x7fb, 0x7fc), (0x82e, 0x82f), (0x83f, 0x83f), (0x85c, 0x85d), (0x85f, 0x85f), (0x86b, 0x86f),
   (0x890, 0x896), (0x8e2, 0x8e2), (0x984, 0x984), (0x98d, 0x98e), (0x991, 0x992), (0x9a9, 0x9a9),
   (0x9b1, 0x9b1), (0x9b3, 0x9b5), (0x9ba, 0x9bb), (0x9c5, 0x9c6), (0x9c9, 0x9ca), (0x9cf, 0x9d6),
   (0x9d8, 0x9db), (0x9de, 0x9de), (0x9e4, 0x9e5), (0x9ff, 0xa00), (0xa04, 0xa04), (0xa0b, 0xa0e),
   (0xa11, 0xa12), (0xa29, 0xa29), (0xa31, 0xa31), (0xa34, 0xa34), (0xa37, 0xa37), (0xa3a, 0xa3b),
   (0xa3d, 0xa3d), (0xa43, 0xa46), (0xa49, 0xa4a), (0xa4e, 0xa50), (0xa52, 0xa58), (0xa5d, 0xa5d),
   (0xa5f, 0xa65), (0xa77, 0xa80), (0xa84, 0xa84), (0xa8e, 0xa8e), (0xa92, 0xa92), (0xaa9, 0xaa9),
   (0xab1, 0xab1), (0xab4, 0xab4), (0xaba, 0xabb), (0xac6, 0xac6), (0xaca, 0xaca), (0xace, 0xacf),
   (0xad1, 0xadf), (0xae4, 0xae5), (0xaf2, 0xaf8), (0xb00, 0xb00), (0xb04, 0xb04), (0xb0d, 0xb0e),
   (0xb11, 0xb12), (0xb29, 0xb29), (0xb31, 0xb31), (0xb34, 0xb34), (0xb3a, 0xb3b), (0xb45, 0xb46),
   (0xb49, 0xb4a), (0xb4e, 0xb54), (0xb58, 0xb5b), (0xb5e, 0xb5e), (0xb64, 0xb65), (0xb78, 0xb81),
   (0xb84, 0xb84), (0xb8b, 0xb8d), (0xb91, 0xb91), (0xb96, 0xb98), (0xb9b, 0xb9b), (0xb9d, 0xb9d),
   (0xba0, 0xba2), (0xba5, 0xba7), (0xbab, 0xbad), (0xbba, 0xbbd), (0xbc3, 0xbc5), (0xbc9, 0xbc9),
   (0xbce, 0xbcf), (0xbd1, 0xbd6), (0xbd8, 0xbe5), (0xbfb, 0xbff), (0xc0d, 0xc0d), (0xc11, 0xc11),
   (0xc29, 0xc29), (0xc3a, 0xc3b), (0xc45, 0xc45), (0xc49, 0xc49), (0xc4e, 0xc54), (0xc57, 0xc57),
   (0xc5b, 0xc5b), (0xc5e, 0xc5f), (0xc64, 0xc65), (0xc70, 0xc76), (0xc8d, 0xc8d), (0xc91, 0xc91),
   (0xca9, 0xca9), (0xcb4, 0xcb4), (0xcba, 0xcbb), (0xcc5, 0xcc5), (0xcc9, 0xcc9), (0xcce, 0xcd4),
   (0xcd7, 0xcdb), (0xcdf, 0xcdf), (0xce4, 0xce5), (0xcf0, 0xcf0), (0xcf4, 0xcff), (0xd0d, 0xd0d),
   (0xd11, 0xd11), (0xd45, 0xd45), (0xd49, 0xd49), (0xd50, 0xd53), (0xd64, 0xd65), (0xd80, 0xd80),
   (0xd84, 0xd84), (0xd97, 0xd99), (0xdb2, 0xdb2), (0xdbc, 0xdbc), (0xdbe, 0xdbf), (0xdc7, 0xdc9),
   (0xdcb, 0xdce), (0xdd5, 0xdd5), (0xdd7, 0xdd7), (0xde0, 0xde5), (0xdf0, 0xdf1), (0xdf5, 0xe00),
   (0xe3b, 0xe3e), (0xe5c, 0xe80), (0xe83, 0xe83), (0xe85, 0xe85), (0xe8b, 0xe8b), (0xea4, 0xea4),
   (0xea6, 0xea6), (0xebe, 0xebf), (0xec5, 0xec5), (0xec7, 0xec7), (0xecf, 0xecf), (0xeda, 0xedb),
   (0xee0, 0xeff), (0xf48, 0xf48), (0xf6d, 0xf70), (0xf98, 0xf98), (0xfbd, 0xfbd), (0xfcd, 0xfcd),
   (0xfdb, 0xfff), (0x10c6, 0x10c6), (0x10c8, 0x10cc), (0x10ce, 0x10cf), (0x1249, 0x1249),
   (0x124e, 0x124f), (0x1257, 0x1257), (0x1259, 0x1259), (0x125e, 0x125f), (0x1289, 0x1289),
   (0x128e, 0x128f), (0x12b1, 0x12b1), (0x12b6, 0x12b7), (0x12bf, 0x12bf), (0x12c1, 0x12c1),
   (0x12c6, 0x12c7), (0x12d7, 0x12d7), (0x1311, 0x1311), (0x1316, 0x1317), (0x135b, 0x135c),
   (0x137d, 0x137f), (0x139a, 0x139f), (0x13f6, 0x13f7), (0x13fe, 0x13ff), (0x1680, 0x1680),
   (0x169d, 0x169f), (0x16f9, 0x16ff), (0x1716, 0x171e), (0x1737, 0x173f), (0x1754, 0x175f),
   (0x176d, 0x176d), (0x1771, 0x1771), (0x1774, 0x177f), (0x17de, 0x17df), (0x17ea, 0x17ef),
   (0x17fa, 0x17ff), (0x181a, 0x181f), (0x1879, 0x187f), (0x18ab, 0x18af), (0x18f6, 0x18ff),
   (0x191f, 0x191f), (0x192c, 0x192f), (0x193c, 0x193f), (0x1941, 0x1943), (0x196e, 0x196f),
   (0x1975, 0x197f), (0x19ac, 0x19af), (0x19ca, 0x19cf), (0x19db, 0x19dd), (0x1a1c, 0x1a1d),
   (0x1a5f, 0x1a5f), (0x1a7d, 0x1a7e), (0x1a8a, 0x1a8f), (0x1a9a, 0x1a9f), (0x1aae, 0x1aaf),
   (0x1ade, 0x1adf), (0x1aec, 0x1aff), (0x1b4d, 0x1b4d), (0x1bf4, 0x1bfb), (0x1c38, 0x1c3a),
   (0x1c4a, 0x1c4c), (0x1c8b, 0x1c8f), (0x1cbb, 0x1cbc), (0x1cc8, 0x1ccf), (0x1cfb, 0x1cff),
   (0x1f16, 0x1f17), (0x1f1e, 0x1f1f), (0x1f46, 0x1f47), (0x1f4e, 0x1f4f), (0x1f58, 0x1f58),
   (0x1f5a, 0x1f5a), (0x1f5c, 0x1f5c), (0x1f5e, 0x1f5e), (0x1f7e, 0x1f7f), (0x1fb5, 0x1fb5),
   (0x1fc5, 0x1fc5), (0x1fd4, 0x1fd5), (0x1fdc, 0x1fdc), (0x1ff0, 0x1ff1), (0x1ff5, 0x1ff5),
   (0x1fff, 0x1fff), (0x200e, 0x200f), (0x2024, 0x2026), (0x2028, 0x202e), (0x2065, 0x2069),
   (0x2072, 0x2073), (0x208f, 0x208f), (0x209d, 0x209f), (0x20c2, 0x20cf), (0x20f1, 0x20ff),
   (0x218c, 0x218f), (0x242a, 0x243f), (0x244b, 0x245f), (0x2488, 0x249b), (0x2b74, 0x2b75),
   (0x2cf4, 0x2cf8), (0x2d26, 0x2d26), (0x2d28, 0x2d2c), (0x2d2e, 0x2d2f), (0x2d68, 0x2d6e),
   (0x2d71, 0x2d7e), (0x2d97, 0x2d9f), (0x2da7, 0x2da7), (0x2daf, 0x2daf), (0x2db7, 0x2db7),
   (0x2dbf, 0x2dbf), (0x2dc7, 0x2dc7), (0x2dcf, 0x2dcf), (0x2dd7, 0x2dd7), (0x2ddf, 0x2ddf),
   (0x2e5e, 0x2e7f), (0x2e9a, 0x2e9a), (0x2ef4, 0x2eff), (0x2fd6, 0x2fff), (0x3040, 0x3040),
   (0x3097, 0x3098), (0x3100, 0x3104), (0x3130, 0x3130), (0x318f, 0x318f), (0x31e6, 0x31ef),
   (0x321f, 0x321f), (0x33c2, 0x33c2), (0x33c7, 0x33c7), (0x33d8, 0x33d8), (0xa48d, 0xa48f),
   (0xa4c7, 0xa4cf), (0xa62c, 0xa63f), (0xa6f8, 0xa6ff), (0xa7dd, 0xa7f0), (0xa82d, 0xa82f),
   (0xa83a, 0xa83f), (0xa878, 0xa87f), (0xa8c6, 0xa8cd), (0xa8da, 0xa8df), (0xa954, 0xa95e),
   (0xa97d, 0xa97f), (0xa9ce, 0xa9ce), (0xa9da, 0xa9dd), (0xa9ff, 0xa9ff), (0xaa37, 0xaa3f),
   (0xaa4e, 0xaa4f), (0xaa5a, 0xaa5b), (0xaac3, 0xaada), (0xaaf7, 0xab00), (0xab07, 0xab08),
   (0xab0f, 0xab10), (0xab17, 0xab1f), (0xab27, 0xab27), (0xab2f, 0xab2f), (0xab6c, 0xab6f),
   (0xabee, 0xabef), (0xabfa, 0xabff), (0xd7a4, 0xd7af), (0xd7c7, 0xd7ca), (0xd7fc, 0xf8ff),
   (0xfa6e, 0xfa6f), (0xfada, 0xfaff), (0xfb07, 0xfb12), (0xfb18, 0xfb1c), (0xfb37, 0xfb37),
   (0xfb3d, 0xfb3d), (0xfb3f, 0xfb3f), (0xfb42, 0xfb42), (0xfb45, 0xfb45), (0xfdd0, 0xfdef),
   (0xfe12, 0xfe12), (0xfe19, 0xfe1f), (0xfe30, 0xfe30), (0xfe52, 0xfe53), (0xfe67, 0xfe67),
   (0xfe6c, 0xfe6f), (0xfe75, 0xfe75), (0xfefd, 0xfefe), (0xff00, 0xff00), (0xffbf, 0xffc1),
   (0xffc8, 0xffc9), (0xffd0, 0xffd1), (0xffd8, 0xffd9), (0xffdd, 0xffdf), (0xffe7, 0xffe7),
   (0xffef, 0xffff), (0x1000c, 0x1000c), (0x10027, 0x10027), (0x1003b, 0x1003b),
   (0x1003e, 0x1003e), (0x1004e, 0x1004f), (0x1005e, 0x1007f), (0x100fb, 0x100ff),
   (0x10103, 0x10106), (0x10134, 0x10136), (0x1018f, 0x1018f), (0x1019d, 0x1019f),
   (0x101a1, 0x101cf), (0x101fe, 0x1027f), (0x1029d, 0x1029f), (0x102d1, 0x102df),
   (0x102fc, 0x102ff), (0x10324, 0x1032c), (0x1034b, 0x1034f), (0x1037b, 0x1037f),
   (0x1039e, 0x1039e), (0x103c4, 0x103c7), (0x103d6, 0x103ff), (0x1049e, 0x1049f),
   (0x104aa, 0x104af), (0x104d4, 0x104d7), (0x104fc, 0x104ff), (0x10528, 0x1052f),
   (0x10564, 0x1056e), (0x1057b, 0x1057b), (0x1058b, 0x1058b), (0x10593, 0x10593),
   (0x10596, 0x10596), (0x105a2, 0x105a2), (0x105b2, 0x105b2), (0x105ba, 0x105ba),
   (0x105bd, 0x105bf), (0x105f4, 0x105ff), (0x10737, 0x1073f), (0x10756, 0x1075f),
   (0x10768, 0x1077f), (0x10786, 0x10786), (0x107b1, 0x107b1), (0x107bb, 0x107ff),
   (0x10806, 0x10807), (0x10809, 0x10809), (0x10836, 0x10836), (0x10839, 0x1083b),
   (0x1083d, 0x1083e), (0x10856, 0x10856), (0x1089f, 0x108a6), (0x108b0, 0x108df),
   (0x108f3, 0x108f3), (0x108f6, 0x108fa), (0x1091c, 0x1091e), (0x1093a, 0x1093e),
   (0x1095a, 0x1097f), (0x109b8, 0x109bb), (0x109d0, 0x109d1), (0x10a04, 0x10a04),
   (0x10a07, 0x10a0b), (0x10a14, 0x10a14), (0x10a18, 0x10a18), (0x10a36, 0x10a37),
   (0x10a3b, 0x10a3e), (0x10a49, 0x10a4f), (0x10a59, 0x10a5f), (0x10aa0, 0x10abf),
   (0x10ae7, 0x10aea), (0x10af7, 0x10aff), (0x10b36, 0x10b38), (0x10b56, 0x10b57),
   (0x10b73, 0x10b77), (0x10b92, 0x10b98), (0x10b9d, 0x10ba8), (0x10bb0, 0x10bff),
   (0x10c49, 0x10c7f), (0x10cb3, 0x10cbf), (0x10cf3, 0x10cf9), (0x10d28, 0x10d2f),
   (0x10d3a, 0x10d3f), (0x10d66, 0x10d68), (0x10d86, 0x10d8d), (0x10d90, 0x10e5f),
   (0x10e7f, 0x10e7f), (0x10eaa, 0x10eaa), (0x10eae, 0x10eaf), (0x10eb2, 0x10ec1),
   (0x10ec8, 0x10ecf), (0x10ed9, 0x10ef9), (0x10f28, 0x10f2f), (0x10f5a, 0x10f6f),
   (0x10f8a, 0x10faf), (0x10fcc, 0x10fdf), (0x10ff7, 0x10fff), (0x1104e, 0x11051),
   (0x11076, 0x1107e), (0x110bd, 0x110bd), (0x110c3, 0x110cf), (0x110e9, 0x110ef),
   (0x110fa, 0x110ff), (0x11135, 0x11135), (0x11148, 0x1114f), (0x11177, 0x1117f),
   (0x111e0, 0x111e0), (0x111f5, 0x111ff), (0x11212, 0x11212), (0x11242, 0x1127f),
   (0x11287, 0x11287), (0x11289, 0x11289), (0x1128e, 0x1128e), (0x1129e, 0x1129e),
   (0x112aa, 0x112af), (0x112eb, 0x112ef), (0x112fa, 0x112ff), (0x11304, 0x11304),
   (0x1130d, 0x1130e), (0x11311, 0x11312), (0x11329, 0x11329), (0x11331, 0x11331),
   (0x11334, 0x11334), (0x1133a, 0x1133a), (0x11345, 0x11346), (0x11349, 0x1134a),
   (0x1134e, 0x1134f), (0x11351, 0x11356), (0x11358, 0x1135c), (0x11364, 0x11365),
   (0x1136d, 0x1136f), (0x11375, 0x1137f), (0x1138a, 0x1138a), (0x1138c, 0x1138d),
   (0x1138f, 0x1138f), (0x113b6, 0x113b6), (0x113c1, 0x113c1), (0x113c3, 0x113c4),
   (0x113c6, 0x113c6), (0x113cb, 0x113cb), (0x113d6, 0x113d6), (0x113d9, 0x113e0),
   (0x113e3, 0x113ff), (0x1145c, 0x1145c), (0x11462, 0x1147f), (0x114c8, 0x114cf),
   (0x114da, 0x1157f), (0x115b6, 0x115b7), (0x115de, 0x115ff), (0x11645, 0x1164f),
   (0x1165a, 0x1165f), (0x1166d, 0x1167f), (0x116ba, 0x116bf), (0x116ca, 0x116cf),
   (0x116e4, 0x116ff), (0x1171b, 0x1171c), (0x1172c, 0x1172f), (0x11747, 0x117ff),
   (0x1183c, 0x1189f), (0x118f3, 0x118fe), (0x11907, 0x11908), (0x1190a, 0x1190b),
   (0x11914, 0x11914), (0x11917, 0x11917), (0x11936, 0x11936), (0x11939, 0x1193a),
   (0x11947, 0x1194f), (0x1195a, 0x1199f), (0x119a8, 0x119a9), (0x119d8, 0x119d9),
   (0x119e5, 0x119ff), (0x11a48, 0x11a4f), (0x11aa3, 0x11aaf), (0x11af9, 0x11aff),
   (0x11b0a, 0x11b5f), (0x11b68, 0x11bbf), (0x11be2, 0x11bef), (0x11bfa, 0x11bff),
   (0x11c09, 0x11c09), (0x11c37, 0x11c37), (0x11c46, 0x11c4f), (0x11c6d, 0x11c6f),
   (0x11c90, 0x11c91), (0x11ca8, 0x11ca8), (0x11cb7, 0x11cff), (0x11d07, 0x11d07),
   (0x11d0a, 0x11d0a), (0x11d37, 0x11d39), (0x11d3b, 0x11d3b), (0x11d3e, 0x11d3e),
   (0x11d48, 0x11d4f), (0x11d5a, 0x11d5f), (0x11d66, 0x11d66), (0x11d69, 0x11d69),
   (0x11d8f, 0x11d8f), (0x11d92, 0x11d92), (0x11d99, 0x11d9f), (0x11daa, 0x11daf),
   (0x11ddc, 0x11ddf), (0x11dea, 0x11edf), (0x11ef9, 0x11eff), (0x11f11, 0x11f11),
   (0x11f3b, 0x11f3d), (0x11f5b, 0x11faf), (0x11fb1, 0x11fbf), (0x11ff2, 0x11ffe),
   (0x1239a, 0x123ff), (0x1246f, 0x1246f), (0x12475, 0x1247f), (0x12544, 0x12f8f),
   (0x12ff3, 0x12fff), (0x13430, 0x1343f), (0x13456, 0x1345f), (0x143fb, 0x143ff),
   (0x14647, 0x160ff), (0x1613a, 0x167ff), (0x16a39, 0x16a3f), (0x16a5f, 0x16a5f),
   (0x16a6a, 0x16a6d), (0x16abf, 0x16abf), (0x16aca, 0x16acf), (0x16aee, 0x16aef),
   (0x16af6, 0x16aff), (0x16b46, 0x16b4f), (0x16b5a, 0x16b5a), (0x16b62, 0x16b62),
   (0x16b78, 0x16b7c), (0x16b90, 0x16d3f), (0x16d7a, 0x16e3f), (0x16e9b, 0x16e9f),
   (0x16eb9, 0x16eba), (0x16ed4, 0x16eff), (0x16f4b, 0x16f4e), (0x16f88, 0x16f8e),
   (0x16fa0, 0x16fdf), (0x16fe5, 0x16fef), (0x16ff7, 0x16fff), (0x18cd6, 0x18cfe),
   (0x18d1f, 0x18d7f), (0x18df3, 0x1afef), (0x1aff4, 0x1aff4), (0x1affc, 0x1affc),
   (0x1afff, 0x1afff), (0x1b123, 0x1b131), (0x1b133, 0x1b14f), (0x1b153, 0x1b154),
   (0x1b156, 0x1b163), (0x1b168, 0x1b16f), (0x1b2fc, 0x1bbff), (0x1bc6b, 0x1bc6f),
   (0x1bc7d, 0x1bc7f), (0x1bc89, 0x1bc8f), (0x1bc9a, 0x1bc9b), (0x1bca4, 0x1cbff),
   (0x1ccfd, 0x1ccff), (0x1ceb4, 0x1ceb9), (0x1ced1, 0x1cedf), (0x1cef1, 0x1ceff),
   (0x1cf2e, 0x1cf2f), (0x1cf47, 0x1cf4f), (0x1cfc4, 0x1cfff), (0x1d0f6, 0x1d0ff),
   (0x1d127, 0x1d128), (0x1d1eb, 0x1d1ff), (0x1d246, 0x1d2bf), (0x1d2d4, 0x1d2df),
   (0x1d2f4, 0x1d2ff), (0x1d357, 0x1d35f), (0x1d379, 0x1d3ff), (0x1d455, 0x1d455),
   (0x1d49d, 0x1d49d), (0x1d4a0, 0x1d4a1), (0x1d4a3, 0x1d4a4), (0x1d4a7, 0x1d4a8),
   (0x1d4ad, 0x1d4ad), (0x1d4ba, 0x1d4ba), (0x1d4bc, 0x1d4bc), (0x1d4c4, 0x1d4c4),
   (0x1d506, 0x1d506), (0x1d50b, 0x1d50c), (0x1d515, 0x1d515), (0x1d51d, 0x1d51d),
   (0x1d53a, 0x1d53a), (0x1d53f, 0x1d53f), (0x1d545, 0x1d545), (0x1d547, 0x1d549),
   (0x1d551, 0x1d551), (0x1d6a6, 0x1d6a7), (0x1d7cc, 0x1d7cd), (0x1da8c, 0x1da9a),
   (0x1daa0, 0x1daa0), (0x1dab0, 0x1deff), (0x1df1f, 0x1df24), (0x1df2b, 0x1dfff),
   (0x1e007, 0x1e007), (0x1e019, 0x1e01a), (0x1e022, 0x1e022), (0x1e025, 0x1e025),
   (0x1e02b, 0x1e02f), (0x1e06e, 0x1e08e), (0x1e090, 0x1e0ff), (0x1e12d, 0x1e12f),
   (0x1e13e, 0x1e13f), (0x1e14a, 0x1e14d), (0x1e150, 0x1e28f), (0x1e2af, 0x1e2bf),
   (0x1e2fa, 0x1e2fe), (0x1e300, 0x1e4cf), (0x1e4fa, 0x1e5cf), (0x1e5fb, 0x1e5fe),
   (0x1e600, 0x1e6bf), (0x1e6df, 0x1e6df), (0x1e6f6, 0x1e6fd), (0x1e700, 0x1e7df),
   (0x1e7e7, 0x1e7e7), (0x1e7ec, 0x1e7ec), (0x1e7ef, 0x1e7ef), (0x1e7ff, 0x1e7ff),
   (0x1e8c5, 0x1e8c6), (0x1e8d7, 0x1e8ff), (0x1e94c, 0x1e94f), (0x1e95a, 0x1e95d),
   (0x1e960, 0x1ec70), (0x1ecb5, 0x1ed00), (0x1ed3e, 0x1edff), (0x1ee04, 0x1ee04),
   (0x1ee20, 0x1ee20), (0x1ee23, 0x1ee23), (0x1ee25, 0x1ee26), (0x1ee28, 0x1ee28),
   (0x1ee33, 0x1ee33), (0x1ee38, 0x1ee38), (0x1ee3a, 0x1ee3a), (0x1ee3c, 0x1ee41),
   (0x1ee43, 0x1ee46), (0x1ee48, 0x1ee48), (0x1ee4a, 0x1ee4a), (0x1ee4c, 0x1ee4c),
   (0x1ee50, 0x1ee50), (0x1ee53, 0x1ee53), (0x1ee55, 0x1ee56), (0x1ee58, 0x1ee58),
   (0x1ee5a, 0x1ee5a), (0x1ee5c, 0x1ee5c), (0x1ee5e, 0x1ee5e), (0x1ee60, 0x1ee60),
   (0x1ee63, 0x1ee63), (0x1ee65, 0x1ee66), (0x1ee6b, 0x1ee6b), (0x1ee73, 0x1ee73),
   (0x1ee78, 0x1ee78), (0x1ee7d, 0x1ee7d), (0x1ee7f, 0x1ee7f), (0x1ee8a, 0x1ee8a),
   (0x1ee9c, 0x1eea0), (0x1eea4, 0x1eea4), (0x1eeaa, 0x1eeaa), (0x1eebc, 0x1eeef),
   (0x1eef2, 0x1efff), (0x1f02c, 0x1f02f), (0x1f094, 0x1f09f), (0x1f0af, 0x1f0b0),
   (0x1f0c0, 0x1f0c0), (0x1f0d0, 0x1f0d0), (0x1f0f6, 0x1f100), (0x1f1ae, 0x1f1e5),
   (0x1f203, 0x1f20f), (0x1f23c, 0x1f23f), (0x1f249, 0x1f24f), (0x1f252, 0x1f25f),
   (0x1f266, 0x1f2ff), (0x1f6d9, 0x1f6db), (0x1f6ed, 0x1f6ef), (0x1f6fd, 0x1f6ff),
   (0x1f7da, 0x1f7df), (0x1f7ec, 0x1f7ef), (0x1f7f1, 0x1f7ff), (0x1f80c, 0x1f80f),
   (0x1f848, 0x1f84f), (0x1f85a, 0x1f85f), (0x1f888, 0x1f88f), (0x1f8ae, 0x1f8af),
   (0x1f8bc, 0x1f8bf), (0x1f8c2, 0x1f8cf), (0x1f8d9, 0x1f8ff), (0x1fa58, 0x1fa5f),
   (0x1fa6e, 0x1fa6f), (0x1fa7d, 0x1fa7f), (0x1fa8b, 0x1fa8d), (0x1fac7, 0x1fac7),
   (0x1fac9, 0x1facc), (0x1fadd, 0x1fade), (0x1faeb, 0x1faee), (0x1faf9, 0x1faff),
   (0x1fb93, 0x1fb93), (0x1fbfb, 0x1ffff), (0x2a6e0, 0x2a6ff), (0x2b81e, 0x2b81f),
   (0x2ceae, 0x2ceaf), (0x2ebe1, 0x2ebef), (0x2ee5e, 0x2f7ff), (0x2fa1e, 0x2ffff),
   (0x3134b, 0x3134f), (0x3347a, 0xe00ff), (0xe01f0, 0x10ffff)]

def ignoredRanges : List (Nat × Nat) :=
  [(0xad, 0xad), (0x34f, 0x34f), (0x115f, 0x1160), (0x17b4, 0x17b5), (0x180b, 0x180f),
   (0x200b, 0x200b), (0x2060, 0x2064), (0x206a, 0x206f), (0x3164, 0x3164), (0xfe00, 0xfe0f),
   (0xfeff, 0xfeff), (0xffa0, 0xffa0), (0x1bca0, 0x1bca3), (0x1d173, 0x1d17a), (0xe0100, 0xe01ef)]

/-- The characters that stand for another at the same distance as their neighbours. -/
def substitutionShifts : List Text.Shift :=
  [⟨0xc0, 0xd6, 1, 32⟩, ⟨0xd8, 0xde, 1, 32⟩, ⟨0x100, 0x12e, 2, 1⟩, ⟨0x139, 0x13d, 2, 1⟩,
   ⟨0x141, 0x147, 2, 1⟩, ⟨0x14a, 0x176, 2, 1⟩, ⟨0x179, 0x17d, 2, 1⟩, ⟨0x1a0, 0x1a4, 2, 1⟩,
   ⟨0x1cd, 0x1db, 2, 1⟩, ⟨0x1de, 0x1ee, 2, 1⟩, ⟨0x1f8, 0x21e, 2, 1⟩, ⟨0x222, 0x232, 2, 1⟩,
   ⟨0x246, 0x24e, 2, 1⟩, ⟨0x388, 0x38a, 1, 37⟩, ⟨0x391, 0x3a1, 1, 32⟩, ⟨0x3a3, 0x3ab, 1, 32⟩,
   ⟨0x3d8, 0x3ee, 2, 1⟩, ⟨0x3fd, 0x3ff, 1, -130⟩, ⟨0x400, 0x40f, 1, 80⟩, ⟨0x410, 0x42f, 1, 32⟩,
   ⟨0x460, 0x480, 2, 1⟩, ⟨0x48a, 0x4be, 2, 1⟩, ⟨0x4c1, 0x4cd, 2, 1⟩, ⟨0x4d0, 0x52e, 2, 1⟩,
   ⟨0x531, 0x556, 1, 48⟩, ⟨0x10a0, 0x10c5, 1, 7264⟩, ⟨0x13f8, 0x13fd, 1, -8⟩,
   ⟨0x1c90, 0x1cba, 1, -3008⟩, ⟨0x1cbd, 0x1cbf, 1, -3008⟩, ⟨0x1d31, 0x1d39, 2, -7372⟩,
   ⟨0x1d34, 0x1d3a, 2, -7372⟩, ⟨0x1d5d, 0x1d5f, 1, -6571⟩, ⟨0x1da4, 0x1da6, 1, -6972⟩,
   ⟨0x1dae, 0x1db1, 1, -6972⟩, ⟨0x1dbc, 0x1dbe, 1, -6956⟩, ⟨0x1e00, 0x1e94, 2, 1⟩,
   ⟨0x1ea0, 0x1efe, 2, 1⟩, ⟨0x1f08, 0x1f0f, 1, -8⟩, ⟨0x1f18, 0x1f1d, 1, -8⟩,
   ⟨0x1f28, 0x1f2f, 1, -8⟩, ⟨0x1f38, 0x1f3f, 1, -8⟩, ⟨0x1f48, 0x1f4d, 1, -8⟩,
   ⟨0x1f59, 0x1f5f, 2, -8⟩, ⟨0x1f68, 0x1f6f, 1, -8⟩, ⟨0x2074, 0x2079, 1, -8256⟩,
   ⟨0x2080, 0x2089, 1, -8272⟩, ⟨0x2096, 0x2099, 1, -8235⟩, ⟨0x2119, 0x211b, 1, -8361⟩,
   ⟨0x2135, 0x2138, 1, -7013⟩, ⟨0x2460, 0x2468, 1, -9263⟩, ⟨0x24b6, 0x24cf, 1, -9301⟩,
   ⟨0x24d0, 0x24e9, 1, -9327⟩, ⟨0x2c00, 0x2c2f, 1, 48⟩, ⟨0x2c67, 0x2c6b, 2, 1⟩,
   ⟨0x2c80, 0x2ce2, 2, 1⟩, ⟨0x3137, 0x3139, 1, -8244⟩, ⟨0x313a, 0x313f, 1, -8074⟩,
   ⟨0x3141, 0x3143, 1, -8251⟩, ⟨0x3145, 0x314e, 1, -8252⟩, ⟨0x314f, 0x3163, 1, -8174⟩,
   ⟨0x3178, 0x317c, 1, -8269⟩, ⟨0x3184, 0x3186, 1, -8237⟩, ⟨0x3263, 0x3265, 1, -8542⟩,
   ⟨0x3269, 0x326d, 1, -8539⟩, ⟨0x32e4, 0x32e9, 1, -538⟩, ⟨0x32ee, 0x32f2, 1, -528⟩,
   ⟨0x32f5, 0x32fa, 1, -525⟩, ⟨0x32fb, 0x32fe, 1, -524⟩, ⟨0xa640, 0xa66c, 2, 1⟩,
   ⟨0xa680, 0xa69a, 2, 1⟩, ⟨0xa722, 0xa72e, 2, 1⟩, ⟨0xa732, 0xa76e, 2, 1⟩, ⟨0xa77e, 0xa786, 2, 1⟩,
   ⟨0xa796, 0xa7a8, 2, 1⟩, ⟨0xa7b4, 0xa7c2, 2, 1⟩, ⟨0xa7cc, 0xa7da, 2, 1⟩,
   ⟨0xab70, 0xabbf, 1, -38864⟩, ⟨0xfb24, 0xfb26, 1, -62793⟩, ⟨0xfe41, 0xfe44, 1, -52789⟩,
   ⟨0xff01, 0xff20, 1, -65248⟩, ⟨0xff21, 0xff3a, 1, -65216⟩, ⟨0xff3b, 0xff5e, 1, -65248⟩,
   ⟨0xff85, 0xff8a, 1, -52923⟩, ⟨0xff8f, 0xff93, 1, -52913⟩, ⟨0xff96, 0xff9b, 1, -52910⟩,
   ⟨0xffa7, 0xffa9, 1, -61092⟩, ⟨0xffaa, 0xffaf, 1, -60922⟩, ⟨0xffb1, 0xffb3, 1, -61099⟩,
   ⟨0xffb5, 0xffbe, 1, -61100⟩, ⟨0xffc2, 0xffc7, 1, -61025⟩, ⟨0xffca, 0xffcf, 1, -61027⟩,
   ⟨0xffd2, 0xffd7, 1, -61029⟩, ⟨0xffda, 0xffdc, 1, -61031⟩, ⟨0xffe9, 0xffec, 1, -56921⟩,
   ⟨0x10400, 0x10427, 1, 40⟩, ⟨0x104b0, 0x104d3, 1, 40⟩, ⟨0x10570, 0x10594, 2, 39⟩,
   ⟨0x10571, 0x10579, 2, 39⟩, ⟨0x1057d, 0x10589, 2, 39⟩, ⟨0x1058d, 0x10591, 2, 39⟩,
   ⟨0x107b6, 0x107b8, 1, -67062⟩, ⟨0x10c80, 0x10cb2, 1, 64⟩, ⟨0x10d50, 0x10d65, 1, 32⟩,
   ⟨0x118a0, 0x118bf, 1, 32⟩, ⟨0x16e40, 0x16e5f, 1, 32⟩, ⟨0x16ea0, 0x16eb8, 1, 27⟩,
   ⟨0x1ccd6, 0x1ccef, 1, -117877⟩, ⟨0x1ccf0, 0x1ccf9, 1, -117952⟩, ⟨0x1d400, 0x1d419, 1, -119711⟩,
   ⟨0x1d41a, 0x1d433, 1, -119737⟩, ⟨0x1d434, 0x1d44d, 1, -119763⟩, ⟨0x1d44e, 0x1d466, 2, -119789⟩,
   ⟨0x1d44f, 0x1d453, 2, -119789⟩, ⟨0x1d457, 0x1d467, 2, -119789⟩, ⟨0x1d468, 0x1d481, 1, -119815⟩,
   ⟨0x1d482, 0x1d49b, 1, -119841⟩, ⟨0x1d4a9, 0x1d4ac, 1, -119867⟩, ⟨0x1d4ae, 0x1d4b5, 1, -119867⟩,
   ⟨0x1d4b6, 0x1d4b9, 1, -119893⟩, ⟨0x1d4bb, 0x1d4cf, 2, -119893⟩, ⟨0x1d4be, 0x1d4c2, 2, -119893⟩,
   ⟨0x1d4c6, 0x1d4ce, 2, -119893⟩, ⟨0x1d4d0, 0x1d4e9, 1, -119919⟩, ⟨0x1d4ea, 0x1d503, 1, -119945⟩,
   ⟨0x1d505, 0x1d509, 2, -119971⟩, ⟨0x1d50d, 0x1d514, 1, -119971⟩, ⟨0x1d516, 0x1d51c, 1, -119971⟩,
   ⟨0x1d51e, 0x1d537, 1, -119997⟩, ⟨0x1d539, 0x1d53d, 2, -120023⟩, ⟨0x1d53c, 0x1d546, 2, -120023⟩,
   ⟨0x1d54a, 0x1d550, 1, -120023⟩, ⟨0x1d552, 0x1d56b, 1, -120049⟩, ⟨0x1d56c, 0x1d585, 1, -120075⟩,
   ⟨0x1d586, 0x1d59f, 1, -120101⟩, ⟨0x1d5a0, 0x1d5b9, 1, -120127⟩, ⟨0x1d5ba, 0x1d5d3, 1, -120153⟩,
   ⟨0x1d5d4, 0x1d5ed, 1, -120179⟩, ⟨0x1d5ee, 0x1d607, 1, -120205⟩, ⟨0x1d608, 0x1d621, 1, -120231⟩,
   ⟨0x1d622, 0x1d63b, 1, -120257⟩, ⟨0x1d63c, 0x1d655, 1, -120283⟩, ⟨0x1d656, 0x1d66f, 1, -120309⟩,
   ⟨0x1d670, 0x1d689, 1, -120335⟩, ⟨0x1d68a, 0x1d6a3, 1, -120361⟩, ⟨0x1d6a8, 0x1d6b8, 1, -119543⟩,
   ⟨0x1d6ba, 0x1d6c0, 1, -119543⟩, ⟨0x1d6c2, 0x1d6d2, 1, -119569⟩, ⟨0x1d6d4, 0x1d6da, 1, -119569⟩,
   ⟨0x1d6e2, 0x1d6f2, 1, -119601⟩, ⟨0x1d6f4, 0x1d6fa, 1, -119601⟩, ⟨0x1d6fc, 0x1d70c, 1, -119627⟩,
   ⟨0x1d70e, 0x1d714, 1, -119627⟩, ⟨0x1d71c, 0x1d72c, 1, -119659⟩, ⟨0x1d72e, 0x1d734, 1, -119659⟩,
   ⟨0x1d736, 0x1d746, 1, -119685⟩, ⟨0x1d748, 0x1d74e, 1, -119685⟩, ⟨0x1d756, 0x1d766, 1, -119717⟩,
   ⟨0x1d768, 0x1d76e, 1, -119717⟩, ⟨0x1d770, 0x1d780, 1, -119743⟩, ⟨0x1d782, 0x1d788, 1, -119743⟩,
   ⟨0x1d790, 0x1d7a0, 1, -119775⟩, ⟨0x1d7a2, 0x1d7a8, 1, -119775⟩, ⟨0x1d7aa, 0x1d7ba, 1, -119801⟩,
   ⟨0x1d7bc, 0x1d7c2, 1, -119801⟩, ⟨0x1d7ce, 0x1d7d7, 1, -120734⟩, ⟨0x1d7d8, 0x1d7e1, 1, -120744⟩,
   ⟨0x1d7e2, 0x1d7eb, 1, -120754⟩, ⟨0x1d7ec, 0x1d7f5, 1, -120764⟩, ⟨0x1d7f6, 0x1d7ff, 1, -120774⟩,
   ⟨0x1e030, 0x1e038, 1, -121856⟩, ⟨0x1e039, 0x1e03b, 1, -121855⟩, ⟨0x1e03c, 0x1e046, 1, -121854⟩,
   ⟨0x1e051, 0x1e059, 1, -121889⟩, ⟨0x1e05f, 0x1e064, 1, -121884⟩, ⟨0x1e900, 0x1e921, 1, 34⟩,
   ⟨0x1ee0a, 0x1ee0d, 1, -124871⟩, ⟨0x1ee2a, 0x1ee2d, 1, -124903⟩, ⟨0x1ee8b, 0x1ee8d, 1, -124999⟩,
   ⟨0x1eeab, 0x1eead, 1, -125031⟩, ⟨0x1f130, 0x1f149, 1, -127183⟩, ⟨0x1fbf0, 0x1fbf9, 1, -129984⟩]

def substitutions : List Substitution :=
  [⟨0xa0, 0xa0, " "⟩, ⟨0xa8, 0xaa, " \u0308||a"⟩,
   ⟨0xaf, 0xbe, " \u0304|||2|3| \u0301|μ||| \u0327|1|o||1⁄4|1⁄2|3⁄4"⟩,
   ⟨0x130, 0x136, "i\u0307||ij|ij|ĵ||ķ"⟩, ⟨0x13f, 0x140, "l·|l·"⟩, ⟨0x149, 0x149, "ʼn"⟩,
   ⟨0x178, 0x178, "ÿ"⟩, ⟨0x17f, 0x198, "s||ɓ|ƃ||ƅ||ɔ|ƈ||ɖ|ɗ|ƌ|||ǝ|ə|ɛ|ƒ||ɠ|ɣ||ɩ|ɨ|ƙ"⟩,
   ⟨0x19c, 0x19f, "ɯ|ɲ||ɵ"⟩, ⟨0x1a6, 0x1b8, "ʀ|ƨ||ʃ|||ƭ||ʈ|ư||ʊ|ʋ|ƴ||ƶ||ʒ|ƹ"⟩,
   ⟨0x1bc, 0x1bc, "ƽ"⟩, ⟨0x1c4, 0x1cc, "dž|dž|dž|lj|lj|lj|nj|nj|nj"⟩,
   ⟨0x1f1, 0x1f7, "dz|dz|dz|ǵ||ƕ|ƿ"⟩, ⟨0x220, 0x220, "ƞ"⟩, ⟨0x23a, 0x245, "ⱥ|ȼ||ƚ|ⱦ|||ɂ||ƀ|ʉ|ʌ"⟩,
   ⟨0x2b0, 0x2b8, "h|ɦ|j|r|ɹ|ɻ|ʁ|w|y"⟩,
   ⟨0x2d8, 0x2e4, " \u0306| \u0307| \u030a| \u0328| \u0303| \u030b|||ɣ|l|s|x|ʕ"⟩,
   ⟨0x340, 0x345, "\u0300|\u0301||\u0313|\u0308\u0301|ι"⟩, ⟨0x370, 0x376, "ͱ||ͳ||\u02b9||ͷ"⟩,
   ⟨0x37a, 0x37a, " ι"⟩, ⟨0x37e, 0x37f, ";|ϳ"⟩, ⟨0x384, 0x387, " \u0301| \u0308\u0301|ά|·"⟩,
   ⟨0x38c, 0x38f, "ό||ύ|ώ"⟩, ⟨0x3cf, 0x3d6, "ϗ|β|θ|υ|ύ|ϋ|φ|π"⟩,
   ⟨0x3f0, 0x3fa, "κ|ρ|σ||θ|ε||ϸ||σ|ϻ"⟩, ⟨0x4c0, 0x4c0, "ӏ"⟩, ⟨0x587, 0x587, "եւ"⟩,
   ⟨0x675, 0x678, "\u0627\u0674|\u0648\u0674|\u06c7\u0674|\u064a\u0674"⟩,
   ⟨0x958, 0x95f, "क\u093c|ख\u093c|ग\u093c|ज\u093c|ड\u093c|ढ\u093c|फ\u093c|य\u093c"⟩,
   ⟨0x9dc, 0x9df, "ড\u09bc|ঢ\u09bc||য\u09bc"⟩, ⟨0xa33, 0xa36, "ਲ\u0a3c|||ਸ\u0a3c"⟩,
   ⟨0xa59, 0xa5e, "ਖ\u0a3c|ਗ\u0a3c|ਜ\u0a3c|||ਫ\u0a3c"⟩, ⟨0xb5c, 0xb5d, "ଡ\u0b3c|ଢ\u0b3c"⟩,
   ⟨0xe33, 0xe33, "\u0e4dา"⟩, ⟨0xeb3, 0xeb3, "\u0ecdາ"⟩, ⟨0xedc, 0xedd, "ຫນ|ຫມ"⟩,
   ⟨0xf0c, 0xf0c, "་"⟩, ⟨0xf43, 0xf43, "ག\u0fb7"⟩, ⟨0xf4d, 0xf4d, "ཌ\u0fb7"⟩,
   ⟨0xf52, 0xf52, "ད\u0fb7"⟩, ⟨0xf57, 0xf57, "བ\u0fb7"⟩, ⟨0xf5c, 0xf5c, "ཛ\u0fb7"⟩,
   ⟨0xf69, 0xf69, "ཀ\u0fb5"⟩,
   ⟨0xf73, 0xf77, "\u0f71\u0f72||\u0f71\u0f74|\u0fb2\u0f80|\u0fb2\u0f71\u0f80"⟩,
   ⟨0xf78, 0xf79, "\u0fb3\u0f80|\u0fb3\u0f71\u0f80"⟩, ⟨0xf81, 0xf81, "\u0f71\u0f80"⟩,
   ⟨0xf93, 0xf93, "\u0f92\u0fb7"⟩, ⟨0xf9d, 0xf9d, "\u0f9c\u0fb7"⟩, ⟨0xfa2, 0xfa2, "\u0fa1\u0fb7"⟩,
   ⟨0xfa7, 0xfa7, "\u0fa6\u0fb7"⟩, ⟨0xfac, 0xfac, "\u0fab\u0fb7"⟩, ⟨0xfb9, 0xfb9, "\u0f90\u0fb5"⟩,
   ⟨0x10c7, 0x10c7, "ⴧ"⟩, ⟨0x10cd, 0x10cd, "ⴭ"⟩, ⟨0x10fc, 0x10fc, "ნ"⟩,
   ⟨0x1c80, 0x1c89, "в|д|о|с|т|т|ъ|ѣ|ꙋ|ᲊ"⟩, ⟨0x1d2c, 0x1d32, "a|æ|b||d||ǝ"⟩,
   ⟨0x1d3c, 0x1d5c, "o|ȣ|p|r|t|u|w|a|ɐ|ɑ|ᴂ|b|d|e|ə|ɛ|ɜ|g||k|m|ŋ|o|ɔ|ᴖ|ᴗ|p|t|u|ᴝ|ɯ|v|ᴥ"⟩,
   ⟨0x1d60, 0x1d6a, "φ|χ|i|r|u|v|β|γ|ρ|φ|χ"⟩, ⟨0x1d78, 0x1d78, "н"⟩,
   ⟨0x1d9b, 0x1da3, "ɒ|c|ɕ|ð|ɜ|f|ɟ|ɡ|ɥ"⟩, ⟨0x1da7, 0x1dad, "ᵻ|ʝ|ɭ|ᶅ|ʟ|ɱ|ɰ"⟩,
   ⟨0x1db2, 0x1dbb, "ɸ|ʂ|ʃ|ƫ|ʉ|ʊ|ᴜ|ʋ|ʌ|z"⟩, ⟨0x1dbf, 0x1dbf, "θ"⟩, ⟨0x1e9a, 0x1e9e, "aʾ|ṡ|||ß"⟩,
   ⟨0x1f71, 0x1f8e, "ά||έ||ή||ί||ό||ύ||ώ|||ἀι|ἁι|ἂι|ἃι|ἄι|ἅι|ἆι|ἇι|ἀι|ἁι|ἂι|ἃι|ἄι|ἅι|ἆι"⟩,
   ⟨0x1f8f, 0x1fa5, "ἇι|ἠι|ἡι|ἢι|ἣι|ἤι|ἥι|ἦι|ἧι|ἠι|ἡι|ἢι|ἣι|ἤι|ἥι|ἦι|ἧι|ὠι|ὡι|ὢι|ὣι|ὤι|ὥι"⟩,
   ⟨0x1fa6, 0x1fbe, "ὦι|ὧι|ὠι|ὡι|ὢι|ὣι|ὤι|ὥι|ὦι|ὧι|||ὰι|αι|άι|||ᾶι|ᾰ|ᾱ|ὰ|ά|αι| \u0313|ι"⟩,
   ⟨0x1fbf, 0x1fcd, " \u0313| \u0342| \u0308\u0342|ὴι|ηι|ήι|||ῆι|ὲ|έ|ὴ|ή|ηι| \u0313\u0300"⟩,
   ⟨0x1fce, 0x1fcf, " \u0313\u0301| \u0313\u0342"⟩, ⟨0x1fd3, 0x1fd3, "ΐ"⟩,
   ⟨0x1fd8, 0x1fdf, "ῐ|ῑ|ὶ|ί|| \u0314\u0300| \u0314\u0301| \u0314\u0342"⟩, ⟨0x1fe3, 0x1fe3, "ΰ"⟩,
   ⟨0x1fe8, 0x1ffb, "ῠ|ῡ|ὺ|ύ|ῥ| \u0308\u0300| \u0308\u0301|\x60|||ὼι|ωι|ώι|||ῶι|ὸ|ό|ὼ|ώ"⟩,
   ⟨0x1ffc, 0x200a, "ωι| \u0301| \u0314|| | | | | | | | | | | "⟩, ⟨0x2011, 0x2011, "‐"⟩,
   ⟨0x2017, 0x2017, " \u0333"⟩, ⟨0x202f, 0x202f, " "⟩, ⟨0x2033, 0x2037, "′′|′′′||‵‵|‵‵‵"⟩,
   ⟨0x203c, 0x203e, "!!|| \u0305"⟩, ⟨0x2047, 0x2049, "??|?!|!?"⟩, ⟨0x2057, 0x2057, "′′′′"⟩,
   ⟨0x205f, 0x205f, " "⟩, ⟨0x2070, 0x2071, "0|i"⟩, ⟨0x207a, 0x207f, "+|−|=|(|)|n"⟩,
   ⟨0x208a, 0x2095, "+|−|=|(|)||a|e|o|x|ə|h"⟩, ⟨0x209a, 0x209c, "p|s|t"⟩, ⟨0x20a8, 0x20a8, "rs"⟩,
   ⟨0x2100, 0x2116, "a/c|a/s|c|°c||c/o|c/u|ɛ||°f|g|h|h|h|h|ħ|i|i|l|l||n|no"⟩,
   ⟨0x211c, 0x2134, "r|r|||sm|tel|tm||z||ω||z||k|å|b|c||e|e|f|ⅎ|m|o"⟩,
   ⟨0x2139, 0x2140, "i||fax|π|γ|γ|π|∑"⟩, ⟨0x2145, 0x2149, "d|d|e|i|j"⟩,
   ⟨0x2150, 0x2161, "1⁄7|1⁄9|1⁄10|1⁄3|2⁄3|1⁄5|2⁄5|3⁄5|4⁄5|1⁄6|5⁄6|1⁄8|3⁄8|5⁄8|7⁄8|1⁄|i|ii"⟩,
   ⟨0x2162, 0x2177, "iii|iv|v|vi|vii|viii|ix|x|xi|xii|l|c|d|m|i|ii|iii|iv|v|vi|vii|viii"⟩,
   ⟨0x2178, 0x217f, "ix|x|xi|xii|l|c|d|m"⟩, ⟨0x2183, 0x2183, "ↄ"⟩, ⟨0x2189, 0x2189, "0⁄3"⟩,
   ⟨0x222c, 0x2230, "∫∫|∫∫∫||∮∮|∮∮∮"⟩, ⟨0x2329, 0x232a, "〈|〉"⟩,
   ⟨0x2469, 0x247c, "10|11|12|13|14|15|16|17|18|19|20|(1)|(2)|(3)|(4)|(5)|(6)|(7)|(8)|(9)"⟩,
   ⟨0x247d, 0x2487, "(10)|(11)|(12)|(13)|(14)|(15)|(16)|(17)|(18)|(19)|(20)"⟩,
   ⟨0x249c, 0x24ac, "(a)|(b)|(c)|(d)|(e)|(f)|(g)|(h)|(i)|(j)|(k)|(l)|(m)|(n)|(o)|(p)|(q)"⟩,
   ⟨0x24ad, 0x24b5, "(r)|(s)|(t)|(u)|(v)|(w)|(x)|(y)|(z)"⟩, ⟨0x24ea, 0x24ea, "0"⟩,
   ⟨0x2a0c, 0x2a0c, "∫∫∫∫"⟩, ⟨0x2a74, 0x2a76, "::=|==|==="⟩, ⟨0x2adc, 0x2adc, "⫝\u0338"⟩,
   ⟨0x2c60, 0x2c64, "ⱡ||ɫ|ᵽ|ɽ"⟩, ⟨0x2c6d, 0x2c75, "ɑ|ɱ|ɐ|ɒ||ⱳ|||ⱶ"⟩, ⟨0x2c7c, 0x2c7f, "j|v|ȿ|ɀ"⟩,
   ⟨0x2ceb, 0x2ced, "ⳬ||ⳮ"⟩, ⟨0x2cf2, 0x2cf2, "ⳳ"⟩, ⟨0x2d6f, 0x2d6f, "ⵡ"⟩, ⟨0x2e9f, 0x2e9f, "母"⟩,
   ⟨0x2ef3, 0x2ef3, "龟"⟩,
   ⟨0x2f00, 0x2f21, "一|丨|丶|丿|乙|亅|二|亠|人|儿|入|八|冂|冖|冫|几|凵|刀|力|勹|匕|匚|匸|十|卜|卩|厂|厶|又|口|囗|土|士|夂"⟩,
   ⟨0x2f22, 0x2f43, "夊|夕|大|女|子|宀|寸|小|尢|尸|屮|山|巛|工|己|巾|干|幺|广|廴|廾|弋|弓|彐|彡|彳|心|戈|戶|手|支|攴|文|斗"⟩,
   ⟨0x2f44, 0x2f65, "斤|方|无|日|曰|月|木|欠|止|歹|殳|毋|比|毛|氏|气|水|火|爪|父|爻|爿|片|牙|牛|犬|玄|玉|瓜|瓦|甘|生|用|田"⟩,
   ⟨0x2f66, 0x2f87, "疋|疒|癶|白|皮|皿|目|矛|矢|石|示|禸|禾|穴|立|竹|米|糸|缶|网|羊|羽|老|而|耒|耳|聿|肉|臣|自|至|臼|舌|舛"⟩,
   ⟨0x2f88, 0x2fa9, "舟|艮|色|艸|虍|虫|血|行|衣|襾|見|角|言|谷|豆|豕|豸|貝|赤|走|足|身|車|辛|辰|辵|邑|酉|釆|里|金|長|門|阜"⟩,
   ⟨0x2faa, 0x2fcb, "隶|隹|雨|靑|非|面|革|韋|韭|音|頁|風|飛|食|首|香|馬|骨|高|髟|鬥|鬯|鬲|鬼|魚|鳥|鹵|鹿|麥|麻|黃|黍|黑|黹"⟩,
   ⟨0x2fcc, 0x2fd5, "黽|鼎|鼓|鼠|鼻|齊|齒|龍|龜|龠"⟩, ⟨0x3000, 0x3002, " ||."⟩,
   ⟨0x3036, 0x303a, "〒||十|卄|卅"⟩, ⟨0x309b, 0x309f, " \u3099| \u309a|||より"⟩, ⟨0x30ff, 0x30ff, "コト"⟩,
   ⟨0x3131, 0x3136, "ᄀ|ᄁ|ᆪ|ᄂ|ᆬ|ᆭ"⟩, ⟨0x3140, 0x3140, "ᄚ"⟩, ⟨0x3144, 0x3144, "ᄡ"⟩,
   ⟨0x3165, 0x3177, "ᄔ|ᄕ|ᇇ|ᇈ|ᇌ|ᇎ|ᇓ|ᇗ|ᇙ|ᄜ|ᇝ|ᇟ|ᄝ|ᄞ|ᄠ|ᄢ|ᄣ|ᄧ|ᄩ"⟩, ⟨0x317d, 0x3183, "ᄲ|ᄶ|ᅀ|ᅇ|ᅌ|ᇱ|ᇲ"⟩,
   ⟨0x3187, 0x318e, "ᆄ|ᆅ|ᆈ|ᆑ|ᆒ|ᆔ|ᆞ|ᆡ"⟩, ⟨0x3192, 0x319f, "一|二|三|四|上|中|下|甲|乙|丙|丁|天|地|人"⟩,
   ⟨0x3200, 0x3210, "(ᄀ)|(ᄂ)|(ᄃ)|(ᄅ)|(ᄆ)|(ᄇ)|(ᄉ)|(ᄋ)|(ᄌ)|(ᄎ)|(ᄏ)|(ᄐ)|(ᄑ)|(ᄒ)|(가)|(나)|(다)"⟩,
   ⟨0x3211, 0x3221, "(라)|(마)|(바)|(사)|(아)|(자)|(차)|(카)|(타)|(파)|(하)|(주)|(오전)|(오후)||(一)|(二)"⟩,
   ⟨0x3222, 0x3232, "(三)|(四)|(五)|(六)|(七)|(八)|(九)|(十)|(月)|(火)|(水)|(木)|(金)|(土)|(日)|(株)|(有)"⟩,
   ⟨0x3233, 0x3243, "(社)|(名)|(特)|(財)|(祝)|(労)|(代)|(呼)|(学)|(監)|(企)|(資)|(協)|(祭)|(休)|(自)|(至)"⟩,
   ⟨0x3244, 0x3247, "問|幼|文|箏"⟩,
   ⟨0x3250, 0x3262, "pte|21|22|23|24|25|26|27|28|29|30|31|32|33|34|35|ᄀ|ᄂ|ᄃ"⟩,
   ⟨0x3266, 0x3268, "ᄉ|ᄋ|ᄌ"⟩,
   ⟨0x326e, 0x328f, "가|나|다|라|마|바|사|아|자|차|카|타|파|하|참고|주의|우||一|二|三|四|五|六|七|八|九|十|月|火|水|木|金|土"⟩,
   ⟨0x3290, 0x32b1, "日|株|有|社|名|特|財|祝|労|秘|男|女|適|優|印|注|項|休|写|正|上|中|下|左|右|医|宗|学|監|企|資|協|夜|36"⟩,
   ⟨0x32b2, 0x32c8, "37|38|39|40|41|42|43|44|45|46|47|48|49|50|1月|2月|3月|4月|5月|6月|7月|8月|9月"⟩,
   ⟨0x32c9, 0x32e3, "10月|11月|12月|hg|erg|ev|ltd|ア|イ|ウ|エ|オ|カ|キ|ク|ケ|コ|サ|シ|ス|セ|ソ|タ|チ|ツ|テ|ト"⟩,
   ⟨0x32ea, 0x32ed, "ヒ|フ|ヘ|ホ"⟩, ⟨0x32f3, 0x32f4, "ヤ|ユ"⟩,
   ⟨0x32ff, 0x330d, "令和|アパート|アルファ|アンペア|アール|イニング|インチ|ウォン|エスクード|エーカー|オンス|オーム|カイリ|カラット|カロリー"⟩,
   ⟨0x330e, 0x331b, "ガロン|ガンマ|ギガ|ギニー|キュリー|ギルダー|キロ|キログラム|キロメートル|キロワット|グラム|グラムトン|クルゼイロ|クローネ"⟩,
   ⟨0x331c, 0x332b, "ケース|コルナ|コーポ|サイクル|サンチーム|シリング|センチ|セント|ダース|デシ|ドル|トン|ナノ|ノット|ハイツ|パーセント"⟩,
   ⟨0x332c, 0x333a, "パーツ|バーレル|ピアストル|ピクル|ピコ|ビル|ファラッド|フィート|ブッシェル|フラン|ヘクタール|ペソ|ペニヒ|ヘルツ|ペンス"⟩,
   ⟨0x333b, 0x334a, "ページ|ベータ|ポイント|ボルト|ホン|ポンド|ホール|ホーン|マイクロ|マイル|マッハ|マルク|マンション|ミクロン|ミリ|ミリバール"⟩,
   ⟨0x334b, 0x335b, "メガ|メガトン|メートル|ヤード|ヤール|ユアン|リットル|リラ|ルピー|ルーブル|レム|レントゲン|ワット|0点|1点|2点|3点"⟩,
   ⟨0x335c, 0x336d, "4点|5点|6点|7点|8点|9点|10点|11点|12点|13点|14点|15点|16点|17点|18点|19点|20点|21点"⟩,
   ⟨0x336e, 0x3381, "22点|23点|24点|hpa|da|au|bar|ov|pc|dm|dm2|dm3|iu|平成|昭和|大正|明治|株式会社|pa|na"⟩,
   ⟨0x3382, 0x3395, "μa|ma|ka|kb|mb|gb|cal|kcal|pf|nf|μf|μg|mg|kg|hz|khz|mhz|ghz|thz|μl"⟩,
   ⟨0x3396, 0x33a9, "ml|dl|kl|fm|nm|μm|mm|cm|km|mm2|cm2|m2|km2|mm3|cm3|m3|km3|m∕s|m∕s2|pa"⟩,
   ⟨0x33aa, 0x33bc, "kpa|mpa|gpa|rad|rad∕s|rad∕s2|ps|ns|μs|ms|pv|nv|μv|mv|kv|mv|pw|nw|μw"⟩,
   ⟨0x33bd, 0x33d3, "mw|kw|mw|kω|mω||bq|cc|cd|c∕kg||db|gy|ha|hp|in|kk|km|kt|lm|ln|log|lx"⟩,
   ⟨0x33d4, 0x33e8, "mb|mil|mol|ph||ppm|pr|sr|sv|wb|v∕m|a∕m|1日|2日|3日|4日|5日|6日|7日|8日|9日"⟩,
   ⟨0x33e9, 0x33f9, "10日|11日|12日|13日|14日|15日|16日|17日|18日|19日|20日|21日|22日|23日|24日|25日|26日"⟩,
   ⟨0x33fa, 0x33ff, "27日|28日|29日|30日|31日|gal"⟩, ⟨0xa69c, 0xa69d, "ъ|ь"⟩, ⟨0xa770, 0xa770, "ꝯ"⟩,
   ⟨0xa779, 0xa77d, "ꝺ||ꝼ||ᵹ"⟩, ⟨0xa78b, 0xa792, "ꞌ||ɥ|||ꞑ||ꞓ"⟩,
   ⟨0xa7aa, 0xa7b3, "ɦ|ɜ|ɡ|ɬ|ɪ||ʞ|ʇ|ʝ|ꭓ"⟩, ⟨0xa7c4, 0xa7cb, "ꞔ|ʂ|ᶎ|ꟈ||ꟊ||ɤ"⟩,
   ⟨0xa7dc, 0xa7dc, "ƛ"⟩, ⟨0xa7f1, 0xa7f9, "s|c|f|q|ꟶ|||ħ|œ"⟩, ⟨0xab5c, 0xab5f, "ꜧ|ꬷ|ɫ|ꭒ"⟩,
   ⟨0xab69, 0xab69, "ʍ"⟩,
   ⟨0xf900, 0xf921, "豈|更|車|賈|滑|串|句|龜|龜|契|金|喇|奈|懶|癩|羅|蘿|螺|裸|邏|樂|洛|烙|珞|落|酪|駱|亂|卵|欄|爛|蘭|鸞|嵐"⟩,
   ⟨0xf922, 0xf943, "濫|藍|襤|拉|臘|蠟|廊|朗|浪|狼|郎|來|冷|勞|擄|櫓|爐|盧|老|蘆|虜|路|露|魯|鷺|碌|祿|綠|菉|錄|鹿|論|壟|弄"⟩,
   ⟨0xf944, 0xf965, "籠|聾|牢|磊|賂|雷|壘|屢|樓|淚|漏|累|縷|陋|勒|肋|凜|凌|稜|綾|菱|陵|讀|拏|樂|諾|丹|寧|怒|率|異|北|磻|便"⟩,
   ⟨0xf966, 0xf987, "復|不|泌|數|索|參|塞|省|葉|說|殺|辰|沈|拾|若|掠|略|亮|兩|凉|梁|糧|良|諒|量|勵|呂|女|廬|旅|濾|礪|閭|驪"⟩,
   ⟨0xf988, 0xf9a9, "麗|黎|力|曆|歷|轢|年|憐|戀|撚|漣|煉|璉|秊|練|聯|輦|蓮|連|鍊|列|劣|咽|烈|裂|說|廉|念|捻|殮|簾|獵|令|囹"⟩,
   ⟨0xf9aa, 0xf9cb, "寧|嶺|怜|玲|瑩|羚|聆|鈴|零|靈|領|例|禮|醴|隸|惡|了|僚|寮|尿|料|樂|燎|療|蓼|遼|龍|暈|阮|劉|杻|柳|流|溜"⟩,
   ⟨0xf9cc, 0xf9ed, "琉|留|硫|紐|類|六|戮|陸|倫|崙|淪|輪|律|慄|栗|率|隆|利|吏|履|易|李|梨|泥|理|痢|罹|裏|裡|里|離|匿|溺|吝"⟩,
   ⟨0xf9ee, 0xfa10, "燐|璘|藺|隣|鱗|麟|林|淋|臨|立|笠|粒|狀|炙|識|什|茶|刺|切|度|拓|糖|宅|洞|暴|輻|行|降|見|廓|兀|嗀|||塚"⟩,
   ⟨0xfa12, 0xfa26, "晴|||凞|猪|益|礼|神|祥|福|靖|精|羽||蘒||諸|||逸|都"⟩,
   ⟨0xfa2a, 0xfa4b, "飯|飼|館|鶴|郞|隷|侮|僧|免|勉|勤|卑|喝|嘆|器|塀|墨|層|屮|悔|慨|憎|懲|敏|既|暑|梅|海|渚|漢|煮|爫|琢|碑"⟩,
   ⟨0xfa4c, 0xfa6d, "社|祉|祈|祐|祖|祝|禍|禎|穀|突|節|練|縉|繁|署|者|臭|艹|艹|著|褐|視|謁|謹|賓|贈|辶|逸|難|響|頻|恵|𤋮|舘"⟩,
   ⟨0xfa70, 0xfa91, "並|况|全|侀|充|冀|勇|勺|喝|啕|喙|嗢|塚|墳|奄|奔|婢|嬨|廒|廙|彩|徭|惘|慎|愈|憎|慠|懲|戴|揄|搜|摒|敖|晴"⟩,
   ⟨0xfa92, 0xfab3, "朗|望|杖|歹|殺|流|滛|滋|漢|瀞|煮|瞧|爵|犯|猪|瑱|甆|画|瘝|瘟|益|盛|直|睊|着|磌|窱|節|类|絛|練|缾|者|荒"⟩,
   ⟨0xfab4, 0xfad5, "華|蝹|襁|覆|視|調|諸|請|謁|諾|諭|謹|變|贈|輸|遲|醙|鉶|陼|難|靖|韛|響|頋|頻|鬒|龜|𢡊|𢡄|𣏕|㮝|䀘|䀹|𥉉"⟩,
   ⟨0xfad6, 0xfad9, "𥳐|𧻓|齃|龎"⟩, ⟨0xfb00, 0xfb06, "ff|fi|fl|ffi|ffl|st|st"⟩,
   ⟨0xfb13, 0xfb17, "մն|մե|մի|վն|մխ"⟩,
   ⟨0xfb1d, 0xfb23, "\u05d9\u05b4||\u05f2\u05b7|\u05e2|\u05d0|\u05d3|\u05d4"⟩,
   ⟨0xfb27, 0xfb2c, "\u05e8|\u05ea|+|\u05e9\u05c1|\u05e9\u05c2|\u05e9\u05bc\u05c1"⟩,
   ⟨0xfb2d, 0xfb30, "\u05e9\u05bc\u05c2|\u05d0\u05b7|\u05d0\u05b8|\u05d0\u05bc"⟩,
   ⟨0xfb31, 0xfb35, "\u05d1\u05bc|\u05d2\u05bc|\u05d3\u05bc|\u05d4\u05bc|\u05d5\u05bc"⟩,
   ⟨0xfb36, 0xfb3b, "\u05d6\u05bc||\u05d8\u05bc|\u05d9\u05bc|\u05da\u05bc|\u05db\u05bc"⟩,
   ⟨0xfb3c, 0xfb43, "\u05dc\u05bc||\u05de\u05bc||\u05e0\u05bc|\u05e1\u05bc||\u05e3\u05bc"⟩,
   ⟨0xfb44, 0xfb49, "\u05e4\u05bc||\u05e6\u05bc|\u05e7\u05bc|\u05e8\u05bc|\u05e9\u05bc"⟩,
   ⟨0xfb4a, 0xfb4e, "\u05ea\u05bc|\u05d5\u05b9|\u05d1\u05bf|\u05db\u05bf|\u05e4\u05bf"⟩,
   ⟨0xfb4f, 0xfb57, "\u05d0\u05dc|\u0671|\u0671|\u067b|\u067b|\u067b|\u067b|\u067e|\u067e"⟩,
   ⟨0xfb58, 0xfb60, "\u067e|\u067e|\u0680|\u0680|\u0680|\u0680|\u067a|\u067a|\u067a"⟩,
   ⟨0xfb61, 0xfb69, "\u067a|\u067f|\u067f|\u067f|\u067f|\u0679|\u0679|\u0679|\u0679"⟩,
   ⟨0xfb6a, 0xfb72, "\u06a4|\u06a4|\u06a4|\u06a4|\u06a6|\u06a6|\u06a6|\u06a6|\u0684"⟩,
   ⟨0xfb73, 0xfb7b, "\u0684|\u0684|\u0684|\u0683|\u0683|\u0683|\u0683|\u0686|\u0686"⟩,
   ⟨0xfb7c, 0xfb84, "\u0686|\u0686|\u0687|\u0687|\u0687|\u0687|\u068d|\u068d|\u068c"⟩,
   ⟨0xfb85, 0xfb8d, "\u068c|\u068e|\u068e|\u0688|\u0688|\u0698|\u0698|\u0691|\u0691"⟩,
   ⟨0xfb8e, 0xfb96, "\u06a9|\u06a9|\u06a9|\u06a9|\u06af|\u06af|\u06af|\u06af|\u06b3"⟩,
   ⟨0xfb97, 0xfb9f, "\u06b3|\u06b3|\u06b3|\u06b1|\u06b1|\u06b1|\u06b1|\u06ba|\u06ba"⟩,
   ⟨0xfba0, 0xfba8, "\u06bb|\u06bb|\u06bb|\u06bb|\u06c0|\u06c0|\u06c1|\u06c1|\u06c1"⟩,
   ⟨0xfba9, 0xfbb1, "\u06c1|\u06be|\u06be|\u06be|\u06be|\u06d2|\u06d2|\u06d3|\u06d3"⟩,
   ⟨0xfbd3, 0xfbdb, "\u06ad|\u06ad|\u06ad|\u06ad|\u06c7|\u06c7|\u06c6|\u06c6|\u06c8"⟩,
   ⟨0xfbdc, 0xfbe4, "\u06c8|\u06c7\u0674|\u06cb|\u06cb|\u06c5|\u06c5|\u06c9|\u06c9|\u06d0"⟩,
   ⟨0xfbe5, 0xfbeb, "\u06d0|\u06d0|\u06d0|\u0649|\u0649|\u0626\u0627|\u0626\u0627"⟩,
   ⟨0xfbec, 0xfbf0, "\u0626\u06d5|\u0626\u06d5|\u0626\u0648|\u0626\u0648|\u0626\u06c7"⟩,
   ⟨0xfbf1, 0xfbf5, "\u0626\u06c7|\u0626\u06c6|\u0626\u06c6|\u0626\u06c8|\u0626\u06c8"⟩,
   ⟨0xfbf6, 0xfbfa, "\u0626\u06d0|\u0626\u06d0|\u0626\u06d0|\u0626\u0649|\u0626\u0649"⟩,
   ⟨0xfbfb, 0xfc01, "\u0626\u0649|\u06cc|\u06cc|\u06cc|\u06cc|\u0626\u062c|\u0626\u062d"⟩,
   ⟨0xfc02, 0xfc06, "\u0626\u0645|\u0626\u0649|\u0626\u064a|\u0628\u062c|\u0628\u062d"⟩,
   ⟨0xfc07, 0xfc0b, "\u0628\u062e|\u0628\u0645|\u0628\u0649|\u0628\u064a|\u062a\u062c"⟩,
   ⟨0xfc0c, 0xfc10, "\u062a\u062d|\u062a\u062e|\u062a\u0645|\u062a\u0649|\u062a\u064a"⟩,
   ⟨0xfc11, 0xfc15, "\u062b\u062c|\u062b\u0645|\u062b\u0649|\u062b\u064a|\u062c\u062d"⟩,
   ⟨0xfc16, 0xfc1a, "\u062c\u0645|\u062d\u062c|\u062d\u0645|\u062e\u062c|\u062e\u062d"⟩,
   ⟨0xfc1b, 0xfc1f, "\u062e\u0645|\u0633\u062c|\u0633\u062d|\u0633\u062e|\u0633\u0645"⟩,
   ⟨0xfc20, 0xfc24, "\u0635\u062d|\u0635\u0645|\u0636\u062c|\u0636\u062d|\u0636\u062e"⟩,
   ⟨0xfc25, 0xfc29, "\u0636\u0645|\u0637\u062d|\u0637\u0645|\u0638\u0645|\u0639\u062c"⟩,
   ⟨0xfc2a, 0xfc2e, "\u0639\u0645|\u063a\u062c|\u063a\u0645|\u0641\u062c|\u0641\u062d"⟩,
   ⟨0xfc2f, 0xfc33, "\u0641\u062e|\u0641\u0645|\u0641\u0649|\u0641\u064a|\u0642\u062d"⟩,
   ⟨0xfc34, 0xfc38, "\u0642\u0645|\u0642\u0649|\u0642\u064a|\u0643\u0627|\u0643\u062c"⟩,
   ⟨0xfc39, 0xfc3d, "\u0643\u062d|\u0643\u062e|\u0643\u0644|\u0643\u0645|\u0643\u0649"⟩,
   ⟨0xfc3e, 0xfc42, "\u0643\u064a|\u0644\u062c|\u0644\u062d|\u0644\u062e|\u0644\u0645"⟩,
   ⟨0xfc43, 0xfc47, "\u0644\u0649|\u0644\u064a|\u0645\u062c|\u0645\u062d|\u0645\u062e"⟩,
   ⟨0xfc48, 0xfc4c, "\u0645\u0645|\u0645\u0649|\u0645\u064a|\u0646\u062c|\u0646\u062d"⟩,
   ⟨0xfc4d, 0xfc51, "\u0646\u062e|\u0646\u0645|\u0646\u0649|\u0646\u064a|\u0647\u062c"⟩,
   ⟨0xfc52, 0xfc56, "\u0647\u0645|\u0647\u0649|\u0647\u064a|\u064a\u062c|\u064a\u062d"⟩,
   ⟨0xfc57, 0xfc5b, "\u064a\u062e|\u064a\u0645|\u064a\u0649|\u064a\u064a|\u0630\u0670"⟩,
   ⟨0xfc5c, 0xfc60, "\u0631\u0670|\u0649\u0670| \u064c\u0651| \u064d\u0651| \u064e\u0651"⟩,
   ⟨0xfc61, 0xfc65, " \u064f\u0651| \u0650\u0651| \u0651\u0670|\u0626\u0631|\u0626\u0632"⟩,
   ⟨0xfc66, 0xfc6a, "\u0626\u0645|\u0626\u0646|\u0626\u0649|\u0626\u064a|\u0628\u0631"⟩,
   ⟨0xfc6b, 0xfc6f, "\u0628\u0632|\u0628\u0645|\u0628\u0646|\u0628\u0649|\u0628\u064a"⟩,
   ⟨0xfc70, 0xfc74, "\u062a\u0631|\u062a\u0632|\u062a\u0645|\u062a\u0646|\u062a\u0649"⟩,
   ⟨0xfc75, 0xfc79, "\u062a\u064a|\u062b\u0631|\u062b\u0632|\u062b\u0645|\u062b\u0646"⟩,
   ⟨0xfc7a, 0xfc7e, "\u062b\u0649|\u062b\u064a|\u0641\u0649|\u0641\u064a|\u0642\u0649"⟩,
   ⟨0xfc7f, 0xfc83, "\u0642\u064a|\u0643\u0627|\u0643\u0644|\u0643\u0645|\u0643\u0649"⟩,
   ⟨0xfc84, 0xfc88, "\u0643\u064a|\u0644\u0645|\u0644\u0649|\u0644\u064a|\u0645\u0627"⟩,
   ⟨0xfc89, 0xfc8d, "\u0645\u0645|\u0646\u0631|\u0646\u0632|\u0646\u0645|\u0646\u0646"⟩,
   ⟨0xfc8e, 0xfc92, "\u0646\u0649|\u0646\u064a|\u0649\u0670|\u064a\u0631|\u064a\u0632"⟩,
   ⟨0xfc93, 0xfc97, "\u064a\u0645|\u064a\u0646|\u064a\u0649|\u064a\u064a|\u0626\u062c"⟩,
   ⟨0xfc98, 0xfc9c, "\u0626\u062d|\u0626\u062e|\u0626\u0645|\u0626\u0647|\u0628\u062c"⟩,
   ⟨0xfc9d, 0xfca1, "\u0628\u062d|\u0628\u062e|\u0628\u0645|\u0628\u0647|\u062a\u062c"⟩,
   ⟨0xfca2, 0xfca6, "\u062a\u062d|\u062a\u062e|\u062a\u0645|\u062a\u0647|\u062b\u0645"⟩,
   ⟨0xfca7, 0xfcab, "\u062c\u062d|\u062c\u0645|\u062d\u062c|\u062d\u0645|\u062e\u062c"⟩,
   ⟨0xfcac, 0xfcb0, "\u062e\u0645|\u0633\u062c|\u0633\u062d|\u0633\u062e|\u0633\u0645"⟩,
   ⟨0xfcb1, 0xfcb5, "\u0635\u062d|\u0635\u062e|\u0635\u0645|\u0636\u062c|\u0636\u062d"⟩,
   ⟨0xfcb6, 0xfcba, "\u0636\u062e|\u0636\u0645|\u0637\u062d|\u0638\u0645|\u0639\u062c"⟩,
   ⟨0xfcbb, 0xfcbf, "\u0639\u0645|\u063a\u062c|\u063a\u0645|\u0641\u062c|\u0641\u062d"⟩,
   ⟨0xfcc0, 0xfcc4, "\u0641\u062e|\u0641\u0645|\u0642\u062d|\u0642\u0645|\u0643\u062c"⟩,
   ⟨0xfcc5, 0xfcc9, "\u0643\u062d|\u0643\u062e|\u0643\u0644|\u0643\u0645|\u0644\u062c"⟩,
   ⟨0xfcca, 0xfcce, "\u0644\u062d|\u0644\u062e|\u0644\u0645|\u0644\u0647|\u0645\u062c"⟩,
   ⟨0xfccf, 0xfcd3, "\u0645\u062d|\u0645\u062e|\u0645\u0645|\u0646\u062c|\u0646\u062d"⟩,
   ⟨0xfcd4, 0xfcd8, "\u0646\u062e|\u0646\u0645|\u0646\u0647|\u0647\u062c|\u0647\u0645"⟩,
   ⟨0xfcd9, 0xfcdd, "\u0647\u0670|\u064a\u062c|\u064a\u062d|\u064a\u062e|\u064a\u0645"⟩,
   ⟨0xfcde, 0xfce2, "\u064a\u0647|\u0626\u0645|\u0626\u0647|\u0628\u0645|\u0628\u0647"⟩,
   ⟨0xfce3, 0xfce7, "\u062a\u0645|\u062a\u0647|\u062b\u0645|\u062b\u0647|\u0633\u0645"⟩,
   ⟨0xfce8, 0xfcec, "\u0633\u0647|\u0634\u0645|\u0634\u0647|\u0643\u0644|\u0643\u0645"⟩,
   ⟨0xfced, 0xfcf1, "\u0644\u0645|\u0646\u0645|\u0646\u0647|\u064a\u0645|\u064a\u0647"⟩,
   ⟨0xfcf2, 0xfcf4, "\u0640\u064e\u0651|\u0640\u064f\u0651|\u0640\u0650\u0651"⟩,
   ⟨0xfcf5, 0xfcf9, "\u0637\u0649|\u0637\u064a|\u0639\u0649|\u0639\u064a|\u063a\u0649"⟩,
   ⟨0xfcfa, 0xfcfe, "\u063a\u064a|\u0633\u0649|\u0633\u064a|\u0634\u0649|\u0634\u064a"⟩,
   ⟨0xfcff, 0xfd03, "\u062d\u0649|\u062d\u064a|\u062c\u0649|\u062c\u064a|\u062e\u0649"⟩,
   ⟨0xfd04, 0xfd08, "\u062e\u064a|\u0635\u0649|\u0635\u064a|\u0636\u0649|\u0636\u064a"⟩,
   ⟨0xfd09, 0xfd0d, "\u0634\u062c|\u0634\u062d|\u0634\u062e|\u0634\u0645|\u0634\u0631"⟩,
   ⟨0xfd0e, 0xfd12, "\u0633\u0631|\u0635\u0631|\u0636\u0631|\u0637\u0649|\u0637\u064a"⟩,
   ⟨0xfd13, 0xfd17, "\u0639\u0649|\u0639\u064a|\u063a\u0649|\u063a\u064a|\u0633\u0649"⟩,
   ⟨0xfd18, 0xfd1c, "\u0633\u064a|\u0634\u0649|\u0634\u064a|\u062d\u0649|\u062d\u064a"⟩,
   ⟨0xfd1d, 0xfd21, "\u062c\u0649|\u062c\u064a|\u062e\u0649|\u062e\u064a|\u0635\u0649"⟩,
   ⟨0xfd22, 0xfd26, "\u0635\u064a|\u0636\u0649|\u0636\u064a|\u0634\u062c|\u0634\u062d"⟩,
   ⟨0xfd27, 0xfd2b, "\u0634\u062e|\u0634\u0645|\u0634\u0631|\u0633\u0631|\u0635\u0631"⟩,
   ⟨0xfd2c, 0xfd30, "\u0636\u0631|\u0634\u062c|\u0634\u062d|\u0634\u062e|\u0634\u0645"⟩,
   ⟨0xfd31, 0xfd35, "\u0633\u0647|\u0634\u0647|\u0637\u0645|\u0633\u062c|\u0633\u062d"⟩,
   ⟨0xfd36, 0xfd3a, "\u0633\u062e|\u0634\u062c|\u0634\u062d|\u0634\u062e|\u0637\u0645"⟩,
   ⟨0xfd3b, 0xfd3d, "\u0638\u0645|\u0627\u064b|\u0627\u064b"⟩,
   ⟨0xfd50, 0xfd52, "\u062a\u062c\u0645|\u062a\u062d\u062c|\u062a\u062d\u062c"⟩,
   ⟨0xfd53, 0xfd55, "\u062a\u062d\u0645|\u062a\u062e\u0645|\u062a\u0645\u062c"⟩,
   ⟨0xfd56, 0xfd58, "\u062a\u0645\u062d|\u062a\u0645\u062e|\u062c\u0645\u062d"⟩,
   ⟨0xfd59, 0xfd5b, "\u062c\u0645\u062d|\u062d\u0645\u064a|\u062d\u0645\u0649"⟩,
   ⟨0xfd5c, 0xfd5e, "\u0633\u062d\u062c|\u0633\u062c\u062d|\u0633\u062c\u0649"⟩,
   ⟨0xfd5f, 0xfd61, "\u0633\u0645\u062d|\u0633\u0645\u062d|\u0633\u0645\u062c"⟩,
   ⟨0xfd62, 0xfd64, "\u0633\u0645\u0645|\u0633\u0645\u0645|\u0635\u062d\u062d"⟩,
   ⟨0xfd65, 0xfd67, "\u0635\u062d\u062d|\u0635\u0645\u0645|\u0634\u062d\u0645"⟩,
   ⟨0xfd68, 0xfd6a, "\u0634\u062d\u0645|\u0634\u062c\u064a|\u0634\u0645\u062e"⟩,
   ⟨0xfd6b, 0xfd6d, "\u0634\u0645\u062e|\u0634\u0645\u0645|\u0634\u0645\u0645"⟩,
   ⟨0xfd6e, 0xfd70, "\u0636\u062d\u0649|\u0636\u062e\u0645|\u0636\u062e\u0645"⟩,
   ⟨0xfd71, 0xfd73, "\u0637\u0645\u062d|\u0637\u0645\u062d|\u0637\u0645\u0645"⟩,
   ⟨0xfd74, 0xfd76, "\u0637\u0645\u064a|\u0639\u062c\u0645|\u0639\u0645\u0645"⟩,
   ⟨0xfd77, 0xfd79, "\u0639\u0645\u0645|\u0639\u0645\u0649|\u063a\u0645\u0645"⟩,
   ⟨0xfd7a, 0xfd7c, "\u063a\u0645\u064a|\u063a\u0645\u0649|\u0641\u062e\u0645"⟩,
   ⟨0xfd7d, 0xfd7f, "\u0641\u062e\u0645|\u0642\u0645\u062d|\u0642\u0645\u0645"⟩,
   ⟨0xfd80, 0xfd82, "\u0644\u062d\u0645|\u0644\u062d\u064a|\u0644\u062d\u0649"⟩,
   ⟨0xfd83, 0xfd85, "\u0644\u062c\u062c|\u0644\u062c\u062c|\u0644\u062e\u0645"⟩,
   ⟨0xfd86, 0xfd88, "\u0644\u062e\u0645|\u0644\u0645\u062d|\u0644\u0645\u062d"⟩,
   ⟨0xfd89, 0xfd8b, "\u0645\u062d\u062c|\u0645\u062d\u0645|\u0645\u062d\u064a"⟩,
   ⟨0xfd8c, 0xfd8e, "\u0645\u062c\u062d|\u0645\u062c\u0645|\u0645\u062e\u062c"⟩,
   ⟨0xfd8f, 0xfd93, "\u0645\u062e\u0645|||\u0645\u062c\u062e|\u0647\u0645\u062c"⟩,
   ⟨0xfd94, 0xfd96, "\u0647\u0645\u0645|\u0646\u062d\u0645|\u0646\u062d\u0649"⟩,
   ⟨0xfd97, 0xfd99, "\u0646\u062c\u0645|\u0646\u062c\u0645|\u0646\u062c\u0649"⟩,
   ⟨0xfd9a, 0xfd9c, "\u0646\u0645\u064a|\u0646\u0645\u0649|\u064a\u0645\u0645"⟩,
   ⟨0xfd9d, 0xfd9f, "\u064a\u0645\u0645|\u0628\u062e\u064a|\u062a\u062c\u064a"⟩,
   ⟨0xfda0, 0xfda2, "\u062a\u062c\u0649|\u062a\u062e\u064a|\u062a\u062e\u0649"⟩,
   ⟨0xfda3, 0xfda5, "\u062a\u0645\u064a|\u062a\u0645\u0649|\u062c\u0645\u064a"⟩,
   ⟨0xfda6, 0xfda8, "\u062c\u062d\u0649|\u062c\u0645\u0649|\u0633\u062e\u0649"⟩,
   ⟨0xfda9, 0xfdab, "\u0635\u062d\u064a|\u0634\u062d\u064a|\u0636\u062d\u064a"⟩,
   ⟨0xfdac, 0xfdae, "\u0644\u062c\u064a|\u0644\u0645\u064a|\u064a\u062d\u064a"⟩,
   ⟨0xfdaf, 0xfdb1, "\u064a\u062c\u064a|\u064a\u0645\u064a|\u0645\u0645\u064a"⟩,
   ⟨0xfdb2, 0xfdb4, "\u0642\u0645\u064a|\u0646\u062d\u064a|\u0642\u0645\u062d"⟩,
   ⟨0xfdb5, 0xfdb7, "\u0644\u062d\u0645|\u0639\u0645\u064a|\u0643\u0645\u064a"⟩,
   ⟨0xfdb8, 0xfdba, "\u0646\u062c\u062d|\u0645\u062e\u064a|\u0644\u062c\u0645"⟩,
   ⟨0xfdbb, 0xfdbd, "\u0643\u0645\u0645|\u0644\u062c\u0645|\u0646\u062c\u062d"⟩,
   ⟨0xfdbe, 0xfdc0, "\u062c\u062d\u064a|\u062d\u062c\u064a|\u0645\u062c\u064a"⟩,
   ⟨0xfdc1, 0xfdc3, "\u0641\u0645\u064a|\u0628\u062d\u064a|\u0643\u0645\u0645"⟩,
   ⟨0xfdc4, 0xfdc6, "\u0639\u062c\u0645|\u0635\u0645\u0645|\u0633\u062e\u064a"⟩,
   ⟨0xfdc7, 0xfdc7, "\u0646\u062c\u064a"⟩,
   ⟨0xfdf0, 0xfdf2, "\u0635\u0644\u06d2|\u0642\u0644\u06d2|\u0627\u0644\u0644\u0647"⟩,
   ⟨0xfdf3, 0xfdf4, "\u0627\u0643\u0628\u0631|\u0645\u062d\u0645\u062f"⟩,
   ⟨0xfdf5, 0xfdf6, "\u0635\u0644\u0639\u0645|\u0631\u0633\u0648\u0644"⟩,
   ⟨0xfdf7, 0xfdf9, "\u0639\u0644\u064a\u0647|\u0648\u0633\u0644\u0645|\u0635\u0644\u0649"⟩,
   ⟨0xfdfa, 0xfdfa, "صلى الله عليه وسلم"⟩,
   ⟨0xfdfb, 0xfdfc, "\u062c\u0644 \u062c\u0644\u0627\u0644\u0647|\u0631\u06cc\u0627\u0644"⟩,
   ⟨0xfe10, 0xfe18, ",|、||:|;|!|?|〖|〗"⟩,
   ⟨0xfe31, 0xfe40, "—|–|_|_|(|)|\x7b|\x7d|〔|〕|【|】|《|》|〈|〉"⟩,
   ⟨0xfe47, 0xfe5b, "[|]| \u0305| \u0305| \u0305| \u0305|_|_|_|,|、|||;|:|?|!|—|(|)|\x7b"⟩,
   ⟨0xfe5c, 0xfe6b, "\x7d|〔|〕|#|&|*|+|-|<|>|=||\\|$|%|@"⟩,
   ⟨0xfe70, 0xfe78, " \u064b|\u0640\u064b| \u064c|| \u064d|| \u064e|\u0640\u064e| \u064f"⟩,
   ⟨0xfe79, 0xfe7e, "\u0640\u064f| \u0650|\u0640\u0650| \u0651|\u0640\u0651| \u0652"⟩,
   ⟨0xfe7f, 0xfe87, "\u0640\u0652|\u0621|\u0622|\u0622|\u0623|\u0623|\u0624|\u0624|\u0625"⟩,
   ⟨0xfe88, 0xfe90, "\u0625|\u0626|\u0626|\u0626|\u0626|\u0627|\u0627|\u0628|\u0628"⟩,
   ⟨0xfe91, 0xfe99, "\u0628|\u0628|\u0629|\u0629|\u062a|\u062a|\u062a|\u062a|\u062b"⟩,
   ⟨0xfe9a, 0xfea2, "\u062b|\u062b|\u062b|\u062c|\u062c|\u062c|\u062c|\u062d|\u062d"⟩,
   ⟨0xfea3, 0xfeab, "\u062d|\u062d|\u062e|\u062e|\u062e|\u062e|\u062f|\u062f|\u0630"⟩,
   ⟨0xfeac, 0xfeb4, "\u0630|\u0631|\u0631|\u0632|\u0632|\u0633|\u0633|\u0633|\u0633"⟩,
   ⟨0xfeb5, 0xfebd, "\u0634|\u0634|\u0634|\u0634|\u0635|\u0635|\u0635|\u0635|\u0636"⟩,
   ⟨0xfebe, 0xfec6, "\u0636|\u0636|\u0636|\u0637|\u0637|\u0637|\u0637|\u0638|\u0638"⟩,
   ⟨0xfec7, 0xfecf, "\u0638|\u0638|\u0639|\u0639|\u0639|\u0639|\u063a|\u063a|\u063a"⟩,
   ⟨0xfed0, 0xfed8, "\u063a|\u0641|\u0641|\u0641|\u0641|\u0642|\u0642|\u0642|\u0642"⟩,
   ⟨0xfed9, 0xfee1, "\u0643|\u0643|\u0643|\u0643|\u0644|\u0644|\u0644|\u0644|\u0645"⟩,
   ⟨0xfee2, 0xfeea, "\u0645|\u0645|\u0645|\u0646|\u0646|\u0646|\u0646|\u0647|\u0647"⟩,
   ⟨0xfeeb, 0xfef3, "\u0647|\u0647|\u0648|\u0648|\u0649|\u0649|\u064a|\u064a|\u064a"⟩,
   ⟨0xfef4, 0xfef8, "\u064a|\u0644\u0622|\u0644\u0622|\u0644\u0623|\u0644\u0623"⟩,
   ⟨0xfef9, 0xfefc, "\u0644\u0625|\u0644\u0625|\u0644\u0627|\u0644\u0627"⟩,
   ⟨0xff5f, 0xff80, "⦅|⦆|.|「|」|、|・|ヲ|ァ|ィ|ゥ|ェ|ォ|ャ|ュ|ョ|ッ|ー|ア|イ|ウ|エ|オ|カ|キ|ク|ケ|コ|サ|シ|ス|セ|ソ|タ"⟩,
   ⟨0xff81, 0xff84, "チ|ツ|テ|ト"⟩, ⟨0xff8b, 0xff8e, "ヒ|フ|ヘ|ホ"⟩, ⟨0xff94, 0xff95, "ヤ|ユ"⟩,
   ⟨0xff9c, 0xffa6, "ワ|ン|\u3099|\u309a||ᄀ|ᄁ|ᆪ|ᄂ|ᆬ|ᆭ"⟩, ⟨0xffb0, 0xffb0, "ᄚ"⟩,
   ⟨0xffb4, 0xffb4, "ᄡ"⟩, ⟨0xffe0, 0xffe8, "¢|£|¬| \u0304|¦|¥|₩||│"⟩, ⟨0xffed, 0xffee, "■|○"⟩,
   ⟨0x10595, 0x10595, "𐖼"⟩,
   ⟨0x10781, 0x107a2, "ː|ˑ|æ|ʙ|ɓ||ʣ|ꭦ|ʥ|ʤ|ɖ|ɗ|ᶑ|ɘ|ɞ|ʩ|ɤ|ɢ|ɠ|ʛ|ħ|ʜ|ɧ|ʄ|ʪ|ʫ|ɬ|𝼄|ꞎ|ɮ|𝼅|ʎ|𝼆|ø"⟩,
   ⟨0x107a3, 0x107b5, "ɶ|ɷ|q|ɺ|𝼈|ɽ|ɾ|ʀ|ʨ|ʦ|ꭧ|ʧ|ʈ|ⱱ||ʏ|ʡ|ʢ|ʘ"⟩, ⟨0x107b9, 0x107ba, "𝼊|𝼞"⟩,
   ⟨0x1d15e, 0x1d164, "𝅗𝅥|𝅘𝅥|𝅘𝅥𝅮|𝅘𝅥𝅯|𝅘𝅥𝅰|𝅘𝅥𝅱|𝅘𝅥𝅲"⟩, ⟨0x1d1bb, 0x1d1c0, "𝆹𝅥|𝆺𝅥|𝆹𝅥𝅮|𝆺𝅥𝅮|𝆹𝅥𝅯|𝆺𝅥𝅯"⟩,
   ⟨0x1d49c, 0x1d4a6, "a||c|d|||g|||j|k"⟩, ⟨0x1d504, 0x1d504, "a"⟩, ⟨0x1d508, 0x1d50a, "e||g"⟩,
   ⟨0x1d538, 0x1d538, "a"⟩, ⟨0x1d541, 0x1d543, "j||l"⟩, ⟨0x1d6a4, 0x1d6a5, "ı|ȷ"⟩,
   ⟨0x1d6b9, 0x1d6b9, "θ"⟩, ⟨0x1d6c1, 0x1d6c1, "∇"⟩, ⟨0x1d6d3, 0x1d6d3, "σ"⟩,
   ⟨0x1d6db, 0x1d6e1, "∂|ε|θ|κ|φ|ρ|π"⟩, ⟨0x1d6f3, 0x1d6f3, "θ"⟩, ⟨0x1d6fb, 0x1d6fb, "∇"⟩,
   ⟨0x1d70d, 0x1d70d, "σ"⟩, ⟨0x1d715, 0x1d71b, "∂|ε|θ|κ|φ|ρ|π"⟩, ⟨0x1d72d, 0x1d72d, "θ"⟩,
   ⟨0x1d735, 0x1d735, "∇"⟩, ⟨0x1d747, 0x1d747, "σ"⟩, ⟨0x1d74f, 0x1d755, "∂|ε|θ|κ|φ|ρ|π"⟩,
   ⟨0x1d767, 0x1d767, "θ"⟩, ⟨0x1d76f, 0x1d76f, "∇"⟩, ⟨0x1d781, 0x1d781, "σ"⟩,
   ⟨0x1d789, 0x1d78f, "∂|ε|θ|κ|φ|ρ|π"⟩, ⟨0x1d7a1, 0x1d7a1, "θ"⟩, ⟨0x1d7a9, 0x1d7a9, "∇"⟩,
   ⟨0x1d7bb, 0x1d7bb, "σ"⟩, ⟨0x1d7c3, 0x1d7cb, "∂|ε|θ|κ|φ|ρ|π|ϝ|ϝ"⟩,
   ⟨0x1e047, 0x1e050, "ы|э|ю|ꚉ|ә|і|ј|ө|ү|ӏ"⟩, ⟨0x1e05a, 0x1e05e, "к|л|о|п|с"⟩,
   ⟨0x1e065, 0x1e06d, "ъ|ы|ґ|і|ѕ|џ|ҫ|ꙑ|ұ"⟩,
   ⟨0x1ee00, 0x1ee09, "\u0627|\u0628|\u062c|\u062f||\u0648|\u0632|\u062d|\u0637|\u064a"⟩,
   ⟨0x1ee0e, 0x1ee16, "\u0633|\u0639|\u0641|\u0635|\u0642|\u0631|\u0634|\u062a|\u062b"⟩,
   ⟨0x1ee17, 0x1ee1f, "\u062e|\u0630|\u0636|\u0638|\u063a|\u066e|\u06ba|\u06a1|\u066f"⟩,
   ⟨0x1ee21, 0x1ee29, "\u0628|\u062c||\u0647|||\u062d||\u064a"⟩,
   ⟨0x1ee2e, 0x1ee37, "\u0633|\u0639|\u0641|\u0635|\u0642||\u0634|\u062a|\u062b|\u062e"⟩,
   ⟨0x1ee39, 0x1ee3b, "\u0636||\u063a"⟩, ⟨0x1ee42, 0x1ee42, "\u062c"⟩,
   ⟨0x1ee47, 0x1ee52, "\u062d||\u064a||\u0644||\u0646|\u0633|\u0639||\u0635|\u0642"⟩,
   ⟨0x1ee54, 0x1ee62, "\u0634|||\u062e||\u0636||\u063a||\u06ba||\u066f||\u0628|\u062c"⟩,
   ⟨0x1ee64, 0x1ee6f, "\u0647|||\u062d|\u0637|\u064a|\u0643||\u0645|\u0646|\u0633|\u0639"⟩,
   ⟨0x1ee70, 0x1ee7a, "\u0641|\u0635|\u0642||\u0634|\u062a|\u062b|\u062e||\u0636|\u0638"⟩,
   ⟨0x1ee7b, 0x1ee85, "\u063a|\u066e||\u06a1||\u0627|\u0628|\u062c|\u062f|\u0647|\u0648"⟩,
   ⟨0x1ee86, 0x1ee89, "\u0632|\u062d|\u0637|\u064a"⟩,
   ⟨0x1ee8e, 0x1ee96, "\u0633|\u0639|\u0641|\u0635|\u0642|\u0631|\u0634|\u062a|\u062b"⟩,
   ⟨0x1ee97, 0x1ee9b, "\u062e|\u0630|\u0636|\u0638|\u063a"⟩,
   ⟨0x1eea1, 0x1eea9, "\u0628|\u062c|\u062f||\u0648|\u0632|\u062d|\u0637|\u064a"⟩,
   ⟨0x1eeae, 0x1eeb6, "\u0633|\u0639|\u0641|\u0635|\u0642|\u0631|\u0634|\u062a|\u062b"⟩,
   ⟨0x1eeb7, 0x1eebb, "\u062e|\u0630|\u0636|\u0638|\u063a"⟩,
   ⟨0x1f101, 0x1f10a, "0,|1,|2,|3,|4,|5,|6,|7,|8,|9,"⟩,
   ⟨0x1f110, 0x1f11f, "(a)|(b)|(c)|(d)|(e)|(f)|(g)|(h)|(i)|(j)|(k)|(l)|(m)|(n)|(o)|(p)"⟩,
   ⟨0x1f120, 0x1f12e, "(q)|(r)|(s)|(t)|(u)|(v)|(w)|(x)|(y)|(z)|〔s〕|c|r|cd|wz"⟩,
   ⟨0x1f14a, 0x1f14f, "hv|mv|sd|ss|ppv|wc"⟩, ⟨0x1f16a, 0x1f16c, "mc|md|mr"⟩,
   ⟨0x1f190, 0x1f190, "dj"⟩, ⟨0x1f200, 0x1f202, "ほか|ココ|サ"⟩,
   ⟨0x1f210, 0x1f230, "手|字|双|デ|二|多|解|天|交|映|無|料|前|後|再|新|初|終|生|販|声|吹|演|投|捕|一|三|遊|左|中|右|指|走"⟩,
   ⟨0x1f231, 0x1f23b, "打|禁|空|合|満|有|月|申|割|営|配"⟩,
   ⟨0x1f240, 0x1f248, "〔本〕|〔三〕|〔二〕|〔安〕|〔点〕|〔打〕|〔盗〕|〔勝〕|〔敗〕"⟩, ⟨0x1f250, 0x1f251, "得|可"⟩,
   ⟨0x2f800, 0x2f820, "丽|丸|乁|𠄢|你|侮|侻|倂|偺|備|僧|像|㒞|𠘺|免|兔|兤|具|𠔜|㒹|內|再|𠕋|冗|冤|仌|冬|况|𩇟|凵|刃|㓟|刻"⟩,
   ⟨0x2f821, 0x2f841, "剆|割|剷|㔕|勇|勉|勤|勺|包|匆|北|卉|卑|博|即|卽|卿|卿|卿|𠨬|灰|及|叟|𠭣|叫|叱|吆|咞|吸|呈|周|咢|哶"⟩,
   ⟨0x2f842, 0x2f862, "唐|啓|啣|善|善|喙|喫|喳|嗂|圖|嘆|圗|噑|噴|切|壮|城|埴|堍|型|堲|報|墬|𡓤|売|壷|夆|多|夢|奢|𡚨|𡛪|姬"⟩,
   ⟨0x2f863, 0x2f883, "娛|娧|姘|婦|㛮|㛼|嬈|嬾|嬾|𡧈|寃|寘|寧|寳|𡬘|寿|将|当|尢|㞁|屠|屮|峀|岍|𡷤|嵃|𡷦|嵮|嵫|嵼|巡|巢|㠯"⟩,
   ⟨0x2f884, 0x2f8a4, "巽|帨|帽|幩|㡢|𢆃|㡼|庰|庳|庶|廊|𪎒|廾|𢌱|𢌱|舁|弢|弢|㣇|𣊸|𦇚|形|彫|㣣|徚|忍|志|忹|悁|㤺|㤜|悔|𢛔"⟩,
   ⟨0x2f8a5, 0x2f8c5, "惇|慈|慌|慎|慌|慺|憎|憲|憤|憯|懞|懲|懶|成|戛|扝|抱|拔|捐|𢬌|挽|拼|捨|掃|揤|𢯱|搢|揅|掩|㨮|摩|摾|撝"⟩,
   ⟨0x2f8c6, 0x2f8e6, "摷|㩬|敏|敬|𣀊|旣|書|晉|㬙|暑|㬈|㫤|冒|冕|最|暜|肭|䏙|朗|望|朡|杞|杓|𣏃|㭉|柺|枅|桒|梅|𣑭|梎|栟|椔"⟩,
   ⟨0x2f8e7, 0x2f907, "㮝|楂|榣|槪|檨|𣚣|櫛|㰘|次|𣢧|歔|㱎|歲|殟|殺|殻|𣪍|𡴋|𣫺|汎|𣲼|沿|泍|汧|洖|派|海|流|浩|浸|涅|𣴞|洴"⟩,
   ⟨0x2f908, 0x2f928, "港|湮|㴳|滋|滇|𣻑|淹|潮|𣽞|𣾎|濆|瀹|瀞|瀛|㶖|灊|災|灷|炭|𠔥|煅|𤉣|熜|𤎫|爨|爵|牐|𤘈|犀|犕|𤜵|𤠔|獺"⟩,
   ⟨0x2f929, 0x2f949, "王|㺬|玥|㺸|㺸|瑇|瑜|瑱|璅|瓊|㼛|甤|𤰶|甾|𤲒|異|𢆟|瘐|𤾡|𤾸|𥁄|㿼|䀈|直|𥃳|𥃲|𥄙|𥄳|眞|真|真|睊|䀹"⟩,
   ⟨0x2f94a, 0x2f96a, "瞋|䁆|䂖|𥐝|硎|碌|磌|䃣|𥘦|祖|𥚚|𥛅|福|秫|䄯|穀|穊|穏|𥥼|𥪧|𥪧|竮|䈂|𥮫|篆|築|䈧|𥲀|糒|䊠|糨|糣|紀"⟩,
   ⟨0x2f96b, 0x2f98b, "𥾆|絣|䌁|緇|縂|繅|䌴|𦈨|𦉇|䍙|𦋙|罺|𦌾|羕|翺|者|𦓚|𦔣|聠|𦖨|聰|𣍟|䏕|育|脃|䐋|脾|媵|𦞧|𦞵|𣎓|𣎜|舁"⟩,
   ⟨0x2f98c, 0x2f9ac, "舄|辞|䑫|芑|芋|芝|劳|花|芳|芽|苦|𦬼|若|茝|荣|莭|茣|莽|菧|著|荓|菊|菌|菜|𦰶|𦵫|𦳕|䔫|蓱|蓳|蔖|𧏊|蕤"⟩,
   ⟨0x2f9ad, 0x2f9cd, "𦼬|䕝|䕡|𦾱|𧃒|䕫|虐|虜|虧|虩|蚩|蚈|蜎|蛢|蝹|蜨|蝫|螆|䗗|蟡|蠁|䗹|衠|衣|𧙧|裗|裞|䘵|裺|㒻|𧢮|𧥦|䚾"⟩,
   ⟨0x2f9ce, 0x2f9ee, "䛇|誠|諭|變|豕|𧲨|貫|賁|贛|起|𧼯|𠠄|跋|趼|跰|𠣞|軔|輸|𨗒|𨗭|邔|郱|鄑|𨜮|鄛|鈸|鋗|鋘|鉼|鏹|鐕|𨯺|開"⟩,
   ⟨0x2f9ef, 0x2fa0f, "䦕|閷|𨵷|䧦|雃|嶲|霣|𩅅|𩈚|䩮|䩶|韠|𩐊|䪲|𩒖|頋|頋|頩|𩖶|飢|䬳|餩|馧|駂|駾|䯎|𩬰|鬒|鱀|鳽|䳎|䳭|鵧"⟩,
   ⟨0x2fa10, 0x2fa1d, "𪃎|䳸|𪄅|𪈎|𪊑|麻|䵖|黹|黾|鼅|鼏|鼖|鼻|𪘀"⟩]

end SqlMapper.Url
