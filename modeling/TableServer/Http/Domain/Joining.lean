import TableServer.Text.Runs

/-! How letters of cursive scripts join. -/
namespace TableServer.Domain

inductive Joining where
  | causing
  | dual
  | left
  | right
  | transparent
deriving DecidableEq

def joiningRuns : List (Nat × Nat × Joining) :=
  [(0x300, 0x33f, .transparent), (0x342, 0x342, .transparent), (0x346, 0x34e, .transparent),
   (0x350, 0x36f, .transparent), (0x483, 0x487, .transparent), (0x591, 0x5bd, .transparent),
   (0x5bf, 0x5bf, .transparent), (0x5c1, 0x5c2, .transparent), (0x5c4, 0x5c5, .transparent),
   (0x5c7, 0x5c7, .transparent), (0x610, 0x61a, .transparent), (0x620, 0x620, .dual),
   (0x622, 0x625, .right), (0x626, 0x626, .dual), (0x627, 0x627, .right), (0x628, 0x628, .dual),
   (0x629, 0x629, .right), (0x62a, 0x62e, .dual), (0x62f, 0x632, .right), (0x633, 0x63f, .dual),
   (0x641, 0x647, .dual), (0x648, 0x648, .right), (0x649, 0x64a, .dual),
   (0x64b, 0x65f, .transparent), (0x66e, 0x66f, .dual), (0x670, 0x670, .transparent),
   (0x671, 0x673, .right), (0x679, 0x687, .dual), (0x688, 0x699, .right), (0x69a, 0x6bf, .dual),
   (0x6c0, 0x6c0, .right), (0x6c1, 0x6c2, .dual), (0x6c3, 0x6cb, .right), (0x6cc, 0x6cc, .dual),
   (0x6cd, 0x6cd, .right), (0x6ce, 0x6ce, .dual), (0x6cf, 0x6cf, .right), (0x6d0, 0x6d1, .dual),
   (0x6d2, 0x6d3, .right), (0x6d5, 0x6d5, .right), (0x6d6, 0x6dc, .transparent),
   (0x6df, 0x6e4, .transparent), (0x6e7, 0x6e8, .transparent), (0x6ea, 0x6ed, .transparent),
   (0x6ee, 0x6ef, .right), (0x6fa, 0x6fc, .dual), (0x6ff, 0x6ff, .dual), (0x710, 0x710, .right),
   (0x711, 0x711, .transparent), (0x712, 0x714, .dual), (0x715, 0x719, .right),
   (0x71a, 0x71d, .dual), (0x71e, 0x71e, .right), (0x71f, 0x727, .dual), (0x728, 0x728, .right),
   (0x729, 0x729, .dual), (0x72a, 0x72a, .right), (0x72b, 0x72b, .dual), (0x72c, 0x72c, .right),
   (0x72d, 0x72e, .dual), (0x72f, 0x72f, .right), (0x730, 0x74a, .transparent),
   (0x74d, 0x74d, .right), (0x74e, 0x758, .dual), (0x759, 0x75b, .right), (0x75c, 0x76a, .dual),
   (0x76b, 0x76c, .right), (0x76d, 0x770, .dual), (0x771, 0x771, .right), (0x772, 0x772, .dual),
   (0x773, 0x774, .right), (0x775, 0x777, .dual), (0x778, 0x779, .right), (0x77a, 0x77f, .dual),
   (0x7a6, 0x7b0, .transparent), (0x7ca, 0x7ea, .dual), (0x7eb, 0x7f3, .transparent),
   (0x7fd, 0x7fd, .transparent), (0x816, 0x819, .transparent), (0x81b, 0x823, .transparent),
   (0x825, 0x827, .transparent), (0x829, 0x82d, .transparent), (0x840, 0x840, .right),
   (0x841, 0x845, .dual), (0x846, 0x847, .right), (0x848, 0x848, .dual), (0x849, 0x849, .right),
   (0x84a, 0x853, .dual), (0x854, 0x854, .right), (0x855, 0x855, .dual), (0x856, 0x858, .right),
   (0x859, 0x85b, .transparent), (0x860, 0x860, .dual), (0x862, 0x865, .dual),
   (0x867, 0x867, .right), (0x868, 0x868, .dual), (0x869, 0x86a, .right), (0x870, 0x882, .right),
   (0x883, 0x885, .causing), (0x886, 0x886, .dual), (0x889, 0x88d, .dual), (0x88e, 0x88e, .right),
   (0x898, 0x89f, .transparent), (0x8a0, 0x8a9, .dual), (0x8aa, 0x8ac, .right),
   (0x8ae, 0x8ae, .right), (0x8af, 0x8b0, .dual), (0x8b1, 0x8b2, .right), (0x8b3, 0x8b8, .dual),
   (0x8b9, 0x8b9, .right), (0x8ba, 0x8c8, .dual), (0x8ca, 0x8e1, .transparent),
   (0x8e3, 0x902, .transparent), (0x93a, 0x93a, .transparent), (0x93c, 0x93c, .transparent),
   (0x941, 0x948, .transparent), (0x94d, 0x94d, .transparent), (0x951, 0x957, .transparent),
   (0x962, 0x963, .transparent), (0x981, 0x981, .transparent), (0x9bc, 0x9bc, .transparent),
   (0x9c1, 0x9c4, .transparent), (0x9cd, 0x9cd, .transparent), (0x9e2, 0x9e3, .transparent),
   (0x9fe, 0x9fe, .transparent), (0xa01, 0xa02, .transparent), (0xa3c, 0xa3c, .transparent),
   (0xa41, 0xa42, .transparent), (0xa47, 0xa48, .transparent), (0xa4b, 0xa4d, .transparent),
   (0xa51, 0xa51, .transparent), (0xa70, 0xa71, .transparent), (0xa75, 0xa75, .transparent),
   (0xa81, 0xa82, .transparent), (0xabc, 0xabc, .transparent), (0xac1, 0xac5, .transparent),
   (0xac7, 0xac8, .transparent), (0xacd, 0xacd, .transparent), (0xae2, 0xae3, .transparent),
   (0xafa, 0xaff, .transparent), (0xb01, 0xb01, .transparent), (0xb3c, 0xb3c, .transparent),
   (0xb3f, 0xb3f, .transparent), (0xb41, 0xb44, .transparent), (0xb4d, 0xb4d, .transparent),
   (0xb55, 0xb56, .transparent), (0xb62, 0xb63, .transparent), (0xb82, 0xb82, .transparent),
   (0xbc0, 0xbc0, .transparent), (0xbcd, 0xbcd, .transparent), (0xc00, 0xc00, .transparent),
   (0xc04, 0xc04, .transparent), (0xc3c, 0xc3c, .transparent), (0xc3e, 0xc40, .transparent),
   (0xc46, 0xc48, .transparent), (0xc4a, 0xc4d, .transparent), (0xc55, 0xc56, .transparent),
   (0xc62, 0xc63, .transparent), (0xc81, 0xc81, .transparent), (0xcbc, 0xcbc, .transparent),
   (0xcbf, 0xcbf, .transparent), (0xcc6, 0xcc6, .transparent), (0xccc, 0xccd, .transparent),
   (0xce2, 0xce3, .transparent), (0xd00, 0xd01, .transparent), (0xd3b, 0xd3c, .transparent),
   (0xd41, 0xd44, .transparent), (0xd4d, 0xd4d, .transparent), (0xd62, 0xd63, .transparent),
   (0xd81, 0xd81, .transparent), (0xdca, 0xdca, .transparent), (0xdd2, 0xdd4, .transparent),
   (0xdd6, 0xdd6, .transparent), (0xe31, 0xe31, .transparent), (0xe34, 0xe3a, .transparent),
   (0xe47, 0xe4e, .transparent), (0xeb1, 0xeb1, .transparent), (0xeb4, 0xebc, .transparent),
   (0xec8, 0xecd, .transparent), (0xf18, 0xf19, .transparent), (0xf35, 0xf35, .transparent),
   (0xf37, 0xf37, .transparent), (0xf39, 0xf39, .transparent), (0xf71, 0xf72, .transparent),
   (0xf74, 0xf74, .transparent), (0xf7a, 0xf7e, .transparent), (0xf80, 0xf80, .transparent),
   (0xf82, 0xf84, .transparent), (0xf86, 0xf87, .transparent), (0xf8d, 0xf92, .transparent),
   (0xf94, 0xf97, .transparent), (0xf99, 0xf9c, .transparent), (0xf9e, 0xfa1, .transparent),
   (0xfa3, 0xfa6, .transparent), (0xfa8, 0xfab, .transparent), (0xfad, 0xfb8, .transparent),
   (0xfba, 0xfbc, .transparent), (0xfc6, 0xfc6, .transparent), (0x102d, 0x1030, .transparent),
   (0x1032, 0x1037, .transparent), (0x1039, 0x103a, .transparent), (0x103d, 0x103e, .transparent),
   (0x1058, 0x1059, .transparent), (0x105e, 0x1060, .transparent), (0x1071, 0x1074, .transparent),
   (0x1082, 0x1082, .transparent), (0x1085, 0x1086, .transparent), (0x108d, 0x108d, .transparent),
   (0x109d, 0x109d, .transparent), (0x135d, 0x135f, .transparent), (0x1712, 0x1714, .transparent),
   (0x1732, 0x1733, .transparent), (0x1752, 0x1753, .transparent), (0x1772, 0x1773, .transparent),
   (0x17b7, 0x17bd, .transparent), (0x17c6, 0x17c6, .transparent), (0x17c9, 0x17d3, .transparent),
   (0x17dd, 0x17dd, .transparent), (0x1820, 0x1878, .dual), (0x1885, 0x1886, .transparent),
   (0x1887, 0x18a8, .dual), (0x18a9, 0x18a9, .transparent), (0x18aa, 0x18aa, .dual),
   (0x1920, 0x1922, .transparent), (0x1927, 0x1928, .transparent), (0x1932, 0x1932, .transparent),
   (0x1939, 0x193b, .transparent), (0x1a17, 0x1a18, .transparent), (0x1a1b, 0x1a1b, .transparent),
   (0x1a56, 0x1a56, .transparent), (0x1a58, 0x1a5e, .transparent), (0x1a60, 0x1a60, .transparent),
   (0x1a62, 0x1a62, .transparent), (0x1a65, 0x1a6c, .transparent), (0x1a73, 0x1a7c, .transparent),
   (0x1a7f, 0x1a7f, .transparent), (0x1ab0, 0x1abd, .transparent), (0x1abf, 0x1ace, .transparent),
   (0x1b00, 0x1b03, .transparent), (0x1b34, 0x1b34, .transparent), (0x1b36, 0x1b3a, .transparent),
   (0x1b3c, 0x1b3c, .transparent), (0x1b42, 0x1b42, .transparent), (0x1b6b, 0x1b73, .transparent),
   (0x1b80, 0x1b81, .transparent), (0x1ba2, 0x1ba5, .transparent), (0x1ba8, 0x1ba9, .transparent),
   (0x1bab, 0x1bad, .transparent), (0x1be6, 0x1be6, .transparent), (0x1be8, 0x1be9, .transparent),
   (0x1bed, 0x1bed, .transparent), (0x1bef, 0x1bf1, .transparent), (0x1c2c, 0x1c33, .transparent),
   (0x1c36, 0x1c37, .transparent), (0x1cd0, 0x1cd2, .transparent), (0x1cd4, 0x1ce0, .transparent),
   (0x1ce2, 0x1ce8, .transparent), (0x1ced, 0x1ced, .transparent), (0x1cf4, 0x1cf4, .transparent),
   (0x1cf8, 0x1cf9, .transparent), (0x1dc0, 0x1dff, .transparent), (0x2cef, 0x2cf1, .transparent),
   (0x2d7f, 0x2d7f, .transparent), (0x2de0, 0x2dff, .transparent), (0x302a, 0x302d, .transparent),
   (0x3099, 0x309a, .transparent), (0xa66f, 0xa66f, .transparent), (0xa674, 0xa67d, .transparent),
   (0xa69e, 0xa69f, .transparent), (0xa6f0, 0xa6f1, .transparent), (0xa802, 0xa802, .transparent),
   (0xa806, 0xa806, .transparent), (0xa80b, 0xa80b, .transparent), (0xa825, 0xa826, .transparent),
   (0xa82c, 0xa82c, .transparent), (0xa840, 0xa871, .dual), (0xa872, 0xa872, .left),
   (0xa8c4, 0xa8c5, .transparent), (0xa8e0, 0xa8f1, .transparent), (0xa8ff, 0xa8ff, .transparent),
   (0xa926, 0xa92d, .transparent), (0xa947, 0xa951, .transparent), (0xa980, 0xa982, .transparent),
   (0xa9b3, 0xa9b3, .transparent), (0xa9b6, 0xa9b9, .transparent), (0xa9bc, 0xa9bd, .transparent),
   (0xa9e5, 0xa9e5, .transparent), (0xaa29, 0xaa2e, .transparent), (0xaa31, 0xaa32, .transparent),
   (0xaa35, 0xaa36, .transparent), (0xaa43, 0xaa43, .transparent), (0xaa4c, 0xaa4c, .transparent),
   (0xaa7c, 0xaa7c, .transparent), (0xaab0, 0xaab0, .transparent), (0xaab2, 0xaab4, .transparent),
   (0xaab7, 0xaab8, .transparent), (0xaabe, 0xaabf, .transparent), (0xaac1, 0xaac1, .transparent),
   (0xaaec, 0xaaed, .transparent), (0xaaf6, 0xaaf6, .transparent), (0xabe5, 0xabe5, .transparent),
   (0xabe8, 0xabe8, .transparent), (0xabed, 0xabed, .transparent), (0xfb1e, 0xfb1e, .transparent),
   (0xfe20, 0xfe2f, .transparent), (0x101fd, 0x101fd, .transparent),
   (0x102e0, 0x102e0, .transparent), (0x10376, 0x1037a, .transparent),
   (0x10a01, 0x10a03, .transparent), (0x10a05, 0x10a06, .transparent),
   (0x10a0c, 0x10a0f, .transparent), (0x10a38, 0x10a3a, .transparent),
   (0x10a3f, 0x10a3f, .transparent), (0x10ac0, 0x10ac4, .dual), (0x10ac5, 0x10ac5, .right),
   (0x10ac7, 0x10ac7, .right), (0x10ac9, 0x10aca, .right), (0x10acd, 0x10acd, .left),
   (0x10ace, 0x10ad2, .right), (0x10ad3, 0x10ad6, .dual), (0x10ad7, 0x10ad7, .left),
   (0x10ad8, 0x10adc, .dual), (0x10add, 0x10add, .right), (0x10ade, 0x10ae0, .dual),
   (0x10ae1, 0x10ae1, .right), (0x10ae4, 0x10ae4, .right), (0x10ae5, 0x10ae6, .transparent),
   (0x10b80, 0x10b80, .dual), (0x10b81, 0x10b81, .right), (0x10b82, 0x10b82, .dual),
   (0x10b83, 0x10b85, .right), (0x10b86, 0x10b88, .dual), (0x10b89, 0x10b89, .right),
   (0x10b8a, 0x10b8b, .dual), (0x10b8c, 0x10b8c, .right), (0x10b8d, 0x10b8d, .dual),
   (0x10b8e, 0x10b8f, .right), (0x10b90, 0x10b90, .dual), (0x10b91, 0x10b91, .right),
   (0x10d00, 0x10d00, .left), (0x10d01, 0x10d21, .dual), (0x10d22, 0x10d22, .right),
   (0x10d23, 0x10d23, .dual), (0x10d24, 0x10d27, .transparent), (0x10eab, 0x10eac, .transparent),
   (0x10f30, 0x10f32, .dual), (0x10f33, 0x10f33, .right), (0x10f34, 0x10f44, .dual),
   (0x10f46, 0x10f50, .transparent), (0x10f70, 0x10f73, .dual), (0x10f74, 0x10f75, .right),
   (0x10f76, 0x10f81, .dual), (0x10f82, 0x10f85, .transparent), (0x10fb0, 0x10fb0, .dual),
   (0x10fb2, 0x10fb3, .dual), (0x10fb4, 0x10fb6, .right), (0x10fb8, 0x10fb8, .dual),
   (0x10fb9, 0x10fba, .right), (0x10fbb, 0x10fbc, .dual), (0x10fbd, 0x10fbd, .right),
   (0x10fbe, 0x10fbf, .dual), (0x10fc1, 0x10fc1, .dual), (0x10fc2, 0x10fc3, .right),
   (0x10fc4, 0x10fc4, .dual), (0x11001, 0x11001, .transparent), (0x11038, 0x11046, .transparent),
   (0x11070, 0x11070, .transparent), (0x11073, 0x11074, .transparent),
   (0x1107f, 0x11081, .transparent), (0x110b3, 0x110b6, .transparent),
   (0x110b9, 0x110ba, .transparent), (0x110c2, 0x110c2, .transparent),
   (0x11100, 0x11102, .transparent), (0x11127, 0x1112b, .transparent),
   (0x1112d, 0x11134, .transparent), (0x11173, 0x11173, .transparent),
   (0x11180, 0x11181, .transparent), (0x111b6, 0x111be, .transparent),
   (0x111c9, 0x111cc, .transparent), (0x111cf, 0x111cf, .transparent),
   (0x1122f, 0x11231, .transparent), (0x11234, 0x11234, .transparent),
   (0x11236, 0x11237, .transparent), (0x1123e, 0x1123e, .transparent),
   (0x112df, 0x112df, .transparent), (0x112e3, 0x112ea, .transparent),
   (0x11300, 0x11301, .transparent), (0x1133b, 0x1133c, .transparent),
   (0x11340, 0x11340, .transparent), (0x11366, 0x1136c, .transparent),
   (0x11370, 0x11374, .transparent), (0x11438, 0x1143f, .transparent),
   (0x11442, 0x11444, .transparent), (0x11446, 0x11446, .transparent),
   (0x1145e, 0x1145e, .transparent), (0x114b3, 0x114b8, .transparent),
   (0x114ba, 0x114ba, .transparent), (0x114bf, 0x114c0, .transparent),
   (0x114c2, 0x114c3, .transparent), (0x115b2, 0x115b5, .transparent),
   (0x115bc, 0x115bd, .transparent), (0x115bf, 0x115c0, .transparent),
   (0x115dc, 0x115dd, .transparent), (0x11633, 0x1163a, .transparent),
   (0x1163d, 0x1163d, .transparent), (0x1163f, 0x11640, .transparent),
   (0x116ab, 0x116ab, .transparent), (0x116ad, 0x116ad, .transparent),
   (0x116b0, 0x116b5, .transparent), (0x116b7, 0x116b7, .transparent),
   (0x1171d, 0x1171d, .transparent), (0x1171f, 0x1171f, .transparent),
   (0x11722, 0x11725, .transparent), (0x11727, 0x1172b, .transparent),
   (0x1182f, 0x11837, .transparent), (0x11839, 0x1183a, .transparent),
   (0x1193b, 0x1193c, .transparent), (0x1193e, 0x1193e, .transparent),
   (0x11943, 0x11943, .transparent), (0x119d4, 0x119d7, .transparent),
   (0x119da, 0x119db, .transparent), (0x119e0, 0x119e0, .transparent),
   (0x11a01, 0x11a0a, .transparent), (0x11a33, 0x11a38, .transparent),
   (0x11a3b, 0x11a3e, .transparent), (0x11a47, 0x11a47, .transparent),
   (0x11a51, 0x11a56, .transparent), (0x11a59, 0x11a5b, .transparent),
   (0x11a8a, 0x11a96, .transparent), (0x11a98, 0x11a99, .transparent),
   (0x11c30, 0x11c36, .transparent), (0x11c38, 0x11c3d, .transparent),
   (0x11c3f, 0x11c3f, .transparent), (0x11c92, 0x11ca7, .transparent),
   (0x11caa, 0x11cb0, .transparent), (0x11cb2, 0x11cb3, .transparent),
   (0x11cb5, 0x11cb6, .transparent), (0x11d31, 0x11d36, .transparent),
   (0x11d3a, 0x11d3a, .transparent), (0x11d3c, 0x11d3d, .transparent),
   (0x11d3f, 0x11d45, .transparent), (0x11d47, 0x11d47, .transparent),
   (0x11d90, 0x11d91, .transparent), (0x11d95, 0x11d95, .transparent),
   (0x11d97, 0x11d97, .transparent), (0x11ef3, 0x11ef4, .transparent),
   (0x16af0, 0x16af4, .transparent), (0x16b30, 0x16b36, .transparent),
   (0x16f4f, 0x16f4f, .transparent), (0x16f8f, 0x16f92, .transparent),
   (0x16fe4, 0x16fe4, .transparent), (0x1bc9d, 0x1bc9e, .transparent),
   (0x1cf00, 0x1cf2d, .transparent), (0x1cf30, 0x1cf46, .transparent),
   (0x1da00, 0x1da36, .transparent), (0x1da3b, 0x1da6c, .transparent),
   (0x1da75, 0x1da75, .transparent), (0x1da84, 0x1da84, .transparent),
   (0x1da9b, 0x1da9f, .transparent), (0x1daa1, 0x1daaf, .transparent),
   (0x1e000, 0x1e006, .transparent), (0x1e008, 0x1e018, .transparent),
   (0x1e01b, 0x1e021, .transparent), (0x1e023, 0x1e024, .transparent),
   (0x1e026, 0x1e02a, .transparent), (0x1e130, 0x1e136, .transparent),
   (0x1e2ae, 0x1e2ae, .transparent), (0x1e2ec, 0x1e2ef, .transparent),
   (0x1e8d0, 0x1e8d6, .transparent), (0x1e922, 0x1e943, .dual), (0x1e944, 0x1e94b, .transparent)]

end TableServer.Domain
