import Formwork.Text.Table

/-!
# Composed characters

A letter with marks can be written as one character or as the letter and its marks, which stand in
any order where they go to different places. The composed form of a text writes as few characters
as it can: it is the same for all texts that are read alike.
-/

namespace Formwork.Url

/-- First and last of a range of marks, and the place where they go. -/
def markPlaces : List (Nat × Nat × Nat) := [
  (0x300, 0x314, 230), (0x315, 0x315, 232), (0x316, 0x319, 220), (0x31a, 0x31a, 232),
  (0x31b, 0x31b, 216), (0x31c, 0x320, 220), (0x321, 0x322, 202), (0x323, 0x326, 220),
  (0x327, 0x328, 202), (0x329, 0x333, 220), (0x334, 0x338, 1), (0x339, 0x33c, 220),
  (0x33d, 0x346, 230), (0x347, 0x349, 220), (0x34a, 0x34c, 230), (0x34d, 0x34e, 220),
  (0x350, 0x352, 230), (0x353, 0x356, 220), (0x357, 0x357, 230), (0x358, 0x358, 232),
  (0x359, 0x35a, 220), (0x35b, 0x35b, 230), (0x35c, 0x35c, 233), (0x35d, 0x35e, 234),
  (0x35f, 0x35f, 233), (0x360, 0x361, 234), (0x362, 0x362, 233), (0x363, 0x36f, 230),
  (0x483, 0x487, 230), (0x591, 0x591, 220), (0x592, 0x595, 230), (0x596, 0x596, 220),
  (0x597, 0x599, 230), (0x59a, 0x59a, 222), (0x59b, 0x59b, 220), (0x59c, 0x5a1, 230),
  (0x5a2, 0x5a7, 220), (0x5a8, 0x5a9, 230), (0x5aa, 0x5aa, 220), (0x5ab, 0x5ac, 230),
  (0x5ad, 0x5ad, 222), (0x5ae, 0x5ae, 228), (0x5af, 0x5af, 230), (0x5b0, 0x5b0, 10),
  (0x5b1, 0x5b1, 11), (0x5b2, 0x5b2, 12), (0x5b3, 0x5b3, 13), (0x5b4, 0x5b4, 14),
  (0x5b5, 0x5b5, 15), (0x5b6, 0x5b6, 16), (0x5b7, 0x5b7, 17), (0x5b8, 0x5b8, 18),
  (0x5b9, 0x5ba, 19), (0x5bb, 0x5bb, 20), (0x5bc, 0x5bc, 21), (0x5bd, 0x5bd, 22),
  (0x5bf, 0x5bf, 23), (0x5c1, 0x5c1, 24), (0x5c2, 0x5c2, 25), (0x5c4, 0x5c4, 230),
  (0x5c5, 0x5c5, 220), (0x5c7, 0x5c7, 18), (0x610, 0x617, 230), (0x618, 0x618, 30),
  (0x619, 0x619, 31), (0x61a, 0x61a, 32), (0x64b, 0x64b, 27), (0x64c, 0x64c, 28),
  (0x64d, 0x64d, 29), (0x64e, 0x64e, 30), (0x64f, 0x64f, 31), (0x650, 0x650, 32),
  (0x651, 0x651, 33), (0x652, 0x652, 34), (0x653, 0x654, 230), (0x655, 0x656, 220),
  (0x657, 0x65b, 230), (0x65c, 0x65c, 220), (0x65d, 0x65e, 230), (0x65f, 0x65f, 220),
  (0x670, 0x670, 35), (0x6d6, 0x6dc, 230), (0x6df, 0x6e2, 230), (0x6e3, 0x6e3, 220),
  (0x6e4, 0x6e4, 230), (0x6e7, 0x6e8, 230), (0x6ea, 0x6ea, 220), (0x6eb, 0x6ec, 230),
  (0x6ed, 0x6ed, 220), (0x711, 0x711, 36), (0x730, 0x730, 230), (0x731, 0x731, 220),
  (0x732, 0x733, 230), (0x734, 0x734, 220), (0x735, 0x736, 230), (0x737, 0x739, 220),
  (0x73a, 0x73a, 230), (0x73b, 0x73c, 220), (0x73d, 0x73d, 230), (0x73e, 0x73e, 220),
  (0x73f, 0x741, 230), (0x742, 0x742, 220), (0x743, 0x743, 230), (0x744, 0x744, 220),
  (0x745, 0x745, 230), (0x746, 0x746, 220), (0x747, 0x747, 230), (0x748, 0x748, 220),
  (0x749, 0x74a, 230), (0x7eb, 0x7f1, 230), (0x7f2, 0x7f2, 220), (0x7f3, 0x7f3, 230),
  (0x7fd, 0x7fd, 220), (0x816, 0x819, 230), (0x81b, 0x823, 230), (0x825, 0x827, 230),
  (0x829, 0x82d, 230), (0x859, 0x85b, 220), (0x898, 0x898, 230), (0x899, 0x89b, 220),
  (0x89c, 0x89f, 230), (0x8ca, 0x8ce, 230), (0x8cf, 0x8d3, 220), (0x8d4, 0x8e1, 230),
  (0x8e3, 0x8e3, 220), (0x8e4, 0x8e5, 230), (0x8e6, 0x8e6, 220), (0x8e7, 0x8e8, 230),
  (0x8e9, 0x8e9, 220), (0x8ea, 0x8ec, 230), (0x8ed, 0x8ef, 220), (0x8f0, 0x8f0, 27),
  (0x8f1, 0x8f1, 28), (0x8f2, 0x8f2, 29), (0x8f3, 0x8f5, 230), (0x8f6, 0x8f6, 220),
  (0x8f7, 0x8f8, 230), (0x8f9, 0x8fa, 220), (0x8fb, 0x8ff, 230), (0x93c, 0x93c, 7),
  (0x94d, 0x94d, 9), (0x951, 0x951, 230), (0x952, 0x952, 220), (0x953, 0x954, 230),
  (0x9bc, 0x9bc, 7), (0x9cd, 0x9cd, 9), (0x9fe, 0x9fe, 230), (0xa3c, 0xa3c, 7),
  (0xa4d, 0xa4d, 9), (0xabc, 0xabc, 7), (0xacd, 0xacd, 9), (0xb3c, 0xb3c, 7), (0xb4d, 0xb4d, 9),
  (0xbcd, 0xbcd, 9), (0xc3c, 0xc3c, 7), (0xc4d, 0xc4d, 9), (0xc55, 0xc55, 84),
  (0xc56, 0xc56, 91), (0xcbc, 0xcbc, 7), (0xccd, 0xccd, 9), (0xd3b, 0xd3c, 9), (0xd4d, 0xd4d, 9),
  (0xdca, 0xdca, 9), (0xe38, 0xe39, 103), (0xe3a, 0xe3a, 9), (0xe48, 0xe4b, 107),
  (0xeb8, 0xeb9, 118), (0xeba, 0xeba, 9), (0xec8, 0xecb, 122), (0xf18, 0xf19, 220),
  (0xf35, 0xf35, 220), (0xf37, 0xf37, 220), (0xf39, 0xf39, 216), (0xf71, 0xf71, 129),
  (0xf72, 0xf72, 130), (0xf74, 0xf74, 132), (0xf7a, 0xf7d, 130), (0xf80, 0xf80, 130),
  (0xf82, 0xf83, 230), (0xf84, 0xf84, 9), (0xf86, 0xf87, 230), (0xfc6, 0xfc6, 220),
  (0x1037, 0x1037, 7), (0x1039, 0x103a, 9), (0x108d, 0x108d, 220), (0x135d, 0x135f, 230),
  (0x1714, 0x1715, 9), (0x1734, 0x1734, 9), (0x17d2, 0x17d2, 9), (0x17dd, 0x17dd, 230),
  (0x18a9, 0x18a9, 228), (0x1939, 0x1939, 222), (0x193a, 0x193a, 230), (0x193b, 0x193b, 220),
  (0x1a17, 0x1a17, 230), (0x1a18, 0x1a18, 220), (0x1a60, 0x1a60, 9), (0x1a75, 0x1a7c, 230),
  (0x1a7f, 0x1a7f, 220), (0x1ab0, 0x1ab4, 230), (0x1ab5, 0x1aba, 220), (0x1abb, 0x1abc, 230),
  (0x1abd, 0x1abd, 220), (0x1abf, 0x1ac0, 220), (0x1ac1, 0x1ac2, 230), (0x1ac3, 0x1ac4, 220),
  (0x1ac5, 0x1ac9, 230), (0x1aca, 0x1aca, 220), (0x1acb, 0x1ace, 230), (0x1b34, 0x1b34, 7),
  (0x1b44, 0x1b44, 9), (0x1b6b, 0x1b6b, 230), (0x1b6c, 0x1b6c, 220), (0x1b6d, 0x1b73, 230),
  (0x1baa, 0x1bab, 9), (0x1be6, 0x1be6, 7), (0x1bf2, 0x1bf3, 9), (0x1c37, 0x1c37, 7),
  (0x1cd0, 0x1cd2, 230), (0x1cd4, 0x1cd4, 1), (0x1cd5, 0x1cd9, 220), (0x1cda, 0x1cdb, 230),
  (0x1cdc, 0x1cdf, 220), (0x1ce0, 0x1ce0, 230), (0x1ce2, 0x1ce8, 1), (0x1ced, 0x1ced, 220),
  (0x1cf4, 0x1cf4, 230), (0x1cf8, 0x1cf9, 230), (0x1dc0, 0x1dc1, 230), (0x1dc2, 0x1dc2, 220),
  (0x1dc3, 0x1dc9, 230), (0x1dca, 0x1dca, 220), (0x1dcb, 0x1dcc, 230), (0x1dcd, 0x1dcd, 234),
  (0x1dce, 0x1dce, 214), (0x1dcf, 0x1dcf, 220), (0x1dd0, 0x1dd0, 202), (0x1dd1, 0x1df5, 230),
  (0x1df6, 0x1df6, 232), (0x1df7, 0x1df8, 228), (0x1df9, 0x1df9, 220), (0x1dfa, 0x1dfa, 218),
  (0x1dfb, 0x1dfb, 230), (0x1dfc, 0x1dfc, 233), (0x1dfd, 0x1dfd, 220), (0x1dfe, 0x1dfe, 230),
  (0x1dff, 0x1dff, 220), (0x20d0, 0x20d1, 230), (0x20d2, 0x20d3, 1), (0x20d4, 0x20d7, 230),
  (0x20d8, 0x20da, 1), (0x20db, 0x20dc, 230), (0x20e1, 0x20e1, 230), (0x20e5, 0x20e6, 1),
  (0x20e7, 0x20e7, 230), (0x20e8, 0x20e8, 220), (0x20e9, 0x20e9, 230), (0x20ea, 0x20eb, 1),
  (0x20ec, 0x20ef, 220), (0x20f0, 0x20f0, 230), (0x2cef, 0x2cf1, 230), (0x2d7f, 0x2d7f, 9),
  (0x2de0, 0x2dff, 230), (0x302a, 0x302a, 218), (0x302b, 0x302b, 228), (0x302c, 0x302c, 232),
  (0x302d, 0x302d, 222), (0x302e, 0x302f, 224), (0x3099, 0x309a, 8), (0xa66f, 0xa66f, 230),
  (0xa674, 0xa67d, 230), (0xa69e, 0xa69f, 230), (0xa6f0, 0xa6f1, 230), (0xa806, 0xa806, 9),
  (0xa82c, 0xa82c, 9), (0xa8c4, 0xa8c4, 9), (0xa8e0, 0xa8f1, 230), (0xa92b, 0xa92d, 220),
  (0xa953, 0xa953, 9), (0xa9b3, 0xa9b3, 7), (0xa9c0, 0xa9c0, 9), (0xaab0, 0xaab0, 230),
  (0xaab2, 0xaab3, 230), (0xaab4, 0xaab4, 220), (0xaab7, 0xaab8, 230), (0xaabe, 0xaabf, 230),
  (0xaac1, 0xaac1, 230), (0xaaf6, 0xaaf6, 9), (0xabed, 0xabed, 9), (0xfb1e, 0xfb1e, 26),
  (0xfe20, 0xfe26, 230), (0xfe27, 0xfe2d, 220), (0xfe2e, 0xfe2f, 230), (0x101fd, 0x101fd, 220),
  (0x102e0, 0x102e0, 220), (0x10376, 0x1037a, 230), (0x10a0d, 0x10a0d, 220),
  (0x10a0f, 0x10a0f, 230), (0x10a38, 0x10a38, 230), (0x10a39, 0x10a39, 1),
  (0x10a3a, 0x10a3a, 220), (0x10a3f, 0x10a3f, 9), (0x10ae5, 0x10ae5, 230),
  (0x10ae6, 0x10ae6, 220), (0x10d24, 0x10d27, 230), (0x10eab, 0x10eac, 230),
  (0x10efd, 0x10eff, 220), (0x10f46, 0x10f47, 220), (0x10f48, 0x10f4a, 230),
  (0x10f4b, 0x10f4b, 220), (0x10f4c, 0x10f4c, 230), (0x10f4d, 0x10f50, 220),
  (0x10f82, 0x10f82, 230), (0x10f83, 0x10f83, 220), (0x10f84, 0x10f84, 230),
  (0x10f85, 0x10f85, 220), (0x11046, 0x11046, 9), (0x11070, 0x11070, 9), (0x1107f, 0x1107f, 9),
  (0x110b9, 0x110b9, 9), (0x110ba, 0x110ba, 7), (0x11100, 0x11102, 230), (0x11133, 0x11134, 9),
  (0x11173, 0x11173, 7), (0x111c0, 0x111c0, 9), (0x111ca, 0x111ca, 7), (0x11235, 0x11235, 9),
  (0x11236, 0x11236, 7), (0x112e9, 0x112e9, 7), (0x112ea, 0x112ea, 9), (0x1133b, 0x1133c, 7),
  (0x1134d, 0x1134d, 9), (0x11366, 0x11374, 230), (0x11442, 0x11442, 9), (0x11446, 0x11446, 7),
  (0x1145e, 0x1145e, 230), (0x114c2, 0x114c2, 9), (0x114c3, 0x114c3, 7), (0x115bf, 0x115bf, 9),
  (0x115c0, 0x115c0, 7), (0x1163f, 0x1163f, 9), (0x116b6, 0x116b6, 9), (0x116b7, 0x116b7, 7),
  (0x1172b, 0x1172b, 9), (0x11839, 0x11839, 9), (0x1183a, 0x1183a, 7), (0x1193d, 0x1193e, 9),
  (0x11943, 0x11943, 7), (0x119e0, 0x119e0, 9), (0x11a34, 0x11a34, 9), (0x11a47, 0x11a47, 9),
  (0x11a99, 0x11a99, 9), (0x11c3f, 0x11c3f, 9), (0x11d42, 0x11d42, 7), (0x11d44, 0x11d45, 9),
  (0x11d97, 0x11d97, 9), (0x11f41, 0x11f42, 9), (0x16af0, 0x16af4, 1), (0x16b30, 0x16b36, 230),
  (0x16ff0, 0x16ff1, 6), (0x1bc9e, 0x1bc9e, 1), (0x1d165, 0x1d166, 216), (0x1d167, 0x1d169, 1),
  (0x1d16d, 0x1d16d, 226), (0x1d16e, 0x1d172, 216), (0x1d17b, 0x1d182, 220),
  (0x1d185, 0x1d189, 230), (0x1d18a, 0x1d18b, 220), (0x1d1aa, 0x1d1ad, 230),
  (0x1d242, 0x1d244, 230), (0x1e000, 0x1e08f, 230), (0x1e130, 0x1e136, 230),
  (0x1e2ae, 0x1e2ae, 230), (0x1e2ec, 0x1e2ef, 230), (0x1e4ec, 0x1e4ed, 232),
  (0x1e4ee, 0x1e4ee, 220), (0x1e4ef, 0x1e4ef, 230), (0x1e8d0, 0x1e8d6, 220),
  (0x1e944, 0x1e949, 230), (0x1e94a, 0x1e94a, 7)]

/-- The place of a mark, which is 0 for all other characters. Marks that go to one place keep their
order. -/
def markPlace (c : Char) : Nat :=
  if c.toNat < 128 then 0
  else
    match markPlaces.find? fun (first, last, _) => first ≤ c.toNat && c.toNat ≤ last with
    | some (_, _, place) => place
    | none => 0

/-- Composed characters, each with the two that it is composed of. -/
def compositionTable : List (List Nat) := Text.tableRows "
  e0 61 300, e1 61 301, e2 61 302, e3 61 303, e4 61 308, e5 61 30a, e7 63 327, e8 65 300,
  e9 65 301, ea 65 302, eb 65 308, ec 69 300, ed 69 301, ee 69 302, ef 69 308, f1 6e 303,
  f2 6f 300, f3 6f 301, f4 6f 302, f5 6f 303, f6 6f 308, f9 75 300, fa 75 301, fb 75 302,
  fc 75 308, fd 79 301, ff 79 308, 101 61 304, 103 61 306, 105 61 328, 107 63 301, 109 63 302,
  10b 63 307, 10d 63 30c, 10f 64 30c, 113 65 304, 115 65 306, 117 65 307, 119 65 328,
  11b 65 30c, 11d 67 302, 11f 67 306, 121 67 307, 123 67 327, 125 68 302, 129 69 303,
  12b 69 304, 12d 69 306, 12f 69 328, 135 6a 302, 137 6b 327, 13a 6c 301, 13c 6c 327,
  13e 6c 30c, 144 6e 301, 146 6e 327, 148 6e 30c, 14d 6f 304, 14f 6f 306, 151 6f 30b,
  155 72 301, 157 72 327, 159 72 30c, 15b 73 301, 15d 73 302, 15f 73 327, 161 73 30c,
  163 74 327, 165 74 30c, 169 75 303, 16b 75 304, 16d 75 306, 16f 75 30a, 171 75 30b,
  173 75 328, 175 77 302, 177 79 302, 17a 7a 301, 17c 7a 307, 17e 7a 30c, 1a1 6f 31b,
  1b0 75 31b, 1ce 61 30c, 1d0 69 30c, 1d2 6f 30c, 1d4 75 30c, 1d6 fc 304, 1d8 fc 301,
  1da fc 30c, 1dc fc 300, 1df e4 304, 1e1 227 304, 1e3 e6 304, 1e7 67 30c, 1e9 6b 30c,
  1eb 6f 328, 1ed 1eb 304, 1ef 292 30c, 1f0 6a 30c, 1f5 67 301, 1f9 6e 300, 1fb e5 301,
  1fd e6 301, 1ff f8 301, 201 61 30f, 203 61 311, 205 65 30f, 207 65 311, 209 69 30f,
  20b 69 311, 20d 6f 30f, 20f 6f 311, 211 72 30f, 213 72 311, 215 75 30f, 217 75 311,
  219 73 326, 21b 74 326, 21f 68 30c, 227 61 307, 229 65 327, 22b f6 304, 22d f5 304,
  22f 6f 307, 231 22f 304, 233 79 304, 390 3ca 301, 3ac 3b1 301, 3ad 3b5 301, 3ae 3b7 301,
  3af 3b9 301, 3b0 3cb 301, 3ca 3b9 308, 3cb 3c5 308, 3cc 3bf 301, 3cd 3c5 301, 3ce 3c9 301,
  439 438 306, 450 435 300, 451 435 308, 453 433 301, 457 456 308, 45c 43a 301, 45d 438 300,
  45e 443 306, 477 475 30f, 4c2 436 306, 4d1 430 306, 4d3 430 308, 4d7 435 306, 4db 4d9 308,
  4dd 436 308, 4df 437 308, 4e3 438 304, 4e5 438 308, 4e7 43e 308, 4eb 4e9 308, 4ed 44d 308,
  4ef 443 304, 4f1 443 308, 4f3 443 30b, 4f5 447 308, 4f9 44b 308, 622 627 653, 623 627 654,
  624 648 654, 625 627 655, 626 64a 654, 6c0 6d5 654, 6c2 6c1 654, 6d3 6d2 654, 929 928 93c,
  931 930 93c, 934 933 93c, 9cb 9c7 9be, 9cc 9c7 9d7, b48 b47 b56, b4b b47 b3e, b4c b47 b57,
  b94 b92 bd7, bca bc6 bbe, bcb bc7 bbe, bcc bc6 bd7, c48 c46 c56, cc0 cbf cd5, cc7 cc6 cd5,
  cc8 cc6 cd6, cca cc6 cc2, ccb cca cd5, d4a d46 d3e, d4b d47 d3e, d4c d46 d57, dda dd9 dca,
  ddc dd9 dcf, ddd ddc dca, dde dd9 ddf, 1026 1025 102e, 1b06 1b05 1b35, 1b08 1b07 1b35,
  1b0a 1b09 1b35, 1b0c 1b0b 1b35, 1b0e 1b0d 1b35, 1b12 1b11 1b35, 1b3b 1b3a 1b35,
  1b3d 1b3c 1b35, 1b40 1b3e 1b35, 1b41 1b3f 1b35, 1b43 1b42 1b35, 1e01 61 325, 1e03 62 307,
  1e05 62 323, 1e07 62 331, 1e09 e7 301, 1e0b 64 307, 1e0d 64 323, 1e0f 64 331, 1e11 64 327,
  1e13 64 32d, 1e15 113 300, 1e17 113 301, 1e19 65 32d, 1e1b 65 330, 1e1d 229 306, 1e1f 66 307,
  1e21 67 304, 1e23 68 307, 1e25 68 323, 1e27 68 308, 1e29 68 327, 1e2b 68 32e, 1e2d 69 330,
  1e2f ef 301, 1e31 6b 301, 1e33 6b 323, 1e35 6b 331, 1e37 6c 323, 1e39 1e37 304, 1e3b 6c 331,
  1e3d 6c 32d, 1e3f 6d 301, 1e41 6d 307, 1e43 6d 323, 1e45 6e 307, 1e47 6e 323, 1e49 6e 331,
  1e4b 6e 32d, 1e4d f5 301, 1e4f f5 308, 1e51 14d 300, 1e53 14d 301, 1e55 70 301, 1e57 70 307,
  1e59 72 307, 1e5b 72 323, 1e5d 1e5b 304, 1e5f 72 331, 1e61 73 307, 1e63 73 323, 1e65 15b 307,
  1e67 161 307, 1e69 1e63 307, 1e6b 74 307, 1e6d 74 323, 1e6f 74 331, 1e71 74 32d, 1e73 75 324,
  1e75 75 330, 1e77 75 32d, 1e79 169 301, 1e7b 16b 308, 1e7d 76 303, 1e7f 76 323, 1e81 77 300,
  1e83 77 301, 1e85 77 308, 1e87 77 307, 1e89 77 323, 1e8b 78 307, 1e8d 78 308, 1e8f 79 307,
  1e91 7a 302, 1e93 7a 323, 1e95 7a 331, 1e96 68 331, 1e97 74 308, 1e98 77 30a, 1e99 79 30a,
  1ea1 61 323, 1ea3 61 309, 1ea5 e2 301, 1ea7 e2 300, 1ea9 e2 309, 1eab e2 303, 1ead 1ea1 302,
  1eaf 103 301, 1eb1 103 300, 1eb3 103 309, 1eb5 103 303, 1eb7 1ea1 306, 1eb9 65 323,
  1ebb 65 309, 1ebd 65 303, 1ebf ea 301, 1ec1 ea 300, 1ec3 ea 309, 1ec5 ea 303, 1ec7 1eb9 302,
  1ec9 69 309, 1ecb 69 323, 1ecd 6f 323, 1ecf 6f 309, 1ed1 f4 301, 1ed3 f4 300, 1ed5 f4 309,
  1ed7 f4 303, 1ed9 1ecd 302, 1edb 1a1 301, 1edd 1a1 300, 1edf 1a1 309, 1ee1 1a1 303,
  1ee3 1a1 323, 1ee5 75 323, 1ee7 75 309, 1ee9 1b0 301, 1eeb 1b0 300, 1eed 1b0 309,
  1eef 1b0 303, 1ef1 1b0 323, 1ef3 79 300, 1ef5 79 323, 1ef7 79 309, 1ef9 79 303, 1f00 3b1 313,
  1f01 3b1 314, 1f02 1f00 300, 1f03 1f01 300, 1f04 1f00 301, 1f05 1f01 301, 1f06 1f00 342,
  1f07 1f01 342, 1f10 3b5 313, 1f11 3b5 314, 1f12 1f10 300, 1f13 1f11 300, 1f14 1f10 301,
  1f15 1f11 301, 1f20 3b7 313, 1f21 3b7 314, 1f22 1f20 300, 1f23 1f21 300, 1f24 1f20 301,
  1f25 1f21 301, 1f26 1f20 342, 1f27 1f21 342, 1f30 3b9 313, 1f31 3b9 314, 1f32 1f30 300,
  1f33 1f31 300, 1f34 1f30 301, 1f35 1f31 301, 1f36 1f30 342, 1f37 1f31 342, 1f40 3bf 313,
  1f41 3bf 314, 1f42 1f40 300, 1f43 1f41 300, 1f44 1f40 301, 1f45 1f41 301, 1f50 3c5 313,
  1f51 3c5 314, 1f52 1f50 300, 1f53 1f51 300, 1f54 1f50 301, 1f55 1f51 301, 1f56 1f50 342,
  1f57 1f51 342, 1f60 3c9 313, 1f61 3c9 314, 1f62 1f60 300, 1f63 1f61 300, 1f64 1f60 301,
  1f65 1f61 301, 1f66 1f60 342, 1f67 1f61 342, 1f70 3b1 300, 1f72 3b5 300, 1f74 3b7 300,
  1f76 3b9 300, 1f78 3bf 300, 1f7a 3c5 300, 1f7c 3c9 300, 1fb0 3b1 306, 1fb1 3b1 304,
  1fb6 3b1 342, 1fc6 3b7 342, 1fd0 3b9 306, 1fd1 3b9 304, 1fd2 3ca 300, 1fd6 3b9 342,
  1fd7 3ca 342, 1fe0 3c5 306, 1fe1 3c5 304, 1fe2 3cb 300, 1fe4 3c1 313, 1fe5 3c1 314,
  1fe6 3c5 342, 1fe7 3cb 342, 1ff6 3c9 342, 219a 2190 338, 219b 2192 338, 21ae 2194 338,
  21cd 21d0 338, 21ce 21d4 338, 21cf 21d2 338, 2204 2203 338, 2209 2208 338, 220c 220b 338,
  2224 2223 338, 2226 2225 338, 2241 223c 338, 2244 2243 338, 2247 2245 338, 2249 2248 338,
  2260 3d 338, 2262 2261 338, 226d 224d 338, 226e 3c 338, 226f 3e 338, 2270 2264 338,
  2271 2265 338, 2274 2272 338, 2275 2273 338, 2278 2276 338, 2279 2277 338, 2280 227a 338,
  2281 227b 338, 2284 2282 338, 2285 2283 338, 2288 2286 338, 2289 2287 338, 22ac 22a2 338,
  22ad 22a8 338, 22ae 22a9 338, 22af 22ab 338, 22e0 227c 338, 22e1 227d 338, 22e2 2291 338,
  22e3 2292 338, 22ea 22b2 338, 22eb 22b3 338, 22ec 22b4 338, 22ed 22b5 338, 304c 304b 3099,
  304e 304d 3099, 3050 304f 3099, 3052 3051 3099, 3054 3053 3099, 3056 3055 3099,
  3058 3057 3099, 305a 3059 3099, 305c 305b 3099, 305e 305d 3099, 3060 305f 3099,
  3062 3061 3099, 3065 3064 3099, 3067 3066 3099, 3069 3068 3099, 3070 306f 3099,
  3071 306f 309a, 3073 3072 3099, 3074 3072 309a, 3076 3075 3099, 3077 3075 309a,
  3079 3078 3099, 307a 3078 309a, 307c 307b 3099, 307d 307b 309a, 3094 3046 3099,
  309e 309d 3099, 30ac 30ab 3099, 30ae 30ad 3099, 30b0 30af 3099, 30b2 30b1 3099,
  30b4 30b3 3099, 30b6 30b5 3099, 30b8 30b7 3099, 30ba 30b9 3099, 30bc 30bb 3099,
  30be 30bd 3099, 30c0 30bf 3099, 30c2 30c1 3099, 30c5 30c4 3099, 30c7 30c6 3099,
  30c9 30c8 3099, 30d0 30cf 3099, 30d1 30cf 309a, 30d3 30d2 3099, 30d4 30d2 309a,
  30d6 30d5 3099, 30d7 30d5 309a, 30d9 30d8 3099, 30da 30d8 309a, 30dc 30db 3099,
  30dd 30db 309a, 30f4 30a6 3099, 30f7 30ef 3099, 30f8 30f0 3099, 30f9 30f1 3099,
  30fa 30f2 3099, 30fe 30fd 3099, 1109a 11099 110ba, 1109c 1109b 110ba, 110ab 110a5 110ba,
  1112e 11131 11127, 1112f 11132 11127, 1134b 11347 1133e, 1134c 11347 11357, 114bb 114b9 114ba,
  114bc 114b9 114b0, 114be 114b9 114bd, 115ba 115b8 115af, 115bb 115b9 115af, 11938 11935 11930"

/-! ## Syllables -/

/-- The first syllable that is composed of a leading consonant and a vowel, how many of them have
the same consonant, and how many the same consonant and vowel. -/
def firstSyllable : Nat := 0xac00

def lastSyllable : Nat := 0xd7a3

def endings : Nat := 28

def vowels : Nat := 21

def firstLeading : Nat := 0x1100

def firstVowel : Nat := 0x1161

/-- The place of an ending before the first one, as a syllable may have none. -/
def noEnding : Nat := 0x11a7

/-- The consonant, the vowel and the ending of a syllable. -/
def syllableParts? (c : Char) : Option (List Char) :=
  if firstSyllable ≤ c.toNat && c.toNat ≤ lastSyllable then
    let n := c.toNat - firstSyllable
    let head := [Char.ofNat (firstLeading + n / endings / vowels),
      Char.ofNat (firstVowel + n / endings % vowels)]
    some (if n % endings == 0 then head else head ++ [Char.ofNat (noEnding + n % endings)])
  else none

/-- The syllable of a consonant and a vowel, or of a syllable without ending and an ending. -/
def syllable? (a b : Char) : Option Char :=
  if firstLeading ≤ a.toNat && a.toNat < firstLeading + 19
      && firstVowel ≤ b.toNat && b.toNat < firstVowel + vowels then
    some (Char.ofNat (firstSyllable
      + ((a.toNat - firstLeading) * vowels + (b.toNat - firstVowel)) * endings))
  else if firstSyllable ≤ a.toNat && a.toNat ≤ lastSyllable
      && (a.toNat - firstSyllable) % endings == 0
      && noEnding < b.toNat && b.toNat < noEnding + endings then
    some (Char.ofNat (a.toNat + (b.toNat - noEnding)))
  else none

/-! ## The composed form -/

/-- The two characters that one is composed of. -/
def parts? (c : Char) : Option (Char × Char) :=
  if c.toNat < 128 then none
  else
    match compositionTable.find? (·.head? == some c.toNat) with
    | some [_, a, b] => some (Char.ofNat a, Char.ofNat b)
    | _ => none

/-- The character that two are composed to. -/
def composed? (a b : Char) : Option Char :=
  if b.toNat < 128 then none
  else
    match syllable? a b with
    | some c => some c
    | none =>
      match compositionTable.find? (·.tail == [a.toNat, b.toNat]) with
      | some (c :: _) => some (Char.ofNat c)
      | _ => none

/-- A character apart, as far as so many marks behind its letter. -/
def taken (marks : Nat) (c : Char) : List Char :=
  match marks with
  | 0 => [c]
  | marks + 1 =>
    match parts? c with
    | some (a, b) => taken marks a ++ [b]
    | none => [c]

/-- No character is composed of a letter and more marks. -/
def mostMarks : Nat := 2

/-- The characters of which one is composed. -/
def decomposed (c : Char) : List Char := (syllableParts? c).getD (taken mostMarks c)

/-- A mark goes before the marks that follow it and have a later place. -/
def insertMark (c : Char) : List Char → List Char
  | [] => [c]
  | d :: rest =>
    if markPlace d != 0 && markPlace d < markPlace c then d :: insertMark c rest
    else c :: d :: rest

/-- The marks behind each letter in the order of their places. -/
def withMarksOrdered (cs : List Char) : List Char := cs.foldr insertMark []

/-- The composed form of a letter, the marks that stay behind it, the last one first, and a text
that follows. A mark joins its letter unless one of the marks between goes to the same place. -/
def composeFrom (letter : Char) (marks : List Char) : List Char → List Char
  | [] => letter :: marks.reverse
  | c :: rest =>
    let joined :=
      if marks.all (markPlace · < markPlace c) then composed? letter c else none
    match joined with
    | some composed => composeFrom composed marks rest
    | none =>
      if markPlace c == 0 then letter :: marks.reverse ++ composeFrom c [] rest
      else composeFrom letter (c :: marks) rest

/-- The composed form of a text. -/
def composedForm (cs : List Char) : List Char :=
  if cs.all (·.toNat < 128) then cs
  else
    match withMarksOrdered (cs.flatMap decomposed) with
    | [] => []
    | c :: rest => composeFrom c [] rest

end Formwork.Url
