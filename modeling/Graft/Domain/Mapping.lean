import Graft.Text.CharTable

/-!
# Characters of domain names

A domain name is compared without regard to case, width and similar differences, so each of its
characters is replaced before anything else: by itself, by others, or by nothing. Some characters
may not be used at all.
-/

namespace Graft.Domain

/-- Characters that stay. Those that composing a text replaces count among them. -/
def allowed : CharSet :=
  CharSet.ofSteps "0 41 1a 25 21 7 1 1 1 2 1 1 1 2 4 2 3 1 3 1 17 1 7 21 1 1 1 1 1 1 1 1 1 1 1 1 1
    1 1 1 1 1 1 1 1 1 1 1 1 1 1 1 1 1 1 1 1 1 1 1 1 1 1 1 1 1 1 1 1 1 1 1 1 1 3 1 1 2 1 1 1 1 1 1
    3 1 1 1 1 1 1 1 2 1 1 1 1 1 1 1 1 1 1 1 1 1 1 1 1 1 1 1 1 1 1 1 1 1 1 1 1 1 1 1 1 1 1 1 1 1 1
    1 1 1 1 1 1 1 2 1 1 1 1 1 1 1 2 1 1 1 2 1 3 2 4 1 2 1 3 3 2 1 2 1 1 1 1 1 2 1 1 2 1 1 2 1 3 1
    1 1 2 3 1 7 a 1 1 1 1 1 1 1 1 1 1 1 1 1 1 2 1 1 1 1 1 1 1 1 1 1 1 1 1 1 1 1 1 2 4 1 3 1 1 1 1
    1 1 1 1 1 1 1 1 1 1 1 1 1 1 1 1 1 1 1 1 1 1 1 1 1 1 1 1 1 1 1 1 1 1 1 1 1 1 1 1 1 1 1 1 1 1 1
    1 1 1 1 1 1 1 7 2 1 2 2 1 1 4 1 1 1 1 1 1 1 1 61 9 1f 6 2 5 60 1 9 1 20 1 1 1 3 1 1 3 4 8 1 8
    1 1b 23 8 1 1 1 1 1 1 1 1 1 1 1 1 1 1 1 1 1 1 1 1 1 1 1 1 1 3 1 2 1 1 1 2 2 33 30 1 1 1 1 1 1
    1 1 1 1 1 1 1 1 1 1 1 1 1 1 1 1 1 1 1 1 1 1 1 1 1 1 1 9 1 1 1 1 1 1 1 1 1 1 1 1 1 1 1 1 1 1 1
    1 1 1 1 1 1 1 1 1 1 1 1 1 1 1 1 1 1 1 1 1 1 1 1 1 1 1 1 1 1 1 1 1 1 1 2 1 1 1 1 1 1 1 1 1 1 1
    1 2 1 1 1 1 1 1 1 1 1 1 1 1 1 1 1 1 1 1 1 1 1 1 1 1 1 1 1 1 1 1 1 1 1 1 1 1 1 1 1 1 1 1 1 1 1
    1 1 1 1 1 1 1 1 1 1 1 1 1 1 1 1 1 1 1 1 1 1 1 1 1 1 1 1 1 1 1 1 1 1 1 1 1 1 1 1 1 1 1 1 1 1 1
    1 1 1 1 29 2e 1 3 2 3 1 37 8 1b 4 6 11 16 1 58 4 64 1 30 2 3b 2 65 e 3b 2 31 2 f 1 1c 2 1 1 b
    5 20 7 4b 1 a1 1 8 2 2 2 16 1 7 1 1 3 4 2 9 2 2 2 4 8 1 4 2 1 5 2 19 2 3 1 6 4 2 2 16 1 7 1 2
    1 2 1 2 2 1 1 5 4 2 2 3 3 1 7 4 1 1 7 11 a 3 1 9 1 3 1 16 1 7 1 2 1 5 2 a 1 3 1 3 2 1 f 4 2 c
    7 7 1 3 1 8 2 2 2 16 1 7 1 2 1 5 2 9 2 2 2 3 7 3 4 2 1 5 2 12 a 2 1 6 3 3 1 4 3 2 1 1 1 2 3 2
    3 3 3 c 4 5 3 3 1 4 2 1 6 1 e 15 5 d 1 3 1 17 1 10 2 9 1 3 1 4 7 2 1 3 1 2 2 4 2 a 7 16 1 3 1
    17 1 a 1 5 2 9 1 3 1 4 7 2 5 3 1 4 2 a 1 3 c d 1 3 1 33 1 3 1 6 4 10 2 1a 1 3 1 12 3 18 1 9 1
    1 2 7 3 1 4 6 1 1 1 8 6 a 2 3 c 32 1 7 4 1d 25 2 1 1 1 5 1 18 1 1 1 c 1 a 2 5 1 1 1 7 1 a 4 2
    20 c 1 3b 1 24 4 6 1 1 1 1e 1 24 1 f 1 d 25 a0 30 2c 1 62 2 e8 1 4 2 7 1 1 1 4 2 29 1 4 2 21 1
    4 2 7 1 1 1 4 2 f 1 39 1 4 2 43 2 20 3 1a 6 56 a 280 1 1c 3 59 7 16 9 18 9 14 c d 1 3 1 2 c 34
    2 28 2 a 6 a 6 b 5 a 6 59 7 2b 5 46 a 1f 1 c 4 c 4 1 3 2a 2 5 b 2c 4 1a 6 b 3 3e 2 41 1 1d 2 b
    6 a 6 e 2 2e 2 c 14 4d 1 a6 8 3c 3 f 3 33 a 1 35 8 8 2b 5 2c 3 1 b 1 12 1 1c d 1 22 25 40 1 1
    1 1 1 1 1 1 1 1 1 1 1 1 1 1 1 1 1 1 1 1 1 1 1 1 1 1 1 1 1 1 1 1 1 1 1 1 1 1 1 1 1 1 1 1 1 1 1
    1 1 1 1 1 1 1 1 1 1 1 1 1 1 1 1 1 1 1 1 1 1 1 1 1 1 1 1 1 1 1 1 1 1 1 1 1 1 1 1 1 1 1 1 1 1 1
    1 1 1 1 1 1 1 1 1 1 1 1 1 1 1 1 1 1 1 1 1 1 1 1 1 1 1 1 1 1 1 1 1 1 1 1 1 1 1 1 1 1 1 1 1 1 1
    1 1 1 1 1 1 5 2 2 1 1 1 1 1 1 1 1 1 1 1 1 1 1 1 1 1 1 1 1 1 1 1 1 1 1 1 1 1 1 1 1 1 1 1 1 1 1
    1 1 1 1 1 1 1 1 1 1 1 1 1 1 1 1 1 1 1 1 1 1 1 1 1 1 1 1 1 1 1 1 1 1 1 1 1 1 1 1 1 1 1 1 1 1 1
    1 1 1 1 1 1 1 1 1 1 1 1 9 8 6 a 8 8 8 8 6 a 8 8 8 8 e 32 2 4 1 7 1 7 1 9 4 2 2 8 8 7 1 6 1 15
    2 2 1 1 5 1 c 3 1 8 3 2 1 2 4 1 1 1 8 3 d 1 7 41 8 1 19 e 21 13 1 3 1 b 1 2 2 5 2 3 1 1 1 1 1
    1 1 4 1 b 1 6 4 5 6 30 3 1 5 1 2 4 9c 2 1 2 1f9 16 b a0 521 1 67 3 fd 2 8a 30 30 1 1 3 2 1 1 1
    1 1 1 4 1 1 2 1 6 5 1 1 1 1 1 1 1 1 1 1 1 1 1 1 1 1 1 1 1 1 1 1 1 1 1 1 1 1 1 1 1 1 1 1 1 1 1
    1 1 1 1 1 1 1 1 1 1 1 1 1 1 1 1 1 1 1 1 1 1 1 1 1 1 1 1 1 1 1 1 1 1 1 1 1 1 1 1 1 1 1 1 1 1 1
    1 1 1 1 1 1 1 1 1 1 1 1 1 1 8 1 1 1 4 1 1 5 2d 1 1 5 1 2 38 8 1 e 18 9 7 1 7 1 7 1 7 1 7 1 7 1
    7 1 7 1 7e 22 1a 1 4 1 53 10e 1 1 33 1 1 3 5 1 56 2 2 2 2 1 5f 6 2b 60 2 e 46 a 10 48 8 2f 1
    180 708d 3 37 9 15c 15 1 1 1 1 1 1 1 1 1 1 1 1 1 1 1 1 1 1 1 1 1 1 1 1 1 1 1 1 1 1 1 1 1 1 1 1
    1 1 1 1 1 1 1 1 13 1 1 1 1 1 1 1 1 1 1 1 1 1 1 1 1 1 1 1 1 1 1 1 1 1 1 1 1 2 5a 8 22 1 1 1 1 1
    1 1 1 1 1 1 1 1 3 1 1 1 1 1 1 1 1 1 1 1 1 1 1 1 1 1 1 1 1 1 1 1 1 1 1 1 1 1 1 1 1 1 1 1 1 1 1
    1 1 1 1 1 1 1 1 1 1 1 1 1 1 1 1 1 1 1 1 1 1 1 1 1 8 1 1 1 1 2 1 1 1 1 1 1 1 1 4 1 1 1 2 1 1 1
    3 1 1 1 1 1 1 1 1 1 1 1 1 1 1 1 1 1 1 1 1 5 1 5 1 1 1 1 1 1 1 1 1 1 1 1 1 1 1 4 1 1 1 2 1 1 1
    1 1 1 1 1 1 1 1 1 1 1 1 1a 2 2 33 3 a 6 38 8 46 8 c 6 74 b 1e 3 4e 1 b 4 21 1 37 9 e 2 a 2 67
    18 1c a 6 2 6 2 6 9 7 1 7 1 2c 4 9 1 2 54 2e 2 a 6 2ba4 c 17 4 31 2104 16e 2 6a 43 3 a d 1 5 1
    1 1 2 1 2 1 9 63 21 16b 12 40 2 36 8 2d 3 20 10 15 2 2c 1 18c c 1 1a 1 13 1 2 1 f 2 e 22 7b 5
    3 4 2d 3 58 1 d 3 1 2f 2e 82 1d 3 31 f 1c 4 24 9 1e 5 2b 5 1e 1 25 4 e 52 76 2 a 2e 24 4 28 8
    34 b 1 27 b 1 f 1 7 1 2 3 34 c 137 9 16 a 8 18 1 7f 6 2 1 1 2c 1 2 3 1 2 17 1 48 8 9 30 13 1 2
    5 21 3 1b 5 1b 26 38 4 14 2 32 1 2 5 8 1 3 1 1d 2 3 4 a 7 9 7 40 20 27 4 c 9 36 3 1d 2 1b 5 1a
    7 4 c 7 50 49 77 33 7 2e 8 a 6 10 19 1d 8 2 d0 1f 1 2a 1 3 2 2 10 6 8 9 21 2e 8 2a 16 1a 26 1c
    14 17 9 4e 4 24 9 3e 1 5 d 19 7 a 6 35 1 12 8 27 9 60 1 14 b 12 1 2f 3e 7 1 1 1 4 1 f 1 b 6 3b
    5 a 6 4 1 8 2 2 2 16 1 7 1 2 1 5 1 a 2 2 2 3 2 1 6 1 5 7 2 7 3 5 b a 1 1 2 1 1 26 1 a 1 1 2 1
    1 4 1 a 1 2 8 2 1d 5c 1 5 1e 48 8 a a6 36 2 26 22 45 b a 6 d 13 3a 6 a 6 14 1c 1b 2 f 4 17 b9
    3c 84 33 c 8 2 1 2 8 1 2 1 1e 1 2 2 c 9 a 46 8 2 2e 2 b 1b 48 8 53 d 49 7 a 56 8 58 22 e a 6 9
    1 2d 1 e a 1d 3 20 2 16 1 e 49 7 1 2 1 2c 3 1 1 2 1 9 8 a 6 6 1 2 1 25 1 2 1 6 7 a 6 2c 4 a f6
    19 7 11 1 29 3 1d 55 1 f 32 d 39b 66 6f 1 5 b c4 a4c 63 d 430 10 16 a f9b 5 247 1ab9 3a 6c6
    239 7 1f 1 a 4 51 1 a 6 1e 2 6 a 46 a a 1 7 1 15 5 13 1b0 3a e6 3b 20 19 2c 4b 4 39 7 11 40 5
    b 7 9 1cd6 29 20 61 73 21fd 4 1 7 1 2 1 123 f 1 1d 3 2 1 e 4 8 18c 904 6b 5 d 3 9 7 a 2 4 f60
    d6 24 3 3 1b4 6 17 f 11 f 2e 2 17 9 74 3c f6 a 27 2 4a 8 70 15 46 7a 14 c 14 c 57 9 19 487 28c
    f 5 1 f 450 1f 6 6 d5 7 1 11 2 7 1 2 1 5 64 1 70 2d 3 e 2 a 4 2 140 1f 11 3a 5 1 1d0 2a d6 2b
    4 1 c0 1f 1 16 8 2 e0 7 1 4 1 2 1 f 1 c5 2 10 4b 2a 4 a 4 2 311 44 4c 3d 1b2 2 10e 2c 4 64 c f
    2 f 1 f 1 25 15 5 1f 1 20 1a 3 23 1 1d 38 1a 60 6 9a 3d9 3 11 3 d 3 da 6 c 4 1 f c 4 38 8 a 6
    28 8 1e 2 c 4 2 e 9 27 158 8 e 2 d 3 b 3 39 1 1 4 10 2 c 4 a 7 93 1 5c a 1 405 a6e0 20 111e 2
    168e 2 1d31 f 26e 9a2 21e 5e2 134b 5 212a"

/-- Characters that vanish. -/
def vanishing : CharSet :=
  CharSet.ofSteps "ad 1 2a1 1 e0f 2 653 2 55 5 7fb 1 54 5 5 6 10f4 1 cc9b 10 ef 1 a0 1 bcff 4 14cf
    8 c2f85 f0"

/-- Characters that are replaced by one other. -/
def replacements : ShiftTable :=
  ShiftTable.ofText "41 19 1 61 46 0 1 20 a 0 1 61 8 1 1 32 2 0 1 3bc 4 0 1 31 1 0 1 6f 6 16 1 e0
    2 6 1 f8 22 2e 2 101 6 2 2 135 3 4 2 13a 4 6 2 142 3 2c 2 14b 2 0 1 ff 1 4 2 17a 2 0 1 73 2 0
    1 253 1 2 2 183 2 0 1 254 1 0 1 188 2 1 1 256 1 0 1 18c 3 0 1 1dd 1 0 1 259 1 0 1 25b 1 0 1
    192 2 0 1 260 1 0 1 263 2 0 1 269 1 0 1 268 1 0 1 199 4 0 1 26f 1 0 1 272 2 0 1 275 1 4 2 1a1
    2 0 1 280 1 0 1 1a8 2 0 1 283 3 0 1 1ad 2 0 1 288 1 0 1 1b0 2 1 1 28a 1 2 2 1b4 2 0 1 292 1 0
    1 1b9 4 0 1 1bd 11 e 2 1ce 3 10 2 1df 6 0 1 1f5 2 0 1 195 1 0 1 1bf 1 26 2 1f9 2 0 1 19e 2 10
    2 223 8 0 1 2c65 1 0 1 23c 2 0 1 19a 1 0 1 2c66 3 0 1 242 2 0 1 180 1 0 1 289 1 0 1 28c 1 8 2
    247 62 0 1 68 1 0 1 266 1 0 1 6a 1 0 1 72 1 0 1 279 1 0 1 27b 1 0 1 281 1 0 1 77 1 0 1 79 28 0
    1 263 1 0 1 6c 1 0 1 73 1 0 1 78 1 0 1 295 61 0 1 3b9 2b 2 2 371 4 0 1 377 9 0 1 3f3 7 0 1 3ac
    2 2 1 3ad 2 0 1 3cc 2 1 1 3cd 2 10 1 3b1 2 8 1 3c3 24 0 1 3d7 1 0 1 3b2 1 0 1 3b8 1 0 1 3c5 1
    0 1 3cd 1 0 1 3cb 1 0 1 3c6 1 0 1 3c0 2 16 2 3d9 2 0 1 3ba 1 0 1 3c1 1 0 1 3c3 2 0 1 3b8 1 0 1
    3b5 2 0 1 3f8 2 0 1 3c3 1 0 1 3fb 3 2 1 37b 1 f 1 450 1 1f 1 430 31 20 2 461 a 34 2 48b 2 0 1
    4cf 1 c 2 4c2 3 5e 2 4d1 3 25 1 561 9b6 0 1 f0b 194 25 1 2d00 2 0 1 2d27 6 0 1 2d2d 2f 0 1
    10dc 2fc 5 1 13f0 883 0 1 432 1 0 1 434 1 0 1 43e 1 1 1 441 1 0 1 442 1 0 1 44a 1 0 1 463 1 0
    1 a64b 1 0 1 1c8a 7 2a 1 10d0 3 2 1 10fd 6d 0 1 61 1 0 1 e6 1 2 2 62 1 0 1 65 1 0 1 1dd 1 7 1
    67 2 0 1 6f 1 0 1 223 1 0 1 70 1 0 1 72 1 1 1 74 1 0 1 77 1 0 1 61 1 1 1 250 1 0 1 1d02 1 0 1
    62 1 1 1 64 1 0 1 259 1 1 1 25b 1 0 1 67 2 0 1 6b 1 0 1 6d 1 0 1 14b 1 0 1 6f 1 0 1 254 1 1 1
    1d16 1 0 1 70 1 1 1 74 1 0 1 1d1d 1 0 1 26f 1 0 1 76 1 0 1 1d25 1 2 1 3b2 1 1 1 3c6 1 0 1 69 1
    0 1 72 1 1 1 75 1 1 1 3b2 1 0 1 3c1 1 1 1 3c6 e 0 1 43d 23 0 1 252 1 0 1 63 1 0 1 255 1 0 1 f0
    1 0 1 25c 1 0 1 66 1 0 1 25f 1 0 1 261 1 0 1 265 1 2 1 268 1 0 1 1d7b 1 0 1 29d 1 0 1 26d 1 0
    1 1d85 1 0 1 29f 1 0 1 271 1 0 1 270 1 3 1 272 1 0 1 278 1 1 1 282 1 0 1 1ab 1 1 1 289 1 0 1
    1d1c 1 1 1 28b 1 0 1 7a 1 2 1 290 1 0 1 3b8 41 94 2 1e01 7 0 1 1e61 3 0 1 df 2 5e 2 1ea1 a 7 1
    1f00 9 5 1 1f10 b 7 1 1f20 9 7 1 1f30 9 5 1 1f40 c 6 2 1f51 9 7 1 1f60 49 1 1 1fb0 1 0 1 1f70
    1 0 1 3ac d 0 1 1f72 1 0 1 3ad 1 0 1 1f74 1 0 1 3ae d 1 1 1fd0 1 0 1 1f76 1 0 1 3af d 1 1 1fe0
    1 0 1 1f7a 1 0 1 3cd 1 0 1 1fe5 c 0 1 1f78 1 0 1 3cc 1 0 1 1f7c 1 0 1 3ce 5 0 1 20 1 0 1 20 1
    0 1 20 1 0 1 20 1 0 1 20 1 0 1 20 1 0 1 20 1 0 1 20 1 0 1 20 1 0 1 20 1 0 1 20 7 0 1 2010 1e 0
    1 20 30 0 1 20 11 0 1 30 1 0 1 69 3 5 1 34 1 0 1 2b 1 0 1 2212 1 0 1 3d 1 1 1 28 1 0 1 6e 1 9
    1 30 1 0 1 2b 1 0 1 2212 1 0 1 3d 1 1 1 28 2 0 1 61 1 0 1 65 1 0 1 6f 1 0 1 78 1 0 1 259 1 0 1
    68 1 3 1 6b 1 0 1 70 1 1 1 73 66 0 1 63 5 0 1 25b 3 1 1 67 1 0 1 68 1 0 1 68 1 0 1 68 1 0 1
    127 1 0 1 69 1 0 1 69 1 0 1 6c 1 2 2 6c 4 2 1 70 1 0 1 72 1 0 1 72 7 0 1 7a 2 0 1 3c9 2 0 1 7a
    2 0 1 6b 1 0 1 e5 1 1 1 62 2 0 1 65 1 1 1 65 1 0 1 214e 1 0 1 6d 1 0 1 6f 1 3 1 5d0 1 0 1 69 3
    0 1 3c0 1 0 1 3b3 1 0 1 3b3 1 0 1 3c0 1 0 1 2211 5 0 1 64 1 1 1 64 1 1 1 69 17 0 1 69 4 0 1 76
    5 0 1 78 3 0 1 6c 1 1 1 63 1 0 1 6d 1 0 1 69 4 0 1 76 5 0 1 78 3 0 1 6c 1 1 1 63 1 0 1 6d 4 0
    1 2184 2dd 8 1 31 4e 19 1 61 1 19 1 61 1 0 1 30 716 2f 1 2c30 31 0 1 2c61 2 0 1 26b 1 0 1 1d7d
    1 0 1 27d 3 4 2 2c68 2 0 1 251 1 0 1 271 1 0 1 250 1 0 1 252 2 0 1 2c73 3 0 1 2c76 7 0 1 6a 1
    0 1 76 1 1 1 23f 1 62 2 2c81 9 2 2 2cec 5 0 1 2cf3 7d 0 1 2d61 130 0 1 6bcd 54 0 1 9f9f d 0 1
    4e00 1 0 1 4e28 1 0 1 4e36 1 0 1 4e3f 1 0 1 4e59 1 0 1 4e85 1 0 1 4e8c 1 0 1 4ea0 1 0 1 4eba 1
    0 1 513f 1 0 1 5165 1 0 1 516b 1 0 1 5182 1 0 1 5196 1 0 1 51ab 1 0 1 51e0 1 0 1 51f5 1 0 1
    5200 1 0 1 529b 1 0 1 52f9 1 0 1 5315 1 0 1 531a 1 0 1 5338 1 0 1 5341 1 0 1 535c 1 0 1 5369 1
    0 1 5382 1 0 1 53b6 1 0 1 53c8 1 0 1 53e3 1 0 1 56d7 1 0 1 571f 1 0 1 58eb 1 0 1 5902 1 0 1
    590a 1 0 1 5915 1 0 1 5927 1 0 1 5973 1 0 1 5b50 1 0 1 5b80 1 0 1 5bf8 1 0 1 5c0f 1 0 1 5c22 1
    0 1 5c38 1 0 1 5c6e 1 0 1 5c71 1 0 1 5ddb 1 0 1 5de5 1 0 1 5df1 1 0 1 5dfe 1 0 1 5e72 1 0 1
    5e7a 1 0 1 5e7f 1 0 1 5ef4 1 0 1 5efe 1 0 1 5f0b 1 0 1 5f13 1 0 1 5f50 1 0 1 5f61 1 0 1 5f73 1
    0 1 5fc3 1 0 1 6208 1 0 1 6236 1 0 1 624b 1 0 1 652f 1 0 1 6534 1 0 1 6587 1 0 1 6597 1 0 1
    65a4 1 0 1 65b9 1 0 1 65e0 1 0 1 65e5 1 0 1 66f0 1 0 1 6708 1 0 1 6728 1 0 1 6b20 1 0 1 6b62 1
    0 1 6b79 1 0 1 6bb3 1 0 1 6bcb 1 0 1 6bd4 1 0 1 6bdb 1 0 1 6c0f 1 0 1 6c14 1 0 1 6c34 1 0 1
    706b 1 0 1 722a 1 0 1 7236 1 0 1 723b 1 0 1 723f 1 0 1 7247 1 0 1 7259 1 0 1 725b 1 0 1 72ac 1
    0 1 7384 1 0 1 7389 1 0 1 74dc 1 0 1 74e6 1 0 1 7518 1 0 1 751f 1 0 1 7528 1 0 1 7530 1 0 1
    758b 1 0 1 7592 1 0 1 7676 1 0 1 767d 1 0 1 76ae 1 0 1 76bf 1 0 1 76ee 1 0 1 77db 1 0 1 77e2 1
    0 1 77f3 1 0 1 793a 1 0 1 79b8 1 0 1 79be 1 0 1 7a74 1 0 1 7acb 1 0 1 7af9 1 0 1 7c73 1 0 1
    7cf8 1 0 1 7f36 1 0 1 7f51 1 0 1 7f8a 1 0 1 7fbd 1 0 1 8001 1 0 1 800c 1 0 1 8012 1 0 1 8033 1
    0 1 807f 1 0 1 8089 1 0 1 81e3 1 0 1 81ea 1 0 1 81f3 1 0 1 81fc 1 0 1 820c 1 0 1 821b 1 0 1
    821f 1 0 1 826e 1 0 1 8272 1 0 1 8278 1 0 1 864d 1 0 1 866b 1 0 1 8840 1 0 1 884c 1 0 1 8863 1
    0 1 897e 1 0 1 898b 1 0 1 89d2 1 0 1 8a00 1 0 1 8c37 1 0 1 8c46 1 0 1 8c55 1 0 1 8c78 1 0 1
    8c9d 1 0 1 8d64 1 0 1 8d70 1 0 1 8db3 1 0 1 8eab 1 0 1 8eca 1 0 1 8f9b 1 0 1 8fb0 1 0 1 8fb5 1
    0 1 9091 1 0 1 9149 1 0 1 91c6 1 0 1 91cc 1 0 1 91d1 1 0 1 9577 1 0 1 9580 1 0 1 961c 1 0 1
    96b6 1 0 1 96b9 1 0 1 96e8 1 0 1 9751 1 0 1 975e 1 0 1 9762 1 0 1 9769 1 0 1 97cb 1 0 1 97ed 1
    0 1 97f3 1 0 1 9801 1 0 1 98a8 1 0 1 98db 1 0 1 98df 1 0 1 9996 1 0 1 9999 1 0 1 99ac 1 0 1
    9aa8 1 0 1 9ad8 1 0 1 9adf 1 0 1 9b25 1 0 1 9b2f 1 0 1 9b32 1 0 1 9b3c 1 0 1 9b5a 1 0 1 9ce5 1
    0 1 9e75 1 0 1 9e7f 1 0 1 9ea5 1 0 1 9ebb 1 0 1 9ec3 1 0 1 9ecd 1 0 1 9ed1 1 0 1 9ef9 1 0 1
    9efd 1 0 1 9f0e 1 0 1 9f13 1 0 1 9f20 1 0 1 9f3b 1 0 1 9f4a 1 0 1 9f52 1 0 1 9f8d 1 0 1 9f9c 1
    0 1 9fa0 2b 0 1 20 2 0 1 2e 34 0 1 3012 2 0 1 5341 1 1 1 5344 f7 1 1 1100 1 0 1 11aa 1 0 1
    1102 1 1 1 11ac 1 2 1 1103 1 5 1 11b0 1 0 1 111a 1 2 1 1106 1 0 1 1121 1 9 1 1109 1 14 1 1161
    2 1 1 1114 1 1 1 11c7 1 0 1 11cc 1 0 1 11ce 1 0 1 11d3 1 0 1 11d7 1 0 1 11d9 1 0 1 111c 1 0 1
    11dd 1 0 1 11df 1 1 1 111d 1 0 1 1120 1 1 1 1122 1 0 1 1127 1 0 1 1129 1 4 1 112b 1 0 1 1132 1
    0 1 1136 1 0 1 1140 1 0 1 1147 1 0 1 114c 1 1 1 11f1 1 2 1 1157 1 1 1 1184 1 0 1 1188 1 1 1
    1191 1 0 1 1194 1 0 1 119e 1 0 1 11a1 4 0 1 4e00 1 0 1 4e8c 1 0 1 4e09 1 0 1 56db 1 0 1 4e0a 1
    0 1 4e2d 1 0 1 4e0b 1 0 1 7532 1 0 1 4e59 1 0 1 4e19 1 0 1 4e01 1 0 1 5929 1 0 1 5730 1 0 1
    4eba a5 0 1 554f 1 0 1 5e7c 1 0 1 6587 1 0 1 7b8f 19 0 1 1100 1 1 1 1102 1 2 1 1105 1 0 1 1109
    1 1 1 110b 1 4 1 110e 1 0 1 ac00 1 0 1 b098 1 0 1 b2e4 1 0 1 b77c 1 0 1 b9c8 1 0 1 bc14 1 0 1
    c0ac 1 0 1 c544 1 0 1 c790 1 0 1 cc28 1 0 1 ce74 1 0 1 d0c0 1 0 1 d30c 1 0 1 d558 3 0 1 c6b0 2
    0 1 4e00 1 0 1 4e8c 1 0 1 4e09 1 0 1 56db 1 0 1 4e94 1 0 1 516d 1 0 1 4e03 1 0 1 516b 1 0 1
    4e5d 1 0 1 5341 1 0 1 6708 1 0 1 706b 1 0 1 6c34 1 0 1 6728 1 0 1 91d1 1 0 1 571f 1 0 1 65e5 1
    0 1 682a 1 0 1 6709 1 0 1 793e 1 0 1 540d 1 0 1 7279 1 0 1 8ca1 1 0 1 795d 1 0 1 52b4 1 0 1
    79d8 1 0 1 7537 1 0 1 5973 1 0 1 9069 1 0 1 512a 1 0 1 5370 1 0 1 6ce8 1 0 1 9805 1 0 1 4f11 1
    0 1 5199 1 0 1 6b63 1 0 1 4e0a 1 0 1 4e2d 1 0 1 4e0b 1 0 1 5de6 1 0 1 53f3 1 0 1 533b 1 0 1
    5b97 1 0 1 5b66 1 0 1 76e3 1 0 1 4f01 1 0 1 8cc7 1 0 1 5354 1 0 1 591c 20 0 1 30a2 1 0 1 30a4
    1 0 1 30a6 1 0 1 30a8 1 1 1 30aa 1 0 1 30ad 1 0 1 30af 1 0 1 30b1 1 0 1 30b3 1 0 1 30b5 1 0 1
    30b7 1 0 1 30b9 1 0 1 30bb 1 0 1 30bd 1 0 1 30bf 1 0 1 30c1 1 0 1 30c4 1 0 1 30c6 1 0 1 30c8 1
    5 1 30ca 1 0 1 30d2 1 0 1 30d5 1 0 1 30d8 1 0 1 30db 1 4 1 30de 1 0 1 30e4 1 0 1 30e6 1 5 1
    30e8 1 3 1 30ef 7342 2c 2 a641 14 1a 2 a681 2 0 1 44a 1 0 1 44c 85 c 2 a723 4 3c 2 a733 2 0 1
    a76f 9 2 2 a77a 2 0 1 1d79 1 8 2 a77f 5 0 1 a78c 2 0 1 265 3 2 2 a791 4 12 2 a797 2 0 1 266 1
    0 1 25c 1 0 1 261 1 0 1 26c 1 0 1 26a 2 0 1 29e 1 0 1 287 1 0 1 29d 1 0 1 ab53 1 e 2 a7b5 2 0
    1 a794 1 0 1 282 1 0 1 1d8e 1 2 2 a7c8 2 0 1 264 1 e 2 a7cd 2 0 1 19b 15 0 1 73 1 0 1 63 1 0 1
    66 1 0 1 71 1 0 1 a7f6 3 0 1 127 1 0 1 153 363 0 1 a727 1 0 1 ab37 1 0 1 26b 1 0 1 ab52 a 0 1
    28d 7 4f 1 13a0 4f61 0 1 5e2 1 0 1 5d0 1 1 1 5d3 1 2 1 5db 1 0 1 5e8 1 0 1 5ea 1 0 1 2b 27 0 1
    671 1 0 1 671 1 0 1 67b 1 0 1 67b 1 0 1 67b 1 0 1 67b 1 0 1 67e 1 0 1 67e 1 0 1 67e 1 0 1 67e
    1 0 1 680 1 0 1 680 1 0 1 680 1 0 1 680 1 0 1 67a 1 0 1 67a 1 0 1 67a 1 0 1 67a 1 0 1 67f 1 0
    1 67f 1 0 1 67f 1 0 1 67f 1 0 1 679 1 0 1 679 1 0 1 679 1 0 1 679 1 0 1 6a4 1 0 1 6a4 1 0 1
    6a4 1 0 1 6a4 1 0 1 6a6 1 0 1 6a6 1 0 1 6a6 1 0 1 6a6 1 0 1 684 1 0 1 684 1 0 1 684 1 0 1 684
    1 0 1 683 1 0 1 683 1 0 1 683 1 0 1 683 1 0 1 686 1 0 1 686 1 0 1 686 1 1 1 686 1 0 1 687 1 0
    1 687 1 0 1 687 1 0 1 68d 1 0 1 68d 1 0 1 68c 1 0 1 68c 1 0 1 68e 1 0 1 68e 1 0 1 688 1 0 1
    688 1 0 1 698 1 0 1 698 1 0 1 691 1 0 1 691 1 0 1 6a9 1 0 1 6a9 1 0 1 6a9 1 0 1 6a9 1 0 1 6af
    1 0 1 6af 1 0 1 6af 1 0 1 6af 1 0 1 6b3 1 0 1 6b3 1 0 1 6b3 1 0 1 6b3 1 0 1 6b1 1 0 1 6b1 1 0
    1 6b1 1 0 1 6b1 1 0 1 6ba 1 1 1 6ba 1 0 1 6bb 1 0 1 6bb 1 0 1 6bb 1 0 1 6c0 1 1 1 6c0 1 0 1
    6c1 1 0 1 6c1 1 0 1 6c1 1 0 1 6be 1 0 1 6be 1 0 1 6be 1 0 1 6be 1 0 1 6d2 1 1 1 6d2 1 0 1 6d3
    22 0 1 6ad 1 0 1 6ad 1 0 1 6ad 1 0 1 6ad 1 0 1 6c7 1 0 1 6c7 1 0 1 6c6 1 0 1 6c6 1 0 1 6c8 1 0
    1 6c8 2 0 1 6cb 1 0 1 6cb 1 0 1 6c5 1 0 1 6c5 1 0 1 6c9 1 0 1 6c9 1 0 1 6d0 1 0 1 6d0 1 0 1
    6d0 1 0 1 6d0 1 0 1 649 1 0 1 649 13 0 1 6cc 1 0 1 6cc 1 0 1 6cc 1 0 1 6cc 211 0 1 2c 1 0 1
    3001 2 1 1 3a 1 0 1 21 1 0 1 3f 1 1 1 3016 19 0 1 2014 1 0 1 2013 1 0 1 5f 1 0 1 5f 1 1 1 28 1
    0 1 7b 1 0 1 7d 1 1 1 3014 1 1 1 3010 1 1 1 300a 1 1 1 3008 1 3 1 300c 3 0 1 5b 1 0 1 5d 5 0 1
    5f 1 0 1 5f 1 0 1 5f 1 0 1 2c 1 0 1 3001 3 0 1 3b 1 0 1 3a 1 0 1 3f 1 0 1 21 1 0 1 2014 1 1 1
    28 1 0 1 7b 1 0 1 7d 1 1 1 3014 1 0 1 23 1 0 1 26 1 1 1 2a 1 0 1 2d 1 0 1 3c 1 0 1 3e 1 0 1 3d
    2 0 1 5c 1 1 1 24 1 0 1 40 15 1 1 621 1 1 1 622 1 1 1 623 1 1 1 624 1 1 1 625 1 0 1 626 1 0 1
    626 1 1 1 626 1 1 1 627 1 0 1 628 1 0 1 628 1 1 1 628 1 1 1 629 1 0 1 62a 1 0 1 62a 1 1 1 62a
    1 0 1 62b 1 0 1 62b 1 1 1 62b 1 0 1 62c 1 0 1 62c 1 1 1 62c 1 0 1 62d 1 0 1 62d 1 1 1 62d 1 0
    1 62e 1 0 1 62e 1 1 1 62e 1 1 1 62f 1 1 1 630 1 1 1 631 1 1 1 632 1 0 1 633 1 0 1 633 1 1 1
    633 1 0 1 634 1 0 1 634 1 1 1 634 1 0 1 635 1 0 1 635 1 1 1 635 1 0 1 636 1 0 1 636 1 1 1 636
    1 0 1 637 1 0 1 637 1 1 1 637 1 0 1 638 1 0 1 638 1 1 1 638 1 0 1 639 1 0 1 639 1 1 1 639 1 0
    1 63a 1 0 1 63a 1 0 1 63a 1 0 1 641 1 0 1 641 1 0 1 641 1 1 1 641 1 0 1 642 1 0 1 642 1 1 1
    642 1 0 1 643 1 0 1 643 1 1 1 643 1 0 1 644 1 0 1 644 1 1 1 644 1 0 1 645 1 0 1 645 1 1 1 645
    1 0 1 646 1 0 1 646 1 1 1 646 1 0 1 647 1 0 1 647 1 1 1 647 1 1 1 648 1 1 1 649 1 0 1 64a 1 0
    1 64a 1 0 1 64a d 1f 1 21 1 19 1 61 1 23 1 5b 1 1 1 2985 1 0 1 2e 1 1 1 300c 1 0 1 3001 1 0 1
    30fb 1 0 1 30f2 1 0 1 30a1 1 0 1 30a3 1 0 1 30a5 1 0 1 30a7 1 0 1 30a9 1 0 1 30e3 1 0 1 30e5 1
    0 1 30e7 1 0 1 30c3 1 0 1 30fc 1 0 1 30a2 1 0 1 30a4 1 0 1 30a6 1 0 1 30a8 1 1 1 30aa 1 0 1
    30ad 1 0 1 30af 1 0 1 30b1 1 0 1 30b3 1 0 1 30b5 1 0 1 30b7 1 0 1 30b9 1 0 1 30bb 1 0 1 30bd 1
    0 1 30bf 1 0 1 30c1 1 0 1 30c4 1 0 1 30c6 1 0 1 30c8 1 5 1 30ca 1 0 1 30d2 1 0 1 30d5 1 0 1
    30d8 1 0 1 30db 1 4 1 30de 1 0 1 30e4 1 0 1 30e6 1 5 1 30e8 1 0 1 30ef 1 0 1 30f3 1 1 1 3099 2
    1 1 1100 1 0 1 11aa 1 0 1 1102 1 1 1 11ac 1 2 1 1103 1 5 1 11b0 1 0 1 111a 1 2 1 1106 1 0 1
    1121 1 9 1 1109 4 5 1 1161 3 5 1 1167 3 5 1 116d 3 2 1 1173 4 1 1 a2 1 0 1 ac 2 0 1 a6 1 0 1
    a5 1 0 1 20a9 2 0 1 2502 1 3 1 2190 1 0 1 25a0 1 0 1 25cb 412 27 1 10428 89 23 1 104d8 9d a 1
    10597 2 e 1 105a3 2 6 1 105b3 2 1 1 105bb 1ec 1 1 2d0 1 0 1 e6 1 0 1 299 1 0 1 253 2 0 1 2a3 1
    0 1 ab66 1 0 1 2a5 1 0 1 2a4 1 1 1 256 1 0 1 1d91 1 0 1 258 1 0 1 25e 1 0 1 2a9 1 0 1 264 1 0
    1 262 1 0 1 260 1 0 1 29b 1 0 1 127 1 0 1 29c 1 0 1 267 1 0 1 284 1 1 1 2aa 1 0 1 26c 1 0 1
    1df04 1 0 1 a78e 1 0 1 26e 1 0 1 1df05 1 0 1 28e 1 0 1 1df06 1 0 1 f8 1 1 1 276 1 0 1 71 1 0 1
    27a 1 0 1 1df08 1 1 1 27d 1 0 1 280 1 0 1 2a8 1 0 1 2a6 1 0 1 ab67 1 0 1 2a7 1 0 1 288 1 0 1
    2c71 2 0 1 28f 1 1 1 2a1 1 0 1 298 1 2 1 1c0 1 0 1 1df0a 1 0 1 1df1e 4c6 32 1 10cc0 9e 15 1
    10d70 b3b 1f 1 118c0 5581 1f 1 16e60 41 18 1 16ebb 5e1e 19 1 61 1 9 1 30 707 19 1 61 1 19 1 61
    1 19 1 61 1 6 1 61 2 11 1 69 1 19 1 61 1 19 1 61 1 2 2 61 1 0 1 64 3 0 1 67 3 1 1 6a 3 3 1 6e
    2 7 1 73 1 3 1 61 2 2 2 66 1 5 1 69 2 a 1 70 1 19 1 61 1 19 1 61 1 1 1 61 2 3 1 64 3 7 1 6a 2
    6 1 73 2 19 1 61 1 1 1 61 2 3 1 64 2 4 1 69 2 0 1 6f 4 6 1 73 2 19 1 61 1 19 1 61 1 19 1 61 1
    19 1 61 1 19 1 61 1 19 1 61 1 19 1 61 1 19 1 61 1 19 1 61 1 19 1 61 1 19 1 61 1 19 1 61 1 19 1
    61 1 0 1 131 1 0 1 237 3 10 1 3b1 1 0 1 3b8 1 6 1 3c3 1 0 1 2207 1 10 1 3b1 1 0 1 3c3 1 6 1
    3c3 1 0 1 2202 1 0 1 3b5 1 0 1 3b8 1 0 1 3ba 1 0 1 3c6 1 0 1 3c1 1 0 1 3c0 1 10 1 3b1 1 0 1
    3b8 1 6 1 3c3 1 0 1 2207 1 10 1 3b1 1 0 1 3c3 1 6 1 3c3 1 0 1 2202 1 0 1 3b5 1 0 1 3b8 1 0 1
    3ba 1 0 1 3c6 1 0 1 3c1 1 0 1 3c0 1 10 1 3b1 1 0 1 3b8 1 6 1 3c3 1 0 1 2207 1 10 1 3b1 1 0 1
    3c3 1 6 1 3c3 1 0 1 2202 1 0 1 3b5 1 0 1 3b8 1 0 1 3ba 1 0 1 3c6 1 0 1 3c1 1 0 1 3c0 1 10 1
    3b1 1 0 1 3b8 1 6 1 3c3 1 0 1 2207 1 10 1 3b1 1 0 1 3c3 1 6 1 3c3 1 0 1 2202 1 0 1 3b5 1 0 1
    3b8 1 0 1 3ba 1 0 1 3c6 1 0 1 3c1 1 0 1 3c0 1 10 1 3b1 1 0 1 3b8 1 6 1 3c3 1 0 1 2207 1 10 1
    3b1 1 0 1 3c3 1 6 1 3c3 1 0 1 2202 1 0 1 3b5 1 0 1 3b8 1 0 1 3ba 1 0 1 3c6 1 0 1 3c1 1 0 1 3c0
    1 0 1 3dd 1 0 1 3dd 3 9 1 30 1 9 1 30 1 9 1 30 1 9 1 30 1 9 1 30 831 8 1 430 1 2 1 43a 1 a 1
    43e 1 0 1 44b 1 1 1 44d 1 0 1 a689 1 0 1 4d9 1 0 1 456 1 0 1 458 1 0 1 4e9 1 0 1 4af 1 0 1 4cf
    1 8 1 430 1 1 1 43a 1 1 1 43e 1 0 1 441 1 5 1 443 1 1 1 44a 1 0 1 491 1 0 1 456 1 0 1 455 1 0
    1 45f 1 0 1 4ab 1 0 1 a651 1 0 1 4b1 893 21 1 1e922 4df 1 1 627 1 0 1 62c 1 0 1 62f 2 0 1 648
    1 0 1 632 1 0 1 62d 1 0 1 637 1 0 1 64a 1 3 1 643 1 0 1 633 1 0 1 639 1 0 1 641 1 0 1 635 1 0
    1 642 1 0 1 631 1 0 1 634 1 1 1 62a 1 0 1 62e 1 0 1 630 1 0 1 636 1 0 1 638 1 0 1 63a 1 0 1
    66e 1 0 1 6ba 1 0 1 6a1 1 0 1 66f 2 0 1 628 1 0 1 62c 2 0 1 647 3 0 1 62d 2 0 1 64a 1 3 1 643
    1 0 1 633 1 0 1 639 1 0 1 641 1 0 1 635 1 0 1 642 2 0 1 634 1 1 1 62a 1 0 1 62e 2 0 1 636 2 0
    1 63a 7 0 1 62c 5 0 1 62d 2 0 1 64a 2 2 2 644 1 0 1 633 1 0 1 639 2 0 1 635 1 0 1 642 2 0 1
    634 3 0 1 62e 2 0 1 636 2 0 1 63a 2 0 1 6ba 2 0 1 66f 2 0 1 628 1 0 1 62c 2 0 1 647 3 0 1 62d
    1 0 1 637 1 0 1 64a 1 2 2 643 1 0 1 646 1 0 1 633 1 0 1 639 1 0 1 641 1 0 1 635 1 0 1 642 2 0
    1 634 1 1 1 62a 1 0 1 62e 2 0 1 636 1 0 1 638 1 0 1 63a 1 0 1 66e 2 0 1 6a1 2 1 1 627 1 0 1
    62c 1 0 1 62f 1 1 1 647 1 0 1 632 1 0 1 62d 1 0 1 637 1 0 1 64a 2 2 1 644 1 0 1 633 1 0 1 639
    1 0 1 641 1 0 1 635 1 0 1 642 1 0 1 631 1 0 1 634 1 1 1 62a 1 0 1 62e 1 0 1 630 1 0 1 636 1 0
    1 638 1 0 1 63a 6 0 1 628 1 0 1 62c 1 0 1 62f 2 0 1 648 1 0 1 632 1 0 1 62d 1 0 1 637 1 0 1
    64a 2 2 1 644 1 0 1 633 1 0 1 639 1 0 1 641 1 0 1 635 1 0 1 642 1 0 1 631 1 0 1 634 1 1 1 62a
    1 0 1 62e 1 0 1 630 1 0 1 636 1 0 1 638 1 0 1 63a 270 0 1 63 1 0 1 72 4 19 1 61 b9 0 1 30b5 e
    0 1 624b 1 0 1 5b57 1 0 1 53cc 1 0 1 30c7 1 0 1 4e8c 1 0 1 591a 1 0 1 89e3 1 0 1 5929 1 0 1
    4ea4 1 0 1 6620 1 0 1 7121 1 0 1 6599 1 0 1 524d 1 0 1 5f8c 1 0 1 518d 1 0 1 65b0 1 0 1 521d 1
    0 1 7d42 1 0 1 751f 1 0 1 8ca9 1 0 1 58f0 1 0 1 5439 1 0 1 6f14 1 0 1 6295 1 0 1 6355 1 0 1
    4e00 1 0 1 4e09 1 0 1 904a 1 0 1 5de6 1 0 1 4e2d 1 0 1 53f3 1 0 1 6307 1 0 1 8d70 1 0 1 6253 1
    0 1 7981 1 0 1 7a7a 1 0 1 5408 1 0 1 6e80 1 0 1 6709 1 0 1 6708 1 0 1 7533 1 0 1 5272 1 0 1
    55b6 1 0 1 914d 15 0 1 5f97 1 0 1 53ef 99f 9 1 30"

/-- Characters that are replaced by several others. -/
def spellings : SpellingTable :=
  SpellingTable.ofText "a8 2 20 308 7 2 20 304 5 2 20 301 4 2 20 327 4 3 31 2044 34 1 3 31 2044 32
    1 3 33 2044 34 72 2 69 307 2 2 69 6a 1 2 69 6a c 2 6c b7 1 2 6c b7 9 2 2bc 6e 7b 2 64 17e 1 2
    64 17e 1 2 64 17e 1 2 6c 6a 1 2 6c 6a 1 2 6c 6a 1 2 6e 6a 1 2 6e 6a 1 2 6e 6a 25 2 64 7a 1 2
    64 7a 1 2 64 7a e5 2 20 306 1 2 20 307 1 2 20 30a 1 2 20 328 1 2 20 303 1 2 20 30b 9d 2 20 3b9
    a 2 20 301 1 3 20 308 301 202 2 565 582 ee 2 627 674 1 2 648 674 1 2 6c7 674 1 2 64a 674 7bb 2
    e4d e32 80 2 ecd eb2 29 2 eab e99 1 2 eab ea1 9a 3 fb2 f71 f80 2 3 fb3 f71 f80 f21 2 61 2be e6
    2 1f00 3b9 1 2 1f01 3b9 1 2 1f02 3b9 1 2 1f03 3b9 1 2 1f04 3b9 1 2 1f05 3b9 1 2 1f06 3b9 1 2
    1f07 3b9 1 2 1f00 3b9 1 2 1f01 3b9 1 2 1f02 3b9 1 2 1f03 3b9 1 2 1f04 3b9 1 2 1f05 3b9 1 2
    1f06 3b9 1 2 1f07 3b9 1 2 1f20 3b9 1 2 1f21 3b9 1 2 1f22 3b9 1 2 1f23 3b9 1 2 1f24 3b9 1 2
    1f25 3b9 1 2 1f26 3b9 1 2 1f27 3b9 1 2 1f20 3b9 1 2 1f21 3b9 1 2 1f22 3b9 1 2 1f23 3b9 1 2
    1f24 3b9 1 2 1f25 3b9 1 2 1f26 3b9 1 2 1f27 3b9 1 2 1f60 3b9 1 2 1f61 3b9 1 2 1f62 3b9 1 2
    1f63 3b9 1 2 1f64 3b9 1 2 1f65 3b9 1 2 1f66 3b9 1 2 1f67 3b9 1 2 1f60 3b9 1 2 1f61 3b9 1 2
    1f62 3b9 1 2 1f63 3b9 1 2 1f64 3b9 1 2 1f65 3b9 1 2 1f66 3b9 1 2 1f67 3b9 3 2 1f70 3b9 1 2 3b1
    3b9 1 2 3ac 3b9 3 2 1fb6 3b9 5 2 3b1 3b9 1 2 20 313 2 2 20 313 1 2 20 342 1 3 20 308 342 1 2
    1f74 3b9 1 2 3b7 3b9 1 2 3ae 3b9 3 2 1fc6 3b9 5 2 3b7 3b9 1 3 20 313 300 1 3 20 313 301 1 3 20
    313 342 e 3 20 314 300 1 3 20 314 301 1 3 20 314 342 e 3 20 308 300 1 3 20 308 301 4 2 1f7c
    3b9 1 2 3c9 3b9 1 2 3ce 3b9 3 2 1ff6 3b9 5 2 3c9 3b9 1 2 20 301 1 2 20 314 19 2 20 333 1c 2
    2032 2032 1 3 2032 2032 2032 2 2 2035 2035 1 3 2035 2035 2035 5 2 21 21 2 2 20 305 9 2 3f 3f 1
    2 3f 21 1 2 21 3f e 4 2032 2032 2032 2032 51 2 72 73 58 3 61 2f 63 1 3 61 2f 73 2 2 b0 63 2 3
    63 2f 6f 1 3 63 2f 75 3 2 b0 66 d 2 6e 6f a 2 73 6d 1 3 74 65 6c 1 2 74 6d 19 3 66 61 78 15 3
    31 2044 37 1 3 31 2044 39 1 4 31 2044 31 30 1 3 31 2044 33 1 3 32 2044 33 1 3 31 2044 35 1 3
    32 2044 35 1 3 33 2044 35 1 3 34 2044 35 1 3 31 2044 36 1 3 35 2044 36 1 3 31 2044 38 1 3 33
    2044 38 1 3 35 2044 38 1 3 37 2044 38 1 2 31 2044 2 2 69 69 1 3 69 69 69 1 2 69 76 2 2 76 69 1
    3 76 69 69 1 4 76 69 69 69 1 2 69 78 2 2 78 69 1 3 78 69 69 6 2 69 69 1 3 69 69 69 1 2 69 76 2
    2 76 69 1 3 76 69 69 1 4 76 69 69 69 1 2 69 78 2 2 78 69 1 3 78 69 69 e 3 30 2044 33 a3 2 222b
    222b 1 3 222b 222b 222b 2 2 222e 222e 1 3 222e 222e 222e 239 2 31 30 1 2 31 31 1 2 31 32 1 2
    31 33 1 2 31 34 1 2 31 35 1 2 31 36 1 2 31 37 1 2 31 38 1 2 31 39 1 2 32 30 1 3 28 31 29 1 3
    28 32 29 1 3 28 33 29 1 3 28 34 29 1 3 28 35 29 1 3 28 36 29 1 3 28 37 29 1 3 28 38 29 1 3 28
    39 29 1 4 28 31 30 29 1 4 28 31 31 29 1 4 28 31 32 29 1 4 28 31 33 29 1 4 28 31 34 29 1 4 28
    31 35 29 1 4 28 31 36 29 1 4 28 31 37 29 1 4 28 31 38 29 1 4 28 31 39 29 1 4 28 32 30 29 15 3
    28 61 29 1 3 28 62 29 1 3 28 63 29 1 3 28 64 29 1 3 28 65 29 1 3 28 66 29 1 3 28 67 29 1 3 28
    68 29 1 3 28 69 29 1 3 28 6a 29 1 3 28 6b 29 1 3 28 6c 29 1 3 28 6d 29 1 3 28 6e 29 1 3 28 6f
    29 1 3 28 70 29 1 3 28 71 29 1 3 28 72 29 1 3 28 73 29 1 3 28 74 29 1 3 28 75 29 1 3 28 76 29
    1 3 28 77 29 1 3 28 78 29 1 3 28 79 29 1 3 28 7a 29 557 4 222b 222b 222b 222b 68 3 3a 3a 3d 1
    2 3d 3d 1 3 3d 3d 3d 625 2 20 3099 1 2 20 309a 3 2 3088 308a 60 2 30b3 30c8 101 3 28 1100 29 1
    3 28 1102 29 1 3 28 1103 29 1 3 28 1105 29 1 3 28 1106 29 1 3 28 1107 29 1 3 28 1109 29 1 3 28
    110b 29 1 3 28 110c 29 1 3 28 110e 29 1 3 28 110f 29 1 3 28 1110 29 1 3 28 1111 29 1 3 28 1112
    29 1 3 28 ac00 29 1 3 28 b098 29 1 3 28 b2e4 29 1 3 28 b77c 29 1 3 28 b9c8 29 1 3 28 bc14 29 1
    3 28 c0ac 29 1 3 28 c544 29 1 3 28 c790 29 1 3 28 cc28 29 1 3 28 ce74 29 1 3 28 d0c0 29 1 3 28
    d30c 29 1 3 28 d558 29 1 3 28 c8fc 29 1 4 28 c624 c804 29 1 4 28 c624 d6c4 29 2 3 28 4e00 29 1
    3 28 4e8c 29 1 3 28 4e09 29 1 3 28 56db 29 1 3 28 4e94 29 1 3 28 516d 29 1 3 28 4e03 29 1 3 28
    516b 29 1 3 28 4e5d 29 1 3 28 5341 29 1 3 28 6708 29 1 3 28 706b 29 1 3 28 6c34 29 1 3 28 6728
    29 1 3 28 91d1 29 1 3 28 571f 29 1 3 28 65e5 29 1 3 28 682a 29 1 3 28 6709 29 1 3 28 793e 29 1
    3 28 540d 29 1 3 28 7279 29 1 3 28 8ca1 29 1 3 28 795d 29 1 3 28 52b4 29 1 3 28 4ee3 29 1 3 28
    547c 29 1 3 28 5b66 29 1 3 28 76e3 29 1 3 28 4f01 29 1 3 28 8cc7 29 1 3 28 5354 29 1 3 28 796d
    29 1 3 28 4f11 29 1 3 28 81ea 29 1 3 28 81f3 29 d 3 70 74 65 1 2 32 31 1 2 32 32 1 2 32 33 1 2
    32 34 1 2 32 35 1 2 32 36 1 2 32 37 1 2 32 38 1 2 32 39 1 2 33 30 1 2 33 31 1 2 33 32 1 2 33
    33 1 2 33 34 1 2 33 35 1d 2 cc38 ace0 1 2 c8fc c758 34 2 33 36 1 2 33 37 1 2 33 38 1 2 33 39 1
    2 34 30 1 2 34 31 1 2 34 32 1 2 34 33 1 2 34 34 1 2 34 35 1 2 34 36 1 2 34 37 1 2 34 38 1 2 34
    39 1 2 35 30 1 2 31 6708 1 2 32 6708 1 2 33 6708 1 2 34 6708 1 2 35 6708 1 2 36 6708 1 2 37
    6708 1 2 38 6708 1 2 39 6708 1 3 31 30 6708 1 3 31 31 6708 1 3 31 32 6708 1 2 68 67 1 3 65 72
    67 1 2 65 76 1 3 6c 74 64 30 2 4ee4 548c 1 4 30a2 30d1 30fc 30c8 1 4 30a2 30eb 30d5 30a1 1 4
    30a2 30f3 30da 30a2 1 3 30a2 30fc 30eb 1 4 30a4 30cb 30f3 30b0 1 3 30a4 30f3 30c1 1 3 30a6
    30a9 30f3 1 5 30a8 30b9 30af 30fc 30c9 1 4 30a8 30fc 30ab 30fc 1 3 30aa 30f3 30b9 1 3 30aa
    30fc 30e0 1 3 30ab 30a4 30ea 1 4 30ab 30e9 30c3 30c8 1 4 30ab 30ed 30ea 30fc 1 3 30ac 30ed
    30f3 1 3 30ac 30f3 30de 1 2 30ae 30ac 1 3 30ae 30cb 30fc 1 4 30ad 30e5 30ea 30fc 1 4 30ae 30eb
    30c0 30fc 1 2 30ad 30ed 1 5 30ad 30ed 30b0 30e9 30e0 1 6 30ad 30ed 30e1 30fc 30c8 30eb 1 5
    30ad 30ed 30ef 30c3 30c8 1 3 30b0 30e9 30e0 1 5 30b0 30e9 30e0 30c8 30f3 1 5 30af 30eb 30bc
    30a4 30ed 1 4 30af 30ed 30fc 30cd 1 3 30b1 30fc 30b9 1 3 30b3 30eb 30ca 1 3 30b3 30fc 30dd 1 4
    30b5 30a4 30af 30eb 1 5 30b5 30f3 30c1 30fc 30e0 1 4 30b7 30ea 30f3 30b0 1 3 30bb 30f3 30c1 1
    3 30bb 30f3 30c8 1 3 30c0 30fc 30b9 1 2 30c7 30b7 1 2 30c9 30eb 1 2 30c8 30f3 1 2 30ca 30ce 1
    3 30ce 30c3 30c8 1 3 30cf 30a4 30c4 1 5 30d1 30fc 30bb 30f3 30c8 1 3 30d1 30fc 30c4 1 4 30d0
    30fc 30ec 30eb 1 5 30d4 30a2 30b9 30c8 30eb 1 3 30d4 30af 30eb 1 2 30d4 30b3 1 2 30d3 30eb 1 5
    30d5 30a1 30e9 30c3 30c9 1 4 30d5 30a3 30fc 30c8 1 5 30d6 30c3 30b7 30a7 30eb 1 3 30d5 30e9
    30f3 1 5 30d8 30af 30bf 30fc 30eb 1 2 30da 30bd 1 3 30da 30cb 30d2 1 3 30d8 30eb 30c4 1 3 30da
    30f3 30b9 1 3 30da 30fc 30b8 1 3 30d9 30fc 30bf 1 4 30dd 30a4 30f3 30c8 1 3 30dc 30eb 30c8 1 2
    30db 30f3 1 3 30dd 30f3 30c9 1 3 30db 30fc 30eb 1 3 30db 30fc 30f3 1 4 30de 30a4 30af 30ed 1 3
    30de 30a4 30eb 1 3 30de 30c3 30cf 1 3 30de 30eb 30af 1 5 30de 30f3 30b7 30e7 30f3 1 4 30df
    30af 30ed 30f3 1 2 30df 30ea 1 5 30df 30ea 30d0 30fc 30eb 1 2 30e1 30ac 1 4 30e1 30ac 30c8
    30f3 1 4 30e1 30fc 30c8 30eb 1 3 30e4 30fc 30c9 1 3 30e4 30fc 30eb 1 3 30e6 30a2 30f3 1 4 30ea
    30c3 30c8 30eb 1 2 30ea 30e9 1 3 30eb 30d4 30fc 1 4 30eb 30fc 30d6 30eb 1 2 30ec 30e0 1 5 30ec
    30f3 30c8 30b2 30f3 1 3 30ef 30c3 30c8 1 2 30 70b9 1 2 31 70b9 1 2 32 70b9 1 2 33 70b9 1 2 34
    70b9 1 2 35 70b9 1 2 36 70b9 1 2 37 70b9 1 2 38 70b9 1 2 39 70b9 1 3 31 30 70b9 1 3 31 31 70b9
    1 3 31 32 70b9 1 3 31 33 70b9 1 3 31 34 70b9 1 3 31 35 70b9 1 3 31 36 70b9 1 3 31 37 70b9 1 3
    31 38 70b9 1 3 31 39 70b9 1 3 32 30 70b9 1 3 32 31 70b9 1 3 32 32 70b9 1 3 32 33 70b9 1 3 32
    34 70b9 1 3 68 70 61 1 2 64 61 1 2 61 75 1 3 62 61 72 1 2 6f 76 1 2 70 63 1 2 64 6d 1 3 64 6d
    32 1 3 64 6d 33 1 2 69 75 1 2 5e73 6210 1 2 662d 548c 1 2 5927 6b63 1 2 660e 6cbb 1 4 682a
    5f0f 4f1a 793e 1 2 70 61 1 2 6e 61 1 2 3bc 61 1 2 6d 61 1 2 6b 61 1 2 6b 62 1 2 6d 62 1 2 67
    62 1 3 63 61 6c 1 4 6b 63 61 6c 1 2 70 66 1 2 6e 66 1 2 3bc 66 1 2 3bc 67 1 2 6d 67 1 2 6b 67
    1 2 68 7a 1 3 6b 68 7a 1 3 6d 68 7a 1 3 67 68 7a 1 3 74 68 7a 1 2 3bc 6c 1 2 6d 6c 1 2 64 6c 1
    2 6b 6c 1 2 66 6d 1 2 6e 6d 1 2 3bc 6d 1 2 6d 6d 1 2 63 6d 1 2 6b 6d 1 3 6d 6d 32 1 3 63 6d 32
    1 2 6d 32 1 3 6b 6d 32 1 3 6d 6d 33 1 3 63 6d 33 1 2 6d 33 1 3 6b 6d 33 1 3 6d 2215 73 1 4 6d
    2215 73 32 1 2 70 61 1 3 6b 70 61 1 3 6d 70 61 1 3 67 70 61 1 3 72 61 64 1 5 72 61 64 2215 73
    1 6 72 61 64 2215 73 32 1 2 70 73 1 2 6e 73 1 2 3bc 73 1 2 6d 73 1 2 70 76 1 2 6e 76 1 2 3bc
    76 1 2 6d 76 1 2 6b 76 1 2 6d 76 1 2 70 77 1 2 6e 77 1 2 3bc 77 1 2 6d 77 1 2 6b 77 1 2 6d 77
    1 2 6b 3c9 1 2 6d 3c9 2 2 62 71 1 2 63 63 1 2 63 64 1 4 63 2215 6b 67 2 2 64 62 1 2 67 79 1 2
    68 61 1 2 68 70 1 2 69 6e 1 2 6b 6b 1 2 6b 6d 1 2 6b 74 1 2 6c 6d 1 2 6c 6e 1 3 6c 6f 67 1 2
    6c 78 1 2 6d 62 1 3 6d 69 6c 1 3 6d 6f 6c 1 2 70 68 2 3 70 70 6d 1 2 70 72 1 2 73 72 1 2 73 76
    1 2 77 62 1 3 76 2215 6d 1 3 61 2215 6d 1 2 31 65e5 1 2 32 65e5 1 2 33 65e5 1 2 34 65e5 1 2 35
    65e5 1 2 36 65e5 1 2 37 65e5 1 2 38 65e5 1 2 39 65e5 1 3 31 30 65e5 1 3 31 31 65e5 1 3 31 32
    65e5 1 3 31 33 65e5 1 3 31 34 65e5 1 3 31 35 65e5 1 3 31 36 65e5 1 3 31 37 65e5 1 3 31 38 65e5
    1 3 31 39 65e5 1 3 32 30 65e5 1 3 32 31 65e5 1 3 32 32 65e5 1 3 32 33 65e5 1 3 32 34 65e5 1 3
    32 35 65e5 1 3 32 36 65e5 1 3 32 37 65e5 1 3 32 38 65e5 1 3 32 39 65e5 1 3 33 30 65e5 1 3 33
    31 65e5 1 3 67 61 6c c701 2 66 66 1 2 66 69 1 2 66 6c 1 3 66 66 69 1 3 66 66 6c 1 2 73 74 1 2
    73 74 d 2 574 576 1 2 574 565 1 2 574 56b 1 2 57e 576 1 2 574 56d 38 2 5d0 5dc 8e 2 6c7 674 d
    2 626 627 1 2 626 627 1 2 626 6d5 1 2 626 6d5 1 2 626 648 1 2 626 648 1 2 626 6c7 1 2 626 6c7
    1 2 626 6c6 1 2 626 6c6 1 2 626 6c8 1 2 626 6c8 1 2 626 6d0 1 2 626 6d0 1 2 626 6d0 1 2 626
    649 1 2 626 649 1 2 626 649 5 2 626 62c 1 2 626 62d 1 2 626 645 1 2 626 649 1 2 626 64a 1 2
    628 62c 1 2 628 62d 1 2 628 62e 1 2 628 645 1 2 628 649 1 2 628 64a 1 2 62a 62c 1 2 62a 62d 1
    2 62a 62e 1 2 62a 645 1 2 62a 649 1 2 62a 64a 1 2 62b 62c 1 2 62b 645 1 2 62b 649 1 2 62b 64a
    1 2 62c 62d 1 2 62c 645 1 2 62d 62c 1 2 62d 645 1 2 62e 62c 1 2 62e 62d 1 2 62e 645 1 2 633
    62c 1 2 633 62d 1 2 633 62e 1 2 633 645 1 2 635 62d 1 2 635 645 1 2 636 62c 1 2 636 62d 1 2
    636 62e 1 2 636 645 1 2 637 62d 1 2 637 645 1 2 638 645 1 2 639 62c 1 2 639 645 1 2 63a 62c 1
    2 63a 645 1 2 641 62c 1 2 641 62d 1 2 641 62e 1 2 641 645 1 2 641 649 1 2 641 64a 1 2 642 62d
    1 2 642 645 1 2 642 649 1 2 642 64a 1 2 643 627 1 2 643 62c 1 2 643 62d 1 2 643 62e 1 2 643
    644 1 2 643 645 1 2 643 649 1 2 643 64a 1 2 644 62c 1 2 644 62d 1 2 644 62e 1 2 644 645 1 2
    644 649 1 2 644 64a 1 2 645 62c 1 2 645 62d 1 2 645 62e 1 2 645 645 1 2 645 649 1 2 645 64a 1
    2 646 62c 1 2 646 62d 1 2 646 62e 1 2 646 645 1 2 646 649 1 2 646 64a 1 2 647 62c 1 2 647 645
    1 2 647 649 1 2 647 64a 1 2 64a 62c 1 2 64a 62d 1 2 64a 62e 1 2 64a 645 1 2 64a 649 1 2 64a
    64a 1 2 630 670 1 2 631 670 1 2 649 670 1 3 20 64c 651 1 3 20 64d 651 1 3 20 64e 651 1 3 20
    64f 651 1 3 20 650 651 1 3 20 651 670 1 2 626 631 1 2 626 632 1 2 626 645 1 2 626 646 1 2 626
    649 1 2 626 64a 1 2 628 631 1 2 628 632 1 2 628 645 1 2 628 646 1 2 628 649 1 2 628 64a 1 2
    62a 631 1 2 62a 632 1 2 62a 645 1 2 62a 646 1 2 62a 649 1 2 62a 64a 1 2 62b 631 1 2 62b 632 1
    2 62b 645 1 2 62b 646 1 2 62b 649 1 2 62b 64a 1 2 641 649 1 2 641 64a 1 2 642 649 1 2 642 64a
    1 2 643 627 1 2 643 644 1 2 643 645 1 2 643 649 1 2 643 64a 1 2 644 645 1 2 644 649 1 2 644
    64a 1 2 645 627 1 2 645 645 1 2 646 631 1 2 646 632 1 2 646 645 1 2 646 646 1 2 646 649 1 2
    646 64a 1 2 649 670 1 2 64a 631 1 2 64a 632 1 2 64a 645 1 2 64a 646 1 2 64a 649 1 2 64a 64a 1
    2 626 62c 1 2 626 62d 1 2 626 62e 1 2 626 645 1 2 626 647 1 2 628 62c 1 2 628 62d 1 2 628 62e
    1 2 628 645 1 2 628 647 1 2 62a 62c 1 2 62a 62d 1 2 62a 62e 1 2 62a 645 1 2 62a 647 1 2 62b
    645 1 2 62c 62d 1 2 62c 645 1 2 62d 62c 1 2 62d 645 1 2 62e 62c 1 2 62e 645 1 2 633 62c 1 2
    633 62d 1 2 633 62e 1 2 633 645 1 2 635 62d 1 2 635 62e 1 2 635 645 1 2 636 62c 1 2 636 62d 1
    2 636 62e 1 2 636 645 1 2 637 62d 1 2 638 645 1 2 639 62c 1 2 639 645 1 2 63a 62c 1 2 63a 645
    1 2 641 62c 1 2 641 62d 1 2 641 62e 1 2 641 645 1 2 642 62d 1 2 642 645 1 2 643 62c 1 2 643
    62d 1 2 643 62e 1 2 643 644 1 2 643 645 1 2 644 62c 1 2 644 62d 1 2 644 62e 1 2 644 645 1 2
    644 647 1 2 645 62c 1 2 645 62d 1 2 645 62e 1 2 645 645 1 2 646 62c 1 2 646 62d 1 2 646 62e 1
    2 646 645 1 2 646 647 1 2 647 62c 1 2 647 645 1 2 647 670 1 2 64a 62c 1 2 64a 62d 1 2 64a 62e
    1 2 64a 645 1 2 64a 647 1 2 626 645 1 2 626 647 1 2 628 645 1 2 628 647 1 2 62a 645 1 2 62a
    647 1 2 62b 645 1 2 62b 647 1 2 633 645 1 2 633 647 1 2 634 645 1 2 634 647 1 2 643 644 1 2
    643 645 1 2 644 645 1 2 646 645 1 2 646 647 1 2 64a 645 1 2 64a 647 1 3 640 64e 651 1 3 640
    64f 651 1 3 640 650 651 1 2 637 649 1 2 637 64a 1 2 639 649 1 2 639 64a 1 2 63a 649 1 2 63a
    64a 1 2 633 649 1 2 633 64a 1 2 634 649 1 2 634 64a 1 2 62d 649 1 2 62d 64a 1 2 62c 649 1 2
    62c 64a 1 2 62e 649 1 2 62e 64a 1 2 635 649 1 2 635 64a 1 2 636 649 1 2 636 64a 1 2 634 62c 1
    2 634 62d 1 2 634 62e 1 2 634 645 1 2 634 631 1 2 633 631 1 2 635 631 1 2 636 631 1 2 637 649
    1 2 637 64a 1 2 639 649 1 2 639 64a 1 2 63a 649 1 2 63a 64a 1 2 633 649 1 2 633 64a 1 2 634
    649 1 2 634 64a 1 2 62d 649 1 2 62d 64a 1 2 62c 649 1 2 62c 64a 1 2 62e 649 1 2 62e 64a 1 2
    635 649 1 2 635 64a 1 2 636 649 1 2 636 64a 1 2 634 62c 1 2 634 62d 1 2 634 62e 1 2 634 645 1
    2 634 631 1 2 633 631 1 2 635 631 1 2 636 631 1 2 634 62c 1 2 634 62d 1 2 634 62e 1 2 634 645
    1 2 633 647 1 2 634 647 1 2 637 645 1 2 633 62c 1 2 633 62d 1 2 633 62e 1 2 634 62c 1 2 634
    62d 1 2 634 62e 1 2 637 645 1 2 638 645 1 2 627 64b 1 2 627 64b 13 3 62a 62c 645 1 3 62a 62d
    62c 1 3 62a 62d 62c 1 3 62a 62d 645 1 3 62a 62e 645 1 3 62a 645 62c 1 3 62a 645 62d 1 3 62a
    645 62e 1 3 62c 645 62d 1 3 62c 645 62d 1 3 62d 645 64a 1 3 62d 645 649 1 3 633 62d 62c 1 3
    633 62c 62d 1 3 633 62c 649 1 3 633 645 62d 1 3 633 645 62d 1 3 633 645 62c 1 3 633 645 645 1
    3 633 645 645 1 3 635 62d 62d 1 3 635 62d 62d 1 3 635 645 645 1 3 634 62d 645 1 3 634 62d 645
    1 3 634 62c 64a 1 3 634 645 62e 1 3 634 645 62e 1 3 634 645 645 1 3 634 645 645 1 3 636 62d
    649 1 3 636 62e 645 1 3 636 62e 645 1 3 637 645 62d 1 3 637 645 62d 1 3 637 645 645 1 3 637
    645 64a 1 3 639 62c 645 1 3 639 645 645 1 3 639 645 645 1 3 639 645 649 1 3 63a 645 645 1 3
    63a 645 64a 1 3 63a 645 649 1 3 641 62e 645 1 3 641 62e 645 1 3 642 645 62d 1 3 642 645 645 1
    3 644 62d 645 1 3 644 62d 64a 1 3 644 62d 649 1 3 644 62c 62c 1 3 644 62c 62c 1 3 644 62e 645
    1 3 644 62e 645 1 3 644 645 62d 1 3 644 645 62d 1 3 645 62d 62c 1 3 645 62d 645 1 3 645 62d
    64a 1 3 645 62c 62d 1 3 645 62c 645 1 3 645 62e 62c 1 3 645 62e 645 3 3 645 62c 62e 1 3 647
    645 62c 1 3 647 645 645 1 3 646 62d 645 1 3 646 62d 649 1 3 646 62c 645 1 3 646 62c 645 1 3
    646 62c 649 1 3 646 645 64a 1 3 646 645 649 1 3 64a 645 645 1 3 64a 645 645 1 3 628 62e 64a 1
    3 62a 62c 64a 1 3 62a 62c 649 1 3 62a 62e 64a 1 3 62a 62e 649 1 3 62a 645 64a 1 3 62a 645 649
    1 3 62c 645 64a 1 3 62c 62d 649 1 3 62c 645 649 1 3 633 62e 649 1 3 635 62d 64a 1 3 634 62d
    64a 1 3 636 62d 64a 1 3 644 62c 64a 1 3 644 645 64a 1 3 64a 62d 64a 1 3 64a 62c 64a 1 3 64a
    645 64a 1 3 645 645 64a 1 3 642 645 64a 1 3 646 62d 64a 1 3 642 645 62d 1 3 644 62d 645 1 3
    639 645 64a 1 3 643 645 64a 1 3 646 62c 62d 1 3 645 62e 64a 1 3 644 62c 645 1 3 643 645 645 1
    3 644 62c 645 1 3 646 62c 62d 1 3 62c 62d 64a 1 3 62d 62c 64a 1 3 645 62c 64a 1 3 641 645 64a
    1 3 628 62d 64a 1 3 643 645 645 1 3 639 62c 645 1 3 635 645 645 1 3 633 62e 64a 1 3 646 62c
    64a 29 3 635 644 6d2 1 3 642 644 6d2 1 4 627 644 644 647 1 4 627 643 628 631 1 4 645 62d 645
    62f 1 4 635 644 639 645 1 4 631 633 648 644 1 4 639 644 64a 647 1 4 648 633 644 645 1 3 635
    644 649 1 12 635 644 649 20 627 644 644 647 20 639 644 64a 647 20 648 633 644 645 1 8 62c 644
    20 62c 644 627 644 647 1 4 631 6cc 627 644 4d 2 20 305 1 2 20 305 1 2 20 305 1 2 20 305 24 2
    20 64b 1 2 640 64b 1 2 20 64c 2 2 20 64d 2 2 20 64e 1 2 640 64e 1 2 20 64f 1 2 640 64f 1 2 20
    650 1 2 640 650 1 2 20 651 1 2 640 651 1 2 20 652 1 2 640 652 76 2 644 622 1 2 644 622 1 2 644
    623 1 2 644 623 1 2 644 625 1 2 644 625 1 2 644 627 1 2 644 627 e7 2 20 304 f11e 2 30 2c 1 2
    31 2c 1 2 32 2c 1 2 33 2c 1 2 34 2c 1 2 35 2c 1 2 36 2c 1 2 37 2c 1 2 38 2c 1 2 39 2c 6 3 28
    61 29 1 3 28 62 29 1 3 28 63 29 1 3 28 64 29 1 3 28 65 29 1 3 28 66 29 1 3 28 67 29 1 3 28 68
    29 1 3 28 69 29 1 3 28 6a 29 1 3 28 6b 29 1 3 28 6c 29 1 3 28 6d 29 1 3 28 6e 29 1 3 28 6f 29
    1 3 28 70 29 1 3 28 71 29 1 3 28 72 29 1 3 28 73 29 1 3 28 74 29 1 3 28 75 29 1 3 28 76 29 1 3
    28 77 29 1 3 28 78 29 1 3 28 79 29 1 3 28 7a 29 1 3 3014 73 3015 3 2 63 64 1 2 77 7a 1c 2 68
    76 1 2 6d 76 1 2 73 64 1 2 73 73 1 3 70 70 76 1 2 77 63 1b 2 6d 63 1 2 6d 64 1 2 6d 72 24 2 64
    6a 70 2 307b 304b 1 2 30b3 30b3 3f 3 3014 672c 3015 1 3 3014 4e09 3015 1 3 3014 4e8c 3015 1 3
    3014 5b89 3015 1 3 3014 70b9 3015 1 3 3014 6253 3015 1 3 3014 76d7 3015 1 3 3014 52dd 3015 1 3
    3014 6557 3015"

/-- What a character is replaced by; nothing if it may not be used. -/
def replace? (c : Char) : Option (List Char) :=
  if allowed.contains c then some [c]
  else if vanishing.contains c then some []
  else
    match replacements.get? c with
    | some d => some [d]
    | none => spellings.get? c

/-- A text with every character replaced; nothing if one may not be used. -/
def replaceAll? (cs : List Char) : Option (List Char) := (cs.mapM replace?).map List.flatten

end Graft.Domain
