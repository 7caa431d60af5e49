import StackVM.Text.Range

/-! # Tables of letter case -/

namespace StackVM.Text

/-- Characters whose lower case is one other character. -/
def lowerShifts : List Shift :=
  Shift.ofLines
    ["41-5a>20 c0-d6>20 d8-de>20 100-12e/2>1 132-136/2>1 139-147/2>1 14a-176/2>1 178<79",
     "179-17d/2>1 181>d2 182-184/2>1 186>ce 187>1 189-18a>cd 18b>1 18e>4f 18f>ca 190>cb 191>1",
     "193>cd 194>cf 196>d3 197>d1 198>1 19c>d3 19d>d5 19f>d6 1a0-1a4/2>1 1a6>da 1a7>1 1a9>da",
     "1ac>1 1ae>da 1af>1 1b1-1b2>d9 1b3-1b5/2>1 1b7>db 1b8>1 1bc>1 1c4>2 1c5>1 1c7>2 1c8>1 1ca>2",
     "1cb-1db/2>1 1de-1ee/2>1 1f1>2 1f2-1f4/2>1 1f6<61 1f7<38 1f8-21e/2>1 220<82 222-232/2>1",
     "23a>2a2b 23b>1 23d<a3 23e>2a28 241>1 243<c3 244>45 245>47 246-24e/2>1 370-372/2>1 376>1",
     "37f>74 386>26 388-38a>25 38c>40 38e-38f>3f 391-3a1>20 3a3-3ab>20 3cf>8 3d8-3ee/2>1 3f4<3c",
     "3f7>1 3f9<7 3fa>1 3fd-3ff<82 400-40f>50 410-42f>20 460-480/2>1 48a-4be/2>1 4c0>f",
     "4c1-4cd/2>1 4d0-52e/2>1 531-556>30 10a0-10c5>1c60 10c7>1c60 10cd>1c60 13a0-13ef>97d0",
     "13f0-13f5>8 1c89>1 1c90-1cba<bc0 1cbd-1cbf<bc0 1e00-1e94/2>1 1e9e<1dbf 1ea0-1efe/2>1",
     "1f08-1f0f<8 1f18-1f1d<8 1f28-1f2f<8 1f38-1f3f<8 1f48-1f4d<8 1f59-1f5f/2<8 1f68-1f6f<8",
     "1f88-1f8f<8 1f98-1f9f<8 1fa8-1faf<8 1fb8-1fb9<8 1fba-1fbb<4a 1fbc<9 1fc8-1fcb<56 1fcc<9",
     "1fd8-1fd9<8 1fda-1fdb<64 1fe8-1fe9<8 1fea-1feb<70 1fec<7 1ff8-1ff9<80 1ffa-1ffb<7e 1ffc<9",
     "2126<1d5d 212a<20bf 212b<2046 2132>1c 2160-216f>10 2183>1 24b6-24cf>1a 2c00-2c2f>30 2c60>1",
     "2c62<29f7 2c63<ee6 2c64<29e7 2c67-2c6b/2>1 2c6d<2a1c 2c6e<29fd 2c6f<2a1f 2c70<2a1e 2c72>1",
     "2c75>1 2c7e-2c7f<2a3f 2c80-2ce2/2>1 2ceb-2ced/2>1 2cf2>1 a640-a66c/2>1 a680-a69a/2>1",
     "a722-a72e/2>1 a732-a76e/2>1 a779-a77b/2>1 a77d<8a04 a77e-a786/2>1 a78b>1 a78d<a528",
     "a790-a792/2>1 a796-a7a8/2>1 a7aa<a544 a7ab<a54f a7ac<a54b a7ad<a541 a7ae<a544 a7b0<a512",
     "a7b1<a52a a7b2<a515 a7b3>3a0 a7b4-a7c2/2>1 a7c4<30 a7c5<a543 a7c6<8a38 a7c7-a7c9/2>1",
     "a7cb<a567 a7cc-a7da/2>1 a7dc<a641 a7f5>1 ff21-ff3a>20 10400-10427>28 104b0-104d3>28",
     "10570-1057a>27 1057c-1058a>27 1058c-10592>27 10594-10595>27 10c80-10cb2>40 10d50-10d65>20",
     "118a0-118bf>20 16e40-16e5f>20 16ea0-16eb8>1b 1e900-1e921>22"]

/-- Characters whose lower case is several characters. -/
def lowerExpansions : List (Nat × List Nat) :=
  [(0x130, [0x69, 0x307])]

/-- Characters whose upper case is one other character. -/
def upperShifts : List Shift :=
  Shift.ofLines
    ["61-7a<20 b5>2e7 e0-f6<20 f8-fe<20 ff>79 101-12f/2<1 131<e8 133-137/2<1 13a-148/2<1",
     "14b-177/2<1 17a-17e/2<1 17f<12c 180>c3 183-185/2<1 188<1 18c<1 192<1 195>61 199<1 19a>a3",
     "19b>a641 19e>82 1a1-1a5/2<1 1a8<1 1ad<1 1b0<1 1b4-1b6/2<1 1b9<1 1bd<1 1bf>38 1c5<1 1c6<2",
     "1c8<1 1c9<2 1cb<1 1cc<2 1ce-1dc/2<1 1dd<4f 1df-1ef/2<1 1f2<1 1f3<2 1f5<1 1f9-21f/2<1",
     "223-233/2<1 23c<1 23f-240>2a3f 242<1 247-24f/2<1 250>2a1f 251>2a1c 252>2a1e 253<d2 254<ce",
     "256-257<cd 259<ca 25b<cb 25c>a54f 260<cd 261>a54b 263<cf 264>a567 265>a528 266>a544 268<d1",
     "269<d3 26a>a544 26b>29f7 26c>a541 26f<d3 271>29fd 272<d5 275<d6 27d>29e7 280<da 282>a543",
     "283<da 287>a52a 288<da 289<45 28a-28b<d9 28c<47 292<db 29d>a515 29e>a512 345>54 371-373/2<1",
     "377<1 37b-37d>82 3ac<26 3ad-3af<25 3b1-3c1<20 3c2<1f 3c3-3cb<20 3cc<40 3cd-3ce<3f 3d0<3e",
     "3d1<39 3d5<2f 3d6<36 3d7<8 3d9-3ef/2<1 3f0<56 3f1<50 3f2>7 3f3<74 3f5<60 3f8<1 3fb<1",
     "430-44f<20 450-45f<50 461-481/2<1 48b-4bf/2<1 4c2-4ce/2<1 4cf<f 4d1-52f/2<1 561-586<30",
     "10d0-10fa>bc0 10fd-10ff>bc0 13f8-13fd<8 1c80<186e 1c81<186d 1c82<1864 1c83-1c84<1862",
     "1c85<1863 1c86<185c 1c87<1825 1c88>89c2 1c8a<1 1d79>8a04 1d7d>ee6 1d8e>8a38 1e01-1e95/2<1",
     "1e9b<3b 1ea1-1eff/2<1 1f00-1f07>8 1f10-1f15>8 1f20-1f27>8 1f30-1f37>8 1f40-1f45>8",
     "1f51-1f57/2>8 1f60-1f67>8 1f70-1f71>4a 1f72-1f75>56 1f76-1f77>64 1f78-1f79>80 1f7a-1f7b>70",
     "1f7c-1f7d>7e 1fb0-1fb1>8 1fbe<1c25 1fd0-1fd1>8 1fe0-1fe1>8 1fe5>7 214e<1c 2170-217f<10",
     "2184<1 24d0-24e9<1a 2c30-2c5f<30 2c61<1 2c65<2a2b 2c66<2a28 2c68-2c6c/2<1 2c73<1 2c76<1",
     "2c81-2ce3/2<1 2cec-2cee/2<1 2cf3<1 2d00-2d25<1c60 2d27<1c60 2d2d<1c60 a641-a66d/2<1",
     "a681-a69b/2<1 a723-a72f/2<1 a733-a76f/2<1 a77a-a77c/2<1 a77f-a787/2<1 a78c<1 a791-a793/2<1",
     "a794>30 a797-a7a9/2<1 a7b5-a7c3/2<1 a7c8-a7ca/2<1 a7cd-a7db/2<1 a7f6<1 ab53<3a0",
     "ab70-abbf<97d0 ff41-ff5a<20 10428-1044f<28 104d8-104fb<28 10597-105a1<27 105a3-105b1<27",
     "105b3-105b9<27 105bb-105bc<27 10cc0-10cf2<40 10d70-10d85<20 118c0-118df<20 16e60-16e7f<20",
     "16ebb-16ed3<1b 1e922-1e943<22"]

/-- Characters whose upper case is several characters. -/
def upperExpansions : List (Nat × List Nat) :=
  [(0xdf, [0x53, 0x53]), (0x149, [0x2bc, 0x4e]), (0x1f0, [0x4a, 0x30c]),
   (0x390, [0x399, 0x308, 0x301]), (0x3b0, [0x3a5, 0x308, 0x301]), (0x587, [0x535, 0x552]),
   (0x1e96, [0x48, 0x331]), (0x1e97, [0x54, 0x308]), (0x1e98, [0x57, 0x30a]),
   (0x1e99, [0x59, 0x30a]), (0x1e9a, [0x41, 0x2be]), (0x1f50, [0x3a5, 0x313]),
   (0x1f52, [0x3a5, 0x313, 0x300]), (0x1f54, [0x3a5, 0x313, 0x301]),
   (0x1f56, [0x3a5, 0x313, 0x342]), (0x1f80, [0x1f08, 0x399]), (0x1f81, [0x1f09, 0x399]),
   (0x1f82, [0x1f0a, 0x399]), (0x1f83, [0x1f0b, 0x399]), (0x1f84, [0x1f0c, 0x399]),
   (0x1f85, [0x1f0d, 0x399]), (0x1f86, [0x1f0e, 0x399]), (0x1f87, [0x1f0f, 0x399]),
   (0x1f88, [0x1f08, 0x399]), (0x1f89, [0x1f09, 0x399]), (0x1f8a, [0x1f0a, 0x399]),
   (0x1f8b, [0x1f0b, 0x399]), (0x1f8c, [0x1f0c, 0x399]), (0x1f8d, [0x1f0d, 0x399]),
   (0x1f8e, [0x1f0e, 0x399]), (0x1f8f, [0x1f0f, 0x399]), (0x1f90, [0x1f28, 0x399]),
   (0x1f91, [0x1f29, 0x399]), (0x1f92, [0x1f2a, 0x399]), (0x1f93, [0x1f2b, 0x399]),
   (0x1f94, [0x1f2c, 0x399]), (0x1f95, [0x1f2d, 0x399]), (0x1f96, [0x1f2e, 0x399]),
   (0x1f97, [0x1f2f, 0x399]), (0x1f98, [0x1f28, 0x399]), (0x1f99, [0x1f29, 0x399]),
   (0x1f9a, [0x1f2a, 0x399]), (0x1f9b, [0x1f2b, 0x399]), (0x1f9c, [0x1f2c, 0x399]),
   (0x1f9d, [0x1f2d, 0x399]), (0x1f9e, [0x1f2e, 0x399]), (0x1f9f, [0x1f2f, 0x399]),
   (0x1fa0, [0x1f68, 0x399]), (0x1fa1, [0x1f69, 0x399]), (0x1fa2, [0x1f6a, 0x399]),
   (0x1fa3, [0x1f6b, 0x399]), (0x1fa4, [0x1f6c, 0x399]), (0x1fa5, [0x1f6d, 0x399]),
   (0x1fa6, [0x1f6e, 0x399]), (0x1fa7, [0x1f6f, 0x399]), (0x1fa8, [0x1f68, 0x399]),
   (0x1fa9, [0x1f69, 0x399]), (0x1faa, [0x1f6a, 0x399]), (0x1fab, [0x1f6b, 0x399]),
   (0x1fac, [0x1f6c, 0x399]), (0x1fad, [0x1f6d, 0x399]), (0x1fae, [0x1f6e, 0x399]),
   (0x1faf, [0x1f6f, 0x399]), (0x1fb2, [0x1fba, 0x399]), (0x1fb3, [0x391, 0x399]),
   (0x1fb4, [0x386, 0x399]), (0x1fb6, [0x391, 0x342]), (0x1fb7, [0x391, 0x342, 0x399]),
   (0x1fbc, [0x391, 0x399]), (0x1fc2, [0x1fca, 0x399]), (0x1fc3, [0x397, 0x399]),
   (0x1fc4, [0x389, 0x399]), (0x1fc6, [0x397, 0x342]), (0x1fc7, [0x397, 0x342, 0x399]),
   (0x1fcc, [0x397, 0x399]), (0x1fd2, [0x399, 0x308, 0x300]), (0x1fd3, [0x399, 0x308, 0x301]),
   (0x1fd6, [0x399, 0x342]), (0x1fd7, [0x399, 0x308, 0x342]), (0x1fe2, [0x3a5, 0x308, 0x300]),
   (0x1fe3, [0x3a5, 0x308, 0x301]), (0x1fe4, [0x3a1, 0x313]), (0x1fe6, [0x3a5, 0x342]),
   (0x1fe7, [0x3a5, 0x308, 0x342]), (0x1ff2, [0x1ffa, 0x399]), (0x1ff3, [0x3a9, 0x399]),
   (0x1ff4, [0x38f, 0x399]), (0x1ff6, [0x3a9, 0x342]), (0x1ff7, [0x3a9, 0x342, 0x399]),
   (0x1ffc, [0x3a9, 0x399]), (0xfb00, [0x46, 0x46]), (0xfb01, [0x46, 0x49]), (0xfb02, [0x46, 0x4c]),
   (0xfb03, [0x46, 0x46, 0x49]), (0xfb04, [0x46, 0x46, 0x4c]), (0xfb05, [0x53, 0x54]),
   (0xfb06, [0x53, 0x54]), (0xfb13, [0x544, 0x546]), (0xfb14, [0x544, 0x535]),
   (0xfb15, [0x544, 0x53b]), (0xfb16, [0x54e, 0x546]), (0xfb17, [0x544, 0x53d])]

/-- Characters that are folded to one other character when letter case is ignored. -/
def foldShifts : List Shift :=
  Shift.ofLines
    ["41-5a>20 b5>307 c0-d6>20 d8-de>20 100-12e/2>1 132-136/2>1 139-147/2>1 14a-176/2>1 178<79",
     "179-17d/2>1 17f<10c 181>d2 182-184/2>1 186>ce 187>1 189-18a>cd 18b>1 18e>4f 18f>ca 190>cb",
     "191>1 193>cd 194>cf 196>d3 197>d1 198>1 19c>d3 19d>d5 19f>d6 1a0-1a4/2>1 1a6>da 1a7>1",
     "1a9>da 1ac>1 1ae>da 1af>1 1b1-1b2>d9 1b3-1b5/2>1 1b7>db 1b8>1 1bc>1 1c4>2 1c5>1 1c7>2 1c8>1",
     "1ca>2 1cb-1db/2>1 1de-1ee/2>1 1f1>2 1f2-1f4/2>1 1f6<61 1f7<38 1f8-21e/2>1 220<82",
     "222-232/2>1 23a>2a2b 23b>1 23d<a3 23e>2a28 241>1 243<c3 244>45 245>47 246-24e/2>1 345>74",
     "370-372/2>1 376>1 37f>74 386>26 388-38a>25 38c>40 38e-38f>3f 391-3a1>20 3a3-3ab>20 3c2>1",
     "3cf>8 3d0<1e 3d1<19 3d5<f 3d6<16 3d8-3ee/2>1 3f0<36 3f1<30 3f4<3c 3f5<40 3f7>1 3f9<7 3fa>1",
     "3fd-3ff<82 400-40f>50 410-42f>20 460-480/2>1 48a-4be/2>1 4c0>f 4c1-4cd/2>1 4d0-52e/2>1",
     "531-556>30 10a0-10c5>1c60 10c7>1c60 10cd>1c60 13a0-13ef>97d0 13f0-13f5>8 1c80<184e",
     "1c81<184d 1c82<1844 1c83-1c84<1842 1c85<1843 1c86<183c 1c87<1824 1c88>89c3 1c89>1",
     "1c90-1cba<bc0 1cbd-1cbf<bc0 1e00-1e94/2>1 1e9b<3a 1e9e<1dbf 1ea0-1efe/2>1 1f08-1f0f<8",
     "1f18-1f1d<8 1f28-1f2f<8 1f38-1f3f<8 1f48-1f4d<8 1f59-1f5f/2<8 1f68-1f6f<8 1f88-1f8f<8",
     "1f98-1f9f<8 1fa8-1faf<8 1fb8-1fb9<8 1fba-1fbb<4a 1fbc<9 1fbe<1c05 1fc8-1fcb<56 1fcc<9",
     "1fd3<1c43 1fd8-1fd9<8 1fda-1fdb<64 1fe3<1c33 1fe8-1fe9<8 1fea-1feb<70 1fec<7 1ff8-1ff9<80",
     "1ffa-1ffb<7e 1ffc<9 2126<1d5d 212a<20bf 212b<2046 2132>1c 2160-216f>10 2183>1 24b6-24cf>1a",
     "2c00-2c2f>30 2c60>1 2c62<29f7 2c63<ee6 2c64<29e7 2c67-2c6b/2>1 2c6d<2a1c 2c6e<29fd",
     "2c6f<2a1f 2c70<2a1e 2c72>1 2c75>1 2c7e-2c7f<2a3f 2c80-2ce2/2>1 2ceb-2ced/2>1 2cf2>1",
     "a640-a66c/2>1 a680-a69a/2>1 a722-a72e/2>1 a732-a76e/2>1 a779-a77b/2>1 a77d<8a04",
     "a77e-a786/2>1 a78b>1 a78d<a528 a790-a792/2>1 a796-a7a8/2>1 a7aa<a544 a7ab<a54f a7ac<a54b",
     "a7ad<a541 a7ae<a544 a7b0<a512 a7b1<a52a a7b2<a515 a7b3>3a0 a7b4-a7c2/2>1 a7c4<30 a7c5<a543",
     "a7c6<8a38 a7c7-a7c9/2>1 a7cb<a567 a7cc>1 a7d0>1 a7d6-a7da/2>1 a7dc<a641 a7f5>1 fb06<1",
     "ff21-ff3a>20 10400-10427>28 104b0-104d3>28 10570-1057a>27 1057c-1058a>27 1058c-10592>27",
     "10594-10595>27 10c80-10cb2>40 10d50-10d65>20 118a0-118bf>20 16e40-16e5f>20 1e900-1e921>22"]

def casedCharacters : Ranges :=
  .ofLines
    ["41-5a 61-7a aa b5 ba c0-d6 d8-f6 f8-1ba 1bc-1bf 1c4-293 296-2b8 2c0-2c1 2e0-2e4 345 370-373",
     "376-377 37a-37d 37f 386 388-38a 38c 38e-3a1 3a3-3f5 3f7-481 48a-52f 531-556 560-588",
     "10a0-10c5 10c7 10cd 10d0-10fa 10fc-10ff 13a0-13f5 13f8-13fd 1c80-1c8a 1c90-1cba 1cbd-1cbf",
     "1d00-1dbf 1e00-1f15 1f18-1f1d 1f20-1f45 1f48-1f4d 1f50-1f57 1f59-1f5d/2 1f5f-1f7d 1f80-1fb4",
     "1fb6-1fbc 1fbe 1fc2-1fc4 1fc6-1fcc 1fd0-1fd3 1fd6-1fdb 1fe0-1fec 1ff2-1ff4 1ff6-1ffc 2071",
     "207f 2090-209c 2102 2107 210a-2113 2115 2119-211d 2124-2128/2 212a-212d 212f-2134 2139",
     "213c-213f 2145-2149 214e 2160-217f 2183-2184 24b6-24e9 2c00-2ce4 2ceb-2cee 2cf2-2cf3",
     "2d00-2d25 2d27 2d2d a640-a66d a680-a69d a722-a787 a78b-a78e a790-a7dc a7f1-a7f6 a7f8-a7fa",
     "ab30-ab5a ab5c-ab69 ab70-abbf fb00-fb06 fb13-fb17 ff21-ff3a ff41-ff5a 10400-1044f",
     "104b0-104d3 104d8-104fb 10570-1057a 1057c-1058a 1058c-10592 10594-10595 10597-105a1",
     "105a3-105b1 105b3-105b9 105bb-105bc 10780 10783-10785 10787-107b0 107b2-107ba 10c80-10cb2",
     "10cc0-10cf2 10d50-10d65 10d70-10d85 118a0-118df 16e40-16e7f 16ea0-16eb8 16ebb-16ed3",
     "1d400-1d454 1d456-1d49c 1d49e-1d49f 1d4a2 1d4a5-1d4a6 1d4a9-1d4ac 1d4ae-1d4b9 1d4bb",
     "1d4bd-1d4c3 1d4c5-1d505 1d507-1d50a 1d50d-1d514 1d516-1d51c 1d51e-1d539 1d53b-1d53e",
     "1d540-1d544 1d546 1d54a-1d550 1d552-1d6a5 1d6a8-1d6c0 1d6c2-1d6da 1d6dc-1d6fa 1d6fc-1d714",
     "1d716-1d734 1d736-1d74e 1d750-1d76e 1d770-1d788 1d78a-1d7a8 1d7aa-1d7c2 1d7c4-1d7cb",
     "1df00-1df09 1df0b-1df1e 1df25-1df2a 1e030-1e06d 1e900-1e943 1f130-1f149 1f150-1f169",
     "1f170-1f189"]

/-- Characters that are passed over when looking for a neighbouring cased character. -/
def caseIgnorables : Ranges :=
  .ofLines
    ["27 2e 3a 5e 60 a8 ad af b4 b7-b8 2b0-36f 374-375 37a 384-385 387 483-489 559 55f 591-5bd",
     "5bf 5c1-5c2 5c4-5c5 5c7 5f4 600-605 610-61a 61c 640 64b-65f 670 6d6-6dd 6df-6e8 6ea-6ed 70f",
     "711 730-74a 7a6-7b0 7eb-7f5 7fa 7fd 816-82d 859-85b 888 890-891 897-89f 8c9-902 93a 93c",
     "941-948 94d 951-957 962-963 971 981 9bc 9c1-9c4 9cd 9e2-9e3 9fe a01-a02 a3c a41-a42 a47-a48",
     "a4b-a4d a51 a70-a71 a75 a81-a82 abc ac1-ac5 ac7-ac8 acd ae2-ae3 afa-aff b01 b3c b3f b41-b44",
     "b4d b55-b56 b62-b63 b82 bc0 bcd c00 c04 c3c c3e-c40 c46-c48 c4a-c4d c55-c56 c62-c63 c81 cbc",
     "cbf cc6 ccc-ccd ce2-ce3 d00-d01 d3b-d3c d41-d44 d4d d62-d63 d81 dca dd2-dd4 dd6 e31 e34-e3a",
     "e46-e4e eb1 eb4-ebc ec6 ec8-ece f18-f19 f35-f39/2 f71-f7e f80-f84 f86-f87 f8d-f97 f99-fbc",
     "fc6 102d-1030 1032-1037 1039-103a 103d-103e 1058-1059 105e-1060 1071-1074 1082 1085-1086",
     "108d 109d 10fc 135d-135f 1712-1714 1732-1733 1752-1753 1772-1773 17b4-17b5 17b7-17bd 17c6",
     "17c9-17d3 17d7 17dd 180b-180f 1843 1885-1886 18a9 1920-1922 1927-1928 1932 1939-193b",
     "1a17-1a18 1a1b 1a56 1a58-1a5e 1a60 1a62 1a65-1a6c 1a73-1a7c 1a7f 1aa7 1ab0-1add 1ae0-1aeb",
     "1b00-1b03 1b34 1b36-1b3a 1b3c 1b42 1b6b-1b73 1b80-1b81 1ba2-1ba5 1ba8-1ba9 1bab-1bad 1be6",
     "1be8-1be9 1bed 1bef-1bf1 1c2c-1c33 1c36-1c37 1c78-1c7d 1cd0-1cd2 1cd4-1ce0 1ce2-1ce8 1ced",
     "1cf4 1cf8-1cf9 1d2c-1d6a 1d78 1d9b-1dff 1fbd 1fbf-1fc1 1fcd-1fcf 1fdd-1fdf 1fed-1fef",
     "1ffd-1ffe 200b-200f 2018-2019 2024 2027 202a-202e 2060-2064 2066-206f 2071 207f 2090-209c",
     "20d0-20f0 2c7c-2c7d 2cef-2cf1 2d6f 2d7f 2de0-2dff 2e2f 3005 302a-302d 3031-3035 303b",
     "3099-309e 30fc-30fe a015 a4f8-a4fd a60c a66f-a672 a674-a67d a67f a69c-a69f a6f0-a6f1",
     "a700-a721 a770 a788-a78a a7f1-a7f4 a7f8-a7f9 a802 a806 a80b a825-a826 a82c a8c4-a8c5",
     "a8e0-a8f1 a8ff a926-a92d a947-a951 a980-a982 a9b3 a9b6-a9b9 a9bc-a9bd a9cf a9e5-a9e6",
     "aa29-aa2e aa31-aa32 aa35-aa36 aa43 aa4c aa70 aa7c aab0 aab2-aab4 aab7-aab8 aabe-aabf aac1",
     "aadd aaec-aaed aaf3-aaf4 aaf6 ab5b-ab5f ab69-ab6b abe5 abe8 abed fb1e fbb2-fbc2 fe00-fe0f",
     "fe13 fe20-fe2f fe52 fe55 feff ff07 ff0e ff1a ff3e ff40 ff70 ff9e-ff9f ffe3 fff9-fffb 101fd",
     "102e0 10376-1037a 10780-10785 10787-107b0 107b2-107ba 10a01-10a03 10a05-10a06 10a0c-10a0f",
     "10a38-10a3a 10a3f 10ae5-10ae6 10d24-10d27 10d4e 10d69-10d6d 10d6f 10eab-10eac 10ec5",
     "10efa-10eff 10f46-10f50 10f82-10f85 11001 11038-11046 11070 11073-11074 1107f-11081",
     "110b3-110b6 110b9-110ba 110bd 110c2 110cd 11100-11102 11127-1112b 1112d-11134 11173",
     "11180-11181 111b6-111be 111c9-111cc 111cf 1122f-11231 11234 11236-11237 1123e 11241 112df",
     "112e3-112ea 11300-11301 1133b-1133c 11340 11366-1136c 11370-11374 113bb-113c0 113ce-113d2/2",
     "113e1-113e2 11438-1143f 11442-11444 11446 1145e 114b3-114b8 114ba 114bf-114c0 114c2-114c3",
     "115b2-115b5 115bc-115bd 115bf-115c0 115dc-115dd 11633-1163a 1163d 1163f-11640 116ab 116ad",
     "116b0-116b5 116b7 1171d 1171f 11722-11725 11727-1172b 1182f-11837 11839-1183a 1193b-1193c",
     "1193e 11943 119d4-119d7 119da-119db 119e0 11a01-11a0a 11a33-11a38 11a3b-11a3e 11a47",
     "11a51-11a56 11a59-11a5b 11a8a-11a96 11a98-11a99 11b60 11b62-11b64 11b66 11c30-11c36",
     "11c38-11c3d 11c3f 11c92-11ca7 11caa-11cb0 11cb2-11cb3 11cb5-11cb6 11d31-11d36 11d3a",
     "11d3c-11d3d 11d3f-11d45 11d47 11d90-11d91 11d95 11d97 11dd9 11ef3-11ef4 11f00-11f01",
     "11f36-11f3a 11f40 11f42 11f5a 13430-13440 13447-13455 1611e-16129 1612d-1612f 16af0-16af4",
     "16b30-16b36 16b40-16b43 16d40-16d42 16d6b-16d6c 16f4f 16f8f-16f9f 16fe0-16fe1 16fe3-16fe4",
     "16ff2-16ff3 1aff0-1aff3 1aff5-1affb 1affd-1affe 1bc9d-1bc9e 1bca0-1bca3 1cf00-1cf2d",
     "1cf30-1cf46 1d167-1d169 1d173-1d182 1d185-1d18b 1d1aa-1d1ad 1d242-1d244 1da00-1da36",
     "1da3b-1da6c 1da75 1da84 1da9b-1da9f 1daa1-1daaf 1e000-1e006 1e008-1e018 1e01b-1e021",
     "1e023-1e024 1e026-1e02a 1e030-1e06d 1e08f 1e130-1e13d 1e2ae 1e2ec-1e2ef 1e4eb-1e4ef",
     "1e5ee-1e5ef 1e6e3 1e6e6 1e6ee-1e6ef 1e6f5 1e6ff 1e8d0-1e8d6 1e944-1e94b 1f3fb-1f3ff e0001",
     "e0020-e007f e0100-e01ef"]

end StackVM.Text
