import Rdap.Text.Table
/-!
# The domain name mapping table

The IDNA mapping table of Unicode Technical Standard 46 (version 15.0) says
what becomes of each code point in a domain name: it is **valid** and stays,
it is **mapped** to one or more other code points (upper case to lower case,
compatibility forms to their plain form, the ideographic full stop to `.`), it
is **ignored** and dropped, or it is **disallowed**. The table here is the one
for lookups under the standard's strict ASCII rules and non-transitional
processing: the characters that are disallowed only under the strict rules are
disallowed, and the deviation characters (`ß`, final sigma and the two joiners)
are valid.

Items are ranges `first last kind …`: `V`, `X` and `I` for valid, disallowed and
ignored ranges; `R d` for a range each of whose code points maps to itself plus
`d`; `P d` for a range whose code points alternate between one that maps to
itself plus `d` and a valid one; `S c₁ c₂ …` for a range whose code points all
map to the code points `c₁ c₂ …`.
-/

namespace Rdap.Idna

open Rdap.Text

/-- **What becomes of a code point** in a domain name. -/
inductive Status where
  | valid
  | mapped (image : List Nat)
  | ignored
  | disallowed
deriving DecidableEq, Inhabited, Repr

/-- A range of the mapping table. -/
structure MappingRange where
  last : Nat
  kind : String
  delta : Int
  target : List Nat
deriving Inhabited

/-- The mapping table. -/
def mappingText : String := String.intercalate "," [
  "0 2c X,2d 2e V,2f 2f X,30 39 V,3a 40 X,41 5a R 32,5b 60 X,61 7a V,7b a0 X,a1 a7 V",
  "a8 a8 X,a9 a9 V,aa aa S 61,ab ac V,ad ad I,ae ae V,af af X,b0 b1 V,b2 b3 R -128,b4 b4 X",
  "b5 b5 S 3bc,b6 b7 V,b8 b8 X,b9 b9 S 31,ba ba S 6f,bb bb V,bc bc S 31 2044 34",
  "bd bd S 31 2044 32,be be S 33 2044 34,bf bf V,c0 d6 R 32,d7 d7 V,d8 de R 32,df ff V",
  "100 12e P 1,12f 12f V,130 130 S 69 307,131 131 V,132 133 S 69 6a,134 136 P 1,137 138 V",
  "139 13d P 1,13e 13e V,13f 140 S 6c b7,141 147 P 1,148 148 V,149 149 S 2bc 6e,14a 176 P 1",
  "177 177 V,178 178 S ff,179 17d P 1,17e 17e V,17f 17f S 73,180 180 V,181 181 S 253",
  "182 184 P 1,185 185 V,186 186 S 254,187 187 S 188,188 188 V,189 18a R 205,18b 18b S 18c",
  "18c 18d V,18e 18e S 1dd,18f 18f S 259,190 190 S 25b,191 191 S 192,192 192 V",
  "193 193 S 260,194 194 S 263,195 195 V,196 196 S 269,197 197 S 268,198 198 S 199",
  "199 19b V,19c 19c S 26f,19d 19d S 272,19e 19e V,19f 19f S 275,1a0 1a4 P 1,1a5 1a5 V",
  "1a6 1a6 S 280,1a7 1a7 S 1a8,1a8 1a8 V,1a9 1a9 S 283,1aa 1ab V,1ac 1ac S 1ad,1ad 1ad V",
  "1ae 1ae S 288,1af 1af S 1b0,1b0 1b0 V,1b1 1b2 R 217,1b3 1b5 P 1,1b6 1b6 V,1b7 1b7 S 292",
  "1b8 1b8 S 1b9,1b9 1bb V,1bc 1bc S 1bd,1bd 1c3 V,1c4 1c6 S 64 17e,1c7 1c9 S 6c 6a",
  "1ca 1cc S 6e 6a,1cd 1db P 1,1dc 1dd V,1de 1ee P 1,1ef 1f0 V,1f1 1f3 S 64 7a",
  "1f4 1f4 S 1f5,1f5 1f5 V,1f6 1f6 S 195,1f7 1f7 S 1bf,1f8 21e P 1,21f 21f V,220 220 S 19e",
  "221 221 V,222 232 P 1,233 239 V,23a 23a S 2c65,23b 23b S 23c,23c 23c V,23d 23d S 19a",
  "23e 23e S 2c66,23f 240 V,241 241 S 242,242 242 V,243 243 S 180,244 244 S 289",
  "245 245 S 28c,246 24e P 1,24f 2af V,2b0 2b0 S 68,2b1 2b1 S 266,2b2 2b2 S 6a,2b3 2b3 S 72",
  "2b4 2b4 S 279,2b5 2b5 S 27b,2b6 2b6 S 281,2b7 2b7 S 77,2b8 2b8 S 79,2b9 2d7 V,2d8 2dd X",
  "2de 2df V,2e0 2e0 S 263,2e1 2e1 S 6c,2e2 2e2 S 73,2e3 2e3 S 78,2e4 2e4 S 295,2e5 33f V",
  "340 341 R -64,342 342 V,343 343 S 313,344 344 S 308 301,345 345 S 3b9,346 34e V",
  "34f 34f I,350 36f V,370 372 P 1,373 373 V,374 374 S 2b9,375 375 V,376 376 S 377",
  "377 377 V,378 37a X,37b 37d V,37e 37e X,37f 37f S 3f3,380 385 X,386 386 S 3ac",
  "387 387 S b7,388 38a R 37,38b 38b X,38c 38c S 3cc,38d 38d X,38e 38f R 63,390 390 V",
  "391 3a1 R 32,3a2 3a2 X,3a3 3ab R 32,3ac 3ce V,3cf 3cf S 3d7,3d0 3d0 S 3b2,3d1 3d1 S 3b8",
  "3d2 3d2 S 3c5,3d3 3d3 S 3cd,3d4 3d4 S 3cb,3d5 3d5 S 3c6,3d6 3d6 S 3c0,3d7 3d7 V",
  "3d8 3ee P 1,3ef 3ef V,3f0 3f0 S 3ba,3f1 3f1 S 3c1,3f2 3f2 S 3c3,3f3 3f3 V,3f4 3f4 S 3b8",
  "3f5 3f5 S 3b5,3f6 3f6 V,3f7 3f7 S 3f8,3f8 3f8 V,3f9 3f9 S 3c3,3fa 3fa S 3fb,3fb 3fc V",
  "3fd 3ff R -130,400 40f R 80,410 42f R 32,430 45f V,460 480 P 1,481 489 V,48a 4be P 1",
  "4bf 4bf V,4c0 4c0 X,4c1 4cd P 1,4ce 4cf V,4d0 52e P 1,52f 52f V,530 530 X,531 556 R 48",
  "557 558 X,559 586 V,587 587 S 565 582,588 58a V,58b 58c X,58d 58f V,590 590 X,591 5c7 V",
  "5c8 5cf X,5d0 5ea V,5eb 5ee X,5ef 5f4 V,5f5 605 X,606 61b V,61c 61c X,61d 674 V",
  "675 675 S 627 674,676 676 S 648 674,677 677 S 6c7 674,678 678 S 64a 674,679 6dc V",
  "6dd 6dd X,6de 70d V,70e 70f X,710 74a V,74b 74c X,74d 7b1 V,7b2 7bf X,7c0 7fa V",
  "7fb 7fc X,7fd 82d V,82e 82f X,830 83e V,83f 83f X,840 85b V,85c 85d X,85e 85e V",
  "85f 85f X,860 86a V,86b 86f X,870 88e V,88f 897 X,898 8e1 V,8e2 8e2 X,8e3 957 V",
  "958 958 S 915 93c,959 959 S 916 93c,95a 95a S 917 93c,95b 95b S 91c 93c",
  "95c 95c S 921 93c,95d 95d S 922 93c,95e 95e S 92b 93c,95f 95f S 92f 93c,960 983 V",
  "984 984 X,985 98c V,98d 98e X,98f 990 V,991 992 X,993 9a8 V,9a9 9a9 X,9aa 9b0 V",
  "9b1 9b1 X,9b2 9b2 V,9b3 9b5 X,9b6 9b9 V,9ba 9bb X,9bc 9c4 V,9c5 9c6 X,9c7 9c8 V",
  "9c9 9ca X,9cb 9ce V,9cf 9d6 X,9d7 9d7 V,9d8 9db X,9dc 9dc S 9a1 9bc,9dd 9dd S 9a2 9bc",
  "9de 9de X,9df 9df S 9af 9bc,9e0 9e3 V,9e4 9e5 X,9e6 9fe V,9ff a00 X,a01 a03 V,a04 a04 X",
  "a05 a0a V,a0b a0e X,a0f a10 V,a11 a12 X,a13 a28 V,a29 a29 X,a2a a30 V,a31 a31 X",
  "a32 a32 V,a33 a33 S a32 a3c,a34 a34 X,a35 a35 V,a36 a36 S a38 a3c,a37 a37 X,a38 a39 V",
  "a3a a3b X,a3c a3c V,a3d a3d X,a3e a42 V,a43 a46 X,a47 a48 V,a49 a4a X,a4b a4d V",
  "a4e a50 X,a51 a51 V,a52 a58 X,a59 a59 S a16 a3c,a5a a5a S a17 a3c,a5b a5b S a1c a3c",
  "a5c a5c V,a5d a5d X,a5e a5e S a2b a3c,a5f a65 X,a66 a76 V,a77 a80 X,a81 a83 V,a84 a84 X",
  "a85 a8d V,a8e a8e X,a8f a91 V,a92 a92 X,a93 aa8 V,aa9 aa9 X,aaa ab0 V,ab1 ab1 X",
  "ab2 ab3 V,ab4 ab4 X,ab5 ab9 V,aba abb X,abc ac5 V,ac6 ac6 X,ac7 ac9 V,aca aca X",
  "acb acd V,ace acf X,ad0 ad0 V,ad1 adf X,ae0 ae3 V,ae4 ae5 X,ae6 af1 V,af2 af8 X",
  "af9 aff V,b00 b00 X,b01 b03 V,b04 b04 X,b05 b0c V,b0d b0e X,b0f b10 V,b11 b12 X",
  "b13 b28 V,b29 b29 X,b2a b30 V,b31 b31 X,b32 b33 V,b34 b34 X,b35 b39 V,b3a b3b X",
  "b3c b44 V,b45 b46 X,b47 b48 V,b49 b4a X,b4b b4d V,b4e b54 X,b55 b57 V,b58 b5b X",
  "b5c b5c S b21 b3c,b5d b5d S b22 b3c,b5e b5e X,b5f b63 V,b64 b65 X,b66 b77 V,b78 b81 X",
  "b82 b83 V,b84 b84 X,b85 b8a V,b8b b8d X,b8e b90 V,b91 b91 X,b92 b95 V,b96 b98 X",
  "b99 b9a V,b9b b9b X,b9c b9c V,b9d b9d X,b9e b9f V,ba0 ba2 X,ba3 ba4 V,ba5 ba7 X",
  "ba8 baa V,bab bad X,bae bb9 V,bba bbd X,bbe bc2 V,bc3 bc5 X,bc6 bc8 V,bc9 bc9 X",
  "bca bcd V,bce bcf X,bd0 bd0 V,bd1 bd6 X,bd7 bd7 V,bd8 be5 X,be6 bfa V,bfb bff X",
  "c00 c0c V,c0d c0d X,c0e c10 V,c11 c11 X,c12 c28 V,c29 c29 X,c2a c39 V,c3a c3b X",
  "c3c c44 V,c45 c45 X,c46 c48 V,c49 c49 X,c4a c4d V,c4e c54 X,c55 c56 V,c57 c57 X",
  "c58 c5a V,c5b c5c X,c5d c5d V,c5e c5f X,c60 c63 V,c64 c65 X,c66 c6f V,c70 c76 X",
  "c77 c8c V,c8d c8d X,c8e c90 V,c91 c91 X,c92 ca8 V,ca9 ca9 X,caa cb3 V,cb4 cb4 X",
  "cb5 cb9 V,cba cbb X,cbc cc4 V,cc5 cc5 X,cc6 cc8 V,cc9 cc9 X,cca ccd V,cce cd4 X",
  "cd5 cd6 V,cd7 cdc X,cdd cde V,cdf cdf X,ce0 ce3 V,ce4 ce5 X,ce6 cef V,cf0 cf0 X",
  "cf1 cf3 V,cf4 cff X,d00 d0c V,d0d d0d X,d0e d10 V,d11 d11 X,d12 d44 V,d45 d45 X",
  "d46 d48 V,d49 d49 X,d4a d4f V,d50 d53 X,d54 d63 V,d64 d65 X,d66 d7f V,d80 d80 X",
  "d81 d83 V,d84 d84 X,d85 d96 V,d97 d99 X,d9a db1 V,db2 db2 X,db3 dbb V,dbc dbc X",
  "dbd dbd V,dbe dbf X,dc0 dc6 V,dc7 dc9 X,dca dca V,dcb dce X,dcf dd4 V,dd5 dd5 X",
  "dd6 dd6 V,dd7 dd7 X,dd8 ddf V,de0 de5 X,de6 def V,df0 df1 X,df2 df4 V,df5 e00 X",
  "e01 e32 V,e33 e33 S e4d e32,e34 e3a V,e3b e3e X,e3f e5b V,e5c e80 X,e81 e82 V,e83 e83 X",
  "e84 e84 V,e85 e85 X,e86 e8a V,e8b e8b X,e8c ea3 V,ea4 ea4 X,ea5 ea5 V,ea6 ea6 X",
  "ea7 eb2 V,eb3 eb3 S ecd eb2,eb4 ebd V,ebe ebf X,ec0 ec4 V,ec5 ec5 X,ec6 ec6 V,ec7 ec7 X",
  "ec8 ece V,ecf ecf X,ed0 ed9 V,eda edb X,edc edc S eab e99,edd edd S eab ea1,ede edf V",
  "ee0 eff X,f00 f0b V,f0c f0c S f0b,f0d f42 V,f43 f43 S f42 fb7,f44 f47 V,f48 f48 X",
  "f49 f4c V,f4d f4d S f4c fb7,f4e f51 V,f52 f52 S f51 fb7,f53 f56 V,f57 f57 S f56 fb7",
  "f58 f5b V,f5c f5c S f5b fb7,f5d f68 V,f69 f69 S f40 fb5,f6a f6c V,f6d f70 X,f71 f72 V",
  "f73 f73 S f71 f72,f74 f74 V,f75 f75 S f71 f74,f76 f76 S fb2 f80,f77 f77 S fb2 f71 f80",
  "f78 f78 S fb3 f80,f79 f79 S fb3 f71 f80,f7a f80 V,f81 f81 S f71 f80,f82 f92 V",
  "f93 f93 S f92 fb7,f94 f97 V,f98 f98 X,f99 f9c V,f9d f9d S f9c fb7,f9e fa1 V",
  "fa2 fa2 S fa1 fb7,fa3 fa6 V,fa7 fa7 S fa6 fb7,fa8 fab V,fac fac S fab fb7,fad fb8 V",
  "fb9 fb9 S f90 fb5,fba fbc V,fbd fbd X,fbe fcc V,fcd fcd X,fce fda V,fdb fff X",
  "1000 109f V,10a0 10c6 X,10c7 10c7 S 2d27,10c8 10cc X,10cd 10cd S 2d2d,10ce 10cf X",
  "10d0 10fb V,10fc 10fc S 10dc,10fd 115e V,115f 1160 X,1161 1248 V,1249 1249 X,124a 124d V",
  "124e 124f X,1250 1256 V,1257 1257 X,1258 1258 V,1259 1259 X,125a 125d V,125e 125f X",
  "1260 1288 V,1289 1289 X,128a 128d V,128e 128f X,1290 12b0 V,12b1 12b1 X,12b2 12b5 V",
  "12b6 12b7 X,12b8 12be V,12bf 12bf X,12c0 12c0 V,12c1 12c1 X,12c2 12c5 V,12c6 12c7 X",
  "12c8 12d6 V,12d7 12d7 X,12d8 1310 V,1311 1311 X,1312 1315 V,1316 1317 X,1318 135a V",
  "135b 135c X,135d 137c V,137d 137f X,1380 1399 V,139a 139f X,13a0 13f5 V,13f6 13f7 X",
  "13f8 13fd R -8,13fe 13ff X,1400 167f V,1680 1680 X,1681 169c V,169d 169f X,16a0 16f8 V",
  "16f9 16ff X,1700 1715 V,1716 171e X,171f 1736 V,1737 173f X,1740 1753 V,1754 175f X",
  "1760 176c V,176d 176d X,176e 1770 V,1771 1771 X,1772 1773 V,1774 177f X,1780 17b3 V",
  "17b4 17b5 X,17b6 17dd V,17de 17df X,17e0 17e9 V,17ea 17ef X,17f0 17f9 V,17fa 17ff X",
  "1800 1805 V,1806 1806 X,1807 180a V,180b 180d I,180e 180e X,180f 180f I,1810 1819 V",
  "181a 181f X,1820 1878 V,1879 187f X,1880 18aa V,18ab 18af X,18b0 18f5 V,18f6 18ff X",
  "1900 191e V,191f 191f X,1920 192b V,192c 192f X,1930 193b V,193c 193f X,1940 1940 V",
  "1941 1943 X,1944 196d V,196e 196f X,1970 1974 V,1975 197f X,1980 19ab V,19ac 19af X",
  "19b0 19c9 V,19ca 19cf X,19d0 19da V,19db 19dd X,19de 1a1b V,1a1c 1a1d X,1a1e 1a5e V",
  "1a5f 1a5f X,1a60 1a7c V,1a7d 1a7e X,1a7f 1a89 V,1a8a 1a8f X,1a90 1a99 V,1a9a 1a9f X",
  "1aa0 1aad V,1aae 1aaf X,1ab0 1ace V,1acf 1aff X,1b00 1b4c V,1b4d 1b4f X,1b50 1b7e V",
  "1b7f 1b7f X,1b80 1bf3 V,1bf4 1bfb X,1bfc 1c37 V,1c38 1c3a X,1c3b 1c49 V,1c4a 1c4c X",
  "1c4d 1c7f V,1c80 1c80 S 432,1c81 1c81 S 434,1c82 1c82 S 43e,1c83 1c84 R -6210",
  "1c85 1c85 S 442,1c86 1c86 S 44a,1c87 1c87 S 463,1c88 1c88 S a64b,1c89 1c8f X",
  "1c90 1cba R -3008,1cbb 1cbc X,1cbd 1cbf R -3008,1cc0 1cc7 V,1cc8 1ccf X,1cd0 1cfa V",
  "1cfb 1cff X,1d00 1d2b V,1d2c 1d2c S 61,1d2d 1d2d S e6,1d2e 1d30 P -7372,1d31 1d31 S 65",
  "1d32 1d32 S 1dd,1d33 1d3a R -7372,1d3b 1d3b V,1d3c 1d3c S 6f,1d3d 1d3d S 223",
  "1d3e 1d3e S 70,1d3f 1d3f S 72,1d40 1d41 R -7372,1d42 1d42 S 77,1d43 1d43 S 61",
  "1d44 1d45 R -6900,1d46 1d46 S 1d02,1d47 1d47 S 62,1d48 1d49 R -7396,1d4a 1d4a S 259",
  "1d4b 1d4c R -6896,1d4d 1d4d S 67,1d4e 1d4e V,1d4f 1d4f S 6b,1d50 1d50 S 6d",
  "1d51 1d51 S 14b,1d52 1d52 S 6f,1d53 1d53 S 254,1d54 1d55 R -62,1d56 1d56 S 70",
  "1d57 1d58 R -7395,1d59 1d59 S 1d1d,1d5a 1d5a S 26f,1d5b 1d5b S 76,1d5c 1d5c S 1d25",
  "1d5d 1d5f R -6571,1d60 1d61 R -6554,1d62 1d62 S 69,1d63 1d63 S 72,1d64 1d65 R -7407",
  "1d66 1d67 R -6580,1d68 1d68 S 3c1,1d69 1d6a R -6563,1d6b 1d77 V,1d78 1d78 S 43d",
  "1d79 1d9a V,1d9b 1d9b S 252,1d9c 1d9c S 63,1d9d 1d9d S 255,1d9e 1d9e S f0",
  "1d9f 1d9f S 25c,1da0 1da0 S 66,1da1 1da1 S 25f,1da2 1da2 S 261,1da3 1da3 S 265",
  "1da4 1da6 R -6972,1da7 1da7 S 1d7b,1da8 1da8 S 29d,1da9 1da9 S 26d,1daa 1daa S 1d85",
  "1dab 1dab S 29f,1dac 1dac S 271,1dad 1dad S 270,1dae 1db1 R -6972,1db2 1db2 S 278",
  "1db3 1db4 R -6961,1db5 1db5 S 1ab,1db6 1db7 R -6957,1db8 1db8 S 1d1c,1db9 1dba R -6958",
  "1dbb 1dbb S 7a,1dbc 1dbe R -6956,1dbf 1dbf S 3b8,1dc0 1dff V,1e00 1e94 P 1,1e95 1e99 V",
  "1e9a 1e9a S 61 2be,1e9b 1e9b S 1e61,1e9c 1e9d V,1e9e 1e9e S 73 73,1e9f 1e9f V",
  "1ea0 1efe P 1,1eff 1f07 V,1f08 1f0f R -8,1f10 1f15 V,1f16 1f17 X,1f18 1f1d R -8",
  "1f1e 1f1f X,1f20 1f27 V,1f28 1f2f R -8,1f30 1f37 V,1f38 1f3f R -8,1f40 1f45 V",
  "1f46 1f47 X,1f48 1f4d R -8,1f4e 1f4f X,1f50 1f57 V,1f58 1f58 X,1f59 1f59 S 1f51",
  "1f5a 1f5a X,1f5b 1f5b S 1f53,1f5c 1f5c X,1f5d 1f5d S 1f55,1f5e 1f5e X,1f5f 1f5f S 1f57",
  "1f60 1f67 V,1f68 1f6f R -8,1f70 1f70 V,1f71 1f71 S 3ac,1f72 1f72 V,1f73 1f73 S 3ad",
  "1f74 1f74 V,1f75 1f75 S 3ae,1f76 1f76 V,1f77 1f77 S 3af,1f78 1f78 V,1f79 1f79 S 3cc",
  "1f7a 1f7a V,1f7b 1f7b S 3cd,1f7c 1f7c V,1f7d 1f7d S 3ce,1f7e 1f7f X,1f80 1f80 S 1f00 3b9",
  "1f81 1f81 S 1f01 3b9,1f82 1f82 S 1f02 3b9,1f83 1f83 S 1f03 3b9,1f84 1f84 S 1f04 3b9",
  "1f85 1f85 S 1f05 3b9,1f86 1f86 S 1f06 3b9,1f87 1f87 S 1f07 3b9,1f88 1f88 S 1f00 3b9",
  "1f89 1f89 S 1f01 3b9,1f8a 1f8a S 1f02 3b9,1f8b 1f8b S 1f03 3b9,1f8c 1f8c S 1f04 3b9",
  "1f8d 1f8d S 1f05 3b9,1f8e 1f8e S 1f06 3b9,1f8f 1f8f S 1f07 3b9,1f90 1f90 S 1f20 3b9",
  "1f91 1f91 S 1f21 3b9,1f92 1f92 S 1f22 3b9,1f93 1f93 S 1f23 3b9,1f94 1f94 S 1f24 3b9",
  "1f95 1f95 S 1f25 3b9,1f96 1f96 S 1f26 3b9,1f97 1f97 S 1f27 3b9,1f98 1f98 S 1f20 3b9",
  "1f99 1f99 S 1f21 3b9,1f9a 1f9a S 1f22 3b9,1f9b 1f9b S 1f23 3b9,1f9c 1f9c S 1f24 3b9",
  "1f9d 1f9d S 1f25 3b9,1f9e 1f9e S 1f26 3b9,1f9f 1f9f S 1f27 3b9,1fa0 1fa0 S 1f60 3b9",
  "1fa1 1fa1 S 1f61 3b9,1fa2 1fa2 S 1f62 3b9,1fa3 1fa3 S 1f63 3b9,1fa4 1fa4 S 1f64 3b9",
  "1fa5 1fa5 S 1f65 3b9,1fa6 1fa6 S 1f66 3b9,1fa7 1fa7 S 1f67 3b9,1fa8 1fa8 S 1f60 3b9",
  "1fa9 1fa9 S 1f61 3b9,1faa 1faa S 1f62 3b9,1fab 1fab S 1f63 3b9,1fac 1fac S 1f64 3b9",
  "1fad 1fad S 1f65 3b9,1fae 1fae S 1f66 3b9,1faf 1faf S 1f67 3b9,1fb0 1fb1 V",
  "1fb2 1fb2 S 1f70 3b9,1fb3 1fb3 S 3b1 3b9,1fb4 1fb4 S 3ac 3b9,1fb5 1fb5 X,1fb6 1fb6 V",
  "1fb7 1fb7 S 1fb6 3b9,1fb8 1fb9 R -8,1fba 1fba S 1f70,1fbb 1fbb S 3ac,1fbc 1fbc S 3b1 3b9",
  "1fbd 1fbd X,1fbe 1fbe S 3b9,1fbf 1fc1 X,1fc2 1fc2 S 1f74 3b9,1fc3 1fc3 S 3b7 3b9",
  "1fc4 1fc4 S 3ae 3b9,1fc5 1fc5 X,1fc6 1fc6 V,1fc7 1fc7 S 1fc6 3b9,1fc8 1fc8 S 1f72",
  "1fc9 1fc9 S 3ad,1fca 1fca S 1f74,1fcb 1fcb S 3ae,1fcc 1fcc S 3b7 3b9,1fcd 1fcf X",
  "1fd0 1fd2 V,1fd3 1fd3 S 390,1fd4 1fd5 X,1fd6 1fd7 V,1fd8 1fd9 R -8,1fda 1fda S 1f76",
  "1fdb 1fdb S 3af,1fdc 1fdf X,1fe0 1fe2 V,1fe3 1fe3 S 3b0,1fe4 1fe7 V,1fe8 1fe9 R -8",
  "1fea 1fea S 1f7a,1feb 1feb S 3cd,1fec 1fec S 1fe5,1fed 1ff1 X,1ff2 1ff2 S 1f7c 3b9",
  "1ff3 1ff3 S 3c9 3b9,1ff4 1ff4 S 3ce 3b9,1ff5 1ff5 X,1ff6 1ff6 V,1ff7 1ff7 S 1ff6 3b9",
  "1ff8 1ff8 S 1f78,1ff9 1ff9 S 3cc,1ffa 1ffa S 1f7c,1ffb 1ffb S 3ce,1ffc 1ffc S 3c9 3b9",
  "1ffd 200a X,200b 200b I,200c 200d V,200e 200f X,2010 2010 V,2011 2011 S 2010,2012 2016 V",
  "2017 2017 X,2018 2023 V,2024 2026 X,2027 2027 V,2028 202f X,2030 2032 V",
  "2033 2033 S 2032 2032,2034 2034 S 2032 2032 2032,2035 2035 V,2036 2036 S 2035 2035",
  "2037 2037 S 2035 2035 2035,2038 203b V,203c 203c X,203d 203d V,203e 203e X,203f 2046 V",
  "2047 2049 X,204a 2056 V,2057 2057 S 2032 2032 2032 2032,2058 205e V,205f 205f X",
  "2060 2060 I,2061 2063 X,2064 2064 I,2065 206f X,2070 2070 S 30,2071 2071 S 69",
  "2072 2073 X,2074 2079 R -8256,207a 207a X,207b 207b S 2212,207c 207e X,207f 207f S 6e",
  "2080 2089 R -8272,208a 208a X,208b 208b S 2212,208c 208f X,2090 2090 S 61,2091 2091 S 65",
  "2092 2092 S 6f,2093 2093 S 78,2094 2094 S 259,2095 2095 S 68,2096 2099 R -8235",
  "209a 209a S 70,209b 209c R -8232,209d 209f X,20a0 20a7 V,20a8 20a8 S 72 73,20a9 20c0 V",
  "20c1 20cf X,20d0 20f0 V,20f1 2101 X,2102 2102 S 63,2103 2103 S b0 63,2104 2104 V",
  "2105 2106 X,2107 2107 S 25b,2108 2108 V,2109 2109 S b0 66,210a 210b R -8355",
  "210c 210e S 68,210f 210f S 127,2110 2111 S 69,2112 2113 S 6c,2114 2114 V,2115 2115 S 6e",
  "2116 2116 S 6e 6f,2117 2118 V,2119 211b R -8361,211c 211d S 72,211e 211f V",
  "2120 2120 S 73 6d,2121 2121 S 74 65 6c,2122 2122 S 74 6d,2123 2123 V,2124 2124 S 7a",
  "2125 2125 V,2126 2126 S 3c9,2127 2127 V,2128 2128 S 7a,2129 2129 V,212a 212a S 6b",
  "212b 212b S e5,212c 212d R -8394,212e 212e V,212f 2130 S 65,2131 2131 S 66,2132 2132 X",
  "2133 2133 S 6d,2134 2134 S 6f,2135 2138 R -7013,2139 2139 S 69,213a 213a V",
  "213b 213b S 66 61 78,213c 213c S 3c0,213d 213e S 3b3,213f 213f S 3c0,2140 2140 S 2211",
  "2141 2144 V,2145 2146 S 64,2147 2147 S 65,2148 2149 R -8415,214a 214f V",
  "2150 2150 S 31 2044 37,2151 2151 S 31 2044 39,2152 2152 S 31 2044 31 30",
  "2153 2153 S 31 2044 33,2154 2154 S 32 2044 33,2155 2155 S 31 2044 35",
  "2156 2156 S 32 2044 35,2157 2157 S 33 2044 35,2158 2158 S 34 2044 35",
  "2159 2159 S 31 2044 36,215a 215a S 35 2044 36,215b 215b S 31 2044 38",
  "215c 215c S 33 2044 38,215d 215d S 35 2044 38,215e 215e S 37 2044 38,215f 215f S 31 2044",
  "2160 2160 S 69,2161 2161 S 69 69,2162 2162 S 69 69 69,2163 2163 S 69 76,2164 2164 S 76",
  "2165 2165 S 76 69,2166 2166 S 76 69 69,2167 2167 S 76 69 69 69,2168 2168 S 69 78",
  "2169 2169 S 78,216a 216a S 78 69,216b 216b S 78 69 69,216c 216c S 6c,216d 216e R -8458",
  "216f 216f S 6d,2170 2170 S 69,2171 2171 S 69 69,2172 2172 S 69 69 69,2173 2173 S 69 76",
  "2174 2174 S 76,2175 2175 S 76 69,2176 2176 S 76 69 69,2177 2177 S 76 69 69 69",
  "2178 2178 S 69 78,2179 2179 S 78,217a 217a S 78 69,217b 217b S 78 69 69,217c 217c S 6c",
  "217d 217e R -8474,217f 217f S 6d,2180 2182 V,2183 2183 X,2184 2188 V",
  "2189 2189 S 30 2044 33,218a 218b V,218c 218f X,2190 222b V,222c 222c S 222b 222b",
  "222d 222d S 222b 222b 222b,222e 222e V,222f 222f S 222e 222e,2230 2230 S 222e 222e 222e",
  "2231 225f V,2260 2260 X,2261 226d V,226e 226f X,2270 2328 V,2329 232a R 3295,232b 2426 V",
  "2427 243f X,2440 244a V,244b 245f X,2460 2468 R -9263,2469 2469 S 31 30",
  "246a 246a S 31 31,246b 246b S 31 32,246c 246c S 31 33,246d 246d S 31 34",
  "246e 246e S 31 35,246f 246f S 31 36,2470 2470 S 31 37,2471 2471 S 31 38",
  "2472 2472 S 31 39,2473 2473 S 32 30,2474 24b5 X,24b6 24cf R -9301,24d0 24e9 R -9327",
  "24ea 24ea S 30,24eb 2a0b V,2a0c 2a0c S 222b 222b 222b 222b,2a0d 2a73 V,2a74 2a76 X",
  "2a77 2adb V,2adc 2adc S 2add 338,2add 2b73 V,2b74 2b75 X,2b76 2b95 V,2b96 2b96 X",
  "2b97 2bff V,2c00 2c2f R 48,2c30 2c5f V,2c60 2c60 S 2c61,2c61 2c61 V,2c62 2c62 S 26b",
  "2c63 2c63 S 1d7d,2c64 2c64 S 27d,2c65 2c66 V,2c67 2c6b P 1,2c6c 2c6c V,2c6d 2c6d S 251",
  "2c6e 2c6e S 271,2c6f 2c6f S 250,2c70 2c70 S 252,2c71 2c71 V,2c72 2c72 S 2c73,2c73 2c74 V",
  "2c75 2c75 S 2c76,2c76 2c7b V,2c7c 2c7c S 6a,2c7d 2c7d S 76,2c7e 2c7f R -10815",
  "2c80 2ce2 P 1,2ce3 2cea V,2ceb 2ced P 1,2cee 2cf1 V,2cf2 2cf2 S 2cf3,2cf3 2cf3 V",
  "2cf4 2cf8 X,2cf9 2d25 V,2d26 2d26 X,2d27 2d27 V,2d28 2d2c X,2d2d 2d2d V,2d2e 2d2f X",
  "2d30 2d67 V,2d68 2d6e X,2d6f 2d6f S 2d61,2d70 2d70 V,2d71 2d7e X,2d7f 2d96 V,2d97 2d9f X",
  "2da0 2da6 V,2da7 2da7 X,2da8 2dae V,2daf 2daf X,2db0 2db6 V,2db7 2db7 X,2db8 2dbe V",
  "2dbf 2dbf X,2dc0 2dc6 V,2dc7 2dc7 X,2dc8 2dce V,2dcf 2dcf X,2dd0 2dd6 V,2dd7 2dd7 X",
  "2dd8 2dde V,2ddf 2ddf X,2de0 2e5d V,2e5e 2e7f X,2e80 2e99 V,2e9a 2e9a X,2e9b 2e9e V",
  "2e9f 2e9f S 6bcd,2ea0 2ef2 V,2ef3 2ef3 S 9f9f,2ef4 2eff X,2f00 2f00 S 4e00",
  "2f01 2f01 S 4e28,2f02 2f02 S 4e36,2f03 2f03 S 4e3f,2f04 2f04 S 4e59,2f05 2f05 S 4e85",
  "2f06 2f06 S 4e8c,2f07 2f07 S 4ea0,2f08 2f08 S 4eba,2f09 2f09 S 513f,2f0a 2f0a S 5165",
  "2f0b 2f0b S 516b,2f0c 2f0c S 5182,2f0d 2f0d S 5196,2f0e 2f0e S 51ab,2f0f 2f0f S 51e0",
  "2f10 2f10 S 51f5,2f11 2f11 S 5200,2f12 2f12 S 529b,2f13 2f13 S 52f9,2f14 2f14 S 5315",
  "2f15 2f15 S 531a,2f16 2f16 S 5338,2f17 2f17 S 5341,2f18 2f18 S 535c,2f19 2f19 S 5369",
  "2f1a 2f1a S 5382,2f1b 2f1b S 53b6,2f1c 2f1c S 53c8,2f1d 2f1d S 53e3,2f1e 2f1e S 56d7",
  "2f1f 2f1f S 571f,2f20 2f20 S 58eb,2f21 2f21 S 5902,2f22 2f22 S 590a,2f23 2f23 S 5915",
  "2f24 2f24 S 5927,2f25 2f25 S 5973,2f26 2f26 S 5b50,2f27 2f27 S 5b80,2f28 2f28 S 5bf8",
  "2f29 2f29 S 5c0f,2f2a 2f2a S 5c22,2f2b 2f2b S 5c38,2f2c 2f2c S 5c6e,2f2d 2f2d S 5c71",
  "2f2e 2f2e S 5ddb,2f2f 2f2f S 5de5,2f30 2f30 S 5df1,2f31 2f31 S 5dfe,2f32 2f32 S 5e72",
  "2f33 2f33 S 5e7a,2f34 2f34 S 5e7f,2f35 2f35 S 5ef4,2f36 2f36 S 5efe,2f37 2f37 S 5f0b",
  "2f38 2f38 S 5f13,2f39 2f39 S 5f50,2f3a 2f3a S 5f61,2f3b 2f3b S 5f73,2f3c 2f3c S 5fc3",
  "2f3d 2f3d S 6208,2f3e 2f3e S 6236,2f3f 2f3f S 624b,2f40 2f40 S 652f,2f41 2f41 S 6534",
  "2f42 2f42 S 6587,2f43 2f43 S 6597,2f44 2f44 S 65a4,2f45 2f45 S 65b9,2f46 2f46 S 65e0",
  "2f47 2f47 S 65e5,2f48 2f48 S 66f0,2f49 2f49 S 6708,2f4a 2f4a S 6728,2f4b 2f4b S 6b20",
  "2f4c 2f4c S 6b62,2f4d 2f4d S 6b79,2f4e 2f4e S 6bb3,2f4f 2f4f S 6bcb,2f50 2f50 S 6bd4",
  "2f51 2f51 S 6bdb,2f52 2f52 S 6c0f,2f53 2f53 S 6c14,2f54 2f54 S 6c34,2f55 2f55 S 706b",
  "2f56 2f56 S 722a,2f57 2f57 S 7236,2f58 2f58 S 723b,2f59 2f59 S 723f,2f5a 2f5a S 7247",
  "2f5b 2f5b S 7259,2f5c 2f5c S 725b,2f5d 2f5d S 72ac,2f5e 2f5e S 7384,2f5f 2f5f S 7389",
  "2f60 2f60 S 74dc,2f61 2f61 S 74e6,2f62 2f62 S 7518,2f63 2f63 S 751f,2f64 2f64 S 7528",
  "2f65 2f65 S 7530,2f66 2f66 S 758b,2f67 2f67 S 7592,2f68 2f68 S 7676,2f69 2f69 S 767d",
  "2f6a 2f6a S 76ae,2f6b 2f6b S 76bf,2f6c 2f6c S 76ee,2f6d 2f6d S 77db,2f6e 2f6e S 77e2",
  "2f6f 2f6f S 77f3,2f70 2f70 S 793a,2f71 2f71 S 79b8,2f72 2f72 S 79be,2f73 2f73 S 7a74",
  "2f74 2f74 S 7acb,2f75 2f75 S 7af9,2f76 2f76 S 7c73,2f77 2f77 S 7cf8,2f78 2f78 S 7f36",
  "2f79 2f79 S 7f51,2f7a 2f7a S 7f8a,2f7b 2f7b S 7fbd,2f7c 2f7c S 8001,2f7d 2f7d S 800c",
  "2f7e 2f7e S 8012,2f7f 2f7f S 8033,2f80 2f80 S 807f,2f81 2f81 S 8089,2f82 2f82 S 81e3",
  "2f83 2f83 S 81ea,2f84 2f84 S 81f3,2f85 2f85 S 81fc,2f86 2f86 S 820c,2f87 2f87 S 821b",
  "2f88 2f88 S 821f,2f89 2f89 S 826e,2f8a 2f8a S 8272,2f8b 2f8b S 8278,2f8c 2f8c S 864d",
  "2f8d 2f8d S 866b,2f8e 2f8e S 8840,2f8f 2f8f S 884c,2f90 2f90 S 8863,2f91 2f91 S 897e",
  "2f92 2f92 S 898b,2f93 2f93 S 89d2,2f94 2f94 S 8a00,2f95 2f95 S 8c37,2f96 2f96 S 8c46",
  "2f97 2f97 S 8c55,2f98 2f98 S 8c78,2f99 2f99 S 8c9d,2f9a 2f9a S 8d64,2f9b 2f9b S 8d70",
  "2f9c 2f9c S 8db3,2f9d 2f9d S 8eab,2f9e 2f9e S 8eca,2f9f 2f9f S 8f9b,2fa0 2fa0 S 8fb0",
  "2fa1 2fa1 S 8fb5,2fa2 2fa2 S 9091,2fa3 2fa3 S 9149,2fa4 2fa4 S 91c6,2fa5 2fa5 S 91cc",
  "2fa6 2fa6 S 91d1,2fa7 2fa7 S 9577,2fa8 2fa8 S 9580,2fa9 2fa9 S 961c,2faa 2faa S 96b6",
  "2fab 2fab S 96b9,2fac 2fac S 96e8,2fad 2fad S 9751,2fae 2fae S 975e,2faf 2faf S 9762",
  "2fb0 2fb0 S 9769,2fb1 2fb1 S 97cb,2fb2 2fb2 S 97ed,2fb3 2fb3 S 97f3,2fb4 2fb4 S 9801",
  "2fb5 2fb5 S 98a8,2fb6 2fb6 S 98db,2fb7 2fb7 S 98df,2fb8 2fb8 S 9996,2fb9 2fb9 S 9999",
  "2fba 2fba S 99ac,2fbb 2fbb S 9aa8,2fbc 2fbc S 9ad8,2fbd 2fbd S 9adf,2fbe 2fbe S 9b25",
  "2fbf 2fbf S 9b2f,2fc0 2fc0 S 9b32,2fc1 2fc1 S 9b3c,2fc2 2fc2 S 9b5a,2fc3 2fc3 S 9ce5",
  "2fc4 2fc4 S 9e75,2fc5 2fc5 S 9e7f,2fc6 2fc6 S 9ea5,2fc7 2fc7 S 9ebb,2fc8 2fc8 S 9ec3",
  "2fc9 2fc9 S 9ecd,2fca 2fca S 9ed1,2fcb 2fcb S 9ef9,2fcc 2fcc S 9efd,2fcd 2fcd S 9f0e",
  "2fce 2fce S 9f13,2fcf 2fcf S 9f20,2fd0 2fd0 S 9f3b,2fd1 2fd1 S 9f4a,2fd2 2fd2 S 9f52",
  "2fd3 2fd3 S 9f8d,2fd4 2fd4 S 9f9c,2fd5 2fd5 S 9fa0,2fd6 3000 X,3001 3001 V",
  "3002 3002 S 2e,3003 3035 V,3036 3036 S 3012,3037 3037 V,3038 3038 S 5341",
  "3039 303a R 8971,303b 303f V,3040 3040 X,3041 3096 V,3097 3098 X,3099 309a V,309b 309c X",
  "309d 309e V,309f 309f S 3088 308a,30a0 30fe V,30ff 30ff S 30b3 30c8,3100 3104 X",
  "3105 312f V,3130 3130 X,3131 3132 R -8241,3133 3133 S 11aa,3134 3134 S 1102",
  "3135 3136 R -8073,3137 3139 R -8244,313a 313f R -8074,3140 3140 S 111a,3141 3143 R -8251",
  "3144 3144 S 1121,3145 314e R -8252,314f 3163 R -8174,3164 3164 X,3165 3166 R -8273",
  "3167 3168 R -8096,3169 3169 S 11cc,316a 316a S 11ce,316b 316b S 11d3,316c 316c S 11d7",
  "316d 316d S 11d9,316e 316e S 111c,316f 316f S 11dd,3170 3170 S 11df,3171 3172 R -8276",
  "3173 3173 S 1120,3174 3175 R -8274,3176 3176 S 1127,3177 3177 S 1129,3178 317c R -8269",
  "317d 317d S 1132,317e 317e S 1136,317f 317f S 1140,3180 3180 S 1147,3181 3181 S 114c",
  "3182 3183 R -8081,3184 3186 R -8237,3187 3188 R -8195,3189 3189 S 1188,318a 318b R -8185",
  "318c 318c S 1194,318d 318d S 119e,318e 318e S 11a1,318f 318f X,3190 3191 V",
  "3192 3192 S 4e00,3193 3193 S 4e8c,3194 3194 S 4e09,3195 3195 S 56db,3196 3196 S 4e0a",
  "3197 3197 S 4e2d,3198 3198 S 4e0b,3199 3199 S 7532,319a 319a S 4e59,319b 319b S 4e19",
  "319c 319c S 4e01,319d 319d S 5929,319e 319e S 5730,319f 319f S 4eba,31a0 31e3 V",
  "31e4 31ef X,31f0 31ff V,3200 3243 X,3244 3244 S 554f,3245 3245 S 5e7c,3246 3246 S 6587",
  "3247 3247 S 7b8f,3248 324f V,3250 3250 S 70 74 65,3251 3251 S 32 31,3252 3252 S 32 32",
  "3253 3253 S 32 33,3254 3254 S 32 34,3255 3255 S 32 35,3256 3256 S 32 36",
  "3257 3257 S 32 37,3258 3258 S 32 38,3259 3259 S 32 39,325a 325a S 33 30",
  "325b 325b S 33 31,325c 325c S 33 32,325d 325d S 33 33,325e 325e S 33 34",
  "325f 325f S 33 35,3260 3260 S 1100,3261 3262 R -8543,3263 3265 R -8542,3266 3266 S 1109",
  "3267 3268 R -8540,3269 326d R -8539,326e 326e S ac00,326f 326f S b098,3270 3270 S b2e4",
  "3271 3271 S b77c,3272 3272 S b9c8,3273 3273 S bc14,3274 3274 S c0ac,3275 3275 S c544",
  "3276 3276 S c790,3277 3277 S cc28,3278 3278 S ce74,3279 3279 S d0c0,327a 327a S d30c",
  "327b 327b S d558,327c 327c S cc38 ace0,327d 327d S c8fc c758,327e 327e S c6b0",
  "327f 327f V,3280 3280 S 4e00,3281 3281 S 4e8c,3282 3282 S 4e09,3283 3283 S 56db",
  "3284 3284 S 4e94,3285 3285 S 516d,3286 3286 S 4e03,3287 3287 S 516b,3288 3288 S 4e5d",
  "3289 3289 S 5341,328a 328a S 6708,328b 328b S 706b,328c 328c S 6c34,328d 328d S 6728",
  "328e 328e S 91d1,328f 328f S 571f,3290 3290 S 65e5,3291 3291 S 682a,3292 3292 S 6709",
  "3293 3293 S 793e,3294 3294 S 540d,3295 3295 S 7279,3296 3296 S 8ca1,3297 3297 S 795d",
  "3298 3298 S 52b4,3299 3299 S 79d8,329a 329a S 7537,329b 329b S 5973,329c 329c S 9069",
  "329d 329d S 512a,329e 329e S 5370,329f 329f S 6ce8,32a0 32a0 S 9805,32a1 32a1 S 4f11",
  "32a2 32a2 S 5199,32a3 32a3 S 6b63,32a4 32a4 S 4e0a,32a5 32a5 S 4e2d,32a6 32a6 S 4e0b",
  "32a7 32a7 S 5de6,32a8 32a8 S 53f3,32a9 32a9 S 533b,32aa 32aa S 5b97,32ab 32ab S 5b66",
  "32ac 32ac S 76e3,32ad 32ad S 4f01,32ae 32ae S 8cc7,32af 32af S 5354,32b0 32b0 S 591c",
  "32b1 32b1 S 33 36,32b2 32b2 S 33 37,32b3 32b3 S 33 38,32b4 32b4 S 33 39",
  "32b5 32b5 S 34 30,32b6 32b6 S 34 31,32b7 32b7 S 34 32,32b8 32b8 S 34 33",
  "32b9 32b9 S 34 34,32ba 32ba S 34 35,32bb 32bb S 34 36,32bc 32bc S 34 37",
  "32bd 32bd S 34 38,32be 32be S 34 39,32bf 32bf S 35 30,32c0 32c0 S 31 6708",
  "32c1 32c1 S 32 6708,32c2 32c2 S 33 6708,32c3 32c3 S 34 6708,32c4 32c4 S 35 6708",
  "32c5 32c5 S 36 6708,32c6 32c6 S 37 6708,32c7 32c7 S 38 6708,32c8 32c8 S 39 6708",
  "32c9 32c9 S 31 30 6708,32ca 32ca S 31 31 6708,32cb 32cb S 31 32 6708,32cc 32cc S 68 67",
  "32cd 32cd S 65 72 67,32ce 32ce S 65 76,32cf 32cf S 6c 74 64,32d0 32d0 S 30a2",
  "32d1 32d1 S 30a4,32d2 32d2 S 30a6,32d3 32d3 S 30a8,32d4 32d5 R -554,32d6 32d6 S 30ad",
  "32d7 32d7 S 30af,32d8 32d8 S 30b1,32d9 32d9 S 30b3,32da 32da S 30b5,32db 32db S 30b7",
  "32dc 32dc S 30b9,32dd 32dd S 30bb,32de 32de S 30bd,32df 32df S 30bf,32e0 32e0 S 30c1",
  "32e1 32e1 S 30c4,32e2 32e2 S 30c6,32e3 32e3 S 30c8,32e4 32e9 R -538,32ea 32ea S 30d2",
  "32eb 32eb S 30d5,32ec 32ec S 30d8,32ed 32ed S 30db,32ee 32f2 R -528,32f3 32f3 S 30e4",
  "32f4 32f4 S 30e6,32f5 32fa R -525,32fb 32fe R -524,32ff 32ff S 4ee4 548c",
  "3300 3300 S 30a2 30d1 30fc 30c8,3301 3301 S 30a2 30eb 30d5 30a1",
  "3302 3302 S 30a2 30f3 30da 30a2,3303 3303 S 30a2 30fc 30eb",
  "3304 3304 S 30a4 30cb 30f3 30b0,3305 3305 S 30a4 30f3 30c1,3306 3306 S 30a6 30a9 30f3",
  "3307 3307 S 30a8 30b9 30af 30fc 30c9,3308 3308 S 30a8 30fc 30ab 30fc",
  "3309 3309 S 30aa 30f3 30b9,330a 330a S 30aa 30fc 30e0,330b 330b S 30ab 30a4 30ea",
  "330c 330c S 30ab 30e9 30c3 30c8,330d 330d S 30ab 30ed 30ea 30fc",
  "330e 330e S 30ac 30ed 30f3,330f 330f S 30ac 30f3 30de,3310 3310 S 30ae 30ac",
  "3311 3311 S 30ae 30cb 30fc,3312 3312 S 30ad 30e5 30ea 30fc",
  "3313 3313 S 30ae 30eb 30c0 30fc,3314 3314 S 30ad 30ed",
  "3315 3315 S 30ad 30ed 30b0 30e9 30e0,3316 3316 S 30ad 30ed 30e1 30fc 30c8 30eb",
  "3317 3317 S 30ad 30ed 30ef 30c3 30c8,3318 3318 S 30b0 30e9 30e0",
  "3319 3319 S 30b0 30e9 30e0 30c8 30f3,331a 331a S 30af 30eb 30bc 30a4 30ed",
  "331b 331b S 30af 30ed 30fc 30cd,331c 331c S 30b1 30fc 30b9,331d 331d S 30b3 30eb 30ca",
  "331e 331e S 30b3 30fc 30dd,331f 331f S 30b5 30a4 30af 30eb",
  "3320 3320 S 30b5 30f3 30c1 30fc 30e0,3321 3321 S 30b7 30ea 30f3 30b0",
  "3322 3322 S 30bb 30f3 30c1,3323 3323 S 30bb 30f3 30c8,3324 3324 S 30c0 30fc 30b9",
  "3325 3325 S 30c7 30b7,3326 3326 S 30c9 30eb,3327 3327 S 30c8 30f3,3328 3328 S 30ca 30ce",
  "3329 3329 S 30ce 30c3 30c8,332a 332a S 30cf 30a4 30c4",
  "332b 332b S 30d1 30fc 30bb 30f3 30c8,332c 332c S 30d1 30fc 30c4",
  "332d 332d S 30d0 30fc 30ec 30eb,332e 332e S 30d4 30a2 30b9 30c8 30eb",
  "332f 332f S 30d4 30af 30eb,3330 3330 S 30d4 30b3,3331 3331 S 30d3 30eb",
  "3332 3332 S 30d5 30a1 30e9 30c3 30c9,3333 3333 S 30d5 30a3 30fc 30c8",
  "3334 3334 S 30d6 30c3 30b7 30a7 30eb,3335 3335 S 30d5 30e9 30f3",
  "3336 3336 S 30d8 30af 30bf 30fc 30eb,3337 3337 S 30da 30bd,3338 3338 S 30da 30cb 30d2",
  "3339 3339 S 30d8 30eb 30c4,333a 333a S 30da 30f3 30b9,333b 333b S 30da 30fc 30b8",
  "333c 333c S 30d9 30fc 30bf,333d 333d S 30dd 30a4 30f3 30c8,333e 333e S 30dc 30eb 30c8",
  "333f 333f S 30db 30f3,3340 3340 S 30dd 30f3 30c9,3341 3341 S 30db 30fc 30eb",
  "3342 3342 S 30db 30fc 30f3,3343 3343 S 30de 30a4 30af 30ed,3344 3344 S 30de 30a4 30eb",
  "3345 3345 S 30de 30c3 30cf,3346 3346 S 30de 30eb 30af",
  "3347 3347 S 30de 30f3 30b7 30e7 30f3,3348 3348 S 30df 30af 30ed 30f3",
  "3349 3349 S 30df 30ea,334a 334a S 30df 30ea 30d0 30fc 30eb,334b 334b S 30e1 30ac",
  "334c 334c S 30e1 30ac 30c8 30f3,334d 334d S 30e1 30fc 30c8 30eb",
  "334e 334e S 30e4 30fc 30c9,334f 334f S 30e4 30fc 30eb,3350 3350 S 30e6 30a2 30f3",
  "3351 3351 S 30ea 30c3 30c8 30eb,3352 3352 S 30ea 30e9,3353 3353 S 30eb 30d4 30fc",
  "3354 3354 S 30eb 30fc 30d6 30eb,3355 3355 S 30ec 30e0",
  "3356 3356 S 30ec 30f3 30c8 30b2 30f3,3357 3357 S 30ef 30c3 30c8,3358 3358 S 30 70b9",
  "3359 3359 S 31 70b9,335a 335a S 32 70b9,335b 335b S 33 70b9,335c 335c S 34 70b9",
  "335d 335d S 35 70b9,335e 335e S 36 70b9,335f 335f S 37 70b9,3360 3360 S 38 70b9",
  "3361 3361 S 39 70b9,3362 3362 S 31 30 70b9,3363 3363 S 31 31 70b9,3364 3364 S 31 32 70b9",
  "3365 3365 S 31 33 70b9,3366 3366 S 31 34 70b9,3367 3367 S 31 35 70b9",
  "3368 3368 S 31 36 70b9,3369 3369 S 31 37 70b9,336a 336a S 31 38 70b9",
  "336b 336b S 31 39 70b9,336c 336c S 32 30 70b9,336d 336d S 32 31 70b9",
  "336e 336e S 32 32 70b9,336f 336f S 32 33 70b9,3370 3370 S 32 34 70b9",
  "3371 3371 S 68 70 61,3372 3372 S 64 61,3373 3373 S 61 75,3374 3374 S 62 61 72",
  "3375 3375 S 6f 76,3376 3376 S 70 63,3377 3377 S 64 6d,3378 3378 S 64 6d 32",
  "3379 3379 S 64 6d 33,337a 337a S 69 75,337b 337b S 5e73 6210,337c 337c S 662d 548c",
  "337d 337d S 5927 6b63,337e 337e S 660e 6cbb,337f 337f S 682a 5f0f 4f1a 793e",
  "3380 3380 S 70 61,3381 3381 S 6e 61,3382 3382 S 3bc 61,3383 3383 S 6d 61",
  "3384 3384 S 6b 61,3385 3385 S 6b 62,3386 3386 S 6d 62,3387 3387 S 67 62",
  "3388 3388 S 63 61 6c,3389 3389 S 6b 63 61 6c,338a 338a S 70 66,338b 338b S 6e 66",
  "338c 338c S 3bc 66,338d 338d S 3bc 67,338e 338e S 6d 67,338f 338f S 6b 67",
  "3390 3390 S 68 7a,3391 3391 S 6b 68 7a,3392 3392 S 6d 68 7a,3393 3393 S 67 68 7a",
  "3394 3394 S 74 68 7a,3395 3395 S 3bc 6c,3396 3396 S 6d 6c,3397 3397 S 64 6c",
  "3398 3398 S 6b 6c,3399 3399 S 66 6d,339a 339a S 6e 6d,339b 339b S 3bc 6d",
  "339c 339c S 6d 6d,339d 339d S 63 6d,339e 339e S 6b 6d,339f 339f S 6d 6d 32",
  "33a0 33a0 S 63 6d 32,33a1 33a1 S 6d 32,33a2 33a2 S 6b 6d 32,33a3 33a3 S 6d 6d 33",
  "33a4 33a4 S 63 6d 33,33a5 33a5 S 6d 33,33a6 33a6 S 6b 6d 33,33a7 33a7 S 6d 2215 73",
  "33a8 33a8 S 6d 2215 73 32,33a9 33a9 S 70 61,33aa 33aa S 6b 70 61,33ab 33ab S 6d 70 61",
  "33ac 33ac S 67 70 61,33ad 33ad S 72 61 64,33ae 33ae S 72 61 64 2215 73",
  "33af 33af S 72 61 64 2215 73 32,33b0 33b0 S 70 73,33b1 33b1 S 6e 73,33b2 33b2 S 3bc 73",
  "33b3 33b3 S 6d 73,33b4 33b4 S 70 76,33b5 33b5 S 6e 76,33b6 33b6 S 3bc 76",
  "33b7 33b7 S 6d 76,33b8 33b8 S 6b 76,33b9 33b9 S 6d 76,33ba 33ba S 70 77",
  "33bb 33bb S 6e 77,33bc 33bc S 3bc 77,33bd 33bd S 6d 77,33be 33be S 6b 77",
  "33bf 33bf S 6d 77,33c0 33c0 S 6b 3c9,33c1 33c1 S 6d 3c9,33c2 33c2 X,33c3 33c3 S 62 71",
  "33c4 33c4 S 63 63,33c5 33c5 S 63 64,33c6 33c6 S 63 2215 6b 67,33c7 33c7 X",
  "33c8 33c8 S 64 62,33c9 33c9 S 67 79,33ca 33ca S 68 61,33cb 33cb S 68 70",
  "33cc 33cc S 69 6e,33cd 33cd S 6b 6b,33ce 33ce S 6b 6d,33cf 33cf S 6b 74",
  "33d0 33d0 S 6c 6d,33d1 33d1 S 6c 6e,33d2 33d2 S 6c 6f 67,33d3 33d3 S 6c 78",
  "33d4 33d4 S 6d 62,33d5 33d5 S 6d 69 6c,33d6 33d6 S 6d 6f 6c,33d7 33d7 S 70 68",
  "33d8 33d8 X,33d9 33d9 S 70 70 6d,33da 33da S 70 72,33db 33db S 73 72,33dc 33dc S 73 76",
  "33dd 33dd S 77 62,33de 33de S 76 2215 6d,33df 33df S 61 2215 6d,33e0 33e0 S 31 65e5",
  "33e1 33e1 S 32 65e5,33e2 33e2 S 33 65e5,33e3 33e3 S 34 65e5,33e4 33e4 S 35 65e5",
  "33e5 33e5 S 36 65e5,33e6 33e6 S 37 65e5,33e7 33e7 S 38 65e5,33e8 33e8 S 39 65e5",
  "33e9 33e9 S 31 30 65e5,33ea 33ea S 31 31 65e5,33eb 33eb S 31 32 65e5",
  "33ec 33ec S 31 33 65e5,33ed 33ed S 31 34 65e5,33ee 33ee S 31 35 65e5",
  "33ef 33ef S 31 36 65e5,33f0 33f0 S 31 37 65e5,33f1 33f1 S 31 38 65e5",
  "33f2 33f2 S 31 39 65e5,33f3 33f3 S 32 30 65e5,33f4 33f4 S 32 31 65e5",
  "33f5 33f5 S 32 32 65e5,33f6 33f6 S 32 33 65e5,33f7 33f7 S 32 34 65e5",
  "33f8 33f8 S 32 35 65e5,33f9 33f9 S 32 36 65e5,33fa 33fa S 32 37 65e5",
  "33fb 33fb S 32 38 65e5,33fc 33fc S 32 39 65e5,33fd 33fd S 33 30 65e5",
  "33fe 33fe S 33 31 65e5,33ff 33ff S 67 61 6c,3400 a48c V,a48d a48f X,a490 a4c6 V",
  "a4c7 a4cf X,a4d0 a62b V,a62c a63f X,a640 a66c P 1,a66d a67f V,a680 a69a P 1,a69b a69b V",
  "a69c a69c S 44a,a69d a69d S 44c,a69e a6f7 V,a6f8 a6ff X,a700 a721 V,a722 a72e P 1",
  "a72f a731 V,a732 a76e P 1,a76f a76f V,a770 a770 S a76f,a771 a778 V,a779 a77b P 1",
  "a77c a77c V,a77d a77d S 1d79,a77e a786 P 1,a787 a78a V,a78b a78b S a78c,a78c a78c V",
  "a78d a78d S 265,a78e a78f V,a790 a792 P 1,a793 a795 V,a796 a7a8 P 1,a7a9 a7a9 V",
  "a7aa a7aa S 266,a7ab a7ab S 25c,a7ac a7ac S 261,a7ad a7ad S 26c,a7ae a7ae S 26a",
  "a7af a7af V,a7b0 a7b0 S 29e,a7b1 a7b1 S 287,a7b2 a7b2 S 29d,a7b3 a7b3 S ab53",
  "a7b4 a7c2 P 1,a7c3 a7c3 V,a7c4 a7c4 S a794,a7c5 a7c5 S 282,a7c6 a7c6 S 1d8e",
  "a7c7 a7c9 P 1,a7ca a7ca V,a7cb a7cf X,a7d0 a7d0 S a7d1,a7d1 a7d1 V,a7d2 a7d2 X",
  "a7d3 a7d3 V,a7d4 a7d4 X,a7d5 a7d5 V,a7d6 a7d8 P 1,a7d9 a7d9 V,a7da a7f1 X,a7f2 a7f2 S 63",
  "a7f3 a7f3 S 66,a7f4 a7f4 S 71,a7f5 a7f5 S a7f6,a7f6 a7f7 V,a7f8 a7f8 S 127",
  "a7f9 a7f9 S 153,a7fa a82c V,a82d a82f X,a830 a839 V,a83a a83f X,a840 a877 V,a878 a87f X",
  "a880 a8c5 V,a8c6 a8cd X,a8ce a8d9 V,a8da a8df X,a8e0 a953 V,a954 a95e X,a95f a97c V",
  "a97d a97f X,a980 a9cd V,a9ce a9ce X,a9cf a9d9 V,a9da a9dd X,a9de a9fe V,a9ff a9ff X",
  "aa00 aa36 V,aa37 aa3f X,aa40 aa4d V,aa4e aa4f X,aa50 aa59 V,aa5a aa5b X,aa5c aac2 V",
  "aac3 aada X,aadb aaf6 V,aaf7 ab00 X,ab01 ab06 V,ab07 ab08 X,ab09 ab0e V,ab0f ab10 X",
  "ab11 ab16 V,ab17 ab1f X,ab20 ab26 V,ab27 ab27 X,ab28 ab2e V,ab2f ab2f X,ab30 ab5b V",
  "ab5c ab5c S a727,ab5d ab5d S ab37,ab5e ab5e S 26b,ab5f ab5f S ab52,ab60 ab68 V",
  "ab69 ab69 S 28d,ab6a ab6b V,ab6c ab6f X,ab70 abbf R -38864,abc0 abed V,abee abef X",
  "abf0 abf9 V,abfa abff X,ac00 d7a3 V,d7a4 d7af X,d7b0 d7c6 V,d7c7 d7ca X,d7cb d7fb V",
  "d7fc f8ff X,f900 f900 S 8c48,f901 f901 S 66f4,f902 f902 S 8eca,f903 f903 S 8cc8",
  "f904 f904 S 6ed1,f905 f905 S 4e32,f906 f906 S 53e5,f907 f908 S 9f9c,f909 f909 S 5951",
  "f90a f90a S 91d1,f90b f90b S 5587,f90c f90c S 5948,f90d f90d S 61f6,f90e f90e S 7669",
  "f90f f90f S 7f85,f910 f910 S 863f,f911 f911 S 87ba,f912 f912 S 88f8,f913 f913 S 908f",
  "f914 f914 S 6a02,f915 f915 S 6d1b,f916 f916 S 70d9,f917 f917 S 73de,f918 f918 S 843d",
  "f919 f919 S 916a,f91a f91a S 99f1,f91b f91b S 4e82,f91c f91c S 5375,f91d f91d S 6b04",
  "f91e f91e S 721b,f91f f91f S 862d,f920 f920 S 9e1e,f921 f921 S 5d50,f922 f922 S 6feb",
  "f923 f923 S 85cd,f924 f924 S 8964,f925 f925 S 62c9,f926 f926 S 81d8,f927 f927 S 881f",
  "f928 f928 S 5eca,f929 f929 S 6717,f92a f92a S 6d6a,f92b f92b S 72fc,f92c f92c S 90ce",
  "f92d f92d S 4f86,f92e f92e S 51b7,f92f f92f S 52de,f930 f930 S 64c4,f931 f931 S 6ad3",
  "f932 f932 S 7210,f933 f933 S 76e7,f934 f934 S 8001,f935 f935 S 8606,f936 f936 S 865c",
  "f937 f937 S 8def,f938 f938 S 9732,f939 f939 S 9b6f,f93a f93a S 9dfa,f93b f93b S 788c",
  "f93c f93c S 797f,f93d f93d S 7da0,f93e f93e S 83c9,f93f f93f S 9304,f940 f940 S 9e7f",
  "f941 f941 S 8ad6,f942 f942 S 58df,f943 f943 S 5f04,f944 f944 S 7c60,f945 f945 S 807e",
  "f946 f946 S 7262,f947 f947 S 78ca,f948 f948 S 8cc2,f949 f949 S 96f7,f94a f94a S 58d8",
  "f94b f94b S 5c62,f94c f94c S 6a13,f94d f94d S 6dda,f94e f94e S 6f0f,f94f f94f S 7d2f",
  "f950 f950 S 7e37,f951 f951 S 964b,f952 f952 S 52d2,f953 f953 S 808b,f954 f954 S 51dc",
  "f955 f955 S 51cc,f956 f956 S 7a1c,f957 f957 S 7dbe,f958 f958 S 83f1,f959 f959 S 9675",
  "f95a f95a S 8b80,f95b f95b S 62cf,f95c f95c S 6a02,f95d f95d S 8afe,f95e f95e S 4e39",
  "f95f f95f S 5be7,f960 f960 S 6012,f961 f961 S 7387,f962 f962 S 7570,f963 f963 S 5317",
  "f964 f964 S 78fb,f965 f965 S 4fbf,f966 f966 S 5fa9,f967 f967 S 4e0d,f968 f968 S 6ccc",
  "f969 f969 S 6578,f96a f96a S 7d22,f96b f96b S 53c3,f96c f96c S 585e,f96d f96d S 7701",
  "f96e f96e S 8449,f96f f96f S 8aaa,f970 f970 S 6bba,f971 f971 S 8fb0,f972 f972 S 6c88",
  "f973 f973 S 62fe,f974 f974 S 82e5,f975 f975 S 63a0,f976 f976 S 7565,f977 f977 S 4eae",
  "f978 f978 S 5169,f979 f979 S 51c9,f97a f97a S 6881,f97b f97b S 7ce7,f97c f97c S 826f",
  "f97d f97d S 8ad2,f97e f97e S 91cf,f97f f97f S 52f5,f980 f980 S 5442,f981 f981 S 5973",
  "f982 f982 S 5eec,f983 f983 S 65c5,f984 f984 S 6ffe,f985 f985 S 792a,f986 f986 S 95ad",
  "f987 f987 S 9a6a,f988 f988 S 9e97,f989 f989 S 9ece,f98a f98a S 529b,f98b f98b S 66c6",
  "f98c f98c S 6b77,f98d f98d S 8f62,f98e f98e S 5e74,f98f f98f S 6190,f990 f990 S 6200",
  "f991 f991 S 649a,f992 f992 S 6f23,f993 f993 S 7149,f994 f994 S 7489,f995 f995 S 79ca",
  "f996 f996 S 7df4,f997 f997 S 806f,f998 f998 S 8f26,f999 f999 S 84ee,f99a f99a S 9023",
  "f99b f99b S 934a,f99c f99c S 5217,f99d f99d S 52a3,f99e f99e S 54bd,f99f f99f S 70c8",
  "f9a0 f9a0 S 88c2,f9a1 f9a1 S 8aaa,f9a2 f9a2 S 5ec9,f9a3 f9a3 S 5ff5,f9a4 f9a4 S 637b",
  "f9a5 f9a5 S 6bae,f9a6 f9a6 S 7c3e,f9a7 f9a7 S 7375,f9a8 f9a8 S 4ee4,f9a9 f9a9 S 56f9",
  "f9aa f9aa S 5be7,f9ab f9ab S 5dba,f9ac f9ac S 601c,f9ad f9ad S 73b2,f9ae f9ae S 7469",
  "f9af f9af S 7f9a,f9b0 f9b0 S 8046,f9b1 f9b1 S 9234,f9b2 f9b2 S 96f6,f9b3 f9b3 S 9748",
  "f9b4 f9b4 S 9818,f9b5 f9b5 S 4f8b,f9b6 f9b6 S 79ae,f9b7 f9b7 S 91b4,f9b8 f9b8 S 96b8",
  "f9b9 f9b9 S 60e1,f9ba f9ba S 4e86,f9bb f9bb S 50da,f9bc f9bc S 5bee,f9bd f9bd S 5c3f",
  "f9be f9be S 6599,f9bf f9bf S 6a02,f9c0 f9c0 S 71ce,f9c1 f9c1 S 7642,f9c2 f9c2 S 84fc",
  "f9c3 f9c3 S 907c,f9c4 f9c4 S 9f8d,f9c5 f9c5 S 6688,f9c6 f9c6 S 962e,f9c7 f9c7 S 5289",
  "f9c8 f9c8 S 677b,f9c9 f9c9 S 67f3,f9ca f9ca S 6d41,f9cb f9cb S 6e9c,f9cc f9cc S 7409",
  "f9cd f9cd S 7559,f9ce f9ce S 786b,f9cf f9cf S 7d10,f9d0 f9d0 S 985e,f9d1 f9d1 S 516d",
  "f9d2 f9d2 S 622e,f9d3 f9d3 S 9678,f9d4 f9d4 S 502b,f9d5 f9d5 S 5d19,f9d6 f9d6 S 6dea",
  "f9d7 f9d7 S 8f2a,f9d8 f9d8 S 5f8b,f9d9 f9d9 S 6144,f9da f9da S 6817,f9db f9db S 7387",
  "f9dc f9dc S 9686,f9dd f9dd S 5229,f9de f9de S 540f,f9df f9df S 5c65,f9e0 f9e0 S 6613",
  "f9e1 f9e1 S 674e,f9e2 f9e2 S 68a8,f9e3 f9e3 S 6ce5,f9e4 f9e4 S 7406,f9e5 f9e5 S 75e2",
  "f9e6 f9e6 S 7f79,f9e7 f9e7 S 88cf,f9e8 f9e8 S 88e1,f9e9 f9e9 S 91cc,f9ea f9ea S 96e2",
  "f9eb f9eb S 533f,f9ec f9ec S 6eba,f9ed f9ed S 541d,f9ee f9ee S 71d0,f9ef f9ef S 7498",
  "f9f0 f9f0 S 85fa,f9f1 f9f1 S 96a3,f9f2 f9f2 S 9c57,f9f3 f9f3 S 9e9f,f9f4 f9f4 S 6797",
  "f9f5 f9f5 S 6dcb,f9f6 f9f6 S 81e8,f9f7 f9f7 S 7acb,f9f8 f9f8 S 7b20,f9f9 f9f9 S 7c92",
  "f9fa f9fa S 72c0,f9fb f9fb S 7099,f9fc f9fc S 8b58,f9fd f9fd S 4ec0,f9fe f9fe S 8336",
  "f9ff f9ff S 523a,fa00 fa00 S 5207,fa01 fa01 S 5ea6,fa02 fa02 S 62d3,fa03 fa03 S 7cd6",
  "fa04 fa04 S 5b85,fa05 fa05 S 6d1e,fa06 fa06 S 66b4,fa07 fa07 S 8f3b,fa08 fa08 S 884c",
  "fa09 fa09 S 964d,fa0a fa0a S 898b,fa0b fa0b S 5ed3,fa0c fa0c S 5140,fa0d fa0d S 55c0",
  "fa0e fa0f V,fa10 fa10 S 585a,fa11 fa11 V,fa12 fa12 S 6674,fa13 fa14 V,fa15 fa15 S 51de",
  "fa16 fa16 S 732a,fa17 fa17 S 76ca,fa18 fa18 S 793c,fa19 fa19 S 795e,fa1a fa1a S 7965",
  "fa1b fa1b S 798f,fa1c fa1c S 9756,fa1d fa1d S 7cbe,fa1e fa1e S 7fbd,fa1f fa1f V",
  "fa20 fa20 S 8612,fa21 fa21 V,fa22 fa22 S 8af8,fa23 fa24 V,fa25 fa25 S 9038",
  "fa26 fa26 S 90fd,fa27 fa29 V,fa2a fa2a S 98ef,fa2b fa2b S 98fc,fa2c fa2c S 9928",
  "fa2d fa2d S 9db4,fa2e fa2e S 90de,fa2f fa2f S 96b7,fa30 fa30 S 4fae,fa31 fa31 S 50e7",
  "fa32 fa32 S 514d,fa33 fa33 S 52c9,fa34 fa34 S 52e4,fa35 fa35 S 5351,fa36 fa36 S 559d",
  "fa37 fa37 S 5606,fa38 fa38 S 5668,fa39 fa39 S 5840,fa3a fa3a S 58a8,fa3b fa3b S 5c64",
  "fa3c fa3c S 5c6e,fa3d fa3d S 6094,fa3e fa3e S 6168,fa3f fa3f S 618e,fa40 fa40 S 61f2",
  "fa41 fa41 S 654f,fa42 fa42 S 65e2,fa43 fa43 S 6691,fa44 fa44 S 6885,fa45 fa45 S 6d77",
  "fa46 fa46 S 6e1a,fa47 fa47 S 6f22,fa48 fa48 S 716e,fa49 fa49 S 722b,fa4a fa4a S 7422",
  "fa4b fa4b S 7891,fa4c fa4c S 793e,fa4d fa4d S 7949,fa4e fa4e S 7948,fa4f fa4f S 7950",
  "fa50 fa50 S 7956,fa51 fa51 S 795d,fa52 fa53 R -32965,fa54 fa54 S 7a40,fa55 fa55 S 7a81",
  "fa56 fa56 S 7bc0,fa57 fa57 S 7df4,fa58 fa58 S 7e09,fa59 fa59 S 7e41,fa5a fa5a S 7f72",
  "fa5b fa5b S 8005,fa5c fa5c S 81ed,fa5d fa5e S 8279,fa5f fa5f S 8457,fa60 fa60 S 8910",
  "fa61 fa61 S 8996,fa62 fa62 S 8b01,fa63 fa63 S 8b39,fa64 fa64 S 8cd3,fa65 fa65 S 8d08",
  "fa66 fa66 S 8fb6,fa67 fa67 S 9038,fa68 fa68 S 96e3,fa69 fa69 S 97ff,fa6a fa6a S 983b",
  "fa6b fa6b S 6075,fa6c fa6c S 242ee,fa6d fa6d S 8218,fa6e fa6f X,fa70 fa70 S 4e26",
  "fa71 fa71 S 51b5,fa72 fa72 S 5168,fa73 fa73 S 4f80,fa74 fa74 S 5145,fa75 fa75 S 5180",
  "fa76 fa76 S 52c7,fa77 fa77 S 52fa,fa78 fa78 S 559d,fa79 fa79 S 5555,fa7a fa7a S 5599",
  "fa7b fa7b S 55e2,fa7c fa7c S 585a,fa7d fa7d S 58b3,fa7e fa7e S 5944,fa7f fa7f S 5954",
  "fa80 fa80 S 5a62,fa81 fa81 S 5b28,fa82 fa82 S 5ed2,fa83 fa83 S 5ed9,fa84 fa84 S 5f69",
  "fa85 fa85 S 5fad,fa86 fa86 S 60d8,fa87 fa87 S 614e,fa88 fa88 S 6108,fa89 fa89 S 618e",
  "fa8a fa8a S 6160,fa8b fa8b S 61f2,fa8c fa8c S 6234,fa8d fa8d S 63c4,fa8e fa8e S 641c",
  "fa8f fa8f S 6452,fa90 fa90 S 6556,fa91 fa91 S 6674,fa92 fa92 S 6717,fa93 fa93 S 671b",
  "fa94 fa94 S 6756,fa95 fa95 S 6b79,fa96 fa96 S 6bba,fa97 fa97 S 6d41,fa98 fa98 S 6edb",
  "fa99 fa99 S 6ecb,fa9a fa9a S 6f22,fa9b fa9b S 701e,fa9c fa9c S 716e,fa9d fa9d S 77a7",
  "fa9e fa9e S 7235,fa9f fa9f S 72af,faa0 faa0 S 732a,faa1 faa1 S 7471,faa2 faa2 S 7506",
  "faa3 faa3 S 753b,faa4 faa4 S 761d,faa5 faa5 S 761f,faa6 faa6 S 76ca,faa7 faa7 S 76db",
  "faa8 faa8 S 76f4,faa9 faa9 S 774a,faaa faaa S 7740,faab faab S 78cc,faac faac S 7ab1",
  "faad faad S 7bc0,faae faae S 7c7b,faaf faaf S 7d5b,fab0 fab0 S 7df4,fab1 fab1 S 7f3e",
  "fab2 fab2 S 8005,fab3 fab3 S 8352,fab4 fab4 S 83ef,fab5 fab5 S 8779,fab6 fab6 S 8941",
  "fab7 fab7 S 8986,fab8 fab8 S 8996,fab9 fab9 S 8abf,faba faba S 8af8,fabb fabb S 8acb",
  "fabc fabc S 8b01,fabd fabd S 8afe,fabe fabe S 8aed,fabf fabf S 8b39,fac0 fac0 S 8b8a",
  "fac1 fac1 S 8d08,fac2 fac2 S 8f38,fac3 fac3 S 9072,fac4 fac4 S 9199,fac5 fac5 S 9276",
  "fac6 fac6 S 967c,fac7 fac7 S 96e3,fac8 fac8 S 9756,fac9 fac9 S 97db,faca faca S 97ff",
  "facb facb S 980b,facc facc S 983b,facd facd S 9b12,face face S 9f9c,facf facf S 2284a",
  "fad0 fad0 S 22844,fad1 fad1 S 233d5,fad2 fad2 S 3b9d,fad3 fad3 S 4018,fad4 fad4 S 4039",
  "fad5 fad5 S 25249,fad6 fad6 S 25cd0,fad7 fad7 S 27ed3,fad8 fad8 S 9f43,fad9 fad9 S 9f8e",
  "fada faff X,fb00 fb00 S 66 66,fb01 fb01 S 66 69,fb02 fb02 S 66 6c,fb03 fb03 S 66 66 69",
  "fb04 fb04 S 66 66 6c,fb05 fb06 S 73 74,fb07 fb12 X,fb13 fb13 S 574 576",
  "fb14 fb14 S 574 565,fb15 fb15 S 574 56b,fb16 fb16 S 57e 576,fb17 fb17 S 574 56d",
  "fb18 fb1c X,fb1d fb1d S 5d9 5b4,fb1e fb1e V,fb1f fb1f S 5f2 5b7,fb20 fb20 S 5e2",
  "fb21 fb21 S 5d0,fb22 fb23 R -62799,fb24 fb26 R -62793,fb27 fb27 S 5e8,fb28 fb28 S 5ea",
  "fb29 fb29 X,fb2a fb2a S 5e9 5c1,fb2b fb2b S 5e9 5c2,fb2c fb2c S 5e9 5bc 5c1",
  "fb2d fb2d S 5e9 5bc 5c2,fb2e fb2e S 5d0 5b7,fb2f fb2f S 5d0 5b8,fb30 fb30 S 5d0 5bc",
  "fb31 fb31 S 5d1 5bc,fb32 fb32 S 5d2 5bc,fb33 fb33 S 5d3 5bc,fb34 fb34 S 5d4 5bc",
  "fb35 fb35 S 5d5 5bc,fb36 fb36 S 5d6 5bc,fb37 fb37 X,fb38 fb38 S 5d8 5bc",
  "fb39 fb39 S 5d9 5bc,fb3a fb3a S 5da 5bc,fb3b fb3b S 5db 5bc,fb3c fb3c S 5dc 5bc",
  "fb3d fb3d X,fb3e fb3e S 5de 5bc,fb3f fb3f X,fb40 fb40 S 5e0 5bc,fb41 fb41 S 5e1 5bc",
  "fb42 fb42 X,fb43 fb43 S 5e3 5bc,fb44 fb44 S 5e4 5bc,fb45 fb45 X,fb46 fb46 S 5e6 5bc",
  "fb47 fb47 S 5e7 5bc,fb48 fb48 S 5e8 5bc,fb49 fb49 S 5e9 5bc,fb4a fb4a S 5ea 5bc",
  "fb4b fb4b S 5d5 5b9,fb4c fb4c S 5d1 5bf,fb4d fb4d S 5db 5bf,fb4e fb4e S 5e4 5bf",
  "fb4f fb4f S 5d0 5dc,fb50 fb51 S 671,fb52 fb55 S 67b,fb56 fb59 S 67e,fb5a fb5d S 680",
  "fb5e fb61 S 67a,fb62 fb65 S 67f,fb66 fb69 S 679,fb6a fb6d S 6a4,fb6e fb71 S 6a6",
  "fb72 fb75 S 684,fb76 fb79 S 683,fb7a fb7d S 686,fb7e fb81 S 687,fb82 fb83 S 68d",
  "fb84 fb85 S 68c,fb86 fb87 S 68e,fb88 fb89 S 688,fb8a fb8b S 698,fb8c fb8d S 691",
  "fb8e fb91 S 6a9,fb92 fb95 S 6af,fb96 fb99 S 6b3,fb9a fb9d S 6b1,fb9e fb9f S 6ba",
  "fba0 fba3 S 6bb,fba4 fba5 S 6c0,fba6 fba9 S 6c1,fbaa fbad S 6be,fbae fbaf S 6d2",
  "fbb0 fbb1 S 6d3,fbb2 fbc2 V,fbc3 fbd2 X,fbd3 fbd6 S 6ad,fbd7 fbd8 S 6c7,fbd9 fbda S 6c6",
  "fbdb fbdc S 6c8,fbdd fbdd S 6c7 674,fbde fbdf S 6cb,fbe0 fbe1 S 6c5,fbe2 fbe3 S 6c9",
  "fbe4 fbe7 S 6d0,fbe8 fbe9 S 649,fbea fbeb S 626 627,fbec fbed S 626 6d5",
  "fbee fbef S 626 648,fbf0 fbf1 S 626 6c7,fbf2 fbf3 S 626 6c6,fbf4 fbf5 S 626 6c8",
  "fbf6 fbf8 S 626 6d0,fbf9 fbfb S 626 649,fbfc fbff S 6cc,fc00 fc00 S 626 62c",
  "fc01 fc01 S 626 62d,fc02 fc02 S 626 645,fc03 fc03 S 626 649,fc04 fc04 S 626 64a",
  "fc05 fc05 S 628 62c,fc06 fc06 S 628 62d,fc07 fc07 S 628 62e,fc08 fc08 S 628 645",
  "fc09 fc09 S 628 649,fc0a fc0a S 628 64a,fc0b fc0b S 62a 62c,fc0c fc0c S 62a 62d",
  "fc0d fc0d S 62a 62e,fc0e fc0e S 62a 645,fc0f fc0f S 62a 649,fc10 fc10 S 62a 64a",
  "fc11 fc11 S 62b 62c,fc12 fc12 S 62b 645,fc13 fc13 S 62b 649,fc14 fc14 S 62b 64a",
  "fc15 fc15 S 62c 62d,fc16 fc16 S 62c 645,fc17 fc17 S 62d 62c,fc18 fc18 S 62d 645",
  "fc19 fc19 S 62e 62c,fc1a fc1a S 62e 62d,fc1b fc1b S 62e 645,fc1c fc1c S 633 62c",
  "fc1d fc1d S 633 62d,fc1e fc1e S 633 62e,fc1f fc1f S 633 645,fc20 fc20 S 635 62d",
  "fc21 fc21 S 635 645,fc22 fc22 S 636 62c,fc23 fc23 S 636 62d,fc24 fc24 S 636 62e",
  "fc25 fc25 S 636 645,fc26 fc26 S 637 62d,fc27 fc27 S 637 645,fc28 fc28 S 638 645",
  "fc29 fc29 S 639 62c,fc2a fc2a S 639 645,fc2b fc2b S 63a 62c,fc2c fc2c S 63a 645",
  "fc2d fc2d S 641 62c,fc2e fc2e S 641 62d,fc2f fc2f S 641 62e,fc30 fc30 S 641 645",
  "fc31 fc31 S 641 649,fc32 fc32 S 641 64a,fc33 fc33 S 642 62d,fc34 fc34 S 642 645",
  "fc35 fc35 S 642 649,fc36 fc36 S 642 64a,fc37 fc37 S 643 627,fc38 fc38 S 643 62c",
  "fc39 fc39 S 643 62d,fc3a fc3a S 643 62e,fc3b fc3b S 643 644,fc3c fc3c S 643 645",
  "fc3d fc3d S 643 649,fc3e fc3e S 643 64a,fc3f fc3f S 644 62c,fc40 fc40 S 644 62d",
  "fc41 fc41 S 644 62e,fc42 fc42 S 644 645,fc43 fc43 S 644 649,fc44 fc44 S 644 64a",
  "fc45 fc45 S 645 62c,fc46 fc46 S 645 62d,fc47 fc47 S 645 62e,fc48 fc48 S 645 645",
  "fc49 fc49 S 645 649,fc4a fc4a S 645 64a,fc4b fc4b S 646 62c,fc4c fc4c S 646 62d",
  "fc4d fc4d S 646 62e,fc4e fc4e S 646 645,fc4f fc4f S 646 649,fc50 fc50 S 646 64a",
  "fc51 fc51 S 647 62c,fc52 fc52 S 647 645,fc53 fc53 S 647 649,fc54 fc54 S 647 64a",
  "fc55 fc55 S 64a 62c,fc56 fc56 S 64a 62d,fc57 fc57 S 64a 62e,fc58 fc58 S 64a 645",
  "fc59 fc59 S 64a 649,fc5a fc5a S 64a 64a,fc5b fc5b S 630 670,fc5c fc5c S 631 670",
  "fc5d fc5d S 649 670,fc5e fc63 X,fc64 fc64 S 626 631,fc65 fc65 S 626 632",
  "fc66 fc66 S 626 645,fc67 fc67 S 626 646,fc68 fc68 S 626 649,fc69 fc69 S 626 64a",
  "fc6a fc6a S 628 631,fc6b fc6b S 628 632,fc6c fc6c S 628 645,fc6d fc6d S 628 646",
  "fc6e fc6e S 628 649,fc6f fc6f S 628 64a,fc70 fc70 S 62a 631,fc71 fc71 S 62a 632",
  "fc72 fc72 S 62a 645,fc73 fc73 S 62a 646,fc74 fc74 S 62a 649,fc75 fc75 S 62a 64a",
  "fc76 fc76 S 62b 631,fc77 fc77 S 62b 632,fc78 fc78 S 62b 645,fc79 fc79 S 62b 646",
  "fc7a fc7a S 62b 649,fc7b fc7b S 62b 64a,fc7c fc7c S 641 649,fc7d fc7d S 641 64a",
  "fc7e fc7e S 642 649,fc7f fc7f S 642 64a,fc80 fc80 S 643 627,fc81 fc81 S 643 644",
  "fc82 fc82 S 643 645,fc83 fc83 S 643 649,fc84 fc84 S 643 64a,fc85 fc85 S 644 645",
  "fc86 fc86 S 644 649,fc87 fc87 S 644 64a,fc88 fc88 S 645 627,fc89 fc89 S 645 645",
  "fc8a fc8a S 646 631,fc8b fc8b S 646 632,fc8c fc8c S 646 645,fc8d fc8d S 646 646",
  "fc8e fc8e S 646 649,fc8f fc8f S 646 64a,fc90 fc90 S 649 670,fc91 fc91 S 64a 631",
  "fc92 fc92 S 64a 632,fc93 fc93 S 64a 645,fc94 fc94 S 64a 646,fc95 fc95 S 64a 649",
  "fc96 fc96 S 64a 64a,fc97 fc97 S 626 62c,fc98 fc98 S 626 62d,fc99 fc99 S 626 62e",
  "fc9a fc9a S 626 645,fc9b fc9b S 626 647,fc9c fc9c S 628 62c,fc9d fc9d S 628 62d",
  "fc9e fc9e S 628 62e,fc9f fc9f S 628 645,fca0 fca0 S 628 647,fca1 fca1 S 62a 62c",
  "fca2 fca2 S 62a 62d,fca3 fca3 S 62a 62e,fca4 fca4 S 62a 645,fca5 fca5 S 62a 647",
  "fca6 fca6 S 62b 645,fca7 fca7 S 62c 62d,fca8 fca8 S 62c 645,fca9 fca9 S 62d 62c",
  "fcaa fcaa S 62d 645,fcab fcab S 62e 62c,fcac fcac S 62e 645,fcad fcad S 633 62c",
  "fcae fcae S 633 62d,fcaf fcaf S 633 62e,fcb0 fcb0 S 633 645,fcb1 fcb1 S 635 62d",
  "fcb2 fcb2 S 635 62e,fcb3 fcb3 S 635 645,fcb4 fcb4 S 636 62c,fcb5 fcb5 S 636 62d",
  "fcb6 fcb6 S 636 62e,fcb7 fcb7 S 636 645,fcb8 fcb8 S 637 62d,fcb9 fcb9 S 638 645",
  "fcba fcba S 639 62c,fcbb fcbb S 639 645,fcbc fcbc S 63a 62c,fcbd fcbd S 63a 645",
  "fcbe fcbe S 641 62c,fcbf fcbf S 641 62d,fcc0 fcc0 S 641 62e,fcc1 fcc1 S 641 645",
  "fcc2 fcc2 S 642 62d,fcc3 fcc3 S 642 645,fcc4 fcc4 S 643 62c,fcc5 fcc5 S 643 62d",
  "fcc6 fcc6 S 643 62e,fcc7 fcc7 S 643 644,fcc8 fcc8 S 643 645,fcc9 fcc9 S 644 62c",
  "fcca fcca S 644 62d,fccb fccb S 644 62e,fccc fccc S 644 645,fccd fccd S 644 647",
  "fcce fcce S 645 62c,fccf fccf S 645 62d,fcd0 fcd0 S 645 62e,fcd1 fcd1 S 645 645",
  "fcd2 fcd2 S 646 62c,fcd3 fcd3 S 646 62d,fcd4 fcd4 S 646 62e,fcd5 fcd5 S 646 645",
  "fcd6 fcd6 S 646 647,fcd7 fcd7 S 647 62c,fcd8 fcd8 S 647 645,fcd9 fcd9 S 647 670",
  "fcda fcda S 64a 62c,fcdb fcdb S 64a 62d,fcdc fcdc S 64a 62e,fcdd fcdd S 64a 645",
  "fcde fcde S 64a 647,fcdf fcdf S 626 645,fce0 fce0 S 626 647,fce1 fce1 S 628 645",
  "fce2 fce2 S 628 647,fce3 fce3 S 62a 645,fce4 fce4 S 62a 647,fce5 fce5 S 62b 645",
  "fce6 fce6 S 62b 647,fce7 fce7 S 633 645,fce8 fce8 S 633 647,fce9 fce9 S 634 645",
  "fcea fcea S 634 647,fceb fceb S 643 644,fcec fcec S 643 645,fced fced S 644 645",
  "fcee fcee S 646 645,fcef fcef S 646 647,fcf0 fcf0 S 64a 645,fcf1 fcf1 S 64a 647",
  "fcf2 fcf2 S 640 64e 651,fcf3 fcf3 S 640 64f 651,fcf4 fcf4 S 640 650 651",
  "fcf5 fcf5 S 637 649,fcf6 fcf6 S 637 64a,fcf7 fcf7 S 639 649,fcf8 fcf8 S 639 64a",
  "fcf9 fcf9 S 63a 649,fcfa fcfa S 63a 64a,fcfb fcfb S 633 649,fcfc fcfc S 633 64a",
  "fcfd fcfd S 634 649,fcfe fcfe S 634 64a,fcff fcff S 62d 649,fd00 fd00 S 62d 64a",
  "fd01 fd01 S 62c 649,fd02 fd02 S 62c 64a,fd03 fd03 S 62e 649,fd04 fd04 S 62e 64a",
  "fd05 fd05 S 635 649,fd06 fd06 S 635 64a,fd07 fd07 S 636 649,fd08 fd08 S 636 64a",
  "fd09 fd09 S 634 62c,fd0a fd0a S 634 62d,fd0b fd0b S 634 62e,fd0c fd0c S 634 645",
  "fd0d fd0d S 634 631,fd0e fd0e S 633 631,fd0f fd0f S 635 631,fd10 fd10 S 636 631",
  "fd11 fd11 S 637 649,fd12 fd12 S 637 64a,fd13 fd13 S 639 649,fd14 fd14 S 639 64a",
  "fd15 fd15 S 63a 649,fd16 fd16 S 63a 64a,fd17 fd17 S 633 649,fd18 fd18 S 633 64a",
  "fd19 fd19 S 634 649,fd1a fd1a S 634 64a,fd1b fd1b S 62d 649,fd1c fd1c S 62d 64a",
  "fd1d fd1d S 62c 649,fd1e fd1e S 62c 64a,fd1f fd1f S 62e 649,fd20 fd20 S 62e 64a",
  "fd21 fd21 S 635 649,fd22 fd22 S 635 64a,fd23 fd23 S 636 649,fd24 fd24 S 636 64a",
  "fd25 fd25 S 634 62c,fd26 fd26 S 634 62d,fd27 fd27 S 634 62e,fd28 fd28 S 634 645",
  "fd29 fd29 S 634 631,fd2a fd2a S 633 631,fd2b fd2b S 635 631,fd2c fd2c S 636 631",
  "fd2d fd2d S 634 62c,fd2e fd2e S 634 62d,fd2f fd2f S 634 62e,fd30 fd30 S 634 645",
  "fd31 fd31 S 633 647,fd32 fd32 S 634 647,fd33 fd33 S 637 645,fd34 fd34 S 633 62c",
  "fd35 fd35 S 633 62d,fd36 fd36 S 633 62e,fd37 fd37 S 634 62c,fd38 fd38 S 634 62d",
  "fd39 fd39 S 634 62e,fd3a fd3a S 637 645,fd3b fd3b S 638 645,fd3c fd3d S 627 64b",
  "fd3e fd4f V,fd50 fd50 S 62a 62c 645,fd51 fd52 S 62a 62d 62c,fd53 fd53 S 62a 62d 645",
  "fd54 fd54 S 62a 62e 645,fd55 fd55 S 62a 645 62c,fd56 fd56 S 62a 645 62d",
  "fd57 fd57 S 62a 645 62e,fd58 fd59 S 62c 645 62d,fd5a fd5a S 62d 645 64a",
  "fd5b fd5b S 62d 645 649,fd5c fd5c S 633 62d 62c,fd5d fd5d S 633 62c 62d",
  "fd5e fd5e S 633 62c 649,fd5f fd60 S 633 645 62d,fd61 fd61 S 633 645 62c",
  "fd62 fd63 S 633 645 645,fd64 fd65 S 635 62d 62d,fd66 fd66 S 635 645 645",
  "fd67 fd68 S 634 62d 645,fd69 fd69 S 634 62c 64a,fd6a fd6b S 634 645 62e",
  "fd6c fd6d S 634 645 645,fd6e fd6e S 636 62d 649,fd6f fd70 S 636 62e 645",
  "fd71 fd72 S 637 645 62d,fd73 fd73 S 637 645 645,fd74 fd74 S 637 645 64a",
  "fd75 fd75 S 639 62c 645,fd76 fd77 S 639 645 645,fd78 fd78 S 639 645 649",
  "fd79 fd79 S 63a 645 645,fd7a fd7a S 63a 645 64a,fd7b fd7b S 63a 645 649",
  "fd7c fd7d S 641 62e 645,fd7e fd7e S 642 645 62d,fd7f fd7f S 642 645 645",
  "fd80 fd80 S 644 62d 645,fd81 fd81 S 644 62d 64a,fd82 fd82 S 644 62d 649",
  "fd83 fd84 S 644 62c 62c,fd85 fd86 S 644 62e 645,fd87 fd88 S 644 645 62d",
  "fd89 fd89 S 645 62d 62c,fd8a fd8a S 645 62d 645,fd8b fd8b S 645 62d 64a",
  "fd8c fd8c S 645 62c 62d,fd8d fd8d S 645 62c 645,fd8e fd8e S 645 62e 62c",
  "fd8f fd8f S 645 62e 645,fd90 fd91 X,fd92 fd92 S 645 62c 62e,fd93 fd93 S 647 645 62c",
  "fd94 fd94 S 647 645 645,fd95 fd95 S 646 62d 645,fd96 fd96 S 646 62d 649",
  "fd97 fd98 S 646 62c 645,fd99 fd99 S 646 62c 649,fd9a fd9a S 646 645 64a",
  "fd9b fd9b S 646 645 649,fd9c fd9d S 64a 645 645,fd9e fd9e S 628 62e 64a",
  "fd9f fd9f S 62a 62c 64a,fda0 fda0 S 62a 62c 649,fda1 fda1 S 62a 62e 64a",
  "fda2 fda2 S 62a 62e 649,fda3 fda3 S 62a 645 64a,fda4 fda4 S 62a 645 649",
  "fda5 fda5 S 62c 645 64a,fda6 fda6 S 62c 62d 649,fda7 fda7 S 62c 645 649",
  "fda8 fda8 S 633 62e 649,fda9 fda9 S 635 62d 64a,fdaa fdaa S 634 62d 64a",
  "fdab fdab S 636 62d 64a,fdac fdac S 644 62c 64a,fdad fdad S 644 645 64a",
  "fdae fdae S 64a 62d 64a,fdaf fdaf S 64a 62c 64a,fdb0 fdb0 S 64a 645 64a",
  "fdb1 fdb1 S 645 645 64a,fdb2 fdb2 S 642 645 64a,fdb3 fdb3 S 646 62d 64a",
  "fdb4 fdb4 S 642 645 62d,fdb5 fdb5 S 644 62d 645,fdb6 fdb6 S 639 645 64a",
  "fdb7 fdb7 S 643 645 64a,fdb8 fdb8 S 646 62c 62d,fdb9 fdb9 S 645 62e 64a",
  "fdba fdba S 644 62c 645,fdbb fdbb S 643 645 645,fdbc fdbc S 644 62c 645",
  "fdbd fdbd S 646 62c 62d,fdbe fdbe S 62c 62d 64a,fdbf fdbf S 62d 62c 64a",
  "fdc0 fdc0 S 645 62c 64a,fdc1 fdc1 S 641 645 64a,fdc2 fdc2 S 628 62d 64a",
  "fdc3 fdc3 S 643 645 645,fdc4 fdc4 S 639 62c 645,fdc5 fdc5 S 635 645 645",
  "fdc6 fdc6 S 633 62e 64a,fdc7 fdc7 S 646 62c 64a,fdc8 fdce X,fdcf fdcf V,fdd0 fdef X",
  "fdf0 fdf0 S 635 644 6d2,fdf1 fdf1 S 642 644 6d2,fdf2 fdf2 S 627 644 644 647",
  "fdf3 fdf3 S 627 643 628 631,fdf4 fdf4 S 645 62d 645 62f,fdf5 fdf5 S 635 644 639 645",
  "fdf6 fdf6 S 631 633 648 644,fdf7 fdf7 S 639 644 64a 647,fdf8 fdf8 S 648 633 644 645",
  "fdf9 fdf9 S 635 644 649,fdfa fdfb X,fdfc fdfc S 631 6cc 627 644,fdfd fdff V,fe00 fe0f I",
  "fe10 fe10 X,fe11 fe11 S 3001,fe12 fe16 X,fe17 fe18 R -52737,fe19 fe1f X,fe20 fe2f V",
  "fe30 fe30 X,fe31 fe31 S 2014,fe32 fe32 S 2013,fe33 fe38 X,fe39 fe3a R -52773",
  "fe3b fe3c R -52779,fe3d fe3e R -52787,fe3f fe40 R -52791,fe41 fe44 R -52789,fe45 fe46 V",
  "fe47 fe50 X,fe51 fe51 S 3001,fe52 fe57 X,fe58 fe58 S 2014,fe59 fe5c X,fe5d fe5e R -52809",
  "fe5f fe62 X,fe63 fe63 S 2d,fe64 fe70 X,fe71 fe71 S 640 64b,fe72 fe72 X,fe73 fe73 V",
  "fe74 fe76 X,fe77 fe77 S 640 64e,fe78 fe78 X,fe79 fe79 S 640 64f,fe7a fe7a X",
  "fe7b fe7b S 640 650,fe7c fe7c X,fe7d fe7d S 640 651,fe7e fe7e X,fe7f fe7f S 640 652",
  "fe80 fe81 R -63583,fe82 fe83 R -63584,fe84 fe85 R -63585,fe86 fe87 R -63586",
  "fe88 fe89 R -63587,fe8a fe8c S 626,fe8d fe8e S 627,fe8f fe92 S 628,fe93 fe94 S 629",
  "fe95 fe98 S 62a,fe99 fe9c S 62b,fe9d fea0 S 62c,fea1 fea4 S 62d,fea5 fea8 S 62e",
  "fea9 feaa S 62f,feab feac S 630,fead feae S 631,feaf feb0 S 632,feb1 feb4 S 633",
  "feb5 feb8 S 634,feb9 febc S 635,febd fec0 S 636,fec1 fec4 S 637,fec5 fec8 S 638",
  "fec9 fecc S 639,fecd fed0 S 63a,fed1 fed4 S 641,fed5 fed8 S 642,fed9 fedc S 643",
  "fedd fee0 S 644,fee1 fee4 S 645,fee5 fee8 S 646,fee9 feec S 647,feed feee S 648",
  "feef fef0 S 649,fef1 fef4 S 64a,fef5 fef6 S 644 622,fef7 fef8 S 644 623",
  "fef9 fefa S 644 625,fefb fefc S 644 627,fefd fefe X,feff feff I,ff00 ff0c X",
  "ff0d ff0e R -65248,ff0f ff0f X,ff10 ff19 R -65248,ff1a ff20 X,ff21 ff3a R -65216",
  "ff3b ff40 X,ff41 ff5a R -65248,ff5b ff5e X,ff5f ff60 R -54746,ff61 ff61 S 2e",
  "ff62 ff63 R -53078,ff64 ff64 S 3001,ff65 ff65 S 30fb,ff66 ff66 S 30f2,ff67 ff67 S 30a1",
  "ff68 ff68 S 30a3,ff69 ff69 S 30a5,ff6a ff6a S 30a7,ff6b ff6b S 30a9,ff6c ff6c S 30e3",
  "ff6d ff6d S 30e5,ff6e ff6e S 30e7,ff6f ff6f S 30c3,ff70 ff70 S 30fc,ff71 ff71 S 30a2",
  "ff72 ff72 S 30a4,ff73 ff73 S 30a6,ff74 ff74 S 30a8,ff75 ff76 R -52939,ff77 ff77 S 30ad",
  "ff78 ff78 S 30af,ff79 ff79 S 30b1,ff7a ff7a S 30b3,ff7b ff7b S 30b5,ff7c ff7c S 30b7",
  "ff7d ff7d S 30b9,ff7e ff7e S 30bb,ff7f ff7f S 30bd,ff80 ff80 S 30bf,ff81 ff81 S 30c1",
  "ff82 ff82 S 30c4,ff83 ff83 S 30c6,ff84 ff84 S 30c8,ff85 ff8a R -52923,ff8b ff8b S 30d2",
  "ff8c ff8c S 30d5,ff8d ff8d S 30d8,ff8e ff8e S 30db,ff8f ff93 R -52913,ff94 ff94 S 30e4",
  "ff95 ff95 S 30e6,ff96 ff9b R -52910,ff9c ff9c S 30ef,ff9d ff9d S 30f3,ff9e ff9f R -52997",
  "ffa0 ffa0 X,ffa1 ffa2 R -61089,ffa3 ffa3 S 11aa,ffa4 ffa4 S 1102,ffa5 ffa6 R -60921",
  "ffa7 ffa9 R -61092,ffaa ffaf R -60922,ffb0 ffb0 S 111a,ffb1 ffb3 R -61099",
  "ffb4 ffb4 S 1121,ffb5 ffbe R -61100,ffbf ffc1 X,ffc2 ffc7 R -61025,ffc8 ffc9 X",
  "ffca ffcf R -61027,ffd0 ffd1 X,ffd2 ffd7 R -61029,ffd8 ffd9 X,ffda ffdc R -61031",
  "ffdd ffdf X,ffe0 ffe1 R -65342,ffe2 ffe2 S ac,ffe3 ffe3 X,ffe4 ffe4 S a6,ffe5 ffe5 S a5",
  "ffe6 ffe6 S 20a9,ffe7 ffe7 X,ffe8 ffe8 S 2502,ffe9 ffec R -56921,ffed ffed S 25a0",
  "ffee ffee S 25cb,ffef ffff X,10000 1000b V,1000c 1000c X,1000d 10026 V,10027 10027 X",
  "10028 1003a V,1003b 1003b X,1003c 1003d V,1003e 1003e X,1003f 1004d V,1004e 1004f X",
  "10050 1005d V,1005e 1007f X,10080 100fa V,100fb 100ff X,10100 10102 V,10103 10106 X",
  "10107 10133 V,10134 10136 X,10137 1018e V,1018f 1018f X,10190 1019c V,1019d 1019f X",
  "101a0 101a0 V,101a1 101cf X,101d0 101fd V,101fe 1027f X,10280 1029c V,1029d 1029f X",
  "102a0 102d0 V,102d1 102df X,102e0 102fb V,102fc 102ff X,10300 10323 V,10324 1032c X",
  "1032d 1034a V,1034b 1034f X,10350 1037a V,1037b 1037f X,10380 1039d V,1039e 1039e X",
  "1039f 103c3 V,103c4 103c7 X,103c8 103d5 V,103d6 103ff X,10400 10427 R 40,10428 1049d V",
  "1049e 1049f X,104a0 104a9 V,104aa 104af X,104b0 104d3 R 40,104d4 104d7 X,104d8 104fb V",
  "104fc 104ff X,10500 10527 V,10528 1052f X,10530 10563 V,10564 1056e X,1056f 1056f V",
  "10570 1057a R 39,1057b 1057b X,1057c 1058a R 39,1058b 1058b X,1058c 10592 R 39",
  "10593 10593 X,10594 10595 R 39,10596 10596 X,10597 105a1 V,105a2 105a2 X,105a3 105b1 V",
  "105b2 105b2 X,105b3 105b9 V,105ba 105ba X,105bb 105bc V,105bd 105ff X,10600 10736 V",
  "10737 1073f X,10740 10755 V,10756 1075f X,10760 10767 V,10768 1077f X,10780 10780 V",
  "10781 10782 R -66737,10783 10783 S e6,10784 10784 S 299,10785 10785 S 253,10786 10786 X",
  "10787 10787 S 2a3,10788 10788 S ab66,10789 10789 S 2a5,1078a 1078a S 2a4",
  "1078b 1078c R -66869,1078d 1078d S 1d91,1078e 1078e S 258,1078f 1078f S 25e",
  "10790 10790 S 2a9,10791 10791 S 264,10792 10792 S 262,10793 10793 S 260",
  "10794 10794 S 29b,10795 10795 S 127,10796 10796 S 29c,10797 10797 S 267",
  "10798 10798 S 284,10799 1079a R -66799,1079b 1079b S 26c,1079c 1079c S 1df04",
  "1079d 1079d S a78e,1079e 1079e S 26e,1079f 1079f S 1df05,107a0 107a0 S 28e",
  "107a1 107a1 S 1df06,107a2 107a2 S f8,107a3 107a4 R -66861,107a5 107a5 S 71",
  "107a6 107a6 S 27a,107a7 107a7 S 1df08,107a8 107a9 R -66859,107aa 107aa S 280",
  "107ab 107ab S 2a8,107ac 107ac S 2a6,107ad 107ad S ab67,107ae 107ae S 2a7",
  "107af 107af S 288,107b0 107b0 S 2c71,107b1 107b1 X,107b2 107b2 S 28f",
  "107b3 107b4 R -66834,107b5 107b5 S 298,107b6 107b8 R -67062,107b9 107b9 S 1df0a",
  "107ba 107ba S 1df1e,107bb 107ff X,10800 10805 V,10806 10807 X,10808 10808 V",
  "10809 10809 X,1080a 10835 V,10836 10836 X,10837 10838 V,10839 1083b X,1083c 1083c V",
  "1083d 1083e X,1083f 10855 V,10856 10856 X,10857 1089e V,1089f 108a6 X,108a7 108af V",
  "108b0 108df X,108e0 108f2 V,108f3 108f3 X,108f4 108f5 V,108f6 108fa X,108fb 1091b V",
  "1091c 1091e X,1091f 10939 V,1093a 1093e X,1093f 1093f V,10940 1097f X,10980 109b7 V",
  "109b8 109bb X,109bc 109cf V,109d0 109d1 X,109d2 10a03 V,10a04 10a04 X,10a05 10a06 V",
  "10a07 10a0b X,10a0c 10a13 V,10a14 10a14 X,10a15 10a17 V,10a18 10a18 X,10a19 10a35 V",
  "10a36 10a37 X,10a38 10a3a V,10a3b 10a3e X,10a3f 10a48 V,10a49 10a4f X,10a50 10a58 V",
  "10a59 10a5f X,10a60 10a9f V,10aa0 10abf X,10ac0 10ae6 V,10ae7 10aea X,10aeb 10af6 V",
  "10af7 10aff X,10b00 10b35 V,10b36 10b38 X,10b39 10b55 V,10b56 10b57 X,10b58 10b72 V",
  "10b73 10b77 X,10b78 10b91 V,10b92 10b98 X,10b99 10b9c V,10b9d 10ba8 X,10ba9 10baf V",
  "10bb0 10bff X,10c00 10c48 V,10c49 10c7f X,10c80 10cb2 R 64,10cb3 10cbf X,10cc0 10cf2 V",
  "10cf3 10cf9 X,10cfa 10d27 V,10d28 10d2f X,10d30 10d39 V,10d3a 10e5f X,10e60 10e7e V",
  "10e7f 10e7f X,10e80 10ea9 V,10eaa 10eaa X,10eab 10ead V,10eae 10eaf X,10eb0 10eb1 V",
  "10eb2 10efc X,10efd 10f27 V,10f28 10f2f X,10f30 10f59 V,10f5a 10f6f X,10f70 10f89 V",
  "10f8a 10faf X,10fb0 10fcb V,10fcc 10fdf X,10fe0 10ff6 V,10ff7 10fff X,11000 1104d V",
  "1104e 11051 X,11052 11075 V,11076 1107e X,1107f 110bc V,110bd 110bd X,110be 110c2 V",
  "110c3 110cf X,110d0 110e8 V,110e9 110ef X,110f0 110f9 V,110fa 110ff X,11100 11134 V",
  "11135 11135 X,11136 11147 V,11148 1114f X,11150 11176 V,11177 1117f X,11180 111df V",
  "111e0 111e0 X,111e1 111f4 V,111f5 111ff X,11200 11211 V,11212 11212 X,11213 11241 V",
  "11242 1127f X,11280 11286 V,11287 11287 X,11288 11288 V,11289 11289 X,1128a 1128d V",
  "1128e 1128e X,1128f 1129d V,1129e 1129e X,1129f 112a9 V,112aa 112af X,112b0 112ea V",
  "112eb 112ef X,112f0 112f9 V,112fa 112ff X,11300 11303 V,11304 11304 X,11305 1130c V",
  "1130d 1130e X,1130f 11310 V,11311 11312 X,11313 11328 V,11329 11329 X,1132a 11330 V",
  "11331 11331 X,11332 11333 V,11334 11334 X,11335 11339 V,1133a 1133a X,1133b 11344 V",
  "11345 11346 X,11347 11348 V,11349 1134a X,1134b 1134d V,1134e 1134f X,11350 11350 V",
  "11351 11356 X,11357 11357 V,11358 1135c X,1135d 11363 V,11364 11365 X,11366 1136c V",
  "1136d 1136f X,11370 11374 V,11375 113ff X,11400 1145b V,1145c 1145c X,1145d 11461 V",
  "11462 1147f X,11480 114c7 V,114c8 114cf X,114d0 114d9 V,114da 1157f X,11580 115b5 V",
  "115b6 115b7 X,115b8 115dd V,115de 115ff X,11600 11644 V,11645 1164f X,11650 11659 V",
  "1165a 1165f X,11660 1166c V,1166d 1167f X,11680 116b9 V,116ba 116bf X,116c0 116c9 V",
  "116ca 116ff X,11700 1171a V,1171b 1171c X,1171d 1172b V,1172c 1172f X,11730 11746 V",
  "11747 117ff X,11800 1183b V,1183c 1189f X,118a0 118bf R 32,118c0 118f2 V,118f3 118fe X",
  "118ff 11906 V,11907 11908 X,11909 11909 V,1190a 1190b X,1190c 11913 V,11914 11914 X",
  "11915 11916 V,11917 11917 X,11918 11935 V,11936 11936 X,11937 11938 V,11939 1193a X",
  "1193b 11946 V,11947 1194f X,11950 11959 V,1195a 1199f X,119a0 119a7 V,119a8 119a9 X",
  "119aa 119d7 V,119d8 119d9 X,119da 119e4 V,119e5 119ff X,11a00 11a47 V,11a48 11a4f X",
  "11a50 11aa2 V,11aa3 11aaf X,11ab0 11af8 V,11af9 11aff X,11b00 11b09 V,11b0a 11bff X",
  "11c00 11c08 V,11c09 11c09 X,11c0a 11c36 V,11c37 11c37 X,11c38 11c45 V,11c46 11c4f X",
  "11c50 11c6c V,11c6d 11c6f X,11c70 11c8f V,11c90 11c91 X,11c92 11ca7 V,11ca8 11ca8 X",
  "11ca9 11cb6 V,11cb7 11cff X,11d00 11d06 V,11d07 11d07 X,11d08 11d09 V,11d0a 11d0a X",
  "11d0b 11d36 V,11d37 11d39 X,11d3a 11d3a V,11d3b 11d3b X,11d3c 11d3d V,11d3e 11d3e X",
  "11d3f 11d47 V,11d48 11d4f X,11d50 11d59 V,11d5a 11d5f X,11d60 11d65 V,11d66 11d66 X",
  "11d67 11d68 V,11d69 11d69 X,11d6a 11d8e V,11d8f 11d8f X,11d90 11d91 V,11d92 11d92 X",
  "11d93 11d98 V,11d99 11d9f X,11da0 11da9 V,11daa 11edf X,11ee0 11ef8 V,11ef9 11eff X",
  "11f00 11f10 V,11f11 11f11 X,11f12 11f3a V,11f3b 11f3d X,11f3e 11f59 V,11f5a 11faf X",
  "11fb0 11fb0 V,11fb1 11fbf X,11fc0 11ff1 V,11ff2 11ffe X,11fff 12399 V,1239a 123ff X",
  "12400 1246e V,1246f 1246f X,12470 12474 V,12475 1247f X,12480 12543 V,12544 12f8f X",
  "12f90 12ff2 V,12ff3 12fff X,13000 1342f V,13430 1343f X,13440 13455 V,13456 143ff X",
  "14400 14646 V,14647 167ff X,16800 16a38 V,16a39 16a3f X,16a40 16a5e V,16a5f 16a5f X",
  "16a60 16a69 V,16a6a 16a6d X,16a6e 16abe V,16abf 16abf X,16ac0 16ac9 V,16aca 16acf X",
  "16ad0 16aed V,16aee 16aef X,16af0 16af5 V,16af6 16aff X,16b00 16b45 V,16b46 16b4f X",
  "16b50 16b59 V,16b5a 16b5a X,16b5b 16b61 V,16b62 16b62 X,16b63 16b77 V,16b78 16b7c X",
  "16b7d 16b8f V,16b90 16e3f X,16e40 16e5f R 32,16e60 16e9a V,16e9b 16eff X,16f00 16f4a V",
  "16f4b 16f4e X,16f4f 16f87 V,16f88 16f8e X,16f8f 16f9f V,16fa0 16fdf X,16fe0 16fe4 V",
  "16fe5 16fef X,16ff0 16ff1 V,16ff2 16fff X,17000 187f7 V,187f8 187ff X,18800 18cd5 V",
  "18cd6 18cff X,18d00 18d08 V,18d09 1afef X,1aff0 1aff3 V,1aff4 1aff4 X,1aff5 1affb V",
  "1affc 1affc X,1affd 1affe V,1afff 1afff X,1b000 1b122 V,1b123 1b131 X,1b132 1b132 V",
  "1b133 1b14f X,1b150 1b152 V,1b153 1b154 X,1b155 1b155 V,1b156 1b163 X,1b164 1b167 V",
  "1b168 1b16f X,1b170 1b2fb V,1b2fc 1bbff X,1bc00 1bc6a V,1bc6b 1bc6f X,1bc70 1bc7c V",
  "1bc7d 1bc7f X,1bc80 1bc88 V,1bc89 1bc8f X,1bc90 1bc99 V,1bc9a 1bc9b X,1bc9c 1bc9f V",
  "1bca0 1bca3 I,1bca4 1ceff X,1cf00 1cf2d V,1cf2e 1cf2f X,1cf30 1cf46 V,1cf47 1cf4f X",
  "1cf50 1cfc3 V,1cfc4 1cfff X,1d000 1d0f5 V,1d0f6 1d0ff X,1d100 1d126 V,1d127 1d128 X",
  "1d129 1d15d V,1d15e 1d15e S 1d157 1d165,1d15f 1d15f S 1d158 1d165",
  "1d160 1d160 S 1d158 1d165 1d16e,1d161 1d161 S 1d158 1d165 1d16f",
  "1d162 1d162 S 1d158 1d165 1d170,1d163 1d163 S 1d158 1d165 1d171",
  "1d164 1d164 S 1d158 1d165 1d172,1d165 1d172 V,1d173 1d17a X,1d17b 1d1ba V",
  "1d1bb 1d1bb S 1d1b9 1d165,1d1bc 1d1bc S 1d1ba 1d165,1d1bd 1d1bd S 1d1b9 1d165 1d16e",
  "1d1be 1d1be S 1d1ba 1d165 1d16e,1d1bf 1d1bf S 1d1b9 1d165 1d16f",
  "1d1c0 1d1c0 S 1d1ba 1d165 1d16f,1d1c1 1d1ea V,1d1eb 1d1ff X,1d200 1d245 V,1d246 1d2bf X",
  "1d2c0 1d2d3 V,1d2d4 1d2df X,1d2e0 1d2f3 V,1d2f4 1d2ff X,1d300 1d356 V,1d357 1d35f X",
  "1d360 1d378 V,1d379 1d3ff X,1d400 1d419 R -119711,1d41a 1d433 R -119737",
  "1d434 1d44d R -119763,1d44e 1d454 R -119789,1d455 1d455 X,1d456 1d467 R -119789",
  "1d468 1d481 R -119815,1d482 1d49b R -119841,1d49c 1d49c S 61,1d49d 1d49d X",
  "1d49e 1d49f R -119867,1d4a0 1d4a1 X,1d4a2 1d4a2 S 67,1d4a3 1d4a4 X,1d4a5 1d4a6 R -119867",
  "1d4a7 1d4a8 X,1d4a9 1d4ac R -119867,1d4ad 1d4ad X,1d4ae 1d4b5 R -119867",
  "1d4b6 1d4b9 R -119893,1d4ba 1d4ba X,1d4bb 1d4bb S 66,1d4bc 1d4bc X,1d4bd 1d4c3 R -119893",
  "1d4c4 1d4c4 X,1d4c5 1d4cf R -119893,1d4d0 1d4e9 R -119919,1d4ea 1d503 R -119945",
  "1d504 1d505 R -119971,1d506 1d506 X,1d507 1d50a R -119971,1d50b 1d50c X",
  "1d50d 1d514 R -119971,1d515 1d515 X,1d516 1d51c R -119971,1d51d 1d51d X",
  "1d51e 1d537 R -119997,1d538 1d539 R -120023,1d53a 1d53a X,1d53b 1d53e R -120023",
  "1d53f 1d53f X,1d540 1d544 R -120023,1d545 1d545 X,1d546 1d546 S 6f,1d547 1d549 X",
  "1d54a 1d550 R -120023,1d551 1d551 X,1d552 1d56b R -120049,1d56c 1d585 R -120075",
  "1d586 1d59f R -120101,1d5a0 1d5b9 R -120127,1d5ba 1d5d3 R -120153,1d5d4 1d5ed R -120179",
  "1d5ee 1d607 R -120205,1d608 1d621 R -120231,1d622 1d63b R -120257,1d63c 1d655 R -120283",
  "1d656 1d66f R -120309,1d670 1d689 R -120335,1d68a 1d6a3 R -120361,1d6a4 1d6a4 S 131",
  "1d6a5 1d6a5 S 237,1d6a6 1d6a7 X,1d6a8 1d6b8 R -119543,1d6b9 1d6b9 S 3b8",
  "1d6ba 1d6c0 R -119543,1d6c1 1d6c1 S 2207,1d6c2 1d6d2 R -119569,1d6d3 1d6d4 S 3c3",
  "1d6d5 1d6da R -119569,1d6db 1d6db S 2202,1d6dc 1d6dc S 3b5,1d6dd 1d6dd S 3b8",
  "1d6de 1d6de S 3ba,1d6df 1d6df S 3c6,1d6e0 1d6e0 S 3c1,1d6e1 1d6e1 S 3c0",
  "1d6e2 1d6f2 R -119601,1d6f3 1d6f3 S 3b8,1d6f4 1d6fa R -119601,1d6fb 1d6fb S 2207",
  "1d6fc 1d70c R -119627,1d70d 1d70e S 3c3,1d70f 1d714 R -119627,1d715 1d715 S 2202",
  "1d716 1d716 S 3b5,1d717 1d717 S 3b8,1d718 1d718 S 3ba,1d719 1d719 S 3c6",
  "1d71a 1d71a S 3c1,1d71b 1d71b S 3c0,1d71c 1d72c R -119659,1d72d 1d72d S 3b8",
  "1d72e 1d734 R -119659,1d735 1d735 S 2207,1d736 1d746 R -119685,1d747 1d748 S 3c3",
  "1d749 1d74e R -119685,1d74f 1d74f S 2202,1d750 1d750 S 3b5,1d751 1d751 S 3b8",
  "1d752 1d752 S 3ba,1d753 1d753 S 3c6,1d754 1d754 S 3c1,1d755 1d755 S 3c0",
  "1d756 1d766 R -119717,1d767 1d767 S 3b8,1d768 1d76e R -119717,1d76f 1d76f S 2207",
  "1d770 1d780 R -119743,1d781 1d782 S 3c3,1d783 1d788 R -119743,1d789 1d789 S 2202",
  "1d78a 1d78a S 3b5,1d78b 1d78b S 3b8,1d78c 1d78c S 3ba,1d78d 1d78d S 3c6",
  "1d78e 1d78e S 3c1,1d78f 1d78f S 3c0,1d790 1d7a0 R -119775,1d7a1 1d7a1 S 3b8",
  "1d7a2 1d7a8 R -119775,1d7a9 1d7a9 S 2207,1d7aa 1d7ba R -119801,1d7bb 1d7bc S 3c3",
  "1d7bd 1d7c2 R -119801,1d7c3 1d7c3 S 2202,1d7c4 1d7c4 S 3b5,1d7c5 1d7c5 S 3b8",
  "1d7c6 1d7c6 S 3ba,1d7c7 1d7c7 S 3c6,1d7c8 1d7c8 S 3c1,1d7c9 1d7c9 S 3c0",
  "1d7ca 1d7cb S 3dd,1d7cc 1d7cd X,1d7ce 1d7d7 R -120734,1d7d8 1d7e1 R -120744",
  "1d7e2 1d7eb R -120754,1d7ec 1d7f5 R -120764,1d7f6 1d7ff R -120774,1d800 1da8b V",
  "1da8c 1da9a X,1da9b 1da9f V,1daa0 1daa0 X,1daa1 1daaf V,1dab0 1deff X,1df00 1df1e V",
  "1df1f 1df24 X,1df25 1df2a V,1df2b 1dfff X,1e000 1e006 V,1e007 1e007 X,1e008 1e018 V",
  "1e019 1e01a X,1e01b 1e021 V,1e022 1e022 X,1e023 1e024 V,1e025 1e025 X,1e026 1e02a V",
  "1e02b 1e02f X,1e030 1e038 R -121856,1e039 1e03b R -121855,1e03c 1e046 R -121854",
  "1e047 1e047 S 44b,1e048 1e049 R -121851,1e04a 1e04a S a689,1e04b 1e04b S 4d9",
  "1e04c 1e04c S 456,1e04d 1e04d S 458,1e04e 1e04e S 4e9,1e04f 1e04f S 4af",
  "1e050 1e050 S 4cf,1e051 1e059 R -121889,1e05a 1e05b R -121888,1e05c 1e05d R -121886",
  "1e05e 1e05e S 441,1e05f 1e064 R -121884,1e065 1e066 R -121883,1e067 1e067 S 491",
  "1e068 1e068 S 456,1e069 1e069 S 455,1e06a 1e06a S 45f,1e06b 1e06b S 4ab",
  "1e06c 1e06c S a651,1e06d 1e06d S 4b1,1e06e 1e08e X,1e08f 1e08f V,1e090 1e0ff X",
  "1e100 1e12c V,1e12d 1e12f X,1e130 1e13d V,1e13e 1e13f X,1e140 1e149 V,1e14a 1e14d X",
  "1e14e 1e14f V,1e150 1e28f X,1e290 1e2ae V,1e2af 1e2bf X,1e2c0 1e2f9 V,1e2fa 1e2fe X",
  "1e2ff 1e2ff V,1e300 1e4cf X,1e4d0 1e4f9 V,1e4fa 1e7df X,1e7e0 1e7e6 V,1e7e7 1e7e7 X",
  "1e7e8 1e7eb V,1e7ec 1e7ec X,1e7ed 1e7ee V,1e7ef 1e7ef X,1e7f0 1e7fe V,1e7ff 1e7ff X",
  "1e800 1e8c4 V,1e8c5 1e8c6 X,1e8c7 1e8d6 V,1e8d7 1e8ff X,1e900 1e921 R 34,1e922 1e94b V",
  "1e94c 1e94f X,1e950 1e959 V,1e95a 1e95d X,1e95e 1e95f V,1e960 1ec70 X,1ec71 1ecb4 V",
  "1ecb5 1ed00 X,1ed01 1ed3d V,1ed3e 1edff X,1ee00 1ee01 R -124889,1ee02 1ee02 S 62c",
  "1ee03 1ee03 S 62f,1ee04 1ee04 X,1ee05 1ee05 S 648,1ee06 1ee06 S 632,1ee07 1ee07 S 62d",
  "1ee08 1ee08 S 637,1ee09 1ee09 S 64a,1ee0a 1ee0d R -124871,1ee0e 1ee0e S 633",
  "1ee0f 1ee0f S 639,1ee10 1ee10 S 641,1ee11 1ee11 S 635,1ee12 1ee12 S 642",
  "1ee13 1ee13 S 631,1ee14 1ee14 S 634,1ee15 1ee16 R -124907,1ee17 1ee17 S 62e",
  "1ee18 1ee18 S 630,1ee19 1ee19 S 636,1ee1a 1ee1a S 638,1ee1b 1ee1b S 63a",
  "1ee1c 1ee1c S 66e,1ee1d 1ee1d S 6ba,1ee1e 1ee1e S 6a1,1ee1f 1ee1f S 66f,1ee20 1ee20 X",
  "1ee21 1ee21 S 628,1ee22 1ee22 S 62c,1ee23 1ee23 X,1ee24 1ee24 S 647,1ee25 1ee26 X",
  "1ee27 1ee27 S 62d,1ee28 1ee28 X,1ee29 1ee29 S 64a,1ee2a 1ee2d R -124903",
  "1ee2e 1ee2e S 633,1ee2f 1ee2f S 639,1ee30 1ee30 S 641,1ee31 1ee31 S 635",
  "1ee32 1ee32 S 642,1ee33 1ee33 X,1ee34 1ee34 S 634,1ee35 1ee36 R -124939",
  "1ee37 1ee37 S 62e,1ee38 1ee38 X,1ee39 1ee39 S 636,1ee3a 1ee3a X,1ee3b 1ee3b S 63a",
  "1ee3c 1ee41 X,1ee42 1ee42 S 62c,1ee43 1ee46 X,1ee47 1ee47 S 62d,1ee48 1ee48 X",
  "1ee49 1ee49 S 64a,1ee4a 1ee4a X,1ee4b 1ee4b S 644,1ee4c 1ee4c X,1ee4d 1ee4d S 646",
  "1ee4e 1ee4e S 633,1ee4f 1ee4f S 639,1ee50 1ee50 X,1ee51 1ee51 S 635,1ee52 1ee52 S 642",
  "1ee53 1ee53 X,1ee54 1ee54 S 634,1ee55 1ee56 X,1ee57 1ee57 S 62e,1ee58 1ee58 X",
  "1ee59 1ee59 S 636,1ee5a 1ee5a X,1ee5b 1ee5b S 63a,1ee5c 1ee5c X,1ee5d 1ee5d S 6ba",
  "1ee5e 1ee5e X,1ee5f 1ee5f S 66f,1ee60 1ee60 X,1ee61 1ee61 S 628,1ee62 1ee62 S 62c",
  "1ee63 1ee63 X,1ee64 1ee64 S 647,1ee65 1ee66 X,1ee67 1ee67 S 62d,1ee68 1ee68 S 637",
  "1ee69 1ee69 S 64a,1ee6a 1ee6a S 643,1ee6b 1ee6b X,1ee6c 1ee6d R -124967",
  "1ee6e 1ee6e S 633,1ee6f 1ee6f S 639,1ee70 1ee70 S 641,1ee71 1ee71 S 635",
  "1ee72 1ee72 S 642,1ee73 1ee73 X,1ee74 1ee74 S 634,1ee75 1ee76 R -125003",
  "1ee77 1ee77 S 62e,1ee78 1ee78 X,1ee79 1ee79 S 636,1ee7a 1ee7a S 638,1ee7b 1ee7b S 63a",
  "1ee7c 1ee7c S 66e,1ee7d 1ee7d X,1ee7e 1ee7e S 6a1,1ee7f 1ee7f X,1ee80 1ee81 R -125017",
  "1ee82 1ee82 S 62c,1ee83 1ee83 S 62f,1ee84 1ee85 R -124989,1ee86 1ee86 S 632",
  "1ee87 1ee87 S 62d,1ee88 1ee88 S 637,1ee89 1ee89 S 64a,1ee8a 1ee8a X",
  "1ee8b 1ee8d R -124999,1ee8e 1ee8e S 633,1ee8f 1ee8f S 639,1ee90 1ee90 S 641",
  "1ee91 1ee91 S 635,1ee92 1ee92 S 642,1ee93 1ee93 S 631,1ee94 1ee94 S 634",
  "1ee95 1ee96 R -125035,1ee97 1ee97 S 62e,1ee98 1ee98 S 630,1ee99 1ee99 S 636",
  "1ee9a 1ee9a S 638,1ee9b 1ee9b S 63a,1ee9c 1eea0 X,1eea1 1eea1 S 628,1eea2 1eea2 S 62c",
  "1eea3 1eea3 S 62f,1eea4 1eea4 X,1eea5 1eea5 S 648,1eea6 1eea6 S 632,1eea7 1eea7 S 62d",
  "1eea8 1eea8 S 637,1eea9 1eea9 S 64a,1eeaa 1eeaa X,1eeab 1eead R -125031",
  "1eeae 1eeae S 633,1eeaf 1eeaf S 639,1eeb0 1eeb0 S 641,1eeb1 1eeb1 S 635",
  "1eeb2 1eeb2 S 642,1eeb3 1eeb3 S 631,1eeb4 1eeb4 S 634,1eeb5 1eeb6 R -125067",
  "1eeb7 1eeb7 S 62e,1eeb8 1eeb8 S 630,1eeb9 1eeb9 S 636,1eeba 1eeba S 638",
  "1eebb 1eebb S 63a,1eebc 1eeef X,1eef0 1eef1 V,1eef2 1efff X,1f000 1f02b V,1f02c 1f02f X",
  "1f030 1f093 V,1f094 1f09f X,1f0a0 1f0ae V,1f0af 1f0b0 X,1f0b1 1f0bf V,1f0c0 1f0c0 X",
  "1f0c1 1f0cf V,1f0d0 1f0d0 X,1f0d1 1f0f5 V,1f0f6 1f10a X,1f10b 1f10f V,1f110 1f129 X",
  "1f12a 1f12a S 3014 73 3015,1f12b 1f12b S 63,1f12c 1f12c S 72,1f12d 1f12d S 63 64",
  "1f12e 1f12e S 77 7a,1f12f 1f12f V,1f130 1f149 R -127183,1f14a 1f14a S 68 76",
  "1f14b 1f14b S 6d 76,1f14c 1f14c S 73 64,1f14d 1f14d S 73 73,1f14e 1f14e S 70 70 76",
  "1f14f 1f14f S 77 63,1f150 1f169 V,1f16a 1f16a S 6d 63,1f16b 1f16b S 6d 64",
  "1f16c 1f16c S 6d 72,1f16d 1f18f V,1f190 1f190 S 64 6a,1f191 1f1ad V,1f1ae 1f1e5 X",
  "1f1e6 1f1ff V,1f200 1f200 S 307b 304b,1f201 1f201 S 30b3 30b3,1f202 1f202 S 30b5",
  "1f203 1f20f X,1f210 1f210 S 624b,1f211 1f211 S 5b57,1f212 1f212 S 53cc",
  "1f213 1f213 S 30c7,1f214 1f214 S 4e8c,1f215 1f215 S 591a,1f216 1f216 S 89e3",
  "1f217 1f217 S 5929,1f218 1f218 S 4ea4,1f219 1f219 S 6620,1f21a 1f21a S 7121",
  "1f21b 1f21b S 6599,1f21c 1f21c S 524d,1f21d 1f21d S 5f8c,1f21e 1f21e S 518d",
  "1f21f 1f21f S 65b0,1f220 1f220 S 521d,1f221 1f221 S 7d42,1f222 1f222 S 751f",
  "1f223 1f223 S 8ca9,1f224 1f224 S 58f0,1f225 1f225 S 5439,1f226 1f226 S 6f14",
  "1f227 1f227 S 6295,1f228 1f228 S 6355,1f229 1f229 S 4e00,1f22a 1f22a S 4e09",
  "1f22b 1f22b S 904a,1f22c 1f22c S 5de6,1f22d 1f22d S 4e2d,1f22e 1f22e S 53f3",
  "1f22f 1f22f S 6307,1f230 1f230 S 8d70,1f231 1f231 S 6253,1f232 1f232 S 7981",
  "1f233 1f233 S 7a7a,1f234 1f234 S 5408,1f235 1f235 S 6e80,1f236 1f236 S 6709",
  "1f237 1f237 S 6708,1f238 1f238 S 7533,1f239 1f239 S 5272,1f23a 1f23a S 55b6",
  "1f23b 1f23b S 914d,1f23c 1f23f X,1f240 1f240 S 3014 672c 3015",
  "1f241 1f241 S 3014 4e09 3015,1f242 1f242 S 3014 4e8c 3015,1f243 1f243 S 3014 5b89 3015",
  "1f244 1f244 S 3014 70b9 3015,1f245 1f245 S 3014 6253 3015,1f246 1f246 S 3014 76d7 3015",
  "1f247 1f247 S 3014 52dd 3015,1f248 1f248 S 3014 6557 3015,1f249 1f24f X",
  "1f250 1f250 S 5f97,1f251 1f251 S 53ef,1f252 1f25f X,1f260 1f265 V,1f266 1f2ff X",
  "1f300 1f6d7 V,1f6d8 1f6db X,1f6dc 1f6ec V,1f6ed 1f6ef X,1f6f0 1f6fc V,1f6fd 1f6ff X",
  "1f700 1f776 V,1f777 1f77a X,1f77b 1f7d9 V,1f7da 1f7df X,1f7e0 1f7eb V,1f7ec 1f7ef X",
  "1f7f0 1f7f0 V,1f7f1 1f7ff X,1f800 1f80b V,1f80c 1f80f X,1f810 1f847 V,1f848 1f84f X",
  "1f850 1f859 V,1f85a 1f85f X,1f860 1f887 V,1f888 1f88f X,1f890 1f8ad V,1f8ae 1f8af X",
  "1f8b0 1f8b1 V,1f8b2 1f8ff X,1f900 1fa53 V,1fa54 1fa5f X,1fa60 1fa6d V,1fa6e 1fa6f X",
  "1fa70 1fa7c V,1fa7d 1fa7f X,1fa80 1fa88 V,1fa89 1fa8f X,1fa90 1fabd V,1fabe 1fabe X",
  "1fabf 1fac5 V,1fac6 1facd X,1face 1fadb V,1fadc 1fadf X,1fae0 1fae8 V,1fae9 1faef X",
  "1faf0 1faf8 V,1faf9 1faff X,1fb00 1fb92 V,1fb93 1fb93 X,1fb94 1fbca V,1fbcb 1fbef X",
  "1fbf0 1fbf9 R -129984,1fbfa 1ffff X,20000 2a6df V,2a6e0 2a6ff X,2a700 2b739 V",
  "2b73a 2b73f X,2b740 2b81d V,2b81e 2b81f X,2b820 2cea1 V,2cea2 2ceaf X,2ceb0 2ebe0 V",
  "2ebe1 2f7ff X,2f800 2f800 S 4e3d,2f801 2f801 S 4e38,2f802 2f802 S 4e41",
  "2f803 2f803 S 20122,2f804 2f804 S 4f60,2f805 2f805 S 4fae,2f806 2f806 S 4fbb",
  "2f807 2f807 S 5002,2f808 2f808 S 507a,2f809 2f809 S 5099,2f80a 2f80a S 50e7",
  "2f80b 2f80b S 50cf,2f80c 2f80c S 349e,2f80d 2f80d S 2063a,2f80e 2f80e S 514d",
  "2f80f 2f80f S 5154,2f810 2f810 S 5164,2f811 2f811 S 5177,2f812 2f812 S 2051c",
  "2f813 2f813 S 34b9,2f814 2f814 S 5167,2f815 2f815 S 518d,2f816 2f816 S 2054b",
  "2f817 2f817 S 5197,2f818 2f818 S 51a4,2f819 2f819 S 4ecc,2f81a 2f81a S 51ac",
  "2f81b 2f81b S 51b5,2f81c 2f81c S 291df,2f81d 2f81d S 51f5,2f81e 2f81e S 5203",
  "2f81f 2f81f S 34df,2f820 2f820 S 523b,2f821 2f821 S 5246,2f822 2f822 S 5272",
  "2f823 2f823 S 5277,2f824 2f824 S 3515,2f825 2f825 S 52c7,2f826 2f826 S 52c9",
  "2f827 2f827 S 52e4,2f828 2f828 S 52fa,2f829 2f82a R -173348,2f82b 2f82b S 5317",
  "2f82c 2f82c S 5349,2f82d 2f82d S 5351,2f82e 2f82e S 535a,2f82f 2f82f S 5373",
  "2f830 2f830 S 537d,2f831 2f833 S 537f,2f834 2f834 S 20a2c,2f835 2f835 S 7070",
  "2f836 2f836 S 53ca,2f837 2f837 S 53df,2f838 2f838 S 20b63,2f839 2f839 S 53eb",
  "2f83a 2f83a S 53f1,2f83b 2f83b S 5406,2f83c 2f83c S 549e,2f83d 2f83d S 5438",
  "2f83e 2f83e S 5448,2f83f 2f83f S 5468,2f840 2f840 S 54a2,2f841 2f841 S 54f6",
  "2f842 2f842 S 5510,2f843 2f843 S 5553,2f844 2f844 S 5563,2f845 2f846 S 5584",
  "2f847 2f847 S 5599,2f848 2f848 S 55ab,2f849 2f849 S 55b3,2f84a 2f84a S 55c2",
  "2f84b 2f84b S 5716,2f84c 2f84c S 5606,2f84d 2f84d S 5717,2f84e 2f84e S 5651",
  "2f84f 2f84f S 5674,2f850 2f850 S 5207,2f851 2f851 S 58ee,2f852 2f852 S 57ce",
  "2f853 2f853 S 57f4,2f854 2f854 S 580d,2f855 2f855 S 578b,2f856 2f856 S 5832",
  "2f857 2f857 S 5831,2f858 2f858 S 58ac,2f859 2f859 S 214e4,2f85a 2f85a S 58f2",
  "2f85b 2f85b S 58f7,2f85c 2f85c S 5906,2f85d 2f85d S 591a,2f85e 2f85e S 5922",
  "2f85f 2f85f S 5962,2f860 2f860 S 216a8,2f861 2f861 S 216ea,2f862 2f862 S 59ec",
  "2f863 2f863 S 5a1b,2f864 2f864 S 5a27,2f865 2f865 S 59d8,2f866 2f866 S 5a66",
  "2f867 2f867 S 36ee,2f868 2f868 X,2f869 2f869 S 5b08,2f86a 2f86b S 5b3e",
  "2f86c 2f86c S 219c8,2f86d 2f86d S 5bc3,2f86e 2f86e S 5bd8,2f86f 2f86f S 5be7",
  "2f870 2f870 S 5bf3,2f871 2f871 S 21b18,2f872 2f872 S 5bff,2f873 2f873 S 5c06",
  "2f874 2f874 X,2f875 2f875 S 5c22,2f876 2f876 S 3781,2f877 2f877 S 5c60",
  "2f878 2f878 S 5c6e,2f879 2f879 S 5cc0,2f87a 2f87a S 5c8d,2f87b 2f87b S 21de4",
  "2f87c 2f87c S 5d43,2f87d 2f87d S 21de6,2f87e 2f87e S 5d6e,2f87f 2f87f S 5d6b",
  "2f880 2f880 S 5d7c,2f881 2f882 R -170656,2f883 2f883 S 382f,2f884 2f884 S 5dfd",
  "2f885 2f885 S 5e28,2f886 2f886 S 5e3d,2f887 2f887 S 5e69,2f888 2f888 S 3862",
  "2f889 2f889 S 22183,2f88a 2f88a S 387c,2f88b 2f88b S 5eb0,2f88c 2f88c S 5eb3",
  "2f88d 2f88d S 5eb6,2f88e 2f88e S 5eca,2f88f 2f88f S 2a392,2f890 2f890 S 5efe",
  "2f891 2f892 S 22331,2f893 2f893 S 8201,2f894 2f895 S 5f22,2f896 2f896 S 38c7",
  "2f897 2f897 S 232b8,2f898 2f898 S 261da,2f899 2f899 S 5f62,2f89a 2f89a S 5f6b",
  "2f89b 2f89b S 38e3,2f89c 2f89c S 5f9a,2f89d 2f89d S 5fcd,2f89e 2f89e S 5fd7",
  "2f89f 2f89f S 5ff9,2f8a0 2f8a0 S 6081,2f8a1 2f8a1 S 393a,2f8a2 2f8a2 S 391c",
  "2f8a3 2f8a3 S 6094,2f8a4 2f8a4 S 226d4,2f8a5 2f8a5 S 60c7,2f8a6 2f8a6 S 6148",
  "2f8a7 2f8a7 S 614c,2f8a8 2f8a8 S 614e,2f8a9 2f8a9 S 614c,2f8aa 2f8aa S 617a",
  "2f8ab 2f8ab S 618e,2f8ac 2f8ac S 61b2,2f8ad 2f8ad S 61a4,2f8ae 2f8ae S 61af",
  "2f8af 2f8af S 61de,2f8b0 2f8b0 S 61f2,2f8b1 2f8b1 S 61f6,2f8b2 2f8b2 S 6210",
  "2f8b3 2f8b3 S 621b,2f8b4 2f8b4 S 625d,2f8b5 2f8b5 S 62b1,2f8b6 2f8b6 S 62d4",
  "2f8b7 2f8b7 S 6350,2f8b8 2f8b8 S 22b0c,2f8b9 2f8b9 S 633d,2f8ba 2f8ba S 62fc",
  "2f8bb 2f8bb S 6368,2f8bc 2f8bc S 6383,2f8bd 2f8bd S 63e4,2f8be 2f8be S 22bf1",
  "2f8bf 2f8bf S 6422,2f8c0 2f8c0 S 63c5,2f8c1 2f8c1 S 63a9,2f8c2 2f8c2 S 3a2e",
  "2f8c3 2f8c3 S 6469,2f8c4 2f8c4 S 647e,2f8c5 2f8c5 S 649d,2f8c6 2f8c6 S 6477",
  "2f8c7 2f8c7 S 3a6c,2f8c8 2f8c8 S 654f,2f8c9 2f8c9 S 656c,2f8ca 2f8ca S 2300a",
  "2f8cb 2f8cb S 65e3,2f8cc 2f8cc S 66f8,2f8cd 2f8cd S 6649,2f8ce 2f8ce S 3b19",
  "2f8cf 2f8cf S 6691,2f8d0 2f8d0 S 3b08,2f8d1 2f8d1 S 3ae4,2f8d2 2f8d2 S 5192",
  "2f8d3 2f8d3 S 5195,2f8d4 2f8d4 S 6700,2f8d5 2f8d5 S 669c,2f8d6 2f8d6 S 80ad",
  "2f8d7 2f8d7 S 43d9,2f8d8 2f8d8 S 6717,2f8d9 2f8d9 S 671b,2f8da 2f8da S 6721",
  "2f8db 2f8db S 675e,2f8dc 2f8dc S 6753,2f8dd 2f8dd S 233c3,2f8de 2f8de S 3b49",
  "2f8df 2f8df S 67fa,2f8e0 2f8e0 S 6785,2f8e1 2f8e1 S 6852,2f8e2 2f8e2 S 6885",
  "2f8e3 2f8e3 S 2346d,2f8e4 2f8e4 S 688e,2f8e5 2f8e5 S 681f,2f8e6 2f8e6 S 6914",
  "2f8e7 2f8e7 S 3b9d,2f8e8 2f8e8 S 6942,2f8e9 2f8e9 S 69a3,2f8ea 2f8ea S 69ea",
  "2f8eb 2f8eb S 6aa8,2f8ec 2f8ec S 236a3,2f8ed 2f8ed S 6adb,2f8ee 2f8ee S 3c18",
  "2f8ef 2f8ef S 6b21,2f8f0 2f8f0 S 238a7,2f8f1 2f8f1 S 6b54,2f8f2 2f8f2 S 3c4e",
  "2f8f3 2f8f3 S 6b72,2f8f4 2f8f4 S 6b9f,2f8f5 2f8f6 R -167227,2f8f7 2f8f7 S 23a8d",
  "2f8f8 2f8f8 S 21d0b,2f8f9 2f8f9 S 23afa,2f8fa 2f8fa S 6c4e,2f8fb 2f8fb S 23cbc",
  "2f8fc 2f8fc S 6cbf,2f8fd 2f8fd S 6ccd,2f8fe 2f8fe S 6c67,2f8ff 2f8ff S 6d16",
  "2f900 2f900 S 6d3e,2f901 2f901 S 6d77,2f902 2f902 S 6d41,2f903 2f903 S 6d69",
  "2f904 2f904 S 6d78,2f905 2f905 S 6d85,2f906 2f906 S 23d1e,2f907 2f907 S 6d34",
  "2f908 2f908 S 6e2f,2f909 2f909 S 6e6e,2f90a 2f90a S 3d33,2f90b 2f90b S 6ecb",
  "2f90c 2f90c S 6ec7,2f90d 2f90d S 23ed1,2f90e 2f90e S 6df9,2f90f 2f90f S 6f6e",
  "2f910 2f910 S 23f5e,2f911 2f911 S 23f8e,2f912 2f912 S 6fc6,2f913 2f913 S 7039",
  "2f914 2f914 S 701e,2f915 2f915 S 701b,2f916 2f916 S 3d96,2f917 2f917 S 704a",
  "2f918 2f918 S 707d,2f919 2f919 S 7077,2f91a 2f91a S 70ad,2f91b 2f91b S 20525",
  "2f91c 2f91c S 7145,2f91d 2f91d S 24263,2f91e 2f91e S 719c,2f91f 2f91f X",
  "2f920 2f920 S 7228,2f921 2f921 S 7235,2f922 2f922 S 7250,2f923 2f923 S 24608",
  "2f924 2f924 S 7280,2f925 2f925 S 7295,2f926 2f926 S 24735,2f927 2f927 S 24814",
  "2f928 2f928 S 737a,2f929 2f929 S 738b,2f92a 2f92a S 3eac,2f92b 2f92b S 73a5",
  "2f92c 2f92d S 3eb8,2f92e 2f92e S 7447,2f92f 2f92f S 745c,2f930 2f930 S 7471",
  "2f931 2f931 S 7485,2f932 2f932 S 74ca,2f933 2f933 S 3f1b,2f934 2f934 S 7524",
  "2f935 2f935 S 24c36,2f936 2f936 S 753e,2f937 2f937 S 24c92,2f938 2f938 S 7570",
  "2f939 2f939 S 2219f,2f93a 2f93a S 7610,2f93b 2f93b S 24fa1,2f93c 2f93c S 24fb8",
  "2f93d 2f93d S 25044,2f93e 2f93e S 3ffc,2f93f 2f93f S 4008,2f940 2f940 S 76f4",
  "2f941 2f941 S 250f3,2f942 2f942 S 250f2,2f943 2f943 S 25119,2f944 2f944 S 25133",
  "2f945 2f946 R -164391,2f947 2f947 S 771f,2f948 2f948 S 774a,2f949 2f949 S 4039",
  "2f94a 2f94a S 778b,2f94b 2f94b S 4046,2f94c 2f94c S 4096,2f94d 2f94d S 2541d",
  "2f94e 2f94e S 784e,2f94f 2f94f S 788c,2f950 2f950 S 78cc,2f951 2f951 S 40e3",
  "2f952 2f952 S 25626,2f953 2f953 S 7956,2f954 2f954 S 2569a,2f955 2f955 S 256c5",
  "2f956 2f956 S 798f,2f957 2f957 S 79eb,2f958 2f958 S 412f,2f959 2f959 S 7a40",
  "2f95a 2f95a S 7a4a,2f95b 2f95b S 7a4f,2f95c 2f95c S 2597c,2f95d 2f95e S 25aa7",
  "2f95f 2f95f X,2f960 2f960 S 4202,2f961 2f961 S 25bab,2f962 2f962 S 7bc6",
  "2f963 2f963 S 7bc9,2f964 2f964 S 4227,2f965 2f965 S 25c80,2f966 2f966 S 7cd2",
  "2f967 2f967 S 42a0,2f968 2f968 S 7ce8,2f969 2f969 S 7ce3,2f96a 2f96a S 7d00",
  "2f96b 2f96b S 25f86,2f96c 2f96c S 7d63,2f96d 2f96d S 4301,2f96e 2f96e S 7dc7",
  "2f96f 2f96f S 7e02,2f970 2f970 S 7e45,2f971 2f971 S 4334,2f972 2f972 S 26228",
  "2f973 2f973 S 26247,2f974 2f974 S 4359,2f975 2f975 S 262d9,2f976 2f976 S 7f7a",
  "2f977 2f977 S 2633e,2f978 2f978 S 7f95,2f979 2f979 S 7ffa,2f97a 2f97a S 8005",
  "2f97b 2f97b S 264da,2f97c 2f97c S 26523,2f97d 2f97d S 8060,2f97e 2f97e S 265a8",
  "2f97f 2f97f S 8070,2f980 2f980 S 2335f,2f981 2f981 S 43d5,2f982 2f982 S 80b2",
  "2f983 2f983 S 8103,2f984 2f984 S 440b,2f985 2f985 S 813e,2f986 2f986 S 5ab5",
  "2f987 2f987 S 267a7,2f988 2f988 S 267b5,2f989 2f989 S 23393,2f98a 2f98a S 2339c",
  "2f98b 2f98b S 8201,2f98c 2f98c S 8204,2f98d 2f98d S 8f9e,2f98e 2f98e S 446b",
  "2f98f 2f98f S 8291,2f990 2f990 S 828b,2f991 2f991 S 829d,2f992 2f992 S 52b3",
  "2f993 2f993 S 82b1,2f994 2f994 S 82b3,2f995 2f995 S 82bd,2f996 2f996 S 82e6",
  "2f997 2f997 S 26b3c,2f998 2f998 S 82e5,2f999 2f999 S 831d,2f99a 2f99a S 8363",
  "2f99b 2f99b S 83ad,2f99c 2f99c S 8323,2f99d 2f99d S 83bd,2f99e 2f99e S 83e7",
  "2f99f 2f99f S 8457,2f9a0 2f9a0 S 8353,2f9a1 2f9a1 S 83ca,2f9a2 2f9a2 S 83cc",
  "2f9a3 2f9a3 S 83dc,2f9a4 2f9a4 S 26c36,2f9a5 2f9a5 S 26d6b,2f9a6 2f9a6 S 26cd5",
  "2f9a7 2f9a7 S 452b,2f9a8 2f9a8 S 84f1,2f9a9 2f9a9 S 84f3,2f9aa 2f9aa S 8516",
  "2f9ab 2f9ab S 273ca,2f9ac 2f9ac S 8564,2f9ad 2f9ad S 26f2c,2f9ae 2f9ae S 455d",
  "2f9af 2f9af S 4561,2f9b0 2f9b0 S 26fb1,2f9b1 2f9b1 S 270d2,2f9b2 2f9b2 S 456b",
  "2f9b3 2f9b3 S 8650,2f9b4 2f9b4 S 865c,2f9b5 2f9b5 S 8667,2f9b6 2f9b6 S 8669",
  "2f9b7 2f9b7 S 86a9,2f9b8 2f9b8 S 8688,2f9b9 2f9b9 S 870e,2f9ba 2f9ba S 86e2",
  "2f9bb 2f9bb S 8779,2f9bc 2f9bc S 8728,2f9bd 2f9bd S 876b,2f9be 2f9be S 8786",
  "2f9bf 2f9bf X,2f9c0 2f9c0 S 87e1,2f9c1 2f9c1 S 8801,2f9c2 2f9c2 S 45f9",
  "2f9c3 2f9c3 S 8860,2f9c4 2f9c4 S 8863,2f9c5 2f9c5 S 27667,2f9c6 2f9c6 S 88d7",
  "2f9c7 2f9c7 S 88de,2f9c8 2f9c8 S 4635,2f9c9 2f9c9 S 88fa,2f9ca 2f9ca S 34bb",
  "2f9cb 2f9cb S 278ae,2f9cc 2f9cc S 27966,2f9cd 2f9cd S 46be,2f9ce 2f9ce S 46c7",
  "2f9cf 2f9cf S 8aa0,2f9d0 2f9d0 S 8aed,2f9d1 2f9d1 S 8b8a,2f9d2 2f9d2 S 8c55",
  "2f9d3 2f9d3 S 27ca8,2f9d4 2f9d4 S 8cab,2f9d5 2f9d5 S 8cc1,2f9d6 2f9d6 S 8d1b",
  "2f9d7 2f9d7 S 8d77,2f9d8 2f9d8 S 27f2f,2f9d9 2f9d9 S 20804,2f9da 2f9da S 8dcb",
  "2f9db 2f9db S 8dbc,2f9dc 2f9dc S 8df0,2f9dd 2f9dd S 208de,2f9de 2f9de S 8ed4",
  "2f9df 2f9df S 8f38,2f9e0 2f9e0 S 285d2,2f9e1 2f9e1 S 285ed,2f9e2 2f9e2 S 9094",
  "2f9e3 2f9e3 S 90f1,2f9e4 2f9e4 S 9111,2f9e5 2f9e5 S 2872e,2f9e6 2f9e6 S 911b",
  "2f9e7 2f9e7 S 9238,2f9e8 2f9e9 R -157457,2f9ea 2f9ea S 927c,2f9eb 2f9eb S 93f9",
  "2f9ec 2f9ec S 9415,2f9ed 2f9ed S 28bfa,2f9ee 2f9ee S 958b,2f9ef 2f9ef S 4995",
  "2f9f0 2f9f0 S 95b7,2f9f1 2f9f1 S 28d77,2f9f2 2f9f2 S 49e6,2f9f3 2f9f3 S 96c3",
  "2f9f4 2f9f4 S 5db2,2f9f5 2f9f5 S 9723,2f9f6 2f9f6 S 29145,2f9f7 2f9f7 S 2921a",
  "2f9f8 2f9f8 S 4a6e,2f9f9 2f9f9 S 4a76,2f9fa 2f9fa S 97e0,2f9fb 2f9fb S 2940a",
  "2f9fc 2f9fc S 4ab2,2f9fd 2f9fd S 29496,2f9fe 2f9ff S 980b,2fa00 2fa00 S 9829",
  "2fa01 2fa01 S 295b6,2fa02 2fa02 S 98e2,2fa03 2fa03 S 4b33,2fa04 2fa04 S 9929",
  "2fa05 2fa05 S 99a7,2fa06 2fa06 S 99c2,2fa07 2fa07 S 99fe,2fa08 2fa08 S 4bce",
  "2fa09 2fa09 S 29b30,2fa0a 2fa0a S 9b12,2fa0b 2fa0b S 9c40,2fa0c 2fa0c S 9cfd",
  "2fa0d 2fa0d S 4cce,2fa0e 2fa0e S 4ced,2fa0f 2fa0f S 9d67,2fa10 2fa10 S 2a0ce",
  "2fa11 2fa11 S 4cf8,2fa12 2fa12 S 2a105,2fa13 2fa13 S 2a20e,2fa14 2fa14 S 2a291",
  "2fa15 2fa15 S 9ebb,2fa16 2fa16 S 4d56,2fa17 2fa17 S 9ef9,2fa18 2fa18 S 9efe",
  "2fa19 2fa19 S 9f05,2fa1a 2fa1a S 9f0f,2fa1b 2fa1b S 9f16,2fa1c 2fa1c S 9f3b",
  "2fa1d 2fa1d S 2a600,2fa1e 2ffff X,30000 3134a V,3134b 3134f X,31350 323af V",
  "323b0 e00ff X,e0100 e01ef I,e01f0 10ffff X"]

/-- The mapping table, read and sorted by first code point. -/
def mappingTable : Array (Nat × MappingRange) :=
  ((tableItems mappingText).filterMap fun
    | s :: e :: k :: rest =>
      let r : MappingRange := match k with
        | "R" | "P" => ⟨hexNat e, k, decInt (rest.headD "0"), []⟩
        | "S" => ⟨hexNat e, k, 0, rest.map hexNat⟩
        | _ => ⟨hexNat e, k, 0, []⟩
      some (hexNat s, r)
    | _ => none).toArray

/-- **The status of a code point.** -/
def status (n : Nat) : Status :=
  match lastAtMost mappingTable n 0 mappingTable.size with
  | none => .disallowed
  | some i => match mappingTable[i]? with
    | none => .disallowed
    | some (first, r) =>
      if r.last < n then .disallowed
      else match r.kind with
        | "V" => .valid
        | "I" => .ignored
        | "R" => .mapped [(n + r.delta).toNat]
        | "P" => if (n - first) % 2 = 0 then .mapped [(n + r.delta).toNat] else .valid
        | "S" => .mapped r.target
        | _ => .disallowed

end Rdap.Idna
