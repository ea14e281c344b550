import IssueFlow.CharClass.Basic

/-!
# Scripts

A character has one script. Characters that several scripts share are listed with all of them; such
a character extends the scripts that it is listed with and no others.
-/

namespace IssueFlow.CharClass.Script

/-- The scripts: their names, the short one first, and the characters that they have. -/
def scripts : List (String × String) := [
  ("adlm adlam", "1e900-1e94b 1e950-1e959 1e95e-1e95f"),
  ("aghb caucasianalbanian", "10530-10563 1056f"),
  ("ahom", "11700-1171a 1171d-1172b 11730-11746"),
  ("arab arabic", "600-604 606-60b 60d-61a 61c-61e 620-63f 641-64a 656-66f 671-6dc 6de-6ff
    750-77f 870-88e 890-891 897-8e1 8e3-8ff fb50-fbc2 fbd3-fd3d fd40-fd8f fd92-fdc7 fdcf
    fdf0-fdff fe70-fe74 fe76-fefc 10e60-10e7e 10ec2-10ec4 10efc-10eff 1ee00-1ee03 1ee05-1ee1f
    1ee21-1ee22 1ee24 1ee27 1ee29-1ee32 1ee34-1ee37 1ee39 1ee3b 1ee42 1ee47 1ee49 1ee4b
    1ee4d-1ee4f 1ee51-1ee52 1ee54 1ee57 1ee59 1ee5b 1ee5d 1ee5f 1ee61-1ee62 1ee64 1ee67-1ee6a
    1ee6c-1ee72 1ee74-1ee77 1ee79-1ee7c 1ee7e 1ee80-1ee89 1ee8b-1ee9b 1eea1-1eea3 1eea5-1eea9
    1eeab-1eebb 1eef0-1eef1"),
  ("armi imperialaramaic", "10840-10855 10857-1085f"),
  ("armn armenian", "531-556 559-58a 58d-58f fb13-fb17"),
  ("avst avestan", "10b00-10b35 10b39-10b3f"),
  ("bali balinese", "1b00-1b4c 1b4e-1b7f"),
  ("bamu bamum", "a6a0-a6f7 16800-16a38"),
  ("bass bassavah", "16ad0-16aed 16af0-16af5"),
  ("batk batak", "1bc0-1bf3 1bfc-1bff"),
  ("beng bengali", "980-983 985-98c 98f-990 993-9a8 9aa-9b0 9b2 9b6-9b9 9bc-9c4 9c7-9c8 9cb-9ce
    9d7 9dc-9dd 9df-9e3 9e6-9fe"),
  ("bhks bhaiksuki", "11c00-11c08 11c0a-11c36 11c38-11c45 11c50-11c6c"),
  ("bopo bopomofo", "2ea-2eb 3105-312f 31a0-31bf"),
  ("brah brahmi", "11000-1104d 11052-11075 1107f"),
  ("brai braille", "2800-28ff"),
  ("bugi buginese", "1a00-1a1b 1a1e-1a1f"),
  ("buhd buhid", "1740-1753"),
  ("cakm chakma", "11100-11134 11136-11147"),
  ("cans canadianaboriginal", "1400-167f 18b0-18f5 11ab0-11abf"),
  ("cari carian", "102a0-102d0"),
  ("cham", "aa00-aa36 aa40-aa4d aa50-aa59 aa5c-aa5f"),
  ("cher cherokee", "13a0-13f5 13f8-13fd ab70-abbf"),
  ("chrs chorasmian", "10fb0-10fcb"),
  ("copt qaac coptic", "3e2-3ef 2c80-2cf3 2cf9-2cff"),
  ("cpmn cyprominoan", "12f90-12ff2"),
  ("cprt cypriot", "10800-10805 10808 1080a-10835 10837-10838 1083c 1083f"),
  ("cyrl cyrillic", "400-484 487-52f 1c80-1c8a 1d2b 1d78 2de0-2dff a640-a69f fe2e-fe2f
    1e030-1e06d 1e08f"),
  ("deva devanagari", "900-950 955-963 966-97f a8e0-a8ff 11b00-11b09"),
  ("diak divesakuru", "11900-11906 11909 1190c-11913 11915-11916 11918-11935 11937-11938
    1193b-11946 11950-11959"),
  ("dogr dogra", "11800-1183b"),
  ("dsrt deseret", "10400-1044f"),
  ("dupl duployan", "1bc00-1bc6a 1bc70-1bc7c 1bc80-1bc88 1bc90-1bc99 1bc9c-1bc9f"),
  ("egyp egyptianhieroglyphs", "13000-13455 13460-143fa"),
  ("elba elbasan", "10500-10527"),
  ("elym elymaic", "10fe0-10ff6"),
  ("ethi ethiopic", "1200-1248 124a-124d 1250-1256 1258 125a-125d 1260-1288 128a-128d 1290-12b0
    12b2-12b5 12b8-12be 12c0 12c2-12c5 12c8-12d6 12d8-1310 1312-1315 1318-135a 135d-137c
    1380-1399 2d80-2d96 2da0-2da6 2da8-2dae 2db0-2db6 2db8-2dbe 2dc0-2dc6 2dc8-2dce 2dd0-2dd6
    2dd8-2dde ab01-ab06 ab09-ab0e ab11-ab16 ab20-ab26 ab28-ab2e 1e7e0-1e7e6 1e7e8-1e7eb
    1e7ed-1e7ee 1e7f0-1e7fe"),
  ("gara garay", "10d40-10d65 10d69-10d85 10d8e-10d8f"),
  ("geor georgian", "10a0-10c5 10c7 10cd 10d0-10fa 10fc-10ff 1c90-1cba 1cbd-1cbf 2d00-2d25 2d27
    2d2d"),
  ("glag glagolitic", "2c00-2c5f 1e000-1e006 1e008-1e018 1e01b-1e021 1e023-1e024 1e026-1e02a"),
  ("gong gunjalagondi", "11d60-11d65 11d67-11d68 11d6a-11d8e 11d90-11d91 11d93-11d98 11da0-11da9"),
  ("gonm masaramgondi", "11d00-11d06 11d08-11d09 11d0b-11d36 11d3a 11d3c-11d3d 11d3f-11d47
    11d50-11d59"),
  ("goth gothic", "10330-1034a"),
  ("gran grantha", "11300-11303 11305-1130c 1130f-11310 11313-11328 1132a-11330 11332-11333
    11335-11339 1133c-11344 11347-11348 1134b-1134d 11350 11357 1135d-11363 11366-1136c
    11370-11374"),
  ("grek greek", "370-373 375-377 37a-37d 37f 384 386 388-38a 38c 38e-3a1 3a3-3e1 3f0-3ff
    1d26-1d2a 1d5d-1d61 1d66-1d6a 1dbf 1f00-1f15 1f18-1f1d 1f20-1f45 1f48-1f4d 1f50-1f57 1f59
    1f5b 1f5d 1f5f-1f7d 1f80-1fb4 1fb6-1fc4 1fc6-1fd3 1fd6-1fdb 1fdd-1fef 1ff2-1ff4 1ff6-1ffe
    2126 ab65 10140-1018e 101a0 1d200-1d245"),
  ("gujr gujarati", "a81-a83 a85-a8d a8f-a91 a93-aa8 aaa-ab0 ab2-ab3 ab5-ab9 abc-ac5 ac7-ac9
    acb-acd ad0 ae0-ae3 ae6-af1 af9-aff"),
  ("gukh gurungkhema", "16100-16139"),
  ("guru gurmukhi", "a01-a03 a05-a0a a0f-a10 a13-a28 a2a-a30 a32-a33 a35-a36 a38-a39 a3c a3e-a42
    a47-a48 a4b-a4d a51 a59-a5c a5e a66-a76"),
  ("hang hangul", "1100-11ff 302e-302f 3131-318e 3200-321e 3260-327e a960-a97c ac00-d7a3
    d7b0-d7c6 d7cb-d7fb ffa0-ffbe ffc2-ffc7 ffca-ffcf ffd2-ffd7 ffda-ffdc"),
  ("hani han", "2e80-2e99 2e9b-2ef3 2f00-2fd5 3005 3007 3021-3029 3038-303b 3400-4dbf 4e00-9fff
    f900-fa6d fa70-fad9 16fe2-16fe3 16ff0-16ff1 20000-2a6df 2a700-2b739 2b740-2b81d 2b820-2cea1
    2ceb0-2ebe0 2ebf0-2ee5d 2f800-2fa1d 30000-3134a 31350-323af"),
  ("hano hanunoo", "1720-1734"),
  ("hatr hatran", "108e0-108f2 108f4-108f5 108fb-108ff"),
  ("hebr hebrew", "591-5c7 5d0-5ea 5ef-5f4 fb1d-fb36 fb38-fb3c fb3e fb40-fb41 fb43-fb44
    fb46-fb4f"),
  ("hira hiragana", "3041-3096 309d-309f 1b001-1b11f 1b132 1b150-1b152 1f200"),
  ("hluw anatolianhieroglyphs", "14400-14646"),
  ("hmng pahawhhmong", "16b00-16b45 16b50-16b59 16b5b-16b61 16b63-16b77 16b7d-16b8f"),
  ("hmnp nyiakengpuachuehmong", "1e100-1e12c 1e130-1e13d 1e140-1e149 1e14e-1e14f"),
  ("hung oldhungarian", "10c80-10cb2 10cc0-10cf2 10cfa-10cff"),
  ("ital olditalic", "10300-10323 1032d-1032f"),
  ("java javanese", "a980-a9cd a9d0-a9d9 a9de-a9df"),
  ("kali kayahli", "a900-a92d a92f"),
  ("kana katakana", "30a1-30fa 30fd-30ff 31f0-31ff 32d0-32fe 3300-3357 ff66-ff6f ff71-ff9d
    1aff0-1aff3 1aff5-1affb 1affd-1affe 1b000 1b120-1b122 1b155 1b164-1b167"),
  ("kawi", "11f00-11f10 11f12-11f3a 11f3e-11f5a"),
  ("khar kharoshthi", "10a00-10a03 10a05-10a06 10a0c-10a13 10a15-10a17 10a19-10a35 10a38-10a3a
    10a3f-10a48 10a50-10a58"),
  ("khmr khmer", "1780-17dd 17e0-17e9 17f0-17f9 19e0-19ff"),
  ("khoj khojki", "11200-11211 11213-11241"),
  ("kits khitansmallscript", "16fe4 18b00-18cd5 18cff"),
  ("knda kannada", "c80-c8c c8e-c90 c92-ca8 caa-cb3 cb5-cb9 cbc-cc4 cc6-cc8 cca-ccd cd5-cd6
    cdd-cde ce0-ce3 ce6-cef cf1-cf3"),
  ("krai kiratrai", "16d40-16d79"),
  ("kthi kaithi", "11080-110c2 110cd"),
  ("lana taitham", "1a20-1a5e 1a60-1a7c 1a7f-1a89 1a90-1a99 1aa0-1aad"),
  ("laoo lao", "e81-e82 e84 e86-e8a e8c-ea3 ea5 ea7-ebd ec0-ec4 ec6 ec8-ece ed0-ed9 edc-edf"),
  ("latn latin", "41-5a 61-7a aa ba c0-d6 d8-f6 f8-2b8 2e0-2e4 1d00-1d25 1d2c-1d5c 1d62-1d65
    1d6b-1d77 1d79-1dbe 1e00-1eff 2071 207f 2090-209c 212a-212b 2132 214e 2160-2188 2c60-2c7f
    a722-a787 a78b-a7cd a7d0-a7d1 a7d3 a7d5-a7dc a7f2-a7ff ab30-ab5a ab5c-ab64 ab66-ab69
    fb00-fb06 ff21-ff3a ff41-ff5a 10780-10785 10787-107b0 107b2-107ba 1df00-1df1e 1df25-1df2a"),
  ("lepc lepcha", "1c00-1c37 1c3b-1c49 1c4d-1c4f"),
  ("limb limbu", "1900-191e 1920-192b 1930-193b 1940 1944-194f"),
  ("lina lineara", "10600-10736 10740-10755 10760-10767"),
  ("linb linearb", "10000-1000b 1000d-10026 10028-1003a 1003c-1003d 1003f-1004d 10050-1005d
    10080-100fa"),
  ("lisu", "a4d0-a4ff 11fb0"),
  ("lyci lycian", "10280-1029c"),
  ("lydi lydian", "10920-10939 1093f"),
  ("mahj mahajani", "11150-11176"),
  ("maka makasar", "11ee0-11ef8"),
  ("mand mandaic", "840-85b 85e"),
  ("mani manichaean", "10ac0-10ae6 10aeb-10af6"),
  ("marc marchen", "11c70-11c8f 11c92-11ca7 11ca9-11cb6"),
  ("medf medefaidrin", "16e40-16e9a"),
  ("mend mendekikakui", "1e800-1e8c4 1e8c7-1e8d6"),
  ("merc meroiticcursive", "109a0-109b7 109bc-109cf 109d2-109ff"),
  ("mero meroitichieroglyphs", "10980-1099f"),
  ("miao plrd", "16f00-16f4a 16f4f-16f87 16f8f-16f9f"),
  ("mlym malayalam", "d00-d0c d0e-d10 d12-d44 d46-d48 d4a-d4f d54-d63 d66-d7f"),
  ("modi", "11600-11644 11650-11659"),
  ("mong mongolian", "1800-1801 1804 1806-1819 1820-1878 1880-18aa 11660-1166c"),
  ("mroo mro", "16a40-16a5e 16a60-16a69 16a6e-16a6f"),
  ("mtei meeteimayek", "aae0-aaf6 abc0-abed abf0-abf9"),
  ("mult multani", "11280-11286 11288 1128a-1128d 1128f-1129d 1129f-112a9"),
  ("mymr myanmar", "1000-109f a9e0-a9fe aa60-aa7f 116d0-116e3"),
  ("nagm nagmundari", "1e4d0-1e4f9"),
  ("nand nandinagari", "119a0-119a7 119aa-119d7 119da-119e4"),
  ("narb oldnortharabian", "10a80-10a9f"),
  ("nbat nabataean", "10880-1089e 108a7-108af"),
  ("newa", "11400-1145b 1145d-11461"),
  ("nkoo nko", "7c0-7fa 7fd-7ff"),
  ("nshu nushu", "16fe1 1b170-1b2fb"),
  ("ogam ogham", "1680-169c"),
  ("olck olchiki", "1c50-1c7f"),
  ("onao olonal", "1e5d0-1e5fa 1e5ff"),
  ("orkh oldturkic", "10c00-10c48"),
  ("orya oriya", "b01-b03 b05-b0c b0f-b10 b13-b28 b2a-b30 b32-b33 b35-b39 b3c-b44 b47-b48
    b4b-b4d b55-b57 b5c-b5d b5f-b63 b66-b77"),
  ("osge osage", "104b0-104d3 104d8-104fb"),
  ("osma osmanya", "10480-1049d 104a0-104a9"),
  ("ougr olduyghur", "10f70-10f89"),
  ("palm palmyrene", "10860-1087f"),
  ("pauc paucinhau", "11ac0-11af8"),
  ("perm oldpermic", "10350-1037a"),
  ("phag phagspa", "a840-a877"),
  ("phli inscriptionalpahlavi", "10b60-10b72 10b78-10b7f"),
  ("phlp psalterpahlavi", "10b80-10b91 10b99-10b9c 10ba9-10baf"),
  ("phnx phoenician", "10900-1091b 1091f"),
  ("prti inscriptionalparthian", "10b40-10b55 10b58-10b5f"),
  ("qaai zinh inherited", "300-36f 485-486 64b-655 670 951-954 1ab0-1ace 1cd0-1cd2 1cd4-1ce0
    1ce2-1ce8 1ced 1cf4 1cf8-1cf9 1dc0-1dff 200c-200d 20d0-20f0 302a-302d 3099-309a fe00-fe0f
    fe20-fe2d 101fd 102e0 1133b 1cf00-1cf2d 1cf30-1cf46 1d167-1d169 1d17b-1d182 1d185-1d18b
    1d1aa-1d1ad e0100-e01ef"),
  ("rjng rejang", "a930-a953 a95f"),
  ("rohg hanifirohingya", "10d00-10d27 10d30-10d39"),
  ("runr runic", "16a0-16ea 16ee-16f8"),
  ("samr samaritan", "800-82d 830-83e"),
  ("sarb oldsoutharabian", "10a60-10a7f"),
  ("saur saurashtra", "a880-a8c5 a8ce-a8d9"),
  ("sgnw signwriting", "1d800-1da8b 1da9b-1da9f 1daa1-1daaf"),
  ("shaw shavian", "10450-1047f"),
  ("shrd sharada", "11180-111df"),
  ("sidd siddham", "11580-115b5 115b8-115dd"),
  ("sind khudawadi", "112b0-112ea 112f0-112f9"),
  ("sinh sinhala", "d81-d83 d85-d96 d9a-db1 db3-dbb dbd dc0-dc6 dca dcf-dd4 dd6 dd8-ddf de6-def
    df2-df4 111e1-111f4"),
  ("sogd sogdian", "10f30-10f59"),
  ("sogo oldsogdian", "10f00-10f27"),
  ("sora sorasompeng", "110d0-110e8 110f0-110f9"),
  ("soyo soyombo", "11a50-11aa2"),
  ("sund sundanese", "1b80-1bbf 1cc0-1cc7"),
  ("sunu sunuwar", "11bc0-11be1 11bf0-11bf9"),
  ("sylo sylotinagri", "a800-a82c"),
  ("syrc syriac", "700-70d 70f-74a 74d-74f 860-86a"),
  ("tagb tagbanwa", "1760-176c 176e-1770 1772-1773"),
  ("takr takri", "11680-116b9 116c0-116c9"),
  ("tale taile", "1950-196d 1970-1974"),
  ("talu newtailue", "1980-19ab 19b0-19c9 19d0-19da 19de-19df"),
  ("taml tamil", "b82-b83 b85-b8a b8e-b90 b92-b95 b99-b9a b9c b9e-b9f ba3-ba4 ba8-baa bae-bb9
    bbe-bc2 bc6-bc8 bca-bcd bd0 bd7 be6-bfa 11fc0-11ff1 11fff"),
  ("tang tangut", "16fe0 17000-187f7 18800-18aff 18d00-18d08"),
  ("tavt taiviet", "aa80-aac2 aadb-aadf"),
  ("telu telugu", "c00-c0c c0e-c10 c12-c28 c2a-c39 c3c-c44 c46-c48 c4a-c4d c55-c56 c58-c5a c5d
    c60-c63 c66-c6f c77-c7f"),
  ("tfng tifinagh", "2d30-2d67 2d6f-2d70 2d7f"),
  ("tglg tagalog", "1700-1715 171f"),
  ("thaa thaana", "780-7b1"),
  ("thai", "e01-e3a e40-e5b"),
  ("tibt tibetan", "f00-f47 f49-f6c f71-f97 f99-fbc fbe-fcc fce-fd4 fd9-fda"),
  ("tirh tirhuta", "11480-114c7 114d0-114d9"),
  ("tnsa tangsa", "16a70-16abe 16ac0-16ac9"),
  ("todr todhri", "105c0-105f3"),
  ("toto", "1e290-1e2ae"),
  ("tutg tulutigalari", "11380-11389 1138b 1138e 11390-113b5 113b7-113c0 113c2 113c5 113c7-113ca
    113cc-113d5 113d7-113d8 113e1-113e2"),
  ("ugar ugaritic", "10380-1039d 1039f"),
  ("vaii vai", "a500-a62b"),
  ("vith vithkuqi", "10570-1057a 1057c-1058a 1058c-10592 10594-10595 10597-105a1 105a3-105b1
    105b3-105b9 105bb-105bc"),
  ("wara warangciti", "118a0-118f2 118ff"),
  ("wcho wancho", "1e2c0-1e2f9 1e2ff"),
  ("xpeo oldpersian", "103a0-103c3 103c8-103d5"),
  ("xsux cuneiform", "12000-12399 12400-1246e 12470-12474 12480-12543"),
  ("yezi yezidi", "10e80-10ea9 10eab-10ead 10eb0-10eb1"),
  ("yiii yi", "a000-a48c a490-a4c6"),
  ("zanb zanabazarsquare", "11a00-11a47"),
  ("zyyy common", "0-40 5b-60 7b-a9 ab-b9 bb-bf d7 f7 2b9-2df 2e5-2e9 2ec-2ff 374 37e 385 387
    605 60c 61b 61f 640 6dd 8e2 964-965 e3f fd5-fd8 10fb 16eb-16ed 1735-1736 1802-1803 1805 1cd3
    1ce1 1ce9-1cec 1cee-1cf3 1cf5-1cf7 1cfa 2000-200b 200e-2064 2066-2070 2074-207e 2080-208e
    20a0-20c0 2100-2125 2127-2129 212c-2131 2133-214d 214f-215f 2189-218b 2190-2429 2440-244a
    2460-27ff 2900-2b73 2b76-2b95 2b97-2bff 2e00-2e5d 2ff0-3004 3006 3008-3020 3030-3037
    303c-303f 309b-309c 30a0 30fb-30fc 3190-319f 31c0-31e5 31ef 3220-325f 327f-32cf 32ff
    3358-33ff 4dc0-4dff a700-a721 a788-a78a a830-a839 a92e a9cf ab5b ab6a-ab6b fd3e-fd3f
    fe10-fe19 fe30-fe52 fe54-fe66 fe68-fe6b feff ff01-ff20 ff3b-ff40 ff5b-ff65 ff70 ff9e-ff9f
    ffe0-ffe6 ffe8-ffee fff9-fffd 10100-10102 10107-10133 10137-1013f 10190-1019c 101d0-101fc
    102e1-102fb 1bca0-1bca3 1cc00-1ccf9 1cd00-1ceb3 1cf50-1cfc3 1d000-1d0f5 1d100-1d126
    1d129-1d166 1d16a-1d17a 1d183-1d184 1d18c-1d1a9 1d1ae-1d1ea 1d2c0-1d2d3 1d2e0-1d2f3
    1d300-1d356 1d360-1d378 1d400-1d454 1d456-1d49c 1d49e-1d49f 1d4a2 1d4a5-1d4a6 1d4a9-1d4ac
    1d4ae-1d4b9 1d4bb 1d4bd-1d4c3 1d4c5-1d505 1d507-1d50a 1d50d-1d514 1d516-1d51c 1d51e-1d539
    1d53b-1d53e 1d540-1d544 1d546 1d54a-1d550 1d552-1d6a5 1d6a8-1d7cb 1d7ce-1d7ff 1ec71-1ecb4
    1ed01-1ed3d 1f000-1f02b 1f030-1f093 1f0a0-1f0ae 1f0b1-1f0bf 1f0c1-1f0cf 1f0d1-1f0f5
    1f100-1f1ad 1f1e6-1f1ff 1f201-1f202 1f210-1f23b 1f240-1f248 1f250-1f251 1f260-1f265
    1f300-1f6d7 1f6dc-1f6ec 1f6f0-1f6fc 1f700-1f776 1f77b-1f7d9 1f7e0-1f7eb 1f7f0 1f800-1f80b
    1f810-1f847 1f850-1f859 1f860-1f887 1f890-1f8ad 1f8b0-1f8bb 1f8c0-1f8c1 1f900-1fa53
    1fa60-1fa6d 1fa70-1fa7c 1fa80-1fa89 1fa8f-1fac6 1face-1fadc 1fadf-1fae9 1faf0-1faf8
    1fb00-1fb92 1fb94-1fbf9 e0001 e0020-e007f")]

/-- The characters that scripts share, under the short names of these scripts. -/
def shared : List (String × String) := [
  ("avst cari copt dupl elba geor glag gong goth grek hani latn lydi mahj perm shaw", "b7"),
  ("beng cyrl deva latn lisu thai toto", "2bc"),
  ("bopo latn", "2c7 2c9-2cb 2d9"),
  ("latn lisu", "2cd"),
  ("latn thai", "2d7"),
  ("cher copt cyrl grek latn perm sunu tale", "300"),
  ("cher cyrl grek latn osge sunu tale todr", "301"),
  ("cher cyrl latn tfng", "302"),
  ("glag latn sunu syrc thai", "303"),
  ("aghb cher copt cyrl goth grek latn osge syrc tfng todr", "304"),
  ("copt elba glag goth kana latn", "305"),
  ("cyrl grek latn perm", "306"),
  ("copt dupl hebr latn perm syrc tale tfng todr", "307"),
  ("armn cyrl dupl goth grek hebr latn perm syrc tale", "308"),
  ("latn tfng", "309"),
  ("dupl latn syrc", "30a"),
  ("cher cyrl latn osge", "30b"),
  ("cher latn tale", "30c"),
  ("latn sunu", "30d 310"),
  ("ethi latn", "30e"),
  ("cyrl latn todr", "311"),
  ("grek latn perm todr", "313"),
  ("latn syrc", "320 325 32e"),
  ("cher dupl kana latn syrc", "323"),
  ("cher dupl latn syrc", "324"),
  ("latn sunu syrc", "32d"),
  ("cher latn syrc", "330"),
  ("aghb cher goth latn sunu thai", "331"),
  ("grek", "342 345 1dc0-1dc1"),
  ("latn osge", "358"),
  ("aghb latn todr", "35e"),
  ("latn", "363-36f"),
  ("copt grek", "374-375"),
  ("cyrl perm", "483"),
  ("cyrl glag", "484 487 2e43 a66f"),
  ("cyrl latn", "485-486"),
  ("armn geor glag", "589"),
  ("arab gara nkoo rohg syrc thaa yezi", "60c 61b"),
  ("arab syrc thaa", "61c"),
  ("adlm arab gara nkoo rohg syrc thaa yezi", "61f"),
  ("adlm arab mand mani ougr phlp rohg sogd syrc", "640"),
  ("arab syrc", "64b-655 670"),
  ("arab thaa yezi", "660-669"),
  ("arab rohg", "6d4"),
  ("beng deva gran gujr guru knda latn mlym orya shrd taml telu tirh", "951"),
  ("beng deva gran gujr guru knda latn mlym orya taml telu tirh", "952"),
  ("beng deva dogr gong gonm gran gujr guru knda mahj mlym nand onao orya sind sinh sylo takr
    taml telu tirh",
    "964"),
  ("beng deva dogr gong gonm gran gujr gukh guru knda limb mahj mlym nand onao orya sind sinh
    sylo takr taml telu tirh",
    "965"),
  ("deva dogr kthi mahj", "966-96f"),
  ("beng cakm sylo", "9e6-9ef"),
  ("guru mult", "a66-a6f"),
  ("gujr khoj", "ae6-aef"),
  ("gran taml", "be6-bf3 11301 11303 1133b-1133c 11fd0-11fd1 11fd3"),
  ("knda nand tutg", "ce6-cef"),
  ("cakm mymr tale", "1040-1049"),
  ("geor glag latn", "10fb"),
  ("runr", "16eb-16ed"),
  ("buhd hano tagb tglg", "1735-1736"),
  ("mong phag", "1802-1803 1805"),
  ("beng deva gran knda", "1cd0 1cd2"),
  ("deva", "1cd1 1cd4 1cdb 1cde-1cdf 1ce2-1ce8 1ceb-1cec 1cee-1cf1"),
  ("deva gran knda", "1cd3"),
  ("beng deva", "1cd5-1cd6 1cd8 1ce1 1cea 1ced 1cf5-1cf6"),
  ("deva shrd", "1cd7 1cd9 1cdc-1cdd 1ce0"),
  ("deva knda mlym orya taml telu", "1cda"),
  ("deva nand", "1ce9"),
  ("beng deva gran knda mlym nand orya sinh telu tirh tutg", "1cf2"),
  ("deva gran", "1cf3 1cf8-1cf9"),
  ("deva gran knda tutg", "1cf4"),
  ("beng", "1cf7"),
  ("nand", "1cfa"),
  ("cyrl latn syrc", "1df8"),
  ("syrc", "1dfa"),
  ("latn mong phag", "202f"),
  ("adlm arab", "204f"),
  ("cari geor glag hung lyci orkh", "205a"),
  ("cari grek hung mero", "205d"),
  ("deva gran latn", "20f0"),
  ("copt latn", "2e17"),
  ("avst orkh", "2e30"),
  ("avst cari geor hung kthi lydi samr", "2e31"),
  ("dupl", "2e3c 1bca0-1bca3"),
  ("adlm arab hung", "2e41"),
  ("hani tang", "2ff0-2fff 31ef"),
  ("bopo hang hani hira kana mong yiii", "3001"),
  ("bopo hang hani hira kana mong phag yiii", "3002"),
  ("bopo hang hani hira kana", "3003 3013 301c-301f 3030 3037 fe45-fe46"),
  ("hani", "3006 303e-303f 3190-319f 31c0-31e5 3220-3247 3280-32b0 32c0-32cb 32ff 3358-3370
    337b-337f 33e0-33fe 1d360-1d371 1f250-1f251"),
  ("bopo hang hani hira kana mong tibt yiii", "3008-3009"),
  ("bopo hang hani hira kana lisu mong tibt yiii", "300a-300b"),
  ("bopo hang hani hira kana yiii", "300c-3011 3014-301b 30fb ff61-ff65"),
  ("bopo hani", "302a-302d"),
  ("hira kana", "3031-3035 3099-309c 30a0 30fc ff70 ff9e-ff9f"),
  ("hani hira kana", "303c-303d"),
  ("hani latn", "a700-a707"),
  ("deva dogr gujr guru khoj knda kthi mahj mlym modi nand shrd sind takr tirh tutg", "a830-a832"),
  ("deva dogr gujr guru khoj knda kthi mahj modi nand shrd sind takr tirh tutg", "a833-a835"),
  ("deva dogr gujr guru khoj kthi mahj modi sind takr tirh", "a836-a837 a839"),
  ("deva dogr gujr guru khoj kthi mahj modi shrd sind takr tirh", "a838"),
  ("beng deva tutg", "a8f1"),
  ("deva taml", "a8f3"),
  ("kali latn mymr", "a92e"),
  ("bugi java", "a9cf"),
  ("arab nkoo", "fd3e-fd3f"),
  ("arab thaa", "fdf2 fdfd"),
  ("cpmn cprt linb", "10100-10101"),
  ("cprt linb", "10102 10137-1013f"),
  ("cprt lina linb", "10107-10133"),
  ("arab copt", "102e0-102fb"),
  ("mani ougr", "10af2")]

/-- The script of that name. -/
def ofName? (name : String) : Option Term := listed? name scripts

/-- The term that joins the ranges of entries. -/
def joined (entries : List (String × String)) : Term :=
  entries.foldl (fun term entry => term ∪ .table entry.2) (.table "")

/-- The characters that are used in the script of that name. -/
def extensionOfName? (name : String) : Option Term := do
  let entry ← scripts.find? fun entry => (tableWords entry.1).contains name.toList
  let short ← (tableWords entry.1).head?
  let used := shared.filter fun entry => (tableWords entry.1).contains short
  return Term.minus (.table entry.2) (joined shared) ∪ joined used

end IssueFlow.CharClass.Script
