import MatchGuide.Text.Letter
import MatchGuide.Text.Normal

/-! What the characters of a domain name count as. Some are refused, some do not count, and many
count as others: capitals as small letters, forms of a letter as the letter. -/
namespace MatchGuide.Mapping

def plain : Spans Unit := Spans.set "
A1.A7 A9 AB.AC AE B0.B1 B6.B7 BB BF D7 DF.FF 101 103 105 107 109 10B 10D 10F 111 113 115 117 119
11B 11D 11F 121 123 125 127 129 12B 12D 12F 131 135 137.138 13A 13C 13E 142 144 146 148 14B 14D
14F 151 153 155 157 159 15B 15D 15F 161 163 165 167 169 16B 16D 16F 171 173 175 177 17A 17C 17E
180 183 185 188 18C.18D 192 195 199.19B 19E 1A1 1A3 1A5 1A8 1AA.1AB 1AD 1B0 1B4 1B6 1B9.1BB
1BD.1C3 1CE 1D0 1D2 1D4 1D6 1D8 1DA 1DC.1DD 1DF 1E1 1E3 1E5 1E7 1E9 1EB 1ED 1EF.1F0 1F5 1F9 1FB
1FD 1FF 201 203 205 207 209 20B 20D 20F 211 213 215 217 219 21B 21D 21F 221 223 225 227 229 22B
22D 22F 231 233.239 23C 23F.240 242 247 249 24B 24D 24F.2AF 2B9.2D7 2DE.2DF 2E5.33F 342 346.34E
350.36F 371 373 375 377 37B.37D 390 3AC.3CE 3D7 3D9 3DB 3DD 3DF 3E1 3E3 3E5 3E7 3E9 3EB 3ED 3EF
3F3 3F6 3F8 3FB.3FC 430.45F 461 463 465 467 469 46B 46D 46F 471 473 475 477 479 47B 47D 47F
481.489 48B 48D 48F 491 493 495 497 499 49B 49D 49F 4A1 4A3 4A5 4A7 4A9 4AB 4AD 4AF 4B1 4B3 4B5
4B7 4B9 4BB 4BD 4BF 4C2 4C4 4C6 4C8 4CA 4CC 4CE.4CF 4D1 4D3 4D5 4D7 4D9 4DB 4DD 4DF 4E1 4E3 4E5
4E7 4E9 4EB 4ED 4EF 4F1 4F3 4F5 4F7 4F9 4FB 4FD 4FF 501 503 505 507 509 50B 50D 50F 511 513 515
517 519 51B 51D 51F 521 523 525 527 529 52B 52D 52F 559.586 588.58A 58D.58F 591.5C7 5D0.5EA
5EF.5F4 606.61B 61D.674 679.6DC 6DE.70D 710.74A 74D.7B1 7C0.7FA 7FD.82D 830.83E 840.85B 85E
860.86A 870.88F 897.8E1 8E3.957 960.983 985.98C 98F.990 993.9A8 9AA.9B0 9B2 9B6.9B9 9BC.9C4
9C7.9C8 9CB.9CE 9D7 9E0.9E3 9E6.9FE A01.A03 A05.A0A A0F.A10 A13.A28 A2A.A30 A32 A35 A38.A39 A3C
A3E.A42 A47.A48 A4B.A4D A51 A5C A66.A76 A81.A83 A85.A8D A8F.A91 A93.AA8 AAA.AB0 AB2.AB3 AB5.AB9
ABC.AC5 AC7.AC9 ACB.ACD AD0 AE0.AE3 AE6.AF1 AF9.AFF B01.B03 B05.B0C B0F.B10 B13.B28 B2A.B30
B32.B33 B35.B39 B3C.B44 B47.B48 B4B.B4D B55.B57 B5F.B63 B66.B77 B82.B83 B85.B8A B8E.B90 B92.B95
B99.B9A B9C B9E.B9F BA3.BA4 BA8.BAA BAE.BB9 BBE.BC2 BC6.BC8 BCA.BCD BD0 BD7 BE6.BFA C00.C0C
C0E.C10 C12.C28 C2A.C39 C3C.C44 C46.C48 C4A.C4D C55.C56 C58.C5A C5C.C5D C60.C63 C66.C6F C77.C8C
C8E.C90 C92.CA8 CAA.CB3 CB5.CB9 CBC.CC4 CC6.CC8 CCA.CCD CD5.CD6 CDC.CDE CE0.CE3 CE6.CEF CF1.CF3
D00.D0C D0E.D10 D12.D44 D46.D48 D4A.D4F D54.D63 D66.D7F D81.D83 D85.D96 D9A.DB1 DB3.DBB DBD
DC0.DC6 DCA DCF.DD4 DD6 DD8.DDF DE6.DEF DF2.DF4 E01.E32 E34.E3A E3F.E5B E81.E82 E84 E86.E8A
E8C.EA3 EA5 EA7.EB2 EB4.EBD EC0.EC4 EC6 EC8.ECE ED0.ED9 EDE.EDF F00.F0B F0D.F42 F44.F47 F49.F4C
F4E.F51 F53.F56 F58.F5B F5D.F68 F6A.F6C F71.F72 F74 F7A.F80 F82.F92 F94.F97 F99.F9C F9E.FA1
FA3.FA6 FA8.FAB FAD.FB8 FBA.FBC FBE.FCC FCE.FDA 1000.109F 10D0.10FB 10FD.115E 1161.1248 124A.124D
1250.1256 1258 125A.125D 1260.1288 128A.128D 1290.12B0 12B2.12B5 12B8.12BE 12C0 12C2.12C5
12C8.12D6 12D8.1310 1312.1315 1318.135A 135D.137C 1380.1399 13A0.13F5 1400.167F 1681.169C
16A0.16F8 1700.1715 171F.1736 1740.1753 1760.176C 176E.1770 1772.1773 1780.17B3 17B6.17DD
17E0.17E9 17F0.17F9 1800.180A 1810.1819 1820.1878 1880.18AA 18B0.18F5 1900.191E 1920.192B
1930.193B 1940 1944.196D 1970.1974 1980.19AB 19B0.19C9 19D0.19DA 19DE.1A1B 1A1E.1A5E 1A60.1A7C
1A7F.1A89 1A90.1A99 1AA0.1AAD 1AB0.1ADD 1AE0.1AEB 1B00.1B4C 1B4E.1BF3 1BFC.1C37 1C3B.1C49
1C4D.1C7F 1C8A 1CC0.1CC7 1CD0.1CFA 1D00.1D2B 1D2F 1D3B 1D4E 1D6B.1D77 1D79.1D9A 1DC0.1DFF 1E01
1E03 1E05 1E07 1E09 1E0B 1E0D 1E0F 1E11 1E13 1E15 1E17 1E19 1E1B 1E1D 1E1F 1E21 1E23 1E25 1E27
1E29 1E2B 1E2D 1E2F 1E31 1E33 1E35 1E37 1E39 1E3B 1E3D 1E3F 1E41 1E43 1E45 1E47 1E49 1E4B 1E4D
1E4F 1E51 1E53 1E55 1E57 1E59 1E5B 1E5D 1E5F 1E61 1E63 1E65 1E67 1E69 1E6B 1E6D 1E6F 1E71 1E73
1E75 1E77 1E79 1E7B 1E7D 1E7F 1E81 1E83 1E85 1E87 1E89 1E8B 1E8D 1E8F 1E91 1E93 1E95.1E99
1E9C.1E9D 1E9F 1EA1 1EA3 1EA5 1EA7 1EA9 1EAB 1EAD 1EAF 1EB1 1EB3 1EB5 1EB7 1EB9 1EBB 1EBD 1EBF
1EC1 1EC3 1EC5 1EC7 1EC9 1ECB 1ECD 1ECF 1ED1 1ED3 1ED5 1ED7 1ED9 1EDB 1EDD 1EDF 1EE1 1EE3 1EE5
1EE7 1EE9 1EEB 1EED 1EEF 1EF1 1EF3 1EF5 1EF7 1EF9 1EFB 1EFD 1EFF.1F07 1F10.1F15 1F20.1F27
1F30.1F37 1F40.1F45 1F50.1F57 1F60.1F67 1F70 1F72 1F74 1F76 1F78 1F7A 1F7C 1FB0.1FB1 1FB6 1FC6
1FD0.1FD2 1FD6.1FD7 1FE0.1FE2 1FE4.1FE7 1FF6 200C.200D 2010 2012.2016 2018.2023 2027 2030.2032
2035 2038.203B 203D 203F.2046 204A.2056 2058.205E 20A0.20A7 20A9.20C1 20D0.20F0 2104 2108 2114
2117.2118 211E.211F 2123 2125 2127 2129 212E 213A 2141.2144 214A.214F 2180.2182 2184.2188
218A.218B 2190.222B 222E 2231.2328 232B.2429 2440.244A 24EB.2A0B 2A0D.2A73 2A77.2ADB 2ADD.2B73
2B76.2BFF 2C30.2C5F 2C61 2C65.2C66 2C68 2C6A 2C6C 2C71 2C73.2C74 2C76.2C7B 2C81 2C83 2C85 2C87
2C89 2C8B 2C8D 2C8F 2C91 2C93 2C95 2C97 2C99 2C9B 2C9D 2C9F 2CA1 2CA3 2CA5 2CA7 2CA9 2CAB 2CAD
2CAF 2CB1 2CB3 2CB5 2CB7 2CB9 2CBB 2CBD 2CBF 2CC1 2CC3 2CC5 2CC7 2CC9 2CCB 2CCD 2CCF 2CD1 2CD3
2CD5 2CD7 2CD9 2CDB 2CDD 2CDF 2CE1 2CE3.2CEA 2CEC 2CEE.2CF1 2CF3 2CF9.2D25 2D27 2D2D 2D30.2D67
2D70 2D7F.2D96 2DA0.2DA6 2DA8.2DAE 2DB0.2DB6 2DB8.2DBE 2DC0.2DC6 2DC8.2DCE 2DD0.2DD6 2DD8.2DDE
2DE0.2E5D 2E80.2E99 2E9B.2E9E 2EA0.2EF2 3001 3003.3035 3037 303B.303F 3041.3096 3099.309A
309D.309E 30A0.30FE 3105.312F 3190.3191 31A0.31E5 31F0.31FF 3248.324F 327F 3400.A48C A490.A4C6
A4D0.A62B A641 A643 A645 A647 A649 A64B A64D A64F A651 A653 A655 A657 A659 A65B A65D A65F A661
A663 A665 A667 A669 A66B A66D.A67F A681 A683 A685 A687 A689 A68B A68D A68F A691 A693 A695 A697
A699 A69B A69E.A6F7 A700.A721 A723 A725 A727 A729 A72B A72D A72F.A731 A733 A735 A737 A739 A73B
A73D A73F A741 A743 A745 A747 A749 A74B A74D A74F A751 A753 A755 A757 A759 A75B A75D A75F A761
A763 A765 A767 A769 A76B A76D A76F A771.A778 A77A A77C A77F A781 A783 A785 A787.A78A A78C
A78E.A78F A791 A793.A795 A797 A799 A79B A79D A79F A7A1 A7A3 A7A5 A7A7 A7A9 A7AF A7B5 A7B7 A7B9
A7BB A7BD A7BF A7C1 A7C3 A7C8 A7CA A7CD A7CF A7D1 A7D3 A7D5 A7D7 A7D9 A7DB A7F6.A7F7 A7FA.A82C
A830.A839 A840.A877 A880.A8C5 A8CE.A8D9 A8E0.A953 A95F.A97C A980.A9CD A9CF.A9D9 A9DE.A9FE
AA00.AA36 AA40.AA4D AA50.AA59 AA5C.AAC2 AADB.AAF6 AB01.AB06 AB09.AB0E AB11.AB16 AB20.AB26
AB28.AB2E AB30.AB5B AB60.AB68 AB6A.AB6B ABC0.ABED ABF0.ABF9 AC00.D7A3 D7B0.D7C6 D7CB.D7FB
FA0E.FA0F FA11 FA13.FA14 FA1F FA21 FA23.FA24 FA27.FA29 FB1E FBB2.FBD2 FD3E.FD4F FD90.FD91
FDC8.FDCF FDFD.FDFF FE20.FE2F FE45.FE46 FE73 10000.1000B 1000D.10026 10028.1003A 1003C.1003D
1003F.1004D 10050.1005D 10080.100FA 10100.10102 10107.10133 10137.1018E 10190.1019C 101A0
101D0.101FD 10280.1029C 102A0.102D0 102E0.102FB 10300.10323 1032D.1034A 10350.1037A 10380.1039D
1039F.103C3 103C8.103D5 10428.1049D 104A0.104A9 104D8.104FB 10500.10527 10530.10563 1056F
10597.105A1 105A3.105B1 105B3.105B9 105BB.105BC 105C0.105F3 10600.10736 10740.10755 10760.10767
10780 10800.10805 10808 1080A.10835 10837.10838 1083C 1083F.10855 10857.1089E 108A7.108AF
108E0.108F2 108F4.108F5 108FB.1091B 1091F.10939 1093F.10959 10980.109B7 109BC.109CF 109D2.10A03
10A05.10A06 10A0C.10A13 10A15.10A17 10A19.10A35 10A38.10A3A 10A3F.10A48 10A50.10A58 10A60.10A9F
10AC0.10AE6 10AEB.10AF6 10B00.10B35 10B39.10B55 10B58.10B72 10B78.10B91 10B99.10B9C 10BA9.10BAF
10C00.10C48 10CC0.10CF2 10CFA.10D27 10D30.10D39 10D40.10D4F 10D69.10D85 10D8E.10D8F 10E60.10E7E
10E80.10EA9 10EAB.10EAD 10EB0.10EB1 10EC2.10EC7 10ED0.10ED8 10EFA.10F27 10F30.10F59 10F70.10F89
10FB0.10FCB 10FE0.10FF6 11000.1104D 11052.11075 1107F.110BC 110BE.110C2 110D0.110E8 110F0.110F9
11100.11134 11136.11147 11150.11176 11180.111DF 111E1.111F4 11200.11211 11213.11241 11280.11286
11288 1128A.1128D 1128F.1129D 1129F.112A9 112B0.112EA 112F0.112F9 11300.11303 11305.1130C
1130F.11310 11313.11328 1132A.11330 11332.11333 11335.11339 1133B.11344 11347.11348 1134B.1134D
11350 11357 1135D.11363 11366.1136C 11370.11374 11380.11389 1138B 1138E 11390.113B5 113B7.113C0
113C2 113C5 113C7.113CA 113CC.113D5 113D7.113D8 113E1.113E2 11400.1145B 1145D.11461 11480.114C7
114D0.114D9 11580.115B5 115B8.115DD 11600.11644 11650.11659 11660.1166C 11680.116B9 116C0.116C9
116D0.116E3 11700.1171A 1171D.1172B 11730.11746 11800.1183B 118C0.118F2 118FF.11906 11909
1190C.11913 11915.11916 11918.11935 11937.11938 1193B.11946 11950.11959 119A0.119A7 119AA.119D7
119DA.119E4 11A00.11A47 11A50.11AA2 11AB0.11AF8 11B00.11B09 11B60.11B67 11BC0.11BE1 11BF0.11BF9
11C00.11C08 11C0A.11C36 11C38.11C45 11C50.11C6C 11C70.11C8F 11C92.11CA7 11CA9.11CB6 11D00.11D06
11D08.11D09 11D0B.11D36 11D3A 11D3C.11D3D 11D3F.11D47 11D50.11D59 11D60.11D65 11D67.11D68
11D6A.11D8E 11D90.11D91 11D93.11D98 11DA0.11DA9 11DB0.11DDB 11DE0.11DE9 11EE0.11EF8 11F00.11F10
11F12.11F3A 11F3E.11F5A 11FB0 11FC0.11FF1 11FFF.12399 12400.1246E 12470.12474 12480.12543
12F90.12FF2 13000.1342F 13440.13455 13460.143FA 14400.14646 16100.16139 16800.16A38 16A40.16A5E
16A60.16A69 16A6E.16ABE 16AC0.16AC9 16AD0.16AED 16AF0.16AF5 16B00.16B45 16B50.16B59 16B5B.16B61
16B63.16B77 16B7D.16B8F 16D40.16D79 16E60.16E9A 16EBB.16ED3 16F00.16F4A 16F4F.16F87 16F8F.16F9F
16FE0.16FE4 16FF0.16FF6 17000.18CD5 18CFF.18D1E 18D80.18DF2 1AFF0.1AFF3 1AFF5.1AFFB 1AFFD.1AFFE
1B000.1B122 1B132 1B150.1B152 1B155 1B164.1B167 1B170.1B2FB 1BC00.1BC6A 1BC70.1BC7C 1BC80.1BC88
1BC90.1BC99 1BC9C.1BC9F 1CC00.1CCD5 1CCFA.1CCFC 1CD00.1CEB3 1CEBA.1CED0 1CEE0.1CEF0 1CF00.1CF2D
1CF30.1CF46 1CF50.1CFC3 1D000.1D0F5 1D100.1D126 1D129.1D15D 1D165.1D172 1D17B.1D1BA 1D1C1.1D1EA
1D200.1D245 1D2C0.1D2D3 1D2E0.1D2F3 1D300.1D356 1D360.1D378 1D800.1DA8B 1DA9B.1DA9F 1DAA1.1DAAF
1DF00.1DF1E 1DF25.1DF2A 1E000.1E006 1E008.1E018 1E01B.1E021 1E023.1E024 1E026.1E02A 1E08F
1E100.1E12C 1E130.1E13D 1E140.1E149 1E14E.1E14F 1E290.1E2AE 1E2C0.1E2F9 1E2FF 1E4D0.1E4F9
1E5D0.1E5FA 1E5FF 1E6C0.1E6DE 1E6E0.1E6F5 1E6FE.1E6FF 1E7E0.1E7E6 1E7E8.1E7EB 1E7ED.1E7EE
1E7F0.1E7FE 1E800.1E8C4 1E8C7.1E8D6 1E922.1E94B 1E950.1E959 1E95E.1E95F 1EC71.1ECB4 1ED01.1ED3D
1EEF0.1EEF1 1F000.1F02B 1F030.1F093 1F0A0.1F0AE 1F0B1.1F0BF 1F0C1.1F0CF 1F0D1.1F0F5 1F10B.1F10F
1F12F 1F150.1F169 1F16D.1F18F 1F191.1F1AD 1F1E6.1F1FF 1F260.1F265 1F300.1F6D8 1F6DC.1F6EC
1F6F0.1F6FC 1F700.1F7D9 1F7E0.1F7EB 1F7F0 1F800.1F80B 1F810.1F847 1F850.1F859 1F860.1F887
1F890.1F8AD 1F8B0.1F8BB 1F8C0.1F8C1 1F8D0.1F8D8 1F900.1FA57 1FA60.1FA6D 1FA70.1FA7C 1FA80.1FA8A
1FA8E.1FAC6 1FAC8 1FACD.1FADC 1FADF.1FAEA 1FAEF.1FAF8 1FB00.1FB92 1FB94.1FBEF 1FBFA 20000.2A6DF
2A700.2B81D 2B820.2CEAD 2CEB0.2EBE0 2EBF0.2EE5D 30000.3134A 31350.33479"

/- Runs of replaced characters: the ends, a step, and what the first one counts as. Without a step
all of a run count as that; with one, characters that many code points apart count as others that
are as far apart. -/
def runTable : String := "
B2.B3.1.32 C0.D6.1.E0 D8.DE.1.F8 100.12E.2.101 134.136.2.135 139.13D.2.13A 141.147.2.142
14A.176.2.14B 179.17D.2.17A 182.184.2.183 189.18A.1.256 1A0.1A4.2.1A1 1B1.1B2.1.28A 1B3.1B5.2.1B4
1CD.1DB.2.1CE 1DE.1EE.2.1DF 1F8.21E.2.1F9 222.232.2.223 246.24E.2.247 340.341.1.300 370.372.2.371
388.38A.1.3AD 38E.38F.1.3CD 391.3A1.1.3B1 3A3.3AB.1.3C3 3D8.3EE.2.3D9 3FD.3FF.1.37B 400.40F.1.450
410.42F.1.430 460.480.2.461 48A.4BE.2.48B 4C1.4CD.2.4C2 4D0.52E.2.4D1 531.556.1.561
10A0.10C5.1.2D00 13F8.13FD.1.13F0 1C83.1C84.1.441 1C90.1CBA.1.10D0 1CBD.1CBF.1.10FD 1D2E.1D30.2.62
1D33.1D3A.1.67 1D40.1D41.1.74 1D44.1D45.1.250 1D48.1D49.1.64 1D4B.1D4C.1.25B 1D54.1D55.1.1D16
1D57.1D58.1.74 1D5D.1D5F.1.3B2 1D60.1D61.1.3C6 1D64.1D65.1.75 1D66.1D67.1.3B2 1D69.1D6A.1.3C6
1DA4.1DA6.1.268 1DAE.1DB1.1.272 1DB3.1DB4.1.282 1DB6.1DB7.1.289 1DB9.1DBA.1.28B 1DBC.1DBE.1.290
1E00.1E94.2.1E01 1EA0.1EFE.2.1EA1 1F08.1F0F.1.1F00 1F18.1F1D.1.1F10 1F28.1F2F.1.1F20
1F38.1F3F.1.1F30 1F48.1F4D.1.1F40 1F59.1F5F.2.1F51 1F68.1F6F.1.1F60 1FB8.1FB9.1.1FB0
1FD8.1FD9.1.1FD0 1FE8.1FE9.1.1FE0 2000.200A.0.20 2074.2079.1.34 207D.207E.1.28 2080.2089.1.30
208D.208E.1.28 2096.2099.1.6B 209B.209C.1.73 210A.210B.1.67 210C.210E.0.68 2110.2111.0.69
2112.2113.0.6C 2119.211B.1.70 211C.211D.0.72 212C.212D.1.62 212F.2130.0.65 2135.2138.1.5D0
213D.213E.0.3B3 2145.2146.0.64 2148.2149.1.69 216D.216E.1.63 217D.217E.1.63 2329.232A.1.3008
2460.2468.1.31 24B6.24CF.1.61 24D0.24E9.1.61 2C00.2C2F.1.2C30 2C67.2C6B.2.2C68 2C7E.2C7F.1.23F
2C80.2CE2.2.2C81 2CEB.2CED.2.2CEC 3039.303A.1.5344 3131.3132.1.1100 3135.3136.1.11AC
3137.3139.1.1103 313A.313F.1.11B0 3141.3143.1.1106 3145.314E.1.1109 314F.3163.1.1161
3165.3166.1.1114 3167.3168.1.11C7 3171.3172.1.111D 3174.3175.1.1122 3178.317C.1.112B
3182.3183.1.11F1 3184.3186.1.1157 3187.3188.1.1184 318A.318B.1.1191 3261.3262.1.1102
3263.3265.1.1105 3267.3268.1.110B 3269.326D.1.110E 32D4.32D5.1.30AA 32E4.32E9.1.30CA
32EE.32F2.1.30DE 32F5.32FA.1.30E8 32FB.32FE.1.30EF A640.A66C.2.A641 A680.A69A.2.A681
A722.A72E.2.A723 A732.A76E.2.A733 A779.A77B.2.A77A A77E.A786.2.A77F A790.A792.2.A791
A796.A7A8.2.A797 A7B4.A7C2.2.A7B5 A7C7.A7C9.2.A7C8 A7CC.A7DA.2.A7CD AB70.ABBF.1.13A0
F907.F908.0.9F9C FA52.FA53.1.798D FA5D.FA5E.0.8279 FB22.FB23.1.5D3 FB24.FB26.1.5DB FB50.FB51.0.671
FB52.FB55.0.67B FB56.FB59.0.67E FB5A.FB5D.0.680 FB5E.FB61.0.67A FB62.FB65.0.67F FB66.FB69.0.679
FB6A.FB6D.0.6A4 FB6E.FB71.0.6A6 FB72.FB75.0.684 FB76.FB79.0.683 FB7A.FB7D.0.686 FB7E.FB81.0.687
FB82.FB83.0.68D FB84.FB85.0.68C FB86.FB87.0.68E FB88.FB89.0.688 FB8A.FB8B.0.698 FB8C.FB8D.0.691
FB8E.FB91.0.6A9 FB92.FB95.0.6AF FB96.FB99.0.6B3 FB9A.FB9D.0.6B1 FB9E.FB9F.0.6BA FBA0.FBA3.0.6BB
FBA4.FBA5.0.6C0 FBA6.FBA9.0.6C1 FBAA.FBAD.0.6BE FBAE.FBAF.0.6D2 FBB0.FBB1.0.6D3 FBD3.FBD6.0.6AD
FBD7.FBD8.0.6C7 FBD9.FBDA.0.6C6 FBDB.FBDC.0.6C8 FBDE.FBDF.0.6CB FBE0.FBE1.0.6C5 FBE2.FBE3.0.6C9
FBE4.FBE7.0.6D0 FBE8.FBE9.0.649 FBFC.FBFF.0.6CC FE13.FE14.1.3A FE17.FE18.1.3016 FE33.FE34.0.5F
FE35.FE36.1.28 FE39.FE3A.1.3014 FE3B.FE3C.1.3010 FE3D.FE3E.1.300A FE3F.FE40.1.3008
FE41.FE44.1.300C FE4D.FE4F.0.5F FE59.FE5A.1.28 FE5D.FE5E.1.3014 FE61.FE62.1.2A FE69.FE6A.1.24
FE80.FE81.1.621 FE82.FE83.1.622 FE84.FE85.1.623 FE86.FE87.1.624 FE88.FE89.1.625 FE8A.FE8C.0.626
FE8D.FE8E.0.627 FE8F.FE92.0.628 FE93.FE94.0.629 FE95.FE98.0.62A FE99.FE9C.0.62B FE9D.FEA0.0.62C
FEA1.FEA4.0.62D FEA5.FEA8.0.62E FEA9.FEAA.0.62F FEAB.FEAC.0.630 FEAD.FEAE.0.631 FEAF.FEB0.0.632
FEB1.FEB4.0.633 FEB5.FEB8.0.634 FEB9.FEBC.0.635 FEBD.FEC0.0.636 FEC1.FEC4.0.637 FEC5.FEC8.0.638
FEC9.FECC.0.639 FECD.FED0.0.63A FED1.FED4.0.641 FED5.FED8.0.642 FED9.FEDC.0.643 FEDD.FEE0.0.644
FEE1.FEE4.0.645 FEE5.FEE8.0.646 FEE9.FEEC.0.647 FEED.FEEE.0.648 FEEF.FEF0.0.649 FEF1.FEF4.0.64A
FF01.FF20.1.21 FF21.FF3A.1.61 FF3B.FF5E.1.5B FF5F.FF60.1.2985 FF62.FF63.1.300C FF75.FF76.1.30AA
FF85.FF8A.1.30CA FF8F.FF93.1.30DE FF96.FF9B.1.30E8 FF9E.FF9F.1.3099 FFA1.FFA2.1.1100
FFA5.FFA6.1.11AC FFA7.FFA9.1.1103 FFAA.FFAF.1.11B0 FFB1.FFB3.1.1106 FFB5.FFBE.1.1109
FFC2.FFC7.1.1161 FFCA.FFCF.1.1167 FFD2.FFD7.1.116D FFDA.FFDC.1.1173 FFE0.FFE1.1.A2
FFE9.FFEC.1.2190 10400.10427.1.10428 104B0.104D3.1.104D8 10570.1057A.1.10597 1057C.1058A.1.105A3
1058C.10592.1.105B3 10594.10595.1.105BB 10781.10782.1.2D0 1078B.1078C.1.256 10799.1079A.1.2AA
107A3.107A4.1.276 107A8.107A9.1.27D 107B3.107B4.1.2A1 107B6.107B8.1.1C0 10C80.10CB2.1.10CC0
10D50.10D65.1.10D70 118A0.118BF.1.118C0 16E40.16E5F.1.16E60 16EA0.16EB8.1.16EBB 1CCD6.1CCEF.1.61
1CCF0.1CCF9.1.30 1D400.1D419.1.61 1D41A.1D433.1.61 1D434.1D44D.1.61 1D44E.1D454.1.61
1D456.1D467.1.69 1D468.1D481.1.61 1D482.1D49B.1.61 1D49C.1D49E.2.61 1D4A5.1D4A6.1.6A
1D4A9.1D4AC.1.6E 1D4AE.1D4B5.1.73 1D4B6.1D4B9.1.61 1D4BB.1D4BD.2.66 1D4BE.1D4C3.1.69
1D4C5.1D4CF.1.70 1D4D0.1D4E9.1.61 1D4EA.1D503.1.61 1D504.1D505.1.61 1D507.1D50A.1.64
1D50D.1D514.1.6A 1D516.1D51C.1.73 1D51E.1D537.1.61 1D538.1D539.1.61 1D53B.1D53E.1.64
1D540.1D544.1.69 1D54A.1D550.1.73 1D552.1D56B.1.61 1D56C.1D585.1.61 1D586.1D59F.1.61
1D5A0.1D5B9.1.61 1D5BA.1D5D3.1.61 1D5D4.1D5ED.1.61 1D5EE.1D607.1.61 1D608.1D621.1.61
1D622.1D63B.1.61 1D63C.1D655.1.61 1D656.1D66F.1.61 1D670.1D689.1.61 1D68A.1D6A3.1.61
1D6A8.1D6B8.1.3B1 1D6BA.1D6C0.1.3C3 1D6C2.1D6D2.1.3B1 1D6D3.1D6D4.0.3C3 1D6D5.1D6DA.1.3C4
1D6E2.1D6F2.1.3B1 1D6F4.1D6FA.1.3C3 1D6FC.1D70C.1.3B1 1D70D.1D70E.0.3C3 1D70F.1D714.1.3C4
1D71C.1D72C.1.3B1 1D72E.1D734.1.3C3 1D736.1D746.1.3B1 1D747.1D748.0.3C3 1D749.1D74E.1.3C4
1D756.1D766.1.3B1 1D768.1D76E.1.3C3 1D770.1D780.1.3B1 1D781.1D782.0.3C3 1D783.1D788.1.3C4
1D790.1D7A0.1.3B1 1D7A2.1D7A8.1.3C3 1D7AA.1D7BA.1.3B1 1D7BB.1D7BC.0.3C3 1D7BD.1D7C2.1.3C4
1D7CA.1D7CB.0.3DD 1D7CE.1D7D7.1.30 1D7D8.1D7E1.1.30 1D7E2.1D7EB.1.30 1D7EC.1D7F5.1.30
1D7F6.1D7FF.1.30 1E030.1E038.1.430 1E039.1E03B.1.43A 1E03C.1E046.1.43E 1E048.1E049.1.44D
1E051.1E059.1.430 1E05A.1E05B.1.43A 1E05C.1E05D.1.43E 1E05F.1E064.1.443 1E065.1E066.1.44A
1E900.1E921.1.1E922 1EE00.1EE01.1.627 1EE0A.1EE0D.1.643 1EE15.1EE16.1.62A 1EE2A.1EE2D.1.643
1EE35.1EE36.1.62A 1EE4B.1EE4D.2.644 1EE6A.1EE6C.2.643 1EE75.1EE76.1.62A 1EE80.1EE81.1.627
1EE84.1EE85.1.647 1EE8B.1EE8D.1.644 1EE95.1EE96.1.62A 1EEAB.1EEAD.1.644 1EEB5.1EEB6.1.62A
1F130.1F149.1.61 1FBF0.1FBF9.1.30 2F829.2F82A.1.5305 2F831.2F833.0.537F 2F845.2F846.0.5584
2F86A.2F86B.0.5B3E 2F881.2F882.1.5DE1 2F891.2F892.0.22331 2F894.2F895.0.5F22 2F8F5.2F8F6.1.6BBA
2F92C.2F92D.0.3EB8 2F945.2F946.1.771E 2F95D.2F95E.0.25AA7 2F9E8.2F9E9.1.92D7 2F9FE.2F9FF.0.980B"

def runs : Spans (Nat × Nat) :=
  ((Spans.words runTable).map Spans.numbers).filterMap (fun
    | [first, last, step, target] => some ⟨first, last, step, target⟩
    | _ => none) |>.toArray

def singles : Spans (List Nat) := Spans.rows "
A0 20; A8 20.308; AA 61; AF 20.304; B4 20.301 3BC; B8 20.327 31 6F; BC 31.2044.34 31.2044.32
33.2044.34; 130 69.307; 132 69.6A 69.6A; 13F 6C.B7 6C.B7; 149 2BC.6E; 178 FF; 17F 73; 181 253; 186
254 188; 18B 18C; 18E 1DD 259 25B 192; 193 260 263; 196 269 268 199; 19C 26F 272; 19F 275; 1A6 280
1A8; 1A9 283; 1AC 1AD; 1AE 288 1B0; 1B7 292 1B9; 1BC 1BD; 1C4 64.17E 64.17E 64.17E 6C.6A 6C.6A
6C.6A 6E.6A 6E.6A 6E.6A; 1F1 64.7A 64.7A 64.7A 1F5; 1F6 195 1BF; 220 19E; 23A 2C65 23C; 23D 19A
2C66; 241 242; 243 180 289 28C; 2B0 68 266 6A 72 279 27B 281 77 79; 2D8 20.306 20.307 20.30A
20.328 20.303 20.30B; 2E0 263 6C 73 78 295; 343 313 308.301 3B9; 374 2B9; 376 377; 37A 20.3B9; 37E
3B 3F3; 384 20.301 20.308.301 3AC B7; 38C 3CC; 3CF 3D7 3B2 3B8 3C5 3CD 3CB 3C6 3C0; 3F0 3BA 3C1
3C3; 3F4 3B8 3B5; 3F7 3F8; 3F9 3C3 3FB; 4C0 4CF; 587 565.582; 675 627.674 648.674 6C7.674 64A.674;
958 915.93C 916.93C 917.93C 91C.93C 921.93C 922.93C 92B.93C 92F.93C; 9DC 9A1.9BC 9A2.9BC; 9DF
9AF.9BC; A33 A32.A3C; A36 A38.A3C; A59 A16.A3C A17.A3C A1C.A3C; A5E A2B.A3C; B5C B21.B3C B22.B3C;
E33 E4D.E32; EB3 ECD.EB2; EDC EAB.E99 EAB.EA1; F0C F0B; F43 F42.FB7; F4D F4C.FB7; F52 F51.FB7; F57
F56.FB7; F5C F5B.FB7; F69 F40.FB5; F73 F71.F72; F75 F71.F74 FB2.F80 FB2.F71.F80 FB3.F80
FB3.F71.F80; F81 F71.F80; F93 F92.FB7; F9D F9C.FB7; FA2 FA1.FB7; FA7 FA6.FB7; FAC FAB.FB7; FB9
F90.FB5; 10C7 2D27; 10CD 2D2D; 10FC 10DC; 1C80 432 434 43E; 1C85 442 44A 463 A64B 1C8A; 1D2C 61
E6; 1D31 65 1DD; 1D3C 6F 223 70 72; 1D42 77 61; 1D46 1D02 62; 1D4A 259; 1D4D 67; 1D4F 6B 6D 14B 6F
254; 1D56 70; 1D59 1D1D 26F 76 1D25; 1D62 69 72; 1D68 3C1; 1D78 43D; 1D9B 252 63 255 F0 25C 66 25F
261 265; 1DA7 1D7B 29D 26D 1D85 29F 271 270; 1DB2 278; 1DB5 1AB; 1DB8 1D1C; 1DBB 7A; 1DBF 3B8;
1E9A 61.2BE 1E61; 1E9E DF; 1F71 3AC; 1F73 3AD; 1F75 3AE; 1F77 3AF; 1F79 3CC; 1F7B 3CD; 1F7D 3CE;
1F80 1F00.3B9 1F01.3B9 1F02.3B9 1F03.3B9 1F04.3B9 1F05.3B9 1F06.3B9 1F07.3B9 1F00.3B9 1F01.3B9
1F02.3B9 1F03.3B9 1F04.3B9 1F05.3B9 1F06.3B9 1F07.3B9 1F20.3B9 1F21.3B9 1F22.3B9 1F23.3B9 1F24.3B9
1F25.3B9 1F26.3B9 1F27.3B9 1F20.3B9 1F21.3B9 1F22.3B9 1F23.3B9 1F24.3B9 1F25.3B9 1F26.3B9 1F27.3B9
1F60.3B9 1F61.3B9 1F62.3B9 1F63.3B9 1F64.3B9 1F65.3B9 1F66.3B9 1F67.3B9 1F60.3B9 1F61.3B9 1F62.3B9
1F63.3B9 1F64.3B9 1F65.3B9 1F66.3B9 1F67.3B9; 1FB2 1F70.3B9 3B1.3B9 3AC.3B9; 1FB7 1FB6.3B9; 1FBA
1F70 3AC 3B1.3B9 20.313 3B9 20.313 20.342 20.308.342 1F74.3B9 3B7.3B9 3AE.3B9; 1FC7 1FC6.3B9 1F72
3AD 1F74 3AE 3B7.3B9 20.313.300 20.313.301 20.313.342; 1FD3 390; 1FDA 1F76 3AF; 1FDD 20.314.300
20.314.301 20.314.342; 1FE3 3B0; 1FEA 1F7A 3CD 1FE5 20.308.300 20.308.301 60; 1FF2 1F7C.3B9
3C9.3B9 3CE.3B9; 1FF7 1FF6.3B9 1F78 3CC 1F7C 3CE 3C9.3B9 20.301 20.314; 2011 2010; 2017 20.333;
202F 20; 2033 2032.2032 2032.2032.2032; 2036 2035.2035 2035.2035.2035; 203C 21.21; 203E 20.305;
2047 3F.3F 3F.21 21.3F; 2057 2032.2032.2032.2032; 205F 20; 2070 30 69; 207A 2B 2212 3D; 207F 6E;
208A 2B 2212 3D; 2090 61 65 6F 78 259 68; 209A 70; 20A8 72.73; 2100 61.2F.63 61.2F.73 63 B0.63;
2105 63.2F.6F 63.2F.75 25B; 2109 B0.66; 210F 127; 2115 6E 6E.6F; 2120 73.6D 74.65.6C 74.6D; 2124
7A; 2126 3C9; 2128 7A; 212A 6B E5; 2131 66 214E 6D 6F; 2139 69; 213B 66.61.78 3C0; 213F 3C0 2211;
2147 65; 2150 31.2044.37 31.2044.39 31.2044.31.30 31.2044.33 32.2044.33 31.2044.35 32.2044.35
33.2044.35 34.2044.35 31.2044.36 35.2044.36 31.2044.38 33.2044.38 35.2044.38 37.2044.38 31.2044 69
69.69 69.69.69 69.76 76 76.69 76.69.69 76.69.69.69 69.78 78 78.69 78.69.69 6C; 216F 6D 69 69.69
69.69.69 69.76 76 76.69 76.69.69 76.69.69.69 69.78 78 78.69 78.69.69 6C; 217F 6D; 2183 2184; 2189
30.2044.33; 222C 222B.222B 222B.222B.222B; 222F 222E.222E 222E.222E.222E; 2469 31.30 31.31 31.32
31.33 31.34 31.35 31.36 31.37 31.38 31.39 32.30 28.31.29 28.32.29 28.33.29 28.34.29 28.35.29
28.36.29 28.37.29 28.38.29 28.39.29 28.31.30.29 28.31.31.29 28.31.32.29 28.31.33.29 28.31.34.29
28.31.35.29 28.31.36.29 28.31.37.29 28.31.38.29 28.31.39.29 28.32.30.29; 249C 28.61.29 28.62.29
28.63.29 28.64.29 28.65.29 28.66.29 28.67.29 28.68.29 28.69.29 28.6A.29 28.6B.29 28.6C.29 28.6D.29
28.6E.29 28.6F.29 28.70.29 28.71.29 28.72.29 28.73.29 28.74.29 28.75.29 28.76.29 28.77.29 28.78.29
28.79.29 28.7A.29; 24EA 30; 2A0C 222B.222B.222B.222B; 2A74 3A.3A.3D 3D.3D 3D.3D.3D; 2ADC 2ADD.338;
2C60 2C61; 2C62 26B 1D7D 27D; 2C6D 251 271 250 252; 2C72 2C73; 2C75 2C76; 2C7C 6A 76; 2CF2 2CF3;
2D6F 2D61; 2E9F 6BCD; 2EF3 9F9F; 2F00 4E00 4E28 4E36 4E3F 4E59 4E85 4E8C 4EA0 4EBA 513F 5165 516B
5182 5196 51AB 51E0 51F5 5200 529B 52F9 5315 531A 5338 5341 535C 5369 5382 53B6 53C8 53E3 56D7
571F 58EB 5902 590A 5915 5927 5973 5B50 5B80 5BF8 5C0F 5C22 5C38 5C6E 5C71 5DDB 5DE5 5DF1 5DFE
5E72 5E7A 5E7F 5EF4 5EFE 5F0B 5F13 5F50 5F61 5F73 5FC3 6208 6236 624B 652F 6534 6587 6597 65A4
65B9 65E0 65E5 66F0 6708 6728 6B20 6B62 6B79 6BB3 6BCB 6BD4 6BDB 6C0F 6C14 6C34 706B 722A 7236
723B 723F 7247 7259 725B 72AC 7384 7389 74DC 74E6 7518 751F 7528 7530 758B 7592 7676 767D 76AE
76BF 76EE 77DB 77E2 77F3 793A 79B8 79BE 7A74 7ACB 7AF9 7C73 7CF8 7F36 7F51 7F8A 7FBD 8001 800C
8012 8033 807F 8089 81E3 81EA 81F3 81FC 820C 821B 821F 826E 8272 8278 864D 866B 8840 884C 8863
897E 898B 89D2 8A00 8C37 8C46 8C55 8C78 8C9D 8D64 8D70 8DB3 8EAB 8ECA 8F9B 8FB0 8FB5 9091 9149
91C6 91CC 91D1 9577 9580 961C 96B6 96B9 96E8 9751 975E 9762 9769 97CB 97ED 97F3 9801 98A8 98DB
98DF 9996 9999 99AC 9AA8 9AD8 9ADF 9B25 9B2F 9B32 9B3C 9B5A 9CE5 9E75 9E7F 9EA5 9EBB 9EC3 9ECD
9ED1 9EF9 9EFD 9F0E 9F13 9F20 9F3B 9F4A 9F52 9F8D 9F9C 9FA0; 3000 20; 3002 2E; 3036 3012; 3038
5341; 309B 20.3099 20.309A; 309F 3088.308A; 30FF 30B3.30C8; 3133 11AA 1102; 3140 111A; 3144 1121;
3169 11CC 11CE 11D3 11D7 11D9 111C 11DD 11DF; 3173 1120; 3176 1127 1129; 317D 1132 1136 1140 1147
114C; 3189 1188; 318C 1194 119E 11A1; 3192 4E00 4E8C 4E09 56DB 4E0A 4E2D 4E0B 7532 4E59 4E19 4E01
5929 5730 4EBA; 3200 28.1100.29 28.1102.29 28.1103.29 28.1105.29 28.1106.29 28.1107.29 28.1109.29
28.110B.29 28.110C.29 28.110E.29 28.110F.29 28.1110.29 28.1111.29 28.1112.29 28.AC00.29 28.B098.29
28.B2E4.29 28.B77C.29 28.B9C8.29 28.BC14.29 28.C0AC.29 28.C544.29 28.C790.29 28.CC28.29 28.CE74.29
28.D0C0.29 28.D30C.29 28.D558.29 28.C8FC.29 28.C624.C804.29 28.C624.D6C4.29; 3220 28.4E00.29
28.4E8C.29 28.4E09.29 28.56DB.29 28.4E94.29 28.516D.29 28.4E03.29 28.516B.29 28.4E5D.29 28.5341.29
28.6708.29 28.706B.29 28.6C34.29 28.6728.29 28.91D1.29 28.571F.29 28.65E5.29 28.682A.29 28.6709.29
28.793E.29 28.540D.29 28.7279.29 28.8CA1.29 28.795D.29 28.52B4.29 28.4EE3.29 28.547C.29 28.5B66.29
28.76E3.29 28.4F01.29 28.8CC7.29 28.5354.29 28.796D.29 28.4F11.29 28.81EA.29 28.81F3.29 554F 5E7C
6587 7B8F; 3250 70.74.65 32.31 32.32 32.33 32.34 32.35 32.36 32.37 32.38 32.39 33.30 33.31 33.32
33.33 33.34 33.35 1100; 3266 1109; 326E AC00 B098 B2E4 B77C B9C8 BC14 C0AC C544 C790 CC28 CE74
D0C0 D30C D558 CC38.ACE0 C8FC.C758 C6B0; 3280 4E00 4E8C 4E09 56DB 4E94 516D 4E03 516B 4E5D 5341
6708 706B 6C34 6728 91D1 571F 65E5 682A 6709 793E 540D 7279 8CA1 795D 52B4 79D8 7537 5973 9069
512A 5370 6CE8 9805 4F11 5199 6B63 4E0A 4E2D 4E0B 5DE6 53F3 533B 5B97 5B66 76E3 4F01 8CC7 5354
591C 33.36 33.37 33.38 33.39 34.30 34.31 34.32 34.33 34.34 34.35 34.36 34.37 34.38 34.39 35.30
31.6708 32.6708 33.6708 34.6708 35.6708 36.6708 37.6708 38.6708 39.6708 31.30.6708 31.31.6708
31.32.6708 68.67 65.72.67 65.76 6C.74.64 30A2 30A4 30A6 30A8; 32D6 30AD 30AF 30B1 30B3 30B5 30B7
30B9 30BB 30BD 30BF 30C1 30C4 30C6 30C8; 32EA 30D2 30D5 30D8 30DB; 32F3 30E4 30E6; 32FF 4EE4.548C
30A2.30D1.30FC.30C8 30A2.30EB.30D5.30A1 30A2.30F3.30DA.30A2 30A2.30FC.30EB 30A4.30CB.30F3.30B0
30A4.30F3.30C1 30A6.30A9.30F3 30A8.30B9.30AF.30FC.30C9 30A8.30FC.30AB.30FC 30AA.30F3.30B9
30AA.30FC.30E0 30AB.30A4.30EA 30AB.30E9.30C3.30C8 30AB.30ED.30EA.30FC 30AC.30ED.30F3
30AC.30F3.30DE 30AE.30AC 30AE.30CB.30FC 30AD.30E5.30EA.30FC 30AE.30EB.30C0.30FC 30AD.30ED
30AD.30ED.30B0.30E9.30E0 30AD.30ED.30E1.30FC.30C8.30EB 30AD.30ED.30EF.30C3.30C8 30B0.30E9.30E0
30B0.30E9.30E0.30C8.30F3 30AF.30EB.30BC.30A4.30ED 30AF.30ED.30FC.30CD 30B1.30FC.30B9
30B3.30EB.30CA 30B3.30FC.30DD 30B5.30A4.30AF.30EB 30B5.30F3.30C1.30FC.30E0 30B7.30EA.30F3.30B0
30BB.30F3.30C1 30BB.30F3.30C8 30C0.30FC.30B9 30C7.30B7 30C9.30EB 30C8.30F3 30CA.30CE
30CE.30C3.30C8 30CF.30A4.30C4 30D1.30FC.30BB.30F3.30C8 30D1.30FC.30C4 30D0.30FC.30EC.30EB
30D4.30A2.30B9.30C8.30EB 30D4.30AF.30EB 30D4.30B3 30D3.30EB 30D5.30A1.30E9.30C3.30C9
30D5.30A3.30FC.30C8 30D6.30C3.30B7.30A7.30EB 30D5.30E9.30F3 30D8.30AF.30BF.30FC.30EB 30DA.30BD
30DA.30CB.30D2 30D8.30EB.30C4 30DA.30F3.30B9 30DA.30FC.30B8 30D9.30FC.30BF 30DD.30A4.30F3.30C8
30DC.30EB.30C8 30DB.30F3 30DD.30F3.30C9 30DB.30FC.30EB 30DB.30FC.30F3 30DE.30A4.30AF.30ED
30DE.30A4.30EB 30DE.30C3.30CF 30DE.30EB.30AF 30DE.30F3.30B7.30E7.30F3 30DF.30AF.30ED.30F3
30DF.30EA 30DF.30EA.30D0.30FC.30EB 30E1.30AC 30E1.30AC.30C8.30F3 30E1.30FC.30C8.30EB
30E4.30FC.30C9 30E4.30FC.30EB 30E6.30A2.30F3 30EA.30C3.30C8.30EB 30EA.30E9 30EB.30D4.30FC
30EB.30FC.30D6.30EB 30EC.30E0 30EC.30F3.30C8.30B2.30F3 30EF.30C3.30C8 30.70B9 31.70B9 32.70B9
33.70B9 34.70B9 35.70B9 36.70B9 37.70B9 38.70B9 39.70B9 31.30.70B9 31.31.70B9 31.32.70B9
31.33.70B9 31.34.70B9 31.35.70B9 31.36.70B9 31.37.70B9 31.38.70B9 31.39.70B9 32.30.70B9 32.31.70B9
32.32.70B9 32.33.70B9 32.34.70B9 68.70.61 64.61 61.75 62.61.72 6F.76 70.63 64.6D 64.6D.32 64.6D.33
69.75 5E73.6210 662D.548C 5927.6B63 660E.6CBB 682A.5F0F.4F1A.793E 70.61 6E.61 3BC.61 6D.61 6B.61
6B.62 6D.62 67.62 63.61.6C 6B.63.61.6C 70.66 6E.66 3BC.66 3BC.67 6D.67 6B.67 68.7A 6B.68.7A
6D.68.7A 67.68.7A 74.68.7A 3BC.6C 6D.6C 64.6C 6B.6C 66.6D 6E.6D 3BC.6D 6D.6D 63.6D 6B.6D 6D.6D.32
63.6D.32 6D.32 6B.6D.32 6D.6D.33 63.6D.33 6D.33 6B.6D.33 6D.2215.73 6D.2215.73.32 70.61 6B.70.61
6D.70.61 67.70.61 72.61.64 72.61.64.2215.73 72.61.64.2215.73.32 70.73 6E.73 3BC.73 6D.73 70.76
6E.76 3BC.76 6D.76 6B.76 6D.76 70.77 6E.77 3BC.77 6D.77 6B.77 6D.77 6B.3C9 6D.3C9; 33C3 62.71
63.63 63.64 63.2215.6B.67; 33C8 64.62 67.79 68.61 68.70 69.6E 6B.6B 6B.6D 6B.74 6C.6D 6C.6E
6C.6F.67 6C.78 6D.62 6D.69.6C 6D.6F.6C 70.68; 33D9 70.70.6D 70.72 73.72 73.76 77.62 76.2215.6D
61.2215.6D 31.65E5 32.65E5 33.65E5 34.65E5 35.65E5 36.65E5 37.65E5 38.65E5 39.65E5 31.30.65E5
31.31.65E5 31.32.65E5 31.33.65E5 31.34.65E5 31.35.65E5 31.36.65E5 31.37.65E5 31.38.65E5 31.39.65E5
32.30.65E5 32.31.65E5 32.32.65E5 32.33.65E5 32.34.65E5 32.35.65E5 32.36.65E5 32.37.65E5 32.38.65E5
32.39.65E5 33.30.65E5 33.31.65E5 67.61.6C; A69C 44A 44C; A770 A76F; A77D 1D79; A78B A78C; A78D
265; A7AA 266 25C 261 26C 26A; A7B0 29E 287 29D AB53; A7C4 A794 282 1D8E; A7CB 264; A7DC 19B; A7F1
73 63 66 71 A7F6; A7F8 127 153; AB5C A727 AB37 26B AB52; AB69 28D; F900 8C48 66F4 8ECA 8CC8 6ED1
4E32 53E5; F909 5951 91D1 5587 5948 61F6 7669 7F85 863F 87BA 88F8 908F 6A02 6D1B 70D9 73DE 843D
916A 99F1 4E82 5375 6B04 721B 862D 9E1E 5D50 6FEB 85CD 8964 62C9 81D8 881F 5ECA 6717 6D6A 72FC
90CE 4F86 51B7 52DE 64C4 6AD3 7210 76E7 8001 8606 865C 8DEF 9732 9B6F 9DFA 788C 797F 7DA0 83C9
9304 9E7F 8AD6 58DF 5F04 7C60 807E 7262 78CA 8CC2 96F7 58D8 5C62 6A13 6DDA 6F0F 7D2F 7E37 964B
52D2 808B 51DC 51CC 7A1C 7DBE 83F1 9675 8B80 62CF 6A02 8AFE 4E39 5BE7 6012 7387 7570 5317 78FB
4FBF 5FA9 4E0D 6CCC 6578 7D22 53C3 585E 7701 8449 8AAA 6BBA 8FB0 6C88 62FE 82E5 63A0 7565 4EAE
5169 51C9 6881 7CE7 826F 8AD2 91CF 52F5 5442 5973 5EEC 65C5 6FFE 792A 95AD 9A6A 9E97 9ECE 529B
66C6 6B77 8F62 5E74 6190 6200 649A 6F23 7149 7489 79CA 7DF4 806F 8F26 84EE 9023 934A 5217 52A3
54BD 70C8 88C2 8AAA 5EC9 5FF5 637B 6BAE 7C3E 7375 4EE4 56F9 5BE7 5DBA 601C 73B2 7469 7F9A 8046
9234 96F6 9748 9818 4F8B 79AE 91B4 96B8 60E1 4E86 50DA 5BEE 5C3F 6599 6A02 71CE 7642 84FC 907C
9F8D 6688 962E 5289 677B 67F3 6D41 6E9C 7409 7559 786B 7D10 985E 516D 622E 9678 502B 5D19 6DEA
8F2A 5F8B 6144 6817 7387 9686 5229 540F 5C65 6613 674E 68A8 6CE5 7406 75E2 7F79 88CF 88E1 91CC
96E2 533F 6EBA 541D 71D0 7498 85FA 96A3 9C57 9E9F 6797 6DCB 81E8 7ACB 7B20 7C92 72C0 7099 8B58
4EC0 8336 523A 5207 5EA6 62D3 7CD6 5B85 6D1E 66B4 8F3B 884C 964D 898B 5ED3 5140 55C0; FA10 585A;
FA12 6674; FA15 51DE 732A 76CA 793C 795E 7965 798F 9756 7CBE 7FBD; FA20 8612; FA22 8AF8; FA25 9038
90FD; FA2A 98EF 98FC 9928 9DB4 90DE 96B7 4FAE 50E7 514D 52C9 52E4 5351 559D 5606 5668 5840 58A8
5C64 5C6E 6094 6168 618E 61F2 654F 65E2 6691 6885 6D77 6E1A 6F22 716E 722B 7422 7891 793E 7949
7948 7950 7956 795D; FA54 7A40 7A81 7BC0 7DF4 7E09 7E41 7F72 8005 81ED; FA5F 8457 8910 8996 8B01
8B39 8CD3 8D08 8FB6 9038 96E3 97FF 983B 6075 242EE 8218; FA70 4E26 51B5 5168 4F80 5145 5180 52C7
52FA 559D 5555 5599 55E2 585A 58B3 5944 5954 5A62 5B28 5ED2 5ED9 5F69 5FAD 60D8 614E 6108 618E
6160 61F2 6234 63C4 641C 6452 6556 6674 6717 671B 6756 6B79 6BBA 6D41 6EDB 6ECB 6F22 701E 716E
77A7 7235 72AF 732A 7471 7506 753B 761D 761F 76CA 76DB 76F4 774A 7740 78CC 7AB1 7BC0 7C7B 7D5B
7DF4 7F3E 8005 8352 83EF 8779 8941 8986 8996 8ABF 8AF8 8ACB 8B01 8AFE 8AED 8B39 8B8A 8D08 8F38
9072 9199 9276 967C 96E3 9756 97DB 97FF 980B 983B 9B12 9F9C 2284A 22844 233D5 3B9D 4018 4039 25249
25CD0 27ED3 9F43 9F8E; FB00 66.66 66.69 66.6C 66.66.69 66.66.6C 73.74 73.74; FB13 574.576 574.565
574.56B 57E.576 574.56D; FB1D 5D9.5B4; FB1F 5F2.5B7 5E2 5D0; FB27 5E8 5EA 2B 5E9.5C1 5E9.5C2
5E9.5BC.5C1 5E9.5BC.5C2 5D0.5B7 5D0.5B8 5D0.5BC 5D1.5BC 5D2.5BC 5D3.5BC 5D4.5BC 5D5.5BC 5D6.5BC;
FB38 5D8.5BC 5D9.5BC 5DA.5BC 5DB.5BC 5DC.5BC; FB3E 5DE.5BC; FB40 5E0.5BC 5E1.5BC; FB43 5E3.5BC
5E4.5BC; FB46 5E6.5BC 5E7.5BC 5E8.5BC 5E9.5BC 5EA.5BC 5D5.5B9 5D1.5BF 5DB.5BF 5E4.5BF 5D0.5DC;
FBDD 6C7.674; FBEA 626.627 626.627 626.6D5 626.6D5 626.648 626.648 626.6C7 626.6C7 626.6C6 626.6C6
626.6C8 626.6C8 626.6D0 626.6D0 626.6D0 626.649 626.649 626.649; FC00 626.62C 626.62D 626.645
626.649 626.64A 628.62C 628.62D 628.62E 628.645 628.649 628.64A 62A.62C 62A.62D 62A.62E 62A.645
62A.649 62A.64A 62B.62C 62B.645 62B.649 62B.64A 62C.62D 62C.645 62D.62C 62D.645 62E.62C 62E.62D
62E.645 633.62C 633.62D 633.62E 633.645 635.62D 635.645 636.62C 636.62D 636.62E 636.645 637.62D
637.645 638.645 639.62C 639.645 63A.62C 63A.645 641.62C 641.62D 641.62E 641.645 641.649 641.64A
642.62D 642.645 642.649 642.64A 643.627 643.62C 643.62D 643.62E 643.644 643.645 643.649 643.64A
644.62C 644.62D 644.62E 644.645 644.649 644.64A 645.62C 645.62D 645.62E 645.645 645.649 645.64A
646.62C 646.62D 646.62E 646.645 646.649 646.64A 647.62C 647.645 647.649 647.64A 64A.62C 64A.62D
64A.62E 64A.645 64A.649 64A.64A 630.670 631.670 649.670 20.64C.651 20.64D.651 20.64E.651
20.64F.651 20.650.651 20.651.670 626.631 626.632 626.645 626.646 626.649 626.64A 628.631 628.632
628.645 628.646 628.649 628.64A 62A.631 62A.632 62A.645 62A.646 62A.649 62A.64A 62B.631 62B.632
62B.645 62B.646 62B.649 62B.64A 641.649 641.64A 642.649 642.64A 643.627 643.644 643.645 643.649
643.64A 644.645 644.649 644.64A 645.627 645.645 646.631 646.632 646.645 646.646 646.649 646.64A
649.670 64A.631 64A.632 64A.645 64A.646 64A.649 64A.64A 626.62C 626.62D 626.62E 626.645 626.647
628.62C 628.62D 628.62E 628.645 628.647 62A.62C 62A.62D 62A.62E 62A.645 62A.647 62B.645 62C.62D
62C.645 62D.62C 62D.645 62E.62C 62E.645 633.62C 633.62D 633.62E 633.645 635.62D 635.62E 635.645
636.62C 636.62D 636.62E 636.645 637.62D 638.645 639.62C 639.645 63A.62C 63A.645 641.62C 641.62D
641.62E 641.645 642.62D 642.645 643.62C 643.62D 643.62E 643.644 643.645 644.62C 644.62D 644.62E
644.645 644.647 645.62C 645.62D 645.62E 645.645 646.62C 646.62D 646.62E 646.645 646.647 647.62C
647.645 647.670 64A.62C 64A.62D 64A.62E 64A.645 64A.647 626.645 626.647 628.645 628.647 62A.645
62A.647 62B.645 62B.647 633.645 633.647 634.645 634.647 643.644 643.645 644.645 646.645 646.647
64A.645 64A.647 640.64E.651 640.64F.651 640.650.651 637.649 637.64A 639.649 639.64A 63A.649
63A.64A 633.649 633.64A 634.649 634.64A 62D.649 62D.64A 62C.649 62C.64A 62E.649 62E.64A 635.649
635.64A 636.649 636.64A 634.62C 634.62D 634.62E 634.645 634.631 633.631 635.631 636.631 637.649
637.64A 639.649 639.64A 63A.649 63A.64A 633.649 633.64A 634.649 634.64A 62D.649 62D.64A 62C.649
62C.64A 62E.649 62E.64A 635.649 635.64A 636.649 636.64A 634.62C 634.62D 634.62E 634.645 634.631
633.631 635.631 636.631 634.62C 634.62D 634.62E 634.645 633.647 634.647 637.645 633.62C 633.62D
633.62E 634.62C 634.62D 634.62E 637.645 638.645 627.64B 627.64B; FD50 62A.62C.645 62A.62D.62C
62A.62D.62C 62A.62D.645 62A.62E.645 62A.645.62C 62A.645.62D 62A.645.62E 62C.645.62D 62C.645.62D
62D.645.64A 62D.645.649 633.62D.62C 633.62C.62D 633.62C.649 633.645.62D 633.645.62D 633.645.62C
633.645.645 633.645.645 635.62D.62D 635.62D.62D 635.645.645 634.62D.645 634.62D.645 634.62C.64A
634.645.62E 634.645.62E 634.645.645 634.645.645 636.62D.649 636.62E.645 636.62E.645 637.645.62D
637.645.62D 637.645.645 637.645.64A 639.62C.645 639.645.645 639.645.645 639.645.649 63A.645.645
63A.645.64A 63A.645.649 641.62E.645 641.62E.645 642.645.62D 642.645.645 644.62D.645 644.62D.64A
644.62D.649 644.62C.62C 644.62C.62C 644.62E.645 644.62E.645 644.645.62D 644.645.62D 645.62D.62C
645.62D.645 645.62D.64A 645.62C.62D 645.62C.645 645.62E.62C 645.62E.645; FD92 645.62C.62E
647.645.62C 647.645.645 646.62D.645 646.62D.649 646.62C.645 646.62C.645 646.62C.649 646.645.64A
646.645.649 64A.645.645 64A.645.645 628.62E.64A 62A.62C.64A 62A.62C.649 62A.62E.64A 62A.62E.649
62A.645.64A 62A.645.649 62C.645.64A 62C.62D.649 62C.645.649 633.62E.649 635.62D.64A 634.62D.64A
636.62D.64A 644.62C.64A 644.645.64A 64A.62D.64A 64A.62C.64A 64A.645.64A 645.645.64A 642.645.64A
646.62D.64A 642.645.62D 644.62D.645 639.645.64A 643.645.64A 646.62C.62D 645.62E.64A 644.62C.645
643.645.645 644.62C.645 646.62C.62D 62C.62D.64A 62D.62C.64A 645.62C.64A 641.645.64A 628.62D.64A
643.645.645 639.62C.645 635.645.645 633.62E.64A 646.62C.64A; FDF0 635.644.6D2 642.644.6D2
627.644.644.647 627.643.628.631 645.62D.645.62F 635.644.639.645 631.633.648.644 639.644.64A.647
648.633.644.645 635.644.649 635.644.649.20.627.644.644.647.20.639.644.64A.647.20.648.633.644.645
62C.644.20.62C.644.627.644.647 631.6CC.627.644; FE10 2C 3001; FE15 21 3F; FE31 2014 2013; FE37 7B
7D; FE47 5B 5D 20.305 20.305 20.305 20.305; FE50 2C 3001; FE54 3B 3A 3F 21 2014; FE5B 7B 7D; FE5F
23 26; FE63 2D 3C 3E 3D; FE68 5C; FE6B 40; FE70 20.64B 640.64B 20.64C; FE74 20.64D; FE76 20.64E
640.64E 20.64F 640.64F 20.650 640.650 20.651 640.651 20.652 640.652; FEF5 644.622 644.622 644.623
644.623 644.625 644.625 644.627 644.627; FF61 2E; FF64 3001 30FB 30F2 30A1 30A3 30A5 30A7 30A9
30E3 30E5 30E7 30C3 30FC 30A2 30A4 30A6 30A8; FF77 30AD 30AF 30B1 30B3 30B5 30B7 30B9 30BB 30BD
30BF 30C1 30C4 30C6 30C8; FF8B 30D2 30D5 30D8 30DB; FF94 30E4 30E6; FF9C 30EF 30F3; FFA3 11AA
1102; FFB0 111A; FFB4 1121; FFE2 AC 20.304 A6 A5 20A9; FFE8 2502; FFED 25A0 25CB; 10783 E6 299
253; 10787 2A3 AB66 2A5 2A4; 1078D 1D91 258 25E 2A9 264 262 260 29B 127 29C 267 284; 1079B 26C
1DF04 A78E 26E 1DF05 28E 1DF06 F8; 107A5 71 27A 1DF08; 107AA 280 2A8 2A6 AB67 2A7 288 2C71; 107B2
28F; 107B5 298; 107B9 1DF0A 1DF1E; 1D15E 1D157.1D165 1D158.1D165 1D158.1D165.1D16E
1D158.1D165.1D16F 1D158.1D165.1D170 1D158.1D165.1D171 1D158.1D165.1D172; 1D1BB 1D1B9.1D165
1D1BA.1D165 1D1B9.1D165.1D16E 1D1BA.1D165.1D16E 1D1B9.1D165.1D16F 1D1BA.1D165.1D16F; 1D49F 64;
1D4A2 67; 1D546 6F; 1D6A4 131 237; 1D6B9 3B8; 1D6C1 2207; 1D6DB 2202 3B5 3B8 3BA 3C6 3C1 3C0;
1D6F3 3B8; 1D6FB 2207; 1D715 2202 3B5 3B8 3BA 3C6 3C1 3C0; 1D72D 3B8; 1D735 2207; 1D74F 2202 3B5
3B8 3BA 3C6 3C1 3C0; 1D767 3B8; 1D76F 2207; 1D789 2202 3B5 3B8 3BA 3C6 3C1 3C0; 1D7A1 3B8; 1D7A9
2207; 1D7C3 2202 3B5 3B8 3BA 3C6 3C1 3C0; 1E047 44B; 1E04A A689 4D9 456 458 4E9 4AF 4CF; 1E05E
441; 1E067 491 456 455 45F 4AB A651 4B1; 1EE02 62C 62F; 1EE05 648 632 62D 637 64A; 1EE0E 633 639
641 635 642 631 634; 1EE17 62E 630 636 638 63A 66E 6BA 6A1 66F; 1EE21 628 62C; 1EE24 647; 1EE27
62D; 1EE29 64A; 1EE2E 633 639 641 635 642; 1EE34 634; 1EE37 62E; 1EE39 636; 1EE3B 63A; 1EE42 62C;
1EE47 62D; 1EE49 64A; 1EE4E 633 639; 1EE51 635 642; 1EE54 634; 1EE57 62E; 1EE59 636; 1EE5B 63A;
1EE5D 6BA; 1EE5F 66F; 1EE61 628 62C; 1EE64 647; 1EE67 62D 637 64A; 1EE6D 646 633 639 641 635 642;
1EE74 634; 1EE77 62E; 1EE79 636 638 63A 66E; 1EE7E 6A1; 1EE82 62C 62F; 1EE86 632 62D 637 64A;
1EE8E 633 639 641 635 642 631 634; 1EE97 62E 630 636 638 63A; 1EEA1 628 62C 62F; 1EEA5 648 632 62D
637 64A; 1EEAE 633 639 641 635 642 631 634; 1EEB7 62E 630 636 638 63A; 1F101 30.2C 31.2C 32.2C
33.2C 34.2C 35.2C 36.2C 37.2C 38.2C 39.2C; 1F110 28.61.29 28.62.29 28.63.29 28.64.29 28.65.29
28.66.29 28.67.29 28.68.29 28.69.29 28.6A.29 28.6B.29 28.6C.29 28.6D.29 28.6E.29 28.6F.29 28.70.29
28.71.29 28.72.29 28.73.29 28.74.29 28.75.29 28.76.29 28.77.29 28.78.29 28.79.29 28.7A.29
3014.73.3015 63 72 63.64 77.7A; 1F14A 68.76 6D.76 73.64 73.73 70.70.76 77.63; 1F16A 6D.63 6D.64
6D.72; 1F190 64.6A; 1F200 307B.304B 30B3.30B3 30B5; 1F210 624B 5B57 53CC 30C7 4E8C 591A 89E3 5929
4EA4 6620 7121 6599 524D 5F8C 518D 65B0 521D 7D42 751F 8CA9 58F0 5439 6F14 6295 6355 4E00 4E09
904A 5DE6 4E2D 53F3 6307 8D70 6253 7981 7A7A 5408 6E80 6709 6708 7533 5272 55B6 914D; 1F240
3014.672C.3015 3014.4E09.3015 3014.4E8C.3015 3014.5B89.3015 3014.70B9.3015 3014.6253.3015
3014.76D7.3015 3014.52DD.3015 3014.6557.3015; 1F250 5F97 53EF; 2F800 4E3D 4E38 4E41 20122 4F60
4FAE 4FBB 5002 507A 5099 50E7 50CF 349E 2063A 514D 5154 5164 5177 2051C 34B9 5167 518D 2054B 5197
51A4 4ECC 51AC 51B5 291DF 51F5 5203 34DF 523B 5246 5272 5277 3515 52C7 52C9 52E4 52FA; 2F82B 5317
5349 5351 535A 5373 537D; 2F834 20A2C 7070 53CA 53DF 20B63 53EB 53F1 5406 549E 5438 5448 5468 54A2
54F6 5510 5553 5563; 2F847 5599 55AB 55B3 55C2 5716 5606 5717 5651 5674 5207 58EE 57CE 57F4 580D
578B 5832 5831 58AC 214E4 58F2 58F7 5906 591A 5922 5962 216A8 216EA 59EC 5A1B 5A27 59D8 5A66 36EE
36FC 5B08; 2F86C 219C8 5BC3 5BD8 5BE7 5BF3 21B18 5BFF 5C06 5F53 5C22 3781 5C60 5C6E 5CC0 5C8D
21DE4 5D43 21DE6 5D6E 5D6B 5D7C; 2F883 382F 5DFD 5E28 5E3D 5E69 3862 22183 387C 5EB0 5EB3 5EB6
5ECA 2A392 5EFE; 2F893 8201; 2F896 38C7 232B8 261DA 5F62 5F6B 38E3 5F9A 5FCD 5FD7 5FF9 6081 393A
391C 6094 226D4 60C7 6148 614C 614E 614C 617A 618E 61B2 61A4 61AF 61DE 61F2 61F6 6210 621B 625D
62B1 62D4 6350 22B0C 633D 62FC 6368 6383 63E4 22BF1 6422 63C5 63A9 3A2E 6469 647E 649D 6477 3A6C
654F 656C 2300A 65E3 66F8 6649 3B19 6691 3B08 3AE4 5192 5195 6700 669C 80AD 43D9 6717 671B 6721
675E 6753 233C3 3B49 67FA 6785 6852 6885 2346D 688E 681F 6914 3B9D 6942 69A3 69EA 6AA8 236A3 6ADB
3C18 6B21 238A7 6B54 3C4E 6B72 6B9F; 2F8F7 23A8D 21D0B 23AFA 6C4E 23CBC 6CBF 6CCD 6C67 6D16 6D3E
6D77 6D41 6D69 6D78 6D85 23D1E 6D34 6E2F 6E6E 3D33 6ECB 6EC7 23ED1 6DF9 6F6E 23F5E 23F8E 6FC6 7039
701E 701B 3D96 704A 707D 7077 70AD 20525 7145 24263 719C 243AB 7228 7235 7250 24608 7280 7295
24735 24814 737A 738B 3EAC 73A5; 2F92E 7447 745C 7471 7485 74CA 3F1B 7524 24C36 753E 24C92 7570
2219F 7610 24FA1 24FB8 25044 3FFC 4008 76F4 250F3 250F2 25119 25133; 2F947 771F 774A 4039 778B
4046 4096 2541D 784E 788C 78CC 40E3 25626 7956 2569A 256C5 798F 79EB 412F 7A40 7A4A 7A4F 2597C;
2F95F 7AEE 4202 25BAB 7BC6 7BC9 4227 25C80 7CD2 42A0 7CE8 7CE3 7D00 25F86 7D63 4301 7DC7 7E02 7E45
4334 26228 26247 4359 262D9 7F7A 2633E 7F95 7FFA 8005 264DA 26523 8060 265A8 8070 2335F 43D5 80B2
8103 440B 813E 5AB5 267A7 267B5 23393 2339C 8201 8204 8F9E 446B 8291 828B 829D 52B3 82B1 82B3 82BD
82E6 26B3C 82E5 831D 8363 83AD 8323 83BD 83E7 8457 8353 83CA 83CC 83DC 26C36 26D6B 26CD5 452B 84F1
84F3 8516 273CA 8564 26F2C 455D 4561 26FB1 270D2 456B 8650 865C 8667 8669 86A9 8688 870E 86E2 8779
8728 876B 8786 45D7 87E1 8801 45F9 8860 8863 27667 88D7 88DE 4635 88FA 34BB 278AE 27966 46BE 46C7
8AA0 8AED 8B8A 8C55 27CA8 8CAB 8CC1 8D1B 8D77 27F2F 20804 8DCB 8DBC 8DF0 208DE 8ED4 8F38 285D2
285ED 9094 90F1 9111 2872E 911B 9238; 2F9EA 927C 93F9 9415 28BFA 958B 4995 95B7 28D77 49E6 96C3
5DB2 9723 29145 2921A 4A6E 4A76 97E0 2940A 4AB2 29496; 2FA00 9829 295B6 98E2 4B33 9929 99A7 99C2
99FE 4BCE 29B30 9B12 9C40 9CFD 4CCE 4CED 9D67 2A0CE 4CF8 2A105 2A20E 2A291 9EBB 4D56 9EF9 9EFE
9F05 9F0F 9F16 9F3B 2A600"

def ignored : Spans Unit := Spans.set "
AD 34F 115F.1160 17B4.17B5 180B.180F 200B 2060.2064 206A.206F 3164 FE00.FE0F FEFF FFA0 1BCA0.1BCA3
1D173.1D17A E0100.E01EF"

def runTarget? (n : Nat) : Option Nat := do
  let run ← runs.spanOf? n
  let (step, target) := run.value
  if step = 0 then some target
  else if (n - run.first) % step = 0 then some (target + (n - run.first))
  else none

def replace? (c : Char) : Option (List Char) :=
  if c.toNat < 128 then some [Text.foldCase c]
  else match runTarget? c.toNat with
    | some n => some [.ofNat n]
    | none =>
      match singles.valueAt? c with
      | some ns => some (ns.map .ofNat)
      | none =>
        if plain.has c then some [c] else if ignored.has c then some [] else none

def ofText? (s : List Char) : Option (List Char) :=
  if s.all (·.toNat < 128) then some (Text.lower s)
  else (s.mapM replace?).map (Text.composed ·.flatten)

end MatchGuide.Mapping
