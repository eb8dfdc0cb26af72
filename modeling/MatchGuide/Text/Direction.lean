import MatchGuide.Text.Mark

/-! How characters stand in a line of writing: which way they run, and whether they join their
neighbours. -/
namespace MatchGuide.Text

inductive Direction where
  | left
  | right
  | digit
  | rightDigit
  | mark
  | neutral
  deriving DecidableEq, Repr

def rightLetters : Spans Unit := Spans.set "
5BE 5C0 5C3 5C6 5D0.5EA 5EF.5F4 608 60B 60D 61B 61D.64A 66D.66F 671.674 679.6D5 6E5.6E6 6EE.6EF
6FA.70D 710 712.72F 74D.7A5 7B1 7C0.7EA 7F4.7F5 7FA 7FE.815 81A 824 828 830.83E 840.858 85E
860.86A 870.88F 8A0.8C9 FBB2.FBC2 FE73 10800.10805 10808 1080A.10835 10837.10838 1083C 1083F.10855
10857.1089E 108A7.108AF 108E0.108F2 108F4.108F5 108FB.1091B 10920.10939 1093F.10959 10980.109B7
109BC.109CF 109D2.10A00 10A10.10A13 10A15.10A17 10A19.10A35 10A40.10A48 10A50.10A58 10A60.10A9F
10AC0.10AE4 10AEB.10AF6 10B00.10B35 10B40.10B55 10B58.10B72 10B78.10B91 10B99.10B9C 10BA9.10BAF
10C00.10C48 10CC0.10CF2 10CFA.10D23 10D4A.10D4F 10D6F.10D85 10D8E.10D8F 10E80.10EA9 10EAD
10EB0.10EB1 10EC2.10EC7 10F00.10F27 10F30.10F45 10F51.10F59 10F70.10F81 10F86.10F89 10FB0.10FCB
10FE0.10FF6 1E800.1E8C4 1E8C7.1E8CF 1E922.1E943 1E94B 1E950.1E959 1E95E.1E95F 1EC71.1ECB4
1ED01.1ED3D"

def rightDigits : Spans Unit := Spans.set "
660.669 66B.66C 10D30.10D39 10D40.10D49 10E60.10E7E"

def digits : Spans Unit := Spans.set "
30.39 6F0.6F9 102E1.102FB"

def neutrals : Spans Unit := Spans.set "
0.2F 3A.40 5B.60 7B.7F A1.A7 A9 AB.AC AE B0.B1 B6.B7 BB BF D7 F7 2B9.2BA 2C2.2CF 2D2.2D7 2DE.2DF
2E5.2ED 2EF.2FF 375 3F6 58A 58D.58F 606.607 609.60A 60C 60E.60F 66A 6DE 6E9 7F6.7F9 9F2.9F3 9FB
AF1 BF3.BFA C78.C7E E3F F3A.F3D 1390.1399 1400 169B.169C 17DB 17F0.17F9 1800.180A 1940 1944.1945
19DE.19FF 200C.200D 2010 2012.2016 2018.2023 2027 2030.2032 2035 2038.203B 203D 203F.2046
204A.2056 2058.205E 20A0.20A7 20A9.20C1 2104 2108 2114 2117.2118 211E.211F 2123 2125 2127 2129
212E 213A 2141.2144 214A.214D 218A.218B 2190.222B 222E 2231.2328 232B.2335 237B.2394 2396.2429
2440.244A 24EB.26AB 26AD.27FF 2900.2A0B 2A0D.2A73 2A77.2ADB 2ADD.2B73 2B76.2BFF 2CE5.2CEA
2CF9.2CFF 2E00.2E5D 2E80.2E99 2E9B.2E9E 2EA0.2EF2 3001 3003.3004 3008.3020 3030 3037 303D.303F
30A0 30FB 31C0.31E5 4DC0.4DFF A490.A4C6 A60D.A60F A673 A67E.A67F A700.A721 A788 A828.A82B
A838.A839 A874.A877 AB6A.AB6B FBC3.FBD2 FD3E.FD4F FD90.FD91 FDC8.FDCF FDFD.FDFF FE45.FE46 10101
10140.1018C 10190.1019C 101A0 1091F 10B39.10B3F 10D6E 10ED0.10ED8 11052.11065 11660.1166C
11FD5.11FF1 16FE2 1CC00.1CCD5 1CCFA.1CCFC 1CD00.1CEB3 1CEBA.1CED0 1CEE0.1CEF0 1D1E9.1D1EA
1D200.1D241 1D245 1D300.1D356 1E2FF 1EEF0.1EEF1 1F000.1F02B 1F030.1F093 1F0A0.1F0AE 1F0B1.1F0BF
1F0C1.1F0CF 1F0D1.1F0F5 1F10B.1F10F 1F12F 1F16D.1F16F 1F1AD 1F260.1F265 1F300.1F6D8 1F6DC.1F6EC
1F6F0.1F6FC 1F700.1F7D9 1F7E0.1F7EB 1F7F0 1F800.1F80B 1F810.1F847 1F850.1F859 1F860.1F887
1F890.1F8AD 1F8B0.1F8BB 1F8C0.1F8C1 1F8D0.1F8D8 1F900.1FA57 1FA60.1FA6D 1FA70.1FA7C 1FA80.1FA8A
1FA8E.1FAC6 1FAC8 1FACD.1FADC 1FADF.1FAEA 1FAEF.1FAF8 1FB00.1FB92 1FB94.1FBEF 1FBFA"

def leftMarks : List Nat := [0xCBF, 0xCC6, 0x11A07, 0x11A08, 0x11C3F]

def direction (c : Char) : Direction :=
  if rightLetters.has c then .right
  else if rightDigits.has c then .rightDigit
  else if digits.has c then .digit
  else if neutrals.has c then .neutral
  else if isNonspacing c && !leftMarks.contains c.toNat then .mark
  else .left

def bothJoining : Spans Unit := Spans.set "
620 626 628 62A.62E 633.63F 641.647 649.64A 66E.66F 679.687 69A.6BF 6C1.6C2 6CC 6CE 6D0.6D1
6FA.6FC 6FF 712.714 71A.71D 71F.727 729 72B 72D.72E 74E.758 75C.76A 76D.770 772 775.777 77A.77F
7CA.7EA 841.845 848 84A.853 855 860 862.865 868 886 889.88D 88F 8A0.8A9 8AF.8B0 8B3.8B8 8BA.8C8
1807 1820.1878 1887.18A8 18AA A840.A871 10AC0.10AC4 10AD3.10AD6 10AD8.10ADC 10ADE.10AE0
10AEB.10AEE 10B80 10B82 10B86.10B88 10B8A.10B8B 10B8D 10B90 10BAD.10BAE 10D01.10D21 10D23
10EC3.10EC4 10EC6.10EC7 10F30.10F32 10F34.10F44 10F51.10F53 10F70.10F73 10F76.10F81 10FB0
10FB2.10FB3 10FB8 10FBB.10FBC 10FBE.10FBF 10FC1 10FC4 10FCA 1E922.1E943"

def rightJoining : Spans Unit := Spans.set "
622.625 627 629 62F.632 648 671.673 688.699 6C0 6C3.6CB 6CD 6CF 6D2.6D3 6D5 6EE.6EF 710 715.719
71E 728 72A 72C 72F 74D 759.75B 76B.76C 771 773.774 778.779 840 846.847 849 854 856.858 867
869.86A 870.882 88E 8AA.8AC 8AE 8B1.8B2 8B9 10AC5 10AC7 10AC9.10ACA 10ACE.10AD2 10ADD 10AE1 10AE4
10AEF 10B81 10B83.10B85 10B89 10B8C 10B8E.10B8F 10B91 10BA9.10BAC 10D22 10EC2 10F33 10F54
10F74.10F75 10FB4.10FB6 10FB9.10FBA 10FBD 10FC2.10FC3 10FC9"

def leftJoining : Spans Unit := Spans.set "
A872 10ACD 10AD7 10D00 10FCB"

def joinsNext (c : Char) : Bool := bothJoining.has c || leftJoining.has c

def joinsPrevious (c : Char) : Bool := bothJoining.has c || rightJoining.has c

def isTransparent (c : Char) : Bool := isNonspacing c || c.toNat == 0x1E94B

end MatchGuide.Text
