/-!
# The tables of character classes

Ranges of characters, in hexadecimal, with the classes that the rules for labels ask
for.
-/

namespace TileFetch.Domain

def markText : String :=
"300,36F:1 483,489:1 591,5BD:1 5BF,5BF:1 5C1,5C2:1 5C4,5C5:1 5C7,5C9:1 610,61A:1 64B,65F:1
670,670:1 6D6,6DC:1 6DF,6E4:1 6E7,6E8:1 6EA,6ED:1 711,711:1 730,74A:1 7A6,7B0:1 7EB,7F3:1
7FD,7FD:1 816,819:1 81B,823:1 825,827:1 829,82D:1 859,85B:1 897,89F:1 8CA,8E1:1 8E3,903:1
93A,93C:1 93E,94F:1 951,957:1 962,963:1 981,983:1 9BC,9BC:1 9BE,9C4:1 9C7,9C8:1 9CB,9CD:1
9D7,9D7:1 9E2,9E3:1 9FE,9FE:1 A01,A03:1 A3C,A3C:1 A3E,A42:1 A47,A48:1 A4B,A4D:1 A51,A51:1
A70,A71:1 A75,A75:1 A81,A83:1 ABC,ABC:1 ABE,AC5:1 AC7,AC9:1 ACB,ACD:1 AE2,AE3:1 AFA,AFF:1
B01,B03:1 B3C,B3C:1 B3E,B44:1 B47,B48:1 B4B,B4D:1 B53,B57:1 B62,B63:1 B82,B82:1 BBE,BC2:1
BC6,BC8:1 BCA,BCD:1 BD7,BD7:1 C00,C04:1 C3C,C3C:1 C3E,C44:1 C46,C48:1 C4A,C4D:1 C55,C56:1
C62,C63:1 C81,C83:1 CBC,CBC:1 CBE,CC4:1 CC6,CC8:1 CCA,CCD:1 CD5,CD6:1 CE2,CE3:1 CF3,CF3:1
D00,D03:1 D3B,D3C:1 D3E,D44:1 D46,D48:1 D4A,D4D:1 D57,D57:1 D62,D63:1 D81,D83:1 DCA,DCA:1
DCF,DD4:1 DD6,DD6:1 DD8,DDF:1 DF2,DF3:1 E31,E31:1 E34,E3A:1 E47,E4E:1 EB1,EB1:1 EB4,EBC:1
EC8,ECE:1 F18,F19:1 F35,F35:1 F37,F37:1 F39,F39:1 F3E,F3F:1 F71,F84:1 F86,F87:1 F8D,F97:1
F99,FBC:1 FC6,FC6:1 102B,103E:1 1056,1059:1 105E,1060:1 1062,1064:1 1067,106D:1 1071,1074:1
1082,108D:1 108F,108F:1 109A,109D:1 135D,135F:1 1712,1715:1 1732,1734:1 1752,1753:1 1772,1773:1
17B4,17D3:1 17DD,17DD:1 180B,180D:1 180F,180F:1 1885,1886:1 18A9,18A9:1 1920,192B:1 1930,193B:1
1A17,1A1B:1 1A55,1A5E:1 1A60,1A7C:1 1A7F,1A7F:1 1AB0,1AEF:1 1B00,1B04:1 1B34,1B44:1 1B6B,1B73:1
1B80,1B82:1 1BA1,1BAD:1 1BE6,1BF3:1 1C24,1C37:1 1CD0,1CD2:1 1CD4,1CE8:1 1CED,1CED:1 1CF4,1CF4:1
1CF7,1CF9:1 1DC0,1DFF:1 20D0,20F0:1 2CEF,2CF1:1 2D7F,2D7F:1 2DE0,2DFF:1 302A,302F:1 3099,309A:1
A66F,A672:1 A674,A67D:1 A69E,A69F:1 A6F0,A6F1:1 A802,A802:1 A806,A806:1 A80B,A80B:1 A823,A827:1
A82C,A82C:1 A880,A881:1 A8B4,A8C5:1 A8E0,A8F1:1 A8FF,A8FF:1 A926,A92D:1 A947,A953:1 A980,A983:1
A9B3,A9C0:1 A9E5,A9E5:1 AA29,AA36:1 AA43,AA43:1 AA4C,AA4D:1 AA7B,AA7D:1 AAB0,AAB0:1 AAB2,AAB4:1
AAB7,AAB8:1 AABE,AABF:1 AAC1,AAC1:1 AAEB,AAEF:1 AAF5,AAF6:1 ABE3,ABEA:1 ABEC,ABED:1 FB1E,FB1E:1
FE00,FE0F:1 FE20,FE2F:1 101FD,101FD:1 102E0,102E0:1 10376,1037A:1 10A01,10A03:1 10A05,10A06:1
10A0C,10A0F:1 10A38,10A3A:1 10A3F,10A3F:1 10AE5,10AE6:1 10D24,10D27:1 10D69,10D6D:1
10EAB,10EAC:1 10EF0,10EFF:1 10F46,10F50:1 10F82,10F85:1 11000,11002:1 11038,11046:1
11070,11070:1 11073,11074:1 1107F,11082:1 110B0,110BA:1 110C2,110C2:1 11100,11102:1
11127,11134:1 11145,11146:1 11173,11173:1 11180,11182:1 111B3,111C0:1 111C9,111CC:1
111CE,111CF:1 1122C,11237:1 1123E,1123E:1 11241,11241:1 112DF,112EA:1 11300,11303:1
1133B,1133C:1 1133E,11344:1 11347,11348:1 1134B,1134D:1 11357,11357:1 11362,11363:1
11366,1136C:1 11370,11374:1 113B8,113C0:1 113C2,113C2:1 113C5,113C5:1 113C7,113CA:1
113CC,113D0:1 113D2,113D2:1 113E1,113E2:1 11435,11446:1 1145E,1145E:1 114B0,114C3:1
115AF,115B5:1 115B8,115C0:1 115DC,115DD:1 11630,11640:1 116AB,116B7:1 1171D,1172B:1
1182C,1183A:1 11930,11935:1 11937,11938:1 1193B,1193E:1 11940,11940:1 11942,11943:1
119D1,119D7:1 119DA,119E0:1 119E4,119E4:1 11A01,11A0A:1 11A33,11A39:1 11A3B,11A3E:1
11A47,11A47:1 11A51,11A5B:1 11A8A,11A99:1 11B60,11B67:1 11C2F,11C36:1 11C38,11C3F:1
11C92,11CA7:1 11CA9,11CB6:1 11D31,11D36:1 11D3A,11D3A:1 11D3C,11D3D:1 11D3F,11D45:1
11D47,11D47:1 11D8A,11D8E:1 11D90,11D91:1 11D93,11D97:1 11EF3,11EF6:1 11F00,11F01:1
11F03,11F03:1 11F34,11F3A:1 11F3E,11F42:1 11F5A,11F5A:1 13440,13440:1 13447,13455:1
1611E,1612F:1 16AF0,16AF4:1 16B30,16B36:1 16F4F,16F4F:1 16F51,16F87:1 16F8F,16F92:1
16FE4,16FE4:1 16FF0,16FF1:1 1BC9D,1BC9E:1 1CF00,1CF2D:1 1CF30,1CF46:1 1D165,1D169:1
1D16D,1D172:1 1D17B,1D182:1 1D185,1D18B:1 1D1AA,1D1AD:1 1D242,1D244:1 1DA00,1DA36:1
1DA3B,1DA6C:1 1DA75,1DA75:1 1DA84,1DA84:1 1DA9B,1DA9F:1 1DAA1,1DAAF:1 1E000,1E006:1
1E008,1E018:1 1E01B,1E021:1 1E023,1E024:1 1E026,1E02A:1 1E08F,1E08F:1 1E130,1E136:1
1E2AE,1E2AE:1 1E2EC,1E2EF:1 1E4EC,1E4EF:1 1E5EE,1E5EF:1 1E6E3,1E6E3:1 1E6E6,1E6E6:1
1E6EE,1E6EF:1 1E6F5,1E6F5:1 1E8D0,1E8D6:1 1E944,1E94A:1 E0100,E01EF:1"

/-- Joining types: `C` joins on both sides and causes joining, `D` joins on both sides,
`L` to the left, `R` to the right, and `T` is transparent. -/
def joiningText : String :=
"AD,AD:T 300,36F:T 483,489:T 591,5BD:T 5BF,5BF:T 5C1,5C2:T 5C4,5C5:T 5C7,5C9:T 610,61A:T
61C,61C:T 620,620:D 622,625:R 626,626:D 627,627:R 628,628:D 629,629:R 62A,62E:D 62F,632:R
633,63F:D 640,640:C 641,647:D 648,648:R 649,64A:D 64B,65F:T 66E,66F:D 670,670:T 671,673:R
675,677:R 678,687:D 688,699:R 69A,6BF:D 6C0,6C0:R 6C1,6C2:D 6C3,6CB:R 6CC,6CC:D 6CD,6CD:R
6CE,6CE:D 6CF,6CF:R 6D0,6D1:D 6D2,6D3:R 6D5,6D5:R 6D6,6DC:T 6DF,6E4:T 6E7,6E8:T 6EA,6ED:T
6EE,6EF:R 6FA,6FC:D 6FF,6FF:D 70F,70F:T 710,710:R 711,711:T 712,714:D 715,719:R 71A,71D:D
71E,71E:R 71F,727:D 728,728:R 729,729:D 72A,72A:R 72B,72B:D 72C,72C:R 72D,72E:D 72F,72F:R
730,74A:T 74D,74D:R 74E,758:D 759,75B:R 75C,76A:D 76B,76C:R 76D,770:D 771,771:R 772,772:D
773,774:R 775,777:D 778,779:R 77A,77F:D 7A6,7B0:T 7CA,7EA:D 7EB,7F3:T 7FA,7FA:C 7FD,7FD:T
816,819:T 81B,823:T 825,827:T 829,82D:T 840,840:R 841,845:D 846,847:R 848,848:D 849,849:R
84A,853:D 854,854:R 855,855:D 856,858:R 859,85B:T 860,860:D 862,865:D 867,867:R 868,868:D
869,86A:R 870,882:R 883,885:C 886,886:D 889,88D:D 88E,88E:R 88F,88F:D 897,89F:T 8A0,8A9:D
8AA,8AC:R 8AE,8AE:R 8AF,8B0:D 8B1,8B2:R 8B3,8B8:D 8B9,8B9:R 8BA,8C8:D 8CA,8E1:T 8E3,902:T
93A,93A:T 93C,93C:T 941,948:T 94D,94D:T 951,957:T 962,963:T 981,981:T 9BC,9BC:T 9C1,9C4:T
9CD,9CD:T 9E2,9E3:T 9FE,9FE:T A01,A02:T A3C,A3C:T A41,A42:T A47,A48:T A4B,A4D:T A51,A51:T
A70,A71:T A75,A75:T A81,A82:T ABC,ABC:T AC1,AC5:T AC7,AC8:T ACD,ACD:T AE2,AE3:T AFA,AFF:T
B01,B01:T B3C,B3C:T B3F,B3F:T B41,B44:T B4D,B4D:T B53,B56:T B62,B63:T B82,B82:T BC0,BC0:T
BCD,BCD:T C00,C00:T C04,C04:T C3C,C3C:T C3E,C40:T C46,C48:T C4A,C4D:T C55,C56:T C62,C63:T
C81,C81:T CBC,CBC:T CBF,CBF:T CC6,CC6:T CCC,CCD:T CE2,CE3:T D00,D01:T D3B,D3C:T D41,D44:T
D4D,D4D:T D62,D63:T D81,D81:T DCA,DCA:T DD2,DD4:T DD6,DD6:T E31,E31:T E34,E3A:T E47,E4E:T
EB1,EB1:T EB4,EBC:T EC8,ECE:T F18,F19:T F35,F35:T F37,F37:T F39,F39:T F71,F7E:T F80,F84:T
F86,F87:T F8D,F97:T F99,FBC:T FC6,FC6:T 102D,1030:T 1032,1037:T 1039,103A:T 103D,103E:T
1058,1059:T 105E,1060:T 1071,1074:T 1082,1082:T 1085,1086:T 108D,108D:T 109D,109D:T 135D,135F:T
1712,1714:T 1732,1733:T 1752,1753:T 1772,1773:T 17B4,17B5:T 17B7,17BD:T 17C6,17C6:T 17C9,17D3:T
17DD,17DD:T 1807,1807:D 180A,180A:C 180B,180D:T 180F,180F:T 1820,1878:D 1885,1886:T 1887,18A8:D
18A9,18A9:T 18AA,18AA:D 1920,1922:T 1927,1928:T 1932,1932:T 1939,193B:T 1A17,1A18:T 1A1B,1A1B:T
1A56,1A56:T 1A58,1A5E:T 1A60,1A60:T 1A62,1A62:T 1A65,1A6C:T 1A73,1A7C:T 1A7F,1A7F:T 1AB0,1AEF:T
1B00,1B03:T 1B34,1B34:T 1B36,1B39:T 1B3C,1B3C:T 1B42,1B42:T 1B6B,1B73:T 1B80,1B81:T 1BA2,1BA5:T
1BA8,1BA9:T 1BAB,1BAD:T 1BE6,1BE6:T 1BE8,1BE9:T 1BED,1BED:T 1BEF,1BF1:T 1C2C,1C33:T 1C36,1C37:T
1CD0,1CD2:T 1CD4,1CE0:T 1CE2,1CE8:T 1CED,1CED:T 1CF4,1CF4:T 1CF8,1CF9:T 1DC0,1DFF:T 200B,200B:T
200D,200D:C 200E,200F:T 202A,202E:T 2060,2064:T 206A,206F:T 20D0,20F0:T 2CEF,2CF1:T 2D7F,2D7F:T
2DE0,2DFF:T 302A,302D:T 3099,309A:T A66F,A672:T A674,A67D:T A69E,A69F:T A6F0,A6F1:T A802,A802:T
A806,A806:T A80B,A80B:T A825,A826:T A82C,A82C:T A840,A871:D A872,A872:L A8C4,A8C5:T A8E0,A8F1:T
A8FF,A8FF:T A926,A92D:T A947,A951:T A980,A982:T A9B3,A9B3:T A9B6,A9B9:T A9BC,A9BD:T A9E5,A9E5:T
AA29,AA2E:T AA31,AA32:T AA35,AA36:T AA43,AA43:T AA4C,AA4C:T AA7C,AA7C:T AAB0,AAB0:T AAB2,AAB4:T
AAB7,AAB8:T AABE,AABF:T AAC1,AAC1:T AAEC,AAED:T AAF6,AAF6:T ABE5,ABE5:T ABE8,ABE8:T ABED,ABED:T
FB1E,FB1E:T FE00,FE0F:T FE20,FE2F:T FEFF,FEFF:T FFF9,FFFB:T 101FD,101FD:T 102E0,102E0:T
10376,1037A:T 10A01,10A03:T 10A05,10A06:T 10A0C,10A0F:T 10A38,10A3A:T 10A3F,10A3F:T
10AC0,10AC4:D 10AC5,10AC5:R 10AC7,10AC7:R 10AC9,10ACA:R 10ACD,10ACD:L 10ACE,10AD2:R
10AD3,10AD6:D 10AD7,10AD7:L 10AD8,10ADC:D 10ADD,10ADD:R 10ADE,10AE0:D 10AE1,10AE1:R
10AE4,10AE4:R 10AE5,10AE6:T 10AEB,10AEE:D 10AEF,10AEF:R 10B80,10B80:D 10B81,10B81:R
10B82,10B82:D 10B83,10B85:R 10B86,10B88:D 10B89,10B89:R 10B8A,10B8B:D 10B8C,10B8C:R
10B8D,10B8D:D 10B8E,10B8F:R 10B90,10B90:D 10B91,10B91:R 10BA9,10BAC:R 10BAD,10BAE:D
10D00,10D00:L 10D01,10D21:D 10D22,10D22:R 10D23,10D23:D 10D24,10D27:T 10D69,10D6D:T
10EAB,10EAC:T 10EC2,10EC2:R 10EC3,10EC4:D 10EC6,10EC7:D 10EF0,10EFF:T 10F30,10F32:D
10F33,10F33:R 10F34,10F44:D 10F46,10F50:T 10F51,10F53:D 10F54,10F54:R 10F70,10F73:D
10F74,10F75:R 10F76,10F81:D 10F82,10F85:T 10FB0,10FB0:D 10FB2,10FB3:D 10FB4,10FB6:R
10FB8,10FB8:D 10FB9,10FBA:R 10FBB,10FBC:D 10FBD,10FBD:R 10FBE,10FBF:D 10FC1,10FC1:D
10FC2,10FC3:R 10FC4,10FC4:D 10FC9,10FC9:R 10FCA,10FCA:D 10FCB,10FCB:L 11001,11001:T
11038,11046:T 11070,11070:T 11073,11074:T 1107F,11081:T 110B3,110B6:T 110B9,110BA:T
110C2,110C2:T 11100,11102:T 11127,1112B:T 1112D,11134:T 11173,11173:T 11180,11181:T
111B6,111BE:T 111C9,111CC:T 111CF,111CF:T 1122F,11231:T 11234,11234:T 11236,11237:T
1123E,1123E:T 11241,11241:T 112DF,112DF:T 112E3,112EA:T 11300,11301:T 1133B,1133C:T
11340,11340:T 11366,1136C:T 11370,11374:T 113BB,113C0:T 113CE,113CE:T 113D0,113D0:T
113D2,113D2:T 113E1,113E2:T 11438,1143F:T 11442,11444:T 11446,11446:T 1145E,1145E:T
114B3,114B8:T 114BA,114BA:T 114BF,114C0:T 114C2,114C3:T 115B2,115B5:T 115BC,115BD:T
115BF,115C0:T 115DC,115DD:T 11633,1163A:T 1163D,1163D:T 1163F,11640:T 116AB,116AB:T
116AD,116AD:T 116B0,116B5:T 116B7,116B7:T 1171D,1171D:T 1171F,1171F:T 11722,11725:T
11727,1172B:T 1182F,11837:T 11839,1183A:T 1193B,1193C:T 1193E,1193E:T 11943,11943:T
119D4,119D7:T 119DA,119DB:T 119E0,119E0:T 11A01,11A0A:T 11A33,11A38:T 11A3B,11A3E:T
11A47,11A47:T 11A51,11A56:T 11A59,11A5B:T 11A8A,11A96:T 11A98,11A99:T 11B60,11B60:T
11B62,11B64:T 11B66,11B66:T 11C30,11C36:T 11C38,11C3D:T 11C3F,11C3F:T 11C92,11CA7:T
11CAA,11CB0:T 11CB2,11CB3:T 11CB5,11CB6:T 11D31,11D36:T 11D3A,11D3A:T 11D3C,11D3D:T
11D3F,11D45:T 11D47,11D47:T 11D90,11D91:T 11D95,11D95:T 11D97,11D97:T 11EF3,11EF4:T
11F00,11F01:T 11F36,11F3A:T 11F40,11F40:T 11F42,11F42:T 11F5A,11F5A:T 13430,13440:T
13447,13455:T 1611E,16129:T 1612D,1612F:T 16AF0,16AF4:T 16B30,16B36:T 16F4F,16F4F:T
16F8F,16F92:T 16FE4,16FE4:T 1BC9D,1BC9E:T 1BCA0,1BCA3:T 1CF00,1CF2D:T 1CF30,1CF46:T
1D167,1D169:T 1D173,1D182:T 1D185,1D18B:T 1D1AA,1D1AD:T 1D242,1D244:T 1DA00,1DA36:T
1DA3B,1DA6C:T 1DA75,1DA75:T 1DA84,1DA84:T 1DA9B,1DA9F:T 1DAA1,1DAAF:T 1E000,1E006:T
1E008,1E018:T 1E01B,1E021:T 1E023,1E024:T 1E026,1E02A:T 1E08F,1E08F:T 1E130,1E136:T
1E2AE,1E2AE:T 1E2EC,1E2EF:T 1E4EC,1E4EF:T 1E5EE,1E5EF:T 1E6E3,1E6E3:T 1E6E6,1E6E6:T
1E6EE,1E6EF:T 1E6F5,1E6F5:T 1E8D0,1E8D6:T 1E900,1E943:D 1E944,1E94B:T E0001,E0001:T
E0020,E007F:T E0100,E01EF:T"

/-- Directional classes other than left-to-right: `R` right-to-left, `A` Arabic letter,
`N` Arabic number, `E` European number, `S` and `C` separators of numbers, `T` terminator
of numbers, `O` other neutral, `B` boundary neutral, `M` nonspacing mark, `X` any other. -/
def directionText : String :=
"0,8:B 9,D:X E,1B:B 1C,20:X 21,22:O 23,25:T 26,2A:O 2B,2B:S 2C,2C:C 2D,2D:S 2E,2F:C 30,39:E
3A,3A:C 3B,40:O 5B,60:O 7B,7E:O 7F,84:B 85,85:X 86,9F:B A0,A0:C A1,A1:O A2,A5:T A6,A9:O AB,AC:O
AD,AD:B AE,AF:O B0,B1:T B2,B3:E B4,B4:O B6,B8:O B9,B9:E BB,BF:O D7,D7:O F7,F7:O 2B9,2BA:O
2C2,2CF:O 2D2,2DF:O 2E5,2ED:O 2EF,2FF:O 300,36F:M 374,375:O 37E,37E:O 384,385:O 387,387:O
3F6,3F6:O 483,489:M 58A,58A:O 58D,58E:O 58F,58F:T 590,590:R 591,5BD:M 5BE,5BE:R 5BF,5BF:M
5C0,5C0:R 5C1,5C2:M 5C3,5C3:R 5C4,5C5:M 5C6,5C6:R 5C7,5C9:M 5CA,5FF:R 600,605:N 606,607:O
608,608:A 609,60A:T 60B,60B:A 60C,60C:C 60D,60D:A 60E,60F:O 610,61A:M 61B,64A:A 64B,65F:M
660,669:N 66A,66A:T 66B,66C:N 66D,66F:A 670,670:M 671,6D5:A 6D6,6DC:M 6DD,6DD:N 6DE,6DE:O
6DF,6E4:M 6E5,6E6:A 6E7,6E8:M 6E9,6E9:O 6EA,6ED:M 6EE,6EF:A 6F0,6F9:E 6FA,710:A 711,711:M
712,72F:A 730,74A:M 74B,7A5:A 7A6,7B0:M 7B1,7BF:A 7C0,7EA:R 7EB,7F3:M 7F4,7F5:R 7F6,7F9:O
7FA,7FC:R 7FD,7FD:M 7FE,815:R 816,819:M 81A,81A:R 81B,823:M 824,824:R 825,827:M 828,828:R
829,82D:M 82E,858:R 859,85B:M 85C,85F:R 860,88F:A 890,891:N 892,896:A 897,89F:M 8A0,8C9:A
8CA,8E1:M 8E2,8E2:N 8E3,902:M 93A,93A:M 93C,93C:M 941,948:M 94D,94D:M 951,957:M 962,963:M
981,981:M 9BC,9BC:M 9C1,9C4:M 9CD,9CD:M 9E2,9E3:M 9F2,9F3:T 9FB,9FB:T 9FE,9FE:M A01,A02:M
A3C,A3C:M A41,A42:M A47,A48:M A4B,A4D:M A51,A51:M A70,A71:M A75,A75:M A81,A82:M ABC,ABC:M
AC1,AC5:M AC7,AC8:M ACD,ACD:M AE2,AE3:M AF1,AF1:T AFA,AFF:M B01,B01:M B3C,B3C:M B3F,B3F:M
B41,B44:M B4D,B4D:M B53,B56:M B62,B63:M B82,B82:M BC0,BC0:M BCD,BCD:M BF3,BF8:O BF9,BF9:T
BFA,BFA:O C00,C00:M C04,C04:M C3C,C3C:M C3E,C40:M C46,C48:M C4A,C4D:M C55,C56:M C62,C63:M
C78,C7E:O C81,C81:M CBC,CBC:M CCC,CCD:M CE2,CE3:M D00,D01:M D3B,D3C:M D41,D44:M D4D,D4D:M
D62,D63:M D81,D81:M DCA,DCA:M DD2,DD4:M DD6,DD6:M E31,E31:M E34,E3A:M E3F,E3F:T E47,E4E:M
EB1,EB1:M EB4,EBC:M EC8,ECE:M F18,F19:M F35,F35:M F37,F37:M F39,F39:M F3A,F3D:O F71,F7E:M
F80,F84:M F86,F87:M F8D,F97:M F99,FBC:M FC6,FC6:M 102D,1030:M 1032,1037:M 1039,103A:M
103D,103E:M 1058,1059:M 105E,1060:M 1071,1074:M 1082,1082:M 1085,1086:M 108D,108D:M 109D,109D:M
135D,135F:M 1390,1399:O 1400,1400:O 1680,1680:X 169B,169C:O 1712,1714:M 1732,1733:M 1752,1753:M
1772,1773:M 17B4,17B5:M 17B7,17BD:M 17C6,17C6:M 17C9,17D3:M 17DB,17DB:T 17DD,17DD:M 17F0,17F9:O
1800,180A:O 180B,180D:M 180E,180E:B 180F,180F:M 1885,1886:M 18A9,18A9:M 1920,1922:M 1927,1928:M
1932,1932:M 1939,193B:M 1940,1940:O 1944,1945:O 19DE,19FF:O 1A17,1A18:M 1A1B,1A1B:M 1A56,1A56:M
1A58,1A5E:M 1A60,1A60:M 1A62,1A62:M 1A65,1A6C:M 1A73,1A7C:M 1A7F,1A7F:M 1AB0,1AEF:M 1B00,1B03:M
1B34,1B34:M 1B36,1B39:M 1B3C,1B3C:M 1B42,1B42:M 1B6B,1B73:M 1B80,1B81:M 1BA2,1BA5:M 1BA8,1BA9:M
1BAB,1BAD:M 1BE6,1BE6:M 1BE8,1BE9:M 1BED,1BED:M 1BEF,1BF1:M 1C2C,1C33:M 1C36,1C37:M 1CD0,1CD2:M
1CD4,1CE0:M 1CE2,1CE8:M 1CED,1CED:M 1CF4,1CF4:M 1CF8,1CF9:M 1DC0,1DFF:M 1FBD,1FBD:O 1FBF,1FC1:O
1FCD,1FCF:O 1FDD,1FDF:O 1FED,1FEF:O 1FFD,1FFE:O 2000,200A:X 200B,200D:B 200F,200F:R 2010,2027:O
2028,202E:X 202F,202F:C 2030,2034:T 2035,2043:O 2044,2044:C 2045,205E:O 205F,205F:X 2060,2065:B
2066,2069:X 206A,206F:B 2070,2070:E 2074,2079:E 207A,207B:S 207C,207E:O 2080,2089:E 208A,208B:S
208C,208F:O 20A0,20CF:T 20D0,20F0:M 2100,2101:O 2103,2106:O 2108,2109:O 2114,2114:O 2116,2118:O
211E,2123:O 2125,2125:O 2127,2127:O 2129,2129:O 212E,212E:T 213A,213B:O 2140,2144:O 214A,214D:O
2150,215F:O 2189,218B:O 2190,2211:O 2212,2212:S 2213,2213:T 2214,2335:O 237B,2394:O 2396,2429:O
2440,244A:O 2460,2487:O 2488,249B:E 24EA,26AB:O 26AD,27FF:O 2900,2B73:O 2B76,2BFF:O 2CE5,2CEA:O
2CEF,2CF1:M 2CF9,2CFF:O 2D7F,2D7F:M 2DE0,2DFF:M 2E00,2E99:O 2E9B,2EF3:O 2F00,2FD5:O 2FF0,2FFF:O
3000,3000:X 3001,3004:O 3008,3020:O 302A,302D:M 3030,3030:O 3036,3037:O 303D,303F:O 3099,309A:M
309B,309C:O 30A0,30A0:O 30FB,30FB:O 31C0,31E5:O 31EF,31EF:O 321D,321E:O 3250,325F:O 327C,327E:O
32B1,32BF:O 32CC,32CF:O 3377,337A:O 33DE,33DF:O 33FF,33FF:O 4DC0,4DFF:O A490,A4C6:O A60D,A60F:O
A66F,A672:M A673,A673:O A674,A67D:M A67E,A67F:O A69E,A69F:M A6F0,A6F1:M A700,A721:O A788,A788:O
A802,A802:M A806,A806:M A80B,A80B:M A825,A826:M A828,A82B:O A82C,A82C:M A838,A839:T A874,A877:O
A8C4,A8C5:M A8E0,A8F1:M A8FF,A8FF:M A926,A92D:M A947,A951:M A980,A982:M A9B3,A9B3:M A9B6,A9B9:M
A9BC,A9BD:M A9E5,A9E5:M AA29,AA2E:M AA31,AA32:M AA35,AA36:M AA43,AA43:M AA4C,AA4C:M AA7C,AA7C:M
AAB0,AAB0:M AAB2,AAB4:M AAB7,AAB8:M AABE,AABF:M AAC1,AAC1:M AAEC,AAED:M AAF6,AAF6:M AB6A,AB6B:O
ABE5,ABE5:M ABE8,ABE8:M ABED,ABED:M FB1D,FB1D:R FB1E,FB1E:M FB1F,FB28:R FB29,FB29:S FB2A,FB4F:R
FB50,FBC2:A FBC3,FBD2:O FBD3,FD3D:A FD3E,FD4F:O FD50,FD8F:A FD90,FD91:O FD92,FDC7:A FDC8,FDCF:O
FDD0,FDEF:B FDF0,FDFC:A FDFD,FDFF:O FE00,FE0F:M FE10,FE19:O FE20,FE2F:M FE30,FE4F:O FE50,FE50:C
FE51,FE51:O FE52,FE52:C FE54,FE54:O FE55,FE55:C FE56,FE5E:O FE5F,FE5F:T FE60,FE61:O FE62,FE63:S
FE64,FE66:O FE68,FE68:O FE69,FE6A:T FE6B,FE6B:O FE70,FEFE:A FEFF,FEFF:B FF01,FF02:O FF03,FF05:T
FF06,FF0A:O FF0B,FF0B:S FF0C,FF0C:C FF0D,FF0D:S FF0E,FF0F:C FF10,FF19:E FF1A,FF1A:C FF1B,FF20:O
FF3B,FF40:O FF5B,FF65:O FFE0,FFE1:T FFE2,FFE4:O FFE5,FFE6:T FFE8,FFEE:O FFF0,FFF8:B FFF9,FFFD:O
FFFE,FFFF:B 10101,10101:O 10140,1018C:O 10190,1019C:O 101A0,101A0:O 101FD,101FD:M 102E0,102E0:M
102E1,102FB:E 10376,1037A:M 10800,1091E:R 1091F,1091F:O 10920,10A00:R 10A01,10A03:M
10A04,10A04:R 10A05,10A06:M 10A07,10A0B:R 10A0C,10A0F:M 10A10,10A37:R 10A38,10A3A:M
10A3B,10A3E:R 10A3F,10A3F:M 10A40,10AE4:R 10AE5,10AE6:M 10AE7,10B38:R 10B39,10B3F:O
10B40,10CFF:R 10D00,10D23:A 10D24,10D27:M 10D28,10D2F:A 10D30,10D39:N 10D3A,10D3F:A
10D40,10D49:N 10D4A,10D68:R 10D69,10D6D:M 10D6E,10D6E:O 10D6F,10E5F:R 10E60,10E7E:N
10E7F,10EAA:R 10EAB,10EAC:M 10EAD,10EBF:R 10EC0,10ECE:A 10ECF,10EEF:O 10EF0,10EFF:M
10F00,10F2F:R 10F30,10F45:A 10F46,10F50:M 10F51,10F6F:A 10F70,10F81:R 10F82,10F85:M
10F86,10FFF:R 11001,11001:M 11038,11046:M 11052,11065:O 11070,11070:M 11073,11074:M
1107F,11081:M 110B3,110B6:M 110B9,110BA:M 110C2,110C2:M 11100,11102:M 11127,1112B:M
1112D,11134:M 11173,11173:M 11180,11181:M 111B6,111BE:M 111C9,111CC:M 111CF,111CF:M
1122F,11231:M 11234,11234:M 11236,11237:M 1123E,1123E:M 11241,11241:M 112DF,112DF:M
112E3,112EA:M 11300,11301:M 1133B,1133C:M 11340,11340:M 11366,1136C:M 11370,11374:M
113BB,113C0:M 113CE,113CE:M 113D0,113D0:M 113D2,113D2:M 113E1,113E2:M 11438,1143F:M
11442,11444:M 11446,11446:M 1145E,1145E:M 114B3,114B8:M 114BA,114BA:M 114BF,114C0:M
114C2,114C3:M 115B2,115B5:M 115BC,115BD:M 115BF,115C0:M 115DC,115DD:M 11633,1163A:M
1163D,1163D:M 1163F,11640:M 11660,1166C:O 116AB,116AB:M 116AD,116AD:M 116B0,116B5:M
116B7,116B7:M 1171D,1171D:M 1171F,1171F:M 11722,11725:M 11727,1172B:M 1182F,11837:M
11839,1183A:M 1193B,1193C:M 1193E,1193E:M 11943,11943:M 119D4,119D7:M 119DA,119DB:M
119E0,119E0:M 11A01,11A06:M 11A09,11A0A:M 11A33,11A38:M 11A3B,11A3E:M 11A47,11A47:M
11A51,11A56:M 11A59,11A5B:M 11A8A,11A96:M 11A98,11A99:M 11B60,11B60:M 11B62,11B64:M
11B66,11B66:M 11C30,11C36:M 11C38,11C3D:M 11C92,11CA7:M 11CAA,11CB0:M 11CB2,11CB3:M
11CB5,11CB6:M 11D31,11D36:M 11D3A,11D3A:M 11D3C,11D3D:M 11D3F,11D45:M 11D47,11D47:M
11D90,11D91:M 11D95,11D95:M 11D97,11D97:M 11EF3,11EF4:M 11F00,11F01:M 11F36,11F3A:M
11F40,11F40:M 11F42,11F42:M 11F5A,11F5A:M 11FD5,11FDC:O 11FDD,11FE0:T 11FE1,11FF1:O
13440,13440:M 13447,13455:M 1611E,16129:M 1612D,1612F:M 16AF0,16AF4:M 16B30,16B36:M
16F4F,16F4F:M 16F8F,16F92:M 16FE2,16FE2:O 16FE4,16FE4:M 1BC9D,1BC9E:M 1BCA0,1BCA3:B
1CC00,1CCD5:O 1CCF0,1CCF9:E 1CCFA,1CCFC:O 1CD00,1CEB3:O 1CEBA,1CED0:O 1CEE0,1CEF0:O
1CF00,1CF2D:M 1CF30,1CF46:M 1D167,1D169:M 1D173,1D17A:B 1D17B,1D182:M 1D185,1D18B:M
1D1AA,1D1AD:M 1D1E9,1D1EA:O 1D200,1D241:O 1D242,1D244:M 1D245,1D245:O 1D250,1D28F:O
1D300,1D356:O 1D6C1,1D6C1:O 1D6DB,1D6DB:O 1D6FB,1D6FB:O 1D715,1D715:O 1D735,1D735:O
1D74F,1D74F:O 1D76F,1D76F:O 1D789,1D789:O 1D7A9,1D7A9:O 1D7C3,1D7C3:O 1D7CE,1D7FF:E
1DA00,1DA36:M 1DA3B,1DA6C:M 1DA75,1DA75:M 1DA84,1DA84:M 1DA9B,1DA9F:M 1DAA1,1DAAF:M
1DB00,1DBFF:O 1E000,1E006:M 1E008,1E018:M 1E01B,1E021:M 1E023,1E024:M 1E026,1E02A:M
1E08F,1E08F:M 1E130,1E136:M 1E2AE,1E2AE:M 1E2EC,1E2EF:M 1E2FF,1E2FF:T 1E4EC,1E4EF:M
1E5EE,1E5EF:M 1E6E3,1E6E3:M 1E6E6,1E6E6:M 1E6EE,1E6EF:M 1E6F5,1E6F5:M 1E800,1E8CF:R
1E8D0,1E8D6:M 1E8D7,1E943:R 1E944,1E94A:M 1E94B,1EC6F:R 1EC70,1ECBF:A 1ECC0,1ECFF:R
1ED00,1ED4F:A 1ED50,1EDFF:R 1EE00,1EEEF:A 1EEF0,1EEF1:O 1EEF2,1EEFF:A 1EF00,1EFFF:R
1F000,1F02B:O 1F030,1F093:O 1F0A0,1F0AE:O 1F0B1,1F0BF:O 1F0C1,1F0CF:O 1F0D1,1F0F5:O
1F100,1F10A:E 1F10B,1F10F:O 1F12F,1F12F:O 1F16A,1F16F:O 1F1AD,1F1AF:O 1F260,1F265:O
1F300,1F6EC:O 1F6F0,1F6FC:O 1F700,1F7EB:O 1F7F0,1F80B:O 1F810,1F847:O 1F850,1F859:O
1F860,1F887:O 1F890,1F8AD:O 1F8B0,1F8BB:O 1F8C0,1F8C1:O 1F8D0,1F8D8:O 1F900,1FA57:O
1FA60,1FA6D:O 1FA70,1FA7C:O 1FA80,1FAC6:O 1FAC8,1FB92:O 1FB94,1FBEF:O 1FBF0,1FBF9:E
1FBFA,1FBFA:O 1FFFE,1FFFF:B 2FFFE,2FFFF:B 3FFFE,3FFFF:B 4FFFE,4FFFF:B 5FFFE,5FFFF:B
6FFFE,6FFFF:B 7FFFE,7FFFF:B 8FFFE,8FFFF:B 9FFFE,9FFFF:B AFFFE,AFFFF:B BFFFE,BFFFF:B
CFFFE,CFFFF:B DFFFE,E00FF:B E0100,E01EF:M E01F0,E0FFF:B EFFFE,EFFFF:B FFFFE,FFFFF:B
10FFFE,10FFFF:B"

end TileFetch.Domain
