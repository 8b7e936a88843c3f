import TokenChain.Text.Spans

/-! # Marks

Characters that are written onto the one before them (Unicode 17, category M), and their combining
classes. Marks of different classes do not touch each other, so that their order does not matter;
marks of one class stay in the order in which they are written. A character that stands on its own
has class zero. -/

namespace TokenChain.Text

/-- The characters that are marks. -/
def markSpans : Spans Unit := Spans.ofText (fun _ => ()) "
300..36F 483..489 591..5BD 5BF 5C1..5C2 5C4..5C5 5C7 610..61A 64B..65F 670 6D6..6DC 6DF..6E4
6E7..6E8 6EA..6ED 711 730..74A 7A6..7B0 7EB..7F3 7FD 816..819 81B..823 825..827 829..82D 859..85B
897..89F 8CA..8E1 8E3..903 93A..93C 93E..94F 951..957 962..963 981..983 9BC 9BE..9C4 9C7..9C8
9CB..9CD 9D7 9E2..9E3 9FE A01..A03 A3C A3E..A42 A47..A48 A4B..A4D A51 A70..A71 A75 A81..A83 ABC
ABE..AC5 AC7..AC9 ACB..ACD AE2..AE3 AFA..AFF B01..B03 B3C B3E..B44 B47..B48 B4B..B4D B55..B57
B62..B63 B82 BBE..BC2 BC6..BC8 BCA..BCD BD7 C00..C04 C3C C3E..C44 C46..C48 C4A..C4D C55..C56
C62..C63 C81..C83 CBC CBE..CC4 CC6..CC8 CCA..CCD CD5..CD6 CE2..CE3 CF3 D00..D03 D3B..D3C D3E..D44
D46..D48 D4A..D4D D57 D62..D63 D81..D83 DCA DCF..DD4 DD6 DD8..DDF DF2..DF3 E31 E34..E3A E47..E4E
EB1 EB4..EBC EC8..ECE F18..F19 F35 F37 F39 F3E..F3F F71..F84 F86..F87 F8D..F97 F99..FBC FC6
102B..103E 1056..1059 105E..1060 1062..1064 1067..106D 1071..1074 1082..108D 108F 109A..109D
135D..135F 1712..1715 1732..1734 1752..1753 1772..1773 17B4..17D3 17DD 180B..180D 180F 1885..1886
18A9 1920..192B 1930..193B 1A17..1A1B 1A55..1A5E 1A60..1A7C 1A7F 1AB0..1ADD 1AE0..1AEB 1B00..1B04
1B34..1B44 1B6B..1B73 1B80..1B82 1BA1..1BAD 1BE6..1BF3 1C24..1C37 1CD0..1CD2 1CD4..1CE8 1CED 1CF4
1CF7..1CF9 1DC0..1DFF 20D0..20F0 2CEF..2CF1 2D7F 2DE0..2DFF 302A..302F 3099..309A A66F..A672
A674..A67D A69E..A69F A6F0..A6F1 A802 A806 A80B A823..A827 A82C A880..A881 A8B4..A8C5 A8E0..A8F1
A8FF A926..A92D A947..A953 A980..A983 A9B3..A9C0 A9E5 AA29..AA36 AA43 AA4C..AA4D AA7B..AA7D AAB0
AAB2..AAB4 AAB7..AAB8 AABE..AABF AAC1 AAEB..AAEF AAF5..AAF6 ABE3..ABEA ABEC..ABED FB1E FE00..FE0F
FE20..FE2F 101FD 102E0 10376..1037A 10A01..10A03 10A05..10A06 10A0C..10A0F 10A38..10A3A 10A3F
10AE5..10AE6 10D24..10D27 10D69..10D6D 10EAB..10EAC 10EFA..10EFF 10F46..10F50 10F82..10F85
11000..11002 11038..11046 11070 11073..11074 1107F..11082 110B0..110BA 110C2 11100..11102
11127..11134 11145..11146 11173 11180..11182 111B3..111C0 111C9..111CC 111CE..111CF 1122C..11237
1123E 11241 112DF..112EA 11300..11303 1133B..1133C 1133E..11344 11347..11348 1134B..1134D 11357
11362..11363 11366..1136C 11370..11374 113B8..113C0 113C2 113C5 113C7..113CA 113CC..113D0 113D2
113E1..113E2 11435..11446 1145E 114B0..114C3 115AF..115B5 115B8..115C0 115DC..115DD 11630..11640
116AB..116B7 1171D..1172B 1182C..1183A 11930..11935 11937..11938 1193B..1193E 11940 11942..11943
119D1..119D7 119DA..119E0 119E4 11A01..11A0A 11A33..11A39 11A3B..11A3E 11A47 11A51..11A5B
11A8A..11A99 11B60..11B67 11C2F..11C36 11C38..11C3F 11C92..11CA7 11CA9..11CB6 11D31..11D36 11D3A
11D3C..11D3D 11D3F..11D45 11D47 11D8A..11D8E 11D90..11D91 11D93..11D97 11EF3..11EF6 11F00..11F01
11F03 11F34..11F3A 11F3E..11F42 11F5A 13440 13447..13455 1611E..1612F 16AF0..16AF4 16B30..16B36
16F4F 16F51..16F87 16F8F..16F92 16FE4 16FF0..16FF1 1BC9D..1BC9E 1CF00..1CF2D 1CF30..1CF46
1D165..1D169 1D16D..1D172 1D17B..1D182 1D185..1D18B 1D1AA..1D1AD 1D242..1D244 1DA00..1DA36
1DA3B..1DA6C 1DA75 1DA84 1DA9B..1DA9F 1DAA1..1DAAF 1E000..1E006 1E008..1E018 1E01B..1E021
1E023..1E024 1E026..1E02A 1E08F 1E130..1E136 1E2AE 1E2EC..1E2EF 1E4EC..1E4EF 1E5EE..1E5EF 1E6E3
1E6E6 1E6EE..1E6EF 1E6F5 1E8D0..1E8D6 1E944..1E94A E0100..E01EF"

/-- The combining classes other than zero, in hexadecimal. -/
def combiningClasses : Spans Nat := Spans.ofText Digits.hexNumber "
300..314=E6 315=E8 316..319=DC 31A=E8 31B=D8 31C..320=DC 321..322=CA 323..326=DC 327..328=CA
329..333=DC 334..338=1 339..33C=DC 33D..33F=E6 342=E6 345=F0 346=E6 347..349=DC 34A..34C=E6
34D..34E=DC 350..352=E6 353..356=DC 357=E6 358=E8 359..35A=DC 35B=E6 35C=E9 35D..35E=EA 35F=E9
360..361=EA 362=E9 363..36F=E6 483..487=E6 591=DC 592..595=E6 596=DC 597..599=E6 59A=DE 59B=DC
59C..5A1=E6 5A2..5A7=DC 5A8..5A9=E6 5AA=DC 5AB..5AC=E6 5AD=DE 5AE=E4 5AF=E6 5B0=A 5B1=B 5B2=C
5B3=D 5B4=E 5B5=F 5B6=10 5B7=11 5B8=12 5B9..5BA=13 5BB=14 5BC=15 5BD=16 5BF=17 5C1=18 5C2=19
5C4=E6 5C5=DC 5C7=12 610..617=E6 618=1E 619=1F 61A=20 64B=1B 64C=1C 64D=1D 64E=1E 64F=1F 650=20
651=21 652=22 653..654=E6 655..656=DC 657..65B=E6 65C=DC 65D..65E=E6 65F=DC 670=23 6D6..6DC=E6
6DF..6E2=E6 6E3=DC 6E4=E6 6E7..6E8=E6 6EA=DC 6EB..6EC=E6 6ED=DC 711=24 730=E6 731=DC 732..733=E6
734=DC 735..736=E6 737..739=DC 73A=E6 73B..73C=DC 73D=E6 73E=DC 73F..741=E6 742=DC 743=E6 744=DC
745=E6 746=DC 747=E6 748=DC 749..74A=E6 7EB..7F1=E6 7F2=DC 7F3=E6 7FD=DC 816..819=E6 81B..823=E6
825..827=E6 829..82D=E6 859..85B=DC 897..898=E6 899..89B=DC 89C..89F=E6 8CA..8CE=E6 8CF..8D3=DC
8D4..8E1=E6 8E3=DC 8E4..8E5=E6 8E6=DC 8E7..8E8=E6 8E9=DC 8EA..8EC=E6 8ED..8EF=DC 8F0=1B 8F1=1C
8F2=1D 8F3..8F5=E6 8F6=DC 8F7..8F8=E6 8F9..8FA=DC 8FB..8FF=E6 93C=7 94D=9 951=E6 952=DC
953..954=E6 9BC=7 9CD=9 9FE=E6 A3C=7 A4D=9 ABC=7 ACD=9 B3C=7 B4D=9 BCD=9 C3C=7 C4D=9 C55=54 C56=5B
CBC=7 CCD=9 D3B..D3C=9 D4D=9 DCA=9 E38..E39=67 E3A=9 E48..E4B=6B EB8..EB9=76 EBA=9 EC8..ECB=7A
F18..F19=DC F35=DC F37=DC F39=D8 F71=81 F72=82 F74=84 F7A..F7D=82 F80=82 F82..F83=E6 F84=9
F86..F87=E6 FC6=DC 1037=7 1039..103A=9 108D=DC 135D..135F=E6 1714..1715=9 1734=9 17D2=9 17DD=E6
18A9=E4 1939=DE 193A=E6 193B=DC 1A17=E6 1A18=DC 1A60=9 1A75..1A7C=E6 1A7F=DC 1AB0..1AB4=E6
1AB5..1ABA=DC 1ABB..1ABC=E6 1ABD=DC 1ABF..1AC0=DC 1AC1..1AC2=E6 1AC3..1AC4=DC 1AC5..1AC9=E6
1ACA=DC 1ACB..1ADC=E6 1ADD=DC 1AE0..1AE5=E6 1AE6=DC 1AE7..1AEA=E6 1AEB=EA 1B34=7 1B44=9 1B6B=E6
1B6C=DC 1B6D..1B73=E6 1BAA..1BAB=9 1BE6=7 1BF2..1BF3=9 1C37=7 1CD0..1CD2=E6 1CD4=1 1CD5..1CD9=DC
1CDA..1CDB=E6 1CDC..1CDF=DC 1CE0=E6 1CE2..1CE8=1 1CED=DC 1CF4=E6 1CF8..1CF9=E6 1DC0..1DC1=E6
1DC2=DC 1DC3..1DC9=E6 1DCA=DC 1DCB..1DCC=E6 1DCD=EA 1DCE=D6 1DCF=DC 1DD0=CA 1DD1..1DF5=E6 1DF6=E8
1DF7..1DF8=E4 1DF9=DC 1DFA=DA 1DFB=E6 1DFC=E9 1DFD=DC 1DFE=E6 1DFF=DC 20D0..20D1=E6 20D2..20D3=1
20D4..20D7=E6 20D8..20DA=1 20DB..20DC=E6 20E1=E6 20E5..20E6=1 20E7=E6 20E8=DC 20E9=E6 20EA..20EB=1
20EC..20EF=DC 20F0=E6 2CEF..2CF1=E6 2D7F=9 2DE0..2DFF=E6 302A=DA 302B=E4 302C=E8 302D=DE
302E..302F=E0 3099..309A=8 A66F=E6 A674..A67D=E6 A69E..A69F=E6 A6F0..A6F1=E6 A806=9 A82C=9 A8C4=9
A8E0..A8F1=E6 A92B..A92D=DC A953=9 A9B3=7 A9C0=9 AAB0=E6 AAB2..AAB3=E6 AAB4=DC AAB7..AAB8=E6
AABE..AABF=E6 AAC1=E6 AAF6=9 ABED=9 FB1E=1A FE20..FE26=E6 FE27..FE2D=DC FE2E..FE2F=E6 101FD=DC
102E0=DC 10376..1037A=E6 10A0D=DC 10A0F=E6 10A38=E6 10A39=1 10A3A=DC 10A3F=9 10AE5=E6 10AE6=DC
10D24..10D27=E6 10D69..10D6D=E6 10EAB..10EAC=E6 10EFA..10EFB=DC 10EFD..10EFF=DC 10F46..10F47=DC
10F48..10F4A=E6 10F4B=DC 10F4C=E6 10F4D..10F50=DC 10F82=E6 10F83=DC 10F84=E6 10F85=DC 11046=9
11070=9 1107F=9 110B9=9 110BA=7 11100..11102=E6 11133..11134=9 11173=7 111C0=9 111CA=7 11235=9
11236=7 112E9=7 112EA=9 1133B..1133C=7 1134D=9 11366..1136C=E6 11370..11374=E6 113CE..113D0=9
11442=9 11446=7 1145E=E6 114C2=9 114C3=7 115BF=9 115C0=7 1163F=9 116B6=9 116B7=7 1172B=9 11839=9
1183A=7 1193D..1193E=9 11943=7 119E0=9 11A34=9 11A47=9 11A99=9 11C3F=9 11D42=7 11D44..11D45=9
11D97=9 11F41..11F42=9 1612F=9 16AF0..16AF4=1 16B30..16B36=E6 16FF0..16FF1=6 1BC9E=1
1D165..1D166=D8 1D167..1D169=1 1D16D=E2 1D16E..1D172=D8 1D17B..1D182=DC 1D185..1D189=E6
1D18A..1D18B=DC 1D1AA..1D1AD=E6 1D242..1D244=E6 1E000..1E006=E6 1E008..1E018=E6 1E01B..1E021=E6
1E023..1E024=E6 1E026..1E02A=E6 1E08F=E6 1E130..1E136=E6 1E2AE=E6 1E2EC..1E2EF=E6 1E4EC..1E4ED=E8
1E4EE=DC 1E4EF=E6 1E5EE=E6 1E5EF=DC 1E6E3=E6 1E6E6=E6 1E6EE..1E6EF=E6 1E6F5=E6 1E8D0..1E8D6=DC
1E944..1E949=E6 1E94A=7"

/-- Whether a character is a mark. -/
def isMark (c : Char) : Bool := markSpans.holds c

/-- The combining class of a character. -/
def combiningClass (c : Char) : Nat := (combiningClasses.at? c).getD 0

/-- Whether a character kills the vowel of an Indic syllable, so that the consonant joins the next
one. -/
def isVirama (c : Char) : Bool := combiningClass c == 9

end TokenChain.Text
