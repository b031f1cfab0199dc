import TreeWatch.Text.CodeSpan

/-!
# Scripts

Each code point belongs to at most one script. A script is listed with its names, in lower
case and without separators.
-/

namespace TreeWatch.Text

def scriptAdlam : List CodeSpan := CodeSpan.listOfText
  "1E900-1E94B 1E950-1E959 1E95E-1E95F"

def scriptCaucasianAlbanian : List CodeSpan := CodeSpan.listOfText
  "10530-10563 1056F"

def scriptAhom : List CodeSpan := CodeSpan.listOfText
  "11700-1171A 1171D-1172B 11730-11746"

def scriptArabic : List CodeSpan := CodeSpan.listOfText
  "0600-0604 0606-060B 060D-061A 061C-061E 0620-063F 0641-064A 0656-066F 0671-06DC 06DE-06FF
   0750-077F 0870-0891 0897-08E1 08E3-08FF FB50-FD3D FD40-FDCF FDF0-FDFF FE70-FE74 FE76-FEFC
   10E60-10E7E 10EC2-10EC7 10ED0-10ED8 10EFA-10EFF 1EE00-1EE03 1EE05-1EE1F 1EE21-1EE22 1EE24
   1EE27 1EE29-1EE32 1EE34-1EE37 1EE39 1EE3B 1EE42 1EE47 1EE49 1EE4B 1EE4D-1EE4F 1EE51-1EE52
   1EE54 1EE57 1EE59 1EE5B 1EE5D 1EE5F 1EE61-1EE62 1EE64 1EE67-1EE6A 1EE6C-1EE72 1EE74-1EE77
   1EE79-1EE7C 1EE7E 1EE80-1EE89 1EE8B-1EE9B 1EEA1-1EEA3 1EEA5-1EEA9 1EEAB-1EEBB 1EEF0-1EEF1"

def scriptImperialAramaic : List CodeSpan := CodeSpan.listOfText
  "10840-10855 10857-1085F"

def scriptArmenian : List CodeSpan := CodeSpan.listOfText
  "0531-0556 0559-058A 058D-058F FB13-FB17"

def scriptAvestan : List CodeSpan := CodeSpan.listOfText
  "10B00-10B35 10B39-10B3F"

def scriptBalinese : List CodeSpan := CodeSpan.listOfText
  "1B00-1B4C 1B4E-1B7F"

def scriptBamum : List CodeSpan := CodeSpan.listOfText
  "A6A0-A6F7 16800-16A38"

def scriptBassaVah : List CodeSpan := CodeSpan.listOfText
  "16AD0-16AED 16AF0-16AF5"

def scriptBatak : List CodeSpan := CodeSpan.listOfText
  "1BC0-1BF3 1BFC-1BFF"

def scriptBengali : List CodeSpan := CodeSpan.listOfText
  "0980-0983 0985-098C 098F-0990 0993-09A8 09AA-09B0 09B2 09B6-09B9 09BC-09C4 09C7-09C8
   09CB-09CE 09D7 09DC-09DD 09DF-09E3 09E6-09FE"

def scriptBhaiksuki : List CodeSpan := CodeSpan.listOfText
  "11C00-11C08 11C0A-11C36 11C38-11C45 11C50-11C6C"

def scriptBopomofo : List CodeSpan := CodeSpan.listOfText
  "02EA-02EB 3105-312F 31A0-31BF"

def scriptBrahmi : List CodeSpan := CodeSpan.listOfText
  "11000-1104D 11052-11075 1107F"

def scriptBraille : List CodeSpan := CodeSpan.listOfText
  "2800-28FF"

def scriptBuginese : List CodeSpan := CodeSpan.listOfText
  "1A00-1A1B 1A1E-1A1F"

def scriptBuhid : List CodeSpan := CodeSpan.listOfText
  "1740-1753"

def scriptChakma : List CodeSpan := CodeSpan.listOfText
  "11100-11134 11136-11147"

def scriptCanadianAboriginal : List CodeSpan := CodeSpan.listOfText
  "1400-167F 18B0-18F5 11AB0-11ABF"

def scriptCarian : List CodeSpan := CodeSpan.listOfText
  "102A0-102D0"

def scriptCham : List CodeSpan := CodeSpan.listOfText
  "AA00-AA36 AA40-AA4D AA50-AA59 AA5C-AA5F"

def scriptCherokee : List CodeSpan := CodeSpan.listOfText
  "13A0-13F5 13F8-13FD AB70-ABBF"

def scriptChorasmian : List CodeSpan := CodeSpan.listOfText
  "10FB0-10FCB"

def scriptCoptic : List CodeSpan := CodeSpan.listOfText
  "03E2-03EF 2C80-2CF3 2CF9-2CFF"

def scriptCyproMinoan : List CodeSpan := CodeSpan.listOfText
  "12F90-12FF2"

def scriptCypriot : List CodeSpan := CodeSpan.listOfText
  "10800-10805 10808 1080A-10835 10837-10838 1083C 1083F"

def scriptCyrillic : List CodeSpan := CodeSpan.listOfText
  "0400-0484 0487-052F 1C80-1C8A 1D2B 1D78 2DE0-2DFF A640-A69F FE2E-FE2F 1E030-1E06D 1E08F"

def scriptDevanagari : List CodeSpan := CodeSpan.listOfText
  "0900-0950 0955-0963 0966-097F A8E0-A8FF 11B00-11B09"

def scriptDivesAkuru : List CodeSpan := CodeSpan.listOfText
  "11900-11906 11909 1190C-11913 11915-11916 11918-11935 11937-11938 1193B-11946 11950-11959"

def scriptDogra : List CodeSpan := CodeSpan.listOfText
  "11800-1183B"

def scriptDeseret : List CodeSpan := CodeSpan.listOfText
  "10400-1044F"

def scriptDuployan : List CodeSpan := CodeSpan.listOfText
  "1BC00-1BC6A 1BC70-1BC7C 1BC80-1BC88 1BC90-1BC99 1BC9C-1BC9F"

def scriptEgyptianHieroglyphs : List CodeSpan := CodeSpan.listOfText
  "13000-13455 13460-143FA"

def scriptElbasan : List CodeSpan := CodeSpan.listOfText
  "10500-10527"

def scriptElymaic : List CodeSpan := CodeSpan.listOfText
  "10FE0-10FF6"

def scriptEthiopic : List CodeSpan := CodeSpan.listOfText
  "1200-1248 124A-124D 1250-1256 1258 125A-125D 1260-1288 128A-128D 1290-12B0 12B2-12B5
   12B8-12BE 12C0 12C2-12C5 12C8-12D6 12D8-1310 1312-1315 1318-135A 135D-137C 1380-1399
   2D80-2D96 2DA0-2DA6 2DA8-2DAE 2DB0-2DB6 2DB8-2DBE 2DC0-2DC6 2DC8-2DCE 2DD0-2DD6 2DD8-2DDE
   AB01-AB06 AB09-AB0E AB11-AB16 AB20-AB26 AB28-AB2E 1E7E0-1E7E6 1E7E8-1E7EB 1E7ED-1E7EE
   1E7F0-1E7FE"

def scriptGeorgian : List CodeSpan := CodeSpan.listOfText
  "10A0-10C5 10C7 10CD 10D0-10FA 10FC-10FF 1C90-1CBA 1CBD-1CBF 2D00-2D25 2D27 2D2D"

def scriptGlagolitic : List CodeSpan := CodeSpan.listOfText
  "2C00-2C5F 1E000-1E006 1E008-1E018 1E01B-1E021 1E023-1E024 1E026-1E02A"

def scriptGunjalaGondi : List CodeSpan := CodeSpan.listOfText
  "11D60-11D65 11D67-11D68 11D6A-11D8E 11D90-11D91 11D93-11D98 11DA0-11DA9"

def scriptMasaramGondi : List CodeSpan := CodeSpan.listOfText
  "11D00-11D06 11D08-11D09 11D0B-11D36 11D3A 11D3C-11D3D 11D3F-11D47 11D50-11D59"

def scriptGothic : List CodeSpan := CodeSpan.listOfText
  "10330-1034A"

def scriptGrantha : List CodeSpan := CodeSpan.listOfText
  "11300-11303 11305-1130C 1130F-11310 11313-11328 1132A-11330 11332-11333 11335-11339
   1133C-11344 11347-11348 1134B-1134D 11350 11357 1135D-11363 11366-1136C 11370-11374"

def scriptGreek : List CodeSpan := CodeSpan.listOfText
  "0370-0373 0375-0377 037A-037D 037F 0384 0386 0388-038A 038C 038E-03A1 03A3-03E1 03F0-03FF
   1D26-1D2A 1D5D-1D61 1D66-1D6A 1DBF 1F00-1F15 1F18-1F1D 1F20-1F45 1F48-1F4D 1F50-1F57 1F59
   1F5B 1F5D 1F5F-1F7D 1F80-1FB4 1FB6-1FC4 1FC6-1FD3 1FD6-1FDB 1FDD-1FEF 1FF2-1FF4 1FF6-1FFE
   2126 AB65 10140-1018E 101A0 1D200-1D245"

def scriptGujarati : List CodeSpan := CodeSpan.listOfText
  "0A81-0A83 0A85-0A8D 0A8F-0A91 0A93-0AA8 0AAA-0AB0 0AB2-0AB3 0AB5-0AB9 0ABC-0AC5 0AC7-0AC9
   0ACB-0ACD 0AD0 0AE0-0AE3 0AE6-0AF1 0AF9-0AFF"

def scriptGurmukhi : List CodeSpan := CodeSpan.listOfText
  "0A01-0A03 0A05-0A0A 0A0F-0A10 0A13-0A28 0A2A-0A30 0A32-0A33 0A35-0A36 0A38-0A39 0A3C
   0A3E-0A42 0A47-0A48 0A4B-0A4D 0A51 0A59-0A5C 0A5E 0A66-0A76"

def scriptHangul : List CodeSpan := CodeSpan.listOfText
  "1100-11FF 302E-302F 3131-318E 3200-321E 3260-327E A960-A97C AC00-D7A3 D7B0-D7C6 D7CB-D7FB
   FFA0-FFBE FFC2-FFC7 FFCA-FFCF FFD2-FFD7 FFDA-FFDC"

def scriptHan : List CodeSpan := CodeSpan.listOfText
  "2E80-2E99 2E9B-2EF3 2F00-2FD5 3005 3007 3021-3029 3038-303B 3400-4DBF 4E00-9FFF F900-FA6D
   FA70-FAD9 16FE2-16FE3 16FF0-16FF6 20000-2A6DF 2A700-2B81D 2B820-2CEAD 2CEB0-2EBE0
   2EBF0-2EE5D 2F800-2FA1D 30000-3134A 31350-33479"

def scriptHanunoo : List CodeSpan := CodeSpan.listOfText
  "1720-1734"

def scriptHatran : List CodeSpan := CodeSpan.listOfText
  "108E0-108F2 108F4-108F5 108FB-108FF"

def scriptHebrew : List CodeSpan := CodeSpan.listOfText
  "0591-05C7 05D0-05EA 05EF-05F4 FB1D-FB36 FB38-FB3C FB3E FB40-FB41 FB43-FB44 FB46-FB4F"

def scriptHiragana : List CodeSpan := CodeSpan.listOfText
  "3041-3096 309D-309F 1B001-1B11F 1B132 1B150-1B152 1F200"

def scriptAnatolianHieroglyphs : List CodeSpan := CodeSpan.listOfText
  "14400-14646"

def scriptPahawhHmong : List CodeSpan := CodeSpan.listOfText
  "16B00-16B45 16B50-16B59 16B5B-16B61 16B63-16B77 16B7D-16B8F"

def scriptNyiakengPuachueHmong : List CodeSpan := CodeSpan.listOfText
  "1E100-1E12C 1E130-1E13D 1E140-1E149 1E14E-1E14F"

def scriptOldHungarian : List CodeSpan := CodeSpan.listOfText
  "10C80-10CB2 10CC0-10CF2 10CFA-10CFF"

def scriptOldItalic : List CodeSpan := CodeSpan.listOfText
  "10300-10323 1032D-1032F"

def scriptJavanese : List CodeSpan := CodeSpan.listOfText
  "A980-A9CD A9D0-A9D9 A9DE-A9DF"

def scriptKayahLi : List CodeSpan := CodeSpan.listOfText
  "A900-A92D A92F"

def scriptKatakana : List CodeSpan := CodeSpan.listOfText
  "30A1-30FA 30FD-30FF 31F0-31FF 32D0-32FE 3300-3357 FF66-FF6F FF71-FF9D 1AFF0-1AFF3
   1AFF5-1AFFB 1AFFD-1AFFE 1B000 1B120-1B122 1B155 1B164-1B167"

def scriptKawi : List CodeSpan := CodeSpan.listOfText
  "11F00-11F10 11F12-11F3A 11F3E-11F5A"

def scriptKharoshthi : List CodeSpan := CodeSpan.listOfText
  "10A00-10A03 10A05-10A06 10A0C-10A13 10A15-10A17 10A19-10A35 10A38-10A3A 10A3F-10A48
   10A50-10A58"

def scriptKhmer : List CodeSpan := CodeSpan.listOfText
  "1780-17DD 17E0-17E9 17F0-17F9 19E0-19FF"

def scriptKhojki : List CodeSpan := CodeSpan.listOfText
  "11200-11211 11213-11241"

def scriptKhitanSmallScript : List CodeSpan := CodeSpan.listOfText
  "16FE4 18B00-18CD5 18CFF"

def scriptKannada : List CodeSpan := CodeSpan.listOfText
  "0C80-0C8C 0C8E-0C90 0C92-0CA8 0CAA-0CB3 0CB5-0CB9 0CBC-0CC4 0CC6-0CC8 0CCA-0CCD 0CD5-0CD6
   0CDC-0CDE 0CE0-0CE3 0CE6-0CEF 0CF1-0CF3"

def scriptKaithi : List CodeSpan := CodeSpan.listOfText
  "11080-110C2 110CD"

def scriptTaiTham : List CodeSpan := CodeSpan.listOfText
  "1A20-1A5E 1A60-1A7C 1A7F-1A89 1A90-1A99 1AA0-1AAD"

def scriptLao : List CodeSpan := CodeSpan.listOfText
  "0E81-0E82 0E84 0E86-0E8A 0E8C-0EA3 0EA5 0EA7-0EBD 0EC0-0EC4 0EC6 0EC8-0ECE 0ED0-0ED9
   0EDC-0EDF"

def scriptLatin : List CodeSpan := CodeSpan.listOfText
  "0041-005A 0061-007A 00AA 00BA 00C0-00D6 00D8-00F6 00F8-02B8 02E0-02E4 1D00-1D25 1D2C-1D5C
   1D62-1D65 1D6B-1D77 1D79-1DBE 1E00-1EFF 2071 207F 2090-209C 212A-212B 2132 214E 2160-2188
   2C60-2C7F A722-A787 A78B-A7DC A7F1-A7FF AB30-AB5A AB5C-AB64 AB66-AB69 FB00-FB06 FF21-FF3A
   FF41-FF5A 10780-10785 10787-107B0 107B2-107BA 1DF00-1DF1E 1DF25-1DF2A"

def scriptLepcha : List CodeSpan := CodeSpan.listOfText
  "1C00-1C37 1C3B-1C49 1C4D-1C4F"

def scriptLimbu : List CodeSpan := CodeSpan.listOfText
  "1900-191E 1920-192B 1930-193B 1940 1944-194F"

def scriptLinearA : List CodeSpan := CodeSpan.listOfText
  "10600-10736 10740-10755 10760-10767"

def scriptLinearB : List CodeSpan := CodeSpan.listOfText
  "10000-1000B 1000D-10026 10028-1003A 1003C-1003D 1003F-1004D 10050-1005D 10080-100FA"

def scriptLisu : List CodeSpan := CodeSpan.listOfText
  "A4D0-A4FF 11FB0"

def scriptLycian : List CodeSpan := CodeSpan.listOfText
  "10280-1029C"

def scriptLydian : List CodeSpan := CodeSpan.listOfText
  "10920-10939 1093F"

def scriptMahajani : List CodeSpan := CodeSpan.listOfText
  "11150-11176"

def scriptMakasar : List CodeSpan := CodeSpan.listOfText
  "11EE0-11EF8"

def scriptMandaic : List CodeSpan := CodeSpan.listOfText
  "0840-085B 085E"

def scriptManichaean : List CodeSpan := CodeSpan.listOfText
  "10AC0-10AE6 10AEB-10AF6"

def scriptMarchen : List CodeSpan := CodeSpan.listOfText
  "11C70-11C8F 11C92-11CA7 11CA9-11CB6"

def scriptMedefaidrin : List CodeSpan := CodeSpan.listOfText
  "16E40-16E9A"

def scriptMendeKikakui : List CodeSpan := CodeSpan.listOfText
  "1E800-1E8C4 1E8C7-1E8D6"

def scriptMeroiticCursive : List CodeSpan := CodeSpan.listOfText
  "109A0-109B7 109BC-109CF 109D2-109FF"

def scriptMeroiticHieroglyphs : List CodeSpan := CodeSpan.listOfText
  "10980-1099F"

def scriptMalayalam : List CodeSpan := CodeSpan.listOfText
  "0D00-0D0C 0D0E-0D10 0D12-0D44 0D46-0D48 0D4A-0D4F 0D54-0D63 0D66-0D7F"

def scriptModi : List CodeSpan := CodeSpan.listOfText
  "11600-11644 11650-11659"

def scriptMongolian : List CodeSpan := CodeSpan.listOfText
  "1800-1801 1804 1806-1819 1820-1878 1880-18AA 11660-1166C"

def scriptMro : List CodeSpan := CodeSpan.listOfText
  "16A40-16A5E 16A60-16A69 16A6E-16A6F"

def scriptMeeteiMayek : List CodeSpan := CodeSpan.listOfText
  "AAE0-AAF6 ABC0-ABED ABF0-ABF9"

def scriptMultani : List CodeSpan := CodeSpan.listOfText
  "11280-11286 11288 1128A-1128D 1128F-1129D 1129F-112A9"

def scriptMyanmar : List CodeSpan := CodeSpan.listOfText
  "1000-109F A9E0-A9FE AA60-AA7F 116D0-116E3"

def scriptNagMundari : List CodeSpan := CodeSpan.listOfText
  "1E4D0-1E4F9"

def scriptNandinagari : List CodeSpan := CodeSpan.listOfText
  "119A0-119A7 119AA-119D7 119DA-119E4"

def scriptOldNorthArabian : List CodeSpan := CodeSpan.listOfText
  "10A80-10A9F"

def scriptNabataean : List CodeSpan := CodeSpan.listOfText
  "10880-1089E 108A7-108AF"

def scriptNewa : List CodeSpan := CodeSpan.listOfText
  "11400-1145B 1145D-11461"

def scriptNko : List CodeSpan := CodeSpan.listOfText
  "07C0-07FA 07FD-07FF"

def scriptNushu : List CodeSpan := CodeSpan.listOfText
  "16FE1 1B170-1B2FB"

def scriptOgham : List CodeSpan := CodeSpan.listOfText
  "1680-169C"

def scriptOlChiki : List CodeSpan := CodeSpan.listOfText
  "1C50-1C7F"

def scriptOldTurkic : List CodeSpan := CodeSpan.listOfText
  "10C00-10C48"

def scriptOriya : List CodeSpan := CodeSpan.listOfText
  "0B01-0B03 0B05-0B0C 0B0F-0B10 0B13-0B28 0B2A-0B30 0B32-0B33 0B35-0B39 0B3C-0B44 0B47-0B48
   0B4B-0B4D 0B55-0B57 0B5C-0B5D 0B5F-0B63 0B66-0B77"

def scriptOsage : List CodeSpan := CodeSpan.listOfText
  "104B0-104D3 104D8-104FB"

def scriptOsmanya : List CodeSpan := CodeSpan.listOfText
  "10480-1049D 104A0-104A9"

def scriptOldUyghur : List CodeSpan := CodeSpan.listOfText
  "10F70-10F89"

def scriptPalmyrene : List CodeSpan := CodeSpan.listOfText
  "10860-1087F"

def scriptPauCinHau : List CodeSpan := CodeSpan.listOfText
  "11AC0-11AF8"

def scriptOldPermic : List CodeSpan := CodeSpan.listOfText
  "10350-1037A"

def scriptPhagsPa : List CodeSpan := CodeSpan.listOfText
  "A840-A877"

def scriptInscriptionalPahlavi : List CodeSpan := CodeSpan.listOfText
  "10B60-10B72 10B78-10B7F"

def scriptPsalterPahlavi : List CodeSpan := CodeSpan.listOfText
  "10B80-10B91 10B99-10B9C 10BA9-10BAF"

def scriptPhoenician : List CodeSpan := CodeSpan.listOfText
  "10900-1091B 1091F"

def scriptMiao : List CodeSpan := CodeSpan.listOfText
  "16F00-16F4A 16F4F-16F87 16F8F-16F9F"

def scriptInscriptionalParthian : List CodeSpan := CodeSpan.listOfText
  "10B40-10B55 10B58-10B5F"

def scriptRejang : List CodeSpan := CodeSpan.listOfText
  "A930-A953 A95F"

def scriptHanifiRohingya : List CodeSpan := CodeSpan.listOfText
  "10D00-10D27 10D30-10D39"

def scriptRunic : List CodeSpan := CodeSpan.listOfText
  "16A0-16EA 16EE-16F8"

def scriptSamaritan : List CodeSpan := CodeSpan.listOfText
  "0800-082D 0830-083E"

def scriptOldSouthArabian : List CodeSpan := CodeSpan.listOfText
  "10A60-10A7F"

def scriptSaurashtra : List CodeSpan := CodeSpan.listOfText
  "A880-A8C5 A8CE-A8D9"

def scriptSignwriting : List CodeSpan := CodeSpan.listOfText
  "1D800-1DA8B 1DA9B-1DA9F 1DAA1-1DAAF"

def scriptShavian : List CodeSpan := CodeSpan.listOfText
  "10450-1047F"

def scriptSharada : List CodeSpan := CodeSpan.listOfText
  "11180-111DF 11B60-11B67"

def scriptSiddham : List CodeSpan := CodeSpan.listOfText
  "11580-115B5 115B8-115DD"

def scriptKhudawadi : List CodeSpan := CodeSpan.listOfText
  "112B0-112EA 112F0-112F9"

def scriptSinhala : List CodeSpan := CodeSpan.listOfText
  "0D81-0D83 0D85-0D96 0D9A-0DB1 0DB3-0DBB 0DBD 0DC0-0DC6 0DCA 0DCF-0DD4 0DD6 0DD8-0DDF
   0DE6-0DEF 0DF2-0DF4 111E1-111F4"

def scriptSogdian : List CodeSpan := CodeSpan.listOfText
  "10F30-10F59"

def scriptOldSogdian : List CodeSpan := CodeSpan.listOfText
  "10F00-10F27"

def scriptSoraSompeng : List CodeSpan := CodeSpan.listOfText
  "110D0-110E8 110F0-110F9"

def scriptSoyombo : List CodeSpan := CodeSpan.listOfText
  "11A50-11AA2"

def scriptSundanese : List CodeSpan := CodeSpan.listOfText
  "1B80-1BBF 1CC0-1CC7"

def scriptSylotiNagri : List CodeSpan := CodeSpan.listOfText
  "A800-A82C"

def scriptSyriac : List CodeSpan := CodeSpan.listOfText
  "0700-070D 070F-074A 074D-074F 0860-086A"

def scriptTagbanwa : List CodeSpan := CodeSpan.listOfText
  "1760-176C 176E-1770 1772-1773"

def scriptTakri : List CodeSpan := CodeSpan.listOfText
  "11680-116B9 116C0-116C9"

def scriptTaiLe : List CodeSpan := CodeSpan.listOfText
  "1950-196D 1970-1974"

def scriptNewTaiLue : List CodeSpan := CodeSpan.listOfText
  "1980-19AB 19B0-19C9 19D0-19DA 19DE-19DF"

def scriptTamil : List CodeSpan := CodeSpan.listOfText
  "0B82-0B83 0B85-0B8A 0B8E-0B90 0B92-0B95 0B99-0B9A 0B9C 0B9E-0B9F 0BA3-0BA4 0BA8-0BAA
   0BAE-0BB9 0BBE-0BC2 0BC6-0BC8 0BCA-0BCD 0BD0 0BD7 0BE6-0BFA 11FC0-11FF1 11FFF"

def scriptTangut : List CodeSpan := CodeSpan.listOfText
  "16FE0 17000-18AFF 18D00-18D1E 18D80-18DF2"

def scriptTaiViet : List CodeSpan := CodeSpan.listOfText
  "AA80-AAC2 AADB-AADF"

def scriptTelugu : List CodeSpan := CodeSpan.listOfText
  "0C00-0C0C 0C0E-0C10 0C12-0C28 0C2A-0C39 0C3C-0C44 0C46-0C48 0C4A-0C4D 0C55-0C56 0C58-0C5A
   0C5C-0C5D 0C60-0C63 0C66-0C6F 0C77-0C7F"

def scriptTifinagh : List CodeSpan := CodeSpan.listOfText
  "2D30-2D67 2D6F-2D70 2D7F"

def scriptTagalog : List CodeSpan := CodeSpan.listOfText
  "1700-1715 171F"

def scriptThaana : List CodeSpan := CodeSpan.listOfText
  "0780-07B1"

def scriptThai : List CodeSpan := CodeSpan.listOfText
  "0E01-0E3A 0E40-0E5B"

def scriptTibetan : List CodeSpan := CodeSpan.listOfText
  "0F00-0F47 0F49-0F6C 0F71-0F97 0F99-0FBC 0FBE-0FCC 0FCE-0FD4 0FD9-0FDA"

def scriptTirhuta : List CodeSpan := CodeSpan.listOfText
  "11480-114C7 114D0-114D9"

def scriptTangsa : List CodeSpan := CodeSpan.listOfText
  "16A70-16ABE 16AC0-16AC9"

def scriptToto : List CodeSpan := CodeSpan.listOfText
  "1E290-1E2AE"

def scriptUgaritic : List CodeSpan := CodeSpan.listOfText
  "10380-1039D 1039F"

def scriptVai : List CodeSpan := CodeSpan.listOfText
  "A500-A62B"

def scriptVithkuqi : List CodeSpan := CodeSpan.listOfText
  "10570-1057A 1057C-1058A 1058C-10592 10594-10595 10597-105A1 105A3-105B1 105B3-105B9
   105BB-105BC"

def scriptWarangCiti : List CodeSpan := CodeSpan.listOfText
  "118A0-118F2 118FF"

def scriptWancho : List CodeSpan := CodeSpan.listOfText
  "1E2C0-1E2F9 1E2FF"

def scriptOldPersian : List CodeSpan := CodeSpan.listOfText
  "103A0-103C3 103C8-103D5"

def scriptCuneiform : List CodeSpan := CodeSpan.listOfText
  "12000-12399 12400-1246E 12470-12474 12480-12543"

def scriptYezidi : List CodeSpan := CodeSpan.listOfText
  "10E80-10EA9 10EAB-10EAD 10EB0-10EB1"

def scriptYi : List CodeSpan := CodeSpan.listOfText
  "A000-A48C A490-A4C6"

def scriptZanabazarSquare : List CodeSpan := CodeSpan.listOfText
  "11A00-11A47"

def scriptInherited : List CodeSpan := CodeSpan.listOfText
  "0300-036F 0485-0486 064B-0655 0670 0951-0954 1AB0-1ADD 1AE0-1AEB 1CD0-1CD2 1CD4-1CE0
   1CE2-1CE8 1CED 1CF4 1CF8-1CF9 1DC0-1DFF 200C-200D 20D0-20F0 302A-302D 3099-309A FE00-FE0F
   FE20-FE2D 101FD 102E0 1133B 1CF00-1CF2D 1CF30-1CF46 1D167-1D169 1D17B-1D182 1D185-1D18B
   1D1AA-1D1AD E0100-E01EF"

def scriptCommon : List CodeSpan := CodeSpan.listOfText
  "0000-0040 005B-0060 007B-00A9 00AB-00B9 00BB-00BF 00D7 00F7 02B9-02DF 02E5-02E9 02EC-02FF
   0374 037E 0385 0387 0605 060C 061B 061F 0640 06DD 08E2 0964-0965 0E3F 0FD5-0FD8 10FB
   16EB-16ED 1735-1736 1802-1803 1805 1CD3 1CE1 1CE9-1CEC 1CEE-1CF3 1CF5-1CF7 1CFA 2000-200B
   200E-2064 2066-2070 2074-207E 2080-208E 20A0-20C1 2100-2125 2127-2129 212C-2131 2133-214D
   214F-215F 2189-218B 2190-2429 2440-244A 2460-27FF 2900-2B73 2B76-2BFF 2E00-2E5D 2FF0-3004
   3006 3008-3020 3030-3037 303C-303F 309B-309C 30A0 30FB-30FC 3190-319F 31C0-31E5 31EF
   3220-325F 327F-32CF 32FF 3358-33FF 4DC0-4DFF A700-A721 A788-A78A A830-A839 A92E A9CF AB5B
   AB6A-AB6B FD3E-FD3F FE10-FE19 FE30-FE52 FE54-FE66 FE68-FE6B FEFF FF01-FF20 FF3B-FF40
   FF5B-FF65 FF70 FF9E-FF9F FFE0-FFE6 FFE8-FFEE FFF9-FFFD 10100-10102 10107-10133 10137-1013F
   10190-1019C 101D0-101FC 102E1-102FB 1BCA0-1BCA3 1CC00-1CCFC 1CD00-1CEB3 1CEBA-1CED0
   1CEE0-1CEF0 1CF50-1CFC3 1D000-1D0F5 1D100-1D126 1D129-1D166 1D16A-1D17A 1D183-1D184
   1D18C-1D1A9 1D1AE-1D1EA 1D2C0-1D2D3 1D2E0-1D2F3 1D300-1D356 1D360-1D378 1D400-1D454
   1D456-1D49C 1D49E-1D49F 1D4A2 1D4A5-1D4A6 1D4A9-1D4AC 1D4AE-1D4B9 1D4BB 1D4BD-1D4C3
   1D4C5-1D505 1D507-1D50A 1D50D-1D514 1D516-1D51C 1D51E-1D539 1D53B-1D53E 1D540-1D544 1D546
   1D54A-1D550 1D552-1D6A5 1D6A8-1D7CB 1D7CE-1D7FF 1EC71-1ECB4 1ED01-1ED3D 1F000-1F02B
   1F030-1F093 1F0A0-1F0AE 1F0B1-1F0BF 1F0C1-1F0CF 1F0D1-1F0F5 1F100-1F1AD 1F1E6-1F1FF
   1F201-1F202 1F210-1F23B 1F240-1F248 1F250-1F251 1F260-1F265 1F300-1F6D8 1F6DC-1F6EC
   1F6F0-1F6FC 1F700-1F7D9 1F7E0-1F7EB 1F7F0 1F800-1F80B 1F810-1F847 1F850-1F859 1F860-1F887
   1F890-1F8AD 1F8B0-1F8BB 1F8C0-1F8C1 1F8D0-1F8D8 1F900-1FA57 1FA60-1FA6D 1FA70-1FA7C
   1FA80-1FA8A 1FA8E-1FAC6 1FAC8 1FACD-1FADC 1FADF-1FAEA 1FAEF-1FAF8 1FB00-1FB92 1FB94-1FBFA
   E0001 E0020-E007F"

def scriptUnknown : List CodeSpan := CodeSpan.listOfText
  "0378-0379 0380-0383 038B 038D 03A2 0530 0557-0558 058B-058C 0590 05C8-05CF 05EB-05EE
   05F5-05FF 070E 074B-074C 07B2-07BF 07FB-07FC 082E-082F 083F 085C-085D 085F 086B-086F
   0892-0896 0984 098D-098E 0991-0992 09A9 09B1 09B3-09B5 09BA-09BB 09C5-09C6 09C9-09CA
   09CF-09D6 09D8-09DB 09DE 09E4-09E5 09FF-0A00 0A04 0A0B-0A0E 0A11-0A12 0A29 0A31 0A34 0A37
   0A3A-0A3B 0A3D 0A43-0A46 0A49-0A4A 0A4E-0A50 0A52-0A58 0A5D 0A5F-0A65 0A77-0A80 0A84 0A8E
   0A92 0AA9 0AB1 0AB4 0ABA-0ABB 0AC6 0ACA 0ACE-0ACF 0AD1-0ADF 0AE4-0AE5 0AF2-0AF8 0B00 0B04
   0B0D-0B0E 0B11-0B12 0B29 0B31 0B34 0B3A-0B3B 0B45-0B46 0B49-0B4A 0B4E-0B54 0B58-0B5B 0B5E
   0B64-0B65 0B78-0B81 0B84 0B8B-0B8D 0B91 0B96-0B98 0B9B 0B9D 0BA0-0BA2 0BA5-0BA7 0BAB-0BAD
   0BBA-0BBD 0BC3-0BC5 0BC9 0BCE-0BCF 0BD1-0BD6 0BD8-0BE5 0BFB-0BFF 0C0D 0C11 0C29 0C3A-0C3B
   0C45 0C49 0C4E-0C54 0C57 0C5B 0C5E-0C5F 0C64-0C65 0C70-0C76 0C8D 0C91 0CA9 0CB4 0CBA-0CBB
   0CC5 0CC9 0CCE-0CD4 0CD7-0CDB 0CDF 0CE4-0CE5 0CF0 0CF4-0CFF 0D0D 0D11 0D45 0D49 0D50-0D53
   0D64-0D65 0D80 0D84 0D97-0D99 0DB2 0DBC 0DBE-0DBF 0DC7-0DC9 0DCB-0DCE 0DD5 0DD7 0DE0-0DE5
   0DF0-0DF1 0DF5-0E00 0E3B-0E3E 0E5C-0E80 0E83 0E85 0E8B 0EA4 0EA6 0EBE-0EBF 0EC5 0EC7 0ECF
   0EDA-0EDB 0EE0-0EFF 0F48 0F6D-0F70 0F98 0FBD 0FCD 0FDB-0FFF 10C6 10C8-10CC 10CE-10CF 1249
   124E-124F 1257 1259 125E-125F 1289 128E-128F 12B1 12B6-12B7 12BF 12C1 12C6-12C7 12D7 1311
   1316-1317 135B-135C 137D-137F 139A-139F 13F6-13F7 13FE-13FF 169D-169F 16F9-16FF 1716-171E
   1737-173F 1754-175F 176D 1771 1774-177F 17DE-17DF 17EA-17EF 17FA-17FF 181A-181F 1879-187F
   18AB-18AF 18F6-18FF 191F 192C-192F 193C-193F 1941-1943 196E-196F 1975-197F 19AC-19AF
   19CA-19CF 19DB-19DD 1A1C-1A1D 1A5F 1A7D-1A7E 1A8A-1A8F 1A9A-1A9F 1AAE-1AAF 1ADE-1ADF
   1AEC-1AFF 1B4D 1BF4-1BFB 1C38-1C3A 1C4A-1C4C 1C8B-1C8F 1CBB-1CBC 1CC8-1CCF 1CFB-1CFF
   1F16-1F17 1F1E-1F1F 1F46-1F47 1F4E-1F4F 1F58 1F5A 1F5C 1F5E 1F7E-1F7F 1FB5 1FC5 1FD4-1FD5
   1FDC 1FF0-1FF1 1FF5 1FFF 2065 2072-2073 208F 209D-209F 20C2-20CF 20F1-20FF 218C-218F
   242A-243F 244B-245F 2B74-2B75 2CF4-2CF8 2D26 2D28-2D2C 2D2E-2D2F 2D68-2D6E 2D71-2D7E
   2D97-2D9F 2DA7 2DAF 2DB7 2DBF 2DC7 2DCF 2DD7 2DDF 2E5E-2E7F 2E9A 2EF4-2EFF 2FD6-2FEF 3040
   3097-3098 3100-3104 3130 318F 31E6-31EE 321F A48D-A48F A4C7-A4CF A62C-A63F A6F8-A6FF
   A7DD-A7F0 A82D-A82F A83A-A83F A878-A87F A8C6-A8CD A8DA-A8DF A954-A95E A97D-A97F A9CE
   A9DA-A9DD A9FF AA37-AA3F AA4E-AA4F AA5A-AA5B AAC3-AADA AAF7-AB00 AB07-AB08 AB0F-AB10
   AB17-AB1F AB27 AB2F AB6C-AB6F ABEE-ABEF ABFA-ABFF D7A4-D7AF D7C7-D7CA D7FC-F8FF FA6E-FA6F
   FADA-FAFF FB07-FB12 FB18-FB1C FB37 FB3D FB3F FB42 FB45 FDD0-FDEF FE1A-FE1F FE53 FE67
   FE6C-FE6F FE75 FEFD-FEFE FF00 FFBF-FFC1 FFC8-FFC9 FFD0-FFD1 FFD8-FFD9 FFDD-FFDF FFE7
   FFEF-FFF8 FFFE-FFFF 1000C 10027 1003B 1003E 1004E-1004F 1005E-1007F 100FB-100FF 10103-10106
   10134-10136 1018F 1019D-1019F 101A1-101CF 101FE-1027F 1029D-1029F 102D1-102DF 102FC-102FF
   10324-1032C 1034B-1034F 1037B-1037F 1039E 103C4-103C7 103D6-103FF 1049E-1049F 104AA-104AF
   104D4-104D7 104FC-104FF 10528-1052F 10564-1056E 1057B 1058B 10593 10596 105A2 105B2 105BA
   105BD-105BF 105F4-105FF 10737-1073F 10756-1075F 10768-1077F 10786 107B1 107BB-107FF
   10806-10807 10809 10836 10839-1083B 1083D-1083E 10856 1089F-108A6 108B0-108DF 108F3
   108F6-108FA 1091C-1091E 1093A-1093E 1095A-1097F 109B8-109BB 109D0-109D1 10A04 10A07-10A0B
   10A14 10A18 10A36-10A37 10A3B-10A3E 10A49-10A4F 10A59-10A5F 10AA0-10ABF 10AE7-10AEA
   10AF7-10AFF 10B36-10B38 10B56-10B57 10B73-10B77 10B92-10B98 10B9D-10BA8 10BB0-10BFF
   10C49-10C7F 10CB3-10CBF 10CF3-10CF9 10D28-10D2F 10D3A-10D3F 10D66-10D68 10D86-10D8D
   10D90-10E5F 10E7F 10EAA 10EAE-10EAF 10EB2-10EC1 10EC8-10ECF 10ED9-10EF9 10F28-10F2F
   10F5A-10F6F 10F8A-10FAF 10FCC-10FDF 10FF7-10FFF 1104E-11051 11076-1107E 110C3-110CC
   110CE-110CF 110E9-110EF 110FA-110FF 11135 11148-1114F 11177-1117F 111E0 111F5-111FF 11212
   11242-1127F 11287 11289 1128E 1129E 112AA-112AF 112EB-112EF 112FA-112FF 11304 1130D-1130E
   11311-11312 11329 11331 11334 1133A 11345-11346 11349-1134A 1134E-1134F 11351-11356
   11358-1135C 11364-11365 1136D-1136F 11375-1137F 1138A 1138C-1138D 1138F 113B6 113C1
   113C3-113C4 113C6 113CB 113D6 113D9-113E0 113E3-113FF 1145C 11462-1147F 114C8-114CF
   114DA-1157F 115B6-115B7 115DE-115FF 11645-1164F 1165A-1165F 1166D-1167F 116BA-116BF
   116CA-116CF 116E4-116FF 1171B-1171C 1172C-1172F 11747-117FF 1183C-1189F 118F3-118FE
   11907-11908 1190A-1190B 11914 11917 11936 11939-1193A 11947-1194F 1195A-1199F 119A8-119A9
   119D8-119D9 119E5-119FF 11A48-11A4F 11AA3-11AAF 11AF9-11AFF 11B0A-11B5F 11B68-11BBF
   11BE2-11BEF 11BFA-11BFF 11C09 11C37 11C46-11C4F 11C6D-11C6F 11C90-11C91 11CA8 11CB7-11CFF
   11D07 11D0A 11D37-11D39 11D3B 11D3E 11D48-11D4F 11D5A-11D5F 11D66 11D69 11D8F 11D92
   11D99-11D9F 11DAA-11DAF 11DDC-11DDF 11DEA-11EDF 11EF9-11EFF 11F11 11F3B-11F3D 11F5B-11FAF
   11FB1-11FBF 11FF2-11FFE 1239A-123FF 1246F 12475-1247F 12544-12F8F 12FF3-12FFF 13456-1345F
   143FB-143FF 14647-160FF 1613A-167FF 16A39-16A3F 16A5F 16A6A-16A6D 16ABF 16ACA-16ACF
   16AEE-16AEF 16AF6-16AFF 16B46-16B4F 16B5A 16B62 16B78-16B7C 16B90-16D3F 16D7A-16E3F
   16E9B-16E9F 16EB9-16EBA 16ED4-16EFF 16F4B-16F4E 16F88-16F8E 16FA0-16FDF 16FE5-16FEF
   16FF7-16FFF 18CD6-18CFE 18D1F-18D7F 18DF3-1AFEF 1AFF4 1AFFC 1AFFF 1B123-1B131 1B133-1B14F
   1B153-1B154 1B156-1B163 1B168-1B16F 1B2FC-1BBFF 1BC6B-1BC6F 1BC7D-1BC7F 1BC89-1BC8F
   1BC9A-1BC9B 1BCA4-1CBFF 1CCFD-1CCFF 1CEB4-1CEB9 1CED1-1CEDF 1CEF1-1CEFF 1CF2E-1CF2F
   1CF47-1CF4F 1CFC4-1CFFF 1D0F6-1D0FF 1D127-1D128 1D1EB-1D1FF 1D246-1D2BF 1D2D4-1D2DF
   1D2F4-1D2FF 1D357-1D35F 1D379-1D3FF 1D455 1D49D 1D4A0-1D4A1 1D4A3-1D4A4 1D4A7-1D4A8 1D4AD
   1D4BA 1D4BC 1D4C4 1D506 1D50B-1D50C 1D515 1D51D 1D53A 1D53F 1D545 1D547-1D549 1D551
   1D6A6-1D6A7 1D7CC-1D7CD 1DA8C-1DA9A 1DAA0 1DAB0-1DEFF 1DF1F-1DF24 1DF2B-1DFFF 1E007
   1E019-1E01A 1E022 1E025 1E02B-1E02F 1E06E-1E08E 1E090-1E0FF 1E12D-1E12F 1E13E-1E13F
   1E14A-1E14D 1E150-1E28F 1E2AF-1E2BF 1E2FA-1E2FE 1E300-1E4CF 1E4FA-1E5CF 1E5FB-1E5FE
   1E600-1E6BF 1E6DF 1E6F6-1E6FD 1E700-1E7DF 1E7E7 1E7EC 1E7EF 1E7FF 1E8C5-1E8C6 1E8D7-1E8FF
   1E94C-1E94F 1E95A-1E95D 1E960-1EC70 1ECB5-1ED00 1ED3E-1EDFF 1EE04 1EE20 1EE23 1EE25-1EE26
   1EE28 1EE33 1EE38 1EE3A 1EE3C-1EE41 1EE43-1EE46 1EE48 1EE4A 1EE4C 1EE50 1EE53 1EE55-1EE56
   1EE58 1EE5A 1EE5C 1EE5E 1EE60 1EE63 1EE65-1EE66 1EE6B 1EE73 1EE78 1EE7D 1EE7F 1EE8A
   1EE9C-1EEA0 1EEA4 1EEAA 1EEBC-1EEEF 1EEF2-1EFFF 1F02C-1F02F 1F094-1F09F 1F0AF-1F0B0 1F0C0
   1F0D0 1F0F6-1F0FF 1F1AE-1F1E5 1F203-1F20F 1F23C-1F23F 1F249-1F24F 1F252-1F25F 1F266-1F2FF
   1F6D9-1F6DB 1F6ED-1F6EF 1F6FD-1F6FF 1F7DA-1F7DF 1F7EC-1F7EF 1F7F1-1F7FF 1F80C-1F80F
   1F848-1F84F 1F85A-1F85F 1F888-1F88F 1F8AE-1F8AF 1F8BC-1F8BF 1F8C2-1F8CF 1F8D9-1F8FF
   1FA58-1FA5F 1FA6E-1FA6F 1FA7D-1FA7F 1FA8B-1FA8D 1FAC7 1FAC9-1FACC 1FADD-1FADE 1FAEB-1FAEE
   1FAF9-1FAFF 1FB93 1FBFB-1FFFF 2A6E0-2A6FF 2B81E-2B81F 2CEAE-2CEAF 2EBE1-2EBEF 2EE5E-2F7FF
   2FA1E-2FFFF 3134B-3134F 3347A-E0000 E0002-E001F E0080-E00FF E01F0-10FFFF"

def scriptGaray : List CodeSpan := CodeSpan.listOfText
  "10D40-10D65 10D69-10D85 10D8E-10D8F"

def scriptGurungKhema : List CodeSpan := CodeSpan.listOfText
  "16100-16139"

def scriptKiratRai : List CodeSpan := CodeSpan.listOfText
  "16D40-16D79"

def scriptOlOnal : List CodeSpan := CodeSpan.listOfText
  "1E5D0-1E5FA 1E5FF"

def scriptSunuwar : List CodeSpan := CodeSpan.listOfText
  "11BC0-11BE1 11BF0-11BF9"

def scriptTodhri : List CodeSpan := CodeSpan.listOfText
  "105C0-105F3"

def scriptTuluTigalari : List CodeSpan := CodeSpan.listOfText
  "11380-11389 1138B 1138E 11390-113B5 113B7-113C0 113C2 113C5 113C7-113CA 113CC-113D5
   113D7-113D8 113E1-113E2"

def scriptBeriaErfe : List CodeSpan := CodeSpan.listOfText
  "16EA0-16EB8 16EBB-16ED3"

def scriptSidetic : List CodeSpan := CodeSpan.listOfText
  "10940-10959"

def scriptTaiYo : List CodeSpan := CodeSpan.listOfText
  "1E6C0-1E6DE 1E6E0-1E6F5 1E6FE-1E6FF"

def scriptTolongSiki : List CodeSpan := CodeSpan.listOfText
  "11DB0-11DDB 11DE0-11DE9"

def scriptTable : List (List String × List CodeSpan) :=
  [(["adlm", "adlam"], scriptAdlam),
   (["aghb", "caucasianalbanian"], scriptCaucasianAlbanian),
   (["ahom"], scriptAhom),
   (["arab", "arabic"], scriptArabic),
   (["armi", "imperialaramaic"], scriptImperialAramaic),
   (["armn", "armenian"], scriptArmenian),
   (["avst", "avestan"], scriptAvestan),
   (["bali", "balinese"], scriptBalinese),
   (["bamu", "bamum"], scriptBamum),
   (["bass", "bassavah"], scriptBassaVah),
   (["batk", "batak"], scriptBatak),
   (["beng", "bengali"], scriptBengali),
   (["bhks", "bhaiksuki"], scriptBhaiksuki),
   (["bopo", "bopomofo"], scriptBopomofo),
   (["brah", "brahmi"], scriptBrahmi),
   (["brai", "braille"], scriptBraille),
   (["bugi", "buginese"], scriptBuginese),
   (["buhd", "buhid"], scriptBuhid),
   (["cakm", "chakma"], scriptChakma),
   (["cans", "canadianaboriginal"], scriptCanadianAboriginal),
   (["cari", "carian"], scriptCarian),
   (["cham"], scriptCham),
   (["cher", "cherokee"], scriptCherokee),
   (["chrs", "chorasmian"], scriptChorasmian),
   (["copt", "coptic", "qaac"], scriptCoptic),
   (["cpmn", "cyprominoan"], scriptCyproMinoan),
   (["cprt", "cypriot"], scriptCypriot),
   (["cyrl", "cyrillic"], scriptCyrillic),
   (["deva", "devanagari"], scriptDevanagari),
   (["diak", "divesakuru"], scriptDivesAkuru),
   (["dogr", "dogra"], scriptDogra),
   (["dsrt", "deseret"], scriptDeseret),
   (["dupl", "duployan"], scriptDuployan),
   (["egyp", "egyptianhieroglyphs"], scriptEgyptianHieroglyphs),
   (["elba", "elbasan"], scriptElbasan),
   (["elym", "elymaic"], scriptElymaic),
   (["ethi", "ethiopic"], scriptEthiopic),
   (["geor", "georgian"], scriptGeorgian),
   (["glag", "glagolitic"], scriptGlagolitic),
   (["gong", "gunjalagondi"], scriptGunjalaGondi),
   (["gonm", "masaramgondi"], scriptMasaramGondi),
   (["goth", "gothic"], scriptGothic),
   (["gran", "grantha"], scriptGrantha),
   (["grek", "greek"], scriptGreek),
   (["gujr", "gujarati"], scriptGujarati),
   (["guru", "gurmukhi"], scriptGurmukhi),
   (["hang", "hangul"], scriptHangul),
   (["hani", "han"], scriptHan),
   (["hano", "hanunoo"], scriptHanunoo),
   (["hatr", "hatran"], scriptHatran),
   (["hebr", "hebrew"], scriptHebrew),
   (["hira", "hiragana"], scriptHiragana),
   (["hluw", "anatolianhieroglyphs"], scriptAnatolianHieroglyphs),
   (["hmng", "pahawhhmong"], scriptPahawhHmong),
   (["hmnp", "nyiakengpuachuehmong"], scriptNyiakengPuachueHmong),
   (["hung", "oldhungarian"], scriptOldHungarian),
   (["ital", "olditalic"], scriptOldItalic),
   (["java", "javanese"], scriptJavanese),
   (["kali", "kayahli"], scriptKayahLi),
   (["kana", "katakana"], scriptKatakana),
   (["kawi"], scriptKawi),
   (["khar", "kharoshthi"], scriptKharoshthi),
   (["khmr", "khmer"], scriptKhmer),
   (["khoj", "khojki"], scriptKhojki),
   (["kits", "khitansmallscript"], scriptKhitanSmallScript),
   (["knda", "kannada"], scriptKannada),
   (["kthi", "kaithi"], scriptKaithi),
   (["lana", "taitham"], scriptTaiTham),
   (["laoo", "lao"], scriptLao),
   (["latn", "latin"], scriptLatin),
   (["lepc", "lepcha"], scriptLepcha),
   (["limb", "limbu"], scriptLimbu),
   (["lina", "lineara"], scriptLinearA),
   (["linb", "linearb"], scriptLinearB),
   (["lisu"], scriptLisu),
   (["lyci", "lycian"], scriptLycian),
   (["lydi", "lydian"], scriptLydian),
   (["mahj", "mahajani"], scriptMahajani),
   (["maka", "makasar"], scriptMakasar),
   (["mand", "mandaic"], scriptMandaic),
   (["mani", "manichaean"], scriptManichaean),
   (["marc", "marchen"], scriptMarchen),
   (["medf", "medefaidrin"], scriptMedefaidrin),
   (["mend", "mendekikakui"], scriptMendeKikakui),
   (["merc", "meroiticcursive"], scriptMeroiticCursive),
   (["mero", "meroitichieroglyphs"], scriptMeroiticHieroglyphs),
   (["mlym", "malayalam"], scriptMalayalam),
   (["modi"], scriptModi),
   (["mong", "mongolian"], scriptMongolian),
   (["mroo", "mro"], scriptMro),
   (["mtei", "meeteimayek"], scriptMeeteiMayek),
   (["mult", "multani"], scriptMultani),
   (["mymr", "myanmar"], scriptMyanmar),
   (["nagm", "nagmundari"], scriptNagMundari),
   (["nand", "nandinagari"], scriptNandinagari),
   (["narb", "oldnortharabian"], scriptOldNorthArabian),
   (["nbat", "nabataean"], scriptNabataean),
   (["newa"], scriptNewa),
   (["nkoo", "nko"], scriptNko),
   (["nshu", "nushu"], scriptNushu),
   (["ogam", "ogham"], scriptOgham),
   (["olck", "olchiki"], scriptOlChiki),
   (["orkh", "oldturkic"], scriptOldTurkic),
   (["orya", "oriya"], scriptOriya),
   (["osge", "osage"], scriptOsage),
   (["osma", "osmanya"], scriptOsmanya),
   (["ougr", "olduyghur"], scriptOldUyghur),
   (["palm", "palmyrene"], scriptPalmyrene),
   (["pauc", "paucinhau"], scriptPauCinHau),
   (["perm", "oldpermic"], scriptOldPermic),
   (["phag", "phagspa"], scriptPhagsPa),
   (["phli", "inscriptionalpahlavi"], scriptInscriptionalPahlavi),
   (["phlp", "psalterpahlavi"], scriptPsalterPahlavi),
   (["phnx", "phoenician"], scriptPhoenician),
   (["plrd", "miao"], scriptMiao),
   (["prti", "inscriptionalparthian"], scriptInscriptionalParthian),
   (["rjng", "rejang"], scriptRejang),
   (["rohg", "hanifirohingya"], scriptHanifiRohingya),
   (["runr", "runic"], scriptRunic),
   (["samr", "samaritan"], scriptSamaritan),
   (["sarb", "oldsoutharabian"], scriptOldSouthArabian),
   (["saur", "saurashtra"], scriptSaurashtra),
   (["sgnw", "signwriting"], scriptSignwriting),
   (["shaw", "shavian"], scriptShavian),
   (["shrd", "sharada"], scriptSharada),
   (["sidd", "siddham"], scriptSiddham),
   (["sind", "khudawadi"], scriptKhudawadi),
   (["sinh", "sinhala"], scriptSinhala),
   (["sogd", "sogdian"], scriptSogdian),
   (["sogo", "oldsogdian"], scriptOldSogdian),
   (["sora", "sorasompeng"], scriptSoraSompeng),
   (["soyo", "soyombo"], scriptSoyombo),
   (["sund", "sundanese"], scriptSundanese),
   (["sylo", "sylotinagri"], scriptSylotiNagri),
   (["syrc", "syriac"], scriptSyriac),
   (["tagb", "tagbanwa"], scriptTagbanwa),
   (["takr", "takri"], scriptTakri),
   (["tale", "taile"], scriptTaiLe),
   (["talu", "newtailue"], scriptNewTaiLue),
   (["taml", "tamil"], scriptTamil),
   (["tang", "tangut"], scriptTangut),
   (["tavt", "taiviet"], scriptTaiViet),
   (["telu", "telugu"], scriptTelugu),
   (["tfng", "tifinagh"], scriptTifinagh),
   (["tglg", "tagalog"], scriptTagalog),
   (["thaa", "thaana"], scriptThaana),
   (["thai"], scriptThai),
   (["tibt", "tibetan"], scriptTibetan),
   (["tirh", "tirhuta"], scriptTirhuta),
   (["tnsa", "tangsa"], scriptTangsa),
   (["toto"], scriptToto),
   (["ugar", "ugaritic"], scriptUgaritic),
   (["vaii", "vai"], scriptVai),
   (["vith", "vithkuqi"], scriptVithkuqi),
   (["wara", "warangciti"], scriptWarangCiti),
   (["wcho", "wancho"], scriptWancho),
   (["xpeo", "oldpersian"], scriptOldPersian),
   (["xsux", "cuneiform"], scriptCuneiform),
   (["yezi", "yezidi"], scriptYezidi),
   (["yiii", "yi"], scriptYi),
   (["zanb", "zanabazarsquare"], scriptZanabazarSquare),
   (["zinh", "inherited", "qaai"], scriptInherited),
   (["zyyy", "common"], scriptCommon),
   (["zzzz", "unknown"], scriptUnknown),
   (["gara", "garay"], scriptGaray),
   (["gukh", "gurungkhema"], scriptGurungKhema),
   (["krai", "kiratrai"], scriptKiratRai),
   (["onao", "olonal"], scriptOlOnal),
   (["sunu", "sunuwar"], scriptSunuwar),
   (["todr", "todhri"], scriptTodhri),
   (["tutg", "tulutigalari"], scriptTuluTigalari),
   (["beri", "beriaerfe"], scriptBeriaErfe),
   (["sidt", "sidetic"], scriptSidetic),
   (["tayo", "taiyo"], scriptTaiYo),
   (["tols", "tolongsiki"], scriptTolongSiki)]

end TreeWatch.Text
