/-
Text segmentation properties of the Unicode character database (version 16.0).

Each set is written as its ranges in increasing order: a range is the hexadecimal gap
from the end of the previous range (from zero for the first), then `:` and the
hexadecimal length less one when the range holds more than one code point.
-/

namespace OptionGrammar.Unicode.Data

/- Values of the grapheme cluster break property with code points listed in the character database:
names (short first) and code points. -/
def graphemeClusterBreaks : List (List String × String) := [
  (["CN", "Control"],
    String.join ["0:9 1:1 1:11 5f:20 d 56e 11f1 7fc 2:1 18:6 31:f de8f f0:b 3434:f 8860:3 14cf:7 c2e85:1f 60:7f ",
      "f0:e0f"]),
  (["CR", "CR"],
    "d"),
  (["EX", "Extend"],
    String.join ["300:6f 113:6 107:2c 1 1:1 1:1 1 48:a 30:14 10 65:6 2:5 2:1 1:3 23 1e:1a 5b:a 3a:8 9 18:3 1:8 ",
      "1:2 1:4 2b:2 3b:8 2a:17 1:1f 37 1 4:7 4 3:6 a:1 1d 3a 1 2:3 8 9 a:1 1a 2:1 39 4:1 4:1 2:2 3 ",
      "1e:1 3 b:1 39 4:4 1:1 4 14:1 16:5 1 3a 1:1 1:3 8 7:2 a:1 1e 3b 1 c 9 28 3 37 1:2 5:2 1:3 7:1 ",
      "b:1 1d 3a 2:1 1 3:2 1:3 7:1 b:1 1c:1 39:1 1 2:3 8 9 a:1 1d 48 4 2:2 1 8 51 2:6 c:7 62 2:8 b:6 ",
      "49:1 1b 1 1 37:d 1:4 1:1 5:a 1:23 9 66:3 1:5 1:1 2:1 19:1 4:2 10:3 d 2:1 6 f 2bf:2 3b2:3 1c:2 ",
      "1d:1 1e:1 40:1 1:6 8 2:a 9 2d:2 1 75:1 22 76:2 4:1 9 6:2 db:1 2 3a 1:6 1 1 2:7 6:9 2 30:1e 31:3 ",
      "30:9 4:2 26:8 c:1 20:3 2:5 38 1:1 3 1:4 38:7 2:1 98:2 1:c 1:6 4 6 3:1 c6:3f 20c c3:20 bfe:2 8d ",
      "60:1f 22a:5 69:1 75d4:3 1:9 20:1 50:1 110 3 4 19:1 5 97:1 1a:11 d 26:7 19:a 1 2c:2 30 2:3 2:1 2 ",
      "24 43:5 2:1 2:1 c 8 2f 33 1:2 2:1 5:1 1 2a:1 8 ee 2 4 4f30 2e1:f 10:f 16e:1 25d e2 95:4 686:2 ",
      "1:1 5:3 28:2 4 a5:1 23d:3 41:4 13d:1 4f:3 46:a 31:3 7b 36:e 29 2:1 a:2 31:3 2:1 7 3d:2 24:4 1:7 ",
      "3e c:1 34:8 1 8:3 2 5f:2 2:3 6 2 9d 3:7 15:1 39:1 1 1 c 9 e:6 3:4 43 2:5 1 2 1:2 4:2 1 e:1 55:7 ",
      "2:2 1 17 51 2:5 1 2 1:1 1:1 eb 2:3 6:1 1:1 1b:1 55:7 2 1:1 6a 1 2:7 65 1 2:3 1:4 103:8 1:1 f5 ",
      "a:3 4 90:3 2:1 4 20:9 28:5 2:3 8 9:5 2:2 2e:c 1:1 196:6 1:5 1 52:15 2:6 1:1 1:1 7a:5 3 1:1 1:6 ",
      "1 48:1 3 1 15b:1 b:1 34:4 5:2 17 14e5 6:e 2cc8:b 3:2 9c0:4 3b:6 418 3f:3 51 b:1 4cab:1 1261:2d ",
      "2:16 21e:4 3:5 8:7 2:6 1e:3 94:2 7bb:36 4:31 8 e 16:4 1:e 550:6 1:10 2:6 1:1 1:4 64 a0:6 177 ",
      "3d:3 1fc:3 fe:1 2e0:6 6d:6 ab0:4 c0c20:5f 80:ef"]),
  (["L", "L"],
    "1100:5f 9800:1c"),
  (["LF", "LF"],
    "a"),
  (["LV", "LV"],
    String.join ["ac00 1b 1b 1b 1b 1b 1b 1b 1b 1b 1b 1b 1b 1b 1b 1b 1b 1b 1b 1b 1b 1b 1b 1b 1b 1b 1b 1b 1b 1b 1b ",
      "1b 1b 1b 1b 1b 1b 1b 1b 1b 1b 1b 1b 1b 1b 1b 1b 1b 1b 1b 1b 1b 1b 1b 1b 1b 1b 1b 1b 1b 1b 1b 1b ",
      "1b 1b 1b 1b 1b 1b 1b 1b 1b 1b 1b 1b 1b 1b 1b 1b 1b 1b 1b 1b 1b 1b 1b 1b 1b 1b 1b 1b 1b 1b 1b 1b ",
      "1b 1b 1b 1b 1b 1b 1b 1b 1b 1b 1b 1b 1b 1b 1b 1b 1b 1b 1b 1b 1b 1b 1b 1b 1b 1b 1b 1b 1b 1b 1b 1b ",
      "1b 1b 1b 1b 1b 1b 1b 1b 1b 1b 1b 1b 1b 1b 1b 1b 1b 1b 1b 1b 1b 1b 1b 1b 1b 1b 1b 1b 1b 1b 1b 1b ",
      "1b 1b 1b 1b 1b 1b 1b 1b 1b 1b 1b 1b 1b 1b 1b 1b 1b 1b 1b 1b 1b 1b 1b 1b 1b 1b 1b 1b 1b 1b 1b 1b ",
      "1b 1b 1b 1b 1b 1b 1b 1b 1b 1b 1b 1b 1b 1b 1b 1b 1b 1b 1b 1b 1b 1b 1b 1b 1b 1b 1b 1b 1b 1b 1b 1b ",
      "1b 1b 1b 1b 1b 1b 1b 1b 1b 1b 1b 1b 1b 1b 1b 1b 1b 1b 1b 1b 1b 1b 1b 1b 1b 1b 1b 1b 1b 1b 1b 1b ",
      "1b 1b 1b 1b 1b 1b 1b 1b 1b 1b 1b 1b 1b 1b 1b 1b 1b 1b 1b 1b 1b 1b 1b 1b 1b 1b 1b 1b 1b 1b 1b 1b ",
      "1b 1b 1b 1b 1b 1b 1b 1b 1b 1b 1b 1b 1b 1b 1b 1b 1b 1b 1b 1b 1b 1b 1b 1b 1b 1b 1b 1b 1b 1b 1b 1b ",
      "1b 1b 1b 1b 1b 1b 1b 1b 1b 1b 1b 1b 1b 1b 1b 1b 1b 1b 1b 1b 1b 1b 1b 1b 1b 1b 1b 1b 1b 1b 1b 1b ",
      "1b 1b 1b 1b 1b 1b 1b 1b 1b 1b 1b 1b 1b 1b 1b 1b 1b 1b 1b 1b 1b 1b 1b 1b 1b 1b 1b 1b 1b 1b 1b 1b ",
      "1b 1b 1b 1b 1b 1b 1b 1b 1b 1b 1b 1b 1b 1b 1b 1b"]),
  (["LVT", "LVT"],
    String.join ["ac01:1a 1:1a 1:1a 1:1a 1:1a 1:1a 1:1a 1:1a 1:1a 1:1a 1:1a 1:1a 1:1a 1:1a 1:1a 1:1a 1:1a 1:1a ",
      "1:1a 1:1a 1:1a 1:1a 1:1a 1:1a 1:1a 1:1a 1:1a 1:1a 1:1a 1:1a 1:1a 1:1a 1:1a 1:1a 1:1a 1:1a 1:1a ",
      "1:1a 1:1a 1:1a 1:1a 1:1a 1:1a 1:1a 1:1a 1:1a 1:1a 1:1a 1:1a 1:1a 1:1a 1:1a 1:1a 1:1a 1:1a 1:1a ",
      "1:1a 1:1a 1:1a 1:1a 1:1a 1:1a 1:1a 1:1a 1:1a 1:1a 1:1a 1:1a 1:1a 1:1a 1:1a 1:1a 1:1a 1:1a 1:1a ",
      "1:1a 1:1a 1:1a 1:1a 1:1a 1:1a 1:1a 1:1a 1:1a 1:1a 1:1a 1:1a 1:1a 1:1a 1:1a 1:1a 1:1a 1:1a 1:1a ",
      "1:1a 1:1a 1:1a 1:1a 1:1a 1:1a 1:1a 1:1a 1:1a 1:1a 1:1a 1:1a 1:1a 1:1a 1:1a 1:1a 1:1a 1:1a 1:1a ",
      "1:1a 1:1a 1:1a 1:1a 1:1a 1:1a 1:1a 1:1a 1:1a 1:1a 1:1a 1:1a 1:1a 1:1a 1:1a 1:1a 1:1a 1:1a 1:1a ",
      "1:1a 1:1a 1:1a 1:1a 1:1a 1:1a 1:1a 1:1a 1:1a 1:1a 1:1a 1:1a 1:1a 1:1a 1:1a 1:1a 1:1a 1:1a 1:1a ",
      "1:1a 1:1a 1:1a 1:1a 1:1a 1:1a 1:1a 1:1a 1:1a 1:1a 1:1a 1:1a 1:1a 1:1a 1:1a 1:1a 1:1a 1:1a 1:1a ",
      "1:1a 1:1a 1:1a 1:1a 1:1a 1:1a 1:1a 1:1a 1:1a 1:1a 1:1a 1:1a 1:1a 1:1a 1:1a 1:1a 1:1a 1:1a 1:1a ",
      "1:1a 1:1a 1:1a 1:1a 1:1a 1:1a 1:1a 1:1a 1:1a 1:1a 1:1a 1:1a 1:1a 1:1a 1:1a 1:1a 1:1a 1:1a 1:1a ",
      "1:1a 1:1a 1:1a 1:1a 1:1a 1:1a 1:1a 1:1a 1:1a 1:1a 1:1a 1:1a 1:1a 1:1a 1:1a 1:1a 1:1a 1:1a 1:1a ",
      "1:1a 1:1a 1:1a 1:1a 1:1a 1:1a 1:1a 1:1a 1:1a 1:1a 1:1a 1:1a 1:1a 1:1a 1:1a 1:1a 1:1a 1:1a 1:1a ",
      "1:1a 1:1a 1:1a 1:1a 1:1a 1:1a 1:1a 1:1a 1:1a 1:1a 1:1a 1:1a 1:1a 1:1a 1:1a 1:1a 1:1a 1:1a 1:1a ",
      "1:1a 1:1a 1:1a 1:1a 1:1a 1:1a 1:1a 1:1a 1:1a 1:1a 1:1a 1:1a 1:1a 1:1a 1:1a 1:1a 1:1a 1:1a 1:1a ",
      "1:1a 1:1a 1:1a 1:1a 1:1a 1:1a 1:1a 1:1a 1:1a 1:1a 1:1a 1:1a 1:1a 1:1a 1:1a 1:1a 1:1a 1:1a 1:1a ",
      "1:1a 1:1a 1:1a 1:1a 1:1a 1:1a 1:1a 1:1a 1:1a 1:1a 1:1a 1:1a 1:1a 1:1a 1:1a 1:1a 1:1a 1:1a 1:1a ",
      "1:1a 1:1a 1:1a 1:1a 1:1a 1:1a 1:1a 1:1a 1:1a 1:1a 1:1a 1:1a 1:1a 1:1a 1:1a 1:1a 1:1a 1:1a 1:1a ",
      "1:1a 1:1a 1:1a 1:1a 1:1a 1:1a 1:1a 1:1a 1:1a 1:1a 1:1a 1:1a 1:1a 1:1a 1:1a 1:1a 1:1a 1:1a 1:1a ",
      "1:1a 1:1a 1:1a 1:1a 1:1a 1:1a 1:1a 1:1a 1:1a 1:1a 1:1a 1:1a 1:1a 1:1a 1:1a 1:1a 1:1a 1:1a 1:1a ",
      "1:1a 1:1a 1:1a 1:1a 1:1a 1:1a 1:1a 1:1a 1:1a 1:1a 1:1a 1:1a 1:1a 1:1a 1:1a 1:1a 1:1a 1:1a 1:1a ",
      "1:1a"]),
  (["PP", "Prepend"],
    "600:5 d7 31 180:1 50 46b 1036e f f4:1 20d 56d 1 f8 49:5 2bc 1bb"),
  (["RI", "Regional_Indicator"],
    "1f1e6:19"),
  (["SM", "SpacingMark"],
    String.join ["903 37 2:2 8:3 1:1 32:1 3b:1 6:1 2:1 36 3a:2 42 3a:2 8 1:1 35:1 3c 6:1 2:1 72 1:1 3:2 1:2 34:2 ",
      "3d:3 3d:1 3a 2 1:1 2e e:1 3b:1 5:2 1:2 35:1 4c:1 6:6 13:1 3f 7f 8a:1 3f b1 9:1 19:1 2c 731 7:7 ",
      "1:1 15a:3 2:2 4:1 1:5 e0:1 3a 1 15:5 91 39:3 40 1e 4:1 3f 2:2 1 35:7 8:1 ab 15 8b2b:1 2 58:1 ",
      "32:f 8e 30 30:1 4:1 2:1 6f:1 2:1 18 9d 2:1 5 ed:1 1:1 1:1 1 6413 1 7f 2d:2 4:1 73 18:1 3b 30:2 ",
      "9 e 5d:2 3:1 ac:2 1f:1 3b 1:3 2:1 2:1 15:1 55:1 f 1:1 67:2 8:1 3 6b:1 6 1:1 1 2 ee:1 6:3 2 71:2 ",
      "8:1 1 6d 1:1 6e 7 105:2 9 f8:4 1:1 7 1 8e:2 8:3 4 54 1d:1 3e 197 e 6a 7 2 d5:4 4:1 1 15e:1 c ",
      "30:1 8:1 41ea:2 e24:36"]),
  (["T", "T"],
    "11a8:57 c5cb:30"),
  (["V", "V"],
    "1160:47 c608:16 959c 3:3"),
  (["ZWJ", "ZWJ"],
    "200d")]

/- Further names of values of the grapheme cluster break property that list no code point. -/
def graphemeClusterBreaksUnlisted : List (List String) := [["EB", "E_Base"], ["EBG", "E_Base_GAZ"], ["EM", "E_Modifier"], ["GAZ", "Glue_After_Zwj"], ["XX", "Other"]]

/- Values of the word break property with code points listed in the character database:
names (short first) and code points. -/
def wordBreaks : List (List String × String) := [
  (["CR", "CR"],
    "d"),
  (["DQ", "Double_Quote"],
    "22"),
  (["EX", "ExtendNumLet"],
    "5f 1fcf f:1 13 ddde:1 18:2 ef"),
  (["Extend", "Extend"],
    String.join ["300:6f 113:6 107:2c 1 1:1 1:1 1 48:a 30:14 10 65:6 2:5 2:1 1:3 23 1e:1a 5b:a 3a:8 9 18:3 1:8 ",
      "1:2 1:4 2b:2 3b:8 2a:17 1:20 36:2 1:11 1:6 a:1 1d:2 38 1:6 2:1 2:2 9 a:1 1a 2:2 38 1:4 4:1 2:2 ",
      "3 1e:1 3 b:2 38 1:7 1:2 1:2 14:1 16:5 1:2 38 1:6 2:1 2:2 7:2 a:1 1e 3b:4 3:2 1:3 9 28:4 37 1:6 ",
      "1:2 1:3 7:1 b:1 1d:2 38 1:6 1:2 1:3 7:1 b:1 f c:3 37:1 1:6 1:2 1:3 9 a:1 1d:2 46 4:5 1 1:7 12:1 ",
      "3d 2:6 c:7 62 2:8 b:6 49:1 1b 1 1 4:1 31:13 1:1 5:a 1:23 9 64:13 17:3 4:2 1:2 2:6 3:3 d:b 1 a:3 ",
      "2bf:2 3b2:3 1c:2 1d:1 1e:1 40:1f 9 2d:2 1 75:1 22 76:b 4:b db:4 39:9 1:1c 2 30:1e 31:4 2f:10 ",
      "26:8 c:2 1e:c 38:d 30:13 98:2 1:14 4 6 2:2 c6:3f 20c c3:20 bfe:2 8d 60:1f 22a:5 69:1 75d4:3 1:9 ",
      "20:1 50:1 110 3 4 17:4 4 53:1 32:11 1a:11 d 26:7 19:c 2c:3 2f:d 24 43:d c 8:1 2d:2 32 1:2 2:1 ",
      "5:1 1 29:4 5:1 ec:7 1:1 4f30 2e1:f 10:f 16e:1 25d e2 95:4 686:2 1:1 5:3 28:2 4 a5:1 23d:3 41:4 ",
      "13d:1 4f:3 46:a 31:3 7a:2 35:e 29 2:1 a:3 2d:a 7 3d:2 24:d 10:1 2c c:2 30:d 8:3 1:1 5c:b 6 2 ",
      "9d:b 15:3 37:1 1:6 2:1 2:2 9 a:1 2:6 3:4 43:8 1 2 1:3 1:4 1 e:1 52:11 17 51:13 eb:6 2:8 1b:1 ",
      "52:10 6a:c 65:e 100:e f5:5 1:1 2:3 1 1:1 8d:6 2:6 3 1c:9 28:6 1:3 8 9:a 2e:f 195:7 1:7 52:15 ",
      "1:d 7a:5 3 1:1 1:6 1 42:4 1:1 1:4 15b:3 9:1 1 30:6 3:4 17 14e5 6:e 2cc8:11 9c0:4 3b:6 418 1:36 ",
      "7:3 51 b:1 4cab:1 1261:2d 2:16 21e:4 3:5 8:7 2:6 1e:3 94:2 7bb:36 4:31 8 e 16:4 1:e 550:6 1:10 ",
      "2:6 1:1 1:4 64 a0:6 177 3d:3 1fc:3 fe:1 2e0:6 6d:6 ab0:4 c0c20:5f 80:ef"]),
  (["FO", "Format"],
    "ad 56e 11f1 7ff:1 1a:4 31:4 1:9 de8f f9:2 3434:f 8860:3 14cf:7 c2e86"),
  (["HL", "Hebrew_Letter"],
    "5d0:1a 4:3 f52a 1:9 1:c 1:4 1 1:1 1:1 1:9"),
  (["KA", "Katakana"],
    "3031:4 65:1 3:5a 1:3 f0:f d0:2e 1:57 cc0e:37 b052:3 1:6 1:1 1 11f:2 32 e:3"),
  (["LE", "ALetter"],
    String.join ["41:19 6:19 2f a 4 5:16 1:1e 1:1df 6:21 70:4 1:1 2:3 1 6 1:2 1 1:13 1:52 1:8a 8:a5 1:25 2:3 1 ",
      "1:28 1 68 2c:2a 23:1 1:62 1 f:1 7:1 a:2 2 f:1 1:1d 1d:58 b 18:20 9:1 4 5:15 4 9 3 17:18 7:a ",
      "5:17 1:5 11:29 3a:35 3 12 7:9 f:f 4:7 2:1 2:15 1:6 1 3:3 3 10 d:1 1:2 e:1 a 8:5 4:1 2:15 1:6 ",
      "1:1 1:1 1:1 1f:3 1 13:2 10:8 1:2 1:15 1:6 1:1 1:4 3 12 f:1 17 b:7 2:1 2:15 1:6 1:1 1:4 3 1e:1 ",
      "1:2 f 11 1:5 3:2 1:3 3:1 1 1:1 3:1 3:2 3:b 16 34:7 1:2 1:16 1:f 3 1a:2 2 2:1 1e 4:7 1:2 1:16 ",
      "1:9 1:4 3 1f:1 1:1 f:1 11:8 1:2 1:28 2 10 5:2 8:2 18:5 5:11 3:17 1:8 1 2:6 139 3f:7 1:23 1b:4 ",
      "113:25 1 5 2:2a 1:14c 1:3 2:6 1 1:3 2:28 1:3 2:20 1:3 2:6 1 1:3 2:e 1:38 1:3 2:42 25:f 10:55 ",
      "2:5 3:26b 2:10 1:19 5:4a 3:a 7:11 d:12 e:11 e:c 1:2 af:58 7:4 2:21 1 5:45 a:1e e1:16 ee:2e 11:7 ",
      "36:1d d:1 a:2b 1a:23 29:2 a:23 2:a 5:2a 2:2 29:3 1:5 1:1 3 5:bf 40:115 2:5 2:25 2:5 2:7 1 1 1 ",
      "1:1e 2:34 1:6 1 3:2 1:6 3:3 2:5 4:c 5:2 1:6 74 d 10:c 65 4 2:9 1 3:4 6 1 1 1:3 1:a 2:3 5:4 4 ",
      "11:28 32d:33 716:e4 6:3 3:1 c:25 1 5 2:37 7 10:16 9:6 1:6 1:6 1:6 1:6 1:6 1:6 1:6 50 1d5 35:1 ",
      "c8:2a 1:5d 11:1f 6e40:48c 43:2d 2:10c 3:f a:1 14:2e 10:1e 2:4f 18:c5 2:1 1 1:7 15:f 1:2 1:3 ",
      "1:16 1d:33 e:31 3e:5 3 1:1 b:1b a:16 19:1c 7:2e 1c 30:28 17:2 1:7 94:a 7:2 c:5 2:5 2:5 9:6 1:6 ",
      "1:39 6:72 1d:2ba3 c:16 4:30 2304:6 c:4 38:61 21:16a 12:3f 2:35 28:b 74:4 1:86 24:19 6:19 45:1e ",
      "3:5 2:5 2:5 2:2 23:b 1:19 1:12 1:1 1:e 2:d 22:7a 45:34 10b:1c 3:30 2f:1f d:1d 5:25 a:1d 2:23 ",
      "4:7 1:4 2a:9d 12:23 4:23 4:27 8:33 c:a 1:e 1:6 1:1 1:a 1:e 1:6 1:1 3:33 c:136 9:15 a:7 18:5 ",
      "1:29 1:8 45:5 2 1:2b 1:1 3 2:16 a:16 9:1e 41:12 1:1 a:15 a:19 46:37 6:1 40 f:3 1:2 1:1c 2a:1c ",
      "3:1c 23:7 1:1b 1b:35 a:15 a:12 d:11 6e:48 37:32 d:32 d:23 26:1b 9:16 fa:29 6:1 10:2 3b:1c a ",
      "8:15 2a:11 2e:14 1b:16 c:34 39:1 2 d:2c 20:18 1a:23 1d 2 8:22 3 c:2f e:3 15 1 23:11 1:18 13:1 ",
      "3f:6 1 1:3 1:e 1:9 7:2e 26:7 2:1 2:15 1:6 1:1 1:4 3 12 c:4 1e:9 1 2 1:25 1 19 1 2c:34 12:3 14:2 ",
      "1e:2f 14:1 1 b8:2e 29:3 24:2f 14 3b:2a d 147:2b 74:3f 1f:7 2 2:7 1:1 1:17 f 1 5e:7 2:26 10 1 1c ",
      "a:27 7 15 b:2d 13 12:48 c7:20 1f:8 1:24 11 31:1d 70:6 1:1 1:25 15 19:5 1:1 1:1f e 147:12 f 1:c ",
      "1:21 7c 4f:399 66:6e 11:c3 a4c:60 f:42f 11:5 19:f9a 5:246 1ab9:1d 6e2:238 7:1e 11:4e 11:1d ",
      "12:2f 10:3 1f:14 5:12 1b0:2c d3:3f 80:4a 5 42:c 40:1 1 4c1c:6a 5:c 3:8 7:9 1766:54 1:46 1:1 2 ",
      "2:1 2:3 1:b 1 1:6 1:40 1:3 2:7 1:6 1:1b 1:3 1:4 1 3:6 1:153 2:18 1:18 1:1e 1:18 1:1e 1:18 1:1e ",
      "1:18 1:1e 1:18 1:7 734:1e 6:5 105:3d 92:2c a:6 10 141:1d 12:2b 1e4:1b e4:1d 2 1ef:6 1:3 1:1 1:e ",
      "1:c4 3b:43 7 4b4:3 1:1a 1:1 1 2 1:9 1:3 1 1 6 4 1 1 1:2 1:1 1 2 1 1 1 1 1:1 1 2:3 1:6 1:3 1:3 1 ",
      "1:9 1:10 5:2 1:4 1:10 274:19 6:19 6:19"]),
  (["LF", "LF"],
    "a"),
  (["MB", "MidNumLet"],
    "2e 1fe9:1 a de2d b4 6"),
  (["ML", "MidLetter"],
    "3a 7c 2cf 1d7 94 1a32 ddeb 41 c4"),
  (["MN", "MidNum"],
    "2c e 342 20a 82:1 5e 18b 184b de0b 3 b7 e"),
  (["NL", "Newline"],
    "b:1 78 1fa2:1"),
  (["NU", "Numeric"],
    String.join ["30:9 5c6:5 5a:9 1 71 12:9 c6:9 c6:1 50 83:9 76:9 76:9 76:9 76:9 76:9 76:9 76:9 76:9 76:9 60:9 ",
      "76:9 46:9 116:9 46:9 746:9 26:9 12c:9 80:9 a6:9 6:9 b6:9 56:9 86:9 6:9 89c6:9 2a6:9 26:9 c6:9 ",
      "16:9 56:9 196:9 5316:9 586:9 886:9 6:9 31c:9 4d f 22:9 3c:9 90:9 116:9 156:9 76:9 176:9 66:9 ",
      "6:13 4c:9 1a6:9 66:9 296:9 56:9 f6:9 46:9 1a6:9 41d6:9 926:9 56:9 86:9 216:9 5f76:9 ad4:31 ",
      "940:9 1a6:9 1f6:9 f7:9 355:9 1296:9"]),
  (["RI", "Regional_Indicator"],
    "1f1e6:19"),
  (["SQ", "Single_Quote"],
    "27"),
  (["WSegSpace", "WSegSpace"],
    "20 165f 97f:6 1:2 54 fa0"),
  (["ZWJ", "ZWJ"],
    "200d")]

/- Further names of values of the word break property that list no code point. -/
def wordBreaksUnlisted : List (List String) := [["EB", "E_Base"], ["EBG", "E_Base_GAZ"], ["EM", "E_Modifier"], ["GAZ", "Glue_After_Zwj"], ["XX", "Other"]]

/- Values of the sentence break property with code points listed in the character database:
names (short first) and code points. -/
def sentenceBreaks : List (List String × String) := [
  (["AT", "ATerm"],
    "2e 1ff5 de2d bb"),
  (["CL", "Close"],
    String.join ["22 4:2 31 1 1d 1 2d f e7e:3 75d:1 97b:7 19:1 a:1 36:1 e:1 279:3 1d:1 430:5 7:d 4f:1 1f:9 193:15 ",
      "3f:3 20:1 402:d e:1 2:9 18 12:7 1ab:9 2:7 1:2 cd1e:1 d7:1 1c:f 2:1 10:5 a9:1 31 1 1d 1 1:1 1:1 ",
      "f712:2"]),
  (["CR", "CR"],
    "d"),
  (["EX", "Extend"],
    String.join ["300:6f 113:6 107:2c 1 1:1 1:1 1 48:a 30:14 10 65:6 2:5 2:1 1:3 23 1e:1a 5b:a 3a:8 9 18:3 1:8 ",
      "1:2 1:4 2b:2 3b:8 2a:17 1:20 36:2 1:11 1:6 a:1 1d:2 38 1:6 2:1 2:2 9 a:1 1a 2:2 38 1:4 4:1 2:2 ",
      "3 1e:1 3 b:2 38 1:7 1:2 1:2 14:1 16:5 1:2 38 1:6 2:1 2:2 7:2 a:1 1e 3b:4 3:2 1:3 9 28:4 37 1:6 ",
      "1:2 1:3 7:1 b:1 1d:2 38 1:6 1:2 1:3 7:1 b:1 f c:3 37:1 1:6 1:2 1:3 9 a:1 1d:2 46 4:5 1 1:7 12:1 ",
      "3d 2:6 c:7 62 2:8 b:6 49:1 1b 1 1 4:1 31:13 1:1 5:a 1:23 9 64:13 17:3 4:2 1:2 2:6 3:3 d:b 1 a:3 ",
      "2bf:2 3b2:3 1c:2 1d:1 1e:1 40:1f 9 2d:2 1 75:1 22 76:b 4:b db:4 39:9 1:1c 2 30:1e 31:4 2f:10 ",
      "26:8 c:2 1e:c 38:d 30:13 98:2 1:14 4 6 2:2 c6:3f 20c:1 c2:20 bfe:2 8d 60:1f 22a:5 69:1 75d4:3 ",
      "1:9 20:1 50:1 110 3 4 17:4 4 53:1 32:11 1a:11 d 26:7 19:c 2c:3 2f:d 24 43:d c 8:1 2d:2 32 1:2 ",
      "2:1 5:1 1 29:4 5:1 ec:7 1:1 4f30 2e1:f 10:f 16e:1 25d e2 95:4 686:2 1:1 5:3 28:2 4 a5:1 23d:3 ",
      "41:4 13d:1 4f:3 46:a 31:3 7a:2 35:e 29 2:1 a:3 2d:a 7 3d:2 24:d 10:1 2c c:2 30:d 8:3 1:1 5c:b 6 ",
      "2 9d:b 15:3 37:1 1:6 2:1 2:2 9 a:1 2:6 3:4 43:8 1 2 1:3 1:4 1 e:1 52:11 17 51:13 eb:6 2:8 1b:1 ",
      "52:10 6a:c 65:e 100:e f5:5 1:1 2:3 1 1:1 8d:6 2:6 3 1c:9 28:6 1:3 8 9:a 2e:f 195:7 1:7 52:15 ",
      "1:d 7a:5 3 1:1 1:6 1 42:4 1:1 1:4 15b:3 9:1 1 30:6 3:4 17 14e5 6:e 2cc8:11 9c0:4 3b:6 418 1:36 ",
      "7:3 51 b:1 4cab:1 1261:2d 2:16 21e:4 3:5 8:7 2:6 1e:3 94:2 7bb:36 4:31 8 e 16:4 1:e 550:6 1:10 ",
      "2:6 1:1 1:4 64 a0:6 177 3d:3 1fc:3 fe:1 2e0:6 6d:6 c16d5:5f 80:ef"]),
  (["FO", "Format"],
    "ad 552:5 16 c0 31 180:1 50 f2b 7fc 2:1 1a:4 31:4 1:9 de8f f9:2 10c1 f 2362:f 8860:3 14cf:7 c2e86"),
  (["LE", "OLetter"],
    String.join ["1bb 4:3 d0:1 23:6 6:b 1a 1 85 1e4 76:1a 4:4 2c:2a 23:1 1:62 1 f:1 7:1 a:2 2 10 1:1d 1d:58 b ",
      "18:20 9:1 4 5:15 4 9 3 17:18 7:a 5:17 1:5 11:29 3a:35 3 12 7:9 f:f 4:7 2:1 2:15 1:6 1 3:3 3 10 ",
      "d:1 1:2 e:1 a 8:5 4:1 2:15 1:6 1:1 1:1 1:1 1f:3 1 13:2 10:8 1:2 1:15 1:6 1:1 1:4 3 12 f:1 17 ",
      "b:7 2:1 2:15 1:6 1:1 1:4 3 1e:1 1:2 f 11 1:5 3:2 1:3 3:1 1 1:1 3:1 3:2 3:b 16 34:7 1:2 1:16 1:f ",
      "3 1a:2 2 2:1 1e 4:7 1:2 1:16 1:9 1:4 3 1f:1 1:1 f:1 11:8 1:2 1:28 2 10 5:2 8:2 18:5 5:11 3:17 ",
      "1:8 1 2:6 3a:2f 1:1 c:6 3a:1 1 1:4 1:17 1 1:9 1:1 9 2:4 1 15:3 20 3f:7 1:23 1b:4 73:2a 14 10:5 ",
      "4:3 3 3:1 7:2 4:c c 41:2a 2:14b 1:3 2:6 1 1:3 2:28 1:3 2:20 1:3 2:6 1 1:3 2:e 1:38 1:3 2:42 ",
      "25:f 71:26b 2:10 1:19 5:4a 3:a 7:11 d:12 e:11 e:c 1:2 f:33 23 4 43:58 7:4 2:21 1 5:45 a:1e ",
      "31:1d 2:4 b:2b 4:19 36:16 9:34 52 5d:2e 11:7 36:1d d:1 a:2b 1a:23 29:2 a:23 12:2a 2:2 29:3 1:5 ",
      "1:1 3 43a:3 47:2 2:3 ba7:37 7 10:16 9:6 1:6 1:6 1:6 1:6 1:6 1:6 1:6 50 1d5:2 19:8 7:4 2:4 4:55 ",
      "6:2 1:59 1:3 5:2a 1:5d 11:1f 30:f 200:19bf 40:568c 43:2d 2:10c 3:f a:1 42 10 20:4f 27:8 68 6 67 ",
      "3:6 1:2 1:3 1:16 1d:33 e:31 3e:5 3 1:1 b:1b a:16 19:1c 7:2e 1c 10:4 1:9 a:4 1:28 17:2 1:7 14:16 ",
      "3 3:31 1 3:1 2:4 2 1 18:2 2:a 7:2 c:5 2:5 2:5 9:6 1:6 91:22 1d:2ba3 c:16 4:30 2104:16d 2:69 43 ",
      "1:9 1:c 1:4 1 1:1 1:1 1:6b 21:16a 12:3f 2:35 28:b 74:4 1:86 69:37 2:1e 3:5 2:5 2:5 2:2 23:b ",
      "1:19 1:12 1:1 1:e 2:d 22:7a 45:34 10b:1c 3:30 2f:1f d:1d 5:25 a:1d 2:23 4:7 1:4 7a:4d 62:27 ",
      "8:33 5c:33 c:136 9:15 a:7 19:1 7d:5 2 1:2b 1:1 3 2:16 a:16 9:1e 41:12 1:1 a:15 a:19 46:37 6:1 ",
      "40 f:3 1:2 1:1c 2a:1c 3:1c 23:7 1:1b 1b:35 a:15 a:12 d:11 6e:48 b7:23 26:5 1f 110:29 6:1 10:2 ",
      "3b:1c a 8:15 2a:11 2e:14 1b:16 c:34 39:1 2 d:2c 20:18 1a:23 1d 2 8:22 3 c:2f e:3 15 1 23:11 ",
      "1:18 13:1 3f:6 1 1:3 1:e 1:9 7:2e 26:7 2:1 2:15 1:6 1:1 1:4 3 12 c:4 1e:9 1 2 1:25 1 19 1 2c:34 ",
      "12:3 14:2 1e:2f 14:1 1 b8:2e 29:3 24:2f 14 3b:2a d 47:1a 25:6 b9:2b d3:7 2 2:7 1:1 1:17 f 1 ",
      "5e:7 2:26 10 1 1c a:27 7 15 b:2d 13 12:48 c7:20 1f:8 1:24 11 31:1d 70:6 1:1 1:25 15 19:5 1:1 ",
      "1:1f e 147:12 f 1:c 1:21 7c 4f:399 66:6e 11:c3 a4c:60 f:42f 11:5 19:f9a 5:246 1ab9:1d 6e2:238 ",
      "7:1e 11:4e 11:1d 12:2f 10:3 1f:14 5:12 1b0:2c 193:4a 5 42:c 40:1 1 1c:17f7 8:4d5 29:9 22e7:3 ",
      "1:6 1:1 1:122 f 1d:2 2 e:3 8:18b 904:6a 5:c 3:8 7:9 2270 1f5:2c a:6 10 141:1d 12:2b 1e4:1b ",
      "e4:1d 2 1ef:6 1:3 1:1 1:e 1:c4 86 4b4:3 1:1a 1:1 1 2 1:9 1:3 1 1 6 4 1 1 1:2 1:1 1 2 1 1 1 1 ",
      "1:1 1 2:3 1:6 1:3 1:3 1 1:9 1:10 5:2 1:4 1:10 1144:a6df 20:1039 6:dd 2:1681 e:1d30 f:26d ",
      "9a2:21d 5e2:134a 5:105f"]),
  (["LF", "LF"],
    "a"),
  (["LO", "Lower"],
    String.join ["61:19 2f a 4 24:17 1:7 1 1 1 1 1 1 1 1 1 1 1 1 1 1 1 1 1 1 1 1 1 1 1 1 1 1 1 1:1 1 1 1 1 1 1 1 ",
      "1:1 1 1 1 1 1 1 1 1 1 1 1 1 1 1 1 1 1 1 1 1 1 1 1 2 1 1:2 2 1 2 3:1 4 2 3:2 2 2 1 1 2 1:1 1 2 3 ",
      "1 2:1 2:2 6 2 2 1 1 1 1 1 1 1 1:1 1 1 1 1 1 1 1 1 1:1 2 1 3 1 1 1 1 1 1 1 1 1 1 1 1 1 1 1 1 1 1 ",
      "1 1 1 1 1 1 1 1 1 1 1:6 2 2:1 1 4 1 1 1 1:44 2:22 7:1 1e:4 8c 1 3 2:3 12 1b:22 1:1 3:2 1 1 1 1 ",
      "1 1 1 1 1 1 1 1:4 1 2 2:1 33:2f 1 1 1 1 1 1 1 1 1 1 1 1 1 1 1 1 1 9 1 1 1 1 1 1 1 1 1 1 1 1 1 1 ",
      "1 1 1 1 1 1 1 1 1 1 1 1 2 1 1 1 1 1 1:1 1 1 1 1 1 1 1 1 1 1 1 1 1 1 1 1 1 1 1 1 1 1 1 1 1 1 1 1 ",
      "1 1 1 1 1 1 1 1 1 1 1 1 1 1 1 1 1 1 1 1 30:28 b73 2fb:5 882:8 1 75:bf 41 1 1 1 1 1 1 1 1 1 1 1 ",
      "1 1 1 1 1 1 1 1 1 1 1 1 1 1 1 1 1 1 1 1 1 1 1 1 1 1 1 1 1 1 1 1 1 1 1 1 1 1 1 1 1 1 1 1 1 1 1 1 ",
      "1 1 1 1 1 1 1 1 1 1 1 1 1 1 1:8 1 1 1 1 1 1 1 1 1 1 1 1 1 1 1 1 1 1 1 1 1 1 1 1 1 1 1 1 1 1 1 1 ",
      "1 1 1 1 1 1 1 1 1 1 1 1 1 1 1 1 1:8 8:5 a:7 8:7 8:5 a:7 8:7 8:d 2:7 8:7 8:7 8:4 1:1 6 3:2 1:1 ",
      "8:3 2:1 8:7 a:2 1:1 79 d 10:c 6d 3:1 3 1b 4 4 2:1 8:3 4 21:f 4 34b:19 746:2f 1 3:1 1 1 1 4 1:1 ",
      "1:7 3 1 1 1 1 1 1 1 1 1 1 1 1 1 1 1 1 1 1 1 1 1 1 1 1 1 1 1 1 1 1 1 1 1 1 1 1 1 1 1 1 1 1 1 1 1 ",
      "1 1 1 1:1 7 1 4 c:25 1 5 7913 1 1 1 1 1 1 1 1 1 1 1 1 1 1 1 1 1 1 1 1 1 1 13 1 1 1 1 1 1 1 1 1 ",
      "1 1 1 1:2 85 1 1 1 1 1 1:2 1 1 1 1 1 1 1 1 1 1 1 1 1 1 1 1 1 1 1 1 1 1 1 1 1 1 1 1 1 1 1:9 1 1 ",
      "2 1 1 1 1 4 1 2 1:2 1 1 1 1 1 1 1 1 1 1 5 5 1 1 1 1 1 1 1 4 1 2 3 1 1 1 1 1 16:2 1 1:2 335:2a ",
      "1:d 6:4f 4f40:6 c:4 429:19 4cd:27 88:23 9b:a 1:e 1:6 1:1 1c3 2:2 1:29 1:8 505:32 7d:15 b3a:1f ",
      "5580:1f 659a:19 1a:6 1:11 1a:19 1a:3 1 1:6 1:a 1a:19 1a:19 1a:19 1a:19 1a:19 1a:19 1a:19 1a:19 ",
      "1a:1b 1c:18 1:5 1a:18 1:5 1a:18 1:5 1a:18 1:5 1a:18 1:5 1 734:9 1:13 6:5 105:3d 8b4:21"]),
  (["NU", "Numeric"],
    String.join ["30:9 626:9 1:1 83:9 c6:9 19c:9 76:9 76:9 76:9 76:9 76:9 76:9 76:9 76:9 76:9 60:9 76:9 46:9 ",
      "116:9 46:9 746:9 26:9 12c:9 80:9 a6:9 6:9 b6:9 56:9 86:9 6:9 89c6:9 2a6:9 26:9 c6:9 16:9 56:9 ",
      "196:9 5316:9 586:9 886:9 6:9 31c:9 80:9 3c:9 90:9 116:9 156:9 76:9 176:9 66:9 6:13 4c:9 1a6:9 ",
      "66:9 296:9 56:9 f6:9 46:9 1a6:9 41d6:9 926:9 56:9 86:9 216:9 5f76:9 ad4:31 940:9 1a6:9 1f6:9 ",
      "f7:9 355:9 1296:9"]),
  (["SC", "SContinue"],
    "2c:1 c:1 342 1de ae:1 1ea 1009 5 80a:1 fec ce0e:1 1:1 1c:1 1d:1 2:1 2 a a8:1 c:1 48"),
  (["SE", "Sep"],
    "85 1fa2:1"),
  (["SP", "Sp"],
    "9 1:1 13 7f 15df 97f:a 24 2f fa0"),
  (["ST", "STerm"],
    String.join ["21 1d 549 93:2 b4 2b:2 f6 3d 1 3:1 125:1 6e4:1 316 4:1 305 c6:1 9d:1 2d 5 13a:1 162:3 a2:1 a:1 ",
      "2:1 1d:2 bb:1 41:1 3bc:1 9:2 caf:2 132 d 16:1 1ad 74fc 10e:1 e3 3 17e:1 56:1 5f 98:1 93:2 90:1 ",
      "f9 5226 2:1 3f:1 a9 1d 41 af4:1 4fd:4 2c:3 bd:1 75:3 7f:2 81:1 6 10:1 58:1 1:1 6c 12a:1 75:1 ",
      "175:1 5:e 69:1 f9:2 205 1 fb:1 57:1 1a4:1 2b4:1 4a:1 4b29:1 85 41:1 b 229:1 128 4e06 1de8"]),
  (["UP", "Upper"],
    String.join ["41:19 65:16 1:6 21 1 1 1 1 1 1 1 1 1 1 1 1 1 1 1 1 1 1 1 1 1 1 1 1 1 1 1 2 1 1 1 1 1 1 1 2 1 1 ",
      "1 1 1 1 1 1 1 1 1 1 1 1 1 1 1 1 1 1 1 1 1:1 1 1 3:1 1 1:1 1:2 2:3 1:1 1:2 3:1 1:1 1 1 1:1 1 2 ",
      "1:1 1:2 1 1:1 3 7:1 1:1 1:1 1 1 1 1 1 1 1 1 2 1 1 1 1 1 1 1 1 2:1 1 1:2 1 1 1 1 1 1 1 1 1 1 1 1 ",
      "1 1 1 1 1 1 1 1 1 1 1 1 1 1 1 1 1 7:1 1:1 2 1:3 1 1 1 1 121 1 3 8 6 1:2 1 1:1 1:10 1:8 23 2:2 3 ",
      "1 1 1 1 1 1 1 1 1 1 1 5 2 1:1 2:32 30 1 1 1 1 1 1 1 1 1 1 1 1 1 1 1 1 9 1 1 1 1 1 1 1 1 1 1 1 1 ",
      "1 1 1 1 1 1 1 1 1 1 1 1 1 1 1:1 1 1 1 1 1 1 2 1 1 1 1 1 1 1 1 1 1 1 1 1 1 1 1 1 1 1 1 1 1 1 1 1 ",
      "1 1 1 1 1 1 1 1 1 1 1 1 1 1 1 1 1 1 1 1 1 1 2:25 b49:25 1 5 2d2:55 893 176 1 1 1 1 1 1 1 1 1 1 ",
      "1 1 1 1 1 1 1 1 1 1 1 1 1 1 1 1 1 1 1 1 1 1 1 1 1 1 1 1 1 1 1 1 1 1 1 1 1 1 1 1 1 1 1 1 1 1 1 1 ",
      "1 1 1 1 1 1 1 1 1 1 1 1 1 1 1 1 9 1 1 1 1 1 1 1 1 1 1 1 1 1 1 1 1 1 1 1 1 1 1 1 1 1 1 1 1 1 1 1 ",
      "1 1 1 1 1 1 1 1 1 1 1 1 1 1 1 1 1 9:7 8:5 a:7 8:7 8:5 b 1 1 1 8:7 18:7 8:7 8:7 8:4 b:4 b:3 c:4 ",
      "b:4 105 4 3:2 2:2 2 3:4 6 1 1 1:3 2:3 a:1 5 1a:f 13 332:19 730:2f 30 1:2 2 1 1 1:3 1 2 8:2 1 1 ",
      "1 1 1 1 1 1 1 1 1 1 1 1 1 1 1 1 1 1 1 1 1 1 1 1 1 1 1 1 1 1 1 1 1 1 1 1 1 1 1 1 1 1 1 1 1 1 1 8 ",
      "1 4 794d 1 1 1 1 1 1 1 1 1 1 1 1 1 1 1 1 1 1 1 1 1 1 13 1 1 1 1 1 1 1 1 1 1 1 1 1 87 1 1 1 1 1 ",
      "1 3 1 1 1 1 1 1 1 1 1 1 1 1 1 1 1 1 1 1 1 1 1 1 1 1 1 1 1 1 1 1 a 1 1:1 1 1 1 1 4 1 2 1 3 1 1 1 ",
      "1 1 1 1 1 1 1:4 1:4 1 1 1 1 1 1 1 1:3 1 1:1 3 5 1 1 1 18 572b:19 4c5:27 88:23 9c:a 1:e 1:6 1:1 ",
      "6ea:32 9d:15 b3a:1f 5580:1f 65a0:19 1a:19 1a:19 1a 1:1 2 2:1 2:3 1:7 1a:19 1a:1 1:3 2:7 1:6 ",
      "1b:1 1:3 1:4 1 3:6 1b:19 1a:19 1a:19 1a:19 1a:19 1a:19 1e:18 21:18 21:18 21:18 21:18 21 1135:21 ",
      "80e:19 6:19 6:19"])]

/- Further names of values of the sentence break property that list no code point. -/
def sentenceBreaksUnlisted : List (List String) := [["XX", "Other"]]

end OptionGrammar.Unicode.Data
