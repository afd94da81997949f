import TlsScan.Unicode.Rows

/-!
# Marks, direction and joining

Properties of characters that decide how they may stand next to each other.

## Main Definitions

* `Unicode.isMark` — marks, which stand on the character before.
* `Unicode.direction` — the direction of writing.
* `Unicode.joining` — how letters join with their neighbours.
-/

namespace TlsScan.Unicode

/-- Ranges of marks. -/
def markRanges : List Range := ranges "
300 36f;483 489;591 5bd;5bf 5bf;5c1 5c2;5c4 5c5;5c7 5c7;610 61a;64b 65f;670 670;6d6 6dc;6df 6e4;
6e7 6e8;6ea 6ed;711 711;730 74a;7a6 7b0;7eb 7f3;7fd 7fd;816 819;81b 823;825 827;829 82d;859 85b;
898 89f;8ca 903;93a 93c;93e 94f;951 957;962 963;981 983;9bc 9bc;9be 9cd;9d7 9d7;9e2 9e3;9fe a03;
a3c a51;a70 a71;a75 a75;a81 a83;abc abc;abe acd;ae2 ae3;afa b03;b3c b3c;b3e b57;b62 b63;b82 b82;
bbe bcd;bd7 bd7;c00 c04;c3c c3c;c3e c56;c62 c63;c81 c83;cbc cbc;cbe cd6;ce2 ce3;d00 d03;d3b d3c;
d3e d4d;d57 d57;d62 d63;d81 d83;dca ddf;df2 df3;e31 e31;e34 e3a;e47 e4e;eb1 eb1;eb4 ebc;ec8 ecd;
f18 f19;f35 f35;f37 f37;f39 f39;f3e f3f;f71 f84;f86 f87;f8d fbc;fc6 fc6;102b 103e;1056 1059;105e
1060;1062 1064;1067 106d;1071 1074;1082 108d;108f 108f;109a 109d;135d 135f;1712 1715;1732 1734;
1752 1753;1772 1773;17b6 17d3;17dd 17dd;1885 1886;18a9 18a9;1920 193b;1a17 1a1b;1a55 1a7f;1ab0
1b04;1b34 1b44;1b6b 1b73;1b80 1b82;1ba1 1bad;1be6 1bf3;1c24 1c37;1cd0 1cd2;1cd4 1ce8;1ced 1ced;
1cf4 1cf4;1cf7 1cf9;1dc0 1dff;20d0 20f0;2cef 2cf1;2d7f 2d7f;2de0 2dff;302a 302f;3099 309a;a66f
a672;a674 a67d;a69e a69f;a6f0 a6f1;a802 a802;a806 a806;a80b a80b;a823 a827;a82c a82c;a880 a881;
a8b4 a8c5;a8e0 a8f1;a8ff a8ff;a926 a92d;a947 a953;a980 a983;a9b3 a9c0;a9e5 a9e5;aa29 aa36;aa43
aa43;aa4c aa4d;aa7b aa7d;aab0 aab0;aab2 aab4;aab7 aab8;aabe aabf;aac1 aac1;aaeb aaef;aaf5 aaf6;
abe3 abea;abec abed;fb1e fb1e;fe20 fe2f;101fd 101fd;102e0 102e0;10376 1037a;10a01 10a0f;10a38
10a3f;10ae5 10ae6;10d24 10d27;10eab 10eac;10f46 10f50;10f82 10f85;11000 11002;11038 11046;11070
11070;11073 11074;1107f 11082;110b0 110ba;110c2 110c2;11100 11102;11127 11134;11145 11146;11173
11173;11180 11182;111b3 111c0;111c9 111cc;111ce 111cf;1122c 11237;1123e 1123e;112df 112ea;11300
11303;1133b 1133c;1133e 1134d;11357 11357;11362 11374;11435 11446;1145e 1145e;114b0 114c3;115af
115c0;115dc 115dd;11630 11640;116ab 116b7;1171d 1172b;1182c 1183a;11930 1193e;11940 11940;11942
11943;119d1 119e0;119e4 119e4;11a01 11a0a;11a33 11a39;11a3b 11a3e;11a47 11a47;11a51 11a5b;11a8a
11a99;11c2f 11c3f;11c92 11cb6;11d31 11d45;11d47 11d47;11d8a 11d97;11ef3 11ef6;16af0 16af4;16b30
16b36;16f4f 16f4f;16f51 16f92;16fe4 16ff1;1bc9d 1bc9e;1cf00 1cf46;1d165 1d169;1d16d 1d182;1d185
1d18b;1d1aa 1d1ad;1d242 1d244;1da00 1da36;1da3b 1da6c;1da75 1da75;1da84 1da84;1da9b 1daaf;1e000
1e02a;1e130 1e136;1e2ae 1e2ae;1e2ec 1e2ef;1e8d0 1e8d6;1e944 1e94a"

/-- **Whether a character is a mark.** -/
def isMark (c : Char) : Bool := isIn markRanges c

/-- The directions of writing. -/
inductive Direction where
  | leftToRight | rightToLeft | arabicLetter | arabicNumber | europeanNumber
  | europeanSeparator | commonSeparator | europeanTerminator | otherNeutral
  | boundaryNeutral | mark | other
  deriving DecidableEq, Repr

/-- Ranges of characters with the numbers of their directions, in the order above. -/
def directionRanges : List Range := ranges "
0 8 9;9 d b;e 1b 9;1c 20 b;21 22 8;23 25 7;26 2a 8;2b 2b 5;2c 2c 6;2d 2d 5;2e 2f 6;30 39 4;3a 3a
6;3b 60 8;7b 7e 8;7f 7f 9;a1 a1 8;a2 a5 7;a6 ae 8;b0 b1 7;b6 d7 8;f7 f7 8;2b9 2ba 8;2c2 2cf 8;
2d2 2ed 8;2ef 2ff 8;300 36f a;375 375 8;3f6 3f6 8;483 489 a;58a 58e 8;58f 58f 7;591 5bd a;5be
5be 1;5bf 5bf a;5c0 5c0 1;5c1 5c2 a;5c3 5c3 1;5c4 5c5 a;5c6 5c6 1;5c7 5c7 a;5d0 5f4 1;606 607 8;
608 608 2;609 60a 7;60b 60b 2;60c 60c 6;60d 60d 2;60e 60f 8;610 61a a;61b 64a 2;64b 65f a;660
669 3;66a 66a 7;66b 66c 3;66d 66f 2;670 670 a;671 6d5 2;6d6 6dc a;6de 6de 8;6df 6e4 a;6e5 6e6 2;
6e7 6e8 a;6e9 6e9 8;6ea 6ed a;6ee 6ef 2;6f0 6f9 4;6fa 710 2;711 711 a;712 72f 2;730 74a a;74d
7a5 2;7a6 7b0 a;7b1 7b1 2;7c0 7ea 1;7eb 7f3 a;7f4 7f5 1;7f6 7f9 8;7fa 7fa 1;7fd 7fd a;7fe 815 1;
816 819 a;81a 81a 1;81b 823 a;824 824 1;825 827 a;828 828 1;829 82d a;830 858 1;859 85b a;85e
85e 1;860 88e 2;898 89f a;8a0 8c9 2;8ca 902 a;93a 93a a;93c 93c a;941 948 a;94d 94d a;951 957 a;
962 963 a;981 981 a;9bc 9bc a;9c1 9c4 a;9cd 9cd a;9e2 9e3 a;9f2 9f3 7;9fb 9fb 7;9fe a02 a;a3c
a3c a;a41 a51 a;a70 a71 a;a75 a75 a;a81 a82 a;abc abc a;ac1 ac8 a;acd acd a;ae2 ae3 a;af1 af1 7;
afa b01 a;b3c b3c a;b3f b3f a;b41 b44 a;b4d b56 a;b62 b63 a;b82 b82 a;bc0 bc0 a;bcd bcd a;bf3
bf8 8;bf9 bf9 7;bfa bfa 8;c00 c00 a;c04 c04 a;c3c c3c a;c3e c40 a;c46 c56 a;c62 c63 a;c78 c7e 8;
c81 c81 a;cbc cbc a;ccc ccd a;ce2 ce3 a;d00 d01 a;d3b d3c a;d41 d44 a;d4d d4d a;d62 d63 a;d81
d81 a;dca dca a;dd2 dd6 a;e31 e31 a;e34 e3a a;e3f e3f 7;e47 e4e a;eb1 eb1 a;eb4 ebc a;ec8 ecd a;
f18 f19 a;f35 f35 a;f37 f37 a;f39 f39 a;f3a f3d 8;f71 f7e a;f80 f84 a;f86 f87 a;f8d fbc a;fc6
fc6 a;102d 1030 a;1032 1037 a;1039 103a a;103d 103e a;1058 1059 a;105e 1060 a;1071 1074 a;1082
1082 a;1085 1086 a;108d 108d a;109d 109d a;135d 135f a;1390 1399 8;1400 1400 8;169b 169c 8;1712
1714 a;1732 1733 a;1752 1753 a;1772 1773 a;17b7 17bd a;17c6 17c6 a;17c9 17d3 a;17db 17db 7;17dd
17dd a;17f0 180a 8;1885 1886 a;18a9 18a9 a;1920 1922 a;1927 1928 a;1932 1932 a;1939 193b a;1940
1945 8;19de 19ff 8;1a17 1a18 a;1a1b 1a1b a;1a56 1a56 a;1a58 1a60 a;1a62 1a62 a;1a65 1a6c a;1a73
1a7f a;1ab0 1b03 a;1b34 1b34 a;1b36 1b3a a;1b3c 1b3c a;1b42 1b42 a;1b6b 1b73 a;1b80 1b81 a;1ba2
1ba5 a;1ba8 1ba9 a;1bab 1bad a;1be6 1be6 a;1be8 1be9 a;1bed 1bed a;1bef 1bf1 a;1c2c 1c33 a;1c36
1c37 a;1cd0 1cd2 a;1cd4 1ce0 a;1ce2 1ce8 a;1ced 1ced a;1cf4 1cf4 a;1cf8 1cf9 a;1dc0 1dff a;200c
200d 9;2010 2027 8;2030 2032 7;2035 2043 8;2044 2044 6;2045 205e 8;20a0 20c0 7;20d0 20f0 a;2104
2129 8;212e 212e 7;213a 214d 8;218a 2211 8;2212 2212 5;2213 2213 7;2214 2335 8;237b 2394 8;2396
26ab 8;26ad 27ff 8;2900 2bff 8;2ce5 2cea 8;2cef 2cf1 a;2cf9 2cff 8;2d7f 2d7f a;2de0 2dff a;2e00
3004 8;3008 3020 8;302a 302d a;3030 3030 8;3037 3037 8;303d 303f 8;3099 309a a;30a0 30a0 8;30fb
30fb 8;31c0 31e3 8;4dc0 4dff 8;a490 a4c6 8;a60d a60f 8;a66f a672 a;a673 a673 8;a674 a67d a;a67e
a67f 8;a69e a69f a;a6f0 a6f1 a;a700 a721 8;a788 a788 8;a802 a802 a;a806 a806 a;a80b a80b a;a825
a826 a;a828 a82b 8;a82c a82c a;a838 a839 7;a874 a877 8;a8c4 a8c5 a;a8e0 a8f1 a;a8ff a8ff a;a926
a92d a;a947 a951 a;a980 a982 a;a9b3 a9b3 a;a9b6 a9b9 a;a9bc a9bd a;a9e5 a9e5 a;aa29 aa2e a;aa31
aa32 a;aa35 aa36 a;aa43 aa43 a;aa4c aa4c a;aa7c aa7c a;aab0 aab0 a;aab2 aab4 a;aab7 aab8 a;aabe
aabf a;aac1 aac1 a;aaec aaed a;aaf6 aaf6 a;ab6a ab6b 8;abe5 abe5 a;abe8 abe8 a;abed abed a;fb1e
fb1e a;fbb2 fbc2 2;fd3e fdff 8;fe20 fe2f a;fe45 fe46 8;fe73 fe73 2;10101 10101 8;10140 1018c 8;
10190 101a0 8;101fd 101fd a;102e0 102e0 a;102e1 102fb 4;10376 1037a a;10800 1091b 1;1091f 1091f
8;10920 10a00 1;10a01 10a0f a;10a10 10a35 1;10a38 10a3f a;10a40 10ae4 1;10ae5 10ae6 a;10aeb
10b35 1;10b39 10b3f 8;10b40 10cff 1;10d00 10d23 2;10d24 10d27 a;10d30 10e7e 3;10e80 10ea9 1;
10eab 10eac a;10ead 10f27 1;10f30 10f45 2;10f46 10f50 a;10f51 10f59 2;10f70 10f81 1;10f82 10f85
a;10f86 10ff6 1;11001 11001 a;11038 11046 a;11052 11065 8;11070 11070 a;11073 11074 a;1107f
11081 a;110b3 110b6 a;110b9 110ba a;110c2 110c2 a;11100 11102 a;11127 1112b a;1112d 11134 a;
11173 11173 a;11180 11181 a;111b6 111be a;111c9 111cc a;111cf 111cf a;1122f 11231 a;11234 11234
a;11236 11237 a;1123e 1123e a;112df 112df a;112e3 112ea a;11300 11301 a;1133b 1133c a;11340
11340 a;11366 11374 a;11438 1143f a;11442 11444 a;11446 11446 a;1145e 1145e a;114b3 114b8 a;
114ba 114ba a;114bf 114c0 a;114c2 114c3 a;115b2 115b5 a;115bc 115bd a;115bf 115c0 a;115dc 115dd
a;11633 1163a a;1163d 1163d a;1163f 11640 a;11660 1166c 8;116ab 116ab a;116ad 116ad a;116b0
116b5 a;116b7 116b7 a;1171d 1171f a;11722 11725 a;11727 1172b a;1182f 11837 a;11839 1183a a;
1193b 1193c a;1193e 1193e a;11943 11943 a;119d4 119db a;119e0 119e0 a;11a01 11a06 a;11a09 11a0a
a;11a33 11a38 a;11a3b 11a3e a;11a47 11a47 a;11a51 11a56 a;11a59 11a5b a;11a8a 11a96 a;11a98
11a99 a;11c30 11c3d a;11c92 11ca7 a;11caa 11cb0 a;11cb2 11cb3 a;11cb5 11cb6 a;11d31 11d45 a;
11d47 11d47 a;11d90 11d91 a;11d95 11d95 a;11d97 11d97 a;11ef3 11ef4 a;11fd5 11fdc 8;11fdd 11fe0
7;11fe1 11ff1 8;16af0 16af4 a;16b30 16b36 a;16f4f 16f4f a;16f8f 16f92 a;16fe2 16fe2 8;16fe4
16fe4 a;1bc9d 1bc9e a;1cf00 1cf46 a;1d167 1d169 a;1d17b 1d182 a;1d185 1d18b a;1d1aa 1d1ad a;
1d1e9 1d241 8;1d242 1d244 a;1d245 1d245 8;1d300 1d356 8;1da00 1da36 a;1da3b 1da6c a;1da75 1da75
a;1da84 1da84 a;1da9b 1daaf a;1e000 1e02a a;1e130 1e136 a;1e2ae 1e2ae a;1e2ec 1e2ef a;1e2ff
1e2ff 7;1e800 1e8cf 1;1e8d0 1e8d6 a;1e922 1e943 1;1e944 1e94a a;1e94b 1e95f 1;1ec71 1ed3d 2;
1eef0 1f12f 8;1f16d 1f16f 8;1f1ad 1f1ad 8;1f260 1fbca 8"

/-- **The direction of a character**, from left to right for most. -/
def direction (c : Char) : Direction :=
  match valueIn directionRanges c with
  | 0 => .leftToRight
  | 1 => .rightToLeft
  | 2 => .arabicLetter
  | 3 => .arabicNumber
  | 4 => .europeanNumber
  | 5 => .europeanSeparator
  | 6 => .commonSeparator
  | 7 => .europeanTerminator
  | 8 => .otherNeutral
  | 9 => .boundaryNeutral
  | 10 => .mark
  | _ => .other

/-- The ways in which letters join. -/
inductive Joining where
  | apart | bothSides | right | left | transparent
  deriving DecidableEq, Repr

/-- Ranges of characters with the numbers of their ways to join, in the order above. -/
def joiningRanges : List Range := ranges "
300 36f 4;483 489 4;591 5bd 4;5bf 5bf 4;5c1 5c2 4;5c4 5c5 4;5c7 5c7 4;610 61a 4;620 620 1;622
625 2;626 626 1;627 627 2;628 628 1;629 629 2;62a 62e 1;62f 632 2;633 63f 1;641 647 1;648 648 2;
649 64a 1;64b 65f 4;66e 66f 1;670 670 4;671 673 2;679 687 1;688 699 2;69a 6bf 1;6c0 6c0 2;6c1
6c2 1;6c3 6cb 2;6cc 6cc 1;6cd 6cd 2;6ce 6ce 1;6cf 6cf 2;6d0 6d1 1;6d2 6d3 2;6d5 6d5 2;6d6 6dc 4;
6df 6e4 4;6e7 6e8 4;6ea 6ed 4;6ee 6ef 2;6fa 6fc 1;6ff 6ff 1;710 710 2;711 711 4;712 714 1;715
719 2;71a 71d 1;71e 71e 2;71f 727 1;728 728 2;729 729 1;72a 72a 2;72b 72b 1;72c 72c 2;72d 72e 1;
72f 72f 2;730 74a 4;74d 74d 2;74e 758 1;759 75b 2;75c 76a 1;76b 76c 2;76d 770 1;771 771 2;772
772 1;773 774 2;775 777 1;778 779 2;77a 77f 1;7a6 7b0 4;7ca 7ea 1;7eb 7f3 4;7fd 7fd 4;816 819 4;
81b 823 4;825 827 4;829 82d 4;840 840 2;841 845 1;846 847 2;848 848 1;849 849 2;84a 853 1;854
854 2;855 855 1;856 858 2;859 85b 4;860 860 1;862 865 1;867 867 2;868 868 1;869 882 2;886 886 1;
889 88d 1;88e 88e 2;898 89f 4;8a0 8a9 1;8aa 8ac 2;8ae 8ae 2;8af 8b0 1;8b1 8b2 2;8b3 8b8 1;8b9
8b9 2;8ba 8c8 1;8ca 902 4;93a 93a 4;93c 93c 4;941 948 4;94d 94d 4;951 957 4;962 963 4;981 981 4;
9bc 9bc 4;9c1 9c4 4;9cd 9cd 4;9e2 9e3 4;9fe a02 4;a3c a3c 4;a41 a51 4;a70 a71 4;a75 a75 4;a81
a82 4;abc abc 4;ac1 ac8 4;acd acd 4;ae2 ae3 4;afa b01 4;b3c b3c 4;b3f b3f 4;b41 b44 4;b4d b56 4;
b62 b63 4;b82 b82 4;bc0 bc0 4;bcd bcd 4;c00 c00 4;c04 c04 4;c3c c3c 4;c3e c40 4;c46 c56 4;c62
c63 4;c81 c81 4;cbc cbc 4;cbf cbf 4;cc6 cc6 4;ccc ccd 4;ce2 ce3 4;d00 d01 4;d3b d3c 4;d41 d44 4;
d4d d4d 4;d62 d63 4;d81 d81 4;dca dca 4;dd2 dd6 4;e31 e31 4;e34 e3a 4;e47 e4e 4;eb1 eb1 4;eb4
ebc 4;ec8 ecd 4;f18 f19 4;f35 f35 4;f37 f37 4;f39 f39 4;f71 f7e 4;f80 f84 4;f86 f87 4;f8d fbc 4;
fc6 fc6 4;102d 1030 4;1032 1037 4;1039 103a 4;103d 103e 4;1058 1059 4;105e 1060 4;1071 1074 4;
1082 1082 4;1085 1086 4;108d 108d 4;109d 109d 4;135d 135f 4;1712 1714 4;1732 1733 4;1752 1753 4;
1772 1773 4;17b7 17bd 4;17c6 17c6 4;17c9 17d3 4;17dd 17dd 4;1807 1807 1;1820 1878 1;1885 1886 4;
1887 18a8 1;18a9 18a9 4;18aa 18aa 1;1920 1922 4;1927 1928 4;1932 1932 4;1939 193b 4;1a17 1a18 4;
1a1b 1a1b 4;1a56 1a56 4;1a58 1a60 4;1a62 1a62 4;1a65 1a6c 4;1a73 1a7f 4;1ab0 1b03 4;1b34 1b34 4;
1b36 1b3a 4;1b3c 1b3c 4;1b42 1b42 4;1b6b 1b73 4;1b80 1b81 4;1ba2 1ba5 4;1ba8 1ba9 4;1bab 1bad 4;
1be6 1be6 4;1be8 1be9 4;1bed 1bed 4;1bef 1bf1 4;1c2c 1c33 4;1c36 1c37 4;1cd0 1cd2 4;1cd4 1ce0 4;
1ce2 1ce8 4;1ced 1ced 4;1cf4 1cf4 4;1cf8 1cf9 4;1dc0 1dff 4;20d0 20f0 4;2cef 2cf1 4;2d7f 2d7f 4;
2de0 2dff 4;302a 302d 4;3099 309a 4;a66f a672 4;a674 a67d 4;a69e a69f 4;a6f0 a6f1 4;a802 a802 4;
a806 a806 4;a80b a80b 4;a825 a826 4;a82c a82c 4;a840 a871 1;a872 a872 3;a8c4 a8c5 4;a8e0 a8f1 4;
a8ff a8ff 4;a926 a92d 4;a947 a951 4;a980 a982 4;a9b3 a9b3 4;a9b6 a9b9 4;a9bc a9bd 4;a9e5 a9e5 4;
aa29 aa2e 4;aa31 aa32 4;aa35 aa36 4;aa43 aa43 4;aa4c aa4c 4;aa7c aa7c 4;aab0 aab0 4;aab2 aab4 4;
aab7 aab8 4;aabe aabf 4;aac1 aac1 4;aaec aaed 4;aaf6 aaf6 4;abe5 abe5 4;abe8 abe8 4;abed abed 4;
fb1e fb1e 4;fe20 fe2f 4;101fd 101fd 4;102e0 102e0 4;10376 1037a 4;10a01 10a0f 4;10a38 10a3f 4;
10ac0 10ac4 1;10ac5 10ac5 2;10ac7 10ac7 2;10ac9 10aca 2;10acd 10acd 3;10ace 10ad2 2;10ad3 10ad6
1;10ad7 10ad7 3;10ad8 10adc 1;10add 10add 2;10ade 10ae0 1;10ae1 10ae1 2;10ae4 10ae4 2;10ae5
10ae6 4;10aeb 10aee 1;10aef 10aef 2;10b80 10b80 1;10b81 10b81 2;10b82 10b82 1;10b83 10b85 2;
10b86 10b88 1;10b89 10b89 2;10b8a 10b8b 1;10b8c 10b8c 2;10b8d 10b8d 1;10b8e 10b8f 2;10b90 10b90
1;10b91 10b91 2;10ba9 10bac 2;10bad 10bae 1;10d00 10d00 3;10d01 10d21 1;10d22 10d22 2;10d23
10d23 1;10d24 10d27 4;10eab 10eac 4;10f30 10f32 1;10f33 10f33 2;10f34 10f44 1;10f46 10f50 4;
10f51 10f53 1;10f54 10f54 2;10f70 10f73 1;10f74 10f75 2;10f76 10f81 1;10f82 10f85 4;10fb0 10fb0
1;10fb2 10fb3 1;10fb4 10fb6 2;10fb8 10fb8 1;10fb9 10fba 2;10fbb 10fbc 1;10fbd 10fbd 2;10fbe
10fbf 1;10fc1 10fc1 1;10fc2 10fc3 2;10fc4 10fc4 1;10fc9 10fc9 2;10fca 10fca 1;10fcb 10fcb 3;
11001 11001 4;11038 11046 4;11070 11070 4;11073 11074 4;1107f 11081 4;110b3 110b6 4;110b9 110ba
4;110c2 110c2 4;11100 11102 4;11127 1112b 4;1112d 11134 4;11173 11173 4;11180 11181 4;111b6
111be 4;111c9 111cc 4;111cf 111cf 4;1122f 11231 4;11234 11234 4;11236 11237 4;1123e 1123e 4;
112df 112df 4;112e3 112ea 4;11300 11301 4;1133b 1133c 4;11340 11340 4;11366 11374 4;11438 1143f
4;11442 11444 4;11446 11446 4;1145e 1145e 4;114b3 114b8 4;114ba 114ba 4;114bf 114c0 4;114c2
114c3 4;115b2 115b5 4;115bc 115bd 4;115bf 115c0 4;115dc 115dd 4;11633 1163a 4;1163d 1163d 4;
1163f 11640 4;116ab 116ab 4;116ad 116ad 4;116b0 116b5 4;116b7 116b7 4;1171d 1171f 4;11722 11725
4;11727 1172b 4;1182f 11837 4;11839 1183a 4;1193b 1193c 4;1193e 1193e 4;11943 11943 4;119d4
119db 4;119e0 119e0 4;11a01 11a0a 4;11a33 11a38 4;11a3b 11a3e 4;11a47 11a47 4;11a51 11a56 4;
11a59 11a5b 4;11a8a 11a96 4;11a98 11a99 4;11c30 11c3d 4;11c3f 11c3f 4;11c92 11ca7 4;11caa 11cb0
4;11cb2 11cb3 4;11cb5 11cb6 4;11d31 11d45 4;11d47 11d47 4;11d90 11d91 4;11d95 11d95 4;11d97
11d97 4;11ef3 11ef4 4;16af0 16af4 4;16b30 16b36 4;16f4f 16f4f 4;16f8f 16f92 4;16fe4 16fe4 4;
1bc9d 1bc9e 4;1cf00 1cf46 4;1d167 1d169 4;1d17b 1d182 4;1d185 1d18b 4;1d1aa 1d1ad 4;1d242 1d244
4;1da00 1da36 4;1da3b 1da6c 4;1da75 1da75 4;1da84 1da84 4;1da9b 1daaf 4;1e000 1e02a 4;1e130
1e136 4;1e2ae 1e2ae 4;1e2ec 1e2ef 4;1e8d0 1e8d6 4;1e922 1e943 1;1e944 1e94b 4"

/-- **How a character joins with its neighbours**, not at all for most. -/
def joining (c : Char) : Joining :=
  match valueIn joiningRanges c with
  | 1 => .bothSides
  | 2 => .right
  | 3 => .left
  | 4 => .transparent
  | _ => .apart

end TlsScan.Unicode
