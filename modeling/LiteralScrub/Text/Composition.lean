/-!
# Compositions of characters
-/
namespace LiteralScrub

/-- The characters that are put together from two. Each line begins with the code of the first
character; then come second ones, each with the code of both together. -/
def compositionTable : String := "
  0041;0300 00C0;0301 00C1;0302 00C2;0303 00C3;0304 0100;0306 0102;0307 0226;0308 00C4;0309 1EA2
  0041;030A 00C5;030C 01CD;030F 0200;0311 0202;0323 1EA0;0325 1E00;0328 0104
  0042;0307 1E02;0323 1E04;0331 1E06
  0043;0301 0106;0302 0108;0307 010A;030C 010C;0327 00C7
  0044;0307 1E0A;030C 010E;0323 1E0C;0327 1E10;032D 1E12;0331 1E0E
  0045;0300 00C8;0301 00C9;0302 00CA;0303 1EBC;0304 0112;0306 0114;0307 0116;0308 00CB;0309 1EBA
  0045;030C 011A;030F 0204;0311 0206;0323 1EB8;0327 0228;0328 0118;032D 1E18;0330 1E1A
  0046;0307 1E1E
  0047;0301 01F4;0302 011C;0304 1E20;0306 011E;0307 0120;030C 01E6;0327 0122
  0048;0302 0124;0307 1E22;0308 1E26;030C 021E;0323 1E24;0327 1E28;032E 1E2A
  0049;0300 00CC;0301 00CD;0302 00CE;0303 0128;0304 012A;0306 012C;0307 0130;0308 00CF;0309 1EC8
  0049;030C 01CF;030F 0208;0311 020A;0323 1ECA;0328 012E;0330 1E2C
  004A;0302 0134
  004B;0301 1E30;030C 01E8;0323 1E32;0327 0136;0331 1E34
  004C;0301 0139;030C 013D;0323 1E36;0327 013B;032D 1E3C;0331 1E3A
  004D;0301 1E3E;0307 1E40;0323 1E42
  004E;0300 01F8;0301 0143;0303 00D1;0307 1E44;030C 0147;0323 1E46;0327 0145;032D 1E4A;0331 1E48
  004F;0300 00D2;0301 00D3;0302 00D4;0303 00D5;0304 014C;0306 014E;0307 022E;0308 00D6;0309 1ECE
  004F;030B 0150;030C 01D1;030F 020C;0311 020E;031B 01A0;0323 1ECC;0328 01EA
  0050;0301 1E54;0307 1E56
  0052;0301 0154;0307 1E58;030C 0158;030F 0210;0311 0212;0323 1E5A;0327 0156;0331 1E5E
  0053;0301 015A;0302 015C;0307 1E60;030C 0160;0323 1E62;0326 0218;0327 015E
  0054;0307 1E6A;030C 0164;0323 1E6C;0326 021A;0327 0162;032D 1E70;0331 1E6E
  0055;0300 00D9;0301 00DA;0302 00DB;0303 0168;0304 016A;0306 016C;0308 00DC;0309 1EE6;030A 016E
  0055;030B 0170;030C 01D3;030F 0214;0311 0216;031B 01AF;0323 1EE4;0324 1E72;0328 0172;032D 1E76
  0055;0330 1E74
  0056;0303 1E7C;0323 1E7E
  0057;0300 1E80;0301 1E82;0302 0174;0307 1E86;0308 1E84;0323 1E88
  0058;0307 1E8A;0308 1E8C
  0059;0300 1EF2;0301 00DD;0302 0176;0303 1EF8;0304 0232;0307 1E8E;0308 0178;0309 1EF6;0323 1EF4
  005A;0301 0179;0302 1E90;0307 017B;030C 017D;0323 1E92;0331 1E94
  0061;0300 00E0;0301 00E1;0302 00E2;0303 00E3;0304 0101;0306 0103;0307 0227;0308 00E4;0309 1EA3
  0061;030A 00E5;030C 01CE;030F 0201;0311 0203;0323 1EA1;0325 1E01;0328 0105
  0062;0307 1E03;0323 1E05;0331 1E07
  0063;0301 0107;0302 0109;0307 010B;030C 010D;0327 00E7
  0064;0307 1E0B;030C 010F;0323 1E0D;0327 1E11;032D 1E13;0331 1E0F
  0065;0300 00E8;0301 00E9;0302 00EA;0303 1EBD;0304 0113;0306 0115;0307 0117;0308 00EB;0309 1EBB
  0065;030C 011B;030F 0205;0311 0207;0323 1EB9;0327 0229;0328 0119;032D 1E19;0330 1E1B
  0066;0307 1E1F
  0067;0301 01F5;0302 011D;0304 1E21;0306 011F;0307 0121;030C 01E7;0327 0123
  0068;0302 0125;0307 1E23;0308 1E27;030C 021F;0323 1E25;0327 1E29;032E 1E2B;0331 1E96
  0069;0300 00EC;0301 00ED;0302 00EE;0303 0129;0304 012B;0306 012D;0308 00EF;0309 1EC9;030C 01D0
  0069;030F 0209;0311 020B;0323 1ECB;0328 012F;0330 1E2D
  006A;0302 0135;030C 01F0
  006B;0301 1E31;030C 01E9;0323 1E33;0327 0137;0331 1E35
  006C;0301 013A;030C 013E;0323 1E37;0327 013C;032D 1E3D;0331 1E3B
  006D;0301 1E3F;0307 1E41;0323 1E43
  006E;0300 01F9;0301 0144;0303 00F1;0307 1E45;030C 0148;0323 1E47;0327 0146;032D 1E4B;0331 1E49
  006F;0300 00F2;0301 00F3;0302 00F4;0303 00F5;0304 014D;0306 014F;0307 022F;0308 00F6;0309 1ECF
  006F;030B 0151;030C 01D2;030F 020D;0311 020F;031B 01A1;0323 1ECD;0328 01EB
  0070;0301 1E55;0307 1E57
  0072;0301 0155;0307 1E59;030C 0159;030F 0211;0311 0213;0323 1E5B;0327 0157;0331 1E5F
  0073;0301 015B;0302 015D;0307 1E61;030C 0161;0323 1E63;0326 0219;0327 015F
  0074;0307 1E6B;0308 1E97;030C 0165;0323 1E6D;0326 021B;0327 0163;032D 1E71;0331 1E6F
  0075;0300 00F9;0301 00FA;0302 00FB;0303 0169;0304 016B;0306 016D;0308 00FC;0309 1EE7;030A 016F
  0075;030B 0171;030C 01D4;030F 0215;0311 0217;031B 01B0;0323 1EE5;0324 1E73;0328 0173;032D 1E77
  0075;0330 1E75
  0076;0303 1E7D;0323 1E7F
  0077;0300 1E81;0301 1E83;0302 0175;0307 1E87;0308 1E85;030A 1E98;0323 1E89
  0078;0307 1E8B;0308 1E8D
  0079;0300 1EF3;0301 00FD;0302 0177;0303 1EF9;0304 0233;0307 1E8F;0308 00FF;0309 1EF7;030A 1E99
  0079;0323 1EF5
  007A;0301 017A;0302 1E91;0307 017C;030C 017E;0323 1E93;0331 1E95
  00C2;0300 1EA6;0301 1EA4;0303 1EAA;0309 1EA8
  00C4;0304 01DE
  00C5;0301 01FA
  00C6;0301 01FC;0304 01E2
  00C7;0301 1E08
  00CA;0300 1EC0;0301 1EBE;0303 1EC4;0309 1EC2
  00CF;0301 1E2E
  00D4;0300 1ED2;0301 1ED0;0303 1ED6;0309 1ED4
  00D5;0301 1E4C;0304 022C;0308 1E4E
  00D6;0304 022A
  00D8;0301 01FE
  00DC;0300 01DB;0301 01D7;0304 01D5;030C 01D9
  00E2;0300 1EA7;0301 1EA5;0303 1EAB;0309 1EA9
  00E4;0304 01DF
  00E5;0301 01FB
  00E6;0301 01FD;0304 01E3
  00E7;0301 1E09
  00EA;0300 1EC1;0301 1EBF;0303 1EC5;0309 1EC3
  00EF;0301 1E2F
  00F4;0300 1ED3;0301 1ED1;0303 1ED7;0309 1ED5
  00F5;0301 1E4D;0304 022D;0308 1E4F
  00F6;0304 022B
  00F8;0301 01FF
  00FC;0300 01DC;0301 01D8;0304 01D6;030C 01DA
  0102;0300 1EB0;0301 1EAE;0303 1EB4;0309 1EB2
  0103;0300 1EB1;0301 1EAF;0303 1EB5;0309 1EB3
  0112;0300 1E14;0301 1E16
  0113;0300 1E15;0301 1E17
  014C;0300 1E50;0301 1E52
  014D;0300 1E51;0301 1E53
  015A;0307 1E64
  015B;0307 1E65
  0160;0307 1E66
  0161;0307 1E67
  0168;0301 1E78
  0169;0301 1E79
  016A;0308 1E7A
  016B;0308 1E7B
  017F;0307 1E9B
  01A0;0300 1EDC;0301 1EDA;0303 1EE0;0309 1EDE;0323 1EE2
  01A1;0300 1EDD;0301 1EDB;0303 1EE1;0309 1EDF;0323 1EE3
  01AF;0300 1EEA;0301 1EE8;0303 1EEE;0309 1EEC;0323 1EF0
  01B0;0300 1EEB;0301 1EE9;0303 1EEF;0309 1EED;0323 1EF1
  01B7;030C 01EE
  01EA;0304 01EC
  01EB;0304 01ED
  0226;0304 01E0
  0227;0304 01E1
  0228;0306 1E1C
  0229;0306 1E1D
  022E;0304 0230
  022F;0304 0231
  0292;030C 01EF
  0391;0300 1FBA;0301 0386;0304 1FB9;0306 1FB8;0313 1F08;0314 1F09;0345 1FBC
  0395;0300 1FC8;0301 0388;0313 1F18;0314 1F19
  0397;0300 1FCA;0301 0389;0313 1F28;0314 1F29;0345 1FCC
  0399;0300 1FDA;0301 038A;0304 1FD9;0306 1FD8;0308 03AA;0313 1F38;0314 1F39
  039F;0300 1FF8;0301 038C;0313 1F48;0314 1F49
  03A1;0314 1FEC
  03A5;0300 1FEA;0301 038E;0304 1FE9;0306 1FE8;0308 03AB;0314 1F59
  03A9;0300 1FFA;0301 038F;0313 1F68;0314 1F69;0345 1FFC
  03AC;0345 1FB4
  03AE;0345 1FC4
  03B1;0300 1F70;0301 03AC;0304 1FB1;0306 1FB0;0313 1F00;0314 1F01;0342 1FB6;0345 1FB3
  03B5;0300 1F72;0301 03AD;0313 1F10;0314 1F11
  03B7;0300 1F74;0301 03AE;0313 1F20;0314 1F21;0342 1FC6;0345 1FC3
  03B9;0300 1F76;0301 03AF;0304 1FD1;0306 1FD0;0308 03CA;0313 1F30;0314 1F31;0342 1FD6
  03BF;0300 1F78;0301 03CC;0313 1F40;0314 1F41
  03C1;0313 1FE4;0314 1FE5
  03C5;0300 1F7A;0301 03CD;0304 1FE1;0306 1FE0;0308 03CB;0313 1F50;0314 1F51;0342 1FE6
  03C9;0300 1F7C;0301 03CE;0313 1F60;0314 1F61;0342 1FF6;0345 1FF3
  03CA;0300 1FD2;0301 0390;0342 1FD7
  03CB;0300 1FE2;0301 03B0;0342 1FE7
  03CE;0345 1FF4
  03D2;0301 03D3;0308 03D4
  0406;0308 0407
  0410;0306 04D0;0308 04D2
  0413;0301 0403
  0415;0300 0400;0306 04D6;0308 0401
  0416;0306 04C1;0308 04DC
  0417;0308 04DE
  0418;0300 040D;0304 04E2;0306 0419;0308 04E4
  041A;0301 040C
  041E;0308 04E6
  0423;0304 04EE;0306 040E;0308 04F0;030B 04F2
  0427;0308 04F4
  042B;0308 04F8
  042D;0308 04EC
  0430;0306 04D1;0308 04D3
  0433;0301 0453
  0435;0300 0450;0306 04D7;0308 0451
  0436;0306 04C2;0308 04DD
  0437;0308 04DF
  0438;0300 045D;0304 04E3;0306 0439;0308 04E5
  043A;0301 045C
  043E;0308 04E7
  0443;0304 04EF;0306 045E;0308 04F1;030B 04F3
  0447;0308 04F5
  044B;0308 04F9
  044D;0308 04ED
  0456;0308 0457
  0474;030F 0476
  0475;030F 0477
  04D8;0308 04DA
  04D9;0308 04DB
  04E8;0308 04EA
  04E9;0308 04EB
  0627;0653 0622;0654 0623;0655 0625
  0648;0654 0624
  064A;0654 0626
  06C1;0654 06C2
  06D2;0654 06D3
  06D5;0654 06C0
  0928;093C 0929
  0930;093C 0931
  0933;093C 0934
  09C7;09BE 09CB;09D7 09CC
  0B47;0B3E 0B4B;0B56 0B48;0B57 0B4C
  0B92;0BD7 0B94
  0BC6;0BBE 0BCA;0BD7 0BCC
  0BC7;0BBE 0BCB
  0C46;0C56 0C48
  0CBF;0CD5 0CC0
  0CC6;0CC2 0CCA;0CD5 0CC7;0CD6 0CC8
  0CCA;0CD5 0CCB
  0D46;0D3E 0D4A;0D57 0D4C
  0D47;0D3E 0D4B
  0DD9;0DCA 0DDA;0DCF 0DDC;0DDF 0DDE
  0DDC;0DCA 0DDD
  1025;102E 1026
  1B05;1B35 1B06
  1B07;1B35 1B08
  1B09;1B35 1B0A
  1B0B;1B35 1B0C
  1B0D;1B35 1B0E
  1B11;1B35 1B12
  1B3A;1B35 1B3B
  1B3C;1B35 1B3D
  1B3E;1B35 1B40
  1B3F;1B35 1B41
  1B42;1B35 1B43
  1E36;0304 1E38
  1E37;0304 1E39
  1E5A;0304 1E5C
  1E5B;0304 1E5D
  1E62;0307 1E68
  1E63;0307 1E69
  1EA0;0302 1EAC;0306 1EB6
  1EA1;0302 1EAD;0306 1EB7
  1EB8;0302 1EC6
  1EB9;0302 1EC7
  1ECC;0302 1ED8
  1ECD;0302 1ED9
  1F00;0300 1F02;0301 1F04;0342 1F06;0345 1F80
  1F01;0300 1F03;0301 1F05;0342 1F07;0345 1F81
  1F02;0345 1F82
  1F03;0345 1F83
  1F04;0345 1F84
  1F05;0345 1F85
  1F06;0345 1F86
  1F07;0345 1F87
  1F08;0300 1F0A;0301 1F0C;0342 1F0E;0345 1F88
  1F09;0300 1F0B;0301 1F0D;0342 1F0F;0345 1F89
  1F0A;0345 1F8A
  1F0B;0345 1F8B
  1F0C;0345 1F8C
  1F0D;0345 1F8D
  1F0E;0345 1F8E
  1F0F;0345 1F8F
  1F10;0300 1F12;0301 1F14
  1F11;0300 1F13;0301 1F15
  1F18;0300 1F1A;0301 1F1C
  1F19;0300 1F1B;0301 1F1D
  1F20;0300 1F22;0301 1F24;0342 1F26;0345 1F90
  1F21;0300 1F23;0301 1F25;0342 1F27;0345 1F91
  1F22;0345 1F92
  1F23;0345 1F93
  1F24;0345 1F94
  1F25;0345 1F95
  1F26;0345 1F96
  1F27;0345 1F97
  1F28;0300 1F2A;0301 1F2C;0342 1F2E;0345 1F98
  1F29;0300 1F2B;0301 1F2D;0342 1F2F;0345 1F99
  1F2A;0345 1F9A
  1F2B;0345 1F9B
  1F2C;0345 1F9C
  1F2D;0345 1F9D
  1F2E;0345 1F9E
  1F2F;0345 1F9F
  1F30;0300 1F32;0301 1F34;0342 1F36
  1F31;0300 1F33;0301 1F35;0342 1F37
  1F38;0300 1F3A;0301 1F3C;0342 1F3E
  1F39;0300 1F3B;0301 1F3D;0342 1F3F
  1F40;0300 1F42;0301 1F44
  1F41;0300 1F43;0301 1F45
  1F48;0300 1F4A;0301 1F4C
  1F49;0300 1F4B;0301 1F4D
  1F50;0300 1F52;0301 1F54;0342 1F56
  1F51;0300 1F53;0301 1F55;0342 1F57
  1F59;0300 1F5B;0301 1F5D;0342 1F5F
  1F60;0300 1F62;0301 1F64;0342 1F66;0345 1FA0
  1F61;0300 1F63;0301 1F65;0342 1F67;0345 1FA1
  1F62;0345 1FA2
  1F63;0345 1FA3
  1F64;0345 1FA4
  1F65;0345 1FA5
  1F66;0345 1FA6
  1F67;0345 1FA7
  1F68;0300 1F6A;0301 1F6C;0342 1F6E;0345 1FA8
  1F69;0300 1F6B;0301 1F6D;0342 1F6F;0345 1FA9
  1F6A;0345 1FAA
  1F6B;0345 1FAB
  1F6C;0345 1FAC
  1F6D;0345 1FAD
  1F6E;0345 1FAE
  1F6F;0345 1FAF
  1F70;0345 1FB2
  1F74;0345 1FC2
  1F7C;0345 1FF2
  1FB6;0345 1FB7
  1FC6;0345 1FC7
  1FF6;0345 1FF7
  3046;3099 3094
  304B;3099 304C
  304D;3099 304E
  304F;3099 3050
  3051;3099 3052
  3053;3099 3054
  3055;3099 3056
  3057;3099 3058
  3059;3099 305A
  305B;3099 305C
  305D;3099 305E
  305F;3099 3060
  3061;3099 3062
  3064;3099 3065
  3066;3099 3067
  3068;3099 3069
  306F;3099 3070;309A 3071
  3072;3099 3073;309A 3074
  3075;3099 3076;309A 3077
  3078;3099 3079;309A 307A
  307B;3099 307C;309A 307D
  309D;3099 309E
  30A6;3099 30F4
  30AB;3099 30AC
  30AD;3099 30AE
  30AF;3099 30B0
  30B1;3099 30B2
  30B3;3099 30B4
  30B5;3099 30B6
  30B7;3099 30B8
  30B9;3099 30BA
  30BB;3099 30BC
  30BD;3099 30BE
  30BF;3099 30C0
  30C1;3099 30C2
  30C4;3099 30C5
  30C6;3099 30C7
  30C8;3099 30C9
  30CF;3099 30D0;309A 30D1
  30D2;3099 30D3;309A 30D4
  30D5;3099 30D6;309A 30D7
  30D8;3099 30D9;309A 30DA
  30DB;3099 30DC;309A 30DD
  30EF;3099 30F7
  30F0;3099 30F8
  30F1;3099 30F9
  30F2;3099 30FA
  30FD;3099 30FE
  11099;110BA 1109A
  1109B;110BA 1109C
  110A5;110BA 110AB
  11131;11127 1112E
  11132;11127 1112F
  11347;1133E 1134B;11357 1134C
  114B9;114B0 114BC;114BA 114BB;114BD 114BE
  115B8;115AF 115BA
  115B9;115AF 115BB
  11935;11930 11938
"

end LiteralScrub
