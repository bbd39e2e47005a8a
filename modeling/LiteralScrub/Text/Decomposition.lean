/-!
# Decompositions of characters
-/
namespace LiteralScrub

/-- The characters of names that stand for others. Each line begins with a code; then come, for the
character of this code and for those that follow, the codes of what it stands for. Where nothing is
given the character stands for itself. -/
def decompositionTable : String := "
  00AA;0061
  00B5;03BC
  00BA;006F
  00C0;0041 0300;0041 0301;0041 0302;0041 0303;0041 0308;0041 030A;;0043 0327;0045 0300;0045 0301
  00CA;0045 0302;0045 0308;0049 0300;0049 0301;0049 0302;0049 0308;;004E 0303;004F 0300;004F 0301
  00D4;004F 0302;004F 0303;004F 0308;;;0055 0300;0055 0301;0055 0302;0055 0308;0059 0301;;;0061 0300
  00E1;0061 0301;0061 0302;0061 0303;0061 0308;0061 030A;;0063 0327;0065 0300;0065 0301;0065 0302
  00EB;0065 0308;0069 0300;0069 0301;0069 0302;0069 0308;;006E 0303;006F 0300;006F 0301;006F 0302
  00F5;006F 0303;006F 0308;;;0075 0300;0075 0301;0075 0302;0075 0308;0079 0301;;0079 0308;0041 0304
  0101;0061 0304;0041 0306;0061 0306;0041 0328;0061 0328;0043 0301;0063 0301;0043 0302;0063 0302
  010A;0043 0307;0063 0307;0043 030C;0063 030C;0044 030C;0064 030C;;;0045 0304;0065 0304;0045 0306
  0115;0065 0306;0045 0307;0065 0307;0045 0328;0065 0328;0045 030C;0065 030C;0047 0302;0067 0302
  011E;0047 0306;0067 0306;0047 0307;0067 0307;0047 0327;0067 0327;0048 0302;0068 0302;;;0049 0303
  0129;0069 0303;0049 0304;0069 0304;0049 0306;0069 0306;0049 0328;0069 0328;0049 0307;;0049 004A
  0133;0069 006A;004A 0302;006A 0302;004B 0327;006B 0327;;004C 0301;006C 0301;004C 0327;006C 0327
  013D;004C 030C;006C 030C;004C 00B7;006C 00B7;;;004E 0301;006E 0301;004E 0327;006E 0327;004E 030C
  0148;006E 030C;02BC 006E;;;004F 0304;006F 0304;004F 0306;006F 0306;004F 030B;006F 030B;;;0052 0301
  0155;0072 0301;0052 0327;0072 0327;0052 030C;0072 030C;0053 0301;0073 0301;0053 0302;0073 0302
  015E;0053 0327;0073 0327;0053 030C;0073 030C;0054 0327;0074 0327;0054 030C;0074 030C;;;0055 0303
  0169;0075 0303;0055 0304;0075 0304;0055 0306;0075 0306;0055 030A;0075 030A;0055 030B;0075 030B
  0172;0055 0328;0075 0328;0057 0302;0077 0302;0059 0302;0079 0302;0059 0308;005A 0301;007A 0301
  017B;005A 0307;007A 0307;005A 030C;007A 030C;0073
  01A0;004F 031B;006F 031B
  01AF;0055 031B;0075 031B
  01C4;0044 005A 030C;0044 007A 030C;0064 007A 030C;004C 004A;004C 006A;006C 006A;004E 004A
  01CB;004E 006A;006E 006A;0041 030C;0061 030C;0049 030C;0069 030C;004F 030C;006F 030C;0055 030C
  01D4;0075 030C;0055 0308 0304;0075 0308 0304;0055 0308 0301;0075 0308 0301;0055 0308 030C
  01DA;0075 0308 030C;0055 0308 0300;0075 0308 0300;;0041 0308 0304;0061 0308 0304;0041 0307 0304
  01E1;0061 0307 0304;00C6 0304;00E6 0304;;;0047 030C;0067 030C;004B 030C;006B 030C;004F 0328
  01EB;006F 0328;004F 0328 0304;006F 0328 0304;01B7 030C;0292 030C;006A 030C;0044 005A;0044 007A
  01F3;0064 007A;0047 0301;0067 0301;;;004E 0300;006E 0300;0041 030A 0301;0061 030A 0301;00C6 0301
  01FD;00E6 0301;00D8 0301;00F8 0301;0041 030F;0061 030F;0041 0311;0061 0311;0045 030F;0065 030F
  0206;0045 0311;0065 0311;0049 030F;0069 030F;0049 0311;0069 0311;004F 030F;006F 030F;004F 0311
  020F;006F 0311;0052 030F;0072 030F;0052 0311;0072 0311;0055 030F;0075 030F;0055 0311;0075 0311
  0218;0053 0326;0073 0326;0054 0326;0074 0326;;;0048 030C;0068 030C
  0226;0041 0307;0061 0307;0045 0327;0065 0327;004F 0308 0304;006F 0308 0304;004F 0303 0304
  022D;006F 0303 0304;004F 0307;006F 0307;004F 0307 0304;006F 0307 0304;0059 0304;0079 0304
  02B0;0068;0266;006A;0072;0279;027B;0281;0077;0079
  02E0;0263;006C;0073;0078;0295
  0340;0300;0301;;0313;0308 0301
  0374;02B9
  0386;0391 0301;00B7;0395 0301;0397 0301;0399 0301;;039F 0301;;03A5 0301;03A9 0301;03B9 0308 0301
  03AA;0399 0308;03A5 0308;03B1 0301;03B5 0301;03B7 0301;03B9 0301;03C5 0308 0301
  03CA;03B9 0308;03C5 0308;03BF 0301;03C5 0301;03C9 0301;;03B2;03B8;03A5;03A5 0301;03A5 0308;03C6
  03D6;03C0
  03F0;03BA;03C1;03C2;;0398;03B5
  03F9;03A3
  0400;0415 0300;0415 0308;;0413 0301
  0407;0406 0308
  040C;041A 0301;0418 0300;0423 0306
  0419;0418 0306
  0439;0438 0306
  0450;0435 0300;0435 0308;;0433 0301
  0457;0456 0308
  045C;043A 0301;0438 0300;0443 0306
  0476;0474 030F;0475 030F
  04C1;0416 0306;0436 0306
  04D0;0410 0306;0430 0306;0410 0308;0430 0308;;;0415 0306;0435 0306;;;04D8 0308;04D9 0308;0416 0308
  04DD;0436 0308;0417 0308;0437 0308;;;0418 0304;0438 0304;0418 0308;0438 0308;041E 0308;043E 0308
  04EA;04E8 0308;04E9 0308;042D 0308;044D 0308;0423 0304;0443 0304;0423 0308;0443 0308;0423 030B
  04F3;0443 030B;0427 0308;0447 0308;;;042B 0308;044B 0308
  0587;0565 0582
  0622;0627 0653;0627 0654;0648 0654;0627 0655;064A 0654
  0675;0627 0674;0648 0674;06C7 0674;064A 0674
  06C0;06D5 0654;;06C1 0654
  06D3;06D2 0654
  0929;0928 093C
  0931;0930 093C;;;0933 093C
  0958;0915 093C;0916 093C;0917 093C;091C 093C;0921 093C;0922 093C;092B 093C;092F 093C
  09CB;09C7 09BE;09C7 09D7
  09DC;09A1 09BC;09A2 09BC;;09AF 09BC
  0A33;0A32 0A3C;;;0A38 0A3C
  0A59;0A16 0A3C;0A17 0A3C;0A1C 0A3C;;;0A2B 0A3C
  0B48;0B47 0B56;;;0B47 0B3E;0B47 0B57
  0B5C;0B21 0B3C;0B22 0B3C
  0B94;0B92 0BD7
  0BCA;0BC6 0BBE;0BC7 0BBE;0BC6 0BD7
  0C48;0C46 0C56
  0CC0;0CBF 0CD5
  0CC7;0CC6 0CD5;0CC6 0CD6;;0CC6 0CC2;0CC6 0CC2 0CD5
  0D4A;0D46 0D3E;0D47 0D3E;0D46 0D57
  0DDA;0DD9 0DCA;;0DD9 0DCF;0DD9 0DCF 0DCA;0DD9 0DDF
  0E33;0E4D 0E32
  0EB3;0ECD 0EB2
  0EDC;0EAB 0E99;0EAB 0EA1
  0F43;0F42 0FB7
  0F4D;0F4C 0FB7
  0F52;0F51 0FB7
  0F57;0F56 0FB7
  0F5C;0F5B 0FB7
  0F69;0F40 0FB5
  0F73;0F71 0F72;;0F71 0F74;0FB2 0F80;0FB2 0F71 0F80;0FB3 0F80;0FB3 0F71 0F80
  0F81;0F71 0F80
  0F93;0F92 0FB7
  0F9D;0F9C 0FB7
  0FA2;0FA1 0FB7
  0FA7;0FA6 0FB7
  0FAC;0FAB 0FB7
  0FB9;0F90 0FB5
  1026;1025 102E
  10FC;10DC
  1B06;1B05 1B35;;1B07 1B35;;1B09 1B35;;1B0B 1B35;;1B0D 1B35
  1B12;1B11 1B35
  1B3B;1B3A 1B35;;1B3C 1B35;;;1B3E 1B35;1B3F 1B35;;1B42 1B35
  1D2C;0041;00C6;0042;;0044;0045;018E;0047;0048;0049;004A;004B;004C;004D;004E;;004F;0222;0050;0052
  1D40;0054;0055;0057;0061;0250;0251;1D02;0062;0064;0065;0259;025B;025C;0067;;006B;006D;014B;006F
  1D53;0254;1D16;1D17;0070;0074;0075;1D1D;026F;0076;1D25;03B2;03B3;03B4;03C6;03C7;0069;0072;0075
  1D65;0076;03B2;03B3;03C1;03C6;03C7
  1D78;043D
  1D9B;0252;0063;0255;00F0;025C;0066;025F;0261;0265;0268;0269;026A;1D7B;029D;026D;1D85;029F;0271
  1DAD;0270;0272;0273;0274;0275;0278;0282;0283;01AB;0289;028A;1D1C;028B;028C;007A;0290;0291;0292
  1DBF;03B8
  1E00;0041 0325;0061 0325;0042 0307;0062 0307;0042 0323;0062 0323;0042 0331;0062 0331
  1E08;0043 0327 0301;0063 0327 0301;0044 0307;0064 0307;0044 0323;0064 0323;0044 0331;0064 0331
  1E10;0044 0327;0064 0327;0044 032D;0064 032D;0045 0304 0300;0065 0304 0300;0045 0304 0301
  1E17;0065 0304 0301;0045 032D;0065 032D;0045 0330;0065 0330;0045 0327 0306;0065 0327 0306
  1E1E;0046 0307;0066 0307;0047 0304;0067 0304;0048 0307;0068 0307;0048 0323;0068 0323;0048 0308
  1E27;0068 0308;0048 0327;0068 0327;0048 032E;0068 032E;0049 0330;0069 0330;0049 0308 0301
  1E2F;0069 0308 0301;004B 0301;006B 0301;004B 0323;006B 0323;004B 0331;006B 0331;004C 0323
  1E37;006C 0323;004C 0323 0304;006C 0323 0304;004C 0331;006C 0331;004C 032D;006C 032D;004D 0301
  1E3F;006D 0301;004D 0307;006D 0307;004D 0323;006D 0323;004E 0307;006E 0307;004E 0323;006E 0323
  1E48;004E 0331;006E 0331;004E 032D;006E 032D;004F 0303 0301;006F 0303 0301;004F 0303 0308
  1E4F;006F 0303 0308;004F 0304 0300;006F 0304 0300;004F 0304 0301;006F 0304 0301;0050 0301
  1E55;0070 0301;0050 0307;0070 0307;0052 0307;0072 0307;0052 0323;0072 0323;0052 0323 0304
  1E5D;0072 0323 0304;0052 0331;0072 0331;0053 0307;0073 0307;0053 0323;0073 0323;0053 0301 0307
  1E65;0073 0301 0307;0053 030C 0307;0073 030C 0307;0053 0323 0307;0073 0323 0307;0054 0307
  1E6B;0074 0307;0054 0323;0074 0323;0054 0331;0074 0331;0054 032D;0074 032D;0055 0324;0075 0324
  1E74;0055 0330;0075 0330;0055 032D;0075 032D;0055 0303 0301;0075 0303 0301;0055 0304 0308
  1E7B;0075 0304 0308;0056 0303;0076 0303;0056 0323;0076 0323;0057 0300;0077 0300;0057 0301
  1E83;0077 0301;0057 0308;0077 0308;0057 0307;0077 0307;0057 0323;0077 0323;0058 0307;0078 0307
  1E8C;0058 0308;0078 0308;0059 0307;0079 0307;005A 0302;007A 0302;005A 0323;007A 0323;005A 0331
  1E95;007A 0331;0068 0331;0074 0308;0077 030A;0079 030A;0061 02BE;0073 0307
  1EA0;0041 0323;0061 0323;0041 0309;0061 0309;0041 0302 0301;0061 0302 0301;0041 0302 0300
  1EA7;0061 0302 0300;0041 0302 0309;0061 0302 0309;0041 0302 0303;0061 0302 0303;0041 0323 0302
  1EAD;0061 0323 0302;0041 0306 0301;0061 0306 0301;0041 0306 0300;0061 0306 0300;0041 0306 0309
  1EB3;0061 0306 0309;0041 0306 0303;0061 0306 0303;0041 0323 0306;0061 0323 0306;0045 0323
  1EB9;0065 0323;0045 0309;0065 0309;0045 0303;0065 0303;0045 0302 0301;0065 0302 0301
  1EC0;0045 0302 0300;0065 0302 0300;0045 0302 0309;0065 0302 0309;0045 0302 0303;0065 0302 0303
  1EC6;0045 0323 0302;0065 0323 0302;0049 0309;0069 0309;0049 0323;0069 0323;004F 0323;006F 0323
  1ECE;004F 0309;006F 0309;004F 0302 0301;006F 0302 0301;004F 0302 0300;006F 0302 0300
  1ED4;004F 0302 0309;006F 0302 0309;004F 0302 0303;006F 0302 0303;004F 0323 0302;006F 0323 0302
  1EDA;004F 031B 0301;006F 031B 0301;004F 031B 0300;006F 031B 0300;004F 031B 0309;006F 031B 0309
  1EE0;004F 031B 0303;006F 031B 0303;004F 031B 0323;006F 031B 0323;0055 0323;0075 0323;0055 0309
  1EE7;0075 0309;0055 031B 0301;0075 031B 0301;0055 031B 0300;0075 031B 0300;0055 031B 0309
  1EED;0075 031B 0309;0055 031B 0303;0075 031B 0303;0055 031B 0323;0075 031B 0323;0059 0300
  1EF3;0079 0300;0059 0323;0079 0323;0059 0309;0079 0309;0059 0303;0079 0303
  1F00;03B1 0313;03B1 0314;03B1 0313 0300;03B1 0314 0300;03B1 0313 0301;03B1 0314 0301
  1F06;03B1 0313 0342;03B1 0314 0342;0391 0313;0391 0314;0391 0313 0300;0391 0314 0300
  1F0C;0391 0313 0301;0391 0314 0301;0391 0313 0342;0391 0314 0342;03B5 0313;03B5 0314
  1F12;03B5 0313 0300;03B5 0314 0300;03B5 0313 0301;03B5 0314 0301;;;0395 0313;0395 0314
  1F1A;0395 0313 0300;0395 0314 0300;0395 0313 0301;0395 0314 0301;;;03B7 0313;03B7 0314
  1F22;03B7 0313 0300;03B7 0314 0300;03B7 0313 0301;03B7 0314 0301;03B7 0313 0342;03B7 0314 0342
  1F28;0397 0313;0397 0314;0397 0313 0300;0397 0314 0300;0397 0313 0301;0397 0314 0301
  1F2E;0397 0313 0342;0397 0314 0342;03B9 0313;03B9 0314;03B9 0313 0300;03B9 0314 0300
  1F34;03B9 0313 0301;03B9 0314 0301;03B9 0313 0342;03B9 0314 0342;0399 0313;0399 0314
  1F3A;0399 0313 0300;0399 0314 0300;0399 0313 0301;0399 0314 0301;0399 0313 0342;0399 0314 0342
  1F40;03BF 0313;03BF 0314;03BF 0313 0300;03BF 0314 0300;03BF 0313 0301;03BF 0314 0301;;;039F 0313
  1F49;039F 0314;039F 0313 0300;039F 0314 0300;039F 0313 0301;039F 0314 0301;;;03C5 0313;03C5 0314
  1F52;03C5 0313 0300;03C5 0314 0300;03C5 0313 0301;03C5 0314 0301;03C5 0313 0342;03C5 0314 0342
  1F59;03A5 0314;;03A5 0314 0300;;03A5 0314 0301;;03A5 0314 0342;03C9 0313;03C9 0314;03C9 0313 0300
  1F63;03C9 0314 0300;03C9 0313 0301;03C9 0314 0301;03C9 0313 0342;03C9 0314 0342;03A9 0313
  1F69;03A9 0314;03A9 0313 0300;03A9 0314 0300;03A9 0313 0301;03A9 0314 0301;03A9 0313 0342
  1F6F;03A9 0314 0342;03B1 0300;03B1 0301;03B5 0300;03B5 0301;03B7 0300;03B7 0301;03B9 0300
  1F77;03B9 0301;03BF 0300;03BF 0301;03C5 0300;03C5 0301;03C9 0300;03C9 0301;;;03B1 0313 0345
  1F81;03B1 0314 0345;03B1 0313 0300 0345;03B1 0314 0300 0345;03B1 0313 0301 0345
  1F85;03B1 0314 0301 0345;03B1 0313 0342 0345;03B1 0314 0342 0345;0391 0313 0345;0391 0314 0345
  1F8A;0391 0313 0300 0345;0391 0314 0300 0345;0391 0313 0301 0345;0391 0314 0301 0345
  1F8E;0391 0313 0342 0345;0391 0314 0342 0345;03B7 0313 0345;03B7 0314 0345;03B7 0313 0300 0345
  1F93;03B7 0314 0300 0345;03B7 0313 0301 0345;03B7 0314 0301 0345;03B7 0313 0342 0345
  1F97;03B7 0314 0342 0345;0397 0313 0345;0397 0314 0345;0397 0313 0300 0345;0397 0314 0300 0345
  1F9C;0397 0313 0301 0345;0397 0314 0301 0345;0397 0313 0342 0345;0397 0314 0342 0345
  1FA0;03C9 0313 0345;03C9 0314 0345;03C9 0313 0300 0345;03C9 0314 0300 0345;03C9 0313 0301 0345
  1FA5;03C9 0314 0301 0345;03C9 0313 0342 0345;03C9 0314 0342 0345;03A9 0313 0345;03A9 0314 0345
  1FAA;03A9 0313 0300 0345;03A9 0314 0300 0345;03A9 0313 0301 0345;03A9 0314 0301 0345
  1FAE;03A9 0313 0342 0345;03A9 0314 0342 0345;03B1 0306;03B1 0304;03B1 0300 0345;03B1 0345
  1FB4;03B1 0301 0345;;03B1 0342;03B1 0342 0345;0391 0306;0391 0304;0391 0300;0391 0301;0391 0345
  1FBE;03B9
  1FC2;03B7 0300 0345;03B7 0345;03B7 0301 0345;;03B7 0342;03B7 0342 0345;0395 0300;0395 0301
  1FCA;0397 0300;0397 0301;0397 0345
  1FD0;03B9 0306;03B9 0304;03B9 0308 0300;03B9 0308 0301;;;03B9 0342;03B9 0308 0342;0399 0306
  1FD9;0399 0304;0399 0300;0399 0301
  1FE0;03C5 0306;03C5 0304;03C5 0308 0300;03C5 0308 0301;03C1 0313;03C1 0314;03C5 0342
  1FE7;03C5 0308 0342;03A5 0306;03A5 0304;03A5 0300;03A5 0301;03A1 0314
  1FF2;03C9 0300 0345;03C9 0345;03C9 0301 0345;;03C9 0342;03C9 0342 0345;039F 0300;039F 0301
  1FFA;03A9 0300;03A9 0301;03A9 0345
  2071;0069
  207F;006E
  2090;0061;0065;006F;0078;0259;0068;006B;006C;006D;006E;0070;0073;0074
  2102;0043
  2107;0190;;;0067;0048;0048;0048;0068;0127;0049;0049;004C;006C;;004E
  2119;0050;0051;0052;0052;0052
  2124;005A;;03A9;;005A;;004B;0041 030A;0042;0043;;0065;0045;0046;;004D;006F;05D0;05D1;05D2;05D3
  2139;0069;;;03C0;03B3;0393;03A0
  2145;0044;0064;0065;0069;006A
  2160;0049;0049 0049;0049 0049 0049;0049 0056;0056;0056 0049;0056 0049 0049;0056 0049 0049 0049
  2168;0049 0058;0058;0058 0049;0058 0049 0049;004C;0043;0044;004D;0069;0069 0069;0069 0069 0069
  2173;0069 0076;0076;0076 0069;0076 0069 0069;0076 0069 0069 0069;0069 0078;0078;0078 0069
  217B;0078 0069 0069;006C;0063;0064;006D
  2C7C;006A;0056
  2D6F;2D61
  3038;5341;5344;5345
  304C;304B 3099;;304D 3099;;304F 3099;;3051 3099;;3053 3099;;3055 3099;;3057 3099;;3059 3099
  305C;305B 3099;;305D 3099;;305F 3099;;3061 3099;;;3064 3099;;3066 3099;;3068 3099
  3070;306F 3099;306F 309A;;3072 3099;3072 309A;;3075 3099;3075 309A;;3078 3099;3078 309A;;307B 3099
  307D;307B 309A
  3094;3046 3099
  309E;309D 3099;3088 308A
  30AC;30AB 3099;;30AD 3099;;30AF 3099;;30B1 3099;;30B3 3099;;30B5 3099;;30B7 3099;;30B9 3099
  30BC;30BB 3099;;30BD 3099;;30BF 3099;;30C1 3099;;;30C4 3099;;30C6 3099;;30C8 3099
  30D0;30CF 3099;30CF 309A;;30D2 3099;30D2 309A;;30D5 3099;30D5 309A;;30D8 3099;30D8 309A;;30DB 3099
  30DD;30DB 309A
  30F4;30A6 3099;;;30EF 3099;30F0 3099;30F1 3099;30F2 3099
  30FE;30FD 3099;30B3 30C8
  3131;1100;1101;11AA;1102;11AC;11AD;1103;1104;1105;11B0;11B1;11B2;11B3;11B4;11B5;111A;1106;1107
  3143;1108;1121;1109;110A;110B;110C;110D;110E;110F;1110;1111;1112;1161;1162;1163;1164;1165;1166
  3155;1167;1168;1169;116A;116B;116C;116D;116E;116F;1170;1171;1172;1173;1174;1175;1160;1114;1115
  3167;11C7;11C8;11CC;11CE;11D3;11D7;11D9;111C;11DD;11DF;111D;111E;1120;1122;1123;1127;1129;112B
  3179;112C;112D;112E;112F;1132;1136;1140;1147;114C;11F1;11F2;1157;1158;1159;1184;1185;1188;1191
  318B;1192;1194;119E;11A1
  A69C;044A;044C
  A770;A76F
  A7F2;0043;0046;0051
  A7F8;0126;0153
  AB5C;A727;AB37;026B;AB52
  AB69;028D
  F900;8C48;66F4;8ECA;8CC8;6ED1;4E32;53E5;9F9C;9F9C;5951;91D1;5587;5948;61F6;7669;7F85;863F;87BA
  F912;88F8;908F;6A02;6D1B;70D9;73DE;843D;916A;99F1;4E82;5375;6B04;721B;862D;9E1E;5D50;6FEB;85CD
  F924;8964;62C9;81D8;881F;5ECA;6717;6D6A;72FC;90CE;4F86;51B7;52DE;64C4;6AD3;7210;76E7;8001;8606
  F936;865C;8DEF;9732;9B6F;9DFA;788C;797F;7DA0;83C9;9304;9E7F;8AD6;58DF;5F04;7C60;807E;7262;78CA
  F948;8CC2;96F7;58D8;5C62;6A13;6DDA;6F0F;7D2F;7E37;964B;52D2;808B;51DC;51CC;7A1C;7DBE;83F1;9675
  F95A;8B80;62CF;6A02;8AFE;4E39;5BE7;6012;7387;7570;5317;78FB;4FBF;5FA9;4E0D;6CCC;6578;7D22;53C3
  F96C;585E;7701;8449;8AAA;6BBA;8FB0;6C88;62FE;82E5;63A0;7565;4EAE;5169;51C9;6881;7CE7;826F;8AD2
  F97E;91CF;52F5;5442;5973;5EEC;65C5;6FFE;792A;95AD;9A6A;9E97;9ECE;529B;66C6;6B77;8F62;5E74;6190
  F990;6200;649A;6F23;7149;7489;79CA;7DF4;806F;8F26;84EE;9023;934A;5217;52A3;54BD;70C8;88C2;8AAA
  F9A2;5EC9;5FF5;637B;6BAE;7C3E;7375;4EE4;56F9;5BE7;5DBA;601C;73B2;7469;7F9A;8046;9234;96F6;9748
  F9B4;9818;4F8B;79AE;91B4;96B8;60E1;4E86;50DA;5BEE;5C3F;6599;6A02;71CE;7642;84FC;907C;9F8D;6688
  F9C6;962E;5289;677B;67F3;6D41;6E9C;7409;7559;786B;7D10;985E;516D;622E;9678;502B;5D19;6DEA;8F2A
  F9D8;5F8B;6144;6817;7387;9686;5229;540F;5C65;6613;674E;68A8;6CE5;7406;75E2;7F79;88CF;88E1;91CC
  F9EA;96E2;533F;6EBA;541D;71D0;7498;85FA;96A3;9C57;9E9F;6797;6DCB;81E8;7ACB;7B20;7C92;72C0;7099
  F9FC;8B58;4EC0;8336;523A;5207;5EA6;62D3;7CD6;5B85;6D1E;66B4;8F3B;884C;964D;898B;5ED3;5140;55C0
  FA10;585A;;6674;;;51DE;732A;76CA;793C;795E;7965;798F;9756;7CBE;7FBD;;8612;;8AF8;;;9038;90FD
  FA2A;98EF;98FC;9928;9DB4;90DE;96B7;4FAE;50E7;514D;52C9;52E4;5351;559D;5606;5668;5840;58A8;5C64
  FA3C;5C6E;6094;6168;618E;61F2;654F;65E2;6691;6885;6D77;6E1A;6F22;716E;722B;7422;7891;793E;7949
  FA4E;7948;7950;7956;795D;798D;798E;7A40;7A81;7BC0;7DF4;7E09;7E41;7F72;8005;81ED;8279;8279;8457
  FA60;8910;8996;8B01;8B39;8CD3;8D08;8FB6;9038;96E3;97FF;983B;6075;242EE;8218;;;4E26;51B5;5168;4F80
  FA74;5145;5180;52C7;52FA;559D;5555;5599;55E2;585A;58B3;5944;5954;5A62;5B28;5ED2;5ED9;5F69;5FAD
  FA86;60D8;614E;6108;618E;6160;61F2;6234;63C4;641C;6452;6556;6674;6717;671B;6756;6B79;6BBA;6D41
  FA98;6EDB;6ECB;6F22;701E;716E;77A7;7235;72AF;732A;7471;7506;753B;761D;761F;76CA;76DB;76F4;774A
  FAAA;7740;78CC;7AB1;7BC0;7C7B;7D5B;7DF4;7F3E;8005;8352;83EF;8779;8941;8986;8996;8ABF;8AF8;8ACB
  FABC;8B01;8AFE;8AED;8B39;8B8A;8D08;8F38;9072;9199;9276;967C;96E3;9756;97DB;97FF;980B;983B;9B12
  FACE;9F9C;2284A;22844;233D5;3B9D;4018;4039;25249;25CD0;27ED3;9F43;9F8E
  FB00;0066 0066;0066 0069;0066 006C;0066 0066 0069;0066 0066 006C;0073 0074;0073 0074
  FB13;0574 0576;0574 0565;0574 056B;057E 0576;0574 056D
  FB1D;05D9 05B4;;05F2 05B7;05E2;05D0;05D3;05D4;05DB;05DC;05DD;05E8;05EA;;05E9 05C1;05E9 05C2
  FB2C;05E9 05BC 05C1;05E9 05BC 05C2;05D0 05B7;05D0 05B8;05D0 05BC;05D1 05BC;05D2 05BC;05D3 05BC
  FB34;05D4 05BC;05D5 05BC;05D6 05BC;;05D8 05BC;05D9 05BC;05DA 05BC;05DB 05BC;05DC 05BC;;05DE 05BC
  FB40;05E0 05BC;05E1 05BC;;05E3 05BC;05E4 05BC;;05E6 05BC;05E7 05BC;05E8 05BC;05E9 05BC;05EA 05BC
  FB4B;05D5 05B9;05D1 05BF;05DB 05BF;05E4 05BF;05D0 05DC;0671;0671;067B;067B;067B;067B;067E;067E
  FB58;067E;067E;0680;0680;0680;0680;067A;067A;067A;067A;067F;067F;067F;067F;0679;0679;0679;0679
  FB6A;06A4;06A4;06A4;06A4;06A6;06A6;06A6;06A6;0684;0684;0684;0684;0683;0683;0683;0683;0686;0686
  FB7C;0686;0686;0687;0687;0687;0687;068D;068D;068C;068C;068E;068E;0688;0688;0698;0698;0691;0691
  FB8E;06A9;06A9;06A9;06A9;06AF;06AF;06AF;06AF;06B3;06B3;06B3;06B3;06B1;06B1;06B1;06B1;06BA;06BA
  FBA0;06BB;06BB;06BB;06BB;06D5 0654;06D5 0654;06C1;06C1;06C1;06C1;06BE;06BE;06BE;06BE;06D2;06D2
  FBB0;06D2 0654;06D2 0654
  FBD3;06AD;06AD;06AD;06AD;06C7;06C7;06C6;06C6;06C8;06C8;06C7 0674;06CB;06CB;06C5;06C5;06C9;06C9
  FBE4;06D0;06D0;06D0;06D0;0649;0649;064A 0654 0627;064A 0654 0627;064A 0654 06D5;064A 0654 06D5
  FBEE;064A 0654 0648;064A 0654 0648;064A 0654 06C7;064A 0654 06C7;064A 0654 06C6;064A 0654 06C6
  FBF4;064A 0654 06C8;064A 0654 06C8;064A 0654 06D0;064A 0654 06D0;064A 0654 06D0;064A 0654 0649
  FBFA;064A 0654 0649;064A 0654 0649;06CC;06CC;06CC;06CC;064A 0654 062C;064A 0654 062D
  FC02;064A 0654 0645;064A 0654 0649;064A 0654 064A;0628 062C;0628 062D;0628 062E;0628 0645
  FC09;0628 0649;0628 064A;062A 062C;062A 062D;062A 062E;062A 0645;062A 0649;062A 064A;062B 062C
  FC12;062B 0645;062B 0649;062B 064A;062C 062D;062C 0645;062D 062C;062D 0645;062E 062C;062E 062D
  FC1B;062E 0645;0633 062C;0633 062D;0633 062E;0633 0645;0635 062D;0635 0645;0636 062C;0636 062D
  FC24;0636 062E;0636 0645;0637 062D;0637 0645;0638 0645;0639 062C;0639 0645;063A 062C;063A 0645
  FC2D;0641 062C;0641 062D;0641 062E;0641 0645;0641 0649;0641 064A;0642 062D;0642 0645;0642 0649
  FC36;0642 064A;0643 0627;0643 062C;0643 062D;0643 062E;0643 0644;0643 0645;0643 0649;0643 064A
  FC3F;0644 062C;0644 062D;0644 062E;0644 0645;0644 0649;0644 064A;0645 062C;0645 062D;0645 062E
  FC48;0645 0645;0645 0649;0645 064A;0646 062C;0646 062D;0646 062E;0646 0645;0646 0649;0646 064A
  FC51;0647 062C;0647 0645;0647 0649;0647 064A;064A 062C;064A 062D;064A 062E;064A 0645;064A 0649
  FC5A;064A 064A;0630 0670;0631 0670;0649 0670
  FC64;064A 0654 0631;064A 0654 0632;064A 0654 0645;064A 0654 0646;064A 0654 0649;064A 0654 064A
  FC6A;0628 0631;0628 0632;0628 0645;0628 0646;0628 0649;0628 064A;062A 0631;062A 0632;062A 0645
  FC73;062A 0646;062A 0649;062A 064A;062B 0631;062B 0632;062B 0645;062B 0646;062B 0649;062B 064A
  FC7C;0641 0649;0641 064A;0642 0649;0642 064A;0643 0627;0643 0644;0643 0645;0643 0649;0643 064A
  FC85;0644 0645;0644 0649;0644 064A;0645 0627;0645 0645;0646 0631;0646 0632;0646 0645;0646 0646
  FC8E;0646 0649;0646 064A;0649 0670;064A 0631;064A 0632;064A 0645;064A 0646;064A 0649;064A 064A
  FC97;064A 0654 062C;064A 0654 062D;064A 0654 062E;064A 0654 0645;064A 0654 0647;0628 062C
  FC9D;0628 062D;0628 062E;0628 0645;0628 0647;062A 062C;062A 062D;062A 062E;062A 0645;062A 0647
  FCA6;062B 0645;062C 062D;062C 0645;062D 062C;062D 0645;062E 062C;062E 0645;0633 062C;0633 062D
  FCAF;0633 062E;0633 0645;0635 062D;0635 062E;0635 0645;0636 062C;0636 062D;0636 062E;0636 0645
  FCB8;0637 062D;0638 0645;0639 062C;0639 0645;063A 062C;063A 0645;0641 062C;0641 062D;0641 062E
  FCC1;0641 0645;0642 062D;0642 0645;0643 062C;0643 062D;0643 062E;0643 0644;0643 0645;0644 062C
  FCCA;0644 062D;0644 062E;0644 0645;0644 0647;0645 062C;0645 062D;0645 062E;0645 0645;0646 062C
  FCD3;0646 062D;0646 062E;0646 0645;0646 0647;0647 062C;0647 0645;0647 0670;064A 062C;064A 062D
  FCDC;064A 062E;064A 0645;064A 0647;064A 0654 0645;064A 0654 0647;0628 0645;0628 0647;062A 0645
  FCE4;062A 0647;062B 0645;062B 0647;0633 0645;0633 0647;0634 0645;0634 0647;0643 0644;0643 0645
  FCED;0644 0645;0646 0645;0646 0647;064A 0645;064A 0647;0640 064E 0651;0640 064F 0651
  FCF4;0640 0650 0651;0637 0649;0637 064A;0639 0649;0639 064A;063A 0649;063A 064A;0633 0649
  FCFC;0633 064A;0634 0649;0634 064A;062D 0649;062D 064A;062C 0649;062C 064A;062E 0649;062E 064A
  FD05;0635 0649;0635 064A;0636 0649;0636 064A;0634 062C;0634 062D;0634 062E;0634 0645;0634 0631
  FD0E;0633 0631;0635 0631;0636 0631;0637 0649;0637 064A;0639 0649;0639 064A;063A 0649;063A 064A
  FD17;0633 0649;0633 064A;0634 0649;0634 064A;062D 0649;062D 064A;062C 0649;062C 064A;062E 0649
  FD20;062E 064A;0635 0649;0635 064A;0636 0649;0636 064A;0634 062C;0634 062D;0634 062E;0634 0645
  FD29;0634 0631;0633 0631;0635 0631;0636 0631;0634 062C;0634 062D;0634 062E;0634 0645;0633 0647
  FD32;0634 0647;0637 0645;0633 062C;0633 062D;0633 062E;0634 062C;0634 062D;0634 062E;0637 0645
  FD3B;0638 0645;0627 064B;0627 064B
  FD50;062A 062C 0645;062A 062D 062C;062A 062D 062C;062A 062D 0645;062A 062E 0645;062A 0645 062C
  FD56;062A 0645 062D;062A 0645 062E;062C 0645 062D;062C 0645 062D;062D 0645 064A;062D 0645 0649
  FD5C;0633 062D 062C;0633 062C 062D;0633 062C 0649;0633 0645 062D;0633 0645 062D;0633 0645 062C
  FD62;0633 0645 0645;0633 0645 0645;0635 062D 062D;0635 062D 062D;0635 0645 0645;0634 062D 0645
  FD68;0634 062D 0645;0634 062C 064A;0634 0645 062E;0634 0645 062E;0634 0645 0645;0634 0645 0645
  FD6E;0636 062D 0649;0636 062E 0645;0636 062E 0645;0637 0645 062D;0637 0645 062D;0637 0645 0645
  FD74;0637 0645 064A;0639 062C 0645;0639 0645 0645;0639 0645 0645;0639 0645 0649;063A 0645 0645
  FD7A;063A 0645 064A;063A 0645 0649;0641 062E 0645;0641 062E 0645;0642 0645 062D;0642 0645 0645
  FD80;0644 062D 0645;0644 062D 064A;0644 062D 0649;0644 062C 062C;0644 062C 062C;0644 062E 0645
  FD86;0644 062E 0645;0644 0645 062D;0644 0645 062D;0645 062D 062C;0645 062D 0645;0645 062D 064A
  FD8C;0645 062C 062D;0645 062C 0645;0645 062E 062C;0645 062E 0645;;;0645 062C 062E;0647 0645 062C
  FD94;0647 0645 0645;0646 062D 0645;0646 062D 0649;0646 062C 0645;0646 062C 0645;0646 062C 0649
  FD9A;0646 0645 064A;0646 0645 0649;064A 0645 0645;064A 0645 0645;0628 062E 064A;062A 062C 064A
  FDA0;062A 062C 0649;062A 062E 064A;062A 062E 0649;062A 0645 064A;062A 0645 0649;062C 0645 064A
  FDA6;062C 062D 0649;062C 0645 0649;0633 062E 0649;0635 062D 064A;0634 062D 064A;0636 062D 064A
  FDAC;0644 062C 064A;0644 0645 064A;064A 062D 064A;064A 062C 064A;064A 0645 064A;0645 0645 064A
  FDB2;0642 0645 064A;0646 062D 064A;0642 0645 062D;0644 062D 0645;0639 0645 064A;0643 0645 064A
  FDB8;0646 062C 062D;0645 062E 064A;0644 062C 0645;0643 0645 0645;0644 062C 0645;0646 062C 062D
  FDBE;062C 062D 064A;062D 062C 064A;0645 062C 064A;0641 0645 064A;0628 062D 064A;0643 0645 0645
  FDC4;0639 062C 0645;0635 0645 0645;0633 062E 064A;0646 062C 064A
  FDF0;0635 0644 06D2;0642 0644 06D2;0627 0644 0644 0647;0627 0643 0628 0631;0645 062D 0645 062F
  FDF5;0635 0644 0639 0645;0631 0633 0648 0644;0639 0644 064A 0647;0648 0633 0644 0645
  FDF9;0635 0644 0649
  FE33;005F;005F
  FE4D;005F;005F;005F
  FE71;0640 064B
  FE77;0640 064E;;0640 064F;;0640 0650;;0640 0651;;0640 0652;0621;0627 0653;0627 0653;0627 0654
  FE84;0627 0654;0648 0654;0648 0654;0627 0655;0627 0655;064A 0654;064A 0654;064A 0654;064A 0654
  FE8D;0627;0627;0628;0628;0628;0628;0629;0629;062A;062A;062A;062A;062B;062B;062B;062B;062C;062C
  FE9F;062C;062C;062D;062D;062D;062D;062E;062E;062E;062E;062F;062F;0630;0630;0631;0631;0632;0632
  FEB1;0633;0633;0633;0633;0634;0634;0634;0634;0635;0635;0635;0635;0636;0636;0636;0636;0637;0637
  FEC3;0637;0637;0638;0638;0638;0638;0639;0639;0639;0639;063A;063A;063A;063A;0641;0641;0641;0641
  FED5;0642;0642;0642;0642;0643;0643;0643;0643;0644;0644;0644;0644;0645;0645;0645;0645;0646;0646
  FEE7;0646;0646;0647;0647;0647;0647;0648;0648;0649;0649;064A;064A;064A;064A;0644 0627 0653
  FEF6;0644 0627 0653;0644 0627 0654;0644 0627 0654;0644 0627 0655;0644 0627 0655;0644 0627
  FEFC;0644 0627
  FF10;0030;0031;0032;0033;0034;0035;0036;0037;0038;0039
  FF21;0041;0042;0043;0044;0045;0046;0047;0048;0049;004A;004B;004C;004D;004E;004F;0050;0051;0052
  FF33;0053;0054;0055;0056;0057;0058;0059;005A
  FF3F;005F;;0061;0062;0063;0064;0065;0066;0067;0068;0069;006A;006B;006C;006D;006E;006F;0070;0071
  FF52;0072;0073;0074;0075;0076;0077;0078;0079;007A
  FF66;30F2;30A1;30A3;30A5;30A7;30A9;30E3;30E5;30E7;30C3;30FC;30A2;30A4;30A6;30A8;30AA;30AB;30AD
  FF78;30AF;30B1;30B3;30B5;30B7;30B9;30BB;30BD;30BF;30C1;30C4;30C6;30C8;30CA;30CB;30CC;30CD;30CE
  FF8A;30CF;30D2;30D5;30D8;30DB;30DE;30DF;30E0;30E1;30E2;30E4;30E6;30E8;30E9;30EA;30EB;30EC;30ED
  FF9C;30EF;30F3;3099;309A;1160;1100;1101;11AA;1102;11AC;11AD;1103;1104;1105;11B0;11B1;11B2;11B3
  FFAE;11B4;11B5;111A;1106;1107;1108;1121;1109;110A;110B;110C;110D;110E;110F;1110;1111;1112
  FFC2;1161;1162;1163;1164;1165;1166;;;1167;1168;1169;116A;116B;116C;;;116D;116E;116F;1170;1171;1172
  FFDA;1173;1174;1175
  10781;02D0;02D1;00E6;0299;0253;;02A3;AB66;02A5;02A4;0256;0257;1D91;0258;025E;02A9;0264;0262;0260
  10794;029B;0127;029C;0267;0284;02AA;02AB;026C;1DF04;A78E;026E;1DF05;028E;1DF06;00F8;0276;0277;0071
  107A6;027A;1DF08;027D;027E;0280;02A8;02A6;AB67;02A7;0288;2C71;;028F;02A1;02A2;0298;01C0;01C1;01C2
  107B9;1DF0A;1DF1E
  1109A;11099 110BA;;1109B 110BA
  110AB;110A5 110BA
  1112E;11131 11127;11132 11127
  1134B;11347 1133E;11347 11357
  114BB;114B9 114BA;114B9 114B0;;114B9 114BD
  115BA;115B8 115AF;115B9 115AF
  11938;11935 11930
  1D400;0041;0042;0043;0044;0045;0046;0047;0048;0049;004A;004B;004C;004D;004E;004F;0050;0051;0052
  1D412;0053;0054;0055;0056;0057;0058;0059;005A;0061;0062;0063;0064;0065;0066;0067;0068;0069;006A
  1D424;006B;006C;006D;006E;006F;0070;0071;0072;0073;0074;0075;0076;0077;0078;0079;007A;0041;0042
  1D436;0043;0044;0045;0046;0047;0048;0049;004A;004B;004C;004D;004E;004F;0050;0051;0052;0053;0054
  1D448;0055;0056;0057;0058;0059;005A;0061;0062;0063;0064;0065;0066;0067;;0069;006A;006B;006C;006D
  1D45B;006E;006F;0070;0071;0072;0073;0074;0075;0076;0077;0078;0079;007A;0041;0042;0043;0044;0045
  1D46D;0046;0047;0048;0049;004A;004B;004C;004D;004E;004F;0050;0051;0052;0053;0054;0055;0056;0057
  1D47F;0058;0059;005A;0061;0062;0063;0064;0065;0066;0067;0068;0069;006A;006B;006C;006D;006E;006F
  1D491;0070;0071;0072;0073;0074;0075;0076;0077;0078;0079;007A;0041;;0043;0044;;;0047;;;004A;004B
  1D4A9;004E;004F;0050;0051;;0053;0054;0055;0056;0057;0058;0059;005A;0061;0062;0063;0064;;0066;;0068
  1D4BE;0069;006A;006B;006C;006D;006E;;0070;0071;0072;0073;0074;0075;0076;0077;0078;0079;007A;0041
  1D4D1;0042;0043;0044;0045;0046;0047;0048;0049;004A;004B;004C;004D;004E;004F;0050;0051;0052;0053
  1D4E3;0054;0055;0056;0057;0058;0059;005A;0061;0062;0063;0064;0065;0066;0067;0068;0069;006A;006B
  1D4F5;006C;006D;006E;006F;0070;0071;0072;0073;0074;0075;0076;0077;0078;0079;007A;0041;0042;;0044
  1D508;0045;0046;0047;;;004A;004B;004C;004D;004E;004F;0050;0051;;0053;0054;0055;0056;0057;0058;0059
  1D51E;0061;0062;0063;0064;0065;0066;0067;0068;0069;006A;006B;006C;006D;006E;006F;0070;0071;0072
  1D530;0073;0074;0075;0076;0077;0078;0079;007A;0041;0042;;0044;0045;0046;0047;;0049;004A;004B;004C
  1D544;004D;;004F
  1D54A;0053;0054;0055;0056;0057;0058;0059;;0061;0062;0063;0064;0065;0066;0067;0068;0069;006A;006B
  1D55D;006C;006D;006E;006F;0070;0071;0072;0073;0074;0075;0076;0077;0078;0079;007A;0041;0042;0043
  1D56F;0044;0045;0046;0047;0048;0049;004A;004B;004C;004D;004E;004F;0050;0051;0052;0053;0054;0055
  1D581;0056;0057;0058;0059;005A;0061;0062;0063;0064;0065;0066;0067;0068;0069;006A;006B;006C;006D
  1D593;006E;006F;0070;0071;0072;0073;0074;0075;0076;0077;0078;0079;007A;0041;0042;0043;0044;0045
  1D5A5;0046;0047;0048;0049;004A;004B;004C;004D;004E;004F;0050;0051;0052;0053;0054;0055;0056;0057
  1D5B7;0058;0059;005A;0061;0062;0063;0064;0065;0066;0067;0068;0069;006A;006B;006C;006D;006E;006F
  1D5C9;0070;0071;0072;0073;0074;0075;0076;0077;0078;0079;007A;0041;0042;0043;0044;0045;0046;0047
  1D5DB;0048;0049;004A;004B;004C;004D;004E;004F;0050;0051;0052;0053;0054;0055;0056;0057;0058;0059
  1D5ED;005A;0061;0062;0063;0064;0065;0066;0067;0068;0069;006A;006B;006C;006D;006E;006F;0070;0071
  1D5FF;0072;0073;0074;0075;0076;0077;0078;0079;007A;0041;0042;0043;0044;0045;0046;0047;0048;0049
  1D611;004A;004B;004C;004D;004E;004F;0050;0051;0052;0053;0054;0055;0056;0057;0058;0059;005A;0061
  1D623;0062;0063;0064;0065;0066;0067;0068;0069;006A;006B;006C;006D;006E;006F;0070;0071;0072;0073
  1D635;0074;0075;0076;0077;0078;0079;007A;0041;0042;0043;0044;0045;0046;0047;0048;0049;004A;004B
  1D647;004C;004D;004E;004F;0050;0051;0052;0053;0054;0055;0056;0057;0058;0059;005A;0061;0062;0063
  1D659;0064;0065;0066;0067;0068;0069;006A;006B;006C;006D;006E;006F;0070;0071;0072;0073;0074;0075
  1D66B;0076;0077;0078;0079;007A;0041;0042;0043;0044;0045;0046;0047;0048;0049;004A;004B;004C;004D
  1D67D;004E;004F;0050;0051;0052;0053;0054;0055;0056;0057;0058;0059;005A;0061;0062;0063;0064;0065
  1D68F;0066;0067;0068;0069;006A;006B;006C;006D;006E;006F;0070;0071;0072;0073;0074;0075;0076;0077
  1D6A1;0078;0079;007A;0131;0237;;;0391;0392;0393;0394;0395;0396;0397;0398;0399;039A;039B;039C;039D
  1D6B5;039E;039F;03A0;03A1;0398;03A3;03A4;03A5;03A6;03A7;03A8;03A9;;03B1;03B2;03B3;03B4;03B5;03B6
  1D6C8;03B7;03B8;03B9;03BA;03BB;03BC;03BD;03BE;03BF;03C0;03C1;03C2;03C3;03C4;03C5;03C6;03C7;03C8
  1D6DA;03C9;;03B5;03B8;03BA;03C6;03C1;03C0;0391;0392;0393;0394;0395;0396;0397;0398;0399;039A;039B
  1D6ED;039C;039D;039E;039F;03A0;03A1;0398;03A3;03A4;03A5;03A6;03A7;03A8;03A9;;03B1;03B2;03B3;03B4
  1D700;03B5;03B6;03B7;03B8;03B9;03BA;03BB;03BC;03BD;03BE;03BF;03C0;03C1;03C2;03C3;03C4;03C5;03C6
  1D712;03C7;03C8;03C9;;03B5;03B8;03BA;03C6;03C1;03C0;0391;0392;0393;0394;0395;0396;0397;0398;0399
  1D725;039A;039B;039C;039D;039E;039F;03A0;03A1;0398;03A3;03A4;03A5;03A6;03A7;03A8;03A9;;03B1;03B2
  1D738;03B3;03B4;03B5;03B6;03B7;03B8;03B9;03BA;03BB;03BC;03BD;03BE;03BF;03C0;03C1;03C2;03C3;03C4
  1D74A;03C5;03C6;03C7;03C8;03C9;;03B5;03B8;03BA;03C6;03C1;03C0;0391;0392;0393;0394;0395;0396;0397
  1D75D;0398;0399;039A;039B;039C;039D;039E;039F;03A0;03A1;0398;03A3;03A4;03A5;03A6;03A7;03A8;03A9
  1D770;03B1;03B2;03B3;03B4;03B5;03B6;03B7;03B8;03B9;03BA;03BB;03BC;03BD;03BE;03BF;03C0;03C1;03C2
  1D782;03C3;03C4;03C5;03C6;03C7;03C8;03C9;;03B5;03B8;03BA;03C6;03C1;03C0;0391;0392;0393;0394;0395
  1D795;0396;0397;0398;0399;039A;039B;039C;039D;039E;039F;03A0;03A1;0398;03A3;03A4;03A5;03A6;03A7
  1D7A7;03A8;03A9;;03B1;03B2;03B3;03B4;03B5;03B6;03B7;03B8;03B9;03BA;03BB;03BC;03BD;03BE;03BF;03C0
  1D7BA;03C1;03C2;03C3;03C4;03C5;03C6;03C7;03C8;03C9;;03B5;03B8;03BA;03C6;03C1;03C0;03DC;03DD;;;0030
  1D7CF;0031;0032;0033;0034;0035;0036;0037;0038;0039;0030;0031;0032;0033;0034;0035;0036;0037;0038
  1D7E1;0039;0030;0031;0032;0033;0034;0035;0036;0037;0038;0039;0030;0031;0032;0033;0034;0035;0036
  1D7F3;0037;0038;0039;0030;0031;0032;0033;0034;0035;0036;0037;0038;0039
  1EE00;0627;0628;062C;062F;;0648;0632;062D;0637;064A;0643;0644;0645;0646;0633;0639;0641;0635;0642
  1EE13;0631;0634;062A;062B;062E;0630;0636;0638;063A;066E;06BA;06A1;066F;;0628;062C;;0647;;;062D
  1EE29;064A;0643;0644;0645;0646;0633;0639;0641;0635;0642;;0634;062A;062B;062E;;0636;;063A
  1EE42;062C
  1EE47;062D;;064A;;0644;;0646;0633;0639;;0635;0642;;0634;;;062E;;0636;;063A;;06BA;;066F;;0628;062C
  1EE64;0647;;;062D;0637;064A;0643;;0645;0646;0633;0639;0641;0635;0642;;0634;062A;062B;062E;;0636
  1EE7A;0638;063A;066E;;06A1;;0627;0628;062C;062F;0647;0648;0632;062D;0637;064A;;0644;0645;0646;0633
  1EE8F;0639;0641;0635;0642;0631;0634;062A;062B;062E;0630;0636;0638;063A
  1EEA1;0628;062C;062F;;0648;0632;062D;0637;064A;;0644;0645;0646;0633;0639;0641;0635;0642;0631;0634
  1EEB5;062A;062B;062E;0630;0636;0638;063A
  1FBF0;0030;0031;0032;0033;0034;0035;0036;0037;0038;0039
  2F800;4E3D;4E38;4E41;20122;4F60;4FAE;4FBB;5002;507A;5099;50E7;50CF;349E;2063A;514D;5154;5164;5177
  2F812;2051C;34B9;5167;518D;2054B;5197;51A4;4ECC;51AC;51B5;291DF;51F5;5203;34DF;523B;5246;5272;5277
  2F824;3515;52C7;52C9;52E4;52FA;5305;5306;5317;5349;5351;535A;5373;537D;537F;537F;537F;20A2C;7070
  2F836;53CA;53DF;20B63;53EB;53F1;5406;549E;5438;5448;5468;54A2;54F6;5510;5553;5563;5584;5584;5599
  2F848;55AB;55B3;55C2;5716;5606;5717;5651;5674;5207;58EE;57CE;57F4;580D;578B;5832;5831;58AC;214E4
  2F85A;58F2;58F7;5906;591A;5922;5962;216A8;216EA;59EC;5A1B;5A27;59D8;5A66;36EE;36FC;5B08;5B3E;5B3E
  2F86C;219C8;5BC3;5BD8;5BE7;5BF3;21B18;5BFF;5C06;5F53;5C22;3781;5C60;5C6E;5CC0;5C8D;21DE4;5D43
  2F87D;21DE6;5D6E;5D6B;5D7C;5DE1;5DE2;382F;5DFD;5E28;5E3D;5E69;3862;22183;387C;5EB0;5EB3;5EB6;5ECA
  2F88F;2A392;5EFE;22331;22331;8201;5F22;5F22;38C7;232B8;261DA;5F62;5F6B;38E3;5F9A;5FCD;5FD7;5FF9
  2F8A0;6081;393A;391C;6094;226D4;60C7;6148;614C;614E;614C;617A;618E;61B2;61A4;61AF;61DE;61F2;61F6
  2F8B2;6210;621B;625D;62B1;62D4;6350;22B0C;633D;62FC;6368;6383;63E4;22BF1;6422;63C5;63A9;3A2E;6469
  2F8C4;647E;649D;6477;3A6C;654F;656C;2300A;65E3;66F8;6649;3B19;6691;3B08;3AE4;5192;5195;6700;669C
  2F8D6;80AD;43D9;6717;671B;6721;675E;6753;233C3;3B49;67FA;6785;6852;6885;2346D;688E;681F;6914;3B9D
  2F8E8;6942;69A3;69EA;6AA8;236A3;6ADB;3C18;6B21;238A7;6B54;3C4E;6B72;6B9F;6BBA;6BBB;23A8D;21D0B
  2F8F9;23AFA;6C4E;23CBC;6CBF;6CCD;6C67;6D16;6D3E;6D77;6D41;6D69;6D78;6D85;23D1E;6D34;6E2F;6E6E;3D33
  2F90B;6ECB;6EC7;23ED1;6DF9;6F6E;23F5E;23F8E;6FC6;7039;701E;701B;3D96;704A;707D;7077;70AD;20525
  2F91C;7145;24263;719C;243AB;7228;7235;7250;24608;7280;7295;24735;24814;737A;738B;3EAC;73A5;3EB8
  2F92D;3EB8;7447;745C;7471;7485;74CA;3F1B;7524;24C36;753E;24C92;7570;2219F;7610;24FA1;24FB8;25044
  2F93E;3FFC;4008;76F4;250F3;250F2;25119;25133;771E;771F;771F;774A;4039;778B;4046;4096;2541D;784E
  2F94F;788C;78CC;40E3;25626;7956;2569A;256C5;798F;79EB;412F;7A40;7A4A;7A4F;2597C;25AA7;25AA7;7AEE
  2F960;4202;25BAB;7BC6;7BC9;4227;25C80;7CD2;42A0;7CE8;7CE3;7D00;25F86;7D63;4301;7DC7;7E02;7E45;4334
  2F972;26228;26247;4359;262D9;7F7A;2633E;7F95;7FFA;8005;264DA;26523;8060;265A8;8070;2335F;43D5;80B2
  2F983;8103;440B;813E;5AB5;267A7;267B5;23393;2339C;8201;8204;8F9E;446B;8291;828B;829D;52B3;82B1
  2F994;82B3;82BD;82E6;26B3C;82E5;831D;8363;83AD;8323;83BD;83E7;8457;8353;83CA;83CC;83DC;26C36;26D6B
  2F9A6;26CD5;452B;84F1;84F3;8516;273CA;8564;26F2C;455D;4561;26FB1;270D2;456B;8650;865C;8667;8669
  2F9B7;86A9;8688;870E;86E2;8779;8728;876B;8786;45D7;87E1;8801;45F9;8860;8863;27667;88D7;88DE;4635
  2F9C9;88FA;34BB;278AE;27966;46BE;46C7;8AA0;8AED;8B8A;8C55;27CA8;8CAB;8CC1;8D1B;8D77;27F2F;20804
  2F9DA;8DCB;8DBC;8DF0;208DE;8ED4;8F38;285D2;285ED;9094;90F1;9111;2872E;911B;9238;92D7;92D8;927C
  2F9EB;93F9;9415;28BFA;958B;4995;95B7;28D77;49E6;96C3;5DB2;9723;29145;2921A;4A6E;4A76;97E0;2940A
  2F9FC;4AB2;29496;980B;980B;9829;295B6;98E2;4B33;9929;99A7;99C2;99FE;4BCE;29B30;9B12;9C40;9CFD;4CCE
  2FA0E;4CED;9D67;2A0CE;4CF8;2A105;2A20E;2A291;9EBB;4D56;9EF9;9EFE;9F05;9F0F;9F16;9F3B;2A600
"

end LiteralScrub
