import Schemata.Unicode.Table

/-! # The mapping of host names

What a character of a host name becomes: it stays, disappears, is replaced by others, or is not
allowed. In the table a run stays (`V`), disappears (`I`), is not allowed (`X`), moves up (`P`) or
down (`N`) by a number, or is replaced by a list of code points (`M`).
-/
namespace Schemata.Unicode

private def hostRuns : String :=
  "0V 41P20 5bV 80X a0N80 a1V a8M20.308 a9V aaN49 abV adI aeV afM20.304 b0V b2N80 b4M20.301 b5P307
b6V b8M20.327 b9N88 baN4b bbV bcM31.2044.34 bdM31.2044.32 beM33.2044.34 bfV c0P20 d7V d8P20 dfV
100P1 101V 102P1 103V 104P1 105V 106P1 107V 108P1 109V 10aP1 10bV 10cP1 10dV 10eP1 10fV 110P1
111V 112P1 113V 114P1 115V 116P1 117V 118P1 119V 11aP1 11bV 11cP1 11dV 11eP1 11fV 120P1 121V
122P1 123V 124P1 125V 126P1 127V 128P1 129V 12aP1 12bV 12cP1 12dV 12eP1 12fV 130M69.307 131V
132M69.6a 134P1 135V 136P1 137V 139P1 13aV 13bP1 13cV 13dP1 13eV 13fM6c.b7 141P1 142V 143P1
144V 145P1 146V 147P1 148V 149M2bc.6e 14aP1 14bV 14cP1 14dV 14eP1 14fV 150P1 151V 152P1 153V
154P1 155V 156P1 157V 158P1 159V 15aP1 15bV 15cP1 15dV 15eP1 15fV 160P1 161V 162P1 163V 164P1
165V 166P1 167V 168P1 169V 16aP1 16bV 16cP1 16dV 16eP1 16fV 170P1 171V 172P1 173V 174P1 175V
176P1 177V 178N79 179P1 17aV 17bP1 17cV 17dP1 17eV 17fN10c 180V 181Pd2 182P1 183V 184P1 185V
186Pce 187P1 188V 189Pcd 18bP1 18cV 18eP4f 18fPca 190Pcb 191P1 192V 193Pcd 194Pcf 195V 196Pd3
197Pd1 198P1 199V 19cPd3 19dPd5 19eV 19fPd6 1a0P1 1a1V 1a2P1 1a3V 1a4P1 1a5V 1a6Pda 1a7P1 1a8V
1a9Pda 1aaV 1acP1 1adV 1aePda 1afP1 1b0V 1b1Pd9 1b3P1 1b4V 1b5P1 1b6V 1b7Pdb 1b8P1 1b9V 1bcP1
1bdV 1c4M64.17e 1c7M6c.6a 1caM6e.6a 1cdP1 1ceV 1cfP1 1d0V 1d1P1 1d2V 1d3P1 1d4V 1d5P1 1d6V
1d7P1 1d8V 1d9P1 1daV 1dbP1 1dcV 1deP1 1dfV 1e0P1 1e1V 1e2P1 1e3V 1e4P1 1e5V 1e6P1 1e7V 1e8P1
1e9V 1eaP1 1ebV 1ecP1 1edV 1eeP1 1efV 1f1M64.7a 1f4P1 1f5V 1f6N61 1f7N38 1f8P1 1f9V 1faP1 1fbV
1fcP1 1fdV 1feP1 1ffV 200P1 201V 202P1 203V 204P1 205V 206P1 207V 208P1 209V 20aP1 20bV 20cP1
20dV 20eP1 20fV 210P1 211V 212P1 213V 214P1 215V 216P1 217V 218P1 219V 21aP1 21bV 21cP1 21dV
21eP1 21fV 220N82 221V 222P1 223V 224P1 225V 226P1 227V 228P1 229V 22aP1 22bV 22cP1 22dV 22eP1
22fV 230P1 231V 232P1 233V 23aP2a2b 23bP1 23cV 23dNa3 23eP2a28 23fV 241P1 242V 243Nc3 244P45
245P47 246P1 247V 248P1 249V 24aP1 24bV 24cP1 24dV 24eP1 24fV 2b0N248 2b1N4b 2b2N248 2b3N241
2b4N3b 2b5N3a 2b6N35 2b7N240 2b8N23f 2b9V 2d8M20.306 2d9M20.307 2daM20.30a 2dbM20.328
2dcM20.303 2ddM20.30b 2deV 2e0N7d 2e1N275 2e2N26f 2e3N26b 2e4N4f 2e5V 340N40 342V 343N30
344M308.301 345P74 346V 34fI 350V 370P1 371V 372P1 373V 374Nbb 375V 376P1 377V 378X 37aM20.3b9
37bV 37eN343 37fP74 380X 384M20.301 385M20.308.301 386P26 387N2d0 388P25 38bX 38cP40 38dX
38eP3f 390V 391P20 3a2X 3a3P20 3acV 3cfP8 3d0N1e 3d1N19 3d2Nd 3d3N6 3d4N9 3d5Nf 3d6N16 3d7V
3d8P1 3d9V 3daP1 3dbV 3dcP1 3ddV 3deP1 3dfV 3e0P1 3e1V 3e2P1 3e3V 3e4P1 3e5V 3e6P1 3e7V 3e8P1
3e9V 3eaP1 3ebV 3ecP1 3edV 3eeP1 3efV 3f0N36 3f1N30 3f2N2f 3f3V 3f4N3c 3f5N40 3f6V 3f7P1 3f8V
3f9N36 3faP1 3fbV 3fdN82 400P50 410P20 430V 460P1 461V 462P1 463V 464P1 465V 466P1 467V 468P1
469V 46aP1 46bV 46cP1 46dV 46eP1 46fV 470P1 471V 472P1 473V 474P1 475V 476P1 477V 478P1 479V
47aP1 47bV 47cP1 47dV 47eP1 47fV 480P1 481V 48aP1 48bV 48cP1 48dV 48eP1 48fV 490P1 491V 492P1
493V 494P1 495V 496P1 497V 498P1 499V 49aP1 49bV 49cP1 49dV 49eP1 49fV 4a0P1 4a1V 4a2P1 4a3V
4a4P1 4a5V 4a6P1 4a7V 4a8P1 4a9V 4aaP1 4abV 4acP1 4adV 4aeP1 4afV 4b0P1 4b1V 4b2P1 4b3V 4b4P1
4b5V 4b6P1 4b7V 4b8P1 4b9V 4baP1 4bbV 4bcP1 4bdV 4beP1 4bfV 4c0Pf 4c1P1 4c2V 4c3P1 4c4V 4c5P1
4c6V 4c7P1 4c8V 4c9P1 4caV 4cbP1 4ccV 4cdP1 4ceV 4d0P1 4d1V 4d2P1 4d3V 4d4P1 4d5V 4d6P1 4d7V
4d8P1 4d9V 4daP1 4dbV 4dcP1 4ddV 4deP1 4dfV 4e0P1 4e1V 4e2P1 4e3V 4e4P1 4e5V 4e6P1 4e7V 4e8P1
4e9V 4eaP1 4ebV 4ecP1 4edV 4eeP1 4efV 4f0P1 4f1V 4f2P1 4f3V 4f4P1 4f5V 4f6P1 4f7V 4f8P1 4f9V
4faP1 4fbV 4fcP1 4fdV 4feP1 4ffV 500P1 501V 502P1 503V 504P1 505V 506P1 507V 508P1 509V 50aP1
50bV 50cP1 50dV 50eP1 50fV 510P1 511V 512P1 513V 514P1 515V 516P1 517V 518P1 519V 51aP1 51bV
51cP1 51dV 51eP1 51fV 520P1 521V 522P1 523V 524P1 525V 526P1 527V 528P1 529V 52aP1 52bV 52cP1
52dV 52eP1 52fV 530X 531P30 557X 559V 587M565.582 588V 58bX 58dV 590X 591V 5c8X 5d0V 5ebX 5efV
5f5X 606V 61cX 61dV 675M627.674 676M648.674 677M6c7.674 678M64a.674 679V 6ddX 6deV 70eX 710V
74bX 74dV 7b2X 7c0V 7fbX 7fdV 82eX 830V 83fX 840V 85cX 85eV 85fX 860V 86bX 870V 890X 897V 8e2X
8e3V 958M915.93c 959M916.93c 95aM917.93c 95bM91c.93c 95cM921.93c 95dM922.93c 95eM92b.93c
95fM92f.93c 960V 984X 985V 98dX 98fV 991X 993V 9a9X 9aaV 9b1X 9b2V 9b3X 9b6V 9baX 9bcV 9c5X
9c7V 9c9X 9cbV 9cfX 9d7V 9d8X 9dcM9a1.9bc 9ddM9a2.9bc 9deX 9dfM9af.9bc 9e0V 9e4X 9e6V 9ffX a01V
a04X a05V a0bX a0fV a11X a13V a29X a2aV a31X a32V a33Ma32.a3c a34X a35V a36Ma38.a3c a37X a38V
a3aX a3cV a3dX a3eV a43X a47V a49X a4bV a4eX a51V a52X a59Ma16.a3c a5aMa17.a3c a5bMa1c.a3c a5cV
a5dX a5eMa2b.a3c a5fX a66V a77X a81V a84X a85V a8eX a8fV a92X a93V aa9X aaaV ab1X ab2V ab4X
ab5V abaX abcV ac6X ac7V acaX acbV aceX ad0V ad1X ae0V ae4X ae6V af2X af9V b00X b01V b04X b05V
b0dX b0fV b11X b13V b29X b2aV b31X b32V b34X b35V b3aX b3cV b45X b47V b49X b4bV b4eX b55V b58X
b5cMb21.b3c b5dMb22.b3c b5eX b5fV b64X b66V b78X b82V b84X b85V b8bX b8eV b91X b92V b96X b99V
b9bX b9cV b9dX b9eV ba0X ba3V ba5X ba8V babX baeV bbaX bbeV bc3X bc6V bc9X bcaV bceX bd0V bd1X
bd7V bd8X be6V bfbX c00V c0dX c0eV c11X c12V c29X c2aV c3aX c3cV c45X c46V c49X c4aV c4eX c55V
c57X c58V c5bX c5cV c5eX c60V c64X c66V c70X c77V c8dX c8eV c91X c92V ca9X caaV cb4X cb5V cbaX
cbcV cc5X cc6V cc9X ccaV cceX cd5V cd7X cdcV cdfX ce0V ce4X ce6V cf0X cf1V cf4X d00V d0dX d0eV
d11X d12V d45X d46V d49X d4aV d50X d54V d64X d66V d80X d81V d84X d85V d97X d9aV db2X db3V dbcX
dbdV dbeX dc0V dc7X dcaV dcbX dcfV dd5X dd6V dd7X dd8V de0X de6V df0X df2V df5X e01V
e33Me4d.e32 e34V e3bX e3fV e5cX e81V e83X e84V e85X e86V e8bX e8cV ea4X ea5V ea6X ea7V
eb3Mecd.eb2 eb4V ebeX ec0V ec5X ec6V ec7X ec8V ecfX ed0V edaX edcMeab.e99 eddMeab.ea1 edeV ee0X
f00V f0cN1 f0dV f43Mf42.fb7 f44V f48X f49V f4dMf4c.fb7 f4eV f52Mf51.fb7 f53V f57Mf56.fb7 f58V
f5cMf5b.fb7 f5dV f69Mf40.fb5 f6aV f6dX f71V f73Mf71.f72 f74V f75Mf71.f74 f76Mfb2.f80
f77Mfb2.f71.f80 f78Mfb3.f80 f79Mfb3.f71.f80 f7aV f81Mf71.f80 f82V f93Mf92.fb7 f94V f98X f99V
f9dMf9c.fb7 f9eV fa2Mfa1.fb7 fa3V fa7Mfa6.fb7 fa8V facMfab.fb7 fadV fb9Mf90.fb5 fbaV fbdX fbeV
fcdX fceV fdbX 1000V 10a0P1c60 10c6X 10c7P1c60 10c8X 10cdP1c60 10ceX 10d0V 10fcN20 10fdV 115fI
1161V 1249X 124aV 124eX 1250V 1257X 1258V 1259X 125aV 125eX 1260V 1289X 128aV 128eX 1290V 12b1X
12b2V 12b6X 12b8V 12bfX 12c0V 12c1X 12c2V 12c6X 12c8V 12d7X 12d8V 1311X 1312V 1316X 1318V 135bX
135dV 137dX 1380V 139aX 13a0V 13f6X 13f8N8 13feX 1400V 1680X 1681V 169dX 16a0V 16f9X 1700V
1716X 171fV 1737X 1740V 1754X 1760V 176dX 176eV 1771X 1772V 1774X 1780V 17b4I 17b6V 17deX 17e0V
17eaX 17f0V 17faX 1800V 180bI 1810V 181aX 1820V 1879X 1880V 18abX 18b0V 18f6X 1900V 191fX 1920V
192cX 1930V 193cX 1940V 1941X 1944V 196eX 1970V 1975X 1980V 19acX 19b0V 19caX 19d0V 19dbX 19deV
1a1cX 1a1eV 1a5fX 1a60V 1a7dX 1a7fV 1a8aX 1a90V 1a9aX 1aa0V 1aaeX 1ab0V 1adeX 1ae0V 1aecX 1b00V
1b4dX 1b4eV 1bf4X 1bfcV 1c38X 1c3bV 1c4aX 1c4dV 1c80N184e 1c81N184d 1c82N1844 1c83N1842
1c85N1843 1c86N183c 1c87N1824 1c88P89c3 1c89P1 1c8aV 1c8bX 1c90Nbc0 1cbbX 1cbdNbc0 1cc0V 1cc8X
1cd0V 1cfbX 1d00V 1d2cN1ccb 1d2dN1c47 1d2eN1ccc 1d2fV 1d30N1ccc 1d32N1b55 1d33N1ccc 1d3bV
1d3cN1ccd 1d3dN1b1a 1d3eN1cce 1d3fN1ccd 1d40N1ccc 1d42N1ccb 1d43N1ce2 1d44N1af4 1d46N44
1d47N1ce5 1d48N1ce4 1d4aN1af1 1d4bN1af0 1d4dN1ce6 1d4eV 1d4fN1ce4 1d50N1ce3 1d51N1c06 1d52N1ce3
1d53N1aff 1d54N3e 1d56N1ce6 1d57N1ce3 1d59N3c 1d5aN1aeb 1d5bN1ce5 1d5cN37 1d5dN19ab 1d60N199a
1d62N1cf9 1d63N1cf1 1d64N1cef 1d66N19b4 1d68N19a7 1d69N19a3 1d6bV 1d78N193b 1d79V 1d9bN1b49
1d9cN1d39 1d9dN1b48 1d9eN1cae 1d9fN1b43 1da0N1d3a 1da1N1b42 1da2N1b41 1da3N1b3e 1da4N1b3c
1da7N2c 1da8N1b0b 1da9N1b3c 1daaN25 1dabN1b0c 1dacN1b3b 1dadN1b3d 1daeN1b3c 1db2N1b3a 1db3N1b31
1db5N1c0a 1db6N1b2d 1db8N9c 1db9N1b2e 1dbbN1d41 1dbcN1b2c 1dbfN1a07 1dc0V 1e00P1 1e01V 1e02P1
1e03V 1e04P1 1e05V 1e06P1 1e07V 1e08P1 1e09V 1e0aP1 1e0bV 1e0cP1 1e0dV 1e0eP1 1e0fV 1e10P1
1e11V 1e12P1 1e13V 1e14P1 1e15V 1e16P1 1e17V 1e18P1 1e19V 1e1aP1 1e1bV 1e1cP1 1e1dV 1e1eP1
1e1fV 1e20P1 1e21V 1e22P1 1e23V 1e24P1 1e25V 1e26P1 1e27V 1e28P1 1e29V 1e2aP1 1e2bV 1e2cP1
1e2dV 1e2eP1 1e2fV 1e30P1 1e31V 1e32P1 1e33V 1e34P1 1e35V 1e36P1 1e37V 1e38P1 1e39V 1e3aP1
1e3bV 1e3cP1 1e3dV 1e3eP1 1e3fV 1e40P1 1e41V 1e42P1 1e43V 1e44P1 1e45V 1e46P1 1e47V 1e48P1
1e49V 1e4aP1 1e4bV 1e4cP1 1e4dV 1e4eP1 1e4fV 1e50P1 1e51V 1e52P1 1e53V 1e54P1 1e55V 1e56P1
1e57V 1e58P1 1e59V 1e5aP1 1e5bV 1e5cP1 1e5dV 1e5eP1 1e5fV 1e60P1 1e61V 1e62P1 1e63V 1e64P1
1e65V 1e66P1 1e67V 1e68P1 1e69V 1e6aP1 1e6bV 1e6cP1 1e6dV 1e6eP1 1e6fV 1e70P1 1e71V 1e72P1
1e73V 1e74P1 1e75V 1e76P1 1e77V 1e78P1 1e79V 1e7aP1 1e7bV 1e7cP1 1e7dV 1e7eP1 1e7fV 1e80P1
1e81V 1e82P1 1e83V 1e84P1 1e85V 1e86P1 1e87V 1e88P1 1e89V 1e8aP1 1e8bV 1e8cP1 1e8dV 1e8eP1
1e8fV 1e90P1 1e91V 1e92P1 1e93V 1e94P1 1e95V 1e9aM61.2be 1e9bN3a 1e9cV 1e9eN1dbf 1e9fV 1ea0P1
1ea1V 1ea2P1 1ea3V 1ea4P1 1ea5V 1ea6P1 1ea7V 1ea8P1 1ea9V 1eaaP1 1eabV 1eacP1 1eadV 1eaeP1
1eafV 1eb0P1 1eb1V 1eb2P1 1eb3V 1eb4P1 1eb5V 1eb6P1 1eb7V 1eb8P1 1eb9V 1ebaP1 1ebbV 1ebcP1
1ebdV 1ebeP1 1ebfV 1ec0P1 1ec1V 1ec2P1 1ec3V 1ec4P1 1ec5V 1ec6P1 1ec7V 1ec8P1 1ec9V 1ecaP1
1ecbV 1eccP1 1ecdV 1eceP1 1ecfV 1ed0P1 1ed1V 1ed2P1 1ed3V 1ed4P1 1ed5V 1ed6P1 1ed7V 1ed8P1
1ed9V 1edaP1 1edbV 1edcP1 1eddV 1edeP1 1edfV 1ee0P1 1ee1V 1ee2P1 1ee3V 1ee4P1 1ee5V 1ee6P1
1ee7V 1ee8P1 1ee9V 1eeaP1 1eebV 1eecP1 1eedV 1eeeP1 1eefV 1ef0P1 1ef1V 1ef2P1 1ef3V 1ef4P1
1ef5V 1ef6P1 1ef7V 1ef8P1 1ef9V 1efaP1 1efbV 1efcP1 1efdV 1efeP1 1effV 1f08N8 1f10V 1f16X
1f18N8 1f1eX 1f20V 1f28N8 1f30V 1f38N8 1f40V 1f46X 1f48N8 1f4eX 1f50V 1f58X 1f59N8 1f5aX 1f5bN8
1f5cX 1f5dN8 1f5eX 1f5fN8 1f60V 1f68N8 1f70V 1f71N1bc5 1f72V 1f73N1bc6 1f74V 1f75N1bc7 1f76V
1f77N1bc8 1f78V 1f79N1bad 1f7aV 1f7bN1bae 1f7cV 1f7dN1baf 1f7eX 1f80M1f00.3b9 1f81M1f01.3b9
1f82M1f02.3b9 1f83M1f03.3b9 1f84M1f04.3b9 1f85M1f05.3b9 1f86M1f06.3b9 1f87M1f07.3b9
1f88M1f00.3b9 1f89M1f01.3b9 1f8aM1f02.3b9 1f8bM1f03.3b9 1f8cM1f04.3b9 1f8dM1f05.3b9
1f8eM1f06.3b9 1f8fM1f07.3b9 1f90M1f20.3b9 1f91M1f21.3b9 1f92M1f22.3b9 1f93M1f23.3b9
1f94M1f24.3b9 1f95M1f25.3b9 1f96M1f26.3b9 1f97M1f27.3b9 1f98M1f20.3b9 1f99M1f21.3b9
1f9aM1f22.3b9 1f9bM1f23.3b9 1f9cM1f24.3b9 1f9dM1f25.3b9 1f9eM1f26.3b9 1f9fM1f27.3b9
1fa0M1f60.3b9 1fa1M1f61.3b9 1fa2M1f62.3b9 1fa3M1f63.3b9 1fa4M1f64.3b9 1fa5M1f65.3b9
1fa6M1f66.3b9 1fa7M1f67.3b9 1fa8M1f60.3b9 1fa9M1f61.3b9 1faaM1f62.3b9 1fabM1f63.3b9
1facM1f64.3b9 1fadM1f65.3b9 1faeM1f66.3b9 1fafM1f67.3b9 1fb0V 1fb2M1f70.3b9 1fb3M3b1.3b9
1fb4M3ac.3b9 1fb5X 1fb6V 1fb7M1fb6.3b9 1fb8N8 1fbaN4a 1fbbN1c0f 1fbcM3b1.3b9 1fbdM20.313
1fbeN1c05 1fbfM20.313 1fc0M20.342 1fc1M20.308.342 1fc2M1f74.3b9 1fc3M3b7.3b9 1fc4M3ae.3b9 1fc5X
1fc6V 1fc7M1fc6.3b9 1fc8N56 1fc9N1c1c 1fcaN56 1fcbN1c1d 1fccM3b7.3b9 1fcdM20.313.300
1fceM20.313.301 1fcfM20.313.342 1fd0V 1fd3N1c43 1fd4X 1fd6V 1fd8N8 1fdaN64 1fdbN1c2c 1fdcX
1fddM20.314.300 1fdeM20.314.301 1fdfM20.314.342 1fe0V 1fe3N1c33 1fe4V 1fe8N8 1feaN70 1febN1c1e
1fecN7 1fedM20.308.300 1feeM20.308.301 1fefN1f8f 1ff0X 1ff2M1f7c.3b9 1ff3M3c9.3b9 1ff4M3ce.3b9
1ff5X 1ff6V 1ff7M1ff6.3b9 1ff8N80 1ff9N1c2d 1ffaN7e 1ffbN1c2d 1ffcM3c9.3b9 1ffdM20.301
1ffeM20.314 1fffX 2000N1fe0 2001N1fe1 2002N1fe2 2003N1fe3 2004N1fe4 2005N1fe5 2006N1fe6
2007N1fe7 2008N1fe8 2009N1fe9 200aN1fea 200bI 200cV 200eX 2010V 2011N1 2012V 2017M20.333 2018V
2024X 2027V 2028X 202fN200f 2030V 2033M2032.2032 2034M2032.2032.2032 2035V 2036M2035.2035
2037M2035.2035.2035 2038V 203cM21.21 203dV 203eM20.305 203fV 2047M3f.3f 2048M3f.21 2049M21.3f
204aV 2057M2032.2032.2032.2032 2058V 205fN203f 2060I 2065X 206aI 2070N2040 2071N2008 2072X
2074N2040 207aN204f 207bP197 207cN203f 207dN2055 207fN2011 2080N2050 208aN205f 208bP187
208cN204f 208dN2065 208fX 2090N202f 2091N202c 2092N2023 2093N201b 2094N1e3b 2095N202d 2096N202b
209aN202a 209bN2028 209dX 20a0V 20a8M72.73 20a9V 20c2X 20d0V 20f1X 2100M61.2f.63 2101M61.2f.73
2102N209f 2103Mb0.63 2104V 2105M63.2f.6f 2106M63.2f.75 2107N1eac 2108V 2109Mb0.66 210aN20a3
210cN20a4 210dN20a5 210eN20a6 210fN1fe8 2110N20a7 2111N20a8 2112N20a6 2113N20a7 2114V 2115N20a7
2116M6e.6f 2117V 2119N20a9 211cN20aa 211dN20ab 211eV 2120M73.6d 2121M74.65.6c 2122M74.6d 2123V
2124N20aa 2125V 2126N1d5d 2127V 2128N20ae 2129V 212aN20bf 212bN2046 212cN20ca 212eV 212fN20ca
2130N20cb 2132P1c 2133N20c6 2134N20c5 2135N1b65 2139N20d0 213aV 213bM66.61.78 213cN1d7c
213dN1d8a 213eN1d8b 213fN1d7f 2140Pd1 2141V 2145N20e1 2146N20e2 2148N20df 214aV 2150M31.2044.37
2151M31.2044.39 2152M31.2044.31.30 2153M31.2044.33 2154M32.2044.33 2155M31.2044.35
2156M32.2044.35 2157M33.2044.35 2158M34.2044.35 2159M31.2044.36 215aM35.2044.36 215bM31.2044.38
215cM33.2044.38 215dM35.2044.38 215eM37.2044.38 215fM31.2044 2160N20f7 2161M69.69 2162M69.69.69
2163M69.76 2164N20ee 2165M76.69 2166M76.69.69 2167M76.69.69.69 2168M69.78 2169N20f1 216aM78.69
216bM78.69.69 216cN2100 216dN210a 216fN2102 2170N2107 2171M69.69 2172M69.69.69 2173M69.76
2174N20fe 2175M76.69 2176M76.69.69 2177M76.69.69.69 2178M69.78 2179N2101 217aM78.69
217bM78.69.69 217cN2110 217dN211a 217fN2112 2180V 2183P1 2184V 2189M30.2044.33 218aV 218cX
2190V 222cM222b.222b 222dM222b.222b.222b 222eV 222fM222e.222e 2230M222e.222e.222e 2231V
2329Pcdf 232bV 242aX 2440V 244bX 2460N242f 2469M31.30 246aM31.31 246bM31.32 246cM31.33
246dM31.34 246eM31.35 246fM31.36 2470M31.37 2471M31.38 2472M31.39 2473M32.30 2474M28.31.29
2475M28.32.29 2476M28.33.29 2477M28.34.29 2478M28.35.29 2479M28.36.29 247aM28.37.29
247bM28.38.29 247cM28.39.29 247dM28.31.30.29 247eM28.31.31.29 247fM28.31.32.29 2480M28.31.33.29
2481M28.31.34.29 2482M28.31.35.29 2483M28.31.36.29 2484M28.31.37.29 2485M28.31.38.29
2486M28.31.39.29 2487M28.32.30.29 2488X 249cM28.61.29 249dM28.62.29 249eM28.63.29 249fM28.64.29
24a0M28.65.29 24a1M28.66.29 24a2M28.67.29 24a3M28.68.29 24a4M28.69.29 24a5M28.6a.29
24a6M28.6b.29 24a7M28.6c.29 24a8M28.6d.29 24a9M28.6e.29 24aaM28.6f.29 24abM28.70.29
24acM28.71.29 24adM28.72.29 24aeM28.73.29 24afM28.74.29 24b0M28.75.29 24b1M28.76.29
24b2M28.77.29 24b3M28.78.29 24b4M28.79.29 24b5M28.7a.29 24b6N2455 24d0N246f 24eaN24ba 24ebV
2a0cM222b.222b.222b.222b 2a0dV 2a74M3a.3a.3d 2a75M3d.3d 2a76M3d.3d.3d 2a77V 2adcM2add.338 2addV
2b74X 2b76V 2c00P30 2c30V 2c60P1 2c61V 2c62N29f7 2c63Nee6 2c64N29e7 2c65V 2c67P1 2c68V 2c69P1
2c6aV 2c6bP1 2c6cV 2c6dN2a1c 2c6eN29fd 2c6fN2a1f 2c70N2a1e 2c71V 2c72P1 2c73V 2c75P1 2c76V
2c7cN2c12 2c7dN2c07 2c7eN2a3f 2c80P1 2c81V 2c82P1 2c83V 2c84P1 2c85V 2c86P1 2c87V 2c88P1 2c89V
2c8aP1 2c8bV 2c8cP1 2c8dV 2c8eP1 2c8fV 2c90P1 2c91V 2c92P1 2c93V 2c94P1 2c95V 2c96P1 2c97V
2c98P1 2c99V 2c9aP1 2c9bV 2c9cP1 2c9dV 2c9eP1 2c9fV 2ca0P1 2ca1V 2ca2P1 2ca3V 2ca4P1 2ca5V
2ca6P1 2ca7V 2ca8P1 2ca9V 2caaP1 2cabV 2cacP1 2cadV 2caeP1 2cafV 2cb0P1 2cb1V 2cb2P1 2cb3V
2cb4P1 2cb5V 2cb6P1 2cb7V 2cb8P1 2cb9V 2cbaP1 2cbbV 2cbcP1 2cbdV 2cbeP1 2cbfV 2cc0P1 2cc1V
2cc2P1 2cc3V 2cc4P1 2cc5V 2cc6P1 2cc7V 2cc8P1 2cc9V 2ccaP1 2ccbV 2cccP1 2ccdV 2cceP1 2ccfV
2cd0P1 2cd1V 2cd2P1 2cd3V 2cd4P1 2cd5V 2cd6P1 2cd7V 2cd8P1 2cd9V 2cdaP1 2cdbV 2cdcP1 2cddV
2cdeP1 2cdfV 2ce0P1 2ce1V 2ce2P1 2ce3V 2cebP1 2cecV 2cedP1 2ceeV 2cf2P1 2cf3V 2cf4X 2cf9V 2d26X
2d27V 2d28X 2d2dV 2d2eX 2d30V 2d68X 2d6fNe 2d70V 2d71X 2d7fV 2d97X 2da0V 2da7X 2da8V 2dafX
2db0V 2db7X 2db8V 2dbfX 2dc0V 2dc7X 2dc8V 2dcfX 2dd0V 2dd7X 2dd8V 2ddfX 2de0V 2e5eX 2e80V 2e9aX
2e9bV 2e9fP3d2e 2ea0V 2ef3P70ac 2ef4X 2f00P1f00 2f01P1f27 2f02P1f34 2f03P1f3c 2f04P1f55
2f05P1f80 2f06P1f86 2f07P1f99 2f08P1fb2 2f09P2236 2f0aP225b 2f0bP2260 2f0cP2276 2f0dP2289
2f0eP229d 2f0fP22d1 2f10P22e5 2f11P22ef 2f12P2389 2f13P23e6 2f14P2401 2f15P2405 2f16P2422
2f17P242a 2f18P2444 2f19P2450 2f1aP2468 2f1bP249b 2f1cP24ac 2f1dP24c6 2f1eP27b9 2f1fP2800
2f20P29cb 2f21P29e1 2f22P29e8 2f23P29f2 2f24P2a03 2f25P2a4e 2f26P2c2a 2f27P2c59 2f28P2cd0
2f29P2ce6 2f2aP2cf8 2f2bP2d0d 2f2cP2d42 2f2dP2d44 2f2eP2ead 2f2fP2eb6 2f30P2ec1 2f31P2ecd
2f32P2f40 2f33P2f47 2f34P2f4b 2f35P2fbf 2f36P2fc8 2f37P2fd4 2f38P2fdb 2f39P3017 2f3aP3027
2f3bP3038 2f3cP3087 2f3dP32cb 2f3eP32f8 2f3fP330c 2f40P35ef 2f41P35f3 2f42P3645 2f43P3654
2f44P3660 2f45P3674 2f46P369a 2f47P369e 2f48P37a8 2f49P37bf 2f4aP37de 2f4bP3bd5 2f4cP3c16
2f4dP3c2c 2f4eP3c65 2f4fP3c7c 2f50P3c84 2f51P3c8a 2f52P3cbd 2f53P3cc1 2f54P3ce0 2f55P4116
2f56P42d4 2f57P42df 2f58P42e3 2f59P42e6 2f5aP42ed 2f5bP42fe 2f5cP42ff 2f5dP434f 2f5eP4426
2f5fP442a 2f60P457c 2f61P4585 2f62P45b6 2f63P45bc 2f64P45c4 2f65P45cb 2f66P4625 2f67P462b
2f68P470e 2f69P4714 2f6aP4744 2f6bP4754 2f6cP4782 2f6dP486e 2f6eP4874 2f6fP4884 2f70P49ca
2f71P4a47 2f72P4a4c 2f73P4b01 2f74P4b57 2f75P4b84 2f76P4cfd 2f77P4d81 2f78P4fbe 2f79P4fd8
2f7aP5010 2f7bP5042 2f7cP5085 2f7dP508f 2f7eP5094 2f7fP50b4 2f80P50ff 2f81P5108 2f82P5261
2f83P5267 2f84P526f 2f85P5277 2f86P5286 2f87P5294 2f88P5297 2f89P52e5 2f8aP52e8 2f8bP52ed
2f8cP56c1 2f8dP56de 2f8eP58b2 2f8fP58bd 2f90P58d3 2f91P59ed 2f92P59f9 2f93P5a3f 2f94P5a6c
2f95P5ca2 2f96P5cb0 2f97P5cbe 2f98P5ce0 2f99P5d04 2f9aP5dca 2f9bP5dd5 2f9cP5e17 2f9dP5f0e
2f9eP5f2c 2f9fP5ffc 2fa0P6010 2fa1P6014 2fa2P60ef 2fa3P61a6 2fa4P6222 2fa5P6227 2fa6P622b
2fa7P65d0 2fa8P65d8 2fa9P6673 2faaP670c 2fabP670e 2facP673c 2fadP67a4 2faeP67b0 2fafP67b3
2fb0P67b9 2fb1P681a 2fb2P683b 2fb3P6840 2fb4P684d 2fb5P68f3 2fb6P6925 2fb7P6928 2fb8P69de
2fb9P69e0 2fbaP69f2 2fbbP6aed 2fbcP6b1c 2fbdP6b22 2fbeP6b67 2fbfP6b70 2fc0P6b72 2fc1P6b7b
2fc2P6b98 2fc3P6d22 2fc4P6eb1 2fc5P6eba 2fc6P6edf 2fc7P6ef4 2fc8P6efb 2fc9P6f04 2fcaP6f07
2fcbP6f2e 2fccP6f31 2fcdP6f41 2fceP6f45 2fcfP6f51 2fd0P6f6b 2fd1P6f79 2fd2P6f80 2fd3P6fba
2fd4P6fc8 2fd5P6fcb 2fd6X 3000N2fe0 3001V 3002N2fd4 3003V 3036N24 3037V 3038P2309 3039P230b
303bV 3040X 3041V 3097X 3099V 309bM20.3099 309cM20.309a 309dV 309fM3088.308a 30a0V
30ffM30b3.30c8 3100X 3105V 3130X 3131N2031 3133N1f89 3134N2032 3135N1f89 3137N2034 313aN1f8a
3140N2026 3141N203b 3144N2023 3145N203c 314fN1fee 3164I 3165N2051 3167N1fa0 3169N1f9d 316aN1f9c
316bN1f98 316cN1f95 316dN1f94 316eN2052 316fN1f92 3170N1f91 3171N2054 3173N2053 3174N2052
3176N204f 3177N204e 3178N204d 317dN204b 317eN2048 317fN203f 3180N2039 3181N2035 3182N1f91
3184N202d 3187N2003 3189N2001 318aN1ff9 318cN1ff8 318dN1fef 318eN1fed 318fX 3190V 3192P1c6e
3193P1cf9 3194P1c75 3195P2546 3196P1c74 3197P1c96 3198P1c73 3199P4399 319aP1cbf 319bP1c7e
319cP1c65 319dP278c 319eP2592 319fP1d1b 31a0V 31e6X 31f0V 3200M28.1100.29 3201M28.1102.29
3202M28.1103.29 3203M28.1105.29 3204M28.1106.29 3205M28.1107.29 3206M28.1109.29 3207M28.110b.29
3208M28.110c.29 3209M28.110e.29 320aM28.110f.29 320bM28.1110.29 320cM28.1111.29 320dM28.1112.29
320eM28.ac00.29 320fM28.b098.29 3210M28.b2e4.29 3211M28.b77c.29 3212M28.b9c8.29 3213M28.bc14.29
3214M28.c0ac.29 3215M28.c544.29 3216M28.c790.29 3217M28.cc28.29 3218M28.ce74.29 3219M28.d0c0.29
321aM28.d30c.29 321bM28.d558.29 321cM28.c8fc.29 321dM28.c624.c804.29 321eM28.c624.d6c4.29 321fX
3220M28.4e00.29 3221M28.4e8c.29 3222M28.4e09.29 3223M28.56db.29 3224M28.4e94.29 3225M28.516d.29
3226M28.4e03.29 3227M28.516b.29 3228M28.4e5d.29 3229M28.5341.29 322aM28.6708.29 322bM28.706b.29
322cM28.6c34.29 322dM28.6728.29 322eM28.91d1.29 322fM28.571f.29 3230M28.65e5.29 3231M28.682a.29
3232M28.6709.29 3233M28.793e.29 3234M28.540d.29 3235M28.7279.29 3236M28.8ca1.29 3237M28.795d.29
3238M28.52b4.29 3239M28.4ee3.29 323aM28.547c.29 323bM28.5b66.29 323cM28.76e3.29 323dM28.4f01.29
323eM28.8cc7.29 323fM28.5354.29 3240M28.796d.29 3241M28.4f11.29 3242M28.81ea.29 3243M28.81f3.29
3244P230b 3245P2c37 3246P3341 3247P4948 3248V 3250M70.74.65 3251M32.31 3252M32.32 3253M32.33
3254M32.34 3255M32.35 3256M32.36 3257M32.37 3258M32.38 3259M32.39 325aM33.30 325bM33.31
325cM33.32 325dM33.33 325eM33.34 325fM33.35 3260N2160 3261N215f 3263N215e 3266N215d 3267N215c
3269N215b 326eP7992 326fP7e29 3270P8074 3271P850b 3272P8756 3273P89a1 3274P8e38 3275P92cf
3276P951a 3277P99b1 3278P9bfc 3279P9e47 327aPa092 327bPa2dd 327cMcc38.ace0 327dMc8fc.c758
327eP9432 327fV 3280P1b80 3281P1c0b 3282P1b87 3283P2458 3284P1c10 3285P1ee8 3286P1b7d 3287P1ee4
3288P1bd5 3289P20b8 328aP347e 328bP3de0 328cP39a8 328dP349b 328eP5f43 328fP2490 3290P3355
3291P3599 3292P3477 3293P46ab 3294P2179 3295P3fe4 3296P5a0b 3297P46c6 3298P201c 3299P473f
329aP429d 329bP26d8 329cP5dcd 329dP1e8d 329eP20d2 329fP3a49 32a0P6565 32a1P1c70 32a2P1ef7
32a3P38c0 32a4P1b66 32a5P1b88 32a6P1b65 32a7P2b3f 32a8P214b 32a9P2092 32aaP28ed 32abP28bb
32acP4437 32adP1c54 32aeP5a19 32afP20a5 32b0P266c 32b1M33.36 32b2M33.37 32b3M33.38 32b4M33.39
32b5M34.30 32b6M34.31 32b7M34.32 32b8M34.33 32b9M34.34 32baM34.35 32bbM34.36 32bcM34.37
32bdM34.38 32beM34.39 32bfM35.30 32c0M31.6708 32c1M32.6708 32c2M33.6708 32c3M34.6708
32c4M35.6708 32c5M36.6708 32c6M37.6708 32c7M38.6708 32c8M39.6708 32c9M31.30.6708
32caM31.31.6708 32cbM31.32.6708 32ccM68.67 32cdM65.72.67 32ceM65.76 32cfM6c.74.64 32d0N22e
32d1N22d 32d2N22c 32d3N22b 32d4N22a 32d6N229 32d7N228 32d8N227 32d9N226 32daN225 32dbN224
32dcN223 32ddN222 32deN221 32dfN220 32e0N21f 32e1N21d 32e2N21c 32e3N21b 32e4N21a 32eaN218
32ebN216 32ecN214 32edN212 32eeN210 32f3N20f 32f4N20e 32f5N20d 32fbN20c 32ffM4ee4.548c
3300M30a2.30d1.30fc.30c8 3301M30a2.30eb.30d5.30a1 3302M30a2.30f3.30da.30a2 3303M30a2.30fc.30eb
3304M30a4.30cb.30f3.30b0 3305M30a4.30f3.30c1 3306M30a6.30a9.30f3 3307M30a8.30b9.30af.30fc.30c9
3308M30a8.30fc.30ab.30fc 3309M30aa.30f3.30b9 330aM30aa.30fc.30e0 330bM30ab.30a4.30ea
330cM30ab.30e9.30c3.30c8 330dM30ab.30ed.30ea.30fc 330eM30ac.30ed.30f3 330fM30ac.30f3.30de
3310M30ae.30ac 3311M30ae.30cb.30fc 3312M30ad.30e5.30ea.30fc 3313M30ae.30eb.30c0.30fc
3314M30ad.30ed 3315M30ad.30ed.30b0.30e9.30e0 3316M30ad.30ed.30e1.30fc.30c8.30eb
3317M30ad.30ed.30ef.30c3.30c8 3318M30b0.30e9.30e0 3319M30b0.30e9.30e0.30c8.30f3
331aM30af.30eb.30bc.30a4.30ed 331bM30af.30ed.30fc.30cd 331cM30b1.30fc.30b9 331dM30b3.30eb.30ca
331eM30b3.30fc.30dd 331fM30b5.30a4.30af.30eb 3320M30b5.30f3.30c1.30fc.30e0
3321M30b7.30ea.30f3.30b0 3322M30bb.30f3.30c1 3323M30bb.30f3.30c8 3324M30c0.30fc.30b9
3325M30c7.30b7 3326M30c9.30eb 3327M30c8.30f3 3328M30ca.30ce 3329M30ce.30c3.30c8
332aM30cf.30a4.30c4 332bM30d1.30fc.30bb.30f3.30c8 332cM30d1.30fc.30c4 332dM30d0.30fc.30ec.30eb
332eM30d4.30a2.30b9.30c8.30eb 332fM30d4.30af.30eb 3330M30d4.30b3 3331M30d3.30eb
3332M30d5.30a1.30e9.30c3.30c9 3333M30d5.30a3.30fc.30c8 3334M30d6.30c3.30b7.30a7.30eb
3335M30d5.30e9.30f3 3336M30d8.30af.30bf.30fc.30eb 3337M30da.30bd 3338M30da.30cb.30d2
3339M30d8.30eb.30c4 333aM30da.30f3.30b9 333bM30da.30fc.30b8 333cM30d9.30fc.30bf
333dM30dd.30a4.30f3.30c8 333eM30dc.30eb.30c8 333fM30db.30f3 3340M30dd.30f3.30c9
3341M30db.30fc.30eb 3342M30db.30fc.30f3 3343M30de.30a4.30af.30ed 3344M30de.30a4.30eb
3345M30de.30c3.30cf 3346M30de.30eb.30af 3347M30de.30f3.30b7.30e7.30f3 3348M30df.30af.30ed.30f3
3349M30df.30ea 334aM30df.30ea.30d0.30fc.30eb 334bM30e1.30ac 334cM30e1.30ac.30c8.30f3
334dM30e1.30fc.30c8.30eb 334eM30e4.30fc.30c9 334fM30e4.30fc.30eb 3350M30e6.30a2.30f3
3351M30ea.30c3.30c8.30eb 3352M30ea.30e9 3353M30eb.30d4.30fc 3354M30eb.30fc.30d6.30eb
3355M30ec.30e0 3356M30ec.30f3.30c8.30b2.30f3 3357M30ef.30c3.30c8 3358M30.70b9 3359M31.70b9
335aM32.70b9 335bM33.70b9 335cM34.70b9 335dM35.70b9 335eM36.70b9 335fM37.70b9 3360M38.70b9
3361M39.70b9 3362M31.30.70b9 3363M31.31.70b9 3364M31.32.70b9 3365M31.33.70b9 3366M31.34.70b9
3367M31.35.70b9 3368M31.36.70b9 3369M31.37.70b9 336aM31.38.70b9 336bM31.39.70b9 336cM32.30.70b9
336dM32.31.70b9 336eM32.32.70b9 336fM32.33.70b9 3370M32.34.70b9 3371M68.70.61 3372M64.61
3373M61.75 3374M62.61.72 3375M6f.76 3376M70.63 3377M64.6d 3378M64.6d.32 3379M64.6d.33
337aM69.75 337bM5e73.6210 337cM662d.548c 337dM5927.6b63 337eM660e.6cbb 337fM682a.5f0f.4f1a.793e
3380M70.61 3381M6e.61 3382M3bc.61 3383M6d.61 3384M6b.61 3385M6b.62 3386M6d.62 3387M67.62
3388M63.61.6c 3389M6b.63.61.6c 338aM70.66 338bM6e.66 338cM3bc.66 338dM3bc.67 338eM6d.67
338fM6b.67 3390M68.7a 3391M6b.68.7a 3392M6d.68.7a 3393M67.68.7a 3394M74.68.7a 3395M3bc.6c
3396M6d.6c 3397M64.6c 3398M6b.6c 3399M66.6d 339aM6e.6d 339bM3bc.6d 339cM6d.6d 339dM63.6d
339eM6b.6d 339fM6d.6d.32 33a0M63.6d.32 33a1M6d.32 33a2M6b.6d.32 33a3M6d.6d.33 33a4M63.6d.33
33a5M6d.33 33a6M6b.6d.33 33a7M6d.2215.73 33a8M6d.2215.73.32 33a9M70.61 33aaM6b.70.61
33abM6d.70.61 33acM67.70.61 33adM72.61.64 33aeM72.61.64.2215.73 33afM72.61.64.2215.73.32
33b0M70.73 33b1M6e.73 33b2M3bc.73 33b3M6d.73 33b4M70.76 33b5M6e.76 33b6M3bc.76 33b7M6d.76
33b8M6b.76 33b9M6d.76 33baM70.77 33bbM6e.77 33bcM3bc.77 33bdM6d.77 33beM6b.77 33bfM6d.77
33c0M6b.3c9 33c1M6d.3c9 33c2X 33c3M62.71 33c4M63.63 33c5M63.64 33c6M63.2215.6b.67 33c7X
33c8M64.62 33c9M67.79 33caM68.61 33cbM68.70 33ccM69.6e 33cdM6b.6b 33ceM6b.6d 33cfM6b.74
33d0M6c.6d 33d1M6c.6e 33d2M6c.6f.67 33d3M6c.78 33d4M6d.62 33d5M6d.69.6c 33d6M6d.6f.6c
33d7M70.68 33d8X 33d9M70.70.6d 33daM70.72 33dbM73.72 33dcM73.76 33ddM77.62 33deM76.2215.6d
33dfM61.2215.6d 33e0M31.65e5 33e1M32.65e5 33e2M33.65e5 33e3M34.65e5 33e4M35.65e5 33e5M36.65e5
33e6M37.65e5 33e7M38.65e5 33e8M39.65e5 33e9M31.30.65e5 33eaM31.31.65e5 33ebM31.32.65e5
33ecM31.33.65e5 33edM31.34.65e5 33eeM31.35.65e5 33efM31.36.65e5 33f0M31.37.65e5 33f1M31.38.65e5
33f2M31.39.65e5 33f3M32.30.65e5 33f4M32.31.65e5 33f5M32.32.65e5 33f6M32.33.65e5 33f7M32.34.65e5
33f8M32.35.65e5 33f9M32.36.65e5 33faM32.37.65e5 33fbM32.38.65e5 33fcM32.39.65e5 33fdM33.30.65e5
33feM33.31.65e5 33ffM67.61.6c 3400V a48dX a490V a4c7X a4d0V a62cX a640P1 a641V a642P1 a643V
a644P1 a645V a646P1 a647V a648P1 a649V a64aP1 a64bV a64cP1 a64dV a64eP1 a64fV a650P1 a651V
a652P1 a653V a654P1 a655V a656P1 a657V a658P1 a659V a65aP1 a65bV a65cP1 a65dV a65eP1 a65fV
a660P1 a661V a662P1 a663V a664P1 a665V a666P1 a667V a668P1 a669V a66aP1 a66bV a66cP1 a66dV
a680P1 a681V a682P1 a683V a684P1 a685V a686P1 a687V a688P1 a689V a68aP1 a68bV a68cP1 a68dV
a68eP1 a68fV a690P1 a691V a692P1 a693V a694P1 a695V a696P1 a697V a698P1 a699V a69aP1 a69bV
a69cNa252 a69dNa251 a69eV a6f8X a700V a722P1 a723V a724P1 a725V a726P1 a727V a728P1 a729V
a72aP1 a72bV a72cP1 a72dV a72eP1 a72fV a732P1 a733V a734P1 a735V a736P1 a737V a738P1 a739V
a73aP1 a73bV a73cP1 a73dV a73eP1 a73fV a740P1 a741V a742P1 a743V a744P1 a745V a746P1 a747V
a748P1 a749V a74aP1 a74bV a74cP1 a74dV a74eP1 a74fV a750P1 a751V a752P1 a753V a754P1 a755V
a756P1 a757V a758P1 a759V a75aP1 a75bV a75cP1 a75dV a75eP1 a75fV a760P1 a761V a762P1 a763V
a764P1 a765V a766P1 a767V a768P1 a769V a76aP1 a76bV a76cP1 a76dV a76eP1 a76fV a770N1 a771V
a779P1 a77aV a77bP1 a77cV a77dN8a04 a77eP1 a77fV a780P1 a781V a782P1 a783V a784P1 a785V a786P1
a787V a78bP1 a78cV a78dNa528 a78eV a790P1 a791V a792P1 a793V a796P1 a797V a798P1 a799V a79aP1
a79bV a79cP1 a79dV a79eP1 a79fV a7a0P1 a7a1V a7a2P1 a7a3V a7a4P1 a7a5V a7a6P1 a7a7V a7a8P1
a7a9V a7aaNa544 a7abNa54f a7acNa54b a7adNa541 a7aeNa544 a7afV a7b0Na512 a7b1Na52a a7b2Na515
a7b3P3a0 a7b4P1 a7b5V a7b6P1 a7b7V a7b8P1 a7b9V a7baP1 a7bbV a7bcP1 a7bdV a7beP1 a7bfV a7c0P1
a7c1V a7c2P1 a7c3V a7c4N30 a7c5Na543 a7c6N8a38 a7c7P1 a7c8V a7c9P1 a7caV a7cbNa567 a7ccP1 a7cdV
a7ceP1 a7cfV a7d0P1 a7d1V a7d2P1 a7d3V a7d4P1 a7d5V a7d6P1 a7d7V a7d8P1 a7d9V a7daP1 a7dbV
a7dcNa641 a7ddX a7f1Na77e a7f2Na78f a7f3Na78d a7f4Na783 a7f5P1 a7f6V a7f8Na6d1 a7f9Na6a6 a7faV
a82dX a830V a83aX a840V a878X a880V a8c6X a8ceV a8daX a8e0V a954X a95fV a97dX a980V a9ceX a9cfV
a9daX a9deV a9ffX aa00V aa37X aa40V aa4eX aa50V aa5aX aa5cV aac3X aadbV aaf7X ab01V ab07X ab09V
ab0fX ab11V ab17X ab20V ab27X ab28V ab2fX ab30V ab5cN435 ab5dN26 ab5eNa8f3 ab5fNd ab60V
ab69Na8dc ab6aV ab6cX ab70N97d0 abc0V abeeX abf0V abfaX ac00V d7a4X d7b0V d7c7X d7cbV d7fcX
f900N6cb8 f901N920d f902N6a38 f903N6c3b f904N8a33 f905Naad3 f906Na521 f907N596b f908N596c
f909N9fb8 f90aN6739 f90bNa384 f90cN9fc4 f90dN9717 f90eN82a5 f90fN798a f910N72d1 f911N7157
f912N701a f913N6884 f914N8f12 f915N8bfa f916N883d f917N8539 f918N74db f919N67af f91aN5f29
f91bNaa99 f91cNa5a7 f91dN8e19 f91eN8703 f91fN72f2 f920N5b02 f921N9bd1 f922N8937 f923N7356
f924N6fc0 f925N965c f926N774e f927N7108 f928N9a5e f929N9212 f92aN8bc0 f92bN862f f92cN685e
f92dNa9a7 f92eNa777 f92fNa651 f930N946c f931N8e5e f932N8722 f933N824c f934N7933 f935N732f
f936N72da f937N6b48 f938N6206 f939N5dca f93aN5b40 f93bN80af f93cN7fbd f93dN7b9d f93eN7575
f93fN663b f940N5ac1 f941N6e6b f942Na063 f943N9a3f f944N7ce4 f945N78c7 f946N86e4 f947N807d
f948N6c86 f949N6252 f94aNa072 f94bN9ce9 f94cN8f39 f94dN8b73 f94eN8a3f f94fN7c20 f950N7b19
f951N6306 f952Na680 f953N78c8 f954Na778 f955Na789 f956N7f3a f957N7b99 f958N7567 f959N62e4
f95aN6dda f95bN968c f95cN8f5a f95dN6e5f f95eNab25 f95fN9d78 f960N994e f961N85da f962N83f2
f963Na64c f964N8069 f965Na9a6 f966N99bd f967Nab5a f968N8c9c f969N93f1 f96aN7c48 f96bNa5a8
f96cNa10e f96dN826c f96eN7525 f96fN6ec5 f970N8db6 f971N69c1 f972N8cea f973N9675 f974N768f
f975N95d5 f976N8411 f977Naac9 f978Na80f f979Na7b0 f97aN90f9 f97bN7c94 f97cN770d f97dN6eab
f97eN67af f97fNa68a f980Na53e f981Na00e f982N9a96 f983N93be f984N8986 f985N805b f986N63d9
f987N5f1d f988N5af1 f989N5abb f98aNa6ef f98bN92c5 f98cN8e15 f98dN6a2b f98eN9b1a f98fN97ff
f990N9790 f991N94f7 f992N8a6f f993N884a f994N850b f995N7fcb f996N7ba2 f997N7928 f998N6a72
f999N74ab f99aN6977 f99bN6651 f99cNa785 f99dNa6fa f99eNa4e1 f99fN88d7 f9a0N70de f9a1N6ef7
f9a2N9ad9 f9a3N99ae f9a4N9629 f9a5N8df7 f9a6N7d68 f9a7N8632 f9a8Naac4 f9a9Na2b0 f9aaN9dc3
f9abN9bf1 f9acN9990 f9adN85fb f9aeN8545 f9afN7a15 f9b0N796a f9b1N677d f9b2N62bc f9b3N626b
f9b4N619c f9b5Naa2a f9b6N8008 f9b7N6803 f9b8N6300 f9b9N98d8 f9baNab34 f9bbNa8e1 f9bcN9dce
f9bdN9d7e f9beN9425 f9bfN8fbd f9c0N87f2 f9c1N837f f9c2N74c6 f9c3N6947 f9c4N5a37 f9c5N933d
f9c6N6398 f9c7Na73e f9c8N924d f9c9N91d6 f9caN8c89 f9cbN8b2f f9ccN85c3 f9cdN8474 f9ceN8163
f9cfN7cbf f9d0N6172 f9d1Na864 f9d2N97a4 f9d3N635b f9d4Na9a9 f9d5N9cbc f9d6N8bec f9d7N6aad
f9d8N9a4d f9d9N9895 f9daN91c3 f9dbN8654 f9dcN6356 f9ddNa7b4 f9deNa5cf f9dfN9d7a f9e0N93cd
f9e1N9293 f9e2N913a f9e3N8cfe f9e4N85de f9e5N8403 f9e6N7a6d f9e7N7118 f9e8N7107 f9e9N681d
f9eaN6308 f9ebNa6ac f9ecN8b32 f9edNa5d0 f9eeN881e f9efN8557 f9f0N73f6 f9f1N634e f9f2N5d9b
f9f3N5b54 f9f4N925d f9f5N8c2a f9f6N780e f9f7N7f2c f9f8N7ed8 f9f9N7d67 f9faN873a f9fbN8962
f9fcN6ea4 f9fdNab3d f9feN76c8 f9ffNa7c5 fa00Na7f9 fa01N9b5b fa02N972f fa03N7d2d fa04N9e7f
fa05N8ce7 fa06N9352 fa07N6acc fa08N71bc fa09N63bc fa0aN707f fa0bN9b38 fa0cNa8cc fa0dNa44d fa0eV
fa10Na1b6 fa11V fa12N939e fa13V fa15Na837 fa16N86ec fa17N834d fa18N80dc fa19N80bb fa1aN80b5
fa1bN808c fa1cN62c6 fa1dN7d5f fa1eN7a61 fa1fV fa20N740e fa21V fa22N6f2a fa23V fa25N69ed
fa26N6929 fa27V fa2aN613b fa2bN612f fa2cN6104 fa2dN5c79 fa2eN6950 fa2fN6378 fa30Naa82 fa31Na94a
fa32Na8e5 fa33Na76a fa34Na750 fa35Na6e4 fa36Na499 fa37Na431 fa38Na3d0 fa39Na1f9 fa3aNa192
fa3bN9dd7 fa3cN9dce fa3dN99a9 fa3eN98d6 fa3fN98b1 fa40N984e fa41N94f2 fa42N9460 fa43N93b2
fa44N91bf fa45N8cce fa46N8c2c fa47N8b25 fa48N88da fa49N881e fa4aN8628 fa4bN81ba fa4cN810e
fa4dN8104 fa4eN8106 fa4fN80ff fa50N80fa fa51N80f4 fa52N80c5 fa54N8014 fa55N7fd4 fa56N7e96
fa57N7c63 fa58N7c4f fa59N7c18 fa5aN7ae8 fa5bN7a56 fa5cN786f fa5dN77e4 fa5eN77e5 fa5fN7608
fa60N7150 fa61N70cb fa62N6f61 fa63N6f2a fa64N6d91 fa65N6d5d fa66N6ab0 fa67N6a2f fa68N6385
fa69N626a fa6aN622f fa6bN99f6 fa6cP14882 fa6dN7855 fa6eX fa70Nac4a fa71Na8bc fa72Na90a
fa73Naaf3 fa74Na92f fa75Na8f5 fa76Na7af fa77Na77d fa78Na4db fa79Na524 fa7aNa4e1 fa7bNa499
fa7cNa222 fa7dNa1ca fa7eNa13a fa7fNa12b fa80Na01e fa81N9f59 fa82N9bb0 fa83N9baa fa84N9b1b
fa85N9ad8 fa86N99ae fa87N9939 fa88N9980 fa89N98fb fa8aN992a fa8bN9899 fa8cN9858 fa8dN96c9
fa8eN9672 fa8fN963d fa90N953a fa91N941d fa92N937b fa93N9378 fa94N933e fa95N8f1c fa96N8edc
fa97N8d56 fa98N8bbd fa99N8bce fa9aN8b78 fa9bN8a7d fa9cN892e fa9dN82f6 fa9eN8869 fa9fN87f0
faa0N8776 faa1N8630 faa2N859c faa3N8568 faa4N8487 faa5N8486 faa6N83dc faa7N83cc faa8N83b4
faa9N835f faaaN836a faabN81df faacN7ffb faadN7eed faaeN7e33 faafN7d54 fab0N7cbc fab1N7b73
fab2N7aad fab3N7761 fab4N76c5 fab5N733c fab6N7175 fab7N7131 fab8N7122 fab9N6ffa fabaN6fc2
fabbN6ff0 fabcN6fbb fabdN6fbf fabeN6fd1 fabfN6f86 fac0N6f36 fac1N6db9 fac2N6b8a fac3N6a51
fac4N692b fac5N684f fac6N644a fac7N63e4 fac8N6372 fac9N62ee facaN62cb facbN62c0 faccN6291
facdN5fbb faceN5b32 facfP12d7b fad0P12d74 fad1P13904 fad2Nbf35 fad3Nbabb fad4Nba9b fad5P15774
fad6P161fa fad7P183fc fad8N5b95 fad9N5b4b fadaX fb00M66.66 fb01M66.69 fb02M66.6c fb03M66.66.69
fb04M66.66.6c fb05M73.74 fb07X fb13M574.576 fb14M574.565 fb15M574.56b fb16M57e.576 fb17M574.56d
fb18X fb1dM5d9.5b4 fb1eV fb1fM5f2.5b7 fb20Nf53e fb21Nf551 fb22Nf54f fb24Nf549 fb27Nf53f
fb28Nf53e fb29Nfafe fb2aM5e9.5c1 fb2bM5e9.5c2 fb2cM5e9.5bc.5c1 fb2dM5e9.5bc.5c2 fb2eM5d0.5b7
fb2fM5d0.5b8 fb30M5d0.5bc fb31M5d1.5bc fb32M5d2.5bc fb33M5d3.5bc fb34M5d4.5bc fb35M5d5.5bc
fb36M5d6.5bc fb37X fb38M5d8.5bc fb39M5d9.5bc fb3aM5da.5bc fb3bM5db.5bc fb3cM5dc.5bc fb3dX
fb3eM5de.5bc fb3fX fb40M5e0.5bc fb41M5e1.5bc fb42X fb43M5e3.5bc fb44M5e4.5bc fb45X fb46M5e6.5bc
fb47M5e7.5bc fb48M5e8.5bc fb49M5e9.5bc fb4aM5ea.5bc fb4bM5d5.5b9 fb4cM5d1.5bf fb4dM5db.5bf
fb4eM5e4.5bf fb4fM5d0.5dc fb50Nf4df fb51Nf4e0 fb52Nf4d7 fb53Nf4d8 fb54Nf4d9 fb55Nf4da fb56Nf4d8
fb57Nf4d9 fb58Nf4da fb59Nf4db fb5aNf4da fb5bNf4db fb5cNf4dc fb5dNf4dd fb5eNf4e4 fb5fNf4e5
fb60Nf4e6 fb61Nf4e7 fb62Nf4e3 fb63Nf4e4 fb64Nf4e5 fb65Nf4e6 fb66Nf4ed fb67Nf4ee fb68Nf4ef
fb69Nf4f0 fb6aNf4c6 fb6bNf4c7 fb6cNf4c8 fb6dNf4c9 fb6eNf4c8 fb6fNf4c9 fb70Nf4ca fb71Nf4cb
fb72Nf4ee fb73Nf4ef fb74Nf4f0 fb75Nf4f1 fb76Nf4f3 fb77Nf4f4 fb78Nf4f5 fb79Nf4f6 fb7aNf4f4
fb7bNf4f5 fb7cNf4f6 fb7dNf4f7 fb7fNf4f8 fb80Nf4f9 fb81Nf4fa fb82Nf4f5 fb83Nf4f6 fb84Nf4f8
fb85Nf4f9 fb86Nf4f8 fb87Nf4f9 fb88Nf500 fb89Nf501 fb8aNf4f2 fb8bNf4f3 fb8cNf4fb fb8dNf4fc
fb8eNf4e5 fb8fNf4e6 fb90Nf4e7 fb91Nf4e8 fb92Nf4e3 fb93Nf4e4 fb94Nf4e5 fb95Nf4e6 fb96Nf4e3
fb97Nf4e4 fb98Nf4e5 fb99Nf4e6 fb9aNf4e9 fb9bNf4ea fb9cNf4eb fb9dNf4ec fb9eNf4e4 fb9fNf4e5
fba1Nf4e6 fba2Nf4e7 fba3Nf4e8 fba4Nf4e4 fba5Nf4e5 fba7Nf4e6 fba8Nf4e7 fba9Nf4e8 fbaaNf4ec
fbabNf4ed fbacNf4ee fbadNf4ef fbaeNf4dc fbafNf4dd fbb1Nf4de fbb2V fbd3Nf526 fbd4Nf527 fbd5Nf528
fbd6Nf529 fbd7Nf510 fbd8Nf511 fbd9Nf513 fbdaNf514 fbdbNf513 fbdcNf514 fbddM6c7.674 fbdeNf513
fbdfNf514 fbe0Nf51b fbe1Nf51c fbe2Nf519 fbe3Nf51a fbe4Nf514 fbe5Nf515 fbe6Nf516 fbe7Nf517
fbe8Nf59f fbe9Nf5a0 fbeaM626.627 fbecM626.6d5 fbeeM626.648 fbf0M626.6c7 fbf2M626.6c6
fbf4M626.6c8 fbf6M626.6d0 fbf9M626.649 fbfcNf530 fbfdNf531 fbfeNf532 fbffNf533 fc00M626.62c
fc01M626.62d fc02M626.645 fc03M626.649 fc04M626.64a fc05M628.62c fc06M628.62d fc07M628.62e
fc08M628.645 fc09M628.649 fc0aM628.64a fc0bM62a.62c fc0cM62a.62d fc0dM62a.62e fc0eM62a.645
fc0fM62a.649 fc10M62a.64a fc11M62b.62c fc12M62b.645 fc13M62b.649 fc14M62b.64a fc15M62c.62d
fc16M62c.645 fc17M62d.62c fc18M62d.645 fc19M62e.62c fc1aM62e.62d fc1bM62e.645 fc1cM633.62c
fc1dM633.62d fc1eM633.62e fc1fM633.645 fc20M635.62d fc21M635.645 fc22M636.62c fc23M636.62d
fc24M636.62e fc25M636.645 fc26M637.62d fc27M637.645 fc28M638.645 fc29M639.62c fc2aM639.645
fc2bM63a.62c fc2cM63a.645 fc2dM641.62c fc2eM641.62d fc2fM641.62e fc30M641.645 fc31M641.649
fc32M641.64a fc33M642.62d fc34M642.645 fc35M642.649 fc36M642.64a fc37M643.627 fc38M643.62c
fc39M643.62d fc3aM643.62e fc3bM643.644 fc3cM643.645 fc3dM643.649 fc3eM643.64a fc3fM644.62c
fc40M644.62d fc41M644.62e fc42M644.645 fc43M644.649 fc44M644.64a fc45M645.62c fc46M645.62d
fc47M645.62e fc48M645.645 fc49M645.649 fc4aM645.64a fc4bM646.62c fc4cM646.62d fc4dM646.62e
fc4eM646.645 fc4fM646.649 fc50M646.64a fc51M647.62c fc52M647.645 fc53M647.649 fc54M647.64a
fc55M64a.62c fc56M64a.62d fc57M64a.62e fc58M64a.645 fc59M64a.649 fc5aM64a.64a fc5bM630.670
fc5cM631.670 fc5dM649.670 fc5eM20.64c.651 fc5fM20.64d.651 fc60M20.64e.651 fc61M20.64f.651
fc62M20.650.651 fc63M20.651.670 fc64M626.631 fc65M626.632 fc66M626.645 fc67M626.646
fc68M626.649 fc69M626.64a fc6aM628.631 fc6bM628.632 fc6cM628.645 fc6dM628.646 fc6eM628.649
fc6fM628.64a fc70M62a.631 fc71M62a.632 fc72M62a.645 fc73M62a.646 fc74M62a.649 fc75M62a.64a
fc76M62b.631 fc77M62b.632 fc78M62b.645 fc79M62b.646 fc7aM62b.649 fc7bM62b.64a fc7cM641.649
fc7dM641.64a fc7eM642.649 fc7fM642.64a fc80M643.627 fc81M643.644 fc82M643.645 fc83M643.649
fc84M643.64a fc85M644.645 fc86M644.649 fc87M644.64a fc88M645.627 fc89M645.645 fc8aM646.631
fc8bM646.632 fc8cM646.645 fc8dM646.646 fc8eM646.649 fc8fM646.64a fc90M649.670 fc91M64a.631
fc92M64a.632 fc93M64a.645 fc94M64a.646 fc95M64a.649 fc96M64a.64a fc97M626.62c fc98M626.62d
fc99M626.62e fc9aM626.645 fc9bM626.647 fc9cM628.62c fc9dM628.62d fc9eM628.62e fc9fM628.645
fca0M628.647 fca1M62a.62c fca2M62a.62d fca3M62a.62e fca4M62a.645 fca5M62a.647 fca6M62b.645
fca7M62c.62d fca8M62c.645 fca9M62d.62c fcaaM62d.645 fcabM62e.62c fcacM62e.645 fcadM633.62c
fcaeM633.62d fcafM633.62e fcb0M633.645 fcb1M635.62d fcb2M635.62e fcb3M635.645 fcb4M636.62c
fcb5M636.62d fcb6M636.62e fcb7M636.645 fcb8M637.62d fcb9M638.645 fcbaM639.62c fcbbM639.645
fcbcM63a.62c fcbdM63a.645 fcbeM641.62c fcbfM641.62d fcc0M641.62e fcc1M641.645 fcc2M642.62d
fcc3M642.645 fcc4M643.62c fcc5M643.62d fcc6M643.62e fcc7M643.644 fcc8M643.645 fcc9M644.62c
fccaM644.62d fccbM644.62e fcccM644.645 fccdM644.647 fcceM645.62c fccfM645.62d fcd0M645.62e
fcd1M645.645 fcd2M646.62c fcd3M646.62d fcd4M646.62e fcd5M646.645 fcd6M646.647 fcd7M647.62c
fcd8M647.645 fcd9M647.670 fcdaM64a.62c fcdbM64a.62d fcdcM64a.62e fcddM64a.645 fcdeM64a.647
fcdfM626.645 fce0M626.647 fce1M628.645 fce2M628.647 fce3M62a.645 fce4M62a.647 fce5M62b.645
fce6M62b.647 fce7M633.645 fce8M633.647 fce9M634.645 fceaM634.647 fcebM643.644 fcecM643.645
fcedM644.645 fceeM646.645 fcefM646.647 fcf0M64a.645 fcf1M64a.647 fcf2M640.64e.651
fcf3M640.64f.651 fcf4M640.650.651 fcf5M637.649 fcf6M637.64a fcf7M639.649 fcf8M639.64a
fcf9M63a.649 fcfaM63a.64a fcfbM633.649 fcfcM633.64a fcfdM634.649 fcfeM634.64a fcffM62d.649
fd00M62d.64a fd01M62c.649 fd02M62c.64a fd03M62e.649 fd04M62e.64a fd05M635.649 fd06M635.64a
fd07M636.649 fd08M636.64a fd09M634.62c fd0aM634.62d fd0bM634.62e fd0cM634.645 fd0dM634.631
fd0eM633.631 fd0fM635.631 fd10M636.631 fd11M637.649 fd12M637.64a fd13M639.649 fd14M639.64a
fd15M63a.649 fd16M63a.64a fd17M633.649 fd18M633.64a fd19M634.649 fd1aM634.64a fd1bM62d.649
fd1cM62d.64a fd1dM62c.649 fd1eM62c.64a fd1fM62e.649 fd20M62e.64a fd21M635.649 fd22M635.64a
fd23M636.649 fd24M636.64a fd25M634.62c fd26M634.62d fd27M634.62e fd28M634.645 fd29M634.631
fd2aM633.631 fd2bM635.631 fd2cM636.631 fd2dM634.62c fd2eM634.62d fd2fM634.62e fd30M634.645
fd31M633.647 fd32M634.647 fd33M637.645 fd34M633.62c fd35M633.62d fd36M633.62e fd37M634.62c
fd38M634.62d fd39M634.62e fd3aM637.645 fd3bM638.645 fd3cM627.64b fd3eV fd50M62a.62c.645
fd51M62a.62d.62c fd53M62a.62d.645 fd54M62a.62e.645 fd55M62a.645.62c fd56M62a.645.62d
fd57M62a.645.62e fd58M62c.645.62d fd5aM62d.645.64a fd5bM62d.645.649 fd5cM633.62d.62c
fd5dM633.62c.62d fd5eM633.62c.649 fd5fM633.645.62d fd61M633.645.62c fd62M633.645.645
fd64M635.62d.62d fd66M635.645.645 fd67M634.62d.645 fd69M634.62c.64a fd6aM634.645.62e
fd6cM634.645.645 fd6eM636.62d.649 fd6fM636.62e.645 fd71M637.645.62d fd73M637.645.645
fd74M637.645.64a fd75M639.62c.645 fd76M639.645.645 fd78M639.645.649 fd79M63a.645.645
fd7aM63a.645.64a fd7bM63a.645.649 fd7cM641.62e.645 fd7eM642.645.62d fd7fM642.645.645
fd80M644.62d.645 fd81M644.62d.64a fd82M644.62d.649 fd83M644.62c.62c fd85M644.62e.645
fd87M644.645.62d fd89M645.62d.62c fd8aM645.62d.645 fd8bM645.62d.64a fd8cM645.62c.62d
fd8dM645.62c.645 fd8eM645.62e.62c fd8fM645.62e.645 fd90V fd92M645.62c.62e fd93M647.645.62c
fd94M647.645.645 fd95M646.62d.645 fd96M646.62d.649 fd97M646.62c.645 fd99M646.62c.649
fd9aM646.645.64a fd9bM646.645.649 fd9cM64a.645.645 fd9eM628.62e.64a fd9fM62a.62c.64a
fda0M62a.62c.649 fda1M62a.62e.64a fda2M62a.62e.649 fda3M62a.645.64a fda4M62a.645.649
fda5M62c.645.64a fda6M62c.62d.649 fda7M62c.645.649 fda8M633.62e.649 fda9M635.62d.64a
fdaaM634.62d.64a fdabM636.62d.64a fdacM644.62c.64a fdadM644.645.64a fdaeM64a.62d.64a
fdafM64a.62c.64a fdb0M64a.645.64a fdb1M645.645.64a fdb2M642.645.64a fdb3M646.62d.64a
fdb4M642.645.62d fdb5M644.62d.645 fdb6M639.645.64a fdb7M643.645.64a fdb8M646.62c.62d
fdb9M645.62e.64a fdbaM644.62c.645 fdbbM643.645.645 fdbcM644.62c.645 fdbdM646.62c.62d
fdbeM62c.62d.64a fdbfM62d.62c.64a fdc0M645.62c.64a fdc1M641.645.64a fdc2M628.62d.64a
fdc3M643.645.645 fdc4M639.62c.645 fdc5M635.645.645 fdc6M633.62e.64a fdc7M646.62c.64a fdc8V
fdd0X fdf0M635.644.6d2 fdf1M642.644.6d2 fdf2M627.644.644.647 fdf3M627.643.628.631
fdf4M645.62d.645.62f fdf5M635.644.639.645 fdf6M631.633.648.644 fdf7M639.644.64a.647
fdf8M648.633.644.645 fdf9M635.644.649
fdfaM635.644.649.20.627.644.644.647.20.639.644.64a.647.20.648.633.644.645
fdfbM62c.644.20.62c.644.627.644.647 fdfcM631.6cc.627.644 fdfdV fe00I fe10Nfde4 fe11Nce10 fe12X
fe13Nfdd9 fe15Nfdf4 fe16Nfdd7 fe17Nce01 fe19X fe20V fe30X fe31Nde1d fe32Nde1f fe33Nfdd4
fe34Nfdd5 fe35Nfe0d fe37Nfdbc fe38Nfdbb fe39Nce25 fe3bNce2b fe3dNce33 fe3fNce37 fe41Nce35 fe45V
fe47Nfdec fe48Nfdeb fe49M20.305 fe4dNfdee fe4eNfdef fe4fNfdf0 fe50Nfe24 fe51Nce50 fe52X
fe54Nfe19 fe55Nfe1b fe56Nfe17 fe57Nfe36 fe58Nde44 fe59Nfe31 fe5bNfde0 fe5cNfddf fe5dNce49
fe5fNfe3c fe60Nfe3a fe61Nfe37 fe63Nfe36 fe64Nfe28 fe65Nfe27 fe66Nfe29 fe67X fe68Nfe0c fe69Nfe45
fe6bNfe2b fe6cX fe70M20.64b fe71M640.64b fe72M20.64c fe73V fe74M20.64d fe75X fe76M20.64e
fe77M640.64e fe78M20.64f fe79M640.64f fe7aM20.650 fe7bM640.650 fe7cM20.651 fe7dM640.651
fe7eM20.652 fe7fM640.652 fe80Nf85f fe82Nf860 fe84Nf861 fe86Nf862 fe88Nf863 fe8aNf864 fe8bNf865
fe8cNf866 fe8eNf867 fe90Nf868 fe91Nf869 fe92Nf86a fe94Nf86b fe96Nf86c fe97Nf86d fe98Nf86e
fe9aNf86f fe9bNf870 fe9cNf871 fe9eNf872 fe9fNf873 fea0Nf874 fea2Nf875 fea3Nf876 fea4Nf877
fea6Nf878 fea7Nf879 fea8Nf87a feaaNf87b feacNf87c feaeNf87d feb0Nf87e feb2Nf87f feb3Nf880
feb4Nf881 feb6Nf882 feb7Nf883 feb8Nf884 febaNf885 febbNf886 febcNf887 febeNf888 febfNf889
fec0Nf88a fec2Nf88b fec3Nf88c fec4Nf88d fec6Nf88e fec7Nf88f fec8Nf890 fecaNf891 fecbNf892
feccNf893 feceNf894 fecfNf895 fed0Nf896 fed1Nf890 fed2Nf891 fed3Nf892 fed4Nf893 fed6Nf894
fed7Nf895 fed8Nf896 fedaNf897 fedbNf898 fedcNf899 fedeNf89a fedfNf89b fee0Nf89c fee2Nf89d
fee3Nf89e fee4Nf89f fee6Nf8a0 fee7Nf8a1 fee8Nf8a2 feeaNf8a3 feebNf8a4 feecNf8a5 feeeNf8a6
fef0Nf8a7 fef2Nf8a8 fef3Nf8a9 fef4Nf8aa fef5M644.622 fef7M644.623 fef9M644.625 fefbM644.627
fefdX feffI ff00X ff01Nfee0 ff21Nfec0 ff3bNfee0 ff5fNd5da ff61Nff33 ff62Ncf56 ff64Ncf63
ff65Nce6a ff66Nce74 ff67Ncec6 ff68Ncec5 ff69Ncec4 ff6aNcec3 ff6bNcec2 ff6cNce89 ff6dNce88
ff6eNce87 ff6fNceac ff70Nce74 ff71Ncecf ff72Ncece ff73Ncecd ff74Ncecc ff75Ncecb ff77Nceca
ff78Ncec9 ff79Ncec8 ff7aNcec7 ff7bNcec6 ff7cNcec5 ff7dNcec4 ff7eNcec3 ff7fNcec2 ff80Ncec1
ff81Ncec0 ff82Ncebe ff83Ncebd ff84Ncebc ff85Ncebb ff8bNceb9 ff8cNceb7 ff8dNceb5 ff8eNceb3
ff8fNceb1 ff94Nceb0 ff95Nceaf ff96Nceae ff9cNcead ff9dNceaa ff9eNcf05 ffa0I ffa1Neea1 ffa3Nedf9
ffa4Neea2 ffa5Nedf9 ffa7Neea4 ffaaNedfa ffb0Nee96 ffb1Neeab ffb4Nee93 ffb5Neeac ffbfX ffc2Nee61
ffc8X ffcaNee63 ffd0X ffd2Nee65 ffd8X ffdaNee67 ffddX ffe0Nff3e ffe2Nff36 ffe3M20.304 ffe4Nff3e
ffe5Nff40 ffe6Ndf3d ffe7X ffe8Ndae6 ffe9Nde59 ffedNda4d ffeeNda23 ffefX 10000V 1000cX 1000dV
10027X 10028V 1003bX 1003cV 1003eX 1003fV 1004eX 10050V 1005eX 10080V 100fbX 10100V 10103X
10107V 10134X 10137V 1018fX 10190V 1019dX 101a0V 101a1X 101d0V 101feX 10280V 1029dX 102a0V
102d1X 102e0V 102fcX 10300V 10324X 1032dV 1034bX 10350V 1037bX 10380V 1039eX 1039fV 103c4X
103c8V 103d6X 10400P28 10428V 1049eX 104a0V 104aaX 104b0P28 104d4X 104d8V 104fcX 10500V 10528X
10530V 10564X 1056fV 10570P27 1057bX 1057cP27 1058bX 1058cP27 10593X 10594P27 10596X 10597V
105a2X 105a3V 105b2X 105b3V 105baX 105bbV 105bdX 105c0V 105f4X 10600V 10737X 10740V 10756X
10760V 10768X 10780V 10781N104b1 10783N1069d 10784N104eb 10785N10532 10786X 10787N104e4
10788N5c22 10789N104e4 1078aN104e6 1078bN10535 1078dNe9fc 1078eN10536 1078fN10531 10790N104e7
10791N1052d 10792N10530 10793N10533 10794N104f9 10795N1066e 10796N104fa 10797N10530 10798N10514
10799N104ef 1079bN1052f 1079cPd768 1079dN600f 1079eN10530 1079fPd766 107a0N10512 107a1Pd765
107a2N106aa 107a3N1052d 107a5N10734 107a6N1052c 107a7Pd761 107a8N1052b 107aaN1052a 107abN10503
107acN10506 107adN5c46 107aeN10507 107afN10527 107b0Ndb3f 107b1X 107b2N10523 107b3N10512
107b5N1051d 107b6N105f6 107b9Pd751 107baPd764 107bbX 10800V 10806X 10808V 10809X 1080aV 10836X
10837V 10839X 1083cV 1083dX 1083fV 10856X 10857V 1089fX 108a7V 108b0X 108e0V 108f3X 108f4V
108f6X 108fbV 1091cX 1091fV 1093aX 1093fV 1095aX 10980V 109b8X 109bcV 109d0X 109d2V 10a04X
10a05V 10a07X 10a0cV 10a14X 10a15V 10a18X 10a19V 10a36X 10a38V 10a3bX 10a3fV 10a49X 10a50V
10a59X 10a60V 10aa0X 10ac0V 10ae7X 10aebV 10af7X 10b00V 10b36X 10b39V 10b56X 10b58V 10b73X
10b78V 10b92X 10b99V 10b9dX 10ba9V 10bb0X 10c00V 10c49X 10c80P40 10cb3X 10cc0V 10cf3X 10cfaV
10d28X 10d30V 10d3aX 10d40V 10d50P20 10d66X 10d69V 10d86X 10d8eV 10d90X 10e60V 10e7fX 10e80V
10eaaX 10eabV 10eaeX 10eb0V 10eb2X 10ec2V 10ec8X 10ed0V 10ed9X 10efaV 10f28X 10f30V 10f5aX
10f70V 10f8aX 10fb0V 10fccX 10fe0V 10ff7X 11000V 1104eX 11052V 11076X 1107fV 110bdX 110beV
110c3X 110d0V 110e9X 110f0V 110faX 11100V 11135X 11136V 11148X 11150V 11177X 11180V 111e0X
111e1V 111f5X 11200V 11212X 11213V 11242X 11280V 11287X 11288V 11289X 1128aV 1128eX 1128fV
1129eX 1129fV 112aaX 112b0V 112ebX 112f0V 112faX 11300V 11304X 11305V 1130dX 1130fV 11311X
11313V 11329X 1132aV 11331X 11332V 11334X 11335V 1133aX 1133bV 11345X 11347V 11349X 1134bV
1134eX 11350V 11351X 11357V 11358X 1135dV 11364X 11366V 1136dX 11370V 11375X 11380V 1138aX
1138bV 1138cX 1138eV 1138fX 11390V 113b6X 113b7V 113c1X 113c2V 113c3X 113c5V 113c6X 113c7V
113cbX 113ccV 113d6X 113d7V 113d9X 113e1V 113e3X 11400V 1145cX 1145dV 11462X 11480V 114c8X
114d0V 114daX 11580V 115b6X 115b8V 115deX 11600V 11645X 11650V 1165aX 11660V 1166dX 11680V
116baX 116c0V 116caX 116d0V 116e4X 11700V 1171bX 1171dV 1172cX 11730V 11747X 11800V 1183cX
118a0P20 118c0V 118f3X 118ffV 11907X 11909V 1190aX 1190cV 11914X 11915V 11917X 11918V 11936X
11937V 11939X 1193bV 11947X 11950V 1195aX 119a0V 119a8X 119aaV 119d8X 119daV 119e5X 11a00V
11a48X 11a50V 11aa3X 11ab0V 11af9X 11b00V 11b0aX 11b60V 11b68X 11bc0V 11be2X 11bf0V 11bfaX
11c00V 11c09X 11c0aV 11c37X 11c38V 11c46X 11c50V 11c6dX 11c70V 11c90X 11c92V 11ca8X 11ca9V
11cb7X 11d00V 11d07X 11d08V 11d0aX 11d0bV 11d37X 11d3aV 11d3bX 11d3cV 11d3eX 11d3fV 11d48X
11d50V 11d5aX 11d60V 11d66X 11d67V 11d69X 11d6aV 11d8fX 11d90V 11d92X 11d93V 11d99X 11da0V
11daaX 11db0V 11ddcX 11de0V 11deaX 11ee0V 11ef9X 11f00V 11f11X 11f12V 11f3bX 11f3eV 11f5bX
11fb0V 11fb1X 11fc0V 11ff2X 11fffV 1239aX 12400V 1246fX 12470V 12475X 12480V 12544X 12f90V
12ff3X 13000V 13430X 13440V 13456X 13460V 143fbX 14400V 14647X 16100V 1613aX 16800V 16a39X
16a40V 16a5fX 16a60V 16a6aX 16a6eV 16abfX 16ac0V 16acaX 16ad0V 16aeeX 16af0V 16af6X 16b00V
16b46X 16b50V 16b5aX 16b5bV 16b62X 16b63V 16b78X 16b7dV 16b90X 16d40V 16d7aX 16e40P20 16e60V
16e9bX 16ea0P1b 16eb9X 16ebbV 16ed4X 16f00V 16f4bX 16f4fV 16f88X 16f8fV 16fa0X 16fe0V 16fe5X
16ff0V 16ff7X 17000V 18cd6X 18cffV 18d1fX 18d80V 18df3X 1aff0V 1aff4X 1aff5V 1affcX 1affdV
1afffX 1b000V 1b123X 1b132V 1b133X 1b150V 1b153X 1b155V 1b156X 1b164V 1b168X 1b170V 1b2fcX
1bc00V 1bc6bX 1bc70V 1bc7dX 1bc80V 1bc89X 1bc90V 1bc9aX 1bc9cV 1bca0I 1bca4X 1cc00V 1ccd6N1cc75
1ccf0N1ccc0 1ccfaV 1ccfdX 1cd00V 1ceb4X 1cebaV 1ced1X 1cee0V 1cef1X 1cf00V 1cf2eX 1cf30V 1cf47X
1cf50V 1cfc4X 1d000V 1d0f6X 1d100V 1d127X 1d129V 1d15eM1d157.1d165 1d15fM1d158.1d165
1d160M1d158.1d165.1d16e 1d161M1d158.1d165.1d16f 1d162M1d158.1d165.1d170 1d163M1d158.1d165.1d171
1d164M1d158.1d165.1d172 1d165V 1d173I 1d17bV 1d1bbM1d1b9.1d165 1d1bcM1d1ba.1d165
1d1bdM1d1b9.1d165.1d16e 1d1beM1d1ba.1d165.1d16e 1d1bfM1d1b9.1d165.1d16f 1d1c0M1d1ba.1d165.1d16f
1d1c1V 1d1ebX 1d200V 1d246X 1d2c0V 1d2d4X 1d2e0V 1d2f4X 1d300V 1d357X 1d360V 1d379X 1d400N1d39f
1d41aN1d3b9 1d434N1d3d3 1d44eN1d3ed 1d455X 1d456N1d3ed 1d468N1d407 1d482N1d421 1d49cN1d43b
1d49dX 1d49eN1d43b 1d4a0X 1d4a2N1d43b 1d4a3X 1d4a5N1d43b 1d4a7X 1d4a9N1d43b 1d4adX 1d4aeN1d43b
1d4b6N1d455 1d4baX 1d4bbN1d455 1d4bcX 1d4bdN1d455 1d4c4X 1d4c5N1d455 1d4d0N1d46f 1d4eaN1d489
1d504N1d4a3 1d506X 1d507N1d4a3 1d50bX 1d50dN1d4a3 1d515X 1d516N1d4a3 1d51dX 1d51eN1d4bd
1d538N1d4d7 1d53aX 1d53bN1d4d7 1d53fX 1d540N1d4d7 1d545X 1d546N1d4d7 1d547X 1d54aN1d4d7 1d551X
1d552N1d4f1 1d56cN1d50b 1d586N1d525 1d5a0N1d53f 1d5baN1d559 1d5d4N1d573 1d5eeN1d58d 1d608N1d5a7
1d622N1d5c1 1d63cN1d5db 1d656N1d5f5 1d670N1d60f 1d68aN1d629 1d6a4N1d573 1d6a5N1d46e 1d6a6X
1d6a8N1d2f7 1d6b9N1d301 1d6baN1d2f7 1d6c1N1b4ba 1d6c2N1d311 1d6d3N1d310 1d6d4N1d311 1d6dbN1b4d9
1d6dcN1d327 1d6ddN1d325 1d6deN1d324 1d6dfN1d319 1d6e0N1d31f 1d6e1N1d321 1d6e2N1d331 1d6f3N1d33b
1d6f4N1d331 1d6fbN1b4f4 1d6fcN1d34b 1d70dN1d34a 1d70eN1d34b 1d715N1b513 1d716N1d361 1d717N1d35f
1d718N1d35e 1d719N1d353 1d71aN1d359 1d71bN1d35b 1d71cN1d36b 1d72dN1d375 1d72eN1d36b 1d735N1b52e
1d736N1d385 1d747N1d384 1d748N1d385 1d74fN1b54d 1d750N1d39b 1d751N1d399 1d752N1d398 1d753N1d38d
1d754N1d393 1d755N1d395 1d756N1d3a5 1d767N1d3af 1d768N1d3a5 1d76fN1b568 1d770N1d3bf 1d781N1d3be
1d782N1d3bf 1d789N1b587 1d78aN1d3d5 1d78bN1d3d3 1d78cN1d3d2 1d78dN1d3c7 1d78eN1d3cd 1d78fN1d3cf
1d790N1d3df 1d7a1N1d3e9 1d7a2N1d3df 1d7a9N1b5a2 1d7aaN1d3f9 1d7bbN1d3f8 1d7bcN1d3f9 1d7c3N1b5c1
1d7c4N1d40f 1d7c5N1d40d 1d7c6N1d40c 1d7c7N1d401 1d7c8N1d407 1d7c9N1d409 1d7caN1d3ed 1d7cbN1d3ee
1d7ccX 1d7ceN1d79e 1d7d8N1d7a8 1d7e2N1d7b2 1d7ecN1d7bc 1d7f6N1d7c6 1d800V 1da8cX 1da9bV 1daa0X
1daa1V 1dab0X 1df00V 1df1fX 1df25V 1df2bX 1e000V 1e007X 1e008V 1e019X 1e01bV 1e022X 1e023V
1e025X 1e026V 1e02bX 1e030N1dc00 1e039N1dbff 1e03cN1dbfe 1e047N1dbfc 1e048N1dbfb 1e04aN139c1
1e04bN1db72 1e04cN1dbf6 1e04dN1dbf5 1e04eN1db65 1e04fN1dba0 1e050N1db81 1e051N1dc21 1e05aN1dc20
1e05cN1dc1e 1e05eN1dc1d 1e05fN1dc1c 1e065N1dc1b 1e067N1dbd6 1e068N1dc12 1e069N1dc14 1e06aN1dc0b
1e06bN1dbc0 1e06cN13a1b 1e06dN1dbbc 1e06eX 1e08fV 1e090X 1e100V 1e12dX 1e130V 1e13eX 1e140V
1e14aX 1e14eV 1e150X 1e290V 1e2afX 1e2c0V 1e2faX 1e2ffV 1e300X 1e4d0V 1e4faX 1e5d0V 1e5fbX
1e5ffV 1e600X 1e6c0V 1e6dfX 1e6e0V 1e6f6X 1e6feV 1e700X 1e7e0V 1e7e7X 1e7e8V 1e7ecX 1e7edV
1e7efX 1e7f0V 1e7ffX 1e800V 1e8c5X 1e8c7V 1e8d7X 1e900P22 1e922V 1e94cX 1e950V 1e95aX 1e95eV
1e960X 1ec71V 1ecb5X 1ed01V 1ed3eX 1ee00N1e7d9 1ee02N1e7d6 1ee03N1e7d4 1ee04X 1ee05N1e7bd
1ee06N1e7d4 1ee07N1e7da 1ee08N1e7d1 1ee09N1e7bf 1ee0aN1e7c7 1ee0eN1e7db 1ee0fN1e7d6 1ee10N1e7cf
1ee11N1e7dc 1ee12N1e7d0 1ee13N1e7e2 1ee14N1e7e0 1ee15N1e7eb 1ee17N1e7e9 1ee18N1e7e8 1ee19N1e7e3
1ee1aN1e7e2 1ee1bN1e7e1 1ee1cN1e7ae 1ee1dN1e763 1ee1eN1e77d 1ee1fN1e7b0 1ee20X 1ee21N1e7f9
1ee22N1e7f6 1ee23X 1ee24N1e7dd 1ee25X 1ee27N1e7fa 1ee28X 1ee29N1e7df 1ee2aN1e7e7 1ee2eN1e7fb
1ee2fN1e7f6 1ee30N1e7ef 1ee31N1e7fc 1ee32N1e7f0 1ee33X 1ee34N1e800 1ee35N1e80b 1ee37N1e809
1ee38X 1ee39N1e803 1ee3aX 1ee3bN1e801 1ee3cX 1ee42N1e816 1ee43X 1ee47N1e81a 1ee48X 1ee49N1e7ff
1ee4aX 1ee4bN1e807 1ee4cX 1ee4dN1e807 1ee4eN1e81b 1ee4fN1e816 1ee50X 1ee51N1e81c 1ee52N1e810
1ee53X 1ee54N1e820 1ee55X 1ee57N1e829 1ee58X 1ee59N1e823 1ee5aX 1ee5bN1e821 1ee5cX 1ee5dN1e7a3
1ee5eX 1ee5fN1e7f0 1ee60X 1ee61N1e839 1ee62N1e836 1ee63X 1ee64N1e81d 1ee65X 1ee67N1e83a
1ee68N1e831 1ee69N1e81f 1ee6aN1e827 1ee6bX 1ee6cN1e827 1ee6eN1e83b 1ee6fN1e836 1ee70N1e82f
1ee71N1e83c 1ee72N1e830 1ee73X 1ee74N1e840 1ee75N1e84b 1ee77N1e849 1ee78X 1ee79N1e843
1ee7aN1e842 1ee7bN1e841 1ee7cN1e80e 1ee7dX 1ee7eN1e7dd 1ee7fX 1ee80N1e859 1ee82N1e856
1ee83N1e854 1ee84N1e83d 1ee86N1e854 1ee87N1e85a 1ee88N1e851 1ee89N1e83f 1ee8aX 1ee8bN1e847
1ee8eN1e85b 1ee8fN1e856 1ee90N1e84f 1ee91N1e85c 1ee92N1e850 1ee93N1e862 1ee94N1e860 1ee95N1e86b
1ee97N1e869 1ee98N1e868 1ee99N1e863 1ee9aN1e862 1ee9bN1e861 1ee9cX 1eea1N1e879 1eea2N1e876
1eea3N1e874 1eea4X 1eea5N1e85d 1eea6N1e874 1eea7N1e87a 1eea8N1e871 1eea9N1e85f 1eeaaX
1eeabN1e867 1eeaeN1e87b 1eeafN1e876 1eeb0N1e86f 1eeb1N1e87c 1eeb2N1e870 1eeb3N1e882 1eeb4N1e880
1eeb5N1e88b 1eeb7N1e889 1eeb8N1e888 1eeb9N1e883 1eebaN1e882 1eebbN1e881 1eebcX 1eef0V 1eef2X
1f000V 1f02cX 1f030V 1f094X 1f0a0V 1f0afX 1f0b1V 1f0c0X 1f0c1V 1f0d0X 1f0d1V 1f0f6X 1f101M30.2c
1f102M31.2c 1f103M32.2c 1f104M33.2c 1f105M34.2c 1f106M35.2c 1f107M36.2c 1f108M37.2c 1f109M38.2c
1f10aM39.2c 1f10bV 1f110M28.61.29 1f111M28.62.29 1f112M28.63.29 1f113M28.64.29 1f114M28.65.29
1f115M28.66.29 1f116M28.67.29 1f117M28.68.29 1f118M28.69.29 1f119M28.6a.29 1f11aM28.6b.29
1f11bM28.6c.29 1f11cM28.6d.29 1f11dM28.6e.29 1f11eM28.6f.29 1f11fM28.70.29 1f120M28.71.29
1f121M28.72.29 1f122M28.73.29 1f123M28.74.29 1f124M28.75.29 1f125M28.76.29 1f126M28.77.29
1f127M28.78.29 1f128M28.79.29 1f129M28.7a.29 1f12aM3014.73.3015 1f12bN1f0c8 1f12cN1f0ba
1f12dM63.64 1f12eM77.7a 1f12fV 1f130N1f0cf 1f14aM68.76 1f14bM6d.76 1f14cM73.64 1f14dM73.73
1f14eM70.70.76 1f14fM77.63 1f150V 1f16aM6d.63 1f16bM6d.64 1f16cM6d.72 1f16dV 1f190M64.6a 1f191V
1f1aeX 1f1e6V 1f200M307b.304b 1f201M30b3.30b3 1f202N1c14d 1f203X 1f210N18fc5 1f211N196ba
1f212N19e46 1f213N1c14c 1f214N1a388 1f215N198fb 1f216N16833 1f217N198ee 1f218N1a374 1f219N18bf9
1f21aN180f9 1f21bN18c82 1f21cN19fcf 1f21dN19291 1f21eN1a091 1f21fN18c6f 1f220N1a003 1f221N174df
1f222N17d03 1f223N1657a 1f224N19934 1f225N19dec 1f226N18312 1f227N18f92 1f228N18ed3 1f229N1a429
1f22aN1a421 1f22bN161e1 1f22cN19446 1f22dN1a400 1f22eN19e3b 1f22fN18f28 1f230N164c0 1f231N18fde
1f232N178b1 1f233N177b9 1f234N19e2c 1f235N183b5 1f236N18b2d 1f237N18b2f 1f238N17d05 1f239N19fc7
1f23aN19c84 1f23bN160ee 1f23cX 1f240M3014.672c.3015 1f241M3014.4e09.3015 1f242M3014.4e8c.3015
1f243M3014.5b89.3015 1f244M3014.70b9.3015 1f245M3014.6253.3015 1f246M3014.76d7.3015
1f247M3014.52dd.3015 1f248M3014.6557.3015 1f249X 1f250N192b9 1f251N19e62 1f252X 1f260V 1f266X
1f300V 1f6d9X 1f6dcV 1f6edX 1f6f0V 1f6fdX 1f700V 1f7daX 1f7e0V 1f7ecX 1f7f0V 1f7f1X 1f800V
1f80cX 1f810V 1f848X 1f850V 1f85aX 1f860V 1f888X 1f890V 1f8aeX 1f8b0V 1f8bcX 1f8c0V 1f8c2X
1f8d0V 1f8d9X 1f900V 1fa58X 1fa60V 1fa6eX 1fa70V 1fa7dX 1fa80V 1fa8bX 1fa8eV 1fac7X 1fac8V
1fac9X 1facdV 1faddX 1fadfV 1faebX 1faefV 1faf9X 1fb00V 1fb93X 1fb94V 1fbf0N1fbc0 1fbfaV 1fbfbX
20000V 2a6e0X 2a700V 2b81eX 2b820V 2ceaeX 2ceb0V 2ebe1X 2ebf0V 2ee5eX 2f800N2a9c3 2f801N2a9c9
2f802N2a9c1 2f803Nf6e1 2f804N2a8a4 2f805N2a857 2f806N2a84b 2f807N2a805 2f808N2a78e 2f809N2a770
2f80aN2a723 2f80bN2a73c 2f80cN2c36e 2f80dNf1d3 2f80eN2a6c1 2f80fN2a6bb 2f810N2a6ac 2f811N2a69a
2f812Nf2f6 2f813N2c35a 2f814N2a6ad 2f815N2a688 2f816Nf2cb 2f817N2a680 2f818N2a674 2f819N2a94d
2f81aN2a66e 2f81bN2a666 2f81cN663d 2f81dN2a628 2f81eN2a61b 2f81fN2c340 2f820N2a5e5 2f821N2a5db
2f822N2a5b0 2f823N2a5ac 2f824N2c30f 2f825N2a55e 2f826N2a55d 2f827N2a543 2f828N2a52e 2f829N2a524
2f82bN2a514 2f82cN2a4e3 2f82dN2a4dc 2f82eN2a4d4 2f82fN2a4bc 2f830N2a4b3 2f831N2a4b2 2f832N2a4b3
2f833N2a4b4 2f834Nee08 2f835N287c5 2f836N2a46c 2f837N2a458 2f838Necd5 2f839N2a44e 2f83aN2a449
2f83bN2a435 2f83cN2a39e 2f83dN2a405 2f83eN2a3f6 2f83fN2a3d7 2f840N2a39e 2f841N2a34b 2f842N2a332
2f843N2a2f0 2f844N2a2e1 2f845N2a2c1 2f846N2a2c2 2f847N2a2ae 2f848N2a29d 2f849N2a296 2f84aN2a288
2f84bN2a135 2f84cN2a246 2f84dN2a136 2f84eN2a1fd 2f84fN2a1db 2f850N2a649 2f851N29f63 2f852N2a084
2f853N2a05f 2f854N2a047 2f855N2a0ca 2f856N2a024 2f857N2a026 2f858N29fac 2f859Ne375 2f85aN29f68
2f85bN29f64 2f85cN29f56 2f85dN29f43 2f85eN29f3c 2f85fN29efd 2f860Ne1b8 2f861Ne177 2f862N29e76
2f863N29e48 2f864N29e3d 2f865N29e8d 2f866N29e00 2f867N2c179 2f868N2c16c 2f869N29d61 2f86aN29d2c
2f86bN29d2d 2f86cNdea4 2f86dN29caa 2f86eN29c96 2f86fN29c88 2f870N29c7d 2f871Ndd59 2f872N29c73
2f873N29c6d 2f874N29921 2f875N29c53 2f876N2c0f5 2f877N29c17 2f878N29c0a 2f879N29bb9 2f87aN29bed
2f87bNda97 2f87cN29b39 2f87dNda97 2f87eN29b10 2f87fN29b14 2f880N29b04 2f881N29aa0 2f883N2c054
2f884N29a87 2f885N29a5d 2f886N29a49 2f887N29a1e 2f888N2c026 2f889Nd706 2f88aN2c00e 2f88bN299db
2f88cN299d9 2f88dN299d7 2f88eN299c4 2f88fN54fd 2f890N29992 2f891Nd560 2f892Nd561 2f893N27692
2f894N29972 2f895N29973 2f896N2bfcf 2f897Nc5df 2f898N96be 2f899N29937 2f89aN2992f 2f89bN2bfb8
2f89cN29902 2f89dN298d0 2f89eN298c7 2f89fN298a6 2f8a0N2981f 2f8a1N2bf67 2f8a2N2bf86 2f8a3N2980f
2f8a4Nd1d0 2f8a5N297de 2f8a6N2975e 2f8a7N2975b 2f8a8N2975a 2f8a9N2975d 2f8aaN29730 2f8abN2971d
2f8acN296fa 2f8adN29709 2f8aeN296ff 2f8afN296d1 2f8b0N296be 2f8b1N296bb 2f8b2N296a2 2f8b3N29698
2f8b4N29657 2f8b5N29604 2f8b6N295e2 2f8b7N29567 2f8b8Ncdac 2f8b9N2957c 2f8baN295be 2f8bbN29553
2f8bcN29539 2f8bdN294d9 2f8beNcccd 2f8bfN2949d 2f8c0N294fb 2f8c1N29518 2f8c2N2be94 2f8c3N2945a
2f8c4N29446 2f8c5N29428 2f8c6N2944f 2f8c7N2be5b 2f8c8N29379 2f8c9N2935d 2f8caNc8c0 2f8cbN292e8
2f8ccN291d4 2f8cdN29284 2f8ceN2bdb5 2f8cfN2923e 2f8d0N2bdc8 2f8d1N2bded 2f8d2N2a740 2f8d3N2a73e
2f8d4N291d4 2f8d5N29239 2f8d6N27829 2f8d7N2b4fe 2f8d8N291c1 2f8d9N291be 2f8daN291b9 2f8dbN2917d
2f8dcN29189 2f8ddNc51a 2f8deN2bd95 2f8dfN290e5 2f8e0N2915b 2f8e1N2908f 2f8e2N2905d 2f8e3Nc476
2f8e4N29056 2f8e5N290c6 2f8e6N28fd2 2f8e7N2bd4a 2f8e8N28fa6 2f8e9N28f46 2f8eaN28f00 2f8ebN28e43
2f8ecNc249 2f8edN28e12 2f8eeN2bcd6 2f8efN28dce 2f8f0Nc049 2f8f1N28d9d 2f8f2N2bca4 2f8f3N28d81
2f8f4N28d55 2f8f5N28d3b 2f8f7Nbe6a 2f8f8Ndbed 2f8f9Nbdff 2f8faN28cac 2f8fbNbc3f 2f8fcN28c3d
2f8fdN28c30 2f8feN28c97 2f8ffN28be9 2f900N28bc2 2f901N28b8a 2f902N28bc1 2f903N28b9a 2f904N28b8c
2f905N28b80 2f906Nbbe8 2f907N28bd3 2f908N28ad9 2f909N28a9b 2f90aN2bbd7 2f90bN28a40 2f90cN28a45
2f90dNba3c 2f90eN28b15 2f90fN289a1 2f910Nb9b2 2f911Nb983 2f912N2894c 2f913N288da 2f914N288f6
2f915N288fa 2f916N2bb80 2f917N288cd 2f918N2889b 2f919N288a2 2f91aN2886d 2f91bNf3f6 2f91cN287d7
2f91dNb6ba 2f91eN28782 2f91fNb574 2f920N286f8 2f921N286ec 2f922N286d2 2f923Nb31b 2f924N286a4
2f925N28690 2f926Nb1f1 2f927Nb113 2f928N285ae 2f929N2859e 2f92aN2ba7e 2f92bN28586 2f92cN2ba74
2f92dN2ba75 2f92eN284e7 2f92fN284d3 2f930N284bf 2f931N284ac 2f932N28468 2f933N2ba18 2f934N28410
2f935Nacff 2f936N283f8 2f937Naca5 2f938N283c8 2f939Nd79a 2f93aN2832a 2f93bNa99a 2f93cNa984
2f93dNa8f9 2f93eN2b942 2f93fN2b937 2f940N2824c 2f941Na84e 2f942Na850 2f943Na82a 2f944Na811
2f945N28227 2f947N28228 2f948N281fe 2f949N2b910 2f94aN281bf 2f94bN2b905 2f94cN2b8b6 2f94dNa530
2f94eN28100 2f94fN280c3 2f950N28084 2f951N2b86e 2f952Na32c 2f953N27ffd 2f954Na2ba 2f955Na290
2f956N27fc7 2f957N27f6c 2f958N2b829 2f959N27f19 2f95aN27f10 2f95bN27f0c 2f95cN9fe0 2f95dN9eb6
2f95eN9eb7 2f95fN27e71 2f960N2b75e 2f961N9db6 2f962N27d9c 2f963N27d9a 2f964N2b73d 2f965N9ce5
2f966N27c94 2f967N2b6c7 2f968N27c80 2f969N27c86 2f96aN27c6a 2f96bN99e5 2f96cN27c09 2f96dN2b66c
2f96eN27ba7 2f96fN27b6d 2f970N27b2b 2f971N2b63d 2f972N974a 2f973N972c 2f974N2b61b 2f975N969c
2f976N279fc 2f977N9639 2f978N279e3 2f979N2797f 2f97aN27975 2f97bN94a1 2f97cN9459 2f97dN2791d
2f97eN93d6 2f97fN2790f 2f980Nc621 2f981N2b5ac 2f982N278d0 2f983N27880 2f984N2b579 2f985N27847
2f986N29ed1 2f987N91e0 2f988N91d3 2f989Nc5f6 2f98aNc5ee 2f98bN2778a 2f98cN27788 2f98dN269ef
2f98eN2b523 2f98fN276fe 2f990N27705 2f991N276f4 2f992N2a6df 2f993N276e2 2f994N276e1 2f995N276d8
2f996N276b0 2f997N8e5b 2f998N276b3 2f999N2767c 2f99aN27637 2f99bN275ee 2f99cN27679 2f99dN275e0
2f99eN275b7 2f99fN27548 2f9a0N2764d 2f9a1N275d7 2f9a2N275d6 2f9a3N275c7 2f9a4N8d6e 2f9a5N8c3a
2f9a6N8cd1 2f9a7N2b47c 2f9a8N274b7 2f9a9N274b6 2f9aaN27494 2f9abN85e1 2f9acN27448 2f9adN8a81
2f9aeN2b451 2f9afN2b44e 2f9b0N89ff 2f9b1N88df 2f9b2N2b447 2f9b3N27363 2f9b4N27358 2f9b5N2734e
2f9b6N2734d 2f9b7N2730e 2f9b8N27330 2f9b9N272ab 2f9baN272d8 2f9bbN27242 2f9bcN27294 2f9bdN27252
2f9beN27238 2f9bfN2b3e8 2f9c0N271df 2f9c1N271c0 2f9c2N2b3c9 2f9c3N27163 2f9c4N27161 2f9c5N835e
2f9c6N270ef 2f9c7N270e9 2f9c8N2b393 2f9c9N270cf 2f9caN2c50f 2f9cbN811d 2f9ccN8066 2f9cdN2b30f
2f9ceN2b307 2f9cfN26f2f 2f9d0N26ee3 2f9d1N26e47 2f9d2N26d7d 2f9d3N7d2b 2f9d4N26d29 2f9d5N26d14
2f9d6N26cbb 2f9d7N26c60 2f9d8N7aa9 2f9d9Nf1d5 2f9daN26c0f 2f9dbN26c1f 2f9dcN26bec 2f9ddNf0ff
2f9deN26b0a 2f9dfN26aa7 2f9e0N740e 2f9e1N73f4 2f9e2N2694e 2f9e3N268f2 2f9e4N268d3 2f9e5N72b7
2f9e6N268cb 2f9e7N267af 2f9e8N26711 2f9eaN2676e 2f9ebN265f2 2f9ecN265d7 2f9edN6df3 2f9eeN26463
2f9efN2b05a 2f9f0N26439 2f9f1N6c7a 2f9f2N2b00c 2f9f3N26330 2f9f4N29c42 2f9f5N262d2 2f9f6N68b1
2f9f7N67dd 2f9f8N2af8a 2f9f9N2af83 2f9faN2621a 2f9fbN65f1 2f9fcN2af4a 2f9fdN6567 2f9feN261f3
2f9ffN261f4 2fa00N261d7 2fa01N644b 2fa02N26120 2fa03N2aed0 2fa04N260db 2fa05N2605e 2fa06N26044
2fa07N26009 2fa08N2ae3a 2fa09N5ed9 2fa0aN25ef8 2fa0bN25dcb 2fa0cN25d0f 2fa0dN2ad3f 2fa0eN2ad21
2fa0fN25ca8 2fa10N5942 2fa11N2ad19 2fa12N590d 2fa13N5805 2fa14N5783 2fa15N25b5a 2fa16N2acc0
2fa17N25b1e 2fa18N25b1a 2fa19N25b14 2fa1aN25b0b 2fa1bN25b05 2fa1cN25ae1 2fa1dN541d 2fa1eX
30000V 3134bX 31350V 3347aX e0100I e01f0X"

def hostTable : Partition := Partition.ofText hostRuns

private def hexNumber (cs : List Char) : Nat :=
  cs.foldl (fun n c => 16 * n + (hexDigitValue? c).getD 0) 0

/-- Code points written in hexadecimal with points between them. -/
def codePoints (text : String) : List Nat :=
  (text.splitOn ".").map fun part => hexNumber part.toList

/-- The replacement of a character, or nothing if it is not allowed. -/
def hostMapping? (c : Char) : Option (List Char) :=
  match (hostTable.label c.toNat).toList with
  | 'V' :: _ => some [c]
  | 'I' :: _ => some []
  | 'P' :: digits => some [Char.ofNat (c.toNat + hexNumber digits)]
  | 'N' :: digits => some [Char.ofNat (c.toNat - hexNumber digits)]
  | 'M' :: codes => some ((codePoints (String.ofList codes)).map Char.ofNat)
  | _ => none

end Schemata.Unicode
