import Schemata.Unicode.Table

/-! # Writing direction

The directional class of each character, and the rule for labels of a host name that has a
character written from right to left.
-/
namespace Schemata.Unicode

private def directionRuns : String :=
  "0BN 9S aB bS cWS dB eBN 1cB 1fS 20WS 21ON 23ET 26ON 2bES 2cCS 2dES 2eCS 30EN 3aCS 3bON 41L 5bON
61L 7bON 7fBN 85B 86BN a0CS a1ON a2ET a6ON aaL abON adBN aeON b0ET b2EN b4ON b5L b6ON b9EN baL
bbON c0L d7ON d8L f7ON f8L 2b9ON 2bbL 2c2ON 2d0L 2d2ON 2e0L 2e5ON 2eeL 2efON 300NSM 370L 374ON
376L 37eON 37fL 384ON 386L 387ON 388L 3f6ON 3f7L 483NSM 48aL 58aON 58fET 591NSM 5beR 5bfNSM
5c0R 5c1NSM 5c3R 5c4NSM 5c6R 5c7NSM 5d0R 600AN 606ON 608AL 609ET 60bAL 60cCS 60dAL 60eON 610NSM
61bAL 64bNSM 660AN 66aET 66bAN 66dAL 670NSM 671AL 6d6NSM 6ddAN 6deON 6dfNSM 6e5AL 6e7NSM 6e9ON
6eaNSM 6eeAL 6f0EN 6faAL 711NSM 712AL 730NSM 74dAL 7a6NSM 7b1AL 7c0R 7ebNSM 7f4R 7f6ON 7faR
7fdNSM 7feR 816NSM 81aR 81bNSM 824R 825NSM 828R 829NSM 830R 859NSM 85eR 860AL 890AN 897NSM
8a0AL 8caNSM 8e2AN 8e3NSM 903L 93aNSM 93bL 93cNSM 93dL 941NSM 949L 94dNSM 94eL 951NSM 958L
962NSM 964L 981NSM 982L 9bcNSM 9bdL 9c1NSM 9c7L 9cdNSM 9ceL 9e2NSM 9e6L 9f2ET 9f4L 9fbET 9fcL
9feNSM a03L a3cNSM a3eL a41NSM a59L a70NSM a72L a75NSM a76L a81NSM a83L abcNSM abdL ac1NSM ac9L
acdNSM ad0L ae2NSM ae6L af1ET af9L afaNSM b02L b3cNSM b3dL b3fNSM b40L b41NSM b47L b4dNSM b57L
b62NSM b66L b82NSM b83L bc0NSM bc1L bcdNSM bd0L bf3ON bf9ET bfaON c00NSM c01L c04NSM c05L
c3cNSM c3dL c3eNSM c41L c46NSM c58L c62NSM c66L c78ON c7fL c81NSM c82L cbcNSM cbdL cccNSM cd5L
ce2NSM ce6L d00NSM d02L d3bNSM d3dL d41NSM d46L d4dNSM d4eL d62NSM d66L d81NSM d82L dcaNSM dcfL
dd2NSM dd8L e31NSM e32L e34NSM e3fET e40L e47NSM e4fL eb1NSM eb2L eb4NSM ebdL ec8NSM ed0L
f18NSM f1aL f35NSM f36L f37NSM f38L f39NSM f3aON f3eL f71NSM f7fL f80NSM f85L f86NSM f88L
f8dNSM fbeL fc6NSM fc7L 102dNSM 1031L 1032NSM 1038L 1039NSM 103bL 103dNSM 103fL 1058NSM 105aL
105eNSM 1061L 1071NSM 1075L 1082NSM 1083L 1085NSM 1087L 108dNSM 108eL 109dNSM 109eL 135dNSM
1360L 1390ON 13a0L 1400ON 1401L 1680WS 1681L 169bON 16a0L 1712NSM 1715L 1732NSM 1734L 1752NSM
1760L 1772NSM 1780L 17b4NSM 17b6L 17b7NSM 17beL 17c6NSM 17c7L 17c9NSM 17d4L 17dbET 17dcL
17ddNSM 17e0L 17f0ON 180bNSM 180eBN 180fNSM 1810L 1885NSM 1887L 18a9NSM 18aaL 1920NSM 1923L
1927NSM 1929L 1932NSM 1933L 1939NSM 1940ON 1946L 19deON 1a00L 1a17NSM 1a19L 1a1bNSM 1a1eL
1a56NSM 1a57L 1a58NSM 1a61L 1a62NSM 1a63L 1a65NSM 1a6dL 1a73NSM 1a80L 1ab0NSM 1b04L 1b34NSM
1b35L 1b36NSM 1b3bL 1b3cNSM 1b3dL 1b42NSM 1b43L 1b4eON 1b50L 1b6bNSM 1b74L 1b7fON 1b80NSM 1b82L
1ba2NSM 1ba6L 1ba8NSM 1baaL 1babNSM 1baeL 1be6NSM 1be7L 1be8NSM 1beaL 1bedNSM 1beeL 1befNSM
1bf2L 1c2cNSM 1c34L 1c36NSM 1c3bL 1cd0NSM 1cd3L 1cd4NSM 1ce1L 1ce2NSM 1ce9L 1cedNSM 1ceeL
1cf4NSM 1cf5L 1cf8NSM 1cfaL 1dc0NSM 1e00L 1fbdON 1fbeL 1fbfON 1fc2L 1fcdON 1fd0L 1fddON 1fe0L
1fedON 1ff2L 1ffdON 2000WS 200bBN 200eL 200fR 2010ON 2028WS 2029B 202aLRE 202bRLE 202cPDF
202dLRO 202eRLO 202fCS 2030ET 2035ON 2044CS 2045ON 205fWS 2060BN 2066LRI 2067RLI 2068FSI
2069PDI 206aBN 2070EN 2071L 2074EN 207aES 207cON 207fL 2080EN 208aES 208cON 2090L 20a0ET 20c1ON
20d0NSM 2100ON 2102L 2103ON 2107L 2108ON 210aL 2114ON 2115L 2116ON 2119L 211eON 2124L 2125ON
2126L 2127ON 2128L 2129ON 212aL 212eET 212fL 213aON 213cL 2140ON 2145L 214aON 214eL 2150ON
2160L 2189ON 2212ES 2213ET 2214ON 2336L 237bON 2395L 2396ON 2488EN 249cL 24eaON 26acL 26adON
2800L 2900ON 2c00L 2ce5ON 2cebL 2cefNSM 2cf2L 2cf9ON 2d00L 2d7fNSM 2d80L 2de0NSM 2e00ON 3000WS
3001ON 3005L 3008ON 3021L 302aNSM 302eL 3030ON 3031L 3036ON 3038L 303dON 3041L 3099NSM 309bON
309dL 30a0ON 30a1L 30fbON 30fcL 31c0ON 31f0L 321dON 3220L 3250ON 3260L 327cON 327fL 32b1ON
32c0L 32ccON 32d0L 3377ON 337bL 33deON 33e0L 33ffON 3400L 4dc0ON 4e00L a490ON a4d0L a60dON
a610L a66fNSM a673ON a674NSM a67eON a680L a69eNSM a6a0L a6f0NSM a6f2L a700ON a722L a788ON a789L
a802NSM a803L a806NSM a807L a80bNSM a80cL a825NSM a827L a828ON a82cNSM a830L a838ET a840L
a874ON a880L a8c4NSM a8ceL a8e0NSM a8f2L a8ffNSM a900L a926NSM a92eL a947NSM a952L a980NSM
a983L a9b3NSM a9b4L a9b6NSM a9baL a9bcNSM a9beL a9e5NSM a9e6L aa29NSM aa2fL aa31NSM aa33L
aa35NSM aa40L aa43NSM aa44L aa4cNSM aa4dL aa7cNSM aa7dL aab0NSM aab1L aab2NSM aab5L aab7NSM
aab9L aabeNSM aac0L aac1NSM aac2L aaecNSM aaeeL aaf6NSM ab01L ab6aON ab70L abe5NSM abe6L
abe8NSM abe9L abedNSM abf0L fb1dR fb1eNSM fb1fR fb29ES fb2aR fb50AL fbc3ON fbd3AL fd3eON fd50AL
fd90ON fd92AL fdc8ON fdf0AL fdfdON fe00NSM fe10ON fe20NSM fe30ON fe50CS fe51ON fe52CS fe54ON
fe55CS fe56ON fe5fET fe60ON fe62ES fe64ON fe69ET fe6bON fe70AL feffBN ff01ON ff03ET ff06ON
ff0bES ff0cCS ff0dES ff0eCS ff10EN ff1aCS ff1bON ff21L ff3bON ff41L ff5bON ff66L ffe0ET ffe2ON
ffe5ET ffe8ON 10000L 10101ON 10102L 10140ON 1018dL 10190ON 101d0L 101fdNSM 10280L 102e0NSM
102e1EN 10300L 10376NSM 10380L 10800R 1091fON 10920R 10a01NSM 10a10R 10a38NSM 10a40R 10ae5NSM
10aebR 10b39ON 10b40R 10d00AL 10d24NSM 10d30AN 10d40EN 10d4aR 10d69NSM 10d6eR 10e60AN 10e80R
10eabNSM 10eadR 10ec2AL 10efaNSM 10f00R 10f30AL 10f46NSM 10f51AL 10f70R 10f82NSM 10f86R 11000L
11001NSM 11002L 11038NSM 11047L 11052ON 11066L 11070NSM 11071L 11073NSM 11075L 1107fNSM 11082L
110b3NSM 110b7L 110b9NSM 110bbL 110c2NSM 110cdL 11100NSM 11103L 11127NSM 1112cL 1112dNSM 11136L
11173NSM 11174L 11180NSM 11182L 111b6NSM 111bfL 111c9NSM 111cdL 111cfNSM 111d0L 1122fNSM 11232L
11234NSM 11235L 11236NSM 11238L 1123eNSM 1123fL 11241NSM 11280L 112dfNSM 112e0L 112e3NSM 112f0L
11300NSM 11302L 1133bNSM 1133dL 11340NSM 11341L 11366NSM 11380L 113bbNSM 113c2L 113ceNSM 113cfL
113d0NSM 113d1L 113d2NSM 113d3L 113d4ON 113e1NSM 11400L 11438NSM 11440L 11442NSM 11445L
11446NSM 11447L 1145eNSM 1145fL 114b3NSM 114b9L 114baNSM 114bbL 114bfNSM 114c1L 114c2NSM 114c4L
115b2NSM 115b8L 115bcNSM 115beL 115bfNSM 115c1L 115dcNSM 11600L 11633NSM 1163bL 1163dNSM 1163eL
1163fNSM 11641L 11660ON 11680L 116abNSM 116acL 116adNSM 116aeL 116b0NSM 116b6L 116b7NSM 116b8L
1171dNSM 11720L 11722NSM 11726L 11727NSM 11730L 1182fNSM 11838L 11839NSM 1183bL 1193bNSM 1193dL
1193eNSM 1193fL 11943NSM 11944L 119d4NSM 119dcL 119e0NSM 119e1L 11a01NSM 11a07L 11a09NSM 11a0bL
11a33NSM 11a39L 11a3bNSM 11a3fL 11a47NSM 11a50L 11a51NSM 11a57L 11a59NSM 11a5cL 11a8aNSM 11a97L
11a98NSM 11a9aL 11b60NSM 11b61L 11b62NSM 11b65L 11b66NSM 11b67L 11be1ON 11bf0L 11c30NSM 11c3eL
11c92NSM 11ca9L 11caaNSM 11cb1L 11cb2NSM 11cb4L 11cb5NSM 11d00L 11d31NSM 11d46L 11d47NSM 11d50L
11d90NSM 11d93L 11d95NSM 11d96L 11d97NSM 11d98L 11ef3NSM 11ef5L 11f00NSM 11f02L 11f36NSM 11f3eL
11f40NSM 11f41L 11f42NSM 11f43L 11f5aNSM 11fb0L 11fd5ON 11fddET 11fe1ON 11fffL 13440NSM 13441L
13447NSM 13460L 1611eNSM 1612aL 1612dNSM 16130L 16af0NSM 16af5L 16b30NSM 16b37L 16d6dON 16d70L
16f4fNSM 16f50L 16f8fNSM 16f93L 16fe2ON 16fe3L 16fe4NSM 16ff0L 1bc9dNSM 1bc9fL 1bca0BN 1cc00ON
1ccf0L 1ccfaON 1cf00NSM 1cf50L 1d167NSM 1d16aL 1d173BN 1d17bNSM 1d183L 1d185NSM 1d18cL 1d1aaNSM
1d1aeL 1d1e9ON 1d242NSM 1d245ON 1d2c0L 1d300ON 1d360L 1d6dbON 1d6dcL 1d715ON 1d716L 1d74fON
1d750L 1d789ON 1d78aL 1d7c3ON 1d7c4L 1d7ceEN 1d800L 1da00NSM 1da37L 1da3bNSM 1da6dL 1da75NSM
1da76L 1da84NSM 1da85L 1da9bNSM 1df00L 1e000NSM 1e030L 1e08fNSM 1e100L 1e130NSM 1e137L 1e2aeNSM
1e2c0L 1e2ecNSM 1e2f0L 1e2ffET 1e4d0L 1e4ecNSM 1e4f0L 1e5eeNSM 1e5f0L 1e5ffON 1e6c0L 1e6e3NSM
1e6e4L 1e6e6NSM 1e6e7L 1e6eeNSM 1e6f0L 1e6f5NSM 1e6feL 1e800R 1e8d0NSM 1e900R 1e944NSM 1e94bR
1ec71AL 1eef0ON 1f100EN 1f10bON 1f110L 1f12fON 1f130L 1f16aON 1f170L 1f1adON 1f1e6L 1f260ON
1fbf0EN 1fbfaON 20000L e0001BN e0100NSM f0000L"

private def directionTable : Partition := Partition.ofText directionRuns

def direction (c : Char) : String := directionTable.label c.toNat

def isRightToLeft (c : Char) : Bool := ["R", "AL", "AN"].contains (direction c)

private def lastDirection (classes : List String) : String :=
  (classes.reverse.dropWhile (· == "NSM")).headD ""

/-- A label starts with a letter and keeps to its direction: from right to left it ends in a letter
or a number and has numbers of one kind, and from left to right it ends in a letter or a European
number. -/
def keepsDirection (label : List Char) : Bool :=
  let classes := label.map direction
  match classes with
  | [] => true
  | "L" :: _ =>
    classes.all (["L", "EN", "ES", "CS", "ET", "ON", "BN", "NSM"].contains ·) &&
      ["L", "EN"].contains (lastDirection classes)
  | first :: _ =>
    (first == "R" || first == "AL") &&
      classes.all (["R", "AL", "AN", "EN", "ES", "CS", "ET", "ON", "BN", "NSM"].contains ·) &&
      ["R", "AL", "EN", "AN"].contains (lastDirection classes) &&
      !(classes.contains "EN" && classes.contains "AN")

end Schemata.Unicode
