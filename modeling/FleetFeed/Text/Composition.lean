import FleetFeed.Text.Chart
import FleetFeed.Text.CombiningClass
import FleetFeed.Text.Hangul

/-! Composed form: the marks of a text are in the order of their classes, and every letter has taken up those with which it
makes a single character. Letters in upper case are left out. -/
namespace FleetFeed.Text

/-- The characters that have parts. -/
def compositeChart : Chart := Chart.read [
  (0xE0, "61+300 61+301 61+302 61+303 61+308 61+30A"),
  (0xE7, "63+327 65+300 65+301 65+302 65+308 69+300 69+301 69+302 69+308"),
  (0xF1, "6E+303 6F+300 6F+301 6F+302 6F+303 6F+308"), (0xF9, "75+300 75+301 75+302 75+308 79+301"),
  (0xFF, "79+308"), (0x101, "61+304"), (0x103, "61+306"), (0x105, "61+328"), (0x107, "63+301"),
  (0x109, "63+302"), (0x10B, "63+307"), (0x10D, "63+30C"), (0x10F, "64+30C"), (0x113, "65+304"),
  (0x115, "65+306"), (0x117, "65+307"), (0x119, "65+328"), (0x11B, "65+30C"), (0x11D, "67+302"),
  (0x11F, "67+306"), (0x121, "67+307"), (0x123, "67+327"), (0x125, "68+302"), (0x129, "69+303"),
  (0x12B, "69+304"), (0x12D, "69+306"), (0x12F, "69+328"), (0x135, "6A+302"), (0x137, "6B+327"),
  (0x13A, "6C+301"), (0x13C, "6C+327"), (0x13E, "6C+30C"), (0x144, "6E+301"), (0x146, "6E+327"),
  (0x148, "6E+30C"), (0x14D, "6F+304"), (0x14F, "6F+306"), (0x151, "6F+30B"), (0x155, "72+301"),
  (0x157, "72+327"), (0x159, "72+30C"), (0x15B, "73+301"), (0x15D, "73+302"), (0x15F, "73+327"),
  (0x161, "73+30C"), (0x163, "74+327"), (0x165, "74+30C"), (0x169, "75+303"), (0x16B, "75+304"),
  (0x16D, "75+306"), (0x16F, "75+30A"), (0x171, "75+30B"), (0x173, "75+328"), (0x175, "77+302"),
  (0x177, "79+302"), (0x17A, "7A+301"), (0x17C, "7A+307"), (0x17E, "7A+30C"), (0x1A1, "6F+31B"),
  (0x1B0, "75+31B"), (0x1CE, "61+30C"), (0x1D0, "69+30C"), (0x1D2, "6F+30C"), (0x1D4, "75+30C"),
  (0x1D6, "75+308+304"), (0x1D8, "75+308+301"), (0x1DA, "75+308+30C"), (0x1DC, "75+308+300"),
  (0x1DF, "61+308+304"), (0x1E1, "61+307+304"), (0x1E3, "E6+304"), (0x1E7, "67+30C"), (0x1E9, "6B+30C"),
  (0x1EB, "6F+328"), (0x1ED, "6F+328+304"), (0x1EF, "292+30C 6A+30C"), (0x1F5, "67+301"), (0x1F9, "6E+300"),
  (0x1FB, "61+30A+301"), (0x1FD, "E6+301"), (0x1FF, "F8+301"), (0x201, "61+30F"), (0x203, "61+311"),
  (0x205, "65+30F"), (0x207, "65+311"), (0x209, "69+30F"), (0x20B, "69+311"), (0x20D, "6F+30F"),
  (0x20F, "6F+311"), (0x211, "72+30F"), (0x213, "72+311"), (0x215, "75+30F"), (0x217, "75+311"),
  (0x219, "73+326"), (0x21B, "74+326"), (0x21F, "68+30C"), (0x227, "61+307"), (0x229, "65+327"),
  (0x22B, "6F+308+304"), (0x22D, "6F+303+304"), (0x22F, "6F+307"), (0x231, "6F+307+304"), (0x233, "79+304"),
  (0x390, "3B9+308+301"), (0x3AC, "3B1+301 3B5+301 3B7+301 3B9+301 3C5+308+301"),
  (0x3CA, "3B9+308 3C5+308 3BF+301 3C5+301 3C9+301"), (0x439, "438+306"), (0x450, "435+300 435+308"),
  (0x453, "433+301"), (0x457, "456+308"), (0x45C, "43A+301 438+300 443+306"), (0x477, "475+30F"),
  (0x4C2, "436+306"), (0x4D1, "430+306"), (0x4D3, "430+308"), (0x4D7, "435+306"), (0x4DB, "4D9+308"),
  (0x4DD, "436+308"), (0x4DF, "437+308"), (0x4E3, "438+304"), (0x4E5, "438+308"), (0x4E7, "43E+308"),
  (0x4EB, "4E9+308"), (0x4ED, "44D+308"), (0x4EF, "443+304"), (0x4F1, "443+308"), (0x4F3, "443+30B"),
  (0x4F5, "447+308"), (0x4F9, "44B+308"), (0x622, "627+653 627+654 648+654 627+655 64A+654"),
  (0x6C0, "6D5+654"), (0x6C2, "6C1+654"), (0x6D3, "6D2+654"), (0x929, "928+93C"), (0x931, "930+93C"),
  (0x934, "933+93C"), (0x9CB, "9C7+9BE 9C7+9D7"), (0xB48, "B47+B56"), (0xB4B, "B47+B3E B47+B57"),
  (0xB94, "B92+BD7"), (0xBCA, "BC6+BBE BC7+BBE BC6+BD7"), (0xC48, "C46+C56"), (0xCC0, "CBF+CD5"),
  (0xCC7, "CC6+CD5 CC6+CD6"), (0xCCA, "CC6+CC2 CC6+CC2+CD5"), (0xD4A, "D46+D3E D47+D3E D46+D57"),
  (0xDDA, "DD9+DCA"), (0xDDC, "DD9+DCF DD9+DCF+DCA DD9+DDF"), (0x1026, "1025+102E"), (0x1B06, "1B05+1B35"),
  (0x1B08, "1B07+1B35"), (0x1B0A, "1B09+1B35"), (0x1B0C, "1B0B+1B35"), (0x1B0E, "1B0D+1B35"),
  (0x1B12, "1B11+1B35"), (0x1B3B, "1B3A+1B35"), (0x1B3D, "1B3C+1B35"), (0x1B40, "1B3E+1B35 1B3F+1B35"),
  (0x1B43, "1B42+1B35"), (0x1E01, "61+325"), (0x1E03, "62+307"), (0x1E05, "62+323"), (0x1E07, "62+331"),
  (0x1E09, "63+327+301"), (0x1E0B, "64+307"), (0x1E0D, "64+323"), (0x1E0F, "64+331"), (0x1E11, "64+327"),
  (0x1E13, "64+32D"), (0x1E15, "65+304+300"), (0x1E17, "65+304+301"), (0x1E19, "65+32D"), (0x1E1B, "65+330"),
  (0x1E1D, "65+327+306"), (0x1E1F, "66+307"), (0x1E21, "67+304"), (0x1E23, "68+307"), (0x1E25, "68+323"),
  (0x1E27, "68+308"), (0x1E29, "68+327"), (0x1E2B, "68+32E"), (0x1E2D, "69+330"), (0x1E2F, "69+308+301"),
  (0x1E31, "6B+301"), (0x1E33, "6B+323"), (0x1E35, "6B+331"), (0x1E37, "6C+323"), (0x1E39, "6C+323+304"),
  (0x1E3B, "6C+331"), (0x1E3D, "6C+32D"), (0x1E3F, "6D+301"), (0x1E41, "6D+307"), (0x1E43, "6D+323"),
  (0x1E45, "6E+307"), (0x1E47, "6E+323"), (0x1E49, "6E+331"), (0x1E4B, "6E+32D"), (0x1E4D, "6F+303+301"),
  (0x1E4F, "6F+303+308"), (0x1E51, "6F+304+300"), (0x1E53, "6F+304+301"), (0x1E55, "70+301"),
  (0x1E57, "70+307"), (0x1E59, "72+307"), (0x1E5B, "72+323"), (0x1E5D, "72+323+304"), (0x1E5F, "72+331"),
  (0x1E61, "73+307"), (0x1E63, "73+323"), (0x1E65, "73+301+307"), (0x1E67, "73+30C+307"),
  (0x1E69, "73+323+307"), (0x1E6B, "74+307"), (0x1E6D, "74+323"), (0x1E6F, "74+331"), (0x1E71, "74+32D"),
  (0x1E73, "75+324"), (0x1E75, "75+330"), (0x1E77, "75+32D"), (0x1E79, "75+303+301"), (0x1E7B, "75+304+308"),
  (0x1E7D, "76+303"), (0x1E7F, "76+323"), (0x1E81, "77+300"), (0x1E83, "77+301"), (0x1E85, "77+308"),
  (0x1E87, "77+307"), (0x1E89, "77+323"), (0x1E8B, "78+307"), (0x1E8D, "78+308"), (0x1E8F, "79+307"),
  (0x1E91, "7A+302"), (0x1E93, "7A+323"), (0x1E95, "7A+331 68+331 74+308 77+30A 79+30A"), (0x1EA1, "61+323"),
  (0x1EA3, "61+309"), (0x1EA5, "61+302+301"), (0x1EA7, "61+302+300"), (0x1EA9, "61+302+309"),
  (0x1EAB, "61+302+303"), (0x1EAD, "61+323+302"), (0x1EAF, "61+306+301"), (0x1EB1, "61+306+300"),
  (0x1EB3, "61+306+309"), (0x1EB5, "61+306+303"), (0x1EB7, "61+323+306"), (0x1EB9, "65+323"),
  (0x1EBB, "65+309"), (0x1EBD, "65+303"), (0x1EBF, "65+302+301"), (0x1EC1, "65+302+300"),
  (0x1EC3, "65+302+309"), (0x1EC5, "65+302+303"), (0x1EC7, "65+323+302"), (0x1EC9, "69+309"),
  (0x1ECB, "69+323"), (0x1ECD, "6F+323"), (0x1ECF, "6F+309"), (0x1ED1, "6F+302+301"), (0x1ED3, "6F+302+300"),
  (0x1ED5, "6F+302+309"), (0x1ED7, "6F+302+303"), (0x1ED9, "6F+323+302"), (0x1EDB, "6F+31B+301"),
  (0x1EDD, "6F+31B+300"), (0x1EDF, "6F+31B+309"), (0x1EE1, "6F+31B+303"), (0x1EE3, "6F+31B+323"),
  (0x1EE5, "75+323"), (0x1EE7, "75+309"), (0x1EE9, "75+31B+301"), (0x1EEB, "75+31B+300"),
  (0x1EED, "75+31B+309"), (0x1EEF, "75+31B+303"), (0x1EF1, "75+31B+323"), (0x1EF3, "79+300"),
  (0x1EF5, "79+323"), (0x1EF7, "79+309"), (0x1EF9, "79+303"),
  (0x1F00, "3B1+313 3B1+314 3B1+313+300 3B1+314+300 3B1+313+301 3B1+314+301 3B1+313+342 3B1+314+342"),
  (0x1F10, "3B5+313 3B5+314 3B5+313+300 3B5+314+300 3B5+313+301 3B5+314+301"),
  (0x1F20, "3B7+313 3B7+314 3B7+313+300 3B7+314+300 3B7+313+301 3B7+314+301 3B7+313+342 3B7+314+342"),
  (0x1F30, "3B9+313 3B9+314 3B9+313+300 3B9+314+300 3B9+313+301 3B9+314+301 3B9+313+342 3B9+314+342"),
  (0x1F40, "3BF+313 3BF+314 3BF+313+300 3BF+314+300 3BF+313+301 3BF+314+301"),
  (0x1F50, "3C5+313 3C5+314 3C5+313+300 3C5+314+300 3C5+313+301 3C5+314+301 3C5+313+342 3C5+314+342"),
  (0x1F60, "3C9+313 3C9+314 3C9+313+300 3C9+314+300 3C9+313+301 3C9+314+301 3C9+313+342 3C9+314+342"),
  (0x1F70, "3B1+300"), (0x1F72, "3B5+300"), (0x1F74, "3B7+300"), (0x1F76, "3B9+300"), (0x1F78, "3BF+300"),
  (0x1F7A, "3C5+300"), (0x1F7C, "3C9+300"), (0x1FB0, "3B1+306 3B1+304"), (0x1FB6, "3B1+342"),
  (0x1FC6, "3B7+342"), (0x1FD0, "3B9+306 3B9+304 3B9+308+300"), (0x1FD6, "3B9+342 3B9+308+342"),
  (0x1FE0, "3C5+306 3C5+304 3C5+308+300"), (0x1FE4, "3C1+313 3C1+314 3C5+342 3C5+308+342"), (0x1FF6, "3C9+342"),
  (0x219A, "2190+338 2192+338"), (0x21AE, "2194+338"), (0x21CD, "21D0+338 21D4+338 21D2+338"),
  (0x2204, "2203+338"), (0x2209, "2208+338"), (0x220C, "220B+338"), (0x2224, "2223+338"), (0x2226, "2225+338"),
  (0x2241, "223C+338"), (0x2244, "2243+338"), (0x2247, "2245+338"), (0x2249, "2248+338"), (0x2260, "3D+338"),
  (0x2262, "2261+338"), (0x226D, "224D+338 3C+338 3E+338 2264+338 2265+338"), (0x2274, "2272+338 2273+338"),
  (0x2278, "2276+338 2277+338"), (0x2280, "227A+338 227B+338"), (0x2284, "2282+338 2283+338"),
  (0x2288, "2286+338 2287+338"), (0x22AC, "22A2+338 22A8+338 22A9+338 22AB+338"),
  (0x22E0, "227C+338 227D+338 2291+338 2292+338"), (0x22EA, "22B2+338 22B3+338 22B4+338 22B5+338"),
  (0x304C, "304B+3099"), (0x304E, "304D+3099"), (0x3050, "304F+3099"), (0x3052, "3051+3099"),
  (0x3054, "3053+3099"), (0x3056, "3055+3099"), (0x3058, "3057+3099"), (0x305A, "3059+3099"),
  (0x305C, "305B+3099"), (0x305E, "305D+3099"), (0x3060, "305F+3099"), (0x3062, "3061+3099"),
  (0x3065, "3064+3099"), (0x3067, "3066+3099"), (0x3069, "3068+3099"), (0x3070, "306F+3099 306F+309A"),
  (0x3073, "3072+3099 3072+309A"), (0x3076, "3075+3099 3075+309A"), (0x3079, "3078+3099 3078+309A"),
  (0x307C, "307B+3099 307B+309A"), (0x3094, "3046+3099"), (0x309E, "309D+3099"), (0x30AC, "30AB+3099"),
  (0x30AE, "30AD+3099"), (0x30B0, "30AF+3099"), (0x30B2, "30B1+3099"), (0x30B4, "30B3+3099"),
  (0x30B6, "30B5+3099"), (0x30B8, "30B7+3099"), (0x30BA, "30B9+3099"), (0x30BC, "30BB+3099"),
  (0x30BE, "30BD+3099"), (0x30C0, "30BF+3099"), (0x30C2, "30C1+3099"), (0x30C5, "30C4+3099"),
  (0x30C7, "30C6+3099"), (0x30C9, "30C8+3099"), (0x30D0, "30CF+3099 30CF+309A"),
  (0x30D3, "30D2+3099 30D2+309A"), (0x30D6, "30D5+3099 30D5+309A"), (0x30D9, "30D8+3099 30D8+309A"),
  (0x30DC, "30DB+3099 30DB+309A"), (0x30F4, "30A6+3099"), (0x30F7, "30EF+3099 30F0+3099 30F1+3099 30F2+3099"),
  (0x30FE, "30FD+3099"), (0x105C9, "105D2+307"), (0x105E4, "105DA+307"), (0x1109A, "11099+110BA"),
  (0x1109C, "1109B+110BA"), (0x110AB, "110A5+110BA"), (0x1112E, "11131+11127 11132+11127"),
  (0x1134B, "11347+1133E 11347+11357"), (0x11383, "11382+113C9"), (0x11385, "11384+113BB"),
  (0x1138E, "1138B+113C2"), (0x11391, "11390+113C9"), (0x113C5, "113C2+113C2"),
  (0x113C7, "113C2+113B8 113C2+113C9"), (0x114BB, "114B9+114BA 114B9+114B0"), (0x114BE, "114B9+114BD"),
  (0x115BA, "115B8+115AF 115B9+115AF"), (0x11938, "11935+11930"),
  (0x16121, "1611E+1611E 1611E+16129 1611E+1611F 16129+1611F 1611E+16120 1611E+1611E+1611F"),
  (0x16127, "1611E+16129+1611F 1611E+1611E+16120"), (0x16D68, "16D67+16D67 16D63+16D67 16D63+16D67+16D67")]

/-- The parts of a character, which have no parts themselves. -/
def parts (c : Char) : List Char := ((Hangul.letters? c).or (compositeChart.find? c)).getD [c]

/-- The single character with these parts. -/
def composite? (cs : List Char) : Option Char := (Hangul.syllable? cs).or (compositeChart.charOf? cs)

/-- Puts a character before marks that are in order, behind those of a lower class. -/
def place (c : Char) : List Char → List Char
  | [] => [c]
  | d :: rest =>
    if 0 < combiningClass d ∧ combiningClass d < combiningClass c then d :: place c rest else c :: d :: rest

/-- Brings the marks after each letter in order. -/
def reorder (cs : List Char) : List Char := cs.foldr place []

/-- A letter given by its parts. -/
def joined (base : List Char) : List Char := ((composite? base).map ([·])).getD base

/-- Goes on after a letter, given by its parts, and the marks behind it that it has not taken up. It takes up a character
that makes a single one with it, unless a mark of the same class or a higher one stands between. -/
def compose (base marks : List Char) : List Char → List Char
  | [] => joined base ++ marks
  | c :: rest =>
    if marks.all (combiningClass · < combiningClass c) && (composite? (base ++ [c])).isSome then compose (base ++ [c]) marks rest
    else if combiningClass c = 0 then joined base ++ marks ++ compose [c] [] rest
    else compose base (marks ++ [c]) rest

/-- The composed form of a text. -/
def composed (cs : List Char) : List Char := compose [] [] (reorder (cs.flatMap parts))

end FleetFeed.Text
