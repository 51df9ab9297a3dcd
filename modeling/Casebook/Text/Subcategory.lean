import Casebook.Text.Category

/-! The divisions of the main general categories.  The division that holds what is left of a category is computed
from the others. -/
namespace Casebook.Text

/-- Modifier letters. -/
def modifierLetterRanges : List (Nat × Nat) := [
    (688, 705), (710, 721), (736, 740), (748, 748), (750, 750), (884, 884), (890, 890), (1369, 1369),
    (1600, 1600), (1765, 1766), (2036, 2037), (2042, 2042), (2074, 2074), (2084, 2084), (2088, 2088),
    (2249, 2249), (2417, 2417), (3654, 3654), (3782, 3782), (4348, 4348), (6103, 6103), (6211, 6211),
    (6823, 6823), (7288, 7293), (7468, 7530), (7544, 7544), (7579, 7615), (8305, 8305), (8319, 8319),
    (8336, 8348), (11388, 11389), (11631, 11631), (11823, 11823), (12293, 12293), (12337, 12341),
    (12347, 12347), (12445, 12446), (12540, 12542), (40981, 40981), (42232, 42237), (42508, 42508),
    (42623, 42623), (42652, 42653), (42775, 42783), (42864, 42864), (42888, 42888), (42993, 42996),
    (43000, 43001), (43471, 43471), (43494, 43494), (43632, 43632), (43741, 43741), (43763, 43764),
    (43868, 43871), (43881, 43881), (65392, 65392), (65438, 65439), (67456, 67461), (67463, 67504),
    (67506, 67514), (68942, 68942), (68975, 68975), (69317, 69317), (73177, 73177), (92992, 92995),
    (93504, 93506), (93547, 93548), (94099, 94111), (94176, 94177), (94179, 94179), (94194, 94195),
    (110576, 110579), (110581, 110587), (110589, 110590), (122928, 122989), (123191, 123197), (124139, 124139),
    (124671, 124671), (125259, 125259)]

/-- Marks that enclose the character before. -/
def enclosingMarkRanges : List (Nat × Nat) := [
    (1160, 1161), (6846, 6846), (8413, 8416), (8418, 8420), (42608, 42610)]

/-- Marks with a width of their own. -/
def spacingMarkRanges : List (Nat × Nat) := [
    (2307, 2307), (2363, 2363), (2366, 2368), (2377, 2380), (2382, 2383), (2434, 2435), (2494, 2496),
    (2503, 2504), (2507, 2508), (2519, 2519), (2563, 2563), (2622, 2624), (2691, 2691), (2750, 2752),
    (2761, 2761), (2763, 2764), (2818, 2819), (2878, 2878), (2880, 2880), (2887, 2888), (2891, 2892),
    (2903, 2903), (3006, 3007), (3009, 3010), (3014, 3016), (3018, 3020), (3031, 3031), (3073, 3075),
    (3137, 3140), (3202, 3203), (3262, 3262), (3264, 3268), (3271, 3272), (3274, 3275), (3285, 3286),
    (3315, 3315), (3330, 3331), (3390, 3392), (3398, 3400), (3402, 3404), (3415, 3415), (3458, 3459),
    (3535, 3537), (3544, 3551), (3570, 3571), (3902, 3903), (3967, 3967), (4139, 4140), (4145, 4145),
    (4152, 4152), (4155, 4156), (4182, 4183), (4194, 4196), (4199, 4205), (4227, 4228), (4231, 4236),
    (4239, 4239), (4250, 4252), (5909, 5909), (5940, 5940), (6070, 6070), (6078, 6085), (6087, 6088),
    (6435, 6438), (6441, 6443), (6448, 6449), (6451, 6456), (6681, 6682), (6741, 6741), (6743, 6743),
    (6753, 6753), (6755, 6756), (6765, 6770), (6916, 6916), (6965, 6965), (6971, 6971), (6973, 6977),
    (6979, 6980), (7042, 7042), (7073, 7073), (7078, 7079), (7082, 7082), (7143, 7143), (7146, 7148),
    (7150, 7150), (7154, 7155), (7204, 7211), (7220, 7221), (7393, 7393), (7415, 7415), (12334, 12335),
    (43043, 43044), (43047, 43047), (43136, 43137), (43188, 43203), (43346, 43347), (43395, 43395),
    (43444, 43445), (43450, 43451), (43454, 43456), (43567, 43568), (43571, 43572), (43597, 43597),
    (43643, 43643), (43645, 43645), (43755, 43755), (43758, 43759), (43765, 43765), (44003, 44004),
    (44006, 44007), (44009, 44010), (44012, 44012), (69632, 69632), (69634, 69634), (69762, 69762),
    (69808, 69810), (69815, 69816), (69932, 69932), (69957, 69958), (70018, 70018), (70067, 70069),
    (70079, 70080), (70094, 70094), (70188, 70190), (70194, 70195), (70197, 70197), (70368, 70370),
    (70402, 70403), (70462, 70463), (70465, 70468), (70471, 70472), (70475, 70477), (70487, 70487),
    (70498, 70499), (70584, 70586), (70594, 70594), (70597, 70597), (70599, 70602), (70604, 70605),
    (70607, 70607), (70709, 70711), (70720, 70721), (70725, 70725), (70832, 70834), (70841, 70841),
    (70843, 70846), (70849, 70849), (71087, 71089), (71096, 71099), (71102, 71102), (71216, 71218),
    (71227, 71228), (71230, 71230), (71340, 71340), (71342, 71343), (71350, 71350), (71454, 71454),
    (71456, 71457), (71462, 71462), (71724, 71726), (71736, 71736), (71984, 71989), (71991, 71992),
    (71997, 71997), (72000, 72000), (72002, 72002), (72145, 72147), (72156, 72159), (72164, 72164),
    (72249, 72249), (72279, 72280), (72343, 72343), (72545, 72545), (72549, 72549), (72551, 72551),
    (72751, 72751), (72766, 72766), (72873, 72873), (72881, 72881), (72884, 72884), (73098, 73102),
    (73107, 73108), (73110, 73110), (73461, 73462), (73475, 73475), (73524, 73525), (73534, 73535),
    (73537, 73537), (90410, 90412), (94033, 94087), (94192, 94193), (119141, 119142), (119149, 119154)]

/-- Numbers that look like letters. -/
def letterNumberRanges : List (Nat × Nat) := [
    (5870, 5872), (8544, 8578), (8581, 8584), (12295, 12295), (12321, 12329), (12344, 12346), (42726, 42735),
    (65856, 65908), (66369, 66369), (66378, 66378), (66513, 66517), (74752, 74862), (94196, 94198)]

/-- Connector punctuation. -/
def connectorRanges : List (Nat × Nat) := [
    (95, 95), (8255, 8256), (8276, 8276), (65075, 65076), (65101, 65103), (65343, 65343)]

/-- Dash punctuation. -/
def dashRanges : List (Nat × Nat) := [
    (45, 45), (1418, 1418), (1470, 1470), (5120, 5120), (6150, 6150), (8208, 8213), (11799, 11799),
    (11802, 11802), (11834, 11835), (11840, 11840), (11869, 11869), (12316, 12316), (12336, 12336),
    (12448, 12448), (65073, 65074), (65112, 65112), (65123, 65123), (65293, 65293), (68974, 68974),
    (69293, 69293)]

/-- Opening brackets. -/
def openingRanges : List (Nat × Nat) := [
    (40, 40), (91, 91), (123, 123), (3898, 3898), (3900, 3900), (5787, 5787), (8218, 8218), (8222, 8222),
    (8261, 8261), (8317, 8317), (8333, 8333), (8968, 8968), (8970, 8970), (9001, 9001), (10088, 10088),
    (10090, 10090), (10092, 10092), (10094, 10094), (10096, 10096), (10098, 10098), (10100, 10100),
    (10181, 10181), (10214, 10214), (10216, 10216), (10218, 10218), (10220, 10220), (10222, 10222),
    (10627, 10627), (10629, 10629), (10631, 10631), (10633, 10633), (10635, 10635), (10637, 10637),
    (10639, 10639), (10641, 10641), (10643, 10643), (10645, 10645), (10647, 10647), (10712, 10712),
    (10714, 10714), (10748, 10748), (11810, 11810), (11812, 11812), (11814, 11814), (11816, 11816),
    (11842, 11842), (11861, 11861), (11863, 11863), (11865, 11865), (11867, 11867), (12296, 12296),
    (12298, 12298), (12300, 12300), (12302, 12302), (12304, 12304), (12308, 12308), (12310, 12310),
    (12312, 12312), (12314, 12314), (12317, 12317), (64831, 64831), (65047, 65047), (65077, 65077),
    (65079, 65079), (65081, 65081), (65083, 65083), (65085, 65085), (65087, 65087), (65089, 65089),
    (65091, 65091), (65095, 65095), (65113, 65113), (65115, 65115), (65117, 65117), (65288, 65288),
    (65339, 65339), (65371, 65371), (65375, 65375), (65378, 65378)]

/-- Closing brackets. -/
def closingRanges : List (Nat × Nat) := [
    (41, 41), (93, 93), (125, 125), (3899, 3899), (3901, 3901), (5788, 5788), (8262, 8262), (8318, 8318),
    (8334, 8334), (8969, 8969), (8971, 8971), (9002, 9002), (10089, 10089), (10091, 10091), (10093, 10093),
    (10095, 10095), (10097, 10097), (10099, 10099), (10101, 10101), (10182, 10182), (10215, 10215),
    (10217, 10217), (10219, 10219), (10221, 10221), (10223, 10223), (10628, 10628), (10630, 10630),
    (10632, 10632), (10634, 10634), (10636, 10636), (10638, 10638), (10640, 10640), (10642, 10642),
    (10644, 10644), (10646, 10646), (10648, 10648), (10713, 10713), (10715, 10715), (10749, 10749),
    (11811, 11811), (11813, 11813), (11815, 11815), (11817, 11817), (11862, 11862), (11864, 11864),
    (11866, 11866), (11868, 11868), (12297, 12297), (12299, 12299), (12301, 12301), (12303, 12303),
    (12305, 12305), (12309, 12309), (12311, 12311), (12313, 12313), (12315, 12315), (12318, 12319),
    (64830, 64830), (65048, 65048), (65078, 65078), (65080, 65080), (65082, 65082), (65084, 65084),
    (65086, 65086), (65088, 65088), (65090, 65090), (65092, 65092), (65096, 65096), (65114, 65114),
    (65116, 65116), (65118, 65118), (65289, 65289), (65341, 65341), (65373, 65373), (65376, 65376),
    (65379, 65379)]

/-- Opening quotation marks. -/
def initialQuoteRanges : List (Nat × Nat) := [
    (171, 171), (8216, 8216), (8219, 8220), (8223, 8223), (8249, 8249), (11778, 11778), (11780, 11780),
    (11785, 11785), (11788, 11788), (11804, 11804), (11808, 11808)]

/-- Closing quotation marks. -/
def finalQuoteRanges : List (Nat × Nat) := [
    (187, 187), (8217, 8217), (8221, 8221), (8250, 8250), (11779, 11779), (11781, 11781), (11786, 11786),
    (11789, 11789), (11805, 11805), (11809, 11809)]

/-- Signs of mathematics. -/
def mathSymbolRanges : List (Nat × Nat) := [
    (43, 43), (60, 62), (124, 124), (126, 126), (172, 172), (177, 177), (215, 215), (247, 247), (1014, 1014),
    (1542, 1544), (8260, 8260), (8274, 8274), (8314, 8316), (8330, 8332), (8472, 8472), (8512, 8516),
    (8523, 8523), (8592, 8596), (8602, 8603), (8608, 8608), (8611, 8611), (8614, 8614), (8622, 8622),
    (8654, 8655), (8658, 8658), (8660, 8660), (8692, 8959), (8992, 8993), (9084, 9084), (9115, 9139),
    (9180, 9185), (9655, 9655), (9665, 9665), (9720, 9727), (9839, 9839), (10176, 10180), (10183, 10213),
    (10224, 10239), (10496, 10626), (10649, 10711), (10716, 10747), (10750, 11007), (11056, 11076),
    (11079, 11084), (64297, 64297), (65122, 65122), (65124, 65126), (65291, 65291), (65308, 65310),
    (65372, 65372), (65374, 65374), (65506, 65506), (65513, 65516), (69006, 69007), (118512, 118512),
    (120513, 120513), (120539, 120539), (120571, 120571), (120597, 120597), (120629, 120629), (120655, 120655),
    (120687, 120687), (120713, 120713), (120745, 120745), (120771, 120771), (126704, 126705), (129232, 129240)]

/-- Currency signs. -/
def currencyRanges : List (Nat × Nat) := [
    (36, 36), (162, 165), (1423, 1423), (1547, 1547), (2046, 2047), (2546, 2547), (2555, 2555), (2801, 2801),
    (3065, 3065), (3647, 3647), (6107, 6107), (8352, 8385), (43064, 43064), (65020, 65020), (65129, 65129),
    (65284, 65284), (65504, 65505), (65509, 65510), (73693, 73696), (123647, 123647), (126128, 126128)]

/-- Modifier symbols. -/
def modifierSymbolRanges : List (Nat × Nat) := [
    (94, 94), (96, 96), (168, 168), (175, 175), (180, 180), (184, 184), (706, 709), (722, 735), (741, 747),
    (749, 749), (751, 767), (885, 885), (900, 901), (2184, 2184), (8125, 8125), (8127, 8129), (8141, 8143),
    (8157, 8159), (8173, 8175), (8189, 8190), (12443, 12444), (42752, 42774), (42784, 42785), (42889, 42890),
    (43867, 43867), (43882, 43883), (64434, 64450), (65342, 65342), (65344, 65344), (65507, 65507),
    (127995, 127999)]

/-- Format characters. -/
def formatRanges : List (Nat × Nat) := [
    (173, 173), (1536, 1541), (1564, 1564), (1757, 1757), (1807, 1807), (2192, 2193), (2274, 2274),
    (6158, 6158), (8203, 8207), (8234, 8238), (8288, 8292), (8294, 8303), (65279, 65279), (65529, 65531),
    (69821, 69821), (69837, 69837), (78896, 78911), (113824, 113827), (119155, 119162), (917505, 917505),
    (917536, 917631)]

/-- Characters for private use. -/
def privateUseRanges : List (Nat × Nat) := [
    (57344, 63743), (983040, 1048573), (1048576, 1114109)]

def otherLetterRanges : List (Nat × Nat) :=
  without letterRanges (upperCaseRanges ++ lowerCaseRanges ++ titleCaseRanges ++ modifierLetterRanges)

/-- Marks without a width of their own. -/
def plainMarkRanges : List (Nat × Nat) := without markRanges (spacingMarkRanges ++ enclosingMarkRanges)

def otherNumberRanges : List (Nat × Nat) := without numberRanges (digitRanges ++ letterNumberRanges)

def otherPunctuationRanges : List (Nat × Nat) :=
  without punctuationRanges
    (connectorRanges ++ dashRanges ++ openingRanges ++ closingRanges ++ initialQuoteRanges ++ finalQuoteRanges)

def otherSymbolRanges : List (Nat × Nat) :=
  without symbolRanges (mathSymbolRanges ++ currencyRanges ++ modifierSymbolRanges)

/-- Separators between words. -/
def spaceRanges : List (Nat × Nat) := without separatorRanges [(0x2028, 0x2029)]

def controlRanges : List (Nat × Nat) := [(0, 31), (127, 159)]

/-- The code points that are no characters but halves of pairs. -/
def surrogateRanges : List (Nat × Nat) := [(0xD800, 0xDFFF)]

/-- The code points that stand for a character or are set aside. -/
def assignedRanges : List (Nat × Nat) :=
  letterRanges ++ markRanges ++ numberRanges ++ punctuationRanges ++ symbolRanges ++ separatorRanges ++
    controlRanges ++ formatRanges ++ privateUseRanges

def unassignedRanges : List (Nat × Nat) := without [(0, 0x10FFFF)] (surrogateRanges ++ assignedRanges)

/-- What is no letter, mark, number, punctuation, symbol or separator. -/
def otherRanges : List (Nat × Nat) := controlRanges ++ formatRanges ++ privateUseRanges ++ unassignedRanges

end Casebook.Text
