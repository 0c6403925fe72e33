/-!
How many cells of a terminal a text takes. Most characters take one; wide ones, as those of East
Asian scripts and most pictures, take two; control characters and marks that combine with the
character before them take none. A joiner hides the character after it, and a selector makes a
picture of a character that may be one.
-/
namespace Stepwise.Console

/-- First and last code point of each range of characters that do not take one cell, with the cells
that they take. -/
def cellRanges : List (Nat × Nat × Nat) := [
  (0, 31, 0), (127, 159, 0), (768, 879, 0), (1155, 1161, 0), (1425, 1469, 0), (1471, 1471, 0),
  (1473, 1474, 0), (1476, 1477, 0), (1479, 1479, 0), (1552, 1562, 0), (1564, 1564, 0),
  (1611, 1631, 0), (1648, 1648, 0), (1750, 1756, 0), (1759, 1764, 0), (1767, 1768, 0),
  (1770, 1773, 0), (1809, 1809, 0), (1840, 1866, 0), (1958, 1968, 0), (2027, 2035, 0),
  (2045, 2045, 0), (2070, 2073, 0), (2075, 2083, 0), (2085, 2087, 0), (2089, 2093, 0),
  (2137, 2139, 0), (2199, 2207, 0), (2250, 2273, 0), (2275, 2307, 0), (2362, 2364, 0),
  (2366, 2383, 0), (2385, 2391, 0), (2402, 2403, 0), (2433, 2435, 0), (2492, 2492, 0),
  (2494, 2500, 0), (2503, 2504, 0), (2507, 2509, 0), (2519, 2519, 0), (2530, 2531, 0),
  (2558, 2558, 0), (2561, 2563, 0), (2620, 2620, 0), (2622, 2626, 0), (2631, 2632, 0),
  (2635, 2637, 0), (2641, 2641, 0), (2672, 2673, 0), (2677, 2677, 0), (2689, 2691, 0),
  (2748, 2748, 0), (2750, 2757, 0), (2759, 2761, 0), (2763, 2765, 0), (2786, 2787, 0),
  (2810, 2815, 0), (2817, 2819, 0), (2876, 2876, 0), (2878, 2884, 0), (2887, 2888, 0),
  (2891, 2893, 0), (2901, 2903, 0), (2914, 2915, 0), (2946, 2946, 0), (3006, 3010, 0),
  (3014, 3016, 0), (3018, 3021, 0), (3031, 3031, 0), (3072, 3076, 0), (3132, 3132, 0),
  (3134, 3140, 0), (3142, 3144, 0), (3146, 3149, 0), (3157, 3158, 0), (3170, 3171, 0),
  (3201, 3203, 0), (3260, 3260, 0), (3262, 3268, 0), (3270, 3272, 0), (3274, 3277, 0),
  (3285, 3286, 0), (3298, 3299, 0), (3315, 3315, 0), (3328, 3331, 0), (3387, 3388, 0),
  (3390, 3396, 0), (3398, 3400, 0), (3402, 3405, 0), (3415, 3415, 0), (3426, 3427, 0),
  (3457, 3459, 0), (3530, 3530, 0), (3535, 3540, 0), (3542, 3542, 0), (3544, 3551, 0),
  (3570, 3571, 0), (3633, 3633, 0), (3636, 3642, 0), (3655, 3662, 0), (3761, 3761, 0),
  (3764, 3772, 0), (3784, 3790, 0), (3864, 3865, 0), (3893, 3893, 0), (3895, 3895, 0),
  (3897, 3897, 0), (3902, 3903, 0), (3953, 3972, 0), (3974, 3975, 0), (3981, 3991, 0),
  (3993, 4028, 0), (4038, 4038, 0), (4139, 4158, 0), (4182, 4185, 0), (4190, 4192, 0),
  (4194, 4196, 0), (4199, 4205, 0), (4209, 4212, 0), (4226, 4237, 0), (4239, 4239, 0),
  (4250, 4253, 0), (4352, 4447, 2), (4448, 4607, 0), (4957, 4959, 0), (5906, 5909, 0),
  (5938, 5940, 0), (5970, 5971, 0), (6002, 6003, 0), (6068, 6099, 0), (6109, 6109, 0),
  (6155, 6159, 0), (6277, 6278, 0), (6313, 6313, 0), (6432, 6443, 0), (6448, 6459, 0),
  (6679, 6683, 0), (6741, 6750, 0), (6752, 6780, 0), (6783, 6783, 0), (6832, 6877, 0),
  (6880, 6891, 0), (6912, 6916, 0), (6964, 6980, 0), (7019, 7027, 0), (7040, 7042, 0),
  (7073, 7085, 0), (7142, 7155, 0), (7204, 7223, 0), (7376, 7378, 0), (7380, 7400, 0),
  (7405, 7405, 0), (7412, 7412, 0), (7415, 7417, 0), (7616, 7679, 0), (8203, 8207, 0),
  (8232, 8238, 0), (8288, 8303, 0), (8400, 8432, 0), (8986, 8987, 2), (9001, 9002, 2),
  (9193, 9196, 2), (9200, 9200, 2), (9203, 9203, 2), (9725, 9726, 2), (9748, 9749, 2),
  (9776, 9783, 2), (9800, 9811, 2), (9855, 9855, 2), (9866, 9871, 2), (9875, 9875, 2),
  (9889, 9889, 2), (9898, 9899, 2), (9917, 9918, 2), (9924, 9925, 2), (9934, 9934, 2),
  (9940, 9940, 2), (9962, 9962, 2), (9970, 9971, 2), (9973, 9973, 2), (9978, 9978, 2),
  (9981, 9981, 2), (9989, 9989, 2), (9994, 9995, 2), (10024, 10024, 2), (10060, 10060, 2),
  (10062, 10062, 2), (10067, 10069, 2), (10071, 10071, 2), (10133, 10135, 2), (10160, 10160, 2),
  (10175, 10175, 2), (11035, 11036, 2), (11088, 11088, 2), (11093, 11093, 2), (11503, 11505, 0),
  (11647, 11647, 0), (11744, 11775, 0), (11904, 11929, 2), (11931, 12019, 2), (12032, 12245, 2),
  (12272, 12329, 2), (12330, 12335, 0), (12336, 12350, 2), (12353, 12438, 2), (12441, 12442, 0),
  (12443, 12543, 2), (12549, 12591, 2), (12593, 12643, 2), (12644, 12644, 0), (12645, 12686, 2),
  (12688, 12773, 2), (12783, 12830, 2), (12832, 12871, 2), (12880, 42124, 2), (42128, 42182, 2),
  (42607, 42610, 0), (42612, 42621, 0), (42654, 42655, 0), (42736, 42737, 0), (43010, 43010, 0),
  (43014, 43014, 0), (43019, 43019, 0), (43043, 43047, 0), (43052, 43052, 0), (43136, 43137, 0),
  (43188, 43205, 0), (43232, 43249, 0), (43263, 43263, 0), (43302, 43309, 0), (43335, 43347, 0),
  (43360, 43388, 2), (43392, 43395, 0), (43443, 43456, 0), (43493, 43493, 0), (43561, 43574, 0),
  (43587, 43587, 0), (43596, 43597, 0), (43643, 43645, 0), (43696, 43696, 0), (43698, 43700, 0),
  (43703, 43704, 0), (43710, 43711, 0), (43713, 43713, 0), (43755, 43759, 0), (43765, 43766, 0),
  (44003, 44010, 0), (44012, 44013, 0), (44032, 55203, 2), (55216, 55295, 0), (63744, 64255, 2),
  (64286, 64286, 0), (65024, 65039, 0), (65040, 65049, 2), (65056, 65071, 0), (65072, 65106, 2),
  (65108, 65126, 2), (65128, 65131, 2), (65279, 65279, 0), (65281, 65376, 2), (65440, 65440, 0),
  (65504, 65510, 2), (65520, 65531, 0), (66045, 66045, 0), (66272, 66272, 0), (66422, 66426, 0),
  (68097, 68099, 0), (68101, 68102, 0), (68108, 68111, 0), (68152, 68154, 0), (68159, 68159, 0),
  (68325, 68326, 0), (68900, 68903, 0), (68969, 68973, 0), (69291, 69292, 0), (69370, 69375, 0),
  (69446, 69456, 0), (69506, 69509, 0), (69632, 69634, 0), (69688, 69702, 0), (69744, 69744, 0),
  (69747, 69748, 0), (69759, 69762, 0), (69808, 69818, 0), (69826, 69826, 0), (69888, 69890, 0),
  (69927, 69940, 0), (69957, 69958, 0), (70003, 70003, 0), (70016, 70018, 0), (70067, 70080, 0),
  (70089, 70092, 0), (70094, 70095, 0), (70188, 70199, 0), (70206, 70206, 0), (70209, 70209, 0),
  (70367, 70378, 0), (70400, 70403, 0), (70459, 70460, 0), (70462, 70468, 0), (70471, 70472, 0),
  (70475, 70477, 0), (70487, 70487, 0), (70498, 70499, 0), (70502, 70508, 0), (70512, 70516, 0),
  (70584, 70592, 0), (70594, 70594, 0), (70597, 70597, 0), (70599, 70602, 0), (70604, 70608, 0),
  (70610, 70610, 0), (70625, 70626, 0), (70709, 70726, 0), (70750, 70750, 0), (70832, 70851, 0),
  (71087, 71093, 0), (71096, 71104, 0), (71132, 71133, 0), (71216, 71232, 0), (71339, 71351, 0),
  (71453, 71467, 0), (71724, 71738, 0), (71984, 71989, 0), (71991, 71992, 0), (71995, 71998, 0),
  (72000, 72000, 0), (72002, 72003, 0), (72145, 72151, 0), (72154, 72160, 0), (72164, 72164, 0),
  (72193, 72202, 0), (72243, 72249, 0), (72251, 72254, 0), (72263, 72263, 0), (72273, 72283, 0),
  (72330, 72345, 0), (72544, 72551, 0), (72751, 72758, 0), (72760, 72767, 0), (72850, 72871, 0),
  (72873, 72886, 0), (73009, 73014, 0), (73018, 73018, 0), (73020, 73021, 0), (73023, 73029, 0),
  (73031, 73031, 0), (73098, 73102, 0), (73104, 73105, 0), (73107, 73111, 0), (73459, 73462, 0),
  (73472, 73473, 0), (73475, 73475, 0), (73524, 73530, 0), (73534, 73538, 0), (73562, 73562, 0),
  (78896, 78912, 0), (78919, 78933, 0), (90398, 90415, 0), (92912, 92916, 0), (92976, 92982, 0),
  (94031, 94031, 0), (94033, 94087, 0), (94095, 94098, 0), (94176, 94179, 2), (94180, 94180, 0),
  (94192, 94193, 0), (94194, 94198, 2), (94208, 101589, 2), (101631, 101662, 2),
  (101760, 101874, 2), (110576, 110579, 2), (110581, 110587, 2), (110589, 110590, 2),
  (110592, 110882, 2), (110898, 110898, 2), (110928, 110930, 2), (110933, 110933, 2),
  (110948, 110951, 2), (110960, 111355, 2), (113821, 113822, 0), (113824, 113827, 0),
  (118528, 118573, 0), (118576, 118598, 0), (119141, 119145, 0), (119149, 119170, 0),
  (119173, 119179, 0), (119210, 119213, 0), (119362, 119364, 0), (119552, 119638, 2),
  (119648, 119670, 2), (121344, 121398, 0), (121403, 121452, 0), (121461, 121461, 0),
  (121476, 121476, 0), (121499, 121503, 0), (121505, 121519, 0), (122880, 122886, 0),
  (122888, 122904, 0), (122907, 122913, 0), (122915, 122916, 0), (122918, 122922, 0),
  (123023, 123023, 0), (123184, 123190, 0), (123566, 123566, 0), (123628, 123631, 0),
  (124140, 124143, 0), (124398, 124399, 0), (124643, 124643, 0), (124646, 124646, 0),
  (124654, 124655, 0), (124661, 124661, 0), (125136, 125142, 0), (125252, 125258, 0),
  (126980, 126980, 2), (127183, 127183, 2), (127374, 127374, 2), (127377, 127386, 2),
  (127488, 127490, 2), (127504, 127547, 2), (127552, 127560, 2), (127568, 127569, 2),
  (127584, 127589, 2), (127744, 127776, 2), (127789, 127797, 2), (127799, 127868, 2),
  (127870, 127891, 2), (127904, 127946, 2), (127951, 127955, 2), (127968, 127984, 2),
  (127988, 127988, 2), (127992, 127994, 2), (127995, 127999, 0), (128000, 128062, 2),
  (128064, 128064, 2), (128066, 128252, 2), (128255, 128317, 2), (128331, 128334, 2),
  (128336, 128359, 2), (128378, 128378, 2), (128405, 128406, 2), (128420, 128420, 2),
  (128507, 128591, 2), (128640, 128709, 2), (128716, 128716, 2), (128720, 128722, 2),
  (128725, 128728, 2), (128732, 128735, 2), (128747, 128748, 2), (128756, 128764, 2),
  (128992, 129003, 2), (129008, 129008, 2), (129292, 129338, 2), (129340, 129349, 2),
  (129351, 129535, 2), (129648, 129660, 2), (129664, 129674, 2), (129678, 129734, 2),
  (129736, 129736, 2), (129741, 129756, 2), (129759, 129770, 2), (129775, 129784, 2),
  (131072, 196605, 2), (196608, 262141, 2), (917504, 921599, 0)]

def cellsOf (c : Char) : Nat :=
  let n := c.toNat
  if 0x20 ≤ n && n < 0x7f then 1
  else match cellRanges.find? fun (first, last, _) => first ≤ n && n ≤ last with
    | some (_, _, cells) => cells
    | none => 1

def wideningRanges : List (Nat × Nat) := [
  (35, 35), (42, 42), (48, 57), (169, 169), (174, 174), (8252, 8252), (8265, 8265), (8482, 8482),
  (8505, 8505), (8596, 8601), (8617, 8618), (9000, 9000), (9167, 9167), (9197, 9199),
  (9201, 9202), (9208, 9210), (9410, 9410), (9642, 9643), (9654, 9654), (9664, 9664),
  (9723, 9724), (9728, 9732), (9742, 9742), (9745, 9745), (9752, 9752), (9757, 9757),
  (9760, 9760), (9762, 9763), (9766, 9766), (9770, 9770), (9774, 9775), (9784, 9786),
  (9792, 9792), (9794, 9794), (9823, 9824), (9827, 9827), (9829, 9830), (9832, 9832),
  (9851, 9851), (9854, 9854), (9874, 9874), (9876, 9879), (9881, 9881), (9883, 9884),
  (9888, 9888), (9895, 9895), (9904, 9905), (9928, 9928), (9935, 9935), (9937, 9937),
  (9939, 9939), (9961, 9961), (9968, 9969), (9972, 9972), (9975, 9977), (9986, 9986),
  (9992, 9993), (9996, 9997), (9999, 9999), (10002, 10002), (10004, 10004), (10006, 10006),
  (10013, 10013), (10017, 10017), (10035, 10036), (10052, 10052), (10055, 10055), (10083, 10084),
  (10145, 10145), (10548, 10549), (11013, 11015), (127344, 127345), (127358, 127359),
  (127777, 127777), (127780, 127788), (127798, 127798), (127869, 127869), (127894, 127895),
  (127897, 127899), (127902, 127903), (127947, 127950), (127956, 127967), (127987, 127987),
  (127989, 127989), (127991, 127991), (128063, 128063), (128065, 128065), (128253, 128253),
  (128329, 128330), (128367, 128368), (128371, 128377), (128391, 128391), (128394, 128397),
  (128400, 128400), (128421, 128421), (128424, 128424), (128433, 128434), (128444, 128444),
  (128450, 128452), (128465, 128467), (128476, 128478), (128481, 128481), (128483, 128483),
  (128488, 128488), (128495, 128495), (128499, 128499), (128506, 128506), (128715, 128715),
  (128717, 128719), (128736, 128741), (128745, 128745), (128752, 128752), (128755, 128755)]

def widens (c : Char) : Bool :=
  wideningRanges.any fun (first, last) => first ≤ c.toNat && c.toNat ≤ last

def joiner : Char := '\u200d'

def selector : Char := '\ufe0f'

/-- The cells of a text, after a character that a selector may still make wide. -/
def cellsAfter (last : Option Char) : List Char → Nat
  | [] => 0
  | c :: cs =>
    if c = joiner then
      match cs with
      | [] => 0
      | _ :: cs => cellsAfter last cs
    else if c = selector then (if last.any widens then 1 else 0) + cellsAfter none cs
    else
      let n := cellsOf c
      n + cellsAfter (if n = 0 then last else some c) cs

def cells (cs : List Char) : Nat := cellsAfter none cs

def total : List Nat → Nat
  | [] => 0
  | n :: ns => n + total ns

end Stepwise.Console
