/-!
# Characters of host names

Which characters the label of a host name may hold. Letters, digits and marks that stand for
nothing but themselves may stand anywhere. A few others may stand in some places only.
-/

namespace CheckDoc.Link

/-- The role of a character in labels. -/
inductive LabelRole where
  /-- It may stand anywhere. -/
  | free
  /-- It joins letters, and may stand between some. -/
  | joiner
  /-- It may stand in some places. -/
  | bound
  /-- It may not stand in a label. -/
  | refused
  deriving DecidableEq

/-- Runs of characters outside ASCII that may stand anywhere: the first and the last one and the
step between them. -/
def freeRuns : List (Nat × Nat × Nat) :=
  [(223, 246, 1), (248, 255, 1), (257, 305, 2), (309, 309, 1), (311, 312, 1), (314, 318, 2),
   (322, 328, 2), (331, 375, 2), (378, 384, 2), (387, 387, 1), (389, 389, 1), (392, 392, 1),
   (396, 397, 1), (402, 402, 1), (405, 405, 1), (409, 411, 1), (414, 414, 1), (417, 421, 2),
   (424, 424, 1), (426, 427, 1), (429, 429, 1), (432, 432, 1), (436, 436, 1), (438, 438, 1),
   (441, 443, 1), (445, 451, 1), (462, 476, 2), (477, 495, 2), (496, 496, 1), (501, 501, 1),
   (505, 563, 2), (564, 569, 1), (572, 572, 1), (575, 576, 1), (578, 578, 1), (583, 591, 2),
   (592, 687, 1), (697, 705, 1), (710, 721, 1), (748, 748, 1), (750, 750, 1), (768, 831, 1),
   (834, 834, 1), (838, 846, 1), (848, 879, 1), (881, 881, 1), (883, 883, 1), (887, 887, 1),
   (891, 893, 1), (912, 912, 1), (940, 974, 1), (983, 1007, 2), (1011, 1011, 1), (1016, 1016, 1),
   (1019, 1020, 1), (1072, 1119, 1), (1121, 1155, 2), (1156, 1159, 1), (1163, 1215, 2),
   (1218, 1230, 2), (1231, 1327, 2), (1369, 1369, 1), (1376, 1414, 1), (1416, 1416, 1),
   (1425, 1469, 1), (1471, 1471, 1), (1473, 1474, 1), (1476, 1477, 1), (1479, 1479, 1),
   (1488, 1514, 1), (1519, 1522, 1), (1552, 1562, 1), (1568, 1599, 1), (1601, 1631, 1),
   (1646, 1652, 1), (1657, 1747, 1), (1749, 1756, 1), (1759, 1768, 1), (1770, 1775, 1),
   (1786, 1791, 1), (1808, 1866, 1), (1869, 1969, 1), (1984, 2037, 1), (2045, 2045, 1),
   (2048, 2093, 1), (2112, 2139, 1), (2144, 2154, 1), (2160, 2183, 1), (2185, 2191, 1),
   (2199, 2273, 1), (2275, 2391, 1), (2400, 2403, 1), (2406, 2415, 1), (2417, 2435, 1),
   (2437, 2444, 1), (2447, 2448, 1), (2451, 2472, 1), (2474, 2480, 1), (2482, 2482, 1),
   (2486, 2489, 1), (2492, 2500, 1), (2503, 2504, 1), (2507, 2510, 1), (2519, 2519, 1),
   (2528, 2531, 1), (2534, 2545, 1), (2556, 2556, 1), (2558, 2558, 1), (2561, 2563, 1),
   (2565, 2570, 1), (2575, 2576, 1), (2579, 2600, 1), (2602, 2608, 1), (2610, 2610, 1),
   (2613, 2613, 1), (2616, 2617, 1), (2620, 2620, 1), (2622, 2626, 1), (2631, 2632, 1),
   (2635, 2637, 1), (2641, 2641, 1), (2652, 2652, 1), (2662, 2677, 1), (2689, 2691, 1),
   (2693, 2701, 1), (2703, 2705, 1), (2707, 2728, 1), (2730, 2736, 1), (2738, 2739, 1),
   (2741, 2745, 1), (2748, 2757, 1), (2759, 2761, 1), (2763, 2765, 1), (2768, 2768, 1),
   (2784, 2787, 1), (2790, 2799, 1), (2809, 2815, 1), (2817, 2819, 1), (2821, 2828, 1),
   (2831, 2832, 1), (2835, 2856, 1), (2858, 2864, 1), (2866, 2867, 1), (2869, 2873, 1),
   (2876, 2884, 1), (2887, 2888, 1), (2891, 2893, 1), (2901, 2903, 1), (2911, 2915, 1),
   (2918, 2927, 1), (2929, 2929, 1), (2946, 2947, 1), (2949, 2954, 1), (2958, 2960, 1),
   (2962, 2965, 1), (2969, 2970, 1), (2972, 2972, 1), (2974, 2975, 1), (2979, 2980, 1),
   (2984, 2986, 1), (2990, 3001, 1), (3006, 3010, 1), (3014, 3016, 1), (3018, 3021, 1),
   (3024, 3024, 1), (3031, 3031, 1), (3046, 3055, 1), (3072, 3084, 1), (3086, 3088, 1),
   (3090, 3112, 1), (3114, 3129, 1), (3132, 3140, 1), (3142, 3144, 1), (3146, 3149, 1),
   (3157, 3158, 1), (3160, 3162, 1), (3164, 3165, 1), (3168, 3171, 1), (3174, 3183, 1),
   (3200, 3203, 1), (3205, 3212, 1), (3214, 3216, 1), (3218, 3240, 1), (3242, 3251, 1),
   (3253, 3257, 1), (3260, 3268, 1), (3270, 3272, 1), (3274, 3277, 1), (3285, 3286, 1),
   (3292, 3294, 1), (3296, 3299, 1), (3302, 3311, 1), (3313, 3315, 1), (3328, 3340, 1),
   (3342, 3344, 1), (3346, 3396, 1), (3398, 3400, 1), (3402, 3406, 1), (3412, 3415, 1),
   (3423, 3427, 1), (3430, 3439, 1), (3450, 3455, 1), (3457, 3459, 1), (3461, 3478, 1),
   (3482, 3505, 1), (3507, 3515, 1), (3517, 3517, 1), (3520, 3526, 1), (3530, 3530, 1),
   (3535, 3540, 1), (3542, 3542, 1), (3544, 3551, 1), (3558, 3567, 1), (3570, 3571, 1),
   (3585, 3634, 1), (3636, 3642, 1), (3648, 3662, 1), (3664, 3673, 1), (3713, 3714, 1),
   (3716, 3716, 1), (3718, 3722, 1), (3724, 3747, 1), (3749, 3749, 1), (3751, 3762, 1),
   (3764, 3773, 1), (3776, 3780, 1), (3782, 3782, 1), (3784, 3790, 1), (3792, 3801, 1),
   (3806, 3807, 1), (3840, 3840, 1), (3851, 3851, 1), (3864, 3865, 1), (3872, 3881, 1),
   (3893, 3897, 2), (3902, 3906, 1), (3908, 3911, 1), (3913, 3916, 1), (3918, 3921, 1),
   (3923, 3926, 1), (3928, 3931, 1), (3933, 3944, 1), (3946, 3948, 1), (3953, 3954, 1),
   (3956, 3956, 1), (3962, 3968, 1), (3970, 3972, 1), (3974, 3986, 1), (3988, 3991, 1),
   (3993, 3996, 1), (3998, 4001, 1), (4003, 4006, 1), (4008, 4011, 1), (4013, 4024, 1),
   (4026, 4028, 1), (4038, 4038, 1), (4096, 4169, 1), (4176, 4253, 1), (4304, 4346, 1),
   (4349, 4351, 1), (4608, 4680, 1), (4682, 4685, 1), (4688, 4694, 1), (4696, 4696, 1),
   (4698, 4701, 1), (4704, 4744, 1), (4746, 4749, 1), (4752, 4784, 1), (4786, 4789, 1),
   (4792, 4798, 1), (4800, 4800, 1), (4802, 4805, 1), (4808, 4822, 1), (4824, 4880, 1),
   (4882, 4885, 1), (4888, 4954, 1), (4957, 4959, 1), (4992, 5007, 1), (5024, 5109, 1),
   (5121, 5740, 1), (5743, 5759, 1), (5761, 5786, 1), (5792, 5866, 1), (5873, 5880, 1),
   (5888, 5909, 1), (5919, 5940, 1), (5952, 5971, 1), (5984, 5996, 1), (5998, 6000, 1),
   (6002, 6003, 1), (6016, 6067, 1), (6070, 6099, 1), (6103, 6103, 1), (6108, 6109, 1),
   (6112, 6121, 1), (6160, 6169, 1), (6176, 6264, 1), (6272, 6314, 1), (6320, 6389, 1),
   (6400, 6430, 1), (6432, 6443, 1), (6448, 6459, 1), (6470, 6509, 1), (6512, 6516, 1),
   (6528, 6571, 1), (6576, 6601, 1), (6608, 6617, 1), (6656, 6683, 1), (6688, 6750, 1),
   (6752, 6780, 1), (6783, 6793, 1), (6800, 6809, 1), (6823, 6823, 1), (6832, 6845, 1),
   (6847, 6877, 1), (6880, 6891, 1), (6912, 6988, 1), (6992, 7001, 1), (7019, 7027, 1),
   (7040, 7155, 1), (7168, 7223, 1), (7232, 7241, 1), (7245, 7293, 1), (7306, 7306, 1),
   (7376, 7378, 1), (7380, 7418, 1), (7424, 7467, 1), (7471, 7471, 1), (7483, 7483, 1),
   (7502, 7502, 1), (7531, 7543, 1), (7545, 7578, 1), (7616, 7679, 1), (7681, 7829, 2),
   (7830, 7833, 1), (7836, 7837, 1), (7839, 7935, 2), (7936, 7943, 1), (7952, 7957, 1),
   (7968, 7975, 1), (7984, 7991, 1), (8000, 8005, 1), (8016, 8023, 1), (8032, 8039, 1),
   (8048, 8060, 2), (8112, 8113, 1), (8118, 8118, 1), (8134, 8134, 1), (8144, 8146, 1),
   (8150, 8151, 1), (8160, 8162, 1), (8164, 8167, 1), (8182, 8182, 1), (8526, 8526, 1),
   (8580, 8580, 1), (11312, 11359, 1), (11361, 11361, 1), (11365, 11366, 1), (11368, 11372, 2),
   (11377, 11377, 1), (11379, 11380, 1), (11382, 11387, 1), (11393, 11491, 2), (11492, 11492, 1),
   (11500, 11500, 1), (11502, 11505, 1), (11507, 11507, 1), (11520, 11557, 1), (11559, 11559, 1),
   (11565, 11565, 1), (11568, 11623, 1), (11647, 11670, 1), (11680, 11686, 1), (11688, 11694, 1),
   (11696, 11702, 1), (11704, 11710, 1), (11712, 11718, 1), (11720, 11726, 1), (11728, 11734, 1),
   (11736, 11742, 1), (11744, 11775, 1), (11823, 11823, 1), (12293, 12295, 1), (12330, 12333, 1),
   (12348, 12348, 1), (12353, 12438, 1), (12441, 12442, 1), (12445, 12446, 1), (12449, 12538, 1),
   (12540, 12542, 1), (12549, 12591, 1), (12704, 12735, 1), (12784, 12799, 1), (13312, 19903, 1),
   (19968, 42124, 1), (42192, 42237, 1), (42240, 42508, 1), (42512, 42539, 1), (42561, 42605, 2),
   (42606, 42607, 1), (42612, 42621, 1), (42623, 42651, 2), (42654, 42725, 1), (42736, 42737, 1),
   (42775, 42783, 1), (42787, 42799, 2), (42800, 42801, 1), (42803, 42865, 2), (42866, 42872, 1),
   (42874, 42874, 1), (42876, 42876, 1), (42879, 42887, 2), (42888, 42888, 1), (42892, 42892, 1),
   (42894, 42895, 1), (42897, 42897, 1), (42899, 42901, 1), (42903, 42921, 2), (42927, 42927, 1),
   (42933, 42947, 2), (42952, 42952, 1), (42954, 42954, 1), (42957, 42971, 2), (42998, 42999, 1),
   (43002, 43047, 1), (43052, 43052, 1), (43072, 43123, 1), (43136, 43205, 1), (43216, 43225, 1),
   (43232, 43255, 1), (43259, 43259, 1), (43261, 43309, 1), (43312, 43347, 1), (43392, 43456, 1),
   (43471, 43481, 1), (43488, 43518, 1), (43520, 43574, 1), (43584, 43597, 1), (43600, 43609, 1),
   (43616, 43638, 1), (43642, 43714, 1), (43739, 43741, 1), (43744, 43759, 1), (43762, 43766, 1),
   (43777, 43782, 1), (43785, 43790, 1), (43793, 43798, 1), (43808, 43814, 1), (43816, 43822, 1),
   (43824, 43866, 1), (43872, 43880, 1), (43968, 44010, 1), (44012, 44013, 1), (44016, 44025, 1),
   (44032, 55203, 1), (64014, 64015, 1), (64017, 64017, 1), (64019, 64020, 1), (64031, 64035, 2),
   (64036, 64036, 1), (64039, 64041, 1), (64286, 64286, 1), (65056, 65071, 1), (65139, 65139, 1),
   (65536, 65547, 1), (65549, 65574, 1), (65576, 65594, 1), (65596, 65597, 1), (65599, 65613, 1),
   (65616, 65629, 1), (65664, 65786, 1), (66045, 66045, 1), (66176, 66204, 1), (66208, 66256, 1),
   (66272, 66272, 1), (66304, 66335, 1), (66349, 66368, 1), (66370, 66377, 1), (66384, 66426, 1),
   (66432, 66461, 1), (66464, 66499, 1), (66504, 66511, 1), (66600, 66717, 1), (66720, 66729, 1),
   (66776, 66811, 1), (66816, 66855, 1), (66864, 66915, 1), (66967, 66977, 1), (66979, 66993, 1),
   (66995, 67001, 1), (67003, 67004, 1), (67008, 67059, 1), (67072, 67382, 1), (67392, 67413, 1),
   (67424, 67431, 1), (67456, 67456, 1), (67584, 67589, 1), (67592, 67592, 1), (67594, 67637, 1),
   (67639, 67640, 1), (67644, 67644, 1), (67647, 67669, 1), (67680, 67702, 1), (67712, 67742, 1),
   (67808, 67826, 1), (67828, 67829, 1), (67840, 67861, 1), (67872, 67897, 1), (67904, 67929, 1),
   (67968, 68023, 1), (68030, 68031, 1), (68096, 68099, 1), (68101, 68102, 1), (68108, 68115, 1),
   (68117, 68119, 1), (68121, 68149, 1), (68152, 68154, 1), (68159, 68159, 1), (68192, 68220, 1),
   (68224, 68252, 1), (68288, 68295, 1), (68297, 68326, 1), (68352, 68405, 1), (68416, 68437, 1),
   (68448, 68466, 1), (68480, 68497, 1), (68608, 68680, 1), (68800, 68850, 1), (68864, 68903, 1),
   (68912, 68921, 1), (68928, 68943, 1), (68969, 68973, 1), (68975, 68997, 1), (69248, 69289, 1),
   (69291, 69292, 1), (69296, 69297, 1), (69314, 69319, 1), (69370, 69404, 1), (69415, 69415, 1),
   (69424, 69456, 1), (69488, 69509, 1), (69552, 69572, 1), (69600, 69622, 1), (69632, 69702, 1),
   (69734, 69749, 1), (69759, 69818, 1), (69826, 69826, 1), (69840, 69864, 1), (69872, 69881, 1),
   (69888, 69940, 1), (69942, 69951, 1), (69956, 69959, 1), (69968, 70003, 1), (70006, 70006, 1),
   (70016, 70084, 1), (70089, 70092, 1), (70094, 70106, 1), (70108, 70108, 1), (70144, 70161, 1),
   (70163, 70199, 1), (70206, 70209, 1), (70272, 70278, 1), (70280, 70280, 1), (70282, 70285, 1),
   (70287, 70301, 1), (70303, 70312, 1), (70320, 70378, 1), (70384, 70393, 1), (70400, 70403, 1),
   (70405, 70412, 1), (70415, 70416, 1), (70419, 70440, 1), (70442, 70448, 1), (70450, 70451, 1),
   (70453, 70457, 1), (70459, 70468, 1), (70471, 70472, 1), (70475, 70477, 1), (70480, 70480, 1),
   (70487, 70487, 1), (70493, 70499, 1), (70502, 70508, 1), (70512, 70516, 1), (70528, 70537, 1),
   (70539, 70539, 1), (70542, 70542, 1), (70544, 70581, 1), (70583, 70592, 1), (70594, 70594, 1),
   (70597, 70597, 1), (70599, 70602, 1), (70604, 70611, 1), (70625, 70626, 1), (70656, 70730, 1),
   (70736, 70745, 1), (70750, 70753, 1), (70784, 70853, 1), (70855, 70855, 1), (70864, 70873, 1),
   (71040, 71093, 1), (71096, 71104, 1), (71128, 71133, 1), (71168, 71232, 1), (71236, 71236, 1),
   (71248, 71257, 1), (71296, 71352, 1), (71360, 71369, 1), (71376, 71395, 1), (71424, 71450, 1),
   (71453, 71467, 1), (71472, 71481, 1), (71488, 71494, 1), (71680, 71738, 1), (71872, 71913, 1),
   (71935, 71942, 1), (71945, 71945, 1), (71948, 71955, 1), (71957, 71958, 1), (71960, 71989, 1),
   (71991, 71992, 1), (71995, 72003, 1), (72016, 72025, 1), (72096, 72103, 1), (72106, 72151, 1),
   (72154, 72161, 1), (72163, 72164, 1), (72192, 72254, 1), (72263, 72263, 1), (72272, 72345, 1),
   (72349, 72349, 1), (72368, 72440, 1), (72544, 72551, 1), (72640, 72672, 1), (72688, 72697, 1),
   (72704, 72712, 1), (72714, 72758, 1), (72760, 72768, 1), (72784, 72793, 1), (72818, 72847, 1),
   (72850, 72871, 1), (72873, 72886, 1), (72960, 72966, 1), (72968, 72969, 1), (72971, 73014, 1),
   (73018, 73018, 1), (73020, 73021, 1), (73023, 73031, 1), (73040, 73049, 1), (73056, 73061, 1),
   (73063, 73064, 1), (73066, 73102, 1), (73104, 73105, 1), (73107, 73112, 1), (73120, 73129, 1),
   (73136, 73179, 1), (73184, 73193, 1), (73440, 73462, 1), (73472, 73488, 1), (73490, 73530, 1),
   (73534, 73538, 1), (73552, 73562, 1), (73648, 73648, 1), (73728, 74649, 1), (74880, 75075, 1),
   (77712, 77808, 1), (77824, 78895, 1), (78912, 78933, 1), (78944, 82938, 1), (82944, 83526, 1),
   (90368, 90425, 1), (92160, 92728, 1), (92736, 92766, 1), (92768, 92777, 1), (92784, 92862, 1),
   (92864, 92873, 1), (92880, 92909, 1), (92912, 92916, 1), (92928, 92982, 1), (92992, 92995, 1),
   (93008, 93017, 1), (93027, 93047, 1), (93053, 93071, 1), (93504, 93548, 1), (93552, 93561, 1),
   (93792, 93823, 1), (93883, 93907, 1), (93952, 94026, 1), (94031, 94087, 1), (94095, 94111, 1),
   (94176, 94177, 1), (94179, 94180, 1), (94192, 94195, 1), (94208, 101589, 1),
   (101631, 101662, 1), (101760, 101874, 1), (110576, 110579, 1), (110581, 110587, 1),
   (110589, 110590, 1), (110592, 110882, 1), (110898, 110898, 1), (110928, 110930, 1),
   (110933, 110933, 1), (110948, 110951, 1), (110960, 111355, 1), (113664, 113770, 1),
   (113776, 113788, 1), (113792, 113800, 1), (113808, 113817, 1), (113821, 113822, 1),
   (118528, 118573, 1), (118576, 118598, 1), (121344, 121398, 1), (121403, 121452, 1),
   (121461, 121461, 1), (121476, 121476, 1), (121499, 121503, 1), (121505, 121519, 1),
   (122624, 122654, 1), (122661, 122666, 1), (122880, 122886, 1), (122888, 122904, 1),
   (122907, 122913, 1), (122915, 122916, 1), (122918, 122922, 1), (123023, 123023, 1),
   (123136, 123180, 1), (123184, 123197, 1), (123200, 123209, 1), (123214, 123214, 1),
   (123536, 123566, 1), (123584, 123641, 1), (124112, 124153, 1), (124368, 124410, 1),
   (124608, 124638, 1), (124640, 124661, 1), (124670, 124671, 1), (124896, 124902, 1),
   (124904, 124907, 1), (124909, 124910, 1), (124912, 124926, 1), (124928, 125124, 1),
   (125136, 125142, 1), (125218, 125259, 1), (125264, 125273, 1), (131072, 173791, 1),
   (173824, 178205, 1), (178208, 183981, 1), (183984, 191456, 1), (191472, 192093, 1),
   (196608, 201546, 1), (201552, 210041, 1)]

/-- The role of a character. -/
def labelRole (c : Char) : LabelRole :=
  let n := c.toNat
  if n < 128 then
    if c.isDigit || ('a' ≤ c && c ≤ 'z') || c = '-' then .free else .refused
  else if freeRuns.any fun run =>
      run.1 ≤ n && n ≤ run.2.1 && (n - run.1) % run.2.2 == 0 then
    .free
  else if n = 0x200C || n = 0x200D then .joiner
  else if n = 0xB7 || n = 0x375 || n = 0x5F3 || n = 0x5F4 || n = 0x30FB ||
      (0x660 ≤ n && n ≤ 0x669) || (0x6F0 ≤ n && n ≤ 0x6F9) then
    .bound
  else .refused

end CheckDoc.Link
