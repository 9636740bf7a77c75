import LiteralMark.Ruby.Table.Item
/-!
# Contexts

What may follow a rule depends on what it is part of: behind the same
expression a closing bracket can stand in one place and a line break in
another. A *context* of some items gives the tokens that may follow the
rule of each of them. Contexts that never lead to different steps share
one state, and that context lists the tokens of all of them.

Which contexts share a state shows only where a text breaks the grammar.
A token that some sharer expects is not refused at once but only when the
rule is complete, and this decides how far the unexpected text reaches.
So the contexts are part of the grammar, and they are listed here.

`aheadSets` holds the sets of tokens that occur, one bit for each token,
and `contextTable` the lists of contexts, which refer to them by number
from one on. A context has several sets if its items differ in what may
follow them. The items are in `Rule.cores`: for each rule, the groups of
items that begin with an item of this rule, each with the number of its
list of contexts. An item is a number in which the last digit is its
place in the sequence, the two digits in front of it the sequence, and
the two in front of these the rule; a further digit in front tells which
set of the context belongs to the item.
-/

namespace LiteralMark.Ruby

/-- The sets of tokens that may follow a rule. -/
def aheadSets : List Nat := [
  0x1, 0x40, 0x2000, 0x8000, 0x1000000, 0x8000000000, 0x2000000000000000000000000000000000000000,
  0x5, 0x1800, 0x8400, 0x10040, 0x10400, 0x18000, 0x30000, 0x8000008000, 0x10000000020,
  0x80000000400, 0x200000000400, 0x200000010000, 0x100000000000000000000000000040000,
  0x100020000000000000000000000000000000, 0x18400, 0x70000, 0x8000008400, 0x10000010020,
  0x80000020400, 0x200000010400, 0x40008000002000, 0x40040000002000, 0x60000000002000,
  0x18000000000000000400, 0x1c000000000000000000000000000, 0x100000000000000000000000000050000,
  0x100000000000000000000010000040000, 0x100000000000000000080000000040000, 0x8000018400,
  0x80000030040, 0x200000010440, 0x280000010400, 0x280000030000, 0x40048000002000,
  0x240000000006000, 0x18000000000000004400, 0x100000000000000000080000000050000,
  0x100000000000000000080080000040000, 0x100000000000018000000000000040000,
  0x800000000000000000000000c00000000000800, 0x10800000a0400, 0x18000000200000010400,
  0x100000000000000000080080000050000, 0x100000000000018000080000000040000,
  0x800000800000000000000000c00000000000800, 0x1000140050000000000000000000000000000000,
  0x1000280050000000000000000000000000000000, 0x10000070420, 0xc80000021400, 0x12800000b0000,
  0x18000000200000014400, 0x18000c00000000000c00, 0x100000000000018000080000000044000,
  0x100000000000018000080000000050000, 0x800000000000000000000000c00010000000820,
  0x1000140070000000000000000000000000000000, 0xc80000031040, 0xe80000031000, 0x260048000006000,
  0x18000000210000010420, 0x18000c00000000004c00, 0x100000000000000000000003c00044000,
  0x100000000000018000080000000054000, 0x800000000000000000000000c00810000000820,
  0x800000100000000000000000c80000000040800, 0x18000000210000010460, 0x18000000210000014420,
  0x18000000280000030440, 0x18000000280000034400, 0x18000000290000010420, 0x18000c00200000010c00,
  0x100000000000000000000013c00044000, 0x100000000000000000080003c00044000,
  0x100000000000018000080010000050020, 0x100000000000018000080080000070000,
  0x100000000000018000c80000000040800, 0x800000000000000000000000c00008000018c00,
  0x260048000006440, 0x18000000210000014460, 0x18000000290000010460, 0x18000000290000014420,
  0x18000000290000030420, 0x18000c00200000014c00, 0x100000000000000000000000000bc8202,
  0x100000000000000000000003c00044005, 0x100000000000018000080010000054020,
  0x100000000000018000c80000000044800, 0x100000000000018000c80000000050800,
  0x800000000000000000000000c00810000018820, 0x18000000210000074420, 0x18000000290000014460,
  0x18000000290000030460, 0x18000000290000034420, 0x18000c00210000010c20,
  0x100000000000000000000003c00054005, 0x100000000000018000000003c00044040,
  0x100000000000018000000013c00044000, 0x100000000000018000080010c00050020,
  0x100000000000018000080090000070020, 0x100000000000018000c80000000054800,
  0x800000100000000000000000c80810000040820, 0x18000000210000074460, 0x18000000290000034460,
  0x180000012900000b0420, 0x18000c00210000014c20, 0x10000000000000000004004bc00046000,
  0x100000000000018000000003c00044005, 0x100000000000018000000003c00054040,
  0x100000000000018000000013c00054000, 0x100000000000018000080090c00050020,
  0x100000000000018000c80010000050820, 0x800000000000000000000000c00818000018c20,
  0x18000000e90000031420, 0x180000012900000b0460, 0x180000012900000b4420,
  0x100000000000018000000003c00054005, 0x100000000000018000080090c00070020,
  0x1000000000000180000810900000f0020, 0x100000000000018000c80010000054820,
  0x18000000e90000035420, 0x180000012900000b4460, 0x100000000000018000000083c00074040,
  0x100000000000018000000093c00074000, 0x100000000000018000080c90000071020,
  0x100000000000018000c00013c00044800, 0x18000000e90000035460, 0x180000012900010b4460,
  0x18000c00290000034c60, 0x100000000000018000000013c00054025,
  0x100000000000018000000083c00074005, 0x100000000000018000081090c000f0020,
  0x100000000000018000c00003c00044805, 0x100000000000018000c00013c00054800,
  0x10000000000000000026004bc00046440, 0x100000000000018000000093c00054025,
  0x100000000000018000001083c000f4040, 0x100000000000018000080c90c00071020,
  0x100000000000018000c00003c00054805, 0x1000000000000000002e004bc00046440,
  0x100000000000018000000093c00074025, 0x100000000000018000000c83c00075040,
  0x1000000000000000002e005bc00046440, 0x100000000000018000c00013c00054825,
  0x1000000000000000002e005bc00056440, 0x100000000000018000001093c000f4025,
  0x1000000000000180002e004bc00046440, 0x1000000000000000002e005bc00046445,
  0x100000000000018000000c93c00075025, 0x1000000000000180002e004bc00056440,
  0x1000000000000000002e005bc00056445, 0x1000000000000180002e004bc00056445,
  0x1000000000000180002e005bc00056460, 0x1000000000000180002e00cbc00076440,
  0x100000000000018000ee004bc00046c40, 0x1000000000000180002e00dbc00056460,
  0x100000000000018000ee004bc00056c40, 0x1000000000000180002e005bc00056465,
  0x1000000000000180002e00dbc00076460, 0x1000000000000180002e00dbc00056465,
  0x100000000000018000ee004bc00056c45, 0x100000000000018000ee005bc00056c60,
  0x1000000000000000002e005bc00bde642, 0x1000000000000180002e00dbc00076465,
  0x1000000000000180002e10dbc000f6460, 0x1000000000000180002e0cdbc00077460,
  0x100000000000018000ee005bc00056c65, 0x1000000000000180002e10dbc000f6465,
  0x1000000000000180002e0cdbc00077465, 0x1000000000000180002e10dbc010f6465,
  0x100000000000018000ee00dbc00076c65, 0x4180000000000001ffffa0000110000048a0400,
  0x4180000000000001ffffa0000110800048a0000, 0x4180000000000001ffffe0000110000048a0000,
  0x4180000000000001ffffa0000110000048b0040, 0x4180000000000001ffffa0000110000048b0400,
  0x4180000000000001ffffa0000110000048f0000, 0x4180000000000001ffffe0000110000048a4000,
  0x4180000000000001ffffe0000110000048b0000, 0x4180001000000001ffffa0000110000048e0000,
  0x1000000000000180002e10dbc00bfe662, 0x4180000000000001ffffa0000110100048b0020,
  0x4180000000000001ffffa0000110880048a0400, 0x4180000000000001ffffa0000112000048b0400,
  0x4180000000000001ffffe0000110000048b4000, 0x4180001000000001ffffa0000110000048f0000,
  0x4180001000000001ffffa0000110100048e0000, 0x1000000000000180002e00dbc00bffe62,
  0x4180000000000001ffffa0000110880048a4400, 0x4180000000000001ffffa0000112000048b0440,
  0x4180000000000001ffffa0000112000048b4400, 0x4180000000000001ffffa0000112880048b0000,
  0x4180001000000001ffffa0000110100048e4000, 0x4180001000000001ffffa0000110100048f0000,
  0x4180001000000001ffffa0000910000048f0000, 0xc180000000000001ffffa000c110000048a0800,
  0x4180000000000001ffffa0000110880048b4400, 0x4180000000000001ffffa0000112100048b0420,
  0x4180000000000001ffffa0000112880048b0400, 0x4180001000000001ffffa0000110100048f4000,
  0x4180001000000001ffffa0000910800048f0000, 0x4180001000000001ffffa0000910880048e0000,
  0xc180000000000001ffffa000c110000048a4800, 0xc180000000000001ffffa000c110800048a0800,
  0xc180000000000001ffffe000c110000048a0800, 0x4180000000000001ffffa0000112100048b4420,
  0x4180000000000001ffffa0000112880048b4400, 0x4180001000000001ffffa0000910100048f0020,
  0x4180001000000001ffffa0000910880048e4000, 0x4180001000000001ffffa0000910880048f0000,
  0xc180000000000001ffffa000c110000048b0840, 0xc180000000000001ffffe000c110000048a4800,
  0xc180000000000001ffffe000c110000048b0800, 0x4180000000000001ffffa0000112880048f0440,
  0x4180000000000001ffffa0000112980048b0420, 0x4180001000000001ffffa0000910880048f4000,
  0xc180000000000001ffffa000c110880048a0c00, 0xc180000000000001ffffe000c110000048b4800,
  0xc180001000000001ffffa000c110100048e0800, 0x180000000e000ff9eff80000011800004b20002,
  0x4180000000000001ffffa0000112880048f4440, 0x4180000000000001ffffa0000112980048b4420,
  0x4180001000000001ffffa0000910980048f0020, 0xc180000000000001ffffa000c110880048a4c00,
  0xc180000000000001ffffa000c112880048b0800, 0xc180000000000001ffffa000c118900048a0820,
  0xc180001000000001ffffa000c110100048e4800, 0xc180001000000001ffffa000c110100048f0800,
  0xc180008000000001ffffe000c110000048b4800, 0x4180001000000001ffffa000011013c048f4000,
  0x4180001000000001ffffa0000910980048f4020, 0xc180000000000001ffffa000c110880048b4c00,
  0xc180000000000001ffffa000c112100048b0c20, 0xc180000000000001ffffa000c112880048b0c00,
  0xc180000000000001ffffa000c118100048b0860, 0xc180001000000001ffffa000c110100048f4800,
  0xc180001000000001ffffa000c910880048e0800, 0x4180001000000001ffffa000011003c048f4005,
  0x4180001000000001ffffa00001108bc048e4040, 0x4180001000000001ffffa00001108bc048e4400,
  0x4180001000000001ffffa00001109bc048e4000, 0xc180000000000001ffffa000c112100048b4c20,
  0xc180000000000001ffffa000c112880048b4c00, 0xc180000000000001ffffa000c11a100048b0c20,
  0xc180000000000001ffffe000c118100048b4820, 0xc180001000000001ffffa000c910100048f0820,
  0xc180001000000001ffffa000c910880048e4800, 0xc180001000000001ffffa000c910880048f0800,
  0x4180000000000001ffffe0000112980048f4460, 0x4180001000000001ffffa00001108bc048e4005,
  0x4180001000000001ffffa00001109bc048f4000, 0xc180000000000001ffffa000c110980048b4c20,
  0xc180000000000001ffffa000c112100048b4c60, 0xc180000000000001ffffa000c112880048f0c40,
  0xc180000000000001ffffa000c112980048b0c20, 0xc180000000000001ffffa000c11a100048b4c20,
  0xc180001000000001ffffa000c910880048f4800, 0xc180001000000001ffffa000c918100048f0820,
  0x180001407e000ff9eff80000011000004b20002, 0x4180001000000001ffffa000011013c048f4025,
  0x4180001000000001ffffa00001108bc048f4005, 0xc180000000000001ffffa000c112880048f4c40,
  0xc180000000000001ffffa000c112980048b4c20, 0xc180001000000001ffffa000c910980048f0820,
  0xc180000000000001ffffa000c112980048b4c60, 0xc180000000000001ffffe000c112880048f4c40,
  0xc180001000000001ffffa000c910980048f4820, 0x4180001000000001ffffa00001109bc048f4025,
  0xc180000000000001ffffa000c112980048f4c60, 0xc180000000000001ffffe000c112980048f0c60,
  0xc180001000000001ffffa000c11083c048f4840, 0xc180001000000001ffffa000c1108bc048e4840,
  0xc180001000000001ffffa000c1108bc048e4c00, 0xc180001000000001ffffa000c1109bc048e4800,
  0xc180000000000001ffffe000c112980048f4c60, 0xc180001000000001ffffa000c1108bc048e4805,
  0xc180001000000001ffffa000c1109bc048f4800, 0xc180008000000001ffffa000c112980048f4c60,
  0xc180000000000001ffffa000c11a980058f4c60, 0xc180000000000001ffffe000c11a980048f4c60,
  0xc180001000000001ffffa000c11013c048f4825, 0xc180001000000001ffffa000c1108bc048f4805,
  0xc180001000000001ffffa000c1109bc048f4820, 0xc180008000000001ffffa000c112980058f4c60,
  0xc180008000000001ffffe000c112980048f4c60, 0x4180001000000001ffffa0002f104bc048f6440,
  0x4180001000000001ffffa0002f10cbc048e6440, 0xc180001000000001ffffa000c11813c048f4825,
  0x4180001000000001ffffa0002f10cbc048f6440, 0xc180001000000001ffffa000c1109bc048f4825,
  0x4180001000000001ffffa0002f105bc048f6460, 0x4180001000000001ffffa0002f10dbc048f6460,
  0xc180000000000001ffffbfffc110000048b8840, 0xc180001000000001ffffa000ef10cbc048e6c40,
  0x4180001000000001ffffa0002f10dbc048f6465, 0xc180000000000001ffffbfffc110880048b8c00,
  0xc180000000000001ffffbfffc112880048b8800, 0xc180001000000001ffffa000ef10cbc048f6c40,
  0xc180000000000001ffffbfffc110880048bcc00, 0xc180000000000001ffffbfffc112880048b8c00,
  0xc180000000000001ffffbfffc118100048b8860, 0xc180000000000001ffffbfffc118900048b8820,
  0xc180001000000001ffffa000ef105bc048f6c60, 0xc180001000000001ffffa000ef10cbc048e6c45,
  0xc180000000000001ffffbfffc112880048bcc00, 0xc180000000000001ffffbfffc11a100048b8c20,
  0xc180001000000001ffffa000ef10cbc048f6c45, 0xc180001000000001ffffa000ef10dbc048f6c60,
  0xc180001000000001ffffa000ef185bc048f6c60, 0xc180001000000001ffffbfffc910880048f8800,
  0xc180000000000001ffffbfffc112100048bcc60, 0xc180000000000001ffffbfffc112980048b8c20,
  0xc180000000000001ffffbfffc11a100048bcc20, 0xc180000000000001ffffbfffc11a980048b8820,
  0xc180001000000001ffffa000ef105bc048f6c65, 0xc180001000000001ffffbfffc910880048fc800,
  0xc180001000000001ffffbfffc918100048f8820, 0xc180000000000001ffffbfffc112980048bcc20,
  0xc180000000000001ffffbfffc11a100048bcc60, 0xc180001000000001ffffa000ef10dbc048f6c65,
  0xc180001000000001ffffbfffc910980048f8820, 0xc180000000000001ffffbfffc11a980048bcc20,
  0xc180000000000001ffffffffc112880048fcc40, 0xc180001000000001ffffa000ef18dbc048f6c65,
  0xc180001000000001ffffbfffc910980048fc820, 0xc180009000000001ffffa000ef10dbc048f6c65,
  0xc180001000000001ffffa000ef18dbc058f6c65, 0xc180009000000001ffffa000ef10dbc058f6c65,
  0xc180000000000001ffffffffc112980048fcc60, 0xc180001000000001ffffbfffc1108bc048fcc00,
  0xc180001000000001ffffbfffc1109bc048fc800, 0xc180000000000001ffffffffc11a980048fcc60,
  0xc180001000000001ffffbfffc1108bc048fc805, 0xc180001000000001ffffbfffc11813c048fc825,
  0xc180001000000001ffffbfffc1189bc048fc820, 0xc180001000000001ffffbfffc1109bc048fc825,
  0xc180001000000001ffffbfffc1189bc048fcc20, 0x18641fc8ffe3601e01000000101127ffa5c13f2,
  0x18641fc8ffe3601e01000000101127ffa5c13b7, 0xc180001000000001ffffbfffef10cbc048fec40,
  0x18641fc8ffe3601e01000000341127ffa5c73b2, 0x18641fc8ffe3601e01000000341127ffa5e73b2,
  0x18641fd8ffe3601e01000000341127ffa5c73b2, 0xc180001000000001ffffbfffef10cbc048fec45,
  0xc180001000000001ffffbfffef10dbc048fec60, 0xc180001000000001ffffbfffef185bc048fec60,
  0x18641fd8ffe3601e01000000341127ffa5cf3b2, 0x3c7c1fc8ffe3001e01018000101337ffa595722,
  0xc180001000000001ffffbfffef105bc048fec65, 0xc180001000000001ffffbfffef10dbc048fec65,
  0xc180001000000001ffffbfffef185bc048fec65, 0x3c7c1fd8ffe3001e01018000101137ffa5d5327,
  0xc180001000000001ffffbfffef18dbc048fec65, 0x18641fc8ffe3601e0100000036116fffa5c77f2,
  0x98641fd8ffe3601e01000000f41127ffe5c7bb2, 0x18641fc8ffe3601e010000003e116fffa5e77f2,
  0x3c7c1fd8ffe3001e010180003e117fffa5d7762, 0xfdfc1fc8ffe3001fffffa000d11bbfffedb1f22,
  0xfdfc1fc8ffe3001fffffa000d11bbfffedb5f22, 0xfdfc1fd8ffe3001fffffa000d119bfffede5b62,
  0xfdfc1fd8ffe3001fffffa000d119bfffedf5b22, 0xfdfc1fd8ffe3001fffffa000d919bfffedf1b22,
  0xfdfc1fc8ffe3001fffffa000d11bbffffdb5f22, 0xfdfc1fd8ffe3001fffffa000d119bfffedf5b27,
  0xfdfc1fd8ffe3001fffffa000d119bffffdf5b27, 0xfdfc1fd8ffe3001fffffa000ff19ffffedf7f62,
  0xfdfc1fd8ffe3001fffffa000ff19fffffdf7f62, 0xfdfc1fc8ffe3001fffffbfffd11bbfffedb9b22,
  0xfdfc1fc8ffe3001fffffbfffd11bbfffedb9f22, 0xfdfc1fc8ffe3001fffffbfffd11bbfffedbdf22,
  0xfdfc1fd8ffe3001fffffbfffd119bfffedfdb22, 0xfdfc1fd8ffe3001fffffbfffd919bfffedf9b22,
  0xfdfc1fd8ffe3001fffffbfffd119bfffedfdb62, 0xfdfc1fd8ffe3001fffffbfffd119bfffedfdf22,
  0xfdfc1fd8ffe3001fffffbfffd119bfffedfdb27, 0xfdfc1fd8ffe3001fffffbfffff19ffffedfff62]

/-- The lists of contexts. -/
def contextTable : List (List (List Nat)) := [
  [[1]],
  [[7]],
  [[8, 345], [85, 360]],
  [[8, 92, 345], [85, 141, 360]],
  [[154]],
  [[146, 153], [79, 104], [92, 114]],
  [[47], [223], [211], [219], [230], [218], [224], [243], [225], [260], [254], [234], [261],
    [268], [269], [270], [300], [280], [282], [283], [288], [304], [314], [296]],
  [[47], [281], [326]],
  [[49, 240], [58, 249], [61, 254], [67, 261], [70, 263], [74, 269], [81, 270], [93, 273], [156,
    304], [116, 283], [123, 288], [159, 314], [136, 296]],
  [[69, 345], [69, 360]],
  [[80, 47], [80, 281], [80, 326]],
  [[79, 47], [79, 281], [79, 326]],
  [[113, 47], [113, 281], [113, 326]],
  [[80, 3]],
  [[74], [164]],
  [[74, 354], [159, 363], [136, 358]],
  [[49], [58], [61], [67], [70], [74], [81], [93], [156], [116], [123], [159], [136]],
  [[31, 189], [43, 195], [49, 205], [51, 208], [58, 213], [61, 216], [67, 221], [74, 228], [81,
    229], [153, 293], [104, 247], [114, 256], [116, 257], [123, 267], [136, 274], [156, 295],
    [159, 298]],
  [[31, 189], [43, 195], [49, 205], [51, 208], [58, 213], [61, 216], [67, 221], [74, 228], [81,
    229], [104, 247], [114, 256], [116, 257], [123, 267], [136, 274], [153, 293], [156, 295],
    [159, 298]],
  [[49, 205, 27], [49, 205, 49], [58, 213, 58], [61, 216, 61], [67, 221, 67], [74, 228, 74], [81,
    229, 81], [103, 245, 11], [116, 257, 116], [123, 267, 123], [156, 295, 156], [159, 298, 159],
    [136, 274, 136]],
  [[67, 221], [74, 228], [81, 229], [159, 298], [136, 274]],
  [[189, 43, 203], [195, 43, 203], [205, 58, 213], [208, 60, 222], [213, 58, 213], [216, 70, 222],
    [221, 74, 228], [228, 74, 228], [229, 93, 237], [247, 104, 257], [256, 114, 267], [257, 116,
    257], [267, 123, 267], [274, 136, 274], [293, 153, 295], [295, 156, 295], [298, 159, 298]],
  [[189, 43, 195], [195, 43, 195], [205, 58, 213], [208, 60, 215], [213, 58, 213], [216, 70, 222],
    [221, 74, 228], [228, 74, 228], [229, 93, 237], [247, 104, 247], [256, 114, 256], [257, 116,
    257], [267, 123, 267], [274, 136, 274], [293, 153, 293], [295, 156, 295], [298, 159, 298]],
  [[255], [281], [301], [326]],
  [[272, 329, 338, 272], [213, 311, 376, 249], [269, 324, 328, 269], [228, 324, 376, 269], [313,
    350, 359, 313], [283, 337, 341, 283], [295, 346, 382, 304], [257, 337, 377, 283], [267, 339,
    381, 288], [326, 356, 359, 326], [298, 351, 382, 314], [274, 342, 381, 296]],
  [[189, 31, 223], [195, 43, 230], [203, 43, 238], [205, 49, 240], [208, 51, 243], [213, 58, 249],
    [215, 60, 253], [216, 61, 254], [221, 67, 261], [222, 60, 263], [222, 70, 263], [228, 74,
    269], [229, 81, 270], [237, 93, 273], [293, 153, 300], [247, 104, 280], [256, 114, 282], [257,
    104, 283], [257, 116, 283], [267, 114, 288], [267, 123, 288], [295, 153, 304], [295, 156,
    304], [298, 159, 314], [274, 136, 296]],
  [[180, 211], [184, 218], [185, 219], [189, 223], [191, 224], [195, 230], [208, 243], [193, 225],
    [220, 260], [181, 277], [216, 254], [200, 234], [221, 261], [223, 223], [211, 211], [219,
    219], [225, 225], [227, 268], [228, 269], [229, 270], [230, 230], [218, 218], [224, 224],
    [234, 234], [243, 243], [247, 280], [254, 254], [256, 282], [257, 283], [260, 260], [261,
    261], [267, 288], [268, 268], [269, 269], [270, 270], [274, 296], [280, 280], [282, 282],
    [283, 283], [288, 288], [293, 300], [295, 304], [296, 296], [298, 314], [300, 300], [304,
    304], [314, 314]],
  [[223, 189, 31, 4], [230, 195, 43, 4], [238, 203, 43, 4], [240, 205, 49, 4], [243, 208, 51, 4],
    [249, 213, 58, 4], [253, 215, 60, 4], [254, 216, 61, 4], [261, 221, 67, 4], [263, 222, 60, 4],
    [263, 222, 70, 4], [269, 228, 74, 4], [270, 229, 81, 4], [273, 237, 93, 4], [300, 293, 153,
    10], [280, 247, 104, 4], [282, 256, 114, 4], [283, 257, 104, 4], [283, 257, 116, 4], [288,
    267, 114, 4], [288, 267, 123, 4], [304, 295, 153, 4], [304, 295, 156, 4], [314, 298, 159, 4],
    [296, 274, 136, 4]],
  [[211, 180, 4], [218, 184, 4], [219, 185, 4], [223, 189, 4], [223, 223, 4], [211, 211, 4], [219,
    219, 4], [224, 191, 4], [230, 195, 4], [230, 230, 4], [218, 218, 4], [224, 224, 4], [243, 208,
    4], [225, 193, 4], [225, 225, 4], [243, 243, 4], [260, 220, 4], [254, 216, 4], [234, 200, 4],
    [234, 234, 4], [254, 254, 4], [260, 260, 4], [261, 221, 4], [261, 261, 4], [268, 227, 4],
    [268, 268, 4], [269, 228, 4], [269, 269, 4], [270, 229, 4], [270, 270, 4], [280, 247, 4],
    [280, 280, 4], [282, 256, 4], [282, 282, 4], [283, 257, 4], [283, 283, 4], [288, 267, 4],
    [288, 288, 4], [296, 274, 4], [296, 296, 4], [300, 293, 4], [300, 300, 4], [304, 295, 4],
    [304, 304, 4], [314, 298, 4], [314, 314, 4]],
  [[47, 47, 6], [281, 47, 6], [326, 47, 6]],
  [[47], [275], [224], [326]],
  [[240, 38], [240, 49], [249, 58], [254, 61], [261, 67], [269, 74], [270, 81], [278, 11], [283,
    116], [288, 123], [304, 156], [314, 159], [296, 136]],
  [[11, 210]],
  [[57, 231, 19]],
  [[67, 111, 239], [74, 122, 248], [81, 125, 252], [115, 143, 217], [159, 171, 309], [136, 152,
    287]],
  [[40, 231], [48, 279], [128, 259], [129, 217], [170, 321]],
  [[47, 36]],
  [[281], [326]],
  [[48, 279], [57, 231], [128, 259], [143, 217], [174, 321]],
  [[35, 47]],
  [[47]],
  [[47, 36], [281, 13], [326, 22]],
  [[26, 279, 22], [110, 271, 13], [129, 217, 13], [170, 321, 13]],
  [[47, 361, 71, 47], [72, 72, 108, 47], [84, 84, 119, 47]],
  [[72], [84], [335], [356], [361]],
  [[56, 336], [65, 303], [133, 317], [148, 299], [175, 355]],
  [[59, 31, 223, 302], [68, 43, 230, 305], [78, 49, 240, 306], [83, 51, 243, 316], [90, 58, 249,
    311], [94, 60, 253, 322], [95, 61, 254, 316], [101, 67, 261, 318], [107, 70, 263, 322], [112,
    74, 269, 324], [118, 81, 270, 327], [126, 93, 273, 331], [161, 153, 300, 346], [132, 104, 280,
    337], [139, 114, 282, 339], [140, 116, 283, 337], [145, 123, 288, 339], [163, 156, 304, 346],
    [168, 159, 314, 351], [150, 136, 296, 342]],
  [[59, 31, 223], [68, 43, 230], [78, 49, 240], [83, 51, 243], [90, 58, 249], [94, 60, 253], [95,
    61, 254], [101, 67, 261], [107, 70, 263], [112, 74, 269], [118, 81, 270], [126, 93, 273],
    [161, 153, 300], [132, 104, 280], [139, 114, 282], [140, 116, 283], [145, 123, 288], [163,
    156, 304], [168, 159, 314], [150, 136, 296]],
  [[47, 84], [47, 72], [272, 329], [269, 324], [313, 350], [326, 356]],
  [[47], [272], [269], [313], [326]],
  [[180], [184], [185], [189], [191], [195], [208], [193], [220], [216], [200], [221], [223],
    [211], [219], [225], [227], [228], [229], [230], [218], [224], [234], [243], [247], [254],
    [256], [257], [260], [261], [267], [268], [269], [270], [274], [280], [282], [283], [288],
    [293], [295], [296], [298], [300], [304], [314]],
  [[189, 31], [195, 43], [203, 43], [205, 49], [208, 51], [213, 58], [215, 60], [216, 61], [221,
    67], [222, 60], [222, 70], [228, 74], [229, 81], [237, 93], [293, 153], [247, 104], [256,
    114], [257, 104], [257, 116], [267, 114], [267, 123], [295, 153], [295, 156], [298, 159],
    [274, 136]],
  [[180], [184], [185], [189], [191], [193], [195], [200], [208], [211], [216], [218], [219],
    [220], [221], [223], [224], [225], [227], [228], [229], [230], [234], [243], [247], [254],
    [256], [257], [260], [261], [267], [268], [269], [270], [274], [280], [282], [283], [288],
    [293], [295], [296], [298], [300], [304], [314]],
  [[179, 11]],
  [[38, 196], [49, 190], [58, 197], [61, 201], [67, 204], [74, 212], [81, 214], [116, 236], [123,
    244], [136, 266], [156, 292], [159, 297]],
  [[47, 178], [211, 178], [218, 178], [219, 178], [223, 178], [224, 178], [225, 178], [230, 178],
    [234, 178], [243, 178], [254, 178], [260, 178], [261, 178], [268, 178], [269, 178], [270,
    178], [280, 178], [282, 178], [283, 178], [288, 178], [296, 178], [300, 178], [304, 178],
    [314, 178]],
  [[47, 186], [281, 186], [326, 186]],
  [[27, 190], [49, 190], [58, 197], [61, 201], [67, 204], [74, 212], [81, 214], [116, 236], [123,
    244], [136, 266], [156, 292], [159, 297]],
  [[27, 190], [50, 207], [185, 185], [191, 191], [200, 200], [216, 216], [219, 219], [220, 220],
    [221, 221], [224, 224], [227, 227], [228, 228], [229, 229], [234, 234], [254, 254], [257,
    257], [260, 260], [261, 261], [267, 267], [268, 268], [269, 269], [270, 270], [274, 274],
    [283, 283], [288, 288], [295, 295], [296, 296], [298, 298], [304, 304], [314, 314]],
  [[44, 201]],
  [[45, 207]],
  [[180, 180], [180, 184], [180, 185], [180, 189], [180, 191], [180, 193], [180, 195], [180, 200],
    [180, 208], [180, 211], [180, 216], [180, 218], [180, 219], [180, 220], [180, 221], [180,
    223], [180, 224], [180, 225], [180, 227], [180, 228], [180, 229], [180, 230], [180, 234],
    [180, 243], [180, 247], [180, 254], [180, 256], [180, 257], [180, 260], [180, 261], [180,
    267], [180, 268], [180, 269], [180, 270], [180, 274], [180, 280], [180, 282], [180, 283],
    [180, 288], [180, 293], [180, 295], [180, 296], [180, 298], [180, 300], [180, 304], [180,
    314]],
  [[180], [189], [193], [208], [216], [220], [221], [223], [230]],
  [[180, 191], [184, 191], [185, 191], [189, 203], [191, 191], [193, 206], [195, 203], [200, 206],
    [208, 222], [211, 224], [216, 222], [218, 224], [219, 224], [220, 227], [221, 228], [223,
    238], [224, 224], [225, 242], [227, 227], [228, 228], [229, 237], [230, 238], [234, 242],
    [243, 263], [247, 257], [254, 263], [256, 267], [257, 257], [260, 268], [261, 269], [267,
    267], [268, 268], [269, 269], [270, 273], [274, 274], [280, 283], [282, 288], [283, 283],
    [288, 288], [293, 295], [295, 295], [296, 296], [298, 298], [300, 304], [304, 304], [314,
    314]],
  [[180, 184], [184, 184], [185, 191], [189, 195], [191, 191], [193, 199], [195, 195], [200, 206],
    [208, 215], [211, 218], [216, 222], [218, 218], [219, 224], [220, 227], [221, 228], [223,
    230], [224, 224], [225, 233], [227, 227], [228, 228], [229, 237], [230, 230], [234, 242],
    [243, 253], [247, 247], [254, 263], [256, 256], [257, 257], [260, 268], [261, 269], [267,
    267], [268, 268], [269, 269], [270, 273], [274, 274], [280, 280], [282, 282], [283, 283],
    [288, 288], [293, 293], [295, 295], [296, 296], [298, 298], [300, 300], [304, 304], [314,
    314]],
  [[47, 209], [211, 218], [218, 218], [219, 224], [223, 230], [224, 224], [225, 233], [230, 230],
    [234, 242], [243, 253], [254, 263], [260, 268], [261, 269], [268, 268], [269, 269], [270,
    273], [280, 280], [282, 282], [283, 283], [288, 288], [296, 296], [300, 300], [304, 304],
    [314, 314]],
  [[190, 49], [196, 38], [197, 58], [201, 61], [204, 67], [212, 74], [214, 81], [236, 116], [244,
    123], [266, 136], [292, 156], [297, 159]],
  [[196, 38], [190, 49], [197, 58], [201, 61], [204, 67], [212, 74], [214, 81], [236, 116], [244,
    123], [266, 136], [292, 156], [297, 159]],
  [[34, 193]],
  [[12, 182], [23, 183], [25, 188], [33, 192]],
  [[185, 185], [191, 191], [200, 200], [207, 50], [216, 216], [219, 219], [220, 220], [221, 221],
    [224, 224], [227, 227], [228, 228], [229, 229], [234, 234], [254, 254], [257, 257], [260,
    260], [261, 261], [267, 267], [268, 268], [269, 269], [270, 270], [274, 274], [283, 283],
    [288, 288], [295, 295], [296, 296], [298, 298], [304, 304], [314, 314]],
  [[47, 202], [180, 180], [184, 184], [185, 185], [189, 189], [191, 191], [193, 193], [195, 195],
    [200, 200], [208, 208], [211, 211], [216, 216], [218, 218], [219, 219], [220, 220], [221,
    221], [223, 223], [224, 224], [225, 225], [227, 227], [228, 228], [229, 229], [230, 230],
    [234, 234], [243, 243], [247, 247], [254, 254], [256, 256], [257, 257], [260, 260], [261,
    261], [267, 267], [268, 268], [269, 269], [270, 270], [274, 274], [280, 280], [282, 282],
    [283, 283], [288, 288], [293, 293], [295, 295], [296, 296], [298, 298], [300, 300], [304,
    304], [314, 314]],
  [[180], [184], [185], [189], [191], [195], [208], [193], [220], [216], [200], [221], [223],
    [211], [219], [225], [227], [228], [229], [230], [218], [224], [234], [243], [254], [260],
    [261], [268], [269], [270], [293], [247], [256], [257], [267], [274], [280], [282], [283],
    [288], [295], [296], [298], [300], [304], [314]],
  [[49, 205], [58, 213], [61, 216], [67, 221], [74, 228], [81, 229], [116, 257], [123, 267], [136,
    274], [156, 295], [159, 298]],
  [[40, 19, 198]],
  [[26, 246], [40, 198], [75, 196], [76, 197], [82, 201], [89, 204], [100, 212], [106, 214], [129,
    181], [130, 236], [137, 244], [147, 266], [160, 292], [165, 297]],
  [[27, 49], [74, 74], [164, 164]],
  [[79, 104], [92, 114], [146, 153]],
  [[31, 43], [43, 43], [49, 58], [51, 60], [58, 58], [60, 60], [61, 70], [67, 74], [70, 70], [74,
    74], [81, 93], [93, 93], [104, 104], [114, 114], [116, 116], [123, 123], [136, 136], [153,
    153], [156, 156], [159, 159]],
  [[20, 46]],
  [[110, 31], [170, 31]],
  [[35, 51]],
  [[180, 211], [184, 218], [185, 219], [189, 223], [191, 224], [195, 230], [208, 243], [193, 225],
    [220, 260], [216, 254], [200, 234], [221, 261], [223, 223], [211, 211], [219, 219], [225,
    225], [227, 268], [228, 269], [229, 270], [230, 230], [218, 218], [224, 224], [234, 234],
    [243, 243], [247, 280], [254, 254], [256, 282], [257, 283], [260, 260], [261, 261], [267,
    288], [268, 268], [269, 269], [270, 270], [274, 296], [280, 280], [282, 282], [283, 283],
    [288, 288], [293, 300], [295, 304], [296, 296], [298, 314], [300, 300], [304, 304], [314,
    314]],
  [[189, 31, 223], [195, 43, 230], [203, 43, 238], [205, 49, 240], [208, 51, 243], [213, 58, 249],
    [215, 60, 253], [216, 61, 254], [221, 67, 261], [222, 60, 263], [222, 70, 263], [228, 74,
    269], [229, 81, 270], [237, 93, 273], [293, 153, 300], [247, 104, 280], [256, 114, 282], [257,
    104, 283], [257, 116, 283], [267, 114, 288], [267, 123, 288], [274, 136, 296], [295, 153,
    304], [295, 156, 304], [298, 159, 314]],
  [[47], [121], [122], [138], [174]],
  [[47], [128], [174], [281], [326]],
  [[180, 211, 211], [181, 277, 217], [184, 218, 218], [185, 219, 219], [189, 223, 223], [191, 224,
    224], [193, 225, 225], [195, 230, 230], [200, 234, 234], [208, 243, 243], [211, 211, 211],
    [216, 254, 254], [218, 218, 218], [219, 219, 219], [220, 260, 260], [221, 261, 261], [223,
    223, 223], [224, 224, 224], [225, 225, 225], [227, 268, 268], [228, 269, 269], [229, 270,
    270], [230, 230, 230], [234, 234, 234], [243, 243, 243], [247, 280, 280], [254, 254, 254],
    [256, 282, 282], [257, 283, 283], [260, 260, 260], [261, 261, 261], [267, 288, 288], [268,
    268, 268], [269, 269, 269], [270, 270, 270], [274, 296, 296], [280, 280, 280], [282, 282,
    282], [283, 283, 283], [288, 288, 288], [293, 300, 300], [295, 304, 304], [296, 296, 296],
    [298, 314, 314], [300, 300, 300], [304, 304, 304], [314, 314, 314]],
  [[47, 32], [121, 32], [122, 32], [138, 32], [174, 32], [276, 32], [270, 32], [281, 32], [326,
    32]],
  [[15]],
  [[4, 36]],
  [[24]],
  [[36]],
  [[74, 13], [159, 13], [136, 13]],
  [[102], [119], [108], [169], [265], [286], [330], [338], [354], [358], [359], [363], [365],
    [372], [370], [376], [381], [382]],
  [[232, 11], [364, 27], [364, 49], [364, 67], [365, 58], [365, 74], [366, 11], [367, 116], [368,
    61], [368, 81], [370, 123], [372, 156], [372, 159], [370, 136]],
  [[11, 232]],
  [[67, 250], [74, 262], [81, 264], [115, 241], [159, 315], [136, 294]],
  [[84], [72], [335], [356]],
  [[47, 47], [281, 47], [326, 47]],
  [[48, 336], [57, 303], [128, 317], [143, 299], [174, 355]],
  [[9], [119], [108], [338], [359], [376], [382], [381]],
  [[308, 11], [375, 27], [375, 49], [375, 67], [376, 58], [376, 74], [377, 116], [378, 61], [378,
    81], [379, 11], [381, 123], [382, 156], [382, 159], [381, 136]],
  [[11, 308]],
  [[40, 374, 19]],
  [[65, 374, 19]],
  [[9, 91]],
  [[47, 71], [281, 71], [326, 71]],
  [[74, 96], [164, 96]],
  [[67, 89, 312], [74, 100, 319], [81, 106, 323], [115, 129, 307], [159, 165, 352], [136, 147,
    340]],
  [[67, 120, 312], [74, 127, 319], [81, 131, 323], [115, 148, 307], [159, 172, 352], [136, 155,
    340]],
  [[26, 380], [37, 307]],
  [[26, 343], [40, 320], [48, 380], [57, 374], [128, 325], [143, 307], [174, 357]],
  [[56, 380], [64, 307]],
  [[53], [54], [63], [110], [119], [108], [147], [194], [265], [338], [359], [376], [382], [381]],
  [[149], [92]],
  [[84], [72], [128], [174], [335], [356]],
  [[5], [102], [119], [108], [169], [265], [285], [251], [333], [338], [354], [358], [359], [363],
    [369], [373], [371], [376], [381], [382]],
  [[52], [134], [176], [290], [235], [334]],
  [[47], [128], [152], [187], [265], [281], [326]],
  [[26, 279], [40, 231], [110, 259], [129, 217], [170, 321]],
  [[230, 258], [249, 269], [269, 269], [280, 289], [283, 289], [310, 326], [313, 326], [326, 326]],
  [[47], [110], [128], [170], [174], [281], [326]],
  [[345], [360]],
  [[347, 348]],
  [[53], [54], [63]],
  [[7, 54]],
  [[54]],
  [[52, 53], [134, 53], [176, 53], [235, 53], [290, 53], [334, 53]],
  [[47, 53], [128, 53], [152, 53], [187, 53], [265, 53], [281, 53], [326, 53]],
  [[47, 53], [128, 53], [174, 53], [281, 53], [326, 53]],
  [[47, 63], [128, 63], [174, 63], [281, 63], [326, 63]],
  [[53], [63]],
  [[63, 21]],
  [[52], [134], [176], [235], [290], [334]],
  [[47], [128], [174]],
  [[38], [49], [58], [61], [67], [74], [81], [116], [123], [156], [159], [136]],
  [[11]],
  [[47], [211], [218], [219], [223], [224], [225], [230], [234], [243], [254], [260], [261],
    [268], [269], [270], [280], [282], [283], [288], [296], [300], [304], [314]],
  [[102], [108], [119], [169], [265], [338], [354], [358], [359], [363], [376], [381], [382]],
  [[102], [169], [265]],
  [[91], [102], [151], [265]],
  [[49], [58], [61], [67], [70], [74], [81], [93], [116], [123], [156], [159], [136]],
  [[27], [49], [50], [58], [61], [67], [74], [81], [116], [123], [156], [159], [136], [185],
    [191], [200], [216], [219], [220], [221], [224], [227], [228], [229], [234], [254], [257],
    [260], [261], [267], [268], [269], [270], [274], [283], [288], [295], [296], [298], [304],
    [314]],
  [[27], [49], [58], [61], [67], [74], [81], [116], [123], [156], [159], [136]],
  [[62], [281], [326]],
  [[47, 29], [281, 29], [326, 29]],
  [[41], [345], [362]],
  [[29]],
  [[42]],
  [[18]],
  [[3]],
  [[3, 42]],
  [[92], [149]],
  [[33], [55], [353]],
  [[16], [20]],
  [[33], [55]],
  [[12], [23], [25], [33]],
  [[97], [159], [136]],
  [[109], [159], [136]],
  [[84], [72], [135], [128], [177], [174], [281], [326], [335], [356]],
  [[146], [79], [92]],
  [[31], [49], [51], [104], [114], [153]],
  [[67], [74], [81], [159], [136]],
  [[49, 27], [49, 49], [58, 58], [61, 61], [67, 67], [74, 74], [81, 81], [103, 11], [116, 116],
    [123, 123], [136, 136], [156, 156], [159, 159]],
  [[180], [189], [208], [193], [220], [216], [221], [223], [230]],
  [[180], [184], [185], [189], [191], [195], [208], [193], [216], [200], [220], [221], [223],
    [211], [219], [225], [227], [228], [229], [230], [218], [224], [234], [243], [247], [254],
    [256], [257], [260], [261], [267], [268], [269], [270], [274], [280], [282], [283], [288],
    [293], [295], [296], [298], [300], [304], [314]],
  [[84], [72], [329], [324], [337], [350], [356]],
  [[72, 226, 47], [84, 226, 47], [329, 226, 272], [324, 226, 269], [337, 226, 283], [350, 226,
    313], [356, 226, 326], [361, 226, 47]],
  [[226]],
  [[119, 47], [108, 47], [328, 269], [338, 272], [359, 313], [359, 326], [376, 249], [376, 269],
    [381, 288], [382, 304], [382, 314], [381, 296]],
  [[90, 58], [112, 74], [167, 158], [173, 164]],
  [[354], [358], [363]],
  [[189, 31], [195, 43], [203, 43], [205, 49], [208, 51], [213, 58], [215, 60], [216, 61], [221,
    67], [222, 60], [222, 70], [228, 74], [229, 81], [237, 93], [247, 104], [256, 114], [257,
    104], [257, 116], [267, 114], [267, 123], [274, 136], [293, 153], [295, 153], [295, 156],
    [298, 159]],
  [[24, 36]],
  [[47, 52], [224, 235], [275, 284], [326, 332]],
  [[52], [235], [284], [332]],
  [[52], [291], [332]],
  [[47, 21], [128, 21], [174, 21], [281, 21], [326, 21]],
  [[21]],
  [[38], [49], [58], [61], [67], [74], [81], [116], [123], [136], [156], [159]],
  [[47, 11], [281, 11], [326, 11]],
  [[20]],
  [[49], [58], [61], [67], [70], [74], [81], [93], [116], [123], [136], [156], [159]],
  [[18, 27]],
  [[27], [49], [58], [61], [67], [70], [74], [81], [93], [116], [123], [136], [156], [159]],
  [[47, 30], [281, 30], [326, 30]],
  [[28]],
  [[3, 30]],
  [[66]],
  [[34]],
  [[44]],
  [[47, 28], [281, 28], [326, 28]],
  [[45]],
  [[35]],
  [[92, 102], [149, 151]],
  [[102], [151]],
  [[344], [349]],
  [[72], [84], [128], [135], [174], [177], [281], [326], [335], [356]],
  [[2]],
  [[97], [164]],
  [[109], [164]],
  [[16, 25], [20, 33]],
  [[33, 12], [55, 12], [353, 12]],
  [[344, 23], [349, 23]],
  [[67, 77], [74, 88], [105, 117], [159, 162], [136, 142]],
  [[18, 39]],
  [[67, 77], [74, 88], [105, 117], [136, 142], [159, 162]],
  [[67], [74], [105], [136], [159]],
  [[67], [74], [105], [159], [136]],
  [[98], [166]],
  [[17, 110], [17, 170]],
  [[98, 86], [166, 164]],
  [[88, 74], [166, 164]],
  [[87], [88], [117], [162], [142]],
  [[110], [170]],
  [[110, 133], [170, 175]],
  [[73], [74], [105], [159], [136]],
  [[86], [164]],
  [[67, 111], [74, 122], [105, 138], [136, 152], [159, 171]],
  [[73], [74], [105], [136], [159]],
  [[67, 89], [74, 100], [105, 124], [136, 147], [159, 165]],
  [[67, 120], [74, 127], [105, 144], [136, 155], [159, 172]],
  [[99], [100], [124], [165], [147]],
  [[99], [100], [124], [147], [165]],
  [[128], [174]],
  [[110], [165], [147]],
  [[133], [175]],
  [[72], [84], [324], [329], [337], [350], [356]],
  [[72, 47], [84, 47], [324, 269], [329, 272], [337, 283], [350, 313], [356, 326], [361, 47]],
  [[108], [119], [338], [359], [376], [381], [382]],
  [[112], [173]],
  [[29, 44]],
  [[45, 50]],
  [[185], [191], [200], [216], [219], [220], [221], [224], [227], [228], [229], [234], [254],
    [257], [260], [261], [267], [268], [269], [270], [274], [283], [288], [295], [296], [298],
    [304], [314]],
  [[50], [185], [191], [200], [216], [219], [220], [221], [224], [227], [228], [229], [234],
    [254], [257], [260], [261], [267], [268], [269], [270], [274], [283], [288], [295], [296],
    [298], [304], [314]],
  [[157]],
  [[87, 99], [88, 100], [117, 124], [142, 147], [162, 165]],
  [[72], [84], [335], [356]],
  [[47], [269], [272], [313], [326]],
  [[31], [43], [49], [51], [58], [60], [61], [67], [70], [74], [81], [93], [104], [114], [116],
    [123], [136], [153], [156], [159]],
  [[47], [180], [184], [185], [189], [191], [193], [195], [200], [208], [211], [216], [218],
    [219], [220], [221], [223], [224], [225], [227], [228], [229], [230], [234], [243], [247],
    [254], [256], [257], [260], [261], [267], [268], [269], [270], [274], [280], [282], [283],
    [288], [293], [295], [296], [298], [300], [304], [314]],
  [[50], [255], [281], [301], [326]],
  [[344, 14], [349, 14]],
  [[14]]]

/-- The groups of items that begin with an item of a rule, each with its list of
contexts. -/
def Rule.cores : Rule → List (Nat × List Nat)
  | .program => [
    (1, [0x1, 0x11]), (1, [0x2]), (1, [0x3]), (1, [0x21]), (1, [0x22])]
  | .blockBody => [
    (199, [0x1001])]
  | .statements => [
    (3, [0x2001, 0x2011, 0x1ac001]),
    (4, [0x2002, 0x126001, 0x127001, 0x128001, 0x129001, 0x12a001, 0x2ac011]),
    (4, [0x2021, 0x126001, 0x127001, 0x128001, 0x129001, 0x12a001, 0x2ac011])]
  | .beginBlock => [
    (5, [0x3001, 0x3011]), (5, [0x3002, 0x3012]), (5, [0x3003]), (5, [0x3004]), (5, [0x3013])]
  | .endBlock => [
    (5, [0x4001, 0x4011]), (5, [0x4002, 0x4012]), (5, [0x4003]), (5, [0x4004]), (5, [0x4013])]
  | .statement => [
    (5, [0x5001]), (6, [0x5091, 0x17f001, 0x17f011])]
  | .method => [
    (7, [0x6001, 0x7001, 0x7011, 0x7021, 0x7031]), (8, [0x6002])]
  | .singletonMethod => [
    (138, [0x7002, 0x7012]), (138, [0x7003]), (8, [0x7004]), (138, [0x7022, 0x7032]),
    (56, [0x7023, 0x7033, 0x17c001, 0x17d001, 0x17d011, 0x17d041, 0x17d051, 0x17e001, 0x17e011,
      0x17e021, 0x17e031, 0x17e041, 0x17e051, 0x17e061, 0x17e071, 0x17e081, 0x17e091, 0x17e0a1,
      0x17e0b1, 0x17e0c1, 0x17e0d1, 0x17e0e1, 0x17e0f1, 0x17e101, 0x17e111, 0x17e121, 0x17e131,
      0x17e141, 0x17e151, 0x17e161, 0x17e171, 0x17e181]), (138, [0x7024, 0x7034]),
    (138, [0x7025]), (8, [0x7026]), (138, [0x7035]), (8, [0x7036])]
  | .methodRest => [
    (138, [0x8001, 0x8011, 0x8021, 0x8031, 0x8041, 0x8051, 0x8061, 0x8071, 0x8081, 0x8091]),
    (8, [0x8002]), (8, [0x8012, 0x8022]), (138, [0x8012, 0x8022, 0x8032, 0x8042, 0x8052]),
    (8, [0x8013, 0x8023]), (8, [0x8014]), (8, [0x8015]), (8, [0x8024]), (8, [0x8033]),
    (8, [0x8034]), (8, [0x8043]), (8, [0x8053]), (8, [0x8082, 0x8092]), (8, [0x8083]),
    (8, [0x8084]), (8, [0x8093])]
  | .rescuedArg => [
    (66, [0x9001, 0xb002, 0x17c001, 0x17d001, 0x17d011, 0x17d041, 0x17d051, 0x17e001, 0x17e011,
      0x17e021, 0x17e031, 0x17e041, 0x17e051, 0x17e061, 0x17e071, 0x17e081, 0x17e091, 0x17e0a1,
      0x17e0b1, 0x17e0c1, 0x17e0d1, 0x17e0e1, 0x17e0f1, 0x17e101, 0x17e111, 0x17e121, 0x17e131,
      0x17e141, 0x17e151, 0x17e161, 0x17e171, 0x17e181]),
    (22, [0x9001, 0x15e0d1, 0x15f001, 0x160001, 0x78003, 0x27c001, 0x27d001, 0x27d011, 0x27d041,
      0x27d051, 0x27e001, 0x27e011, 0x27e021, 0x27e031, 0x27e041, 0x27e051, 0x27e061, 0x27e071,
      0x27e081, 0x27e091, 0x27e0a1, 0x27e0b1, 0x27e0c1, 0x27e0d1, 0x27e0e1, 0x27e0f1, 0x27e101,
      0x27e111, 0x27e121, 0x27e131, 0x27e141, 0x27e151, 0x27e161, 0x27e171, 0x27e181, 0x87001,
      0x87011]),
    (23, [0x9001, 0x15e0d1, 0x15f001, 0x160001, 0x7a003, 0x27c001, 0x27d001, 0x27d011, 0x27d041,
      0x27d051, 0x27e001, 0x27e011, 0x27e021, 0x27e031, 0x27e041, 0x27e051, 0x27e061, 0x27e071,
      0x27e081, 0x27e091, 0x27e0a1, 0x27e0b1, 0x27e0c1, 0x27e0d1, 0x27e0e1, 0x27e0f1, 0x27e101,
      0x27e111, 0x27e121, 0x27e131, 0x27e141, 0x27e151, 0x27e161, 0x27e171, 0x27e181]),
    (64, [0x9001, 0x78003, 0x17c001, 0x17d001, 0x17d011, 0x17d041, 0x17d051, 0x17e001, 0x17e011,
      0x17e021, 0x17e031, 0x17e041, 0x17e051, 0x17e061, 0x17e071, 0x17e081, 0x17e091, 0x17e0a1,
      0x17e0b1, 0x17e0c1, 0x17e0d1, 0x17e0e1, 0x17e0f1, 0x17e101, 0x17e111, 0x17e121, 0x17e131,
      0x17e141, 0x17e151, 0x17e161, 0x17e171, 0x17e181, 0x87001, 0x87011]),
    (65, [0x9001, 0x7a003, 0x17c001, 0x17d001, 0x17d011, 0x17d041, 0x17d051, 0x17e001, 0x17e011,
      0x17e021, 0x17e031, 0x17e041, 0x17e051, 0x17e061, 0x17e071, 0x17e081, 0x17e091, 0x17e0a1,
      0x17e0b1, 0x17e0c1, 0x17e0d1, 0x17e0e1, 0x17e0f1, 0x17e101, 0x17e111, 0x17e121, 0x17e131,
      0x17e141, 0x17e151, 0x17e161, 0x17e171, 0x17e181]), (241, [0x9002]),
    (72, [0x9003, 0x17c001, 0x17d001, 0x17d011, 0x17d041, 0x17d051, 0x17e001, 0x17e011, 0x17e021,
      0x17e031, 0x17e041, 0x17e051, 0x17e061, 0x17e071, 0x17e081, 0x17e091, 0x17e0a1, 0x17e0b1,
      0x17e0c1, 0x17e0d1, 0x17e0e1, 0x17e0f1, 0x17e101, 0x17e111, 0x17e121, 0x17e131, 0x17e141,
      0x17e151, 0x17e161, 0x17e171, 0x17e181])]
  | .rescuedExpression => [
    (79, [0xa001, 0x79003, 0x17f001, 0x17f011]), (79, [0xa001, 0x7b003, 0x17f001, 0x17f011]),
    (240, [0xa002]), (15, [0xa003, 0x7f001, 0x7f011])]
  | .bodyExpression => [
    (138, [0xb001, 0xb011]), (8, [0xb012])]
  | .parameters => [
    (154, [0xc001, 0xc011, 0xc021]), (154, [0xc002, 0xc012]), (203, [0xc003, 0x1ad001]),
    (154, [0xc004]), (154, [0xc013]), (154, [0xc022])]
  | .bareParameters => [
    (155, [0xd001, 0xd011]), (202, [0xd002, 0x1ad001])]
  | .blockParameters => [
    (197, [0xe001, 0xe011, 0xe021, 0xe031, 0xe041, 0xe051, 0xe061, 0xe071, 0xe081, 0xe091, 0xe0a1,
      0xe0b1, 0xe0c1, 0xe0d1, 0xe0e1, 0xe0f1, 0xe101, 0xe111]),
    (197, [0xe002, 0xe012, 0xe022, 0xe032, 0xe042, 0xe052, 0xe062, 0xe072, 0xe082, 0xe092, 0xe0a2,
      0xe0b2]), (204, [0xe003, 0xe013, 0xe023, 0xe033, 0xe043, 0xe053, 0x1ad001]),
    (204, [0xe004, 0xe014, 0xe024, 0x1ad011]), (197, [0xe005, 0xe015]), (197, [0xe006, 0xe016]),
    (243, [0xe007, 0x1ae001]), (197, [0xe008]), (197, [0xe017]), (197, [0xe025]),
    (204, [0xe033, 0xe043, 0xe053, 0x1ad011]), (197, [0xe034, 0xe044]), (197, [0xe035, 0xe045]),
    (243, [0xe036, 0x1ae001]), (197, [0xe037]), (197, [0xe046]), (197, [0xe054]),
    (197, [0xe092, 0xe0a2, 0xe0b2]), (197, [0xe093, 0xe0a3]), (197, [0xe094, 0xe0a4]),
    (243, [0xe095, 0x1ae001]), (197, [0xe096]), (197, [0xe0a5]), (197, [0xe0b3]),
    (197, [0xe0f2, 0xe102]), (197, [0xe0f3, 0xe103]), (243, [0xe0f4, 0x1ae001]), (197, [0xe0f5]),
    (197, [0xe104]), (197, [0xe112])]
  | .formalParameter => [
    (156, [0xf001]), (156, [0xf011])]
  | .simpleParameter => [
    (156, [0x10001]), (157, [0x10001, 0x16001, 0x16011, 0x17001])]
  | .forwardParameter => [
    (156, [0x11001])]
  | .splatParameter => [
    (158, [0x12001, 0x12011]), (93, [0x12001, 0x12011, 0x18b001, 0x18b011]), (200, [0x12002]),
    (108, [0x12002, 0x18f001])]
  | .hashSplatParameter => [
    (159, [0x13001, 0x13011, 0x14001]), (201, [0x13002])]
  | .hashSplatNil => [
    (201, [0x14002])]
  | .blockParameter => [
    (156, [0x15001, 0x15011]), (156, [0x15002])]
  | .keywordParameter => [
    (157, [0x16002, 0x16012]),
    (70, [0x16003, 0x17c001, 0x17d001, 0x17d011, 0x17d041, 0x17d051, 0x17e001, 0x17e011, 0x17e021,
      0x17e031, 0x17e041, 0x17e051, 0x17e061, 0x17e071, 0x17e081, 0x17e091, 0x17e0a1, 0x17e0b1,
      0x17e0c1, 0x17e0d1, 0x17e0e1, 0x17e0f1, 0x17e101, 0x17e111, 0x17e121, 0x17e131, 0x17e141,
      0x17e151, 0x17e161, 0x17e171, 0x17e181])]
  | .optionalParameter => [
    (157, [0x17002]),
    (70, [0x17003, 0x17c001, 0x17d001, 0x17d011, 0x17d041, 0x17d051, 0x17e001, 0x17e011, 0x17e021,
      0x17e031, 0x17e041, 0x17e051, 0x17e061, 0x17e071, 0x17e081, 0x17e091, 0x17e0a1, 0x17e0b1,
      0x17e0c1, 0x17e0d1, 0x17e0e1, 0x17e0f1, 0x17e101, 0x17e111, 0x17e121, 0x17e131, 0x17e141,
      0x17e151, 0x17e161, 0x17e171, 0x17e181])]
  | .classDefinition => [
    (8, [0x18001, 0x18011, 0x18021, 0x18031, 0x18041, 0x18051, 0x18061, 0x18071, 0x18081, 0x18091,
      0x180a1, 0x180b1, 0x1a001, 0x1a011]),
    (99, [0x18002, 0x18012, 0x18022, 0x18032, 0x18042, 0x18052, 0x18e001]),
    (107, [0x18002, 0x18012, 0x18022, 0x18032, 0x18042, 0x18052, 0x18f001]),
    (8, [0x18003, 0x18013]), (8, [0x18004, 0x18014]), (8, [0x18005]), (8, [0x18006]),
    (8, [0x18015]), (8, [0x18023, 0x18033]), (8, [0x18024]), (8, [0x18025]), (8, [0x18034]),
    (8, [0x18043]), (8, [0x18044]), (8, [0x18053])]
  | .superclass => [
    (182, [0x19001]), (80, [0x19002, 0x17f001, 0x17f011])]
  | .singletonClass => [
    (8, [0x1a002, 0x1a012]),
    (57, [0x1a003, 0x1a013, 0x17c001, 0x17d001, 0x17d011, 0x17d041, 0x17d051, 0x17e001, 0x17e011,
      0x17e021, 0x17e031, 0x17e041, 0x17e051, 0x17e061, 0x17e071, 0x17e081, 0x17e091, 0x17e0a1,
      0x17e0b1, 0x17e0c1, 0x17e0d1, 0x17e0e1, 0x17e0f1, 0x17e101, 0x17e111, 0x17e121, 0x17e131,
      0x17e141, 0x17e151, 0x17e161, 0x17e171, 0x17e181]), (8, [0x1a004, 0x1a014]), (8, [0x1a005]),
    (8, [0x1a006]), (8, [0x1a015])]
  | .moduleDefinition => [
    (8, [0x1b001, 0x1b011, 0x1b021, 0x1b031, 0x1b041, 0x1b051, 0x1b061, 0x1b071]),
    (99, [0x1b002, 0x1b012, 0x1b022, 0x1b032, 0x18e001]),
    (107, [0x1b002, 0x1b012, 0x1b022, 0x1b032, 0x18f001]), (8, [0x1b003, 0x1b013]),
    (8, [0x1b004]), (8, [0x1b005]), (8, [0x1b014]), (8, [0x1b023]), (8, [0x1b024]),
    (8, [0x1b033])]
  | .returnCommand => [
    (9, [0x1c001, 0x120001, 0x120011]), (15, [0x1c002])]
  | .yieldCommand => [
    (9, [0x1d001, 0x121001, 0x121011]), (15, [0x1d002])]
  | .breakCommand => [
    (9, [0x1e001, 0x122001, 0x122011]), (15, [0x1e002])]
  | .nextCommand => [
    (9, [0x1f001, 0x123001, 0x123011]), (15, [0x1f002])]
  | .returnJump => [
    (8, [0x20001, 0x20011]), (8, [0x20002])]
  | .yieldJump => [
    (8, [0x21001, 0x21011]), (8, [0x21002])]
  | .breakJump => [
    (8, [0x22001, 0x22011]), (8, [0x22002])]
  | .nextJump => [
    (8, [0x23001, 0x23011]), (8, [0x23002])]
  | .redoJump => [
    (8, [0x24001, 0x24011]), (8, [0x24002])]
  | .retryJump => [
    (8, [0x25001, 0x25011]), (8, [0x25002])]
  | .ifModifier => [
    (12, [0x26001, 0x27001, 0x28001, 0x29001, 0x2a001, 0x12b002]),
    (12, [0x26001, 0x27001, 0x28001, 0x29001, 0x2a001, 0x12c002]),
    (13, [0x26001, 0x27001, 0x28001, 0x29001, 0x2a001, 0x130003, 0x130013, 0x130023, 0x130033,
      0x130043, 0x130053, 0x130063, 0x130073, 0x132003, 0x132013, 0x132023, 0x132033]),
    (13, [0x26001, 0x27001, 0x28001, 0x29001, 0x2a001, 0x130082, 0x130092, 0x1300a2, 0x1300b2,
      0x1300c2, 0x1300d2, 0x1300e2, 0x1300f2, 0x132042, 0x132052, 0x132062, 0x132072]),
    (11, [0x26001, 0x27001, 0x28001, 0x29001, 0x2a001, 0x152002, 0x152012, 0x152022, 0x152032,
      0x152042, 0x152052]),
    (11, [0x26001, 0x27001, 0x28001, 0x29001, 0x2a001, 0x153002, 0x153012, 0x153022, 0x153032,
      0x153042, 0x153052]),
    (14, [0x26001, 0x27001, 0x28001, 0x29001, 0x2a001, 0x154002, 0x154012, 0x154022, 0x154032,
      0x154042, 0x154052]), (10, [0x26001, 0x27001, 0x28001, 0x29001, 0x2a001, 0x1ac011]),
    (161, [0x26002]), (78, [0x26003, 0x17f001, 0x17f011])]
  | .unlessModifier => [
    (161, [0x27002]), (78, [0x27003, 0x17f001, 0x17f011])]
  | .whileModifier => [
    (161, [0x28002]), (78, [0x28003, 0x17f001, 0x17f011])]
  | .untilModifier => [
    (161, [0x29002]), (78, [0x29003, 0x17f001, 0x17f011])]
  | .rescueModifier => [
    (161, [0x2a002]), (78, [0x2a003, 0x17f001, 0x17f011])]
  | .whileLoop => [
    (8, [0x2b001]), (8, [0x2b003])]
  | .untilLoop => [
    (8, [0x2c001]), (8, [0x2c003])]
  | .forLoop => [
    (8, [0x2d001, 0x2d011]), (8, [0x2d002]),
    (30, [0x2d002, 0x164001, 0x289001, 0x289011, 0x289021, 0x289031]), (8, [0x2d003]),
    (8, [0x2d004])]
  | .inPart => [
    (190, [0x2e001]),
    (69, [0x2e002, 0x17c001, 0x17d001, 0x17d011, 0x17d041, 0x17d051, 0x17e001, 0x17e011, 0x17e021,
      0x17e031, 0x17e041, 0x17e051, 0x17e061, 0x17e071, 0x17e081, 0x17e091, 0x17e0a1, 0x17e0b1,
      0x17e0c1, 0x17e0d1, 0x17e0e1, 0x17e0f1, 0x17e101, 0x17e111, 0x17e121, 0x17e131, 0x17e141,
      0x17e151, 0x17e161, 0x17e171, 0x17e181])]
  | .doPart => [
    (8, [0x2f001, 0x2f011]), (8, [0x2f002]), (8, [0x2f003]), (8, [0x2f012])]
  | .caseWhen => [
    (8, [0x30001, 0x30011, 0x30021, 0x30031, 0x30041, 0x30051, 0x30061, 0x30071, 0x30081, 0x30091,
      0x300a1, 0x300b1, 0x300c1, 0x300d1, 0x300e1, 0x300f1, 0x30101, 0x30111, 0x30121, 0x30131,
      0x30141, 0x30151, 0x30161, 0x30171, 0x32001, 0x32011, 0x32021, 0x32031, 0x32041, 0x32051,
      0x32061, 0x32071]),
    (146, [0x30002, 0x30012, 0x30022, 0x30032, 0x30042, 0x30052, 0x30062, 0x30072, 0x32002,
      0x32012, 0x32022, 0x32032, 0x1ab001]),
    (8, [0x30004, 0x30014, 0x30024, 0x30034, 0x32004, 0x32014]),
    (146, [0x30005, 0x30015, 0x1af001]), (8, [0x30006]), (8, [0x30007]), (8, [0x30016]),
    (8, [0x30025]), (8, [0x30026]), (8, [0x30035]), (146, [0x30044, 0x30054, 0x1af001]),
    (8, [0x30045]), (8, [0x30046]), (8, [0x30055]), (8, [0x30064]), (8, [0x30065]),
    (8, [0x30074]), (8, [0x30083, 0x30093, 0x300a3, 0x300b3, 0x32043, 0x32053]),
    (146, [0x30084, 0x30094, 0x1af001]), (8, [0x30085]), (8, [0x30086]), (8, [0x30095]),
    (8, [0x300a4]), (8, [0x300a5]), (8, [0x300b4]), (146, [0x300c3, 0x300d3, 0x1af001]),
    (8, [0x300c4]), (8, [0x300c5]), (8, [0x300d4]), (8, [0x300e3]), (8, [0x300e4]),
    (8, [0x300f3]), (8, [0x30102, 0x30112, 0x30122, 0x30132]),
    (146, [0x30103, 0x30113, 0x1af001]), (8, [0x30104]), (8, [0x30105]), (8, [0x30113]),
    (8, [0x30114]), (146, [0x30122, 0x30132, 0x1af001]), (8, [0x30132]), (8, [0x30133]),
    (8, [0x30172])]
  | .whenClause => [
    (148, [0x31001, 0x31011, 0x31021, 0x31031]), (148, [0x31002, 0x31012, 0x31022, 0x31032]),
    (232, [0x31003, 0x31013, 0x1b0001]), (148, [0x31004, 0x56001, 0x56011, 0x56021]),
    (148, [0x31014]), (148, [0x31023, 0x56001, 0x56011, 0x56021]), (148, [0x31033])]
  | .caseIn => [
    (192, [0x32005, 0x32015, 0x1b1001]), (8, [0x32006]), (8, [0x32007]), (8, [0x32016]),
    (192, [0x32024, 0x32034, 0x1b1001]), (8, [0x32025]), (8, [0x32026]), (8, [0x32035]),
    (192, [0x32044, 0x32054, 0x1b1001]), (8, [0x32045]), (8, [0x32046]), (8, [0x32055]),
    (192, [0x32063, 0x32073, 0x1b1001]), (8, [0x32064]), (8, [0x32065]), (8, [0x32074])]
  | .inClause => [
    (187, [0x33001, 0x33011, 0x33021, 0x33031]), (187, [0x33002, 0x33012, 0x33022, 0x33032]),
    (187, [0x33003, 0x33013]), (187, [0x33004, 0x56001, 0x56011, 0x56021]), (187, [0x33014]),
    (187, [0x33023, 0x56001, 0x56011, 0x56021]), (187, [0x33033])]
  | .whenPattern => [
    (60, [0x34001, 0x17c001, 0x17d001, 0x17d011, 0x17d041, 0x17d051, 0x17e001, 0x17e011, 0x17e021,
      0x17e031, 0x17e041, 0x17e051, 0x17e061, 0x17e071, 0x17e081, 0x17e091, 0x17e0a1, 0x17e0b1,
      0x17e0c1, 0x17e0d1, 0x17e0e1, 0x17e0f1, 0x17e101, 0x17e111, 0x17e121, 0x17e131, 0x17e141,
      0x17e151, 0x17e161, 0x17e171, 0x17e181]), (191, [0x34011])]
  | .guard => [
    (194, [0x35001])]
  | .ifGuard => [
    (194, [0x36001]), (82, [0x36002, 0x17f001, 0x17f011])]
  | .unlessGuard => [
    (194, [0x37001]), (82, [0x37002, 0x17f001, 0x17f011])]
  | .topPattern => [
    (205, [0x38001, 0x39001, 0x39011, 0x39021, 0x13b001]), (15, [0x38011]), (15, [0x38021]),
    (15, [0x38031])]
  | .arrayPatternItems => [
    (207, [0x39001, 0x39011, 0x39013, 0x39021, 0x13b001]),
    (206, [0x39001, 0x39011, 0x39021, 0x13b001, 0x3e001]), (208, [0x39002, 0x39012, 0x39022]),
    (15, [0x39023]), (208, [0x39031, 0x39041]), (209, [0x39031, 0x39041, 0x40001]),
    (208, [0x39032, 0x40002, 0xb2001]), (208, [0x39032, 0xb2001])]
  | .patternExpression => [
    (210, [0x3a001]), (210, [0x3a011])]
  | .asPattern => [
    (212, [0x3b001, 0x143003]), (212, [0x3b001, 0x143023]), (211, [0x3b001, 0x147002]),
    (213, [0x3b001, 0x1b2012]), (210, [0x3b002]), (210, [0x3b003])]
  | .patternOrAlternatives => [
    (210, [0x3c001]), (214, [0x3c011, 0x3d001])]
  | .alternativePattern => [
    (237, [0x3d002, 0x1b3001])]
  | .arrayPatternBody => [
    (150, [0x3e011])]
  | .arrayPattern => [
    (215, [0x3f001, 0x3f011, 0x41001]), (120, [0x3f001, 0x3f011, 0x41001, 0x1a6001, 0x1a6011]),
    (215, [0x3f002]), (215, [0x3f003]), (215, [0x3f012]), (120, [0x3f012, 0x1a6012]),
    (216, [0x3f021, 0x3f031, 0x3f041, 0x3f051, 0x41011, 0x41021, 0x45021, 0x45031, 0x48041,
      0x151001]), (215, [0x3f022, 0x3f032, 0x41012, 0x45022]), (215, [0x3f023]), (215, [0x3f024]),
    (215, [0x3f033]), (215, [0x3f042, 0x3f052, 0x41022, 0x45032]), (215, [0x3f043]),
    (215, [0x3f044]), (215, [0x3f053])]
  | .findPatternBody => [
    (208, [0x40003, 0xb2011]), (15, [0x40004])]
  | .findPattern => [
    (215, [0x41002]), (215, [0x41003]), (215, [0x41013]), (215, [0x41014]), (215, [0x41023]),
    (215, [0x41024])]
  | .hashPatternBody => [
    (217, [0x42001, 0x42011, 0x42021, 0x42031, 0x42041, 0x42051]),
    (220, [0x42002, 0x42012, 0x42042, 0xb4001]), (218, [0x42003]),
    (220, [0x42003, 0x42043, 0xb4011]), (220, [0x42012, 0x42052, 0xb4011]), (218, [0x42031]),
    (218, [0x42044])]
  | .keywordPattern => [
    (217, [0x43001, 0x43011]), (219, [0x43001, 0x43011, 0x14c001]),
    (35, [0x43001, 0x43011, 0x14c001, 0x264001, 0x29c001]),
    (33, [0x43001, 0x43011, 0x164001, 0x19c001, 0xa8011]),
    (137, [0x43001, 0x43011, 0xa8011, 0xa8021, 0xa8031]), (220, [0x43002, 0x43012]),
    (137, [0x43002, 0x43012, 0xa8012]), (137, [0x43002, 0x43012, 0xa8012, 0xa8022, 0xa8032]),
    (220, [0x43021, 0x43031]), (221, [0x43021, 0x43031, 0x146011]),
    (109, [0x43021, 0x43031, 0x146011, 0x28f001]), (222, [0x43021, 0x43031, 0x150001]),
    (110, [0x43021, 0x43031, 0x150001, 0x28f001]), (97, [0x43021, 0x43031, 0x18c001]),
    (96, [0x43021, 0x43031, 0x18c001, 0xa8041, 0xa8051, 0xa8061]),
    (97, [0x43021, 0x43031, 0x18c011]),
    (96, [0x43021, 0x43031, 0x18c011, 0xa8041, 0xa8051, 0xa8061]),
    (103, [0x43021, 0x43031, 0x18f001, 0xa8041, 0xa8051, 0xa8061]), (220, [0x43022, 0x43032]),
    (137, [0x43022, 0x43032, 0xa8042, 0xa8052, 0xa8062])]
  | .hashPatternRest => [
    (218, [0x44001])]
  | .hashPattern => [
    (215, [0x45001, 0x45011]),
    (120, [0x45001, 0x45011, 0x1a7001, 0x1a7011, 0x1a7021, 0x1a7031, 0x1a7041, 0x1a7051, 0x1a7061,
      0x1a7071, 0x1a7081]), (215, [0x45002]), (215, [0x45003]), (215, [0x45012]),
    (120, [0x45012, 0x1a7082]), (215, [0x45023]), (215, [0x45024]), (215, [0x45033]),
    (215, [0x45034])]
  | .basicPattern => [
    (215, [0x46001]), (215, [0x46011]), (111, [0x46011, 0x18f001]),
    (104, [0x46011, 0x18f001, 0x2a8041, 0x2a8051, 0x2a8061])]
  | .parenthesizedPattern => [
    (215, [0x47001]), (43, [0x47001, 0x165001, 0x165011, 0x28a001]), (215, [0x47003])]
  | .patternValue => [
    (215, [0x48001]), (223, [0x48001, 0x49001, 0x49011, 0x49041, 0x49051]), (215, [0x48011])]
  | .patternRange => [
    (224, [0x49002, 0x49042]), (215, [0x49003]), (224, [0x49021]),
    (75, [0x49021, 0x172001, 0x27d021]), (76, [0x49021, 0x17d021]), (215, [0x49022])]
  | .patternPrimitive => [
    (225, [0x4a001])]
  | .patternLambda => [
    (225, [0x4b001]), (39, [0x4b001, 0x164001])]
  | .patternLiteral => [
    (225, [0x4c001]), (39, [0x4c001, 0x164001]), (36, [0x4c001, 0x164001, 0x19c001]),
    (34, [0x4c001, 0x164001, 0x19c001, 0x2a8011])]
  | .keywordVariable => [
    (225, [0x4d001]), (100, [0x4d001, 0x18e001]), (112, [0x4d001, 0x18f001])]
  | .variableReferencePattern => [
    (226, [0x4e001, 0x4e011, 0x4f001]), (215, [0x4e002])]
  | .expressionReferencePattern => [
    (215, [0x4f002]), (81, [0x4f003, 0x17f001, 0x17f011]), (215, [0x4f004])]
  | .patternConstant => [
    (227, [0x50001]), (113, [0x50001, 0x18f001]),
    (105, [0x50001, 0x18f001, 0x2a8041, 0x2a8051, 0x2a8061]), (227, [0x50011])]
  | .patternConstantPath => [
    (227, [0x51002]), (227, [0x51003]), (227, [0x51011]), (46, [0x51011, 0x167001]),
    (227, [0x51012]), (46, [0x51012, 0x167002])]
  | .ifThen => [
    (8, [0x52001, 0x52011, 0x52021, 0x52031, 0x52041, 0x52051]),
    (186, [0x52003, 0x52013, 0x52023, 0x156001, 0x156011, 0x156021]), (8, [0x52004]),
    (8, [0x52005]), (8, [0x52014]), (8, [0x52015]), (8, [0x52024]),
    (8, [0x52033, 0x52043, 0x52053]), (8, [0x52034]), (8, [0x52035]), (8, [0x52044]),
    (8, [0x52045]), (8, [0x52054])]
  | .unlessThen => [
    (8, [0x53001, 0x53011, 0x53021, 0x53031, 0x53041, 0x53051]),
    (186, [0x53003, 0x53013, 0x53023, 0x156001, 0x156011, 0x156021]), (8, [0x53004]),
    (8, [0x53005]), (8, [0x53014]), (8, [0x53015]), (8, [0x53024]),
    (8, [0x53033, 0x53043, 0x53053]), (8, [0x53034]), (8, [0x53035]), (8, [0x53044]),
    (8, [0x53045]), (8, [0x53054])]
  | .elsifPart => [
    (151, [0x54001, 0x54011, 0x54021, 0x54031, 0x54041, 0x54051]),
    (188, [0x54003, 0x54013, 0x54023, 0x156001, 0x156011, 0x156021]), (151, [0x54004]),
    (151, [0x54014]), (151, [0x54033, 0x54043, 0x54053]), (151, [0x54034]), (151, [0x54044])]
  | .elsePart => [
    (149, [0x55001, 0x55011, 0x55021, 0x55031]), (149, [0x55002, 0x55012]), (149, [0x55003]),
    (149, [0x55022])]
  | .thenPart => [
    (149, [0x56001, 0x56011, 0x56021, 0x59004]), (149, [0x56001, 0x56011, 0x56021, 0x59023]),
    (149, [0x56001, 0x56011, 0x56021, 0x59043]), (149, [0x56001, 0x56011, 0x56021, 0x59062]),
    (189, [0x56001, 0x56041]), (189, [0x56002]), (189, [0x56012, 0x56022]), (189, [0x56013])]
  | .beginEnd => [
    (8, [0x57001, 0x57011, 0x57021, 0x57031]), (8, [0x57002, 0x57012]), (8, [0x57003]),
    (8, [0x57004]), (8, [0x57013]), (8, [0x57022]), (8, [0x57023]), (8, [0x57032])]
  | .ensurePart => [
    (149, [0x58001, 0x58011]), (149, [0x58002])]
  | .rescuePart => [
    (149, [0x59001, 0x59011, 0x59021, 0x59031, 0x59041, 0x59051, 0x59061, 0x59071]),
    (149, [0x59002, 0x59012, 0x59022, 0x59032]), (149, [0x59003, 0x59013]), (149, [0x59014]),
    (149, [0x59033]), (149, [0x59042, 0x59052]), (149, [0x59053]), (149, [0x59072])]
  | .exceptions => [
    (61, [0x5a001, 0x5a011, 0x17c001, 0x17d001, 0x17d011, 0x17d041, 0x17d051, 0x17e001, 0x17e011,
      0x17e021, 0x17e031, 0x17e041, 0x17e051, 0x17e061, 0x17e071, 0x17e081, 0x17e091, 0x17e0a1,
      0x17e0b1, 0x17e0c1, 0x17e0d1, 0x17e0e1, 0x17e0f1, 0x17e101, 0x17e111, 0x17e121, 0x17e131,
      0x17e141, 0x17e151, 0x17e161, 0x17e171, 0x17e181]), (233, [0x5a002, 0x1b5001]),
    (193, [0x5a021, 0x5a031]), (233, [0x5a022, 0x1b5001])]
  | .exceptionVariable => [
    (194, [0x5b001]), (40, [0x5b002, 0x164001])]
  | .bodyParts => [
    (151, [0x5c001, 0x5c021]), (152, [0x5c002, 0x1b6001]), (152, [0x5c011, 0x1b6001])]
  | .body => [
    (151, [0x5d001])]
  | .expression => [
    (15, [0x5e001]), (15, [0x5e041]), (16, [0x5e041, 0x16a001, 0x16a011, 0x16a021, 0x16a031]),
    (17, [0x5e061, 0x6c011]),
    (18, [0x5e0d1, 0x5f001, 0x60001, 0x17c001, 0x17d001, 0x17d011, 0x17d041, 0x17d051, 0x17e001,
      0x17e011, 0x17e021, 0x17e031, 0x17e041, 0x17e051, 0x17e061, 0x17e071, 0x17e081, 0x17e091,
      0x17e0a1, 0x17e0b1, 0x17e0c1, 0x17e0d1, 0x17e0e1, 0x17e0f1, 0x17e101, 0x17e111, 0x17e121,
      0x17e131, 0x17e141, 0x17e151, 0x17e161, 0x17e171, 0x17e181]),
    (19, [0x5e0d1, 0x5f001, 0x60001, 0x17c001, 0x17d001, 0x17d011, 0x17d041, 0x17d051, 0x17e001,
      0x17e011, 0x17e021, 0x17e031, 0x17e041, 0x17e051, 0x17e061, 0x17e071, 0x17e081, 0x17e091,
      0x17e0a1, 0x17e0b1, 0x17e0c1, 0x17e0d1, 0x17e0e1, 0x17e0f1, 0x17e101, 0x17e111, 0x17e121,
      0x17e131, 0x17e141, 0x17e151, 0x17e161, 0x17e171, 0x17e181, 0x180002]),
    (19, [0x5e0d1, 0x5f001, 0x60001, 0x17c001, 0x17d001, 0x17d011, 0x17d041, 0x17d051, 0x17e001,
      0x17e011, 0x17e021, 0x17e031, 0x17e041, 0x17e051, 0x17e061, 0x17e071, 0x17e081, 0x17e091,
      0x17e0a1, 0x17e0b1, 0x17e0c1, 0x17e0d1, 0x17e0e1, 0x17e0f1, 0x17e101, 0x17e111, 0x17e121,
      0x17e131, 0x17e141, 0x17e151, 0x17e161, 0x17e171, 0x17e181, 0x180012]),
    (19, [0x5e0d1, 0x5f001, 0x60001, 0x17c001, 0x17d001, 0x17d011, 0x17d041, 0x17d051, 0x17e001,
      0x17e011, 0x17e021, 0x17e031, 0x17e041, 0x17e051, 0x17e061, 0x17e071, 0x17e081, 0x17e091,
      0x17e0a1, 0x17e0b1, 0x17e0c1, 0x17e0d1, 0x17e0e1, 0x17e0f1, 0x17e101, 0x17e111, 0x17e121,
      0x17e131, 0x17e141, 0x17e151, 0x17e161, 0x17e171, 0x17e181, 0x180022]),
    (21, [0x5e0d1, 0x5f001, 0x60001, 0x17c001, 0x17d001, 0x17d011, 0x17d041, 0x17d051, 0x17e001,
      0x17e011, 0x17e021, 0x17e031, 0x17e041, 0x17e051, 0x17e061, 0x17e071, 0x17e081, 0x17e091,
      0x17e0a1, 0x17e0b1, 0x17e0c1, 0x17e0d1, 0x17e0e1, 0x17e0f1, 0x17e101, 0x17e111, 0x17e121,
      0x17e131, 0x17e141, 0x17e151, 0x17e161, 0x17e171, 0x17e181, 0x180052]),
    (20, [0x5e0d1, 0x5f001, 0x60001, 0x17c001, 0x17d001, 0x17d011, 0x17d041, 0x17d051, 0x17e001,
      0x17e011, 0x17e021, 0x17e031, 0x17e041, 0x17e051, 0x17e061, 0x17e071, 0x17e081, 0x17e091,
      0x17e0a1, 0x17e0b1, 0x17e0c1, 0x17e0d1, 0x17e0e1, 0x17e0f1, 0x17e101, 0x17e111, 0x17e121,
      0x17e131, 0x17e141, 0x17e151, 0x17e161, 0x17e171, 0x17e181, 0x2a8001])]
  | .matchPattern => [
    (163, [0x5f002]), (164, [0x5f002, 0x1a8002]), (15, [0x5f003])]
  | .testPattern => [
    (163, [0x60002]), (15, [0x60003])]
  | .arg => [
    (24, [0x61001]),
    (25, [0x61011, 0x166001, 0x166011, 0x166021, 0x166031, 0x166041, 0x166051, 0x167011, 0x269001,
      0x269011, 0x269021, 0x269031, 0x36d031, 0x36d041, 0x36d081, 0x36d091, 0x36d0d1, 0x36d0e1,
      0x36d121, 0x36d161]), (24, [0x61021])]
  | .minusPower => [
    (26, [0x62001, 0x80021, 0x181021, 0x283001]), (27, [0x62001, 0x80021, 0x183001]),
    (24, [0x62002])]
  | .power => [
    (87, [0x63001, 0x183002, 0x285001]), (53, [0x63002]),
    (53, [0x63003, 0x7c001, 0x7d001, 0x7d011, 0x7d041, 0x7d051, 0x7e001, 0x7e011, 0x7e021,
      0x7e031, 0x7e041, 0x7e051, 0x7e061, 0x7e071, 0x7e081, 0x7e091, 0x7e0a1, 0x7e0b1, 0x7e0c1,
      0x7e0d1, 0x7e0e1, 0x7e0f1, 0x7e101, 0x7e111, 0x7e121, 0x7e131, 0x7e141, 0x7e151, 0x7e161,
      0x7e171, 0x7e181])]
  | .primary => [
    (8, [0x64001]),
    (28, [0x64001, 0x178001, 0x178011, 0x178021, 0x178031, 0x279001, 0x279011, 0x17a001, 0x17a011,
      0x17a021, 0x17a031, 0x17a041, 0x17a051, 0x17a061, 0x17a071, 0x17a081, 0x17a091, 0x17a0a1,
      0x17a0b1, 0x17a0c1, 0x17a0d1, 0x17a0e1, 0x17a0f1, 0x17a101, 0x17a111, 0x17a121, 0x17a131,
      0x17a141, 0x17a151, 0x17a161, 0x17a171, 0x17a181, 0x17a191, 0x27b001, 0x27b011, 0x27b021,
      0x27b031, 0x27b041, 0x27b051, 0x27b061, 0x27b071, 0x27b081, 0x27b091, 0x27b0a1, 0x27b0b1,
      0x27b0c1, 0x27b0d1, 0x27b0e1, 0x27b0f1, 0x27b101, 0x27b111, 0x27b121, 0x27b131, 0x27b141,
      0x27b151, 0x27b161, 0x27b171, 0x27b181, 0x27b191, 0x389001, 0x389011, 0x389021, 0x389031]),
    (29, [0x64001, 0x178001, 0x178011, 0x178021, 0x178031, 0x17a001, 0x17a011, 0x17a021, 0x17a031,
      0x17a041, 0x17a051, 0x17a061, 0x17a071, 0x17a081, 0x17a091, 0x17a0a1, 0x17a0b1, 0x17a0c1,
      0x17a0d1, 0x17a0e1, 0x17a0f1, 0x17a101, 0x17a111, 0x17a121, 0x17a131, 0x17a141, 0x17a151,
      0x17a161, 0x17a171, 0x17a181, 0x17a191, 0x289001, 0x289011, 0x289021, 0x289031]),
    (38, [0x64001, 0x82002]), (37, [0x64001, 0x18b002]), (31, [0x64001, 0x9c001]),
    (32, [0x64001, 0x9c001, 0x1a8011]), (37, [0x64001, 0x1b8002]), (8, [0x64021])]
  | .parenthesized => [
    (41, [0x65001, 0x65011]), (42, [0x65001, 0x65011, 0x18a001]), (8, [0x65002]), (8, [0x65003]),
    (8, [0x65012])]
  | .elementReference => [
    (44, [0x66001, 0x66011, 0x66021, 0x66031, 0x66041, 0x66051, 0x167011, 0x269001, 0x269011,
      0x269021, 0x269031, 0x36d031, 0x36d041, 0x36d081, 0x36d091, 0x36d0d1, 0x36d0e1, 0x36d121,
      0x36d161]), (167, [0x66002, 0x66012, 0x66022, 0x66032, 0x66042, 0x66052]),
    (228, [0x66003, 0x66013, 0x66023]), (228, [0x66004, 0x66014, 0x66024]), (238, [0x66005]),
    (238, [0x66015]), (228, [0x66033, 0x66043, 0x66053]), (238, [0x66034]), (238, [0x66044])]
  | .scopeResolution => [
    (45, [0x67001]), (45, [0x67002]),
    (168, [0x67012, 0x168001, 0x26d032, 0x26d082, 0x26d0d2, 0x26d122, 0x26d162]),
    (229, [0x67013, 0x16d033, 0x16d083, 0x16d0d3, 0x16d123, 0x16d163])]
  | .callOperator => [
    (169, [0x68001])]
  | .callHead => [
    (170, [0x69002, 0x69012, 0x69022, 0x69032, 0x16d042, 0x16d092, 0x16d0e2]), (230, [0x69003]),
    (230, [0x69013]), (230, [0x69023]), (230, [0x69033])]
  | .chainedCall => [
    (172, [0x6a002, 0x6a012, 0x6a022, 0x6a032]), (172, [0x6a003])]
  | .commandCallWithBlock => [
    (47, [0x6b001, 0x6b031, 0x16c001, 0x26d001, 0x26d051, 0x26d0a1, 0x26d0f1, 0x26d131,
      0x38e061]), (171, [0x6b002, 0x6b032, 0x16c002]), (231, [0x6b003]),
    (48, [0x6b011, 0x6b041, 0x16c021, 0x26d011, 0x26d061, 0x26d0b1, 0x26d101, 0x26d141,
      0x28d001]),
    (47, [0x6b011, 0x6b041, 0x16c021, 0x26d011, 0x26d061, 0x26d0b1, 0x26d101, 0x26d141,
      0x38e001]), (171, [0x6b012, 0x6b042, 0x16c022]), (231, [0x6b013]), (231, [0x6b033]),
    (231, [0x6b043])]
  | .commandCall => [
    (15, [0x6c012])]
  | .call => [
    (49, [0x6d001, 0x6d051, 0x6d0a1, 0x6d0f1, 0x6d131, 0x18e061]),
    (50, [0x6d002, 0x6d052, 0x6d0a2]),
    (50, [0x6d011, 0x6d061, 0x6d0b1, 0x6d101, 0x6d141, 0x8d001]),
    (49, [0x6d011, 0x6d061, 0x6d0b1, 0x6d101, 0x6d141, 0x18e001]),
    (50, [0x6d012, 0x6d062, 0x6d0b2]), (239, [0x6d034, 0x6d084, 0x6d0d4]),
    (50, [0x6d043, 0x6d093, 0x6d0e3]), (8, [0x6d053]), (8, [0x6d063]), (8, [0x6d085]),
    (8, [0x6d094]), (8, [0x6d0a3]), (8, [0x6d0b3]), (8, [0x6d0d5]), (8, [0x6d0e4]),
    (8, [0x6d0f2]), (8, [0x6d102]), (8, [0x6d124]), (8, [0x6d132]), (8, [0x6d142]),
    (8, [0x6d164])]
  | .commandArguments => [
    (142, [0x6e001, 0x6e011]), (183, [0x6e002, 0xb7001])]
  | .argumentList => [
    (145, [0x6f001, 0x6f011]), (145, [0x6f002]), (145, [0x6f003]), (145, [0x6f012])]
  | .argumentItems => [
    (150, [0x70001, 0x70011, 0x70021, 0x70031]), (184, [0x70002, 0x70012, 0x1b7001]),
    (184, [0x70003, 0x1b7011]), (184, [0x70022, 0x1b7011])]
  | .argument => [
    (77, [0x71001, 0x17f001, 0x17f011]), (15, [0x71011])]
  | .forwardArgument => [
    (74, [0x72001, 0x17d021])]
  | .splatArgument => [
    (143, [0x73001, 0x73011]),
    (59, [0x73002, 0x17c001, 0x17d001, 0x17d011, 0x17d041, 0x17d051, 0x17e001, 0x17e011, 0x17e021,
      0x17e031, 0x17e041, 0x17e051, 0x17e061, 0x17e071, 0x17e081, 0x17e091, 0x17e0a1, 0x17e0b1,
      0x17e0c1, 0x17e0d1, 0x17e0e1, 0x17e0f1, 0x17e101, 0x17e111, 0x17e121, 0x17e131, 0x17e141,
      0x17e151, 0x17e161, 0x17e171, 0x17e181])]
  | .hashSplatArgument => [
    (136, [0x74001, 0x74011]),
    (55, [0x74002, 0x17c001, 0x17d001, 0x17d011, 0x17d041, 0x17d051, 0x17e001, 0x17e011, 0x17e021,
      0x17e031, 0x17e041, 0x17e051, 0x17e061, 0x17e071, 0x17e081, 0x17e091, 0x17e0a1, 0x17e0b1,
      0x17e0c1, 0x17e0d1, 0x17e0e1, 0x17e0f1, 0x17e101, 0x17e111, 0x17e121, 0x17e131, 0x17e141,
      0x17e151, 0x17e161, 0x17e171, 0x17e181])]
  | .blockArgument => [
    (144, [0x75001, 0x75011]),
    (58, [0x75002, 0x17c001, 0x17d001, 0x17d011, 0x17d041, 0x17d051, 0x17e001, 0x17e011, 0x17e021,
      0x17e031, 0x17e041, 0x17e051, 0x17e061, 0x17e071, 0x17e081, 0x17e091, 0x17e0a1, 0x17e0b1,
      0x17e0c1, 0x17e0d1, 0x17e0e1, 0x17e0f1, 0x17e101, 0x17e111, 0x17e121, 0x17e131, 0x17e141,
      0x17e151, 0x17e161, 0x17e171, 0x17e181])]
  | .doBlock => [
    (160, [0x76001, 0x76011, 0x76021, 0x76031, 0x76041, 0x76051, 0x76061, 0x76071, 0x76081,
      0x76091, 0x760a1, 0x760b1]), (198, [0x76002, 0x76012, 0x76022, 0x76032, 0x76042, 0x76052]),
    (198, [0x76003, 0x76013, 0x76023, 0x76033]), (198, [0x76004, 0x76014]), (198, [0x76005]),
    (198, [0x76006]), (198, [0x76015]), (198, [0x76024]), (198, [0x76025]), (198, [0x76034]),
    (198, [0x76043]), (198, [0x76044]), (198, [0x76053]),
    (198, [0x76062, 0x76072, 0x76082, 0x76092]), (198, [0x76063, 0x76073]), (198, [0x76064]),
    (198, [0x76065]), (198, [0x76074]), (198, [0x76083]), (198, [0x76084]), (198, [0x76093]),
    (198, [0x760a2]), (198, [0x760a3]), (198, [0x760b2])]
  | .block => [
    (160, [0x77001, 0x77011, 0x77021, 0x77031]),
    (121, [0x77001, 0x77011, 0x77021, 0x77031, 0x1a7001, 0x1a7011, 0x1a7021, 0x1a7031, 0x1a7041,
      0x1a7051, 0x1a7061, 0x1a7071, 0x1a7081]), (198, [0x77002, 0x77012]), (198, [0x77003]),
    (198, [0x77004]), (198, [0x77013]), (198, [0x77022]), (198, [0x77023]), (198, [0x77032]),
    (121, [0x77032, 0x1a7082])]
  | .assignment => [
    (51, [0x78001, 0x78011, 0x78021, 0x78031]),
    (52, [0x78001, 0x78011, 0x78021, 0x78031, 0x179001, 0x179011]),
    (53, [0x78002, 0x78012, 0x78022, 0x78032]),
    (173, [0x78002, 0x78012, 0x78022, 0x78032, 0x179002, 0x179012]), (24, [0x78013]),
    (53, [0x78013, 0x87021, 0x87031])]
  | .commandAssignment => [
    (15, [0x79013])]
  | .operatorAssignment => [
    (53, [0x7a002, 0x7a012]), (173, [0x7a002, 0x7a012, 0x17b002, 0x17b012]), (24, [0x7a013])]
  | .commandOperatorAssignment => [
    (15, [0x7b013])]
  | .conditional => [
    (62, [0x7c001, 0x17c003, 0x7d001, 0x7d011, 0x7d041, 0x7d051, 0x7e001, 0x7e011, 0x7e021,
      0x7e031, 0x7e041, 0x7e051, 0x7e061, 0x7e071, 0x7e081, 0x7e091, 0x7e0a1, 0x7e0b1, 0x7e0c1,
      0x7e0d1, 0x7e0e1, 0x7e0f1, 0x7e101, 0x7e111, 0x7e121, 0x7e131, 0x7e141, 0x7e151, 0x7e161,
      0x7e171, 0x7e181]),
    (53, [0x7c001, 0x7c005, 0x7d001, 0x7d011, 0x7d041, 0x7d051, 0x7e001, 0x7e011, 0x7e021,
      0x7e031, 0x7e041, 0x7e051, 0x7e061, 0x7e071, 0x7e081, 0x7e091, 0x7e0a1, 0x7e0b1, 0x7e0c1,
      0x7e0d1, 0x7e0e1, 0x7e0f1, 0x7e101, 0x7e111, 0x7e121, 0x7e131, 0x7e141, 0x7e151, 0x7e161,
      0x7e171, 0x7e181]),
    (53, [0x7c001, 0x7d001, 0x7d003, 0x7d011, 0x7d041, 0x7d051, 0x7e001, 0x7e011, 0x7e021,
      0x7e031, 0x7e041, 0x7e051, 0x7e061, 0x7e071, 0x7e081, 0x7e091, 0x7e0a1, 0x7e0b1, 0x7e0c1,
      0x7e0d1, 0x7e0e1, 0x7e0f1, 0x7e101, 0x7e111, 0x7e121, 0x7e131, 0x7e141, 0x7e151, 0x7e161,
      0x7e171, 0x7e181]),
    (53, [0x7c001, 0x7d001, 0x7d011, 0x7d013, 0x7d041, 0x7d051, 0x7e001, 0x7e011, 0x7e021,
      0x7e031, 0x7e041, 0x7e051, 0x7e061, 0x7e071, 0x7e081, 0x7e091, 0x7e0a1, 0x7e0b1, 0x7e0c1,
      0x7e0d1, 0x7e0e1, 0x7e0f1, 0x7e101, 0x7e111, 0x7e121, 0x7e131, 0x7e141, 0x7e151, 0x7e161,
      0x7e171, 0x7e181]),
    (53, [0x7c001, 0x7d001, 0x7d011, 0x7d022, 0x7d041, 0x7d051, 0x7e001, 0x7e011, 0x7e021,
      0x7e031, 0x7e041, 0x7e051, 0x7e061, 0x7e071, 0x7e081, 0x7e091, 0x7e0a1, 0x7e0b1, 0x7e0c1,
      0x7e0d1, 0x7e0e1, 0x7e0f1, 0x7e101, 0x7e111, 0x7e121, 0x7e131, 0x7e141, 0x7e151, 0x7e161,
      0x7e171, 0x7e181]),
    (63, [0x7c001, 0x7d001, 0x7d011, 0x7d041, 0x7d051, 0x7e001, 0x7e003, 0x7e011, 0x7e021,
      0x7e031, 0x7e041, 0x7e051, 0x7e061, 0x7e071, 0x7e081, 0x7e091, 0x7e0a1, 0x7e0b1, 0x7e0c1,
      0x7e0d1, 0x7e0e1, 0x7e0f1, 0x7e101, 0x7e111, 0x7e121, 0x7e131, 0x7e141, 0x7e151, 0x7e161,
      0x7e171, 0x7e181]),
    (63, [0x7c001, 0x7d001, 0x7d011, 0x7d041, 0x7d051, 0x7e001, 0x7e011, 0x7e013, 0x7e021,
      0x7e031, 0x7e041, 0x7e051, 0x7e061, 0x7e071, 0x7e081, 0x7e091, 0x7e0a1, 0x7e0b1, 0x7e0c1,
      0x7e0d1, 0x7e0e1, 0x7e0f1, 0x7e101, 0x7e111, 0x7e121, 0x7e131, 0x7e141, 0x7e151, 0x7e161,
      0x7e171, 0x7e181]),
    (53, [0x7c001, 0x7d001, 0x7d011, 0x7d041, 0x7d051, 0x7e001, 0x7e011, 0x7e021, 0x7e023,
      0x7e031, 0x7e041, 0x7e051, 0x7e061, 0x7e071, 0x7e081, 0x7e091, 0x7e0a1, 0x7e0b1, 0x7e0c1,
      0x7e0d1, 0x7e0e1, 0x7e0f1, 0x7e101, 0x7e111, 0x7e121, 0x7e131, 0x7e141, 0x7e151, 0x7e161,
      0x7e171, 0x7e181]),
    (53, [0x7c001, 0x7d001, 0x7d011, 0x7d041, 0x7d051, 0x7e001, 0x7e011, 0x7e021, 0x7e031,
      0x7e033, 0x7e041, 0x7e051, 0x7e061, 0x7e071, 0x7e081, 0x7e091, 0x7e0a1, 0x7e0b1, 0x7e0c1,
      0x7e0d1, 0x7e0e1, 0x7e0f1, 0x7e101, 0x7e111, 0x7e121, 0x7e131, 0x7e141, 0x7e151, 0x7e161,
      0x7e171, 0x7e181]),
    (53, [0x7c001, 0x7d001, 0x7d011, 0x7d041, 0x7d051, 0x7e001, 0x7e011, 0x7e021, 0x7e031,
      0x7e041, 0x7e043, 0x7e051, 0x7e061, 0x7e071, 0x7e081, 0x7e091, 0x7e0a1, 0x7e0b1, 0x7e0c1,
      0x7e0d1, 0x7e0e1, 0x7e0f1, 0x7e101, 0x7e111, 0x7e121, 0x7e131, 0x7e141, 0x7e151, 0x7e161,
      0x7e171, 0x7e181]),
    (53, [0x7c001, 0x7d001, 0x7d011, 0x7d041, 0x7d051, 0x7e001, 0x7e011, 0x7e021, 0x7e031,
      0x7e041, 0x7e051, 0x7e053, 0x7e061, 0x7e071, 0x7e081, 0x7e091, 0x7e0a1, 0x7e0b1, 0x7e0c1,
      0x7e0d1, 0x7e0e1, 0x7e0f1, 0x7e101, 0x7e111, 0x7e121, 0x7e131, 0x7e141, 0x7e151, 0x7e161,
      0x7e171, 0x7e181]),
    (53, [0x7c001, 0x7d001, 0x7d011, 0x7d041, 0x7d051, 0x7e001, 0x7e011, 0x7e021, 0x7e031,
      0x7e041, 0x7e051, 0x7e061, 0x7e063, 0x7e071, 0x7e081, 0x7e091, 0x7e0a1, 0x7e0b1, 0x7e0c1,
      0x7e0d1, 0x7e0e1, 0x7e0f1, 0x7e101, 0x7e111, 0x7e121, 0x7e131, 0x7e141, 0x7e151, 0x7e161,
      0x7e171, 0x7e181]),
    (53, [0x7c001, 0x7d001, 0x7d011, 0x7d041, 0x7d051, 0x7e001, 0x7e011, 0x7e021, 0x7e031,
      0x7e041, 0x7e051, 0x7e061, 0x7e071, 0x7e073, 0x7e081, 0x7e091, 0x7e0a1, 0x7e0b1, 0x7e0c1,
      0x7e0d1, 0x7e0e1, 0x7e0f1, 0x7e101, 0x7e111, 0x7e121, 0x7e131, 0x7e141, 0x7e151, 0x7e161,
      0x7e171, 0x7e181]),
    (53, [0x7c001, 0x7d001, 0x7d011, 0x7d041, 0x7d051, 0x7e001, 0x7e011, 0x7e021, 0x7e031,
      0x7e041, 0x7e051, 0x7e061, 0x7e071, 0x7e081, 0x7e083, 0x7e091, 0x7e0a1, 0x7e0b1, 0x7e0c1,
      0x7e0d1, 0x7e0e1, 0x7e0f1, 0x7e101, 0x7e111, 0x7e121, 0x7e131, 0x7e141, 0x7e151, 0x7e161,
      0x7e171, 0x7e181]),
    (53, [0x7c001, 0x7d001, 0x7d011, 0x7d041, 0x7d051, 0x7e001, 0x7e011, 0x7e021, 0x7e031,
      0x7e041, 0x7e051, 0x7e061, 0x7e071, 0x7e081, 0x7e091, 0x7e093, 0x7e0a1, 0x7e0b1, 0x7e0c1,
      0x7e0d1, 0x7e0e1, 0x7e0f1, 0x7e101, 0x7e111, 0x7e121, 0x7e131, 0x7e141, 0x7e151, 0x7e161,
      0x7e171, 0x7e181]),
    (53, [0x7c001, 0x7d001, 0x7d011, 0x7d041, 0x7d051, 0x7e001, 0x7e011, 0x7e021, 0x7e031,
      0x7e041, 0x7e051, 0x7e061, 0x7e071, 0x7e081, 0x7e091, 0x7e0a1, 0x7e0a3, 0x7e0b1, 0x7e0c1,
      0x7e0d1, 0x7e0e1, 0x7e0f1, 0x7e101, 0x7e111, 0x7e121, 0x7e131, 0x7e141, 0x7e151, 0x7e161,
      0x7e171, 0x7e181]),
    (53, [0x7c001, 0x7d001, 0x7d011, 0x7d041, 0x7d051, 0x7e001, 0x7e011, 0x7e021, 0x7e031,
      0x7e041, 0x7e051, 0x7e061, 0x7e071, 0x7e081, 0x7e091, 0x7e0a1, 0x7e0b1, 0x7e0b3, 0x7e0c1,
      0x7e0d1, 0x7e0e1, 0x7e0f1, 0x7e101, 0x7e111, 0x7e121, 0x7e131, 0x7e141, 0x7e151, 0x7e161,
      0x7e171, 0x7e181]),
    (53, [0x7c001, 0x7d001, 0x7d011, 0x7d041, 0x7d051, 0x7e001, 0x7e011, 0x7e021, 0x7e031,
      0x7e041, 0x7e051, 0x7e061, 0x7e071, 0x7e081, 0x7e091, 0x7e0a1, 0x7e0b1, 0x7e0c1, 0x7e0c3,
      0x7e0d1, 0x7e0e1, 0x7e0f1, 0x7e101, 0x7e111, 0x7e121, 0x7e131, 0x7e141, 0x7e151, 0x7e161,
      0x7e171, 0x7e181]),
    (53, [0x7c001, 0x7d001, 0x7d011, 0x7d041, 0x7d051, 0x7e001, 0x7e011, 0x7e021, 0x7e031,
      0x7e041, 0x7e051, 0x7e061, 0x7e071, 0x7e081, 0x7e091, 0x7e0a1, 0x7e0b1, 0x7e0c1, 0x7e0d1,
      0x7e0d3, 0x7e0e1, 0x7e0f1, 0x7e101, 0x7e111, 0x7e121, 0x7e131, 0x7e141, 0x7e151, 0x7e161,
      0x7e171, 0x7e181]),
    (53, [0x7c001, 0x7d001, 0x7d011, 0x7d041, 0x7d051, 0x7e001, 0x7e011, 0x7e021, 0x7e031,
      0x7e041, 0x7e051, 0x7e061, 0x7e071, 0x7e081, 0x7e091, 0x7e0a1, 0x7e0b1, 0x7e0c1, 0x7e0d1,
      0x7e0e1, 0x7e0e3, 0x7e0f1, 0x7e101, 0x7e111, 0x7e121, 0x7e131, 0x7e141, 0x7e151, 0x7e161,
      0x7e171, 0x7e181]),
    (53, [0x7c001, 0x7d001, 0x7d011, 0x7d041, 0x7d051, 0x7e001, 0x7e011, 0x7e021, 0x7e031,
      0x7e041, 0x7e051, 0x7e061, 0x7e071, 0x7e081, 0x7e091, 0x7e0a1, 0x7e0b1, 0x7e0c1, 0x7e0d1,
      0x7e0e1, 0x7e0f1, 0x7e0f3, 0x7e101, 0x7e111, 0x7e121, 0x7e131, 0x7e141, 0x7e151, 0x7e161,
      0x7e171, 0x7e181]),
    (53, [0x7c001, 0x7d001, 0x7d011, 0x7d041, 0x7d051, 0x7e001, 0x7e011, 0x7e021, 0x7e031,
      0x7e041, 0x7e051, 0x7e061, 0x7e071, 0x7e081, 0x7e091, 0x7e0a1, 0x7e0b1, 0x7e0c1, 0x7e0d1,
      0x7e0e1, 0x7e0f1, 0x7e101, 0x7e103, 0x7e111, 0x7e121, 0x7e131, 0x7e141, 0x7e151, 0x7e161,
      0x7e171, 0x7e181]),
    (53, [0x7c001, 0x7d001, 0x7d011, 0x7d041, 0x7d051, 0x7e001, 0x7e011, 0x7e021, 0x7e031,
      0x7e041, 0x7e051, 0x7e061, 0x7e071, 0x7e081, 0x7e091, 0x7e0a1, 0x7e0b1, 0x7e0c1, 0x7e0d1,
      0x7e0e1, 0x7e0f1, 0x7e101, 0x7e111, 0x7e113, 0x7e121, 0x7e131, 0x7e141, 0x7e151, 0x7e161,
      0x7e171, 0x7e181]),
    (53, [0x7c001, 0x7d001, 0x7d011, 0x7d041, 0x7d051, 0x7e001, 0x7e011, 0x7e021, 0x7e031,
      0x7e041, 0x7e051, 0x7e061, 0x7e071, 0x7e081, 0x7e091, 0x7e0a1, 0x7e0b1, 0x7e0c1, 0x7e0d1,
      0x7e0e1, 0x7e0f1, 0x7e101, 0x7e111, 0x7e121, 0x7e123, 0x7e131, 0x7e141, 0x7e151, 0x7e161,
      0x7e171, 0x7e181]),
    (53, [0x7c001, 0x7d001, 0x7d011, 0x7d041, 0x7d051, 0x7e001, 0x7e011, 0x7e021, 0x7e031,
      0x7e041, 0x7e051, 0x7e061, 0x7e071, 0x7e081, 0x7e091, 0x7e0a1, 0x7e0b1, 0x7e0c1, 0x7e0d1,
      0x7e0e1, 0x7e0f1, 0x7e101, 0x7e111, 0x7e121, 0x7e131, 0x7e133, 0x7e141, 0x7e151, 0x7e161,
      0x7e171, 0x7e181]),
    (53, [0x7c001, 0x7d001, 0x7d011, 0x7d041, 0x7d051, 0x7e001, 0x7e011, 0x7e021, 0x7e031,
      0x7e041, 0x7e051, 0x7e061, 0x7e071, 0x7e081, 0x7e091, 0x7e0a1, 0x7e0b1, 0x7e0c1, 0x7e0d1,
      0x7e0e1, 0x7e0f1, 0x7e101, 0x7e111, 0x7e121, 0x7e131, 0x7e141, 0x7e143, 0x7e151, 0x7e161,
      0x7e171, 0x7e181]),
    (53, [0x7c001, 0x7d001, 0x7d011, 0x7d041, 0x7d051, 0x7e001, 0x7e011, 0x7e021, 0x7e031,
      0x7e041, 0x7e051, 0x7e061, 0x7e071, 0x7e081, 0x7e091, 0x7e0a1, 0x7e0b1, 0x7e0c1, 0x7e0d1,
      0x7e0e1, 0x7e0f1, 0x7e101, 0x7e111, 0x7e121, 0x7e131, 0x7e141, 0x7e151, 0x7e153, 0x7e161,
      0x7e171, 0x7e181]),
    (53, [0x7c001, 0x7d001, 0x7d011, 0x7d041, 0x7d051, 0x7e001, 0x7e011, 0x7e021, 0x7e031,
      0x7e041, 0x7e051, 0x7e061, 0x7e071, 0x7e081, 0x7e091, 0x7e0a1, 0x7e0b1, 0x7e0c1, 0x7e0d1,
      0x7e0e1, 0x7e0f1, 0x7e101, 0x7e111, 0x7e121, 0x7e131, 0x7e141, 0x7e151, 0x7e161, 0x7e163,
      0x7e171, 0x7e181]),
    (53, [0x7c001, 0x7d001, 0x7d011, 0x7d041, 0x7d051, 0x7e001, 0x7e011, 0x7e021, 0x7e031,
      0x7e041, 0x7e051, 0x7e061, 0x7e071, 0x7e081, 0x7e091, 0x7e0a1, 0x7e0b1, 0x7e0c1, 0x7e0d1,
      0x7e0e1, 0x7e0f1, 0x7e101, 0x7e111, 0x7e121, 0x7e131, 0x7e141, 0x7e151, 0x7e161, 0x7e171,
      0x7e173, 0x7e181]),
    (53, [0x7c001, 0x7d001, 0x7d011, 0x7d041, 0x7d051, 0x7e001, 0x7e011, 0x7e021, 0x7e031,
      0x7e041, 0x7e051, 0x7e061, 0x7e071, 0x7e081, 0x7e091, 0x7e0a1, 0x7e0b1, 0x7e0c1, 0x7e0d1,
      0x7e0e1, 0x7e0f1, 0x7e101, 0x7e111, 0x7e121, 0x7e131, 0x7e141, 0x7e151, 0x7e161, 0x7e171,
      0x7e181, 0x7e183]),
    (53, [0x7c001, 0x7d001, 0x7d011, 0x7d041, 0x7d051, 0x7e001, 0x7e011, 0x7e021, 0x7e031,
      0x7e041, 0x7e051, 0x7e061, 0x7e071, 0x7e081, 0x7e091, 0x7e0a1, 0x7e0b1, 0x7e0c1, 0x7e0d1,
      0x7e0e1, 0x7e0f1, 0x7e101, 0x7e111, 0x7e121, 0x7e131, 0x7e141, 0x7e151, 0x7e161, 0x7e171,
      0x7e181, 0x80002]),
    (53, [0x7c001, 0x7d001, 0x7d011, 0x7d041, 0x7d051, 0x7e001, 0x7e011, 0x7e021, 0x7e031,
      0x7e041, 0x7e051, 0x7e061, 0x7e071, 0x7e081, 0x7e091, 0x7e0a1, 0x7e0b1, 0x7e0c1, 0x7e0d1,
      0x7e0e1, 0x7e0f1, 0x7e101, 0x7e111, 0x7e121, 0x7e131, 0x7e141, 0x7e151, 0x7e161, 0x7e171,
      0x7e181, 0x80012]),
    (53, [0x7c001, 0x7d001, 0x7d011, 0x7d041, 0x7d051, 0x7e001, 0x7e011, 0x7e021, 0x7e031,
      0x7e041, 0x7e051, 0x7e061, 0x7e071, 0x7e081, 0x7e091, 0x7e0a1, 0x7e0b1, 0x7e0c1, 0x7e0d1,
      0x7e0e1, 0x7e0f1, 0x7e101, 0x7e111, 0x7e121, 0x7e131, 0x7e141, 0x7e151, 0x7e161, 0x7e171,
      0x7e181, 0x80022]),
    (24, [0x7c001, 0x7d001, 0x7d011, 0x7d041, 0x7d051, 0x7e001, 0x7e011, 0x7e021, 0x7e031,
      0x7e041, 0x7e051, 0x7e061, 0x7e071, 0x7e081, 0x7e091, 0x7e0a1, 0x7e0b1, 0x7e0c1, 0x7e0d1,
      0x7e0e1, 0x7e0f1, 0x7e101, 0x7e111, 0x7e121, 0x7e131, 0x7e141, 0x7e151, 0x7e161, 0x7e171,
      0x7e181, 0x80052]),
    (54, [0x7c001, 0x7d001, 0x7d011, 0x7d041, 0x7d051, 0x7e001, 0x7e011, 0x7e021, 0x7e031,
      0x7e041, 0x7e051, 0x7e061, 0x7e071, 0x7e081, 0x7e091, 0x7e0a1, 0x7e0b1, 0x7e0c1, 0x7e0d1,
      0x7e0e1, 0x7e0f1, 0x7e101, 0x7e111, 0x7e121, 0x7e131, 0x7e141, 0x7e151, 0x7e161, 0x7e171,
      0x7e181, 0x1a8001]),
    (68, [0x7c001, 0x7d001, 0x7d011, 0x7d041, 0x7d051, 0x7e001, 0x7e011, 0x7e021, 0x7e031,
      0x7e041, 0x7e051, 0x7e061, 0x7e071, 0x7e081, 0x7e091, 0x7e0a1, 0x7e0b1, 0x7e0c1, 0x7e0d1,
      0x7e0e1, 0x7e0f1, 0x7e101, 0x7e111, 0x7e121, 0x7e131, 0x7e141, 0x7e151, 0x7e161, 0x7e171,
      0x7e181, 0x1a8003]),
    (67, [0x7c001, 0x7d001, 0x7d011, 0x7d041, 0x7d051, 0x7e001, 0x7e011, 0x7e021, 0x7e031,
      0x7e041, 0x7e051, 0x7e061, 0x7e071, 0x7e081, 0x7e091, 0x7e0a1, 0x7e0b1, 0x7e0c1, 0x7e0d1,
      0x7e0e1, 0x7e0f1, 0x7e101, 0x7e111, 0x7e121, 0x7e131, 0x7e141, 0x7e151, 0x7e161, 0x7e171,
      0x7e181, 0x1a8013]),
    (67, [0x7c001, 0x7d001, 0x7d011, 0x7d041, 0x7d051, 0x7e001, 0x7e011, 0x7e021, 0x7e031,
      0x7e041, 0x7e051, 0x7e061, 0x7e071, 0x7e081, 0x7e091, 0x7e0a1, 0x7e0b1, 0x7e0c1, 0x7e0d1,
      0x7e0e1, 0x7e0f1, 0x7e101, 0x7e111, 0x7e121, 0x7e131, 0x7e141, 0x7e151, 0x7e161, 0x7e171,
      0x7e181, 0x1a8043]),
    (71, [0x7c001, 0x7d001, 0x7d011, 0x7d041, 0x7d051, 0x7e001, 0x7e011, 0x7e021, 0x7e031,
      0x7e041, 0x7e051, 0x7e061, 0x7e071, 0x7e081, 0x7e091, 0x7e0a1, 0x7e0b1, 0x7e0c1, 0x7e0d1,
      0x7e0e1, 0x7e0f1, 0x7e101, 0x7e111, 0x7e121, 0x7e131, 0x7e141, 0x7e151, 0x7e161, 0x7e171,
      0x7e181, 0x1b5012]), (51, [0x7c002]), (53, [0x7c004])]
  | .range => [
    (51, [0x7d002, 0x7d042]), (51, [0x7d012, 0x7d052]), (73, [0x7d021])]
  | .binary => [
    (165, [0x7e002]), (165, [0x7e012]), (51, [0x7e022]), (51, [0x7e032]), (51, [0x7e042]),
    (51, [0x7e052]), (51, [0x7e062]), (51, [0x7e072]), (51, [0x7e082]), (51, [0x7e092]),
    (51, [0x7e0a2]), (51, [0x7e0b2]), (166, [0x7e0c2]), (51, [0x7e0d2]), (51, [0x7e0e2]),
    (51, [0x7e0f2]), (51, [0x7e102]), (51, [0x7e112]), (51, [0x7e122]), (51, [0x7e132]),
    (51, [0x7e142]), (51, [0x7e152]), (51, [0x7e162]), (51, [0x7e172]), (51, [0x7e182])]
  | .commandBinary => [
    (15, [0x7f001, 0x7f003, 0x7f011]), (15, [0x7f001, 0x7f011, 0x7f013]),
    (15, [0x7f001, 0x7f011, 0x81002]), (15, [0x7f001, 0x7f011, 0x81012]),
    (15, [0x7f001, 0x7f011, 0x81022]), (15, [0x7f001, 0x7f011, 0x81052]), (162, [0x7f002]),
    (162, [0x7f012])]
  | .unary => [
    (26, [0x80001, 0x181001, 0x282001]), (83, [0x80001, 0x182001]),
    (26, [0x80011, 0x181011, 0x282001]), (83, [0x80011, 0x182001]), (51, [0x80021]),
    (52, [0x80021, 0x181021]), (84, [0x80021, 0x181021, 0x283001]), (27, [0x80021, 0x183001]),
    (51, [0x80051]), (52, [0x80051, 0x181051])]
  | .parenthesizedUnary => [
    (41, [0x82001]), (41, [0x82002])]
  | .unaryLiteral => [
    (85, [0x83001]), (135, [0x83002]), (38, [0x83002, 0x85001])]
  | .literal => [
    (86, [0x84001])]
  | .numeric => [
    (86, [0x85001])]
  | .simpleNumeric => [
    (86, [0x86001]), (88, [0x86001, 0x196001])]
  | .rightList => [
    (234, [0x87002, 0xb5001]), (234, [0x87022, 0xb5001])]
  | .leftList => [
    (89, [0x88001]), (90, [0x88001, 0x18a002])]
  | .leftItems => [
    (91, [0x89001, 0x89011, 0x89021, 0x89031]), (174, [0x89002, 0x89012, 0x1b8001]),
    (174, [0x89003, 0x1b8011, 0x1b8021, 0x1b8031]),
    (174, [0x89012, 0x1b8011, 0x1b8021, 0x1b8031])]
  | .destructuredLeft => [
    (92, [0x8a003])]
  | .restAssignment => [
    (92, [0x8b001, 0x8b011])]
  | .functionName => [
    (94, [0x8c001]), (95, [0x8c001, 0x1a8041, 0x1a8051, 0x1a8061]), (94, [0x8c011]),
    (95, [0x8c011, 0x1a8041, 0x1a8051, 0x1a8061])]
  | .target => [
    (98, [0x8e001])]
  | .variable => [
    (101, [0x8f001]), (106, [0x8f001, 0x191001]), (106, [0x8f001, 0x191001, 0x193001]),
    (102, [0x8f001, 0x1a8041, 0x1a8051, 0x1a8061])]
  | .operator => [
    (139, [0x90001])]
  | .methodName => [
    (140, [0x91001]), (141, [0x91001, 0x93001])]
  | .nonlocalVariable => [
    (114, [0x92001])]
  | .setter => [
    (140, [0x93002])]
  | .undefinition => [
    (115, [0x94001, 0x94011]), (153, [0x94002, 0x94012]), (195, [0x94003, 0x1b9001])]
  | .aliasing => [
    (115, [0x95001]), (153, [0x95002]), (5, [0x95003])]
  | .complex => [
    (86, [0x97001, 0x97011, 0x98001]), (86, [0x97002]), (86, [0x97012])]
  | .rational => [
    (86, [0x98002])]
  | .nilValue => [
    (116, [0x99001])]
  | .constantSuffix => [
    (117, [0x9a001])]
  | .identifierSuffix => [
    (117, [0x9b001])]
  | .chainedString => [
    (175, [0x9c002, 0x1ba001])]
  | .interpolation => [
    (125, [0x9d001, 0x9d011]), (125, [0x9d002]), (125, [0x9d003]), (125, [0x9d012]),
    (125, [0x9d021])]
  | .string => [
    (118, [0x9e001, 0x9e011]), (128, [0x9e002, 0x1a5001]), (134, [0x9e003]), (134, [0x9e012])]
  | .subshell => [
    (86, [0x9f001, 0x9f011]), (130, [0x9f002, 0x1a5001]), (86, [0x9f003]), (86, [0x9f012])]
  | .stringArray => [
    (86, [0xa0001, 0xa0011, 0xa0021, 0xa0031, 0xa0041, 0xa0051, 0xa0061, 0xa0071, 0xa0081,
      0xa0091, 0xa00a1]), (86, [0xa0002, 0xa0012, 0xa0022, 0xa0032, 0xa0042, 0xa0052]),
    (131, [0xa0003, 0xa0013, 0xa0023, 0xa0033, 0x1a5001]), (178, [0xa0004, 0xa0014, 0x1bb001]),
    (178, [0xa0005, 0x1bb011]), (86, [0xa0006]), (178, [0xa0014, 0x1bb011]), (86, [0xa0015]),
    (86, [0xa0034]), (86, [0xa0043]), (86, [0xa0044]), (86, [0xa0053]),
    (131, [0xa0062, 0xa0072, 0xa0082, 0xa0092, 0x1a5001]), (178, [0xa0063, 0xa0073, 0x1bb001]),
    (178, [0xa0064, 0x1bb011]), (86, [0xa0065]), (178, [0xa0073, 0x1bb011]), (86, [0xa0074]),
    (86, [0xa0093]), (86, [0xa00a2])]
  | .symbolArray => [
    (86, [0xa1001, 0xa1011, 0xa1021, 0xa1031, 0xa1041, 0xa1051, 0xa1061, 0xa1071, 0xa1081,
      0xa1091, 0xa10a1]), (86, [0xa1002, 0xa1012, 0xa1022, 0xa1032, 0xa1042, 0xa1052]),
    (131, [0xa1003, 0xa1013, 0xa1023, 0xa1033, 0x1a5001]), (178, [0xa1004, 0xa1014, 0x1bc001]),
    (178, [0xa1005, 0x1bc011]), (86, [0xa1006]), (178, [0xa1014, 0x1bc011]), (86, [0xa1015]),
    (86, [0xa1034]), (86, [0xa1043]), (86, [0xa1044]), (86, [0xa1053]),
    (131, [0xa1062, 0xa1072, 0xa1082, 0xa1092, 0x1a5001]), (178, [0xa1063, 0xa1073, 0x1bc001]),
    (178, [0xa1064, 0x1bc011]), (86, [0xa1065]), (178, [0xa1073, 0x1bc011]), (86, [0xa1074]),
    (86, [0xa1093]), (86, [0xa10a2])]
  | .delimitedSymbol => [
    (119, [0xa2001, 0xa2011]), (129, [0xa2002, 0x1a5001]), (119, [0xa2003]), (119, [0xa2012])]
  | .regex => [
    (86, [0xa3001, 0xa3011]), (130, [0xa3002, 0x1a5001]), (86, [0xa3003]), (86, [0xa3012])]
  | .heredocBody => [
    (2, [0xa4001, 0xa4011]), (126, [0xa4002, 0x1bd001]), (2, [0xa4003]), (2, [0xa4012])]
  | .literalContents => [
    (132, [0xa5001, 0xa5002]), (133, [0xa5001, 0x1bb012]), (133, [0xa5001, 0x1bc012]),
    (132, [0xa5011])]
  | .array => [
    (8, [0xa6001, 0xa6011]), (8, [0xa6002]), (8, [0xa6003]), (8, [0xa6012])]
  | .hash => [
    (8, [0xa7001, 0xa7011, 0xa7021, 0xa7031, 0xa7041, 0xa7051, 0xa7061, 0xa7071, 0xa7081]),
    (8, [0xa7002, 0xa7012, 0xa7022, 0xa7032]), (181, [0xa7003, 0xa7013, 0x1be001]),
    (181, [0xa7004, 0x1be011, 0x1be021]), (8, [0xa7005]), (181, [0xa7013, 0x1be011, 0x1be021]),
    (8, [0xa7014]), (8, [0xa7033]), (8, [0xa7082])]
  | .pair => [
    (137, [0xa8002]), (136, [0xa8011, 0xa8021, 0xa8031]), (180, [0xa8012]),
    (180, [0xa8012, 0xa8022, 0xa8032]), (218, [0xa8033]), (180, [0xa8042, 0xa8052, 0xa8062]),
    (218, [0xa8063])]
  | .lambda => [
    (122, [0xa9001, 0xa9011, 0xa9021, 0xa9031, 0xa9041, 0xa9051]), (122, [0xa9002, 0xa9012]),
    (86, [0xa9003]), (86, [0xa9042])]
  | .emptyStatement => [
    (123, [0xaa001]), (124, [0xaa001, 0x1ab001])]
  | .terminator => [
    (147, [0xab001])]
  | .statementRun => [
    (123, [0xac001, 0xac002]), (123, [0xac012]), (123, [0xac021])]
  | .moreParameters => [
    (157, [0xad001, 0xad002]), (156, [0xad002]), (157, [0xad011])]
  | .moreLocals => [
    (244, [0xae001, 0xae002]), (244, [0xae011]), (244, [0xae012])]
  | .whenClauses => [
    (148, [0xaf001, 0xaf002]), (148, [0xaf011])]
  | .moreWhenPatterns => [
    (191, [0xb0001, 0xb0002]), (191, [0xb0011]), (191, [0xb0012])]
  | .inClauses => [
    (187, [0xb1001, 0xb1002]), (187, [0xb1011])]
  | .morePatterns => [
    (208, [0xb2001, 0xb2002]), (208, [0xb2011])]
  | .moreAlternatives => [
    (224, [0xb3001, 0xb3002]), (224, [0xb3011]), (215, [0xb3012])]
  | .moreKeywordPatterns => [
    (220, [0xb4001, 0xb4002]), (218, [0xb4002]), (220, [0xb4011])]
  | .moreExceptions => [
    (235, [0xb5001, 0xb5002]), (235, [0xb5011, 0xb5021]), (242, [0xb5022])]
  | .bodyClauses => [
    (149, [0xb6001, 0xb6002]), (149, [0xb6011])]
  | .moreArguments => [
    (185, [0xb7001, 0xb7002]), (185, [0xb7011]), (15, [0xb7012])]
  | .moreTargets => [
    (92, [0xb8001, 0xb8002]), (92, [0xb8002]), (92, [0xb8011, 0xb8021, 0xb8031])]
  | .moreMethodNames => [
    (196, [0xb9001, 0xb9002]), (236, [0xb9002]), (196, [0xb9011])]
  | .moreStrings => [
    (176, [0xba001, 0xba002]), (177, [0xba011])]
  | .moreBareStrings => [
    (179, [0xbb001, 0xbb002]), (179, [0xbb011])]
  | .moreBareSymbols => [
    (179, [0xbc001, 0xbc002]), (179, [0xbc011])]
  | .heredocParts => [
    (127, [0xbd001, 0xbd002]), (127, [0xbd011])]
  | .morePairs => [
    (137, [0xbe001, 0xbe002]), (137, [0xbe002]), (137, [0xbe011, 0xbe021])]
  | .source => [
    (1, [0xbf000]), (1, [0xbf001])]
  | _ => []

end LiteralMark.Ruby
