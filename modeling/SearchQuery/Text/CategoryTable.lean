import SearchQuery.Text.Category
import SearchQuery.Text.Ranges

/-!
# The table of general categories

The code points fall into consecutive runs of one category each. A run is written as its last code
point and its category; the runs are in increasing order and together cover every code point, so
the first run whose last code point is not below `c` is the run of `c`. The runs stand in blocks,
each named by the last code point it covers, and `categoryBlocks` lists the blocks.
-/

namespace SearchQuery.Text

/-- Consecutive runs of one category, given by their last code points. -/
abbrev CategoryRuns := List (Nat × Category)

namespace CategoryRuns

/-- The runs from U+0000 to U+0127. -/
def upTo0127 : CategoryRuns := [
  (0x1F, .cc), (0x20, .zs), (0x23, .po), (0x24, .sc), (0x27, .po), (0x28, .ps), (0x29, .pe),
  (0x2A, .po), (0x2B, .sm), (0x2C, .po), (0x2D, .pd), (0x2F, .po), (0x39, .nd), (0x3B, .po),
  (0x3E, .sm), (0x40, .po), (0x5A, .lu), (0x5B, .ps), (0x5C, .po), (0x5D, .pe), (0x5E, .sk),
  (0x5F, .pc), (0x60, .sk), (0x7A, .ll), (0x7B, .ps), (0x7C, .sm), (0x7D, .pe), (0x7E, .sm),
  (0x9F, .cc), (0xA0, .zs), (0xA1, .po), (0xA5, .sc), (0xA6, .so), (0xA7, .po), (0xA8, .sk),
  (0xA9, .so), (0xAA, .lo), (0xAB, .pi), (0xAC, .sm), (0xAD, .cf), (0xAE, .so), (0xAF, .sk),
  (0xB0, .so), (0xB1, .sm), (0xB3, .no), (0xB4, .sk), (0xB5, .ll), (0xB7, .po), (0xB8, .sk),
  (0xB9, .no), (0xBA, .lo), (0xBB, .pf), (0xBE, .no), (0xBF, .po), (0xD6, .lu), (0xD7, .sm),
  (0xDE, .lu), (0xF6, .ll), (0xF7, .sm), (0xFF, .ll), (0x100, .lu), (0x101, .ll), (0x102, .lu),
  (0x103, .ll), (0x104, .lu), (0x105, .ll), (0x106, .lu), (0x107, .ll), (0x108, .lu), (0x109, .ll),
  (0x10A, .lu), (0x10B, .ll), (0x10C, .lu), (0x10D, .ll), (0x10E, .lu), (0x10F, .ll), (0x110, .lu),
  (0x111, .ll), (0x112, .lu), (0x113, .ll), (0x114, .lu), (0x115, .ll), (0x116, .lu), (0x117, .ll),
  (0x118, .lu), (0x119, .ll), (0x11A, .lu), (0x11B, .ll), (0x11C, .lu), (0x11D, .ll), (0x11E, .lu),
  (0x11F, .ll), (0x120, .lu), (0x121, .ll), (0x122, .lu), (0x123, .ll), (0x124, .lu), (0x125, .ll),
  (0x126, .lu), (0x127, .ll)]

/-- The runs from U+0128 to U+019E. -/
def upTo019E : CategoryRuns := [
  (0x128, .lu), (0x129, .ll), (0x12A, .lu), (0x12B, .ll), (0x12C, .lu), (0x12D, .ll), (0x12E, .lu),
  (0x12F, .ll), (0x130, .lu), (0x131, .ll), (0x132, .lu), (0x133, .ll), (0x134, .lu), (0x135, .ll),
  (0x136, .lu), (0x138, .ll), (0x139, .lu), (0x13A, .ll), (0x13B, .lu), (0x13C, .ll), (0x13D, .lu),
  (0x13E, .ll), (0x13F, .lu), (0x140, .ll), (0x141, .lu), (0x142, .ll), (0x143, .lu), (0x144, .ll),
  (0x145, .lu), (0x146, .ll), (0x147, .lu), (0x149, .ll), (0x14A, .lu), (0x14B, .ll), (0x14C, .lu),
  (0x14D, .ll), (0x14E, .lu), (0x14F, .ll), (0x150, .lu), (0x151, .ll), (0x152, .lu), (0x153, .ll),
  (0x154, .lu), (0x155, .ll), (0x156, .lu), (0x157, .ll), (0x158, .lu), (0x159, .ll), (0x15A, .lu),
  (0x15B, .ll), (0x15C, .lu), (0x15D, .ll), (0x15E, .lu), (0x15F, .ll), (0x160, .lu), (0x161, .ll),
  (0x162, .lu), (0x163, .ll), (0x164, .lu), (0x165, .ll), (0x166, .lu), (0x167, .ll), (0x168, .lu),
  (0x169, .ll), (0x16A, .lu), (0x16B, .ll), (0x16C, .lu), (0x16D, .ll), (0x16E, .lu), (0x16F, .ll),
  (0x170, .lu), (0x171, .ll), (0x172, .lu), (0x173, .ll), (0x174, .lu), (0x175, .ll), (0x176, .lu),
  (0x177, .ll), (0x179, .lu), (0x17A, .ll), (0x17B, .lu), (0x17C, .ll), (0x17D, .lu), (0x180, .ll),
  (0x182, .lu), (0x183, .ll), (0x184, .lu), (0x185, .ll), (0x187, .lu), (0x188, .ll), (0x18B, .lu),
  (0x18D, .ll), (0x191, .lu), (0x192, .ll), (0x194, .lu), (0x195, .ll), (0x198, .lu), (0x19B, .ll),
  (0x19D, .lu), (0x19E, .ll)]

/-- The runs from U+019F to U+0213. -/
def upTo0213 : CategoryRuns := [
  (0x1A0, .lu), (0x1A1, .ll), (0x1A2, .lu), (0x1A3, .ll), (0x1A4, .lu), (0x1A5, .ll), (0x1A7, .lu),
  (0x1A8, .ll), (0x1A9, .lu), (0x1AB, .ll), (0x1AC, .lu), (0x1AD, .ll), (0x1AF, .lu), (0x1B0, .ll),
  (0x1B3, .lu), (0x1B4, .ll), (0x1B5, .lu), (0x1B6, .ll), (0x1B8, .lu), (0x1BA, .ll), (0x1BB, .lo),
  (0x1BC, .lu), (0x1BF, .ll), (0x1C3, .lo), (0x1C4, .lu), (0x1C5, .lt), (0x1C6, .ll), (0x1C7, .lu),
  (0x1C8, .lt), (0x1C9, .ll), (0x1CA, .lu), (0x1CB, .lt), (0x1CC, .ll), (0x1CD, .lu), (0x1CE, .ll),
  (0x1CF, .lu), (0x1D0, .ll), (0x1D1, .lu), (0x1D2, .ll), (0x1D3, .lu), (0x1D4, .ll), (0x1D5, .lu),
  (0x1D6, .ll), (0x1D7, .lu), (0x1D8, .ll), (0x1D9, .lu), (0x1DA, .ll), (0x1DB, .lu), (0x1DD, .ll),
  (0x1DE, .lu), (0x1DF, .ll), (0x1E0, .lu), (0x1E1, .ll), (0x1E2, .lu), (0x1E3, .ll), (0x1E4, .lu),
  (0x1E5, .ll), (0x1E6, .lu), (0x1E7, .ll), (0x1E8, .lu), (0x1E9, .ll), (0x1EA, .lu), (0x1EB, .ll),
  (0x1EC, .lu), (0x1ED, .ll), (0x1EE, .lu), (0x1F0, .ll), (0x1F1, .lu), (0x1F2, .lt), (0x1F3, .ll),
  (0x1F4, .lu), (0x1F5, .ll), (0x1F8, .lu), (0x1F9, .ll), (0x1FA, .lu), (0x1FB, .ll), (0x1FC, .lu),
  (0x1FD, .ll), (0x1FE, .lu), (0x1FF, .ll), (0x200, .lu), (0x201, .ll), (0x202, .lu), (0x203, .ll),
  (0x204, .lu), (0x205, .ll), (0x206, .lu), (0x207, .ll), (0x208, .lu), (0x209, .ll), (0x20A, .lu),
  (0x20B, .ll), (0x20C, .lu), (0x20D, .ll), (0x20E, .lu), (0x20F, .ll), (0x210, .lu), (0x211, .ll),
  (0x212, .lu), (0x213, .ll)]

/-- The runs from U+0214 to U+03DF. -/
def upTo03DF : CategoryRuns := [
  (0x214, .lu), (0x215, .ll), (0x216, .lu), (0x217, .ll), (0x218, .lu), (0x219, .ll), (0x21A, .lu),
  (0x21B, .ll), (0x21C, .lu), (0x21D, .ll), (0x21E, .lu), (0x21F, .ll), (0x220, .lu), (0x221, .ll),
  (0x222, .lu), (0x223, .ll), (0x224, .lu), (0x225, .ll), (0x226, .lu), (0x227, .ll), (0x228, .lu),
  (0x229, .ll), (0x22A, .lu), (0x22B, .ll), (0x22C, .lu), (0x22D, .ll), (0x22E, .lu), (0x22F, .ll),
  (0x230, .lu), (0x231, .ll), (0x232, .lu), (0x239, .ll), (0x23B, .lu), (0x23C, .ll), (0x23E, .lu),
  (0x240, .ll), (0x241, .lu), (0x242, .ll), (0x246, .lu), (0x247, .ll), (0x248, .lu), (0x249, .ll),
  (0x24A, .lu), (0x24B, .ll), (0x24C, .lu), (0x24D, .ll), (0x24E, .lu), (0x293, .ll), (0x294, .lo),
  (0x2AF, .ll), (0x2C1, .lm), (0x2C5, .sk), (0x2D1, .lm), (0x2DF, .sk), (0x2E4, .lm), (0x2EB, .sk),
  (0x2EC, .lm), (0x2ED, .sk), (0x2EE, .lm), (0x2FF, .sk), (0x36F, .mn), (0x370, .lu), (0x371, .ll),
  (0x372, .lu), (0x373, .ll), (0x374, .lm), (0x375, .sk), (0x376, .lu), (0x377, .ll), (0x379, .cn),
  (0x37A, .lm), (0x37D, .ll), (0x37E, .po), (0x37F, .lu), (0x383, .cn), (0x385, .sk), (0x386, .lu),
  (0x387, .po), (0x38A, .lu), (0x38B, .cn), (0x38C, .lu), (0x38D, .cn), (0x38F, .lu), (0x390, .ll),
  (0x3A1, .lu), (0x3A2, .cn), (0x3AB, .lu), (0x3CE, .ll), (0x3CF, .lu), (0x3D1, .ll), (0x3D4, .lu),
  (0x3D7, .ll), (0x3D8, .lu), (0x3D9, .ll), (0x3DA, .lu), (0x3DB, .ll), (0x3DC, .lu), (0x3DD, .ll),
  (0x3DE, .lu), (0x3DF, .ll)]

/-- The runs from U+03E0 to U+04AF. -/
def upTo04AF : CategoryRuns := [
  (0x3E0, .lu), (0x3E1, .ll), (0x3E2, .lu), (0x3E3, .ll), (0x3E4, .lu), (0x3E5, .ll), (0x3E6, .lu),
  (0x3E7, .ll), (0x3E8, .lu), (0x3E9, .ll), (0x3EA, .lu), (0x3EB, .ll), (0x3EC, .lu), (0x3ED, .ll),
  (0x3EE, .lu), (0x3F3, .ll), (0x3F4, .lu), (0x3F5, .ll), (0x3F6, .sm), (0x3F7, .lu), (0x3F8, .ll),
  (0x3FA, .lu), (0x3FC, .ll), (0x42F, .lu), (0x45F, .ll), (0x460, .lu), (0x461, .ll), (0x462, .lu),
  (0x463, .ll), (0x464, .lu), (0x465, .ll), (0x466, .lu), (0x467, .ll), (0x468, .lu), (0x469, .ll),
  (0x46A, .lu), (0x46B, .ll), (0x46C, .lu), (0x46D, .ll), (0x46E, .lu), (0x46F, .ll), (0x470, .lu),
  (0x471, .ll), (0x472, .lu), (0x473, .ll), (0x474, .lu), (0x475, .ll), (0x476, .lu), (0x477, .ll),
  (0x478, .lu), (0x479, .ll), (0x47A, .lu), (0x47B, .ll), (0x47C, .lu), (0x47D, .ll), (0x47E, .lu),
  (0x47F, .ll), (0x480, .lu), (0x481, .ll), (0x482, .so), (0x487, .mn), (0x489, .me), (0x48A, .lu),
  (0x48B, .ll), (0x48C, .lu), (0x48D, .ll), (0x48E, .lu), (0x48F, .ll), (0x490, .lu), (0x491, .ll),
  (0x492, .lu), (0x493, .ll), (0x494, .lu), (0x495, .ll), (0x496, .lu), (0x497, .ll), (0x498, .lu),
  (0x499, .ll), (0x49A, .lu), (0x49B, .ll), (0x49C, .lu), (0x49D, .ll), (0x49E, .lu), (0x49F, .ll),
  (0x4A0, .lu), (0x4A1, .ll), (0x4A2, .lu), (0x4A3, .ll), (0x4A4, .lu), (0x4A5, .ll), (0x4A6, .lu),
  (0x4A7, .ll), (0x4A8, .lu), (0x4A9, .ll), (0x4AA, .lu), (0x4AB, .ll), (0x4AC, .lu), (0x4AD, .ll),
  (0x4AE, .lu), (0x4AF, .ll)]

/-- The runs from U+04B0 to U+0515. -/
def upTo0515 : CategoryRuns := [
  (0x4B0, .lu), (0x4B1, .ll), (0x4B2, .lu), (0x4B3, .ll), (0x4B4, .lu), (0x4B5, .ll), (0x4B6, .lu),
  (0x4B7, .ll), (0x4B8, .lu), (0x4B9, .ll), (0x4BA, .lu), (0x4BB, .ll), (0x4BC, .lu), (0x4BD, .ll),
  (0x4BE, .lu), (0x4BF, .ll), (0x4C1, .lu), (0x4C2, .ll), (0x4C3, .lu), (0x4C4, .ll), (0x4C5, .lu),
  (0x4C6, .ll), (0x4C7, .lu), (0x4C8, .ll), (0x4C9, .lu), (0x4CA, .ll), (0x4CB, .lu), (0x4CC, .ll),
  (0x4CD, .lu), (0x4CF, .ll), (0x4D0, .lu), (0x4D1, .ll), (0x4D2, .lu), (0x4D3, .ll), (0x4D4, .lu),
  (0x4D5, .ll), (0x4D6, .lu), (0x4D7, .ll), (0x4D8, .lu), (0x4D9, .ll), (0x4DA, .lu), (0x4DB, .ll),
  (0x4DC, .lu), (0x4DD, .ll), (0x4DE, .lu), (0x4DF, .ll), (0x4E0, .lu), (0x4E1, .ll), (0x4E2, .lu),
  (0x4E3, .ll), (0x4E4, .lu), (0x4E5, .ll), (0x4E6, .lu), (0x4E7, .ll), (0x4E8, .lu), (0x4E9, .ll),
  (0x4EA, .lu), (0x4EB, .ll), (0x4EC, .lu), (0x4ED, .ll), (0x4EE, .lu), (0x4EF, .ll), (0x4F0, .lu),
  (0x4F1, .ll), (0x4F2, .lu), (0x4F3, .ll), (0x4F4, .lu), (0x4F5, .ll), (0x4F6, .lu), (0x4F7, .ll),
  (0x4F8, .lu), (0x4F9, .ll), (0x4FA, .lu), (0x4FB, .ll), (0x4FC, .lu), (0x4FD, .ll), (0x4FE, .lu),
  (0x4FF, .ll), (0x500, .lu), (0x501, .ll), (0x502, .lu), (0x503, .ll), (0x504, .lu), (0x505, .ll),
  (0x506, .lu), (0x507, .ll), (0x508, .lu), (0x509, .ll), (0x50A, .lu), (0x50B, .ll), (0x50C, .lu),
  (0x50D, .ll), (0x50E, .lu), (0x50F, .ll), (0x510, .lu), (0x511, .ll), (0x512, .lu), (0x513, .ll),
  (0x514, .lu), (0x515, .ll)]

/-- The runs from U+0516 to U+07C9. -/
def upTo07C9 : CategoryRuns := [
  (0x516, .lu), (0x517, .ll), (0x518, .lu), (0x519, .ll), (0x51A, .lu), (0x51B, .ll), (0x51C, .lu),
  (0x51D, .ll), (0x51E, .lu), (0x51F, .ll), (0x520, .lu), (0x521, .ll), (0x522, .lu), (0x523, .ll),
  (0x524, .lu), (0x525, .ll), (0x526, .lu), (0x527, .ll), (0x528, .lu), (0x529, .ll), (0x52A, .lu),
  (0x52B, .ll), (0x52C, .lu), (0x52D, .ll), (0x52E, .lu), (0x52F, .ll), (0x530, .cn), (0x556, .lu),
  (0x558, .cn), (0x559, .lm), (0x55F, .po), (0x588, .ll), (0x589, .po), (0x58A, .pd), (0x58C, .cn),
  (0x58E, .so), (0x58F, .sc), (0x590, .cn), (0x5BD, .mn), (0x5BE, .pd), (0x5BF, .mn), (0x5C0, .po),
  (0x5C2, .mn), (0x5C3, .po), (0x5C5, .mn), (0x5C6, .po), (0x5C7, .mn), (0x5CF, .cn), (0x5EA, .lo),
  (0x5EE, .cn), (0x5F2, .lo), (0x5F4, .po), (0x5FF, .cn), (0x605, .cf), (0x608, .sm), (0x60A, .po),
  (0x60B, .sc), (0x60D, .po), (0x60F, .so), (0x61A, .mn), (0x61B, .po), (0x61C, .cf), (0x61F, .po),
  (0x63F, .lo), (0x640, .lm), (0x64A, .lo), (0x65F, .mn), (0x669, .nd), (0x66D, .po), (0x66F, .lo),
  (0x670, .mn), (0x6D3, .lo), (0x6D4, .po), (0x6D5, .lo), (0x6DC, .mn), (0x6DD, .cf), (0x6DE, .so),
  (0x6E4, .mn), (0x6E6, .lm), (0x6E8, .mn), (0x6E9, .so), (0x6ED, .mn), (0x6EF, .lo), (0x6F9, .nd),
  (0x6FC, .lo), (0x6FE, .so), (0x6FF, .lo), (0x70D, .po), (0x70E, .cn), (0x70F, .cf), (0x710, .lo),
  (0x711, .mn), (0x72F, .lo), (0x74A, .mn), (0x74C, .cn), (0x7A5, .lo), (0x7B0, .mn), (0x7B1, .lo),
  (0x7BF, .cn), (0x7C9, .nd)]

/-- The runs from U+07CA to U+09FD. -/
def upTo09FD : CategoryRuns := [
  (0x7EA, .lo), (0x7F3, .mn), (0x7F5, .lm), (0x7F6, .so), (0x7F9, .po), (0x7FA, .lm), (0x7FC, .cn),
  (0x7FD, .mn), (0x7FF, .sc), (0x815, .lo), (0x819, .mn), (0x81A, .lm), (0x823, .mn), (0x824, .lm),
  (0x827, .mn), (0x828, .lm), (0x82D, .mn), (0x82F, .cn), (0x83E, .po), (0x83F, .cn), (0x858, .lo),
  (0x85B, .mn), (0x85D, .cn), (0x85E, .po), (0x85F, .cn), (0x86A, .lo), (0x86F, .cn), (0x887, .lo),
  (0x888, .sk), (0x88E, .lo), (0x88F, .cn), (0x891, .cf), (0x896, .cn), (0x89F, .mn), (0x8C8, .lo),
  (0x8C9, .lm), (0x8E1, .mn), (0x8E2, .cf), (0x902, .mn), (0x903, .mc), (0x939, .lo), (0x93A, .mn),
  (0x93B, .mc), (0x93C, .mn), (0x93D, .lo), (0x940, .mc), (0x948, .mn), (0x94C, .mc), (0x94D, .mn),
  (0x94F, .mc), (0x950, .lo), (0x957, .mn), (0x961, .lo), (0x963, .mn), (0x965, .po), (0x96F, .nd),
  (0x970, .po), (0x971, .lm), (0x980, .lo), (0x981, .mn), (0x983, .mc), (0x984, .cn), (0x98C, .lo),
  (0x98E, .cn), (0x990, .lo), (0x992, .cn), (0x9A8, .lo), (0x9A9, .cn), (0x9B0, .lo), (0x9B1, .cn),
  (0x9B2, .lo), (0x9B5, .cn), (0x9B9, .lo), (0x9BB, .cn), (0x9BC, .mn), (0x9BD, .lo), (0x9C0, .mc),
  (0x9C4, .mn), (0x9C6, .cn), (0x9C8, .mc), (0x9CA, .cn), (0x9CC, .mc), (0x9CD, .mn), (0x9CE, .lo),
  (0x9D6, .cn), (0x9D7, .mc), (0x9DB, .cn), (0x9DD, .lo), (0x9DE, .cn), (0x9E1, .lo), (0x9E3, .mn),
  (0x9E5, .cn), (0x9EF, .nd), (0x9F1, .lo), (0x9F3, .sc), (0x9F9, .no), (0x9FA, .so), (0x9FB, .sc),
  (0x9FC, .lo), (0x9FD, .po)]

/-- The runs from U+09FE to U+0B46. -/
def upTo0B46 : CategoryRuns := [
  (0x9FE, .mn), (0xA00, .cn), (0xA02, .mn), (0xA03, .mc), (0xA04, .cn), (0xA0A, .lo), (0xA0E, .cn),
  (0xA10, .lo), (0xA12, .cn), (0xA28, .lo), (0xA29, .cn), (0xA30, .lo), (0xA31, .cn), (0xA33, .lo),
  (0xA34, .cn), (0xA36, .lo), (0xA37, .cn), (0xA39, .lo), (0xA3B, .cn), (0xA3C, .mn), (0xA3D, .cn),
  (0xA40, .mc), (0xA42, .mn), (0xA46, .cn), (0xA48, .mn), (0xA4A, .cn), (0xA4D, .mn), (0xA50, .cn),
  (0xA51, .mn), (0xA58, .cn), (0xA5C, .lo), (0xA5D, .cn), (0xA5E, .lo), (0xA65, .cn), (0xA6F, .nd),
  (0xA71, .mn), (0xA74, .lo), (0xA75, .mn), (0xA76, .po), (0xA80, .cn), (0xA82, .mn), (0xA83, .mc),
  (0xA84, .cn), (0xA8D, .lo), (0xA8E, .cn), (0xA91, .lo), (0xA92, .cn), (0xAA8, .lo), (0xAA9, .cn),
  (0xAB0, .lo), (0xAB1, .cn), (0xAB3, .lo), (0xAB4, .cn), (0xAB9, .lo), (0xABB, .cn), (0xABC, .mn),
  (0xABD, .lo), (0xAC0, .mc), (0xAC5, .mn), (0xAC6, .cn), (0xAC8, .mn), (0xAC9, .mc), (0xACA, .cn),
  (0xACC, .mc), (0xACD, .mn), (0xACF, .cn), (0xAD0, .lo), (0xADF, .cn), (0xAE1, .lo), (0xAE3, .mn),
  (0xAE5, .cn), (0xAEF, .nd), (0xAF0, .po), (0xAF1, .sc), (0xAF8, .cn), (0xAF9, .lo), (0xAFF, .mn),
  (0xB00, .cn), (0xB01, .mn), (0xB03, .mc), (0xB04, .cn), (0xB0C, .lo), (0xB0E, .cn), (0xB10, .lo),
  (0xB12, .cn), (0xB28, .lo), (0xB29, .cn), (0xB30, .lo), (0xB31, .cn), (0xB33, .lo), (0xB34, .cn),
  (0xB39, .lo), (0xB3B, .cn), (0xB3C, .mn), (0xB3D, .lo), (0xB3E, .mc), (0xB3F, .mn), (0xB40, .mc),
  (0xB44, .mn), (0xB46, .cn)]

/-- The runs from U+0B47 to U+0C91. -/
def upTo0C91 : CategoryRuns := [
  (0xB48, .mc), (0xB4A, .cn), (0xB4C, .mc), (0xB4D, .mn), (0xB54, .cn), (0xB56, .mn), (0xB57, .mc),
  (0xB5B, .cn), (0xB5D, .lo), (0xB5E, .cn), (0xB61, .lo), (0xB63, .mn), (0xB65, .cn), (0xB6F, .nd),
  (0xB70, .so), (0xB71, .lo), (0xB77, .no), (0xB81, .cn), (0xB82, .mn), (0xB83, .lo), (0xB84, .cn),
  (0xB8A, .lo), (0xB8D, .cn), (0xB90, .lo), (0xB91, .cn), (0xB95, .lo), (0xB98, .cn), (0xB9A, .lo),
  (0xB9B, .cn), (0xB9C, .lo), (0xB9D, .cn), (0xB9F, .lo), (0xBA2, .cn), (0xBA4, .lo), (0xBA7, .cn),
  (0xBAA, .lo), (0xBAD, .cn), (0xBB9, .lo), (0xBBD, .cn), (0xBBF, .mc), (0xBC0, .mn), (0xBC2, .mc),
  (0xBC5, .cn), (0xBC8, .mc), (0xBC9, .cn), (0xBCC, .mc), (0xBCD, .mn), (0xBCF, .cn), (0xBD0, .lo),
  (0xBD6, .cn), (0xBD7, .mc), (0xBE5, .cn), (0xBEF, .nd), (0xBF2, .no), (0xBF8, .so), (0xBF9, .sc),
  (0xBFA, .so), (0xBFF, .cn), (0xC00, .mn), (0xC03, .mc), (0xC04, .mn), (0xC0C, .lo), (0xC0D, .cn),
  (0xC10, .lo), (0xC11, .cn), (0xC28, .lo), (0xC29, .cn), (0xC39, .lo), (0xC3B, .cn), (0xC3C, .mn),
  (0xC3D, .lo), (0xC40, .mn), (0xC44, .mc), (0xC45, .cn), (0xC48, .mn), (0xC49, .cn), (0xC4D, .mn),
  (0xC54, .cn), (0xC56, .mn), (0xC57, .cn), (0xC5A, .lo), (0xC5C, .cn), (0xC5D, .lo), (0xC5F, .cn),
  (0xC61, .lo), (0xC63, .mn), (0xC65, .cn), (0xC6F, .nd), (0xC76, .cn), (0xC77, .po), (0xC7E, .no),
  (0xC7F, .so), (0xC80, .lo), (0xC81, .mn), (0xC83, .mc), (0xC84, .po), (0xC8C, .lo), (0xC8D, .cn),
  (0xC90, .lo), (0xC91, .cn)]

/-- The runs from U+0C92 to U+0E80. -/
def upTo0E80 : CategoryRuns := [
  (0xCA8, .lo), (0xCA9, .cn), (0xCB3, .lo), (0xCB4, .cn), (0xCB9, .lo), (0xCBB, .cn), (0xCBC, .mn),
  (0xCBD, .lo), (0xCBE, .mc), (0xCBF, .mn), (0xCC4, .mc), (0xCC5, .cn), (0xCC6, .mn), (0xCC8, .mc),
  (0xCC9, .cn), (0xCCB, .mc), (0xCCD, .mn), (0xCD4, .cn), (0xCD6, .mc), (0xCDC, .cn), (0xCDE, .lo),
  (0xCDF, .cn), (0xCE1, .lo), (0xCE3, .mn), (0xCE5, .cn), (0xCEF, .nd), (0xCF0, .cn), (0xCF2, .lo),
  (0xCF3, .mc), (0xCFF, .cn), (0xD01, .mn), (0xD03, .mc), (0xD0C, .lo), (0xD0D, .cn), (0xD10, .lo),
  (0xD11, .cn), (0xD3A, .lo), (0xD3C, .mn), (0xD3D, .lo), (0xD40, .mc), (0xD44, .mn), (0xD45, .cn),
  (0xD48, .mc), (0xD49, .cn), (0xD4C, .mc), (0xD4D, .mn), (0xD4E, .lo), (0xD4F, .so), (0xD53, .cn),
  (0xD56, .lo), (0xD57, .mc), (0xD5E, .no), (0xD61, .lo), (0xD63, .mn), (0xD65, .cn), (0xD6F, .nd),
  (0xD78, .no), (0xD79, .so), (0xD7F, .lo), (0xD80, .cn), (0xD81, .mn), (0xD83, .mc), (0xD84, .cn),
  (0xD96, .lo), (0xD99, .cn), (0xDB1, .lo), (0xDB2, .cn), (0xDBB, .lo), (0xDBC, .cn), (0xDBD, .lo),
  (0xDBF, .cn), (0xDC6, .lo), (0xDC9, .cn), (0xDCA, .mn), (0xDCE, .cn), (0xDD1, .mc), (0xDD4, .mn),
  (0xDD5, .cn), (0xDD6, .mn), (0xDD7, .cn), (0xDDF, .mc), (0xDE5, .cn), (0xDEF, .nd), (0xDF1, .cn),
  (0xDF3, .mc), (0xDF4, .po), (0xE00, .cn), (0xE30, .lo), (0xE31, .mn), (0xE33, .lo), (0xE3A, .mn),
  (0xE3E, .cn), (0xE3F, .sc), (0xE45, .lo), (0xE46, .lm), (0xE4E, .mn), (0xE4F, .po), (0xE59, .nd),
  (0xE5B, .po), (0xE80, .cn)]

/-- The runs from U+0E81 to U+108E. -/
def upTo108E : CategoryRuns := [
  (0xE82, .lo), (0xE83, .cn), (0xE84, .lo), (0xE85, .cn), (0xE8A, .lo), (0xE8B, .cn), (0xEA3, .lo),
  (0xEA4, .cn), (0xEA5, .lo), (0xEA6, .cn), (0xEB0, .lo), (0xEB1, .mn), (0xEB3, .lo), (0xEBC, .mn),
  (0xEBD, .lo), (0xEBF, .cn), (0xEC4, .lo), (0xEC5, .cn), (0xEC6, .lm), (0xEC7, .cn), (0xECE, .mn),
  (0xECF, .cn), (0xED9, .nd), (0xEDB, .cn), (0xEDF, .lo), (0xEFF, .cn), (0xF00, .lo), (0xF03, .so),
  (0xF12, .po), (0xF13, .so), (0xF14, .po), (0xF17, .so), (0xF19, .mn), (0xF1F, .so), (0xF29, .nd),
  (0xF33, .no), (0xF34, .so), (0xF35, .mn), (0xF36, .so), (0xF37, .mn), (0xF38, .so), (0xF39, .mn),
  (0xF3A, .ps), (0xF3B, .pe), (0xF3C, .ps), (0xF3D, .pe), (0xF3F, .mc), (0xF47, .lo), (0xF48, .cn),
  (0xF6C, .lo), (0xF70, .cn), (0xF7E, .mn), (0xF7F, .mc), (0xF84, .mn), (0xF85, .po), (0xF87, .mn),
  (0xF8C, .lo), (0xF97, .mn), (0xF98, .cn), (0xFBC, .mn), (0xFBD, .cn), (0xFC5, .so), (0xFC6, .mn),
  (0xFCC, .so), (0xFCD, .cn), (0xFCF, .so), (0xFD4, .po), (0xFD8, .so), (0xFDA, .po), (0xFFF, .cn),
  (0x102A, .lo), (0x102C, .mc), (0x1030, .mn), (0x1031, .mc), (0x1037, .mn), (0x1038, .mc),
  (0x103A, .mn), (0x103C, .mc), (0x103E, .mn), (0x103F, .lo), (0x1049, .nd), (0x104F, .po),
  (0x1055, .lo), (0x1057, .mc), (0x1059, .mn), (0x105D, .lo), (0x1060, .mn), (0x1061, .lo),
  (0x1064, .mc), (0x1066, .lo), (0x106D, .mc), (0x1070, .lo), (0x1074, .mn), (0x1081, .lo),
  (0x1082, .mn), (0x1084, .mc), (0x1086, .mn), (0x108C, .mc), (0x108D, .mn), (0x108E, .lo)]

/-- The runs from U+108F to U+17D6. -/
def upTo17D6 : CategoryRuns := [
  (0x108F, .mc), (0x1099, .nd), (0x109C, .mc), (0x109D, .mn), (0x109F, .so), (0x10C5, .lu),
  (0x10C6, .cn), (0x10C7, .lu), (0x10CC, .cn), (0x10CD, .lu), (0x10CF, .cn), (0x10FA, .ll),
  (0x10FB, .po), (0x10FC, .lm), (0x10FF, .ll), (0x1248, .lo), (0x1249, .cn), (0x124D, .lo),
  (0x124F, .cn), (0x1256, .lo), (0x1257, .cn), (0x1258, .lo), (0x1259, .cn), (0x125D, .lo),
  (0x125F, .cn), (0x1288, .lo), (0x1289, .cn), (0x128D, .lo), (0x128F, .cn), (0x12B0, .lo),
  (0x12B1, .cn), (0x12B5, .lo), (0x12B7, .cn), (0x12BE, .lo), (0x12BF, .cn), (0x12C0, .lo),
  (0x12C1, .cn), (0x12C5, .lo), (0x12C7, .cn), (0x12D6, .lo), (0x12D7, .cn), (0x1310, .lo),
  (0x1311, .cn), (0x1315, .lo), (0x1317, .cn), (0x135A, .lo), (0x135C, .cn), (0x135F, .mn),
  (0x1368, .po), (0x137C, .no), (0x137F, .cn), (0x138F, .lo), (0x1399, .so), (0x139F, .cn),
  (0x13F5, .lu), (0x13F7, .cn), (0x13FD, .ll), (0x13FF, .cn), (0x1400, .pd), (0x166C, .lo),
  (0x166D, .so), (0x166E, .po), (0x167F, .lo), (0x1680, .zs), (0x169A, .lo), (0x169B, .ps),
  (0x169C, .pe), (0x169F, .cn), (0x16EA, .lo), (0x16ED, .po), (0x16F0, .nl), (0x16F8, .lo),
  (0x16FF, .cn), (0x1711, .lo), (0x1714, .mn), (0x1715, .mc), (0x171E, .cn), (0x1731, .lo),
  (0x1733, .mn), (0x1734, .mc), (0x1736, .po), (0x173F, .cn), (0x1751, .lo), (0x1753, .mn),
  (0x175F, .cn), (0x176C, .lo), (0x176D, .cn), (0x1770, .lo), (0x1771, .cn), (0x1773, .mn),
  (0x177F, .cn), (0x17B3, .lo), (0x17B5, .mn), (0x17B6, .mc), (0x17BD, .mn), (0x17C5, .mc),
  (0x17C6, .mn), (0x17C8, .mc), (0x17D3, .mn), (0x17D6, .po)]

/-- The runs from U+17D7 to U+1B41. -/
def upTo1B41 : CategoryRuns := [
  (0x17D7, .lm), (0x17DA, .po), (0x17DB, .sc), (0x17DC, .lo), (0x17DD, .mn), (0x17DF, .cn),
  (0x17E9, .nd), (0x17EF, .cn), (0x17F9, .no), (0x17FF, .cn), (0x1805, .po), (0x1806, .pd),
  (0x180A, .po), (0x180D, .mn), (0x180E, .cf), (0x180F, .mn), (0x1819, .nd), (0x181F, .cn),
  (0x1842, .lo), (0x1843, .lm), (0x1878, .lo), (0x187F, .cn), (0x1884, .lo), (0x1886, .mn),
  (0x18A8, .lo), (0x18A9, .mn), (0x18AA, .lo), (0x18AF, .cn), (0x18F5, .lo), (0x18FF, .cn),
  (0x191E, .lo), (0x191F, .cn), (0x1922, .mn), (0x1926, .mc), (0x1928, .mn), (0x192B, .mc),
  (0x192F, .cn), (0x1931, .mc), (0x1932, .mn), (0x1938, .mc), (0x193B, .mn), (0x193F, .cn),
  (0x1940, .so), (0x1943, .cn), (0x1945, .po), (0x194F, .nd), (0x196D, .lo), (0x196F, .cn),
  (0x1974, .lo), (0x197F, .cn), (0x19AB, .lo), (0x19AF, .cn), (0x19C9, .lo), (0x19CF, .cn),
  (0x19D9, .nd), (0x19DA, .no), (0x19DD, .cn), (0x19FF, .so), (0x1A16, .lo), (0x1A18, .mn),
  (0x1A1A, .mc), (0x1A1B, .mn), (0x1A1D, .cn), (0x1A1F, .po), (0x1A54, .lo), (0x1A55, .mc),
  (0x1A56, .mn), (0x1A57, .mc), (0x1A5E, .mn), (0x1A5F, .cn), (0x1A60, .mn), (0x1A61, .mc),
  (0x1A62, .mn), (0x1A64, .mc), (0x1A6C, .mn), (0x1A72, .mc), (0x1A7C, .mn), (0x1A7E, .cn),
  (0x1A7F, .mn), (0x1A89, .nd), (0x1A8F, .cn), (0x1A99, .nd), (0x1A9F, .cn), (0x1AA6, .po),
  (0x1AA7, .lm), (0x1AAD, .po), (0x1AAF, .cn), (0x1ABD, .mn), (0x1ABE, .me), (0x1ACE, .mn),
  (0x1AFF, .cn), (0x1B03, .mn), (0x1B04, .mc), (0x1B33, .lo), (0x1B34, .mn), (0x1B35, .mc),
  (0x1B3A, .mn), (0x1B3B, .mc), (0x1B3C, .mn), (0x1B41, .mc)]

/-- The runs from U+1B42 to U+1E16. -/
def upTo1E16 : CategoryRuns := [
  (0x1B42, .mn), (0x1B44, .mc), (0x1B4C, .lo), (0x1B4D, .cn), (0x1B4F, .po), (0x1B59, .nd),
  (0x1B60, .po), (0x1B6A, .so), (0x1B73, .mn), (0x1B7C, .so), (0x1B7F, .po), (0x1B81, .mn),
  (0x1B82, .mc), (0x1BA0, .lo), (0x1BA1, .mc), (0x1BA5, .mn), (0x1BA7, .mc), (0x1BA9, .mn),
  (0x1BAA, .mc), (0x1BAD, .mn), (0x1BAF, .lo), (0x1BB9, .nd), (0x1BE5, .lo), (0x1BE6, .mn),
  (0x1BE7, .mc), (0x1BE9, .mn), (0x1BEC, .mc), (0x1BED, .mn), (0x1BEE, .mc), (0x1BF1, .mn),
  (0x1BF3, .mc), (0x1BFB, .cn), (0x1BFF, .po), (0x1C23, .lo), (0x1C2B, .mc), (0x1C33, .mn),
  (0x1C35, .mc), (0x1C37, .mn), (0x1C3A, .cn), (0x1C3F, .po), (0x1C49, .nd), (0x1C4C, .cn),
  (0x1C4F, .lo), (0x1C59, .nd), (0x1C77, .lo), (0x1C7D, .lm), (0x1C7F, .po), (0x1C88, .ll),
  (0x1C89, .lu), (0x1C8A, .ll), (0x1C8F, .cn), (0x1CBA, .lu), (0x1CBC, .cn), (0x1CBF, .lu),
  (0x1CC7, .po), (0x1CCF, .cn), (0x1CD2, .mn), (0x1CD3, .po), (0x1CE0, .mn), (0x1CE1, .mc),
  (0x1CE8, .mn), (0x1CEC, .lo), (0x1CED, .mn), (0x1CF3, .lo), (0x1CF4, .mn), (0x1CF6, .lo),
  (0x1CF7, .mc), (0x1CF9, .mn), (0x1CFA, .lo), (0x1CFF, .cn), (0x1D2B, .ll), (0x1D6A, .lm),
  (0x1D77, .ll), (0x1D78, .lm), (0x1D9A, .ll), (0x1DBF, .lm), (0x1DFF, .mn), (0x1E00, .lu),
  (0x1E01, .ll), (0x1E02, .lu), (0x1E03, .ll), (0x1E04, .lu), (0x1E05, .ll), (0x1E06, .lu),
  (0x1E07, .ll), (0x1E08, .lu), (0x1E09, .ll), (0x1E0A, .lu), (0x1E0B, .ll), (0x1E0C, .lu),
  (0x1E0D, .ll), (0x1E0E, .lu), (0x1E0F, .ll), (0x1E10, .lu), (0x1E11, .ll), (0x1E12, .lu),
  (0x1E13, .ll), (0x1E14, .lu), (0x1E15, .ll), (0x1E16, .lu)]

/-- The runs from U+1E17 to U+1E7A. -/
def upTo1E7A : CategoryRuns := [
  (0x1E17, .ll), (0x1E18, .lu), (0x1E19, .ll), (0x1E1A, .lu), (0x1E1B, .ll), (0x1E1C, .lu),
  (0x1E1D, .ll), (0x1E1E, .lu), (0x1E1F, .ll), (0x1E20, .lu), (0x1E21, .ll), (0x1E22, .lu),
  (0x1E23, .ll), (0x1E24, .lu), (0x1E25, .ll), (0x1E26, .lu), (0x1E27, .ll), (0x1E28, .lu),
  (0x1E29, .ll), (0x1E2A, .lu), (0x1E2B, .ll), (0x1E2C, .lu), (0x1E2D, .ll), (0x1E2E, .lu),
  (0x1E2F, .ll), (0x1E30, .lu), (0x1E31, .ll), (0x1E32, .lu), (0x1E33, .ll), (0x1E34, .lu),
  (0x1E35, .ll), (0x1E36, .lu), (0x1E37, .ll), (0x1E38, .lu), (0x1E39, .ll), (0x1E3A, .lu),
  (0x1E3B, .ll), (0x1E3C, .lu), (0x1E3D, .ll), (0x1E3E, .lu), (0x1E3F, .ll), (0x1E40, .lu),
  (0x1E41, .ll), (0x1E42, .lu), (0x1E43, .ll), (0x1E44, .lu), (0x1E45, .ll), (0x1E46, .lu),
  (0x1E47, .ll), (0x1E48, .lu), (0x1E49, .ll), (0x1E4A, .lu), (0x1E4B, .ll), (0x1E4C, .lu),
  (0x1E4D, .ll), (0x1E4E, .lu), (0x1E4F, .ll), (0x1E50, .lu), (0x1E51, .ll), (0x1E52, .lu),
  (0x1E53, .ll), (0x1E54, .lu), (0x1E55, .ll), (0x1E56, .lu), (0x1E57, .ll), (0x1E58, .lu),
  (0x1E59, .ll), (0x1E5A, .lu), (0x1E5B, .ll), (0x1E5C, .lu), (0x1E5D, .ll), (0x1E5E, .lu),
  (0x1E5F, .ll), (0x1E60, .lu), (0x1E61, .ll), (0x1E62, .lu), (0x1E63, .ll), (0x1E64, .lu),
  (0x1E65, .ll), (0x1E66, .lu), (0x1E67, .ll), (0x1E68, .lu), (0x1E69, .ll), (0x1E6A, .lu),
  (0x1E6B, .ll), (0x1E6C, .lu), (0x1E6D, .ll), (0x1E6E, .lu), (0x1E6F, .ll), (0x1E70, .lu),
  (0x1E71, .ll), (0x1E72, .lu), (0x1E73, .ll), (0x1E74, .lu), (0x1E75, .ll), (0x1E76, .lu),
  (0x1E77, .ll), (0x1E78, .lu), (0x1E79, .ll), (0x1E7A, .lu)]

/-- The runs from U+1E7B to U+1EE6. -/
def upTo1EE6 : CategoryRuns := [
  (0x1E7B, .ll), (0x1E7C, .lu), (0x1E7D, .ll), (0x1E7E, .lu), (0x1E7F, .ll), (0x1E80, .lu),
  (0x1E81, .ll), (0x1E82, .lu), (0x1E83, .ll), (0x1E84, .lu), (0x1E85, .ll), (0x1E86, .lu),
  (0x1E87, .ll), (0x1E88, .lu), (0x1E89, .ll), (0x1E8A, .lu), (0x1E8B, .ll), (0x1E8C, .lu),
  (0x1E8D, .ll), (0x1E8E, .lu), (0x1E8F, .ll), (0x1E90, .lu), (0x1E91, .ll), (0x1E92, .lu),
  (0x1E93, .ll), (0x1E94, .lu), (0x1E9D, .ll), (0x1E9E, .lu), (0x1E9F, .ll), (0x1EA0, .lu),
  (0x1EA1, .ll), (0x1EA2, .lu), (0x1EA3, .ll), (0x1EA4, .lu), (0x1EA5, .ll), (0x1EA6, .lu),
  (0x1EA7, .ll), (0x1EA8, .lu), (0x1EA9, .ll), (0x1EAA, .lu), (0x1EAB, .ll), (0x1EAC, .lu),
  (0x1EAD, .ll), (0x1EAE, .lu), (0x1EAF, .ll), (0x1EB0, .lu), (0x1EB1, .ll), (0x1EB2, .lu),
  (0x1EB3, .ll), (0x1EB4, .lu), (0x1EB5, .ll), (0x1EB6, .lu), (0x1EB7, .ll), (0x1EB8, .lu),
  (0x1EB9, .ll), (0x1EBA, .lu), (0x1EBB, .ll), (0x1EBC, .lu), (0x1EBD, .ll), (0x1EBE, .lu),
  (0x1EBF, .ll), (0x1EC0, .lu), (0x1EC1, .ll), (0x1EC2, .lu), (0x1EC3, .ll), (0x1EC4, .lu),
  (0x1EC5, .ll), (0x1EC6, .lu), (0x1EC7, .ll), (0x1EC8, .lu), (0x1EC9, .ll), (0x1ECA, .lu),
  (0x1ECB, .ll), (0x1ECC, .lu), (0x1ECD, .ll), (0x1ECE, .lu), (0x1ECF, .ll), (0x1ED0, .lu),
  (0x1ED1, .ll), (0x1ED2, .lu), (0x1ED3, .ll), (0x1ED4, .lu), (0x1ED5, .ll), (0x1ED6, .lu),
  (0x1ED7, .ll), (0x1ED8, .lu), (0x1ED9, .ll), (0x1EDA, .lu), (0x1EDB, .ll), (0x1EDC, .lu),
  (0x1EDD, .ll), (0x1EDE, .lu), (0x1EDF, .ll), (0x1EE0, .lu), (0x1EE1, .ll), (0x1EE2, .lu),
  (0x1EE3, .ll), (0x1EE4, .lu), (0x1EE5, .ll), (0x1EE6, .lu)]

/-- The runs from U+1EE7 to U+2027. -/
def upTo2027 : CategoryRuns := [
  (0x1EE7, .ll), (0x1EE8, .lu), (0x1EE9, .ll), (0x1EEA, .lu), (0x1EEB, .ll), (0x1EEC, .lu),
  (0x1EED, .ll), (0x1EEE, .lu), (0x1EEF, .ll), (0x1EF0, .lu), (0x1EF1, .ll), (0x1EF2, .lu),
  (0x1EF3, .ll), (0x1EF4, .lu), (0x1EF5, .ll), (0x1EF6, .lu), (0x1EF7, .ll), (0x1EF8, .lu),
  (0x1EF9, .ll), (0x1EFA, .lu), (0x1EFB, .ll), (0x1EFC, .lu), (0x1EFD, .ll), (0x1EFE, .lu),
  (0x1F07, .ll), (0x1F0F, .lu), (0x1F15, .ll), (0x1F17, .cn), (0x1F1D, .lu), (0x1F1F, .cn),
  (0x1F27, .ll), (0x1F2F, .lu), (0x1F37, .ll), (0x1F3F, .lu), (0x1F45, .ll), (0x1F47, .cn),
  (0x1F4D, .lu), (0x1F4F, .cn), (0x1F57, .ll), (0x1F58, .cn), (0x1F59, .lu), (0x1F5A, .cn),
  (0x1F5B, .lu), (0x1F5C, .cn), (0x1F5D, .lu), (0x1F5E, .cn), (0x1F5F, .lu), (0x1F67, .ll),
  (0x1F6F, .lu), (0x1F7D, .ll), (0x1F7F, .cn), (0x1F87, .ll), (0x1F8F, .lt), (0x1F97, .ll),
  (0x1F9F, .lt), (0x1FA7, .ll), (0x1FAF, .lt), (0x1FB4, .ll), (0x1FB5, .cn), (0x1FB7, .ll),
  (0x1FBB, .lu), (0x1FBC, .lt), (0x1FBD, .sk), (0x1FBE, .ll), (0x1FC1, .sk), (0x1FC4, .ll),
  (0x1FC5, .cn), (0x1FC7, .ll), (0x1FCB, .lu), (0x1FCC, .lt), (0x1FCF, .sk), (0x1FD3, .ll),
  (0x1FD5, .cn), (0x1FD7, .ll), (0x1FDB, .lu), (0x1FDC, .cn), (0x1FDF, .sk), (0x1FE7, .ll),
  (0x1FEC, .lu), (0x1FEF, .sk), (0x1FF1, .cn), (0x1FF4, .ll), (0x1FF5, .cn), (0x1FF7, .ll),
  (0x1FFB, .lu), (0x1FFC, .lt), (0x1FFE, .sk), (0x1FFF, .cn), (0x200A, .zs), (0x200F, .cf),
  (0x2015, .pd), (0x2017, .po), (0x2018, .pi), (0x2019, .pf), (0x201A, .ps), (0x201C, .pi),
  (0x201D, .pf), (0x201E, .ps), (0x201F, .pi), (0x2027, .po)]

/-- The runs from U+2028 to U+21A3. -/
def upTo21A3 : CategoryRuns := [
  (0x2028, .zl), (0x2029, .zp), (0x202E, .cf), (0x202F, .zs), (0x2038, .po), (0x2039, .pi),
  (0x203A, .pf), (0x203E, .po), (0x2040, .pc), (0x2043, .po), (0x2044, .sm), (0x2045, .ps),
  (0x2046, .pe), (0x2051, .po), (0x2052, .sm), (0x2053, .po), (0x2054, .pc), (0x205E, .po),
  (0x205F, .zs), (0x2064, .cf), (0x2065, .cn), (0x206F, .cf), (0x2070, .no), (0x2071, .lm),
  (0x2073, .cn), (0x2079, .no), (0x207C, .sm), (0x207D, .ps), (0x207E, .pe), (0x207F, .lm),
  (0x2089, .no), (0x208C, .sm), (0x208D, .ps), (0x208E, .pe), (0x208F, .cn), (0x209C, .lm),
  (0x209F, .cn), (0x20C0, .sc), (0x20CF, .cn), (0x20DC, .mn), (0x20E0, .me), (0x20E1, .mn),
  (0x20E4, .me), (0x20F0, .mn), (0x20FF, .cn), (0x2101, .so), (0x2102, .lu), (0x2106, .so),
  (0x2107, .lu), (0x2109, .so), (0x210A, .ll), (0x210D, .lu), (0x210F, .ll), (0x2112, .lu),
  (0x2113, .ll), (0x2114, .so), (0x2115, .lu), (0x2117, .so), (0x2118, .sm), (0x211D, .lu),
  (0x2123, .so), (0x2124, .lu), (0x2125, .so), (0x2126, .lu), (0x2127, .so), (0x2128, .lu),
  (0x2129, .so), (0x212D, .lu), (0x212E, .so), (0x212F, .ll), (0x2133, .lu), (0x2134, .ll),
  (0x2138, .lo), (0x2139, .ll), (0x213B, .so), (0x213D, .ll), (0x213F, .lu), (0x2144, .sm),
  (0x2145, .lu), (0x2149, .ll), (0x214A, .so), (0x214B, .sm), (0x214D, .so), (0x214E, .ll),
  (0x214F, .so), (0x215F, .no), (0x2182, .nl), (0x2183, .lu), (0x2184, .ll), (0x2188, .nl),
  (0x2189, .no), (0x218B, .so), (0x218F, .cn), (0x2194, .sm), (0x2199, .so), (0x219B, .sm),
  (0x219F, .so), (0x21A0, .sm), (0x21A2, .so), (0x21A3, .sm)]

/-- The runs from U+21A4 to U+29D7. -/
def upTo29D7 : CategoryRuns := [
  (0x21A5, .so), (0x21A6, .sm), (0x21AD, .so), (0x21AE, .sm), (0x21CD, .so), (0x21CF, .sm),
  (0x21D1, .so), (0x21D2, .sm), (0x21D3, .so), (0x21D4, .sm), (0x21F3, .so), (0x22FF, .sm),
  (0x2307, .so), (0x2308, .ps), (0x2309, .pe), (0x230A, .ps), (0x230B, .pe), (0x231F, .so),
  (0x2321, .sm), (0x2328, .so), (0x2329, .ps), (0x232A, .pe), (0x237B, .so), (0x237C, .sm),
  (0x239A, .so), (0x23B3, .sm), (0x23DB, .so), (0x23E1, .sm), (0x2429, .so), (0x243F, .cn),
  (0x244A, .so), (0x245F, .cn), (0x249B, .no), (0x24E9, .so), (0x24FF, .no), (0x25B6, .so),
  (0x25B7, .sm), (0x25C0, .so), (0x25C1, .sm), (0x25F7, .so), (0x25FF, .sm), (0x266E, .so),
  (0x266F, .sm), (0x2767, .so), (0x2768, .ps), (0x2769, .pe), (0x276A, .ps), (0x276B, .pe),
  (0x276C, .ps), (0x276D, .pe), (0x276E, .ps), (0x276F, .pe), (0x2770, .ps), (0x2771, .pe),
  (0x2772, .ps), (0x2773, .pe), (0x2774, .ps), (0x2775, .pe), (0x2793, .no), (0x27BF, .so),
  (0x27C4, .sm), (0x27C5, .ps), (0x27C6, .pe), (0x27E5, .sm), (0x27E6, .ps), (0x27E7, .pe),
  (0x27E8, .ps), (0x27E9, .pe), (0x27EA, .ps), (0x27EB, .pe), (0x27EC, .ps), (0x27ED, .pe),
  (0x27EE, .ps), (0x27EF, .pe), (0x27FF, .sm), (0x28FF, .so), (0x2982, .sm), (0x2983, .ps),
  (0x2984, .pe), (0x2985, .ps), (0x2986, .pe), (0x2987, .ps), (0x2988, .pe), (0x2989, .ps),
  (0x298A, .pe), (0x298B, .ps), (0x298C, .pe), (0x298D, .ps), (0x298E, .pe), (0x298F, .ps),
  (0x2990, .pe), (0x2991, .ps), (0x2992, .pe), (0x2993, .ps), (0x2994, .pe), (0x2995, .ps),
  (0x2996, .pe), (0x2997, .ps), (0x2998, .pe), (0x29D7, .sm)]

/-- The runs from U+29D8 to U+2CBF. -/
def upTo2CBF : CategoryRuns := [
  (0x29D8, .ps), (0x29D9, .pe), (0x29DA, .ps), (0x29DB, .pe), (0x29FB, .sm), (0x29FC, .ps),
  (0x29FD, .pe), (0x2AFF, .sm), (0x2B2F, .so), (0x2B44, .sm), (0x2B46, .so), (0x2B4C, .sm),
  (0x2B73, .so), (0x2B75, .cn), (0x2B95, .so), (0x2B96, .cn), (0x2BFF, .so), (0x2C2F, .lu),
  (0x2C5F, .ll), (0x2C60, .lu), (0x2C61, .ll), (0x2C64, .lu), (0x2C66, .ll), (0x2C67, .lu),
  (0x2C68, .ll), (0x2C69, .lu), (0x2C6A, .ll), (0x2C6B, .lu), (0x2C6C, .ll), (0x2C70, .lu),
  (0x2C71, .ll), (0x2C72, .lu), (0x2C74, .ll), (0x2C75, .lu), (0x2C7B, .ll), (0x2C7D, .lm),
  (0x2C80, .lu), (0x2C81, .ll), (0x2C82, .lu), (0x2C83, .ll), (0x2C84, .lu), (0x2C85, .ll),
  (0x2C86, .lu), (0x2C87, .ll), (0x2C88, .lu), (0x2C89, .ll), (0x2C8A, .lu), (0x2C8B, .ll),
  (0x2C8C, .lu), (0x2C8D, .ll), (0x2C8E, .lu), (0x2C8F, .ll), (0x2C90, .lu), (0x2C91, .ll),
  (0x2C92, .lu), (0x2C93, .ll), (0x2C94, .lu), (0x2C95, .ll), (0x2C96, .lu), (0x2C97, .ll),
  (0x2C98, .lu), (0x2C99, .ll), (0x2C9A, .lu), (0x2C9B, .ll), (0x2C9C, .lu), (0x2C9D, .ll),
  (0x2C9E, .lu), (0x2C9F, .ll), (0x2CA0, .lu), (0x2CA1, .ll), (0x2CA2, .lu), (0x2CA3, .ll),
  (0x2CA4, .lu), (0x2CA5, .ll), (0x2CA6, .lu), (0x2CA7, .ll), (0x2CA8, .lu), (0x2CA9, .ll),
  (0x2CAA, .lu), (0x2CAB, .ll), (0x2CAC, .lu), (0x2CAD, .ll), (0x2CAE, .lu), (0x2CAF, .ll),
  (0x2CB0, .lu), (0x2CB1, .ll), (0x2CB2, .lu), (0x2CB3, .ll), (0x2CB4, .lu), (0x2CB5, .ll),
  (0x2CB6, .lu), (0x2CB7, .ll), (0x2CB8, .lu), (0x2CB9, .ll), (0x2CBA, .lu), (0x2CBB, .ll),
  (0x2CBC, .lu), (0x2CBD, .ll), (0x2CBE, .lu), (0x2CBF, .ll)]

/-- The runs from U+2CC0 to U+2E21. -/
def upTo2E21 : CategoryRuns := [
  (0x2CC0, .lu), (0x2CC1, .ll), (0x2CC2, .lu), (0x2CC3, .ll), (0x2CC4, .lu), (0x2CC5, .ll),
  (0x2CC6, .lu), (0x2CC7, .ll), (0x2CC8, .lu), (0x2CC9, .ll), (0x2CCA, .lu), (0x2CCB, .ll),
  (0x2CCC, .lu), (0x2CCD, .ll), (0x2CCE, .lu), (0x2CCF, .ll), (0x2CD0, .lu), (0x2CD1, .ll),
  (0x2CD2, .lu), (0x2CD3, .ll), (0x2CD4, .lu), (0x2CD5, .ll), (0x2CD6, .lu), (0x2CD7, .ll),
  (0x2CD8, .lu), (0x2CD9, .ll), (0x2CDA, .lu), (0x2CDB, .ll), (0x2CDC, .lu), (0x2CDD, .ll),
  (0x2CDE, .lu), (0x2CDF, .ll), (0x2CE0, .lu), (0x2CE1, .ll), (0x2CE2, .lu), (0x2CE4, .ll),
  (0x2CEA, .so), (0x2CEB, .lu), (0x2CEC, .ll), (0x2CED, .lu), (0x2CEE, .ll), (0x2CF1, .mn),
  (0x2CF2, .lu), (0x2CF3, .ll), (0x2CF8, .cn), (0x2CFC, .po), (0x2CFD, .no), (0x2CFF, .po),
  (0x2D25, .ll), (0x2D26, .cn), (0x2D27, .ll), (0x2D2C, .cn), (0x2D2D, .ll), (0x2D2F, .cn),
  (0x2D67, .lo), (0x2D6E, .cn), (0x2D6F, .lm), (0x2D70, .po), (0x2D7E, .cn), (0x2D7F, .mn),
  (0x2D96, .lo), (0x2D9F, .cn), (0x2DA6, .lo), (0x2DA7, .cn), (0x2DAE, .lo), (0x2DAF, .cn),
  (0x2DB6, .lo), (0x2DB7, .cn), (0x2DBE, .lo), (0x2DBF, .cn), (0x2DC6, .lo), (0x2DC7, .cn),
  (0x2DCE, .lo), (0x2DCF, .cn), (0x2DD6, .lo), (0x2DD7, .cn), (0x2DDE, .lo), (0x2DDF, .cn),
  (0x2DFF, .mn), (0x2E01, .po), (0x2E02, .pi), (0x2E03, .pf), (0x2E04, .pi), (0x2E05, .pf),
  (0x2E08, .po), (0x2E09, .pi), (0x2E0A, .pf), (0x2E0B, .po), (0x2E0C, .pi), (0x2E0D, .pf),
  (0x2E16, .po), (0x2E17, .pd), (0x2E19, .po), (0x2E1A, .pd), (0x2E1B, .po), (0x2E1C, .pi),
  (0x2E1D, .pf), (0x2E1F, .po), (0x2E20, .pi), (0x2E21, .pf)]

/-- The runs from U+2E22 to U+31EF. -/
def upTo31EF : CategoryRuns := [
  (0x2E22, .ps), (0x2E23, .pe), (0x2E24, .ps), (0x2E25, .pe), (0x2E26, .ps), (0x2E27, .pe),
  (0x2E28, .ps), (0x2E29, .pe), (0x2E2E, .po), (0x2E2F, .lm), (0x2E39, .po), (0x2E3B, .pd),
  (0x2E3F, .po), (0x2E40, .pd), (0x2E41, .po), (0x2E42, .ps), (0x2E4F, .po), (0x2E51, .so),
  (0x2E54, .po), (0x2E55, .ps), (0x2E56, .pe), (0x2E57, .ps), (0x2E58, .pe), (0x2E59, .ps),
  (0x2E5A, .pe), (0x2E5B, .ps), (0x2E5C, .pe), (0x2E5D, .pd), (0x2E7F, .cn), (0x2E99, .so),
  (0x2E9A, .cn), (0x2EF3, .so), (0x2EFF, .cn), (0x2FD5, .so), (0x2FEF, .cn), (0x2FFF, .so),
  (0x3000, .zs), (0x3003, .po), (0x3004, .so), (0x3005, .lm), (0x3006, .lo), (0x3007, .nl),
  (0x3008, .ps), (0x3009, .pe), (0x300A, .ps), (0x300B, .pe), (0x300C, .ps), (0x300D, .pe),
  (0x300E, .ps), (0x300F, .pe), (0x3010, .ps), (0x3011, .pe), (0x3013, .so), (0x3014, .ps),
  (0x3015, .pe), (0x3016, .ps), (0x3017, .pe), (0x3018, .ps), (0x3019, .pe), (0x301A, .ps),
  (0x301B, .pe), (0x301C, .pd), (0x301D, .ps), (0x301F, .pe), (0x3020, .so), (0x3029, .nl),
  (0x302D, .mn), (0x302F, .mc), (0x3030, .pd), (0x3035, .lm), (0x3037, .so), (0x303A, .nl),
  (0x303B, .lm), (0x303C, .lo), (0x303D, .po), (0x303F, .so), (0x3040, .cn), (0x3096, .lo),
  (0x3098, .cn), (0x309A, .mn), (0x309C, .sk), (0x309E, .lm), (0x309F, .lo), (0x30A0, .pd),
  (0x30FA, .lo), (0x30FB, .po), (0x30FE, .lm), (0x30FF, .lo), (0x3104, .cn), (0x312F, .lo),
  (0x3130, .cn), (0x318E, .lo), (0x318F, .cn), (0x3191, .so), (0x3195, .no), (0x319F, .so),
  (0x31BF, .lo), (0x31E5, .so), (0x31EE, .cn), (0x31EF, .so)]

/-- The runs from U+31F0 to U+A68F. -/
def upToA68F : CategoryRuns := [
  (0x31FF, .lo), (0x321E, .so), (0x321F, .cn), (0x3229, .no), (0x3247, .so), (0x324F, .no),
  (0x3250, .so), (0x325F, .no), (0x327F, .so), (0x3289, .no), (0x32B0, .so), (0x32BF, .no),
  (0x33FF, .so), (0x4DBF, .lo), (0x4DFF, .so), (0xA014, .lo), (0xA015, .lm), (0xA48C, .lo),
  (0xA48F, .cn), (0xA4C6, .so), (0xA4CF, .cn), (0xA4F7, .lo), (0xA4FD, .lm), (0xA4FF, .po),
  (0xA60B, .lo), (0xA60C, .lm), (0xA60F, .po), (0xA61F, .lo), (0xA629, .nd), (0xA62B, .lo),
  (0xA63F, .cn), (0xA640, .lu), (0xA641, .ll), (0xA642, .lu), (0xA643, .ll), (0xA644, .lu),
  (0xA645, .ll), (0xA646, .lu), (0xA647, .ll), (0xA648, .lu), (0xA649, .ll), (0xA64A, .lu),
  (0xA64B, .ll), (0xA64C, .lu), (0xA64D, .ll), (0xA64E, .lu), (0xA64F, .ll), (0xA650, .lu),
  (0xA651, .ll), (0xA652, .lu), (0xA653, .ll), (0xA654, .lu), (0xA655, .ll), (0xA656, .lu),
  (0xA657, .ll), (0xA658, .lu), (0xA659, .ll), (0xA65A, .lu), (0xA65B, .ll), (0xA65C, .lu),
  (0xA65D, .ll), (0xA65E, .lu), (0xA65F, .ll), (0xA660, .lu), (0xA661, .ll), (0xA662, .lu),
  (0xA663, .ll), (0xA664, .lu), (0xA665, .ll), (0xA666, .lu), (0xA667, .ll), (0xA668, .lu),
  (0xA669, .ll), (0xA66A, .lu), (0xA66B, .ll), (0xA66C, .lu), (0xA66D, .ll), (0xA66E, .lo),
  (0xA66F, .mn), (0xA672, .me), (0xA673, .po), (0xA67D, .mn), (0xA67E, .po), (0xA67F, .lm),
  (0xA680, .lu), (0xA681, .ll), (0xA682, .lu), (0xA683, .ll), (0xA684, .lu), (0xA685, .ll),
  (0xA686, .lu), (0xA687, .ll), (0xA688, .lu), (0xA689, .ll), (0xA68A, .lu), (0xA68B, .ll),
  (0xA68C, .lu), (0xA68D, .ll), (0xA68E, .lu), (0xA68F, .ll)]

/-- The runs from U+A690 to U+A778. -/
def upToA778 : CategoryRuns := [
  (0xA690, .lu), (0xA691, .ll), (0xA692, .lu), (0xA693, .ll), (0xA694, .lu), (0xA695, .ll),
  (0xA696, .lu), (0xA697, .ll), (0xA698, .lu), (0xA699, .ll), (0xA69A, .lu), (0xA69B, .ll),
  (0xA69D, .lm), (0xA69F, .mn), (0xA6E5, .lo), (0xA6EF, .nl), (0xA6F1, .mn), (0xA6F7, .po),
  (0xA6FF, .cn), (0xA716, .sk), (0xA71F, .lm), (0xA721, .sk), (0xA722, .lu), (0xA723, .ll),
  (0xA724, .lu), (0xA725, .ll), (0xA726, .lu), (0xA727, .ll), (0xA728, .lu), (0xA729, .ll),
  (0xA72A, .lu), (0xA72B, .ll), (0xA72C, .lu), (0xA72D, .ll), (0xA72E, .lu), (0xA731, .ll),
  (0xA732, .lu), (0xA733, .ll), (0xA734, .lu), (0xA735, .ll), (0xA736, .lu), (0xA737, .ll),
  (0xA738, .lu), (0xA739, .ll), (0xA73A, .lu), (0xA73B, .ll), (0xA73C, .lu), (0xA73D, .ll),
  (0xA73E, .lu), (0xA73F, .ll), (0xA740, .lu), (0xA741, .ll), (0xA742, .lu), (0xA743, .ll),
  (0xA744, .lu), (0xA745, .ll), (0xA746, .lu), (0xA747, .ll), (0xA748, .lu), (0xA749, .ll),
  (0xA74A, .lu), (0xA74B, .ll), (0xA74C, .lu), (0xA74D, .ll), (0xA74E, .lu), (0xA74F, .ll),
  (0xA750, .lu), (0xA751, .ll), (0xA752, .lu), (0xA753, .ll), (0xA754, .lu), (0xA755, .ll),
  (0xA756, .lu), (0xA757, .ll), (0xA758, .lu), (0xA759, .ll), (0xA75A, .lu), (0xA75B, .ll),
  (0xA75C, .lu), (0xA75D, .ll), (0xA75E, .lu), (0xA75F, .ll), (0xA760, .lu), (0xA761, .ll),
  (0xA762, .lu), (0xA763, .ll), (0xA764, .lu), (0xA765, .ll), (0xA766, .lu), (0xA767, .ll),
  (0xA768, .lu), (0xA769, .ll), (0xA76A, .lu), (0xA76B, .ll), (0xA76C, .lu), (0xA76D, .ll),
  (0xA76E, .lu), (0xA76F, .ll), (0xA770, .lm), (0xA778, .ll)]

/-- The runs from U+A779 to U+A827. -/
def upToA827 : CategoryRuns := [
  (0xA779, .lu), (0xA77A, .ll), (0xA77B, .lu), (0xA77C, .ll), (0xA77E, .lu), (0xA77F, .ll),
  (0xA780, .lu), (0xA781, .ll), (0xA782, .lu), (0xA783, .ll), (0xA784, .lu), (0xA785, .ll),
  (0xA786, .lu), (0xA787, .ll), (0xA788, .lm), (0xA78A, .sk), (0xA78B, .lu), (0xA78C, .ll),
  (0xA78D, .lu), (0xA78E, .ll), (0xA78F, .lo), (0xA790, .lu), (0xA791, .ll), (0xA792, .lu),
  (0xA795, .ll), (0xA796, .lu), (0xA797, .ll), (0xA798, .lu), (0xA799, .ll), (0xA79A, .lu),
  (0xA79B, .ll), (0xA79C, .lu), (0xA79D, .ll), (0xA79E, .lu), (0xA79F, .ll), (0xA7A0, .lu),
  (0xA7A1, .ll), (0xA7A2, .lu), (0xA7A3, .ll), (0xA7A4, .lu), (0xA7A5, .ll), (0xA7A6, .lu),
  (0xA7A7, .ll), (0xA7A8, .lu), (0xA7A9, .ll), (0xA7AE, .lu), (0xA7AF, .ll), (0xA7B4, .lu),
  (0xA7B5, .ll), (0xA7B6, .lu), (0xA7B7, .ll), (0xA7B8, .lu), (0xA7B9, .ll), (0xA7BA, .lu),
  (0xA7BB, .ll), (0xA7BC, .lu), (0xA7BD, .ll), (0xA7BE, .lu), (0xA7BF, .ll), (0xA7C0, .lu),
  (0xA7C1, .ll), (0xA7C2, .lu), (0xA7C3, .ll), (0xA7C7, .lu), (0xA7C8, .ll), (0xA7C9, .lu),
  (0xA7CA, .ll), (0xA7CC, .lu), (0xA7CD, .ll), (0xA7CF, .cn), (0xA7D0, .lu), (0xA7D1, .ll),
  (0xA7D2, .cn), (0xA7D3, .ll), (0xA7D4, .cn), (0xA7D5, .ll), (0xA7D6, .lu), (0xA7D7, .ll),
  (0xA7D8, .lu), (0xA7D9, .ll), (0xA7DA, .lu), (0xA7DB, .ll), (0xA7DC, .lu), (0xA7F1, .cn),
  (0xA7F4, .lm), (0xA7F5, .lu), (0xA7F6, .ll), (0xA7F7, .lo), (0xA7F9, .lm), (0xA7FA, .ll),
  (0xA801, .lo), (0xA802, .mn), (0xA805, .lo), (0xA806, .mn), (0xA80A, .lo), (0xA80B, .mn),
  (0xA822, .lo), (0xA824, .mc), (0xA826, .mn), (0xA827, .mc)]

/-- The runs from U+A828 to U+AAEB. -/
def upToAAEB : CategoryRuns := [
  (0xA82B, .so), (0xA82C, .mn), (0xA82F, .cn), (0xA835, .no), (0xA837, .so), (0xA838, .sc),
  (0xA839, .so), (0xA83F, .cn), (0xA873, .lo), (0xA877, .po), (0xA87F, .cn), (0xA881, .mc),
  (0xA8B3, .lo), (0xA8C3, .mc), (0xA8C5, .mn), (0xA8CD, .cn), (0xA8CF, .po), (0xA8D9, .nd),
  (0xA8DF, .cn), (0xA8F1, .mn), (0xA8F7, .lo), (0xA8FA, .po), (0xA8FB, .lo), (0xA8FC, .po),
  (0xA8FE, .lo), (0xA8FF, .mn), (0xA909, .nd), (0xA925, .lo), (0xA92D, .mn), (0xA92F, .po),
  (0xA946, .lo), (0xA951, .mn), (0xA953, .mc), (0xA95E, .cn), (0xA95F, .po), (0xA97C, .lo),
  (0xA97F, .cn), (0xA982, .mn), (0xA983, .mc), (0xA9B2, .lo), (0xA9B3, .mn), (0xA9B5, .mc),
  (0xA9B9, .mn), (0xA9BB, .mc), (0xA9BD, .mn), (0xA9C0, .mc), (0xA9CD, .po), (0xA9CE, .cn),
  (0xA9CF, .lm), (0xA9D9, .nd), (0xA9DD, .cn), (0xA9DF, .po), (0xA9E4, .lo), (0xA9E5, .mn),
  (0xA9E6, .lm), (0xA9EF, .lo), (0xA9F9, .nd), (0xA9FE, .lo), (0xA9FF, .cn), (0xAA28, .lo),
  (0xAA2E, .mn), (0xAA30, .mc), (0xAA32, .mn), (0xAA34, .mc), (0xAA36, .mn), (0xAA3F, .cn),
  (0xAA42, .lo), (0xAA43, .mn), (0xAA4B, .lo), (0xAA4C, .mn), (0xAA4D, .mc), (0xAA4F, .cn),
  (0xAA59, .nd), (0xAA5B, .cn), (0xAA5F, .po), (0xAA6F, .lo), (0xAA70, .lm), (0xAA76, .lo),
  (0xAA79, .so), (0xAA7A, .lo), (0xAA7B, .mc), (0xAA7C, .mn), (0xAA7D, .mc), (0xAAAF, .lo),
  (0xAAB0, .mn), (0xAAB1, .lo), (0xAAB4, .mn), (0xAAB6, .lo), (0xAAB8, .mn), (0xAABD, .lo),
  (0xAABF, .mn), (0xAAC0, .lo), (0xAAC1, .mn), (0xAAC2, .lo), (0xAADA, .cn), (0xAADC, .lo),
  (0xAADD, .lm), (0xAADF, .po), (0xAAEA, .lo), (0xAAEB, .mc)]

/-- The runs from U+AAEC to U+FE3A. -/
def upToFE3A : CategoryRuns := [
  (0xAAED, .mn), (0xAAEF, .mc), (0xAAF1, .po), (0xAAF2, .lo), (0xAAF4, .lm), (0xAAF5, .mc),
  (0xAAF6, .mn), (0xAB00, .cn), (0xAB06, .lo), (0xAB08, .cn), (0xAB0E, .lo), (0xAB10, .cn),
  (0xAB16, .lo), (0xAB1F, .cn), (0xAB26, .lo), (0xAB27, .cn), (0xAB2E, .lo), (0xAB2F, .cn),
  (0xAB5A, .ll), (0xAB5B, .sk), (0xAB5F, .lm), (0xAB68, .ll), (0xAB69, .lm), (0xAB6B, .sk),
  (0xAB6F, .cn), (0xABBF, .ll), (0xABE2, .lo), (0xABE4, .mc), (0xABE5, .mn), (0xABE7, .mc),
  (0xABE8, .mn), (0xABEA, .mc), (0xABEB, .po), (0xABEC, .mc), (0xABED, .mn), (0xABEF, .cn),
  (0xABF9, .nd), (0xABFF, .cn), (0xD7A3, .lo), (0xD7AF, .cn), (0xD7C6, .lo), (0xD7CA, .cn),
  (0xD7FB, .lo), (0xD7FF, .cn), (0xDFFF, .cs), (0xF8FF, .co), (0xFA6D, .lo), (0xFA6F, .cn),
  (0xFAD9, .lo), (0xFAFF, .cn), (0xFB06, .ll), (0xFB12, .cn), (0xFB17, .ll), (0xFB1C, .cn),
  (0xFB1D, .lo), (0xFB1E, .mn), (0xFB28, .lo), (0xFB29, .sm), (0xFB36, .lo), (0xFB37, .cn),
  (0xFB3C, .lo), (0xFB3D, .cn), (0xFB3E, .lo), (0xFB3F, .cn), (0xFB41, .lo), (0xFB42, .cn),
  (0xFB44, .lo), (0xFB45, .cn), (0xFBB1, .lo), (0xFBC2, .sk), (0xFBD2, .cn), (0xFD3D, .lo),
  (0xFD3E, .pe), (0xFD3F, .ps), (0xFD4F, .so), (0xFD8F, .lo), (0xFD91, .cn), (0xFDC7, .lo),
  (0xFDCE, .cn), (0xFDCF, .so), (0xFDEF, .cn), (0xFDFB, .lo), (0xFDFC, .sc), (0xFDFF, .so),
  (0xFE0F, .mn), (0xFE16, .po), (0xFE17, .ps), (0xFE18, .pe), (0xFE19, .po), (0xFE1F, .cn),
  (0xFE2F, .mn), (0xFE30, .po), (0xFE32, .pd), (0xFE34, .pc), (0xFE35, .ps), (0xFE36, .pe),
  (0xFE37, .ps), (0xFE38, .pe), (0xFE39, .ps), (0xFE3A, .pe)]

/-- The runs from U+FE3B to U+1000B. -/
def upTo1000B : CategoryRuns := [
  (0xFE3B, .ps), (0xFE3C, .pe), (0xFE3D, .ps), (0xFE3E, .pe), (0xFE3F, .ps), (0xFE40, .pe),
  (0xFE41, .ps), (0xFE42, .pe), (0xFE43, .ps), (0xFE44, .pe), (0xFE46, .po), (0xFE47, .ps),
  (0xFE48, .pe), (0xFE4C, .po), (0xFE4F, .pc), (0xFE52, .po), (0xFE53, .cn), (0xFE57, .po),
  (0xFE58, .pd), (0xFE59, .ps), (0xFE5A, .pe), (0xFE5B, .ps), (0xFE5C, .pe), (0xFE5D, .ps),
  (0xFE5E, .pe), (0xFE61, .po), (0xFE62, .sm), (0xFE63, .pd), (0xFE66, .sm), (0xFE67, .cn),
  (0xFE68, .po), (0xFE69, .sc), (0xFE6B, .po), (0xFE6F, .cn), (0xFE74, .lo), (0xFE75, .cn),
  (0xFEFC, .lo), (0xFEFE, .cn), (0xFEFF, .cf), (0xFF00, .cn), (0xFF03, .po), (0xFF04, .sc),
  (0xFF07, .po), (0xFF08, .ps), (0xFF09, .pe), (0xFF0A, .po), (0xFF0B, .sm), (0xFF0C, .po),
  (0xFF0D, .pd), (0xFF0F, .po), (0xFF19, .nd), (0xFF1B, .po), (0xFF1E, .sm), (0xFF20, .po),
  (0xFF3A, .lu), (0xFF3B, .ps), (0xFF3C, .po), (0xFF3D, .pe), (0xFF3E, .sk), (0xFF3F, .pc),
  (0xFF40, .sk), (0xFF5A, .ll), (0xFF5B, .ps), (0xFF5C, .sm), (0xFF5D, .pe), (0xFF5E, .sm),
  (0xFF5F, .ps), (0xFF60, .pe), (0xFF61, .po), (0xFF62, .ps), (0xFF63, .pe), (0xFF65, .po),
  (0xFF6F, .lo), (0xFF70, .lm), (0xFF9D, .lo), (0xFF9F, .lm), (0xFFBE, .lo), (0xFFC1, .cn),
  (0xFFC7, .lo), (0xFFC9, .cn), (0xFFCF, .lo), (0xFFD1, .cn), (0xFFD7, .lo), (0xFFD9, .cn),
  (0xFFDC, .lo), (0xFFDF, .cn), (0xFFE1, .sc), (0xFFE2, .sm), (0xFFE3, .sk), (0xFFE4, .so),
  (0xFFE6, .sc), (0xFFE7, .cn), (0xFFE8, .so), (0xFFEC, .sm), (0xFFEE, .so), (0xFFF8, .cn),
  (0xFFFB, .cf), (0xFFFD, .so), (0xFFFF, .cn), (0x1000B, .lo)]

/-- The runs from U+1000C to U+107B0. -/
def upTo107B0 : CategoryRuns := [
  (0x1000C, .cn), (0x10026, .lo), (0x10027, .cn), (0x1003A, .lo), (0x1003B, .cn), (0x1003D, .lo),
  (0x1003E, .cn), (0x1004D, .lo), (0x1004F, .cn), (0x1005D, .lo), (0x1007F, .cn), (0x100FA, .lo),
  (0x100FF, .cn), (0x10102, .po), (0x10106, .cn), (0x10133, .no), (0x10136, .cn), (0x1013F, .so),
  (0x10174, .nl), (0x10178, .no), (0x10189, .so), (0x1018B, .no), (0x1018E, .so), (0x1018F, .cn),
  (0x1019C, .so), (0x1019F, .cn), (0x101A0, .so), (0x101CF, .cn), (0x101FC, .so), (0x101FD, .mn),
  (0x1027F, .cn), (0x1029C, .lo), (0x1029F, .cn), (0x102D0, .lo), (0x102DF, .cn), (0x102E0, .mn),
  (0x102FB, .no), (0x102FF, .cn), (0x1031F, .lo), (0x10323, .no), (0x1032C, .cn), (0x10340, .lo),
  (0x10341, .nl), (0x10349, .lo), (0x1034A, .nl), (0x1034F, .cn), (0x10375, .lo), (0x1037A, .mn),
  (0x1037F, .cn), (0x1039D, .lo), (0x1039E, .cn), (0x1039F, .po), (0x103C3, .lo), (0x103C7, .cn),
  (0x103CF, .lo), (0x103D0, .po), (0x103D5, .nl), (0x103FF, .cn), (0x10427, .lu), (0x1044F, .ll),
  (0x1049D, .lo), (0x1049F, .cn), (0x104A9, .nd), (0x104AF, .cn), (0x104D3, .lu), (0x104D7, .cn),
  (0x104FB, .ll), (0x104FF, .cn), (0x10527, .lo), (0x1052F, .cn), (0x10563, .lo), (0x1056E, .cn),
  (0x1056F, .po), (0x1057A, .lu), (0x1057B, .cn), (0x1058A, .lu), (0x1058B, .cn), (0x10592, .lu),
  (0x10593, .cn), (0x10595, .lu), (0x10596, .cn), (0x105A1, .ll), (0x105A2, .cn), (0x105B1, .ll),
  (0x105B2, .cn), (0x105B9, .ll), (0x105BA, .cn), (0x105BC, .ll), (0x105BF, .cn), (0x105F3, .lo),
  (0x105FF, .cn), (0x10736, .lo), (0x1073F, .cn), (0x10755, .lo), (0x1075F, .cn), (0x10767, .lo),
  (0x1077F, .cn), (0x10785, .lm), (0x10786, .cn), (0x107B0, .lm)]

/-- The runs from U+107B1 to U+10D23. -/
def upTo10D23 : CategoryRuns := [
  (0x107B1, .cn), (0x107BA, .lm), (0x107FF, .cn), (0x10805, .lo), (0x10807, .cn), (0x10808, .lo),
  (0x10809, .cn), (0x10835, .lo), (0x10836, .cn), (0x10838, .lo), (0x1083B, .cn), (0x1083C, .lo),
  (0x1083E, .cn), (0x10855, .lo), (0x10856, .cn), (0x10857, .po), (0x1085F, .no), (0x10876, .lo),
  (0x10878, .so), (0x1087F, .no), (0x1089E, .lo), (0x108A6, .cn), (0x108AF, .no), (0x108DF, .cn),
  (0x108F2, .lo), (0x108F3, .cn), (0x108F5, .lo), (0x108FA, .cn), (0x108FF, .no), (0x10915, .lo),
  (0x1091B, .no), (0x1091E, .cn), (0x1091F, .po), (0x10939, .lo), (0x1093E, .cn), (0x1093F, .po),
  (0x1097F, .cn), (0x109B7, .lo), (0x109BB, .cn), (0x109BD, .no), (0x109BF, .lo), (0x109CF, .no),
  (0x109D1, .cn), (0x109FF, .no), (0x10A00, .lo), (0x10A03, .mn), (0x10A04, .cn), (0x10A06, .mn),
  (0x10A0B, .cn), (0x10A0F, .mn), (0x10A13, .lo), (0x10A14, .cn), (0x10A17, .lo), (0x10A18, .cn),
  (0x10A35, .lo), (0x10A37, .cn), (0x10A3A, .mn), (0x10A3E, .cn), (0x10A3F, .mn), (0x10A48, .no),
  (0x10A4F, .cn), (0x10A58, .po), (0x10A5F, .cn), (0x10A7C, .lo), (0x10A7E, .no), (0x10A7F, .po),
  (0x10A9C, .lo), (0x10A9F, .no), (0x10ABF, .cn), (0x10AC7, .lo), (0x10AC8, .so), (0x10AE4, .lo),
  (0x10AE6, .mn), (0x10AEA, .cn), (0x10AEF, .no), (0x10AF6, .po), (0x10AFF, .cn), (0x10B35, .lo),
  (0x10B38, .cn), (0x10B3F, .po), (0x10B55, .lo), (0x10B57, .cn), (0x10B5F, .no), (0x10B72, .lo),
  (0x10B77, .cn), (0x10B7F, .no), (0x10B91, .lo), (0x10B98, .cn), (0x10B9C, .po), (0x10BA8, .cn),
  (0x10BAF, .no), (0x10BFF, .cn), (0x10C48, .lo), (0x10C7F, .cn), (0x10CB2, .lu), (0x10CBF, .cn),
  (0x10CF2, .ll), (0x10CF9, .cn), (0x10CFF, .no), (0x10D23, .lo)]

/-- The runs from U+10D24 to U+111B5. -/
def upTo111B5 : CategoryRuns := [
  (0x10D27, .mn), (0x10D2F, .cn), (0x10D39, .nd), (0x10D3F, .cn), (0x10D49, .nd), (0x10D4D, .lo),
  (0x10D4E, .lm), (0x10D4F, .lo), (0x10D65, .lu), (0x10D68, .cn), (0x10D6D, .mn), (0x10D6E, .pd),
  (0x10D6F, .lm), (0x10D85, .ll), (0x10D8D, .cn), (0x10D8F, .sm), (0x10E5F, .cn), (0x10E7E, .no),
  (0x10E7F, .cn), (0x10EA9, .lo), (0x10EAA, .cn), (0x10EAC, .mn), (0x10EAD, .pd), (0x10EAF, .cn),
  (0x10EB1, .lo), (0x10EC1, .cn), (0x10EC4, .lo), (0x10EFB, .cn), (0x10EFF, .mn), (0x10F1C, .lo),
  (0x10F26, .no), (0x10F27, .lo), (0x10F2F, .cn), (0x10F45, .lo), (0x10F50, .mn), (0x10F54, .no),
  (0x10F59, .po), (0x10F6F, .cn), (0x10F81, .lo), (0x10F85, .mn), (0x10F89, .po), (0x10FAF, .cn),
  (0x10FC4, .lo), (0x10FCB, .no), (0x10FDF, .cn), (0x10FF6, .lo), (0x10FFF, .cn), (0x11000, .mc),
  (0x11001, .mn), (0x11002, .mc), (0x11037, .lo), (0x11046, .mn), (0x1104D, .po), (0x11051, .cn),
  (0x11065, .no), (0x1106F, .nd), (0x11070, .mn), (0x11072, .lo), (0x11074, .mn), (0x11075, .lo),
  (0x1107E, .cn), (0x11081, .mn), (0x11082, .mc), (0x110AF, .lo), (0x110B2, .mc), (0x110B6, .mn),
  (0x110B8, .mc), (0x110BA, .mn), (0x110BC, .po), (0x110BD, .cf), (0x110C1, .po), (0x110C2, .mn),
  (0x110CC, .cn), (0x110CD, .cf), (0x110CF, .cn), (0x110E8, .lo), (0x110EF, .cn), (0x110F9, .nd),
  (0x110FF, .cn), (0x11102, .mn), (0x11126, .lo), (0x1112B, .mn), (0x1112C, .mc), (0x11134, .mn),
  (0x11135, .cn), (0x1113F, .nd), (0x11143, .po), (0x11144, .lo), (0x11146, .mc), (0x11147, .lo),
  (0x1114F, .cn), (0x11172, .lo), (0x11173, .mn), (0x11175, .po), (0x11176, .lo), (0x1117F, .cn),
  (0x11181, .mn), (0x11182, .mc), (0x111B2, .lo), (0x111B5, .mc)]

/-- The runs from U+111B6 to U+113C6. -/
def upTo113C6 : CategoryRuns := [
  (0x111BE, .mn), (0x111C0, .mc), (0x111C4, .lo), (0x111C8, .po), (0x111CC, .mn), (0x111CD, .po),
  (0x111CE, .mc), (0x111CF, .mn), (0x111D9, .nd), (0x111DA, .lo), (0x111DB, .po), (0x111DC, .lo),
  (0x111DF, .po), (0x111E0, .cn), (0x111F4, .no), (0x111FF, .cn), (0x11211, .lo), (0x11212, .cn),
  (0x1122B, .lo), (0x1122E, .mc), (0x11231, .mn), (0x11233, .mc), (0x11234, .mn), (0x11235, .mc),
  (0x11237, .mn), (0x1123D, .po), (0x1123E, .mn), (0x11240, .lo), (0x11241, .mn), (0x1127F, .cn),
  (0x11286, .lo), (0x11287, .cn), (0x11288, .lo), (0x11289, .cn), (0x1128D, .lo), (0x1128E, .cn),
  (0x1129D, .lo), (0x1129E, .cn), (0x112A8, .lo), (0x112A9, .po), (0x112AF, .cn), (0x112DE, .lo),
  (0x112DF, .mn), (0x112E2, .mc), (0x112EA, .mn), (0x112EF, .cn), (0x112F9, .nd), (0x112FF, .cn),
  (0x11301, .mn), (0x11303, .mc), (0x11304, .cn), (0x1130C, .lo), (0x1130E, .cn), (0x11310, .lo),
  (0x11312, .cn), (0x11328, .lo), (0x11329, .cn), (0x11330, .lo), (0x11331, .cn), (0x11333, .lo),
  (0x11334, .cn), (0x11339, .lo), (0x1133A, .cn), (0x1133C, .mn), (0x1133D, .lo), (0x1133F, .mc),
  (0x11340, .mn), (0x11344, .mc), (0x11346, .cn), (0x11348, .mc), (0x1134A, .cn), (0x1134D, .mc),
  (0x1134F, .cn), (0x11350, .lo), (0x11356, .cn), (0x11357, .mc), (0x1135C, .cn), (0x11361, .lo),
  (0x11363, .mc), (0x11365, .cn), (0x1136C, .mn), (0x1136F, .cn), (0x11374, .mn), (0x1137F, .cn),
  (0x11389, .lo), (0x1138A, .cn), (0x1138B, .lo), (0x1138D, .cn), (0x1138E, .lo), (0x1138F, .cn),
  (0x113B5, .lo), (0x113B6, .cn), (0x113B7, .lo), (0x113BA, .mc), (0x113C0, .mn), (0x113C1, .cn),
  (0x113C2, .mc), (0x113C4, .cn), (0x113C5, .mc), (0x113C6, .cn)]

/-- The runs from U+113C7 to U+1173E. -/
def upTo1173E : CategoryRuns := [
  (0x113CA, .mc), (0x113CB, .cn), (0x113CD, .mc), (0x113CE, .mn), (0x113CF, .mc), (0x113D0, .mn),
  (0x113D1, .lo), (0x113D2, .mn), (0x113D3, .lo), (0x113D5, .po), (0x113D6, .cn), (0x113D8, .po),
  (0x113E0, .cn), (0x113E2, .mn), (0x113FF, .cn), (0x11434, .lo), (0x11437, .mc), (0x1143F, .mn),
  (0x11441, .mc), (0x11444, .mn), (0x11445, .mc), (0x11446, .mn), (0x1144A, .lo), (0x1144F, .po),
  (0x11459, .nd), (0x1145B, .po), (0x1145C, .cn), (0x1145D, .po), (0x1145E, .mn), (0x11461, .lo),
  (0x1147F, .cn), (0x114AF, .lo), (0x114B2, .mc), (0x114B8, .mn), (0x114B9, .mc), (0x114BA, .mn),
  (0x114BE, .mc), (0x114C0, .mn), (0x114C1, .mc), (0x114C3, .mn), (0x114C5, .lo), (0x114C6, .po),
  (0x114C7, .lo), (0x114CF, .cn), (0x114D9, .nd), (0x1157F, .cn), (0x115AE, .lo), (0x115B1, .mc),
  (0x115B5, .mn), (0x115B7, .cn), (0x115BB, .mc), (0x115BD, .mn), (0x115BE, .mc), (0x115C0, .mn),
  (0x115D7, .po), (0x115DB, .lo), (0x115DD, .mn), (0x115FF, .cn), (0x1162F, .lo), (0x11632, .mc),
  (0x1163A, .mn), (0x1163C, .mc), (0x1163D, .mn), (0x1163E, .mc), (0x11640, .mn), (0x11643, .po),
  (0x11644, .lo), (0x1164F, .cn), (0x11659, .nd), (0x1165F, .cn), (0x1166C, .po), (0x1167F, .cn),
  (0x116AA, .lo), (0x116AB, .mn), (0x116AC, .mc), (0x116AD, .mn), (0x116AF, .mc), (0x116B5, .mn),
  (0x116B6, .mc), (0x116B7, .mn), (0x116B8, .lo), (0x116B9, .po), (0x116BF, .cn), (0x116C9, .nd),
  (0x116CF, .cn), (0x116E3, .nd), (0x116FF, .cn), (0x1171A, .lo), (0x1171C, .cn), (0x1171D, .mn),
  (0x1171E, .mc), (0x1171F, .mn), (0x11721, .mc), (0x11725, .mn), (0x11726, .mc), (0x1172B, .mn),
  (0x1172F, .cn), (0x11739, .nd), (0x1173B, .no), (0x1173E, .po)]

/-- The runs from U+1173F to U+11C6F. -/
def upTo11C6F : CategoryRuns := [
  (0x1173F, .so), (0x11746, .lo), (0x117FF, .cn), (0x1182B, .lo), (0x1182E, .mc), (0x11837, .mn),
  (0x11838, .mc), (0x1183A, .mn), (0x1183B, .po), (0x1189F, .cn), (0x118BF, .lu), (0x118DF, .ll),
  (0x118E9, .nd), (0x118F2, .no), (0x118FE, .cn), (0x11906, .lo), (0x11908, .cn), (0x11909, .lo),
  (0x1190B, .cn), (0x11913, .lo), (0x11914, .cn), (0x11916, .lo), (0x11917, .cn), (0x1192F, .lo),
  (0x11935, .mc), (0x11936, .cn), (0x11938, .mc), (0x1193A, .cn), (0x1193C, .mn), (0x1193D, .mc),
  (0x1193E, .mn), (0x1193F, .lo), (0x11940, .mc), (0x11941, .lo), (0x11942, .mc), (0x11943, .mn),
  (0x11946, .po), (0x1194F, .cn), (0x11959, .nd), (0x1199F, .cn), (0x119A7, .lo), (0x119A9, .cn),
  (0x119D0, .lo), (0x119D3, .mc), (0x119D7, .mn), (0x119D9, .cn), (0x119DB, .mn), (0x119DF, .mc),
  (0x119E0, .mn), (0x119E1, .lo), (0x119E2, .po), (0x119E3, .lo), (0x119E4, .mc), (0x119FF, .cn),
  (0x11A00, .lo), (0x11A0A, .mn), (0x11A32, .lo), (0x11A38, .mn), (0x11A39, .mc), (0x11A3A, .lo),
  (0x11A3E, .mn), (0x11A46, .po), (0x11A47, .mn), (0x11A4F, .cn), (0x11A50, .lo), (0x11A56, .mn),
  (0x11A58, .mc), (0x11A5B, .mn), (0x11A89, .lo), (0x11A96, .mn), (0x11A97, .mc), (0x11A99, .mn),
  (0x11A9C, .po), (0x11A9D, .lo), (0x11AA2, .po), (0x11AAF, .cn), (0x11AF8, .lo), (0x11AFF, .cn),
  (0x11B09, .po), (0x11BBF, .cn), (0x11BE0, .lo), (0x11BE1, .po), (0x11BEF, .cn), (0x11BF9, .nd),
  (0x11BFF, .cn), (0x11C08, .lo), (0x11C09, .cn), (0x11C2E, .lo), (0x11C2F, .mc), (0x11C36, .mn),
  (0x11C37, .cn), (0x11C3D, .mn), (0x11C3E, .mc), (0x11C3F, .mn), (0x11C40, .lo), (0x11C45, .po),
  (0x11C4F, .cn), (0x11C59, .nd), (0x11C6C, .no), (0x11C6F, .cn)]

/-- The runs from U+11C70 to U+1612C. -/
def upTo1612C : CategoryRuns := [
  (0x11C71, .po), (0x11C8F, .lo), (0x11C91, .cn), (0x11CA7, .mn), (0x11CA8, .cn), (0x11CA9, .mc),
  (0x11CB0, .mn), (0x11CB1, .mc), (0x11CB3, .mn), (0x11CB4, .mc), (0x11CB6, .mn), (0x11CFF, .cn),
  (0x11D06, .lo), (0x11D07, .cn), (0x11D09, .lo), (0x11D0A, .cn), (0x11D30, .lo), (0x11D36, .mn),
  (0x11D39, .cn), (0x11D3A, .mn), (0x11D3B, .cn), (0x11D3D, .mn), (0x11D3E, .cn), (0x11D45, .mn),
  (0x11D46, .lo), (0x11D47, .mn), (0x11D4F, .cn), (0x11D59, .nd), (0x11D5F, .cn), (0x11D65, .lo),
  (0x11D66, .cn), (0x11D68, .lo), (0x11D69, .cn), (0x11D89, .lo), (0x11D8E, .mc), (0x11D8F, .cn),
  (0x11D91, .mn), (0x11D92, .cn), (0x11D94, .mc), (0x11D95, .mn), (0x11D96, .mc), (0x11D97, .mn),
  (0x11D98, .lo), (0x11D9F, .cn), (0x11DA9, .nd), (0x11EDF, .cn), (0x11EF2, .lo), (0x11EF4, .mn),
  (0x11EF6, .mc), (0x11EF8, .po), (0x11EFF, .cn), (0x11F01, .mn), (0x11F02, .lo), (0x11F03, .mc),
  (0x11F10, .lo), (0x11F11, .cn), (0x11F33, .lo), (0x11F35, .mc), (0x11F3A, .mn), (0x11F3D, .cn),
  (0x11F3F, .mc), (0x11F40, .mn), (0x11F41, .mc), (0x11F42, .mn), (0x11F4F, .po), (0x11F59, .nd),
  (0x11F5A, .mn), (0x11FAF, .cn), (0x11FB0, .lo), (0x11FBF, .cn), (0x11FD4, .no), (0x11FDC, .so),
  (0x11FE0, .sc), (0x11FF1, .so), (0x11FFE, .cn), (0x11FFF, .po), (0x12399, .lo), (0x123FF, .cn),
  (0x1246E, .nl), (0x1246F, .cn), (0x12474, .po), (0x1247F, .cn), (0x12543, .lo), (0x12F8F, .cn),
  (0x12FF0, .lo), (0x12FF2, .po), (0x12FFF, .cn), (0x1342F, .lo), (0x1343F, .cf), (0x13440, .mn),
  (0x13446, .lo), (0x13455, .mn), (0x1345F, .cn), (0x143FA, .lo), (0x143FF, .cn), (0x14646, .lo),
  (0x160FF, .cn), (0x1611D, .lo), (0x16129, .mn), (0x1612C, .mc)]

/-- The runs from U+1612D to U+1CCEF. -/
def upTo1CCEF : CategoryRuns := [
  (0x1612F, .mn), (0x16139, .nd), (0x167FF, .cn), (0x16A38, .lo), (0x16A3F, .cn), (0x16A5E, .lo),
  (0x16A5F, .cn), (0x16A69, .nd), (0x16A6D, .cn), (0x16A6F, .po), (0x16ABE, .lo), (0x16ABF, .cn),
  (0x16AC9, .nd), (0x16ACF, .cn), (0x16AED, .lo), (0x16AEF, .cn), (0x16AF4, .mn), (0x16AF5, .po),
  (0x16AFF, .cn), (0x16B2F, .lo), (0x16B36, .mn), (0x16B3B, .po), (0x16B3F, .so), (0x16B43, .lm),
  (0x16B44, .po), (0x16B45, .so), (0x16B4F, .cn), (0x16B59, .nd), (0x16B5A, .cn), (0x16B61, .no),
  (0x16B62, .cn), (0x16B77, .lo), (0x16B7C, .cn), (0x16B8F, .lo), (0x16D3F, .cn), (0x16D42, .lm),
  (0x16D6A, .lo), (0x16D6C, .lm), (0x16D6F, .po), (0x16D79, .nd), (0x16E3F, .cn), (0x16E5F, .lu),
  (0x16E7F, .ll), (0x16E96, .no), (0x16E9A, .po), (0x16EFF, .cn), (0x16F4A, .lo), (0x16F4E, .cn),
  (0x16F4F, .mn), (0x16F50, .lo), (0x16F87, .mc), (0x16F8E, .cn), (0x16F92, .mn), (0x16F9F, .lm),
  (0x16FDF, .cn), (0x16FE1, .lm), (0x16FE2, .po), (0x16FE3, .lm), (0x16FE4, .mn), (0x16FEF, .cn),
  (0x16FF1, .mc), (0x16FFF, .cn), (0x187F7, .lo), (0x187FF, .cn), (0x18CD5, .lo), (0x18CFE, .cn),
  (0x18D08, .lo), (0x1AFEF, .cn), (0x1AFF3, .lm), (0x1AFF4, .cn), (0x1AFFB, .lm), (0x1AFFC, .cn),
  (0x1AFFE, .lm), (0x1AFFF, .cn), (0x1B122, .lo), (0x1B131, .cn), (0x1B132, .lo), (0x1B14F, .cn),
  (0x1B152, .lo), (0x1B154, .cn), (0x1B155, .lo), (0x1B163, .cn), (0x1B167, .lo), (0x1B16F, .cn),
  (0x1B2FB, .lo), (0x1BBFF, .cn), (0x1BC6A, .lo), (0x1BC6F, .cn), (0x1BC7C, .lo), (0x1BC7F, .cn),
  (0x1BC88, .lo), (0x1BC8F, .cn), (0x1BC99, .lo), (0x1BC9B, .cn), (0x1BC9C, .so), (0x1BC9E, .mn),
  (0x1BC9F, .po), (0x1BCA3, .cf), (0x1CBFF, .cn), (0x1CCEF, .so)]

/-- The runs from U+1CCF0 to U+1D6A7. -/
def upTo1D6A7 : CategoryRuns := [
  (0x1CCF9, .nd), (0x1CCFF, .cn), (0x1CEB3, .so), (0x1CEFF, .cn), (0x1CF2D, .mn), (0x1CF2F, .cn),
  (0x1CF46, .mn), (0x1CF4F, .cn), (0x1CFC3, .so), (0x1CFFF, .cn), (0x1D0F5, .so), (0x1D0FF, .cn),
  (0x1D126, .so), (0x1D128, .cn), (0x1D164, .so), (0x1D166, .mc), (0x1D169, .mn), (0x1D16C, .so),
  (0x1D172, .mc), (0x1D17A, .cf), (0x1D182, .mn), (0x1D184, .so), (0x1D18B, .mn), (0x1D1A9, .so),
  (0x1D1AD, .mn), (0x1D1EA, .so), (0x1D1FF, .cn), (0x1D241, .so), (0x1D244, .mn), (0x1D245, .so),
  (0x1D2BF, .cn), (0x1D2D3, .no), (0x1D2DF, .cn), (0x1D2F3, .no), (0x1D2FF, .cn), (0x1D356, .so),
  (0x1D35F, .cn), (0x1D378, .no), (0x1D3FF, .cn), (0x1D419, .lu), (0x1D433, .ll), (0x1D44D, .lu),
  (0x1D454, .ll), (0x1D455, .cn), (0x1D467, .ll), (0x1D481, .lu), (0x1D49B, .ll), (0x1D49C, .lu),
  (0x1D49D, .cn), (0x1D49F, .lu), (0x1D4A1, .cn), (0x1D4A2, .lu), (0x1D4A4, .cn), (0x1D4A6, .lu),
  (0x1D4A8, .cn), (0x1D4AC, .lu), (0x1D4AD, .cn), (0x1D4B5, .lu), (0x1D4B9, .ll), (0x1D4BA, .cn),
  (0x1D4BB, .ll), (0x1D4BC, .cn), (0x1D4C3, .ll), (0x1D4C4, .cn), (0x1D4CF, .ll), (0x1D4E9, .lu),
  (0x1D503, .ll), (0x1D505, .lu), (0x1D506, .cn), (0x1D50A, .lu), (0x1D50C, .cn), (0x1D514, .lu),
  (0x1D515, .cn), (0x1D51C, .lu), (0x1D51D, .cn), (0x1D537, .ll), (0x1D539, .lu), (0x1D53A, .cn),
  (0x1D53E, .lu), (0x1D53F, .cn), (0x1D544, .lu), (0x1D545, .cn), (0x1D546, .lu), (0x1D549, .cn),
  (0x1D550, .lu), (0x1D551, .cn), (0x1D56B, .ll), (0x1D585, .lu), (0x1D59F, .ll), (0x1D5B9, .lu),
  (0x1D5D3, .ll), (0x1D5ED, .lu), (0x1D607, .ll), (0x1D621, .lu), (0x1D63B, .ll), (0x1D655, .lu),
  (0x1D66F, .ll), (0x1D689, .lu), (0x1D6A5, .ll), (0x1D6A7, .cn)]

/-- The runs from U+1D6A8 to U+1E7EE. -/
def upTo1E7EE : CategoryRuns := [
  (0x1D6C0, .lu), (0x1D6C1, .sm), (0x1D6DA, .ll), (0x1D6DB, .sm), (0x1D6E1, .ll), (0x1D6FA, .lu),
  (0x1D6FB, .sm), (0x1D714, .ll), (0x1D715, .sm), (0x1D71B, .ll), (0x1D734, .lu), (0x1D735, .sm),
  (0x1D74E, .ll), (0x1D74F, .sm), (0x1D755, .ll), (0x1D76E, .lu), (0x1D76F, .sm), (0x1D788, .ll),
  (0x1D789, .sm), (0x1D78F, .ll), (0x1D7A8, .lu), (0x1D7A9, .sm), (0x1D7C2, .ll), (0x1D7C3, .sm),
  (0x1D7C9, .ll), (0x1D7CA, .lu), (0x1D7CB, .ll), (0x1D7CD, .cn), (0x1D7FF, .nd), (0x1D9FF, .so),
  (0x1DA36, .mn), (0x1DA3A, .so), (0x1DA6C, .mn), (0x1DA74, .so), (0x1DA75, .mn), (0x1DA83, .so),
  (0x1DA84, .mn), (0x1DA86, .so), (0x1DA8B, .po), (0x1DA9A, .cn), (0x1DA9F, .mn), (0x1DAA0, .cn),
  (0x1DAAF, .mn), (0x1DEFF, .cn), (0x1DF09, .ll), (0x1DF0A, .lo), (0x1DF1E, .ll), (0x1DF24, .cn),
  (0x1DF2A, .ll), (0x1DFFF, .cn), (0x1E006, .mn), (0x1E007, .cn), (0x1E018, .mn), (0x1E01A, .cn),
  (0x1E021, .mn), (0x1E022, .cn), (0x1E024, .mn), (0x1E025, .cn), (0x1E02A, .mn), (0x1E02F, .cn),
  (0x1E06D, .lm), (0x1E08E, .cn), (0x1E08F, .mn), (0x1E0FF, .cn), (0x1E12C, .lo), (0x1E12F, .cn),
  (0x1E136, .mn), (0x1E13D, .lm), (0x1E13F, .cn), (0x1E149, .nd), (0x1E14D, .cn), (0x1E14E, .lo),
  (0x1E14F, .so), (0x1E28F, .cn), (0x1E2AD, .lo), (0x1E2AE, .mn), (0x1E2BF, .cn), (0x1E2EB, .lo),
  (0x1E2EF, .mn), (0x1E2F9, .nd), (0x1E2FE, .cn), (0x1E2FF, .sc), (0x1E4CF, .cn), (0x1E4EA, .lo),
  (0x1E4EB, .lm), (0x1E4EF, .mn), (0x1E4F9, .nd), (0x1E5CF, .cn), (0x1E5ED, .lo), (0x1E5EF, .mn),
  (0x1E5F0, .lo), (0x1E5FA, .nd), (0x1E5FE, .cn), (0x1E5FF, .po), (0x1E7DF, .cn), (0x1E7E6, .lo),
  (0x1E7E7, .cn), (0x1E7EB, .lo), (0x1E7EC, .cn), (0x1E7EE, .lo)]

/-- The runs from U+1E7EF to U+1F0AE. -/
def upTo1F0AE : CategoryRuns := [
  (0x1E7EF, .cn), (0x1E7FE, .lo), (0x1E7FF, .cn), (0x1E8C4, .lo), (0x1E8C6, .cn), (0x1E8CF, .no),
  (0x1E8D6, .mn), (0x1E8FF, .cn), (0x1E921, .lu), (0x1E943, .ll), (0x1E94A, .mn), (0x1E94B, .lm),
  (0x1E94F, .cn), (0x1E959, .nd), (0x1E95D, .cn), (0x1E95F, .po), (0x1EC70, .cn), (0x1ECAB, .no),
  (0x1ECAC, .so), (0x1ECAF, .no), (0x1ECB0, .sc), (0x1ECB4, .no), (0x1ED00, .cn), (0x1ED2D, .no),
  (0x1ED2E, .so), (0x1ED3D, .no), (0x1EDFF, .cn), (0x1EE03, .lo), (0x1EE04, .cn), (0x1EE1F, .lo),
  (0x1EE20, .cn), (0x1EE22, .lo), (0x1EE23, .cn), (0x1EE24, .lo), (0x1EE26, .cn), (0x1EE27, .lo),
  (0x1EE28, .cn), (0x1EE32, .lo), (0x1EE33, .cn), (0x1EE37, .lo), (0x1EE38, .cn), (0x1EE39, .lo),
  (0x1EE3A, .cn), (0x1EE3B, .lo), (0x1EE41, .cn), (0x1EE42, .lo), (0x1EE46, .cn), (0x1EE47, .lo),
  (0x1EE48, .cn), (0x1EE49, .lo), (0x1EE4A, .cn), (0x1EE4B, .lo), (0x1EE4C, .cn), (0x1EE4F, .lo),
  (0x1EE50, .cn), (0x1EE52, .lo), (0x1EE53, .cn), (0x1EE54, .lo), (0x1EE56, .cn), (0x1EE57, .lo),
  (0x1EE58, .cn), (0x1EE59, .lo), (0x1EE5A, .cn), (0x1EE5B, .lo), (0x1EE5C, .cn), (0x1EE5D, .lo),
  (0x1EE5E, .cn), (0x1EE5F, .lo), (0x1EE60, .cn), (0x1EE62, .lo), (0x1EE63, .cn), (0x1EE64, .lo),
  (0x1EE66, .cn), (0x1EE6A, .lo), (0x1EE6B, .cn), (0x1EE72, .lo), (0x1EE73, .cn), (0x1EE77, .lo),
  (0x1EE78, .cn), (0x1EE7C, .lo), (0x1EE7D, .cn), (0x1EE7E, .lo), (0x1EE7F, .cn), (0x1EE89, .lo),
  (0x1EE8A, .cn), (0x1EE9B, .lo), (0x1EEA0, .cn), (0x1EEA3, .lo), (0x1EEA4, .cn), (0x1EEA9, .lo),
  (0x1EEAA, .cn), (0x1EEBB, .lo), (0x1EEEF, .cn), (0x1EEF1, .sm), (0x1EFFF, .cn), (0x1F02B, .so),
  (0x1F02F, .cn), (0x1F093, .so), (0x1F09F, .cn), (0x1F0AE, .so)]

/-- The runs from U+1F0AF to U+10FFFF. -/
def upTo10FFFF : CategoryRuns := [
  (0x1F0B0, .cn), (0x1F0BF, .so), (0x1F0C0, .cn), (0x1F0CF, .so), (0x1F0D0, .cn), (0x1F0F5, .so),
  (0x1F0FF, .cn), (0x1F10C, .no), (0x1F1AD, .so), (0x1F1E5, .cn), (0x1F202, .so), (0x1F20F, .cn),
  (0x1F23B, .so), (0x1F23F, .cn), (0x1F248, .so), (0x1F24F, .cn), (0x1F251, .so), (0x1F25F, .cn),
  (0x1F265, .so), (0x1F2FF, .cn), (0x1F3FA, .so), (0x1F3FF, .sk), (0x1F6D7, .so), (0x1F6DB, .cn),
  (0x1F6EC, .so), (0x1F6EF, .cn), (0x1F6FC, .so), (0x1F6FF, .cn), (0x1F776, .so), (0x1F77A, .cn),
  (0x1F7D9, .so), (0x1F7DF, .cn), (0x1F7EB, .so), (0x1F7EF, .cn), (0x1F7F0, .so), (0x1F7FF, .cn),
  (0x1F80B, .so), (0x1F80F, .cn), (0x1F847, .so), (0x1F84F, .cn), (0x1F859, .so), (0x1F85F, .cn),
  (0x1F887, .so), (0x1F88F, .cn), (0x1F8AD, .so), (0x1F8AF, .cn), (0x1F8BB, .so), (0x1F8BF, .cn),
  (0x1F8C1, .so), (0x1F8FF, .cn), (0x1FA53, .so), (0x1FA5F, .cn), (0x1FA6D, .so), (0x1FA6F, .cn),
  (0x1FA7C, .so), (0x1FA7F, .cn), (0x1FA89, .so), (0x1FA8E, .cn), (0x1FAC6, .so), (0x1FACD, .cn),
  (0x1FADC, .so), (0x1FADE, .cn), (0x1FAE9, .so), (0x1FAEF, .cn), (0x1FAF8, .so), (0x1FAFF, .cn),
  (0x1FB92, .so), (0x1FB93, .cn), (0x1FBEF, .so), (0x1FBF9, .nd), (0x1FFFF, .cn), (0x2A6DF, .lo),
  (0x2A6FF, .cn), (0x2B739, .lo), (0x2B73F, .cn), (0x2B81D, .lo), (0x2B81F, .cn), (0x2CEA1, .lo),
  (0x2CEAF, .cn), (0x2EBE0, .lo), (0x2EBEF, .cn), (0x2EE5D, .lo), (0x2F7FF, .cn), (0x2FA1D, .lo),
  (0x2FFFF, .cn), (0x3134A, .lo), (0x3134F, .cn), (0x323AF, .lo), (0xE0000, .cn), (0xE0001, .cf),
  (0xE001F, .cn), (0xE007F, .cf), (0xE00FF, .cn), (0xE01EF, .mn), (0xEFFFF, .cn), (0xFFFFD, .co),
  (0xFFFFF, .cn), (0x10FFFD, .co), (0x10FFFF, .cn)]

end CategoryRuns

open CategoryRuns in
/-- All runs in blocks: the last code point of a block, then its runs. -/
def categoryBlocks : List (Nat × CategoryRuns) := [
  (0x127, upTo0127), (0x19E, upTo019E), (0x213, upTo0213), (0x3DF, upTo03DF), (0x4AF, upTo04AF),
  (0x515, upTo0515), (0x7C9, upTo07C9), (0x9FD, upTo09FD), (0xB46, upTo0B46), (0xC91, upTo0C91),
  (0xE80, upTo0E80), (0x108E, upTo108E), (0x17D6, upTo17D6), (0x1B41, upTo1B41), (0x1E16, upTo1E16),
  (0x1E7A, upTo1E7A), (0x1EE6, upTo1EE6), (0x2027, upTo2027), (0x21A3, upTo21A3),
  (0x29D7, upTo29D7), (0x2CBF, upTo2CBF), (0x2E21, upTo2E21), (0x31EF, upTo31EF),
  (0xA68F, upToA68F), (0xA778, upToA778), (0xA827, upToA827), (0xAAEB, upToAAEB),
  (0xFE3A, upToFE3A), (0x1000B, upTo1000B), (0x107B0, upTo107B0), (0x10D23, upTo10D23),
  (0x111B5, upTo111B5), (0x113C6, upTo113C6), (0x1173E, upTo1173E), (0x11C6F, upTo11C6F),
  (0x1612C, upTo1612C), (0x1CCEF, upTo1CCEF), (0x1D6A7, upTo1D6A7), (0x1E7EE, upTo1E7EE),
  (0x1F0AE, upTo1F0AE), (0x10FFFF, upTo10FFFF)]

/-- The general category of a character. -/
def Category.of (c : Char) : Category :=
  let n := c.toNat
  match categoryBlocks.find? (n ≤ ·.1) with
  | none => .cn
  | some (_, block) => ((block.find? (n ≤ ·.1)).map (·.2)).getD .cn

namespace CategoryRuns

/-- The code points of the runs whose category is chosen; the runs begin at `first`. -/
def rangesOf (chosen : Category → Bool) : Nat → CategoryRuns → Ranges
  | _, [] => []
  | first, (last, k) :: rest =>
    if chosen k then (first, last) :: rangesOf chosen (last + 1) rest
    else rangesOf chosen (last + 1) rest

end CategoryRuns

/-- The code points whose category is one of those given. -/
def categoryRanges (ks : List Category) : Ranges :=
  .coalesce (CategoryRuns.rangesOf ks.contains 0 (categoryBlocks.flatMap (·.2)))

end SearchQuery.Text
