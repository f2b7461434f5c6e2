import HostedScripts.Text.Blank
import HostedScripts.Text.Case

/-!
# Sets of characters

A `CharSet` lists ranges of code points in increasing order, with a gap between any two of them.
Surrogates belong to no set. Besides the operations on sets, `folded` adds what only differs in case,
and `named?` gives the set of a category, a script or another property by its name.
-/

namespace HostedScripts.Text

/-- Ranges of code points in increasing order, with a gap between any two of them. -/
abbrev CharSet := List (Nat × Nat)

namespace CharSet

/-! ### Operations -/

/-- The greatest code point. -/
def greatest : Nat := 0x10ffff

/-- The range from one code point to another, joined with those of some ranges that touch it; they
come in the order of their starts. -/
def joinedFrom (a b : Nat) : List (Nat × Nat) → CharSet
  | [] => [(a, b)]
  | (c, d) :: ranges =>
    if c ≤ b + 1 then joinedFrom a (max b d) ranges else (a, b) :: joinedFrom c d ranges

/-- Joins ranges that touch each other; they come in the order of their starts. -/
def joined : List (Nat × Nat) → CharSet
  | [] => []
  | (a, b) :: ranges => joinedFrom a b ranges

/-- The set of the code points in some ranges. -/
def ofRanges (ranges : List (Nat × Nat)) : CharSet :=
  joined (ranges.mergeSort fun r s => r.1 < s.1 || (r.1 = s.1 && s.2 ≤ r.2))

/-- The set of one character. -/
def single (c : Char) : CharSet := [(c.toNat, c.toNat)]

/-- Whether a character belongs to a set. -/
def has (s : CharSet) (c : Char) : Bool := inRanges s c.toNat

/-- What belongs to one of two sets. -/
def union (s t : CharSet) : CharSet := ofRanges (s ++ t)

/-- The ranges between those of a set, from a code point on. -/
def gapsFrom (n : Nat) : CharSet → List (Nat × Nat)
  | [] => if n ≤ greatest then [(n, greatest)] else []
  | (a, b) :: s => if n < a then (n, a - 1) :: gapsFrom (b + 1) s else gapsFrom (b + 1) s

/-- The ranges of the code points that do not belong to a set, surrogates among them. -/
def gaps (s : CharSet) : CharSet := gapsFrom 0 s

/-- The surrogates, which are no characters. -/
def surrogates : CharSet := [(0xd800, 0xdfff)]

/-- What does not belong to a set. -/
def complement (s : CharSet) : CharSet := gaps (union s surrogates)

/-- What belongs to both of two sets. -/
def intersection (s t : CharSet) : CharSet := gaps (union (gaps s) (gaps t))

/-- What belongs to the first of two sets alone. -/
def difference (s t : CharSet) : CharSet := intersection s (complement t)

/-- What belongs to exactly one of two sets. -/
def symmetricDifference (s t : CharSet) : CharSet := difference (union s t) (intersection s t)

/-- The sets of code points that only differ in case. -/
def kinSets : List (List Nat) :=
  otherKin ++ pairedLetters.flatMap fun b =>
    (List.range ((b.last - b.first) / b.stride + 1)).map fun i =>
      let n : Nat := b.first + i * b.stride
      [n, Int.toNat (n + b.distance)]

/-- A set with all that only differs in case from what belongs to it. -/
def folded (s : CharSet) : CharSet :=
  ofRanges (s ++ (kinSets.filter (·.any (inRanges s))).flatMap fun ns => ns.map fun n => (n, n))

/-- A set of code points up to 0x7f with the letters that only differ in case from those in it. -/
def foldedAscii (s : CharSet) : CharSet :=
  ofRanges (s ++ (List.range 26).flatMap fun i =>
    let a := 0x41 + i
    let b := 0x61 + i
    if inRanges s a || inRanges s b then [(a, a), (b, b)] else [])

/-! ### Sets with names -/

/-- The characters that are used like letters and have another category. -/
def otherLetters : CharSet := [
  (0x345, 0x345), (0x363, 0x36f), (0x5b0, 0x5bd), (0x5bf, 0x5bf), (0x5c1, 0x5c2), (0x5c4, 0x5c5),
  (0x5c7, 0x5c7), (0x610, 0x61a), (0x64b, 0x657), (0x659, 0x65f), (0x670, 0x670), (0x6d6, 0x6dc),
  (0x6e1, 0x6e4), (0x6e7, 0x6e8), (0x6ed, 0x6ed), (0x711, 0x711), (0x730, 0x73f), (0x7a6, 0x7b0),
  (0x816, 0x817), (0x81b, 0x823), (0x825, 0x827), (0x829, 0x82c), (0x897, 0x897), (0x8d4, 0x8df),
  (0x8e3, 0x8e9), (0x8f0, 0x903), (0x93a, 0x93b), (0x93e, 0x94c), (0x94e, 0x94f), (0x955, 0x957),
  (0x962, 0x963), (0x981, 0x983), (0x9be, 0x9c4), (0x9c7, 0x9c8), (0x9cb, 0x9cc), (0x9d7, 0x9d7),
  (0x9e2, 0x9e3), (0xa01, 0xa03), (0xa3e, 0xa42), (0xa47, 0xa48), (0xa4b, 0xa4c), (0xa51, 0xa51),
  (0xa70, 0xa71), (0xa75, 0xa75), (0xa81, 0xa83), (0xabe, 0xac5), (0xac7, 0xac9), (0xacb, 0xacc),
  (0xae2, 0xae3), (0xafa, 0xafc), (0xb01, 0xb03), (0xb3e, 0xb44), (0xb47, 0xb48), (0xb4b, 0xb4c),
  (0xb56, 0xb57), (0xb62, 0xb63), (0xb82, 0xb82), (0xbbe, 0xbc2), (0xbc6, 0xbc8), (0xbca, 0xbcc),
  (0xbd7, 0xbd7), (0xc00, 0xc04), (0xc3e, 0xc44), (0xc46, 0xc48), (0xc4a, 0xc4c), (0xc55, 0xc56),
  (0xc62, 0xc63), (0xc81, 0xc83), (0xcbe, 0xcc4), (0xcc6, 0xcc8), (0xcca, 0xccc), (0xcd5, 0xcd6),
  (0xce2, 0xce3), (0xcf3, 0xcf3), (0xd00, 0xd03), (0xd3e, 0xd44), (0xd46, 0xd48), (0xd4a, 0xd4c),
  (0xd57, 0xd57), (0xd62, 0xd63), (0xd81, 0xd83), (0xdcf, 0xdd4), (0xdd6, 0xdd6), (0xdd8, 0xddf),
  (0xdf2, 0xdf3), (0xe31, 0xe31), (0xe34, 0xe3a), (0xe4d, 0xe4d), (0xeb1, 0xeb1), (0xeb4, 0xeb9),
  (0xebb, 0xebc), (0xecd, 0xecd), (0xf71, 0xf83), (0xf8d, 0xf97), (0xf99, 0xfbc), (0x102b, 0x1036),
  (0x1038, 0x1038), (0x103b, 0x103e), (0x1056, 0x1059), (0x105e, 0x1060), (0x1062, 0x1064),
  (0x1067, 0x106d), (0x1071, 0x1074), (0x1082, 0x108d), (0x108f, 0x108f), (0x109a, 0x109d),
  (0x1712, 0x1713), (0x1732, 0x1733), (0x1752, 0x1753), (0x1772, 0x1773), (0x17b6, 0x17c8),
  (0x1885, 0x1886), (0x18a9, 0x18a9), (0x1920, 0x192b), (0x1930, 0x1938), (0x1a17, 0x1a1b),
  (0x1a55, 0x1a5e), (0x1a61, 0x1a74), (0x1abf, 0x1ac0), (0x1acc, 0x1ace), (0x1b00, 0x1b04),
  (0x1b35, 0x1b43), (0x1b80, 0x1b82), (0x1ba1, 0x1ba9), (0x1bac, 0x1bad), (0x1be7, 0x1bf1),
  (0x1c24, 0x1c36), (0x1dd3, 0x1df4), (0x24b6, 0x24e9), (0x2de0, 0x2dff), (0xa674, 0xa67b),
  (0xa69e, 0xa69f), (0xa802, 0xa802), (0xa80b, 0xa80b), (0xa823, 0xa827), (0xa880, 0xa881),
  (0xa8b4, 0xa8c3), (0xa8c5, 0xa8c5), (0xa8ff, 0xa8ff), (0xa926, 0xa92a), (0xa947, 0xa952),
  (0xa980, 0xa983), (0xa9b4, 0xa9bf), (0xa9e5, 0xa9e5), (0xaa29, 0xaa36), (0xaa43, 0xaa43),
  (0xaa4c, 0xaa4d), (0xaa7b, 0xaa7d), (0xaab0, 0xaab0), (0xaab2, 0xaab4), (0xaab7, 0xaab8),
  (0xaabe, 0xaabe), (0xaaeb, 0xaaef), (0xaaf5, 0xaaf5), (0xabe3, 0xabea), (0xfb1e, 0xfb1e),
  (0x10376, 0x1037a), (0x10a01, 0x10a03), (0x10a05, 0x10a06), (0x10a0c, 0x10a0f),
  (0x10d24, 0x10d27), (0x10d69, 0x10d69), (0x10eab, 0x10eac), (0x10efa, 0x10efc),
  (0x11000, 0x11002), (0x11038, 0x11045), (0x11073, 0x11074), (0x11080, 0x11082),
  (0x110b0, 0x110b8), (0x110c2, 0x110c2), (0x11100, 0x11102), (0x11127, 0x11132),
  (0x11145, 0x11146), (0x11180, 0x11182), (0x111b3, 0x111bf), (0x111ce, 0x111cf),
  (0x1122c, 0x11234), (0x11237, 0x11237), (0x1123e, 0x1123e), (0x11241, 0x11241),
  (0x112df, 0x112e8), (0x11300, 0x11303), (0x1133e, 0x11344), (0x11347, 0x11348),
  (0x1134b, 0x1134c), (0x11357, 0x11357), (0x11362, 0x11363), (0x113b8, 0x113c0),
  (0x113c2, 0x113c2), (0x113c5, 0x113c5), (0x113c7, 0x113ca), (0x113cc, 0x113cd),
  (0x11435, 0x11441), (0x11443, 0x11445), (0x114b0, 0x114c1), (0x115af, 0x115b5),
  (0x115b8, 0x115be), (0x115dc, 0x115dd), (0x11630, 0x1163e), (0x11640, 0x11640),
  (0x116ab, 0x116b5), (0x1171d, 0x1172a), (0x1182c, 0x11838), (0x11930, 0x11935),
  (0x11937, 0x11938), (0x1193b, 0x1193c), (0x11940, 0x11940), (0x11942, 0x11942),
  (0x119d1, 0x119d7), (0x119da, 0x119df), (0x119e4, 0x119e4), (0x11a01, 0x11a0a),
  (0x11a35, 0x11a39), (0x11a3b, 0x11a3e), (0x11a51, 0x11a5b), (0x11a8a, 0x11a97),
  (0x11b60, 0x11b67), (0x11c2f, 0x11c36), (0x11c38, 0x11c3e), (0x11c92, 0x11ca7),
  (0x11ca9, 0x11cb6), (0x11d31, 0x11d36), (0x11d3a, 0x11d3a), (0x11d3c, 0x11d3d),
  (0x11d3f, 0x11d41), (0x11d43, 0x11d43), (0x11d47, 0x11d47), (0x11d8a, 0x11d8e),
  (0x11d90, 0x11d91), (0x11d93, 0x11d96), (0x11ef3, 0x11ef6), (0x11f00, 0x11f01),
  (0x11f03, 0x11f03), (0x11f34, 0x11f3a), (0x11f3e, 0x11f40), (0x1611e, 0x1612e),
  (0x16f4f, 0x16f4f), (0x16f51, 0x16f87), (0x16f8f, 0x16f92), (0x16ff0, 0x16ff1),
  (0x1bc9e, 0x1bc9e), (0x1e000, 0x1e006), (0x1e008, 0x1e018), (0x1e01b, 0x1e021),
  (0x1e023, 0x1e024), (0x1e026, 0x1e02a), (0x1e08f, 0x1e08f), (0x1e6e3, 0x1e6e3),
  (0x1e6e6, 0x1e6e6), (0x1e6ee, 0x1e6ef), (0x1e6f5, 0x1e6f5), (0x1e947, 0x1e947),
  (0x1f130, 0x1f149), (0x1f150, 0x1f169), (0x1f170, 0x1f189)]

/-- The writing systems by their names, with their characters. -/
def scripts : List (List String × CharSet) := [
  (["latin", "latn"], [
    (0x41, 0x5a), (0x61, 0x7a), (0xaa, 0xaa), (0xba, 0xba), (0xc0, 0xd6), (0xd8, 0xf6),
    (0xf8, 0x2b8), (0x2e0, 0x2e4), (0x1d00, 0x1d25), (0x1d2c, 0x1d5c), (0x1d62, 0x1d65),
    (0x1d6b, 0x1d77), (0x1d79, 0x1dbe), (0x1e00, 0x1eff), (0x2071, 0x2071), (0x207f, 0x207f),
    (0x2090, 0x209c), (0x212a, 0x212b), (0x2132, 0x2132), (0x214e, 0x214e), (0x2160, 0x2188),
    (0x2c60, 0x2c7f), (0xa722, 0xa787), (0xa78b, 0xa7dc), (0xa7f1, 0xa7ff), (0xab30, 0xab5a),
    (0xab5c, 0xab64), (0xab66, 0xab69), (0xfb00, 0xfb06), (0xff21, 0xff3a), (0xff41, 0xff5a),
    (0x10780, 0x10785), (0x10787, 0x107b0), (0x107b2, 0x107ba), (0x1df00, 0x1df1e),
    (0x1df25, 0x1df2a)]),
  (["greek", "grek"], [
    (0x370, 0x373), (0x375, 0x377), (0x37a, 0x37d), (0x37f, 0x37f), (0x384, 0x384), (0x386, 0x386),
    (0x388, 0x38a), (0x38c, 0x38c), (0x38e, 0x3a1), (0x3a3, 0x3e1), (0x3f0, 0x3ff),
    (0x1d26, 0x1d2a), (0x1d5d, 0x1d61), (0x1d66, 0x1d6a), (0x1dbf, 0x1dbf), (0x1f00, 0x1f15),
    (0x1f18, 0x1f1d), (0x1f20, 0x1f45), (0x1f48, 0x1f4d), (0x1f50, 0x1f57), (0x1f59, 0x1f59),
    (0x1f5b, 0x1f5b), (0x1f5d, 0x1f5d), (0x1f5f, 0x1f7d), (0x1f80, 0x1fb4), (0x1fb6, 0x1fc4),
    (0x1fc6, 0x1fd3), (0x1fd6, 0x1fdb), (0x1fdd, 0x1fef), (0x1ff2, 0x1ff4), (0x1ff6, 0x1ffe),
    (0x2126, 0x2126), (0xab65, 0xab65), (0x10140, 0x1018e), (0x101a0, 0x101a0), (0x1d200, 0x1d245)]),
  (["cyrillic", "cyrl"], [
    (0x400, 0x484), (0x487, 0x52f), (0x1c80, 0x1c8a), (0x1d2b, 0x1d2b), (0x1d78, 0x1d78),
    (0x2de0, 0x2dff), (0xa640, 0xa69f), (0xfe2e, 0xfe2f), (0x1e030, 0x1e06d), (0x1e08f, 0x1e08f)]),
  (["han", "hani"], [
    (0x2e80, 0x2e99), (0x2e9b, 0x2ef3), (0x2f00, 0x2fd5), (0x3005, 0x3005), (0x3007, 0x3007),
    (0x3021, 0x3029), (0x3038, 0x303b), (0x3400, 0x4dbf), (0x4e00, 0x9fff), (0xf900, 0xfa6d),
    (0xfa70, 0xfad9), (0x16fe2, 0x16fe3), (0x16ff0, 0x16ff6), (0x20000, 0x2a6df),
    (0x2a700, 0x2b81d), (0x2b820, 0x2cead), (0x2ceb0, 0x2ebe0), (0x2ebf0, 0x2ee5d),
    (0x2f800, 0x2fa1d), (0x30000, 0x3134a), (0x31350, 0x33479)]),
  (["hiragana", "hira"], [
    (0x3041, 0x3096), (0x309d, 0x309f), (0x1b001, 0x1b11f), (0x1b132, 0x1b132), (0x1b150, 0x1b152),
    (0x1f200, 0x1f200)]),
  (["katakana", "kana"], [
    (0x30a1, 0x30fa), (0x30fd, 0x30ff), (0x31f0, 0x31ff), (0x32d0, 0x32fe), (0x3300, 0x3357),
    (0xff66, 0xff6f), (0xff71, 0xff9d), (0x1aff0, 0x1aff3), (0x1aff5, 0x1affb), (0x1affd, 0x1affe),
    (0x1b000, 0x1b000), (0x1b120, 0x1b122), (0x1b155, 0x1b155), (0x1b164, 0x1b167)]),
  (["hangul", "hang"], [
    (0x1100, 0x11ff), (0x302e, 0x302f), (0x3131, 0x318e), (0x3200, 0x321e), (0x3260, 0x327e),
    (0xa960, 0xa97c), (0xac00, 0xd7a3), (0xd7b0, 0xd7c6), (0xd7cb, 0xd7fb), (0xffa0, 0xffbe),
    (0xffc2, 0xffc7), (0xffca, 0xffcf), (0xffd2, 0xffd7), (0xffda, 0xffdc)]),
  (["arabic", "arab"], [
    (0x600, 0x604), (0x606, 0x60b), (0x60d, 0x61a), (0x61c, 0x61e), (0x620, 0x63f), (0x641, 0x64a),
    (0x656, 0x66f), (0x671, 0x6dc), (0x6de, 0x6ff), (0x750, 0x77f), (0x870, 0x891), (0x897, 0x8e1),
    (0x8e3, 0x8ff), (0xfb50, 0xfd3d), (0xfd40, 0xfdcf), (0xfdf0, 0xfdff), (0xfe70, 0xfe74),
    (0xfe76, 0xfefc), (0x10e60, 0x10e7e), (0x10ec2, 0x10ec7), (0x10ed0, 0x10ed8),
    (0x10efa, 0x10eff), (0x1ee00, 0x1ee03), (0x1ee05, 0x1ee1f), (0x1ee21, 0x1ee22),
    (0x1ee24, 0x1ee24), (0x1ee27, 0x1ee27), (0x1ee29, 0x1ee32), (0x1ee34, 0x1ee37),
    (0x1ee39, 0x1ee39), (0x1ee3b, 0x1ee3b), (0x1ee42, 0x1ee42), (0x1ee47, 0x1ee47),
    (0x1ee49, 0x1ee49), (0x1ee4b, 0x1ee4b), (0x1ee4d, 0x1ee4f), (0x1ee51, 0x1ee52),
    (0x1ee54, 0x1ee54), (0x1ee57, 0x1ee57), (0x1ee59, 0x1ee59), (0x1ee5b, 0x1ee5b),
    (0x1ee5d, 0x1ee5d), (0x1ee5f, 0x1ee5f), (0x1ee61, 0x1ee62), (0x1ee64, 0x1ee64),
    (0x1ee67, 0x1ee6a), (0x1ee6c, 0x1ee72), (0x1ee74, 0x1ee77), (0x1ee79, 0x1ee7c),
    (0x1ee7e, 0x1ee7e), (0x1ee80, 0x1ee89), (0x1ee8b, 0x1ee9b), (0x1eea1, 0x1eea3),
    (0x1eea5, 0x1eea9), (0x1eeab, 0x1eebb), (0x1eef0, 0x1eef1)]),
  (["hebrew", "hebr"], [
    (0x591, 0x5c7), (0x5d0, 0x5ea), (0x5ef, 0x5f4), (0xfb1d, 0xfb36), (0xfb38, 0xfb3c),
    (0xfb3e, 0xfb3e), (0xfb40, 0xfb41), (0xfb43, 0xfb44), (0xfb46, 0xfb4f)]),
  (["armenian", "armn"], [
    (0x531, 0x556), (0x559, 0x58a), (0x58d, 0x58f), (0xfb13, 0xfb17)]),
  (["georgian", "geor"], [
    (0x10a0, 0x10c5), (0x10c7, 0x10c7), (0x10cd, 0x10cd), (0x10d0, 0x10fa), (0x10fc, 0x10ff),
    (0x1c90, 0x1cba), (0x1cbd, 0x1cbf), (0x2d00, 0x2d25), (0x2d27, 0x2d27), (0x2d2d, 0x2d2d)]),
  (["thai", "thai"], [
    (0xe01, 0xe3a), (0xe40, 0xe5b)]),
  (["devanagari", "deva"], [
    (0x900, 0x950), (0x955, 0x963), (0x966, 0x97f), (0xa8e0, 0xa8ff), (0x11b00, 0x11b09)])]

/-- The decimal digits. -/
def digits : CharSet := rangesOf fun k => k = ⟨'N', 'd'⟩

/-- The letters and what is used like them. -/
def letters : CharSet := union (rangesOf fun k => k.group = 'L' || k = ⟨'N', 'l'⟩) otherLetters

/-- The characters of words: letters, marks, digits, connecting punctuation and joiners. -/
def words : CharSet :=
  union (union letters [(0x200c, 0x200d)])
    (rangesOf fun k => k.group = 'M' || k = ⟨'N', 'd'⟩ || k = ⟨'P', 'c'⟩)

/-- The blanks. -/
def blanks : CharSet :=
  [(0x9, 0xd), (0x20, 0x20), (0x85, 0x85), (0xa0, 0xa0), (0x1680, 0x1680), (0x2000, 0x200a),
    (0x2028, 0x2029), (0x202f, 0x202f), (0x205f, 0x205f), (0x3000, 0x3000)]

/-- The decimal digits up to 0x7f. -/
def asciiDigits : CharSet := [(0x30, 0x39)]

/-- The characters of words up to 0x7f. -/
def asciiWords : CharSet := [(0x30, 0x39), (0x41, 0x5a), (0x5f, 0x5f), (0x61, 0x7a)]

/-- The blanks up to 0x7f. -/
def asciiBlanks : CharSet := [(0x9, 0xd), (0x20, 0x20)]

/-- The sets up to 0x7f that have names of their own. -/
def ascii? : String → Option CharSet
  | "alnum" => some [(0x30, 0x39), (0x41, 0x5a), (0x61, 0x7a)]
  | "alpha" => some [(0x41, 0x5a), (0x61, 0x7a)]
  | "ascii" => some [(0x0, 0x7f)]
  | "blank" => some [(0x9, 0x9), (0x20, 0x20)]
  | "cntrl" => some [(0x0, 0x1f), (0x7f, 0x7f)]
  | "digit" => some asciiDigits
  | "graph" => some [(0x21, 0x7e)]
  | "lower" => some [(0x61, 0x7a)]
  | "print" => some [(0x20, 0x7e)]
  | "punct" => some [(0x21, 0x2f), (0x3a, 0x40), (0x5b, 0x60), (0x7b, 0x7e)]
  | "space" => some asciiBlanks
  | "upper" => some [(0x41, 0x5a)]
  | "word" => some asciiWords
  | "xdigit" => some [(0x30, 0x39), (0x41, 0x46), (0x61, 0x66)]
  | _ => none

/-- The general categories and their groups by their names. -/
def categoryNames : List (List String × String) :=
  [(["c", "other"], "C"), (["cc", "control", "cntrl"], "Cc"), (["cf", "format"], "Cf"),
    (["cn", "unassigned"], "Cn"), (["co", "privateuse"], "Co"), (["l", "letter"], "L"),
    (["ll", "lowercaseletter"], "Ll"), (["lm", "modifierletter"], "Lm"),
    (["lo", "otherletter"], "Lo"), (["lt", "titlecaseletter"], "Lt"),
    (["lu", "uppercaseletter"], "Lu"), (["m", "mark", "combiningmark"], "M"),
    (["mc", "spacingmark"], "Mc"), (["me", "enclosingmark"], "Me"),
    (["mn", "nonspacingmark"], "Mn"), (["n", "number"], "N"),
    (["nd", "decimalnumber", "digit"], "Nd"), (["nl", "letternumber"], "Nl"),
    (["no", "othernumber"], "No"), (["p", "punctuation", "punct"], "P"),
    (["pc", "connectorpunctuation"], "Pc"), (["pd", "dashpunctuation"], "Pd"),
    (["pe", "closepunctuation"], "Pe"), (["pf", "finalpunctuation"], "Pf"),
    (["pi", "initialpunctuation"], "Pi"), (["po", "otherpunctuation"], "Po"),
    (["ps", "openpunctuation"], "Ps"), (["s", "symbol"], "S"), (["sc", "currencysymbol"], "Sc"),
    (["sk", "modifiersymbol"], "Sk"), (["sm", "mathsymbol"], "Sm"), (["so", "othersymbol"], "So"),
    (["z", "separator"], "Z"), (["zl", "lineseparator"], "Zl"),
    (["zp", "paragraphseparator"], "Zp"), (["zs", "spaceseparator"], "Zs")]

/-- The set of a general category or a group of them. -/
def category? (name : String) : Option CharSet :=
  match name with
  | "any" => some (complement [])
  | "assigned" => some (complement (rangesOf fun k => k = ⟨'C', 'n'⟩))
  | "ascii" => some [(0, 0x7f)]
  | "lc" | "casedletter" =>
    some (rangesOf fun k => k = ⟨'L', 'u'⟩ || k = ⟨'L', 'l'⟩ || k = ⟨'L', 't'⟩)
  | _ =>
    (categoryNames.find? (·.1.contains name)).map fun (_, code) =>
      difference (rangesOf fun k => k.code = code || String.singleton k.group = code) surrogates

/-- The set of a writing system. -/
def script? (name : String) : Option CharSet := (scripts.find? (·.1.contains name)).map (·.2)

/-- The set of another property. -/
def property? : String → Option CharSet
  | "alphabetic" | "alpha" => some letters
  | "lowercase" | "lower" => some (union (rangesOf fun k => k = ⟨'L', 'l'⟩) (ofRanges smallMarks))
  | "uppercase" | "upper" => some (union (rangesOf fun k => k = ⟨'L', 'u'⟩) (ofRanges capitalMarks))
  | "whitespace" | "wspace" | "space" => some blanks
  | "joincontrol" | "joinc" => some [(0x200c, 0x200d)]
  | _ => none

/-- A name without blanks, dashes and underscores, in small letters and without `is` in front. -/
def plainName (cs : List Char) : String :=
  let cs := (cs.filter fun c => !isBlank c && c ≠ '_' && c ≠ '-').map Char.toLower
  String.ofList (match cs with
    | ['i', 's', 'c'] => cs
    | 'i' :: 's' :: rest => rest
    | _ => cs)

/-- The set of a property with a name, or with the name of a kind of property and a value. -/
def named? (kind : Option (List Char)) (value : List Char) : Option CharSet :=
  let name := plainName value
  match kind.map plainName with
  | none => property? name <|> category? name <|> script? name
  | some k =>
    if k = "gc" || k = "generalcategory" then category? name
    else if k = "sc" || k = "script" || k = "scx" || k = "scriptextensions" then script? name
    else none

end CharSet

end HostedScripts.Text
