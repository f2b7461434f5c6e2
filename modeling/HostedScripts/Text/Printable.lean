import HostedScripts.Text.Category

/-!
# Characters that can be seen

`isPrintable` holds of the space and of the characters outside the general categories of controls,
formats, surrogates, private use, unassigned code points and separators, but for the fillers, which
show nothing either. `isExtending` holds of the marks that attach to the character before them: all
that take no room of their own, and the spacing ones in `spacingExtenders`.
-/

namespace HostedScripts.Text

/-- The characters that are letters by their category and yet show nothing. -/
def fillers : List (Nat × Nat) := [(0x115f, 0x1160), (0x3164, 0x3164), (0xffa0, 0xffa0)]

/-- The characters that attach to the one before them and are no marks without room of their own. -/
def spacingExtenders : List (Nat × Nat) := [
  (0x9be, 0x9be), (0x9d7, 0x9d7), (0xb3e, 0xb3e), (0xb57, 0xb57), (0xbbe, 0xbbe), (0xbd7, 0xbd7),
  (0xcc0, 0xcc0), (0xcc2, 0xcc2), (0xcc7, 0xcc8), (0xcca, 0xccb), (0xcd5, 0xcd6), (0xd3e, 0xd3e),
  (0xd57, 0xd57), (0xdcf, 0xdcf), (0xddf, 0xddf), (0x1715, 0x1715), (0x1734, 0x1734),
  (0x1b35, 0x1b35), (0x1b3b, 0x1b3b), (0x1b3d, 0x1b3d), (0x1b43, 0x1b44), (0x1baa, 0x1baa),
  (0x1bf2, 0x1bf3), (0x200c, 0x200c), (0x302e, 0x302f), (0xa953, 0xa953), (0xa9c0, 0xa9c0),
  (0x111c0, 0x111c0), (0x11235, 0x11235), (0x1133e, 0x1133e), (0x1134d, 0x1134d),
  (0x11357, 0x11357), (0x113b8, 0x113b8), (0x113c2, 0x113c2), (0x113c5, 0x113c5),
  (0x113c7, 0x113c9), (0x113cf, 0x113cf), (0x114b0, 0x114b0), (0x114bd, 0x114bd),
  (0x115af, 0x115af), (0x116b6, 0x116b6), (0x11930, 0x11930), (0x1193d, 0x1193d),
  (0x11f41, 0x11f41), (0x16ff0, 0x16ff1), (0x1d165, 0x1d166), (0x1d16d, 0x1d172)]

/-- Whether a category is of characters that cannot be seen. -/
def Category.isUnseen (k : Category) : Bool := k.group = 'C' || k.group = 'Z'

/-- Whether a character can be seen. -/
def isPrintable (c : Char) : Bool :=
  (0x20 ≤ c.toNat && c.toNat < 0x7F) ||
    (0xA0 < c.toNat && !(category c).isUnseen && !inRanges fillers c.toNat)

/-- Whether a character attaches to the one before it. -/
def isExtending (c : Char) : Bool :=
  0x300 ≤ c.toNat &&
    ((category c) = ⟨'M', 'n'⟩ || (category c) = ⟨'M', 'e'⟩ || inRanges spacingExtenders c.toNat)

end HostedScripts.Text
