import ClusterMdns.Text.Composition
import ClusterMdns.Text.LowerCase

/-!
Labels prepared for names: case, compatible forms and invisible characters make no difference, control
characters and blanks are refused, and a label in a script that runs from right to left must be in such
scripts throughout.
-/

namespace ClusterMdns.Text.Prepared

/-- Characters that are dropped. -/
def invisibleRuns : CodeRuns :=
  [173, 1, 673, 1, 5302, 1, 4, 3, 2045, 3, 82, 1, 56735, 16, 239, 1]

/-- Characters that fold to others than their lower-case partners. -/
def foldTable : String :=
  "B5 3BC; DF 73+73; 130 69+307; 149 2BC+6E; 17F 73; 1F0 6A+30C; 345 3B9; 37A 20+3B9;
390 3B9+308+301; 3B0 3C5+308+301; 3C2 3C3; 3D0 3B2 3B8 3C5 3CD 3CB 3C6 3C0; 3F0 3BA 3C1 3C3;
3F5 3B5; 587 565+582; 1E96 68+331 74+308 77+30A 79+30A 61+2BE 1E61; 1F50 3C5+313;
1F52 3C5+313+300; 1F54 3C5+313+301; 1F56 3C5+313+342;
1F80 1F00+3B9 1F01+3B9 1F02+3B9 1F03+3B9 1F04+3B9 1F05+3B9 1F06+3B9 1F07+3B9 1F00+3B9 1F01+3B9;
1F8A 1F02+3B9 1F03+3B9 1F04+3B9 1F05+3B9 1F06+3B9 1F07+3B9 1F20+3B9 1F21+3B9 1F22+3B9 1F23+3B9;
1F94 1F24+3B9 1F25+3B9 1F26+3B9 1F27+3B9 1F20+3B9 1F21+3B9 1F22+3B9 1F23+3B9 1F24+3B9 1F25+3B9;
1F9E 1F26+3B9 1F27+3B9 1F60+3B9 1F61+3B9 1F62+3B9 1F63+3B9 1F64+3B9 1F65+3B9 1F66+3B9 1F67+3B9;
1FA8 1F60+3B9 1F61+3B9 1F62+3B9 1F63+3B9 1F64+3B9 1F65+3B9 1F66+3B9 1F67+3B9;
1FB2 1F70+3B9 3B1+3B9 3AC+3B9; 1FB6 3B1+342 3B1+342+3B9; 1FBC 3B1+3B9; 1FBE 3B9;
1FC2 1F74+3B9 3B7+3B9 3AE+3B9; 1FC6 3B7+342 3B7+342+3B9; 1FCC 3B7+3B9;
1FD2 3B9+308+300 3B9+308+301; 1FD6 3B9+342 3B9+308+342; 1FE2 3C5+308+300 3C5+308+301 3C1+313;
1FE6 3C5+342 3C5+308+342; 1FF2 1F7C+3B9 3C9+3B9 3CE+3B9; 1FF6 3C9+342 3C9+342+3B9; 1FFC 3C9+3B9;
20A8 72+73; 2102 63 B0+63; 2107 25B; 2109 B0+66; 210B 68 68 68; 2110 69 69 6C; 2115 6E 6E+6F;
2119 70-72 72 72; 2120 73+6D 74+65+6C 74+6D; 2124 7A; 2128 7A; 212C 62 63; 2130 65 66; 2133 6D;
213E 3B3 3C0; 2145 64; 3371 68+70+61; 3373 61+75; 3375 6F+76;
3380 70+61 6E+61 3BC+61 6D+61 6B+61 6B+62 6D+62 67+62; 338A 70+66 6E+66 3BC+66;
3390 68+7A 6B+68+7A 6D+68+7A 67+68+7A 74+68+7A; 33A9 70+61 6B+70+61 6D+70+61 67+70+61;
33B4 70+76 6E+76 3BC+76 6D+76 6B+76 6D+76 70+77 6E+77 3BC+77 6D+77 6B+77 6D+77 6B+3C9 6D+3C9;
33C3 62+71; 33C6 63+2215+6B+67 63+6F+2E 64+62 67+79; 33CB 68+70; 33CD 6B+6B 6B+6D; 33D7 70+68;
33D9 70+70+6D 70+72; 33DC 73+76 77+62; FB00 66+66 66+69 66+6C 66+66+69 66+66+6C 73+74 73+74;
FB13 574+576 574+565 574+56B 57E+576 574+56D; 1D400 61-7A; 1D434 61-7A; 1D468 61-7A; 1D49C 61;
1D49E 63 64; 1D4A2 67; 1D4A5 6A 6B; 1D4A9 6E-71; 1D4AE 73-7A; 1D4D0 61-7A; 1D504 61 62;
1D507 64-67; 1D50D 6A-71; 1D516 73-79; 1D538 61 62; 1D53B 64-67; 1D540 69-6D; 1D546 6F;
1D54A 73-79; 1D56C 61-7A; 1D5A0 61-7A; 1D5D4 61-7A; 1D608 61-7A; 1D63C 61-7A; 1D670 61-7A;
1D6A8 3B1-3C1 3B8 3C3-3C9; 1D6D3 3C3; 1D6E2 3B1-3C1 3B8 3C3-3C9; 1D70D 3C3;
1D71C 3B1-3C1 3B8 3C3-3C9; 1D747 3C3; 1D756 3B1-3C1 3B8 3C3-3C9; 1D781 3C3;
1D790 3B1-3C1 3B8 3C3-3C9; 1D7BB 3C3"

def folds : Mapping :=
  Mapping.ofText foldTable

/-- Blanks, controls, private and invalid code points, and marks that change how a text is shown. -/
def refusedRuns : CodeRuns :=
  [128, 33, 671, 2, 923, 1, 49, 1, 3952, 1, 397, 1, 2033, 16, 24, 8, 47, 5, 6, 6, 3968, 12, 4, 1,
   43007, 8448, 1232, 32, 271, 1, 249, 7, 53619, 8, 11907, 2, 65534, 2, 65534, 2, 65534, 2,
   65534, 2, 65534, 2, 65534, 2, 65534, 2, 65534, 2, 65534, 2, 65534, 2, 65534, 2, 65534, 2, 1,
   1, 30, 96, 65406, 131074]

/-- Letters of scripts that run from right to left. -/
def rightToLeftRuns : CodeRuns :=
  [1470, 1, 1, 1, 2, 1, 12, 27, 5, 5, 38, 1, 3, 1, 1, 26, 5, 11, 34, 3, 1, 101, 7, 1, 7, 2, 19,
   5, 1, 14, 2, 1, 1, 27, 83, 38, 11, 1, 6237, 1, 56077, 1, 1, 10, 1, 13, 1, 5, 1, 1, 1, 2, 1, 2,
   1, 108, 33, 363, 18, 64, 2, 54, 40, 13, 115, 5, 1, 135]

/-- Letters of scripts that run from left to right. -/
def leftToRightRuns : CodeRuns :=
  [65, 26, 6, 26, 47, 1, 10, 1, 4, 1, 5, 23, 1, 31, 1, 297, 1, 18, 28, 94, 2, 9, 2, 7, 14, 2, 14,
   5, 9, 1, 139, 1, 11, 1, 1, 3, 1, 1, 1, 20, 1, 44, 1, 38, 10, 131, 7, 69, 1, 38, 2, 2, 6, 16,
   33, 38, 2, 7, 1, 39, 1, 1, 889, 1, 1, 53, 3, 4, 8, 4, 3, 1, 7, 10, 2, 13, 17, 2, 1, 8, 2, 2,
   2, 22, 1, 7, 1, 1, 3, 4, 4, 3, 6, 2, 2, 2, 10, 1, 4, 2, 1, 3, 4, 12, 2, 7, 10, 6, 4, 2, 2, 22,
   1, 7, 1, 2, 1, 2, 1, 2, 4, 3, 24, 4, 1, 1, 7, 10, 2, 3, 14, 1, 1, 7, 1, 1, 1, 3, 1, 22, 1, 7,
   1, 2, 1, 5, 3, 4, 8, 1, 1, 2, 3, 1, 15, 1, 5, 10, 18, 2, 1, 8, 2, 2, 2, 22, 1, 7, 1, 2, 2, 4,
   3, 2, 1, 1, 6, 2, 2, 2, 10, 1, 4, 2, 1, 3, 4, 11, 18, 1, 1, 6, 3, 3, 1, 4, 3, 2, 1, 1, 1, 2,
   3, 2, 3, 3, 3, 8, 1, 3, 4, 2, 1, 2, 3, 3, 1, 3, 10, 1, 15, 12, 14, 3, 1, 8, 1, 3, 1, 23, 1,
   10, 1, 5, 7, 4, 27, 2, 4, 10, 18, 2, 1, 8, 1, 3, 1, 23, 1, 10, 1, 5, 4, 1, 1, 5, 2, 2, 1, 2,
   9, 2, 7, 1, 1, 2, 4, 10, 18, 2, 1, 8, 1, 3, 1, 23, 1, 16, 4, 3, 5, 3, 1, 3, 10, 1, 8, 2, 4,
   10, 18, 2, 1, 18, 3, 24, 1, 9, 1, 1, 2, 7, 8, 3, 6, 8, 18, 3, 12, 48, 1, 2, 12, 7, 8, 13, 37,
   2, 1, 1, 2, 2, 1, 1, 2, 1, 6, 4, 1, 7, 1, 3, 1, 1, 1, 1, 2, 2, 1, 4, 1, 2, 9, 1, 2, 5, 1, 1,
   9, 10, 2, 2, 34, 24, 2, 27, 1, 1, 1, 1, 5, 10, 1, 34, 20, 1, 5, 1, 2, 4, 50, 8, 1, 6, 2, 1,
   48, 34, 1, 5, 1, 2, 1, 1, 4, 1, 6, 1, 7, 24, 72, 38, 10, 41, 2, 1, 4, 90, 5, 68, 5, 82, 6, 7,
   1, 63, 1, 1, 1, 4, 2, 7, 1, 1, 1, 4, 2, 39, 1, 1, 1, 4, 2, 31, 1, 1, 1, 4, 2, 7, 1, 1, 1, 4,
   2, 7, 1, 7, 1, 23, 1, 31, 1, 1, 1, 4, 2, 7, 1, 39, 1, 19, 6, 28, 35, 85, 12, 630, 10, 26, 5,
   81, 15, 13, 1, 4, 14, 18, 3, 2, 9, 18, 14, 13, 1, 3, 15, 55, 7, 8, 1, 2, 11, 7, 1, 1, 3, 10,
   38, 10, 6, 88, 8, 41, 1367, 156, 4, 90, 6, 22, 2, 6, 2, 38, 2, 6, 2, 8, 1, 1, 1, 1, 1, 1, 1,
   31, 2, 53, 1, 7, 1, 1, 3, 3, 1, 7, 3, 4, 2, 6, 4, 13, 5, 3, 1, 7, 17, 1, 98, 1, 13, 1, 130, 1,
   4, 1, 2, 10, 1, 1, 3, 5, 6, 1, 1, 1, 1, 1, 1, 4, 1, 3, 1, 7, 3, 3, 5, 5, 22, 36, 434, 69, 26,
   1, 262, 78, 2843, 3, 25, 9, 7, 5, 2, 5, 4, 86, 6, 3, 1, 90, 1, 4, 5, 40, 4, 94, 1, 40, 56, 45,
   3, 36, 28, 28, 3, 50, 15, 12, 4, 47, 1, 119, 4, 99, 2, 31, 1, 6582, 74, 20902, 90, 1165, 1907,
   11172, 92, 8750, 2, 59, 149, 7, 12, 5, 1033, 26, 6, 26, 11, 89, 3, 6, 2, 6, 2, 6, 2, 3, 803,
   31, 1, 4, 12, 27, 181, 38, 2, 38, 52146, 246, 10, 39, 3, 61, 3, 9, 16, 2, 7, 30, 4, 48, 546,
   85, 1, 71, 1, 2, 2, 1, 2, 2, 2, 4, 1, 12, 1, 1, 1, 4, 1, 2, 1, 65, 1, 4, 2, 8, 1, 7, 1, 28, 1,
   4, 1, 5, 1, 1, 3, 7, 1, 338, 4, 290, 10294, 42711, 20777, 542, 787938, 65534, 2, 65534]

/-- The table has no characters of ASCII. -/
def foldOnce (n : Nat) : List Nat :=
  if n < 0x80 then [(Char.ofNat n).toLower.toNat]
  else (folds.find? n).getD ((lowerChar (Char.ofNat n)).map Char.toNat)

/-- Folds the normal form of a folded character once more, where that changes anything. -/
def fold (n : Nat) : List Nat :=
  let once := foldOnce n
  let normal := normalize once
  let twice := normalize (normal.flatMap foldOnce)
  if normal == twice then once else twice

/-- Text from right to left begins and ends so, and holds nothing from left to right. -/
def directionsAgree (ns : List Nat) : Bool :=
  let back := rightToLeftRuns.contains
  !ns.any back ||
    (!ns.any leftToRightRuns.contains && ns.head?.any back && ns.getLast?.any back)

/-- The prepared form of a label. -/
def prepare? (cs : List Char) : Option (List Char) :=
  let visible := (cs.map Char.toNat).filter (!invisibleRuns.contains ·)
  let ns := normalize (visible.flatMap fold)
  if ns.any refusedRuns.contains || !directionsAgree ns then none else some (ns.map Char.ofNat)

end ClusterMdns.Text.Prepared
