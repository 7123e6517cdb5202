import LatestTag.Unicode.CharSet

/-!
# Simple case folding

Characters that differ only in case form an orbit: their simple case foldings, by Unicode 16, are
the same. Most orbits are pairs and come in two regular layouts, which the tables abbreviate; a few
orbits have three or four members. `CaseFold.close` extends a set by the orbits of its members.
-/

namespace LatestTag.Unicode.CaseFold

open CharSet (hexValue)

/-- Runs of neighbours, as `100-12F`: each even offset into the run pairs with the next one. -/
def neighbours : List String := [
  "100-12F 132-137 139-148 14A-177 179-17E 182-185 187-188 18B-18C 191-192 198-199 1A0-1A5",
  "1A7-1A8 1AC-1AD 1AF-1B0 1B3-1B6 1B8-1B9 1BC-1BD 1CD-1DC 1DE-1EF 1F4-1F5 1F8-21F 222-233",
  "23B-23C 241-242 246-24F 370-373 376-377 3D8-3EF 3F7-3F8 3FA-3FB 460-461 464-481 48A-4BF",
  "4C1-4CE 4D0-52F 1C89-1C8A 1E00-1E5F 1E62-1E95 1EA0-1EFF 2183-2184 2C60-2C61 2C67-2C6C",
  "2C72-2C73 2C75-2C76 2C80-2CE3 2CEB-2CEE 2CF2-2CF3 A640-A649 A64C-A66D A680-A69B A722-A72F",
  "A732-A76F A779-A77C A77E-A787 A78B-A78C A790-A793 A796-A7A9 A7B4-A7C3 A7C7-A7CA A7CC-A7CD",
  "A7D0-A7D1 A7D6-A7DB A7F5-A7F6 FB05-FB06"]

/-- Runs of pairs at one distance, as `41-4A+20`: each member of the run pairs with the code point
that lies so much higher. -/
def distances : List String := [
  "41-4A+20 4C-52+20 54-5A+20 C0-C4+20 C6-D6+20 D8-DE+20 DF+1DBF FF+79 180+C3 181+D2 186+CE",
  "189-18A+CD 18E+4F 18F+CA 190+CB 193+CD 194+CF 195+61 196+D3 197+D1 19A+A3 19B+A641 19C+D3",
  "19D+D5 19E+82 19F+D6 1A6+DA 1A9+DA 1AE+DA 1B1-1B2+D9 1B7+DB 1BF+38 23A+2A2B 23E+2A28",
  "23F-240+2A3F 244+45 245+47 250+2A1F 251+2A1C 252+2A1E 25C+A54F 261+A54B 264+A567 265+A528",
  "266+A544 26A+A544 26B+29F7 26C+A541 271+29FD 27D+29E7 282+A543 287+A52A 29D+A515 29E+A512",
  "37B-37D+82 37F+74 386+26 388-38A+25 38C+40 38E-38F+3F 390+1C43 391+20 393-394+20 396-397+20",
  "39B+20 39D-39F+20 3A4-3A5+20 3A7-3A8+20 3AA-3AB+20 3B0+1C33 3CF+8 3F2+7 400-40F+50",
  "410-411+20 413+20 415-41D+20 41F-420+20 423-429+20 42B-42F+20 4C0+F 531-556+30",
  "10A0-10C5+1C60 10C7+1C60 10CD+1C60 10D0-10FA+BC0 10FD-10FF+BC0 13A0-13EF+97D0 13F0-13F5+8",
  "1D79+8A04 1D7D+EE6 1D8E+8A38 1F00-1F07+8 1F10-1F15+8 1F20-1F27+8 1F30-1F37+8 1F40-1F45+8",
  "1F51+8 1F53+8 1F55+8 1F57+8 1F60-1F67+8 1F70-1F71+4A 1F72-1F75+56 1F76-1F77+64 1F78-1F79+80",
  "1F7A-1F7B+70 1F7C-1F7D+7E 1F80-1F87+8 1F90-1F97+8 1FA0-1FA7+8 1FB0-1FB1+8 1FB3+9 1FC3+9",
  "1FD0-1FD1+8 1FE0-1FE1+8 1FE5+7 1FF3+9 2132+1C 2160-216F+10 24B6-24CF+1A 2C00-2C2F+30 A794+30",
  "A7B3+3A0 FF21-FF3A+20 10400-10427+28 104B0-104D3+28 10570-1057A+27 1057C-1058A+27",
  "1058C-10592+27 10594-10595+27 10C80-10CB2+40 10D50-10D65+20 118A0-118BF+20 16E40-16E5F+20",
  "1E900-1E921+22"]

/-- The orbits with more than two members. -/
def families : List String := [
  "4B-6B-212A 53-73-17F B5-39C-3BC C5-E5-212B 1C4-1C5-1C6 1C7-1C8-1C9 1CA-1CB-1CC 1F1-1F2-1F3",
  "345-399-3B9-1FBE 392-3B2-3D0 395-3B5-3F5 398-3B8-3D1-3F4 39A-3BA-3F0 3A0-3C0-3D6 3A1-3C1-3F1",
  "3A3-3C2-3C3 3A6-3C6-3D5 3A9-3C9-2126 412-432-1C80 414-434-1C81 41E-43E-1C82 421-441-1C83",
  "422-442-1C84-1C85 42A-44A-1C86 462-463-1C87 1C88-A64A-A64B 1E60-1E61-1E9B"]

/-- The words of a table. -/
def words (table : List String) : List (List Char) :=
  table.flatMap fun line => line.toList.splitOn ' '

/-- The first and the last code point of a run, which may be a single code point. -/
def runBounds (run : List Char) : Nat × Nat :=
  match run.splitOn '-' with
  | [lo, hi] => (hexValue lo, hexValue hi)
  | _ => (hexValue run, hexValue run)

/-- The pairs of a run of neighbours. -/
def neighbourPairs (run : List Char) : List (List Nat) :=
  let (lo, hi) := runBounds run
  (List.range ((hi + 1 - lo) / 2)).map fun i => [lo + 2 * i, lo + 2 * i + 1]

/-- The pairs of a run at one distance. -/
def distancePairs (word : List Char) : List (List Nat) :=
  match word.splitOn '+' with
  | [run, distance] =>
    let (lo, hi) := runBounds run
    (List.range (hi + 1 - lo)).map fun i => [lo + i, lo + i + hexValue distance]
  | _ => []

/-- All orbits with more than one member. -/
def orbits : List (List Nat) :=
  (words neighbours).flatMap neighbourPairs ++ (words distances).flatMap distancePairs
    ++ (words families).map fun family => (family.splitOn '-').map hexValue

/-- The set with all characters that fold together with a member. -/
def close (set : CharSet) : CharSet :=
  .ofRanges <| set.ranges ++
    (orbits.filter (·.any set.containsCode)).flatMap (·.map fun code => ⟨code, code⟩)

/-- The set with both cases of its ASCII letters. -/
def closeAscii (set : CharSet) : CharSet :=
  .ofRanges <| set.ranges ++ ((List.range 26).filter fun i =>
      set.containsCode ('A'.toNat + i) || set.containsCode ('a'.toNat + i)).flatMap fun i =>
    [⟨'A'.toNat + i, 'A'.toNat + i⟩, ⟨'a'.toNat + i, 'a'.toNat + i⟩]

end LatestTag.Unicode.CaseFold
