import Signoff.Proofs.Numeral
import Signoff.Uuid

namespace Signoff.Uuid

theorem length_hyphenated {characters : List Char} (all : characters.length = 32) :
    (hyphenated characters).length = 36 := by
  simp [hyphenated, all]

/-- The digits of a hyphenated text are those that were hyphenated. -/
theorem bare_hyphenated {characters : List Char} (all : characters.length = 32) :
    (hyphenated characters).take 8 ++ ((hyphenated characters).drop 9).take 4 ++
      ((hyphenated characters).drop 14).take 4 ++ ((hyphenated characters).drop 19).take 4 ++
        (hyphenated characters).drop 24 = characters := by
  have pieces (start count : Nat) : (characters.drop start).take count ++ characters.drop (start + count) =
      characters.drop start := by
    rw [← List.drop_drop, List.take_append_drop]
  have parts : characters.take 8 ++ ((characters.drop 8).take 4 ++ ((characters.drop 12).take 4 ++
      ((characters.drop 16).take 4 ++ characters.drop 20))) = characters := by
    rw [pieces 16 4, pieces 12 4, pieces 8 4, List.take_append_drop]
  have nothing (start count : Nat) (few : count ≤ start) (place : Nat) :
      ((characters.drop place).take count).drop start = [] :=
    List.drop_of_length_le ((List.length_take_le ..).trans few)
  have front (start : Nat) (few : 8 ≤ start) : (characters.take 8).drop start = [] := nothing start 8 few 0
  simp [hyphenated, List.drop_append, all, nothing, front, parts]

theorem ofHyphenated?_hyphenated {characters : List Char} (all : characters.length = 32) :
    ofHyphenated? (hyphenated characters) = ofDigits? characters := by
  have bare := bare_hyphenated all
  rw [ofHyphenated?]
  simp only [bare, length_hyphenated all, and_self, if_true]

theorem read?_write (uuid : Uuid) : read? uuid.write = some uuid := by
  have all := Numeral.length_fixedHex 32 uuid.value.val
  have number : Numeral.readHex? (Numeral.fixedHex 32 uuid.value.val) = some uuid.value.val :=
    Numeral.readHex?_fixedHex uuid.value.isLt (by decide)
  rw [read?, write, String.toList_ofList, readChars?, length_hyphenated all, if_neg (by decide),
    if_pos rfl, ofHyphenated?_hyphenated all, ofDigits?, if_pos all, number,
    Option.map_some, ofNat, Fin.ofNat_val_eq_self]

end Signoff.Uuid
