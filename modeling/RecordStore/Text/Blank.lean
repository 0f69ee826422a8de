/-!
# Blank characters

The characters with the Unicode property `White_Space`, and the ways of
cutting a text at them: dropping them at both ends, and taking the first
word between them.
-/

namespace RecordStore.Text

/-- The code points with the property `White_Space`, as closed ranges. -/
def blankRanges : List (Nat × Nat) :=
  [(0x09, 0x0D), (0x20, 0x20), (0x85, 0x85), (0xA0, 0xA0),
    (0x1680, 0x1680), (0x2000, 0x200A), (0x2028, 0x2029),
    (0x202F, 0x202F), (0x205F, 0x205F), (0x3000, 0x3000)]

/-- A character with the property `White_Space`. -/
def isBlank (c : Char) : Bool :=
  blankRanges.any fun range => range.1 ≤ c.toNat && c.toNat ≤ range.2

/-- The text without the blanks at its two ends. -/
def trim (text : String) : String :=
  String.ofList
    ((text.toList.dropWhile isBlank).reverse.dropWhile isBlank).reverse

/-- The first run of characters that are not blank, if there is one. -/
def firstWord? (text : List Char) : Option (List Char) :=
  match (text.dropWhile isBlank).takeWhile fun c => !isBlank c with
  | [] => none
  | first :: rest => some (first :: rest)

/-- Cuts a text at every occurrence of a separator; `n` separators give `n + 1` pieces. -/
def splitAt (separator : Char) : List Char → List (List Char)
  | [] => [[]]
  | c :: rest =>
      if c = separator then
        [] :: splitAt separator rest
      else
        match splitAt separator rest with
        | [] => [[c]]
        | piece :: pieces => (c :: piece) :: pieces

end RecordStore.Text
