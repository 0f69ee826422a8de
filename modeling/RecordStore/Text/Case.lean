/-!
# Letter case in names

SQL compares the names of tables and columns without regard to the case of
the ASCII letters.  The functions here fold exactly those letters; every
other character stands for itself.
-/

namespace RecordStore.Text

/-- The text with its ASCII letters in lower case. -/
def lower (text : String) : String :=
  String.ofList (text.toList.map Char.toLower)

/-- The text with its ASCII letters in upper case. -/
def upper (text : String) : String :=
  String.ofList (text.toList.map Char.toUpper)

/-- Two names are the same to SQL when they differ in letter case only. -/
def sameName (left right : String) : Bool :=
  lower left == lower right

@[simp]
theorem sameName_self (name : String) : sameName name name = true := by
  simp [sameName]

theorem sameName_comm (left right : String) :
    sameName left right = sameName right left := by
  exact Bool.beq_comm

theorem sameName_trans
    {first second third : String}
    (left : sameName first second = true)
    (right : sameName second third = true) :
    sameName first third = true := by
  simp only [sameName, beq_iff_eq] at *
  exact left.trans right

end RecordStore.Text
