import RecordStore.Json.Writer
import RecordStore.Proofs.Double.Shortest
import RecordStore.Proofs.Json.Reader

/-!
# Reading numbers that were written

A number is read as it was written: a whole number because its digits are, and
a double because its shortest decimal lies in its interval.  The notation of a
decimal, with a point or with an exponent, leaves its value as it is.

Main statements: `readNumber_writeInteger` and `readNumber_writeReal`.
-/

namespace RecordStore.Json

/-! ## Digits -/

/-- All of the characters are digits. -/
def AreDigits (characters : List Char) : Prop :=
  ∀ c ∈ characters, c.isDigit = true

variable {digits tail : List Char}

theorem areDigits_toDigits (number : Nat) : AreDigits (Nat.toDigits 10 number) :=
  fun _ member => Nat.isDigit_of_mem_toDigits (by decide) (by decide) member

theorem areDigits_replicate (count : Nat) : AreDigits (List.replicate count '0') := by
  intro c member
  rw [(List.mem_replicate.mp member).2]
  rfl

theorem AreDigits.append
    {first second : List Char}
    (areFirst : AreDigits first)
    (areSecond : AreDigits second) :
    AreDigits (first ++ second) := by
  intro c member
  rcases List.mem_append.mp member with isFirst | isSecond
  · exact areFirst c isFirst
  · exact areSecond c isSecond

theorem digitsValue_eq (digits : List Char) : digitsValue digits = Nat.ofDigitChars 10 digits 0 := by
  rw [digitsValue, Nat.ofDigitChars_eq_foldl]
  rfl

@[simp]
theorem digitsValue_toDigits (number : Nat) : digitsValue (Nat.toDigits 10 number) = number := by
  rw [digitsValue_eq, Nat.ofDigitChars_ten_toDigits]

theorem digitsValue_append (first second : List Char) :
    digitsValue (first ++ second) = digitsValue first * 10 ^ second.length + digitsValue second := by
  simp only [digitsValue_eq]
  rw [Nat.ofDigitChars_append, Nat.ofDigitChars_eq_ofDigitChars_zero, Nat.mul_comm]

theorem digitsValue_replicate (count : Nat) : digitsValue (List.replicate count '0') = 0 := by
  rw [digitsValue_eq, Nat.ofDigitChars_replicate_zero, Nat.mul_zero]

theorem digitsValue_lt (areDigits : AreDigits digits) : digitsValue digits < 10 ^ digits.length := by
  induction digits with
  | nil => decide
  | cons c rest induction =>
      have isDigit := areDigits c List.mem_cons_self
      have small : digitValue c ≤ 9 := by
        simp only [Char.isDigit, Bool.and_eq_true, decide_eq_true_eq, UInt32.le_iff_toNat_le] at isDigit
        have isAtMost : c.toNat ≤ 57 := isDigit.2
        rw [digitValue]
        omega
      have isSum : digitsValue (c :: rest) = digitValue c * 10 ^ rest.length + digitsValue rest := by
        have isFirst : digitsValue [c] = digitValue c := by
          rw [digitsValue, List.foldl_cons, List.foldl_nil, Nat.mul_zero, Nat.zero_add]
        rw [← List.singleton_append, digitsValue_append, isFirst]
      have others := induction fun other member => areDigits other (List.mem_cons_of_mem c member)
      have scaled := Nat.mul_le_mul_right (10 ^ rest.length) small
      rw [isSum, List.length_cons, Nat.pow_succ]
      omega

/-- A number that is not zero is written with a first digit that is not zero. -/
theorem head?_toDigits_ne_zero
    {number : Nat}
    (nonzero : 0 < number) :
    (Nat.toDigits 10 number).head? ≠ some '0' := by
  intro isZero
  have areDigits := areDigits_toDigits number
  have isNumber := digitsValue_toDigits number
  have large := Double.pow_digitCount_le nonzero
  rw [Double.digitCount] at large
  cases written : Nat.toDigits 10 number with
  | nil =>
      rw [written] at isZero
      contradiction
  | cons c rest =>
      rw [written] at isZero areDigits isNumber large
      cases isZero
      have isRest : digitsValue ('0' :: rest) = digitsValue rest := by
        rw [← List.singleton_append, digitsValue_append,
          show digitsValue ['0'] = 0 from digitsValue_replicate 1, Nat.zero_mul, Nat.zero_add]
      have small := digitsValue_lt fun other member =>
        areDigits other (List.mem_cons_of_mem '0' member)
      rw [isRest] at isNumber
      rw [List.length_cons, Nat.add_sub_cancel] at large
      omega

/-! ## Reading digits -/

/-- No digit comes next. -/
def EndsDigits (tail : List Char) : Prop :=
  ∀ c ∈ tail.head?, c.isDigit = false

theorem readDigits_digits
    (areDigits : AreDigits digits)
    (nonempty : digits ≠ [])
    (ends : EndsDigits tail) :
    readDigits (digits ++ tail) = .ok (digits, tail) := by
  have taken : tail.takeWhile Char.isDigit = [] := by
    cases tail with
    | nil => rfl
    | cons c rest => exact List.takeWhile_cons_of_neg (by simp [ends c rfl])
  have dropped : tail.dropWhile Char.isDigit = tail := by
    cases tail with
    | nil => rfl
    | cons c rest => exact List.dropWhile_cons_of_neg (by simp [ends c rfl])
  have allTaken : (digits ++ tail).takeWhile Char.isDigit = digits := by
    rw [List.takeWhile_append_of_pos areDigits, taken, List.append_nil]
  have allDropped : (digits ++ tail).dropWhile Char.isDigit = tail := by
    rw [List.dropWhile_append_of_pos areDigits, dropped]
  cases digits with
  | nil => contradiction
  | cons c rest =>
      rw [List.cons_append] at allTaken allDropped ⊢
      rw [readDigits, if_pos (areDigits c List.mem_cons_self), allTaken, allDropped]

theorem readWhole_digits
    (areDigits : AreDigits digits)
    (nonempty : digits ≠ [])
    (first : digits.head? ≠ some '0' ∨ digits = ['0'])
    (ends : EndsDigits tail) :
    readWhole (digits ++ tail) = .ok (digits, tail) := by
  rcases first with notZero | rfl
  · cases digits with
    | nil => contradiction
    | cons c rest =>
        rw [List.cons_append, readWhole, ← List.cons_append]
        · exact readDigits_digits areDigits nonempty ends
        · rintro _ same
          exact notZero (congrArg some (List.cons.inj same).1)
  · cases tail with
    | nil => rfl
    | cons c rest =>
        simp [readWhole, ends c rfl]

/-- A number is read from its parts. -/
theorem readNumber_of_parts
    {negative : Bool}
    {input whole afterWhole afterFraction : List Char}
    {fraction : Option (List Char)}
    {exponent : Option Int}
    (isWhole : readWhole input = .ok (whole, afterWhole))
    (isFraction : readFraction afterWhole = .ok (fraction, afterFraction))
    (isExponent : readExponent afterFraction = .ok (exponent, []))
    (noSign : input.head? ≠ some '-') :
    readNumber ((if negative then ['-'] else []) ++ input) =
      (do
        let number ← numberOf negative whole fraction exponent
        .ok (number, [])) := by
  have isNegative :
      (((if negative then ['-'] else []) ++ input).head? == some '-') = negative := by
    cases negative with
    | false => simpa using noSign
    | true => rfl
  have isUnsigned :
      (if negative then ((if negative then ['-'] else []) ++ input).drop 1
        else (if negative then ['-'] else []) ++ input) = input := by
    cases negative <;> rfl
  rw [readNumber]
  simp only [isNegative, isUnsigned]
  rw [isWhole, Outcome.ok_bind]
  dsimp only
  rw [isFraction, Outcome.ok_bind]
  dsimp only
  rw [isExponent]
  rfl

/-! ## Whole numbers -/

/-- The digits of a whole number: a zero alone, or digits that do not start with zero. -/
structure IsNumeral (digits : List Char) : Prop where
  areDigits : AreDigits digits
  nonempty : digits ≠ []
  first : digits.head? ≠ some '0' ∨ digits = ['0']

theorem isNumeral_toDigits (magnitude : Nat) : IsNumeral (Nat.toDigits 10 magnitude) where
  areDigits := areDigits_toDigits magnitude
  nonempty := Nat.toDigits_ne_nil
  first := by
    rcases Nat.eq_zero_or_pos magnitude with rfl | positive
    · exact .inr rfl
    · exact .inl (head?_toDigits_ne_zero positive)

/-- Digits with a sign are read as the whole number they write, if it is one of 64 bits. -/
theorem readNumber_numeral
    (negative : Bool)
    (isNumeral : IsNumeral digits)
    (fits : fitsInteger negative (digitsValue digits) = true) :
    readNumber ((if negative then ['-'] else []) ++ digits) =
      .ok (.integer (if negative then -(digitsValue digits : Int) else digitsValue digits), []) := by
  have ends : EndsDigits [] := by simp [EndsDigits]
  have isWhole := readWhole_digits isNumeral.areDigits isNumeral.nonempty isNumeral.first ends
  rw [List.append_nil] at isWhole
  have noSign : digits.head? ≠ some '-' := by
    intro isSign
    have isDigit := isNumeral.areDigits '-' (List.mem_of_head? isSign)
    contradiction
  rw [readNumber_of_parts isWhole rfl rfl noSign, numberOf]
  simp [fits]

theorem readNumber_digits
    (negative : Bool)
    {magnitude : Nat}
    (fits : fitsInteger negative magnitude = true) :
    readNumber ((if negative then ['-'] else []) ++ Nat.toDigits 10 magnitude) =
      .ok (.integer (if negative then -(magnitude : Int) else magnitude), []) := by
  have isRead :=
    readNumber_numeral negative (isNumeral_toDigits magnitude) (by rwa [digitsValue_toDigits])
  rwa [digitsValue_toDigits] at isRead

/-- A whole number of 64 bits is read as it was written. -/
theorem readNumber_writeInteger
    {number : Int}
    (large : -2 ^ 63 ≤ number)
    (small : number < 2 ^ 64) :
    readNumber (writeInteger number) = .ok (.integer number, []) := by
  cases number with
  | ofNat magnitude =>
      apply readNumber_digits false
      simp only [fitsInteger, Nat.pow_eq, Bool.false_eq_true, if_false, decide_eq_true_eq]
      simp only [Int.ofNat_eq_natCast] at small
      omega
  | negSucc magnitude =>
      apply readNumber_digits true
      simp only [fitsInteger, Nat.pow_eq, if_true, Bool.and_eq_true, decide_eq_true_eq]
      omega

/-! ## The notation of a decimal -/

/--
A text is read as digits after whose first one stands the power of ten
`leading`, and not as a whole number; zeros at the end make no difference.
-/
structure ReadsDigits (digits : List Char) (leading : Int) (input : List Char) : Prop where
  noSign : input.head? ≠ some '-'
  reads :
    ∃ whole fraction exponent afterWhole afterFraction,
      readWhole input = .ok (whole, afterWhole) ∧
        readFraction afterWhole = .ok (fraction, afterFraction) ∧
          readExponent afterFraction = .ok (exponent, []) ∧
            (fraction.isNone && exponent.isNone) = false ∧
              ∃ shift : Nat,
                digitsValue (whole ++ fraction.getD []) = digitsValue digits * 10 ^ shift ∧
                  exponent.getD 0 - (fraction.getD []).length + shift + digits.length =
                    leading + 1

theorem endsDigits_nil : EndsDigits [] := by
  simp [EndsDigits]

theorem head?_ne_sign (areDigits : AreDigits digits) (nonempty : digits ≠ []) (tail : List Char) :
    (digits ++ tail).head? ≠ some '-' := by
  cases digits with
  | nil => contradiction
  | cons c rest =>
      intro isSign
      have isDigit := areDigits c List.mem_cons_self
      cases Option.some.inj isSign
      contradiction

/-- A text of two parts with a point between them. -/
theorem readsDigits_of_point
    {whole fraction : List Char}
    {leading : Int}
    (shift : Nat)
    (areWhole : AreDigits whole)
    (areFraction : AreDigits fraction)
    (wholeNonempty : whole ≠ [])
    (fractionNonempty : fraction ≠ [])
    (first : whole.head? ≠ some '0' ∨ whole = ['0'])
    (isValue : digitsValue (whole ++ fraction) = digitsValue digits * 10 ^ shift)
    (isExponent : 0 - (fraction.length : Int) + shift + digits.length = leading + 1) :
    ReadsDigits digits leading (whole ++ '.' :: fraction) where
  noSign := head?_ne_sign areWhole wholeNonempty _
  reads := by
    have ends : EndsDigits ('.' :: fraction) := by simp [EndsDigits]
    have isFraction := readDigits_digits areFraction fractionNonempty endsDigits_nil
    rw [List.append_nil] at isFraction
    refine ⟨whole, some fraction, none, _, [], readWhole_digits areWhole wholeNonempty first ends,
      ?_, rfl, rfl, shift, isValue, isExponent⟩
    rw [readFraction, isFraction]
    rfl

theorem readsDigits_writePlain
    (areDigits : AreDigits digits)
    (nonempty : digits ≠ [])
    (first : digits.head? ≠ some '0')
    (leading : Int) :
    ReadsDigits digits leading (writePlain digits leading) := by
  have areZeros := areDigits_replicate
  cases leading with
  | negSucc power =>
      have isValue :
          digitsValue (['0'] ++ (List.replicate power '0' ++ digits)) =
            digitsValue digits * 10 ^ 0 := by
        have areLeading : ['0'] ++ List.replicate power '0' = List.replicate (power + 1) '0' := rfl
        rw [← List.append_assoc, areLeading, digitsValue_append, digitsValue_replicate]
        simp
      refine readsDigits_of_point 0 (areZeros 1) ((areZeros power).append areDigits)
        (List.cons_ne_nil _ _) (List.append_ne_nil_of_right_ne_nil _ nonempty) (.inr rfl) isValue ?_
      have isLength : (List.replicate power '0' ++ digits).length = power + digits.length := by
        rw [List.length_append, List.length_replicate]
      simp only [List.append_eq, isLength]
      omega
  | ofNat power =>
      simp only [writePlain]
      by_cases isWhole : digits.length ≤ power + 1
      · rw [List.take_of_length_le isWhole, List.drop_of_length_le isWhole,
          if_pos List.isEmpty_nil]
        refine readsDigits_of_point (power + 1 - digits.length + 1)
          (areDigits.append (areZeros _)) (areZeros 1)
          (List.append_ne_nil_of_left_ne_nil nonempty _) (List.cons_ne_nil _ _) (.inl ?_) ?_ ?_
        · rwa [List.head?_append_of_ne_nil _ nonempty]
        · have areZero :
              List.replicate (power + 1 - digits.length) '0' ++ ['0'] =
                List.replicate (power + 1 - digits.length + 1) '0' :=
            List.replicate_succ'.symm
          rw [List.append_assoc, areZero, digitsValue_append, digitsValue_replicate,
            List.length_replicate, Nat.add_zero]
        · simp only [List.length_singleton, Int.ofNat_eq_natCast]
          omega
      · have isCut : (digits.take (power + 1)).length = power + 1 := by
          rw [List.length_take]
          omega
        have fractionNonempty : digits.drop (power + 1) ≠ [] := by
          rw [Ne, List.drop_eq_nil_iff]
          exact isWhole
        rw [isCut, Nat.sub_self, List.replicate_zero, List.append_nil,
          if_neg (by simpa using fractionNonempty)]
        refine readsDigits_of_point 0
          (fun c member => areDigits c (List.mem_of_mem_take member))
          (fun c member => areDigits c (List.mem_of_mem_drop member))
          (List.ne_nil_of_length_pos (by omega)) fractionNonempty (.inl ?_) ?_ ?_
        · rwa [List.head?_take, if_neg (Nat.succ_ne_zero power)]
        · rw [List.take_append_drop, Nat.pow_zero, Nat.mul_one]
        · rw [List.length_drop, Int.ofNat_eq_natCast]
          omega

/-- An exponent is read with its sign. -/
theorem readExponent_writeInteger (exponent : Int) :
    readExponent
        ('e' :: (if 0 ≤ exponent then '+' :: writeInteger exponent else writeInteger exponent)) =
      .ok (some exponent, []) := by
  have isRead (magnitude : Nat) :
      readDigits (Nat.toDigits 10 magnitude) = .ok (Nat.toDigits 10 magnitude, []) := by
    have read :=
      readDigits_digits (areDigits_toDigits magnitude) Nat.toDigits_ne_nil endsDigits_nil
    rwa [List.append_nil] at read
  cases exponent with
  | ofNat magnitude =>
      have isNatural : 0 ≤ Int.ofNat magnitude := Int.natCast_nonneg magnitude
      rw [if_pos isNatural, writeInteger, readExponent, if_pos (.inl rfl)]
      dsimp only
      rw [isRead, Outcome.ok_bind, digitsValue_toDigits]
      rfl
  | negSucc magnitude =>
      rw [if_neg (by omega), writeInteger, readExponent, if_pos (.inl rfl)]
      dsimp only
      rw [isRead, Outcome.ok_bind, digitsValue_toDigits]
      rfl

theorem readsDigits_writeScientific
    (areDigits : AreDigits digits)
    (nonempty : digits ≠ [])
    (first : digits.head? ≠ some '0')
    (leading : Int) :
    ReadsDigits digits leading (writeScientific digits leading) := by
  have isExponent := readExponent_writeInteger leading
  cases digits with
  | nil => contradiction
  | cons c rest =>
      have isFirst (tail : List Char) (ends : EndsDigits tail) :
          readWhole ([c] ++ tail) = .ok ([c], tail) := by
        refine readWhole_digits ?_ (List.cons_ne_nil _ _) (.inl first) ends
        exact fun other member => areDigits other (by simpa using .inl (List.mem_singleton.mp member))
      rw [writeScientific]
      dsimp only [List.drop_succ_cons, List.drop_zero, List.take_succ_cons, List.take_zero]
      cases rest with
      | nil =>
          refine ⟨head?_ne_sign areDigits (List.cons_ne_nil _ _) _, [c], none, some leading, _, _,
            isFirst _ (by simp [EndsDigits]), rfl, isExponent, rfl, 0, by simp, ?_⟩
          simp
      | cons d others =>
          have areOthers : AreDigits (d :: others) :=
            fun other member => areDigits other (List.mem_cons_of_mem c member)
          have isFraction (tail : List Char) (ends : EndsDigits tail) :=
            readDigits_digits areOthers (List.cons_ne_nil _ _) ends
          refine ⟨by simpa using head?_ne_sign areDigits (List.cons_ne_nil _ _) [], [c],
            some (d :: others), some leading, '.' :: (d :: others) ++ 'e' :: _, _,
            isFirst _ (by simp [EndsDigits]), ?_, isExponent, rfl, 0, by simp, ?_⟩
          · rw [List.cons_append, readFraction, isFraction _ (by simp [EndsDigits])]
            rfl
          · simp only [List.length_cons, Option.getD_some]
            omega

/-! ## Decimals -/

/-- The digits of a number without the zeros at their end. -/
def significantDigits (number : Nat) : List Char :=
  ((Nat.toDigits 10 number).reverse.dropWhile (· == '0')).reverse

theorem exists_significantDigits (number : Nat) :
    ∃ count,
      Nat.toDigits 10 number = significantDigits number ++ List.replicate count '0' := by
  let reversed := (Nat.toDigits 10 number).reverse
  have areZeros :
      reversed.takeWhile (· == '0') =
        List.replicate (reversed.takeWhile (· == '0')).length '0' := by
    apply List.eq_replicate_of_mem
    intro c member
    simpa using List.mem_takeWhile_imp member
  refine ⟨(reversed.takeWhile (· == '0')).length, ?_⟩
  rw [← List.reverse_inj, List.reverse_append, List.reverse_replicate, ← areZeros,
    significantDigits, List.reverse_reverse]
  exact List.takeWhile_append_dropWhile.symm

/-- A decimal is read as its significant digits. -/
theorem readsDigits_writeDecimal
    {decimal : Decimal}
    (nonzero : 0 < decimal.digits) :
    ∃ count : Nat,
      decimal.digits = digitsValue (significantDigits decimal.digits) * 10 ^ count ∧
        ReadsDigits (significantDigits decimal.digits)
          (decimal.exponent + (significantDigits decimal.digits).length + count - 1)
          (writeDecimal decimal) := by
  rcases exists_significantDigits decimal.digits with ⟨count, isAll⟩
  have isValue := congrArg digitsValue isAll
  rw [digitsValue_toDigits, digitsValue_append, digitsValue_replicate, List.length_replicate,
    Nat.add_zero] at isValue
  have areDigits : AreDigits (significantDigits decimal.digits) := fun c member =>
    areDigits_toDigits decimal.digits c (isAll ▸ List.mem_append_left _ member)
  have nonempty : significantDigits decimal.digits ≠ [] := by
    intro isEmpty
    rw [isEmpty, show digitsValue [] = 0 from rfl, Nat.zero_mul] at isValue
    omega
  have first : (significantDigits decimal.digits).head? ≠ some '0' := by
    have notZero := head?_toDigits_ne_zero nonzero
    rwa [isAll, List.head?_append_of_ne_nil _ nonempty] at notZero
  refine ⟨count, isValue, ?_⟩
  have isLeading :
      decimal.exponent + (Nat.toDigits 10 decimal.digits).length - 1 =
        decimal.exponent + (significantDigits decimal.digits).length + count - 1 := by
    rw [isAll, List.length_append, List.length_replicate]
    omega
  rw [writeDecimal, isLeading]
  split
  · exact readsDigits_writePlain areDigits nonempty first _
  · exact readsDigits_writeScientific areDigits nonempty first _

/-! ## Doubles -/

/-- What is read as digits of a decimal in the interval of a double is read as that double. -/
theorem readNumber_of_readsDigits
    {number : Double}
    (isFinite : number.isFinite = true)
    (nonzero : 0 < number.significand)
    {leading : Int}
    {input : List Char}
    (reads : ReadsDigits digits leading input)
    {shift : Nat}
    {exponent : Int}
    (isLeading : leading + 1 = exponent + shift + digits.length)
    (holds :
      number.interval.Holds (digitsValue digits * 10 ^ shift * 10 ^ exponent.toNat)
        (10 ^ (-exponent).toNat)) :
    readNumber ((if number.isNegative then ['-'] else []) ++ input) =
      .ok (.real number, []) := by
  rcases reads.reads with
    ⟨whole, fraction, power, afterWhole, afterFraction, isWhole, isFraction, isPower, isReal,
      other, isValue, isExponent⟩
  rw [readNumber_of_parts isWhole isFraction isPower reads.noSign, numberOf]
  simp only [isReal, Bool.false_and, Bool.false_eq_true, if_false]
  have isRead :
      Double.ofDecimal number.isNegative (digitsValue (whole ++ fraction.getD []))
          (power.getD 0 - (fraction.getD []).length) =
        number := by
    apply Double.ofDecimal_of_holds isFinite nonzero
    refine holds.of_mul_eq (Nat.pow_pos (by decide)) (Nat.pow_pos (by decide)) ?_
    rw [isValue]
    simp only [Nat.mul_assoc, ← Nat.pow_add]
    congr 2
    omega
  rw [isRead, if_pos isFinite]
  rfl

/-- A finite double is read as it was written. -/
theorem readNumber_writeReal {number : Double} (isFinite : number.isFinite = true) :
    readNumber (writeReal number) = .ok (.real number, []) := by
  rw [writeReal, isFinite]
  simp only [Bool.not_true, Bool.false_eq_true, if_false]
  split
  case isTrue isZero =>
    have noSignificand : number.significand = 0 :=
      (Nat.mul_eq_zero.mp isZero).resolve_right (Nat.two_pow_pos _).ne'
    have noSign : ['0', '.', '0'].head? ≠ some '-' := by decide
    have isNumber : numberOf number.isNegative ['0'] (some ['0']) none = .ok (.real number) := by
      have isZeroValue : digitsValue (['0'] ++ ['0']) = 0 := digitsValue_replicate 2
      rw [numberOf]
      simp only [Option.isNone_some, Bool.false_and, Bool.false_eq_true, if_false,
        Option.getD_some, isZeroValue, Double.ofDecimal_zero,
        Double.eq_zero_of_significand noSignificand, isFinite, if_true]
    refine (readNumber_of_parts rfl rfl rfl noSign).trans ?_
    exact congrArg (· >>= fun read => .ok (read, [])) isNumber
  case isFalse isNonzero =>
    have nonzero : 0 < number.significand := by
      apply Nat.pos_of_ne_zero
      intro isZero
      exact isNonzero (by rw [Double.magnitude, isZero, Nat.zero_mul])
    have holds := Double.holds_shortest nonzero
    have digitsNonzero : 0 < number.shortest.digits :=
      Nat.pos_of_mul_pos_right (Nat.pos_of_ne_zero (Double.le_of_holds nonzero holds).1)
    rcases readsDigits_writeDecimal digitsNonzero with ⟨count, isValue, reads⟩
    rw [isValue] at holds
    exact readNumber_of_readsDigits isFinite nonzero reads (by omega) holds

end RecordStore.Json
