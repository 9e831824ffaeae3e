import JavaDiagnostics.Text.Numeral

set_option autoImplicit false

namespace JavaDiagnostics.Text.Numeral

theorem digit_value : ∀ base ≤ 16, ∀ d < base, digit? base (digitChar d) = some d := by decide

theorem digits_append (base : Nat) (front back : List Char) (value : Nat) :
    digits? base (front ++ back) value = (digits? base front value).bind (digits? base back) := by
  induction front generalizing value with
  | nil => rfl
  | cons c rest ih =>
      rw [List.cons_append, digits?, digits?]
      cases digit? base c with
      | none => rfl
      | some d => exact ih (value * base + d)

theorem digits_decimal (n : Nat) : digits? 10 (decimalChars n) 0 = some n := by
  fun_induction decimalChars n with
  | case1 n below =>
      rw [digits?, digit_value 10 (by decide) n below]
      simp [digits?]
  | case2 n above ih =>
      have last := digit_value 10 (by decide) (n % 10) (Nat.mod_lt n (by decide))
      rw [digits_append, ih, Option.bind_some, digits?, last]
      simp only [digits?, Option.some.injEq]
      omega

theorem decimal_digits (n : Nat) : ∀ c ∈ decimalChars n, ∃ d < 10, c = digitChar d := by
  fun_induction decimalChars n with
  | case1 n below =>
      intro c member
      exact ⟨n, below, List.mem_singleton.mp member⟩
  | case2 n above ih =>
      intro c member
      rcases List.mem_append.mp member with high | low
      · exact ih c high
      · exact ⟨n % 10, Nat.mod_lt n (by decide), List.mem_singleton.mp low⟩

theorem decimal_nonempty (n : Nat) : decimalChars n ≠ [] := by
  rw [decimalChars]
  split <;> simp

theorem digit_char_eq : ∀ d < 16, digitChar d = Nat.digitChar d := by decide

theorem decimal_to_digits (n : Nat) : decimalChars n = Nat.toDigits 10 n := by
  fun_induction decimalChars n with
  | case1 n below => rw [digit_char_eq n (by omega), Nat.toDigits_of_lt_base below]
  | case2 n above ih =>
      rw [ih, digit_char_eq (n % 10) (by omega), Nat.toDigits_of_base_le (by decide) (Nat.not_lt.mp above)]

theorem decimal_is_digit (n : Nat) (c : Char) (member : c ∈ decimalChars n) : c.isDigit = true :=
  Nat.isDigit_of_mem_toDigits (by decide) (by decide) (decimal_to_digits n ▸ member)

theorem read_unsigned (base bound value : Nat) (text : List Char) (given : text ≠ []) (unsigned : '+' ∉ text.head?)
    (worth : digits? base text 0 = some value) :
    read base bound text = if value < bound then some value else none := by
  cases text with
  | nil => exact absurd rfl given
  | cons first rest =>
      unfold read
      split
      next tail signed => exact absurd (congrArg List.head? signed) unsigned
      next => simp [worth, Option.filter]

theorem read_decimal (bound n : Nat) :
    read 10 bound (decimalChars n) = if n < bound then some n else none := by
  refine read_unsigned 10 bound n _ (decimal_nonempty n) ?_ (digits_decimal n)
  intro signed
  exact absurd (decimal_is_digit n '+' (List.mem_of_mem_head? signed)) (by decide)

theorem decimal_to_string (n : Nat) : decimal n = toString n := by
  rw [decimal, decimal_to_digits, Nat.toString_eq_ofList_toDigits]

theorem decimal_text_length (n : Nat) : (toString n).length = (decimalChars n).length := by
  rw [← decimal_to_string, decimal, String.length_ofList]

theorem decimal_length (n width : Nat) (positive : 0 < width) : (decimalChars n).length ≤ width ↔ n < Nat.pow 10 width := by
  rw [decimal_to_digits]
  exact Nat.length_toDigits_le_iff (by decide) positive

theorem fixed_length (base width n : Nat) : (fixed base width n).length = width := by
  induction width generalizing n with
  | zero => rfl
  | succ width ih => rw [fixed, List.length_append, ih, List.length_singleton]

theorem digits_fixed (base width n value : Nat) (positive : 0 < base) (small : base ≤ 16) :
    digits? base (fixed base width n) value = some (value * Nat.pow base width + n % Nat.pow base width) := by
  induction width generalizing n with
  | zero => simp [fixed, digits?, Nat.mod_one]
  | succ width ih =>
      have last := digit_value base small (n % base) (Nat.mod_lt n positive)
      have power : Nat.pow base (width + 1) = base * Nat.pow base width := Nat.pow_succ'
      rw [fixed, digits_append, ih, Option.bind_some, digits?, last]
      simp only [digits?, Option.some.injEq]
      rw [power, Nat.mod_mul, Nat.add_mul, Nat.mul_comm base, Nat.mul_assoc, Nat.mul_comm base]
      omega

theorem fixed_digits (base width n : Nat) (positive : 0 < base) :
    ∀ c ∈ fixed base width n, ∃ d < base, c = digitChar d := by
  induction width generalizing n with
  | zero => nofun
  | succ width ih =>
      intro c member
      rcases List.mem_append.mp member with high | low
      · exact ih (n / base) c high
      · exact ⟨n % base, Nat.mod_lt n positive, List.mem_singleton.mp low⟩

theorem fixed_padded (width n : Nat) (below : n < Nat.pow 16 (width + 1)) :
    fixed 16 (width + 1) n = (Nat.toDigits 16 n).leftpad (width + 1) '0' := by
  induction width generalizing n with
  | zero =>
      have small : n < 16 := below
      rw [fixed, fixed, Nat.mod_eq_of_lt small, digit_char_eq n small, Nat.toDigits_of_lt_base small]
      rfl
  | succ width ih =>
      have power : Nat.pow 16 (width + 2) = 16 * Nat.pow 16 (width + 1) := Nat.pow_succ'
      have high : n / 16 < Nat.pow 16 (width + 1) := Nat.div_lt_of_lt_mul (power ▸ below)
      have last := digit_char_eq (n % 16) (Nat.mod_lt n (by decide))
      rw [fixed, ih (n / 16) high, last]
      by_cases small : n < 16
      · rw [Nat.div_eq_of_lt small, Nat.mod_eq_of_lt small, Nat.toDigits_of_lt_base small, Nat.toDigits_zero]
        simp [List.leftpad, List.replicate_succ']
      · rw [Nat.toDigits_of_base_le (n := n) (by decide) (Nat.not_lt.mp small)]
        simp [List.leftpad]

theorem digit_unsigned : ∀ d < 16, digitChar d ≠ '+' := by decide

theorem read_hex_word (word : UInt32) :
    read 16 (Nat.pow 2 32) (fixed 16 8 word.toNat) = some word.toNat := by
  have below : word.toNat < Nat.pow 2 32 := word.toNat_lt
  have worth := digits_fixed 16 8 word.toNat 0 (by decide) (by decide)
  rw [Nat.zero_mul, Nat.zero_add, Nat.mod_eq_of_lt below] at worth
  refine (read_unsigned 16 _ _ _ ?_ ?_ worth).trans (if_pos below)
  · exact List.ne_nil_of_length_pos (by rw [fixed_length]; decide)
  · intro signed
    obtain ⟨d, small, same⟩ := fixed_digits 16 8 word.toNat (by decide) '+' (List.mem_of_mem_head? signed)
    exact digit_unsigned d small same.symm

theorem digit_iff (c : Char) (d : Nat) :
    digit? 10 c = some d ↔ c.isDigit = true ∧ c.toNat - '0'.toNat = d := by
  rw [Char.isDigit_iff_toNat]
  have zero : '0'.toNat = 48 := rfl
  have nine : '9'.toNat = 57 := rfl
  unfold digit?
  dsimp only
  rw [zero, nine]
  by_cases decimal : 48 ≤ c.toNat ∧ c.toNat ≤ 57
  · have below : c.toNat - 48 < 10 := by omega
    simp [decimal, below]
  · simp only [decimal, if_false, false_and, iff_false]
    split <;> split <;> simp <;> omega

theorem digits_iff (text : List Char) (start value : Nat) :
    digits? 10 text start = some value ↔
      (∀ c ∈ text, c.isDigit = true) ∧ Nat.ofDigitChars 10 text start = value := by
  induction text generalizing start with
  | nil => simp [digits?]
  | cons c rest ih =>
      by_cases decimal : c.isDigit = true
      · have digit := (digit_iff c _).mpr ⟨decimal, rfl⟩
        rw [digits?, digit, Nat.ofDigitChars_cons, Nat.mul_comm 10 start]
        simp only [ih, List.forall_mem_cons, decimal, true_and]
      · have none : digit? 10 c = none := by
          rw [Option.eq_none_iff_forall_ne_some]
          exact fun d found => decimal ((digit_iff c d).mp found).1
        simp [digits?, none, decimal]

structure Digits (bound : Nat) (text : List Char) (value : Nat) : Prop where
  given : text ≠ []
  decimal : ∀ c ∈ text, c.isDigit = true
  worth : Nat.ofDigitChars 10 text 0 = value
  below : value < bound

def Decimal (bound : Nat) (text : List Char) (value : Nat) : Prop :=
  Digits bound text value ∨ ∃ digits, text = '+' :: digits ∧ Digits bound digits value

theorem digits_below (bound value : Nat) (text : List Char) (given : text ≠ []) :
    digits? 10 text 0 = some value ∧ value < bound ↔ Digits bound text value := by
  rw [digits_iff]
  exact ⟨fun ⟨⟨decimal, worth⟩, below⟩ => ⟨given, decimal, worth, below⟩,
    fun digits => ⟨⟨digits.decimal, digits.worth⟩, digits.below⟩⟩

theorem read_iff (bound value : Nat) (text : List Char) :
    read 10 bound text = some value ↔ Decimal bound text value := by
  have empty : ¬ Digits bound [] value := fun digits => digits.given rfl
  cases text with
  | nil => simp [read, Decimal, empty]
  | cons c rest =>
      by_cases signed : c = '+'
      · subst c
        have sign : ¬ Digits bound ('+' :: rest) value := fun plain => by simpa using plain.decimal '+'
        simp only [Decimal, sign, false_or, List.cons.injEq, true_and, exists_eq_left']
        cases rest with
        | nil => simp [read, empty]
        | cons digit further => simpa [read] using digits_below bound value _ (List.cons_ne_nil digit further)
      · simpa [read, Decimal, signed] using digits_below bound value _ (List.cons_ne_nil c rest)

theorem digit_char_of (c : Char) (d : Nat) (digit : digit? 10 c = some d) : d < 10 ∧ c = digitChar d := by
  obtain ⟨decimal, worth⟩ := (digit_iff c d).mp digit
  rw [Char.isDigit_iff_toNat] at decimal
  have zero : '0'.toNat = 48 := rfl
  have nine : '9'.toNat = 57 := rfl
  have small : d < 10 := by omega
  have place : d + 48 = c.toNat := by omega
  rw [digitChar, if_pos small, place, Char.ofNat_toNat]
  exact ⟨small, rfl⟩

theorem decimal_concat (n d : Nat) (positive : 0 < n) (small : d < 10) :
    decimalChars (n * 10 + d) = decimalChars n ++ [digitChar d] := by
  have high : (n * 10 + d) / 10 = n := by omega
  have low : (n * 10 + d) % 10 = d := by omega
  rw [decimalChars, if_neg (by omega), high, low]

theorem digits_behind (start value : Nat) (text : List Char) (positive : 0 < start)
    (worth : digits? 10 text start = some value) : decimalChars start ++ text = decimalChars value := by
  induction text generalizing start with
  | nil =>
      rw [List.append_nil, Option.some.inj worth]
  | cons c rest ih =>
      rw [digits?] at worth
      split at worth
      next => cases worth
      next d digit =>
        obtain ⟨small, rfl⟩ := digit_char_of c d digit
        rw [← ih (start * 10 + d) (by omega) worth, decimal_concat start d positive small, List.append_assoc]
        rfl

theorem digits_leading (text : List Char) (value : Nat) (given : text ≠ [])
    (worth : digits? 10 text 0 = some value) :
    ∃ zeros : Nat, text = List.replicate zeros '0' ++ decimalChars value := by
  induction text with
  | nil => exact absurd rfl given
  | cons c rest ih =>
      rw [digits?] at worth
      split at worth
      next => cases worth
      next d digit =>
        obtain ⟨small, rfl⟩ := digit_char_of c d digit
        rw [Nat.zero_mul, Nat.zero_add] at worth
        by_cases zero : d = 0
        · subst zero
          cases rest with
          | nil =>
              obtain rfl : 0 = value := Option.some.inj worth
              exact ⟨0, by rw [decimalChars]; rfl⟩
          | cons next others =>
              obtain ⟨zeros, same⟩ := ih (List.cons_ne_nil next others) worth
              exact ⟨zeros + 1, by rw [same]; rfl⟩
        · have whole := digits_behind d value rest (Nat.pos_of_ne_zero zero) worth
          rw [decimalChars, if_pos small] at whole
          exact ⟨0, whole⟩

theorem digits_zeros (zeros n : Nat) : digits? 10 (List.replicate zeros '0' ++ decimalChars n) 0 = some n := by
  induction zeros with
  | zero => exact digits_decimal n
  | succ zeros ih => exact ih

def padded (signed : Bool) (zeros n : Nat) : List Char :=
  (if signed then ['+'] else []) ++ (List.replicate zeros '0' ++ decimalChars n)

theorem padded_chars (signed : Bool) (zeros n : Nat) :
    ∀ c ∈ padded signed zeros n, c = '+' ∨ ∃ d < 10, c = digitChar d := by
  intro c member
  rcases List.mem_append.mp member with sign | digits
  · cases signed with
    | false => cases sign
    | true => exact .inl (List.mem_singleton.mp sign)
  · rcases List.mem_append.mp digits with zero | digit
    · exact .inr ⟨0, by decide, List.eq_of_mem_replicate zero⟩
    · exact .inr (decimal_digits n c digit)

theorem digits_padded (bound value : Nat) (text : List Char) :
    Digits bound text value ↔ value < bound ∧ ∃ zeros : Nat, text = padded false zeros value := by
  constructor
  · intro digits
    obtain ⟨worth, below⟩ := (digits_below bound value text digits.given).mpr digits
    exact ⟨below, digits_leading text value digits.given worth⟩
  · rintro ⟨below, zeros, rfl⟩
    have given : padded false zeros value ≠ [] := by simp [padded, decimal_nonempty]
    exact (digits_below bound value _ given).mp ⟨digits_zeros zeros value, below⟩

theorem read_padded (bound value : Nat) (text : List Char) :
    read 10 bound text = some value ↔
      value < bound ∧ ∃ (signed : Bool) (zeros : Nat), text = padded signed zeros value := by
  rw [read_iff, Decimal, Bool.exists_bool, digits_padded]
  simp only [digits_padded]
  constructor
  · rintro (⟨below, plain⟩ | ⟨digits, rfl, below, zeros, rfl⟩)
    · exact ⟨below, .inl plain⟩
    · exact ⟨below, .inr ⟨zeros, rfl⟩⟩
  · rintro ⟨below, plain | ⟨zeros, rfl⟩⟩
    · exact .inl ⟨below, plain⟩
    · exact .inr ⟨_, rfl, below, zeros, rfl⟩

end JavaDiagnostics.Text.Numeral
