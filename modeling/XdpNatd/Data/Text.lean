namespace XdpNatd.Data

abbrev Text := List Char

def decimal (number : Nat) : Text := Nat.toDigits 10 number

/-- Digits after `number`, as a value below `bound`. -/
def parseDigits (bound number : Nat) : Text → Except String Nat
  | [] => .ok number
  | digit :: digits =>
      if ¬ digit.isDigit then .error "invalid digit found in string"
      else
        let next := 10 * number + (digit.toNat - '0'.toNat)
        if next < bound then parseDigits bound next digits
        else .error "number too large to fit in target type"

/-- `parse` of an unsigned type: a plus sign may come first, a minus sign may not. -/
def parseUnsigned (bound : Nat) (text : Text) : Except String Nat :=
  match text with
  | [] => .error "cannot parse integer from empty string"
  | ['+'] => .error "invalid digit found in string"
  | '+' :: digits => parseDigits bound 0 digits
  | _ => parseDigits bound 0 text

/-- A number of an IPv4 address: at most three digits, and no zero in front. -/
def parseOctet (text : Text) : Option Nat :=
  if text.length ≤ 3 ∧ (text.head? = some '0' → text = ['0']) then
    if text = [] then none else (parseDigits 256 0 text).toOption
  else none

def parseIpv4 (text : Text) : Option UInt32 :=
  match text.splitOn '.' with
  | [first, second, third, fourth] => do
      let first ← parseOctet first
      let second ← parseOctet second
      let third ← parseOctet third
      let fourth ← parseOctet fourth
      some (.ofNat (16777216 * first + 65536 * second + 256 * third + fourth))
  | _ => none

def ipv4Text (address : UInt32) : Text :=
  ['.'].intercalate [decimal (address.toNat / 16777216), decimal (address.toNat / 65536 % 256),
    decimal (address.toNat / 256 % 256), decimal (address.toNat % 256)]

/-- The property `White_Space` of Unicode. -/
def whitespace (char : Char) : Bool :=
  let code := char.toNat
  (9 ≤ code ∧ code ≤ 13) ∨ (0x2000 ≤ code ∧ code ≤ 0x200A) ∨
    code ∈ [0x20, 0x85, 0xA0, 0x1680, 0x2028, 0x2029, 0x202F, 0x205F, 0x3000]

def trim (text : Text) : Text :=
  ((text.dropWhile whitespace).reverse.dropWhile whitespace).reverse

def splitOnce (separator : Char) (text : Text) : Option (Text × Text) :=
  if separator ∈ text then
    some (text.takeWhile (· ≠ separator), (text.dropWhile (· ≠ separator)).tail)
  else none

variable {bound number : Nat} {text front back : Text} {separator char : Char} {address : UInt32}

theorem isDigit_of_mem_decimal (member : char ∈ decimal number) : char.isDigit :=
  Nat.isDigit_of_mem_toDigits (by decide) (by decide) member

theorem not_mem_decimal (separates : separator.isDigit = false) : separator ∉ decimal number := by
  intro member
  rw [isDigit_of_mem_decimal member] at separates
  cases separates

theorem parseDigits_ok (digits : ∀ char ∈ text, char.isDigit)
    (fits : Nat.ofDigitChars 10 text number < bound) :
    parseDigits bound number text = .ok (Nat.ofDigitChars 10 text number) := by
  induction text generalizing number with
  | nil => rfl
  | cons digit rest ih =>
      obtain ⟨isDigit, digits⟩ := List.forall_mem_cons.mp digits
      rw [Nat.ofDigitChars_cons] at fits ⊢
      have grows : 10 * number + (digit.toNat - '0'.toNat) ≤
          Nat.ofDigitChars 10 rest (10 * number + (digit.toNat - '0'.toNat)) := by
        rw [Nat.ofDigitChars_eq_ofDigitChars_zero]
        exact Nat.le_add_right_of_le (Nat.le_mul_of_pos_left _ (Nat.pow_pos (by decide)))
      unfold parseDigits
      rw [if_neg fun bad => bad isDigit]
      dsimp only
      rw [if_pos (Nat.lt_of_le_of_lt grows fits)]
      exact ih digits fits

theorem parseDigits_decimal (fits : number < bound) : parseDigits bound 0 (decimal number) = .ok number := by
  have value : Nat.ofDigitChars 10 (decimal number) 0 = number := Nat.ofDigitChars_ten_toDigits
  rw [parseDigits_ok (fun _ => isDigit_of_mem_decimal) (by rwa [value]), value]

theorem parseUnsigned_decimal (fits : number < bound) :
    parseUnsigned bound (decimal number) = .ok number := by
  have digits := @parseDigits_decimal bound number fits
  have plain : '+' ∉ decimal number := not_mem_decimal rfl
  unfold parseUnsigned
  split
  · next empty => exact absurd empty Nat.toDigits_ne_nil
  · next plus => simp [plus] at plain
  · next plus => simp [plus] at plain
  · exact digits

theorem not_whitespace_of_isDigit (digit : char.isDigit) : whitespace char = false := by
  obtain ⟨low, high⟩ := Char.isDigit_iff_toNat.mp digit
  have zero : '0'.toNat = 48 := rfl
  have nine : '9'.toNat = 57 := rfl
  simp only [whitespace, decide_eq_false_iff_not, List.mem_cons, List.not_mem_nil, or_false]
  omega

/-- Blanks around a text without blanks are all that `trim` takes away. -/
theorem trim_padded (solid : ∀ char ∈ text, whitespace char = false)
    (before : ∀ char ∈ front, whitespace char) (after : ∀ char ∈ back, whitespace char) :
    trim (front ++ text ++ back) = text := by
  have stripped {blanks rest : Text} (blank : ∀ char ∈ blanks, whitespace char)
      (starts : ∀ char ∈ rest.head?, whitespace char = false) :
      (blanks ++ rest).dropWhile whitespace = rest := by
    rw [List.dropWhile_append_of_pos blank]
    cases rest with
    | nil => rfl
    | cons first rest => exact List.dropWhile_cons_of_neg (by simp [starts first rfl])
  cases text with
  | nil =>
      have blank : ∀ char ∈ front ++ back, whitespace char := by
        intro char member
        exact (List.mem_append.mp member).elim (before char) (after char)
      have gone := @stripped (front ++ back) [] blank nofun
      rw [List.append_nil] at gone
      simp [trim, gone]
  | cons first rest =>
      have last : ∀ char ∈ (first :: rest).reverse.head?, whitespace char = false := fun char head =>
        solid char (List.mem_reverse.mp (List.mem_of_head? head))
      rw [trim, List.append_assoc, stripped before (fun char head => by
          cases head
          exact solid first List.mem_cons_self), List.reverse_append,
        stripped (fun char member => after char (List.mem_reverse.mp member)) last, List.reverse_reverse]

theorem trim_decimal (before : ∀ char ∈ front, whitespace char) (after : ∀ char ∈ back, whitespace char) :
    trim (front ++ decimal number ++ back) = decimal number :=
  trim_padded (fun _ member => not_whitespace_of_isDigit (isDigit_of_mem_decimal member)) before after

theorem stays_until_separator (plain : separator ∉ front) :
    ∀ char ∈ front, decide (char ≠ separator) = true := by
  intro char member
  exact decide_eq_true fun same => plain (same ▸ member)

theorem takeWhile_separated (plain : separator ∉ front) :
    (front ++ separator :: back).takeWhile (· ≠ separator) = front := by
  rw [List.takeWhile_append_of_pos (stays_until_separator plain)]
  simp

theorem splitOnce_separated (plain : separator ∉ front) :
    splitOnce separator (front ++ separator :: back) = some (front, back) := by
  unfold splitOnce
  rw [if_pos (by simp), takeWhile_separated plain, List.dropWhile_append_of_pos (stays_until_separator plain)]
  simp

theorem decimal_inj {left right : Nat} : decimal left = decimal right ↔ left = right := by
  constructor
  · intro same
    have values := congrArg (fun digits => Nat.ofDigitChars 10 digits 0) same
    simpa [decimal] using values
  · exact congrArg decimal

theorem parseOctet_decimal (fits : number < 256) : parseOctet (decimal number) = some number := by
  have all : ∀ octet : Fin 256, parseOctet (decimal octet.val) = some octet.val := by decide +kernel
  exact all ⟨number, fits⟩

theorem not_mem_ipv4Text (separates : separator.isDigit = false) (other : separator ≠ '.') :
    separator ∉ ipv4Text address := by
  have inside {number : Nat} : separator ∉ decimal number := not_mem_decimal separates
  simp [ipv4Text, List.intercalate, List.intersperse, inside, other]

theorem parseIpv4_ipv4Text (address : UInt32) : parseIpv4 (ipv4Text address) = some address := by
  have bound := address.toNat_lt
  have parts : (ipv4Text address).splitOn '.' = [decimal (address.toNat / 16777216),
      decimal (address.toNat / 65536 % 256), decimal (address.toNat / 256 % 256),
      decimal (address.toNat % 256)] := by
    refine List.splitOn_intercalate '.' ?_ (by simp)
    simp only [List.mem_cons, List.not_mem_nil, or_false, forall_eq_or_imp, forall_eq]
    exact ⟨not_mem_decimal rfl, not_mem_decimal rfl, not_mem_decimal rfl, not_mem_decimal rfl⟩
  have value : 16777216 * (address.toNat / 16777216) + 65536 * (address.toNat / 65536 % 256) +
      256 * (address.toNat / 256 % 256) + address.toNat % 256 = address.toNat := by
    omega
  simp only [parseIpv4, parts, parseOctet_decimal (by omega : address.toNat / 16777216 < 256),
    parseOctet_decimal (by omega : address.toNat / 65536 % 256 < 256),
    parseOctet_decimal (by omega : address.toNat / 256 % 256 < 256),
    parseOctet_decimal (by omega : address.toNat % 256 < 256), Option.bind_eq_bind, Option.bind_some, value,
    UInt32.ofNat_toNat]

end XdpNatd.Data
