import Mathlib.Data.List.Basic
import UsbOverNetwork.Library.Bytes

/-! Byte strings as the C library compares, prints and scans them, in the "C"
locale. -/
namespace Text

def ascii (text : String) : List UInt8 := text.toList.map fun char => char.toNat.toUInt8

/-- `%u` -/
def decimal (value : Nat) : List UInt8 :=
  (Nat.toDigits 10 value).map fun char => char.toNat.toUInt8

def lower (char : UInt8) : UInt8 := if 0x41 ≤ char ∧ char ≤ 0x5a then char + 0x20 else char

def isSpace (char : UInt8) : Bool := char = 0x20 || (0x09 ≤ char && char ≤ 0x0d)

/-- `strstr` from the first occurrence on. -/
def search (needle : List UInt8) : List UInt8 → Option (List UInt8)
  | [] => if needle = [] then some [] else none
  | char::rest =>
    if needle.isPrefixOf (char::rest) then some (char::rest) else search needle rest

/-- `strstr(text, needle) != NULL` -/
def contains (text : List UInt8) (needle : String) : Bool := (search (ascii needle) text).isSome

/-- `_stricmp(text, other) == 0` -/
def sameWord (text : List UInt8) (other : String) : Bool :=
  text.map lower = (ascii other).map lower

def hexDigit (char : UInt8) : Option Nat :=
  if 0x30 ≤ char ∧ char ≤ 0x39 then some (char.toNat - 0x30)
  else if 0x61 ≤ lower char ∧ lower char ≤ 0x66 then some ((lower char).toNat - 0x61 + 10)
  else none

def hexDigits : List UInt8 → List Nat
  | [] => []
  | char::rest =>
    match hexDigit char with
    | none => []
    | some digit => digit::hexDigits rest

/-- `%hX` in a field of at most `width` characters: blanks are skipped, then a
sign and `0x` may come first. `none` when nothing was converted. -/
def scanHex (width : Nat) (text : List UInt8) : Option UInt16 :=
  let field := (text.dropWhile isSpace).take width
  let (negative,field) := match field with
    | 0x2d::rest => (true,rest)
    | 0x2b::rest => (false,rest)
    | _ => (false,field)
  let field := match field with
    | 0x30::mark::rest => if lower mark = 0x78 then rest else field
    | _ => field
  match hexDigits field with
  | [] => none
  | digits =>
    let value := UInt16.ofNat (digits.foldl (fun value digit => 16*value + digit) 0)
    some (if negative then 0 - value else value)

def isDigit (char : UInt8) : Bool := 0x30 ≤ char && char ≤ 0x39

/-- `%d` -/
def decimalInt (value : Int) : List UInt8 :=
  if value < 0 then 0x2d::decimal value.natAbs else decimal value.toNat

/-- `%s` in a field of at most `width` characters, and what follows the word;
`none` when nothing was converted. -/
def scanWord (width : Nat) (text : List UInt8) : Option (List UInt8 × List UInt8) :=
  let text := text.dropWhile isSpace
  match (text.take width).takeWhile fun char => !isSpace char with
  | [] => none
  | char::word => some (char::word,text.drop (char::word).length)

def digitsValue (digits : List UInt8) : Nat :=
  digits.foldl (fun value char => 10*value + (char.toNat - 0x30)) 0

/-- Whether there is a minus sign, and what follows the sign. -/
def scanSign : List UInt8 → Bool × List UInt8
  | 0x2d::rest => (true,rest)
  | 0x2b::rest => (false,rest)
  | text => (false,text)

/-- `%d`: blanks are skipped, then a sign may come first. `none` when nothing
was converted. -/
def scanInt (text : List UInt8) : Option Int :=
  let (negative,text) := scanSign (text.dropWhile isSpace)
  match text.takeWhile isDigit with
  | [] => none
  | digits => some (if negative then -(digitsValue digits : Int) else digitsValue digits)

/-- `atoi`, which does not leave the range of an `int`. -/
def atoi (text : List UInt8) : Int :=
  max (-2147483648) (min 2147483647 ((scanInt text).getD 0))

theorem decimal_isDigit (value : Nat) : ∀ char ∈ decimal value, isDigit char = true := by
  intro char member
  obtain ⟨digit,printed,rfl⟩ := List.mem_map.mp member
  have numeric := Nat.isDigit_of_mem_toDigits (by decide) (by decide) printed
  simp only [Char.isDigit,Bool.and_eq_true,decide_eq_true_eq,UInt32.le_iff_toNat_le] at numeric
  have low : 0x30 ≤ digit.toNat := numeric.1
  have high : digit.toNat ≤ 0x39 := numeric.2
  have same : digit.toNat.toUInt8.toNat = digit.toNat := by
    rw [Nat.toUInt8,UInt8.toNat_ofNat']
    omega
  simp only [isDigit,Bool.and_eq_true,decide_eq_true_eq,UInt8.le_iff_toNat_le,same]
  exact ⟨low,high⟩

theorem decimal_ne_nil (value : Nat) : decimal value ≠ [] := by
  simp [decimal]

theorem decimal_length_le {value digits : Nat} (some : 0 < digits) (small : value < 10^digits) :
    (decimal value).length ≤ digits := by
  rw [decimal,List.length_map]
  exact (Nat.length_toDigits_le_iff (by decide) some).mpr small

theorem decimal_value (value : Nat) : digitsValue (decimal value) = value := by
  have digits (char : Char) (member : char ∈ Nat.toDigits 10 value) (sum : Nat) :
      10*sum + (char.toNat.toUInt8.toNat - 0x30) = 10*sum + (char.toNat - '0'.toNat) := by
    have numeric := Nat.isDigit_of_mem_toDigits (by decide) (by decide) member
    simp only [Char.isDigit,Bool.and_eq_true,decide_eq_true_eq,UInt32.le_iff_toNat_le] at numeric
    have high : char.toNat ≤ 0x39 := numeric.2
    rw [Nat.toUInt8,UInt8.toNat_ofNat',Nat.mod_eq_of_lt (by omega)]
    rfl
  rw [digitsValue,decimal,List.foldl_map]
  calc _ = (Nat.toDigits 10 value).foldl (fun sum char => 10*sum + (char.toNat - '0'.toNat)) 0 :=
        List.foldl_ext _ _ _ fun sum char member => digits char member sum
    _ = value := by
        rw [← Nat.ofDigitChars_eq_foldl]
        exact Nat.ofDigitChars_ten_toDigits

theorem digit_range {char : UInt8} (digit : isDigit char = true) :
    0x30 ≤ char.toNat ∧ char.toNat ≤ 0x39 := by
  simp only [isDigit,Bool.and_eq_true,decide_eq_true_eq,UInt8.le_iff_toNat_le] at digit
  exact digit

theorem digit_notSpace {char : UInt8} (digit : isDigit char = true) : isSpace char = false := by
  obtain ⟨low,high⟩ := digit_range digit
  have blank : char ≠ 0x20 := by
    rintro rfl
    exact absurd low (by decide)
  have control : ¬char ≤ 0x0d := by
    rw [UInt8.le_iff_toNat_le]
    change ¬char.toNat ≤ 13
    omega
  simp [isSpace,blank,control]

theorem scanSign_digit {char : UInt8} (digit : isDigit char = true) (rest : List UInt8) :
    scanSign (char::rest) = (false,char::rest) := by
  unfold scanSign
  split
  next _ minus =>
    cases minus
    exact absurd digit (by decide)
  next _ plus =>
    cases plus
    exact absurd digit (by decide)
  next => rfl

theorem dropWhile_blanks {blanks text : List UInt8} (spaces : ∀ char ∈ blanks, isSpace char = true)
    (begins : ∀ char ∈ text.head?, isSpace char = false) :
    (blanks ++ text).dropWhile isSpace = text := by
  rw [List.dropWhile_append_of_pos spaces]
  cases text with
  | nil => rfl
  | cons char rest => simp [begins char rfl]

theorem scanInt_decimal (value : Nat) {blanks : List UInt8}
    (spaces : ∀ char ∈ blanks, isSpace char = true) :
    scanInt (blanks ++ decimalInt value) = some (value : Int) := by
  have printed : decimalInt value = decimal value := by simp [decimalInt]
  have digits := decimal_isDigit value
  have number := decimal_value value
  obtain ⟨char,rest,split⟩ := List.exists_cons_of_ne_nil (decimal_ne_nil value)
  rw [split] at digits number
  have first := digits char List.mem_cons_self
  have skipped : (blanks ++ char::rest).dropWhile isSpace = char::rest :=
    dropWhile_blanks spaces (by simpa using digit_notSpace first)
  have whole : (char::rest).takeWhile isDigit = char::rest := List.takeWhile_eq_self_iff.mpr digits
  rw [printed,split]
  simp [scanInt,skipped,scanSign_digit first,whole,number]

theorem scanWord_word {width : Nat} {word rest : List UInt8} (some : word ≠ [])
    (plain : ∀ char ∈ word, isSpace char = false) (fits : word.length ≤ width)
    (ends : ∀ char ∈ rest.head?, isSpace char = true) :
    scanWord width (word ++ rest) = Option.some (word,rest) := by
  obtain ⟨char,more,rfl⟩ := List.exists_cons_of_ne_nil some
  have first := plain char List.mem_cons_self
  have kept : (char::more ++ rest).dropWhile isSpace = char::more ++ rest := by simp [first]
  have stops : rest.takeWhile (fun char => !isSpace char) = [] := by
    cases rest with
    | nil => rfl
    | cons next others => simp [ends next rfl]
  have field : ((char::more ++ rest).take width).takeWhile (fun char => !isSpace char) = char::more := by
    rw [← List.take_takeWhile,List.takeWhile_append_of_pos (by simpa using plain),stops,
      List.append_nil,List.take_of_length_le fits]
  simp only [scanWord,kept,field,List.drop_left]

theorem scanWord_none {width : Nat} (room : 0 < width) (text : List UInt8) :
    scanWord width text = none ↔ ∀ char ∈ text, isSpace char = true := by
  rw [← List.dropWhile_eq_nil_iff]
  simp only [scanWord]
  cases left : text.dropWhile isSpace with
  | nil => simp
  | cons char rest =>
    have stopped := List.head?_dropWhile_not isSpace text
    rw [left] at stopped
    change isSpace char = false at stopped
    obtain ⟨more,rfl⟩ : ∃ more, width = more+1 := ⟨width-1,by omega⟩
    simp [stopped]

end Text
