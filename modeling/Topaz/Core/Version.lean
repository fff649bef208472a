import Mathlib.Data.BitVec
import Mathlib.Data.Nat.Digits.Defs

/-!
# Topaz.Core.Version

`stringify_version` writes the three numbers of a version with dots between them, and
`parse_version` cuts such a text at its dots and reads each part with `static_stoi`.

`static_stoi` reads the first digits of a text, in wrapping arithmetic
(`staticStoi_eq_of_digits`).  The parser passes positions where `substr` expects counts, so
that the parts are longer than they should be, up to the end of the text, or shorter:
the third part has at most two characters more than the first two together
(`parseVersion_dots`).
-/

namespace Topaz
namespace Core

structure Version where
  major : BitVec 32
  minor : BitVec 32
  patch : BitVec 32
deriving DecidableEq, Repr

/-! ## the number scanner -/

/-- The loop over the digits, from the last to the first: the result and the multiplier. -/
def readNumber (sign : BitVec 32) (str : List Char) : BitVec 32 × BitVec 32 :=
  str.foldr (fun c acc =>
    let number := BitVec.ofInt 32 ((c.toNat : Int) - ('0'.toNat : Int))
    (acc.1 + number * acc.2 * sign, acc.2 * 10)) (0, 1)

/-- `static_stoi`: the number, and the position after it unless there is none. -/
def staticStoi (str : List Char) : BitVec 32 × Option Nat :=
  match str.findIdx? Char.isDigit with
  | none => (-1, none)
  | some begin =>
      let sign : BitVec 32 := if begin ≠ 0 ∧ str[begin - 1]? = some '-' then -1 else 1
      let tail := str.drop begin
      let digits := match tail.findIdx? fun c => !c.isDigit with
        | some stop => tail.take stop
        | none => tail
      ((readNumber sign digits).1, some (begin + digits.length))

/-! ## versions -/

/-- The decimal text of `std::to_string`. -/
def decimal (n : BitVec 32) : List Char := Nat.toDigits 10 n.toNat

def stringifyVersion (version : Version) : List Char :=
  decimal version.major ++ '.' :: (decimal version.minor ++ '.' :: decimal version.patch)

/-- The local variables of the loop over the text; the positions are not initialised. -/
structure DotScan where
  max : Option Nat
  min : Option Nat
  patch : Option Nat
  dotCounter : BitVec 32
  counter : BitVec 32
deriving DecidableEq, Repr

namespace DotScan

def start : DotScan := ⟨none, none, none, 0, 0⟩

/-- The `switch` over the number of dots before this one. -/
def dot (scan : DotScan) : DotScan :=
  if scan.dotCounter = 0 then { scan with max := some scan.counter.toNat }
  else if scan.dotCounter = 1 then
    { scan with min := some scan.counter.toNat, patch := some (scan.counter.toNat + 1) }
  else scan

def step (scan : DotScan) (c : Char) : DotScan :=
  let scan := if c = '.' then { scan.dot with dotCounter := scan.dotCounter + 1 } else scan
  { scan with counter := scan.counter + 1 }

end DotScan

/-- `std::string_view::substr`; `none` if it throws. -/
def substr (str : List Char) (pos count : Nat) : Option (List Char) :=
  if pos ≤ str.length then some ((str.drop pos).take count) else none

/-- `parse_version`; `none` if a position is read that was never set. -/
def parseVersion (version : List Char) : Option Version := do
  let scan := version.foldl DotScan.step DotScan.start
  let max ← scan.max
  let min ← scan.min
  let patch ← scan.patch
  let major ← substr version 0 max
  let minor ← substr version (max + 1) min
  let patch ← substr version (min + 1) patch
  return ⟨(staticStoi major).1, (staticStoi minor).1, (staticStoi patch).1⟩

/-! ## reading digits -/

theorem ofDigitChars_cons_zero (c : Char) (digits : List Char) :
    Nat.ofDigitChars 10 (c :: digits) 0 =
      10 ^ digits.length * (c.toNat - '0'.toNat) + Nat.ofDigitChars 10 digits 0 := by
  rw [Nat.ofDigitChars_cons, Nat.mul_zero, Nat.zero_add]
  exact Nat.ofDigitChars_eq_ofDigitChars_zero

/-- The value of digits is below the power of ten of their number. -/
theorem ofDigitChars_lt {digits : List Char} (hdigits : ∀ c ∈ digits, c.isDigit = true) :
    Nat.ofDigitChars 10 digits 0 < 10 ^ digits.length := by
  induction digits with
  | nil => simp
  | cons c digits ih =>
      have htail := ih fun d hd => hdigits d (List.mem_cons_of_mem c hd)
      have hfirst : c.toNat - '0'.toNat ≤ 9 :=
        Nat.sub_le_sub_right (Char.isDigit_iff_toNat.mp (hdigits c List.mem_cons_self)).2 '0'.toNat
      rw [ofDigitChars_cons_zero, List.length_cons, pow_succ]
      nlinarith

/-- The loop computes the value of the digits, modulo `2 ^ 32`. -/
theorem readNumber_eq (sign : BitVec 32) {digits : List Char}
    (hdigits : ∀ c ∈ digits, c.isDigit = true) :
    readNumber sign digits =
      (BitVec.ofNat 32 (Nat.ofDigitChars 10 digits 0) * sign, BitVec.ofNat 32 (10 ^ digits.length)) := by
  induction digits with
  | nil => simp [readNumber]
  | cons c digits ih =>
      have htail := ih fun d hd => hdigits d (List.mem_cons_of_mem c hd)
      have hnumber : BitVec.ofInt 32 ((c.toNat : Int) - ('0'.toNat : Int)) =
          BitVec.ofNat 32 (c.toNat - '0'.toNat) := by
        have hc := (Char.isDigit_iff_toNat.mp (hdigits c List.mem_cons_self)).1
        rw [← Int.natCast_sub hc, BitVec.ofInt_natCast]
      rw [readNumber, List.foldr_cons, ← readNumber, htail, hnumber, ofDigitChars_cons_zero,
        List.length_cons, pow_succ]
      simp only [BitVec.ofNat_mul, BitVec.ofNat_add]
      refine Prod.ext ?_ rfl
      ring

/-- What follows the digits of a text is not read. -/
theorem staticStoi_eq_of_digits {before digits rest : List Char}
    (hbefore : ∀ c ∈ before, c.isDigit = false) (hdigits : ∀ c ∈ digits, c.isDigit = true)
    (hne : digits ≠ []) (hrest : ∀ c ∈ rest.head?, c.isDigit = false) :
    staticStoi (before ++ (digits ++ rest)) =
      (BitVec.ofNat 32 (Nat.ofDigitChars 10 digits 0) *
        (if before.getLast? = some '-' then -1 else 1), some (before.length + digits.length)) := by
  have hbegin : (before ++ (digits ++ rest)).findIdx? Char.isDigit = some before.length := by
    obtain ⟨c, digits, rfl⟩ := List.exists_cons_of_ne_nil hne
    rw [List.findIdx?_append, List.findIdx?_eq_none_iff.mpr hbefore]
    simp [List.findIdx?_cons, hdigits c List.mem_cons_self]
  have hsign : (before.length ≠ 0 ∧ (before ++ (digits ++ rest))[before.length - 1]? = some '-') ↔
      before.getLast? = some '-' := by
    rcases List.eq_nil_or_concat before with rfl | ⟨before, last, rfl⟩
    · simp
    · simp [List.concat_eq_append]
  -- the digits end where `rest` begins, or at the end of the text
  have hstop : (match (digits ++ rest).findIdx? fun c => !c.isDigit with
      | some stop => (digits ++ rest).take stop
      | none => digits ++ rest) = digits := by
    have hnone : (digits.findIdx? fun c => !c.isDigit) = none := by
      rw [List.findIdx?_eq_none_iff]
      intro c hc
      simp [hdigits c hc]
    rw [List.findIdx?_append, hnone]
    cases rest with
    | nil => simp
    | cons c rest => simp [List.findIdx?_cons, hrest c rfl]
  simp only [staticStoi, hbegin, List.drop_left, hstop, hsign, readNumber_eq _ hdigits]

theorem isDigit_of_mem_decimal {n : BitVec 32} {c : Char} (hc : c ∈ decimal n) :
    c.isDigit = true := Nat.isDigit_of_mem_toDigits (by decide) (by decide) hc

/-- Without a sign, the value of the digits is read. -/
theorem staticStoi_append {digits rest : List Char} (hdigits : ∀ c ∈ digits, c.isDigit = true)
    (hne : digits ≠ []) (hrest : ∀ c ∈ rest.head?, c.isDigit = false) :
    (staticStoi (digits ++ rest)).1 = BitVec.ofNat 32 (Nat.ofDigitChars 10 digits 0) := by
  have h := staticStoi_eq_of_digits (List.forall_mem_nil _) hdigits hne hrest
  rw [List.nil_append] at h
  simp [h]

theorem staticStoi_digits {digits : List Char} (hdigits : ∀ c ∈ digits, c.isDigit = true)
    (hne : digits ≠ []) :
    (staticStoi digits).1 = BitVec.ofNat 32 (Nat.ofDigitChars 10 digits 0) := by
  have h : (staticStoi (digits ++ [])).1 = _ := staticStoi_append hdigits hne (by simp)
  rwa [List.append_nil] at h

theorem ofDigitChars_decimal (n : BitVec 32) :
    BitVec.ofNat 32 (Nat.ofDigitChars 10 (decimal n) 0) = n := by
  rw [decimal, Nat.ofDigitChars_ten_toDigits, BitVec.ofNat_toNat, BitVec.setWidth_eq]

/-! ## the first number of a text -/

/-- The first maximal run of digits of a text, with what stands before and after it. -/
structure IsFirstRun (str before run rest : List Char) : Prop where
  text : str = before ++ (run ++ rest)
  before_no_digit : ∀ c ∈ before, c.isDigit = false
  run_digits : ∀ c ∈ run, c.isDigit = true
  run_ne_nil : run ≠ []
  maximal : ∀ c ∈ rest.head?, c.isDigit = false

/-- The value of a run of digits, negated if a minus sign stands just before it. -/
def signedValue (before run : List Char) : Int :=
  if before.getLast? = some '-' then -(Nat.ofDigitChars 10 run 0 : Int)
  else Nat.ofDigitChars 10 run 0

theorem exists_isFirstRun {str : List Char} (hdigit : ∃ c ∈ str, c.isDigit = true) :
    ∃ before run rest, IsFirstRun str before run rest := by
  induction str with
  | nil =>
      obtain ⟨c, hc, -⟩ := hdigit
      exact absurd hc List.not_mem_nil
  | cons c str ih =>
      cases hc : c.isDigit with
      | true =>
          -- the run starts here and goes on as far as there are digits
          refine ⟨[], c :: str.takeWhile Char.isDigit, str.dropWhile Char.isDigit,
            ⟨by simp, by simp, ?_, by simp, ?_⟩⟩
          · intro d hd
            rcases List.mem_cons.mp hd with rfl | hd
            · exact hc
            · exact List.all_eq_true.mp List.all_takeWhile d hd
          · intro d hd
            have hstop := List.head?_dropWhile_not Char.isDigit str
            rw [Option.mem_def.mp hd] at hstop
            exact hstop
      | false =>
          have hmem : ∃ d ∈ str, d.isDigit = true := by
            obtain ⟨d, hd, hdigit⟩ := hdigit
            rcases List.mem_cons.mp hd with rfl | hd
            · rw [hc] at hdigit
              exact absurd hdigit Bool.false_ne_true
            · exact ⟨d, hd, hdigit⟩
          obtain ⟨before, run, rest, h⟩ := ih hmem
          refine ⟨c :: before, run, rest, ⟨by rw [h.text, List.cons_append], ?_, h.run_digits,
            h.run_ne_nil, h.maximal⟩⟩
          intro d hd
          rcases List.mem_cons.mp hd with rfl | hd
          · exact hc
          · exact h.before_no_digit d hd

theorem ofInt_signedValue (before run : List Char) : BitVec.ofInt 32 (signedValue before run) =
    BitVec.ofNat 32 (Nat.ofDigitChars 10 run 0) *
      (if before.getLast? = some '-' then -1 else 1) := by
  unfold signedValue
  split
  · rw [BitVec.ofInt_neg, BitVec.ofInt_natCast, mul_neg, mul_one]
  · rw [BitVec.ofInt_natCast, mul_one]

/-- **The first number**: of every text with a digit, `static_stoi` reads the first maximal run of
digits, modulo `2 ^ 32`, and its position is the one just after the run. -/
theorem static_stoi_first_number {str : List Char} (hdigit : ∃ c ∈ str, c.isDigit = true) :
    (∃ before run rest, IsFirstRun str before run rest) ∧
    ∀ before run rest, IsFirstRun str before run rest →
      staticStoi str =
        (BitVec.ofInt 32 (signedValue before run), some (before.length + run.length)) := by
  refine ⟨exists_isFirstRun hdigit, ?_⟩
  intro before run rest h
  rw [h.text, ofInt_signedValue]
  exact staticStoi_eq_of_digits h.before_no_digit h.run_digits h.run_ne_nil h.maximal

/-- A run with a leading zero and a value beyond `2 ^ 32`. -/
theorem static_stoi_minus_large :
    IsFirstRun ['v', '-', '0', '4', '2', '9', '4', '9', '6', '7', '2', '9', '8', '.', '5']
      ['v', '-'] ['0', '4', '2', '9', '4', '9', '6', '7', '2', '9', '8'] ['.', '5'] ∧
    staticStoi ['v', '-', '0', '4', '2', '9', '4', '9', '6', '7', '2', '9', '8', '.', '5'] =
      (-2, some 13) := by
  have hrun : IsFirstRun
      ['v', '-', '0', '4', '2', '9', '4', '9', '6', '7', '2', '9', '8', '.', '5']
      ['v', '-'] ['0', '4', '2', '9', '4', '9', '6', '7', '2', '9', '8'] ['.', '5'] :=
    ⟨rfl, by simp, by simp, by simp, by simp⟩
  refine ⟨hrun, ?_⟩
  rw [(static_stoi_first_number ⟨'0', by decide, by decide⟩).2 _ _ _ hrun]
  decide

/-! ## cutting at the dots -/

/-- Other characters are counted. -/
theorem foldl_step_of_ne {part : List Char} (hpart : ∀ c ∈ part, c ≠ '.') (max min patch : Option Nat)
    (dots : BitVec 32) (n : Nat) :
    part.foldl DotScan.step ⟨max, min, patch, dots, BitVec.ofNat 32 n⟩ =
      ⟨max, min, patch, dots, BitVec.ofNat 32 (n + part.length)⟩ := by
  induction part generalizing n with
  | nil => rfl
  | cons c part ih =>
      have hc : c ≠ '.' := hpart c List.mem_cons_self
      have hstep : DotScan.step ⟨max, min, patch, dots, BitVec.ofNat 32 n⟩ c =
          ⟨max, min, patch, dots, BitVec.ofNat 32 (n + 1)⟩ := by
        simp [DotScan.step, hc, BitVec.ofNat_add]
      rw [List.foldl_cons, hstep, ih fun d hd => hpart d (List.mem_cons_of_mem c hd),
        List.length_cons, Nat.add_right_comm, Nat.add_assoc]

theorem step_first_dot {n : Nat} (hn : n < 2 ^ 32) :
    DotScan.step ⟨none, none, none, 0, BitVec.ofNat 32 n⟩ '.' =
      ⟨some n, none, none, 1, BitVec.ofNat 32 (n + 1)⟩ := by
  simpa [DotScan.step, DotScan.dot, BitVec.ofNat_add] using hn

theorem step_second_dot {n : Nat} (hn : n < 2 ^ 32) (max : Option Nat) :
    DotScan.step ⟨max, none, none, 1, BitVec.ofNat 32 n⟩ '.' =
      ⟨max, some n, some (n + 1), 2, BitVec.ofNat 32 (n + 1)⟩ := by
  simpa [DotScan.step, DotScan.dot, BitVec.ofNat_add] using hn

section Dots

variable {major minor patch : List Char} (hmajor : ∀ c ∈ major, c ≠ '.')
  (hminor : ∀ c ∈ minor, c ≠ '.') (hpatch : ∀ c ∈ patch, c ≠ '.')
  (hlength : major.length + 1 + minor.length < 2 ^ 32)
include hmajor hminor hpatch hlength

/-- The positions of two dots. -/
theorem scan_dots : (major ++ '.' :: (minor ++ '.' :: patch)).foldl DotScan.step DotScan.start =
    ⟨some major.length, some (major.length + 1 + minor.length),
      some (major.length + 1 + minor.length + 1), 2,
      BitVec.ofNat 32 (major.length + 1 + minor.length + 1 + patch.length)⟩ := by
  have hstart : DotScan.start = ⟨none, none, none, 0, BitVec.ofNat 32 0⟩ := rfl
  rw [List.foldl_append, hstart, foldl_step_of_ne hmajor, Nat.zero_add, List.foldl_cons,
    step_first_dot (by omega), List.foldl_append, foldl_step_of_ne hminor, List.foldl_cons,
    step_second_dot hlength, foldl_step_of_ne hpatch]

/-- The part of each number: the second reaches past the dot, and the third may be cut. -/
theorem parseVersion_dots : parseVersion (major ++ '.' :: (minor ++ '.' :: patch)) =
    some ⟨(staticStoi major).1, (staticStoi (minor ++ '.' :: patch.take major.length)).1,
      (staticStoi (patch.take (major.length + minor.length + 2))).1⟩ := by
  have hsubstr : ∀ before after : List Char, ∀ count,
      substr (before ++ after) before.length count = some (after.take count) := by
    intro before after count
    simp [substr]
  have hfirst := hsubstr [] (major ++ '.' :: (minor ++ '.' :: patch)) major.length
  have hsecond := hsubstr (major ++ ['.']) (minor ++ '.' :: patch)
    (major.length + 1 + minor.length)
  have hthird := hsubstr (major ++ '.' :: (minor ++ ['.'])) patch
    (major.length + 1 + minor.length + 1)
  have htake : (minor ++ '.' :: patch).take (major.length + 1 + minor.length) =
      minor ++ '.' :: patch.take major.length := by
    rw [Nat.add_comm, List.take_length_add_append, List.take_succ_cons]
  simp only [List.append_assoc, List.cons_append, List.nil_append, List.length_append,
    List.length_cons, List.length_nil, Nat.zero_add, List.take_left, htake] at hfirst hsecond hthird
  have hcount : major.length + minor.length + 2 = major.length + 1 + minor.length + 1 := by omega
  rw [show major.length + (minor.length + 1 + 1) = major.length + 1 + minor.length + 1 by omega]
    at hthird
  simp [parseVersion, scan_dots hmajor hminor hpatch hlength, hfirst, hsecond, hthird, hcount]

end Dots

theorem length_decimal_le (n : BitVec 32) : (decimal n).length ≤ 10 :=
  (Nat.length_toDigits_le_iff (by decide) (by decide)).mpr (Nat.lt_trans n.isLt (by decide))

/-- Only the third number can be cut. -/
theorem parseVersion_stringifyVersion (v : Version) : parseVersion (stringifyVersion v) =
    some ⟨v.major, v.minor, (staticStoi ((decimal v.patch).take
      ((decimal v.major).length + (decimal v.minor).length + 2))).1⟩ := by
  have hdot : ∀ n, ∀ c ∈ decimal n, c ≠ '.' := by
    rintro n c hc rfl
    exact absurd (isDigit_of_mem_decimal hc) (by decide)
  have hmajor := length_decimal_le v.major
  have hminor := length_decimal_le v.minor
  rw [stringifyVersion, parseVersion_dots (hdot _) (hdot _) (hdot _) (by omega),
    staticStoi_digits (fun _ => isDigit_of_mem_decimal) Nat.toDigits_ne_nil,
    staticStoi_append (fun _ => isDigit_of_mem_decimal) Nat.toDigits_ne_nil (by simp),
    ofDigitChars_decimal, ofDigitChars_decimal]

/-- The number that is read from the first digits of a decimal is the number itself exactly when
those are all. -/
theorem staticStoi_take_decimal_iff (n : BitVec 32) {k : Nat} (hk : 0 < k) :
    (staticStoi ((decimal n).take k)).1 = n ↔ (decimal n).length ≤ k := by
  have hdigits : ∀ c ∈ (decimal n).take k, c.isDigit = true := fun c hc =>
    isDigit_of_mem_decimal (List.mem_of_mem_take hc)
  have hne : (decimal n).take k ≠ [] := by
    rw [Ne, List.take_eq_nil_iff, not_or]
    exact ⟨Nat.ne_of_gt hk, Nat.toDigits_ne_nil⟩
  rw [staticStoi_digits hdigits hne]
  constructor
  · -- the first `k` digits alone have a smaller value
    intro h
    by_contra hlong
    have hlarge : 10 ^ k ≤ n.toNat :=
      Nat.le_of_not_lt (mt (Nat.length_toDigits_le_iff (by decide) hk).mpr hlong)
    have hsmall := ofDigitChars_lt hdigits
    rw [List.length_take, min_eq_left (Nat.le_of_not_le hlong)] at hsmall
    have hvalue := congrArg BitVec.toNat h
    rw [BitVec.toNat_ofNat, Nat.mod_eq_of_lt (by have := n.isLt; omega)] at hvalue
    omega
  · intro h
    rw [List.take_of_length_le h, ofDigitChars_decimal]

/-- **Round trip**: a version is read back from its text exactly when the third number has at
most two digits more than the first two together. -/
theorem version_round_trip_iff (v : Version) : parseVersion (stringifyVersion v) = some v ↔
    (decimal v.patch).length ≤ (decimal v.major).length + (decimal v.minor).length + 2 := by
  rw [parseVersion_stringifyVersion, Option.some.injEq,
    ← staticStoi_take_decimal_iff v.patch (Nat.succ_pos _)]
  constructor
  · intro h
    exact congrArg Version.patch h
  · intro h
    rw [h]

/-- The last digit of the third number is lost. -/
theorem version_patch_cut :
    parseVersion (stringifyVersion ⟨1, 1, 12345⟩) = some ⟨1, 1, 1234⟩ ∧
    parseVersion (stringifyVersion ⟨1, 1, 12345⟩) ≠ some ⟨1, 1, 12345⟩ := by decide

end Core
end Topaz
