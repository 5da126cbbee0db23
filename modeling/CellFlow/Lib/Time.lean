/-
# CellFlow.Lib.Time — ISO timestamps of millisecond instants.

`toISOString` prints an instant the way `Date.prototype.toISOString` does, in the proleptic Gregorian
calendar, and `parseISOString` reads such a text back the way `Date.parse` does.  `dateParse` also
reads the years past 9999 and before 0, and gives back every instant a `Date` can hold
(`dateParse_toISOString`).
-/
import Mathlib.Data.List.Basic
import Mathlib.Tactic.NormNum

namespace Js

/-! ## The calendar -/

/-- Milliseconds of a day. -/
def dayMs : Int := 86400000

/-- Year, month and day of the day that lies `days` days after 1970-01-01.  Years are counted from
1 March, in eras of 400 years. -/
def civilFromDays (days : Int) : Int × Int × Int :=
  let z := days + 719468
  let era := z / 146097
  let doe := z - era * 146097
  let yoe := (doe - doe / 1460 + doe / 36524 - doe / 146096) / 365
  let doy := doe - (365 * yoe + yoe / 4 - yoe / 100)
  let mp := (5 * doy + 2) / 153
  let day := doy - (153 * mp + 2) / 5 + 1
  let month := if mp < 10 then mp + 3 else mp - 9
  let year := yoe + era * 400 + (if month ≤ 2 then 1 else 0)
  (year, month, day)

/-- The inverse of `civilFromDays`. -/
def daysFromCivil (year month day : Int) : Int :=
  let y := if month ≤ 2 then year - 1 else year
  let era := y / 400
  let yoe := y - era * 400
  let doy := (153 * (if month > 2 then month - 3 else month + 9) + 2) / 5 + day - 1
  let doe := yoe * 365 + yoe / 4 - yoe / 100 + doy
  era * 146097 + doe - 719468

/-! ## Printing -/

/-- `n` in decimal, padded on the left with zeros to `width` digits. -/
def padDigits (width n : Nat) : String :=
  let digits := toString n
  String.ofList (List.replicate (width - digits.length) '0') ++ digits

/-- The year of an ISO text: four digits, or a sign and six. -/
def isoYear (year : Int) : String :=
  if 0 ≤ year ∧ year ≤ 9999 then padDigits 4 year.toNat
  else (if year < 0 then "-" else "+") ++ padDigits 6 year.natAbs

/-- `new Date(ms).toISOString()`. -/
def toISOString (ms : Int) : String :=
  let date := civilFromDays (ms / dayMs)
  let rest := (ms % dayMs).toNat
  isoYear date.1 ++ "-" ++ padDigits 2 date.2.1.toNat ++ "-" ++ padDigits 2 date.2.2.toNat ++ "T" ++
    padDigits 2 (rest / 3600000) ++ ":" ++ padDigits 2 (rest / 60000 % 60) ++ ":" ++
    padDigits 2 (rest / 1000 % 60) ++ "." ++ padDigits 3 (rest % 1000) ++ "Z"

/-! ## Reading -/

/-- The number a run of decimal digits denotes. -/
def readDigits (cs : List Char) : Option Int :=
  cs.foldl (fun acc c => do
    let n ← acc
    if c.isDigit then some (10 * n + (c.toNat - '0'.toNat : Nat)) else none) (some 0)

/-- `Date.parse` on the texts `toISOString` prints for the years 0 to 9999; `none` is `NaN`. -/
def parseISOString (text : String) : Option Int :=
  match text.toList with
  | [y₁, y₂, y₃, y₄, '-', m₁, m₂, '-', d₁, d₂, 'T', h₁, h₂, ':', n₁, n₂, ':', s₁, s₂, '.',
      f₁, f₂, f₃, 'Z'] => do
      let year ← readDigits [y₁, y₂, y₃, y₄]
      let month ← readDigits [m₁, m₂]
      let day ← readDigits [d₁, d₂]
      let hour ← readDigits [h₁, h₂]
      let minute ← readDigits [n₁, n₂]
      let second ← readDigits [s₁, s₂]
      let milli ← readDigits [f₁, f₂, f₃]
      some (daysFromCivil year month day * dayMs + hour * 3600000 + minute * 60000 +
        second * 1000 + milli)
  | _ => none

/-! ## Every instant of a `Date` -/

/-- The instants a `Date` can hold: 100 million days around 1970-01-01. -/
def maxDateMs : Int := 8640000000000000

/-- The year at the head of an ISO text, and what follows it: four digits, or a sign and six.  There
is no year `-000000`. -/
def readYear : List Char → Option (Int × List Char)
  | '+' :: y₁ :: y₂ :: y₃ :: y₄ :: y₅ :: y₆ :: rest => do
      let year ← readDigits [y₁, y₂, y₃, y₄, y₅, y₆]
      some (year, rest)
  | '-' :: y₁ :: y₂ :: y₃ :: y₄ :: y₅ :: y₆ :: rest => do
      let year ← readDigits [y₁, y₂, y₃, y₄, y₅, y₆]
      if year = 0 then none else some (-year, rest)
  | y₁ :: y₂ :: y₃ :: y₄ :: rest => do
      let year ← readDigits [y₁, y₂, y₃, y₄]
      some (year, rest)
  | _ => none

/-- `Date.parse` on the texts `toISOString` prints; `none` is `NaN`. -/
def dateParse (text : String) : Option Int := do
  let (year, rest) ← readYear text.toList
  match rest with
  | ['-', m₁, m₂, '-', d₁, d₂, 'T', h₁, h₂, ':', n₁, n₂, ':', s₁, s₂, '.', f₁, f₂, f₃, 'Z'] => do
      let month ← readDigits [m₁, m₂]
      let day ← readDigits [d₁, d₂]
      let hour ← readDigits [h₁, h₂]
      let minute ← readDigits [n₁, n₂]
      let second ← readDigits [s₁, s₂]
      let milli ← readDigits [f₁, f₂, f₃]
      let ms := daysFromCivil year month day * dayMs + hour * 3600000 + minute * 60000 +
        second * 1000 + milli
      if -maxDateMs ≤ ms ∧ ms ≤ maxDateMs then some ms else none
  | _ => none

/-! ### The calendar -/

/-- The year of an era a day falls in, and the day's place in that year.  A century counts one leap
day less than its years over four, except the last. -/
theorem yearOfEra_bounds {doe : Int} (h₀ : 0 ≤ doe) (h₁ : doe < 146097) {y : Int}
    (hy : y = (doe - doe / 1460 + doe / 36524 - doe / 146096) / 365) :
    0 ≤ y ∧ y ≤ 399 ∧ 365 * y + y / 4 - y / 100 ≤ doe ∧
      doe - (365 * y + y / 4 - y / 100) ≤ 365 := by
  have hcentury : doe / 36524 = 0 ∨ doe / 36524 = 1 ∨ doe / 36524 = 2 ∨ doe / 36524 = 3 ∨
      doe / 36524 = 4 := by omega
  have hlast : doe / 146096 = 0 ∨ (doe / 146096 = 1 ∧ doe = 146096) := by omega
  rcases hlast with hlast | ⟨-, rfl⟩
  · rcases hcentury with hc | hc | hc | hc | hc <;> rw [hc, hlast] at hy
    · have : y / 100 = 0 := by omega
      omega
    · have : y / 100 = 1 := by omega
      omega
    · have : y / 100 = 2 := by omega
      omega
    · have : y / 100 = 3 := by omega
      omega
    · omega
  · norm_num at hy
    omega

/-- What `civilFromDays` yields: a day of the calendar, which `daysFromCivil` takes back. -/
theorem civilFromDays_spec {days : Int} (h₀ : -100000000 ≤ days) (h₁ : days ≤ 100000000) :
    ∃ year month day, civilFromDays days = (year, month, day) ∧
      daysFromCivil year month day = days ∧ -1000000 < year ∧ year < 1000000 ∧
      0 ≤ month ∧ month < 100 ∧ 0 ≤ day ∧ day < 100 := by
  refine ⟨_, _, _, rfl, ?_⟩
  simp only [daysFromCivil]
  generalize hera : (days + 719468) / 146097 = era
  generalize hdoe : days + 719468 - era * 146097 = doe
  generalize hyoe : (doe - doe / 1460 + doe / 36524 - doe / 146096) / 365 = yoe
  generalize hdoy : doe - (365 * yoe + yoe / 4 - yoe / 100) = doy
  generalize hmp : (5 * doy + 2) / 153 = mp
  have hd₀ : 0 ≤ doe := by omega
  have hd₁ : doe < 146097 := by omega
  obtain ⟨hy₀, hy₁, hy₂, hy₃⟩ := yearOfEra_bounds hd₀ hd₁ hyoe.symm
  have he : -700 ≤ era ∧ era ≤ 700 := by omega
  have hm : 0 ≤ mp ∧ mp ≤ 11 ∧ (153 * mp + 2) / 5 ≤ doy ∧ doy - (153 * mp + 2) / 5 ≤ 30 := by omega
  by_cases hmarch : mp < 10
  · have hmonth : ¬ mp + 3 ≤ 2 := by omega
    have hafter : mp + 3 > 2 := by omega
    simp only [hmarch, hmonth, hafter, if_true, if_false, add_zero]
    have hq : (yoe + era * 400) / 400 = era := by omega
    have hmp' : mp + 3 - 3 = mp := by omega
    have hyoe' : yoe + era * 400 - era * 400 = yoe := by omega
    rw [hq, hmp', hyoe']
    generalize (153 * mp + 2) / 5 = start at *
    omega
  · have hmonth : mp - 9 ≤ 2 := by omega
    have hafter : ¬ mp - 9 > 2 := by omega
    simp only [hmarch, hmonth, hafter, if_true, if_false]
    have hq : (yoe + era * 400 + 1 - 1) / 400 = era := by omega
    have hmp' : mp - 9 + 9 = mp := by omega
    have hyoe' : yoe + era * 400 + 1 - 1 - era * 400 = yoe := by omega
    rw [hq, hmp', hyoe']
    generalize (153 * mp + 2) / 5 = start at *
    omega

/-! ### The digits -/

theorem readDigits_eq {cs : List Char} (h : ∀ c ∈ cs, c.isDigit = true) :
    readDigits cs = some (Nat.ofDigitChars 10 cs 0 : Nat) := by
  suffices hfold : ∀ n : Nat, cs.foldl (fun acc c => do
      let m ← acc
      if c.isDigit then some (10 * m + (c.toNat - '0'.toNat : Nat)) else none) (some (n : Int)) =
        some ((Nat.ofDigitChars 10 cs n : Nat) : Int) from hfold 0
  induction cs with
  | nil => intro n; rfl
  | cons c cs ih =>
      intro n
      have hc : c.isDigit = true := h c List.mem_cons_self
      have hstep := ih (fun d hd => h d (List.mem_cons_of_mem c hd))
        (10 * n + (c.toNat - '0'.toNat))
      rw [List.foldl_cons, Nat.ofDigitChars_cons, ← hstep]
      simp [hc]

theorem toList_padDigits (width n : Nat) : (padDigits width n).toList =
    List.replicate (width - (Nat.toDigits 10 n).length) '0' ++ Nat.toDigits 10 n := by
  simp [padDigits, ← String.length_toList]

theorem isDigit_padDigits (width n : Nat) : ∀ c ∈ (padDigits width n).toList, c.isDigit = true := by
  rw [toList_padDigits]
  intro c hc
  rcases List.mem_append.mp hc with hc | hc
  · rw [(List.mem_replicate.mp hc).2]
    rfl
  · exact Nat.isDigit_of_mem_toDigits (by decide) (by decide) hc

theorem length_padDigits {width n : Nat} (hw : 0 < width) (h : n < 10 ^ width) :
    (padDigits width n).length = width := by
  have hlen : (Nat.toDigits 10 n).length ≤ width :=
    (Nat.length_toDigits_le_iff (by decide) hw).mpr h
  rw [← String.length_toList, toList_padDigits, List.length_append, List.length_replicate]
  omega

/-- A padded number reads back. -/
theorem readDigits_padDigits (width n : Nat) :
    readDigits (padDigits width n).toList = some (n : Int) := by
  rw [readDigits_eq (isDigit_padDigits width n), toList_padDigits, Nat.ofDigitChars_append]
  simp [Nat.ofDigitChars_replicate_zero, Nat.ofDigitChars_ten_toDigits]

theorem exists_of_length_four {cs : List Char} (h : cs.length = 4) :
    ∃ a b c d, cs = [a, b, c, d] := by
  obtain ⟨a, cs, rfl⟩ := List.exists_cons_of_length_eq_add_one h
  obtain ⟨b, c, d, rfl⟩ := List.length_eq_three.mp (Nat.succ.inj h)
  exact ⟨a, b, c, d, rfl⟩

theorem padDigits_two {n : Nat} (h : n < 100) :
    ∃ a b, (padDigits 2 n).toList = [a, b] ∧ readDigits [a, b] = some (n : Int) := by
  have hlen := length_padDigits (by decide : 0 < 2) h
  rw [← String.length_toList] at hlen
  obtain ⟨a, b, hab⟩ := List.length_eq_two.mp hlen
  exact ⟨a, b, hab, hab ▸ readDigits_padDigits 2 n⟩

theorem padDigits_three {n : Nat} (h : n < 1000) :
    ∃ a b c, (padDigits 3 n).toList = [a, b, c] ∧ readDigits [a, b, c] = some (n : Int) := by
  have hlen := length_padDigits (by decide : 0 < 3) h
  rw [← String.length_toList] at hlen
  obtain ⟨a, b, c, habc⟩ := List.length_eq_three.mp hlen
  exact ⟨a, b, c, habc, habc ▸ readDigits_padDigits 3 n⟩

/-- The year of an ISO text is read back, with what follows it. -/
theorem readYear_isoYear {year : Int} (h₀ : -1000000 < year) (h₁ : year < 1000000)
    (rest : List Char) : readYear ((isoYear year).toList ++ rest) = some (year, rest) := by
  unfold isoYear
  split
  · rename_i hyear
    have hlen := length_padDigits (n := year.toNat) (by decide : 0 < 4) (by omega)
    have hdigits := isDigit_padDigits 4 year.toNat
    have hread := readDigits_padDigits 4 year.toNat
    rw [← String.length_toList] at hlen
    obtain ⟨a, b, c, d, hcs⟩ := exists_of_length_four hlen
    rw [hcs] at hdigits hread
    have ha : a.isDigit = true := hdigits a List.mem_cons_self
    have hplus : a ≠ '+' := by
      rintro rfl
      cases ha
    have hminus : a ≠ '-' := by
      rintro rfl
      cases ha
    have hto : (year.toNat : Int) = year := Int.toNat_of_nonneg hyear.1
    rw [hcs]
    show readYear (a :: b :: c :: d :: rest) = _
    simp [readYear, hread, hplus, hminus, hto]
  · rename_i hyear
    have hlen := length_padDigits (n := year.natAbs) (by decide : 0 < 6) (by omega)
    have hread := readDigits_padDigits 6 year.natAbs
    rw [← String.length_toList] at hlen
    obtain ⟨a, cs, hcons⟩ := List.exists_cons_of_length_eq_add_one hlen
    have hlen' : cs.length = 5 := by simpa [hcons] using hlen
    obtain ⟨b, cs', rfl⟩ := List.exists_cons_of_length_eq_add_one hlen'
    obtain ⟨c, d, e, f, rfl⟩ := exists_of_length_four (Nat.succ.inj hlen')
    rw [hcons] at hread
    by_cases hneg : year < 0
    · have hne : ¬ (year.natAbs : Int) = 0 := by omega
      have habs : -(year.natAbs : Int) = year := by omega
      simp only [hneg, if_true, String.toList_append, hcons]
      show readYear ('-' :: a :: b :: c :: d :: e :: f :: rest) = _
      simp only [readYear, hread, Option.bind_eq_bind, Option.bind_some, if_neg hne, habs]
    · have habs : (year.natAbs : Int) = year := by omega
      simp only [hneg, if_false, String.toList_append, hcons]
      show readYear ('+' :: a :: b :: c :: d :: e :: f :: rest) = _
      simp only [readYear, hread, Option.bind_eq_bind, Option.bind_some, habs]

/-- The days of the calendar a `Date` can hold. -/
theorem days_of_date {ms : Int} (h₀ : -maxDateMs ≤ ms) (h₁ : ms ≤ maxDateMs) :
    -100000000 ≤ ms / dayMs ∧ ms / dayMs ≤ 100000000 := by
  unfold maxDateMs at h₀ h₁
  unfold dayMs
  omega

/-- An ISO text has at most 27 characters. -/
theorem length_toISOString_le {ms : Int} (h₀ : -maxDateMs ≤ ms) (h₁ : ms ≤ maxDateMs) :
    (toISOString ms).length ≤ 27 := by
  obtain ⟨hdays₀, hdays₁⟩ := days_of_date h₀ h₁
  obtain ⟨year, month, day, hcivil, -, hy₀, hy₁, hm₀, hm₁, hd₀, hd₁⟩ :=
    civilFromDays_spec hdays₀ hdays₁
  have hyear : (isoYear year).length ≤ 7 := by
    unfold isoYear
    split
    · rw [length_padDigits (by decide) (by omega)]
      decide
    · rw [String.length_append, length_padDigits (by decide) (by omega)]
      split <;> decide
  have hrest : (ms % dayMs).toNat < 86400000 := by
    unfold dayMs
    omega
  simp only [toISOString, hcivil, String.length_append]
  rw [length_padDigits (n := month.toNat) (by decide) (by omega),
    length_padDigits (n := day.toNat) (by decide) (by omega),
    length_padDigits (n := (ms % dayMs).toNat / 3600000) (by decide) (by omega),
    length_padDigits (n := (ms % dayMs).toNat / 60000 % 60) (by decide) (by omega),
    length_padDigits (n := (ms % dayMs).toNat / 1000 % 60) (by decide) (by omega),
    length_padDigits (n := (ms % dayMs).toNat % 1000) (by decide) (by omega)]
  show (isoYear year).length + 1 + 2 + 1 + 2 + 1 + 2 + 1 + 2 + 1 + 2 + 1 + 3 + 1 ≤ 27
  omega

/-- The characters of an ISO text. -/
def isoChar (c : Char) : Bool := c.isDigit || ['+', '-', 'T', ':', '.', 'Z'].contains c

theorem isoChar_append {s t : String} (hs : s.toList.all isoChar = true)
    (ht : t.toList.all isoChar = true) : (s ++ t).toList.all isoChar = true := by
  rw [String.toList_append, List.all_append, hs, ht]
  rfl

theorem isoChar_padDigits (width n : Nat) : (padDigits width n).toList.all isoChar = true := by
  rw [List.all_eq_true]
  intro c hc
  rw [isoChar, isDigit_padDigits width n c hc, Bool.true_or]

theorem isoChar_isoYear (year : Int) : (isoYear year).toList.all isoChar = true := by
  unfold isoYear
  split
  · exact isoChar_padDigits _ _
  · refine isoChar_append ?_ (isoChar_padDigits _ _)
    split <;> decide

theorem isoChar_toISOString (ms : Int) : (toISOString ms).toList.all isoChar = true := by
  unfold toISOString
  repeat' with_reducible apply isoChar_append
  all_goals first
    | with_reducible exact isoChar_isoYear _
    | with_reducible exact isoChar_padDigits _ _
    | decide

/-- **Printing loses no millisecond**: `Date.parse` gives back every instant `toISOString` prints. -/
theorem dateParse_toISOString {ms : Int} (h₀ : -maxDateMs ≤ ms) (h₁ : ms ≤ maxDateMs) :
    dateParse (toISOString ms) = some ms := by
  obtain ⟨hdays₀, hdays₁⟩ := days_of_date h₀ h₁
  obtain ⟨year, month, day, hcivil, hback, hy₀, hy₁, hm₀, hm₁, hd₀, hd₁⟩ :=
    civilFromDays_spec hdays₀ hdays₁
  generalize hrest : (ms % dayMs).toNat = rest
  have hms : ms = ms / dayMs * dayMs + rest := by
    rw [← hrest]
    unfold dayMs
    omega
  have hbound : rest < 86400000 := by
    rw [← hrest]
    unfold dayMs
    omega
  obtain ⟨m₁, m₂, hm, hmonth⟩ := padDigits_two (n := month.toNat) (by omega)
  obtain ⟨d₁, d₂, hd, hday⟩ := padDigits_two (n := day.toNat) (by omega)
  obtain ⟨a₁, a₂, ha, hhour⟩ := padDigits_two (n := rest / 3600000) (by omega)
  obtain ⟨n₁, n₂, hn, hminute⟩ := padDigits_two (n := rest / 60000 % 60) (by omega)
  obtain ⟨s₁, s₂, hs, hsecond⟩ := padDigits_two (n := rest / 1000 % 60) (by omega)
  obtain ⟨f₁, f₂, f₃, hf, hmilli⟩ := padDigits_three (n := rest % 1000) (by omega)
  have htext : (toISOString ms).toList = (isoYear year).toList ++
      ['-', m₁, m₂, '-', d₁, d₂, 'T', a₁, a₂, ':', n₁, n₂, ':', s₁, s₂, '.', f₁, f₂, f₃, 'Z'] := by
    simp [toISOString, hcivil, hrest, hm, hd, ha, hn, hs, hf]
  have hmonth' : (month.toNat : Int) = month := Int.toNat_of_nonneg hm₀
  have hday' : (day.toNat : Int) = day := Int.toNat_of_nonneg hd₀
  have hsum : daysFromCivil year month day * dayMs + (rest / 3600000 : Nat) * 3600000 +
      (rest / 60000 % 60 : Nat) * 60000 + (rest / 1000 % 60 : Nat) * 1000 + (rest % 1000 : Nat) =
        ms := by
    rw [hback]
    omega
  rw [dateParse, htext, readYear_isoYear hy₀ hy₁]
  simp only [Option.bind_eq_bind, Option.bind_some, hmonth, hday, hhour, hminute, hsecond, hmilli,
    hmonth', hday', hsum]
  rw [if_pos ⟨h₀, h₁⟩]

example : toISOString 1700000000123 = "2023-11-14T22:13:20.123Z" := by decide +kernel

example : parseISOString "2023-11-14T22:13:20.123Z" = some 1700000000123 := by decide +kernel

end Js
