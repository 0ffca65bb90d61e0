import ComponentBrowser.Error
import ComponentBrowser.Text.Blank

/-!
# ComponentBrowser.Catalog.Index

Reading the index of a component as the operator types it: a decimal integer
with an optional sign, white space around it, and single underscores between
its digits.  A number beyond 64 bits is still a number and names no component.
-/

namespace ComponentBrowser.Component.Index

/-- The greatest index that can be told from greater ones. -/
def greatest : Nat := UInt64.size / 2 - 1

/-- The size of the least index that can be told from lesser ones. -/
def leastSize : Nat := UInt64.size / 2

/-- The text without the underscores that stand between two digits; any other
underscore refuses it. -/
def dropSeparators (afterDigit : Bool) : List Char → Option (List Char)
  | [] => some []
  | c :: rest =>
    if c = '_' then
      if afterDigit && (rest.head?.map Decimal.isDigit).getD false then dropSeparators false rest
      else none
    else (dropSeparators (Decimal.isDigit c) rest).map (c :: ·)

/-- How reading digits ends. -/
inductive Reading where
  /-- All characters are digits, and their number is in range. -/
  | number (n : Nat)
  /-- The digits so far exceed the range; what follows them is not looked at. -/
  | tooLarge
  /-- A character is no digit. -/
  | noNumber

/-- Read digits after those that stand for `n`, up to a bound. -/
def readDigits (bound n : Nat) : List Char → Reading
  | [] => .number n
  | c :: rest =>
    if Decimal.isDigit c then
      let n := 10 * n + Decimal.digitValue c
      if n ≤ bound then readDigits bound n rest else .tooLarge
    else .noNumber

/-- The index that a text stands for.  An error names the text as it was
typed. -/
def parse (text : String) : Except Error Int :=
  match dropSeparators false (Text.trim text.toList) with
  | none => .error (.malformedIndex text)
  | some cs =>
    let negative := cs.head? == some '-'
    let digits := if negative || cs.head? == some '+' then cs.drop 1 else cs
    if digits = [] then .error (.malformedIndex text)
    else match readDigits (if negative then leastSize else greatest) 0 digits with
      | .number n => .ok (if negative then -(n : Int) else n)
      | .tooLarge => .error (.invalidIndex (if negative then -(leastSize : Int) else greatest))
      | .noNumber => .error (.malformedIndex text)

/-- Digits within the bound are read as their number. -/
theorem readDigits_eq_number (bound n : Nat) (cs : List Char)
    (hdigits : ∀ c ∈ cs, Decimal.isDigit c = true)
    (hbound : cs.foldl (fun n c => 10 * n + Decimal.digitValue c) n ≤ bound) :
    readDigits bound n cs =
      .number (cs.foldl (fun n c => 10 * n + Decimal.digitValue c) n) := by
  have grows : ∀ (cs : List Char) (n : Nat),
      n ≤ cs.foldl (fun n c => 10 * n + Decimal.digitValue c) n := by
    intro cs
    induction cs with
    | nil => simp
    | cons c cs ih =>
      intro n
      exact Nat.le_trans (show n ≤ 10 * n + Decimal.digitValue c by omega) (ih _)
  induction cs generalizing n with
  | nil => rfl
  | cons c cs ih =>
    have hc : Decimal.isDigit c = true := hdigits c (by simp)
    have hn : 10 * n + Decimal.digitValue c ≤ bound := Nat.le_trans (grows cs _) hbound
    simp only [readDigits, hc, hn, if_true, List.foldl_cons]
    exact ih _ (fun d hd => hdigits d (by simp [hd])) hbound

end ComponentBrowser.Component.Index
