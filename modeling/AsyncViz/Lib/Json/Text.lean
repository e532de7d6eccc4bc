/-
  AsyncViz.Lib.Json.Text

  The texts of JSON: code points, numbers as they are written, strings with their escapes.

  A text is a list of code points, and a lone surrogate counts as one: it can stand in a string,
  raw or behind a `\u` escape, though no UTF-8 text holds it.

  * `readDecimal_print`: a number is read back where the text behind it does not go on with it
  * `readString_print`: a string is read back
-/

import Mathlib.Data.Nat.Digits.Defs
import Mathlib.Data.Nat.Digits.Lemmas

namespace AsyncViz.Lib.Json

/-- A text, by its code points. -/
abbrev Text := List Nat

/-- The code point of a character. -/
def code (c : Char) : Nat := c.toNat

/-- The code points of a string. -/
def text (s : String) : Text := s.toList.map code

/-- A half of a surrogate pair. -/
def IsSurrogate (c : Nat) : Prop := 0xD800 ≤ c ∧ c ≤ 0xDFFF

instance (c : Nat) : Decidable (IsSurrogate c) := inferInstanceAs (Decidable (_ ∧ _))

/-- The text has a UTF-8 form: there is no lone surrogate in it. -/
def Encodable (t : Text) : Prop := ∀ c ∈ t, ¬ IsSurrogate c

instance (t : Text) : Decidable (Encodable t) := inferInstanceAs (Decidable (∀ c ∈ t, _))

@[simp] theorem encodable_nil : Encodable [] := fun _ h => by cases h

@[simp] theorem encodable_cons {c : Nat} {t : Text} :
    Encodable (c :: t) ↔ ¬ IsSurrogate c ∧ Encodable t :=
  List.forall_mem_cons

@[simp] theorem encodable_append {t t' : Text} :
    Encodable (t ++ t') ↔ Encodable t ∧ Encodable t' :=
  List.forall_mem_append

/-- Whitespace between tokens. -/
def isSpace (c : Nat) : Bool := c = 32 || c = 9 || c = 10 || c = 13

/-- The text behind the whitespace at its start. -/
def skip (input : Text) : Text := input.dropWhile isSpace

theorem skip_cons {c : Nat} (h : isSpace c = false) (rest : Text) : skip (c :: rest) = c :: rest := by
  rw [skip, List.dropWhile_cons_of_neg (by simp [h])]

theorem length_skip_le (input : Text) : (skip input).length ≤ input.length :=
  (List.dropWhile_suffix _).length_le

/-! ## Digits -/

def isDigit (c : Nat) : Bool := 48 ≤ c && c ≤ 57

/-- The digits at the start of a text, and what is behind them. -/
def takeDigits (input : Text) : List Nat × Text :=
  ((input.takeWhile isDigit).map (· - 48), input.dropWhile isDigit)

/-- The digits as they are written. -/
def printDigits (digits : List Nat) : Text := digits.map (· + 48)

/-- What is behind a number does not go on with it. -/
def Stops (rest : Text) : Prop :=
  ∀ c ∈ rest.head?, isDigit c = false ∧ c ≠ code '.' ∧ c ≠ code 'e' ∧ c ≠ code 'E'

theorem stops_nil : Stops [] := fun _ h => by cases h

theorem takeDigits_print {digits : List Nat} (hdigits : ∀ d ∈ digits, d < 10) {rest : Text}
    (hrest : ∀ c ∈ rest.head?, isDigit c = false) :
    takeDigits (printDigits digits ++ rest) = (digits, rest) := by
  have hall : ∀ c ∈ printDigits digits, isDigit c = true := by
    intro c hc
    obtain ⟨d, hd, rfl⟩ := List.mem_map.mp hc
    have hlt := hdigits d hd
    simp [isDigit]
    omega
  have hstop : rest.takeWhile isDigit = [] ∧ rest.dropWhile isDigit = rest := by
    cases rest with
    | nil => exact ⟨rfl, rfl⟩
    | cons c rest =>
      have hc := hrest c rfl
      exact ⟨by simp [hc], by simp [hc]⟩
  have hback : (printDigits digits).map (· - 48) = digits := by
    simp [printDigits, Function.comp_def]
  rw [takeDigits, List.takeWhile_append_of_pos hall, List.dropWhile_append_of_pos hall, hstop.1,
    hstop.2, List.append_nil, hback]

theorem length_takeDigits_le (input : Text) : (takeDigits input).2.length ≤ input.length :=
  (List.dropWhile_suffix _).length_le

/-! ## Numbers -/

/-- The exponent of a number: its sign, where one is written, and its digits. -/
structure Exponent where
  minus : Option Bool
  digits : List Nat
deriving DecidableEq, Repr

/-- A number as it is written. -/
structure Decimal where
  negative : Bool
  whole : List Nat
  fraction : List Nat := []
  exponent : Option Exponent := none
deriving DecidableEq, Repr

namespace Decimal

/-- The number can be written: it has a whole part without a leading zero, and digits behind an
    exponent. -/
structure Written (d : Decimal) : Prop where
  whole : ∀ c ∈ d.whole, c < 10
  leading : d.whole = [0] ∨ ∃ c rest, d.whole = c :: rest ∧ c ≠ 0
  fraction : ∀ c ∈ d.fraction, c < 10
  exponent : ∀ e ∈ d.exponent, e.digits ≠ [] ∧ ∀ c ∈ e.digits, c < 10

theorem leading_iff {whole : List Nat} :
    (whole = [0] ∨ whole.headD 0 ≠ 0)
      ↔ whole = [0] ∨ ∃ c rest, whole = c :: rest ∧ c ≠ 0 := by
  cases whole with
  | nil => simp
  | cons c rest => simp

instance (d : Decimal) : Decidable d.Written :=
  decidable_of_iff ((∀ c ∈ d.whole, c < 10) ∧ (d.whole = [0] ∨ d.whole.headD 0 ≠ 0) ∧
      (∀ c ∈ d.fraction, c < 10) ∧ ∀ e ∈ d.exponent, e.digits ≠ [] ∧ ∀ c ∈ e.digits, c < 10)
    ⟨fun h => ⟨h.1, leading_iff.mp h.2.1, h.2.2.1, h.2.2.2⟩,
      fun h => ⟨h.whole, leading_iff.mpr h.leading, h.fraction, h.exponent⟩⟩

/-- The number is written without a fraction and without an exponent. -/
def IsInt (d : Decimal) : Prop := d.fraction = [] ∧ d.exponent = none

instance (d : Decimal) : Decidable d.IsInt := inferInstanceAs (Decidable (_ ∧ _))

/-- The sign of an exponent as it is written. -/
def printMinus : Option Bool → Text
  | none => []
  | some false => [code '+']
  | some true => [code '-']

def printExponent : Option Exponent → Text
  | none => []
  | some e => code 'e' :: (printMinus e.minus ++ printDigits e.digits)

def printFraction (fraction : List Nat) : Text :=
  if fraction = [] then [] else code '.' :: printDigits fraction

def print (d : Decimal) : Text :=
  (if d.negative then [code '-'] else [])
    ++ (printDigits d.whole ++ (printFraction d.fraction ++ printExponent d.exponent))

/-- The value of a number without fraction and exponent. -/
def toInt (d : Decimal) : Int :=
  let magnitude : Int := (Nat.ofDigits 10 d.whole.reverse : Nat)
  if d.negative then -magnitude else magnitude

/-- An integer as it is written. -/
def ofInt (n : Int) : Decimal where
  negative := n < 0
  whole := if n = 0 then [0] else (Nat.digits 10 n.natAbs).reverse

end Decimal

/-- An optional minus at the start of a text. -/
def readMinus : Text → Bool × Text
  | [] => (false, [])
  | c :: rest => if c = code '-' then (true, rest) else (false, c :: rest)

/-- The whole part: a zero alone, or digits that start with another one. -/
def readWhole : Text → Option (List Nat × Text)
  | [] => none
  | c :: rest =>
    if c = code '0' then some ([0], rest)
    else
      match takeDigits (c :: rest) with
      | ([], _) => none
      | (digits, rest) => some (digits, rest)

/-- A point with digits behind it, or nothing. -/
def readFraction : Text → List Nat × Text
  | [] => ([], [])
  | c :: rest =>
    if c = code '.' then
      match takeDigits rest with
      | ([], _) => ([], c :: rest)
      | (digits, rest) => (digits, rest)
    else ([], c :: rest)

/-- The sign of an exponent, where there is one. -/
def readExponentSign : Text → Option Bool × Text
  | [] => (none, [])
  | c :: rest =>
    if c = code '+' then (some false, rest)
    else if c = code '-' then (some true, rest)
    else (none, c :: rest)

/-- An exponent with digits, or nothing. -/
def readExponent : Text → Option Exponent × Text
  | [] => (none, [])
  | c :: rest =>
    if c = code 'e' ∨ c = code 'E' then
      match takeDigits (readExponentSign rest).2 with
      | ([], _) => (none, c :: rest)
      | (digits, rest') => (some ⟨(readExponentSign rest).1, digits⟩, rest')
    else (none, c :: rest)

/-- The longest number at the start of a text. -/
def readDecimal (input : Text) : Option (Decimal × Text) :=
  match readWhole (readMinus input).2 with
  | none => none
  | some (whole, rest) =>
    let fraction := readFraction rest
    let exponent := readExponent fraction.2
    some (⟨(readMinus input).1, whole, fraction.1, exponent.1⟩, exponent.2)

theorem head?_printDigits {digits : List Nat} (h : ∀ d ∈ digits, d < 10) (hne : digits ≠ [])
    (rest : Text) : ∃ d rest', digits = d :: rest' ∧ d < 10 ∧
      printDigits digits ++ rest = (d + 48) :: (printDigits rest' ++ rest) := by
  obtain ⟨d, rest', rfl⟩ := List.exists_cons_of_ne_nil hne
  exact ⟨d, rest', rfl, h d (List.mem_cons_self ..), rfl⟩

theorem readExponent_print {exponent : Option Exponent}
    (hexponent : ∀ e ∈ exponent, e.digits ≠ [] ∧ ∀ c ∈ e.digits, c < 10) {rest : Text}
    (hrest : Stops rest) :
    readExponent (Decimal.printExponent exponent ++ rest) = (exponent, rest) := by
  cases exponent with
  | none =>
    cases rest with
    | nil => rfl
    | cons c rest =>
      obtain ⟨-, -, he, hE⟩ := hrest c rfl
      simp [Decimal.printExponent, readExponent, he, hE]
  | some e =>
    obtain ⟨minus, digits⟩ := e
    obtain ⟨hne, hlt⟩ := hexponent _ rfl
    have hdigits := takeDigits_print hlt fun c hc => (hrest c hc).1
    have hsign : readExponentSign (Decimal.printMinus minus ++ (printDigits digits ++ rest))
        = (minus, printDigits digits ++ rest) := by
      obtain ⟨d, rest', rfl, hd, hcons⟩ := head?_printDigits hlt hne rest
      cases minus with
      | none =>
        rw [hcons]
        have hplus : ¬ d + 48 = code '+' := by simp [code]
        have hminus : ¬ d + 48 = code '-' := by simp [code]
        simp [Decimal.printMinus, readExponentSign, hplus, hminus]
      | some minus =>
        cases minus with
        | false => simp [Decimal.printMinus, readExponentSign]
        | true => simp [Decimal.printMinus, readExponentSign, code]
    simp only [Decimal.printExponent, List.cons_append, List.append_assoc, readExponent, true_or,
      if_true, hsign, hdigits]

/-- An exponent does not start with a digit, nor with a point. -/
theorem head?_printExponent (exponent : Option Exponent) {rest : Text} (hrest : Stops rest) :
    ∀ c ∈ (Decimal.printExponent exponent ++ rest).head?, isDigit c = false ∧ c ≠ code '.' := by
  cases exponent with
  | none => exact fun c hc => ⟨(hrest c hc).1, (hrest c hc).2.1⟩
  | some e =>
    intro c hc
    cases hc
    decide

theorem readFraction_print {fraction : List Nat} (hfraction : ∀ d ∈ fraction, d < 10) {rest : Text}
    (hrest : ∀ c ∈ rest.head?, isDigit c = false ∧ c ≠ code '.') :
    readFraction (Decimal.printFraction fraction ++ rest) = (fraction, rest) := by
  by_cases hnil : fraction = []
  · subst hnil
    cases rest with
    | nil => rfl
    | cons c rest => simp [Decimal.printFraction, readFraction, (hrest c rfl).2]
  · have hdigits := takeDigits_print hfraction fun c hc => (hrest c hc).1
    simp only [Decimal.printFraction, if_neg hnil, List.cons_append, readFraction, if_true,
      hdigits]

theorem head?_printFraction (fraction : List Nat) {rest : Text}
    (hrest : ∀ c ∈ rest.head?, isDigit c = false) :
    ∀ c ∈ (Decimal.printFraction fraction ++ rest).head?, isDigit c = false := by
  unfold Decimal.printFraction
  split
  · exact hrest
  · intro c hc
    cases hc
    decide

theorem readWhole_print {d : Decimal} (h : d.Written) {rest : Text}
    (hrest : ∀ c ∈ rest.head?, isDigit c = false) :
    readWhole (printDigits d.whole ++ rest) = some (d.whole, rest) := by
  have hdigits := takeDigits_print h.whole hrest
  rcases h.leading with hzero | ⟨c, whole, hcons, hne⟩
  · rw [hzero]
    rfl
  · rw [hcons] at hdigits ⊢
    have hfirst : ¬ c + 48 = code '0' := by
      simp only [code]
      intro heq
      exact hne (by simpa using heq)
    simp only [printDigits, List.map_cons, List.cons_append] at hdigits ⊢
    rw [readWhole, if_neg hfirst, hdigits]

/-- A number is read back, where the text behind it does not go on with it. -/
theorem readDecimal_print {d : Decimal} (h : d.Written) {rest : Text} (hrest : Stops rest) :
    readDecimal (d.print ++ rest) = some (d, rest) := by
  have hexponent := readExponent_print h.exponent hrest
  have hexponentHead := head?_printExponent d.exponent hrest
  have hfraction := readFraction_print h.fraction hexponentHead
  have hwhole := readWhole_print h
    (head?_printFraction d.fraction fun c hc => (hexponentHead c hc).1)
  have hminus : readMinus (d.print ++ rest) = (d.negative, printDigits d.whole ++
      (Decimal.printFraction d.fraction ++ (Decimal.printExponent d.exponent ++ rest))) := by
    have hne : d.whole ≠ [] := by
      rcases h.leading with hzero | ⟨c, whole, hcons, -⟩
      · simp [hzero]
      · simp [hcons]
    obtain ⟨c, whole, hcons, hlt, hprint⟩ := head?_printDigits h.whole hne
      (Decimal.printFraction d.fraction ++ (Decimal.printExponent d.exponent ++ rest))
    cases hnegative : d.negative with
    | true => simp [Decimal.print, hnegative, readMinus, List.append_assoc]
    | false =>
      have hfirst : ¬ c + 48 = code '-' := by simp [code]
      simp only [Decimal.print, hnegative, Bool.false_eq_true, if_false, List.nil_append,
        List.append_assoc, hprint, readMinus, if_neg hfirst]
  rw [readDecimal, hminus]
  simp only [hwhole, hfraction, hexponent]

namespace Decimal

theorem written_ofInt (n : Int) : (ofInt n).Written := by
  unfold ofInt
  refine ⟨?_, ?_, fun c hc => (by cases hc), fun e he => (by cases he)⟩
  · dsimp only
    split
    · simp
    · intro c hc
      exact Nat.digits_lt_base (by norm_num) (List.mem_reverse.mp hc)
  · dsimp only
    split
    · exact .inl rfl
    · rename_i hne
      have habs : n.natAbs ≠ 0 := Int.natAbs_ne_zero.mpr hne
      have hdigits : Nat.digits 10 n.natAbs ≠ [] := Nat.digits_ne_nil_iff_ne_zero.mpr habs
      refine .inr ⟨(Nat.digits 10 n.natAbs).getLast hdigits,
        (Nat.digits 10 n.natAbs).dropLast.reverse, ?_, Nat.getLast_digit_ne_zero 10 habs⟩
      rw [List.reverse_eq_cons_iff, List.reverse_reverse]
      exact (List.dropLast_append_getLast hdigits).symm

theorem isInt_ofInt (n : Int) : (ofInt n).IsInt := ⟨rfl, rfl⟩

@[simp] theorem toInt_ofInt (n : Int) : (ofInt n).toInt = n := by
  have hdigits : Nat.ofDigits 10 (ofInt n).whole.reverse = n.natAbs := by
    unfold ofInt
    dsimp only
    split
    · rename_i h
      simp [h]
    · rw [List.reverse_reverse, Nat.ofDigits_digits]
  unfold toInt
  rw [hdigits]
  by_cases hneg : n < 0
  · simp only [ofInt, hneg, decide_true, if_true]
    omega
  · simp only [ofInt, hneg, decide_false, Bool.false_eq_true, if_false]
    omega

end Decimal

/-! ## Strings -/

/-- A hexadecimal digit as it is written. -/
def hexDigit (d : Nat) : Nat := if d < 10 then d + 48 else d + 87

/-- The value of a hexadecimal digit in either case. -/
def hexValue (c : Nat) : Option Nat :=
  if 48 ≤ c ∧ c ≤ 57 then some (c - 48)
  else if 97 ≤ c ∧ c ≤ 102 then some (c - 87)
  else if 65 ≤ c ∧ c ≤ 70 then some (c - 55)
  else none

/-- The code point behind `\u`. -/
def hexCode (a b c d : Nat) : Option Nat :=
  match hexValue a, hexValue b, hexValue c, hexValue d with
  | some a, some b, some c, some d => some (((a * 16 + b) * 16 + c) * 16 + d)
  | _, _, _, _ => none

/-- The escapes of one letter. -/
def unescape (c : Nat) : Option Nat :=
  if c = code '"' then some (code '"')
  else if c = code '\\' then some (code '\\')
  else if c = code '/' then some (code '/')
  else if c = code 'b' then some 8
  else if c = code 'f' then some 12
  else if c = code 'n' then some 10
  else if c = code 'r' then some 13
  else if c = code 't' then some 9
  else none

/-- How a code point is written in a string. -/
def escape (c : Nat) : Text :=
  if c = code '"' then [code '\\', code '"']
  else if c = code '\\' then [code '\\', code '\\']
  else if c = 10 then [code '\\', code 'n']
  else if c = 13 then [code '\\', code 'r']
  else if c = 9 then [code '\\', code 't']
  else if c = 12 then [code '\\', code 'f']
  else if c = 8 then [code '\\', code 'b']
  else if c < 32 then
    [code '\\', code 'u', code '0', code '0', hexDigit (c / 16), hexDigit (c % 16)]
  else [c]

/-- A string in its quotes. -/
def printString (s : Text) : Text := code '"' :: (s.flatMap escape ++ [code '"'])

/-- The code point of a surrogate pair. -/
def join (high low : Nat) : Nat := 0x10000 + (high - 0xD800) * 0x400 + (low - 0xDC00)

/-- The code points of a string, pairs that are written as two escapes joined; of each is said
    whether it stands behind `\u`. -/
def joinPairs : List (Nat × Bool) → Text
  | [] => []
  | [first] => [first.1]
  | first :: second :: rest =>
    if first.2 ∧ second.2 ∧ (0xD800 ≤ first.1 ∧ first.1 ≤ 0xDBFF)
        ∧ (0xDC00 ≤ second.1 ∧ second.1 ≤ 0xDFFF) then
      join first.1 second.1 :: joinPairs rest
    else first.1 :: joinPairs (second :: rest)

/-- What is read, with one more in front. -/
def push {α : Type} (x : α) : Option (List α × Text) → Option (List α × Text) :=
  Option.map fun read => (x :: read.1, read.2)

/-- What stands up to the closing quote, and what is behind it. -/
def readUnits : Text → Option (List (Nat × Bool) × Text)
  | [] => none
  | c :: rest =>
    if c = code '"' then some ([], rest)
    else if c = code '\\' then
      match rest with
      | [] => none
      | e :: rest =>
        if e = code 'u' then
          match rest with
          | a :: b :: c :: d :: rest =>
            match hexCode a b c d with
            | none => none
            | some c => push (c, true) (readUnits rest)
          | _ => none
        else
          match unescape e with
          | none => none
          | some c => push (c, false) (readUnits rest)
    else if c < 32 then none
    else push (c, false) (readUnits rest)
termination_by structural input => input

/-- A string up to its closing quote, and what is behind it. -/
def readString (input : Text) : Option (Text × Text) :=
  (readUnits input).map fun read => (joinPairs read.1, read.2)

theorem hexValue_hexDigit {d : Nat} (h : d < 16) : hexValue (hexDigit d) = some d := by
  unfold hexDigit hexValue
  split
  · rw [if_pos (by omega), Nat.add_sub_cancel]
  · rw [if_neg (by omega), if_pos (by omega), Nat.add_sub_cancel]

/-- A code point is written as an escape of one letter, behind `\u`, or as it is. -/
theorem escape_cases (c : Nat) :
    (∃ e, escape c = [code '\\', e] ∧ e ≠ code 'u' ∧ unescape e = some c ∧ e < 128 ∧ c < 128) ∨
    (escape c = [code '\\', code 'u', code '0', code '0', hexDigit (c / 16), hexDigit (c % 16)] ∧
      c < 32) ∨
    escape c = [c] ∧ c ≠ code '"' ∧ c ≠ code '\\' ∧ 32 ≤ c := by
  unfold escape
  split
  · subst_vars
    exact .inl ⟨_, rfl, by decide, rfl, by decide, by decide⟩
  split
  · subst_vars
    exact .inl ⟨_, rfl, by decide, rfl, by decide, by decide⟩
  split
  · subst_vars
    exact .inl ⟨_, rfl, by decide, rfl, by decide, by decide⟩
  split
  · subst_vars
    exact .inl ⟨_, rfl, by decide, rfl, by decide, by decide⟩
  split
  · subst_vars
    exact .inl ⟨_, rfl, by decide, rfl, by decide, by decide⟩
  split
  · subst_vars
    exact .inl ⟨_, rfl, by decide, rfl, by decide, by decide⟩
  split
  · subst_vars
    exact .inl ⟨_, rfl, by decide, rfl, by decide, by decide⟩
  split
  · rename_i hlt
    exact .inr (.inl ⟨rfl, hlt⟩)
  · rename_i hquote hbackslash _ _ _ _ _ hlt
    exact .inr (.inr ⟨rfl, hquote, hbackslash, not_lt.mp hlt⟩)

/-- How a code point is written is how it is read; only those below 32 are written behind `\u`. -/
theorem readUnits_escape (c : Nat) (rest : Text) :
    ∃ escaped, (escaped = true → c < 32) ∧
      readUnits (escape c ++ rest) = push (c, escaped) (readUnits rest) := by
  have hquoted : ¬ code '\\' = code '"' := by decide
  rcases escape_cases c with ⟨e, hescape, hletter, hread, -, -⟩ | ⟨hescape, hlt⟩ |
    ⟨hescape, hquote, hbackslash, hle⟩
  · refine ⟨false, by simp, ?_⟩
    rw [hescape, List.cons_append, List.singleton_append, readUnits.eq_def]
    simp only [if_neg hquoted, if_neg hletter, if_true, hread]
  · have hcode : hexCode (code '0') (code '0') (hexDigit (c / 16)) (hexDigit (c % 16))
        = some c := by
      have hzero : hexValue (code '0') = some 0 := rfl
      simp only [hexCode, hzero, hexValue_hexDigit (show c / 16 < 16 by omega),
        hexValue_hexDigit (show c % 16 < 16 by omega)]
      congr 1
      omega
    refine ⟨true, fun _ => hlt, ?_⟩
    rw [hescape]
    simp only [List.cons_append, List.nil_append]
    rw [readUnits.eq_def]
    simp only [if_neg hquoted, if_true, hcode]
  · refine ⟨false, by simp, ?_⟩
    rw [hescape, List.singleton_append, readUnits.eq_def]
    simp only [if_neg hquote, if_neg hbackslash, if_neg (not_lt.mpr hle)]

/-- Nothing is joined where only code points below 32 stand behind `\u`. -/
theorem joinPairs_of_lt {units : List (Nat × Bool)} (h : ∀ u ∈ units, u.2 = true → u.1 < 32) :
    joinPairs units = units.map Prod.fst := by
  induction units with
  | nil => rfl
  | cons first rest ih =>
    have hrest := ih fun u hu => h u (List.mem_cons_of_mem _ hu)
    cases rest with
    | nil => rfl
    | cons second rest =>
      have hno : ¬ (first.2 = true ∧ second.2 = true ∧ (0xD800 ≤ first.1 ∧ first.1 ≤ 0xDBFF)
          ∧ (0xDC00 ≤ second.1 ∧ second.1 ≤ 0xDFFF)) := by
        rintro ⟨hescaped, -, ⟨hhigh, -⟩, -⟩
        have hlt := h first (List.mem_cons_self ..) hescaped
        omega
      rw [joinPairs, if_neg hno, hrest]
      rfl

theorem readUnits_print (s rest : Text) :
    ∃ units, readUnits (s.flatMap escape ++ code '"' :: rest) = some (units, rest) ∧
      units.map Prod.fst = s ∧ ∀ u ∈ units, u.2 = true → u.1 < 32 := by
  induction s with
  | nil =>
    refine ⟨[], ?_, rfl, fun u hu => by cases hu⟩
    rw [List.flatMap_nil, List.nil_append, readUnits.eq_def]
    exact if_pos rfl
  | cons c s ih =>
    obtain ⟨units, hread, hmap, hlt⟩ := ih
    obtain ⟨escaped, hescaped, heq⟩ :=
      readUnits_escape c (s.flatMap escape ++ code '"' :: rest)
    refine ⟨(c, escaped) :: units, ?_, by rw [List.map_cons, hmap], ?_⟩
    · rw [List.flatMap_cons, List.append_assoc, heq, hread]
      rfl
    · intro u hu
      rcases List.mem_cons.mp hu with rfl | hu
      · exact hescaped
      · exact hlt u hu

/-- A string is read back, whatever is behind it. -/
theorem readString_print (s rest : Text) :
    readString (s.flatMap escape ++ code '"' :: rest) = some (s, rest) := by
  obtain ⟨units, hread, hmap, hlt⟩ := readUnits_print s rest
  rw [readString, hread, Option.map_some, joinPairs_of_lt hlt, hmap]

/-- The escapes write no surrogate, and hide none. -/
theorem encodable_escape (c : Nat) : Encodable (escape c) ↔ ¬ IsSurrogate c := by
  have hsmall : ∀ {c : Nat}, c < 0xD800 → ¬ IsSurrogate c := fun h hc => by
    have := hc.1
    omega
  have hhex : ∀ d, d < 16 → hexDigit d < 0xD800 := by decide
  have hbackslash : ¬ IsSurrogate (code '\\') := by decide
  rcases escape_cases c with ⟨e, hescape, -, -, he, hc⟩ | ⟨hescape, hlt⟩ | ⟨hescape, -, -, -⟩
  · refine iff_of_true ?_ (hsmall (by omega))
    rw [hescape, encodable_cons, encodable_cons]
    exact ⟨hbackslash, hsmall (by omega), encodable_nil⟩
  · refine iff_of_true ?_ (hsmall (by omega))
    rw [hescape]
    simp only [encodable_cons, encodable_nil, and_true]
    exact ⟨hbackslash, by decide, by decide, by decide,
      hsmall (hhex _ (by omega)), hsmall (hhex _ (by omega))⟩
  · rw [hescape, encodable_cons, and_iff_left encodable_nil]

@[simp] theorem encodable_printString (s : Text) : Encodable (printString s) ↔ Encodable s := by
  have hquote : ¬ IsSurrogate (code '"') := by decide
  have hbody : Encodable (s.flatMap escape) ↔ Encodable s := by
    induction s with
    | nil => simp
    | cons c s ih => rw [List.flatMap_cons, encodable_append, encodable_escape, ih, encodable_cons]
  simp [printString, hquote, hbody]

end AsyncViz.Lib.Json
