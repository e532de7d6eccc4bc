/-
  AsyncViz.Lib.Json.RoundTrip

  What is written is read back, and the reader's fuel never matters.

  * `loads_print`: a text that was written from a value is read as this value
  * `readValue_fuel`: more fuel than the text can use changes nothing
-/

import AsyncViz.Lib.Json.Value

namespace AsyncViz.Lib.Json

variable {F : Type} {fmt : FloatFormat F}

/-! ## Atoms -/

/-- A value whose text starts so is no string, array or object. -/
def IsAtomHead (c : Nat) : Prop :=
  c ≠ code '"' ∧ c ≠ code '[' ∧ c ≠ code '{' ∧ c ≠ code ']' ∧ isSpace c = false

instance (c : Nat) : Decidable (IsAtomHead c) := inferInstanceAs (Decidable (_ ∧ _))

theorem readValue_atom {c : Nat} (h : IsAtomHead c) (fuel : Nat) (rest : Text) :
    readValue fmt (fuel + 1) (c :: rest) = readAtom fmt (c :: rest) := by
  rw [readValue, if_neg h.1, if_neg h.2.1, if_neg h.2.2.1]

/-- A number starts with a digit, or with a minus and a digit. -/
theorem Decimal.Written.print_cases {d : Decimal} (h : d.Written) :
    ∃ c rest, c < 10 ∧ (d.print = (c + 48) :: rest ∨ d.print = code '-' :: (c + 48) :: rest) := by
  have hne : d.whole ≠ [] := by
    rcases h.leading with hzero | ⟨c, whole, hcons, -⟩
    · simp [hzero]
    · simp [hcons]
  obtain ⟨c, whole, -, hlt, hprint⟩ := head?_printDigits h.whole hne
    (Decimal.printFraction d.fraction ++ Decimal.printExponent d.exponent)
  refine ⟨c, printDigits whole ++ (printFraction d.fraction ++ printExponent d.exponent), hlt, ?_⟩
  rw [Decimal.print, hprint]
  cases d.negative with
  | true => exact .inr rfl
  | false => exact .inl rfl

/-- No word starts as a number does. -/
theorem readKeyword_digit {c : Nat} (h : c < 10) (rest : Text) :
    readKeyword (F := F) ((c + 48) :: rest) = none
      ∧ readKeyword (F := F) (code '-' :: (c + 48) :: rest) = none := by
  constructor
  · simp [readKeyword, keywords, text, code]
    omega
  · simp [readKeyword, keywords, text, code]
    omega

theorem readAtom_decimal {d : Decimal} (h : d.Written) {rest : Text} (hrest : Stops rest) :
    readAtom fmt (d.print ++ rest) = some (ofDecimal fmt d, rest) := by
  have hkeyword : readKeyword (d.print ++ rest) = (none : Option (JsonValue F × Text)) := by
    obtain ⟨c, tail, hlt, hprint | hprint⟩ := h.print_cases
    · rw [hprint]
      exact (readKeyword_digit hlt _).1
    · rw [hprint]
      exact (readKeyword_digit hlt _).2
  rw [readAtom, hkeyword, readDecimal_print h hrest]
  rfl

theorem readAtom_keyword (fmt : FloatFormat F) (rest : Text) :
    ∀ entry ∈ (keywords : List (Text × JsonValue F)),
      readAtom fmt (entry.1 ++ rest) = some (entry.2, rest) := by
  intro entry hentry
  simp only [keywords, List.mem_cons, List.not_mem_nil, or_false] at hentry
  rcases hentry with rfl | rfl | rfl | rfl | rfl | rfl <;>
    simp [readAtom, readKeyword, keywords, text, code]

/-- The values that are written as a word or a number. -/
inductive IsAtom : JsonValue F → Prop where
  | null : IsAtom .null
  | bool (b : Bool) : IsAtom (.bool b)
  | int (n : Int) : IsAtom (.int n)
  | float (x : F) : IsAtom (.float x)
  | nonFinite (x : NonFinite) : IsAtom (.nonFinite x)

/-- An atom is read back, where the text behind it does not go on with it. -/
theorem IsAtom.readAtom_print {v : JsonValue F} (h : IsAtom v) (fmt : FloatFormat F) {rest : Text}
    (hrest : Stops rest) :
    readAtom fmt (v.print fmt ++ rest) = some (v, rest) := by
  have hkeyword := readAtom_keyword fmt rest
  cases h with
  | null => exact hkeyword (text "null", _) (by simp [keywords])
  | bool b =>
    cases b with
    | true => exact hkeyword (text "true", _) (by simp [keywords])
    | false => exact hkeyword (text "false", _) (by simp [keywords])
  | int n =>
    rw [JsonValue.print, readAtom_decimal (Decimal.written_ofInt n) hrest, ofDecimal,
      if_pos (Decimal.isInt_ofInt n), Decimal.toInt_ofInt]
  | float x =>
    rw [JsonValue.print, readAtom_decimal (fmt.written x) hrest, ofDecimal,
      if_neg (fmt.not_isInt x), fmt.read_repr]
  | nonFinite x =>
    cases x with
    | nan => exact hkeyword (text "NaN", _) (by simp [keywords])
    | infinity => exact hkeyword (text "Infinity", _) (by simp [keywords])
    | negInfinity => exact hkeyword (text "-Infinity", _) (by simp [keywords])

theorem Decimal.Written.head_print {d : Decimal} (h : d.Written) :
    ∃ c rest, d.print = c :: rest ∧ IsAtomHead c := by
  obtain ⟨c, rest, hlt, hprint | hprint⟩ := h.print_cases
  · refine ⟨_, rest, hprint, ?_⟩
    simp only [IsAtomHead, code, isSpace]
    refine ⟨?_, ?_, ?_, ?_, ?_⟩ <;> simp <;> omega
  · exact ⟨_, _, hprint, by decide⟩

theorem IsAtom.head_print {v : JsonValue F} (h : IsAtom v) (fmt : FloatFormat F) :
    ∃ c rest, v.print fmt = c :: rest ∧ IsAtomHead c := by
  cases h with
  | null => exact ⟨_, _, rfl, by decide⟩
  | bool b => cases b <;> exact ⟨_, _, rfl, by decide⟩
  | int n => exact (Decimal.written_ofInt n).head_print
  | float x => exact (fmt.written x).head_print
  | nonFinite x => cases x <;> exact ⟨_, _, rfl, by decide⟩

theorem IsAtom.readValue_print {v : JsonValue F} (h : IsAtom v) (fuel : Nat) {rest : Text}
    (hrest : Stops rest) : readValue fmt (fuel + 1) (v.print fmt ++ rest) = some (v, rest) := by
  obtain ⟨c, tail, hprint, hhead⟩ := h.head_print fmt
  have hatom := h.readAtom_print fmt hrest
  rw [hprint, List.cons_append] at hatom ⊢
  rw [readValue_atom hhead, hatom]

/-! ## Values -/

/-- A text of a value starts neither with whitespace nor with a closing bracket. -/
theorem head_print (fmt : FloatFormat F) (v : JsonValue F) :
    ∃ c rest, v.print fmt = c :: rest ∧ isSpace c = false ∧ c ≠ code ']' := by
  have hatom : IsAtom v → ∃ c rest, v.print fmt = c :: rest ∧ isSpace c = false ∧ c ≠ code ']' := by
    intro h
    obtain ⟨c, rest, hprint, -, -, -, hbracket, hspace⟩ := h.head_print fmt
    exact ⟨c, rest, hprint, hspace, hbracket⟩
  cases v with
  | null => exact hatom .null
  | bool b => exact hatom (.bool b)
  | int n => exact hatom (.int n)
  | float x => exact hatom (.float x)
  | nonFinite x => exact hatom (.nonFinite x)
  | string s => exact ⟨_, _, rfl, by decide, by decide⟩
  | array items => cases items <;> exact ⟨_, _, by rw [JsonValue.print], by decide, by decide⟩
  | object entries => cases entries <;> exact ⟨_, _, by rw [JsonValue.print], by decide, by decide⟩

theorem skip_print (fmt : FloatFormat F) (v : JsonValue F) (rest : Text) :
    ∃ c tail, v.print fmt ++ rest = c :: tail ∧ c ≠ code ']' ∧
      skip (v.print fmt ++ rest) = c :: tail := by
  obtain ⟨c, tail, hprint, hspace, hbracket⟩ := head_print fmt v
  refine ⟨c, tail ++ rest, by rw [hprint]; rfl, hbracket, ?_⟩
  rw [hprint, List.cons_append, skip_cons hspace]

/-- The items of an array, up to the closing bracket. -/
def printFrom (fmt : FloatFormat F) : List (JsonValue F) → Text
  | [] => []
  | v :: items => v.print fmt ++ JsonValue.printItems fmt items

/-- The entries of an object, up to the closing brace. -/
def printEntriesFrom (fmt : FloatFormat F) : List (Text × JsonValue F) → Text
  | [] => []
  | (k, v) :: entries =>
    printString k ++ code ':' :: (v.print fmt ++ JsonValue.printEntries fmt entries)

theorem readKey_print (k rest : Text) (hrest : skip rest = rest) :
    readKey (printString k ++ code ':' :: rest) = some (k, rest) := by
  have hcolon : skip (code ':' :: rest) = code ':' :: rest := skip_cons rfl rest
  have hread := readString_print k (code ':' :: rest)
  simp only [printString, List.cons_append, List.append_assoc, List.nil_append]
  rw [readKey, if_pos rfl, hread]
  simp only [hcolon, if_true, hrest]

theorem length_printFrom (fmt : FloatFormat F) {items : List (JsonValue F)} (h : items ≠ []) :
    ((JsonValue.array items).print fmt).length = (printFrom fmt items).length + 1 := by
  obtain ⟨v, items, rfl⟩ := List.exists_cons_of_ne_nil h
  rw [JsonValue.print, printFrom, List.length_cons]

theorem length_printItems (fmt : FloatFormat F) {items : List (JsonValue F)} (h : items ≠ []) :
    (JsonValue.printItems fmt items).length = (printFrom fmt items).length + 1 := by
  obtain ⟨v, items, rfl⟩ := List.exists_cons_of_ne_nil h
  rw [JsonValue.printItems, printFrom, List.length_cons]

theorem length_printEntriesFrom (fmt : FloatFormat F) {entries : List (Text × JsonValue F)}
    (h : entries ≠ []) :
    ((JsonValue.object entries).print fmt).length = (printEntriesFrom fmt entries).length + 1 := by
  obtain ⟨⟨k, v⟩, entries, rfl⟩ := List.exists_cons_of_ne_nil h
  rw [JsonValue.print, printEntriesFrom, List.length_cons]

theorem length_printEntries (fmt : FloatFormat F) {entries : List (Text × JsonValue F)}
    (h : entries ≠ []) :
    (JsonValue.printEntries fmt entries).length = (printEntriesFrom fmt entries).length + 1 := by
  obtain ⟨⟨k, v⟩, entries, rfl⟩ := List.exists_cons_of_ne_nil h
  rw [JsonValue.printEntries, printEntriesFrom, List.length_cons]

theorem readValue_string (s : Text) (fuel : Nat) (rest : Text) :
    readValue fmt (fuel + 1) ((JsonValue.string s).print fmt ++ rest) = some (.string s, rest) := by
  have hread := readString_print s rest
  simp only [JsonValue.print, printString, List.cons_append, List.append_assoc, List.nil_append]
  rw [readValue, if_pos rfl, hread]
  rfl

/-- An array is read back if its items are. -/
theorem readValue_array {items : List (JsonValue F)} {fuel : Nat} {rest : Text}
    (hitems : items ≠ [] →
      readItems fmt fuel (printFrom fmt items ++ rest) = some (items, rest)) :
    readValue fmt (fuel + 1) ((JsonValue.array items).print fmt ++ rest)
      = some (.array items, rest) := by
  have hquote : ¬ code '[' = code '"' := by decide
  cases items with
  | nil =>
    have hskip : skip (code ']' :: rest) = code ']' :: rest := skip_cons rfl rest
    have hprint : (JsonValue.array []).print fmt ++ rest = code '[' :: code ']' :: rest := by
      rw [JsonValue.print]
      rfl
    rw [hprint, readValue, if_neg hquote, if_pos rfl, hskip]
    exact if_pos rfl
  | cons v items =>
    obtain ⟨c, tail, hcons, hbracket, hskip⟩ := skip_print fmt v
      (JsonValue.printItems fmt items ++ rest)
    have hread := hitems (List.cons_ne_nil _ _)
    rw [printFrom, List.append_assoc, hcons] at hread
    have hprint : (JsonValue.array (v :: items)).print fmt ++ rest
        = code '[' :: (v.print fmt ++ (JsonValue.printItems fmt items ++ rest)) := by
      rw [JsonValue.print, List.cons_append, List.append_assoc]
    rw [hprint, readValue, if_neg hquote, if_pos rfl, hskip]
    dsimp only
    rw [if_neg hbracket, hread]
    rfl

/-- An object is read back if its entries are. -/
theorem readValue_object {entries : List (Text × JsonValue F)} {fuel : Nat} {rest : Text}
    (hentries : entries ≠ [] →
      readEntries fmt fuel (printEntriesFrom fmt entries ++ rest) = some (entries, rest)) :
    readValue fmt (fuel + 1) ((JsonValue.object entries).print fmt ++ rest)
      = some (.object entries, rest) := by
  have hquote : ¬ code '{' = code '"' := by decide
  have hbracket : ¬ code '{' = code '[' := by decide
  cases entries with
  | nil =>
    have hskip : skip (code '}' :: rest) = code '}' :: rest := skip_cons rfl rest
    have hprint : (JsonValue.object []).print fmt ++ rest = code '{' :: code '}' :: rest := by
      rw [JsonValue.print]
      rfl
    rw [hprint, readValue, if_neg hquote, if_neg hbracket, if_pos rfl, hskip]
    exact if_pos rfl
  | cons entry entries =>
    obtain ⟨k, v⟩ := entry
    have hread := hentries (List.cons_ne_nil _ _)
    have hskip : skip (printEntriesFrom fmt ((k, v) :: entries) ++ rest)
        = printEntriesFrom fmt ((k, v) :: entries) ++ rest := skip_cons rfl _
    have hprint : (JsonValue.object ((k, v) :: entries)).print fmt ++ rest
        = code '{' :: (printEntriesFrom fmt ((k, v) :: entries) ++ rest) := by
      rw [JsonValue.print, List.cons_append, printEntriesFrom]
    have hbrace : ¬ code '"' = code '}' := by decide
    rw [hprint, readValue, if_neg hquote, if_neg hbracket, if_pos rfl, hskip]
    rw [printEntriesFrom, printString, List.cons_append, List.cons_append] at hread ⊢
    dsimp only
    rw [if_neg hbrace, hread]
    rfl

/-- The items are read back if the first one and those behind it are. -/
theorem readItems_cons {v : JsonValue F} {items : List (JsonValue F)} {fuel : Nat} {rest : Text}
    (hfirst : readValue fmt fuel (v.print fmt ++ (JsonValue.printItems fmt items ++ rest))
      = some (v, JsonValue.printItems fmt items ++ rest))
    (hitems : items ≠ [] →
      readItems fmt fuel (printFrom fmt items ++ rest) = some (items, rest)) :
    readItems fmt (fuel + 1) (printFrom fmt (v :: items) ++ rest) = some (v :: items, rest) := by
  rw [printFrom, List.append_assoc, readItems, hfirst]
  cases items with
  | nil =>
    have hskip : skip (code ']' :: rest) = code ']' :: rest := skip_cons rfl rest
    simp only [JsonValue.printItems, List.cons_append, List.nil_append, hskip, if_true]
  | cons v' items =>
    obtain ⟨c, tail, hcons, -, hskip'⟩ := skip_print fmt v'
      (JsonValue.printItems fmt items ++ rest)
    have hskip : ∀ rest, skip (code ',' :: rest) = code ',' :: rest := fun rest => skip_cons rfl rest
    have hbracket : ¬ code ',' = code ']' := by decide
    have hread := hitems (List.cons_ne_nil _ _)
    rw [printFrom, List.append_assoc, hcons] at hread
    simp only [JsonValue.printItems, List.cons_append, List.append_assoc, hskip, if_neg hbracket,
      if_true, hskip', hread]
    rfl

theorem readEntries_cons {k : Text} {v : JsonValue F} {entries : List (Text × JsonValue F)}
    {fuel : Nat} {rest : Text}
    (hfirst : readValue fmt fuel (v.print fmt ++ (JsonValue.printEntries fmt entries ++ rest))
      = some (v, JsonValue.printEntries fmt entries ++ rest))
    (hentries : entries ≠ [] →
      readEntries fmt fuel (printEntriesFrom fmt entries ++ rest) = some (entries, rest)) :
    readEntries fmt (fuel + 1) (printEntriesFrom fmt ((k, v) :: entries) ++ rest)
      = some ((k, v) :: entries, rest) := by
  obtain ⟨c, tail, hcons, -, hskip⟩ := skip_print fmt v
    (JsonValue.printEntries fmt entries ++ rest)
  have hkey := readKey_print k (v.print fmt ++ (JsonValue.printEntries fmt entries ++ rest))
    (hskip.trans hcons.symm)
  have hprint : printEntriesFrom fmt ((k, v) :: entries) ++ rest = printString k
      ++ code ':' :: (v.print fmt ++ (JsonValue.printEntries fmt entries ++ rest)) := by
    rw [printEntriesFrom, List.append_assoc, List.cons_append, List.append_assoc]
  rw [hprint, readEntries, hkey]
  dsimp only
  rw [hfirst]
  cases entries with
  | nil =>
    have hskip : skip (code '}' :: rest) = code '}' :: rest := skip_cons rfl rest
    simp only [JsonValue.printEntries, List.cons_append, List.nil_append, hskip, if_true]
  | cons entry entries =>
    obtain ⟨k', v'⟩ := entry
    have hskip : ∀ rest, skip (code ',' :: rest) = code ',' :: rest := fun rest => skip_cons rfl rest
    have hskip' : skip (printEntriesFrom fmt ((k', v') :: entries) ++ rest)
        = printEntriesFrom fmt ((k', v') :: entries) ++ rest := skip_cons rfl _
    have hprint' : JsonValue.printEntries fmt ((k', v') :: entries) ++ rest
        = code ',' :: (printEntriesFrom fmt ((k', v') :: entries) ++ rest) := by
      rw [JsonValue.printEntries, printEntriesFrom, List.cons_append]
    have hbrace : ¬ code ',' = code '}' := by decide
    have hread := hentries (List.cons_ne_nil _ _)
    simp only [hprint', hskip, if_neg hbrace, if_true, hskip', hread]
    rfl

theorem stops_printItems (items : List (JsonValue F)) (rest : Text) :
    Stops (JsonValue.printItems fmt items ++ rest) := by
  intro c hc
  cases items with
  | nil =>
    rw [JsonValue.printItems] at hc
    cases hc
    decide
  | cons v items =>
    rw [JsonValue.printItems] at hc
    cases hc
    decide

theorem stops_printEntries (entries : List (Text × JsonValue F)) (rest : Text) :
    Stops (JsonValue.printEntries fmt entries ++ rest) := by
  intro c hc
  cases entries with
  | nil =>
    rw [JsonValue.printEntries] at hc
    cases hc
    decide
  | cons entry entries =>
    rw [JsonValue.printEntries] at hc
    cases hc
    decide

mutual

/-- A value is read back, where the text behind it does not go on with it. -/
theorem readValue_print : ∀ (v : JsonValue F) (fuel : Nat) (rest : Text),
    2 * (v.print fmt ++ rest).length + 1 ≤ fuel → Stops rest →
      readValue fmt fuel (v.print fmt ++ rest) = some (v, rest)
  | _, 0, _, hfuel, _ => by omega
  | .null, fuel + 1, _, _, hrest => IsAtom.null.readValue_print fuel hrest
  | .bool b, fuel + 1, _, _, hrest => (IsAtom.bool b).readValue_print fuel hrest
  | .int n, fuel + 1, _, _, hrest => (IsAtom.int n).readValue_print fuel hrest
  | .float x, fuel + 1, _, _, hrest => (IsAtom.float x).readValue_print fuel hrest
  | .nonFinite x, fuel + 1, _, _, hrest => (IsAtom.nonFinite x).readValue_print fuel hrest
  | .string s, fuel + 1, rest, _, _ => readValue_string s fuel rest
  | .array items, fuel + 1, rest, hfuel, _ => readValue_array fun hne =>
    readItems_print items fuel rest hne (by
      have hlength := length_printFrom fmt hne
      simp only [List.length_append] at hfuel ⊢
      omega)
  | .object entries, fuel + 1, rest, hfuel, _ => readValue_object fun hne =>
    readEntries_print entries fuel rest hne (by
      have hlength := length_printEntriesFrom fmt hne
      simp only [List.length_append] at hfuel ⊢
      omega)

theorem readItems_print : ∀ (items : List (JsonValue F)) (fuel : Nat) (rest : Text),
    items ≠ [] → 2 * (printFrom fmt items ++ rest).length + 2 ≤ fuel →
      readItems fmt fuel (printFrom fmt items ++ rest) = some (items, rest)
  | [], _, _, hne, _ => absurd rfl hne
  | _ :: _, 0, _, _, hfuel => by omega
  | v :: items, fuel + 1, rest, _, hfuel => by
    rw [printFrom, List.append_assoc] at hfuel
    refine readItems_cons (readValue_print v fuel _ (by omega) (stops_printItems items rest)) ?_
    intro hne
    refine readItems_print items fuel rest hne ?_
    have hlength := length_printItems fmt hne
    simp only [List.length_append] at hfuel ⊢
    omega

theorem readEntries_print : ∀ (entries : List (Text × JsonValue F)) (fuel : Nat) (rest : Text),
    entries ≠ [] → 2 * (printEntriesFrom fmt entries ++ rest).length + 2 ≤ fuel →
      readEntries fmt fuel (printEntriesFrom fmt entries ++ rest) = some (entries, rest)
  | [], _, _, hne, _ => absurd rfl hne
  | _ :: _, 0, _, _, hfuel => by omega
  | (k, v) :: entries, fuel + 1, rest, _, hfuel => by
    have hlength : (printEntriesFrom fmt ((k, v) :: entries) ++ rest).length
        = (printString k).length + 1
          + (v.print fmt ++ (JsonValue.printEntries fmt entries ++ rest)).length := by
      simp only [printEntriesFrom, List.length_append, List.length_cons]
      omega
    refine readEntries_cons
      (readValue_print v fuel _ (by omega) (stops_printEntries entries rest)) ?_
    intro hne
    refine readEntries_print entries fuel rest hne ?_
    have hentries := length_printEntries fmt hne
    simp only [List.length_append] at hfuel hlength ⊢
    omega

end

theorem printEntries_last (fmt : FloatFormat F) (entries : List (Text × JsonValue F)) :
    ∃ mid, JsonValue.printEntries fmt entries = mid ++ [code '}'] := by
  induction entries with
  | nil => exact ⟨[], rfl⟩
  | cons entry entries ih =>
    obtain ⟨k, v⟩ := entry
    obtain ⟨mid, hmid⟩ := ih
    refine ⟨code ',' :: (printString k ++ code ':' :: (v.print fmt ++ mid)), ?_⟩
    simp only [JsonValue.printEntries, hmid, List.cons_append, List.append_assoc]

/-- An object stands between braces. -/
theorem print_object (fmt : FloatFormat F) (entries : List (Text × JsonValue F)) :
    ∃ mid, (JsonValue.object entries).print fmt = code '{' :: (mid ++ [code '}']) := by
  cases entries with
  | nil => exact ⟨[], rfl⟩
  | cons entry entries =>
    obtain ⟨k, v⟩ := entry
    obtain ⟨mid, hmid⟩ := printEntries_last fmt entries
    refine ⟨printString k ++ code ':' :: (v.print fmt ++ mid), ?_⟩
    simp only [JsonValue.print, hmid, List.cons_append, List.append_assoc]

/-- The text of a value is read as this value. -/
theorem loads_print (v : JsonValue F) : loads fmt (v.print fmt) = some v := by
  obtain ⟨c, tail, hcons, -, hskip⟩ := skip_print fmt v []
  rw [List.append_nil] at hcons hskip
  have hread : readValue fmt (2 * (v.print fmt).length + 1) (v.print fmt ++ []) = some (v, []) :=
    readValue_print v _ [] (by simp) stops_nil
  rw [List.append_nil] at hread
  rw [loads, hskip, ← hcons, hread]
  rfl

end AsyncViz.Lib.Json
