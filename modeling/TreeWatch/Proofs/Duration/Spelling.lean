import TreeWatch.Duration
import TreeWatch.Proofs.Text.Letters

/-!
# Spellings of lengths of time

A length of time is spelled as a number in decimal digits and a unit in any case, with blanks around
both (`Duration.Spells`). These texts and no others are read (`Duration.parse_eq_ok_iff_spells`). The
place of the unit is counted in characters and the text is cut at as many bytes, which is the same
place, since all characters before it are digits.
-/

namespace TreeWatch

namespace Text

variable {lead core trail : List Char} {c : Char}

theorem exists_trimChars (cs : List Char) : ∃ lead trail, cs = lead ++ trimChars cs ++ trail ∧
    (∀ c ∈ lead, isBlank c = true) ∧ ∀ c ∈ trail, isBlank c = true := by
  refine ⟨cs.takeWhile isBlank, ((cs.dropWhile isBlank).reverse.takeWhile isBlank).reverse, ?_,
    fun c hc => List.mem_takeWhile_imp hc,
    fun c hc => List.mem_takeWhile_imp (List.mem_reverse.1 hc)⟩
  rw [trimChars, List.append_assoc, ← List.reverse_append, List.takeWhile_append_dropWhile,
    List.reverse_reverse, List.takeWhile_append_dropWhile]

theorem trimChars_append (hlead : ∀ c ∈ lead, isBlank c = true)
    (htrail : ∀ c ∈ trail, isBlank c = true) (hne : core ≠ [])
    (hhead : isBlank (core.head hne) = false) (hlast : isBlank (core.getLast hne) = false) :
    trimChars (lead ++ core ++ trail) = core := by
  have hstart : (core ++ trail).dropWhile isBlank = core ++ trail := by
    rw [List.dropWhile_eq_self_iff]
    intro hlength
    rw [List.getElem_append_left (List.length_pos_of_ne_nil hne), ← List.head_eq_getElem hne, hhead]
    exact Bool.false_ne_true
  have hend : core.reverse.dropWhile isBlank = core.reverse := by
    rw [List.dropWhile_eq_self_iff]
    intro hlength
    rw [← List.head_eq_getElem (by simpa using hne), List.head_reverse, hlast]
    exact Bool.false_ne_true
  rw [trimChars, List.append_assoc, List.dropWhile_append_of_pos hlead, hstart,
    List.reverse_append, List.dropWhile_append_of_pos (by simpa using htrail), hend,
    List.reverse_reverse]

theorem not_isBlank_of_isDigit (h : c.isDigit = true) : isBlank c = false := by
  have hrange : 0x30 ≤ c.toNat ∧ c.toNat ≤ 0x39 := Char.isDigit_iff_toNat.1 h
  rw [← Bool.not_eq_true, isBlank, CodeSpan.anyContains_iff]
  rintro ⟨s, hs, hfirst, hlast⟩
  have hspans : ∀ s ∈ blankSpans, s.last < 0x30 ∨ 0x39 < s.first := by decide
  have := hspans s hs
  omega

theorem IsSteady.plain (h : IsSteady c.toLower) : isBlank c = false ∧ c.isDigit = false := by
  generalize hw : c.toLower = w at h
  rcases (toLower_eq_iff h.isLower).1 hw with rfl | rfl
  · rcases h with rfl | rfl | rfl <;> decide
  · rcases h with rfl | rfl | rfl <;> decide

end Text

namespace Duration

variable {digits rest unit cs as : List Char} {c : Char} {n : ℕ} {d : Duration}

/-! ## Cutting a text -/

theorem cutAt?_append (h : ∀ c ∈ as, c.utf8Size = 1) (bs : List Char) :
    cutAt? as.length (as ++ bs) = some (as, bs) := by
  induction as with
  | nil => rw [List.length_nil, List.nil_append, cutAt?]
  | cons a as ih =>
      obtain ⟨ha, has⟩ := List.forall_mem_cons.1 h
      rw [List.length_cons, List.cons_append, cutAt?, ha, if_pos (Nat.le_add_left 1 _),
        Nat.add_sub_cancel, ih has]

theorem utf8Size_of_isDigit (h : c.isDigit = true) : c.utf8Size = 1 := by
  have hrange : 0x30 ≤ c.toNat ∧ c.toNat ≤ 0x39 := Char.isDigit_iff_toNat.1 h
  rw [Char.utf8Size_eq_one_iff, UInt32.le_iff_toNat_le]
  exact hrange.2.trans (by decide)

/-- The first character that is no digit comes after all digits at the start. -/
theorem findIdx?_append_of_isDigit (hdigits : ∀ c ∈ digits, c.isDigit = true)
    (hc : c.isDigit = false) : ((digits ++ c :: rest).findIdx? fun c => !c.isDigit)
      = some digits.length := by
  have hnone : (digits.findIdx? fun c => !c.isDigit) = none := by
    simpa [List.findIdx?_eq_none_iff] using hdigits
  rw [List.findIdx?_append, hnone, List.findIdx?_cons, hc]
  simp

theorem parseTrimmed_append (hdigits : ∀ c ∈ digits, c.isDigit = true) (hc : c.isDigit = false) :
    parseTrimmed (digits ++ c :: rest) = parseParts digits (c :: rest) := by
  have hcut := cutAt?_append (fun c hc => utf8Size_of_isDigit (hdigits c hc)) (c :: rest)
  rw [parseTrimmed, if_neg (by simp)]
  simp only [findIdx?_append_of_isDigit hdigits hc, hcut]

theorem parseTrimmed_of_isDigit (hne : digits ≠ []) (hdigits : ∀ c ∈ digits, c.isDigit = true) :
    parseTrimmed digits = .error .noUnit := by
  have hnone : (digits.findIdx? fun c => !c.isDigit) = none := by
    simpa [List.findIdx?_eq_none_iff] using hdigits
  rw [parseTrimmed, if_neg hne]
  simp only [hnone]

/-- A text that is to be read is empty, or it holds digits only, or it is cut after those at its
start. -/
theorem parseTrimmed_cases {motive : List Char → Prop} (nil : motive [])
    (numeral : ∀ digits, digits ≠ [] → (∀ c ∈ digits, c.isDigit = true) → motive digits)
    (cut : ∀ digits c rest, (∀ c ∈ digits, c.isDigit = true) → c.isDigit = false →
      motive (digits ++ c :: rest)) (cs : List Char) : motive cs := by
  have hdigits : ∀ c ∈ cs.takeWhile Char.isDigit, c.isDigit = true :=
    fun c hc => List.mem_takeWhile_imp hc
  have hcs := cs.takeWhile_append_dropWhile (p := Char.isDigit)
  cases hrest : cs.dropWhile Char.isDigit with
  | nil =>
      rw [hrest, List.append_nil] at hcs
      by_cases hnil : cs = []
      · exact hnil ▸ nil
      · exact numeral cs hnil (hcs ▸ hdigits)
  | cons c rest =>
      rw [← hcs, hrest]
      refine cut _ c rest hdigits ?_
      have hhead := List.head?_dropWhile_not Char.isDigit cs
      simpa [hrest] using hhead

/-! ## Numbers and units -/

def denoted (digits : List Char) : ℕ :=
  Nat.ofDigits 10 (digits.reverse.map fun c => c.toNat - '0'.toNat)

theorem digitsValue_eq_denoted (digits : List Char) : digitsValue digits = denoted digits := by
  induction digits using List.reverseRecOn with
  | nil => rfl
  | append_singleton digits c ih =>
      rw [denoted, List.reverse_concat, List.map_cons, Nat.ofDigits_cons, ← denoted, ← ih,
        digitsValue, List.foldl_concat]
      simp only [digitsValue]
      omega

/-- So many of a unit, whose letters are written in any case, are a length of time. Minutes and
hours are counted in seconds, of which there are no more than fit in 64 bits. -/
inductive Measures (n : ℕ) (unit : List Char) : Duration → Prop where
  | milliseconds (h : unit.map Char.toLower = ['m', 's']) : Measures n unit ⟨n * 10 ^ 6⟩
  | seconds (h : unit.map Char.toLower = ['s']) : Measures n unit ⟨n * 10 ^ 9⟩
  | minutes (h : unit.map Char.toLower = ['m']) :
      Measures n unit ⟨min (n * 60) (2 ^ 64 - 1) * 10 ^ 9⟩
  | hours (h : unit.map Char.toLower = ['h']) :
      Measures n unit ⟨min (n * 3600) (2 ^ 64 - 1) * 10 ^ 9⟩

/-- A text that is a word of steady letters in plain letters of any case. -/
theorem steady_of_map_toLower {ws : List Char} (hne : ws ≠ []) (hws : ∀ w ∈ ws, Text.IsSteady w)
    (h : unit.map Char.toLower = ws) : unit ≠ [] ∧ ∀ c ∈ unit, Text.IsSteady c.toLower := by
  subst h
  exact ⟨by simpa using hne, fun c hc => hws _ (List.mem_map_of_mem hc)⟩

theorem Measures.steady (h : Measures n unit d) :
    unit ≠ [] ∧ ∀ c ∈ unit, Text.IsSteady c.toLower := by
  cases h with
  | milliseconds h => exact steady_of_map_toLower (by simp) (by simp [Text.IsSteady]) h
  | seconds h => exact steady_of_map_toLower (by simp) (by simp [Text.IsSteady]) h
  | minutes h => exact steady_of_map_toLower (by simp) (by simp [Text.IsSteady]) h
  | hours h => exact steady_of_map_toLower (by simp) (by simp [Text.IsSteady]) h

theorem ofList_lowerChars_eq_iff (unit : List Char) (word : String)
    (h : ∀ w ∈ word.toList, Text.IsSteady w) :
    String.ofList (Text.lowerChars unit) = word ↔ unit.map Char.toLower = word.toList := by
  rw [← Text.lowerChars_eq_iff h, ← String.toList_inj, String.toList_ofList]

/-- The units that are known in lower case are those that measure something in any case. -/
theorem ofUnit?_eq_some_iff :
    ofUnit? n (String.ofList (Text.lowerChars unit)) = some d ↔ Measures n unit d := by
  have hms := ofList_lowerChars_eq_iff unit "ms" (by simp [Text.IsSteady])
  have hs := ofList_lowerChars_eq_iff unit "s" (by simp [Text.IsSteady])
  have hm := ofList_lowerChars_eq_iff unit "m" (by simp [Text.IsSteady])
  have hh := ofList_lowerChars_eq_iff unit "h" (by simp [Text.IsSteady])
  simp only [ofUnit?, hms, hs, hm, hh]
  constructor
  · intro h
    split_ifs at h with hunit hunit hunit hunit
    · exact Option.some.inj h ▸ .milliseconds hunit
    · exact Option.some.inj h ▸ .seconds hunit
    · exact Option.some.inj h ▸ .minutes hunit
    · exact Option.some.inj h ▸ .hours hunit
  · intro h
    cases h with
    | milliseconds h => simp [h, ofMillis]
    | seconds h => simp [h, ofSeconds]
    | minutes h => simp [h, cappedSeconds, ofSeconds, countLimit, UInt64.size]
    | hours h => simp [h, cappedSeconds, ofSeconds, countLimit, UInt64.size]

theorem parseParts_eq_ok_iff : parseParts digits rest = .ok d ↔
    digits ≠ [] ∧ denoted digits < 2 ^ 64 ∧ Measures (denoted digits) (Text.trimChars rest) d := by
  have hlimit : ¬ countLimit < denoted digits ↔ denoted digits < 2 ^ 64 := by
    rw [countLimit, UInt64.size]
    omega
  rw [parseParts, ← hlimit, ← ofUnit?_eq_some_iff, digitsValue_eq_denoted]
  by_cases hne : digits = []
  · simp [hne]
  · by_cases hcount : countLimit < denoted digits
    · simp [hne, hcount]
    · cases hunit : ofUnit? (denoted digits)
          (String.ofList (Text.lowerChars (Text.trimChars rest))) with
      | none => simp [hne, hcount, hunit]
      | some t => simp [hne, hcount, hunit]

/-! ## Spellings -/

/-- The parts of a text that spells a length of time: digits and a unit, with blanks around both. -/
structure Parts (cs : List Char) (d : Duration) (lead digits between unit trail : List Char) :
    Prop where
  eq_append : cs = lead ++ (digits ++ (between ++ unit)) ++ trail
  blank_lead : ∀ c ∈ lead, Text.isBlank c = true
  blank_between : ∀ c ∈ between, Text.isBlank c = true
  blank_trail : ∀ c ∈ trail, Text.isBlank c = true
  digits_ne_nil : digits ≠ []
  isDigit : ∀ c ∈ digits, c.isDigit = true
  denoted_lt : denoted digits < 2 ^ 64
  measures : Measures (denoted digits) unit d

def Spells (cs : List Char) (d : Duration) : Prop :=
  ∃ lead digits between unit trail, Parts cs d lead digits between unit trail

section Parts

variable {lead between trail : List Char}

/-- Digits and a unit are what is left of a text without the blanks at its ends. -/
theorem Parts.trimChars_eq (h : Parts cs d lead digits between unit trail) :
    Text.trimChars cs = digits ++ (between ++ unit) := by
  obtain ⟨hunit, hsteady⟩ := h.measures.steady
  have hne : digits ++ (between ++ unit) ≠ [] := by simp [h.digits_ne_nil]
  rw [h.eq_append]
  apply Text.trimChars_append h.blank_lead h.blank_trail hne
  · rw [List.head_append_of_ne_nil h.digits_ne_nil]
    exact Text.not_isBlank_of_isDigit (h.isDigit _ (List.head_mem _))
  · rw [List.getLast_append_of_ne_nil _ (by simpa using fun _ => hunit),
      List.getLast_append_of_ne_nil _ hunit]
    exact (hsteady _ (List.getLast_mem hunit)).plain.1

/-- A unit is what is left after the digits, without the blanks before it. -/
theorem Parts.trimChars_rest (h : Parts cs d lead digits between unit trail) :
    Text.trimChars (between ++ unit) = unit := by
  obtain ⟨hunit, hsteady⟩ := h.measures.steady
  have hnil : ∀ c ∈ ([] : List Char), Text.isBlank c = true := by simp
  have htrim := Text.trimChars_append h.blank_between hnil hunit
    (hsteady _ (List.head_mem hunit)).plain.1 (hsteady _ (List.getLast_mem hunit)).plain.1
  rwa [List.append_nil] at htrim

theorem Parts.exists_cons (h : Parts cs d lead digits between unit trail) :
    ∃ c rest, between ++ unit = c :: rest ∧ c.isDigit = false := by
  obtain ⟨hunit, hsteady⟩ := h.measures.steady
  cases hbetween : between with
  | nil =>
      obtain ⟨c, rest, rfl⟩ := List.exists_cons_of_ne_nil hunit
      exact ⟨c, rest, rfl, (hsteady c List.mem_cons_self).plain.2⟩
  | cons c rest =>
      refine ⟨c, rest ++ unit, rfl, Bool.eq_false_iff.2 fun hdigit => ?_⟩
      have hblank := h.blank_between c (hbetween ▸ List.mem_cons_self)
      rw [Text.not_isBlank_of_isDigit hdigit] at hblank
      contradiction

theorem Parts.parse_eq {s : String} (h : Parts s.toList d lead digits between unit trail) :
    parse s = .ok d := by
  obtain ⟨c, rest, hrest, hc⟩ := h.exists_cons
  rw [parse, h.trimChars_eq, hrest, parseTrimmed_append h.isDigit hc, parseParts_eq_ok_iff,
    ← hrest, h.trimChars_rest]
  exact ⟨h.digits_ne_nil, h.denoted_lt, h.measures⟩

end Parts

/-- What is read of a text without blanks at its ends are its parts. -/
theorem exists_parts_of_parseTrimmed (h : parseTrimmed cs = .ok d) :
    ∃ digits between unit trail, Parts cs d [] digits between unit trail := by
  induction cs using parseTrimmed_cases with
  | nil => cases h
  | numeral digits hne hdigits =>
      rw [parseTrimmed_of_isDigit hne hdigits] at h
      cases h
  | cut digits c rest hdigits hc =>
      rw [parseTrimmed_append hdigits hc, parseParts_eq_ok_iff] at h
      obtain ⟨hne, hlt, hmeasures⟩ := h
      obtain ⟨between, trail, hrest, hbetween, htrail⟩ := Text.exists_trimChars (c :: rest)
      refine ⟨digits, between, _, trail, ?_, by simp, hbetween, htrail, hne, hdigits, hlt,
        hmeasures⟩
      rw [List.nil_append, List.append_assoc digits, ← hrest]

theorem parse_ne_cutInside (s : String) (offset : ℕ) : parse s ≠ .error (.cutInside offset) := by
  rw [parse]
  induction Text.trimChars s.toList using parseTrimmed_cases with
  | nil => simp [parseTrimmed]
  | numeral digits hne hdigits => simp [parseTrimmed_of_isDigit hne hdigits]
  | cut digits c rest hdigits hc =>
      rw [parseTrimmed_append hdigits hc, parseParts]
      dsimp only
      split
      · simp
      · split
        · simp
        · split <;> simp

/-- A text is read just if it spells a length of time, and as the one that it spells. No text is cut
inside a character. -/
theorem parse_eq_ok_iff_spells (s : String) :
    (∀ d, parse s = .ok d ↔ Spells s.toList d) ∧
    ∀ offset, parse s ≠ .error (.cutInside offset) := by
  refine ⟨fun d => ⟨fun h => ?_, ?_⟩, parse_ne_cutInside s⟩
  · obtain ⟨lead, trail, hs, hlead, htrail⟩ := Text.exists_trimChars s.toList
    obtain ⟨digits, between, unit, trail', hparts⟩ := exists_parts_of_parseTrimmed h
    refine ⟨lead, digits, between, unit, trail' ++ trail, ?_, hlead, hparts.blank_between, ?_,
      hparts.digits_ne_nil, hparts.isDigit, hparts.denoted_lt, hparts.measures⟩
    · rw [hparts.eq_append] at hs
      simpa using hs
    · intro c hc
      exact (List.mem_append.1 hc).elim (hparts.blank_trail c) (htrail c)
  · rintro ⟨lead, digits, between, unit, trail, hparts⟩
    exact hparts.parse_eq

/-- A number and a unit may stand apart, between blanks of any kind; other digits and other signs
for letters are not read. -/
example : (parse "\u3000007\u00A0Ms\n", parse "٣s", parse "3ſ")
    = (.ok ⟨7000000⟩, .error .noNumber, .error (.unknownUnit "ſ")) := by
  decide +kernel

end Duration

end TreeWatch
