import LiveTable.Cell.Age
import LiveTable.Cell.Quantity
import Mathlib.Data.List.TakeWhile

namespace LiveTable

theorem mem_past (p : Char → Bool) (c : Char) (other : p c = false) (cs : List Char) (member : c ∈ cs) :
    c ∈ cs.dropWhile p := by
  rw [← List.takeWhile_append_dropWhile (p := p) (l := cs), List.mem_append] at member
  rcases member with passed | rest
  · exact absurd (List.mem_takeWhile_imp passed) (by simp [other])
  · exact rest

theorem Text.mem_trimmed (c : Char) (visible : isBlank c = false) (cs : List Char) (member : c ∈ cs) :
    c ∈ trimChars cs := by
  have first := mem_past isBlank c visible cs member
  have last := mem_past isBlank c visible _ (List.mem_reverse.mpr first)
  exact List.mem_reverse.mpr last

namespace Reading

theorem sign_keeps (cs : List Char) (comma : ',' ∈ cs) : ',' ∈ (sign cs).2 := by
  unfold sign
  split
  · simpa using comma
  · simpa using comma
  · exact comma

theorem exponent_comma (cs : List Char) (e : Int) (read : exponent? cs = some e) : ',' ∉ cs := by
  intro comma
  cases cs with
  | nil => cases comma
  | cons c cs =>
      rw [exponent?, Option.ite_none_right_eq_some] at read
      dsimp only at read
      obtain ⟨marked, read⟩ := read
      rw [Option.ite_none_left_eq_some] at read
      have digits : ((sign cs).2).all isDigit = true := by
        have all := read.1
        simp only [Bool.or_eq_true, Bool.not_eq_true', not_or] at all
        simpa using all.2
      cases comma with
      | head => simp at marked
      | tail _ inside => exact absurd (List.all_eq_true.mp digits ',' (sign_keeps cs inside)) (by decide)

theorem unsigned_comma (cs : List Char) (x : Float) (read : unsignedFloat? cs = some x) : ',' ∉ cs := by
  intro comma
  have behind := mem_past isDigit ',' (by decide) cs comma
  simp only [unsignedFloat?, Option.ite_none_left_eq_some, Option.map_eq_some_iff] at read
  obtain ⟨_, e, found, _⟩ := read
  refine exponent_comma _ e found ?_
  split
  · rename_i rest point
    rw [point] at behind
    exact mem_past isDigit ',' (by decide) rest (by simpa using behind)
  · exact behind

theorem word_comma (cs : List Char) (x : Float) (read : word? cs = some x) : ',' ∉ cs := by
  intro comma
  have lower : ',' ∈ (String.ofList (cs.map Char.toLower)).toList := by
    rw [String.toList_ofList]
    exact List.mem_map.mpr ⟨',', comma, by decide⟩
  unfold word? at read
  dsimp only at read
  generalize String.ofList (cs.map Char.toLower) = w at read lower
  by_cases infinite : (w == "inf" || w == "infinity") = true
  · rcases Bool.or_eq_true _ _ ▸ infinite with short | long
    · rw [beq_iff_eq.mp short] at lower
      exact absurd lower (by decide)
    · rw [beq_iff_eq.mp long] at lower
      exact absurd lower (by decide)
  · rw [if_neg infinite, Option.ite_none_right_eq_some] at read
    rw [beq_iff_eq.mp read.1] at lower
    exact absurd lower (by decide)

theorem float_comma (cs : List Char) (x : Float) (read : floatOfChars? cs = some x) : ',' ∉ cs := by
  intro comma
  have behind := sign_keeps cs comma
  unfold floatOfChars? at read
  dsimp only at read
  cases number : unsignedFloat? (sign cs).2 with
  | some y => exact unsigned_comma _ y number behind
  | none =>
      cases word : word? (sign cs).2 with
      | some y => exact word_comma _ y word behind
      | none => simp [number, word] at read

end Reading

namespace Quantity

theorem strip_end_keeps (unit : String) (cs number : List Char) (free : ',' ∉ unit.toList)
    (stripped : stripEnd? unit cs = some number) (comma : ',' ∈ cs) : ',' ∈ number := by
  rw [stripEnd?, Option.ite_none_right_eq_some, Option.some.injEq] at stripped
  obtain ⟨ending, rfl⟩ := stripped
  obtain ⟨before, rfl⟩ := List.isSuffixOf_iff_suffix.mp ending
  rcases List.mem_append.mp comma with inside | last
  · simpa using inside
  · exact absurd last free

theorem units_free : ∀ entry ∈ binaryUnits ++ decimalUnits, ',' ∉ entry.1.toList := by decide

theorem split_unit_keeps (cs : List Char) (comma : ',' ∈ cs) : ',' ∈ (splitUnit cs).1 := by
  unfold splitUnit
  dsimp only
  generalize whole : List.findSome? _ (binaryUnits ++ decimalUnits) = scaled
  cases scaled with
  | some found =>
      obtain ⟨entry, member, stripped⟩ := List.exists_of_findSome?_eq_some whole
      obtain ⟨number, ended, rfl⟩ := Option.map_eq_some_iff.mp stripped
      exact strip_end_keeps entry.1 cs number (units_free entry member) ended comma
  | none =>
      cases part : stripEnd? "m" cs with
      | some number => exact strip_end_keeps "m" cs number (by decide) part comma
      | none => exact comma

theorem parse_comma (s : String) (x : Float) (read : parse? s = some x) : ',' ∉ s.toList := by
  intro comma
  have trimmed := Text.mem_trimmed ',' (by decide) s.toList comma
  have number := split_unit_keeps _ trimmed
  simp only [parse?, Option.ite_none_left_eq_some] at read
  cases value : Reading.floatOfChars? (splitUnit (Text.trimChars s.toList)).1 with
  | none => simp [value] at read
  | some y => exact Reading.float_comma _ y value number

end Quantity

namespace Calendar.Timestamp

theorem digits_keeps (count : Nat) (cs : List Char) (found : Nat × List Char) (read : digits? count cs = some found)
    (comma : ',' ∈ cs) : ',' ∈ found.2 := by
  simp only [digits?, Option.ite_none_right_eq_some, Option.some.injEq, Bool.and_eq_true] at read
  obtain ⟨⟨_, digits⟩, rfl⟩ := read
  rw [← List.take_append_drop count cs, List.mem_append] at comma
  rcases comma with passed | rest
  · exact absurd (List.all_eq_true.mp digits ',' passed) (by decide)
  · exact rest

theorem sign_keeps (c : Char) (cs rest : List Char) (other : ',' ≠ c) (read : sign? c cs = some rest)
    (comma : ',' ∈ cs) : ',' ∈ rest := by
  cases cs with
  | nil => cases comma
  | cons d cs =>
      rw [sign?, Option.ite_none_right_eq_some, Option.some.injEq] at read
      obtain ⟨rfl, rfl⟩ := read
      exact (List.mem_cons.mp comma).resolve_left other

theorem separator_keeps (cs rest : List Char) (read : separator? cs = some rest) (comma : ',' ∈ cs) :
    ',' ∈ rest := by
  unfold separator? at read
  split at read
  case h_4 => cases read
  all_goals
    cases read
    simpa using comma

theorem nanos_keeps (cs : List Char) (found : Nat × List Char) (read : nanos? cs = some found) (comma : ',' ∈ cs) :
    ',' ∈ found.2 := by
  unfold nanos? at read
  split at read
  · rename_i behind
    simp only [Option.ite_none_left_eq_some, Option.some.injEq] at read
    obtain ⟨_, rfl⟩ := read
    exact mem_past Reading.isDigit ',' (by decide) behind (by simpa using comma)
  · cases read
    exact comma

theorem offset_keeps (cs : List Char) (found : Int × List Char) (read : offset? cs = some found) (comma : ',' ∈ cs) :
    ',' ∈ found.2 := by
  cases cs with
  | nil => cases comma
  | cons c cs =>
      simp only [offset?] at read
      split at read
      · rename_i universal
        cases read
        refine (List.mem_cons.mp comma).resolve_left ?_
        rintro rfl
        simp at universal
      · split at read
        · rename_i signed
          have inside : ',' ∈ cs := by
            refine (List.mem_cons.mp comma).resolve_left ?_
            rintro rfl
            simp at signed
          simp only [Option.bind_eq_bind, Option.bind_eq_some_iff] at read
          obtain ⟨hours, hoursRead, rest, colon, minutes, minutesRead, whole⟩ := read
          have behind := digits_keeps 2 _ minutes minutesRead
            (sign_keeps ':' _ rest (by decide) colon (digits_keeps 2 cs hours hoursRead inside))
          split at whole
          · cases whole
          · cases whole
            exact behind
        · cases read

theorem of_chars_comma (cs : List Char) (m : Moment) (read : ofChars? cs = some m) : ',' ∉ cs := by
  intro comma
  rw [ofChars?] at read
  obtain ⟨year, yearRead, read⟩ := Option.bind_eq_some_iff.mp read
  obtain ⟨afterYear, firstDash, read⟩ := Option.bind_eq_some_iff.mp read
  obtain ⟨month, monthRead, read⟩ := Option.bind_eq_some_iff.mp read
  obtain ⟨afterMonth, secondDash, read⟩ := Option.bind_eq_some_iff.mp read
  obtain ⟨day, dayRead, read⟩ := Option.bind_eq_some_iff.mp read
  obtain ⟨afterDay, separator, read⟩ := Option.bind_eq_some_iff.mp read
  obtain ⟨hour, hourRead, read⟩ := Option.bind_eq_some_iff.mp read
  obtain ⟨afterHour, firstColon, read⟩ := Option.bind_eq_some_iff.mp read
  obtain ⟨minute, minuteRead, read⟩ := Option.bind_eq_some_iff.mp read
  obtain ⟨afterMinute, secondColon, read⟩ := Option.bind_eq_some_iff.mp read
  obtain ⟨second, secondRead, read⟩ := Option.bind_eq_some_iff.mp read
  obtain ⟨nanos, nanosRead, read⟩ := Option.bind_eq_some_iff.mp read
  obtain ⟨offset, offsetRead, whole⟩ := Option.bind_eq_some_iff.mp read
  have inMonth := sign_keeps '-' _ afterYear (by decide) firstDash (digits_keeps 4 cs year yearRead comma)
  have inDay := sign_keeps '-' _ afterMonth (by decide) secondDash (digits_keeps 2 _ month monthRead inMonth)
  have inHour := separator_keeps _ afterDay separator (digits_keeps 2 _ day dayRead inDay)
  have inMinute := sign_keeps ':' _ afterHour (by decide) firstColon (digits_keeps 2 _ hour hourRead inHour)
  have inSecond := sign_keeps ':' _ afterMinute (by decide) secondColon (digits_keeps 2 _ minute minuteRead inMinute)
  have inNanos := digits_keeps 2 _ second secondRead inSecond
  have behind := offset_keeps _ offset offsetRead (nanos_keeps _ nanos nanosRead inNanos)
  have unread : offset.2.isEmpty = false := List.isEmpty_eq_false_iff_exists_mem.mpr ⟨',', behind⟩
  simp [unread] at whole

end Calendar.Timestamp

theorem number_no_comma (n : Nat) : ',' ∉ (toString n).toList := by
  rw [Nat.toString_eq_repr, Nat.toList_repr]
  intro comma
  exact absurd (Nat.isDigit_of_mem_toDigits (by decide) (by decide) comma) (by decide)

theorem append_no_comma (s t : String) (first : ',' ∉ s.toList) (second : ',' ∉ t.toList) : ',' ∉ (s ++ t).toList := by
  rw [String.toList_append, List.mem_append]
  exact not_or.mpr ⟨first, second⟩

theorem Fixed.lay_out_no_comma (places units : Nat) : ',' ∉ (layOut places units).toList := by
  have zeros : ',' ∉ (String.ofList (List.replicate (places - (toString (units % Nat.pow 10 places)).length)
      '0')).toList := by
    rw [String.toList_ofList]
    intro comma
    exact absurd (List.eq_of_mem_replicate comma) (by decide)
  exact append_no_comma _ _ (append_no_comma _ _ (append_no_comma _ _ (number_no_comma _) (by decide)) zeros)
    (number_no_comma _)

theorem Quantity.show_bytes_no_comma (n : Nat) : ',' ∉ (showBytes n).toList := by
  unfold showBytes
  by_cases zero : n = 0
  · simp [zero]
  · rw [if_neg zero]
    dsimp only
    split
    · rename_i unit size found
      have member : (unit, size) ∈ binaryUnits ++ decimalUnits :=
        List.mem_append_left _ (List.mem_of_find?_eq_some found)
      exact append_no_comma _ _ (Fixed.lay_out_no_comma 1 _) (units_free _ member)
    · exact append_no_comma _ _ (number_no_comma n) (by decide)

namespace Elapsed

theorem units_no_comma (n rest : Nat) (unit smaller : String) (free : ',' ∉ unit.toList)
    (smallerFree : ',' ∉ smaller.toList) : ',' ∉ (units n unit rest smaller).toList := by
  refine append_no_comma _ _ (append_no_comma _ _ (number_no_comma n) free) ?_
  by_cases zero : rest = 0
  · simp [zero]
  · rw [if_neg zero]
    exact append_no_comma _ _ (number_no_comma rest) smallerFree

theorem describe_past_no_comma (seconds : Nat) : ',' ∉ (describePast seconds).toList := by
  have single (n : Nat) (unit : String) (free : ',' ∉ unit.toList) : ',' ∉ (toString n ++ unit).toList :=
    append_no_comma _ _ (number_no_comma n) free
  unfold describePast
  dsimp only
  split
  · exact single _ "s" (by decide)
  split
  · exact units_no_comma _ _ "m" "s" (by decide) (by decide)
  split
  · exact single _ "m" (by decide)
  split
  · exact units_no_comma _ _ "h" "m" (by decide) (by decide)
  split
  · exact single _ "h" (by decide)
  split
  · exact units_no_comma _ _ "d" "h" (by decide) (by decide)
  split
  · exact single _ "d" (by decide)
  split
  · exact units_no_comma _ _ "y" "d" (by decide) (by decide)
  · exact single _ "y" (by decide)

theorem describe_no_comma (seconds : Int) : ',' ∉ (describe seconds).toList := by
  unfold describe
  split
  · decide
  · split
    · decide
    · exact describe_past_no_comma _

end Elapsed

theorem Cell.age_of_comma (now : Int) (s age : String) (read : ageOf? now s = some age) :
    ',' ∉ s.toList ∧ ',' ∉ age.toList := by
  obtain ⟨m, moment, rfl⟩ := Option.map_eq_some_iff.mp read
  refine ⟨fun comma => ?_, Elapsed.describe_no_comma _⟩
  have inside := Text.mem_trimmed ',' (by decide) s.toList comma
  rw [Calendar.Timestamp.parse?, Text.trim, String.toList_ofList] at moment
  exact Calendar.Timestamp.of_chars_comma _ m moment inside

end LiveTable
