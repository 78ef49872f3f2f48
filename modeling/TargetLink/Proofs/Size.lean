import TargetLink.Address
import TargetLink.Proofs.Text.Blank
import TargetLink.Proofs.Text.Digit
import TargetLink.Size

/-!
# What a size text writes

A size text is read as a number exactly if its digits, behind at most one plus sign, write a word in the base
that its first characters tell. Otherwise the first place decides at which a character is no digit or the
number stops being a word. `appendDigits_cases` carries this through the digits: what stands in front of the
place that is read next is a numeral, and its number is a word.
-/

namespace TargetLink.Size

variable {base n i j : Nat} {c : Char} {cs front back digits : List Char} {fault fault' : SizeFault}
  {text : String} {v : UInt64}

/-! ## The first fault of a numeral -/

/-- The character at the index is no digit, or with it the number stops being a word. -/
inductive FaultAt (base : Nat) (cs : List Char) (i : Nat) : SizeFault → Prop where
  | invalidDigit {c : Char} (char : cs[i]? = some c) (value : digitValue? base c = none) :
    FaultAt base cs i .invalidDigit
  | tooLarge {n : Nat} (lt : i < cs.length) (number : numeral? base (cs.take (i + 1)) = some n)
    (large : UInt64.size ≤ n) : FaultAt base cs i .tooLarge

/-- The fault that comes first, counted from the left. -/
def FirstFault (base : Nat) (cs : List Char) (fault : SizeFault) : Prop :=
  ∃ i, FaultAt base cs i fault ∧ ∀ j < i, ∀ f, ¬ FaultAt base cs j f

theorem FaultAt.lt_length (h : FaultAt base cs i fault) : i < cs.length := by
  cases h with
  | invalidDigit char _ => exact (List.getElem?_eq_some_iff.1 char).1
  | tooLarge lt _ _ => exact lt

/-- Within a numeral whose number is a word there is no fault, whatever comes behind it. -/
theorem not_faultAt_of_front (hfront : numeral? base front = some n) (hn : n < UInt64.size)
    (hj : j < front.length) : ¬ FaultAt base (front ++ back) j fault := by
  intro h
  cases h with
  | invalidDigit char value =>
    rw [List.getElem?_append_left hj] at char
    exact numeral?_ne_of_mem (List.mem_of_getElem? char) value hfront
  | tooLarge _ number large =>
    rw [List.take_append_of_le_length (by omega)] at number
    have hwhole : numeral? base (front.take (j + 1) ++ front.drop (j + 1)) = some n := by
      rw [List.take_append_drop, hfront]
    obtain ⟨m, hm, hpart⟩ := numeral?_front hwhole
    rw [number] at hpart
    cases hpart
    omega

theorem FirstFault.not_word (h : FirstFault base cs fault) (hcs : numeral? base cs = some n) :
    ¬ n < UInt64.size := by
  intro hn
  obtain ⟨i, hfault, -⟩ := h
  rw [← List.append_nil cs] at hfault
  have hlt := hfault.lt_length
  rw [List.append_nil] at hlt
  exact not_faultAt_of_front hcs hn hlt hfault

theorem FaultAt.unique (h : FaultAt base cs i fault) (h' : FaultAt base cs i fault') :
    fault = fault' := by
  have hmem {c : Char} (hc : cs[i]? = some c) : c ∈ cs.take (i + 1) := by
    apply List.mem_of_getElem? (i := i)
    rw [List.getElem?_take_of_lt (Nat.lt_succ_self i), hc]
  cases h with
  | invalidDigit char value =>
    cases h' with
    | invalidDigit _ _ => rfl
    | tooLarge _ number _ => exact absurd number (numeral?_ne_of_mem (hmem char) value)
  | tooLarge _ number _ =>
    cases h' with
    | invalidDigit char value => exact absurd number (numeral?_ne_of_mem (hmem char) value)
    | tooLarge _ _ _ => rfl

theorem FirstFault.unique (h : FirstFault base cs fault) (h' : FirstFault base cs fault') :
    fault = fault' := by
  obtain ⟨i, hi, hbefore⟩ := h
  obtain ⟨i', hi', hbefore'⟩ := h'
  rcases Nat.lt_trichotomy i i' with hlt | rfl | hlt
  · exact absurd hi (hbefore' i hlt fault)
  · exact hi.unique hi'
  · exact absurd hi' (hbefore i' hlt fault')

theorem FirstFault.ne_noDigits (h : FirstFault base cs fault) : fault ≠ .noDigits := by
  obtain ⟨i, hfault, -⟩ := h
  cases hfault with
  | invalidDigit _ _ => exact SizeFault.noConfusion
  | tooLarge _ _ _ => exact SizeFault.noConfusion

/-! ## Reading digits -/

/-- Reading goes on behind a numeral whose number is a word. It ends with the number of all digits, or with
the first fault, which lies behind that numeral. -/
theorem appendDigits_cases (front cs : List Char) (hfront : numeral? base front = some n)
    (hn : n < UInt64.size) :
    (∃ m, numeral? base (front ++ cs) = some m ∧ m < UInt64.size ∧ appendDigits base n cs = .ok m) ∨
    ∃ fault, FirstFault base (front ++ cs) fault ∧ appendDigits base n cs = .error fault := by
  induction cs generalizing front n with
  | nil =>
    rw [List.append_nil]
    exact .inl ⟨n, hfront, hn, rfl⟩
  | cons c cs ih =>
    have hbefore : ∀ j < front.length, ∀ f, ¬ FaultAt base (front ++ c :: cs) j f :=
      fun j hj f => not_faultAt_of_front hfront hn hj
    rw [appendDigits]
    cases hc : digitValue? base c with
    | none => exact .inr ⟨.invalidDigit, ⟨front.length, .invalidDigit (by simp) hc, hbefore⟩, rfl⟩
    | some d =>
      have hnext : numeral? base (front ++ [c]) = some (n * base + d) :=
        numeral?_concat_eq_some_iff.2 ⟨n, d, hfront, hc, rfl⟩
      by_cases hsize : n * base + d < UInt64.size
      · have hrest := ih (front ++ [c]) hnext hsize
        rw [List.append_assoc, List.singleton_append] at hrest
        simpa [hsize] using hrest
      · have htake : (front ++ c :: cs).take (front.length + 1) = front ++ [c] := by
          simp [List.take_append, List.take_of_length_le]
        have hfault : FaultAt base (front ++ c :: cs) front.length .tooLarge := by
          refine .tooLarge (by simp) ?_ (Nat.le_of_not_lt hsize)
          rw [htake, hnext]
        exact .inr ⟨.tooLarge, ⟨front.length, hfault, hbefore⟩, by simp [hsize]⟩

theorem appendDigits_eq_ok_iff :
    appendDigits base 0 cs = .ok n ↔ numeral? base cs = some n ∧ n < UInt64.size := by
  rcases appendDigits_cases [] cs (numeral?_nil base) (by decide) with
    ⟨m, hm, hlt, hok⟩ | ⟨fault, hfault, herr⟩
  · rw [List.nil_append] at hm
    rw [hok, hm]
    constructor
    · intro h
      cases h
      exact ⟨rfl, hlt⟩
    · rintro ⟨h, -⟩
      cases h
      rfl
  · rw [herr]
    constructor
    · intro h
      cases h
    · rintro ⟨hnum, hlt⟩
      exact absurd hlt (hfault.not_word hnum)

theorem appendDigits_eq_error_iff :
    appendDigits base 0 cs = .error fault ↔ FirstFault base cs fault := by
  rcases appendDigits_cases [] cs (numeral?_nil base) (by decide) with
    ⟨m, hm, hlt, hok⟩ | ⟨f, hfault, herr⟩
  · rw [hok]
    constructor
    · intro h
      cases h
    · intro h
      exact absurd hlt (h.not_word hm)
  · rw [herr]
    constructor
    · intro h
      cases h
      exact hfault
    · intro h
      rw [hfault.unique h]

/-- The digits behind a plus sign, if there are any behind it. -/
def behindPlus : List Char → List Char
  | '+' :: c :: cs => c :: cs
  | cs => cs

theorem digitValue?_plus (base : Nat) : digitValue? base '+' = none := by
  simp [digitValue?]

/-- A plus sign that has nothing behind it is read as a digit, and is none. -/
theorem readDigits_eq (h : digits ≠ []) :
    readDigits base digits = appendDigits base 0 (behindPlus digits) := by
  unfold readDigits
  split
  · exact absurd rfl h
  · rw [behindPlus, appendDigits, digitValue?_plus]
    simp
  · next cs hne =>
    cases cs with
    | nil => exact absurd rfl hne
    | cons c cs => rfl
  · next hplus hne =>
    unfold behindPlus
    split
    · exact absurd rfl (hne _)
    · rfl

/-- Digits behind at most one plus sign are what is left when one such sign is dropped, if that is a
numeral. -/
theorem numeral?_behindPlus_iff : behindPlus digits ≠ [] ∧ numeral? base (behindPlus digits) = some n ↔
    ∃ cs, (digits = cs ∨ digits = '+' :: cs) ∧ cs ≠ [] ∧ numeral? base cs = some n := by
  have hplus (cs : List Char) : numeral? base ('+' :: cs) ≠ some n :=
    numeral?_ne_of_mem List.mem_cons_self (digitValue?_plus base)
  constructor
  · rintro ⟨hne, hnum⟩
    refine ⟨behindPlus digits, ?_, hne, hnum⟩
    unfold behindPlus
    split
    · exact .inr rfl
    · exact .inl rfl
  · rintro ⟨cs, rfl | rfl, hne, hnum⟩
    · have hself : behindPlus digits = digits := by
        unfold behindPlus
        split
        · exact absurd hnum (hplus _)
        · rfl
      rw [hself]
      exact ⟨hne, hnum⟩
    · cases cs with
      | nil => exact absurd rfl hne
      | cons c cs => exact ⟨hne, hnum⟩

/-! ## Reading a text -/

/-- The digits of a number and their base, as its first characters tell. -/
def digitsAndBase (t : List Char) : List Char × Nat :=
  if ['0', 'x'] <+: t ∨ ['0', 'X'] <+: t then (t.drop 2, 16)
  else if 1 < t.length ∧ ['0'] <+: t then (t.drop 1, 8)
  else (t, 10)

theorem splitBase_eq (t : List Char) : splitBase t = digitsAndBase t := by
  unfold splitBase
  split
  · simp [digitsAndBase]
  · simp [digitsAndBase]
  · next c cs hx hX =>
    simp [digitsAndBase, Ne.symm hx, Ne.symm hX]
  · next hx hX hzero =>
    cases t with
    | nil => simp [digitsAndBase]
    | cons a t =>
      cases t with
      | nil => simp [digitsAndBase]
      | cons c cs =>
        have ha : '0' ≠ a := fun h => hzero c cs (by rw [h])
        simp [digitsAndBase, ha]

theorem read_eq_ok_iff (h : digitsAndBase (significant text) = (digits, base)) : read text = .ok v ↔
    ∃ cs, (digits = cs ∨ digits = '+' :: cs) ∧ cs ≠ [] ∧ numeral? base cs = some v.toNat := by
  rw [← numeral?_behindPlus_iff, read, splitBase_eq, h]
  by_cases hnil : digits = []
  · subst hnil
    simp [readDigits, behindPlus, Except.map]
  · have hne : behindPlus digits ≠ [] := by
      unfold behindPlus
      split
      · exact List.cons_ne_nil _ _
      · exact hnil
    simp only [readDigits_eq hnil, hne, ne_eq, not_false_eq_true, true_and]
    cases hread : appendDigits base 0 (behindPlus digits) with
    | ok n =>
      obtain ⟨hnum, hlt⟩ := appendDigits_eq_ok_iff.1 hread
      rw [hnum]
      constructor
      · intro hv
        cases hv
        rw [UInt64.toNat_ofNat_of_lt' hlt]
      · intro hv
        cases hv
        simp [Except.map]
    | error fault =>
      constructor
      · intro hv
        cases hv
      · intro hnum
        have hok := appendDigits_eq_ok_iff.2 ⟨hnum, v.toNat_lt⟩
        rw [hread] at hok
        cases hok

theorem read_eq_error_iff (h : digitsAndBase (significant text) = (digits, base)) :
    read text = .error fault ↔ (digits = [] ∧ fault = .noDigits) ∨
      (digits ≠ [] ∧ FirstFault base (behindPlus digits) fault) := by
  have hread : read text = (readDigits base digits).map UInt64.ofNat := by
    rw [read, splitBase_eq, h]
  have hmap (e : Except SizeFault Nat) :
      e.map UInt64.ofNat = .error fault ↔ e = .error fault := by
    cases e <;> simp [Except.map]
  rw [hread, hmap]
  by_cases hnil : digits = []
  · subst hnil
    simp [readDigits, eq_comm]
  · rw [readDigits_eq hnil, appendDigits_eq_error_iff]
    simp [hnil]

theorem faultMessage_inj : faultMessage text fault = faultMessage text fault' ↔ fault = fault' := by
  cases fault <;> cases fault' <;>
    simp [faultMessage, String.append_assoc, String.append_right_inj]

theorem mapError_read_eq_ok_iff :
    (read text).mapError (faultMessage text) = .ok v ↔ read text = .ok v := by
  cases read text with
  | ok u => simp [Except.mapError]
  | error f => simp [Except.mapError]

/-- The message tells the fault. -/
theorem mapError_read_eq_error_iff :
    (read text).mapError (faultMessage text) = .error (faultMessage text fault) ↔
      read text = .error fault := by
  cases read text with
  | ok v => simp [Except.mapError]
  | error f => simp [Except.mapError, faultMessage_inj]

/-! ## The ways to write a word -/

/-- A word in hexadecimal behind `0x`, in decimal, and in octal behind a zero. -/
def spellings (v : UInt64) : List String :=
  [toString (TargetAddr.mk v), toString v.toNat, "0" ++ String.ofList (Nat.toDigits 8 v.toNat)]

theorem isBlank_of_digitValue? {d : Nat} (h : digitValue? base c = some d) : isBlank c = false := by
  have hrange : 0x30 ≤ c.toNat ∧ c.toNat ≤ 0x66 := by
    obtain ⟨hvalue, -⟩ := Option.filter_eq_some_iff.1 h
    simp only [Char.le_def, UInt32.le_iff_toNat_le] at hvalue
    split at hvalue
    · next hdigit => exact ⟨hdigit.1, Nat.le_trans hdigit.2 (by decide)⟩
    · split at hvalue
      · next hlower => exact ⟨Nat.le_trans (by decide) hlower.1, hlower.2⟩
      · split at hvalue
        · next hupper => exact ⟨Nat.le_trans (by decide) hupper.1, Nat.le_trans hupper.2 (by decide)⟩
        · cases hvalue
  simp only [isBlank, Bool.or_eq_false_iff, Bool.and_eq_false_iff, beq_eq_false_iff_ne,
    decide_eq_false_iff_not]
  omega

theorem isBlank_of_mem_toDigits {b : Nat} (hlt : 1 < b) (hle : b ≤ 16)
    (hc : c ∈ Nat.toDigits b n) : isBlank c = false := by
  obtain ⟨d, hd⟩ := exists_digitValue?_of_mem (numeral?_toDigits hlt hle n) hc
  exact isBlank_of_digitValue? hd

theorem toList_of_mem_spellings {s : String} (hs : s ∈ spellings v) :
    s.toList = '0' :: 'x' :: Nat.toDigits 16 v.toNat ∨ s.toList = Nat.toDigits 10 v.toNat ∨
      s.toList = '0' :: Nat.toDigits 8 v.toNat := by
  simp only [spellings, List.mem_cons, List.not_mem_nil, or_false] at hs
  rcases hs with rfl | rfl | rfl
  · exact .inl (by simp [toString, hex, TargetAddr.toNat])
  · exact .inr (.inl (by simp))
  · exact .inr (.inr (by simp))

theorem isBlank_of_mem_spelling {s : String} (hs : s ∈ spellings v) (hc : c ∈ s.toList) :
    isBlank c = false := by
  rcases toList_of_mem_spellings hs with hlist | hlist | hlist <;> rw [hlist] at hc
  · rcases List.mem_cons.1 hc with rfl | hc
    · decide
    rcases List.mem_cons.1 hc with rfl | hc
    · decide
    exact isBlank_of_mem_toDigits (by decide) (by decide) hc
  · exact isBlank_of_mem_toDigits (by decide) (by decide) hc
  · rcases List.mem_cons.1 hc with rfl | hc
    · decide
    exact isBlank_of_mem_toDigits (by decide) (by decide) hc

/-- Every spelling of a word begins in a way that tells the base of its digits. -/
theorem digitsAndBase_spelling {s : String} (hs : s ∈ spellings v) : ∃ digits base,
    digitsAndBase s.toList = (digits, base) ∧ digits ≠ [] ∧ numeral? base digits = some v.toNat := by
  rcases toList_of_mem_spellings hs with hlist | hlist | hlist <;> rw [hlist]
  · refine ⟨Nat.toDigits 16 v.toNat, 16, ?_, Nat.toDigits_ne_nil, ?_⟩
    · simp [digitsAndBase]
    · exact numeral?_toDigits (by decide) (by decide) _
  · refine ⟨Nat.toDigits 10 v.toNat, 10, ?_, Nat.toDigits_ne_nil, ?_⟩
    · rcases Nat.eq_zero_or_pos v.toNat with hzero | hpos
      · rw [hzero]
        decide
      · have hhead : (Nat.toDigits 10 v.toNat).head? ≠ some '0' :=
          head?_toDigits_ne (by decide) (by decide) hpos
        cases hdigits : Nat.toDigits 10 v.toNat with
        | nil => exact absurd hdigits Nat.toDigits_ne_nil
        | cons c cs =>
          have hc : '0' ≠ c := by
            rintro rfl
            exact hhead (by rw [hdigits]; rfl)
          simp [digitsAndBase, hc]
    · exact numeral?_toDigits (by decide) (by decide) _
  · refine ⟨Nat.toDigits 8 v.toNat, 8, ?_, Nat.toDigits_ne_nil, ?_⟩
    · have hnum : numeral? 8 (Nat.toDigits 8 v.toNat) = some v.toNat :=
        numeral?_toDigits (by decide) (by decide) _
      cases hdigits : Nat.toDigits 8 v.toNat with
      | nil => exact absurd hdigits Nat.toDigits_ne_nil
      | cons c cs =>
        obtain ⟨d, hd⟩ := exists_digitValue?_of_mem (hdigits ▸ hnum) List.mem_cons_self
        have hx : 'x' ≠ c := by
          rintro rfl
          cases hd
        have hX : 'X' ≠ c := by
          rintro rfl
          cases hd
        simp [digitsAndBase, hx, hX]
    · exact numeral?_toDigits (by decide) (by decide) _

/-- Underscores in a spelling and blanks around it do not change what is read. -/
theorem read_spelling {body : List Char} (hblank : ∀ c ∈ front ++ back, isBlank c = true)
    (hbody : String.ofList (body.filter (· != '_')) ∈ spellings v) :
    read (String.ofList (front ++ body ++ back)) = .ok v := by
  have hnone : ∀ c ∈ body, isBlank c = false := by
    intro c hc
    by_cases hunder : c = '_'
    · rw [hunder]
      decide
    · apply isBlank_of_mem_spelling hbody
      rw [String.toList_ofList]
      exact List.mem_filter.2 ⟨hc, by simpa using hunder⟩
  have htrims : Trims (front ++ body ++ back) body :=
    ⟨⟨front, back, rfl, hblank⟩, fun c hc => hnone c (List.mem_of_mem_head? hc),
      fun c hc => hnone c (List.mem_of_mem_getLast? hc)⟩
  have hsig : significant (String.ofList (front ++ body ++ back)) = body.filter (· != '_') := by
    rw [significant, String.toList_ofList, htrims.trimBlank_eq]
  obtain ⟨digits, base, hsplit, hne, hnum⟩ := digitsAndBase_spelling hbody
  rw [String.toList_ofList] at hsplit
  rw [read_eq_ok_iff (by rw [hsig, hsplit])]
  exact ⟨digits, .inl rfl, hne, hnum⟩

/-- Whatever the text, it is judged by what is left of it without the blanks around it and without
underscores. The first characters tell the base, and the rest are the digits. The text is read as a word exactly if
the digits, with at most one plus sign dropped in front of them, are a numeral of this base that writes the
word. It is refused as no number exactly if there are no digits, and otherwise for the first fault in the
digits behind the plus sign. All spellings of a word, with underscores and with blanks around them, are read
as this word. -/
theorem read_exactly :
    (∀ text : String,
      let answer := (read text).mapError (faultMessage text)
      ∃ core digits base, Trims text.toList core ∧
        digitsAndBase (core.filter (· != '_')) = (digits, base) ∧
        (∀ v : UInt64, answer = .ok v ↔
          ∃ cs, (digits = cs ∨ digits = '+' :: cs) ∧ cs ≠ [] ∧ numeral? base cs = some v.toNat) ∧
        (answer = .error ("'" ++ text ++ "' is not a number") ↔ digits = []) ∧
        (answer = .error ("'" ++ text ++ "': invalid digit found in string") ↔
          digits ≠ [] ∧ FirstFault base (behindPlus digits) .invalidDigit) ∧
        (answer = .error ("'" ++ text ++ "': number too large to fit in target type") ↔
          digits ≠ [] ∧ FirstFault base (behindPlus digits) .tooLarge)) ∧
    ∀ (v : UInt64) (front body back : List Char), (∀ c ∈ front ++ back, isBlank c = true) →
      String.ofList (body.filter (· != '_')) ∈ spellings v →
      read (String.ofList (front ++ body ++ back)) = .ok v := by
  refine ⟨fun text => ?_, fun v front body back hblank hbody => read_spelling hblank hbody⟩
  intro answer
  obtain ⟨digits, base, hsplit⟩ : ∃ digits base, digitsAndBase (significant text) = (digits, base) :=
    ⟨_, _, rfl⟩
  refine ⟨trimBlank text.toList, digits, base, trims_trimBlank _, hsplit, ?_, ?_, ?_, ?_⟩
  · intro v
    rw [mapError_read_eq_ok_iff, read_eq_ok_iff hsplit]
  · have hfault : answer = .error (faultMessage text .noDigits) ↔ _ :=
      mapError_read_eq_error_iff.trans (read_eq_error_iff hsplit)
    refine hfault.trans ⟨?_, fun hnil => .inl ⟨hnil, rfl⟩⟩
    rintro (⟨hnil, -⟩ | ⟨-, hfirst⟩)
    · exact hnil
    · exact absurd rfl hfirst.ne_noDigits
  · have hfault : answer = .error (faultMessage text .invalidDigit) ↔ _ :=
      mapError_read_eq_error_iff.trans (read_eq_error_iff hsplit)
    exact hfault.trans (by simp)
  · have hfault : answer = .error (faultMessage text .tooLarge) ↔ _ :=
      mapError_read_eq_error_iff.trans (read_eq_error_iff hsplit)
    exact hfault.trans (by simp)

end TargetLink.Size
